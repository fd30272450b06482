import MxDriver.DmaSystem

/-!
# What a step does to one transfer

A step changes at most one transfer, apart from the last collection of zombies.  This
file takes the state apart into what each thread has to do with one transfer, lists
the moves that this view can make, and shows that every step makes one of them.
-/

namespace MxDriver

/-- A transfer with the threads that point at it. -/
structure DmaView (κ : Type*) where
  transfer : DmaTransfer κ
  waiter : Waiter
  submitting : Option SubmitStage
  popped : Option Nat
  holding : Option CompleteStage
  draining : Option DrainStage
  listed : Bool
  safe : Bool

namespace DmaSystem

variable {τ κ : Type*} [DecidableEq τ]

/-- The stage of a thread that may point at a transfer. -/
def stageAt {β : Type*} (thread : Option (τ × β)) (index : τ) : Option β :=
  match thread with
  | none => none
  | some (pointed, stage) => if pointed = index then some stage else none

@[simp]
theorem stageAt_none {β : Type*} (index : τ) : stageAt (none : Option (τ × β)) index = none := rfl

@[simp]
theorem stageAt_self {β : Type*} (index : τ) (stage : β) :
    stageAt (some (index, stage)) index = some stage := if_pos rfl

theorem stageAt_of_ne {β : Type*} {index other : τ} (distinct : other ≠ index) (stage : β) :
    stageAt (some (index, stage)) other = none := if_neg distinct.symm

def poppedAt (thread : CompleteThread τ) (index : τ) : Option Nat :=
  match thread with
  | .popped sender id => if sender = index then some id else none
  | _ => none

def holdingAt (thread : CompleteThread τ) (index : τ) : Option CompleteStage :=
  match thread with
  | .holding pointed stage => if pointed = index then some stage else none
  | _ => none

def view (system : DmaSystem τ κ) (index : τ) : DmaView κ where
  transfer := system.transfer index
  waiter := system.waiter index
  submitting := stageAt system.submit index
  popped := poppedAt system.complete index
  holding := holdingAt system.complete index
  draining := stageAt system.cleaner index
  listed := decide (system.idTable (system.transfer index).id = some index)
  safe := system.dmaReclaimSafe

end DmaSystem

/-- The stage after a statement of the teardown. -/
def ReleaseStage.next : ReleaseStage → Option ReleaseStage
  | desc => some sg
  | sg => some id
  | id => some lease
  | lease => some slab
  | slab => none

/-- What a statement of the teardown does to the transfer and to its entry in the id
table. -/
def DmaView.afterRelease {κ : Type*} (view : DmaView κ) : ReleaseStage → DmaView κ
  | .desc | .lease => view
  | .sg => { view with transfer := { view.transfer with holdsRef := false } }
  | .id => { view with listed := false }
  | .slab => { view with transfer := { view.transfer with frees := view.transfer.frees + 1 } }

/-- The moves of one transfer, with the changes of `wait_count` and
`zombie_wait_count`. -/
inductive DmaMove {κ : Type*} : DmaView κ → DmaView κ → Int → Int → Prop
  | allocate {view : DmaView κ} {sgCtx : Option κ} {noCompletion : Bool} {id : Nat}
      (unused : view.waiter = .unused) (below : id < mxPingId)
      (silent : noCompletion = true → sgCtx = none) :
      DmaMove view
        { view with
          transfer := {
            sgCtx := sgCtx, noCompletion := noCompletion, id := id, holdsRef := sgCtx.isSome }
          waiter := .prepared
          listed := true } 0 0
  | abandon {view : DmaView κ} (prepared : view.waiter = .prepared) :
      DmaMove view { view with waiter := .releasing .desc } 0 0
  | queue {view : DmaView κ} (prepared : view.waiter = .prepared) :
      DmaMove view
        { view with
          transfer := { view.transfer with onSq := true, done := false, queued := true }
          waiter := .submitted } 0 0
  | startWait {view : DmaView κ} (submitted : view.waiter = .submitted) :
      DmaMove view { view with waiter := .waiting } 0 0
  | take {view : DmaView κ} (onSq : view.transfer.onSq = true) :
      DmaMove view
        { view with
          transfer := { view.transfer with onSq := false }
          submitting := some .count } 0 0
  | count {view : DmaView κ} (stage : view.submitting = some .count) :
      DmaMove view { view with submitting := some .push }
        (if view.transfer.noCompletion then 0 else 1) 0
  | pushSilent {view : DmaView κ} (stage : view.submitting = some .push)
      (silent : view.transfer.noCompletion = true) :
      DmaMove view
        { view with
          transfer := { view.transfer with command := .silent }
          submitting := some .signal } 0 0
  | push {view : DmaView κ} (stage : view.submitting = some .push)
      (reports : view.transfer.noCompletion = false) :
      DmaMove view
        { view with
          transfer := { view.transfer with command := .owned }
          submitting := none } 0 0
  | signal {view : DmaView κ} (stage : view.submitting = some .signal) :
      DmaMove view
        { view with
          transfer := { view.transfer with done := true }
          submitting := none } 0 0
  | deviceComplete {view : DmaView κ} (owned : view.transfer.command = .owned) :
      DmaMove view { view with transfer := { view.transfer with command := .posted } } 0 0
  | pop {view : DmaView κ} (posted : view.transfer.command = .posted)
      (free : view.holding = none) (running : view.safe = false) :
      DmaMove view
        { view with
          transfer := { view.transfer with command := .reported }
          popped :=
            if view.transfer.id = mxPingId then none else some view.transfer.id } 0 0
  | claim {view : DmaView κ} (popped : view.popped = some view.transfer.id)
      (listed : view.listed = true) (unclaimed : view.transfer.waitClaimed = false) :
      DmaMove view
        { view with
          transfer := { view.transfer with waitClaimed := true, claimed := true }
          popped := none
          holding := some .uncount
          listed := false } 0 0
  | uncount {view : DmaView κ} (stage : view.holding = some .uncount) :
      DmaMove view { view with holding := some .check } (-1) 0
  | check {view : DmaView κ} (stage : view.holding = some .check) :
      DmaMove view
        { view with
          holding := if view.transfer.isZombie then none else some .deliver } 0 0
  | deliver {view : DmaView κ} (stage : view.holding = some .deliver) :
      DmaMove view { view with holding := some .signal } 0 0
  | complete {view : DmaView κ} (stage : view.holding = some .signal) :
      DmaMove view
        { view with
          transfer := { view.transfer with done := true }
          holding := none } 0 0
  | observe {view : DmaView κ}
      (waits : view.waiter = .waiting ∨ view.waiter = .late ∨ view.waiter = .handOff)
      (done : view.transfer.done = true) :
      DmaMove view { view with waiter := .releasing .desc } 0 0
  | expire {view : DmaView κ} (waiting : view.waiter = .waiting)
      (pending : view.transfer.done = false) :
      DmaMove view { view with waiter := .expired } 0 0
  | remove {view : DmaView κ} (expired : view.waiter = .expired)
      (free : view.submitting = none) (onSq : view.transfer.onSq = true) :
      DmaMove view
        { view with
          transfer := { view.transfer with onSq := false, removed := true }
          waiter := .releasing .desc } 0 0
  | handOff {view : DmaView κ} (expired : view.waiter = .expired)
      (free : view.submitting = none) (taken : view.transfer.onSq = false)
      (silent : view.transfer.noCompletion = true) :
      DmaMove view { view with waiter := .handOff } 0 0
  | wait {view : DmaView κ} {waiter : Waiter} (expired : view.waiter = .expired)
      (free : view.submitting = none) (taken : view.transfer.onSq = false)
      (reports : view.transfer.noCompletion = false)
      (next : waiter = .late ∨ waiter = .parking .mark) :
      DmaMove view { view with waiter := waiter } 0 0
  | giveUp {view : DmaView κ} (late : view.waiter = .late)
      (pending : view.transfer.done = false) :
      DmaMove view { view with waiter := .parking .mark } 0 0
  | mark {view : DmaView κ} (stage : view.waiter = .parking .mark) :
      DmaMove view
        { view with
          transfer := { view.transfer with isZombie := true }
          waiter := .parking .count } 0 0
  | parkCount {view : DmaView κ} (stage : view.waiter = .parking .count) :
      DmaMove view { view with waiter := .parking .enlist } 0 1
  | enlist {view : DmaView κ} (stage : view.waiter = .parking .enlist) :
      DmaMove view
        { view with
          transfer := { view.transfer with zombieEntry := .zombieList }
          waiter := .gone } 0 0
  | release {view : DmaView κ} {stage : ReleaseStage} (waiter : view.waiter = .releasing stage)
      (unlocked : stage = .id → view.holding = none) :
      DmaMove view
        { view.afterRelease stage with
          waiter :=
            match stage.next with
            | some stage => .releasing stage
            | none => .gone } 0 0
  | inspect {view : DmaView κ} (entry : view.transfer.zombieEntry = .zombieList)
      (claimed : view.transfer.waitClaimed = true) (free : view.draining = none) :
      DmaMove view
        { view with transfer := { view.transfer with zombieEntry := .toCleanup } } 0 0
  | drain {view : DmaView κ} (entry : view.transfer.zombieEntry = .toCleanup)
      (free : view.draining = none) :
      DmaMove view { view with draining := some .swap } 0 0
  | swap {view : DmaView κ} (stage : view.draining = some .swap) :
      DmaMove view
        { view with
          transfer := { view.transfer with waitClaimed := true }
          draining := some (.unlink !view.transfer.waitClaimed) } 0 0
  | unlink {view : DmaView κ} {claimed : Bool} (stage : view.draining = some (.unlink claimed)) :
      DmaMove view
        { view with
          transfer := { view.transfer with zombieEntry := .unlinked }
          draining := some (.uncount claimed) } 0 0
  | drainUncount {view : DmaView κ} {claimed : Bool}
      (stage : view.draining = some (.uncount claimed)) :
      DmaMove view { view with draining := some .unpark } (-if claimed then 1 else 0) 0
  | unpark {view : DmaView κ} (stage : view.draining = some .unpark) :
      DmaMove view { view with draining := some .cancel } 0 (-1)
  | cancel {view : DmaView κ} (stage : view.draining = some .cancel) :
      DmaMove view { view with draining := some (.release .desc) } 0 0
  | drainRelease {view : DmaView κ} {stage : ReleaseStage}
      (draining : view.draining = some (.release stage))
      (unlocked : stage = .id → view.holding = none) :
      DmaMove view
        { view.afterRelease stage with
          draining := stage.next.map DrainStage.release } 0 0

/-- A transfer gets its id and its mapping when it is allocated. -/
theorem DmaMove.fixed {κ : Type*} {view next : DmaView κ} {waitDelta zombieDelta : Int}
    (moves : DmaMove view next waitDelta zombieDelta) (used : view.waiter ≠ .unused) :
    next.transfer.id = view.transfer.id ∧ next.transfer.sgCtx = view.transfer.sgCtx := by
  cases moves with
  | allocate unused => exact (used unused).elim
  | release =>
    rename_i stage _ _
    cases stage <;> exact ⟨rfl, rfl⟩
  | drainRelease =>
    rename_i stage _ _
    cases stage <;> exact ⟨rfl, rfl⟩
  | _ => exact ⟨rfl, rfl⟩

end MxDriver
