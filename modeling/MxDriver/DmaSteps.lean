import MxDriver.DmaViewDrain

/-!
# Steps as moves of one transfer

Given what holds of every transfer, a step of the submit thread or of the complete
thread moves one transfer and leaves the view of the others alone.
-/

namespace MxDriver

variable {τ κ : Type*} [DecidableEq τ] [DecidableEq κ]

/-- What happens to the mappings when a transfer takes or puts its reference. -/
def followRef (context : κ → SgShare) (before after : DmaTransfer κ) : κ → SgShare :=
  match before.holdsRef, after.holdsRef, before.sgCtx, after.sgCtx with
  | false, true, _, some taken => Function.update context taken (context taken).get
  | true, false, some put, _ => Function.update context put (context put).put
  | _, _, _, _ => context

theorem followRef_of_eq (context : κ → SgShare) {before after : DmaTransfer κ}
    (same : after.holdsRef = before.holdsRef) : followRef context before after = context := by
  unfold followRef
  split <;> simp_all

namespace DmaSystem

section Parts

variable {system : DmaSystem τ κ} {index : τ}

omit [DecidableEq κ]

theorem view_setWaiter (waiter : Waiter) :
    (system.setWaiter index waiter).view index = { system.view index with waiter := waiter } := by
  simp only [view, setWaiter, Function.update_self]
  rfl

theorem view_setWaiter_of_ne (waiter : Waiter) {other : τ} (distinct : other ≠ index) :
    (system.setWaiter index waiter).view other = system.view other := by
  simp only [view, setWaiter, Function.update_of_ne distinct]
  rfl

theorem view_setTransfer {transfer : DmaTransfer κ}
    (id : transfer.id = (system.transfer index).id) :
    (system.setTransfer index transfer).view index =
      { system.view index with transfer := transfer } := by
  simp only [view, setTransfer, Function.update_self, id]

theorem view_setTransfer_of_ne (transfer : DmaTransfer κ) {other : τ} (distinct : other ≠ index) :
    (system.setTransfer index transfer).view other = system.view other := by
  simp only [view, setTransfer, Function.update_of_ne distinct]

end Parts

/-- The queue stops only while its threads are idle, and they stay so. -/
structure QueueMoves (system next : DmaSystem τ κ) : Prop where
  stops : next.queueStopped = true → system.queueStopped = false →
    next.submit = none ∧ next.complete = .idle := by
      exact fun stopped running => by cases running.symm.trans stopped
  stays : system.queueStopped = true → next.queueStopped = true ∧
    (system.submit = none ∧ system.complete = .idle →
      next.submit = none ∧ next.complete = .idle) := by
      exact fun stopped => ⟨stopped, fun idle => idle⟩
  safe : next.dmaReclaimSafe = system.dmaReclaimSafe := by rfl

omit [DecidableEq τ] [DecidableEq κ] in
/-- A thread that works is not that of a stopped queue. -/
theorem queueMoves_of_working {system next : DmaSystem τ κ}
    (working : system.submit ≠ none ∨ system.complete ≠ .idle)
    (queueStopped : next.queueStopped = system.queueStopped := by rfl)
    (safe : next.dmaReclaimSafe = system.dmaReclaimSafe := by rfl) : QueueMoves system next where
  stops stopped running := by cases running.symm.trans (queueStopped.symm.trans stopped)
  stays stopped := ⟨queueStopped.trans stopped, fun idle => by simp [idle] at working⟩
  safe := safe

/-- One transfer makes a move and the rest of the state follows it. -/
structure MovesAt (system next : DmaSystem τ κ) (index : τ) (view : DmaView κ)
    (waitDelta zombieDelta : Int) : Prop where
  moves : DmaMove (system.view index) view waitDelta zombieDelta
  view_eq : next.view index = view
  others : ∀ other, other ≠ index → next.view other = system.view other
  waitCount : next.waitCount = system.waitCount + waitDelta := by
    simp [setTransfer, setWaiter]
  zombieWaitCount : next.zombieWaitCount = system.zombieWaitCount + zombieDelta := by
    simp [setTransfer, setWaiter]
  context : next.context = followRef system.context (system.transfer index) view.transfer := by
    exact (followRef_of_eq _ rfl).symm
  creator : view.transfer.holdsRef = true → (system.transfer index).holdsRef = false →
    ∀ context, view.transfer.sgCtx = some context → (system.context context).creator = true := by
      exact fun held free => by cases held.symm.trans free
  table : ∀ id other, next.idTable id = some other →
    system.idTable id = some other ∨ other = index ∧ id = view.transfer.id := by
      exact fun _ _ entry => .inl entry
  queue : QueueMoves system next := by exact {}

section Moves

variable {system next : DmaSystem τ κ} {index : τ}

theorem movesAt_setWaiter {waiter : Waiter}
    (moves : DmaMove (system.view index) { system.view index with waiter := waiter } 0 0) :
    MovesAt system (system.setWaiter index waiter) index
      { system.view index with waiter := waiter } 0 0 where
  moves := moves
  view_eq := view_setWaiter waiter
  others _ distinct := view_setWaiter_of_ne waiter distinct

theorem movesAt_setTransfer {transfer : DmaTransfer κ}
    (moves : DmaMove (system.view index) { system.view index with transfer := transfer } 0 0)
    (id : transfer.id = (system.transfer index).id)
    (holdsRef : transfer.holdsRef = (system.transfer index).holdsRef) :
    MovesAt system (system.setTransfer index transfer) index
      { system.view index with transfer := transfer } 0 0 where
  moves := moves
  view_eq := view_setTransfer id
  others _ distinct := view_setTransfer_of_ne transfer distinct
  context := (followRef_of_eq _ holdsRef).symm
  creator held free := by cases held.symm.trans (holdsRef.trans free)

theorem movesAt_both {transfer : DmaTransfer κ} {waiter : Waiter}
    (moves : DmaMove (system.view index)
      { system.view index with transfer := transfer, waiter := waiter } 0 0)
    (id : transfer.id = (system.transfer index).id)
    (holdsRef : transfer.holdsRef = (system.transfer index).holdsRef) :
    MovesAt system ((system.setTransfer index transfer).setWaiter index waiter) index
      { system.view index with transfer := transfer, waiter := waiter } 0 0 where
  moves := moves
  view_eq := by rw [view_setWaiter, view_setTransfer id]
  others _ distinct := by
    rw [view_setWaiter_of_ne waiter distinct, view_setTransfer_of_ne transfer distinct]
  context := (followRef_of_eq _ holdsRef).symm
  creator held free := by cases held.symm.trans (holdsRef.trans free)

end Moves

/-- Some transfer moves. -/
def Moves (system next : DmaSystem τ κ) : Prop :=
  ∃ index view waitDelta zombieDelta, MovesAt system next index view waitDelta zombieDelta

theorem MovesAt.moves_any {system next : DmaSystem τ κ} {index : τ} {view : DmaView κ}
    {waitDelta zombieDelta : Int} (moved : MovesAt system next index view waitDelta zombieDelta) :
    Moves system next :=
  ⟨index, view, waitDelta, zombieDelta, moved⟩

section Threads

variable {system next : DmaSystem τ κ} {index : τ}

theorem submitTake_moves (step : system.submitTake index = some next) : Moves system next := by
  unfold submitTake at step
  split at step
  · rename_i guard
    cases step
    exact MovesAt.moves_any {
      moves := .take guard.2.2
      view_eq := by simp only [view, setTransfer, Function.update_self, stageAt_self]
      others := fun other distinct => by
        simp only [view, setTransfer, Function.update_of_ne distinct, stageAt_of_ne distinct,
          guard.2.1, stageAt_none]
      queue := { stays := fun stopped => by cases guard.1.symm.trans stopped } }
  · cases step

theorem submitNext_moves (step : system.submitNext = some next) : Moves system next := by
  unfold submitNext at step
  split at step
  · cases step
  · rename_i index pointed
    cases step
    exact MovesAt.moves_any {
      moves := .count (by simp only [view, pointed, stageAt_self])
      view_eq := by simp only [view, stageAt_self]
      others := fun other distinct => by
        simp only [view, pointed, stageAt_of_ne distinct]
      waitCount := rfl
      queue := queueMoves_of_working (.inl (by simp [pointed])) }
  · rename_i index pointed
    have stage : (system.view index).submitting = some .push := by
      simp only [view, pointed, stageAt_self]
    split at step
    · rename_i silent
      cases step
      exact MovesAt.moves_any {
        moves := .pushSilent stage silent
        view_eq := by simp only [view, setTransfer, Function.update_self, stageAt_self]
        others := fun other distinct => by
          simp only [view, setTransfer, Function.update_of_ne distinct, stageAt_of_ne distinct,
            pointed]
        queue := queueMoves_of_working (.inl (by simp [pointed])) }
    · rename_i reports
      cases step
      exact MovesAt.moves_any {
        moves := .push stage (eq_false_of_ne_true reports)
        view_eq := by simp only [view, setTransfer, Function.update_self, stageAt_none]
        others := fun other distinct => by
          simp only [view, setTransfer, Function.update_of_ne distinct, stageAt_of_ne distinct,
            pointed, stageAt_none]
        queue := queueMoves_of_working (.inl (by simp [pointed])) }
  · rename_i index pointed
    have stage : (system.view index).submitting = some .signal := by
      simp only [view, pointed, stageAt_self]
    cases step
    exact MovesAt.moves_any {
      moves := .signal stage
      view_eq := by simp only [view, setTransfer, Function.update_self, stageAt_none]
      others := fun other distinct => by
        simp only [view, setTransfer, Function.update_of_ne distinct, stageAt_of_ne distinct,
          pointed, stageAt_none]
      queue := queueMoves_of_working (.inl (by simp [pointed])) }

theorem pop_moves (stopped : system.dmaReclaimSafe = true → system.queueStopped = true)
    (step : system.pop index = some next) : Moves system next := by
  unfold pop at step
  split at step
  · rename_i guard
    obtain ⟨running, idle, posted⟩ := guard
    have safe : (system.view index).safe = false := by
      apply eq_false_of_ne_true
      intro safe
      cases running.symm.trans (stopped safe)
    cases step
    exact MovesAt.moves_any {
      moves := .pop posted (by simp only [view, idle, holdingAt]) safe
      view_eq := by
        simp only [view, setTransfer, Function.update_self, idle, holdingAt]
        split <;> simp [poppedAt]
      others := fun other distinct => by
        simp only [view, setTransfer, Function.update_of_ne distinct, idle, holdingAt]
        split <;> simp [poppedAt, distinct.symm]
      queue := { stays := fun stopped => by cases running.symm.trans stopped } }
  · cases step

omit [DecidableEq τ] in
theorem table_clear_iff {table : Nat → Option τ} {id : Nat} {index other : τ}
    (entry : table id = some index) (distinct : other ≠ index) (at_ : Nat) :
    Function.update table id none at_ = some other ↔ table at_ = some other := by
  by_cases same : at_ = id
  · subst same
    simp [entry, distinct.symm]
  · simp [same]

omit [DecidableEq τ] in
theorem entry_of_clear {table : Nat → Option τ} {id at_ : Nat} {index : τ}
    (entry : Function.update table id none at_ = some index) : table at_ = some index := by
  by_cases same : at_ = id
  · simp [same] at entry
  · simpa [same] using entry

omit [DecidableEq κ] in
/-- The table still lists the transfer that a popped completion came from. -/
theorem entry_of_popped {sender : τ} {id : Nat} (ok : (system.view sender).Ok)
    (popped : system.complete = .popped sender id) :
    id = (system.transfer sender).id ∧ system.idTable id = some sender ∧
      (system.transfer sender).waitClaimed = false ∧
      (system.transfer sender).claimed = false := by
  have pointed : (system.view sender).popped = some id := by simp [view, popped, poppedAt]
  obtain ⟨listed, unclaimed, -⟩ := ok.listed_of_popped pointed
  have idEq : id = (system.transfer sender).id := (ok.popped id pointed).1
  exact ⟨idEq, by simpa [view, idEq] using listed, unclaimed, (ok.listed.mp listed).2.1⟩

theorem claim_moves (ok : ∀ index, (system.view index).Ok) (step : system.claim = some next) :
    Moves system next := by
  unfold claim at step
  split at step
  · rename_i sender id popped
    obtain ⟨idEq, entry, waits, -⟩ := entry_of_popped (ok sender) popped
    simp only [entry, waits] at step
    cases step
    exact MovesAt.moves_any {
      moves := .claim (by simp [view, popped, poppedAt, idEq])
        (by simp [view, ← idEq, entry]) waits
      view_eq := by
        simp [view, setTransfer, poppedAt, holdingAt, idEq]
      others := fun other distinct => by
        simp [view, setTransfer, distinct, distinct.symm, popped, poppedAt, holdingAt,
          table_clear_iff entry distinct]
      table := fun _ _ entry => .inl (entry_of_clear entry)
      queue := queueMoves_of_working (.inr (by simp [popped])) }
  · cases step

theorem completeNext_effect (step : system.completeNext = some next) :
    Moves system next ∨
      system.complete = .unlocking ∧ next = { system with complete := .idle } := by
  unfold completeNext at step
  split at step
  · rename_i index pointed
    have stage : (system.view index).holding = some .uncount := by
      simp [view, pointed, holdingAt]
    cases step
    exact .inl (MovesAt.moves_any {
      moves := .uncount stage
      view_eq := by simp [view, pointed, poppedAt, holdingAt]
      others := fun other distinct => by
        simp [view, distinct.symm, pointed, poppedAt, holdingAt]
      waitCount := rfl
      queue := queueMoves_of_working (.inr (by simp [pointed])) })
  · rename_i index pointed
    have stage : (system.view index).holding = some .check := by
      simp [view, pointed, holdingAt]
    cases step
    refine .inl (MovesAt.moves_any {
      moves := .check stage
      view_eq := ?_
      others := fun other distinct => ?_
      queue := queueMoves_of_working (.inr (by simp [pointed])) })
    · cases zombie : (system.transfer index).isZombie <;>
        simp [view, pointed, poppedAt, holdingAt, zombie]
    · cases zombie : (system.transfer index).isZombie <;>
        simp [view, distinct.symm, pointed, poppedAt, holdingAt]
  · rename_i index pointed
    have stage : (system.view index).holding = some .deliver := by
      simp [view, pointed, holdingAt]
    cases step
    exact .inl (MovesAt.moves_any {
      moves := .deliver stage
      view_eq := by simp [view, pointed, poppedAt, holdingAt]
      others := fun other distinct => by
        simp [view, distinct.symm, pointed, poppedAt, holdingAt]
      queue := queueMoves_of_working (.inr (by simp [pointed])) })
  · rename_i index pointed
    have stage : (system.view index).holding = some .signal := by
      simp [view, pointed, holdingAt]
    cases step
    exact .inl (MovesAt.moves_any {
      moves := .complete stage
      view_eq := by simp [view, setTransfer, pointed, poppedAt, holdingAt]
      others := fun other distinct => by
        simp [view, setTransfer, distinct, distinct.symm, pointed, poppedAt, holdingAt]
      queue := queueMoves_of_working (.inr (by simp [pointed])) })
  · rename_i pointed
    cases step
    exact .inr ⟨pointed, rfl⟩
  · cases step
  · cases step

theorem allocate_moves {sgCtx : Option κ} {noCompletion : Bool} {id : Nat}
    (ok : (system.view index).Ok)
    (step : system.allocate index sgCtx noCompletion id = some next) : Moves system next := by
  unfold allocate at step
  split at step
  · rename_i guard
    obtain ⟨unused, -, below, free, silent, creator⟩ := guard
    have blank : system.transfer index = {} := (ok.unused unused).1
    cases step
    refine MovesAt.moves_any {
      moves := @DmaMove.allocate κ _ sgCtx noCompletion id unused below silent
      view_eq := ?_
      others := fun other distinct => ?_
      context := ?_
      creator := fun _ _ context taken => creator context taken
      table := fun at_ other entry => ?_ }
    · simp [view]
    · have entry : Function.update system.idTable id (some index) (system.transfer other).id =
          some other ↔ system.idTable (system.transfer other).id = some other := by
        by_cases same : (system.transfer other).id = id
        · simp [same, free, distinct.symm]
        · simp [same]
      simp [view, distinct, entry]
    · cases sgCtx <;> simp [followRef, blank]
    · by_cases same : at_ = id
      · subst same
        right
        simpa using entry.symm
      · left
        simpa [same] using entry
  · cases step

end Threads

end DmaSystem

end MxDriver
