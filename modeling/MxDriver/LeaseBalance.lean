import MxDriver.LeaseBindings

/-!
# Reference counters are balanced

In every run each reference counter of the lease system, of contexts, of the
device and of files, is the number of references that somebody holds: nothing
is put twice and nothing is forgotten.
-/

namespace MxDriver

variable {ι θ τ ν φ : Type*}

theorem LeaseCall.held_eq {call : LeaseCall ι φ} {ctx : ι}
    (entered : call = .idle ∨ call.ctx? = some ctx) : call.held = fileRefs call.files := by
  cases call with
  | opening => rcases entered with entered | entered <;> cases entered
  | _ => rfl

namespace LeaseSystem

section Holders

variable [DecidableEq ι] [DecidableEq φ]
variable [Fintype ι] [Fintype θ] [Fintype τ] [Fintype ν]
variable {system : LeaseSystem ι θ τ ν φ} (balanced : system.Balanced)
include balanced

theorem Balanced.refCount_pos {ref : Ref ι φ}
    (held : 0 < system.heldCount ref) : 0 < system.refCount ref :=
  (balanced ref).symm ▸ held

theorem Balanced.held_by_thread {thread : θ}
    {ref : Ref ι φ} (held : ref ∈ (system.thread thread).held) : 0 < system.refCount ref := by
  apply balanced.refCount_pos
  have positive : 0 < holdings LeaseThread.held system.thread ref := holdings_pos held
  unfold heldCount
  omega

theorem Balanced.held_by_ctx {ctx : ι}
    {ref : Ref ι φ} (held : ref ∈ ctxHeld (system.ctx ctx)) : 0 < system.refCount ref := by
  apply balanced.refCount_pos
  have positive : 0 < holdings ctxHeld system.ctx ref := holdings_pos held
  unfold heldCount
  omega

theorem Balanced.unopened {ctx : ι} (free : system.ctx ctx = none) : system.opened ctx = false := by
  have none : system.refCount (.ctx ctx) = 0 := by simp [refCount, free]
  rw [balanced] at none
  unfold heldCount at none
  by_contra opened
  have opened : system.opened ctx = true := by simpa using opened
  simp [rootHeld, opened] at none

end Holders

section Exchange

variable [DecidableEq ι] [DecidableEq θ] [DecidableEq τ] [DecidableEq ν]
  [DecidableEq φ]
variable [Fintype ι] [Fintype θ] [Fintype τ] [Fintype ν]
variable {system next : LeaseSystem ι θ τ ν φ}

/-- The references of the roots, of one context and of one thread. -/
def localHeld (system : LeaseSystem ι θ τ ν φ) (record : Option (FileCtx φ))
    (thread : LeaseThread ι ν φ) (ref : Ref ι φ) : Nat :=
  rootHeld system.opened system.attached ref + (ctxHeld record).count ref +
    thread.held.count ref

variable (balanced : system.Balanced) {thread : θ} {moved : LeaseThread ι ν φ}
variable {ctx : ι} {record : Option (FileCtx φ)}
include balanced

omit [DecidableEq τ] [DecidableEq ν] in
theorem Balanced.exchangeThread (contexts : next.ctx = system.ctx)
    (threads : next.thread = Function.update system.thread thread moved)
    (transfers : next.transfer = system.transfer) (mappings : next.vma = system.vma) (moves : ∀ ref,
      next.refCount ref +
          system.localHeld none (system.thread thread) ref =
        system.refCount ref + next.localHeld none moved ref) : next.Balanced := by
  intro ref
  have before := balanced ref
  have exchanged := moves ref
  have held := holdings_update LeaseThread.held system.thread thread moved ref
  rw [← threads] at held
  simp only [heldCount, localHeld, contexts, transfers, mappings] at *
  omega

omit [DecidableEq τ] [DecidableEq ν] in
theorem Balanced.exchangeCtx (contexts : next.ctx = Function.update system.ctx ctx record)
    (threads : next.thread = Function.update system.thread thread moved)
    (transfers : next.transfer = system.transfer) (mappings : next.vma = system.vma) (moves : ∀ ref,
      next.refCount ref +
          system.localHeld (system.ctx ctx) (system.thread thread) ref =
        system.refCount ref + next.localHeld record moved ref) : next.Balanced := by
  intro ref
  have before := balanced ref
  have exchanged := moves ref
  have heldCtx := holdings_update ctxHeld system.ctx ctx record ref
  have held := holdings_update LeaseThread.held system.thread thread moved ref
  rw [← contexts] at heldCtx
  rw [← threads] at held
  simp only [heldCount, localHeld, transfers, mappings] at *
  omega

omit [DecidableEq ν] in
theorem Balanced.exchangeTransfer {transfer : τ} {issued : Option (TransferLease ι φ)}
    (contexts : next.ctx = Function.update system.ctx ctx record)
    (threads : next.thread = Function.update system.thread thread moved)
    (transfers : next.transfer = Function.update system.transfer transfer issued)
    (mappings : next.vma = system.vma) (moves : ∀ ref,
      next.refCount ref +
          (system.localHeld (system.ctx ctx) (system.thread thread) ref +
            (transferHeld (system.transfer transfer)).count ref) =
        system.refCount ref +
          (next.localHeld record moved ref + (transferHeld issued).count ref)) : next.Balanced := by
  intro ref
  have before := balanced ref
  have exchanged := moves ref
  have heldCtx := holdings_update ctxHeld system.ctx ctx record ref
  have held := holdings_update LeaseThread.held system.thread thread moved ref
  have heldTransfer := holdings_update transferHeld system.transfer transfer issued ref
  rw [← contexts] at heldCtx
  rw [← threads] at held
  rw [← transfers] at heldTransfer
  simp only [heldCount, localHeld, mappings] at *
  omega

omit [DecidableEq τ] in
theorem Balanced.exchangeMapping {vma : ν} {mapping : Option (BarVma ι)}
    (contexts : next.ctx = Function.update system.ctx ctx record)
    (threads : next.thread = Function.update system.thread thread moved)
    (transfers : next.transfer = system.transfer)
    (mappings : next.vma = Function.update system.vma vma mapping) (moves : ∀ ref,
      next.refCount ref +
          (system.localHeld (system.ctx ctx) (system.thread thread) ref +
            (vmaHeld (system.vma vma)).count ref) =
        system.refCount ref +
          (next.localHeld record moved ref + (vmaHeld mapping).count ref)) : next.Balanced := by
  intro ref
  have before := balanced ref
  have exchanged := moves ref
  have heldCtx := holdings_update ctxHeld system.ctx ctx record ref
  have held := holdings_update LeaseThread.held system.thread thread moved ref
  have heldMapping := holdings_update vmaHeld system.vma vma mapping ref
  rw [← contexts] at heldCtx
  rw [← threads] at held
  rw [← mappings] at heldMapping
  simp only [heldCount, localHeld, transfers] at *
  omega

end Exchange

end LeaseSystem

end MxDriver
