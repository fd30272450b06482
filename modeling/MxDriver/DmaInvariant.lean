import MxDriver.DmaEffects

/-!
# Invariants of the transfer system

Every transfer is in order in every reached state.  The id table only lists a transfer
under its own id, and the device memory is declared safe only after the queue threads
are gone.
-/

namespace MxDriver

variable {τ κ : Type*} [DecidableEq τ] [DecidableEq κ]

namespace DmaView.Ok

variable {κ : Type*} {view : DmaView κ} (ok : view.Ok)

include ok

/-- No completion is being handled when the device memory is declared safe. -/
theorem declare (unpopped : view.popped = none) : Ok { view with safe := true } :=
  { ok with
    popped := fun id popped => by cases unpopped.symm.trans popped
    swapped := fun _ => .inr rfl
    cleanup := fun _ => .inr rfl
    freed := ⟨ok.freed.1, fun _ => .inr rfl⟩ }

end DmaView.Ok

namespace DmaSystem

/-- What holds in every reached state. -/
structure Ok (system : DmaSystem τ κ) : Prop where
  view : ∀ index, (system.view index).Ok
  stopped : system.queueStopped = true → system.submit = none ∧ system.complete = .idle
  safe : system.dmaReclaimSafe = true → system.queueStopped = true
  table : ∀ id index, system.idTable id = some index → (system.transfer index).id = id

omit [DecidableEq κ] in
theorem ok_start : (start : DmaSystem τ κ).Ok where
  view index := by
    constructor <;> simp [DmaSystem.view, start, poppedAt, holdingAt, DmaView.torn,
      DmaView.queuedStage, DmaView.sentStage]
  stopped := nofun
  safe := nofun
  table := nofun

section Step

variable {system next : DmaSystem τ κ} {action : DmaAction τ κ}

theorem view_step (ok : system.Ok) (step : dmaStep system action = some next) (index : τ) :
    (next.view index).Ok := by
  apply (dmaStep_effect ok.view ok.safe step).keeps ok.view
  · intro index view waitDelta zombieDelta moves
    exact (ok.view index).move moves
  · intro stopped index
    apply (ok.view index).declare
    simp [DmaSystem.view, (ok.stopped stopped).2, poppedAt]
  · rintro safe index entry (rfl | ⟨linked, rfl⟩)
    · exact ok.view index
    · exact (ok.view index).collect linked (.inr safe)

omit [DecidableEq κ] in
theorem Ok.queue (ok : system.Ok) (moves : QueueMoves system next) :
    (next.queueStopped = true → next.submit = none ∧ next.complete = .idle) ∧
      (next.dmaReclaimSafe = true → next.queueStopped = true) := by
  refine ⟨fun stopped => ?_, fun safe => (moves.stays (ok.safe (moves.safe.symm.trans safe))).1⟩
  cases before : system.queueStopped with
  | false => exact moves.stops stopped before
  | true => exact (moves.stays before).2 (ok.stopped before)

/-- The threads of the queue stay gone, and nothing is declared safe before. -/
theorem stopped_step (ok : system.Ok) (step : dmaStep system action = some next) :
    (next.queueStopped = true → next.submit = none ∧ next.complete = .idle) ∧
      (next.dmaReclaimSafe = true → next.queueStopped = true) := by
  cases dmaStep_effect ok.view ok.safe step with
  | move moved =>
    obtain ⟨_, _, _, _, moved⟩ := moved
    exact ok.queue moved.queue
  | create unmoved | putCreator unmoved | idle unmoved => exact ok.queue unmoved.queue
  | declare stopped => exact ⟨ok.stopped, fun _ => stopped⟩
  | collect => exact ⟨ok.stopped, ok.safe⟩

theorem table_step (ok : system.Ok) (step : dmaStep system action = some next) (id : Nat)
    (index : τ) (entry : next.idTable id = some index) : (next.transfer index).id = id := by
  cases dmaStep_effect ok.view ok.safe step with
  | move moved =>
    obtain ⟨moving, view, _, _, moved⟩ := moved
    by_cases same : index = moving
    · subst same
      have transfer : next.transfer index = view.transfer := congrArg DmaView.transfer moved.view_eq
      rcases moved.table id index entry with old | ⟨-, new⟩
      · -- a transfer that is not allocated yet has no entry
        have used : (system.view index).waiter ≠ .unused := fun unused => by
          have unlisted := ((ok.view index).unused unused).2.2.2.2.2
          simp [DmaSystem.view, ok.table id index old, old] at unlisted
        rw [transfer, (moved.moves.fixed used).1]
        exact ok.table id index old
      · rw [transfer, new]
    · have transfer : next.transfer index = system.transfer index :=
        congrArg DmaView.transfer (moved.others index same)
      rcases moved.table id index entry with old | ⟨equal, -⟩
      · rw [transfer]
        exact ok.table id index old
      · exact (same equal).elim
  | create unmoved | putCreator unmoved | idle unmoved =>
    have transfer : next.transfer index = system.transfer index :=
      congrArg DmaView.transfer (unmoved.view_eq index)
    rw [transfer]
    exact ok.table id index (unmoved.idTable ▸ entry)
  | declare => exact ok.table id index entry
  | collect => exact ok.table id index entry

theorem ok_step (ok : system.Ok) (step : dmaStep system action = some next) : next.Ok where
  view := view_step ok step
  stopped := (stopped_step ok step).1
  safe := (stopped_step ok step).2
  table := table_step ok step

end Step

theorem ok_of_reached {system : DmaSystem τ κ} (reached : Reached dmaStep start system) :
    system.Ok := by
  apply ReachedBy.invariant reached ok_start
  intro current action next ok _ step
  exact ok_step ok step

end DmaSystem

end MxDriver
