import MxDriver.DmaRelease

/-!
# Completions reach the transfer that issued them

The id leaves the table at the claim, so it can belong to a new transfer while the old
one is still being torn down.  A completion is claimed for the transfer that it came
from nevertheless, and the teardown clears no entry but its own.
-/

namespace MxDriver

variable {τ κ : Type*} [DecidableEq τ] [DecidableEq κ]

namespace DmaView.Ok

variable {κ : Type*} {view : DmaView κ} (ok : view.Ok)

include ok

/-- A command whose completion is to come keeps its entry until the cleaner takes the
transfer by force. -/
theorem listed_of_pending (sent : view.transfer.command ≠ .kept)
    (reports : view.transfer.command ≠ .silent) (unclaimed : view.transfer.claimed = false) :
    view.listed = true ∨
      view.safe = true ∧ view.waiter = .gone ∧ view.transfer.zombieEntry = .unlinked := by
  have away : ¬returned view.transfer := by
    intro back
    cases queued : view.transfer.queued with
    | false => exact sent (ok.removed (.inr queued))
    | true =>
      rcases back queued with removed | claimed | silent
      · exact sent (ok.removed (.inl removed))
      · cases unclaimed.symm.trans claimed
      · exact reports silent
  have used : view.waiter ≠ .unused := by
    intro unused
    simp [(ok.unused unused).1] at sent
  cases torn : view.torn ReleaseStage.afterId with
  | false => exact .inl (ok.listed.mpr ⟨used, unclaimed, torn⟩)
  | true =>
    have safe := (ok.back_of_torn torn).resolve_left away
    right
    simp only [DmaView.torn, Bool.or_eq_true, decide_eq_true_eq] at torn
    rcases torn with (waiter | draining) | freed
    · split at waiter
      · rename_i stage releasing
        exact (away (ok.released stage releasing)).elim
      · cases waiter
    · split at draining
      · rename_i stage pointed
        exact ⟨safe, ok.gone_of_draining pointed, ok.detached _ pointed⟩
      · cases draining
    · refine ⟨safe, ?_, ?_⟩
      · by_contra owned
        exact freed (ok.not_freed owned)
      · by_contra linked
        exact freed (ok.linked linked)

end DmaView.Ok

theorem DmaMove.claimed_mono {κ : Type*} {view next : DmaView κ} {waitDelta zombieDelta : Int}
    (ok : view.Ok) (moves : DmaMove view next waitDelta zombieDelta)
    (claimed : view.transfer.claimed = true) : next.transfer.claimed = true := by
  cases moves with
  | allocate unused => simp [(ok.unused unused).1] at claimed
  | claim => rfl
  | release =>
    rename_i stage _ _
    cases stage <;> exact claimed
  | drainRelease =>
    rename_i stage _ _
    cases stage <;> exact claimed
  | _ => exact claimed

namespace DmaSystem

variable {system next : DmaSystem τ κ}

theorem claimed_step {action : DmaAction τ κ} (ok : system.Ok)
    (step : dmaStep system action = some next) {index : τ}
    (claimed : (system.transfer index).claimed = true) : (next.transfer index).claimed = true := by
  cases dmaStep_effect ok.view ok.safe step with
  | move moved =>
    obtain ⟨moving, view, _, _, moved⟩ := moved
    rw [transfer_of_movesAt moved]
    by_cases same : index = moving
    · subst same
      rw [Function.update_self]
      exact moved.moves.claimed_mono (ok.view index) claimed
    · rwa [Function.update_of_ne same]
  | create unmoved | putCreator unmoved | idle unmoved => rwa [transfer_of_unmoved unmoved]
  | declare => exact claimed
  | collect => exact claimed

omit [DecidableEq κ] in
theorem claim_eq (ok : system.Ok) (step : system.claim = some next) :
    ∃ sender, system.complete = .popped sender (system.transfer sender).id ∧
      next.complete = .holding sender .uncount ∧ (system.transfer sender).claimed = false ∧
      (next.transfer sender).claimed = true := by
  unfold claim at step
  split at step
  · rename_i sender id popped
    obtain ⟨idEq, entry, waits, unclaimed⟩ := entry_of_popped (ok.view sender) popped
    simp only [entry, waits] at step
    cases step
    refine ⟨sender, by rw [popped, idEq], rfl, unclaimed, ?_⟩
    simp [setTransfer]
  · cases step

theorem releaseStatement_entry {index other : τ}
    {stage : ReleaseStage} {outcome : DmaSystem τ κ × Option ReleaseStage} {id : Nat}
    (statement : system.releaseStatement index stage = some outcome) (distinct : other ≠ index)
    (entry : system.idTable id = some other) : outcome.1.idTable id = some other := by
  unfold releaseStatement at statement
  split at statement
  case h_3 =>
    split at statement
    · cases statement
    · cases statement
      by_cases listed : system.idTable (system.transfer index).id = some index
      · simp only [listed, if_true]
        rwa [table_clear_iff listed distinct]
      · simpa only [listed, if_false] using entry
  all_goals
    cases statement
    exact entry

theorem release_entry {index other : τ} {id : Nat} (step : system.release index = some next)
    (distinct : other ≠ index) (entry : system.idTable id = some other) :
    next.idTable id = some other := by
  unfold release at step
  split at step
  · obtain ⟨outcome, statement, rfl⟩ := Option.map_eq_some_iff.mp step
    exact releaseStatement_entry statement distinct entry
  · cases step

theorem drainNext_entry {index other : τ} {stage : DrainStage} {id : Nat}
    (pointed : system.cleaner = some (index, stage)) (step : system.drainNext = some next)
    (distinct : other ≠ index) (entry : system.idTable id = some other) :
    next.idTable id = some other := by
  unfold drainNext at step
  rw [pointed] at step
  cases stage with
  | release stage =>
    obtain ⟨outcome, statement, rfl⟩ := Option.map_eq_some_iff.mp step
    exact releaseStatement_entry statement distinct entry
  | _ =>
    cases step
    exact entry

theorem claimed_of_reached {later : DmaSystem τ κ} (ok : system.Ok)
    (reached : Reached dmaStep system later) {index : τ}
    (claimed : (system.transfer index).claimed = true) : (later.transfer index).claimed = true := by
  suffices both : later.Ok ∧ (later.transfer index).claimed = true from both.2
  apply ReachedBy.invariant reached ⟨ok, claimed⟩
  rintro current action next ⟨ok, claimed⟩ - step
  exact ⟨ok_step ok step, claimed_step ok step claimed⟩

/-- A completion finds its own transfer.  Until it is claimed the id of a pushed command
stays with its transfer and is not given to another one.  A claim takes the transfer that
sent the completion, once, and tearing down a transfer does not remove the entry of the one
that has its id by now. -/
theorem completion_reaches_issuer {system : DmaSystem τ κ}
    (reached : Reached dmaStep start system) :
    (∀ index, (system.transfer index).command ≠ .kept → (system.transfer index).command ≠ .silent →
      (system.transfer index).claimed = false →
        system.idTable (system.transfer index).id = some index ∨
          system.dmaReclaimSafe = true ∧ system.waiter index = .gone ∧
            (system.transfer index).zombieEntry = .unlinked) ∧
    (∀ index other sgCtx noCompletion id, system.idTable id = some other →
      dmaStep system (.allocate index sgCtx noCompletion id) = none) ∧
    (∀ next, dmaStep system .claim = some next →
      ∃ sender, system.complete = .popped sender (system.transfer sender).id ∧
        next.complete = .holding sender .uncount ∧ (system.transfer sender).claimed = false ∧
        ∀ later, Reached dmaStep next later → (later.transfer sender).claimed = true) ∧
    (∀ index other id next, other ≠ index → system.idTable id = some other →
      dmaStep system (.release index) = some next ∨
        (∃ stage, system.cleaner = some (index, stage)) ∧ dmaStep system .drainNext = some next →
      next.idTable id = some other) := by
  have ok := ok_of_reached reached
  refine ⟨fun index sent reports unclaimed => ?_, fun index other sgCtx noCompletion id entry => ?_,
    fun next step => ?_, fun index other id next distinct entry step => ?_⟩
  · rcases (ok.view index).listed_of_pending sent reports unclaimed with listed | taken
    · exact .inl (by simpa [view] using listed)
    · exact .inr taken
  · simp [dmaStep, allocate, entry]
  · obtain ⟨sender, popped, returned, unclaimed, claimed⟩ := claim_eq ok step
    exact ⟨sender, popped, returned, unclaimed,
      fun later after => claimed_of_reached (ok_step ok step) after claimed⟩
  · rcases step with step | ⟨⟨stage, pointed⟩, step⟩
    · exact release_entry step distinct entry
    · exact drainNext_entry pointed step distinct entry

/-- The id of a claimed transfer goes to a new one before the old one is torn down. -/
def reuseRun : List (DmaAction Party Unit) :=
  [.allocate 0 none false 5, .queue 0, .startWait 0, .submitTake 0, .submitNext, .submitNext,
    .deviceComplete 0, .pop 0, .claim, .completeNext, .completeNext, .completeNext,
    .completeNext, .completeNext, .allocate 1 none false 5, .queue 1, .submitTake 1, .submitNext,
    .submitNext, .observe 0, .release 0, .release 0]

theorem completion_reaches_issuer_reuseRun :
    ∃ system next, runActions dmaStep start reuseRun = some system ∧
      (system.transfer 0).id = (system.transfer 1).id ∧
      dmaStep system (.release 0) = some next ∧ system.idTable 5 = some 1 ∧
      next.idTable 5 = some 1 := by
  have run : runActions dmaStep start reuseRun = some _ := rfl
  obtain ⟨listed, -, -, freed⟩ := completion_reaches_issuer (reached_of_runActions run)
  have entry := (listed 1 (by decide) (by decide) rfl).resolve_right (by decide)
  exact ⟨_, _, run, rfl, rfl, entry, freed 0 1 5 _ (by decide) entry (.inl rfl)⟩

end DmaSystem

end MxDriver
