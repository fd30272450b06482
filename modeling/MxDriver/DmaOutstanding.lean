import MxDriver.DmaZombies

/-!
# The outstanding count and the live commands

`wait_count - zombie_wait_count` is meant to be the number of live commands.  The
completion of a zombie lowers `wait_count` at once and `zombie_wait_count` only when
the cleaner drains it, so the difference is too small by the zombies whose completion
was claimed.
-/

namespace MxDriver

namespace DmaSystem

variable {τ κ : Type*} [DecidableEq τ] [DecidableEq κ]

/-- No thread is between two statements that belong together. -/
structure Settled (system : DmaSystem τ κ) : Prop where
  submit : system.submit = none
  complete : system.complete.holdsIdLock = false
  cleaner : system.cleaner = none
  waiter : ∀ index stage, system.waiter index ≠ .parking stage

omit [DecidableEq κ] in
theorem Settled.view {system : DmaSystem τ κ} (settled : system.Settled) (index : τ) :
    (system.view index).Settled where
  submitting := by simp [DmaSystem.view, settled.submit]
  holding := by
    have unlocked := settled.complete
    cases complete : system.complete <;>
      simp_all [DmaSystem.view, holdingAt, CompleteThread.holdsIdLock]
  draining := by simp [DmaSystem.view, settled.cleaner]
  waiter := settled.waiter index

/-- What the watchdog calls outstanding. -/
def outstanding (system : DmaSystem τ κ) : Int := system.waitCount - system.zombieWaitCount

theorem zombieOk_step {system next : DmaSystem τ κ} {action : DmaAction τ κ} (ok : system.Ok)
    (counts : ∀ index, (system.view index).CountOk) (zombie : ∀ index, (system.view index).ZombieOk)
    (step : dmaStep system action = some next) (index : τ) : (next.view index).ZombieOk := by
  apply (dmaStep_effect ok.view ok.safe step).keeps zombie
  · intro index view waitDelta zombieDelta moves
    exact (zombie index).move (ok.view index) (counts index) moves
  · intro _ index
    exact { zombie index with }
  · rintro - index entry (rfl | ⟨linked, rfl⟩)
    · exact zombie index
    · apply (zombie index).setEntry
      simp [DmaSystem.view, linked]

omit [DecidableEq κ] in
theorem zombieOk_start (index : τ) : ((start : DmaSystem τ κ).view index).ZombieOk := by
  constructor <;> simp [DmaSystem.view, start]

theorem zombieOk_of_reached [Fintype τ] {system : DmaSystem τ κ}
    (reached : Reached dmaStep start system) (index : τ) : (system.view index).ZombieOk := by
  suffices all : system.Ok ∧ (∀ index, (system.view index).CountOk) ∧
      ∀ index, (system.view index).ZombieOk from all.2.2 index
  apply ReachedBy.invariant reached ⟨ok_start, countsOk_start.view, zombieOk_start⟩
  rintro current action next ⟨ok, counts, zombie⟩ - step
  exact ⟨ok_step ok step, countOk_step ok counts step, zombieOk_step ok counts zombie step⟩

section Counts

variable [Fintype τ]

def liveCommands (system : DmaSystem τ κ) : Nat :=
  tally (fun transfer => DmaView.live transfer = true) system.transfer

/-- The difference of the counters misses the zombies whose completion was claimed. -/
theorem outstanding_add {system : DmaSystem τ κ} (reached : Reached dmaStep start system)
    (settled : system.Settled) :
    system.outstanding +
        tally (fun transfer => DmaView.claimedZombie transfer = true) system.transfer =
      system.liveCommands := by
  have ok := ok_of_reached reached
  have counts := countsOk_of_reached reached
  have sums : tally (fun view => DmaView.waiting view = true) system.view +
      tally (fun transfer => DmaView.claimedZombie transfer = true) system.transfer =
        system.liveCommands +
          tally (fun view => DmaView.zombieCounted view = true) system.view := by
    simp only [liveCommands, tally_eq_sum_toNat, ← Finset.sum_add_distrib]
    apply Finset.sum_congr rfl
    intro index _
    exact DmaView.contributions (ok.view index) (counts.view index)
      (zombieOk_of_reached reached index) (settled.view index)
  rw [outstanding, counts.waitCount, counts.zombieWaitCount]
  omega

end Counts

/-- No completion of a parked transfer was claimed. -/
def ParkedUnclaimed (system : DmaSystem τ κ) : Prop :=
  ∀ index, (system.transfer index).zombieEntry ≠ .unlinked →
    (system.transfer index).claimed = false

theorem outstanding_eq_iff [Fintype τ] {system : DmaSystem τ κ}
    (reached : Reached dmaStep start system) (settled : system.Settled) :
    system.outstanding = system.liveCommands ↔ system.ParkedUnclaimed := by
  have sum := outstanding_add reached settled
  have none : tally (fun transfer => DmaView.claimedZombie transfer = true) system.transfer = 0 ↔
      system.ParkedUnclaimed := by
    rw [tally_eq_zero_iff]
    simp [DmaView.claimedZombie, ParkedUnclaimed]
  rw [← none]
  omega

/-- The completion that is claimed does not belong to a parked transfer, and the transfer
that is parked was not claimed. -/
def countsAllowed (system : DmaSystem τ κ) : DmaAction τ κ → Prop
  | .claim =>
    match system.complete with
    | .popped _ id => ∀ index ∈ system.idTable id, (system.transfer index).zombieEntry = .unlinked
    | _ => True
  | .park index => system.waiter index = .parking .enlist →
      (system.transfer index).waitClaimed = false
  | _ => True

omit [DecidableEq τ] [DecidableEq κ] in
instance (system : DmaSystem τ κ) (action : DmaAction τ κ) :
    Decidable (system.countsAllowed action) := by
  unfold countsAllowed
  split
  · split <;> infer_instance
  · infer_instance
  · infer_instance

section Step

variable {system next : DmaSystem τ κ} {action : DmaAction τ κ}

/-- Neither new on a zombie list nor newly claimed. -/
def Quiet (before after : DmaTransfer κ) : Prop :=
  (after.zombieEntry ≠ .unlinked → before.zombieEntry ≠ .unlinked) ∧
    (after.claimed = true → before.claimed = true)

omit [DecidableEq κ] in
theorem quiet_setTransfer {index : τ} {transfer : DmaTransfer κ}
    (quiet : Quiet (system.transfer index) transfer) (other : τ) :
    Quiet (system.transfer other) ((system.setTransfer index transfer).transfer other) := by
  by_cases same : other = index
  · subst same
    simpa [setTransfer] using quiet
  · simp only [setTransfer, Function.update_of_ne same]
    exact ⟨id, id⟩

theorem releaseStatement_quiet {index : τ} {stage : ReleaseStage}
    {outcome : DmaSystem τ κ × Option ReleaseStage}
    (statement : system.releaseStatement index stage = some outcome) (other : τ) :
    Quiet (system.transfer other) (outcome.1.transfer other) := by
  unfold releaseStatement at statement
  split at statement
  · cases statement
    exact ⟨id, id⟩
  · cases statement
    apply quiet_setTransfer
    exact ⟨id, id⟩
  · split at statement
    · cases statement
    · cases statement
      exact ⟨id, id⟩
  · cases statement
    exact ⟨id, id⟩
  · cases statement
    apply quiet_setTransfer
    exact ⟨id, id⟩

theorem drainNext_quiet (step : system.drainNext = some next) (other : τ) :
    Quiet (system.transfer other) (next.transfer other) := by
  unfold drainNext at step
  split at step
  · cases step
  · cases step
    apply quiet_setTransfer
    exact ⟨id, id⟩
  · cases step
    apply quiet_setTransfer
    exact ⟨by simp, id⟩
  · cases step
    exact ⟨id, id⟩
  · cases step
    exact ⟨id, id⟩
  · cases step
    exact ⟨id, id⟩
  · obtain ⟨outcome, statement, rfl⟩ := Option.map_eq_some_iff.mp step
    exact releaseStatement_quiet statement other

omit [DecidableEq κ] in
theorem submitNext_quiet (step : system.submitNext = some next) (other : τ) :
    Quiet (system.transfer other) (next.transfer other) := by
  unfold submitNext at step
  split at step
  · cases step
  · cases step
    exact ⟨id, id⟩
  · split at step
    · cases step
      apply quiet_setTransfer
      exact ⟨id, id⟩
    · cases step
      apply quiet_setTransfer
      exact ⟨id, id⟩
  · cases step
    apply quiet_setTransfer
    exact ⟨id, id⟩

omit [DecidableEq κ] in
theorem completeNext_quiet (step : system.completeNext = some next) (other : τ) :
    Quiet (system.transfer other) (next.transfer other) := by
  unfold completeNext at step
  split at step
  case h_4 =>
    cases step
    apply quiet_setTransfer
    exact ⟨id, id⟩
  all_goals
    cases step
  all_goals
    exact ⟨id, id⟩

omit [DecidableEq τ] [DecidableEq κ] in
theorem quiet_of_ite {guard : Prop} [Decidable guard] {after : DmaSystem τ κ} {other : τ}
    (quiet : guard → Quiet (system.transfer other) (after.transfer other))
    (step : (if guard then some after else none) = some next) :
    Quiet (system.transfer other) (next.transfer other) := by
  split at step
  · rename_i holds
    cases step
    exact quiet holds
  · cases step

/-- Only a claim and the parking touch on what `ParkedUnclaimed` says. -/
theorem quiet_step (step : dmaStep system action = some next) (unclaims : action ≠ .claim)
    (unparks : ∀ index, action ≠ .park index) (other : τ) :
    Quiet (system.transfer other) (next.transfer other) := by
  cases action with
  | claim => exact (unclaims rfl).elim
  | park index => exact (unparks index rfl).elim
  | createContext context =>
    simp only [dmaStep, createContext] at step
    split at step
    · cases step
    · cases step
      exact ⟨id, id⟩
  | allocate index =>
    apply quiet_of_ite _ step
    intro _
    change Quiet _ ((system.setTransfer index _).transfer other)
    apply quiet_setTransfer
    exact ⟨by simp, by simp⟩
  | putCreator | abandon | startWait | observe | expire | giveUp | drain | stopQueue
  | declareSafe =>
    apply quiet_of_ite _ step
    exact fun _ => ⟨id, id⟩
  | queue | submitTake | deviceComplete | pop =>
    apply quiet_of_ite _ step
    intro _
    apply quiet_setTransfer
    exact ⟨id, id⟩
  | submitNext => exact submitNext_quiet step other
  | completeNext => exact completeNext_quiet step other
  | removeFromSq index dead =>
    simp only [dmaStep, removeFromSq] at step
    split at step
    · split at step
      · cases step
        apply quiet_setTransfer
        exact ⟨id, id⟩
      · split at step
        · cases step
          exact ⟨id, id⟩
        · split at step
          · cases step
            exact ⟨id, id⟩
          · cases step
            exact ⟨id, id⟩
    · cases step
  | release index =>
    simp only [dmaStep, release] at step
    split at step
    · obtain ⟨outcome, statement, rfl⟩ := Option.map_eq_some_iff.mp step
      exact releaseStatement_quiet statement other
    · cases step
  | inspect index =>
    simp only [dmaStep, inspect] at step
    split at step
    · rename_i guard
      split at step
      · cases step
        apply quiet_setTransfer
        exact ⟨fun _ => by simp [guard.2.2], id⟩
      · cases step
        exact ⟨id, id⟩
    · cases step
  | drainNext => exact drainNext_quiet step other
  | stopCleaner =>
    apply quiet_of_ite _ step
    intro _
    dsimp only
    split
    · exact ⟨(not_congr (collected_eq_unlinked _)).mp, id⟩
    · exact ⟨id, id⟩

omit [DecidableEq κ] in
/-- A claim breaks the rule exactly if the transfer is parked. -/
theorem parkedUnclaimed_claim (ok : system.Ok) (rule : system.ParkedUnclaimed)
    (step : system.claim = some next) : next.ParkedUnclaimed ↔ system.countsAllowed .claim := by
  unfold claim at step
  split at step
  · rename_i sender id popped
    obtain ⟨-, entry, waits, -⟩ := entry_of_popped (ok.view sender) popped
    simp only [entry, waits] at step
    cases step
    have allowed_iff : system.countsAllowed .claim ↔
        (system.transfer sender).zombieEntry = .unlinked := by
      simp [countsAllowed, popped, entry]
    rw [allowed_iff]
    constructor
    · intro after
      by_contra linked
      have unclaimed := after sender (by simpa [setTransfer] using linked)
      simp [setTransfer] at unclaimed
    · intro unlinked index linked
      by_cases same : index = sender
      · subst same
        simp [setTransfer, unlinked] at linked
      · have kept := rule index
        simp_all [setTransfer]
  · cases step

omit [DecidableEq τ] [DecidableEq κ] in
theorem ParkedUnclaimed.of_quiet (rule : system.ParkedUnclaimed)
    (quiet : ∀ index, Quiet (system.transfer index) (next.transfer index)) :
    next.ParkedUnclaimed := by
  intro index linked
  apply eq_false_of_ne_true
  intro claimed
  cases (rule index ((quiet index).1 linked)).symm.trans ((quiet index).2 claimed)

omit [DecidableEq κ] in
/-- Parking breaks the rule exactly if the completion was claimed before. -/
theorem parkedUnclaimed_park {index : τ} (ok : system.Ok)
    (counts : ∀ index, (system.view index).CountOk) (rule : system.ParkedUnclaimed)
    (step : system.park index = some next) :
    next.ParkedUnclaimed ↔ system.countsAllowed (.park index) := by
  unfold park at step
  split at step
  · rename_i stage
    cases step
    apply iff_of_true
    · apply rule.of_quiet
      apply quiet_setTransfer
      exact ⟨id, id⟩
    · intro enlists
      cases stage.symm.trans enlists
  · rename_i stage
    cases step
    apply iff_of_true
    · exact rule.of_quiet fun _ => ⟨id, id⟩
    · intro enlists
      cases stage.symm.trans enlists
  · rename_i stage
    cases step
    have flag : (system.transfer index).waitClaimed = false ↔
        (system.transfer index).claimed = false := by
      rw [← Bool.not_eq_true, ← Bool.not_eq_true, not_iff_not]
      constructor
      · intro claims
        exact ((counts index).waits claims).resolve_right (by simp [view, stage])
      · exact fun claimed => ((ok.view index).claimed claimed).2.1
    constructor
    · intro after _
      rw [flag]
      have unclaimed := after index (by simp [setTransfer, setWaiter])
      simpa [setTransfer, setWaiter] using unclaimed
    · intro allowed other linked
      have unclaimed := flag.mp (allowed stage)
      by_cases same : other = index
      · subst same
        simpa [setTransfer, setWaiter] using unclaimed
      · have kept := rule other
        simp_all [setTransfer, setWaiter]
  · cases step

/-- Exactly the steps that are not allowed break the rule. -/
theorem parkedUnclaimed_step (ok : system.Ok) (counts : ∀ index, (system.view index).CountOk)
    (rule : system.ParkedUnclaimed) (step : dmaStep system action = some next) :
    next.ParkedUnclaimed ↔ system.countsAllowed action := by
  by_cases claims : action = .claim
  · subst claims
    exact parkedUnclaimed_claim ok rule step
  · by_cases parks : ∃ index, action = .park index
    · obtain ⟨index, rfl⟩ := parks
      exact parkedUnclaimed_park ok counts rule step
    · push Not at parks
      apply iff_of_true
      · exact rule.of_quiet (quiet_step step claims parks)
      · cases action <;> first | trivial | exact (claims rfl).elim | exact (parks _ rfl).elim

end Step

theorem parkedUnclaimed_of_reachedBy [Fintype τ] {system : DmaSystem τ κ}
    (reached : ReachedBy dmaStep countsAllowed start system) : system.ParkedUnclaimed := by
  induction reached with
  | refl => exact fun _ linked => (linked rfl).elim
  | tail before allowed step ih =>
    have reached := before.reached
    exact (parkedUnclaimed_step (ok_of_reached reached) (countsOk_of_reached reached).view ih
      step).mpr allowed

/-- The counters give the live commands while no completion of a parked transfer is
claimed, and the steps that end this are known. -/
theorem outstanding_eq_live [Fintype τ] {system : DmaSystem τ κ} :
    (Reached dmaStep start system → system.Settled →
      (system.outstanding = system.liveCommands ↔ system.ParkedUnclaimed)) ∧
    (ReachedBy dmaStep countsAllowed start system →
      (system.Settled → system.outstanding = system.liveCommands) ∧
      ∀ action next, dmaStep system action = some next →
        (next.ParkedUnclaimed ↔ system.countsAllowed action)) := by
  refine ⟨outstanding_eq_iff, fun allowed => ?_⟩
  have reached := allowed.reached
  have rule := parkedUnclaimed_of_reachedBy allowed
  constructor
  · intro settled
    exact (outstanding_eq_iff reached settled).mpr rule
  · intro action next step
    exact parkedUnclaimed_step (ok_of_reached reached) (countsOk_of_reached reached).view rule step

/-- One command is pushed and lives, another is parked. -/
def parkedRun : List (DmaAction Party Unit) :=
  [.allocate 0 none false 0, .allocate 1 none false 1, .queue 0, .queue 1, .startWait 0,
    .submitTake 0, .submitNext, .submitNext, .submitTake 1, .submitNext, .submitNext, .expire 0,
    .removeFromSq 0 true, .park 0, .park 0, .park 0, .deviceComplete 0, .pop 0]

theorem outstanding_eq_live_parkedRun :
    ∃ system, runAllowed dmaStep countsAllowed start parkedRun = some system ∧
      system.liveCommands = 1 ∧ system.outstanding = system.liveCommands := by
  have run : runAllowed dmaStep countsAllowed start parkedRun = some _ := rfl
  refine ⟨_, run, rfl, (outstanding_eq_live.2 (reachedBy_of_runAllowed run)).1 ?_⟩
  exact ⟨rfl, rfl, rfl, by rintro ⟨⟩ stage ⟨⟩⟩

/-- The completion of the parked command leaves the live one uncounted. -/
theorem outstanding_misses_live :
    ∃ system : DmaSystem Party Unit, Reached dmaStep start system ∧ system.Settled ∧
      system.liveCommands = 1 ∧ system.outstanding = 0 := by
  have run : runActions dmaStep start
      (parkedRun ++ [.claim, .completeNext, .completeNext, .completeNext]) = some _ := rfl
  exact ⟨_, reached_of_runActions run,
    ⟨rfl, rfl, rfl, by rintro ⟨⟩ stage ⟨⟩⟩, rfl, rfl⟩

end DmaSystem

end MxDriver
