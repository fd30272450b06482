import MxDriver.TransferWaitAnswer

/-!
# How long a wait takes

The kernel wakes a sleeper and runs a thread that is ready with some latency.  With a bound
on it there is a bound on the wait: it is over soon after the ceiling, and soon after the
transport was declared dead.
-/

namespace MxDriver

namespace TransferWait

variable {settings : WaitSettings} {start latency : Nat} {wait next : TransferWait}

/-- The moment from which on the waiter could go on. -/
def due (wait : TransferWait) : Option Nat :=
  match wait.stage with
  | .waiting expiry | .lateWaiting expiry _ => some expiry
  | .returned _ => none
  | _ => some wait.since

/-- Time does not pass a waiter by that has been ready for the latency. -/
def Prompt (latency : Nat) (wait : TransferWait) : WaitAction → Prop
  | .tick => ∀ moment, wait.due = some moment → wait.now < moment + latency
  | _ => True

/-- The stages one after the other, each entered at most one latency after the stage
before it was due.  `base` is the end of the last chunk, `last` of the last second. -/
def Ladder (latency base last : Nat) (wait : TransferWait) : WaitStage → Prop
  | .waiting expiry => expiry ≤ base
  | .expired => wait.since ≤ base + latency
  | .looping => wait.since ≤ base + 2 * latency
  | .gaveUp _ => wait.since ≤ base + 3 * latency
  | .removing _ _ => wait.since ≤ base + 4 * latency
  | .lateWaiting expiry _ => expiry ≤ last
  | .returned _ => True

theorem Ladder.advance {base last : Nat} {stage : WaitStage}
    (ladder : Ladder latency base last wait wait.stage)
    (onTime : ∀ moment, wait.due = some moment → wait.now ≤ moment + latency)
    (advance : Advance settings start wait wait.stage stage) (again : wait.stage = .looping →
      timeBefore (UInt64.ofNat wait.now) (settings.hardDeadline start) = true →
        wait.now + settings.chunk ≤ base)
    (granted : ∀ error, wait.stage = .removing false error → wait.now + settings.grace ≤ last) :
    Ladder latency base last (wait.goOn stage) stage := by
  rw [due] at onTime
  generalize wait.stage = standing at *
  cases advance with
  | completed | recovered | parkedDead | lateCompleted | parked => trivial
  | again within => exact again rfl within
  | granted => exact granted _ rfl
  | expired | interrupted | single | foundDead | foundAlive | ceiling | judged =>
    have latest := onTime _ rfl
    simp only [Ladder, goOn, enter] at ladder ⊢
    omega

/-- What holds throughout a wait that is served with a latency. -/
structure Timely (settings : WaitSettings) (start latency : Nat) (wait : TransferWait) : Prop where
  entered : wait.since ≤ wait.now
  onTime : ∀ moment, wait.due = some moment → wait.now ≤ moment + latency
  asleep : ∀ expiry, wait.stage = .waiting expiry → expiry ≤ wait.now + settings.chunk
  graced : ∀ expiry error, wait.stage = .lateWaiting expiry error →
    expiry ≤ wait.now + settings.grace
  ladder : Ladder latency (settings.ceiling start + settings.chunk)
    (settings.ceiling start + settings.chunk + 5 * latency + settings.grace) wait wait.stage
  dead : wait.lvHealth = .dead ↔ wait.deadSince.isSome = true
  deadLadder : ∀ moment, settings.lvOn = true → wait.deadSince = some moment →
    moment ≤ wait.now ∧
      Ladder latency (moment + latency + settings.chunk) (moment + latency + settings.grace)
        wait wait.stage ∧
      (wait.stage = .looping → wait.since ≤ moment) ∧
      (∀ error, wait.stage = .removing false error → wait.since ≤ moment)

/-- When the transport dies, everything that began before it is due soon. -/
theorem Timely.ladder_now (timely : Timely settings start latency wait) :
    Ladder latency (wait.now + latency + settings.chunk) (wait.now + latency + settings.grace)
      wait wait.stage := by
  have entered := timely.entered
  cases standing : wait.stage with
  | waiting expiry =>
    have := timely.asleep expiry standing
    simp only [Ladder]
    omega
  | lateWaiting expiry error =>
    have := timely.graced expiry error standing
    simp only [Ladder]
    omega
  | returned answer => trivial
  | expired | looping | gaveUp | removing =>
    simp only [Ladder]
    omega

theorem Timely.setHealth (timely : Timely settings start latency wait)
    (health : LivenessHealth) : Timely settings start latency (wait.setHealth health) where
  entered := timely.entered
  onTime := timely.onTime
  asleep := timely.asleep
  graced := timely.graced
  ladder := timely.ladder
  dead := by
    have same := timely.dead
    by_cases dying : health = .dead <;> by_cases already : wait.lvHealth = .dead <;>
      simp_all [TransferWait.setHealth]
  deadLadder := by
    intro moment lvOn since
    simp only [TransferWait.setHealth] at since ⊢
    split_ifs at since with dying already
    · exact timely.deadLadder moment lvOn since
    · cases since
      exact ⟨le_rfl, timely.ladder_now, fun _ => timely.entered, fun _ _ => timely.entered⟩

theorem Timely.tick (timely : Timely settings start latency wait)
    (prompt : Prompt latency wait .tick) :
    Timely settings start latency { wait with now := wait.now + 1 } where
  entered := timely.entered.trans (Nat.le_succ _)
  onTime := prompt
  asleep := by
    intro expiry standing
    exact (timely.asleep expiry standing).trans (by simp)
  graced := by
    intro expiry error standing
    exact (timely.graced expiry error standing).trans (by simp)
  ladder := timely.ladder
  dead := timely.dead
  deadLadder := by
    intro moment lvOn since
    obtain ⟨past, rest⟩ := timely.deadLadder moment lvOn since
    exact ⟨past.trans (Nat.le_succ _), rest⟩

theorem now_le_due {stage : WaitStage} (advance : Advance settings start wait wait.stage stage)
    {moment : Nat} (due : (wait.goOn stage).due = some moment) : wait.now ≤ moment := by
  generalize wait.stage = standing at advance
  cases advance <;> simp [TransferWait.due, goOn, enter] at due <;> omega

theorem Timely.goOn (finite : settings.timeoutMs.toNat < 2 ^ 31) (short : latency < 2 ^ 32)
    (timely : Timely settings start latency wait) {stage : WaitStage}
    (advance : Advance settings start wait wait.stage stage) :
    Timely settings start latency (wait.goOn stage) where
  entered := le_rfl
  onTime := fun moment due => (now_le_due advance due).trans (Nat.le_add_right _ _)
  asleep := by
    intro expiry standing
    change stage = _ at standing
    subst standing
    generalize wait.stage = before at advance
    cases advance
    exact le_rfl
  graced := by
    intro expiry error standing
    change stage = _ at standing
    subst standing
    generalize wait.stage = before at advance
    cases advance
    exact le_rfl
  ladder := by
    refine timely.ladder.advance timely.onTime advance ?_ ?_
    · intro standing within
      have ladder := timely.ladder
      have latest := timely.onTime wait.since (by rw [due, standing])
      have chunk := settings.chunk_lt finite
      rw [standing, Ladder] at ladder
      have := settings.lt_ceiling_of_timeBefore (by omega) within
      omega
    · intro error standing
      have ladder := timely.ladder
      have latest := timely.onTime wait.since (by rw [due, standing])
      rw [standing, Ladder] at ladder
      omega
  dead := timely.dead
  deadLadder := by
    intro moment lvOn since
    have isDead : wait.lvHealth = .dead := timely.dead.mpr (by
      rw [show wait.deadSince = some moment from since]
      rfl)
    obtain ⟨past, ladder, looping, removing⟩ := timely.deadLadder moment lvOn since
    refine ⟨past, ladder.advance timely.onTime advance ?_ ?_, ?_, ?_⟩
    · intro standing within
      have latest := timely.onTime wait.since (by rw [due, standing])
      have := looping standing
      omega
    · intro error standing
      have latest := timely.onTime wait.since (by rw [due, standing])
      have := removing error standing
      omega
    · -- nobody goes round again who finds the transport dead
      intro standing
      change stage = _ at standing
      subst standing
      generalize wait.stage = before at advance
      cases advance
      contradiction
    · intro error standing
      change stage = _ at standing
      have judged : wait.dead settings = true := by simp [TransferWait.dead, lvOn, isDead]
      generalize wait.stage = before at advance
      cases advance with
      | judged => simp [judged] at standing
      | _ => cases standing

theorem Timely.step {action : WaitAction} (finite : settings.timeoutMs.toNat < 2 ^ 31)
    (short : latency < 2 ^ 32) (timely : Timely settings start latency wait)
    (prompt : Prompt latency wait action)
    (stepped : TransferWait.step settings start wait action = some next) :
    Timely settings start latency next := by
  obtain meanwhile | ⟨stage, advance, rfl⟩ := step_cases stepped
  · cases meanwhile with
    | tick => exact timely.tick prompt
    | push | complete | signal => exact { timely with }
    | setHealth health => exact timely.setHealth health
  · exact timely.goOn finite short advance

instance : DecidablePred (Prompt latency wait) := fun action =>
  match action with
  | .tick => inferInstanceAs (Decidable (∀ moment, wait.due = some moment → _))
  | .push | .complete | .signal _ | .setHealth _ | .wake | .interrupt | .run => .isTrue trivial

end TransferWait

end MxDriver
