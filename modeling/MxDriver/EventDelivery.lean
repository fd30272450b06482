import MxDriver.EventNode

/-!
# Which runs of the event node deliver every event once

The count is the number of interrupts that no poll was told of, as long as every
decrement still finds a positive count and every interrupt finds room in it.  Two
polls that both tested the count before either of them lowered it can break the
first condition: one event is then reported twice, and the next one to nobody.
-/

namespace MxDriver

theorem toInt_inc {count : Int32} (room : count ≠ Int32.maxValue) :
    (count + 1).toInt = count.toInt + 1 := by
  have above := count.toInt_lt
  have below := count.le_toInt
  have max : Int32.maxValue.toInt = 2 ^ 31 - 1 := by decide
  have room : count.toInt ≠ 2 ^ 31 - 1 := fun same =>
    room (Int32.toInt_inj.mp (same.trans max.symm))
  rw [Int32.toInt_add, Int.bmod_eq_of_le]
  · rfl
  · simp
    omega
  · simp
    omega

theorem toInt_dec {count : Int32} (nonneg : 0 ≤ count.toInt) :
    (count - 1).toInt = count.toInt - 1 := by
  have above := count.toInt_lt
  rw [Int32.toInt_sub, Int.bmod_eq_of_le]
  · rfl
  · simp
    omega
  · simp
    omega

namespace EventSystem

variable {θ : Type*}

/-! ## The count -/

/-- The counters of two systems agree. -/
structure SameCounts (system other : EventSystem θ) : Prop where
  count : system.count = other.count
  interrupts : system.interrupts = other.interrupts
  reported : system.reported = other.reported
  unreported : system.unreported = other.unreported

/-- The count is the number of interrupts that were not reported. -/
structure CountsUnreported (system : EventSystem θ) : Prop where
  count : system.count.toInt = system.unreported
  interrupts : system.interrupts = system.reported + system.unreported

/-- An interrupt finds room in the count, and a decrement still finds an event. -/
def Unraced (system : EventSystem θ) : EventAction θ → Prop
  | .interrupt => system.count ≠ Int32.maxValue
  | .poll index => (system.poller index).stage = .counted → 0 < system.count
  | _ => True

instance (system : EventSystem θ) (action : EventAction θ) : Decidable (system.Unraced action) :=
  match action with
  | .interrupt => inferInstanceAs (Decidable (_ ≠ _))
  | .poll _ => inferInstanceAs (Decidable (_ → _))
  | .wake | .enter .. | .leave _ | .destroy => inferInstanceAs (Decidable True)

theorem countsUnreported_start : (start : EventSystem θ).CountsUnreported := ⟨rfl, rfl⟩

section Counters

variable {system next : EventSystem θ}

theorem destroy_sameCounts (stepped : system.destroy = some next) : next.SameCounts system := by
  unfold destroy at stepped
  split at stepped <;> cases stepped
  all_goals exact ⟨rfl, rfl, rfl, rfl⟩

namespace CountsUnreported

variable (counts : system.CountsUnreported)

include counts

theorem of_sameCounts (same : next.SameCounts system) : next.CountsUnreported := by
  constructor
  · rw [same.count, same.unreported, counts.count]
  · rw [same.interrupts, same.reported, same.unreported, counts.interrupts]

theorem count_pos_iff : 0 < system.count ↔ 0 < system.unreported := by
  rw [Int32.lt_iff_toInt_lt, counts.count]
  simp

theorem countInterrupt (room : system.count ≠ Int32.maxValue) :
    system.countInterrupt.CountsUnreported := by
  constructor
  · simp only [EventSystem.countInterrupt, toInt_inc room, counts.count]
    rfl
  · simp only [EventSystem.countInterrupt, counts.interrupts]
    omega

theorem takeEvent (positive : 0 < system.count) : system.takeEvent.CountsUnreported := by
  have pending := counts.count_pos_iff.mp positive
  have count := counts.count
  constructor
  · simp only [EventSystem.takeEvent]
    rw [toInt_dec (by omega)]
    omega
  · simp only [EventSystem.takeEvent, counts.interrupts]
    omega

end CountsUnreported

end Counters

variable [DecidableEq θ]

/-! ## A poll that runs alone -/

/-- A poll with no other statement in between returns the mask. -/
def PollsAlone (system : EventSystem θ) (index : θ) (valid : Bool) (mask : UInt32)
    (final : EventSystem θ) : Prop :=
  ∃ statements,
    runActions eventStep system
        (.enter index valid :: List.replicate statements (.poll index)) = some final ∧
      (final.poller index).stage = .returned mask

/-- The statements that are left of a poll, with no other in between, return a mask and
leave a count. -/
def RunsOn (system : EventSystem θ) (index : θ) (outcome : UInt32 × Int32) : Prop :=
  ∃ statements final,
    runActions eventStep system (List.replicate statements (.poll index)) = some final ∧
      (final.poller index).stage = .returned outcome.1 ∧ final.count = outcome.2

section Alone

variable {system next : EventSystem θ} {index : θ} {outcome : UInt32 × Int32} {mask : UInt32}

theorem runsOn_returned (stage : (system.poller index).stage = .returned mask) :
    system.RunsOn index (mask, system.count) :=
  ⟨0, system, rfl, stage, rfl⟩

theorem RunsOn.step (rest : next.RunsOn index outcome)
    (stepped : system.pollStatement index = some next) : system.RunsOn index outcome := by
  obtain ⟨statements, final, ran, returned, count⟩ := rest
  refine ⟨statements + 1, final, ?_, returned, count⟩
  have polled : eventStep system (.poll index) = some next := stepped
  rw [List.replicate_succ, runActions_cons polled, ran]

theorem runsOn_leaving (stage : (system.poller index).stage = .leaving mask) :
    system.RunsOn index (mask, system.count) := by
  have rest : (system.setStage index (.returned mask)).RunsOn index (mask, system.count) :=
    runsOn_returned stage_setStage
  exact rest.step (by rw [pollStatement, stage])

theorem runsOn_notRemoved (stage : (system.poller index).stage = .notRemoved) :
    system.RunsOn index
      (if 0 < system.count then (epollin ||| epollrdnorm, system.count - 1)
      else (0, system.count)) := by
  split
  · rename_i positive
    have taken : ((system.setStage index .counted).takeEvent.setStage index
        (.leaving (epollin ||| epollrdnorm))).RunsOn index
          (epollin ||| epollrdnorm, system.count - 1) := runsOn_leaving stage_setStage
    refine (taken.step ?_).step (by rw [pollStatement, stage, if_pos positive])
    rw [pollStatement, stage_setStage]
  · rename_i empty
    have left : (system.setStage index (.leaving 0)).RunsOn index (0, system.count) :=
      runsOn_leaving stage_setStage
    exact left.step (by rw [pollStatement, stage, if_neg empty])

theorem runsOn_registered (stage : (system.poller index).stage = .registered) :
    system.RunsOn index
      (if system.teardown.ioRefDying || system.teardown.leaseRemoved then
        (epollerr ||| epollhup, system.count)
      else if 0 < system.count then (epollin ||| epollrdnorm, system.count - 1)
      else (0, system.count)) := by
  cases dying : system.teardown.ioRefDying with
  | true =>
    have left : (system.setStage index (.leaving (epollerr ||| epollhup))).RunsOn index
        (epollerr ||| epollhup, system.count) := runsOn_leaving stage_setStage
    exact left.step (by rw [pollStatement, stage, dying, if_pos rfl])
  | false =>
    have passed : system.pollStatement index = some (system.setStage index .notDying) := by
      simp [pollStatement, stage, dying]
    refine RunsOn.step ?_ passed
    cases removed : system.teardown.leaseRemoved with
    | true =>
      have left : ((system.setStage index .notDying).setStage index
          (.leaving (epollerr ||| epollhup))).RunsOn index
            (epollerr ||| epollhup, system.count) := runsOn_leaving stage_setStage
      exact left.step (by simp [pollStatement, removed])
    | false =>
      have tested := @runsOn_notRemoved θ _
        ((system.setStage index .notDying).setStage index .notRemoved) index stage_setStage
      exact tested.step (by simp [pollStatement, removed])

theorem runsOn_entered (stage : (system.poller index).stage = .entered) :
    system.RunsOn index
      (if system.teardown.leaseRemoved || !system.teardown.enabled then
        (pollError .enodev, system.count)
      else if system.teardown.ioRefDying || system.teardown.leaseRemoved then
        (epollerr ||| epollhup, system.count)
      else if 0 < system.count then (epollin ||| epollrdnorm, system.count - 1)
      else (0, system.count)) := by
  split
  · rename_i going
    have refused : (system.setStage index (.returned (pollError .enodev))).RunsOn index
        (pollError .enodev, system.count) := runsOn_returned stage_setStage
    exact refused.step (by rw [pollStatement, stage, if_pos going])
  · rename_i live
    have prepared : system.pollStatement index = some (system.setStage index .prepared) := by
      rw [pollStatement, stage, if_neg live]
    refine RunsOn.step ?_ prepared
    have registered := @runsOn_registered θ _ ((system.setStage index .prepared).setPoller index
      { (system.setStage index .prepared).poller index with
        stage := .registered, waiting := true }) index (by rw [setPoller_self])
    exact registered.step (by rw [pollStatement, stage_setStage])

end Alone

/-- The statements of a poll are those of the call. -/
theorem exists_pollsAlone {system : EventSystem θ} {index : θ}
    (outside : (system.poller index).stage.outside = true) (valid : Bool) :
    ∃ final, system.PollsAlone index valid (system.mxdmaDevicePoll valid).1 final ∧
      final.count = (system.mxdmaDevicePoll valid).2 := by
  suffices runs : ∃ next, system.enterPoll index valid = some next ∧
      next.RunsOn index (system.mxdmaDevicePoll valid) by
    obtain ⟨next, entered, statements, final, ran, returned, count⟩ := runs
    have stepped : eventStep system (.enter index valid) = some next := entered
    exact ⟨final, ⟨statements, by rw [runActions_cons stepped, ran], returned⟩, count⟩
  rw [enterPoll, if_pos outside]
  refine ⟨_, rfl, ?_⟩
  simp only [mxdmaDevicePoll, mxdmaDevicePrepare]
  cases valid with
  | false =>
    simp only [if_true]
    exact runsOn_returned (by rw [setPoller_self])
  | true =>
    cases dying : system.teardown.ioRefDying with
    | true =>
      simp only [Bool.true_eq_false, if_false, if_true]
      exact runsOn_returned (by rw [setPoller_self])
    | false =>
      simp only [Bool.true_eq_false, Bool.false_eq_true, if_false]
      have entered := @runsOn_entered θ _ (system.setPoller index
        { system.poller index with woken := false, stage := .entered }) index
        (by rw [setPoller_self])
      rw [teardown_setPoller, dying] at entered
      split
      · rename_i error refused
        split at refused
        · rename_i going
          obtain rfl := Option.some.inj refused
          rwa [if_pos going] at entered
        · cases refused
      · rename_i prepared
        split at prepared
        · cases prepared
        · rename_i live
          rwa [if_neg live] at entered

/-! ## Which steps keep the count right -/

/-- What a step does to the counters. -/
inductive CountEffect (system next : EventSystem θ) : EventAction θ → Prop
  | interrupt (counts : next.SameCounts system.countInterrupt) :
      CountEffect system next .interrupt
  | take {index : θ} (counted : (system.poller index).stage = .counted)
      (counts : next.SameCounts system.takeEvent) : CountEffect system next (.poll index)
  | quiet {action : EventAction θ} (other : action ≠ .interrupt)
      (early : ∀ index, action = .poll index → (system.poller index).stage ≠ .counted)
      (counts : next.SameCounts system) : CountEffect system next action

section Counts

variable {system next : EventSystem θ} {action : EventAction θ}

theorem pollStatement_counts {index : θ} (stepped : system.pollStatement index = some next) :
    CountEffect system next (.poll index) := by
  by_cases counted : (system.poller index).stage = .counted
  · simp only [pollStatement, counted, Option.some.injEq] at stepped
    subst stepped
    exact .take counted ⟨rfl, rfl, rfl, rfl⟩
  · have early : ∀ other, EventAction.poll index = .poll other →
        (system.poller other).stage ≠ .counted := by
      rintro other ⟨⟩
      exact counted
    refine .quiet (by simp) early ?_
    unfold pollStatement at stepped
    split at stepped <;> cases stepped
    all_goals first | exact ⟨rfl, rfl, rfl, rfl⟩ | exact absurd ‹_› counted

theorem eventStep_counts (stepped : eventStep system action = some next) :
    CountEffect system next action := by
  cases action with
  | interrupt =>
    obtain rfl := Option.some.inj stepped
    exact .interrupt ⟨rfl, rfl, rfl, rfl⟩
  | wake =>
    simp only [eventStep] at stepped
    split at stepped
    · cases stepped
    · obtain rfl := Option.some.inj stepped
      exact .quiet (by simp) (by simp) ⟨rfl, rfl, rfl, rfl⟩
  | enter index valid =>
    simp only [eventStep, enterPoll] at stepped
    split at stepped
    · obtain rfl := Option.some.inj stepped
      exact .quiet (by simp) (by simp) ⟨rfl, rfl, rfl, rfl⟩
    · cases stepped
  | poll index => exact pollStatement_counts stepped
  | leave index =>
    simp only [eventStep, leaveQueue] at stepped
    split at stepped
    · obtain rfl := Option.some.inj stepped
      exact .quiet (by simp) (by simp) ⟨rfl, rfl, rfl, rfl⟩
    · cases stepped
  | destroy => exact .quiet (by simp) (by simp) (destroy_sameCounts stepped)

end Counts

/-- The events so far were neither lost nor duplicated: the count is not negative, no
more polls reported an event than there were interrupts, and a poll of a live device
that runs alone reports an interrupt that was not reported. -/
structure EventsExact (system : EventSystem θ) : Prop where
  nonneg : 0 ≤ system.count
  once : system.reported ≤ system.interrupts
  pending : 0 < system.unreported → system.teardown = .live →
    ∀ index, (system.poller index).stage.outside = true →
      ∃ final, system.PollsAlone index true (epollin ||| epollrdnorm) final

namespace CountsUnreported

variable {system next : EventSystem θ} {action : EventAction θ}

theorem eventsExact (counts : system.CountsUnreported) : system.EventsExact := by
  refine ⟨?_, ?_, fun pending live index outside => ?_⟩
  · rw [Int32.le_iff_toInt_le, counts.count]
    simp
  · rw [counts.interrupts]
    exact Nat.le_add_right ..
  · have positive := counts.count_pos_iff.mpr pending
    have reports : (system.mxdmaDevicePoll true).1 = epollin ||| epollrdnorm := by
      simp [mxdmaDevicePoll, mxdmaDevicePrepare, live, NodeTeardown.ioRefDying,
        NodeTeardown.leaseRemoved, NodeTeardown.enabled, positive]
    obtain ⟨final, alone, -⟩ := exists_pollsAlone outside true
    rw [reports] at alone
    exact ⟨final, alone⟩

/-- A step keeps the count right exactly if it is not raced. -/
theorem step (counts : system.CountsUnreported) (stepped : eventStep system action = some next) :
    (system.Unraced action → next.CountsUnreported) ∧
      (next.EventsExact → system.Unraced action) := by
  cases eventStep_counts stepped with
  | interrupt same =>
    refine ⟨fun room => (counts.countInterrupt room).of_sameCounts same, fun delivered room => ?_⟩
    have nonneg := delivered.nonneg
    simp only [same.count, EventSystem.countInterrupt, room] at nonneg
    exact absurd nonneg (by decide)
  | take counted same =>
    refine ⟨fun finds => (counts.takeEvent (finds counted)).of_sameCounts same,
      fun delivered _ => ?_⟩
    have count := counts.count
    have nonneg := Int32.le_iff_toInt_le.mp delivered.nonneg
    rw [same.count, EventSystem.takeEvent, toInt_dec (by omega)] at nonneg
    rw [Int32.lt_iff_toInt_lt]
    simp only [Int32.toInt_zero] at nonneg ⊢
    omega
  | quiet other early same =>
    refine ⟨fun _ => counts.of_sameCounts same, fun _ => ?_⟩
    cases action with
    | interrupt => exact (other rfl).elim
    | poll index => exact fun counted => (early index rfl counted).elim
    | _ => trivial

end CountsUnreported

end EventSystem

open EventSystem

/-- Every event of a run is delivered once if and only if no interrupt finds the count
full, and no poll lowers the count after others have taken what it saw there. -/
theorem events_exact_iff {θ : Type*} [DecidableEq θ] {actions : List (EventAction θ)}
    {final : EventSystem θ} (ran : runActions eventStep start actions = some final) :
    Throughout eventStep EventsExact start actions ↔
      StepsAllowed eventStep Unraced start actions :=
  throughout_iff_stepsAllowed countsUnreported_start (fun _ counts => counts.eventsExact)
    (fun _ _ _ counts stepped => counts.step stepped) ran

/-- An interrupt, and a poll that tests the count and lowers it. -/
def soleRun : List (EventAction Party) :=
  [.interrupt, .wake, .enter 0 true] ++ List.replicate 7 (.poll 0)

theorem events_exact_soleRun :
    ∃ final, runActions eventStep start soleRun = some final ∧
      (final.poller 0).stage = .returned (epollin ||| epollrdnorm) ∧
      Throughout eventStep EventsExact start soleRun := by
  have ran : runActions eventStep start soleRun = some _ := rfl
  have allowed : runAllowed eventStep Unraced start soleRun = some _ := rfl
  exact ⟨_, ran, rfl, (events_exact_iff ran).mpr (stepsAllowed_of_runAllowed allowed)⟩

/-- Two polls test the count after one interrupt, and then both lower it. -/
def racingPolls : List (EventAction Party) :=
  [.interrupt, .wake, .enter 0 true, .enter 1 true] ++ List.replicate 5 (.poll 0) ++
    List.replicate 7 (.poll 1) ++ List.replicate 2 (.poll 0)

/-- Both report the event, the count is negative, and a poll that runs alone after the
next interrupt reports nothing. -/
theorem events_raced :
    ∃ state later final, runActions eventStep start racingPolls = some state ∧
      (state.poller 0).stage = .returned (epollin ||| epollrdnorm) ∧
      (state.poller 1).stage = .returned (epollin ||| epollrdnorm) ∧
      state.interrupts = 1 ∧ state.reported = 2 ∧ state.count = -1 ∧
      runActions eventStep state [.interrupt, .wake] = some later ∧
      later.unreported = 1 ∧ later.teardown = .live ∧ later.PollsAlone 0 true 0 final := by
  have ran : runActions eventStep start racingPolls = some _ := rfl
  exact ⟨_, _, _, ran, rfl, rfl, rfl, rfl, by decide, rfl, rfl, rfl, 6, rfl, rfl⟩

end MxDriver
