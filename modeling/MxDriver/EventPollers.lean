import MxDriver.EventDelivery

/-!
# What the pollers of the event node can rely on

If no poll tests the count while another one stands between its test and its
decrement, then no decrement is raced.  And as long as none is raced, no poller
sleeps through an event or through the end of the device.
-/

namespace MxDriver

namespace EventSystem

variable {θ : Type*}

/-- What a statement of a poll does to the stage of the poller. -/
inductive StageMove (system : EventSystem θ) : PollStage → PollStage → Prop
  | refuse : StageMove system .entered (.returned (pollError .enodev))
  | prepare : StageMove system .entered .prepared
  | register : StageMove system .prepared .registered
  | dying : StageMove system .registered (.leaving (epollerr ||| epollhup))
  | notDying (alive : system.teardown.ioRefDying = false) :
      StageMove system .registered .notDying
  | removed : StageMove system .notDying (.leaving (epollerr ||| epollhup))
  | notRemoved : StageMove system .notDying .notRemoved
  | test (positive : 0 < system.count) : StageMove system .notRemoved .counted
  | empty (none : ¬0 < system.count) : StageMove system .notRemoved (.leaving 0)
  | take : StageMove system .counted (.leaving (epollin ||| epollrdnorm))
  | finish {mask : UInt32} : StageMove system (.leaving mask) (.returned mask)

/-- The poller after a statement: `poll_wait` puts it on the wait queue. -/
def movedPoller (poller : Poller) (stage : PollStage) : Poller :=
  { poller with stage := stage, waiting := poller.waiting || decide (stage = .registered) }

section Statements

variable [DecidableEq θ] {system next : EventSystem θ} {index : θ}

theorem setStage_eq {stage : PollStage} (other : stage ≠ .registered := by simp) :
    system.setStage index stage =
      system.setPoller index (movedPoller (system.poller index) stage) := by
  simp [setStage, movedPoller, other]

/-- A statement moves one poller, and only the decrement changes the count. -/
theorem pollStatement_moves (stepped : system.pollStatement index = some next) :
    ∃ stage, StageMove system (system.poller index).stage stage ∧
      next = (if (system.poller index).stage = .counted then system.takeEvent
        else system).setPoller index (movedPoller (system.poller index) stage) := by
  cases stage : (system.poller index).stage with
  | idle | returned mask => simp [pollStatement, stage] at stepped
  | entered =>
    simp only [pollStatement, stage, Option.some.injEq] at stepped
    subst stepped
    split
    · exact ⟨_, .refuse, setStage_eq⟩
    · exact ⟨_, .prepare, setStage_eq⟩
  | prepared =>
    simp only [pollStatement, stage, Option.some.injEq] at stepped
    subst stepped
    exact ⟨_, .register, by simp [movedPoller]⟩
  | registered =>
    simp only [pollStatement, stage, Option.some.injEq] at stepped
    subst stepped
    cases dying : system.teardown.ioRefDying with
    | true => exact ⟨_, .dying, setStage_eq⟩
    | false => exact ⟨_, .notDying dying, setStage_eq⟩
  | notDying =>
    simp only [pollStatement, stage, Option.some.injEq] at stepped
    subst stepped
    split
    · exact ⟨_, .removed, setStage_eq⟩
    · exact ⟨_, .notRemoved, setStage_eq⟩
  | notRemoved =>
    simp only [pollStatement, stage, Option.some.injEq] at stepped
    subst stepped
    by_cases positive : 0 < system.count
    · rw [if_pos positive]
      exact ⟨_, .test positive, setStage_eq⟩
    · rw [if_neg positive]
      exact ⟨_, .empty positive, setStage_eq⟩
  | counted =>
    simp only [pollStatement, stage, Option.some.injEq] at stepped
    subst stepped
    exact ⟨_, .take, setStage_eq⟩
  | leaving mask =>
    simp only [pollStatement, stage, Option.some.injEq] at stepped
    subst stepped
    exact ⟨_, .finish, setStage_eq⟩

end Statements

/-- A poller that is not in a poll, or has only begun one. -/
def FreshStage (stage : PollStage) : Prop :=
  stage = .idle ∨ stage = .entered ∨ ∃ error, stage = .returned (pollError error)

/-- What a step does to the pollers. -/
inductive PollersEffect [DecidableEq θ] (system : EventSystem θ) :
    EventAction θ → EventSystem θ → Prop
  | interrupt : PollersEffect system .interrupt system.countInterrupt
  | wake {action : EventAction θ} {next : EventSystem θ} (other : ∀ index, action ≠ .poll index)
      (pollers : next.poller = fun index => (system.poller index).wake) :
      PollersEffect system action next
  | destroy {teardown : NodeTeardown} (quiet : teardown.toldPollers = false) :
      PollersEffect system .destroy { system with teardown := teardown }
  | reset {action : EventAction θ} {index : θ} {poller : Poller}
      (other : ∀ index, action ≠ .poll index) (fresh : FreshStage poller.stage) :
      PollersEffect system action (system.setPoller index poller)
  | move {index : θ} {stage : PollStage}
      (moved : StageMove system (system.poller index).stage stage) :
      PollersEffect system (.poll index)
        ((if (system.poller index).stage = .counted then system.takeEvent
          else system).setPoller index (movedPoller (system.poller index) stage))

theorem eventStep_pollers [DecidableEq θ] {system next : EventSystem θ} {action : EventAction θ}
    (stepped : eventStep system action = some next) : PollersEffect system action next := by
  cases action with
  | interrupt =>
    obtain rfl := Option.some.inj stepped
    exact .interrupt
  | wake =>
    simp only [eventStep] at stepped
    split at stepped
    · cases stepped
    · obtain rfl := Option.some.inj stepped
      exact .wake (by simp) rfl
  | enter index valid =>
    simp only [eventStep, enterPoll] at stepped
    split at stepped
    · obtain rfl := Option.some.inj stepped
      refine .reset (by simp) ?_
      dsimp only
      split
      · exact .inr (.inr ⟨_, rfl⟩)
      · split
        · exact .inr (.inr ⟨_, rfl⟩)
        · exact .inr (.inl rfl)
    · cases stepped
  | poll index =>
    obtain ⟨stage, moved, rfl⟩ := pollStatement_moves stepped
    exact .move moved
  | leave index =>
    simp only [eventStep, leaveQueue] at stepped
    split at stepped
    · obtain rfl := Option.some.inj stepped
      exact .reset (by simp) (.inl rfl)
    · cases stepped
  | destroy =>
    simp only [eventStep, EventSystem.destroy] at stepped
    split at stepped <;> cases stepped
    · exact .destroy rfl
    · exact .destroy rfl
    · exact .destroy rfl
    · exact .wake (by simp) rfl
    · exact .wake (by simp) rfl

/-! ## One test at a time -/

/-- No poll tests the count while another stands between its test and its decrement, and
interrupts find room. -/
def OneTests (system : EventSystem θ) : EventAction θ → Prop
  | .interrupt => system.count ≠ Int32.maxValue
  | .poll index => (system.poller index).stage = .notRemoved →
      ∀ other, (system.poller other).stage ≠ .counted
  | _ => True

/-- At most one poller has tested the count and not lowered it, and what it saw is still
there. -/
structure SoleTester (system : EventSystem θ) : Prop where
  counts : system.CountsUnreported
  sole : ∀ index other, (system.poller index).stage = .counted →
    (system.poller other).stage = .counted → index = other
  sees : ∀ index, (system.poller index).stage = .counted → 0 < system.count

section Serial

variable {system next : EventSystem θ} {action : EventAction θ}

theorem SoleTester.unraced (sole : system.SoleTester) (one : system.OneTests action) :
    system.Unraced action := by
  cases action with
  | interrupt => exact one
  | poll index => exact sole.sees index
  | _ => trivial

theorem FreshStage.not_counted {stage : PollStage} (fresh : FreshStage stage) :
    stage ≠ .counted := by
  rintro rfl
  rcases fresh with same | same | ⟨error, same⟩ <;> cases same

variable [DecidableEq θ]

/-- Who stands behind its test after a step stood there before, or has tested now. -/
theorem counted_origin (stepped : eventStep system action = some next) {index : θ}
    (counted : (next.poller index).stage = .counted) :
    (system.poller index).stage = .counted ∧ action ≠ .poll index ∨
      action = .poll index ∧ (system.poller index).stage = .notRemoved ∧ 0 < system.count := by
  cases eventStep_pollers stepped with
  | interrupt => exact .inl ⟨counted, by simp⟩
  | wake other pollers =>
    rw [pollers] at counted
    exact .inl ⟨counted, other index⟩
  | destroy quiet => exact .inl ⟨counted, by simp⟩
  | @reset _ changed poller other fresh =>
    by_cases same : index = changed
    · subst same
      rw [setPoller_self] at counted
      exact (fresh.not_counted counted).elim
    · rw [setPoller_of_ne same] at counted
      exact .inl ⟨counted, other index⟩
  | @move changed stage moved =>
    by_cases same : index = changed
    · subst same
      rw [setPoller_self] at counted
      obtain rfl : stage = .counted := counted
      generalize before : (system.poller index).stage = stage at moved
      cases moved with
      | test positive => exact .inr ⟨rfl, rfl, positive⟩
    · rw [setPoller_of_ne same] at counted
      have before : (system.poller index).stage = .counted := by
        split at counted <;> exact counted
      exact .inl ⟨before, fun polled => same (EventAction.poll.inj polled).symm⟩

theorem SoleTester.step (sole : system.SoleTester) (one : system.OneTests action)
    (stepped : eventStep system action = some next) : next.SoleTester := by
  refine ⟨(sole.counts.step stepped).1 (sole.unraced one), ?_, ?_⟩
  · intro index other counted otherCounted
    obtain ⟨before, -⟩ | ⟨rfl, testing, -⟩ := counted_origin stepped counted
    · obtain ⟨otherBefore, -⟩ | ⟨rfl, testing, -⟩ := counted_origin stepped otherCounted
      · exact sole.sole index other before otherBefore
      · exact (one testing index before).elim
    · obtain ⟨otherBefore, -⟩ | ⟨polled, -, -⟩ := counted_origin stepped otherCounted
      · exact (one testing other otherBefore).elim
      · exact EventAction.poll.inj polled
  · intro index counted
    obtain ⟨before, still⟩ | ⟨rfl, testing, positive⟩ := counted_origin stepped counted
    · have positive := sole.sees index before
      cases eventStep_counts stepped with
      | interrupt same =>
        have positive := Int32.lt_iff_toInt_lt.mp positive
        rw [same.count, Int32.lt_iff_toInt_lt, EventSystem.countInterrupt, toInt_inc one]
        omega
      | take taking same =>
        obtain rfl := sole.sole _ _ before taking
        exact (still rfl).elim
      | quiet _ _ same => exact same.count ▸ positive
    · cases eventStep_counts stepped with
      | take taking same => cases testing.symm.trans taking
      | quiet _ _ same => exact same.count ▸ positive

/-- If the test and the decrement of a poll are not interleaved with those of another,
then every event is delivered once. -/
theorem eventsExact_of_oneTests (reached : ReachedBy eventStep OneTests start system) :
    system.EventsExact := by
  have sole : system.SoleTester :=
    reached.invariant ⟨countsUnreported_start, by simp [start], by simp [start]⟩
      fun _ _ _ sole one stepped => sole.step one stepped
  exact sole.counts.eventsExact

end Serial

/-! ## Sleeping pollers -/

end EventSystem

/-- The poller is on the wait queue. -/
def PollStage.queued : PollStage → Bool
  | registered | notDying | notRemoved | counted | leaving _ => true
  | returned mask => mask == 0
  | idle | entered | prepared => false

/-- The poller found nothing and goes to sleep. -/
def PollStage.empty : PollStage → Bool
  | leaving mask | returned mask => mask == 0
  | _ => false

/-- The poller did not see the device die and has nothing to report. -/
def PollStage.passedDying : PollStage → Bool
  | notDying | notRemoved => true
  | stage => stage.empty

theorem PollStage.passedDying_of_empty {stage : PollStage} (empty : stage.empty = true) :
    stage.passedDying = true := by
  cases stage <;> first | rfl | exact empty

theorem PollStage.queued_of_passedDying {stage : PollStage}
    (passed : stage.passedDying = true) : stage.queued = true := by
  cases stage <;> first | rfl | exact passed

namespace EventSystem

variable {θ : Type*}

/-- A poller has not missed anything: while it is not woken, the teardown has not come
to its wake-up, and if it sleeps beside an event then a handler is about to wake it. -/
structure Alert (system : EventSystem θ) (poller : Poller) : Prop where
  queued : poller.stage.queued = true → poller.waiting = true
  told : poller.stage.passedDying = true → poller.woken = false →
    system.teardown.toldPollers = false
  asleep : poller.stage.empty = true → poller.woken = false → 0 < system.count →
    0 < system.waking

section Sleep

variable {system next : EventSystem θ} {poller : Poller} {action : EventAction θ}

theorem Alert.wake (alert : system.Alert poller) : next.Alert poller.wake := by
  have woken : poller.stage.passedDying = true → poller.wake.woken = true := by
    intro passed
    have waiting := alert.queued (PollStage.queued_of_passedDying passed)
    simp [Poller.wake, waiting]
  refine ⟨alert.queued, fun passed asleep => ?_, fun empty asleep => ?_⟩
  · cases asleep.symm.trans (woken passed)
  · cases asleep.symm.trans (woken (PollStage.passedDying_of_empty empty))

theorem FreshStage.not_queued (fresh : FreshStage poller.stage) : poller.stage.queued = false := by
  rcases fresh with same | same | ⟨error, same⟩
  · rw [same]
    rfl
  · rw [same]
    rfl
  · rw [same]
    unfold pollError
    split <;> rfl

/-- A poller that saw the device die, or has something to report, will not sleep. -/
theorem alert_of_not_passed (queued : poller.stage.queued = true → poller.waiting = true)
    (unpassed : poller.stage.passedDying = false) : system.Alert poller := by
  have unpassed : poller.stage.passedDying ≠ true := by simp [unpassed]
  refine ⟨queued, fun passed => (unpassed passed).elim, ?_⟩
  exact fun empty => (unpassed (PollStage.passedDying_of_empty empty)).elim

theorem alert_of_not_queued (unqueued : poller.stage.queued = false) : system.Alert poller := by
  have unqueued : poller.stage.queued ≠ true := by simp [unqueued]
  apply alert_of_not_passed
  · exact fun queued => (unqueued queued).elim
  · apply eq_false_of_ne_true
    exact fun passed => unqueued (PollStage.queued_of_passedDying passed)

/-- A statement of the poller itself. -/
theorem Alert.move {stage : PollStage} (alert : system.Alert poller)
    (moved : StageMove system poller.stage stage) : system.Alert (movedPoller poller stage) := by
  obtain ⟨before, waiting, woken⟩ := poller
  obtain ⟨queued, told, asleep⟩ := alert
  -- Whoever was on the wait queue stays there.
  have stays : before.queued = true →
      (movedPoller ⟨before, waiting, woken⟩ stage).waiting = true := by
    intro onQueue
    have waiting : waiting = true := queued onQueue
    simp [movedPoller, waiting]
  cases moved with
  | refuse => exact alert_of_not_queued (FreshStage.not_queued (.inr (.inr ⟨_, rfl⟩)))
  | prepare => exact alert_of_not_queued rfl
  | register => exact alert_of_not_passed (fun _ => by simp [movedPoller]) rfl
  | dying | removed | test | take => exact alert_of_not_passed (fun _ => stays rfl) rfl
  | notDying alive =>
    refine ⟨fun _ => stays rfl, fun _ _ => ?_, by rintro ⟨⟩⟩
    cases stage : system.teardown <;> simp_all [NodeTeardown.ioRefDying, NodeTeardown.toldPollers]
  | notRemoved => exact ⟨fun _ => stays rfl, fun _ => told rfl, by rintro ⟨⟩⟩
  | empty none =>
    exact ⟨fun _ => stays rfl, fun _ => told rfl, fun _ _ positive => (none positive).elim⟩
  | finish => exact ⟨fun _ => stays rfl, told, asleep⟩

/-- The event that a poll takes was there, so no sleeper counts on it. -/
theorem Alert.takeEvent (alert : system.Alert poller) (positive : 0 < system.count) :
    system.takeEvent.Alert poller := by
  refine ⟨alert.queued, alert.told, fun empty asleep _ => ?_⟩
  exact alert.asleep empty asleep positive

variable [DecidableEq θ]

/-- No step makes a poller miss anything, if it is not raced. -/
theorem alert_step (alert : ∀ index, system.Alert (system.poller index))
    (unraced : system.Unraced action) (stepped : eventStep system action = some next)
    (index : θ) : next.Alert (next.poller index) := by
  cases eventStep_pollers stepped with
  | interrupt =>
    obtain ⟨queued, told, -⟩ := alert index
    exact ⟨queued, told, fun _ _ _ => Nat.succ_pos _⟩
  | wake other pollers =>
    rw [pollers]
    exact (alert index).wake
  | destroy quiet =>
    obtain ⟨queued, -, asleep⟩ := alert index
    exact ⟨queued, fun _ _ => quiet, asleep⟩
  | @reset _ changed poller other fresh =>
    by_cases same : index = changed
    · subst same
      rw [setPoller_self]
      exact alert_of_not_queued fresh.not_queued
    · rw [setPoller_of_ne same]
      obtain ⟨queued, told, asleep⟩ := alert index
      exact ⟨queued, told, asleep⟩
  | @move changed stage moved =>
    have stands : ∀ poller, system.Alert poller →
        (if (system.poller changed).stage = .counted then system.takeEvent
          else system).Alert poller := by
      intro poller alert
      split
      · rename_i counted
        exact alert.takeEvent (unraced counted)
      · exact alert
    by_cases same : index = changed
    · subst same
      rw [setPoller_self]
      obtain ⟨queued, told, asleep⟩ := stands _ ((alert index).move moved)
      exact ⟨queued, told, asleep⟩
    · rw [setPoller_of_ne same]
      have before : (if (system.poller changed).stage = .counted then system.takeEvent
          else system).poller index = system.poller index := by split <;> rfl
      rw [before]
      obtain ⟨queued, told, asleep⟩ := stands _ (alert index)
      exact ⟨queued, told, asleep⟩

/-- In every run without a raced step, a poller that was told nothing and was not woken
since is on the wait queue, the teardown has not come to its wake-up, and a handler is
about to wake the queue if there is an interrupt that was not reported. -/
theorem sleeper_missed_nothing {index : θ} (reached : ReachedBy eventStep Unraced start system)
    (told : (system.poller index).stage = .returned 0)
    (asleep : (system.poller index).woken = false) :
    (system.poller index).waiting = true ∧ system.teardown.toldPollers = false ∧
      (0 < system.unreported → 0 < system.waking) := by
  have alert : ∀ index, system.Alert (system.poller index) :=
    reached.invariant (fun _ => alert_of_not_queued rfl)
      fun _ _ _ alert unraced stepped => alert_step alert unraced stepped
  have counts : system.CountsUnreported :=
    reached.invariant countsUnreported_start
      fun _ _ _ counts unraced stepped => (counts.step stepped).1 unraced
  have empty : (system.poller index).stage.empty = true := by
    rw [told]
    rfl
  have passed := PollStage.passedDying_of_empty empty
  refine ⟨(alert index).queued (PollStage.queued_of_passedDying passed),
    (alert index).told passed asleep, fun pending => ?_⟩
  exact (alert index).asleep empty asleep (counts.count_pos_iff.mpr pending)

end Sleep

end EventSystem

end MxDriver
