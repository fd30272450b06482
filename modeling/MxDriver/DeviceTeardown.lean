import MxDriver.AdminPrograms
import MxDriver.DeviceLifecycle

/-!
# Stopping the protocol with a device

Every exit of `mxdma_stop_device_protocol` either has the device stopped, or gone, or leaves
the mark that makes the next unbind come back.
-/

namespace MxDriver

open Polling AdminState AdminProgram MxPdev PdevProgram

/-! ## What holds of the lifecycle -/

/-- Nothing was freed, and a teardown that started refuses new callers. -/
structure Unfreed (started : Bool) (life : Lifecycle) : Prop where
  freed : life.freed = []
  started_eq : life.teardownStarted = started
  dying : started = true → life.ioRefDying = true

/-- No caller is left. -/
structure Fenced (life : Lifecycle) : Prop extends Unfreed true life where
  outside : life.io.inside = 0

/-- No command is left either. -/
structure Quiet (initialized : Bool) (life : Lifecycle) : Prop extends Fenced life where
  idle : life.io.idle = true
  initialized_eq : life.queuesInitialized = initialized

/-- Other threads cannot change it. -/
def Lasting (lives : Lifecycle → Prop) : Prop :=
  ∀ event life, lives life → lives (trafficEvent event life)

theorem trafficEvent_freed (event : TrafficEvent) (life : Lifecycle) :
    (trafficEvent event life).freed = life.freed ∧
      (trafficEvent event life).teardownStarted = life.teardownStarted ∧
      (trafficEvent event life).ioRefDying = life.ioRefDying ∧
      (trafficEvent event life).queuesInitialized = life.queuesInitialized ∧
      (trafficEvent event life).published = life.published ∧
      (trafficEvent event life).revision = life.revision := by
  cases event <;> simp only [trafficEvent] <;> (try split) <;> simp

theorem unfreed_lasting (started : Bool) : Lasting (Unfreed started) := by
  intro event life unfreed
  obtain ⟨freed, started_eq, dying, -⟩ := trafficEvent_freed event life
  exact ⟨freed.trans unfreed.freed, started_eq.trans unfreed.started_eq,
    fun started => dying.trans (unfreed.dying started)⟩

theorem fenced_lasting : Lasting Fenced := by
  intro event life fenced
  refine ⟨unfreed_lasting true event life fenced.toUnfreed, ?_⟩
  have dying := fenced.dying rfl
  have outside := fenced.outside
  cases event <;> simp only [trafficEvent] <;> (try split) <;> simp_all

theorem quiet_lasting (initialized : Bool) : Lasting (Quiet initialized) := by
  intro event life quiet
  refine ⟨fenced_lasting event life quiet.toFenced, ?_, ?_⟩
  · have outside := quiet.outside
    have idle := quiet.idle
    simp only [IoTraffic.idle, decide_eq_true_eq] at idle ⊢
    cases event <;> simp only [trafficEvent] <;> (try split) <;> simp_all
  · exact (trafficEvent_freed event life).2.2.2.1.trans quiet.initialized_eq

/-! ## The device between two calls -/

/-- Callers need a device node, and a device node needs the I/O queue. -/
structure FrameOk (lives : Lifecycle → Prop) (frame : AdminFrame Lifecycle) : Prop where
  life : lives frame.others
  traffic : frame.others.published = false → frame.others.io = {}
  queue : frame.others.published = true → frame.hasIoQueue = true

/-- There is no admin queue. -/
structure Bare (lives : Lifecycle → Prop) (frame : AdminFrame Lifecycle) : Prop
    extends FrameOk lives frame where
  absent : frame.hasAdminQueue = false
  unprogrammed : frame.queueDmaProgrammed = false

/-- The device knows the addresses of the admin queue. -/
structure Armed (lives : Lifecycle → Prop) (frame : AdminFrame Lifecycle) : Prop
    extends FrameOk lives frame where
  present : frame.hasAdminQueue = true
  programmed : frame.queueDmaProgrammed = true
  revision : frame.others.revision = .v2
  initialized : frame.others.queuesInitialized = true → frame.hasIoQueue = true

section Frames

variable {lives weaker : Lifecycle → Prop} {frame : AdminFrame Lifecycle}

theorem FrameOk.event (ok : FrameOk lives frame) (lasting : Lasting lives) (event : TrafficEvent) :
    FrameOk lives { frame with others := trafficEvent event frame.others } := by
  have published := (trafficEvent_freed event frame.others).2.2.2.2.1
  refine ⟨lasting event _ ok.life, ?_, ?_⟩
  · intro unpublished
    have empty := ok.traffic (published.symm.trans unpublished)
    have unpublished := published.symm.trans unpublished
    cases event <;> simp only [trafficEvent] <;> (try split) <;> simp_all
  · exact fun present => ok.queue (published.symm.trans present)

theorem bare_undisturbed (lasting : Lasting lives) : Undisturbed trafficEvent (Bare lives) :=
  fun event _ bare => { bare with toFrameOk := bare.toFrameOk.event lasting event }

theorem armed_undisturbed (lasting : Lasting lives) : Undisturbed trafficEvent (Armed lives) := by
  intro event frame armed
  obtain ⟨-, -, -, initialized, -, revision⟩ := trafficEvent_freed event frame.others
  exact
  { armed with
    toFrameOk := armed.toFrameOk.event lasting event
    revision := revision.trans armed.revision
    initialized := fun now => armed.initialized (initialized.symm.trans now) }

theorem FrameOk.mono (ok : FrameOk lives frame) (implies : ∀ life, lives life → weaker life) :
    FrameOk weaker frame :=
  { ok with life := implies _ ok.life }

theorem Bare.mono (bare : Bare lives frame) (implies : ∀ life, lives life → weaker life) :
    Bare weaker frame :=
  { bare with toFrameOk := bare.toFrameOk.mono implies }

theorem Armed.mono (armed : Armed lives frame) (implies : ∀ life, lives life → weaker life) :
    Armed weaker frame :=
  { armed with toFrameOk := armed.toFrameOk.mono implies }

end Frames

/-- Without admin queue nothing of the device is on record. -/
def Unarmed (lives : Lifecycle → Prop) (poisoned : Bool) (pdev : MxPdev) : Prop :=
  ∃ recorded, AdminMarks.queues ⟨recorded, poisoned, false⟩ = {} ∧
    Idle (Bare lives) ⟨recorded, poisoned, false⟩ pdev

/-- The device keeps what it has, and nothing is lost track of. -/
def Held (lives : Lifecycle → Prop) (pdev : MxPdev) : Prop :=
  (∃ poisoned, Unarmed lives poisoned pdev) ∨ Settled (Armed lives) pdev

/-- The protocol has stopped: the addresses are cleared and no queue exists. -/
def Ended (pdev : MxPdev) : Prop :=
  ∃ recorded poisoned, AdminMarks.queues ⟨recorded, poisoned, false⟩ = {} ∧
    Idle (fun frame => Fenced frame.others ∧ frame.others.io.idle = true ∧
      frame.queueDmaProgrammed = false) ⟨recorded, poisoned, false⟩ pdev

section Polls

/-- What holds once a program has returned. -/
def Yields {α : Type} (before : MxPdev → Prop) (program : PdevProgram α)
    (after : α → MxPdev → Prop) : Prop :=
  Meets before program after fun _ => True

theorem yields_of_meets {α : Type} {before meanwhile : MxPdev → Prop} {program : PdevProgram α}
    {after : α → MxPdev → Prop} (meets : Meets before program after meanwhile) :
    Yields before program after :=
  meets.mono (fun _ => id) (fun _ _ => id) fun _ _ => trivial

/-- Time does not matter for the property. -/
def Patient (property : MxPdev → Prop) : Prop :=
  ∀ event pdev, property pdev → property (pdev.event trafficEvent event)

theorem yields_msleep {α : Type} {property : MxPdev → Prop} {next : Unit → PdevProgram α}
    {after : α → MxPdev → Prop} (patient : Patient property)
    (rest : Yields property (next ()) after) : Yields property (msleep >>= next) after :=
  meets_turn (fun _ _ => trivial)
    (environment_keeps fun pdev event holds => patient event pdev holds) rest

theorem pollUntil_yields {property : MxPdev → Prop} (patient : Patient property)
    (condition : MxPdev → Bool) :
    Yields property (pollUntil condition) fun _ pdev => property pdev ∧ condition pdev = true := by
  apply meets_forever
  · apply yields_msleep patient
    apply meets_read
    intro pdev holds
    cases met : condition pdev with
    | false => exact meets_pure fun _ same => same ▸ holds
    | true =>
      apply meets_pure
      rintro _ rfl
      exact ⟨holds, met⟩
  · exact fun _ _ => trivial

theorem pollUntil_keeps {property : MxPdev → Prop} (patient : Patient property)
    (condition : MxPdev → Bool) : Yields property (pollUntil condition) fun _ => property :=
  (pollUntil_yields patient condition).mono (fun _ => id) (fun _ _ => And.left) fun _ => id

theorem disconnected_patient : Patient fun pdev => pdev.disconnected = true := by
  intro event pdev gone
  cases event <;> simp [AdminState.event, gone]

theorem idle_patient {keeps : AdminFrame Lifecycle → Prop} {marks : AdminMarks}
    (undisturbed : Undisturbed trafficEvent keeps) : Patient (Idle keeps marks) :=
  fun event _ idle => idle.event undisturbed event

theorem settled_patient {keeps : AdminFrame Lifecycle → Prop}
    (undisturbed : Undisturbed trafficEvent keeps) : Patient (Settled keeps) := by
  rintro event pdev (⟨recorded, poisoned, idle⟩ | ⟨recorded, command, busy⟩)
  · exact settled_of_idle (idle.event undisturbed event)
  · exact settled_of_busy (busy.event undisturbed event)

theorem held_patient {lives : Lifecycle → Prop} (lasting : Lasting lives) :
    Patient (Held lives) := by
  rintro event pdev (⟨poisoned, recorded, none_left, idle⟩ | settled)
  · exact .inl ⟨poisoned, recorded, none_left, idle.event (bare_undisturbed lasting) event⟩
  · exact .inr (settled_patient (armed_undisturbed lasting) event pdev settled)

end Polls

section Updates

variable {keeps changed : AdminFrame Lifecycle → Prop} {marks : AdminMarks} {pdev : MxPdev}
variable {change : Lifecycle → Lifecycle}

theorem Idle.updateLife (idle : Idle keeps marks pdev)
    (implies : ∀ frame, keeps frame → changed { frame with others := change frame.others }) :
    Idle changed marks (pdev.updateLife change) :=
  { idle with frame := implies _ idle.frame }

theorem Settled.updateLife (settled : Settled keeps pdev)
    (implies : ∀ frame, keeps frame → changed { frame with others := change frame.others }) :
    Settled changed (pdev.updateLife change) := by
  rcases settled with ⟨recorded, poisoned, idle⟩ | ⟨recorded, command, busy⟩
  · exact .inl ⟨recorded, poisoned, Idle.updateLife idle implies⟩
  · exact .inr ⟨recorded, command, { busy with frame := implies _ busy.frame }⟩

end Updates

/-! ## Without admin queue -/

/-- The property does not depend on the handler threads. -/
def Threadless (lives : Lifecycle → Prop) : Prop :=
  ∀ life, lives life → lives { life with queueThreads := false }

theorem fenced_threadless : Threadless Fenced := fun _ fenced => { fenced with }

theorem quiet_threadless (initialized : Bool) : Threadless (Quiet initialized) :=
  fun _ quiet => { quiet with }

/-- What `mxdma_stop_device_protocol` leaves behind. -/
def stopPost : Ret → MxPdev → Prop
  | none, pdev => pdev.disconnected = true ∨ Ended pdev
  | some _, pdev => pdev.protocolPoisoned = true ∧ Held Fenced pdev

section Bare

variable {lives : Lifecycle → Prop} {marks : AdminMarks} {poisoned initialized : Bool}

theorem stopThreads_bare (threadless : Threadless lives) (pdev : MxPdev)
    (idle : Idle (Bare lives) marks pdev) : Idle (Bare lives) marks pdev.mxStopQueueThreads :=
  Idle.updateLife idle fun _ bare =>
    { bare with life := threadless _ bare.life }

theorem recoverQueue_bare :
    Yields (Idle (Bare lives) marks) recoverQueue fun _ => Idle (Bare lives) marks := by
  apply meets_read
  intro pdev idle
  cases pdev.others.revision with
  | v1 => exact meets_pure fun _ same => same ▸ idle
  | v2 =>
    apply meets_read
    rintro now rfl
    have absent : now.hasAdminQueue = false := idle.frame.absent
    simp only [absent, Bool.not_false, if_true]
    exact meets_pure fun _ same => same ▸ idle

theorem releaseQueue_bare (threadless : Threadless lives) :
    Yields (Idle (Bare lives) marks) releaseQueue
      fun ret pdev => ret = none ∧ Idle (Bare lives) marks pdev := by
  apply meets_read
  intro pdev idle
  cases pdev.others.revision with
  | v1 =>
    apply meets_update_pure
    rintro _ rfl
    exact ⟨rfl, stopThreads_bare threadless _ idle⟩
  | v2 =>
    have absent : pdev.hasAdminQueue = false := idle.frame.absent
    simp only [absent, Bool.false_and, Bool.false_eq_true, if_false]
    exact meets_pure fun _ same => ⟨rfl, same ▸ idle⟩

/-- How the loop over `protocol_poisoned` ends: the device is gone, or it goes on with 0. -/
def ambiguousPost (drained : MxPdev → Prop) : Option Ret → MxPdev → Prop
  | none, pdev => pdev.disconnected = true
  | some ret, pdev => ret = none ∧ drained pdev

theorem drainAmbiguous_bare (lasting : Lasting lives) (poisoned_eq : marks.poisoned = poisoned) :
    Yields (Idle (Bare lives) marks) (loop drainAmbiguousRound none)
      (ambiguousPost (Idle (Bare lives) marks)) := by
  have whole := @meets_loop _ _ _ _ (fun _ => True) (ambiguousPost (Idle (Bare lives) marks))
    drainAmbiguousRound
      (fun ret pdev => Idle (Bare lives) marks pdev ∧ (ret = none ∨ poisoned = true))
  refine (whole ?_ (fun _ _ _ => trivial) none).mono ?_ (fun _ _ => id) (fun _ => id)
  · intro ret
    apply meets_read
    rintro pdev ⟨idle, carried⟩
    have same : pdev.protocolPoisoned = poisoned :=
      (congrArg AdminMarks.poisoned idle.marks_eq).trans poisoned_eq
    rw [same]
    cases poisoned with
    | false =>
      apply meets_pure
      rintro _ rfl
      exact ⟨carried.resolve_right nofun, idle⟩
    | true =>
      simp only [Bool.not_true, Bool.false_eq_true, if_false]
      split
      · rename_i gone
        apply meets_update_pure
        rintro _ rfl
        exact gone
      · apply meets_bind (Meets.of_eq idle recoverQueue_bare)
        rintro (_ | error)
        · exact meets_pure fun _ idle => ⟨rfl, idle⟩
        · apply yields_msleep (idle_patient (bare_undisturbed lasting))
          exact meets_pure fun _ idle => ⟨idle, .inr trivial⟩
  · exact fun _ idle => ⟨idle, .inl rfl⟩

theorem ended_of_bare {recorded : Option IoQueueRecord} {pdev : MxPdev}
    (none_left : AdminMarks.queues ⟨recorded, poisoned, false⟩ = {})
    (idle : Idle (Bare fun life => Fenced life ∧ life.io.idle = true)
      ⟨recorded, poisoned, false⟩ pdev) : Ended pdev :=
  ⟨recorded, poisoned, none_left, idle.mono fun _ bare =>
    ⟨bare.life.1, bare.life.2, bare.unprogrammed⟩⟩

theorem stopResult_bare {recorded : Option IoQueueRecord}
    (none_left : AdminMarks.queues ⟨recorded, poisoned, false⟩ = {}) :
    Yields (Idle (Bare fun life => Fenced life ∧ life.io.idle = true) ⟨recorded, poisoned, false⟩)
      (stopResult none) stopPost := by
  apply meets_read
  intro pdev idle
  have same : pdev.protocolPoisoned = poisoned := congrArg AdminMarks.poisoned idle.marks_eq
  apply meets_pure
  rintro now rfl
  rw [same]
  cases poisoned with
  | false => exact .inr (ended_of_bare none_left idle)
  | true =>
    refine ⟨same, .inl ⟨true, recorded, none_left, idle.mono ?_⟩⟩
    exact fun _ bare => bare.mono fun _ => And.left

theorem stopQueues_bare {recorded : Option IoQueueRecord} (actualPciUnbind : Bool)
    (none_left : AdminMarks.queues ⟨recorded, poisoned, false⟩ = {}) :
    Yields (Idle (Bare (Quiet initialized)) ⟨recorded, poisoned, false⟩)
      (stopQueues actualPciUnbind none) stopPost := by
  have skipped : Yields (Idle (Bare (Quiet initialized)) ⟨recorded, poisoned, false⟩)
      (disablePartialQueue actualPciUnbind none) fun result pdev => result = .inl none ∧
        Idle (Bare (Quiet initialized)) ⟨recorded, poisoned, false⟩ pdev := by
    apply meets_read
    intro pdev idle
    have unprogrammed : pdev.queueDmaProgrammed = false := idle.frame.unprogrammed
    simp only [unprogrammed, Bool.and_false, Bool.false_eq_true, if_false]
    exact meets_pure fun _ same => ⟨rfl, same ▸ idle⟩
  apply meets_bind skipped
  rintro (ret | ret)
  · apply meets_read
    rintro pdev ⟨same, idle⟩
    obtain rfl : ret = none := Sum.inl.inj same
    split
    · apply meets_bind (Meets.of_eq idle (releaseQueue_bare (quiet_threadless initialized)))
      rintro (_ | error)
      · refine meets_update ?_ (stopResult_bare none_left)
        rintro pdev ⟨-, idle⟩
        exact Idle.updateLife idle fun _ bare =>
          { bare with life := ⟨{ bare.life with }, bare.life.idle⟩ }
      · exact meets_of_false (by simp)
    · refine meets_update ?_ (stopResult_bare none_left)
      rintro _ rfl
      exact Idle.updateLife idle fun _ bare =>
        { bare with life := ⟨{ bare.life with }, bare.life.idle⟩ }
  · exact meets_of_false (by simp)

end Bare

end MxDriver
