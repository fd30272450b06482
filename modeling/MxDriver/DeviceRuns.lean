import MxDriver.DeviceStop

/-!
# Every attach and detach of a device

An attach that fails at any point is torn down at once, and what had to be kept is torn
down by the real unbinds that follow, as often as they come.  A teardown reports success
only when nothing can reach the memory any more.
-/

namespace MxDriver

open Polling AdminState AdminProgram MxPdev PdevProgram

/-- Where `mxdma_attach_device` and `mxdma_detach_device` have come to with an object. -/
inductive AttachPhase
  | allocated | failed | registered | dropped
  deriving DecidableEq, Repr

structure Attachment where
  phase : AttachPhase
  pdev : MxPdev
  deriving DecidableEq, Repr

def Attachment.start (revision : Revision) : Attachment where
  phase := .allocated
  pdev := { others := { revision := revision } }

/-- A call with the turns it takes, or time between two calls. -/
inductive AttachAction
  | create (outcomes : CreateOutcomes) (turns : List (List (AdminEvent TrafficEvent)))
  | undo (turns : List (List (AdminEvent TrafficEvent)))
  | unbind (turns : List (List (AdminEvent TrafficEvent)))
  | elapse (events : List (AdminEvent TrafficEvent))
  deriving DecidableEq, Repr

/-- The teardown in `phase`: an object that could not be freed stays registered. -/
def Attachment.destroy (attachment : Attachment) (actualPciUnbind : Bool)
    (turns : List (List (AdminEvent TrafficEvent))) : Option Attachment :=
  match destroyMxPdev actualPciUnbind turns attachment.pdev with
  | .returned true _ pdev => some ⟨.dropped, pdev⟩
  | .returned false _ pdev => some ⟨.registered, pdev⟩
  | .waiting _ => none

/-- `mxdma_attach_device` creates the object and undoes that if it failed;
`mxdma_detach_device` tears down what is registered. -/
def attachStep (attachment : Attachment) : AttachAction → Option Attachment
  | .create outcomes turns =>
    if attachment.phase = .allocated then
      match createMxPdev outcomes turns attachment.pdev with
      | .returned none _ pdev => some ⟨.registered, pdev⟩
      | .returned (some _) _ pdev => some ⟨.failed, pdev⟩
      | .waiting _ => none
    else none
  | .undo turns => if attachment.phase = .failed then attachment.destroy false turns else none
  | .unbind turns => if attachment.phase = .registered then attachment.destroy true turns else none
  | .elapse events =>
    some { attachment with pdev := attachment.pdev.environment trafficEvent events }

/-! ## Creating a device -/

/-- Nothing but the object exists. -/
structure Fresh (life : Lifecycle) : Prop extends Unfreed false life where
  unpublished : life.published = false
  uninitialized : life.queuesInitialized = false

theorem fresh_lasting : Lasting Fresh := by
  intro event life fresh
  obtain ⟨-, -, -, initialized, published, -⟩ := trafficEvent_freed event life
  exact ⟨unfreed_lasting false event life fresh.toUnfreed, published.trans fresh.unpublished,
    initialized.trans fresh.uninitialized⟩

theorem Held.updateReady {lives weaker : Lifecycle → Prop} {change : Lifecycle → Lifecycle}
    {pdev : MxPdev} (held : Held lives pdev) (ready : pdev.ioQueue.isSome = true)
    (implies : ∀ life, lives life → weaker (change life))
    (traffic : ∀ life, (change life).io = life.io ∧ (change life).revision = life.revision ∧
      ((change life).published = false → life.published = false)) :
    Held weaker (pdev.updateLife change) := by
  have frameOk : FrameOk lives pdev.frame →
      FrameOk weaker (pdev.updateLife change).frame := by
    intro ok
    obtain ⟨io, -, published⟩ := traffic pdev.others
    exact ⟨implies _ ok.life, fun now => io.trans (ok.traffic (published now)), fun _ => ready⟩
  have armed : Armed lives pdev.frame → Armed weaker (pdev.updateLife change).frame := by
    intro armed
    exact
      { armed with
        toFrameOk := frameOk armed.toFrameOk
        revision := (traffic pdev.others).2.1.trans armed.revision
        initialized := fun _ => ready }
  rcases held with ⟨poisoned, recorded, none_left, idle⟩ | ⟨recorded, poisoned, idle⟩ |
    ⟨recorded, command, busy⟩
  · exact .inl ⟨poisoned, recorded, none_left,
      { idle with frame := { idle.frame with toFrameOk := frameOk idle.frame.toFrameOk } }⟩
  · exact .inr (.inl ⟨recorded, poisoned, { idle with frame := armed idle.frame }⟩)
  · exact .inr (.inr ⟨recorded, command, { busy with frame := armed busy.frame }⟩)

/-- The queues work. -/
def Ready (lives : Lifecycle → Prop) (pdev : MxPdev) : Prop :=
  Held lives pdev ∧ pdev.ioQueue.isSome = true

theorem Ready.update {lives : Lifecycle → Prop} {change : Lifecycle → Lifecycle} {pdev : MxPdev}
    (ready : Ready lives pdev) (implies : ∀ life, lives life → lives (change life))
    (traffic : ∀ life, (change life).io = life.io ∧ (change life).revision = life.revision ∧
      ((change life).published = false → life.published = false)) :
    Ready lives (pdev.updateLife change) :=
  ⟨ready.1.updateReady ready.2 implies traffic, ready.2⟩

theorem createWorkers_yields (outcomes : CreateOutcomes) :
    Yields (Ready (Unfreed false)) (createWorkers outcomes) fun _ => Held (Unfreed false) := by
  refine meets_update (fun _ ready => ready.update ?_ ?_) ?_
  · exact fun _ unfreed => { unfreed with }
  · exact fun _ => ⟨rfl, rfl, id⟩
  split
  · exact meets_pure fun _ ready => ready.1
  split
  · exact meets_pure fun _ ready => ready.1
  refine meets_update (fun _ ready => ready.update ?_ ?_) ?_
  · exact fun _ unfreed => { unfreed with }
  · exact fun _ => ⟨rfl, rfl, id⟩
  split
  · exact meets_pure fun _ ready => ready.1
  refine meets_update (fun _ ready => ready.update ?_ ?_) ?_
  · exact fun _ unfreed => { unfreed with }
  · exact fun _ => ⟨rfl, rfl, nofun⟩
  exact meets_pure fun _ ready => ready.1

/-- How `ops.init_queue` ends. -/
def initPost : Ret → MxPdev → Prop
  | none => Ready (Unfreed false)
  | some _ => Held (Unfreed false)

theorem held_of_fresh {pdev : MxPdev} (settled : Settled (Armed Fresh) pdev) :
    Held (Unfreed false) pdev :=
  .inr (settled.mono fun _ armed => armed.mono fun _ fresh => fresh.toUnfreed)

theorem unarmed_of_fresh {pdev : MxPdev} {recorded : Option IoQueueRecord}
    (none_left : AdminMarks.queues ⟨recorded, false, false⟩ = {})
    (idle : Idle (Bare Fresh) ⟨recorded, false, false⟩ pdev) : Held (Unfreed false) pdev :=
  .inl ⟨false, recorded, none_left,
    idle.mono fun _ bare => bare.mono fun _ fresh => fresh.toUnfreed⟩

theorem armed_of_fresh {pdev : MxPdev} (revision : pdev.others.revision = .v2)
    (idle : Idle (Bare Fresh) ⟨none, false, false⟩ pdev) :
    Idle (Armed Fresh) ⟨none, false, false⟩ (AdminState.configureAdminQueue pdev) where
  frame :=
    { idle.frame.toFrameOk with
      present := rfl
      programmed := rfl
      revision := revision
      initialized := fun now => by
        have uninitialized : pdev.others.queuesInitialized = false := idle.frame.life.uninitialized
        exact nomatch uninitialized.symm.trans now }
  marks_eq := congrArg (fun marks : AdminMarks => { marks with desynced := false }) idle.marks_eq
  waitCount := rfl
  pending := rfl
  device := idle.device
  log := idle.log

theorem configure_fresh (outcomes : CreateOutcomes) :
    Yields (Idle (Armed Fresh) ⟨none, false, false⟩)
      (do
        match ← configureIoQueue trafficEvent outcomes.ioAllocated outcomes.started with
        | some error => return some error
        | none =>
          update (updateLife ({ · with queueThreads := true }))
          return none)
      initPost := by
  have configured : Yields (Idle (Armed Fresh) ⟨none, false, false⟩)
      (configureIoQueue trafficEvent outcomes.ioAllocated outcomes.started)
      (configurePost (Armed Fresh) false) := by
    cases outcomes.ioAllocated with
    | some error => exact meets_pure fun _ idle => settled_of_idle idle
    | none =>
      apply yields_of_meets
      apply configureIoQueue_meets (armed_undisturbed fresh_lasting) _ rfl
      intro frame armed
      exact { armed with queue := fun _ => rfl, initialized := fun _ => rfl }
  apply meets_bind configured
  rintro (_ | error)
  · apply meets_update_pure
    rintro pdev ⟨ioQueue, idle⟩
    have recorded : pdev.ioQueue = some ioQueue := congrArg AdminMarks.ioQueue idle.marks_eq
    have ready : Ready (Unfreed false) pdev :=
      ⟨held_of_fresh (settled_of_idle idle), by simp [recorded]⟩
    apply ready.update
    · exact fun _ unfreed => { unfreed with }
    · exact fun _ => ⟨rfl, rfl, id⟩
  · exact meets_pure fun _ settled => held_of_fresh settled

theorem initQueue_yields (outcomes : CreateOutcomes) :
    Yields (Idle (Bare Fresh) ⟨none, false, false⟩) (initQueue outcomes) initPost := by
  apply meets_read
  intro pdev idle
  -- What fails before a queue is installed leaves the device as it was.
  have failed : ∀ ret : Ret, ret.isSome = true → Yields (· = pdev) (pure ret) initPost := by
    intro ret failed
    obtain ⟨error, rfl⟩ := Option.isSome_iff_exists.mp failed
    exact meets_pure fun _ now => unarmed_of_fresh rfl (now ▸ idle)
  cases revision : pdev.others.revision with
  | v1 =>
    simp only
    split
    · exact failed _ ‹_›
    split
    · exact failed _ ‹_›
    have installed : ∀ now, now = pdev → Ready (Unfreed false) now.newIoQueue := by
      rintro _ rfl
      have installed := idle.newIoQueue (fun _ bare => { bare with queue := fun _ => rfl }) rfl
      exact ⟨unarmed_of_fresh rfl installed, rfl⟩
    apply meets_update installed
    apply meets_update_pure
    intro pdev ready
    apply ready.update
    · exact fun _ unfreed => { unfreed with }
    · exact fun _ => ⟨rfl, rfl, id⟩
  | v2 =>
    simp only
    split
    · exact failed _ ‹_›
    have armed : ∀ now, now = pdev →
        Idle (Armed Fresh) ⟨none, false, false⟩ (AdminState.configureAdminQueue now) := by
      rintro now rfl
      exact armed_of_fresh revision idle
    exact meets_update armed (configure_fresh outcomes)

theorem createMxPdev_yields (outcomes : CreateOutcomes) :
    Yields (Idle (Bare Fresh) ⟨none, false, false⟩) (createMxPdev outcomes)
      fun _ => Held (Unfreed false) := by
  have keeps : ∀ pdev, Idle (Bare Fresh) ⟨none, false, false⟩ pdev →
      Held (Unfreed false) pdev := fun _ idle => unarmed_of_fresh rfl idle
  unfold createMxPdev
  split
  · exact meets_pure keeps
  split
  · exact meets_pure keeps
  have mapped : ∀ pdev : MxPdev, Idle (Bare Fresh) ⟨none, false, false⟩ pdev →
      Idle (Bare Fresh) ⟨none, false, false⟩
        { pdev with barMappedSize := outcomes.barMappedSize } := by
    intro pdev idle
    exact { idle with frame := { idle.frame with } }
  apply meets_update mapped
  split
  · exact meets_pure keeps
  split
  · exact meets_pure keeps
  apply meets_bind (initQueue_yields outcomes)
  rintro (_ | error)
  · exact createWorkers_yields outcomes
  · exact meets_pure fun _ held => held

/-! ## Runs -/

/-- An object that may be torn down: one whose teardown was started carries the mark. -/
def Destroyable (pdev : MxPdev) : Prop :=
  ∃ started, Held (Unfreed started) pdev ∧ (started = true → pdev.protocolPoisoned = true)

theorem destroyable_patient : Patient Destroyable := by
  rintro event pdev ⟨started, held, marked⟩
  refine ⟨started, held_patient (unfreed_lasting started) event pdev held, ?_⟩
  rw [event_protocolPoisoned]
  exact marked

/-- What holds in each phase. -/
def Attachment.Ok (attachment : Attachment) : Prop :=
  match attachment.phase with
  | .allocated => Idle (Bare Fresh) ⟨none, false, false⟩ attachment.pdev
  | .failed => Held (Unfreed false) attachment.pdev
  | .registered => Destroyable attachment.pdev
  | .dropped => True

theorem attachment_ok_start (revision : Revision) : (Attachment.start revision).Ok :=
  { frame :=
      { life := ⟨⟨rfl, rfl, nofun⟩, rfl, rfl⟩
        traffic := fun _ => rfl
        queue := nofun
        absent := rfl
        unprogrammed := rfl }
    marks_eq := rfl
    waitCount := rfl
    pending := rfl
    device := rfl
    log := ⟨rfl, nofun, nofun⟩ }

section Step

variable {attachment next : Attachment}

theorem Attachment.Ok.destroyable (ok : attachment.Ok)
    (live : attachment.phase = .failed ∨ attachment.phase = .registered) :
    Destroyable attachment.pdev := by
  rcases live with failed | registered
  · rw [Attachment.Ok, failed] at ok
    exact ⟨false, ok, nofun⟩
  · rw [Attachment.Ok, registered] at ok
    exact ok

theorem Attachment.Ok.destroy (ok : attachment.Ok)
    (live : attachment.phase = .failed ∨ attachment.phase = .registered) {actualPciUnbind : Bool}
    {turns : List (List (AdminEvent TrafficEvent))}
    (step : attachment.destroy actualPciUnbind turns = some next) : next.Ok := by
  obtain ⟨started, before⟩ := ok.destroyable live
  have ends := destroyMxPdev_yields actualPciUnbind turns attachment.pdev before
  rw [Attachment.destroy] at step
  split at step
  · cases step
    trivial
  · rename_i outcome
    rw [outcome] at ends
    cases step
    exact ⟨true, ends.2, fun _ => ends.1⟩
  · cases step

theorem Attachment.Ok.elapse (ok : attachment.Ok) (events : List (AdminEvent TrafficEvent)) :
    Attachment.Ok { attachment with pdev := attachment.pdev.environment trafficEvent events } := by
  have lasts {property : MxPdev → Prop} (patient : Patient property)
      (holds : property attachment.pdev) :
      property (attachment.pdev.environment trafficEvent events) :=
    environment_keeps (fun pdev event holds => patient event pdev holds) events _ holds
  unfold Attachment.Ok at ok ⊢
  cases phase : attachment.phase with
  | allocated =>
    rw [phase] at ok
    exact lasts (idle_patient (bare_undisturbed fresh_lasting)) ok
  | failed =>
    rw [phase] at ok
    exact lasts (held_patient (unfreed_lasting false)) ok
  | registered =>
    rw [phase] at ok
    exact lasts destroyable_patient ok
  | dropped => trivial

theorem attachment_ok_step (ok : attachment.Ok) {action : AttachAction}
    (step : attachStep attachment action = some next) : next.Ok := by
  cases action with
  | create outcomes turns =>
    rw [attachStep] at step
    split at step
    · rename_i allocated
      rw [Attachment.Ok, allocated] at ok
      have ends := createMxPdev_yields outcomes turns attachment.pdev ok
      split at step
      · rename_i outcome
        rw [outcome] at ends
        cases step
        exact ⟨false, ends, nofun⟩
      · rename_i outcome
        rw [outcome] at ends
        cases step
        exact ends
      · cases step
    · cases step
  | undo turns =>
    rw [attachStep] at step
    split at step
    · rename_i failed
      exact ok.destroy (.inl failed) step
    · cases step
  | unbind turns =>
    rw [attachStep] at step
    split at step
    · rename_i registered
      exact ok.destroy (.inr registered) step
    · cases step
  | elapse events =>
    cases step
    exact ok.elapse events

end Step

/-- Teardown fails closed.  In every sequence of an attach, its undoing if it failed, and
unbinds, a teardown returns true only if nothing can reach the memory any more, and if it
returns false nothing was freed and the mark is set.  So whatever was started and stays
registered carries the mark, and the next unbind does not take the short way out. -/
theorem teardown_fails_closed {revision : Revision} {attachment : Attachment}
    (reached : Reached attachStep (Attachment.start revision) attachment) :
    (∀ actualPciUnbind turns rest pdev,
      attachment.phase = .failed ∨ attachment.phase = .registered →
      (destroyMxPdev actualPciUnbind turns attachment.pdev = .returned true rest pdev →
        Unreachable pdev) ∧
      (destroyMxPdev actualPciUnbind turns attachment.pdev = .returned false rest pdev →
        pdev.others.freed = [] ∧ pdev.protocolPoisoned = true)) ∧
    (attachment.phase = .registered → attachment.pdev.others.teardownStarted = true →
      attachment.pdev.protocolPoisoned = true) := by
  have ok : attachment.Ok := by
    apply reached.invariant (attachment_ok_start revision)
    intro current action next ok _ step
    exact attachment_ok_step ok step
  constructor
  · intro actualPciUnbind turns rest pdev live
    obtain ⟨started, before⟩ := ok.destroyable live
    have ends := destroyMxPdev_yields actualPciUnbind turns attachment.pdev before
    constructor
    · intro outcome
      rw [outcome] at ends
      exact ends
    · intro outcome
      rw [outcome] at ends
      exact ⟨ends.2.frameOk.life.freed, ends.1⟩
  · intro registered begun
    obtain ⟨started, held, marked⟩ := ok.destroyable (.inr registered)
    exact marked (held.frameOk.life.started_eq.symm.trans begun)

/-- The completion queue is created too late for the attach, which is undone in vain. -/
def lateCreateAttach : List AttachAction :=
  [.create { barMappedSize := 0x2000 } ([] :: List.replicate adminTimeout []),
    .undo [[]],
    .elapse [.execute 3 1, .report]]

/-- The unbind takes the late completion and deletes the completion queue. -/
def lateCreateUnbind : List (List (AdminEvent TrafficEvent)) :=
  [[], [], [], [], [], [.execute 0 2, .report], []]

theorem teardown_fails_closed_lateCreate :
    ∃ attachment rest pdev,
      runActions attachStep (Attachment.start .v2) lateCreateAttach = some attachment ∧
      attachment.phase = .registered ∧ attachment.pdev.device.queues = ⟨some 3, none⟩ ∧
      destroyMxPdev true lateCreateUnbind attachment.pdev = .returned true rest pdev ∧
      Unreachable pdev := by
  have outcome : ((runActions attachStep (Attachment.start .v2) lateCreateAttach).map
      fun attachment => (attachment.phase, attachment.pdev.device.queues,
        (destroyMxPdev true lateCreateUnbind attachment.pdev).value?)) =
      some (.registered, ⟨some 3, none⟩, some true) := by
    decide +kernel
  obtain ⟨attachment, run, ended⟩ := Option.map_eq_some_iff.mp outcome
  simp only [Prod.mk.injEq] at ended
  obtain ⟨registered, queues, returns⟩ := ended
  obtain ⟨rest, pdev, returned⟩ := Polled.returned_of_value returns
  have closed := teardown_fails_closed (reached_of_runActions run)
  exact ⟨attachment, rest, pdev, run, registered, queues, returned,
    (closed.1 true lateCreateUnbind rest pdev (.inr registered)).1 returned⟩

end MxDriver
