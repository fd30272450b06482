import MxDriver.DeviceTeardown

/-!
# Stopping the protocol of a programmed device

The device knows the addresses of the admin queue.  The teardown comes to an end when the
queues are deleted and the addresses cleared, or when the device is gone.  A teardown that
cannot wait gives up with the mark set.
-/

namespace MxDriver

open Polling AdminState AdminProgram MxPdev PdevProgram

section Armed

variable {lives : Lifecycle → Prop} {initialized : Bool}

theorem recoverQueue_armed (lasting : Lasting lives) :
    Yields (Settled (Armed lives)) recoverQueue (recoverPost (Armed lives)) := by
  apply meets_read
  intro pdev settled
  have revision : pdev.others.revision = .v2 := by
    rcases settled with ⟨_, _, idle⟩ | ⟨_, _, busy⟩
    · exact idle.frame.revision
    · exact busy.frame.revision
  rw [revision]
  apply Meets.of_eq settled
  exact yields_of_meets
    (recoverMxQueue_meets (armed_undisturbed lasting) fun _ armed => armed.present)

theorem marked_patient {keeps : AdminFrame Lifecycle → Prop}
    (undisturbed : Undisturbed trafficEvent keeps) :
    Patient fun pdev => Settled keeps pdev ∧ pdev.protocolPoisoned = true := by
  rintro event pdev ⟨settled, marked⟩
  exact ⟨settled_patient undisturbed event pdev settled,
    (event_protocolPoisoned pdev event).trans marked⟩

/-- The queues work, or the protocol is stopped. -/
def Unambiguous (lives : Lifecycle → Prop) (pdev : MxPdev) : Prop :=
  (∃ recorded, Idle (Armed lives) ⟨recorded, false, false⟩ pdev) ∨ Stopped (Armed lives) false pdev

theorem drainAmbiguous_armed (lasting : Lasting lives) :
    Yields (Settled (Armed lives)) (loop drainAmbiguousRound none)
      (ambiguousPost (Unambiguous lives)) := by
  have whole := @meets_loop _ _ _ _ (fun _ => True) (ambiguousPost (Unambiguous lives))
    drainAmbiguousRound
    (fun ret pdev => Settled (Armed lives) pdev ∧ (ret = none ∨ pdev.protocolPoisoned = true))
  refine (whole ?_ (fun _ _ _ => trivial) none).mono ?_ (fun _ _ => id) (fun _ => id)
  · intro ret
    apply meets_read
    rintro pdev ⟨settled, carried⟩
    cases marked : pdev.protocolPoisoned with
    | false =>
      apply meets_pure
      rintro _ rfl
      refine ⟨carried.resolve_right ?_, .inl (settled.idle_of_unpoisoned marked)⟩
      simp [marked]
    | true =>
      simp only [Bool.not_true, Bool.false_eq_true, if_false]
      split
      · rename_i gone
        apply meets_update_pure
        rintro _ rfl
        exact gone
      · apply meets_bind (Meets.of_eq settled (recoverQueue_armed lasting))
        rintro (_ | error)
        · exact meets_pure fun _ stopped => ⟨rfl, .inr stopped⟩
        · have failed : ∀ pdev, recoverPost (Armed lives) (some error) pdev →
              Settled (Armed lives) pdev ∧ pdev.protocolPoisoned = true := fun _ ended => ended.2
          refine Meets.mono ?_ failed (fun _ _ => id) (fun _ => id)
          apply yields_msleep (marked_patient (armed_undisturbed lasting))
          exact meets_pure fun _ ⟨settled, marked⟩ => ⟨settled, .inr marked⟩
  · exact fun _ settled => ⟨settled, .inl rfl⟩

/-- A recovery is repeated until it succeeds or the device is gone. -/
def repeatPost (lives : Lifecycle → Prop) : Bool → MxPdev → Prop
  | true, pdev => Stopped (Armed lives) false pdev
  | false, pdev => pdev.disconnected = true

theorem disablePartial_armed (lasting : Lasting lives) :
    Yields (Settled (Armed lives)) (forever disablePartialRound) (repeatPost lives) := by
  apply meets_forever
  · apply meets_read
    intro pdev settled
    split
    · rename_i gone
      exact meets_pure fun _ same => same ▸ gone
    · apply Meets.of_eq settled
      apply yields_msleep (settled_patient (armed_undisturbed lasting))
      apply meets_bind (recoverQueue_armed lasting)
      rintro (_ | error)
      · exact meets_pure fun _ stopped => stopped
      · exact meets_pure fun _ failed => failed.2.1
  · exact fun _ _ => trivial

theorem recoverDeletion_armed (lasting : Lasting lives) :
    Yields (Settled (Armed lives)) (forever recoverDeletionRound) (repeatPost lives) := by
  apply meets_forever
  · apply meets_read
    intro pdev settled
    split
    · rename_i gone
      exact meets_pure fun _ same => same ▸ gone
    · apply meets_bind (Meets.of_eq settled (recoverQueue_armed lasting))
      rintro (_ | error)
      · exact meets_pure fun _ stopped => stopped
      · have failed : ∀ pdev, recoverPost (Armed lives) (some error) pdev →
            Settled (Armed lives) pdev := fun _ ended => ended.2.1
        refine Meets.mono ?_ failed (fun _ _ => id) (fun _ => id)
        apply yields_msleep (settled_patient (armed_undisturbed lasting))
        exact meets_pure fun _ settled => settled
  · exact fun _ _ => trivial

/-! ## The queues -/

theorem held_of_quiet {pdev : MxPdev} (settled : Settled (Armed (Quiet initialized)) pdev) :
    Held Fenced pdev :=
  .inr (settled.mono fun _ armed => armed.mono fun _ quiet => quiet.toFenced)

/-- How the part about a partial queue ends. -/
def partialPost (initialized : Bool) : Ret ⊕ Ret → MxPdev → Prop
  | .inl ret, pdev => ret = none ∧
      ((initialized = true ∧
          ∃ recorded, Idle (Armed (Quiet initialized)) ⟨recorded, false, false⟩ pdev) ∨
        Stopped (Armed (Quiet initialized)) false pdev)
  | .inr ret, pdev => stopPost ret pdev

theorem disablePartialQueue_armed {recorded : Option IoQueueRecord} (actualPciUnbind : Bool) :
    Yields (Idle (Armed (Quiet initialized)) ⟨recorded, false, false⟩)
      (disablePartialQueue actualPciUnbind none) (partialPost initialized) := by
  apply meets_read
  intro pdev idle
  have programmed : pdev.queueDmaProgrammed = true := idle.frame.programmed
  have same : pdev.others.queuesInitialized = initialized := idle.frame.life.initialized_eq
  rw [programmed, same]
  cases initialized with
  | true => exact meets_pure fun _ now => ⟨rfl, .inl ⟨rfl, recorded, now ▸ idle⟩⟩
  | false =>
    simp only [Bool.not_false, Bool.and_self, if_true]
    apply meets_bind (Meets.of_eq (settled_of_idle idle) (recoverQueue_armed (quiet_lasting false)))
    rintro (_ | error)
    · exact meets_pure fun _ stopped => ⟨rfl, .inr stopped⟩
    cases actualPciUnbind with
    | false =>
      apply meets_update_pure
      rintro pdev ⟨-, settled, -⟩
      exact ⟨rfl, held_of_quiet settled.setPoisoned⟩
    | true =>
      have failed : ∀ pdev, recoverPost (Armed (Quiet false)) (some error) pdev →
          Settled (Armed (Quiet false)) pdev := fun _ ended => ended.2.1
      apply meets_bind ((disablePartial_armed (quiet_lasting false)).mono failed (fun _ _ => id)
        fun _ => id)
      rintro (_ | _)
      · exact meets_pure fun _ gone => .inl gone
      · exact meets_pure fun _ stopped => ⟨rfl, .inr stopped⟩

theorem disablePartialQueue_stopped (actualPciUnbind : Bool) :
    Yields (Stopped (Armed (Quiet initialized)) false)
      (disablePartialQueue actualPciUnbind none) (partialPost initialized) := by
  apply meets_read
  intro pdev stopped
  obtain ⟨recorded, none_left, idle⟩ := stopped
  obtain ⟨frame, armed, cleared⟩ := idle.frame
  have unprogrammed : pdev.queueDmaProgrammed = false :=
    congrArg AdminFrame.queueDmaProgrammed cleared
  simp only [unprogrammed, Bool.and_false, Bool.false_eq_true, if_false]
  apply meets_pure
  rintro _ rfl
  exact ⟨rfl, .inr ⟨recorded, none_left, idle⟩⟩

theorem stopResult_stopped {change : Lifecycle → Lifecycle}
    (harmless : ∀ life, Quiet initialized life →
      Fenced (change life) ∧ (change life).io.idle = true) :
    Yields (Stopped (Armed (Quiet initialized)) false)
      (do
        update (updateLife change)
        stopResult none)
      stopPost := by
  rintro turns pdev ⟨recorded, none_left, idle⟩
  have clear : pdev.protocolPoisoned = false := congrArg AdminMarks.poisoned idle.marks_eq
  have result : stopResult none turns (pdev.updateLife change) =
      .returned none turns (pdev.updateLife change) := by
    change Polled.returned (if pdev.protocolPoisoned then some Errno.eio else none) _ _ = _
    rw [clear]
    rfl
  change Ends stopPost _ (stopResult none turns (pdev.updateLife change))
  rw [result]
  refine .inr ⟨recorded, false, none_left, Idle.updateLife idle ?_⟩
  rintro _ ⟨frame, armed, rfl⟩
  exact ⟨(harmless _ armed.life).1, (harmless _ armed.life).2, rfl⟩

theorem clearQueuesInitialized_stopped :
    Yields (Stopped (Armed (Quiet initialized)) false) clearQueuesInitialized stopPost :=
  stopResult_stopped fun _ quiet => ⟨{ quiet with }, quiet.idle⟩

theorem Armed.stopThreads {frame : AdminFrame Lifecycle} (armed : Armed (Quiet initialized) frame) :
    Armed (Quiet initialized)
      { frame with others := { frame.others with queueThreads := false } } :=
  { armed with life := quiet_threadless initialized _ armed.life }

theorem releaseQueue_armed {recorded : Option IoQueueRecord} :
    Yields (Idle (Armed (Quiet true)) ⟨recorded, false, false⟩) releaseQueue
      (releasePost (Armed (Quiet true)) false) := by
  apply meets_read
  intro pdev idle
  have present : pdev.hasAdminQueue = true := idle.frame.present
  have hasIoQueue : pdev.ioQueue.isSome = true :=
    idle.frame.initialized idle.frame.life.initialized_eq
  have recorded_eq : pdev.ioQueue = recorded := congrArg AdminMarks.ioQueue idle.marks_eq
  obtain ⟨ioQueue, some_eq⟩ := Option.isSome_iff_exists.mp hasIoQueue
  obtain rfl : recorded = some ioQueue := recorded_eq.symm.trans some_eq
  have revision : pdev.others.revision = .v2 := idle.frame.revision
  rw [revision, present, hasIoQueue]
  have stopped : ∀ now, now = pdev →
      Idle (Armed (Quiet true)) ⟨some ioQueue, false, false⟩ now.mxStopQueueThreads := by
    rintro _ rfl
    exact Idle.updateLife idle fun _ => Armed.stopThreads
  exact meets_update stopped (yields_of_meets (releaseIoQueue_meets
    (armed_undisturbed (quiet_lasting true)) fun _ armed => armed.present))

/-- Releasing again after the protocol has stopped does no harm. -/
theorem releaseQueue_stopped :
    Yields (Stopped (Armed (Quiet true)) false) releaseQueue
      fun ret pdev => ret = none ∧ Stopped (Armed (Quiet true)) false pdev := by
  apply meets_read
  rintro pdev ⟨recorded, none_left, idle⟩
  obtain ⟨frame, armed, cleared⟩ := idle.frame
  have others : pdev.others = frame.others := congrArg AdminFrame.others cleared
  have present : pdev.hasAdminQueue = true :=
    (congrArg AdminFrame.hasAdminQueue cleared).trans armed.present
  have hasIoQueue : pdev.ioQueue.isSome = true :=
    (congrArg AdminFrame.hasIoQueue cleared).trans (armed.initialized armed.life.initialized_eq)
  have recorded_eq : pdev.ioQueue = recorded := congrArg AdminMarks.ioQueue idle.marks_eq
  obtain ⟨ioQueue, some_eq⟩ := Option.isSome_iff_exists.mp hasIoQueue
  obtain rfl : recorded = some ioQueue := recorded_eq.symm.trans some_eq
  rw [others, armed.revision, present, hasIoQueue]
  have released := @releaseIoQueue_absent _ _ trafficEvent (Cleared (Armed (Quiet true)))
    (fun _ => True) ioQueue false (by rintro _ ⟨frame, armed, rfl⟩; exact armed.present) none_left
  refine meets_update ?_ (released.mono (fun _ => id) ?_ fun _ => id)
  · rintro _ rfl
    apply Idle.updateLife idle
    rintro _ ⟨frame, armed, rfl⟩
    exact ⟨_, armed.stopThreads, rfl⟩
  · rintro ret pdev ⟨done, stopped⟩
    exact ⟨done, stopped.of_cleared⟩

theorem releaseQueues_armed (actualPciUnbind : Bool) :
    Yields (partialPost initialized (.inl none)) (releaseQueues actualPciUnbind none) stopPost := by
  apply meets_read
  rintro pdev ⟨-, ⟨rfl, recorded, idle⟩ | stopped⟩
  · have same : pdev.others.queuesInitialized = true := idle.frame.life.initialized_eq
    rw [same]
    apply meets_bind (Meets.of_eq idle releaseQueue_armed)
    rintro (_ | error)
    · exact clearQueuesInitialized_stopped
    have marked : ∀ pdev, releasePost (Armed (Quiet true)) false (some error) pdev →
        Settled (Armed (Quiet true)) (pdev.setPoisoned true) := fun _ settled => settled.setPoisoned
    cases actualPciUnbind with
    | false =>
      apply meets_update_pure
      exact fun _ settled => ⟨rfl, held_of_quiet settled.setPoisoned⟩
    | true =>
      refine meets_update marked (meets_bind (recoverDeletion_armed (quiet_lasting true)) ?_)
      rintro (_ | _)
      · exact meets_pure fun _ gone => .inl gone
      · exact clearQueuesInitialized_stopped
  · obtain ⟨recorded, none_left, idle⟩ := stopped
    obtain ⟨frame, armed, cleared⟩ := idle.frame
    have same : pdev.others.queuesInitialized = initialized :=
      (congrArg (fun frame => frame.others.queuesInitialized) cleared).trans
        armed.life.initialized_eq
    rw [same]
    cases initialized with
    | true =>
      apply meets_bind (Meets.of_eq ⟨recorded, none_left, idle⟩ releaseQueue_stopped)
      rintro (_ | error)
      · exact clearQueuesInitialized_stopped.mono (fun _ => And.right) (fun _ _ => id) fun _ => id
      · exact meets_of_false (by simp)
    | false =>
      exact Meets.of_eq ⟨recorded, none_left, idle⟩
        (stopResult_stopped fun _ quiet => ⟨{ quiet with }, quiet.idle⟩)

theorem stopQueues_armed (actualPciUnbind : Bool) :
    Yields (Unambiguous (Quiet initialized)) (stopQueues actualPciUnbind none) stopPost := by
  have disabled : Yields (Unambiguous (Quiet initialized))
      (disablePartialQueue actualPciUnbind none) (partialPost initialized) :=
    meets_or (meets_exists fun _ => disablePartialQueue_armed actualPciUnbind)
      (disablePartialQueue_stopped actualPciUnbind)
  apply meets_bind disabled
  rintro (ret | ret)
  · rintro turns pdev ⟨rfl, going⟩
    exact releaseQueues_armed actualPciUnbind turns pdev ⟨rfl, going⟩
  · exact meets_pure fun _ ended => ended

end Armed

/-! ## The whole teardown -/

section Teardown

variable {lives weaker : Lifecycle → Prop} {pdev : MxPdev} {started : Bool}

/-- Where the frame comes from does not matter for a property of the lifecycle. -/
theorem Held.strengthen (held : Held lives pdev)
    (implies : FrameOk lives pdev.frame → weaker pdev.others) : Held weaker pdev := by
  rcases held with ⟨poisoned, recorded, none_left, idle⟩ | ⟨recorded, poisoned, idle⟩ |
    ⟨recorded, command, busy⟩
  · have frame := idle.frame
    exact .inl ⟨poisoned, recorded, none_left,
      { idle with frame := { frame with life := implies frame.toFrameOk } }⟩
  · have frame := idle.frame
    exact .inr (.inl ⟨recorded, poisoned,
      { idle with frame := { frame with life := implies frame.toFrameOk } }⟩)
  · have frame := busy.frame
    exact .inr (.inr ⟨recorded, command,
      { busy with frame := { frame with life := implies frame.toFrameOk } }⟩)

theorem Held.frameOk (held : Held lives pdev) : FrameOk lives pdev.frame := by
  rcases held with ⟨_, _, _, idle⟩ | ⟨_, _, idle⟩ | ⟨_, _, busy⟩
  · exact idle.frame.toFrameOk
  · exact idle.frame.toFrameOk
  · exact busy.frame.toFrameOk

theorem Held.setPoisoned (held : Held lives pdev) :
    Held lives (AdminState.setPoisoned pdev true) := by
  rcases held with ⟨_, recorded, none_left, idle⟩ | settled
  · refine .inl ⟨true, recorded, ?_, idle.setPoisoned true⟩
    cases recorded with
    | none => rfl
    | some ioQueue => exact none_left
  · exact .inr settled.setPoisoned

theorem Held.updateLife {change : Lifecycle → Lifecycle} (held : Held lives pdev)
    (implies : ∀ life, lives life → weaker (change life))
    (traffic : ∀ life, (change life).io = life.io ∧ (change life).published = life.published ∧
      (change life).revision = life.revision ∧
      (change life).queuesInitialized = life.queuesInitialized) :
    Held weaker (pdev.updateLife change) := by
  have frameOk : ∀ frame, FrameOk lives frame →
      FrameOk weaker { frame with others := change frame.others } := by
    intro frame ok
    obtain ⟨io, published, -, -⟩ := traffic frame.others
    refine ⟨implies _ ok.life, ?_, ?_⟩
    · exact fun unpublished => io.trans (ok.traffic (published.symm.trans unpublished))
    · exact fun present => ok.queue (published.symm.trans present)
  rcases held with ⟨poisoned, recorded, none_left, idle⟩ | settled
  · refine .inl ⟨poisoned, recorded, none_left, Idle.updateLife idle ?_⟩
    exact fun frame bare => { bare with toFrameOk := frameOk frame bare.toFrameOk }
  · refine .inr (Settled.updateLife settled ?_)
    intro frame armed
    obtain ⟨-, -, revision, initialized⟩ := traffic frame.others
    exact
    { armed with
      toFrameOk := frameOk frame armed.toFrameOk
      revision := revision.trans armed.revision
      initialized := fun now => armed.initialized (initialized.symm.trans now) }

theorem Held.stopThreads (held : Held Fenced pdev) : Held Fenced pdev.mxStopQueueThreads :=
  held.updateLife fenced_threadless fun _ => ⟨rfl, rfl, rfl, rfl⟩

/-- The idle test is right about the traffic. -/
theorem Held.quiet (held : Held Fenced pdev) (idle : pdev.mxdmaIoQueueIdle = true) :
    Held (Quiet pdev.others.queuesInitialized) pdev := by
  apply held.strengthen
  intro ok
  refine ⟨ok.life, ?_, rfl⟩
  rcases Bool.or_eq_true_iff.mp idle with absent | idle
  · have unpublished : pdev.others.published = false := by
      apply Bool.eq_false_iff.mpr
      intro published
      have present : pdev.ioQueue.isSome = true := ok.queue published
      cases recorded : pdev.ioQueue <;> simp [recorded] at absent present
    have empty : pdev.others.io = {} := ok.traffic unpublished
    rw [empty]
    rfl
  · exact idle

theorem drainAmbiguous_yields (initialized : Bool) :
    Yields (Held (Quiet initialized))
      (do
        match ← loop drainAmbiguousRound none with
        | none => return none
        | some ret => stopQueues true ret)
      stopPost := by
  apply meets_or
  · apply meets_exists
    intro poisoned
    apply meets_exists
    rintro recorded turns pdev ⟨none_left, idle⟩
    refine meets_bind (drainAmbiguous_bare (quiet_lasting initialized) rfl) ?_ turns pdev idle
    rintro (_ | ret)
    · exact meets_pure fun _ gone => .inl gone
    · rintro turns pdev ⟨rfl, idle⟩
      exact stopQueues_bare true none_left turns pdev idle
  · apply meets_bind (drainAmbiguous_armed (quiet_lasting initialized))
    rintro (_ | ret)
    · exact meets_pure fun _ gone => .inl gone
    · rintro turns pdev ⟨rfl, drained⟩
      exact stopQueues_armed true turns pdev drained

theorem stopQueues_yields (initialized : Bool) :
    Yields (fun pdev => Held (Quiet initialized) pdev ∧ pdev.protocolPoisoned = false)
      (stopQueues false none) stopPost := by
  rintro turns pdev ⟨⟨poisoned, recorded, none_left, idle⟩ | settled, clear⟩
  · exact stopQueues_bare false none_left turns pdev idle
  · exact stopQueues_armed false turns pdev (.inl (settled.idle_of_unpoisoned clear))

theorem mxdmaStopDeviceProtocol_yields (actualPciUnbind : Bool) :
    Yields (Held Fenced) (mxdmaStopDeviceProtocol actualPciUnbind) stopPost := by
  cases actualPciUnbind with
  | true =>
    apply meets_bind (pollUntil_yields (held_patient fenced_lasting) _)
    intro _
    apply meets_read
    rintro pdev ⟨held, ended⟩
    split
    · rename_i gone
      apply meets_update_pure
      rintro _ rfl
      exact .inl gone
    · rename_i alive
      have idle : pdev.mxdmaIoQueueIdle = true := by simpa [alive] using ended
      exact Meets.of_eq (held.quiet idle) (drainAmbiguous_yields _)
  | false =>
    apply meets_read
    intro pdev held
    cases idle : pdev.mxdmaIoQueueIdle with
    | false =>
      have marked : ∀ now, now = pdev → stopPost (some .ebusy) (now.setPoisoned true) := by
        rintro _ rfl
        exact ⟨rfl, held.setPoisoned⟩
      apply meets_update marked
      exact meets_update_pure fun _ ⟨marked, held⟩ => ⟨marked, held.stopThreads⟩
    | true =>
      cases marked : pdev.protocolPoisoned with
      | true =>
        apply meets_update_pure
        rintro _ rfl
        exact ⟨marked, held.stopThreads⟩
      | false => exact Meets.of_eq ⟨held.quiet idle, marked⟩ (stopQueues_yields _)

/-- Nothing can reach the memory any more: the device is gone for good, or no command is
queued or outstanding, none of its queues exists, and it knows no address. -/
def Unreachable (pdev : MxPdev) : Prop :=
  pdev.disconnected = true ∨
    (pdev.others.io.idle = true ∧ pdev.admin.adminPending = false ∧ pdev.device.outstanding = 0 ∧
      pdev.device.queues = {} ∧ pdev.queueDmaProgrammed = false)

theorem Ended.unreachable (ended : Ended pdev) : Unreachable pdev := by
  obtain ⟨recorded, poisoned, none_left, idle⟩ := ended
  refine .inr ⟨idle.frame.2.1, idle.pending, ?_, ?_, idle.frame.2.2⟩
  · rw [idle.device]
    rfl
  · rw [idle.device]
    exact none_left

theorem ended_patient : Patient Ended := by
  rintro event pdev ⟨recorded, poisoned, none_left, idle⟩
  refine ⟨recorded, poisoned, none_left, idle.event ?_ event⟩
  rintro event frame ⟨fenced, quiet, cleared⟩
  have lasts := quiet_lasting frame.others.queuesInitialized event frame.others ⟨fenced, quiet, rfl⟩
  exact ⟨lasts.toFenced, lasts.idle, cleared⟩

theorem stopped_patient : Patient (stopPost none) := by
  rintro event pdev (gone | ended)
  · exact .inl (disconnected_patient event pdev gone)
  · exact .inr (ended_patient event pdev ended)

/-- What a teardown leaves behind.  If it gave up, nothing was freed, and the mark makes
the next one come back. -/
def destroyPost : Bool → MxPdev → Prop
  | true, pdev => Unreachable pdev
  | false, pdev => pdev.protocolPoisoned = true ∧ Held (Unfreed true) pdev

theorem stopProtocol_yields (actualPciUnbind : Bool) :
    Yields (Held Fenced) (stopProtocol actualPciUnbind) destroyPost := by
  apply meets_bind (mxdmaStopDeviceProtocol_yields actualPciUnbind)
  rintro (_ | error)
  · have fenced : Yields (stopPost none)
        (if actualPciUnbind then mxdmaFencePciUnbind else pure ()) fun _ => stopPost none := by
      cases actualPciUnbind with
      | true => exact pollUntil_keeps stopped_patient _
      | false => exact meets_pure fun _ stopped => stopped
    apply meets_bind fenced
    intro _
    have freed : ∀ pdev, stopPost none pdev →
        Unreachable (pdev.updateLife ({ · with zombieCleaner := false })).freeResources := by
      rintro pdev (gone | ended)
      · exact .inl gone
      · exact ended.unreachable
    exact fun turns pdev stopped => freed pdev stopped
  · apply meets_pure
    rintro pdev ⟨marked, held⟩
    exact ⟨marked, held.strengthen fun ok => ok.life.toUnfreed⟩

theorem waitIoQuiesced_yields {property : MxPdev → Prop} (patient : Patient property) :
    Yields property mxdmaWaitIoQuiesced fun _ pdev => property pdev ∧ pdev.others.io.inside = 0 :=
  (pollUntil_yields patient _).mono (fun _ => id)
    (fun _ _ ended => ⟨ended.1, by simpa using ended.2⟩)
    fun _ => id

theorem quiesceAndStop_yields (actualPciUnbind : Bool) :
    Yields (Held (Unfreed true))
      (do
        mxdmaWaitIoQuiesced
        stopProtocol actualPciUnbind)
      destroyPost := by
  apply meets_bind (waitIoQuiesced_yields (held_patient (unfreed_lasting true)))
  rintro _ turns pdev ⟨held, outside⟩
  apply stopProtocol_yields actualPciUnbind turns pdev
  exact held.strengthen fun ok => ⟨ok.life, outside⟩

theorem destroyMxPdev_yields (actualPciUnbind : Bool) :
    Yields (fun pdev => Held (Unfreed started) pdev ∧
        (started = true → pdev.protocolPoisoned = true))
      (destroyMxPdev actualPciUnbind) destroyPost := by
  have drained : Yields (Held (Unfreed true)) mxdmaDrainDeviceProtocol
      fun _ => Held (Unfreed true) :=
    pollUntil_keeps (held_patient (unfreed_lasting true)) _
  apply meets_read
  rintro pdev ⟨held, marked⟩
  have same : pdev.others.teardownStarted = started := held.frameOk.life.started_eq
  rw [same]
  cases started with
  | true =>
    simp only [marked rfl, if_true, Bool.not_true, Bool.false_eq_true, if_false]
    cases actualPciUnbind with
    | false => exact meets_pure fun _ now => now ▸ ⟨marked rfl, held⟩
    | true =>
      apply meets_bind (Meets.of_eq held drained)
      exact fun _ => quiesceAndStop_yields true
  | false =>
    have begun : ∀ now, now = pdev → Held (Unfreed true) now.startTeardown := by
      rintro _ rfl
      apply held.updateLife
      · exact fun _ unfreed => ⟨unfreed.freed, rfl, fun _ => rfl⟩
      · exact fun _ => ⟨rfl, rfl, rfl, rfl⟩
    apply meets_update begun
    have drainedIf : Yields (Held (Unfreed true))
        (if actualPciUnbind then mxdmaDrainDeviceProtocol else pure ())
        fun _ => Held (Unfreed true) := by
      cases actualPciUnbind with
      | true => exact drained
      | false => exact meets_pure fun _ held => held
    apply meets_bind drainedIf
    exact fun _ => quiesceAndStop_yields actualPciUnbind

end Teardown

end MxDriver
