import MxDriver.AdminProtocol

/-!
# What the programs of the driver do to the admin protocol

One specification for each function of the driver: the situation it starts from, what it
leaves behind for each outcome, and that the queues are tracked while it waits.
-/

namespace MxDriver

namespace AdminProgram

open Polling AdminState

variable {ω ρ : Type} {elsewhere : ρ → ω → ω} {keeps : AdminFrame ω → Prop}
variable {marks : AdminMarks} {command : AdminCommand} {meanwhile : AdminState ω → Prop}

section Polls

variable (undisturbed : Undisturbed elsewhere keeps)

include undisturbed

theorem pollPushable_meets (waits : ∀ state, Idle keeps marks state → meanwhile state) :
    Meets (Idle keeps marks) (pollPushable elsewhere)
      (roundPost (Idle keeps marks) fun _ => Idle keeps marks) meanwhile := by
  apply meets_turn waits
  · exact environment_keeps fun _ event idle => idle.event undisturbed event
  · apply meets_read
    intro state idle
    apply meets_pure
    rintro _ rfl
    split <;> exact idle

omit undisturbed in
theorem popMatching_meets :
    Meets (Busy keeps marks command) (popMatching command.commandId : AdminProgram ω ρ _)
      (roundPost (Busy keeps marks command)
        fun completion => Popped keeps marks command completion.result) meanwhile := by
  apply meets_read
  intro state busy
  cases arrived : state.device.completions with
  | nil => exact meets_pure fun _ same => same ▸ busy
  | cons completion rest =>
    obtain ⟨own, popped⟩ := busy.pop arrived
    apply meets_update_pure
    rintro _ rfl
    rw [if_pos own]
    exact popped

theorem pollCompletion_meets (waits : ∀ state, Busy keeps marks command state → meanwhile state) :
    Meets (Busy keeps marks command) (pollCompletion elsewhere command.commandId)
      (roundPost (Busy keeps marks command)
        fun completion => Popped keeps marks command completion.result) meanwhile := by
  apply meets_turn waits
  · exact environment_keeps fun _ event busy => busy.event undisturbed event
  · apply meets_read
    intro state busy
    split
    · exact popMatching_meets.of_eq busy
    · exact meets_pure fun _ same => same ▸ busy

end Polls

/-! ## One command -/

/-- How `submit_sync_command` ends: the command was not sent, its completion did not come,
or it is recorded. -/
def submitPost (keeps : AdminFrame ω → Prop) (ioQueue : IoQueueRecord) (poisoned : Bool)
    (opcode : AdminOpcode) : Option Nat → AdminState ω → Prop
  | none, state =>
    Idle keeps ⟨some ioQueue, poisoned, false⟩ state ∨
      ∃ command : AdminCommand, Busy keeps ⟨some ioQueue, true, true⟩ command state
  | some result, state =>
    Idle keeps ⟨some (ioQueue.record opcode result), poisoned, false⟩ state

variable {ioQueue : IoQueueRecord} {poisoned : Bool} {opcode : AdminOpcode} {queueId : Nat}

theorem submitSyncCommand_meets (undisturbed : Undisturbed elsewhere keeps)
    (fits : ∀ cid, AdminCommand.Fits ⟨opcode, cid, queueId⟩ ioQueue.queues) :
    Meets (Idle keeps ⟨some ioQueue, poisoned, false⟩) (submitSyncCommand elsewhere opcode queueId)
      (submitPost keeps ioQueue poisoned opcode) (Tracked keeps) := by
  apply meets_read
  intro state idle
  have synced : state.admin.adminDesynced = false := congrArg AdminMarks.desynced idle.marks_eq
  rw [synced]
  have numbered : ∀ now, now = state →
      Idle keeps ⟨some ioQueue, poisoned, false⟩ (now.setNextCid state.nextCid) := by
    rintro _ rfl
    exact { idle with }
  apply meets_update numbered
  apply meets_bind
  · apply meets_attempts
    apply pollPushable_meets undisturbed
    exact fun _ idle => .inl ⟨_, _, idle⟩
  rintro (_ | ⟨⟩)
  · exact meets_pure fun _ idle => .inl idle
  apply meets_update
  · exact fun _ idle => idle.submit rfl (fits _)
  apply meets_bind
  · apply meets_attempts
    apply pollCompletion_meets undisturbed
    exact fun _ busy => .inr ⟨_, _, busy⟩
  rintro (_ | completion)
  · exact meets_update_pure fun _ busy => .inr ⟨_, busy.desync⟩
  · exact meets_update_pure fun _ popped => popped.terminal

/-- After a lost completion nothing is sent. -/
theorem submitSyncCommand_desynced {recorded : Option IoQueueRecord} :
    Meets (Busy keeps ⟨recorded, poisoned, true⟩ command)
      (submitSyncCommand elsewhere opcode queueId)
      (fun result state => result = none ∧ Busy keeps ⟨recorded, poisoned, true⟩ command state)
      meanwhile := by
  apply meets_read
  intro state busy
  have desynced : state.admin.adminDesynced = true := congrArg AdminMarks.desynced busy.marks_eq
  rw [desynced]
  exact meets_pure fun _ same => ⟨rfl, same ▸ busy⟩

/-! ## Deleting the queues on record -/

/-- How an attempt to delete queues ends: they are gone, a command was not sent, or its
completion did not come. -/
def deletePost (keeps : AdminFrame ω → Prop) (poisoned : Bool) (gone : IoQueueRecord → Prop) :
    Bool → AdminState ω → Prop
  | true, state => ∃ ioQueue, gone ioQueue ∧ Idle keeps ⟨some ioQueue, poisoned, false⟩ state
  | false, state =>
    ∃ ioQueue, Idle keeps ⟨some ioQueue, poisoned, false⟩ state ∨
      ∃ command, Busy keeps ⟨some ioQueue, true, true⟩ command state

theorem deleteIfRecorded_meets {created : IoQueueRecord → Bool} {queueId : IoQueueRecord → Nat}
    {gone : IoQueueRecord → Prop} (undisturbed : Undisturbed elsewhere keeps)
    (fits : created ioQueue = true →
      ∀ cid, AdminCommand.Fits ⟨opcode, cid, queueId ioQueue⟩ ioQueue.queues)
    (deleted : ∀ result, gone (ioQueue.record opcode result))
    (absent : created ioQueue = false → gone ioQueue) :
    Meets (Idle keeps ⟨some ioQueue, poisoned, false⟩)
      (deleteIfRecorded elsewhere opcode created queueId)
      (deletePost keeps poisoned gone) (Tracked keeps) := by
  apply meets_read
  intro state idle
  have recorded : state.ioQueue = some ioQueue := congrArg AdminMarks.ioQueue idle.marks_eq
  rw [recorded]
  cases exists_ : created ioQueue with
  | false =>
    simp only [exists_, Bool.false_eq_true, if_false]
    exact meets_pure fun _ same => ⟨ioQueue, absent exists_, same ▸ idle⟩
  | true =>
    simp only [exists_, if_true]
    apply meets_bind (Meets.of_eq idle (submitSyncCommand_meets undisturbed (fits exists_)))
    rintro (_ | result)
    · exact meets_pure fun _ failed => ⟨_, failed⟩
    · exact meets_pure fun _ idle => ⟨_, deleted result, idle⟩

theorem deleteRecordedSq_meets (undisturbed : Undisturbed elsewhere keeps) :
    Meets (Idle keeps ⟨some ioQueue, poisoned, false⟩) (deleteRecordedSq elsewhere)
      (deletePost keeps poisoned fun ioQueue => ioQueue.hwSqCreated = false) (Tracked keeps) := by
  apply deleteIfRecorded_meets undisturbed
  · intro created
    simp [AdminCommand.Fits, IoQueueRecord.queues, created]
  · exact fun _ => rfl
  · exact id

theorem deleteRecordedCq_meets (undisturbed : Undisturbed elsewhere keeps)
    (first : ioQueue.hwSqCreated = false) :
    Meets (Idle keeps ⟨some ioQueue, poisoned, false⟩) (deleteRecordedCq elsewhere)
      (deletePost keeps poisoned fun ioQueue => ioQueue.queues = {}) (Tracked keeps) := by
  apply deleteIfRecorded_meets undisturbed
  · intro created
    simp [AdminCommand.Fits, IoQueueRecord.queues, created, first]
  · simp [IoQueueRecord.queues, IoQueueRecord.record, first]
  · intro absent
    simp [IoQueueRecord.queues, absent, first]

theorem deleteRecorded_meets (undisturbed : Undisturbed elsewhere keeps) :
    Meets (Idle keeps ⟨some ioQueue, poisoned, false⟩) (deleteRecorded elsewhere)
      (deletePost keeps poisoned fun ioQueue => ioQueue.queues = {}) (Tracked keeps) := by
  apply meets_bind (deleteRecordedSq_meets undisturbed)
  rintro (_ | _)
  · exact meets_pure fun _ failed => failed
  · apply meets_exists
    rintro ioQueue turns state ⟨gone, idle⟩
    exact deleteRecordedCq_meets undisturbed gone turns state idle

/-! ## Draining -/

section Drain

variable {recorded : Option IoQueueRecord} {desynced : Bool}

theorem drainRound_meets (undisturbed : Undisturbed elsewhere keeps) :
    Meets (Busy keeps ⟨some ioQueue, poisoned, desynced⟩ command) (drainRound elsewhere)
      (roundPost (Busy keeps ⟨some ioQueue, poisoned, desynced⟩ command) fun ret state =>
        match ret with
        | none => ∃ recorded, Idle keeps ⟨recorded, poisoned, desynced⟩ state
        | some error => error = .enodev ∧
            Busy keeps ⟨some ioQueue, poisoned, desynced⟩ command state)
      (Tracked keeps) := by
  apply meets_turn
  · exact fun _ busy => .inr ⟨_, _, busy⟩
  · exact environment_keeps fun _ event busy => busy.event undisturbed event
  apply meets_read
  intro state busy
  split
  · exact meets_pure fun _ same => ⟨rfl, same ▸ busy⟩
  split
  · exact meets_pure fun _ same => same ▸ busy
  rw [busy.cid, busy.opcode]
  apply meets_bind (popMatching_meets.of_eq busy)
  rintro (_ | completion)
  · exact meets_pure fun _ busy => busy
  · exact meets_update_pure fun _ popped => ⟨_, popped.terminal⟩

/-- Nothing is pending, whatever is on record. -/
def Drained (keeps : AdminFrame ω → Prop) (poisoned : Bool) (state : AdminState ω) : Prop :=
  ∃ recorded, Idle keeps ⟨recorded, poisoned, false⟩ state

/-- How `drain_pending_admin` ends.  It fails only if the device is gone. -/
def drainPost (keeps : AdminFrame ω → Prop) : Ret → AdminState ω → Prop
  | none, state => ∃ poisoned, Drained keeps poisoned state
  | some error, state =>
    error = .enodev ∧ ∃ ioQueue command, Busy keeps ⟨ioQueue, true, true⟩ command state

theorem drainPendingAdmin_meets (undisturbed : Undisturbed elsewhere keeps)
    (admin : ∀ frame, keeps frame → frame.hasAdminQueue = true) :
    Meets (Settled keeps) (drainPendingAdmin elsewhere) (drainPost keeps) (Tracked keeps) := by
  apply meets_read
  rintro state (⟨recorded, poisoned, idle⟩ | ⟨recorded, command, busy⟩)
  · have present : state.hasAdminQueue = true := admin _ idle.frame
    have synced : state.admin.adminDesynced = false := congrArg AdminMarks.desynced idle.marks_eq
    simp only [present, synced, idle.pending]
    apply meets_update_pure
    rintro _ rfl
    exact ⟨_, _, idle.resync⟩
  · have present : state.hasAdminQueue = true := admin _ busy.frame
    obtain ⟨ioQueue, rfl⟩ := Option.isSome_iff_exists.mp busy.ioQueue
    simp only [present, busy.pending, Bool.not_true, Bool.and_false, Bool.false_eq_true, if_false,
      if_true]
    have waits : ∀ state, Busy keeps ⟨some ioQueue, true, true⟩ command state →
        Tracked keeps state := fun _ busy => .inr ⟨_, _, busy⟩
    apply meets_bind (Meets.of_eq busy (meets_forever (drainRound_meets undisturbed) waits))
    rintro (_ | error)
    · apply meets_update_pure
      rintro _ ⟨recorded, idle⟩
      exact ⟨_, _, idle.resync⟩
    · exact meets_pure fun _ ⟨gone, busy⟩ => ⟨gone, _, _, busy⟩

end Drain

/-! ## The three calls -/

theorem settled_of_idle {recorded : Option IoQueueRecord} {state : AdminState ω}
    (idle : Idle keeps ⟨recorded, poisoned, false⟩ state) : Settled keeps state :=
  .inl ⟨_, _, idle⟩

theorem settled_of_busy {recorded : Option IoQueueRecord} {state : AdminState ω}
    (busy : Busy keeps ⟨recorded, true, true⟩ command state) : Settled keeps state :=
  .inr ⟨_, _, busy⟩

/-- No queue is left, no address is known to the device, and nothing is ambiguous. -/
def Stopped (keeps : AdminFrame ω → Prop) (poisoned : Bool) (state : AdminState ω) : Prop :=
  ∃ recorded, AdminMarks.queues ⟨recorded, poisoned, false⟩ = {} ∧
    Idle (Cleared keeps) ⟨recorded, poisoned, false⟩ state

theorem Stopped.of_cleared {state : AdminState ω}
    (stopped : Stopped (Cleared keeps) poisoned state) : Stopped keeps poisoned state := by
  obtain ⟨recorded, none_left, idle⟩ := stopped
  refine ⟨recorded, none_left, idle.mono ?_⟩
  rintro _ ⟨_, ⟨frame, kept, rfl⟩, rfl⟩
  exact ⟨frame, kept, rfl⟩

/-- How `recover_mx_queue` ends.  A failure leaves the mark. -/
def recoverPost (keeps : AdminFrame ω → Prop) : Ret → AdminState ω → Prop
  | none, state => Stopped keeps false state
  | some error, state =>
    error ≠ .euclean ∧ Settled keeps state ∧ state.protocolPoisoned = true

theorem recoverMxQueue_meets (undisturbed : Undisturbed elsewhere keeps)
    (admin : ∀ frame, keeps frame → frame.hasAdminQueue = true) :
    Meets (Settled keeps) (recoverMxQueue elsewhere) (recoverPost keeps) (Tracked keeps) := by
  apply meets_read
  intro state settled
  have present : state.hasAdminQueue = true := by
    rcases settled with ⟨_, _, idle⟩ | ⟨_, _, busy⟩
    · exact admin _ idle.frame
    · exact admin _ busy.frame
  simp only [present, Bool.not_true, Bool.false_eq_true, if_false]
  apply meets_bind (Meets.of_eq settled (drainPendingAdmin_meets undisturbed admin))
  rintro (_ | error)
  · -- everything is drained
    have cleared : ∀ state, drainPost keeps none state →
        Drained keeps false (state.setPoisoned false) := by
      rintro state ⟨poisoned, recorded, idle⟩
      exact ⟨recorded, idle.setPoisoned false⟩
    apply meets_update cleared
    apply meets_read
    rintro state ⟨recorded, idle⟩
    have same : state.ioQueue = recorded := congrArg AdminMarks.ioQueue idle.marks_eq
    rw [same]
    cases recorded with
    | none =>
      apply meets_update_pure
      rintro _ rfl
      exact ⟨none, rfl, idle.disable rfl⟩
    | some ioQueue =>
      apply meets_bind (Meets.of_eq idle (deleteRecorded_meets undisturbed))
      rintro (_ | _)
      · apply meets_update_pure
        rintro state ⟨left, idle | ⟨command, busy⟩⟩
        · exact ⟨nofun, settled_of_idle (idle.setPoisoned true), rfl⟩
        · exact ⟨nofun, settled_of_busy (busy.setPoisoned true), rfl⟩
      · apply meets_update_pure
        rintro state ⟨left, gone, idle⟩
        exact ⟨some left, gone, idle.disable gone⟩
  · apply meets_pure
    rintro state ⟨rfl, recorded, command, busy⟩
    exact ⟨nofun, settled_of_busy busy, congrArg AdminMarks.poisoned busy.marks_eq⟩

/-- How `release_io_queue` ends. -/
def releasePost (keeps : AdminFrame ω → Prop) (poisoned : Bool) : Ret → AdminState ω → Prop
  | none, state => Stopped keeps poisoned state
  | some _, state => Settled keeps state

theorem releaseIoQueue_recorded {before : AdminState ω → Prop}
    {between : Bool → AdminState ω → Prop} {after : Ret → AdminState ω → Prop}
    (present : ∀ state, before state →
      state.hasAdminQueue = true ∧ state.ioQueue = some ioQueue)
    (deletes : Meets before (deleteRecorded elsewhere) between meanwhile)
    (deleted : ∀ state, between true state → after none state.disableAdminQueue)
    (kept : ∀ state, between false state → after (some .eio) state) :
    Meets before (releaseIoQueue elsewhere) after meanwhile := by
  apply meets_read
  intro state start
  obtain ⟨admin, recorded⟩ := present state start
  simp only [admin, recorded, Bool.not_true, Option.isNone_some, Bool.or_false,
    Bool.false_eq_true, if_false]
  apply meets_bind (Meets.of_eq start deletes)
  rintro (_ | _)
  · exact meets_pure kept
  · exact meets_update_pure deleted

theorem releaseIoQueue_meets (undisturbed : Undisturbed elsewhere keeps)
    (admin : ∀ frame, keeps frame → frame.hasAdminQueue = true) :
    Meets (Idle keeps ⟨some ioQueue, poisoned, false⟩) (releaseIoQueue elsewhere)
      (releasePost keeps poisoned) (Tracked keeps) := by
  refine releaseIoQueue_recorded
    (fun _ idle => ⟨admin _ idle.frame, congrArg AdminMarks.ioQueue idle.marks_eq⟩)
    (deleteRecorded_meets undisturbed) ?_ ?_
  · rintro state ⟨left, gone, idle⟩
    exact ⟨some left, gone, idle.disable gone⟩
  · rintro state ⟨left, idle | ⟨command, busy⟩⟩
    · exact settled_of_idle idle
    · exact settled_of_busy busy

theorem deleteIfRecorded_absent {created : IoQueueRecord → Bool} {queueId : IoQueueRecord → Nat}
    (absent : created ioQueue = false) :
    Meets (Idle keeps ⟨some ioQueue, poisoned, false⟩)
      (deleteIfRecorded elsewhere opcode created queueId)
      (fun left state => left = true ∧ Idle keeps ⟨some ioQueue, poisoned, false⟩ state)
      meanwhile := by
  apply meets_read
  intro state idle
  have recorded : state.ioQueue = some ioQueue := congrArg AdminMarks.ioQueue idle.marks_eq
  simp only [recorded, absent, Bool.false_eq_true, if_false]
  exact meets_pure fun _ same => ⟨rfl, same ▸ idle⟩

theorem deleteRecorded_absent (none_left : ioQueue.queues = {}) :
    Meets (Idle keeps ⟨some ioQueue, poisoned, false⟩) (deleteRecorded elsewhere)
      (fun left state => left = true ∧ Idle keeps ⟨some ioQueue, poisoned, false⟩ state)
      meanwhile := by
  have uncreated : ioQueue.hwSqCreated = false ∧ ioQueue.hwCqCreated = false := by
    simpa [IoQueueRecord.queues, and_comm] using none_left
  apply meets_bind (deleteIfRecorded_absent uncreated.1)
  rintro (_ | _)
  · exact meets_of_false (by simp)
  · exact fun turns state start => deleteIfRecorded_absent uncreated.2 turns state start.2

theorem releaseIoQueue_absent (admin : ∀ frame, keeps frame → frame.hasAdminQueue = true)
    (none_left : ioQueue.queues = {}) :
    Meets (Idle keeps ⟨some ioQueue, poisoned, false⟩) (releaseIoQueue elsewhere)
      (fun ret state => ret = none ∧ Stopped keeps poisoned state) meanwhile := by
  refine releaseIoQueue_recorded
    (fun _ idle => ⟨admin _ idle.frame, congrArg AdminMarks.ioQueue idle.marks_eq⟩)
    (deleteRecorded_absent none_left) ?_ ?_
  · rintro state ⟨-, idle⟩
    exact ⟨rfl, some ioQueue, none_left, idle.disable none_left⟩
  · rintro state ⟨⟨⟩, -⟩

theorem releaseIoQueue_unconfigured :
    Meets (Idle keeps ⟨none, poisoned, false⟩) (releaseIoQueue elsewhere)
      (fun ret state => ret = none ∧ Idle keeps ⟨none, poisoned, false⟩ state) meanwhile := by
  apply meets_read
  intro state idle
  have absent : state.ioQueue = none := congrArg AdminMarks.ioQueue idle.marks_eq
  simp only [absent, Option.isNone_none, Bool.or_true, if_true]
  exact meets_pure fun _ same => ⟨rfl, same ▸ idle⟩

theorem deleteIfRecorded_desynced {created : IoQueueRecord → Bool} {queueId : IoQueueRecord → Nat} :
    Meets (Busy keeps ⟨some ioQueue, poisoned, true⟩ command)
      (deleteIfRecorded elsewhere opcode created queueId)
      (fun left state => left = !created ioQueue ∧
        Busy keeps ⟨some ioQueue, poisoned, true⟩ command state) meanwhile := by
  apply meets_read
  intro state busy
  have recorded : state.ioQueue = some ioQueue := congrArg AdminMarks.ioQueue busy.marks_eq
  rw [recorded]
  cases exists_ : created ioQueue with
  | false =>
    simp only [exists_, Bool.false_eq_true, if_false]
    exact meets_pure fun _ same => ⟨rfl, same ▸ busy⟩
  | true =>
    simp only [exists_, if_true]
    apply meets_bind (Meets.of_eq busy submitSyncCommand_desynced)
    intro result
    apply meets_pure
    rintro _ ⟨rfl, busy⟩
    exact ⟨rfl, busy⟩

/-- While any other command than the first one is pending, some queue is on record. -/
theorem recorded_of_fits (fits : command.Fits ioQueue.queues)
    (later : command.opcode ≠ .createIoCq) :
    ioQueue.hwSqCreated = false → ioQueue.hwCqCreated = true := by
  unfold AdminCommand.Fits at fits
  intro unrecorded
  cases opcode : command.opcode <;> simp_all [IoQueueRecord.queues]

theorem deleteRecorded_desynced (later : command.opcode ≠ .createIoCq) :
    Meets (Busy keeps ⟨some ioQueue, poisoned, true⟩ command) (deleteRecorded elsewhere)
      (fun left state => left = false ∧ Busy keeps ⟨some ioQueue, poisoned, true⟩ command state)
      meanwhile := by
  apply meets_bind deleteIfRecorded_desynced
  rintro (_ | _)
  · exact meets_pure fun _ ⟨_, busy⟩ => ⟨rfl, busy⟩
  · rintro turns state ⟨unrecorded, busy⟩
    have created := recorded_of_fits busy.fits later (by simpa using unrecorded)
    apply deleteIfRecorded_desynced.mono (fun _ => id) _ (fun _ => id) turns state busy
    rintro left _ ⟨rfl, busy⟩
    exact ⟨by simp [created], busy⟩

theorem releaseIoQueue_desynced (admin : ∀ frame, keeps frame → frame.hasAdminQueue = true)
    (later : command.opcode ≠ .createIoCq) :
    Meets (Busy keeps ⟨some ioQueue, true, true⟩ command) (releaseIoQueue elsewhere)
      (fun ret state => ret = some .eio ∧ Settled keeps state) meanwhile := by
  refine releaseIoQueue_recorded
    (fun _ busy => ⟨admin _ busy.frame, congrArg AdminMarks.ioQueue busy.marks_eq⟩)
    (deleteRecorded_desynced later) ?_ ?_
  · rintro state ⟨⟨⟩, -⟩
  · rintro state ⟨-, busy⟩
    exact ⟨rfl, settled_of_busy busy⟩

/-- How `configure_io_queue` ends. -/
def configurePost (keeps : AdminFrame ω → Prop) (poisoned : Bool) : Ret → AdminState ω → Prop
  | none, state => ∃ ioQueue, Idle keeps ⟨some ioQueue, poisoned, false⟩ state
  | some _, state => Settled keeps state

theorem outDelete_meets (undisturbed : Undisturbed elsewhere keeps) (error : Errno) :
    Meets (Idle keeps ⟨some ioQueue, poisoned, false⟩) (outDelete elsewhere (some error))
      (configurePost keeps poisoned) (Tracked keeps) := by
  apply meets_bind (deleteRecorded_meets undisturbed)
  rintro (_ | _)
  · apply meets_update_pure
    rintro state ⟨left, idle | ⟨command, busy⟩⟩
    · exact settled_of_idle (idle.setPoisoned true)
    · exact settled_of_busy (busy.setPoisoned true)
  · apply meets_pure
    rintro state ⟨left, gone, idle⟩
    exact settled_of_idle idle

/-- The two commands that create the queues, on a new record. -/
theorem createQueues_meets (undisturbed : Undisturbed elsewhere keeps) (started : Ret) :
    Meets (Idle keeps ⟨some {}, poisoned, false⟩) (createQueues elsewhere started)
      (configurePost keeps poisoned) (Tracked keeps) := by
  have firstFits : ∀ cid, AdminCommand.Fits ⟨.createIoCq, cid, 0⟩ (IoQueueRecord.queues {}) :=
    fun _ => rfl
  apply meets_bind (submitSyncCommand_meets undisturbed firstFits)
  rintro (_ | cqResult)
  · apply meets_pure
    rintro state (idle | ⟨command, busy⟩)
    · exact settled_of_idle idle
    · exact settled_of_busy busy
  have secondFits : ∀ cid, AdminCommand.Fits ⟨.createIoSq, cid, cqResult % 2 ^ 16⟩
      (IoQueueRecord.record {} .createIoCq cqResult).queues := fun _ => ⟨rfl, rfl⟩
  apply meets_bind (submitSyncCommand_meets undisturbed secondFits)
  rintro (_ | sqResult)
  · apply meets_read
    rintro state (idle | ⟨command, busy⟩)
    · have synced : state.admin.adminDesynced = false := congrArg AdminMarks.desynced idle.marks_eq
      rw [synced]
      exact Meets.of_eq idle (outDelete_meets undisturbed _)
    · have desynced : state.admin.adminDesynced = true := congrArg AdminMarks.desynced busy.marks_eq
      rw [desynced]
      exact meets_pure fun _ same => settled_of_busy (same ▸ busy)
  · dsimp only
    split
    · exact outDelete_meets undisturbed _
    apply meets_read
    intro state idle
    split
    · exact Meets.of_eq idle (outDelete_meets undisturbed _)
    cases started with
    | some error => exact Meets.of_eq idle (outDelete_meets undisturbed error)
    | none => exact meets_pure fun _ same => ⟨_, same ▸ idle⟩

theorem configureIoQueue_meets {recorded : Option IoQueueRecord}
    (undisturbed : Undisturbed elsewhere keeps)
    (installed : ∀ frame, keeps frame → keeps { frame with hasIoQueue := true })
    (none_left : AdminMarks.queues ⟨recorded, poisoned, false⟩ = {}) (started : Ret) :
    Meets (Idle keeps ⟨recorded, poisoned, false⟩) (configureIoQueue elsewhere none started)
      (configurePost keeps poisoned) (Tracked keeps) :=
  meets_update (fun _ idle => idle.newIoQueue installed none_left)
    (createQueues_meets undisturbed started)

theorem configureIoQueue_desynced {recorded : Option IoQueueRecord}
    (installed : ∀ frame, keeps frame → keeps { frame with hasIoQueue := true })
    (none_left : AdminMarks.queues ⟨recorded, true, true⟩ = {}) (started : Ret) :
    Meets (Busy keeps ⟨recorded, true, true⟩ command) (configureIoQueue elsewhere none started)
      (configurePost keeps poisoned) meanwhile := by
  apply meets_update fun _ busy => busy.newIoQueue installed none_left
  apply meets_bind submitSyncCommand_desynced
  rintro (_ | result)
  · exact meets_pure fun _ ⟨_, busy⟩ => settled_of_busy busy
  · exact meets_of_false (by simp)

end AdminProgram

end MxDriver
