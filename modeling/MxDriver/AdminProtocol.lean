import MxDriver.AdminQueue

/-!
# The admin protocol keeps track of the queues

Between two admin commands the record of the driver is exactly what exists on the device.
While a command is on its way the record is what it was at the submission, and the device
is at most one step ahead of it.  A program of the driver goes from one of these
situations to another, whenever the completions come.
-/

namespace MxDriver

/-- The queues on record allow the command. -/
def AdminCommand.Fits (command : AdminCommand) (queues : IoQueues) : Prop :=
  match command.opcode with
  | .createIoCq => queues = {}
  | .createIoSq => queues.cq.isSome = true ∧ queues.sq = none
  | .deleteIoSq => queues.sq = some command.queueId
  | .deleteIoCq => queues.cq = some command.queueId ∧ queues.sq = none

/-- The device around one command, where `queues` existed before it. -/
inductive InFlight (command : AdminCommand) (queues : IoQueues) : AdminDevice → Prop
  | submitted : InFlight command queues { queues := queues, submissions := [command] }
  | executed (result sqHead : Nat) :
      InFlight command queues
        { queues := queues.perform command result
          finished := [⟨result, sqHead, command.commandId⟩] }
  | reported (result sqHead : Nat) :
      InFlight command queues
        { queues := queues.perform command result
          completions := [⟨result, sqHead, command.commandId⟩] }

namespace InFlight

variable {command : AdminCommand} {queues : IoQueues} {device : AdminDevice}

theorem execute (flight : InFlight command queues device) (result sqHead : Nat) :
    InFlight command queues (device.execute result sqHead) := by
  cases flight with
  | submitted => exact executed result sqHead
  | executed result sqHead => exact executed result sqHead
  | reported result sqHead => exact reported result sqHead

theorem report (flight : InFlight command queues device) :
    InFlight command queues device.report := by
  cases flight with
  | submitted => exact submitted
  | executed result sqHead => exact reported result sqHead
  | reported result sqHead => exact reported result sqHead

theorem outstanding_eq (flight : InFlight command queues device) : device.outstanding = 1 := by
  cases flight <;> rfl

/-- Only the completion of the command can arrive. -/
theorem device_eq_of_completions (flight : InFlight command queues device)
    {completion : AdminCompletion} {rest : List AdminCompletion}
    (arrived : device.completions = completion :: rest) :
    completion.commandId = command.commandId ∧
      device =
        { queues := queues.perform command completion.result, completions := [completion] } := by
  cases flight with
  | submitted => cases arrived
  | executed => cases arrived
  | reported result sqHead =>
    cases arrived
    exact ⟨rfl, rfl⟩

end InFlight

/-- A command that fits has the same effect on the record as on the device. -/
theorem IoQueueRecord.queues_record {ioQueue : IoQueueRecord} {command : AdminCommand}
    (fits : command.Fits ioQueue.queues) (result : Nat) :
    (ioQueue.record command.opcode result).queues = ioQueue.queues.perform command result := by
  unfold AdminCommand.Fits at fits
  cases opcode : command.opcode <;> rw [opcode] at fits <;>
    simp_all [IoQueueRecord.record, IoQueueRecord.queues, IoQueues.perform]

/-! ## The log -/

def AdminLogEntry.submittedOpcode : AdminLogEntry → Option AdminOpcode
  | submitted command _ => some command.opcode
  | _ => none

def AdminLogEntry.recordedOpcode : AdminLogEntry → Option AdminOpcode
  | recorded opcode _ => some opcode
  | _ => none

/-- A submission of DELETE_IO_CQ finds no submission queue and no command that could still
create one. -/
def AdminLogEntry.Ordered : AdminLogEntry → Prop
  | submitted command device =>
    command.opcode = .deleteIoCq → device.queues.sq = none ∧ device.outstanding = 0
  | _ => True

/-- The addresses are cleared when nothing is pending and no I/O queue exists. -/
def AdminLogEntry.ClearedLast : AdminLogEntry → Prop
  | disabled pending device => pending = false ∧ device.outstanding = 0 ∧ device.queues = {}
  | _ => True

/-- What the log shows while `pending` is on its way. -/
structure AdminLogOk (log : List AdminLogEntry) (pending : Option AdminOpcode) : Prop where
  once : log.filterMap AdminLogEntry.submittedOpcode =
    log.filterMap AdminLogEntry.recordedOpcode ++ pending.toList
  ordered : ∀ entry ∈ log, entry.Ordered
  clearedLast : ∀ entry ∈ log, entry.ClearedLast

namespace AdminLogOk

variable {log : List AdminLogEntry} {pending after : Option AdminOpcode} {entry : AdminLogEntry}

theorem snoc (ok : AdminLogOk log pending) (once : pending.toList ++ entry.submittedOpcode.toList =
      entry.recordedOpcode.toList ++ after.toList)
    (ordered : entry.Ordered) (clearedLast : entry.ClearedLast) :
    AdminLogOk (log ++ [entry]) after where
  once := by
    have single (read : AdminLogEntry → Option AdminOpcode) :
        [entry].filterMap read = (read entry).toList := by
      cases found : read entry <;> simp [found]
    rw [List.filterMap_append, List.filterMap_append, single, single, ok.once, List.append_assoc,
      List.append_assoc, once]
  ordered := List.forall_mem_append.mpr ⟨ok.ordered, List.forall_mem_singleton.mpr ordered⟩
  clearedLast :=
    List.forall_mem_append.mpr ⟨ok.clearedLast, List.forall_mem_singleton.mpr clearedLast⟩

theorem submit (ok : AdminLogOk log none) {command : AdminCommand} {device : AdminDevice}
    (ordered : (AdminLogEntry.submitted command device).Ordered) :
    AdminLogOk (log ++ [.submitted command device]) (some command.opcode) :=
  ok.snoc rfl ordered trivial

theorem record {opcode : AdminOpcode} (ok : AdminLogOk log (some opcode)) (result : Nat) :
    AdminLogOk (log ++ [.recorded opcode result]) none :=
  ok.snoc rfl trivial trivial

theorem disable (ok : AdminLogOk log none) : AdminLogOk (log ++ [.disabled false {}]) none :=
  ok.snoc rfl trivial ⟨rfl, rfl, rfl⟩

end AdminLogOk

/-! ## The situations -/

variable {ω ρ : Type}

/-- What a command does not change.  Other threads may change the last part. -/
structure AdminFrame (ω : Type) where
  hasAdminQueue : Bool
  hasIoQueue : Bool
  barMappedSize : Nat
  queueDmaProgrammed : Bool
  others : ω

/-- The record of the I/O queues and the two marks of a lost completion. -/
structure AdminMarks where
  ioQueue : Option IoQueueRecord
  poisoned : Bool
  desynced : Bool

def AdminMarks.queues (marks : AdminMarks) : IoQueues :=
  match marks.ioQueue with
  | none => {}
  | some ioQueue => ioQueue.queues

@[simp]
theorem AdminMarks.queues_some (ioQueue : IoQueueRecord) (poisoned desynced : Bool) :
    AdminMarks.queues ⟨some ioQueue, poisoned, desynced⟩ = ioQueue.queues :=
  rfl

namespace AdminState

def frame (state : AdminState ω) : AdminFrame ω :=
  ⟨state.hasAdminQueue, state.ioQueue.isSome, state.barMappedSize, state.queueDmaProgrammed,
    state.others⟩

def marks (state : AdminState ω) : AdminMarks :=
  ⟨state.ioQueue, state.protocolPoisoned, state.admin.adminDesynced⟩

/-- No command is on its way, and the record is what exists on the device. -/
structure Idle (keeps : AdminFrame ω → Prop) (marks : AdminMarks) (state : AdminState ω) :
    Prop where
  frame : keeps state.frame
  marks_eq : state.marks = marks
  waitCount : state.admin.waitCount = 0
  pending : state.admin.adminPending = false
  device : state.device = { queues := marks.queues }
  log : AdminLogOk state.log none

/-- One command is pending and the device is in `situation`. -/
structure Pending (situation : AdminDevice → Prop) (keeps : AdminFrame ω → Prop)
    (marks : AdminMarks) (command : AdminCommand) (state : AdminState ω) : Prop where
  frame : keeps state.frame
  marks_eq : state.marks = marks
  waitCount : state.admin.waitCount = 1
  pending : state.admin.adminPending = true
  cid : state.admin.adminPendingCid = command.commandId
  opcode : state.admin.adminPendingOpcode = command.opcode
  ioQueue : marks.ioQueue.isSome = true
  fits : command.Fits marks.queues
  device : situation state.device
  log : AdminLogOk state.log (some command.opcode)

/-- The command is on its way. -/
def Busy (keeps : AdminFrame ω → Prop) (marks : AdminMarks) (command : AdminCommand) :
    AdminState ω → Prop :=
  Pending (InFlight command marks.queues) keeps marks command

/-- The completion of the command was taken and is not recorded yet. -/
def Popped (keeps : AdminFrame ω → Prop) (marks : AdminMarks) (command : AdminCommand)
    (result : Nat) : AdminState ω → Prop :=
  Pending (· = { queues := marks.queues.perform command result }) keeps marks command

/-- What holds at every moment. -/
def Tracked (keeps : AdminFrame ω → Prop) (state : AdminState ω) : Prop :=
  (∃ ioQueue poisoned, Idle keeps ⟨ioQueue, poisoned, false⟩ state) ∨
    ∃ marks command, Busy keeps marks command state

/-- What holds between two calls: a command that is pending has been waited for in vain. -/
def Settled (keeps : AdminFrame ω → Prop) (state : AdminState ω) : Prop :=
  (∃ ioQueue poisoned, Idle keeps ⟨ioQueue, poisoned, false⟩ state) ∨
    ∃ ioQueue command, Busy keeps ⟨ioQueue, true, true⟩ command state

section Environment

variable {elsewhere : ρ → ω → ω} {keeps : AdminFrame ω → Prop} {marks : AdminMarks}
variable {command : AdminCommand} {state : AdminState ω}

/-- What other threads do does not matter for `keeps`. -/
def Undisturbed (elsewhere : ρ → ω → ω) (keeps : AdminFrame ω → Prop) : Prop :=
  ∀ event frame, keeps frame → keeps { frame with others := elsewhere event frame.others }

theorem Idle.event (idle : Idle keeps marks state) (undisturbed : Undisturbed elsewhere keeps)
    (event : AdminEvent ρ) : Idle keeps marks (state.event elsewhere event) := by
  cases event with
  | execute result sqHead =>
    rw [AdminState.event]
    split
    · exact idle
    · exact { idle with device := by simp [AdminDevice.execute, idle.device] }
  | report =>
    rw [AdminState.event]
    split
    · exact idle
    · exact { idle with device := by simp [AdminDevice.report, idle.device] }
  | unplug => exact { idle with }
  | other event => exact { idle with frame := undisturbed event _ idle.frame }

theorem Busy.event (busy : Busy keeps marks command state)
    (undisturbed : Undisturbed elsewhere keeps) (event : AdminEvent ρ) :
    Busy keeps marks command (state.event elsewhere event) := by
  cases event with
  | execute result sqHead =>
    rw [AdminState.event]
    split
    · exact busy
    · exact { busy with device := busy.device.execute result sqHead }
  | report =>
    rw [AdminState.event]
    split
    · exact busy
    · exact { busy with device := busy.device.report }
  | unplug => exact { busy with }
  | other event => exact { busy with frame := undisturbed event _ busy.frame }

theorem event_protocolPoisoned (state : AdminState ω) (event : AdminEvent ρ) :
    (state.event elsewhere event).protocolPoisoned = state.protocolPoisoned := by
  cases event <;> simp only [AdminState.event] <;> split <;> rfl

/-- A property that every event keeps holds after a turn. -/
theorem environment_keeps {property : AdminState ω → Prop}
    (keeps : ∀ state event, property state → property (state.event elsewhere event))
    (events : List (AdminEvent ρ)) (state : AdminState ω) (holds : property state) :
    property (state.environment elsewhere events) := by
  induction events generalizing state with
  | nil => exact holds
  | cons event events ih => exact ih _ (keeps state event holds)

end Environment

section Updates

variable {keeps : AdminFrame ω → Prop} {marks : AdminMarks} {command : AdminCommand}
variable {state : AdminState ω} {ioQueue : Option IoQueueRecord} {poisoned desynced : Bool}

theorem Idle.submit (idle : Idle keeps marks state) (recorded : marks.ioQueue.isSome = true)
    (fits : command.Fits marks.queues) : Busy keeps marks command (state.submit command) where
  frame := idle.frame
  marks_eq := idle.marks_eq
  waitCount := by simp [AdminState.submit, idle.waitCount]
  pending := rfl
  cid := rfl
  opcode := rfl
  ioQueue := recorded
  fits := fits
  device := by
    simp only [AdminState.submit, idle.device]
    exact .submitted
  log := by
    apply idle.log.submit
    intro opcode
    rw [idle.device]
    rw [AdminCommand.Fits, opcode] at fits
    exact ⟨fits.2, rfl⟩

theorem Busy.pop (busy : Busy keeps marks command state) {completion : AdminCompletion}
    {rest : List AdminCompletion} (arrived : state.device.completions = completion :: rest) :
    completion.commandId = command.commandId ∧
      Popped keeps marks command completion.result (state.pop completion) := by
  obtain ⟨own, device⟩ := busy.device.device_eq_of_completions arrived
  refine ⟨own, { busy with device := ?_ }⟩
  simp [AdminState.pop, device]

theorem terminal_eq {record : IoQueueRecord} (recorded : state.ioQueue = some record)
    (opcode : AdminOpcode) (result : Nat) :
    state.terminal opcode result =
      { state with
        admin := { state.admin with
          waitCount := state.admin.waitCount - 1
          adminPending := false }
        ioQueue := some (record.record opcode result)
        log := state.log ++ [.recorded opcode result] } := by
  simp [AdminState.terminal, recordAdminTerminal, recorded]

theorem Popped.terminal {record : IoQueueRecord} {result : Nat}
    (popped : Popped keeps ⟨some record, poisoned, desynced⟩ command result state) :
    Idle keeps ⟨some (record.record command.opcode result), poisoned, desynced⟩
      (state.terminal command.opcode result) := by
  have recorded : state.ioQueue = some record := congrArg AdminMarks.ioQueue popped.marks_eq
  rw [terminal_eq recorded]
  exact
  { frame := by
      have frame := popped.frame
      rw [AdminState.frame, recorded] at frame
      exact frame
    marks_eq := congrArg
      (fun marks : AdminMarks =>
        { marks with ioQueue := some (record.record command.opcode result) })
      popped.marks_eq
    waitCount := by simp [popped.waitCount]
    pending := rfl
    device := by
      have effect := IoQueueRecord.queues_record popped.fits result
      rw [AdminMarks.queues_some, effect]
      exact popped.device
    log := popped.log.record result }

theorem Busy.desync (busy : Busy keeps ⟨ioQueue, poisoned, desynced⟩ command state) :
    Busy keeps ⟨ioQueue, true, true⟩ command state.desync :=
  { busy with
    marks_eq :=
      congrArg (fun marks : AdminMarks => { marks with poisoned := true, desynced := true })
        busy.marks_eq }

theorem Idle.resync (idle : Idle keeps ⟨ioQueue, poisoned, desynced⟩ state) :
    Idle keeps ⟨ioQueue, poisoned, false⟩ state.resync :=
  { idle with
    marks_eq :=
      congrArg (fun marks : AdminMarks => { marks with desynced := false }) idle.marks_eq }

theorem Idle.setPoisoned (idle : Idle keeps ⟨ioQueue, poisoned, desynced⟩ state) (value : Bool) :
    Idle keeps ⟨ioQueue, value, desynced⟩ (state.setPoisoned value) :=
  { idle with
    marks_eq :=
      congrArg (fun marks : AdminMarks => { marks with poisoned := value }) idle.marks_eq }

theorem Busy.setPoisoned (busy : Busy keeps ⟨ioQueue, poisoned, desynced⟩ command state)
    (value : Bool) : Busy keeps ⟨ioQueue, value, desynced⟩ command (state.setPoisoned value) :=
  { busy with
    marks_eq :=
      congrArg (fun marks : AdminMarks => { marks with poisoned := value }) busy.marks_eq }

/-- The frame after the addresses are cleared. -/
def Cleared (keeps : AdminFrame ω → Prop) (frame : AdminFrame ω) : Prop :=
  ∃ before, keeps before ∧ frame = { before with queueDmaProgrammed := false }

theorem Idle.mono (idle : Idle keeps marks state) {weaker : AdminFrame ω → Prop}
    (implies : ∀ frame, keeps frame → weaker frame) : Idle weaker marks state :=
  { idle with frame := implies _ idle.frame }

theorem Busy.mono (busy : Busy keeps marks command state) {weaker : AdminFrame ω → Prop}
    (implies : ∀ frame, keeps frame → weaker frame) : Busy weaker marks command state :=
  { busy with frame := implies _ busy.frame }

theorem Settled.mono (settled : Settled keeps state) {weaker : AdminFrame ω → Prop}
    (implies : ∀ frame, keeps frame → weaker frame) : Settled weaker state := by
  rcases settled with ⟨recorded, poisoned, idle⟩ | ⟨recorded, command, busy⟩
  · exact .inl ⟨recorded, poisoned, idle.mono implies⟩
  · exact .inr ⟨recorded, command, busy.mono implies⟩

/-- The mark alone tells that something is ambiguous. -/
theorem Settled.idle_of_unpoisoned (settled : Settled keeps state)
    (clear : state.protocolPoisoned = false) :
    ∃ recorded, Idle keeps ⟨recorded, false, false⟩ state := by
  rcases settled with ⟨recorded, poisoned, idle⟩ | ⟨recorded, command, busy⟩
  · have same : state.protocolPoisoned = poisoned := congrArg AdminMarks.poisoned idle.marks_eq
    obtain rfl : poisoned = false := same.symm.trans clear
    exact ⟨recorded, idle⟩
  · have set : state.protocolPoisoned = true := congrArg AdminMarks.poisoned busy.marks_eq
    rw [set] at clear
    cases clear

theorem Settled.setPoisoned (settled : Settled keeps state) :
    Settled keeps (state.setPoisoned true) := by
  rcases settled with ⟨recorded, poisoned, idle⟩ | ⟨recorded, command, busy⟩
  · exact .inl ⟨recorded, true, idle.setPoisoned true⟩
  · exact .inr ⟨recorded, command, busy.setPoisoned true⟩

theorem Idle.disable (idle : Idle keeps marks state) (none_left : marks.queues = {}) :
    Idle (Cleared keeps) marks state.disableAdminQueue :=
  { idle with
    frame := ⟨state.frame, idle.frame, rfl⟩
    log := by
      simp only [AdminState.disableAdminQueue, idle.pending, idle.device, none_left]
      exact idle.log.disable }

/-- A new record starts right when no queue is on record. -/
theorem Idle.newIoQueue (idle : Idle keeps ⟨ioQueue, poisoned, desynced⟩ state)
    (installed : ∀ frame, keeps frame → keeps { frame with hasIoQueue := true })
    (none_left : AdminMarks.queues ⟨ioQueue, poisoned, desynced⟩ = {}) :
    Idle keeps ⟨some {}, poisoned, desynced⟩ state.newIoQueue :=
  { idle with
    frame := installed _ idle.frame
    marks_eq :=
      congrArg (fun marks : AdminMarks => { marks with ioQueue := some {} }) idle.marks_eq
    device := by
      simp only [AdminState.newIoQueue, idle.device, none_left]
      rfl }

theorem Busy.newIoQueue (busy : Busy keeps ⟨ioQueue, poisoned, desynced⟩ command state)
    (installed : ∀ frame, keeps frame → keeps { frame with hasIoQueue := true })
    (none_left : AdminMarks.queues ⟨ioQueue, poisoned, desynced⟩ = {}) :
    Busy keeps ⟨some {}, poisoned, desynced⟩ command state.newIoQueue := by
  have flight := busy.device
  have fits := busy.fits
  rw [none_left] at flight fits
  exact
  { busy with
    frame := installed _ busy.frame
    marks_eq :=
      congrArg (fun marks : AdminMarks => { marks with ioQueue := some {} }) busy.marks_eq
    ioQueue := rfl
    fits := fits
    device := flight }

end Updates

end AdminState

end MxDriver
