import Mathlib.Algebra.Group.Nat.Defs
import MxDriver.ErrorNumbers
import MxDriver.PollingProgram

/-!
# The admin queue of a revision 2 device

The driver creates and deletes the I/O queues of the device with admin commands.  It
waits for each completion by polling, and a command whose completion does not come in
time stays pending until it is drained.  The device executes the commands in order,
takes its time, and may never report a completion.
-/

namespace MxDriver

/-- `NVME_AQ_DEPTH`. -/
def nvmeAqDepth : Nat := 32

/-- `NVME_REG_DBS`: the offset of the doorbells in the BAR. -/
def nvmeRegDbs : Nat := 0x1000

/-- The polls of `submit_sync_command`, one per millisecond. -/
def adminTimeout : Nat := 500

inductive AdminOpcode
  | createIoCq | deleteIoCq | createIoSq | deleteIoSq
  deriving DecidableEq, Repr

/-- `struct mx_command` as far as the device acts on it: `queueId` is the `sq_id` or
`cq_id` of a command that deletes. -/
structure AdminCommand where
  opcode : AdminOpcode
  commandId : Nat
  queueId : Nat
  deriving DecidableEq, Repr

/-- `struct mx_completion` without its status word. -/
structure AdminCompletion where
  result : Nat
  sqHead : Nat
  commandId : Nat
  deriving DecidableEq, Repr

/-- The ids of the I/O queues that exist. -/
structure IoQueues where
  cq : Option Nat := none
  sq : Option Nat := none
  deriving DecidableEq, Repr

/-- The effect of a command.  The result of one that creates holds the id of the queue. -/
def IoQueues.perform (queues : IoQueues) (command : AdminCommand) (result : Nat) : IoQueues :=
  match command.opcode with
  | .createIoCq => { queues with cq := some (result % 2 ^ 16) }
  | .createIoSq => { queues with sq := some (result % 2 ^ 16) }
  | .deleteIoSq =>
    { queues with sq := if queues.sq = some command.queueId then none else queues.sq }
  | .deleteIoCq =>
    { queues with cq := if queues.cq = some command.queueId then none else queues.cq }

/-- The device: its I/O queues, the commands it has not executed, the completions it has
not reported, and the ones it has written to the completion queue. -/
structure AdminDevice where
  queues : IoQueues := {}
  submissions : List AdminCommand := []
  finished : List AdminCompletion := []
  completions : List AdminCompletion := []
  deriving DecidableEq, Repr

namespace AdminDevice

/-- The device executes its commands in order, each one once. -/
def execute (device : AdminDevice) (result sqHead : Nat) : AdminDevice :=
  match device.submissions with
  | [] => device
  | command :: submissions =>
    { device with
      queues := device.queues.perform command result
      submissions := submissions
      finished := device.finished ++ [⟨result, sqHead, command.commandId⟩] }

/-- The completion arrives in the memory of the host. -/
def report (device : AdminDevice) : AdminDevice :=
  match device.finished with
  | [] => device
  | completion :: finished =>
    { device with
      finished := finished
      completions := device.completions ++ [completion] }

/-- The commands whose completion the driver has not taken. -/
def outstanding (device : AdminDevice) : Nat :=
  device.submissions.length + device.finished.length + device.completions.length

end AdminDevice

/-- The admin `struct mx_queue_v2`.  The completion ring is the list of the device. -/
structure AdminQueue where
  sqTail : Nat := 0
  sqHead : Nat := 0
  waitCount : Int := 0
  adminDesynced : Bool := false
  adminNextCid : Nat := 0
  adminPending : Bool := false
  adminPendingCid : Nat := 0
  adminPendingOpcode : AdminOpcode := .createIoCq
  deriving DecidableEq, Repr

/-- What the I/O `struct mx_queue_v2` records about the queues of the device. -/
structure IoQueueRecord where
  hwCqCreated : Bool := false
  hwCqId : Nat := 0
  hwSqCreated : Bool := false
  hwSqId : Nat := 0
  deriving DecidableEq, Repr

namespace IoQueueRecord

/-- The switch of `record_admin_terminal`. -/
def record (ioQueue : IoQueueRecord) (opcode : AdminOpcode) (result : Nat) : IoQueueRecord :=
  match opcode with
  | .createIoCq => { ioQueue with hwCqCreated := true, hwCqId := result % 2 ^ 16 }
  | .createIoSq => { ioQueue with hwSqCreated := true, hwSqId := result % 2 ^ 16 }
  | .deleteIoSq => { ioQueue with hwSqCreated := false }
  | .deleteIoCq => { ioQueue with hwCqCreated := false }

/-- The queues that exist according to the record. -/
def queues (ioQueue : IoQueueRecord) : IoQueues where
  cq := if ioQueue.hwCqCreated then some ioQueue.hwCqId else none
  sq := if ioQueue.hwSqCreated then some ioQueue.hwSqId else none

end IoQueueRecord

/-- What happened, for the statements about whole runs.  A submission and the clearing of
the admin queue addresses come with the device as it was at that moment. -/
inductive AdminLogEntry
  | submitted (command : AdminCommand) (device : AdminDevice)
  | recorded (opcode : AdminOpcode) (result : Nat)
  | disabled (pending : Bool) (device : AdminDevice)
  deriving DecidableEq, Repr

/-- The part of `struct mx_pci_dev` that the admin protocol works on, with the device.
`others` is the part that it does not touch. -/
structure AdminState (ω : Type) where
  hasAdminQueue : Bool := false
  admin : AdminQueue := {}
  ioQueue : Option IoQueueRecord := none
  protocolPoisoned : Bool := false
  queueDmaProgrammed : Bool := false
  barMappedSize : Nat := 0
  device : AdminDevice := {}
  disconnected : Bool := false
  log : List AdminLogEntry := []
  others : ω
  deriving DecidableEq, Repr

/-- What may happen between two looks at the device: it executes a command, it reports a
completion, it is unplugged, or other threads do something. -/
inductive AdminEvent (ρ : Type)
  | execute (result sqHead : Nat)
  | report
  | unplug
  | other (event : ρ)
  deriving DecidableEq, Repr

variable {ω ρ : Type}

namespace AdminState

/-- A device that is unplugged does nothing more. -/
def event (elsewhere : ρ → ω → ω) (state : AdminState ω) : AdminEvent ρ → AdminState ω
  | .execute result sqHead =>
    if state.disconnected then state
    else { state with device := state.device.execute result sqHead }
  | .report =>
    if state.disconnected then state else { state with device := state.device.report }
  | .unplug => { state with disconnected := true }
  | .other event => { state with others := elsewhere event state.others }

def environment (elsewhere : ρ → ω → ω) (events : List (AdminEvent ρ)) (state : AdminState ω) :
    AdminState ω :=
  events.foldl (event elsewhere) state

variable (state : AdminState ω)

/-- `is_pushable`. -/
def isPushable : Bool :=
  (state.admin.sqTail + 1) % nvmeAqDepth ≠ state.admin.sqHead

/-- `is_popable`; there are no pings on the admin queue. -/
def isPopable : Bool :=
  0 < state.admin.waitCount && !state.device.completions.isEmpty

/-- The id of the next command, a 16 bit number that is not 0. -/
def nextCid : Nat :=
  let cid := (state.admin.adminNextCid + 1) % 2 ^ 16
  if cid = 0 then 1 else cid

/-- `push_mx_command`, the doorbell, and the marks of a pending command. -/
def submit (command : AdminCommand) : AdminState ω :=
  { state with
    admin := { state.admin with
      sqTail := if state.admin.sqTail + 1 = nvmeAqDepth then 0 else state.admin.sqTail + 1
      waitCount := state.admin.waitCount + 1
      adminPending := true
      adminPendingCid := command.commandId
      adminPendingOpcode := command.opcode }
    device := { state.device with submissions := state.device.submissions ++ [command] }
    log := state.log ++ [.submitted command state.device] }

/-- `pop_mx_completion` and the doorbell. -/
def pop (completion : AdminCompletion) : AdminState ω :=
  { state with
    admin := { state.admin with sqHead := completion.sqHead }
    device := { state.device with completions := state.device.completions.tail } }

/-- `record_admin_terminal`. -/
def recordAdminTerminal (opcode : AdminOpcode) (result : Nat) : AdminState ω :=
  match state.ioQueue with
  | none => state
  | some ioQueue =>
    { state with
      ioQueue := some (ioQueue.record opcode result)
      log := state.log ++ [.recorded opcode result] }

/-- The end of a command: `wait_count`, `admin_pending`, and its effect. -/
def terminal (opcode : AdminOpcode) (result : Nat) : AdminState ω :=
  recordAdminTerminal
    { state with
      admin := { state.admin with
        waitCount := state.admin.waitCount - 1
        adminPending := false } } opcode result

/-- `disable_admin_queue`. -/
def disableAdminQueue : AdminState ω :=
  { state with
    queueDmaProgrammed := false
    log := state.log ++ [.disabled state.admin.adminPending state.device] }

def setPoisoned (poisoned : Bool) : AdminState ω :=
  { state with protocolPoisoned := poisoned }

def setNextCid (cid : Nat) : AdminState ω :=
  { state with admin := { state.admin with adminNextCid := cid } }

/-- The marks of a completion that did not come in time. -/
def desync : AdminState ω :=
  { state with
    admin := { state.admin with adminDesynced := true }
    protocolPoisoned := true }

/-- Nothing is pending any more. -/
def resync : AdminState ω :=
  { state with admin := { state.admin with adminDesynced := false } }

def newIoQueue : AdminState ω := { state with ioQueue := some {} }

/-- `configure_admin_queue`, once its memory is allocated. -/
def configureAdminQueue : AdminState ω :=
  { state with
    hasAdminQueue := true
    admin := {}
    queueDmaProgrammed := true }

end AdminState

/-! ## The driver -/

abbrev AdminProgram (ω ρ : Type) := Polling (List (AdminEvent ρ)) (AdminState ω)

namespace AdminProgram

open Polling AdminState

variable (elsewhere : ρ → ω → ω)

/-- One poll for room in the submission queue. -/
def pollPushable : AdminProgram ω ρ (Option Unit) := do
  turn (environment elsewhere)
  let state ← read
  return if state.isPushable then some () else none

/-- Take the next completion and keep it if it is the one of `cid`. -/
def popMatching (cid : Nat) : AdminProgram ω ρ (Option AdminCompletion) := do
  let state ← read
  match state.device.completions with
  | [] => return none
  | completion :: _ =>
    update (·.pop completion)
    return if completion.commandId = cid then some completion else none

/-- One poll for the completion of a command. -/
def pollCompletion (cid : Nat) : AdminProgram ω ρ (Option AdminCompletion) := do
  turn (environment elsewhere)
  let state ← read
  if state.isPopable then popMatching cid else return none

/-- `submit_sync_command`: the result if the command completed in time. -/
def submitSyncCommand (opcode : AdminOpcode) (queueId : Nat) : AdminProgram ω ρ (Option Nat) := do
  let state ← read
  if state.admin.adminDesynced then return none
  let cid := state.nextCid
  update (·.setNextCid cid)
  match ← attempts (pollPushable elsewhere) adminTimeout with
  | none => return none
  | some () =>
    update (·.submit ⟨opcode, cid, queueId⟩)
    match ← attempts (pollCompletion elsewhere cid) adminTimeout with
    | none =>
      update desync
      return none
    | some completion =>
      update (·.terminal opcode completion.result)
      return some completion.result

/-- One round of the loop in `drain_pending_admin`, which runs while a command is pending. -/
def drainRound : AdminProgram ω ρ (Option Ret) := do
  turn (environment elsewhere)
  let state ← read
  if state.disconnected then return some (some .enodev)
  if !state.isPopable then return none
  match ← popMatching state.admin.adminPendingCid with
  | none => return none
  | some completion =>
    update (·.terminal state.admin.adminPendingOpcode completion.result)
    -- `admin_pending` is false now, so this was the last round
    return some none

/-- `drain_pending_admin`. -/
def drainPendingAdmin : AdminProgram ω ρ Ret := do
  let state ← read
  if !state.hasAdminQueue then return none
  if state.admin.adminDesynced && !state.admin.adminPending then return some .euclean
  match ← (if state.admin.adminPending then forever (drainRound elsewhere) else pure none) with
  | some error => return some error
  | none =>
    update resync
    return none

/-- Delete a queue if it is recorded; whether none is left. -/
def deleteIfRecorded (opcode : AdminOpcode) (created : IoQueueRecord → Bool)
    (queueId : IoQueueRecord → Nat) : AdminProgram ω ρ Bool := do
  match (← read).ioQueue with
  | none => return true
  | some ioQueue =>
    if created ioQueue then
      return (← submitSyncCommand elsewhere opcode (queueId ioQueue)).isSome
    else return true

/-- `delete_io_sq` if `hw_sq_created`. -/
def deleteRecordedSq : AdminProgram ω ρ Bool :=
  deleteIfRecorded elsewhere .deleteIoSq IoQueueRecord.hwSqCreated IoQueueRecord.hwSqId

/-- `delete_io_cq` if `hw_cq_created`. -/
def deleteRecordedCq : AdminProgram ω ρ Bool :=
  deleteIfRecorded elsewhere .deleteIoCq IoQueueRecord.hwCqCreated IoQueueRecord.hwCqId

/-- The submission queue refers to the completion queue and is deleted first. -/
def deleteRecorded : AdminProgram ω ρ Bool := do
  if ← deleteRecordedSq elsewhere then deleteRecordedCq elsewhere else return false

/-- `recover_mx_queue`. -/
def recoverMxQueue : AdminProgram ω ρ Ret := do
  if !(← read).hasAdminQueue then return none
  match ← drainPendingAdmin elsewhere with
  | some error => return some error
  | none =>
    update (·.setPoisoned false)
    if (← read).ioQueue.isNone then
      update disableAdminQueue
      return none
    if ← deleteRecorded elsewhere then
      update disableAdminQueue
      return none
    else
      update (·.setPoisoned true)
      return some .eio

/-- The label `out_delete` of `configure_io_queue`. -/
def outDelete (ret : Ret) : AdminProgram ω ρ Ret := do
  if ← deleteRecorded elsewhere then return ret
  else
    update (·.setPoisoned true)
    return ret

/-- The part of `configure_io_queue` after the allocations.  `started` is the outcome of
`mx_start_io_queue`. -/
def createQueues (started : Ret) : AdminProgram ω ρ Ret := do
  match ← submitSyncCommand elsewhere .createIoCq 0 with
  | none => return some .eio
  | some cqResult =>
    let cqId := cqResult % 2 ^ 16
    match ← submitSyncCommand elsewhere .createIoSq cqId with
    | none =>
      if (← read).admin.adminDesynced then return some .eio
      else outDelete elsewhere (some .eio)
    | some sqResult =>
      if cqId ≠ sqResult % 2 ^ 16 then outDelete elsewhere (some .einval)
      else if nvmeRegDbs + (cqId + 1) * 8 > (← read).barMappedSize then
        outDelete elsewhere (some .eio)
      else if started.isSome then outDelete elsewhere started
      else return none

/-- `configure_io_queue`.  `allocated` is the outcome of the allocations. -/
def configureIoQueue (allocated started : Ret) : AdminProgram ω ρ Ret := do
  if allocated.isSome then return allocated
  update newIoQueue
  createQueues elsewhere started

/-- `release_io_queue`. -/
def releaseIoQueue : AdminProgram ω ρ Ret := do
  let state ← read
  if !state.hasAdminQueue || state.ioQueue.isNone then return none
  if ← deleteRecorded elsewhere then
    update disableAdminQueue
    return none
  else return some .eio

end AdminProgram

end MxDriver
