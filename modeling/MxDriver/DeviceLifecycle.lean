import MxDriver.AdminQueue
import MxDriver.TransitionSystem

/-!
# Attaching and detaching a device

`create_mx_pdev` may fail at any point, and `destroy_mx_pdev` undoes it.  It releases the
memory that the device can reach only after the protocol with the device has stopped.  An
attach that failed cannot wait for the device and leaves what is ambiguous to the real
unbind.  Meanwhile the threads of the driver and its callers go on with the transfers.
-/

namespace MxDriver

/-- What `destroy_mx_pdev` frees once that is safe. -/
inductive DeviceResource
  | mailboxes | pagePool | queues | bar | config
  deriving DecidableEq, Repr

/-- The traffic on the I/O queue: the holders of `io_ref`, which are the bodies of file
operations and the waiters in work items, the length of the submission list, and the two
counters. -/
structure IoTraffic where
  inside : Nat := 0
  sqLength : Nat := 0
  waitCount : Nat := 0
  zombieWaitCount : Nat := 0
  deriving DecidableEq, Repr

/-- The part of `struct mx_pci_dev` that is about its life: whether there is a device node,
the threads, and the marks of its setup and teardown.  `freed` is what was freed. -/
structure Lifecycle where
  revision : Revision
  published : Bool := false
  ioRefDying : Bool := false
  io : IoTraffic := {}
  queueThreads : Bool := false
  zombieCleaner : Bool := false
  pagePool : Bool := false
  transactionsPending : Bool := false
  queuesInitialized : Bool := false
  teardownStarted : Bool := false
  freed : List DeviceResource := []
  deriving DecidableEq, Repr

/-- What the other threads do: a caller enters, queues a transfer, takes it back, parks it,
or leaves; the submit thread pushes a command, the complete thread claims a completion, and
the cleaner drains a zombie.  PCI transactions come and go. -/
inductive TrafficEvent
  | enter | queue | takeBack | park | leave | push | complete | drain
  | transactions (pending : Bool)
  deriving DecidableEq, Repr

def IoTraffic.idle (io : IoTraffic) : Bool :=
  io.sqLength = 0 ∧ io.waitCount = 0 ∧ io.zombieWaitCount = 0

def trafficEvent (event : TrafficEvent) (life : Lifecycle) : Lifecycle :=
  match event with
  | .enter =>
    if life.published = false ∨ life.ioRefDying = true then life
    else { life with io := { life.io with inside := life.io.inside + 1 } }
  | .queue =>
    if life.io.inside = 0 then life
    else { life with io := { life.io with sqLength := life.io.sqLength + 1 } }
  | .takeBack =>
    if life.io.inside = 0 then life
    else { life with io := { life.io with sqLength := life.io.sqLength - 1 } }
  | .park =>
    if life.io.inside = 0 then life
    else { life with io := { life.io with zombieWaitCount := life.io.zombieWaitCount + 1 } }
  | .leave => { life with io := { life.io with inside := life.io.inside - 1 } }
  | .push =>
    if life.queueThreads ∧ 0 < life.io.sqLength then
      { life with io := { life.io with
        sqLength := life.io.sqLength - 1
        waitCount := life.io.waitCount + 1 } }
    else life
  | .complete =>
    if life.queueThreads then
      { life with io := { life.io with waitCount := life.io.waitCount - 1 } }
    else life
  | .drain =>
    if life.zombieCleaner then
      { life with io := { life.io with zombieWaitCount := life.io.zombieWaitCount - 1 } }
    else life
  | .transactions pending => { life with transactionsPending := pending }

abbrev MxPdev := AdminState Lifecycle

namespace MxPdev

def updateLife (change : Lifecycle → Lifecycle) (pdev : MxPdev) : MxPdev :=
  { pdev with others := change pdev.others }

/-- `mxdma_io_queue_idle`. -/
def mxdmaIoQueueIdle (pdev : MxPdev) : Bool := pdev.ioQueue.isNone || pdev.others.io.idle

/-- `mx_stop_queue_threads`. -/
def mxStopQueueThreads : MxPdev → MxPdev := updateLife ({ · with queueThreads := false })

/-- The marks at the beginning of `destroy_mx_pdev`, with `mxdma_device_offline`. -/
def startTeardown : MxPdev → MxPdev :=
  updateLife ({ · with teardownStarted := true, ioRefDying := true })

/-- The end of `destroy_mx_pdev`. -/
def freeResources (pdev : MxPdev) : MxPdev :=
  { pdev with
    hasAdminQueue := false
    ioQueue := none
    others := { pdev.others with
      pagePool := false
      freed := .mailboxes :: (if pdev.others.pagePool then [.pagePool] else []) ++
        [.queues, .bar, .config] } }

end MxPdev

abbrev PdevProgram := Polling (List (AdminEvent TrafficEvent)) MxPdev

namespace PdevProgram

open Polling AdminState AdminProgram MxPdev

/-- Time passes. -/
def msleep : PdevProgram Unit := turn (environment trafficEvent)

/-- Poll until the condition holds. -/
def pollUntil (condition : MxPdev → Bool) : PdevProgram Unit :=
  forever do
    msleep
    return if condition (← read) then some () else none

/-- `mxdma_drain_device_protocol`: until the queue is idle or the device gone. -/
def mxdmaDrainDeviceProtocol : PdevProgram Unit :=
  pollUntil fun pdev => pdev.mxdmaIoQueueIdle || pdev.disconnected

/-- `mxdma_wait_io_quiesced`. -/
def mxdmaWaitIoQuiesced : PdevProgram Unit := pollUntil fun pdev => pdev.others.io.inside = 0

/-- `mxdma_fence_pci_unbind`, which always returns 0. -/
def mxdmaFencePciUnbind : PdevProgram Unit :=
  pollUntil fun pdev => !pdev.others.transactionsPending || pdev.disconnected

/-- `ops.recover_queue`, which revision 1 does not have. -/
def recoverQueue : PdevProgram Ret := do
  match (← read).others.revision with
  | .v1 => return some .eopnotsupp
  | .v2 => recoverMxQueue trafficEvent

/-- `ops.release_queue`. -/
def releaseQueue : PdevProgram Ret := do
  let pdev ← read
  match pdev.others.revision with
  | .v1 =>
    update mxStopQueueThreads
    return none
  | .v2 =>
    if pdev.hasAdminQueue && pdev.ioQueue.isSome then
      update mxStopQueueThreads
      releaseIoQueue trafficEvent
    else return none

/-- One round of the loop over `protocol_poisoned`, which carries `ret`.  It leaves the
loop with `ret`, or ends the function because the device is gone. -/
def drainAmbiguousRound (ret : Ret) : PdevProgram (Ret ⊕ Option Ret) := do
  let pdev ← read
  if !pdev.protocolPoisoned then return .inr (some ret)
  if pdev.disconnected then
    update mxStopQueueThreads
    return .inr none
  match ← recoverQueue with
  | none => return .inr (some none)
  | some error =>
    msleep
    return .inl (some error)

/-- One round of the loop for a partial queue: whether the recovery succeeded or the
device is gone. -/
def disablePartialRound : PdevProgram (Option Bool) := do
  if (← read).disconnected then return some false
  msleep
  return if (← recoverQueue).isNone then some true else none

/-- One round of the loop for queues that could not be released. -/
def recoverDeletionRound : PdevProgram (Option Bool) := do
  if (← read).disconnected then return some false
  if (← recoverQueue).isNone then return some true
  msleep
  return none

/-- The part of `mxdma_stop_device_protocol` about a partial queue.  It goes on with `ret`
or ends the function. -/
def disablePartialQueue (actualPciUnbind : Bool) (ret : Ret) : PdevProgram (Ret ⊕ Ret) := do
  let pdev ← read
  if !pdev.others.queuesInitialized && pdev.queueDmaProgrammed then
    match ← recoverQueue with
    | none => return .inl none
    | some error =>
      if actualPciUnbind then
        return if ← forever disablePartialRound then .inl none else .inr none
      else
        update (·.setPoisoned true)
        return .inr (some error)
  else return .inl ret

/-- The last line of `mxdma_stop_device_protocol`. -/
def stopResult (ret : Ret) : PdevProgram Ret := do
  return if (← read).protocolPoisoned then some .eio else ret

def clearQueuesInitialized : PdevProgram Ret := do
  update (updateLife ({ · with queuesInitialized := false }))
  stopResult none

/-- The part of `mxdma_stop_device_protocol` about queues that work. -/
def releaseQueues (actualPciUnbind : Bool) (ret : Ret) : PdevProgram Ret := do
  if (← read).others.queuesInitialized then
    match ← releaseQueue with
    | none => clearQueuesInitialized
    | some error =>
      update (·.setPoisoned true)
      if actualPciUnbind then
        if ← forever recoverDeletionRound then clearQueuesInitialized else return none
      else return some error
  else
    update mxStopQueueThreads
    stopResult ret

/-- `mxdma_stop_device_protocol` after the ambiguous commands are drained. -/
def stopQueues (actualPciUnbind : Bool) (ret : Ret) : PdevProgram Ret := do
  match ← disablePartialQueue actualPciUnbind ret with
  | .inl ret => releaseQueues actualPciUnbind ret
  | .inr ret => return ret

/-- `mxdma_stop_device_protocol`.  The waiters in the workqueue that it destroys first hold
`io_ref`, so they are gone already. -/
def mxdmaStopDeviceProtocol (actualPciUnbind : Bool) : PdevProgram Ret := do
  if actualPciUnbind then
    mxdmaDrainDeviceProtocol
    if (← read).disconnected then
      update mxStopQueueThreads
      return none
    else
      match ← loop drainAmbiguousRound none with
      | none => return none
      | some ret => stopQueues actualPciUnbind ret
  else
    let pdev ← read
    if !pdev.mxdmaIoQueueIdle then
      update (·.setPoisoned true)
      update mxStopQueueThreads
      return some .ebusy
    else if pdev.protocolPoisoned then
      update mxStopQueueThreads
      return some .euclean
    else stopQueues actualPciUnbind none

/-- The label `stop_protocol` of `destroy_mx_pdev`. -/
def stopProtocol (actualPciUnbind : Bool) : PdevProgram Bool := do
  match ← mxdmaStopDeviceProtocol actualPciUnbind with
  | some _ => return false
  | none =>
    (if actualPciUnbind then mxdmaFencePciUnbind else pure ())
    update (updateLife ({ · with zombieCleaner := false }))
    update freeResources
    return true

/-- `destroy_mx_pdev`. -/
def destroyMxPdev (actualPciUnbind : Bool) : PdevProgram Bool := do
  let pdev ← read
  if pdev.others.teardownStarted then
    if !pdev.protocolPoisoned then return true
    else if !actualPciUnbind then return false
    else
      mxdmaDrainDeviceProtocol
      mxdmaWaitIoQuiesced
      stopProtocol actualPciUnbind
  else
    update startTeardown
    (if actualPciUnbind then mxdmaDrainDeviceProtocol else pure ())
    mxdmaWaitIoQuiesced
    stopProtocol actualPciUnbind

end PdevProgram

/-- The outcomes of the kernel's functions in `create_mx_pdev`, in order. -/
structure CreateOutcomes where
  chrdev : Ret := none
  devMap : Ret := none
  barMappedSize : Nat := 0
  pciDeviceInit : Ret := none
  dmaAddressing : Ret := none
  adminAllocated : Ret := none
  ioAllocated : Ret := none
  started : Ret := none
  asyncWq : Ret := none
  zombieCleaner : Ret := none
  pagePool : Ret := none
  cdevs : Ret := none
  deriving DecidableEq, Repr

namespace PdevProgram

open Polling AdminState AdminProgram MxPdev

/-- `ops.init_queue`.  Of revision 1 only the allocation and the start of the threads can
fail. -/
def initQueue (outcomes : CreateOutcomes) : PdevProgram Ret := do
  match (← read).others.revision with
  | .v1 =>
    if outcomes.ioAllocated.isSome then return outcomes.ioAllocated
    if outcomes.started.isSome then return outcomes.started
    update newIoQueue
    update (updateLife ({ · with queueThreads := true }))
    return none
  | .v2 =>
    if outcomes.adminAllocated.isSome then return outcomes.adminAllocated
    update AdminState.configureAdminQueue
    match ← configureIoQueue trafficEvent outcomes.ioAllocated outcomes.started with
    | some error => return some error
    | none =>
      update (updateLife ({ · with queueThreads := true }))
      return none

/-- The part of `create_mx_pdev` after the queues. -/
def createWorkers (outcomes : CreateOutcomes) : PdevProgram Ret := do
  update (updateLife ({ · with queuesInitialized := true }))
  if outcomes.asyncWq.isSome then return outcomes.asyncWq
  if outcomes.zombieCleaner.isSome then return outcomes.zombieCleaner
  update (updateLife ({ · with zombieCleaner := true }))
  if outcomes.pagePool.isSome then return outcomes.pagePool
  -- callers may come as soon as the first of the nodes exists
  update (updateLife ({ · with pagePool := true, published := true }))
  return outcomes.cdevs

/-- `create_mx_pdev`, once the object exists. -/
def createMxPdev (outcomes : CreateOutcomes) : PdevProgram Ret := do
  if outcomes.chrdev.isSome then return outcomes.chrdev
  if outcomes.devMap.isSome then return outcomes.devMap
  update ({ · with barMappedSize := outcomes.barMappedSize })
  if outcomes.pciDeviceInit.isSome then return outcomes.pciDeviceInit
  if outcomes.dmaAddressing.isSome then return outcomes.dmaAddressing
  match ← initQueue outcomes with
  | some error => return some error
  | none => createWorkers outcomes

end PdevProgram

end MxDriver
