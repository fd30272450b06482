import MxDriver.BarMap
import MxDriver.FallibleProgram
import MxDriver.MarkedResources
import MxDriver.PrpCommand
import MxDriver.SavedSettings

/-!
# What an attach takes, and the settings it changes

`create_mx_pdev` takes one thing after the other from the kernel and changes settings of a
PCI function that, in the overlay build, belongs to the CXL driver.  Each step can fail, and
`destroy_mx_pdev` finds out from the fields of the object how far the creation came.  What
the protocol with the device does meanwhile is the subject of the files on the teardown;
here only whether it was stopped safely matters.

The object itself lives on references.  The attachment has one, and so has every file
context and every mapping of the BAR, and every node until its last file is closed; all of
them may outlast the attachment.
-/

namespace MxDriver

/-- Whether `CONFIG_WO_CXL` is set: then the driver owns the PCI function. -/
inductive DriverBuild
  | overlay
  | standalone
  deriving DecidableEq, Repr

/-- The settings of the PCI function.  Those that are on or off are 1 or 0. -/
inductive PciSetting
  | enabled | readrq | busMaster | msi | dmaMask | coherentDmaMask | maxSegSize | minAlignMask
  deriving DecidableEq, Repr

inductive CdevType
  | ioctl | event | bdf
  deriving DecidableEq, Repr

inductive QueueRole
  | admin | io
  deriving DecidableEq, Repr

/-- What is taken from the kernel.  Each has a pointer or a flag that says whether it is
there, in `struct mx_pci_dev` or in the function that runs. -/
inductive PciResource
  | object | ioRef | barMap | cpuLatencyReq | chrdevRegion | barRegion | bar | irq
  | queue (role : QueueRole) | cqes (role : QueueRole) | sqes (role : QueueRole)
  | submitThread | completeThread | asyncWq | zombieCleanupThread | pagePool
  | cdev (type : CdevType) | sqMbox (qid : Nat) | cqMbox (qid : Nat)
  deriving DecidableEq, Repr

structure PciAttach where
  holdings : Holdings PciResource := {}
  pci : SavedSettings PciSetting Nat
  ref : Nat := 0
  /-- Whether the attachment has its reference, the one of `kref_init`. -/
  ownRef : Bool := false
  /-- The file contexts and the mappings of the BAR, which have a reference each. -/
  pins : Nat := 0
  /-- The files of a node, with the callers that are about to open one. -/
  files : CdevType → Nat := fun _ => 0
  teardownStarted : Bool := false
  protocolPoisoned : Bool := false
  /-- Whether `mxdma_fence_pci_unbind` has cleared the bus master bit. -/
  fenced : Bool := false

/-- The answers of the kernel and of the device to what `create_mx_pdev` asks of them. -/
structure PciAnswers where
  kzalloc : Bool
  percpuRefInit : Ret
  mxBarMapAlloc : Bool
  allocChrdevRegion : Ret
  pciRequestRegion : Ret
  pciIomap : Bool
  pciEnableDeviceMem : Ret
  pcieGetReadrq : Ret
  /-- The answer to setting a value. -/
  set : PciSetting → Nat → Ret
  pciEnableMsi : Ret
  pciIrqVector : Bool
  requestIrq : Ret
  allocQueue : QueueRole → Bool
  allocCqes : QueueRole → Bool
  allocSqes : QueueRole → Bool
  /-- The contexts of the two mailboxes of the first revision are valid. -/
  sqContext : Bool
  cqContext : Bool
  /-- The creation of the I/O queue in the device. -/
  createIoQueue : Ret
  submitThread : Ret
  completeThread : Ret
  allocWorkqueue : Bool
  zombieCleanupThread : Ret
  dmaPoolCreate : Bool
  devSetName : CdevType → Ret
  cdevDeviceAdd : CdevType → Ret
  /-- How many files are opened on a node before the creation goes on. -/
  opened : CdevType → Nat

abbrev PciProgram := Fallible Errno PciAttach Unit

/-- `DMA_BIT_MASK`. -/
def dmaBitMask (bits : Nat) : Nat := 2 ^ bits - 1

/-- `SZ_1G`. -/
def sz1G : Nat := 2 ^ 30

namespace PciAttach

open Fallible

variable (state : PciAttach)

def acquire (resource : PciResource) : PciAttach :=
  { state with holdings := state.holdings.acquire resource }

def release (resource : PciResource) : PciAttach :=
  { state with holdings := state.holdings.release resource }

def put (setting : PciSetting) (value : Nat) : PciAttach :=
  { state with pci := state.pci.put setting value }

def force (setting : PciSetting) (value : Nat) : PciAttach :=
  { state with pci := state.pci.force setting value }

/-- Take what a call returned, or fail. -/
def takeIf (returned : Bool) (error : Errno) (resource : PciResource) : PciProgram := do
  refuse (returned = false) error
  update (·.acquire resource)

/-- Take what a call made, or fail with its return code. -/
def take (ret : Ret) (resource : PciResource) : PciProgram := do
  check ret
  update (·.acquire resource)

/-! ## The life of the object -/

def mxPdevFree : PciAttach :=
  { ((state.release .barMap).release .ioRef).release .object with ref := 0 }

/-- `kref_put` with `mx_pdev_free`. -/
def mxPdevPut : PciAttach :=
  if state.ref = 1 then state.mxPdevFree else { state with ref := state.ref - 1 }

def krefGet : PciAttach := { state with ref := state.ref + 1 }

/-- `kref_init`. -/
def krefInit : PciAttach := { state with ref := 1, ownRef := true }

/-- The part of `mxdma_drop_attachment` that is about the object. -/
def mxdmaDropAttachment : PciAttach := { state with ownRef := false }.mxPdevPut

/-- Files are opened on a node. -/
def openFiles (type : CdevType) (count : Nat) : PciAttach :=
  { state with
    files := Function.update state.files type (state.files type + count)
    pins := state.pins + count
    ref := state.ref + count }

variable (answers : PciAnswers)

/-- The device that `device_initialize` made has a reference from the beginning; a failure
drops it again. -/
def createMxCdev (type : CdevType) : PciProgram := do
  update krefGet
  (check (answers.devSetName type)).onFailure mxPdevPut
  (check (answers.cdevDeviceAdd type)).onFailure mxPdevPut
  update (·.acquire (.cdev type))
  update (·.openFiles type (answers.opened type))

/-- With its last file the node drops its reference, in `mx_cdev_release`. -/
def destroyMxCdev (type : CdevType) : PciAttach :=
  if state.holdings.marks (.cdev type) then
    let hidden := state.release (.cdev type)
    if state.files type = 0 then hidden.mxPdevPut else hidden
  else state

/-! ## The PCI function -/

def devMap : PciProgram := do
  take answers.pciRequestRegion .barRegion
  (refuse (answers.pciIomap = false) .enomem).onFailure (·.release .barRegion)
  update (·.acquire .bar)

def devUnmap : PciAttach := (state.release .bar).release .barRegion

def enableDevice (build : DriverBuild) (answers : PciAnswers) : PciProgram := do
  let state ← read
  if state.pci.current .enabled ≠ 0 then pure ()
  else match build with
    | .overlay => fail .enodev
    | .standalone => do
        check answers.pciEnableDeviceMem
        update (·.put .enabled 1)

def changeReadrq : PciProgram := do
  check answers.pcieGetReadrq
  let state ← read
  if state.pci.current .readrq = pageSize then pure ()
  else do
    check (answers.set .readrq pageSize)
    update (·.put .readrq pageSize)

def enableBusMaster (build : DriverBuild) : PciProgram := do
  let state ← read
  if state.pci.current .busMaster ≠ 0 then pure ()
  else match build with
    | .overlay => fail .enodev
    | .standalone => update (·.put .busMaster 1)

def enableMsi : PciProgram := do
  let state ← read
  if state.pci.current .msi ≠ 0 then pure ()
  else do
    check answers.pciEnableMsi
    update (·.put .msi 1)

def pciDeviceInit (build : DriverBuild) (answers : PciAnswers) : PciProgram := do
  enableDevice build answers
  changeReadrq answers
  enableBusMaster build
  enableMsi answers
  refuse (answers.pciIrqVector = false) .enodev
  take answers.requestIrq .irq

/-- Whether a setting can be restored: the calls for the others return nothing. -/
def restores (setting : PciSetting) (value : Nat) : Bool :=
  match setting with
  | .readrq | .dmaMask | .coherentDmaMask | .maxSegSize => (answers.set setting value).isNone
  | .enabled | .busMaster | .msi | .minAlignMask => true

def restore (setting : PciSetting) : PciAttach :=
  { state with pci := state.pci.restore (restores answers) setting }

def pciDeviceExit : PciAttach :=
  [.msi, .readrq, .minAlignMask, .maxSegSize, .coherentDmaMask, .dmaMask, .busMaster,
    .enabled].foldl (·.restore answers) (state.release .irq)

/-- The wider of the two masks that is accepted. -/
def selectDmaMask : Option Nat :=
  if (answers.set .dmaMask (dmaBitMask 48)).isNone then some (dmaBitMask 48)
  else if (answers.set .dmaMask (dmaBitMask 32)).isNone then some (dmaBitMask 32)
  else none

def limitSegments : PciProgram := do
  let state ← read
  if state.pci.current .maxSegSize ≤ sz1G then pure ()
  else do
    check (answers.set .maxSegSize sz1G)
    update (·.put .maxSegSize sz1G)

def alignMask : PciAttach :=
  let required := state.pci.current .minAlignMask ||| (pageSize - 1)
  if required = state.pci.current .minAlignMask then state else state.put .minAlignMask required

def setDmaAddressing (build : DriverBuild) (answers : PciAnswers) : PciProgram :=
  match build with
  | .overlay => do
      let state ← read
      refuse (state.pci.current .dmaMask = 0) .einval
      match selectDmaMask answers with
      | none => fail .einval
      | some mask => do
          update (·.put .dmaMask mask)
          refuse ((answers.set .coherentDmaMask mask).isSome) .einval
          update (·.put .coherentDmaMask mask)
          limitSegments answers
          update alignMask
  | .standalone =>
    match selectDmaMask answers with
    | none => fail .einval
    | some mask => do
        update (·.force .dmaMask mask)
        refuse ((answers.set .coherentDmaMask mask).isSome) .einval
        update (·.force .coherentDmaMask mask)
        update (·.force .maxSegSize sz1G)
        update (·.force .minAlignMask (pageSize - 1))

/-! ## The queues -/

def allocQueue (role : QueueRole) : PciProgram := do
  takeIf (answers.allocCqes role) .enomem (.cqes role)
  (refuse (answers.allocSqes role = false) .enomem).onFailure (·.release (.cqes role))
  update (·.acquire (.sqes role))

/-- The beginning of `configure_admin_queue` and of `configure_io_queue`. -/
def makeQueue (role : QueueRole) : PciProgram := do
  takeIf (answers.allocQueue role) .enomem (.queue role)
  (allocQueue answers role).onFailure (·.release (.queue role))

def freeQueueStorage (role : QueueRole) : PciAttach :=
  (state.release (.sqes role)).release (.cqes role)

def mxStartIoQueue : PciProgram := do
  take answers.submitThread .submitThread
  (check answers.completeThread).onFailure (·.release .submitThread)
  update (·.acquire .completeThread)

def mxStopQueueThreads : PciAttach := (state.release .submitThread).release .completeThread

def initQueue (revision : Revision) (answers : PciAnswers) : PciProgram :=
  match revision with
  | .v1 => do
      takeIf (answers.allocQueue .io) .enomem (.queue .io)
      (refuse (answers.sqContext = false) .einval).onFailure (·.release (.queue .io))
      (refuse (answers.cqContext = false) .einval).onFailure (·.release (.queue .io))
      (mxStartIoQueue answers).onFailure (·.release (.queue .io))
  | .v2 => do
      makeQueue answers .admin
      makeQueue answers .io
      check answers.createIoQueue
      mxStartIoQueue answers

/-- `ops.free_queue`. -/
def freeQueue (revision : Revision) : PciAttach :=
  match revision with
  | .v1 => state.release (.queue .io)
  | .v2 => (((state.freeQueueStorage .io).release (.queue .io)).freeQueueStorage .admin).release
      (.queue .admin)

/-! ## Attach and detach -/

/-- The first part of `create_mx_pdev`, which cleans up after itself. -/
def createObject : PciProgram := do
  takeIf answers.kzalloc .enomem .object
  (take answers.percpuRefInit .ioRef).onFailure (·.release .object)
  (takeIf answers.mxBarMapAlloc .enomem .barMap).onFailure
    (fun state => (state.release .ioRef).release .object)
  update krefInit

/-- The rest of `create_mx_pdev`, which leaves the cleaning up to `destroy_mx_pdev`. -/
def createRest (build : DriverBuild) (revision : Revision) (answers : PciAnswers) :
    PciProgram := do
  update (·.acquire .cpuLatencyReq)
  take answers.allocChrdevRegion .chrdevRegion
  devMap answers
  pciDeviceInit build answers
  setDmaAddressing build answers
  initQueue revision answers
  takeIf answers.allocWorkqueue .enomem .asyncWq
  take answers.zombieCleanupThread .zombieCleanupThread
  takeIf answers.dmaPoolCreate .enomem .pagePool
  forEach (createMxCdev answers) [.ioctl, .event, .bdf]

/-- `mx_free_registered_mboxes`. -/
def mxFreeRegisteredMboxes : PciAttach :=
  (List.range maxNumOfMbox).foldl
    (fun state qid => (state.release (.sqMbox qid)).release (.cqMbox qid)) state

/-- `mxdma_fence_pci_unbind`. -/
def mxdmaFencePciUnbind : PciAttach := { state.force .busMaster 0 with fenced := true }

/-- What `destroy_mx_pdev` frees at its end. -/
def freeAll (revision : Revision) (answers : PciAnswers) : PciAttach :=
  (((state.mxFreeRegisteredMboxes.release .pagePool).freeQueue revision).devUnmap).pciDeviceExit
    answers

/-- The label `stop_protocol` of `destroy_mx_pdev`, where the protocol was stopped safely or
not.  The workqueue and the threads of the queue end in both cases. -/
def stopProtocol (revision : Revision) (answers : PciAnswers) (actualPciUnbind safe : Bool) :
    Bool × PciAttach :=
  let stopped := (state.release .asyncWq).mxStopQueueThreads
  if safe then
    let fenced := if actualPciUnbind then stopped.mxdmaFencePciUnbind else stopped
    (true, ((fenced.release .zombieCleanupThread).release .chrdevRegion).freeAll revision answers)
  else (false, { stopped.release .chrdevRegion with protocolPoisoned := true })

/-- The first part of `destroy_mx_pdev`. -/
def startTeardown : PciAttach :=
  let hidden := [CdevType.ioctl, .event, .bdf].foldl destroyMxCdev
    { state with teardownStarted := true }
  hidden.release .cpuLatencyReq

def destroyMxPdev (revision : Revision) (answers : PciAnswers) (actualPciUnbind safe : Bool) :
    Bool × PciAttach :=
  if state.teardownStarted then
    if !state.protocolPoisoned then (true, state)
    else if !actualPciUnbind then (false, state)
    else state.stopProtocol revision answers actualPciUnbind safe
  else state.startTeardown.stopProtocol revision answers actualPciUnbind safe

/-- `mxdma_attach_device` from `create_mx_pdev` on, without the registry: the error it
returns, if any, and what it leaves. -/
def mxdmaAttachDevice (build : DriverBuild) (revision : Revision) (answers : PciAnswers)
    (safe : Bool) : Ret × PciAttach :=
  match createObject answers state with
  | (.error error, state) => (some error, state)
  | (.ok _, state) =>
    match createRest build revision answers state with
    | (.ok _, state) => (none, state)
    | (.error error, state) =>
      match state.destroyMxPdev revision answers false safe with
      | (true, state) => (some error, state.mxdmaDropAttachment)
      | (false, state) => (if build = .standalone then none else some error, state)

/-- `mxdma_detach_device`, without the registry. -/
def mxdmaDetachDevice (revision : Revision) (answers : PciAnswers) (safe : Bool) : PciAttach :=
  match state.destroyMxPdev revision answers true safe with
  | (true, state) => state.mxdmaDropAttachment
  | (false, state) => state

/-! ## The files -/

/-- The node's device has not been released. -/
def nodeAlive (type : CdevType) : Bool :=
  state.holdings.marks (.cdev type) || state.files type != 0

/-- `chrdev_open` finds the node, also through an inode that has found it before. -/
def enterNode (type : CdevType) : PciAttach :=
  { state with files := Function.update state.files type (state.files type + 1) }

/-- A file is closed, or could not be opened.  The last one of a node that was destroyed
releases it. -/
def leaveNode (type : CdevType) : PciAttach :=
  let left := { state with files := Function.update state.files type (state.files type - 1) }
  if left.nodeAlive type then left else left.mxPdevPut

/-- A new file context, or a new mapping of the BAR. -/
def pin : PciAttach := { state.krefGet with pins := state.pins + 1 }

/-- The last use of a file context, or of a mapping. -/
def unpin : PciAttach := { state with pins := state.pins - 1 }.mxPdevPut

end PciAttach

/-- While the device is attached, mailboxes are registered.  The owner may be unbound again
when a detach has failed.  Files are opened and closed, and file contexts and mappings come
and go, as long as there is something to open or to refer to. -/
inductive PciAction
  | registerMbox (qid : Nat)
  | detach (safe : Bool)
  | enterNode (type : CdevType)
  | leaveNode (type : CdevType)
  | pin
  | unpin
  deriving DecidableEq, Repr

namespace PciAttach

def step (revision : Revision) (answers : PciAnswers) (state : PciAttach) :
    PciAction → Option PciAttach
  | .registerMbox qid =>
    if state.holdings.marks .object = true ∧ state.teardownStarted = false ∧ qid < maxNumOfMbox ∧
        state.holdings.marks (.sqMbox qid) = false then
      some ((state.acquire (.sqMbox qid)).acquire (.cqMbox qid))
    else none
  | .detach safe =>
    if state.ownRef then some (state.mxdmaDetachDevice revision answers safe) else none
  | .enterNode type => if state.nodeAlive type then some (state.enterNode type) else none
  | .leaveNode type => if 0 < state.files type then some (state.leaveNode type) else none
  | .pin => if state.holdings.marks .object then some state.pin else none
  | .unpin => if 0 < state.pins then some state.unpin else none

/-- The PCI function as it is found. -/
def found (initial : PciSetting → Nat) : PciAttach where
  pci := { current := initial, saved := initial }

end PciAttach

end MxDriver
