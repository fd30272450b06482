import MxDriver.IndexedTally
import MxDriver.KillableRef
import MxDriver.LeaseStateMachine
import MxDriver.TransitionSystem

/-!
# Who uses a device while it is torn down

The bodies of the file operations and the waiters they leave behind in work items count
themselves in `io_ref`; the attributes of the control node are counted by sysfs; and user
space may have the BAR mapped.  `destroy_mx_pdev` marks the device, kills `io_ref`, waits,
takes the nodes away, removes the mappings, and only then stops the protocol and frees
what all of them use.  Everybody moves one statement at a time.
-/

namespace MxDriver

/-- The last statement of `destroy_mx_pdev` that was executed.  It is `retained` after it
returned false, and `attached` before it was called. -/
inductive NodeStage
  | attached
  | started
  | removed
  | disabled
  | killed
  | fenced
  | unpublished
  | nodesGone
  | unmapped
  | stopped
  | retained
  | freed
  deriving DecidableEq, Repr

namespace NodeStage

/-- `lease.removed`. -/
def leaseRemoved : NodeStage → Bool
  | attached | started => false
  | _ => true

/-- `mxdma_device_offline` has killed `io_ref`. -/
def pastKill : NodeStage → Bool
  | attached | started | removed | disabled => false
  | _ => true

/-- `mxdma_wait_io_quiesced` has returned. -/
def pastFence : NodeStage → Bool
  | attached | started | removed | disabled | killed => false
  | _ => true

/-- `cdev_device_del` has been called on the nodes. -/
def pastNodes : NodeStage → Bool
  | attached | started | removed | disabled | killed | fenced => false
  | _ => true

/-- `cdev_device_del` has returned. -/
def pastAttributes : NodeStage → Bool
  | nodesGone | unmapped | stopped | retained | freed => true
  | _ => false

/-- `mxdma_unmap_all_bar_vmas` has returned. -/
def pastUnmap : NodeStage → Bool
  | unmapped | stopped | retained | freed => true
  | _ => false

end NodeStage

/-- Where a caller stands: `mxdma_device_prepare` has got the reference, has seen that the
device is not removed, or has returned 0. -/
inductive BodyStage
  | outside
  | counted
  | notRemoved
  | inside
  deriving DecidableEq, Repr

/-- A VMA over the BAR, which may have lost its pages. -/
inductive BarMapping
  | absent
  | mapped
  | zapped
  deriving DecidableEq, Repr

/-- What `unmap_mapping_range` leaves of a VMA. -/
def BarMapping.zap : BarMapping → BarMapping
  | absent => absent
  | mapped | zapped => zapped

theorem BarMapping.zap_eq_absent {mapping : BarMapping} :
    mapping.zap = .absent ↔ mapping = .absent := by
  cases mapping <;> simp [zap]

theorem BarMapping.zap_ne_mapped (mapping : BarMapping) : mapping.zap ≠ .mapped := by
  cases mapping <;> simp [zap]

/-- The device with the callers, the work items, the readers and writers of attributes,
and the VMAs. -/
structure NodeSystem (θ ω ψ ν : Type*) where
  stage : NodeStage := .attached
  enabled : Bool := false
  published : Bool := false
  asyncWq : Bool := true
  ioRef : KillableRef := {}
  body : θ → BodyStage := fun _ => .outside
  waitWork : ω → Bool := fun _ => false
  inAttribute : ψ → Bool := fun _ => false
  vma : ν → BarMapping := fun _ => .absent
  barCount : Nat := 0
  barMapping : Bool := false

inductive NodeAction (θ ω ψ ν : Type*)
  | createCdevs
  | online
  | prepare (thread : θ)
  | finish (thread : θ)
  | scheduleWait (thread : θ) (work : ω)
  | waitWork (work : ω)
  | enterAttribute (reader : ψ)
  | leaveAttribute (reader : ψ)
  | mmap (thread : θ) (vma : ν)
  | vmaOpen (vma copy : ν)
  | vmaClose (vma : ν)
  | destroy (safe : Bool)
  deriving DecidableEq, Repr

namespace NodeSystem

variable {θ ω ψ ν : Type*}

section Users

variable [DecidableEq θ] [DecidableEq ω] [DecidableEq ψ] [DecidableEq ν]
  (system : NodeSystem θ ω ψ ν)

def setBody (thread : θ) (body : BodyStage) : NodeSystem θ ω ψ ν :=
  { system with body := Function.update system.body thread body }

/-- The caller drops its reference and returns. -/
def putBody (thread : θ) : NodeSystem θ ω ψ ν :=
  { system.setBody thread .outside with ioRef := system.ioRef.put }

/-- The next statement of `mxdma_device_prepare` behind its checks of the pointers. -/
def mxdmaDevicePrepare (thread : θ) : Option (NodeSystem θ ω ψ ν) :=
  match system.body thread with
  | .outside =>
    match system.ioRef.tryGetLive with
    | none => some system
    | some ref => some { system.setBody thread .counted with ioRef := ref }
  | .counted =>
    if system.stage.leaseRemoved then some (system.putBody thread)
    else some (system.setBody thread .notRemoved)
  | .notRemoved =>
    if system.enabled then some (system.setBody thread .inside)
    else some (system.putBody thread)
  | .inside => none

/-- `mxdma_device_finish`. -/
def mxdmaDeviceFinish (thread : θ) : Option (NodeSystem θ ω ψ ν) :=
  if system.body thread = .inside then some (system.putBody thread) else none

/-- A transfer that nobody waits for: the body gets a reference for the work item and
queues it. -/
def mxTransferScheduleWait (thread : θ) (work : ω) : Option (NodeSystem θ ω ψ ν) :=
  if system.body thread = .inside ∧ system.waitWork work = false then
    some { system with
      ioRef := system.ioRef.get
      waitWork := Function.update system.waitWork work true }
  else none

/-- The end of `mx_transfer_wait_work`. -/
def mxTransferWaitWork (work : ω) : Option (NodeSystem θ ω ψ ν) :=
  if system.waitWork work then
    some { system with
      ioRef := system.ioRef.put
      waitWork := Function.update system.waitWork work false }
  else none

/-- sysfs calls a show or store function only while the attribute exists. -/
def enterAttribute (reader : ψ) : Option (NodeSystem θ ω ψ ν) :=
  if system.published ∧ system.inAttribute reader = false then
    some { system with inAttribute := Function.update system.inAttribute reader true }
  else none

def leaveAttribute (reader : ψ) : Option (NodeSystem θ ω ψ ν) :=
  if system.inAttribute reader then
    some { system with inAttribute := Function.update system.inAttribute reader false }
  else none

/-- The locked section of `mx_bar_mmap`; a refused or failed one changes nothing. -/
def mxBarMmap (thread : θ) (vma : ν) : Option (NodeSystem θ ω ψ ν) :=
  if system.body thread = .inside ∧ system.vma vma = .absent then
    if system.enabled then
      some { system with
        vma := Function.update system.vma vma .mapped
        barCount := incU32 system.barCount
        barMapping := true }
    else some system
  else none

/-- `mx_bar_vma_open`: a copy has the pages that the original has. -/
def mxBarVmaOpen (vma copy : ν) : Option (NodeSystem θ ω ψ ν) :=
  if system.vma vma ≠ .absent ∧ system.vma copy = .absent then
    some { system with
      vma := Function.update system.vma copy (system.vma vma)
      barCount := incU32 system.barCount }
  else none

/-- The locked section of `mx_bar_vma_close`.  A count of 0 stays, with a warning. -/
def mxBarVmaClose (vma : ν) : Option (NodeSystem θ ω ψ ν) :=
  if system.vma vma ≠ .absent then
    some { system with
      vma := Function.update system.vma vma .absent
      barCount := system.barCount - 1
      barMapping := if system.barCount = 1 then false else system.barMapping }
  else none

end Users

/-- `mxdma_unmap_all_bar_vmas`. -/
def mxdmaUnmapAllBarVmas (system : NodeSystem θ ω ψ ν) : NodeSystem θ ω ψ ν :=
  if system.barMapping then
    { system with vma := fun vma => (system.vma vma).zap, barMapping := false }
  else system

/-- The next statement of `destroy_mx_pdev`.  The protocol is drained before the fence,
which changes nothing here.  `safe` is what `mxdma_stop_device_protocol` returns; it
begins with `destroy_workqueue`, which waits for the work items.  A teardown that
returned false is entered again by the real unbind. -/
def destroyMxPdev [Fintype ω] [Fintype ψ] (system : NodeSystem θ ω ψ ν) (safe : Bool) :
    Option (NodeSystem θ ω ψ ν) :=
  match system.stage with
  | .attached => some { system with stage := .started }
  | .started => some { system with stage := .removed }
  | .removed => some { system with stage := .disabled, enabled := false }
  | .disabled =>
    some { system with
      stage := .killed
      ioRef := if system.ioRef.dying then system.ioRef else system.ioRef.kill }
  | .killed => if system.ioRef.isZero then some { system with stage := .fenced } else none
  | .fenced => some { system with stage := .unpublished, published := false }
  | .unpublished =>
    if ∀ reader, system.inAttribute reader = false then
      some { system with stage := .nodesGone }
    else none
  | .nodesGone => some { system.mxdmaUnmapAllBarVmas with stage := .unmapped }
  | .unmapped =>
    if ∀ work, system.waitWork work = false then
      some { system with asyncWq := false, stage := if safe then .stopped else .retained }
    else none
  | .stopped => some { system with stage := .freed }
  | .retained => if system.ioRef.isZero then some { system with stage := .unmapped } else none
  | .freed => none

end NodeSystem

/-- One step.  The nodes are created, and the device goes online, before it is torn
down. -/
def nodeStep {θ ω ψ ν : Type*} [DecidableEq θ] [DecidableEq ω] [DecidableEq ψ] [DecidableEq ν]
    [Fintype ω] [Fintype ψ] (system : NodeSystem θ ω ψ ν) :
    NodeAction θ ω ψ ν → Option (NodeSystem θ ω ψ ν)
  | .createCdevs =>
    if system.stage = .attached then some { system with published := true } else none
  | .online =>
    if system.stage = .attached ∧ system.published then some { system with enabled := true }
    else none
  | .prepare thread => system.mxdmaDevicePrepare thread
  | .finish thread => system.mxdmaDeviceFinish thread
  | .scheduleWait thread work => system.mxTransferScheduleWait thread work
  | .waitWork work => system.mxTransferWaitWork work
  | .enterAttribute reader => system.enterAttribute reader
  | .leaveAttribute reader => system.leaveAttribute reader
  | .mmap thread vma => system.mxBarMmap thread vma
  | .vmaOpen vma copy => system.mxBarVmaOpen vma copy
  | .vmaClose vma => system.mxBarVmaClose vma
  | .destroy safe => system.destroyMxPdev safe

end MxDriver
