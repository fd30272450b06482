import MxDriver.ErrorNumbers
import MxDriver.TransitionSystem
import Mathlib.Logic.Function.Basic

/-!
# The event node of a device

An MSI interrupt counts an event and wakes the pollers of the event node, and a poll
reports one event and takes it off the count.  Interrupts, any number of pollers and
the teardown of the device run side by side, one statement at a time; the count is
tested and lowered in two of them.

A poller puts itself on the wait queue before it tests anything.  One that was told
nothing sleeps there until it is woken, and then polls again.
-/

namespace MxDriver

/-! ## The bits of `__poll_t` -/

def epollin : UInt32 := 0x0001

def epollerr : UInt32 := 0x0008

def epollhup : UInt32 := 0x0010

def epollrdnorm : UInt32 := 0x0040

/-- The mask for a poll that `mxdma_device_prepare` has refused. -/
def pollError (error : Errno) : UInt32 :=
  if error = .enodev then epollerr ||| epollhup else epollerr

/-- The last statement of `destroy_mx_pdev` that pollers can notice:
`mx_lease_mark_removed`, the two of `mxdma_device_offline`, its `wake_up_all`, and
`wake_up_interruptible_poll`. -/
inductive NodeTeardown
  | live
  | removed
  | disabled
  | killed
  | woken
  | announced
  deriving DecidableEq, Repr

namespace NodeTeardown

/-- `lease.removed`. -/
def leaseRemoved : NodeTeardown → Bool
  | live => false
  | _ => true

def enabled : NodeTeardown → Bool
  | live | removed => true
  | _ => false

/-- `percpu_ref_is_dying(&mx_pdev->io_ref)`. -/
def ioRefDying : NodeTeardown → Bool
  | killed | woken | announced => true
  | _ => false

/-- The pollers were woken after the kill. -/
def toldPollers : NodeTeardown → Bool
  | woken | announced => true
  | _ => false

end NodeTeardown

/-- Where a poller stands: the last statement of `mxdma_device_poll` that it has
executed, with the mask once that is decided. -/
inductive PollStage
  | idle
  /-- `percpu_ref_tryget_live` got the reference. -/
  | entered
  /-- `mxdma_device_prepare` returned 0. -/
  | prepared
  /-- `poll_wait`. -/
  | registered
  | notDying
  | notRemoved
  /-- `atomic_read` was positive. -/
  | counted
  | leaving (mask : UInt32)
  | returned (mask : UInt32)
  deriving DecidableEq, Repr

/-- A new call may begin. -/
def PollStage.outside : PollStage → Bool
  | idle | returned _ => true
  | _ => false

/-- A poller, whether it is on the wait queue, and whether it was woken there. -/
structure Poller where
  stage : PollStage := .idle
  waiting : Bool := false
  woken : Bool := false
  deriving DecidableEq, Repr

/-- What a wake-up does to a poller. -/
def Poller.wake (poller : Poller) : Poller :=
  { poller with woken := poller.woken || poller.waiting }

structure EventSystem (θ : Type*) where
  /-- `mx_event->count`, an `atomic_t`. -/
  count : Int32 := 0
  teardown : NodeTeardown := .live
  /-- Interrupt handlers between `atomic_inc` and `wake_up_interruptible`. -/
  waking : Nat := 0
  poller : θ → Poller := fun _ => {}
  /-- The interrupts so far. -/
  interrupts : Nat := 0
  /-- The polls so far that were told of an event. -/
  reported : Nat := 0
  /-- The interrupts that no poll was told of yet. -/
  unreported : Nat := 0

/-- `mx_event_init`. -/
def EventSystem.start {θ : Type*} : EventSystem θ := {}

namespace EventSystem

variable {θ : Type*}

/-! ## The calls as a whole -/

variable (system : EventSystem θ)

/-- `mxdma_device_prepare`; `valid` says that the file has a context of a device. -/
def mxdmaDevicePrepare (valid : Bool) : Ret :=
  if valid = false then some .einval
  else if system.teardown.ioRefDying then some .enodev
  else if system.teardown.leaseRemoved || !system.teardown.enabled then some .enodev
  else none

/-- `mxdma_device_poll` when nothing else runs: the mask and the count after it. -/
def mxdmaDevicePoll (valid : Bool) : UInt32 × Int32 :=
  match system.mxdmaDevicePrepare valid with
  | some error => (pollError error, system.count)
  | none =>
    if system.teardown.ioRefDying || system.teardown.leaseRemoved then
      (epollerr ||| epollhup, system.count)
    else if 0 < system.count then (epollin ||| epollrdnorm, system.count - 1)
    else (0, system.count)

/-! ## One statement at a time -/

/-- The `atomic_inc` of `msi_irq_handler`. -/
def countInterrupt : EventSystem θ :=
  { system with
    count := system.count + 1
    waking := system.waking + 1
    interrupts := system.interrupts + 1
    unreported := system.unreported + 1 }

/-- Wake the pollers on the wait queue. -/
def wakeUp : EventSystem θ :=
  { system with poller := fun index => (system.poller index).wake }

/-- The `atomic_dec` of a poll, which is told of an event. -/
def takeEvent : EventSystem θ :=
  { system with
    count := system.count - 1
    reported := system.reported + 1
    unreported := system.unreported - 1 }

/-- The next statement of the teardown. -/
def destroy : Option (EventSystem θ) :=
  match system.teardown with
  | .live => some { system with teardown := .removed }
  | .removed => some { system with teardown := .disabled }
  | .disabled => some { system with teardown := .killed }
  | .killed => some { system.wakeUp with teardown := .woken }
  | .woken => some { system.wakeUp with teardown := .announced }
  | .announced => none

variable [DecidableEq θ]

def setPoller (system : EventSystem θ) (index : θ) (poller : Poller) : EventSystem θ :=
  { system with poller := Function.update system.poller index poller }

def setStage (system : EventSystem θ) (index : θ) (stage : PollStage) : EventSystem θ :=
  system.setPoller index { system.poller index with stage := stage }

section Fields

variable {system : EventSystem θ} {index : θ} {poller : Poller} {stage : PollStage}

@[simp]
theorem setPoller_self : (system.setPoller index poller).poller index = poller :=
  Function.update_self ..

theorem setPoller_of_ne {other : θ} (different : other ≠ index) :
    (system.setPoller index poller).poller other = system.poller other :=
  Function.update_of_ne different ..

@[simp]
theorem teardown_setPoller : (system.setPoller index poller).teardown = system.teardown := rfl

@[simp]
theorem stage_setStage : ((system.setStage index stage).poller index).stage = stage := by
  rw [setStage, setPoller_self]

@[simp]
theorem count_setStage : (system.setStage index stage).count = system.count := rfl

@[simp]
theorem teardown_setStage : (system.setStage index stage).teardown = system.teardown := rfl

end Fields

/-- A poll begins, up to `percpu_ref_tryget_live`. -/
def enterPoll (system : EventSystem θ) (index : θ) (valid : Bool) : Option (EventSystem θ) :=
  if (system.poller index).stage.outside then
    some (system.setPoller index
      { system.poller index with
        woken := false
        stage :=
          if valid = false then .returned (pollError .einval)
          else if system.teardown.ioRefDying then .returned (pollError .enodev)
          else .entered })
  else none

/-- The next statement of a poll. -/
def pollStatement (system : EventSystem θ) (index : θ) : Option (EventSystem θ) :=
  match (system.poller index).stage with
  | .idle | .returned _ => none
  | .entered =>
    some (system.setStage index
      (if system.teardown.leaseRemoved || !system.teardown.enabled then
        .returned (pollError .enodev)
      else .prepared))
  | .prepared =>
    some (system.setPoller index
      { system.poller index with stage := .registered, waiting := true })
  | .registered =>
    some (system.setStage index
      (if system.teardown.ioRefDying then .leaving (epollerr ||| epollhup) else .notDying))
  | .notDying =>
    some (system.setStage index
      (if system.teardown.leaseRemoved then .leaving (epollerr ||| epollhup)
      else .notRemoved))
  | .notRemoved =>
    some (system.setStage index (if 0 < system.count then .counted else .leaving 0))
  | .counted => some (system.takeEvent.setStage index (.leaving (epollin ||| epollrdnorm)))
  | .leaving mask => some (system.setStage index (.returned mask))

/-- The caller of a poll that has returned stops waiting. -/
def leaveQueue (system : EventSystem θ) (index : θ) : Option (EventSystem θ) :=
  if (system.poller index).stage.outside then some (system.setPoller index {}) else none

end EventSystem

/-- The statements of the interrupt handler, of the pollers and of the teardown. -/
inductive EventAction (θ : Type*)
  | interrupt
  | wake
  | enter (poller : θ) (valid : Bool)
  | poll (poller : θ)
  | leave (poller : θ)
  | destroy
  deriving DecidableEq, Repr

def eventStep {θ : Type*} [DecidableEq θ] (system : EventSystem θ) :
    EventAction θ → Option (EventSystem θ)
  | .interrupt => some system.countInterrupt
  | .wake =>
    if system.waking = 0 then none
    else some { system.wakeUp with waking := system.waking - 1 }
  | .enter poller valid => system.enterPoll poller valid
  | .poll poller => system.pollStatement poller
  | .leave poller => system.leaveQueue poller
  | .destroy => system.destroy

end MxDriver
