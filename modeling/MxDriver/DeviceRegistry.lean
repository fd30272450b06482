import MxDriver.ErrorNumbers
import MxDriver.IndexedTally
import MxDriver.TransitionSystem

/-!
# The registry of devices

The driver overlays the one that a PCI device is bound to: a notifier attaches an object
when the device is bound and detaches it before it is unbound, and `mxdma_init` attaches
the devices that were bound before.  The registry lists the objects.  It has a lock of its
own, which an attach drops while it creates the object; what keeps two calls for one device
apart is the lock of the device.  An object pins the device and the code of the module, and
an object whose teardown failed stays registered.
-/

namespace MxDriver

/-- An object, as far as the registry knows it. -/
structure MxAttachment (δ : Type*) where
  pdev : δ
  protocolPoisoned : Bool
  moduleRefHeld : Bool
  pciRefHeld : Bool
  deriving DecidableEq, Repr

/-- What `mxdma_attach_device` returns: `-ESHUTDOWN`, or another code. -/
inductive AttachRet
  | eshutdown
  | ret (ret : Ret)
  deriving DecidableEq, Repr

/-- How `create_mx_pdev` ends: without an object, with one that failed, or well. -/
inductive CreateOutcome
  | noObject (error : Errno)
  | failed (error : Errno) (poisoned : Bool)
  | created
  deriving DecidableEq, Repr

/-- Where the call for a device stands.  `mxdma_attach_device` has not begun, has passed
its first section with the flag it sampled, knows the number of the device, and has pinned
the module; its object is undone because it failed.  `mxdma_detach_device` has not begun,
and then tears the object down.  Both end with adding the object to the list, or without
one.  A detach has no result. -/
inductive RegistryCall (δ : Type*)
  | idle
  | attaching
  | checked (moduleComing : Bool)
  | identified (moduleComing : Bool)
  | pinned
  | undoing (attachment : MxAttachment δ) (error : Errno)
  | removing
  | detaching (attachment : MxAttachment δ)
  | adding (attachment : MxAttachment δ) (result : Option AttachRet)
  | returned (result : AttachRet)
  deriving DecidableEq, Repr

/-- Nobody holds the lock of the device. -/
def RegistryCall.free {δ : Type*} : RegistryCall δ → Bool
  | .idle | .returned _ => true
  | _ => false

/-- The life of the module: `mxdma_init` runs, it is loaded, the kernel has decided to
unload it, `mxdma_exit` has closed the registry, and it has unregistered the notifier. -/
inductive ModulePhase
  | coming
  | live
  | going
  | closed
  | unregistered
  deriving DecidableEq, Repr

/-- `mxdma_accepting_devices`. -/
def ModulePhase.acceptingDevices : ModulePhase → Bool
  | coming | live | going => true
  | closed | unregistered => false

/-- `mxdma_module_coming`. -/
def ModulePhase.moduleComing : ModulePhase → Bool
  | coming => true
  | _ => false

/-- `try_module_get` succeeds. -/
def ModulePhase.alive : ModulePhase → Bool
  | coming | live => true
  | _ => false

/-- The devices, which of them are bound to `cxl_pci`, the references that the driver holds
on each and on the module, the calls, and the list. -/
structure RegistrySystem (δ : Type*) where
  phase : ModulePhase
  bound : δ → Bool
  moduleRefs : Nat
  pciRefs : δ → Nat
  call : δ → RegistryCall δ
  registry : List (MxAttachment δ)

/-- `mxdma_init` has registered the notifier. -/
def RegistrySystem.start {δ : Type*} (bound : δ → Bool) : RegistrySystem δ where
  phase := .coming
  bound := bound
  moduleRefs := 0
  pciRefs _ := 0
  call _ := .idle
  registry := []

inductive RegistryAction (δ : Type*)
  | bind (pdev : δ)
  | enumerate (pdev : δ)
  | unbind (pdev : δ)
  | find (pdev : δ)
  | identify (pdev : δ) (found : Option Errno)
  | pin (pdev : δ)
  | create (pdev : δ) (outcome : CreateOutcome)
  | destroy (pdev : δ) (safe : Bool)
  | add (pdev : δ)
  | initDone
  | unload
  | close
  | unregister
  deriving DecidableEq, Repr

namespace RegistrySystem

variable {δ : Type*} [DecidableEq δ] (system : RegistrySystem δ) (pdev : δ)

def setCall (call : RegistryCall δ) : RegistrySystem δ :=
  { system with call := Function.update system.call pdev call }

/-- The driver core is done with unbinding the device. -/
def setUnbound : RegistrySystem δ :=
  { system with bound := Function.update system.bound pdev false }

/-- `mxdma_find_device_locked`. -/
def mxdmaFindDeviceLocked : Option (MxAttachment δ) :=
  system.registry.find? fun attachment => attachment.pdev = pdev

/-- `mxdma_drop_attachment`. -/
def mxdmaDropAttachment (attachment : MxAttachment δ) : RegistrySystem δ :=
  { system with
    pciRefs :=
      if attachment.pciRefHeld then
        Function.update system.pciRefs pdev (system.pciRefs pdev - 1)
      else system.pciRefs
    moduleRefs := if attachment.moduleRefHeld then system.moduleRefs - 1 else system.moduleRefs }

/-- The first locked sections of `mxdma_attach_device` and `mxdma_detach_device`. -/
def find : Option (RegistrySystem δ) :=
  match system.call pdev with
  | .attaching =>
    if system.phase.acceptingDevices = false then
      some (system.setCall pdev (.returned .eshutdown))
    else
      match system.mxdmaFindDeviceLocked pdev with
      | some attachment =>
        some (system.setCall pdev
          (.returned (.ret (if attachment.protocolPoisoned then some .euclean else none))))
      | none => some (system.setCall pdev (.checked system.phase.moduleComing))
  | .removing =>
    match system.mxdmaFindDeviceLocked pdev with
    | none => some ((system.setCall pdev .idle).setUnbound pdev)
    | some attachment =>
      some { system.setCall pdev (.detaching attachment) with
        registry := system.registry.erase attachment }
  | _ => none

/-- `get_cxl_memdev_id`. -/
def identify (found : Option Errno) : Option (RegistrySystem δ) :=
  match system.call pdev with
  | .checked moduleComing =>
    match found with
    | some error => some (system.setCall pdev (.returned (.ret (some error))))
    | none => some (system.setCall pdev (.identified moduleComing))
  | _ => none

/-- `__module_get` if the module was coming when the flag was sampled, and
`try_module_get` otherwise. -/
def pin : Option (RegistrySystem δ) :=
  match system.call pdev with
  | .identified moduleComing =>
    if moduleComing ∨ system.phase.alive then
      some { system.setCall pdev .pinned with moduleRefs := system.moduleRefs + 1 }
    else some (system.setCall pdev (.returned (.ret (some .enodev))))
  | _ => none

/-- `pci_dev_get` and `create_mx_pdev`. -/
def create (outcome : CreateOutcome) : Option (RegistrySystem δ) :=
  match system.call pdev with
  | .pinned =>
    let pinned := { system with
      pciRefs := Function.update system.pciRefs pdev (system.pciRefs pdev + 1) }
    match outcome with
    | .noObject error =>
      some { system.setCall pdev (.returned (.ret (some error))) with
        moduleRefs := system.moduleRefs - 1 }
    | .failed error poisoned =>
      some (pinned.setCall pdev (.undoing ⟨pdev, poisoned, true, true⟩ error))
    | .created =>
      some (pinned.setCall pdev (.adding ⟨pdev, false, true, true⟩ (some (.ret none))))
  | _ => none

/-- `destroy_mx_pdev`, and what follows.  One that fails leaves its mark. -/
def destroy (safe : Bool) : Option (RegistrySystem δ) :=
  match system.call pdev with
  | .undoing attachment error =>
    if safe then
      some ((system.mxdmaDropAttachment pdev attachment).setCall pdev
        (.returned (.ret (some error))))
    else
      some (system.setCall pdev
        (.adding { attachment with protocolPoisoned := true } (some (.ret (some error)))))
  | .detaching attachment =>
    if safe then
      some (((system.mxdmaDropAttachment pdev attachment).setCall pdev .idle).setUnbound pdev)
    else
      some (system.setCall pdev (.adding { attachment with protocolPoisoned := true } none))
  | _ => none

/-- The locked sections with `list_add_tail`. -/
def add : Option (RegistrySystem δ) :=
  match system.call pdev with
  | .adding attachment result =>
    let added := { system with registry := system.registry ++ [attachment] }
    match result with
    | some result => some (added.setCall pdev (.returned result))
    | none => some ((added.setCall pdev .idle).setUnbound pdev)
  | _ => none

end RegistrySystem

/-- One step.  Binding, unbinding and the walk of `mxdma_init` take the lock of the
device.  The kernel unloads the module only when nobody holds a reference on it, and
`bus_unregister_notifier` waits for the notifier's calls. -/
def registryStep {δ : Type*} [DecidableEq δ] [Fintype δ] (system : RegistrySystem δ) :
    RegistryAction δ → Option (RegistrySystem δ)
  | .bind pdev =>
    if system.bound pdev = false ∧ (system.call pdev).free then
      let bound := { system with bound := Function.update system.bound pdev true }
      if system.phase = .unregistered then some bound
      else some (bound.setCall pdev .attaching)
    else none
  | .enumerate pdev =>
    if system.phase = .coming ∧ system.bound pdev ∧ (system.call pdev).free then
      some (system.setCall pdev .attaching)
    else none
  | .unbind pdev =>
    if system.bound pdev ∧ (system.call pdev).free then
      if system.phase = .unregistered then some (system.setUnbound pdev)
      else some (system.setCall pdev .removing)
    else none
  | .find pdev => system.find pdev
  | .identify pdev found => system.identify pdev found
  | .pin pdev => system.pin pdev
  | .create pdev outcome => system.create pdev outcome
  | .destroy pdev safe => system.destroy pdev safe
  | .add pdev => system.add pdev
  | .initDone =>
    -- its own walk is over by then; calls of the notifier may still run
    if system.phase = .coming then some { system with phase := .live } else none
  | .unload =>
    if system.phase = .live ∧ system.moduleRefs = 0 then some { system with phase := .going }
    else none
  | .close => if system.phase = .going then some { system with phase := .closed } else none
  | .unregister =>
    if system.phase = .closed ∧ ∀ pdev, (system.call pdev).free then
      some { system with phase := .unregistered }
    else none

end MxDriver
