import MxDriver.LeaseStateMachine
import MxDriver.OpenFiles

/-!
# The lease of a device and the calls that move it

`lease.c` wraps the state machine in one record for each device and one for
each open file.  An ioctl checks its request, takes the lease lock for one
section, copies its reply out with the lock released, and takes the lock again
for an undo section when the copy faulted.  Each of these parts is a function
here, and the whole call is their composition.

The two pinned paths of the device are left out: they are taken and put
together with the inode beside them.
-/

namespace MxDriver

/-- The character devices of one PCI device. -/
inductive CharDev
  | ioctl
  | event
  | bdf
  deriving DecidableEq, Repr

/-- `struct mx_device_lease`, without its lock and paths. -/
structure DeviceLease where
  state : LeaseSm := {}
  statePathValid : Bool := false
  stateInode : Option Inode := none
  slotDomainPathValid : Bool := false
  slotDomainInode : Option Inode := none
  stateIdentity : UInt64 × UInt64 := (0, 0)
  stateFamily : LeaseFamily := .none
  deviceIncarnation : UInt64
  generationCounter : UInt64 := 0
  generation : UInt64 := 0
  removed : Bool := false
  deriving DecidableEq, Repr

/-- The fields of a file context that name its reclamation proofs. -/
structure ProofBinding (φ : Type*) where
  slotSourceFile : Option φ := none
  slotProofFile : Option φ := none
  lifetimeSourceFile : Option φ := none
  lifetimeProofFile : Option φ := none
  lifetimeTag : UInt64 := 0
  slot : UInt32 := 0
  deriving DecidableEq, Repr

/-- `struct mx_file_ctx`. -/
structure FileCtx (φ : Type*) where
  refs : Nat := 1
  cdev : CharDev
  lease : LeaseSmHolder := {}
  proofs : ProofBinding φ := {}
  transferCount : Nat := 0
  directCount : Nat := 0
  barMappingCount : Nat := 0
  proofsEverBound : Bool := false
  deriving DecidableEq, Repr

/-- `MX_LEASE_ABI_MAGIC`. -/
def leaseAbiMagic : UInt64 := 0x4d584c4541534531

def mxLeaseValidHeader (magic : UInt64) (version size expectedSize : UInt32) : Bool :=
  magic == leaseAbiMagic && version == 1 && size == expectedSize

def mxLeaseValidStateFile : Option OpenFile → Bool
  | none => false
  | some file =>
    file.readable && file.writable && file.inode.type == .regular &&
      file.inode.magic == .tmpfs

/-- The counter and the generation taken from it, which is never zero. -/
def mxLeaseNextGeneration (counter : UInt64) : UInt64 :=
  if counter + 1 = 0 then 1 else counter + 1

/-- Bit `index` of a grant word, or nothing. -/
def leaseGrant (index : UInt64) (granted : Bool) : UInt64 :=
  if granted then 1 <<< index else 0

section Grants

variable {φ : Type*}

def mxLeaseHolderGrants (device : DeviceLease) (ctx : FileCtx φ) (anchored : Bool) : UInt64 :=
  if ctx.lease.legacy then leaseGrant 7 true
  else if ctx.lease.profile = .none then 0
  else
    let family := mxLeaseProfileFamily ctx.lease.profile
    leaseGrant 0 (mxLeaseProfileIsPublisher ctx.lease.profile) |||
      leaseGrant 1 (family == .hub) |||
      leaseGrant 2 (family == .standalone) |||
      leaseGrant 11 (family == .coordinator) |||
      leaseGrant 13 (ctx.lease.profile == .coordinatorControl) |||
      leaseGrant 3 (ctx.lease.phase == .quiescent) |||
      leaseGrant 4 (ctx.lease.phase == .workload) |||
      leaseGrant 5 (ctx.lease.phase == .replacementCandidate) |||
      leaseGrant 12 (ctx.lease.phase == .coordinatorPrepared) |||
      leaseGrant 6 anchored |||
      leaseGrant 8 ctx.proofs.slotProofFile.isSome |||
      leaseGrant 9 ctx.proofs.lifetimeProofFile.isSome |||
      leaseGrant 10 device.slotDomainPathValid

end Grants

/-! ## Acquire -/

/-- The part of `struct mx_lease_acquire` that the caller fills. -/
structure AcquireRequest where
  abiMagic : UInt64
  expectedDeviceIncarnation : UInt64
  expectedLeaseGeneration : UInt64
  stateIdentity : UInt64 × UInt64
  stateFd : Int
  profile : LeaseProfile
  abiVersion : UInt32
  structSize : UInt32
  reserved : UInt64
  deriving DecidableEq, Repr

/-- The part of `struct mx_lease_acquire` that the driver fills. -/
structure AcquireReply where
  deviceIncarnation : UInt64
  leaseGeneration : UInt64
  grants : UInt64
  stateDev : Nat
  stateIno : Nat
  phase : LeasePhase
  family : LeaseFamily
  publisherCount : Nat
  workloadCount : Nat
  familyHolderCount : Nat
  legacyCount : Nat
  deriving DecidableEq, Repr

/-- `profile > MX_LEASE_PROFILE_MAX`. -/
def LeaseProfile.aboveMax : LeaseProfile → Bool
  | .reserved _ => true
  | _ => false

/-- What a locked section that may grant a lease leaves behind. -/
structure AcquireOutcome where
  ret : Ret
  device : DeviceLease
  holder : LeaseSmHolder
  freshAnchor : Bool
  deriving DecidableEq, Repr

section Acquire

variable {φ : Type*} (device : DeviceLease)

def mxLeaseFillAcquireLocked (ctx : FileCtx φ) : AcquireReply where
  deviceIncarnation := device.deviceIncarnation
  leaseGeneration := device.generation
  grants := mxLeaseHolderGrants device ctx device.statePathValid
  stateDev := device.stateInode.elim 0 Inode.dev
  stateIno := device.stateInode.elim 0 Inode.ino
  phase := ctx.lease.phase
  family := device.state.family
  publisherCount := device.state.publishers
  workloadCount := device.state.workloads
  familyHolderCount := device.state.familyHolders
  legacyCount := device.state.legacyHolders

/-- The checks of `mx_lease_acquire` before it takes the lock. -/
def mxLeaseAcquireCheck (cdev : CharDev) (capable : Bool)
    (stateFile : Option OpenFile) (request : AcquireRequest) : Ret :=
  if mxLeaseValidHeader request.abiMagic request.abiVersion
        request.structSize 128 = false ∨ request.reserved ≠ 0 ∨
      request.profile = .none ∨ request.profile.aboveMax = true ∨
      request.stateFd < 0 ∨ request.stateIdentity = (0, 0) then some .einval
  else if (mxLeaseProfileIsPublisher request.profile = true ∨
      request.profile = .coordinatorControl) ∧ cdev ≠ .ioctl then some .eperm
  else if mxLeaseProfileIsPublisher request.profile = true ∧ capable = false then
    some .eperm
  else if mxLeaseValidStateFile stateFile = false then some .einval
  else none

/-- Does the request fit the state anchor, and is it the first one? -/
def mxLeaseAcquireAnchor (stateInode : Inode) (request : AcquireRequest) : Except Errno Bool :=
  if device.removed then .error .enodev
  else if request.expectedDeviceIncarnation = 0 ∨
      request.expectedDeviceIncarnation ≠ device.deviceIncarnation then
    .error .estale
  else if device.statePathValid = false then
    if request.expectedLeaseGeneration ≠ 0 then .error .estale
    else if mxLeaseProfileIsPublisher request.profile = false then .error .enxio
    else .ok true
  else if request.expectedLeaseGeneration = 0 ∨
      request.expectedLeaseGeneration ≠ device.generation then .error .estale
  else if device.stateInode ≠ some stateInode then .error .exdev
  else if device.stateIdentity ≠ request.stateIdentity then .error .estale
  else
    match mxLeaseSmValidateAnchoredAcquire device.state device.stateFamily
        request.profile with
    | some error => .error error
    | none => .ok false

/-- Install the first state anchor. -/
def DeviceLease.anchorState (stateInode : Inode) (request : AcquireRequest) : DeviceLease :=
  { device with
    statePathValid := true
    stateInode := some stateInode
    stateIdentity := request.stateIdentity
    stateFamily := mxLeaseProfileFamily request.profile
    generationCounter := mxLeaseNextGeneration device.generationCounter
    generation := mxLeaseNextGeneration device.generationCounter }

/-- Retract the state anchor; the generation counter moves on. -/
def DeviceLease.dropState : DeviceLease :=
  { device with
    statePathValid := false
    stateInode := none
    stateIdentity := (0, 0)
    stateFamily := .none
    generation := 0 }

/-- The locked section of `mx_lease_acquire`. -/
def mxLeaseAcquireLocked (holder : LeaseSmHolder)
    (stateInode : Inode) (request : AcquireRequest) : AcquireOutcome :=
  match mxLeaseAcquireAnchor device stateInode request with
  | .error error => ⟨some error, device, holder, false⟩
  | .ok freshAnchor =>
    let outcome := mxLeaseSmAcquire device.state holder request.profile
    let published := { device with state := outcome.sm }
    if outcome.ret ≠ none then ⟨outcome.ret, published, outcome.holder, false⟩
    else
      ⟨none,
        if freshAnchor then published.anchorState stateInode request
        else published,
        outcome.holder, freshAnchor⟩

/-- What `mx_lease_acquire` remembers of its locked section. -/
structure AcquireUndo where
  newHolder : LeaseSmHolder
  freshAnchor : Bool
  newGeneration : UInt64
  stateInode : Inode
  deriving DecidableEq, Repr

/-- The part of the undo section of `mx_lease_acquire` that concerns the state
machine. -/
def undoAcquireSm (sm : LeaseSm) (holder newHolder : LeaseSmHolder) : LeaseSm × LeaseSmHolder :=
  if holder = newHolder then mxLeaseSmRelease sm holder else (sm, holder)

/-- The undo section of `mx_lease_acquire`. -/
def mxLeaseAcquireUndo (holder : LeaseSmHolder)
    (undo : AcquireUndo) : DeviceLease × LeaseSmHolder :=
  let released := undoAcquireSm device.state holder undo.newHolder
  let device := { device with state := released.1 }
  if undo.freshAnchor = true ∧ device.statePathValid = true ∧
      device.generation = undo.newGeneration ∧
      device.stateInode = some undo.stateInode ∧
      mxLeaseSmIdle device.state = true then (device.dropState, released.2)
  else (device, released.2)

end Acquire

/-! ## Transition -/

/-- The part of `struct mx_lease_transition` that the caller fills. -/
structure TransitionRequest where
  abiMagic : UInt64
  expectedDeviceIncarnation : UInt64
  expectedLeaseGeneration : UInt64
  operation : LeaseTransitionOp
  abiVersion : UInt32
  structSize : UInt32
  reserved0 : UInt32
  reserved1 : UInt64
  deriving DecidableEq, Repr

/-- `operation > MX_LEASE_TRANSITION_MAX`. -/
def LeaseTransitionOp.aboveMax : LeaseTransitionOp → Bool
  | .reserved _ => true
  | _ => false

/-- The checks of `mx_lease_transition` before it takes the lock. -/
def mxLeaseTransitionCheck (capable : Bool) (request : TransitionRequest) : Ret :=
  if mxLeaseValidHeader request.abiMagic request.abiVersion
        request.structSize 96 = false ∨ request.reserved0 ≠ 0 ∨
      request.reserved1 ≠ 0 ∨ request.operation = .none ∨
      request.operation.aboveMax = true then some .einval
  else if request.operation = .activateReplacement ∧ capable = false then
    some .eperm
  else none

/-- `!expected || expected != actual` for the incarnation and the generation. -/
def staleRequest (device : DeviceLease) (incarnation generation : UInt64) : Prop :=
  incarnation = 0 ∨ incarnation ≠ device.deviceIncarnation ∨
    generation = 0 ∨ generation ≠ device.generation

instance (device : DeviceLease) (incarnation generation : UInt64) :
    Decidable (staleRequest device incarnation generation) :=
  inferInstanceAs (Decidable (_ ∨ _))

/-- The locked section of `mx_lease_transition`. -/
def mxLeaseTransitionLocked {φ : Type*} (device : DeviceLease) (ctx : FileCtx φ)
    (request : TransitionRequest) : SmOutcome :=
  if device.removed then ⟨some .enodev, device.state, ctx.lease⟩
  else if staleRequest device request.expectedDeviceIncarnation
      request.expectedLeaseGeneration then
    ⟨some .estale, device.state, ctx.lease⟩
  else
    mxLeaseSmTransition device.state ctx.lease request.operation
      ctx.directCount ctx.transferCount ctx.barMappingCount
      (device.slotDomainPathValid && device.slotDomainInode.isSome)

/-- The snapshots that `mx_lease_transition` keeps. -/
structure TransitionUndo where
  oldState : LeaseSm
  newState : LeaseSm
  oldHolder : LeaseSmHolder
  newHolder : LeaseSmHolder
  deriving DecidableEq, Repr

/-- The undo section of `mx_lease_transition`. -/
def mxLeaseTransitionUndo (sm : LeaseSm) (holder : LeaseSmHolder)
    (undo : TransitionUndo) : LeaseSm × LeaseSmHolder :=
  if sm = undo.newState ∧ holder = undo.newHolder then
    (undo.oldState, undo.oldHolder)
  else (sm, holder)

end MxDriver
