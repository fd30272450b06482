import MxDriver.LeaseDevice

/-!
# Locks of the driver's own and the slot-domain anchor

The driver opens descriptions of its own and locks bytes through them, so these
functions work on the table of open files as well as on the lease.  Which
address `file_clone_open` returns, or how it fails, is an argument.
-/

namespace MxDriver

variable {φ : Type*}

/-- What `file_clone_open` comes back with. -/
abbrev CloneResult (φ : Type*) := Except Errno (φ × Inode)

/-- `OFFSET_MAX`. -/
def offsetMax : Nat := 2 ^ 63 - 1

/-- `MX_LEASE_SLOT_IDENTITY_OFFSET`. -/
def leaseSlotIdentityOffset (slot : UInt32) : Nat := slot.toNat * 2

/-- `MX_LEASE_SLOT_LIVENESS_OFFSET`. -/
def leaseSlotLivenessOffset (slot : UInt32) : Nat := slot.toNat * 2 + 1

/-- `MX_LEASE_WORKLOAD_LIVENESS_OFFSET`. -/
def leaseWorkloadLivenessOffset (slot : Nat) : Nat := 8192 + slot * 2 + 1

/-- The workload slot in a lifetime tag. -/
def lifetimeSlot (tag : UInt64) : Nat := tag.toNat &&& leaseMaxWorkloadSlot

section Locks

variable [DecidableEq φ]

/-- A new description of the source's inode that holds a lock, or nothing at
all; an address still in use counts as a failure to open. -/
def mxLeaseCloneWithOfdLock (files : FileTable φ) (source : Inode)
    (clone : CloneResult φ) (type : LockType) (start stop : Nat) : Except Errno (φ × FileTable φ) :=
  match clone with
  | .error error => .error error
  | .ok (pinned, inode) =>
    if files.file pinned ≠ none then .error .enomem
    else if inode ≠ source then .error .estale
    else
      match files.locks.grant ⟨pinned, inode, type, start, stop⟩ with
      | none => .error .eagain
      | some locks => .ok (pinned, { files.clone pinned inode with locks := locks })

/-- The identity byte is locked, and by nobody but the given description. -/
def mxLeaseSlotIdentityHeld (files : FileTable φ) (slotFile : φ) (inode : Inode)
    (slot : UInt32) (clone : CloneResult φ) : Ret :=
  let offset := leaseSlotIdentityOffset slot
  if (files.locks.conflict ⟨slotFile, inode, .write, offset, offset⟩).isSome then
    some .eperm
  else
    match clone with
    | .error error => some error
    | .ok (probe, cloned) =>
      if files.file probe ≠ none then some .enomem
      else if cloned ≠ inode then some .estale
      else if (files.locks.conflict
          ⟨probe, cloned, .write, offset, offset⟩).isSome then none
      else some .eperm

def mxLeasePinSlotOfdLock (files : FileTable φ) (source : Inode) (slot : UInt32)
    (clone : CloneResult φ) : Except Errno (φ × FileTable φ) :=
  mxLeaseCloneWithOfdLock files source clone .read
    (leaseSlotLivenessOffset slot) (leaseSlotLivenessOffset slot)

end Locks

/-- The part of `struct mx_lease_slot_domain` that the caller fills. -/
structure SlotDomainRequest where
  abiMagic : UInt64
  expectedDeviceIncarnation : UInt64
  expectedLeaseGeneration : UInt64
  slotDomainFd : Int
  abiVersion : UInt32
  structSize : UInt32
  reserved0 : UInt32
  slotDomainDev : UInt64
  slotDomainIno : UInt64
  grants : UInt64
  deriving DecidableEq, Repr

/-- The checks of `mx_lease_anchor_slot_domain` before it takes the lock. -/
def mxLeaseAnchorSlotDomainCheck (cdev : CharDev) (capable : Bool)
    (domainFile : Option OpenFile) (request : SlotDomainRequest) : Ret :=
  if mxLeaseValidHeader request.abiMagic request.abiVersion
        request.structSize 64 = false ∨ request.slotDomainFd < 0 ∨
      request.reserved0 ≠ 0 ∨ request.slotDomainDev ≠ 0 ∨
      request.slotDomainIno ≠ 0 ∨ request.grants ≠ 0 then some .einval
  else if capable = false ∨ cdev ≠ .ioctl then some .eperm
  else if mxLeaseValidStateFile domainFile = false then some .einval
  else none

/-- What the locked section of `mx_lease_anchor_slot_domain` leaves behind. -/
structure SlotDomainOutcome (φ : Type*) where
  ret : Ret
  device : DeviceLease
  files : FileTable φ
  exclusiveProof : Option φ
  freshAnchor : Bool

/-- The locked section of `mx_lease_anchor_slot_domain`. -/
def mxLeaseAnchorSlotDomainLocked [DecidableEq φ] (device : DeviceLease)
    (ctx : FileCtx φ) (files : FileTable φ) (domainInode : Inode)
    (clone : CloneResult φ) (request : SlotDomainRequest) : SlotDomainOutcome φ :=
  let refuse (error : Errno) : SlotDomainOutcome φ :=
    ⟨some error, device, files, none, false⟩
  if device.removed then refuse .enodev
  else if staleRequest device request.expectedDeviceIncarnation
      request.expectedLeaseGeneration then refuse .estale
  else if device.slotDomainPathValid ≠ device.slotDomainInode.isSome then
    refuse .euclean
  else
    match mxLeaseSmValidateSlotDomainAnchor ctx.lease device.stateFamily
        (device.statePathValid && device.stateInode.isSome) ctx.directCount
        ctx.transferCount ctx.barMappingCount device.slotDomainPathValid
        (device.slotDomainPathValid &&
          device.slotDomainInode == some domainInode) with
    | some error => refuse error
    | none =>
      if device.stateInode = some domainInode then refuse .einval
      else if device.slotDomainPathValid then ⟨none, device, files, none, false⟩
      else
        match mxLeaseCloneWithOfdLock files domainInode clone .write 0
            offsetMax with
        | .error error => refuse error
        | .ok (exclusiveProof, locked) =>
          ⟨none,
            { device with
              slotDomainPathValid := true
              slotDomainInode := some domainInode },
            locked, some exclusiveProof, true⟩

/-- The undo section of `mx_lease_anchor_slot_domain`. -/
def mxLeaseAnchorSlotDomainUndo (device : DeviceLease) (freshAnchor : Bool)
    (domainInode : Inode) : DeviceLease :=
  if freshAnchor = true ∧ device.slotDomainPathValid = true ∧
      device.slotDomainInode = some domainInode then
    { device with slotDomainPathValid := false, slotDomainInode := none }
  else device

end MxDriver
