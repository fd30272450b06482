import MxDriver.LeaseSlotDomain

/-!
# Binding and unbinding reclamation proofs

The sections of `mx_lease_workload_proofs`.  A bind looks its files up before it
takes the lock, so that part is a function of its own; the files it looked up,
and the descriptions it locked, move into the context when it commits.
-/

namespace MxDriver

variable {φ : Type*}

/-- `enum mx_lease_proof_op`, with the `u32` values above the last one. -/
inductive LeaseProofOp
  | none
  | bind
  | unbind
  | reserved (code : { code : UInt32 // 2 < code })
  deriving DecidableEq, Repr

/-- `operation == MX_LEASE_PROOF_NONE || operation > MX_LEASE_PROOF_MAX`. -/
def LeaseProofOp.invalid : LeaseProofOp → Bool
  | .bind | .unbind => false
  | _ => true

/-- `struct mx_lease_proofs`. -/
structure ProofsRequest where
  abiMagic : UInt64
  expectedDeviceIncarnation : UInt64
  expectedLeaseGeneration : UInt64
  stateIdentity : UInt64 × UInt64
  slotFd : Int
  lifetimeFd : Int
  slot : UInt32
  operation : LeaseProofOp
  abiVersion : UInt32
  structSize : UInt32
  grants : UInt64
  slotDev : UInt64
  slotIno : UInt64
  lifetimeDev : UInt64
  lifetimeIno : UInt64
  reserved : UInt64 × UInt64 × UInt64
  deriving DecidableEq, Repr

/-- The checks of `mx_lease_workload_proofs`. -/
def mxLeaseWorkloadProofsCheck (profile : LeaseProfile) (request : ProofsRequest) : Ret :=
  if mxLeaseValidHeader request.abiMagic request.abiVersion
        request.structSize 128 = false ∨ request.operation.invalid = true ∨
      request.grants ≠ 0 ∨ request.slotDev ≠ 0 ∨ request.slotIno ≠ 0 ∨
      request.lifetimeDev ≠ 0 ∨ request.lifetimeIno ≠ 0 ∨
      mxLeaseSmValidLifetimeTag profile request.reserved.1.toNat = false ∨
      request.reserved.2 ≠ (0, 0) then some .einval
  else none

def mxLeaseValidSlotProof (file : Option OpenFile) (slot : UInt32) (allowZero : Bool) : Bool :=
  match file with
  | none => false
  | some file =>
    (allowZero || slot != 0) && decide (slot ≤ 63) &&
      file.readable && file.writable &&
      file.pos == (0x50584c00 + slot.toNat : Int) &&
      file.inode.type == .regular && file.inode.magic == .tmpfs

def mxLeaseValidLifetimeProof : Option OpenFile → Bool
  | none => false
  | some file =>
    file.writable && file.inode.type == .fifo && file.inode.magic == .pipefs

def mxLeaseValidWorkloadOfd (file : Option OpenFile) (slot : Nat) : Bool :=
  match file with
  | none => false
  | some file =>
    decide (slot ≤ leaseMaxWorkloadSlot) && file.readable && file.writable &&
      file.pos == (0x50590000 + slot : Int) &&
      file.inode.type == .regular && file.inode.magic == .tmpfs

def mxLeaseProofRequestMatches (device : DeviceLease) (request : ProofsRequest) : Bool :=
  !device.removed && request.expectedDeviceIncarnation != 0 &&
    request.expectedDeviceIncarnation == device.deviceIncarnation &&
    request.expectedLeaseGeneration != 0 &&
    request.expectedLeaseGeneration == device.generation &&
    request.stateIdentity == device.stateIdentity &&
    request.stateIdentity != (0, 0) && device.statePathValid

/-- The two files that `mx_lease_bind_proofs` looks up by number. -/
structure BindFiles (φ : Type*) where
  slotFile : Option φ := none
  lifetimeFile : Option φ := none
  deriving DecidableEq, Repr

/-- The locals that `mx_lease_bind_proofs` puts when it fails. -/
def BindFiles.locals (bind : BindFiles φ) : List φ :=
  bind.slotFile.toList ++ bind.lifetimeFile.toList

/-- The description behind a looked-up file. -/
def FileTable.describe (files : FileTable φ) (file : Option φ) : Option OpenFile :=
  file.bind files.file

def FileTable.inodeOf (files : FileTable φ) (file : Option φ) : Option Inode :=
  (files.describe file).map OpenFile.inode

/-- `mx_lease_bind_proofs` up to the lock, on the profile it read there. -/
def mxLeaseBindProofsFiles (files : FileTable φ) (fds : Int → Option φ)
    (profile : LeaseProfile) (request : ProofsRequest) : Ret × BindFiles φ :=
  let lifetimeOfd := request.reserved.1 != 0
  if profile = .hubWorkload ∨ profile = .coordinatorControl then
    let control := profile == .coordinatorControl
    if control = true ∧ request.lifetimeFd ≠ -1 then (some .einval, {})
    else
      let slotFile := files.fget fds request.slotFd
      if mxLeaseValidSlotProof (files.describe slotFile) request.slot control = false then
        (some .einval, { slotFile := slotFile })
      else if request.lifetimeFd ≥ 0 then
        let lifetimeFile := files.fget fds request.lifetimeFd
        (if mxLeaseValidLifetimeProof (files.describe lifetimeFile) then none
          else some .einval, { slotFile := slotFile, lifetimeFile := lifetimeFile })
      else (none, { slotFile := slotFile })
  else if profile = .standaloneWorkload ∨ profile = .coordinatorWorkload then
    if request.slotFd ≠ -1 ∨ request.slot ≠ 0 then (some .einval, {})
    else
      let lifetimeFile := files.fget fds request.lifetimeFd
      (if if lifetimeOfd then
            mxLeaseValidWorkloadOfd (files.describe lifetimeFile)
              (lifetimeSlot request.reserved.1)
          else mxLeaseValidLifetimeProof (files.describe lifetimeFile) then none
        else some .einval, { lifetimeFile := lifetimeFile })
  else (some .eperm, {})

/-- What the three clones of a bind come back with. -/
structure BindClones (φ : Type*) where
  identity : CloneResult φ
  slot : CloneResult φ
  lifetime : CloneResult φ

/-- What the locked section of `mx_lease_bind_proofs` leaves behind. -/
structure BindOutcome (φ : Type*) where
  ret : Ret
  ctx : FileCtx φ
  files : FileTable φ
  slotLockFile : Option φ
  lifetimeLockFile : Option φ
  committed : Bool

section Bind

variable [DecidableEq φ]

/-- `same_binding`. -/
def sameBinding (proofs : ProofBinding φ) (request : ProofsRequest) (bind : BindFiles φ) : Bool :=
  proofs.slotSourceFile == bind.slotFile &&
    (if request.reserved.1 != 0 then proofs.lifetimeSourceFile
      else proofs.lifetimeProofFile) == bind.lifetimeFile &&
    proofs.slot == request.slot && proofs.lifetimeTag == request.reserved.1

/-- The slot part of a bind that is not the one already in place. -/
def mxLeaseBindSlotLock (device : DeviceLease) (files : FileTable φ)
    (request : ProofsRequest) (slotFile : Option φ) (clones : BindClones φ) :
    Except Errno (Option φ × FileTable φ) :=
  match slotFile with
  | none => .ok (none, files)
  | some slotFile =>
    match device.slotDomainPathValid, device.slotDomainInode with
    | true, some domainInode =>
      if files.inodeOf slotFile ≠ some domainInode then .error .exdev
      else
        match mxLeaseSlotIdentityHeld files slotFile domainInode request.slot
            clones.identity with
        | some error => .error error
        | none =>
          (mxLeasePinSlotOfdLock files domainInode request.slot
            clones.slot).map fun pinned => (some pinned.1, pinned.2)
    | _, _ => .error .euclean

/-- The lifetime part of a bind. -/
def mxLeaseBindLifetimeLock (device : DeviceLease) (files : FileTable φ)
    (request : ProofsRequest) (lifetimeFile : Option φ) (same : Bool)
    (clones : BindClones φ) : Except Errno (Option φ × FileTable φ) :=
  if request.reserved.1 = 0 then .ok (none, files)
  else
    match device.stateInode with
    | none => .error .exdev
    | some stateInode =>
      if files.inodeOf lifetimeFile ≠ some stateInode then .error .exdev
      else if same then .ok (none, files)
      else
        let offset :=
          leaseWorkloadLivenessOffset (lifetimeSlot request.reserved.1)
        (mxLeaseCloneWithOfdLock files stateInode clones.lifetime .read offset
          offset).map fun pinned => (some pinned.1, pinned.2)

/-- What a bind that commits stores in the context. -/
def newBinding (request : ProofsRequest) (bind : BindFiles φ)
    (slotLockFile lifetimeLockFile : Option φ) : ProofBinding φ where
  slotSourceFile := bind.slotFile
  slotProofFile := slotLockFile
  lifetimeSourceFile := if request.reserved.1 != 0 then bind.lifetimeFile else none
  lifetimeProofFile :=
    if request.reserved.1 != 0 then lifetimeLockFile else bind.lifetimeFile
  lifetimeTag := request.reserved.1
  slot := request.slot

/-- The locked section of `mx_lease_bind_proofs`. -/
def mxLeaseBindProofsLocked (device : DeviceLease) (ctx : FileCtx φ)
    (files : FileTable φ) (request : ProofsRequest) (bind : BindFiles φ)
    (clones : BindClones φ) : BindOutcome φ :=
  let refuse (error : Errno) : BindOutcome φ :=
    ⟨some error, ctx, files, none, none, false⟩
  if mxLeaseProofRequestMatches device request = false then
    refuse (if device.removed then .enodev else .estale)
  else if ctx.lease.phase ≠ .workload then refuse .eacces
  else if ctx.directCount ≠ 0 ∨ ctx.transferCount ≠ 0 then refuse .ebusy
  else
    let same := sameBinding ctx.proofs request bind
    if (ctx.proofs.slotSourceFile ≠ none ∨ ctx.proofs.slotProofFile ≠ none ∨
        ctx.proofs.lifetimeProofFile ≠ none) ∧ same = false then refuse .ealready
    else
      match if same then .ok (none, files)
          else mxLeaseBindSlotLock device files request bind.slotFile clones with
      | .error error => refuse error
      | .ok (slotLockFile, slotFiles) =>
        match mxLeaseBindLifetimeLock device slotFiles request bind.lifetimeFile
            same clones with
        | .error error => ⟨some error, ctx, slotFiles, slotLockFile, none, false⟩
        | .ok (lifetimeLockFile, lockedFiles) =>
          if same then ⟨none, ctx, lockedFiles, slotLockFile, lifetimeLockFile, false⟩
          else
            ⟨none,
              { ctx with
                proofs := newBinding request bind slotLockFile lifetimeLockFile
                proofsEverBound := true },
              lockedFiles, slotLockFile, lifetimeLockFile, true⟩

/-- The four pointers that the undo section of a bind compares. -/
def ProofBinding.sameFiles (proofs other : ProofBinding φ) : Bool :=
  proofs.slotSourceFile == other.slotSourceFile &&
    proofs.slotProofFile == other.slotProofFile &&
    proofs.lifetimeSourceFile == other.lifetimeSourceFile &&
    proofs.lifetimeProofFile == other.lifetimeProofFile

/-- The files that a binding names, each holding a reference. -/
def ProofBinding.files (proofs : ProofBinding φ) : List φ :=
  proofs.slotSourceFile.toList ++ proofs.slotProofFile.toList ++
    proofs.lifetimeSourceFile.toList ++ proofs.lifetimeProofFile.toList

/-- The undo section of a bind that committed: the new context, and the files
that are left to put. -/
def mxLeaseBindProofsUndo (ctx : FileCtx φ) (installed : ProofBinding φ) : FileCtx φ × List φ :=
  if ctx.proofs.sameFiles installed then
    ({ ctx with proofs := {} }, installed.files)
  else (ctx, [])

/-- The locked section of `mx_lease_unbind_proofs`. -/
def mxLeaseUnbindProofsLocked (device : DeviceLease) (ctx : FileCtx φ)
    (request : ProofsRequest) : Ret × FileCtx φ :=
  if mxLeaseProofRequestMatches device request = false then
    (some (if device.removed then .enodev else .estale), ctx)
  else if ctx.lease.profile ≠ .hubWorkload ∧
      ctx.lease.profile ≠ .standaloneWorkload ∧
      ctx.lease.profile ≠ .coordinatorControl ∧
      ctx.lease.profile ≠ .coordinatorWorkload then (some .eperm, ctx)
  else if ctx.proofs.slotProofFile ≠ none ∧ request.slot ≠ ctx.proofs.slot then
    (some .estale, ctx)
  else if ctx.proofs.slotProofFile = none ∧ request.slot ≠ 0 then
    (some .einval, ctx)
  else if request.reserved.1 ≠ ctx.proofs.lifetimeTag then (some .estale, ctx)
  else if ctx.barMappingCount ≠ 0 ∨ ctx.directCount ≠ 0 then (some .ebusy, ctx)
  else (none, { ctx with proofs := {} })

/-- The undo section of an unbind: the files go back while nothing is bound,
and are left to put otherwise. -/
def mxLeaseUnbindProofsUndo (ctx : FileCtx φ) (detached : ProofBinding φ) : FileCtx φ × List φ :=
  if ctx.proofs.sameFiles {} then ({ ctx with proofs := detached }, [])
  else (ctx, detached.files)

end Bind

end MxDriver
