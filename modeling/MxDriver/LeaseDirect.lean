import MxDriver.LeaseProofBinding

/-!
# Direct sections, transfers and mappings

A direct operation runs between `mx_lease_direct_begin` and
`mx_lease_direct_end`.  What it starts outlives it: a transfer and a BAR mapping
each count on the context and hold a reference to it until they end.
-/

namespace MxDriver

variable {φ : Type*}

def mxLeaseDirectBegin (device : DeviceLease) (ctx : FileCtx φ) : Ret × DeviceLease × FileCtx φ :=
  if device.removed then (some .enodev, device, ctx)
  else
    let admitted := mxLeaseSmAdmitDirect device.state ctx.lease
      device.statePathValid ctx.directCount
    let device := { device with state := admitted.1.sm }
    let ctx :=
      { ctx with lease := admitted.1.holder, directCount := admitted.2 }
    if admitted.1.ret ≠ none then (admitted.1.ret, device, ctx)
    else
      let checked := mxLeaseSmValidateProofs ctx.lease.profile
        ctx.proofsEverBound ctx.proofs.slotProofFile.isSome
        ctx.proofs.lifetimeProofFile.isSome
      if checked ≠ none then
        (checked, device,
          { ctx with directCount := mxLeaseSmReleaseDirect ctx.directCount })
      else (none, device, ctx)

/-- The flag tells whether the `WARN_ON_ONCE` fired. -/
def mxLeaseDirectEnd (ctx : FileCtx φ) : Bool × FileCtx φ :=
  if ctx.directCount = 0 then (true, ctx)
  else
    (false, { ctx with directCount := mxLeaseSmReleaseDirect ctx.directCount })

/-- What a context was when it issued a transfer.  The driver does not keep this;
it is there to say what the transfer was issued under. -/
structure TransferIssue where
  profile : LeaseProfile
  proofsEverBound : Bool
  slot : UInt32
  slotInode : Option Inode
  lifetimeTag : UInt64
  lifetimeInode : Option Inode
  deriving DecidableEq, Repr

/-- What a transfer carries of its lease. -/
structure TransferLease (ι φ : Type*) where
  owner : ι
  slotProofFile : Option φ
  lifetimeProofFile : Option φ
  issue : TransferIssue
  deriving DecidableEq, Repr

/-- The checks of `mx_lease_transfer_get`. -/
def mxLeaseTransferGetCheck (device : DeviceLease) (ctx : FileCtx φ) : Ret :=
  if device.removed then some .enodev
  else if ctx.directCount = 0 then some .eacces
  else
    match mxLeaseSmValidateProofs ctx.lease.profile ctx.proofsEverBound
        ctx.proofs.slotProofFile.isSome ctx.proofs.lifetimeProofFile.isSome with
    | some error => some error
    | none => if ctx.transferCount = u32Max then some .eoverflow else none

/-- The record that `mx_lease_transfer_get` fills in. -/
def issueTransfer {ι : Type*} (files : FileTable φ) (owner : ι) (ctx : FileCtx φ) :
    TransferLease ι φ where
  owner := owner
  slotProofFile := ctx.proofs.slotProofFile
  lifetimeProofFile := ctx.proofs.lifetimeProofFile
  issue :=
    { profile := ctx.lease.profile
      proofsEverBound := ctx.proofsEverBound
      slot := ctx.proofs.slot
      slotInode := files.inodeOf ctx.proofs.slotSourceFile
      lifetimeTag := ctx.proofs.lifetimeTag
      lifetimeInode := files.inodeOf ctx.proofs.lifetimeSourceFile }

/-- The files that a transfer holds of its own. -/
def TransferLease.files {ι : Type*} (transfer : TransferLease ι φ) : List φ :=
  transfer.slotProofFile.toList ++ transfer.lifetimeProofFile.toList

/-- `struct mx_bar_vma`: one for each `mmap`, shared by its copies. -/
structure BarVma (ι : Type*) where
  owner : ι
  refs : Nat
  deriving DecidableEq, Repr

/-- The `WARN_ON_ONCE` conditions of the lease and mapping code. -/
inductive LeaseWarning
  | ctxFree
  | pdevFree
  | directEnd
  | transferPut
  | barVmaClose
  deriving DecidableEq, Repr

/-- The locked section of `mx_file_ctx_free`, with its `WARN_ON_ONCE`. -/
def mxFileCtxFree (device : DeviceLease) (ctx : FileCtx φ) : List LeaseWarning × DeviceLease :=
  (if ctx.transferCount ≠ 0 ∨ ctx.directCount ≠ 0 ∨ ctx.barMappingCount ≠ 0 then
      [.ctxFree] else [],
    { device with state := (mxLeaseSmRelease device.state ctx.lease).1 })

/-- The locked section of `mx_pdev_free`, with its `WARN_ON_ONCE`. -/
def mxPdevFree (device : DeviceLease) : List LeaseWarning × DeviceLease :=
  let held := device.state.familyHolders ≠ 0 ∨ device.state.publishers ≠ 0 ∨
    device.state.workloads ≠ 0 ∨ device.state.legacyHolders ≠ 0
  (if held then [.pdevFree] else [],
    { device with
      state := if held then {} else device.state
      statePathValid := false
      stateInode := none
      slotDomainPathValid := false
      slotDomainInode := none })

/-- `counter--` behind a `WARN_ON_ONCE(!counter)`. -/
def decWarn (warning : LeaseWarning) (counter : Nat) : List LeaseWarning × Nat :=
  if counter = 0 then ([warning], 0) else ([], counter - 1)

end MxDriver
