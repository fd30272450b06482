import MxDriver.LeaseAccountingSteps
import MxDriver.OpenFilePins

/-!
# Transfers in flight keep their proofs pinned

A binding that a context holds, that an unbind has detached or that a transfer
has copied names descriptions of the driver's own with a read lock on the
liveness byte of the slot.  Whoever names them also refers to them, so they stay
locked until the last of these has put its reference.
-/

namespace MxDriver

variable {ι θ τ ν φ : Type*}

/-- The proofs of a binding are pinned on the inodes of its source files. -/
structure ProofBinding.PinnedIn (proofs : ProofBinding φ) (files : FileTable φ) : Prop where
  slot : ∀ file, proofs.slotProofFile = some file →
    ∃ inode, files.inodeOf proofs.slotSourceFile = some inode ∧
      files.Pins file inode (leaseSlotLivenessOffset proofs.slot)
  lifetime : proofs.lifetimeTag ≠ 0 → ∀ file, proofs.lifetimeProofFile = some file →
    ∃ inode, files.inodeOf proofs.lifetimeSourceFile = some inode ∧
      files.Pins file inode
        (leaseWorkloadLivenessOffset (lifetimeSlot proofs.lifetimeTag))

/-- The proofs of a transfer are pinned on the inodes of its issue, and it carries
those that its issue needed. -/
structure TransferLease.PinnedIn (transfer : TransferLease ι φ) (files : FileTable φ) : Prop where
  slot : ∀ file, transfer.slotProofFile = some file →
    ∃ inode, transfer.issue.slotInode = some inode ∧
      files.Pins file inode (leaseSlotLivenessOffset transfer.issue.slot)
  lifetime : transfer.issue.lifetimeTag ≠ 0 →
    ∀ file, transfer.lifetimeProofFile = some file →
      ∃ inode, transfer.issue.lifetimeInode = some inode ∧
        files.Pins file inode
          (leaseWorkloadLivenessOffset (lifetimeSlot transfer.issue.lifetimeTag))
  carriesSlot : transfer.issue.profile = .coordinatorControl ∨
      transfer.issue.profile = .hubWorkload ∧ transfer.issue.proofsEverBound = true →
    transfer.slotProofFile ≠ none
  carriesLifetime : transfer.issue.profile = .coordinatorWorkload ∨
      transfer.issue.profile = .standaloneWorkload ∧
        transfer.issue.proofsEverBound = true →
    transfer.lifetimeProofFile ≠ none

theorem ProofBinding.pinnedIn_empty (files : FileTable φ) : ({} : ProofBinding φ).PinnedIn files :=
  ⟨by simp, by simp⟩

theorem ProofBinding.PinnedIn.preserves {proofs : ProofBinding φ}
    {files next : FileTable φ} (pinned : proofs.PinnedIn files) (preserves : files.Preserves next)
    (held : ∀ file ∈ proofs.files, 0 < next.driverRefs file) : proofs.PinnedIn next where
  slot file bound := by
    obtain ⟨inode, known, pins⟩ := pinned.slot file bound
    refine ⟨inode, preserves.inodeOf known fun source same => ?_,
      preserves.pins file inode _ pins (held file ?_)⟩
    · exact held source (by simp [ProofBinding.files, same])
    · simp [ProofBinding.files, bound]
  lifetime tagged file bound := by
    obtain ⟨inode, known, pins⟩ := pinned.lifetime tagged file bound
    refine ⟨inode, preserves.inodeOf known fun source same => ?_,
      preserves.pins file inode _ pins (held file ?_)⟩
    · exact held source (by simp [ProofBinding.files, same])
    · simp [ProofBinding.files, bound]

theorem TransferLease.PinnedIn.preserves {transfer : TransferLease ι φ}
    {files next : FileTable φ} (pinned : transfer.PinnedIn files) (preserves : files.Preserves next)
    (held : ∀ file ∈ transfer.files, 0 < next.driverRefs file) : transfer.PinnedIn next where
  slot file bound := by
    obtain ⟨inode, known, pins⟩ := pinned.slot file bound
    exact ⟨inode, known, preserves.pins file inode _ pins
      (held file (by simp [TransferLease.files, bound]))⟩
  lifetime tagged file bound := by
    obtain ⟨inode, known, pins⟩ := pinned.lifetime tagged file bound
    exact ⟨inode, known, preserves.pins file inode _ pins
      (held file (by simp [TransferLease.files, bound]))⟩
  carriesSlot := pinned.carriesSlot
  carriesLifetime := pinned.carriesLifetime

/-- What `mx_lease_sm_validate_proofs` requires of a transfer. -/
theorem mxLeaseSmValidateProofs_eq_none {profile : LeaseProfile}
    {everBound slotBound lifetimeBound : Bool}
    (valid : mxLeaseSmValidateProofs profile everBound slotBound lifetimeBound = none) :
    (profile = .coordinatorControl ∨ profile = .hubWorkload ∧ everBound = true →
      slotBound = true) ∧
    (profile = .coordinatorWorkload ∨ profile = .standaloneWorkload ∧ everBound = true →
      lifetimeBound = true) := by
  unfold mxLeaseSmValidateProofs at valid
  split at valid
  · cases valid
  rename_i slot
  split at valid
  · cases valid
  rename_i lifetime
  constructor
  · intro needed
    by_contra unbound
    exact slot ⟨by tauto, by simpa using unbound⟩
  · intro needed
    by_contra unbound
    exact lifetime ⟨by tauto, by simpa using unbound⟩

theorem ProofBinding.PinnedIn.issue {files : FileTable φ} {record : FileCtx φ}
    (pinned : record.proofs.PinnedIn files) (ctx : ι) {device : DeviceLease}
    (checked : mxLeaseTransferGetCheck device record = none) :
    (issueTransfer files ctx record).PinnedIn files := by
  obtain ⟨slot, lifetime⟩ := mxLeaseSmValidateProofs_eq_none
    (mxLeaseTransferGetCheck_eq_none checked).2.2.2
  exact
    { slot := pinned.slot
      lifetime := pinned.lifetime
      carriesSlot := fun needed => Option.isSome_iff_ne_none.mp (slot needed)
      carriesLifetime := fun needed => Option.isSome_iff_ne_none.mp (lifetime needed) }

section Steps

variable [DecidableEq ι] [DecidableEq θ] [DecidableEq φ]
variable {system next : LeaseSystem ι θ τ ν φ} {action : LeaseAction ι θ τ ν φ}

open FileTable in
theorem CallEffect.grows (effect : CallEffect system action next) :
    system.files.Grows next.files := by
  cases effect with
  | refused | acquire | transition | unbind => exact .refl _
  | copied effect | faulted effect => cases effect <;> exact .refl _
  | anchor enters checked effect =>
    cases effect with
    | refused | kept => exact .refl _
    | anchored bare valid pinned => exact pinned.grows
  | bind enters lookedUp present => exact grows_foldl_hold ..
  | bindLocked standing found effect =>
    cases effect with
    | refused error slotPinned => exact slotPinned.grows
    | kept => exact .refl _
    | committed phase drained unbound slotPinned slotLocked lifetimePinned lifetimeLocked =>
      exact slotPinned.grows.trans lifetimePinned.grows

variable [DecidableEq ν] [DecidableEq τ]

open FileTable in
theorem LifeEffect.preserves (effect : LifeEffect system action next) :
    system.files.Preserves next.files := by
  cases effect with
  | user stepped => exact preserves_user stepped
  | transferGet => exact (grows_foldl_hold ..).preserves
  | put standing effect =>
    cases effect with
    | file file => exact preserves_fput ..
    | _ => exact (Grows.refl _).preserves
  | _ => exact (Grows.refl _).preserves

/-- Where the proofs of a context come from: the context is new, was bound by this
step while it had no transfer, or keeps its proofs, loses them or gets them back. -/
inductive ProofOrigin (system next : LeaseSystem ι θ τ ν φ) (ctx : ι)
    (newRecord : FileCtx φ) : Prop
  | opened (free : system.ctx ctx = none) (unbound : newRecord.proofs = {})
  | bound {record : FileCtx φ} (found : system.ctx ctx = some record)
      (drained : record.transferCount = 0) (pinned : newRecord.proofs.PinnedIn next.files)
  | moved {record : FileCtx φ} (found : system.ctx ctx = some record)
      (flag : newRecord.proofsEverBound = record.proofsEverBound)
      (origin : newRecord.proofs = record.proofs ∨ newRecord.proofs = {} ∨
        ∃ thread, (system.thread thread).call = .unbinding ctx newRecord.proofs)

omit [DecidableEq ν] [DecidableEq τ] [DecidableEq ι] [DecidableEq θ] [DecidableEq φ] in
theorem ProofOrigin.kept {ctx : ι} {record newRecord : FileCtx φ}
    (found : system.ctx ctx = some record)
    (flag : newRecord.proofsEverBound = record.proofsEverBound)
    (same : newRecord.proofs = record.proofs) : ProofOrigin system next ctx newRecord :=
  .moved found flag (.inl same)

omit [DecidableEq ν] [DecidableEq τ] [DecidableEq θ] [DecidableEq φ] in
theorem ProofOrigin.replaced {ctx : ι} {newRecord : FileCtx φ}
    (contexts : next.ctx = Function.update system.ctx ctx (some newRecord))
    (origin : ProofOrigin system next ctx newRecord) :
    ∀ other record, next.ctx other = some record →
      ProofOrigin system next other record := by
  rw [contexts]
  exact records_update (p := ProofOrigin system next) (fun _ _ found => .kept found rfl rfl)
    origin

/-- The binding that a bind stores is pinned. -/
theorem newBinding_pinnedIn {files slotFiles next : FileTable φ} {request : ProofsRequest}
    {bind : BindFiles φ} {slotLockFile lifetimeLockFile : Option φ}
    (slotPinned : MaybePinned files bind.slotFile
      (leaseSlotLivenessOffset request.slot) slotLockFile slotFiles)
    (lifetimePinned : MaybePinned slotFiles bind.lifetimeFile
      (leaseWorkloadLivenessOffset (lifetimeSlot request.reserved.1))
      lifetimeLockFile next) :
    (newBinding request bind slotLockFile lifetimeLockFile).PinnedIn next where
  slot file bound := by
    obtain rfl : slotLockFile = some file := bound
    obtain ⟨inode, known, pins⟩ := slotPinned.pins
    have grows := lifetimePinned.grows
    exact ⟨inode, grows.inodeOf (slotPinned.grows.inodeOf known), grows.pins pins⟩
  lifetime tagged file bound := by
    have tagged : request.reserved.1 ≠ 0 := tagged
    simp only [newBinding, bne_iff_ne, ne_eq, tagged, not_false_eq_true, if_true] at bound ⊢
    subst bound
    obtain ⟨inode, known, pins⟩ := lifetimePinned.pins
    exact ⟨inode, lifetimePinned.grows.inodeOf known, pins⟩

omit [DecidableEq ν] [DecidableEq τ] in
theorem ReplyEffect.proofOrigin {thread : θ} {copied : Bool}
    (effect : ReplyEffect system thread copied next) :
    ∀ ctx record, next.ctx ctx = some record → ProofOrigin system next ctx record := by
  cases effect with
  | acquired standing found | transitioned standing found | anchored standing found
  | bound standing found | unbound standing found | undoAcquire standing found
  | undoTransition standing found | undoAnchor standing found | undoKept standing found =>
    exact .replaced rfl (.kept found rfl rfl)
  | undoBind standing found =>
    refine .replaced rfl ?_
    unfold mxLeaseBindProofsUndo
    split
    · exact .moved found rfl (.inr (.inl rfl))
    · exact .kept found rfl rfl
  | undoUnbind standing found =>
    refine .replaced rfl ?_
    unfold mxLeaseUnbindProofsUndo
    split
    · exact .moved found rfl (.inr (.inr ⟨thread, by rw [standing]⟩))
    · exact .kept found rfl rfl

omit [DecidableEq ν] [DecidableEq τ] in
theorem CallEffect.proofOrigin (effect : CallEffect system action next) :
    ∀ ctx record, next.ctx ctx = some record → ProofOrigin system next ctx record := by
  cases effect with
  | refused => exact fun _ _ found => .kept found rfl rfl
  | copied effect | faulted effect => exact effect.proofOrigin
  | acquire enters | transition enters | anchor enters | bind enters =>
    exact .replaced rfl (.kept enters.found rfl rfl)
  | bindLocked standing found effect =>
    cases effect with
    | refused | kept => exact .replaced rfl (.kept found rfl rfl)
    | committed phase drained unbound slotPinned slotLocked lifetimePinned lifetimeLocked =>
      exact .replaced rfl
        (.bound found drained.2 (newBinding_pinnedIn slotPinned lifetimePinned))
  | unbind enters effect =>
    cases effect with
    | refused => exact .replaced rfl (.kept enters.found rfl rfl)
    | detached => exact .replaced rfl (.moved enters.found rfl (.inr (.inl rfl)))

theorem LifeEffect.proofOrigin (effect : LifeEffect system action next) :
    ∀ ctx record, next.ctx ctx = some record → ProofOrigin system next ctx record := by
  cases effect with
  | opened standing free => exact .replaced rfl (.opened free rfl)
  | directBegin enters effect begins =>
    cases effect <;> exact .replaced rfl (.kept enters.found rfl rfl)
  | directEnd standing found =>
    refine .replaced rfl ?_
    unfold mxLeaseDirectEnd
    split <;> exact .kept found rfl rfl
  | transferGet standing free found checked => exact .replaced rfl (.kept found rfl rfl)
  | transferPut standing inFlight found | mmapCommit standing free found =>
    exact .replaced rfl (.kept found rfl rfl)
  | put standing effect =>
    cases effect with
    | ctxKept found | uncharged mapped found => exact .replaced rfl (.kept found rfl rfl)
    | ctxFreed found last =>
      exact records_erase (p := ProofOrigin system _) fun _ _ found => .kept found rfl rfl
    | _ => exact fun _ _ found => .kept found rfl rfl
  | _ => exact fun _ _ found => .kept found rfl rfl

/-- What a thread that unbinds has taken from its context. -/
def LeaseCall.Detached (system : LeaseSystem ι θ τ ν φ) (call : LeaseCall ι φ) : Prop :=
  ∀ ctx detached, call = .unbinding ctx detached →
    (∃ thread, (system.thread thread).call = .unbinding ctx detached) ∨
      ∃ record, system.ctx ctx = some record ∧ detached = record.proofs

omit [DecidableEq ν] [DecidableEq τ] [DecidableEq ι] [DecidableEq θ] [DecidableEq φ] in
theorem LeaseCall.detached_standing (thread : θ) : (system.thread thread).call.Detached system :=
  fun _ _ standing => .inl ⟨thread, standing⟩

omit [DecidableEq ν] [DecidableEq τ] [DecidableEq ι] [DecidableEq φ] in
theorem LeaseCall.detached_moved {thread : θ} {call : LeaseCall ι φ} {todo : List (Todo ι ν φ)}
    (threads : next.thread = Function.update system.thread thread ⟨call, todo⟩)
    (moved : call.Detached system) : ∀ other, (next.thread other).call.Detached system := by
  rw [threads]
  exact calls_update (p := LeaseCall.Detached system) LeaseCall.detached_standing moved

omit [DecidableEq ν] [DecidableEq τ] in
theorem CallEffect.detached (effect : CallEffect system action next) :
    ∀ thread, (next.thread thread).call.Detached system := by
  cases effect with
  | refused => exact LeaseCall.detached_standing
  | copied effect | faulted effect =>
    cases effect <;> exact LeaseCall.detached_moved rfl (by simp [LeaseCall.Detached])
  | acquire | transition | anchor | bind | bindLocked =>
    refine LeaseCall.detached_moved rfl ?_
    split <;> simp [LeaseCall.Detached]
  | unbind enters effect =>
    refine LeaseCall.detached_moved rfl ?_
    split
    · intro ctx detached standing
      cases standing
      exact .inr ⟨_, enters.found, rfl⟩
    · simp [LeaseCall.Detached]

theorem LifeEffect.detached (effect : LifeEffect system action next) :
    ∀ thread, (next.thread thread).call.Detached system := by
  cases effect with
  | refused | user | remove | vmaOpen => exact LeaseCall.detached_standing
  | directBegin =>
    refine LeaseCall.detached_moved rfl ?_
    split <;> simp [LeaseCall.Detached]
  | transferPut standing | vmaClose standing =>
    refine LeaseCall.detached_moved rfl ?_
    exact fun _ _ same => .inl ⟨_, by rw [standing]; exact same⟩
  | put standing effect =>
    cases effect <;> refine LeaseCall.detached_moved rfl ?_ <;>
      exact fun _ _ same => .inl ⟨_, by rw [standing]; exact same⟩
  | _ => exact LeaseCall.detached_moved rfl (by simp [LeaseCall.Detached])

end Steps

end MxDriver
