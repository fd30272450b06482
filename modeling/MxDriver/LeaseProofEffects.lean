import MxDriver.LeaseSectionEffects

/-!
# What the proof calls and a direct section can do

The sections of a bind, an unbind and a direct operation, each read once.
-/

namespace MxDriver

variable {φ : Type*}

/-- A file that `fget` returns is there, and user space holds it. -/
theorem FileTable.fget_eq_some {files : FileTable φ} {fds : Int → Option φ}
    {fd : Int} {file : φ} (found : files.fget fds fd = some file) :
    files.userHeld file = true ∧ files.file file ≠ none := by
  unfold FileTable.fget at found
  split at found
  · cases found
  have held := (Option.filter_eq_some_iff.mp found).2
  refine ⟨held, fun free => ?_⟩
  simp [FileTable.userHeld, free] at held

/-- Everything that a bind looks up is there. -/
theorem mxLeaseBindProofsFiles_present (files : FileTable φ)
    (fds : Int → Option φ) (profile : LeaseProfile) (request : ProofsRequest) :
    ∀ file ∈ (mxLeaseBindProofsFiles files fds profile request).2.locals,
      files.file file ≠ none := by
  have looked : ∀ fd, ∀ file ∈ (files.fget fds fd).toList, files.file file ≠ none := by
    intro fd file member
    exact (FileTable.fget_eq_some (Option.mem_toList.mp member)).2
  intro file member
  unfold mxLeaseBindProofsFiles at member
  dsimp only at member
  split at member
  · split at member
    · cases member
    split at member
    · exact looked _ file (by simpa [BindFiles.locals] using member)
    split at member
    · rcases List.mem_append.mp member with member | member
      · exact looked _ file member
      · exact looked _ file member
    · exact looked _ file (by simpa [BindFiles.locals] using member)
  · split at member
    · split at member
      · cases member
      · exact looked _ file (by simpa [BindFiles.locals] using member)
    · cases member

/-- A lock that a bind may or may not have taken on the inode of a source file. -/
inductive MaybePinned [DecidableEq φ] (files : FileTable φ) (source : Option φ)
    (byte : Nat) : Option φ → FileTable φ → Prop
  | none : MaybePinned files source byte none files
  | some {inode : Inode} {file : φ} {next : FileTable φ}
      (sourceInode : files.inodeOf source = some inode)
      (pinned : Pinned files .read byte byte inode file next) :
      MaybePinned files source byte (some file) next

section Bind

variable [DecidableEq φ]

theorem MaybePinned.driverRefs {files next : FileTable φ} {byte : Nat}
    {source file : Option φ} (pinned : MaybePinned files source byte file next) (other : φ) :
    next.driverRefs other = files.driverRefs other + file.toList.count other := by
  cases pinned with
  | none => simp
  | some sourceInode pinned =>
    rename_i inode pinnedFile
    rw [pinned.driverRefs other]
    by_cases same : other = pinnedFile
    · simp [same]
    · simp [same, Ne.symm same]

theorem mxLeaseBindSlotLock_ok {device : DeviceLease} {files next : FileTable φ}
    {request : ProofsRequest} {slotFile slotLockFile : Option φ} {clones : BindClones φ}
    (locked : mxLeaseBindSlotLock device files request slotFile clones =
      .ok (slotLockFile, next)) :
    MaybePinned files slotFile (leaseSlotLivenessOffset request.slot) slotLockFile
        next ∧
      slotLockFile.isSome = slotFile.isSome := by
  unfold mxLeaseBindSlotLock at locked
  split at locked
  · obtain ⟨rfl, rfl⟩ : _ ∧ _ := by simpa using locked
    exact ⟨.none, rfl⟩
  split at locked
  · split at locked
    · cases locked
    rename_i sourceInode
    split at locked
    · cases locked
    cases cloned : mxLeasePinSlotOfdLock files _ request.slot clones.slot with
    | error error =>
      rw [cloned] at locked
      cases locked
    | ok pinned =>
      rw [cloned] at locked
      obtain ⟨rfl, rfl⟩ : _ ∧ _ := by simpa [Except.map] using locked
      exact ⟨.some (not_not.mp sourceInode) (mxLeaseCloneWithOfdLock_ok cloned), rfl⟩
  · cases locked

theorem mxLeaseBindLifetimeLock_ok {device : DeviceLease}
    {files next : FileTable φ} {request : ProofsRequest}
    {lifetimeFile lifetimeLockFile : Option φ} {same : Bool} {clones : BindClones φ}
    (locked : mxLeaseBindLifetimeLock device files request lifetimeFile same clones =
      .ok (lifetimeLockFile, next)) :
    MaybePinned files lifetimeFile
        (leaseWorkloadLivenessOffset (lifetimeSlot request.reserved.1))
        lifetimeLockFile next ∧
      lifetimeLockFile.isSome = (request.reserved.1 != 0 && !same) := by
  unfold mxLeaseBindLifetimeLock at locked
  split at locked
  · rename_i untagged
    obtain ⟨rfl, rfl⟩ : _ ∧ _ := by simpa using locked
    exact ⟨.none, by simp [untagged]⟩
  rename_i tagged
  split at locked
  · cases locked
  split at locked
  · cases locked
  rename_i sourceInode
  split at locked
  · rename_i isSame
    obtain ⟨rfl, rfl⟩ : _ ∧ _ := by simpa using locked
    exact ⟨.none, by simp [isSame]⟩
  rename_i notSame
  dsimp only at locked
  cases cloned : mxLeaseCloneWithOfdLock files _ clones.lifetime .read
      (leaseWorkloadLivenessOffset (lifetimeSlot request.reserved.1))
      (leaseWorkloadLivenessOffset (lifetimeSlot request.reserved.1)) with
  | error error =>
    rw [cloned] at locked
    cases locked
  | ok pinned =>
    rw [cloned] at locked
    obtain ⟨rfl, rfl⟩ : _ ∧ _ := by simpa [Except.map] using locked
    exact ⟨.some (not_not.mp sourceInode) (mxLeaseCloneWithOfdLock_ok cloned),
      by simp [tagged, notSame]⟩

/-- Everything that the locked section of a bind can do. -/
inductive BindEffect (ctx : FileCtx φ) (files : FileTable φ)
    (request : ProofsRequest) (bind : BindFiles φ) : BindOutcome φ → Prop
  | refused {slotLockFile : Option φ} {next : FileTable φ} (error : Errno)
      (slotPinned : MaybePinned files bind.slotFile
        (leaseSlotLivenessOffset request.slot) slotLockFile next) :
      BindEffect ctx files request bind
        ⟨some error, ctx, next, slotLockFile, none, false⟩
  | kept :
      BindEffect ctx files request bind ⟨none, ctx, files, none, none, false⟩
  | committed {slotLockFile lifetimeLockFile : Option φ}
      {slotFiles next : FileTable φ}
      (phase : ctx.lease.phase = .workload)
      (drained : ctx.directCount = 0 ∧ ctx.transferCount = 0)
      (unbound : ctx.proofs.slotSourceFile = none ∧
        ctx.proofs.slotProofFile = none ∧ ctx.proofs.lifetimeProofFile = none)
      (slotPinned : MaybePinned files bind.slotFile
        (leaseSlotLivenessOffset request.slot) slotLockFile slotFiles)
      (slotLocked : slotLockFile.isSome = bind.slotFile.isSome)
      (lifetimePinned : MaybePinned slotFiles bind.lifetimeFile
        (leaseWorkloadLivenessOffset (lifetimeSlot request.reserved.1))
        lifetimeLockFile next)
      (lifetimeLocked : lifetimeLockFile.isSome = (request.reserved.1 != 0)) :
      BindEffect ctx files request bind
        ⟨none,
          { ctx with
            proofs := newBinding request bind slotLockFile lifetimeLockFile
            proofsEverBound := true },
          next, slotLockFile, lifetimeLockFile, true⟩

theorem mxLeaseBindProofsLocked_effect (device : DeviceLease) (ctx : FileCtx φ)
    (files : FileTable φ) (request : ProofsRequest) (bind : BindFiles φ) (clones : BindClones φ) :
    BindEffect ctx files request bind
      (mxLeaseBindProofsLocked device ctx files request bind clones) := by
  unfold mxLeaseBindProofsLocked
  dsimp only
  split
  · exact .refused _ .none
  split
  · exact .refused _ .none
  rename_i phase
  split
  · exact .refused _ .none
  rename_i drained
  split
  · exact .refused _ .none
  rename_i free
  cases same : sameBinding ctx.proofs request bind with
  | true =>
    simp only [if_true]
    split
    · exact .refused _ .none
    rename_i lifetimeLockFile lockedFiles locked
    obtain ⟨pinned, isSome⟩ := mxLeaseBindLifetimeLock_ok locked
    obtain rfl : lifetimeLockFile = none := by simpa using isSome
    cases pinned
    exact .kept
  | false =>
    simp only [Bool.false_eq_true, if_false]
    split
    · exact .refused _ .none
    rename_i slotLockFile slotFiles slotOk
    obtain ⟨slotPinned, slotLocked⟩ := mxLeaseBindSlotLock_ok slotOk
    split
    · exact .refused _ slotPinned
    rename_i lifetimeLockFile lockedFiles lifetimeOk
    obtain ⟨lifetimePinned, lifetimeLocked⟩ := mxLeaseBindLifetimeLock_ok lifetimeOk
    exact .committed (not_not.mp phase) (by simpa using drained)
      (by simpa [same] using free) slotPinned slotLocked lifetimePinned
      (by simpa using lifetimeLocked)

end Bind

/-- Everything that the locked section of an unbind can do. -/
inductive UnbindEffect (ctx : FileCtx φ) : Ret × FileCtx φ → Prop
  | refused (error : Errno) : UnbindEffect ctx (some error, ctx)
  | detached (drained : ctx.barMappingCount = 0 ∧ ctx.directCount = 0) :
      UnbindEffect ctx (none, { ctx with proofs := {} })

theorem mxLeaseUnbindProofsLocked_effect (device : DeviceLease)
    (ctx : FileCtx φ) (request : ProofsRequest) :
    UnbindEffect ctx (mxLeaseUnbindProofsLocked device ctx request) := by
  unfold mxLeaseUnbindProofsLocked
  split
  · exact .refused _
  split
  · exact .refused _
  split
  · exact .refused _
  split
  · exact .refused _
  split
  · exact .refused _
  split
  · exact .refused _
  rename_i drained
  exact .detached (by simpa using drained)

/-- Everything that `mx_lease_direct_begin` can do. -/
inductive DirectBeginEffect (device : DeviceLease) (ctx : FileCtx φ) :
    Ret × DeviceLease × FileCtx φ → Prop
  | refused (error : Errno) : DirectBeginEffect device ctx (some error, device, ctx)
  | retracted (error : Errno) (room : ctx.directCount ≠ u32Max)
      (profiled : ctx.lease.profile ≠ .none) :
      DirectBeginEffect device ctx
        (some error, device,
          { ctx with
            directCount := mxLeaseSmReleaseDirect (incU32 ctx.directCount) })
  | admitted {sm : LeaseSm} {holder : LeaseSmHolder}
      (room : ctx.directCount ≠ u32Max)
      (effect : AuthorizeEffect device.state ctx.lease ⟨none, sm, holder⟩)
      (anchored : device.statePathValid = true →
        sm = device.state ∧ holder = ctx.lease)
      (proofs : mxLeaseSmValidateProofs holder.profile ctx.proofsEverBound
        ctx.proofs.slotProofFile.isSome ctx.proofs.lifetimeProofFile.isSome = none) :
      DirectBeginEffect device ctx
        (none, { device with state := sm },
          { ctx with lease := holder, directCount := incU32 ctx.directCount })

theorem mxLeaseDirectBegin_effect (device : DeviceLease) (ctx : FileCtx φ) :
    DirectBeginEffect device ctx (mxLeaseDirectBegin device ctx) := by
  unfold mxLeaseDirectBegin
  split
  · exact .refused _
  unfold mxLeaseSmAdmitDirect
  by_cases full : ctx.directCount = u32Max
  · rw [if_pos full]
    exact .refused .eoverflow
  rw [if_neg full]
  obtain ⟨effect, anchored⟩ := mxLeaseSmAuthorizeDirectAnchored_effect device.state
    ctx.lease device.statePathValid
  generalize mxLeaseSmAuthorizeDirectAnchored device.state ctx.lease
    device.statePathValid = outcome at effect anchored
  cases effect with
  | refused error => exact .refused error
  | admitted entitled =>
    simp only [ne_eq, not_true_eq_false, if_false]
    split
    · rename_i refused
      obtain ⟨error, errorEq⟩ := Option.ne_none_iff_exists'.mp refused
      rw [errorEq]
      refine .retracted error full ?_
      rintro unprofiled
      simp [mxLeaseSmValidateProofs, unprofiled] at errorEq
    · rename_i proofs
      exact .admitted full (.admitted entitled) anchored (not_not.mp proofs)
  | enlisted unprofiled notLegacy idle room =>
    simp only [ne_eq, not_true_eq_false, if_false]
    split
    · rename_i refused
      simp [mxLeaseSmValidateProofs, unprofiled] at refused
    · rename_i proofs
      exact .admitted full (.enlisted unprofiled notLegacy idle room) anchored
        (not_not.mp proofs)

theorem mxLeaseTransferGetCheck_eq_none {device : DeviceLease} {ctx : FileCtx φ}
    (checked : mxLeaseTransferGetCheck device ctx = none) :
    device.removed = false ∧ ctx.directCount ≠ 0 ∧ ctx.transferCount ≠ u32Max ∧
      mxLeaseSmValidateProofs ctx.lease.profile ctx.proofsEverBound
        ctx.proofs.slotProofFile.isSome ctx.proofs.lifetimeProofFile.isSome = none := by
  unfold mxLeaseTransferGetCheck at checked
  split at checked
  · cases checked
  split at checked
  · cases checked
  split at checked
  · cases checked
  split at checked
  · cases checked
  rename_i live inside _ proofs room
  exact ⟨by simpa using live, inside, room, proofs⟩

end MxDriver
