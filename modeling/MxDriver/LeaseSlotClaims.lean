import MxDriver.LeaseTransferProofs
import MxDriver.SlotIdentity

/-!
# One slot, one description

A bind tests once that its description alone has a lock on the identity byte of
the slot.  If descriptions keep that lock while a context is bound through them,
no second description passes the test.

An unbind whose reply cannot be copied puts its binding back without a test.
While it was in flight no context was bound through its description, so the
description was free to give up its lock and another one to take the slot.  Two
contexts on one slot are bound through one description if no such unbind fails;
an observer notes which unbinds have been without the lock.
-/

namespace MxDriver

variable {ι θ τ ν φ : Type*}

/-- The description that a binding goes through has a lock on the identity byte. -/
def ProofBinding.IdentityHeld (proofs : ProofBinding φ) (files : FileTable φ) : Prop :=
  ∀ file, proofs.slotSourceFile = some file → ∃ inode,
    files.inodeOf (some file) = some inode ∧
      files.locks.Locked file inode (leaseSlotIdentityOffset proofs.slot)

/-- The description that a binding goes through, and nobody else, has a lock on the
identity byte. -/
def ProofBinding.SoleIn (proofs : ProofBinding φ) (files : FileTable φ) : Prop :=
  ∀ file, proofs.slotSourceFile = some file → ∃ inode,
    files.inodeOf (some file) = some inode ∧
      files.locks.Sole file inode (leaseSlotIdentityOffset proofs.slot)

theorem ProofBinding.soleIn_empty (files : FileTable φ) : ({} : ProofBinding φ).SoleIn files := by
  simp [ProofBinding.SoleIn]

/-- The test on the locks of a table that `IdentityHeld` states. -/
def ProofBinding.identityHeld [DecidableEq φ] (proofs : ProofBinding φ)
    (files : FileTable φ) : Bool :=
  proofs.slotSourceFile.all fun file =>
    (files.inodeOf (some file)).any fun inode =>
      files.locks.any fun lock =>
        lock.owner == file && lock.inode == inode &&
          decide (lock.start ≤ leaseSlotIdentityOffset proofs.slot) &&
          decide (leaseSlotIdentityOffset proofs.slot ≤ lock.stop)

theorem ProofBinding.identityHeld_iff [DecidableEq φ] (proofs : ProofBinding φ)
    (files : FileTable φ) : proofs.identityHeld files = true ↔ proofs.IdentityHeld files := by
  simp only [identityHeld, IdentityHeld, LockTable.Locked, LockTable.Holds, RecordLock.Covers,
    Option.all_eq_true, Option.any_eq_true, List.any_eq_true, Bool.and_eq_true, beq_iff_eq,
    decide_eq_true_eq]
  constructor
  · intro held file bound
    obtain ⟨inode, described, lock, member, ⟨⟨owner, inodes⟩, start⟩, stop⟩ := held file bound
    exact ⟨inode, described, lock.type, lock, member, owner, inodes, rfl, start, stop⟩
  · intro held file bound
    obtain ⟨inode, described, type, lock, member, owner, inodes, -, start, stop⟩ :=
      held file bound
    exact ⟨inode, described, lock, member, ⟨⟨owner, inodes⟩, start⟩, stop⟩

instance [DecidableEq φ] (proofs : ProofBinding φ) (files : FileTable φ) :
    Decidable (proofs.IdentityHeld files) :=
  decidable_of_iff _ (proofs.identityHeld_iff files)

/-- The unbinds in flight whose description has been without its lock. -/
def noteLost [DecidableEq φ] (next : LeaseSystem ι θ τ ν φ) (lost : θ → Bool) (thread : θ) : Bool :=
  match (next.thread thread).call with
  | .unbinding _ detached => lost thread || !decide (detached.IdentityHeld next.files)
  | _ => false

/-- Whoever is bound with a lock on the identity byte still has one in a later
table. -/
def LeaseSystem.KeepsIdentities (system : LeaseSystem ι θ τ ν φ) (files : FileTable φ) : Prop :=
  ∀ ctx, ∀ record ∈ system.ctx ctx,
    record.proofs.IdentityHeld system.files → record.proofs.IdentityHeld files

instance [DecidableEq φ] [Fintype ι] (system : LeaseSystem ι θ τ ν φ) (files : FileTable φ) :
    Decidable (system.KeepsIdentities files) :=
  inferInstanceAs (Decidable (∀ ctx, ∀ record ∈ system.ctx ctx, _ → _))

/-- What the slot interface asks of user space: a description keeps its lock on the
identity byte while a context is bound through it. -/
def KeepsSlotLocks [DecidableEq φ] (system : LeaseSystem ι θ τ ν φ) :
    LeaseAction ι θ τ ν φ → Prop
  | .user action => ∀ files ∈ system.files.user action, system.KeepsIdentities files
  | _ => True

instance [DecidableEq φ] [Fintype ι] (system : LeaseSystem ι θ τ ν φ)
    (action : LeaseAction ι θ τ ν φ) : Decidable (KeepsSlotLocks system action) := by
  cases action with
  | user action => exact inferInstanceAs (Decidable (∀ files ∈ system.files.user action, _))
  | _ => exact .isTrue trivial

/-- An unbind is put back only if its description has never been without the lock. -/
def UndoesHeld (lost : θ → Bool) : LeaseAction ι θ τ ν φ → Prop
  | .replyFaulted thread => lost thread = false
  | _ => True

instance (lost : θ → Bool) (action : LeaseAction ι θ τ ν φ) :
    Decidable (UndoesHeld lost action) := by
  cases action with
  | replyFaulted thread => exact inferInstanceAs (Decidable (lost thread = false))
  | _ => exact .isTrue trivial

/-- The slot interface, with unbinds that are put back only under the lock. -/
def SlotAbi [DecidableEq φ] (state : LeaseSystem ι θ τ ν φ × (θ → Bool))
    (action : LeaseAction ι θ τ ν φ) : Prop :=
  KeepsSlotLocks state.1 action ∧ UndoesHeld state.2 action

instance [DecidableEq φ] [Fintype ι] (state : LeaseSystem ι θ τ ν φ × (θ → Bool))
    (action : LeaseAction ι θ τ ν φ) : Decidable (SlotAbi state action) :=
  inferInstanceAs (Decidable (_ ∧ _))

/-- A binding that a context has, or that an unbind would put back under the lock. -/
def Claims (state : LeaseSystem ι θ τ ν φ × (θ → Bool)) (proofs : ProofBinding φ) : Prop :=
  (∃ ctx record, state.1.ctx ctx = some record ∧ record.proofs = proofs) ∨
    ∃ thread ctx, (state.1.thread thread).call = .unbinding ctx proofs ∧
      state.2 thread = false

/-- Claims are backed by locks, and one slot of one inode is claimed through one
description. -/
structure ClaimsOk (state : LeaseSystem ι θ τ ν φ × (θ → Bool)) : Prop where
  held : ∀ proofs, Claims state proofs → proofs.IdentityHeld state.1.files
  single : ∀ proofs other, Claims state proofs → Claims state other →
    ∀ file otherFile, proofs.slotSourceFile = some file →
      other.slotSourceFile = some otherFile → proofs.slot = other.slot →
      state.1.files.inodeOf (some file) = state.1.files.inodeOf (some otherFile) →
        file = otherFile

/-! ## Locks and bindings over one step -/

section Steps

variable [DecidableEq ι] [DecidableEq θ] [DecidableEq φ]
variable {system next : LeaseSystem ι θ τ ν φ} {action : LeaseAction ι θ τ ν φ}

omit [DecidableEq ι] [DecidableEq θ] in
/-- A put takes no lock from a description that is still referred to. -/
theorem FileTable.fput_holds {files : FileTable φ} {file other : φ} {inode : Inode}
    {type : LockType} {byte : Nat} (held : files.locks.Holds other inode type byte)
    (referred : 0 < (files.fput file).driverRefs other) :
    (files.fput file).locks.Holds other inode type byte := by
  unfold FileTable.fput at referred ⊢
  split at referred
  · exact held
  · by_cases same : other = file
    · subst other
      rw [(settle_file_of_pos referred).2]
      exact held
    · exact settle_holds_of_ne same held

/-- The part of a bind that is about the identity byte. -/
theorem mxLeaseBindSlotLock_sole {device : DeviceLease} {files next : FileTable φ}
    {request : ProofsRequest} {slotFile slotLockFile : Option φ} {clones : BindClones φ}
    (locked : mxLeaseBindSlotLock device files request slotFile clones =
      .ok (slotLockFile, next)) :
    ∀ file, slotFile = some file → ∃ inode, files.inodeOf (some file) = some inode ∧
      files.locks.Sole file inode (leaseSlotIdentityOffset request.slot) := by
  rintro file rfl
  unfold mxLeaseBindSlotLock at locked
  dsimp only at locked
  split at locked
  · rename_i domainInode _ _
    split at locked
    · cases locked
    rename_i described
    have described := not_not.mp described
    split at locked
    · cases locked
    rename_i passed
    exact ⟨domainInode, described, ((mxLeaseSlotIdentityHeld_eq_none_iff described).mp passed).1⟩
  · cases locked

/-- A bind leaves the binding alone or stores one whose description alone has a lock
on the identity byte. -/
theorem mxLeaseBindProofsLocked_sole (device : DeviceLease) (ctx : FileCtx φ)
    (files : FileTable φ) (request : ProofsRequest) (bind : BindFiles φ) (clones : BindClones φ) :
    (mxLeaseBindProofsLocked device ctx files request bind clones).ctx.proofs = ctx.proofs ∨
      (mxLeaseBindProofsLocked device ctx files request bind clones).ctx.proofs.SoleIn
        files := by
  unfold mxLeaseBindProofsLocked
  dsimp only
  split
  · exact .inl rfl
  split
  · exact .inl rfl
  split
  · exact .inl rfl
  split
  · exact .inl rfl
  cases same : sameBinding ctx.proofs request bind with
  | true =>
    simp only [if_true]
    split <;> exact .inl rfl
  | false =>
    simp only [Bool.false_eq_true, if_false]
    split
    · exact .inl rfl
    rename_i locked
    split
    · exact .inl rfl
    · exact .inr (mxLeaseBindSlotLock_sole locked)

/-- A binding of a context was there before, or has just passed the test. -/
def BoundBefore (system : LeaseSystem ι θ τ ν φ) (lost : θ → Bool) (proofs : ProofBinding φ) :
    Prop :=
  Claims (system, lost) proofs ∨ proofs.SoleIn system.files

omit [DecidableEq ι] [DecidableEq θ] [DecidableEq φ] in
theorem BoundBefore.kept {lost : θ → Bool} {ctx : ι} {record : FileCtx φ}
    {proofs : ProofBinding φ} (found : system.ctx ctx = some record)
    (same : proofs = record.proofs) : BoundBefore system lost proofs :=
  .inl (.inl ⟨ctx, record, found, same.symm⟩)

omit [DecidableEq θ] [DecidableEq φ] in
theorem BoundBefore.replaced {lost : θ → Bool} {ctx : ι} {newRecord : FileCtx φ}
    (contexts : next.ctx = Function.update system.ctx ctx (some newRecord))
    (before : BoundBefore system lost newRecord.proofs) :
    ∀ other record, next.ctx other = some record →
      BoundBefore system lost record.proofs := by
  rw [contexts]
  exact records_update (p := fun _ record => BoundBefore system lost record.proofs)
    (fun _ _ found => .kept found rfl) before

theorem ReplyEffect.boundBefore {thread : θ} {copied : Bool} {lost : θ → Bool}
    (effect : ReplyEffect system thread copied next) (kept : copied = false → lost thread = false) :
    ∀ ctx record, next.ctx ctx = some record → BoundBefore system lost record.proofs := by
  cases effect with
  | acquired standing found | transitioned standing found | anchored standing found
  | bound standing found | unbound standing found | undoAcquire standing found
  | undoTransition standing found | undoAnchor standing found | undoKept standing found =>
    exact .replaced rfl (.kept found rfl)
  | undoBind standing found =>
    refine .replaced rfl ?_
    unfold mxLeaseBindProofsUndo
    split
    · exact .inr (ProofBinding.soleIn_empty _)
    · exact .kept found rfl
  | undoUnbind standing found =>
    refine .replaced rfl ?_
    unfold mxLeaseUnbindProofsUndo
    split
    · exact .inl (.inr ⟨thread, _, by rw [standing], kept rfl⟩)
    · exact .kept found rfl

theorem LeaseSystem.bindLocked_boundBefore {thread : θ} {clones : BindClones φ}
    {lost : θ → Bool} (stepped : system.bindLocked thread clones = some next) :
    ∀ ctx record, next.ctx ctx = some record → BoundBefore system lost record.proofs := by
  unfold LeaseSystem.bindLocked at stepped
  split at stepped
  · rename_i ctx request bind standing
    obtain ⟨record, found, rfl⟩ := Option.map_eq_some_iff.mp stepped
    refine .replaced rfl ?_
    rcases mxLeaseBindProofsLocked_sole system.device record system.files request bind clones
      with same | sole
    · exact .kept found same
    · exact .inr sole
  · cases stepped

variable [DecidableEq τ] [DecidableEq ν] [Fintype θ]

theorem leaseStep_boundBefore {lost : θ → Bool} (abi : SlotAbi (system, lost) action)
    (stepped : leaseStep system action = some next) :
    ∀ ctx record, next.ctx ctx = some record → BoundBefore system lost record.proofs := by
  cases leaseStep_effect stepped with
  | call effect =>
    cases effect with
    | refused => exact fun _ _ found => .kept found rfl
    | copied effect => exact effect.boundBefore (by simp)
    | faulted effect => exact effect.boundBefore fun _ => abi.2
    | acquire enters | transition enters | anchor enters | bind enters =>
      exact .replaced rfl (.kept enters.found rfl)
    | bindLocked => exact LeaseSystem.bindLocked_boundBefore stepped
    | unbind enters effect =>
      cases effect with
      | refused => exact .replaced rfl (.kept enters.found rfl)
      | detached => exact .replaced rfl (.inr (ProofBinding.soleIn_empty _))
  | life effect =>
    cases effect with
    | opened standing free => exact .replaced rfl (.inr (ProofBinding.soleIn_empty _))
    | directBegin enters effect begins =>
      cases effect <;> exact .replaced rfl (.kept enters.found rfl)
    | directEnd standing found =>
      refine .replaced rfl ?_
      unfold mxLeaseDirectEnd
      split <;> exact .kept found rfl
    | transferGet standing free found checked => exact .replaced rfl (.kept found rfl)
    | transferPut standing inFlight found | mmapCommit standing free found =>
      exact .replaced rfl (.kept found rfl)
    | put standing effect =>
      cases effect with
      | ctxKept found | uncharged mapped found => exact .replaced rfl (.kept found rfl)
      | ctxFreed found last =>
        exact records_erase (p := fun _ record => BoundBefore system lost record.proofs)
          fun _ _ found => .kept found rfl
      | _ => exact fun _ _ found => .kept found rfl
    | _ => exact fun _ _ found => .kept found rfl

/-- What a thread is unbinding, it was unbinding before or has just detached. -/
def UnbindingBefore (system : LeaseSystem ι θ τ ν φ) (thread : θ) (call : LeaseCall ι φ) : Prop :=
  ∀ ctx detached, call = .unbinding ctx detached →
    (system.thread thread).call = .unbinding ctx detached ∨
      ∃ record, system.ctx ctx = some record ∧ record.proofs = detached

omit [DecidableEq ι] [DecidableEq θ] [DecidableEq φ] [DecidableEq τ] [DecidableEq ν]
  [Fintype θ] in
theorem UnbindingBefore.stays {thread : θ} {call : LeaseCall ι φ} {todo : List (Todo ι ν φ)}
    (standing : system.thread thread = ⟨call, todo⟩) : UnbindingBefore system thread call := by
  intro ctx detached same
  left
  rw [standing, same]

omit [DecidableEq ι] [DecidableEq φ] [DecidableEq τ] [DecidableEq ν] [Fintype θ] in
theorem UnbindingBefore.moved {thread : θ} {call : LeaseCall ι φ} {todo : List (Todo ι ν φ)}
    (threads : next.thread = Function.update system.thread thread ⟨call, todo⟩)
    (before : UnbindingBefore system thread call) :
    ∀ other, UnbindingBefore system other (next.thread other).call := by
  intro other
  rw [threads]
  by_cases same : other = thread
  · subst other
    rw [Function.update_self]
    exact before
  · rw [Function.update_of_ne same]
    exact fun _ _ => .inl

theorem leaseStep_unbindingBefore (stepped : leaseStep system action = some next) :
    ∀ thread, UnbindingBefore system thread (next.thread thread).call := by
  cases leaseStep_effect stepped with
  | call effect =>
    cases effect with
    | refused => exact fun _ _ _ => .inl
    | copied effect | faulted effect =>
      cases effect <;> exact .moved rfl (by simp [UnbindingBefore])
    | acquire | transition | anchor | bind | bindLocked =>
      refine .moved rfl ?_
      split <;> simp [UnbindingBefore]
    | unbind enters effect =>
      refine .moved rfl ?_
      split
      · rintro ctx detached ⟨rfl, rfl⟩
        exact .inr ⟨_, enters.found, rfl⟩
      · simp [UnbindingBefore]
  | life effect =>
    cases effect with
    | refused | user | remove | vmaOpen => exact fun _ _ _ => .inl
    | directBegin =>
      refine .moved rfl ?_
      split <;> simp [UnbindingBefore]
    | transferPut standing | vmaClose standing => exact .moved rfl (.stays standing)
    | put standing effect => cases effect <;> exact .moved rfl (.stays standing)
    | _ => exact .moved rfl (by simp [UnbindingBefore])

/-- No step of the driver takes a lock from a description it still refers to. -/
theorem leaseStep_holds {file : φ} {inode : Inode} {type : LockType} {byte : Nat}
    (stepped : leaseStep system action = some next)
    (driver : ∀ userAction, action ≠ .user userAction) (present : system.files.file file ≠ none)
    (held : system.files.locks.Holds file inode type byte)
    (referred : 0 < next.files.driverRefs file) : next.files.locks.Holds file inode type byte := by
  cases leaseStep_effect stepped with
  | call effect => exact effect.grows.holds file inode type byte present held
  | life effect =>
    cases effect with
    | user => exact (driver _ rfl).elim
    | transferGet =>
      exact (FileTable.grows_foldl_hold ..).holds file inode type byte present held
    | put standing effect =>
      cases effect with
      | file put => exact FileTable.fput_holds held referred
      | _ => exact held
    | _ => exact held

theorem leaseStep_preserves (stepped : leaseStep system action = some next) :
    system.files.Preserves next.files := by
  cases leaseStep_effect stepped with
  | call effect => exact effect.grows.preserves
  | life effect => exact effect.preserves

end Steps

section Runs

variable [DecidableEq ι] [DecidableEq θ] [DecidableEq τ] [DecidableEq ν] [DecidableEq φ]
variable [Fintype ι] [Fintype θ] [Fintype τ] [Fintype ν]
variable {system next : LeaseSystem ι θ τ ν φ} {action : LeaseAction ι θ τ ν φ}
  {lost : θ → Bool} {proofs : ProofBinding φ}

omit [DecidableEq θ] [DecidableEq τ] [DecidableEq ν] in
/-- The driver refers to the description of a claim. -/
theorem Claims.referred {state : LeaseSystem ι θ τ ν φ × (θ → Bool)}
    (claims : Claims state proofs) (balanced : state.1.Balanced) {file : φ}
    (bound : proofs.slotSourceFile = some file) : 0 < state.1.files.driverRefs file := by
  have member : file ∈ proofs.files := by simp [ProofBinding.files, bound]
  rcases claims with ⟨ctx, record, found, rfl⟩ | ⟨thread, ctx, standing, -⟩
  · exact balanced.ctx_files found file member
  · exact balanced.detached_files standing file member

omit [DecidableEq ι] [DecidableEq θ] [DecidableEq τ] [DecidableEq ν] [Fintype ι] [Fintype θ]
  [Fintype τ] [Fintype ν] in
theorem noteLost_eq_false {thread : θ} {ctx : ι}
    (standing : (next.thread thread).call = .unbinding ctx proofs)
    (kept : noteLost next lost thread = false) :
    lost thread = false ∧ proofs.IdentityHeld next.files := by
  simpa [noteLost, standing] using kept

omit [Fintype ι] [Fintype τ] [Fintype ν] in
theorem Claims.before (claims : Claims (next, noteLost next lost) proofs)
    (abi : SlotAbi (system, lost) action) (stepped : leaseStep system action = some next) :
    BoundBefore system lost proofs := by
  rcases claims with ⟨ctx, record, found, rfl⟩ | ⟨thread, ctx, standing, kept⟩
  · exact leaseStep_boundBefore abi stepped ctx record found
  · have kept := (noteLost_eq_false standing kept).1
    rcases leaseStep_unbindingBefore stepped thread ctx proofs standing with
      before | ⟨record, found, rfl⟩
    · exact .inl (.inr ⟨thread, ctx, before, kept⟩)
    · exact .kept found rfl

omit [DecidableEq ι] [DecidableEq θ] [DecidableEq τ] [DecidableEq ν] [DecidableEq φ]
  [Fintype ι] [Fintype θ] [Fintype τ] [Fintype ν] in
theorem ClaimsOk.identityHeld (ok : ClaimsOk (system, lost))
    (before : BoundBefore system lost proofs) : proofs.IdentityHeld system.files := by
  rcases before with claims | sole
  · exact ok.held proofs claims
  · intro file bound
    obtain ⟨inode, described, locked, -⟩ := sole file bound
    exact ⟨inode, described, locked⟩

omit [Fintype ι] [Fintype τ] [Fintype ν] in
/-- What a claim is backed by before a step of the driver backs it afterwards. -/
theorem ProofBinding.IdentityHeld.driver_step (held : proofs.IdentityHeld system.files)
    (stepped : leaseStep system action = some next)
    (driver : ∀ userAction, action ≠ .user userAction)
    (referred : ∀ file, proofs.slotSourceFile = some file →
      0 < next.files.driverRefs file) : proofs.IdentityHeld next.files := by
  intro file bound
  obtain ⟨inode, described, type, locked⟩ := held file bound
  have present : system.files.file file ≠ none := by
    intro absent
    simp [FileTable.inodeOf, FileTable.describe, absent] at described
  refine ⟨inode, (leaseStep_preserves stepped).inodeOf described ?_, type,
    leaseStep_holds stepped driver present locked (referred file bound)⟩
  rintro address ⟨rfl⟩
  exact referred _ bound

theorem ClaimsOk.step (ok : ClaimsOk (system, lost)) (balanced : next.Balanced)
    (abi : SlotAbi (system, lost) action) (stepped : leaseStep system action = some next) :
    ClaimsOk (next, noteLost next lost) where
  held proofs claims := by
    have before := ok.identityHeld (claims.before abi stepped)
    by_cases user : ∃ userAction, action = .user userAction
    · obtain ⟨userAction, rfl⟩ := user
      obtain ⟨files, moved, rfl⟩ := Option.map_eq_some_iff.mp stepped
      rcases claims with ⟨ctx, record, found, rfl⟩ | ⟨thread, ctx, standing, kept⟩
      · exact abi.1 files moved ctx record found before
      · exact (noteLost_eq_false standing kept).2
    · exact before.driver_step stepped (not_exists.mp user)
        fun file bound => claims.referred balanced bound
  single proofs other claims otherClaims file otherFile bound otherBound sameSlot sameInode := by
    have preserves := leaseStep_preserves stepped
    have keeps : ∀ {proofs : ProofBinding φ} {file : φ} {inode : Inode},
        Claims (next, noteLost next lost) proofs → proofs.slotSourceFile = some file →
        system.files.inodeOf (some file) = some inode →
        next.files.inodeOf (some file) = some inode := by
      intro proofs file inode claims bound described
      refine preserves.inodeOf described ?_
      rintro address ⟨rfl⟩
      exact claims.referred balanced bound
    have before := claims.before abi stepped
    have otherBefore := otherClaims.before abi stepped
    obtain ⟨inode, described, locked⟩ := ok.identityHeld before file bound
    obtain ⟨otherInode, otherDescribed, otherLocked⟩ :=
      ok.identityHeld otherBefore otherFile otherBound
    obtain rfl : inode = otherInode := by
      have same : next.files.inodeOf (some file) = next.files.inodeOf (some otherFile) :=
        sameInode
      rw [keeps claims bound described, keeps otherClaims otherBound otherDescribed] at same
      exact Option.some.inj same
    -- whoever has just passed the test is alone on the byte that the other has locked
    rcases before with old | sole
    · rcases otherBefore with otherOld | otherSole
      · exact ok.single proofs other old otherOld file otherFile bound otherBound sameSlot
          (described.trans otherDescribed.symm)
      · obtain ⟨soleInode, soleDescribed, -, alone⟩ := otherSole otherFile otherBound
        obtain rfl := Option.some.inj (otherDescribed.symm.trans soleDescribed)
        exact alone file (sameSlot ▸ locked)
    · obtain ⟨soleInode, soleDescribed, -, alone⟩ := sole file bound
      obtain rfl := Option.some.inj (described.symm.trans soleDescribed)
      exact (alone otherFile (sameSlot ▸ otherLocked)).symm

/-- In every interleaving in which descriptions keep their lock on the identity byte of a
slot while a context is bound through them, and unbinds are put back only under that lock:
two contexts bound to one slot of one inode are bound through one description. -/
theorem slot_single_description {incarnation : UInt64} {state : LeaseSystem ι θ τ ν φ × (θ → Bool)}
    (reached : ReachedBy (observe leaseStep noteLost) SlotAbi
      (LeaseSystem.start incarnation, fun _ => false) state)
    {ctx other : ι} {record otherRecord : FileCtx φ} {file otherFile : φ}
    (found : state.1.ctx ctx = some record) (otherFound : state.1.ctx other = some otherRecord)
    (bound : record.proofs.slotSourceFile = some file)
    (otherBound : otherRecord.proofs.slotSourceFile = some otherFile)
    (sameSlot : record.proofs.slot = otherRecord.proofs.slot)
    (sameInode : state.1.files.inodeOf (some file) = state.1.files.inodeOf (some otherFile)) :
    file = otherFile := by
  have ok : ClaimsOk state := by
    clear found otherFound sameInode
    induction reached with
    | refl =>
      constructor
      · rintro proofs (⟨ctx, record, found, -⟩ | ⟨thread, ctx, standing, -⟩)
        · cases found
        · cases standing
      · rintro proofs - (⟨ctx, record, found, -⟩ | ⟨thread, ctx, standing, -⟩)
        · cases found
        · cases standing
    | @tail current next action before abi stepped ih =>
      obtain ⟨moved, noted⟩ := observe_eq_some stepped
      have balanced := (audited_of_reached
        (ReachedBy.of_observe (.tail before abi stepped))).balanced
      have ok := ClaimsOk.step ih balanced abi moved
      rwa [← noted] at ok
  exact ok.single _ _ (.inl ⟨ctx, record, found, rfl⟩)
    (.inl ⟨other, otherRecord, otherFound, rfl⟩) file otherFile bound otherBound sameSlot
    sameInode

/-- Two control contexts of one coordinator, the first of them bound to slot 5. -/
def controlsRun : List (LeaseAction Party Party Party Party Party) :=
  [.openGet 0, .openFinish 0 0 .ioctl true, .openGet 0, .openFinish 0 1 .ioctl true,
    .openGet 0, .openFinish 0 2 .ioctl true,
    .user (.openAt 0 anchorInode true true), .user (.openAt 1 domainInode true true),
    .acquire 0 0 true (fun _ => some 0)
      ⟨leaseAbiMagic, 7, 0, (1, 1), 3, .coordinatorInitializer, 1, 128, 0⟩,
    .replyCopied 0,
    .anchor 0 0 true (fun _ => some 1) (.ok (2, domainInode))
      ⟨leaseAbiMagic, 7, 1, 4, 1, 64, 0, 0, 0, 0⟩,
    .replyCopied 0, .put 0,
    .transition 0 0 true ⟨leaseAbiMagic, 7, 1, .activateCoordinator, 1, 96, 0, 0⟩,
    .replyCopied 0,
    .acquire 0 1 true (fun _ => some 0)
      ⟨leaseAbiMagic, 7, 1, (1, 1), 3, .coordinatorControl, 1, 128, 0⟩,
    .replyCopied 0,
    .acquire 0 2 true (fun _ => some 0)
      ⟨leaseAbiMagic, 7, 1, (1, 1), 3, .coordinatorControl, 1, 128, 0⟩,
    .replyCopied 0, .user (.lock 1 .write 10 10), .user (.seek 1 0x50584c05),
    .bind 0 1 (fun _ => some 1) (slotFiveRequest .bind 4),
    .bindLocked 0 ⟨.ok (2, domainInode), .ok (3, domainInode), .error .enomem⟩,
    .replyCopied 0]

/-- The second context binds slot 5 through the description of the first. -/
def sharedSlotRun : List (LeaseAction Party Party Party Party Party) :=
  controlsRun ++
    [.bind 0 2 (fun _ => some 1) (slotFiveRequest .bind 4),
      .bindLocked 0 ⟨.ok (2, domainInode), .ok (4, domainInode), .error .enomem⟩,
      .replyCopied 0]

theorem slot_single_description_sharedSlotRun :
    ∃ state record otherRecord, runAllowed (observe leaseStep noteLost) SlotAbi
        (LeaseSystem.start 7, fun _ => false) sharedSlotRun = some state ∧
      state.1.ctx 1 = some record ∧ state.1.ctx 2 = some otherRecord ∧
      record.proofs.slot = 5 ∧ otherRecord.proofs.slot = 5 ∧
      record.proofs.slotSourceFile = some 1 ∧
      ∃ file, otherRecord.proofs.slotSourceFile = some file ∧ 1 = file := by
  have run : runAllowed (observe leaseStep noteLost) SlotAbi
      (LeaseSystem.start 7, fun _ => false) sharedSlotRun = some _ := rfl
  exact ⟨_, _, _, run, rfl, rfl, rfl, rfl, rfl, _, rfl,
    slot_single_description (reachedBy_of_runAllowed run)
      (show LeaseSystem.ctx _ 1 = some _ from rfl) (show LeaseSystem.ctx _ 2 = some _ from rfl)
      rfl rfl rfl rfl⟩

/-- While the first context unbinds, its description gives the lock to another one, through
which the second context binds; then the reply of the unbind faults. -/
def restoredSlotRun : List (LeaseAction Party Party Party Party Party) :=
  controlsRun ++
    [.user (.openAt 5 domainInode true true), .user (.seek 5 0x50584c05),
      .unbind 0 1 (slotFiveRequest .unbind (-1)),
      .user (.unlock 1 10 10), .user (.lock 5 .write 10 10),
      .bind 1 2 (fun _ => some 5) (slotFiveRequest .bind 4),
      .bindLocked 1 ⟨.ok (2, domainInode), .ok (4, domainInode), .error .enomem⟩,
      .replyCopied 1, .replyFaulted 0]

/-- A description always keeps its lock while a context is bound through it, and still two
contexts end up on slot 5 of one inode through two descriptions. -/
theorem slot_restored_beside_another :
    ∃ system record otherRecord,
      runAllowed leaseStep KeepsSlotLocks (LeaseSystem.start 7) restoredSlotRun = some system ∧
      system.ctx 1 = some record ∧ system.ctx 2 = some otherRecord ∧
      record.proofs.slot = 5 ∧ otherRecord.proofs.slot = 5 ∧
      record.proofs.slotSourceFile = some 1 ∧ otherRecord.proofs.slotSourceFile = some 5 ∧
      system.files.inodeOf (some 1) = some domainInode ∧
      system.files.inodeOf (some 5) = some domainInode :=
  ⟨_, _, _, rfl, rfl, rfl, rfl, rfl, rfl, rfl, rfl, rfl⟩

end Runs

end MxDriver
