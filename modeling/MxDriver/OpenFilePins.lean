import MxDriver.LeaseProofEffects

/-!
# What keeps a pinned description pinned

A description that the driver cloned and locked keeps its inode and its lock as
long as the driver refers to it: user space cannot name it, and locks are
dropped only with the last reference.
-/

namespace MxDriver

variable {φ : Type*}

namespace FileTable

/-- What the driver still refers to after a step is what it was before, and locks
never conflict. -/
structure Preserves (files next : FileTable φ) : Prop where
  inode : ∀ file description, files.file file = some description →
    0 < next.driverRefs file →
      ∃ kept, next.file file = some kept ∧ kept.inode = description.inode
  pins : ∀ file inode byte, files.Pins file inode byte → 0 < next.driverRefs file →
    next.Pins file inode byte
  consistent : files.locks.Consistent → next.locks.Consistent

/-- A step that closes nothing and locks nothing through an old description. -/
structure Grows (files next : FileTable φ) : Prop where
  file : ∀ file description, files.file file = some description →
    ∃ kept, next.file file = some kept ∧ kept.inode = description.inode ∧
      kept.userRefs = description.userRefs
  holds : ∀ file inode type byte, files.file file ≠ none →
    files.locks.Holds file inode type byte → next.locks.Holds file inode type byte
  consistent : files.locks.Consistent → next.locks.Consistent

variable {files middle next : FileTable φ}

theorem Grows.refl (files : FileTable φ) : Grows files files :=
  ⟨fun _ description found => ⟨description, found, rfl, rfl⟩, fun _ _ _ _ _ held => held,
    id⟩

theorem Grows.trans (first : Grows files middle) (second : Grows middle next) :
    Grows files next where
  file file description found := by
    obtain ⟨kept, keptFound, inode, userRefs⟩ := first.file file description found
    obtain ⟨last, lastFound, lastInode, lastRefs⟩ := second.file file kept keptFound
    exact ⟨last, lastFound, lastInode.trans inode, lastRefs.trans userRefs⟩
  holds file inode type byte present held := by
    obtain ⟨description, found⟩ := Option.ne_none_iff_exists'.mp present
    obtain ⟨kept, keptFound, -⟩ := first.file file description found
    exact second.holds file inode type byte (by simp [keptFound])
      (first.holds file inode type byte present held)
  consistent ok := second.consistent (first.consistent ok)

theorem Grows.pins (grows : Grows files next) {file : φ} {inode : Inode} {byte : Nat}
    (pinned : files.Pins file inode byte) : next.Pins file inode byte := by
  obtain ⟨⟨description, found, inodeEq, unnamed⟩, held⟩ := pinned
  obtain ⟨kept, keptFound, keptInode, userRefs⟩ := grows.file file description found
  exact ⟨⟨kept, keptFound, keptInode.trans inodeEq, userRefs.trans unnamed⟩,
    grows.holds file inode .read byte (by simp [found]) held⟩

theorem Grows.inodeOf (grows : Grows files next) {file : Option φ} {inode : Inode}
    (known : files.inodeOf file = some inode) : next.inodeOf file = some inode := by
  obtain ⟨description, described, rfl⟩ := Option.map_eq_some_iff.mp known
  obtain ⟨address, rfl, found⟩ := Option.bind_eq_some_iff.mp described
  obtain ⟨kept, keptFound, keptInode, -⟩ := grows.file address description found
  simp [FileTable.inodeOf, describe, keptFound, keptInode]

theorem Grows.preserves (grows : Grows files next) : Preserves files next where
  inode file description found _ := by
    obtain ⟨kept, keptFound, inode, -⟩ := grows.file file description found
    exact ⟨kept, keptFound, inode⟩
  pins _ _ _ pinned _ := grows.pins pinned
  consistent := grows.consistent

/-- A source file that is still referred to has the inode it had. -/
theorem Preserves.inodeOf (preserves : Preserves files next) {file : Option φ}
    {inode : Inode} (known : files.inodeOf file = some inode)
    (held : ∀ address, file = some address → 0 < next.driverRefs address) :
    next.inodeOf file = some inode := by
  obtain ⟨description, described, rfl⟩ := Option.map_eq_some_iff.mp known
  obtain ⟨address, rfl, found⟩ := Option.bind_eq_some_iff.mp described
  obtain ⟨kept, keptFound, keptInode⟩ :=
    preserves.inode address description found (held address rfl)
  simp [FileTable.inodeOf, describe, keptFound, keptInode]

variable [DecidableEq φ]

theorem grows_hold (files : FileTable φ) (file : φ) : Grows files (files.hold file) where
  file other description found := by
    by_cases same : other = file
    · subst other
      exact ⟨{ description with driverRefs := description.driverRefs + 1 },
        by simp [hold, found], rfl, rfl⟩
    · exact ⟨description, by simp [hold, same, found], rfl, rfl⟩
  holds _ _ _ _ _ held := held
  consistent := id

theorem grows_foldl_hold (files : FileTable φ) (held : List φ) :
    Grows files (held.foldl hold files) := by
  induction held generalizing files with
  | nil => exact .refl files
  | cons file held ih => exact (grows_hold files file).trans (ih _)

end FileTable

section Clones

open FileTable

variable [DecidableEq φ] {files next : FileTable φ}

theorem Pinned.grows {type : LockType} {start stop : Nat} {inode : Inode} {file : φ}
    (pinned : Pinned files type start stop inode file next) : Grows files next := by
  cases pinned with
  | mk free granted =>
    refine ⟨fun other description found => ?_, fun other _ _ _ present held => ?_,
      fun ok => ok.grant granted⟩
    · have different : other ≠ file := by
        rintro rfl
        simp [free] at found
      exact ⟨description, by simp [clone, different, found], rfl, rfl⟩
    · have different : other ≠ file := by
        rintro rfl
        exact present free
      exact held.grant different granted

theorem MaybePinned.grows {source file : Option φ} {byte : Nat}
    (pinned : MaybePinned files source byte file next) : Grows files next := by
  cases pinned with
  | none => exact .refl files
  | some sourceInode pinned => exact pinned.grows

theorem MaybePinned.pins {source : Option φ} {file : φ} {byte : Nat}
    (pinned : MaybePinned files source byte (.some file) next) :
    ∃ inode, files.inodeOf source = .some inode ∧ next.Pins file inode byte := by
  cases pinned with
  | some sourceInode pinned =>
    rename_i inode
    refine ⟨inode, sourceInode, ?_⟩
    cases pinned with
    | mk free granted =>
      refine ⟨⟨_, Function.update_self .., rfl, rfl⟩, ?_⟩
      exact LockTable.holds_of_grant granted ⟨Nat.le_refl _, Nat.le_refl _⟩

end Clones

namespace FileTable

variable [DecidableEq φ] {files next : FileTable φ}

theorem settle_file_of_ne {file other : φ} {kept : OpenFile} (different : other ≠ file) :
    (files.settle file kept).file other = files.file other := by
  unfold settle
  split <;> simp [different]

theorem settle_file_of_pos {file : φ} {kept : OpenFile}
    (held : 0 < (files.settle file kept).driverRefs file) :
    (files.settle file kept).file file = some kept ∧
      (files.settle file kept).locks = files.locks := by
  rw [driverRefs_settle, if_pos rfl] at held
  unfold settle
  rw [if_neg (by omega)]
  simp

theorem settle_holds_of_ne {file other : φ} {kept : OpenFile} {inode : Inode}
    {type : LockType} {byte : Nat} (different : other ≠ file)
    (held : files.locks.Holds other inode type byte) :
    (files.settle file kept).locks.Holds other inode type byte := by
  unfold settle
  split
  · exact held.dropOwner different
  · exact held

theorem preserves_settle {file : φ} {description kept : OpenFile}
    (found : files.file file = some description) (inode : kept.inode = description.inode)
    (userRefs : description.userRefs = 0 → kept.userRefs = 0) :
    Preserves files (files.settle file kept) where
  inode other otherDescription otherFound held := by
    by_cases same : other = file
    · subst other
      obtain rfl := Option.some.inj (found.symm.trans otherFound)
      exact ⟨kept, (settle_file_of_pos held).1, inode⟩
    · exact ⟨otherDescription, (settle_file_of_ne same).trans otherFound, rfl⟩
  pins other otherInode byte pinned held := by
    obtain ⟨⟨pinnedDescription, pinnedFound, pinnedInode, unnamed⟩, locked⟩ := pinned
    by_cases same : other = file
    · subst other
      obtain rfl := Option.some.inj (found.symm.trans pinnedFound)
      obtain ⟨settled, locks⟩ := settle_file_of_pos held
      exact ⟨⟨kept, settled, inode.trans pinnedInode, userRefs unnamed⟩, locks ▸ locked⟩
    · exact ⟨⟨pinnedDescription, (settle_file_of_ne same).trans pinnedFound, pinnedInode,
        unnamed⟩, settle_holds_of_ne same locked⟩
  consistent ok := by
    unfold settle
    split
    · exact ok.dropOwner file
    · exact ok

theorem preserves_fput (files : FileTable φ) (file : φ) : Preserves files (files.fput file) := by
  unfold fput
  split
  · exact (Grows.refl files).preserves
  · rename_i description found
    exact preserves_settle found rfl id

omit [DecidableEq φ] in
/-- User space locks and unlocks only through descriptions that it can name. -/
theorem preserves_locks {file : φ} {description : OpenFile} {locks : LockTable φ Inode}
    (found : files.file file = some description) (named : description.userRefs ≠ 0)
    (others : ∀ other inode type byte, other ≠ file →
      files.locks.Holds other inode type byte → locks.Holds other inode type byte)
    (consistent : files.locks.Consistent → locks.Consistent) :
    Preserves files { files with locks := locks } where
  inode _ otherDescription otherFound _ := ⟨otherDescription, otherFound, rfl⟩
  pins other inode byte pinned _ := by
    obtain ⟨⟨pinnedDescription, pinnedFound, pinnedInode, unnamed⟩, locked⟩ := pinned
    refine ⟨⟨pinnedDescription, pinnedFound, pinnedInode, unnamed⟩,
      others other inode .read byte ?_ locked⟩
    rintro rfl
    obtain rfl := Option.some.inj (found.symm.trans pinnedFound)
    exact named unnamed
  consistent := consistent

omit [DecidableEq φ] in
theorem throughUser_eq_some {file : φ} {run : OpenFile → Option (FileTable φ)}
    (ran : files.throughUser file run = some next) :
    ∃ description, files.file file = some description ∧ description.userRefs ≠ 0 ∧
      run description = some next := by
  obtain ⟨description, found, ran⟩ := Option.bind_eq_some_iff.mp ran
  obtain ⟨found, named⟩ := Option.filter_eq_some_iff.mp found
  exact ⟨description, found, by simpa using named, ran⟩

/-- Nothing that user space does touches a description it cannot name. -/
theorem preserves_user {action : UserFileAction φ}
    (stepped : files.user action = some next) : Preserves files next := by
  cases action with
  | openAt file inode readable writable =>
    simp only [user] at stepped
    split at stepped
    · rename_i free
      obtain rfl := Option.some.inj stepped
      refine Grows.preserves ⟨fun other description found => ?_,
        fun _ _ _ _ _ held => held, id⟩
      have different : other ≠ file := by
        rintro rfl
        simp [free] at found
      exact ⟨description, by simp [different, found], rfl, rfl⟩
    · cases stepped
  | dup file | close file | seek file pos =>
    obtain ⟨description, found, named, ran⟩ := throughUser_eq_some stepped
    obtain rfl := Option.some.inj ran
    exact preserves_settle found rfl fun unnamed => (named unnamed).elim
  | lock file type start stop =>
    obtain ⟨description, found, named, ran⟩ := throughUser_eq_some stepped
    obtain ⟨locks, granted, rfl⟩ := Option.map_eq_some_iff.mp ran
    exact preserves_locks found named
      (fun _ _ _ _ different held => held.grant different granted)
      fun ok => ok.grant granted
  | unlock file start stop =>
    obtain ⟨description, found, named, ran⟩ := throughUser_eq_some stepped
    obtain rfl := Option.some.inj ran
    exact preserves_locks found named
      (fun _ _ _ _ different held => held.release different) fun ok => ok.release _

end FileTable

end MxDriver
