import MxDriver.RecordLocks
import Mathlib.Logic.Function.Basic

/-!
# Open file descriptions

The part of the kernel's file layer that the lease code rests on: a table of
open file descriptions, the references that user space and the driver hold on
each, and the record locks on their inodes.  A description is closed, and its
locks dropped, with its last reference.  Addresses of closed descriptions are
used again.

A description that the driver cloned has no descriptor number, so no user
action reaches it.
-/

namespace MxDriver

inductive InodeType
  | regular
  | fifo
  | other
  deriving DecidableEq, Repr

/-- The file systems that the driver recognises by their magic number. -/
inductive SuperMagic
  | tmpfs
  | pipefs
  | other
  deriving DecidableEq, Repr

structure Inode where
  address : Nat
  type : InodeType
  magic : SuperMagic
  dev : Nat
  ino : Nat
  deriving DecidableEq, Repr

/-- `struct file`, with the references of user space and of the driver
counted apart. -/
structure OpenFile where
  inode : Inode
  readable : Bool
  writable : Bool
  pos : Int
  userRefs : Nat
  driverRefs : Nat
  deriving DecidableEq, Repr

structure FileTable (φ : Type*) where
  file : φ → Option OpenFile
  locks : LockTable φ Inode

variable {φ : Type*}

namespace FileTable

def driverRefs (files : FileTable φ) (file : φ) : Nat :=
  (files.file file).elim 0 OpenFile.driverRefs

/-- User space can name the description. -/
def userHeld (files : FileTable φ) (file : φ) : Bool :=
  (files.file file).any fun description => description.userRefs != 0

/-- The description behind a descriptor number of the calling process. -/
def fget (files : FileTable φ) (fds : Int → Option φ) (fd : Int) : Option φ :=
  if fd < 0 then none else (fds fd).filter files.userHeld

/-- The description is the driver's own and read-locks a byte. -/
def Pins (files : FileTable φ) (file : φ) (inode : Inode) (byte : Nat) : Prop :=
  (∃ description, files.file file = some description ∧
      description.inode = inode ∧ description.userRefs = 0) ∧
    files.locks.Holds file inode .read byte

variable [DecidableEq φ] (files : FileTable φ)

/-- `get_file`, or the reference that `fget` takes. -/
def hold (file : φ) : FileTable φ :=
  { files with
    file := Function.update files.file file
      ((files.file file).map fun description =>
        { description with driverRefs := description.driverRefs + 1 }) }

/-- Store a description, or close it when nobody refers to it any more. -/
def settle (file : φ) (description : OpenFile) : FileTable φ :=
  if description.userRefs = 0 ∧ description.driverRefs = 0 then
    { file := Function.update files.file file none
      locks := files.locks.dropOwner file }
  else { files with file := Function.update files.file file (some description) }

/-- `fput` by the driver. -/
def fput (file : φ) : FileTable φ :=
  match files.file file with
  | none => files
  | some description =>
    files.settle file
      { description with driverRefs := description.driverRefs - 1 }

/-- A description opened by the driver at a free address. -/
def clone (file : φ) (inode : Inode) : FileTable φ :=
  { files with
    file := Function.update files.file file (some
      { inode := inode, readable := true, writable := true, pos := 0,
        userRefs := 0, driverRefs := 1 }) }

end FileTable

/-- What user space can do with descriptions. -/
inductive UserFileAction (φ : Type*)
  | openAt (file : φ) (inode : Inode) (readable writable : Bool)
  | dup (file : φ)
  | close (file : φ)
  | seek (file : φ) (pos : Int)
  | lock (file : φ) (type : LockType) (start stop : Nat)
  | unlock (file : φ) (start stop : Nat)

namespace FileTable

variable [DecidableEq φ] (files : FileTable φ)

/-- An action through a description that user space holds. -/
def throughUser (file : φ) (action : OpenFile → Option (FileTable φ)) : Option (FileTable φ) :=
  ((files.file file).filter fun description => description.userRefs != 0).bind
    action

def user : UserFileAction φ → Option (FileTable φ)
  | .openAt file inode readable writable =>
    if files.file file = none then
      some { files with
        file := Function.update files.file file (some
          { inode := inode, readable := readable, writable := writable,
            pos := 0, userRefs := 1, driverRefs := 0 }) }
    else none
  | .dup file =>
    files.throughUser file fun description =>
      some (files.settle file
        { description with userRefs := description.userRefs + 1 })
  | .close file =>
    files.throughUser file fun description =>
      some (files.settle file
        { description with userRefs := description.userRefs - 1 })
  | .seek file pos =>
    files.throughUser file fun description =>
      some (files.settle file { description with pos := pos })
  | .lock file type start stop =>
    files.throughUser file fun description =>
      (files.locks.grant ⟨file, description.inode, type, start, stop⟩).map
        fun locks => { files with locks := locks }
  | .unlock file start stop =>
    files.throughUser file fun description =>
      some { files with
        locks := files.locks.release
          ⟨file, description.inode, .read, start, stop⟩ }

/-! ## References -/

omit [DecidableEq φ] in
theorem driverRefs_eq_zero {files : FileTable φ} {file : φ}
    (free : files.file file = none) : files.driverRefs file = 0 := by
  simp [driverRefs, free]

theorem driverRefs_hold {file : φ} (present : files.file file ≠ none) (other : φ) :
    (files.hold file).driverRefs other =
      files.driverRefs other + if other = file then 1 else 0 := by
  obtain ⟨description, found⟩ := Option.ne_none_iff_exists'.mp present
  by_cases same : other = file
  · subst other
    simp [driverRefs, hold, found]
  · simp [driverRefs, hold, same]

theorem driverRefs_settle (file : φ) (description : OpenFile) (other : φ) :
    (files.settle file description).driverRefs other =
      if other = file then description.driverRefs else files.driverRefs other := by
  by_cases same : other = file
  · subst other
    unfold settle
    split
    · rename_i unused
      simp [driverRefs, unused.2]
    · simp [driverRefs]
  · unfold settle
    split <;> simp [driverRefs, same]

theorem driverRefs_fput (file other : φ) :
    (files.fput file).driverRefs other =
      files.driverRefs other - if other = file then 1 else 0 := by
  unfold fput
  cases found : files.file file with
  | none =>
    by_cases same : other = file
    · subst other
      simp [driverRefs, found]
    · simp [same]
  | some description =>
    simp only [driverRefs_settle]
    by_cases same : other = file
    · subst other
      simp [driverRefs, found]
    · simp [same]

theorem driverRefs_clone {file : φ} (free : files.file file = none) (inode : Inode) (other : φ) :
    (files.clone file inode).driverRefs other =
      files.driverRefs other + if other = file then 1 else 0 := by
  by_cases same : other = file
  · subst other
    simp [driverRefs, clone, free]
  · simp [driverRefs, clone, same]

theorem driverRefs_user {files next : FileTable φ} {action : UserFileAction φ}
    (stepped : files.user action = some next) (other : φ) :
    next.driverRefs other = files.driverRefs other := by
  have through : ∀ {file : φ} {run : OpenFile → Option (FileTable φ)},
      files.throughUser file run = some next →
      (∀ description, files.file file = some description →
        run description = some next →
          next.driverRefs other = files.driverRefs other) →
      next.driverRefs other = files.driverRefs other := by
    intro file run ran each
    obtain ⟨description, found, ran⟩ := Option.bind_eq_some_iff.mp ran
    exact each description (Option.eq_some_of_filter_eq_some found) ran
  have settled : ∀ {file : φ} {description kept : OpenFile},
      files.file file = some description →
      kept.driverRefs = description.driverRefs →
      (files.settle file kept).driverRefs other = files.driverRefs other := by
    intro file description kept found same
    rw [driverRefs_settle]
    split
    · rename_i isFile
      subst isFile
      simp [driverRefs, found, same]
    · rfl
  cases action with
  | openAt file inode readable writable =>
    simp only [user] at stepped
    split at stepped
    · rename_i free
      obtain rfl := Option.some.inj stepped
      by_cases same : other = file
      · subst other
        simp [driverRefs, free]
      · simp [driverRefs, same]
    · cases stepped
  | dup file | close file | seek file pos =>
    refine through stepped fun description found ran => ?_
    obtain rfl := Option.some.inj ran
    exact settled found rfl
  | lock file type start stop =>
    refine through stepped fun description found ran => ?_
    obtain ⟨locks, -, rfl⟩ := Option.map_eq_some_iff.mp ran
    rfl
  | unlock file start stop =>
    refine through stepped fun description found ran => ?_
    obtain rfl := Option.some.inj ran
    rfl

end FileTable

end MxDriver
