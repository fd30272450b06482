import Mathlib.Tactic.Common
import Mathlib.Data.List.Basic

/-!
# Record locks

Byte-range locks on inodes, each owned by one open file description.  Two
locks of different owners conflict when they share a byte and one of them is a
write lock; a request that conflicts with the table is refused, and a request
of the same owner replaces what the owner had on the range.  The locks of an
owner otherwise go away only together.
-/

namespace MxDriver

inductive LockType
  | read
  | write
  deriving DecidableEq, Repr

/-- A lock on the bytes from `start` to `stop`, both included. -/
structure RecordLock (ω κ : Type*) where
  owner : ω
  inode : κ
  type : LockType
  start : Nat
  stop : Nat
  deriving DecidableEq, Repr

abbrev LockTable (ω κ : Type*) := List (RecordLock ω κ)

variable {ω κ : Type*}

namespace RecordLock

def Covers (lock : RecordLock ω κ) (byte : Nat) : Prop :=
  lock.start ≤ byte ∧ byte ≤ lock.stop

def Overlaps (lock other : RecordLock ω κ) : Prop :=
  lock.inode = other.inode ∧ lock.start ≤ other.stop ∧ other.start ≤ lock.stop

def Conflicts (lock other : RecordLock ω κ) : Prop :=
  lock.owner ≠ other.owner ∧ lock.Overlaps other ∧
    (lock.type = .write ∨ other.type = .write)

instance [DecidableEq κ] (lock other : RecordLock ω κ) : Decidable (lock.Overlaps other) :=
  inferInstanceAs (Decidable (_ ∧ _))

instance [DecidableEq ω] [DecidableEq κ] (lock other : RecordLock ω κ) :
    Decidable (lock.Conflicts other) :=
  inferInstanceAs (Decidable (_ ∧ _))

theorem Conflicts.symm {lock other : RecordLock ω κ}
    (conflict : lock.Conflicts other) : other.Conflicts lock := by
  obtain ⟨owners, ⟨inodes, before, after⟩, types⟩ := conflict
  exact ⟨owners.symm, ⟨inodes.symm, after, before⟩, types.symm⟩

variable [DecidableEq ω] [DecidableEq κ]

/-- What a request of the same owner leaves of a lock. -/
def carve (lock request : RecordLock ω κ) : LockTable ω κ :=
  if lock.owner = request.owner ∧ lock.Overlaps request then
    (if lock.start < request.start then
        [{ lock with stop := request.start - 1 }] else []) ++
      (if request.stop < lock.stop then
        [{ lock with start := request.stop + 1 }] else [])
  else [lock]

theorem carve_of_owner_ne {lock request : RecordLock ω κ}
    (others : lock.owner ≠ request.owner) : lock.carve request = [lock] := by
  simp [carve, others]

theorem mem_carve {lock request piece : RecordLock ω κ} (member : piece ∈ lock.carve request) :
    piece.owner = lock.owner ∧ piece.inode = lock.inode ∧
      piece.type = lock.type ∧ lock.start ≤ piece.start ∧
      piece.stop ≤ lock.stop := by
  unfold carve at member
  split at member
  · rename_i overlap
    obtain ⟨-, -, before, after⟩ := overlap
    rw [List.mem_append] at member
    rcases member with member | member
    · split at member
      · obtain rfl := List.mem_singleton.mp member
        exact ⟨rfl, rfl, rfl, Nat.le_refl _, by dsimp only; omega⟩
      · cases member
    · split at member
      · obtain rfl := List.mem_singleton.mp member
        exact ⟨rfl, rfl, rfl, by dsimp only; omega, Nat.le_refl _⟩
      · cases member
  · obtain rfl := List.mem_singleton.mp member
    exact ⟨rfl, rfl, rfl, Nat.le_refl _, Nat.le_refl _⟩

theorem Conflicts.of_carve {lock request piece other : RecordLock ω κ}
    (member : piece ∈ lock.carve request) (conflict : piece.Conflicts other) :
    lock.Conflicts other := by
  obtain ⟨owner, inode, type, start, stop⟩ := mem_carve member
  obtain ⟨owners, ⟨inodes, before, after⟩, types⟩ := conflict
  exact ⟨owner ▸ owners,
    ⟨inode ▸ inodes, Nat.le_trans start before, Nat.le_trans after stop⟩,
    type ▸ types⟩

end RecordLock

namespace LockTable

/-- No two owners hold conflicting locks. -/
def Consistent (table : LockTable ω κ) : Prop :=
  ∀ lock ∈ table, ∀ other ∈ table, ¬ lock.Conflicts other

/-- An owner holds a lock of a type on a byte. -/
def Holds (table : LockTable ω κ) (owner : ω) (inode : κ) (type : LockType) (byte : Nat) : Prop :=
  ∃ lock ∈ table, lock.owner = owner ∧ lock.inode = inode ∧ lock.type = type ∧
    lock.Covers byte

theorem consistent_nil : Consistent ([] : LockTable ω κ) := by
  simp [Consistent]

/-- A lock keeps every write lock of another owner off its bytes. -/
theorem Consistent.eq_of_write {table : LockTable ω κ}
    (consistent : table.Consistent) {owner other : ω} {inode : κ}
    {type : LockType} {byte : Nat} (held : table.Holds owner inode type byte)
    (written : table.Holds other inode .write byte) : other = owner := by
  obtain ⟨lock, member, lockOwner, lockInode, -, lockCovers⟩ := held
  obtain ⟨writer, writerMember, writerOwner, writerInode, writes, writerCovers⟩ := written
  by_contra different
  refine consistent lock member writer writerMember ⟨?_, ⟨?_, ?_, ?_⟩, .inr writes⟩
  · rw [lockOwner, writerOwner]
    exact Ne.symm different
  · rw [lockInode, writerInode]
  · exact Nat.le_trans lockCovers.1 writerCovers.2
  · exact Nat.le_trans writerCovers.1 lockCovers.2

section Operations

variable [DecidableEq ω] [DecidableEq κ]

/-- The first lock that stands in the way of a request. -/
def conflict (table : LockTable ω κ) (request : RecordLock ω κ) : Option (RecordLock ω κ) :=
  table.find? fun lock => lock.Conflicts request

/-- Clear the range of a request from the locks of its owner. -/
def release (table : LockTable ω κ) (request : RecordLock ω κ) : LockTable ω κ :=
  table.flatMap fun lock => lock.carve request

/-- Set a lock without waiting: `none` is a refusal. -/
def grant (table : LockTable ω κ) (request : RecordLock ω κ) : Option (LockTable ω κ) :=
  if (table.conflict request).isSome then none
  else some (request :: table.release request)

/-- The owner is closed for the last time. -/
def dropOwner (table : LockTable ω κ) (owner : ω) : LockTable ω κ :=
  table.filter fun lock => lock.owner ≠ owner

variable {table next : LockTable ω κ} {request : RecordLock ω κ}

theorem conflict_eq_none_iff :
    table.conflict request = none ↔ ∀ lock ∈ table, ¬ lock.Conflicts request := by
  simp [conflict]

theorem Consistent.release (consistent : table.Consistent)
    (request : RecordLock ω κ) : (table.release request).Consistent := by
  intro piece pieceMember other otherMember conflict
  obtain ⟨lock, lockMember, pieceOf⟩ := List.mem_flatMap.mp pieceMember
  obtain ⟨source, sourceMember, otherOf⟩ := List.mem_flatMap.mp otherMember
  have fromLock := RecordLock.Conflicts.of_carve pieceOf conflict
  have fromBoth := RecordLock.Conflicts.of_carve otherOf fromLock.symm
  exact consistent source sourceMember lock lockMember fromBoth

theorem Consistent.grant (consistent : table.Consistent)
    (granted : table.grant request = some next) : next.Consistent := by
  unfold LockTable.grant at granted
  split at granted
  · cases granted
  rename_i free
  obtain rfl := Option.some.inj granted
  have free : ∀ lock ∈ table, ¬ lock.Conflicts request :=
    conflict_eq_none_iff.mp (by simpa using free)
  have apart : ∀ piece ∈ table.release request, ¬ piece.Conflicts request := by
    intro piece member conflict
    obtain ⟨lock, lockMember, pieceOf⟩ := List.mem_flatMap.mp member
    exact free lock lockMember (RecordLock.Conflicts.of_carve pieceOf conflict)
  intro lock lockMember other otherMember conflict
  rcases List.mem_cons.mp lockMember with rfl | lockMember
  · rcases List.mem_cons.mp otherMember with rfl | otherMember
    · exact conflict.1 rfl
    · exact apart other otherMember conflict.symm
  · rcases List.mem_cons.mp otherMember with rfl | otherMember
    · exact apart lock lockMember conflict
    · exact consistent.release request lock lockMember other otherMember conflict

omit [DecidableEq κ] in
theorem Consistent.dropOwner (consistent : table.Consistent) (owner : ω) :
    (table.dropOwner owner).Consistent := by
  intro lock lockMember other otherMember
  exact consistent lock (List.mem_of_mem_filter lockMember)
    other (List.mem_of_mem_filter otherMember)

variable {owner : ω} {inode : κ} {type : LockType} {byte : Nat}

theorem Holds.release (held : table.Holds owner inode type byte) (others : owner ≠ request.owner) :
    (table.release request).Holds owner inode type byte := by
  obtain ⟨lock, member, rfl, rest⟩ := held
  refine ⟨lock, List.mem_flatMap.mpr ⟨lock, member, ?_⟩, rfl, rest⟩
  rw [RecordLock.carve_of_owner_ne others]
  exact List.mem_singleton_self lock

theorem Holds.grant (held : table.Holds owner inode type byte)
    (others : owner ≠ request.owner) (granted : table.grant request = some next) :
    next.Holds owner inode type byte := by
  unfold LockTable.grant at granted
  split at granted
  · cases granted
  obtain rfl := Option.some.inj granted
  obtain ⟨lock, member, rest⟩ := held.release others
  exact ⟨lock, List.mem_cons_of_mem _ member, rest⟩

omit [DecidableEq κ] in
theorem Holds.dropOwner (held : table.Holds owner inode type byte) {closed : ω}
    (others : owner ≠ closed) : (table.dropOwner closed).Holds owner inode type byte := by
  obtain ⟨lock, member, rfl, rest⟩ := held
  exact ⟨lock, List.mem_filter.mpr ⟨member, by simpa using others⟩, rfl, rest⟩

theorem holds_of_grant (granted : table.grant request = some next) (covers : request.Covers byte) :
    next.Holds request.owner request.inode request.type byte := by
  unfold LockTable.grant at granted
  split at granted
  · cases granted
  obtain rfl := Option.some.inj granted
  exact ⟨request, List.mem_cons_self, rfl, rfl, rfl, covers⟩

end Operations

end LockTable

end MxDriver
