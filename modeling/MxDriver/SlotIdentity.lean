import MxDriver.LeaseProofBinding

/-!
# What the two probes of the identity byte prove

A write probe conflicts with every lock of another owner.  So the first probe
finds no conflict exactly if nobody else has a lock on the identity byte, and the
second one, by a new owner, finds one exactly if somebody has.  Neither of them
tells a shared lock from an exclusive one.
-/

namespace MxDriver

variable {ω κ φ : Type*}

namespace LockTable

/-- An owner holds a lock of some type on a byte. -/
def Locked (table : LockTable ω κ) (owner : ω) (inode : κ) (byte : Nat) : Prop :=
  ∃ type, table.Holds owner inode type byte

/-- An owner, and nobody else, holds a lock on a byte. -/
def Sole (table : LockTable ω κ) (owner : ω) (inode : κ) (byte : Nat) : Prop :=
  table.Locked owner inode byte ∧
    ∀ other, table.Locked other inode byte → other = owner

variable [DecidableEq ω] [DecidableEq κ] {table : LockTable ω κ} {owner : ω} {inode : κ}
  {byte : Nat}

/-- A write probe of one byte conflicts with every lock of another owner. -/
theorem conflict_write_eq_none_iff :
    table.conflict ⟨owner, inode, .write, byte, byte⟩ = none ↔
      ∀ other, table.Locked other inode byte → other = owner := by
  rw [conflict_eq_none_iff]
  constructor
  · rintro free other ⟨type, lock, member, rfl, rfl, -, covers⟩
    by_contra different
    exact free lock member ⟨different, ⟨rfl, covers⟩, .inr rfl⟩
  · rintro alone lock member ⟨different, ⟨sameInode, covers⟩, -⟩
    exact different (alone lock.owner ⟨lock.type, lock, member, rfl, sameInode, rfl, covers⟩)

theorem conflict_write_isSome_iff :
    (table.conflict ⟨owner, inode, .write, byte, byte⟩).isSome = true ↔
      ∃ other, table.Locked other inode byte ∧ other ≠ owner := by
  rw [Option.isSome_iff_ne_none, ne_eq, conflict_write_eq_none_iff]
  push Not
  rfl

end LockTable

variable [DecidableEq φ] {files : FileTable φ} {slotFile : φ} {inode : Inode} {slot : UInt32}

/-- The check passes exactly if the description alone has a lock on the identity
byte and a new description could be opened. -/
theorem mxLeaseSlotIdentityHeld_eq_none_iff {clone : CloneResult φ}
    (described : files.inodeOf (some slotFile) = some inode) :
    mxLeaseSlotIdentityHeld files slotFile inode slot clone = none ↔
      files.locks.Sole slotFile inode (leaseSlotIdentityOffset slot) ∧
        ∃ probe, clone = .ok (probe, inode) ∧ files.file probe = none := by
  have present : files.file slotFile ≠ none := by
    intro absent
    simp [FileTable.inodeOf, FileTable.describe, absent] at described
  unfold mxLeaseSlotIdentityHeld
  dsimp only
  constructor
  · intro passed
    split at passed
    · cases passed
    rename_i unclaimed
    rw [Bool.not_eq_true, Option.isSome_eq_false_iff, Option.isNone_iff_eq_none,
      LockTable.conflict_write_eq_none_iff] at unclaimed
    split at passed
    · cases passed
    rename_i probe cloned
    split at passed
    · cases passed
    rename_i free
    split at passed
    · cases passed
    rename_i sameInode
    obtain rfl := not_not.mp sameInode
    split at passed
    · rename_i claimed
      obtain ⟨owner, locked, -⟩ := LockTable.conflict_write_isSome_iff.mp claimed
      obtain rfl := unclaimed owner locked
      exact ⟨⟨locked, unclaimed⟩, probe, rfl, not_not.mp free⟩
    · cases passed
  · rintro ⟨⟨locked, alone⟩, probe, rfl, free⟩
    have different : slotFile ≠ probe := by
      rintro rfl
      exact present free
    have claimed := LockTable.conflict_write_isSome_iff.mpr ⟨slotFile, locked, different⟩
    simp [LockTable.conflict_write_eq_none_iff.mpr alone, free, claimed]

/-- Passing the check means an exclusive claim, unless the description has only a
shared lock on the identity byte and nobody else has any. -/
theorem slotIdentity_exclusive_iff (slot : UInt32) (free : φ)
    (described : files.inodeOf (some slotFile) = some inode) (unused : files.file free = none) :
    (∀ clone, mxLeaseSlotIdentityHeld files slotFile inode slot clone = none →
        files.locks.Holds slotFile inode .write (leaseSlotIdentityOffset slot) ∧
          ∀ other, other ≠ slotFile →
            ¬ files.locks.Locked other inode (leaseSlotIdentityOffset slot)) ↔
      ¬ (files.locks.Sole slotFile inode (leaseSlotIdentityOffset slot) ∧
        ¬ files.locks.Holds slotFile inode .write (leaseSlotIdentityOffset slot)) := by
  constructor
  · rintro exclusive ⟨sole, shared⟩
    have passed := (mxLeaseSlotIdentityHeld_eq_none_iff described).mpr
      ⟨sole, free, rfl, unused⟩
    exact shared (exclusive _ passed).1
  · intro notShared clone passed
    obtain ⟨sole, -⟩ := (mxLeaseSlotIdentityHeld_eq_none_iff described).mp passed
    refine ⟨?_, fun other different locked => different (sole.2 other locked)⟩
    by_contra shared
    exact notShared ⟨sole, shared⟩

/-- A description of a slot domain that has locked the identity byte of slot 5. -/
def claimedFiles (type : LockType) : FileTable (Fin 2) where
  file := Function.update (fun _ => none) 0
    (some ⟨⟨2, .regular, .tmpfs, 1, 3⟩, true, true, 0x50584c05, 1, 0⟩)
  locks := [⟨0, ⟨2, .regular, .tmpfs, 1, 3⟩, type, 10, 10⟩]

theorem slotIdentity_exclusive_claimed :
    mxLeaseSlotIdentityHeld (claimedFiles .write) 0 ⟨2, .regular, .tmpfs, 1, 3⟩ 5
        (.ok (1, ⟨2, .regular, .tmpfs, 1, 3⟩)) = none ∧
      (claimedFiles .write).locks.Holds 0 ⟨2, .regular, .tmpfs, 1, 3⟩ .write
        (leaseSlotIdentityOffset 5) := by
  have passed : mxLeaseSlotIdentityHeld (claimedFiles .write) 0
      ⟨2, .regular, .tmpfs, 1, 3⟩ 5 (.ok (1, ⟨2, .regular, .tmpfs, 1, 3⟩)) = none := by
    decide
  have held : (claimedFiles .write).locks.Holds 0 ⟨2, .regular, .tmpfs, 1, 3⟩ .write
      (leaseSlotIdentityOffset 5) :=
    ⟨_, List.mem_singleton_self _, rfl, rfl, rfl, by decide, by decide⟩
  have exclusive := (slotIdentity_exclusive_iff 5 1 rfl rfl).mpr
    fun shared => shared.2 held
  exact ⟨passed, (exclusive _ passed).1⟩

/-- A shared lock passes the check. -/
theorem slotIdentity_shared :
    mxLeaseSlotIdentityHeld (claimedFiles .read) 0 ⟨2, .regular, .tmpfs, 1, 3⟩ 5
        (.ok (1, ⟨2, .regular, .tmpfs, 1, 3⟩)) = none ∧
      ¬ (claimedFiles .read).locks.Holds 0 ⟨2, .regular, .tmpfs, 1, 3⟩ .write
        (leaseSlotIdentityOffset 5) := by
  refine ⟨by decide, ?_⟩
  rintro ⟨lock, member, -, -, written, -⟩
  obtain rfl := List.mem_singleton.mp member
  cases written

end MxDriver
