import MxDriver.RingBuffer
import Mathlib.Tactic.Ring

/-!
# Mailbox indices

A mailbox is a ring of words with a head and a tail of one byte each: seven
bits of index, and a phase bit that flips when the index wraps.  The whole
depth can be used, since a full ring and an empty one have the same index but
differ in the phase.  This file relates the byte arithmetic of the source to
positions in the sequence of words that passes through the ring.
-/

namespace MxDriver

/-- `mbox_index_t`: the two fields of the byte. -/
structure MboxIndex where
  index : BitVec 7
  phase : Bool
  deriving DecidableEq, Repr

/-- The cached context of `struct mx_mbox`. -/
structure MboxContext where
  head : MboxIndex
  tail : MboxIndex
  deriving DecidableEq, Repr

/-- Conversion of a C `int` to `uint32_t`. -/
def toU32 (value : Int) : Nat :=
  (value % 2 ^ 32).toNat

/-- `head.phase ^ tail.phase` -/
def MboxContext.phaseDiffers (ctx : MboxContext) : Nat :=
  (ctx.head.phase ^^ ctx.tail.phase).toNat

def isEmpty (ctx : MboxContext) : Bool :=
  ctx.head == ctx.tail

def isFull (ctx : MboxContext) : Bool :=
  ctx.head.index == ctx.tail.index && ctx.head.phase != ctx.tail.phase

def getFreeSpace (depth : Nat) (ctx : MboxContext) : Nat :=
  toU32 (ctx.head.index.toNat - ctx.tail.index.toNat + depth * (1 - ctx.phaseDiffers))

def getPendingCount (depth : Nat) (ctx : MboxContext) : Nat :=
  toU32 (ctx.tail.index.toNat - ctx.head.index.toNat + depth * ctx.phaseDiffers)

/-- The sum is taken in 32 bits and the result is stored in seven. -/
def getNextIndex (last : MboxIndex) (count depth : Nat) : MboxIndex :=
  let index := BitVec.ofNat 7 (((last.index.toNat + count) % 2 ^ 32) &&& (depth - 1))
  { index
    phase := if count ≠ 0 ∧ index ≤ last.index then !last.phase else last.phase }

/-- The offset of a slot in bytes. -/
def getDataOffset (db : MboxIndex) : Nat :=
  8 * db.index.toNat

/-- The words that can be written without crossing the end of the array. -/
def getPushableCount (depth : Nat) (ctx : MboxContext) : Nat :=
  if ctx.head.phase = ctx.tail.phase then toU32 (depth - ctx.tail.index.toNat)
  else toU32 (ctx.head.index.toNat - ctx.tail.index.toNat)

/-- The words that can be read without crossing the end of the array. -/
def getPopableCount (depth : Nat) (ctx : MboxContext) : Nat :=
  if ctx.head.phase = ctx.tail.phase then
    toU32 (ctx.tail.index.toNat - ctx.head.index.toNat)
  else toU32 (depth - ctx.head.index.toNat)

/-- The depths an index of seven bits can serve. -/
def IsMboxDepth (depth : Nat) : Prop :=
  ∃ order ≤ 7, depth = 2 ^ order

/-- The byte that stands for a position. -/
def mboxIndexOf (depth position : Nat) : MboxIndex where
  index := BitVec.ofNat 7 (position % depth)
  phase := oddLap depth position

section Depth

variable {depth position : Nat}

theorem toU32_eq {value : Int} {result : Nat} (equal : value = result)
    (small : result < 2 ^ 32) : toU32 value = result := by
  rw [toU32, equal, Int.emod_eq_of_lt (by omega) (by omega), Int.toNat_natCast]

variable (valid : IsMboxDepth depth)
include valid

theorem IsMboxDepth.pos : 0 < depth := by
  obtain ⟨order, _, rfl⟩ := valid
  exact Nat.two_pow_pos order

theorem IsMboxDepth.le : depth ≤ 128 := by
  obtain ⟨order, small, rfl⟩ := valid
  exact Nat.pow_le_pow_right (by decide) small

theorem IsMboxDepth.four_dvd (large : 4 ≤ depth) : 4 ∣ depth := by
  obtain ⟨order, _, rfl⟩ := valid
  have enough : 2 ≤ order := by
    by_contra few
    have : 2 ^ order ≤ 2 ^ 1 := Nat.pow_le_pow_right (by decide) (by omega)
    omega
  exact Nat.pow_dvd_pow 2 enough

theorem IsMboxDepth.and_eq_mod (value : Nat) :
    (value % 2 ^ 32) &&& (depth - 1) = value % depth := by
  obtain ⟨order, small, rfl⟩ := valid
  rw [Nat.and_two_pow_sub_one_eq_mod, Nat.mod_mod_of_dvd _ (Nat.pow_dvd_pow 2 (by omega))]

theorem toNat_index_mboxIndexOf : (mboxIndexOf depth position).index.toNat = position % depth := by
  have inside := Nat.mod_lt position valid.pos
  have bound := valid.le
  rw [mboxIndexOf, BitVec.toNat_ofNat, Nat.mod_eq_of_lt (by omega)]

/-- The next index stands for the position `count` words on. -/
theorem getNextIndex_mboxIndexOf {count : Nat} (fits : count ≤ depth) :
    getNextIndex (mboxIndexOf depth position) count depth =
      mboxIndexOf depth (position + count) := by
  have positive := valid.pos
  have inside := Nat.mod_lt position positive
  have index_eq : BitVec.ofNat 7
      ((((mboxIndexOf depth position).index.toNat + count) % 2 ^ 32) &&& (depth - 1)) =
      (mboxIndexOf depth (position + count)).index := by
    rw [valid.and_eq_mod, toNat_index_mboxIndexOf valid, Nat.mod_add_mod]
    rfl
  have compare : (mboxIndexOf depth (position + count)).index ≤
      (mboxIndexOf depth position).index ↔ (position + count) % depth ≤ position % depth := by
    rw [BitVec.le_def, toNat_index_mboxIndexOf valid, toNat_index_mboxIndexOf valid]
  rw [getNextIndex, index_eq]
  simp only [compare]
  change MboxIndex.mk _ _ = MboxIndex.mk _ _
  congr 1
  exact (oddLap_add positive fits).symm

end Depth

/-- A context stands for a head and a tail at most a depth apart. -/
structure Represents (depth : Nat) (ctx : MboxContext) (head tail : Nat) : Prop where
  head_eq : ctx.head = mboxIndexOf depth head
  tail_eq : ctx.tail = mboxIndexOf depth tail
  ordered : head ≤ tail
  near : tail ≤ head + depth

namespace Represents

variable {depth head tail : Nat} {ctx : MboxContext}

variable (valid : IsMboxDepth depth) (represents : Represents depth ctx head tail)
include valid represents

/-- What the two bytes show of the positions: their indices are the slots, and
the phases say whether the tail is a lap ahead. -/
theorem bytes :
    ctx.head.index.toNat = head % depth ∧ ctx.tail.index.toNat = tail % depth ∧
      (ctx.head.phase = ctx.tail.phase ∧ ctx.phaseDiffers = 0 ∧
          tail % depth + head = head % depth + tail ∨
        ctx.head.phase ≠ ctx.tail.phase ∧ ctx.phaseDiffers = 1 ∧
          tail % depth + depth + head = head % depth + tail) := by
  rw [MboxContext.phaseDiffers, represents.head_eq, represents.tail_eq,
    toNat_index_mboxIndexOf valid, toNat_index_mboxIndexOf valid]
  refine ⟨rfl, rfl, ?_⟩
  obtain ⟨same, slots⟩ | ⟨flipped, slots⟩ :=
    laps_of_near valid.pos represents.ordered represents.near
  · left
    rw [mboxIndexOf, mboxIndexOf, same]
    exact ⟨rfl, by rw [Bool.xor_self]; rfl, slots⟩
  · right
    rw [mboxIndexOf, mboxIndexOf, flipped]
    exact ⟨by simp, by simp, slots⟩

/-- The bounds of the positions and of their slots. -/
theorem bounds :
    tail % depth < depth ∧ head % depth < depth ∧ depth ≤ 128 ∧ tail ≤ head + depth ∧
      head ≤ tail :=
  ⟨Nat.mod_lt tail valid.pos, Nat.mod_lt head valid.pos, valid.le, represents.near,
    represents.ordered⟩

theorem getPendingCount_eq : getPendingCount depth ctx = tail - head := by
  obtain ⟨-, -, bound, near, ordered⟩ := represents.bounds valid
  obtain ⟨headSlot, tailSlot, ⟨_, lap, slots⟩ | ⟨_, lap, slots⟩⟩ := represents.bytes valid <;>
  · apply toU32_eq
    · rw [headSlot, tailSlot, lap]
      omega
    · omega

theorem getFreeSpace_eq : getFreeSpace depth ctx = depth - (tail - head) := by
  obtain ⟨-, -, bound, near, ordered⟩ := represents.bounds valid
  obtain ⟨headSlot, tailSlot, ⟨_, lap, slots⟩ | ⟨_, lap, slots⟩⟩ := represents.bytes valid <;>
  · apply toU32_eq
    · rw [headSlot, tailSlot, lap]
      omega
    · omega

/-- A batch takes what is free, up to the end of the array. -/
theorem getPushableCount_eq :
    getPushableCount depth ctx = min (depth - (tail - head)) (depth - tail % depth) := by
  obtain ⟨inside, headInside, bound, near, ordered⟩ := represents.bounds valid
  obtain ⟨headSlot, tailSlot, ⟨phases, _, slots⟩ | ⟨phases, _, slots⟩⟩ := represents.bytes valid
  · rw [getPushableCount, if_pos phases]
    apply toU32_eq <;> omega
  · rw [getPushableCount, if_neg phases]
    apply toU32_eq <;> omega

theorem getPopableCount_eq :
    getPopableCount depth ctx = min (tail - head) (depth - head % depth) := by
  obtain ⟨inside, headInside, bound, near, ordered⟩ := represents.bounds valid
  obtain ⟨headSlot, tailSlot, ⟨phases, _, slots⟩ | ⟨phases, _, slots⟩⟩ := represents.bytes valid
  · rw [getPopableCount, if_pos phases]
    apply toU32_eq <;> omega
  · rw [getPopableCount, if_neg phases]
    apply toU32_eq <;> omega

theorem isFull_iff : isFull ctx = true ↔ tail = head + depth := by
  have inside := Nat.mod_lt tail valid.pos
  have headInside := Nat.mod_lt head valid.pos
  rw [isFull, Bool.and_eq_true, beq_iff_eq, bne_iff_ne, BitVec.toNat_inj.symm]
  obtain ⟨headSlot, tailSlot, ⟨phases, _, slots⟩ | ⟨phases, _, slots⟩⟩ := represents.bytes valid
  · simp only [phases, ne_eq, not_true_eq_false, and_false, false_iff]
    omega
  · simp only [headSlot, tailSlot, phases, ne_eq, not_false_eq_true, and_true]
    omega

theorem isEmpty_iff : isEmpty ctx = true ↔ tail = head := by
  have inside := Nat.mod_lt tail valid.pos
  have headInside := Nat.mod_lt head valid.pos
  rw [isEmpty, beq_iff_eq]
  constructor
  · intro same
    obtain ⟨headSlot, tailSlot, ⟨_, _, slots⟩ | ⟨phases, _, _⟩⟩ := represents.bytes valid
    · rw [same, tailSlot] at headSlot
      omega
    · exact absurd (congrArg MboxIndex.phase same) phases
  · rintro rfl
    rw [represents.head_eq, represents.tail_eq]

end Represents

/-- The byte arithmetic on a context is the arithmetic of two counters. -/
structure CountsAs (depth : Nat) (ctx : MboxContext) (head tail : Nat) : Prop where
  pending : getPendingCount depth ctx = tail - head
  free : getFreeSpace depth ctx = depth - (tail - head)
  full : isFull ctx = true ↔ tail = head + depth
  empty : isEmpty ctx = true ↔ tail = head
  headNext : ∀ count ≤ depth,
    getNextIndex ctx.head count depth = mboxIndexOf depth (head + count)
  tailNext : ∀ count ≤ depth,
    getNextIndex ctx.tail count depth = mboxIndexOf depth (tail + count)

theorem Represents.countsAs {depth head tail : Nat} {ctx : MboxContext}
    (valid : IsMboxDepth depth) (represents : Represents depth ctx head tail) :
    CountsAs depth ctx head tail where
  pending := represents.getPendingCount_eq valid
  free := represents.getFreeSpace_eq valid
  full := represents.isFull_iff valid
  empty := represents.isEmpty_iff valid
  headNext count fits := by rw [represents.head_eq, getNextIndex_mboxIndexOf valid fits]
  tailNext count fits := by rw [represents.tail_eq, getNextIndex_mboxIndexOf valid fits]

end MxDriver
