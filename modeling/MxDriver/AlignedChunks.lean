import Mathlib.Algebra.Order.Group.Nat
import Mathlib.Data.Nat.ModEq

/-!
# Chunks between boundaries

Memory is cut at the multiples of a chunk size.  The first chunk of a range
reaches from its start to the next boundary, every later one is full, and the last
is cut off at the end of the range.
-/

namespace MxDriver

/-- `DIV_ROUND_UP`. -/
def divRoundUp (length size : Nat) : Nat := (length + size - 1) / size

/-- The distance to the next boundary; a boundary is a whole chunk away from the
next. -/
def toBoundary (size address : Nat) : Nat := size - address % size

/-- The number of chunks of a range that is not empty. -/
def chunkCount (size address length : Nat) : Nat :=
  1 + divRoundUp (length - toBoundary size address) size

section Rounding

variable {size length : Nat}

@[simp]
theorem divRoundUp_zero (positive : 0 < size) : divRoundUp 0 size = 0 := by
  rw [divRoundUp, Nat.div_eq_zero_iff]
  omega

theorem divRoundUp_add_self (positive : 0 < size) (length : Nat) :
    divRoundUp (size + length) size = 1 + divRoundUp length size := by
  have shifted : size + length + size - 1 = (length + size - 1) + size := by omega
  rw [divRoundUp, divRoundUp, shifted, Nat.add_div_right _ positive, Nat.add_comm]

theorem divRoundUp_mul_add (positive : 0 < size) (chunks length : Nat) :
    divRoundUp (chunks * size + length) size = chunks + divRoundUp length size := by
  induction chunks with
  | zero => simp
  | succ chunks ih =>
    have unrolled : (chunks + 1) * size + length = size + (chunks * size + length) := by
      rw [Nat.add_mul]
      omega
    rw [unrolled, divRoundUp_add_self positive, ih]
    omega

theorem divRoundUp_of_le (positive : 0 < length) (short : length ≤ size) :
    divRoundUp length size = 1 := by
  obtain ⟨spare, rfl⟩ := Nat.exists_eq_add_of_le short
  rw [divRoundUp, Nat.div_eq_iff (by omega)]
  omega

theorem divRoundUp_pos (positive : 0 < size) (nonempty : 0 < length) :
    0 < divRoundUp length size := by
  rw [divRoundUp, Nat.div_pos_iff]
  omega

theorem divRoundUp_eq_succ (positive : 0 < size) (nonempty : 0 < length) :
    divRoundUp length size = 1 + divRoundUp (length - size) size := by
  by_cases short : length ≤ size
  · rw [divRoundUp_of_le nonempty short, Nat.sub_eq_zero_of_le short,
      divRoundUp_zero positive]
  · have split : length = size + (length - size) := by omega
    rw [split, divRoundUp_add_self positive, Nat.add_sub_cancel_left]

end Rounding

section Boundary

variable {size address length : Nat}

theorem toBoundary_le : toBoundary size address ≤ size := Nat.sub_le ..

theorem toBoundary_of_dvd (aligned : size ∣ address) : toBoundary size address = size := by
  rw [toBoundary, Nat.mod_eq_zero_of_dvd aligned, Nat.sub_zero]

theorem dvd_add_toBoundary (positive : 0 < size) : size ∣ address + toBoundary size address := by
  have below := Nat.mod_lt address positive
  have split := Nat.div_add_mod address size
  refine ⟨address / size + 1, ?_⟩
  rw [toBoundary, Nat.mul_add, Nat.mul_one]
  omega

/-- A range that ends on a boundary reaches the next boundary and then has full
chunks only. -/
theorem dvd_sub_toBoundary (positive : 0 < size) (ends : size ∣ address + length)
    (nonempty : 0 < length) :
    toBoundary size address ≤ length ∧ size ∣ length - toBoundary size address := by
  have next : size ∣ address + toBoundary size address := dvd_add_toBoundary positive
  have reaches : toBoundary size address ≤ length := by
    by_contra short
    have gap := Nat.dvd_sub next ends
    have inside : address + toBoundary size address - (address + length) < size := by
      have bound : toBoundary size address ≤ size := toBoundary_le
      omega
    have zero := Nat.eq_zero_of_dvd_of_lt gap inside
    omega
  refine ⟨reaches, ?_⟩
  have rest := Nat.dvd_sub ends next
  have same : address + length - (address + toBoundary size address) =
      length - toBoundary size address := by omega
  rwa [same] at rest

/-- From a boundary on, the chunks are counted by rounding up. -/
theorem chunkCount_of_dvd (positive : 0 < size) (aligned : size ∣ address)
    (nonempty : 0 < length) : chunkCount size address length = divRoundUp length size := by
  rw [chunkCount, toBoundary_of_dvd aligned, ← divRoundUp_eq_succ positive nonempty]

theorem chunkCount_of_le (positive : 0 < size) (short : length ≤ toBoundary size address) :
    chunkCount size address length = 1 := by
  rw [chunkCount, Nat.sub_eq_zero_of_le short, divRoundUp_zero positive]

/-- A range that ends on a boundary can be counted apart from what follows it. -/
theorem chunkCount_append (positive : 0 < size) (ends : size ∣ address + length)
    (nonempty : 0 < length) (more : Nat) :
    chunkCount size address (length + more) =
      chunkCount size address length + divRoundUp more size := by
  obtain ⟨reaches, chunks, chunksEq⟩ := dvd_sub_toBoundary positive ends nonempty
  have split : length + more - toBoundary size address =
      length - toBoundary size address + more := by omega
  have whole : divRoundUp (chunks * size) size = chunks := by
    have counted := divRoundUp_mul_add positive chunks 0
    simpa [divRoundUp_zero positive] using counted
  rw [chunkCount, chunkCount, split, chunksEq, Nat.mul_comm size chunks,
    divRoundUp_mul_add positive, whole]
  omega

/-- The low bits of an address tell whether it is a boundary. -/
theorem and_two_pow_sub_one_eq_zero_iff (exponent address : Nat) :
    address &&& (2 ^ exponent - 1) = 0 ↔ 2 ^ exponent ∣ address := by
  rw [Nat.and_two_pow_sub_one_eq_mod, Nat.dvd_iff_mod_eq_zero]

end Boundary

end MxDriver
