import MxDriver.PrpCommand

/-!
# Slices that descriptors without lengths can express

Every entry that a slice touches but the last has to end on a boundary, and every
one but the first has to start on one.  Counting the descriptors of a slice accepts
exactly these slices, and counts the chunks that the device will see.
-/

namespace MxDriver

/-- What is left of an entry, followed by more entries, can be expressed up to a
number of bytes. -/
def Expressible (dmaSize : Nat) : Nat → Nat → List SgEntry → Nat → Prop
  | _, avail, [], remaining => remaining ≤ avail
  | address, avail, entry :: rest, remaining =>
    remaining ≤ avail ∨
      dmaSize ∣ address + avail ∧ dmaSize ∣ entry.address ∧
        Expressible dmaSize entry.address entry.length rest (remaining - avail)

theorem Expressible.of_le {dmaSize address avail remaining : Nat} {rest : List SgEntry}
    (fits : remaining ≤ avail) : Expressible dmaSize address avail rest remaining := by
  cases rest with
  | nil => exact fits
  | cons entry rest => exact .inl fits

/-- A slice that goes on goes on with an aligned entry. -/
theorem Expressible.next {dmaSize address avail remaining : Nat} {rest : List SgEntry}
    (expressible : Expressible dmaSize address avail rest remaining) (more : avail < remaining) :
    ∃ entry others, rest = entry :: others ∧ dmaSize ∣ address + avail ∧
      dmaSize ∣ entry.address ∧
      Expressible dmaSize entry.address entry.length others (remaining - avail) := by
  cases rest with
  | nil =>
    have fits : remaining ≤ avail := expressible
    omega
  | cons entry others =>
    obtain ⟨ends, starts, later⟩ := expressible.resolve_left (by omega)
    exact ⟨entry, others, rfl, ends, starts, later⟩

section Counting

variable {exponent : Nat}

theorem prpChunkLenAt_two_pow (address : Nat) :
    prpChunkLenAt address (2 ^ exponent) = toBoundary (2 ^ exponent) address := by
  simp only [prpChunkLenAt, Nat.and_two_pow_sub_one_eq_mod, toBoundary]
  split
  · rfl
  · rename_i aligned
    omega

/-- One entry is counted as the device counts its bytes. -/
theorem entry_chunkCount {dmaSize address avail consumed : Nat} (positive : 0 < dmaSize)
    (within : consumed ≤ avail) :
    (1 + if consumed > min (min (toBoundary dmaSize address) avail) consumed then
        divRoundUp (consumed - min (min (toBoundary dmaSize address) avail) consumed) dmaSize
      else 0) = chunkCount dmaSize address consumed := by
  by_cases short : consumed ≤ toBoundary dmaSize address
  · rw [chunkCount_of_le positive short, if_neg (by omega)]
  · have first : min (min (toBoundary dmaSize address) avail) consumed =
        toBoundary dmaSize address := by omega
    rw [first, if_pos (by omega), chunkCount]

theorem countDescs_round (entry : SgEntry) (rest : List SgEntry) (intraOff remaining total : Nat) :
    countDescs (2 ^ exponent) entry rest intraOff remaining total =
      if remaining ≤ entry.length - intraOff then
        .ok (total + chunkCount (2 ^ exponent) (entry.address + intraOff) remaining)
      else if 2 ^ exponent ∣ entry.address + intraOff + (entry.length - intraOff) then
        match rest with
        | [] => .error .einval
        | next :: rest =>
          if 2 ^ exponent ∣ next.address then
            countDescs (2 ^ exponent) next rest 0 (remaining - (entry.length - intraOff))
              (total + chunkCount (2 ^ exponent) (entry.address + intraOff)
                (entry.length - intraOff))
          else .error .einval
      else .error .einval := by
  have positive := Nat.two_pow_pos exponent
  conv_lhs => unfold countDescs
  simp only [mxPrpFirstChunkLen, prpChunkLenAt_two_pow, Nat.add_assoc total]
  rw [entry_chunkCount positive (Nat.min_le_left ..)]
  by_cases fits : remaining ≤ entry.length - intraOff
  · have consumed : min (entry.length - intraOff) remaining = remaining := by omega
    rw [if_pos fits, consumed, Nat.sub_self, if_pos rfl]
  · have consumed : min (entry.length - intraOff) remaining = entry.length - intraOff := by
      omega
    rw [if_neg fits, consumed, if_neg (by omega)]
    cases rest <;> simp only [ne_eq, and_two_pow_sub_one_eq_zero_iff, ite_not]

/-- Counting accepts a slice exactly if it can be expressed, and counts its chunks. -/
theorem countDescs_eq_ok_iff {entry : SgEntry} {rest : List SgEntry}
    {intraOff remaining total count : Nat} (inside : intraOff < entry.length) :
    countDescs (2 ^ exponent) entry rest intraOff remaining total = .ok count ↔
      Expressible (2 ^ exponent) (entry.address + intraOff) (entry.length - intraOff) rest
        remaining ∧
      count = total + chunkCount (2 ^ exponent) (entry.address + intraOff) remaining := by
  induction rest generalizing entry intraOff remaining total with
  | nil =>
    rw [countDescs_round, Expressible]
    split
    · rename_i fits
      simp [fits, eq_comm]
    · rename_i beyond
      split <;> simp [beyond]
  | cons next rest ih =>
    rw [countDescs_round, Expressible]
    split
    · rename_i fits
      simp [fits, eq_comm]
    · rename_i beyond
      have positive := Nat.two_pow_pos exponent
      have more : 0 < remaining - (entry.length - intraOff) := by omega
      have whole : remaining = entry.length - intraOff +
          (remaining - (entry.length - intraOff)) := by omega
      split
      · rename_i ends
        dsimp only
        split
        · rename_i starts
          rw [ih next.nonempty, Nat.add_zero, Nat.sub_zero,
            chunkCount_of_dvd positive starts more]
          have counted := chunkCount_append positive ends (Nat.sub_pos_of_lt inside)
            (remaining - (entry.length - intraOff))
          rw [← whole] at counted
          rw [counted, Nat.add_assoc]
          simp [beyond, ends, starts]
        · rename_i starts
          simp [beyond, starts]
      · rename_i ends
        simp [beyond, ends]

end Counting

end MxDriver
