import MxDriver.PrpExpressible

/-!
# Reading descriptors back

The walk of `mx_desc_list_init` over a slice that can be expressed writes one
descriptor for each chunk of the device, and the device reads the bytes of the slice
back from them.
-/

namespace MxDriver

namespace DescCursor

/-- The bytes that the walk still has to cover. -/
def bytes (cursor : DescCursor) : List Nat :=
  (List.range' cursor.dmaAddr cursor.entryAvail ++ sgBytes cursor.rest).take cursor.remaining

/-- After a descriptor: the next entry if need be, and the length of the next one. -/
def advance (dmaSize : Nat) (cursor : DescCursor) : Except Errno DescCursor :=
  cursor.consume.nextEntry.bind (align dmaSize)

/-- A walk that runs to its end, with the addresses of its descriptors. -/
inductive Walks (dmaSize : Nat) : DescCursor → List Nat → Prop
  | last {cursor : DescCursor} (pending : 0 < cursor.remaining)
      (whole : cursor.len = cursor.remaining) : Walks dmaSize cursor [cursor.dmaAddr]
  | more {cursor next : DescCursor} {addresses : List Nat}
      (shorter : cursor.len < cursor.remaining) (advanced : cursor.advance dmaSize = .ok next)
      (rest : Walks dmaSize next addresses) :
      Walks dmaSize cursor (cursor.dmaAddr :: addresses)

/-- The walk stands on a boundary with bytes left that can be expressed. -/
structure Ready (dmaSize : Nat) (cursor : DescCursor) : Prop where
  aligned : dmaSize ∣ cursor.dmaAddr
  avail : 0 < cursor.entryAvail
  pending : 0 < cursor.remaining
  len : cursor.len = min (min dmaSize cursor.entryAvail) cursor.remaining
  expressible : Expressible dmaSize cursor.dmaAddr cursor.entryAvail cursor.rest
    cursor.remaining

end DescCursor

theorem Expressible.drop {dmaSize address avail remaining used : Nat} {rest : List SgEntry}
    (expressible : Expressible dmaSize address avail rest remaining) (within : used ≤ avail) :
    Expressible dmaSize (address + used) (avail - used) rest (remaining - used) := by
  by_cases fits : remaining ≤ avail
  · exact .of_le (by omega)
  · obtain ⟨entry, others, rfl, ends, starts, later⟩ := expressible.next (by omega)
    refine .inr ⟨?_, starts, ?_⟩
    · have same : address + used + (avail - used) = address + avail := by omega
      rwa [same]
    · have same : remaining - used - (avail - used) = remaining - avail := by omega
      rwa [same]

theorem take_range'_append {address length used count : Nat} (more : List Nat)
    (within : used ≤ length) (longer : used ≤ count) :
    (List.range' address length ++ more).take count =
      List.range' address used ++
        (List.range' (address + used) (length - used) ++ more).take (count - used) := by
  have split : List.range' address length =
      List.range' address used ++ List.range' (address + used) (length - used) := by
    rw [List.range'_append_1, Nat.add_sub_cancel' within]
  rw [split, List.append_assoc, List.take_append, List.length_range',
    List.take_of_length_le (by simpa using longer)]

theorem take_range'_append_of_le {address length count : Nat} (more : List Nat)
    (within : count ≤ length) :
    (List.range' address length ++ more).take count = List.range' address count := by
  rw [take_range'_append more within (Nat.le_refl _), Nat.sub_self, List.take_zero,
    List.append_nil]

namespace DescCursor

variable {exponent : Nat} {cursor : DescCursor}

/-- A descriptor that ends on a boundary, or with its entry, leaves a walk that is
ready for the next one. -/
theorem advance_ready
    (expressible : Expressible (2 ^ exponent) cursor.dmaAddr cursor.entryAvail cursor.rest
      cursor.remaining)
    (within : cursor.len ≤ cursor.entryAvail) (more : cursor.len < cursor.remaining)
    (boundary : 2 ^ exponent ∣ cursor.dmaAddr + cursor.len) :
    ∃ next, cursor.advance (2 ^ exponent) = .ok next ∧ next.Ready (2 ^ exponent) ∧
      next.remaining = cursor.remaining - cursor.len ∧
      cursor.bytes = List.range' cursor.dmaAddr cursor.len ++ next.bytes := by
  have rest := expressible.drop within
  have bytes : cursor.bytes = List.range' cursor.dmaAddr cursor.len ++
      (List.range' (cursor.dmaAddr + cursor.len) (cursor.entryAvail - cursor.len) ++
        sgBytes cursor.rest).take (cursor.remaining - cursor.len) :=
    take_range'_append _ within (by omega)
  by_cases used : cursor.entryAvail - cursor.len = 0
  · obtain ⟨entry, others, restEq, ends, starts, later⟩ := rest.next (by omega)
    rw [used, Nat.sub_zero] at later
    refine ⟨⟨others, entry.address, entry.length, cursor.remaining - cursor.len,
      min (min (2 ^ exponent) entry.length) (cursor.remaining - cursor.len)⟩, ?_,
      ⟨starts, entry.nonempty, ?_, rfl, later⟩, rfl, ?_⟩
    · have onBoundary := (and_two_pow_sub_one_eq_zero_iff _ _).mpr starts
      simp only [advance, nextEntry, consume, used, restEq, Except.bind, align, onBoundary,
        if_true, ne_eq, not_true_eq_false, if_false]
    · exact Nat.sub_pos_of_lt more
    · rw [bytes, used, restEq]
      simp [DescCursor.bytes, sgBytes]
  · refine ⟨⟨cursor.rest, cursor.dmaAddr + cursor.len, cursor.entryAvail - cursor.len,
      cursor.remaining - cursor.len, min (min (2 ^ exponent) (cursor.entryAvail - cursor.len))
        (cursor.remaining - cursor.len)⟩, ?_,
      ⟨boundary, Nat.pos_of_ne_zero used, ?_, rfl, rest⟩, rfl, bytes⟩
    · have onBoundary := (and_two_pow_sub_one_eq_zero_iff _ _).mpr boundary
      simp only [advance, nextEntry, consume, used, Except.bind, align, onBoundary, ne_eq,
        not_true_eq_false, if_false]
    · exact Nat.sub_pos_of_lt more

namespace Ready

theorem last (ready : cursor.Ready (2 ^ exponent)) (short : cursor.remaining ≤ 2 ^ exponent) :
    cursor.len = cursor.remaining ∧
      cursor.bytes = List.range' cursor.dmaAddr cursor.remaining := by
  have fits : cursor.remaining ≤ cursor.entryAvail := by
    by_contra beyond
    obtain ⟨-, -, -, ends, -⟩ := ready.expressible.next (by omega)
    have whole := (Nat.dvd_add_right ready.aligned).mp ends
    have atLeast := Nat.le_of_dvd ready.avail whole
    omega
  have len := ready.len
  exact ⟨by omega, take_range'_append_of_le _ fits⟩

theorem whole (ready : cursor.Ready (2 ^ exponent)) (long : 2 ^ exponent < cursor.remaining) :
    cursor.len = 2 ^ exponent ∧ 2 ^ exponent ≤ cursor.entryAvail := by
  have reaches : 2 ^ exponent ≤ cursor.entryAvail := by
    by_contra short
    obtain ⟨-, -, -, ends, -⟩ := ready.expressible.next (by omega)
    have whole := (Nat.dvd_add_right ready.aligned).mp ends
    have atLeast := Nat.le_of_dvd ready.avail whole
    omega
  have len := ready.len
  exact ⟨by omega, reaches⟩

theorem next (ready : cursor.Ready (2 ^ exponent)) (long : 2 ^ exponent < cursor.remaining) :
    ∃ next, cursor.advance (2 ^ exponent) = .ok next ∧ next.Ready (2 ^ exponent) ∧
      next.remaining = cursor.remaining - 2 ^ exponent ∧
      cursor.bytes = List.range' cursor.dmaAddr (2 ^ exponent) ++ next.bytes := by
  obtain ⟨len, reaches⟩ := ready.whole long
  have boundary : 2 ^ exponent ∣ cursor.dmaAddr + cursor.len := by
    rw [len]
    exact Nat.dvd_add ready.aligned (Nat.dvd_refl _)
  have advanced := advance_ready ready.expressible (by omega) (by omega) boundary
  rwa [len] at advanced

/-- A walk from a boundary on writes a descriptor for every chunk that is left, and
the device reads the bytes that are left from them. -/
theorem walks (ready : cursor.Ready (2 ^ exponent)) :
    ∃ addresses, cursor.Walks (2 ^ exponent) addresses ∧
      addresses.length = divRoundUp cursor.remaining (2 ^ exponent) ∧
      laterBytes (2 ^ exponent) addresses cursor.remaining = cursor.bytes := by
  have positive := Nat.two_pow_pos exponent
  induction remainingEq : cursor.remaining using Nat.strong_induction_on
    generalizing cursor with
  | _ remaining ih =>
    subst remainingEq
    rw [divRoundUp_eq_succ positive ready.pending]
    by_cases long : 2 ^ exponent < cursor.remaining
    · obtain ⟨next, advanced, nextReady, left, bytes⟩ := ready.next long
      obtain ⟨addresses, rest, count, read⟩ := ih next.remaining (by omega) nextReady rfl
      have shorter : cursor.len < cursor.remaining := by
        rw [(ready.whole long).1]
        exact long
      refine ⟨_, .more shorter advanced rest, ?_, ?_⟩
      · rw [List.length_cons, count, left, Nat.add_comm]
      · rw [laterBytes, Nat.min_eq_left (Nat.le_of_lt long), ← left, read, bytes]
    · obtain ⟨len, bytes⟩ := ready.last (by omega)
      refine ⟨_, .last ready.pending len, ?_, ?_⟩
      · rw [Nat.sub_eq_zero_of_le (by omega), divRoundUp_zero positive]
        rfl
      · rw [bytes, laterBytes, laterBytes, Nat.min_eq_right (by omega), List.append_nil]

end Ready

end DescCursor

/-! ## The first descriptor -/

section Start

variable {exponent intraOff size : Nat} {entry : SgEntry} {rest : List SgEntry}

theorem DescCursor.start_len :
    (start entry rest intraOff size (2 ^ exponent)).len =
      min (min (toBoundary (2 ^ exponent) (entry.address + intraOff))
        (entry.length - intraOff)) size := by
  simp only [start, mxPrpFirstChunkLen, prpChunkLenAt_two_pow]
  omega

/-- A slice that ends in its first chunk lies in its first entry. -/
theorem Expressible.first_chunk {dmaSize address avail : Nat} (positive : 0 < dmaSize)
    (expressible : Expressible dmaSize address avail rest size) (nonempty : 0 < avail) :
    min (toBoundary dmaSize address) size ≤ avail := by
  by_contra short
  obtain ⟨-, -, -, ends, -⟩ := expressible.next (by omega)
  have reaches := (dvd_sub_toBoundary positive ends nonempty).1
  omega

variable (expressible : Expressible (2 ^ exponent) (entry.address + intraOff)
  (entry.length - intraOff) rest size)

include expressible

/-- After the first descriptor the walk stands on a boundary. -/
theorem DescCursor.start_advance (inside : intraOff < entry.length)
    (long : toBoundary (2 ^ exponent) (entry.address + intraOff) < size) :
    (start entry rest intraOff size (2 ^ exponent)).len =
        toBoundary (2 ^ exponent) (entry.address + intraOff) ∧
      ∃ next, (start entry rest intraOff size (2 ^ exponent)).advance (2 ^ exponent) =
          .ok next ∧ next.Ready (2 ^ exponent) ∧
        next.remaining = size - toBoundary (2 ^ exponent) (entry.address + intraOff) ∧
        (start entry rest intraOff size (2 ^ exponent)).bytes =
          List.range' (entry.address + intraOff)
            (toBoundary (2 ^ exponent) (entry.address + intraOff)) ++ next.bytes := by
  have positive := Nat.two_pow_pos exponent
  have reaches := expressible.first_chunk positive (Nat.sub_pos_of_lt inside)
  have len : (start entry rest intraOff size (2 ^ exponent)).len =
      toBoundary (2 ^ exponent) (entry.address + intraOff) := by
    rw [start_len]
    omega
  have within : (start entry rest intraOff size (2 ^ exponent)).len ≤
      entry.length - intraOff := by omega
  have boundary : 2 ^ exponent ∣ entry.address + intraOff +
      (start entry rest intraOff size (2 ^ exponent)).len := by
    rw [len]
    exact dvd_add_toBoundary positive
  have advanced := @advance_ready exponent (start entry rest intraOff size (2 ^ exponent))
    expressible within (by rw [len]; exact long) boundary
  rw [len] at advanced
  exact ⟨len, advanced⟩

/-- A whole walk writes a descriptor for every chunk of the slice, and the device
reads the slice back from them. -/
theorem DescCursor.start_walks (inside : intraOff < entry.length) (nonempty : 0 < size) :
    ∃ addresses, (start entry rest intraOff size (2 ^ exponent)).Walks (2 ^ exponent)
        ((entry.address + intraOff) :: addresses) ∧
      addresses.length + 1 = chunkCount (2 ^ exponent) (entry.address + intraOff) size ∧
      prpBytes (2 ^ exponent) ((entry.address + intraOff) :: addresses) size =
        (start entry rest intraOff size (2 ^ exponent)).bytes := by
  have positive := Nat.two_pow_pos exponent
  by_cases long : toBoundary (2 ^ exponent) (entry.address + intraOff) < size
  · obtain ⟨len, next, advanced, ready, left, bytes⟩ :=
      start_advance expressible inside long
    obtain ⟨addresses, walks, count, read⟩ := ready.walks
    refine ⟨addresses, .more (by rw [len]; exact long) advanced walks, ?_, ?_⟩
    · rw [count, left, chunkCount, Nat.add_comm]
    · rw [prpBytes, ← left, read, bytes, Nat.min_eq_left (Nat.le_of_lt long)]
  · have reaches := expressible.first_chunk positive (Nat.sub_pos_of_lt inside)
    have len : (start entry rest intraOff size (2 ^ exponent)).len = size := by
      rw [start_len]
      omega
    refine ⟨[], .last nonempty len, ?_, ?_⟩
    · rw [chunkCount_of_le positive (by omega)]
      rfl
    · rw [prpBytes, laterBytes, List.append_nil, Nat.min_eq_right (by omega)]
      have fits : size ≤ entry.length - intraOff := by omega
      exact (take_range'_append_of_le _ fits).symm

end Start

end MxDriver
