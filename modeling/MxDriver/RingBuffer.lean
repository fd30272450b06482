import Mathlib.Data.List.Basic
import Mathlib.Data.Nat.Bits
import Mathlib.Order.Interval.Finset.Nat

/-!
# Positions of a ring buffer

A ring of `depth` slots carries a sequence that only grows: the entry at
position `n` of the sequence is kept in slot `n % depth`.  A pointer into the
ring is the slot of a position, and a bit that flips each time the pointer
wraps is the parity of the lap the position lies in.  Two positions that are
less than `depth` apart are in different slots, which is all that keeps an
entry from being overwritten.
-/

namespace MxDriver

variable {α : Type*} {depth position other : Nat}

/-- The slot after `slot`. -/
def wrapSucc (depth slot : Nat) : Nat :=
  if slot + 1 = depth then 0 else slot + 1

/-- Whether a position lies in an odd lap of the ring. -/
def oddLap (depth position : Nat) : Bool :=
  (position / depth).bodd

section Positions

theorem wrapSucc_mod (positive : 0 < depth) :
    wrapSucc depth (position % depth) = (position + 1) % depth := by
  have inside := Nat.mod_lt position positive
  have sameSlot : (position + 1) % depth = (position % depth + 1) % depth :=
    (Nat.mod_add_mod position depth 1).symm
  rw [sameSlot, wrapSucc]
  split
  · rename_i last
    rw [last, Nat.mod_self]
  · rw [Nat.mod_eq_of_lt (by omega : position % depth + 1 < depth)]

/-- Slots before the end of the ring follow one another without a wrap. -/
theorem add_mod_of_inside {count : Nat} (inside : position % depth + count < depth) :
    (position + count) % depth = position % depth + count := by
  rw [← Nat.mod_add_mod, Nat.mod_eq_of_lt inside]

/-- Positions less than a whole lap apart share a slot only when they are the
same position. -/
theorem mod_eq_mod_iff_of_le (ordered : position ≤ other) (near : other < position + depth) :
    other % depth = position % depth ↔ other = position := by
  constructor
  · intro sameSlot
    exact Nat.mod_injOn_Ico position depth
      (by simp only [Finset.coe_Ico, Set.mem_Ico]; omega)
      (by simp only [Finset.coe_Ico, Set.mem_Ico]; omega) sameSlot
  · rintro rfl
    rfl

/-- A ring that keeps one slot free is full when the slot after its tail is
the slot of its head. -/
theorem succ_mod_ne_iff (ordered : position ≤ other) (near : other < position + depth) :
    (other % depth + 1) % depth ≠ position % depth ↔ other + 1 < position + depth := by
  rw [Nat.mod_add_mod]
  by_cases full : other + 1 = position + depth
  · rw [full, Nat.add_mod_right]
    simp
  · rw [ne_eq, mod_eq_mod_iff_of_le (by omega) (by omega)]
    omega

/-- Two positions at most a lap apart are in the same lap or in consecutive
ones, and their distance is that of their slots, or a depth more. -/
theorem laps_of_near (positive : 0 < depth) (ordered : position ≤ other)
    (near : other ≤ position + depth) :
    oddLap depth other = oddLap depth position ∧
        other % depth + position = position % depth + other ∨
      oddLap depth other = !oddLap depth position ∧
        other % depth + depth + position = position % depth + other := by
  have inside := Nat.mod_lt position positive
  have split := Nat.div_add_mod position depth
  by_cases sameLap : position % depth + (other - position) < depth
  · have other_eq : other =
        (position % depth + (other - position)) + depth * (position / depth) := by
      omega
    left
    rw [oddLap, oddLap, other_eq, Nat.add_mul_div_left _ _ positive, Nat.add_mul_mod_self_left,
      Nat.div_eq_of_lt sameLap, Nat.mod_eq_of_lt sameLap, Nat.zero_add]
    exact ⟨rfl, by omega⟩
  · have nextLap : position % depth + (other - position) - depth < depth := by omega
    have other_eq : other = (position % depth + (other - position) - depth) +
        depth * (position / depth + 1) := by
      rw [Nat.mul_add, Nat.mul_one]
      omega
    right
    rw [oddLap, oddLap, other_eq, Nat.add_mul_div_left _ _ positive, Nat.add_mul_mod_self_left,
      Nat.div_eq_of_lt nextLap, Nat.mod_eq_of_lt nextLap, Nat.zero_add, Nat.bodd_succ]
    refine ⟨rfl, ?_⟩
    rw [Nat.mul_add, Nat.mul_one]
    omega

/-- A move of at most a lap changes the lap exactly when the slot does not
increase. -/
theorem oddLap_add {count : Nat} (positive : 0 < depth) (short : count ≤ depth) :
    oddLap depth (position + count) =
      if count ≠ 0 ∧ (position + count) % depth ≤ position % depth then !oddLap depth position
      else oddLap depth position := by
  have inside := Nat.mod_lt position positive
  obtain ⟨same, slots⟩ | ⟨flipped, slots⟩ :=
    laps_of_near positive (Nat.le_add_right position count) (by omega)
  · rw [if_neg (by omega), same]
  · rw [if_pos (by omega), flipped]

theorem oddLap_add_depth (positive : 0 < depth) :
    oddLap depth (position + depth) = !oddLap depth position := by
  rw [oddLap_add positive le_rfl, Nat.add_mod_right, if_pos ⟨positive.ne', le_rfl⟩]

theorem oddLap_succ (positive : 0 < depth) :
    oddLap depth (position + 1) =
      if position % depth + 1 = depth then !oddLap depth position
      else oddLap depth position := by
  have wraps : 1 ≠ 0 ∧ (position + 1) % depth ≤ position % depth ↔
      position % depth + 1 = depth := by
    rw [← wrapSucc_mod positive, wrapSucc]
    split <;> omega
  rw [oddLap_add positive positive]
  simp only [wraps]

theorem oddLap_of_lt (first : position < depth) : oddLap depth position = false := by
  rw [oddLap, Nat.div_eq_of_lt first]
  rfl

end Positions

/-- The slots hold the entries of a sequence from position `start` on. -/
def RingHolds (depth : Nat) (ring : Nat → α) (entries : List α) (start : Nat) : Prop :=
  ∀ position (inside : position < entries.length), start ≤ position →
    ring (position % depth) = entries[position]

section Contents

variable {ring : Nat → α} {entries : List α} {entry : α} {start start' : Nat}

theorem ringHolds_nil : RingHolds depth ring [] start := by
  intro position inside
  simp at inside

theorem RingHolds.later (holds : RingHolds depth ring entries start) (ordered : start ≤ start') :
    RingHolds depth ring entries start' :=
  fun position inside after => holds position inside (ordered.trans after)

theorem RingHolds.of_append {more : List α} (holds : RingHolds depth ring (entries ++ more) start) :
    RingHolds depth ring entries start := by
  intro position inside after
  have longer : position < (entries ++ more).length :=
    inside.trans_le (List.prefix_append entries more).length_le
  rw [holds position longer after, List.getElem_append_left inside]

/-- Writing the slot of the next position leaves the held entries alone as
long as a slot is free. -/
theorem RingHolds.write (holds : RingHolds depth ring entries start)
    (room : entries.length < start + depth) :
    RingHolds depth (Function.update ring (entries.length % depth) entry) entries start := by
  intro position inside after
  rw [Function.update_of_ne, holds position inside after]
  intro sameSlot
  have := (mod_eq_mod_iff_of_le inside.le (by omega)).mp sameSlot.symm
  omega

theorem RingHolds.append (holds : RingHolds depth ring entries start)
    (written : ring (entries.length % depth) = entry) :
    RingHolds depth ring (entries ++ [entry]) start := by
  intro position inside after
  by_cases old : position < entries.length
  · rw [List.getElem_append_left old, holds position old after]
  · have atEnd : position = entries.length := by
      simp only [List.length_append, List.length_cons, List.length_nil] at inside
      omega
    subst atEnd
    rw [written, List.getElem_concat_length rfl]

/-- Reading slots that follow one another continues the sequence. -/
theorem RingHolds.read {taken : List α} (holds : RingHolds depth ring entries start)
    (begun : start ≤ taken.length) (sofar : taken <+: entries) {count : Nat}
    (inside : taken.length % depth + count ≤ depth)
    (enough : taken.length + count ≤ entries.length) :
    taken ++ (List.range count).map (fun index => ring (taken.length % depth + index)) <+:
      entries := by
  induction count with
  | zero => simpa using sofar
  | succ count ih =>
    have before := ih (by omega) (by omega)
    have slot : taken.length % depth + count = (taken.length + count) % depth :=
      (add_mod_of_inside (by omega)).symm
    have length_eq : (taken ++ (List.range count).map
        (fun index => ring (taken.length % depth + index))).length = taken.length + count := by
      simp
    have extended := List.concat_get_prefix before (by omega)
    rw [List.range_succ, List.map_append, ← List.append_assoc, List.map_singleton, slot,
      holds (taken.length + count) (by omega) (by omega)]
    simpa only [length_eq, List.get_eq_getElem] using extended

end Contents

end MxDriver
