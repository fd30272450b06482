import Mathlib.Data.Fintype.Card
import Mathlib.Algebra.BigOperators.Group.Finset.Piecewise

/-!
# Tallies over an indexed family

A counter kept beside a family of records is exact when it equals the number
of records with some property.  This file counts such records and says how the
count moves when one record of the family is replaced.
-/

namespace MxDriver

variable {ι α : Type*} [Fintype ι]

/-- The number of members of an indexed family that satisfy a predicate. -/
def tally (p : α → Prop) [DecidablePred p] (family : ι → α) : Nat :=
  (Finset.univ.filter fun index => p (family index)).card

section Basic

variable {p q : α → Prop} [DecidablePred p] [DecidablePred q]
variable {family : ι → α}

theorem tally_eq_sum (p : α → Prop) [DecidablePred p] (family : ι → α) :
    tally p family = ∑ index, if p (family index) then 1 else 0 := by
  rw [tally, Finset.card_filter]

theorem tally_eq_zero_iff : tally p family = 0 ↔ ∀ index, ¬ p (family index) := by
  simp [tally, Finset.filter_eq_empty_iff]

theorem tally_ne_zero_iff : tally p family ≠ 0 ↔ ∃ index, p (family index) := by
  rw [ne_eq, tally_eq_zero_iff, not_forall_not]

theorem tally_pos {index : ι} (holds : p (family index)) : 0 < tally p family :=
  Finset.card_pos.mpr ⟨index, by simpa using holds⟩

theorem exists_of_tally_pos (positive : 0 < tally p family) : ∃ index, p (family index) := by
  obtain ⟨index, member⟩ := Finset.card_pos.mp positive
  exact ⟨index, by simpa using member⟩

theorem tally_le_tally (implies : ∀ index, p (family index) → q (family index)) :
    tally p family ≤ tally q family := by
  apply Finset.card_le_card
  intro index member
  simp only [Finset.mem_filter, Finset.mem_univ, true_and] at member ⊢
  exact implies index member

theorem tally_le_card (p : α → Prop) [DecidablePred p] (family : ι → α) :
    tally p family ≤ Fintype.card ι :=
  Finset.card_le_univ _

theorem tally_congr {β : Type*} {r : β → Prop} [DecidablePred r] {others : ι → β}
    (same : ∀ index, p (family index) ↔ r (others index)) : tally p family = tally r others := by
  rw [tally, tally, Finset.filter_congr fun index _ => same index]

theorem tally_eq_sum_toNat (weight : α → Bool) (family : ι → α) :
    tally (fun value => weight value = true) family = ∑ index, (weight (family index)).toNat := by
  rw [tally_eq_sum]
  apply Finset.sum_congr rfl
  intro index _
  cases weight (family index) <;> rfl

/-- A weight that is the sum of two weights has the sum of their tallies. -/
theorem tally_eq_add {β γ : Type*} {weight : α → Bool} {left : β → Bool} {right : γ → Bool}
    {lefts : ι → β} {rights : ι → γ} (split : ∀ index, (weight (family index)).toNat =
      (left (lefts index)).toNat + (right (rights index)).toNat) :
    tally (fun value => weight value = true) family =
      tally (fun value => left value = true) lefts +
        tally (fun value => right value = true) rights := by
  simp only [tally_eq_sum_toNat, ← Finset.sum_add_distrib]
  exact Finset.sum_congr rfl fun index _ => split index

/-- A tally of at most one has at most one member behind it. -/
theorem eq_of_tally_le_one (atMostOne : tally p family ≤ 1)
    {first second : ι} (firstHolds : p (family first)) (secondHolds : p (family second)) :
    first = second :=
  Finset.card_le_one.mp atMostOne first (by simpa using firstHolds)
    second (by simpa using secondHolds)

theorem tally_eq_one_iff : tally p family = 1 ↔ ∃! index, p (family index) := by
  rw [tally, Finset.card_eq_one]
  constructor
  · rintro ⟨index, single⟩
    refine ⟨index, ?_, ?_⟩
    · have member : index ∈ Finset.univ.filter fun i => p (family i) := by
        simp [single]
      simpa using member
    · intro other holds
      have member : other ∈ Finset.univ.filter fun i => p (family i) := by
        simpa using holds
      simpa [single] using member
  · rintro ⟨index, holds, unique⟩
    refine ⟨index, Finset.ext fun other => ?_⟩
    simp only [Finset.mem_filter, Finset.mem_univ, true_and,
      Finset.mem_singleton]
    exact ⟨fun otherHolds => unique other otherHolds, fun equal => equal ▸ holds⟩

end Basic

section Update

variable [DecidableEq ι] {p : α → Prop} [DecidablePred p]

theorem sum_update_add (weight : α → Nat) (family : ι → α) (index : ι) (value : α) :
    (∑ other, weight (Function.update family index value other)) +
        weight (family index) =
      (∑ other, weight (family other)) + weight value := by
  have composed : (fun other => weight (Function.update family index value other)) =
      Function.update (fun other => weight (family other)) index (weight value) := by
    funext other
    exact Function.apply_update (fun _ => weight) family index value other
  have split := Finset.sum_update_of_mem (Finset.mem_univ index)
    (fun other => weight (family other)) (weight value)
  have whole := Finset.sum_eq_add_sum_sdiff_singleton_of_mem (Finset.mem_univ index)
    (fun other => weight (family other))
  rw [composed, split, whole]
  omega

theorem tally_update (p : α → Prop) [DecidablePred p] (family : ι → α) (index : ι) (value : α) :
    tally p (Function.update family index value) +
        (if p (family index) then 1 else 0) =
      tally p family + (if p value then 1 else 0) := by
  simp only [tally_eq_sum]
  exact sum_update_add (fun value => if p value then 1 else 0) family index value

theorem tally_update_same (family : ι → α) (index : ι) (value : α)
    (same : p value ↔ p (family index)) :
    tally p (Function.update family index value) = tally p family := by
  have moved := tally_update p family index value
  simp only [same] at moved
  omega

theorem tally_update_enter (family : ι → α) (index : ι) (value : α)
    (before : ¬ p (family index)) (after : p value) :
    tally p (Function.update family index value) = tally p family + 1 := by
  have moved := tally_update p family index value
  simpa [before, after] using moved

theorem tally_update_leave (family : ι → α) (index : ι) (value : α)
    (before : p (family index)) (after : ¬ p value) :
    tally p (Function.update family index value) + 1 = tally p family := by
  have moved := tally_update p family index value
  simpa [before, after] using moved

/-- Two predicates that agree away from one member, who has the wider of them. -/
theorem tally_add_of_eq_elsewhere {q : α → Prop} [DecidablePred q] {family : ι → α} {index : ι}
    (holds : q (family index)) (elsewhere : ∀ other, other ≠ index →
      (p (family other) ↔ q (family other))) :
    tally p family + (if p (family index) then 0 else 1) = tally q family := by
  rw [tally_eq_sum, tally_eq_sum, ← Finset.add_sum_erase _ _ (Finset.mem_univ index),
    ← Finset.add_sum_erase Finset.univ (fun other => if q (family other) then 1 else 0)
      (Finset.mem_univ index)]
  have rest : (∑ other ∈ Finset.univ.erase index, if p (family other) then 1 else 0) =
      ∑ other ∈ Finset.univ.erase index, if q (family other) then 1 else 0 :=
    Finset.sum_congr rfl fun other member => by
      simp only [elsewhere other (Finset.ne_of_mem_erase member)]
  rw [rest, if_pos holds]
  split <;> omega

end Update

end MxDriver
