import MxDriver.IndexedTally
import Mathlib.Algebra.Order.BigOperators.Group.Finset

/-!
# Who holds how many references

Every holder of a family names the objects it holds a reference to, one entry
for each reference.  The references to one object are then a sum over the
family, which moves with the entries of the one holder that changes.  A
reference counter is balanced when it equals the sums of all families.
-/

namespace MxDriver

variable {ι α ρ : Type*} [Fintype ι] [DecidableEq ρ]

/-- The references to `object` held by the members of a family. -/
def holdings (held : α → List ρ) (family : ι → α) (object : ρ) : Nat :=
  ∑ index, (held (family index)).count object

section Holdings

variable {held : α → List ρ} {family : ι → α} {object : ρ}

theorem count_le_holdings (held : α → List ρ) (family : ι → α) (object : ρ)
    (index : ι) : (held (family index)).count object ≤ holdings held family object :=
  Finset.single_le_sum (f := fun other => (held (family other)).count object)
    (fun _ _ => Nat.zero_le _) (Finset.mem_univ index)

theorem holdings_pos {index : ι} (holds : object ∈ held (family index)) :
    0 < holdings held family object :=
  (List.count_pos_iff.mpr holds).trans_le
    (count_le_holdings held family object index)

theorem not_mem_of_holdings_eq_zero (none : holdings held family object = 0)
    (index : ι) : object ∉ held (family index) := by
  intro holds
  have positive := holdings_pos holds
  omega

theorem holdings_eq_zero (empty : ∀ index, object ∉ held (family index)) :
    holdings held family object = 0 :=
  Finset.sum_eq_zero fun index _ => List.count_eq_zero.mpr (empty index)

theorem holdings_update [DecidableEq ι] (held : α → List ρ) (family : ι → α)
    (index : ι) (value : α) (object : ρ) :
    holdings held (Function.update family index value) object +
        (held (family index)).count object =
      holdings held family object + (held value).count object :=
  sum_update_add (fun member => (held member).count object) family index value

end Holdings

end MxDriver
