import MxDriver.ResourceLedger

/-!
# Resources that are marked when they are taken

A program notes for each resource whether it has it, takes a resource only once, and gives
back what it has noted.  Whoever takes resources in the order of a rank finds those of a
higher rank free.
-/

namespace MxDriver

/-- The resources that are held, and the notes on them. -/
structure Holdings (ρ : Type*) where
  ledger : Ledger ρ := {}
  marks : ρ → Bool := fun _ => false

namespace Holdings

variable {ρ : Type*} [DecidableEq ρ]

def acquire (holdings : Holdings ρ) (resource : ρ) : Holdings ρ where
  ledger := holdings.ledger.take resource 1
  marks := Function.update holdings.marks resource true

/-- Give back a resource that is marked. -/
def release (holdings : Holdings ρ) (resource : ρ) : Holdings ρ :=
  if holdings.marks resource then
    { ledger := holdings.ledger.give resource 1
      marks := Function.update holdings.marks resource false }
  else holdings

/-- The marks say what is held. -/
def Balanced (holdings : Holdings ρ) : Prop :=
  holdings.ledger.Holds fun resource => (holdings.marks resource).toNat

/-- The resources from a rank on are not marked. -/
def FreeFrom (rank : ρ → Nat) (least : Nat) (holdings : Holdings ρ) : Prop :=
  ∀ resource, least ≤ rank resource → holdings.marks resource = false

variable {holdings : Holdings ρ} {resource other : ρ} {rank : ρ → Nat} {least : Nat}

omit [DecidableEq ρ] in
theorem balanced_empty : ({} : Holdings ρ).Balanced := ⟨rfl, rfl⟩

theorem Balanced.acquire (balanced : holdings.Balanced) (free : holdings.marks resource = false) :
    (holdings.acquire resource).Balanced := by
  refine (balanced.take resource 1).congr fun other => ?_
  by_cases same : other = resource
  · subst same
    simp [Holdings.acquire, free]
  · simp [Holdings.acquire, same]

theorem release_marks (holdings : Holdings ρ) (resource : ρ) :
    (holdings.release resource).marks = Function.update holdings.marks resource false := by
  rw [release]
  split
  · rfl
  · rename_i unmarked
    rw [Bool.not_eq_true] at unmarked
    rw [← unmarked, Function.update_eq_self]

theorem Balanced.release (balanced : holdings.Balanced) (resource : ρ) :
    (holdings.release resource).Balanced := by
  rw [Holdings.release]
  split
  · rename_i marked
    refine (balanced.give (by simp [marked])).congr fun other => ?_
    by_cases same : other = resource
    · subst same
      simp [marked]
    · simp [same]
  · exact balanced

theorem FreeFrom.acquire (free : FreeFrom rank least holdings) (ordered : least ≤ rank resource) :
    FreeFrom rank (rank resource + 1) (holdings.acquire resource) := by
  intro other higher
  have different : other ≠ resource := by
    rintro rfl
    omega
  simp only [Holdings.acquire, Function.update_of_ne different]
  exact free other (by omega)

omit [DecidableEq ρ] in
theorem Balanced.held_eq_zero (balanced : holdings.Balanced)
    (unmarked : holdings.marks resource = false) : holdings.ledger.held resource = 0 := by
  simp [Ledger.Holds.held balanced, unmarked]

end Holdings

end MxDriver
