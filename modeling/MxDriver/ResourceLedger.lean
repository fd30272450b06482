import Mathlib.Logic.Function.Basic
import Mathlib.Tactic.Common

/-!
# What is taken and given back

A ledger counts how often each resource is held, and how often one was given back that
was not held.
-/

namespace MxDriver

structure Ledger (ρ : Type*) where
  held : ρ → Nat := fun _ => 0
  faults : Nat := 0

namespace Ledger

variable {ρ : Type*} [DecidableEq ρ]

def take (ledger : Ledger ρ) (resource : ρ) (amount : Nat) : Ledger ρ :=
  { ledger with held := Function.update ledger.held resource (ledger.held resource + amount) }

def give (ledger : Ledger ρ) (resource : ρ) (amount : Nat) : Ledger ρ where
  held := Function.update ledger.held resource (ledger.held resource - amount)
  faults := if ledger.held resource < amount then ledger.faults + 1 else ledger.faults

/-- The ledger holds what is expected, and nothing was given back that was not held. -/
structure Holds (ledger : Ledger ρ) (expected : ρ → Nat) : Prop where
  held : ledger.held = expected
  faults : ledger.faults = 0

variable {ledger : Ledger ρ} {expected : ρ → Nat}

theorem Holds.take (holds : ledger.Holds expected) (resource : ρ) (amount : Nat) :
    (ledger.take resource amount).Holds
      (Function.update expected resource (expected resource + amount)) where
  held := by rw [Ledger.take, holds.held]
  faults := holds.faults

theorem Holds.give (holds : ledger.Holds expected) {resource : ρ} {amount : Nat}
    (enough : amount ≤ expected resource) :
    (ledger.give resource amount).Holds
      (Function.update expected resource (expected resource - amount)) where
  held := by rw [Ledger.give, holds.held]
  faults := by
    have held : ¬ledger.held resource < amount := by rw [holds.held]; omega
    rw [Ledger.give, if_neg held]
    exact holds.faults

omit [DecidableEq ρ] in
theorem Holds.congr (holds : ledger.Holds expected) {other : ρ → Nat}
    (same : ∀ resource, expected resource = other resource) : ledger.Holds other :=
  funext same ▸ holds

end Ledger

end MxDriver
