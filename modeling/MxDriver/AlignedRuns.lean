import Mathlib.Data.List.Chain
import Mathlib.Tactic.Common

/-!
# Runs of addresses that meet on boundaries

Memory is described by runs of addresses, and a consumer that is told addresses but no
lengths needs each run but the last to end on a boundary and each but the first to start
on one.  Merging neighbours into longer runs elsewhere keeps that, as long as the place of
each run within its boundary is kept.
-/

namespace MxDriver

/-- A run of addresses. -/
structure AddressRun where
  address : Nat
  length : Nat
  deriving DecidableEq, Repr

namespace AddressRun

/-- The addresses of the runs, one after the other. -/
def bytes (runs : List AddressRun) : List Nat :=
  runs.flatMap fun run => List.range' run.address run.length

def totalLength : List AddressRun → Nat
  | [] => 0
  | run :: runs => run.length + totalLength runs

/-- One run ends and the next one starts on a boundary. -/
def Meet (size : Nat) (run next : AddressRun) : Prop :=
  size ∣ run.address + run.length ∧ size ∣ next.address

/-- Runs that stand for others: each stands for one or more neighbours, is as long as they
are together, and is placed as the first of them. -/
inductive Stands (placed : Nat → Nat → Prop) (most : Nat) :
    List AddressRun → List AddressRun → Prop
  | nil : Stands placed most [] []
  | cons {run first : AddressRun} {more rest runs : List AddressRun}
      (place : placed run.address first.address)
      (length : run.length = totalLength (first :: more))
      (merged : more ≠ [] → run.length ≤ most) (later : Stands placed most rest runs) :
      Stands placed most (first :: (more ++ rest)) (run :: runs)

variable {size most : Nat} {placed : Nat → Nat → Prop} {runs others : List AddressRun}

theorem Stands.alone {run first : AddressRun} (place : placed run.address first.address)
    (length : run.length = first.length) (later : Stands placed most others runs) :
    Stands placed most (first :: others) (run :: runs) :=
  @Stands.cons placed most run first [] others runs place (by simpa [totalLength] using length)
    (fun more => (more rfl).elim) later

/-- Runs that meet make up one that ends where the last of them does. -/
theorem dvd_of_chain {first next : AddressRun} {more rest : List AddressRun}
    (meet : (first :: (more ++ next :: rest)).IsChain (Meet size)) :
    size ∣ first.address + totalLength (first :: more) ∧ size ∣ next.address := by
  induction more generalizing first with
  | nil =>
    obtain ⟨⟨ends, starts⟩, -⟩ := List.isChain_cons_cons.mp meet
    exact ⟨by simpa [totalLength] using ends, starts⟩
  | cons second more ih =>
    obtain ⟨⟨ends, starts⟩, later⟩ := List.isChain_cons_cons.mp meet
    obtain ⟨endsLater, startsLater⟩ := ih later
    refine ⟨?_, startsLater⟩
    -- `second` starts on a boundary, so all from there on is whole
    have whole := (Nat.dvd_add_right starts).mp endsLater
    rw [totalLength, ← Nat.add_assoc]
    exact Nat.dvd_add ends whole

/-- The runs that stand for others meet on boundaries if the others do. -/
theorem Stands.meet (stands : Stands placed most others runs)
    (keeps : ∀ here there, placed here there → here % size = there % size)
    (meet : others.IsChain (Meet size)) : runs.IsChain (Meet size) := by
  induction stands with
  | nil => exact .nil
  | @cons run first more rest runs place length merged later ih =>
    have rests : rest.IsChain (Meet size) :=
      (List.isChain_cons.mp meet).2.right_of_append
    cases later with
    | nil => exact List.isChain_singleton run
    | @cons next second others rest runs placeNext lengthNext mergedNext laterNext =>
      refine List.isChain_cons_cons.mpr ⟨?_, ih rests⟩
      obtain ⟨ends, starts⟩ := dvd_of_chain meet
      rw [Nat.dvd_iff_mod_eq_zero] at ends starts
      constructor
      · rw [Nat.dvd_iff_mod_eq_zero, length, Nat.add_mod, keeps _ _ place, ← Nat.add_mod]
        exact ends
      · rw [Nat.dvd_iff_mod_eq_zero, keeps _ _ placeNext]
        exact starts

/-- A run is no longer than the longest of the others or than the limit of merging. -/
theorem Stands.length_le {cap : Nat} (stands : Stands placed most others runs)
    (capped : ∀ run ∈ others, run.length ≤ cap) : ∀ run ∈ runs, run.length ≤ max cap most := by
  induction stands with
  | nil => simp
  | @cons run first more rest runs place length merged later ih =>
    obtain ⟨firstCapped, others⟩ := List.forall_mem_cons.mp capped
    refine List.forall_mem_cons.mpr
      ⟨?_, ih fun run among => others run (List.mem_append_right more among)⟩
    by_cases single : more = []
    · subst single
      simp only [totalLength, Nat.add_zero] at length
      omega
    · have limited := merged single
      omega

end AddressRun

end MxDriver
