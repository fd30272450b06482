import Mathlib.Logic.Function.Basic
import Mathlib.Tactic.Common

/-!
# Settings that are changed for a while

Somebody changes settings that belong to another, saves what they were, and restores them
in the end.  A restoration can be refused.
-/

namespace MxDriver

/-- The settings, and what was saved of those that were changed. -/
structure SavedSettings (κ ν : Type*) where
  current : κ → ν
  saved : κ → ν
  changed : κ → Bool := fun _ => false

namespace SavedSettings

variable {κ ν : Type*} [DecidableEq κ] [DecidableEq ν]

/-- Change a setting and save what it was. -/
def put (settings : SavedSettings κ ν) (key : κ) (value : ν) : SavedSettings κ ν where
  current := Function.update settings.current key value
  saved := Function.update settings.saved key (settings.current key)
  changed := Function.update settings.changed key (decide (value ≠ settings.current key))

/-- Change a setting for good. -/
def force (settings : SavedSettings κ ν) (key : κ) (value : ν) : SavedSettings κ ν :=
  { settings with current := Function.update settings.current key value }

/-- Try to restore a setting, and forget about it. -/
def restore (accepts : κ → ν → Bool) (settings : SavedSettings κ ν) (key : κ) : SavedSettings κ ν :=
  if settings.changed key then
    { settings with
      current :=
        if accepts key (settings.saved key) then
          Function.update settings.current key (settings.saved key)
        else settings.current
      changed := Function.update settings.changed key false }
  else settings

/-- A setting is as it was, or what it was is saved, or the restoration was refused. -/
structure Restorable (accepts : κ → ν → Bool) (initial : κ → ν)
    (settings : SavedSettings κ ν) (key : κ) : Prop where
  saved : settings.changed key = true → settings.saved key = initial key
  current : settings.changed key = false →
    settings.current key = initial key ∨ accepts key (initial key) = false

/-- The settings from a rank on are as they were. -/
def UntouchedFrom (rank : κ → Nat) (least : Nat) (initial : κ → ν)
    (settings : SavedSettings κ ν) : Prop :=
  ∀ key, least ≤ rank key → settings.changed key = false ∧ settings.current key = initial key

variable {accepts : κ → ν → Bool} {initial : κ → ν} {settings : SavedSettings κ ν}
  {key other : κ} {value : ν} {rank : κ → Nat} {least : Nat}

theorem Restorable.put (restorable : Restorable accepts initial settings key)
    (untouched : other = key → settings.current key = initial key) :
    Restorable accepts initial (settings.put other value) key := by
  by_cases same : key = other
  · subst same
    refine ⟨fun _ => ?_, fun unchanged => .inl ?_⟩
    · simp only [SavedSettings.put, Function.update_self]
      exact untouched rfl
    · simp only [SavedSettings.put, Function.update_self, decide_eq_false_iff_not,
        ne_eq, not_not] at unchanged ⊢
      rw [unchanged]
      exact untouched rfl
  · obtain ⟨saved, current⟩ := restorable
    constructor <;> simpa only [SavedSettings.put, Function.update_of_ne same]

omit [DecidableEq ν] in
theorem Restorable.force (restorable : Restorable accepts initial settings key)
    (different : key ≠ other) : Restorable accepts initial (settings.force other value) key := by
  obtain ⟨saved, current⟩ := restorable
  refine ⟨saved, fun unchanged => ?_⟩
  simp only [SavedSettings.force, Function.update_of_ne different]
  exact current unchanged

omit [DecidableEq ν] in
theorem Restorable.restore (restorable : Restorable accepts initial settings key) :
    Restorable accepts initial (settings.restore accepts other) key := by
  rw [SavedSettings.restore]
  split
  · rename_i wasChanged
    by_cases same : key = other
    · subst same
      refine ⟨fun marked => by simp at marked, fun _ => ?_⟩
      have saved := restorable.saved wasChanged
      cases accepted : accepts key (settings.saved key) with
      | false =>
        rw [saved] at accepted
        exact .inr accepted
      | true =>
        left
        simp [saved]
    · obtain ⟨saved, current⟩ := restorable
      refine ⟨by simpa only [Function.update_of_ne same] using saved, ?_⟩
      simp only [Function.update_of_ne same]
      intro unchanged
      split
      · rw [Function.update_of_ne same]
        exact current unchanged
      · exact current unchanged
  · exact restorable

omit [DecidableEq ν] in
theorem restore_changed (accepts : κ → ν → Bool) (settings : SavedSettings κ ν) (key : κ) :
    (settings.restore accepts key).changed = Function.update settings.changed key false := by
  rw [restore]
  split
  · rfl
  · rename_i unchanged
    rw [Bool.not_eq_true] at unchanged
    rw [← unchanged, Function.update_eq_self]

omit [DecidableEq ν] in
theorem restore_saved (accepts : κ → ν → Bool) (settings : SavedSettings κ ν) (key : κ) :
    (settings.restore accepts key).saved = settings.saved := by
  rw [restore]
  split <;> rfl

omit [DecidableEq ν] in
theorem restore_current (accepts : κ → ν → Bool) (settings : SavedSettings κ ν) (key other : κ) :
    (settings.restore accepts key).current other = settings.current other ∨
      settings.changed other = true ∧
        (settings.restore accepts key).current other = settings.saved other := by
  by_cases same : other = key
  · subst same
    rw [restore]
    split
    · rename_i wasChanged
      simp only
      split
      · exact .inr ⟨wasChanged, Function.update_self ..⟩
      · exact .inl rfl
    · exact .inl rfl
  · left
    rw [restore]
    split
    · simp only
      split
      · rw [Function.update_of_ne same]
      · rfl
    · rfl

theorem UntouchedFrom.put (untouched : UntouchedFrom rank least initial settings)
    (ordered : least ≤ rank key) :
    UntouchedFrom rank (rank key + 1) initial (settings.put key value) := by
  intro other higher
  have different : other ≠ key := by
    rintro rfl
    omega
  simp only [SavedSettings.put, Function.update_of_ne different]
  exact untouched other (by omega)

omit [DecidableEq κ] [DecidableEq ν] in
theorem UntouchedFrom.later (untouched : UntouchedFrom rank least initial settings) {more : Nat}
    (ordered : least ≤ more) : UntouchedFrom rank more initial settings :=
  fun key higher => untouched key (Nat.le_trans ordered higher)

end SavedSettings

end MxDriver
