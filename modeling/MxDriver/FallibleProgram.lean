import Mathlib.Tactic.Common

/-!
# Sequential programs that can fail

A program takes a state, returns a value or an error, and leaves a state behind in both
cases.  Specifications say what holds when it returns and what holds when it fails, so
that the clean-up of a failed program can start from there.
-/

namespace MxDriver

/-- A program over `σ` that returns a value or fails with an error. -/
def Fallible (ε σ α : Type) : Type := σ → Except ε α × σ

namespace Fallible

variable {ε σ α β : Type}

instance : Monad (Fallible ε σ) where
  pure value := fun state => (.ok value, state)
  bind program next := fun state =>
    match program state with
    | (.ok value, state) => next value state
    | (.error error, state) => (.error error, state)

def fail (error : ε) : Fallible ε σ α := fun state => (.error error, state)

def update (change : σ → σ) : Fallible ε σ Unit := fun state => (.ok (), change state)

def read : Fallible ε σ σ := fun state => (.ok state, state)

/-- Fail when the condition holds. -/
def refuse (condition : Prop) [Decidable condition] (error : ε) : Fallible ε σ Unit :=
  if condition then fail error else pure ()

/-- Fail with the error of a call, if it returned one. -/
def check : Option ε → Fallible ε σ Unit
  | none => pure ()
  | some error => fail error

/-- Clean up when the program fails, and fail all the same. -/
def onFailure (program : Fallible ε σ α) (cleanUp : σ → σ) : Fallible ε σ α := fun state =>
  match program state with
  | (.ok value, state) => (.ok value, state)
  | (.error error, state) => (.error error, cleanUp state)

/-- Clean up whether or not the program fails. -/
def ensuring (program : Fallible ε σ α) (cleanUp : σ → σ) : Fallible ε σ α := fun state =>
  match program state with
  | (result, state) => (result, cleanUp state)

/-- Run the program for its result, which may be an error. -/
def attempt (program : Fallible ε σ α) : Fallible ε σ (Except ε α) := fun state =>
  match program state with
  | (result, state) => (.ok result, state)

/-- One run of the body for each item, up to the first that fails. -/
def forEach (body : β → Fallible ε σ Unit) : List β → Fallible ε σ Unit
  | [] => pure ()
  | item :: items => do
      body item
      forEach body items

/-! ## Results -/

theorem refuse_bind (condition : Prop) [Decidable condition] (error : ε)
    (next : Unit → Fallible ε σ β) (state : σ) :
    (refuse condition error >>= next) state =
      if condition then (.error error, state) else next () state := by
  unfold refuse
  split_ifs <;> rfl

theorem update_bind (change : σ → σ) (next : Unit → Fallible ε σ β) (state : σ) :
    (update change >>= next) state = next () (change state) :=
  rfl

theorem bind_error {program : Fallible ε σ α} {next : α → Fallible ε σ β} {state : σ} {error : ε}
    (failed : (program state).1 = .error error) : ((program >>= next) state).1 = .error error := by
  change (match program state with
    | (.ok value, state) => next value state
    | (.error error, state) => (.error error, state)).1 = _
  rcases outcome : program state with ⟨result, left⟩
  rw [outcome] at failed
  cases failed
  rfl

theorem onFailure_fst (program : Fallible ε σ α) (cleanUp : σ → σ) (state : σ) :
    (program.onFailure cleanUp state).1 = (program state).1 := by
  unfold onFailure
  rcases program state with ⟨result, left⟩
  cases result <;> rfl

/-! ## Specifications -/

/-- The program returned with `after` or failed with `failed`. -/
def Ends (after : α → σ → Prop) (failed : σ → Prop) : Except ε α × σ → Prop
  | (.ok value, state) => after value state
  | (.error _, state) => failed state

section Rules

variable {state : σ} {failed failed' : σ → Prop} {after after' : α → σ → Prop}
variable {program : Fallible ε σ α} {final : β → σ → Prop}

theorem Ends.mono {outcome : Except ε α × σ} (ends : Ends after failed outcome)
    (returns : ∀ value state, after value state → after' value state)
    (fails : ∀ state, failed state → failed' state) : Ends after' failed' outcome := by
  rcases outcome with ⟨result, left⟩
  cases result with
  | ok value => exact returns value left ends
  | error error => exact fails left ends

theorem Ends.left {outcome : Except ε α × σ} (ends : Ends (fun _ => failed) failed outcome) :
    failed outcome.2 := by
  rcases outcome with ⟨result, left⟩
  cases result with
  | ok value => exact ends
  | error error => exact ends

theorem ends_bind {next : α → Fallible ε σ β} (first : Ends after failed (program state))
    (second : ∀ value middle, after value middle → Ends final failed (next value middle)) :
    Ends final failed ((program >>= next) state) := by
  change Ends final failed (match program state with
    | (.ok value, state) => next value state
    | (.error error, state) => (.error error, state))
  rcases outcome : program state with ⟨result, left⟩
  rw [outcome] at first
  cases result with
  | ok value => exact second value left first
  | error error => exact first

theorem ends_update {change : σ → σ} {next : Unit → Fallible ε σ β}
    (rest : Ends final failed (next () (change state))) :
    Ends final failed ((update change >>= next) state) :=
  rest

theorem ends_read {next : σ → Fallible ε σ β} (rest : Ends final failed (next state state)) :
    Ends final failed ((read >>= next) state) :=
  rest

theorem ends_refuse {condition : Prop} [Decidable condition] {error : ε}
    {next : Unit → Fallible ε σ β} (refused : condition → failed state)
    (rest : ¬condition → Ends final failed (next () state)) :
    Ends final failed ((refuse condition error >>= next) state) := by
  unfold refuse
  split_ifs with holds
  · exact refused holds
  · exact rest holds

theorem ends_refuseAfter {condition : Prop} [Decidable condition] {error : ε} {cleanUp : σ → σ}
    {next : Unit → Fallible ε σ β} (refused : condition → failed (cleanUp state))
    (rest : ¬condition → Ends final failed (next () state)) :
    Ends final failed (((refuse condition error).onFailure cleanUp >>= next) state) := by
  unfold refuse
  split_ifs with holds
  · exact refused holds
  · exact rest holds

theorem ends_lastRefuse {condition : Prop} [Decidable condition] {error : ε}
    {final : Unit → σ → Prop} (refused : condition → failed state)
    (passed : ¬condition → final () state) :
    Ends final failed ((refuse condition error : Fallible ε σ Unit) state) := by
  unfold refuse
  split_ifs with holds
  · exact refused holds
  · exact passed holds

theorem ends_check {result : Option ε} {next : Unit → Fallible ε σ β}
    (refused : failed state) (rest : result = none → Ends final failed (next () state)) :
    Ends final failed ((check result >>= next) state) := by
  cases result with
  | none => exact rest rfl
  | some error => exact refused

theorem ends_checkAfter {result : Option ε} {cleanUp : σ → σ} {next : Unit → Fallible ε σ β}
    (refused : failed (cleanUp state)) (rest : result = none → Ends final failed (next () state)) :
    Ends final failed (((check result).onFailure cleanUp >>= next) state) := by
  cases result with
  | none => exact rest rfl
  | some error => exact refused

theorem ends_lastCheckAfter {result : Option ε} {cleanUp : σ → σ} {final : Unit → σ → Prop}
    (refused : failed (cleanUp state)) (passed : final () state) :
    Ends final failed ((check result : Fallible ε σ Unit).onFailure cleanUp state) := by
  cases result with
  | none => exact passed
  | some error => exact refused

theorem ends_onFailure {cleanUp : σ → σ} (ends : Ends after failed (program state))
    (cleaned : ∀ state, failed state → failed' (cleanUp state)) :
    Ends after failed' (program.onFailure cleanUp state) := by
  simp only [onFailure]
  rcases outcome : program state with ⟨result, left⟩
  rw [outcome] at ends
  cases result with
  | ok value => exact ends
  | error error => exact cleaned left ends

theorem ends_ensuring {cleanUp : σ → σ} (ends : Ends after failed (program state))
    (returns : ∀ value state, after value state → after' value (cleanUp state))
    (fails : ∀ state, failed state → failed' (cleanUp state)) :
    Ends after' failed' (program.ensuring cleanUp state) := by
  simp only [ensuring]
  rcases outcome : program state with ⟨result, left⟩
  rw [outcome] at ends
  cases result with
  | ok value => exact returns value left ends
  | error error => exact fails left ends

/-- After an attempt the error is a value like any other. -/
theorem ends_attempt {next : Except ε α → Fallible ε σ β} (ends : Ends after failed (program state))
    (returned : ∀ value middle, after value middle → Ends final failed' (next (.ok value) middle))
    (gaveUp : ∀ error middle, failed middle → Ends final failed' (next (.error error) middle)) :
    Ends final failed' ((program.attempt >>= next) state) := by
  change Ends final failed' (match program.attempt state with
    | (.ok value, state) => next value state
    | (.error error, state) => (.error error, state))
  simp only [attempt]
  rcases outcome : program state with ⟨result, left⟩
  rw [outcome] at ends
  cases result with
  | ok value => exact returned value left ends
  | error error => exact gaveUp error left ends

/-- The invariant may depend on the items that are left. -/
theorem ends_forEach {body : β → Fallible ε σ Unit} (invariant : List β → σ → Prop)
    (step : ∀ item rest state, invariant (item :: rest) state →
      Ends (fun _ => invariant rest) failed (body item state)) {items : List β}
    (start : invariant items state) :
    Ends (fun _ => invariant []) failed (forEach body items state) := by
  induction items generalizing state with
  | nil => exact start
  | cons item rest ih => exact ends_bind (step item rest state start) fun _ _ => ih

end Rules

theorem foldl_invariant {f : σ → β → σ} (invariant : List β → σ → Prop)
    (step : ∀ item rest state, invariant (item :: rest) state → invariant rest (f state item))
    {items : List β} {state : σ} (start : invariant items state) :
    invariant [] (items.foldl f state) := by
  induction items generalizing state with
  | nil => exact start
  | cons item rest ih => exact ih (step item rest state start)

end Fallible

end MxDriver
