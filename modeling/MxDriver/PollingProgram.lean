import Mathlib.Tactic.Common

/-!
# Sequential programs that poll their environment

A program runs alone on its state, except that at chosen points the environment takes a
turn.  A run is given a finite supply of turns; where the supply ends, the program is
still waiting.  So every state in which a program can be found is the result of some
supply, also for a loop that never ends.  Specifications say what holds when a program
returns and what holds while it waits.
-/

namespace MxDriver

/-- How far a program comes with a supply of turns. -/
inductive Polled (ε σ α : Type)
  | returned (value : α) (rest : List ε) (state : σ)
  | waiting (state : σ)

/-- The state that a run ends in, or has come to. -/
def Polled.state {ε σ α : Type} : Polled ε σ α → σ
  | returned _ _ state => state
  | waiting state => state

/-- The value of a program that has returned. -/
def Polled.value? {ε σ α : Type} : Polled ε σ α → Option α
  | returned value _ _ => some value
  | waiting _ => none

theorem Polled.returned_of_value {ε σ α : Type} {polled : Polled ε σ α} {value : α}
    (returns : polled.value? = some value) : ∃ rest state, polled = .returned value rest state := by
  cases polled with
  | returned value' rest state =>
    cases returns
    exact ⟨rest, state, rfl⟩
  | waiting state => cases returns

/-- A program over `σ` whose environment takes turns `ε`. -/
def Polling (ε σ α : Type) : Type := List ε → σ → Polled ε σ α

namespace Polling

variable {ε σ α β : Type}

instance : Monad (Polling ε σ) where
  pure value := fun turns state => .returned value turns state
  bind program next := fun turns state =>
    match program turns state with
    | .returned value rest state => next value rest state
    | .waiting state => .waiting state

def read : Polling ε σ σ := fun turns state => .returned state turns state

def update (change : σ → σ) : Polling ε σ Unit := fun turns state =>
  .returned () turns (change state)

/-- The environment takes a turn. -/
def turn (environment : ε → σ → σ) : Polling ε σ Unit
  | [], state => .waiting state
  | event :: rest, state => .returned () rest (environment event state)

/-- At most `count` rounds of a body that may break out of the loop. -/
def attempts (body : Polling ε σ (Option α)) : Nat → Polling ε σ (Option α)
  | 0 => pure none
  | count + 1 => do
      match ← body with
      | some value => return some value
      | none => attempts body count

/-- Rounds of a body until it breaks out of the loop, as far as `fuel` goes.  Each round
hands its local variables on to the next one. -/
def rounds (body : β → Polling ε σ (β ⊕ α)) : Nat → β → Polling ε σ α
  | 0, _ => fun _ state => .waiting state
  | fuel + 1, carried => do
      match ← body carried with
      | .inl carried => rounds body fuel carried
      | .inr value => return value

/-- Rounds without a limit.  A body that takes a turn in every round uses the supply up
before it has used the rounds. -/
def loop (body : β → Polling ε σ (β ⊕ α)) (start : β) : Polling ε σ α := fun turns state =>
  rounds body (turns.length + 1) start turns state

/-- A loop without local variables. -/
def forever (body : Polling ε σ (Option α)) : Polling ε σ α :=
  loop (fun () => do
    match ← body with
    | none => return .inl ()
    | some value => return .inr value) ()

/-! ## Specifications -/

/-- The run ended with `after` or waits with `meanwhile`. -/
def Ends (after : α → σ → Prop) (meanwhile : σ → Prop) : Polled ε σ α → Prop
  | .returned value _ state => after value state
  | .waiting state => meanwhile state

/-- From a state with `before` the program returns with `after` or waits with `meanwhile`. -/
def Meets (before : σ → Prop) (program : Polling ε σ α) (after : α → σ → Prop)
    (meanwhile : σ → Prop) : Prop :=
  ∀ turns state, before state → Ends after meanwhile (program turns state)

section Rules

variable {before before' meanwhile meanwhile' : σ → Prop} {after after' : α → σ → Prop}
variable {program : Polling ε σ α}

theorem meets_pure {value : α} (holds : ∀ state, before state → after value state) :
    Meets before (pure value : Polling ε σ α) after meanwhile :=
  fun _ state start => holds state start

theorem meets_of_false (never : ∀ state, ¬before state) : Meets before program after meanwhile :=
  fun _ state start => (never state start).elim

theorem meets_bind {next : α → Polling ε σ β} {between : α → σ → Prop} {final : β → σ → Prop}
    (first : Meets before program between meanwhile)
    (second : ∀ value, Meets (between value) (next value) final meanwhile) :
    Meets before (program >>= next) final meanwhile := by
  intro turns state start
  have reached := first turns state start
  change Ends final meanwhile (match program turns state with
    | .returned value rest state => next value rest state
    | .waiting state => Polled.waiting state)
  cases outcome : program turns state with
  | returned value rest middle =>
    rw [outcome] at reached
    exact second value rest middle reached
  | waiting middle =>
    rw [outcome] at reached
    exact reached

theorem meets_read {next : σ → Polling ε σ β} {final : β → σ → Prop}
    (rest : ∀ state, before state → Meets (fun now => now = state) (next state) final meanwhile) :
    Meets before (read >>= next) final meanwhile :=
  fun turns state start => rest state start turns state rfl

theorem meets_update {change : σ → σ} {next : Unit → Polling ε σ β} {final : β → σ → Prop}
    {between : σ → Prop} (changed : ∀ state, before state → between (change state))
    (rest : Meets between (next ()) final meanwhile) :
    Meets before (update change >>= next) final meanwhile :=
  fun turns state start => rest turns (change state) (changed state start)

theorem meets_turn {environment : ε → σ → σ} {next : Unit → Polling ε σ β} {final : β → σ → Prop}
    (waits : ∀ state, before state → meanwhile state)
    (stable : ∀ event state, before state → before (environment event state))
    (rest : Meets before (next ()) final meanwhile) :
    Meets before (turn environment >>= next) final meanwhile := by
  intro turns state start
  cases turns with
  | nil => exact waits state start
  | cons event turns => exact rest turns (environment event state) (stable event state start)

theorem Meets.mono (meets : Meets before program after meanwhile)
    (weaker : ∀ state, before' state → before state)
    (returns : ∀ value state, after value state → after' value state)
    (waits : ∀ state, meanwhile state → meanwhile' state) :
    Meets before' program after' meanwhile' := by
  intro turns state start
  have reached := meets turns state (weaker state start)
  cases outcome : program turns state with
  | returned value rest middle =>
    rw [outcome] at reached
    exact returns value middle reached
  | waiting middle =>
    rw [outcome] at reached
    exact waits middle reached

theorem Meets.of_eq {state : σ} (holds : before state)
    (meets : Meets before program after meanwhile) :
    Meets (fun now => now = state) program after meanwhile :=
  meets.mono (fun _ same => same ▸ holds) (fun _ _ => id) fun _ => id

theorem meets_exists {ι : Sort*} {cases : ι → σ → Prop}
    (each : ∀ index, Meets (cases index) program after meanwhile) :
    Meets (fun state => ∃ index, cases index state) program after meanwhile :=
  fun turns state ⟨index, holds⟩ => each index turns state holds

theorem meets_or (left : Meets before program after meanwhile)
    (right : Meets before' program after meanwhile) :
    Meets (fun state => before state ∨ before' state) program after meanwhile :=
  fun turns state holds => holds.elim (left turns state) (right turns state)

theorem meets_update_pure {change : σ → σ} {value : α}
    (changed : ∀ state, before state → after value (change state)) :
    Meets before (update change >>= fun _ => (pure value : Polling ε σ α)) after meanwhile :=
  meets_update changed (meets_pure fun _ holds => holds)

end Rules

section Loops

variable {body : Polling ε σ (Option α)} {invariant meanwhile : σ → Prop}
variable {after : α → σ → Prop}

/-- A round goes on with the invariant or breaks out with the result. -/
def roundPost (invariant : σ → Prop) (after : α → σ → Prop) : Option α → σ → Prop
  | none, state => invariant state
  | some value, state => after value state

theorem meets_attempts (round : Meets invariant body (roundPost invariant after) meanwhile)
    (count : Nat) :
    Meets invariant (attempts body count) (roundPost invariant after) meanwhile := by
  induction count with
  | zero => exact meets_pure fun _ holds => holds
  | succ count ih =>
    apply meets_bind round
    intro result
    cases result with
    | none => exact ih
    | some value => exact meets_pure fun _ holds => holds

section Carried

variable {carrying : β → Polling ε σ (β ⊕ α)} {carriedInvariant : β → σ → Prop}

theorem meets_rounds (round : ∀ carried, Meets (carriedInvariant carried) (carrying carried)
      (fun result state => result.elim (carriedInvariant · state) (after · state)) meanwhile)
    (waits : ∀ carried state, carriedInvariant carried state → meanwhile state)
    (fuel : Nat) (start : β) :
    Meets (carriedInvariant start) (rounds carrying fuel start) after meanwhile := by
  induction fuel generalizing start with
  | zero => exact fun _ state holds => waits start state holds
  | succ fuel ih =>
    apply meets_bind (round start)
    intro result
    cases result with
    | inl carried => exact ih carried
    | inr value => exact meets_pure fun _ holds => holds

theorem meets_loop (round : ∀ carried, Meets (carriedInvariant carried) (carrying carried)
      (fun result state => result.elim (carriedInvariant · state) (after · state)) meanwhile)
    (waits : ∀ carried state, carriedInvariant carried state → meanwhile state) (start : β) :
    Meets (carriedInvariant start) (loop carrying start) after meanwhile :=
  fun turns state holds => meets_rounds round waits (turns.length + 1) start turns state holds

end Carried

theorem meets_forever (round : Meets invariant body (roundPost invariant after) meanwhile)
    (waits : ∀ state, invariant state → meanwhile state) :
    Meets invariant (forever body) after meanwhile := by
  refine @meets_loop ε σ α Unit meanwhile after _ (fun _ => invariant) ?_ (fun _ => waits) ()
  intro _
  apply meets_bind round
  rintro (_ | value)
  · exact meets_pure fun _ holds => holds
  · exact meets_pure fun _ holds => holds

end Loops

end Polling

end MxDriver
