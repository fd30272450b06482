import Mathlib.Data.Finset.Insert
import Mathlib.Data.Fintype.Defs
import Mathlib.Logic.Relation

/-!
# Partial transition functions and the states they reach

A system of several threads is a partial transition function: an action either
takes the state to its successor or is not enabled there.  Interleavings are
the finite sequences of enabled actions, in any order.  A run may be narrowed
by a condition on each step, so that a property that only some steps can break
is stated over the runs without those steps.
-/

namespace MxDriver

variable {σ α : Type*}

/-- The states reached from `start` by enabled actions that all meet
`allowed` in the state they are taken from. -/
inductive ReachedBy (step : σ → α → Option σ) (allowed : σ → α → Prop)
    (start : σ) : σ → Prop
  | refl : ReachedBy step allowed start start
  | tail {current next : σ} {action : α} :
      ReachedBy step allowed start current → allowed current action →
        step current action = some next → ReachedBy step allowed start next

/-- The states reached from `start` by any interleaving. -/
def Reached (step : σ → α → Option σ) (start : σ) : σ → Prop :=
  ReachedBy step (fun _ _ => True) start

/-- Execute a sequence of actions, stopping at the first one not enabled. -/
def runActions (step : σ → α → Option σ) : σ → List α → Option σ
  | current, [] => some current
  | current, action :: actions =>
    (step current action).bind fun next => runActions step next actions

/-- Execute a sequence of actions, each of which has to be allowed. -/
def runAllowed (step : σ → α → Option σ) (allowed : σ → α → Prop)
    [∀ current action, Decidable (allowed current action)] : σ → List α → Option σ
  | current, [] => some current
  | current, action :: actions =>
    if allowed current action then
      (step current action).bind fun next => runAllowed step allowed next actions
    else none

section Invariants

variable {step : σ → α → Option σ} {allowed : σ → α → Prop} {start final : σ}

/-- A property of the start that every allowed step keeps holds in every state
of every run. -/
theorem ReachedBy.invariant {property : σ → Prop} (reached : ReachedBy step allowed start final)
    (initially : property start) (preserved : ∀ current action next, property current →
      allowed current action → step current action = some next →
        property next) : property final := by
  induction reached with
  | refl => exact initially
  | tail _ permitted stepped ih => exact preserved _ _ _ ih permitted stepped

theorem ReachedBy.mono {weaker : σ → α → Prop} (reached : ReachedBy step allowed start final)
    (implies : ∀ current action, allowed current action → weaker current action) :
    ReachedBy step weaker start final := by
  induction reached with
  | refl => exact .refl
  | tail _ permitted stepped ih => exact .tail ih (implies _ _ permitted) stepped

theorem ReachedBy.reached (reached : ReachedBy step allowed start final) :
    Reached step start final :=
  reached.mono fun _ _ _ => trivial

theorem ReachedBy.trans {middle : σ} (first : ReachedBy step allowed start middle)
    (second : ReachedBy step allowed middle final) : ReachedBy step allowed start final := by
  induction second with
  | refl => exact first
  | tail _ permitted stepped ih => exact .tail ih permitted stepped

theorem runActions_cons {next : σ} {action : α} {actions : List α}
    (stepped : step start action = some next) :
    runActions step start (action :: actions) = runActions step next actions := by
  rw [runActions, stepped, Option.bind_some]

theorem runActions_single {first : α} (stepped : step start first = some final) :
    runActions step start [first] = some final := by
  rw [runActions_cons stepped]
  rfl

theorem runActions_pair {middle : σ} {first second : α}
    (stepped : step start first = some middle) (again : step middle second = some final) :
    runActions step start [first, second] = some final := by
  rw [runActions_cons stepped]
  exact runActions_single again

theorem reached_of_runActions {actions : List α}
    (ran : runActions step start actions = some final) : Reached step start final := by
  induction actions generalizing start with
  | nil =>
    obtain rfl : start = final := by simpa [runActions] using ran
    exact .refl
  | cons action actions ih =>
    obtain ⟨next, stepped, rest⟩ := Option.bind_eq_some_iff.mp ran
    exact ReachedBy.trans (.tail .refl trivial stepped) (ih rest)

theorem reachedBy_of_runAllowed [∀ current action, Decidable (allowed current action)]
    {actions : List α} (ran : runAllowed step allowed start actions = some final) :
    ReachedBy step allowed start final := by
  induction actions generalizing start with
  | nil =>
    obtain rfl : start = final := by simpa [runAllowed] using ran
    exact .refl
  | cons action actions ih =>
    rw [runAllowed] at ran
    split at ran
    · rename_i permitted
      obtain ⟨next, stepped, rest⟩ := Option.bind_eq_some_iff.mp ran
      exact ReachedBy.trans (.tail .refl permitted stepped) (ih rest)
    · cases ran

end Invariants

/-! ## The states and the steps of one run -/

/-- Every state that a run comes through has the property. -/
def Throughout (step : σ → α → Option σ) (property : σ → Prop) (start : σ)
    (actions : List α) : Prop :=
  ∀ initial state, initial <+: actions → runActions step start initial = some state →
    property state

/-- Every step of a run is allowed in the state it is taken from. -/
def StepsAllowed (step : σ → α → Option σ) (allowed : σ → α → Prop) (start : σ)
    (actions : List α) : Prop :=
  ∀ initial action state, initial ++ [action] <+: actions →
    runActions step start initial = some state → allowed state action

section Prefixes

variable {step : σ → α → Option σ} {property invariant : σ → Prop}
  {allowed : σ → α → Prop} {start next final : σ} {action : α} {actions : List α}

theorem throughout_cons (stepped : step start action = some next) :
    Throughout step property start (action :: actions) ↔
      property start ∧ Throughout step property next actions := by
  constructor
  · intro holds
    refine ⟨holds [] start List.nil_prefix rfl, fun initial state front ran => ?_⟩
    apply holds (action :: initial) state (List.cons_prefix_cons.mpr ⟨rfl, front⟩)
    rwa [runActions_cons stepped]
  · rintro ⟨here, later⟩ initial state front ran
    cases initial with
    | nil =>
      obtain rfl := Option.some.inj ran
      exact here
    | cons first initial =>
      obtain ⟨rfl, behind⟩ := List.cons_prefix_cons.mp front
      rw [runActions_cons stepped] at ran
      exact later initial state behind ran

theorem stepsAllowed_cons (stepped : step start action = some next) :
    StepsAllowed step allowed start (action :: actions) ↔
      allowed start action ∧ StepsAllowed step allowed next actions := by
  constructor
  · intro holds
    refine ⟨holds [] action start ?_ rfl, fun initial other state front ran => ?_⟩
    · exact List.cons_prefix_cons.mpr ⟨rfl, List.nil_prefix⟩
    · apply holds (action :: initial) other state (List.cons_prefix_cons.mpr ⟨rfl, front⟩)
      rwa [runActions_cons stepped]
  · rintro ⟨here, later⟩ initial other state front ran
    cases initial with
    | nil =>
      obtain ⟨rfl, -⟩ := List.cons_prefix_cons.mp front
      obtain rfl := Option.some.inj ran
      exact here
    | cons first initial =>
      obtain ⟨rfl, behind⟩ := List.cons_prefix_cons.mp front
      rw [runActions_cons stepped] at ran
      exact later initial other state behind ran

/-- If allowed steps keep an invariant that implies a property, and no other step leads
to a state with the property, then the runs that have it throughout are those with only
allowed steps. -/
theorem throughout_iff_stepsAllowed (initially : invariant start)
    (implies : ∀ current, invariant current → property current)
    (kept : ∀ current action next, invariant current → step current action = some next →
      (allowed current action → invariant next) ∧ (property next → allowed current action))
    (ran : runActions step start actions = some final) :
    Throughout step property start actions ↔ StepsAllowed step allowed start actions := by
  induction actions generalizing start with
  | nil =>
    constructor
    · intro _ initial action state front _
      exact absurd (List.prefix_nil.mp front) (by simp)
    · intro _ initial state front ran
      obtain rfl := List.prefix_nil.mp front
      obtain rfl := Option.some.inj ran
      exact implies _ initially
  | cons action actions ih =>
    obtain ⟨next, stepped, rest⟩ := Option.bind_eq_some_iff.mp ran
    obtain ⟨keeps, permits⟩ := kept start action next initially stepped
    rw [throughout_cons stepped, stepsAllowed_cons stepped]
    constructor
    · rintro ⟨-, later⟩
      have permitted := permits (later [] next List.nil_prefix rfl)
      exact ⟨permitted, (ih (keeps permitted) rest).mp later⟩
    · rintro ⟨permitted, later⟩
      exact ⟨implies _ initially, (ih (keeps permitted) rest).mpr later⟩

theorem stepsAllowed_of_runAllowed [∀ current action, Decidable (allowed current action)]
    (ran : runAllowed step allowed start actions = some final) :
    StepsAllowed step allowed start actions := by
  induction actions generalizing start with
  | nil =>
    intro initial action state front _
    exact absurd (List.prefix_nil.mp front) (by simp)
  | cons action actions ih =>
    rw [runAllowed] at ran
    split at ran
    · rename_i permitted
      obtain ⟨next, stepped, rest⟩ := Option.bind_eq_some_iff.mp ran
      exact (stepsAllowed_cons stepped).mpr ⟨permitted, ih rest⟩
    · cases ran

end Prefixes

section Observers

variable {γ : Type*} {step : σ → α → Option σ} {note : σ → γ → γ}

/-- A system beside an observer, who takes note of every state it comes to. -/
def observe (step : σ → α → Option σ) (note : σ → γ → γ) (current : σ × γ) (action : α) :
    Option (σ × γ) :=
  (step current.1 action).map fun next => (next, note next current.2)

theorem observe_eq_some {current next : σ × γ} {action : α}
    (stepped : observe step note current action = some next) :
    step current.1 action = some next.1 ∧ next.2 = note next.1 current.2 := by
  obtain ⟨reached, moved, rfl⟩ := Option.map_eq_some_iff.mp stepped
  exact ⟨moved, rfl⟩

theorem ReachedBy.of_observe {allowed : σ × γ → α → Prop} {start final : σ × γ}
    (reached : ReachedBy (observe step note) allowed start final) :
    Reached step start.1 final.1 := by
  induction reached with
  | refl => exact .refl
  | tail _ _ stepped ih => exact .tail ih trivial (observe_eq_some stepped).1

end Observers

section Simulation

variable {τ β : Type*} {step : σ → α → Option σ} {abstractStep : τ → β → Option τ}

/-- If every concrete step of a run is matched by an abstract run, then the whole
run is. -/
theorem ReachedBy.simulate {allowed : σ → α → Prop} {start final : σ}
    (view : σ → τ) (reached : ReachedBy step allowed start final)
    (matched : ∀ current action next, ReachedBy step allowed start current →
      allowed current action → step current action = some next →
        Reached abstractStep (view current) (view next)) :
    Reached abstractStep (view start) (view final) := by
  induction reached with
  | refl => exact .refl
  | tail before permitted stepped ih =>
    exact ReachedBy.trans ih (matched _ _ _ before permitted stepped)

end Simulation

/-! ### The parties of concrete runs -/

/-- The parties of concrete runs: threads, contexts, files, requests.  Runs number them, and
no run has more than six of a kind. -/
inductive Party
  | zero | one | two | three | four | five
  deriving DecidableEq, Repr

instance : Fintype Party where
  elems := {.zero, .one, .two, .three, .four, .five}
  complete party := by cases party <;> decide

instance (number : Nat) : OfNat Party number where
  ofNat :=
    match number with
    | 0 => .zero
    | 1 => .one
    | 2 => .two
    | 3 => .three
    | 4 => .four
    | _ => .five

end MxDriver
