import Mathlib.Tactic.Common

/-!
# Machines that answer

A machine takes a request and, where the request is in order, answers it and moves on.
What its callers see is the list of its answers.  Two machines give the same
transcripts when the states of one, looked at through a view, answer as the other does.
-/

namespace MxDriver

variable {σ τ α β : Type*}

/-- The answers to a list of requests, or nothing when one of them is out of order. -/
def transcript (respond : σ → α → Option (β × σ)) : σ → List α → Option (List β)
  | _, [] => some []
  | state, request :: requests =>
    (respond state request).bind fun (answer, next) =>
      (transcript respond next requests).map (answer :: ·)

/-- A view of a machine's states under which another machine takes the same steps. -/
structure Follows (respond : σ → α → Option (β × σ)) (policy : τ → α → Option (β × τ))
    (view : σ → τ) (invariant : σ → Prop) : Prop where
  answers : ∀ state request, invariant state →
    (respond state request).map (Prod.map id view) = policy (view state) request
  keeps : ∀ state request answer next, invariant state →
    respond state request = some (answer, next) → invariant next

variable {respond : σ → α → Option (β × σ)} {policy : τ → α → Option (β × τ)}
variable {view : σ → τ} {invariant : σ → Prop}

/-- A machine that follows a policy gives the transcripts of the policy. -/
theorem Follows.transcript_eq (follows : Follows respond policy view invariant)
    (requests : List α) {state : σ} (holds : invariant state) :
    transcript respond state requests = transcript policy (view state) requests := by
  induction requests generalizing state with
  | nil => rfl
  | cons request requests ih =>
    rw [transcript, transcript, ← follows.answers state request holds]
    cases responded : respond state request with
    | none => rfl
    | some reply =>
      have kept := follows.keeps state request reply.1 reply.2 holds responded
      simp only [Option.map_some, Option.bind_some, Prod.map, ih kept, id_eq]

end MxDriver
