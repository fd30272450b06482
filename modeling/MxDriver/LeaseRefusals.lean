import MxDriver.LeaseProofEffects

/-!
# A refused operation leaves no trace

A call of the lease state machine that returns an error has written nothing through its
pointers, whatever the state it was given.  The start of a direct operation takes its
admission back when the proofs are refused; the proofs of a caller without a profile are
never refused, so there is no legacy registration to take back.
-/

namespace MxDriver

variable {φ : Type*}

/-- If the call returned an error, it has left the state machine and the holder. -/
def SmOutcome.Inert (sm : LeaseSm) (holder : LeaseSmHolder) (outcome : SmOutcome) : Prop :=
  outcome.ret ≠ none → outcome.sm = sm ∧ outcome.holder = holder

section Effects

variable {sm : LeaseSm} {holder : LeaseSmHolder} {outcome : SmOutcome}

theorem AcquireEffect.inert {profile : LeaseProfile}
    (effect : AcquireEffect sm holder profile outcome) : outcome.Inert sm holder := by
  cases effect with
  | refused error => exact fun _ => ⟨rfl, rfl⟩
  | found profiled same => exact fun _ => ⟨rfl, rfl⟩
  | granted => exact fun failed => (failed rfl).elim

theorem TransitionEffect.inert {activeDirect activeTransfers barMappings : Nat}
    {slotDomainAnchored : Bool}
    (effect : TransitionEffect sm holder activeDirect activeTransfers barMappings
      slotDomainAnchored outcome) : outcome.Inert sm holder := by
  cases effect with
  | refused error => exact fun _ => ⟨rfl, rfl⟩
  | moved => exact fun failed => (failed rfl).elim

theorem AuthorizeEffect.inert (effect : AuthorizeEffect sm holder outcome) :
    outcome.Inert sm holder := by
  cases effect with
  | refused error => exact fun _ => ⟨rfl, rfl⟩
  | admitted entitled => exact fun _ => ⟨rfl, rfl⟩
  | enlisted => exact fun failed => (failed rfl).elim

end Effects

theorem mxLeaseSmAdmitDirect_inert (sm : LeaseSm) (holder : LeaseSmHolder) (anchored : Bool)
    (activeDirect : Nat) :
    (mxLeaseSmAdmitDirect sm holder anchored activeDirect).1.ret ≠ none →
      (mxLeaseSmAdmitDirect sm holder anchored activeDirect).1.sm = sm ∧
        (mxLeaseSmAdmitDirect sm holder anchored activeDirect).1.holder = holder ∧
          (mxLeaseSmAdmitDirect sm holder anchored activeDirect).2 = activeDirect := by
  have inert := (mxLeaseSmAuthorizeDirectAnchored_effect sm holder anchored).1.inert
  unfold mxLeaseSmAdmitDirect
  split
  · exact fun _ => ⟨rfl, rfl, rfl⟩
  · dsimp only
    split
    · rename_i refused
      exact fun _ => ⟨(inert refused).1, (inert refused).2, rfl⟩
    · rename_i admitted
      exact fun refused => (admitted refused).elim

theorem DirectBeginEffect.inert {device : DeviceLease} {ctx : FileCtx φ}
    {result : Ret × DeviceLease × FileCtx φ} (effect : DirectBeginEffect device ctx result)
    (bounded : ctx.directCount ≤ u32Max) (refused : result.1 ≠ none) :
    result.2 = (device, ctx) := by
  cases effect with
  | refused error => rfl
  | retracted error room profiled =>
    dsimp only
    rw [mxLeaseSmReleaseDirect_incU32 bounded room]
  | admitted => exact (refused rfl).elim

/-- Whatever the state machine refuses leaves its state and the holder as they were, and
so does a direct operation that is turned away, with its count. -/
theorem refused_operation_inert :
    (∀ sm holder profile, (mxLeaseSmAcquire sm holder profile).Inert sm holder) ∧
      (∀ sm holder operation activeDirect activeTransfers barMappings slotDomainAnchored,
        (mxLeaseSmTransition sm holder operation activeDirect activeTransfers barMappings
          slotDomainAnchored).Inert sm holder) ∧
      (∀ sm holder, (mxLeaseSmAuthorizeDirect sm holder).Inert sm holder) ∧
      (∀ sm holder anchored,
        (mxLeaseSmAuthorizeDirectAnchored sm holder anchored).Inert sm holder) ∧
      (∀ sm holder anchored activeDirect,
        (mxLeaseSmAdmitDirect sm holder anchored activeDirect).1.ret ≠ none →
          (mxLeaseSmAdmitDirect sm holder anchored activeDirect).1.sm = sm ∧
            (mxLeaseSmAdmitDirect sm holder anchored activeDirect).1.holder = holder ∧
              (mxLeaseSmAdmitDirect sm holder anchored activeDirect).2 = activeDirect) ∧
      ∀ (device : DeviceLease) (ctx : FileCtx φ), ctx.directCount ≤ u32Max →
        (mxLeaseDirectBegin device ctx).1 ≠ none →
          (mxLeaseDirectBegin device ctx).2 = (device, ctx) := by
  refine ⟨?_, ?_, ?_, ?_, mxLeaseSmAdmitDirect_inert, ?_⟩
  · intro sm holder profile
    exact (mxLeaseSmAcquire_effect sm holder profile).inert
  · intro sm holder operation activeDirect activeTransfers barMappings slotDomainAnchored
    exact (mxLeaseSmTransition_effect sm holder operation activeDirect activeTransfers barMappings
      slotDomainAnchored).inert
  · intro sm holder
    exact (mxLeaseSmAuthorizeDirect_effect sm holder).inert
  · intro sm holder anchored
    exact (mxLeaseSmAuthorizeDirectAnchored_effect sm holder anchored).1.inert
  · intro device ctx bounded refused
    exact (mxLeaseDirectBegin_effect device ctx).inert bounded refused

/-- A coordinator that has not proved its slot. -/
def unprovenCtx : FileCtx Unit :=
  { cdev := .ioctl
    lease := { profile := .coordinatorControl, phase := .workload }
    directCount := 2 }

theorem refused_operation_inert_unproven :
    (mxLeaseDirectBegin { deviceIncarnation := 7 } unprovenCtx).1 = some .eacces ∧
      (mxLeaseDirectBegin { deviceIncarnation := 7 } unprovenCtx).2 =
        ({ deviceIncarnation := 7 }, unprovenCtx) := by
  obtain ⟨-, -, -, -, -, direct⟩ := refused_operation_inert (φ := Unit)
  exact ⟨rfl, direct { deviceIncarnation := 7 } unprovenCtx (by decide) (by decide)⟩

end MxDriver
