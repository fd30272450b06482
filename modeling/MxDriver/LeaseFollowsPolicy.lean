import MxDriver.LeaseCountersRuns
import MxDriver.LeasePolicy
import MxDriver.LeaseWorkloadAdmission

/-!
# The state machine follows the policy

The counters are exact, so each of their tests is a question about the table: whether
somebody holds a profile, publishes, is quiescent or works.  With fewer file contexts
than a `u32` counts, the overflow tests never fail, and the states that the machine
calls unclean do not arise.
-/

namespace MxDriver

variable {ι θ : Type*} [Fintype ι]
variable {sm newSm : LeaseSm} {holder : ι → LeaseSmHolder} {ctx : ι}

/-- The table that the counters stand for. -/
def leaseTable (sm : LeaseSm) (holder : ι → LeaseSmHolder) : LeaseTable ι where
  holder := holder
  ready := sm.coordinatorReady

omit [Fintype ι] in
@[simp]
theorem leaseTable_holder : (leaseTable sm holder).holder = holder :=
  rfl

omit [Fintype ι] in
@[simp]
theorem leaseTable_ready : (leaseTable sm holder).ready = sm.coordinatorReady :=
  rfl

/-! ## Tests on the counters are questions about the table -/

namespace CountersExact

variable (counters : CountersExact sm holder)
include counters

theorem unmanaged_iff : (leaseTable sm holder).Unmanaged ↔ sm.legacyHolders ≠ 0 := by
  rw [counters.legacyHolders, tally_ne_zero_iff]
  rfl

theorem held_iff : (leaseTable sm holder).Held ↔ sm.familyHolders ≠ 0 := by
  rw [counters.familyHolders, tally_ne_zero_iff]
  rfl

theorem published_iff : (leaseTable sm holder).Published ↔ sm.publishers ≠ 0 := by
  rw [counters.publishers, tally_ne_zero_iff]
  rfl

theorem working_iff : (leaseTable sm holder).Working ↔ sm.workloads ≠ 0 := by
  rw [counters.workloads, tally_ne_zero_iff]
  rfl

theorem quiesced_iff : (leaseTable sm holder).Quiesced ↔ sm.quiescent = true :=
  counters.quiescent.symm

theorem publishers_ne_zero_of_quiescent (quiescent : sm.quiescent = true) : sm.publishers ≠ 0 := by
  obtain ⟨ctx, phase⟩ := counters.quiescent.mp quiescent
  exact counters.published_iff.mp ⟨ctx, counters.publishing_of_quiescent phase⟩

/-- Every holder of a profile publishes or works. -/
theorem held_iff_active : (leaseTable sm holder).Held ↔ sm.publishers ≠ 0 ∨ sm.workloads ≠ 0 := by
  rw [← counters.published_iff, ← counters.working_iff]
  constructor
  · rintro ⟨ctx, profiled⟩
    by_cases working : (holder ctx).phase = .workload
    · exact .inr ⟨ctx, working⟩
    · exact .inl ⟨ctx, (counters.holderOk ctx).publishing_of_phase profiled working⟩
  · rintro (⟨ctx, publishing⟩ | ⟨ctx, working⟩)
    · exact ⟨ctx, ne_none_of_isPublisher publishing⟩
    · have working : (holder ctx).phase = .workload := working
      exact ⟨ctx, (counters.holderOk ctx).profiled_of_phase (by simp [working])⟩

theorem idle_iff_not_held : mxLeaseSmIdle sm = true ↔ ¬ (leaseTable sm holder).Held := by
  rw [counters.idle_iff, counters.held_iff, not_not]

/-- A family is noted exactly while somebody of it holds a profile. -/
theorem heldByOther_iff {family : LeaseFamily} :
    (leaseTable sm holder).HeldByOther family ↔ sm.family ≠ .none ∧ sm.family ≠ family := by
  constructor
  · rintro ⟨ctx, profiled, other⟩
    have noted : mxLeaseProfileFamily (holder ctx).profile = sm.family :=
      counters.familyOf ctx profiled
    refine ⟨?_, noted ▸ other⟩
    exact noted ▸ family_ne_none_of_allowed (counters.holderOk ctx).phase profiled
  · rintro ⟨noted, other⟩
    obtain ⟨ctx, profiled⟩ := counters.held_iff.mpr fun nobody =>
      noted (counters.familyNone nobody)
    exact ⟨ctx, profiled, (counters.familyOf ctx profiled).symm ▸ other⟩

end CountersExact

/-! ## Judging a request -/

/-- Whoever has prepared a coordinator finds it marked as ready. -/
def PreparedReady (sm : LeaseSm) (holder : ι → LeaseSmHolder) : Prop :=
  ∀ ctx, (holder ctx).phase = .coordinatorPrepared → sm.coordinatorReady = true

/-- What the proofs need of a state: exact counters, a prepared coordinator that is
marked as such, and fewer contexts than a counter can count. -/
structure Judgeable (sm : LeaseSm) (holder : ι → LeaseSmHolder) : Prop where
  counters : CountersExact sm holder
  prepared : PreparedReady sm holder
  few : Fintype.card ι < u32Max

/-- The outcome of a transition is the one that the policy has decided on: a refusal
changes nothing, and otherwise the holder comes to the phase decided on, which is when a
coordinator becomes ready. -/
def SmOutcome.Decided (outcome : SmOutcome) (sm : LeaseSm) (moving : LeaseSmHolder) :
    Except Errno LeasePhase → Prop
  | .error error => outcome = ⟨some error, sm, moving⟩
  | .ok phase => outcome.ret = none ∧ outcome.holder = { moving with phase := phase } ∧
      outcome.sm.coordinatorReady =
        if phase = .coordinatorPrepared then true else sm.coordinatorReady

theorem mxLeaseSmRelease_gone (sm : LeaseSm) {leaving : LeaseSmHolder} (ok : HolderOk leaving) :
    (mxLeaseSmRelease sm leaving).2 = {} ∧
      (mxLeaseSmRelease sm leaving).1.coordinatorReady = sm.coordinatorReady := by
  obtain ⟨profile, phase, legacy⟩ := leaving
  have phaseNone := ok.phase_of_unprofiled
  have profileNone := ok.legacy
  cases legacy with
  | true => simp_all [mxLeaseSmRelease]
  | false =>
    by_cases unprofiled : profile = .none <;>
      simp_all [mxLeaseSmRelease, mxLeaseSmReleaseCommit]

section Transitions

variable {moving : LeaseSmHolder} {activeDirect activeTransfers barMappings : Nat}
variable {drained anchored : Bool}

theorem initializer_decided (allowed : phaseAllowed .coordinatorInitializer moving.phase = true)
    (ready : moving.phase = .coordinatorPrepared → sm.coordinatorReady = true)
    (quiescent : sm.quiescent = true ↔ moving.phase = .quiescent)
    (undrained : drained = false ↔ activeDirect ≠ 0 ∨ activeTransfers ≠ 0 ∨ barMappings ≠ 0) :
    (mxLeaseSmTransitionInitializer sm moving .activateCoordinator activeDirect activeTransfers
      barMappings anchored).Decided sm moving
        (LeaseTable.prepare drained anchored moving.phase) := by
  obtain ⟨profile, phase, legacy⟩ := moving
  simp only [mxLeaseSmTransitionInitializer, ← undrained]
  cases phase <;> try cases allowed
  case quiescent =>
      have isQuiescent : sm.quiescent = true := quiescent.mpr rfl
      cases anchored <;> cases drained <;>
        simp [SmOutcome.Decided, LeaseTable.prepare, isQuiescent]
  case coordinatorPrepared => simp [SmOutcome.Decided, LeaseTable.prepare, ready]

theorem activate_decided (room : sm.workloads ≠ u32Max)
    (quiescent : sm.quiescent = true ↔ moving.phase = .quiescent) :
    (if moving.phase = .quiescent ∧ drained = false then ⟨some .ebusy, sm, moving⟩
      else mxLeaseSmTransitionSwitch sm moving .activateWorkload).Decided sm moving
        (LeaseTable.activate drained moving.phase) := by
  obtain ⟨profile, phase, legacy⟩ := moving
  cases phase <;> cases drained <;>
    simp_all [SmOutcome.Decided, LeaseTable.activate, mxLeaseSmTransitionSwitch]

theorem replace_decided (hub : moving.profile = .hubPublisher) (room : sm.workloads ≠ u32Max) :
    (mxLeaseSmTransitionSwitch sm moving .activateReplacement).Decided sm moving
      (LeaseTable.replace moving.phase) := by
  obtain ⟨profile, phase, legacy⟩ := moving
  cases phase <;> simp_all [SmOutcome.Decided, LeaseTable.replace, mxLeaseSmTransitionSwitch]

theorem quiesce_decided {table : LeaseTable ι} (working : table.Working ↔ sm.workloads ≠ 0)
    (quiescent : sm.quiescent = true ↔ moving.phase = .quiescent) :
    (mxLeaseSmTransitionSwitch sm moving .tryQuiescent).Decided sm moving
      (table.quiesce moving.phase) := by
  obtain ⟨profile, phase, legacy⟩ := moving
  simp only [LeaseTable.quiesce, mxLeaseSmTransitionSwitch, working]
  cases phase with
  | replacementCandidate =>
    have notQuiescent : sm.quiescent = false := by simpa using quiescent
    by_cases idle : sm.workloads = 0 <;> simp [SmOutcome.Decided, idle, notQuiescent]
  | _ => simp [SmOutcome.Decided]

/-- A transition does to a holder what the table says, given what the counters say of
that holder. -/
theorem transition_decided {table : LeaseTable ι} (ok : HolderOk moving)
    (ready : moving.phase = .coordinatorPrepared → sm.coordinatorReady = true)
    (quiescent : mxLeaseProfileIsPublisher moving.profile = true →
      (sm.quiescent = true ↔ moving.phase = .quiescent))
    (working : table.Working ↔ sm.workloads ≠ 0) (room : sm.workloads ≠ u32Max)
    (undrained : drained = false ↔ activeDirect ≠ 0 ∨ activeTransfers ≠ 0 ∨ barMappings ≠ 0)
    (operation : LeaseTransitionOp) (anchored : Bool) :
    (mxLeaseSmTransition sm moving operation activeDirect activeTransfers barMappings
      anchored).Decided sm moving (table.nextPhase moving operation drained anchored) := by
  obtain ⟨allowed, legacyOnly⟩ := ok
  simp only [mxLeaseSmTransition, LeaseTable.nextPhase, ← undrained]
  cases profileEq : moving.profile with
  | none | hubWorkload | standaloneWorkload | coordinatorControl | coordinatorWorkload
  | reserved => simp [mxLeaseProfileIsPublisher, SmOutcome.Decided]
  | coordinatorInitializer =>
    have notLegacy : moving.legacy = false := by simpa [profileEq] using legacyOnly
    have quiescent := quiescent (by rw [profileEq]; rfl)
    rw [profileEq] at allowed
    cases operation with
    | activateCoordinator =>
      simpa [notLegacy, mxLeaseProfileIsPublisher] using
        initializer_decided allowed ready quiescent undrained
    | _ =>
      simp [notLegacy, mxLeaseProfileIsPublisher, mxLeaseSmTransitionInitializer,
        SmOutcome.Decided]
  | standalonePublisher =>
    have notLegacy : moving.legacy = false := by simpa [profileEq] using legacyOnly
    have publisher : mxLeaseProfileIsPublisher moving.profile = true := by rw [profileEq]; rfl
    cases operation with
    | activateWorkload =>
      simpa [notLegacy, mxLeaseProfileIsPublisher] using
        activate_decided room (quiescent publisher)
    | tryQuiescent =>
      simpa [notLegacy, mxLeaseProfileIsPublisher] using
        quiesce_decided working (quiescent publisher)
    | _ =>
      simp [notLegacy, mxLeaseProfileIsPublisher, mxLeaseSmTransitionSwitch, profileEq,
        SmOutcome.Decided]
  | hubPublisher =>
    have notLegacy : moving.legacy = false := by simpa [profileEq] using legacyOnly
    have publisher : mxLeaseProfileIsPublisher moving.profile = true := by rw [profileEq]; rfl
    cases operation with
    | activateWorkload =>
      cases anchored
      · simp [notLegacy, mxLeaseProfileIsPublisher, SmOutcome.Decided]
      · simpa [notLegacy, mxLeaseProfileIsPublisher] using
          activate_decided room (quiescent publisher)
    | tryQuiescent =>
      simpa [notLegacy, mxLeaseProfileIsPublisher] using
        quiesce_decided working (quiescent publisher)
    | activateReplacement =>
      cases anchored
      · simp [notLegacy, mxLeaseProfileIsPublisher, SmOutcome.Decided]
      · simpa [notLegacy, mxLeaseProfileIsPublisher] using replace_decided profileEq room
    | _ =>
      simp [notLegacy, mxLeaseProfileIsPublisher, mxLeaseSmTransitionSwitch,
        SmOutcome.Decided]

end Transitions

namespace Judgeable

variable (judgeable : Judgeable sm holder)
include judgeable

/-- No count of contexts reaches the limit of a counter. -/
theorem tally_ne (p : LeaseSmHolder → Prop) [DecidablePred p] : tally p holder ≠ u32Max := by
  have counted := tally_le_card p holder
  have few := judgeable.few
  omega

theorem familyHolders_ne : sm.familyHolders ≠ u32Max :=
  judgeable.counters.familyHolders ▸ judgeable.tally_ne _

theorem legacyHolders_ne : sm.legacyHolders ≠ u32Max :=
  judgeable.counters.legacyHolders ▸ judgeable.tally_ne _

theorem workloads_ne : sm.workloads ≠ u32Max :=
  judgeable.counters.workloads ▸ judgeable.tally_ne _

theorem acquirePhase_eq (profile : LeaseProfile) :
    mxLeaseSmAcquirePhase sm profile = (leaseTable sm holder).firstPhase profile := by
  have counters := judgeable.counters
  have active := counters.held_iff_active
  have publishes := counters.publishers_ne_zero_of_quiescent
  cases profile with
  | none | reserved => rfl
  | hubWorkload | standaloneWorkload =>
    simp only [mxLeaseSmAcquirePhase, LeaseTable.firstPhase, counters.quiesced_iff,
      judgeable.workloads_ne, or_false]
    split <;> simp_all
  | coordinatorControl | coordinatorWorkload =>
    simp only [mxLeaseSmAcquirePhase, LeaseTable.firstPhase, counters.quiesced_iff,
      judgeable.workloads_ne, or_false, leaseTable_ready]
    split <;> simp_all
  | standalonePublisher | coordinatorInitializer =>
    simp only [mxLeaseSmAcquirePhase, LeaseTable.firstPhase, active]
    congr 1
    grind
  | hubPublisher =>
    simp only [mxLeaseSmAcquirePhase, LeaseTable.firstPhase, counters.published_iff, active]
    grind

theorem acquire_eq (ctx : ι) (profile : LeaseProfile) [DecidableEq ι] :
    (leaseTable sm holder).acquire ctx profile =
      ((mxLeaseSmAcquire sm (holder ctx) profile).ret,
        leaseTable (mxLeaseSmAcquire sm (holder ctx) profile).sm
          (Function.update holder ctx (mxLeaseSmAcquire sm (holder ctx) profile).holder)) := by
  have counters := judgeable.counters
  have unmanaged : (holder ctx).legacy = true ∨ sm.legacyHolders ≠ 0 ↔
      (leaseTable sm holder).Unmanaged := by
    rw [counters.unmanaged_iff, or_iff_right_iff_imp, ← counters.unmanaged_iff]
    exact fun legacy => ⟨ctx, legacy⟩
  simp only [LeaseTable.acquire, mxLeaseSmAcquire, unmanaged, ← counters.heldByOther_iff,
    judgeable.familyHolders_ne, judgeable.acquirePhase_eq, if_false, leaseTable_holder]
  by_cases known : mxLeaseProfileFamily profile = .none
  · simp [known]
  by_cases legacy : (leaseTable sm holder).Unmanaged
  · simp [known, legacy]
  by_cases profiled : (holder ctx).profile = .none
  swap
  · by_cases same : (holder ctx).profile = profile
    · subst same
      simp [known, legacy, profiled]
    · simp [known, legacy, profiled, same]
  by_cases foreign : (leaseTable sm holder).HeldByOther (mxLeaseProfileFamily profile)
  · simp [known, legacy, profiled, foreign]
  have notLegacy : (holder ctx).legacy = false := by
    simpa using fun isLegacy => legacy ⟨ctx, isLegacy⟩
  cases (leaseTable sm holder).firstPhase profile with
  | error error => simp [known, legacy, profiled, foreign]
  | ok phase =>
    simp only [known, legacy, profiled, foreign, notLegacy, if_false, ne_eq,
      not_true_eq_false]
    rfl

theorem transition_eq [DecidableEq ι] (ctx : ι) (operation : LeaseTransitionOp)
    (activeDirect activeTransfers barMappings : Nat) (anchored : Bool) {outcome : SmOutcome}
    (outcomeEq : mxLeaseSmTransition sm (holder ctx) operation activeDirect activeTransfers
      barMappings anchored = outcome) :
    (leaseTable sm holder).transition ctx operation
        (activeDirect == 0 && activeTransfers == 0 && barMappings == 0) anchored =
      (outcome.ret, leaseTable outcome.sm (Function.update holder ctx outcome.holder)) := by
  have counters := judgeable.counters
  have undrained : (activeDirect == 0 && activeTransfers == 0 && barMappings == 0) = false ↔
      activeDirect ≠ 0 ∨ activeTransfers ≠ 0 ∨ barMappings ≠ 0 := by
    simp only [Bool.and_eq_false_iff, beq_eq_false_iff_ne, or_assoc]
  have decided := transition_decided (counters.holderOk ctx) (judgeable.prepared ctx)
    counters.quiescent_iff_of_publishing counters.working_iff judgeable.workloads_ne
    undrained operation anchored
  rw [outcomeEq] at decided
  rw [LeaseTable.transition, leaseTable_holder, leaseTable_ready]
  cases phaseEq : (leaseTable sm holder).nextPhase (holder ctx) operation
    (activeDirect == 0 && activeTransfers == 0 && barMappings == 0) anchored with
  | error error =>
    rw [phaseEq] at decided
    obtain rfl := decided
    simp
  | ok phase =>
    rw [phaseEq] at decided
    obtain ⟨accepted, moved, ready⟩ := decided
    simp only [accepted, moved, ← ready]
    rfl

theorem authorizeDirect_eq [DecidableEq ι] (ctx : ι) :
    (leaseTable sm holder).authorizeDirect ctx =
      ((mxLeaseSmAuthorizeDirect sm (holder ctx)).ret,
        leaseTable (mxLeaseSmAuthorizeDirect sm (holder ctx)).sm
          (Function.update holder ctx (mxLeaseSmAuthorizeDirect sm (holder ctx)).holder)) := by
  have counters := judgeable.counters
  have idle : mxLeaseSmIdle sm = false ↔ (leaseTable sm holder).Held := by
    rw [← not_iff_not, ← counters.idle_iff_not_held, Bool.not_eq_false]
  simp only [LeaseTable.authorizeDirect, mxLeaseSmAuthorizeDirect, idle,
    judgeable.legacyHolders_ne, if_false, leaseTable_holder]
  by_cases profiled : (holder ctx).profile = .none
  swap
  · by_cases active : (holder ctx).phase = .quiescent ∨ (holder ctx).phase = .workload
    · rcases active with phase | phase <;> simp [profiled, phase]
    · by_cases candidate : (holder ctx).phase = .replacementCandidate <;>
        simp [profiled, active, candidate]
  by_cases legacy : (holder ctx).legacy = true
  · simp [profiled, legacy]
  by_cases held : (leaseTable sm holder).Held
  · simp [profiled, legacy, held]
  have phase := (counters.holderOk ctx).phase_of_unprofiled profiled
  have notLegacy : (holder ctx).legacy = false := by simpa using legacy
  simp only [profiled, notLegacy, held, phase, if_false, ne_eq, not_true_eq_false,
    Bool.false_eq_true]
  rfl

theorem authorizeDirectAnchored_eq [DecidableEq ι] (ctx : ι) (anchored : Bool) :
    (leaseTable sm holder).authorizeDirectAnchored ctx anchored =
      ((mxLeaseSmAuthorizeDirectAnchored sm (holder ctx) anchored).ret,
        leaseTable (mxLeaseSmAuthorizeDirectAnchored sm (holder ctx) anchored).sm
          (Function.update holder ctx
            (mxLeaseSmAuthorizeDirectAnchored sm (holder ctx) anchored).holder)) := by
  rw [LeaseTable.authorizeDirectAnchored, mxLeaseSmAuthorizeDirectAnchored, leaseTable_holder]
  split
  · simp
  · exact judgeable.authorizeDirect_eq ctx

theorem admitDirect_eq [DecidableEq ι] (ctx : ι) (anchored : Bool) (activeDirect : Nat) :
    (leaseTable sm holder).admitDirect ctx anchored activeDirect =
      ((mxLeaseSmAdmitDirect sm (holder ctx) anchored activeDirect).1.ret,
        leaseTable (mxLeaseSmAdmitDirect sm (holder ctx) anchored activeDirect).1.sm
          (Function.update holder ctx
            (mxLeaseSmAdmitDirect sm (holder ctx) anchored activeDirect).1.holder)) := by
  rw [LeaseTable.admitDirect, mxLeaseSmAdmitDirect]
  by_cases full : activeDirect = u32Max
  · simp [full]
  · simp only [full, if_false, judgeable.authorizeDirectAnchored_eq ctx anchored]
    split <;> rfl

theorem release_eq [DecidableEq ι] (ctx : ι) :
    (leaseTable sm holder).release ctx =
      leaseTable (mxLeaseSmRelease sm (holder ctx)).1
        (Function.update holder ctx (mxLeaseSmRelease sm (holder ctx)).2) := by
  obtain ⟨gone, ready⟩ := mxLeaseSmRelease_gone sm (judgeable.counters.holderOk ctx)
  simp only [LeaseTable.release, LeaseTable.put, leaseTable, gone, ready]

end Judgeable

end MxDriver
