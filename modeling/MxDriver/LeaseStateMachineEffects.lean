import MxDriver.LeaseStateMachine

/-!
# What a state-machine call can do

Each theorem here reads one function of the lease state machine once and lists
everything it can do, guards included.  Later proofs split on these lists and
do not unfold the functions again.
-/

namespace MxDriver

/-- The phases a holder of each profile can be in. -/
def phaseAllowed : LeaseProfile → LeasePhase → Bool
  | .none, .none => true
  | .hubPublisher, .quiescent | .hubPublisher, .replacementCandidate
  | .hubPublisher, .workload => true
  | .standalonePublisher, .quiescent | .standalonePublisher, .workload => true
  | .coordinatorInitializer, .quiescent
  | .coordinatorInitializer, .coordinatorPrepared => true
  | .hubWorkload, .workload | .standaloneWorkload, .workload
  | .coordinatorControl, .workload | .coordinatorWorkload, .workload => true
  | _, _ => false

/-- The profiles that run on a prepared coordinator. -/
def isCoordinatorRuntime : LeaseProfile → Bool
  | .coordinatorControl | .coordinatorWorkload => true
  | _ => false

/-- Everything that `mx_lease_sm_acquire` can do. -/
inductive AcquireEffect (sm : LeaseSm) (holder : LeaseSmHolder)
    (profile : LeaseProfile) : SmOutcome → Prop
  | refused (error : Errno) :
      AcquireEffect sm holder profile ⟨some error, sm, holder⟩
  | found (profiled : profile ≠ .none) (same : holder.profile = profile) :
      AcquireEffect sm holder profile ⟨none, sm, holder⟩
  | granted (phase : LeasePhase)
      (known : mxLeaseProfileFamily profile ≠ .none)
      (notLegacy : holder.legacy = false) (noLegacy : sm.legacyHolders = 0)
      (unprofiled : holder.profile = .none)
      (family : sm.family = .none ∨ sm.family = mxLeaseProfileFamily profile)
      (room : sm.familyHolders ≠ u32Max)
      (phaseEq : mxLeaseSmAcquirePhase sm profile = .ok phase) :
      AcquireEffect sm holder profile
        ⟨none, mxLeaseSmAcquireCommit sm profile phase,
          { holder with profile := profile, phase := phase }⟩

theorem mxLeaseProfileFamily_ne_none_iff (profile : LeaseProfile) :
    mxLeaseProfileFamily profile ≠ .none ↔
      profile ≠ .none ∧ ∀ code, profile ≠ .reserved code := by
  cases profile <;> simp [mxLeaseProfileFamily]

@[simp]
theorem mxLeaseProfileIsPublisher_none : mxLeaseProfileIsPublisher .none = false :=
  rfl

theorem ne_none_of_isPublisher {profile : LeaseProfile}
    (publisher : mxLeaseProfileIsPublisher profile = true) : profile ≠ .none := by
  rintro rfl
  simp at publisher

theorem mxLeaseSmAcquire_effect (sm : LeaseSm) (holder : LeaseSmHolder) (profile : LeaseProfile) :
    AcquireEffect sm holder profile (mxLeaseSmAcquire sm holder profile) := by
  unfold mxLeaseSmAcquire
  by_cases known : mxLeaseProfileFamily profile = .none
  · simpa [known] using .refused .einval
  by_cases legacy : holder.legacy = true ∨ sm.legacyHolders ≠ 0
  · simpa [known, legacy] using .refused .ebusy
  obtain ⟨notLegacy, noLegacy⟩ : holder.legacy = false ∧ sm.legacyHolders = 0 := by
    simpa using legacy
  by_cases profiled : holder.profile ≠ .none
  · by_cases same : holder.profile = profile
    · subst same
      simpa [known, notLegacy, noLegacy, profiled] using .found profiled rfl
    · simpa [known, notLegacy, noLegacy, profiled, same] using
        .refused .ealready
  have unprofiled : holder.profile = .none := by simpa using profiled
  by_cases foreign : sm.family ≠ .none ∧ sm.family ≠ mxLeaseProfileFamily profile
  · simpa [known, notLegacy, noLegacy, unprofiled, foreign] using .refused .ebusy
  by_cases full : sm.familyHolders = u32Max
  · simpa [known, notLegacy, noLegacy, unprofiled, foreign, full] using
      .refused .eoverflow
  have familyFits : sm.family = .none ∨ sm.family = mxLeaseProfileFamily profile := by
    tauto
  cases phaseEq : mxLeaseSmAcquirePhase sm profile with
  | error error =>
    simpa [known, notLegacy, noLegacy, unprofiled, foreign, full, phaseEq] using
      .refused error
  | ok phase =>
    have granted := AcquireEffect.granted phase known notLegacy noLegacy
      unprofiled familyFits full phaseEq
    simpa [known, notLegacy, noLegacy, unprofiled, foreign, full, phaseEq] using
      granted

/-- A newcomer starts in a phase its profile allows; only a publisher starts
quiescent, and then nobody else is active. -/
theorem mxLeaseSmAcquirePhase_spec {sm : LeaseSm} {profile : LeaseProfile} {phase : LeasePhase}
    (phaseEq : mxLeaseSmAcquirePhase sm profile = .ok phase) :
    phaseAllowed profile phase = true ∧ sm.quiescent = false ∧
      (mxLeaseProfileIsPublisher profile = true → sm.publishers = 0) ∧
      (phase = .quiescent → sm.workloads = 0) ∧
      (phase = .workload → sm.workloads ≠ u32Max) ∧
      (profile = .coordinatorInitializer → sm.workloads = 0) ∧
      (isCoordinatorRuntime profile = true → sm.coordinatorReady = true) := by
  cases profile <;> simp only [mxLeaseSmAcquirePhase] at phaseEq
  case none => cases phaseEq
  case reserved => cases phaseEq
  all_goals
    split at phaseEq
    · cases phaseEq
  case hubPublisher free =>
      obtain ⟨noPublisher, notQuiescent⟩ :
          sm.publishers = 0 ∧ sm.quiescent = false := by simpa using free
      cases phaseEq
      by_cases idle : sm.workloads = 0 <;>
        simp [idle, phaseAllowed, noPublisher, notQuiescent, isCoordinatorRuntime]
  case hubWorkload free | standaloneWorkload free =>
      obtain ⟨notQuiescent, notFull⟩ :
          sm.quiescent = false ∧ sm.workloads ≠ u32Max := by simpa using free
      cases phaseEq
      simp [phaseAllowed, mxLeaseProfileIsPublisher, notQuiescent, notFull,
        isCoordinatorRuntime]
  case standalonePublisher free | coordinatorInitializer free =>
      obtain ⟨noPublisher, notQuiescent, idle⟩ :
          sm.publishers = 0 ∧ sm.quiescent = false ∧ sm.workloads = 0 := by
        simpa using free
      cases phaseEq
      simp [phaseAllowed, noPublisher, notQuiescent, idle, isCoordinatorRuntime]
  case coordinatorControl ready | coordinatorWorkload ready =>
      split at phaseEq
      · cases phaseEq
      rename_i free
      obtain ⟨notQuiescent, notFull⟩ :
          sm.quiescent = false ∧ sm.workloads ≠ u32Max := by simpa using free
      cases phaseEq
      simp [phaseAllowed, mxLeaseProfileIsPublisher, notQuiescent, notFull,
        by simpa using ready]

/-- How a publisher moves in a transition that succeeds; the counters other
than `quiescent`, `workloads` and `coordinator_ready` never take part. -/
inductive PublisherMove (sm : LeaseSm) (holder : LeaseSmHolder) :
    LeaseSm → LeaseSmHolder → Prop
  | stay : PublisherMove sm holder sm holder
  | prepare (initializer : holder.profile = .coordinatorInitializer)
      (phase : holder.phase = .quiescent) (quiescent : sm.quiescent = true) :
      PublisherMove sm holder
        { sm with quiescent := false, coordinatorReady := true }
        { holder with phase := .coordinatorPrepared }
  | tryQuiescent (notInitializer : holder.profile ≠ .coordinatorInitializer)
      (phase : holder.phase = .replacementCandidate)
      (noWorkload : sm.workloads = 0) (notQuiescent : sm.quiescent = false) :
      PublisherMove sm holder { sm with quiescent := true }
        { holder with phase := .quiescent }
  | activateWorkload (notInitializer : holder.profile ≠ .coordinatorInitializer)
      (phase : holder.phase = .quiescent) (room : sm.workloads ≠ u32Max)
      (quiescent : sm.quiescent = true) :
      PublisherMove sm holder
        { sm with quiescent := false, workloads := incU32 sm.workloads }
        { holder with phase := .workload }
  | activateReplacement (hub : holder.profile = .hubPublisher)
      (phase : holder.phase = .replacementCandidate)
      (room : sm.workloads ≠ u32Max) :
      PublisherMove sm holder { sm with workloads := incU32 sm.workloads }
        { holder with phase := .workload }

/-- What the counts passed to `mx_lease_sm_transition` and the slot-domain flag
must be for the move it made. -/
structure MoveGuards (holder newHolder : LeaseSmHolder)
    (activeDirect activeTransfers barMappings : Nat) (slotDomainAnchored : Bool) : Prop where
  drained : holder.phase = .quiescent → newHolder.phase ≠ .quiescent →
    activeDirect = 0 ∧ activeTransfers = 0 ∧ barMappings = 0
  prepared : newHolder.phase = .coordinatorPrepared →
    holder.phase ≠ .coordinatorPrepared → slotDomainAnchored = true
  activated : holder.profile = .hubPublisher → newHolder.phase = .workload →
    holder.phase ≠ .workload → slotDomainAnchored = true

theorem MoveGuards.stay (holder : LeaseSmHolder) (activeDirect activeTransfers barMappings : Nat)
    (slotDomainAnchored : Bool) :
    MoveGuards holder holder activeDirect activeTransfers barMappings
      slotDomainAnchored where
  drained before after := (after before).elim
  prepared after before := (before after).elim
  activated _ after before := (before after).elim

/-- Everything that `mx_lease_sm_transition` can do. -/
inductive TransitionEffect (sm : LeaseSm) (holder : LeaseSmHolder)
    (activeDirect activeTransfers barMappings : Nat)
    (slotDomainAnchored : Bool) : SmOutcome → Prop
  | refused (error : Errno) :
      TransitionEffect sm holder activeDirect activeTransfers barMappings
        slotDomainAnchored ⟨some error, sm, holder⟩
  | moved {newSm : LeaseSm} {newHolder : LeaseSmHolder}
      (publisher : mxLeaseProfileIsPublisher holder.profile = true)
      (notLegacy : holder.legacy = false)
      (move : PublisherMove sm holder newSm newHolder)
      (guards : MoveGuards holder newHolder activeDirect activeTransfers
        barMappings slotDomainAnchored) :
      TransitionEffect sm holder activeDirect activeTransfers barMappings
        slotDomainAnchored ⟨none, newSm, newHolder⟩

theorem mxLeaseSmTransitionInitializer_effect {sm : LeaseSm}
    {holder : LeaseSmHolder} (operation : LeaseTransitionOp)
    (activeDirect activeTransfers barMappings : Nat) (slotDomainAnchored : Bool)
    (initializer : holder.profile = .coordinatorInitializer) (notLegacy : holder.legacy = false) :
    TransitionEffect sm holder activeDirect activeTransfers barMappings
      slotDomainAnchored
      (mxLeaseSmTransitionInitializer sm holder operation activeDirect
        activeTransfers barMappings slotDomainAnchored) := by
  have publisher : mxLeaseProfileIsPublisher holder.profile = true := by
    simp [initializer, mxLeaseProfileIsPublisher]
  unfold mxLeaseSmTransitionInitializer
  split
  · exact .refused _
  split
  · cases sm.coordinatorReady
    · exact .refused _
    · exact .moved publisher notLegacy .stay (.stay ..)
  split
  · exact .refused _
  split
  · exact .refused _
  split
  · exact .refused _
  split
  · exact .refused _
  rename_i phase anchored drained quiescent
  have phase : holder.phase = .quiescent := by simpa using phase
  have drained : activeDirect = 0 ∧ activeTransfers = 0 ∧ barMappings = 0 := by
    simpa using drained
  refine .moved publisher notLegacy
    (.prepare initializer phase (by simpa using quiescent)) ⟨?_, ?_, ?_⟩
  · exact fun _ _ => drained
  · exact fun _ _ => by simpa using anchored
  · simp

theorem mxLeaseSmTransitionSwitch_effect {sm : LeaseSm} {holder : LeaseSmHolder}
    (operation : LeaseTransitionOp) (activeDirect activeTransfers barMappings : Nat)
    (slotDomainAnchored : Bool) (publisher : mxLeaseProfileIsPublisher holder.profile = true)
    (notLegacy : holder.legacy = false) (notInitializer : holder.profile ≠ .coordinatorInitializer)
    (anchored : ¬ (holder.profile = .hubPublisher ∧
      (operation = .activateWorkload ∨ operation = .activateReplacement) ∧
      slotDomainAnchored = false))
    (drained : ¬ (operation = .activateWorkload ∧ holder.phase = .quiescent ∧
      (activeDirect ≠ 0 ∨ activeTransfers ≠ 0 ∨ barMappings ≠ 0))) :
    TransitionEffect sm holder activeDirect activeTransfers barMappings
      slotDomainAnchored (mxLeaseSmTransitionSwitch sm holder operation) := by
  cases operation <;> simp only [mxLeaseSmTransitionSwitch]
  case none => exact .refused _
  case activateCoordinator => exact .refused _
  case reserved => exact .refused _
  case tryQuiescent =>
      split
      · exact .moved publisher notLegacy .stay (.stay ..)
      split
      · exact .refused _
      split
      · exact .refused _
      rename_i phase free
      obtain ⟨noWorkload, notQuiescent⟩ :
          sm.workloads = 0 ∧ sm.quiescent = false := by simpa using free
      exact .moved publisher notLegacy
        (.tryQuiescent notInitializer (by simpa using phase) noWorkload notQuiescent)
        ⟨by simp, by simp, by simp⟩
  case activateWorkload =>
      split
      · exact .moved publisher notLegacy .stay (.stay ..)
      split
      · exact .refused _
      split
      · exact .refused _
      split
      · exact .refused _
      rename_i phase room quiescent
      have phase : holder.phase = .quiescent := by simpa using phase
      refine .moved publisher notLegacy
        (.activateWorkload notInitializer phase room (by simpa using quiescent))
        ⟨fun _ _ => ?_, by simp, fun hub _ _ => ?_⟩
      · simpa [phase] using drained
      · simpa [hub] using anchored
  case activateReplacement =>
      split
      · exact .refused _
      split
      · exact .refused _
      rename_i candidate room
      obtain ⟨hub, phase⟩ : holder.profile = .hubPublisher ∧
          holder.phase = .replacementCandidate := by simpa using candidate
      refine .moved publisher notLegacy (.activateReplacement hub phase room)
        ⟨by simp [phase], by simp, fun _ _ _ => ?_⟩
      simpa [hub] using anchored

theorem mxLeaseSmTransition_effect (sm : LeaseSm) (holder : LeaseSmHolder)
    (operation : LeaseTransitionOp) (activeDirect activeTransfers barMappings : Nat)
    (slotDomainAnchored : Bool) :
    TransitionEffect sm holder activeDirect activeTransfers barMappings
      slotDomainAnchored
      (mxLeaseSmTransition sm holder operation activeDirect activeTransfers
        barMappings slotDomainAnchored) := by
  unfold mxLeaseSmTransition
  split
  · exact .refused _
  rename_i admitted
  obtain ⟨publisher, notLegacy⟩ : mxLeaseProfileIsPublisher holder.profile = true ∧
      holder.legacy = false := by simpa using admitted
  split
  · rename_i initializer
    exact mxLeaseSmTransitionInitializer_effect operation activeDirect
      activeTransfers barMappings slotDomainAnchored initializer notLegacy
  split
  · exact .refused _
  split
  · exact .refused _
  rename_i notInitializer anchored drained
  exact mxLeaseSmTransitionSwitch_effect operation activeDirect activeTransfers
    barMappings slotDomainAnchored publisher notLegacy notInitializer anchored
    drained

/-- Everything that `mx_lease_sm_authorize_direct` can do. -/
inductive AuthorizeEffect (sm : LeaseSm) (holder : LeaseSmHolder) :
    SmOutcome → Prop
  | refused (error : Errno) : AuthorizeEffect sm holder ⟨some error, sm, holder⟩
  | admitted (entitled : holder.legacy = true ∨ holder.profile ≠ .none ∧
        (holder.phase = .quiescent ∨ holder.phase = .workload)) :
      AuthorizeEffect sm holder ⟨none, sm, holder⟩
  | enlisted (unprofiled : holder.profile = .none)
      (notLegacy : holder.legacy = false) (idle : mxLeaseSmIdle sm = true)
      (room : sm.legacyHolders ≠ u32Max) :
      AuthorizeEffect sm holder
        ⟨none, { sm with legacyHolders := incU32 sm.legacyHolders },
          { holder with legacy := true }⟩

theorem mxLeaseSmAuthorizeDirect_effect (sm : LeaseSm) (holder : LeaseSmHolder) :
    AuthorizeEffect sm holder (mxLeaseSmAuthorizeDirect sm holder) := by
  unfold mxLeaseSmAuthorizeDirect
  split
  · rename_i profiled
    split
    · exact .refused _
    split
    · rename_i active
      exact .admitted (.inr ⟨profiled, active⟩)
    · exact .refused _
  split
  · rename_i legacy
    exact .admitted (.inl legacy)
  split
  · exact .refused _
  split
  · exact .refused _
  rename_i unprofiled notLegacy idle room
  exact .enlisted (by simpa using unprofiled) (by simpa using notLegacy)
    (by simpa using idle) room

/-- The anchored variant does no more than the plain one, and with an anchor it
enlists nobody. -/
theorem mxLeaseSmAuthorizeDirectAnchored_effect (sm : LeaseSm)
    (holder : LeaseSmHolder) (anchored : Bool) :
    AuthorizeEffect sm holder
        (mxLeaseSmAuthorizeDirectAnchored sm holder anchored) ∧
      (anchored = true →
        (mxLeaseSmAuthorizeDirectAnchored sm holder anchored).sm = sm ∧
          (mxLeaseSmAuthorizeDirectAnchored sm holder anchored).holder = holder) := by
  unfold mxLeaseSmAuthorizeDirectAnchored
  split
  · exact ⟨.refused _, fun _ => ⟨rfl, rfl⟩⟩
  rename_i notBare
  have effect := mxLeaseSmAuthorizeDirect_effect sm holder
  refine ⟨effect, fun isAnchored => ?_⟩
  generalize mxLeaseSmAuthorizeDirect sm holder = outcome at effect
  cases effect with
  | refused error => exact ⟨rfl, rfl⟩
  | admitted entitled => exact ⟨rfl, rfl⟩
  | enlisted unprofiled notLegacy idle room =>
    exact (notBare ⟨isAnchored, unprofiled, notLegacy⟩).elim

end MxDriver
