import MxDriver.LeaseCounters

/-!
# Every lease step keeps the counters exact

A lease step touches one context.  There are four ways to do so: a newcomer is
granted a profile, a publisher moves to another phase, a caller is enlisted as
legacy, and a holder leaves.  Undoing a transition is again a publisher move,
taken backwards.
-/

namespace MxDriver

variable {ι θ : Type*} [Fintype ι]
variable {sm newSm : LeaseSm} {holder : ι → LeaseSmHolder}
variable {newHolder : LeaseSmHolder} {ctx : ι}

theorem HolderOk.profiled_of_phase {holder : LeaseSmHolder} (ok : HolderOk holder)
    (phase : holder.phase ≠ .none) : holder.Profiled := by
  intro unprofiled
  have allowed := ok.phase
  rw [unprofiled] at allowed
  cases phaseEq : holder.phase <;> simp_all [phaseAllowed]

theorem HolderOk.publishing_of_phase {holder : LeaseSmHolder} (ok : HolderOk holder)
    (profiled : holder.Profiled) (phase : holder.phase ≠ .workload) : holder.Publishing := by
  have allowed := ok.phase
  cases profileEq : holder.profile <;> cases phaseEq : holder.phase <;>
    simp_all [phaseAllowed, LeaseSmHolder.Publishing, mxLeaseProfileIsPublisher]

theorem HolderOk.phase_of_unprofiled {holder : LeaseSmHolder} (ok : HolderOk holder)
    (unprofiled : holder.profile = .none) : holder.phase = .none := by
  by_contra phase
  exact ok.profiled_of_phase phase unprofiled

theorem HolderOk.workload_of_runtime {holder : LeaseSmHolder} (ok : HolderOk holder)
    (runtime : isCoordinatorRuntime holder.profile = true) : holder.phase = .workload := by
  have allowed := ok.phase
  cases profileEq : holder.profile <;> cases phaseEq : holder.phase <;>
    simp_all [phaseAllowed, isCoordinatorRuntime]

theorem family_ne_none_of_allowed {profile : LeaseProfile} {phase : LeasePhase}
    (allowed : phaseAllowed profile phase = true) (profiled : profile ≠ .none) :
    mxLeaseProfileFamily profile ≠ .none := by
  cases profile <;> cases phase <;>
    simp_all [phaseAllowed, mxLeaseProfileFamily]

namespace CountersExact

variable (counters : CountersExact sm holder)
include counters

theorem workloads_le : sm.workloads ≤ sm.familyHolders := by
  rw [counters.workloads, counters.familyHolders]
  apply tally_le_tally
  intro other phase
  have phase : (holder other).phase = .workload := phase
  exact (counters.holderOk other).profiled_of_phase (by simp [phase])

/-- Somebody in an active phase keeps every legacy caller out. -/
theorem noLegacy_of_profiled (profiled : (holder ctx).Profiled) : sm.legacyHolders = 0 := by
  rcases counters.exclusive with noLegacy | noHolder
  · exact noLegacy
  · rw [counters.familyHolders, tally_eq_zero_iff] at noHolder
    exact (noHolder ctx profiled).elim

theorem publishing_of_quiescent
    (phase : (holder ctx).phase = .quiescent) : (holder ctx).Publishing := by
  have ok := counters.holderOk ctx
  exact ok.publishing_of_phase (ok.profiled_of_phase (by simp [phase]))
    (by simp [phase])

/-- The publisher is the only context that can be quiescent. -/
theorem eq_of_quiescent {other : ι} (phase : (holder other).phase = .quiescent)
    (publishing : (holder ctx).Publishing) : other = ctx :=
  eq_of_tally_le_one (counters.publishers ▸ counters.publishersLe)
    (counters.publishing_of_quiescent phase) publishing

theorem quiescent_iff_of_publishing (publishing : (holder ctx).Publishing) :
    sm.quiescent = true ↔ (holder ctx).phase = .quiescent := by
  rw [counters.quiescent]
  constructor
  · rintro ⟨other, phase⟩
    exact counters.eq_of_quiescent phase publishing ▸ phase
  · exact fun phase => ⟨ctx, phase⟩

/-- A coordinator participant is in the workload phase, so it is counted. -/
theorem workloads_ne_zero_of_runtime
    (runtime : isCoordinatorRuntime (holder ctx).profile = true) : sm.workloads ≠ 0 := by
  have counted := tally_pos (p := LeaseSmHolder.InPhase .workload)
    ((counters.holderOk ctx).workload_of_runtime runtime)
  rw [counters.workloads]
  omega

variable [DecidableEq ι]

theorem movePublisher (publishing : (holder ctx).Publishing)
    (profile : newHolder.profile = (holder ctx).profile)
    (legacy : newHolder.legacy = (holder ctx).legacy)
    (allowed : phaseAllowed newHolder.profile newHolder.phase = true)
    (family : newSm.family = sm.family) (familyHolders : newSm.familyHolders = sm.familyHolders)
    (publishers : newSm.publishers = sm.publishers)
    (legacyHolders : newSm.legacyHolders = sm.legacyHolders) (workloads : newSm.workloads +
        (if (holder ctx).phase = .workload then 1 else 0) =
      sm.workloads + (if newHolder.phase = .workload then 1 else 0))
    (quiescent : newSm.quiescent = true ↔ newHolder.phase = .quiescent)
    (alone : newSm.quiescent = true → newSm.workloads = 0) (ready : newSm.coordinatorReady = false →
      sm.coordinatorReady = false ∨ newSm.workloads = 0) :
    CountersExact newSm (Function.update holder ctx newHolder) := by
  have profiled : (holder ctx).Profiled := ne_none_of_isPublisher publishing
  have workloadsExact : newSm.workloads =
      tally (LeaseSmHolder.InPhase .workload)
        (Function.update holder ctx newHolder) := by
    have moved := tally_update (LeaseSmHolder.InPhase .workload) holder ctx newHolder
    have before := counters.workloads
    simp only [LeaseSmHolder.InPhase] at moved before ⊢
    omega
  refine
    { holderOk := ?_
      familyHolders := ?_
      publishers := ?_
      publishersLe := publishers ▸ counters.publishersLe
      workloads := workloadsExact
      legacyHolders := ?_
      quiescent := ?_
      alone := alone
      exclusive := by rw [legacyHolders, familyHolders]; exact counters.exclusive
      familyOf := ?_
      familyNone := by rw [familyHolders, family]; exact counters.familyNone
      ready := ?_
      familyBound := familyHolders ▸ counters.familyBound
      legacyBound := legacyHolders ▸ counters.legacyBound }
  · intro other
    by_cases same : other = ctx
    · subst other
      rw [Function.update_self]
      exact ⟨allowed, fun isLegacy => profile ▸
        (counters.holderOk ctx).legacy (legacy ▸ isLegacy)⟩
    · rw [Function.update_of_ne same]
      exact counters.holderOk other
  · rw [familyHolders, counters.familyHolders, tally_update_same]
    simp [LeaseSmHolder.Profiled, profile]
  · rw [publishers, counters.publishers, tally_update_same]
    simp [LeaseSmHolder.Publishing, profile]
  · rw [legacyHolders, counters.legacyHolders, tally_update_same]
    simp [LeaseSmHolder.Legacy, legacy]
  · rw [quiescent]
    constructor
    · exact fun phase => ⟨ctx, by simpa using phase⟩
    · rintro ⟨other, phase⟩
      by_cases same : other = ctx
      · subst other
        simpa using phase
      · rw [Function.update_of_ne same] at phase
        exact (same (counters.eq_of_quiescent phase publishing)).elim
  · intro other otherProfiled
    by_cases same : other = ctx
    · subst other
      rw [Function.update_self, profile, family]
      exact counters.familyOf ctx profiled
    · rw [Function.update_of_ne same] at otherProfiled ⊢
      rw [family]
      exact counters.familyOf other otherProfiled
  · intro other runtime
    have notSelf : other ≠ ctx := by
      rintro rfl
      rw [Function.update_self, profile] at runtime
      have isPublisher : mxLeaseProfileIsPublisher (holder other).profile = true :=
        publishing
      cases profileEq : (holder other).profile <;>
        simp_all [isCoordinatorRuntime, mxLeaseProfileIsPublisher]
    have unchanged : Function.update holder ctx newHolder other = holder other :=
      Function.update_of_ne notSelf ..
    rw [unchanged] at runtime
    by_contra notReady
    rcases ready (by simpa using notReady) with wasNotReady | noWorkload
    · simpa [wasNotReady] using counters.ready other runtime
    · rw [workloadsExact, tally_eq_zero_iff] at noWorkload
      apply noWorkload other
      rw [unchanged]
      exact (counters.holderOk other).workload_of_runtime runtime

theorem holderOk_update (ok : HolderOk newHolder)
    (other : ι) : HolderOk (Function.update holder ctx newHolder other) := by
  by_cases same : other = ctx
  · subst other
    simpa using ok
  · simpa [Function.update_of_ne same] using counters.holderOk other

theorem grant {profile : LeaseProfile} {phase : LeasePhase}
    (known : mxLeaseProfileFamily profile ≠ .none)
    (notLegacy : (holder ctx).legacy = false) (noLegacy : sm.legacyHolders = 0)
    (unprofiled : (holder ctx).profile = .none)
    (family : sm.family = .none ∨ sm.family = mxLeaseProfileFamily profile)
    (room : sm.familyHolders ≠ u32Max) (phaseEq : mxLeaseSmAcquirePhase sm profile = .ok phase) :
    CountersExact (mxLeaseSmAcquireCommit sm profile phase)
      (Function.update holder ctx
        { holder ctx with profile := profile, phase := phase }) := by
  obtain ⟨allowed, notQuiescent, publisherFree, quiescentIdle, workloadRoom,
    initializerIdle, runtimeReady⟩ := mxLeaseSmAcquirePhase_spec phaseEq
  have profiled : profile ≠ .none :=
    ((mxLeaseProfileFamily_ne_none_iff profile).mp known).1
  have noPhase : (holder ctx).phase = .none :=
    (counters.holderOk ctx).phase_of_unprofiled unprofiled
  have noneQuiescent : ∀ other, (holder other).phase ≠ .quiescent := by
    intro other phase
    simpa [notQuiescent] using counters.quiescent.mpr ⟨other, phase⟩
  have familyHolders : (mxLeaseSmAcquireCommit sm profile phase).familyHolders =
      sm.familyHolders + 1 := incU32_of_ne_max counters.familyBound room
  have workloadsBound : sm.workloads ≤ u32Max :=
    counters.workloads_le.trans counters.familyBound
  have workloads : (mxLeaseSmAcquireCommit sm profile phase).workloads =
      sm.workloads + (if phase = .workload then 1 else 0) := by
    by_cases isWorkload : phase = .workload
    · simp [mxLeaseSmAcquireCommit, isWorkload,
        incU32_of_ne_max workloadsBound (workloadRoom isWorkload)]
    · simp [mxLeaseSmAcquireCommit, isWorkload]
  have publishers : (mxLeaseSmAcquireCommit sm profile phase).publishers =
      sm.publishers + (if mxLeaseProfileIsPublisher profile then 1 else 0) := by
    by_cases isPublisher : mxLeaseProfileIsPublisher profile = true
    · simp [mxLeaseSmAcquireCommit, isPublisher, publisherFree isPublisher, incU32]
    · simp [mxLeaseSmAcquireCommit, isPublisher]
  refine
    { holderOk := counters.holderOk_update
        ⟨allowed, fun isLegacy => by simp [notLegacy] at isLegacy⟩
      familyHolders := ?_
      publishers := ?_
      publishersLe := ?_
      workloads := ?_
      legacyHolders := ?_
      quiescent := ?_
      alone := ?_
      exclusive := .inl noLegacy
      familyOf := ?_
      familyNone := by simp [familyHolders]
      ready := ?_
      familyBound := ?_
      legacyBound := counters.legacyBound }
  · rw [familyHolders, counters.familyHolders, tally_update_enter]
    · simpa [LeaseSmHolder.Profiled] using unprofiled
    · exact profiled
  · have moved := tally_update LeaseSmHolder.Publishing holder ctx
      { holder ctx with profile := profile, phase := phase }
    rw [if_neg (by simp [LeaseSmHolder.Publishing, unprofiled])] at moved
    rw [publishers, counters.publishers]
    simpa [LeaseSmHolder.Publishing] using moved.symm
  · rw [publishers]
    have bound := counters.publishersLe
    split
    · rename_i isPublisher
      rw [publisherFree isPublisher]
    · exact bound
  · have moved := tally_update (LeaseSmHolder.InPhase .workload) holder ctx
      { holder ctx with profile := profile, phase := phase }
    rw [if_neg (by simp [LeaseSmHolder.InPhase, noPhase])] at moved
    rw [workloads, counters.workloads]
    simpa [LeaseSmHolder.InPhase] using moved.symm
  · change sm.legacyHolders = _
    rw [counters.legacyHolders, tally_update_same]
    simp [LeaseSmHolder.Legacy]
  · simp only [mxLeaseSmAcquireCommit, notQuiescent]
    constructor
    · intro becomesQuiescent
      exact ⟨ctx, by simpa using becomesQuiescent⟩
    · rintro ⟨other, otherPhase⟩
      by_cases same : other = ctx
      · subst other
        simpa using otherPhase
      · rw [Function.update_of_ne same] at otherPhase
        exact (noneQuiescent other otherPhase).elim
  · intro becomesQuiescent
    have isQuiescent : phase = .quiescent := by
      simpa [mxLeaseSmAcquireCommit, notQuiescent] using becomesQuiescent
    rw [workloads, quiescentIdle isQuiescent]
    simp [isQuiescent]
  · intro other otherProfiled
    change _ = if sm.familyHolders = 0 then mxLeaseProfileFamily profile else sm.family
    by_cases same : other = ctx
    · subst other
      rw [Function.update_self]
      split
      · rfl
      · rename_i occupied
        have counted : 0 < tally LeaseSmHolder.Profiled holder := by
          rw [← counters.familyHolders]
          omega
        obtain ⟨member, memberProfiled⟩ := exists_of_tally_pos counted
        have memberFamily := counters.familyOf member memberProfiled
        have memberKnown := family_ne_none_of_allowed
          (counters.holderOk member).phase memberProfiled
        rcases family with noFamily | sameFamily
        · exact (memberKnown (memberFamily.trans noFamily)).elim
        · exact sameFamily.symm
    · rw [Function.update_of_ne same] at otherProfiled ⊢
      have occupied : sm.familyHolders ≠ 0 := by
        have counted := tally_pos (p := LeaseSmHolder.Profiled) otherProfiled
        rw [counters.familyHolders]
        omega
      rw [if_neg occupied]
      exact counters.familyOf other otherProfiled
  · intro other runtime
    change (if profile = .coordinatorInitializer then false
      else sm.coordinatorReady) = true
    by_cases same : other = ctx
    · subst other
      rw [Function.update_self] at runtime
      have notInitializer : profile ≠ .coordinatorInitializer := by
        rintro rfl
        simp [isCoordinatorRuntime] at runtime
      rw [if_neg notInitializer]
      exact runtimeReady runtime
    · rw [Function.update_of_ne same] at runtime
      have notInitializer : profile ≠ .coordinatorInitializer := by
        intro initializer
        exact counters.workloads_ne_zero_of_runtime runtime
          (initializerIdle initializer)
      rw [if_neg notInitializer]
      exact counters.ready other runtime
  · rw [familyHolders]
    have bound := counters.familyBound
    omega

theorem enlist (unprofiled : (holder ctx).profile = .none)
    (notLegacy : (holder ctx).legacy = false) (idle : mxLeaseSmIdle sm = true)
    (room : sm.legacyHolders ≠ u32Max) :
    CountersExact { sm with legacyHolders := incU32 sm.legacyHolders }
      (Function.update holder ctx { holder ctx with legacy := true }) := by
  have noHolder : sm.familyHolders = 0 := by
    simp only [mxLeaseSmIdle, Bool.and_eq_true, beq_iff_eq] at idle
    exact idle.1.1.1
  have legacyHolders : incU32 sm.legacyHolders = sm.legacyHolders + 1 :=
    incU32_of_ne_max counters.legacyBound room
  have legacyBound := counters.legacyBound
  refine
    { counters with
      holderOk := counters.holderOk_update
        ⟨(counters.holderOk ctx).phase, fun _ => unprofiled⟩
      familyHolders := ?_
      publishers := ?_
      workloads := ?_
      legacyHolders := ?_
      quiescent := ?_
      exclusive := .inr noHolder
      familyOf := ?_
      ready := ?_
      legacyBound := by simp only [legacyHolders]; omega }
  · rw [tally_update_same]
    · exact counters.familyHolders
    · exact Iff.rfl
  · rw [tally_update_same]
    · exact counters.publishers
    · exact Iff.rfl
  · rw [tally_update_same]
    · exact counters.workloads
    · exact Iff.rfl
  · rw [tally_update_enter holder ctx _ (by simp [LeaseSmHolder.Legacy, notLegacy])
      (by simp [LeaseSmHolder.Legacy]), ← counters.legacyHolders]
    exact legacyHolders
  · change sm.quiescent = true ↔ _
    rw [counters.quiescent]
    constructor
    · rintro ⟨other, phase⟩
      exact ⟨other, by rw [Function.update_apply]; split <;> simp_all⟩
    · rintro ⟨other, phase⟩
      exact ⟨other, by rw [Function.update_apply] at phase; split at phase <;> simp_all⟩
  · intro other profiled
    have same : (Function.update holder ctx { holder ctx with legacy := true }
        other).profile = (holder other).profile := by
      rw [Function.update_apply]
      split <;> simp_all
    rw [LeaseSmHolder.Profiled, same] at profiled
    rw [same]
    exact counters.familyOf other profiled
  · intro other runtime
    have same : (Function.update holder ctx { holder ctx with legacy := true }
        other).profile = (holder other).profile := by
      rw [Function.update_apply]
      split <;> simp_all
    rw [same] at runtime
    exact counters.ready other runtime

theorem leaveLegacy (legacy : (holder ctx).legacy = true) :
    CountersExact { sm with legacyHolders := sm.legacyHolders - 1 }
      (Function.update holder ctx { holder ctx with legacy := false }) := by
  have counted := tally_update_leave (p := LeaseSmHolder.Legacy) holder ctx
    { holder ctx with legacy := false } legacy (by simp [LeaseSmHolder.Legacy])
  rw [← counters.legacyHolders] at counted
  have sameProfile : ∀ other, (Function.update holder ctx
      { holder ctx with legacy := false } other).profile = (holder other).profile := by
    intro other
    rw [Function.update_apply]
    split <;> simp_all
  have samePhase : ∀ other, (Function.update holder ctx
      { holder ctx with legacy := false } other).phase = (holder other).phase := by
    intro other
    rw [Function.update_apply]
    split <;> simp_all
  refine
    { counters with
      holderOk := counters.holderOk_update ⟨(counters.holderOk ctx).phase, by simp⟩
      familyHolders := ?_
      publishers := ?_
      workloads := ?_
      legacyHolders := (Nat.eq_sub_of_add_eq counted).symm
      quiescent := by simp only [samePhase]; exact counters.quiescent
      exclusive := ?_
      familyOf := by simp only [LeaseSmHolder.Profiled, sameProfile]; exact counters.familyOf
      ready := by simp only [sameProfile]; exact counters.ready
      legacyBound := (Nat.sub_le ..).trans counters.legacyBound }
  · rw [tally_update_same]
    · exact counters.familyHolders
    · exact Iff.rfl
  · rw [tally_update_same]
    · exact counters.publishers
    · exact Iff.rfl
  · rw [tally_update_same]
    · exact counters.workloads
    · exact Iff.rfl
  · rcases counters.exclusive with noLegacy | noHolder
    · exact .inl (by simp [noLegacy])
    · exact .inr noHolder

theorem leaveProfiled (profiled : (holder ctx).Profiled) (notLegacy : (holder ctx).legacy = false) :
    CountersExact (mxLeaseSmReleaseCommit sm (holder ctx))
      (Function.update holder ctx
        { holder ctx with profile := .none, phase := .none }) := by
  have familyLeft := tally_update_leave (p := LeaseSmHolder.Profiled) holder ctx
    { holder ctx with profile := .none, phase := .none } profiled
    (by simp [LeaseSmHolder.Profiled])
  rw [← counters.familyHolders] at familyLeft
  have publishersLeft := tally_update LeaseSmHolder.Publishing holder ctx
    { holder ctx with profile := .none, phase := .none }
  rw [← counters.publishers] at publishersLeft
  have workloadsLeft := tally_update (LeaseSmHolder.InPhase .workload) holder ctx
    { holder ctx with profile := .none, phase := .none }
  rw [← counters.workloads] at workloadsLeft
  simp only [LeaseSmHolder.Publishing, LeaseSmHolder.InPhase,
    mxLeaseProfileIsPublisher_none, Bool.false_eq_true, reduceCtorEq, if_false,
    Nat.add_zero] at publishersLeft workloadsLeft
  have elsewhere : ∀ other, (Function.update holder ctx
        { holder ctx with profile := .none, phase := .none } other).Profiled →
      other ≠ ctx := by
    rintro other otherProfiled rfl
    simp [LeaseSmHolder.Profiled] at otherProfiled
  refine
    { holderOk := counters.holderOk_update
        ⟨rfl, fun isLegacy => by simp [notLegacy] at isLegacy⟩
      familyHolders := (Nat.eq_sub_of_add_eq familyLeft).symm
      publishers := ?_
      publishersLe := ?_
      workloads := ?_
      legacyHolders := ?_
      quiescent := ?_
      alone := ?_
      exclusive := .inl (counters.noLegacy_of_profiled profiled)
      familyOf := ?_
      familyNone := fun noHolder => if_pos noHolder
      ready := ?_
      familyBound := (Nat.sub_le ..).trans counters.familyBound
      legacyBound := counters.legacyBound }
  · simp only [mxLeaseSmReleaseCommit]
    split <;> simp_all
    omega
  · simp only [mxLeaseSmReleaseCommit]
    have bound := counters.publishersLe
    split <;> omega
  · simp only [mxLeaseSmReleaseCommit]
    split <;> simp_all
    omega
  · change sm.legacyHolders = _
    rw [counters.legacyHolders, tally_update_same]
    simp [LeaseSmHolder.Legacy]
  · simp only [mxLeaseSmReleaseCommit]
    by_cases wasQuiescent : (holder ctx).phase = .quiescent
    · have publishing : (holder ctx).Publishing :=
        (counters.holderOk ctx).publishing_of_phase profiled (by simp [wasQuiescent])
      simp only [wasQuiescent, if_true, Bool.false_eq_true, false_iff, not_exists]
      intro other phase
      have cleared : HolderOk { holder ctx with profile := .none, phase := .none } :=
        ⟨rfl, fun isLegacy => by simp [notLegacy] at isLegacy⟩
      have ok : HolderOk (Function.update holder ctx _ other) :=
        counters.holderOk_update cleared other
      have notSelf := elsewhere other (ok.profiled_of_phase (by simp [phase]))
      rw [Function.update_of_ne notSelf] at phase
      exact notSelf (counters.eq_of_quiescent phase publishing)
    · rw [if_neg wasQuiescent, counters.quiescent]
      constructor
      · rintro ⟨other, phase⟩
        refine ⟨other, ?_⟩
        rw [Function.update_of_ne]
        · exact phase
        · rintro rfl
          exact wasQuiescent phase
      · rintro ⟨other, phase⟩
        refine ⟨other, ?_⟩
        rw [Function.update_apply] at phase
        split at phase <;> simp_all
  · simp only [mxLeaseSmReleaseCommit]
    intro stillQuiescent
    have quiescent : sm.quiescent = true := by
      split at stillQuiescent <;> simp_all
    have noWorkload := counters.alone quiescent
    split <;> omega
  · intro other otherProfiled
    have notSelf := elsewhere other otherProfiled
    have left : 0 < tally LeaseSmHolder.Profiled (Function.update holder ctx
        { holder ctx with profile := .none, phase := .none }) :=
      tally_pos otherProfiled
    rw [Function.update_of_ne notSelf] at otherProfiled ⊢
    have occupied : sm.familyHolders - 1 ≠ 0 := by omega
    simp only [mxLeaseSmReleaseCommit, if_neg occupied]
    exact counters.familyOf other otherProfiled
  · intro other runtime
    rw [Function.update_apply] at runtime
    split at runtime
    · simp [isCoordinatorRuntime] at runtime
    · exact counters.ready other runtime

theorem release (ctx : ι) :
    CountersExact (mxLeaseSmRelease sm (holder ctx)).1
      (Function.update holder ctx (mxLeaseSmRelease sm (holder ctx)).2) := by
  unfold mxLeaseSmRelease
  split
  · rename_i legacy
    exact counters.leaveLegacy legacy
  split
  · simpa using counters
  · rename_i notLegacy profiled
    exact counters.leaveProfiled profiled (by simpa using notLegacy)

end CountersExact

end MxDriver
