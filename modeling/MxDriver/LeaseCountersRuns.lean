import MxDriver.LeaseCountersExact

/-!
# The counters are exact in every interleaving

A transition and its undo are the same publisher move in the two directions.
The undo compares the whole state machine with the one its call installed, and
other holders may have come and gone in between; since both states count their
holders exactly, equal counters are enough for the old ones to be exact again.
-/

namespace MxDriver

variable {ι θ : Type*} [Fintype ι] [DecidableEq ι]
variable {sm newSm : LeaseSm} {holder : ι → LeaseSmHolder}
variable {oldHolder newHolder : LeaseSmHolder} {ctx : ι}

section Moves

variable (move : PublisherMove sm oldHolder newSm newHolder)
include move

theorem PublisherMove.profile : newHolder.profile = oldHolder.profile := by
  cases move <;> rfl

theorem PublisherMove.legacy : newHolder.legacy = oldHolder.legacy := by
  cases move <;> rfl

theorem PublisherMove.frame :
    newSm.family = sm.family ∧ newSm.familyHolders = sm.familyHolders ∧
      newSm.publishers = sm.publishers ∧ newSm.legacyHolders = sm.legacyHolders := by
  cases move <;> simp

theorem PublisherMove.allowed
    (publisher : mxLeaseProfileIsPublisher oldHolder.profile = true) (ok : HolderOk oldHolder) :
    phaseAllowed newHolder.profile newHolder.phase = true := by
  have allowed := ok.phase
  cases move with
  | stay => exact allowed
  | prepare initializer phase quiescent => simp [initializer, phaseAllowed]
  | tryQuiescent notInitializer phase noWorkload notQuiescent =>
    cases profileEq : oldHolder.profile <;> simp_all [phaseAllowed]
  | activateWorkload notInitializer phase room quiescent =>
    cases profileEq : oldHolder.profile <;>
      simp_all [phaseAllowed, mxLeaseProfileIsPublisher]
  | activateReplacement hub phase room => simp [hub, phaseAllowed]

/-- A move counts the publisher as a workload exactly when it makes it one. -/
theorem PublisherMove.workloads (bound : sm.workloads ≤ u32Max) :
    newSm.workloads + (if oldHolder.phase = .workload then 1 else 0) =
      sm.workloads + (if newHolder.phase = .workload then 1 else 0) := by
  cases move with
  | stay => rfl
  | prepare initializer phase quiescent => simp [phase]
  | tryQuiescent notInitializer phase noWorkload notQuiescent => simp [phase]
  | activateWorkload notInitializer phase room quiescent =>
    simp [phase, incU32_of_ne_max bound room]
  | activateReplacement hub phase room =>
    simp [phase, incU32_of_ne_max bound room]

theorem PublisherMove.quiescent (before : sm.quiescent = true ↔ oldHolder.phase = .quiescent) :
    newSm.quiescent = true ↔ newHolder.phase = .quiescent := by
  cases move with
  | stay => exact before
  | prepare initializer phase quiescent => simp
  | tryQuiescent notInitializer phase noWorkload notQuiescent => simp
  | activateWorkload notInitializer phase room quiescent => simp
  | activateReplacement hub phase room => simpa [phase] using before

theorem PublisherMove.alone (beforeIff : sm.quiescent = true ↔ oldHolder.phase = .quiescent)
    (before : sm.quiescent = true → sm.workloads = 0) :
    newSm.quiescent = true → newSm.workloads = 0 := by
  cases move with
  | stay => exact before
  | prepare initializer phase quiescent => simp
  | tryQuiescent notInitializer phase noWorkload notQuiescent =>
    exact fun _ => noWorkload
  | activateWorkload notInitializer phase room quiescent => simp
  | activateReplacement hub phase room => simp_all

end Moves

/-- A publisher move keeps the counters counters. -/
theorem CountersExact.move (counters : CountersExact sm holder)
    (publisher : mxLeaseProfileIsPublisher (holder ctx).profile = true)
    (move : PublisherMove sm (holder ctx) newSm newHolder) :
    CountersExact newSm (Function.update holder ctx newHolder) := by
  obtain ⟨family, familyHolders, publishers, legacyHolders⟩ := move.frame
  have quiescentIff := counters.quiescent_iff_of_publishing publisher
  refine counters.movePublisher publisher move.profile move.legacy
    (move.allowed publisher (counters.holderOk ctx)) family familyHolders publishers
    legacyHolders (move.workloads (counters.workloads_le.trans counters.familyBound))
    (move.quiescent quiescentIff) (move.alone quiescentIff counters.alone) ?_
  cases move <;> simp_all

/-- A publisher move can be taken back from any later state whose counters and
holder are the ones it installed. -/
theorem CountersExact.unmove (counters : CountersExact newSm holder)
    (installed : holder ctx = newHolder) (move : PublisherMove sm oldHolder newSm newHolder)
    (publisher : mxLeaseProfileIsPublisher oldHolder.profile = true)
    (ok : HolderOk oldHolder) (bound : sm.workloads ≤ u32Max)
    (quiescentIff : sm.quiescent = true ↔ oldHolder.phase = .quiescent)
    (alone : sm.quiescent = true → sm.workloads = 0) :
    CountersExact sm (Function.update holder ctx oldHolder) := by
  obtain ⟨family, familyHolders, publishers, legacyHolders⟩ := move.frame
  have publishing : (holder ctx).Publishing := by
    rw [LeaseSmHolder.Publishing, installed, move.profile]
    exact publisher
  refine counters.movePublisher publishing (installed ▸ move.profile.symm)
    (installed ▸ move.legacy.symm) ok.phase family.symm familyHolders.symm
    publishers.symm legacyHolders.symm (installed ▸ (move.workloads bound).symm)
    quiescentIff alone ?_
  -- only undoing a preparation lowers `coordinator_ready`, and it had no workload
  cases move <;> simp_all

section Runs

/-- The counters are exact and every kept record is one a step has made. -/
structure SmInvariant (system : SmSystem ι θ) : Prop where
  counters : CountersExact system.sm system.holder
  sound : ∀ thread undo, system.call thread = some undo → undo.Sound

omit [DecidableEq ι] in
theorem smInvariant_zero : SmInvariant (SmSystem.zero : SmSystem ι θ) where
  counters :=
    { holderOk := fun _ => ⟨rfl, by simp [SmSystem.zero]⟩
      familyHolders := (tally_eq_zero_iff.mpr (by simp [SmSystem.zero])).symm
      publishers := (tally_eq_zero_iff.mpr (by simp [SmSystem.zero])).symm
      publishersLe := Nat.zero_le _
      workloads := (tally_eq_zero_iff.mpr (by simp [SmSystem.zero])).symm
      legacyHolders := (tally_eq_zero_iff.mpr (by simp [SmSystem.zero])).symm
      quiescent := by simp [SmSystem.zero]
      alone := by simp [SmSystem.zero]
      exclusive := .inl rfl
      familyOf := by simp [SmSystem.zero]
      familyNone := fun _ => rfl
      ready := by simp [SmSystem.zero, isCoordinatorRuntime]
      familyBound := Nat.zero_le _
      legacyBound := Nat.zero_le _ }
  sound := by simp [SmSystem.zero]

theorem CountersExact.authorize {outcome : SmOutcome} (counters : CountersExact sm holder)
    (effect : AuthorizeEffect sm (holder ctx) outcome) :
    CountersExact outcome.sm (Function.update holder ctx outcome.holder) := by
  cases effect with
  | refused error => simpa using counters
  | admitted entitled => simpa using counters
  | enlisted unprofiled notLegacy idle room =>
    exact counters.enlist unprofiled notLegacy idle room

theorem SmInvariant.undo {system : SmSystem ι θ} (invariant : SmInvariant system)
    {undo : UndoRecord ι} (sound : undo.Sound) :
    CountersExact (system.undo undo).sm (system.undo undo).holder := by
  cases undo with
  | acquire ctx newHolder =>
    simp only [SmSystem.undo, SmSystem.put, undoAcquireSm]
    split
    · exact invariant.counters.release ctx
    · simpa using invariant.counters
  | transition ctx undo =>
    simp only [SmSystem.undo, SmSystem.put, mxLeaseTransitionUndo]
    split
    · rename_i unchanged
      obtain ⟨move, publisher, ok, bound, quiescentIff, alone⟩ := sound
      exact (unchanged.1 ▸ invariant.counters).unmove unchanged.2 move publisher ok
        bound quiescentIff alone
    · simpa using invariant.counters

variable [DecidableEq θ]

omit [DecidableEq ι] in
theorem SmInvariant.settle {system : SmSystem ι θ} (invariant : SmInvariant system)
    (counters : CountersExact sm holder) (thread : θ) :
    SmInvariant
      { sm := sm, holder := holder,
        call := Function.update system.call thread none } where
  counters := counters
  sound := by
    intro other undo kept
    simp only [Function.update_apply] at kept
    split at kept
    · cases kept
    · exact invariant.sound other undo kept

theorem SmInvariant.publish {system : SmSystem ι θ} (invariant : SmInvariant system)
    {thread : θ} {ctx : ι} {outcome : SmOutcome} {undo : UndoRecord ι}
    (counters : CountersExact outcome.sm
      (Function.update system.holder ctx outcome.holder))
    (sound : outcome.ret = none → undo.Sound) :
    SmInvariant (system.publish thread ctx outcome undo) where
  counters := counters
  sound := by
    intro other kept keptEq
    simp only [SmSystem.publish] at keptEq
    split at keptEq
    · rename_i succeeded
      by_cases same : other = thread
      · subst other
        obtain rfl : undo = kept := by simpa using keptEq
        exact sound succeeded
      · rw [Function.update_of_ne same] at keptEq
        exact invariant.sound other kept keptEq
    · exact invariant.sound other kept keptEq

theorem SmInvariant.acquire {system : SmSystem ι θ} (invariant : SmInvariant system)
    (thread : θ) (ctx : ι) (profile : LeaseProfile) :
    SmInvariant (system.publish thread ctx
      (mxLeaseSmAcquire system.sm (system.holder ctx) profile)
      (.acquire ctx (mxLeaseSmAcquire system.sm (system.holder ctx) profile).holder)) := by
  refine invariant.publish ?_ fun _ => trivial
  have effect := mxLeaseSmAcquire_effect system.sm (system.holder ctx) profile
  generalize mxLeaseSmAcquire system.sm (system.holder ctx) profile = outcome at effect
  cases effect with
  | refused error => simpa using invariant.counters
  | found profiled same => simpa using invariant.counters
  | granted phase known notLegacy noLegacy unprofiled family room phaseEq =>
    exact invariant.counters.grant known notLegacy noLegacy unprofiled family room
      phaseEq

theorem SmInvariant.transition {system : SmSystem ι θ}
    (invariant : SmInvariant system) (thread : θ) (ctx : ι) (operation : LeaseTransitionOp)
    (activeDirect activeTransfers barMappings : Nat)
    (slotDomainAnchored : Bool) {outcome : SmOutcome}
    (outcomeEq : mxLeaseSmTransition system.sm (system.holder ctx) operation
      activeDirect activeTransfers barMappings slotDomainAnchored = outcome) :
    SmInvariant (system.publish thread ctx outcome
      (.transition ctx
        ⟨system.sm, outcome.sm, system.holder ctx, outcome.holder⟩)) := by
  have effect := mxLeaseSmTransition_effect system.sm (system.holder ctx) operation
    activeDirect activeTransfers barMappings slotDomainAnchored
  rw [outcomeEq] at effect
  cases effect with
  | refused error =>
    exact invariant.publish (by simpa using invariant.counters) (by simp)
  | moved publisher notLegacy move guards =>
    have counters := invariant.counters
    exact invariant.publish (counters.move publisher move) fun _ =>
      ⟨move, publisher, counters.holderOk ctx,
        counters.workloads_le.trans counters.familyBound,
        counters.quiescent_iff_of_publishing publisher, counters.alone⟩

theorem SmInvariant.step {system next : SmSystem ι θ} {action : SmAction ι θ}
    (invariant : SmInvariant system) (stepped : smStep system action = some next) :
    SmInvariant next := by
  cases action with
  | acquire thread ctx profile =>
    simp only [smStep] at stepped
    split at stepped
    · cases stepped
    obtain rfl := Option.some.inj stepped
    exact invariant.acquire thread ctx profile
  | transition thread ctx operation activeDirect activeTransfers barMappings
      slotDomainAnchored =>
    simp only [smStep] at stepped
    split at stepped
    · cases stepped
    obtain rfl := Option.some.inj stepped
    exact invariant.transition thread ctx operation activeDirect activeTransfers
      barMappings slotDomainAnchored rfl
  | release ctx =>
    obtain rfl := Option.some.inj stepped
    exact ⟨invariant.counters.release ctx, invariant.sound⟩
  | authorizeDirect ctx =>
    obtain rfl := Option.some.inj stepped
    exact ⟨invariant.counters.authorize (mxLeaseSmAuthorizeDirect_effect ..),
      invariant.sound⟩
  | authorizeDirectAnchored ctx anchored =>
    obtain rfl := Option.some.inj stepped
    exact ⟨invariant.counters.authorize
      (mxLeaseSmAuthorizeDirectAnchored_effect ..).1, invariant.sound⟩
  | admitDirect ctx anchored activeDirect =>
    obtain rfl := Option.some.inj stepped
    refine ⟨invariant.counters.authorize ?_, invariant.sound⟩
    simp only [mxLeaseSmAdmitDirect]
    split
    · exact .refused _
    split <;> exact (mxLeaseSmAuthorizeDirectAnchored_effect ..).1
  | replyCopied thread =>
    obtain rfl := Option.some.inj stepped
    exact invariant.settle invariant.counters thread
  | replyFaulted thread =>
    obtain ⟨undo, kept, rfl⟩ := Option.map_eq_some_iff.mp stepped
    exact invariant.settle
      (invariant.undo (invariant.sound thread undo kept)) thread

theorem smInvariant_of_reached {system : SmSystem ι θ}
    (reached : Reached smStep SmSystem.zero system) : SmInvariant system :=
  reached.invariant smInvariant_zero fun _ _ _ invariant _ stepped =>
    invariant.step stepped

/-- In every interleaving of the lock-atomic lease steps from the zero state,
undo sections included, each counter is the number of holders it counts; there
is at most one publisher, quiescence is exclusive, and the holders agree on one
family. -/
theorem leaseCounters_exact {system : SmSystem ι θ}
    (reached : Reached smStep SmSystem.zero system) :
    system.sm.familyHolders =
        tally (fun holder => holder.profile ≠ .none) system.holder ∧
      system.sm.publishers =
        tally (fun holder => mxLeaseProfileIsPublisher holder.profile = true)
          system.holder ∧
      system.sm.publishers ≤ 1 ∧
      system.sm.workloads =
        tally (fun holder => holder.phase = .workload) system.holder ∧
      system.sm.legacyHolders =
        tally (fun holder => holder.legacy = true) system.holder ∧
      (system.sm.quiescent = true ↔
        tally (fun holder => holder.phase = .quiescent) system.holder = 1) ∧
      (system.sm.quiescent = true →
        system.sm.workloads = 0 ∧ system.sm.publishers = 1) ∧
      (∀ ctx, ¬ ((system.holder ctx).legacy = true ∧
        (system.holder ctx).profile ≠ .none)) ∧
      ¬ (system.sm.legacyHolders ≠ 0 ∧ system.sm.familyHolders ≠ 0) ∧
      (∀ ctx, (system.holder ctx).profile ≠ .none →
        mxLeaseProfileFamily (system.holder ctx).profile = system.sm.family) ∧
      (system.sm.family = .none ↔ ∀ ctx, (system.holder ctx).profile = .none) ∧
      (∀ ctx, (system.holder ctx).profile = .coordinatorControl ∨
          (system.holder ctx).profile = .coordinatorWorkload →
        (system.holder ctx).phase = .workload ∧
          system.sm.coordinatorReady = true) := by
  have counters := (smInvariant_of_reached reached).counters
  refine ⟨counters.familyHolders, counters.publishers, counters.publishersLe,
    counters.workloads, counters.legacyHolders, ?_, ?_, ?_, ?_, counters.familyOf, ?_, ?_⟩
  · rw [counters.quiescent, tally_eq_one_iff]
    constructor
    · rintro ⟨ctx, phase⟩
      refine ⟨ctx, phase, fun other otherPhase => ?_⟩
      exact counters.eq_of_quiescent otherPhase (counters.publishing_of_quiescent phase)
    · rintro ⟨ctx, phase, -⟩
      exact ⟨ctx, phase⟩
  · intro quiescent
    obtain ⟨ctx, phase⟩ := counters.quiescent.mp quiescent
    have counted : 0 < tally LeaseSmHolder.Publishing system.holder :=
      tally_pos (counters.publishing_of_quiescent phase)
    rw [← counters.publishers] at counted
    have atMostOne := counters.publishersLe
    exact ⟨counters.alone quiescent, by omega⟩
  · rintro ctx ⟨legacy, profiled⟩
    exact profiled ((counters.holderOk ctx).legacy legacy)
  · rintro ⟨someLegacy, someHolder⟩
    exact counters.exclusive.elim someLegacy someHolder
  · constructor
    · intro noFamily ctx
      by_contra profiled
      exact family_ne_none_of_allowed (counters.holderOk ctx).phase profiled
        ((counters.familyOf ctx profiled).trans noFamily)
    · intro unprofiled
      apply counters.familyNone
      rw [counters.familyHolders, tally_eq_zero_iff]
      exact fun ctx profiled => profiled (unprofiled ctx)
  · intro ctx runtimeProfile
    have runtime : isCoordinatorRuntime (system.holder ctx).profile = true := by
      rcases runtimeProfile with profile | profile <;>
        simp [profile, isCoordinatorRuntime]
    exact ⟨(counters.holderOk ctx).workload_of_runtime runtime, counters.ready ctx runtime⟩

/-- A hub publisher is activated, a workload joins and leaves again, and then
the reply of the activation faults: the undo finds its own state machine. -/
def activationRun : List (SmAction Party Party) :=
  [.acquire 0 0 .hubPublisher, .replyCopied 0,
    .transition 0 0 .activateWorkload 0 0 0 true,
    .acquire 1 1 .hubWorkload, .replyFaulted 1, .replyFaulted 0]

theorem leaseCounters_exact_activationRun :
    ∃ system, runActions smStep SmSystem.zero activationRun = some system ∧
      (system.holder 0).phase = .quiescent ∧
      system.sm.workloads =
        tally (fun holder => holder.phase = .workload) system.holder := by
  have run : runActions smStep SmSystem.zero activationRun = some _ := rfl
  exact ⟨_, run, rfl, (leaseCounters_exact (reached_of_runActions run)).2.2.2.1⟩

end Runs

end MxDriver
