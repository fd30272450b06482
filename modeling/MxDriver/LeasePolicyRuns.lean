import MxDriver.LeaseFollowsPolicy

/-!
# Every run of the state machine is a run of the policy

The one place where the machine looks at all its counters at once is the undo of a
transition, which compares them with the ones its call installed.  A publisher in a given
phase leaves little open: the counters agree as soon as as many contexts hold a profile
and the coordinator is as ready as then.
-/

namespace MxDriver

variable {ι θ : Type*} [Fintype ι]
variable {sm newSm : LeaseSm} {holder others : ι → LeaseSmHolder} {ctx : ι}

namespace CountersExact

variable [DecidableEq ι]

/-- Apart from the publisher, everybody who holds a profile works. -/
theorem workloads_of_publishing (counters : CountersExact sm holder)
    (publishing : (holder ctx).Publishing) :
    sm.workloads + (if (holder ctx).phase = .workload then 0 else 1) = sm.familyHolders := by
  rw [counters.workloads, counters.familyHolders]
  refine tally_add_of_eq_elsewhere (ne_none_of_isPublisher publishing) fun other elsewhere => ?_
  constructor
  · intro working
    have working : (holder other).phase = .workload := working
    exact (counters.holderOk other).profiled_of_phase (by simp [working])
  · intro profiled
    by_contra idle
    have publishingToo := (counters.holderOk other).publishing_of_phase profiled idle
    exact elsewhere (eq_of_tally_le_one (counters.publishers ▸ counters.publishersLe)
      publishingToo publishing)

omit [DecidableEq ι] in
theorem publishers_of_publishing (counters : CountersExact sm holder)
    (publishing : (holder ctx).Publishing) : sm.publishers = 1 := by
  have atMost := counters.publishersLe
  have some := counters.published_iff.mp ⟨ctx, publishing⟩
  omega

/-- The counters around a publisher are known from the number of holders. -/
theorem eq_of_publishing (counters : CountersExact sm holder)
    (countersThen : CountersExact newSm others) (same : holder ctx = others ctx)
    (publishing : (holder ctx).Publishing) (holders : sm.familyHolders = newSm.familyHolders)
    (ready : sm.coordinatorReady = newSm.coordinatorReady) : sm = newSm := by
  have publishingThen : (others ctx).Publishing := same ▸ publishing
  have profiled := ne_none_of_isPublisher publishing
  have profiledThen := ne_none_of_isPublisher publishingThen
  have family : sm.family = newSm.family := by
    rw [← counters.familyOf ctx profiled, ← countersThen.familyOf ctx profiledThen, same]
  have publishers : sm.publishers = newSm.publishers := by
    rw [counters.publishers_of_publishing publishing,
      countersThen.publishers_of_publishing publishingThen]
  have workloads : sm.workloads = newSm.workloads := by
    have now := counters.workloads_of_publishing publishing
    have before := countersThen.workloads_of_publishing publishingThen
    rw [← same] at before
    omega
  have legacyHolders : sm.legacyHolders = newSm.legacyHolders := by
    rw [counters.noLegacy_of_profiled profiled, countersThen.noLegacy_of_profiled profiledThen]
  have quiescent : sm.quiescent = newSm.quiescent := by
    rw [Bool.eq_iff_iff, counters.quiescent_iff_of_publishing publishing,
      countersThen.quiescent_iff_of_publishing publishingThen, same]
  cases sm
  cases newSm
  simp_all

end CountersExact

/-! ## The machine as one that answers -/

section Systems

/-- The part of a record that the policy keeps. -/
def UndoRecord.policy : UndoRecord ι → PolicyUndo ι
  | .acquire ctx newHolder => .acquire ctx newHolder
  | .transition ctx undo =>
    .transition ctx undo.oldHolder undo.newHolder undo.oldState.coordinatorReady
      undo.newState.coordinatorReady undo.newState.familyHolders

/-- The policy that a state of the machine stands for. -/
def SmSystem.policy (system : SmSystem ι θ) : LeasePolicy ι θ where
  table := leaseTable system.sm system.holder
  call := fun thread => (system.call thread).map UndoRecord.policy

def SmSystem.answer (system : SmSystem ι θ) (ret : Ret) : LeaseAnswer ι where
  ret := ret
  holder := system.holder
  ready := system.sm.coordinatorReady

/-- The return code of a step. -/
def smRet (system : SmSystem ι θ) : SmAction ι θ → Ret
  | .acquire _ ctx profile => (mxLeaseSmAcquire system.sm (system.holder ctx) profile).ret
  | .transition _ ctx operation activeDirect activeTransfers barMappings
      slotDomainAnchored =>
    (mxLeaseSmTransition system.sm (system.holder ctx) operation activeDirect
      activeTransfers barMappings slotDomainAnchored).ret
  | .release _ | .replyCopied _ => none
  | .authorizeDirect ctx => (mxLeaseSmAuthorizeDirect system.sm (system.holder ctx)).ret
  | .authorizeDirectAnchored ctx anchored =>
    (mxLeaseSmAuthorizeDirectAnchored system.sm (system.holder ctx) anchored).ret
  | .admitDirect ctx anchored activeDirect =>
    (mxLeaseSmAdmitDirect system.sm (system.holder ctx) anchored activeDirect).1.ret
  | .replyFaulted _ => some .efault

variable [DecidableEq ι] [DecidableEq θ]

/-- The step relation of the machine, with what is seen of each step. -/
def smRespond (system : SmSystem ι θ) (action : SmAction ι θ) :
    Option (LeaseAnswer ι × SmSystem ι θ) :=
  (smStep system action).map fun next => (next.answer (smRet system action), next)

/-! ## What the policy relies on -/

omit [Fintype ι] in
theorem PreparedReady.put {newHolder : LeaseSmHolder} (prepared : PreparedReady sm holder)
    (raised : sm.coordinatorReady = true → newSm.coordinatorReady = true)
    (own : newHolder.phase = .coordinatorPrepared → newSm.coordinatorReady = true) :
    PreparedReady newSm (Function.update holder ctx newHolder) := by
  intro other phase
  by_cases same : other = ctx
  · subst same
    exact own (by simpa using phase)
  · rw [Function.update_of_ne same] at phase
    exact raised (prepared other phase)

/-- Only the one publisher can have prepared a coordinator, so once it has gone back
nobody relies on the mark. -/
theorem CountersExact.preparedReady_of_publishing {newHolder : LeaseSmHolder}
    (counters : CountersExact newSm (Function.update holder ctx newHolder))
    (publishing : newHolder.Publishing) (own : newHolder.phase ≠ .coordinatorPrepared) :
    PreparedReady newSm (Function.update holder ctx newHolder) := by
  intro other phase
  have ok := counters.holderOk other
  have publishingToo := ok.publishing_of_phase (ok.profiled_of_phase (by simp [phase]))
    (by simp [phase])
  have same : other = ctx :=
    eq_of_tally_le_one (counters.publishers ▸ counters.publishersLe) publishingToo
      (by simpa using publishing)
  subst same
  exact (own (by simpa using phase)).elim

/-- A kept transition was made from exact counters by the publisher it names. -/
def UndoRecord.Installed : UndoRecord ι → Prop
  | .acquire _ _ => True
  | .transition ctx undo => mxLeaseProfileIsPublisher undo.newHolder.profile = true ∧
      ∃ holder : ι → LeaseSmHolder, CountersExact undo.newState holder ∧
        holder ctx = undo.newHolder

/-- The invariant of the counters, with what the policy relies on besides. -/
structure PolicyInvariant (system : SmSystem ι θ) : Prop where
  machine : SmInvariant system
  prepared : PreparedReady system.sm system.holder
  installed : ∀ thread undo, system.call thread = some undo → undo.Installed

theorem PreparedReady.acquire {profile : LeaseProfile} {outcome : SmOutcome}
    (prepared : PreparedReady sm holder) (effect : AcquireEffect sm (holder ctx) profile outcome)
    (after : CountersExact outcome.sm (Function.update holder ctx outcome.holder)) :
    PreparedReady outcome.sm (Function.update holder ctx outcome.holder) := by
  cases effect with
  | refused error => simpa using prepared
  | found profiled same => simpa using prepared
  | granted phase known notLegacy noLegacy unprofiled family room phaseEq =>
    have own : phase ≠ .coordinatorPrepared := by
      rintro rfl
      cases profile <;> simp only [mxLeaseSmAcquirePhase] at phaseEq <;> grind
    by_cases initializer : profile = .coordinatorInitializer
    · exact after.preparedReady_of_publishing (by simp [initializer]; rfl) own
    · refine prepared.put (fun ready => ?_) fun phaseIs => (own phaseIs).elim
      simpa [mxLeaseSmAcquireCommit, initializer] using ready

omit [Fintype ι] in
theorem PreparedReady.move {moved : LeaseSmHolder} (prepared : PreparedReady sm holder)
    (move : PublisherMove sm (holder ctx) newSm moved) :
    PreparedReady newSm (Function.update holder ctx moved) := by
  cases move with
  | stay => simpa using prepared
  | prepare initializer phase quiescent => exact fun _ _ => rfl
  | tryQuiescent | activateWorkload | activateReplacement =>
    exact prepared.put (fun ready => ready) (by simp)

/-- Taking a move back lowers the mark only where the publisher goes back from having
prepared. -/
theorem PreparedReady.unmove (prepared : PreparedReady newSm holder)
    {before moved : LeaseSmHolder} (installed : holder ctx = moved)
    (move : PublisherMove sm before newSm moved)
    (publisher : mxLeaseProfileIsPublisher before.profile = true)
    (after : CountersExact sm (Function.update holder ctx before)) :
    PreparedReady sm (Function.update holder ctx before) := by
  cases move with
  | stay => simpa [← installed] using prepared
  | prepare initializer phase quiescent =>
    exact after.preparedReady_of_publishing publisher (by simp [phase])
  | tryQuiescent notInitializer phase | activateWorkload notInitializer phase
  | activateReplacement hub phase =>
    exact prepared.put (fun ready => ready) (by simp [phase])

omit [Fintype ι] in
theorem PreparedReady.authorize {outcome : SmOutcome} (prepared : PreparedReady sm holder)
    (effect : AuthorizeEffect sm (holder ctx) outcome) :
    PreparedReady outcome.sm (Function.update holder ctx outcome.holder) := by
  cases effect with
  | refused error => simpa using prepared
  | admitted entitled => simpa using prepared
  | enlisted unprofiled notLegacy idle room =>
    exact prepared.put (fun ready => ready) (prepared ctx)

theorem PreparedReady.release (counters : CountersExact sm holder)
    (prepared : PreparedReady sm holder) (ctx : ι) :
    PreparedReady (mxLeaseSmRelease sm (holder ctx)).1
      (Function.update holder ctx (mxLeaseSmRelease sm (holder ctx)).2) := by
  obtain ⟨gone, ready⟩ := mxLeaseSmRelease_gone sm (counters.holderOk ctx)
  rw [gone]
  exact prepared.put (fun was => ready.trans was) (by simp)

omit [DecidableEq θ] in
theorem PreparedReady.undo {system : SmSystem ι θ} (invariant : SmInvariant system)
    (prepared : PreparedReady system.sm system.holder) {undo : UndoRecord ι} (sound : undo.Sound) :
    PreparedReady (system.undo undo).sm (system.undo undo).holder := by
  have after := invariant.undo sound
  cases undo with
  | acquire ctx newHolder =>
    simp only [SmSystem.undo, SmSystem.put, undoAcquireSm]
    split
    · exact prepared.release invariant.counters ctx
    · simpa using prepared
  | transition ctx undo =>
    simp only [SmSystem.undo, SmSystem.put, mxLeaseTransitionUndo] at after ⊢
    split at after
    · rename_i unchanged
      rw [if_pos unchanged]
      exact (unchanged.1 ▸ prepared).unmove unchanged.2 sound.1 sound.2.1 after
    · rename_i changed
      rw [if_neg changed]
      simpa using prepared

/-- Every lock-atomic step keeps the mark of a prepared coordinator. -/
theorem PreparedReady.step {system next : SmSystem ι θ} {action : SmAction ι θ}
    (invariant : SmInvariant system) (prepared : PreparedReady system.sm system.holder)
    (stepped : smStep system action = some next) : PreparedReady next.sm next.holder := by
  have after := (invariant.step stepped).counters
  cases action with
  | acquire thread ctx profile =>
    simp only [smStep] at stepped
    split at stepped
    · cases stepped
    obtain rfl := Option.some.inj stepped
    exact prepared.acquire (mxLeaseSmAcquire_effect ..) after
  | transition thread ctx operation activeDirect activeTransfers barMappings
      slotDomainAnchored =>
    simp only [smStep] at stepped
    split at stepped
    · cases stepped
    obtain rfl := Option.some.inj stepped
    have effect := mxLeaseSmTransition_effect system.sm (system.holder ctx) operation
      activeDirect activeTransfers barMappings slotDomainAnchored
    simp only [SmSystem.publish, SmSystem.put]
    generalize mxLeaseSmTransition system.sm (system.holder ctx) operation activeDirect
      activeTransfers barMappings slotDomainAnchored = outcome at effect
    cases effect with
    | refused error => simpa using prepared
    | moved publisher notLegacy move guards => exact prepared.move move
  | release ctx =>
    obtain rfl := Option.some.inj stepped
    exact prepared.release invariant.counters ctx
  | authorizeDirect ctx =>
    obtain rfl := Option.some.inj stepped
    exact prepared.authorize (mxLeaseSmAuthorizeDirect_effect ..)
  | authorizeDirectAnchored ctx anchored =>
    obtain rfl := Option.some.inj stepped
    exact prepared.authorize (mxLeaseSmAuthorizeDirectAnchored_effect ..).1
  | admitDirect ctx anchored activeDirect =>
    obtain rfl := Option.some.inj stepped
    refine prepared.authorize ?_
    simp only [mxLeaseSmAdmitDirect]
    split
    · exact .refused _
    split <;> exact (mxLeaseSmAuthorizeDirectAnchored_effect ..).1
  | replyCopied thread =>
    obtain rfl := Option.some.inj stepped
    exact prepared
  | replyFaulted thread =>
    obtain ⟨undo, kept, rfl⟩ := Option.map_eq_some_iff.mp stepped
    exact prepared.undo invariant (invariant.sound thread undo kept)

omit [Fintype ι] in
theorem SmSystem.publish_call {system : SmSystem ι θ} {thread other : θ} {outcome : SmOutcome}
    {undo kept : UndoRecord ι}
    (keptEq : (system.publish thread ctx outcome undo).call other = some kept) :
    system.call other = some kept ∨ outcome.ret = none ∧ kept = undo := by
  simp only [SmSystem.publish] at keptEq
  split at keptEq
  · rename_i succeeded
    by_cases same : other = thread
    · subst same
      exact .inr ⟨succeeded, by simpa using keptEq.symm⟩
    · rw [Function.update_of_ne same] at keptEq
      exact .inl keptEq
  · exact .inl keptEq

omit [Fintype ι] [DecidableEq ι] in
theorem call_of_update_none {call : θ → Option (UndoRecord ι)} {thread other : θ}
    {kept : UndoRecord ι} (keptEq : Function.update call thread none other = some kept) :
    call other = some kept := by
  by_cases same : other = thread
  · simp [same] at keptEq
  · rwa [Function.update_of_ne same] at keptEq

theorem UndoRecord.installed_of_step {system next : SmSystem ι θ} {action : SmAction ι θ}
    (invariant : SmInvariant system)
    (installed : ∀ thread undo, system.call thread = some undo → undo.Installed)
    (stepped : smStep system action = some next) (thread : θ) (undo : UndoRecord ι)
    (kept : next.call thread = some undo) : undo.Installed := by
  have after := (invariant.step stepped).counters
  cases action with
  | acquire caller ctx profile =>
    simp only [smStep] at stepped
    split at stepped
    · cases stepped
    obtain rfl := Option.some.inj stepped
    obtain before | ⟨-, rfl⟩ := SmSystem.publish_call kept
    · exact installed thread undo before
    · trivial
  | transition caller ctx operation activeDirect activeTransfers barMappings
      slotDomainAnchored =>
    simp only [smStep] at stepped
    split at stepped
    · cases stepped
    obtain rfl := Option.some.inj stepped
    obtain before | ⟨accepted, rfl⟩ := SmSystem.publish_call kept
    · exact installed thread undo before
    refine ⟨?_, _, after, Function.update_self ..⟩
    have effect := mxLeaseSmTransition_effect system.sm (system.holder ctx) operation
      activeDirect activeTransfers barMappings slotDomainAnchored
    generalize mxLeaseSmTransition system.sm (system.holder ctx) operation activeDirect
      activeTransfers barMappings slotDomainAnchored = outcome at effect accepted
    cases effect with
    | refused error => simp at accepted
    | moved publisher notLegacy move guards => exact move.profile ▸ publisher
  | release ctx | authorizeDirect ctx | authorizeDirectAnchored ctx anchored
  | admitDirect ctx anchored activeDirect =>
    obtain rfl := Option.some.inj stepped
    exact installed thread undo kept
  | replyCopied caller =>
    obtain rfl := Option.some.inj stepped
    exact installed thread undo (call_of_update_none kept)
  | replyFaulted caller =>
    obtain ⟨record, recorded, rfl⟩ := Option.map_eq_some_iff.mp stepped
    exact installed thread undo (call_of_update_none kept)

theorem PolicyInvariant.step {system next : SmSystem ι θ} {action : SmAction ι θ}
    (invariant : PolicyInvariant system) (stepped : smStep system action = some next) :
    PolicyInvariant next where
  machine := invariant.machine.step stepped
  prepared := invariant.prepared.step invariant.machine stepped
  installed := UndoRecord.installed_of_step invariant.machine invariant.installed stepped

/-! ## The refinement -/

omit [Fintype ι] [DecidableEq ι] in
theorem map_update_call (call : θ → Option (UndoRecord ι)) (thread : θ)
    (record : Option (UndoRecord ι)) :
    (fun other => (Function.update call thread record other).map UndoRecord.policy) =
      Function.update (fun other => (call other).map UndoRecord.policy) thread
        (record.map UndoRecord.policy) := by
  funext other
  by_cases same : other = thread
  · subst same
    simp
  · simp [Function.update_of_ne same]

omit [Fintype ι] in
theorem SmSystem.policy_publish (system : SmSystem ι θ) (thread : θ) (outcome : SmOutcome)
    (undo : UndoRecord ι) :
    (system.publish thread ctx outcome undo).policy =
      system.policy.publish thread
        (outcome.ret, leaseTable outcome.sm (Function.update system.holder ctx outcome.holder))
        undo.policy := by
  simp only [SmSystem.policy, SmSystem.publish, SmSystem.put, LeasePolicy.publish]
  split
  · rw [map_update_call]
    rfl
  · rfl

omit [Fintype ι] [DecidableEq ι] [DecidableEq θ] in
theorem SmSystem.policy_answer (system : SmSystem ι θ) (ret : Ret) :
    system.policy.answer ret = system.answer ret :=
  rfl

omit [DecidableEq θ] in
/-- The whole comparison of the undo section comes down to the holder, the number of
holders and the mark. -/
theorem PolicyInvariant.policy_undo {system : SmSystem ι θ}
    (invariant : PolicyInvariant system) (few : Fintype.card ι < u32Max) {undo : UndoRecord ι}
    (installed : undo.Installed) :
    leaseTable (system.undo undo).sm (system.undo undo).holder =
      LeasePolicy.undo system.policy.table undo.policy := by
  have counters := invariant.machine.counters
  cases undo with
  | acquire ctx newHolder =>
    simp only [SmSystem.undo, SmSystem.put, undoAcquireSm, UndoRecord.policy,
      LeasePolicy.undo]
    by_cases same : system.holder ctx = newHolder
    · rw [if_pos same, if_pos (show system.policy.table.holder ctx = newHolder from same)]
      exact (Judgeable.release_eq ⟨counters, invariant.prepared, few⟩ ctx).symm
    · rw [if_neg same, if_neg (show system.policy.table.holder ctx ≠ newHolder from same)]
      simp [SmSystem.policy]
  | transition ctx undo =>
    obtain ⟨publisher, holders, countersThen, holderThen⟩ := installed
    have unchanged : system.sm = undo.newState ∧ system.holder ctx = undo.newHolder ↔
        system.policy.table.holder ctx = undo.newHolder ∧
          system.policy.table.ready = undo.newState.coordinatorReady ∧
          tally LeaseSmHolder.Profiled system.policy.table.holder =
            undo.newState.familyHolders := by
      constructor
      · rintro ⟨sameSm, sameHolder⟩
        exact ⟨sameHolder, congrArg LeaseSm.coordinatorReady sameSm,
          sameSm ▸ counters.familyHolders.symm⟩
      · rintro ⟨sameHolder, ready, count⟩
        have sameHolder : system.holder ctx = undo.newHolder := sameHolder
        refine ⟨?_, sameHolder⟩
        exact counters.eq_of_publishing countersThen (sameHolder.trans holderThen.symm)
          (sameHolder ▸ publisher) (counters.familyHolders.trans count) ready
    simp only [SmSystem.undo, SmSystem.put, mxLeaseTransitionUndo, UndoRecord.policy,
      LeasePolicy.undo]
    by_cases same : system.sm = undo.newState ∧ system.holder ctx = undo.newHolder
    · rw [if_pos same, if_pos (unchanged.mp same)]
      rfl
    · rw [if_neg same, if_neg (mt unchanged.mpr same)]
      simp [SmSystem.policy]

/-- A step of the machine is the policy's step, with the policy's answer. -/
theorem PolicyInvariant.answers {system : SmSystem ι θ} (invariant : PolicyInvariant system)
    (few : Fintype.card ι < u32Max) (action : SmAction ι θ) :
    (smRespond system action).map (Prod.map id SmSystem.policy) = system.policy.respond action := by
  have judgeable : Judgeable system.sm system.holder :=
    ⟨invariant.machine.counters, invariant.prepared, few⟩
  have idle (thread : θ) : system.policy.call thread ≠ none ↔ system.call thread ≠ none := by
    simp [SmSystem.policy]
  cases action with
  | acquire thread ctx profile =>
    have judged : system.policy.table.acquire ctx profile = _ :=
      judgeable.acquire_eq ctx profile
    simp only [smRespond, smStep, LeasePolicy.respond]
    by_cases calling : system.call thread ≠ none
    · rw [if_pos calling, if_pos ((idle thread).mpr calling)]
      rfl
    rw [if_neg calling, if_neg (mt (idle thread).mp calling), judged]
    simp only [Option.map_some, Prod.map, id_eq, smRet, ← SmSystem.policy_answer,
      SmSystem.policy_publish, UndoRecord.policy, leaseTable_holder, Function.update_self]
  | transition thread ctx operation activeDirect activeTransfers barMappings
      slotDomainAnchored =>
    have judged : system.policy.table.transition ctx operation _ slotDomainAnchored = _ :=
      judgeable.transition_eq ctx operation activeDirect activeTransfers barMappings
        slotDomainAnchored rfl
    have counted := (invariant.machine.transition thread ctx operation activeDirect
      activeTransfers barMappings slotDomainAnchored rfl).counters.familyHolders
    simp only [smRespond, smStep, LeasePolicy.respond]
    by_cases calling : system.call thread ≠ none
    · rw [if_pos calling, if_pos ((idle thread).mpr calling)]
      rfl
    rw [if_neg calling, if_neg (mt (idle thread).mp calling), judged]
    simp only [SmSystem.publish, SmSystem.put] at counted
    simp only [Option.map_some, Prod.map, id_eq, smRet, ← SmSystem.policy_answer,
      SmSystem.policy_publish, UndoRecord.policy, leaseTable_holder, leaseTable_ready,
      Function.update_self, ← counted]
    rfl
  | release ctx =>
    simp only [smRespond, smStep, LeasePolicy.respond, Option.map_some, Prod.map,
      SmSystem.policy, judgeable.release_eq ctx]
    rfl
  | authorizeDirect ctx =>
    simp only [smRespond, smStep, LeasePolicy.respond, Option.map_some, Prod.map,
      SmSystem.policy, judgeable.authorizeDirect_eq ctx]
    rfl
  | authorizeDirectAnchored ctx anchored =>
    simp only [smRespond, smStep, LeasePolicy.respond, Option.map_some, Prod.map,
      SmSystem.policy, judgeable.authorizeDirectAnchored_eq ctx anchored]
    rfl
  | admitDirect ctx anchored activeDirect =>
    simp only [smRespond, smStep, LeasePolicy.respond, Option.map_some, Prod.map,
      SmSystem.policy, judgeable.admitDirect_eq ctx anchored activeDirect]
    rfl
  | replyCopied thread =>
    simp only [smRespond, smStep, LeasePolicy.respond, Option.map_some, Prod.map,
      SmSystem.policy, map_update_call]
    rfl
  | replyFaulted thread =>
    cases kept : system.call thread with
    | none => simp [smRespond, smStep, LeasePolicy.respond, SmSystem.policy, kept]
    | some undo =>
      have undone := invariant.policy_undo few (invariant.installed thread undo kept)
      have keptToo : system.policy.call thread = some undo.policy := by
        simp [SmSystem.policy, kept]
      simp only [smRespond, smStep, LeasePolicy.respond, kept, keptToo, Option.map_some,
        Prod.map, ← undone, id_eq]
      rw [SmSystem.policy, map_update_call]
      rfl

omit [DecidableEq ι] [DecidableEq θ] in
theorem policyInvariant_zero : PolicyInvariant (SmSystem.zero : SmSystem ι θ) where
  machine := smInvariant_zero
  prepared := by simp [PreparedReady, SmSystem.zero]
  installed := by simp [SmSystem.zero]

theorem machine_follows (few : Fintype.card ι < u32Max) :
    Follows (smRespond : SmSystem ι θ → SmAction ι θ → _) LeasePolicy.respond SmSystem.policy
      PolicyInvariant where
  answers _ request invariant := invariant.answers few request
  keeps state request answer next invariant responded := by
    obtain ⟨reached, stepped, answered⟩ := Option.map_eq_some_iff.mp responded
    obtain rfl : reached = next := congrArg Prod.snd answered
    exact invariant.step stepped

/-- With fewer file contexts than a counter counts, the counter machine and the policy
over the table of holders give the same return codes, the same holders and the same
readiness in every sequence of lock-atomic steps, undo sections included. -/
theorem lease_follows_policy (few : Fintype.card ι < u32Max) (actions : List (SmAction ι θ)) :
    transcript smRespond SmSystem.zero actions =
      transcript LeasePolicy.respond LeasePolicy.zero actions :=
  (machine_follows few).transcript_eq actions policyInvariant_zero

/-- A candidate that came while a workload ran takes over; the reply of its activation
is lost after one workload has left and another has come, and it is a candidate again. -/
def replacementRun : List (SmAction Party Party) :=
  [.acquire 0 0 .hubWorkload, .replyCopied 0, .acquire 0 1 .hubPublisher, .replyCopied 0,
    .transition 0 1 .activateReplacement 0 0 0 true, .release 0,
    .acquire 1 2 .hubWorkload, .replyFaulted 0]

theorem lease_follows_policy_replacementRun :
    (transcript LeasePolicy.respond LeasePolicy.zero replacementRun).map
        (·.map fun answer => (answer.ret, (answer.holder 1).phase)) =
      some [(none, .none), (none, .none), (none, .replacementCandidate),
        (none, .replacementCandidate), (none, .workload), (none, .workload), (none, .workload),
        (some .efault, .replacementCandidate)] ∧
    transcript smRespond SmSystem.zero replacementRun =
      transcript LeasePolicy.respond LeasePolicy.zero replacementRun :=
  ⟨by decide, lease_follows_policy (by decide) replacementRun⟩

end Systems

end MxDriver
