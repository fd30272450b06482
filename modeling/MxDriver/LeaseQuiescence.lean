import MxDriver.LeaseStateView

/-!
# Quiescence is exclusive

Only a legacy holder or a holder in a quiescent or workload phase has direct
sections, transfers or mappings, and a publisher leaves quiescence only when it
has none.  With exact counters it follows that a quiescent publisher is alone on
the device.  An acquire or a transition that is undone after others have relied
on it breaks this, so the runs considered here copy the replies of those two.
-/

namespace MxDriver

variable {ι θ τ ν φ : Type*}

/-- May start direct sections. -/
def LeaseSmHolder.Entitled (holder : LeaseSmHolder) : Prop :=
  holder.legacy = true ∨ holder.profile ≠ .none ∧
    (holder.phase = .quiescent ∨ holder.phase = .workload)

/-- Nothing is charged to the context. -/
def FileCtx.Uncharged (record : FileCtx φ) : Prop :=
  record.directCount = 0 ∧ record.transferCount = 0 ∧ record.barMappingCount = 0

/-- No acquire and no transition is undone by this step. -/
def RepliesCopied (system : LeaseSystem ι θ τ ν φ) : LeaseAction ι θ τ ν φ → Prop
  | .replyFaulted thread => (system.thread thread).call.undoRecord = none
  | _ => True

instance (system : LeaseSystem ι θ τ ν φ) [DecidableEq ι] :
    (action : LeaseAction ι θ τ ν φ) → Decidable (RepliesCopied system action)
  | .replyFaulted thread =>
    inferInstanceAs (Decidable ((system.thread thread).call.undoRecord = none))
  | .user _ | .openGet _ | .openFinish .. | .close .. | .acquire .. | .transition ..
  | .anchor .. | .bind .. | .bindLocked .. | .unbind .. | .replyCopied _ | .directBegin ..
  | .directEnd _ | .transferGet .. | .transferPut .. | .mmapCheck _ | .mmapCommit ..
  | .mmapFail _ | .vmaOpen _ | .vmaClose .. | .put _ | .remove | .detach _ => .isTrue trivial

/-- Whoever is charged is entitled, and no `WARN_ON_ONCE` has fired. -/
structure Exclusive (system : LeaseSystem ι θ τ ν φ) : Prop where
  entitled : ∀ ctx record, system.ctx ctx = some record →
    record.Uncharged ∨ record.lease.Entitled
  silent : system.warnings = []

theorem AuthorizeEffect.entitled {sm newSm : LeaseSm} {holder newHolder : LeaseSmHolder}
    (effect : AuthorizeEffect sm holder ⟨none, newSm, newHolder⟩) : newHolder.Entitled := by
  cases effect with
  | admitted entitled => exact entitled
  | enlisted unprofiled notLegacy idle room => exact .inl rfl

/-- A lease is granted only to a holder that is not entitled yet. -/
theorem AcquireEffect.entitled {sm newSm : LeaseSm} {holder newHolder : LeaseSmHolder}
    {profile : LeaseProfile} (effect : AcquireEffect sm holder profile ⟨none, newSm, newHolder⟩)
    (entitled : holder.Entitled) : newHolder.Entitled := by
  cases effect with
  | found profiled same => exact entitled
  | granted phase known notLegacy noLegacy unprofiled family room phaseEq =>
    rcases entitled with legacy | ⟨profiled, -⟩
    · simp [notLegacy] at legacy
    · exact (profiled unprofiled).elim

/-- A transition ends an entitlement only when nothing is charged. -/
theorem TransitionEffect.entitled {sm : LeaseSm} {holder : LeaseSmHolder}
    {activeDirect activeTransfers barMappings : Nat} {slotDomainAnchored : Bool}
    {outcome : SmOutcome}
    (effect : TransitionEffect sm holder activeDirect activeTransfers barMappings
      slotDomainAnchored outcome) (entitled : holder.Entitled) :
    outcome.holder.Entitled ∨
      activeDirect = 0 ∧ activeTransfers = 0 ∧ barMappings = 0 := by
  cases effect with
  | refused error => exact .inl entitled
  | moved publisher notLegacy move guards =>
    cases move with
    | stay => exact .inl entitled
    | prepare initializer phase quiescent =>
      exact .inr (guards.drained phase (by simp))
    | tryQuiescent notInitializer phase noWorkload notQuiescent =>
      exact .inl (.inr ⟨ne_none_of_isPublisher publisher, .inl rfl⟩)
    | activateWorkload notInitializer phase room quiescent =>
      exact .inl (.inr ⟨ne_none_of_isPublisher publisher, .inr rfl⟩)
    | activateReplacement hub phase room =>
      exact .inl (.inr ⟨ne_none_of_isPublisher publisher, .inr rfl⟩)

namespace Exclusive

variable [DecidableEq ι] [DecidableEq θ]
variable {system next : LeaseSystem ι θ τ ν φ} {thread : θ} {ctx : ι}
variable {record newRecord : FileCtx φ}

omit [DecidableEq θ] in
theorem replaced (exclusive : Exclusive system)
    (contexts : next.ctx = Function.update system.ctx ctx (some newRecord))
    (warnings : next.warnings = system.warnings)
    (entitled : newRecord.Uncharged ∨ newRecord.lease.Entitled) : Exclusive next where
  entitled := by
    rw [contexts]
    exact records_update (p := fun _ record => record.Uncharged ∨ record.lease.Entitled)
      exclusive.entitled entitled
  silent := warnings.trans exclusive.silent

omit [DecidableEq θ] in
theorem kept (exclusive : Exclusive system)
    (contexts : next.ctx = Function.update system.ctx ctx (some newRecord))
    (warnings : next.warnings = system.warnings) (found : system.ctx ctx = some record)
    (direct : newRecord.directCount = record.directCount)
    (transfers : newRecord.transferCount = record.transferCount)
    (mappings : newRecord.barMappingCount = record.barMappingCount)
    (lease : record.lease.Entitled → newRecord.Uncharged ∨ newRecord.lease.Entitled) :
    Exclusive next := by
  refine exclusive.replaced contexts warnings ?_
  rcases exclusive.entitled ctx record found with uncharged | entitled
  · left
    rw [FileCtx.Uncharged, direct, transfers, mappings]
    exact uncharged
  · exact lease entitled

variable [DecidableEq φ] {action : LeaseAction ι θ τ ν φ}

theorem reply (exclusive : Exclusive system) {copied : Bool}
    (effect : ReplyEffect system thread copied next)
    (copies : copied = true ∨ (system.thread thread).call.undoRecord = none) : Exclusive next := by
  cases effect with
  | acquired standing found | transitioned standing found | anchored standing found
  | bound standing found | unbound standing found | undoAnchor standing found
  | undoKept standing found =>
    exact exclusive.kept rfl rfl found rfl rfl rfl .inr
  | undoAcquire standing found | undoTransition standing found =>
    simp [standing, LeaseCall.undoRecord] at copies
  | undoBind standing found =>
    refine exclusive.kept rfl rfl found ?_ ?_ ?_ ?_
    all_goals
      unfold mxLeaseBindProofsUndo
      split
    all_goals first | rfl | exact .inr
  | undoUnbind standing found =>
    refine exclusive.kept rfl rfl found ?_ ?_ ?_ ?_
    all_goals
      unfold mxLeaseUnbindProofsUndo
      split
    all_goals first | rfl | exact .inr

theorem call (exclusive : Exclusive system) (effect : CallEffect system action next)
    (copies : RepliesCopied system action) : Exclusive next := by
  cases effect with
  | refused => exact exclusive
  | copied effect => exact exclusive.reply effect (.inl rfl)
  | faulted effect => exact exclusive.reply effect (.inr copies)
  | acquire enters checked effect =>
    rename_i request record file outcome
    cases effect with
    | refused error => exact exclusive.kept rfl rfl enters.found rfl rfl rfl .inr
    | acquired anchor granted =>
      have effect := mxLeaseSmAcquire_effect system.device.state record.lease
        request.profile
      rw [granted] at effect
      exact exclusive.kept rfl rfl enters.found rfl rfl rfl fun entitled =>
        .inr (effect.entitled entitled)
  | transition enters checked =>
    rename_i request record
    have effect := mxLeaseTransitionLocked_effect system.device record request
    exact exclusive.kept rfl rfl enters.found rfl rfl rfl fun entitled =>
      (effect.entitled entitled).symm
  | anchor enters checked effect | bind enters lookedUp present =>
    exact exclusive.kept rfl rfl enters.found rfl rfl rfl .inr
  | bindLocked standing found effect =>
    cases effect with
    | refused | kept | committed => exact exclusive.kept rfl rfl found rfl rfl rfl .inr
  | unbind enters effect =>
    cases effect with
    | refused | detached => exact exclusive.kept rfl rfl enters.found rfl rfl rfl .inr

omit [DecidableEq ι] [DecidableEq θ] [DecidableEq φ] in
theorem aside (exclusive : Exclusive system) (contexts : next.ctx = system.ctx)
    (warnings : next.warnings = system.warnings) : Exclusive next :=
  ⟨contexts ▸ exclusive.entitled, warnings.trans exclusive.silent⟩

theorem decWarn_pos {warning : LeaseWarning} {counter : Nat} (positive : 0 < counter) :
    decWarn warning counter = ([], counter - 1) := by
  rw [decWarn, if_neg (by omega)]

variable [Fintype ι] [Fintype θ] [Fintype τ] [Fintype ν] [DecidableEq ν]

omit [DecidableEq θ] [DecidableEq ν] in
/-- The release of the device finds no holder. -/
theorem pdevFree_drained (invariant : LeaseInvariant system) (last : system.pdevRefs = 1)
    (held : .pdev ∈ (system.thread thread).held) :
    system.device.state.familyHolders = 0 ∧ system.device.state.publishers = 0 ∧
      system.device.state.workloads = 0 ∧ system.device.state.legacyHolders = 0 :=
  invariant.smInvariant.counters.drained fun other => by
    simp [LeaseSystem.smView, Balanced.noCtx invariant.balanced last held, holderOf]

theorem put (exclusive : Exclusive system) (invariant : LeaseInvariant system)
    {call : LeaseCall ι φ} {first : Todo ι ν φ} {rest : List (Todo ι ν φ)}
    (standing : system.thread thread = ⟨call, first :: rest⟩)
    (effect : PutEffect system thread call rest first next) : Exclusive next := by
  have held : ∀ ref, first = .put ref → ref ∈ (system.thread thread).held := by
    rintro ref rfl
    simp [standing, LeaseThread.held, Todo.held]
  cases effect with
  | file | pdevKept | dangling => exact exclusive.aside rfl rfl
  | ctxKept found shared => exact exclusive.kept rfl rfl found rfl rfl rfl .inr
  | ctxFreed found last =>
    obtain ⟨-, direct, transfers, mappings⟩ := invariant.accounted.drained
      invariant.balanced found last (held _ rfl)
    refine ⟨records_erase (p := fun _ record =>
      record.Uncharged ∨ record.lease.Entitled) exclusive.entitled, ?_⟩
    simp [mxFileCtxFree, direct, transfers, mappings, exclusive.silent]
  | pdevFreed last =>
    obtain ⟨family, publishers, workloads, legacy⟩ :=
      pdevFree_drained invariant last (held _ rfl)
    refine ⟨exclusive.entitled, ?_⟩
    simp [mxPdevFree, family, publishers, workloads, legacy, exclusive.silent]
  | uncharged mapped found =>
    rename_i record
    have positive := invariant.accounted.barMappingCount_pos mapped found
    refine exclusive.replaced rfl (by simp [decWarn_pos positive]) ?_
    rcases exclusive.entitled _ record found with uncharged | entitled
    · have none := uncharged.2.2
      omega
    · exact .inr entitled

omit [DecidableEq θ] [DecidableEq ν] in
/-- A thread in a direct section runs on an entitled context. -/
theorem entitled_of_direct (exclusive : Exclusive system)
    (invariant : LeaseInvariant system) {call : LeaseCall ι φ} {todo : List (Todo ι ν φ)}
    (standing : system.thread thread = ⟨call, todo⟩) (runs : call.directCtx? = some ctx)
    (found : system.ctx ctx = some record) : 0 < record.directCount ∧ record.lease.Entitled := by
  have positive := invariant.accounted.directCount_pos (by rw [standing, runs]) found
  refine ⟨positive, ?_⟩
  rcases exclusive.entitled ctx record found with uncharged | entitled
  · have none := uncharged.1
    omega
  · exact entitled

variable [DecidableEq τ]

theorem life (exclusive : Exclusive system) (invariant : LeaseInvariant system)
    (effect : LifeEffect system action next) : Exclusive next := by
  cases effect with
  | refused | user | openGet | openFailed | closed | mmapCheck | mmapFail | vmaOpen
  | vmaClose | remove | detach => exact exclusive.aside rfl rfl
  | opened standing free =>
    exact exclusive.replaced rfl rfl (.inl ⟨rfl, rfl, rfl⟩)
  | directBegin enters effect begins =>
    rename_i thread ctx record begun
    have bounded := invariant.accounted.bounded ctx record enters.found
    cases effect with
    | refused error => exact exclusive.kept rfl rfl enters.found rfl rfl rfl .inr
    | retracted error room profiled =>
      refine exclusive.kept rfl rfl enters.found ?_ rfl rfl .inr
      simp [mxLeaseSmReleaseDirect_incU32 bounded.1 room]
    | admitted room effect anchored proofs =>
      exact exclusive.replaced rfl rfl (.inr effect.entitled)
  | directEnd standing found =>
    rename_i thread ctx record
    obtain ⟨positive, entitled⟩ :=
      exclusive.entitled_of_direct invariant standing rfl found
    have ends : mxLeaseDirectEnd record = (false, { record with
        directCount := mxLeaseSmReleaseDirect record.directCount }) := by
      rw [mxLeaseDirectEnd, if_neg (by omega)]
    exact exclusive.replaced rfl (by simp [ends]) (.inr (by simpa [ends] using entitled))
  | transferGet standing free found checked =>
    exact exclusive.replaced rfl rfl
      (.inr (exclusive.entitled_of_direct invariant standing rfl found).2)
  | transferPut standing inFlight found =>
    rename_i record
    have positive := invariant.accounted.transferCount_pos inFlight found
    refine exclusive.replaced rfl (by simp [decWarn_pos positive]) ?_
    rcases exclusive.entitled _ record found with uncharged | entitled
    · have none := uncharged.2.1
      omega
    · exact .inr entitled
  | mmapCommit standing free found =>
    exact exclusive.replaced rfl rfl
      (.inr (exclusive.entitled_of_direct invariant standing rfl found).2)
  | put standing effect => exact exclusive.put invariant standing effect

theorem step (exclusive : Exclusive system) (invariant : LeaseInvariant system)
    (copies : RepliesCopied system action)
    (stepped : leaseStep system action = some next) : Exclusive next := by
  cases leaseStep_effect stepped with
  | call effect => exact exclusive.call effect copies
  | life effect => exact exclusive.life invariant effect

theorem of_reached {incarnation : UInt64}
    (reached : ReachedBy leaseStep RepliesCopied (LeaseSystem.start incarnation) system) :
    Exclusive system := by
  induction reached with
  | refl => exact ⟨by simp [LeaseSystem.start], rfl⟩
  | tail before copies stepped ih =>
    exact ih.step (leaseInvariant_of_reached before.reached) copies stepped

end Exclusive

section Frees

variable [DecidableEq ι] [DecidableEq θ] [DecidableEq τ] [DecidableEq ν]
  [DecidableEq φ]
variable {system next : LeaseSystem ι θ τ ν φ} {action : LeaseAction ι θ τ ν φ}
variable {ctx : ι} {record : FileCtx φ}

omit [DecidableEq θ] [DecidableEq τ] [DecidableEq ν] [DecidableEq φ] in
theorem LeaseSystem.not_freed {other : ι} {newRecord : FileCtx φ}
    (contexts : next.ctx = Function.update system.ctx other (some newRecord))
    (found : system.ctx ctx = some record) : next.ctx ctx ≠ none := by
  rw [contexts, Function.update_apply]
  split
  · simp
  · simp [found]

omit [DecidableEq τ] [DecidableEq ν] in
theorem CallEffect.not_freed (effect : CallEffect system action next)
    (found : system.ctx ctx = some record) : next.ctx ctx ≠ none := by
  cases effect with
  | refused => simp [found]
  | copied effect | faulted effect =>
    cases effect <;> exact LeaseSystem.not_freed rfl found
  | _ => exact LeaseSystem.not_freed rfl found

/-- Contexts and the device are freed by the thread that puts the last
reference. -/
theorem LifeEffect.frees (effect : LifeEffect system action next) :
    (∀ ctx record, system.ctx ctx = some record → next.ctx ctx = none →
      record.refs = 1 ∧ ∃ thread, .ctx ctx ∈ (system.thread thread).held) ∧
    (system.pdevRefs ≠ 0 → next.pdevRefs = 0 →
      system.pdevRefs = 1 ∧ ∃ thread, .pdev ∈ (system.thread thread).held) := by
  cases effect with
  | put standing effect =>
    rename_i thread call first rest
    have held : ∀ ref, first = .put ref → ∃ thread, ref ∈ (system.thread thread).held := by
      rintro ref rfl
      exact ⟨thread, by simp [standing, LeaseThread.held, Todo.held]⟩
    cases effect with
    | file | dangling =>
      exact ⟨fun ctx record found gone => by simp_all, fun alive dead => (alive dead).elim⟩
    | pdevKept shared =>
      refine ⟨fun ctx record found gone => by simp_all, fun alive dead => ?_⟩
      have last : system.pdevRefs - 1 = 0 := dead
      omega
    | ctxKept | uncharged =>
      exact ⟨fun ctx record found gone => (LeaseSystem.not_freed rfl found gone).elim,
        fun alive dead => (alive dead).elim⟩
    | ctxFreed freed last =>
      rename_i other otherRecord
      refine ⟨fun ctx record found gone => ?_, fun alive dead => (alive dead).elim⟩
      by_cases same : ctx = other
      · subst other
        obtain rfl : otherRecord = record := Option.some.inj (freed.symm.trans found)
        exact ⟨last, held _ rfl⟩
      · simp [same, found] at gone
    | pdevFreed last =>
      exact ⟨fun ctx record found gone => by simp_all, fun _ _ => ⟨last, held _ rfl⟩⟩
  | openGet => exact ⟨fun ctx record found gone => by simp_all, by simp⟩
  | mmapCommit =>
    exact ⟨fun ctx record found gone => (LeaseSystem.not_freed rfl found gone).elim,
      by simp⟩
  | opened | directBegin | directEnd | transferGet | transferPut =>
    exact ⟨fun ctx record found gone => (LeaseSystem.not_freed rfl found gone).elim,
      fun alive dead => (alive dead).elim⟩
  | _ =>
    refine ⟨fun ctx record found gone => ?_, fun alive dead => (alive dead).elim⟩
    simp_all

end Frees

section Runs

variable [DecidableEq ι] [DecidableEq θ] [DecidableEq τ] [DecidableEq ν]
  [DecidableEq φ]
variable [Fintype ι] [Fintype θ] [Fintype τ] [Fintype ν]

/-- In every interleaving in which the replies of acquires and transitions are
copied: a context that is charged for a direct section, a transfer or a mapping
is legacy or profiled and quiescent or a workload; a quiescent holder is the
only one charged; and contexts and the device are freed with nothing left. -/
theorem quiescence_exclusive {incarnation : UInt64} {system : LeaseSystem ι θ τ ν φ}
    (reached : ReachedBy leaseStep RepliesCopied (LeaseSystem.start incarnation) system) :
    (∀ ctx record, system.ctx ctx = some record →
        record.directCount ≠ 0 ∨ record.transferCount ≠ 0 ∨ record.barMappingCount ≠ 0 →
        record.lease.legacy = true ∨ record.lease.profile ≠ .none ∧
          (record.lease.phase = .quiescent ∨ record.lease.phase = .workload)) ∧
      (∀ ctx record, system.ctx ctx = some record →
        record.lease.phase = .replacementCandidate ∨
          record.lease.phase = .coordinatorPrepared →
        record.directCount = 0 ∧ record.transferCount = 0 ∧ record.barMappingCount = 0) ∧
      (system.device.state.quiescent = true → ∃ owner ownerRecord,
        system.ctx owner = some ownerRecord ∧ ownerRecord.lease.phase = .quiescent ∧
        ∀ ctx record, system.ctx ctx = some record → ctx ≠ owner →
          record.lease.phase ≠ .quiescent ∧ record.directCount = 0 ∧
            record.transferCount = 0 ∧ record.barMappingCount = 0) ∧
      (∀ action next, leaseStep system action = some next →
        (∀ ctx record, system.ctx ctx = some record → next.ctx ctx = none →
          record.directCount = 0 ∧ record.transferCount = 0 ∧
            record.barMappingCount = 0) ∧
        (system.pdevRefs ≠ 0 → next.pdevRefs = 0 →
          system.device.state.familyHolders = 0 ∧ system.device.state.publishers = 0 ∧
            system.device.state.workloads = 0 ∧
            system.device.state.legacyHolders = 0)) ∧
      system.warnings = [] := by
  have exclusive := Exclusive.of_reached reached
  have invariant := leaseInvariant_of_reached reached.reached
  have counters := invariant.smInvariant.counters
  refine ⟨?_, ?_, ?_, ?_, exclusive.silent⟩
  · intro ctx record found charged
    rcases exclusive.entitled ctx record found with uncharged | entitled
    · obtain ⟨direct, transfers, mappings⟩ := uncharged
      simp [direct, transfers, mappings] at charged
    · exact entitled
  · intro ctx record found phase
    have ok := counters.holderOk ctx
    rw [LeaseSystem.smView_holder found] at ok
    rcases exclusive.entitled ctx record found with uncharged | legacy | ⟨-, entitled⟩
    · exact uncharged
    · have none := ok.phase_of_unprofiled (ok.legacy legacy)
      simp [none] at phase
    · rcases phase with phase | phase <;> simp [phase] at entitled
  · intro quiescent
    obtain ⟨owner, phase⟩ := counters.quiescent.mp quiescent
    obtain ⟨ownerRecord, ownerFound, ownerPhase⟩ :=
      LeaseSystem.exists_of_smView_phase phase (by simp)
    refine ⟨owner, ownerRecord, ownerFound, ownerPhase, ?_⟩
    intro ctx record found different
    have publishing := counters.publishing_of_quiescent phase
    have holder := LeaseSystem.smView_holder found
    have notQuiescent : record.lease.phase ≠ .quiescent := by
      rw [← holder]
      exact fun also => different (counters.eq_of_quiescent also publishing)
    refine ⟨notQuiescent, ?_⟩
    rcases exclusive.entitled ctx record found with uncharged | legacy | ⟨-, entitled⟩
    · exact uncharged
    · have noLegacy := counters.noLegacy_of_profiled (ne_none_of_isPublisher publishing)
      rw [counters.legacyHolders, tally_eq_zero_iff] at noLegacy
      exact (noLegacy ctx (holder ▸ legacy)).elim
    · rcases entitled with also | workload
      · exact (notQuiescent also).elim
      · have noWorkload := counters.alone quiescent
        rw [counters.workloads, tally_eq_zero_iff] at noWorkload
        exact (noWorkload ctx (holder ▸ workload)).elim
  · intro action next stepped
    cases leaseStep_effect stepped with
    | call effect =>
      refine ⟨fun ctx record found gone => (effect.not_freed found gone).elim, ?_⟩
      intro alive dead
      exact (alive (effect.pdevRefs.symm.trans dead)).elim
    | life effect =>
      refine ⟨fun ctx record found gone => ?_, fun alive dead => ?_⟩
      · obtain ⟨last, thread, held⟩ := effect.frees.1 ctx record found gone
        exact (invariant.accounted.drained invariant.balanced found last held).2
      · obtain ⟨last, thread, held⟩ := effect.frees.2 alive dead
        exact Exclusive.pdevFree_drained invariant last held

/-- A hub publisher acquires the device through a fresh state file, and its
transfer and mapping outlive the direct section that started them. -/
def publisherRun : List (LeaseAction Party Party Party Party Party) :=
  [.openGet 0, .openFinish 0 0 .ioctl true, .openGet 0, .openFinish 0 1 .ioctl true,
    .user (.openAt 0 ⟨9, .regular, .tmpfs, 1, 2⟩ true true),
    .acquire 0 0 true (fun _ => some 0)
      ⟨leaseAbiMagic, 7, 0, (1, 1), 3, .hubPublisher, 1, 128, 0⟩,
    .replyCopied 0, .directBegin 0 0, .transferGet 0 0, .mmapCheck 0, .mmapCommit 0 0,
    .directEnd 0]

theorem quiescence_exclusive_publisherRun :
    ∃ system, runAllowed leaseStep RepliesCopied (LeaseSystem.start 7) publisherRun =
        some system ∧
      system.device.state.quiescent = true ∧
      (∃ record, system.ctx 0 = some record ∧ record.transferCount = 1 ∧
        record.barMappingCount = 1) ∧
      system.warnings = [] := by
  have run : runAllowed leaseStep RepliesCopied (LeaseSystem.start 7) publisherRun =
      some _ := rfl
  exact ⟨_, run, rfl, ⟨_, rfl, rfl, rfl⟩,
    (quiescence_exclusive (reachedBy_of_runAllowed run)).2.2.2.2⟩

end Runs

end MxDriver
