import MxDriver.LeaseAccountingSteps
import MxDriver.LeaseCountersRuns

/-!
# The lease system moves its state machine by lock-atomic steps

Seen from the state machine, a step of the lease system is one of the steps of
`smStep` or nothing at all, so the counters of the state machine stay exact.
The one step that would reset the state machine, the release of the device,
finds no holder.
-/

namespace MxDriver

variable {ι θ τ ν φ : Type*}

/-- What a call could still undo in the state machine. -/
def LeaseCall.undoRecord : LeaseCall ι φ → Option (UndoRecord ι)
  | .acquiring ctx undo => some (.acquire ctx undo.newHolder)
  | .transitioning ctx undo => some (.transition ctx undo)
  | _ => none

def holderOf (record : Option (FileCtx φ)) : LeaseSmHolder :=
  record.elim {} FileCtx.lease

namespace LeaseSystem

/-- The state machine and its holders; a context that is gone holds nothing. -/
def smView (system : LeaseSystem ι θ τ ν φ) : SmSystem ι θ where
  sm := system.device.state
  holder ctx := holderOf (system.ctx ctx)
  call thread := (system.thread thread).call.undoRecord

/-- The state machine stands still or does one lock-atomic step. -/
def SmMoves [DecidableEq ι] [DecidableEq θ] (system next : LeaseSystem ι θ τ ν φ) : Prop :=
  next.smView = system.smView ∨ ∃ action, smStep system.smView action = some next.smView

section View

variable {system next : LeaseSystem ι θ τ ν φ} {thread : θ}

@[simp]
theorem smView_sm : system.smView.sm = system.device.state :=
  rfl

theorem smView_holder {ctx : ι} {record : FileCtx φ} (found : system.ctx ctx = some record) :
    system.smView.holder ctx = record.lease := by
  simp [smView, found, holderOf]

/-- Only a live context is in a phase. -/
theorem exists_of_smView_phase {ctx : ι} {phase : LeasePhase}
    (phaseEq : (system.smView.holder ctx).phase = phase) (active : phase ≠ .none) :
    ∃ record, system.ctx ctx = some record ∧ record.lease.phase = phase := by
  cases found : system.ctx ctx with
  | none => simp [smView, found, holderOf, ← phaseEq] at active
  | some record => exact ⟨record, rfl, by rw [← phaseEq, smView_holder found]⟩

theorem smView_call {call : LeaseCall ι φ} {todo : List (Todo ι ν φ)}
    (standing : system.thread thread = ⟨call, todo⟩) :
    system.smView.call thread = call.undoRecord := by
  simp [smView, standing]

variable [DecidableEq ι] [DecidableEq θ] {call : LeaseCall ι φ} {todo : List (Todo ι ν φ)}

theorem SmMoves.aside (contexts : next.ctx = system.ctx)
    (threads : next.thread = Function.update system.thread thread ⟨call, todo⟩)
    (state : next.device.state = system.device.state)
    (keeps : call.undoRecord = (system.thread thread).call.undoRecord) : SmMoves system next := by
  left
  simp only [smView, contexts, threads, state, SmSystem.mk.injEq, true_and]
  funext other
  by_cases same : other = thread
  · simp [same, keeps]
  · simp [same]

variable {ctx : ι} {record : Option (FileCtx φ)}
  (contexts : next.ctx = Function.update system.ctx ctx record)
  (threads : next.thread = Function.update system.thread thread ⟨call, todo⟩)
include contexts threads

theorem smView_eq :
    next.smView =
      { sm := next.device.state
        holder := Function.update system.smView.holder ctx (holderOf record)
        call := Function.update system.smView.call thread call.undoRecord } := by
  simp only [smView, contexts, threads, SmSystem.mk.injEq, true_and]
  constructor
  · funext other
    exact Function.apply_update (fun _ => holderOf) system.ctx ctx record other
  · funext other
    exact Function.apply_update (fun _ (thread : LeaseThread ι ν φ) => thread.call.undoRecord)
      system.thread thread ⟨call, todo⟩ other

theorem SmMoves.still (state : next.device.state = system.device.state)
    (lease : holderOf record = holderOf (system.ctx ctx))
    (keeps : call.undoRecord = (system.thread thread).call.undoRecord) : SmMoves system next := by
  left
  rw [smView_eq contexts threads, state, lease, keeps]
  have holders : Function.update system.smView.holder ctx (holderOf (system.ctx ctx)) =
      system.smView.holder := Function.update_eq_self ctx system.smView.holder
  have calls : Function.update system.smView.call thread
      (system.thread thread).call.undoRecord = system.smView.call :=
    Function.update_eq_self thread system.smView.call
  rw [holders, calls]
  rfl

theorem SmMoves.step (action : SmAction ι θ) (stepped : smStep system.smView action = some
      { sm := next.device.state
        holder := Function.update system.smView.holder ctx (holderOf record)
        call := Function.update system.smView.call thread call.undoRecord }) :
    SmMoves system next :=
  .inr ⟨action, by rw [stepped, smView_eq contexts threads]⟩

end View

end LeaseSystem

open LeaseSystem

section Moves

variable [DecidableEq ι] [DecidableEq θ] [DecidableEq φ]
variable {system next : LeaseSystem ι θ τ ν φ} {action : LeaseAction ι θ τ ν φ}
variable {thread : θ}

@[simp]
theorem mxLeaseAcquireUndo_state (device : DeviceLease) (holder : LeaseSmHolder)
    (undo : AcquireUndo) :
    (mxLeaseAcquireUndo device holder undo).1.state =
      (undoAcquireSm device.state holder undo.newHolder).1 := by
  unfold mxLeaseAcquireUndo
  dsimp only
  split <;> rfl

@[simp]
theorem mxLeaseAcquireUndo_holder (device : DeviceLease) (holder : LeaseSmHolder)
    (undo : AcquireUndo) :
    (mxLeaseAcquireUndo device holder undo).2 =
      (undoAcquireSm device.state holder undo.newHolder).2 := by
  unfold mxLeaseAcquireUndo
  dsimp only
  split <;> rfl

theorem mxLeaseAnchorSlotDomainUndo_state (device : DeviceLease) (freshAnchor : Bool)
    (domainInode : Inode) :
    (mxLeaseAnchorSlotDomainUndo device freshAnchor domainInode).state = device.state := by
  unfold mxLeaseAnchorSlotDomainUndo
  split <;> rfl

theorem mxLeaseBindProofsUndo_lease (record : FileCtx φ) (installed : ProofBinding φ) :
    (mxLeaseBindProofsUndo record installed).1.lease = record.lease := by
  unfold mxLeaseBindProofsUndo
  split <;> rfl

theorem mxLeaseUnbindProofsUndo_lease (record : FileCtx φ) (detached : ProofBinding φ) :
    (mxLeaseUnbindProofsUndo record detached).1.lease = record.lease := by
  unfold mxLeaseUnbindProofsUndo
  split <;> rfl

theorem ReplyEffect.smMoves {copied : Bool}
    (effect : ReplyEffect system thread copied next) : SmMoves system next := by
  cases effect with
  | acquired standing found | transitioned standing found =>
    refine .step rfl rfl (.replyCopied thread) ?_
    have same : Function.update system.smView.holder _ (holderOf (some _)) =
        system.smView.holder := Function.update_eq_self_iff.mpr (smView_holder found).symm
    rw [same]
    rfl
  | anchored standing found | bound standing found | unbound standing found
  | undoKept standing found =>
    exact .still rfl rfl rfl (by rw [found]) (by rw [standing]; rfl)
  | undoAnchor standing found =>
    exact .still rfl rfl (mxLeaseAnchorSlotDomainUndo_state ..) (by rw [found])
      (by rw [standing]; rfl)
  | undoBind standing found =>
    refine .still rfl rfl rfl ?_ (by rw [standing]; rfl)
    rw [found]
    exact mxLeaseBindProofsUndo_lease ..
  | undoUnbind standing found =>
    refine .still rfl rfl rfl ?_ (by rw [standing]; rfl)
    rw [found]
    exact mxLeaseUnbindProofsUndo_lease ..
  | undoAcquire standing found | undoTransition standing found =>
    refine .step rfl rfl (.replyFaulted thread) ?_
    simp [smStep, smView_call standing, LeaseCall.undoRecord, SmSystem.undo, SmSystem.put,
      smView_holder found, publish, holderOf]

omit [DecidableEq φ] in
theorem mxLeaseTransitionLocked_eq (device : DeviceLease) (record : FileCtx φ)
    (request : TransitionRequest) :
    (∃ error, mxLeaseTransitionLocked device record request =
      ⟨some error, device.state, record.lease⟩) ∨
      mxLeaseTransitionLocked device record request =
        mxLeaseSmTransition device.state record.lease request.operation
          record.directCount record.transferCount record.barMappingCount
          (device.slotDomainPathValid && device.slotDomainInode.isSome) := by
  unfold mxLeaseTransitionLocked
  split
  · exact .inl ⟨_, rfl⟩
  split
  · exact .inl ⟨_, rfl⟩
  · exact .inr rfl

theorem CallEffect.smMoves (effect : CallEffect system action next) : SmMoves system next := by
  cases effect with
  | refused => exact .inl rfl
  | copied effect | faulted effect => exact effect.smMoves
  | acquire enters checked effect =>
    rename_i thread ctx capable fds request record file outcome
    cases effect with
    | refused error =>
      exact .still rfl rfl rfl (by rw [enters.found]) (by rw [enters.idle]; rfl)
    | acquired anchor granted =>
      refine .step rfl rfl (.acquire thread ctx request.profile) ?_
      have idle : system.smView.call thread = none := smView_call enters.idle
      simp only [smStep, idle, ne_eq, not_true, if_false, smView_holder enters.found,
        smView_sm, granted, SmSystem.publish, if_true, SmSystem.put]
      split <;> rfl
  | transition enters checked =>
    rename_i thread ctx capable request record
    have idle : system.smView.call thread = none := smView_call enters.idle
    rcases mxLeaseTransitionLocked_eq system.device record request with
      ⟨error, refused⟩ | reached
    · rw [refused]
      exact .still rfl rfl rfl (by rw [enters.found]) (by rw [enters.idle]; rfl)
    · refine .step rfl rfl (.transition thread ctx request.operation record.directCount
        record.transferCount record.barMappingCount
        (system.device.slotDomainPathValid && system.device.slotDomainInode.isSome)) ?_
      simp only [smStep, idle, ne_eq, not_true, if_false, smView_holder enters.found,
        smView_sm, reached, SmSystem.publish, SmSystem.put]
      split
      · rfl
      · congr 2
        exact (Function.update_eq_self_iff.mpr idle.symm).symm
  | anchor enters checked effect =>
    cases effect with
    | refused | kept | anchored =>
      exact .still rfl rfl rfl (by rw [enters.found]) (by rw [enters.idle]; rfl)
  | bind enters lookedUp present =>
    refine .still rfl rfl rfl (by rw [enters.found]) ?_
    rw [enters.idle]
    split <;> rfl
  | bindLocked standing found effect =>
    cases effect with
    | refused | kept =>
      exact .still rfl rfl rfl (by rw [found]) (by rw [standing]; rfl)
    | committed =>
      exact .still rfl rfl rfl (by rw [found]; rfl) (by rw [standing]; rfl)
  | unbind enters effect =>
    cases effect with
    | refused =>
      exact .still rfl rfl rfl (by rw [enters.found]) (by rw [enters.idle]; rfl)
    | detached =>
      exact .still rfl rfl rfl (by rw [enters.found]; rfl) (by rw [enters.idle]; rfl)

omit [DecidableEq φ] in
/-- Seen from the state machine, a direct section begins with one admission. -/
theorem smMoves_directBegin {ctx : ι} {record : FileCtx φ} {begun : Ret × DeviceLease × FileCtx φ}
    (enters : system.Enters thread ctx record)
    (begins : mxLeaseDirectBegin system.device record = begun) :
    SmMoves system
      (system.publish thread ctx begun.2.1 system.files begun.2.2
        (if begun.1 = none then .direct ctx else .idle) []) := by
  have outside : LeaseCall.undoRecord
      (if begun.1 = none then .direct ctx else .idle : LeaseCall ι φ) = none := by
    split <;> rfl
  have idle : system.smView.call thread = none := smView_call enters.idle
  have calls : Function.update system.smView.call thread none = system.smView.call :=
    Function.update_eq_self_iff.mpr idle.symm
  by_cases removed : system.device.removed = true
  · obtain rfl : (some .enodev, system.device, record) = begun := by
      simpa [mxLeaseDirectBegin, removed] using begins
    exact .still rfl rfl rfl (by rw [enters.found]) (by rw [enters.idle]; rfl)
  · have state : begun.2.1.state = (mxLeaseSmAdmitDirect system.device.state record.lease
        system.device.statePathValid record.directCount).1.sm := by
      rw [← begins, mxLeaseDirectBegin, if_neg removed]
      dsimp only
      repeat' split
      all_goals rfl
    have lease : begun.2.2.lease = (mxLeaseSmAdmitDirect system.device.state record.lease
        system.device.statePathValid record.directCount).1.holder := by
      rw [← begins, mxLeaseDirectBegin, if_neg removed]
      dsimp only
      repeat' split
      all_goals rfl
    refine .step rfl rfl
      (.admitDirect ctx system.device.statePathValid record.directCount) ?_
    simp only [smStep, SmSystem.put, smView_holder enters.found, smView_sm, outside, calls,
      ← state, ← lease]
    rfl

theorem HolderOk.released {holder : LeaseSmHolder} (ok : HolderOk holder) (sm : LeaseSm) :
    (mxLeaseSmRelease sm holder).2 = {} := by
  obtain ⟨phaseOk, legacyOk⟩ := ok
  obtain ⟨profile, phase, legacy⟩ := holder
  unfold mxLeaseSmRelease
  cases legacy with
  | true =>
    obtain rfl : profile = .none := legacyOk rfl
    cases phase <;> simp_all [phaseAllowed]
  | false =>
    by_cases unprofiled : profile = .none
    · subst profile
      cases phase <;> simp_all [phaseAllowed]
    · simp [unprofiled]

variable [DecidableEq ν] [Fintype ι] [Fintype θ] [Fintype τ] [Fintype ν]

omit [DecidableEq θ] [DecidableEq ν] in
/-- The last reference to the device is put when no context is left. -/
theorem Balanced.noCtx (balanced : system.Balanced) (last : system.pdevRefs = 1)
    (held : .pdev ∈ (system.thread thread).held) (ctx : ι) : system.ctx ctx = none := by
  have balance := balanced .pdev
  have mine : 0 < holdings LeaseThread.held system.thread .pdev := holdings_pos held
  simp only [refCount, last, heldCount] at balance
  have noCtx : holdings ctxHeld system.ctx (.pdev : Ref ι φ) = 0 := by omega
  cases found : system.ctx ctx with
  | none => rfl
  | some record =>
    have absent := not_mem_of_holdings_eq_zero noCtx ctx
    simp [found, ctxHeld] at absent

omit [DecidableEq ι] in
theorem CountersExact.drained {sm : LeaseSm} {holder : ι → LeaseSmHolder}
    (counters : CountersExact sm holder) (empty : ∀ ctx, holder ctx = {}) :
    sm.familyHolders = 0 ∧ sm.publishers = 0 ∧ sm.workloads = 0 ∧
      sm.legacyHolders = 0 := by
  rw [counters.familyHolders, counters.publishers, counters.workloads,
    counters.legacyHolders]
  simp [tally_eq_zero_iff, empty]

theorem PutEffect.smMoves {call : LeaseCall ι φ} {first : Todo ι ν φ}
    {rest : List (Todo ι ν φ)} (balanced : system.Balanced)
    (counters : CountersExact system.smView.sm system.smView.holder)
    (standing : system.thread thread = ⟨call, first :: rest⟩)
    (effect : PutEffect system thread call rest first next) : SmMoves system next := by
  cases effect with
  | file | pdevKept | dangling => exact .aside rfl rfl rfl (by rw [standing])
  | ctxKept found shared => exact .still rfl rfl rfl (by rw [found]; rfl) (by rw [standing])
  | uncharged mapped found =>
    exact .still rfl rfl rfl (by rw [found]; rfl) (by rw [standing])
  | ctxFreed found last =>
    rename_i ctx record
    have ok := counters.holderOk ctx
    rw [smView_holder found] at ok
    refine .step rfl rfl (.release ctx) ?_
    simp only [smStep, SmSystem.put, smView_holder found, smView_sm, ok.released,
      ← smView_call standing, Function.update_eq_self]
    rfl
  | pdevFreed last =>
    have held : .pdev ∈ (system.thread thread).held := by
      simp [standing, LeaseThread.held, Todo.held]
    have gone := Balanced.noCtx balanced last held
    obtain ⟨family, publishers, workloads, legacy⟩ :=
      counters.drained fun ctx => by simp [smView, gone, holderOf]
    refine .aside rfl rfl ?_ (by rw [standing])
    simp_all [mxPdevFree]

variable [DecidableEq τ]

theorem LifeEffect.smMoves (balanced : system.Balanced)
    (counters : CountersExact system.smView.sm system.smView.holder)
    (effect : LifeEffect system action next) : SmMoves system next := by
  cases effect with
  | refused | user | vmaOpen | remove => exact .inl rfl
  | openGet idle alive | closed idle opened unused | detach idle attached =>
    exact .aside rfl rfl rfl (by simp [idle, LeaseCall.undoRecord])
  | openFailed standing | mmapCheck standing found room alone | mmapFail standing =>
    exact .aside rfl rfl rfl (by rw [standing]; rfl)
  | opened standing free =>
    exact .still rfl rfl rfl (by rw [free]; rfl) (by rw [standing]; rfl)
  | directBegin enters effect begins => exact smMoves_directBegin enters begins
  | directEnd standing found =>
    refine .still rfl rfl rfl ?_ (by rw [standing]; rfl)
    rw [found]
    unfold mxLeaseDirectEnd
    split <;> rfl
  | transferGet standing free found checked | mmapCommit standing free found =>
    exact .still rfl rfl rfl (by rw [found]; rfl) (by simp [standing, LeaseCall.undoRecord])
  | transferPut standing inFlight found =>
    exact .still rfl rfl rfl (by rw [found]; rfl) (by rw [standing])
  | vmaClose standing mapped => exact .aside rfl rfl rfl (by rw [standing])
  | put standing effect => exact effect.smMoves balanced counters standing

end Moves

/-- References, charges and the counters of the state machine are exact. -/
structure LeaseInvariant [DecidableEq ι] [DecidableEq φ] [Fintype ι] [Fintype θ] [Fintype τ]
    [Fintype ν] (system : LeaseSystem ι θ τ ν φ) : Prop extends Audited system where
  smInvariant : SmInvariant system.smView

section Runs

variable [DecidableEq ι] [DecidableEq θ] [DecidableEq τ] [DecidableEq ν]
  [DecidableEq φ]
variable [Fintype ι] [Fintype θ] [Fintype τ] [Fintype ν]
variable {system next : LeaseSystem ι θ τ ν φ} {action : LeaseAction ι θ τ ν φ}

/-- Every step of the lease system is, for the state machine, a lock-atomic
step or none. -/
theorem LeaseInvariant.smMoves (invariant : LeaseInvariant system)
    (stepped : leaseStep system action = some next) : SmMoves system next := by
  cases leaseStep_effect stepped with
  | call effect => exact effect.smMoves
  | life effect =>
    exact effect.smMoves invariant.balanced invariant.smInvariant.counters

theorem LeaseInvariant.step (invariant : LeaseInvariant system)
    (stepped : leaseStep system action = some next) : LeaseInvariant next := by
  refine ⟨invariant.toAudited.step stepped, ?_⟩
  rcases invariant.smMoves stepped with same | ⟨moved, smStepped⟩
  · rw [same]
    exact invariant.smInvariant
  · exact invariant.smInvariant.step smStepped

omit [DecidableEq θ] [DecidableEq τ] [DecidableEq ν] in
theorem leaseInvariant_start (incarnation : UInt64) :
    LeaseInvariant (start incarnation : LeaseSystem ι θ τ ν φ) :=
  ⟨audited_start incarnation, smInvariant_zero⟩

theorem leaseInvariant_of_reached {incarnation : UInt64}
    (reached : Reached leaseStep (start incarnation) system) : LeaseInvariant system :=
  reached.invariant (leaseInvariant_start incarnation) fun _ _ _ invariant _ stepped =>
    invariant.step stepped

/-- The whole lease system refines the interleavings of the lock-atomic steps. -/
theorem smView_reached {incarnation : UInt64}
    (reached : Reached leaseStep (start incarnation) system) :
    Reached smStep SmSystem.zero system.smView := by
  refine reached.simulate LeaseSystem.smView fun current action next before _ stepped => ?_
  rcases (leaseInvariant_of_reached before).smMoves stepped with same | ⟨moved, smStepped⟩
  · rw [same]
    exact .refl
  · exact .tail .refl trivial smStepped

end Runs

end MxDriver
