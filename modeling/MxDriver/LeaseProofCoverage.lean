import MxDriver.LeaseQuiescence
import MxDriver.LeaseTransferProofs

/-!
# Coordinated access is covered by a proof

A control context uses the device only with a slot proof, and a coordinator
workload only with a lifetime proof.  Every check of the driver keeps this but
one: when the reply of a bind cannot be copied, the bind takes its proof back
without looking whether somebody has started to rely on it.
-/

namespace MxDriver

variable {ι θ τ ν φ : Type*}

/-- The context has direct sections or mappings. -/
def FileCtx.InUse (record : FileCtx φ) : Prop :=
  record.directCount ≠ 0 ∨ record.barMappingCount ≠ 0

instance (record : FileCtx φ) : Decidable record.InUse :=
  inferInstanceAs (Decidable (_ ∨ _))

/-- A coordinated context that uses the device has the proof of its profile. -/
def FileCtx.Covered (record : FileCtx φ) : Prop :=
  record.InUse →
    (record.lease.profile = .coordinatorControl → record.proofs.slotProofFile ≠ none) ∧
      (record.lease.profile = .coordinatorWorkload → record.proofs.lifetimeProofFile ≠ none)

def AccessCovered (system : LeaseSystem ι θ τ ν φ) : Prop :=
  ∀ ctx record, system.ctx ctx = some record → record.Covered

section Undo

variable [DecidableEq φ]

/-- The bind that a thread is about to undo is still in place on a coordinated
context that uses the device. -/
def LeaseSystem.undoesReliedOn (system : LeaseSystem ι θ τ ν φ) (thread : θ) : Bool :=
  match (system.thread thread).call with
  | .binding ctx (.committed installed) =>
    (system.ctx ctx).any fun record =>
      record.proofs.sameFiles installed && decide record.InUse &&
        (record.lease.profile == .coordinatorControl ||
          record.lease.profile == .coordinatorWorkload)
  | _ => false

/-- No bind is undone that somebody relies on. -/
def ReliedOnKept (system : LeaseSystem ι θ τ ν φ) : LeaseAction ι θ τ ν φ → Prop
  | .replyFaulted thread => system.undoesReliedOn thread = false
  | _ => True

instance (system : LeaseSystem ι θ τ ν φ) :
    (action : LeaseAction ι θ τ ν φ) → Decidable (ReliedOnKept system action)
  | .replyFaulted thread => inferInstanceAs (Decidable (system.undoesReliedOn thread = false))
  | .user _ | .openGet _ | .openFinish .. | .close .. | .acquire .. | .transition ..
  | .anchor .. | .bind .. | .bindLocked .. | .unbind .. | .replyCopied _ | .directBegin ..
  | .directEnd _ | .transferGet .. | .transferPut .. | .mmapCheck _ | .mmapCommit ..
  | .mmapFail _ | .vmaOpen _ | .vmaClose .. | .put _ | .remove | .detach _ => .isTrue trivial

theorem LeaseSystem.undoesReliedOn_eq {system : LeaseSystem ι θ τ ν φ} {thread : θ} {ctx : ι}
    {installed : ProofBinding φ} {todo : List (Todo ι ν φ)} {record : FileCtx φ}
    (standing : system.thread thread = ⟨.binding ctx (.committed installed), todo⟩)
    (found : system.ctx ctx = some record) :
    system.undoesReliedOn thread = true ↔
      record.proofs.sameFiles installed = true ∧ record.InUse ∧
        (record.lease.profile = .coordinatorControl ∨
          record.lease.profile = .coordinatorWorkload) := by
  simp [undoesReliedOn, standing, found, and_assoc]

end Undo

namespace FileCtx.Covered

variable {record newRecord : FileCtx φ}

theorem mono (covered : record.Covered) (profile : newRecord.lease.profile = record.lease.profile)
    (proofs : newRecord.proofs = record.proofs) (used : newRecord.InUse → record.InUse) :
    newRecord.Covered := by
  intro inUse
  rw [profile, proofs]
  exact covered (used inUse)

theorem of_idle (idle : ¬ record.InUse) : record.Covered :=
  fun inUse => (idle inUse).elim

theorem rebind (covered : record.Covered)
    (unbound : record.proofs.slotProofFile = none ∧ record.proofs.lifetimeProofFile = none)
    (profile : newRecord.lease.profile = record.lease.profile)
    (used : newRecord.InUse → record.InUse) : newRecord.Covered := by
  intro inUse
  obtain ⟨control, workload⟩ := covered (used inUse)
  rw [profile]
  exact ⟨fun is => (control is unbound.1).elim, fun is => (workload is unbound.2).elim⟩

theorem of_validated (valid : mxLeaseSmValidateProofs record.lease.profile record.proofsEverBound
      record.proofs.slotProofFile.isSome record.proofs.lifetimeProofFile.isSome = none) :
    record.Covered := by
  intro _
  obtain ⟨slot, lifetime⟩ := mxLeaseSmValidateProofs_eq_none valid
  exact ⟨fun control => Option.isSome_iff_ne_none.mp (slot (.inl control)),
    fun workload => Option.isSome_iff_ne_none.mp (lifetime (.inl workload))⟩

end FileCtx.Covered

theorem TransitionEffect.profile {sm : LeaseSm} {holder : LeaseSmHolder}
    {activeDirect activeTransfers barMappings : Nat} {slotDomainAnchored : Bool}
    {outcome : SmOutcome}
    (effect : TransitionEffect sm holder activeDirect activeTransfers barMappings
      slotDomainAnchored outcome) : outcome.holder.profile = holder.profile := by
  cases effect with
  | refused error => rfl
  | moved publisher notLegacy move guards => cases move <;> rfl

namespace AccessCovered

variable [DecidableEq ι] [DecidableEq θ] [DecidableEq φ]
variable {system next : LeaseSystem ι θ τ ν φ} {action : LeaseAction ι θ τ ν φ}
variable {thread : θ} {ctx : ι} {record newRecord : FileCtx φ}

omit [DecidableEq θ] [DecidableEq φ] in
theorem replaced (covered : AccessCovered system)
    (contexts : next.ctx = Function.update system.ctx ctx (some newRecord))
    (new : newRecord.Covered) : AccessCovered next := by
  unfold AccessCovered
  rw [contexts]
  exact records_update (p := fun _ record => record.Covered) covered new

omit [DecidableEq θ] [DecidableEq φ] in
/-- One context is replaced by one with the same profile and proofs that is not
in use if it was not. -/
theorem kept (covered : AccessCovered system)
    (contexts : next.ctx = Function.update system.ctx ctx (some newRecord))
    (found : system.ctx ctx = some record)
    (profile : newRecord.lease.profile = record.lease.profile)
    (proofs : newRecord.proofs = record.proofs) (used : newRecord.InUse → record.InUse) :
    AccessCovered next :=
  covered.replaced contexts ((covered ctx record found).mono profile proofs used)

/-- A copied reply changes no context, and neither does the undo of an anchor. An
unbind is undone only while nothing is bound. -/
theorem reply (covered : AccessCovered system) {copied : Bool}
    (effect : ReplyEffect system thread copied next)
    (copies : copied = true ∨ (system.thread thread).call.undoRecord = none)
    (keeps : copied = true ∨ system.undoesReliedOn thread = false) : AccessCovered next := by
  cases effect with
  | acquired standing found | transitioned standing found | anchored standing found
  | bound standing found | unbound standing found | undoAnchor standing found
  | undoKept standing found => exact covered.kept rfl found rfl rfl id
  | undoAcquire standing found | undoTransition standing found =>
    simp [standing, LeaseCall.undoRecord] at copies
  | undoBind standing found =>
    rename_i ctx installed record
    refine covered.replaced rfl ?_
    unfold mxLeaseBindProofsUndo
    split
    · rename_i same
      -- The proofs are gone, so this is where the condition on the step is needed.
      intro inUse
      have unrelied : ¬ system.undoesReliedOn thread = true := by simpa using keeps
      rw [LeaseSystem.undoesReliedOn_eq standing found] at unrelied
      have outside := fun coordinated => unrelied ⟨same, inUse, coordinated⟩
      exact ⟨fun control => (outside (.inl control)).elim,
        fun workload => (outside (.inr workload)).elim⟩
    · exact covered ctx record found
  | undoUnbind standing found =>
    rename_i ctx detached record
    refine covered.replaced rfl ?_
    unfold mxLeaseUnbindProofsUndo
    split
    · rename_i unbound
      have unbound : record.proofs.slotProofFile = none ∧
          record.proofs.lifetimeProofFile = none := by
        simp [ProofBinding.sameFiles] at unbound
        exact ⟨unbound.1.1.2, unbound.2⟩
      exact (covered ctx record found).rebind unbound rfl id
    · exact covered ctx record found

theorem call (covered : AccessCovered system) (exclusive : Exclusive system)
    (effect : CallEffect system action next) (copies : RepliesCopied system action)
    (keeps : ReliedOnKept system action) : AccessCovered next := by
  cases effect with
  | refused => exact covered
  | copied effect => exact covered.reply effect (.inl rfl) (.inl rfl)
  | faulted effect => exact covered.reply effect (.inr copies) (.inr keeps)
  | acquire enters checked effect =>
    rename_i request record file outcome
    cases effect with
    | refused error => exact covered.kept rfl enters.found rfl rfl id
    | acquired anchor granted =>
      have effect := mxLeaseSmAcquire_effect system.device.state record.lease
        request.profile
      rw [granted] at effect
      cases effect with
      | found profiled same => exact covered.kept rfl enters.found rfl rfl id
      | granted phase known notLegacy noLegacy unprofiled family room phaseEq =>
        refine covered.replaced rfl (.of_idle ?_)
        rcases exclusive.entitled _ record enters.found with
          uncharged | legacy | ⟨profiled, -⟩
        · simp [FileCtx.InUse, uncharged.1, uncharged.2.2]
        · simp [notLegacy] at legacy
        · exact (profiled unprofiled).elim
  | transition enters checked =>
    rename_i request record
    have effect := mxLeaseTransitionLocked_effect system.device record request
    exact covered.kept rfl enters.found effect.profile rfl id
  | anchor enters checked effect | bind enters lookedUp present =>
    exact covered.kept rfl enters.found rfl rfl id
  | bindLocked standing found effect =>
    cases effect with
    | refused | kept => exact covered.kept rfl found rfl rfl id
    | committed phase drained unbound =>
      exact covered.replaced rfl ((covered _ _ found).rebind unbound.2 rfl id)
  | unbind enters effect =>
    cases effect with
    | refused => exact covered.kept rfl enters.found rfl rfl id
    | detached drained =>
      exact covered.replaced rfl (.of_idle (by simp [FileCtx.InUse, drained]))

variable [DecidableEq τ] [DecidableEq ν]
variable [Fintype ι] [Fintype θ] [Fintype τ] [Fintype ν]

theorem life (covered : AccessCovered system) (exclusive : Exclusive system)
    (invariant : LeaseInvariant system) (effect : LifeEffect system action next) :
    AccessCovered next := by
  cases effect with
  | refused | user | openGet | openFailed | closed | mmapCheck | mmapFail | vmaOpen
  | vmaClose | remove | detach => exact covered
  | opened standing free => exact covered.replaced rfl (.of_idle (by simp [FileCtx.InUse]))
  | directBegin enters effect begins =>
    rename_i thread ctx record begun
    have bounded := invariant.accounted.bounded ctx record enters.found
    cases effect with
    | refused error => exact covered.kept rfl enters.found rfl rfl id
    | retracted error room profiled =>
      refine covered.kept rfl enters.found rfl rfl ?_
      simp [FileCtx.InUse, mxLeaseSmReleaseDirect_incU32 bounded.1 room]
    | admitted room effect anchored proofs =>
      exact covered.replaced rfl (.of_validated proofs)
  | directEnd standing found =>
    rename_i thread ctx record
    have positive := (exclusive.entitled_of_direct invariant standing rfl found).1
    have inUse : record.InUse := .inl (by omega)
    refine covered.replaced rfl ((covered ctx record found).mono ?_ ?_ fun _ => inUse) <;>
      (unfold mxLeaseDirectEnd; split <;> rfl)
  | transferGet standing free found checked | transferPut standing inFlight found =>
    exact covered.kept rfl found rfl rfl id
  | mmapCommit standing free found =>
    have positive := (exclusive.entitled_of_direct invariant standing rfl found).1
    exact covered.kept rfl found rfl rfl fun _ => .inl (by omega)
  | put standing effect =>
    cases effect with
    | file | pdevKept | pdevFreed | dangling => exact covered
    | ctxKept found shared => exact covered.kept rfl found rfl rfl id
    | ctxFreed found last => exact records_erase (p := fun _ record => record.Covered) covered
    | uncharged mapped found =>
      have positive := invariant.accounted.barMappingCount_pos mapped found
      exact covered.kept rfl found rfl rfl fun _ => .inr (by omega)

theorem step (covered : AccessCovered system) (exclusive : Exclusive system)
    (invariant : LeaseInvariant system) (copies : RepliesCopied system action)
    (keeps : ReliedOnKept system action) (stepped : leaseStep system action = some next) :
    AccessCovered next := by
  cases leaseStep_effect stepped with
  | call effect => exact covered.call exclusive effect copies keeps
  | life effect => exact covered.life exclusive invariant effect

theorem of_reached {incarnation : UInt64} (reached : ReachedBy leaseStep
      (fun system action => RepliesCopied system action ∧ ReliedOnKept system action)
      (LeaseSystem.start incarnation) system) : AccessCovered system := by
  induction reached with
  | refl => simp [AccessCovered, LeaseSystem.start]
  | tail before kept stepped ih =>
    have exclusive := Exclusive.of_reached (before.mono fun _ _ kept => kept.1)
    exact ih.step exclusive (leaseInvariant_of_reached before.reached) kept.1 kept.2
      stepped

omit [DecidableEq τ] [DecidableEq ν] [Fintype ι] [Fintype θ] [Fintype τ] [Fintype ν] in
/-- Undoing a bind that somebody relies on leaves them uncovered. -/
theorem undone (undone : system.undoesReliedOn thread = true)
    (effect : ReplyEffect system thread false next) : ¬ AccessCovered next := by
  cases effect with
  | undoBind standing found =>
    rename_i ctx installed record
    obtain ⟨same, inUse, coordinated⟩ :=
      (LeaseSystem.undoesReliedOn_eq standing found).mp undone
    intro covered
    have bare := covered ctx (mxLeaseBindProofsUndo record installed).1
      (Function.update_self ..)
    rw [mxLeaseBindProofsUndo, if_pos same] at bare
    obtain ⟨control, workload⟩ := bare inUse
    rcases coordinated with is | is
    · exact control is rfl
    · exact workload is rfl
  | _ standing => simp [LeaseSystem.undoesReliedOn, standing] at undone

end AccessCovered

section Runs

variable [DecidableEq ι] [DecidableEq θ] [DecidableEq τ] [DecidableEq ν]
  [DecidableEq φ]
variable [Fintype ι] [Fintype θ] [Fintype τ] [Fintype ν]

/-- In every interleaving that undoes no bind while a coordinated context relies
on it, coordinated access is covered; and a next step keeps it covered exactly if it
does not undo such a bind either. -/
theorem access_covered_iff {incarnation : UInt64} {system : LeaseSystem ι θ τ ν φ}
    (reached : ReachedBy leaseStep
      (fun system action => RepliesCopied system action ∧ ReliedOnKept system action)
      (LeaseSystem.start incarnation) system) :
    AccessCovered system ∧
      ∀ action next, RepliesCopied system action → leaseStep system action = some next →
        (AccessCovered next ↔ ReliedOnKept system action) := by
  have covered := AccessCovered.of_reached reached
  refine ⟨covered, fun action next copies stepped => ⟨fun nextCovered => ?_, fun keeps => ?_⟩⟩
  · cases action with
    | replyFaulted thread =>
      by_contra uncovers
      have undone : system.undoesReliedOn thread = true := by simpa [ReliedOnKept] using uncovers
      exact AccessCovered.undone undone (LeaseSystem.replyFaulted_effect stepped) nextCovered
    | _ => trivial
  · have exclusive := Exclusive.of_reached (reached.mono fun _ _ kept => kept.1)
    exact covered.step exclusive (leaseInvariant_of_reached reached.reached) copies keeps
      stepped

/-- The control context maps the BAR while its bind is about to copy the reply. -/
def relyingRun : List (LeaseAction Party Party Party Party Party) :=
  controlRun ++ [.directBegin 1 1, .mmapCheck 1, .mmapCommit 1 0]

theorem access_covered_relyingRun :
    ∃ system, runAllowed leaseStep
        (fun system action => RepliesCopied system action ∧ ReliedOnKept system action)
        (LeaseSystem.start 7) relyingRun = some system ∧
      AccessCovered system ∧
      ∃ record, system.ctx 1 = some record ∧ record.barMappingCount = 1 ∧
        record.lease.profile = .coordinatorControl := by
  have run : runAllowed leaseStep
      (fun system action => RepliesCopied system action ∧ ReliedOnKept system action)
      (LeaseSystem.start 7) relyingRun = some _ := rfl
  exact ⟨_, run, (access_covered_iff (reachedBy_of_runAllowed run)).1, _, rfl, rfl, rfl⟩

/-- The reply of the bind faults: the mapping stays and the proof is gone. -/
theorem bind_fault_uncovers_mapping :
    ∃ system, runActions leaseStep (LeaseSystem.start 7)
        (relyingRun ++ [.directEnd 1, .replyFaulted 0]) = some system ∧
      ¬ AccessCovered system := by
  have run : runActions leaseStep (LeaseSystem.start 7)
      (relyingRun ++ [.directEnd 1, .replyFaulted 0]) = some _ := rfl
  refine ⟨_, run, fun covered => ?_⟩
  exact (covered 1 _ rfl (.inr (by decide))).1 rfl rfl

end Runs

end MxDriver
