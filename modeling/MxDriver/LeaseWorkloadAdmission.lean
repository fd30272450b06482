import MxDriver.LeaseFamilies
import MxDriver.LeaseTransferProofs

/-!
# When a workload may attach

A workload of the hub or the standalone family finds its family not idle and
not quiescent.  That somebody of the family is in the workload phase does not
follow: a replacement candidate whose last workload has left is a holder in
neither of the two phases.
-/

namespace MxDriver

variable {ι θ τ ν φ : Type*}

section Counters

variable [Fintype ι] {sm : LeaseSm} {holder : ι → LeaseSmHolder}

/-- The idle test is about the holders of profiles. -/
theorem CountersExact.idle_iff (counters : CountersExact sm holder) :
    mxLeaseSmIdle sm = true ↔ sm.familyHolders = 0 := by
  simp only [mxLeaseSmIdle, Bool.and_eq_true, beq_iff_eq, Bool.not_eq_true']
  refine ⟨fun idle => idle.1.1.1, fun noHolder => ?_⟩
  have unprofiled := noHolder
  rw [counters.familyHolders, tally_eq_zero_iff] at unprofiled
  have inactive : ∀ ctx, (holder ctx).phase = .none := fun ctx =>
    (counters.holderOk ctx).phase_of_unprofiled (not_not.mp (unprofiled ctx))
  refine ⟨⟨⟨noHolder, ?_⟩, ?_⟩, ?_⟩
  · rw [counters.publishers, tally_eq_zero_iff]
    exact fun ctx publishing => unprofiled ctx (ne_none_of_isPublisher publishing)
  · rw [counters.workloads, tally_eq_zero_iff]
    simp [LeaseSmHolder.InPhase, inactive]
  · rw [← Bool.not_eq_true, counters.quiescent]
    simp [inactive]

/-- A holder outside the workload phase is quiescent, prepared or a candidate. -/
theorem HolderOk.phase_cases {holder : LeaseSmHolder} (ok : HolderOk holder)
    (profiled : holder.Profiled) :
    holder.phase = .workload ∨ holder.phase = .quiescent ∨
      holder.phase = .replacementCandidate ∨
      mxLeaseProfileFamily holder.profile = .coordinator := by
  have allowed := ok.phase
  cases profileEq : holder.profile <;> cases phaseEq : holder.phase <;>
    simp_all [phaseAllowed, mxLeaseProfileFamily]

/-- A family that is not idle has a holder. -/
theorem CountersExact.exists_profiled (counters : CountersExact sm holder)
    (active : mxLeaseSmIdle sm = false) : ∃ ctx, (holder ctx).Profiled := by
  have held : sm.familyHolders ≠ 0 := by
    rw [ne_eq, ← counters.idle_iff, active]
    exact Bool.false_ne_true
  rw [counters.familyHolders] at held
  exact exists_of_tally_pos (Nat.pos_of_ne_zero held)

theorem CountersExact.family_ne_none (counters : CountersExact sm holder)
    (active : mxLeaseSmIdle sm = false) : sm.family ≠ .none := by
  obtain ⟨ctx, profiled⟩ := counters.exists_profiled active
  rw [← counters.familyOf ctx profiled]
  exact family_ne_none_of_allowed (counters.holderOk ctx).phase profiled

/-- Outside the coordinator family, whoever is active without being quiescent or
a workload is a replacement candidate. -/
theorem CountersExact.exists_candidate (counters : CountersExact sm holder)
    (active : mxLeaseSmIdle sm = false) (notQuiescent : sm.quiescent = false)
    (notCoordinator : sm.family ≠ .coordinator) (noWorkload : sm.workloads = 0) :
    ∃ ctx, (holder ctx).phase = .replacementCandidate := by
  obtain ⟨ctx, profiled⟩ := counters.exists_profiled active
  refine ⟨ctx, ?_⟩
  rw [counters.workloads, tally_eq_zero_iff] at noWorkload
  rcases (counters.holderOk ctx).phase_cases profiled with
    workload | quiescent | candidate | coordinator
  · exact (noWorkload ctx workload).elim
  · have flagged := counters.quiescent.mpr ⟨ctx, quiescent⟩
    simp [notQuiescent] at flagged
  · exact candidate
  · exact (notCoordinator (counters.familyOf ctx profiled ▸ coordinator)).elim

end Counters

/-- A hub or standalone workload is turned away from an idle family. -/
theorem mxLeaseSmValidateAnchoredAcquire_workload {sm : LeaseSm} {stateFamily : LeaseFamily}
    {profile : LeaseProfile} (workload : profile = .hubWorkload ∨ profile = .standaloneWorkload)
    (valid : mxLeaseSmValidateAnchoredAcquire sm stateFamily profile = none) :
    mxLeaseSmIdle sm = false := by
  unfold mxLeaseSmValidateAnchoredAcquire at valid
  dsimp only at valid
  split at valid
  · cases valid
  rename_i family
  split at valid
  · cases valid
  rename_i active
  rcases workload with rfl | rfl <;>
    simp_all [mxLeaseProfileFamily, mxLeaseProfileIsPublisher]

/-- A context holds no profile and is not a legacy one. -/
def FileCtx.Leaseless (record : FileCtx φ) : Prop :=
  record.lease.profile = .none ∧ record.lease.legacy = false

namespace LeaseSystem

/-- Somebody else holds a lease of this family in the workload phase. -/
def WorkloadBeside (system : LeaseSystem ι θ τ ν φ) (ctx : ι) (family : LeaseFamily) : Prop :=
  ∃ other record, other ≠ ctx ∧ system.ctx other = some record ∧
    mxLeaseProfileFamily record.lease.profile = family ∧ record.lease.phase = .workload

/-- A replacement candidate is there, and no workload is counted. -/
def CandidateAlone (system : LeaseSystem ι θ τ ν φ) : Prop :=
  system.device.state.workloads = 0 ∧ ∃ other record, system.ctx other = some record ∧
    record.lease.phase = .replacementCandidate

end LeaseSystem

section Admission

variable [DecidableEq ι] [DecidableEq θ] [DecidableEq τ] [DecidableEq ν]
  [DecidableEq φ]
variable [Fintype ι] [Fintype θ] [Fintype τ] [Fintype ν]
variable {system next : LeaseSystem ι θ τ ν φ} {thread : θ} {ctx : ι}

omit [DecidableEq τ] [DecidableEq ν] [Fintype ι] [Fintype θ] [Fintype τ] [Fintype ν] in
/-- A granted acquire has passed the anchor and the state machine. -/
theorem LeaseSystem.acquire_granted {capable : Bool} {fds : Int → Option φ}
    {request : AcquireRequest} {record : FileCtx φ} {undo : AcquireUndo}
    (found : system.ctx ctx = some record)
    (stepped : system.acquire thread ctx capable fds request = some next)
    (granted : next.thread thread = ⟨.acquiring ctx undo, []⟩) :
    ∃ stateInode freshAnchor sm newHolder,
      mxLeaseAcquireAnchor system.device stateInode request = .ok freshAnchor ∧
      mxLeaseSmAcquire system.device.state record.lease request.profile =
        ⟨none, sm, newHolder⟩ := by
  obtain ⟨entering, entered, -⟩ := Option.map_eq_some_iff.mp stepped
  have idle := (enter_eq_some entered).idle
  cases LeaseSystem.acquire_effect stepped with
  | refused =>
    rw [idle] at granted
    cases granted
  | acquire enters checked effect =>
    obtain rfl := Option.some.inj (found.symm.trans enters.found)
    cases effect with
    | refused error => simp [LeaseSystem.publish] at granted
    | acquired anchor outcome => exact ⟨_, _, _, _, anchor, outcome⟩

omit [DecidableEq θ] [DecidableEq τ] [DecidableEq ν] in
/-- A counted workload of a family is a live context of it. -/
theorem LeaseInvariant.workload_beside (invariant : LeaseInvariant system)
    {record : FileCtx φ} (found : system.ctx ctx = some record)
    (leaseless : record.Leaseless) (workloads : system.device.state.workloads ≠ 0) :
    system.WorkloadBeside ctx system.device.state.family := by
  have counters := invariant.smInvariant.counters
  have counted : 0 < tally (LeaseSmHolder.InPhase .workload) system.smView.holder := by
    rw [← counters.workloads]
    exact Nat.pos_of_ne_zero workloads
  obtain ⟨other, phase⟩ := exists_of_tally_pos counted
  have profiled := (counters.holderOk other).profiled_of_phase (by simp [phase])
  have family := counters.familyOf other profiled
  obtain ⟨otherRecord, otherFound, otherPhase⟩ :=
    LeaseSystem.exists_of_smView_phase phase (by simp)
  rw [LeaseSystem.smView_holder otherFound] at profiled family
  refine ⟨other, otherRecord, ?_, otherFound, family, otherPhase⟩
  rintro rfl
  obtain rfl := Option.some.inj (found.symm.trans otherFound)
  exact profiled leaseless.1

/-- When the acquire of a hub or standalone workload is granted to a context
without a lease, somebody of its family is in the workload phase, unless the
family is that of a replacement candidate that has lost its workloads. -/
theorem workload_admission_iff {incarnation : UInt64} {capable : Bool}
    {fds : Int → Option φ} {request : AcquireRequest} {record : FileCtx φ} {undo : AcquireUndo}
    (reached : Reached leaseStep (LeaseSystem.start incarnation) system)
    (found : system.ctx ctx = some record) (leaseless : record.Leaseless)
    (workload : request.profile = .hubWorkload ∨ request.profile = .standaloneWorkload)
    (stepped : leaseStep system (.acquire thread ctx capable fds request) = some next)
    (granted : next.thread thread = ⟨.acquiring ctx undo, []⟩) :
    system.WorkloadBeside ctx (mxLeaseProfileFamily request.profile) ↔
      ¬ system.CandidateAlone := by
  have invariant := leaseInvariant_of_reached reached
  have counters := invariant.smInvariant.counters
  obtain ⟨stateInode, freshAnchor, sm, newHolder, anchor, acquired⟩ :=
    LeaseSystem.acquire_granted found stepped granted
  constructor
  · rintro ⟨other, otherRecord, -, otherFound, -, phase⟩ ⟨noWorkload, -⟩
    rw [← LeaseSystem.smView_sm, counters.workloads, tally_eq_zero_iff] at noWorkload
    apply noWorkload other
    rw [LeaseSystem.smView_holder otherFound]
    exact phase
  · intro notAlone
    obtain ⟨-, -, fresh, named⟩ := mxLeaseAcquireAnchor_ok anchor
    have notPublisher : mxLeaseProfileIsPublisher request.profile = false := by
      rcases workload with profile | profile <;> rw [profile] <;> rfl
    obtain rfl : freshAnchor = false := by simpa [notPublisher] using fresh
    have active := mxLeaseSmValidateAnchoredAcquire_workload workload (named rfl).2
    have effect := mxLeaseSmAcquire_effect system.device.state record.lease request.profile
    rw [acquired] at effect
    cases effect with
    | found profiled same => exact (profiled (same.symm.trans leaseless.1)).elim
    | granted phase known notLegacy noLegacy unprofiled family room phaseEq =>
      have family := family.resolve_left (counters.family_ne_none active)
      by_cases noWorkload : system.device.state.workloads = 0
      · have notCoordinator : system.device.state.family ≠ .coordinator := by
          rw [family]
          rcases workload with profile | profile <;> rw [profile] <;> decide
        obtain ⟨other, candidate⟩ := counters.exists_candidate active
          (mxLeaseSmAcquirePhase_spec phaseEq).2.1 notCoordinator noWorkload
        obtain ⟨otherRecord, otherFound, otherPhase⟩ :=
          LeaseSystem.exists_of_smView_phase candidate (by simp)
        exact (notAlone ⟨noWorkload, other, otherRecord, otherFound, otherPhase⟩).elim
      · rw [← family]
        exact invariant.workload_beside found leaseless noWorkload

/-- A hub publisher activates its family and a workload attaches. -/
def attachedRun : List (LeaseAction Party Party Party Party Party) :=
  [.openGet 0, .openFinish 0 0 .ioctl true, .openGet 0, .openFinish 0 1 .ioctl true,
    .openGet 0, .openFinish 0 2 .ioctl true, .openGet 0, .openFinish 0 3 .ioctl true,
    .user (.openAt 0 anchorInode true true), .user (.openAt 1 domainInode true true),
    .acquire 0 0 true (fun _ => some 0)
      ⟨leaseAbiMagic, 7, 0, (1, 1), 3, .hubPublisher, 1, 128, 0⟩,
    .replyCopied 0,
    .anchor 0 0 true (fun _ => some 1) (.ok (2, domainInode))
      ⟨leaseAbiMagic, 7, 1, 4, 1, 64, 0, 0, 0, 0⟩,
    .replyCopied 0, .put 0,
    .transition 0 0 true ⟨leaseAbiMagic, 7, 1, .activateWorkload, 1, 96, 0, 0⟩,
    .replyCopied 0]

/-- A hub workload of the device of `attachedRun`. -/
def hubWorkloadRequest : AcquireRequest :=
  ⟨leaseAbiMagic, 7, 1, (1, 1), 3, .hubWorkload, 1, 128, 0⟩

theorem workload_admission_iff_attachedRun :
    ∃ (system next : LeaseSystem Party Party Party Party Party) (record : _) (undo : _),
      runActions leaseStep (LeaseSystem.start 7) attachedRun = some system ∧
      system.ctx 1 = some record ∧ record.Leaseless ∧
      leaseStep system (.acquire 0 1 false (fun _ => some 0) hubWorkloadRequest) = some next ∧
      next.thread 0 = ⟨.acquiring 1 undo, []⟩ ∧
      (system.WorkloadBeside 1 (mxLeaseProfileFamily hubWorkloadRequest.profile) ↔
        ¬ system.CandidateAlone) := by
  have run : runActions leaseStep (LeaseSystem.start 7) attachedRun = some _ := rfl
  exact ⟨_, _, _, _, run, rfl, ⟨rfl, rfl⟩, rfl, rfl,
    workload_admission_iff (reached_of_runActions run) rfl ⟨rfl, rfl⟩ (.inl rfl)
      (show leaseStep _ (.acquire 0 1 false (fun _ => some 0) hubWorkloadRequest) = some _
        from rfl) rfl⟩

/-- The publisher leaves, another one comes as a replacement candidate, and the
workload leaves. -/
def candidateRun : List (LeaseAction Party Party Party Party Party) :=
  attachedRun ++
    [.acquire 0 1 false (fun _ => some 0) hubWorkloadRequest, .replyCopied 0,
      .close 0 0, .put 0, .put 0,
      .acquire 0 2 true (fun _ => some 0)
        ⟨leaseAbiMagic, 7, 1, (1, 1), 3, .hubPublisher, 1, 128, 0⟩,
      .replyCopied 0, .close 0 1, .put 0, .put 0]

/-- A workload attaches beside a replacement candidate that nobody activated. -/
theorem workload_admission_candidateRun :
    ∃ (system next : LeaseSystem Party Party Party Party Party) (record : _) (undo : _),
      runActions leaseStep (LeaseSystem.start 7) candidateRun = some system ∧
      system.ctx 3 = some record ∧ record.Leaseless ∧
      leaseStep system (.acquire 0 3 false (fun _ => some 0) hubWorkloadRequest) = some next ∧
      next.thread 0 = ⟨.acquiring 3 undo, []⟩ ∧
      ¬ system.WorkloadBeside 3 .hub := by
  have run : runActions leaseStep (LeaseSystem.start 7) candidateRun = some _ := rfl
  refine ⟨_, _, _, _, run, rfl, ⟨rfl, rfl⟩, rfl, rfl, ?_⟩
  rintro ⟨other, record, -, found, -, phase⟩
  cases other <;> cases found <;> cases phase

end Admission

end MxDriver
