import MxDriver.LeaseAnchorReliance

/-!
# The anchors over whole runs

Every step but two keeps the anchors under what relies on them.  The two are the
undo of an acquire that set the state anchor and the undo of a slot-domain anchor,
and they keep them exactly if nothing relies on what they take back.
-/

namespace MxDriver

variable {ι θ τ ν φ : Type*}

theorem mxLeaseSmRelease_coordinatorReady (sm : LeaseSm) (holder : LeaseSmHolder) :
    (mxLeaseSmRelease sm holder).1.coordinatorReady = sm.coordinatorReady := by
  unfold mxLeaseSmRelease
  split
  · rfl
  split <;> rfl

/-- A slot domain is anchored only under a state anchor of the hub or the
coordinator. -/
theorem mxLeaseSmValidateSlotDomainAnchor_eq_none {holder : LeaseSmHolder}
    {stateFamily : LeaseFamily} {stateAnchored domainAnchored sameInode : Bool}
    {activeDirect activeTransfers barMappings : Nat}
    (valid : mxLeaseSmValidateSlotDomainAnchor holder stateFamily stateAnchored activeDirect
      activeTransfers barMappings domainAnchored sameInode = none) :
    stateAnchored = true ∧ (stateFamily = .hub ∨ stateFamily = .coordinator) := by
  unfold mxLeaseSmValidateSlotDomainAnchor at valid
  split at valid
  · split at valid
    · cases valid
    rename_i admitted
    simp only [not_or, not_not, Bool.not_eq_false] at admitted
    exact ⟨admitted.2.2, .inr admitted.2.1⟩
  · split at valid
    · cases valid
    rename_i admitted
    simp only [not_or, not_not, Bool.not_eq_false] at admitted
    exact ⟨admitted.2.2.2, .inl admitted.2.2.1⟩

namespace LeaseSystem.Anchored

variable [DecidableEq ι] [DecidableEq θ] [DecidableEq φ]
variable {system next : LeaseSystem ι θ τ ν φ} {action : LeaseAction ι θ τ ν φ}
variable {thread : θ} {ctx : ι} {record : FileCtx φ}

omit [DecidableEq θ] [DecidableEq φ] in
/-- Taking the state anchor back keeps the anchors exactly if there is no slot
domain. -/
theorem undoAcquire_iff (anchored : system.Anchored) {undo : AcquireUndo}
    (found : system.ctx ctx = some record) (ok : HolderOk record.lease)
    (idle : (undoAcquireSm system.device.state record.lease undo.newHolder).1.familyHolders =
        0 → mxLeaseSmIdle
          (undoAcquireSm system.device.state record.lease undo.newHolder).1 = true)
    (device : next.device = (mxLeaseAcquireUndo system.device record.lease undo).1)
    (contexts : next.ctx = Function.update system.ctx ctx (some { record with
      lease := (mxLeaseAcquireUndo system.device record.lease undo).2 })) :
    next.Anchored ↔ ¬ (system.device.slotDomainPathValid = true ∧
      undo.retracts system.device record.lease = true) := by
  obtain ⟨ready, active⟩ :=
    undoAcquireSm_relies system.device.state record.lease undo.newHolder
  rw [ok.mxLeaseAcquireUndo_device idle] at device
  have relied : next.DomainReliedOn → system.DomainReliedOn := by
    refine relied_replaced contexts id ?_ ?_
    · intro now
      left
      rw [← ready]
      rw [device] at now
      split at now <;> exact now
    · intro now
      rw [mxLeaseAcquireUndo_holder] at now
      exact .inr ⟨ctx, record, found, active now⟩
  by_cases retracts : undo.retracts system.device record.lease = true
  · rw [if_pos retracts] at device
    simp only [retracts, and_true]
    constructor
    · intro nextAnchored valid
      have state := nextAnchored.state (by rw [device]; exact valid)
      rw [device] at state
      cases state.1
    · intro noDomain
      refine ⟨fun valid => ?_, fun now => ?_⟩
      · rw [device] at valid
        exact (noDomain valid).elim
      · rw [device]
        exact anchored.domain (relied now)
  · rw [if_neg retracts] at device
    rw [iff_true_right fun both => retracts both.2]
    refine anchored.kept ?_ relied
    rw [device]
    exact ⟨rfl, rfl, rfl, rfl, rfl⟩

omit [DecidableEq θ] [DecidableEq φ] in
/-- Taking the slot domain back keeps the anchors exactly if nobody relies on it. -/
theorem undoAnchor_iff (anchored : system.Anchored) {freshAnchor : Bool} {domainInode : Inode}
    (found : system.ctx ctx = some record) (device : next.device =
      mxLeaseAnchorSlotDomainUndo system.device freshAnchor domainInode)
    (contexts : next.ctx = Function.update system.ctx ctx (some record)) :
    next.Anchored ↔ ¬ ((freshAnchor = true ∧ system.device.slotDomainPathValid = true ∧
      system.device.slotDomainInode = some domainInode) ∧ system.DomainReliedOn) := by
  have same : next.ctx = system.ctx := by
    rw [contexts, ← found, Function.update_eq_self]
  have state : next.device.state = system.device.state := by
    rw [device, mxLeaseAnchorSlotDomainUndo_state]
  have relied : next.DomainReliedOn ↔ system.DomainReliedOn := by
    rw [LeaseSystem.DomainReliedOn, LeaseSystem.DomainReliedOn, same, state]
  unfold mxLeaseAnchorSlotDomainUndo at device
  split at device
  · rename_i taken
    simp only [taken, true_and]
    constructor
    · intro nextAnchored now
      have domain := nextAnchored.domain (relied.mpr now)
      rw [device] at domain
      cases domain
    · intro unrelied
      refine ⟨fun valid => ?_, fun now => (unrelied (relied.mp now)).elim⟩
      rw [device] at valid
      cases valid
  · rename_i left
    rw [iff_true_right fun both => left both.1]
    exact anchored.kept (device ▸ .rfl) relied.mp

theorem call (anchored : system.Anchored) (effect : CallEffect system action next)
    (running : ∀ thread, action ≠ .replyFaulted thread) : next.Anchored := by
  cases effect with
  | refused => exact anchored
  | copied effect =>
    cases effect with
    | acquired standing found | transitioned standing found | anchored standing found
    | bound standing found | unbound standing found =>
      exact anchored.replaced rfl found .rfl id id
  | faulted effect => exact (running _ rfl).elim
  | acquire enters checked effect =>
    rename_i request record file outcome
    cases effect with
    | refused error => exact anchored.replaced rfl enters.found .rfl id id
    | acquired anchor granted =>
      rename_i freshAnchor sm newHolder
      have effect := mxLeaseSmAcquire_effect system.device.state record.lease
        request.profile
      rw [granted] at effect
      obtain ⟨active, ready⟩ := effect.hubActive
      cases freshAnchor with
      | false => exact anchored.replaced rfl enters.found ⟨rfl, rfl, rfl, rfl, rfl⟩ ready active
      | true =>
        have bare : system.device.statePathValid = false :=
          (mxLeaseAcquireAnchor_ok anchor).2.1
        refine ⟨fun valid => ?_, fun now => anchored.domain ?_⟩
        · have state := (anchored.state valid).1
          simp [DeviceLease.stateAnchored, bare] at state
        · exact relied_replaced rfl id (fun now => .inl (ready now))
            (fun now => .inr ⟨_, record, enters.found, active now⟩) now
  | transition enters checked =>
    rename_i request record
    obtain ⟨ready, active⟩ :=
      (mxLeaseTransitionLocked_effect system.device record request).relies
    refine ⟨anchored.state, relied_replaced rfl anchored.domain ready fun now => ?_⟩
    exact (active now).elim (fun before => anchored.domain
      (.inr ⟨_, record, enters.found, before⟩)) id
  | anchor enters checked effect =>
    cases effect with
    | refused | kept => exact anchored.replaced rfl enters.found .rfl id id
    | anchored bare valid pinned =>
      exact ⟨fun _ => mxLeaseSmValidateSlotDomainAnchor_eq_none valid, fun _ => rfl⟩
  | bind enters => exact anchored.replaced rfl enters.found .rfl id id
  | bindLocked standing found effect =>
    cases effect with
    | refused | kept | committed => exact anchored.replaced rfl found .rfl id id
  | unbind enters effect =>
    cases effect with
    | refused | detached => exact anchored.replaced rfl enters.found .rfl id id

variable [DecidableEq τ] [DecidableEq ν]

theorem life (anchored : system.pdevRefs ≠ 0 → system.Anchored)
    (alive : ∀ ctx record, system.ctx ctx = some record → system.pdevRefs ≠ 0)
    (aliveNow : next.pdevRefs ≠ 0) (effect : LifeEffect system action next) : next.Anchored := by
  cases effect with
  | openGet idle existed => exact (anchored existed).kept .rfl id
  | opened standing free =>
    refine (anchored aliveNow).kept .rfl (relied_replaced rfl id .inl fun active => ?_)
    simp [LeaseSmHolder.HubActive] at active
  | directBegin enters effect begins =>
    cases effect with
    | refused | retracted =>
      exact (anchored aliveNow).replaced rfl enters.found .rfl id id
    | admitted room effect domain proofs =>
      obtain ⟨ready, active⟩ := effect.relies
      exact (anchored aliveNow).replaced rfl enters.found ⟨rfl, rfl, rfl, rfl, rfl⟩
        (fun now => ready ▸ now) active
  | directEnd standing found =>
    refine (anchored aliveNow).replaced rfl found .rfl id ?_
    unfold mxLeaseDirectEnd
    split <;> exact id
  | transferGet standing free found checked | transferPut standing inFlight found =>
    exact (anchored aliveNow).replaced rfl found .rfl id id
  | mmapCommit standing free found =>
    exact (anchored (alive _ _ found)).replaced rfl found .rfl id id
  | put standing effect =>
    cases effect with
    | file | dangling => exact (anchored aliveNow).kept .rfl id
    | ctxKept found shared | uncharged mapped found =>
      exact (anchored aliveNow).replaced rfl found .rfl id id
    | ctxFreed found last =>
      refine (anchored aliveNow).kept ⟨rfl, rfl, rfl, rfl, rfl⟩ ?_
      rintro (ready | ⟨other, otherRecord, foundNow, active⟩)
      · exact .inl (by rwa [← mxLeaseSmRelease_coordinatorReady])
      · simp only [Function.update_apply] at foundNow
        split at foundNow
        · cases foundNow
        · exact .inr ⟨other, otherRecord, foundNow, active⟩
    | pdevKept shared =>
      exact (anchored fun dead => aliveNow (by simp [dead])).kept .rfl id
    | pdevFreed last => exact (aliveNow rfl).elim
  | remove => exact (anchored aliveNow).kept ⟨rfl, rfl, rfl, rfl, rfl⟩ id
  | _ => exact (anchored aliveNow).kept .rfl id

variable [Fintype ι] [Fintype θ] [Fintype τ] [Fintype ν]

omit [DecidableEq τ] [DecidableEq ν] in
theorem fault_iff (anchored : system.Anchored) (invariant : LeaseInvariant system)
    (nextInvariant : LeaseInvariant next) (effect : ReplyEffect system thread false next) :
    next.Anchored ↔ system.undoesAnchor thread = false := by
  cases effect with
  | undoAcquire standing found =>
    rename_i ctx undo record
    have ok := invariant.smInvariant.counters.holderOk ctx
    rw [LeaseSystem.smView_holder found] at ok
    have counters := nextInvariant.smInvariant.counters
    have state := mxLeaseAcquireUndo_state system.device record.lease undo
    rw [anchored.undoAcquire_iff found ok (fun few => ?_) rfl rfl]
    · simp [LeaseSystem.undoesAnchor, standing, found]
    · rw [← state] at few ⊢
      exact counters.idle few
  | undoAnchor standing found =>
    rw [anchored.undoAnchor_iff found rfl rfl]
    simp only [LeaseSystem.undoesAnchor, standing, Bool.eq_false_iff, ne_eq,
      Bool.and_eq_true, beq_iff_eq, decide_eq_true_eq, and_assoc]
  | undoTransition standing found =>
    rename_i ctx undo record
    have kept : system.smView.call thread = some (.transition ctx undo) := by
      simp [LeaseSystem.smView, standing, LeaseCall.undoRecord]
    obtain ⟨ready, active⟩ := (invariant.smInvariant.sound thread _ kept).1.relies
    rw [iff_true_right (by simp [LeaseSystem.undoesAnchor, standing])]
    refine anchored.replaced rfl found ⟨rfl, rfl, rfl, rfl, rfl⟩ ?_ ?_
    all_goals
      simp only [LeaseSystem.publish, mxLeaseTransitionUndo]
      split
    · rename_i unchanged
      rw [unchanged.1]
      exact ready
    · exact id
    · rename_i unchanged
      rw [unchanged.2]
      exact active
    · exact id
  | undoBind standing found =>
    rw [iff_true_right (by simp [LeaseSystem.undoesAnchor, standing])]
    refine anchored.replaced rfl found .rfl id ?_
    unfold mxLeaseBindProofsUndo
    split <;> exact id
  | undoKept standing found =>
    rw [iff_true_right (by simp [LeaseSystem.undoesAnchor, standing])]
    exact anchored.replaced rfl found .rfl id id
  | undoUnbind standing found =>
    rw [iff_true_right (by simp [LeaseSystem.undoesAnchor, standing])]
    refine anchored.replaced rfl found .rfl id ?_
    unfold mxLeaseUnbindProofsUndo
    split <;> exact id

/-- A step of a live device keeps the anchors exactly if it takes none back that is
relied on. -/
theorem step_iff (anchored : system.pdevRefs ≠ 0 → system.Anchored)
    (invariant : LeaseInvariant system) (stepped : leaseStep system action = some next)
    (aliveNow : next.pdevRefs ≠ 0) : next.Anchored ↔ AnchorsKept system action := by
  have nextInvariant := invariant.step stepped
  by_cases faulted : ∃ thread, action = .replyFaulted thread
  · obtain ⟨thread, rfl⟩ := faulted
    have effect := LeaseSystem.replyFaulted_effect stepped
    have alive : system.pdevRefs ≠ 0 := (CallEffect.faulted effect).pdevRefs ▸ aliveNow
    exact (anchored alive).fault_iff invariant nextInvariant effect
  · have running : ∀ thread, action ≠ .replyFaulted thread := by simpa using faulted
    have kept : AnchorsKept system action := by
      cases action with
      | replyFaulted thread => exact (running thread rfl).elim
      | _ => trivial
    rw [iff_true_right kept]
    cases leaseStep_effect stepped with
    | call effect => exact (anchored (effect.pdevRefs ▸ aliveNow)).call effect running
    | life effect =>
      exact life anchored (fun _ _ => invariant.balanced.alive) aliveNow effect

theorem of_reached {incarnation : UInt64}
    (reached : ReachedBy leaseStep AnchorsKept (LeaseSystem.start incarnation) system)
    (alive : system.pdevRefs ≠ 0) : system.Anchored := by
  induction reached with
  | refl =>
    refine ⟨fun valid => ?_, fun relied => ?_⟩
    · cases valid
    · simp [LeaseSystem.DomainReliedOn, LeaseSystem.start] at relied
  | tail before kept stepped ih =>
    exact (step_iff ih (leaseInvariant_of_reached before.reached) stepped alive).mpr kept

end LeaseSystem.Anchored

section Runs

variable [DecidableEq ι] [DecidableEq θ] [DecidableEq τ] [DecidableEq ν]
  [DecidableEq φ]
variable [Fintype ι] [Fintype θ] [Fintype τ] [Fintype ν]

/-- In every interleaving that takes no anchor back that is relied on, a live
device has the anchors that are relied on; and a next step keeps them exactly if it
takes none back either. -/
theorem anchors_held_iff {incarnation : UInt64} {system : LeaseSystem ι θ τ ν φ}
    (reached : ReachedBy leaseStep AnchorsKept (LeaseSystem.start incarnation) system)
    (alive : system.pdevRefs ≠ 0) :
    system.Anchored ∧
      ∀ action next, leaseStep system action = some next → next.pdevRefs ≠ 0 →
        (next.Anchored ↔ AnchorsKept system action) := by
  refine ⟨.of_reached reached alive, fun action next stepped aliveNow => ?_⟩
  exact LeaseSystem.Anchored.step_iff (LeaseSystem.Anchored.of_reached reached)
    (leaseInvariant_of_reached reached.reached) stepped aliveNow

theorem anchors_held_controlRun :
    ∃ system, runAllowed leaseStep AnchorsKept (LeaseSystem.start 7) controlRun =
        some system ∧
      system.DomainReliedOn ∧ system.Anchored := by
  have run : runAllowed leaseStep AnchorsKept (LeaseSystem.start 7) controlRun = some _ := rfl
  exact ⟨_, run, .inl rfl, (anchors_held_iff (reachedBy_of_runAllowed run) (by decide)).1⟩

/-- An initializer has set the state anchor and is about to anchor the slot domain;
both replies are still to be copied, and another thread activates the coordinator. -/
def hastyRun : List (LeaseAction Party Party Party Party Party) :=
  [.openGet 0, .openFinish 0 0 .ioctl true,
    .user (.openAt 0 anchorInode true true), .user (.openAt 1 domainInode true true),
    .acquire 0 0 true (fun _ => some 0)
      ⟨leaseAbiMagic, 7, 0, (1, 1), 3, .coordinatorInitializer, 1, 128, 0⟩,
    .anchor 1 0 true (fun _ => some 1) (.ok (2, domainInode))
      ⟨leaseAbiMagic, 7, 1, 4, 1, 64, 0, 0, 0, 0⟩]

/-- A faulting acquire leaves a slot domain without a state anchor, and a faulting
anchor leaves a ready coordinator without a slot domain. -/
theorem fault_pulls_anchors :
    (∃ system, runActions leaseStep (LeaseSystem.start 7) (hastyRun ++ [.replyFaulted 0]) =
        some system ∧ ¬ system.Anchored) ∧
    (∃ system, runActions leaseStep (LeaseSystem.start 7)
          (hastyRun ++
            [.transition 2 0 true ⟨leaseAbiMagic, 7, 1, .activateCoordinator, 1, 96, 0, 0⟩,
              .replyFaulted 1]) =
        some system ∧ ¬ system.Anchored) := by
  constructor
  · have run : runActions leaseStep (LeaseSystem.start 7) (hastyRun ++ [.replyFaulted 0]) =
        some _ := rfl
    refine ⟨_, run, fun anchored => ?_⟩
    have state := (anchored.state rfl).1
    exact absurd state (by decide)
  · have run : runActions leaseStep (LeaseSystem.start 7)
          (hastyRun ++
            [.transition 2 0 true ⟨leaseAbiMagic, 7, 1, .activateCoordinator, 1, 96, 0, 0⟩,
              .replyFaulted 1]) = some _ := rfl
    refine ⟨_, run, fun anchored => ?_⟩
    have domain := anchored.domain (.inl rfl)
    exact absurd domain (by decide)

end Runs

end MxDriver
