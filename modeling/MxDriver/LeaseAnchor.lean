import MxDriver.LeaseStateView

/-!
# A device without a state anchor has no holder

The state anchor is set by the first publisher and retracted only by the undo of
that acquire, when nobody holds a profile.  While the device is alive, the
fields of an anchor that is not there are those of a device that never had one.
-/

namespace MxDriver

variable {ι θ τ ν φ : Type*}

/-- Without a state anchor there is no holder and no trace of an older anchor. -/
def DeviceLease.AnchorOk (device : DeviceLease) : Prop :=
  device.statePathValid = false →
    device.stateInode = none ∧ device.stateIdentity = (0, 0) ∧
      device.stateFamily = .none ∧ device.generation = 0 ∧
      device.state.familyHolders = 0

theorem DeviceLease.AnchorOk.valid {device : DeviceLease}
    (valid : device.statePathValid = true) : device.AnchorOk := by
  intro bare
  simp [valid] at bare

theorem DeviceLease.AnchorOk.release {device next : DeviceLease} (ok : device.AnchorOk)
    (anchor : next.statePathValid = device.statePathValid ∧
      next.stateInode = device.stateInode ∧ next.stateIdentity = device.stateIdentity ∧
      next.stateFamily = device.stateFamily ∧ next.generation = device.generation)
    (fewer : next.state.familyHolders ≤ device.state.familyHolders) : next.AnchorOk := by
  obtain ⟨valid, inode, identity, family, generation⟩ := anchor
  intro bare
  rw [valid] at bare
  rw [inode, identity, family, generation]
  obtain ⟨noInode, noIdentity, noFamily, noGeneration, noHolder⟩ := ok bare
  exact ⟨noInode, noIdentity, noFamily, noGeneration, by omega⟩

theorem mxLeaseSmRelease_familyHolders_le (sm : LeaseSm) (holder : LeaseSmHolder) :
    (mxLeaseSmRelease sm holder).1.familyHolders ≤ sm.familyHolders := by
  unfold mxLeaseSmRelease
  split
  · exact le_rfl
  split
  · exact le_rfl
  · exact Nat.sub_le ..

theorem undoAcquireSm_familyHolders_le (sm : LeaseSm) (holder newHolder : LeaseSmHolder) :
    (undoAcquireSm sm holder newHolder).1.familyHolders ≤ sm.familyHolders := by
  unfold undoAcquireSm
  split
  · exact mxLeaseSmRelease_familyHolders_le ..
  · exact le_rfl

theorem DeviceLease.AnchorOk.undoAcquire {device : DeviceLease} (ok : device.AnchorOk)
    (holder : LeaseSmHolder) (undo : AcquireUndo) :
    (mxLeaseAcquireUndo device holder undo).1.AnchorOk := by
  unfold mxLeaseAcquireUndo
  dsimp only
  split
  · rename_i retracts
    have idle := retracts.2.2.2.2
    simp only [mxLeaseSmIdle, Bool.and_eq_true, beq_iff_eq] at idle
    exact fun _ => ⟨rfl, rfl, rfl, rfl, idle.1.1.1⟩
  · exact ok.release ⟨rfl, rfl, rfl, rfl, rfl⟩ (undoAcquireSm_familyHolders_le ..)

theorem AcquireLockedEffect.anchorOk {device : DeviceLease} {holder : LeaseSmHolder}
    {stateInode : Inode} {request : AcquireRequest} {outcome : AcquireOutcome}
    (effect : AcquireLockedEffect device holder stateInode request outcome)
    (ok : device.AnchorOk) : outcome.device.AnchorOk := by
  cases effect with
  | refused error => exact ok
  | acquired anchor granted =>
    rename_i freshAnchor sm newHolder
    have valid := (mxLeaseAcquireAnchor_ok anchor).2.1
    cases freshAnchor with
    | true => exact .valid rfl
    | false => exact .valid valid

theorem TransitionEffect.familyHolders {sm : LeaseSm} {holder : LeaseSmHolder}
    {activeDirect activeTransfers barMappings : Nat} {slotDomainAnchored : Bool}
    {outcome : SmOutcome}
    (effect : TransitionEffect sm holder activeDirect activeTransfers barMappings
      slotDomainAnchored outcome) : outcome.sm.familyHolders = sm.familyHolders := by
  cases effect with
  | refused error => rfl
  | moved publisher notLegacy move guards => exact move.frame.2.1

theorem AuthorizeEffect.familyHolders {sm : LeaseSm} {holder : LeaseSmHolder}
    {outcome : SmOutcome} (effect : AuthorizeEffect sm holder outcome) :
    outcome.sm.familyHolders = sm.familyHolders := by
  cases effect <;> rfl

section Steps

variable [DecidableEq ι] [DecidableEq θ] [DecidableEq φ]
variable {system next : LeaseSystem ι θ τ ν φ} {action : LeaseAction ι θ τ ν φ}

theorem ReplyEffect.anchorOk {thread : θ} {copied : Bool}
    (effect : ReplyEffect system thread copied next) (ok : system.device.AnchorOk)
    (sound : ∀ ctx undo, (system.thread thread).call = .transitioning ctx undo →
      undo.oldState.familyHolders = undo.newState.familyHolders) : next.device.AnchorOk := by
  cases effect with
  | acquired | transitioned | anchored | bound | unbound | undoBind | undoKept
  | undoUnbind => exact ok
  | undoAcquire standing found => exact ok.undoAcquire _ _
  | undoTransition standing found =>
    rename_i ctx undo record
    refine ok.release ⟨rfl, rfl, rfl, rfl, rfl⟩ ?_
    have same := sound ctx undo (by rw [standing])
    simp only [LeaseSystem.publish, mxLeaseTransitionUndo]
    split
    · rename_i unchanged
      rw [unchanged.1, same]
    · exact le_rfl
  | undoAnchor standing found =>
    refine ok.release ?_ (by simp [LeaseSystem.publish, mxLeaseAnchorSlotDomainUndo_state])
    simp only [LeaseSystem.publish, mxLeaseAnchorSlotDomainUndo]
    split <;> simp

theorem CallEffect.anchorOk (effect : CallEffect system action next) (ok : system.device.AnchorOk)
    (sound : ∀ thread ctx undo, (system.thread thread).call = .transitioning ctx undo →
      undo.oldState.familyHolders = undo.newState.familyHolders) : next.device.AnchorOk := by
  cases effect with
  | refused | bind | bindLocked | unbind => exact ok
  | copied effect | faulted effect => exact effect.anchorOk ok (sound _)
  | acquire enters checked effect => exact effect.anchorOk ok
  | transition enters checked =>
    rename_i request record
    have same := (mxLeaseTransitionLocked_effect system.device record request).familyHolders
    exact ok.release ⟨rfl, rfl, rfl, rfl, rfl⟩ same.le
  | anchor enters checked effect =>
    cases effect with
    | refused | kept => exact ok
    | anchored => exact ok.release ⟨rfl, rfl, rfl, rfl, rfl⟩ le_rfl

omit [DecidableEq φ] in
theorem DirectBeginEffect.anchorOk {device : DeviceLease} {record : FileCtx φ}
    {begun : Ret × DeviceLease × FileCtx φ} (effect : DirectBeginEffect device record begun)
    (ok : device.AnchorOk) : begun.2.1.AnchorOk := by
  cases effect with
  | refused | retracted => exact ok
  | admitted room effect anchored proofs =>
    exact ok.release ⟨rfl, rfl, rfl, rfl, rfl⟩ effect.familyHolders.le

variable [DecidableEq ν] [DecidableEq τ]

theorem LifeEffect.anchorOk (effect : LifeEffect system action next)
    (ok : system.pdevRefs ≠ 0 → system.device.AnchorOk)
    (alive : ∀ ctx record, system.ctx ctx = some record → system.pdevRefs ≠ 0)
    (aliveNow : next.pdevRefs ≠ 0) : next.device.AnchorOk := by
  cases effect with
  | openGet idle open_ => exact ok open_
  | mmapCommit standing free found => exact ok (alive _ _ found)
  | directBegin enters effect begins => exact effect.anchorOk (ok aliveNow)
  | remove => exact (ok aliveNow).release ⟨rfl, rfl, rfl, rfl, rfl⟩ le_rfl
  | put standing effect =>
    cases effect with
    | file | ctxKept | uncharged | dangling => exact ok aliveNow
    | pdevKept shared =>
      refine ok fun dead => aliveNow ?_
      simp [dead]
    | pdevFreed last => exact (aliveNow rfl).elim
    | ctxFreed found last =>
      exact (ok aliveNow).release ⟨rfl, rfl, rfl, rfl, rfl⟩
        (mxLeaseSmRelease_familyHolders_le ..)
  | _ => exact ok aliveNow

variable [Fintype ι] [Fintype θ] [Fintype τ] [Fintype ν]

omit [DecidableEq θ] [DecidableEq ν] [DecidableEq τ] in
theorem LeaseSystem.Balanced.alive (balanced : system.Balanced) {ctx : ι}
    {record : FileCtx φ} (found : system.ctx ctx = some record) : system.pdevRefs ≠ 0 := by
  have held : (.pdev : Ref ι φ) ∈ ctxHeld (system.ctx ctx) := by simp [found, ctxHeld]
  have positive := balanced.held_by_ctx held
  exact Nat.pos_iff_ne_zero.mp positive

omit [DecidableEq θ] [DecidableEq ν] [DecidableEq τ] in
/-- A transition in flight kept the holders it counted. -/
theorem LeaseInvariant.transition_familyHolders (invariant : LeaseInvariant system)
    (thread : θ) (ctx : ι) (undo : TransitionUndo)
    (standing : (system.thread thread).call = .transitioning ctx undo) :
    undo.oldState.familyHolders = undo.newState.familyHolders := by
  have kept : system.smView.call thread = some (.transition ctx undo) := by
    simp [LeaseSystem.smView, standing, LeaseCall.undoRecord]
  exact (invariant.smInvariant.sound thread _ kept).1.frame.2.1.symm

/-- In every interleaving, a live device without a state anchor has no holder. -/
theorem anchorOk_of_reached {incarnation : UInt64}
    (reached : Reached leaseStep (LeaseSystem.start incarnation) system)
    (alive : system.pdevRefs ≠ 0) : system.device.AnchorOk := by
  induction reached with
  | refl => exact fun _ => ⟨rfl, rfl, rfl, rfl, rfl⟩
  | tail before _ stepped ih =>
    have invariant := leaseInvariant_of_reached before
    cases leaseStep_effect stepped with
    | call effect =>
      exact effect.anchorOk (ih (effect.pdevRefs ▸ alive))
        invariant.transition_familyHolders
    | life effect =>
      exact effect.anchorOk ih (fun _ _ => invariant.balanced.alive) alive

end Steps

end MxDriver
