import MxDriver.LeaseAcquireCall
import MxDriver.LeaseTransferProofs

/-!
# What relies on the anchors

The slot domain is anchored under a state anchor of the hub or the coordinator,
and a ready coordinator or a hub publisher with workloads relies on the slot
domain.  The sections that set anchors check this.  The sections that take an
anchor back after a fault compare only what their own call installed, so they can
pull an anchor from under a call that has succeeded in the meantime.
-/

namespace MxDriver

variable {ι θ τ ν φ : Type*}

/-- `state_path_valid && state_inode`. -/
def DeviceLease.stateAnchored (device : DeviceLease) : Bool :=
  device.statePathValid && device.stateInode.isSome

/-- `slot_domain_path_valid && slot_domain_inode`. -/
def DeviceLease.slotDomainAnchored (device : DeviceLease) : Bool :=
  device.slotDomainPathValid && device.slotDomainInode.isSome

/-- A hub publisher in its workload phase. -/
def LeaseSmHolder.HubActive (holder : LeaseSmHolder) : Prop :=
  holder.profile = .hubPublisher ∧ holder.phase = .workload

instance (holder : LeaseSmHolder) : Decidable holder.HubActive :=
  inferInstanceAs (Decidable (_ ∧ _))

namespace LeaseSystem

/-- Somebody relies on the slot domain. -/
def DomainReliedOn (system : LeaseSystem ι θ τ ν φ) : Prop :=
  system.device.state.coordinatorReady = true ∨
    ∃ ctx record, system.ctx ctx = some record ∧ record.lease.HubActive

instance [Fintype ι] (system : LeaseSystem ι θ τ ν φ) : Decidable system.DomainReliedOn :=
  haveI : Decidable (∃ ctx record, system.ctx ctx = some record ∧ record.lease.HubActive) :=
    decidable_of_iff
      (∃ ctx, (system.ctx ctx).any (fun record => decide record.lease.HubActive) = true)
      (by simp [Option.any_eq_true])
  inferInstanceAs (Decidable (_ ∨ _))

/-- The anchors that others rely on are in place. -/
structure Anchored (system : LeaseSystem ι θ τ ν φ) : Prop where
  state : system.device.slotDomainPathValid = true →
    system.device.stateAnchored = true ∧
      (system.device.stateFamily = .hub ∨ system.device.stateFamily = .coordinator)
  domain : system.DomainReliedOn → system.device.slotDomainAnchored = true

end LeaseSystem

/-- The undo of an acquire takes the state anchor back: it set the anchor that is
in place, and no profile is left but the one that it takes back. -/
def AcquireUndo.retracts (undo : AcquireUndo) (device : DeviceLease)
    (holder : LeaseSmHolder) : Bool :=
  undo.freshAnchor && device.statePathValid && device.generation == undo.newGeneration &&
    device.stateInode == some undo.stateInode &&
    decide (device.state.familyHolders ≤
      if holder = undo.newHolder ∧ holder.profile ≠ .none then 1 else 0)

/-- The reply that a thread fails to copy takes back an anchor that is relied on:
the state anchor under a slot domain, or a slot domain in use. -/
def LeaseSystem.undoesAnchor [Fintype ι] (system : LeaseSystem ι θ τ ν φ) (thread : θ) : Bool :=
  match (system.thread thread).call with
  | .acquiring ctx undo =>
    system.device.slotDomainPathValid &&
      (system.ctx ctx).any fun record => undo.retracts system.device record.lease
  | .anchoring _ freshAnchor domainInode _ =>
    freshAnchor && system.device.slotDomainPathValid &&
      system.device.slotDomainInode == some domainInode && decide system.DomainReliedOn
  | _ => false

/-- No anchor is taken back that is relied on. -/
def AnchorsKept [Fintype ι] (system : LeaseSystem ι θ τ ν φ) : LeaseAction ι θ τ ν φ → Prop
  | .replyFaulted thread => system.undoesAnchor thread = false
  | _ => True

instance [Fintype ι] (system : LeaseSystem ι θ τ ν φ) :
    (action : LeaseAction ι θ τ ν φ) → Decidable (AnchorsKept system action)
  | .replyFaulted thread => inferInstanceAs (Decidable (system.undoesAnchor thread = false))
  | .user _ | .openGet _ | .openFinish .. | .close .. | .acquire .. | .transition ..
  | .anchor .. | .bind .. | .bindLocked .. | .unbind .. | .replyCopied _ | .directBegin ..
  | .directEnd _ | .transferGet .. | .transferPut .. | .mmapCheck _ | .mmapCommit ..
  | .mmapFail _ | .vmaOpen _ | .vmaClose .. | .put _ | .remove | .detach _ => .isTrue trivial

/-! ## The state machine -/

theorem HolderOk.undoAcquireSm_familyHolders {sm : LeaseSm} {holder newHolder : LeaseSmHolder}
    (ok : HolderOk holder) :
    (undoAcquireSm sm holder newHolder).1.familyHolders =
      sm.familyHolders - if holder = newHolder ∧ holder.profile ≠ .none then 1 else 0 := by
  unfold undoAcquireSm
  by_cases same : holder = newHolder
  · rw [if_pos same]
    unfold mxLeaseSmRelease
    split
    · rename_i legacy
      simp [ok.legacy legacy]
    split
    · rename_i unprofiled
      simp [unprofiled]
    · rename_i profiled
      rw [if_pos ⟨same, profiled⟩]
      rfl
  · rw [if_neg same, if_neg fun both => same both.1]
    rfl

/-- When the undo of an acquire takes the state anchor back. -/
theorem HolderOk.mxLeaseAcquireUndo_device {device : DeviceLease} {holder : LeaseSmHolder}
    {undo : AcquireUndo} (ok : HolderOk holder)
    (idle : (undoAcquireSm device.state holder undo.newHolder).1.familyHolders = 0 →
      mxLeaseSmIdle (undoAcquireSm device.state holder undo.newHolder).1 = true) :
    (mxLeaseAcquireUndo device holder undo).1 =
      if undo.retracts device holder = true then
        ({ device with state := (undoAcquireSm device.state holder undo.newHolder).1 }
          : DeviceLease).dropState
      else { device with state := (undoAcquireSm device.state holder undo.newHolder).1 } := by
  have left : mxLeaseSmIdle (undoAcquireSm device.state holder undo.newHolder).1 = true ↔
      device.state.familyHolders ≤
        if holder = undo.newHolder ∧ holder.profile ≠ .none then 1 else 0 := by
    have counted : (undoAcquireSm device.state holder undo.newHolder).1.familyHolders = _ :=
      ok.undoAcquireSm_familyHolders
    constructor
    · intro isIdle
      simp only [mxLeaseSmIdle, Bool.and_eq_true, beq_iff_eq] at isIdle
      omega
    · intro few
      exact idle (by omega)
  unfold mxLeaseAcquireUndo AcquireUndo.retracts
  simp only [Bool.and_eq_true, beq_iff_eq, decide_eq_true_eq, ← left, and_assoc]
  split <;> rfl

theorem AcquireEffect.hubActive {sm newSm : LeaseSm} {holder newHolder : LeaseSmHolder}
    {profile : LeaseProfile} (effect : AcquireEffect sm holder profile ⟨none, newSm, newHolder⟩) :
    (newHolder.HubActive → holder.HubActive) ∧
      (newSm.coordinatorReady = true → sm.coordinatorReady = true) := by
  cases effect with
  | found profiled same => exact ⟨id, id⟩
  | granted phase known notLegacy noLegacy unprofiled family room phaseEq =>
    constructor
    · rintro ⟨hub, active⟩
      obtain rfl : profile = .hubPublisher := hub
      obtain rfl : phase = .workload := active
      simp only [mxLeaseSmAcquirePhase] at phaseEq
      split at phaseEq
      · cases phaseEq
      · split at phaseEq <;> cases phaseEq
    · intro ready
      simp only [mxLeaseSmAcquireCommit] at ready
      split at ready
      · cases ready
      · exact ready

/-- A transition makes the slot domain relied on only if it is anchored. -/
theorem TransitionEffect.relies {sm : LeaseSm} {holder : LeaseSmHolder}
    {activeDirect activeTransfers barMappings : Nat} {slotDomainAnchored : Bool}
    {outcome : SmOutcome}
    (effect : TransitionEffect sm holder activeDirect activeTransfers barMappings
      slotDomainAnchored outcome) :
    (outcome.sm.coordinatorReady = true →
      sm.coordinatorReady = true ∨ slotDomainAnchored = true) ∧
    (outcome.holder.HubActive → holder.HubActive ∨ slotDomainAnchored = true) := by
  cases effect with
  | refused error => exact ⟨.inl, .inl⟩
  | moved publisher notLegacy move guards =>
    cases move with
    | stay => exact ⟨.inl, .inl⟩
    | prepare initializer phase quiescent =>
      exact ⟨fun _ => .inr (guards.prepared rfl (by simp [phase])),
        fun active => by simp [LeaseSmHolder.HubActive] at active⟩
    | tryQuiescent notInitializer phase noWorkload notQuiescent =>
      exact ⟨.inl, fun active => by simp [LeaseSmHolder.HubActive] at active⟩
    | activateWorkload notInitializer phase room quiescent =>
      exact ⟨.inl, fun active => .inr (guards.activated active.1 rfl (by simp [phase]))⟩
    | activateReplacement hub phase room =>
      exact ⟨.inl, fun _ => .inr (guards.activated hub rfl (by simp [phase]))⟩

/-- What an undone transition goes back to relies on no more than what it leaves. -/
theorem PublisherMove.relies {sm newSm : LeaseSm} {holder newHolder : LeaseSmHolder}
    (move : PublisherMove sm holder newSm newHolder) :
    (sm.coordinatorReady = true → newSm.coordinatorReady = true) ∧
      (holder.HubActive → newHolder.HubActive) := by
  cases move with
  | stay => exact ⟨id, id⟩
  | prepare initializer phase quiescent =>
    exact ⟨fun _ => rfl, fun active => by simp [LeaseSmHolder.HubActive, phase] at active⟩
  | tryQuiescent notInitializer phase | activateWorkload notInitializer phase
  | activateReplacement hub phase =>
    exact ⟨id, fun active => by simp [LeaseSmHolder.HubActive, phase] at active⟩

theorem undoAcquireSm_relies (sm : LeaseSm) (holder newHolder : LeaseSmHolder) :
    (undoAcquireSm sm holder newHolder).1.coordinatorReady = sm.coordinatorReady ∧
      ((undoAcquireSm sm holder newHolder).2.HubActive → holder.HubActive) := by
  unfold undoAcquireSm mxLeaseSmRelease
  split
  · split
    · exact ⟨rfl, id⟩
    split
    · exact ⟨rfl, id⟩
    · exact ⟨rfl, fun active => by simp [LeaseSmHolder.HubActive] at active⟩
  · exact ⟨rfl, id⟩

theorem AuthorizeEffect.relies {sm : LeaseSm} {holder : LeaseSmHolder} {outcome : SmOutcome}
    (effect : AuthorizeEffect sm holder outcome) :
    outcome.sm.coordinatorReady = sm.coordinatorReady ∧
      (outcome.holder.HubActive → holder.HubActive) := by
  cases effect <;> exact ⟨rfl, id⟩

/-! ## Steps -/

/-- The device has the same anchors. -/
structure DeviceLease.AnchorsAgree (device next : DeviceLease) : Prop where
  domainValid : next.slotDomainPathValid = device.slotDomainPathValid
  domainInode : next.slotDomainInode = device.slotDomainInode
  stateValid : next.statePathValid = device.statePathValid
  stateInode : next.stateInode = device.stateInode
  stateFamily : next.stateFamily = device.stateFamily

theorem DeviceLease.AnchorsAgree.rfl {device : DeviceLease} : device.AnchorsAgree device :=
  ⟨Eq.refl _, Eq.refl _, Eq.refl _, Eq.refl _, Eq.refl _⟩

namespace LeaseSystem.Anchored

variable {system next : LeaseSystem ι θ τ ν φ}

theorem kept (anchored : system.Anchored) (agree : system.device.AnchorsAgree next.device)
    (relied : next.DomainReliedOn → system.DomainReliedOn) : next.Anchored where
  state := by
    rw [DeviceLease.stateAnchored, agree.domainValid, agree.stateValid, agree.stateInode,
      agree.stateFamily]
    exact anchored.state
  domain now := by
    rw [DeviceLease.slotDomainAnchored, agree.domainValid, agree.domainInode]
    exact anchored.domain (relied now)

variable [DecidableEq ι] {ctx : ι} {record newRecord : FileCtx φ}

theorem relied_replaced {property : Prop}
    (contexts : next.ctx = Function.update system.ctx ctx (some newRecord))
    (before : system.DomainReliedOn → property) (ready : next.device.state.coordinatorReady = true →
      system.device.state.coordinatorReady = true ∨ property)
    (active : newRecord.lease.HubActive → property) : next.DomainReliedOn → property := by
  rintro (nowReady | ⟨other, found, foundNow, activeNow⟩)
  · exact (ready nowReady).elim (fun ready => before (.inl ready)) id
  · rw [contexts] at foundNow
    by_cases same : other = ctx
    · subst other
      rw [Function.update_self] at foundNow
      obtain rfl := Option.some.inj foundNow
      exact active activeNow
    · rw [Function.update_of_ne same] at foundNow
      exact before (.inr ⟨other, found, foundNow, activeNow⟩)

theorem replaced (anchored : system.Anchored)
    (contexts : next.ctx = Function.update system.ctx ctx (some newRecord))
    (found : system.ctx ctx = some record) (agree : system.device.AnchorsAgree next.device)
    (ready : next.device.state.coordinatorReady = true →
      system.device.state.coordinatorReady = true)
    (active : newRecord.lease.HubActive → record.lease.HubActive) : next.Anchored :=
  anchored.kept agree (relied_replaced contexts id (fun now => .inl (ready now))
    fun now => .inr ⟨ctx, record, found, active now⟩)

end LeaseSystem.Anchored

end MxDriver
