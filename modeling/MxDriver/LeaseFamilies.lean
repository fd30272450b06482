import MxDriver.LeaseAnchor

/-!
# One family behind a state anchor

The family of a device is recorded twice: the state machine forgets it with its
last holder, and the state anchor remembers it.  While the anchor is there the
two agree or the state machine has none, and no legacy holder exists.
-/

namespace MxDriver

variable {ι θ τ ν φ : Type*}

/-- Behind a state anchor there is no legacy holder, and the live holders are of
the anchor's family. -/
def DeviceLease.FamilyOk (device : DeviceLease) : Prop :=
  device.statePathValid = true → device.state.legacyHolders = 0 ∧
    (device.state.family = .none ∨ device.state.family = device.stateFamily)

/-- What a step does to the two records of the family. -/
structure DeviceLease.KeepsFamily (device next : DeviceLease) : Prop where
  ok : device.FamilyOk → next.FamilyOk
  family : device.statePathValid = true → next.statePathValid = true →
    next.stateFamily = device.stateFamily

/-- Nobody came: there are no more legacy holders, and no new family. -/
structure LeaseSm.Shrinks (sm next : LeaseSm) : Prop where
  legacyHolders : next.legacyHolders ≤ sm.legacyHolders
  family : next.family = sm.family ∨ next.family = .none

theorem LeaseSm.Shrinks.of_eq {sm next : LeaseSm}
    (legacyHolders : next.legacyHolders = sm.legacyHolders)
    (family : next.family = sm.family) : sm.Shrinks next :=
  ⟨legacyHolders.le, .inl family⟩

theorem LeaseSm.Shrinks.refl (sm : LeaseSm) : sm.Shrinks sm :=
  .of_eq rfl rfl

theorem mxLeaseSmRelease_shrinks (sm : LeaseSm) (holder : LeaseSmHolder) :
    sm.Shrinks (mxLeaseSmRelease sm holder).1 := by
  unfold mxLeaseSmRelease
  split
  · exact ⟨Nat.sub_le .., .inl rfl⟩
  split
  · exact .refl sm
  · refine ⟨le_rfl, ?_⟩
    simp only [mxLeaseSmReleaseCommit]
    split
    · exact .inr rfl
    · exact .inl rfl

theorem undoAcquireSm_shrinks (sm : LeaseSm) (holder newHolder : LeaseSmHolder) :
    sm.Shrinks (undoAcquireSm sm holder newHolder).1 := by
  unfold undoAcquireSm
  split
  · exact mxLeaseSmRelease_shrinks ..
  · exact .refl sm

theorem TransitionEffect.shrinks {sm : LeaseSm} {holder : LeaseSmHolder}
    {activeDirect activeTransfers barMappings : Nat} {slotDomainAnchored : Bool}
    {outcome : SmOutcome}
    (effect : TransitionEffect sm holder activeDirect activeTransfers barMappings
      slotDomainAnchored outcome) : sm.Shrinks outcome.sm := by
  cases effect with
  | refused error => exact .refl sm
  | moved publisher notLegacy move guards =>
    obtain ⟨family, -, -, legacyHolders⟩ := move.frame
    exact .of_eq legacyHolders family

namespace DeviceLease.KeepsFamily

variable {device next : DeviceLease}

theorem shrink (valid : next.statePathValid = device.statePathValid)
    (family : next.stateFamily = device.stateFamily)
    (shrinks : device.state.Shrinks next.state) : device.KeepsFamily next where
  ok := by
    intro ok anchored
    obtain ⟨noLegacy, agrees⟩ := ok (valid ▸ anchored)
    refine ⟨Nat.le_zero.mp (noLegacy ▸ shrinks.legacyHolders), ?_⟩
    rcases shrinks.family with same | gone
    · rwa [same, family]
    · exact .inl gone
  family := fun _ _ => family

theorem refl (device : DeviceLease) : device.KeepsFamily device :=
  shrink rfl rfl (.refl _)

theorem bare (gone : next.statePathValid = false) : device.KeepsFamily next where
  ok := by
    intro _ anchored
    simp [gone] at anchored
  family := by
    intro _ anchored
    simp [gone] at anchored

theorem undoAcquire (device : DeviceLease) (holder : LeaseSmHolder) (undo : AcquireUndo) :
    device.KeepsFamily (mxLeaseAcquireUndo device holder undo).1 := by
  unfold mxLeaseAcquireUndo
  dsimp only
  split
  · exact bare rfl
  · exact shrink rfl rfl (undoAcquireSm_shrinks ..)

end DeviceLease.KeepsFamily

open DeviceLease

theorem AcquireEffect.profile {sm newSm : LeaseSm} {holder newHolder : LeaseSmHolder}
    {profile : LeaseProfile} (effect : AcquireEffect sm holder profile ⟨none, newSm, newHolder⟩) :
    newHolder.profile = profile ∧ profile ≠ .none := by
  cases effect with
  | found profiled same => exact ⟨same, profiled⟩
  | granted phase known =>
    exact ⟨rfl, ((mxLeaseProfileFamily_ne_none_iff profile).mp known).1⟩

/-- A context that holds nothing is not admitted behind a state anchor. -/
theorem mxLeaseDirectBegin_unprofiled {device : DeviceLease} {record : FileCtx φ}
    (anchored : device.statePathValid = true) (unprofiled : record.lease.profile = .none)
    (notLegacy : record.lease.legacy = false) : (mxLeaseDirectBegin device record).1 ≠ none := by
  have effect := mxLeaseDirectBegin_effect device record
  generalize mxLeaseDirectBegin device record = begun at effect
  cases effect with
  | refused | retracted => simp
  | admitted room effect kept proofs =>
    obtain ⟨-, holder⟩ := kept anchored
    cases effect with
    | admitted entitled => simp [unprofiled, notLegacy] at entitled
    | enlisted =>
      rw [← holder] at notLegacy
      cases notLegacy

section Steps

variable [DecidableEq ι] [DecidableEq θ] [DecidableEq φ] [Fintype ι]
variable {system next : LeaseSystem ι θ τ ν φ} {action : LeaseAction ι θ τ ν φ}

omit [DecidableEq ι] in
/-- A newcomer is of the family of the anchor it sets or finds, and what the
counters say about it afterwards is enough for everybody else. -/
theorem AcquireLockedEffect.keepsFamily {device : DeviceLease} {oldHolder : LeaseSmHolder}
    {stateInode : Inode} {request : AcquireRequest} {outcome : AcquireOutcome}
    {holder : ι → LeaseSmHolder}
    (effect : AcquireLockedEffect device oldHolder stateInode request outcome)
    (counters : CountersExact outcome.device.state holder) (ctx : ι)
    (newcomer : holder ctx = outcome.holder) : device.KeepsFamily outcome.device := by
  cases effect with
  | refused error => exact .refl device
  | acquired anchor granted =>
    rename_i freshAnchor sm newHolder
    obtain ⟨-, valid, -, named⟩ := mxLeaseAcquireAnchor_ok anchor
    have effect := mxLeaseSmAcquire_effect device.state oldHolder request.profile
    rw [granted] at effect
    obtain ⟨profile, profiled⟩ := effect.profile
    have holds : (holder ctx).Profiled := by
      rw [LeaseSmHolder.Profiled, newcomer, profile]
      exact profiled
    have noLegacy := counters.noLegacy_of_profiled holds
    have family := counters.familyOf ctx holds
    rw [newcomer, profile] at family
    cases freshAnchor with
    | true =>
      refine ⟨fun _ _ => ⟨noLegacy, .inr family.symm⟩, fun anchored => ?_⟩
      simp [valid] at anchored
    | false =>
      refine ⟨fun _ _ => ⟨noLegacy, .inr ?_⟩, fun _ _ => rfl⟩
      exact family.symm.trans (named rfl).1.symm

omit [Fintype ι] in
theorem ReplyEffect.keepsFamily {thread : θ} {copied : Bool}
    (effect : ReplyEffect system thread copied next)
    (sound : ∀ undo, system.smView.call thread = some undo → undo.Sound) :
    system.device.KeepsFamily next.device := by
  cases effect with
  | acquired | transitioned | anchored | bound | unbound | undoBind | undoKept
  | undoUnbind => exact .refl _
  | undoAcquire standing found => exact .undoAcquire ..
  | undoTransition standing found =>
    refine .shrink rfl rfl ?_
    simp only [LeaseSystem.publish, mxLeaseTransitionUndo]
    split
    · rename_i ctx undo record unchanged
      obtain ⟨move, -⟩ := sound (.transition ctx undo) (LeaseSystem.smView_call standing)
      obtain ⟨family, -, -, legacyHolders⟩ := move.frame
      rw [unchanged.1]
      exact .of_eq legacyHolders.symm family.symm
    · exact .refl _
  | undoAnchor standing found =>
    simp only [LeaseSystem.publish, mxLeaseAnchorSlotDomainUndo]
    split
    · exact .shrink rfl rfl (.refl _)
    · exact .refl _

theorem CallEffect.keepsFamily (effect : CallEffect system action next)
    (sound : ∀ thread undo, system.smView.call thread = some undo → undo.Sound)
    (counters : CountersExact next.device.state next.smView.holder) :
    system.device.KeepsFamily next.device := by
  cases effect with
  | refused | bind | bindLocked | unbind => exact .refl _
  | copied effect | faulted effect => exact effect.keepsFamily (sound _)
  | acquire enters checked effect =>
    rename_i thread ctx capable fds request record file outcome
    refine effect.keepsFamily counters ctx ?_
    simp [LeaseSystem.smView, LeaseSystem.publish, holderOf]
  | transition enters checked =>
    exact .shrink rfl rfl (mxLeaseTransitionLocked_effect ..).shrinks
  | anchor enters checked effect =>
    cases effect with
    | refused | kept => exact .refl _
    | anchored => exact .shrink rfl rfl (.refl _)

omit [DecidableEq ι] [DecidableEq φ] [Fintype ι] in
theorem DirectBeginEffect.keepsFamily {device : DeviceLease} {record : FileCtx φ}
    {begun : Ret × DeviceLease × FileCtx φ} (effect : DirectBeginEffect device record begun) :
    device.KeepsFamily begun.2.1 := by
  cases effect with
  | refused | retracted => exact .refl _
  | admitted room effect anchored proofs =>
    -- behind an anchor the admission changes nothing, without one nothing is asked
    by_cases valid : device.statePathValid = true
    · obtain ⟨rfl, -⟩ := anchored valid
      exact .refl _
    · exact .bare (by simpa using valid)

variable [DecidableEq τ] [DecidableEq ν]

omit [Fintype ι] in
theorem LifeEffect.keepsFamily (effect : LifeEffect system action next) :
    system.device.KeepsFamily next.device := by
  cases effect with
  | directBegin enters effect begins => exact effect.keepsFamily
  | remove => exact .shrink rfl rfl (.refl _)
  | put standing effect =>
    cases effect with
    | file | ctxKept | pdevKept | uncharged | dangling => exact .refl _
    | ctxFreed found last => exact .shrink rfl rfl (mxLeaseSmRelease_shrinks ..)
    | pdevFreed last => exact .bare rfl
  | _ => exact .refl _

variable [Fintype θ] [Fintype τ] [Fintype ν]

theorem LeaseInvariant.keepsFamily (invariant : LeaseInvariant system)
    (stepped : leaseStep system action = some next) : system.device.KeepsFamily next.device := by
  cases leaseStep_effect stepped with
  | call effect =>
    exact effect.keepsFamily invariant.smInvariant.sound
      (invariant.step stepped).smInvariant.counters
  | life effect => exact effect.keepsFamily

theorem familyOk_of_reached {incarnation : UInt64}
    (reached : Reached leaseStep (LeaseSystem.start incarnation) system) :
    system.device.FamilyOk := by
  induction reached with
  | refl => exact fun anchored => by simp [LeaseSystem.start] at anchored
  | tail before _ stepped ih =>
    exact ((leaseInvariant_of_reached before).keepsFamily stepped).ok ih

/-- In every interleaving: without a state anchor no context holds a profile;
behind one there is no legacy holder, every profile is of the anchor's family,
which the anchor keeps for as long as it stands, and an unprofiled context is not
admitted to a direct operation.  So profiles of two families, and a profile and a
legacy context, never meet. -/
theorem families_exclusive {incarnation : UInt64}
    (reached : Reached leaseStep (LeaseSystem.start incarnation) system) :
    (system.device.statePathValid = false →
        ∀ ctx record, system.ctx ctx = some record → record.lease.profile = .none) ∧
      (system.device.statePathValid = true →
        system.device.state.legacyHolders = 0 ∧
        (system.device.state.family = .none ∨
          system.device.state.family = system.device.stateFamily) ∧
        (∀ ctx record, system.ctx ctx = some record →
          record.lease.legacy = false ∧
          (record.lease.profile ≠ .none →
            mxLeaseProfileFamily record.lease.profile = system.device.stateFamily) ∧
          (record.lease.profile = .none →
            (mxLeaseDirectBegin system.device record).1 ≠ none)) ∧
        ∀ action next, leaseStep system action = some next →
          next.device.statePathValid = true →
          next.device.stateFamily = system.device.stateFamily) ∧
      ∀ ctx record other otherRecord,
        system.ctx ctx = some record → system.ctx other = some otherRecord →
        record.lease.profile ≠ .none →
        otherRecord.lease.legacy = false ∧
          (otherRecord.lease.profile ≠ .none →
            mxLeaseProfileFamily otherRecord.lease.profile =
              mxLeaseProfileFamily record.lease.profile) := by
  have invariant := leaseInvariant_of_reached reached
  have counters := invariant.smInvariant.counters
  have notLegacy : system.device.state.legacyHolders = 0 →
      ∀ ctx record, system.ctx ctx = some record → record.lease.legacy = false := by
    intro noLegacy ctx record found
    rw [← LeaseSystem.smView_sm, counters.legacyHolders, tally_eq_zero_iff] at noLegacy
    have absent := noLegacy ctx
    rw [LeaseSystem.smView_holder found] at absent
    exact Bool.not_eq_true _ ▸ absent
  have familyOf : ∀ ctx record, system.ctx ctx = some record →
      record.lease.profile ≠ .none →
      mxLeaseProfileFamily record.lease.profile = system.device.state.family := by
    intro ctx record found profiled
    rw [← LeaseSystem.smView_holder found] at profiled ⊢
    exact counters.familyOf ctx profiled
  refine ⟨?_, ?_, ?_⟩
  · intro bare ctx record found
    have anchor := anchorOk_of_reached reached (invariant.balanced.alive found)
    have noHolder := (anchor bare).2.2.2.2
    rw [← LeaseSystem.smView_sm, counters.familyHolders, tally_eq_zero_iff] at noHolder
    have unprofiled := noHolder ctx
    rw [LeaseSystem.smView_holder found] at unprofiled
    exact not_not.mp unprofiled
  · intro anchored
    obtain ⟨noLegacy, agrees⟩ := familyOk_of_reached reached anchored
    refine ⟨noLegacy, agrees, ?_, ?_⟩
    · intro ctx record found
      have plain := notLegacy noLegacy ctx record found
      refine ⟨plain, fun profiled => ?_, fun unprofiled => ?_⟩
      · have family := familyOf ctx record found profiled
        have known := family_ne_none_of_allowed
          (LeaseSystem.smView_holder found ▸ counters.holderOk ctx).phase profiled
        rcases agrees with none | same
        · exact (known (family.trans none)).elim
        · exact family.trans same
      · exact mxLeaseDirectBegin_unprofiled anchored unprofiled plain
    · exact fun action next stepped => (invariant.keepsFamily stepped).family anchored
  · intro ctx record other otherRecord found otherFound profiled
    have holds := profiled
    rw [← LeaseSystem.smView_holder found] at holds
    refine ⟨notLegacy (counters.noLegacy_of_profiled holds) other otherRecord otherFound, ?_⟩
    intro otherProfiled
    rw [familyOf ctx record found profiled, familyOf other otherRecord otherFound otherProfiled]

/-- A hub publisher sets the state anchor and is closed; another context stays. -/
def departedRun : List (LeaseAction Party Party Party Party Party) :=
  [.openGet 0, .openFinish 0 0 .ioctl true, .openGet 0, .openFinish 0 1 .ioctl true,
    .user (.openAt 0 ⟨9, .regular, .tmpfs, 1, 2⟩ true true),
    .acquire 0 0 true (fun _ => some 0)
      ⟨leaseAbiMagic, 7, 0, (1, 1), 3, .hubPublisher, 1, 128, 0⟩,
    .replyCopied 0, .close 0 0, .put 0, .put 0]

theorem families_exclusive_departedRun :
    ∃ system record, runActions leaseStep (LeaseSystem.start 7) departedRun = some system ∧
      system.device.statePathValid = true ∧ system.device.state.familyHolders = 0 ∧
      system.device.stateFamily = .hub ∧ system.ctx 1 = some record ∧
      (mxLeaseDirectBegin system.device record).1 ≠ none := by
  have run : runActions leaseStep (LeaseSystem.start 7) departedRun = some _ := rfl
  have anchored := (families_exclusive (reached_of_runActions run)).2.1 rfl
  exact ⟨_, _, run, rfl, rfl, rfl, rfl, (anchored.2.2.1 1 _ rfl).2.2 rfl⟩

end Steps

end MxDriver
