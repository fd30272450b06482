import MxDriver.LeaseAnchor
import MxDriver.LeaseQuiescence

/-!
# What a failed acquire leaves behind

`mx_lease_acquire` publishes before it copies its reply, and takes the lease
back when the copy faults.  Its undo releases whatever the context holds then.
That restores the state before the call unless the context held the profile
already, which the call only confirmed, or the call cleared
`coordinator_ready`, which the undo does not set again.
-/

namespace MxDriver

variable {ι θ τ ν φ : Type*}

/-- What `mx_lease_acquire` returns and leaves behind. -/
structure AcquireCall where
  ret : Ret
  device : DeviceLease
  holder : LeaseSmHolder
  reply : Option AcquireReply

/-- What `mx_lease_acquire` does after its locked section: it copies the reply, or
takes the lock again and undoes. -/
def mxLeaseAcquireReply (ctx : FileCtx φ) (stateInode : Inode) (outcome : AcquireOutcome)
    (copied : Bool) : AcquireCall :=
  if outcome.ret ≠ none then ⟨outcome.ret, outcome.device, outcome.holder, none⟩
  else if copied then
    ⟨none, outcome.device, outcome.holder,
      some (mxLeaseFillAcquireLocked outcome.device { ctx with lease := outcome.holder })⟩
  else
    let undone := mxLeaseAcquireUndo outcome.device outcome.holder
      ⟨outcome.holder, outcome.freshAnchor, outcome.device.generation, stateInode⟩
    ⟨some .efault, undone.1, undone.2, none⟩

/-- `mx_lease_acquire` with no other step in between.  The request is missing
when `copy_from_user` faulted; `copied` tells whether `copy_to_user` went
through. -/
def mxLeaseAcquire (device : DeviceLease) (ctx : FileCtx φ) (capable : Bool)
    (stateFile : Option OpenFile) (request : Option AcquireRequest) (copied : Bool) : AcquireCall :=
  match request with
  | none => ⟨some .efault, device, ctx.lease, none⟩
  | some request =>
    match mxLeaseAcquireCheck ctx.cdev capable stateFile request, stateFile with
    | some error, _ => ⟨some error, device, ctx.lease, none⟩
    | none, none => ⟨some .einval, device, ctx.lease, none⟩
    | none, some file =>
      mxLeaseAcquireReply ctx file.inode
        (mxLeaseAcquireLocked device ctx.lease file.inode request) copied

/-- Everything that `mx_lease_acquire` checks before it asks the state machine. -/
structure AcquireAdmissible (device : DeviceLease) (cdev : CharDev) (capable : Bool)
    (file : OpenFile) (request : AcquireRequest) : Prop where
  header : mxLeaseValidHeader request.abiMagic request.abiVersion request.structSize 128 =
    true
  reserved : request.reserved = 0
  profile : request.profile ≠ .none ∧ request.profile.aboveMax = false
  stateFd : 0 ≤ request.stateFd
  identity : request.stateIdentity ≠ (0, 0)
  node : mxLeaseProfileIsPublisher request.profile = true ∨
    request.profile = .coordinatorControl → cdev = .ioctl
  privileged : mxLeaseProfileIsPublisher request.profile = true → capable = true
  stateFile : mxLeaseValidStateFile (some file) = true
  live : device.removed = false
  incarnation : request.expectedDeviceIncarnation ≠ 0 ∧
    request.expectedDeviceIncarnation = device.deviceIncarnation
  anchor :
    device.statePathValid = false ∧ request.expectedLeaseGeneration = 0 ∧
      mxLeaseProfileIsPublisher request.profile = true ∨
    device.statePathValid = true ∧ request.expectedLeaseGeneration ≠ 0 ∧
      request.expectedLeaseGeneration = device.generation ∧
      device.stateInode = some file.inode ∧
      device.stateIdentity = request.stateIdentity ∧
      mxLeaseSmValidateAnchoredAcquire device.state device.stateFamily request.profile =
        none

theorem mxLeaseAcquireCheck_eq_none_iff {cdev : CharDev} {capable : Bool}
    {stateFile : Option OpenFile} {request : AcquireRequest} :
    mxLeaseAcquireCheck cdev capable stateFile request = none ↔
      (mxLeaseValidHeader request.abiMagic request.abiVersion request.structSize 128 =
          true ∧ request.reserved = 0 ∧ request.profile ≠ .none ∧
        request.profile.aboveMax = false ∧ 0 ≤ request.stateFd ∧
        request.stateIdentity ≠ (0, 0)) ∧
      (mxLeaseProfileIsPublisher request.profile = true ∨
        request.profile = .coordinatorControl → cdev = .ioctl) ∧
      (mxLeaseProfileIsPublisher request.profile = true → capable = true) ∧
      mxLeaseValidStateFile stateFile = true := by
  unfold mxLeaseAcquireCheck
  split
  · rename_i malformed
    simp only [reduceCtorEq, false_iff]
    rintro ⟨⟨header, reserved, profile, known, fd, identity⟩, -⟩
    have fd : ¬ request.stateFd < 0 := by omega
    simp [header, reserved, profile, known, fd, identity] at malformed
  rename_i wellFormed
  have wellFormed : mxLeaseValidHeader request.abiMagic request.abiVersion
      request.structSize 128 = true ∧ request.reserved = 0 ∧ request.profile ≠ .none ∧
      request.profile.aboveMax = false ∧ 0 ≤ request.stateFd ∧
      request.stateIdentity ≠ (0, 0) := by
    simpa [not_or] using wellFormed
  split
  · rename_i foreign
    simp only [reduceCtorEq, false_iff]
    exact fun ⟨_, node, _⟩ => foreign.2 (node foreign.1)
  rename_i node
  split
  · rename_i unprivileged
    simp only [reduceCtorEq, false_iff]
    rintro ⟨-, -, privileged, -⟩
    simp [privileged unprivileged.1] at unprivileged
  rename_i privileged
  split
  · rename_i invalid
    simp [invalid]
  rename_i valid
  simp only [true_iff]
  refine ⟨wellFormed, ?_, ?_, by simpa using valid⟩
  · intro restricted
    by_contra elsewhere
    exact node ⟨restricted, elsewhere⟩
  · intro publisher
    by_contra incapable
    exact privileged ⟨publisher, by simpa using incapable⟩

theorem mxLeaseAcquireAnchor_eq_ok_iff {device : DeviceLease} {stateInode : Inode}
    {request : AcquireRequest} {freshAnchor : Bool} :
    mxLeaseAcquireAnchor device stateInode request = .ok freshAnchor ↔
      device.removed = false ∧
      (request.expectedDeviceIncarnation ≠ 0 ∧
        request.expectedDeviceIncarnation = device.deviceIncarnation) ∧
      device.statePathValid = !freshAnchor ∧
      (freshAnchor = true → request.expectedLeaseGeneration = 0 ∧
        mxLeaseProfileIsPublisher request.profile = true) ∧
      (freshAnchor = false → request.expectedLeaseGeneration ≠ 0 ∧
        request.expectedLeaseGeneration = device.generation ∧
        device.stateInode = some stateInode ∧
        device.stateIdentity = request.stateIdentity ∧
        mxLeaseSmValidateAnchoredAcquire device.state device.stateFamily request.profile =
          none) := by
  unfold mxLeaseAcquireAnchor
  by_cases removed : device.removed = true
  · simp [removed]
  by_cases incarnation : request.expectedDeviceIncarnation ≠ 0 ∧
      request.expectedDeviceIncarnation = device.deviceIncarnation
  · obtain ⟨named, current⟩ := incarnation
    cases path : device.statePathValid with
    | false =>
      by_cases generation : request.expectedLeaseGeneration = 0 <;>
        by_cases publisher : mxLeaseProfileIsPublisher request.profile = true <;>
        cases freshAnchor <;>
        simp_all
    | true =>
      by_cases generation : request.expectedLeaseGeneration ≠ 0 ∧
          request.expectedLeaseGeneration = device.generation
      · obtain ⟨given, same⟩ := generation
        by_cases inode : device.stateInode = some stateInode <;>
          by_cases identity : device.stateIdentity = request.stateIdentity <;>
          cases valid : mxLeaseSmValidateAnchoredAcquire device.state device.stateFamily
            request.profile <;>
          cases freshAnchor <;>
          simp_all
      · have stale : request.expectedLeaseGeneration = 0 ∨
            request.expectedLeaseGeneration ≠ device.generation := by tauto
        cases freshAnchor <;> simp_all
  · have stale : request.expectedDeviceIncarnation = 0 ∨
        request.expectedDeviceIncarnation ≠ device.deviceIncarnation := by tauto
    simp only [removed, stale, incarnation]
    simp

theorem acquireAdmissible_iff {device : DeviceLease} {cdev : CharDev} {capable : Bool}
    {file : OpenFile} {request : AcquireRequest} :
    AcquireAdmissible device cdev capable file request ↔
      mxLeaseAcquireCheck cdev capable (some file) request = none ∧
        ∃ freshAnchor, mxLeaseAcquireAnchor device file.inode request = .ok freshAnchor := by
  simp only [mxLeaseAcquireCheck_eq_none_iff, mxLeaseAcquireAnchor_eq_ok_iff]
  constructor
  · rintro ⟨header, reserved, ⟨profile, known⟩, fd, identity, node, privileged, valid, live,
      incarnation, bare | anchored⟩
    · exact ⟨⟨⟨header, reserved, profile, known, fd, identity⟩, node, privileged, valid⟩,
        true, live, incarnation, bare.1, fun _ => bare.2, by simp⟩
    · exact ⟨⟨⟨header, reserved, profile, known, fd, identity⟩, node, privileged, valid⟩,
        false, live, incarnation, anchored.1, by simp, fun _ => anchored.2⟩
  · rintro ⟨⟨⟨header, reserved, profile, known, fd, identity⟩, node, privileged, valid⟩,
      freshAnchor, live, incarnation, path, bare, anchored⟩
    refine ⟨header, reserved, ⟨profile, known⟩, fd, identity, node, privileged, valid, live,
      incarnation, ?_⟩
    cases freshAnchor with
    | true => exact .inl ⟨path, bare rfl⟩
    | false => exact .inr ⟨path, anchored rfl⟩

/-- The undo of an acquire takes away more than the acquire gave. -/
def UndoRevokes (sm : LeaseSm) (holder : LeaseSmHolder) (profile : LeaseProfile) : Prop :=
  holder.profile = profile ∨
    profile = .coordinatorInitializer ∧ sm.coordinatorReady = true ∧
      holder.legacy = false ∧ holder.profile = .none ∧ sm.legacyHolders = 0 ∧
      (sm.family = .none ∨ sm.family = .coordinator) ∧ sm.familyHolders ≠ u32Max ∧
      sm.publishers = 0 ∧ sm.quiescent = false ∧ sm.workloads = 0

section Undo

variable [Fintype ι] {sm : LeaseSm} {holder : ι → LeaseSmHolder} {ctx : ι}

/-- Releasing a lease that was just granted restores everything but
`coordinator_ready`. -/
theorem CountersExact.release_grant (counters : CountersExact sm holder)
    {profile : LeaseProfile} {phase : LeasePhase} (known : mxLeaseProfileFamily profile ≠ .none)
    (notLegacy : (holder ctx).legacy = false) (unprofiled : (holder ctx).profile = .none)
    (room : sm.familyHolders ≠ u32Max) (phaseEq : mxLeaseSmAcquirePhase sm profile = .ok phase) :
    mxLeaseSmRelease (mxLeaseSmAcquireCommit sm profile phase)
        { holder ctx with profile := profile, phase := phase } =
      ({ sm with
          coordinatorReady :=
            if profile = .coordinatorInitializer then false else sm.coordinatorReady },
        holder ctx) := by
  obtain ⟨-, notQuiescent, noPublisher, -, workloadRoom, -, -⟩ :=
    mxLeaseSmAcquirePhase_spec phaseEq
  have profiled : profile ≠ .none := ((mxLeaseProfileFamily_ne_none_iff profile).mp known).1
  have noPhase := (counters.holderOk ctx).phase_of_unprofiled unprofiled
  have holders := incU32_of_ne_max counters.familyBound room
  have holderEq : holder ctx = {} := by
    cases holderEq : holder ctx
    simp_all
  have publishersMax : sm.publishers ≠ u32Max := by
    have atMostOne := counters.publishersLe
    unfold u32Max
    omega
  have publishers := incU32_of_ne_max (counters.publishersLe.trans (by decide)) publishersMax
  have workloads : phase = .workload → incU32 sm.workloads = sm.workloads + 1 := fun active =>
    incU32_of_ne_max (counters.workloads_le.trans counters.familyBound) (workloadRoom active)
  have family : (if sm.familyHolders = 0 then LeaseFamily.none else
      if sm.familyHolders = 0 then mxLeaseProfileFamily profile else sm.family) =
      sm.family := by
    split
    · rename_i noHolder
      exact (counters.familyNone noHolder).symm
    · rfl
  unfold mxLeaseSmRelease mxLeaseSmReleaseCommit mxLeaseSmAcquireCommit
  simp only [profiled, holders, publishers, Nat.add_sub_cancel, if_false,
    Bool.false_eq_true, family, holderEq, Prod.mk.injEq, and_true]
  congr 1
  · split <;> rfl
  · split
    · rename_i active
      simp [workloads active]
    · rfl
  · split
    · exact notQuiescent.symm
    · rfl

/-- A device without profiled holders is idle. -/
theorem CountersExact.idle (counters : CountersExact sm holder)
    (noHolder : sm.familyHolders = 0) : mxLeaseSmIdle sm = true := by
  have unprofiled : ∀ other, (holder other).profile = .none := by
    rw [counters.familyHolders, tally_eq_zero_iff] at noHolder
    exact fun other => by simpa using noHolder other
  have noPublisher : sm.publishers = 0 := by
    rw [counters.publishers, tally_eq_zero_iff]
    simp [unprofiled]
  have noPhase : ∀ other, (holder other).phase = .none := fun other =>
    (counters.holderOk other).phase_of_unprofiled (unprofiled other)
  have noWorkload : sm.workloads = 0 := by
    rw [counters.workloads, tally_eq_zero_iff]
    simp [noPhase]
  have notQuiescent : sm.quiescent = false := by
    by_contra quiescent
    obtain ⟨other, phase⟩ := counters.quiescent.mp (by simpa using quiescent)
    simp [noPhase] at phase
  simp [mxLeaseSmIdle, noHolder, noPublisher, noWorkload, notQuiescent]

theorem CountersExact.acquire_succeeds (counters : CountersExact sm holder)
    {profile : LeaseProfile} (known : mxLeaseProfileFamily profile ≠ .none)
    (revokes : UndoRevokes sm (holder ctx) profile) :
    (mxLeaseSmAcquire sm (holder ctx) profile).ret = none := by
  have profiled : profile ≠ .none := ((mxLeaseProfileFamily_ne_none_iff profile).mp known).1
  unfold mxLeaseSmAcquire
  rcases revokes with same | ⟨rfl, ready, notLegacy, unprofiled, noLegacy, family, room,
    noPublisher, notQuiescent, noWorkload⟩
  · have holds : (holder ctx).Profiled := by rwa [LeaseSmHolder.Profiled, same]
    have noLegacy := counters.noLegacy_of_profiled holds
    have notLegacy : (holder ctx).legacy = false := by
      by_contra legacy
      exact holds ((counters.holderOk ctx).legacy (by simpa using legacy))
    simp [known, notLegacy, noLegacy, same, profiled]
  · have fits : ¬ (sm.family ≠ .none ∧ sm.family ≠ .coordinator) := by tauto
    simp [mxLeaseProfileFamily, notLegacy, noLegacy, unprofiled, room,
      mxLeaseSmAcquirePhase, noPublisher, notQuiescent, noWorkload]
    rw [if_neg fits]

/-- Releasing what an acquire has left restores the state machine and the holder
exactly when it does not revoke. -/
theorem CountersExact.release_acquired_iff (counters : CountersExact sm holder)
    {profile : LeaseProfile} {newSm : LeaseSm} {newHolder : LeaseSmHolder}
    (acquired : mxLeaseSmAcquire sm (holder ctx) profile = ⟨none, newSm, newHolder⟩) :
    mxLeaseSmRelease newSm newHolder = (sm, holder ctx) ↔
      ¬ UndoRevokes sm (holder ctx) profile := by
  have effect := mxLeaseSmAcquire_effect sm (holder ctx) profile
  rw [acquired] at effect
  cases effect with
  | found profiled same =>
    have holds : (holder ctx).Profiled := by rwa [LeaseSmHolder.Profiled, same]
    have released := (counters.holderOk ctx).released sm
    constructor
    · intro kept
      rw [kept] at released
      exact (holds (congrArg LeaseSmHolder.profile released)).elim
    · exact fun keeps => (keeps (.inl same)).elim
  | granted phase known notLegacy noLegacy unprofiled family room phaseEq =>
    have profiled : profile ≠ .none :=
      ((mxLeaseProfileFamily_ne_none_iff profile).mp known).1
    obtain ⟨-, notQuiescent, noPublisher, -, -, noWorkload, -⟩ :=
      mxLeaseSmAcquirePhase_spec phaseEq
    rw [counters.release_grant known notLegacy unprofiled room phaseEq]
    by_cases initializer : profile = .coordinatorInitializer
    · subst profile
      have revokes : UndoRevokes sm (holder ctx) .coordinatorInitializer ↔
          sm.coordinatorReady = true :=
        ⟨fun revokes => revokes.elim (fun same => by simp [unprofiled] at same)
          fun initialized => initialized.2.1,
          fun ready => .inr ⟨rfl, ready, notLegacy, unprofiled, noLegacy, family, room,
            noPublisher rfl, notQuiescent, noWorkload rfl⟩⟩
      rw [revokes]
      cases ready : sm.coordinatorReady with
      | false => simp [← ready]
      | true =>
        simp only [if_true, not_true, iff_false]
        intro kept
        have cleared : false = sm.coordinatorReady :=
          congrArg (fun pair => pair.1.coordinatorReady) kept
        simp [ready] at cleared
    · have keeps : ¬ UndoRevokes sm (holder ctx) profile := by
        rintro (same | initialized)
        · exact profiled (same.symm.trans unprofiled)
        · exact initializer initialized.1
      simp [initializer, keeps]

end Undo

/-- The state anchor of two devices is the same. -/
def SameAnchor (device other : DeviceLease) : Prop :=
  device.statePathValid = other.statePathValid ∧ device.stateInode = other.stateInode ∧
    device.stateIdentity = other.stateIdentity ∧ device.stateFamily = other.stateFamily ∧
    device.generation = other.generation

/-- The undo of an acquire that set the anchor takes it back when nobody holds a
profile; the undo of any other acquire leaves the anchor alone. -/
theorem sameAnchor_undo {device : DeviceLease} (ok : device.AnchorOk)
    {stateInode : Inode} {request : AcquireRequest} {freshAnchor : Bool} {sm : LeaseSm}
    {newHolder : LeaseSmHolder} (path : device.statePathValid = !freshAnchor)
    (idle : freshAnchor = true → mxLeaseSmIdle (mxLeaseSmRelease sm newHolder).1 = true)
    {published : DeviceLease} (publishedEq : published =
      if freshAnchor then
        ({ device with state := sm } : DeviceLease).anchorState stateInode request
      else { device with state := sm }) :
    SameAnchor
      (mxLeaseAcquireUndo published newHolder
        ⟨newHolder, freshAnchor, published.generation, stateInode⟩).1 device := by
  subst published
  cases freshAnchor with
  | true =>
    obtain ⟨inode, identity, family, generation, -⟩ := ok path
    have idle := idle rfl
    simp [mxLeaseAcquireUndo, undoAcquireSm, DeviceLease.anchorState, idle,
      DeviceLease.dropState, SameAnchor, inode, identity, family, generation, path]
  | false => simp [mxLeaseAcquireUndo, SameAnchor]

section Call

variable [Fintype ι] {device : DeviceLease} {record : FileCtx φ}
variable {holder : ι → LeaseSmHolder} {ctx : ι}

theorem CountersExact.acquires (counters : CountersExact device.state holder)
    {file : OpenFile} {asked : AcquireRequest} {cdev : CharDev} {capable : Bool}
    (admissible : AcquireAdmissible device cdev capable file asked)
    (here : holder ctx = record.lease)
    (revokes : UndoRevokes device.state record.lease asked.profile) :
    (mxLeaseAcquireLocked device record.lease file.inode asked).ret = none := by
  have known : mxLeaseProfileFamily asked.profile ≠ .none := by
    rw [mxLeaseProfileFamily_ne_none_iff]
    refine ⟨admissible.profile.1, fun code reserved => ?_⟩
    have known := admissible.profile.2
    simp [reserved, LeaseProfile.aboveMax] at known
  obtain ⟨-, freshAnchor, anchor⟩ := acquireAdmissible_iff.mp admissible
  rw [← here] at revokes ⊢
  have succeeds := counters.acquire_succeeds known revokes
  simp [mxLeaseAcquireLocked, anchor, succeeds]

/-- The context's holder, the state machine and the anchor are as before. -/
def AcquireCall.Unchanged (call : AcquireCall) (device : DeviceLease)
    (holder : LeaseSmHolder) : Prop :=
  call.holder = holder ∧ call.device.state = device.state ∧ SameAnchor call.device device

/-- The undo restores the state before the call unless it revokes. -/
theorem CountersExact.undo_unchanged_iff (counters : CountersExact device.state holder)
    (ok : device.AnchorOk) (here : holder ctx = record.lease) {file : OpenFile}
    {asked : AcquireRequest} {freshAnchor : Bool} {sm : LeaseSm} {newHolder : LeaseSmHolder}
    (anchor : mxLeaseAcquireAnchor device file.inode asked = .ok freshAnchor)
    (granted : mxLeaseSmAcquire device.state record.lease asked.profile =
      ⟨none, sm, newHolder⟩) :
    (mxLeaseAcquireReply record file.inode
        ⟨none,
          if freshAnchor then
            ({ device with state := sm } : DeviceLease).anchorState file.inode asked
          else { device with state := sm },
          newHolder, freshAnchor⟩ false).Unchanged device record.lease ↔
      ¬ UndoRevokes device.state record.lease asked.profile := by
  have path := (mxLeaseAcquireAnchor_ok anchor).2.1
  rw [← here] at granted ⊢
  rw [← counters.release_acquired_iff granted]
  have state : (if freshAnchor then
      ({ device with state := sm } : DeviceLease).anchorState file.inode asked
      else { device with state := sm }).state = sm := by
    split <;> rfl
  simp only [mxLeaseAcquireReply, ne_eq, not_true, if_false, Bool.false_eq_true,
    AcquireCall.Unchanged, mxLeaseAcquireUndo_holder, mxLeaseAcquireUndo_state, undoAcquireSm,
    if_true, state, Prod.ext_iff]
  constructor
  · rintro ⟨held, kept, -⟩
    exact ⟨kept, held⟩
  · rintro ⟨kept, held⟩
    refine ⟨held, kept, sameAnchor_undo ok path (fun fresh => ?_) rfl⟩
    rw [kept]
    exact counters.idle (ok (by rw [path, fresh]; rfl)).2.2.2.2

/-- A call that fails leaves the holder, the state machine and the anchor as they
were, exactly when its undo does not run or does not revoke. -/
theorem CountersExact.mxLeaseAcquire_unchanged_iff
    (counters : CountersExact device.state holder) (ok : device.AnchorOk)
    (here : holder ctx = record.lease) (capable : Bool) (stateFile : Option OpenFile)
    (request : Option AcquireRequest) (copied : Bool) :
    ((mxLeaseAcquire device record capable stateFile request copied).ret ≠ none →
      (mxLeaseAcquire device record capable stateFile request copied).Unchanged device
        record.lease) ↔
      ¬ (copied = false ∧ ∃ asked file, request = some asked ∧ stateFile = some file ∧
        AcquireAdmissible device record.cdev capable file asked ∧
        UndoRevokes device.state record.lease asked.profile) := by
  have unchanged : ∀ error,
      (⟨some error, device, record.lease, none⟩ : AcquireCall).Unchanged device
        record.lease := fun _ => ⟨rfl, rfl, rfl, rfl, rfl, rfl, rfl⟩
  cases request with
  | none => exact iff_of_true (fun _ => unchanged .efault) (by simp)
  | some asked =>
    cases checked : mxLeaseAcquireCheck record.cdev capable stateFile asked with
    | some error =>
      simp only [mxLeaseAcquire, checked]
      refine iff_of_true (fun _ => unchanged error) ?_
      rintro ⟨-, request, file, same, rfl, admissible, -⟩
      obtain rfl := Option.some.inj same
      simp [(acquireAdmissible_iff.mp admissible).1] at checked
    | none =>
      cases stateFile with
      | none =>
        simp only [mxLeaseAcquire, checked]
        exact iff_of_true (fun _ => unchanged .einval) (by simp)
      | some file =>
        simp only [mxLeaseAcquire, checked]
        have effect := mxLeaseAcquireLocked_effect device record.lease file.inode asked
        generalize outcomeEq :
          mxLeaseAcquireLocked device record.lease file.inode asked = outcome at effect ⊢
        cases effect with
        | refused error =>
          refine iff_of_true (fun _ => unchanged error) ?_
          rintro ⟨-, request, other, same, sameFile, admissible, revokes⟩
          obtain rfl := Option.some.inj same
          obtain rfl := Option.some.inj sameFile
          have granted := counters.acquires admissible here revokes
          simp [outcomeEq] at granted
        | acquired anchor granted =>
          cases copied with
          | true => exact iff_of_true (by simp [mxLeaseAcquireReply]) (by simp)
          | false =>
            have admissible := acquireAdmissible_iff.mpr ⟨checked, _, anchor⟩
            have restored := counters.undo_unchanged_iff ok here anchor granted
            constructor
            · rintro keeps ⟨-, request, other, same, sameFile, -, revokes⟩
              obtain rfl := Option.some.inj same
              exact restored.mp (keeps (by simp [mxLeaseAcquireReply])) revokes
            · exact fun spared _ => restored.mpr fun revokes =>
                spared ⟨rfl, asked, file, rfl, rfl, admissible, revokes⟩

end Call

section Reached

variable [DecidableEq ι] [DecidableEq θ] [DecidableEq τ] [DecidableEq ν]
  [DecidableEq φ]
variable [Fintype ι] [Fintype θ] [Fintype τ] [Fintype ν]
variable {system : LeaseSystem ι θ τ ν φ} {ctx : ι} {record : FileCtx φ}

omit [Fintype ι] [Fintype τ] [Fintype ν] in
theorem replyCopied_acquiring {thread : θ} {undo : AcquireUndo}
    (standing : system.thread thread = ⟨.acquiring ctx undo, []⟩)
    (found : system.ctx ctx = some record) :
    leaseStep system (.replyCopied thread) =
      some (system.publish thread ctx system.device system.files record .idle []) := by
  simp [leaseStep, LeaseSystem.replyCopied, LeaseSystem.at?, standing, found,
    LeaseSystem.putFiles]

omit [Fintype ι] [Fintype τ] [Fintype ν] in
theorem replyFaulted_acquiring {thread : θ} {undo : AcquireUndo}
    (standing : system.thread thread = ⟨.acquiring ctx undo, []⟩)
    (found : system.ctx ctx = some record) :
    leaseStep system (.replyFaulted thread) =
      some (system.publish thread ctx (mxLeaseAcquireUndo system.device record.lease undo).1
        system.files
        { record with lease := (mxLeaseAcquireUndo system.device record.lease undo).2 }
        .idle []) := by
  simp [leaseStep, LeaseSystem.replyFaulted, LeaseSystem.at?, standing, found]

omit [Fintype ι] [Fintype τ] [Fintype ν] in
/-- The call is what a thread does that acquires and replies with no other step
in between. -/
theorem mxLeaseAcquire_steps {thread : θ} (enters : system.Enters thread ctx record)
    (capable : Bool) (fds : Int → Option φ) (asked : AcquireRequest) (copied : Bool)
    {call : AcquireCall} (called : mxLeaseAcquire system.device record capable
      (system.files.describe (system.files.fget fds asked.stateFd)) (some asked) copied =
        call) :
    ∃ final actions,
      (actions = [.acquire thread ctx capable fds asked] ∨
        actions = [.acquire thread ctx capable fds asked,
          if copied then .replyCopied thread else .replyFaulted thread]) ∧
      runActions leaseStep system actions = some final ∧
      final.device = call.device ∧ final.ctx ctx = some { record with lease := call.holder } ∧
      final.thread thread = ⟨.idle, []⟩ := by
  have entered : system.enter thread ctx = some record := by
    simp [LeaseSystem.enter, LeaseSystem.at?, enters.idle, enters.opened, enters.found]
  subst call
  cases checked : mxLeaseAcquireCheck record.cdev capable
      (system.files.describe (system.files.fget fds asked.stateFd)) asked with
  | some error =>
    refine ⟨system, _, .inl rfl, ?_, ?_, ?_, enters.idle⟩
    · simp [runActions, leaseStep, LeaseSystem.acquire, entered, checked]
    · simp [mxLeaseAcquire, checked]
    · simp [mxLeaseAcquire, checked, enters.found]
  | none =>
    cases described : system.files.describe (system.files.fget fds asked.stateFd) with
    | none =>
      simp [described, mxLeaseAcquireCheck_eq_none_iff, mxLeaseValidStateFile] at checked
    | some file =>
      rw [described] at checked
      cases outcomeEq : mxLeaseAcquireLocked system.device record.lease file.inode
          asked with
      | mk ret device holder freshAnchor =>
        have stepped : leaseStep system (.acquire thread ctx capable fds asked) =
            some (system.publish thread ctx device system.files
              { record with lease := holder }
              (if ret = none then
                .acquiring ctx ⟨holder, freshAnchor, device.generation, file.inode⟩
              else .idle) []) := by
          simp only [leaseStep, LeaseSystem.acquire, entered, described, checked,
            outcomeEq, Option.map_some]
        have called : mxLeaseAcquire system.device record capable (some file)
            (some asked) copied = mxLeaseAcquireReply record file.inode
              ⟨ret, device, holder, freshAnchor⟩ copied := by
          simp only [mxLeaseAcquire, checked, outcomeEq]
        rw [called]
        cases ret with
        | some error =>
          refine ⟨_, _, .inl rfl, runActions_single stepped, ?_, ?_, ?_⟩
          all_goals simp [LeaseSystem.publish, mxLeaseAcquireReply]
        | none =>
          rw [if_pos rfl] at stepped
          cases copied with
          | true =>
            refine ⟨_, _, .inr rfl, runActions_pair stepped (replyCopied_acquiring
              LeaseSystem.thread_publish LeaseSystem.ctx_publish), ?_⟩
            simp [LeaseSystem.publish, mxLeaseAcquireReply]
          | false =>
            refine ⟨_, _, .inr rfl, runActions_pair stepped (replyFaulted_acquiring
              LeaseSystem.thread_publish LeaseSystem.ctx_publish), ?_⟩
            simp [LeaseSystem.publish, mxLeaseAcquireReply]

/-- In every reached state and for every request, an acquire that fails changes
nothing, unless the copy of the reply faults on a context that held the profile
before, or after `coordinator_ready` was cleared. -/
theorem acquire_failure_unchanged_iff {incarnation : UInt64}
    (reached : Reached leaseStep (LeaseSystem.start incarnation) system)
    (found : system.ctx ctx = some record) (capable : Bool)
    (stateFile : Option OpenFile) (request : Option AcquireRequest) (copied : Bool) :
    ((mxLeaseAcquire system.device record capable stateFile request copied).ret ≠ none →
      (mxLeaseAcquire system.device record capable stateFile request copied).Unchanged
        system.device record.lease) ↔
      ¬ (copied = false ∧ ∃ asked file, request = some asked ∧ stateFile = some file ∧
        AcquireAdmissible system.device record.cdev capable file asked ∧
        UndoRevokes system.device.state record.lease asked.profile) := by
  have invariant := leaseInvariant_of_reached reached
  exact invariant.smInvariant.counters.mxLeaseAcquire_unchanged_iff
    (anchorOk_of_reached reached (invariant.balanced.alive found))
    (LeaseSystem.smView_holder found) capable stateFile request copied

/-- The device and the context at the end of `publisherRun`. -/
def publisherDevice : DeviceLease where
  state := { family := .hub, familyHolders := 1, publishers := 1, quiescent := true }
  statePathValid := true
  stateInode := some ⟨9, .regular, .tmpfs, 1, 2⟩
  stateIdentity := (1, 1)
  stateFamily := .hub
  deviceIncarnation := 7
  generationCounter := 1
  generation := 1

def publisherRecord : FileCtx Party where
  refs := 3
  cdev := .ioctl
  lease := { profile := .hubPublisher, phase := .quiescent }
  transferCount := 1
  barMappingCount := 1

theorem publisherRun_reaches :
    ∃ system, runActions leaseStep (LeaseSystem.start 7) publisherRun = some system ∧
      system.device = publisherDevice ∧ system.ctx 0 = some publisherRecord :=
  ⟨_, rfl, rfl, rfl⟩

def publisherStateFile : OpenFile :=
  ⟨⟨9, .regular, .tmpfs, 1, 2⟩, true, true, 0, 1, 0⟩

/-- The publisher asks for its profile again. -/
def publisherRequest (generation : UInt64) : AcquireRequest :=
  ⟨leaseAbiMagic, 7, generation, (1, 1), 3, .hubPublisher, 1, 128, 0⟩

/-- A publisher with a transfer in flight and a live mapping confirms its own
profile; the copy of the reply faults, and its lease is gone. -/
theorem acquire_fault_revokes_publisher :
    ∃ system : LeaseSystem Party Party Party Party Party,
      Reached leaseStep (LeaseSystem.start 7) system ∧
      system.device = publisherDevice ∧ system.ctx 0 = some publisherRecord ∧
      (mxLeaseAcquire publisherDevice publisherRecord true (some publisherStateFile)
        (some (publisherRequest 1)) false).ret = some .efault ∧
      ¬ (mxLeaseAcquire publisherDevice publisherRecord true (some publisherStateFile)
        (some (publisherRequest 1)) false).Unchanged publisherDevice
          publisherRecord.lease := by
  obtain ⟨system, run, device, found⟩ := publisherRun_reaches
  refine ⟨system, reached_of_runActions run, device, found, rfl, fun unchanged => ?_⟩
  exact absurd unchanged.1 (by decide)

/-- With a stale generation the same call fails and changes nothing. -/
theorem acquire_failure_unchanged_stale :
    (mxLeaseAcquire publisherDevice publisherRecord true (some publisherStateFile)
        (some (publisherRequest 2)) false).ret = some .estale ∧
      (mxLeaseAcquire publisherDevice publisherRecord true (some publisherStateFile)
        (some (publisherRequest 2)) false).Unchanged publisherDevice
          publisherRecord.lease := by
  obtain ⟨system, run, device, found⟩ := publisherRun_reaches
  have unchanged := acquire_failure_unchanged_iff (reached_of_runActions run) found true
    (some publisherStateFile) (some (publisherRequest 2)) false
  rw [device] at unchanged
  refine ⟨rfl, unchanged.mpr ?_ (by decide)⟩
  rintro ⟨-, asked, file, same, sameFile, admissible, -⟩
  obtain rfl := Option.some.inj same
  rcases admissible.anchor with bare | anchored
  · exact absurd bare.2.1 (by decide)
  · exact absurd anchored.2.2.1 (by decide)

end Reached

end MxDriver
