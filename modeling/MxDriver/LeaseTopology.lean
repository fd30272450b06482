import MxDriver.LeaseWorkloadAdmission

/-!
# Who can move the topology

The topology of a device is what its publishers decide: their number and phase,
the state anchor with its generation, and the slot-domain anchor.  A context that
never held a publisher profile cannot move it without the capability, neither by a
call nor by an undo or a release.
-/

namespace MxDriver

variable {ι θ τ ν φ : Type*}

/-- What the publishers of a device decide. -/
structure LeaseTopology where
  publishers : Nat
  quiescent : Bool
  coordinatorReady : Bool
  statePathValid : Bool
  stateInode : Option Inode
  stateIdentity : UInt64 × UInt64
  stateFamily : LeaseFamily
  generation : UInt64
  generationCounter : UInt64
  slotDomainPathValid : Bool
  slotDomainInode : Option Inode
  deriving DecidableEq

def DeviceLease.topology (device : DeviceLease) : LeaseTopology where
  publishers := device.state.publishers
  quiescent := device.state.quiescent
  coordinatorReady := device.state.coordinatorReady
  statePathValid := device.statePathValid
  stateInode := device.stateInode
  stateIdentity := device.stateIdentity
  stateFamily := device.stateFamily
  generation := device.generation
  generationCounter := device.generationCounter
  slotDomainPathValid := device.slotDomainPathValid
  slotDomainInode := device.slotDomainInode

/-- The publishers' part of the state machine is the same. -/
structure LeaseSm.SamePublishers (sm next : LeaseSm) : Prop where
  publishers : next.publishers = sm.publishers
  quiescent : next.quiescent = sm.quiescent
  coordinatorReady : next.coordinatorReady = sm.coordinatorReady

theorem LeaseSm.SamePublishers.refl (sm : LeaseSm) : sm.SamePublishers sm :=
  ⟨rfl, rfl, rfl⟩

theorem LeaseSm.SamePublishers.topology {device : DeviceLease} {sm : LeaseSm}
    (same : device.state.SamePublishers sm) :
    ({ device with state := sm } : DeviceLease).topology = device.topology := by
  obtain ⟨publishers, quiescent, coordinatorReady⟩ := same
  simp only [DeviceLease.topology, publishers, quiescent, coordinatorReady]

/-! ## The state machine under a context that is no publisher -/

theorem HolderOk.not_quiescent {holder : LeaseSmHolder} (ok : HolderOk holder)
    (plain : ¬ holder.Publishing) : holder.phase ≠ .quiescent := by
  intro quiescent
  have profiled := ok.profiled_of_phase (by simp [quiescent])
  exact plain (ok.publishing_of_phase profiled (by simp [quiescent]))

theorem HolderOk.release_samePublishers {holder : LeaseSmHolder} (ok : HolderOk holder)
    (plain : ¬ holder.Publishing) (sm : LeaseSm) :
    sm.SamePublishers (mxLeaseSmRelease sm holder).1 := by
  unfold mxLeaseSmRelease
  split
  · exact ⟨rfl, rfl, rfl⟩
  split
  · exact .refl sm
  · exact ⟨if_neg plain, if_neg (ok.not_quiescent plain), rfl⟩

theorem AcquireEffect.samePublishers {sm : LeaseSm} {holder : LeaseSmHolder}
    {profile : LeaseProfile} {outcome : SmOutcome}
    (effect : AcquireEffect sm holder profile outcome)
    (plain : mxLeaseProfileIsPublisher profile = false) : sm.SamePublishers outcome.sm := by
  cases effect with
  | refused error => exact .refl sm
  | found profiled same => exact .refl sm
  | granted phase known notLegacy noLegacy unprofiled family room phaseEq =>
    have allowed := (mxLeaseSmAcquirePhase_spec phaseEq).1
    refine ⟨?_, ?_, ?_⟩ <;> cases profile <;> cases phase <;>
      simp_all [mxLeaseSmAcquireCommit, phaseAllowed, mxLeaseProfileIsPublisher]

theorem TransitionEffect.eq_of_plain {sm : LeaseSm} {holder : LeaseSmHolder}
    {activeDirect activeTransfers barMappings : Nat} {slotDomainAnchored : Bool}
    {outcome : SmOutcome}
    (effect : TransitionEffect sm holder activeDirect activeTransfers barMappings
      slotDomainAnchored outcome) (plain : ¬ holder.Publishing) :
    outcome.ret ≠ none ∧ outcome.sm = sm := by
  cases effect with
  | refused error => exact ⟨by simp, rfl⟩
  | moved publisher notLegacy move guards => exact (plain publisher).elim

theorem AuthorizeEffect.samePublishers {sm : LeaseSm} {holder : LeaseSmHolder}
    {outcome : SmOutcome} (effect : AuthorizeEffect sm holder outcome) :
    sm.SamePublishers outcome.sm := by
  cases effect <;> exact ⟨rfl, rfl, rfl⟩

/-- A slot domain is anchored by a publisher. -/
theorem publishing_of_slotDomainAnchor {holder : LeaseSmHolder}
    {stateFamily : LeaseFamily} {stateAnchored domainAnchored sameInode : Bool}
    {activeDirect activeTransfers barMappings : Nat}
    (valid : mxLeaseSmValidateSlotDomainAnchor holder stateFamily stateAnchored activeDirect
      activeTransfers barMappings domainAnchored sameInode = none) : holder.Publishing := by
  unfold mxLeaseSmValidateSlotDomainAnchor at valid
  split at valid
  · rename_i initializer
    rw [LeaseSmHolder.Publishing, initializer]
    rfl
  · split at valid
    · cases valid
    rename_i admitted
    simp only [not_or, not_not] at admitted
    rw [LeaseSmHolder.Publishing, admitted.1]
    rfl

/-! ## Contexts that never published -/

namespace LeaseSystem

/-- A context holds a publisher profile. -/
def Publishing (system : LeaseSystem ι θ τ ν φ) (ctx : ι) : Prop :=
  ∃ record, system.ctx ctx = some record ∧ record.lease.Publishing

instance (system : LeaseSystem ι θ τ ν φ) (ctx : ι) : Decidable (system.Publishing ctx) :=
  decidable_of_iff ((system.ctx ctx).any fun record =>
    mxLeaseProfileIsPublisher record.lease.profile) (by
      simp [Publishing, Option.any_eq_true])

end LeaseSystem

/-- A call that has nothing of a publisher's to take back on a context. -/
def LeaseCall.Harmless (ctx : ι) : LeaseCall ι φ → Prop
  | .acquiring other undo =>
    other = ctx → undo.freshAnchor = false ∧ ¬ undo.newHolder.Publishing
  | .transitioning other _ => other ≠ ctx
  | .anchoring other freshAnchor _ _ => other = ctx → freshAnchor = false
  | _ => True

/-- No call in flight has anything of a publisher's to take back on a context. -/
def LeaseSystem.Harmless (system : LeaseSystem ι θ τ ν φ) (ctx : ι) : Prop :=
  ∀ thread, (system.thread thread).call.Harmless ctx

section Steps

variable [DecidableEq ι] [DecidableEq θ] [DecidableEq φ]
variable {system next : LeaseSystem ι θ τ ν φ} {action : LeaseAction ι θ τ ν φ} {ctx : ι}

omit [DecidableEq ι] [DecidableEq φ] in
theorem LeaseSystem.Harmless.moved {thread : θ} {call : LeaseCall ι φ}
    {todo : List (Todo ι ν φ)} (harmless : system.Harmless ctx)
    (threads : next.thread = Function.update system.thread thread ⟨call, todo⟩)
    (new : call.Harmless ctx) : next.Harmless ctx := by
  unfold LeaseSystem.Harmless
  rw [threads]
  exact calls_update (p := LeaseCall.Harmless ctx) harmless new

omit [DecidableEq ι] [DecidableEq θ] [DecidableEq φ] in
theorem LeaseSystem.Harmless.standing {thread : θ} {call : LeaseCall ι φ}
    {todo : List (Todo ι ν φ)} (harmless : system.Harmless ctx)
    (standing : system.thread thread = ⟨call, todo⟩) : call.Harmless ctx := by
  have kept := harmless thread
  rwa [standing] at kept

/-- An acquire leaves nothing of a publisher's behind on a context that does not
hold such a profile afterwards. -/
theorem AcquireLockedEffect.harmless {device : DeviceLease} {holder : LeaseSmHolder}
    {stateInode : Inode} {request : AcquireRequest} {outcome : AcquireOutcome}
    (effect : AcquireLockedEffect device holder stateInode request outcome)
    (plain : ¬ outcome.holder.Publishing) : outcome.freshAnchor = false := by
  cases effect with
  | refused error => rfl
  | acquired anchor granted =>
    have publisher := (mxLeaseAcquireAnchor_ok anchor).2.2.1
    have effect := mxLeaseSmAcquire_effect device.state holder request.profile
    rw [granted] at effect
    by_contra fresh
    refine plain ?_
    rw [LeaseSmHolder.Publishing, effect.profile.1]
    exact publisher (by simpa using fresh)

theorem CallEffect.harmless (effect : CallEffect system action next)
    (harmless : system.Harmless ctx) (before : ¬ system.Publishing ctx)
    (after : ¬ next.Publishing ctx) : next.Harmless ctx := by
  cases effect with
  | refused => exact harmless
  | copied effect | faulted effect =>
    cases effect <;> exact harmless.moved rfl trivial
  | acquire enters checked effect =>
    refine harmless.moved rfl ?_
    split
    · rintro rfl
      have plain : ¬ LeaseSmHolder.Publishing _ := fun publishing =>
        after ⟨_, Function.update_self .., publishing⟩
      exact ⟨effect.harmless plain, plain⟩
    · trivial
  | transition enters checked =>
    refine harmless.moved rfl ?_
    split
    · rename_i succeeded
      rintro rfl
      refine ((mxLeaseTransitionLocked_effect ..).eq_of_plain ?_).1 succeeded
      exact fun publishing => before ⟨_, enters.found, publishing⟩
    · trivial
  | anchor enters checked effect =>
    refine harmless.moved rfl ?_
    cases effect with
    | refused => trivial
    | kept => exact fun _ => rfl
    | anchored bare valid pinned =>
      rintro rfl
      exact (before ⟨_, enters.found, publishing_of_slotDomainAnchor valid⟩).elim
  | bind | bindLocked | unbind =>
    refine harmless.moved rfl ?_
    split <;> trivial

variable [DecidableEq ν] [DecidableEq τ]

theorem LifeEffect.harmless (effect : LifeEffect system action next)
    (harmless : system.Harmless ctx) : next.Harmless ctx := by
  cases effect with
  | refused | user | remove | vmaOpen => exact harmless
  | directBegin =>
    refine harmless.moved rfl ?_
    split <;> trivial
  | transferPut standing | vmaClose standing =>
    exact harmless.moved rfl (harmless.standing standing)
  | put standing effect =>
    cases effect <;> exact harmless.moved rfl (harmless.standing standing)
  | _ => exact harmless.moved rfl trivial

variable [Fintype ι] [Fintype θ] [Fintype τ] [Fintype ν]

/-- Since it was opened, a context has never held a publisher profile. -/
def NeverPublished (incarnation : UInt64) (system : LeaseSystem ι θ τ ν φ) (ctx : ι) : Prop :=
  ¬ system.Publishing ctx ∧ ∃ unopened,
    Reached leaseStep (LeaseSystem.start incarnation) unopened ∧ unopened.ctx ctx = none ∧
      ReachedBy leaseStep (fun current _ => ¬ current.Publishing ctx) unopened system

omit [Fintype ι] [Fintype τ] [Fintype ν] in
theorem NeverPublished.reached {incarnation : UInt64}
    (never : NeverPublished incarnation system ctx) :
    Reached leaseStep (LeaseSystem.start incarnation) system := by
  obtain ⟨-, unopened, before, -, since⟩ := never
  exact ReachedBy.trans before since.reached

omit [DecidableEq θ] [DecidableEq ν] [DecidableEq τ] in
theorem LeaseInvariant.harmless_unopened (invariant : LeaseInvariant system)
    (free : system.ctx ctx = none) : system.Harmless ctx := by
  have closed := invariant.balanced.unopened free
  intro thread
  have outside : (system.thread thread).call.ctx? ≠ some ctx := fun runs => by
    simp [invariant.accounted.onOpen thread ctx runs] at closed
  cases standing : (system.thread thread).call <;>
    simp_all [LeaseCall.Harmless, LeaseCall.ctx?]

theorem NeverPublished.harmless {incarnation : UInt64}
    (never : NeverPublished incarnation system ctx) : system.Harmless ctx := by
  obtain ⟨plain, unopened, before, free, since⟩ := never
  induction since with
  | refl => exact (leaseInvariant_of_reached before).harmless_unopened free
  | tail _ plainBefore stepped ih =>
    cases leaseStep_effect stepped with
    | call effect => exact effect.harmless (ih plainBefore) plainBefore plain
    | life effect => exact effect.harmless (ih plainBefore)

end Steps

/-! ## What an unprivileged step changes -/

/-- The step belongs to a call on a context, to one of its transfers or mappings, or
to its release; where the capability is asked for, the caller lacks it. -/
def LeaseSystem.Unprivileged (system : LeaseSystem ι θ τ ν φ) (ctx : ι) :
    LeaseAction ι θ τ ν φ → Prop
  | .acquire _ other capable _ _ | .transition _ other capable _
  | .anchor _ other capable _ _ _ => other = ctx ∧ capable = false
  | .bind _ other _ _ | .unbind _ other _ | .directBegin _ other | .close _ other =>
    other = ctx
  | .bindLocked thread _ | .replyCopied thread | .replyFaulted thread | .directEnd thread
  | .transferGet thread _ | .mmapCheck thread | .mmapCommit thread _ | .mmapFail thread =>
    (system.thread thread).call.ctx? = some ctx
  | .transferPut _ transfer =>
    ∃ issued, system.transfer transfer = some issued ∧ issued.owner = ctx
  | .vmaOpen vma | .vmaClose _ vma =>
    ∃ mapping, system.vma vma = some mapping ∧ mapping.owner = ctx
  | .put thread =>
    match (system.thread thread).todo with
    | [] => False
    | .put (.ctx other) :: _ => other = ctx
    | .put (.file _) :: _ | .put .pdev :: _ => True
    | .uncharge vma :: _ => ∃ mapping, system.vma vma = some mapping ∧ mapping.owner = ctx
  | .user _ | .openGet _ | .openFinish .. | .remove | .detach _ => False

/-- A step on a context leaves the topology of a device that still exists alone,
and the holders of all other contexts. -/
structure LeaseSystem.Confined (system next : LeaseSystem ι θ τ ν φ) (ctx : ι) : Prop where
  topology : next.pdevRefs ≠ 0 → next.device.topology = system.device.topology
  others : ∀ other, other ≠ ctx →
    (next.ctx other).map FileCtx.lease = (system.ctx other).map FileCtx.lease

section Confinement

variable [DecidableEq ι] [DecidableEq θ] [DecidableEq φ]
variable {system next : LeaseSystem ι θ τ ν φ} {action : LeaseAction ι θ τ ν φ} {ctx : ι}

namespace LeaseSystem.Confined

omit [DecidableEq θ] [DecidableEq φ] in
theorem moved {record : Option (FileCtx φ)}
    (topology : next.device.topology = system.device.topology)
    (contexts : next.ctx = Function.update system.ctx ctx record) : system.Confined next ctx where
  topology := fun _ => topology
  others := by
    intro other different
    rw [contexts, Function.update_of_ne different]

omit [DecidableEq ι] [DecidableEq θ] [DecidableEq φ] in
theorem aside (topology : next.device.topology = system.device.topology)
    (contexts : next.ctx = system.ctx) : system.Confined next ctx where
  topology := fun _ => topology
  others := fun other _ => by rw [contexts]

end LeaseSystem.Confined

open LeaseSystem

/-- The undo of an acquire that was no publisher's releases no publisher. -/
theorem mxLeaseAcquireUndo_topology {device : DeviceLease} {holder : LeaseSmHolder}
    {undo : AcquireUndo} (ok : HolderOk holder) (stale : undo.freshAnchor = false)
    (plain : ¬ holder.Publishing) :
    (mxLeaseAcquireUndo device holder undo).1.topology = device.topology := by
  unfold mxLeaseAcquireUndo
  simp only [stale, Bool.false_eq_true, false_and, if_false]
  apply LeaseSm.SamePublishers.topology
  unfold undoAcquireSm
  split
  · exact ok.release_samePublishers plain _
  · exact .refl _

/-- Without the capability no publisher profile is asked for. -/
theorem mxLeaseAcquireCheck_unprivileged {cdev : CharDev} {stateFile : Option OpenFile}
    {request : AcquireRequest} (checked : mxLeaseAcquireCheck cdev false stateFile request = none) :
    mxLeaseProfileIsPublisher request.profile = false := by
  unfold mxLeaseAcquireCheck at checked
  split at checked
  · cases checked
  split at checked
  · cases checked
  split at checked
  · cases checked
  rename_i notPublisher
  simpa using notPublisher

theorem ReplyEffect.confined {thread : θ} {copied : Bool}
    (effect : ReplyEffect system thread copied next)
    (serves : (system.thread thread).call.ctx? = some ctx) (harmless : system.Harmless ctx)
    (plain : ∀ record, system.ctx ctx = some record →
      HolderOk record.lease ∧ ¬ record.lease.Publishing) : system.Confined next ctx := by
  have harmless := harmless thread
  cases effect with
  | acquired standing found | transitioned standing found | anchored standing found
  | bound standing found | unbound standing found | undoBind standing found
  | undoKept standing found | undoUnbind standing found =>
    rw [standing] at serves
    obtain rfl := Option.some.inj serves
    exact .moved rfl rfl
  | undoAcquire standing found =>
    rw [standing] at serves harmless
    obtain rfl := Option.some.inj serves
    obtain ⟨ok, plain⟩ := plain _ found
    exact .moved (mxLeaseAcquireUndo_topology ok (harmless rfl).1 plain) rfl
  | undoTransition standing found =>
    rw [standing] at serves harmless
    exact (harmless (Option.some.inj serves)).elim
  | undoAnchor standing found =>
    rw [standing] at serves harmless
    obtain rfl := Option.some.inj serves
    refine .moved ?_ rfl
    simp [LeaseSystem.publish, mxLeaseAnchorSlotDomainUndo, harmless rfl]

theorem CallEffect.confined (effect : CallEffect system action next)
    (serves : system.Unprivileged ctx action) (harmless : system.Harmless ctx)
    (plain : ∀ record, system.ctx ctx = some record →
      HolderOk record.lease ∧ ¬ record.lease.Publishing) : system.Confined next ctx := by
  cases effect with
  | refused => exact .aside rfl rfl
  | copied effect | faulted effect => exact effect.confined serves harmless plain
  | acquire enters checked effect =>
    rename_i thread other capable fds request record file outcome
    obtain ⟨rfl, rfl⟩ := serves
    refine .moved ?_ rfl
    cases effect with
    | refused error => rfl
    | acquired anchor granted =>
      rename_i freshAnchor sm newHolder
      have notPublisher := mxLeaseAcquireCheck_unprivileged checked
      have fresh := (mxLeaseAcquireAnchor_ok anchor).2.2.1
      obtain rfl : freshAnchor = false := by simpa [notPublisher] using fresh
      apply LeaseSm.SamePublishers.topology
      have effect := mxLeaseSmAcquire_effect system.device.state record.lease
        request.profile
      rw [granted] at effect
      exact effect.samePublishers notPublisher
  | transition enters checked =>
    rename_i request record
    obtain ⟨rfl, rfl⟩ := serves
    refine .moved ?_ rfl
    apply LeaseSm.SamePublishers.topology
    have kept := (mxLeaseTransitionLocked_effect system.device record request).eq_of_plain
      (plain _ enters.found).2
    rw [kept.2]
    exact .refl _
  | anchor enters checked effect =>
    obtain ⟨rfl, rfl⟩ := serves
    unfold mxLeaseAnchorSlotDomainCheck at checked
    split at checked <;> simp at checked
  | bind enters lookedUp present | unbind enters effect =>
    obtain rfl := serves
    exact .moved rfl rfl
  | bindLocked standing found effect =>
    have serves : LeaseCall.ctx? _ = some ctx := serves
    rw [standing] at serves
    obtain rfl := Option.some.inj serves
    exact .moved rfl rfl

omit [DecidableEq ι] [DecidableEq θ] [DecidableEq φ] in
theorem DirectBeginEffect.topology {device : DeviceLease} {record : FileCtx φ}
    {begun : Ret × DeviceLease × FileCtx φ} (effect : DirectBeginEffect device record begun) :
    begun.2.1.topology = device.topology := by
  cases effect with
  | refused | retracted => rfl
  | admitted room effect anchored proofs => exact effect.samePublishers.topology

variable [DecidableEq τ] [DecidableEq ν]

theorem LifeEffect.confined (effect : LifeEffect system action next)
    (serves : system.Unprivileged ctx action) (plain : ∀ record, system.ctx ctx = some record →
      HolderOk record.lease ∧ ¬ record.lease.Publishing) : system.Confined next ctx := by
  cases effect with
  | refused | closed | mmapCheck | mmapFail | vmaOpen | vmaClose => exact .aside rfl rfl
  | user | openGet | openFailed | opened | remove | detach => exact serves.elim
  | directBegin enters effect begins =>
    obtain rfl := serves
    exact .moved effect.topology rfl
  | directEnd standing found | transferGet standing free found checked
  | mmapCommit standing free found =>
    have serves : LeaseCall.ctx? _ = some ctx := serves
    rw [standing] at serves
    obtain rfl := Option.some.inj serves
    exact .moved rfl rfl
  | transferPut standing inFlight found =>
    obtain ⟨issued, same, rfl⟩ := serves
    obtain rfl := Option.some.inj (inFlight.symm.trans same)
    exact .moved rfl rfl
  | put standing effect =>
    simp only [LeaseSystem.Unprivileged, standing] at serves
    cases effect with
    | file | pdevKept | dangling => exact .aside rfl rfl
    | ctxKept found shared =>
      obtain rfl := serves
      exact .moved rfl rfl
    | ctxFreed found last =>
      obtain rfl := serves
      obtain ⟨ok, plain⟩ := plain _ found
      exact .moved (ok.release_samePublishers plain _).topology rfl
    | pdevFreed last => exact ⟨fun alive => (alive rfl).elim, fun _ _ => rfl⟩
    | uncharged mapped found =>
      obtain ⟨mapping, same, rfl⟩ := serves
      obtain rfl := Option.some.inj (mapped.symm.trans same)
      exact .moved rfl rfl

variable [Fintype ι] [Fintype θ] [Fintype τ] [Fintype ν]

/-- In every interleaving: a step that is made without the capability on a context
that has never held a publisher profile leaves the topology of the device and the
holders of all other contexts as they are. -/
theorem topology_kept_unprivileged {incarnation : UInt64}
    (never : NeverPublished incarnation system ctx) (serves : system.Unprivileged ctx action)
    (stepped : leaseStep system action = some next) :
    (next.pdevRefs ≠ 0 → next.device.topology = system.device.topology) ∧
      ∀ other, other ≠ ctx →
        (next.ctx other).map FileCtx.lease = (system.ctx other).map FileCtx.lease := by
  have counters := (leaseInvariant_of_reached never.reached).smInvariant.counters
  have plain : ∀ record, system.ctx ctx = some record →
      HolderOk record.lease ∧ ¬ record.lease.Publishing := by
    intro record found
    have ok := counters.holderOk ctx
    rw [LeaseSystem.smView_holder found] at ok
    exact ⟨ok, fun publishing => never.1 ⟨record, found, publishing⟩⟩
  have confined : system.Confined next ctx := by
    cases leaseStep_effect stepped with
    | call effect => exact effect.confined serves never.harmless plain
    | life effect => exact effect.confined serves plain
  exact ⟨confined.topology, confined.others⟩

/-- The workload of `attachedRun` attaches, and its reply is about to fault. -/
def faultingRun : List (LeaseAction Party Party Party Party Party) :=
  attachedRun ++ [.acquire 0 1 false (fun _ => some 0) hubWorkloadRequest]

theorem topology_kept_unprivileged_faultingRun :
    ∃ system next, runActions leaseStep (LeaseSystem.start 7) faultingRun = some system ∧
      system.Unprivileged 1 (.replyFaulted 0) ∧
      leaseStep system (.replyFaulted 0) = some next ∧ next.pdevRefs ≠ 0 ∧
      next.device.state ≠ system.device.state ∧
      next.device.topology = system.device.topology := by
  have run : runActions leaseStep (LeaseSystem.start 7) faultingRun = some _ := rfl
  have plain : runAllowed leaseStep (fun current _ => ¬ current.Publishing 1)
      (LeaseSystem.start 7) faultingRun = some _ := rfl
  have never : NeverPublished 7 _ (1 : Party) :=
    ⟨by decide, _, .refl, rfl, reachedBy_of_runAllowed plain⟩
  exact ⟨_, _, run, rfl, rfl, by decide, by decide,
    (topology_kept_unprivileged never
      (show LeaseSystem.Unprivileged _ 1 (.replyFaulted 0) from rfl) rfl).1 (by decide)⟩

end Confinement

end MxDriver
