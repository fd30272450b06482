import MxDriver.LeaseBindings
import MxDriver.LeaseSlotClaims

/-!
# What the other failed calls leave behind

A transition, a slot-domain anchor, a bind and an unbind publish under the lock,
copy their reply outside of it, and undo when the copy faults.  With no other step
in between each undo section meets what its own call published, and restores what
the call found.  The undo of a bind clears the slot and the tag along with the
files, which is right because a context without its proofs has neither.
-/

namespace MxDriver

variable {ι θ τ ν φ : Type*}

/-- A binding that lacks its proofs is no binding at all. -/
def ProofBinding.Whole (proofs : ProofBinding φ) : Prop :=
  proofs.slotSourceFile = none → proofs.slotProofFile = none →
    proofs.lifetimeProofFile = none → proofs = {}

/-- A bind has looked up a file. -/
def BindFiles.Given (bind : BindFiles φ) : Prop :=
  bind.slotFile.isSome = true ∨ bind.lifetimeFile.isSome = true

theorem FileTable.isSome_of_validSlotProof {files : FileTable φ} {file : Option φ}
    {slot : UInt32} {allowZero : Bool}
    (valid : mxLeaseValidSlotProof (files.describe file) slot allowZero ≠ false) :
    file.isSome = true := by
  cases file with
  | none => exact (valid rfl).elim
  | some file => rfl

/-- A bind that passes its checks has a slot file or a lifetime file. -/
theorem mxLeaseBindProofsFiles_given {files : FileTable φ} {fds : Int → Option φ}
    {profile : LeaseProfile} {request : ProofsRequest} {bind : BindFiles φ}
    (looked : mxLeaseBindProofsFiles files fds profile request = (none, bind)) : bind.Given := by
  unfold mxLeaseBindProofsFiles at looked
  dsimp only at looked
  split at looked
  · split at looked
    · cases looked
    split at looked
    · cases looked
    rename_i valid
    have slotFile := FileTable.isSome_of_validSlotProof valid
    split at looked
    · obtain ⟨-, rfl⟩ := Prod.mk.inj looked
      exact .inl slotFile
    · obtain ⟨-, rfl⟩ := Prod.mk.inj looked
      exact .inl slotFile
  split at looked
  · split at looked
    · cases looked
    obtain ⟨passed, rfl⟩ := Prod.mk.inj looked
    right
    -- a missing file passes neither of the two tests
    cases lifetimeFile : files.fget fds request.lifetimeFd with
    | none => simp [lifetimeFile, FileTable.describe, mxLeaseValidWorkloadOfd,
        mxLeaseValidLifetimeProof] at passed
    | some file => rfl
  · cases looked

theorem newBinding_whole {request : ProofsRequest} {bind : BindFiles φ}
    {slotLockFile lifetimeLockFile : Option φ} (given : bind.Given)
    (lifetimeLocked : lifetimeLockFile.isSome = (request.reserved.1 != 0)) :
    (newBinding request bind slotLockFile lifetimeLockFile).Whole := by
  intro slotSource _ lifetimeProof
  have noSlot : bind.slotFile = none := slotSource
  have lifetimeFile : bind.lifetimeFile.isSome = true := by
    simpa [BindFiles.Given, noSlot] using given
  by_cases tagged : request.reserved.1 = 0
  · have noFile : bind.lifetimeFile = none := by simpa [newBinding, tagged] using lifetimeProof
    simp [noFile] at lifetimeFile
  · have noLock : lifetimeLockFile = none := by simpa [newBinding, tagged] using lifetimeProof
    simp [noLock, tagged] at lifetimeLocked

theorem bindingRule_whole : BindingRule (φ := φ) ProofBinding.Whole (fun _ bind => bind.Given) where
  empty _ _ _ := rfl
  lookedUp _ _ _ _ _ looked := mxLeaseBindProofsFiles_given looked
  bound _ _ _ _ given _ lifetimeLocked := newBinding_whole given lifetimeLocked

/-! ## An undo section right after its locked section -/

section Undo

variable [DecidableEq φ]

omit [DecidableEq φ] in
theorem mxLeaseTransitionLocked_refused {device : DeviceLease} {ctx : FileCtx φ}
    {request : TransitionRequest}
    (refused : (mxLeaseTransitionLocked device ctx request).ret ≠ none) :
    (mxLeaseTransitionLocked device ctx request).sm = device.state ∧
      (mxLeaseTransitionLocked device ctx request).holder = ctx.lease := by
  have effect := mxLeaseTransitionLocked_effect device ctx request
  generalize mxLeaseTransitionLocked device ctx request = outcome at effect refused ⊢
  cases effect with
  | refused error => exact ⟨rfl, rfl⟩
  | moved => exact (refused rfl).elim

theorem mxLeaseAnchorSlotDomainLocked_refused {device : DeviceLease} {ctx : FileCtx φ}
    {files : FileTable φ} {domainInode : Inode} {clone : CloneResult φ}
    {request : SlotDomainRequest}
    (refused : (mxLeaseAnchorSlotDomainLocked device ctx files domainInode clone
      request).ret ≠ none) :
    (mxLeaseAnchorSlotDomainLocked device ctx files domainInode clone request).device = device := by
  have effect := mxLeaseAnchorSlotDomainLocked_effect device ctx files domainInode clone request
  generalize mxLeaseAnchorSlotDomainLocked device ctx files domainInode clone request =
    outcome at effect refused ⊢
  cases effect with
  | refused error => rfl
  | kept | anchored => exact (refused rfl).elim

/-- A slot-domain anchor is set only where no inode was left, so its undo restores the
device. -/
theorem mxLeaseAnchorSlotDomainUndo_locked (device : DeviceLease) (ctx : FileCtx φ)
    (files : FileTable φ) (domainInode : Inode) (clone : CloneResult φ)
    (request : SlotDomainRequest) :
    mxLeaseAnchorSlotDomainUndo
      (mxLeaseAnchorSlotDomainLocked device ctx files domainInode clone request).device
      (mxLeaseAnchorSlotDomainLocked device ctx files domainInode clone request).freshAnchor
      domainInode = device := by
  have kept : ∀ inode, mxLeaseAnchorSlotDomainUndo device false inode = device := by
    simp [mxLeaseAnchorSlotDomainUndo]
  unfold mxLeaseAnchorSlotDomainLocked
  dsimp only
  split
  · exact kept _
  split
  · exact kept _
  split
  · exact kept _
  rename_i clean
  split
  · exact kept _
  split
  · exact kept _
  split
  · exact kept _
  rename_i bare
  have bare : device.slotDomainPathValid = false := by simpa using bare
  have noInode : device.slotDomainInode = none := by simpa [bare] using clean
  split
  · exact kept _
  · cases device
    simp_all [mxLeaseAnchorSlotDomainUndo]

theorem mxLeaseBindProofsLocked_refused {device : DeviceLease} {ctx : FileCtx φ}
    {files : FileTable φ} {request : ProofsRequest} {bind : BindFiles φ} {clones : BindClones φ}
    (refused : (mxLeaseBindProofsLocked device ctx files request bind clones).ret ≠ none) :
    (mxLeaseBindProofsLocked device ctx files request bind clones).ctx = ctx := by
  have effect := mxLeaseBindProofsLocked_effect device ctx files request bind clones
  generalize mxLeaseBindProofsLocked device ctx files request bind clones = outcome
    at effect refused ⊢
  cases effect with
  | refused error => rfl
  | kept | committed => exact (refused rfl).elim

/-- A bind that stores nothing leaves the context alone, and the undo of one that does
leaves only the sticky mark. -/
theorem mxLeaseBindProofsUndo_locked {device : DeviceLease} {ctx : FileCtx φ}
    {files : FileTable φ} {request : ProofsRequest} {bind : BindFiles φ}
    {clones : BindClones φ} {outcome : BindOutcome φ}
    (locked : mxLeaseBindProofsLocked device ctx files request bind clones = outcome)
    (whole : ctx.proofs.Whole) :
    (outcome.committed = false → outcome.ctx = ctx) ∧
      (outcome.committed = true →
        (mxLeaseBindProofsUndo outcome.ctx (newBinding request bind outcome.slotLockFile
          outcome.lifetimeLockFile)).1 = { ctx with proofsEverBound := true }) := by
  have effect := mxLeaseBindProofsLocked_effect device ctx files request bind clones
  rw [locked] at effect
  cases effect with
  | refused | kept => simp
  | committed phase drained unbound =>
    refine ⟨by simp, fun _ => ?_⟩
    have empty := whole unbound.1 unbound.2.1 unbound.2.2
    simp [mxLeaseBindProofsUndo, ProofBinding.sameFiles, empty]

omit [DecidableEq φ] in
theorem mxLeaseUnbindProofsLocked_refused {device : DeviceLease} {ctx : FileCtx φ}
    {request : ProofsRequest} (refused : (mxLeaseUnbindProofsLocked device ctx request).1 ≠ none) :
    (mxLeaseUnbindProofsLocked device ctx request).2 = ctx := by
  have effect := mxLeaseUnbindProofsLocked_effect device ctx request
  generalize mxLeaseUnbindProofsLocked device ctx request = outcome at effect refused ⊢
  cases effect with
  | refused error => rfl
  | detached => exact (refused rfl).elim

theorem mxLeaseUnbindProofsUndo_locked {device : DeviceLease} {ctx : FileCtx φ}
    {request : ProofsRequest} (granted : (mxLeaseUnbindProofsLocked device ctx request).1 = none) :
    (mxLeaseUnbindProofsUndo (mxLeaseUnbindProofsLocked device ctx request).2
      ctx.proofs).1 = ctx := by
  have effect := mxLeaseUnbindProofsLocked_effect device ctx request
  generalize mxLeaseUnbindProofsLocked device ctx request = outcome at effect granted ⊢
  cases effect with
  | refused error => cases granted
  | detached => simp [mxLeaseUnbindProofsUndo, ProofBinding.sameFiles]

end Undo

/-! ## Whole calls -/

namespace LeaseSystem

/-- The lease is as it was: the device, all other contexts, and this context apart from
the sticky mark. -/
def LeaseKept (system next : LeaseSystem ι θ τ ν φ) (ctx : ι) : Prop :=
  next.device = system.device ∧ (∀ other, other ≠ ctx → next.ctx other = system.ctx other) ∧
    ∃ record everBound, system.ctx ctx = some record ∧
      next.ctx ctx = some { record with proofsEverBound := everBound }

variable {system middle next : LeaseSystem ι θ τ ν φ} {thread : θ} {ctx : ι}
  {record : FileCtx φ}

theorem leaseKept_refl (found : system.ctx ctx = some record) : system.LeaseKept system ctx :=
  ⟨rfl, fun _ _ => rfl, record, record.proofsEverBound, found, found⟩

theorem LeaseKept.trans (first : system.LeaseKept middle ctx)
    (second : middle.LeaseKept next ctx) : system.LeaseKept next ctx := by
  obtain ⟨device, others, record, _, found, kept⟩ := first
  obtain ⟨device', others', record', everBound, found', kept'⟩ := second
  obtain rfl := Option.some.inj (kept.symm.trans found')
  exact ⟨device'.trans device, fun other ne => (others' other ne).trans (others other ne),
    record, everBound, found, kept'⟩

variable [DecidableEq ι] [DecidableEq θ]

theorem leaseKept_publish (found : system.ctx ctx = some record) {device : DeviceLease}
    {files : FileTable φ} {newRecord : FileCtx φ} {call : LeaseCall ι φ}
    {todo : List (Todo ι ν φ)} (sameDevice : device = system.device)
    (sameRecord : newRecord = record ∨ newRecord = { record with proofsEverBound := true }) :
    system.LeaseKept (system.publish thread ctx device files newRecord call todo) ctx := by
  refine ⟨sameDevice, fun other ne => Function.update_of_ne ne .., record,
    newRecord.proofsEverBound, found, (Function.update_self ..).trans ?_⟩
  rcases sameRecord with rfl | rfl <;> rfl

variable [DecidableEq φ]

theorem replyFaulted_idle (idle : (system.thread thread).call = .idle) :
    system.replyFaulted thread = none := by
  unfold replyFaulted at?
  rw [idle]
  split <;> rfl

/-- If the call has returned here, or if its reply faults next, then the lease is as it
was. -/
structure FailureKept (system middle : LeaseSystem ι θ τ ν φ) (thread : θ) (ctx : ι) : Prop where
  returned : (middle.thread thread).call = .idle → system.LeaseKept middle ctx
  faulted : ∀ next, middle.replyFaulted thread = some next → system.LeaseKept next ctx

theorem failureKept_of_idle (idle : (middle.thread thread).call = .idle)
    (kept : system.LeaseKept middle ctx) : system.FailureKept middle thread ctx where
  returned _ := kept
  faulted next fault := by
    rw [replyFaulted_idle idle] at fault
    cases fault

theorem transition_failed {capable : Bool} {request : TransitionRequest}
    (stepped : system.transition thread ctx capable request = some middle) :
    system.FailureKept middle thread ctx := by
  obtain ⟨record, entered, rfl⟩ := Option.map_eq_some_iff.mp stepped
  have enters := enter_eq_some entered
  have idle : (system.thread thread).call = .idle := by rw [enters.idle]
  split
  · dsimp only
    split
    · refine ⟨by simp, fun next fault => ?_⟩
      simp only [replyFaulted, at?_publish, Option.bind_some, ctx_publish, Option.map_some,
        publish_publish, Option.some.injEq] at fault
      subst fault
      exact leaseKept_publish enters.found (by simp [publish, mxLeaseTransitionUndo])
        (.inl (by simp [publish, mxLeaseTransitionUndo]))
    · rename_i refused
      obtain ⟨sm, holder⟩ := mxLeaseTransitionLocked_refused refused
      refine failureKept_of_idle call_publish ?_
      rw [sm, holder]
      exact leaseKept_publish enters.found rfl (.inl rfl)
  · exact failureKept_of_idle idle (leaseKept_refl enters.found)

theorem anchor_failed {capable : Bool} {fds : Int → Option φ} {clone : CloneResult φ}
    {request : SlotDomainRequest}
    (stepped : system.anchor thread ctx capable fds clone request = some middle) :
    system.FailureKept middle thread ctx := by
  obtain ⟨record, entered, rfl⟩ := Option.map_eq_some_iff.mp stepped
  have enters := enter_eq_some entered
  have idle : (system.thread thread).call = .idle := by rw [enters.idle]
  dsimp only
  split
  · split
    · refine ⟨by simp, fun next fault => ?_⟩
      simp only [replyFaulted, at?_publish, Option.bind_some, ctx_publish, Option.map_some,
        publish_publish, Option.some.injEq] at fault
      subst fault
      exact leaseKept_publish enters.found (mxLeaseAnchorSlotDomainUndo_locked ..) (.inl rfl)
    · rename_i refused
      refine failureKept_of_idle call_publish ?_
      exact leaseKept_publish enters.found (mxLeaseAnchorSlotDomainLocked_refused refused)
        (.inl rfl)
  · exact failureKept_of_idle idle (leaseKept_refl enters.found)

theorem unbind_failed {request : ProofsRequest}
    (stepped : system.unbind thread ctx request = some middle) :
    system.FailureKept middle thread ctx := by
  obtain ⟨record, entered, rfl⟩ := Option.map_eq_some_iff.mp stepped
  have enters := enter_eq_some entered
  have idle : (system.thread thread).call = .idle := by rw [enters.idle]
  split
  · dsimp only
    split
    · rename_i granted
      refine ⟨by simp, fun next fault => ?_⟩
      simp only [replyFaulted, at?_publish, Option.bind_some, ctx_publish, Option.map_some,
        publish_publish, Option.some.injEq] at fault
      subst fault
      exact leaseKept_publish enters.found rfl (.inl (mxLeaseUnbindProofsUndo_locked granted))
    · rename_i refused
      refine failureKept_of_idle call_publish ?_
      exact leaseKept_publish enters.found rfl
        (.inl (mxLeaseUnbindProofsLocked_refused refused))
  · exact failureKept_of_idle idle (leaseKept_refl enters.found)

/-- A bind changes nothing before it takes the lock. -/
theorem bind_prepared {fds : Int → Option φ} {request : ProofsRequest}
    (stepped : system.bind thread ctx fds request = some middle) :
    system.LeaseKept middle ctx ∧ middle.replyFaulted thread = none ∧
      ∀ other asked bind, middle.at? thread = some (.preparing other asked bind) →
        other = ctx := by
  obtain ⟨record, entered, rfl⟩ := Option.map_eq_some_iff.mp stepped
  have enters := enter_eq_some entered
  have idle : (system.thread thread).call = .idle := by rw [enters.idle]
  split
  · refine ⟨leaseKept_publish enters.found rfl (.inl rfl), ?_⟩
    dsimp only
    split
    · simp [replyFaulted]
    · constructor
      · exact replyFaulted_idle call_publish
      · simp [publish, at?]
  · exact ⟨leaseKept_refl enters.found, replyFaulted_idle idle, by simp [at?, enters.idle]⟩

theorem bindLocked_failed {clones : BindClones φ}
    (stepped : system.bindLocked thread clones = some middle)
    (standing : ∀ other asked bind, system.at? thread = some (.preparing other asked bind) →
      other = ctx) (whole : ∀ record, system.ctx ctx = some record → record.proofs.Whole) :
    system.FailureKept middle thread ctx := by
  unfold bindLocked at stepped
  split at stepped
  · rename_i other request bind prepared
    obtain rfl := standing _ _ _ prepared
    obtain ⟨record, found, rfl⟩ := Option.map_eq_some_iff.mp stepped
    dsimp only
    obtain ⟨outcome, locked⟩ : ∃ outcome, mxLeaseBindProofsLocked system.device record
      system.files request bind clones = outcome := ⟨_, rfl⟩
    obtain ⟨kept, undone⟩ := mxLeaseBindProofsUndo_locked locked (whole record found)
    rw [locked]
    by_cases granted : outcome.ret = none
    · simp only [granted, if_true]
      refine ⟨by simp, fun next fault => ?_⟩
      cases committed : outcome.committed with
      | false =>
        simp only [committed, Bool.false_eq_true, if_false, replyFaulted, at?_publish,
          Option.bind_some, ctx_publish, Option.map_some, publish_publish,
          Option.some.injEq] at fault
        subst fault
        exact leaseKept_publish found rfl (.inl (kept committed))
      | true =>
        simp only [committed, if_true, replyFaulted, at?_publish, Option.bind_some,
          ctx_publish, Option.map_some, publish_publish, Option.some.injEq] at fault
        subst fault
        exact leaseKept_publish found rfl (.inr (undone committed))
    · simp only [granted, if_false]
      refine failureKept_of_idle call_publish ?_
      subst locked
      exact leaseKept_publish found rfl (.inl (mxLeaseBindProofsLocked_refused granted))
  · cases stepped

end LeaseSystem

/-- The action is the first section of one of the four calls, on the given context. -/
def LeaseAction.Calls (thread : θ) (ctx : ι) : LeaseAction ι θ τ ν φ → Prop
  | .transition caller target _ _ | .anchor caller target _ _ _ _ | .bind caller target _ _
  | .unbind caller target _ => caller = thread ∧ target = ctx
  | _ => False

section Calls

variable [DecidableEq ι] [DecidableEq θ] [DecidableEq τ] [DecidableEq ν]
  [DecidableEq φ]
variable [Fintype θ]

/-- One of the four calls fails with no other step in between: its sections run up to
the one that refuses, or to a reply that faults, and then it puts its files. -/
inductive FailedCall (thread : θ) (ctx : ι) (system : LeaseSystem ι θ τ ν φ) :
    LeaseSystem ι θ τ ν φ → Prop
  | refused {action : LeaseAction ι θ τ ν φ} {next : LeaseSystem ι θ τ ν φ}
      (calls : action.Calls thread ctx) (stepped : leaseStep system action = some next)
      (returned : (next.thread thread).call = .idle) : FailedCall thread ctx system next
  | faulted {action : LeaseAction ι θ τ ν φ} {published next : LeaseSystem ι θ τ ν φ}
      (calls : action.Calls thread ctx)
      (stepped : leaseStep system action = some published)
      (fault : leaseStep published (.replyFaulted thread) = some next) :
      FailedCall thread ctx system next
  | bindRefused {fds : Int → Option φ} {request : ProofsRequest} {clones : BindClones φ}
      {prepared next : LeaseSystem ι θ τ ν φ}
      (stepped : leaseStep system (.bind thread ctx fds request) = some prepared)
      (locked : leaseStep prepared (.bindLocked thread clones) = some next)
      (returned : (next.thread thread).call = .idle) : FailedCall thread ctx system next
  | bindFaulted {fds : Int → Option φ} {request : ProofsRequest} {clones : BindClones φ}
      {prepared published next : LeaseSystem ι θ τ ν φ}
      (stepped : leaseStep system (.bind thread ctx fds request) = some prepared)
      (locked : leaseStep prepared (.bindLocked thread clones) = some published)
      (fault : leaseStep published (.replyFaulted thread) = some next) :
      FailedCall thread ctx system next
  | fput {failed next : LeaseSystem ι θ τ ν φ} {file : φ} {rest : List (Todo ι ν φ)}
      (call : FailedCall thread ctx system failed)
      (todo : (failed.thread thread).todo = .put (.file file) :: rest)
      (stepped : leaseStep failed (.put thread) = some next) :
      FailedCall thread ctx system next

variable {system next : LeaseSystem ι θ τ ν φ} {thread : θ} {ctx : ι}

theorem LeaseAction.Calls.failed {action : LeaseAction ι θ τ ν φ}
    (calls : action.Calls thread ctx) (stepped : leaseStep system action = some next) :
    system.FailureKept next thread ctx := by
  cases action with
  | transition caller target capable request =>
    obtain ⟨rfl, rfl⟩ := calls
    exact LeaseSystem.transition_failed stepped
  | anchor caller target capable fds clone request =>
    obtain ⟨rfl, rfl⟩ := calls
    exact LeaseSystem.anchor_failed stepped
  | bind caller target fds request =>
    obtain ⟨rfl, rfl⟩ := calls
    obtain ⟨kept, noReply, -⟩ := LeaseSystem.bind_prepared stepped
    exact ⟨fun _ => kept, by simp [noReply]⟩
  | unbind caller target request =>
    obtain ⟨rfl, rfl⟩ := calls
    exact LeaseSystem.unbind_failed stepped
  | _ => exact calls.elim

theorem LeaseSystem.LeaseKept.fput {failed : LeaseSystem ι θ τ ν φ} {file : φ}
    {rest : List (Todo ι ν φ)} (kept : system.LeaseKept failed ctx)
    (todo : (failed.thread thread).todo = .put (.file file) :: rest)
    (stepped : leaseStep failed (.put thread) = some next) : system.LeaseKept next ctx := by
  have put : failed.put thread = some next := stepped
  simp only [LeaseSystem.put, todo, Option.some.injEq] at put
  subst put
  exact kept

/-- In every reached state and for every request, a transition, a slot-domain anchor, a
bind or an unbind that fails with no other step in between leaves the lease as it was. -/
theorem failed_call_keeps_lease {incarnation : UInt64}
    (reached : Reached leaseStep (LeaseSystem.start incarnation) system)
    (failed : FailedCall thread ctx system next) : system.LeaseKept next ctx := by
  have binds : ∀ {fds request clones} {prepared locked : LeaseSystem ι θ τ ν φ},
      leaseStep system (.bind thread ctx fds request) = some prepared →
      leaseStep prepared (.bindLocked thread clones) = some locked →
      system.FailureKept locked thread ctx := by
    intro fds request clones prepared locked stepped lockedStep
    obtain ⟨kept, -, standing⟩ := LeaseSystem.bind_prepared stepped
    have whole := bindingsAre_of_reached bindingRule_whole (reached.tail trivial stepped)
    have after := LeaseSystem.bindLocked_failed lockedStep standing (whole.contexts ctx)
    exact ⟨fun idle => kept.trans (after.returned idle), fun last fault =>
      kept.trans (after.faulted last fault)⟩
  induction failed with
  | refused calls stepped returned => exact (calls.failed stepped).returned returned
  | faulted calls stepped fault => exact (calls.failed stepped).faulted _ fault
  | bindRefused stepped locked returned => exact (binds stepped locked).returned returned
  | bindFaulted stepped locked fault => exact (binds stepped locked).faulted _ fault
  | fput call todo stepped kept => exact kept.fput todo stepped

/-- The reply of an unbind faults, and the context has its proof back. -/
theorem failed_call_keeps_lease_sharedSlotRun :
    ∃ system next, runActions leaseStep (LeaseSystem.start 7) sharedSlotRun = some system ∧
      runActions leaseStep system
        [.unbind 0 1 (slotFiveRequest .unbind (-1)), .replyFaulted 0] = some next ∧
      system.LeaseKept next 1 ∧
      ∃ record, next.ctx 1 = some record ∧ record.proofs.slot = 5 ∧
        record.proofs.slotSourceFile = some 1 ∧ record.proofs.slotProofFile = some 3 := by
  have run : runActions leaseStep (LeaseSystem.start 7) sharedSlotRun = some _ := rfl
  refine ⟨_, _, run, rfl, ?_, _, rfl, rfl, rfl, rfl⟩
  exact failed_call_keeps_lease (reached_of_runActions run)
    (.faulted (show LeaseAction.Calls 0 1 (.unbind 0 1 (slotFiveRequest .unbind (-1)))
      from ⟨rfl, rfl⟩) rfl rfl)

end Calls

end MxDriver
