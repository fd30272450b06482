import MxDriver.LeaseProofPins

/-!
# Transfers in flight, over whole runs

A transfer is issued only with the proofs that its profile needs, it refers to
them itself, and its context cannot become bound while it is in flight.  So its
proofs stay locked whatever the context does in the meantime.
-/

namespace MxDriver

variable {ι θ τ ν φ : Type*}

/-- Where a transfer comes from. -/
inductive TransferOrigin (system next : LeaseSystem ι θ τ ν φ) (transfer : τ)
    (issued : TransferLease ι φ) : Prop
  | kept (inFlight : system.transfer transfer = some issued)
  | started {ctx : ι} {record newRecord : FileCtx φ}
      (found : system.ctx ctx = some record)
      (checked : mxLeaseTransferGetCheck system.device record = none)
      (issues : issued = issueTransfer system.files ctx record)
      (published : next.ctx ctx = some newRecord)
      (flag : newRecord.proofsEverBound = record.proofsEverBound)

section Origins

variable [DecidableEq ι] [DecidableEq θ] [DecidableEq φ]
variable {system next : LeaseSystem ι θ τ ν φ} {action : LeaseAction ι θ τ ν φ}

theorem CallEffect.transfer (effect : CallEffect system action next) :
    next.transfer = system.transfer := by
  cases effect with
  | copied effect | faulted effect => cases effect <;> rfl
  | _ => rfl

variable [DecidableEq ν] [DecidableEq τ]

theorem LifeEffect.transferOrigin (effect : LifeEffect system action next) :
    ∀ transfer issued, next.transfer transfer = some issued →
      TransferOrigin system next transfer issued := by
  cases effect with
  | transferGet standing free found checked =>
    intro transfer issued inFlight
    simp only [Function.update_apply] at inFlight
    split at inFlight
    · cases inFlight
      exact .started found checked rfl (Function.update_self ..) rfl
    · exact .kept inFlight
  | transferPut =>
    intro transfer issued inFlight
    simp only [Function.update_apply] at inFlight
    split at inFlight
    · cases inFlight
    · exact .kept inFlight
  | put standing effect =>
    cases effect <;> exact fun _ _ inFlight => .kept inFlight
  | _ => exact fun _ _ inFlight => .kept inFlight

end Origins

/-- Everything that names a proof finds it pinned, and a transfer was issued under
the flag that its context still has. -/
structure ProofsPinned (system : LeaseSystem ι θ τ ν φ) : Prop where
  consistent : system.files.locks.Consistent
  contexts : ∀ ctx record, system.ctx ctx = some record →
    record.proofs.PinnedIn system.files
  detached : ∀ thread ctx proofs, (system.thread thread).call = .unbinding ctx proofs →
    proofs.PinnedIn system.files
  transfers : ∀ transfer issued, system.transfer transfer = some issued →
    issued.PinnedIn system.files
  flags : ∀ transfer issued record, system.transfer transfer = some issued →
    system.ctx issued.owner = some record →
      record.proofsEverBound = issued.issue.proofsEverBound

section Holders

variable [DecidableEq ι] [DecidableEq φ]
variable [Fintype ι] [Fintype θ] [Fintype τ] [Fintype ν]
variable {system : LeaseSystem ι θ τ ν φ}

namespace LeaseSystem

theorem Balanced.held_by_transfer (balanced : system.Balanced) {transfer : τ}
    {ref : Ref ι φ} (held : ref ∈ transferHeld (system.transfer transfer)) :
    0 < system.refCount ref := by
  apply balanced.refCount_pos
  have positive : 0 < holdings transferHeld system.transfer ref := holdings_pos held
  unfold heldCount
  omega

theorem Balanced.ctx_files (balanced : system.Balanced) {ctx : ι} {record : FileCtx φ}
    (found : system.ctx ctx = some record) :
    ∀ file ∈ record.proofs.files, 0 < system.files.driverRefs file := by
  intro file member
  have held : .file file ∈ (ctxHeld (system.ctx ctx) : List (Ref ι φ)) := by
    simp [found, ctxHeld, fileRefs, member]
  exact balanced.held_by_ctx held

theorem Balanced.detached_files (balanced : system.Balanced) {thread : θ} {ctx : ι}
    {proofs : ProofBinding φ} (standing : (system.thread thread).call = .unbinding ctx proofs) :
    ∀ file ∈ proofs.files, 0 < system.files.driverRefs file := by
  intro file member
  have held : .file file ∈ (system.thread thread).held := by
    simp [LeaseThread.held, standing, LeaseCall.held, LeaseCall.files, fileRefs, member]
  exact balanced.held_by_thread held

theorem Balanced.transfer_files (balanced : system.Balanced) {transfer : τ}
    {issued : TransferLease ι φ} (inFlight : system.transfer transfer = some issued) :
    ∀ file ∈ issued.files, 0 < system.files.driverRefs file := by
  intro file member
  have held : .file file ∈ transferHeld (system.transfer transfer) := by
    simp [inFlight, transferHeld, fileRefs, member]
  exact balanced.held_by_transfer held

theorem Balanced.transfer_owner (balanced : system.Balanced) {transfer : τ}
    {issued : TransferLease ι φ} (inFlight : system.transfer transfer = some issued) :
    ∃ record, system.ctx issued.owner = some record := by
  have held : .ctx issued.owner ∈ transferHeld (system.transfer transfer) := by
    simp [inFlight, transferHeld]
  have positive := balanced.held_by_transfer held
  cases found : system.ctx issued.owner with
  | none => simp [refCount, found] at positive
  | some record => exact ⟨record, rfl⟩

end LeaseSystem

end Holders

section Runs

variable [DecidableEq ι] [DecidableEq θ] [DecidableEq τ] [DecidableEq ν]
  [DecidableEq φ]
variable [Fintype ι] [Fintype θ] [Fintype τ] [Fintype ν]
variable {system next : LeaseSystem ι θ τ ν φ} {action : LeaseAction ι θ τ ν φ}

namespace ProofsPinned

omit [DecidableEq θ] [DecidableEq τ] [DecidableEq ν] in
/-- A step that preserves the files keeps everything pinned if every proof in use
has an origin. -/
theorem of_origins (pinned : ProofsPinned system) (audited : Audited system)
    (nextAudited : Audited next) (preserves : system.files.Preserves next.files)
    (contexts : ∀ ctx record, next.ctx ctx = some record →
      ProofOrigin system next ctx record)
    (detached : ∀ thread, (next.thread thread).call.Detached system)
    (transfers : ∀ transfer issued, next.transfer transfer = some issued →
      TransferOrigin system next transfer issued) : ProofsPinned next where
  consistent := preserves.consistent pinned.consistent
  contexts ctx record found := by
    have held := nextAudited.balanced.ctx_files found
    cases contexts ctx record found with
    | opened free unbound => exact unbound ▸ ProofBinding.pinnedIn_empty next.files
    | bound before drained pinnedNow => exact pinnedNow
    | moved before flag origin =>
      rcases origin with same | cleared | ⟨thread, standing⟩
      · exact (same ▸ pinned.contexts _ _ before).preserves preserves held
      · exact cleared ▸ ProofBinding.pinnedIn_empty next.files
      · exact (pinned.detached _ _ _ standing).preserves preserves held
  detached thread ctx proofs standing := by
    have held := nextAudited.balanced.detached_files standing
    rcases detached thread ctx proofs standing with ⟨other, before⟩ | ⟨record, found, rfl⟩
    · exact (pinned.detached _ _ _ before).preserves preserves held
    · exact (pinned.contexts _ _ found).preserves preserves held
  transfers transfer issued inFlight := by
    have held := nextAudited.balanced.transfer_files inFlight
    cases transfers transfer issued inFlight with
    | kept before => exact (pinned.transfers _ _ before).preserves preserves held
    | started found checked issues published flag =>
      subst issues
      exact ((pinned.contexts _ _ found).issue _ checked).preserves preserves held
  flags transfer issued newRecord inFlight published := by
    cases transfers transfer issued inFlight with
    | kept before =>
      obtain ⟨record, found⟩ := audited.balanced.transfer_owner before
      cases contexts _ _ published with
      | opened free unbound => simp [free] at found
      | bound foundAgain drained pinnedNow =>
        have positive := audited.accounted.transferCount_pos before foundAgain
        omega
      | moved foundAgain flag origin =>
        exact flag.trans (pinned.flags _ _ _ before foundAgain)
    | started found checked issues publishedAgain flag =>
      subst issues
      obtain rfl := Option.some.inj (publishedAgain.symm.trans published)
      exact flag

theorem step (pinned : ProofsPinned system) (audited : Audited system)
    (stepped : leaseStep system action = some next) : ProofsPinned next := by
  have nextAudited := audited.step stepped
  cases leaseStep_effect stepped with
  | call effect =>
    refine pinned.of_origins audited nextAudited effect.grows.preserves
      effect.proofOrigin effect.detached fun transfer issued inFlight => ?_
    rw [effect.transfer] at inFlight
    exact .kept inFlight
  | life effect =>
    exact pinned.of_origins audited nextAudited effect.preserves effect.proofOrigin
      effect.detached effect.transferOrigin

theorem of_reached {incarnation : UInt64}
    (reached : Reached leaseStep (LeaseSystem.start incarnation) system) : ProofsPinned system := by
  induction reached with
  | refl => exact ⟨LockTable.consistent_nil, by simp [LeaseSystem.start],
      by simp [LeaseSystem.start], by simp [LeaseSystem.start], by simp [LeaseSystem.start]⟩
  | tail before _ stepped ih => exact ih.step (audited_of_reached before) stepped

end ProofsPinned

/-- One of the references that the counter of a file counts is the transfer's. -/
structure LeaseSystem.TransferRefers (system : LeaseSystem ι θ τ ν φ) (transfer : τ)
    (file : φ) : Prop where
  held : .file file ∈ transferHeld (system.transfer transfer)
  counted : system.files.driverRefs file = system.heldCount (.file file)

/-- A description of the driver's own read-locks a byte, and no other description
write-locks it. -/
structure FileTable.Guards (files : FileTable φ) (file : φ) (inode : Inode) (byte : Nat) :
    Prop where
  pins : files.Pins file inode byte
  unwritten : ∀ other, files.locks.Holds other inode .write byte → other = file

end Runs

section Transfers

variable [DecidableEq ι] [DecidableEq θ] [DecidableEq τ] [DecidableEq ν]
  [DecidableEq φ]
variable [Fintype ι] [Fintype θ] [Fintype τ] [Fintype ν]
variable {system : LeaseSystem ι θ τ ν φ} {transfer : τ} {issued : TransferLease ι φ}

omit [DecidableEq θ] [DecidableEq τ] [DecidableEq ν] in
theorem LeaseSystem.Balanced.transferRefers (balanced : system.Balanced) {file : φ}
    (inFlight : system.transfer transfer = some issued) (named : file ∈ issued.files) :
    system.TransferRefers transfer file where
  held := by simp [inFlight, transferHeld, fileRefs, named]
  counted := balanced (.file file)

omit [DecidableEq φ] in
theorem FileTable.Pins.guards {files : FileTable φ} {file : φ} {inode : Inode} {byte : Nat}
    (pins : files.Pins file inode byte) (consistent : files.locks.Consistent) :
    files.Guards file inode byte :=
  ⟨pins, fun _ written => consistent.eq_of_write pins.2 written⟩

/-- In every interleaving, a transfer in flight that was issued under a profile
that needs a proof refers to that proof itself.  The slot proof is a description of
the driver's own that keeps write locks off the liveness byte of the slot that was
bound at the issue; a tagged lifetime proof does so for its workload slot. -/
theorem transfer_keeps_proofs {incarnation : UInt64}
    (reached : Reached leaseStep (LeaseSystem.start incarnation) system)
    (inFlight : system.transfer transfer = some issued) :
    (∃ record, system.ctx issued.owner = some record ∧
      record.proofsEverBound = issued.issue.proofsEverBound) ∧
    (issued.issue.profile = .coordinatorControl ∨
        issued.issue.profile = .hubWorkload ∧ issued.issue.proofsEverBound = true →
      ∃ file inode, issued.slotProofFile = some file ∧
        issued.issue.slotInode = some inode ∧ system.TransferRefers transfer file ∧
        system.files.Guards file inode (leaseSlotLivenessOffset issued.issue.slot)) ∧
    (issued.issue.profile = .coordinatorWorkload ∨
        issued.issue.profile = .standaloneWorkload ∧ issued.issue.proofsEverBound = true →
      ∃ file, issued.lifetimeProofFile = some file ∧ system.TransferRefers transfer file ∧
        (issued.issue.lifetimeTag ≠ 0 →
          ∃ inode, issued.issue.lifetimeInode = some inode ∧
            system.files.Guards file inode
              (leaseWorkloadLivenessOffset (lifetimeSlot issued.issue.lifetimeTag)))) := by
  have balanced := (audited_of_reached reached).balanced
  have pinned := ProofsPinned.of_reached reached
  have transferPinned := pinned.transfers transfer issued inFlight
  refine ⟨?_, fun needed => ?_, fun needed => ?_⟩
  · obtain ⟨record, found⟩ := balanced.transfer_owner inFlight
    exact ⟨record, found, pinned.flags transfer issued record inFlight found⟩
  · obtain ⟨file, carried⟩ :=
      Option.ne_none_iff_exists'.mp (transferPinned.carriesSlot needed)
    obtain ⟨inode, known, pins⟩ := transferPinned.slot file carried
    have named : file ∈ issued.files := by simp [TransferLease.files, carried]
    exact ⟨file, inode, carried, known, balanced.transferRefers inFlight named,
      pins.guards pinned.consistent⟩
  · obtain ⟨file, carried⟩ :=
      Option.ne_none_iff_exists'.mp (transferPinned.carriesLifetime needed)
    have named : file ∈ issued.files := by simp [TransferLease.files, carried]
    refine ⟨file, carried, balanced.transferRefers inFlight named, fun tagged => ?_⟩
    obtain ⟨inode, known, pins⟩ := transferPinned.lifetime tagged file carried
    exact ⟨inode, known, pins.guards pinned.consistent⟩

/-- A file for the state anchor of the runs below. -/
def anchorInode : Inode := ⟨1, .regular, .tmpfs, 1, 2⟩

/-- A file for their slot domain. -/
def domainInode : Inode := ⟨2, .regular, .tmpfs, 1, 3⟩

/-- A bind or an unbind of slot 5. -/
def slotFiveRequest (operation : LeaseProofOp) (slotFd : Int) : ProofsRequest where
  abiMagic := leaseAbiMagic
  expectedDeviceIncarnation := 7
  expectedLeaseGeneration := 1
  stateIdentity := (1, 1)
  slotFd := slotFd
  lifetimeFd := -1
  slot := 5
  operation := operation
  abiVersion := 1
  structSize := 128
  grants := 0
  slotDev := 0
  slotIno := 0
  lifetimeDev := 0
  lifetimeIno := 0
  reserved := (0, 0, 0)

/-- An initializer sets the coordinator up, and a control context binds slot 5; the
reply of the bind has not been copied yet. -/
def controlRun : List (LeaseAction Party Party Party Party Party) :=
  [.openGet 0, .openFinish 0 0 .ioctl true, .openGet 0, .openFinish 0 1 .ioctl true,
    .user (.openAt 0 anchorInode true true), .user (.openAt 1 domainInode true true),
    .acquire 0 0 true (fun _ => some 0)
      ⟨leaseAbiMagic, 7, 0, (1, 1), 3, .coordinatorInitializer, 1, 128, 0⟩,
    .replyCopied 0,
    .anchor 0 0 true (fun _ => some 1) (.ok (2, domainInode))
      ⟨leaseAbiMagic, 7, 1, 4, 1, 64, 0, 0, 0, 0⟩,
    .replyCopied 0, .put 0,
    .transition 0 0 true ⟨leaseAbiMagic, 7, 1, .activateCoordinator, 1, 96, 0, 0⟩,
    .replyCopied 0,
    .acquire 0 1 true (fun _ => some 0)
      ⟨leaseAbiMagic, 7, 1, (1, 1), 3, .coordinatorControl, 1, 128, 0⟩,
    .replyCopied 0, .user (.lock 1 .write 10 10), .user (.seek 1 0x50584c05),
    .bind 0 1 (fun _ => some 1) (slotFiveRequest .bind 4),
    .bindLocked 0 ⟨.ok (2, domainInode), .ok (3, domainInode), .error .enomem⟩]

/-- The control context issues a transfer, unbinds and is closed. -/
def orphanRun : List (LeaseAction Party Party Party Party Party) :=
  controlRun ++
    [.replyCopied 0, .directBegin 0 1, .transferGet 0 0, .directEnd 0,
      .unbind 0 1 (slotFiveRequest .unbind (-1)), .replyCopied 0, .put 0, .put 0,
      .user (.close 1), .close 0 1, .put 0]

theorem transfer_keeps_proofs_orphanRun :
    ∃ system issued,
      runActions leaseStep (LeaseSystem.start 7) orphanRun = some system ∧
      system.opened 1 = false ∧ system.transfer 0 = some issued ∧
      ∃ file inode, issued.slotProofFile = some file ∧
        issued.issue.slotInode = some inode ∧ system.TransferRefers 0 file ∧
        system.files.Guards file inode (leaseSlotLivenessOffset 5) := by
  have run : runActions leaseStep (LeaseSystem.start 7) orphanRun = some _ := rfl
  exact ⟨_, _, run, rfl, rfl,
    (transfer_keeps_proofs (reached_of_runActions run) rfl).2.1 (.inl rfl)⟩

end Transfers

end MxDriver
