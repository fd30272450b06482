import MxDriver.LeaseReplyEffects

/-!
# What a section of a lease call can do

Every section of the calls on a context is one of the cases of `CallEffect`,
with its guards written out.
-/

namespace MxDriver

variable {ι θ τ ν φ : Type*}

section Calls

variable [DecidableEq ι] [DecidableEq θ] [DecidableEq φ]

/-- What a section of a lease call can do. -/
inductive CallEffect (system : LeaseSystem ι θ τ ν φ) :
    LeaseAction ι θ τ ν φ → LeaseSystem ι θ τ ν φ → Prop
  | refused (action : LeaseAction ι θ τ ν φ) : CallEffect system action system
  | acquire {thread : θ} {ctx : ι} {capable : Bool} {fds : Int → Option φ}
      {request : AcquireRequest} {record : FileCtx φ} {file : OpenFile}
      {outcome : AcquireOutcome} (enters : system.Enters thread ctx record)
      (checked : mxLeaseAcquireCheck record.cdev capable (some file) request = none)
      (effect : AcquireLockedEffect system.device record.lease file.inode request
        outcome) :
      CallEffect system (.acquire thread ctx capable fds request)
        (system.publish thread ctx outcome.device system.files
          { record with lease := outcome.holder }
          (if outcome.ret = none then
            .acquiring ctx ⟨outcome.holder, outcome.freshAnchor,
              outcome.device.generation, file.inode⟩
          else .idle) [])
  | transition {thread : θ} {ctx : ι} {capable : Bool}
      {request : TransitionRequest} {record : FileCtx φ}
      (enters : system.Enters thread ctx record)
      (checked : mxLeaseTransitionCheck capable request = none) :
      CallEffect system (.transition thread ctx capable request)
        (system.publish thread ctx
          { system.device with
            state := (mxLeaseTransitionLocked system.device record request).sm }
          system.files
          { record with
            lease := (mxLeaseTransitionLocked system.device record request).holder }
          (if (mxLeaseTransitionLocked system.device record request).ret = none then
            .transitioning ctx
              ⟨system.device.state,
                (mxLeaseTransitionLocked system.device record request).sm,
                record.lease,
                (mxLeaseTransitionLocked system.device record request).holder⟩
          else .idle) [])
  | anchor {thread : θ} {ctx : ι} {capable : Bool} {fds : Int → Option φ}
      {clone : CloneResult φ} {request : SlotDomainRequest} {record : FileCtx φ}
      {file : OpenFile} {outcome : SlotDomainOutcome φ}
      (enters : system.Enters thread ctx record)
      (checked : mxLeaseAnchorSlotDomainCheck record.cdev capable (some file)
        request = none)
      (effect : SlotDomainEffect system.device record system.files file.inode
        outcome) :
      CallEffect system (.anchor thread ctx capable fds clone request)
        (system.publish thread ctx outcome.device outcome.files record
          (if outcome.ret = none then
            .anchoring ctx outcome.freshAnchor file.inode outcome.exclusiveProof
          else .idle) [])
  | bind {thread : θ} {ctx : ι} {fds : Int → Option φ} {request : ProofsRequest}
      {record : FileCtx φ} {ret : Ret} {looked : BindFiles φ}
      (enters : system.Enters thread ctx record)
      (lookedUp : mxLeaseBindProofsFiles system.files fds record.lease.profile
        request = (ret, looked))
      (present : ∀ file ∈ looked.locals, system.files.file file ≠ none) :
      CallEffect system (.bind thread ctx fds request)
        (system.publish thread ctx system.device
          (looked.locals.foldl FileTable.hold system.files) record
          (if ret = none then .preparing ctx request looked else .idle)
          (if ret = none then [] else LeaseSystem.putFiles looked.locals))
  | bindLocked {thread : θ} {ctx : ι} {clones : BindClones φ}
      {request : ProofsRequest} {bind : BindFiles φ} {record : FileCtx φ}
      {outcome : BindOutcome φ}
      (standing : system.thread thread = ⟨.preparing ctx request bind, []⟩)
      (found : system.ctx ctx = some record)
      (effect : BindEffect record system.files request bind outcome) :
      CallEffect system (.bindLocked thread clones)
        (system.publish thread ctx system.device outcome.files outcome.ctx
          (if outcome.ret = none then
            .binding ctx
              (if outcome.committed then
                .committed (newBinding request bind outcome.slotLockFile
                  outcome.lifetimeLockFile)
              else .kept (bind.locals ++ outcome.slotLockFile.toList ++
                outcome.lifetimeLockFile.toList))
          else .idle)
          (if outcome.ret = none then []
          else LeaseSystem.putFiles (bind.locals ++ outcome.slotLockFile.toList ++
            outcome.lifetimeLockFile.toList)))
  | unbind {thread : θ} {ctx : ι} {request : ProofsRequest} {record : FileCtx φ}
      {outcome : Ret × FileCtx φ} (enters : system.Enters thread ctx record)
      (effect : UnbindEffect record outcome) :
      CallEffect system (.unbind thread ctx request)
        (system.publish thread ctx system.device system.files outcome.2
          (if outcome.1 = none then .unbinding ctx record.proofs else .idle) [])
  | copied {thread : θ} {next : LeaseSystem ι θ τ ν φ}
      (effect : ReplyEffect system thread true next) :
      CallEffect system (.replyCopied thread) next
  | faulted {thread : θ} {next : LeaseSystem ι θ τ ν φ}
      (effect : ReplyEffect system thread false next) :
      CallEffect system (.replyFaulted thread) next

variable {system next : LeaseSystem ι θ τ ν φ} {thread : θ} {ctx : ι}

theorem LeaseSystem.acquire_effect {capable : Bool} {fds : Int → Option φ}
    {request : AcquireRequest}
    (stepped : system.acquire thread ctx capable fds request = some next) :
    CallEffect system (.acquire thread ctx capable fds request) next := by
  obtain ⟨record, entered, rfl⟩ := Option.map_eq_some_iff.mp stepped
  dsimp only
  split
  · rename_i file checked described
    rw [described] at checked
    exact .acquire (enter_eq_some entered) checked (mxLeaseAcquireLocked_effect ..)
  · exact .refused _

theorem LeaseSystem.transition_effect {capable : Bool} {request : TransitionRequest}
    (stepped : system.transition thread ctx capable request = some next) :
    CallEffect system (.transition thread ctx capable request) next := by
  obtain ⟨record, entered, rfl⟩ := Option.map_eq_some_iff.mp stepped
  split
  · rename_i checked
    exact .transition (enter_eq_some entered) checked
  · exact .refused _

theorem LeaseSystem.anchor_effect {capable : Bool} {fds : Int → Option φ}
    {clone : CloneResult φ} {request : SlotDomainRequest}
    (stepped : system.anchor thread ctx capable fds clone request = some next) :
    CallEffect system (.anchor thread ctx capable fds clone request) next := by
  obtain ⟨record, entered, rfl⟩ := Option.map_eq_some_iff.mp stepped
  dsimp only
  split
  · rename_i file checked described
    rw [described] at checked
    exact .anchor (enter_eq_some entered) checked
      (mxLeaseAnchorSlotDomainLocked_effect ..)
  · exact .refused _

theorem LeaseSystem.bind_effect {fds : Int → Option φ} {request : ProofsRequest}
    (stepped : system.bind thread ctx fds request = some next) :
    CallEffect system (.bind thread ctx fds request) next := by
  obtain ⟨record, entered, rfl⟩ := Option.map_eq_some_iff.mp stepped
  split
  · exact .bind (enter_eq_some entered) rfl (mxLeaseBindProofsFiles_present _ _ _ _)
  · exact .refused _

theorem LeaseSystem.bindLocked_effect {clones : BindClones φ}
    (stepped : system.bindLocked thread clones = some next) :
    CallEffect system (.bindLocked thread clones) next := by
  unfold LeaseSystem.bindLocked at stepped
  split at stepped
  · rename_i standing
    obtain ⟨record, found, rfl⟩ := Option.map_eq_some_iff.mp stepped
    exact .bindLocked (at?_eq_some standing) found (mxLeaseBindProofsLocked_effect ..)
  · cases stepped

theorem LeaseSystem.unbind_effect {request : ProofsRequest}
    (stepped : system.unbind thread ctx request = some next) :
    CallEffect system (.unbind thread ctx request) next := by
  obtain ⟨record, entered, rfl⟩ := Option.map_eq_some_iff.mp stepped
  split
  · exact .unbind (enter_eq_some entered) (mxLeaseUnbindProofsLocked_effect ..)
  · exact .refused _

theorem CallEffect.pdevRefs {action : LeaseAction ι θ τ ν φ}
    (effect : CallEffect system action next) : next.pdevRefs = system.pdevRefs := by
  cases effect with
  | copied effect | faulted effect => cases effect <;> rfl
  | _ => rfl

end Calls

end MxDriver
