import MxDriver.LeaseProofEffects
import MxDriver.LeaseSteps

/-!
# What the end of a call can do

A call ends with its reply copied out, or with its undo section.
-/

namespace MxDriver

variable {ι θ τ ν φ : Type*}

namespace LeaseSystem

theorem at?_eq_some {system : LeaseSystem ι θ τ ν φ} {thread : θ}
    {call : LeaseCall ι φ} (standing : system.at? thread = some call) :
    system.thread thread = ⟨call, []⟩ := by
  unfold at? at standing
  split at standing
  · rename_i noTodo
    have same := Option.some.inj standing
    cases thr : system.thread thread
    simp_all
  · cases standing

/-- An idle thread enters a context through an open file. -/
structure Enters (system : LeaseSystem ι θ τ ν φ) (thread : θ) (ctx : ι)
    (record : FileCtx φ) : Prop where
  idle : system.thread thread = ⟨.idle, []⟩
  opened : system.opened ctx = true
  found : system.ctx ctx = some record

variable [DecidableEq ι] [DecidableEq φ]

theorem enter_eq_some {system : LeaseSystem ι θ τ ν φ} {thread : θ} {ctx : ι}
    {record : FileCtx φ} (entered : system.enter thread ctx = some record) :
    system.Enters thread ctx record := by
  unfold enter at entered
  split at entered
  · rename_i ready
    exact ⟨at?_eq_some ready.1, ready.2, entered⟩
  · cases entered

end LeaseSystem

section Replies

variable [DecidableEq ι] [DecidableEq θ] [DecidableEq φ]

/-- What copying a reply, or failing to, leaves of a call. -/
inductive ReplyEffect (system : LeaseSystem ι θ τ ν φ) (thread : θ) :
    Bool → LeaseSystem ι θ τ ν φ → Prop
  | acquired {ctx : ι} {undo : AcquireUndo} {record : FileCtx φ}
      (standing : system.thread thread = ⟨.acquiring ctx undo, []⟩)
      (found : system.ctx ctx = some record) :
      ReplyEffect system thread true
        (system.publish thread ctx system.device system.files record .idle [])
  | transitioned {ctx : ι} {undo : TransitionUndo} {record : FileCtx φ}
      (standing : system.thread thread = ⟨.transitioning ctx undo, []⟩)
      (found : system.ctx ctx = some record) :
      ReplyEffect system thread true
        (system.publish thread ctx system.device system.files record .idle [])
  | anchored {ctx : ι} {freshAnchor : Bool} {domainInode : Inode}
      {exclusiveProof : Option φ} {record : FileCtx φ}
      (standing : system.thread thread =
        ⟨.anchoring ctx freshAnchor domainInode exclusiveProof, []⟩)
      (found : system.ctx ctx = some record) :
      ReplyEffect system thread true
        (system.publish thread ctx system.device system.files record .idle
          (LeaseSystem.putFiles exclusiveProof.toList))
  | bound {ctx : ι} {undo : BindUndo φ} {record : FileCtx φ}
      (standing : system.thread thread = ⟨.binding ctx undo, []⟩)
      (found : system.ctx ctx = some record) :
      ReplyEffect system thread true
        (system.publish thread ctx system.device system.files record .idle
          (LeaseSystem.putFiles undo.locals))
  | unbound {ctx : ι} {detached : ProofBinding φ} {record : FileCtx φ}
      (standing : system.thread thread = ⟨.unbinding ctx detached, []⟩)
      (found : system.ctx ctx = some record) :
      ReplyEffect system thread true
        (system.publish thread ctx system.device system.files record .idle
          (LeaseSystem.putFiles detached.files))
  | undoAcquire {ctx : ι} {undo : AcquireUndo} {record : FileCtx φ}
      (standing : system.thread thread = ⟨.acquiring ctx undo, []⟩)
      (found : system.ctx ctx = some record) :
      ReplyEffect system thread false
        (system.publish thread ctx
          (mxLeaseAcquireUndo system.device record.lease undo).1 system.files
          { record with
            lease := (mxLeaseAcquireUndo system.device record.lease undo).2 }
          .idle [])
  | undoTransition {ctx : ι} {undo : TransitionUndo} {record : FileCtx φ}
      (standing : system.thread thread = ⟨.transitioning ctx undo, []⟩)
      (found : system.ctx ctx = some record) :
      ReplyEffect system thread false
        (system.publish thread ctx
          { system.device with
            state := (mxLeaseTransitionUndo system.device.state record.lease undo).1 }
          system.files
          { record with
            lease := (mxLeaseTransitionUndo system.device.state record.lease undo).2 }
          .idle [])
  | undoAnchor {ctx : ι} {freshAnchor : Bool} {domainInode : Inode}
      {exclusiveProof : Option φ} {record : FileCtx φ}
      (standing : system.thread thread =
        ⟨.anchoring ctx freshAnchor domainInode exclusiveProof, []⟩)
      (found : system.ctx ctx = some record) :
      ReplyEffect system thread false
        (system.publish thread ctx
          (mxLeaseAnchorSlotDomainUndo system.device freshAnchor domainInode)
          system.files record .idle
          (LeaseSystem.putFiles exclusiveProof.toList))
  | undoBind {ctx : ι} {installed : ProofBinding φ} {record : FileCtx φ}
      (standing : system.thread thread = ⟨.binding ctx (.committed installed), []⟩)
      (found : system.ctx ctx = some record) :
      ReplyEffect system thread false
        (system.publish thread ctx system.device system.files
          (mxLeaseBindProofsUndo record installed).1 .idle
          (LeaseSystem.putFiles (mxLeaseBindProofsUndo record installed).2))
  | undoKept {ctx : ι} {locals : List φ} {record : FileCtx φ}
      (standing : system.thread thread = ⟨.binding ctx (.kept locals), []⟩)
      (found : system.ctx ctx = some record) :
      ReplyEffect system thread false
        (system.publish thread ctx system.device system.files record .idle
          (LeaseSystem.putFiles locals))
  | undoUnbind {ctx : ι} {detached : ProofBinding φ} {record : FileCtx φ}
      (standing : system.thread thread = ⟨.unbinding ctx detached, []⟩)
      (found : system.ctx ctx = some record) :
      ReplyEffect system thread false
        (system.publish thread ctx system.device system.files
          (mxLeaseUnbindProofsUndo record detached).1 .idle
          (LeaseSystem.putFiles (mxLeaseUnbindProofsUndo record detached).2))

theorem LeaseSystem.replyCopied_effect {system next : LeaseSystem ι θ τ ν φ}
    {thread : θ} (stepped : system.replyCopied thread = some next) :
    ReplyEffect system thread true next := by
  obtain ⟨call, standing, stepped⟩ := Option.bind_eq_some_iff.mp stepped
  replace standing := at?_eq_some standing
  cases call <;> simp only [reduceCtorEq] at stepped
  case acquiring ctx undo =>
      obtain ⟨record, found, rfl⟩ := Option.map_eq_some_iff.mp stepped
      exact .acquired standing found
  case transitioning ctx undo =>
      obtain ⟨record, found, rfl⟩ := Option.map_eq_some_iff.mp stepped
      exact .transitioned standing found
  case anchoring ctx freshAnchor domainInode exclusiveProof =>
      obtain ⟨record, found, rfl⟩ := Option.map_eq_some_iff.mp stepped
      exact .anchored standing found
  case binding ctx undo =>
      obtain ⟨record, found, rfl⟩ := Option.map_eq_some_iff.mp stepped
      exact .bound standing found
  case unbinding ctx detached =>
      obtain ⟨record, found, rfl⟩ := Option.map_eq_some_iff.mp stepped
      exact .unbound standing found

theorem LeaseSystem.replyFaulted_effect {system next : LeaseSystem ι θ τ ν φ}
    {thread : θ} (stepped : system.replyFaulted thread = some next) :
    ReplyEffect system thread false next := by
  obtain ⟨call, standing, stepped⟩ := Option.bind_eq_some_iff.mp stepped
  replace standing := at?_eq_some standing
  cases call <;> simp only [reduceCtorEq] at stepped
  case acquiring ctx undo =>
      obtain ⟨record, found, rfl⟩ := Option.map_eq_some_iff.mp stepped
      exact .undoAcquire standing found
  case transitioning ctx undo =>
      obtain ⟨record, found, rfl⟩ := Option.map_eq_some_iff.mp stepped
      exact .undoTransition standing found
  case anchoring ctx freshAnchor domainInode exclusiveProof =>
      obtain ⟨record, found, rfl⟩ := Option.map_eq_some_iff.mp stepped
      exact .undoAnchor standing found
  case binding ctx undo =>
      cases undo <;> dsimp only at stepped
      case committed installed =>
          obtain ⟨record, found, rfl⟩ := Option.map_eq_some_iff.mp stepped
          exact .undoBind standing found
      case kept locals =>
          obtain ⟨record, found, rfl⟩ := Option.map_eq_some_iff.mp stepped
          exact .undoKept standing found
  case unbinding ctx detached =>
      obtain ⟨record, found, rfl⟩ := Option.map_eq_some_iff.mp stepped
      exact .undoUnbind standing found

end Replies

end MxDriver
