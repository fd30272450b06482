import MxDriver.LeaseDirect
import MxDriver.TransitionSystem

/-!
# Everything that happens to the lease of one device

The lease of a device is shared by its open files, by the transfers and BAR
mappings they have started, by the threads inside a call, and by user space,
which opens, closes and locks the files that the calls name.  This file puts
them into one transition system.  A step is one section under a lock or one
atomic operation on a counter; every order of steps is a run.

A thread's call stands between two of its sections; the thread's remaining
puts are done one after the other before it does anything else.
-/

namespace MxDriver

/-- The reference-counted objects. -/
inductive Ref (ι φ : Type*)
  | ctx (ctx : ι)
  | pdev
  | file (file : φ)
  deriving DecidableEq, Repr

/-- What a thread still has to do before its call returns. -/
inductive Todo (ι ν φ : Type*)
  | put (ref : Ref ι φ)
  | uncharge (vma : ν)
  deriving DecidableEq, Repr

/-- What a bind remembers of its locked section: the binding it stored, or the
files that are still its own. -/
inductive BindUndo (φ : Type*)
  | committed (installed : ProofBinding φ)
  | kept (locals : List φ)
  deriving DecidableEq, Repr

def BindUndo.locals {φ : Type*} : BindUndo φ → List φ
  | .committed _ => []
  | .kept locals => locals

/-- Where a thread stands. -/
inductive LeaseCall (ι φ : Type*)
  | idle
  | opening
  | acquiring (ctx : ι) (undo : AcquireUndo)
  | transitioning (ctx : ι) (undo : TransitionUndo)
  | anchoring (ctx : ι) (freshAnchor : Bool) (domainInode : Inode)
      (exclusiveProof : Option φ)
  | preparing (ctx : ι) (request : ProofsRequest) (bind : BindFiles φ)
  | binding (ctx : ι) (undo : BindUndo φ)
  | unbinding (ctx : ι) (detached : ProofBinding φ)
  | direct (ctx : ι)
  | mapping (ctx : ι)
  deriving DecidableEq, Repr

/-- The context whose file the call keeps open. -/
def LeaseCall.ctx? {ι φ : Type*} : LeaseCall ι φ → Option ι
  | .idle | .opening => none
  | .acquiring ctx _ | .transitioning ctx _ | .anchoring ctx _ _ _
  | .preparing ctx _ _ | .binding ctx _ | .unbinding ctx _
  | .direct ctx | .mapping ctx => some ctx

/-- The thread holds the lock of the BAR map. -/
def LeaseCall.isMapping {ι φ : Type*} : LeaseCall ι φ → Bool
  | .mapping _ => true
  | _ => false

structure LeaseThread (ι ν φ : Type*) where
  call : LeaseCall ι φ := .idle
  todo : List (Todo ι ν φ) := []
  deriving DecidableEq, Repr

/-- `attached` counts the device references of the registry and of the
character devices; `opened` tells which contexts an open file points to. -/
structure LeaseSystem (ι θ τ ν φ : Type*) where
  device : DeviceLease
  pdevRefs : Nat
  attached : Nat
  ctx : ι → Option (FileCtx φ)
  opened : ι → Bool
  transfer : τ → Option (TransferLease ι φ)
  vma : ν → Option (BarVma ι)
  files : FileTable φ
  thread : θ → LeaseThread ι ν φ
  warnings : List LeaseWarning

inductive LeaseAction (ι θ τ ν φ : Type*)
  | user (action : UserFileAction φ)
  | openGet (thread : θ)
  | openFinish (thread : θ) (ctx : ι) (cdev : CharDev) (allocated : Bool)
  | close (thread : θ) (ctx : ι)
  | acquire (thread : θ) (ctx : ι) (capable : Bool) (fds : Int → Option φ)
      (request : AcquireRequest)
  | transition (thread : θ) (ctx : ι) (capable : Bool)
      (request : TransitionRequest)
  | anchor (thread : θ) (ctx : ι) (capable : Bool) (fds : Int → Option φ)
      (clone : CloneResult φ) (request : SlotDomainRequest)
  | bind (thread : θ) (ctx : ι) (fds : Int → Option φ) (request : ProofsRequest)
  | bindLocked (thread : θ) (clones : BindClones φ)
  | unbind (thread : θ) (ctx : ι) (request : ProofsRequest)
  | replyCopied (thread : θ)
  | replyFaulted (thread : θ)
  | directBegin (thread : θ) (ctx : ι)
  | directEnd (thread : θ)
  | transferGet (thread : θ) (transfer : τ)
  | transferPut (thread : θ) (transfer : τ)
  | mmapCheck (thread : θ)
  | mmapCommit (thread : θ) (vma : ν)
  | mmapFail (thread : θ)
  | vmaOpen (vma : ν)
  | vmaClose (thread : θ) (vma : ν)
  | put (thread : θ)
  | remove
  | detach (thread : θ)

variable {ι θ τ ν φ : Type*}

/-- A live device before anybody opened it: the registry and the three
character devices hold it. -/
def LeaseSystem.start (incarnation : UInt64) : LeaseSystem ι θ τ ν φ where
  device := { deviceIncarnation := incarnation }
  pdevRefs := 4
  attached := 4
  ctx := fun _ => none
  opened := fun _ => false
  transfer := fun _ => none
  vma := fun _ => none
  files := { file := fun _ => none, locks := [] }
  thread := fun _ => {}
  warnings := []

namespace LeaseSystem

variable [DecidableEq ι] [DecidableEq θ] [DecidableEq τ] [DecidableEq ν]
  [DecidableEq φ]

variable (system : LeaseSystem ι θ τ ν φ)

/-- What a section of a call on one context can change. -/
def publish (thread : θ) (ctx : ι) (device : DeviceLease) (files : FileTable φ) (record : FileCtx φ)
    (call : LeaseCall ι φ) (todo : List (Todo ι ν φ)) : LeaseSystem ι θ τ ν φ :=
  { system with
    device := device
    files := files
    ctx := Function.update system.ctx ctx (some record)
    thread := Function.update system.thread thread ⟨call, todo⟩ }

/-- Where a thread stands that has nothing left to put. -/
def at? (thread : θ) : Option (LeaseCall ι φ) :=
  if (system.thread thread).todo = [] then some (system.thread thread).call
  else none

section Publish

variable {system : LeaseSystem ι θ τ ν φ} {thread : θ} {ctx : ι} {record : FileCtx φ}
  {device : DeviceLease} {files : FileTable φ} {call : LeaseCall ι φ}
  {todo : List (Todo ι ν φ)}

omit [DecidableEq τ] [DecidableEq ν] [DecidableEq φ]

theorem thread_publish :
    (system.publish thread ctx device files record call todo).thread thread = ⟨call, todo⟩ :=
  Function.update_self ..

@[simp]
theorem ctx_publish :
    (system.publish thread ctx device files record call todo).ctx ctx = some record :=
  Function.update_self ..

@[simp]
theorem call_publish :
    ((system.publish thread ctx device files record call todo).thread thread).call = call := by
  rw [thread_publish]

@[simp]
theorem at?_publish :
    (system.publish thread ctx device files record call []).at? thread = some call := by
  simp [at?, thread_publish]

@[simp]
theorem publish_publish {device' : DeviceLease} {files' : FileTable φ} {record' : FileCtx φ}
    {call' : LeaseCall ι φ} {todo' : List (Todo ι ν φ)} :
    (system.publish thread ctx device files record call todo).publish thread ctx device'
        files' record' call' todo' =
      system.publish thread ctx device' files' record' call' todo' := by
  simp [publish]

end Publish

/-- The context that an idle thread enters through an open file. -/
def enter (thread : θ) (ctx : ι) : Option (FileCtx φ) :=
  if system.at? thread = some .idle ∧ system.opened ctx = true then system.ctx ctx
  else none

/-- Drop references to files. -/
def putFiles (files : List φ) : List (Todo ι ν φ) :=
  files.map fun file => .put (.file file)

/-! ## Calls that publish and copy a reply -/

def acquire (thread : θ) (ctx : ι)
    (capable : Bool) (fds : Int → Option φ) (request : AcquireRequest) :
    Option (LeaseSystem ι θ τ ν φ) :=
  (system.enter thread ctx).map fun record =>
    let stateFile := system.files.describe (system.files.fget fds request.stateFd)
    match mxLeaseAcquireCheck record.cdev capable stateFile request, stateFile with
    | none, some file =>
      let outcome :=
        mxLeaseAcquireLocked system.device record.lease file.inode request
      system.publish thread ctx outcome.device system.files
        { record with lease := outcome.holder }
        (if outcome.ret = none then
          .acquiring ctx ⟨outcome.holder, outcome.freshAnchor,
            outcome.device.generation, file.inode⟩
        else .idle) []
    | _, _ => system

def transition (thread : θ) (ctx : ι)
    (capable : Bool) (request : TransitionRequest) : Option (LeaseSystem ι θ τ ν φ) :=
  (system.enter thread ctx).map fun record =>
    if mxLeaseTransitionCheck capable request = none then
      let outcome := mxLeaseTransitionLocked system.device record request
      system.publish thread ctx { system.device with state := outcome.sm }
        system.files { record with lease := outcome.holder }
        (if outcome.ret = none then
          .transitioning ctx
            ⟨system.device.state, outcome.sm, record.lease, outcome.holder⟩
        else .idle) []
    else system

def anchor (thread : θ) (ctx : ι) (capable : Bool) (fds : Int → Option φ) (clone : CloneResult φ)
    (request : SlotDomainRequest) : Option (LeaseSystem ι θ τ ν φ) :=
  (system.enter thread ctx).map fun record =>
    let domainFile :=
      system.files.describe (system.files.fget fds request.slotDomainFd)
    match mxLeaseAnchorSlotDomainCheck record.cdev capable domainFile request,
        domainFile with
    | none, some file =>
      let outcome := mxLeaseAnchorSlotDomainLocked system.device record
        system.files file.inode clone request
      system.publish thread ctx outcome.device outcome.files record
        (if outcome.ret = none then
          .anchoring ctx outcome.freshAnchor file.inode outcome.exclusiveProof
        else .idle) []
    | _, _ => system

/-- `mx_lease_workload_proofs` with a bind, up to the lock. -/
def bind (thread : θ) (ctx : ι)
    (fds : Int → Option φ) (request : ProofsRequest) : Option (LeaseSystem ι θ τ ν φ) :=
  (system.enter thread ctx).map fun record =>
    if mxLeaseWorkloadProofsCheck record.lease.profile request = none ∧
        request.operation = .bind then
      let looked := mxLeaseBindProofsFiles system.files fds record.lease.profile
        request
      system.publish thread ctx system.device
        (looked.2.locals.foldl FileTable.hold system.files) record
        (if looked.1 = none then .preparing ctx request looked.2 else .idle)
        (if looked.1 = none then [] else putFiles looked.2.locals)
    else system

def bindLocked (thread : θ) (clones : BindClones φ) : Option (LeaseSystem ι θ τ ν φ) :=
  match system.at? thread with
  | some (.preparing ctx request bind) =>
    (system.ctx ctx).map fun record =>
      let outcome := mxLeaseBindProofsLocked system.device record system.files
        request bind clones
      let locals := bind.locals ++ outcome.slotLockFile.toList ++
        outcome.lifetimeLockFile.toList
      system.publish thread ctx system.device outcome.files outcome.ctx
        (if outcome.ret = none then
          .binding ctx
            (if outcome.committed then
              .committed (newBinding request bind outcome.slotLockFile
                outcome.lifetimeLockFile)
            else .kept locals)
        else .idle)
        (if outcome.ret = none then [] else putFiles locals)
  | _ => none

/-- `mx_lease_workload_proofs` with an unbind. -/
def unbind (thread : θ) (ctx : ι) (request : ProofsRequest) : Option (LeaseSystem ι θ τ ν φ) :=
  (system.enter thread ctx).map fun record =>
    if mxLeaseWorkloadProofsCheck record.lease.profile request = none ∧
        request.operation = .unbind ∧ request.slotFd = -1 ∧
        request.lifetimeFd = -1 then
      let outcome := mxLeaseUnbindProofsLocked system.device record request
      system.publish thread ctx system.device system.files outcome.2
        (if outcome.1 = none then .unbinding ctx record.proofs else .idle) []
    else system

/-- The reply was copied out. -/
def replyCopied (thread : θ) : Option (LeaseSystem ι θ τ ν φ) :=
  (system.at? thread).bind fun call =>
    let done (ctx : ι) (files : List φ) : Option (LeaseSystem ι θ τ ν φ) :=
      (system.ctx ctx).map fun record =>
        system.publish thread ctx system.device system.files record .idle
          (putFiles files)
    match call with
    | .acquiring ctx _ | .transitioning ctx _ => done ctx []
    | .anchoring ctx _ _ exclusiveProof => done ctx exclusiveProof.toList
    | .binding ctx undo => done ctx undo.locals
    | .unbinding ctx detached => done ctx detached.files
    | _ => none

/-- The copy of the reply faulted: run the undo section of the call. -/
def replyFaulted (thread : θ) : Option (LeaseSystem ι θ τ ν φ) :=
  (system.at? thread).bind fun call =>
    match call with
    | .acquiring ctx undo =>
      (system.ctx ctx).map fun record =>
        let undone := mxLeaseAcquireUndo system.device record.lease undo
        system.publish thread ctx undone.1 system.files
          { record with lease := undone.2 } .idle []
    | .transitioning ctx undo =>
      (system.ctx ctx).map fun record =>
        let undone := mxLeaseTransitionUndo system.device.state record.lease undo
        system.publish thread ctx { system.device with state := undone.1 }
          system.files { record with lease := undone.2 } .idle []
    | .anchoring ctx freshAnchor domainInode exclusiveProof =>
      (system.ctx ctx).map fun record =>
        system.publish thread ctx
          (mxLeaseAnchorSlotDomainUndo system.device freshAnchor domainInode)
          system.files record .idle (putFiles exclusiveProof.toList)
    | .binding ctx (.committed installed) =>
      (system.ctx ctx).map fun record =>
        let undone := mxLeaseBindProofsUndo record installed
        system.publish thread ctx system.device system.files undone.1 .idle
          (putFiles undone.2)
    | .binding ctx (.kept locals) =>
      (system.ctx ctx).map fun record =>
        system.publish thread ctx system.device system.files record .idle
          (putFiles locals)
    | .unbinding ctx detached =>
      (system.ctx ctx).map fun record =>
        let undone := mxLeaseUnbindProofsUndo record detached
        system.publish thread ctx system.device system.files undone.1 .idle
          (putFiles undone.2)
    | _ => none

end LeaseSystem

end MxDriver
