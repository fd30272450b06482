import MxDriver.LeaseCounters
import MxDriver.Transcripts

/-!
# The lease policy

What `lease_sm.h` is for, said without its counters: a table of who holds the device and
as what, and whether a coordinator has prepared it.  A request is judged by looking at
the table.  Exclusive publishers want the device to themselves; a hub publisher may
come while workloads run and waits as a candidate; workloads are kept out while a
publisher is quiescent; callers without a profile and holders of a profile exclude each
other.
-/

namespace MxDriver

variable {ι θ : Type*}

/-- Who holds the device, and whether a coordinator has prepared it. -/
structure LeaseTable (ι : Type*) where
  holder : ι → LeaseSmHolder
  ready : Bool

namespace LeaseTable

/-- Somebody uses the device without a profile. -/
abbrev Unmanaged (table : LeaseTable ι) : Prop :=
  ∃ ctx, (table.holder ctx).Legacy

/-- Somebody holds a profile. -/
abbrev Held (table : LeaseTable ι) : Prop :=
  ∃ ctx, (table.holder ctx).Profiled

abbrev HeldByOther (table : LeaseTable ι) (family : LeaseFamily) : Prop :=
  ∃ ctx, (table.holder ctx).Profiled ∧
    mxLeaseProfileFamily (table.holder ctx).profile ≠ family

abbrev Published (table : LeaseTable ι) : Prop :=
  ∃ ctx, (table.holder ctx).Publishing

/-- A publisher has the device to itself. -/
abbrev Quiesced (table : LeaseTable ι) : Prop :=
  ∃ ctx, (table.holder ctx).InPhase .quiescent

abbrev Working (table : LeaseTable ι) : Prop :=
  ∃ ctx, (table.holder ctx).InPhase .workload

/-- The phase a publisher that prepares a coordinator comes to. -/
def prepare (drained anchored : Bool) : LeasePhase → Except Errno LeasePhase
  | .coordinatorPrepared => .ok .coordinatorPrepared
  | .quiescent =>
    if anchored = false then .error .enxio
    else if drained = false then .error .ebusy
    else .ok .coordinatorPrepared
  | _ => .error .einval

/-- The phase a quiescent publisher that starts to work comes to. -/
def activate (drained : Bool) : LeasePhase → Except Errno LeasePhase
  | .workload => .ok .workload
  | .quiescent => if drained = false then .error .ebusy else .ok .workload
  | _ => .error .einval

/-- The phase a candidate that works beside the others comes to. -/
def replace : LeasePhase → Except Errno LeasePhase
  | .replacementCandidate => .ok .workload
  | _ => .error .einval

section Decisions

variable [Fintype ι]

/-- The phase in which a newcomer starts. -/
def firstPhase (table : LeaseTable ι) : LeaseProfile → Except Errno LeasePhase
  | .standalonePublisher | .coordinatorInitializer =>
    if table.Held then .error .ebusy else .ok .quiescent
  | .hubPublisher =>
    if table.Published then .error .ebusy
    else .ok (if table.Held then .replacementCandidate else .quiescent)
  | .hubWorkload | .standaloneWorkload =>
    if table.Quiesced then .error .ebusy else .ok .workload
  | .coordinatorControl | .coordinatorWorkload =>
    if table.ready = false then .error .enxio
    else if table.Quiesced then .error .ebusy
    else .ok .workload
  | .none | .reserved _ => .error .einval

/-- The phase a candidate that wants the device to itself comes to. -/
def quiesce (table : LeaseTable ι) : LeasePhase → Except Errno LeasePhase
  | .quiescent => .ok .quiescent
  | .replacementCandidate => if table.Working then .error .ebusy else .ok .quiescent
  | _ => .error .einval

/-- The phase to which an operation takes a holder: only publishers move. -/
def nextPhase (table : LeaseTable ι) (holder : LeaseSmHolder)
    (operation : LeaseTransitionOp) (drained anchored : Bool) : Except Errno LeasePhase :=
  match holder.profile, operation with
  | .coordinatorInitializer, .activateCoordinator =>
    prepare drained anchored holder.phase
  | .hubPublisher, .tryQuiescent | .standalonePublisher, .tryQuiescent =>
    table.quiesce holder.phase
  | .hubPublisher, .activateWorkload =>
    if anchored = false then .error .enxio else activate drained holder.phase
  | .standalonePublisher, .activateWorkload => activate drained holder.phase
  | .hubPublisher, .activateReplacement =>
    if anchored = false then .error .enxio else replace holder.phase
  | .hubPublisher, _ | .standalonePublisher, _ | .coordinatorInitializer, _ =>
    .error .einval
  | _, _ => .error .eperm

variable [DecidableEq ι] (table : LeaseTable ι)

def put (ctx : ι) (holder : LeaseSmHolder) (ready : Bool) : LeaseTable ι where
  holder := Function.update table.holder ctx holder
  ready := ready

/-- A newcomer that would be an initializer takes the device out of service. -/
def acquire (ctx : ι) (profile : LeaseProfile) : Ret × LeaseTable ι :=
  if mxLeaseProfileFamily profile = .none then (some .einval, table)
  else if table.Unmanaged then (some .ebusy, table)
  else if (table.holder ctx).profile ≠ .none then
    (if (table.holder ctx).profile = profile then none else some .ealready, table)
  else if table.HeldByOther (mxLeaseProfileFamily profile) then (some .ebusy, table)
  else
    match table.firstPhase profile with
    | .error error => (some error, table)
    | .ok phase =>
      (none, table.put ctx { profile := profile, phase := phase }
        (if profile = .coordinatorInitializer then false else table.ready))

def transition (ctx : ι) (operation : LeaseTransitionOp)
    (drained anchored : Bool) : Ret × LeaseTable ι :=
  match table.nextPhase (table.holder ctx) operation drained anchored with
  | .error error => (some error, table)
  | .ok phase =>
    (none, table.put ctx { table.holder ctx with phase := phase }
      (if phase = .coordinatorPrepared then true else table.ready))

def release (ctx : ι) : LeaseTable ι :=
  table.put ctx {} table.ready

/-- Direct use needs an active phase; where nobody holds a profile it makes the caller
one that uses the device without. -/
def authorizeDirect (ctx : ι) : Ret × LeaseTable ι :=
  let holder := table.holder ctx
  if holder.profile ≠ .none then
    (if holder.phase = .quiescent ∨ holder.phase = .workload then none
      else some .eacces, table)
  else if holder.legacy = true then (none, table)
  else if table.Held then (some .ebusy, table)
  else (none, table.put ctx { legacy := true } table.ready)

/-- A device with an anchor takes no new caller without a profile. -/
def authorizeDirectAnchored (ctx : ι) (anchored : Bool) : Ret × LeaseTable ι :=
  if anchored = true ∧ (table.holder ctx).profile = .none ∧
      (table.holder ctx).legacy = false then (some .ebusy, table)
  else table.authorizeDirect ctx

/-- The caller brings its own count of direct calls, which is full at `U32_MAX`. -/
def admitDirect (ctx : ι) (anchored : Bool) (activeDirect : Nat) : Ret × LeaseTable ι :=
  if activeDirect = u32Max then (some .eoverflow, table)
  else table.authorizeDirectAnchored ctx anchored

end Decisions

end LeaseTable

/-- What a call remembers until its reply is copied: whom it moved and how, and for a
transition how many held the device and whether it was prepared. -/
inductive PolicyUndo (ι : Type*)
  | acquire (ctx : ι) (after : LeaseSmHolder)
  | transition (ctx : ι) (before after : LeaseSmHolder) (readyBefore readyAfter : Bool)
      (holders : Nat)

/-- The table and the calls that have not yet returned. -/
structure LeasePolicy (ι θ : Type*) where
  table : LeaseTable ι
  call : θ → Option (PolicyUndo ι)

/-- What is seen of a step: its return code, who holds the device afterwards, and
whether it is prepared. -/
structure LeaseAnswer (ι : Type*) where
  ret : Ret
  holder : ι → LeaseSmHolder
  ready : Bool

namespace LeasePolicy

def zero : LeasePolicy ι θ where
  table := { holder := fun _ => {}, ready := false }
  call := fun _ => none

def answer (policy : LeasePolicy ι θ) (ret : Ret) : LeaseAnswer ι where
  ret := ret
  holder := policy.table.holder
  ready := policy.table.ready

variable [Fintype ι] [DecidableEq ι] [DecidableEq θ]

/-- A call that succeeded is remembered. -/
def publish (policy : LeasePolicy ι θ) (thread : θ) (judged : Ret × LeaseTable ι)
    (undo : PolicyUndo ι) : LeasePolicy ι θ where
  table := judged.2
  call :=
    if judged.1 = none then Function.update policy.call thread (some undo)
    else policy.call

/-- A call whose reply is lost is taken back if nobody has gone on from it: its holder
stands where the call put it and, for a transition, as many hold the device and it is as
prepared as the call left it. -/
def undo (table : LeaseTable ι) : PolicyUndo ι → LeaseTable ι
  | .acquire ctx after => if table.holder ctx = after then table.release ctx else table
  | .transition ctx before after readyBefore readyAfter holders =>
    if table.holder ctx = after ∧ table.ready = readyAfter ∧
        tally LeaseSmHolder.Profiled table.holder = holders then
      table.put ctx before readyBefore
    else table

/-- One step of the policy. -/
def respond (policy : LeasePolicy ι θ) :
    SmAction ι θ → Option (LeaseAnswer ι × LeasePolicy ι θ)
  | .acquire thread ctx profile =>
    if policy.call thread ≠ none then none
    else
      let judged := policy.table.acquire ctx profile
      let next := policy.publish thread judged (.acquire ctx (judged.2.holder ctx))
      some (next.answer judged.1, next)
  | .transition thread ctx operation activeDirect activeTransfers barMappings
      slotDomainAnchored =>
    if policy.call thread ≠ none then none
    else
      let drained := activeDirect == 0 && activeTransfers == 0 && barMappings == 0
      let judged := policy.table.transition ctx operation drained slotDomainAnchored
      let next := policy.publish thread judged
        (.transition ctx (policy.table.holder ctx) (judged.2.holder ctx)
          policy.table.ready judged.2.ready
          (tally LeaseSmHolder.Profiled judged.2.holder))
      some (next.answer judged.1, next)
  | .release ctx =>
    let next := { policy with table := policy.table.release ctx }
    some (next.answer none, next)
  | .authorizeDirect ctx =>
    let judged := policy.table.authorizeDirect ctx
    let next := { policy with table := judged.2 }
    some (next.answer judged.1, next)
  | .authorizeDirectAnchored ctx anchored =>
    let judged := policy.table.authorizeDirectAnchored ctx anchored
    let next := { policy with table := judged.2 }
    some (next.answer judged.1, next)
  | .admitDirect ctx anchored activeDirect =>
    let judged := policy.table.admitDirect ctx anchored activeDirect
    let next := { policy with table := judged.2 }
    some (next.answer judged.1, next)
  | .replyCopied thread =>
    let next := { policy with call := Function.update policy.call thread none }
    some (next.answer none, next)
  | .replyFaulted thread =>
    (policy.call thread).map fun record =>
      let next : LeasePolicy ι θ :=
        { table := undo policy.table record
          call := Function.update policy.call thread none }
      (next.answer (some .efault), next)

end LeasePolicy

end MxDriver
