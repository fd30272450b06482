import MxDriver.IndexedTally
import MxDriver.LeaseDevice
import MxDriver.LeaseStateMachineEffects
import MxDriver.TransitionSystem

/-!
# Lease counters count the live holders

The state machine never walks its holders: every decision is taken on counters.
This file gives the interleavings of the lock-atomic lease steps over any
number of file contexts and threads, and proves that in each of them the
counters are the exact numbers of holders of each kind.  The two undo sections
that an ioctl runs when its reply could not be copied out are steps of their
own, taken at any later time with the snapshot the call kept.
-/

namespace MxDriver

variable {ι θ : Type*}

/-- What a running call keeps while its reply is copied out with the lock
released. -/
inductive UndoRecord (ι : Type*)
  | acquire (ctx : ι) (newHolder : LeaseSmHolder)
  | transition (ctx : ι) (undo : TransitionUndo)
  deriving DecidableEq

/-- The state machine of one device, the holder of every file context, and the
record of every thread whose call has published and not yet returned. -/
structure SmSystem (ι θ : Type*) where
  sm : LeaseSm
  holder : ι → LeaseSmHolder
  call : θ → Option (UndoRecord ι)

def SmSystem.zero : SmSystem ι θ where
  sm := {}
  holder := fun _ => {}
  call := fun _ => none

/-- The lock-atomic lease steps. -/
inductive SmAction (ι θ : Type*)
  | acquire (thread : θ) (ctx : ι) (profile : LeaseProfile)
  | transition (thread : θ) (ctx : ι) (operation : LeaseTransitionOp)
      (activeDirect activeTransfers barMappings : Nat)
      (slotDomainAnchored : Bool)
  | release (ctx : ι)
  | authorizeDirect (ctx : ι)
  | authorizeDirectAnchored (ctx : ι) (anchored : Bool)
  | admitDirect (ctx : ι) (anchored : Bool) (activeDirect : Nat)
  | replyCopied (thread : θ)
  | replyFaulted (thread : θ)

section Steps

variable [DecidableEq ι] [DecidableEq θ]

/-- Replace the state machine and the holder of one context. -/
def SmSystem.put (system : SmSystem ι θ) (ctx : ι) (sm : LeaseSm)
    (holder : LeaseSmHolder) : SmSystem ι θ :=
  { system with sm := sm, holder := Function.update system.holder ctx holder }

/-- A call that succeeded keeps its record until the reply is copied. -/
def SmSystem.publish (system : SmSystem ι θ) (thread : θ) (ctx : ι)
    (outcome : SmOutcome) (undo : UndoRecord ι) : SmSystem ι θ :=
  { system.put ctx outcome.sm outcome.holder with
    call :=
      if outcome.ret = none then Function.update system.call thread (some undo)
      else system.call }

/-- Run the undo section of a call whose reply could not be copied. -/
def SmSystem.undo (system : SmSystem ι θ) : UndoRecord ι → SmSystem ι θ
  | .acquire ctx newHolder =>
    let undone := undoAcquireSm system.sm (system.holder ctx) newHolder
    system.put ctx undone.1 undone.2
  | .transition ctx undo =>
    let undone := mxLeaseTransitionUndo system.sm (system.holder ctx) undo
    system.put ctx undone.1 undone.2

/-- One lock-atomic step; a thread runs one call at a time. -/
def smStep (system : SmSystem ι θ) : SmAction ι θ → Option (SmSystem ι θ)
  | .acquire thread ctx profile =>
    if system.call thread ≠ none then none
    else
      let outcome := mxLeaseSmAcquire system.sm (system.holder ctx) profile
      some (system.publish thread ctx outcome (.acquire ctx outcome.holder))
  | .transition thread ctx operation activeDirect activeTransfers barMappings
      slotDomainAnchored =>
    if system.call thread ≠ none then none
    else
      let outcome := mxLeaseSmTransition system.sm (system.holder ctx) operation
        activeDirect activeTransfers barMappings slotDomainAnchored
      some (system.publish thread ctx outcome
        (.transition ctx
          ⟨system.sm, outcome.sm, system.holder ctx, outcome.holder⟩))
  | .release ctx =>
    let released := mxLeaseSmRelease system.sm (system.holder ctx)
    some (system.put ctx released.1 released.2)
  | .authorizeDirect ctx =>
    let outcome := mxLeaseSmAuthorizeDirect system.sm (system.holder ctx)
    some (system.put ctx outcome.sm outcome.holder)
  | .authorizeDirectAnchored ctx anchored =>
    let outcome :=
      mxLeaseSmAuthorizeDirectAnchored system.sm (system.holder ctx) anchored
    some (system.put ctx outcome.sm outcome.holder)
  | .admitDirect ctx anchored activeDirect =>
    let outcome :=
      (mxLeaseSmAdmitDirect system.sm (system.holder ctx) anchored activeDirect).1
    some (system.put ctx outcome.sm outcome.holder)
  | .replyCopied thread =>
    some { system with call := Function.update system.call thread none }
  | .replyFaulted thread =>
    (system.call thread).map fun undo =>
      { system.undo undo with call := Function.update system.call thread none }

end Steps

/-! ## The invariant -/

abbrev LeaseSmHolder.Profiled (holder : LeaseSmHolder) : Prop :=
  holder.profile ≠ .none

abbrev LeaseSmHolder.Publishing (holder : LeaseSmHolder) : Prop :=
  mxLeaseProfileIsPublisher holder.profile = true

abbrev LeaseSmHolder.InPhase (phase : LeasePhase) (holder : LeaseSmHolder) : Prop :=
  holder.phase = phase

abbrev LeaseSmHolder.Legacy (holder : LeaseSmHolder) : Prop :=
  holder.legacy = true

/-- A holder is in a phase of its profile, and a legacy one has no profile. -/
structure HolderOk (holder : LeaseSmHolder) : Prop where
  phase : phaseAllowed holder.profile holder.phase = true
  legacy : holder.legacy = true → holder.profile = .none

/-- The counters of the state machine are those of the given holders. -/
structure CountersExact [Fintype ι] (sm : LeaseSm) (holder : ι → LeaseSmHolder) : Prop where
  holderOk : ∀ ctx, HolderOk (holder ctx)
  familyHolders : sm.familyHolders = tally LeaseSmHolder.Profiled holder
  publishers : sm.publishers = tally LeaseSmHolder.Publishing holder
  publishersLe : sm.publishers ≤ 1
  workloads : sm.workloads = tally (LeaseSmHolder.InPhase .workload) holder
  legacyHolders : sm.legacyHolders = tally LeaseSmHolder.Legacy holder
  quiescent : sm.quiescent = true ↔ ∃ ctx, (holder ctx).phase = .quiescent
  alone : sm.quiescent = true → sm.workloads = 0
  exclusive : sm.legacyHolders = 0 ∨ sm.familyHolders = 0
  familyOf : ∀ ctx, (holder ctx).Profiled →
    mxLeaseProfileFamily (holder ctx).profile = sm.family
  familyNone : sm.familyHolders = 0 → sm.family = .none
  ready : ∀ ctx, isCoordinatorRuntime (holder ctx).profile = true →
    sm.coordinatorReady = true
  familyBound : sm.familyHolders ≤ u32Max
  legacyBound : sm.legacyHolders ≤ u32Max

/-- What a kept transition record says about the step that made it. -/
def UndoRecord.Sound : UndoRecord ι → Prop
  | .acquire _ _ => True
  | .transition _ undo =>
    PublisherMove undo.oldState undo.oldHolder undo.newState undo.newHolder ∧
      mxLeaseProfileIsPublisher undo.oldHolder.profile = true ∧
      HolderOk undo.oldHolder ∧ undo.oldState.workloads ≤ u32Max ∧
      (undo.oldState.quiescent = true ↔ undo.oldHolder.phase = .quiescent) ∧
      (undo.oldState.quiescent = true → undo.oldState.workloads = 0)

end MxDriver
