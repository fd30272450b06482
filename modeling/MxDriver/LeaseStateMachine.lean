import Mathlib.Algebra.Group.Nat.Defs
import MxDriver.ErrorNumbers

/-!
# The lease state machine

`lease_sm.h` decides who may use a device: it keeps counters of the live
holders of one profile family, and a phase for each holder.  The functions here
follow that header one for one.  Enumerations are the `u32` values of the
userspace ABI, so every type has a constructor for the values that the ABI
gives no name; counters are `u32` and wrap.

A C function that writes through its pointer arguments and returns a code
becomes a function that returns the code together with the new values, so that
a refused call could still be seen to have written something.
-/

namespace MxDriver

/-- `MX_SM_U32_MAX`. -/
def u32Max : Nat := 2 ^ 32 - 1

/-- `counter++` on a `u32`. -/
def incU32 (counter : Nat) : Nat := (counter + 1) % 2 ^ 32

theorem incU32_of_ne_max {counter : Nat} (bounded : counter ≤ u32Max)
    (notMax : counter ≠ u32Max) : incU32 counter = counter + 1 := by
  unfold incU32
  unfold u32Max at bounded notMax
  omega

/-- `enum mx_lease_profile`, with the `u32` values above the last profile. -/
inductive LeaseProfile
  | none
  | hubPublisher
  | hubWorkload
  | standalonePublisher
  | standaloneWorkload
  | coordinatorInitializer
  | coordinatorControl
  | coordinatorWorkload
  | reserved (code : { code : UInt32 // 7 < code })
  deriving DecidableEq, Repr

/-- `enum mx_lease_family`, with the `u32` values above the last family. -/
inductive LeaseFamily
  | none
  | hub
  | standalone
  | coordinator
  | reserved (code : { code : UInt32 // 3 < code })
  deriving DecidableEq, Repr

/-- `enum mx_lease_phase`, with the `u32` values above the last phase. -/
inductive LeasePhase
  | none
  | quiescent
  | replacementCandidate
  | workload
  | coordinatorPrepared
  | reserved (code : { code : UInt32 // 4 < code })
  deriving DecidableEq, Repr

/-- `enum mx_lease_transition_op`, with the `u32` values above the last one. -/
inductive LeaseTransitionOp
  | none
  | tryQuiescent
  | activateWorkload
  | activateReplacement
  | activateCoordinator
  | reserved (code : { code : UInt32 // 4 < code })
  deriving DecidableEq, Repr

/-- `struct mx_lease_sm`. -/
structure LeaseSm where
  family : LeaseFamily := .none
  familyHolders : Nat := 0
  publishers : Nat := 0
  workloads : Nat := 0
  legacyHolders : Nat := 0
  quiescent : Bool := false
  coordinatorReady : Bool := false
  deriving DecidableEq, Repr

/-- `struct mx_lease_sm_holder`. -/
structure LeaseSmHolder where
  profile : LeaseProfile := .none
  phase : LeasePhase := .none
  legacy : Bool := false
  deriving DecidableEq, Repr

/-- What a state-machine call returns and leaves behind its two pointers. -/
structure SmOutcome where
  ret : Ret
  sm : LeaseSm
  holder : LeaseSmHolder
  deriving DecidableEq, Repr

def mxLeaseProfileIsPublisher : LeaseProfile → Bool
  | .hubPublisher | .standalonePublisher | .coordinatorInitializer => true
  | _ => false

def mxLeaseProfileFamily : LeaseProfile → LeaseFamily
  | .hubPublisher | .hubWorkload => .hub
  | .standalonePublisher | .standaloneWorkload => .standalone
  | .coordinatorInitializer | .coordinatorControl | .coordinatorWorkload =>
    .coordinator
  | .none | .reserved _ => .none

/-- `MX_LEASE_LIFETIME_OFD_FLAG`. -/
def leaseLifetimeOfdFlag : Nat := 2 ^ 32

/-- `MX_LEASE_MAX_WORKLOAD_SLOT`. -/
def leaseMaxWorkloadSlot : Nat := 4095

/-- The tag is zero, or the flag bit with a slot number in the low twelve. -/
def mxLeaseSmValidLifetimeTag (profile : LeaseProfile) (tag : Nat) : Bool :=
  if tag = 0 then true
  else profile == .coordinatorWorkload &&
    (tag &&& leaseLifetimeOfdFlag != 0) &&
    (tag &&& (2 ^ 64 - 1 - (leaseLifetimeOfdFlag ||| leaseMaxWorkloadSlot)) == 0)

variable (sm : LeaseSm)

def mxLeaseSmIdle : Bool :=
  sm.familyHolders == 0 && sm.publishers == 0 && sm.workloads == 0 &&
    !sm.quiescent

def mxLeaseSmValidateAnchoredAcquire (stateFamily : LeaseFamily) (profile : LeaseProfile) : Ret :=
  let requestedFamily := mxLeaseProfileFamily profile
  if stateFamily = .none ∨ stateFamily ≠ requestedFamily then some .ebusy
  else if mxLeaseSmIdle sm = true ∧ mxLeaseProfileIsPublisher profile = false ∧
      ¬ (stateFamily = .coordinator ∧ sm.coordinatorReady = true) then
    some .enxio
  else none

/-- The `switch` of `mx_lease_sm_acquire`: the phase a newcomer starts in, or
the reason it is refused. -/
def mxLeaseSmAcquirePhase : LeaseProfile → Except Errno LeasePhase
  | .coordinatorInitializer | .standalonePublisher =>
    if sm.publishers ≠ 0 ∨ sm.quiescent = true ∨ sm.workloads ≠ 0 then
      .error .ebusy
    else .ok .quiescent
  | .coordinatorControl | .coordinatorWorkload =>
    if sm.coordinatorReady = false then .error .enxio
    else if sm.quiescent = true ∨ sm.workloads = u32Max then
      .error (if sm.quiescent then .ebusy else .eoverflow)
    else .ok .workload
  | .hubPublisher =>
    if sm.publishers ≠ 0 ∨ sm.quiescent = true then .error .ebusy
    else .ok (if sm.workloads ≠ 0 then .replacementCandidate else .quiescent)
  | .hubWorkload | .standaloneWorkload =>
    if sm.quiescent = true ∨ sm.workloads = u32Max then
      .error (if sm.quiescent then .ebusy else .eoverflow)
    else .ok .workload
  | .none | .reserved _ => .error .einval

/-- The assignments after the `switch` of `mx_lease_sm_acquire`. -/
def mxLeaseSmAcquireCommit (profile : LeaseProfile) (phase : LeasePhase) : LeaseSm :=
  { family :=
      if sm.familyHolders = 0 then mxLeaseProfileFamily profile else sm.family
    familyHolders := incU32 sm.familyHolders
    publishers :=
      if mxLeaseProfileIsPublisher profile then incU32 sm.publishers
      else sm.publishers
    workloads := if phase = .workload then incU32 sm.workloads else sm.workloads
    legacyHolders := sm.legacyHolders
    quiescent := if phase = .quiescent then true else sm.quiescent
    coordinatorReady :=
      if profile = .coordinatorInitializer then false else sm.coordinatorReady }

variable (holder : LeaseSmHolder)

def mxLeaseSmAcquire (profile : LeaseProfile) : SmOutcome :=
  let family := mxLeaseProfileFamily profile
  if family = .none then ⟨some .einval, sm, holder⟩
  else if holder.legacy = true ∨ sm.legacyHolders ≠ 0 then
    ⟨some .ebusy, sm, holder⟩
  else if holder.profile ≠ .none then
    ⟨if holder.profile = profile then none else some .ealready, sm, holder⟩
  else if sm.family ≠ .none ∧ sm.family ≠ family then ⟨some .ebusy, sm, holder⟩
  else if sm.familyHolders = u32Max then ⟨some .eoverflow, sm, holder⟩
  else
    match mxLeaseSmAcquirePhase sm profile with
    | .error error => ⟨some error, sm, holder⟩
    | .ok phase =>
      ⟨none, mxLeaseSmAcquireCommit sm profile phase,
        { holder with profile := profile, phase := phase }⟩

/-- The branch of `mx_lease_sm_transition` for a coordinator initializer. -/
def mxLeaseSmTransitionInitializer
    (operation : LeaseTransitionOp) (activeDirect activeTransfers barMappings : Nat)
    (slotDomainAnchored : Bool) : SmOutcome :=
  if operation ≠ .activateCoordinator then ⟨some .einval, sm, holder⟩
  else if holder.phase = .coordinatorPrepared then
    ⟨if sm.coordinatorReady then none else some .euclean, sm, holder⟩
  else if holder.phase ≠ .quiescent then ⟨some .einval, sm, holder⟩
  else if slotDomainAnchored = false then ⟨some .enxio, sm, holder⟩
  else if activeDirect ≠ 0 ∨ activeTransfers ≠ 0 ∨ barMappings ≠ 0 then
    ⟨some .ebusy, sm, holder⟩
  else if sm.quiescent = false then ⟨some .euclean, sm, holder⟩
  else
    ⟨none, { sm with quiescent := false, coordinatorReady := true },
      { holder with phase := .coordinatorPrepared }⟩

/-- The final `switch` of `mx_lease_sm_transition`. -/
def mxLeaseSmTransitionSwitch :
    LeaseTransitionOp → SmOutcome
  | .tryQuiescent =>
    if holder.phase = .quiescent then ⟨none, sm, holder⟩
    else if holder.phase ≠ .replacementCandidate then ⟨some .einval, sm, holder⟩
    else if sm.workloads ≠ 0 ∨ sm.quiescent = true then
      ⟨some .ebusy, sm, holder⟩
    else
      ⟨none, { sm with quiescent := true }, { holder with phase := .quiescent }⟩
  | .activateWorkload =>
    if holder.phase = .workload then ⟨none, sm, holder⟩
    else if holder.phase ≠ .quiescent then ⟨some .einval, sm, holder⟩
    else if sm.workloads = u32Max then ⟨some .eoverflow, sm, holder⟩
    else if sm.quiescent = false then ⟨some .euclean, sm, holder⟩
    else
      ⟨none, { sm with quiescent := false, workloads := incU32 sm.workloads },
        { holder with phase := .workload }⟩
  | .activateReplacement =>
    if holder.profile ≠ .hubPublisher ∨
        holder.phase ≠ .replacementCandidate then ⟨some .einval, sm, holder⟩
    else if sm.workloads = u32Max then ⟨some .eoverflow, sm, holder⟩
    else
      ⟨none, { sm with workloads := incU32 sm.workloads },
        { holder with phase := .workload }⟩
  | .none | .activateCoordinator | .reserved _ => ⟨some .einval, sm, holder⟩

def mxLeaseSmTransition (operation : LeaseTransitionOp)
    (activeDirect activeTransfers barMappings : Nat) (slotDomainAnchored : Bool) : SmOutcome :=
  if mxLeaseProfileIsPublisher holder.profile = false ∨ holder.legacy = true then
    ⟨some .eperm, sm, holder⟩
  else if holder.profile = .coordinatorInitializer then
    mxLeaseSmTransitionInitializer sm holder operation activeDirect
      activeTransfers barMappings slotDomainAnchored
  else if holder.profile = .hubPublisher ∧
      (operation = .activateWorkload ∨ operation = .activateReplacement) ∧
      slotDomainAnchored = false then ⟨some .enxio, sm, holder⟩
  else if operation = .activateWorkload ∧ holder.phase = .quiescent ∧
      (activeDirect ≠ 0 ∨ activeTransfers ≠ 0 ∨ barMappings ≠ 0) then
    ⟨some .ebusy, sm, holder⟩
  else mxLeaseSmTransitionSwitch sm holder operation

/-- The counters after a profiled holder has left, in `mx_lease_sm_release`. -/
def mxLeaseSmReleaseCommit : LeaseSm :=
  { family := if sm.familyHolders - 1 = 0 then .none else sm.family
    familyHolders := sm.familyHolders - 1
    publishers :=
      if mxLeaseProfileIsPublisher holder.profile then sm.publishers - 1
      else sm.publishers
    workloads :=
      if holder.phase = .workload then sm.workloads - 1 else sm.workloads
    legacyHolders := sm.legacyHolders
    quiescent := if holder.phase = .quiescent then false else sm.quiescent
    coordinatorReady := sm.coordinatorReady }

/-- Every decrement is guarded by `if (counter)`, which is what natural-number
subtraction does. -/
def mxLeaseSmRelease : LeaseSm × LeaseSmHolder :=
  if holder.legacy then
    ({ sm with legacyHolders := sm.legacyHolders - 1 },
      { holder with legacy := false })
  else if holder.profile = .none then (sm, holder)
  else
    (mxLeaseSmReleaseCommit sm holder,
      { holder with profile := .none, phase := .none })

def mxLeaseSmAuthorizeDirect : SmOutcome :=
  if holder.profile ≠ .none then
    if holder.phase = .replacementCandidate then ⟨some .eacces, sm, holder⟩
    else
      ⟨if holder.phase = .quiescent ∨ holder.phase = .workload then none
        else some .eacces, sm, holder⟩
  else if holder.legacy then ⟨none, sm, holder⟩
  else if mxLeaseSmIdle sm = false then ⟨some .ebusy, sm, holder⟩
  else if sm.legacyHolders = u32Max then ⟨some .eoverflow, sm, holder⟩
  else
    ⟨none, { sm with legacyHolders := incU32 sm.legacyHolders },
      { holder with legacy := true }⟩

def mxLeaseSmAuthorizeDirectAnchored (anchored : Bool) : SmOutcome :=
  if anchored = true ∧ holder.profile = .none ∧ holder.legacy = false then
    ⟨some .ebusy, sm, holder⟩
  else mxLeaseSmAuthorizeDirect sm holder

/-- The second component is the new value of `*active_direct`. -/
def mxLeaseSmAdmitDirect (anchored : Bool) (activeDirect : Nat) : SmOutcome × Nat :=
  if activeDirect = u32Max then (⟨some .eoverflow, sm, holder⟩, activeDirect)
  else
    let admitted := mxLeaseSmAuthorizeDirectAnchored sm holder anchored
    if admitted.ret ≠ none then (admitted, activeDirect)
    else (admitted, incU32 activeDirect)

def mxLeaseSmReleaseDirect (activeDirect : Nat) : Nat :=
  if activeDirect ≠ 0 then activeDirect - 1 else activeDirect

/-- Releasing takes an admission back. -/
theorem mxLeaseSmReleaseDirect_incU32 {activeDirect : Nat} (bounded : activeDirect ≤ u32Max)
    (room : activeDirect ≠ u32Max) :
    mxLeaseSmReleaseDirect (incU32 activeDirect) = activeDirect := by
  rw [incU32_of_ne_max bounded room]
  simp [mxLeaseSmReleaseDirect]

def mxLeaseSmValidateSlotDomainAnchor (stateFamily : LeaseFamily) (stateAnchored : Bool)
    (activeDirect activeTransfers barMappings : Nat) (domainAnchored sameInode : Bool) : Ret :=
  if holder.profile = .coordinatorInitializer then
    if holder.phase ≠ .quiescent ∨ stateFamily ≠ .coordinator ∨
        stateAnchored = false then some .eacces
    else if activeDirect ≠ 0 ∨ activeTransfers ≠ 0 ∨ barMappings ≠ 0 then
      some .ebusy
    else if domainAnchored = true ∧ sameInode = false then some .exdev
    else none
  else if holder.profile ≠ .hubPublisher ∨
      (holder.phase ≠ .quiescent ∧ holder.phase ≠ .replacementCandidate) ∨
      stateFamily ≠ .hub ∨ stateAnchored = false then some .eacces
  else if activeDirect ≠ 0 ∨ activeTransfers ≠ 0 ∨ barMappings ≠ 0 then
    some .ebusy
  else if domainAnchored = true ∧ sameInode = false then some .exdev
  else none

def mxLeaseSmValidateProofs (profile : LeaseProfile)
    (everBound slotBound lifetimeBound : Bool) : Ret :=
  if (profile = .coordinatorControl ∨
      (everBound = true ∧ profile = .hubWorkload)) ∧ slotBound = false then
    some .eacces
  else if (profile = .coordinatorWorkload ∨
      (everBound = true ∧ profile = .standaloneWorkload)) ∧
      lifetimeBound = false then
    some .eacces
  else none

end MxDriver
