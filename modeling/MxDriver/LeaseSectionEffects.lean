import MxDriver.LeaseDirect
import MxDriver.LeaseStateMachineEffects

/-!
# What a locked section can do

As for the state machine, each locked section of the lease calls is read once
here and what it can do is listed.
-/

namespace MxDriver

variable {φ : Type*}

/-- Everything that the locked section of an acquire can do. -/
inductive AcquireLockedEffect (device : DeviceLease) (holder : LeaseSmHolder)
    (stateInode : Inode) (request : AcquireRequest) : AcquireOutcome → Prop
  | refused (error : Errno) :
      AcquireLockedEffect device holder stateInode request
        ⟨some error, device, holder, false⟩
  | acquired {freshAnchor : Bool} {sm : LeaseSm} {newHolder : LeaseSmHolder}
      (anchor : mxLeaseAcquireAnchor device stateInode request = .ok freshAnchor)
      (outcome : mxLeaseSmAcquire device.state holder request.profile =
        ⟨none, sm, newHolder⟩) :
      AcquireLockedEffect device holder stateInode request
        ⟨none,
          if freshAnchor then
            ({ device with state := sm } : DeviceLease).anchorState stateInode request
          else { device with state := sm },
          newHolder, freshAnchor⟩

theorem mxLeaseAcquireLocked_effect (device : DeviceLease)
    (holder : LeaseSmHolder) (stateInode : Inode) (request : AcquireRequest) :
    AcquireLockedEffect device holder stateInode request
      (mxLeaseAcquireLocked device holder stateInode request) := by
  unfold mxLeaseAcquireLocked
  cases anchor : mxLeaseAcquireAnchor device stateInode request with
  | error error => exact .refused error
  | ok freshAnchor =>
    have effect := mxLeaseSmAcquire_effect device.state holder request.profile
    cases outcome : mxLeaseSmAcquire device.state holder request.profile with
    | mk ret sm newHolder =>
      rw [outcome] at effect
      cases ret with
      | none => exact .acquired anchor outcome
      | some error =>
        cases effect
        exact .refused error

/-- The first anchor is set only without one; later requests name the one in
place. -/
theorem mxLeaseAcquireAnchor_ok {device : DeviceLease} {stateInode : Inode}
    {request : AcquireRequest} {freshAnchor : Bool}
    (anchor : mxLeaseAcquireAnchor device stateInode request = .ok freshAnchor) :
    device.removed = false ∧ device.statePathValid = !freshAnchor ∧
      (freshAnchor = true → mxLeaseProfileIsPublisher request.profile = true) ∧
      (freshAnchor = false → device.stateFamily = mxLeaseProfileFamily request.profile ∧
        mxLeaseSmValidateAnchoredAcquire device.state device.stateFamily
          request.profile = none) := by
  unfold mxLeaseAcquireAnchor at anchor
  split at anchor
  · cases anchor
  rename_i live
  have live : device.removed = false := by simpa using live
  split at anchor
  · cases anchor
  split at anchor
  · rename_i bare
    split at anchor
    · cases anchor
    split at anchor
    · cases anchor
    rename_i publisher
    obtain rfl : true = freshAnchor := Except.ok.inj anchor
    simpa [live, bare] using publisher
  · rename_i anchored
    split at anchor
    · cases anchor
    split at anchor
    · cases anchor
    split at anchor
    · cases anchor
    split at anchor
    · cases anchor
    rename_i valid
    obtain rfl : false = freshAnchor := Except.ok.inj anchor
    refine ⟨live, by simpa using anchored, by simp, fun _ => ⟨?_, valid⟩⟩
    unfold mxLeaseSmValidateAnchoredAcquire at valid
    dsimp only at valid
    split at valid
    · cases valid
    rename_i family
    exact (by simpa using family : device.stateFamily ≠ .none ∧ _).2

/-- The locked section of a transition passes the counts and the slot-domain
anchor of its context on. -/
theorem mxLeaseTransitionLocked_effect (device : DeviceLease) (ctx : FileCtx φ)
    (request : TransitionRequest) :
    TransitionEffect device.state ctx.lease ctx.directCount ctx.transferCount
      ctx.barMappingCount
      (device.slotDomainPathValid && device.slotDomainInode.isSome)
      (mxLeaseTransitionLocked device ctx request) := by
  unfold mxLeaseTransitionLocked
  split
  · exact .refused _
  split
  · exact .refused _
  exact mxLeaseSmTransition_effect ..

/-- A description of the driver's own that was locked without waiting. -/
inductive Pinned [DecidableEq φ] (files : FileTable φ) (type : LockType)
    (start stop : Nat) (inode : Inode) : φ → FileTable φ → Prop
  | mk {file : φ} {locks : LockTable φ Inode}
      (free : files.file file = none)
      (granted : files.locks.grant ⟨file, inode, type, start, stop⟩ = some locks) :
      Pinned files type start stop inode file
        { files.clone file inode with locks := locks }

section Files

variable [DecidableEq φ]

theorem mxLeaseCloneWithOfdLock_ok {files next : FileTable φ} {source : Inode}
    {clone : CloneResult φ} {type : LockType} {start stop : Nat} {file : φ}
    (cloned : mxLeaseCloneWithOfdLock files source clone type start stop =
      .ok (file, next)) : Pinned files type start stop source file next := by
  unfold mxLeaseCloneWithOfdLock at cloned
  split at cloned
  · cases cloned
  split at cloned
  · cases cloned
  split at cloned
  · cases cloned
  split at cloned
  · cases cloned
  rename_i free sameInode _ locks granted
  obtain ⟨rfl, rfl⟩ : _ ∧ _ := by simpa using cloned
  obtain rfl := not_not.mp sameInode
  exact .mk (not_not.mp free) granted

theorem Pinned.driverRefs {files next : FileTable φ} {type : LockType}
    {start stop : Nat} {inode : Inode} {file : φ}
    (pinned : Pinned files type start stop inode file next) (other : φ) :
    next.driverRefs other = files.driverRefs other + if other = file then 1 else 0 := by
  cases pinned with
  | mk free granted => exact FileTable.driverRefs_clone files free inode other

/-- Everything that the locked section of a slot-domain anchor can do. -/
inductive SlotDomainEffect (device : DeviceLease) (ctx : FileCtx φ)
    (files : FileTable φ) (domainInode : Inode) : SlotDomainOutcome φ → Prop
  | refused (error : Errno) :
      SlotDomainEffect device ctx files domainInode
        ⟨some error, device, files, none, false⟩
  | kept (anchored : device.slotDomainPathValid = true) :
      SlotDomainEffect device ctx files domainInode
        ⟨none, device, files, none, false⟩
  | anchored {exclusiveProof : φ} {locked : FileTable φ}
      (bare : device.slotDomainPathValid = false)
      (valid : mxLeaseSmValidateSlotDomainAnchor ctx.lease device.stateFamily
        (device.statePathValid && device.stateInode.isSome) ctx.directCount
        ctx.transferCount ctx.barMappingCount false false = none)
      (pinned : Pinned files .write 0 offsetMax domainInode exclusiveProof locked) :
      SlotDomainEffect device ctx files domainInode
        ⟨none,
          { device with
            slotDomainPathValid := true
            slotDomainInode := some domainInode },
          locked, some exclusiveProof, true⟩

theorem mxLeaseAnchorSlotDomainLocked_effect (device : DeviceLease)
    (ctx : FileCtx φ) (files : FileTable φ) (domainInode : Inode)
    (clone : CloneResult φ) (request : SlotDomainRequest) :
    SlotDomainEffect device ctx files domainInode
      (mxLeaseAnchorSlotDomainLocked device ctx files domainInode clone request) := by
  unfold mxLeaseAnchorSlotDomainLocked
  dsimp only
  split
  · exact .refused _
  split
  · exact .refused _
  split
  · exact .refused _
  split
  · exact .refused _
  rename_i valid
  split
  · exact .refused _
  split
  · rename_i anchored
    exact .kept anchored
  rename_i bare
  have bare : device.slotDomainPathValid = false := by simpa using bare
  split
  · exact .refused _
  rename_i exclusiveProof locked cloned
  exact .anchored bare (by simpa [bare] using valid) (mxLeaseCloneWithOfdLock_ok cloned)

end Files

end MxDriver
