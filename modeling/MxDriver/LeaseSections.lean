import MxDriver.LeaseReferences
import MxDriver.LeaseStepEffects

/-!
# Every section hands its references on

A section of a lease call moves file references between the context, the call
and the puts that are left to do, and takes new ones only by opening a
description or looking one up.
-/

namespace MxDriver

variable {ι θ τ ν φ : Type*}

/-- A lifetime source is never bound without the lifetime proof. -/
def ProofBinding.Complete (proofs : ProofBinding φ) : Prop :=
  proofs.lifetimeSourceFile ≠ none → proofs.lifetimeProofFile ≠ none

theorem ProofBinding.complete_empty : ({} : ProofBinding φ).Complete :=
  fun source => (source rfl).elim

@[simp]
theorem ProofBinding.files_empty : ({} : ProofBinding φ).files = [] :=
  rfl

theorem ProofBinding.files_eq_nil {proofs : ProofBinding φ} (complete : proofs.Complete)
    (unbound : proofs.slotSourceFile = none ∧ proofs.slotProofFile = none ∧
      proofs.lifetimeProofFile = none) : proofs.files = [] := by
  obtain ⟨slotSource, slotProof, lifetimeProof⟩ := unbound
  have lifetimeSource : proofs.lifetimeSourceFile = none := by
    by_contra source
    exact complete source lifetimeProof
  simp [ProofBinding.files, slotSource, slotProof, lifetimeProof, lifetimeSource]

section Sections

variable [DecidableEq φ]

/-- The four locals of a bind are the four files of the binding it stores. -/
theorem count_newBinding_files (request : ProofsRequest) (bind : BindFiles φ)
    {slotLockFile lifetimeLockFile : Option φ}
    (lifetimeLocked : lifetimeLockFile.isSome = (request.reserved.1 != 0)) (file : φ) :
    (newBinding request bind slotLockFile lifetimeLockFile).files.count file =
      (bind.locals ++ slotLockFile.toList ++ lifetimeLockFile.toList).count file := by
  by_cases tagged : request.reserved.1 = 0
  · have noLock : lifetimeLockFile = none := by simpa [tagged] using lifetimeLocked
    simp [ProofBinding.files, newBinding, BindFiles.locals, tagged, noLock]
    omega
  · simp [ProofBinding.files, newBinding, BindFiles.locals, tagged]
    omega

theorem ProofBinding.files_of_sameFiles {proofs other : ProofBinding φ}
    (same : proofs.sameFiles other = true) : proofs.files = other.files := by
  simp only [ProofBinding.sameFiles, Bool.and_eq_true, beq_iff_eq] at same
  obtain ⟨⟨⟨slotSource, slotProof⟩, lifetimeSource⟩, lifetimeProof⟩ := same
  simp [ProofBinding.files, slotSource, slotProof, lifetimeSource, lifetimeProof]

omit [DecidableEq φ] in
theorem newBinding_complete (request : ProofsRequest) (bind : BindFiles φ)
    {slotLockFile lifetimeLockFile : Option φ}
    (lifetimeLocked : lifetimeLockFile.isSome = (request.reserved.1 != 0)) :
    (newBinding request bind slotLockFile lifetimeLockFile).Complete := by
  intro source noProof
  by_cases tagged : request.reserved.1 = 0
  · simp [newBinding, tagged] at source
  · have noLock : lifetimeLockFile = none := by simpa [newBinding, tagged] using noProof
    simp [noLock, tagged] at lifetimeLocked

variable [DecidableEq ι] [DecidableEq θ]
variable {system next : LeaseSystem ι θ τ ν φ} {action : LeaseAction ι θ τ ν φ}

theorem IsSection.silent {thread : θ} {ctx : ι} {record newRecord : FileCtx φ}
    {call newCall : LeaseCall ι φ} {device : DeviceLease} {files : FileTable φ}
    (standing : system.thread thread = ⟨call, []⟩) (found : system.ctx ctx = some record)
    (entered : call = .idle ∧ system.opened ctx = true ∨ call.ctx? = some ctx)
    (outside : call.directCtx? = none ∧ newCall.directCtx? = none)
    (stays : newCall = .idle ∨ newCall.ctx? = some ctx) (counts : SameCounts record newRecord)
    (balance : ∀ file,
      files.driverRefs file + (record.proofs.files ++ call.files).count file =
        system.files.driverRefs file +
          (newRecord.proofs.files ++ newCall.files).count file) :
    IsSection system (system.publish thread ctx device files newRecord newCall []) := by
  have unput : IsSection system (system.publish thread ctx device files
      newRecord newCall (LeaseSystem.putFiles [])) :=
    .mk standing found entered outside stays counts
      fun file => by rw [balance file, List.append_nil]
  exact unput

theorem IsSection.plain {thread : θ} {ctx : ι} {record newRecord : FileCtx φ}
    {call newCall : LeaseCall ι φ} {device : DeviceLease}
    (standing : system.thread thread = ⟨call, []⟩) (found : system.ctx ctx = some record)
    (entered : call = .idle ∧ system.opened ctx = true ∨ call.ctx? = some ctx)
    (outside : call.directCtx? = none ∧ newCall.directCtx? = none)
    (stays : newCall = .idle ∨ newCall.ctx? = some ctx) (counts : SameCounts record newRecord)
    (proofs : newRecord.proofs = record.proofs) (files : newCall.files = call.files) :
    IsSection system (system.publish thread ctx device system.files newRecord newCall []) :=
  .silent standing found entered outside stays counts
    fun file => by rw [proofs, files]

theorem IsSection.returned {thread : θ} {ctx : ι} {record : FileCtx φ}
    {call : LeaseCall ι φ} {device : DeviceLease} (standing : system.thread thread = ⟨call, []⟩)
    (found : system.ctx ctx = some record)
    (entered : call.ctx? = some ctx) (outside : call.directCtx? = none) :
    IsSection system
      (system.publish thread ctx device system.files record .idle
        (LeaseSystem.putFiles call.files)) :=
  .mk standing found (.inr entered) ⟨outside, rfl⟩ (.inl rfl) .rfl
    (by simp [LeaseCall.files])

theorem ReplyEffect.isSection {thread : θ} {copied : Bool}
    (effect : ReplyEffect system thread copied next) : IsSection system next := by
  cases effect with
  | acquired standing found | transitioned standing found =>
    exact .plain standing found (.inr rfl) ⟨rfl, rfl⟩ (.inl rfl) .rfl rfl rfl
  | anchored standing found | bound standing found | unbound standing found
  | undoAnchor standing found | undoKept standing found =>
    exact .returned standing found rfl rfl
  | undoAcquire standing found | undoTransition standing found =>
    exact .plain standing found (.inr rfl) ⟨rfl, rfl⟩ (.inl rfl)
      ⟨rfl, rfl, rfl, rfl⟩ rfl rfl
  | undoBind standing found =>
    simp only [mxLeaseBindProofsUndo]
    split
    · rename_i same
      refine .mk standing found (.inr rfl) ⟨rfl, rfl⟩ (.inl rfl)
        ⟨rfl, rfl, rfl, rfl⟩ fun file => ?_
      simp [ProofBinding.files_of_sameFiles same, LeaseCall.files, BindUndo.locals]
    · exact .mk standing found (.inr rfl) ⟨rfl, rfl⟩ (.inl rfl) .rfl
        fun file => by simp [LeaseCall.files, BindUndo.locals]
  | undoUnbind standing found =>
    simp only [mxLeaseUnbindProofsUndo]
    split
    · rename_i same
      refine .mk standing found (.inr rfl) ⟨rfl, rfl⟩ (.inl rfl)
        ⟨rfl, rfl, rfl, rfl⟩ fun file => ?_
      simp [ProofBinding.files_of_sameFiles same, LeaseCall.files]
    · exact .mk standing found (.inr rfl) ⟨rfl, rfl⟩ (.inl rfl) .rfl
        fun file => by simp [LeaseCall.files]

theorem CallEffect.isSection
    (complete : ∀ ctx record, system.ctx ctx = some record → record.proofs.Complete)
    (effect : CallEffect system action next) : next = system ∨ IsSection system next := by
  cases effect with
  | refused => exact .inl rfl
  | copied effect | faulted effect => exact .inr effect.isSection
  | acquire enters checked effect =>
    right
    cases effect with
    | refused error =>
      exact .plain enters.idle enters.found (.inl ⟨rfl, enters.opened⟩)
        ⟨rfl, rfl⟩ (.inl rfl) ⟨rfl, rfl, rfl, rfl⟩ rfl rfl
    | acquired anchor outcome =>
      exact .plain enters.idle enters.found (.inl ⟨rfl, enters.opened⟩)
        ⟨rfl, rfl⟩ (.inr rfl) ⟨rfl, rfl, rfl, rfl⟩ rfl rfl
  | transition enters checked =>
    right
    split
    · exact .plain enters.idle enters.found (.inl ⟨rfl, enters.opened⟩)
        ⟨rfl, rfl⟩ (.inr rfl) ⟨rfl, rfl, rfl, rfl⟩ rfl rfl
    · exact .plain enters.idle enters.found (.inl ⟨rfl, enters.opened⟩)
        ⟨rfl, rfl⟩ (.inl rfl) ⟨rfl, rfl, rfl, rfl⟩ rfl rfl
  | anchor enters checked effect =>
    right
    cases effect with
    | refused error =>
      exact .plain enters.idle enters.found (.inl ⟨rfl, enters.opened⟩)
        ⟨rfl, rfl⟩ (.inl rfl) .rfl rfl rfl
    | kept anchored =>
      exact .plain enters.idle enters.found (.inl ⟨rfl, enters.opened⟩)
        ⟨rfl, rfl⟩ (.inr rfl) .rfl rfl rfl
    | anchored bare valid pinned =>
      rename_i exclusiveProof locked
      refine .silent enters.idle enters.found (.inl ⟨rfl, enters.opened⟩)
        ⟨rfl, rfl⟩ (.inr rfl) .rfl fun file => ?_
      rw [pinned.driverRefs file]
      by_cases same : file = exclusiveProof
      · simp [LeaseCall.files, same]
        omega
      · simp [LeaseCall.files, same, Ne.symm same]
  | bind enters lookedUp present =>
    right
    rename_i ret looked
    have held := driverRefs_foldl_hold system.files present
    cases ret with
    | none =>
      refine .silent enters.idle enters.found (.inl ⟨rfl, enters.opened⟩)
        ⟨rfl, rfl⟩ (.inr rfl) .rfl fun file => ?_
      rw [held file]
      simp [LeaseCall.files]
      omega
    | some error =>
      refine .mk enters.idle enters.found (.inl ⟨rfl, enters.opened⟩)
        ⟨rfl, rfl⟩ (.inl rfl) .rfl fun file => ?_
      rw [held file]
      simp [LeaseCall.files]
      omega
  | bindLocked standing found effect =>
    right
    cases effect with
    | refused error slotPinned =>
      refine .mk standing found (.inr rfl) ⟨rfl, rfl⟩ (.inl rfl) .rfl
        fun file => ?_
      rw [slotPinned.driverRefs file]
      simp [LeaseCall.files]
      omega
    | kept =>
      exact .plain standing found (.inr rfl) ⟨rfl, rfl⟩ (.inr rfl) .rfl rfl
        (by simp [LeaseCall.files, BindUndo.locals])
    | committed phase drained unbound slotPinned slotLocked lifetimePinned
        lifetimeLocked =>
      have empty := ProofBinding.files_eq_nil (complete _ _ found) unbound
      refine .silent standing found (.inr rfl) ⟨rfl, rfl⟩ (.inr rfl)
        ⟨rfl, rfl, rfl, rfl⟩ fun file => ?_
      rw [lifetimePinned.driverRefs file, slotPinned.driverRefs file,
        List.count_append, List.count_append, empty,
        count_newBinding_files _ _ lifetimeLocked]
      simp [LeaseCall.files, BindUndo.locals]
      omega
  | unbind enters effect =>
    right
    cases effect with
    | refused error =>
      exact .plain enters.idle enters.found (.inl ⟨rfl, enters.opened⟩)
        ⟨rfl, rfl⟩ (.inl rfl) .rfl rfl rfl
    | detached drained =>
      exact .silent enters.idle enters.found (.inl ⟨rfl, enters.opened⟩)
        ⟨rfl, rfl⟩ (.inr rfl) ⟨rfl, rfl, rfl, rfl⟩
        fun file => by simp [LeaseCall.files]

end Sections

end MxDriver
