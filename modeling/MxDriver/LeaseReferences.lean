import MxDriver.LeaseSteps
import MxDriver.ReferenceLedger

/-!
# References of the lease system

Contexts, the device and open files are reference-counted.  Here is who holds
how many references to each: contexts hold the device and the files of their
proofs, transfers and mappings hold their context, open files hold theirs, and
a running thread holds whatever it has not put or handed on yet.
-/

namespace MxDriver

variable {ι θ τ ν φ : Type*}

/-- References to files. -/
def fileRefs (files : List φ) : List (Ref ι φ) := files.map .file

/-- The files that a call still has to put or hand on. -/
def LeaseCall.files : LeaseCall ι φ → List φ
  | .anchoring _ _ _ exclusiveProof => exclusiveProof.toList
  | .preparing _ _ bind => bind.locals
  | .binding _ undo => undo.locals
  | .unbinding _ detached => detached.files
  | _ => []

def LeaseCall.held : LeaseCall ι φ → List (Ref ι φ)
  | .opening => [.pdev]
  | call => fileRefs call.files

def Todo.held : Todo ι ν φ → List (Ref ι φ)
  | .put ref => [ref]
  | .uncharge _ => []

def LeaseThread.held (thread : LeaseThread ι ν φ) : List (Ref ι φ) :=
  thread.call.held ++ thread.todo.flatMap Todo.held

def ctxHeld : Option (FileCtx φ) → List (Ref ι φ)
  | none => []
  | some record => .pdev :: fileRefs record.proofs.files

def transferHeld : Option (TransferLease ι φ) → List (Ref ι φ)
  | none => []
  | some transfer => .ctx transfer.owner :: fileRefs transfer.files

def vmaHeld : Option (BarVma ι) → List (Ref ι φ)
  | none => []
  | some mapping => [.ctx mapping.owner, .pdev]

/-- The references of open files and of the registry. -/
def rootHeld (opened : ι → Bool) (attached : Nat) : Ref ι φ → Nat
  | .ctx ctx => if opened ctx then 1 else 0
  | .pdev => attached
  | .file _ => 0

namespace LeaseSystem

/-- The value of a reference counter; a freed object counts as zero. -/
def refCount (system : LeaseSystem ι θ τ ν φ) : Ref ι φ → Nat
  | .ctx ctx => (system.ctx ctx).elim 0 FileCtx.refs
  | .pdev => system.pdevRefs
  | .file file => system.files.driverRefs file

section Held

variable [DecidableEq ι] [DecidableEq φ]
variable [Fintype ι] [Fintype θ] [Fintype τ] [Fintype ν]

/-- The references that somebody holds. -/
def heldCount (system : LeaseSystem ι θ τ ν φ) (ref : Ref ι φ) : Nat :=
  rootHeld system.opened system.attached ref + holdings ctxHeld system.ctx ref +
    holdings transferHeld system.transfer ref + holdings vmaHeld system.vma ref +
    holdings LeaseThread.held system.thread ref

/-- Every counter is the number of references that are held. -/
def Balanced (system : LeaseSystem ι θ τ ν φ) : Prop :=
  ∀ ref, system.refCount ref = system.heldCount ref

end Held

end LeaseSystem

/-! ## Counting entries -/

section Counting

variable [DecidableEq ι] [DecidableEq φ]

@[simp]
theorem count_fileRefs_file (files : List φ) (file : φ) :
    (fileRefs files : List (Ref ι φ)).count (.file file) = files.count file :=
  List.count_map_of_injective files _ (fun _ _ => Ref.file.inj) file

@[simp]
theorem count_fileRefs_ctx (files : List φ) (ctx : ι) : (fileRefs files).count (.ctx ctx) = 0 :=
  List.count_eq_zero.mpr (by simp [fileRefs])

@[simp]
theorem count_fileRefs_pdev (files : List φ) : (fileRefs files : List (Ref ι φ)).count .pdev = 0 :=
  List.count_eq_zero.mpr (by simp [fileRefs])

omit [DecidableEq ι] [DecidableEq φ] in
@[simp]
theorem fileRefs_nil : (fileRefs [] : List (Ref ι φ)) = [] :=
  rfl

omit [DecidableEq ι] [DecidableEq φ] in
@[simp]
theorem fileRefs_append (first second : List φ) :
    (fileRefs (first ++ second) : List (Ref ι φ)) = fileRefs first ++ fileRefs second :=
  List.map_append

omit [DecidableEq ι] [DecidableEq φ] in
/-- Putting files is dropping the references to them. -/
@[simp]
theorem flatMap_held_putFiles (files : List φ) :
    (LeaseSystem.putFiles files : List (Todo ι ν φ)).flatMap Todo.held = fileRefs files := by
  induction files with
  | nil => rfl
  | cons file files ih =>
    simp only [LeaseSystem.putFiles, fileRefs, List.map_cons, List.flatMap_cons] at ih ⊢
    rw [ih]
    rfl

theorem driverRefs_foldl_hold (files : FileTable φ) {held : List φ}
    (present : ∀ file ∈ held, files.file file ≠ none) (other : φ) :
    (held.foldl FileTable.hold files).driverRefs other =
      files.driverRefs other + held.count other := by
  induction held generalizing files with
  | nil => rfl
  | cons file held ih =>
    have here := present file List.mem_cons_self
    have later : ∀ next ∈ held, (files.hold file).file next ≠ none := by
      intro next member
      by_cases same : next = file
      · subst next
        simpa [FileTable.hold] using here
      · simpa [FileTable.hold, same] using present next (List.mem_cons_of_mem _ member)
    rw [List.foldl_cons, ih _ later, FileTable.driverRefs_hold files here,
      List.count_cons]
    by_cases same : other = file
    · subst other
      simp
      omega
    · simp [same, Ne.symm same]

end Counting

/-! ## Sections -/

/-- The thread is between `mx_lease_direct_begin` and `mx_lease_direct_end`. -/
def LeaseCall.directCtx? : LeaseCall ι φ → Option ι
  | .direct ctx | .mapping ctx => some ctx
  | _ => none

/-- The counters that a section leaves alone. -/
structure SameCounts (record newRecord : FileCtx φ) : Prop where
  refs : newRecord.refs = record.refs
  direct : newRecord.directCount = record.directCount
  transfers : newRecord.transferCount = record.transferCount
  mappings : newRecord.barMappingCount = record.barMappingCount

section Sections

variable [DecidableEq ι] [DecidableEq θ] [DecidableEq φ]

/-- What every section of a lease call has in common: it runs on an open
context, leaves the counters alone, and hands its file references on. -/
inductive IsSection (system : LeaseSystem ι θ τ ν φ) :
    LeaseSystem ι θ τ ν φ → Prop
  | mk {thread : θ} {ctx : ι} {record newRecord : FileCtx φ}
      {call newCall : LeaseCall ι φ} {device : DeviceLease}
      {files : FileTable φ} {puts : List φ}
      (standing : system.thread thread = ⟨call, []⟩)
      (found : system.ctx ctx = some record)
      (entered : call = .idle ∧ system.opened ctx = true ∨ call.ctx? = some ctx)
      (outside : call.directCtx? = none ∧ newCall.directCtx? = none)
      (stays : newCall = .idle ∨ newCall.ctx? = some ctx)
      (counts : SameCounts record newRecord)
      (balance : ∀ file,
        files.driverRefs file + (record.proofs.files ++ call.files).count file =
          system.files.driverRefs file +
            (newRecord.proofs.files ++ newCall.files ++ puts).count file) :
      IsSection system
        (system.publish thread ctx device files newRecord newCall
          (LeaseSystem.putFiles puts))

omit [DecidableEq φ] in
theorem SameCounts.rfl {record : FileCtx φ} : SameCounts record record :=
  ⟨Eq.refl _, Eq.refl _, Eq.refl _, Eq.refl _⟩

end Sections

end MxDriver
