import MxDriver.LeaseTransferProofs

/-!
# The references to proof files

A file is referenced by the fields of contexts and transfers that name it, and by the
calls that have obtained it and neither stored nor put it yet.  Nothing else counts, so
the driver refers to no file once the contexts and transfers are gone and the calls
have returned.
-/

namespace MxDriver

variable {ι θ τ ν φ : Type*}

/-- The file fields of a context. -/
def ctxFields : Option (FileCtx φ) → List (Option φ)
  | none => []
  | some record =>
    [record.proofs.slotSourceFile, record.proofs.slotProofFile,
      record.proofs.lifetimeSourceFile, record.proofs.lifetimeProofFile]

/-- The file fields of a transfer in flight. -/
def transferFields : Option (TransferLease ι φ) → List (Option φ)
  | none => []
  | some transfer => [transfer.slotProofFile, transfer.lifetimeProofFile]

section Counting

variable [DecidableEq ι] [DecidableEq ν] [DecidableEq φ]

omit [DecidableEq ι] [DecidableEq ν] in
theorem count_toList (stored : Option φ) (file : φ) :
    stored.toList.count file = [stored].count (some file) := by
  cases stored <;> simp [List.count_cons]

theorem count_ctxHeld (record : Option (FileCtx φ)) (file : φ) :
    (ctxHeld record : List (Ref ι φ)).count (.file file) =
      (ctxFields record).count (some file) := by
  cases record with
  | none => rfl
  | some record =>
    rw [ctxHeld, List.count_cons_of_ne (by simp), count_fileRefs_file, ProofBinding.files]
    simp only [ctxFields, List.count_append, count_toList, List.count_cons, List.count_nil]
    omega

theorem count_transferHeld (transfer : Option (TransferLease ι φ)) (file : φ) :
    (transferHeld transfer).count (.file file) = (transferFields transfer).count (some file) := by
  cases transfer with
  | none => rfl
  | some transfer =>
    rw [transferHeld, List.count_cons_of_ne (by simp), count_fileRefs_file, TransferLease.files]
    simp only [transferFields, List.count_append, count_toList, List.count_cons, List.count_nil]
    omega

theorem count_call_held (call : LeaseCall ι φ) (file : φ) :
    call.held.count (.file file) = call.files.count file := by
  cases call with
  | opening => simp [LeaseCall.held, LeaseCall.files]
  | _ => exact count_fileRefs_file _ file

theorem count_todo_held (todo : List (Todo ι ν φ)) (file : φ) :
    (todo.flatMap Todo.held).count (.file file) = todo.count (.put (.file file)) := by
  induction todo with
  | nil => rfl
  | cons first rest ih =>
    rw [List.flatMap_cons, List.count_append, ih, List.count_cons]
    cases first with
    | put ref => simp [Todo.held, List.count_cons, add_comm]
    | uncharge vma => simp [Todo.held]

end Counting

section Runs

variable [DecidableEq ι] [DecidableEq θ] [DecidableEq τ] [DecidableEq ν] [DecidableEq φ]
variable [Fintype ι] [Fintype θ] [Fintype τ] [Fintype ν]
variable {incarnation : UInt64} {system : LeaseSystem ι θ τ ν φ}

omit [DecidableEq θ] [DecidableEq τ] in
theorem LeaseSystem.Balanced.driverRefs_eq (balanced : system.Balanced) (file : φ) :
    system.files.driverRefs file =
      ∑ ctx, (ctxFields (system.ctx ctx)).count (some file) +
        ∑ transfer, (transferFields (system.transfer transfer)).count (some file) +
          ∑ thread, ((system.thread thread).call.files.count file +
            (system.thread thread).todo.count (.put (.file file))) := by
  have counted := balanced (.file file)
  have unmapped : holdings vmaHeld system.vma (.file file) = 0 := by
    apply holdings_eq_zero
    intro vma
    cases system.vma vma <;> simp [vmaHeld]
  rw [LeaseSystem.heldCount, unmapped] at counted
  simp only [LeaseSystem.refCount, rootHeld, holdings, count_ctxHeld, count_transferHeld,
    LeaseThread.held, List.count_append, count_call_held, count_todo_held] at counted
  omega

omit [DecidableEq θ] [DecidableEq τ] [DecidableEq ν] in
/-- A call that owns files runs on a context. -/
theorem Audited.call_files_eq_nil (audited : Audited system) (gone : ∀ ctx, system.ctx ctx = none)
    (thread : θ) : (system.thread thread).call.files = [] := by
  have outside : (system.thread thread).call.ctx? = none := by
    cases call : (system.thread thread).call.ctx? with
    | none => rfl
    | some ctx =>
      have opened := audited.accounted.onOpen thread ctx call
      cases (audited.balanced.unopened (gone ctx)).symm.trans opened
  cases call : (system.thread thread).call <;> simp_all [LeaseCall.ctx?, LeaseCall.files]

/-- In every interleaving the driver holds as many references to a file as the fields of
the contexts and of the transfers, the calls and the puts that are left name it.  Each put
drops one of them, and once there is no context and no transfer only such puts are left. -/
theorem file_references_balance
    (reached : Reached leaseStep (LeaseSystem.start incarnation) system) (file : φ) :
    system.files.driverRefs file =
        ∑ ctx, (ctxFields (system.ctx ctx)).count (some file) +
          ∑ transfer, (transferFields (system.transfer transfer)).count (some file) +
            ∑ thread, ((system.thread thread).call.files.count file +
              (system.thread thread).todo.count (.put (.file file))) ∧
      (∀ thread rest next, (system.thread thread).todo = .put (.file file) :: rest →
        leaseStep system (.put thread) = some next →
          next.files.driverRefs file + 1 = system.files.driverRefs file) ∧
      ((∀ ctx, system.ctx ctx = none) → (∀ transfer, system.transfer transfer = none) →
        system.files.driverRefs file =
          ∑ thread, (system.thread thread).todo.count (.put (.file file))) := by
  have audited := audited_of_reached reached
  have counted := audited.balanced.driverRefs_eq file
  refine ⟨counted, ?_, ?_⟩
  · intro thread rest next pending stepped
    have held : Ref.file file ∈ (system.thread thread).held := by
      simp [LeaseThread.held, pending, Todo.held]
    have positive : 0 < system.files.driverRefs file := audited.balanced.held_by_thread held
    simp only [leaseStep, LeaseSystem.put, pending, Option.some.injEq] at stepped
    rw [← stepped, FileTable.driverRefs_fput, if_pos rfl]
    exact Nat.sub_add_cancel positive
  · intro noCtx noTransfer
    simp only [noCtx, noTransfer, audited.call_files_eq_nil noCtx] at counted
    simpa [ctxFields, transferFields] using counted

end Runs

/-- The transfer that outlived its binding ends, and then every context is closed. -/
def departingRun : List (LeaseAction Party Party Party Party Party) :=
  orphanRun ++ [.transferPut 1 0, .put 1, .put 1, .put 1, .close 0 0, .put 0]

theorem file_references_balance_departingRun :
    (∃ system, runActions leaseStep (LeaseSystem.start 7) orphanRun = some system ∧
      (transferFields (system.transfer 0)).count (some 3) = 1 ∧
      system.files.driverRefs 3 =
        ∑ ctx, (ctxFields (system.ctx ctx)).count (some 3) +
          ∑ transfer, (transferFields (system.transfer transfer)).count (some 3) +
            ∑ thread, ((system.thread thread).call.files.count 3 +
              (system.thread thread).todo.count (.put (.file 3)))) ∧
      ∃ system, runActions leaseStep (LeaseSystem.start 7) departingRun = some system ∧
        system.files.driverRefs 3 =
          ∑ thread, (system.thread thread).todo.count (.put (.file 3)) := by
  have run : runActions leaseStep (LeaseSystem.start 7) orphanRun = some _ := rfl
  have departing : runActions leaseStep (LeaseSystem.start 7) departingRun = some _ := rfl
  refine ⟨⟨_, run, rfl, (file_references_balance (reached_of_runActions run) 3).1⟩,
    _, departing, (file_references_balance (reached_of_runActions departing) 3).2.2 ?_ ?_⟩
  · rintro ⟨⟩ <;> rfl
  · rintro ⟨⟩ <;> rfl

end MxDriver
