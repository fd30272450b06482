import MxDriver.LeaseBalance

/-!
# Every step keeps the reference counters balanced
-/

namespace MxDriver

variable {ι θ τ ν φ : Type*}

@[simp]
theorem elim_update [DecidableEq ι] (count : FileCtx φ → Nat)
    (contexts : ι → Option (FileCtx φ)) (ctx other : ι) (record : Option (FileCtx φ)) :
    (Function.update contexts ctx record other).elim 0 count =
      if ctx = other then record.elim 0 count else (contexts other).elim 0 count := by
  by_cases same : ctx = other
  · subst other
    simp
  · simp [same, Ne.symm same]

@[simp]
theorem LeaseCall.held_idle : (LeaseCall.idle : LeaseCall ι φ).held = [] :=
  rfl

@[simp]
theorem LeaseCall.held_direct (ctx : ι) : (.direct ctx : LeaseCall ι φ).held = [] :=
  rfl

@[simp]
theorem LeaseCall.held_mapping (ctx : ι) : (.mapping ctx : LeaseCall ι φ).held = [] :=
  rfl

theorem mem_files_of_issued {files : FileTable φ} {ctx : ι} {record : FileCtx φ} {file : φ}
    (member : file ∈ (issueTransfer files ctx record).files) : file ∈ record.proofs.files := by
  simp only [TransferLease.files, issueTransfer, ProofBinding.files,
    List.mem_append] at member ⊢
  tauto

namespace LeaseSystem

section Counts

variable [DecidableEq ι] [DecidableEq θ] [DecidableEq φ]
variable [Fintype ι] [Fintype θ] [Fintype τ] [Fintype ν]
variable {system next : LeaseSystem ι θ τ ν φ}

theorem Balanced.section (balanced : system.Balanced)
    (effect : IsSection system next) : next.Balanced := by
  cases effect with
  | mk standing found entered outside stays counts balance =>
    rename_i thread ctx record newRecord call newCall device files puts
    have oldHeld : call.held = fileRefs call.files :=
      LeaseCall.held_eq (entered.imp_left And.left)
    have newHeld : newCall.held = fileRefs newCall.files := LeaseCall.held_eq stays
    refine balanced.exchangeCtx rfl rfl rfl rfl fun ref => ?_
    simp only [localHeld, standing, found, LeaseThread.held, oldHeld, newHeld, ctxHeld,
      flatMap_held_putFiles, List.flatMap_nil, List.append_nil, List.count_cons,
      List.count_append]
    cases ref with
    | ctx other =>
      simp [publish, refCount, counts.refs]
      rintro rfl
      simp [found]
    | pdev => simp [publish, refCount]
    | file file =>
      have exchanged := balance file
      simp [publish, refCount] at exchanged ⊢
      omega

omit [DecidableEq θ] in
theorem Balanced.present (balanced : system.Balanced) {ctx : ι}
    {record : FileCtx φ} (found : system.ctx ctx = some record) {file : φ}
    (named : file ∈ record.proofs.files) : system.files.file file ≠ none := by
  have held : (.file file : Ref ι φ) ∈ ctxHeld (system.ctx ctx) := by
    simp [found, ctxHeld, fileRefs, named]
  have positive := balanced.held_by_ctx held
  intro free
  simp [refCount, FileTable.driverRefs_eq_zero free] at positive

end Counts

variable [DecidableEq ι] [DecidableEq θ] [DecidableEq τ] [DecidableEq ν]
  [DecidableEq φ]
variable [Fintype ι] [Fintype θ] [Fintype τ] [Fintype ν]
variable {system next : LeaseSystem ι θ τ ν φ} {thread : θ}

omit [DecidableEq τ] in
theorem Balanced.put (balanced : system.Balanced) {call : LeaseCall ι φ}
    {first : Todo ι ν φ} {rest : List (Todo ι ν φ)}
    (standing : system.thread thread = ⟨call, first :: rest⟩)
    (effect : PutEffect system thread call rest first next) : next.Balanced := by
  have held : ∀ ref, first = .put ref → 0 < system.refCount ref := by
    intro ref same
    have member : ref ∈ (system.thread thread).held := by
      simp [standing, LeaseThread.held, same, Todo.held]
    exact balanced.held_by_thread member
  cases effect with
  | file file =>
    refine balanced.exchangeThread rfl rfl rfl rfl fun ref => ?_
    have present := held _ rfl
    simp only [localHeld, standing, LeaseThread.held, List.flatMap_cons, Todo.held,
      List.count_append, List.count_cons, List.count_nil]
    cases ref with
    | ctx other => simp [refCount]
    | pdev => simp [refCount]
    | file other =>
      simp only [refCount, FileTable.driverRefs_fput, eq_comm (a := other)] at present ⊢
      by_cases same : file = other
      · subst other
        simp
        omega
      · simp [same]
  | ctxKept found shared =>
    refine balanced.exchangeCtx rfl rfl rfl rfl fun ref => ?_
    have present := held _ rfl
    simp only [localHeld, standing, LeaseThread.held, List.flatMap_cons, Todo.held,
      List.count_append, List.count_cons, List.count_nil, found, ctxHeld]
    cases ref with
    | ctx other =>
      rename_i ctx record
      simp [refCount, publish, found] at present ⊢
      by_cases same : ctx = other
      · subst other
        simp [found]
        omega
      · simp [same]
    | pdev => simp [refCount, publish]
    | file other => simp [refCount, publish]
  | ctxFreed found last =>
    refine balanced.exchangeCtx rfl rfl rfl rfl fun ref => ?_
    simp only [localHeld, standing, LeaseThread.held, List.flatMap_cons, Todo.held,
      List.count_append, List.count_cons, List.count_nil, found, ctxHeld,
      List.flatMap_append, flatMap_held_putFiles]
    cases ref with
    | ctx other =>
      rename_i ctx record
      simp [refCount]
      by_cases same : ctx = other
      · subst other
        simp [found, last]
        omega
      · simp [same]
    | pdev =>
      simp [refCount]
      omega
    | file other =>
      simp [refCount]
      omega
  | pdevKept shared =>
    refine balanced.exchangeThread rfl rfl rfl rfl fun ref => ?_
    have present := held _ rfl
    simp only [localHeld, standing, LeaseThread.held, List.flatMap_cons, Todo.held,
      List.count_append, List.count_cons, List.count_nil]
    cases ref with
    | ctx other => simp [refCount]
    | pdev =>
      simp [refCount] at present ⊢
      omega
    | file other => simp [refCount]
  | pdevFreed last =>
    refine balanced.exchangeThread rfl rfl rfl rfl fun ref => ?_
    simp only [localHeld, standing, LeaseThread.held, List.flatMap_cons, Todo.held,
      List.count_append, List.count_cons, List.count_nil]
    cases ref with
    | ctx other => simp [refCount]
    | pdev =>
      simp [refCount, last]
      omega
    | file other => simp [refCount]
  | uncharged mapped found =>
    refine balanced.exchangeMapping rfl rfl rfl rfl fun ref => ?_
    simp only [localHeld, standing, LeaseThread.held, List.flatMap_cons, Todo.held,
      List.count_append, List.count_cons, List.count_nil, found, ctxHeld, mapped,
      vmaHeld]
    cases ref with
    | ctx other =>
      rename_i mapping record
      simp [refCount, publish]
      by_cases same : mapping.owner = other
      · subst other
        simp [found]
        omega
      · simp [same]
    | pdev =>
      simp [refCount, publish]
      omega
    | file other => simp [refCount, publish]
  | dangling gone =>
    rcases gone with ⟨ctx, rfl, gone⟩ | ⟨vma, rfl, _⟩
    · have present := held _ rfl
      simp [refCount, gone] at present
    · refine balanced.exchangeThread rfl rfl rfl rfl fun ref => ?_
      simp only [localHeld, standing, LeaseThread.held, List.flatMap_cons, Todo.held,
        List.nil_append]
      cases ref <;> rfl

omit [DecidableEq τ] [DecidableEq ν] in
theorem Balanced.counted (balanced : system.Balanced) {ctx : ι}
    {record newRecord : FileCtx φ} {call newCall : LeaseCall ι φ}
    {device : DeviceLease} {warnings : List LeaseWarning}
    (standing : system.thread thread = ⟨call, []⟩)
    (found : system.ctx ctx = some record) (refs : newRecord.refs = record.refs)
    (proofs : newRecord.proofs = record.proofs)
    (held : call.held = []) (newHeld : newCall.held = []) :
    Balanced { system.publish thread ctx device system.files newRecord newCall []
      with warnings := warnings } := by
  refine balanced.exchangeCtx rfl rfl rfl rfl fun ref => ?_
  simp only [localHeld, standing, found, LeaseThread.held, held, newHeld, ctxHeld, proofs]
  cases ref with
  | ctx other =>
    simp [publish, refCount, refs]
    rintro rfl
    simp [found]
  | pdev => simp [publish, refCount]
  | file file => simp [publish, refCount]

omit [DecidableEq θ] [DecidableEq τ] in
theorem Balanced.copied (balanced : system.Balanced) {vma : ν} {mapping : BarVma ι}
    (mapped : system.vma vma = some mapping) (refs : Nat) :
    Balanced { system with
      vma := Function.update system.vma vma (some { mapping with refs := refs }) } := by
  intro ref
  have before := balanced ref
  have held := holdings_update vmaHeld system.vma vma
    (some { mapping with refs := refs }) ref
  simp only [mapped, vmaHeld] at held
  have same : refCount { system with
      vma := Function.update system.vma vma (some { mapping with refs := refs }) } ref =
      system.refCount ref := by
    cases ref <;> rfl
  simp only [heldCount] at before ⊢
  omega

theorem Balanced.life (balanced : system.Balanced) {action : LeaseAction ι θ τ ν φ}
    (effect : LifeEffect system action next) : next.Balanced := by
  cases effect with
  | refused => exact balanced
  | user stepped =>
    intro ref
    cases ref with
    | ctx other => exact balanced (.ctx other)
    | pdev => exact balanced .pdev
    | file file =>
      have same := FileTable.driverRefs_user stepped file
      exact same.trans (balanced (.file file))
  | openGet idle alive =>
    refine balanced.exchangeThread rfl rfl rfl rfl fun ref => ?_
    simp only [localHeld, idle, LeaseThread.held]
    cases ref with
    | ctx other => simp [refCount, LeaseCall.held, LeaseCall.files]
    | pdev =>
      simp [refCount, LeaseCall.held, LeaseCall.files]
      omega
    | file file => simp [refCount, LeaseCall.held, LeaseCall.files]
  | openFailed standing =>
    refine balanced.exchangeThread rfl rfl rfl rfl fun ref => ?_
    simp only [localHeld, standing, LeaseThread.held]
    cases ref <;> rfl
  | opened standing free =>
    rename_i ctx cdev allocated
    refine balanced.exchangeCtx rfl rfl rfl rfl fun ref => ?_
    simp only [localHeld, standing, free, LeaseThread.held]
    cases ref with
    | ctx other =>
      simp [refCount, LeaseCall.held, LeaseCall.files, rootHeld, ctxHeld]
      by_cases same : ctx = other
      · subst other
        simp [free, balanced.unopened free]
      · simp [same, Ne.symm same]
    | pdev => simp [refCount, LeaseCall.held, LeaseCall.files, rootHeld, ctxHeld]
    | file file => simp [refCount, LeaseCall.held, LeaseCall.files, rootHeld, ctxHeld]
  | closed idle opened unused =>
    rename_i ctx
    refine balanced.exchangeThread rfl rfl rfl rfl fun ref => ?_
    simp only [localHeld, idle, LeaseThread.held]
    cases ref with
    | ctx other =>
      by_cases same : ctx = other
      · subst other
        simp [refCount, rootHeld, opened, Todo.held]
        omega
      · simp [refCount, rootHeld, Todo.held, same, Ne.symm same]
    | pdev => simp [refCount, rootHeld, Todo.held]
    | file file => simp [refCount, rootHeld, Todo.held]
  | directBegin enters effect begins =>
    apply balanced.counted enters.idle enters.found _ _ rfl
    all_goals cases effect <;> rfl
  | directEnd standing found =>
    apply balanced.counted standing found _ _ rfl rfl
    all_goals
      unfold mxLeaseDirectEnd
      split <;> rfl
  | transferGet standing free found checked =>
    rename_i thread transfer ctx record
    refine balanced.exchangeTransfer rfl rfl rfl rfl fun ref => ?_
    simp only [localHeld, standing, found, free, LeaseThread.held, ctxHeld, transferHeld,
      List.count_cons]
    cases ref with
    | ctx other =>
      simp [publish, refCount, issueTransfer]
      by_cases same : ctx = other
      · subst other
        simp [found]
        omega
      · simp [same]
    | pdev => simp [publish, refCount]
    | file file =>
      have present : ∀ file ∈ (issueTransfer system.files ctx record).files,
          system.files.file file ≠ none :=
        fun file member => balanced.present found (mem_files_of_issued member)
      have held := driverRefs_foldl_hold system.files present file
      simp [publish, refCount, held]
      omega
  | transferPut standing inFlight found =>
    rename_i thread transfer call issued record
    refine balanced.exchangeTransfer rfl rfl rfl rfl fun ref => ?_
    simp only [localHeld, standing, found, inFlight, LeaseThread.held, ctxHeld,
      transferHeld, List.count_cons, List.flatMap_append, flatMap_held_putFiles,
      List.flatMap_nil, List.flatMap_cons, Todo.held, List.count_append]
    cases ref with
    | ctx other =>
      simp [publish, refCount]
      by_cases same : issued.owner = other
      · subst other
        simp [found]
        omega
      · simp [same]
    | pdev => simp [publish, refCount]
    | file file =>
      simp [publish, refCount]
      omega
  | mmapCheck standing found room alone =>
    refine balanced.exchangeThread rfl rfl rfl rfl fun ref => ?_
    simp only [localHeld, standing, LeaseThread.held]
    cases ref <;> rfl
  | mmapCommit standing free found =>
    rename_i thread vma ctx record
    refine balanced.exchangeMapping rfl rfl rfl rfl fun ref => ?_
    simp only [localHeld, standing, found, free, LeaseThread.held, ctxHeld, vmaHeld,
      List.count_cons]
    cases ref with
    | ctx other =>
      simp [publish, refCount]
      by_cases same : ctx = other
      · subst other
        simp [found]
        omega
      · simp [same]
    | pdev =>
      simp [publish, refCount]
      omega
    | file file => simp [publish, refCount]
  | mmapFail standing =>
    refine balanced.exchangeThread rfl rfl rfl rfl fun ref => ?_
    simp only [localHeld, standing, LeaseThread.held]
    cases ref <;> rfl
  | vmaOpen mapped => exact balanced.copied mapped _
  | vmaClose standing mapped =>
    rename_i mapping
    refine (balanced.copied mapped (mapping.refs - 1)).exchangeThread rfl rfl rfl rfl
      fun ref => ?_
    simp only [localHeld, standing, LeaseThread.held]
    split <;> cases ref <;> rfl
  | put standing effect => exact balanced.put standing effect
  | remove => exact balanced
  | detach idle attached =>
    refine balanced.exchangeThread rfl rfl rfl rfl fun ref => ?_
    simp only [localHeld, idle, LeaseThread.held]
    cases ref with
    | ctx other => simp [refCount, rootHeld, Todo.held]
    | pdev =>
      simp [refCount, rootHeld, Todo.held]
      omega
    | file file => simp [refCount, rootHeld, Todo.held]

omit [DecidableEq θ] [DecidableEq τ] [DecidableEq ν] in
theorem balanced_start (incarnation : UInt64) :
    (start incarnation : LeaseSystem ι θ τ ν φ).Balanced := by
  intro ref
  have noCtx : holdings ctxHeld (fun _ : ι => (none : Option (FileCtx φ))) ref = 0 :=
    holdings_eq_zero fun _ => by simp [ctxHeld]
  have noTransfer :
      holdings transferHeld (fun _ : τ => (none : Option (TransferLease ι φ))) ref = 0 :=
    holdings_eq_zero fun _ => by simp [transferHeld]
  have noMapping : holdings vmaHeld (fun _ : ν => (none : Option (BarVma ι))) ref = 0 :=
    holdings_eq_zero fun _ => by simp [vmaHeld]
  have noThread :
      holdings LeaseThread.held (fun _ : θ => ({} : LeaseThread ι ν φ)) ref = 0 :=
    holdings_eq_zero fun _ => by simp [LeaseThread.held]
  simp only [heldCount, start, noCtx, noTransfer, noMapping, noThread]
  cases ref <;> simp [refCount, rootHeld, FileTable.driverRefs]

end LeaseSystem

/-- The counters of a run are balanced, and no proof is half bound. -/
structure Referenced [DecidableEq ι] [DecidableEq φ] [Fintype ι] [Fintype θ] [Fintype τ]
    [Fintype ν] (system : LeaseSystem ι θ τ ν φ) : Prop where
  complete : BindingsAre ProofBinding.Complete (fun _ _ => True) system
  balanced : system.Balanced

variable [DecidableEq ι] [DecidableEq θ] [DecidableEq τ] [DecidableEq ν]
  [DecidableEq φ]
variable [Fintype ι] [Fintype θ] [Fintype τ] [Fintype ν]

theorem Referenced.step {system next : LeaseSystem ι θ τ ν φ}
    {action : LeaseAction ι θ τ ν φ} (referenced : Referenced system)
    (stepped : leaseStep system action = some next) : Referenced next := by
  cases leaseStep_effect stepped with
  | call effect =>
    refine ⟨referenced.complete.call bindingRule_complete effect, ?_⟩
    rcases effect.isSection referenced.complete.contexts with rfl | isSection
    · exact referenced.balanced
    · exact referenced.balanced.section isSection
  | life effect =>
    exact ⟨referenced.complete.life bindingRule_complete effect,
      referenced.balanced.life effect⟩

omit [DecidableEq θ] [DecidableEq τ] [DecidableEq ν] in
theorem referenced_start (incarnation : UInt64) :
    Referenced (LeaseSystem.start incarnation : LeaseSystem ι θ τ ν φ) :=
  ⟨bindingsAre_start incarnation, LeaseSystem.balanced_start incarnation⟩

end MxDriver
