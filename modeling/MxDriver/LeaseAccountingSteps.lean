import MxDriver.LeaseAccounting

/-!
# Every step keeps the charges of the contexts
-/

namespace MxDriver

variable {ι θ τ ν φ : Type*}

theorem LeaseCall.ctx?_of_directCtx? {call : LeaseCall ι φ} {ctx : ι}
    (runs : call.directCtx? = some ctx) : call.ctx? = some ctx := by
  cases call <;> simp_all [LeaseCall.directCtx?, LeaseCall.ctx?]

namespace Accounted

variable [DecidableEq ι] [DecidableEq θ] [DecidableEq φ]
variable [Fintype ι] [Fintype θ] [Fintype τ] [Fintype ν]
variable {system next : LeaseSystem ι θ τ ν φ}

omit [Fintype ι] in
theorem afterSection (accounted : Accounted system) (effect : IsSection system next) :
    Accounted next := by
  cases effect with
  | mk standing found entered outside stays counts balance =>
    rename_i thread ctx record newRecord call newCall device files puts
    have opened : system.opened ctx = true := by
      rcases entered with ⟨-, opened⟩ | entered
      · exact opened
      · exact accounted.onOpen thread ctx (by rw [standing, entered])
    have outsideNow : newCall.isMapping = false := not_isMapping_of_outside outside.2
    have bounded := accounted.bounded ctx record found
    refine accounted.moved rfl rfl rfl found ?_ ?_ ?_ ?_ ?_ ?_ ?_
    · refine (accounted.direct.replace ?_).member ?_
      · simp [found, counts.direct]
      · simp [LeaseThread.charge, standing, outside]
    · exact accounted.transfers.replace (by simp [found, counts.transfers])
    · exact accounted.mappings.replace (by simp [found, counts.mappings])
    · rw [counts.direct, counts.transfers, counts.mappings]
      exact bounded
    · intro other runs
      rcases stays with rfl | here
      · cases runs
      · obtain rfl : ctx = other := Option.some.inj (here.symm.trans runs)
        exact opened
    · simp [outsideNow]
    · exact .inl counts.mappings.le

omit [DecidableEq θ] in
/-- A thread that puts the last reference to a context finds nothing charged to
it. -/
theorem drained (accounted : Accounted system) (balanced : system.Balanced) {thread : θ}
    {ctx : ι} {record : FileCtx φ} (found : system.ctx ctx = some record)
    (last : record.refs = 1) (held : .ctx ctx ∈ (system.thread thread).held) :
    system.opened ctx = false ∧ record.directCount = 0 ∧ record.transferCount = 0 ∧
      record.barMappingCount = 0 := by
  have balance := balanced (.ctx ctx)
  have mine : 0 < holdings LeaseThread.held system.thread (.ctx ctx) := holdings_pos held
  simp only [LeaseSystem.refCount, found, Option.elim_some, last, LeaseSystem.heldCount]
    at balance
  have closed : system.opened ctx = false := by
    by_contra opened
    have opened : system.opened ctx = true := by simpa using opened
    simp only [rootHeld, opened, if_true] at balance
    omega
  have noTransfer : holdings transferHeld system.transfer (.ctx ctx) = 0 := by omega
  have noMapping : holdings vmaHeld system.vma (.ctx ctx : Ref ι φ) = 0 := by omega
  refine ⟨closed, ?_, ?_, ?_⟩
  · have counts := accounted.direct ctx
    rw [found, holdings_eq_zero] at counts
    · exact counts
    intro other charged
    have runs : (system.thread other).call.directCtx? = some ctx := by
      simpa [LeaseThread.charge] using charged
    have opened := accounted.onOpen other ctx (LeaseCall.ctx?_of_directCtx? runs)
    simp [closed] at opened
  · have counts := accounted.transfers ctx
    rw [found, holdings_eq_zero] at counts
    · exact counts
    intro transfer charged
    apply not_mem_of_holdings_eq_zero noTransfer transfer
    cases issued : system.transfer transfer with
    | none => simp [issued, transferCharge] at charged
    | some lease => simp_all [transferCharge, transferHeld]
  · have counts := accounted.mappings ctx
    rw [found, holdings_eq_zero] at counts
    · exact counts
    intro vma charged
    apply not_mem_of_holdings_eq_zero noMapping vma
    cases mapped : system.vma vma with
    | none => simp [mapped, vmaCharge] at charged
    | some mapping => simp_all [vmaCharge, vmaHeld]

variable [DecidableEq ν]

theorem put (accounted : Accounted system) (balanced : system.Balanced) {thread : θ}
    {call : LeaseCall ι φ} {first : Todo ι ν φ} {rest : List (Todo ι ν φ)}
    (standing : system.thread thread = ⟨call, first :: rest⟩)
    (effect : PutEffect system thread call rest first next) : Accounted next := by
  have onOpen : ∀ ctx, call.ctx? = some ctx → system.opened ctx = true :=
    fun ctx runs => accounted.onOpen thread ctx (by rw [standing, runs])
  have same : call = (system.thread thread).call := by rw [standing]
  cases effect with
  | file | pdevKept | pdevFreed | dangling =>
    exact accounted.thread rfl rfl rfl accounted.mappings rfl (by rw [same]) onOpen
      (fun mapping => .inl (same ▸ mapping))
      fun ctx record mapping found =>
        accounted.room ctx record found thread (same ▸ mapping)
  | ctxKept found shared =>
    rename_i ctx record
    refine accounted.moved rfl rfl rfl found ?_ ?_ ?_ (accounted.bounded ctx record found)
      onOpen (fun _ => same.symm) (.inl le_rfl)
    · exact (accounted.direct.replace (by simp [found])).member
        (by simp [LeaseThread.charge, standing])
    · exact accounted.transfers.replace (by simp [found])
    · exact accounted.mappings.replace (by simp [found])
  | ctxFreed found last =>
    rename_i ctx record
    have held : .ctx ctx ∈ (system.thread thread).held := by
      simp [standing, LeaseThread.held, Todo.held]
    obtain ⟨closed, noDirect, noTransfer, noMapping⟩ :=
      accounted.drained balanced found last held
    exact
      { direct := (accounted.direct.replace (by simp [found, noDirect])).member
          (by simp [LeaseThread.charge, standing])
        transfers := accounted.transfers.replace (by simp [found, noTransfer])
        mappings := accounted.mappings.replace (by simp [found, noMapping])
        bounded := records_erase (p := fun _ record => record.directCount ≤ u32Max ∧
          record.transferCount ≤ u32Max ∧ record.barMappingCount ≤ u32Max)
          accounted.bounded
        onOpen := calls_update (p := fun call => ∀ ctx, call.ctx? = some ctx →
          system.opened ctx = true) accounted.onOpen onOpen
        locked := locked_update accounted.locked fun mapping => .inl (same ▸ mapping)
        room := records_erase (p := fun ctx record => ∀ other,
          (Function.update system.thread thread ⟨call, _⟩ other).call = .mapping ctx →
            record.barMappingCount ≠ u32Max) fun ctx record found =>
          calls_update (p := fun call => call = .mapping ctx →
            record.barMappingCount ≠ u32Max) (accounted.room ctx record found)
            fun mapping => accounted.room ctx record found thread (same ▸ mapping) }
  | uncharged mapped found =>
    rename_i vma mapping record
    have bounded := accounted.bounded mapping.owner record found
    have counted : (decWarn .barVmaClose record.barMappingCount).2 =
        record.barMappingCount - 1 := by
      unfold decWarn
      split <;> simp [*]
    refine accounted.moved rfl rfl rfl found ?_ ?_ ?_ ?_
      onOpen (fun _ => same.symm) (.inl ?_)
    · exact (accounted.direct.replace (by simp [found])).member
        (by simp [LeaseThread.charge, standing])
    · exact accounted.transfers.replace (by simp [found])
    · exact accounted.mappings.leave found (by simp [vmaCharge, mapped]) rfl counted
    · simp only [counted]
      omega
    · simp only [counted]
      omega

omit [DecidableEq φ] [Fintype ι] [DecidableEq ν] in
theorem aside (accounted : Accounted system) {thread : θ} {call : LeaseCall ι φ}
    {todo : List (Todo ι ν φ)} (contexts : next.ctx = system.ctx)
    (threads : next.thread = Function.update system.thread thread ⟨call, todo⟩)
    (transfers : next.transfer = system.transfer) (mappings : next.vma = system.vma)
    (opened : next.opened = system.opened) (outside : call.ctx? = none)
    (before : (system.thread thread).call.directCtx? = none) : Accounted next := by
  have direct : call.directCtx? = none := by
    by_contra runs
    obtain ⟨ctx, runs⟩ := Option.ne_none_iff_exists'.mp runs
    simp [LeaseCall.ctx?_of_directCtx? runs] at outside
  have unlocked := not_isMapping_of_outside direct
  refine accounted.thread contexts threads transfers (mappings ▸ accounted.mappings)
    opened (direct.trans before.symm) ?_ ?_ ?_
  · simp [outside]
  · simp [unlocked]
  · intro ctx record mapping
    simp [isMapping_of_mapping mapping] at unlocked

omit [DecidableEq φ] [Fintype ι] [DecidableEq ν] in
theorem directBegin (accounted : Accounted system) {thread : θ} {ctx : ι}
    {record : FileCtx φ} {begun : Ret × DeviceLease × FileCtx φ}
    (enters : system.Enters thread ctx record)
    (effect : DirectBeginEffect system.device record begun) :
    Accounted (system.publish thread ctx begun.2.1 system.files begun.2.2
      (if begun.1 = none then .direct ctx else .idle) []) := by
  have bounded := accounted.bounded ctx record enters.found
  have before : LeaseThread.charge (system.thread thread) = [] := by
    rw [enters.idle]
    rfl
  cases effect with
  | refused error =>
    refine accounted.moved rfl rfl rfl enters.found ?_ ?_ ?_ bounded
      (by simp [LeaseCall.ctx?]) (by simp [LeaseCall.isMapping]) (.inl le_rfl)
    · exact (accounted.direct.replace (by simp [enters.found])).member before.symm
    · exact accounted.transfers.replace (by simp [enters.found])
    · exact accounted.mappings.replace (by simp [enters.found])
  | retracted error room profiled =>
    have counted := mxLeaseSmReleaseDirect_incU32 bounded.1 room
    refine accounted.moved rfl rfl rfl enters.found ?_ ?_ ?_ ?_
      (by simp [LeaseCall.ctx?]) (by simp [LeaseCall.isMapping]) (.inl le_rfl)
    · exact (accounted.direct.replace (by simp [enters.found, counted])).member before.symm
    · exact accounted.transfers.replace (by simp [enters.found])
    · exact accounted.mappings.replace (by simp [enters.found])
    · simp only [counted]
      exact bounded
  | admitted room effect anchored proofs =>
    have counted := incU32_of_ne_max bounded.1 room
    refine accounted.moved rfl rfl rfl enters.found ?_ ?_ ?_ ?_ ?_
      (by simp [LeaseCall.isMapping]) (.inl le_rfl)
    · exact accounted.direct.enter enters.found before rfl counted
    · exact accounted.transfers.replace (by simp [enters.found])
    · exact accounted.mappings.replace (by simp [enters.found])
    · simp only [counted]
      omega
    · intro other runs
      obtain rfl : ctx = other := by simpa [LeaseCall.ctx?] using runs
      exact enters.opened

variable [DecidableEq τ]

theorem life (accounted : Accounted system) (balanced : system.Balanced)
    {action : LeaseAction ι θ τ ν φ} (effect : LifeEffect system action next) : Accounted next := by
  cases effect with
  | refused => exact accounted
  | user stepped | remove =>
    exact { accounted with }
  | openGet idle alive =>
    exact accounted.aside rfl rfl rfl rfl rfl rfl (by rw [idle]; rfl)
  | openFailed standing =>
    exact accounted.aside rfl rfl rfl rfl rfl rfl (by rw [standing]; rfl)
  | opened standing free =>
    rename_i thread ctx cdev allocated
    have opens : ∀ other, system.opened other = true →
        Function.update system.opened ctx true other = true := by
      intro other opened
      by_cases same : other = ctx
      · simp [same]
      · simp [same, opened]
    exact
      { direct := (accounted.direct.replace (by simp [free])).member
          (by simp [LeaseThread.charge, standing, LeaseCall.directCtx?])
        transfers := accounted.transfers.replace (by simp [free])
        mappings := accounted.mappings.replace (by simp [free])
        bounded := records_update (p := fun _ record => record.directCount ≤ u32Max ∧
          record.transferCount ≤ u32Max ∧ record.barMappingCount ≤ u32Max)
          accounted.bounded (by simp)
        onOpen := calls_update (p := fun call => ∀ other, call.ctx? = some other →
          Function.update system.opened ctx true other = true)
          (fun thread other runs => opens other (accounted.onOpen thread other runs))
          (by simp [LeaseCall.ctx?])
        locked := locked_update accounted.locked (by simp [LeaseCall.isMapping])
        room := records_update (p := fun ctx record => ∀ other,
          (Function.update system.thread thread ⟨.idle, []⟩ other).call = .mapping ctx →
            record.barMappingCount ≠ u32Max)
          (fun ctx record found => calls_update (p := fun call => call = .mapping ctx →
            record.barMappingCount ≠ u32Max) (accounted.room ctx record found) (by simp))
          (fun _ _ => by simp [u32Max]) }
  | closed idle opened unused =>
    rename_i thread ctx
    have quiet : Accounted
        { system with
          thread := Function.update system.thread thread ⟨.idle, [.put (.ctx ctx)]⟩ } :=
      accounted.aside rfl rfl rfl rfl rfl rfl (by rw [idle]; rfl)
    refine { quiet with onOpen := ?_ }
    intro other runsOn runs
    have unusedNow : ∀ other, (Function.update system.thread thread
        ⟨.idle, [.put (.ctx ctx)]⟩ other).call.ctx? ≠ some ctx :=
      calls_update (p := fun call => call.ctx? ≠ some ctx) unused
        (by simp [LeaseCall.ctx?])
    have stays : runsOn ≠ ctx := fun same => unusedNow other (same ▸ runs)
    simpa [stays] using quiet.onOpen other runsOn runs
  | directBegin enters effect begins => exact accounted.directBegin enters effect
  | directEnd standing found =>
    rename_i thread ctx record
    have bounded := accounted.bounded ctx record found
    have counted : (mxLeaseDirectEnd record).2.directCount = record.directCount - 1 := by
      unfold mxLeaseDirectEnd mxLeaseSmReleaseDirect
      split <;> simp_all
    have others : (mxLeaseDirectEnd record).2.transferCount = record.transferCount ∧
        (mxLeaseDirectEnd record).2.barMappingCount = record.barMappingCount := by
      unfold mxLeaseDirectEnd
      split <;> simp
    refine accounted.moved rfl rfl rfl found ?_ ?_ ?_ ?_ (by simp [LeaseCall.ctx?])
      (by simp [LeaseCall.isMapping]) (.inl others.2.le)
    · exact accounted.direct.leave found
        (by simp [LeaseThread.charge, standing, LeaseCall.directCtx?]) rfl counted
    · exact accounted.transfers.replace (by simp [found, others])
    · exact accounted.mappings.replace (by simp [found, others])
    · rw [counted, others.1, others.2]
      omega
  | transferGet standing free found checked =>
    rename_i thread transfer ctx record
    have bounded := accounted.bounded ctx record found
    have notMax := (mxLeaseTransferGetCheck_eq_none checked).2.2.1
    have counted := incU32_of_ne_max bounded.2.1 notMax
    refine accounted.moved rfl rfl rfl found ?_ ?_ ?_ ?_ ?_
      (by simp [LeaseCall.isMapping]) (.inl le_rfl)
    · exact (accounted.direct.replace (by simp [found])).member
        (by simp [LeaseThread.charge, standing])
    · exact accounted.transfers.enter found (by simp [transferCharge, free]) rfl counted
    · exact accounted.mappings.replace (by simp [found])
    · simp only [counted]
      omega
    · exact fun other runs => accounted.onOpen thread other (by rw [standing, runs])
  | transferPut standing inFlight found =>
    rename_i thread transfer call issued record
    have bounded := accounted.bounded issued.owner record found
    have counted : (decWarn .transferPut record.transferCount).2 =
        record.transferCount - 1 := by
      unfold decWarn
      split <;> simp [*]
    refine accounted.moved rfl rfl rfl found ?_ ?_ ?_ ?_ ?_
      (fun _ => by rw [standing]) (.inl le_rfl)
    · exact (accounted.direct.replace (by simp [found])).member
        (by simp [LeaseThread.charge, standing])
    · exact accounted.transfers.leave found (by simp [transferCharge, inFlight]) rfl
        counted
    · exact accounted.mappings.replace (by simp [found])
    · simp only [counted]
      omega
    · exact fun other runs => accounted.onOpen thread other (by rw [standing, runs])
  | mmapCheck standing found room alone =>
    rename_i thread ctx record
    refine accounted.thread rfl rfl rfl accounted.mappings rfl (by rw [standing]; rfl)
      ?_ (fun _ => .inr alone) ?_
    · exact fun other runs => accounted.onOpen thread other (by rw [standing, ← runs]; rfl)
    · intro other otherRecord mapping otherFound
      obtain rfl : ctx = other := by simpa using mapping
      obtain rfl : record = otherRecord := Option.some.inj (found.symm.trans otherFound)
      exact room
  | mmapCommit standing free found =>
    rename_i thread vma ctx record
    have bounded := accounted.bounded ctx record found
    have notMax := accounted.room ctx record found thread (by rw [standing])
    have counted := incU32_of_ne_max bounded.2.2 notMax
    refine accounted.moved rfl rfl rfl found ?_ ?_ ?_ ?_ ?_
      (by simp [LeaseCall.isMapping]) (.inr ⟨rfl, by rw [standing]; rfl⟩)
    · exact (accounted.direct.replace (by simp [found])).member
        (by simp [LeaseThread.charge, standing, LeaseCall.directCtx?])
    · exact accounted.transfers.replace (by simp [found])
    · exact accounted.mappings.enter found (by simp [vmaCharge, free]) rfl counted
    · simp only [counted]
      omega
    · exact fun other runs => accounted.onOpen thread other (by rw [standing, ← runs]; rfl)
  | mmapFail standing =>
    rename_i thread ctx
    refine accounted.thread rfl rfl rfl accounted.mappings rfl (by rw [standing]; rfl)
      ?_ (by simp [LeaseCall.isMapping]) (by simp)
    exact fun other runs => accounted.onOpen thread other (by rw [standing, ← runs]; rfl)
  | vmaOpen mapped =>
    exact { accounted with
      mappings := accounted.mappings.member (by simp [mapped, vmaCharge]) }
  | vmaClose standing mapped =>
    rename_i thread vma call mapping
    have same : (system.thread thread).call = call := by rw [standing]
    refine accounted.thread rfl rfl rfl
      (accounted.mappings.member (by simp [mapped, vmaCharge])) rfl (by rw [same]) ?_
      (fun maps => .inl (same ▸ maps)) ?_
    · exact fun other runs => accounted.onOpen thread other (by rw [same, runs])
    · exact fun ctx record maps found =>
        accounted.room ctx record found thread (same ▸ maps)
  | put standing effect => exact accounted.put balanced standing effect
  | detach idle attached =>
    exact accounted.aside rfl rfl rfl rfl rfl rfl (by rw [idle]; rfl)

omit [DecidableEq θ] [DecidableEq φ] [Fintype ι] [DecidableEq ν] [DecidableEq τ] in
theorem start (incarnation : UInt64) :
    Accounted (LeaseSystem.start incarnation : LeaseSystem ι θ τ ν φ) where
  direct _ := (holdings_eq_zero fun _ => by
    simp [LeaseSystem.start, LeaseThread.charge, LeaseCall.directCtx?]).symm
  transfers _ := (holdings_eq_zero fun _ => by
    simp [LeaseSystem.start, transferCharge]).symm
  mappings _ := (holdings_eq_zero fun _ => by
    simp [LeaseSystem.start, vmaCharge]).symm
  bounded := by simp [LeaseSystem.start]
  onOpen := by simp [LeaseSystem.start, LeaseCall.ctx?]
  locked := by simp [LeaseSystem.start, LeaseCall.isMapping]
  room := by simp [LeaseSystem.start]

end Accounted

/-- References and charges are exact. -/
structure Audited [DecidableEq ι] [DecidableEq φ] [Fintype ι] [Fintype θ] [Fintype τ]
    [Fintype ν] (system : LeaseSystem ι θ τ ν φ) : Prop extends Referenced system where
  accounted : Accounted system

variable [DecidableEq ι] [DecidableEq θ] [DecidableEq τ] [DecidableEq ν]
  [DecidableEq φ]
variable [Fintype ι] [Fintype θ] [Fintype τ] [Fintype ν]

theorem Audited.step {system next : LeaseSystem ι θ τ ν φ}
    {action : LeaseAction ι θ τ ν φ} (audited : Audited system)
    (stepped : leaseStep system action = some next) : Audited next := by
  refine ⟨audited.toReferenced.step stepped, ?_⟩
  cases leaseStep_effect stepped with
  | call effect =>
    rcases effect.isSection audited.complete.contexts with rfl | isSection
    · exact audited.accounted
    · exact audited.accounted.afterSection isSection
  | life effect => exact audited.accounted.life audited.balanced effect

omit [DecidableEq θ] [DecidableEq τ] [DecidableEq ν] in
theorem audited_start (incarnation : UInt64) :
    Audited (LeaseSystem.start incarnation : LeaseSystem ι θ τ ν φ) :=
  ⟨referenced_start incarnation, .start incarnation⟩

/-- References and charges are exact in every interleaving. -/
theorem audited_of_reached {incarnation : UInt64} {system : LeaseSystem ι θ τ ν φ}
    (reached : Reached leaseStep (LeaseSystem.start incarnation) system) : Audited system :=
  reached.invariant (audited_start incarnation) fun _ _ _ audited _ stepped =>
    audited.step stepped

end MxDriver
