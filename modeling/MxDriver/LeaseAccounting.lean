import MxDriver.LeaseBalanceSteps

/-!
# What is charged to a context

A context counts the direct sections, transfers and mappings that run on it.
Each of the three counters is the number of threads, transfers or mappings that
name the context, so a context with a nonzero counter is still alive, and a
context that is freed has none.
-/

namespace MxDriver

variable {ι θ τ ν φ κ α : Type*}

section Charged

variable [DecidableEq ι]

/-- A counter of the contexts is the number of charges that name them. -/
def Charged [Fintype κ] (count : FileCtx φ → Nat) (charge : α → List ι)
    (contexts : ι → Option (FileCtx φ)) (family : κ → α) : Prop :=
  ∀ ctx, (contexts ctx).elim 0 count = holdings charge family ctx

variable [Fintype κ] {count : FileCtx φ → Nat} {charge : α → List ι}
variable {contexts : ι → Option (FileCtx φ)} {family : κ → α}

variable (charged : Charged count charge contexts family)
include charged

theorem Charged.replace {ctx : ι}
    {record : Option (FileCtx φ)} (same : record.elim 0 count = (contexts ctx).elim 0 count) :
    Charged count charge (Function.update contexts ctx record) family := by
  intro other
  rw [elim_update, ← charged other]
  split
  · rename_i this
    rw [same, this]
  · rfl

variable [DecidableEq κ]

theorem Charged.member {index : κ} {value : α} (same : charge value = charge (family index)) :
    Charged count charge contexts (Function.update family index value) := by
  intro ctx
  have moved := holdings_update charge family index value ctx
  rw [same] at moved
  rw [charged ctx]
  omega

theorem Charged.enter {ctx : ι} {index : κ} {value : α} {record newRecord : FileCtx φ}
    (found : contexts ctx = some record) (before : charge (family index) = [])
    (after : charge value = [ctx]) (counted : count newRecord = count record + 1) :
    Charged count charge (Function.update contexts ctx (some newRecord))
      (Function.update family index value) := by
  intro other
  have moved := holdings_update charge family index value other
  have counts := charged other
  rw [before, after] at moved
  rw [elim_update]
  by_cases same : ctx = other
  · subst other
    simp [found] at counts moved ⊢
    omega
  · simp [same] at moved ⊢
    omega

omit [DecidableEq κ] in
theorem Charged.pos {ctx : ι} {index : κ} {record : FileCtx φ} (found : contexts ctx = some record)
    (before : charge (family index) = [ctx]) : 0 < count record := by
  have counts := charged ctx
  have member : ctx ∈ charge (family index) := by simp [before]
  have positive := holdings_pos member
  simp only [found, Option.elim_some] at counts
  omega

theorem Charged.leave {ctx : ι} {index : κ} {value : α} {record newRecord : FileCtx φ}
    (found : contexts ctx = some record) (before : charge (family index) = [ctx])
    (after : charge value = []) (counted : count newRecord = count record - 1) :
    Charged count charge (Function.update contexts ctx (some newRecord))
      (Function.update family index value) := by
  intro other
  have moved := holdings_update charge family index value other
  have counts := charged other
  have positive := charged.pos found before
  rw [before, after] at moved
  rw [elim_update]
  by_cases same : ctx = other
  · subst other
    simp [found] at counts moved ⊢
    omega
  · simp [same] at moved ⊢
    omega

end Charged

def LeaseThread.charge (thread : LeaseThread ι ν φ) : List ι :=
  thread.call.directCtx?.toList

def transferCharge : Option (TransferLease ι φ) → List ι
  | none => []
  | some transfer => [transfer.owner]

def vmaCharge : Option (BarVma ι) → List ι
  | none => []
  | some mapping => [mapping.owner]

/-- The counters of the contexts are exact and have not wrapped; calls run on
open files, and only the thread with the lock of the BAR map adds a mapping. -/
structure Accounted [DecidableEq ι] [Fintype θ] [Fintype τ] [Fintype ν]
    (system : LeaseSystem ι θ τ ν φ) : Prop where
  direct : Charged FileCtx.directCount LeaseThread.charge system.ctx system.thread
  transfers : Charged FileCtx.transferCount transferCharge system.ctx system.transfer
  mappings : Charged FileCtx.barMappingCount vmaCharge system.ctx system.vma
  bounded : ∀ ctx record, system.ctx ctx = some record →
    record.directCount ≤ u32Max ∧ record.transferCount ≤ u32Max ∧
      record.barMappingCount ≤ u32Max
  onOpen : ∀ thread ctx, (system.thread thread).call.ctx? = some ctx →
    system.opened ctx = true
  locked : ∀ first second, (system.thread first).call.isMapping = true →
    (system.thread second).call.isMapping = true → first = second
  room : ∀ ctx record, system.ctx ctx = some record → ∀ thread,
    (system.thread thread).call = .mapping ctx → record.barMappingCount ≠ u32Max

section Guards

variable [DecidableEq ι] [DecidableEq θ] {threads : θ → LeaseThread ι ν φ}
variable {thread : θ} {call : LeaseCall ι φ} {todo : List (Todo ι ν φ)}

omit [DecidableEq ι] in
/-- The lock of the BAR map is taken only when it is free. -/
theorem locked_update (locked : ∀ first second, (threads first).call.isMapping = true →
      (threads second).call.isMapping = true → first = second)
    (free : call.isMapping = true → (threads thread).call.isMapping = true ∨
      ∀ other, (threads other).call.isMapping = false) :
    ∀ first second,
      (Function.update threads thread ⟨call, todo⟩ first).call.isMapping = true →
      (Function.update threads thread ⟨call, todo⟩ second).call.isMapping = true →
        first = second := by
  have here : ∀ other, other ≠ thread → call.isMapping = true →
      (threads other).call.isMapping = true → False := by
    intro other different mapping otherMapping
    rcases free mapping with held | free
    · exact different (locked other thread otherMapping held)
    · simp [free other] at otherMapping
  intro first second firstMaps secondMaps
  by_cases firstHere : first = thread <;> by_cases secondHere : second = thread
  · rw [firstHere, secondHere]
  · subst first
    simp [secondHere] at firstMaps secondMaps
    exact (here second secondHere firstMaps secondMaps).elim
  · subst second
    simp [firstHere] at firstMaps secondMaps
    exact (here first firstHere secondMaps firstMaps).elim
  · simp [firstHere, secondHere] at firstMaps secondMaps
    exact locked first second firstMaps secondMaps

omit [DecidableEq ι] [DecidableEq θ] in
theorem isMapping_of_mapping {ctx : ι} (mapping : call = .mapping ctx) : call.isMapping = true := by
  rw [mapping]
  rfl

omit [DecidableEq ι] [DecidableEq θ] in
theorem not_isMapping_of_outside (outside : call.directCtx? = none) : call.isMapping = false := by
  cases call with
  | mapping => cases outside
  | _ => rfl

end Guards

namespace Accounted

section Counts

variable [DecidableEq ι] [Fintype θ] [Fintype τ] [Fintype ν]
variable {system : LeaseSystem ι θ τ ν φ} {record : FileCtx φ}

/-- No thread is in a direct section of a context whose count is zero. -/
theorem directCount_pos (accounted : Accounted system) {thread : θ} {ctx : ι}
    (runs : (system.thread thread).call.directCtx? = some ctx)
    (found : system.ctx ctx = some record) : 0 < record.directCount := by
  have charge : LeaseThread.charge (system.thread thread) = [ctx] := by
    simp [LeaseThread.charge, runs]
  exact accounted.direct.pos found charge

/-- No transfer is in flight on a context whose count is zero. -/
theorem transferCount_pos (accounted : Accounted system) {transfer : τ}
    {issued : TransferLease ι φ} (inFlight : system.transfer transfer = some issued)
    (found : system.ctx issued.owner = some record) : 0 < record.transferCount := by
  have charge : transferCharge (system.transfer transfer) = [issued.owner] := by
    simp [transferCharge, inFlight]
  exact accounted.transfers.pos found charge

/-- No BAR mapping is left of a context whose count is zero. -/
theorem barMappingCount_pos (accounted : Accounted system) {vma : ν} {mapping : BarVma ι}
    (mapped : system.vma vma = some mapping)
    (found : system.ctx mapping.owner = some record) : 0 < record.barMappingCount := by
  have charge : vmaCharge (system.vma vma) = [mapping.owner] := by
    simp [vmaCharge, mapped]
  exact accounted.mappings.pos found charge

end Counts

variable [DecidableEq ι] [DecidableEq θ]
variable [Fintype θ] [Fintype τ] [Fintype ν]
variable {system next : LeaseSystem ι θ τ ν φ}

theorem thread (accounted : Accounted system) {thread : θ} {call : LeaseCall ι φ}
    {todo : List (Todo ι ν φ)} (contexts : next.ctx = system.ctx)
    (threads : next.thread = Function.update system.thread thread ⟨call, todo⟩)
    (transfers : next.transfer = system.transfer)
    (mappings : Charged FileCtx.barMappingCount vmaCharge system.ctx next.vma)
    (opened : next.opened = system.opened)
    (direct : call.directCtx? = (system.thread thread).call.directCtx?)
    (onOpen : ∀ ctx, call.ctx? = some ctx → system.opened ctx = true)
    (free : call.isMapping = true → (system.thread thread).call.isMapping = true ∨
      ∀ other, (system.thread other).call.isMapping = false)
    (room : ∀ ctx record, call = .mapping ctx → system.ctx ctx = some record →
      record.barMappingCount ≠ u32Max) : Accounted next where
  direct := by
    rw [contexts, threads]
    exact accounted.direct.member (by simp only [LeaseThread.charge, direct])
  transfers := by
    rw [contexts, transfers]
    exact accounted.transfers
  mappings := by
    rw [contexts]
    exact mappings
  bounded := by
    rw [contexts]
    exact accounted.bounded
  onOpen := by
    rw [threads, opened]
    exact calls_update (p := fun call => ∀ ctx, call.ctx? = some ctx →
      system.opened ctx = true) accounted.onOpen onOpen
  locked := by
    rw [threads]
    exact locked_update accounted.locked free
  room := by
    rw [threads, contexts]
    intro ctx record found
    exact calls_update (p := fun call => call = .mapping ctx →
      record.barMappingCount ≠ u32Max) (accounted.room ctx record found)
      fun mapping => room ctx record mapping found

theorem moved (accounted : Accounted system) {thread : θ} {ctx : ι}
    {record newRecord : FileCtx φ} {call : LeaseCall ι φ} {todo : List (Todo ι ν φ)}
    (contexts : next.ctx = Function.update system.ctx ctx (some newRecord))
    (threads : next.thread = Function.update system.thread thread ⟨call, todo⟩)
    (opened : next.opened = system.opened) (found : system.ctx ctx = some record)
    (direct : Charged FileCtx.directCount LeaseThread.charge next.ctx next.thread)
    (transfers : Charged FileCtx.transferCount transferCharge next.ctx next.transfer)
    (mappings : Charged FileCtx.barMappingCount vmaCharge next.ctx next.vma)
    (bounded : newRecord.directCount ≤ u32Max ∧ newRecord.transferCount ≤ u32Max ∧
      newRecord.barMappingCount ≤ u32Max)
    (onOpen : ∀ other, call.ctx? = some other → system.opened other = true)
    (kept : call.isMapping = true → (system.thread thread).call = call)
    (room : newRecord.barMappingCount ≤ record.barMappingCount ∨
      call.isMapping = false ∧ (system.thread thread).call.isMapping = true) : Accounted next where
  direct := direct
  transfers := transfers
  mappings := mappings
  bounded := by
    rw [contexts]
    exact records_update (p := fun _ record => record.directCount ≤ u32Max ∧
      record.transferCount ≤ u32Max ∧ record.barMappingCount ≤ u32Max)
      accounted.bounded bounded
  onOpen := by
    rw [threads, opened]
    exact calls_update (p := fun call => ∀ ctx, call.ctx? = some ctx →
      system.opened ctx = true) accounted.onOpen onOpen
  locked := by
    rw [threads]
    refine locked_update accounted.locked fun mapping => .inl ?_
    rw [kept mapping]
    exact mapping
  room := by
    have bound := (accounted.bounded ctx record found).2.2
    rw [threads, contexts]
    refine records_update (p := fun ctx record => ∀ other,
      (Function.update system.thread thread ⟨call, todo⟩ other).call = .mapping ctx →
        record.barMappingCount ≠ u32Max) ?_ ?_
    · intro other otherRecord otherFound
      refine calls_update (p := fun call => call = .mapping other →
        otherRecord.barMappingCount ≠ u32Max) (accounted.room other otherRecord otherFound)
        fun mapping => accounted.room other otherRecord otherFound thread ?_
      rw [kept (isMapping_of_mapping mapping), mapping]
    · intro other mapping
      by_cases here : other = thread
      · subst other
        replace mapping : call = .mapping ctx := by simpa using mapping
        have maps := isMapping_of_mapping mapping
        have before := accounted.room ctx record found thread (by rw [kept maps, mapping])
        rcases room with less | left
        · omega
        · simp [left.1] at maps
      · rw [Function.update_of_ne here] at mapping
        have before := accounted.room ctx record found other mapping
        rcases room with less | left
        · omega
        · exact (here (accounted.locked other thread (isMapping_of_mapping mapping)
            left.2)).elim

end Accounted

end MxDriver
