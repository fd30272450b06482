import MxDriver.BarMap

/-!
# BAR mappings and mailboxes exclude each other

While fewer than `2 ^ 32` VMAs of the BAR live, the count of the map is their number, so
no mailbox is registered beside a mapping.  A mailbox, once registered, keeps its
contexts, and the number that the driver keeps for itself is never registered.
-/

namespace MxDriver

theorem rCtxAddr_of_createMxMbox {ctxAddr dataAddr : BitVec 64} {read : CtxRead} {allocated : Bool}
    {mbox : MxMbox} (created : createMxMbox ctxAddr dataAddr read allocated = .ok mbox) :
    mbox.rCtxAddr = ctxAddr := by
  cases read with
  | failed error => cases created
  | nothing => cases created
  | word ctx =>
    simp only [createMxMbox] at created
    split at created
    · cases created
    · split at created
      · cases created
        rfl
      · cases created

namespace BarSystem

variable {ι β θ : Type*}

/-- The mailboxes of the request are registered. -/
def Registered (system : BarSystem ι β θ) (info : MboxInfo) : Prop :=
  ∃ qid sqMbox cqMbox, qid.val = info.qid ∧
    system.sqMboxList qid = some sqMbox ∧ system.cqMboxList qid = some cqMbox ∧
      sqMbox.rCtxAddr = info.sqCtxAddr ∧ cqMbox.rCtxAddr = info.cqCtxAddr

/-- The number of the request passed the checks at the entry. -/
def Admitted (system : BarSystem ι β θ) (qid : Fin maxNumOfMbox) (info : MboxInfo) : Prop :=
  qid.val = info.qid ∧ (qid.val : Int) ≠ system.reservedHioQid

/-- What a call has made sure of. -/
def CallOk (system : BarSystem ι β θ) : RegisterCall → Prop
  | .idle => True
  | .checking qid info | .creatingSq qid info => system.Admitted qid info
  | .creatingCq qid info sqMbox =>
    system.Admitted qid info ∧ sqMbox.rCtxAddr = info.sqCtxAddr
  | .publishing qid info sqMbox cqMbox =>
    system.Admitted qid info ∧ sqMbox.rCtxAddr = info.sqCtxAddr ∧
      cqMbox.rCtxAddr = info.cqCtxAddr
  | .returned (some info) none => system.Registered info
  | .returned _ _ => True

/-- No registration is undone or replaced. -/
structure Extends (system next : BarSystem ι β θ) : Prop where
  reserved : next.reservedHioQid = system.reservedHioQid
  sqMbox : ∀ qid mbox, system.sqMboxList qid = some mbox → next.sqMboxList qid = some mbox
  cqMbox : ∀ qid mbox, system.cqMboxList qid = some mbox → next.cqMboxList qid = some mbox

theorem Extends.refl (system : BarSystem ι β θ) : Extends system system :=
  ⟨rfl, fun _ _ => id, fun _ _ => id⟩

theorem Extends.trans {system middle next : BarSystem ι β θ} (first : Extends system middle)
    (second : Extends middle next) : Extends system next where
  reserved := second.reserved.trans first.reserved
  sqMbox qid mbox found := second.sqMbox qid mbox (first.sqMbox qid mbox found)
  cqMbox qid mbox found := second.cqMbox qid mbox (first.cqMbox qid mbox found)

theorem CallOk.extends {system next : BarSystem ι β θ} {call : RegisterCall}
    (ok : system.CallOk call) (grown : Extends system next) : next.CallOk call := by
  cases call with
  | idle => trivial
  | checking qid info | creatingSq qid info => exact ⟨ok.1, grown.reserved ▸ ok.2⟩
  | creatingCq qid info sqMbox | publishing qid info sqMbox cqMbox =>
    exact ⟨⟨ok.1.1, grown.reserved ▸ ok.1.2⟩, ok.2⟩
  | returned info ret =>
    cases info with
    | none => trivial
    | some info =>
      cases ret with
      | some error => trivial
      | none =>
        obtain ⟨qid, sqMbox, cqMbox, same, sq, cq, addresses⟩ := ok
        exact ⟨qid, sqMbox, cqMbox, same, grown.sqMbox qid sqMbox sq,
          grown.cqMbox qid cqMbox cq, addresses⟩

/-- The objects of the mappings: each has as many references as live VMAs, and it exists
as long as it has a VMA or is about to be freed. -/
structure ObjectsOk [DecidableEq β] (barVma : β → Option (BarVma ι)) (vmas : Multiset β)
    (closing : Finset β) : Prop where
  refs : ∀ shared object, barVma shared = some object → object.refs = vmas.count shared
  live : ∀ shared, shared ∈ vmas ∨ shared ∈ closing → (barVma shared).isSome
  closed : ∀ shared ∈ closing, shared ∉ vmas

/-- The invariant of the mappings and mailboxes. -/
structure Ok [DecidableEq β] (system : BarSystem ι β θ) : Prop where
  count : system.count = Multiset.card system.vmas
  exclusive : system.vmas ≠ 0 → ∀ qid, system.sqMboxList qid = none
  together : ∀ qid, (system.sqMboxList qid).isSome = (system.cqMboxList qid).isSome
  reserved : ∀ qid, (system.sqMboxList qid).isSome → (qid.val : Int) ≠ system.reservedHioQid
  call : ∀ thread, system.CallOk (system.call thread)
  mapping : system.mapping.isSome ↔ system.vmas ≠ 0
  objects : ObjectsOk system.barVma system.vmas system.closing

variable [DecidableEq ι] [DecidableEq β] [DecidableEq θ]

/-- The step leaves fewer than `2 ^ 32` live VMAs. -/
def Room (system : BarSystem ι β θ) (action : BarAction ι β θ) : Prop :=
  ∀ next ∈ barStep system action, Multiset.card next.vmas < 2 ^ 32

instance (system : BarSystem ι β θ) (action : BarAction ι β θ) : Decidable (system.Room action) :=
  inferInstanceAs (Decidable (∀ next ∈ barStep system action, Multiset.card next.vmas < 2 ^ 32))

omit [DecidableEq ι] [DecidableEq θ] in
theorem ok_start (reservedHioQid : Int) (barMappedSize : Nat) :
    (start reservedHioQid barMappedSize : BarSystem ι β θ).Ok := by
  constructor
  case objects => constructor <;> simp [start]
  all_goals simp [start, CallOk]

section Sections

variable {system : BarSystem ι β θ} {qid : Fin maxNumOfMbox} {info : MboxInfo}

omit [DecidableEq ι] [DecidableEq β] [DecidableEq θ]

theorem registerSection_eq_none (goesOn : system.registerSection qid info = none) :
    system.count = 0 ∧ system.sqMboxList qid = none := by
  unfold registerSection at goesOn
  split at goesOn
  · cases goesOn
  · rename_i unmapped
    split at goesOn
    · cases goesOn
    · rename_i free
      exact ⟨not_not.mp unmapped, Option.not_isSome_iff_eq_none.mp free⟩

/-- A section that lets the call succeed has found the very mailboxes. -/
theorem registered_of_registerSection (admitted : system.Admitted qid info)
    (succeeds : system.registerSection qid info = some none) : system.Registered info := by
  unfold registerSection at succeeds
  split at succeeds
  · cases succeeds
  split at succeeds
  · unfold registeredMboxMatches at succeeds
    split at succeeds
    · rename_i sqMbox cqMbox sq cq
      simp only [Option.some.injEq, ite_eq_left_iff, reduceCtorEq, imp_false, not_not,
        Bool.and_eq_true, decide_eq_true_eq] at succeeds
      exact ⟨qid, sqMbox, cqMbox, admitted.1, sq, cq, succeeds⟩
    · cases succeeds
  · cases succeeds

theorem callOk_of_registerSection {ret : Ret} (admitted : system.Admitted qid info)
    (returns : system.registerSection qid info = some ret) :
    system.CallOk (.returned (some info) ret) := by
  cases ret with
  | none => exact registered_of_registerSection admitted returns
  | some error => trivial

theorem callOk_registerEntry (copied : Option MboxInfo) :
    system.CallOk (system.registerEntry copied) := by
  cases copied with
  | none => trivial
  | some info =>
    simp only [registerEntry]
    split
    · split
      · trivial
      · rename_i inRange unreserved
        refine ⟨rfl, fun same => unreserved ⟨?_, same⟩⟩
        rw [← same]
        exact Int.natCast_nonneg _
    · trivial

end Sections

section Registration

variable {system next : BarSystem ι β θ}

omit [DecidableEq ι]

theorem Ok.calls (ok : system.Ok) {thread : θ} {call : RegisterCall} (grown : Extends system next)
    (calls : next.call = Function.update system.call thread call) (valid : next.CallOk call)
    (other : θ) : next.CallOk (next.call other) := by
  rw [calls, Function.update_apply]
  split
  · exact valid
  · exact (ok.call other).extends grown

theorem Ok.setCall (ok : system.Ok) {thread : θ} {call : RegisterCall}
    (valid : system.CallOk call) : (system.setCall thread call).Ok := by
  have grown : Extends system (system.setCall thread call) := ⟨rfl, fun _ _ => id, fun _ _ => id⟩
  exact { ok with call := ok.calls grown rfl (valid.extends grown) }

theorem Ok.leave (ok : system.Ok) {thread : θ} {qid : Fin maxNumOfMbox} {info : MboxInfo}
    {ret : Ret} (admitted : system.Admitted qid info)
    (returns : system.registerSection qid info = some ret) :
    (system.setCall thread (.returned (some info) ret)).Ok :=
  ok.setCall (callOk_of_registerSection admitted returns)

theorem Ok.register (ok : system.Ok) {thread : θ} {info : Option MboxInfo}
    (step : system.register thread info = some next) : next.Ok := by
  unfold BarSystem.register at step
  split at step <;> cases step <;> exact ok.setCall (callOk_registerEntry info)

theorem Ok.check (ok : system.Ok) {thread : θ} (step : system.check thread = some next) :
    next.Ok := by
  unfold BarSystem.check at step
  split at step
  · rename_i qid info stands
    have admitted : system.Admitted qid info := by simpa [CallOk, stands] using ok.call thread
    split at step <;> cases step
    · rename_i ret returns
      exact ok.leave admitted returns
    · exact ok.setCall admitted
  · cases step

theorem Ok.createSq (ok : system.Ok) {thread : θ} {read : CtxRead} {allocated : Bool}
    (step : system.createSq thread read allocated = some next) : next.Ok := by
  unfold BarSystem.createSq at step
  split at step
  · rename_i qid info stands
    have admitted : system.Admitted qid info := by simpa [CallOk, stands] using ok.call thread
    split at step <;> cases step
    · exact ok.setCall trivial
    · rename_i sqMbox created
      exact ok.setCall ⟨admitted, rCtxAddr_of_createMxMbox created⟩
  · cases step

theorem Ok.createCq (ok : system.Ok) {thread : θ} {read : CtxRead} {allocated : Bool}
    (step : system.createCq thread read allocated = some next) : next.Ok := by
  unfold BarSystem.createCq at step
  split at step
  · rename_i qid info sqMbox stands
    obtain ⟨admitted, address⟩ : system.Admitted qid info ∧ sqMbox.rCtxAddr = info.sqCtxAddr := by
      simpa [CallOk, stands] using ok.call thread
    split at step <;> cases step
    · exact ok.setCall trivial
    · rename_i cqMbox created
      exact ok.setCall ⟨admitted, address, rCtxAddr_of_createMxMbox created⟩
  · cases step

omit [DecidableEq β] in
theorem publish_eq_some {thread : θ} (step : system.publish thread = some next) :
    ∃ qid info sqMbox cqMbox, system.call thread = .publishing qid info sqMbox cqMbox ∧
      ((∃ ret, system.registerSection qid info = some ret ∧
          next = system.setCall thread (.returned (some info) ret)) ∨
        (system.count = 0 ∧ system.sqMboxList qid = none ∧
          next = { system.setCall thread (.returned (some info) none) with
            sqMboxList := Function.update system.sqMboxList qid (some sqMbox)
            cqMboxList := Function.update system.cqMboxList qid (some cqMbox) })) := by
  unfold BarSystem.publish at step
  split at step
  · rename_i qid info sqMbox cqMbox stands
    refine ⟨qid, info, sqMbox, cqMbox, stands, ?_⟩
    split at step <;> cases step
    · rename_i ret returns
      exact .inl ⟨ret, returns, rfl⟩
    · rename_i goesOn
      obtain ⟨unmapped, free⟩ := registerSection_eq_none goesOn
      exact .inr ⟨unmapped, free, rfl⟩
  · cases step

/-- Registering fills a slot that is free in both lists. -/
theorem extends_publish (ok : system.Ok) (thread : θ) {qid : Fin maxNumOfMbox}
    (free : system.sqMboxList qid = none) (call : RegisterCall) (sqMbox cqMbox : MxMbox) :
    Extends system { system.setCall thread call with
      sqMboxList := Function.update system.sqMboxList qid (some sqMbox)
      cqMboxList := Function.update system.cqMboxList qid (some cqMbox) } where
  reserved := rfl
  sqMbox other mbox found := by
    have distinct : other ≠ qid := by
      rintro rfl
      cases free.symm.trans found
    exact (Function.update_of_ne distinct _ _).trans found
  cqMbox other mbox found := by
    have distinct : other ≠ qid := by
      rintro rfl
      have both := ok.together other
      simp [free, found] at both
    exact (Function.update_of_ne distinct _ _).trans found

theorem Ok.publish (ok : system.Ok) {thread : θ} (step : system.publish thread = some next) :
    next.Ok := by
  obtain ⟨qid, info, sqMbox, cqMbox, stands, outcome⟩ := publish_eq_some step
  obtain ⟨admitted, sqAddr, cqAddr⟩ : system.Admitted qid info ∧
      sqMbox.rCtxAddr = info.sqCtxAddr ∧ cqMbox.rCtxAddr = info.cqCtxAddr := by
    simpa [CallOk, stands] using ok.call thread
  rcases outcome with ⟨ret, returns, rfl⟩ | ⟨unmapped, free, rfl⟩
  · exact ok.leave admitted returns
  · have grown := extends_publish ok thread free (.returned (some info) none) sqMbox cqMbox
    have empty : system.vmas = 0 := Multiset.card_eq_zero.mp (ok.count.symm.trans unmapped)
    exact
    { ok with
      exclusive := fun mapped => (mapped empty).elim
      together := by
        intro other
        by_cases same : other = qid
        · subst same
          simp
        · simpa [same] using ok.together other
      reserved := by
        intro other found
        by_cases same : other = qid
        · exact same ▸ admitted.2
        · exact ok.reserved other (by simpa [same] using found)
      call := ok.calls grown rfl
        ⟨qid, sqMbox, cqMbox, admitted.1, by simp, by simp, sqAddr, cqAddr⟩ }

end Registration

section Objects

variable {objects : β → Option (BarVma ι)} {vmas : Multiset β} {closing : Finset β} {barVma : β}
variable {object : BarVma ι}

omit [DecidableEq ι]

theorem ObjectsOk.add (ok : ObjectsOk objects vmas closing) (stays : barVma ∉ closing)
    (refs : object.refs = vmas.count barVma + 1) :
    ObjectsOk (Function.update objects barVma (some object)) (barVma ::ₘ vmas) closing where
  refs shared entry found := by
    by_cases same : shared = barVma
    · subst same
      obtain rfl : object = entry := by simpa using found
      simp [refs]
    · simpa [same] using ok.refs shared entry (by simpa [same] using found)
  live shared used := by
    by_cases same : shared = barVma
    · simp [same]
    · simpa [same] using ok.live shared (by simpa [same] using used)
  closed shared closes := by
    have distinct : shared ≠ barVma := fun same => stays (same ▸ closes)
    simpa [distinct] using ok.closed shared closes

theorem ObjectsOk.close (ok : ObjectsOk objects vmas closing) (found : objects barVma = some object)
    (mapped : barVma ∈ vmas) :
    ObjectsOk
      (Function.update objects barVma (some { object with refs := object.refs - 1 }))
      (vmas.erase barVma) (if object.refs = 1 then insert barVma closing else closing) := by
  have counted := ok.refs barVma object found
  have positive := Multiset.count_pos.mpr mapped
  have erased : ∀ shared, shared ≠ barVma → (shared ∈ vmas.erase barVma ↔ shared ∈ vmas) :=
    fun shared distinct => Multiset.mem_erase_of_ne distinct
  constructor
  · intro shared entry stored
    by_cases same : shared = barVma
    · subst same
      obtain rfl : { object with refs := object.refs - 1 } = entry := by simpa using stored
      simp [counted]
    · simpa [same] using ok.refs shared entry (by simpa [same] using stored)
  · intro shared used
    by_cases same : shared = barVma
    · simp [same]
    · have before : shared ∈ vmas ∨ shared ∈ closing := by
        rw [erased shared same] at used
        split at used
        · simpa [same] using used
        · exact used
      simpa [same] using ok.live shared before
  · intro shared closes
    by_cases same : shared = barVma
    · subst same
      have last : object.refs = 1 := by
        by_contra more
        rw [if_neg more] at closes
        exact ok.closed shared closes mapped
      rw [← Multiset.count_eq_zero, Multiset.count_erase_self]
      omega
    · rw [erased shared same]
      apply ok.closed shared
      split at closes
      · simpa [same] using closes
      · exact closes

theorem ObjectsOk.free (ok : ObjectsOk objects vmas closing) (closes : barVma ∈ closing) :
    ObjectsOk (Function.update objects barVma none) vmas (closing.erase barVma) where
  refs shared entry found := by
    by_cases same : shared = barVma
    · simp [same] at found
    · exact ok.refs shared entry (by simpa [same] using found)
  live shared used := by
    have distinct : shared ≠ barVma := by
      rintro rfl
      simp [ok.closed shared closes] at used
    simpa [distinct] using ok.live shared (by simpa [distinct] using used)
  closed shared stays := ok.closed shared (Finset.mem_of_mem_erase stays)

end Objects

section Mappings

variable {system next : BarSystem ι β θ} {barVma : β}

omit [DecidableEq ι] [DecidableEq β] [DecidableEq θ] in
theorem unregistered_of_mxBarMmapRet {ctx : ι} {request : MmapRequest}
    (succeeds : system.mxBarMmapRet ctx request = none) (qid : Fin maxNumOfMbox) :
    system.sqMboxList qid = none := by
  unfold mxBarMmapRet at succeeds
  split at succeeds
  · cases succeeds
  split at succeeds
  · cases succeeds
  · rename_i free
    exact Option.not_isSome_iff_eq_none.mp fun found => free ⟨qid, found⟩

omit [DecidableEq ι] [DecidableEq θ] in
theorem Ok.incU32_count (ok : system.Ok) (room : Multiset.card (barVma ::ₘ system.vmas) < 2 ^ 32) :
    incU32 system.count = Multiset.card (barVma ::ₘ system.vmas) := by
  rw [Multiset.card_cons] at room ⊢
  rw [incU32, ok.count, Nat.mod_eq_of_lt room]

omit [DecidableEq θ] in
theorem Ok.mxBarMmap (ok : system.Ok) {ctx : ι} {request : MmapRequest}
    (fresh : system.barVma barVma = none)
    (room : Multiset.card (system.mxBarMmap ctx request barVma).vmas < 2 ^ 32) :
    (system.mxBarMmap ctx request barVma).Ok := by
  unfold BarSystem.mxBarMmap at room ⊢
  split
  · exact ok
  rename_i succeeds
  have unregistered := unregistered_of_mxBarMmapRet succeeds
  have unused : barVma ∉ system.vmas ∧ barVma ∉ system.closing := by
    rw [← not_or]
    intro used
    simpa [fresh] using ok.objects.live barVma used
  rw [succeeds] at room
  exact
  { ok with
    count := ok.incU32_count room
    exclusive := fun _ => unregistered
    call := fun thread => (ok.call thread).extends ⟨rfl, fun _ _ => id, fun _ _ => id⟩
    mapping := by simp
    objects := ok.objects.add unused.2 (by simp [Multiset.count_eq_zero.mpr unused.1]) }

omit [DecidableEq ι] [DecidableEq θ] in
theorem Ok.mxBarVmaOpen (ok : system.Ok) (step : system.mxBarVmaOpen barVma = some next)
    (room : Multiset.card next.vmas < 2 ^ 32) : next.Ok := by
  unfold BarSystem.mxBarVmaOpen at step
  split at step
  · cases step
  rename_i object found
  split at step
  swap
  · cases step
  rename_i mapped
  cases step
  have some : system.vmas ≠ 0 := fun empty => by simp [empty] at mapped
  have stays : barVma ∉ system.closing := fun closes => ok.objects.closed barVma closes mapped
  exact
  { ok with
    count := ok.incU32_count room
    exclusive := fun _ => ok.exclusive some
    call := fun thread => (ok.call thread).extends ⟨rfl, fun _ _ => id, fun _ _ => id⟩
    mapping := by simp [ok.mapping, some]
    objects := ok.objects.add stays (by simp [ok.objects.refs barVma object found]) }

omit [DecidableEq ι] [DecidableEq θ] in
theorem Ok.mxBarVmaClose (ok : system.Ok) (step : system.mxBarVmaClose barVma = some next) :
    next.Ok := by
  unfold BarSystem.mxBarVmaClose at step
  split at step
  · cases step
  rename_i object found
  split at step
  swap
  · cases step
  rename_i mapped
  cases step
  have some : system.vmas ≠ 0 := fun empty => by simp [empty] at mapped
  have counted : system.count = Multiset.card (system.vmas.erase barVma) + 1 := by
    rw [ok.count, Multiset.card_erase_add_one mapped]
  exact
  { ok with
    count := by simp [counted]
    exclusive := fun _ => ok.exclusive some
    call := fun thread => (ok.call thread).extends ⟨rfl, fun _ _ => id, fun _ _ => id⟩
    mapping := by
      by_cases last : system.vmas.erase barVma = 0
      · simp [counted, last]
      · simp [counted, last, ok.mapping, some]
    objects := ok.objects.close found mapped }

omit [DecidableEq θ] in
theorem Ok.uncharge (ok : system.Ok) (step : system.uncharge barVma = some next) : next.Ok := by
  unfold BarSystem.uncharge at step
  split at step
  · cases step
  split at step
  · rename_i closes
    cases step
    exact
    { ok with
      call := fun thread => (ok.call thread).extends ⟨rfl, fun _ _ => id, fun _ _ => id⟩
      objects := ok.objects.free closes }
  · cases step

end Mappings

section Runs

variable {system next : BarSystem ι β θ} {action : BarAction ι β θ}

theorem Ok.step (ok : system.Ok) (room : system.Room action)
    (step : barStep system action = some next) : next.Ok := by
  have bounded : Multiset.card next.vmas < 2 ^ 32 := room next step
  cases action with
  | online =>
    cases step
    exact { ok with
      call := fun thread => (ok.call thread).extends ⟨rfl, fun _ _ => id, fun _ _ => id⟩ }
  | mmap ctx request barVma =>
    cases barVma with
    | none =>
      cases step
      exact ok
    | some barVma =>
      simp only [barStep] at step
      split at step
      · rename_i fresh
        cases step
        exact ok.mxBarMmap fresh bounded
      · cases step
  | vmaOpen barVma => exact ok.mxBarVmaOpen step bounded
  | vmaClose barVma => exact ok.mxBarVmaClose step
  | uncharge barVma => exact ok.uncharge step
  | register thread info => exact ok.register step
  | check thread => exact ok.check step
  | createSq thread read allocated => exact ok.createSq step
  | createCq thread read allocated => exact ok.createCq step
  | publish thread => exact ok.publish step

/-- Only the second section of a registration writes the lists. -/
theorem lists_step (step : barStep system action = some next)
    (other : ∀ thread, action ≠ .publish thread) :
    next.reservedHioQid = system.reservedHioQid ∧ next.sqMboxList = system.sqMboxList ∧
      next.cqMboxList = system.cqMboxList := by
  cases action with
  | publish thread => exact (other thread rfl).elim
  | mmap ctx request barVma =>
    cases barVma <;> simp only [barStep, mxBarMmap] at step <;> grind
  | _ =>
    simp only [barStep, mxBarVmaOpen, mxBarVmaClose, uncharge, register, check, createSq, createCq,
      setCall] at step
    grind

theorem Ok.extends (ok : system.Ok) (step : barStep system action = some next) :
    Extends system next := by
  by_cases publishes : ∃ thread, action = .publish thread
  · obtain ⟨thread, rfl⟩ := publishes
    obtain ⟨qid, info, sqMbox, cqMbox, -, ⟨ret, -, rfl⟩ | ⟨-, free, rfl⟩⟩ := publish_eq_some step
    · exact ⟨rfl, fun _ _ => id, fun _ _ => id⟩
    · exact extends_publish ok thread free _ sqMbox cqMbox
  · obtain ⟨reserved, sq, cq⟩ := lists_step step fun thread same => publishes ⟨thread, same⟩
    exact ⟨reserved, fun _ _ => sq ▸ id, fun _ _ => cq ▸ id⟩

theorem ok_of_reachedBy {reservedHioQid : Int} {barMappedSize : Nat}
    (reached : ReachedBy barStep Room (start reservedHioQid barMappedSize) system) : system.Ok :=
  reached.invariant (ok_start _ _) fun _ _ _ ok room step => ok.step room step

theorem Ok.extends_of_reachedBy (ok : system.Ok) (reached : ReachedBy barStep Room system next) :
    Extends system next := by
  suffices both : next.Ok ∧ Extends system next from both.2
  apply reached.invariant ⟨ok, .refl system⟩
  rintro current action later ⟨ok, grown⟩ room step
  exact ⟨ok.step room step, grown.trans (ok.extends step)⟩

/-- User mappings of the BAR and registered mailboxes exclude each other in every
interleaving, and the count is that of the mappings.  Mailboxes are registered in pairs,
never under the reserved queue, and for good; a registration that succeeded has put its
pair in place. -/
theorem bar_mailboxes_exclusive {reservedHioQid : Int} {barMappedSize : Nat}
    (reached : ReachedBy barStep Room (start reservedHioQid barMappedSize) system) :
    system.count = Multiset.card system.vmas ∧
      (system.count ≠ 0 → ∀ qid, system.sqMboxList qid = none ∧ system.cqMboxList qid = none) ∧
      (∀ qid, (system.sqMboxList qid).isSome = (system.cqMboxList qid).isSome) ∧
      (∀ later, ReachedBy barStep Room system later →
        (∀ qid mbox, system.sqMboxList qid = some mbox → later.sqMboxList qid = some mbox) ∧
          ∀ qid mbox, system.cqMboxList qid = some mbox → later.cqMboxList qid = some mbox) ∧
      (∀ qid, (qid.val : Int) = reservedHioQid →
        system.sqMboxList qid = none ∧ system.cqMboxList qid = none) ∧
      ∀ thread info, system.call thread = .returned (some info) none →
        ∃ qid sqMbox cqMbox, qid.val = info.qid ∧
          system.sqMboxList qid = some sqMbox ∧ system.cqMboxList qid = some cqMbox ∧
            sqMbox.rCtxAddr = info.sqCtxAddr ∧ cqMbox.rCtxAddr = info.cqCtxAddr := by
  have ok := ok_of_reachedBy reached
  have kept := (ok_start _ _).extends_of_reachedBy reached
  have both : ∀ qid, system.sqMboxList qid = none → system.cqMboxList qid = none := by
    intro qid free
    simpa [free] using ok.together qid
  refine ⟨ok.count, ?_, ok.together, ?_, ?_, ?_⟩
  · intro counted qid
    have mapped : system.vmas ≠ 0 := fun empty => counted (by simp [ok.count, empty])
    exact ⟨ok.exclusive mapped qid, both qid (ok.exclusive mapped qid)⟩
  · intro later reachedLater
    have grown := ok.extends_of_reachedBy reachedLater
    exact ⟨grown.sqMbox, grown.cqMbox⟩
  · intro qid same
    have free : system.sqMboxList qid = none :=
      Option.not_isSome_iff_eq_none.mp fun found =>
        ok.reserved qid found (same.trans kept.reserved.symm)
    exact ⟨free, both qid free⟩
  · intro thread info returned
    simpa [CallOk, Registered, returned] using ok.call thread

end Runs

/-- Two requests for one queue with different contexts. -/
def mboxRequest (sqCtxAddr : BitVec 64) : MboxInfo := ⟨3, sqCtxAddr, 0, 0x2018, 0⟩

/-- A mapping is copied and goes away, and then two calls race for one queue. -/
def racingRun : List (BarAction Unit Party Party) :=
  [.online, .mmap () ⟨0, true, 4096, 7, none⟩ (some 0), .vmaOpen 0, .vmaClose 0, .vmaClose 0,
    .uncharge 0, .register 0 (some (mboxRequest 0x1018)), .register 1 (some (mboxRequest 0x1020)),
    .check 0, .check 1, .createSq 0 (.word 0) true, .createSq 1 (.word 0) true,
    .createCq 0 (.word 0) true, .createCq 1 (.word 0) true, .publish 0, .publish 1]

set_option maxRecDepth 4000 in
theorem bar_mailboxes_exclusive_racingRun :
    ∃ system, runAllowed barStep Room (start 48 4096) racingRun = some system ∧
      system.call 0 = .returned (some (mboxRequest 0x1018)) none ∧
      system.call 1 = .returned (some (mboxRequest 0x1020)) (some .einval) ∧
      ∃ qid sqMbox cqMbox, qid.val = 3 ∧
        system.sqMboxList qid = some sqMbox ∧ system.cqMboxList qid = some cqMbox ∧
          sqMbox.rCtxAddr = 0x1018 ∧ cqMbox.rCtxAddr = 0x2018 := by
  have run : runAllowed barStep Room (start 48 4096) racingRun = some _ := rfl
  obtain ⟨-, -, -, -, -, succeeded⟩ := bar_mailboxes_exclusive (reachedBy_of_runAllowed run)
  exact ⟨_, run, rfl, rfl, succeeded 0 (mboxRequest 0x1018) rfl⟩

/-- One mapping with many copies. -/
def copied (copies : Nat) : BarSystem Unit Unit Unit :=
  { (start 48 4096 : BarSystem Unit Unit Unit) with
    enabled := true
    mapping := some 7
    barMappingCount := Function.update (fun _ => 0) () 1
    barVma := Function.update (fun _ => none) () (some ⟨(), copies + 1⟩)
    vmas := Multiset.replicate (copies + 1) ()
    count := (copies + 1) % 2 ^ 32 }

set_option maxRecDepth 4000 in
theorem reached_copied (copies : Nat) : Reached barStep (start 48 4096) (copied copies) := by
  induction copies with
  | zero =>
    have run : runActions barStep (start 48 4096)
        [.online, .mmap () ⟨0, true, 4096, 7, none⟩ (some ())] = some (copied 0) := rfl
    exact reached_of_runActions run
  | succ copies reached =>
    have step : barStep (copied copies) (.vmaOpen ()) = some (copied (copies + 1)) := by
      simp [barStep, mxBarVmaOpen, copied, incU32, Multiset.replicate_succ]
    exact .tail reached trivial step

/-- The count of `2 ^ 32` VMAs is 0, and a mailbox is registered beside them. -/
theorem bar_mailboxes_overflow :
    ∃ system : BarSystem Unit Unit Unit, Reached barStep (start 48 4096) system ∧
      Multiset.card system.vmas = 2 ^ 32 ∧ system.count = 0 ∧
        ∃ qid, (system.sqMboxList qid).isSome := by
  have run : runActions barStep (copied (2 ^ 32 - 1))
      [.register () (some (mboxRequest 0x1018)), .check (), .createSq () (.word 0) true,
        .createCq () (.word 0) true, .publish ()] = some _ := rfl
  refine ⟨_, (reached_copied _).trans (reached_of_runActions run), ?_, rfl, ⟨3, by decide⟩, rfl⟩
  exact Multiset.card_replicate _ _

end BarSystem

end MxDriver
