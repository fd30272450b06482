import MxDriver.SubmitBalanced

/-!
# A whole submission and what comes after it

From its first statement to its return a submission moves through a few stages, each of
which says which transfers there are and in what state.  When it returns, what is left
belongs to the waiters on the workqueue and to the zombie cleaner, and they give it back.
-/

namespace MxDriver

namespace CallState

open Fallible

variable {τ : Type} [Fintype τ] [DecidableEq τ] {call next : CallState τ} {index : τ}
variable {transfer : TransferHolding} {creator array : Bool}
variable {slots slots' : τ → Option TransferHolding → Prop}

/-- Where a call stands before any waiter is on the workqueue. -/
structure Stands (creator array : Bool) (slots : τ → Option TransferHolding → Prop)
    (call : CallState τ) : Prop where
  balanced : call.Balanced
  creator : call.creator = creator
  transferArray : call.transferArray = array
  idle : ∀ index, call.work index = false
  slots : ∀ index, slots index (call.slot index)

/-- There is no transfer. -/
def Vacant (_ : τ) (slot : Option TransferHolding) : Prop := slot = none

theorem Stands.touch (stands : Stands creator array slots call)
    {slot : Option TransferHolding} (touches : call.Touches next index slot)
    (here : slots' index slot)
    (others : ∀ other, other ≠ index → ∀ slot, slots other slot → slots' other slot) :
    Stands creator array slots' next where
  balanced := touches.balanced
  creator := touches.creator.trans stands.creator
  transferArray := touches.transferArray.trans stands.transferArray
  idle := by rw [touches.work]; exact stands.idle
  slots := by
    intro other
    rw [touches.slot]
    by_cases same : other = index
    · subst same
      rwa [Function.update_self]
    · rw [Function.update_of_ne same]
      exact others other same _ (stands.slots other)

omit [DecidableEq τ] in
theorem Stands.mono (stands : Stands creator array slots call)
    (weaker : ∀ index slot, slots index slot → slots' index slot) :
    Stands creator array slots' call :=
  { stands with slots := fun index => weaker index _ (stands.slots index) }

omit [DecidableEq τ] in
theorem stands_start : Stands false false Vacant ({} : CallState τ) where
  balanced := balanced_start
  creator := rfl
  transferArray := rfl
  idle _ := rfl
  slots _ := rfl

/-! ## The mapping -/

theorem Stands.putCreator (stands : Stands true array slots call) :
    Stands false array slots call.putCreator := by
  have shared := stands.balanced.refcount_pos_of_creator stands.creator
  obtain ⟨ledger, context, put, holds, count, live⟩ :=
    mxSgContextPut_spec stands.balanced.ledger stands.balanced.live shared
  have users := stands.balanced.users
  rw [stands.creator] at users
  rw [CallState.putCreator, put]
  refine ⟨⟨holds, ?_, live⟩, rfl, stands.transferArray, stands.idle, stands.slots⟩
  simp only [refcount, Bool.toNat_true, Bool.toNat_false] at count users ⊢
  omega

/-- The mapping under construction. -/
structure Made (holding : SgHolding) (call : CallState τ) : Prop where
  stands : Stands true false Vacant call
  context : call.context = some holding

omit [DecidableEq τ] in
theorem Made.change {holding : SgHolding} (made : call.Made holding)
    (change : SgHolding → SgHolding) (same : (change holding).refcount = holding.refcount)
    {ledger : Ledger (CallResource τ)}
    (holds : ledger.Holds { call with context := some (change holding) }.expected) :
    ({ call with ledger := ledger }.setContext change).Made (change holding) := by
  have users := made.stands.balanced.users
  have live := made.stands.balanced.live holding made.context
  have context : { call with ledger := ledger }.setContext change =
      { call with ledger := ledger, context := some (change holding) } := by
    simp only [setContext, made.context, Option.map_some]
  rw [context]
  refine ⟨⟨⟨holds, ?_, ?_⟩, made.stands.creator, made.stands.transferArray, made.stands.idle,
    made.stands.slots⟩, rfl⟩
  · simp only [refcount, made.context, Option.elim_some] at users ⊢
    rw [same, users]
  · rintro _ ⟨⟩
    rwa [same]

section Creation

variable {holding : SgHolding}

theorem Made.take (made : call.Made holding) (resource : CallResource τ) (amount : Nat)
    (change : SgHolding → SgHolding) (same : (change holding).refcount = holding.refcount)
    (moves : ∀ other, Function.update call.expected resource
      (call.expected resource + amount) other =
        { call with context := some (change holding) }.expected other) :
    ((call.take resource amount).setContext change).Made (change holding) :=
  made.change change same ((made.stands.balanced.ledger.take resource amount).congr moves)

omit [DecidableEq τ] in
theorem Made.mark (made : call.Made holding) (change : SgHolding → SgHolding)
    (same : (change holding).refcount = holding.refcount) (still : ∀ other, call.expected other =
      { call with context := some (change holding) }.expected other) :
    (call.setContext change).Made (change holding) :=
  made.change change same (made.stands.balanced.ledger.congr still)

theorem made_newContext : (newContext ({} : CallState τ)).Made {} := by
  refine ⟨⟨⟨?_, ?_, ?_⟩, rfl, rfl, fun _ => rfl, fun _ => rfl⟩, rfl⟩
  · refine ((balanced_start (τ := τ)).ledger.take .context 1).congr fun resource => ?_
    cases resource <;> rfl
  · simp [refcount, newContext, CallState.take, tally_eq_zero_iff.mpr]
  · rintro _ ⟨⟩
    decide

theorem Made.setPages (made : call.Made holding) (unset : holding.pages = .null) (pagesNr : Nat) :
    ∃ pages, (call.setPages pagesNr).Made { holding with pages := pages } := by
  unfold CallState.setPages
  split_ifs with small
  · refine ⟨_, made.mark (fun holding => { holding with pages := .inline }) rfl fun other => ?_⟩
    cases other <;> simp [expected, made.context, unset]
  · refine ⟨_, made.take .pageArray 1 (fun holding => { holding with pages := .allocated }) rfl
      fun other => ?_⟩
    cases other <;> simp [expected, made.context, unset]

theorem Made.setPinned (made : call.Made holding) (unset : holding.pagesNr = 0) (pinned : Nat) :
    (call.setPinned pinned).Made { holding with pagesNr := pinned } := by
  unfold CallState.setPinned
  split_ifs with positive
  · refine made.take .pins pinned (fun holding => { holding with pagesNr := pinned }) rfl
      fun other => ?_
    cases other <;> simp [expected, made.context, unset]
  · rw [show { holding with pagesNr := pinned } = holding by
      rw [show pinned = 0 by omega, ← unset]]
    exact made

theorem Made.setTable (made : call.Made holding) (unset : holding.sgl = .null) (pagesNr : Nat) :
    ∃ sgl, (call.setTable pagesNr).Made { holding with sgl := sgl } := by
  unfold CallState.setTable
  split_ifs with small
  · refine ⟨_, made.mark (fun holding => { holding with sgl := .inline }) rfl fun other => ?_⟩
    cases other <;> simp [expected, made.context, unset]
  · refine ⟨_, made.take .sgTable 1 (fun holding => { holding with sgl := .allocated }) rfl
      fun other => ?_⟩
    cases other <;> simp [expected, made.context, unset]

theorem Made.setMapping (made : call.Made holding) (unset : holding.nents = 0) (nents : Nat) :
    (call.setMapping nents).Made { holding with nents := nents } := by
  unfold CallState.setMapping
  split_ifs with mapped
  · refine made.take .mapping 1 (fun holding => { holding with nents := nents }) rfl
      fun other => ?_
    cases other <;> simp [expected, made.context, unset, mapped]
  · rw [show { holding with nents := nents } = holding by
      rw [show nents = 0 by omega, ← unset]]
    exact made

/-- The mapping is complete, or what there is of it is known. -/
theorem fillContext_ends (made : call.Made {}) (services : SgServices)
    (userAddr totalSize pagesNr : Nat) :
    Ends (fun _ next => Stands true false Vacant next) (Stands true false Vacant)
      (fillContext services userAddr totalSize pagesNr call) := by
  refine ends_refuse (fun _ => made.stands) fun _ => ends_update ?_
  obtain ⟨pages, made⟩ := made.setPages rfl pagesNr
  cases services.pinUserPages userAddr pagesNr with
  | error error => exact made.stands
  | ok pinned =>
    have made := made.setPinned rfl pinned
    refine ends_update (ends_refuse (fun _ => made.stands) fun _ => ?_)
    refine ends_check made.stands fun _ => ends_update ?_
    obtain ⟨sgl, made⟩ := made.setTable rfl pagesNr
    have made := made.setMapping rfl (services.dmaMapSg userAddr totalSize).length
    exact ends_update (ends_lastRefuse (fun _ => made.stands) fun _ => made.stands)

theorem mxSgContextCreate_ends (services : SgServices) (userAddr totalSize : Nat) :
    Ends (fun _ next => Stands true false Vacant next) (Stands false false Vacant)
      (mxSgContextCreate services userAddr totalSize ({} : CallState τ)) := by
  refine ends_refuse (fun _ => stands_start) fun _ => ?_
  refine ends_refuse (fun _ => stands_start) fun _ => ends_update ?_
  exact ends_onFailure (fillContext_ends made_newContext services userAddr totalSize _)
    fun _ stands => stands.putCreator

omit [Fintype τ] in
/-- The caller learns what the file on splitting says of the same answers. -/
theorem mxSgContextCreate_result (services : SgServices) (userAddr totalSize : Nat)
    (call : CallState τ) :
    (mxSgContextCreate services userAddr totalSize call).1 =
      (MxDriver.mxSgContextCreate services userAddr totalSize).map fun _ => () := by
  simp only [mxSgContextCreate, MxDriver.mxSgContextCreate, refuse_bind, update_bind]
  by_cases size : totalSize = 0 ∨ totalSize > intMax / 8 * pageSize - userAddr % pageSize
  · simp only [if_pos size]
    rfl
  simp only [if_neg size]
  generalize divRoundUp (userAddr % pageSize + totalSize) pageSize = pagesNr
  by_cases noContext : services.allocContext = false
  · simp only [if_pos noContext]
    rfl
  simp only [if_neg noContext, onFailure_fst, fillContext, refuse_bind, update_bind]
  by_cases noPages : pagesNr > pagesInlineNr ∧ services.allocPages pagesNr = false
  · simp only [if_pos noPages]
    rfl
  simp only [if_neg noPages]
  cases services.pinUserPages userAddr pagesNr with
  | error error => rfl
  | ok pinned =>
    simp only [update_bind, refuse_bind]
    by_cases partly : pinned ≠ pagesNr
    · simp only [if_pos partly]
      rfl
    simp only [if_neg partly]
    cases (if pagesNr ≤ pagesInlineNr then none else services.allocTable pagesNr) with
    | some error => rfl
    | none =>
      by_cases unmapped : (services.dmaMapSg userAddr totalSize).length = 0
      · simp only [refuse, if_pos unmapped]
        rfl
      · simp only [refuse, if_neg unmapped]
        rfl
end Creation

/-! ## One transfer -/

/-- The given transfers are there, in the given state, and no others. -/
def Only (indexes : List τ) (state : τ → TransferHolding → Prop) (index : τ)
    (slot : Option TransferHolding) : Prop :=
  if index ∈ indexes then ∃ transfer, slot = some transfer ∧ state index transfer
  else slot = none

omit [Fintype τ] in
theorem only_here {indexes : List τ} {state : τ → TransferHolding → Prop} (member : index ∈ indexes)
    (holds : state index transfer) : Only indexes state index (some transfer) := by
  rw [Only, if_pos member]
  exact ⟨transfer, rfl, holds⟩

omit [Fintype τ] in
theorem only_mono {indexes : List τ} {state state' : τ → TransferHolding → Prop}
    (weaker : ∀ index transfer, state index transfer → state' index transfer) {index : τ}
    {slot : Option TransferHolding} (only : Only indexes state index slot) :
    Only indexes state' index slot := by
  unfold Only at only ⊢
  split_ifs at only ⊢
  · obtain ⟨transfer, found, holds⟩ := only
    exact ⟨transfer, found, weaker index transfer holds⟩
  · exact only

omit [Fintype τ] in
theorem only_single_iff {state : τ → TransferHolding → Prop} {other : τ} (different : other ≠ index)
    {slot : Option TransferHolding} : Only [index] state other slot ↔ slot = none := by
  rw [Only, if_neg (by simpa using different)]

theorem Stands.found {indexes : List τ} {state : τ → TransferHolding → Prop}
    (stands : Stands creator array (Only indexes state) call) (member : index ∈ indexes) :
    ∃ transfer, call.slot index = some transfer ∧ state index transfer := by
  have slot := stands.slots index
  rwa [Only, if_pos member] at slot

theorem Stands.moveSingle {state state' : τ → TransferHolding → Prop}
    (stands : Stands creator array (Only [index] state) call)
    (touches : call.Touches next index (some transfer)) (holds : state' index transfer) :
    Stands creator array (Only [index] state') next := by
  refine stands.touch touches (only_here (by simp) holds) fun other different slot => ?_
  rw [only_single_iff different, only_single_iff different]
  exact id

theorem Stands.dropSingle {state : τ → TransferHolding → Prop}
    (stands : Stands creator array (Only [index] state) call)
    (touches : call.Touches next index none) : Stands creator array Vacant next := by
  refine stands.touch touches rfl fun other different slot => ?_
  rw [only_single_iff different]
  exact id

theorem Stands.addSingle {state : τ → TransferHolding → Prop}
    (stands : Stands creator array Vacant call)
    (touches : call.Touches next index (some transfer)) (holds : state index transfer) :
    Stands creator array (Only [index] state) next := by
  refine stands.touch touches (only_here (by simp) holds) fun other different slot => ?_
  rw [only_single_iff different]
  exact id

/-! ## What a call leaves behind -/

/-- A transfer that is left is queued, and belongs to its waiter on the workqueue or to
the zombie cleaner. -/
def LeftOk (slot : Option TransferHolding) (work : Bool) : Prop :=
  match slot with
  | none => work = false
  | some transfer => transfer.queued = true ∧ transfer.Sound ∧ transfer.isZombie = !work

/-- The call is done with its transfers, and has returned once its array is gone. -/
structure Settled (array : Bool) (call : CallState τ) : Prop where
  balanced : call.Balanced
  creator : call.creator = false
  transferArray : call.transferArray = array
  left : ∀ index, LeftOk (call.slot index) (call.work index)

/-- A transfer that its waiter has given up. -/
structure Parked (transfer : TransferHolding) : Prop where
  queued : transfer.queued = true
  zombie : transfer.isZombie = true
  sound : transfer.Sound

/-- Every transfer is gone or parked. -/
def Given (_ : τ) (slot : Option TransferHolding) : Prop :=
  ∀ transfer, slot = some transfer → Parked transfer

omit [DecidableEq τ] in
theorem Stands.settled (stands : Stands false array Given call) : Settled array call where
  balanced := stands.balanced
  creator := stands.creator
  transferArray := stands.transferArray
  left := by
    intro index
    have given := stands.slots index
    rw [stands.idle index]
    cases slot : call.slot index with
    | none => rfl
    | some transfer =>
      have parked := given transfer slot
      exact ⟨parked.queued, parked.sound, parked.zombie⟩

omit [Fintype τ] [DecidableEq τ] in
theorem given_of_vacant (index : τ) {slot : Option TransferHolding} (vacant : Vacant index slot) :
    Given index slot := by
  rintro transfer rfl
  cases vacant

theorem freeTransferArray_balanced (balanced : call.Balanced) (array : call.transferArray = true) :
    call.freeTransferArray.Balanced where
  ledger := by
    have held : 1 ≤ call.expected .transferArray := by simp [expected, array]
    refine (balanced.ledger.give held).congr fun resource => ?_
    cases resource <;> simp [expected, freeTransferArray, give, array]
  users := balanced.users
  live := balanced.live

theorem Settled.freeTransferArray (settled : Settled true call) :
    Settled false call.freeTransferArray where
  balanced := freeTransferArray_balanced settled.balanced settled.transferArray
  creator := settled.creator
  transferArray := rfl
  left := settled.left

theorem Stands.freeTransferArray (stands : Stands creator true slots call) :
    Stands creator false slots call.freeTransferArray where
  balanced := freeTransferArray_balanced stands.balanced stands.transferArray
  creator := stands.creator
  transferArray := rfl
  idle := stands.idle
  slots := stands.slots

theorem Stands.newTransferArray (stands : Stands creator false slots call) :
    Stands creator true slots call.newTransferArray where
  balanced := {
    ledger := by
      refine (stands.balanced.ledger.take .transferArray 1).congr fun resource => ?_
      cases resource <;> simp [expected, CallState.newTransferArray, take, stands.transferArray]
    users := stands.balanced.users
    live := stands.balanced.live }
  creator := stands.creator
  transferArray := rfl
  idle := stands.idle
  slots := stands.slots

/-! ## The waiters on the workqueue -/

/-- The records, with references beyond those of the waiters on the workqueue. -/
def withRefs (call : CallState τ) (extra : τ → Nat) : CallResource τ → Nat
  | .ioRef index => (call.work index).toNat + extra index
  | resource => call.expected resource

omit [Fintype τ] in
theorem takeRefs_spec (indexes : List τ) :
    ∀ {call : CallState τ} {extra : τ → Nat}, call.ledger.Holds (call.withRefs extra) →
      ∃ ledger, indexes.foldl (fun call index => call.take (.ioRef index) 1) call =
          { call with ledger := ledger } ∧
        ledger.Holds (call.withRefs fun index => extra index + indexes.count index) := by
  induction indexes with
  | nil => exact fun {call} _ holds => ⟨call.ledger, rfl, by simpa using holds⟩
  | cons first rest ih =>
    intro call extra holds
    have taken : (call.take (.ioRef first) 1).ledger.Holds
        ((call.take (.ioRef first) 1).withRefs
          fun index => extra index + if first = index then 1 else 0) := by
      refine (holds.take (.ioRef first) 1).congr fun resource => ?_
      cases resource with
      | ioRef index =>
        by_cases same : index = first
        · subst same
          simp [withRefs, CallState.take]
          omega
        · simp [withRefs, CallState.take, same, Ne.symm same]
      | _ => exact Function.update_of_ne (by simp) _ _
    obtain ⟨ledger, folded, all⟩ := ih taken
    refine ⟨ledger, folded, all.congr fun resource => ?_⟩
    cases resource with
    | ioRef index =>
      simp only [withRefs, CallState.take, List.count_cons, beq_iff_eq]
      omega
    | _ => rfl

omit [Fintype τ] in
theorem mxTransferScheduleWait_eq (call : CallState τ) (index : τ) :
    ∃ ledger, call.mxTransferScheduleWait index =
      { call with ledger := ledger, work := Function.update call.work index true } := by
  unfold mxTransferScheduleWait
  split_ifs with already
  · exact ⟨_, by rw [← already, Function.update_eq_self]; rfl⟩
  · exact ⟨_, rfl⟩

omit [Fintype τ] in
theorem scheduleWaits_spec (indexes : List τ) :
    ∀ {call : CallState τ}, call.ledger.Holds (call.withRefs (indexes.count ·)) →
      ∃ ledger, indexes.foldl (fun call index => call.mxTransferScheduleWait index) call =
          { call with
            ledger := ledger
            work := fun index => call.work index || decide (index ∈ indexes) } ∧
        ledger.Holds
          { call with
            work := fun index => call.work index || decide (index ∈ indexes) }.expected := by
  induction indexes with
  | nil =>
    intro call holds
    refine ⟨call.ledger, by simp, holds.congr fun resource => ?_⟩
    cases resource with
    | ioRef index => simp [withRefs, expected]
    | _ => rfl
  | cons first rest ih =>
    intro call holds
    have queued : (call.mxTransferScheduleWait first).ledger.Holds
        ((call.mxTransferScheduleWait first).withRefs (rest.count ·)) := by
      unfold mxTransferScheduleWait
      split_ifs with already
      · have held : 1 ≤ call.withRefs ((first :: rest).count ·) (.ioRef first) := by
          simp [withRefs, already]
        refine (holds.give held).congr fun resource => ?_
        cases resource with
        | ioRef index =>
          by_cases same : index = first
          · subst same
            simp [withRefs, give]
          · simp [withRefs, give, same, List.count_cons, Ne.symm same]
        | _ => exact Function.update_of_ne (by simp) _ _
      · refine holds.congr fun resource => ?_
        cases resource with
        | ioRef index =>
          by_cases same : index = first
          · subst same
            simp [withRefs, already]
            omega
          · simp [withRefs, same, Ne.symm same]
        | _ => rfl
    obtain ⟨_, after⟩ := mxTransferScheduleWait_eq call first
    obtain ⟨ledger, folded, all⟩ := ih queued
    have works : (fun index => Function.update call.work first true index ||
        decide (index ∈ rest)) =
          fun index => call.work index || decide (index ∈ first :: rest) := by
      funext index
      by_cases same : index = first
      · subst same
        simp
      · simp [same]
    rw [after] at folded all
    simp only [works] at folded all
    exact ⟨ledger, by rw [List.foldl_cons, after, folded], all⟩

/-- Transfers in flight go to their waiters. -/
theorem Stands.scheduleAll {indexes : List τ} {size : τ → Nat}
    (stands : Stands false array (Only indexes fun index => TransferHolding.InFlight (size index))
      call) : Settled array (scheduleAll indexes call) := by
  have start : call.ledger.Holds (call.withRefs fun _ => 0) := by
    refine stands.balanced.ledger.congr fun resource => ?_
    cases resource with
    | ioRef index => simp [withRefs, expected]
    | _ => rfl
  obtain ⟨taken, take, held⟩ := takeRefs_spec indexes start
  have pending : { call with ledger := taken }.ledger.Holds
      ({ call with ledger := taken }.withRefs (indexes.count ·)) := by
    refine held.congr fun resource => ?_
    cases resource with
    | ioRef index => simp [withRefs]
    | _ => rfl
  obtain ⟨ledger, schedule, holds⟩ := scheduleWaits_spec indexes pending
  rw [CallState.scheduleAll, take, schedule]
  refine ⟨⟨holds, stands.balanced.users, stands.balanced.live⟩, stands.creator,
    stands.transferArray, fun index => ?_⟩
  have slot := stands.slots index
  by_cases member : index ∈ indexes
  · obtain ⟨transfer, found, flying⟩ := stands.found member
    simp [LeftOk, found, member, flying.queued, flying.alive, flying.sound]
  · rw [Only, if_neg member] at slot
    simp [LeftOk, slot, member, stands.idle index]

end CallState

end MxDriver
