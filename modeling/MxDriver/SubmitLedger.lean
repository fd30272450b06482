import MxDriver.IndexedTally
import MxDriver.SubmitCall
import MxDriver.TransitionSystem

/-!
# A submission gives everything back

What the driver's records say it holds is what it holds, at every point of a submission
and of what comes after it.  A call that fails has given everything back when it returns,
and what a queued transfer holds is given back by whoever ends it, the mapping by the
last one.
-/

namespace MxDriver

namespace TransferHolding

/-- No descriptor list hangs on the transfer. -/
def Bare (transfer : TransferHolding) : Prop :=
  transfer.descListVa = none ∧ transfer.descListBa = false

/-- The teardown frees a list only for a transfer with a mapping. -/
def Sound (transfer : TransferHolding) : Prop := transfer.isSg = false → transfer.Bare

/-- What the fields of a transfer say it holds. -/
def holds (transfer : TransferHolding) : TransferPart → Nat
  | .slab => 1
  | .id => transfer.id.toNat
  | .lease => transfer.ownerCtx.toNat
  | .descVa => transfer.descListVa.isSome.toNat
  | .descBa => transfer.descListBa.toNat
  | .descPages => transfer.descListVa.getD 0

end TransferHolding

namespace CallState

variable {τ : Type}

/-- What the records of the call say it holds. -/
def expected (call : CallState τ) : CallResource τ → Nat
  | .context => call.context.elim 0 fun _ => 1
  | .pageArray => call.context.elim 0 fun holding => if holding.pages = .allocated then 1 else 0
  | .pins => call.context.elim 0 SgHolding.pagesNr
  | .sgTable => call.context.elim 0 fun holding => if holding.sgl = .allocated then 1 else 0
  | .mapping => call.context.elim 0 fun holding => if holding.nents ≠ 0 then 1 else 0
  | .transferArray => call.transferArray.toNat
  | .transfer index part => (call.slot index).elim 0 fun transfer => transfer.holds part
  | .ioRef index => (call.work index).toNat

def refcount (call : CallState τ) : Nat := call.context.elim 0 SgHolding.refcount

/-- The slot has a reference on the mapping. -/
abbrev SharesMapping (slot : Option TransferHolding) : Prop :=
  slot.any TransferHolding.sgCtx = true

variable [Fintype τ]

/-- The records are right about what is held, and the mapping counts its users. -/
structure Balanced (call : CallState τ) : Prop where
  ledger : call.ledger.Holds call.expected
  users : call.refcount = call.creator.toNat + tally SharesMapping call.slot
  live : ∀ holding, call.context = some holding → 0 < holding.refcount

theorem balanced_start : ({} : CallState τ).Balanced where
  ledger := ⟨by funext resource; cases resource <;> rfl, rfl⟩
  users := by simp [refcount, tally_eq_zero_iff.mpr]
  live := by simp

variable [DecidableEq τ] {call next : CallState τ} {index : τ} {transfer : TransferHolding}

/-! ## The mapping -/

omit [Fintype τ] in
/-- A resource that is held under a condition is given back under that condition. -/
theorem holds_giveBack {expected : CallResource τ → Nat} (holds : call.ledger.Holds expected)
    (condition : Prop) [Decidable condition] (resource : CallResource τ) (amount : Nat)
    (held : expected resource = if condition then amount else 0) :
    (if condition then call.give resource amount else call).ledger.Holds
      (Function.update expected resource 0) := by
  split_ifs with given
  · rw [if_pos given] at held
    have gave := holds.give held.ge
    rwa [held, Nat.sub_self] at gave
  · rw [if_neg given] at held
    rw [← held, Function.update_eq_self]
    exact holds

omit [Fintype τ] in
/-- The release gives back what the context says it holds. -/
theorem holds_mxSgContextRelease {holding : SgHolding} (found : call.context = some holding)
    (holds : call.ledger.Holds call.expected) :
    (call.mxSgContextRelease holding).ledger.Holds { call with context := none }.expected := by
  have pinned : call.expected .pins = if holding.pagesNr > 0 then holding.pagesNr else 0 := by
    simp only [expected, found, Option.elim_some]
    split_ifs <;> omega
  have unmapped := holds_giveBack holds (holding.nents ≠ 0) .mapping 1 (by simp [expected, found])
  have unpinned := holds_giveBack unmapped (holding.pagesNr > 0) .pins holding.pagesNr (by
    rw [← pinned, Function.update_of_ne (by simp)])
  have noTable := holds_giveBack unpinned (holding.sgl = .allocated) .sgTable 1 (by
    simp [expected, found])
  have noPages := holds_giveBack noTable (holding.pages = .allocated) .pageArray 1 (by
    simp [expected, found])
  refine (noPages.give (show 1 ≤ _ by simp [expected, found])).congr fun resource => ?_
  cases resource <;> simp [expected, found]

omit [Fintype τ] in
theorem mxSgContextRelease_records (call : CallState τ) (holding : SgHolding) :
    call.mxSgContextRelease holding =
      { call with
        context := none
        ledger := (call.mxSgContextRelease holding).ledger } := by
  simp only [mxSgContextRelease, give]
  split_ifs <;> rfl

omit [Fintype τ] in
/-- A put takes one reference, and the last one gives the mapping back. -/
theorem mxSgContextPut_spec (holds : call.ledger.Holds call.expected)
    (live : ∀ holding, call.context = some holding → 0 < holding.refcount)
    (shared : 0 < call.refcount) :
    ∃ ledger context, call.mxSgContextPut = { call with ledger := ledger, context := context } ∧
      ledger.Holds { call with context := context }.expected ∧
      call.refcount = context.elim 0 SgHolding.refcount + 1 ∧
      ∀ holding, context = some holding → 0 < holding.refcount := by
  cases found : call.context with
  | none => simp [refcount, found] at shared
  | some holding =>
    have positive := live holding found
    simp only [refcount, found, Option.elim_some, mxSgContextPut]
    split_ifs with last
    · exact ⟨_, none, mxSgContextRelease_records call holding,
        holds_mxSgContextRelease found holds, by simp; omega, by simp⟩
    · refine ⟨call.ledger, _, rfl, holds.congr fun resource => ?_, by simp; omega, ?_⟩
      · cases resource <;> simp [expected, found]
      · rintro _ ⟨⟩
        simp
        omega

/-! ## One transfer -/

/-- A step of the call on one transfer. -/
structure Touches (call next : CallState τ) (index : τ) (slot : Option TransferHolding) : Prop where
  balanced : next.Balanced
  slot : next.slot = Function.update call.slot index slot
  creator : next.creator = call.creator
  transferArray : next.transferArray = call.transferArray
  work : next.work = call.work

theorem Touches.trans {last : CallState τ} {slot slot' : Option TransferHolding}
    (first : call.Touches next index slot) (second : next.Touches last index slot') :
    call.Touches last index slot' where
  balanced := second.balanced
  slot := by rw [second.slot, first.slot, Function.update_idem]
  creator := second.creator.trans first.creator
  transferArray := second.transferArray.trans first.transferArray
  work := second.work.trans first.work

theorem Touches.here {slot : Option TransferHolding} (touches : call.Touches next index slot) :
    next.slot index = slot := by
  rw [touches.slot, Function.update_self]

omit [Fintype τ] in
theorem expected_setTransfer (call : CallState τ) (index : τ) (slot : Option TransferHolding)
    (resource : CallResource τ) :
    (call.setTransfer index slot).expected resource =
      match resource with
      | .transfer other part =>
        if other = index then slot.elim 0 fun transfer => transfer.holds part
        else call.expected (.transfer other part)
      | _ => call.expected resource := by
  cases resource with
  | transfer other part =>
    by_cases same : other = index
    · subst same
      simp [expected, setTransfer]
    · simp [expected, setTransfer, same]
  | _ => rfl

omit [Fintype τ] in
theorem changeTransfer_eq (found : call.slot index = some transfer)
    (change : TransferHolding → TransferHolding) :
    call.changeTransfer index change = call.setTransfer index (some (change transfer)) := by
  rw [changeTransfer, found]
  rfl

section Records

variable (balanced : call.Balanced) (found : call.slot index = some transfer)
include balanced found

theorem Balanced.exchange (changed : TransferHolding) (same : changed.sgCtx = transfer.sgCtx)
    {ledger : Ledger (CallResource τ)}
    (holds : ledger.Holds (call.setTransfer index (some changed)).expected) :
    call.Touches { call.setTransfer index (some changed) with ledger := ledger }
      index (some changed) where
  balanced := {
    ledger := holds
    users := by
      refine balanced.users.trans ?_
      simp only [setTransfer]
      rw [tally_update_same]
      simp [found, same]
    live := balanced.live }
  slot := rfl
  creator := rfl
  transferArray := rfl
  work := rfl

theorem Balanced.takePart {part : TransferPart} {amount : Nat} (changed : TransferHolding)
    (same : changed.sgCtx = transfer.sgCtx) (moves : ∀ other, changed.holds other =
      if other = part then transfer.holds part + amount else transfer.holds other) :
    call.Touches ((call.take (.transfer index part) amount).setTransfer index (some changed))
      index (some changed) := by
  refine balanced.exchange found changed same
    ((balanced.ledger.take (.transfer index part) amount).congr fun resource => ?_)
  rw [expected_setTransfer]
  cases resource <;> grind [expected]

theorem Balanced.givePart {part : TransferPart} {amount : Nat} (changed : TransferHolding)
    (same : changed.sgCtx = transfer.sgCtx) (moves : ∀ other, transfer.holds other =
      if other = part then changed.holds part + amount else changed.holds other) :
    call.Touches ((call.give (.transfer index part) amount).setTransfer index (some changed))
      index (some changed) := by
  have held : call.expected (.transfer index part) = changed.holds part + amount := by
    simp [expected, found, moves]
  refine balanced.exchange found changed same
    ((balanced.ledger.give (by omega)).congr fun resource => ?_)
  rw [expected_setTransfer]
  cases resource <;> grind [expected]

theorem Balanced.takeChange (part : TransferPart) (amount : Nat)
    (change : TransferHolding → TransferHolding) (same : (change transfer).sgCtx = transfer.sgCtx)
    (moves : ∀ other, (change transfer).holds other =
      if other = part then transfer.holds part + amount else transfer.holds other) :
    call.Touches ((call.take (.transfer index part) amount).changeTransfer index change) index
      (some (change transfer)) := by
  have here : (call.take (.transfer index part) amount).slot index = some transfer := found
  rw [changeTransfer_eq here]
  exact balanced.takePart found _ same moves

theorem Balanced.giveChange (part : TransferPart) (amount : Nat)
    (change : TransferHolding → TransferHolding) (same : (change transfer).sgCtx = transfer.sgCtx)
    (moves : ∀ other, transfer.holds other =
      if other = part then (change transfer).holds part + amount
      else (change transfer).holds other) :
    call.Touches ((call.give (.transfer index part) amount).changeTransfer index change) index
      (some (change transfer)) := by
  have here : (call.give (.transfer index part) amount).slot index = some transfer := found
  rw [changeTransfer_eq here]
  exact balanced.givePart found _ same moves

theorem Balanced.mark
    (change : TransferHolding → TransferHolding) (same : (change transfer).sgCtx = transfer.sgCtx)
    (still : ∀ part, (change transfer).holds part = transfer.holds part) :
    call.Touches (call.changeTransfer index change) index (some (change transfer)) := by
  rw [changeTransfer_eq found]
  refine balanced.exchange found _ same (balanced.ledger.congr fun resource => ?_)
  rw [expected_setTransfer]
  cases resource <;> grind [expected]

theorem Balanced.still : call.Touches call index (some transfer) where
  balanced := balanced
  slot := by rw [← found, Function.update_eq_self]
  creator := rfl
  transferArray := rfl
  work := rfl

theorem Balanced.dropPart (part : TransferPart) (field : TransferHolding → Bool)
    (change : TransferHolding → TransferHolding) (same : (change transfer).sgCtx = transfer.sgCtx)
    (moves : field transfer = true → ∀ other, transfer.holds other =
      if other = part then (change transfer).holds part + 1 else (change transfer).holds other)
    (still : field transfer = false → change transfer = transfer) :
    call.Touches
      (if (call.slot index).any field then
        (call.give (.transfer index part) 1).changeTransfer index change
      else call) index (some (change transfer)) := by
  simp only [found, Option.any_some]
  cases has : field transfer with
  | true =>
    rw [if_pos rfl]
    exact balanced.giveChange found part 1 change same (moves has)
  | false =>
    rw [if_neg (by simp), still has]
    exact balanced.still found

theorem Balanced.transferIdFree :
    call.Touches (call.transferIdFree index) index (some { transfer with id := false }) := by
  refine balanced.dropPart found .id TransferHolding.id _ rfl ?_ fun has => by rw [← has]
  rintro has (_ | _) <;> simp [TransferHolding.holds, has]

theorem Balanced.mxLeaseTransferPut :
    call.Touches (call.mxLeaseTransferPut index) index
      (some { transfer with ownerCtx := false }) := by
  refine balanced.dropPart found .lease TransferHolding.ownerCtx _ rfl ?_ fun has => by rw [← has]
  rintro has (_ | _) <;> simp [TransferHolding.holds, has]

theorem Balanced.freeDescBa :
    call.Touches (call.freeDescBa index) index (some { transfer with descListBa := false }) := by
  refine balanced.dropPart found .descBa TransferHolding.descListBa _ rfl ?_
    fun has => by rw [← has]
  rintro has (_ | _) <;> simp [TransferHolding.holds, has]

omit [DecidableEq τ] in
/-- A transfer that shares the mapping keeps it referenced. -/
theorem Balanced.refcount_pos (shares : transfer.sgCtx = true) : 0 < call.refcount := by
  have here : SharesMapping (call.slot index) := by simp [SharesMapping, found, shares]
  have counted := tally_pos here
  have users := balanced.users
  omega

theorem Balanced.putSgCtx :
    call.Touches (call.putSgCtx index) index (some { transfer with sgCtx := false }) := by
  simp only [CallState.putSgCtx, found, Option.any_some]
  cases shares : transfer.sgCtx with
  | false =>
    have same : { transfer with sgCtx := false } = transfer := by rw [← shares]
    rw [if_neg (by simp), same]
    exact balanced.still found
  | true =>
    obtain ⟨ledger, context, put, holds, count, live⟩ :=
      mxSgContextPut_spec balanced.ledger balanced.live (balanced.refcount_pos found shares)
    have here : call.mxSgContextPut.slot index = some transfer := by rw [put]; exact found
    rw [if_pos rfl, changeTransfer_eq here, put]
    refine ⟨⟨?_, ?_, live⟩, rfl, rfl, rfl, rfl⟩
    · refine holds.congr fun resource => ?_
      rw [expected_setTransfer]
      cases resource with
      | transfer other part =>
        by_cases same : other = index
        · subst same
          cases part <;> simp [expected, found, TransferHolding.holds]
        · simp only [if_neg same]
          rfl
      | _ => rfl
    · have left := tally_update_leave (p := SharesMapping) call.slot index
        (some { transfer with sgCtx := false }) (by simp [SharesMapping, found, shares])
        (by simp [SharesMapping])
      have users := balanced.users
      simp only [refcount, setTransfer] at count users ⊢
      omega

theorem Balanced.freeMxTransfer (noSg : transfer.sgCtx = false)
    (empty : ∀ part, transfer.holds part = if part = .slab then 1 else 0) :
    call.Touches (call.freeMxTransfer index) index none := by
  have slab : 1 ≤ call.expected (.transfer index .slab) := by simp [expected, found, empty]
  refine ⟨⟨(balanced.ledger.give slab).congr fun resource => ?_, ?_, balanced.live⟩,
    rfl, rfl, rfl, rfl⟩
  · change _ = (call.setTransfer index none).expected resource
    rw [expected_setTransfer]
    cases resource <;> grind [expected]
  · have same := tally_update_same (p := SharesMapping) call.slot index none (by simp [found, noSg])
    exact balanced.users.trans (by rw [← same]; rfl)

theorem Balanced.releaseMxTransfer (bare : transfer.Bare) :
    call.Touches (call.releaseMxTransfer index) index none := by
  have put := balanced.putSgCtx found
  have noId := put.balanced.transferIdFree put.here
  have noLease := noId.balanced.mxLeaseTransferPut noId.here
  refine ((put.trans noId).trans noLease).trans
    (noLease.balanced.freeMxTransfer noLease.here rfl fun part => ?_)
  obtain ⟨noVa, noBa⟩ := bare
  cases part <;> simp [TransferHolding.holds, noVa, noBa]

theorem Balanced.freeDescVa :
    call.Touches (call.freeDescVa index) index (some { transfer with descListVa := none }) := by
  simp only [CallState.freeDescVa, found, Option.bind_some]
  cases va : transfer.descListVa with
  | none =>
    have same : { transfer with descListVa := none } = transfer := by rw [← va]
    simp only [same]
    exact balanced.still found
  | some filled =>
    -- between the two the array is there and lists no page
    let emptied : TransferHolding := { transfer with descListVa := some 0 }
    let bare : TransferHolding := { transfer with descListVa := none }
    have noPages : call.Touches
        ((call.give (.transfer index .descPages) filled).setTransfer index (some emptied))
        index (some emptied) := by
      refine balanced.givePart found emptied rfl fun part => ?_
      cases part <;> simp [TransferHolding.holds, emptied, va]
    have noArray := noPages.balanced.givePart noPages.here bare rfl
      (show ∀ part, emptied.holds part =
        if part = .descVa then bare.holds .descVa + 1 else bare.holds part by
          intro part
          cases part <;> simp [TransferHolding.holds, emptied, bare])
    have merged := noPages.trans noArray
    simp only [give, setTransfer, Function.update_idem] at merged
    simpa [changeTransfer, give, setTransfer, found] using merged

theorem Balanced.descListFree :
    call.Touches (call.descListFree index) index
      (some { transfer with descListVa := none, descListBa := false }) := by
  have noVa := balanced.freeDescVa found
  exact noVa.trans (noVa.balanced.freeDescBa noVa.here)

theorem Balanced.mxTransferDestroySg :
    call.Touches (call.mxTransferDestroySg index) index none := by
  have noList := balanced.descListFree found
  exact noList.trans (noList.balanced.releaseMxTransfer noList.here ⟨rfl, rfl⟩)

end Records

end CallState

end MxDriver
