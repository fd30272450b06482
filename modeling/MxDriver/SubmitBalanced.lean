import MxDriver.SubmitLedger

/-!
# Every end of a submission

The programs of a submission, one after another: what each does to the transfer it works
on, and where its failures leave the call.
-/

namespace MxDriver

namespace CallState

open Fallible

variable {τ : Type} [Fintype τ] [DecidableEq τ] {call next : CallState τ} {index : τ}
variable {transfer : TransferHolding}

/-! ## Allocating a transfer -/

section Building

variable (balanced : call.Balanced)
include balanced

theorem Balanced.empty (free : call.slot index = none) : call.Touches call index none where
  balanced := balanced
  slot := by rw [← free, Function.update_eq_self]
  creator := rfl
  transferArray := rfl
  work := rfl

theorem Balanced.takeGive (free : call.slot index = none) (resource : CallResource τ) :
    call.Touches ((call.take resource 1).give resource 1) index none where
  balanced := {
    ledger := by
      refine ((balanced.ledger.take resource 1).give (by simp)).congr fun other => ?_
      change _ = call.expected other
      by_cases same : other = resource
      · subst same
        simp
      · simp [same]
    users := balanced.users
    live := balanced.live }
  slot := by rw [← free, Function.update_eq_self]; rfl
  creator := rfl
  transferArray := rfl
  work := rfl

theorem Balanced.newTransfer (free : call.slot index = none) (size : Nat) :
    call.Touches
      (((call.take (.transfer index .slab) 1).take (.transfer index .id) 1).setTransfer index
        (some { size := size, sgCtx := false }))
      index (some { size := size, sgCtx := false }) where
  balanced := {
    ledger := by
      refine ((balanced.ledger.take (.transfer index .slab) 1).take
        (.transfer index .id) 1).congr fun resource => ?_
      change _ = (call.setTransfer index _).expected resource
      rw [expected_setTransfer]
      cases resource with
      | transfer other part => cases part <;> grind [expected, TransferHolding.holds]
      | _ => rfl
    users := by
      refine balanced.users.trans ?_
      simp only [setTransfer]
      rw [tally_update_same]
      · rfl
      · simp [SharesMapping, take, free]
    live := balanced.live }
  slot := rfl
  creator := rfl
  transferArray := rfl
  work := rfl

theorem Balanced.allocMxTransfer (free : call.slot index = none)
    (answers : TransferAnswers) (size : Nat) :
    Ends (fun _ next => call.Touches next index (some { size := size, sgCtx := false }))
      (fun next => call.Touches next index none) (allocMxTransfer answers index size call) := by
  refine ends_refuse (fun _ => balanced.empty free) fun _ => ends_update ?_
  refine ends_refuseAfter (fun _ => balanced.takeGive free _) fun _ => ?_
  exact balanced.newTransfer free size

theorem Balanced.getSgCtx (found : call.slot index = some transfer)
    (alone : transfer.sgCtx = false) (shared : 0 < call.refcount) :
    call.Touches
      (call.mxSgContextGet.changeTransfer index fun transfer => { transfer with sgCtx := true })
      index (some { transfer with sgCtx := true }) := by
  cases context : call.context with
  | none => simp [refcount, context] at shared
  | some holding =>
    have here : call.mxSgContextGet.slot index = some transfer := found
    rw [changeTransfer_eq here]
    refine ⟨⟨balanced.ledger.congr fun resource => ?_, ?_, ?_⟩, rfl, rfl, rfl, rfl⟩
    · rw [expected_setTransfer]
      cases resource with
      | transfer other part =>
        by_cases same : other = index
        · subst same
          cases part <;> simp [expected, found, TransferHolding.holds]
        · simp only [if_neg same]
          rfl
      | _ => simp [expected, mxSgContextGet, setContext, context]
    · have joined := tally_update_enter (p := SharesMapping) call.slot index
        (some { transfer with sgCtx := true }) (by simp [SharesMapping, found, alone])
        (by simp [SharesMapping])
      have users := balanced.users
      simp only [refcount, context, Option.elim_some] at users
      simp only [refcount, setTransfer, mxSgContextGet, setContext, context, Option.map_some,
        Option.elim_some]
      omega
    · intro changed found
      simp only [setTransfer, mxSgContextGet, setContext, context, Option.map_some,
        Option.some.injEq] at found
      subst found
      simp

omit [DecidableEq τ] in
/-- The call's own reference keeps the mapping. -/
theorem Balanced.refcount_pos_of_creator (creator : call.creator = true) : 0 < call.refcount := by
  have users := balanced.users
  rw [creator] at users
  simp only [Bool.toNat_true] at users
  omega

theorem Balanced.allocMxTransferSg (free : call.slot index = none)
    (creator : call.creator = true) (answers : TransferAnswers) (size : Nat) :
    Ends (fun _ next => call.Touches next index (some { size := size, sgCtx := true }))
      (fun next => call.Touches next index none)
      (allocMxTransferSg answers index size call) := by
  refine ends_bind (balanced.allocMxTransfer free answers size) fun _ next made => ?_
  have shared := made.balanced.refcount_pos_of_creator (made.creator.trans creator)
  exact made.trans (made.balanced.getSgCtx made.here rfl shared)

/-! ## Building its command -/

theorem Balanced.mxLeaseTransferGet
    (found : call.slot index = some transfer) (uncharged : transfer.ownerCtx = false)
    (answers : TransferAnswers) :
    Ends (fun _ next => call.Touches next index (some { transfer with ownerCtx := true }))
      (fun next => call.Touches next index (some transfer))
      (mxLeaseTransferGet answers index call) := by
  refine ends_check (balanced.still found) fun _ => ?_
  refine balanced.takeChange found .lease 1 _ rfl fun part => ?_
  cases part <;> simp [TransferHolding.holds, uncharged]

theorem Balanced.fillDescList (found : call.slot index = some transfer) {filled : Nat}
    (va : transfer.descListVa = some filled) (page : Nat → Bool) (list : Nat) :
    Ends (fun _ next =>
        call.Touches next index (some { transfer with descListVa := some (filled + 1) }))
      (fun next => call.Touches next index (some transfer))
      (fillDescList index page list call) := by
  refine ends_refuse (fun _ => balanced.still found) fun _ => ?_
  have more := balanced.takeChange found .descPages 1
    (fun transfer => { transfer with descListVa := transfer.descListVa.map (· + 1) }) rfl
    fun part => by cases part <;> simp [TransferHolding.holds, va]
  rw [va] at more
  exact more

end Building

/-- The list is being filled. -/
def Filling (call : CallState τ) (index : τ) (transfer : TransferHolding)
    (now : CallState τ) : Prop :=
  ∃ filled, call.Touches now index
    (some { transfer with descListVa := some filled, descListBa := true })

theorem Filling.rounds (filling : call.Filling index transfer next) (page : Nat → Bool)
    (lists : List Nat) :
    Ends (fun _ => call.Filling index transfer) (call.Filling index transfer)
      (forEach (fillDescList index page) lists next) := by
  refine ends_forEach (fun _ => call.Filling index transfer) ?_ filling
  rintro list rest now ⟨filled, touches⟩
  have round := touches.balanced.fillDescList touches.here rfl page list
  exact round.mono (fun _ _ more => ⟨filled + 1, touches.trans more⟩)
    fun _ full => ⟨filled, touches.trans full⟩

/-- A list is there as a whole or not at all. -/
theorem Balanced.descListAlloc (balanced : call.Balanced)
    (found : call.slot index = some transfer) (bare : transfer.Bare) (listCnt : Nat)
    (va ba : Bool) (page : Nat → Bool) :
    Ends (fun _ => call.Filling index transfer)
      (fun next => call.Touches next index (some transfer))
      (descListAlloc index listCnt va ba page call) := by
  obtain ⟨noVa, noBa⟩ := bare
  refine ends_refuse (fun _ => balanced.still found) fun _ => ends_update ?_
  have array := balanced.takeChange found .descVa 1
    (fun transfer => { transfer with descListVa := some 0 }) rfl
    fun part => by cases part <;> simp [TransferHolding.holds, noVa]
  refine ends_refuseAfter (fun _ => ?_) fun _ => ends_update ?_
  · have dropped := array.trans (array.balanced.giveChange array.here .descVa 1
      (fun transfer => { transfer with descListVa := none }) rfl
      fun part => by cases part <;> simp [TransferHolding.holds])
    rwa [show { transfer with descListVa := none } = transfer by rw [← noVa]] at dropped
  · have list := array.trans (array.balanced.takeChange array.here .descBa 1
      (fun transfer => { transfer with descListBa := true }) rfl
      fun part => by cases part <;> simp [TransferHolding.holds, noBa])
    have filling : call.Filling index transfer _ := ⟨0, list⟩
    refine ends_onFailure (filling.rounds page _) ?_
    rintro now ⟨filled, touches⟩
    have freed := touches.trans (touches.balanced.descListFree touches.here)
    rwa [show { transfer with descListVa := none, descListBa := false } = transfer by
      rw [← noVa, ← noBa]] at freed

theorem Balanced.createCommandSg (balanced : call.Balanced)
    (found : call.slot index = some transfer) (bare : transfer.Bare) (answers : TransferAnswers) :
    Ends (fun _ next => ∃ va ba, call.Touches next index
        (some { transfer with descListVa := va, descListBa := ba }))
      (fun next => call.Touches next index (some transfer))
      (createCommandSg answers index call) := by
  unfold CallState.createCommandSg
  cases answers.command with
  | refused error => exact balanced.still found
  | direct => exact ⟨transfer.descListVa, transfer.descListBa, balanced.still found⟩
  | list listCnt va ba page walk =>
    refine ends_bind (balanced.descListAlloc found bare listCnt va ba page) ?_
    rintro _ next ⟨filled, touches⟩
    refine ends_lastCheckAfter ?_ ⟨_, _, touches⟩
    have freed := touches.trans (touches.balanced.descListFree touches.here)
    obtain ⟨noVa, noBa⟩ := bare
    rwa [show { transfer with descListVa := none, descListBa := false } = transfer by
      rw [← noVa, ← noBa]] at freed

end CallState

namespace TransferHolding

/-- A transfer with its command, ready to be queued. -/
structure Ready (size : Nat) (transfer : TransferHolding) : Prop where
  size : transfer.size = size
  queued : transfer.queued = false
  alive : transfer.isZombie = false
  sound : transfer.Sound

/-- A transfer that was queued and has no end yet. -/
structure InFlight (size : Nat) (transfer : TransferHolding) : Prop where
  size : transfer.size = size
  queued : transfer.queued = true
  alive : transfer.isZombie = false
  sound : transfer.Sound

end TransferHolding

namespace CallState

open Fallible

variable {τ : Type} [Fintype τ] [DecidableEq τ] {call next : CallState τ} {index : τ}
variable {transfer : TransferHolding} {size : Nat}

/-- The transfer is gone, or it was left to the zombie cleaner. -/
def Ended (call : CallState τ) (index : τ) (transfer : TransferHolding) (next : CallState τ) :
    Prop :=
  call.Touches next index none ∨
    call.Touches next index (some { transfer with isZombie := true })

variable (balanced : call.Balanced)
include balanced

theorem Balanced.mxTransferInitSg
    (found : call.slot index = some { size := size, sgCtx := true }) (answers : TransferAnswers) :
    Ends (fun _ next => ∃ ready, call.Touches next index (some ready) ∧ ready.Ready size)
      (fun next => ∃ failed, call.Touches next index (some failed))
      (mxTransferInitSg answers index call) := by
  have charging := balanced.mxLeaseTransferGet found rfl answers
  refine ends_bind (charging.mono (fun _ _ => id) fun _ refused => ⟨_, refused⟩) ?_
  intro _ charged touches
  have building := touches.balanced.createCommandSg touches.here ⟨rfl, rfl⟩ answers
  refine ends_bind (building.mono (fun _ _ => id) fun _ refused =>
    ⟨_, touches.trans refused⟩) ?_
  rintro _ built ⟨va, ba, command⟩
  have whole := touches.trans command
  refine ⟨_, whole.trans (whole.balanced.mark whole.here _ rfl fun part => ?_), rfl, rfl, rfl, ?_⟩
  · cases part <;> rfl
  · simp [TransferHolding.Sound]

theorem Balanced.mxTransferInitCtrl
    (found : call.slot index = some { size := size, sgCtx := false }) (answers : TransferAnswers) :
    Ends (fun _ next => ∃ ready, call.Touches next index (some ready) ∧ ready.Ready size ∧
        ready.Bare)
      (fun next => ∃ failed, call.Touches next index (some failed) ∧ failed.Bare)
      (mxTransferInitCtrl answers index call) := by
  have charging := balanced.mxLeaseTransferGet found rfl answers
  refine ends_bind (charging.mono (fun _ _ => id) fun _ refused => ⟨_, refused, rfl, rfl⟩) ?_
  intro _ charged touches
  cases answers.command with
  | refused error => exact ⟨_, touches, rfl, rfl⟩
  | direct | list => exact ⟨_, touches, ⟨rfl, rfl, rfl, fun _ => ⟨rfl, rfl⟩⟩, rfl, rfl⟩

/-! ## Its end -/

variable (found : call.slot index = some transfer)
include found

theorem Balanced.teardown (sound : transfer.Sound) :
    call.Touches (call.teardown index) index none := by
  simp only [CallState.teardown, found, Option.any_some]
  cases isSg : transfer.isSg with
  | true => exact balanced.mxTransferDestroySg found
  | false => exact balanced.releaseMxTransfer found (sound isSg)

theorem Balanced.mxTransferWait (sound : transfer.Sound) (waitEnd : WaitEnd) :
    Ends (fun value next => value = transfer.size ∧ call.Touches next index none)
      (call.Ended index transfer) (mxTransferWait waitEnd index call) := by
  refine ends_read ?_
  cases waitEnd with
  | completed =>
    have claimed : call.Touches (call.claimCompletion index) index _ :=
      balanced.transferIdFree found
    have gone := claimed.balanced.teardown claimed.here sound
    refine ends_update (ends_update ⟨?_, claimed.trans gone⟩)
    simp [found]
  | recovered error => exact ends_update (.inl (balanced.teardown found sound))
  | parked error =>
    refine ends_update (.inr (balanced.mark found _ rfl fun part => ?_))
    cases part <;> rfl

theorem Balanced.passthruWait (bare : transfer.Bare) (waitEnd : WaitEnd) (noCompletion : Bool) :
    Ends (fun value next => value = 0 ∧ call.Touches next index none)
      (call.Ended index transfer) (passthruWait waitEnd index noCompletion call) := by
  have released := balanced.releaseMxTransfer found bare
  cases waitEnd with
  | completed =>
    cases noCompletion with
    | true => exact ends_update ⟨rfl, released⟩
    | false =>
      have claimed : call.Touches (call.claimCompletion index) index _ :=
        balanced.transferIdFree found
      exact ends_update (ends_update
        ⟨rfl, claimed.trans (claimed.balanced.releaseMxTransfer claimed.here bare)⟩)
  | recovered error => exact ends_update (.inl released)
  | parked error =>
    cases noCompletion with
    | true => exact ends_update (.inl released)
    | false =>
      refine ends_update (.inr (balanced.mark found _ rfl fun part => ?_))
      cases part <;> rfl

end CallState

end MxDriver
