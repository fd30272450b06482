import MxDriver.DmaMappings

/-!
# Buffers are released once, and not under the device

Whatever the interleaving, a transfer is freed at most once, no statement touches it
afterwards, and its mapping goes away with the last reference.  Nothing is released
while the device has a claim on it, unless the device is known to be stopped.
-/

namespace MxDriver

variable {τ κ : Type*} [DecidableEq τ] [DecidableEq κ]

namespace DmaView.Ok

variable {κ : Type*} {view : DmaView κ} (ok : view.Ok)

include ok

theorem not_freed (owned : view.waiter ≠ .gone) : view.transfer.frees = 0 :=
  (ok.owned owned).1

theorem not_freed_of_onSq (onSq : view.transfer.onSq = true) : view.transfer.frees = 0 :=
  ok.not_freed (live_of_queuedStage (ok.queued onSq).1).2.1

theorem not_freed_of_submitting {stage : SubmitStage} (pointed : view.submitting = some stage) :
    view.transfer.frees = 0 :=
  ok.not_freed (live_of_queuedStage (ok.submitting stage pointed).1).2.1

omit ok in
theorem not_freed_of_untorn {past : ReleaseStage → Bool} (untorn : view.torn past = false) :
    view.transfer.frees = 0 := by
  simp only [torn, Bool.or_eq_false_iff, decide_eq_false_iff_not, not_not] at untorn
  exact untorn.2

/-- The reference is put only after the command came back, or never left. -/
theorem back_of_torn {past : ReleaseStage → Bool} (torn : view.torn past = true) :
    returned view.transfer ∨ view.safe = true := by
  simp only [DmaView.torn, Bool.or_eq_true, decide_eq_true_eq] at torn
  rcases torn with (waiter | draining) | freed
  · split at waiter
    · rename_i stage releasing
      exact .inl (ok.released stage releasing)
    · cases waiter
  · split at draining
    · rename_i stage pointed
      rcases ok.cleanup (.inr (by simp [pointed])) with claimed | safe
      · exact .inl fun _ => .inr (.inl claimed)
      · exact .inr safe
    · cases draining
  · have once := ok.freed.1
    exact ok.freed.2 (by omega)

/-- A command that came back is not at the device. -/
theorem command_of_returned (back : returned view.transfer) :
    view.transfer.command ≠ .owned ∧ view.transfer.command ≠ .posted := by
  cases queued : view.transfer.queued with
  | false => simp [ok.removed (.inr queued)]
  | true =>
    rcases back queued with removed | claimed | silent
    · simp [ok.removed (.inl removed)]
    · simp [(ok.claimed claimed).1]
    · simp [silent]

end DmaView.Ok

/-- The transfer whose submitter or waiter takes an action. -/
def DmaAction.owner {τ κ : Type*} : DmaAction τ κ → Option τ
  | .allocate index _ _ _ | .abandon index | .startWait index | .observe index | .expire index
  | .giveUp index | .release index | .queue index | .removeFromSq index _ | .park index =>
    some index
  | _ => none

namespace DmaSystem

/-- The transfers that the code behind an action accesses: the one it works on, and for
an operation on a list every member of the list.  `pop_completion` and the device know
a command, not its transfer. -/
def touches (system : DmaSystem τ κ) (action : DmaAction τ κ) (other : τ) : Prop :=
  match action with
  | .createContext _ | .putCreator _ | .deviceComplete _ | .pop _ | .stopQueue | .declareSafe =>
    False
  | .allocate index _ _ _ | .abandon index | .startWait index | .observe index | .expire index
  | .giveUp index | .release index => other = index
  | .queue index | .removeFromSq index _ => other = index ∨ (system.transfer other).onSq = true
  | .submitTake _ => (system.transfer other).onSq = true
  | .submitNext => ∃ stage, system.submit = some (other, stage)
  | .claim => ∃ sender id, system.complete = .popped sender id ∧ system.idTable id = some other
  | .completeNext => ∃ stage, system.complete = .holding other stage
  | .park index => other = index ∨ (system.transfer other).zombieEntry ≠ .unlinked
  | .inspect _ | .drain _ | .stopCleaner => (system.transfer other).zombieEntry ≠ .unlinked
  | .drainNext =>
    (∃ stage, system.cleaner = some (other, stage)) ∨
      (system.transfer other).zombieEntry ≠ .unlinked

section Step

variable {system next : DmaSystem τ κ} {action : DmaAction τ κ} {other : τ}

theorem waiter_ne_gone {index : τ} (step : dmaStep system action = some next)
    (acts : action.owner = some index) : system.waiter index ≠ .gone := by
  intro gone
  cases action <;> cases acts <;>
    simp [dmaStep, allocate, abandon, startWait, observe, expire, giveUp, release, queue,
      removeFromSq, park, gone] at step

/-- Nothing that a step accesses is freed. -/
theorem not_freed_of_touches (ok : system.Ok) (step : dmaStep system action = some next)
    (touched : system.touches action other) : (system.transfer other).frees = 0 := by
  have okView := ok.view other
  have queued : (system.transfer other).onSq = true → (system.transfer other).frees = 0 :=
    okView.not_freed_of_onSq
  have linked : (system.transfer other).zombieEntry ≠ .unlinked →
      (system.transfer other).frees = 0 := okView.linked
  cases action with
  | createContext | putCreator | deviceComplete | pop | stopQueue | declareSafe =>
    exact touched.elim
  | allocate | abandon | startWait | observe | expire | giveUp | release =>
    obtain rfl := touched
    exact okView.not_freed (waiter_ne_gone step rfl)
  | queue | removeFromSq =>
    rcases touched with rfl | onSq
    · exact okView.not_freed (waiter_ne_gone step rfl)
    · exact queued onSq
  | submitTake => exact queued touched
  | park =>
    rcases touched with rfl | entry
    · exact okView.not_freed (waiter_ne_gone step rfl)
    · exact linked entry
  | submitNext =>
    obtain ⟨stage, pointed⟩ := touched
    have submitting : (system.view other).submitting = some stage := by simp [view, pointed]
    exact okView.not_freed_of_submitting submitting
  | claim =>
    obtain ⟨sender, id, -, entry⟩ := touched
    have listed : (system.view other).listed = true := by
      simp [view, ok.table id other entry, entry]
    exact DmaView.Ok.not_freed_of_untorn (okView.listed.mp listed).2.2
  | completeNext =>
    obtain ⟨stage, pointed⟩ := touched
    have held : (system.view other).holding = some stage := by simp [view, pointed, holdingAt]
    exact DmaView.Ok.not_freed_of_untorn (okView.holding stage held).2
  | inspect | drain | stopCleaner => exact linked touched
  | drainNext =>
    rcases touched with ⟨stage, pointed⟩ | entry
    · apply okView.drained stage
      simp [view, pointed]
    · exact linked entry

end Step

omit [DecidableEq κ] in
theorem freed_cases {system : DmaSystem τ κ} (ok : system.Ok) (index : τ)
    (freed : (system.transfer index).frees = 1)
    (reports : (system.transfer index).noCompletion = false)
    (queued : (system.transfer index).queued = true) :
    (system.transfer index).removed = true ∧ (system.transfer index).command = .kept ∨
      (system.transfer index).claimed = true ∨ system.dmaReclaimSafe = true := by
  have okView := ok.view index
  rcases okView.freed.2 freed with back | safe
  · rcases back queued with removed | claimed | silent
    · exact .inl ⟨removed, okView.removed (.inl removed)⟩
    · exact .inr (.inl claimed)
    · have mute := (okView.silent (by rw [silent]; decide)).mp silent
      cases reports.symm.trans mute
  · exact .inr (.inr safe)

/-- Whether the device has the command of a transfer, or its completion is not read. -/
def deviceOwns (transfer : DmaTransfer κ) : Bool :=
  transfer.command = .owned || transfer.command = .posted

omit [DecidableEq κ] in
theorem held_of_deviceOwns {system : DmaSystem τ κ} (ok : system.Ok) {index : τ} {context : κ}
    (mapping : (system.transfer index).sgCtx = some context)
    (owned : deviceOwns (system.transfer index) = true) (running : system.dmaReclaimSafe = false) :
    (system.transfer index).holdsRef = true := by
  have okView := ok.view index
  apply okView.holdsRef.mpr
  refine ⟨by simp [view, mapping], ?_⟩
  by_contra torn
  rcases okView.back_of_torn (by simpa using torn) with back | safe
  · have away := okView.command_of_returned back
    simp only [deviceOwns, Bool.or_eq_true, decide_eq_true_eq] at owned
    rcases owned with owned | posted
    · exact away.1 owned
    · exact away.2 posted
  · cases running.symm.trans safe

/-- In any interleaving of the threads of the queue, the waiters, the cleaner and the
device, a transfer is freed at most once and a mapping is unmapped at most once, by whoever
puts the last reference.  A transfer that is freed was taken back before it was pushed, or
its completion was claimed, or the memory was declared safe.  Until then nothing that the
device can still write to is given back, and no step touches a freed transfer. -/
theorem dma_buffers_released_once [Fintype τ] {system : DmaSystem τ κ}
    (reached : Reached dmaStep start system) :
    (∀ index, (system.transfer index).frees ≤ 1 ∧
      ((system.transfer index).frees = 1 → (system.transfer index).holdsRef = false) ∧
      ((system.transfer index).frees = 1 → (system.transfer index).noCompletion = false →
        (system.transfer index).queued = true →
          (system.transfer index).removed = true ∧ (system.transfer index).command = .kept ∨
          (system.transfer index).claimed = true ∨ system.dmaReclaimSafe = true)) ∧
    (∀ action next, dmaStep system action = some next →
      ∀ index, system.touches action index → (system.transfer index).frees = 0) ∧
    (∀ context, (system.context context).unmaps ≤ 1 ∧
      ((system.context context).unmaps = 1 ↔ (system.context context).created = true ∧
        (system.context context).creator = false ∧
        ∀ index, (system.transfer index).sgCtx = some context →
          (system.transfer index).holdsRef = false)) ∧
    (∀ index context, (system.transfer index).sgCtx = some context →
      (system.transfer index).noCompletion = false ∧
      (deviceOwns (system.transfer index) = true → system.dmaReclaimSafe = false →
        (system.transfer index).frees = 0 ∧ (system.context context).unmaps = 0)) := by
  have ok := ok_of_reached reached
  have shares := sharesOk_of_reached reached
  refine ⟨fun index => ⟨(ok.view index).freed.1, ?_, freed_cases ok index⟩,
    fun action next step index => not_freed_of_touches ok step,
    fun context => ⟨(shares context).unmaps_le, ?_⟩, fun index context mapping => ⟨?_, ?_⟩⟩
  · intro freed
    apply eq_false_of_ne_true
    intro holds
    have untorn := ((ok.view index).holdsRef.mp holds).2
    have unfreed := DmaView.Ok.not_freed_of_untorn untorn
    exact absurd (freed.symm.trans unfreed) (by decide)
  · rw [(shares context).unmaps_iff, held_eq_zero_iff]
  · apply eq_false_of_ne_true
    intro mute
    cases ((ok.view index).plain mute).symm.trans mapping
  · intro owned running
    have holds := held_of_deviceOwns ok mapping owned running
    constructor
    · exact DmaView.Ok.not_freed_of_untorn ((ok.view index).holdsRef.mp holds).2
    · by_contra unmapped
      have once := (shares context).unmaps_le
      have gone := (shares context).unmaps_iff.mp (by omega)
      cases holds.symm.trans (held_eq_zero_iff.mp gone.2.2 index mapping)

/-- Two transfers of one mapping: the second is taken back from the submission list, the
first completes. -/
def splitRun : List (DmaAction Party Unit) :=
  [.createContext (), .allocate 0 (some ()) false 0, .allocate 1 (some ()) false 1,
    .putCreator (), .queue 0, .queue 1, .startWait 0, .startWait 1, .submitTake 0, .submitNext,
    .expire 1, .submitNext, .removeFromSq 1 false, .release 1, .release 1, .release 1, .release 1,
    .release 1, .deviceComplete 0, .pop 0, .claim, .completeNext, .completeNext, .completeNext,
    .completeNext, .observe 0, .release 0, .release 0, .completeNext, .release 0, .release 0,
    .release 0]

theorem dma_buffers_released_once_splitRun :
    ∃ system, runActions dmaStep start splitRun = some system ∧
      (system.transfer 0).frees = 1 ∧ (system.transfer 1).frees = 1 ∧
      ((system.transfer 1).removed = true ∧ (system.transfer 1).command = .kept ∨
        (system.transfer 1).claimed = true ∨ system.dmaReclaimSafe = true) ∧
      (system.context ()).unmaps = 1 := by
  have run : runActions dmaStep start splitRun = some _ := rfl
  obtain ⟨freed, -, mapped, -⟩ := dma_buffers_released_once (reached_of_runActions run)
  refine ⟨_, run, rfl, rfl, (freed 1).2.2 rfl rfl rfl, (mapped ()).2.mpr ⟨rfl, rfl, ?_⟩⟩
  decide

end DmaSystem

end MxDriver
