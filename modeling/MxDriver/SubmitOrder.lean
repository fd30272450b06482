import MxDriver.SubmitThread
import Mathlib.Data.List.Nodup
import Mathlib.Tactic.SplitIfs

/-!
# Commands reach the device in the order they were queued

The list, the command in the submit thread's hand and the ring hold one sequence: what the
callers queued, without what they took back.  Pings are pushed between the commands and
change nothing about their order.
-/

namespace MxDriver

variable {τ β : Type} {depth hz : Nat} {noCompletion : τ → Bool}

/-! ## What the other threads and the device leave alone -/

/-- The submission tail and its doorbell belong to the submit thread. -/
theorem queueStep_notSubmit {α : Type} {lv : LivenessQueue} {pair next : QueuePair α β}
    {action : QueueAction α β} (other : action.notSubmit lv = true)
    (stepped : queueStep depth pair action = some next) :
    next.pushed = pair.pushed ∧ next.pushing = pair.pushing ∧
      next.queue.sqTail = pair.queue.sqTail ∧ next.sqDoorbell = pair.sqDoorbell := by
  cases action with simp only [queueStep] at stepped
  | admitPush | copyCommand | advanceTail | ringSqDoorbell => cases other
  | admitPop =>
    split at stepped
    · split at stepped <;> cases stepped
      exact ⟨rfl, rfl, rfl, rfl⟩
    · cases stepped
  | copyCompletion | publishHead | advanceHead =>
    split at stepped <;> cases stepped
    first
      | exact ⟨rfl, rfl, rfl, rfl⟩
      | rw [QueuePair.advanceHead, MxQueueV2.updateCqDoorbell]
        split <;> exact ⟨rfl, rfl, rfl, rfl⟩
  | ringCqDoorbell =>
    split at stepped <;> cases stepped
    rw [QueuePair.ringCqDoorbell]
    split <;> exact ⟨rfl, rfl, rfl, rfl⟩
  | fetch | post =>
    split at stepped <;> cases stepped
    exact ⟨rfl, rfl, rfl, rfl⟩

theorem queueStep_admitPush {α : Type} {pair next : QueuePair α β} {comm : α}
    (stepped : queueStep depth pair (.admitPush comm) = some next) :
    pair.pushing = .idle ∧ next = { pair with pushing := .admitted comm } := by
  simp only [queueStep] at stepped
  split at stepped
  · rename_i idle
    split at stepped <;> cases stepped
    exact ⟨idle, rfl⟩
  · cases stepped

/-- Only the submit thread samples the flag and sends a probe. -/
theorem livenessStep_notSubmit {stage : HandlerStage τ} {lv next : LivenessQueue}
    {action : LivenessAction} (other : action.notSubmit stage = true)
    (stepped : livenessStep hz lv action = some next) :
    next.lvOn = lv.lvOn ∧ (next.lvInflight = true → lv.lvInflight = true) := by
  cases action with simp only [livenessStep] at stepped
  | sampleEnable | push | tick => cases other
  | advance | storeStallMs | storeDeadMs | park | uncount | drain =>
    cases stepped
    exact ⟨rfl, id⟩
  | storeEnable =>
    cases stepped
    exact ⟨rfl, by simp [LivenessQueue.livenessEnableStore]⟩
  | pop | claim =>
    split at stepped <;> cases stepped
    exact ⟨rfl, id⟩
  | stamp | revive | clear =>
    split at stepped <;> cases stepped
    all_goals first | exact ⟨rfl, id⟩ | exact ⟨rfl, by simp⟩

/-! ## One sequence -/

/-- The transfer whose push has been admitted and is not done yet. -/
def PushStage.inHand : PushStage (SubmitCommand τ) → List τ
  | .idle => []
  | .admitted comm | .copied comm => comm.transfer?.toList

namespace QueuePair

variable {pair : QueuePair (SubmitCommand τ) β} {comm : SubmitCommand τ}

/-- The transfers whose commands were pushed, in order. -/
def pushedTransfers (pair : QueuePair (SubmitCommand τ) β) : List τ :=
  pair.pushed.filterMap SubmitCommand.transfer?

/-- Those that are pushed or in the submit thread's hand. -/
def sentTransfers (pair : QueuePair (SubmitCommand τ) β) : List τ :=
  pair.pushedTransfers ++ pair.pushing.inHand

theorem sentTransfers_admit (idle : pair.pushing = .idle) :
    sentTransfers { pair with pushing := .admitted comm } =
      pair.sentTransfers ++ comm.transfer?.toList := by
  rw [sentTransfers, sentTransfers, idle, PushStage.inHand, PushStage.inHand, List.append_nil]
  rfl

theorem sentTransfers_copy (admitted : pair.pushing = .admitted comm) :
    (pair.copyCommand comm).sentTransfers = pair.sentTransfers := by
  rw [sentTransfers, sentTransfers, admitted]
  rfl

/-- A push moves the command from the hand into the ring. -/
theorem sentTransfers_advance (copied : pair.pushing = .copied comm) :
    (pair.advanceTail depth comm).sentTransfers = pair.sentTransfers := by
  rw [sentTransfers, sentTransfers, copied, advanceTail, pushedTransfers, pushedTransfers,
    List.filterMap_append, PushStage.inHand, PushStage.inHand, List.append_nil]
  cases comm <;> rfl

end QueuePair

namespace SubmitSystem

/-- What the callers queued, call by call, without what they took back. -/
def remaining [DecidableEq τ] (system : SubmitSystem τ β) : List τ :=
  system.calls.flatMap (·.filter (· ∉ system.recovered))

/-- Where the submit thread stands with its push. -/
def HandOk (system : SubmitSystem τ β) : Prop :=
  match system.stage with
  | .taken index => system.pair.pushing = .admitted (.transfer index)
  | .pushing | .pinging => system.pair.pushing ≠ .idle
  | .offering => system.pair.pushing = .idle ∧ system.sqList ≠ []
  | .waiting | .sampled | .walking | .watching | .ringing => system.pair.pushing = .idle

/-- The stages of the loop behind the test for a ping. -/
def Passed (system : SubmitSystem τ β) : Prop :=
  match system.stage with
  | .offering | .taken _ | .pushing => True
  | .waiting | .sampled | .walking | .watching | .pinging | .ringing => False

/-- The invariant of the submit thread and its callers. -/
structure Ok [DecidableEq τ] (depth : Nat) (system : SubmitSystem τ β) : Prop where
  rings : QueuePairOk depth system.pair
  nodup : system.calls.flatten.Nodup
  recovered : ∀ index ∈ system.recovered, index ∈ system.calls.flatten
  order : system.pair.sentTransfers ++ system.sqList = system.remaining
  hand : system.HandOk
  held : system.Passed → system.lv.lvOn = true → system.lv.lvInflight = false
  announced : system.stage = .waiting ∨ system.stage = .sampled →
    system.pair.sqDoorbell = system.pair.queue.sqTail

end SubmitSystem

namespace SubmitSystem

variable [DecidableEq τ] {system next : SubmitSystem τ β}

theorem remaining_eq (system : SubmitSystem τ β) :
    system.remaining = system.calls.flatten.filter (· ∉ system.recovered) := by
  rw [remaining, List.filter_flatten, List.flatMap_def]

theorem Ok.remaining_nodup (ok : system.Ok depth) : system.remaining.Nodup := by
  rw [remaining_eq]
  exact ok.nodup.filter _

theorem ok_start (positive : 0 < depth) (hz now : Nat) (zeroPayload : β) :
    (start hz now zeroPayload : SubmitSystem τ β).Ok depth where
  rings := queuePairOk_start positive _ _
  nodup := List.nodup_nil
  recovered := by simp [start]
  order := rfl
  hand := rfl
  held := by simp [start, Passed]
  announced := fun _ => rfl

/-! ## The callers -/

section Steps

variable (ok : system.Ok depth)
include ok

theorem Ok.mxTransferQueue {batch : List τ}
    (stepped : system.mxTransferQueue batch = some next) : next.Ok depth := by
  simp only [SubmitSystem.mxTransferQueue, Option.ite_none_right_eq_some, Option.some.injEq]
    at stepped
  obtain ⟨⟨unlocked, fresh⟩, rfl⟩ := stepped
  -- what was taken back was queued before, so nothing of the batch was
  have kept : batch.filter (· ∉ system.recovered) = batch := by
    rw [List.filter_eq_self]
    intro index member
    have unqueued := (List.nodup_append.mp fresh).2.2
    simp only [decide_eq_true_eq]
    exact fun taken => unqueued index (ok.recovered index taken) index member rfl
  refine { ok with nodup := ?_, recovered := ?_, order := ?_, hand := ?_ }
  · simpa using fresh
  · intro index taken
    simp [ok.recovered index taken]
  · have grown : SubmitSystem.remaining { system with
        sqList := system.sqList ++ batch, calls := system.calls ++ [batch] } =
        system.remaining ++ batch := by
      simp only [remaining, List.flatMap_append, List.flatMap_singleton, kept]
    rw [grown, ← ok.order, List.append_assoc]
  · have hand := ok.hand
    unfold HandOk at hand ⊢
    cases stage : system.stage <;> rw [stage] at hand <;> simp_all [HandlerStage.holdsSqLock]

theorem Ok.mxTransferRemoveFromSq {index : τ}
    (stepped : system.mxTransferRemoveFromSq index = some next) : next.Ok depth := by
  simp only [SubmitSystem.mxTransferRemoveFromSq, Option.ite_none_right_eq_some] at stepped
  obtain ⟨unlocked, stepped⟩ := stepped
  split at stepped
  · rename_i waiting
    obtain rfl := Option.some.inj stepped
    have nodup := ok.remaining_nodup
    rw [← ok.order] at nodup
    obtain ⟨-, listNodup, apart⟩ := List.nodup_append.mp nodup
    refine { ok with recovered := ?_, order := ?_, hand := ?_ }
    · intro other taken
      rcases List.mem_cons.mp taken with rfl | taken
      · have member : other ∈ system.remaining := ok.order ▸ List.mem_append_right _ waiting
        rw [remaining_eq] at member
        exact List.mem_of_mem_filter member
      · exact ok.recovered other taken
    · have shrunk : SubmitSystem.remaining { system with
          sqList := system.sqList.erase index, recovered := index :: system.recovered } =
          system.remaining.filter (· ≠ index) := by
        rw [remaining_eq, remaining_eq, List.filter_filter]
        congr 1
        funext other
        simp [not_or]
      have untouched : system.pair.sentTransfers.filter (· ≠ index) =
          system.pair.sentTransfers := by
        rw [List.filter_eq_self]
        intro other member
        simpa using apart other member index waiting
      rw [shrunk, ← ok.order, List.filter_append, untouched, listNodup.erase_eq_filter]
      congr 1
      exact List.filter_congr fun other _ => by simp [bne, beq_eq_decide]
    · have hand := ok.hand
      unfold HandOk at hand ⊢
      cases stage : system.stage <;> rw [stage] at hand <;> simp_all [HandlerStage.holdsSqLock]
  · obtain rfl := Option.some.inj stepped
    exact ok

/-! ## The submit thread -/

theorem Ok.walk (walking : system.stage = .walking) : system.walk.Ok depth := by
  have idle : system.pair.pushing = .idle := by
    have hand := ok.hand
    rwa [HandOk, walking] at hand
  unfold SubmitSystem.walk
  split
  · exact { ok with hand := idle, held := by simp [Passed], announced := by simp }
  · rename_i goesOn
    obtain ⟨nonempty, unheld⟩ := not_or.mp goesOn
    refine { ok with hand := ⟨idle, nonempty⟩, held := fun _ on => ?_, announced := by simp }
    exact Bool.eq_false_iff.mpr fun inflight => unheld ⟨on, inflight⟩

theorem Ok.offer (positive : 0 < depth)
    (offering : system.stage = .offering) (stepped : system.offer depth = some next) :
    next.Ok depth := by
  have order := ok.order
  unfold SubmitSystem.offer at stepped
  split at stepped
  · cases stepped
  · rename_i index rest list
    split at stepped
    · obtain ⟨pair, admitted, rfl⟩ := Option.map_eq_some_iff.mp stepped
      have rings := queuePairOk_step positive ok.rings admitted
      obtain ⟨idle, rfl⟩ := queueStep_admitPush admitted
      have held := ok.held (by simp [Passed, offering])
      refine { ok with
        rings := rings, order := ?_, hand := rfl, held := fun _ => held, announced := by simp }
      -- the head of the list is in the hand now
      rw [list] at order
      rw [QueuePair.sentTransfers_admit idle, List.append_assoc]
      exact order
    · obtain rfl := Option.some.inj stepped
      have idle : system.pair.pushing = .idle := by
        have hand := ok.hand
        rw [HandOk, offering] at hand
        exact hand.1
      exact { ok with hand := idle, held := by simp [Passed], announced := by simp }

theorem Ok.push (positive : 0 < depth) {after : HandlerStage τ}
    (pushes : system.stage = .pushing ∨ system.stage = .pinging)
    (lands : after = .walking ∨ after = .ringing)
    (stepped : system.push depth after = some next) : next.Ok depth := by
  unfold SubmitSystem.push at stepped
  split at stepped
  · cases stepped
  · rename_i comm admitted
    obtain ⟨pair, copied, rfl⟩ := Option.map_eq_some_iff.mp stepped
    have rings := queuePairOk_step positive ok.rings copied
    simp only [queueStep, admitted, Option.some.injEq] at copied
    subst copied
    refine { ok with rings := rings, order := ?_, hand := ?_, announced := ?_ }
    · rw [QueuePair.sentTransfers_copy admitted]
      exact ok.order
    · rcases pushes with stage | stage <;> simp [HandOk, stage, QueuePair.copyCommand]
    · rcases pushes with stage | stage <;> simp [stage]
  · rename_i comm copied
    obtain ⟨pair, advanced, rfl⟩ := Option.map_eq_some_iff.mp stepped
    have rings := queuePairOk_step positive ok.rings advanced
    simp only [queueStep, copied, Option.some.injEq] at advanced
    subst advanced
    refine { ok with rings := rings, order := ?_, hand := ?_, held := ?_, announced := ?_ }
    · rw [QueuePair.sentTransfers_advance copied]
      exact ok.order
    · rcases lands with rfl | rfl <;> rfl
    · rcases lands with rfl | rfl <;> simp [Passed]
    · rcases lands with rfl | rfl <;> simp

theorem Ok.watch (positive : 0 < depth) (watching : system.stage = .watching)
    (stepped : system.watch depth hz = some next) : next.Ok depth := by
  have idle : system.pair.pushing = .idle := by
    have hand := ok.hand
    rwa [HandOk, watching] at hand
  simp only [SubmitSystem.watch] at stepped
  split at stepped
  · split at stepped
    · obtain ⟨pair, admitted, rfl⟩ := Option.map_eq_some_iff.mp stepped
      have rings := queuePairOk_step positive ok.rings admitted
      obtain ⟨-, rfl⟩ := queueStep_admitPush admitted
      refine { ok with
        rings := rings, order := ?_, hand := by simp [HandOk], held := by simp [Passed],
        announced := by simp }
      rw [QueuePair.sentTransfers_admit idle, SubmitCommand.transfer?, Option.toList_none,
        List.append_nil]
      exact ok.order
    · obtain rfl := Option.some.inj stepped
      exact { ok with hand := idle, held := by simp [Passed], announced := by simp }
  · obtain rfl := Option.some.inj stepped
    exact { ok with hand := idle, held := by simp [Passed], announced := by simp }

theorem Ok.ring (positive : 0 < depth) (ringing : system.stage = .ringing) :
    Ok depth { system with pair := system.pair.ringSqDoorbell, stage := .waiting } := by
  have idle : system.pair.pushing = .idle := by
    have hand := ok.hand
    rwa [HandOk, ringing] at hand
  have stepped : queueStep depth system.pair .ringSqDoorbell = some system.pair.ringSqDoorbell := by
    rw [queueStep, idle]
  obtain ⟨known, rungTail, rungHead, heads, submission, -⟩ := ok.rings
  have same : system.pair.ringSqDoorbell.pushed = system.pair.pushed ∧
      system.pair.ringSqDoorbell.pushing = system.pair.pushing ∧
      system.pair.ringSqDoorbell.queue.sqTail = system.pair.queue.sqTail := by
    rw [QueuePair.ringSqDoorbell]
    split <;> exact ⟨rfl, rfl, rfl⟩
  refine { ok with
    rings := queuePairOk_step positive ok.rings stepped, order := ?_, hand := same.2.1.trans idle,
    held := by simp [Passed], announced := fun _ => ?_ }
  · rw [QueuePair.sentTransfers, QueuePair.pushedTransfers, same.1, same.2.1]
    exact ok.order
  · exact submission.ringSqDoorbell_eq.trans same.2.2.symm

theorem Ok.mxSubmitHandler (positive : 0 < depth)
    (stepped : system.mxSubmitHandler depth hz noCompletion = some next) : next.Ok depth := by
  have hand := ok.hand
  unfold SubmitSystem.mxSubmitHandler at stepped
  cases stage : system.stage with rw [stage] at stepped
  | waiting =>
    obtain rfl := Option.some.inj stepped
    rw [HandOk, stage] at hand
    exact { ok with
      hand := hand, held := by simp [Passed], announced := fun _ => ok.announced (.inl stage) }
  | sampled =>
    obtain rfl := Option.some.inj stepped
    rw [HandOk, stage] at hand
    exact { ok with hand := hand, held := by simp [Passed], announced := by simp }
  | walking =>
    obtain rfl := Option.some.inj stepped
    exact ok.walk stage
  | offering => exact ok.offer positive stage stepped
  | taken index =>
    obtain rfl := Option.some.inj stepped
    have held := ok.held (by simp [Passed, stage])
    rw [HandOk, stage] at hand
    refine { ok with hand := by simp [HandOk, hand], held := fun _ => ?_, announced := by simp }
    unfold LivenessQueue.submit
    split <;> exact held
  | pushing => exact ok.push positive (.inl stage) (.inl rfl) stepped
  | watching => exact ok.watch positive stage stepped
  | pinging => exact ok.push positive (.inr stage) (.inr rfl) stepped
  | ringing =>
    obtain rfl := Option.some.inj stepped
    exact ok.ring positive stage

theorem ok_step (positive : 0 < depth) {action : SubmitAction τ β}
    (stepped : submitStep depth hz noCompletion system action = some next) : next.Ok depth := by
  cases action with
  | queue batch => exact ok.mxTransferQueue stepped
  | removeFromSq index => exact ok.mxTransferRemoveFromSq stepped
  | handler => exact ok.mxSubmitHandler positive stepped
  | rings action =>
    simp only [submitStep, Option.ite_none_right_eq_some] at stepped
    obtain ⟨other, stepped⟩ := stepped
    obtain ⟨pair, moved, rfl⟩ := Option.map_eq_some_iff.mp stepped
    obtain ⟨pushed, pushing, tail, doorbell⟩ := queueStep_notSubmit other moved
    refine { ok with
      rings := queuePairOk_step positive ok.rings moved, order := ?_, hand := ?_,
      announced := ?_ }
    · rw [QueuePair.sentTransfers, QueuePair.pushedTransfers, pushed, pushing]
      exact ok.order
    · have hand := ok.hand
      simp only [HandOk, pushing] at hand ⊢
      exact hand
    · intro stage
      exact doorbell.trans ((ok.announced stage).trans tail.symm)
  | liveness action =>
    simp only [submitStep, Option.ite_none_right_eq_some] at stepped
    obtain ⟨other, stepped⟩ := stepped
    obtain ⟨lv, moved, rfl⟩ := Option.map_eq_some_iff.mp stepped
    obtain ⟨sampled, fewer⟩ := livenessStep_notSubmit other moved
    refine { ok with held := fun passed on => ?_ }
    have unheld := ok.held passed (sampled ▸ on)
    exact Bool.eq_false_iff.mpr fun inflight => by simp [fewer inflight] at unheld

end Steps

theorem ok_of_reached (positive : 0 < depth) {now : Nat} {zeroPayload : β}
    (reached : Reached (submitStep depth hz noCompletion)
      (start hz now zeroPayload) system) : system.Ok depth :=
  reached.invariant (ok_start positive hz now zeroPayload)
    fun _ _ _ ok _ stepped => ok_step ok positive stepped

end SubmitSystem

end MxDriver
