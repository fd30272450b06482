import MxDriver.DmaSteps

/-!
# The teardown, the cleaner, and every step

The statements of the teardown are shared by the waiter and the cleaner.  With them
every step is accounted for: it moves one transfer, changes a mapping, or belongs to
the shutdown.
-/

namespace MxDriver

variable {τ κ : Type*} [DecidableEq τ] [DecidableEq κ]

namespace DmaSystem

section Threads

variable {system next : DmaSystem τ κ} {index : τ}

/-- What a statement of the teardown of one transfer does to the state. -/
structure Released (system next : DmaSystem τ κ) (index : τ) (stage : ReleaseStage) : Prop where
  unlocked : stage = .id → (system.view index).holding = none
  view_eq : next.view index = (system.view index).afterRelease stage
  others : ∀ other, other ≠ index → next.view other = system.view other
  cleaner : next.cleaner = system.cleaner := by rfl
  waitCount : next.waitCount = system.waitCount := by rfl
  zombieWaitCount : next.zombieWaitCount = system.zombieWaitCount := by rfl
  context : next.context = followRef system.context (system.transfer index)
    ((system.view index).afterRelease stage).transfer := by
      exact (followRef_of_eq _ rfl).symm
  released : ((system.view index).afterRelease stage).transfer.holdsRef = true →
    (system.transfer index).holdsRef = true := by
      exact fun held => held
  table : ∀ id other, next.idTable id = some other → system.idTable id = some other := by
    exact fun _ _ entry => entry
  queue : QueueMoves system next := by exact {}

theorem releaseStatement_released {stage : ReleaseStage}
    {outcome : DmaSystem τ κ × Option ReleaseStage} (held : stage = .sg →
      ((system.transfer index).holdsRef = true ↔ (system.transfer index).sgCtx.isSome = true))
    (statement : system.releaseStatement index stage = some outcome) :
    Released system outcome.1 index stage ∧ outcome.2 = stage.next := by
  unfold releaseStatement at statement
  split at statement
  · cases statement
    exact ⟨{ unlocked := by simp, view_eq := rfl, others := fun _ _ => rfl }, rfl⟩
  · cases statement
    refine ⟨{
      unlocked := by simp
      view_eq := ?_
      others := fun other distinct => ?_
      context := ?_
      released := by rintro ⟨⟩ }, rfl⟩
    · simp [view, setTransfer, DmaView.afterRelease]
    · simp [view, setTransfer, distinct]
    · have held := held rfl
      cases mapping : (system.transfer index).sgCtx with
      | none => simp_all [followRef, DmaView.afterRelease, view]
      | some context => simp_all [followRef, DmaView.afterRelease, view]
  · split at statement
    · cases statement
    · rename_i unlocked
      cases statement
      refine ⟨{
        unlocked := fun _ => ?_
        view_eq := ?_
        others := fun other distinct => ?_
        table := fun id other entry => ?_ }, rfl⟩
      · cases complete : system.complete <;>
          simp_all [view, holdingAt, CompleteThread.holdsIdLock]
      · by_cases listed : system.idTable (system.transfer index).id = some index
        · simp [view, DmaView.afterRelease, listed]
        · simp [view, DmaView.afterRelease, listed]
      · by_cases listed : system.idTable (system.transfer index).id = some index
        · simp [view, listed, table_clear_iff listed distinct]
        · simp [view, listed]
      · simp only at entry
        split at entry
        · exact entry_of_clear entry
        · exact entry
  · cases statement
    exact ⟨{ unlocked := by simp, view_eq := rfl, others := fun _ _ => rfl }, rfl⟩
  · cases statement
    refine ⟨{ unlocked := by simp, view_eq := ?_, others := fun other distinct => ?_ }, rfl⟩
    · simp [view, setTransfer, DmaView.afterRelease]
    · simp [view, setTransfer, distinct]

theorem release_moves (ok : (system.view index).Ok) (step : system.release index = some next) :
    Moves system next := by
  unfold release at step
  split at step
  · rename_i stage releasing
    obtain ⟨⟨middle, after⟩, statement, rfl⟩ := Option.map_eq_some_iff.mp step
    have held : stage = .sg → ((system.transfer index).holdsRef = true ↔
        (system.transfer index).sgCtx.isSome = true) := by
      rintro rfl
      have held := ok.holdsRef
      rw [ok.torn_of_releasing releasing] at held
      simpa [ReleaseStage.afterSg, view] using held
    obtain ⟨released, rfl⟩ := releaseStatement_released held statement
    exact MovesAt.moves_any {
      moves := .release releasing released.unlocked
      view_eq := by
        apply (view_setWaiter _).trans
        cases stage <;> simp only [released.view_eq, ReleaseStage.next]
      others := fun other distinct => by
        rw [view_setWaiter_of_ne _ distinct, released.others other distinct]
      waitCount := by simpa [setWaiter] using released.waitCount
      zombieWaitCount := by simpa [setWaiter] using released.zombieWaitCount
      context := released.context
      creator := fun held free => by cases (released.released held).symm.trans free
      table := fun id other entry => .inl (released.table id other entry)
      queue := { released.queue with } }
  · cases step

theorem drain_moves (step : system.drain index = some next) : Moves system next := by
  unfold drain at step
  split at step
  · rename_i guard
    obtain ⟨free, entry⟩ := guard
    cases step
    exact MovesAt.moves_any {
      moves := .drain entry (by simp [view, free])
      view_eq := by simp [view]
      others := fun other distinct => by simp [view, free, stageAt_of_ne distinct] }
  · cases step

theorem drainNext_moves (ok : ∀ index, (system.view index).Ok)
    (step : system.drainNext = some next) : Moves system next := by
  have at_ : ∀ {index : τ} {stage : DrainStage}, system.cleaner = some (index, stage) →
      (system.view index).draining = some stage := fun pointed => by simp [view, pointed]
  unfold drainNext at step
  split at step
  · cases step
  · rename_i index pointed
    cases step
    exact MovesAt.moves_any {
      moves := .swap (at_ pointed)
      view_eq := by simp [view, setTransfer]
      others := fun other distinct => by
        simp [view, setTransfer, distinct, pointed, stageAt_of_ne distinct] }
  · rename_i index claimed pointed
    cases step
    exact MovesAt.moves_any {
      moves := .unlink (at_ pointed)
      view_eq := by simp [view, setTransfer]
      others := fun other distinct => by
        simp [view, setTransfer, distinct, pointed, stageAt_of_ne distinct] }
  · rename_i index claimed pointed
    cases step
    exact MovesAt.moves_any {
      moves := .drainUncount (at_ pointed)
      view_eq := by simp [view]
      others := fun other distinct => by simp [view, pointed, stageAt_of_ne distinct]
      waitCount := by simp [Int.sub_eq_add_neg] }
  · rename_i index pointed
    cases step
    exact MovesAt.moves_any {
      moves := .unpark (at_ pointed)
      view_eq := by simp [view]
      others := fun other distinct => by simp [view, pointed, stageAt_of_ne distinct]
      zombieWaitCount := rfl }
  · rename_i index pointed
    cases step
    exact MovesAt.moves_any {
      moves := .cancel (at_ pointed)
      view_eq := by simp [view]
      others := fun other distinct => by simp [view, pointed, stageAt_of_ne distinct] }
  · rename_i index stage pointed
    have draining := at_ pointed
    obtain ⟨⟨middle, after⟩, statement, rfl⟩ := Option.map_eq_some_iff.mp step
    have held : stage = .sg → ((system.transfer index).holdsRef = true ↔
        (system.transfer index).sgCtx.isSome = true) := by
      rintro rfl
      have held := (ok index).holdsRef
      rw [(ok index).torn_of_draining draining] at held
      simpa [ReleaseStage.afterSg, view] using held
    obtain ⟨released, rfl⟩ := releaseStatement_released held statement
    have cleaner : middle.cleaner = some (index, .release stage) := released.cleaner.trans pointed
    exact MovesAt.moves_any {
      moves := .drainRelease draining released.unlocked
      view_eq := by
        rw [← released.view_eq]
        cases stage <;> simp [view, ReleaseStage.next]
      others := fun other distinct => by
        rw [← released.others other distinct]
        cases stage <;>
          simp [view, ReleaseStage.next, cleaner, stageAt_of_ne distinct]
      waitCount := by simpa using released.waitCount
      zombieWaitCount := by simpa using released.zombieWaitCount
      context := released.context
      creator := fun held free => by cases (released.released held).symm.trans free
      table := fun id other entry => .inl (released.table id other entry)
      queue := { released.queue with } }

theorem removeFromSq_moves {dead : Bool} (step : system.removeFromSq index dead = some next) :
    Moves system next := by
  unfold removeFromSq at step
  split at step
  · rename_i guard
    obtain ⟨expired, free⟩ := guard
    have unsubmitted : (system.view index).submitting = none := by simp [view, free]
    split at step
    · rename_i onSq
      cases step
      exact (movesAt_both (.remove expired unsubmitted onSq) rfl rfl).moves_any
    · rename_i taken
      have taken : (system.view index).transfer.onSq = false := eq_false_of_ne_true taken
      split at step
      · rename_i silent
        cases step
        exact (movesAt_setWaiter (.handOff expired unsubmitted taken silent)).moves_any
      · rename_i reports
        have reports : (system.view index).transfer.noCompletion = false :=
          eq_false_of_ne_true reports
        split at step
        · cases step
          exact (movesAt_setWaiter
            (.wait expired unsubmitted taken reports (.inr rfl))).moves_any
        · cases step
          exact (movesAt_setWaiter
            (.wait expired unsubmitted taken reports (.inl rfl))).moves_any
  · cases step

theorem park_moves (step : system.park index = some next) : Moves system next := by
  unfold park at step
  split at step
  · rename_i stage
    cases step
    exact (movesAt_both (.mark stage) rfl rfl).moves_any
  · rename_i stage
    cases step
    exact MovesAt.moves_any {
      moves := .parkCount stage
      view_eq := @view_setWaiter τ κ _ system index (.parking .enlist)
      others := fun other distinct =>
        @view_setWaiter_of_ne τ κ _ system index (.parking .enlist) other distinct }
  · rename_i stage
    cases step
    exact (movesAt_both (.enlist stage) rfl rfl).moves_any
  · cases step

theorem setWaiter_moves {guard : Prop} [Decidable guard] {waiter : Waiter} (moves : guard →
      DmaMove (system.view index) { system.view index with waiter := waiter } 0 0)
    (step : (if guard then some (system.setWaiter index waiter) else none) = some next) :
    Moves system next := by
  split at step
  · rename_i holds
    cases step
    exact (movesAt_setWaiter (moves holds)).moves_any
  · cases step

theorem queue_moves (step : system.queue index = some next) : Moves system next := by
  unfold queue at step
  split at step
  · rename_i guard
    cases step
    exact (movesAt_both (.queue guard.1) rfl rfl).moves_any
  · cases step

theorem deviceComplete_moves (step : system.deviceComplete index = some next) :
    Moves system next := by
  unfold deviceComplete at step
  split at step
  · rename_i owned
    cases step
    exact (movesAt_setTransfer (.deviceComplete owned) rfl rfl).moves_any
  · cases step

theorem inspect_effect (step : system.inspect index = some next) :
    Moves system next ∨ next = system := by
  unfold inspect at step
  split at step
  · rename_i guard
    obtain ⟨-, free, entry⟩ := guard
    split at step
    · rename_i claimed
      cases step
      have idle : (system.view index).draining = none := by simp [view, free]
      exact .inl (movesAt_setTransfer (.inspect entry claimed idle) rfl rfl).moves_any
    · cases step
      exact .inr rfl
  · cases step

end Threads

/-- Nothing changes for the transfers. -/
structure Unmoved (system next : DmaSystem τ κ) : Prop where
  view_eq : ∀ index, next.view index = system.view index
  waitCount : next.waitCount = system.waitCount
  zombieWaitCount : next.zombieWaitCount = system.zombieWaitCount
  idTable : next.idTable = system.idTable
  queue : QueueMoves system next

/-- What a step does. -/
inductive Effect (system : DmaSystem τ κ) : DmaSystem τ κ → Prop
  | move {next : DmaSystem τ κ} (moved : Moves system next) : Effect system next
  | create {next : DmaSystem τ κ} {context : κ} (unmoved : Unmoved system next)
      (fresh : (system.context context).created = false)
      (share : next.context = Function.update system.context context
        { created := true, creator := true, refcount := 1, unmaps := 0 }) : Effect system next
  | putCreator {next : DmaSystem τ κ} {context : κ} (unmoved : Unmoved system next)
      (creator : (system.context context).creator = true)
      (share : next.context = Function.update system.context context
        { (system.context context).put with creator := false }) : Effect system next
  | idle {next : DmaSystem τ κ} (unmoved : Unmoved system next)
      (share : next.context = system.context) : Effect system next
  | declare (stopped : system.queueStopped = true) :
      Effect system { system with dmaReclaimSafe := true }
  | collect (safe : system.dmaReclaimSafe = true) :
      Effect system { system with
        cleanerStopped := true
        transfer := fun index =>
          { system.transfer index with
            zombieEntry :=
              if (system.transfer index).zombieEntry = .zombieList then .toCleanup
              else (system.transfer index).zombieEntry } }

/-- The last collection does not change whether a transfer is on a list. -/
theorem collected_eq_unlinked (entry : ZombieEntry) :
    (if entry = .zombieList then ZombieEntry.toCleanup else entry) = .unlinked ↔
      entry = .unlinked := by
  cases entry <;> simp

theorem Effect.keeps {system next : DmaSystem τ κ} {property : DmaView κ → Prop}
    (effect : Effect system next) (holds : ∀ index, property (system.view index))
    (move : ∀ index view waitDelta zombieDelta,
      DmaMove (system.view index) view waitDelta zombieDelta → property view)
    (declare : system.queueStopped = true →
      ∀ index, property { system.view index with safe := true })
    (collect : system.dmaReclaimSafe = true → ∀ index entry,
      (entry = (system.transfer index).zombieEntry ∨
        (system.transfer index).zombieEntry = .zombieList ∧ entry = .toCleanup) →
      property { system.view index with
        transfer := { system.transfer index with zombieEntry := entry } })
    (index : τ) : property (next.view index) := by
  cases effect with
  | move moved =>
    obtain ⟨moving, view, _, _, moved⟩ := moved
    by_cases same : index = moving
    · subst same
      rw [moved.view_eq]
      exact move index view _ _ moved.moves
    · rw [moved.others index same]
      exact holds index
  | create unmoved | putCreator unmoved | idle unmoved =>
    rw [unmoved.view_eq]
    exact holds index
  | declare stopped => exact declare stopped index
  | collect safe =>
    apply collect safe index
    split
    · rename_i linked
      exact .inr ⟨linked, rfl⟩
    · exact .inl rfl

theorem dmaStep_effect {system next : DmaSystem τ κ} {action : DmaAction τ κ}
    (ok : ∀ index, (system.view index).Ok)
    (stopped : system.dmaReclaimSafe = true → system.queueStopped = true)
    (step : dmaStep system action = some next) : Effect system next := by
  cases action with
  | createContext context =>
    simp only [dmaStep, createContext] at step
    split at step
    · cases step
    · rename_i fresh
      cases step
      exact .create ⟨fun _ => rfl, rfl, rfl, rfl, {}⟩ (eq_false_of_ne_true fresh) rfl
  | allocate index sgCtx noCompletion id => exact .move (allocate_moves (ok index) step)
  | putCreator context =>
    simp only [dmaStep, putCreator] at step
    split at step
    · rename_i creator
      cases step
      exact .putCreator ⟨fun _ => rfl, rfl, rfl, rfl, {}⟩ creator rfl
    · cases step
  | abandon index => exact .move (setWaiter_moves .abandon step)
  | queue index => exact .move (queue_moves step)
  | startWait index => exact .move (setWaiter_moves .startWait step)
  | submitTake index => exact .move (submitTake_moves step)
  | submitNext => exact .move (submitNext_moves step)
  | deviceComplete index => exact .move (deviceComplete_moves step)
  | pop index => exact .move (pop_moves stopped step)
  | claim => exact .move (claim_moves ok step)
  | completeNext =>
    rcases completeNext_effect step with moved | ⟨unlocking, rfl⟩
    · exact .move moved
    · refine .idle ⟨fun index => ?_, rfl, rfl, rfl,
        queueMoves_of_working (.inr (by simp [unlocking]))⟩ rfl
      simp [view, unlocking, poppedAt, holdingAt]
  | observe index => exact .move (setWaiter_moves (fun guard => .observe guard.1 guard.2) step)
  | expire index => exact .move (setWaiter_moves (fun guard => .expire guard.1 guard.2) step)
  | removeFromSq index dead => exact .move (removeFromSq_moves step)
  | giveUp index => exact .move (setWaiter_moves (fun guard => .giveUp guard.1 guard.2) step)
  | park index => exact .move (park_moves step)
  | release index => exact .move (release_moves (ok index) step)
  | inspect index =>
    rcases inspect_effect step with moved | rfl
    · exact .move moved
    · exact .idle ⟨fun _ => rfl, rfl, rfl, rfl, {}⟩ rfl
  | drain index => exact .move (drain_moves step)
  | drainNext => exact .move (drainNext_moves ok step)
  | stopQueue =>
    simp only [dmaStep, stopQueue] at step
    split at step
    · rename_i threads
      cases step
      exact .idle ⟨fun _ => rfl, rfl, rfl, rfl, ⟨fun _ _ => threads, fun _ => ⟨rfl, id⟩, rfl⟩⟩ rfl
    · cases step
  | declareSafe =>
    simp only [dmaStep, declareSafe] at step
    split at step
    · rename_i halted
      cases step
      exact .declare halted
    · cases step
  | stopCleaner =>
    simp only [dmaStep, stopCleaner] at step
    split at step
    · cases step
      split
      · rename_i safe
        exact .collect safe
      · exact .idle ⟨fun _ => rfl, rfl, rfl, rfl, {}⟩ rfl
    · cases step

end DmaSystem

end MxDriver
