import MxDriver.DmaViewOk

/-!
# The cleaner and the teardown of a transfer

A zombie reaches the cleaner once its completion was claimed, or once the device is
known to be stopped.  The teardown puts the mapping, frees the id and frees the
transfer, and no thread points at it then.
-/

namespace MxDriver

namespace DmaView

variable {κ : Type*}

namespace Ok

variable {view : DmaView κ} (ok : view.Ok)

include ok

/-! ### The cleaner -/

/-- Only the cleaner has to do with a zombie. -/
theorem gone_of_linked (entry : view.transfer.zombieEntry ≠ .unlinked) : view.waiter = .gone := by
  by_contra owned
  exact entry (ok.owned owned).2.1

theorem gone_of_draining {stage : DrainStage} (pointed : view.draining = some stage) :
    view.waiter = .gone := by
  by_contra owned
  cases (ok.owned owned).2.2.symm.trans pointed

theorem collect (entry : view.transfer.zombieEntry = .zombieList)
    (claimed : view.transfer.waitClaimed = true ∨ view.safe = true) :
    Ok { view with transfer := { view.transfer with zombieEntry := .toCleanup } } := by
  have gone := ok.gone_of_linked (by simp [entry])
  have unfreed := ok.linked (by simp [entry])
  exact
  { ok with
    unused := fun unused => by cases gone.symm.trans unused
    owned := fun owned => (owned gone).elim
    linked := fun _ => unfreed
    detached := fun stage pointed => by
      have linked := entry.symm.trans (ok.detached stage pointed)
      cases stage <;> cases linked
    cleanup := fun _ => by
      rcases claimed with swapped | safe
      · exact ok.swapped swapped
      · exact .inr safe }

theorem setDraining {stage : DrainStage} {entry : ZombieEntry} (gone : view.waiter = .gone)
    (entryEq : entry = stage.entry) (unfreed : view.transfer.frees = 0)
    (before : ∀ stage, view.draining ≠ some (.release stage))
    (after : ∀ release, stage = .release release → release = .desc)
    (returned : view.transfer.claimed = true ∨ view.safe = true) :
    Ok { view with
      transfer := { view.transfer with zombieEntry := entry }
      draining := some stage } := by
  have torn_eq : ∀ past, past ReleaseStage.desc = false →
      torn past { view with
        transfer := { view.transfer with zombieEntry := entry }
        draining := some stage } = torn past view := by
    intro past early
    unfold torn
    congr 2
    cases stage <;> cases old : view.draining with
    | none => simp_all
    | some oldStage => cases oldStage <;> simp_all
  have idTorn := torn_eq ReleaseStage.afterId rfl
  have sgTorn := torn_eq ReleaseStage.afterSg rfl
  exact
  { ok with
    unused := fun unused => by cases gone.symm.trans unused
    owned := fun owned => (owned gone).elim
    linked := fun _ => unfreed
    drained := fun _ _ => unfreed
    detached := fun _ pointed => Option.some.inj pointed ▸ entryEq
    listed := by
      rw [idTorn]
      exact ok.listed
    holding := by
      rw [idTorn]
      exact ok.holding
    cleanup := fun _ => returned
    holdsRef := by
      rw [sgTorn]
      exact ok.holdsRef }

theorem setWaitClaimed (gone : view.waiter = .gone)
    (returned : view.transfer.claimed = true ∨ view.safe = true) :
    Ok { view with transfer := { view.transfer with waitClaimed := true } } :=
  { ok with
    unused := fun unused => by cases gone.symm.trans unused
    claimed := fun claimed => ⟨(ok.claimed claimed).1, rfl, (ok.claimed claimed).2.2⟩
    swapped := fun _ => returned }

/-! ### The teardown -/

/-- A teardown that has come past a statement has done it. -/
theorem done_of_torn {past : Bool} :
    (view.torn ReleaseStage.afterId = past → past = true →
      view.holding = none ∧ view.listed = false) ∧
    (view.torn ReleaseStage.afterSg = past → past = true → view.transfer.holdsRef = false) := by
  constructor
  · rintro torn rfl
    constructor
    · cases pointed : view.holding with
      | none => rfl
      | some stage => cases torn.symm.trans (ok.holding stage pointed).2
    · have listed := ok.listed
      simp_all
  · rintro torn rfl
    have held := ok.holdsRef
    simp_all

theorem torn_of_releasing {stage : ReleaseStage} (waiter : view.waiter = .releasing stage)
    (past : ReleaseStage → Bool) : view.torn past = past stage := by
  obtain ⟨unfreed, -, idle⟩ := ok.owned (by simp [waiter])
  simp [torn, waiter, idle, unfreed]

theorem torn_of_draining {stage : ReleaseStage} (draining : view.draining = some (.release stage))
    (past : ReleaseStage → Bool) : view.torn past = past stage := by
  simp [torn, ok.gone_of_draining draining, draining, ok.drained _ draining]

/-- What depends on how far the release of a transfer has come. -/
theorem later_release {later : DmaView κ} {stage next : ReleaseStage}
    (before : ∀ past, view.torn past = past stage) (after : ∀ past, later.torn past = past next)
    (unlocked : next.afterId = true → view.holding = none)
    (order : (stage.afterId = true → next.afterId = true) ∧
      (stage.afterSg = true → next.afterSg = true))
    (used : view.waiter ≠ .unused ∧ later.waiter ≠ .unused)
    (claimed : later.transfer.claimed = view.transfer.claimed)
    (sgCtx : later.transfer.sgCtx = view.transfer.sgCtx) (holding : later.holding = view.holding)
    (listed : later.listed = (view.listed && !next.afterId))
    (holdsRef : later.transfer.holdsRef = (view.transfer.holdsRef && !next.afterSg)) :
    (later.listed = true ↔ later.waiter ≠ .unused ∧ later.transfer.claimed = false ∧
        later.torn ReleaseStage.afterId = false) ∧
      (∀ stage, later.holding = some stage →
        later.transfer.claimed = true ∧ later.torn ReleaseStage.afterId = false) ∧
      (later.transfer.holdsRef = true ↔
        later.transfer.sgCtx.isSome = true ∧ later.torn ReleaseStage.afterSg = false) := by
  rw [after, after, listed, holding, holdsRef, claimed, sgCtx]
  refine ⟨?_, fun held pointed => ?_, ?_⟩
  · have listed := ok.listed
    rw [before] at listed
    cases past : next.afterId <;> simp_all
  · obtain ⟨claimed, early⟩ := ok.holding held pointed
    refine ⟨claimed, ?_⟩
    by_contra late
    cases (unlocked (by simpa using late)).symm.trans pointed
  · have held := ok.holdsRef
    rw [before] at held
    cases past : next.afterSg <;> simp_all

theorem setReleasing {stage next : ReleaseStage} {listed holdsRef : Bool}
    (waiter : view.waiter = .releasing stage) (unlocked : next.afterId = true → view.holding = none)
    (listedEq : listed = (view.listed && !next.afterId))
    (holdsRefEq : holdsRef = (view.transfer.holdsRef && !next.afterSg))
    (order : (stage.afterId = true → next.afterId = true) ∧
      (stage.afterSg = true → next.afterSg = true)) :
    Ok { view with
      transfer := { view.transfer with holdsRef := holdsRef }
      waiter := .releasing next
      listed := listed } := by
  obtain ⟨taken, free⟩ := ok.not_submitting (by simp [waiter, queuedStage])
  obtain ⟨unfreed, unlinked, idle⟩ := ok.owned (by simp [waiter])
  have before := ok.torn_of_releasing waiter
  have after : ∀ past, torn past { view with
      transfer := { view.transfer with holdsRef := holdsRef }
      waiter := .releasing next
      listed := listed } = past next := fun past => by simp [torn, idle, unfreed]
  obtain ⟨listed, holding, held⟩ := ok.later_release before after unlocked order
    ⟨by simp [waiter], by simp⟩ rfl rfl rfl listedEq holdsRefEq
  exact
  { ok with
    unused := by rintro ⟨⟩
    owned := fun _ => ⟨unfreed, unlinked, idle⟩
    queued := fun onSq => by cases taken.symm.trans onSq
    submitting := fun stage pointed => by cases free.symm.trans pointed
    prepared := by rintro ⟨⟩
    entered := by rintro ⟨⟩
    sent := by rintro ⟨⟩
    pending := by rintro ⟨⟩
    listed := listed
    holding := holding
    released := fun _ _ => ok.released stage waiter
    holdsRef := held
    id := fun _ => ok.id (by simp [waiter]) }

theorem free (waiter : view.waiter = .releasing .slab) :
    Ok { view with
      transfer := { view.transfer with frees := view.transfer.frees + 1 }
      waiter := .gone } := by
  obtain ⟨taken, free⟩ := ok.not_submitting (by simp [waiter, queuedStage])
  obtain ⟨unfreed, unlinked, idle⟩ := ok.owned (by simp [waiter])
  have before : view.torn ReleaseStage.afterId = true ∧
      view.torn ReleaseStage.afterSg = true := by
    simp [torn, waiter, ReleaseStage.afterId, ReleaseStage.afterSg]
  have after : ∀ past, torn past { view with
      transfer := { view.transfer with frees := view.transfer.frees + 1 }
      waiter := .gone } = true := fun past => by simp [torn]
  exact
  { ok with
    unused := by rintro ⟨⟩
    owned := fun owned => (owned rfl).elim
    queued := fun onSq => by cases taken.symm.trans onSq
    submitting := fun stage pointed => by cases free.symm.trans pointed
    prepared := by rintro ⟨⟩
    entered := by rintro ⟨⟩
    sent := by rintro ⟨⟩
    pending := by rintro ⟨⟩
    linked := fun linked => (linked unlinked).elim
    drained := fun stage pointed => by cases idle.symm.trans pointed
    detached := fun stage pointed => by cases idle.symm.trans pointed
    listed := by
      rw [after]
      have listed := ok.listed
      simp_all
    holding := fun stage pointed => by cases before.1.symm.trans (ok.holding stage pointed).2
    released := by rintro _ ⟨⟩
    freed := by
      rw [unfreed]
      exact ⟨Nat.le_refl _, fun _ => .inl (ok.released _ waiter)⟩
    holdsRef := by
      rw [after]
      have held := ok.holdsRef
      simp_all
    id := fun _ => ok.id (by simp [waiter]) }

theorem setDrainReleasing {stage next : ReleaseStage} {listed holdsRef : Bool}
    (draining : view.draining = some (.release stage))
    (unlocked : next.afterId = true → view.holding = none)
    (listedEq : listed = (view.listed && !next.afterId))
    (holdsRefEq : holdsRef = (view.transfer.holdsRef && !next.afterSg))
    (order : (stage.afterId = true → next.afterId = true) ∧
      (stage.afterSg = true → next.afterSg = true)) :
    Ok { view with
      transfer := { view.transfer with holdsRef := holdsRef }
      draining := some (.release next)
      listed := listed } := by
  have gone := ok.gone_of_draining draining
  have unfreed := ok.drained _ draining
  have before := ok.torn_of_draining draining
  have after : ∀ past, torn past { view with
      transfer := { view.transfer with holdsRef := holdsRef }
      draining := some (.release next)
      listed := listed } = past next := fun past => by simp [torn, gone, unfreed]
  obtain ⟨listed, holding, held⟩ := ok.later_release before after unlocked order
    ⟨by simp [gone], by simp [gone]⟩ rfl rfl rfl listedEq holdsRefEq
  exact
  { ok with
    unused := fun unused => by cases gone.symm.trans unused
    owned := fun owned => (owned gone).elim
    drained := fun _ _ => unfreed
    detached := fun _ pointed => by
      cases pointed
      exact ok.detached (.release stage) draining
    listed := listed
    holding := holding
    cleanup := fun _ => ok.cleanup (.inr (by simp [draining]))
    holdsRef := held }

theorem drainFree (draining : view.draining = some (.release .slab)) :
    Ok { view with
      transfer := { view.transfer with frees := view.transfer.frees + 1 }
      draining := none } := by
  have gone := ok.gone_of_draining draining
  have unfreed := ok.drained _ draining
  have unlinked := ok.detached _ draining
  have before : view.torn ReleaseStage.afterId = true ∧
      view.torn ReleaseStage.afterSg = true := by
    simp [torn, draining, ReleaseStage.afterId, ReleaseStage.afterSg]
  have after : ∀ past, torn past { view with
      transfer := { view.transfer with frees := view.transfer.frees + 1 }
      draining := none } = true := fun past => by simp [torn]
  exact
  { ok with
    unused := fun unused => by cases gone.symm.trans unused
    owned := fun owned => (owned gone).elim
    linked := fun linked => (linked unlinked).elim
    drained := by rintro _ ⟨⟩
    detached := by rintro _ ⟨⟩
    listed := by
      rw [after]
      have listed := ok.listed
      simp_all
    holding := fun stage pointed => by cases before.1.symm.trans (ok.holding stage pointed).2
    cleanup := by
      rintro (entry | pointed)
      · cases unlinked.symm.trans entry
      · exact (pointed rfl).elim
    freed := by
      rw [unfreed]
      refine ⟨Nat.le_refl _, fun _ => ?_⟩
      rcases ok.cleanup (.inr (by simp [draining])) with claimed | safe
      · exact .inl fun _ => .inr (.inl claimed)
      · exact .inr safe
    holdsRef := by
      rw [after]
      have held := ok.holdsRef
      simp_all }

theorem release {stage : ReleaseStage} (waiter : view.waiter = .releasing stage)
    (unlocked : stage = .id → view.holding = none) : Ok { view.afterRelease stage with waiter :=
        match stage.next with
        | some stage => .releasing stage
        | none => .gone } := by
  have afterId := ok.done_of_torn.1 (ok.torn_of_releasing waiter _)
  have afterSg := ok.done_of_torn.2 (ok.torn_of_releasing waiter _)
  cases stage with
  | desc =>
    apply ok.setReleasing waiter _ _ _ (by decide)
    · rintro ⟨⟩
    · simp [afterRelease, ReleaseStage.afterId]
    · simp [afterRelease, ReleaseStage.afterSg]
  | sg =>
    apply ok.setReleasing waiter _ _ _ (by decide)
    · rintro ⟨⟩
    · simp [afterRelease, ReleaseStage.afterId]
    · simp [ReleaseStage.afterSg]
  | id =>
    apply ok.setReleasing waiter (fun _ => unlocked rfl) _ _ (by decide)
    · simp [afterRelease, ReleaseStage.afterId]
    · simp [afterSg rfl]
  | lease =>
    apply ok.setReleasing waiter (fun _ => (afterId rfl).1) _ _ (by decide)
    · simp [afterRelease, (afterId rfl).2]
    · simp [afterRelease, afterSg rfl]
  | slab => exact ok.free waiter

theorem drainRelease {stage : ReleaseStage} (draining : view.draining = some (.release stage))
    (unlocked : stage = .id → view.holding = none) :
    Ok { view.afterRelease stage with draining := stage.next.map DrainStage.release } := by
  have afterId := ok.done_of_torn.1 (ok.torn_of_draining draining _)
  have afterSg := ok.done_of_torn.2 (ok.torn_of_draining draining _)
  cases stage with
  | desc =>
    apply ok.setDrainReleasing draining _ _ _ (by decide)
    · rintro ⟨⟩
    · simp [afterRelease, ReleaseStage.afterId]
    · simp [afterRelease, ReleaseStage.afterSg]
  | sg =>
    apply ok.setDrainReleasing draining _ _ _ (by decide)
    · rintro ⟨⟩
    · simp [afterRelease, ReleaseStage.afterId]
    · simp [ReleaseStage.afterSg]
  | id =>
    apply ok.setDrainReleasing draining (fun _ => unlocked rfl) _ _ (by decide)
    · simp [afterRelease, ReleaseStage.afterId]
    · simp [afterSg rfl]
  | lease =>
    apply ok.setDrainReleasing draining (fun _ => (afterId rfl).1) _ _ (by decide)
    · simp [afterRelease, (afterId rfl).2]
    · simp [afterRelease, afterSg rfl]
  | slab => exact ok.drainFree draining

theorem drainTo {stage next : DrainStage} {entry : ZombieEntry}
    (draining : view.draining = some stage) (early : ∀ release, stage ≠ .release release)
    (after : ∀ release, next = .release release → release = .desc) (entryEq : entry = next.entry) :
    Ok { view with
      transfer := { view.transfer with zombieEntry := entry }
      draining := some next } := by
  apply ok.setDraining (ok.gone_of_draining draining) entryEq (ok.drained _ draining)
  · intro release releasing
    exact early release (Option.some.inj (draining.symm.trans releasing))
  · exact after
  · exact ok.cleanup (.inr (by simp [draining]))

/-- Every move keeps what holds of a transfer. -/
theorem move {next : DmaView κ} {waitDelta zombieDelta : Int}
    (moves : DmaMove view next waitDelta zombieDelta) : next.Ok := by
  cases moves with
  | allocate unused below silent => exact ok.allocate unused below silent
  | abandon prepared => exact ok.abandon prepared
  | queue prepared => exact ok.queue prepared
  | startWait submitted => exact ok.startWait submitted
  | take onSq => exact ok.take onSq
  | count stage => exact ok.count stage
  | pushSilent stage silent => exact ok.push stage (.inl ⟨silent, rfl, rfl⟩)
  | push stage reports => exact ok.push stage (.inr ⟨reports, rfl, rfl⟩)
  | signal stage => exact ok.signal stage
  | deviceComplete owned =>
    apply ok.report (.inl owned) (.inl rfl)
    intro id popped
    cases owned.symm.trans (ok.popped id popped).2.1
  | pop posted free running =>
    apply ok.report (.inr posted) (.inr rfl)
    intro id popped
    split at popped
    · cases popped
    · exact ⟨(Option.some.inj popped).symm, rfl, running, free⟩
  | claim popped => exact ok.claim popped
  | uncount stage => exact ok.setHolding stage
  | check stage => exact ok.setHolding stage
  | deliver stage => exact ok.setHolding stage
  | complete stage => exact ok.complete stage
  | observe waits done => exact ok.observe waits done
  | expire waiting => exact ok.expire waiting
  | remove expired _ onSq => exact ok.remove expired onSq
  | handOff expired free taken => exact ok.taken expired free taken (.inl rfl)
  | wait expired free taken _ next => exact ok.taken expired free taken (.inr next)
  | giveUp late => exact ok.parking (by simp [late, sentStage])
  | mark stage =>
    have parked : Ok { view with waiter := .parking .count } :=
      ok.parking (by simp [stage, sentStage])
    exact parked.setZombie (by simp)
  | parkCount stage => exact ok.parking (by simp [stage, sentStage])
  | enlist stage => exact ok.enlist stage
  | release waiter unlocked => exact ok.release waiter unlocked
  | inspect entry claimed => exact ok.collect entry (.inl claimed)
  | drain entry free =>
    have linked : view.transfer.zombieEntry = DrainStage.swap.entry := entry
    apply ok.setDraining (ok.gone_of_linked (by simp [entry])) linked (ok.linked (by simp [entry]))
    · simp [free]
    · rintro _ ⟨⟩
    · exact ok.cleanup (.inl entry)
  | swap stage =>
    have claims := ok.setWaitClaimed (ok.gone_of_draining stage)
      (ok.cleanup (.inr (by simp [stage])))
    have linked := ok.detached _ stage
    exact claims.drainTo stage (by simp) (by simp) linked
  | unlink stage => exact ok.drainTo stage (by simp) (by simp) rfl
  | drainUncount stage =>
    have unlinked := ok.detached _ stage
    exact ok.drainTo stage (by simp) (by simp) unlinked
  | unpark stage =>
    have unlinked := ok.detached _ stage
    exact ok.drainTo stage (by simp) (by simp) unlinked
  | cancel stage =>
    have unlinked : view.transfer.zombieEntry = (DrainStage.release .desc).entry :=
      ok.detached .cancel stage
    apply ok.drainTo stage (by simp) _ unlinked
    rintro release ⟨⟩
    rfl
  | drainRelease draining unlocked => exact ok.drainRelease draining unlocked

end Ok

end DmaView

end MxDriver
