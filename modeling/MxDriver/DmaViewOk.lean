import MxDriver.DmaMoves

/-!
# One transfer in every interleaving

The facts about a single transfer that every move keeps: which thread may still point
at it, that the id table lists it until its completion is claimed or its id is freed,
and that it is torn down only when the device has no claim on it.
-/

namespace MxDriver

namespace ReleaseStage

/-- The reference on the mapping is put. -/
def afterSg : ReleaseStage → Bool
  | desc | sg => false
  | id | lease | slab => true

/-- The id is freed. -/
def afterId : ReleaseStage → Bool
  | desc | sg | id => false
  | lease | slab => true

end ReleaseStage

/-- The list that the transfer is linked into while the cleaner drains it. -/
def DrainStage.entry : DrainStage → ZombieEntry
  | swap | unlink _ => .toCleanup
  | uncount _ | unpark | cancel | release _ => .unlinked

namespace DmaView

variable {κ : Type*}

/-- The teardown, by the waiter or by the cleaner, has come past a statement, or is
over. -/
def torn (past : ReleaseStage → Bool) (view : DmaView κ) : Bool :=
  (match view.waiter with
    | .releasing stage => past stage
    | _ => false) ||
  (match view.draining with
    | some (.release stage) => past stage
    | _ => false) ||
  decide (view.transfer.frees ≠ 0)

/-- The waiter has not looked for the transfer on the submission list yet. -/
def queuedStage : Waiter → Prop
  | .submitted | .waiting | .expired => True
  | _ => False

theorem live_of_queuedStage {waiter : Waiter} (waits : queuedStage waiter) :
    waiter ≠ .unused ∧ waiter ≠ .gone ∧ waiter ≠ .prepared ∧
      ∀ stage, waiter ≠ .releasing stage := by
  cases waiter <;> simp_all [queuedStage]

/-- The waiter has found the transfer taken from the list. -/
def sentStage : Waiter → Prop
  | .late | .handOff | .parking _ => True
  | _ => False

/-- The command was taken back before it was pushed, its completion was claimed, or it
has none. -/
def returned (transfer : DmaTransfer κ) : Prop :=
  transfer.queued = true →
    transfer.removed = true ∨ transfer.claimed = true ∨ transfer.command = .silent

structure Ok (view : DmaView κ) : Prop where
  unused : view.waiter = .unused →
    view.transfer = {} ∧ view.submitting = none ∧ view.popped = none ∧ view.holding = none ∧
      view.draining = none ∧ view.listed = false
  owned : view.waiter ≠ .gone →
    view.transfer.frees = 0 ∧ view.transfer.zombieEntry = .unlinked ∧ view.draining = none
  queued : view.transfer.onSq = true →
    queuedStage view.waiter ∧ view.transfer.command = .kept ∧ view.submitting = none
  submitting : ∀ stage, view.submitting = some stage →
    queuedStage view.waiter ∧ view.transfer.onSq = false ∧ view.transfer.done = false ∧
      view.transfer.command = if stage = .signal then .silent else .kept
  kept : view.transfer.command = .kept →
    view.transfer.done = false ∧ view.transfer.claimed = false ∧ view.holding = none ∧
      view.popped = none
  prepared : view.waiter = .prepared → view.transfer.command = .kept ∧
    view.transfer.queued = false ∧ view.transfer.removed = false
  entered : queuedStage view.waiter →
    view.transfer.queued = true ∧ view.transfer.removed = false
  sent : sentStage view.waiter → view.transfer.command ≠ .kept
  pending : queuedStage view.waiter → view.transfer.onSq = false → view.submitting = none →
    view.transfer.command ≠ .kept
  linked : view.transfer.zombieEntry ≠ .unlinked → view.transfer.frees = 0
  drained : ∀ stage, view.draining = some stage → view.transfer.frees = 0
  detached : ∀ stage, view.draining = some stage → view.transfer.zombieEntry = stage.entry
  listed : view.listed = true ↔
    view.waiter ≠ .unused ∧ view.transfer.claimed = false ∧
      view.torn ReleaseStage.afterId = false
  holding : ∀ stage, view.holding = some stage →
    view.transfer.claimed = true ∧ view.torn ReleaseStage.afterId = false
  done : view.transfer.done = true →
    view.transfer.claimed = true ∨ view.transfer.command = .silent
  claimed : view.transfer.claimed = true →
    view.transfer.command = .reported ∧ view.transfer.waitClaimed = true ∧ view.popped = none
  popped : ∀ id, view.popped = some id →
    id = view.transfer.id ∧ view.transfer.command = .reported ∧ view.safe = false ∧
      view.holding = none
  swapped : view.transfer.waitClaimed = true → view.transfer.claimed = true ∨ view.safe = true
  cleanup : view.transfer.zombieEntry = .toCleanup ∨ view.draining ≠ none →
    view.transfer.claimed = true ∨ view.safe = true
  released : ∀ stage, view.waiter = .releasing stage → returned view.transfer
  freed : view.transfer.frees ≤ 1 ∧
    (view.transfer.frees = 1 → returned view.transfer ∨ view.safe = true)
  removed : view.transfer.removed = true ∨ view.transfer.queued = false →
    view.transfer.command = .kept
  silent : view.transfer.command ≠ .kept →
    (view.transfer.command = .silent ↔ view.transfer.noCompletion = true)
  holdsRef : view.transfer.holdsRef = true ↔
    view.transfer.sgCtx.isSome = true ∧ view.torn ReleaseStage.afterSg = false
  id : view.waiter ≠ .unused → view.transfer.id < mxPingId
  plain : view.transfer.noCompletion = true → view.transfer.sgCtx = none

namespace Ok

variable {view : DmaView κ} (ok : view.Ok)

include ok

/-! ### The submitter and the waiter -/

theorem allocate {sgCtx : Option κ} {noCompletion : Bool} {id : Nat}
    (unused : view.waiter = .unused) (below : id < mxPingId)
    (silent : noCompletion = true → sgCtx = none) :
    Ok { view with
      transfer := {
        sgCtx := sgCtx, noCompletion := noCompletion, id := id, holdsRef := sgCtx.isSome }
      waiter := .prepared
      listed := true } := by
  obtain ⟨-, submitting, popped, holding, draining, -⟩ := ok.unused unused
  constructor <;> simp [submitting, popped, holding, draining, torn, below, queuedStage,
    sentStage]
  exact silent

theorem setWaiter {waiter : Waiter}
    (live : view.waiter ≠ .unused ∧ view.waiter ≠ .gone ∧ ∀ stage, view.waiter ≠ .releasing stage)
    (target : waiter ≠ .unused ∧ waiter ≠ .gone ∧ waiter ≠ .prepared)
    (release : ∀ stage, waiter = .releasing stage → stage = .desc ∧ returned view.transfer)
    (queued : view.transfer.onSq = true ∨ view.submitting ≠ none → queuedStage waiter)
    (pending : queuedStage waiter → queuedStage view.waiter)
    (sent : sentStage waiter → view.transfer.command ≠ .kept) :
    Ok { view with waiter := waiter } := by
  have torn_eq : ∀ past, past ReleaseStage.desc = false →
      torn past { view with waiter := waiter } = torn past view := by
    intro past early
    unfold torn
    congr 2
    cases waiter <;> cases old : view.waiter <;> simp_all
  have idTorn := torn_eq ReleaseStage.afterId rfl
  have sgTorn := torn_eq ReleaseStage.afterSg rfl
  exact
  { ok with
    unused := fun unused => (target.1 unused).elim
    owned := fun _ => ok.owned live.2.1
    queued := fun onSq => ⟨queued (.inl onSq), (ok.queued onSq).2⟩
    submitting := fun stage pointed =>
      ⟨queued (.inr fun idle => by cases idle.symm.trans pointed), (ok.submitting stage pointed).2⟩
    prepared := fun prepared => (target.2.2 prepared).elim
    entered := fun stage => ok.entered (pending stage)
    sent := sent
    pending := fun stage => ok.pending (pending stage)
    listed := by
      rw [idTorn, ok.listed]
      simp [live.1, target.1]
    holding := by
      rw [idTorn]
      exact ok.holding
    released := fun stage releasing => (release stage releasing).2
    holdsRef := by
      rw [sgTorn]
      exact ok.holdsRef
    id := fun _ => ok.id live.1 }

theorem abandon (prepared : view.waiter = .prepared) :
    Ok { view with waiter := .releasing .desc } := by
  obtain ⟨kept, unqueued, -⟩ := ok.prepared prepared
  apply ok.setWaiter
  · simp [prepared]
  · simp
  · simp [returned, unqueued]
  · rintro (onSq | pointed)
    · simpa [prepared, queuedStage] using (ok.queued onSq).1
    · obtain ⟨stage, pointed⟩ := Option.ne_none_iff_exists'.mp pointed
      simpa [prepared, queuedStage] using (ok.submitting stage pointed).1
  · rintro ⟨⟩
  · rintro ⟨⟩

theorem startWait (submitted : view.waiter = .submitted) : Ok { view with waiter := .waiting } := by
  apply ok.setWaiter <;> simp [submitted, queuedStage, sentStage]

theorem expire (waiting : view.waiter = .waiting) : Ok { view with waiter := .expired } := by
  apply ok.setWaiter <;> simp [waiting, queuedStage, sentStage]

/-- A transfer that was signalled is neither on the list nor with the submit thread. -/
theorem not_pending (done : view.transfer.done = true) :
    ¬(view.transfer.onSq = true ∨ view.submitting ≠ none) := by
  rintro (onSq | pointed)
  · have kept := (ok.queued onSq).2.1
    simp [(ok.kept kept).1] at done
  · obtain ⟨stage, pointed⟩ := Option.ne_none_iff_exists'.mp pointed
    simp [(ok.submitting stage pointed).2.2.1] at done

theorem observe (waits : view.waiter = .waiting ∨ view.waiter = .late ∨ view.waiter = .handOff)
    (done : view.transfer.done = true) : Ok { view with waiter := .releasing .desc } := by
  apply ok.setWaiter
  · rcases waits with waits | waits | waits <;> simp [waits]
  · simp
  · intro stage same
    cases same
    exact ⟨rfl, fun _ => .inr (ok.done done)⟩
  · exact fun pending => (ok.not_pending done pending).elim
  · rintro ⟨⟩
  · rintro ⟨⟩

theorem taken {waiter : Waiter} (expired : view.waiter = .expired) (free : view.submitting = none)
    (taken : view.transfer.onSq = false)
    (next : waiter = .handOff ∨ waiter = .late ∨ waiter = .parking .mark) :
    Ok { view with waiter := waiter } := by
  have sent := ok.pending (by simp [expired, queuedStage]) taken free
  apply ok.setWaiter
  · simp [expired]
  · rcases next with rfl | rfl | rfl <;> simp
  · rcases next with rfl | rfl | rfl <;> simp
  · simp [taken, free]
  · rcases next with rfl | rfl | rfl <;> rintro ⟨⟩
  · exact fun _ => sent

theorem parking {stage : ParkStage} (sent : sentStage view.waiter) :
    Ok { view with waiter := .parking stage } := by
  apply ok.setWaiter
  · refine ⟨?_, ?_, ?_⟩ <;> intros <;> intro same <;> simp [same, sentStage] at sent
  · simp
  · simp
  · rintro (onSq | pointed)
    · exact (ok.sent sent (ok.queued onSq).2.1).elim
    · obtain ⟨stage, pointed⟩ := Option.ne_none_iff_exists'.mp pointed
      have queued := (ok.submitting stage pointed).1
      cases waiter : view.waiter <;> simp_all [sentStage, queuedStage]
  · rintro ⟨⟩
  · exact fun _ => ok.sent sent

theorem setZombie {isZombie : Bool} (live : view.waiter ≠ .unused) :
    Ok { view with transfer := { view.transfer with isZombie := isZombie } } :=
  { ok with unused := fun unused => (live unused).elim }

/-- The submit thread only points at transfers that wait. -/
theorem not_submitting (away : ¬queuedStage view.waiter) :
    view.transfer.onSq = false ∧ view.submitting = none := by
  constructor
  · by_contra onSq
    exact away (ok.queued (by simpa using onSq)).1
  · by_contra pointed
    obtain ⟨stage, pointed⟩ := Option.ne_none_iff_exists'.mp pointed
    exact away (ok.submitting stage pointed).1

theorem queue (prepared : view.waiter = .prepared) :
    Ok { view with
      transfer := { view.transfer with onSq := true, done := false, queued := true }
      waiter := .submitted } := by
  obtain ⟨kept, unqueued, unremoved⟩ := ok.prepared prepared
  obtain ⟨-, free⟩ := ok.not_submitting (by simp [prepared, queuedStage])
  obtain ⟨unfreed, unlinked, idle⟩ := ok.owned (by simp [prepared])
  exact
  { ok with
    unused := by rintro ⟨⟩
    owned := fun _ => ⟨unfreed, unlinked, idle⟩
    queued := fun _ => ⟨trivial, kept, free⟩
    submitting := fun stage pointed => by cases free.symm.trans pointed
    kept := fun kept => ⟨rfl, (ok.kept kept).2⟩
    prepared := by rintro ⟨⟩
    entered := fun _ => ⟨rfl, unremoved⟩
    sent := by rintro ⟨⟩
    pending := fun _ onSq => by cases onSq
    listed := by simpa [torn, prepared] using ok.listed
    holding := by simpa [torn, prepared] using ok.holding
    done := by rintro ⟨⟩
    released := by rintro _ ⟨⟩
    freed := ⟨ok.freed.1, fun freed => by cases unfreed.symm.trans freed⟩
    removed := fun _ => kept
    holdsRef := by simpa [torn, prepared] using ok.holdsRef
    id := fun _ => ok.id (by simp [prepared]) }

theorem remove (expired : view.waiter = .expired) (onSq : view.transfer.onSq = true) :
    Ok { view with
      transfer := { view.transfer with onSq := false, removed := true }
      waiter := .releasing .desc } := by
  obtain ⟨-, kept, free⟩ := ok.queued onSq
  obtain ⟨unfreed, unlinked, idle⟩ := ok.owned (by simp [expired])
  exact
  { ok with
    unused := by rintro ⟨⟩
    owned := fun _ => ⟨unfreed, unlinked, idle⟩
    queued := by rintro ⟨⟩
    submitting := fun stage pointed => by cases free.symm.trans pointed
    prepared := by rintro ⟨⟩
    entered := by rintro ⟨⟩
    sent := by rintro ⟨⟩
    pending := by rintro ⟨⟩
    listed := by simpa [torn, expired, ReleaseStage.afterId] using ok.listed
    holding := by simpa [torn, expired, ReleaseStage.afterId] using ok.holding
    released := fun _ _ _ => .inl rfl
    freed := ⟨ok.freed.1, fun freed => by cases unfreed.symm.trans freed⟩
    removed := fun _ => kept
    holdsRef := by simpa [torn, expired, ReleaseStage.afterSg] using ok.holdsRef
    id := fun _ => ok.id (by simp [expired]) }

theorem enlist (stage : view.waiter = .parking .enlist) :
    Ok { view with
      transfer := { view.transfer with zombieEntry := .zombieList }
      waiter := .gone } := by
  obtain ⟨taken, free⟩ := ok.not_submitting (by simp [stage, queuedStage])
  obtain ⟨unfreed, unlinked, idle⟩ := ok.owned (by simp [stage])
  exact
  { ok with
    unused := by rintro ⟨⟩
    owned := fun owned => (owned rfl).elim
    queued := fun onSq => by cases taken.symm.trans onSq
    submitting := fun stage pointed => by cases free.symm.trans pointed
    prepared := by rintro ⟨⟩
    entered := by rintro ⟨⟩
    sent := by rintro ⟨⟩
    pending := by rintro ⟨⟩
    linked := fun _ => unfreed
    detached := fun stage pointed => by cases idle.symm.trans pointed
    listed := by simpa [torn, stage] using ok.listed
    holding := by simpa [torn, stage] using ok.holding
    cleanup := by
      rintro (entry | pointed)
      · cases entry
      · exact (pointed idle).elim
    released := by rintro _ ⟨⟩
    holdsRef := by simpa [torn, stage] using ok.holdsRef
    id := fun _ => ok.id (by simp [stage]) }

/-! ### The submit thread -/

theorem take (onSq : view.transfer.onSq = true) :
    Ok { view with
      transfer := { view.transfer with onSq := false }
      submitting := some .count } := by
  obtain ⟨waits, kept, -⟩ := ok.queued onSq
  have done := (ok.kept kept).1
  exact
  { ok with
    unused := fun unused => ((live_of_queuedStage waits).1 unused).elim
    queued := by rintro ⟨⟩
    submitting := fun stage pointed => by
      cases pointed
      exact ⟨waits, rfl, done, kept⟩
    pending := fun _ _ free => by cases free }

theorem count (stage : view.submitting = some .count) :
    Ok { view with submitting := some .push } := by
  obtain ⟨waits, taken, done, kept⟩ := ok.submitting _ stage
  exact
  { ok with
    unused := fun unused => ((live_of_queuedStage waits).1 unused).elim
    queued := fun onSq => by cases taken.symm.trans onSq
    submitting := fun stage pointed => by
      cases pointed
      exact ⟨waits, taken, done, kept⟩
    pending := fun _ _ free => by cases free }

/-- A command that is pushed either is silent or is the device's. -/
theorem push {command : CommandState} {submitting : Option SubmitStage}
    (stage : view.submitting = some .push)
    (next : view.transfer.noCompletion = true ∧ command = .silent ∧ submitting = some .signal ∨
      view.transfer.noCompletion = false ∧ command = .owned ∧ submitting = none) :
    Ok { view with
      transfer := { view.transfer with command := command }
      submitting := submitting } := by
  obtain ⟨waits, taken, done, kept⟩ := ok.submitting _ stage
  obtain ⟨-, unclaimed, unheld, unpopped⟩ := ok.kept kept
  have sent : command ≠ .kept := by
    rcases next with ⟨-, rfl, -⟩ | ⟨-, rfl, -⟩ <;> simp
  obtain ⟨entered, unremoved⟩ := ok.entered waits
  obtain ⟨-, left, unprepared, untorn⟩ := live_of_queuedStage waits
  exact
  { ok with
    unused := fun unused => ((live_of_queuedStage waits).1 unused).elim
    queued := fun onSq => by cases taken.symm.trans onSq
    submitting := fun stage pointed => by
      rcases next with ⟨-, rfl, rfl⟩ | ⟨-, -, rfl⟩
      · cases pointed
        exact ⟨waits, taken, done, rfl⟩
      · cases pointed
    kept := fun kept => (sent kept).elim
    prepared := fun prepared => (unprepared prepared).elim
    sent := fun _ => sent
    pending := fun _ _ _ => sent
    done := fun signalled => by cases done.symm.trans signalled
    claimed := fun claimed => by cases unclaimed.symm.trans claimed
    popped := fun id popped => by cases unpopped.symm.trans popped
    released := fun stage releasing => (untorn stage releasing).elim
    freed := ⟨ok.freed.1, fun freed => by cases (ok.owned left).1.symm.trans freed⟩
    removed := by simp [entered, unremoved]
    silent := fun _ => by rcases next with ⟨silent, rfl, -⟩ | ⟨reports, rfl, -⟩ <;> simp [*] }

theorem signal (stage : view.submitting = some .signal) :
    Ok { view with
      transfer := { view.transfer with done := true }
      submitting := none } := by
  obtain ⟨waits, taken, -, silent⟩ := ok.submitting _ stage
  have silent : view.transfer.command = .silent := silent
  exact
  { ok with
    unused := fun unused => ((live_of_queuedStage waits).1 unused).elim
    queued := fun onSq => by cases taken.symm.trans onSq
    submitting := by rintro _ ⟨⟩
    kept := fun kept => by cases silent.symm.trans kept
    pending := fun _ _ _ kept => by cases silent.symm.trans kept
    done := fun _ => .inr silent }

/-! ### The device and the complete thread -/

theorem report {command : CommandState} {popped : Option Nat}
    (before : view.transfer.command = .owned ∨ view.transfer.command = .posted)
    (after : command = .posted ∨ command = .reported)
    (pops : ∀ id, popped = some id → id = view.transfer.id ∧ command = .reported ∧
      view.safe = false ∧ view.holding = none) :
    Ok { view with
      transfer := { view.transfer with command := command }
      popped := popped } := by
  have sent : view.transfer.command ≠ .kept := by rcases before with owned | posted <;> simp [*]
  have reports : view.transfer.command ≠ .silent := by
    rcases before with owned | posted <;> simp [*]
  have later : command ≠ .kept ∧ command ≠ .silent := by rcases after with rfl | rfl <;> simp
  have unclaimed : view.transfer.claimed ≠ true := fun claimed => by
    have reported := (ok.claimed claimed).1
    rcases before with owned | posted <;> simp_all
  have returned_iff : returned { view.transfer with command := command } ↔
      returned view.transfer := by
    simp [returned, later.2, reports]
  exact
  { ok with
    unused := fun unused => by
      have blank := (ok.unused unused).1
      simp [blank] at sent
    queued := fun onSq => (sent (ok.queued onSq).2.1).elim
    submitting := fun stage pointed => by
      have stays := (ok.submitting stage pointed).2.2.2
      split at stays
      · exact (reports stays).elim
      · exact (sent stays).elim
    kept := fun kept => (later.1 kept).elim
    prepared := fun prepared => (sent (ok.prepared prepared).1).elim
    sent := fun _ => later.1
    pending := fun _ _ _ => later.1
    done := fun done => ((ok.done done).resolve_right reports |> unclaimed).elim
    claimed := fun claimed => (unclaimed claimed).elim
    popped := pops
    released := fun stage releasing => returned_iff.mpr (ok.released stage releasing)
    freed := by
      rw [returned_iff]
      exact ok.freed
    removed := fun early => (sent (ok.removed early)).elim
    silent := fun _ => by
      have silent := ok.silent sent
      simpa [later.2, reports] using silent }

/-- Nothing tears a transfer down while its completion is to come. -/
theorem untorn (sent : view.transfer.command ≠ .kept) (reports : view.transfer.command ≠ .silent)
    (unclaimed : view.transfer.claimed = false) (running : view.safe = false)
    (past : ReleaseStage → Bool) : view.torn past = false := by
  have outstanding : ¬returned view.transfer := by
    intro back
    by_cases queued : view.transfer.queued = true
    · rcases back queued with removed | claimed | silent
      · exact sent (ok.removed (.inl removed))
      · cases unclaimed.symm.trans claimed
      · exact reports silent
    · exact sent (ok.removed (.inr (by simpa using queued)))
  have waiting : ∀ stage, view.waiter ≠ .releasing stage :=
    fun stage releasing => outstanding (ok.released stage releasing)
  have idle : view.draining = none := by
    by_contra pointed
    rcases ok.cleanup (.inr pointed) with claimed | safe
    · cases unclaimed.symm.trans claimed
    · cases running.symm.trans safe
  have unfreed : view.transfer.frees = 0 := by
    by_contra freed
    have once := ok.freed.1
    rcases ok.freed.2 (by omega) with back | safe
    · exact outstanding back
    · cases running.symm.trans safe
  cases waiter : view.waiter <;> simp_all [torn]

/-- The sender of a completion is listed under its id, and nobody claimed it. -/
theorem listed_of_popped {id : Nat} (popped : view.popped = some id) :
    view.listed = true ∧ view.transfer.waitClaimed = false ∧
      ∀ past, view.torn past = false := by
  obtain ⟨-, reported, running, -⟩ := ok.popped id popped
  have unclaimed : view.transfer.claimed = false := by
    by_contra claimed
    cases (ok.claimed (by simpa using claimed)).2.2.symm.trans popped
  have untorn := ok.untorn (by simp [reported]) (by simp [reported]) unclaimed running
  refine ⟨ok.listed.mpr ⟨?_, unclaimed, untorn _⟩, ?_, untorn⟩
  · intro unused
    simp [(ok.unused unused).1] at reported
  · by_contra swapped
    rcases ok.swapped (by simpa using swapped) with claimed | safe
    · cases unclaimed.symm.trans claimed
    · cases running.symm.trans safe

theorem claim {id : Nat} (popped : view.popped = some id) :
    Ok { view with
      transfer := { view.transfer with waitClaimed := true, claimed := true }
      popped := none
      holding := some .uncount
      listed := false } := by
  obtain ⟨-, reported, -, -⟩ := ok.popped id popped
  obtain ⟨-, -, untorn⟩ := ok.listed_of_popped popped
  exact
  { ok with
    unused := fun unused => by simp [(ok.unused unused).1] at reported
    kept := fun kept => by cases reported.symm.trans kept
    listed := by simp
    holding := fun _ _ => ⟨rfl, untorn _⟩
    done := fun _ => .inl rfl
    claimed := fun _ => ⟨reported, rfl, rfl⟩
    popped := by rintro _ ⟨⟩
    swapped := fun _ => .inl rfl
    cleanup := fun _ => .inl rfl
    released := fun _ _ _ => .inr (.inl rfl)
    freed := ⟨ok.freed.1, fun _ => .inl fun _ => .inr (.inl rfl)⟩ }

theorem setHolding {stage : CompleteStage} {holding : Option CompleteStage}
    (held : view.holding = some stage) : Ok { view with holding := holding } := by
  obtain ⟨claimed, untorn⟩ := ok.holding stage held
  obtain ⟨reported, -, unpopped⟩ := ok.claimed claimed
  exact
  { ok with
    unused := fun unused => by simp [(ok.unused unused).1] at reported
    kept := fun kept => by cases reported.symm.trans kept
    holding := fun _ _ => ⟨claimed, untorn⟩
    popped := fun id popped => by cases unpopped.symm.trans popped }

theorem complete (stage : view.holding = some .signal) :
    Ok { view with
      transfer := { view.transfer with done := true }
      holding := none } := by
  obtain ⟨claimed, -⟩ := ok.holding _ stage
  obtain ⟨reported, -, unpopped⟩ := ok.claimed claimed
  exact
  { ok with
    unused := fun unused => by simp [(ok.unused unused).1] at reported
    submitting := fun stage pointed => by
      have stays := (ok.submitting stage pointed).2.2.2
      split at stays <;> cases reported.symm.trans stays
    kept := fun kept => by cases reported.symm.trans kept
    holding := by rintro _ ⟨⟩
    done := fun _ => .inl claimed
    popped := fun id popped => by cases unpopped.symm.trans popped }

end Ok

end DmaView

end MxDriver
