import MxDriver.LeaseAcquireCall
import MxDriver.LeaseCallFailures

/-!
# A generation names one state anchor

Every fresh state anchor takes the next value of a counter for its generation, and
the undo of that acquire clears the anchor but not the counter.  As long as the
counter has not wrapped around, a generation therefore stands for one anchor, and
a call that carries the generation of an anchor that is gone is refused.
-/

namespace MxDriver

variable {ι θ τ ν φ : Type*}

/-- The state anchor and its generation. -/
def DeviceLease.anchor (device : DeviceLease) :
    Option Inode × (UInt64 × UInt64) × LeaseFamily × UInt64 :=
  (device.stateInode, device.stateIdentity, device.stateFamily, device.generation)

/-- How a step moves the state anchor. -/
inductive AnchorMove (device next : DeviceLease) : Prop
  | kept (valid : next.statePathValid = device.statePathValid)
      (anchor : next.anchor = device.anchor)
      (counter : next.generationCounter = device.generationCounter)
  | dropped (bare : next.statePathValid = false)
      (counter : next.generationCounter = device.generationCounter)
  | installed (bare : device.statePathValid = false) (valid : next.statePathValid = true)
      (generation : next.generation = mxLeaseNextGeneration device.generationCounter)
      (counter : next.generationCounter = mxLeaseNextGeneration device.generationCounter)

theorem AcquireLockedEffect.anchorMove {device : DeviceLease} {holder : LeaseSmHolder}
    {stateInode : Inode} {request : AcquireRequest} {outcome : AcquireOutcome}
    (effect : AcquireLockedEffect device holder stateInode request outcome) :
    AnchorMove device outcome.device := by
  cases effect with
  | refused error => exact .kept rfl rfl rfl
  | acquired anchor granted =>
    rename_i freshAnchor sm newHolder
    have valid := (mxLeaseAcquireAnchor_ok anchor).2.1
    cases freshAnchor with
    | true => exact .installed valid rfl rfl rfl
    | false => exact .kept rfl rfl rfl

theorem mxLeaseAcquireUndo_anchorMove (device : DeviceLease) (holder : LeaseSmHolder)
    (undo : AcquireUndo) : AnchorMove device (mxLeaseAcquireUndo device holder undo).1 := by
  unfold mxLeaseAcquireUndo
  dsimp only
  split
  · exact .dropped rfl rfl
  · exact .kept rfl rfl rfl

section Steps

variable [DecidableEq ι] [DecidableEq θ] [DecidableEq φ]
variable {system next : LeaseSystem ι θ τ ν φ} {action : LeaseAction ι θ τ ν φ}

theorem ReplyEffect.anchorMove {thread : θ} {copied : Bool}
    (effect : ReplyEffect system thread copied next) : AnchorMove system.device next.device := by
  cases effect with
  | undoAcquire => exact mxLeaseAcquireUndo_anchorMove ..
  | undoAnchor =>
    simp only [LeaseSystem.publish, mxLeaseAnchorSlotDomainUndo]
    split <;> exact .kept rfl rfl rfl
  | _ => exact .kept rfl rfl rfl

theorem CallEffect.anchorMove (effect : CallEffect system action next) :
    AnchorMove system.device next.device := by
  cases effect with
  | copied effect | faulted effect => exact effect.anchorMove
  | acquire enters checked effect => exact effect.anchorMove
  | anchor enters checked effect => cases effect <;> exact .kept rfl rfl rfl
  | _ => exact .kept rfl rfl rfl

variable [DecidableEq ν] [DecidableEq τ]

theorem LifeEffect.anchorMove (effect : LifeEffect system action next) :
    AnchorMove system.device next.device := by
  cases effect with
  | directBegin enters effect => cases effect <;> exact .kept rfl rfl rfl
  | put standing effect =>
    cases effect with
    | pdevFreed => exact .dropped rfl rfl
    | _ => exact .kept rfl rfl rfl
  | _ => exact .kept rfl rfl rfl

theorem leaseStep_anchorMove [Fintype θ] (stepped : leaseStep system action = some next) :
    AnchorMove system.device next.device := by
  cases leaseStep_effect stepped with
  | call effect => exact effect.anchorMove
  | life effect => exact effect.anchorMove

end Steps

/-! ## Counting the fresh anchors -/

/-- Whether an anchor was in place when the observer last looked, and how many fresh
ones there have been. -/
structure AnchorLog where
  anchored : Bool := false
  fresh : Nat := 0

/-- An anchor that was not there before is fresh. -/
def noteAnchor (next : LeaseSystem ι θ τ ν φ) (log : AnchorLog) : AnchorLog where
  anchored := next.device.statePathValid
  fresh := if log.anchored = false ∧ next.device.statePathValid = true then log.fresh + 1
    else log.fresh

/-- The counter is the number of fresh anchors, and the anchor in place was the last. -/
structure GenerationOk (state : LeaseSystem ι θ τ ν φ × AnchorLog) : Prop where
  anchored : state.2.anchored = state.1.device.statePathValid
  counted : state.2.fresh < 2 ^ 64 →
    state.1.device.generationCounter.toNat = state.2.fresh
  current : state.1.device.statePathValid = true →
    state.1.device.generation = state.1.device.generationCounter ∧
      state.1.device.generation ≠ 0

theorem mxLeaseNextGeneration_ne_zero (counter : UInt64) : mxLeaseNextGeneration counter ≠ 0 := by
  unfold mxLeaseNextGeneration
  split
  · decide
  · assumption

theorem toNat_mxLeaseNextGeneration {counter : UInt64} (room : counter.toNat + 1 < 2 ^ 64) :
    (mxLeaseNextGeneration counter).toNat = counter.toNat + 1 := by
  have sum : (counter + 1).toNat = counter.toNat + 1 := by
    rw [UInt64.toNat_add]
    exact Nat.mod_eq_of_lt room
  unfold mxLeaseNextGeneration
  split
  · rename_i wrapped
    simp [wrapped] at sum
  · exact sum

theorem GenerationOk.step {system next : LeaseSystem ι θ τ ν φ} {log : AnchorLog}
    (ok : GenerationOk (system, log)) (move : AnchorMove system.device next.device) :
    GenerationOk (next, noteAnchor next log) := by
  obtain ⟨anchored, counted, current⟩ := ok
  dsimp only at anchored counted current
  cases move with
  | kept valid anchor counter =>
    have generation : next.device.generation = system.device.generation :=
      congrArg (fun anchor => anchor.2.2.2) anchor
    have notFresh : (noteAnchor next log).fresh = log.fresh := by
      simp [noteAnchor, anchored, valid]
    refine ⟨rfl, ?_, ?_⟩
    · dsimp only
      rw [notFresh, counter]
      exact counted
    · dsimp only
      rw [valid, generation, counter]
      exact current
  | dropped bare counter =>
    have notFresh : (noteAnchor next log).fresh = log.fresh := by simp [noteAnchor, bare]
    refine ⟨rfl, ?_, by simp [bare]⟩
    dsimp only
    rw [notFresh, counter]
    exact counted
  | installed bare valid generation counter =>
    have isFresh : (noteAnchor next log).fresh = log.fresh + 1 := by
      simp [noteAnchor, anchored, bare, valid]
    refine ⟨rfl, fun room => ?_, fun _ => ⟨generation.trans counter.symm, ?_⟩⟩
    · dsimp only at room ⊢
      rw [isFresh] at room ⊢
      have before := counted (by omega)
      rw [counter, toNat_mxLeaseNextGeneration (by omega), before]
    · dsimp only
      rw [generation]
      exact mxLeaseNextGeneration_ne_zero _

theorem GenerationOk.start (incarnation : UInt64) :
    GenerationOk ((LeaseSystem.start incarnation : LeaseSystem ι θ τ ν φ), {}) where
  anchored := rfl
  counted _ := rfl
  current := by simp [LeaseSystem.start]

/-- A generation in use stands for the number of anchors so far. -/
theorem GenerationOk.toNat_generation {state : LeaseSystem ι θ τ ν φ × AnchorLog}
    (ok : GenerationOk state) (few : state.2.fresh < 2 ^ 64)
    (valid : state.1.device.statePathValid = true) :
    state.1.device.generation.toNat = state.2.fresh := by
  rw [(ok.current valid).1]
  exact ok.counted few

/-- As long as there was no fresh anchor, an anchor that is there was there before. -/
structure AnchoredSince (state later : LeaseSystem ι θ τ ν φ × AnchorLog) : Prop where
  grows : state.2.fresh ≤ later.2.fresh
  same : later.2.fresh = state.2.fresh → later.1.device.statePathValid = true →
    state.1.device.statePathValid = true ∧ later.1.device.anchor = state.1.device.anchor

theorem AnchoredSince.refl (state : LeaseSystem ι θ τ ν φ × AnchorLog) :
    AnchoredSince state state :=
  ⟨le_rfl, fun _ valid => ⟨valid, rfl⟩⟩

theorem AnchoredSince.trans {state later last : LeaseSystem ι θ τ ν φ × AnchorLog}
    (first : AnchoredSince state later) (second : AnchoredSince later last) :
    AnchoredSince state last where
  grows := first.grows.trans second.grows
  same noFresh valid := by
    have grows := first.grows
    have grows' := second.grows
    obtain ⟨laterValid, lastSame⟩ := second.same (by omega) valid
    obtain ⟨stateValid, laterSame⟩ := first.same (by omega) laterValid
    exact ⟨stateValid, lastSame.trans laterSame⟩

theorem AnchoredSince.of_move {system next : LeaseSystem ι θ τ ν φ} {log : AnchorLog}
    (anchored : log.anchored = system.device.statePathValid)
    (move : AnchorMove system.device next.device) :
    AnchoredSince (system, log) (next, noteAnchor next log) := by
  cases move with
  | kept valid anchor counter =>
    refine ⟨?_, fun _ nextValid => ⟨valid ▸ nextValid, anchor⟩⟩
    simp [noteAnchor, anchored, valid]
  | dropped bare counter =>
    refine ⟨by simp [noteAnchor, bare], fun _ nextValid => ?_⟩
    dsimp only at nextValid
    simp [bare] at nextValid
  | installed bare valid generation counter =>
    have isFresh : (noteAnchor next log).fresh = log.fresh + 1 := by
      simp [noteAnchor, anchored, bare, valid]
    refine ⟨by dsimp only; omega, fun noFresh => ?_⟩
    dsimp only at noFresh
    omega

/-! ## Calls that carry a generation -/

/-- The call that `thread` makes with this action carries `generation`.  A bind has its
request with it when it takes the lock. -/
def LeaseSystem.Carries (system : LeaseSystem ι θ τ ν φ) (thread : θ) (generation : UInt64) :
    LeaseAction ι θ τ ν φ → Prop
  | .acquire caller _ _ _ request => caller = thread ∧ request.expectedLeaseGeneration = generation
  | .transition caller _ _ request => caller = thread ∧ request.expectedLeaseGeneration = generation
  | .anchor caller _ _ _ _ request =>
    caller = thread ∧ request.expectedLeaseGeneration = generation
  | .bindLocked caller _ => caller = thread ∧ ∃ ctx request bind,
      (system.thread thread).call = .preparing ctx request bind ∧
        request.expectedLeaseGeneration = generation
  | .unbind caller _ request => caller = thread ∧ request.expectedLeaseGeneration = generation
  | _ => False

section Stale

variable {device : DeviceLease}

/-- A fresh anchor is asked for without a generation, and any other acquire names the
generation of the anchor in place. -/
theorem mxLeaseAcquireLocked_stale (holder : LeaseSmHolder) (stateInode : Inode)
    {request : AcquireRequest} (carried : request.expectedLeaseGeneration ≠ 0)
    (stale : request.expectedLeaseGeneration ≠ device.generation) :
    ∃ error, mxLeaseAcquireLocked device holder stateInode request =
      ⟨some error, device, holder, false⟩ := by
  have effect := mxLeaseAcquireLocked_effect device holder stateInode request
  generalize mxLeaseAcquireLocked device holder stateInode request = outcome at effect ⊢
  cases effect with
  | refused error => exact ⟨error, rfl⟩
  | @acquired freshAnchor sm newHolder anchor granted =>
    obtain ⟨-, -, -, fresh, named⟩ := mxLeaseAcquireAnchor_eq_ok_iff.mp anchor
    cases freshAnchor with
    | true => exact (carried (fresh rfl).1).elim
    | false => exact (stale (named rfl).2.1).elim

theorem mxLeaseTransitionLocked_stale (ctx : FileCtx φ) {request : TransitionRequest}
    (stale : request.expectedLeaseGeneration ≠ device.generation) :
    (mxLeaseTransitionLocked device ctx request).ret ≠ none := by
  have isStale : staleRequest device request.expectedDeviceIncarnation
      request.expectedLeaseGeneration := .inr (.inr (.inr stale))
  unfold mxLeaseTransitionLocked
  rw [if_pos isStale]
  split <;> simp

theorem mxLeaseProofRequestMatches_stale {request : ProofsRequest}
    (stale : request.expectedLeaseGeneration ≠ device.generation) :
    mxLeaseProofRequestMatches device request = false := by
  simp [mxLeaseProofRequestMatches, stale]

variable [DecidableEq φ]

theorem mxLeaseAnchorSlotDomainLocked_stale (ctx : FileCtx φ) (files : FileTable φ)
    (domainInode : Inode) (clone : CloneResult φ) {request : SlotDomainRequest}
    (stale : request.expectedLeaseGeneration ≠ device.generation) :
    (mxLeaseAnchorSlotDomainLocked device ctx files domainInode clone request).ret ≠ none := by
  have isStale : staleRequest device request.expectedDeviceIncarnation
      request.expectedLeaseGeneration := .inr (.inr (.inr stale))
  unfold mxLeaseAnchorSlotDomainLocked
  dsimp only
  rw [if_pos isStale]
  split <;> simp

end Stale

section Runs

variable [DecidableEq ι] [DecidableEq θ] [DecidableEq τ] [DecidableEq ν]
  [DecidableEq φ]

/-- The call returned, and the device and all contexts are as before. -/
def LeaseSystem.Refused (system next : LeaseSystem ι θ τ ν φ) (thread : θ) : Prop :=
  next.device = system.device ∧ next.ctx = system.ctx ∧ (next.thread thread).call = .idle

variable {system next : LeaseSystem ι θ τ ν φ} {thread : θ} {ctx : ι}

omit [DecidableEq τ] [DecidableEq ν] [DecidableEq φ] in
theorem LeaseSystem.refused_publish {record : FileCtx φ} {device : DeviceLease}
    {files : FileTable φ} {newRecord : FileCtx φ} {todo : List (Todo ι ν φ)}
    (found : system.ctx ctx = some record) (sameDevice : device = system.device)
    (sameRecord : newRecord = record) :
    system.Refused (system.publish thread ctx device files newRecord .idle todo) thread := by
  refine ⟨sameDevice, ?_, call_publish⟩
  rw [sameRecord]
  exact Function.update_eq_self_iff.mpr found.symm

variable [Fintype θ]

/-- A call that carries a generation other than that of the anchor in place is refused. -/
theorem leaseStep_stale {action : LeaseAction ι θ τ ν φ} {generation : UInt64}
    (carries : system.Carries thread generation action) (nonzero : generation ≠ 0)
    (stale : generation ≠ system.device.generation)
    (stepped : leaseStep system action = some next) : system.Refused next thread := by
  cases action with
  | acquire caller ctx capable fds request =>
    obtain ⟨rfl, rfl⟩ := carries
    obtain ⟨record, entered, rfl⟩ := Option.map_eq_some_iff.mp stepped
    have enters := LeaseSystem.enter_eq_some entered
    dsimp only
    split
    · rename_i file _ _
      obtain ⟨error, refused⟩ := mxLeaseAcquireLocked_stale record.lease file.inode nonzero
        stale
      rw [refused]
      exact LeaseSystem.refused_publish enters.found rfl rfl
    · exact ⟨rfl, rfl, by rw [enters.idle]⟩
  | transition caller ctx capable request =>
    obtain ⟨rfl, rfl⟩ := carries
    obtain ⟨record, entered, rfl⟩ := Option.map_eq_some_iff.mp stepped
    have enters := LeaseSystem.enter_eq_some entered
    split
    · have refused := mxLeaseTransitionLocked_stale record stale
      obtain ⟨sm, holder⟩ := mxLeaseTransitionLocked_refused refused
      dsimp only
      rw [if_neg refused, sm, holder]
      exact LeaseSystem.refused_publish enters.found rfl rfl
    · exact ⟨rfl, rfl, by rw [enters.idle]⟩
  | anchor caller ctx capable fds clone request =>
    obtain ⟨rfl, rfl⟩ := carries
    obtain ⟨record, entered, rfl⟩ := Option.map_eq_some_iff.mp stepped
    have enters := LeaseSystem.enter_eq_some entered
    dsimp only
    split
    · rename_i file _ _
      have refused := mxLeaseAnchorSlotDomainLocked_stale record system.files file.inode clone
        stale
      rw [if_neg refused]
      exact LeaseSystem.refused_publish enters.found
        (mxLeaseAnchorSlotDomainLocked_refused refused) rfl
    · exact ⟨rfl, rfl, by rw [enters.idle]⟩
  | bindLocked caller clones =>
    obtain ⟨rfl, ctx, request, bind, standing, rfl⟩ := carries
    have matches_ := mxLeaseProofRequestMatches_stale stale
    have locked : system.bindLocked caller clones = some next := stepped
    unfold LeaseSystem.bindLocked at locked
    split at locked
    · rename_i prepared
      have same := congrArg LeaseThread.call (LeaseSystem.at?_eq_some prepared)
      obtain ⟨rfl, rfl, rfl⟩ : _ ∧ _ ∧ _ := by simpa [standing] using same
      obtain ⟨record, found, rfl⟩ := Option.map_eq_some_iff.mp locked
      have refused : (mxLeaseBindProofsLocked system.device record system.files request bind
          clones).ret ≠ none := by simp [mxLeaseBindProofsLocked, matches_]
      dsimp only
      rw [if_neg refused]
      exact LeaseSystem.refused_publish found rfl (mxLeaseBindProofsLocked_refused refused)
    · cases locked
  | unbind caller ctx request =>
    obtain ⟨rfl, rfl⟩ := carries
    obtain ⟨record, entered, rfl⟩ := Option.map_eq_some_iff.mp stepped
    have enters := LeaseSystem.enter_eq_some entered
    have matches_ := mxLeaseProofRequestMatches_stale stale
    split
    · have refused : (mxLeaseUnbindProofsLocked system.device record request).1 ≠ none := by
        simp [mxLeaseUnbindProofsLocked, matches_]
      dsimp only
      rw [if_neg refused]
      exact LeaseSystem.refused_publish enters.found rfl
        (mxLeaseUnbindProofsLocked_refused refused)
    · exact ⟨rfl, rfl, by rw [enters.idle]⟩
  | _ => exact carries.elim

theorem LeaseSystem.Carries.found {action : LeaseAction ι θ τ ν φ} {generation : UInt64}
    (carries : system.Carries thread generation action)
    (stepped : leaseStep system action = some next) :
    ∃ ctx record, system.ctx ctx = some record := by
  cases action with
  | acquire caller ctx | transition caller ctx | anchor caller ctx | unbind caller ctx =>
    obtain ⟨record, entered, -⟩ := Option.map_eq_some_iff.mp stepped
    exact ⟨ctx, record, (LeaseSystem.enter_eq_some entered).found⟩
  | bindLocked caller clones =>
    have locked : system.bindLocked caller clones = some next := stepped
    unfold LeaseSystem.bindLocked at locked
    split at locked
    · obtain ⟨record, found, -⟩ := Option.map_eq_some_iff.mp locked
      exact ⟨_, record, found⟩
    · cases locked
  | _ => exact carries.elim

theorem anchoredSince_of_reached {state later : LeaseSystem ι θ τ ν φ × AnchorLog}
    (ok : GenerationOk state) (reached : Reached (observe leaseStep noteAnchor) state later) :
    GenerationOk later ∧ AnchoredSince state later := by
  induction reached with
  | refl => exact ⟨ok, .refl state⟩
  | tail _ _ stepped ih =>
    obtain ⟨currentOk, since⟩ := ih
    obtain ⟨moved, noted⟩ := observe_eq_some stepped
    have move := leaseStep_anchorMove moved
    have after := GenerationOk.step currentOk move
    have step := AnchoredSince.of_move currentOk.anchored move
    rw [← noted] at after step
    exact ⟨after, since.trans step⟩

variable [Fintype ι] [Fintype τ] [Fintype ν]

/-- On a live device the generation is zero exactly without a state anchor. -/
theorem generation_eq_zero_iff {incarnation : UInt64} {state : LeaseSystem ι θ τ ν φ × AnchorLog}
    (reached : Reached (observe leaseStep noteAnchor) (LeaseSystem.start incarnation, {})
      state) (alive : state.1.pdevRefs ≠ 0) :
    state.1.device.generation = 0 ↔ state.1.device.statePathValid = false := by
  have ok := (anchoredSince_of_reached (.start incarnation) reached).1
  constructor
  · intro zero
    by_contra valid
    exact (ok.current (by simpa using valid)).2 zero
  · intro bare
    exact (anchorOk_of_reached reached.of_observe alive bare).2.2.2.1

/-- A generation that is still in place, or in place again, was not installed anew. -/
theorem fresh_eq_of_generation_eq {incarnation : UInt64}
    {state last : LeaseSystem ι θ τ ν φ × AnchorLog}
    (reached : Reached (observe leaseStep noteAnchor) (LeaseSystem.start incarnation, {})
      state) (alive : state.1.pdevRefs ≠ 0)
    (afterwards : Reached (observe leaseStep noteAnchor) state last)
    (lastAlive : last.1.pdevRefs ≠ 0) (few : last.2.fresh < 2 ^ 64)
    (nonzero : state.1.device.generation ≠ 0)
    (same : last.1.device.generation = state.1.device.generation) :
    last.1.device.statePathValid = true ∧ last.2.fresh = state.2.fresh := by
  have anchored : ∀ {moment : LeaseSystem ι θ τ ν φ × AnchorLog},
      Reached (observe leaseStep noteAnchor) (LeaseSystem.start incarnation, {}) moment →
      moment.1.pdevRefs ≠ 0 → moment.1.device.generation ≠ 0 →
      moment.1.device.statePathValid = true := by
    intro moment momentReached momentAlive inUse
    by_contra bare
    exact inUse ((generation_eq_zero_iff momentReached momentAlive).mpr (by simpa using bare))
  have ok := (anchoredSince_of_reached (.start incarnation) reached).1
  obtain ⟨lastOk, since⟩ := anchoredSince_of_reached ok afterwards
  have valid := anchored reached alive nonzero
  have lastValid := anchored (reached.trans afterwards) lastAlive (same ▸ nonzero)
  have fresh := lastOk.toNat_generation few lastValid
  rw [same, ok.toNat_generation (since.grows.trans_lt few) valid] at fresh
  exact ⟨lastValid, fresh.symm⟩

/-- In every interleaving with fewer than 2^64 fresh anchors, the generation of a live
device is zero exactly without a state anchor, a generation stands for one inode, one
identity and one family, and a call that carries the generation of an anchor that is
gone is refused. -/
theorem generation_names_anchor {incarnation : UInt64} {state : LeaseSystem ι θ τ ν φ × AnchorLog}
    (reached : Reached (observe leaseStep noteAnchor) (LeaseSystem.start incarnation, {})
      state) (alive : state.1.pdevRefs ≠ 0) :
    (state.1.device.generation = 0 ↔ state.1.device.statePathValid = false) ∧
    ∀ later, Reached (observe leaseStep noteAnchor) state later →
      state.1.device.generation ≠ 0 →
      (later.1.device.generation = state.1.device.generation →
        later.1.pdevRefs ≠ 0 → later.2.fresh < 2 ^ 64 →
        later.1.device.stateInode = state.1.device.stateInode ∧
          later.1.device.stateIdentity = state.1.device.stateIdentity ∧
          later.1.device.stateFamily = state.1.device.stateFamily) ∧
      (later.1.device.generation ≠ state.1.device.generation →
        ∀ last, Reached (observe leaseStep noteAnchor) later last → last.2.fresh < 2 ^ 64 →
        ∀ thread action next, last.1.Carries thread state.1.device.generation action →
          leaseStep last.1 action = some next → last.1.Refused next thread) := by
  refine ⟨generation_eq_zero_iff reached alive, fun later afterwards nonzero => ?_⟩
  have ok := (anchoredSince_of_reached (.start incarnation) reached).1
  obtain ⟨laterOk, since⟩ := anchoredSince_of_reached ok afterwards
  constructor
  · intro same laterAlive few
    obtain ⟨laterValid, noFresh⟩ :=
      fresh_eq_of_generation_eq reached alive afterwards laterAlive few nonzero same
    have anchor := (since.same noFresh laterValid).2
    simp only [DeviceLease.anchor, Prod.mk.injEq] at anchor
    exact ⟨anchor.1, anchor.2.1, anchor.2.2.1⟩
  · intro differs last onward few thread action next carries stepped
    obtain ⟨ctx, record, found⟩ := carries.found stepped
    have lastReached := (reached.trans afterwards).trans onward
    have lastAlive := (audited_of_reached lastReached.of_observe).balanced.alive found
    refine leaseStep_stale carries nonzero (fun same => differs ?_) stepped
    -- had it come back, there would have been no fresh anchor since, nor a gap
    obtain ⟨lastValid, noFresh⟩ := fresh_eq_of_generation_eq reached alive
      (afterwards.trans onward) lastAlive few nonzero same.symm
    have lastSince := (anchoredSince_of_reached laterOk onward).2
    have grows := since.grows
    have grows' := lastSince.grows
    have anchor := (lastSince.same (by omega) lastValid).2
    have generation : last.1.device.generation = later.1.device.generation :=
      congrArg (fun anchor => anchor.2.2.2) anchor
    rw [← generation, same]

/-- A publisher sets the first anchor. -/
def firstAnchorRun : List (LeaseAction Party Party Party Party Party) :=
  [.openGet 0, .openFinish 0 0 .ioctl true, .user (.openAt 0 anchorInode true true),
    .user (.openAt 1 domainInode true true),
    .acquire 0 0 true (fun _ => some 0)
      ⟨leaseAbiMagic, 7, 0, (1, 1), 3, .hubPublisher, 1, 128, 0⟩]

/-- The second anchor is another inode of another family. -/
def secondAnchorRun : List (LeaseAction Party Party Party Party Party) :=
  [.acquire 0 0 true (fun _ => some 1)
      ⟨leaseAbiMagic, 7, 0, (2, 2), 3, .coordinatorInitializer, 1, 128, 0⟩,
    .replyCopied 0]

/-- A transition that was meant for the first anchor. -/
def staleTransition : LeaseAction Party Party Party Party Party :=
  .transition 0 0 true ⟨leaseAbiMagic, 7, 1, .activateCoordinator, 1, 96, 0, 0⟩

theorem generation_names_anchor_secondAnchorRun :
    ∃ state later last next,
      runActions (observe leaseStep noteAnchor) (LeaseSystem.start 7, {}) firstAnchorRun =
        some state ∧
      runActions (observe leaseStep noteAnchor) state [.replyFaulted 0] = some later ∧
      runActions (observe leaseStep noteAnchor) later secondAnchorRun = some last ∧
      last.2.fresh = 2 ∧ last.1.device.stateInode = some domainInode ∧
      leaseStep last.1 staleTransition = some next ∧ last.1.Refused next 0 := by
  obtain ⟨state, later, last, next, run, undone, again, alive, generation, differs, fresh,
      inode, stepped⟩ : ∃ state later last next,
      runActions (observe leaseStep noteAnchor) (LeaseSystem.start 7, {}) firstAnchorRun =
        some state ∧
      runActions (observe leaseStep noteAnchor) state [.replyFaulted 0] = some later ∧
      runActions (observe leaseStep noteAnchor) later secondAnchorRun = some last ∧
      state.1.pdevRefs ≠ 0 ∧ state.1.device.generation = 1 ∧
      later.1.device.generation ≠ 1 ∧ last.2.fresh = 2 ∧
      last.1.device.stateInode = some domainInode ∧
      leaseStep last.1 staleTransition = some next :=
    ⟨_, _, _, _, rfl, rfl, rfl, by decide, rfl, by decide, rfl, rfl, rfl⟩
  have named := (generation_names_anchor (reached_of_runActions run) alive).2 later
    (reached_of_runActions undone)
  rw [generation] at named
  refine ⟨state, later, last, next, run, undone, again, fresh, inode, stepped, ?_⟩
  exact (named (by decide)).2 differs last (reached_of_runActions again)
    (by rw [fresh]; decide) 0 staleTransition next ⟨rfl, rfl⟩ stepped

end Runs

end MxDriver
