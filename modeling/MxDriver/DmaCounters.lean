import MxDriver.DmaInvariant
import MxDriver.IndexedTally

/-!
# The two counters of the transfer system

`wait_count` counts the commands that the submit thread counted and nobody has counted
out yet, and `zombie_wait_count` the parked transfers that are not drained.  Both are
sums over the transfers in every reached state.
-/

namespace MxDriver

/-- The command was pushed and is to be reported. -/
def CommandState.pushed : CommandState → Bool
  | .owned | .posted | .reported => true
  | .kept | .silent => false

namespace DmaView

variable {κ : Type*}

/-- The waiter gave up on the transfer, or is about to. -/
def givenUp (view : DmaView κ) : Prop :=
  (view.waiter = .late ∨ ∃ stage, view.waiter = .parking stage) ∨
    view.transfer.zombieEntry ≠ .unlinked ∨ view.draining ≠ none

/-- What the cleaner's exchange of `wait_claimed` relies on. -/
structure CountOk (view : DmaView κ) : Prop where
  sent : view.givenUp → view.transfer.command ≠ .kept ∧ view.transfer.noCompletion = false
  swapped : ∀ stage, view.draining = some stage → stage ≠ .swap → view.transfer.waitClaimed = true
  forced : view.draining = some (.unlink true) ∨ view.draining = some (.uncount true) →
    view.transfer.claimed = false
  waits : view.transfer.waitClaimed = true → view.transfer.claimed = true ∨ view.waiter = .gone

namespace CountOk

variable {view : DmaView κ} (counts : view.CountOk)

include counts

theorem setWaiter {waiter : Waiter} (live : view.waiter ≠ .gone)
    (given : waiter = .late ∨ (∃ stage, waiter = .parking stage) →
      view.transfer.command ≠ .kept ∧ view.transfer.noCompletion = false) :
    CountOk { view with waiter := waiter } :=
  { counts with
    sent := by
      rintro (waits | parked)
      · exact given waits
      · exact counts.sent (.inr parked)
    waits := fun claims => .inl ((counts.waits claims).resolve_right live) }

theorem afterRelease (stage : ReleaseStage) : CountOk (view.afterRelease stage) := by
  cases stage <;> exact { counts with }

theorem goOn {waiter : Waiter} (live : view.waiter ≠ .gone)
    (late : waiter ≠ .late := by simp) (parks : ∀ stage, waiter ≠ .parking stage := by simp) :
    CountOk { view with waiter := waiter } := by
  apply counts.setWaiter live
  rintro (waits | ⟨stage, stays⟩)
  · exact (late waits).elim
  · exact (parks stage stays).elim

theorem setReleasing {stage : ReleaseStage} {after : Option ReleaseStage}
    (waiter : view.waiter = .releasing stage) : CountOk { view with waiter :=
        match after with
        | some stage => .releasing stage
        | none => .gone } := by
  cases after <;> exact counts.goOn (by simp [waiter])

theorem setEntry {entry : ZombieEntry}
    (same : entry = .unlinked ↔ view.transfer.zombieEntry = .unlinked) :
    CountOk { view with transfer := { view.transfer with zombieEntry := entry } } := by
  refine { counts with sent := fun given => counts.sent ?_ }
  rcases given with waits | linked | draining
  · exact .inl waits
  · exact .inr (.inl fun unlinked => linked (same.mpr unlinked))
  · exact .inr (.inr draining)

theorem drainTo {stage next : DrainStage} {entry : ZombieEntry}
    (draining : view.draining = some stage)
    (early : stage ≠ .swap := by simp) (unforced : next ≠ .unlink true := by simp)
    (keeps : next = .uncount true → stage = .unlink true := by simp) :
    CountOk { view with
      transfer := { view.transfer with zombieEntry := entry }
      draining := some next } := by
  have claims := counts.swapped stage draining early
  have given := counts.sent (.inr (.inr (by simp [draining])))
  exact
  { counts with
    sent := fun _ => given
    swapped := fun _ _ _ => claims
    forced := by
      rintro (unlink | uncount)
      · exact (unforced (Option.some.inj unlink)).elim
      · have same := keeps (Option.some.inj uncount)
        exact counts.forced (.inl (same ▸ draining)) }

end CountOk

theorem CountOk.move {view next : DmaView κ} {waitDelta zombieDelta : Int} (ok : view.Ok)
    (counts : view.CountOk) (moves : DmaMove view next waitDelta zombieDelta) : next.CountOk := by
  cases moves with
  | allocate unused below silent =>
    obtain ⟨-, -, -, -, idle, -⟩ := ok.unused unused
    constructor <;> simp [givenUp, idle]
  | abandon prepared => exact counts.goOn (by simp [prepared])
  | queue prepared =>
    have moved : CountOk { view with waiter := .submitted } :=
      counts.goOn (by simp [prepared])
    exact { moved with }
  | startWait submitted => exact counts.goOn (by simp [submitted])
  | take | count | signal | uncount | check | deliver | complete => exact { counts with }
  | pushSilent | push | deviceComplete | pop =>
    exact { counts with sent := fun given => ⟨by simp, (counts.sent given).2⟩ }
  | claim popped listed unclaimed =>
    -- the cleaner has not reached this transfer, or it would have set the flag
    have before : ∀ stage, view.draining = some stage → stage = .swap := by
      intro stage draining
      by_contra late
      cases unclaimed.symm.trans (counts.swapped stage draining late)
    exact
    { counts with
      swapped := fun _ _ _ => rfl
      forced := by
        rintro (unlink | uncount)
        · cases before _ unlink
        · cases before _ uncount
      waits := fun _ => .inl rfl }
  | observe waits =>
    have live : view.waiter ≠ .gone := by rcases waits with waits | waits | waits <;> simp [waits]
    exact counts.goOn live
  | expire waiting => exact counts.goOn (by simp [waiting])
  | remove expired =>
    have moved : CountOk { view with waiter := .releasing .desc } :=
      counts.goOn (by simp [expired])
    exact { moved with }
  | handOff expired => exact counts.goOn (by simp [expired])
  | wait expired free taken reports next =>
    apply counts.setWaiter (by simp [expired])
    intro _
    exact ⟨ok.pending (by simp [expired, queuedStage]) taken free, reports⟩
  | giveUp late =>
    apply counts.setWaiter (by simp [late])
    intro _
    exact counts.sent (.inl (.inl late))
  | mark stage =>
    have moved : CountOk { view with waiter := .parking .count } :=
      counts.setWaiter (by simp [stage]) fun _ => counts.sent (.inl (.inr ⟨_, stage⟩))
    exact { moved with }
  | parkCount stage =>
    apply counts.setWaiter (by simp [stage])
    intro _
    exact counts.sent (.inl (.inr ⟨_, stage⟩))
  | enlist stage =>
    have given := counts.sent (.inl (.inr ⟨_, stage⟩))
    exact { counts with sent := fun _ => given, waits := fun _ => .inr rfl }
  | release waiter unlocked =>
    rename_i stage
    have releasing : (view.afterRelease stage).waiter = .releasing stage := by
      cases stage <;> exact waiter
    exact (counts.afterRelease stage).setReleasing releasing
  | inspect entry =>
    have given := counts.sent (.inr (.inl (by simp [entry])))
    exact { counts with sent := fun _ => given }
  | drain entry =>
    have given := counts.sent (.inr (.inl (by simp [entry])))
    exact
    { counts with
      sent := fun _ => given
      swapped := fun stage draining early => (early (Option.some.inj draining).symm).elim
      forced := by simp }
  | swap stage =>
    have given := counts.sent (.inr (.inr (by simp [stage])))
    exact
    { counts with
      sent := fun _ => given
      swapped := fun _ _ _ => rfl
      forced := by
        rintro (unlink | uncount)
        · apply eq_false_of_ne_true
          intro claimed
          simp [(ok.claimed claimed).2.1] at unlink
        · cases uncount
      waits := fun _ => .inr (ok.gone_of_draining stage) }
  | unlink stage => exact counts.drainTo stage
  | drainUncount stage => exact counts.drainTo stage
  | unpark stage => exact counts.drainTo stage
  | cancel stage => exact counts.drainTo stage
  | drainRelease draining =>
    rename_i stage _
    have given := counts.sent (.inr (.inr (by simp [draining])))
    have claims := counts.swapped _ draining (by simp)
    have moved := counts.afterRelease stage
    cases stage <;> exact
      { moved with
        sent := fun _ => given
        swapped := fun _ _ _ => claims
        forced := by simp }

/-- Part of `wait_count`: counted by the submit thread, and neither the complete thread
nor the cleaner has counted it out. -/
def waiting (view : DmaView κ) : Bool :=
  !view.transfer.noCompletion &&
    (view.transfer.command.pushed || view.submitting = some .push) &&
    (!view.transfer.waitClaimed || view.holding = some .uncount ||
      view.draining = some (.unlink true) || view.draining = some (.uncount true))

/-- Part of `zombie_wait_count`: counted by the waiter and not by the cleaner. -/
def zombieCounted (view : DmaView κ) : Bool :=
  view.waiter = .parking .enlist || !decide (view.transfer.zombieEntry = .unlinked) ||
    (match view.draining with
    | some (.uncount _) | some .unpark => true
    | _ => false)

/-- The count goes by whether the transfer is on a list, not by which. -/
theorem zombieCounted_setEntry (view : DmaView κ) {entry : ZombieEntry}
    (same : entry = .unlinked ↔ view.transfer.zombieEntry = .unlinked) :
    zombieCounted { view with transfer := { view.transfer with zombieEntry := entry } } =
      view.zombieCounted := by
  simp [zombieCounted, same]

section Counts

variable {view next : DmaView κ} {waitDelta zombieDelta : Int}

theorem reports_of_pushed (ok : view.Ok) (sent : view.transfer.command.pushed = true) :
    view.transfer.noCompletion = false := by
  apply eq_false_of_ne_true
  intro mute
  have out : view.transfer.command ≠ .kept := by
    intro kept
    simp [CommandState.pushed, kept] at sent
  simp [CommandState.pushed, (ok.silent out).mpr mute] at sent

theorem pushed_of_sent (ok : view.Ok) (out : view.transfer.command ≠ .kept)
    (reports : view.transfer.noCompletion = false) : view.transfer.command.pushed = true := by
  have loud : view.transfer.command ≠ .silent := by
    intro silent
    cases reports.symm.trans ((ok.silent out).mp silent)
  cases command : view.transfer.command <;> simp_all [CommandState.pushed]

/-- The cleaner did not take the flag of a claimed transfer. -/
theorem unforced_of_claimed (counts : view.CountOk) (claimed : view.transfer.claimed = true) :
    view.draining ≠ some (.unlink true) ∧ view.draining ≠ some (.uncount true) := by
  constructor
  · intro unlink
    cases claimed.symm.trans (counts.forced (.inl unlink))
  · intro uncount
    cases claimed.symm.trans (counts.forced (.inr uncount))

/-- A command that the submit thread holds is not claimed. -/
theorem unclaimed_of_submitting (ok : view.Ok) (counts : view.CountOk) {stage : SubmitStage}
    (pointed : view.submitting = some stage) (kept : view.transfer.command = .kept) :
    view.transfer.waitClaimed = false := by
  apply eq_false_of_ne_true
  intro claims
  rcases counts.waits claims with claimed | gone
  · cases (ok.kept kept).2.1.symm.trans claimed
  · exact (live_of_queuedStage (ok.submitting stage pointed).1).2.1 gone

theorem waiting_move (ok : view.Ok) (counts : view.CountOk)
    (moves : DmaMove view next waitDelta zombieDelta) :
    (next.waiting.toNat : Int) = view.waiting.toNat + waitDelta := by
  cases moves with
  | allocate unused =>
    obtain ⟨blank, idle, -⟩ := ok.unused unused
    simp [waiting, CommandState.pushed, blank, idle]
  | take onSq =>
    obtain ⟨-, kept, free⟩ := ok.queued onSq
    simp [waiting, CommandState.pushed, kept, free]
  | count stage =>
    have kept : view.transfer.command = .kept := (ok.submitting _ stage).2.2.2
    have unclaimed := unclaimed_of_submitting ok counts stage kept
    cases mute : view.transfer.noCompletion <;>
      simp [waiting, CommandState.pushed, kept, stage, unclaimed, mute]
  | pushSilent stage silent => simp [waiting, silent]
  | push stage reports =>
    have kept : view.transfer.command = .kept := (ok.submitting _ stage).2.2.2
    simp [waiting, CommandState.pushed, kept, stage]
  | signal stage =>
    have silent : view.transfer.command = .silent := (ok.submitting _ stage).2.2.2
    simp [waiting, CommandState.pushed, silent, stage]
  | deviceComplete owned => simp [waiting, CommandState.pushed, owned]
  | pop posted => simp [waiting, CommandState.pushed, posted]
  | claim popped listed unclaimed => simp [waiting, unclaimed]
  | uncount stage =>
    have claimed := (ok.holding _ stage).1
    obtain ⟨reported, claims, -⟩ := ok.claimed claimed
    have reports := reports_of_pushed ok (by simp [reported, CommandState.pushed])
    have unforced := unforced_of_claimed counts claimed
    simp [waiting, CommandState.pushed, reported, reports, claims, stage, unforced]
  | check stage =>
    cases view.transfer.isZombie <;> simp [waiting, stage]
  | deliver stage => simp [waiting, stage]
  | complete stage => simp [waiting, stage]
  | release =>
    rename_i stage _ _
    cases stage <;> exact (Int.add_zero _).symm
  | drain entry free => simp [waiting, free]
  | swap stage =>
    cases claims : view.transfer.waitClaimed <;> simp [waiting, stage, claims]
  | unlink stage => simp [waiting, stage]
  | drainUncount stage =>
    rename_i taken
    have claims := counts.swapped _ stage (by simp)
    obtain ⟨out, reports⟩ := counts.sent (.inr (.inr (by simp [stage])))
    cases taken with
    | false => simp [waiting, stage]
    | true =>
      have unclaimed := counts.forced (.inr stage)
      have free : view.holding ≠ some .uncount := by
        intro held
        cases unclaimed.symm.trans (ok.holding _ held).1
      simp [waiting, stage, reports, pushed_of_sent ok out reports, claims, free]
  | unpark stage => simp [waiting, stage]
  | cancel stage => simp [waiting, stage]
  | drainRelease draining =>
    rename_i stage _
    cases stage <;> simp [waiting, afterRelease, ReleaseStage.next, draining] <;> rfl
  | _ => exact (Int.add_zero _).symm

theorem zombieCounted_move (ok : view.Ok) (moves : DmaMove view next waitDelta zombieDelta) :
    (next.zombieCounted.toNat : Int) = view.zombieCounted.toNat + zombieDelta := by
  cases moves with
  | allocate unused =>
    obtain ⟨blank, -, -, -, idle, -⟩ := ok.unused unused
    simp [zombieCounted, blank, idle, unused]
  | abandon prepared | queue prepared => simp [zombieCounted, prepared]
  | startWait waiter | expire waiter | remove waiter | handOff waiter | mark waiter
  | giveUp waiter =>
    simp [zombieCounted, waiter]
  | observe waits => rcases waits with waits | waits | waits <;> simp [zombieCounted, waits]
  | wait expired _ _ _ next => rcases next with rfl | rfl <;> simp [zombieCounted, expired]
  | parkCount stage =>
    obtain ⟨-, unlinked, idle⟩ := ok.owned (by simp [stage])
    simp [zombieCounted, stage, unlinked, idle]
  | enlist stage => simp [zombieCounted, stage]
  | release waiter =>
    rename_i stage _
    cases stage <;> simp [zombieCounted, afterRelease, ReleaseStage.next, waiter] <;> rfl
  | inspect entry => simp [zombieCounted, entry]
  | drain entry => simp [zombieCounted, entry]
  | swap stage =>
    have entry := ok.detached _ stage
    simp [zombieCounted, entry, DrainStage.entry]
  | unlink stage =>
    have entry := ok.detached _ stage
    simp [zombieCounted, entry, DrainStage.entry]
  | drainUncount stage => simp [zombieCounted, stage]
  | unpark stage =>
    have entry := ok.detached _ stage
    simp [zombieCounted, stage, entry, DrainStage.entry, ok.gone_of_draining stage]
  | cancel stage => simp [zombieCounted, stage]
  | drainRelease draining =>
    rename_i stage _
    cases stage <;> simp [zombieCounted, afterRelease, ReleaseStage.next, draining] <;> rfl
  | _ => exact (Int.add_zero _).symm

end Counts

end DmaView

namespace DmaSystem

variable {τ κ : Type*} [DecidableEq τ] [DecidableEq κ] [Fintype τ]

/-- The counters are the sums of what the transfers contribute. -/
structure CountsOk (system : DmaSystem τ κ) : Prop where
  view : ∀ index, (system.view index).CountOk
  waitCount : system.waitCount = tally (fun view => DmaView.waiting view = true) system.view
  zombieWaitCount : system.zombieWaitCount =
    tally (fun view => DmaView.zombieCounted view = true) system.view

omit [DecidableEq κ] in
theorem countsOk_start : (start : DmaSystem τ κ).CountsOk where
  view index := by
    constructor <;> simp [DmaSystem.view, start, DmaView.givenUp]
  waitCount := by
    have none : tally (fun view => DmaView.waiting view = true)
        (DmaSystem.view (start : DmaSystem τ κ)) = 0 := by
      rw [tally_eq_zero_iff]
      simp [DmaSystem.view, start, DmaView.waiting, CommandState.pushed]
    rw [none]
    rfl
  zombieWaitCount := by
    have none : tally (fun view => DmaView.zombieCounted view = true)
        (DmaSystem.view (start : DmaSystem τ κ)) = 0 := by
      rw [tally_eq_zero_iff]
      simp [DmaSystem.view, start, DmaView.zombieCounted]
    rw [none]
    rfl

section Step

variable {system next : DmaSystem τ κ} {action : DmaAction τ κ}

omit [Fintype τ] in
theorem view_of_movesAt {index : τ} {view : DmaView κ} {waitDelta zombieDelta : Int}
    (moved : MovesAt system next index view waitDelta zombieDelta) :
    next.view = Function.update system.view index view := by
  funext other
  by_cases same : other = index
  · subst same
    rw [Function.update_self, moved.view_eq]
  · rw [Function.update_of_ne same, moved.others other same]

omit [DecidableEq κ] in
theorem tally_of_delta {family : τ → DmaView κ} {index : τ} {view : DmaView κ}
    {weight : DmaView κ → Bool} {count delta : Int}
    (exact_ : count = tally (fun view => weight view = true) family)
    (moves : ((weight view).toNat : Int) = (weight (family index)).toNat + delta) :
    count + delta = tally (fun view => weight view = true) (Function.update family index view) := by
  have changed := tally_update (fun view => weight view = true) family index view
  cases before : weight (family index) <;> cases after : weight view <;>
    simp [before, after] at changed moves <;> omega

omit [Fintype τ] in
theorem countOk_step (ok : system.Ok) (counts : ∀ index, (system.view index).CountOk)
    (step : dmaStep system action = some next) (index : τ) : (next.view index).CountOk := by
  apply (dmaStep_effect ok.view ok.safe step).keeps counts
  · intro index view waitDelta zombieDelta moves
    exact DmaView.CountOk.move (ok.view index) (counts index) moves
  · intro _ index
    exact { counts index with }
  · rintro - index entry (rfl | ⟨linked, rfl⟩)
    · exact counts index
    · apply (counts index).setEntry
      simp [DmaSystem.view, linked]

theorem countsOk_step (ok : system.Ok) (counts : system.CountsOk)
    (step : dmaStep system action = some next) : next.CountsOk := by
  have views := countOk_step ok counts.view step
  cases dmaStep_effect ok.view ok.safe step with
  | move moved =>
    obtain ⟨index, view, waitDelta, zombieDelta, moved⟩ := moved
    refine ⟨views, ?_, ?_⟩
    · rw [moved.waitCount, view_of_movesAt moved]
      exact tally_of_delta counts.waitCount
        (DmaView.waiting_move (ok.view index) (counts.view index) moved.moves)
    · rw [moved.zombieWaitCount, view_of_movesAt moved]
      exact tally_of_delta counts.zombieWaitCount
        (DmaView.zombieCounted_move (ok.view index) moved.moves)
  | create unmoved | putCreator unmoved | idle unmoved =>
    have same : next.view = system.view := funext unmoved.view_eq
    refine ⟨views, ?_, ?_⟩
    · rw [same, unmoved.waitCount]
      exact counts.waitCount
    · rw [same, unmoved.zombieWaitCount]
      exact counts.zombieWaitCount
  | declare => exact ⟨views, counts.waitCount, counts.zombieWaitCount⟩
  | collect =>
    refine ⟨views, counts.waitCount, ?_⟩
    rw [counts.zombieWaitCount]
    congr 1
    apply tally_congr
    intro index
    exact Iff.of_eq (congrArg (· = true)
      (DmaView.zombieCounted_setEntry (system.view index) (collected_eq_unlinked _)).symm)

end Step

theorem countsOk_of_reached {system : DmaSystem τ κ} (reached : Reached dmaStep start system) :
    system.CountsOk := by
  suffices both : system.Ok ∧ system.CountsOk from both.2
  apply ReachedBy.invariant reached ⟨ok_start, countsOk_start⟩
  rintro current action next ⟨ok, counts⟩ - step
  exact ⟨ok_step ok step, countsOk_step ok counts step⟩

end DmaSystem

end MxDriver
