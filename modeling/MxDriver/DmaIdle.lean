import MxDriver.DmaOutstanding

/-!
# The idle test of the queue

`mxdma_io_queue_idle` reads the submission list and the two counters.  The counters
differ from the numbers they stand for only by the transfers that a thread is just
counting in or out, and never downwards, so the test does not miss a command.
-/

namespace MxDriver

namespace DmaView

variable {κ : Type*}

/-- A command that is to be reported was pushed and its `wait_claimed` is 0. -/
def unclaimed (transfer : DmaTransfer κ) : Bool :=
  !transfer.noCompletion && transfer.command.pushed && !transfer.waitClaimed

/-- The transfer is a zombie that is not drained. -/
def parked (transfer : DmaTransfer κ) : Bool := !decide (transfer.zombieEntry = .unlinked)

/-- The submit thread is between counting the command and pushing it, or the thread that
set `wait_claimed` is about to count it out. -/
def beingCounted (view : DmaView κ) : Bool :=
  !view.transfer.noCompletion &&
    (view.submitting = some .push || view.holding = some .uncount ||
      view.draining = some (.unlink true) || view.draining = some (.uncount true))

/-- The waiter is between counting the zombie and listing it, or the cleaner between
unlinking it and counting it out. -/
def beingParked (view : DmaView κ) : Bool :=
  view.waiter = .parking .enlist ||
    (match view.draining with
    | some (.uncount _) | some .unpark => true
    | _ => false)

variable {view : DmaView κ}

/-- A thread that counts a pushed command out has set its flag. -/
theorem pushed_of_countedOut (ok : view.Ok) (counts : view.CountOk)
    (out : view.holding = some .uncount ∨ view.draining = some (.unlink true) ∨
      view.draining = some (.uncount true)) :
    view.transfer.command.pushed = true ∧ view.transfer.waitClaimed = true := by
  have drains : ∀ stage, view.draining = some stage → stage ≠ .swap →
      view.transfer.command.pushed = true ∧ view.transfer.waitClaimed = true := by
    intro stage draining early
    obtain ⟨sent, reports⟩ := counts.sent (.inr (.inr (by simp [draining])))
    exact ⟨pushed_of_sent ok sent reports, counts.swapped stage draining early⟩
  rcases out with holding | unlink | uncount
  · obtain ⟨reported, claims, -⟩ := ok.claimed (ok.holding _ holding).1
    exact ⟨by simp [CommandState.pushed, reported], claims⟩
  · exact drains _ unlink (by simp)
  · exact drains _ uncount (by simp)

theorem waiting_eq_add (ok : view.Ok) (counts : view.CountOk) :
    view.waiting.toNat = (unclaimed view.transfer).toNat + view.beingCounted.toNat := by
  by_cases out : view.holding = some .uncount ∨ view.draining = some (.unlink true) ∨
      view.draining = some (.uncount true)
  · obtain ⟨pushed, claims⟩ := pushed_of_countedOut ok counts out
    rcases out with out | out | out <;> simp [waiting, unclaimed, beingCounted, pushed, claims, out]
  · obtain ⟨unheld, linked, counted⟩ : view.holding ≠ some .uncount ∧
        view.draining ≠ some (.unlink true) ∧ view.draining ≠ some (.uncount true) := by
      simpa only [not_or] using out
    by_cases submitting : view.submitting = some .push
    · -- The command is still the submit thread's own.
      have kept : view.transfer.command = .kept := by simpa using (ok.submitting _ submitting).2.2.2
      have open' := unclaimed_of_submitting ok counts submitting kept
      simp [waiting, unclaimed, beingCounted, CommandState.pushed, kept, open', submitting]
    · simp [waiting, unclaimed, beingCounted, submitting, unheld, linked, counted]

theorem zombieCounted_eq_add (ok : view.Ok) :
    view.zombieCounted.toNat = (parked view.transfer).toNat + view.beingParked.toNat := by
  by_cases unlinked : view.transfer.zombieEntry = .unlinked
  · have same : view.zombieCounted = view.beingParked := by
      simp only [zombieCounted, unlinked, decide_true, Bool.not_true, Bool.or_false]
      rfl
    simp [same, parked, unlinked]
  · have gone : view.waiter = .gone := by
      by_contra live
      exact unlinked (ok.owned live).2.1
    have before : ∀ stage, view.draining = some stage → stage.entry ≠ .unlinked := by
      intro stage draining
      rw [← ok.detached stage draining]
      exact unlinked
    rcases draining : view.draining with _ | stage
    · simp [zombieCounted, parked, beingParked, unlinked, gone, draining]
    · have entry := before stage draining
      cases stage <;>
        simp_all [zombieCounted, parked, beingParked, DrainStage.entry]

end DmaView

namespace DmaSystem

variable {τ κ : Type*} [DecidableEq τ] [DecidableEq κ]

/-- What `mxdma_io_queue_idle` finds. -/
structure mxdmaIoQueueIdle (system : DmaSystem τ κ) : Prop where
  sqEmpty : ∀ index, (system.transfer index).onSq = false
  waitCount : system.waitCount = 0
  zombieWaitCount : system.zombieWaitCount = 0

section Counts

variable [Fintype τ] {system : DmaSystem τ κ} (reached : Reached dmaStep start system)

include reached

theorem waitCount_eq_add :
    system.waitCount =
      tally (fun transfer => DmaView.unclaimed transfer = true) system.transfer +
        tally (fun view => DmaView.beingCounted view = true) system.view := by
  have ok := ok_of_reached reached
  have counts := countsOk_of_reached reached
  have split : tally (fun view => DmaView.waiting view = true) system.view =
      tally (fun transfer => DmaView.unclaimed transfer = true) system.transfer +
        tally (fun view => DmaView.beingCounted view = true) system.view :=
    tally_eq_add fun index => DmaView.waiting_eq_add (ok.view index) (counts.view index)
  rw [counts.waitCount, split]
  rfl

theorem zombieWaitCount_eq_add :
    system.zombieWaitCount =
      tally (fun transfer => DmaView.parked transfer = true) system.transfer +
        tally (fun view => DmaView.beingParked view = true) system.view := by
  have ok := ok_of_reached reached
  have split : tally (fun view => DmaView.zombieCounted view = true) system.view =
      tally (fun transfer => DmaView.parked transfer = true) system.transfer +
        tally (fun view => DmaView.beingParked view = true) system.view :=
    tally_eq_add fun index => DmaView.zombieCounted_eq_add (ok.view index)
  rw [(countsOk_of_reached reached).zombieWaitCount, split]
  rfl

omit reached [Fintype τ] [DecidableEq κ] in
theorem Settled.not_beingCounted (settled : system.Settled) (index : τ) :
    DmaView.beingCounted (system.view index) = false ∧
      DmaView.beingParked (system.view index) = false := by
  have quiet := settled.view index
  simp [DmaView.beingCounted, DmaView.beingParked, quiet.submitting, quiet.holding, quiet.draining,
    quiet.waiter]

/-- The counters are the numbers they stand for, apart from what a thread is counting,
and the idle test finds a queue without transfers. -/
theorem io_queue_idle_sound :
    (0 ≤ system.waitCount ∧ 0 ≤ system.zombieWaitCount) ∧
      (system.waitCount =
          tally (fun transfer => DmaView.unclaimed transfer = true) system.transfer +
            tally (fun view => DmaView.beingCounted view = true) system.view ∧
        system.zombieWaitCount =
          tally (fun transfer => DmaView.parked transfer = true) system.transfer +
            tally (fun view => DmaView.beingParked view = true) system.view) ∧
      (system.Settled →
        system.waitCount =
            tally (fun transfer => DmaView.unclaimed transfer = true) system.transfer ∧
          system.zombieWaitCount =
            tally (fun transfer => DmaView.parked transfer = true) system.transfer) ∧
      (system.mxdmaIoQueueIdle → ∀ index,
        (system.transfer index).onSq = false ∧ (system.transfer index).zombieEntry = .unlinked ∧
          ((system.transfer index).command.pushed = true →
            (system.transfer index).command = .reported ∨ system.dmaReclaimSafe = true)) := by
  have waits := waitCount_eq_add reached
  have zombies := zombieWaitCount_eq_add reached
  refine ⟨⟨by omega, by omega⟩, ⟨waits, zombies⟩, ?_, ?_⟩
  · intro settled
    have counting : tally (fun view => DmaView.beingCounted view = true) system.view = 0 :=
      tally_eq_zero_iff.mpr fun index => by simp [(settled.not_beingCounted index).1]
    have parking : tally (fun view => DmaView.beingParked view = true) system.view = 0 :=
      tally_eq_zero_iff.mpr fun index => by simp [(settled.not_beingCounted index).2]
    constructor <;> omega
  · intro idle index
    have noWait := idle.waitCount
    have noZombie := idle.zombieWaitCount
    have ok := (ok_of_reached reached).view index
    have claims := tally_eq_zero_iff.mp
      (show tally (fun transfer => DmaView.unclaimed transfer = true) system.transfer = 0 by omega)
      index
    have unparked := tally_eq_zero_iff.mp
      (show tally (fun transfer => DmaView.parked transfer = true) system.transfer = 0 by omega)
      index
    refine ⟨idle.sqEmpty index, by simpa [DmaView.parked] using unparked, ?_⟩
    intro pushed
    have reports := DmaView.reports_of_pushed ok pushed
    have claimed : (system.transfer index).waitClaimed = true := by
      simpa [DmaView.unclaimed, pushed,
        show (system.transfer index).noCompletion = false from reports] using claims
    rcases ok.swapped claimed with reported | safe
    · exact .inl (ok.claimed reported).1
    · exact .inr safe

end Counts

/-- A command is parked, completes late and is drained, while another one is pushed. -/
def drainedRun : List (DmaAction Party Unit) :=
  parkedRun ++ [.claim, .completeNext, .completeNext, .completeNext, .inspect 0, .drain 0,
    .drainNext, .drainNext, .drainNext, .drainNext, .deviceComplete 1, .pop 1, .claim,
    .completeNext, .completeNext]

theorem io_queue_idle_sound_drainedRun :
    ∃ system, runActions dmaStep start drainedRun = some system ∧ system.mxdmaIoQueueIdle ∧
      (system.transfer 0).zombieEntry = .unlinked ∧
      (system.transfer 0).command.pushed = true ∧ (system.transfer 1).command.pushed = true ∧
      ((system.transfer 1).command = .reported ∨ system.dmaReclaimSafe = true) := by
  obtain ⟨system, run, idle, first, second⟩ : ∃ system,
      runActions dmaStep start drainedRun = some system ∧ system.mxdmaIoQueueIdle ∧
        (system.transfer 0).command.pushed = true ∧ (system.transfer 1).command.pushed = true :=
    ⟨_, rfl, ⟨by rintro ⟨⟩ <;> rfl, rfl, rfl⟩, rfl, rfl⟩
  obtain ⟨-, -, -, sound⟩ := io_queue_idle_sound (reached_of_runActions run)
  exact ⟨system, run, idle, (sound idle 0).2.1, first, second, (sound idle 1).2.2 second⟩

end DmaSystem

end MxDriver
