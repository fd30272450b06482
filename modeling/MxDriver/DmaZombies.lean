import MxDriver.DmaCounters

/-!
# Zombies and the flag that claims a completion

The waiter marks a transfer before it parks it, and the flag `wait_claimed` of a parked
transfer is set by its completion or by the cleaner.  From this follows what a transfer
adds to the counters while no thread is busy with it.
-/

namespace MxDriver

namespace DmaView

variable {κ : Type*}

/-- What the zombie flag says about the waiter, the lists and the cleaner. -/
structure ZombieOk (view : DmaView κ) : Prop where
  marked : view.transfer.zombieEntry ≠ .unlinked ∨ view.draining ≠ none ∨
    view.waiter = .parking .count ∨ view.waiter = .parking .enlist → view.transfer.isZombie = true
  owner : view.transfer.isZombie = true →
    view.waiter = .parking .count ∨ view.waiter = .parking .enlist ∨ view.waiter = .gone
  forced : view.transfer.waitClaimed = true → view.transfer.claimed = true ∨
    view.transfer.isZombie = true ∧
      (view.draining ≠ none ∨ view.transfer.zombieEntry = .unlinked)
  drained : view.transfer.isZombie = true → view.waiter = .gone →
    view.transfer.zombieEntry = .unlinked → view.transfer.waitClaimed = true

namespace ZombieOk

variable {view : DmaView κ} (zombie : view.ZombieOk)

include zombie

theorem not_zombie (early : view.waiter ≠ .gone)
    (unparked : ∀ stage, view.waiter ≠ .parking stage) : view.transfer.isZombie = false := by
  apply eq_false_of_ne_true
  intro marked
  rcases zombie.owner marked with parking | parking | gone
  · exact unparked _ parking
  · exact unparked _ parking
  · exact early gone

theorem setWaiter {waiter : Waiter} (early : view.waiter ≠ .gone)
    (unparked : ∀ stage, view.waiter ≠ .parking stage)
    (next : waiter ≠ .parking .count ∧ waiter ≠ .parking .enlist) :
    ZombieOk { view with waiter := waiter } := by
  have live := zombie.not_zombie early unparked
  exact
  { zombie with
    marked := by
      rintro (linked | draining | parks | parks)
      · exact zombie.marked (.inl linked)
      · exact zombie.marked (.inr (.inl draining))
      · exact (next.1 parks).elim
      · exact (next.2 parks).elim
    owner := fun marked => by cases live.symm.trans marked
    drained := fun marked => by cases live.symm.trans marked }

theorem setEntry {entry : ZombieEntry}
    (same : entry = .unlinked ↔ view.transfer.zombieEntry = .unlinked) :
    ZombieOk { view with transfer := { view.transfer with zombieEntry := entry } } :=
  { zombie with
    marked := by
      rintro (linked | rest)
      · exact zombie.marked (.inl fun unlinked => linked (same.mpr unlinked))
      · exact zombie.marked (.inr rest)
    forced := fun claims =>
      (zombie.forced claims).imp_right fun marked => ⟨marked.1, marked.2.imp_right same.mpr⟩
    drained := fun marked gone unlinked => zombie.drained marked gone (same.mp unlinked) }

theorem afterRelease (stage : ReleaseStage) : ZombieOk (view.afterRelease stage) := by
  cases stage <;> exact { zombie with }

end ZombieOk

theorem ZombieOk.move {view next : DmaView κ} {waitDelta zombieDelta : Int} (ok : view.Ok)
    (counts : view.CountOk) (zombie : view.ZombieOk)
    (moves : DmaMove view next waitDelta zombieDelta) : next.ZombieOk := by
  cases moves with
  | allocate unused below silent =>
    obtain ⟨-, -, -, -, idle, -⟩ := ok.unused unused
    constructor <;> simp [idle]
  | abandon prepared => exact zombie.setWaiter (by simp [prepared]) (by simp [prepared]) (by simp)
  | queue prepared =>
    have moved : ZombieOk { view with waiter := .submitted } :=
      zombie.setWaiter (by simp [prepared]) (by simp [prepared]) (by simp)
    exact { moved with }
  | startWait waiter | expire waiter | handOff waiter | giveUp waiter =>
    exact zombie.setWaiter (by simp [waiter]) (by simp [waiter]) (by simp)
  | take | count | pushSilent | push | signal | deviceComplete | pop | uncount | check | deliver
  | complete => exact { zombie with }
  | claim popped listed unclaimed =>
    exact { zombie with forced := fun _ => .inl rfl, drained := fun _ _ _ => rfl }
  | observe waits =>
    have live : view.waiter ≠ .gone ∧ ∀ stage, view.waiter ≠ .parking stage := by
      rcases waits with waits | waits | waits <;> simp [waits]
    exact zombie.setWaiter live.1 live.2 (by simp)
  | remove expired =>
    have moved : ZombieOk { view with waiter := .releasing .desc } :=
      zombie.setWaiter (by simp [expired]) (by simp [expired]) (by simp)
    exact { moved with }
  | wait expired free taken reports next =>
    apply zombie.setWaiter (by simp [expired]) (by simp [expired])
    rcases next with rfl | rfl <;> simp
  | mark stage =>
    obtain ⟨-, unlinked, idle⟩ := ok.owned (by simp [stage])
    constructor <;> simp [unlinked, idle]
  | parkCount stage =>
    have marked := zombie.marked (.inr (.inr (.inl stage)))
    exact { zombie with
      marked := fun _ => marked, owner := fun _ => .inr (.inl rfl), drained := by simp }
  | enlist stage =>
    have marked := zombie.marked (.inr (.inr (.inr stage)))
    exact
    { marked := fun _ => marked
      owner := fun _ => .inr (.inr rfl)
      forced := fun claims => .inl ((counts.waits claims).resolve_right (by simp [stage]))
      drained := by simp }
  | release waiter unlocked =>
    rename_i stage
    have releasing : (view.afterRelease stage).waiter = .releasing stage := by
      cases stage <;> exact waiter
    apply (zombie.afterRelease stage).setWaiter (by simp [releasing]) (by simp [releasing])
    cases stage <;> exact ⟨by simp [ReleaseStage.next], by simp [ReleaseStage.next]⟩
  | inspect entry claimed free =>
    have marked := zombie.marked (.inl (by simp [entry]))
    have reported : view.transfer.claimed = true := by
      rcases zombie.forced claimed with reported | ⟨-, draining | unlinked⟩
      · exact reported
      · exact (draining free).elim
      · cases entry.symm.trans unlinked
    exact
    { zombie with
      marked := fun _ => marked
      forced := fun _ => .inl reported
      drained := by simp }
  | drain entry =>
    have marked := zombie.marked (.inl (by simp [entry]))
    exact { zombie with
      marked := fun _ => marked, forced := fun _ => .inr ⟨marked, .inl (by simp)⟩ }
  | swap stage =>
    have marked := zombie.marked (.inr (.inl (by simp [stage])))
    exact
    { zombie with
      marked := fun _ => marked
      forced := fun _ => .inr ⟨marked, .inl (by simp)⟩
      drained := fun _ _ _ => rfl }
  | unlink stage =>
    have marked := zombie.marked (.inr (.inl (by simp [stage])))
    have claims := counts.swapped _ stage (by simp)
    exact
    { zombie with
      marked := fun _ => marked
      forced := fun _ => .inr ⟨marked, .inl (by simp)⟩
      drained := fun _ _ _ => claims }
  | drainUncount stage | unpark stage | cancel stage =>
    have marked := zombie.marked (.inr (.inl (by simp [stage])))
    exact { zombie with
      marked := fun _ => marked, forced := fun _ => .inr ⟨marked, .inl (by simp)⟩ }
  | drainRelease draining =>
    rename_i stage _
    have marked := zombie.marked (.inr (.inl (by simp [draining])))
    have unlinked := ok.detached _ draining
    have moved := zombie.afterRelease stage
    cases stage <;> exact
      { moved with
        marked := fun _ => marked
        forced := fun _ => .inr ⟨marked, .inr unlinked⟩ }

/-- A pushed command that is neither completed nor parked. -/
def live (transfer : DmaTransfer κ) : Bool :=
  transfer.command.pushed && !transfer.claimed && !transfer.isZombie

/-- On a zombie list although its completion was claimed. -/
def claimedZombie (transfer : DmaTransfer κ) : Bool :=
  !decide (transfer.zombieEntry = .unlinked) && transfer.claimed

/-- No thread is between two statements that belong together for this transfer. -/
structure Settled (view : DmaView κ) : Prop where
  submitting : view.submitting = none
  holding : view.holding = none
  draining : view.draining = none
  waiter : ∀ stage, view.waiter ≠ .parking stage

/-- Until the cleaner drains a transfer its flag says that its completion was claimed. -/
theorem waitClaimed_eq {view : DmaView κ} (ok : view.Ok) (zombie : view.ZombieOk)
    (settled : view.Settled)
    (kept : view.transfer.zombieEntry = .unlinked → view.transfer.isZombie = false) :
    view.transfer.waitClaimed = view.transfer.claimed := by
  rw [Bool.eq_iff_iff]
  constructor
  · intro claims
    rcases zombie.forced claims with claimed | ⟨marked, draining | unlinked⟩
    · exact claimed
    · exact (draining settled.draining).elim
    · cases marked.symm.trans (kept unlinked)
  · exact fun claimed => (ok.claimed claimed).2.1

/-- What one transfer adds to the two counters. -/
theorem contributions {view : DmaView κ} (ok : view.Ok) (counts : view.CountOk)
    (zombie : view.ZombieOk) (settled : view.Settled) :
    view.waiting.toNat + (claimedZombie view.transfer).toNat =
      (live view.transfer).toNat + view.zombieCounted.toNat := by
  have zombieCounted : view.zombieCounted = !decide (view.transfer.zombieEntry = .unlinked) := by
    simp [DmaView.zombieCounted, settled.waiter, settled.draining]
  have waiting : view.waiting = (view.transfer.command.pushed && !view.transfer.waitClaimed) := by
    cases pushed : view.transfer.command.pushed
    · simp [DmaView.waiting, settled.submitting, pushed]
    · simp [DmaView.waiting, settled.submitting, settled.holding, settled.draining, pushed,
        reports_of_pushed ok pushed]
  rw [waiting, zombieCounted]
  by_cases entry : view.transfer.zombieEntry = .unlinked
  · cases marked : view.transfer.isZombie with
    | false =>
      have flag := waitClaimed_eq ok zombie settled fun _ => marked
      simp [live, claimedZombie, entry, marked, flag]
    | true =>
      have gone : view.waiter = .gone := by
        rcases zombie.owner marked with parking | parking | gone
        · exact (settled.waiter _ parking).elim
        · exact (settled.waiter _ parking).elim
        · exact gone
      have claims := zombie.drained marked gone entry
      simp [live, claimedZombie, entry, marked, claims]
  · have marked := zombie.marked (.inl entry)
    obtain ⟨out, mute⟩ := counts.sent (.inr (.inl entry))
    have pushed := pushed_of_sent ok out mute
    have flag := waitClaimed_eq ok zombie settled fun unlinked => (entry unlinked).elim
    cases claimed : view.transfer.claimed <;>
      simp [live, claimedZombie, entry, marked, pushed, flag, claimed]

end DmaView

end MxDriver
