import MxDriver.Liveness
import Mathlib.Tactic.SplitIfs

/-!
# The watchdog does not declare a responsive transport dead

A verdict for want of completions goes by the progress stamp, and one for want of a
pong by the time of the probe.  A completion writes the stamp first and takes the probe
back last, so the first verdict counts from the beginning of its processing and the
second from the end.  The stamp is in jiffies: a budget that is not a whole number of
jiffies is rounded down.
-/

namespace MxDriver

namespace LivenessQueue

variable {hz since : Nat} {queue next : LivenessQueue}

/-- The progress stamp was written at `since` or later. -/
def StampedSince (hz since : Nat) (queue : LivenessQueue) : Prop :=
  ∃ time, since ≤ time ∧ time ≤ queue.now ∧ queue.lvProgressJiffies = jiffies hz time

/-- A probe that is in flight was pushed at `since` or later. -/
def ProbedSince (since : Nat) (queue : LivenessQueue) : Prop :=
  since ≤ queue.now ∧ (queue.lvInflight = true →
    ∃ time, since ≤ time ∧ time ≤ queue.now ∧ queue.lvSentNs = ktimeGetNs time)

/-! ## What the watchdog and the steps write -/

theorem mxLivenessWatchdog_frame (hz : Nat) (queue : LivenessQueue) (pushable : Bool) :
    (queue.mxLivenessWatchdog hz pushable).now = queue.now ∧
      (queue.mxLivenessWatchdog hz pushable).lvProgressJiffies =
        queue.lvProgressJiffies := by
  unfold mxLivenessWatchdog
  dsimp only
  split_ifs <;> exact ⟨rfl, rfl⟩

/-- A probe that the watchdog leaves in flight was so before, or is pushed now. -/
theorem mxLivenessWatchdog_probe (hz : Nat) (queue : LivenessQueue) (pushable : Bool) :
    ((queue.mxLivenessWatchdog hz pushable).lvInflight = queue.lvInflight ∧
        (queue.mxLivenessWatchdog hz pushable).lvSentNs = queue.lvSentNs) ∨
      (queue.mxLivenessWatchdog hz pushable).lvSentNs = ktimeGetNs queue.now := by
  unfold mxLivenessWatchdog
  dsimp only
  split_ifs <;> first | exact .inl ⟨rfl, rfl⟩ | exact .inr rfl

/-- The transport is dead after a tick if the tick says so, or nobody has said otherwise
since. -/
theorem mxLivenessWatchdog_dead_iff (hz : Nat) (queue : LivenessQueue) (pushable : Bool) :
    (queue.mxLivenessWatchdog hz pushable).lvHealth = .dead ↔
      queue.SetsDead hz ∨ queue.lvHealth = .dead := by
  unfold mxLivenessWatchdog SetsDead
  by_cases overdue : queue.PongOverdue
  · by_cases suspect : queue.lvHealth = .suspect <;> cases pushable <;>
      simp [overdue, suspect, pushPing]
  by_cases busy : queue.outstanding ≤ 0
  · simp [overdue, busy, Int.not_lt.mpr busy]
  by_cases stalled : queue.NoCompletion hz
  · have busy : 0 < queue.outstanding := by omega
    simp only [overdue, stalled, if_true, if_false]
    split_ifs <;> simp_all
  · simp only [overdue, stalled, if_false]
    split_ifs <;> simp_all

end LivenessQueue

/-- What a step can write of the two times that a verdict goes by. -/
structure LivenessQueue.Writes (hz : Nat) (queue next : LivenessQueue) : Prop where
  now : queue.now ≤ next.now
  progress : next.lvProgressJiffies = queue.lvProgressJiffies ∨
    next.lvProgressJiffies = jiffies hz next.now
  probe : next.lvInflight = true →
    queue.lvInflight = true ∧ next.lvSentNs = queue.lvSentNs ∨
      next.lvSentNs = ktimeGetNs next.now

theorem LivenessQueue.submit_writes (hz : Nat) (queue : LivenessQueue)
    (noCompletion : Bool) : queue.Writes hz (queue.submit hz noCompletion) := by
  unfold submit
  split
  · exact ⟨Nat.le_refl _, .inl rfl, fun inflight => .inl ⟨inflight, rfl⟩⟩
  · refine ⟨Nat.le_refl _, ?_, fun inflight => .inl ⟨inflight, rfl⟩⟩
    dsimp only
    split
    · exact .inr rfl
    · exact .inl rfl

theorem LivenessQueue.mxLivenessWatchdog_writes (hz : Nat) (queue : LivenessQueue)
    (pushable : Bool) : queue.Writes hz (queue.mxLivenessWatchdog hz pushable) := by
  obtain ⟨now, progress⟩ := queue.mxLivenessWatchdog_frame hz pushable
  refine ⟨Nat.le_of_eq now.symm, .inl progress, fun inflight => ?_⟩
  rcases queue.mxLivenessWatchdog_probe hz pushable with ⟨same, sent⟩ | sent
  · exact .inl ⟨same ▸ inflight, sent⟩
  · exact .inr (now ▸ sent)

theorem livenessStep_writes {hz : Nat} {queue next : LivenessQueue}
    {action : LivenessAction} (stepped : livenessStep hz queue action = some next) :
    queue.Writes hz next := by
  cases action with
  | tick pushable =>
    simp only [livenessStep, Option.ite_none_right_eq_some, Option.some.injEq] at stepped
    obtain ⟨-, rfl⟩ := stepped
    exact queue.mxLivenessWatchdog_writes hz pushable
  | push noCompletion pushable =>
    simp only [livenessStep, Option.ite_none_left_eq_some, Option.some.injEq] at stepped
    obtain ⟨-, rfl⟩ := stepped
    exact queue.submit_writes hz noCompletion
  | storeEnable val =>
    obtain rfl := Option.some.inj stepped
    refine ⟨Nat.le_refl _, ?_, nofun⟩
    cases val with
    | true => exact .inr rfl
    | false => exact .inl rfl
  | advance ns =>
    obtain rfl := Option.some.inj stepped
    exact ⟨Nat.le_add_right .., .inl rfl, fun inflight => .inl ⟨inflight, rfl⟩⟩
  | stamp =>
    simp only [livenessStep] at stepped
    split at stepped
    · obtain rfl := Option.some.inj stepped
      exact ⟨Nat.le_refl _, .inr rfl, fun inflight => .inl ⟨inflight, rfl⟩⟩
    · cases stepped
  | clear =>
    simp only [livenessStep] at stepped
    split at stepped
    · obtain rfl := Option.some.inj stepped
      exact ⟨Nat.le_refl _, .inl rfl, nofun⟩
    · obtain rfl := Option.some.inj stepped
      exact ⟨Nat.le_refl _, .inl rfl, nofun⟩
    · cases stepped
  | revive =>
    simp only [livenessStep] at stepped
    split at stepped
    · obtain rfl := Option.some.inj stepped
      exact ⟨Nat.le_refl _, .inl rfl, fun inflight => .inl ⟨inflight, rfl⟩⟩
    · cases stepped
  | pop pong | claim found =>
    simp only [livenessStep, Option.ite_none_right_eq_some, Option.some.injEq] at stepped
    obtain ⟨-, rfl⟩ := stepped
    exact ⟨Nat.le_refl _, .inl rfl, fun inflight => .inl ⟨inflight, rfl⟩⟩
  | storeStallMs val | storeDeadMs val | sampleEnable | park | uncount | drain =>
    obtain rfl := Option.some.inj stepped
    exact ⟨Nat.le_refl _, .inl rfl, fun inflight => .inl ⟨inflight, rfl⟩⟩

namespace LivenessQueue

variable {hz since : Nat} {queue next : LivenessQueue}

theorem StampedSince.step (stamped : queue.StampedSince hz since)
    (writes : queue.Writes hz next) : next.StampedSince hz since := by
  obtain ⟨time, after, before, stamp⟩ := stamped
  have now := writes.now
  rcases writes.progress with kept | written
  · exact ⟨time, after, by omega, kept.trans stamp⟩
  · exact ⟨next.now, by omega, Nat.le_refl _, written⟩

theorem ProbedSince.step (probed : queue.ProbedSince since)
    (writes : queue.Writes hz next) : next.ProbedSince since := by
  obtain ⟨after, probe⟩ := probed
  have now := writes.now
  refine ⟨by omega, fun inflight => ?_⟩
  rcases writes.probe inflight with ⟨before, sent⟩ | sent
  · obtain ⟨time, later, earlier, same⟩ := probe before
    exact ⟨time, later, by omega, sent.trans same⟩
  · exact ⟨next.now, by omega, Nat.le_refl _, sent⟩

theorem StampedSince.run (stamped : queue.StampedSince hz since)
    (reached : Reached (livenessStep hz) queue next) : next.StampedSince hz since :=
  reached.invariant stamped fun _ _ _ before _ stepped => before.step (livenessStep_writes stepped)

theorem ProbedSince.run (probed : queue.ProbedSince since)
    (reached : Reached (livenessStep hz) queue next) : next.ProbedSince since :=
  reached.invariant probed fun _ _ _ before _ stepped => before.step (livenessStep_writes stepped)

/-! ## The two readings of the clock -/

/-- The difference of two readings of 64 bits is at most the true one. -/
theorem toNat_ofNat_sub_le {later earlier : Nat} (ordered : earlier ≤ later) :
    (UInt64.ofNat later - UInt64.ofNat earlier).toNat ≤ later - earlier := by
  rw [← UInt64.ofNat_sub ordered, UInt64.toNat_ofNat']
  exact Nat.mod_le _ _

/-- A quotient that was rounded up exceeds a number only if the fraction does. -/
theorem mul_lt_of_lt_ceil {count product divisor : Nat}
    (above : count < (product + divisor - 1) / divisor) : count * divisor < product := by
  have positive : 0 < divisor := by
    refine Nat.pos_of_ne_zero fun zero => ?_
    simp [zero] at above
  have whole := (Nat.le_div_iff_mul_le positive).mp above
  rw [Nat.succ_mul] at whole
  omega

/-- The milliseconds of a number of jiffies are no more than the jiffies make up. -/
theorem mul_hz_lt_of_lt_jiffiesToMsecs {count : UInt64} {ms passed : Nat}
    (atMost : count.toNat ≤ passed) (above : ms < (jiffiesToMsecs hz count).toNat) :
    ms * hz < passed * 1000 := by
  rw [jiffiesToMsecs, UInt32.toNat_ofNat'] at above
  have reduced : ms * (hz / Nat.gcd 1000 hz) < passed * (1000 / Nat.gcd 1000 hz) := by
    refine Nat.lt_of_lt_of_le (mul_lt_of_lt_ceil (Nat.lt_of_lt_of_le above (Nat.mod_le _ _))) ?_
    rw [UInt64.toNat_mul, UInt64.toNat_ofNat']
    exact Nat.le_trans (Nat.mod_le _ _) (Nat.mul_le_mul atMost (Nat.mod_le _ _))
  have common : 0 < Nat.gcd 1000 hz := Nat.gcd_pos_of_pos_left _ (by decide)
  calc ms * hz = ms * (hz / Nat.gcd 1000 hz) * Nat.gcd 1000 hz := by
        rw [Nat.mul_assoc, Nat.div_mul_cancel (Nat.gcd_dvd_right 1000 hz)]
    _ < passed * (1000 / Nat.gcd 1000 hz) * Nat.gcd 1000 hz :=
        Nat.mul_lt_mul_of_pos_right reduced common
    _ = passed * 1000 := by
        rw [Nat.mul_assoc, Nat.div_mul_cancel (Nat.gcd_dvd_left 1000 hz)]

/-- What the watchdog takes for a stall has passed in jiffies. -/
theorem jiffies_of_lt_stalled {time ms : Nat} (before : time ≤ queue.now)
    (stamp : queue.lvProgressJiffies = jiffies hz time)
    (stalled : ms < (queue.mxLivenessStalledMs hz).toNat) :
    ms * hz < (queue.now * hz / nsecPerSec - time * hz / nsecPerSec) * 1000 := by
  unfold mxLivenessStalledMs at stalled
  dsimp only at stalled
  split at stalled
  · refine mul_hz_lt_of_lt_jiffiesToMsecs ?_ stalled
    rw [stamp]
    exact toNat_ofNat_sub_le (Nat.div_le_div_right (Nat.mul_le_mul_right _ before))
  · cases stalled

/-- Whole jiffies between two readings have passed but for one. -/
theorem elapsed_of_jiffies {jiffy later earlier count : Nat}
    (passed : count < later / jiffy - earlier / jiffy) : count * jiffy < later - earlier := by
  have positive : 0 < jiffy := by
    refine Nat.pos_of_ne_zero fun zero => ?_
    simp [zero] at passed
  have floor := Nat.div_mul_le_self later jiffy
  have ceil : earlier < earlier / jiffy * jiffy + jiffy := Nat.lt_div_mul_add positive
  have whole : (count + 1 + earlier / jiffy) * jiffy ≤ later / jiffy * jiffy :=
    Nat.mul_le_mul_right _ (by omega)
  rw [Nat.add_mul, Nat.add_mul] at whole
  omega

/-- A verdict for want of a pong comes after the budget. -/
theorem ProbedSince.elapsed (probed : queue.ProbedSince since) (overdue : queue.PongOverdue) :
    queue.deadMs.toNat * nsecPerMsec < queue.now - since := by
  obtain ⟨inflight, budget⟩ := overdue
  obtain ⟨time, after, before, sent⟩ := probed.2 inflight
  rw [sent] at budget
  have waited : (ktimeGetNs queue.now - ktimeGetNs time).toNat ≤ queue.now - time :=
    toNat_ofNat_sub_le before
  omega

/-- The whole jiffies of the budget. -/
def budgetJiffies (hz : Nat) (queue : LivenessQueue) : Nat := queue.deadMs.toNat * hz / 1000

/-- A verdict for want of completions comes after the whole jiffies of the budget. -/
theorem StampedSince.elapsed (stamped : queue.StampedSince hz since)
    (noCompletion : queue.NoCompletion hz) :
    queue.budgetJiffies hz * nsecPerSec < (queue.now - since) * hz := by
  obtain ⟨time, after, before, stamp⟩ := stamped
  have budget : queue.deadMs.toNat < (queue.mxLivenessStalledMs hz).toNat :=
    UInt32.lt_iff_toNat_lt.mp noCompletion.1
  have whole : queue.budgetJiffies hz <
      queue.now * hz / nsecPerSec - time * hz / nsecPerSec := by
    refine Nat.div_lt_of_lt_mul ?_
    rw [Nat.mul_comm 1000]
    exact jiffies_of_lt_stalled before stamp budget
  have elapsed := elapsed_of_jiffies whole
  rw [← Nat.sub_mul] at elapsed
  exact Nat.lt_of_lt_of_le elapsed (Nat.mul_le_mul_right _ (by omega))

end LivenessQueue

/-- The complete thread processed a completion: it stamped the progress, set the health
to ALIVE and took the probe back, with any other steps in between. -/
inductive Processed (hz : Nat) (popped cleared : LivenessQueue) : Prop
  | mk {stamped before revived after : LivenessQueue}
      (stamp : livenessStep hz popped .stamp = some stamped)
      (meanwhile : Reached (livenessStep hz) stamped before)
      (revive : livenessStep hz before .revive = some revived)
      (afterwards : Reached (livenessStep hz) revived after)
      (clear : livenessStep hz after .clear = some cleared)

theorem Processed.since {hz : Nat} {popped cleared : LivenessQueue}
    (processed : Processed hz popped cleared) :
    cleared.StampedSince hz popped.now ∧ popped.now ≤ cleared.now ∧
      cleared.ProbedSince cleared.now := by
  obtain ⟨stamp, meanwhile, revive, afterwards, clear⟩ := processed
  rename_i stamped before revived after
  have fresh : stamped.StampedSince hz popped.now := by
    simp only [livenessStep] at stamp
    split at stamp
    · obtain rfl := Option.some.inj stamp
      exact ⟨popped.now, Nat.le_refl _, Nat.le_refl _, rfl⟩
    · cases stamp
  have stampedSince : cleared.StampedSince hz popped.now :=
    (((fresh.run meanwhile).step (livenessStep_writes revive)).run afterwards).step
      (livenessStep_writes clear)
  refine ⟨stampedSince, ?_, Nat.le_refl _, ?_⟩
  · obtain ⟨time, later, earlier, -⟩ := stampedSince
    omega
  · intro inflight
    simp only [livenessStep] at clear
    split at clear
    · obtain rfl := Option.some.inj clear
      cases inflight
    · obtain rfl := Option.some.inj clear
      cases inflight
    · cases clear

/-- In every interleaving and for every value of the parameters: when a tick sets the
health to DEAD, more than the sanitized budget, rounded down to whole jiffies, has
passed since the progress stamp of any completion that was processed.  If the verdict is
for want of a pong, more than the whole budget has passed since the end of the
processing. -/
theorem dead_verdict_after_budget {hz : Nat} {popped cleared last next : LivenessQueue}
    {pushable : Bool} (positive : 0 < hz) (processed : Processed hz popped cleared)
    (onward : Reached (livenessStep hz) cleared last)
    (ticked : livenessStep hz last (.tick pushable) = some next) (dead : next.lvHealth = .dead)
    (sets : last.lvHealth ≠ .dead ∨ last.SetsDead hz) :
    last.budgetJiffies hz * nsecPerSec < (last.now - popped.now) * hz ∧
      (last.PongOverdue → last.deadMs.toNat * nsecPerMsec < last.now - cleared.now) := by
  have setsDead : last.SetsDead hz := by
    rcases sets with wasNot | sets
    · simp only [livenessStep, Option.ite_none_right_eq_some, Option.some.injEq] at ticked
      obtain ⟨-, rfl⟩ := ticked
      exact ((last.mxLivenessWatchdog_dead_iff hz pushable).mp dead).resolve_right wasNot
    · exact sets
  obtain ⟨stamped, ordered, probed⟩ := processed.since
  have sincePong (overdue : last.PongOverdue) := (probed.run onward).elapsed overdue
  refine ⟨?_, sincePong⟩
  rcases setsDead with ⟨overdue, -⟩ | ⟨-, -, noCompletion⟩
  · have elapsed := sincePong overdue
    calc last.budgetJiffies hz * nsecPerSec
        = last.deadMs.toNat * hz / 1000 * 1000 * nsecPerMsec := by
          rw [Nat.mul_assoc]
          rfl
      _ ≤ last.deadMs.toNat * hz * nsecPerMsec :=
          Nat.mul_le_mul_right _ (Nat.div_mul_le_self ..)
      _ = last.deadMs.toNat * nsecPerMsec * hz := Nat.mul_right_comm ..
      _ < (last.now - popped.now) * hz := Nat.mul_lt_mul_of_pos_right (by omega) positive
  · exact (stamped.run onward).elapsed noCompletion

/-- Two commands are pushed under a budget of `budget` milliseconds, and a completion is
popped at `time`. -/
def poppedRun (budget : UInt32) (time : Nat) : List LivenessAction :=
  [.storeDeadMs budget, .storeEnable true, .sampleEnable, .push false true, .push false true,
    .advance time, .pop false]

/-- The completion is processed at once, and the watchdog runs `wait` nanoseconds later. -/
def processedRun (wait : Nat) : List LivenessAction :=
  [.claim true, .advance wait]

theorem dead_verdict_after_budget_poppedRun :
    ∃ popped cleared last next,
      runActions (livenessStep 1000) (.start 1000 0) (poppedRun 3 0) = some popped ∧
      Processed 1000 popped cleared ∧
      runActions (livenessStep 1000) cleared (processedRun 4000000) = some last ∧
      livenessStep 1000 last (.tick false) = some next ∧ next.lvHealth = .dead ∧
      3 * nsecPerMsec < last.now - popped.now := by
  obtain ⟨popped, stamped, revived, cleared, last, next, run, stamp, revive, clear, onward,
      ticked, dead, alive, budget⟩ : ∃ popped stamped revived cleared last next,
      runActions (livenessStep 1000) (.start 1000 0) (poppedRun 3 0) = some popped ∧
      livenessStep 1000 popped .stamp = some stamped ∧
      livenessStep 1000 stamped .revive = some revived ∧
      livenessStep 1000 revived .clear = some cleared ∧
      runActions (livenessStep 1000) cleared (processedRun 4000000) = some last ∧
      livenessStep 1000 last (.tick false) = some next ∧ next.lvHealth = .dead ∧
      last.lvHealth ≠ .dead ∧ last.deadMs = 3 :=
    ⟨_, _, _, _, _, _, rfl, rfl, rfl, rfl, rfl, rfl, by decide, by decide, by decide⟩
  have processed : Processed 1000 popped cleared := .mk stamp .refl revive .refl clear
  refine ⟨popped, cleared, last, next, run, processed, onward, ticked, dead, ?_⟩
  have elapsed := (dead_verdict_after_budget (by decide) processed
    (reached_of_runActions onward) ticked dead (.inl alive)).1
  have milliseconds : (3 : UInt32).toNat = 3 := rfl
  simp only [LivenessQueue.budgetJiffies, budget, milliseconds, nsecPerSec] at elapsed
  simp only [nsecPerMsec]
  omega

/-- The verdict can come within the budget of a completion that was processed, for two
reasons.  With a jiffy of four milliseconds a budget of three is none, even if it counts
from the stamp; and the complete thread may take longer than the budget from the stamp to
the end, whatever a jiffy is. -/
theorem dead_verdict_within_budget :
    (∃ popped cleared last next,
      runActions (livenessStep 250) (.start 250 0) (poppedRun 3 3999999) = some popped ∧
      Processed 250 popped cleared ∧
      runActions (livenessStep 250) cleared (processedRun 1) = some last ∧
      livenessStep 250 last (.tick false) = some next ∧ last.lvHealth ≠ .dead ∧
      next.lvHealth = .dead ∧ last.deadMs = 3 ∧
      last.now - popped.now ≤ last.deadMs.toNat * nsecPerMsec ∧
      last.now - cleared.now ≤ last.deadMs.toNat * nsecPerMsec) ∧
    ∃ popped cleared last next,
      runActions (livenessStep 1000) (.start 1000 0) (poppedRun 3 0) = some popped ∧
      Processed 1000 popped cleared ∧
      runActions (livenessStep 1000) cleared (processedRun 1) = some last ∧
      livenessStep 1000 last (.tick false) = some next ∧ last.lvHealth ≠ .dead ∧
      next.lvHealth = .dead ∧ last.deadMs = 3 ∧
      last.now - cleared.now ≤ last.deadMs.toNat * nsecPerMsec := by
  constructor
  · refine ⟨_, _, _, _, rfl, .mk rfl .refl rfl .refl rfl, rfl, rfl, ?_⟩
    decide
  · refine ⟨_, _, _, _, rfl, .mk rfl (reached_of_runActions
      (show runActions (livenessStep 1000) _ [.advance 10000000] = some _ from rfl)) rfl .refl rfl,
      rfl, rfl, ?_⟩
    decide

end MxDriver
