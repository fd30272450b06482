import MxDriver.TransferWait

/-!
# What the answer of a wait tells

An answer of `mx_transfer_wait` is only given for its reason: success with the completion,
`-EIO` for a dead transport, `-EINTR` for a signal, and `-ETIMEDOUT` not before the
ceiling.  A transfer that was taken back never reaches the device, and one that is parked
did.
-/

namespace MxDriver

theorem timeBefore_ofNat_of_lt {a b : Nat} (before : a < b) (near : b ≤ a + 2 ^ 63) :
    timeBefore (UInt64.ofNat a) (UInt64.ofNat b) = true := by
  simp only [timeBefore, timeAfter, UInt64.toNat_sub, UInt64.toNat_ofNat', decide_eq_true_eq]
  omega

theorem timeBefore_ofNat_of_le {a b : Nat} (after : b ≤ a) (near : a < b + 2 ^ 63) :
    timeBefore (UInt64.ofNat a) (UInt64.ofNat b) = false := by
  simp only [timeBefore, timeAfter, UInt64.toNat_sub, UInt64.toNat_ofNat',
    decide_eq_false_iff_not]
  omega

theorem msecsToJiffies_lt {msPerJiffy : Nat} {ms : UInt32} (finite : ms.toNat < 2 ^ 31) :
    (msecsToJiffies msPerJiffy ms).toNat < 2 ^ 31 := by
  have rounded : (ms.toNat + msPerJiffy - 1) / msPerJiffy ≤ ms.toNat := by
    rcases Nat.eq_zero_or_pos msPerJiffy with rfl | positive
    · simp
    · apply Nat.le_of_lt_succ
      rw [Nat.div_lt_iff_lt_mul positive, Nat.succ_mul]
      have := Nat.le_mul_of_pos_right ms.toNat positive
      omega
  rw [msecsToJiffies, if_neg (by omega), UInt64.toNat_ofNat', Nat.mod_eq_of_lt (by omega)]
  omega

namespace WaitSettings

variable {settings : WaitSettings}

theorem mult_bounds (settings : WaitSettings) :
    0 < settings.mult.toNat ∧ settings.mult.toNat ≤ 1000 := by
  rw [mult]
  split
  · have one : (1 : UInt32).toNat = 1 := rfl
    have ceil : livenessMaxMultCeil.toNat = 1000 := rfl
    rw [UInt32.toNat_min, UInt32.toNat_max, ceil]
    omega
  · exact ⟨Nat.one_pos, by decide⟩

theorem chunk_lt (finite : settings.timeoutMs.toNat < 2 ^ 31) : settings.chunk < 2 ^ 31 := by
  apply msecsToJiffies_lt
  rw [chunkMs]
  split
  · have least : livenessWaitChunkMinMsec.toNat = 50 := rfl
    rw [UInt32.toNat_max, UInt32.toNat_min, least]
    omega
  · exact finite

/-- The word that is computed is the ceiling, modulo the width of the clock. -/
theorem hardDeadline_eq (start : Nat) :
    settings.hardDeadline start = UInt64.ofNat (settings.ceiling start) := by
  rw [ceiling, UInt64.ofNat_add, UInt64.ofNat_mul, UInt64.ofNat_toNat,
    UInt64.ofNat_uInt32ToNat, hardDeadline]

/-- The product does not overflow for a timeout that is not negative as an `int`. -/
theorem ceiling_le (finite : settings.timeoutMs.toNat < 2 ^ 31) (start : Nat) :
    settings.ceiling start ≤ start + 2 ^ 41 := by
  have timeout : (msecsToJiffies settings.msPerJiffy settings.timeoutMs).toNat ≤ 2 ^ 31 :=
    (msecsToJiffies_lt finite).le
  have product := Nat.mul_le_mul timeout settings.mult_bounds.2
  rw [ceiling]
  omega

/-- Without the watchdog the one sleep takes until the ceiling. -/
theorem ceiling_of_lvOff (off : settings.lvOn = false) (start : Nat) :
    settings.ceiling start = start + settings.chunk := by
  have single : settings.mult.toNat = 1 := by
    rw [mult, off]
    rfl
  rw [ceiling, single, Nat.mul_one, chunk, chunkMs, off]
  rfl

/-- When the loop ends on its condition, the ceiling has been reached. -/
theorem ceiling_le_of_not_timeBefore (finite : settings.timeoutMs.toNat < 2 ^ 31)
    {start now : Nat} (started : start ≤ now)
    (lapsed : timeBefore (UInt64.ofNat now) (settings.hardDeadline start) = false) :
    settings.ceiling start ≤ now := by
  by_contra early
  have bound := settings.ceiling_le finite start
  have before := timeBefore_ofNat_of_lt (Nat.lt_of_not_le early) (by omega)
  rw [← hardDeadline_eq, lapsed] at before
  cases before

/-- When the loop goes round once more, the ceiling has not been reached. -/
theorem lt_ceiling_of_timeBefore {start now : Nat} (near : now < settings.ceiling start + 2 ^ 63)
    (within : timeBefore (UInt64.ofNat now) (settings.hardDeadline start) = true) :
    now < settings.ceiling start := by
  by_contra late
  have after := timeBefore_ofNat_of_le (Nat.le_of_not_lt late) near
  rw [← hardDeadline_eq, within] at after
  cases after

/-- `timeout_ms` is declared as an `int` parameter, and a negative one means to wait
without an end.  The product with the multiplier overflows then: if the multiplier is a
multiple of four, the deadline lies before the start, and the loop ends with its first
chunk. -/
theorem deadline_past_of_negative (negative : 2 ^ 31 ≤ settings.timeoutMs.toNat)
    (fourfold : 4 ∣ settings.mult.toNat) {start now : Nat} (started : start ≤ now)
    (near : now < start + 2 ^ 62) :
    timeBefore (UInt64.ofNat now) (settings.hardDeadline start) = false := by
  obtain ⟨quarter, mult⟩ := fourfold
  have bound := settings.mult_bounds.2
  have infinite : (msecsToJiffies settings.msPerJiffy settings.timeoutMs).toNat = 2 ^ 62 - 2 := by
    rw [msecsToJiffies, if_pos negative]
    rfl
  have product : (2 ^ 62 - 2) * (4 * quarter) = quarter * 2 ^ 64 - quarter * 8 := by omega
  have wrapped : UInt64.ofNat (start + (quarter * 2 ^ 64 - quarter * 8)) =
      UInt64.ofNat (start + 2 ^ 64 - quarter * 8) := by
    rw [UInt64.ofNat_eq_iff_mod_eq_toNat, UInt64.toNat_ofNat']
    omega
  have clock : UInt64.ofNat now = UInt64.ofNat (now + 2 ^ 64) := by
    rw [UInt64.ofNat_eq_iff_mod_eq_toNat, UInt64.toNat_ofNat']
    omega
  rw [hardDeadline_eq, ceiling, infinite, mult, product, wrapped, clock]
  exact timeBefore_ofNat_of_le (by omega) (by omega)

end WaitSettings

/-- Whether the waiter leaves the transfer on the submission list. -/
def WaitStage.keepsSq : WaitStage → Bool
  | .returned (.recovered _) => false
  | _ => true

namespace TransferWait

variable {settings : WaitSettings} {start : Nat} {wait next : TransferWait}
  {action : WaitAction}

/-- The ways of the waiter from one stage to the next. -/
inductive Advance (settings : WaitSettings) (start : Nat) (wait : TransferWait) :
    WaitStage → WaitStage → Prop
  | completed {expiry} : wait.done = true →
      Advance settings start wait (.waiting expiry) (.returned .completed)
  | expired {expiry} : expiry ≤ wait.now →
      Advance settings start wait (.waiting expiry) .expired
  | interrupted {expiry} : wait.signal = true →
      Advance settings start wait (.waiting expiry) (.gaveUp true)
  | single : settings.lvOn = false →
      Advance settings start wait .expired (.gaveUp false)
  | foundDead : settings.lvOn = true → wait.lvHealth = .dead →
      Advance settings start wait .expired (.gaveUp false)
  | foundAlive : settings.lvOn = true → wait.lvHealth ≠ .dead →
      Advance settings start wait .expired .looping
  | again : timeBefore (UInt64.ofNat wait.now) (settings.hardDeadline start) = true →
      Advance settings start wait .looping (.waiting (wait.now + settings.chunk))
  | ceiling : timeBefore (UInt64.ofNat wait.now) (settings.hardDeadline start) = false →
      Advance settings start wait .looping (.gaveUp false)
  | judged {interrupted} : Advance settings start wait (.gaveUp interrupted)
      (.removing (wait.dead settings) (wait.failRet settings interrupted))
  | recovered {dead error} : wait.onSq = true →
      Advance settings start wait (.removing dead error) (.returned (.recovered error))
  | parkedDead {error} : wait.onSq = false →
      Advance settings start wait (.removing true error) (.returned (.parked error))
  | granted {error} : wait.onSq = false →
      Advance settings start wait (.removing false error)
        (.lateWaiting (wait.now + settings.grace) error)
  | lateCompleted {expiry error} : wait.done = true →
      Advance settings start wait (.lateWaiting expiry error) (.returned .completed)
  | parked {expiry error} : expiry ≤ wait.now →
      Advance settings start wait (.lateWaiting expiry error) (.returned (.parked error))

/-- The waiter goes on to a stage. -/
def goOn (wait : TransferWait) (stage : WaitStage) : TransferWait :=
  { wait.enter stage with onSq := wait.onSq && stage.keepsSq }

theorem enter_eq_goOn {stage : WaitStage} (keeps : stage.keepsSq = true) :
    wait.enter stage = wait.goOn stage := by
  rw [goOn, keeps, Bool.and_true]
  rfl

theorem wake_advance (stepped : wait.wake = some next) :
    ∃ stage, Advance settings start wait wait.stage stage ∧ next = wait.goOn stage := by
  rw [wake] at stepped
  split at stepped
  · rename_i expiry standing
    split_ifs at stepped with done lapsed
    · cases stepped
      exact ⟨_, standing ▸ .completed done, enter_eq_goOn rfl⟩
    · cases stepped
      exact ⟨_, standing ▸ .expired lapsed, enter_eq_goOn rfl⟩
  · rename_i expiry error standing
    split_ifs at stepped with done lapsed
    · cases stepped
      exact ⟨_, standing ▸ .lateCompleted done, enter_eq_goOn rfl⟩
    · cases stepped
      exact ⟨_, standing ▸ .parked lapsed, enter_eq_goOn rfl⟩
  · cases stepped

theorem interrupt_advance (stepped : wait.interrupt = some next) :
    ∃ stage, Advance settings start wait wait.stage stage ∧ next = wait.goOn stage := by
  rw [interrupt] at stepped
  split at stepped
  · rename_i expiry standing
    split_ifs at stepped with pending
    cases stepped
    exact ⟨_, standing ▸ .interrupted pending.2, enter_eq_goOn rfl⟩
  · cases stepped

theorem run_advance (stepped : wait.run settings start = some next) :
    ∃ stage, Advance settings start wait wait.stage stage ∧ next = wait.goOn stage := by
  rw [run] at stepped
  split at stepped
  · rename_i standing
    split_ifs at stepped with off dead
    · cases stepped
      exact ⟨_, standing ▸ .single off, enter_eq_goOn rfl⟩
    · cases stepped
      exact ⟨_, standing ▸ .foundDead (Bool.eq_true_of_not_eq_false off) dead,
        enter_eq_goOn rfl⟩
    · cases stepped
      exact ⟨_, standing ▸ .foundAlive (Bool.eq_true_of_not_eq_false off) dead,
        enter_eq_goOn rfl⟩
  · rename_i standing
    split_ifs at stepped with within
    · cases stepped
      exact ⟨_, standing ▸ .again within, enter_eq_goOn rfl⟩
    · cases stepped
      exact ⟨_, standing ▸ .ceiling (Bool.eq_false_of_not_eq_true within), enter_eq_goOn rfl⟩
  · rename_i interrupted standing
    cases stepped
    exact ⟨_, standing ▸ .judged, enter_eq_goOn rfl⟩
  · rename_i dead error standing
    split_ifs at stepped with listed isDead
    · cases stepped
      refine ⟨.returned (.recovered error), standing ▸ .recovered listed, ?_⟩
      rw [goOn, WaitStage.keepsSq, Bool.and_false]
    · cases stepped
      rw [isDead] at standing
      exact ⟨_, standing ▸ .parkedDead (Bool.eq_false_of_not_eq_true listed),
        enter_eq_goOn rfl⟩
    · cases stepped
      rw [Bool.eq_false_of_not_eq_true isDead] at standing
      exact ⟨_, standing ▸ .granted (Bool.eq_false_of_not_eq_true listed), enter_eq_goOn rfl⟩
  · cases stepped

/-- What the others do while the waiter stays where it is. -/
inductive Meanwhile (wait : TransferWait) : WaitAction → TransferWait → Prop
  | tick : Meanwhile wait .tick { wait with now := wait.now + 1 }
  | push : wait.onSq = true → Meanwhile wait .push { wait with onSq := false, pushed := true }
  | complete : wait.pushed = true → wait.done = false →
      Meanwhile wait .complete { wait with done := true }
  | signal (pending : Bool) : Meanwhile wait (.signal pending)
      { wait with signal := pending, signalled := wait.signalled || pending }
  | setHealth (health : LivenessHealth) :
      Meanwhile wait (.setHealth health) (wait.setHealth health)

theorem step_cases (stepped : step settings start wait action = some next) :
    Meanwhile wait action next ∨
      ∃ stage, Advance settings start wait wait.stage stage ∧ next = wait.goOn stage := by
  cases action with
  | tick =>
    cases stepped
    exact .inl .tick
  | push =>
    simp only [step] at stepped
    split_ifs at stepped with listed
    cases stepped
    exact .inl (.push listed)
  | complete =>
    simp only [step] at stepped
    split_ifs at stepped with running
    cases stepped
    exact .inl (.complete running.1 running.2)
  | signal pending =>
    cases stepped
    exact .inl (.signal pending)
  | setHealth health =>
    cases stepped
    exact .inl (.setHealth health)
  | wake => exact .inr (wake_advance stepped)
  | interrupt => exact .inr (interrupt_advance stepped)
  | run => exact .inr (run_advance stepped)

/-- The reason for an error.  A timeout is reported at `time` and has to come from
`earliest` on, unless the transport was found dead and came back before the waiter looked
again. -/
def Cause (settings : WaitSettings) (wait : TransferWait) (earliest time : Nat) : Errno → Prop
  | .eio => settings.lvOn = true ∧ wait.wasDead = true
  | .eintr => wait.signalled = true
  | .etimedout => earliest ≤ time ∨ settings.lvOn = true ∧ wait.wasDead = true
  | _ => False

/-- What is known when the waiter stands at a stage. -/
def StageKept (settings : WaitSettings) (start : Nat) (wait : TransferWait) : WaitStage → Prop
  | .waiting expiry => (wait.onSq = true ∨ wait.pushed = true) ∧
      (settings.lvOn = false → settings.ceiling start ≤ expiry)
  | .expired => (wait.onSq = true ∨ wait.pushed = true) ∧
      (settings.lvOn = false → settings.ceiling start ≤ wait.now)
  | .looping => wait.onSq = true ∨ wait.pushed = true
  | .gaveUp interrupted => (wait.onSq = true ∨ wait.pushed = true) ∧
      Cause settings wait (settings.ceiling start) wait.now
        (if interrupted then .eintr else .etimedout)
  | .removing dead error => (wait.onSq = true ∨ wait.pushed = true) ∧
      (dead = true → error = .eio) ∧
      Cause settings wait (settings.ceiling start) wait.now error
  | .lateWaiting expiry error => wait.pushed = true ∧
      Cause settings wait (settings.ceiling start + settings.grace) expiry error
  | .returned .completed => wait.done = true
  | .returned (.recovered error) => (wait.onSq = false ∧ wait.pushed = false) ∧
      Cause settings wait (settings.ceiling start) wait.now error
  | .returned (.parked error) => wait.pushed = true ∧
      Cause settings wait (settings.ceiling start + settings.grace) wait.now error

/-- What holds throughout a wait. -/
structure Kept (settings : WaitSettings) (start : Nat) (wait : TransferWait) : Prop where
  started : start ≤ wait.now
  lastDead : wait.lvHealth = .dead → wait.wasDead = true
  pending : wait.signal = true → wait.signalled = true
  taken : wait.pushed = true → wait.onSq = false
  served : wait.done = true → wait.pushed = true
  stage : StageKept settings start wait wait.stage

/-- How the others change what the reasons depend on. -/
structure Grows (wait next : TransferWait) : Prop where
  now : wait.now ≤ next.now
  wasDead : wait.wasDead = true → next.wasDead = true
  signalled : wait.signalled = true → next.signalled = true
  pushed : wait.pushed = true → next.pushed = true
  done : wait.done = true → next.done = true
  tracked : wait.onSq = true ∨ wait.pushed = true → next.onSq = true ∨ next.pushed = true
  gone : wait.onSq = false ∧ wait.pushed = false → next.onSq = false ∧ next.pushed = false

theorem Meanwhile.grows (meanwhile : Meanwhile wait action next) : Grows wait next := by
  cases meanwhile with
  | tick => constructor <;> simp
  | push listed => constructor <;> simp [listed]
  | complete => constructor <;> simp
  | signal pending =>
    constructor <;> simp
    exact .inl
  | setHealth health =>
    constructor <;> try simp [TransferWait.setHealth]
    exact .inl

theorem Cause.mono {earliest time later : Nat} {error : Errno}
    (cause : Cause settings wait earliest time error) (grows : Grows wait next)
    (le : time ≤ later) : Cause settings next earliest later error := by
  cases error with
  | eio => exact ⟨cause.1, grows.wasDead cause.2⟩
  | eintr => exact grows.signalled cause
  | etimedout =>
    rcases cause with lapsed | dead
    · exact .inl (lapsed.trans le)
    · exact .inr ⟨dead.1, grows.wasDead dead.2⟩
  | _ => exact cause

theorem StageKept.mono {stage : WaitStage} (kept : StageKept settings start wait stage)
    (grows : Grows wait next) : StageKept settings start next stage := by
  cases stage with
  | waiting expiry => exact ⟨grows.tracked kept.1, kept.2⟩
  | expired => exact ⟨grows.tracked kept.1, fun off => (kept.2 off).trans grows.now⟩
  | looping => exact grows.tracked kept
  | gaveUp interrupted => exact ⟨grows.tracked kept.1, kept.2.mono grows grows.now⟩
  | removing dead error =>
    exact ⟨grows.tracked kept.1, kept.2.1, kept.2.2.mono grows grows.now⟩
  | lateWaiting expiry error => exact ⟨grows.pushed kept.1, kept.2.mono grows le_rfl⟩
  | returned answer =>
    cases answer with
    | completed => exact grows.done kept
    | recovered error => exact ⟨grows.gone kept.1, kept.2.mono grows grows.now⟩
    | parked error => exact ⟨grows.pushed kept.1, kept.2.mono grows grows.now⟩

theorem Kept.meanwhile (kept : Kept settings start wait) (meanwhile : Meanwhile wait action next) :
    Kept settings start next := by
  have stage := kept.stage.mono meanwhile.grows
  cases meanwhile with
  | tick => exact { kept with started := kept.started.trans (Nat.le_succ _), stage := stage }
  | push listed =>
    exact { kept with taken := fun _ => rfl, served := fun _ => rfl, stage := stage }
  | complete pushed => exact { kept with served := fun _ => pushed, stage := stage }
  | signal pending =>
    exact { kept with
      pending := by
        intro now
        simp [show pending = true from now]
      stage := stage }
  | setHealth health =>
    exact { kept with
      lastDead := by
        intro now
        simp [setHealth, show health = .dead from now]
      stage := stage }

theorem Cause.failRet (kept : Kept settings start wait) {interrupted : Bool} {earliest time : Nat}
    (cause : Cause settings wait earliest time (if interrupted then .eintr else .etimedout)) :
    Cause settings wait earliest time (wait.failRet settings interrupted) := by
  rw [TransferWait.failRet]
  split
  · rename_i dead
    simp only [TransferWait.dead, Bool.and_eq_true, decide_eq_true_eq] at dead
    exact ⟨dead.1, kept.lastDead dead.2⟩
  · exact cause

theorem Cause.later {earliest time : Nat} {error : Errno} (delay : Nat)
    (cause : Cause settings wait earliest time error) :
    Cause settings wait (earliest + delay) (time + delay) error := by
  cases error with
  | etimedout => exact cause.imp (fun lapsed => Nat.add_le_add_right lapsed delay) id
  | _ => exact cause

theorem goOn_grows {stage : WaitStage} (keeps : stage.keepsSq = true) :
    Grows wait (wait.goOn stage) := by
  rw [← enter_eq_goOn keeps]
  exact ⟨le_rfl, id, id, id, id, id, id⟩

theorem StageKept.advance (finite : settings.timeoutMs.toNat < 2 ^ 31)
    (kept : Kept settings start wait) {stage : WaitStage}
    (advance : Advance settings start wait wait.stage stage) :
    StageKept settings start (wait.goOn stage) stage := by
  have known := kept.stage
  generalize wait.stage = standing at advance known
  cases advance with
  | completed done => exact done
  | expired lapsed =>
    refine .mono ?_ (goOn_grows rfl)
    exact ⟨known.1, fun off => (known.2 off).trans lapsed⟩
  | interrupted signal =>
    refine .mono ?_ (goOn_grows rfl)
    exact ⟨known.1, kept.pending signal⟩
  | single off =>
    refine .mono ?_ (goOn_grows rfl)
    exact ⟨known.1, .inl (known.2 off)⟩
  | foundDead lvOn dead =>
    refine .mono ?_ (goOn_grows rfl)
    exact ⟨known.1, .inr ⟨lvOn, kept.lastDead dead⟩⟩
  | foundAlive => exact .mono known.1 (goOn_grows rfl)
  | again =>
    refine .mono ⟨known, fun off => ?_⟩ (goOn_grows rfl)
    rw [settings.ceiling_of_lvOff off]
    exact Nat.add_le_add_right kept.started _
  | ceiling lapsed =>
    refine .mono ?_ (goOn_grows rfl)
    exact ⟨known, .inl (settings.ceiling_le_of_not_timeBefore finite kept.started lapsed)⟩
  | judged =>
    refine .mono ?_ (goOn_grows rfl)
    exact ⟨known.1, fun dead => if_pos dead, known.2.failRet kept⟩
  | recovered listed =>
    refine ⟨⟨Bool.and_false _, ?_⟩, known.2.2⟩
    by_contra pushed
    have taken := kept.taken (Bool.eq_true_of_not_eq_false pushed)
    rw [listed] at taken
    cases taken
  | parkedDead taken =>
    refine .mono ?_ (goOn_grows rfl)
    obtain ⟨tracked, eio, cause⟩ := known
    obtain rfl := eio rfl
    exact ⟨by simpa [taken] using tracked, cause⟩
  | granted taken =>
    refine .mono ?_ (goOn_grows rfl)
    exact ⟨by simpa [taken] using known.1, known.2.2.later settings.grace⟩
  | lateCompleted done => exact done
  | parked lapsed => exact ⟨known.1, known.2.mono (goOn_grows rfl) lapsed⟩

theorem Kept.step (finite : settings.timeoutMs.toNat < 2 ^ 31) (kept : Kept settings start wait)
    (stepped : TransferWait.step settings start wait action = some next) :
    Kept settings start next := by
  obtain meanwhile | ⟨stage, advance, rfl⟩ := step_cases stepped
  · exact kept.meanwhile meanwhile
  · exact {
      started := kept.started
      lastDead := kept.lastDead
      pending := kept.pending
      taken := by
        intro pushed
        simp [goOn, kept.taken pushed]
      served := kept.served
      stage := .advance finite kept advance }

theorem kept_begin (onSq signal : Bool) (lvHealth : LivenessHealth) :
    Kept settings start (begin settings start onSq signal lvHealth) where
  started := le_rfl
  lastDead := by simp [begin]
  pending := id
  taken := by simp [begin]
  served := by simp [begin]
  stage := by
    refine ⟨?_, fun off => (settings.ceiling_of_lvOff off start).le⟩
    cases onSq <;> simp [begin]

/-- The answer of the waiter, for any timing of the others: a completion was there; a
transfer that was taken back is not in the device, and never will be, and one that was
parked is; an I/O error means a dead transport, an interruption a signal, and a timeout is
not reported before the ceiling, nor for a transfer in the device before another second
has passed, unless the transport was dead for a while. -/
theorem wait_answer_has_cause (finite : settings.timeoutMs.toNat < 2 ^ 31)
    (onSq signal : Bool) (lvHealth : LivenessHealth)
    (reached : Reached (TransferWait.step settings start)
      (begin settings start onSq signal lvHealth) wait)
    {answer : WaitEnd} (returned : wait.stage = .returned answer) :
    match answer with
    | .completed => wait.done = true ∧ wait.pushed = true
    | .recovered error => wait.onSq = false ∧ wait.pushed = false ∧ wait.done = false ∧
        Cause settings wait (settings.ceiling start) wait.now error
    | .parked error => wait.onSq = false ∧ wait.pushed = true ∧
        Cause settings wait (settings.ceiling start + settings.grace) wait.now error := by
  have kept : Kept settings start wait :=
    reached.invariant (kept_begin onSq signal lvHealth) fun _ _ _ kept _ => kept.step finite
  have known := kept.stage
  rw [returned] at known
  cases answer with
  | completed => exact ⟨known, kept.served known⟩
  | recovered error =>
    refine ⟨known.1.1, known.1.2, ?_, known.2⟩
    by_contra done
    have pushed := kept.served (Bool.eq_true_of_not_eq_false done)
    rw [known.1.2] at pushed
    cases pushed
  | parked error => exact ⟨kept.taken known.1, known.1, known.2⟩

/-- A timeout of 100 ms that the watchdog may double, on a clock of 100 Hz. -/
def shortSettings : WaitSettings where
  msPerJiffy := 10
  timeoutMs := 100
  livenessEnable := true
  livenessStallMs := 20
  livenessMaxMult := 2

/-- The device takes the command and never completes it: four chunks, and then the last
second. -/
def silentDevice : List WaitAction :=
  .push :: (List.replicate 4 (List.replicate 5 .tick ++ [.wake, .run, .run])).flatten ++
    [.run, .run] ++ List.replicate 100 .tick ++ [.wake]

theorem wait_answer_has_cause_silentDevice :
    ∃ wait, runActions (step shortSettings 7) (begin shortSettings 7 true false .alive)
        silentDevice = some wait ∧
      wait.stage = .returned (.parked .etimedout) ∧ wait.pushed = true ∧ 127 ≤ wait.now := by
  have ran : runActions (step shortSettings 7) (begin shortSettings 7 true false .alive)
      silentDevice = some {
        now := 127, since := 127, stage := .returned (.parked .etimedout), onSq := false,
        done := false, signal := false, lvHealth := .alive, pushed := true,
        signalled := false, wasDead := false, deadSince := none } := by decide +kernel
  obtain ⟨-, pushed, lapsed | ⟨-, dead⟩⟩ := wait_answer_has_cause (by decide) true false .alive
    (reached_of_runActions ran) rfl
  · exact ⟨_, ran, rfl, pushed, lapsed⟩
  · cases dead

end TransferWait

end MxDriver
