import Mathlib.Algebra.Group.Nat.Defs
import MxDriver.TransitionSystem

/-!
# The transport liveness watchdog

The submit thread runs a watchdog that probes a stalled queue with a ping and
declares the transport dead when neither a completion nor the pong comes in time.
Its variables are shared with the complete thread, which writes them one after the
other, and with the sysfs attributes.  Time is counted in nanoseconds; how many jiffies
make a second depends on the kernel.
-/

namespace MxDriver

def nsecPerMsec : Nat := 1000000

def nsecPerSec : Nat := 1000000000

/-- `jiffies` at a moment, where `hz` of them make a second. -/
def jiffies (hz now : Nat) : UInt64 := UInt64.ofNat (now * hz / nsecPerSec)

def ktimeGetNs (now : Nat) : UInt64 := UInt64.ofNat now

/-- `time_after(a, b)`: the difference, read as a signed number, is negative. -/
def timeAfter (a b : UInt64) : Bool := decide (2 ^ 63 ≤ (b - a).toNat)

/-- `jiffies_to_msecs` of a 64-bit kernel: the ratio is in lowest terms, the product has 64
bits, and the quotient is rounded up and returned as an `unsigned int`. -/
def jiffiesToMsecs (hz : Nat) (count : UInt64) : UInt32 :=
  let common := Nat.gcd 1000 hz
  let product := (count * UInt64.ofNat (1000 / common)).toNat
  UInt32.ofNat ((product + hz / common - 1) / (hz / common))

/-- `enum mx_liveness_health`. -/
inductive LivenessHealth
  | unknown
  | alive
  | suspect
  | dead
  deriving DecidableEq, Repr

/-- Where the complete thread stands with the completion it has popped. -/
inductive Completing
  | idle
  | popped (pong : Bool)
  | stamped (pong : Bool)
  | revived (pong : Bool)
  | cleared
  deriving DecidableEq, Repr

/-- The part of the queue and of the device that the watchdog depends on. -/
structure LivenessQueue where
  now : Nat
  livenessEnable : Bool := false
  livenessStallMs : UInt32 := 1000
  livenessDeadMs : UInt32 := 5000
  waitCount : Int := 0
  zombieWaitCount : Int := 0
  lvHealth : LivenessHealth := .alive
  lvInflight : Bool := false
  lvSentNs : UInt64 := 0
  lvProgressJiffies : UInt64
  lvRttNs : UInt64 := 0
  /-- What the submit thread has sampled of `liveness_enable`. -/
  lvOn : Bool := false
  completing : Completing := .idle
  deriving DecidableEq, Repr

/-- `mx_queue_common_init`. -/
def LivenessQueue.start (hz now : Nat) : LivenessQueue where
  now := now
  lvProgressJiffies := jiffies hz now

namespace LivenessQueue

variable (hz : Nat) (queue : LivenessQueue)

def mxLivenessStalledMs : UInt32 :=
  let now := jiffies hz queue.now
  if timeAfter now queue.lvProgressJiffies then
    jiffiesToMsecs hz (now - queue.lvProgressJiffies)
  else 0

def outstanding : Int := queue.waitCount - queue.zombieWaitCount

/-- The sanitized `dead_ms`. -/
def deadMs : UInt32 := max queue.livenessDeadMs 2

/-- The sanitized `stall_ms`. -/
def stallMs : UInt32 := min (max queue.livenessStallMs 1) (queue.deadMs - 1)

/-- A probe is outstanding with no pong past the dead budget. -/
def PongOverdue : Prop :=
  queue.lvInflight = true ∧
    queue.deadMs.toNat * nsecPerMsec < (ktimeGetNs queue.now - queue.lvSentNs).toNat

/-- No completion for too long, and no probe in flight. -/
def NoCompletion : Prop :=
  queue.deadMs < queue.mxLivenessStalledMs hz ∧ queue.lvInflight = false

instance : Decidable queue.PongOverdue := inferInstanceAs (Decidable (_ ∧ _))

instance : Decidable (queue.NoCompletion hz) := inferInstanceAs (Decidable (_ ∧ _))

/-- The ping is pushed, and the time of that noted. -/
def pushPing : LivenessQueue := { queue with lvSentNs := ktimeGetNs queue.now }

def mxLivenessWatchdog (pushable : Bool) : LivenessQueue :=
  if queue.PongOverdue then
    let judged := if queue.lvHealth = .suspect then { queue with lvHealth := .dead } else queue
    if pushable then judged.pushPing else judged
  else if queue.outstanding ≤ 0 then queue
  else
    let judged := if queue.NoCompletion hz then { queue with lvHealth := .dead }
      else queue
    if queue.stallMs < queue.mxLivenessStalledMs hz ∧ queue.lvInflight = false ∧
        pushable = true then
      { judged.pushPing with
        lvInflight := true
        lvHealth := if judged.lvHealth = .alive then .suspect else judged.lvHealth }
    else judged

/-- The watchdog writes DEAD. -/
def SetsDead : Prop :=
  queue.PongOverdue ∧ queue.lvHealth = .suspect ∨
    ¬ queue.PongOverdue ∧ 0 < queue.outstanding ∧ queue.NoCompletion hz

instance : Decidable (queue.SetsDead hz) := inferInstanceAs (Decidable (_ ∨ _))

/-- The locked section of `liveness_enable_store`. -/
def livenessEnableStore (val : Bool) : LivenessQueue :=
  { queue with
    livenessEnable := val
    lvInflight := false
    lvRttNs := 0
    lvProgressJiffies := if val then jiffies hz queue.now
      else queue.lvProgressJiffies
    lvHealth := if val then .alive else .unknown }

/-- `mx_submit_handler` pushes one command of the list. -/
def submit (noCompletion : Bool) : LivenessQueue :=
  if noCompletion then queue
  else
    { queue with
      waitCount := queue.waitCount + 1
      lvProgressJiffies :=
        if queue.waitCount + 1 - queue.zombieWaitCount ≤ 1 then jiffies hz queue.now
        else queue.lvProgressJiffies }

end LivenessQueue

/-- The steps that touch the watchdog's variables.  The submit thread samples the flag
before it takes the lock, and pushes and runs the watchdog under the lock; the
complete thread works on one popped completion at a time. -/
inductive LivenessAction
  | advance (ns : Nat)
  | storeEnable (val : Bool)
  | storeStallMs (val : UInt32)
  | storeDeadMs (val : UInt32)
  | sampleEnable
  | push (noCompletion : Bool) (pushable : Bool)
  | tick (pushable : Bool)
  | pop (pong : Bool)
  | stamp
  | revive
  | clear
  | claim (found : Bool)
  | park
  | uncount
  | drain
  deriving DecidableEq, Repr

/-- One step.  Time passes at any moment, and transfers are parked as zombies and drained
again by other threads. -/
def livenessStep (hz : Nat) (queue : LivenessQueue) :
    LivenessAction → Option LivenessQueue
  | .advance ns => some { queue with now := queue.now + ns }
  | .storeEnable val => some (queue.livenessEnableStore hz val)
  | .storeStallMs val => some { queue with livenessStallMs := val }
  | .storeDeadMs val => some { queue with livenessDeadMs := val }
  | .sampleEnable => some { queue with lvOn := queue.livenessEnable }
  | .push noCompletion pushable =>
    -- a ping that is outstanding holds the submits back
    if (queue.lvOn = true ∧ queue.lvInflight = true) ∨ pushable = false then none
    else some (queue.submit hz noCompletion)
  | .tick pushable =>
    if queue.lvOn then some (queue.mxLivenessWatchdog hz pushable) else none
  | .pop pong =>
    if queue.completing = .idle then some { queue with completing := .popped pong }
    else none
  | .stamp =>
    match queue.completing with
    | .popped pong =>
      some { queue with
        lvProgressJiffies := jiffies hz queue.now
        completing := .stamped pong }
    | _ => none
  | .revive =>
    match queue.completing with
    | .stamped pong => some { queue with lvHealth := .alive, completing := .revived pong }
    | _ => none
  | .clear =>
    match queue.completing with
    | .revived true =>
      some { queue with
        lvInflight := false
        lvRttNs := if queue.lvInflight then ktimeGetNs queue.now - queue.lvSentNs
          else queue.lvRttNs
        completing := .idle }
    | .revived false => some { queue with lvInflight := false, completing := .cleared }
    | _ => none
  | .claim found =>
    -- a completion for an unknown transfer is only reported
    if queue.completing = .cleared then
      some { queue with
        waitCount := if found then queue.waitCount - 1 else queue.waitCount
        completing := .idle }
    else none
  | .park => some { queue with zombieWaitCount := queue.zombieWaitCount + 1 }
  | .uncount => some { queue with waitCount := queue.waitCount - 1 }
  | .drain => some { queue with zombieWaitCount := queue.zombieWaitCount - 1 }

end MxDriver
