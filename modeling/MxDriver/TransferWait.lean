import MxDriver.Liveness
import MxDriver.SubmitCall

/-!
# The wait for a transfer

`mx_transfer_wait` sleeps for one chunk after the other until the transfer completes, a
signal comes, the transport is found dead or the ceiling is reached.  When it gives up it
takes the transfer back from the submission list or, if the submit thread was faster, lets
it have one more second and parks it.  The submit thread, the complete thread, the
watchdog and the sender of the signal work meanwhile, and the clock runs on.
-/

namespace MxDriver

/-- `time_before(a, b)`. -/
def timeBefore (a b : UInt64) : Bool := timeAfter b a

/-- `MAX_JIFFY_OFFSET`. -/
def maxJiffyOffset : Nat := 2 ^ 62 - 2

/-- `msecs_to_jiffies`, where `HZ` divides 1000.  It takes a negative `int` for an infinite
time. -/
def msecsToJiffies (msPerJiffy : Nat) (ms : UInt32) : UInt64 :=
  if 2 ^ 31 ≤ ms.toNat then UInt64.ofNat maxJiffyOffset
  else UInt64.ofNat ((ms.toNat + msPerJiffy - 1) / msPerJiffy)

def livenessWaitChunkMinMsec : UInt32 := 50

def livenessMaxMultCeil : UInt32 := 1000

/-- The parameters, as `mx_transfer_wait` finds them when it is called. -/
structure WaitSettings where
  msPerJiffy : Nat
  timeoutMs : UInt32
  livenessEnable : Bool
  livenessStallMs : UInt32
  livenessMaxMult : UInt32
  deriving DecidableEq, Repr

namespace WaitSettings

variable (settings : WaitSettings)

def lvOn : Bool := settings.livenessEnable

def mult : UInt32 :=
  if settings.lvOn then min (max settings.livenessMaxMult 1) livenessMaxMultCeil else 1

def chunkMs : UInt32 :=
  if settings.lvOn then
    max (min settings.livenessStallMs settings.timeoutMs) livenessWaitChunkMinMsec
  else settings.timeoutMs

/-- The jiffies of one sleep of the loop. -/
def chunk : Nat := (msecsToJiffies settings.msPerJiffy settings.chunkMs).toNat

/-- The jiffies of the second that a transfer in the device gets at the end. -/
def grace : Nat := (msecsToJiffies settings.msPerJiffy 1000).toNat

def hardDeadline (start : Nat) : UInt64 :=
  UInt64.ofNat start +
    msecsToJiffies settings.msPerJiffy settings.timeoutMs * settings.mult.toUInt64

/-- The hard deadline as it is meant, on a clock that never wraps. -/
def ceiling (start : Nat) : Nat :=
  start + (msecsToJiffies settings.msPerJiffy settings.timeoutMs).toNat * settings.mult.toNat

end WaitSettings

/-- Where `mx_transfer_wait` stands: in the sleep of the loop, after it ran out, before the
condition of the loop, after the loop without a completion, before
`mx_transfer_remove_from_sq`, in the last sleep, and after the return. -/
inductive WaitStage
  | waiting (expiry : Nat)
  | expired
  | looping
  | gaveUp (interrupted : Bool)
  | removing (dead : Bool) (failRet : Errno)
  | lateWaiting (expiry : Nat) (failRet : Errno)
  | returned (answer : WaitEnd)
  deriving DecidableEq, Repr

/-- The waiter with what it depends on.  `now` counts the jiffies without an end, and
`since` is the moment the waiter came to its stage.  The last four fields remember what has
happened: whether the command was pushed, a signal was pending or the transport was dead at
any time of the wait, and since when it has been dead. -/
structure TransferWait where
  now : Nat
  since : Nat
  stage : WaitStage
  onSq : Bool
  done : Bool
  signal : Bool
  lvHealth : LivenessHealth
  pushed : Bool
  signalled : Bool
  wasDead : Bool
  deadSince : Option Nat
  deriving DecidableEq, Repr

inductive WaitAction
  | tick
  | push
  | complete
  | signal (pending : Bool)
  | setHealth (health : LivenessHealth)
  | wake
  | interrupt
  | run
  deriving DecidableEq, Repr

namespace TransferWait

variable (settings : WaitSettings) (start : Nat) (wait : TransferWait)

/-- The waiter calls `wait_for_completion_interruptible_timeout` for the first time, with
the command on the submission list or already pushed. -/
def begin (onSq signal : Bool) (lvHealth : LivenessHealth) : TransferWait where
  now := start
  since := start
  stage := .waiting (start + settings.chunk)
  onSq := onSq
  done := false
  signal := signal
  lvHealth := lvHealth
  pushed := !onSq
  signalled := signal
  wasDead := decide (lvHealth = .dead)
  deadSince := if lvHealth = .dead then some start else none

def enter (stage : WaitStage) : TransferWait := { wait with stage := stage, since := wait.now }

def setHealth (health : LivenessHealth) : TransferWait :=
  { wait with
    lvHealth := health
    wasDead := wait.wasDead || decide (health = .dead)
    deadSince :=
      if health = .dead then
        if wait.lvHealth = .dead then wait.deadSince else some wait.now
      else none }

/-- `dead`, as the waiter computes it after the loop. -/
def dead : Bool := settings.lvOn && decide (wait.lvHealth = .dead)

def failRet (interrupted : Bool) : Errno :=
  if wait.dead settings then .eio else if interrupted then .eintr else .etimedout

/-- A sleep ends with the completion, or when its time is over. -/
def wake : Option TransferWait :=
  match wait.stage with
  | .waiting expiry =>
    if wait.done then some (wait.enter (.returned .completed))
    else if expiry ≤ wait.now then some (wait.enter .expired)
    else none
  | .lateWaiting expiry failRet =>
    if wait.done then some (wait.enter (.returned .completed))
    else if expiry ≤ wait.now then some (wait.enter (.returned (.parked failRet)))
    else none
  | _ => none

/-- Only the sleep of the loop is interruptible. -/
def interrupt : Option TransferWait :=
  match wait.stage with
  | .waiting _ =>
    if wait.done = false ∧ wait.signal = true then some (wait.enter (.gaveUp true)) else none
  | _ => none

/-- The statements between the sleeps. -/
def run : Option TransferWait :=
  match wait.stage with
  | .expired =>
    if settings.lvOn = false then some (wait.enter (.gaveUp false))
    else if wait.lvHealth = .dead then some (wait.enter (.gaveUp false))
    else some (wait.enter .looping)
  | .looping =>
    if timeBefore (UInt64.ofNat wait.now) (settings.hardDeadline start) then
      some (wait.enter (.waiting (wait.now + settings.chunk)))
    else some (wait.enter (.gaveUp false))
  | .gaveUp interrupted =>
    some (wait.enter (.removing (wait.dead settings) (wait.failRet settings interrupted)))
  | .removing dead failRet =>
    if wait.onSq then some { wait.enter (.returned (.recovered failRet)) with onSq := false }
    else if dead then some (wait.enter (.returned (.parked failRet)))
    else some (wait.enter (.lateWaiting (wait.now + settings.grace) failRet))
  | _ => none

def step (wait : TransferWait) : WaitAction → Option TransferWait
  | .tick => some { wait with now := wait.now + 1 }
  | .push => if wait.onSq then some { wait with onSq := false, pushed := true } else none
  | .complete =>
    if wait.pushed = true ∧ wait.done = false then some { wait with done := true } else none
  | .signal pending =>
    some { wait with signal := pending, signalled := wait.signalled || pending }
  | .setHealth health => some (wait.setHealth health)
  | .wake => wait.wake
  | .interrupt => wait.interrupt
  | .run => wait.run settings start

end TransferWait

end MxDriver
