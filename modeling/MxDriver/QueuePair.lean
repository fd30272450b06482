import MxDriver.RingBuffer
import MxDriver.TransitionSystem

/-!
# The submission and completion rings of a queue pair

A second-revision queue is two rings of `depth` entries in memory shared with
the device, and a doorbell register for each.  The submit thread copies
commands into the submission ring and rings once for a batch; the complete
thread copies completions out, learns from each how far the device has fetched,
and rings once it finds no more.  The two threads hold no lock in common: the
submission head is written by one and read by the other.

The pointers of the source are 16 bits wide and the configured depths are 32
and 256, so the pointers stay below the depth and are numbers here.
-/

namespace MxDriver

variable {α β : Type}

/-- A completion entry.  `payload` is all that the rings do not look at; the
phase is the low bit of the status. -/
structure MxCompletion (β : Type) where
  payload : β
  sqHead : Nat
  phase : Bool
  deriving DecidableEq

/-- The fields of `struct mx_queue_v2` that the ring operations use. -/
structure MxQueueV2 (α β : Type) where
  sqes : Nat → α
  cqes : Nat → MxCompletion β
  lastSqTail : Nat
  lastCqHead : Nat
  sqTail : Nat
  sqHead : Nat
  cqHead : Nat
  cqPhase : Bool

namespace MxQueueV2

/-- `configure_queue` on a zeroed queue: both rings are cleared. -/
def configureQueue (zeroCommand : α) (zeroPayload : β) : MxQueueV2 α β where
  sqes _ := zeroCommand
  cqes _ := { payload := zeroPayload, sqHead := 0, phase := false }
  lastSqTail := 0
  lastCqHead := 0
  sqTail := 0
  sqHead := 0
  cqHead := 0
  cqPhase := true

def isPushable (depth : Nat) (queue : MxQueueV2 α β) : Bool :=
  (queue.sqTail + 1) % depth != queue.sqHead

/-- The phase test of `is_popable`. -/
def phaseMatches (queue : MxQueueV2 α β) : Bool :=
  (queue.cqes queue.cqHead).phase == queue.cqPhase

/-- The entry is looked at only while a command or a probe is outstanding. -/
def isPopable (queue : MxQueueV2 α β) (waitCount : Int) (lvInflight : Bool) : Bool :=
  if waitCount ≤ 0 && !lvInflight then false else queue.phaseMatches

def updateSqDoorbell (depth : Nat) (queue : MxQueueV2 α β) : MxQueueV2 α β :=
  { queue with sqTail := wrapSucc depth queue.sqTail }

def updateCqDoorbell (depth : Nat) (queue : MxQueueV2 α β) : MxQueueV2 α β :=
  if queue.cqHead + 1 = depth then { queue with cqHead := 0, cqPhase := !queue.cqPhase }
  else { queue with cqHead := queue.cqHead + 1 }

end MxQueueV2

/-- Where the submit thread is between its test and the end of the push. -/
inductive PushStage (α : Type) where
  | idle
  | admitted (comm : α)
  | copied (comm : α)

/-- Where the complete thread is between its test and the end of the pop. -/
inductive PopStage (β : Type) where
  | idle
  | admitted
  | copied (cmpl : MxCompletion β)
  | headPublished (cmpl : MxCompletion β)

/-- A queue with its two threads, the device's doorbell registers, and what has
passed through each end of the two rings so far. -/
structure QueuePair (α β : Type) where
  queue : MxQueueV2 α β
  pushing : PushStage α
  popping : PopStage β
  sqDoorbell : Nat
  cqDoorbell : Nat
  pushed : List α
  fetched : List α
  posted : List (MxCompletion β)
  popped : List (MxCompletion β)

namespace QueuePair

def start (zeroCommand : α) (zeroPayload : β) : QueuePair α β where
  queue := .configureQueue zeroCommand zeroPayload
  pushing := .idle
  popping := .idle
  sqDoorbell := 0
  cqDoorbell := 0
  pushed := []
  fetched := []
  posted := []
  popped := []

variable (depth : Nat) (pair : QueuePair α β)

/-- The slot the device fetches next. -/
def fetchSlot : Nat :=
  pair.fetched.length % depth

/-- The slot the device posts to next. -/
def postSlot : Nat :=
  pair.posted.length % depth

/-- The entry the device posts: its fetch head as it stands, and a phase bit
that starts at one and flips on every lap. -/
def postedEntry (payload : β) : MxCompletion β where
  payload := payload
  sqHead := pair.fetchSlot depth
  phase := !oddLap depth pair.posted.length

/-- The doorbell is written only when the tail is not the last one rung. -/
def ringSqDoorbell : QueuePair α β :=
  if pair.queue.lastSqTail = pair.queue.sqTail then pair
  else { pair with
    sqDoorbell := pair.queue.sqTail
    queue := { pair.queue with lastSqTail := pair.queue.sqTail } }

def ringCqDoorbell : QueuePair α β :=
  if pair.queue.lastCqHead = pair.queue.cqHead then pair
  else { pair with
    cqDoorbell := pair.queue.cqHead
    queue := { pair.queue with lastCqHead := pair.queue.cqHead } }

/-- The memory of the submission ring after `push_mx_command` copied. -/
def copyCommand (comm : α) : QueuePair α β :=
  { pair with
    queue := { pair.queue with
      sqes := Function.update pair.queue.sqes pair.queue.sqTail comm }
    pushing := .copied comm }

def advanceTail (comm : α) : QueuePair α β :=
  { pair with
    queue := pair.queue.updateSqDoorbell depth
    pushing := .idle
    pushed := pair.pushed ++ [comm] }

def publishHead (cmpl : MxCompletion β) : QueuePair α β :=
  { pair with
    queue := { pair.queue with sqHead := cmpl.sqHead }
    popping := .headPublished cmpl }

def advanceHead (cmpl : MxCompletion β) : QueuePair α β :=
  { pair with
    queue := pair.queue.updateCqDoorbell depth
    popping := .idle
    popped := pair.popped ++ [cmpl] }

/-- The device takes the next command from the ring. -/
def fetch : QueuePair α β :=
  { pair with fetched := pair.fetched ++ [pair.queue.sqes (pair.fetchSlot depth)] }

/-- The device writes the next completion into the ring. -/
def post (payload : β) : QueuePair α β :=
  { pair with
    queue := { pair.queue with
      cqes := Function.update pair.queue.cqes (pair.postSlot depth)
        (pair.postedEntry depth payload) }
    posted := pair.posted ++ [pair.postedEntry depth payload] }

end QueuePair

/-- The steps of the submit thread, of the complete thread and of the device. -/
inductive QueueAction (α β : Type) where
  | admitPush (comm : α)
  | copyCommand
  | advanceTail
  | ringSqDoorbell
  | admitPop (waitCount : Int) (lvInflight : Bool)
  | copyCompletion
  | publishHead
  | advanceHead
  | ringCqDoorbell
  | fetch
  | post (payload : β)

/-- One step.  The device fetches up to the rung tail and keeps one slot of
the completion ring free behind the rung head. -/
def queueStep (depth : Nat) (pair : QueuePair α β) :
    QueueAction α β → Option (QueuePair α β)
  | .admitPush comm =>
    match pair.pushing with
    | .idle =>
      if pair.queue.isPushable depth then some { pair with pushing := .admitted comm }
      else none
    | _ => none
  | .copyCommand =>
    match pair.pushing with
    | .admitted comm => some (pair.copyCommand comm)
    | _ => none
  | .advanceTail =>
    match pair.pushing with
    | .copied comm => some (pair.advanceTail depth comm)
    | _ => none
  | .ringSqDoorbell =>
    match pair.pushing with
    | .idle => some pair.ringSqDoorbell
    | _ => none
  | .admitPop waitCount lvInflight =>
    match pair.popping with
    | .idle =>
      if pair.queue.isPopable waitCount lvInflight then
        some { pair with popping := .admitted }
      else none
    | _ => none
  | .copyCompletion =>
    match pair.popping with
    | .admitted =>
      some { pair with popping := .copied (pair.queue.cqes pair.queue.cqHead) }
    | _ => none
  | .publishHead =>
    match pair.popping with
    | .copied cmpl => some (pair.publishHead cmpl)
    | _ => none
  | .advanceHead =>
    match pair.popping with
    | .headPublished cmpl => some (pair.advanceHead depth cmpl)
    | _ => none
  | .ringCqDoorbell =>
    match pair.popping with
    | .idle => some pair.ringCqDoorbell
    | _ => none
  | .fetch =>
    if pair.fetchSlot depth ≠ pair.sqDoorbell then some (pair.fetch depth) else none
  | .post payload =>
    if (pair.postSlot depth + 1) % depth ≠ pair.cqDoorbell then
      some (pair.post depth payload)
    else none

end MxDriver
