import MxDriver.MailboxIndex
import MxDriver.TransitionSystem

/-!
# Sending through a mailbox

Three writers put words into a submission mailbox: the two ioctls, which send
a batch and a single word, and the submit thread of a first-revision queue,
which pushes commands of four words.  Each holds the mailbox's lock, tests for
room against the head it has cached, and reads the context from the device only
when the cache does not show enough.  The data is written before the tail is
advanced, and the tail is published last.  Meanwhile the device consumes words
up to the published tail.  The mailbox also keeps a record of the calls, which
they do not read: the one under way, and what each one that has returned
reported.
-/

namespace MxDriver

variable {ω : Type}

/-- Where the writer that holds the lock is. -/
inductive SendStage (ω : Type) where
  | idle
  /-- `ioctl_send_cmds` before its context read. -/
  | refreshing (words : List ω)
  /-- `ioctl_send_cmd_with_data` in the loop that waits for a free slot. -/
  | waiting (word : ω)
  /-- The words of a batch that have landed, and those that have not. -/
  | writing (done todo : List ω)
  /-- The tail has moved in the cache and is to be published. -/
  | advanced (batch : List ω)

/-- The words past the published tail that are in place. -/
def SendStage.inPlace : SendStage ω → List ω
  | .writing done _ => done
  | .advanced batch => batch
  | _ => []

/-- The words still to be written. -/
def SendStage.left : SendStage ω → List ω
  | .writing _ todo => todo
  | _ => []

/-- How far the cached tail is past the published one. -/
def SendStage.ahead : SendStage ω → Nat
  | .advanced batch => batch.length
  | _ => 0

/-- What a writer was asked to send. -/
inductive SendRequest (ω : Type) where
  | cmds (words : List ω)
  | cmdWithData (word : ω)
  | command (comm : Vector ω 4)

namespace SendRequest

def words : SendRequest ω → List ω
  | .cmds words => words
  | .cmdWithData word => [word]
  | .command comm => comm.toList

/-- `ioctl_send_cmds` may send the first words of its batch only; the others send what they
were asked to. -/
def Admits : SendRequest ω → List ω → Prop
  | .cmds words, batch => batch <+: words
  | .cmdWithData word, batch => batch = [word]
  | .command comm, batch => batch = comm.toList

end SendRequest

/-- A call that has returned, with the number of words it reported as sent, or none if it
failed. -/
structure FinishedSend (ω : Type) where
  request : SendRequest ω
  reported : Option Nat

/-- The words that the call reported as sent. -/
def FinishedSend.accepted (send : FinishedSend ω) : List ω :=
  send.request.words.take (send.reported.getD 0)

/-- A mailbox: the cached context, the data array, the tail last published to
the device, the words sent and consumed so far, and the record of the calls. -/
structure SendMailbox (ω : Type) where
  ctx : MboxContext
  stage : SendStage ω
  data : Nat → ω
  deviceTail : MboxIndex
  sent : List ω
  consumed : List ω
  call : Option (SendRequest ω)
  finished : List (FinishedSend ω)

namespace SendMailbox

variable (depth : Nat) (mbox : SendMailbox ω)

/-- A writer has taken the lock. -/
def begin (request : SendRequest ω) : SendMailbox ω :=
  { mbox with call := some request }

/-- The writer drops the lock and returns. -/
def finish (reported : Option Nat) : SendMailbox ω :=
  { mbox with
    stage := .idle
    call := none
    finished := mbox.finished ++ (mbox.call.map fun request => ⟨request, reported⟩).toList }

/-- The context as the device reports it. -/
def deviceContext : MboxContext where
  head := mboxIndexOf depth mbox.consumed.length
  tail := mbox.deviceTail

/-- `sq_mbox->ctx.head = ctx.head` after a context read. -/
def refreshHead : SendMailbox ω :=
  { mbox with ctx := { mbox.ctx with head := (mbox.deviceContext depth).head } }

/-- `mbox->ctx.u64 = ctx` -/
def refreshContext : SendMailbox ω :=
  { mbox with ctx := mbox.deviceContext depth }

/-- `ioctl_send_cmds` once it has its final count: nothing to do when no slot
is free, and otherwise at most the words asked for. -/
def admitCmds (words : List ω) : SendMailbox ω :=
  if getPushableCount depth mbox.ctx = 0 then mbox.finish (some 0)
  else { mbox with stage := .writing [] (words.take (getPushableCount depth mbox.ctx)) }

def ioctlSendCmds (words : List ω) : SendMailbox ω :=
  if getPushableCount depth mbox.ctx < words.length then
    { mbox with stage := .refreshing words }
  else mbox.admitCmds depth words

/-- One turn of the loop in `ioctl_send_cmd_with_data`. -/
def ioctlSendCmdWithData (word : ω) : SendMailbox ω :=
  if isFull mbox.ctx then { mbox with stage := .waiting word }
  else { mbox with stage := .writing [] [word] }

/-- `is_pushable` of the first revision, with the context it leaves. -/
def isPushable : SendMailbox ω × Bool :=
  if 4 * 2 ≤ getFreeSpace depth mbox.ctx then (mbox, true)
  else
    (mbox.refreshContext depth,
      decide (4 ≤ getFreeSpace depth (mbox.refreshContext depth).ctx))

/-- The submit thread's test and, if it holds, the start of the push. -/
def pushMxCommand (comm : Vector ω 4) : SendMailbox ω :=
  let (tested, pushable) := mbox.isPushable depth
  if pushable then { tested with stage := .writing [] comm.toList } else tested.finish none

/-- The next word of the batch lands in the data array. -/
def writeWord (done : List ω) (word : ω) (todo : List ω) : SendMailbox ω :=
  { mbox with
    data := Function.update mbox.data (getDataOffset mbox.ctx.tail / 8 + done.length) word
    stage := .writing (done ++ [word]) todo }

def advanceTail (batch : List ω) : SendMailbox ω :=
  { mbox with
    ctx := { mbox.ctx with tail := getNextIndex mbox.ctx.tail batch.length depth }
    stage := .advanced batch }

def publishTail (batch : List ω) : SendMailbox ω :=
  { mbox.finish (some batch.length) with
    deviceTail := mbox.ctx.tail
    sent := mbox.sent ++ batch }

/-- The device takes the word at its head. -/
def consume : SendMailbox ω :=
  { mbox with
    consumed := mbox.consumed ++
      [mbox.data (getDataOffset (mbox.deviceContext depth).head / 8)] }

end SendMailbox

inductive SendAction (ω : Type) where
  | sendCmds (words : List ω)
  | sendCmdWithData (word : ω)
  | pushMxCommand (comm : Vector ω 4)
  | initMbox
  | readContext
  | writeWord
  | advanceTail
  | publishTail
  /-- A context read or a data write fails and the call returns. -/
  | fail
  | consume

def sendStep (depth : Nat) (mbox : SendMailbox ω) : SendAction ω → Option (SendMailbox ω)
  | .sendCmds words =>
    match mbox.stage with
    | .idle => some ((mbox.begin (.cmds words)).ioctlSendCmds depth words)
    | _ => none
  | .sendCmdWithData word =>
    match mbox.stage with
    | .idle => some ((mbox.begin (.cmdWithData word)).ioctlSendCmdWithData word)
    | _ => none
  | .pushMxCommand comm =>
    match mbox.stage with
    | .idle => some ((mbox.begin (.command comm)).pushMxCommand depth comm)
    | _ => none
  | .initMbox =>
    match mbox.stage with
    | .idle => some (mbox.refreshContext depth)
    | _ => none
  | .readContext =>
    match mbox.stage with
    | .refreshing words => some ((mbox.refreshHead depth).admitCmds depth words)
    | .waiting word => some ((mbox.refreshHead depth).ioctlSendCmdWithData word)
    | _ => none
  | .writeWord =>
    match mbox.stage with
    | .writing done (word :: todo) => some (mbox.writeWord done word todo)
    | _ => none
  | .advanceTail =>
    match mbox.stage with
    | .writing done [] => some (mbox.advanceTail depth done)
    | _ => none
  | .publishTail =>
    match mbox.stage with
    | .advanced batch => some (mbox.publishTail batch)
    | _ => none
  | .fail =>
    match mbox.stage with
    | .refreshing _ | .waiting _ | .writing _ _ => some (mbox.finish none)
    | _ => none
  | .consume =>
    if isEmpty (mbox.deviceContext depth) then none else some (mbox.consume depth)

/-- A command of four words is pushed only to a ring of whole commands, at the
start of one. -/
def CommandAligned (depth : Nat) (mbox : SendMailbox ω) : SendAction ω → Prop
  | .pushMxCommand _ => 4 ≤ depth ∧ 4 ∣ mbox.ctx.tail.index.toNat
  | _ => True

instance (depth : Nat) (mbox : SendMailbox ω) :
    ∀ action, Decidable (CommandAligned depth mbox action)
  | .pushMxCommand _ => inferInstanceAs (Decidable (4 ≤ depth ∧ 4 ∣ mbox.ctx.tail.index.toNat))
  | .sendCmds _ | .sendCmdWithData _ | .initMbox | .readContext | .writeWord | .advanceTail
  | .publishTail | .fail | .consume => .isTrue trivial

/-- A mailbox as it is registered: the context has just been read, and the
ring may hold words that were sent before. -/
structure Registered (depth : Nat) (mbox : SendMailbox ω) : Prop where
  idle : mbox.stage = .idle
  uncalled : mbox.call = none
  unfinished : mbox.finished = []
  ctx_eq : mbox.ctx = mbox.deviceContext depth
  deviceTail_eq : mbox.deviceTail = mboxIndexOf depth mbox.sent.length
  consumed_prefix : mbox.consumed <+: mbox.sent
  near : mbox.sent.length ≤ mbox.consumed.length + depth
  holds : RingHolds depth mbox.data mbox.sent mbox.consumed.length

end MxDriver
