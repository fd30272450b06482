import MxDriver.ErrorNumbers
import MxDriver.MailboxIndex
import MxDriver.TransitionSystem

/-!
# Receiving from a mailbox

The device posts words to a completion mailbox, and the receiving ioctl takes
a batch of them: it reads the context from the device, moves the cached head
past the batch, reads the words into the caller's buffer, and writes the head
back.  Each of the three device operations can fail, and only the first is
checked.
-/

namespace MxDriver

variable {ω : Type}

/-- A call that has returned: its code, the words counted as delivered in the
caller's buffer, whether its data read failed, and the cached head around it. -/
structure RecvCall (ω : Type) where
  ret : Ret
  words : List ω
  dataReadFailed : Bool
  headBefore : MboxIndex
  headAfter : MboxIndex
  deriving DecidableEq

/-- Where the call that holds the lock is.  `copied` says whether the reply can
be copied to the caller at the end: that is after the lock is released, but only
the call's own return code depends on it. -/
inductive RecvStage (ω : Type) where
  | idle
  | locked (nrCmds : Nat) (copied : Bool)
  /-- The head is past the batch and the data read is next. -/
  | counted (slot count : Nat) (headBefore : MboxIndex) (copied : Bool)
  /-- The batch is in the caller's buffer, or what a failed read left there. -/
  | filled (words : List ω) (failed : Bool) (headBefore : MboxIndex) (copied : Bool)

/-- A mailbox: the cached context, the data array, the head last written to
the device, the words posted, those delivered by calls that returned 0, and the
calls themselves. -/
structure RecvMailbox (ω : Type) where
  ctx : MboxContext
  stage : RecvStage ω
  data : Nat → ω
  deviceHead : MboxIndex
  posted : List ω
  delivered : List ω
  calls : List (RecvCall ω)

namespace RecvMailbox

variable (depth : Nat) (mbox : RecvMailbox ω)

/-- The context as the device reports it. -/
def deviceContext : MboxContext where
  head := mbox.deviceHead
  tail := mboxIndexOf depth mbox.posted.length

/-- A call returns, with its words delivered if the code is 0. -/
def finish (ret : Ret) (words : List ω) (failed : Bool) (headBefore : MboxIndex) : RecvMailbox ω :=
  { mbox with
    stage := .idle
    delivered := if ret = none then mbox.delivered ++ words else mbox.delivered
    calls := mbox.calls ++ [⟨ret, words, failed, headBefore, mbox.ctx.head⟩] }

/-- The return code of a call that got as far as its reply. -/
def replyCode (copied : Bool) : Ret :=
  if copied then none else some .efault

/-- The checks of `ioctl_recv_cmds` before it takes the lock. -/
def ioctlRecvCmds (nrCmds : Nat) (copied : Bool) : RecvMailbox ω :=
  if nrCmds = 0 then mbox.finish (some .einval) [] false mbox.ctx.head
  else { mbox with stage := .locked nrCmds copied }

/-- The cached context once the tail is the device's. -/
def refreshedContext : MboxContext :=
  { mbox.ctx with tail := (mbox.deviceContext depth).tail }

/-- The words a call takes, given the context it has just read. -/
def batchCount (nrCmds : Nat) : Nat :=
  min (getPopableCount depth (mbox.refreshedContext depth)) nrCmds

/-- After the context read: an empty mailbox ends the call with no words, and
otherwise the head moves past the batch. -/
def countCmds (nrCmds : Nat) (copied : Bool) : RecvMailbox ω :=
  let refreshed := { mbox with ctx := mbox.refreshedContext depth }
  if isEmpty refreshed.ctx then refreshed.finish (replyCode copied) [] false mbox.ctx.head
  else
    { mbox with
      ctx := { refreshed.ctx with
        head := getNextIndex mbox.ctx.head (mbox.batchCount depth nrCmds) depth }
      stage := .counted (getDataOffset mbox.ctx.head / 8) (mbox.batchCount depth nrCmds)
        mbox.ctx.head copied }

def readContext (nrCmds : Nat) (copied success : Bool) : RecvMailbox ω :=
  if success then mbox.countCmds depth nrCmds copied
  else mbox.finish (some .eintr) [] false mbox.ctx.head

/-- The head is written back, whose failure is not looked at, and the call
replies. -/
def writeHead (words : List ω) (failed : Bool) (headBefore : MboxIndex)
    (copied success : Bool) : RecvMailbox ω :=
  { mbox with deviceHead := if success then mbox.ctx.head else mbox.deviceHead }.finish
    (replyCode copied) words failed headBefore

/-- The words in `count` slots from `slot` on. -/
def readData (slot count : Nat) : List ω :=
  (List.range count).map fun index => mbox.data (slot + index)

/-- The device posts a word at its tail. -/
def post (word : ω) : RecvMailbox ω :=
  { mbox with
    data := Function.update mbox.data
      (getDataOffset (mbox.deviceContext depth).tail / 8) word
    posted := mbox.posted ++ [word] }

end RecvMailbox

inductive RecvAction (ω : Type) where
  | recvCmds (nrCmds : Nat) (copied : Bool)
  | readContext (success : Bool)
  | readData
  /-- The data read fails and leaves `remains` in the caller's buffer. -/
  | failData (remains : List ω)
  | writeHead (success : Bool)
  | post (word : ω)

def recvStep (depth : Nat) (mbox : RecvMailbox ω) : RecvAction ω → Option (RecvMailbox ω)
  | .recvCmds nrCmds copied =>
    match mbox.stage with
    | .idle => some (mbox.ioctlRecvCmds nrCmds copied)
    | _ => none
  | .readContext success =>
    match mbox.stage with
    | .locked nrCmds copied => some (mbox.readContext depth nrCmds copied success)
    | _ => none
  | .readData =>
    match mbox.stage with
    | .counted slot count headBefore copied =>
      some { mbox with stage := .filled (mbox.readData slot count) false headBefore copied }
    | _ => none
  | .failData remains =>
    match mbox.stage with
    | .counted _ count headBefore copied =>
      if remains.length = count then
        some { mbox with stage := .filled remains true headBefore copied }
      else none
    | _ => none
  | .writeHead success =>
    match mbox.stage with
    | .filled words failed headBefore copied =>
      some (mbox.writeHead words failed headBefore copied success)
    | _ => none
  | .post word =>
    if isFull (mbox.deviceContext depth) then none else some (mbox.post depth word)

/-- Every command is delivered once: the words of the calls that returned 0 are
the first words posted, and a call whose data read failed returned an error and
left the head where it was. -/
def DeliversOnce (mbox : RecvMailbox ω) : Prop :=
  mbox.delivered <+: mbox.posted ∧
    ∀ call ∈ mbox.calls, call.dataReadFailed = true →
      call.ret ≠ none ∧ call.headAfter = call.headBefore

/-- The data read succeeds, and the reply can be copied to the caller. -/
def DataReadLands : RecvAction ω → Prop
  | .failData _ => False
  | .recvCmds _ copied => copied = true
  | _ => True

instance : ∀ action : RecvAction ω, Decidable (DataReadLands action)
  | .failData _ => .isFalse id
  | .recvCmds _ copied => inferInstanceAs (Decidable (copied = true))
  | .readContext _ | .readData | .writeHead _ | .post _ => .isTrue trivial

/-- A mailbox as it is registered, with any words already taken. -/
structure RecvRegistered (depth : Nat) (mbox : RecvMailbox ω) : Prop where
  idle : mbox.stage = .idle
  head_eq : mbox.ctx.head = mbox.deviceHead
  deviceHead_eq : mbox.deviceHead = mboxIndexOf depth mbox.delivered.length
  delivered_prefix : mbox.delivered <+: mbox.posted
  near : mbox.posted.length ≤ mbox.delivered.length + depth
  holds : RingHolds depth mbox.data mbox.posted mbox.delivered.length
  fresh : mbox.calls = []

end MxDriver
