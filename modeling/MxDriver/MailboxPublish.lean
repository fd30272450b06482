import MxDriver.MailboxContext

/-!
# What a send reports

Both send ioctls chain device operations that can fail around the update of the cached
tail.  They check the context read and whether the data write was accepted, but not the
write of the tail.  Neither write is waited for: one that was accepted can still be taken
back from the submission list, when it has waited too long or the transport is dead, and
the worker that waits for it has nobody to tell.  So a call can report success while the
device has the old tail, or a new one without its data.
-/

namespace MxDriver

/-- A submission mailbox with the tail that the device has once every write has come to its
end. -/
structure SqMbox where
  ctx : MboxContext
  depth : Nat
  deviceTail : MboxIndex
  deriving DecidableEq, Repr

/-- The device operations of a send on its mailbox. -/
inductive MboxOperation
  | contextRead | dataWrite | tailWrite
  deriving DecidableEq, Repr

/-- The mailbox after a call, what the call returned, and the operations that failed. -/
structure SendResult where
  mbox : Option SqMbox
  ret : Ret
  failed : List MboxOperation
  deriving DecidableEq, Repr

/-- How a write that is not waited for ends: it is refused, or it is queued and the call
returns its size, and later it lands or is lost. -/
inductive NowaitWrite
  | refused (error : Errno)
  | accepted (written : Nat) (lands : Bool)
  deriving DecidableEq, Repr

def NowaitWrite.lands : NowaitWrite → Bool
  | refused _ => false
  | accepted _ lands => lands

/-- `write_data_to_device`, which refuses an empty write. -/
def writeDataToDevice (bytes : Nat) (outcome : NowaitWrite) : NowaitWrite :=
  if bytes = 0 then .refused .einval else outcome

/-- The error that a send returns for a data write, if the write was refused or fell
short. -/
def writeError (bytes : Nat) (outcome : NowaitWrite) : Ret :=
  match writeDataToDevice bytes outcome with
  | .refused error => some error
  | .accepted written _ => if written < bytes then some .eio else none

/-- A call that returns before it has touched the mailbox. -/
def SendResult.refuse (sqMbox : Option SqMbox) (error : Errno) : SendResult :=
  ⟨sqMbox, some error, []⟩

namespace SqMbox

/-- `sq_mbox->ctx.head = ctx.head` -/
def setHead (mbox : SqMbox) (head : MboxIndex) : SqMbox :=
  { mbox with ctx := { mbox.ctx with head := head } }

/-- The tail is advanced in the cache, and on the device if its write lands.  The call
ignores what the write returns. -/
def advance (mbox : SqMbox) (count : Nat) (tailWrite : NowaitWrite) : SqMbox :=
  let tail := getNextIndex mbox.ctx.tail count mbox.depth
  { mbox with
    ctx := { mbox.ctx with tail := tail }
    deviceTail := if tailWrite.lands then tail else mbox.deviceTail }

/-- The data write of `count` words, and then the tail; `ret` is returned if the data write
was accepted. -/
def writeBatch (mbox : SqMbox) (count : Nat) (dataWrite tailWrite : NowaitWrite) (ret : Ret) :
    SendResult :=
  match writeError (8 * count) dataWrite with
  | some error => ⟨some mbox, some error, [.dataWrite]⟩
  | none =>
    ⟨some (mbox.advance count tailWrite), ret,
      (if dataWrite.lands then [] else [.dataWrite]) ++
        if tailWrite.lands then [] else [.tailWrite]⟩

end SqMbox

/-- `struct mx_ioctl_cmds`: whether `cmds` is set, and the number of commands. -/
structure CmdsRequest where
  cmds : Bool
  nrCmds : Nat

/-- How the device operations of `ioctl_send_cmds` end, and whether the reply can be
copied. -/
structure CmdsOutcomes where
  read : CtxRead
  dataWrite : NowaitWrite
  tailWrite : NowaitWrite
  copied : Bool

namespace SqMbox

/-- `ioctl_send_cmds` once it has its context: at most the words asked for. -/
def sendCounted (mbox : SqMbox) (nrCmds : Nat) (outcomes : CmdsOutcomes) : SendResult :=
  let ret : Ret := if outcomes.copied then none else some .efault
  let count := getPushableCount mbox.depth mbox.ctx
  if count = 0 then ⟨some mbox, ret, []⟩
  else mbox.writeBatch (min count nrCmds) outcomes.dataWrite outcomes.tailWrite ret

def sendCmds (mbox : SqMbox) (nrCmds : Nat) (outcomes : CmdsOutcomes) : SendResult :=
  if getPushableCount mbox.depth mbox.ctx < nrCmds then
    match outcomes.read.head with
    | none => ⟨some mbox, some .eintr, [.contextRead]⟩
    | some head => (mbox.setHead head).sendCounted nrCmds outcomes
  else mbox.sendCounted nrCmds outcomes

end SqMbox

/-- `sqMbox` is what `get_sq_mbox` returns. -/
def ioctlSendCmds (sqMbox : Option SqMbox) (request : Option CmdsRequest)
    (outcomes : CmdsOutcomes) : SendResult :=
  match request, sqMbox with
  | none, _ => .refuse sqMbox .efault
  | some _, none => .refuse sqMbox .einval
  | some request, some mbox =>
    if request.cmds then mbox.sendCmds request.nrCmds outcomes else .refuse sqMbox .einval

/-- `struct mx_ioctl_cmd_with_data`: whether `cmd` is set, and whether there is a
payload. -/
structure CmdWithDataRequest where
  cmd : Bool
  payload : Bool

structure CmdWithDataOutcomes where
  payloadWrite : NowaitWrite
  reads : List CtxRead
  dataWrite : NowaitWrite
  tailWrite : NowaitWrite

namespace SqMbox

/-- The loop that waits for a free slot.  It ends with an error or a free slot; `none` if
the reads so far do not end it. -/
def waitForSlot (mbox : SqMbox) : List CtxRead → SqMbox × Option Ret
  | [] => (mbox, if isFull mbox.ctx then none else some none)
  | read :: reads =>
    if isFull mbox.ctx then
      match read.head with
      | none => (mbox, some (some .eintr))
      | some head => (mbox.setHead head).waitForSlot reads
    else (mbox, some none)

def sendCmd (mbox : SqMbox) (outcomes : CmdWithDataOutcomes) : Option SendResult :=
  match mbox.waitForSlot outcomes.reads with
  | (_, none) => none
  | (waited, some (some error)) => some ⟨some waited, some error, [.contextRead]⟩
  | (waited, some none) => some (waited.writeBatch 1 outcomes.dataWrite outcomes.tailWrite none)

end SqMbox

/-- The call, unless it still waits for a slot.  A payload that is written in part goes
on. -/
def ioctlSendCmdWithData (sqMbox : Option SqMbox) (request : Option CmdWithDataRequest)
    (outcomes : CmdWithDataOutcomes) : Option SendResult :=
  match request, sqMbox with
  | none, _ => some (.refuse sqMbox .efault)
  | some _, none => some (.refuse sqMbox .einval)
  | some request, some mbox =>
    if request.cmd then
      match request.payload, outcomes.payloadWrite with
      | true, .refused error => some (.refuse sqMbox error)
      | _, _ => mbox.sendCmd outcomes
    else some (.refuse sqMbox .einval)

/-- Success means that the device has the cached tail, and after a failed operation the
call reports an error and has left the cached tail. -/
def SendResult.Faithful (before : Option SqMbox) (result : SendResult) : Prop :=
  (result.ret = none → ∀ mbox ∈ result.mbox, mbox.deviceTail = mbox.ctx.tail) ∧
    (result.failed ≠ [] →
      result.ret ≠ none ∧ result.mbox.map (·.ctx.tail) = before.map (·.ctx.tail))

/-- If the data write is accepted, both writes land. -/
def WritesLand (count : Nat) (dataWrite tailWrite : NowaitWrite) : Prop :=
  writeError (8 * count) dataWrite = none → dataWrite.lands = true ∧ tailWrite.lands = true

/-- The writes of a call that comes to them land, and a call that finds no slot starts with
the cached tail on the device. -/
def CmdsPublished (sqMbox : Option SqMbox) (request : Option CmdsRequest)
    (outcomes : CmdsOutcomes) : Prop :=
  ∀ mbox ∈ sqMbox, ∀ commands ∈ request, commands.cmds = true →
    ∀ counted ∈
        (if getPushableCount mbox.depth mbox.ctx < commands.nrCmds then
          outcomes.read.head.map mbox.setHead
        else some mbox),
      if getPushableCount counted.depth counted.ctx = 0 then
        outcomes.copied = true → mbox.deviceTail = mbox.ctx.tail
      else
        WritesLand (min (getPushableCount counted.depth counted.ctx) commands.nrCmds)
          outcomes.dataWrite outcomes.tailWrite

/-- The writes of a call that comes to them land. -/
def CmdWithDataPublished (sqMbox : Option SqMbox) (request : Option CmdWithDataRequest)
    (outcomes : CmdWithDataOutcomes) : Prop :=
  ∀ mbox ∈ sqMbox, ∀ command ∈ request, command.cmd = true →
    (command.payload = true → ∃ written lands, outcomes.payloadWrite = .accepted written lands) →
      (mbox.waitForSlot outcomes.reads).2 = some none →
        WritesLand 1 outcomes.dataWrite outcomes.tailWrite

theorem getNextIndex_ne {count : Nat} (some : count ≠ 0) (last : MboxIndex) (depth : Nat) :
    getNextIndex last count depth ≠ last := by
  intro same
  by_cases wraps : (getNextIndex last count depth).index ≤ last.index
  · have flips : (getNextIndex last count depth).phase = !last.phase := if_pos ⟨some, wraps⟩
    rw [same] at flips
    simp at flips
  · rw [same] at wraps
    exact wraps (BitVec.le_refl _)

theorem ne_zero_of_writeError {count : Nat} {dataWrite : NowaitWrite}
    (accepted : writeError (8 * count) dataWrite = none) : count ≠ 0 := by
  rintro rfl
  cases accepted

theorem SendResult.faithful_refuse (sqMbox : Option SqMbox) (error : Errno) :
    (refuse sqMbox error).Faithful sqMbox := ⟨nofun, fun failed => (failed rfl).elim⟩

namespace SqMbox

theorem faithful_failed {before mbox : SqMbox} (same : mbox.ctx.tail = before.ctx.tail)
    (error : Errno) (failed : List MboxOperation) :
    SendResult.Faithful (some before) ⟨some mbox, some error, failed⟩ :=
  ⟨nofun, fun _ => ⟨nofun, congrArg some same⟩⟩

theorem faithful_writeBatch_iff {before mbox : SqMbox} (same : mbox.ctx.tail = before.ctx.tail)
    (count : Nat) (dataWrite tailWrite : NowaitWrite) (ret : Ret) :
    (mbox.writeBatch count dataWrite tailWrite ret).Faithful (some before) ↔
      WritesLand count dataWrite tailWrite := by
  unfold writeBatch WritesLand
  cases accepted : writeError (8 * count) dataWrite with
  | some error =>
    simp only [reduceCtorEq, false_implies, iff_true]
    exact faithful_failed same error _
  | none =>
    have moved := getNextIndex_ne (ne_zero_of_writeError accepted) mbox.ctx.tail mbox.depth
    rw [same] at moved
    cases dataLands : dataWrite.lands <;> cases tailLands : tailWrite.lands <;>
      simp [SendResult.Faithful, advance, same, moved, tailLands]

/-- With no slot free, the call writes nothing. -/
theorem faithful_sendCounted_iff {before mbox : SqMbox} (same : mbox.ctx.tail = before.ctx.tail)
    (written : mbox.deviceTail = before.deviceTail) (nrCmds : Nat) (outcomes : CmdsOutcomes) :
    (mbox.sendCounted nrCmds outcomes).Faithful (some before) ↔
      if getPushableCount mbox.depth mbox.ctx = 0 then
        outcomes.copied = true → before.deviceTail = before.ctx.tail
      else
        WritesLand (min (getPushableCount mbox.depth mbox.ctx) nrCmds) outcomes.dataWrite
          outcomes.tailWrite := by
  by_cases full : getPushableCount mbox.depth mbox.ctx = 0
  · simp [sendCounted, full, SendResult.Faithful, same, written]
  · simp only [sendCounted, if_neg full]
    exact faithful_writeBatch_iff same _ _ _ _

theorem tail_waitForSlot (mbox : SqMbox) (reads : List CtxRead) :
    (mbox.waitForSlot reads).1.ctx.tail = mbox.ctx.tail := by
  induction reads generalizing mbox with
  | nil => rfl
  | cons read reads ih =>
    rw [waitForSlot]
    split
    · split
      · rfl
      · exact ih _
    · rfl

end SqMbox

theorem faithful_ioctlSendCmds_iff (sqMbox : Option SqMbox) (request : Option CmdsRequest)
    (outcomes : CmdsOutcomes) :
    (ioctlSendCmds sqMbox request outcomes).Faithful sqMbox ↔
      CmdsPublished sqMbox request outcomes := by
  rcases request with _ | commands
  · simpa [ioctlSendCmds, CmdsPublished] using SendResult.faithful_refuse sqMbox .efault
  rcases sqMbox with _ | mbox
  · simpa [ioctlSendCmds, CmdsPublished] using SendResult.faithful_refuse none .einval
  cases set : commands.cmds with
  | false =>
    simpa [ioctlSendCmds, CmdsPublished, set] using SendResult.faithful_refuse (some mbox) .einval
  | true =>
    simp only [ioctlSendCmds, CmdsPublished, SqMbox.sendCmds, set, if_true, Option.mem_some,
      forall_eq', forall_const]
    split
    · cases read : outcomes.read.head with
      | none => simpa using SqMbox.faithful_failed rfl .eintr [.contextRead]
      | some head =>
        have same : (mbox.setHead head).ctx.tail = mbox.ctx.tail := rfl
        simpa using SqMbox.faithful_sendCounted_iff same rfl commands.nrCmds outcomes
    · simpa using SqMbox.faithful_sendCounted_iff rfl rfl commands.nrCmds outcomes

theorem SqMbox.faithful_sendCmd_iff {mbox : SqMbox} {outcomes : CmdWithDataOutcomes}
    {result : SendResult} (returned : mbox.sendCmd outcomes = some result) :
    result.Faithful (some mbox) ↔
      ((mbox.waitForSlot outcomes.reads).2 = some none →
        WritesLand 1 outcomes.dataWrite outcomes.tailWrite) := by
  have same := mbox.tail_waitForSlot outcomes.reads
  unfold sendCmd at returned
  split at returned
  · cases returned
  · rename_i waited error ended
    rw [ended] at same ⊢
    cases returned
    simpa using SqMbox.faithful_failed same error [.contextRead]
  · rename_i waited ended
    rw [ended] at same ⊢
    cases returned
    simpa using SqMbox.faithful_writeBatch_iff same 1 outcomes.dataWrite outcomes.tailWrite none

theorem faithful_ioctlSendCmdWithData_iff {sqMbox : Option SqMbox}
    {request : Option CmdWithDataRequest} {outcomes : CmdWithDataOutcomes} {result : SendResult}
    (returned : ioctlSendCmdWithData sqMbox request outcomes = some result) :
    result.Faithful sqMbox ↔ CmdWithDataPublished sqMbox request outcomes := by
  rcases request with _ | command
  · cases returned
    simpa [CmdWithDataPublished] using SendResult.faithful_refuse sqMbox .efault
  rcases sqMbox with _ | mbox
  · cases returned
    simpa [CmdWithDataPublished] using SendResult.faithful_refuse none .einval
  cases set : command.cmd with
  | false =>
    simp only [ioctlSendCmdWithData, set] at returned
    cases returned
    simpa [CmdWithDataPublished, set] using SendResult.faithful_refuse (some mbox) .einval
  | true =>
    simp only [ioctlSendCmdWithData, set, if_true] at returned
    simp only [CmdWithDataPublished, Option.mem_some, forall_eq', set, forall_const]
    split at returned
    · rename_i error payload failed
      cases returned
      simpa [payload, failed] using SendResult.faithful_refuse (some mbox) error
    · rename_i lands
      have accepted : command.payload = true →
          ∃ written lands, outcomes.payloadWrite = .accepted written lands := by
        intro payload
        cases write : outcomes.payloadWrite with
        | refused error => exact (lands error payload write).elim
        | accepted written lands => exact ⟨written, lands, rfl⟩
      rw [SqMbox.faithful_sendCmd_iff returned]
      exact ⟨fun lands _ => lands, fun lands => lands accepted⟩

/-- A send tells the truth if and only if the writes it comes to land. -/
theorem sends_published_iff (sqMbox : Option SqMbox) :
    (∀ request outcomes,
      (ioctlSendCmds sqMbox request outcomes).Faithful sqMbox ↔
        CmdsPublished sqMbox request outcomes) ∧
      ∀ request outcomes result,
        ioctlSendCmdWithData sqMbox request outcomes = some result →
          (result.Faithful sqMbox ↔ CmdWithDataPublished sqMbox request outcomes) :=
  ⟨faithful_ioctlSendCmds_iff sqMbox, fun _ _ _ => faithful_ioctlSendCmdWithData_iff⟩

/-- An empty ring of four words. -/
def emptySqMbox : SqMbox := ⟨⟨⟨0, false⟩, ⟨0, false⟩⟩, 4, ⟨0, false⟩⟩

theorem sends_published_emptySqMbox :
    (ioctlSendCmds (some emptySqMbox) (some ⟨true, 3⟩)
        ⟨.nothing, .accepted 24 true, .accepted 8 true, true⟩).Faithful (some emptySqMbox) ∧
      ∃ result, ioctlSendCmdWithData (some emptySqMbox) (some ⟨true, false⟩)
          ⟨.refused .einval, [], .accepted 8 true, .accepted 8 true⟩ = some result ∧
        result.ret = none ∧ result.Faithful (some emptySqMbox) := by
  obtain ⟨commands, withData⟩ := sends_published_iff (some emptySqMbox)
  constructor
  · apply (commands _ _).mpr
    rintro _ ⟨⟩ _ ⟨⟩ - _ ⟨⟩ -
    exact ⟨rfl, rfl⟩
  · refine ⟨_, rfl, rfl, (withData (some ⟨true, false⟩)
      ⟨.refused .einval, [], .accepted 8 true, .accepted 8 true⟩ _ rfl).mpr ?_⟩
    rintro _ ⟨⟩ _ ⟨⟩ - - - -
    exact ⟨rfl, rfl⟩

/-- Three ways in which a call reports success although the device cannot see the command:
the tail write is refused for lack of memory, it is queued and lost, or the data write is
queued and lost while the tail lands. -/
theorem sends_unpublished :
    (∃ mbox, ioctlSendCmds (some emptySqMbox) (some ⟨true, 1⟩)
        ⟨.nothing, .accepted 8 true, .refused .enomem, true⟩ =
          ⟨some mbox, none, [.tailWrite]⟩ ∧
      mbox.ctx.tail ≠ emptySqMbox.ctx.tail ∧ mbox.deviceTail ≠ mbox.ctx.tail) ∧
    (∃ mbox, ioctlSendCmds (some emptySqMbox) (some ⟨true, 1⟩)
        ⟨.nothing, .accepted 8 true, .accepted 8 false, true⟩ =
          ⟨some mbox, none, [.tailWrite]⟩ ∧
      mbox.ctx.tail ≠ emptySqMbox.ctx.tail ∧ mbox.deviceTail ≠ mbox.ctx.tail) ∧
    ∃ mbox, ioctlSendCmds (some emptySqMbox) (some ⟨true, 1⟩)
        ⟨.nothing, .accepted 8 false, .accepted 8 true, true⟩ =
          ⟨some mbox, none, [.dataWrite]⟩ ∧
      mbox.ctx.tail ≠ emptySqMbox.ctx.tail ∧ mbox.deviceTail = mbox.ctx.tail :=
  ⟨⟨_, rfl, by decide, by decide⟩, ⟨_, rfl, by decide, by decide⟩, _, rfl, by decide, rfl⟩

end MxDriver
