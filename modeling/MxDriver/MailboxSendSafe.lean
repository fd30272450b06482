import MxDriver.MailboxSend

/-!
# Sends never overwrite a word that is not consumed

The cached head lags behind the device and the cached tail runs ahead of the
published one, but the four stay within a depth of one another.  A batch is
admitted against the cached head and up to the end of the array, so each of its
words lands in a free slot.

What is sent is, call by call, what the calls reported.
-/

namespace MxDriver

variable {ω : Type} {depth head : Nat} {mbox next : SendMailbox ω}

/-- The state of a mailbox whose cached head is at position `head`. -/
structure SendOk (depth : Nat) (mbox : SendMailbox ω) (head : Nat) : Prop where
  head_eq : mbox.ctx.head = mboxIndexOf depth head
  tail_eq : mbox.ctx.tail = mboxIndexOf depth (mbox.sent.length + mbox.stage.ahead)
  deviceTail_eq : mbox.deviceTail = mboxIndexOf depth mbox.sent.length
  head_le : head ≤ mbox.consumed.length
  consumed_prefix : mbox.consumed <+: mbox.sent
  holds : RingHolds depth mbox.data (mbox.sent ++ mbox.stage.inPlace) mbox.consumed.length
  room : mbox.sent.length + mbox.stage.inPlace.length + mbox.stage.left.length ≤ head + depth
  fits : mbox.sent.length % depth + mbox.stage.inPlace.length + mbox.stage.left.length ≤ depth

/-- A mailbox in order, wherever its cached head is. -/
def MailboxOk (depth : Nat) (mbox : SendMailbox ω) : Prop :=
  ∃ head, SendOk depth mbox head

/-- No word of a batch is in place and the tail is the published one. -/
structure Unstarted (stage : SendStage ω) : Prop where
  inPlace_eq : stage.inPlace = []
  left_eq : stage.left = []
  ahead_eq : stage.ahead = 0

section Stages

theorem unstarted_idle : Unstarted (.idle : SendStage ω) := ⟨rfl, rfl, rfl⟩

theorem unstarted_refreshing (words : List ω) : Unstarted (.refreshing words) := ⟨rfl, rfl, rfl⟩

theorem unstarted_waiting (word : ω) : Unstarted (.waiting word) := ⟨rfl, rfl, rfl⟩

theorem SendStage.ahead_le_inPlace (stage : SendStage ω) : stage.ahead ≤ stage.inPlace.length := by
  cases stage with
  | advanced batch => exact le_rfl
  | _ => exact Nat.zero_le _

end Stages

section Counters

/-- The cached context stands for the cached head and the cached tail. -/
theorem SendOk.represents (ok : SendOk depth mbox head) :
    Represents depth mbox.ctx head (mbox.sent.length + mbox.stage.ahead) := by
  have consumed_le := ok.consumed_prefix.length_le
  have head_le := ok.head_le
  have room := ok.room
  have ahead := mbox.stage.ahead_le_inPlace
  exact
    { head_eq := ok.head_eq
      tail_eq := ok.tail_eq
      ordered := by omega
      near := by omega }

/-- The context the device reports stands for the words consumed and sent. -/
theorem SendOk.represents_device (ok : SendOk depth mbox head) :
    Represents depth (mbox.deviceContext depth) mbox.consumed.length mbox.sent.length := by
  have head_le := ok.head_le
  have room := ok.room
  exact
    { head_eq := rfl
      tail_eq := ok.deviceTail_eq
      ordered := ok.consumed_prefix.length_le
      near := by omega }

end Counters

section Steps

variable (ok : SendOk depth mbox head)
include ok

theorem SendOk.restage {stage : SendStage ω}
    (unstarted : Unstarted mbox.stage) (still : Unstarted stage) :
    SendOk depth { mbox with stage } head :=
  { ok with
    tail_eq := by
      change mbox.ctx.tail = mboxIndexOf depth (mbox.sent.length + stage.ahead)
      rw [ok.tail_eq, unstarted.ahead_eq, still.ahead_eq]
    holds := by
      have holds := ok.holds
      rw [unstarted.inPlace_eq] at holds
      change RingHolds depth mbox.data (mbox.sent ++ stage.inPlace) _
      rwa [still.inPlace_eq]
    room := by
      have room := ok.room
      rw [unstarted.inPlace_eq, unstarted.left_eq] at room
      change mbox.sent.length + stage.inPlace.length + stage.left.length ≤ head + depth
      rwa [still.inPlace_eq, still.left_eq]
    fits := by
      have fits := ok.fits
      rw [unstarted.inPlace_eq, unstarted.left_eq] at fits
      change mbox.sent.length % depth + stage.inPlace.length + stage.left.length ≤ depth
      rwa [still.inPlace_eq, still.left_eq] }

/-- A batch may start when it fits in what is free and before the end of the
array. -/
theorem SendOk.startBatch {batch : List ω}
    (unstarted : Unstarted mbox.stage) (free : mbox.sent.length + batch.length ≤ head + depth)
    (fits : mbox.sent.length % depth + batch.length ≤ depth) :
    SendOk depth { mbox with stage := .writing [] batch } head :=
  { ok.restage unstarted unstarted_idle with
    room := free
    fits := fits }

theorem SendOk.begin (request : SendRequest ω) : SendOk depth (mbox.begin request) head :=
  { ok with }

theorem SendOk.refreshHead : SendOk depth (mbox.refreshHead depth) mbox.consumed.length := by
  have head_le := ok.head_le
  have room := ok.room
  exact { ok with
    head_eq := rfl
    head_le := le_rfl
    room := room.trans (by omega) }

theorem SendOk.refreshContext (unstarted : Unstarted mbox.stage) :
    SendOk depth (mbox.refreshContext depth) mbox.consumed.length :=
  { ok.refreshHead with
    tail_eq := by
      change mbox.deviceTail = mboxIndexOf depth (mbox.sent.length + mbox.stage.ahead)
      rw [unstarted.ahead_eq]
      exact ok.deviceTail_eq }

/-- A failed call leaves its words behind in slots past the tail. -/
theorem SendOk.fail (unpublished : mbox.stage.ahead = 0) :
    SendOk depth (mbox.finish none) head := by
  have room := ok.room
  have fits := ok.fits
  have tail_eq := ok.tail_eq
  rw [unpublished] at tail_eq
  refine { ok with tail_eq := tail_eq, holds := ?_, room := ?_, fits := ?_ }
  · change RingHolds depth mbox.data (mbox.sent ++ []) _
    rw [List.append_nil]
    exact ok.holds.of_append
  · change mbox.sent.length + 0 + 0 ≤ head + depth
    omega
  · change mbox.sent.length % depth + 0 + 0 ≤ depth
    omega

end Steps

section Commands

variable (valid : IsMboxDepth depth) (ok : SendOk depth mbox head)
include valid ok

theorem SendOk.admitCmds {words : List ω} (unstarted : Unstarted mbox.stage) :
    SendOk depth (mbox.admitCmds depth words) head := by
  have count_eq := ok.represents.getPushableCount_eq valid
  rw [unstarted.ahead_eq, Nat.add_zero] at count_eq
  have taken := List.length_take_le (getPushableCount depth mbox.ctx) words
  have inside := Nat.mod_lt mbox.sent.length valid.pos
  have room := ok.room
  rw [SendMailbox.admitCmds]
  split
  · exact { ok.restage unstarted unstarted_idle with }
  · exact ok.startBatch unstarted (by omega) (by omega)

theorem SendOk.ioctlSendCmds {words : List ω} (unstarted : Unstarted mbox.stage) :
    SendOk depth (mbox.ioctlSendCmds depth words) head := by
  rw [SendMailbox.ioctlSendCmds]
  split
  · exact ok.restage unstarted (unstarted_refreshing words)
  · exact ok.admitCmds valid unstarted

theorem SendOk.ioctlSendCmdWithData {word : ω} (unstarted : Unstarted mbox.stage) :
    SendOk depth (mbox.ioctlSendCmdWithData word) head := by
  have full := ok.represents.isFull_iff valid
  have inside := Nat.mod_lt mbox.sent.length valid.pos
  have room := ok.room
  rw [unstarted.ahead_eq, Nat.add_zero] at full
  rw [SendMailbox.ioctlSendCmdWithData]
  split
  · exact ok.restage unstarted (unstarted_waiting word)
  · rename_i notFull
    have := mt full.mpr notFull
    refine ok.startBatch unstarted ?_ ?_ <;> rw [List.length_singleton] <;> omega

/-- A command needs four free words, and four words from an aligned tail do
not cross the end of an aligned ring. -/
theorem SendOk.startCommand {comm : Vector ω 4} (unstarted : Unstarted mbox.stage)
    (enough : 4 ≤ getFreeSpace depth mbox.ctx) (large : 4 ≤ depth)
    (aligned : 4 ∣ mbox.sent.length % depth) :
    SendOk depth { mbox with stage := .writing [] comm.toList } head := by
  have free_eq := ok.represents.getFreeSpace_eq valid
  have ordered := ok.represents.ordered
  rw [unstarted.ahead_eq, Nat.add_zero] at free_eq ordered
  have inside := Nat.mod_lt mbox.sent.length valid.pos
  have whole := valid.four_dvd large
  have length_eq : comm.toList.length = 4 := by simp
  exact ok.startBatch unstarted (by omega) (by omega)

theorem SendOk.pushMxCommand {comm : Vector ω 4} (unstarted : Unstarted mbox.stage)
    (large : 4 ≤ depth) (aligned : 4 ∣ mbox.ctx.tail.index.toNat) :
    MailboxOk depth (mbox.pushMxCommand depth comm) := by
  rw [ok.tail_eq, unstarted.ahead_eq, Nat.add_zero, toNat_index_mboxIndexOf valid] at aligned
  rw [SendMailbox.pushMxCommand, SendMailbox.isPushable]
  by_cases cached : 4 * 2 ≤ getFreeSpace depth mbox.ctx
  · rw [if_pos cached]
    exact ⟨head, ok.startCommand valid unstarted (by omega) large aligned⟩
  · rw [if_neg cached]
    have fresh := ok.refreshContext unstarted
    refine ⟨mbox.consumed.length, ?_⟩
    by_cases enough : 4 ≤ getFreeSpace depth (mbox.refreshContext depth).ctx
    · simp only [enough, decide_true, if_true]
      exact fresh.startCommand valid unstarted enough large aligned
    · simp only [enough, decide_false]
      exact { fresh.restage unstarted unstarted_idle with }

/-- The word lands in the slot of the next position, which is free. -/
theorem SendOk.writeWord {done todo : List ω} {word : ω}
    (stage : mbox.stage = .writing done (word :: todo)) :
    SendOk depth (mbox.writeWord done word todo) head := by
  obtain ⟨head_eq, tail_eq, deviceTail_eq, head_le, consumed_prefix, holds, room, fits⟩ := ok
  simp only [stage, SendStage.inPlace, SendStage.left, SendStage.ahead, List.length_cons,
    Nat.add_zero] at tail_eq holds room fits
  have slot : getDataOffset mbox.ctx.tail / 8 + done.length =
      (mbox.sent ++ done).length % depth := by
    rw [getDataOffset, Nat.mul_div_cancel_left _ (by decide), tail_eq,
      toNat_index_mboxIndexOf valid, List.length_append, add_mod_of_inside (by omega)]
  have free : (mbox.sent ++ done).length < mbox.consumed.length + depth := by
    rw [List.length_append]
    omega
  refine
    { head_eq, tail_eq, deviceTail_eq, head_le, consumed_prefix,
      holds := ?_, room := ?_, fits := ?_ }
  · change RingHolds depth (Function.update mbox.data _ word) (mbox.sent ++ (done ++ [word])) _
    rw [slot, ← List.append_assoc]
    exact (holds.write free).append (Function.update_self ..)
  · change mbox.sent.length + (done ++ [word]).length + todo.length ≤ head + depth
    rw [List.length_append, List.length_singleton]
    omega
  · change mbox.sent.length % depth + (done ++ [word]).length + todo.length ≤ depth
    rw [List.length_append, List.length_singleton]
    omega

theorem SendOk.advanceTail {batch : List ω} (stage : mbox.stage = .writing batch []) :
    SendOk depth (mbox.advanceTail depth batch) head := by
  obtain ⟨head_eq, tail_eq, deviceTail_eq, head_le, consumed_prefix, holds, room, fits⟩ := ok
  simp only [stage, SendStage.inPlace, SendStage.left, SendStage.ahead, Nat.add_zero]
    at tail_eq holds room fits
  refine { head_eq, tail_eq := ?_, deviceTail_eq, head_le, consumed_prefix, holds, room, fits }
  change getNextIndex mbox.ctx.tail batch.length depth = mboxIndexOf depth _
  rw [tail_eq]
  exact getNextIndex_mboxIndexOf valid (by rw [List.length_nil] at fits; omega)

theorem SendOk.publishTail {batch : List ω} (stage : mbox.stage = .advanced batch) :
    SendOk depth (mbox.publishTail batch) head := by
  obtain ⟨head_eq, tail_eq, deviceTail_eq, head_le, consumed_prefix, holds, room, fits⟩ := ok
  simp only [stage, SendStage.inPlace, SendStage.left, SendStage.ahead, List.length_nil,
    Nat.add_zero] at tail_eq holds room fits
  have inside := Nat.mod_lt (mbox.sent ++ batch).length valid.pos
  refine
    { head_eq, tail_eq := ?_, deviceTail_eq := ?_, head_le
      consumed_prefix := consumed_prefix.trans (List.prefix_append _ _)
      holds := ?_, room := ?_, fits := ?_ }
  · change mbox.ctx.tail = mboxIndexOf depth ((mbox.sent ++ batch).length + 0)
    rw [tail_eq, Nat.add_zero, List.length_append]
  · change mbox.ctx.tail = mboxIndexOf depth (mbox.sent ++ batch).length
    rw [tail_eq, List.length_append]
  · change RingHolds depth mbox.data (mbox.sent ++ batch ++ []) _
    rw [List.append_nil]
    exact holds
  · change (mbox.sent ++ batch).length + 0 + 0 ≤ head + depth
    rw [List.length_append]
    omega
  · change (mbox.sent ++ batch).length % depth + 0 + 0 ≤ depth
    omega

theorem SendOk.consume (pending : ¬ isEmpty (mbox.deviceContext depth) = true) :
    SendOk depth (mbox.consume depth) head := by
  have ordered := ok.consumed_prefix.length_le
  have empty := ok.represents_device.isEmpty_iff valid
  have inside : mbox.consumed.length < mbox.sent.length := by
    have := mt empty.mpr pending
    omega
  have word : mbox.data (getDataOffset (mbox.deviceContext depth).head / 8) =
      mbox.sent[mbox.consumed.length] := by
    have holds := ok.holds.of_append
    rw [getDataOffset, Nat.mul_div_cancel_left _ (by decide), ok.represents_device.head_eq,
      toNat_index_mboxIndexOf valid]
    exact holds _ inside le_rfl
  have longer : (mbox.consume depth).consumed.length = mbox.consumed.length + 1 := by
    simp [SendMailbox.consume]
  refine { ok with head_le := ?_, consumed_prefix := ?_, holds := ?_ }
  · rw [longer]
    exact ok.head_le.trans (Nat.le_succ _)
  · change mbox.consumed ++ [_] <+: mbox.sent
    rw [word]
    exact List.concat_get_prefix ok.consumed_prefix inside
  · rw [longer]
    exact ok.holds.later (Nat.le_succ _)

end Commands

theorem sendOk_of_registered (valid : IsMboxDepth depth) (registered : Registered depth mbox) :
    SendOk depth mbox mbox.consumed.length := by
  obtain ⟨idle, -, -, ctx_eq, deviceTail_eq, consumed_prefix, near, holds⟩ := registered
  have inside := Nat.mod_lt mbox.sent.length valid.pos
  exact
    { head_eq := by rw [ctx_eq]; rfl
      tail_eq := by rw [ctx_eq, idle]; exact deviceTail_eq
      deviceTail_eq
      head_le := le_rfl
      consumed_prefix
      holds := by
        rw [idle]
        change RingHolds depth mbox.data (mbox.sent ++ []) _
        rwa [List.append_nil]
      room := by rw [idle]; exact near
      fits := by rw [idle]; exact inside.le }

/-- One step keeps the mailbox in order, with the cached head where it was or
at the device's own. -/
theorem sendOk_step (valid : IsMboxDepth depth) {action : SendAction ω}
    (ok : SendOk depth mbox head) (aligned : CommandAligned depth mbox action)
    (stepped : sendStep depth mbox action = some next) : MailboxOk depth next := by
  have unstarted_of {stage : SendStage ω} (isStage : mbox.stage = stage)
      (unstarted : Unstarted stage) : Unstarted mbox.stage := isStage ▸ unstarted
  cases action with simp only [sendStep] at stepped
  | sendCmds words =>
    split at stepped <;> cases stepped
    rename_i idle
    exact ⟨head, (ok.begin _).ioctlSendCmds valid (unstarted_of idle unstarted_idle)⟩
  | sendCmdWithData word =>
    split at stepped <;> cases stepped
    rename_i idle
    exact ⟨head, (ok.begin _).ioctlSendCmdWithData valid (unstarted_of idle unstarted_idle)⟩
  | pushMxCommand comm =>
    split at stepped <;> cases stepped
    rename_i idle
    exact (ok.begin _).pushMxCommand valid (unstarted_of idle unstarted_idle) aligned.1 aligned.2
  | initMbox =>
    split at stepped <;> cases stepped
    rename_i idle
    exact ⟨_, ok.refreshContext (unstarted_of idle unstarted_idle)⟩
  | readContext =>
    split at stepped <;> cases stepped
    · rename_i words refreshing
      exact ⟨_, ok.refreshHead.admitCmds valid
        (unstarted_of refreshing (unstarted_refreshing words))⟩
    · rename_i word waiting
      exact ⟨_, ok.refreshHead.ioctlSendCmdWithData valid
        (unstarted_of waiting (unstarted_waiting word))⟩
  | writeWord =>
    split at stepped <;> cases stepped
    rename_i stage
    exact ⟨head, ok.writeWord valid stage⟩
  | advanceTail =>
    split at stepped <;> cases stepped
    rename_i stage
    exact ⟨head, ok.advanceTail valid stage⟩
  | publishTail =>
    split at stepped <;> cases stepped
    rename_i stage
    exact ⟨head, ok.publishTail valid stage⟩
  | fail =>
    split at stepped <;> cases stepped <;>
    · rename_i stage
      exact ⟨head, ok.fail (by rw [stage]; rfl)⟩
  | consume =>
    split at stepped <;> cases stepped
    rename_i pending
    exact ⟨head, ok.consume valid pending⟩

theorem sendOk_of_reached (valid : IsMboxDepth depth) {start : SendMailbox ω}
    (registered : Registered depth start)
    (reached : ReachedBy (sendStep depth) (CommandAligned depth) start mbox) :
    MailboxOk depth mbox :=
  reached.invariant ⟨_, sendOk_of_registered valid registered⟩
    fun _ _ _ ⟨_, ok⟩ aligned stepped => sendOk_step valid ok aligned stepped

/-- What the cache admits, a fresh read admits. -/
theorem SendOk.cache_conservative (valid : IsMboxDepth depth) (ok : SendOk depth mbox head)
    (idle : mbox.stage = .idle) :
    getPushableCount depth mbox.ctx ≤ getPushableCount depth (mbox.deviceContext depth) ∧
      getFreeSpace depth mbox.ctx ≤ getFreeSpace depth (mbox.deviceContext depth) := by
  have cached := ok.represents
  have fresh := ok.represents_device
  have head_le := ok.head_le
  have ordered := cached.ordered
  have ahead_eq : mbox.stage.ahead = 0 := by rw [idle]; rfl
  rw [cached.getPushableCount_eq valid, fresh.getPushableCount_eq valid,
    cached.getFreeSpace_eq valid, fresh.getFreeSpace_eq valid, ahead_eq, Nat.add_zero]
  constructor <;> omega

theorem SendOk.batch_inside (valid : IsMboxDepth depth) {done todo : List ω}
    (ok : SendOk depth mbox head) (stage : mbox.stage = .writing done todo) :
    getDataOffset mbox.ctx.tail + 8 * (done ++ todo).length ≤ 8 * depth := by
  have fits := ok.fits
  have tail_eq := ok.tail_eq
  simp only [stage, SendStage.inPlace, SendStage.left, SendStage.ahead, Nat.add_zero]
    at fits tail_eq
  rw [getDataOffset, tail_eq, toNat_index_mboxIndexOf valid, List.length_append]
  omega

section Record

/-- The stage belongs to the call under way. -/
def SendStage.Serves : SendStage ω → Option (SendRequest ω) → Prop
  | .idle, call => call = none
  | .refreshing words, call => call = some (.cmds words)
  | .waiting word, call => call = some (.cmdWithData word)
  | .writing done todo, call => ∃ request, call = some request ∧ request.Admits (done ++ todo)
  | .advanced batch, call => ∃ request, call = some request ∧ request.Admits batch

/-- After the words sent before come those that the calls reported, and a call that did not
fail sent what it was asked to. -/
structure Logged (before : List ω) (mbox : SendMailbox ω) : Prop where
  sent_eq : mbox.sent = before ++ mbox.finished.flatMap FinishedSend.accepted
  kept : ∀ send ∈ mbox.finished, send.reported ≠ none → send.request.Admits send.accepted

structure Recorded (before : List ω) (mbox : SendMailbox ω) : Prop extends Logged before mbox where
  serves : mbox.stage.Serves mbox.call

variable {before : List ω} {request : SendRequest ω}

theorem SendRequest.Admits.take {batch : List ω} (admits : request.Admits batch) :
    request.words.take batch.length = batch := by
  cases request with
  | cmds words => exact (List.prefix_iff_eq_take.mp admits).symm
  | cmdWithData word | command comm =>
    obtain rfl := admits
    exact List.take_length

theorem Logged.finish {reported : Option Nat} {deviceTail : MboxIndex} {sent : List ω}
    (logged : Logged before mbox) (called : mbox.call = some request)
    (sent_eq : sent = mbox.sent ++ FinishedSend.accepted ⟨request, reported⟩)
    (kept : reported ≠ none → request.Admits (FinishedSend.accepted ⟨request, reported⟩)) :
    Recorded before { mbox.finish reported with deviceTail, sent } where
  sent_eq := by
    simp [sent_eq, logged.sent_eq, SendMailbox.finish, called]
  kept send member := by
    simp only [SendMailbox.finish, called, Option.map_some, Option.toList_some,
      List.mem_append, List.mem_singleton] at member
    rcases member with earlier | rfl
    · exact logged.kept send earlier
    · exact kept
  serves := rfl

theorem Logged.fail (logged : Logged before mbox) (called : mbox.call = some request) :
    Recorded before (mbox.finish none) :=
  logged.finish called (by simp [FinishedSend.accepted]) (by simp)

theorem Logged.admitCmds {words : List ω} (logged : Logged before mbox)
    (called : mbox.call = some (.cmds words)) : Recorded before (mbox.admitCmds depth words) := by
  rw [SendMailbox.admitCmds]
  split
  · exact logged.finish called (by simp [FinishedSend.accepted])
      fun _ => List.nil_prefix
  · exact { logged with serves := ⟨_, called, List.take_prefix ..⟩ }

theorem Logged.ioctlSendCmds {words : List ω} (logged : Logged before mbox)
    (called : mbox.call = some (.cmds words)) :
    Recorded before (mbox.ioctlSendCmds depth words) := by
  rw [SendMailbox.ioctlSendCmds]
  split
  · exact { logged with serves := called }
  · exact logged.admitCmds called

theorem Logged.ioctlSendCmdWithData {word : ω} (logged : Logged before mbox)
    (called : mbox.call = some (.cmdWithData word)) :
    Recorded before (mbox.ioctlSendCmdWithData word) := by
  rw [SendMailbox.ioctlSendCmdWithData]
  split
  · exact { logged with serves := called }
  · exact { logged with serves := ⟨_, called, rfl⟩ }

theorem Logged.pushMxCommand {comm : Vector ω 4} (logged : Logged before mbox)
    (called : mbox.call = some (.command comm)) :
    Recorded before (mbox.pushMxCommand depth comm) := by
  -- the test changes the cached context only
  obtain ⟨ctx, same⟩ : ∃ ctx, (mbox.isPushable depth).1 = { mbox with ctx } := by
    unfold SendMailbox.isPushable
    split <;> exact ⟨_, rfl⟩
  rw [SendMailbox.pushMxCommand]
  simp only [same]
  split
  · exact { logged with serves := ⟨_, called, rfl⟩ }
  · exact Logged.fail { logged with } called

theorem Recorded.step {action : SendAction ω} (recorded : Recorded before mbox)
    (stepped : sendStep depth mbox action = some next) : Recorded before next := by
  have logged := recorded.toLogged
  have serves := recorded.serves
  cases action with simp only [sendStep] at stepped
  | sendCmds words =>
    split at stepped <;> cases stepped
    exact Logged.ioctlSendCmds { logged with } rfl
  | sendCmdWithData word =>
    split at stepped <;> cases stepped
    exact Logged.ioctlSendCmdWithData { logged with } rfl
  | pushMxCommand comm =>
    split at stepped <;> cases stepped
    exact Logged.pushMxCommand { logged with } rfl
  | initMbox =>
    split at stepped <;> cases stepped
    exact { recorded with }
  | readContext =>
    split at stepped <;> cases stepped <;> rename_i stage <;> rw [stage] at serves
    · exact Logged.admitCmds { logged with } serves
    · exact Logged.ioctlSendCmdWithData { logged with } serves
  | writeWord =>
    split at stepped <;> cases stepped
    rename_i stage
    rw [stage] at serves
    obtain ⟨request, called, admits⟩ := serves
    exact { logged with serves := ⟨request, called, by rwa [← List.append_cons]⟩ }
  | advanceTail =>
    split at stepped <;> cases stepped
    rename_i stage
    rw [stage] at serves
    obtain ⟨request, called, admits⟩ := serves
    exact { logged with serves := ⟨request, called, by rwa [List.append_nil] at admits⟩ }
  | publishTail =>
    split at stepped <;> cases stepped
    rename_i batch stage
    rw [stage] at serves
    obtain ⟨request, called, admits⟩ := serves
    have accepted : FinishedSend.accepted ⟨request, some batch.length⟩ = batch := admits.take
    exact logged.finish called (by rw [accepted]) fun _ => by rwa [accepted]
  | fail =>
    split at stepped <;> cases stepped <;> rename_i stage <;> rw [stage] at serves
    · exact logged.fail serves
    · exact logged.fail serves
    · obtain ⟨request, called, -⟩ := serves
      exact logged.fail called
  | consume =>
    split at stepped <;> cases stepped
    exact { recorded with }

theorem Recorded.call_eq_none_iff (recorded : Recorded before mbox) :
    mbox.call = none ↔ mbox.stage = .idle := by
  have serves := recorded.serves
  cases stage : mbox.stage with rw [stage] at serves
  | idle => exact iff_of_true serves rfl
  | refreshing words | waiting word => simp [show mbox.call = _ from serves]
  | writing done todo | advanced batch =>
    obtain ⟨request, called, -⟩ := serves
    simp [called]

end Record

/-- In every interleaving of the writers and the device: the bytes stand for
counters at most a depth apart, both those in the cache and those the device
reports; the cached head does not lead the device's, so that a test against the
cache admits only what a fresh read would; the batch being written lies within
the data array; every word sent and not consumed is still in its slot; the
device has consumed the first words sent, in order; and the words sent are those
that the calls reported, in the order of their returns, where a call that did not
fail sent its word or its command, or the first words of its batch. -/
theorem mailbox_sends_safe (valid : IsMboxDepth depth) {start : SendMailbox ω}
    (registered : Registered depth start)
    (reached : ReachedBy (sendStep depth) (CommandAligned depth) start mbox) :
    (∃ head,
      Represents depth mbox.ctx head (mbox.sent.length + mbox.stage.ahead) ∧
      CountsAs depth mbox.ctx head (mbox.sent.length + mbox.stage.ahead) ∧
      Represents depth (mbox.deviceContext depth) mbox.consumed.length mbox.sent.length ∧
      CountsAs depth (mbox.deviceContext depth) mbox.consumed.length mbox.sent.length ∧
      head ≤ mbox.consumed.length ∧
      (mbox.stage = .idle →
        getPushableCount depth mbox.ctx ≤ getPushableCount depth (mbox.deviceContext depth) ∧
          getFreeSpace depth mbox.ctx ≤ getFreeSpace depth (mbox.deviceContext depth)) ∧
      (∀ done todo, mbox.stage = .writing done todo →
        getDataOffset mbox.ctx.tail + 8 * (done ++ todo).length ≤ 8 * depth) ∧
      RingHolds depth mbox.data mbox.sent mbox.consumed.length ∧
      mbox.consumed <+: mbox.sent) ∧
    mbox.sent = start.sent ++ mbox.finished.flatMap FinishedSend.accepted ∧
    (∀ send ∈ mbox.finished, send.reported ≠ none → send.request.Admits send.accepted) ∧
    (mbox.call = none ↔ mbox.stage = .idle) := by
  obtain ⟨head, ok⟩ := sendOk_of_reached valid registered reached
  have recorded : Recorded start.sent mbox := by
    apply reached.invariant
    · obtain ⟨idle, uncalled, unfinished⟩ := registered
      exact
        { sent_eq := by simp [unfinished]
          kept := by simp [unfinished]
          serves := by rw [idle]; exact uncalled }
    · intro current action next recorded _ stepped
      exact recorded.step stepped
  exact ⟨⟨head, ok.represents, ok.represents.countsAs valid, ok.represents_device,
    ok.represents_device.countsAs valid, ok.head_le, ok.cache_conservative valid,
    fun _ _ => ok.batch_inside valid, ok.holds.of_append, ok.consumed_prefix⟩,
    recorded.sent_eq, recorded.kept, recorded.call_eq_none_iff⟩

/-- An empty mailbox of four words. -/
def emptyMailbox : SendMailbox Nat where
  ctx := ⟨mboxIndexOf 4 0, mboxIndexOf 4 0⟩
  stage := .idle
  data _ := 0
  deviceTail := mboxIndexOf 4 0
  sent := []
  consumed := []
  call := none
  finished := []

theorem emptyMailbox_registered : Registered 4 emptyMailbox where
  idle := rfl
  uncalled := rfl
  unfinished := rfl
  ctx_eq := rfl
  deviceTail_eq := rfl
  consumed_prefix := List.prefix_rfl
  near := Nat.zero_le _
  holds := ringHolds_nil

/-- A command fills the ring, and the batch after it waits for the one word the
device has consumed meanwhile. -/
theorem mailbox_sends_safe_fullRing :
    ∃ mbox : SendMailbox Nat,
      ReachedBy (sendStep 4) (CommandAligned 4) emptyMailbox mbox ∧
        mbox.sent = [1, 2, 3, 4, 5] ∧ mbox.consumed = [1] ∧
        mbox.finished.map FinishedSend.accepted = [[1, 2, 3, 4], [5]] ∧
        isFull (mbox.deviceContext 4) = true ∧
        RingHolds 4 mbox.data mbox.sent mbox.consumed.length ∧
        mbox.sent = [] ++ mbox.finished.flatMap FinishedSend.accepted := by
  have ran : ((runAllowed (sendStep 4) (CommandAligned 4) emptyMailbox
      [.pushMxCommand #v[1, 2, 3, 4], .writeWord, .writeWord, .writeWord, .writeWord,
        .advanceTail, .publishTail, .consume, .sendCmds [5, 6], .readContext, .writeWord,
        .advanceTail, .publishTail]).map fun mbox =>
          (mbox.sent, mbox.consumed, mbox.finished.map FinishedSend.accepted,
            isFull (mbox.deviceContext 4))) =
      some ([1, 2, 3, 4, 5], [1], [[1, 2, 3, 4], [5]], true) := by
    decide
  obtain ⟨mbox, final, seen⟩ := Option.map_eq_some_iff.mp ran
  simp only [Prod.mk.injEq] at seen
  obtain ⟨sent, consumed, accepted, full⟩ := seen
  have reached := reachedBy_of_runAllowed final
  obtain ⟨⟨_, _, _, _, _, _, _, _, holds, _⟩, called, _⟩ :=
    mailbox_sends_safe ⟨2, by decide, rfl⟩ emptyMailbox_registered reached
  exact ⟨mbox, reached, sent, consumed, accepted, full, holds, called⟩

end MxDriver
