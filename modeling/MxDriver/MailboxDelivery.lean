import MxDriver.MailboxReceive

/-!
# What a receive delivers

As long as the data reads succeed, the cached head is the position after the
last word delivered, and each batch is the next words posted; failures of the
other two device operations do no harm.  A data read that fails is not noticed:
the head has moved, the words are skipped, and the call returns 0.
-/

namespace MxDriver

variable {ω : Type} {depth deviceHead : Nat} {mbox next : RecvMailbox ω}

/-- The words the cached head is ahead of the delivered ones. -/
def RecvStage.taken : RecvStage ω → Nat
  | .counted _ count _ _ => count
  | .filled words _ _ _ => words.length
  | _ => 0

/-- The words in the caller's buffer. -/
def RecvStage.fetched : RecvStage ω → List ω
  | .filled words _ _ _ => words
  | _ => []

/-- What the call knows at each stage: the reply will be copied, the batch is
in the ring and does not cross its end, and the read did not fail. -/
def RecvReady (depth : Nat) (mbox : RecvMailbox ω) : Prop :=
  match mbox.stage with
  | .idle => True
  | .locked _ copied => copied = true
  | .counted slot count _ copied =>
    copied = true ∧ slot = mbox.delivered.length % depth ∧ slot + count ≤ depth ∧
      mbox.delivered.length + count ≤ mbox.posted.length
  | .filled _ failed _ copied => copied = true ∧ failed = false

/-- The state of a mailbox whose data reads have all succeeded, with the head
last written to the device at position `deviceHead`. -/
structure RecvOk (depth : Nat) (mbox : RecvMailbox ω) (deviceHead : Nat) : Prop where
  head_eq : mbox.ctx.head = mboxIndexOf depth (mbox.delivered.length + mbox.stage.taken)
  deviceHead_eq : mbox.deviceHead = mboxIndexOf depth deviceHead
  deviceHead_le : deviceHead ≤ mbox.delivered.length
  near : mbox.posted.length ≤ deviceHead + depth
  fetched_prefix : mbox.delivered ++ mbox.stage.fetched <+: mbox.posted
  holds : RingHolds depth mbox.data mbox.posted deviceHead
  calls_read : ∀ call ∈ mbox.calls, call.dataReadFailed = false
  ready : RecvReady depth mbox

/-- A mailbox in order, wherever the device believes the head to be. -/
def RecvMailboxOk (depth : Nat) (mbox : RecvMailbox ω) : Prop :=
  ∃ deviceHead, RecvOk depth mbox deviceHead

section Steps

variable (ok : RecvOk depth mbox deviceHead)
include ok

theorem RecvOk.delivered_prefix : mbox.delivered <+: mbox.posted :=
  (List.prefix_append _ _).trans ok.fetched_prefix

theorem RecvOk.deliversOnce : DeliversOnce mbox := by
  refine ⟨ok.delivered_prefix, fun call member failed => ?_⟩
  rw [ok.calls_read call member] at failed
  cases failed

theorem RecvOk.finish_empty {ret : Ret} {headBefore : MboxIndex} (untaken : mbox.stage.taken = 0) :
    RecvOk depth (mbox.finish ret [] false headBefore) deviceHead := by
  have delivered_eq : (mbox.finish ret [] false headBefore).delivered = mbox.delivered := by
    simp [RecvMailbox.finish]
  have head_eq := ok.head_eq
  rw [untaken] at head_eq
  refine { ok with
    head_eq := ?_, deviceHead_le := ?_, fetched_prefix := ?_, calls_read := ?_, ready := trivial }
  · rw [delivered_eq]
    exact head_eq
  · rw [delivered_eq]
    exact ok.deviceHead_le
  · rw [delivered_eq]
    change mbox.delivered ++ [] <+: mbox.posted
    rw [List.append_nil]
    exact ok.delivered_prefix
  · intro call member
    obtain old | rfl : call ∈ mbox.calls ∨ call = ⟨ret, [], false, headBefore, mbox.ctx.head⟩ := by
      simpa [RecvMailbox.finish] using member
    · exact ok.calls_read call old
    · rfl

theorem RecvOk.ioctlRecvCmds {nrCmds : Nat} {copied : Bool}
    (idle : mbox.stage = .idle) (lands : copied = true) :
    RecvOk depth (mbox.ioctlRecvCmds nrCmds copied) deviceHead := by
  have head_eq := ok.head_eq
  have fetched_prefix := ok.fetched_prefix
  rw [idle] at head_eq fetched_prefix
  rw [RecvMailbox.ioctlRecvCmds]
  split
  · exact ok.finish_empty (by rw [idle]; rfl)
  · exact { ok with head_eq, fetched_prefix, ready := lands }

/-- With the tail just read, the cached context stands for the words delivered
and the words posted. -/
theorem RecvOk.represents (untaken : mbox.stage.taken = 0) :
    Represents depth (mbox.refreshedContext depth) mbox.delivered.length mbox.posted.length := by
  have head_eq := ok.head_eq
  have deviceHead_le := ok.deviceHead_le
  have near := ok.near
  rw [untaken] at head_eq
  exact
    { head_eq := head_eq
      tail_eq := rfl
      ordered := ok.delivered_prefix.length_le
      near := by omega }

theorem RecvOk.countCmds (valid : IsMboxDepth depth) {nrCmds : Nat} {copied : Bool}
    (locked : mbox.stage = .locked nrCmds copied) :
    RecvOk depth (mbox.countCmds depth nrCmds copied) deviceHead := by
  have untaken : mbox.stage.taken = 0 := by rw [locked]; rfl
  have lands : copied = true := by
    have ready := ok.ready
    rwa [RecvReady, locked] at ready
  have head_eq : mbox.ctx.head = mboxIndexOf depth mbox.delivered.length :=
    (ok.represents untaken).head_eq
  have refreshedOk : RecvOk depth { mbox with ctx := mbox.refreshedContext depth } deviceHead :=
    { ok with head_eq := ok.head_eq, ready := ok.ready }
  rw [RecvMailbox.countCmds]
  split
  · exact refreshedOk.finish_empty untaken
  · have count_eq := (ok.represents untaken).getPopableCount_eq valid
    have ordered := ok.delivered_prefix.length_le
    have inside := Nat.mod_lt mbox.delivered.length valid.pos
    have count_le : mbox.batchCount depth nrCmds ≤
        min (mbox.posted.length - mbox.delivered.length)
          (depth - mbox.delivered.length % depth) := by
      rw [RecvMailbox.batchCount, count_eq]
      exact min_le_left _ _
    refine { ok with head_eq := ?_, fetched_prefix := ?_, ready := ⟨lands, ?_, ?_, ?_⟩ }
    · change getNextIndex mbox.ctx.head _ depth = _
      rw [head_eq]
      exact getNextIndex_mboxIndexOf valid (by omega)
    · change mbox.delivered ++ [] <+: mbox.posted
      rw [List.append_nil]
      exact ok.delivered_prefix
    · rw [getDataOffset, Nat.mul_div_cancel_left _ (by decide), head_eq,
        toNat_index_mboxIndexOf valid]
    · rw [getDataOffset, Nat.mul_div_cancel_left _ (by decide), head_eq,
        toNat_index_mboxIndexOf valid]
      omega
    · change mbox.delivered.length + mbox.batchCount depth nrCmds ≤ mbox.posted.length
      omega

theorem RecvOk.readContext (valid : IsMboxDepth depth) {nrCmds : Nat} {copied success : Bool}
    (locked : mbox.stage = .locked nrCmds copied) :
    RecvOk depth (mbox.readContext depth nrCmds copied success) deviceHead := by
  rw [RecvMailbox.readContext]
  split
  · exact ok.countCmds valid locked
  · exact ok.finish_empty (by rw [locked]; rfl)

/-- The batch read is the next words posted. -/
theorem RecvOk.readData {slot count : Nat} {headBefore : MboxIndex} {copied : Bool}
    (counted : mbox.stage = .counted slot count headBefore copied) :
    RecvOk depth
      { mbox with stage := .filled (mbox.readData slot count) false headBefore copied }
      deviceHead := by
  have ready := ok.ready
  rw [RecvReady, counted] at ready
  obtain ⟨lands, rfl, inside, enough⟩ := ready
  have length_eq : (mbox.readData (mbox.delivered.length % depth) count).length = count := by
    simp [RecvMailbox.readData]
  have head_eq := ok.head_eq
  rw [counted] at head_eq
  refine { ok with head_eq := ?_, fetched_prefix := ?_, ready := ⟨lands, rfl⟩ }
  · rw [head_eq]
    exact congrArg (fun taken => mboxIndexOf depth (mbox.delivered.length + taken)) length_eq.symm
  · exact ok.holds.read ok.deviceHead_le ok.delivered_prefix inside enough

theorem RecvOk.writeHead {words : List ω} {failed : Bool} {headBefore : MboxIndex}
    {copied success : Bool} (filled : mbox.stage = .filled words failed headBefore copied) :
    RecvMailboxOk depth (mbox.writeHead words failed headBefore copied success) := by
  have ready := ok.ready
  rw [RecvReady, filled] at ready
  obtain ⟨rfl, rfl⟩ := ready
  have head_eq := ok.head_eq
  have taken := ok.fetched_prefix
  have near := ok.near
  have deviceHead_le := ok.deviceHead_le
  rw [filled] at head_eq taken
  have longer : (mbox.delivered ++ words).length = mbox.delivered.length + words.length :=
    List.length_append
  refine ⟨if success then mbox.delivered.length + words.length else deviceHead, ?_⟩
  exact
    { head_eq := by
        change mbox.ctx.head = mboxIndexOf depth ((mbox.delivered ++ words).length + 0)
        rw [longer]
        exact head_eq
      deviceHead_eq := by
        change (if success then mbox.ctx.head else mbox.deviceHead) = _
        split
        · exact head_eq
        · exact ok.deviceHead_eq
      deviceHead_le := by
        change _ ≤ (mbox.delivered ++ words).length
        rw [longer]
        split <;> omega
      near := by
        change mbox.posted.length ≤ _
        split <;> omega
      fetched_prefix := by
        change mbox.delivered ++ words ++ [] <+: mbox.posted
        rw [List.append_nil]
        exact taken
      holds := ok.holds.later (by split <;> omega)
      calls_read := by
        intro call member
        obtain old | rfl : call ∈ mbox.calls ∨
            call = ⟨none, words, false, headBefore, mbox.ctx.head⟩ := by
          simpa [RecvMailbox.writeHead, RecvMailbox.finish, RecvMailbox.replyCode] using member
        · exact ok.calls_read call old
        · rfl
      ready := trivial }

theorem RecvOk.post (valid : IsMboxDepth depth) {word : ω}
    (room : ¬ isFull (mbox.deviceContext depth) = true) :
    RecvOk depth (mbox.post depth word) deviceHead := by
  have near := ok.near
  have ordered := ok.delivered_prefix.length_le
  have deviceHead_le := ok.deviceHead_le
  have represents : Represents depth (mbox.deviceContext depth) deviceHead mbox.posted.length :=
    { head_eq := ok.deviceHead_eq
      tail_eq := rfl
      ordered := by omega
      near }
  have free : mbox.posted.length < deviceHead + depth := by
    have := mt (represents.isFull_iff valid).mpr room
    omega
  have slot : getDataOffset (mbox.deviceContext depth).tail / 8 = mbox.posted.length % depth := by
    rw [getDataOffset, Nat.mul_div_cancel_left _ (by decide), represents.tail_eq,
      toNat_index_mboxIndexOf valid]
  have longer : (mbox.posted ++ [word]).length = mbox.posted.length + 1 := by simp
  refine { ok with near := ?_, fetched_prefix := ?_, holds := ?_, ready := ?_ }
  · change (mbox.posted ++ [word]).length ≤ _
    omega
  · exact ok.fetched_prefix.trans (List.prefix_append _ _)
  · change RingHolds depth (Function.update mbox.data _ word) (mbox.posted ++ [word]) _
    rw [slot]
    exact (ok.holds.write free).append (Function.update_self ..)
  · have ready := ok.ready
    unfold RecvReady at ready ⊢
    change match mbox.stage with
      | .idle => True
      | .locked _ copied => copied = true
      | .counted slot count _ copied =>
        copied = true ∧ slot = mbox.delivered.length % depth ∧ slot + count ≤ depth ∧
          mbox.delivered.length + count ≤ (mbox.posted ++ [word]).length
      | .filled _ failed _ copied => copied = true ∧ failed = false
    cases stage : mbox.stage with
    | counted slot count headBefore copied =>
      rw [stage] at ready
      obtain ⟨lands, atSlot, inside, enough⟩ := ready
      exact ⟨lands, atSlot, inside, by omega⟩
    | _ => rwa [stage] at ready

end Steps

theorem recvOk_of_registered (registered : RecvRegistered depth mbox) :
    RecvOk depth mbox mbox.delivered.length := by
  obtain ⟨idle, head_eq, deviceHead_eq, delivered_prefix, near, holds, fresh⟩ := registered
  exact
    { head_eq := by rw [idle, head_eq, deviceHead_eq]; rfl
      deviceHead_eq
      deviceHead_le := le_rfl
      near
      fetched_prefix := by
        rw [idle]
        change mbox.delivered ++ [] <+: mbox.posted
        rwa [List.append_nil]
      holds
      calls_read := by
        intro call member
        rw [fresh] at member
        cases member
      ready := by rw [RecvReady, idle]; trivial }

theorem recvOk_step (valid : IsMboxDepth depth) {action : RecvAction ω}
    (ok : RecvOk depth mbox deviceHead) (lands : DataReadLands action)
    (stepped : recvStep depth mbox action = some next) : RecvMailboxOk depth next := by
  cases action with simp only [recvStep] at stepped
  | recvCmds nrCmds copied =>
    split at stepped <;> cases stepped
    rename_i idle
    exact ⟨deviceHead, ok.ioctlRecvCmds idle lands⟩
  | readContext success =>
    split at stepped <;> cases stepped
    rename_i locked
    exact ⟨deviceHead, ok.readContext valid locked⟩
  | readData =>
    split at stepped <;> cases stepped
    rename_i counted
    exact ⟨deviceHead, ok.readData counted⟩
  | failData remains => exact absurd lands id
  | writeHead success =>
    split at stepped <;> cases stepped
    rename_i filled
    exact ok.writeHead filled
  | post word =>
    split at stepped <;> cases stepped
    rename_i room
    exact ⟨deviceHead, ok.post valid room⟩

theorem recvOk_of_reached (valid : IsMboxDepth depth) {start : RecvMailbox ω}
    (registered : RecvRegistered depth start)
    (reached : ReachedBy (recvStep depth) (fun _ => DataReadLands) start mbox) :
    RecvMailboxOk depth mbox :=
  reached.invariant ⟨_, recvOk_of_registered registered⟩
    fun _ _ _ ⟨_, ok⟩ lands stepped => recvOk_step valid ok lands stepped

/-- A call whose data read fails returns 0 all the same. -/
theorem not_deliversOnce_of_failData {final : RecvMailbox ω} {remains : List ω} {success : Bool}
    (ok : RecvOk depth mbox deviceHead)
    (failed : recvStep depth mbox (.failData remains) = some next)
    (ended : recvStep depth next (.writeHead success) = some final) : ¬ DeliversOnce final := by
  have ready := ok.ready
  simp only [recvStep] at failed
  split at failed
  · rename_i slot count headBefore copied counted
    rw [RecvReady, counted] at ready
    obtain ⟨rfl, _⟩ := ready
    split at failed <;> cases failed
    simp only [recvStep] at ended
    cases ended
    rintro ⟨_, failures⟩
    have returned := failures ⟨none, remains, true, headBefore, mbox.ctx.head⟩
      (by simp [RecvMailbox.writeHead, RecvMailbox.finish, RecvMailbox.replyCode]) rfl
    exact returned.1 rfl
  · cases failed

/-- In every run of receives and posts in which the data reads succeed,
whatever becomes of the context reads and of the head writes, each command is
delivered once; and in such a run the first data read that fails breaks this
when its call returns. -/
theorem recv_delivers_once_iff_reads_land (valid : IsMboxDepth depth) {start : RecvMailbox ω}
    (registered : RecvRegistered depth start)
    (reached : ReachedBy (recvStep depth) (fun _ => DataReadLands) start mbox) :
    DeliversOnce mbox ∧
      ∀ remains success next final,
        recvStep depth mbox (.failData remains) = some next →
          recvStep depth next (.writeHead success) = some final → ¬ DeliversOnce final := by
  obtain ⟨deviceHead, ok⟩ := recvOk_of_reached valid registered reached
  exact ⟨ok.deliversOnce, fun _ _ _ _ failed ended =>
    not_deliversOnce_of_failData ok failed ended⟩

/-- An empty mailbox of four words. -/
def emptyRecvMailbox : RecvMailbox Nat where
  ctx := ⟨mboxIndexOf 4 0, mboxIndexOf 4 0⟩
  stage := .idle
  data _ := 0
  deviceHead := mboxIndexOf 4 0
  posted := []
  delivered := []
  calls := []

theorem emptyRecvMailbox_registered : RecvRegistered 4 emptyRecvMailbox where
  idle := rfl
  head_eq := rfl
  deviceHead_eq := rfl
  delivered_prefix := List.prefix_rfl
  near := Nat.zero_le _
  holds := ringHolds_nil
  fresh := rfl

/-- A context read and a head write fail, and nothing is lost. -/
theorem recv_delivers_once_three :
    ∃ mbox : RecvMailbox Nat,
      ReachedBy (recvStep 4) (fun _ => DataReadLands) emptyRecvMailbox mbox ∧
        mbox.delivered = [5, 6, 7] ∧ mbox.calls.map RecvCall.ret = [some .eintr, none, none] ∧
        DeliversOnce mbox := by
  have ran : ((runAllowed (recvStep 4) (fun _ => DataReadLands) emptyRecvMailbox
      [.post 5, .recvCmds 9 true, .readContext false, .recvCmds 9 true, .readContext true,
        .readData, .writeHead false, .post 6, .post 7, .recvCmds 9 true, .readContext true,
        .readData, .writeHead true]).map fun mbox =>
          (mbox.delivered, mbox.calls.map RecvCall.ret)) =
      some ([5, 6, 7], [some .eintr, none, none]) := by
    decide
  obtain ⟨mbox, final, seen⟩ := Option.map_eq_some_iff.mp ran
  simp only [Prod.mk.injEq] at seen
  have reached := reachedBy_of_runAllowed final
  exact ⟨mbox, reached, seen.1, seen.2,
    (recv_delivers_once_iff_reads_land ⟨2, by decide, rfl⟩ emptyRecvMailbox_registered reached).1⟩

/-- The data read of a call fails: the call returns 0 with the word 0 that was
in the caller's buffer, the head has moved, and the next call gets the second
word posted. -/
theorem recv_loses_unread :
    ∃ mbox : RecvMailbox Nat,
      Reached (recvStep 4) emptyRecvMailbox mbox ∧
        mbox.posted = [5, 6] ∧ mbox.delivered = [0, 6] ∧ ¬ DeliversOnce mbox := by
  have ran : ((runActions (recvStep 4) emptyRecvMailbox
      [.post 5, .post 6, .recvCmds 1 true, .readContext true, .failData [0], .writeHead true,
        .recvCmds 1 true, .readContext true, .readData, .writeHead true]).map fun mbox =>
          (mbox.posted, mbox.delivered)) = some ([5, 6], [0, 6]) := by
    decide
  obtain ⟨mbox, final, seen⟩ := Option.map_eq_some_iff.mp ran
  simp only [Prod.mk.injEq] at seen
  refine ⟨mbox, reached_of_runActions final, seen.1, seen.2, ?_⟩
  rintro ⟨delivered, _⟩
  rw [seen.1, seen.2] at delivered
  exact absurd delivered (by decide)

end MxDriver
