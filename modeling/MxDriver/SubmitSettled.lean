import MxDriver.ParallelSplitMoves
import MxDriver.SubmitReturns
import MxDriver.TransitionSystem

/-!
# Nothing is lost, and nothing given back twice

The data path with and without a split, the control path and the passthrough path, every
way in which each of them can end, and the waiters, completions and drains that come
after them in any order.
-/

namespace MxDriver

namespace CallState

open Fallible

variable {τ : Type} [Fintype τ] [DecidableEq τ] {call next : CallState τ} {index : τ}
variable {transfer : TransferHolding} {array : Bool} {size : Nat}

/-! ## One transfer -/

theorem Stands.queueSingle
    (stands : Stands false array (Only [index] fun _ => TransferHolding.Ready size) call) :
    Stands false array (Only [index] fun _ => TransferHolding.InFlight size)
      (mxTransferQueue index call) := by
  obtain ⟨transfer, found, ready⟩ := stands.found (List.mem_singleton_self index)
  have queued := stands.balanced.mark found (fun transfer => { transfer with queued := true }) rfl
    fun part => by cases part <;> rfl
  exact stands.moveSingle queued ⟨ready.size, rfl, ready.alive, ready.sound⟩

theorem Stands.ended (stands : Stands false array (Only [index] fun _ =>
      TransferHolding.InFlight size) call)
    (flying : transfer.InFlight size) (ended : call.Ended index transfer next) :
    Stands false array Given next := by
  rcases ended with gone | parked
  · exact (stands.dropSingle gone).mono given_of_vacant
  · refine stands.touch parked ?_ fun other different slot only => ?_
    · rintro _ ⟨⟩
      exact ⟨flying.queued, rfl, flying.sound⟩
    · rw [only_single_iff different] at only
      exact given_of_vacant other only

theorem Stands.waitSingle
    (stands : Stands false array (Only [index] fun _ => TransferHolding.InFlight size) call)
    (waitEnd : WaitEnd) :
    Ends (fun value next => value = size ∧ Stands false array Vacant next)
      (Stands false array Given) (mxTransferWait waitEnd index call) := by
  obtain ⟨transfer, found, flying⟩ := stands.found (List.mem_singleton_self index)
  refine (stands.balanced.mxTransferWait found flying.sound waitEnd).mono ?_
    fun next => stands.ended flying
  rintro value next ⟨rfl, gone⟩
  exact ⟨flying.size, stands.dropSingle gone⟩

/-- What a caller that waits, or does not wait, is told. -/
structure Returned (size : Nat) (nowait : Bool) (value : Nat) (call : CallState τ) : Prop where
  settled : Settled false call
  value : value = size
  vacant : nowait = false → ∀ index, call.slot index = none

omit [DecidableEq τ] in
theorem Stands.returned {nowait : Bool} (stands : Stands false false Vacant call) :
    Returned size nowait size call :=
  ⟨(stands.mono given_of_vacant).settled, rfl, fun _ => stands.slots⟩

theorem Stands.finishSingle
    (stands : Stands false false (Only [index] fun _ => TransferHolding.Ready size) call)
    (waitEnd : WaitEnd) (nowait : Bool) :
    Ends (Returned size nowait) (Settled false)
      ((do
        .update (mxTransferQueue index)
        if nowait then do
          .update (scheduleWait index)
          return size
        else mxTransferWait waitEnd index : CallProgram τ Nat) call) := by
  have flying := stands.queueSingle
  refine ends_update ?_
  cases nowait with
  | true => exact ⟨flying.scheduleAll, rfl, by simp⟩
  | false =>
    refine (flying.waitSingle waitEnd).mono ?_ fun _ given => given.settled
    rintro value next ⟨rfl, vacant⟩
    exact vacant.returned

theorem mxTransferSubmitSgOne_ends (stands : Stands false false
      (Only [index] fun _ transfer => transfer = { size := size, sgCtx := true }) call)
    (answers : TransferAnswers) (nowait : Bool) :
    Ends (Returned size nowait) (Settled false)
      (mxTransferSubmitSgOne answers index nowait call) := by
  obtain ⟨_, found, rfl⟩ := stands.found (List.mem_singleton_self index)
  refine ends_read (ends_bind (ends_onFailure
    (stands.balanced.mxTransferInitSg found answers) ?_) ?_)
  · rintro next ⟨failed, touches⟩
    have gone := touches.trans (touches.balanced.mxTransferDestroySg touches.here)
    exact ((stands.dropSingle gone).mono given_of_vacant).settled
  · rintro _ next ⟨ready, touches, holds⟩
    simp only [found, Option.elim_some]
    exact (stands.moveSingle touches holds).finishSingle answers.wait nowait

theorem allocMxTransfer_ends (answers : TransferAnswers) (index : τ) (size : Nat) :
    Ends (fun _ next => Stands false false
        (Only [index] fun _ transfer => transfer = { size := size, sgCtx := false }) next)
      (Settled false) (allocMxTransfer answers index size ({} : CallState τ)) := by
  refine (stands_start.balanced.allocMxTransfer rfl answers size).mono ?_ ?_
  · exact fun _ _ allocated => stands_start.addSingle allocated rfl
  · intro next failed
    exact ((stands_start.touch failed rfl fun _ _ _ => id).mono given_of_vacant).settled

theorem mxTransferInitCtrl_ends (stands : Stands false false
      (Only [index] fun _ transfer => transfer = { size := size, sgCtx := false }) call)
    (answers : TransferAnswers) :
    Ends (fun _ next => Stands false false
        (Only [index] fun _ transfer => transfer.Ready size ∧ transfer.Bare) next)
      (Settled false)
      ((mxTransferInitCtrl answers index).onFailure (·.releaseMxTransfer index) call) := by
  obtain ⟨_, found, rfl⟩ := stands.found (List.mem_singleton_self index)
  refine ends_onFailure ((stands.balanced.mxTransferInitCtrl found answers).mono ?_
    fun _ => id) ?_
  · rintro _ next ⟨ready, touches, holds⟩
    exact stands.moveSingle touches holds
  · rintro next ⟨failed, touches, bare⟩
    have gone := touches.trans (touches.balanced.releaseMxTransfer touches.here bare)
    exact ((stands.dropSingle gone).mono given_of_vacant).settled

theorem submitCtrl_ends (answers : TransferAnswers) (index : τ) (size : Nat) (nowait : Bool) :
    Ends (Returned size nowait) (Settled false)
      (submitCtrl answers index size nowait ({} : CallState τ)) := by
  refine ends_bind (allocMxTransfer_ends answers index size) fun _ _ allocated => ?_
  refine ends_bind (mxTransferInitCtrl_ends allocated answers) fun _ _ stands => ?_
  have ready := stands.mono fun other slot => only_mono fun _ _ holds => holds.1
  exact ready.finishSingle answers.wait nowait

theorem submitPassthruCommand_ends (answers : TransferAnswers) (index : τ) (size : Nat)
    (supported noCompletion : Bool) :
    Ends (Returned 0 false) (Settled false)
      (submitPassthruCommand answers index size supported noCompletion ({} : CallState τ)) := by
  refine ends_refuse (fun _ => (stands_start.mono given_of_vacant).settled) fun _ => ?_
  refine ends_bind (allocMxTransfer_ends answers index size) fun _ _ allocated => ?_
  refine ends_bind (mxTransferInitCtrl_ends allocated answers) fun _ ready stands => ?_
  obtain ⟨transfer, found, holds, bare⟩ := stands.found (List.mem_singleton_self index)
  have queued := stands.balanced.mark found (fun transfer => { transfer with queued := true }) rfl
    fun part => by cases part <;> rfl
  have flying : { transfer with queued := true }.InFlight size :=
    ⟨holds.size, rfl, holds.alive, holds.sound⟩
  have waiting : Stands false false (Only [index] fun _ => TransferHolding.InFlight size) _ :=
    stands.moveSingle queued flying
  refine ends_update ((queued.balanced.passthruWait queued.here bare answers.wait
    noCompletion).mono ?_ fun _ ended => (waiting.ended flying ended).settled)
  rintro _ next ⟨rfl, gone⟩
  exact (waiting.dropSingle gone).returned

/-! ## A split transfer -/

section Split

variable {indexes rest : List τ} {answers : CallAnswers τ} {slice : τ → Nat} {creator : Bool}
variable {state ahead behind failed : τ → Option TransferHolding → Prop}

/-- Each of the given slots is in its state, and the others are empty. -/
def Among (indexes : List τ) (state : τ → Option TransferHolding → Prop) (index : τ)
    (slot : Option TransferHolding) : Prop :=
  if index ∈ indexes then state index slot else slot = none

/-- While a loop goes through the slots, those to come are in one state and those it has
seen are in another. -/
def Between (rest : List τ) (ahead behind : τ → Option TransferHolding → Prop) (index : τ)
    (slot : Option TransferHolding) : Prop :=
  if index ∈ rest then ahead index slot else behind index slot

omit [Fintype τ] in
theorem among_mono {state' : τ → Option TransferHolding → Prop} {slot : Option TransferHolding}
    (weaker : index ∈ indexes → state index slot → state' index slot)
    (among : Among indexes state index slot) : Among indexes state' index slot := by
  unfold Among at among ⊢
  split_ifs at among ⊢ with member
  · exact weaker member among
  · exact among

/-- What holds before a round of such a loop. -/
structure Looping (creator array : Bool) (indexes : List τ)
    (ahead behind : τ → Option TransferHolding → Prop) (rest : List τ) (call : CallState τ) :
    Prop where
  nodup : rest.Nodup
  subset : ∀ index ∈ rest, index ∈ indexes
  stands : Stands creator array (Among indexes (Between rest ahead behind)) call

theorem Looping.upcoming
    (looping : Looping creator array indexes ahead behind (index :: rest) call) :
    ahead index (call.slot index) := by
  have slot := looping.stands.slots index
  rwa [Among, if_pos (looping.subset index (List.mem_cons_self ..)), Between,
    if_pos (List.mem_cons_self ..)] at slot

theorem Looping.advance {slot : Option TransferHolding}
    (looping : Looping creator array indexes ahead behind (index :: rest) call)
    (touches : call.Touches next index slot) (seen : behind index slot) :
    Looping creator array indexes ahead behind rest next where
  nodup := (List.nodup_cons.mp looping.nodup).2
  subset other member := looping.subset other (List.mem_cons_of_mem _ member)
  stands := by
    have fresh := (List.nodup_cons.mp looping.nodup).1
    have member := looping.subset index (List.mem_cons_self ..)
    refine looping.stands.touch touches ?_ fun other different slot among => ?_
    · rw [Among, if_pos member, Between, if_neg fresh]
      exact seen
    · refine among_mono (fun _ => ?_) among
      simp [Between, different]

theorem looping_start (nodup : indexes.Nodup)
    (stands : Stands creator array (Among indexes ahead) call) :
    Looping creator array indexes ahead behind indexes call where
  nodup := nodup
  subset _ := id
  stands := stands.mono fun _ _ => among_mono fun member holds => by
    rwa [Between, if_pos member]

theorem Looping.finished (looping : Looping creator array indexes ahead behind [] call) :
    Stands creator array (Among indexes behind) call :=
  looping.stands.mono fun _ _ => among_mono fun _ holds => by simpa [Between] using holds

theorem ends_overSlots {body : τ → CallProgram τ Unit}
    (failed : τ → Option TransferHolding → Prop) (nodup : indexes.Nodup)
    (stands : Stands creator array (Among indexes ahead) call)
    (round : ∀ index (now : CallState τ), index ∈ indexes → now.Balanced →
      now.creator = creator → ahead index (now.slot index) →
      Ends (fun _ next => ∃ slot, now.Touches next index slot ∧ behind index slot)
        (fun next => ∃ slot, now.Touches next index slot ∧ failed index slot) (body index now)) :
    Ends (fun _ => Stands creator array (Among indexes behind))
      (Stands creator array (Among indexes fun index slot =>
        ahead index slot ∨ behind index slot ∨ failed index slot)) (forEach body indexes call) := by
  have rounds : ∀ index rest now, Looping creator array indexes ahead behind (index :: rest) now →
      Ends (fun _ => Looping creator array indexes ahead behind rest)
        (Stands creator array (Among indexes fun index slot =>
          ahead index slot ∨ behind index slot ∨ failed index slot)) (body index now) := by
    intro index rest now looping
    have member := looping.subset index (List.mem_cons_self ..)
    refine (round index now member looping.stands.balanced looping.stands.creator
      looping.upcoming).mono ?_ ?_
    · rintro _ next ⟨slot, touches, seen⟩
      exact looping.advance touches seen
    · rintro next ⟨slot, touches, broken⟩
      refine looping.stands.touch touches ?_ fun other _ slot => among_mono fun _ holds => ?_
      · rw [Among, if_pos member]
        exact .inr (.inr broken)
      · unfold Between at holds
        split_ifs at holds
        · exact .inl holds
        · exact .inr (.inl holds)
  exact (ends_forEach _ rounds (looping_start nodup stands)).mono
    (fun _ _ finished => finished.finished) fun _ => id

theorem foldl_overSlots {f : CallState τ → τ → CallState τ} (nodup : indexes.Nodup)
    (stands : Stands creator array (Among indexes ahead) call)
    (round : ∀ index (now : CallState τ), index ∈ indexes → now.Balanced →
      ahead index (now.slot index) →
        ∃ slot, now.Touches (f now index) index slot ∧ behind index slot) :
    Stands creator array (Among indexes behind) (indexes.foldl f call) := by
  refine (foldl_invariant (Looping creator array indexes ahead behind) ?_
    (looping_start nodup stands)).finished
  intro index rest now looping
  obtain ⟨slot, touches, seen⟩ := round index now (looping.subset index (List.mem_cons_self ..))
    looping.stands.balanced looping.upcoming
  exact looping.advance touches seen

/-! The stages of a slice. -/

def Allocated (slice : τ → Nat) (index : τ) (slot : Option TransferHolding) : Prop :=
  slot = some { size := slice index, sgCtx := true }

def Prepared (slice : τ → Nat) (index : τ) (slot : Option TransferHolding) : Prop :=
  ∃ transfer, slot = some transfer ∧ transfer.Ready (slice index)

def Flying (slice : τ → Nat) (index : τ) (slot : Option TransferHolding) : Prop :=
  ∃ transfer, slot = some transfer ∧ transfer.InFlight (slice index)

def Occupied (_ : τ) (slot : Option TransferHolding) : Prop := slot ≠ none

theorem stands_of_among_vacant (stands : Stands creator array (Among indexes Vacant) call) :
    Stands creator array Vacant call := by
  refine stands.mono fun index slot among => ?_
  unfold Among at among
  split_ifs at among <;> exact among

theorem allocMxTransfers_ends (nodup : indexes.Nodup) (stands : Stands true false Vacant call) :
    Ends (fun _ => Stands true true (Among indexes (Allocated slice)))
      (Stands true false Vacant) (allocMxTransfers answers slice indexes call) := by
  refine ends_refuse (fun _ => stands) fun _ => ends_update ?_
  have listed : Stands true true (Among indexes Vacant) call.newTransferArray := by
    refine stands.newTransferArray.mono fun index slot vacant => ?_
    unfold Among
    split_ifs <;> exact vacant
  refine ends_onFailure (ends_overSlots Vacant nodup listed ?_) fun now broken => ?_
  · intro index now _ balanced creator vacant
    refine (balanced.allocMxTransferSg vacant creator (answers.transfer index) _).mono ?_ ?_
    · exact fun _ _ made => ⟨_, made, rfl⟩
    · exact fun _ failed => ⟨_, failed, rfl⟩
  · refine (stands_of_among_vacant (foldl_overSlots nodup broken ?_)).freeTransferArray
    intro index now _ balanced state
    cases found : now.slot index with
    | none =>
      simp only [Option.isSome_none]
      exact ⟨none, balanced.empty found, rfl⟩
    | some transfer =>
      have bare : transfer.Bare := by
        rcases state with vacant | allocated | vacant
        · rw [found] at vacant
          cases vacant
        · rw [found] at allocated
          cases allocated
          exact ⟨rfl, rfl⟩
        · rw [found] at vacant
          cases vacant
      simp only [Option.isSome_some]
      exact ⟨none, balanced.releaseMxTransfer found bare, rfl⟩

theorem prepare_ends (nodup : indexes.Nodup)
    (stands : Stands false true (Among indexes (Allocated slice)) call) :
    Ends (fun _ => Stands false true (Among indexes (Prepared slice))) (Settled false)
      ((forEach (fun index => mxTransferInitSg (answers.transfer index) index)
        indexes).onFailure (fun call =>
          (indexes.foldl (fun call index => call.mxTransferDestroySg index) call).freeTransferArray)
        call) := by
  refine ends_onFailure (ends_overSlots Occupied nodup stands ?_) fun now broken => ?_
  · intro index now _ balanced _ found
    refine (balanced.mxTransferInitSg found (answers.transfer index)).mono ?_ ?_
    · rintro _ next ⟨ready, touches, holds⟩
      exact ⟨_, touches, ready, rfl, holds⟩
    · rintro next ⟨failed, touches⟩
      exact ⟨_, touches, by simp [Occupied]⟩
  · have destroyed : Stands false true (Among indexes Vacant)
        (indexes.foldl (fun call index => call.mxTransferDestroySg index) now) := by
      refine foldl_overSlots nodup broken ?_
      intro index now _ balanced state
      have occupied : ∃ transfer, now.slot index = some transfer := by
        rcases state with allocated | ⟨transfer, found, -⟩ | occupied
        · exact ⟨_, allocated⟩
        · exact ⟨_, found⟩
        · exact Option.ne_none_iff_exists'.mp occupied
      obtain ⟨transfer, found⟩ := occupied
      exact ⟨none, balanced.mxTransferDestroySg found, rfl⟩
    have vacant := (stands_of_among_vacant destroyed).freeTransferArray
    exact (vacant.mono given_of_vacant).settled

theorem queueAll (nodup : indexes.Nodup)
    (stands : Stands false true (Among indexes (Prepared slice)) call) :
    Stands false true (Among indexes (Flying slice))
      (indexes.foldl (fun call index => mxTransferQueue index call) call) := by
  refine foldl_overSlots nodup stands ?_
  rintro index now _ balanced ⟨transfer, found, ready⟩
  have queued := balanced.mark found (fun transfer => { transfer with queued := true }) rfl
    fun part => by cases part <;> rfl
  exact ⟨_, queued, _, rfl, ready.size, rfl, ready.alive, ready.sound⟩

/-- The transfers that were waited for are gone, or parked once there was an error. -/
def Waited (slice : τ → Nat) (rest : List τ) (err : Ret) (index : τ)
    (slot : Option TransferHolding) : Prop :=
  if index ∈ rest then Flying slice index slot
  else slot = none ∨ err ≠ none ∧ Given index slot

theorem Stands.waited {err err' : Ret} {slot : Option TransferHolding}
    (stands : Stands false true (Waited slice (index :: rest) err) call)
    (nodup : (index :: rest).Nodup) (touches : call.Touches next index slot)
    (here : slot = none ∨ err' ≠ none ∧ Given index slot) (later : err ≠ none → err' ≠ none) :
    Stands false true (Waited slice rest err') next := by
  have fresh := (List.nodup_cons.mp nodup).1
  refine stands.touch touches ?_ fun other different slot waited => ?_
  · rw [Waited, if_neg fresh]
    exact here
  · simp only [Waited, List.mem_cons, different, false_or] at waited ⊢
    split_ifs at waited ⊢
    · exact waited
    · exact waited.imp id fun parked => ⟨later parked.1, parked.2⟩

theorem mxTransferWaitAll_ends {err : Ret} {transferred : Nat} (nodup : rest.Nodup)
    (stands : Stands false true (Waited slice rest err) call) :
    Ends (fun value next => err = none ∧ Stands false true Vacant next ∧
        value = transferred + (rest.map slice).sum)
      (Stands false true Given) (mxTransferWaitAll answers rest err transferred call) := by
  induction rest generalizing call err transferred with
  | nil =>
    cases err with
    | none =>
      refine ⟨rfl, stands.mono fun index slot waited => ?_, by simp⟩
      simpa [Waited, Vacant] using waited
    | some error =>
      refine stands.mono fun index slot waited => ?_
      simp only [Waited, List.not_mem_nil, if_false] at waited
      exact waited.elim (given_of_vacant index) And.right
  | cons index rest ih =>
    have left := (List.nodup_cons.mp nodup).2
    have upcoming := stands.slots index
    rw [Waited, if_pos (List.mem_cons_self ..)] at upcoming
    obtain ⟨transfer, found, flying⟩ := upcoming
    refine ends_attempt (stands.balanced.mxTransferWait found flying.sound _) ?_ ?_
    · rintro value next ⟨rfl, gone⟩
      refine (ih left (stands.waited nodup gone (.inl rfl) id)).mono ?_ fun _ => id
      rintro value next ⟨clean, vacant, rfl⟩
      refine ⟨clean, vacant, ?_⟩
      simp only [List.map_cons, List.sum_cons, flying.size]
      omega
    · intro error next ended
      have parked : Stands false true (Waited slice rest (some error)) next := by
        rcases ended with gone | parked
        · exact stands.waited nodup gone (.inl rfl) (by simp)
        · refine stands.waited nodup parked (.inr ⟨by simp, ?_⟩) (by simp)
          rintro _ ⟨⟩
          exact ⟨flying.queued, rfl, flying.sound⟩
      refine (ih left parked).mono ?_ fun _ => id
      rintro value next ⟨⟨⟩, -⟩

theorem mxTransferSubmitSgParallel_ends (nodup : indexes.Nodup)
    (stands : Stands false true (Among indexes (Allocated slice)) call) (nowait : Bool) :
    Ends (Returned (indexes.map slice).sum nowait)
      (Settled false) (mxTransferSubmitSgParallel answers indexes nowait call) := by
  have total : call.totalSize indexes =
      (indexes.map slice).sum := by
    unfold totalSize
    congr 1
    refine List.map_congr_left fun index member => ?_
    have slot := stands.slots index
    rw [Among, if_pos member] at slot
    rw [slot, Option.elim_some]
  refine ends_read (ends_bind (prepare_ends nodup stands) fun _ prepared ready => ?_)
  have flying := queueAll nodup ready
  refine ends_update ?_
  cases nowait with
  | true =>
    have flights : Stands false true (Only indexes fun index =>
        TransferHolding.InFlight (slice index)) _ := flying.mono fun _ _ => id
    exact ends_update (ends_update ⟨flights.scheduleAll.freeTransferArray, total, by simp⟩)
  | false =>
    have waiting : Stands false true (Waited slice indexes none)
        (indexes.foldl (fun call index => mxTransferQueue index call) prepared) := by
      refine flying.mono fun index slot among => ?_
      unfold Among at among
      unfold Waited
      split_ifs at among ⊢
      · exact among
      · exact .inl among
    refine ends_ensuring (mxTransferWaitAll_ends nodup waiting) ?_ ?_
    · rintro value next ⟨-, vacant, rfl⟩
      rw [Nat.zero_add]
      exact vacant.freeTransferArray.returned
    · exact fun _ given => given.freeTransferArray.settled

end Split

/-- The bytes of a submission with the given transfers. -/
def submissionSize (userAddr size : Nat) : List τ → Nat
  | [_] => size
  | indexes => (indexes.map (sliceSize userAddr size indexes)).sum

theorem sliceSizes_split {context : SgContext} {count : Nat} (mapped : MappedBuffer context)
    (some : 0 < count) (most : count ≤ context.pagesNr) :
    (sliceSizes context.userAddr context.totalSize count).length = count ∧
      (sliceSizes context.userAddr context.totalSize count).sum = context.totalSize := by
  obtain ⟨transfers, built⟩ : ∃ transfers,
      MxDriver.allocMxTransfers ⟨true, .some⟩ context 0 count = .some transfers :=
    Option.isSome_iff_exists.mp (allocSlices_isSome fun _ => rfl)
  obtain ⟨length, split⟩ := allocMxTransfers_splitOf mapped some most built
  have sizes : sliceSizes context.userAddr context.totalSize count =
      transfers.map SgTransfer.size := by
    rw [sliceSizes, ← mapped.pages]
    exact congrArg (fun built => (built.getD []).map SgTransfer.size) built
  rw [sizes, List.length_map]
  exact ⟨length, split.sum_size⟩

omit [Fintype τ] in
/-- As many transfers as `mx_parallel_count_for` allows have the bytes of the buffer. -/
theorem submissionSize_eq {context : SgContext} {indexes : List τ} (nodup : indexes.Nodup)
    (mapped : MappedBuffer context) (some : 0 < indexes.length)
    (most : indexes.length ≤ context.pagesNr) :
    submissionSize context.userAddr context.totalSize indexes = context.totalSize := by
  obtain ⟨length, sum⟩ := sliceSizes_split mapped some most
  unfold submissionSize
  split
  · rfl
  · have placed : indexes.map (sliceSize context.userAddr context.totalSize indexes) =
        sliceSizes context.userAddr context.totalSize indexes.length := by
      refine List.ext_getElem (by rw [List.length_map, length]) fun place inside within => ?_
      rw [List.getElem_map, sliceSize, nodup.idxOf_getElem, List.getD_eq_getElem?_getD,
        List.getElem?_eq_getElem within, Option.getD_some]
    rw [placed, sum]

/-- The call's own reference on the mapping goes when its transfers have theirs. -/
theorem allocSingle_ends (stands : Stands true false Vacant call) (answers : TransferAnswers)
    (index : τ) (size : Nat) :
    Ends (fun _ => Stands false false
        (Only [index] fun _ transfer => transfer = { size := size, sgCtx := true }))
      (Settled false)
      ((allocMxTransferSg answers index size).ensuring putCreator call) := by
  refine ends_ensuring (stands.balanced.allocMxTransferSg (stands.slots index) stands.creator
    answers size) ?_ ?_
  · intro _ next allocated
    have added : Stands true false
        (Only [index] fun _ transfer => transfer = { size := size, sgCtx := true }) next :=
      stands.addSingle allocated rfl
    exact added.putCreator
  · intro next failed
    have vacant : Stands true false Vacant next := stands.touch failed rfl fun _ _ _ => id
    exact (vacant.putCreator.mono given_of_vacant).settled

theorem mxTransferSubmitSgSplit_ends {indexes : List τ} (nodup : indexes.Nodup)
    (answers : CallAnswers τ) (userAddr size : Nat) (nowait : Bool) :
    Ends (Returned (submissionSize userAddr size indexes) nowait) (Settled false)
      (mxTransferSubmitSgSplit answers userAddr size indexes nowait ({} : CallState τ)) := by
  have create := mxSgContextCreate_ends (τ := τ) answers.services userAddr size
  refine ends_bind (create.mono (fun _ _ => id) fun _ failed =>
    (failed.mono given_of_vacant).settled) fun _ mapped stands => ?_
  split
  · rename_i index
    refine ends_bind (allocSingle_ends stands _ index size) fun _ _ allocated => ?_
    exact mxTransferSubmitSgOne_ends allocated _ nowait
  · rename_i several
    have sizes : submissionSize userAddr size indexes =
        (indexes.map (sliceSize userAddr size indexes)).sum := by
      rw [submissionSize.eq_2]
      exact several
    rw [sizes]
    refine ends_bind (ends_ensuring (allocMxTransfers_ends nodup stands)
      (fun _ _ allocated => allocated.putCreator)
      fun _ failed => (failed.putCreator.mono given_of_vacant).settled) fun _ _ allocated => ?_
    exact mxTransferSubmitSgParallel_ends nodup allocated nowait

/-! ## After the call -/

theorem Settled.touch {slot : Option TransferHolding} (settled : Settled array call)
    (touches : call.Touches next index slot) (left : LeftOk slot (call.work index)) :
    Settled array next where
  balanced := touches.balanced
  creator := touches.creator.trans settled.creator
  transferArray := touches.transferArray.trans settled.transferArray
  left other := by
    rw [touches.slot, touches.work]
    by_cases same : other = index
    · subst same
      rwa [Function.update_self]
    · rw [Function.update_of_ne same]
      exact settled.left other

theorem Balanced.putIoRef (balanced : call.Balanced) (works : call.work index = true) :
    ({ call.give (.ioRef index) 1 with
      work := Function.update call.work index false } : CallState τ).Balanced where
  ledger := by
    have held : 1 ≤ call.expected (.ioRef index) := by simp [expected, works]
    refine (balanced.ledger.give held).congr fun resource => ?_
    cases resource with
    | ioRef other =>
      by_cases same : other = index
      · subst same
        simp [expected, works]
      · simp [expected, same]
    | _ => exact Function.update_of_ne (by simp) _ _
  users := balanced.users
  live := balanced.live

omit [DecidableEq τ] in
/-- Whoever has work to do has a transfer to do it on. -/
theorem Settled.found (settled : Settled array call) (works : call.work index = true) :
    ∃ transfer, call.slot index = some transfer ∧ transfer.queued = true ∧ transfer.Sound := by
  have left := settled.left index
  rw [works] at left
  cases slot : call.slot index with
  | none =>
    rw [slot] at left
    cases left
  | some transfer =>
    rw [slot] at left
    exact ⟨transfer, rfl, left.1, left.2.1⟩

theorem Settled.waitWork (settled : Settled array call) (works : call.work index = true)
    (waitEnd : WaitEnd) : Settled array (mxTransferWaitWork waitEnd index call) := by
  obtain ⟨transfer, found, queued, sound⟩ := settled.found works
  have ended : call.Ended index transfer (mxTransferWait waitEnd index call).2 :=
    ((settled.balanced.mxTransferWait found sound waitEnd).mono
      (fun _ _ gone => Or.inl gone.2) fun _ => id).left
  have rest : ∀ slot, call.Touches (mxTransferWait waitEnd index call).2 index slot →
      LeftOk slot false → Settled array (mxTransferWaitWork waitEnd index call) := by
    intro slot touches left
    refine ⟨touches.balanced.putIoRef (by rw [touches.work, works]),
      touches.creator.trans settled.creator,
      touches.transferArray.trans settled.transferArray, fun other => ?_⟩
    change LeftOk ((mxTransferWait waitEnd index call).2.slot other)
      (Function.update (mxTransferWait waitEnd index call).2.work index false other)
    rw [touches.slot, touches.work]
    by_cases same : other = index
    · subst same
      rwa [Function.update_self, Function.update_self]
    · rw [Function.update_of_ne same, Function.update_of_ne same]
      exact settled.left other
  rcases ended with gone | parked
  · exact rest none gone rfl
  · exact rest _ parked ⟨queued, sound, rfl⟩

theorem Settled.step {action : LateAction τ} (settled : Settled array call)
    (stepped : lateStep call action = some next) : Settled array next := by
  cases action with
  | waitWork index waitEnd =>
    simp only [lateStep, Option.ite_none_right_eq_some, Option.some.injEq] at stepped
    obtain ⟨works, rfl⟩ := stepped
    exact settled.waitWork works waitEnd
  | claim index =>
    simp only [lateStep, Option.ite_none_right_eq_some, Option.some.injEq] at stepped
    obtain ⟨queued, rfl⟩ := stepped
    have left := settled.left index
    cases found : call.slot index with
    | none => simp [found] at queued
    | some transfer =>
      rw [found] at left
      exact settled.touch (settled.balanced.transferIdFree found) left
  | drain index =>
    simp only [lateStep, Option.ite_none_right_eq_some, Option.some.injEq] at stepped
    obtain ⟨zombie, rfl⟩ := stepped
    have left := settled.left index
    cases found : call.slot index with
    | none => simp [found] at zombie
    | some transfer =>
      rw [found] at left zombie
      obtain ⟨-, sound, owner⟩ := left
      rw [show transfer.isZombie = true from zombie] at owner
      exact settled.touch (settled.balanced.teardown found sound) (by simpa [LeftOk] using owner)

/-! ## Every submission -/

/-- The calls that submit transfers. -/
inductive Submission (τ : Type)
  | data (answers : CallAnswers τ) (userAddr size : Nat) (indexes : List τ) (nowait : Bool)
  | ctrl (answers : TransferAnswers) (index : τ) (size : Nat) (nowait : Bool)
  | passthru (answers : TransferAnswers) (index : τ) (size : Nat) (supported noCompletion : Bool)

namespace Submission

/-- The transfers of a split have their own records. -/
def Distinct : Submission τ → Prop
  | .data _ _ _ indexes _ => indexes.Nodup
  | .ctrl .. | .passthru .. => True

def run : Submission τ → Except Errno Nat × CallState τ
  | .data answers userAddr size indexes nowait =>
    mxTransferSubmitSgSplit answers userAddr size indexes nowait {}
  | .ctrl answers index size nowait => submitCtrl answers index size nowait {}
  | .passthru answers index size supported noCompletion =>
    submitPassthruCommand answers index size supported noCompletion {}

def nowait : Submission τ → Bool
  | .data _ _ _ _ nowait | .ctrl _ _ _ nowait => nowait
  | .passthru .. => false

/-- A call that splits has as many transfers as `mx_parallel_count_for` says. -/
def Parallel : Submission τ → Prop
  | .data _ userAddr size indexes _ => ∃ dmaSize parallelCount parallelSplitRatio,
      mxParallelCountFor dmaSize parallelCount parallelSplitRatio userAddr size = indexes.length
  | .ctrl .. | .passthru .. => True

/-- The bytes that are asked for; the success of a passthrough command is 0. -/
def requested : Submission τ → Nat
  | .data _ _ size _ _ | .ctrl _ _ size _ => size
  | .passthru .. => 0

/-- What a call that succeeds returns. -/
def bytes : Submission τ → Nat
  | .data _ userAddr size indexes _ => submissionSize userAddr size indexes
  | .ctrl _ _ size _ => size
  | .passthru .. => 0

theorem run_ends (submission : Submission τ) (distinct : submission.Distinct) :
    Ends (Returned submission.bytes submission.nowait) (Settled false) submission.run := by
  cases submission with
  | data answers userAddr size indexes nowait =>
    exact mxTransferSubmitSgSplit_ends distinct answers userAddr size nowait
  | ctrl answers index size nowait => exact submitCtrl_ends answers index size nowait
  | passthru answers index size supported noCompletion =>
    exact submitPassthruCommand_ends answers index size supported noCompletion

omit [Fintype τ] in
/-- Once the buffer is mapped, the slices of a split are the whole of it. -/
theorem bytes_eq_requested {submission : Submission τ} (distinct : submission.Distinct)
    (parallel : submission.Parallel) {value : Nat} (result : submission.run.1 = .ok value) :
    submission.bytes = submission.requested := by
  cases submission with
  | ctrl | passthru => rfl
  | data answers userAddr size indexes nowait =>
    obtain ⟨context, created⟩ : ∃ context,
        MxDriver.mxSgContextCreate answers.services userAddr size = .ok context := by
      have first := mxSgContextCreate_result answers.services userAddr size ({} : CallState τ)
      cases outcome : MxDriver.mxSgContextCreate answers.services userAddr size with
      | ok context => exact ⟨context, rfl⟩
      | error error =>
        rw [outcome] at first
        cases (bind_error first).symm.trans result
    obtain ⟨mapped, rfl, rfl⟩ := mxSgContextCreate_mapped created
    obtain ⟨dmaSize, parallelCount, parallelSplitRatio, count⟩ := parallel
    obtain ⟨least, most⟩ := mxParallelCountFor_bounds mapped dmaSize parallelCount
      parallelSplitRatio
    rw [count] at least most
    exact submissionSize_eq distinct mapped (by omega) (by omega)

end Submission

omit [DecidableEq τ] in
theorem Settled.context_isSome_iff (settled : Settled array call) :
    call.context.isSome ↔ ∃ index, SharesMapping (call.slot index) := by
  have users := settled.balanced.users
  rw [settled.creator, Bool.toNat_false, Nat.zero_add] at users
  cases context : call.context with
  | none =>
    rw [refcount, context, Option.elim_none] at users
    have noUser := tally_eq_zero_iff.mp users.symm
    simpa using noUser
  | some holding =>
    have live := settled.balanced.live holding context
    rw [refcount, context, Option.elim_some] at users
    rw [users] at live
    exact iff_of_true rfl (exists_of_tally_pos live)

omit [DecidableEq τ] in
theorem Settled.expected_eq_zero (settled : Settled false call)
    (vacant : ∀ index, call.slot index = none) (resource : CallResource τ) :
    call.expected resource = 0 := by
  have context : call.context = none := by
    have unused : ¬∃ index, SharesMapping (call.slot index) := by simp [SharesMapping, vacant]
    rw [← settled.context_isSome_iff] at unused
    simpa using unused
  have idle : ∀ index, call.work index = false := by
    intro index
    have left := settled.left index
    rw [vacant index] at left
    exact left
  cases resource <;> simp [expected, context, vacant, idle, settled.transferArray]

/-- Whatever the kernel answers, a submission and all that comes after it keep exact
records: nothing is given back that is not held, the mapping is there exactly while a
transfer uses it, what is left of a transfer has one owner, and when the last transfer is
gone nothing is held any more.  A caller that waits and is told of success has no transfer
left, and all of its bytes were moved; those of a call that splits as it should are the ones
that were asked for. -/
theorem submission_gives_back {submission : Submission τ} (distinct : submission.Distinct)
    {late : CallState τ} (reached : Reached lateStep submission.run.2 late) :
    (∀ resource, late.ledger.held resource = late.expected resource) ∧
      late.ledger.faults = 0 ∧
      (late.context.isSome ↔ ∃ index, SharesMapping (late.slot index)) ∧
      (∀ index transfer, late.slot index = some transfer →
        transfer.isZombie = !late.work index) ∧
      ((∀ index, late.slot index = none) → ∀ resource, late.ledger.held resource = 0) ∧
      (∀ value, submission.run.1 = .ok value → value = submission.bytes ∧
        (submission.Parallel → value = submission.requested) ∧
        (submission.nowait = false → ∀ index, submission.run.2.slot index = none)) := by
  have ends := submission.run_ends distinct
  have returned : Settled false submission.run.2 :=
    (ends.mono (fun _ _ returned => returned.settled) fun _ => id).left
  have settled : Settled false late :=
    reached.invariant returned fun _ _ _ settled _ stepped => settled.step stepped
  have held : ∀ resource, late.ledger.held resource = late.expected resource :=
    congrFun settled.balanced.ledger.held
  refine ⟨held, settled.balanced.ledger.faults, settled.context_isSome_iff, ?_, ?_, ?_⟩
  · intro index transfer found
    have left := settled.left index
    rw [found] at left
    exact left.2.2
  · intro vacant resource
    rw [held, settled.expected_eq_zero vacant]
  · intro value result
    rcases outcome : submission.run with ⟨answer, left⟩
    rw [outcome] at ends result
    subst result
    exact ⟨ends.value, fun parallel => ends.value.trans
      (submission.bytes_eq_requested distinct parallel (congrArg Prod.fst outcome)), ends.vacant⟩

/-- Two slices, of which the first completes and the second is left to the device. -/
def splitWrite : Submission Party :=
  .data {
    services := plainServices
    transferArray := true
    transfer := fun index => {
      slab := true
      id := true
      lease := none
      command := .list 1 true true (fun _ => true) none
      wait := if index = 0 then .completed else .parked .etimedout } }
    pageSize (2 * pageSize) [0, 1] false

theorem submission_gives_back_splitWrite :
    ∃ late, runActions lateStep splitWrite.run.2 [.claim 1, .drain 1] = some late ∧
      splitWrite.run.1 = .error .etimedout ∧ splitWrite.run.2.ledger.held .mapping = 1 ∧
      late.ledger.held .mapping = 0 := by
  have distinct : splitWrite.Distinct := by simp [splitWrite, Submission.Distinct]
  have run : runActions lateStep splitWrite.run.2 [.claim 1, .drain 1] = some _ := rfl
  have given := submission_gives_back distinct (reached_of_runActions run)
  exact ⟨_, run, rfl, rfl, given.2.2.2.2.1 (by decide) .mapping⟩

end CallState

end MxDriver
