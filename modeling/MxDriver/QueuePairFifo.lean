import MxDriver.QueuePair

/-!
# A queue pair loses, repeats and reorders nothing

Each pointer of the queue pair is the slot of a position in one of the two
sequences that pass through the rings.  The submission tail and head, the last
rung tail, and the last rung completion head trail one another by less than a
lap, so that the wrapped pointers can be compared as the positions would be.
-/

namespace MxDriver

variable {α β : Type} {depth : Nat} {pair next : QueuePair α β}

/-- What the submit thread knows once the push is admitted: a slot is free, and
after the copy the command is in it. -/
def PushReady (depth : Nat) (pair : QueuePair α β) (known : Nat) : Prop :=
  match pair.pushing with
  | .idle => True
  | .admitted _ => pair.pushed.length + 1 < known + depth
  | .copied comm =>
    pair.pushed.length + 1 < known + depth ∧
      pair.queue.sqes (pair.pushed.length % depth) = comm

/-- The submission ring.  `rung` is the position of the last rung tail, and
`known` the position of the head the submit thread compares with, which may lag
behind the device. -/
structure SubmissionOk (depth : Nat) (pair : QueuePair α β) (known rung : Nat) : Prop where
  tail_eq : pair.queue.sqTail = pair.pushed.length % depth
  head_eq : pair.queue.sqHead = known % depth
  lastTail_eq : pair.queue.lastSqTail = rung % depth
  doorbell_eq : pair.sqDoorbell = pair.queue.lastSqTail
  known_le : known ≤ pair.fetched.length
  fetched_le : pair.fetched.length ≤ rung
  rung_le : rung ≤ pair.pushed.length
  room : pair.pushed.length < known + depth
  fetched_prefix : pair.fetched <+: pair.pushed
  holds : RingHolds depth pair.queue.sqes pair.pushed pair.fetched.length
  ready : PushReady depth pair known

/-- What the complete thread knows once the pop is admitted: an entry is
waiting, and after the copy it has that entry. -/
def PopReady (pair : QueuePair α β) : Prop :=
  match pair.popping with
  | .idle => True
  | .admitted => pair.popped.length < pair.posted.length
  | .copied cmpl | .headPublished cmpl => pair.posted[pair.popped.length]? = some cmpl

/-- The completion ring.  `rung` is the position of the last rung head, and
`heads` are the positions the device had fetched up to when it posted each
entry. -/
structure CompletionOk (depth : Nat) (pair : QueuePair α β) (known rung : Nat)
    (heads : List Nat) : Prop where
  head_eq : pair.queue.cqHead = pair.popped.length % depth
  phase_eq : pair.queue.cqPhase = !oddLap depth pair.popped.length
  lastHead_eq : pair.queue.lastCqHead = rung % depth
  doorbell_eq : pair.cqDoorbell = pair.queue.lastCqHead
  rung_le : rung ≤ pair.popped.length
  room : pair.posted.length < rung + depth
  popped_prefix : pair.popped <+: pair.posted
  holds : RingHolds depth pair.queue.cqes pair.posted pair.popped.length
  posted_phase : ∀ position (inside : position < pair.posted.length),
    pair.posted[position].phase = !oddLap depth position
  -- every slot still carries the phase of the lap before
  unposted_phase : ∀ position, pair.posted.length ≤ position →
    position < pair.posted.length + depth →
      (pair.queue.cqes (position % depth)).phase = oddLap depth position
  heads_eq : pair.posted.map MxCompletion.sqHead = heads.map (· % depth)
  heads_sorted : heads.Pairwise (· ≤ ·)
  heads_le : ∀ head ∈ heads, head ≤ pair.fetched.length
  known_le : ∀ head ∈ heads.drop pair.popped.length, known ≤ head
  ready : PopReady pair

/-- Both rings, with the head that one thread learns and the other uses. -/
def QueuePairOk (depth : Nat) (pair : QueuePair α β) : Prop :=
  ∃ known rungTail rungHead heads,
    SubmissionOk depth pair known rungTail ∧ CompletionOk depth pair known rungHead heads

theorem PushReady.later {known known' : Nat} (ready : PushReady depth pair known)
    (ordered : known ≤ known') : PushReady depth pair known' := by
  unfold PushReady at ready ⊢
  cases stage : pair.pushing <;> rw [stage] at ready
  case idle => trivial
  case admitted => exact ready.trans_le (Nat.add_le_add_right ordered depth)
  case copied =>
    exact ⟨ready.1.trans_le (Nat.add_le_add_right ordered depth), ready.2⟩

section Submission

variable {known rung rungHead : Nat} {heads : List Nat} {comm : α}

variable (ok : SubmissionOk depth pair known rung)
include ok

theorem SubmissionOk.pushable_iff :
    pair.queue.isPushable depth = true ↔ pair.pushed.length + 1 < known + depth := by
  have ordered := ok.known_le.trans (ok.fetched_le.trans ok.rung_le)
  rw [MxQueueV2.isPushable, bne_iff_ne, ok.tail_eq, ok.head_eq]
  exact succ_mod_ne_iff ordered ok.room

theorem SubmissionOk.copyCommand (admitted : pair.pushing = .admitted comm) :
    SubmissionOk depth (pair.copyCommand comm) known rung := by
  have free : pair.pushed.length + 1 < known + depth := by
    have ready := ok.ready
    rwa [PushReady, admitted] at ready
  have ahead := ok.known_le
  refine { ok with holds := ?_, ready := ⟨free, ?_⟩ }
  · change RingHolds depth (Function.update pair.queue.sqes pair.queue.sqTail comm) _ _
    rw [ok.tail_eq]
    exact ok.holds.write (by omega)
  · change Function.update pair.queue.sqes pair.queue.sqTail comm
      (pair.pushed.length % depth) = comm
    rw [ok.tail_eq, Function.update_self]

theorem SubmissionOk.advanceTail (positive : 0 < depth) (copied : pair.pushing = .copied comm) :
    SubmissionOk depth (pair.advanceTail depth comm) known rung := by
  have ready := ok.ready
  rw [PushReady, copied] at ready
  obtain ⟨free, written⟩ := ready
  have longer : (pair.pushed ++ [comm]).length = pair.pushed.length + 1 := by simp
  refine { ok with
    tail_eq := ?_, rung_le := ?_, room := ?_, fetched_prefix := ?_, holds := ?_, ready := trivial }
  · change wrapSucc depth pair.queue.sqTail = _
    rw [ok.tail_eq, wrapSucc_mod positive, ← longer]
    rfl
  · change rung ≤ (pair.pushed ++ [comm]).length
    exact ok.rung_le.trans (by omega)
  · change (pair.pushed ++ [comm]).length < known + depth
    omega
  · exact ok.fetched_prefix.trans (List.prefix_append _ _)
  · exact ok.holds.append written

/-- The tail rung last is less than a lap behind, so the comparison of the
wrapped pointers finds it equal only when no command is new. -/
theorem SubmissionOk.ringSqDoorbell :
    SubmissionOk depth pair.ringSqDoorbell known pair.pushed.length := by
  have behind := ok.known_le.trans ok.fetched_le
  have room := ok.room
  have fetched_le := ok.fetched_le.trans ok.rung_le
  by_cases same : pair.queue.lastSqTail = pair.queue.sqTail
  · rw [QueuePair.ringSqDoorbell, if_pos same]
    exact { ok with
      lastTail_eq := by rw [same, ok.tail_eq]
      fetched_le := fetched_le
      rung_le := le_rfl }
  · rw [QueuePair.ringSqDoorbell, if_neg same]
    exact { ok with
      lastTail_eq := ok.tail_eq
      doorbell_eq := rfl
      fetched_le := fetched_le
      rung_le := le_rfl }

theorem SubmissionOk.ringSqDoorbell_eq : pair.ringSqDoorbell.sqDoorbell = pair.queue.sqTail := by
  have rungOk := ok.ringSqDoorbell
  rw [rungOk.doorbell_eq, rungOk.lastTail_eq, ok.tail_eq]

/-- The complete thread's pointers are not part of the submission ring. -/
theorem SubmissionOk.advanceHead {cmpl : MxCompletion β} :
    SubmissionOk depth (pair.advanceHead depth cmpl) known rung := by
  rw [QueuePair.advanceHead, MxQueueV2.updateCqDoorbell]
  split <;> exact { ok with ready := ok.ready }

theorem SubmissionOk.fetch (rungAhead : pair.fetchSlot depth ≠ pair.sqDoorbell) :
    SubmissionOk depth (pair.fetch depth) known rung := by
  have waiting : pair.fetched.length < rung := by
    refine lt_of_le_of_ne ok.fetched_le fun drained => rungAhead ?_
    rw [QueuePair.fetchSlot, drained, ok.doorbell_eq, ok.lastTail_eq]
  have inside : pair.fetched.length < pair.pushed.length := waiting.trans_le ok.rung_le
  have longer : (pair.fetch depth).fetched.length = pair.fetched.length + 1 := by
    simp [QueuePair.fetch]
  have entry : pair.queue.sqes (pair.fetchSlot depth) = pair.pushed[pair.fetched.length] :=
    ok.holds _ inside le_rfl
  refine { ok with known_le := ?_, fetched_le := ?_, fetched_prefix := ?_, holds := ?_ }
  · rw [longer]
    exact ok.known_le.trans (Nat.le_succ _)
  · rw [longer]
    exact waiting
  · change pair.fetched ++ [_] <+: pair.pushed
    rw [entry]
    exact List.concat_get_prefix ok.fetched_prefix inside
  · rw [longer]
    exact ok.holds.later (Nat.le_succ _)

end Submission

section Completion

variable {known rung : Nat} {heads : List Nat} {cmpl : MxCompletion β} {payload : β}

theorem PopReady.post (ready : PopReady pair) : PopReady (pair.post depth payload) := by
  unfold PopReady at ready ⊢
  change match pair.popping with
    | .idle => True
    | .admitted => pair.popped.length < (pair.post depth payload).posted.length
    | .copied cmpl | .headPublished cmpl =>
      (pair.posted ++ [pair.postedEntry depth payload])[pair.popped.length]? = some cmpl
  cases stage : pair.popping <;> rw [stage] at ready
  case idle => trivial
  case admitted => exact ready.trans_le (by simp [QueuePair.post])
  all_goals
    rw [List.getElem?_append_left (List.getElem?_eq_some_iff.mp ready).1]
    exact ready

variable (ok : CompletionOk depth pair known rung heads)
include ok

/-- The phase of the entry at the head is the thread's own exactly when the
device has posted there in this lap. -/
theorem CompletionOk.phaseMatches_iff (positive : 0 < depth) :
    pair.queue.phaseMatches = true ↔ pair.popped.length < pair.posted.length := by
  have behind := ok.popped_prefix.length_le
  rw [MxQueueV2.phaseMatches, beq_iff_eq, ok.head_eq, ok.phase_eq]
  by_cases waiting : pair.popped.length < pair.posted.length
  · rw [ok.holds _ waiting le_rfl, ok.posted_phase]
    simp [waiting]
  · rw [ok.unposted_phase _ (by omega) (by omega)]
    simp [waiting]

theorem CompletionOk.admitPop (positive : 0 < depth) {waitCount : Int} {lvInflight : Bool}
    (popable : pair.queue.isPopable waitCount lvInflight = true) :
    CompletionOk depth { pair with popping := .admitted } known rung heads := by
  have matched : pair.queue.phaseMatches = true := by
    rw [MxQueueV2.isPopable] at popable
    split at popable
    · cases popable
    · exact popable
  exact { ok with ready := (ok.phaseMatches_iff positive).mp matched }

theorem CompletionOk.copyCompletion (admitted : pair.popping = .admitted) :
    CompletionOk depth { pair with popping := .copied (pair.queue.cqes pair.queue.cqHead) }
      known rung heads := by
  have waiting : pair.popped.length < pair.posted.length := by
    have ready := ok.ready
    rwa [PopReady, admitted] at ready
  refine { ok with ready := ?_ }
  change pair.posted[pair.popped.length]? = some (pair.queue.cqes pair.queue.cqHead)
  rw [ok.head_eq, ok.holds _ waiting le_rfl, List.getElem?_eq_getElem waiting]

theorem CompletionOk.ready_copied
    (copied : pair.popping = .copied cmpl ∨ pair.popping = .headPublished cmpl) :
    pair.posted[pair.popped.length]? = some cmpl := by
  have ready := ok.ready
  rw [PopReady] at ready
  obtain copied | published := copied
  · rwa [copied] at ready
  · rwa [published] at ready

/-- The head an entry reports is the slot of a position the device has fetched
up to, at or past the one known before. -/
theorem CompletionOk.reported_head (waiting : pair.posted[pair.popped.length]? = some cmpl) :
    ∃ position, cmpl.sqHead = position % depth ∧ known ≤ position ∧
      position ≤ pair.fetched.length ∧
        ∀ head ∈ heads.drop pair.popped.length, position ≤ head := by
  have reported : (heads.map (· % depth))[pair.popped.length]? = some cmpl.sqHead := by
    rw [← ok.heads_eq, List.getElem?_map, waiting]
    rfl
  rw [List.getElem?_map, Option.map_eq_some_iff] at reported
  obtain ⟨position, found, slot⟩ := reported
  obtain ⟨inside, atPosition⟩ := List.getElem?_eq_some_iff.mp found
  have rest : heads.drop pair.popped.length =
      position :: heads.drop (pair.popped.length + 1) := by
    rw [List.drop_eq_getElem_cons inside, atPosition]
  have sorted : (position :: heads.drop (pair.popped.length + 1)).Pairwise (· ≤ ·) := by
    rw [← rest]
    exact ok.heads_sorted.drop
  refine ⟨position, slot.symm, ok.known_le _ ?_, ok.heads_le _ ?_, ?_⟩
  · rw [rest]
    exact List.mem_cons_self
  · rw [← atPosition]
    exact List.getElem_mem inside
  · intro head member
    rw [rest, List.mem_cons] at member
    obtain rfl | later := member
    · exact le_rfl
    · exact (List.pairwise_cons.mp sorted).1 head later

theorem CompletionOk.advanceHead (positive : 0 < depth)
    (published : pair.popping = .headPublished cmpl) :
    CompletionOk depth (pair.advanceHead depth cmpl) known rung heads := by
  have waiting := ok.ready_copied (.inr published)
  obtain ⟨inside, entry⟩ := List.getElem?_eq_some_iff.mp waiting
  have longer : (pair.popped ++ [cmpl]).length = pair.popped.length + 1 := by simp
  have pointers : (pair.queue.updateCqDoorbell depth).cqHead =
        (pair.popped.length + 1) % depth ∧
      (pair.queue.updateCqDoorbell depth).cqPhase =
        !oddLap depth (pair.popped.length + 1) := by
    rw [← wrapSucc_mod positive, oddLap_succ positive, wrapSucc, MxQueueV2.updateCqDoorbell,
      ok.head_eq, ok.phase_eq]
    split <;> simp
  have sameRings : (pair.queue.updateCqDoorbell depth).cqes = pair.queue.cqes ∧
      (pair.queue.updateCqDoorbell depth).lastCqHead = pair.queue.lastCqHead := by
    rw [MxQueueV2.updateCqDoorbell]
    split <;> exact ⟨rfl, rfl⟩
  have taken : pair.popped ++ [cmpl] <+: pair.posted := by
    rw [← entry]
    exact List.concat_get_prefix ok.popped_prefix inside
  exact
    { ok with
      head_eq := by rw [← longer] at pointers; exact pointers.1
      phase_eq := by rw [← longer] at pointers; exact pointers.2
      lastHead_eq := sameRings.2.trans ok.lastHead_eq
      doorbell_eq := ok.doorbell_eq.trans sameRings.2.symm
      rung_le := ok.rung_le.trans (by simp [QueuePair.advanceHead])
      popped_prefix := taken
      holds := by
        change RingHolds depth (pair.queue.updateCqDoorbell depth).cqes _
          (pair.popped ++ [cmpl]).length
        rw [sameRings.1, longer]
        exact ok.holds.later (Nat.le_succ _)
      unposted_phase := by
        change ∀ position, _ → _ → ((pair.queue.updateCqDoorbell depth).cqes _).phase = _
        rw [sameRings.1]
        exact ok.unposted_phase
      known_le := by
        change ∀ head ∈ heads.drop (pair.popped ++ [cmpl]).length, known ≤ head
        rw [longer, ← List.drop_drop]
        exact fun head member => ok.known_le head (List.mem_of_mem_drop member)
      ready := trivial }

theorem CompletionOk.ringCqDoorbell :
    CompletionOk depth pair.ringCqDoorbell known pair.popped.length heads := by
  have room : pair.posted.length < pair.popped.length + depth :=
    ok.room.trans_le (Nat.add_le_add_right ok.rung_le depth)
  by_cases same : pair.queue.lastCqHead = pair.queue.cqHead
  · rw [QueuePair.ringCqDoorbell, if_pos same]
    exact { ok with
      lastHead_eq := by rw [same, ok.head_eq]
      rung_le := le_rfl
      room := room }
  · rw [QueuePair.ringCqDoorbell, if_neg same]
    exact { ok with
      lastHead_eq := ok.head_eq
      doorbell_eq := rfl
      rung_le := le_rfl
      room := room }

theorem CompletionOk.post (positive : 0 < depth) (fetched : known ≤ pair.fetched.length)
    (free : (pair.postSlot depth + 1) % depth ≠ pair.cqDoorbell) :
    CompletionOk depth (pair.post depth payload) known rung (heads ++ [pair.fetched.length]) := by
  have room : pair.posted.length + 1 < rung + depth := by
    rw [ok.doorbell_eq, ok.lastHead_eq] at free
    exact (succ_mod_ne_iff (ok.rung_le.trans ok.popped_prefix.length_le) ok.room).mp free
  have behind := ok.rung_le
  have longer : (pair.post depth payload).posted.length = pair.posted.length + 1 := by
    simp [QueuePair.post]
  have cqes_eq : (pair.post depth payload).queue.cqes =
      Function.update pair.queue.cqes (pair.posted.length % depth)
        (pair.postedEntry depth payload) := rfl
  exact
    { ok with
      room := by rw [longer]; exact room
      popped_prefix := ok.popped_prefix.trans (List.prefix_append _ _)
      holds := by
        rw [cqes_eq]
        exact (ok.holds.write (by omega)).append (Function.update_self ..)
      posted_phase := by
        intro position inside
        by_cases old : position < pair.posted.length
        · exact (congrArg MxCompletion.phase (List.getElem_append_left old)).trans
            (ok.posted_phase position old)
        · obtain rfl : position = pair.posted.length := by omega
          exact congrArg MxCompletion.phase (List.getElem_concat_length rfl _)
      unposted_phase := by
        intro position after before
        rw [longer] at after before
        rw [cqes_eq]
        by_cases wrapped : position = pair.posted.length + depth
        · rw [wrapped, Nat.add_mod_right, Function.update_self, oddLap_add_depth positive]
          rfl
        · rw [Function.update_of_ne, ok.unposted_phase position (by omega) (by omega)]
          rw [ne_eq, mod_eq_mod_iff_of_le (by omega) (by omega)]
          omega
      heads_eq := by
        change (pair.posted ++ [_]).map MxCompletion.sqHead = _
        rw [List.map_append, List.map_append, ok.heads_eq]
        rfl
      heads_sorted := by
        rw [List.pairwise_append]
        refine ⟨ok.heads_sorted, List.pairwise_singleton .., fun head member last isLast => ?_⟩
        rw [List.mem_singleton.mp isLast]
        exact ok.heads_le head member
      heads_le := by
        intro head member
        rw [List.mem_append, List.mem_singleton] at member
        obtain old | rfl := member
        · exact ok.heads_le head old
        · exact le_rfl
      known_le := by
        intro head member
        rw [List.drop_append, List.mem_append] at member
        obtain old | new := member
        · exact ok.known_le head old
        · rw [List.mem_singleton.mp (List.mem_of_mem_drop new)]
          exact fetched
      ready := ok.ready.post }

theorem CompletionOk.fetch : CompletionOk depth (pair.fetch depth) known rung heads :=
  { ok with
    heads_le := fun head member =>
      (ok.heads_le head member).trans (by simp [QueuePair.fetch])
    ready := ok.ready }

theorem CompletionOk.ringCqDoorbell_eq : pair.ringCqDoorbell.cqDoorbell = pair.queue.cqHead := by
  have rungOk := ok.ringCqDoorbell
  rw [rungOk.doorbell_eq, rungOk.lastHead_eq, ok.head_eq]

end Completion

/-- The complete thread tells the submit thread how far the device has got. -/
theorem QueuePairOk.publishHead {cmpl : MxCompletion β} (ok : QueuePairOk depth pair)
    (copied : pair.popping = .copied cmpl) : QueuePairOk depth (pair.publishHead cmpl) := by
  obtain ⟨known, rungTail, rungHead, heads, submission, completion⟩ := ok
  have waiting := completion.ready_copied (.inl copied)
  obtain ⟨position, slot, ahead, fetched, ordered⟩ := completion.reported_head waiting
  refine ⟨position, rungTail, rungHead, heads, ?_, ?_⟩
  · refine { submission with head_eq := slot, known_le := fetched, room := ?_, ready := ?_ }
    · exact submission.room.trans_le (Nat.add_le_add_right ahead depth)
    · exact submission.ready.later ahead
  · exact { completion with known_le := ordered, ready := waiting }

theorem queuePairOk_start (positive : 0 < depth) (zeroCommand : α) (zeroPayload : β) :
    QueuePairOk depth (.start zeroCommand zeroPayload) := by
  refine ⟨0, 0, 0, [], ?_, ?_⟩
  · exact
      { tail_eq := (Nat.zero_mod depth).symm
        head_eq := (Nat.zero_mod depth).symm
        lastTail_eq := (Nat.zero_mod depth).symm
        doorbell_eq := rfl
        known_le := le_rfl
        fetched_le := le_rfl
        rung_le := le_rfl
        room := by rw [Nat.zero_add]; exact positive
        fetched_prefix := List.prefix_rfl
        holds := ringHolds_nil
        ready := trivial }
  · exact
      { head_eq := (Nat.zero_mod depth).symm
        phase_eq := (congrArg not (oddLap_of_lt positive)).symm
        lastHead_eq := (Nat.zero_mod depth).symm
        doorbell_eq := rfl
        rung_le := le_rfl
        room := by rw [Nat.zero_add]; exact positive
        popped_prefix := List.prefix_rfl
        holds := ringHolds_nil
        posted_phase := fun _ inside => absurd inside (Nat.not_lt_zero _)
        unposted_phase := fun _ _ first => (oddLap_of_lt (by rwa [← Nat.zero_add depth])).symm
        heads_eq := rfl
        heads_sorted := .nil
        heads_le := fun _ member => absurd member List.not_mem_nil
        known_le := fun _ _ => Nat.zero_le _
        ready := trivial }

theorem queuePairOk_step (positive : 0 < depth) {action : QueueAction α β}
    (ok : QueuePairOk depth pair) (stepped : queueStep depth pair action = some next) :
    QueuePairOk depth next := by
  obtain ⟨known, rungTail, rungHead, heads, submission, completion⟩ := ok
  cases action with simp only [queueStep] at stepped
  | admitPush comm =>
    split at stepped
    · split at stepped
      · rename_i pushable
        cases stepped
        exact ⟨known, rungTail, rungHead, heads,
          { submission with ready := submission.pushable_iff.mp pushable },
          { completion with ready := completion.ready }⟩
      · cases stepped
    · cases stepped
  | copyCommand =>
    split at stepped <;> cases stepped
    rename_i comm admitted
    exact ⟨known, rungTail, rungHead, heads, submission.copyCommand admitted,
      { completion with ready := completion.ready }⟩
  | advanceTail =>
    split at stepped <;> cases stepped
    rename_i comm copied
    exact ⟨known, rungTail, rungHead, heads, submission.advanceTail positive copied,
      { completion with ready := completion.ready }⟩
  | ringSqDoorbell =>
    split at stepped <;> cases stepped
    refine ⟨known, pair.pushed.length, rungHead, heads, submission.ringSqDoorbell, ?_⟩
    rw [QueuePair.ringSqDoorbell]
    split
    · exact completion
    · exact { completion with ready := completion.ready }
  | admitPop waitCount lvInflight =>
    split at stepped
    · split at stepped
      · rename_i popable
        cases stepped
        exact ⟨known, rungTail, rungHead, heads,
          { submission with ready := submission.ready },
          completion.admitPop positive popable⟩
      · cases stepped
    · cases stepped
  | copyCompletion =>
    split at stepped <;> cases stepped
    rename_i admitted
    exact ⟨known, rungTail, rungHead, heads, { submission with ready := submission.ready },
      completion.copyCompletion admitted⟩
  | publishHead =>
    split at stepped <;> cases stepped
    rename_i cmpl copied
    exact QueuePairOk.publishHead ⟨_, _, _, _, submission, completion⟩ copied
  | advanceHead =>
    split at stepped <;> cases stepped
    rename_i cmpl published
    exact ⟨known, rungTail, rungHead, heads, submission.advanceHead,
      completion.advanceHead positive published⟩
  | ringCqDoorbell =>
    split at stepped <;> cases stepped
    refine ⟨known, rungTail, pair.popped.length, heads, ?_, completion.ringCqDoorbell⟩
    rw [QueuePair.ringCqDoorbell]
    split
    · exact submission
    · exact { submission with ready := submission.ready }
  | fetch =>
    split at stepped
    · rename_i rungAhead
      cases stepped
      exact ⟨known, rungTail, rungHead, heads, submission.fetch rungAhead, completion.fetch⟩
    · cases stepped
  | post payload =>
    split at stepped
    · rename_i free
      cases stepped
      exact ⟨known, rungTail, rungHead, heads ++ [pair.fetched.length],
        { submission with ready := submission.ready },
        completion.post positive submission.known_le free⟩
    · cases stepped

theorem queuePairOk_of_reached (positive : 0 < depth) {zeroCommand : α} {zeroPayload : β}
    (reached : Reached (queueStep depth) (.start zeroCommand zeroPayload) pair) :
    QueuePairOk depth pair :=
  reached.invariant (queuePairOk_start positive zeroCommand zeroPayload)
    fun _ _ _ ok _ stepped => queuePairOk_step positive ok stepped

/-- In every interleaving of the two threads and the device, the device has
fetched the first commands pushed and the ring still holds the others, the host
has popped the first completions posted and the phase test tells whether there
are more, and ringing leaves the doorbell at the pointer: the device then sees
every command pushed and every slot freed. -/
theorem queuePair_fifo (positive : 0 < depth) {zeroCommand : α} {zeroPayload : β}
    (reached : Reached (queueStep depth) (.start zeroCommand zeroPayload) pair) :
    pair.fetched <+: pair.pushed ∧
      RingHolds depth pair.queue.sqes pair.pushed pair.fetched.length ∧
      pair.popped <+: pair.posted ∧
      (pair.queue.phaseMatches = true ↔ pair.popped.length < pair.posted.length) ∧
      pair.ringSqDoorbell.sqDoorbell = pair.queue.sqTail ∧
      (pair.fetchSlot depth ≠ pair.ringSqDoorbell.sqDoorbell ↔
        pair.fetched.length < pair.pushed.length) ∧
      pair.ringCqDoorbell.cqDoorbell = pair.queue.cqHead ∧
      ((pair.postSlot depth + 1) % depth ≠ pair.ringCqDoorbell.cqDoorbell ↔
        pair.posted.length + 1 < pair.popped.length + depth) := by
  obtain ⟨known, rungTail, rungHead, heads, submission, completion⟩ :=
    queuePairOk_of_reached positive reached
  have sqRung := submission.ringSqDoorbell_eq
  have cqRung := completion.ringCqDoorbell_eq
  refine ⟨submission.fetched_prefix, submission.holds, completion.popped_prefix,
    completion.phaseMatches_iff positive, sqRung, ?_, cqRung, ?_⟩
  · have behind := submission.fetched_prefix.length_le
    have room := submission.room
    have known_le := submission.known_le
    rw [sqRung, submission.tail_eq, ne_comm, QueuePair.fetchSlot, ne_eq,
      mod_eq_mod_iff_of_le behind (by omega)]
    omega
  · have room := completion.room
    have rung_le := completion.rung_le
    rw [cqRung, completion.head_eq]
    exact succ_mod_ne_iff completion.popped_prefix.length_le (by omega)

/-- One command through a queue pair and its completion back. -/
def roundTrip (comm payload : Nat) : List (QueueAction Nat Nat) :=
  [.admitPush comm, .copyCommand, .advanceTail, .ringSqDoorbell, .fetch, .post payload,
    .admitPop 1 false, .copyCompletion, .publishHead, .advanceHead, .ringCqDoorbell]

theorem queuePair_fifo_threeTrips :
    ∃ pair : QueuePair Nat Nat,
      Reached (queueStep 2) (.start 0 0) pair ∧
        pair.fetched = [7, 8, 9] ∧ pair.popped.map MxCompletion.payload = [70, 80, 90] ∧
        pair.popped.map MxCompletion.phase = [true, true, false] ∧
        pair.fetched <+: pair.pushed ∧ pair.popped <+: pair.posted := by
  have ran : ((runActions (queueStep 2) (.start 0 0)
      (roundTrip 7 70 ++ roundTrip 8 80 ++ roundTrip 9 90)).map fun pair =>
        (pair.fetched, pair.popped.map MxCompletion.payload,
          pair.popped.map MxCompletion.phase)) =
      some ([7, 8, 9], [70, 80, 90], [true, true, false]) := by
    decide
  obtain ⟨pair, final, seen⟩ := Option.map_eq_some_iff.mp ran
  simp only [Prod.mk.injEq] at seen
  have reached := reached_of_runActions final
  have fifo := queuePair_fifo (by decide) reached
  exact ⟨pair, reached, seen.1, seen.2.1, seen.2.2, fifo.1, fifo.2.2.1⟩

end MxDriver
