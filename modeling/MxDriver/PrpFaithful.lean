import MxDriver.PrpEmission

/-!
# Commands are read back as they were meant

A command that was built for a slice of a mapping makes the device move the bytes of
that slice, in order and each once.  A slice is refused only if it cannot be
expressed, if it meets an address of zero, or if there are no descriptor pages.
-/

namespace MxDriver

open LinkedPages

/-- How building a command for a slice that can be expressed ends. -/
inductive SliceOutcome {α : Type} (pool : DescPool) (entries : List SgEntry)
    (deviceRead : α → Memory Nat → Option (List Nat)) (bytes : List Nat) :
    Except Errno (Built α) → Prop
  | zeroAddress {entry : SgEntry} (mapped : entry ∈ entries) (zero : entry.address = 0) :
      SliceOutcome pool entries deviceRead bytes (.error .einval)
  | noMemory {listCnt : Nat} (refused : pool.alloc listCnt = none) :
      SliceOutcome pool entries deviceRead bytes (.error .enomem)
  | built {command : α} {memory : Memory Nat} (read : deviceRead command memory = some bytes) :
      SliceOutcome pool entries deviceRead bytes (.ok (command, memory))

theorem SliceOutcome.map {α β : Type} {pool : DescPool} {entries : List SgEntry}
    {readInner : α → Memory Nat → Option (List Nat)}
    {readOuter : β → Memory Nat → Option (List Nat)} {bytes : List Nat}
    {result : Except Errno (Built α)} (wrap : α → β)
    (same : ∀ command memory, readOuter (wrap command) memory = readInner command memory)
    (outcome : SliceOutcome pool entries readInner bytes result) :
    SliceOutcome pool entries readOuter bytes
      (result.map fun built => (wrap built.1, built.2)) := by
  cases outcome with
  | zeroAddress mapped zero => exact .zeroAddress mapped zero
  | noMemory refused => exact .noMemory refused
  | built read => exact .built ((same _ _).trans read)

section Slices

variable {format : PrpFormat} {pool : DescPool} {entries rest : List SgEntry} {entry : SgEntry}
  {intraOff : Nat} {transfer : SgTransfer}

/-- The bytes of the walk are those of the slice. -/
theorem Located.start_bytes {byteOffset size dmaSize : Nat}
    (located : Located entries byteOffset entry rest intraOff) :
    (DescCursor.start entry rest intraOff size dmaSize).bytes =
      ((sgBytes entries).drop byteOffset).take size := by
  rw [located.bytes]
  rfl

/-- A slice that can be expressed lies inside the mapping. -/
theorem Expressible.covered {dmaSize address avail remaining : Nat}
    (expressible : Expressible dmaSize address avail rest remaining) :
    remaining ≤ avail + (sgBytes rest).length := by
  induction rest generalizing address avail remaining with
  | nil => exact Nat.le_add_right_of_le expressible
  | cons entry rest ih =>
    rw [sgBytes_cons, List.length_append, List.length_range']
    rcases expressible with fits | ⟨-, -, later⟩
    · omega
    · have inside := ih later
      omega

/-- The count of a slice that can be expressed, and the walk that it announces. -/
theorem expressible_walk {byteOffset size : Nat}
    (located : Located entries byteOffset entry rest intraOff)
    (expressible : Expressible format.dmaSize (entry.address + intraOff)
      (entry.length - intraOff) rest size) (nonempty : 0 < size) :
    ∃ addresses,
      (DescCursor.start entry rest intraOff size format.dmaSize).Walks format.dmaSize
        ((entry.address + intraOff) :: addresses) ∧
      addresses.length + 1 = chunkCount format.dmaSize (entry.address + intraOff) size ∧
      mxGetTotalDescCount entry rest intraOff size format.dmaSize =
        .ok (addresses.length + 1) ∧
      prpBytes format.dmaSize ((entry.address + intraOff) :: addresses) size =
        ((sgBytes entries).drop byteOffset).take size := by
  obtain ⟨bits, dmaSize⟩ := format.chunked
  rw [dmaSize] at expressible ⊢
  obtain ⟨addresses, walks, count, bytes⟩ :=
    DescCursor.start_walks expressible located.inside nonempty
  refine ⟨addresses, walks, count, ?_, bytes.trans located.start_bytes⟩
  rw [mxGetTotalDescCount, if_neg (by omega), countDescs_eq_ok_iff located.inside]
  exact ⟨expressible, by rw [count, Nat.zero_add]⟩

theorem createMxCommandSgV1With_outcome (pool : DescPool) (opcode : Nat)
    (found : mxSgLocate entries transfer.sgByteOffset = .ok (entry, rest, intraOff))
    (expressible : Expressible format.dmaSize (entry.address + intraOff)
      (entry.length - intraOff) rest transfer.size) :
    SliceOutcome pool entries (deviceReadV1With format)
      (((sgBytes entries).drop transfer.sgByteOffset).take transfer.size)
      (createMxCommandSgV1With format pool entries transfer opcode) := by
  have located := mxSgLocate_eq_ok found
  simp only [createMxCommandSgV1With, found]
  split
  · rename_i fits
    split
    · rename_i zero
      exact .zeroAddress (located.suffix.mem (List.mem_cons_self ..)) (by omega)
    · refine .built ?_
      have inEntry : transfer.size ≤ entry.length - intraOff :=
        fits.trans (Nat.min_le_right ..)
      rw [located.bytes, take_range'_append_of_le _ inEntry]
      rfl
  · rename_i long
    obtain ⟨addresses, walks, count, counted, bytes⟩ :=
      expressible_walk located expressible (show 0 < transfer.size by omega)
    simp only [counted]
    obtain ⟨refused, failed⟩ | ⟨page, memory, written, readBack⟩ :=
      mxDescListInit_of_walks pool false format.slots found rfl walks
    · rw [List.length_cons] at failed
      rw [failed]
      exact .noMemory refused
    · rw [List.length_cons] at written readBack
      rw [written]
      refine .built ?_
      have slots := format.slots
      have first := head_of_read (by omega) readBack
      simp only [deviceReadV1With, first, Option.bind_some, ← count, readBack, Option.map_some,
        bytes]

theorem DescCursor.Walks.tail {dmaSize address : Nat} {addresses : List Nat}
    {cursor : DescCursor} (walks : cursor.Walks dmaSize (address :: addresses))
    (several : addresses ≠ []) :
    cursor.len < cursor.remaining ∧
      ∃ next, cursor.advance dmaSize = .ok next ∧ next.Walks dmaSize addresses := by
  cases walks with
  | last => exact (several rfl).elim
  | more shorter advanced rest => exact ⟨shorter, _, advanced, rest⟩

theorem DescCursor.Walks.head {dmaSize address : Nat} {addresses : List Nat}
    {cursor : DescCursor} (walks : cursor.Walks dmaSize (address :: addresses)) :
    cursor.dmaAddr = address := by
  cases walks <;> rfl

/-- The first descriptor is in the command, and the pages hold the others. -/
theorem DescCursor.skipFirst_eq_advance {dmaSize : Nat} {cursor : DescCursor}
    (more : cursor.len < cursor.remaining) : cursor.skipFirst dmaSize = cursor.advance dmaSize := by
  have left : cursor.consume.remaining > 0 := Nat.sub_pos_of_lt more
  simp only [skipFirst, left, if_true, advance]

/-- Where the entry of a descriptor ends, the next one is in the next entry. -/
theorem DescCursor.advance_dmaAddr {dmaSize : Nat} {cursor next : DescCursor}
    (advanced : cursor.advance dmaSize = .ok next) :
    (cursor.entryAvail - cursor.len ≠ 0 ∧ next.dmaAddr = cursor.dmaAddr + cursor.len) ∨
      (cursor.entryAvail - cursor.len = 0 ∧
        ∃ entry others, cursor.rest = entry :: others ∧ next.dmaAddr = entry.address) := by
  have aligned : ∀ {cursor next : DescCursor}, cursor.align dmaSize = .ok next →
      next.dmaAddr = cursor.dmaAddr := by
    intro cursor next aligned
    unfold align at aligned
    split at aligned
    · cases aligned
    · cases aligned
      rfl
  by_cases used : cursor.entryAvail - cursor.len = 0
  · cases restEq : cursor.rest with
    | nil =>
      simp [advance, nextEntry, consume, used, restEq, Except.bind] at advanced
    | cons entry others =>
      simp only [advance, nextEntry, consume, used, restEq, if_true, Except.bind] at advanced
      exact .inr ⟨used, entry, others, rfl, aligned advanced⟩
  · simp only [advance, nextEntry, consume, used, if_false, Except.bind] at advanced
    exact .inl ⟨used, aligned advanced⟩

/-- A descriptor of address zero comes from an entry of address zero. -/
theorem DescCursor.start_advance_zero {size dmaSize : Nat} {next : DescCursor}
    (advanced : (start entry rest intraOff size dmaSize).advance dmaSize = .ok next)
    (zero : next.dmaAddr = 0) : ∃ other ∈ entry :: rest, other.address = 0 := by
  obtain ⟨-, address⟩ | ⟨-, following, others, restEq, address⟩ := advance_dmaAddr advanced
  · refine ⟨entry, List.mem_cons_self .., ?_⟩
    simp only [start] at address
    omega
  · have restEq : rest = following :: others := restEq
    exact ⟨following, by simp [restEq], address.symm.trans zero⟩

/-- The second entry of the command is the second descriptor. -/
theorem secondPrpEntry_eq {size dmaSize : Nat} {next : DescCursor}
    (inside : intraOff < entry.length)
    (more : (DescCursor.start entry rest intraOff size dmaSize).len < size)
    (advanced : (DescCursor.start entry rest intraOff size dmaSize).advance
      dmaSize = .ok next) :
    secondPrpEntry dmaSize entry rest intraOff =
      if next.dmaAddr = 0 then .error .einval else .ok next.dmaAddr := by
  have len : (DescCursor.start entry rest intraOff size dmaSize).len =
      mxPrpFirstChunkLen entry intraOff dmaSize := by
    have inEntry : mxPrpFirstChunkLen entry intraOff dmaSize ≤
      entry.length - intraOff := Nat.min_le_right ..
    simp only [DescCursor.start] at more ⊢
    omega
  obtain ⟨left, address⟩ | ⟨used, following, others, restEq, address⟩ :=
    DescCursor.advance_dmaAddr advanced
  · rw [len] at left address
    have before : intraOff + mxPrpFirstChunkLen entry intraOff dmaSize <
        entry.length := by
      simp only [DescCursor.start] at left
      omega
    simp only [secondPrpEntry, before, if_true, Except.bind, address, DescCursor.start]
  · rw [len] at used
    have atEnd : ¬intraOff + mxPrpFirstChunkLen entry intraOff dmaSize <
        entry.length := by
      simp only [DescCursor.start] at used
      omega
    have restEq : rest = following :: others := restEq
    simp only [secondPrpEntry, atEnd, if_false, restEq, Except.bind, address]

theorem createMxCommandSgV2With_outcome (pool : DescPool) (opcode : Nat)
    (found : mxSgLocate entries transfer.sgByteOffset = .ok (entry, rest, intraOff))
    (expressible : Expressible format.dmaSize (entry.address + intraOff)
      (entry.length - intraOff) rest transfer.size) (nonempty : 0 < transfer.size) :
    SliceOutcome pool entries (deviceReadV2With format)
      (((sgBytes entries).drop transfer.sgByteOffset).take transfer.size)
      (createMxCommandSgV2With format pool entries transfer opcode) := by
  have located := mxSgLocate_eq_ok found
  have mapped : entry ∈ entries := located.suffix.mem (List.mem_cons_self ..)
  obtain ⟨addresses, walks, count, counted, bytes⟩ :=
    expressible_walk located expressible nonempty
  simp only [createMxCommandSgV2With, found, counted]
  split
  · rename_i zero
    exact .zeroAddress mapped (by omega)
  · rename_i nonzero
    rcases addresses with _ | ⟨second, _ | ⟨third, others⟩⟩
    · refine .built ?_
      simp only [deviceReadV2With, ← count, List.length_nil, Nat.zero_add, if_true, bytes]
    · obtain ⟨more, next, advanced, tail⟩ := walks.tail (List.cons_ne_nil _ _)
      have secondEq := secondPrpEntry_eq located.inside more advanced
      rw [tail.head] at secondEq
      simp only [List.length_cons, List.length_nil, secondEq]
      split
      · rename_i zero
        obtain ⟨other, among, otherZero⟩ :=
          DescCursor.start_advance_zero advanced (tail.head.trans zero)
        exact .zeroAddress (located.suffix.mem among) otherZero
      · refine .built ?_
        simp only [deviceReadV2With, ← count, List.length_cons, List.length_nil, bytes]
        rfl
    · obtain ⟨more, next, advanced, tail⟩ := walks.tail (List.cons_ne_nil _ _)
      have started := (DescCursor.skipFirst_eq_advance more).trans advanced
      obtain ⟨refused, failed⟩ | ⟨page, memory, written, readBack⟩ :=
        mxDescListInit_of_walks pool true format.slots found started tail
      · simp only [List.length_cons] at failed ⊢
        rw [Nat.add_sub_cancel, failed]
        exact .noMemory refused
      · simp only [List.length_cons] at written readBack count ⊢
        rw [Nat.add_sub_cancel, written]
        refine .built ?_
        simp only [deviceReadV2With, ← count]
        rw [if_neg (by omega), if_neg (by omega), Nat.add_sub_cancel, readBack]
        exact congrArg some bytes

end Slices

/-! ## Which slices are refused -/

section Accepted

variable {format : PrpFormat} {pool : DescPool} {entries : List SgEntry}
  {transfer : SgTransfer} {opcode : Nat}

/-- A slice that starts inside a mapping and can be expressed in chunks of a size. -/
def SliceExpressibleWith (dmaSize : Nat) (entries : List SgEntry) (transfer : SgTransfer) : Prop :=
  ∃ entry rest intraOff,
    mxSgLocate entries transfer.sgByteOffset = .ok (entry, rest, intraOff) ∧
      Expressible dmaSize (entry.address + intraOff) (entry.length - intraOff) rest
        transfer.size

/-- A slice that starts inside a mapping and can be expressed. -/
def SliceExpressible (revision : Revision) (entries : List SgEntry) (transfer : SgTransfer) :
    Prop :=
  SliceExpressibleWith revision.dmaSize entries transfer

theorem expressible_of_counted {byteOffset intraOff size descCnt : Nat}
    {entry : SgEntry} {rest : List SgEntry}
    (located : Located entries byteOffset entry rest intraOff)
    (counted : mxGetTotalDescCount entry rest intraOff size format.dmaSize = .ok descCnt) :
    0 < size ∧ Expressible format.dmaSize (entry.address + intraOff)
      (entry.length - intraOff) rest size := by
  rw [mxGetTotalDescCount] at counted
  split at counted
  · cases counted
  · rename_i nonempty
    obtain ⟨bits, dmaSize⟩ := format.chunked
    rw [dmaSize] at counted ⊢
    exact ⟨Nat.pos_of_ne_zero nonempty, ((countDescs_eq_ok_iff located.inside).mp counted).1⟩

theorem createMxCommandSgV1With_accepted {built : Built MxCommandV1}
    (accepted : createMxCommandSgV1With format pool entries transfer opcode = .ok built) :
    SliceExpressibleWith format.dmaSize entries transfer := by
  unfold createMxCommandSgV1With at accepted
  split at accepted
  · cases accepted
  · rename_i entry rest intraOff found
    refine ⟨entry, rest, intraOff, found, ?_⟩
    split at accepted
    · rename_i fits
      exact .of_le (fits.trans (Nat.min_le_right ..))
    · split at accepted
      · cases accepted
      · rename_i counted
        exact (expressible_of_counted (mxSgLocate_eq_ok found) counted).2

theorem createMxCommandSgV2With_accepted {built : Built MxCommandV2}
    (accepted : createMxCommandSgV2With format pool entries transfer opcode = .ok built) :
    0 < transfer.size ∧ SliceExpressibleWith format.dmaSize entries transfer := by
  unfold createMxCommandSgV2With at accepted
  split at accepted
  · cases accepted
  · rename_i entry rest intraOff found
    dsimp only at accepted
    split at accepted
    · cases accepted
    · have counted : ∃ descCnt, mxGetTotalDescCount entry rest intraOff transfer.size
          format.dmaSize = .ok descCnt := by
        cases counted : mxGetTotalDescCount entry rest intraOff transfer.size
            format.dmaSize with
        | error error => simp [counted] at accepted
        | ok descCnt => exact ⟨descCnt, rfl⟩
      obtain ⟨descCnt, counted⟩ := counted
      obtain ⟨nonempty, expressible⟩ :=
        expressible_of_counted (mxSgLocate_eq_ok found) counted
      exact ⟨nonempty, entry, rest, intraOff, found, expressible⟩

theorem SliceExpressibleWith.covered {dmaSize : Nat}
    (expressible : SliceExpressibleWith dmaSize entries transfer) :
    transfer.sgByteOffset + transfer.size ≤ (sgBytes entries).length := by
  obtain ⟨entry, rest, intraOff, found, expressible⟩ := expressible
  have located := mxSgLocate_eq_ok found
  have length := congrArg List.length located.bytes
  simp only [List.length_drop, List.length_append, List.length_range'] at length
  have inside := located.inside
  have covered := expressible.covered
  omega

theorem createMxCommandSg_outcome {revision : Revision} (pool : DescPool) (opcode : Nat)
    (expressible : SliceExpressible revision entries transfer)
    (nonempty : revision = .v2 → 0 < transfer.size) :
    SliceOutcome pool entries deviceRead
      (((sgBytes entries).drop transfer.sgByteOffset).take transfer.size)
      (createMxCommandSg revision pool entries transfer opcode) := by
  obtain ⟨entry, rest, intraOff, found, expressible⟩ := expressible
  cases revision with
  | v1 =>
    have outcome := @createMxCommandSgV1With_outcome Revision.v1.format _ _ _ _ _ pool opcode
      found expressible
    exact outcome.map MxCommand.v1 fun _ _ => rfl
  | v2 =>
    have outcome := @createMxCommandSgV2With_outcome Revision.v2.format _ _ _ _ _ pool opcode
      found expressible (nonempty rfl)
    exact outcome.map MxCommand.v2 fun _ _ => rfl

/-- What was accepted can be expressed; the first revision accepts an empty slice. -/
theorem createMxCommandSgWith_accepted {revision : Revision} {built : Built MxCommand}
    (accepted : createMxCommandSgWith revision format pool entries transfer opcode =
      .ok built) :
    SliceExpressibleWith format.dmaSize entries transfer ∧
      (revision = .v2 → 0 < transfer.size) := by
  cases revision with
  | v1 =>
    cases inner : createMxCommandSgV1With format pool entries transfer opcode with
    | error error => simp [createMxCommandSgWith, inner, Except.map] at accepted
    | ok command => exact ⟨createMxCommandSgV1With_accepted inner, nofun⟩
  | v2 =>
    cases inner : createMxCommandSgV2With format pool entries transfer opcode with
    | error error => simp [createMxCommandSgWith, inner, Except.map] at accepted
    | ok command =>
      obtain ⟨nonempty, expressible⟩ := createMxCommandSgV2With_accepted inner
      exact ⟨expressible, fun _ => nonempty⟩

theorem createMxCommandSg_accepted {revision : Revision} {built : Built MxCommand}
    (accepted : createMxCommandSg revision pool entries transfer opcode = .ok built) :
    SliceExpressible revision entries transfer ∧ (revision = .v2 → 0 < transfer.size) :=
  createMxCommandSgWith_accepted accepted

end Accepted

/-- If a command is built for a slice of a mapping, then the device reads exactly the
bytes of the slice from it, in order. -/
theorem createMxCommandSg_faithful (revision : Revision) (pool : DescPool)
    (entries : List SgEntry) (transfer : SgTransfer) (opcode : Nat) (command : MxCommand)
    (memory : Memory Nat) (accepted : createMxCommandSg revision pool entries transfer opcode =
      .ok (command, memory)) :
    transfer.sgByteOffset + transfer.size ≤ (sgBytes entries).length ∧
      deviceRead command memory =
        some (((sgBytes entries).drop transfer.sgByteOffset).take transfer.size) := by
  obtain ⟨expressible, nonempty⟩ := createMxCommandSg_accepted accepted
  refine ⟨SliceExpressibleWith.covered expressible, ?_⟩
  have outcome := createMxCommandSg_outcome pool opcode expressible nonempty
  rw [accepted] at outcome
  cases outcome with
  | built read => exact read

/-- A pool that hands out as many pages as are asked for. -/
def freshPages : DescPool where
  alloc listCnt := some (List.range' 1 listCnt)
  count listCnt pages allocated := by
    obtain rfl := Option.some.inj allocated
    exact List.length_range'
  distinct listCnt pages allocated := by
    obtain rfl := Option.some.inj allocated
    exact List.nodup_range'

/-- Five bytes of one entry, up to a boundary, and a slice that goes on in another. -/
def splitMapping : List SgEntry :=
  [⟨4091, 5, by decide, by decide⟩, ⟨8192, 4096, by decide, by decide⟩]

theorem createMxCommandSg_faithful_splitMapping :
    ∃ command memory,
      createMxCommandSg .v2 freshPages splitMapping ⟨7, 9, 64, 2⟩ 1 = .ok (command, memory) ∧
        2 + 9 ≤ (sgBytes splitMapping).length ∧
        deviceRead command memory = some (((sgBytes splitMapping).drop 2).take 9) := by
  have accepted : createMxCommandSg .v2 freshPages splitMapping ⟨7, 9, 64, 2⟩ 1 =
      .ok (.v2 ⟨1, 7, 9, 64, 4093, 8192⟩, noPages) := rfl
  exact ⟨_, _, accepted,
    createMxCommandSg_faithful .v2 freshPages splitMapping ⟨7, 9, 64, 2⟩ 1 _ _ accepted⟩

end MxDriver
