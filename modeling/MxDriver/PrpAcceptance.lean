import MxDriver.PrpFaithful

/-!
# Exactly which slices are accepted

A command is built for a slice exactly if the mapping covers it and the entries that
it touches meet on boundaries, for any chunk size that is a power of two.  What was
counted is then written without a disagreement between the three walks: the count,
the number of pages and the descriptors.
-/

namespace MxDriver

open LinkedPages

/-! ## The entries of a slice -/

/-- The bytes of a mapping that come before an entry. -/
def sgStart (entries : List SgEntry) (index : Nat) : Nat :=
  (sgBytes (entries.take index)).length

/-- A slice has a byte in an entry. -/
def Touches (entries : List SgEntry) (offset size index : Nat) (entry : SgEntry) : Prop :=
  entries[index]? = some entry ∧ sgStart entries index < offset + size ∧
    offset < sgStart entries index + entry.length

/-- Of the entries that a slice touches, every one but the last ends on a boundary, and
every one but the first starts on one. -/
def SliceAligned (dmaSize : Nat) (entries : List SgEntry) (offset size : Nat) : Prop :=
  ∀ index later entry next, Touches entries offset size index entry →
    Touches entries offset size later next → index < later →
      dmaSize ∣ entry.address + entry.length ∧ dmaSize ∣ next.address

section Touched

variable {dmaSize offset size index : Nat} {entry first : SgEntry} {entries : List SgEntry}

theorem sgStart_succ :
    sgStart (first :: entries) (index + 1) = first.length + sgStart entries index := by
  simp [sgStart, sgBytes_cons]

theorem touches_zero :
    Touches (first :: entries) offset size 0 entry ↔
      first = entry ∧ 0 < offset + size ∧ offset < entry.length := by
  simp [Touches, sgStart, sgBytes]

/-- Past the first entry, the slice that is left starts with the second. -/
theorem touches_succ_of_lt (inside : offset < first.length) :
    Touches (first :: entries) offset size (index + 1) entry ↔
      Touches entries 0 (offset + size - first.length) index entry := by
  have nonempty := entry.nonempty
  simp only [Touches, List.getElem?_cons_succ, sgStart_succ]
  refine and_congr_right fun _ => ?_
  omega

theorem touches_succ_of_le (beyond : first.length ≤ offset) :
    Touches (first :: entries) offset size (index + 1) entry ↔
      Touches entries (offset - first.length) size index entry := by
  simp only [Touches, List.getElem?_cons_succ, sgStart_succ]
  refine and_congr_right fun _ => ?_
  omega

/-- A slice that ends before the next entry touches no more. -/
theorem not_touches_empty : ¬Touches entries 0 0 index entry := by
  rintro ⟨-, before, -⟩
  omega

theorem sliceAligned_cons_of_le (beyond : first.length ≤ offset) :
    SliceAligned dmaSize (first :: entries) offset size ↔
      SliceAligned dmaSize entries (offset - first.length) size := by
  constructor
  · intro aligned index later entry next touched touchedLater before
    exact aligned (index + 1) (later + 1) entry next ((touches_succ_of_le beyond).mpr touched)
      ((touches_succ_of_le beyond).mpr touchedLater) (Nat.succ_lt_succ before)
  · intro aligned index later entry next touched touchedLater before
    cases index with
    | zero =>
      obtain ⟨rfl, -, inside⟩ := touches_zero.mp touched
      omega
    | succ index =>
      cases later with
      | zero => omega
      | succ later =>
        exact aligned index later entry next ((touches_succ_of_le beyond).mp touched)
          ((touches_succ_of_le beyond).mp touchedLater) (Nat.lt_of_succ_lt_succ before)

theorem sliceAligned_cons_of_lt (inside : offset < first.length) (nonempty : 0 < size) :
    SliceAligned dmaSize (first :: entries) offset size ↔
      (∀ index entry, Touches entries 0 (offset + size - first.length) index entry →
        dmaSize ∣ first.address + first.length ∧ dmaSize ∣ entry.address) ∧
      SliceAligned dmaSize entries 0 (offset + size - first.length) := by
  constructor
  · intro aligned
    constructor
    · intro index entry touched
      exact aligned 0 (index + 1) first entry (touches_zero.mpr ⟨rfl, by omega, inside⟩)
        ((touches_succ_of_lt inside).mpr touched) (Nat.succ_pos index)
    · intro index later entry next touched touchedLater before
      exact aligned (index + 1) (later + 1) entry next
        ((touches_succ_of_lt inside).mpr touched)
        ((touches_succ_of_lt inside).mpr touchedLater) (Nat.succ_lt_succ before)
  · rintro ⟨fromFirst, aligned⟩ index later entry next touched touchedLater before
    cases later with
    | zero => omega
    | succ later =>
      have touchedLater := (touches_succ_of_lt inside).mp touchedLater
      cases index with
      | zero =>
        obtain ⟨rfl, -, -⟩ := touches_zero.mp touched
        exact fromFirst later next touchedLater
      | succ index =>
        exact aligned index later entry next ((touches_succ_of_lt inside).mp touched)
          touchedLater (Nat.lt_of_succ_lt_succ before)

/-- The check of the walk along the entries is the rule about the touched ones. -/
theorem expressible_iff {rest : List SgEntry} {intraOff : Nat}
    (inside : intraOff < entry.length) (nonempty : 0 < size) :
    Expressible dmaSize (entry.address + intraOff) (entry.length - intraOff) rest size ↔
      size ≤ entry.length - intraOff + (sgBytes rest).length ∧
        SliceAligned dmaSize (entry :: rest) intraOff size := by
  induction rest generalizing entry intraOff size with
  | nil =>
    rw [Expressible, sliceAligned_cons_of_lt inside nonempty]
    simp [SliceAligned, Touches, sgBytes]
  | cons next rest ih =>
    rw [Expressible, sliceAligned_cons_of_lt inside nonempty, sgBytes_cons,
      List.length_append, List.length_range']
    by_cases fits : size ≤ entry.length - intraOff
    · have ended : intraOff + size - entry.length = 0 := by omega
      simp only [fits, true_or, ended, not_touches_empty, false_imp_iff, implies_true,
        SliceAligned, and_true, true_iff]
      omega
    · have left : size - (entry.length - intraOff) = intraOff + size - entry.length := by
        omega
      have atEnd : entry.address + intraOff + (entry.length - intraOff) =
        entry.address + entry.length := by omega
      have more : 0 < intraOff + size - entry.length := by omega
      have later := ih next.nonempty more
      rw [Nat.add_zero, Nat.sub_zero] at later
      have touched : Touches (next :: rest) 0 (intraOff + size - entry.length) 0 next :=
        touches_zero.mpr ⟨rfl, by omega, next.nonempty⟩
      rw [left, atEnd, later, or_iff_right fits]
      constructor
      · rintro ⟨ends, starts, covered, aligned⟩
        refine ⟨by omega, ?_, aligned⟩
        intro index other touchedOther
        cases index with
        | zero =>
          obtain ⟨rfl, -, -⟩ := touches_zero.mp touchedOther
          exact ⟨ends, starts⟩
        | succ index =>
          exact ⟨ends, (aligned 0 (index + 1) next other touched touchedOther
            (Nat.succ_pos index)).2⟩
      · rintro ⟨covered, meets, aligned⟩
        obtain ⟨ends, starts⟩ := meets 0 next touched
        exact ⟨ends, starts, by omega, aligned⟩

theorem sliceAligned_append (before : List SgEntry) :
    SliceAligned dmaSize (before ++ entries) ((sgBytes before).length + offset) size ↔
      SliceAligned dmaSize entries offset size := by
  induction before with
  | nil => simp [sgBytes]
  | cons skipped before ih =>
    rw [List.cons_append, sgBytes_cons, List.length_append, List.length_range', Nat.add_assoc,
      sliceAligned_cons_of_le (Nat.le_add_right ..), Nat.add_sub_cancel_left, ih]

end Touched

theorem Located.exists_before {entries rest : List SgEntry} {byteOffset intraOff : Nat}
    {entry : SgEntry} (located : Located entries byteOffset entry rest intraOff) :
    ∃ before, before ++ entry :: rest = entries ∧
      byteOffset = (sgBytes before).length + intraOff := by
  obtain ⟨before, split⟩ := located.suffix
  refine ⟨before, split, ?_⟩
  have inside := located.inside
  have length := congrArg List.length located.bytes
  simp only [← split, sgBytes, List.flatMap_append, List.flatMap_cons, List.length_drop,
    List.length_append, List.length_range'] at length ⊢
  omega

/-- A slice with a byte can be expressed exactly if it is covered and its entries meet on
boundaries. -/
theorem sliceExpressibleWith_iff {dmaSize : Nat} {entries : List SgEntry}
    {transfer : SgTransfer} (nonempty : 0 < transfer.size) :
    SliceExpressibleWith dmaSize entries transfer ↔
      transfer.sgByteOffset + transfer.size ≤ (sgBytes entries).length ∧
        SliceAligned dmaSize entries transfer.sgByteOffset transfer.size := by
  constructor
  · intro expressible
    refine ⟨expressible.covered, ?_⟩
    obtain ⟨entry, rest, intraOff, found, expressible⟩ := expressible
    have located := mxSgLocate_eq_ok found
    obtain ⟨before, split, offset⟩ := located.exists_before
    rw [offset, ← split, sliceAligned_append]
    exact ((expressible_iff located.inside nonempty).mp expressible).2
  · rintro ⟨covered, aligned⟩
    obtain ⟨entry, rest, intraOff, found⟩ := exists_mxSgLocate
      (show transfer.sgByteOffset < (sgBytes entries).length by omega)
    have located := mxSgLocate_eq_ok found
    obtain ⟨before, split, offset⟩ := located.exists_before
    have length := congrArg List.length located.bytes
    simp only [List.length_drop, List.length_append, List.length_range'] at length
    rw [offset, ← split, sliceAligned_append] at aligned
    exact ⟨entry, rest, intraOff, found,
      (expressible_iff located.inside nonempty).mpr ⟨by omega, aligned⟩⟩

/-! ## The descriptors that were counted -/

/-- A number of descriptors was written to pages and nothing else but the links between
them, and no page was left over. -/
structure ListWritten (descsPerList descCnt : Nat) (pages : List Nat) (memory : Memory Nat) :
    Prop where
  count : pages.length = mxGetListCount descCnt descsPerList
  descs : ∃ page addresses, pages.head? = some page ∧ addresses.length = descCnt ∧
    read descsPerList memory descCnt page 0 = some addresses
  used : ∀ page ∈ pages, (page, 0) ∈ memory.written
  within : ∀ place ∈ memory.written, place.1 ∈ pages ∧ place.2 < descsPerList
  places : memory.written.encard = (descCnt + (pages.length - 1) : Nat)

theorem written_empty : Memory.written (fun _ _ => none : Memory Nat) = ∅ := by
  simp [Memory.written]

theorem listWritten_of_store {descsPerList page : Nat} {addresses pages : List Nat}
    {memory : Memory Nat} (atLeast : 2 ≤ descsPerList) (nonempty : addresses ≠ [])
    (distinct : (page :: pages).Nodup)
    (count : (page :: pages).length = mxGetListCount addresses.length descsPerList)
    (stored : store descsPerList addresses page pages 0 (fun _ _ => none) = some memory) :
    ListWritten descsPerList addresses.length (page :: pages) memory := by
  have links : pages.length = linkCount descsPerList addresses.length 0 := by
    rw [mxGetListCount_eq _ atLeast, List.length_cons] at count
    omega
  have readBack := read_of_store stored distinct
  refine ⟨count, ⟨page, addresses, rfl, rfl, readBack⟩, ?_, ?_, ?_⟩
  · intro other given
    rcases List.mem_cons.mp given with rfl | given
    · obtain ⟨address, others, rfl⟩ := List.exists_cons_of_ne_nil nonempty
      have first := head_of_read (by omega) readBack
      simp [Memory.written, first]
    · exact store_uses stored distinct links given
  · intro place among
    obtain before | here := store_within stored atLeast (by omega) among
    · rw [written_empty] at before
      exact before.elim
    · exact here
  · have fresh : Fresh (fun _ _ => none) page pages 0 := by
      intro place among
      rw [written_empty] at among
      exact among.elim
    rw [store_written stored distinct fresh, written_empty, Set.encard_empty, zero_add,
      List.length_cons, Nat.add_sub_cancel, links]

section Counted

variable {format : PrpFormat} {pool : DescPool} {entries rest : List SgEntry} {entry : SgEntry}
  {byteOffset intraOff size descCnt : Nat}

/-- The walk that writes the descriptors has as many as were counted, with the first or
without it. -/
theorem exists_walk_of_counted (skipFirstEntry : Bool)
    (located : Located entries byteOffset entry rest intraOff)
    (counted : mxGetTotalDescCount entry rest intraOff size format.dmaSize = .ok descCnt)
    (positive : 0 < descCnt - skipFirstEntry.toNat) :
    ∃ cursor addresses,
      (if skipFirstEntry then
          (DescCursor.start entry rest intraOff size format.dmaSize).skipFirst format.dmaSize
        else .ok (DescCursor.start entry rest intraOff size format.dmaSize)) = .ok cursor ∧
      cursor.Walks format.dmaSize addresses ∧
      addresses.length = descCnt - skipFirstEntry.toNat := by
  obtain ⟨nonempty, expressible⟩ := expressible_of_counted located counted
  obtain ⟨addresses, walks, -, sameCount, -⟩ := expressible_walk located expressible nonempty
  have length : descCnt = addresses.length + 1 :=
    Except.ok.inj (counted.symm.trans sameCount)
  cases skipFirstEntry with
  | false => exact ⟨_, _, rfl, walks, length.symm⟩
  | true =>
    have several : addresses ≠ [] := by
      rintro rfl
      simp [length] at positive
    obtain ⟨more, next, advanced, tail⟩ := walks.tail several
    refine ⟨next, addresses, (DescCursor.skipFirst_eq_advance more).trans advanced, tail, ?_⟩
    simp [length]

/-- What was counted is written, to as many pages as were computed for it. -/
theorem mxDescListInit_of_counted (skipFirstEntry : Bool)
    (found : mxSgLocate entries byteOffset = .ok (entry, rest, intraOff))
    (counted : mxGetTotalDescCount entry rest intraOff size format.dmaSize = .ok descCnt)
    (positive : 0 < descCnt - skipFirstEntry.toNat)
    (allocates : ∀ listCnt, pool.alloc listCnt ≠ none) :
    ∃ page pages memory,
      pool.alloc (mxGetListCount (descCnt - skipFirstEntry.toNat) format.descsPerList) =
        some (page :: pages) ∧
      mxDescListInit pool entries byteOffset size format.dmaSize format.descsPerList
        skipFirstEntry (descCnt - skipFirstEntry.toNat) = .ok (page, memory) ∧
      ListWritten format.descsPerList (descCnt - skipFirstEntry.toNat) (page :: pages)
        memory := by
  obtain ⟨cursor, addresses, started, walks, length⟩ :=
    exists_walk_of_counted skipFirstEntry (mxSgLocate_eq_ok found) counted positive
  rw [← length]
  cases allocated : pool.alloc (mxGetListCount addresses.length format.descsPerList) with
  | none => exact (allocates _ allocated).elim
  | some pages =>
    have count := pool.count _ _ allocated
    cases pages with
    | nil =>
      rw [mxGetListCount_eq _ format.slots, List.length_nil] at count
      omega
    | cons page pages =>
      obtain ⟨memory, stored, written⟩ :=
        mxDescListInit_of_alloc format.slots found started walks allocated
      exact ⟨page, pages, memory, rfl, written, listWritten_of_store format.slots
        walks.nonempty (pool.distinct _ _ allocated) count stored⟩

end Counted

/-! ## Acceptance -/

/-- A slice that starts in a mapping and does not go on past its first chunk. -/
def FitsFirstChunk (dmaSize : Nat) (entries : List SgEntry) (transfer : SgTransfer) : Prop :=
  ∃ entry rest intraOff,
    mxSgLocate entries transfer.sgByteOffset = .ok (entry, rest, intraOff) ∧
      transfer.size ≤ mxPrpFirstChunkLen entry intraOff dmaSize

section Acceptance

variable {format : PrpFormat} {pool : DescPool} {entries : List SgEntry}
  {transfer : SgTransfer}

/-- With pages, and addresses that are not zero, a command is built. -/
theorem SliceOutcome.exists_built {α : Type}
    {deviceRead : α → Memory Nat → Option (List Nat)} {bytes : List Nat}
    {result : Except Errno (Built α)} (outcome : SliceOutcome pool entries deviceRead bytes result)
    (nonzero : ∀ entry ∈ entries, entry.address ≠ 0)
    (allocates : ∀ listCnt, pool.alloc listCnt ≠ none) : ∃ built, result = .ok built := by
  cases outcome with
  | zeroAddress mapped zero => exact (nonzero _ mapped zero).elim
  | noMemory refused => exact (allocates _ refused).elim
  | built read => exact ⟨_, rfl⟩

/-- Every slice that can be expressed is accepted, the empty one by the first revision
only. -/
theorem exists_createMxCommandSgWith {revision : Revision} (opcode : Nat)
    (expressible : SliceExpressibleWith format.dmaSize entries transfer)
    (nonempty : revision = .v2 → 0 < transfer.size) (nonzero : ∀ entry ∈ entries, entry.address ≠ 0)
    (allocates : ∀ listCnt, pool.alloc listCnt ≠ none) :
    ∃ built, createMxCommandSgWith revision format pool entries transfer opcode = .ok built := by
  obtain ⟨entry, rest, intraOff, found, expressible⟩ := expressible
  cases revision with
  | v1 =>
    obtain ⟨built, accepted⟩ := (createMxCommandSgV1With_outcome pool opcode found
      expressible).exists_built nonzero allocates
    exact ⟨_, congrArg (Except.map _) accepted⟩
  | v2 =>
    obtain ⟨built, accepted⟩ := (createMxCommandSgV2With_outcome pool opcode found
      expressible (nonempty rfl)).exists_built nonzero allocates
    exact ⟨_, congrArg (Except.map _) accepted⟩

end Acceptance

/-- A command is built exactly for the slices that are covered and whose entries meet on
boundaries, and by the first revision for those that fit in their first chunk.  Whatever
was counted is written, one descriptor for each that was counted, to as many pages as were
computed; a list of no descriptors is refused before pages are asked for. -/
theorem createMxCommandSg_exact (revision : Revision) (format : PrpFormat) (pool : DescPool)
    (entries : List SgEntry) (transfer : SgTransfer) (opcode : Nat)
    (nonzero : ∀ entry ∈ entries, entry.address ≠ 0)
    (allocates : ∀ listCnt, pool.alloc listCnt ≠ none) :
    ((∃ built, createMxCommandSgWith revision format pool entries transfer opcode =
        .ok built) ↔
      (0 < transfer.size ∧
          transfer.sgByteOffset + transfer.size ≤ (sgBytes entries).length ∧
          SliceAligned format.dmaSize entries transfer.sgByteOffset transfer.size) ∨
        (revision = .v1 ∧ FitsFirstChunk format.dmaSize entries transfer)) ∧
    ∀ entry rest intraOff descCnt, ∀ skipFirstEntry : Bool,
      mxSgLocate entries transfer.sgByteOffset = .ok (entry, rest, intraOff) →
      mxGetTotalDescCount entry rest intraOff transfer.size format.dmaSize = .ok descCnt →
      (0 < descCnt - skipFirstEntry.toNat →
        ∃ page pages memory,
          pool.alloc (mxGetListCount (descCnt - skipFirstEntry.toNat) format.descsPerList) =
            some (page :: pages) ∧
          mxDescListInit pool entries transfer.sgByteOffset transfer.size format.dmaSize
            format.descsPerList skipFirstEntry (descCnt - skipFirstEntry.toNat) =
            .ok (page, memory) ∧
          ListWritten format.descsPerList (descCnt - skipFirstEntry.toNat) (page :: pages)
            memory) ∧
      (descCnt - skipFirstEntry.toNat = 0 → ∀ anyPool,
        mxDescListInit anyPool entries transfer.sgByteOffset transfer.size format.dmaSize
          format.descsPerList skipFirstEntry 0 = .error .einval) := by
  refine ⟨⟨?_, ?_⟩, ?_⟩
  · rintro ⟨built, accepted⟩
    obtain ⟨expressible, nonempty⟩ := createMxCommandSgWith_accepted accepted
    rcases Nat.eq_zero_or_pos transfer.size with empty | some
    · -- Only the first revision lets an empty slice pass, as one that fits.
      obtain ⟨entry, rest, intraOff, found, -⟩ := expressible
      cases revision with
      | v1 => exact .inr ⟨rfl, entry, rest, intraOff, found, by omega⟩
      | v2 =>
        have := nonempty rfl
        omega
    · obtain ⟨covered, aligned⟩ := (sliceExpressibleWith_iff some).mp expressible
      exact .inl ⟨some, covered, aligned⟩
  · rintro (⟨some, covered, aligned⟩ | ⟨rfl, entry, rest, intraOff, found, fits⟩)
    · exact exists_createMxCommandSgWith opcode
        ((sliceExpressibleWith_iff some).mpr ⟨covered, aligned⟩) (fun _ => some) nonzero
        allocates
    · have inEntry : transfer.size ≤ entry.length - intraOff :=
        fits.trans (Nat.min_le_right ..)
      exact exists_createMxCommandSgWith opcode
        ⟨entry, rest, intraOff, found, .of_le inEntry⟩ nofun nonzero allocates
  · intro entry rest intraOff descCnt skipFirstEntry found counted
    refine ⟨fun some => mxDescListInit_of_counted skipFirstEntry found counted some allocates,
      fun _ anyPool => ?_⟩
    simp [mxDescListInit, found]

/-- Chunks of eight bytes, and pages of a descriptor and a link. -/
def smallFormat : PrpFormat := ⟨8, 2, ⟨3, rfl⟩, Nat.le_refl 2⟩

theorem createMxCommandSg_exact_smallFormat :
    (∀ entry ∈ splitMapping, entry.address ≠ 0) ∧
      (∀ listCnt, freshPages.alloc listCnt ≠ none) ∧
      SliceAligned 8 splitMapping 2 20 ∧
      ∃ memory, ListWritten 2 3 [1, 2] memory := by
  have nonzero : ∀ entry ∈ splitMapping, entry.address ≠ 0 := by simp [splitMapping]
  have allocates : ∀ listCnt, freshPages.alloc listCnt ≠ none := fun _ => nofun
  obtain ⟨accepted, written⟩ := createMxCommandSg_exact .v2 smallFormat freshPages splitMapping
    ⟨7, 20, 64, 2⟩ 1 nonzero allocates
  refine ⟨nonzero, allocates, ?_, ?_⟩
  · obtain ⟨-, -, aligned⟩ | ⟨other, -⟩ := accepted.mp ⟨_, rfl⟩
    · exact aligned
    · cases other
  · obtain ⟨page, pages, memory, allocated, -, list⟩ :=
      (written _ _ _ 4 true rfl rfl).1 (by decide)
    obtain ⟨rfl, rfl⟩ := List.cons.inj (Option.some.inj allocated)
    exact ⟨memory, list⟩

end MxDriver
