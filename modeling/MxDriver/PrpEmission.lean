import MxDriver.PrpReadBack

/-!
# Writing the descriptor pages

`mx_desc_list_init` stores the descriptors of its walk in linked pages, and it
allocates exactly as many pages as they take.
-/

namespace MxDriver

open LinkedPages

/-! ## Where a slice starts -/

/-- An entry of a mapping that holds the byte at an offset. -/
structure Located (entries : List SgEntry) (byteOffset : Nat) (entry : SgEntry)
    (rest : List SgEntry) (intraOff : Nat) : Prop where
  suffix : entry :: rest <:+ entries
  inside : intraOff < entry.length
  bytes : (sgBytes entries).drop byteOffset =
    List.range' (entry.address + intraOff) (entry.length - intraOff) ++ sgBytes rest

theorem sgBytes_cons (entry : SgEntry) (entries : List SgEntry) :
    sgBytes (entry :: entries) = List.range' entry.address entry.length ++ sgBytes entries :=
  List.flatMap_cons

theorem sgLocateFrom_eq_ok {byteOffset acc intraOff : Nat} {entries rest : List SgEntry}
    {entry : SgEntry} (passed : acc ≤ byteOffset)
    (found : sgLocateFrom byteOffset acc entries = .ok (entry, rest, intraOff)) :
    Located entries (byteOffset - acc) entry rest intraOff := by
  induction entries generalizing acc with
  | nil => cases found
  | cons first entries ih =>
    rw [sgLocateFrom] at found
    split at found
    · rename_i here
      cases found
      refine ⟨List.suffix_refl _, by omega, ?_⟩
      have inFirst : byteOffset - acc ≤ entry.length := by omega
      rw [sgBytes_cons, List.drop_append_of_le_length (by simpa using inFirst),
        List.drop_range', Nat.mul_one]
    · rename_i before
      obtain ⟨suffix, inside, bytes⟩ := ih (by omega) found
      refine ⟨suffix.trans (List.suffix_cons ..), inside, ?_⟩
      rw [sgBytes_cons, List.drop_append, List.drop_range', List.length_range', ← bytes,
        Nat.sub_eq_zero_of_le (show first.length ≤ byteOffset - acc by omega), Nat.sub_sub]
      rfl

theorem mxSgLocate_eq_ok {byteOffset intraOff : Nat} {entries rest : List SgEntry}
    {entry : SgEntry} (found : mxSgLocate entries byteOffset = .ok (entry, rest, intraOff)) :
    Located entries byteOffset entry rest intraOff :=
  sgLocateFrom_eq_ok (Nat.zero_le _) found

theorem exists_sgLocateFrom {byteOffset acc : Nat} {entries : List SgEntry}
    (passed : acc ≤ byteOffset) (within : byteOffset < acc + (sgBytes entries).length) :
    ∃ entry rest intraOff,
      sgLocateFrom byteOffset acc entries = .ok (entry, rest, intraOff) := by
  induction entries generalizing acc with
  | nil => exact absurd within (Nat.not_lt.mpr passed)
  | cons first entries ih =>
    rw [sgLocateFrom]
    split
    · exact ⟨_, _, _, rfl⟩
    · rename_i before
      rw [sgBytes_cons, List.length_append, List.length_range'] at within
      exact ih (by omega) (by omega)

theorem exists_mxSgLocate {byteOffset : Nat} {entries : List SgEntry}
    (within : byteOffset < (sgBytes entries).length) :
    ∃ entry rest intraOff, mxSgLocate entries byteOffset = .ok (entry, rest, intraOff) :=
  exists_sgLocateFrom (Nat.zero_le _) (by rwa [Nat.zero_add])

/-! ## The pages -/

theorem listCountFrom_eq {descsPerList rounds totalDescCnt listCnt : Nat}
    (atLeast : 2 ≤ descsPerList) (enough : totalDescCnt ≤ rounds) :
    listCountFrom descsPerList rounds totalDescCnt listCnt =
      listCnt + linkCount descsPerList totalDescCnt 0 := by
  induction rounds generalizing totalDescCnt listCnt with
  | zero =>
    obtain rfl := Nat.le_zero.mp enough
    rfl
  | succ rounds ih =>
    rw [listCountFrom]
    split
    · rename_i beyond
      have links : linkCount descsPerList totalDescCnt 0 =
          1 + linkCount descsPerList (totalDescCnt - (descsPerList - 1)) 0 :=
        linkCount_of_gt atLeast (by omega) beyond
      rw [ih (by omega), links, Nat.add_assoc]
    · rename_i fits
      rw [linkCount_of_le (by omega), Nat.add_zero]

theorem mxGetListCount_eq {descsPerList : Nat} (totalDescCnt : Nat) (atLeast : 2 ≤ descsPerList) :
    mxGetListCount totalDescCnt descsPerList = 1 + linkCount descsPerList totalDescCnt 0 :=
  listCountFrom_eq atLeast (Nat.le_refl _)

section Emission

variable {dmaSize descsPerList : Nat} {cursor : DescCursor} {pages : List Nat}
  {page descIdx : Nat} {memory : Memory Nat}

theorem DescCursor.Walks.nonempty {addresses : List Nat}
    (walks : cursor.Walks dmaSize addresses) : addresses ≠ [] := by
  cases walks <;> exact List.cons_ne_nil _ _

theorem emitDescs_of_walks {addresses : List Nat} {next : Memory Nat}
    (atLeast : 2 ≤ descsPerList) (inside : descIdx < descsPerList)
    (walks : cursor.Walks dmaSize addresses)
    (stored : store descsPerList addresses page pages descIdx memory = some next) :
    emitDescs dmaSize descsPerList addresses.length cursor page pages descIdx memory =
      .ok next := by
  induction walks generalizing page pages descIdx memory with
  | @last cursor pending whole =>
    have ended : cursor.consume.remaining = 0 := by simp [DescCursor.consume, whole]
    simp only [store, ne_eq, not_true_eq_false, and_false, if_false] at stored
    obtain rfl := Option.some.inj stored
    simp [emitDescs, nextSlot, Nat.pos_iff_ne_zero.mp pending, ended, inside]
  | @more cursor following addresses shorter advanced rest ih =>
    have pending : cursor.remaining ≠ 0 := by omega
    have unfinished : cursor.consume.remaining ≠ 0 := by
      simp only [DescCursor.consume]
      omega
    have goesOn : cursor.consume.nextEntry.bind (DescCursor.align dmaSize) =
      .ok following := advanced
    have several : addresses.length + 1 > 1 := by
      have := List.length_pos_iff.mpr rest.nonempty
      omega
    unfold store at stored
    rw [List.length_cons, emitDescs, if_neg pending]
    split at stored
    · rename_i full
      cases pages with
      | nil => cases stored
      | cons link pages =>
        have slot : nextSlot descsPerList (addresses.length + 1) page (link :: pages)
            descIdx memory = .ok (link, pages, 0, memory.write page descIdx link) :=
          if_pos ⟨full.1, several⟩
        simp only [slot, unfinished, goesOn, if_false]
        rw [if_neg (by omega)]
        exact ih (by omega) stored
    · rename_i room
      have before : ¬descIdx = descsPerList - 1 := fun full => room ⟨full, rest.nonempty⟩
      have slot : nextSlot descsPerList (addresses.length + 1) page pages descIdx memory =
          .ok (page, pages, descIdx, memory) := if_neg fun full => before full.1
      simp only [slot, unfinished, goesOn, if_false]
      rw [if_neg (by omega)]
      exact ih (by omega) stored

end Emission

section Pages

variable {pool : DescPool} {entries rest : List SgEntry} {entry : SgEntry}
  {byteOffset intraOff size dmaSize descsPerList : Nat} {skipFirstEntry : Bool}
  {cursor : DescCursor} {addresses : List Nat}

theorem mxDescListInit_of_alloc {page : Nat} {pages : List Nat} (atLeast : 2 ≤ descsPerList)
    (located : mxSgLocate entries byteOffset = .ok (entry, rest, intraOff))
    (started : (if skipFirstEntry then
        (DescCursor.start entry rest intraOff size dmaSize).skipFirst dmaSize
      else .ok (DescCursor.start entry rest intraOff size dmaSize)) = .ok cursor)
    (walks : cursor.Walks dmaSize addresses)
    (allocated : pool.alloc (mxGetListCount addresses.length descsPerList) =
      some (page :: pages)) :
    ∃ memory, store descsPerList addresses page pages 0 (fun _ _ => none) = some memory ∧
      mxDescListInit pool entries byteOffset size dmaSize descsPerList skipFirstEntry
        addresses.length = .ok (page, memory) := by
  have some : addresses.length ≠ 0 := by simpa using walks.nonempty
  have count := pool.count _ _ allocated
  rw [mxGetListCount_eq _ atLeast, List.length_cons] at count
  obtain ⟨memory, stored⟩ := exists_store page (fun _ _ => none)
    (show linkCount descsPerList addresses.length 0 ≤ pages.length by omega)
  have emitted := emitDescs_of_walks atLeast (by omega) walks stored
  refine ⟨memory, stored, ?_⟩
  simp only [mxDescListInit, located, started, if_neg some, allocated, emitted, Except.map]

/-- The pages suffice, so only the allocation can fail. -/
theorem mxDescListInit_of_walks (pool : DescPool) (skipFirstEntry : Bool)
    (atLeast : 2 ≤ descsPerList)
    (located : mxSgLocate entries byteOffset = .ok (entry, rest, intraOff))
    (started : (if skipFirstEntry then
        (DescCursor.start entry rest intraOff size dmaSize).skipFirst dmaSize
      else .ok (DescCursor.start entry rest intraOff size dmaSize)) = .ok cursor)
    (walks : cursor.Walks dmaSize addresses) :
    (pool.alloc (mxGetListCount addresses.length descsPerList) = none ∧
        mxDescListInit pool entries byteOffset size dmaSize descsPerList skipFirstEntry
          addresses.length = .error .enomem) ∨
      ∃ page memory,
        mxDescListInit pool entries byteOffset size dmaSize descsPerList skipFirstEntry
          addresses.length = .ok (page, memory) ∧
        read descsPerList memory addresses.length page 0 = some addresses := by
  cases allocated : pool.alloc (mxGetListCount addresses.length descsPerList) with
  | none =>
    have some : addresses.length ≠ 0 := by simpa using walks.nonempty
    refine .inl ⟨rfl, ?_⟩
    simp only [mxDescListInit, located, if_neg some, allocated]
  | some pages =>
    cases pages with
    | nil =>
      have count := pool.count _ _ allocated
      rw [mxGetListCount_eq _ atLeast, List.length_nil] at count
      omega
    | cons page pages =>
      obtain ⟨memory, stored, written⟩ :=
        mxDescListInit_of_alloc atLeast located started walks allocated
      exact .inr ⟨page, memory, written,
        read_of_store stored (pool.distinct _ _ allocated)⟩

end Pages

end MxDriver
