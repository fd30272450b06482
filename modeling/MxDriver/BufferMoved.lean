import MxDriver.BufferLimits
import MxDriver.ParallelSplitMoves
import MxDriver.PciAttachRestores

/-!
# A user buffer is moved whole

The descriptors of a command carry addresses and no lengths, so the device can only be told
of mappings whose entries meet on its chunk boundaries.  That a mapping is of that kind goes
back to three decisions of the driver: the longest segment is whole pages, the device is
asked to keep the offset within a page, and buffers are cut at page boundaries.  With them no
buffer that could be mapped is refused for its shape, and the commands together move every
byte of the buffer once.
-/

namespace MxDriver

/-! ## The table and the mapping of a buffer -/

theorem length_flatMap_pages (pages : List Nat) :
    (pages.flatMap fun page => List.range' (page * pageSize) pageSize).length =
      pages.length * pageSize := by
  induction pages with
  | nil => exact (Nat.zero_mul _).symm
  | cons page pages ih =>
    rw [List.flatMap_cons, List.length_append, List.length_range', ih, List.length_cons,
      Nat.succ_mul, Nat.add_comm]

theorem length_userBytes {pages : List Nat} {offset size : Nat}
    (covered : offset + size ≤ pages.length * pageSize) :
    (userBytes pages offset size).length = size := by
  rw [userBytes, List.length_take, List.length_drop, length_flatMap_pages]
  omega

theorem userBytes_single {page offset size : Nat} (inside : offset + size ≤ pageSize) :
    userBytes [page] offset size = List.range' (page * pageSize + offset) size := by
  have parts : pageSize - offset = size + (pageSize - offset - size) := by omega
  rw [userBytes, List.flatMap_singleton, List.drop_range', Nat.mul_one, parts,
    ← List.range'_append_1, List.take_left' List.length_range']

/-- What the table of a buffer is like, whichever way it was made. -/
structure TableFits (pages : List Nat) (offset size : Nat) (table : List AddressRun) : Prop where
  bytes : AddressRun.bytes table = userBytes pages offset size
  meet : table.IsChain (AddressRun.Meet pageSize)
  short : ∀ run ∈ table, run.length ≤ uintMax

theorem TableHelper.maxSegment_spec {limits : DmaLimits} (suitable : limits.Suitable)
    (helper : TableHelper) :
    0 < helper.maxSegment (mxMaxSgSegment limits) ∧
      pageSize ∣ helper.maxSegment (mxMaxSgSegment limits) ∧
      helper.maxSegment (mxMaxSgSegment limits) ≤ uintMax := by
  cases helper with
  | segmentCapped =>
    obtain ⟨positive, whole, most⟩ := mxMaxSgSegment_spec limits
    refine ⟨positive, whole, most.trans (Nat.max_le.mpr ⟨suitable.segments.trans ?_, ?_⟩)⟩
    · decide
    · decide
  | uncapped =>
    have positive : 0 < alignDownPage uintMax := by decide
    exact ⟨positive, pageSize_dvd_alignDownPage uintMax, alignDownPage_le uintMax⟩

namespace BufferServices

variable {services : BufferServices} {helper : TableHelper} {limits : DmaLimits}
variable {userAddr totalSize : Nat} {context : SgContext} {pages : List Nat}
variable {table : List AddressRun}

/-- A context was made from pages that were all pinned and from a table of them. -/
theorem exists_table
    (created : mxSgContextCreate (services.sgServices helper limits userAddr totalSize) userAddr
      totalSize = .ok context) :
    ∃ pages table, services.pinUserPages userAddr context.pagesNr = .ok pages ∧
      pages.length = context.pagesNr ∧
      services.sgTable helper limits userAddr totalSize = .ok table ∧
      context.sgt = services.dmaMapSg limits table ∧ services.dmaMapSg limits table ≠ [] := by
  obtain ⟨-, pinned, mapped, rfl⟩ := mxSgContextCreate_eq_ok created
  obtain ⟨pages, pagesEq, counted⟩ := eq_of_map_eq_ok pinned
  cases tableEq : services.sgTable helper limits userAddr totalSize with
  | error error => simp [sgServices, tableEq] at mapped
  | ok table =>
    simp only [sgServices, tableEq] at mapped ⊢
    exact ⟨pages, table, pagesEq, counted, rfl, rfl, mapped⟩

theorem tableFits (suitable : limits.Suitable) (mapped : MappedBuffer context)
    (address : context.userAddr = userAddr) (size : context.totalSize = totalSize)
    (pinned : services.pinUserPages userAddr context.pagesNr = .ok pages)
    (all : pages.length = context.pagesNr)
    (tableEq : services.sgTable helper limits userAddr totalSize = .ok table) :
    TableFits pages (userAddr % pageSize) totalSize table := by
  have count := mapped.pages
  rw [address, size] at count
  have covered : userAddr % pageSize + totalSize ≤ pages.length * pageSize := by
    rw [all, ← address, ← size]
    exact mapped.covered
  simp only [sgTable, ← count, pinned] at tableEq
  split at tableEq
  · -- one page: the entry made by hand
    rename_i inline
    obtain ⟨page, rfl⟩ : ∃ page, pages = [page] := by
      rw [← List.length_eq_one_iff, all]
      have some := mapped.pagesNr_pos
      simp only [pagesInlineNr] at inline
      omega
    cases tableEq
    have inside : userAddr % pageSize + totalSize ≤ pageSize := by
      simpa using covered
    refine ⟨?_, List.isChain_singleton _, ?_⟩
    · rw [userBytes_single inside]
      simp [AddressRun.bytes]
    · intro run among
      obtain rfl := List.mem_singleton.mp among
      have short : pageSize ≤ uintMax := by decide
      simp only
      omega
  · obtain ⟨positive, whole, most⟩ := helper.maxSegment_spec suitable
    exact ⟨services.table_bytes _ _ _ _ _ tableEq covered,
      services.table_meet _ _ _ _ _ tableEq positive whole,
      fun run among =>
        (services.table_capped _ _ _ _ _ tableEq positive whole run among).trans most⟩

end BufferServices

/-! ## What meets can be expressed -/

theorem AddressRun.Meet.mono {size whole : Nat} (divides : size ∣ whole)
    {run next : AddressRun} (meet : AddressRun.Meet whole run next) :
    AddressRun.Meet size run next :=
  ⟨divides.trans meet.1, divides.trans meet.2⟩

theorem expressible_of_meet {size remaining : Nat} {entry : SgEntry} {rest : List SgEntry}
    (meet : ((entry :: rest).map SgEntry.run).IsChain (AddressRun.Meet size))
    (covered : remaining ≤ (sgBytes (entry :: rest)).length) :
    Expressible size entry.address entry.length rest remaining := by
  induction rest generalizing entry remaining with
  | nil =>
    have fits : remaining ≤ entry.length := by simpa [sgBytes] using covered
    exact fits
  | cons next rest ih =>
    obtain ⟨⟨ends, starts⟩, later⟩ := List.isChain_cons_cons.mp meet
    refine .inr ⟨ends, starts, ih later ?_⟩
    rw [sgBytes_cons, List.length_append, List.length_range'] at covered
    omega

/-- A mapping whose entries meet on page boundaries is a command for any chunk size of the
two revisions. -/
theorem sliceExpressible_whole {context : SgContext} (revision : Revision)
    (meet : (context.sgt.map SgEntry.run).IsChain (AddressRun.Meet pageSize))
    (length : (sgBytes context.sgt).length = context.totalSize)
    (nonempty : 0 < context.totalSize) (base : UInt64) (id : Nat) :
    SliceExpressible revision context.sgt (wholeTransfer context base id) := by
  have divides : revision.dmaSize ∣ pageSize := by cases revision <;> decide
  cases entries : context.sgt with
  | nil =>
    rw [entries] at length
    simp only [sgBytes, List.flatMap_nil, List.length_nil] at length
    omega
  | cons entry rest =>
    rw [entries] at meet length
    refine ⟨entry, rest, 0, ?_, ?_⟩
    · have positive := entry.nonempty
      rw [mxSgLocate, sgLocateFrom, if_pos]
      · rfl
      · simp only [wholeTransfer]
        omega
    · exact expressible_of_meet (meet.imp fun _ _ => AddressRun.Meet.mono divides)
        (Nat.le_of_eq length.symm)

theorem splitOf_whole {context : SgContext} (nonempty : 0 < context.totalSize) (base : UInt64)
    (id : Nat) : SplitOf context base [wholeTransfer context base id] where
  nonempty := by simpa [wholeTransfer] using nonempty
  tiles := by simp [wholeTransfer, List.range_eq_range']
  device := by simp [wholeTransfer]
  aligned := by simp [wholeTransfer]

/-! ## The whole way -/

/-- What a buffer's mapping is like. -/
structure MappingFits (context : SgContext) (translate : Nat → Nat) (bytes : List Nat) : Prop where
  meet : (context.sgt.map SgEntry.run).IsChain (AddressRun.Meet pageSize)
  short : ∀ entry ∈ context.sgt, entry.length ≤ uintMax
  bytes : (sgBytes context.sgt).map translate = bytes
  length : (sgBytes context.sgt).length = context.totalSize

theorem BufferServices.mappingFits {services : BufferServices} {helper : TableHelper}
    {limits : DmaLimits} {userAddr totalSize : Nat} {context : SgContext}
    (suitable : limits.Suitable)
    (created : mxSgContextCreate (services.sgServices helper limits userAddr totalSize) userAddr
      totalSize = .ok context) :
    ∃ pages, services.pinUserPages userAddr context.pagesNr = .ok pages ∧
      pages.length = context.pagesNr ∧
      MappingFits context services.translate
        (userBytes pages (userAddr % pageSize) totalSize) := by
  obtain ⟨mapped, address, size⟩ := mxSgContextCreate_mapped created
  obtain ⟨pages, table, pinned, all, tableEq, sgtEq, mappedTable⟩ := exists_table created
  have fits := tableFits suitable mapped address size pinned all tableEq
  have stands := services.mapped_stands limits table mappedTable
  have bytes : (sgBytes context.sgt).map services.translate =
      userBytes pages (userAddr % pageSize) totalSize := by
    rw [sgtEq, services.mapped_bytes limits table mappedTable, fits.bytes]
  refine ⟨pages, pinned, all, ?_, ?_, bytes, ?_⟩
  · rw [sgtEq]
    exact stands.meet (fun _ _ => suitable.placed) fits.meet
  · intro entry among
    have run := stands.length_le fits.short entry.run
      (List.mem_map.mpr ⟨entry, sgtEq ▸ among, rfl⟩)
    have limited : limits.maxSegSize ≤ uintMax := suitable.segments.trans (by decide)
    exact run.trans (Nat.max_le.mpr ⟨le_rfl, limited⟩)
  · have covered := mapped.covered
    rw [address, size, ← all] at covered
    have length := congrArg List.length bytes
    rw [List.length_map, length_userBytes covered] at length
    rw [length, size]

/-- The pairs of a whole buffer, told by its own bytes. -/
theorem MappingFits.pairs {context : SgContext} {translate : Nat → Nat} {bytes : List Nat}
    (fits : MappingFits context translate bytes) (base : UInt64) :
    ((List.range context.totalSize).map (bytePair context.sgt base)).map
        (Prod.map translate id) =
      (List.range context.totalSize).map fun index =>
        (bytes.getD index 0, base + UInt64.ofNat index) := by
  rw [List.map_map]
  apply List.map_congr_left
  intro index among
  have inside : index < (sgBytes context.sgt).length := by
    rw [fits.length]
    exact List.mem_range.mp among
  simp only [Function.comp_apply, Prod.map, bytePair, id_eq, ← fits.bytes,
    List.getD_eq_getElem?_getD, List.getElem?_map, List.getElem?_eq_getElem inside,
    Option.map_some, Option.getD_some]

theorem submitTransfers_splitOf {alloc : SplitAlloc} {context : SgContext} {base : UInt64}
    {count : Nat} {transfers : List SgTransfer} (mapped : MappedBuffer context)
    (some : 0 < count) (most : count ≤ context.pagesNr)
    (built : submitTransfers alloc context base count = .some transfers) :
    SplitOf context base transfers := by
  rw [submitTransfers] at built
  split at built
  · obtain ⟨id, -, rfl⟩ := Option.map_eq_some_iff.mp built
    exact splitOf_whole mapped.nonempty base id
  · exact (allocMxTransfers_splitOf mapped some most built).2

/-- On a device that was made, no buffer that could be mapped is refused for its shape: as
long as there are descriptor pages and no entry is mapped to address zero, a command is built
for every slice, however the buffer is split, and the commands together move each byte of the
buffer's pages to or from its own byte of the device, and move it once.  No entry of the
mapping is longer than an `unsigned int`. -/
theorem buffer_moved_whole (revision : Revision) (build : DriverBuild) (answers : PciAnswers)
    (before device : PciAttach)
    (made : PciAttach.createRest build revision answers before = (.ok (), device))
    (maxMappingSize : Nat) (services : BufferServices) (helper : TableHelper)
    (userAddr totalSize : Nat) (context : SgContext)
    (created : mxSgContextCreate (services.sgServices helper (device.dmaLimits maxMappingSize)
      userAddr totalSize) userAddr totalSize = .ok context)
    (nonzero : ∀ entry ∈ context.sgt, entry.address ≠ 0)
    (parallelCount parallelSplitRatio : UInt32) (count : Nat)
    (countEq : count = 1 ∨ count = (mxParallelCountFor revision.dmaSize parallelCount
      parallelSplitRatio userAddr totalSize).toNat)
    (alloc : SplitAlloc) (base : UInt64) (transfers : List SgTransfer)
    (allocated : submitTransfers alloc context base count = some transfers)
    (pools : SgTransfer → DescPool)
    (pages : ∀ transfer listCnt, (pools transfer).alloc listCnt ≠ none) (opcode : Nat) :
    (∀ entry ∈ context.sgt, entry.length ≤ uintMax) ∧
      ∃ frames builts parts,
        services.pinUserPages userAddr context.pagesNr = .ok frames ∧
        frames.length = context.pagesNr ∧
        List.Forall₂ (fun transfer built =>
          createMxCommandSg revision (pools transfer) context.sgt transfer opcode = .ok built)
          transfers builts ∧
        builts.mapM movedPairs = some parts ∧
        parts.sum.map (Prod.map services.translate id) =
          (((List.range totalSize).map fun index =>
            ((userBytes frames (userAddr % pageSize) totalSize).getD index 0,
              base + UInt64.ofNat index) : List (Nat × UInt64)) : Multiset (Nat × UInt64)) := by
  have addressed : device.Addressed := by
    have ends : Fallible.Ends (fun _ => PciAttach.Addressed) (fun _ => True)
      (PciAttach.createRest build revision answers before) := PciAttach.createRest_addressed
    rwa [made] at ends
  obtain ⟨mapped, rfl, rfl⟩ := mxSgContextCreate_mapped created
  obtain ⟨frames, pinned, all, fits⟩ :=
    BufferServices.mappingFits (addressed.suitable maxMappingSize) created
  have bounds : 0 < count ∧ count ≤ context.pagesNr := by
    have pagesPos := mapped.pagesNr_pos
    obtain ⟨least, most⟩ := mxParallelCountFor_bounds mapped revision.dmaSize parallelCount
      parallelSplitRatio
    rcases countEq with rfl | rfl
    · omega
    · omega
  have split := submitTransfers_splitOf mapped bounds.1 bounds.2 allocated
  -- one command for the whole buffer could be built, so the slices can
  have whole := sliceExpressible_whole revision fits.meet fits.length mapped.nonempty base 0
  obtain ⟨single, accepted⟩ : ∃ single, createMxCommandSg revision freshPages context.sgt
      (wholeTransfer context base 0) opcode = .ok single :=
    exists_createMxCommandSg opcode whole mapped.nonempty nonzero fun _ => Option.some_ne_none _
  obtain ⟨builts, parts, pairs, commands, moved, singly, sum⟩ :=
    split.moves mapped.nonempty nonzero accepted pools pages
  have pairsEq := movedPairs_eq base (by simp [wholeTransfer]) whole mapped.nonempty accepted
  have ranged : List.range' (wholeTransfer context base 0).sgByteOffset
      (wholeTransfer context base 0).size = List.range context.totalSize :=
    List.range_eq_range'.symm
  refine ⟨fits.short, frames, builts, parts, pinned, all, commands, moved, ?_⟩
  rw [singly, Option.some_inj, ranged] at pairsEq
  rw [sum, pairsEq, Multiset.map_coe, fits.pairs base]

/-- Two runs on pages that are not neighbours. -/
def twoPageTable : List AddressRun := [⟨24570, 6⟩, ⟨36864, 3⟩]

/-- They are mapped a mebibyte higher. -/
def twoPageMapping : List SgEntry :=
  [⟨1073146, 6, by decide, by decide⟩, ⟨1085440, 3, by decide, by decide⟩]

/-- A kernel that has pages for one buffer of nine bytes. -/
def twoPageServices : BufferServices where
  allocContext := true
  allocPages _ := true
  pinUserPages userAddr pagesNr :=
    if userAddr = 4090 ∧ pagesNr = 2 then .ok [5, 9] else .error .efault
  allocTable pages offset size _ :=
    if pages = [5, 9] ∧ offset = 4090 ∧ size = 9 then .ok twoPageTable else .error .enomem
  dmaMapSg limits table :=
    if limits.minAlignMask = 4095 ∧ table = twoPageTable then twoPageMapping else []
  translate address := address - 1048576
  pinned_noWrap userAddr pagesNr pages _ pinned _ := by
    split at pinned
    · rename_i asked
      rw [asked.1, asked.2]
      decide
    · cases pinned
  table_bytes pages offset size _ table allocated _ := by
    split at allocated
    · rename_i asked
      obtain ⟨rfl, rfl, rfl⟩ := asked
      cases allocated
      decide +kernel
    · cases allocated
  table_meet pages offset size maxSegment table allocated _ _ := by
    split at allocated
    · cases allocated
      exact List.isChain_cons_cons.mpr ⟨by constructor <;> decide, List.isChain_singleton _⟩
    · cases allocated
  table_capped pages offset size maxSegment table allocated positive whole := by
    split at allocated
    · cases allocated
      have least := Nat.le_of_dvd positive whole
      have short : ∀ run ∈ twoPageTable, run.length ≤ pageSize := by decide
      exact fun run among => (short run among).trans least
    · cases allocated
  mapped_stands limits table mapped := by
    split
    · rename_i asked
      obtain ⟨mask, rfl⟩ := asked
      have placed (address : Nat) (same : (address + 1048576) % 4096 = address % 4096) :
          SameUnder limits.minAlignMask (address + 1048576) address := by
        rw [SameUnder, mask]
        exact (Nat.and_two_pow_sub_one_eq_mod _ 12).trans
          (same.trans (Nat.and_two_pow_sub_one_eq_mod _ 12).symm)
      exact .alone (placed 24570 rfl) rfl (.alone (placed 36864 rfl) rfl .nil)
    · rename_i other
      exact (mapped (if_neg other)).elim
  mapped_bytes limits table mapped := by
    split
    · rename_i asked
      obtain ⟨-, rfl⟩ := asked
      decide +kernel
    · rename_i other
      exact (mapped (if_neg other)).elim

/-- A device of the second revision, made beside a CXL driver. -/
def madeDevice : PciAttach :=
  (PciAttach.createRest .overlay .v2 PciAttach.grantingKernel
    (PciAttach.found PciAttach.cxlSettings)).2

/-- The nine bytes are moved by two commands. -/
theorem buffer_moved_whole_twoPages :
    ∃ builts parts,
      List.Forall₂ (fun transfer built =>
        createMxCommandSg .v2 freshPages twoPageMapping transfer 1 = .ok built)
        [⟨0, 6, 64, 0⟩, ⟨1, 3, 70, 6⟩] builts ∧
      builts.mapM movedPairs = some parts ∧
      parts.sum.map (Prod.map twoPageServices.translate id) =
        (([(24570, 64), (24571, 65), (24572, 66), (24573, 67), (24574, 68), (24575, 69),
          (36864, 70), (36865, 71), (36866, 72)] : List (Nat × UInt64)) :
            Multiset (Nat × UInt64)) := by
  have created : mxSgContextCreate (twoPageServices.sgServices .segmentCapped
      (madeDevice.dmaLimits 0) 4090 9) 4090 9 = .ok ⟨4090, 9, 2, twoPageMapping⟩ := rfl
  have allocated : submitTransfers ⟨true, some⟩ ⟨4090, 9, 2, twoPageMapping⟩ 64 2 =
      some [⟨0, 6, 64, 0⟩, ⟨1, 3, 70, 6⟩] := by decide +kernel
  have count : (mxParallelCountFor Revision.v2.dmaSize 6 0 4090 9).toNat = 2 := rfl
  obtain ⟨-, frames, builts, parts, pinned, -, commands, moved, sum⟩ :=
    buffer_moved_whole .v2 .overlay PciAttach.grantingKernel
      (PciAttach.found PciAttach.cxlSettings) madeDevice rfl 0 twoPageServices .segmentCapped
      4090 9 _ created (by simp [twoPageMapping]) 6 0 2 (.inr count.symm) ⟨true, some⟩ 64 _
      allocated (fun _ => freshPages) (fun _ _ => Option.some_ne_none _) 1
  obtain rfl : frames = [5, 9] := (Except.ok.inj pinned).symm
  refine ⟨builts, parts, commands, moved, sum.trans ?_⟩
  decide +kernel

end MxDriver
