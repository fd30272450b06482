import Mathlib.Algebra.BigOperators.Group.Multiset.Basic
import MxDriver.ParallelSplitSlices
import MxDriver.PrpFaithful

/-!
# A split moves what one command would move

If a command for the whole buffer is accepted, then so is a command for every slice
of it, and together the slices pair the same host bytes with the same device bytes.
-/

namespace MxDriver

/-! ## Parts of a slice -/

section Parts

variable {dmaSize address avail remaining : Nat} {rest : List SgEntry}

theorem Expressible.mono {fewer : Nat}
    (expressible : Expressible dmaSize address avail rest remaining)
    (le : fewer ≤ remaining) : Expressible dmaSize address avail rest fewer := by
  induction rest generalizing address avail remaining fewer with
  | nil => exact le.trans expressible
  | cons entry rest ih =>
    rcases expressible with fits | ⟨ends, starts, later⟩
    · exact .inl (le.trans fits)
    · exact .inr ⟨ends, starts, ih later (Nat.sub_le_sub_right le _)⟩

/-- Wherever a part of a slice starts, it can be expressed if the slice can. -/
theorem Expressible.part {entry : SgEntry} {offset size : Nat} (acc : Nat)
    (expressible : Expressible dmaSize entry.address entry.length rest remaining)
    (inside : offset + size ≤ remaining) (nonempty : 0 < size) :
    ∃ found others intraOff,
      sgLocateFrom (acc + offset) acc (entry :: rest) = .ok (found, others, intraOff) ∧
        Expressible dmaSize (found.address + intraOff) (found.length - intraOff) others
          size := by
  induction rest generalizing entry remaining offset acc with
  | nil =>
    have fits : remaining ≤ entry.length := expressible
    refine ⟨entry, [], offset, ?_, (expressible.drop (by omega)).mono (by omega)⟩
    rw [sgLocateFrom, if_pos (by omega), Nat.add_sub_cancel_left]
  | cons next rest ih =>
    rw [sgLocateFrom]
    by_cases here : offset < entry.length
    · rw [if_pos (by omega), Nat.add_sub_cancel_left]
      exact ⟨entry, next :: rest, offset, rfl,
        (expressible.drop (Nat.le_of_lt here)).mono (by omega)⟩
    · obtain ⟨-, -, later⟩ := expressible.resolve_left (by omega)
      have passed : acc + offset = acc + entry.length + (offset - entry.length) := by omega
      rw [if_neg (by omega), passed]
      exact ih (acc + entry.length) later (by omega)

theorem SliceExpressible.part {revision : Revision} {entries : List SgEntry}
    {whole transfer : SgTransfer} (expressible : SliceExpressible revision entries whole)
    (start : whole.sgByteOffset = 0) (nonempty : 0 < transfer.size)
    (inside : transfer.sgByteOffset + transfer.size ≤ whole.size) :
    SliceExpressible revision entries transfer := by
  obtain ⟨entry, rest, intraOff, found, expressible⟩ := expressible
  rw [start] at found
  cases entries with
  | nil => cases found
  | cons first entries =>
    have positive := first.nonempty
    rw [mxSgLocate, sgLocateFrom, if_pos (by omega)] at found
    cases found
    have part := Expressible.part 0 expressible inside nonempty
    rwa [Nat.zero_add] at part

end Parts

/-! ## What a command moves -/

namespace MxCommand

def deviceAddr : MxCommand → UInt64
  | v1 command => command.deviceAddr
  | v2 command => command.deviceAddr

end MxCommand

/-- The host bytes that a command moves, each with its byte on the device. -/
def movedPairs (built : Built MxCommand) : Option (Multiset (Nat × UInt64)) :=
  (deviceRead built.1 built.2).map fun bytes =>
    bytes.zipIdx.map fun byte => (byte.1, built.1.deviceAddr + UInt64.ofNat byte.2)

section Moves

variable {pool : DescPool} {entries : List SgEntry} {transfer : SgTransfer} {opcode : Nat}

theorem eq_of_map_eq_ok {ε α β : Type} {result : Except ε α} {f : α → β} {value : β}
    (mapped : result.map f = .ok value) : ∃ inner, result = .ok inner ∧ f inner = value := by
  cases result with
  | error error => cases mapped
  | ok inner => exact ⟨inner, rfl, Except.ok.inj mapped⟩

theorem createMxCommandSgV1_deviceAddr {built : Built MxCommandV1}
    (accepted : createMxCommandSgV1 pool entries transfer opcode = .ok built) :
    built.1.deviceAddr = transfer.deviceAddr := by
  unfold createMxCommandSgV1 createMxCommandSgV1With at accepted
  split at accepted
  · cases accepted
  · split at accepted
    · split at accepted
      · cases accepted
      · cases accepted
        rfl
    · split at accepted
      · cases accepted
      · obtain ⟨written, -, rfl⟩ := eq_of_map_eq_ok accepted
        rfl

theorem createMxCommandSgV2_deviceAddr {built : Built MxCommandV2}
    (accepted : createMxCommandSgV2 pool entries transfer opcode = .ok built) :
    built.1.deviceAddr = transfer.deviceAddr := by
  unfold createMxCommandSgV2 createMxCommandSgV2With at accepted
  split at accepted
  · cases accepted
  · dsimp only at accepted
    split at accepted
    · cases accepted
    · split at accepted
      · cases accepted
      · cases accepted
      · cases accepted
        rfl
      · obtain ⟨address, -, rfl⟩ := eq_of_map_eq_ok accepted
        rfl
      · obtain ⟨written, -, rfl⟩ := eq_of_map_eq_ok accepted
        rfl

theorem createMxCommandSg_deviceAddr {revision : Revision} {built : Built MxCommand}
    (accepted : createMxCommandSg revision pool entries transfer opcode = .ok built) :
    built.1.deviceAddr = transfer.deviceAddr := by
  cases revision with
  | v1 =>
    obtain ⟨inner, innerEq, rfl⟩ := eq_of_map_eq_ok accepted
    exact createMxCommandSgV1_deviceAddr innerEq
  | v2 =>
    obtain ⟨inner, innerEq, rfl⟩ := eq_of_map_eq_ok accepted
    exact createMxCommandSgV2_deviceAddr innerEq

/-- The pair that a byte of the buffer belongs to. -/
def bytePair (entries : List SgEntry) (deviceAddrBase : UInt64) (index : Nat) : Nat × UInt64 :=
  ((sgBytes entries).getD index 0, deviceAddrBase + UInt64.ofNat index)

theorem zipIdx_slice {bytes : List Nat} {offset size : Nat} (base : UInt64)
    (inside : offset + size ≤ bytes.length) :
    ((bytes.drop offset).take size).zipIdx.map
        (fun byte => (byte.1, base + UInt64.ofNat offset + UInt64.ofNat byte.2)) =
      (List.range' offset size).map
        fun index => (bytes.getD index 0, base + UInt64.ofNat index) := by
  apply List.ext_getElem
  · simp only [List.length_map, List.length_zipIdx, List.length_take, List.length_drop,
      List.length_range']
    omega
  · intro index _ below
    rw [List.length_map, List.length_range'] at below
    have within : offset + index < bytes.length := by omega
    simp only [List.getElem_map, List.getElem_zipIdx, List.getElem_take, List.getElem_drop,
      List.getElem_range', Nat.one_mul, Nat.zero_add, List.getD_eq_getElem?_getD,
      List.getElem?_eq_getElem within, Option.getD_some, UInt64.add_assoc, ← UInt64.ofNat_add]

theorem movedPairs_eq {revision : Revision} (base : UInt64)
    (device : transfer.deviceAddr = base + UInt64.ofNat transfer.sgByteOffset)
    (expressible : SliceExpressible revision entries transfer) (nonempty : 0 < transfer.size)
    {built : Built MxCommand}
    (accepted : createMxCommandSg revision pool entries transfer opcode = .ok built) :
    movedPairs built =
      some (((List.range' transfer.sgByteOffset transfer.size).map (bytePair entries base) :
        List (Nat × UInt64)) : Multiset (Nat × UInt64)) := by
  have outcome := createMxCommandSg_outcome pool opcode expressible fun _ => nonempty
  rw [accepted] at outcome
  cases outcome with
  | built read =>
    have pairs := zipIdx_slice base (SliceExpressibleWith.covered expressible)
    rw [← device, ← createMxCommandSg_deviceAddr accepted] at pairs
    simp only [movedPairs, read, Option.map_some]
    rw [pairs]
    rfl

/-- Only a missing page or an address of zero stands against a slice. -/
theorem exists_createMxCommandSg {revision : Revision} (opcode : Nat)
    (expressible : SliceExpressible revision entries transfer) (nonempty : 0 < transfer.size)
    (nonzero : ∀ entry ∈ entries, entry.address ≠ 0)
    (pages : ∀ listCnt, pool.alloc listCnt ≠ none) :
    ∃ built, createMxCommandSg revision pool entries transfer opcode = .ok built := by
  have outcome := createMxCommandSg_outcome pool opcode expressible fun _ => nonempty
  cases result : createMxCommandSg revision pool entries transfer opcode with
  | ok built => exact ⟨built, rfl⟩
  | error error =>
    rw [result] at outcome
    cases outcome with
    | zeroAddress mapped zero => exact (nonzero _ mapped zero).elim
    | noMemory refused => exact (pages _ refused).elim

/-- The parts of a tiling make up the whole. -/
theorem sum_tiles {α : Type} (tiles : List (List Nat)) (f : Nat → α) :
    (tiles.map fun tile => ((tile.map f : List α) : Multiset α)).sum =
      ((tiles.flatten.map f : List α) : Multiset α) := by
  induction tiles with
  | nil => rfl
  | cons tile tiles ih =>
    rw [List.map_cons, List.sum_cons, ih, List.flatten_cons, List.map_append,
      Multiset.coe_add]

end Moves

theorem exists_commands {create : SgTransfer → Except Errno (Built MxCommand)}
    {moved : SgTransfer → Multiset (Nat × UInt64)} {transfers : List SgTransfer}
    (each : ∀ transfer ∈ transfers, ∃ built, create transfer = .ok built ∧
      movedPairs built = some (moved transfer)) :
    ∃ builts, List.Forall₂ (fun transfer built => create transfer = .ok built) transfers builts ∧
      builts.mapM movedPairs = some (transfers.map moved) := by
  induction transfers with
  | nil => exact ⟨[], .nil, rfl⟩
  | cons transfer transfers ih =>
    obtain ⟨⟨built, accepted, pairs⟩, others⟩ := List.forall_mem_cons.mp each
    obtain ⟨builts, all, parts⟩ := ih others
    refine ⟨built :: builts, .cons accepted all, ?_⟩
    rw [List.mapM_cons, pairs, parts]
    rfl

namespace SplitOf

variable {context : SgContext} {base : UInt64} {transfers : List SgTransfer}
  (split : SplitOf context base transfers)

include split

theorem inside {transfer : SgTransfer} (among : transfer ∈ transfers) :
    transfer.sgByteOffset + transfer.size ≤ context.totalSize := by
  have nonempty := split.nonempty transfer among
  have last : transfer.sgByteOffset + (transfer.size - 1) ∈
      transfers.flatMap
        fun transfer => List.range' transfer.sgByteOffset transfer.size := by
    refine List.mem_flatMap.mpr ⟨transfer, among, ?_⟩
    rw [List.mem_range'_1]
    omega
  rw [split.tiles, List.mem_range] at last
  omega

/-- All slices are accepted if the whole buffer is, and together they move the same
bytes. -/
theorem moves {revision : Revision} {pool : DescPool} {id opcode : Nat}
    {single : Built MxCommand} (nonempty : 0 < context.totalSize)
    (nonzero : ∀ entry ∈ context.sgt, entry.address ≠ 0)
    (accepted : createMxCommandSg revision pool context.sgt (wholeTransfer context base id)
      opcode = .ok single) (pools : SgTransfer → DescPool)
    (pages : ∀ transfer listCnt, (pools transfer).alloc listCnt ≠ none) :
    ∃ builts parts pairs,
      List.Forall₂ (fun transfer built =>
        createMxCommandSg revision (pools transfer) context.sgt transfer opcode = .ok built)
        transfers builts ∧
      builts.mapM movedPairs = some parts ∧ movedPairs single = some pairs ∧
      parts.sum = pairs := by
  obtain ⟨whole, -⟩ := createMxCommandSg_accepted accepted
  have each : ∀ transfer ∈ transfers, ∃ built,
      createMxCommandSg revision (pools transfer) context.sgt transfer opcode = .ok built ∧
        movedPairs built = some (((List.range' transfer.sgByteOffset transfer.size).map
          (bytePair context.sgt base) : List (Nat × UInt64)) : Multiset (Nat × UInt64)) := by
    intro transfer among
    have some := split.nonempty transfer among
    have part := whole.part rfl some (split.inside among)
    obtain ⟨built, builtEq⟩ := exists_createMxCommandSg opcode part some nonzero
      (pages transfer)
    exact ⟨built, builtEq, movedPairs_eq base (split.device transfer among) part some builtEq⟩
  obtain ⟨builts, all, parts⟩ := exists_commands each
  have single := movedPairs_eq base (by simp [wholeTransfer]) whole nonempty accepted
  refine ⟨builts, _, _, all, parts, single, ?_⟩
  have tiles := sum_tiles (transfers.map fun transfer =>
    List.range' transfer.sgByteOffset transfer.size) (bytePair context.sgt base)
  rw [← List.flatMap_def, split.tiles, List.map_map, List.range_eq_range'] at tiles
  exact tiles

end SplitOf

/-- However the parameters are set, a split makes between one transfer and one for
each page, cuts the buffer at page boundaries, and moves what one command would
move. -/
theorem parallel_split_equivalent (revision : Revision) (services : SgServices)
    (userAddr totalSize : Nat) (context : SgContext)
    (created : mxSgContextCreate services userAddr totalSize = .ok context)
    (parallelCount parallelSplitRatio : UInt32) :
    let count := mxParallelCountFor revision.dmaSize parallelCount parallelSplitRatio userAddr
      totalSize
    1 ≤ count ∧ count ≤ context.pagesNr ∧
      ∀ alloc deviceAddrBase transfers,
        allocMxTransfers alloc context deviceAddrBase count.toNat = some transfers →
          transfers.length = count.toNat ∧ SplitOf context deviceAddrBase transfers ∧
          ((∀ entry ∈ context.sgt, entry.address ≠ 0) →
            ∀ pool id opcode single,
              createMxCommandSg revision pool context.sgt
                (wholeTransfer context deviceAddrBase id) opcode = .ok single →
              ∀ pools : SgTransfer → DescPool,
                (∀ transfer listCnt, (pools transfer).alloc listCnt ≠ none) →
                ∃ builts parts pairs,
                  List.Forall₂ (fun transfer built =>
                    createMxCommandSg revision (pools transfer) context.sgt transfer opcode =
                      .ok built) transfers builts ∧
                  builts.mapM movedPairs = some parts ∧ movedPairs single = some pairs ∧
                  parts.sum = pairs) := by
  intro count
  obtain ⟨mapped, rfl, rfl⟩ := mxSgContextCreate_mapped created
  obtain ⟨least, most⟩ := mxParallelCountFor_bounds mapped revision.dmaSize parallelCount
    parallelSplitRatio
  refine ⟨least, most, fun alloc deviceAddrBase transfers built => ?_⟩
  obtain ⟨length, split⟩ := allocMxTransfers_splitOf mapped (by omega) (by omega) built
  exact ⟨length, split, fun nonzero pool id opcode single accepted pools pages =>
    split.moves mapped.nonempty nonzero accepted pools pages⟩

/-- Pages are pinned wherever there are addresses, and a buffer is mapped to its own. -/
def plainServices : SgServices where
  allocContext := true
  allocPages _ := true
  pinUserPages userAddr pagesNr :=
    if (userAddr / pageSize + pagesNr) * pageSize ≤ 2 ^ 64 then .ok pagesNr else .error .efault
  allocTable _ := none
  dmaMapSg userAddr totalSize :=
    if fits : 0 < totalSize ∧ userAddr + totalSize ≤ 2 ^ 64 then
      [⟨userAddr, totalSize, fits.1, fits.2⟩]
    else []
  pinned_noWrap userAddr pagesNr _ pinned := by
    by_contra wraps
    rw [if_neg wraps] at pinned
    cases pinned

/-- Nine bytes across a page boundary are moved by two transfers. -/
theorem parallel_split_equivalent_plainServices :
    mxParallelCountFor Revision.v2.dmaSize 6 0 4091 9 = 2 ∧
      ∃ builts parts pairs,
        List.Forall₂ (fun transfer built =>
          createMxCommandSg .v2 freshPages (plainServices.dmaMapSg 4091 9) transfer 1 = .ok built)
          [⟨0, 5, 64, 0⟩, ⟨1, 4, 69, 5⟩] builts ∧
        builts.mapM movedPairs = some parts ∧
        movedPairs (.v2 ⟨1, 7, 9, 64, 4091, 4096⟩, noPages) = some pairs ∧
        parts.sum = pairs := by
  have created : mxSgContextCreate plainServices 4091 9 =
      .ok ⟨4091, 9, 2, plainServices.dmaMapSg 4091 9⟩ := rfl
  have count : mxParallelCountFor Revision.v2.dmaSize 6 0 4091 9 = 2 := rfl
  have built : allocMxTransfers ⟨true, some⟩ ⟨4091, 9, 2, plainServices.dmaMapSg 4091 9⟩ 64 2 =
      some [⟨0, 5, 64, 0⟩, ⟨1, 4, 69, 5⟩] := by decide +kernel
  have split := parallel_split_equivalent .v2 plainServices 4091 9 _ created 6 0
  rw [count] at split
  refine ⟨count, ?_⟩
  have moves := (split.2.2 ⟨true, some⟩ 64 _ built).2.2
  exact moves (by simp [plainServices]) freshPages 7 1 _ rfl (fun _ => freshPages)
    (fun _ _ => nofun)

end MxDriver
