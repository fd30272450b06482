import MxDriver.AlignedChunks
import MxDriver.ErrorNumbers
import MxDriver.LinkedPages

/-!
# Descriptors for a slice of a DMA mapping

`core_common.c` turns a slice of a scatter-gather mapping into descriptors that
carry addresses and no lengths.  It first counts them, refusing a slice that such
descriptors cannot express, and then writes them into linked pages.

A scatterlist pointer is an entry together with the entries after it, and
`sg_next` takes the next one off that list.  Sizes and addresses are natural
numbers; an entry carries the proof that its end does not wrap.
-/

namespace MxDriver

/-- An entry of a mapped scatter-gather list. -/
structure SgEntry where
  address : Nat
  length : Nat
  nonempty : 0 < length
  noWrap : address + length ≤ 2 ^ 64

/-- The bytes of a mapping, as the addresses that the device uses for them. -/
def sgBytes (entries : List SgEntry) : List Nat :=
  entries.flatMap fun entry => List.range' entry.address entry.length

/-- The loop of `mx_get_list_count`; every round takes at least one descriptor off
the total if a list has more than one slot. -/
def listCountFrom (descsPerList : Nat) : Nat → Nat → Nat → Nat
  | 0, _, listCnt => listCnt
  | rounds + 1, totalDescCnt, listCnt =>
    if totalDescCnt > descsPerList then
      listCountFrom descsPerList rounds (totalDescCnt - (descsPerList - 1)) (listCnt + 1)
    else listCnt

def mxGetListCount (totalDescCnt descsPerList : Nat) : Nat :=
  listCountFrom descsPerList totalDescCnt totalDescCnt 1

/-- The loop of `mx_sg_locate`, with the bytes passed so far. -/
def sgLocateFrom (byteOffset : Nat) : Nat → List SgEntry →
    Except Errno (SgEntry × List SgEntry × Nat)
  | _, [] => .error .einval
  | acc, entry :: entries =>
    if acc + entry.length > byteOffset then .ok (entry, entries, byteOffset - acc)
    else sgLocateFrom byteOffset (acc + entry.length) entries

/-- The entry that holds a byte, the entries after it, and the offset into it. -/
def mxSgLocate (entries : List SgEntry) (byteOffset : Nat) :
    Except Errno (SgEntry × List SgEntry × Nat) :=
  sgLocateFrom byteOffset 0 entries

def prpChunkLenAt (dmaAddr dmaSize : Nat) : Nat :=
  let rem := dmaAddr &&& (dmaSize - 1)
  if rem ≠ 0 then dmaSize - rem else dmaSize

def mxPrpFirstChunkLen (entry : SgEntry) (intraOff dmaSize : Nat) : Nat :=
  min (prpChunkLenAt (entry.address + intraOff) dmaSize) (entry.length - intraOff)

/-- The loop of `mx_get_total_desc_count`. -/
def countDescs (dmaSize : Nat) : SgEntry → List SgEntry → Nat → Nat → Nat → Except Errno Nat
  | entry, rest, intraOff, remaining, total =>
    let consumed := min (entry.length - intraOff) remaining
    let firstLen := min (mxPrpFirstChunkLen entry intraOff dmaSize) consumed
    let total :=
      total + 1 + if consumed > firstLen then divRoundUp (consumed - firstLen) dmaSize else 0
    let remaining := remaining - consumed
    if remaining = 0 then .ok total
    else if (entry.address + intraOff + consumed) &&& (dmaSize - 1) ≠ 0 then .error .einval
    else
      match rest with
      | [] => .error .einval
      | next :: rest =>
        if next.address &&& (dmaSize - 1) ≠ 0 then .error .einval
        else countDescs dmaSize next rest 0 remaining total

def mxGetTotalDescCount (entry : SgEntry) (rest : List SgEntry)
    (intraOff byteSize dmaSize : Nat) : Except Errno Nat :=
  if byteSize = 0 then .error .einval
  else countDescs dmaSize entry rest intraOff byteSize 0

/-! ## Writing the descriptors -/

/-- Where the walk of `mx_desc_list_init` stands: what is left of the current entry,
the entries after it, and the length of the next descriptor. -/
structure DescCursor where
  rest : List SgEntry
  dmaAddr : Nat
  entryAvail : Nat
  remaining : Nat
  len : Nat

namespace DescCursor

/-- `dma_addr += len; entry_avail -= len; remaining -= len`. -/
def consume (cursor : DescCursor) : DescCursor :=
  { cursor with
    dmaAddr := cursor.dmaAddr + cursor.len
    entryAvail := cursor.entryAvail - cursor.len
    remaining := cursor.remaining - cursor.len }

/-- Go on to the next entry when this one is used up. -/
def nextEntry (cursor : DescCursor) : Except Errno DescCursor :=
  if cursor.entryAvail = 0 then
    match cursor.rest with
    | [] => .error .einval
    | entry :: rest =>
      .ok { cursor with rest := rest, dmaAddr := entry.address, entryAvail := entry.length }
  else .ok cursor

/-- Past the first descriptor every one starts on a boundary. -/
def align (dmaSize : Nat) (cursor : DescCursor) : Except Errno DescCursor :=
  if cursor.dmaAddr &&& (dmaSize - 1) ≠ 0 then .error .einval
  else
    .ok { cursor with len := min (min dmaSize cursor.entryAvail) cursor.remaining }

/-- The walk before its first descriptor. -/
def start (entry : SgEntry) (rest : List SgEntry) (intraOff size dmaSize : Nat) : DescCursor where
  rest := rest
  dmaAddr := entry.address + intraOff
  entryAvail := entry.length - intraOff
  remaining := size
  len := min (min (mxPrpFirstChunkLen entry intraOff dmaSize) (entry.length - intraOff)) size

/-- `skip_first_entry`: the first descriptor stands in the command. -/
def skipFirst (dmaSize : Nat) (cursor : DescCursor) : Except Errno DescCursor :=
  let cursor := cursor.consume
  (if cursor.remaining > 0 then cursor.nextEntry else .ok cursor).bind (align dmaSize)

end DescCursor

/-- The bus addresses of the pages that `desc_list_alloc` gets, if it gets them all:
a page is not handed out twice. -/
structure DescPool where
  alloc : Nat → Option (List Nat)
  count : ∀ listCnt pages, alloc listCnt = some pages → pages.length = listCnt
  distinct : ∀ listCnt pages, alloc listCnt = some pages → pages.Nodup

/-- The slot for the next descriptor: a full page links to the next one. -/
def nextSlot (descsPerList totalDescCnt page : Nat) (pages : List Nat) (descIdx : Nat)
    (memory : LinkedPages.Memory Nat) :
    Except Errno (Nat × List Nat × Nat × LinkedPages.Memory Nat) :=
  if descIdx = descsPerList - 1 ∧ totalDescCnt > 1 then
    match pages with
    | [] => .error .einval
    | next :: pages => .ok (next, pages, 0, memory.write page descIdx next)
  else .ok (page, pages, descIdx, memory)

/-- The loop of `mx_desc_list_init`, by the descriptors that are left to write. -/
def emitDescs (dmaSize descsPerList : Nat) : Nat → DescCursor → Nat → List Nat → Nat →
    LinkedPages.Memory Nat → Except Errno (LinkedPages.Memory Nat)
  | 0, cursor, _, _, _, memory =>
    if cursor.remaining = 0 then .ok memory else .error .einval
  | left + 1, cursor, page, pages, descIdx, memory =>
    if cursor.remaining = 0 then .ok memory
    else
      match nextSlot descsPerList (left + 1) page pages descIdx memory with
      | .error error => .error error
      | .ok (page, pages, descIdx, memory) =>
        if descIdx ≥ descsPerList then .error .einval
        else
          let memory := memory.write page descIdx cursor.dmaAddr
          if cursor.consume.remaining = 0 then .ok memory
          else
            match cursor.consume.nextEntry.bind (DescCursor.align dmaSize) with
            | .error error => .error error
            | .ok cursor =>
              emitDescs dmaSize descsPerList left cursor page pages (descIdx + 1) memory

/-- The bus address of the first page, and what was written. -/
def mxDescListInit (pool : DescPool) (entries : List SgEntry)
    (byteOffset size dmaSize descsPerList : Nat) (skipFirstEntry : Bool) (descCnt : Nat) :
    Except Errno (Nat × LinkedPages.Memory Nat) :=
  match mxSgLocate entries byteOffset with
  | .error error => .error error
  | .ok (entry, rest, intraOff) =>
    if descCnt = 0 then .error .einval
    else
      match pool.alloc (mxGetListCount descCnt descsPerList) with
      | none | some [] => .error .enomem
      | some (page :: pages) =>
        let cursor := DescCursor.start entry rest intraOff size dmaSize
        match if skipFirstEntry then cursor.skipFirst dmaSize else .ok cursor with
        | .error error => .error error
        | .ok cursor =>
          (emitDescs dmaSize descsPerList descCnt cursor page pages 0
            fun _ _ => none).map fun memory => (page, memory)

end MxDriver
