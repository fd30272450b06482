import MxDriver.AlignedRuns
import MxDriver.ParallelSplit
import MxDriver.PciAttach

/-!
# From the pages of a user buffer to a DMA mapping

`mx_sg_context_create` pins the pages of a user buffer, describes them by a table of runs,
and has the table mapped for the device.  The kernel's part is a record of services with
what the kernel promises of them: the table covers the buffer and, if the longest segment
is whole pages, is cut at page boundaries only; the mapping may merge neighbours, up to the
segment size of the device, and keeps the address bits that the device asked to keep.
-/

namespace MxDriver

/-- What the driver can ask of `struct device` about mappings. -/
structure DmaLimits where
  maxSegSize : Nat
  maxMappingSize : Nat
  minAlignMask : Nat

/-- `UINT_MAX`. -/
def uintMax : Nat := 2 ^ 32 - 1

/-- `ALIGN_DOWN(value, PAGE_SIZE)`. -/
def alignDownPage (value : Nat) : Nat := value / pageSize * pageSize

def mxMaxSgSegment (limits : DmaLimits) : Nat :=
  let limit :=
    if limits.maxMappingSize ≠ 0 then min limits.maxSegSize limits.maxMappingSize
    else limits.maxSegSize
  let limit := alignDownPage (min limit uintMax)
  if limit = 0 then pageSize else limit

/-- The helper of the kernel that makes the table: newer kernels take a longest segment,
older ones have their own. -/
inductive TableHelper
  | segmentCapped
  | uncapped
  deriving DecidableEq, Repr

/-- The longest segment that `mx_sg_alloc_table` asks for; the older helper goes up to
`SCATTERLIST_MAX_SEGMENT`. -/
def TableHelper.maxSegment (maxSeg : Nat) : TableHelper → Nat
  | segmentCapped => maxSeg
  | uncapped => alignDownPage uintMax

/-- The bytes of a buffer in its pages, as physical addresses. -/
def userBytes (pages : List Nat) (offset size : Nat) : List Nat :=
  ((pages.flatMap fun page => List.range' (page * pageSize) pageSize).drop offset).take size

/-- An entry of the mapping as a run. -/
def SgEntry.run (entry : SgEntry) : AddressRun := ⟨entry.address, entry.length⟩

/-- Two addresses agree in the bits of a mask. -/
def SameUnder (mask address other : Nat) : Prop := address &&& mask = other &&& mask

/-- The kernel during one call of `mx_sg_context_create`.  Pages are given by their frame
numbers, and `translate` is the physical byte behind a byte of the mapping. -/
structure BufferServices where
  allocContext : Bool
  allocPages : Nat → Bool
  pinUserPages : Nat → Nat → Except Errno (List Nat)
  allocTable : List Nat → Nat → Nat → Nat → Except Errno (List AddressRun)
  dmaMapSg : DmaLimits → List AddressRun → List SgEntry
  translate : Nat → Nat
  pinned_noWrap : ∀ userAddr pagesNr pages, 0 < pagesNr →
    pinUserPages userAddr pagesNr = .ok pages → pages.length = pagesNr →
      (userAddr / pageSize + pagesNr) * pageSize ≤ 2 ^ 64
  table_bytes : ∀ pages offset size maxSegment table,
    allocTable pages offset size maxSegment = .ok table →
      offset + size ≤ pages.length * pageSize →
        AddressRun.bytes table = userBytes pages offset size
  table_meet : ∀ pages offset size maxSegment table,
    allocTable pages offset size maxSegment = .ok table →
      0 < maxSegment → pageSize ∣ maxSegment → table.IsChain (AddressRun.Meet pageSize)
  table_capped : ∀ pages offset size maxSegment table,
    allocTable pages offset size maxSegment = .ok table →
      0 < maxSegment → pageSize ∣ maxSegment → ∀ run ∈ table, run.length ≤ maxSegment
  mapped_stands : ∀ limits table, dmaMapSg limits table ≠ [] →
    AddressRun.Stands (SameUnder limits.minAlignMask) limits.maxSegSize table
      ((dmaMapSg limits table).map SgEntry.run)
  mapped_bytes : ∀ limits table, dmaMapSg limits table ≠ [] →
    (sgBytes (dmaMapSg limits table)).map translate = AddressRun.bytes table

namespace BufferServices

variable (services : BufferServices) (helper : TableHelper) (limits : DmaLimits)

/-- The table of a buffer: a buffer within one page gets an entry made by hand. -/
def sgTable (userAddr totalSize : Nat) : Except Errno (List AddressRun) :=
  let offset := userAddr % pageSize
  let pagesNr := divRoundUp (offset + totalSize) pageSize
  match services.pinUserPages userAddr pagesNr with
  | .error error => .error error
  | .ok pages =>
    if pagesNr ≤ pagesInlineNr then .ok [⟨pages.headD 0 * pageSize + offset, totalSize⟩]
    else
      services.allocTable pages offset totalSize (helper.maxSegment (mxMaxSgSegment limits))

/-- The services as far as the splitting of a transfer looks at them. -/
def sgServices (userAddr totalSize : Nat) : SgServices where
  allocContext := services.allocContext
  allocPages := services.allocPages
  pinUserPages address pagesNr := (services.pinUserPages address pagesNr).map List.length
  allocTable _ :=
    match services.sgTable helper limits userAddr totalSize with
    | .error error => some error
    | .ok _ => none
  dmaMapSg _ _ :=
    match services.sgTable helper limits userAddr totalSize with
    | .error _ => []
    | .ok table => services.dmaMapSg limits table
  pinned_noWrap address pagesNr some pinned := by
    cases pages : services.pinUserPages address pagesNr with
    | error error =>
      rw [pages] at pinned
      cases pinned
    | ok frames =>
      rw [pages] at pinned
      exact services.pinned_noWrap address pagesNr frames some pages
        (Except.ok.inj pinned)

end BufferServices

/-- The transfers of a buffer: one alone is made without the loop of a split. -/
def submitTransfers (alloc : SplitAlloc) (context : SgContext) (deviceAddrBase : UInt64)
    (count : Nat) : Option (List SgTransfer) :=
  if count = 1 then (alloc.transferId 0).map fun id => [wholeTransfer context deviceAddrBase id]
  else allocMxTransfers alloc context deviceAddrBase count

/-- The limits of a device whose settings are those of the PCI function. -/
def PciAttach.dmaLimits (state : PciAttach) (maxMappingSize : Nat) : DmaLimits where
  maxSegSize := state.pci.current .maxSegSize
  maxMappingSize := maxMappingSize
  minAlignMask := state.pci.current .minAlignMask

end MxDriver
