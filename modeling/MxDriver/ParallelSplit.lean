import MxDriver.PrpCommand

/-!
# Splitting a transfer

`transfer.c` maps a user buffer once and may split it into several transfers that
share the mapping.  Addresses and sizes are 64 bits wide, so sums and differences of
them wrap.
-/

namespace MxDriver

/-- `INT_MAX`. -/
def intMax : Nat := 2 ^ 31 - 1

/-- A sum of `uintptr_t` or `size_t` values. -/
def wrapAdd (first second : Nat) : Nat := (first + second) % 2 ^ 64

/-- A difference of `uintptr_t` or `size_t` values. -/
def wrapSub (first second : Nat) : Nat := (first + (2 ^ 64 - second)) % 2 ^ 64

/-- `MX_PAGES_INLINE_NR`. -/
def pagesInlineNr : Nat := 1

/-! ## The shared mapping -/

/-- `struct mx_sg_context`. -/
structure SgContext where
  userAddr : Nat
  totalSize : Nat
  pagesNr : Nat
  sgt : List SgEntry

/-- The services of the kernel for a mapping: memory for the context, for the page
array and for the table, the pinning of user pages, and the mapping for the device.
Pages beyond the address space are not pinned. -/
structure SgServices where
  allocContext : Bool
  allocPages : Nat → Bool
  pinUserPages : Nat → Nat → Except Errno Nat
  allocTable : Nat → Ret
  dmaMapSg : Nat → Nat → List SgEntry
  pinned_noWrap : ∀ userAddr pagesNr, 0 < pagesNr →
    pinUserPages userAddr pagesNr = .ok pagesNr →
      (userAddr / pageSize + pagesNr) * pageSize ≤ 2 ^ 64

def mxSgContextCreate (services : SgServices) (userAddr totalSize : Nat) : Except Errno SgContext :=
  let offset := userAddr % pageSize
  if totalSize = 0 ∨ totalSize > intMax / 8 * pageSize - offset then .error .einval
  else
    let pagesNr := divRoundUp (offset + totalSize) pageSize
    if services.allocContext = false then .error .enomem
    else if pagesNr > pagesInlineNr ∧ services.allocPages pagesNr = false then .error .enomem
    else
      match services.pinUserPages userAddr pagesNr with
      | .error error => .error error
      | .ok pinned =>
        if pinned ≠ pagesNr then .error .efault
        else
          match if pagesNr ≤ pagesInlineNr then none else services.allocTable pagesNr with
          | some error => .error error
          | none =>
            let sgt := services.dmaMapSg userAddr totalSize
            if sgt.length = 0 then .error .eio
            else .ok ⟨userAddr, totalSize, pagesNr, sgt⟩

/-! ## The number of transfers -/

/-- A parameter that is unsigned and read as an `int`. -/
def asInt (parameter : UInt32) : Int := parameter.toBitVec.toInt

/-- `DIV_ROUND_UP` of `size_t` values. -/
def divRoundUpSize (length size : Nat) : Nat := wrapSub (wrapAdd length size) 1 / size

def mxParallelCountFor (dmaSize : Nat) (parallelCount parallelSplitRatio : UInt32)
    (buf size : Nat) : Int :=
  let firstPage := buf / pageSize
  let lastPage := wrapSub (wrapAdd buf size) 1 / pageSize
  let nrPages : Int := min (wrapAdd (wrapSub lastPage firstPage) 1) intMax
  if parallelSplitRatio = 0 then max (min nrPages (asInt parallelCount)) 1
  else
    let descsPerList := dmaSize / 8
    -- `unsigned int` arithmetic
    let descsPerSplit := descsPerList * parallelSplitRatio.toNat % 2 ^ 32 / 100
    let descsPerSplit := if descsPerSplit < 1 then 1 else descsPerSplit
    let totalDescs := divRoundUpSize size dmaSize
    let rawCount := divRoundUpSize totalDescs descsPerSplit
    let count : Int := min rawCount intMax
    let count := if count < 1 then 1 else count
    max (min (min count nrPages) (asInt parallelCount)) 1

/-! ## The transfers -/

/-- The allocations of a split: the table, and each transfer with its id. -/
structure SplitAlloc where
  table : Bool
  transferId : Nat → Option Nat

/-- The loop of `alloc_mx_transfers`, by the transfers that are left. -/
def allocSlices (alloc : SplitAlloc) (userAddr q : Nat) : Nat → Nat → Nat → Nat → Nat →
    UInt64 → Option (List SgTransfer)
  | 0, _, _, _, _, _ => some []
  | left + 1, i, r, cursor, remaining, deviceAddr =>
    let num := if r > 0 then q + 1 else q
    -- `& PAGE_MASK`
    let endAddr := wrapAdd cursor (num * pageSize) / pageSize * pageSize
    let slice := min (wrapSub endAddr cursor) remaining
    let byteOffset := wrapSub cursor userAddr
    (alloc.transferId i).bind fun id =>
      (allocSlices alloc userAddr q left (i + 1) (r - 1) (wrapAdd cursor slice)
        (remaining - slice) (deviceAddr + UInt64.ofNat slice)).map
        (⟨id, slice, deviceAddr, byteOffset⟩ :: ·)

def allocMxTransfers (alloc : SplitAlloc) (context : SgContext) (deviceAddrBase : UInt64)
    (count : Nat) : Option (List SgTransfer) :=
  if alloc.table = false then none
  else
    allocSlices alloc context.userAddr (context.pagesNr / count) count 0
      (context.pagesNr % count) context.userAddr context.totalSize deviceAddrBase

/-- The transfer of the path without a split. -/
def wholeTransfer (context : SgContext) (deviceAddrBase : UInt64) (id : Nat) : SgTransfer :=
  ⟨id, context.totalSize, deviceAddrBase, 0⟩

end MxDriver
