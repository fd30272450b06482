import MxDriver.ParallelSplit

/-!
# The slices of a split

The number of transfers lies between one and the number of pinned pages, and the
transfers cut the buffer into slices that are not empty, follow each other and meet
at page boundaries.
-/

namespace MxDriver

/-! ## The buffer of a mapping -/

/-- What holds of a buffer that was mapped. -/
structure MappedBuffer (context : SgContext) : Prop where
  nonempty : 0 < context.totalSize
  pages : context.pagesNr = divRoundUp (context.userAddr % pageSize + context.totalSize) pageSize
  bound : context.pagesNr ≤ intMax / 8
  noWrap : (context.userAddr / pageSize + context.pagesNr) * pageSize ≤ 2 ^ 64

/-- A context is made only if the size is in bounds, all pages were pinned and something was
mapped. -/
theorem mxSgContextCreate_eq_ok {services : SgServices} {userAddr totalSize : Nat}
    {context : SgContext} (created : mxSgContextCreate services userAddr totalSize = .ok context) :
    (0 < totalSize ∧ totalSize ≤ intMax / 8 * pageSize - userAddr % pageSize) ∧
      services.pinUserPages userAddr context.pagesNr = .ok context.pagesNr ∧
      services.dmaMapSg userAddr totalSize ≠ [] ∧
      context = ⟨userAddr, totalSize, divRoundUp (userAddr % pageSize + totalSize) pageSize,
        services.dmaMapSg userAddr totalSize⟩ := by
  unfold mxSgContextCreate at created
  dsimp only at created
  split at created
  · cases created
  rename_i accepted
  split at created
  · cases created
  split at created
  · cases created
  split at created
  · cases created
  rename_i pinned pinnedEq
  split at created
  · cases created
  rename_i all
  rw [not_ne_iff] at all
  subst all
  split at created
  · cases created
  split at created
  · cases created
  rename_i mapped
  cases created
  exact ⟨by omega, pinnedEq, mt List.length_eq_zero_iff.mpr mapped, rfl⟩

theorem mxSgContextCreate_mapped {services : SgServices} {userAddr totalSize : Nat}
    {context : SgContext} (created : mxSgContextCreate services userAddr totalSize = .ok context) :
    MappedBuffer context ∧ context.userAddr = userAddr ∧ context.totalSize = totalSize := by
  obtain ⟨⟨nonempty, accepted⟩, pinned, -, rfl⟩ := mxSgContextCreate_eq_ok created
  have pagesBound : divRoundUp (userAddr % pageSize + totalSize) pageSize ≤ intMax / 8 := by
    simp only [divRoundUp, pageSize, intMax] at accepted ⊢
    omega
  have pagesPos : 0 < divRoundUp (userAddr % pageSize + totalSize) pageSize :=
    divRoundUp_pos (by decide) (by omega)
  exact ⟨⟨nonempty, rfl, pagesBound, services.pinned_noWrap _ _ pagesPos pinned⟩, rfl, rfl⟩

namespace MappedBuffer

variable {context : SgContext} (mapped : MappedBuffer context)

include mapped

theorem last_page :
    context.userAddr + context.totalSize ≤
        (context.userAddr / pageSize + context.pagesNr) * pageSize ∧
      (context.userAddr / pageSize + context.pagesNr) * pageSize <
        context.userAddr + context.totalSize + pageSize := by
  have pages := mapped.pages
  have nonempty := mapped.nonempty
  simp only [divRoundUp, pageSize] at pages ⊢
  omega

theorem covered : context.userAddr % pageSize + context.totalSize ≤ context.pagesNr * pageSize := by
  rw [mapped.pages, divRoundUp, pageSize]
  omega

theorem pagesNr_pos : 0 < context.pagesNr := by
  rw [mapped.pages]
  have nonempty := mapped.nonempty
  exact divRoundUp_pos (by decide) (by omega)

/-- The pages that are touched are the pages that were pinned. -/
theorem touched_pages :
    wrapAdd (wrapSub (wrapSub (wrapAdd context.userAddr context.totalSize) 1 / pageSize)
      (context.userAddr / pageSize)) 1 = context.pagesNr := by
  have pages := mapped.pages
  have bound := mapped.bound
  have noWrap := mapped.noWrap
  have nonempty := mapped.nonempty
  simp only [divRoundUp, pageSize, intMax] at pages bound noWrap ⊢
  simp only [wrapAdd, wrapSub]
  omega

end MappedBuffer

/-- Any split takes at least one transfer and at most one for each page. -/
theorem mxParallelCountFor_bounds {context : SgContext} (mapped : MappedBuffer context)
    (dmaSize : Nat) (parallelCount parallelSplitRatio : UInt32) :
    1 ≤ mxParallelCountFor dmaSize parallelCount parallelSplitRatio context.userAddr
        context.totalSize ∧
      mxParallelCountFor dmaSize parallelCount parallelSplitRatio context.userAddr
        context.totalSize ≤ context.pagesNr := by
  have positive := mapped.pagesNr_pos
  have bound := mapped.bound
  have nrPages : (min (context.pagesNr : Int) intMax) = context.pagesNr := by
    simp only [intMax] at bound ⊢
    omega
  unfold mxParallelCountFor
  simp only [mapped.touched_pages, nrPages]
  split <;> omega

/-! ## The loop -/

/-- The end of a slice, as far as it is aligned, does not wrap visibly. -/
theorem slice_length {cursor num : Nat} (below : cursor < 2 ^ 64)
    (noWrap : (cursor / pageSize + num) * pageSize ≤ 2 ^ 64) (short : num * pageSize < 2 ^ 64)
    (some : 0 < num) :
    wrapSub (wrapAdd cursor (num * pageSize) / pageSize * pageSize) cursor =
      (cursor / pageSize + num) * pageSize - cursor := by
  simp only [wrapAdd, wrapSub, pageSize] at noWrap short ⊢
  omega

/-- Where the loop stands: it has handed out the pages before `cursor`. -/
structure SplitCursor (context : SgContext) (q left r cursor remaining : Nat) : Prop where
  quotient : 0 < q
  remainder : r ≤ left
  start : context.userAddr ≤ cursor
  ends : cursor + remaining = context.userAddr + context.totalSize
  pages : cursor / pageSize + (left * q + r) = context.userAddr / pageSize + context.pagesNr
  aligned : cursor = context.userAddr ∨ pageSize ∣ cursor

/-- The transfers of a split. -/
structure SplitOf (context : SgContext) (deviceAddrBase : UInt64) (transfers : List SgTransfer) :
    Prop where
  nonempty : ∀ transfer ∈ transfers, 0 < transfer.size
  tiles : transfers.flatMap (fun transfer => List.range' transfer.sgByteOffset transfer.size) =
    List.range context.totalSize
  device : ∀ transfer ∈ transfers,
    transfer.deviceAddr = deviceAddrBase + UInt64.ofNat transfer.sgByteOffset
  aligned : ∀ transfer ∈ transfers, transfer.sgByteOffset ≠ 0 →
    pageSize ∣ context.userAddr + transfer.sgByteOffset

namespace SplitCursor

variable {context : SgContext} {q left r cursor remaining : Nat}

/-- The page after the next slice. -/
def nextPage (q r cursor : Nat) : Nat := cursor / pageSize + if r > 0 then q + 1 else q

theorem nextPage_add (split : SplitCursor context q (left + 1) r cursor remaining) :
    nextPage q r cursor + (left * q + (r - 1)) = context.userAddr / pageSize + context.pagesNr := by
  have pages := split.pages
  rw [Nat.succ_mul] at pages
  unfold nextPage
  split <;> omega

/-- As long as there is a slice to come, there are bytes to come. -/
theorem pending (mapped : MappedBuffer context)
    (split : SplitCursor context q (left + 1) r cursor remaining) :
    0 < remaining ∧ cursor < 2 ^ 64 := by
  have pages := split.pages
  have quotient := split.quotient
  have noWrap := mapped.noWrap
  have ends := split.ends
  have nonempty := mapped.nonempty
  obtain ⟨covered, last⟩ := mapped.last_page
  rw [Nat.succ_mul] at pages
  simp only [pageSize] at pages covered last noWrap
  rcases split.aligned with rfl | aligned
  · omega
  · simp only [pageSize] at aligned
    omega

/-- The next slice ends with its last page, or with the buffer. -/
theorem slice_eq (mapped : MappedBuffer context)
    (split : SplitCursor context q (left + 1) r cursor remaining) :
    min (wrapSub (wrapAdd cursor ((if r > 0 then q + 1 else q) * pageSize) / pageSize *
        pageSize) cursor) remaining =
      if left = 0 then remaining else nextPage q r cursor * pageSize - cursor := by
  have pages := split.nextPage_add
  have quotient := split.quotient
  have remainder := split.remainder
  have noWrap := mapped.noWrap
  have bound := mapped.bound
  have start := split.start
  have ends := split.ends
  obtain ⟨covered, last⟩ := mapped.last_page
  obtain ⟨some, below⟩ := split.pending mapped
  have before : nextPage q r cursor ≤ context.userAddr / pageSize + context.pagesNr := by omega
  rw [slice_length below]
  · have page : cursor / pageSize + (if r > 0 then q + 1 else q) = nextPage q r cursor := rfl
    rw [page]
    split
    · rename_i final
      subst final
      have page : nextPage q r cursor = context.userAddr / pageSize + context.pagesNr := by
        omega
      rw [page]
      omega
    · rename_i more
      have several := Nat.mul_pos (Nat.pos_of_ne_zero more) quotient
      have before : nextPage q r cursor + 1 ≤
          context.userAddr / pageSize + context.pagesNr := by omega
      have scaled := Nat.mul_le_mul_right pageSize before
      rw [Nat.succ_mul] at scaled
      omega
  · exact (Nat.mul_le_mul_right pageSize before).trans noWrap
  · have startPage := Nat.div_le_div_right (c := pageSize) start
    have num : (if r > 0 then q + 1 else q) ≤ context.pagesNr := by
      unfold nextPage at before
      omega
    simp only [intMax, pageSize] at bound ⊢
    omega
  · split <;> omega

/-- The loop goes on at the page after a slice. -/
theorem next (mapped : MappedBuffer context)
    (split : SplitCursor context q (left + 1) r cursor remaining) (more : left ≠ 0) :
    ∃ slice, nextPage q r cursor * pageSize - cursor = slice ∧ 0 < slice ∧ slice ≤ remaining ∧
      wrapAdd cursor slice = cursor + slice ∧
      SplitCursor context q left (r - 1) (cursor + slice) (remaining - slice) := by
  have pages := split.nextPage_add
  have quotient := split.quotient
  have start := split.start
  have ends := split.ends
  have remainder := split.remainder
  have several := Nat.mul_pos (Nat.pos_of_ne_zero more) quotient
  have after : cursor < nextPage q r cursor * pageSize := by
    have page : cursor / pageSize + 1 ≤ nextPage q r cursor := by
      unfold nextPage
      split <;> omega
    simp only [pageSize] at page ⊢
    omega
  have before : nextPage q r cursor * pageSize < context.userAddr + context.totalSize := by
    have last := mapped.last_page.2
    have page : nextPage q r cursor + 1 ≤
        context.userAddr / pageSize + context.pagesNr := by omega
    have scaled := Nat.mul_le_mul_right pageSize page
    rw [Nat.succ_mul] at scaled
    omega
  have reached : cursor + (nextPage q r cursor * pageSize - cursor) =
      nextPage q r cursor * pageSize := by omega
  have noWrap : context.userAddr + context.totalSize ≤ 2 ^ 64 :=
    mapped.last_page.1.trans mapped.noWrap
  refine ⟨_, rfl, by omega, by omega, ?_, quotient, by omega, by omega, by omega, ?_, ?_⟩
  · rw [wrapAdd, reached, Nat.mod_eq_of_lt (by omega)]
  · rw [reached, Nat.mul_div_cancel _ (by decide), pages]
  · rw [reached]
    exact .inr (Nat.dvd_mul_left ..)

end SplitCursor

theorem wrapSub_of_le {first second : Nat} (below : first < 2 ^ 64) (le : second ≤ first) :
    wrapSub first second = first - second := by
  unfold wrapSub
  omega

/-- From any round on, the transfers cut what remains. -/
theorem allocSlices_spec {alloc : SplitAlloc} {context : SgContext} {base : UInt64}
    {q left i r cursor remaining : Nat} {transfers : List SgTransfer}
    (mapped : MappedBuffer context) (split : SplitCursor context q left r cursor remaining)
    (pendingSlices : 0 < left)
    (built : allocSlices alloc context.userAddr q left i r cursor remaining
      (base + UInt64.ofNat (cursor - context.userAddr)) = some transfers) :
    transfers.length = left ∧
      (∀ transfer ∈ transfers, 0 < transfer.size ∧
        transfer.deviceAddr = base + UInt64.ofNat transfer.sgByteOffset ∧
        (transfer.sgByteOffset ≠ 0 → pageSize ∣ context.userAddr + transfer.sgByteOffset)) ∧
      transfers.flatMap
          (fun transfer => List.range' transfer.sgByteOffset transfer.size) =
        List.range' (cursor - context.userAddr) remaining := by
  induction left generalizing i r cursor remaining transfers with
  | zero => omega
  | succ left ih =>
    obtain ⟨pending, below⟩ := split.pending mapped
    have offset := wrapSub_of_le below split.start
    have here : ∀ size, 0 < size → 0 < size ∧
        base + UInt64.ofNat (cursor - context.userAddr) =
          base + UInt64.ofNat (cursor - context.userAddr) ∧
        (cursor - context.userAddr ≠ 0 →
          pageSize ∣ context.userAddr + (cursor - context.userAddr)) := by
      intro size positive
      refine ⟨positive, rfl, fun inner => ?_⟩
      rw [Nat.add_sub_cancel' split.start]
      exact split.aligned.resolve_left (by omega)
    rw [allocSlices] at built
    simp only [split.slice_eq mapped, offset, Option.bind_eq_some_iff,
      Option.map_eq_some_iff] at built
    obtain ⟨id, -, rest, built, rfl⟩ := built
    by_cases final : left = 0
    · subst final
      simp only [allocSlices, Option.some.injEq] at built
      subst built
      simpa using here remaining pending
    · obtain ⟨slice, sliceEq, positive, within, stays, next⟩ := split.next mapped final
      have start := split.start
      have offsetNext : cursor + slice - context.userAddr =
          cursor - context.userAddr + slice := by omega
      have device : base + UInt64.ofNat (cursor - context.userAddr) + UInt64.ofNat slice =
          base + UInt64.ofNat (cursor + slice - context.userAddr) := by
        rw [UInt64.add_assoc, ← UInt64.ofNat_add, offsetNext]
      rw [if_neg final, sliceEq, stays, device] at built
      obtain ⟨count, each, tiles⟩ := ih next (Nat.pos_of_ne_zero final) built
      rw [if_neg final, sliceEq]
      refine ⟨by rw [List.length_cons, count], List.forall_mem_cons.mpr
        ⟨here slice positive, each⟩, ?_⟩
      rw [List.flatMap_cons, tiles, offsetNext, List.range'_append_1,
        Nat.add_sub_cancel' within]

theorem SplitOf.sum_size {context : SgContext} {base : UInt64} {transfers : List SgTransfer}
    (split : SplitOf context base transfers) :
    (transfers.map SgTransfer.size).sum = context.totalSize := by
  have length := congrArg List.length split.tiles
  simpa only [List.length_flatMap, List.length_range', List.length_range] using length

theorem allocSlices_isSome {alloc : SplitAlloc} (granted : ∀ i, (alloc.transferId i).isSome)
    {userAddr q left i r cursor remaining : Nat} {deviceAddr : UInt64} :
    (allocSlices alloc userAddr q left i r cursor remaining deviceAddr).isSome := by
  induction left generalizing i r cursor remaining deviceAddr with
  | zero => rfl
  | succ left ih =>
    obtain ⟨id, given⟩ := Option.isSome_iff_exists.mp (granted i)
    simpa only [allocSlices, given, Option.bind_some, Option.isSome_map] using ih

/-- The transfers cut the whole buffer. -/
theorem allocMxTransfers_splitOf {alloc : SplitAlloc} {context : SgContext} {base : UInt64}
    {count : Nat} {transfers : List SgTransfer} (mapped : MappedBuffer context) (some : 0 < count)
    (most : count ≤ context.pagesNr)
    (built : allocMxTransfers alloc context base count = .some transfers) :
    transfers.length = count ∧ SplitOf context base transfers := by
  unfold allocMxTransfers at built
  split at built
  · cases built
  have split : SplitCursor context (context.pagesNr / count) count (context.pagesNr % count)
      context.userAddr context.totalSize :=
    ⟨Nat.div_pos most some, Nat.le_of_lt (Nat.mod_lt _ some), Nat.le_refl _, rfl,
      by rw [Nat.div_add_mod], .inl rfl⟩
  have baseEq : base = base + UInt64.ofNat (context.userAddr - context.userAddr) := by simp
  rw [baseEq] at built
  obtain ⟨length, each, tiles⟩ := allocSlices_spec mapped split some built
  rw [Nat.sub_self, ← List.range_eq_range'] at tiles
  exact ⟨length, fun transfer among => (each transfer among).1, tiles,
    fun transfer among => (each transfer among).2.1,
    fun transfer among => (each transfer among).2.2⟩

end MxDriver
