import MxDriver.BufferMapping

/-!
# The limits under which buffers are mapped

Descriptors without lengths need mappings that are cut at page boundaries.  The driver sees
to it in two places: it asks for tables whose longest segment is whole pages, and when it
makes a device it has the DMA layer keep the offset of an address within its page.  What
comes after that in the making of a device leaves these settings alone.
-/

namespace MxDriver

theorem pageSize_dvd_alignDownPage (value : Nat) : pageSize ∣ alignDownPage value :=
  Nat.dvd_mul_left pageSize (value / pageSize)

theorem alignDownPage_le (value : Nat) : alignDownPage value ≤ value :=
  Nat.div_mul_le_self value pageSize

/-- The longest segment is whole pages, at least one, and no longer than the device's limit
unless that is less than a page. -/
theorem mxMaxSgSegment_spec (limits : DmaLimits) :
    0 < mxMaxSgSegment limits ∧ pageSize ∣ mxMaxSgSegment limits ∧
      mxMaxSgSegment limits ≤ max limits.maxSegSize pageSize := by
  unfold mxMaxSgSegment
  dsimp only
  split_ifs with mapping none none
  all_goals first
    | exact ⟨by decide, Nat.dvd_refl _, Nat.le_max_right ..⟩
    | refine ⟨Nat.pos_of_ne_zero none, pageSize_dvd_alignDownPage _, ?_⟩
      have down := alignDownPage_le (min (min limits.maxSegSize limits.maxMappingSize) uintMax)
      have downOnly := alignDownPage_le (min limits.maxSegSize uintMax)
      omega

/-- The settings under which a mapping can be described by descriptors. -/
structure DmaLimits.Suitable (limits : DmaLimits) : Prop where
  keepsOffset : limits.minAlignMask &&& (pageSize - 1) = pageSize - 1
  segments : limits.maxSegSize ≤ sz1G

theorem DmaLimits.Suitable.placed {limits : DmaLimits} (suitable : limits.Suitable)
    {address other : Nat} (same : SameUnder limits.minAlignMask address other) :
    address % pageSize = other % pageSize := by
  have masked (value : Nat) :
      value % pageSize = value &&& limits.minAlignMask &&& (pageSize - 1) := by
    rw [Nat.and_assoc, suitable.keepsOffset, pageSize, Nat.and_two_pow_sub_one_eq_mod]
  rw [masked, masked, same]

namespace PciAttach

open Fallible

variable {build : DriverBuild} {revision : Revision} {answers : PciAnswers} {state : PciAttach}

/-- The settings that the descriptors need are in force. -/
def Addressed (state : PciAttach) : Prop :=
  state.pci.current .minAlignMask &&& (pageSize - 1) = pageSize - 1 ∧
    state.pci.current .maxSegSize ≤ sz1G

theorem limitSegments_limited :
    Ends (fun _ left => left.pci.current .maxSegSize ≤ sz1G) (fun _ => True)
      (limitSegments answers state) := by
  refine ends_read ?_
  split_ifs with small
  · exact small
  · exact ends_check trivial fun _ => by simp [Ends, update, PciAttach.put, SavedSettings.put]

theorem alignMask_addressed (limited : state.pci.current .maxSegSize ≤ sz1G) :
    state.alignMask.Addressed := by
  have absorbed (mask : Nat) : (mask ||| (pageSize - 1)) &&& (pageSize - 1) = pageSize - 1 := by
    apply Nat.eq_of_testBit_eq
    intro bit
    simp only [Nat.testBit_and, Nat.testBit_or]
    cases mask.testBit bit <;> cases (pageSize - 1).testBit bit <;> rfl
  rw [PciAttach.alignMask]
  split_ifs with already
  · exact ⟨already ▸ absorbed _, limited⟩
  · refine ⟨?_, ?_⟩
    · simp only [PciAttach.put, SavedSettings.put, Function.update_self]
      exact absorbed _
    · simpa [PciAttach.put, SavedSettings.put] using limited

theorem setDmaAddressing_addressed :
    Ends (fun _ => Addressed) (fun _ => True) (setDmaAddressing build answers state) := by
  cases build with
  | overlay =>
    refine ends_read (ends_refuse (fun _ => trivial) fun _ => ?_)
    cases selectDmaMask answers with
    | none => exact trivial
    | some mask =>
      refine ends_update (ends_refuse (fun _ => trivial) fun _ => ends_update ?_)
      exact ends_bind limitSegments_limited fun _ _ limited => alignMask_addressed limited
  | standalone =>
    simp only [setDmaAddressing]
    cases selectDmaMask answers with
    | none => exact trivial
    | some mask =>
      refine ends_update (ends_refuse (fun _ => trivial) fun _ => ends_update ?_)
      refine ends_update ⟨?_, ?_⟩ <;>
        simp [PciAttach.force, SavedSettings.force]

/-- A program that leaves the settings of the PCI function alone. -/
structure KeepsSettings (program : PciProgram) : Prop where
  ends : ∀ state, Ends (fun _ left => left.pci = state.pci) (fun left => left.pci = state.pci)
    (program state)

namespace KeepsSettings

theorem bind {first : PciProgram} {second : Unit → PciProgram} (keeps : KeepsSettings first)
    (later : KeepsSettings (second ())) : KeepsSettings (first >>= second) where
  ends state := ends_bind (keeps.ends state) fun _ middle same =>
    (later.ends middle).mono (fun _ _ kept => kept.trans same) fun _ kept => kept.trans same

theorem onFailure {program : PciProgram} {cleanUp : PciAttach → PciAttach}
    (keeps : KeepsSettings program) (cleans : ∀ state, (cleanUp state).pci = state.pci) :
    KeepsSettings (program.onFailure cleanUp) where
  ends state := ends_onFailure (keeps.ends state) fun left same => (cleans left).trans same

theorem update {change : PciAttach → PciAttach} (keeps : ∀ state, (change state).pci = state.pci) :
    KeepsSettings (Fallible.update change) where
  ends := keeps

theorem refuse (condition : Prop) [Decidable condition] (error : Errno) :
    KeepsSettings (Fallible.refuse condition error) where
  ends _ := ends_lastRefuse (fun _ => rfl) fun _ => rfl

theorem check (ret : Ret) : KeepsSettings (Fallible.check ret) where
  ends state := by cases ret <;> rfl

theorem takeIf (returned : Bool) (error : Errno) (resource : PciResource) :
    KeepsSettings (PciAttach.takeIf returned error resource) :=
  (refuse ..).bind (update fun _ => rfl)

theorem take (ret : Ret) (resource : PciResource) : KeepsSettings (PciAttach.take ret resource) :=
  (check ret).bind (update fun _ => rfl)

theorem createMxCdev (answers : PciAnswers) (type : CdevType) :
    KeepsSettings (PciAttach.createMxCdev answers type) := by
  have put (state : PciAttach) : state.mxPdevPut.pci = state.pci := by
    rw [mxPdevPut]
    split_ifs <;> rfl
  unfold PciAttach.createMxCdev
  refine bind (update fun _ => rfl) (bind ?_ (bind ?_ (update fun _ => rfl)))
  · exact (check _).onFailure put
  · exact (check _).onFailure put

theorem mxStartIoQueue (answers : PciAnswers) :
    KeepsSettings (PciAttach.mxStartIoQueue answers) := by
  refine (take ..).bind (bind ?_ (update fun _ => rfl))
  exact (check _).onFailure fun _ => rfl

theorem makeQueue (answers : PciAnswers) (role : QueueRole) :
    KeepsSettings (PciAttach.makeQueue answers role) := by
  have allocated : KeepsSettings (allocQueue answers role) := by
    refine (takeIf ..).bind (bind ?_ (update fun _ => rfl))
    exact (refuse ..).onFailure fun _ => rfl
  exact (takeIf ..).bind (allocated.onFailure fun _ => rfl)

theorem initQueue (revision : Revision) (answers : PciAnswers) :
    KeepsSettings (PciAttach.initQueue revision answers) := by
  cases revision with
  | v1 =>
    refine (takeIf ..).bind (bind ?_ (bind ?_ ?_))
    · exact (refuse ..).onFailure fun _ => rfl
    · exact (refuse ..).onFailure fun _ => rfl
    · exact (mxStartIoQueue answers).onFailure fun _ => rfl
  | v2 =>
    exact (makeQueue ..).bind ((makeQueue ..).bind ((check _).bind (mxStartIoQueue answers)))

end KeepsSettings

theorem Addressed.keeps {program : PciProgram} (addressed : state.Addressed)
    (keeps : KeepsSettings program) : Ends (fun _ => Addressed) (fun _ => True) (program state) :=
  (keeps.ends state).mono (fun _ _ same => by rwa [Addressed, same]) fun _ _ => trivial

/-- A device that was made has the settings that the descriptors need. -/
theorem createRest_addressed :
    Ends (fun _ => Addressed) (fun _ => True) (createRest build revision answers state) := by
  have any (program : PciProgram) (before : PciAttach) :
      Ends (fun _ _ => True) (fun _ => True) (program before) := by
    rcases outcome : program before with ⟨result, left⟩
    cases result <;> trivial
  refine ends_update (ends_bind (any _ _) fun _ _ _ => ends_bind (any _ _) fun _ _ _ =>
    ends_bind (any _ _) fun _ _ _ => ?_)
  refine ends_bind setDmaAddressing_addressed fun _ _ addressed => ?_
  -- what comes after the settings leaves them alone
  refine ends_bind (addressed.keeps (.initQueue revision answers)) fun _ _ addressed => ?_
  refine ends_bind (addressed.keeps (.takeIf ..)) fun _ _ addressed => ?_
  refine ends_bind (addressed.keeps (.take ..)) fun _ _ addressed => ?_
  refine ends_bind (addressed.keeps (.takeIf ..)) fun _ _ addressed => ?_
  exact ends_forEach (fun _ => Addressed)
    (fun type _ _ addressed => addressed.keeps (.createMxCdev answers type)) addressed

theorem Addressed.suitable (addressed : state.Addressed) (maxMappingSize : Nat) :
    (state.dmaLimits maxMappingSize).Suitable :=
  ⟨addressed.1, addressed.2⟩

end PciAttach

end MxDriver
