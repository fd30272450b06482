import MxDriver.PciAttach

/-!
# The creation of a device object, wherever it fails

The resources and the settings are taken in a fixed order, so whatever comes later in the
order is still untouched.  After any failure the marks in the object say exactly what is
held, and every setting is as it was found or saved.
-/

namespace MxDriver

open Fallible

/-- The place of a resource in the order of `create_mx_pdev`. -/
def PciResource.rank : PciResource → Nat
  | .object => 0
  | .ioRef => 1
  | .barMap => 2
  | .cpuLatencyReq => 3
  | .chrdevRegion => 4
  | .barRegion => 5
  | .bar => 6
  | .irq => 7
  | .queue .admin => 8
  | .cqes .admin => 9
  | .sqes .admin => 10
  | .queue .io => 11
  | .cqes .io => 12
  | .sqes .io => 13
  | .submitThread => 14
  | .completeThread => 15
  | .asyncWq => 16
  | .zombieCleanupThread => 17
  | .pagePool => 18
  | .cdev .ioctl => 19
  | .cdev .event => 20
  | .cdev .bdf => 21
  | .sqMbox _ | .cqMbox _ => 22

def PciSetting.rank : PciSetting → Nat
  | .enabled => 0
  | .readrq => 1
  | .busMaster => 2
  | .msi => 3
  | .dmaMask => 4
  | .coherentDmaMask => 5
  | .maxSegSize => 6
  | .minAlignMask => 7

/-- Whether a device of the revision can have the resource. -/
def PciResource.possible (revision : Revision) : PciResource → Bool
  | .queue .admin | .cqes _ | .sqes _ => decide (revision = .v2)
  | .sqMbox qid | .cqMbox qid => decide (qid < maxNumOfMbox)
  | _ => true

/-- Whether the object itself or a node, which the references are about. -/
def PciResource.counted : PciResource → Bool
  | .object | .cdev _ => true
  | _ => false

/-- The settings that are changed for good: by the standalone driver, which owns the
function, and by the fence of a real unbind. -/
def PciSetting.lost (build : DriverBuild) (fenced : Bool) : PciSetting → Bool
  | .busMaster => fenced
  | .dmaMask | .coherentDmaMask | .maxSegSize | .minAlignMask => decide (build = .standalone)
  | .enabled | .readrq | .msi => false

/-- What an attach meets with: the build, the device, the answers of the kernel and the
settings as they are found. -/
structure PciCase where
  build : DriverBuild
  revision : Revision
  answers : PciAnswers
  initial : PciSetting → Nat

abbrev PciCase.step (given : PciCase) : PciAttach → PciAction → Option PciAttach :=
  PciAttach.step given.revision given.answers

abbrev PciCase.destroyMxPdev (given : PciCase) (state : PciAttach)
    (actualPciUnbind safe : Bool) : Bool × PciAttach :=
  state.destroyMxPdev given.revision given.answers actualPciUnbind safe

abbrev PciCase.freeAll (given : PciCase) (state : PciAttach) : PciAttach :=
  state.freeAll given.revision given.answers

namespace PciAttach

/-- The references that the attachment, the pins and the nodes make up for. -/
def refs (state : PciAttach) : Nat :=
  state.ownRef.toNat + state.pins + (state.nodeAlive .ioctl).toNat +
    (state.nodeAlive .event).toNat + (state.nodeAlive .bdf).toNat

/-- What is known of the settings. -/
structure Kept (given : PciCase) (state : PciAttach) : Prop where
  restorable : ∀ setting, setting.lost given.build state.fenced = false →
    state.pci.Restorable (restores given.answers) given.initial setting
  masterOff : state.fenced = true → state.pci.current .busMaster = 0
  masterSaved : state.pci.changed .busMaster = true → state.pci.saved .busMaster = 0

/-- The object is there, and the attachment has its reference. -/
structure Standing (given : PciCase) (state : PciAttach) : Prop where
  balanced : state.holdings.Balanced
  object : state.holdings.marks .object = true
  ownRef : state.ownRef = true
  ref : state.ref = state.refs
  possible : ∀ resource : PciResource, resource.possible given.revision = false →
    state.holdings.marks resource = false
  kept : Kept given state

/-- The object is there and its teardown has not begun. -/
structure Built (given : PciCase) (state : PciAttach) : Prop
    extends Standing given state where
  whole : state.teardownStarted = false
  unfenced : state.fenced = false

/-- How far the creation has come. -/
structure Growing (given : PciCase) (least leastSetting : Nat) (state : PciAttach) : Prop where
  built : Built given state
  free : state.holdings.FreeFrom PciResource.rank least
  unopened : ∀ type, least ≤ (PciResource.cdev type).rank → state.files type = 0
  untouched : state.pci.UntouchedFrom PciSetting.rank leastSetting given.initial

/-- A program comes as far as that, or it fails and leaves an object that stands. -/
abbrev Reaches (given : PciCase) (least leastSetting : Nat)
    (outcome : Except Errno Unit × PciAttach) : Prop :=
  Ends (fun _ => Growing given least leastSetting) (Built given) outcome

variable {given : PciCase} {state : PciAttach} {resource : PciResource}
  {setting : PciSetting} {value least leastSetting : Nat}

theorem Kept.congr (kept : Kept given state) {other : PciAttach}
    (pci : other.pci = state.pci) (fenced : other.fenced = state.fenced) : Kept given other := by
  obtain ⟨restorable, masterOff, masterSaved⟩ := kept
  constructor <;> rw [pci] <;> simpa only [fenced]

theorem refs_acquire (plain : resource.counted = false) :
    (state.acquire resource).refs = state.refs := by
  cases resource with
  | object | cdev => cases plain
  | _ => rfl

theorem refs_release (plain : resource.counted = false) :
    (state.release resource).refs = state.refs := by
  simp only [refs, nodeAlive, release, Holdings.release_marks]
  cases resource with
  | object | cdev => cases plain
  | _ => rfl

theorem marks_release_of_ne {other : PciResource} (different : other ≠ resource) :
    (state.release resource).holdings.marks other = state.holdings.marks other := by
  rw [release, Holdings.release_marks, Function.update_of_ne different]

theorem marks_release_self : (state.release resource).holdings.marks resource = false := by
  rw [release, Holdings.release_marks, Function.update_self]

theorem unmarked_release {other : PciResource} (unmarked : state.holdings.marks other = false) :
    (state.release resource).holdings.marks other = false := by
  by_cases same : other = resource
  · rw [same]
    exact marks_release_self
  · rw [marks_release_of_ne same]
    exact unmarked

theorem Standing.release (standing : Standing given state) (plain : resource.counted = false) :
    Standing given (state.release resource) where
  balanced := standing.balanced.release resource
  object := by
    have different : PciResource.object ≠ resource := by
      rintro rfl
      cases plain
    rw [marks_release_of_ne different]
    exact standing.object
  ownRef := standing.ownRef
  ref := standing.ref.trans (refs_release plain).symm
  possible := fun other impossible => unmarked_release (standing.possible other impossible)
  kept := standing.kept.congr rfl rfl

namespace Built

theorem acquire (built : Built given state)
    (unmarked : state.holdings.marks resource = false) (plain : resource.counted = false)
    (possible : resource.possible given.revision = true) :
    Built given (state.acquire resource) where
  balanced := built.balanced.acquire unmarked
  object := by
    have different : PciResource.object ≠ resource := by
      rintro rfl
      cases plain
    simp only [PciAttach.acquire, Holdings.acquire, Function.update_of_ne different]
    exact built.object
  ownRef := built.ownRef
  ref := built.ref.trans (refs_acquire plain).symm
  possible := by
    intro other impossible
    have different : other ≠ resource := by
      rintro rfl
      rw [possible] at impossible
      cases impossible
    simp only [PciAttach.acquire, Holdings.acquire, Function.update_of_ne different]
    exact built.possible other impossible
  kept := built.kept.congr rfl rfl
  whole := built.whole
  unfenced := built.unfenced

theorem release (built : Built given state) (plain : resource.counted = false) :
    Built given (state.release resource) where
  toStanding := built.toStanding.release plain
  whole := built.whole
  unfenced := built.unfenced

theorem put (built : Built given state)
    (untouched : state.pci.current setting = given.initial setting)
    (master : setting = .busMaster → state.pci.current .busMaster = 0) :
    Built given (state.put setting value) := by
  refine { built with
    kept := {
      restorable := fun other saved =>
        (built.kept.restorable other saved).put (by rintro rfl; exact untouched)
      masterOff := fun fenced => by cases built.unfenced.symm.trans fenced
      masterSaved := ?_ } }
  by_cases same : setting = .busMaster
  · subst same
    intro _
    simp only [PciAttach.put, SavedSettings.put, Function.update_self]
    exact master rfl
  · simp only [PciAttach.put, SavedSettings.put, Function.update_of_ne (Ne.symm same)]
    exact built.kept.masterSaved

theorem force (built : Built given state) (lost : setting.lost given.build false = true) :
    Built given (state.force setting value) := by
  refine { built with
    kept := {
      restorable := fun other saved => (built.kept.restorable other saved).force ?_
      masterOff := fun fenced => by cases built.unfenced.symm.trans fenced
      masterSaved := built.kept.masterSaved } }
  rintro rfl
  change other.lost given.build state.fenced = false at saved
  rw [built.unfenced, lost] at saved
  cases saved

end Built

namespace Growing

variable (growing : Growing given least leastSetting state)
include growing

theorem acquire (ordered : least ≤ resource.rank) (plain : resource.counted = false)
    (possible : resource.possible given.revision = true) :
    Growing given (resource.rank + 1) leastSetting
      (state.acquire resource) where
  built := growing.built.acquire (growing.free resource ordered) plain possible
  free := growing.free.acquire ordered
  unopened := fun type above => growing.unopened type (by omega)
  untouched := growing.untouched

theorem put (ordered : leastSetting ≤ setting.rank)
    (master : setting = .busMaster → state.pci.current .busMaster = 0) :
    Growing given least (setting.rank + 1) (state.put setting value) :=
  { growing with
    built := growing.built.put (growing.untouched setting ordered).2 master
    untouched := growing.untouched.put ordered }

theorem later {more : Nat} (ordered : leastSetting ≤ more) : Growing given least more state :=
  { growing with untouched := growing.untouched.later ordered }

theorem higher {more : Nat} (ordered : least ≤ more) : Growing given more leastSetting state :=
  { growing with
    free := fun resource above => growing.free resource (ordered.trans above)
    unopened := fun type above => growing.unopened type (ordered.trans above) }

end Growing

/-! ## The single steps -/

section Plain

variable (growing : Growing given least leastSetting state)
include growing

theorem acquire_ends (resource : PciResource) (ordered : least ≤ resource.rank)
    (plain : resource.counted = false) (possible : resource.possible given.revision = true) :
    Reaches given (resource.rank + 1) leastSetting
      ((update (·.acquire resource) : PciProgram) state) :=
  growing.acquire ordered plain possible

theorem take_ends (ret : Ret) (resource : PciResource) (ordered : least ≤ resource.rank)
    (plain : resource.counted = false) (possible : resource.possible given.revision = true) :
    Reaches given (resource.rank + 1) leastSetting (take ret resource state) :=
  ends_check growing.built fun _ => growing.acquire ordered plain possible

theorem takeIf_ends
    (returned : Bool) (error : Errno) (resource : PciResource) (ordered : least ≤ resource.rank)
    (plain : resource.counted = false) (possible : resource.possible given.revision = true) :
    Reaches given (resource.rank + 1) leastSetting (takeIf returned error resource state) :=
  ends_refuse (fun _ => growing.built) fun _ => growing.acquire ordered plain possible

theorem put_ends (setting : PciSetting) (value : Nat) (ordered : leastSetting ≤ setting.rank)
    (master : setting = .busMaster → state.pci.current .busMaster = 0) :
    Reaches given least (setting.rank + 1) ((update (·.put setting value) : PciProgram) state) :=
  growing.put ordered master

end Plain

theorem devMap_ends (growing : Growing given 5 leastSetting state) :
    Reaches given 7 leastSetting (devMap given.answers state) := by
  refine ends_bind (take_ends growing _ .barRegion le_rfl rfl rfl) fun _ mapped grown => ?_
  exact ends_refuseAfter (fun _ => grown.built.release rfl)
    fun _ => acquire_ends grown .bar le_rfl rfl rfl

theorem enableDevice_ends (growing : Growing given least 0 state) :
    Reaches given least 1 (enableDevice given.build given.answers state) := by
  refine ends_read ?_
  split_ifs
  · exact growing.later (Nat.zero_le 1)
  · cases build : given.build with
    | overlay => exact growing.built
    | standalone =>
      exact ends_check growing.built fun _ => put_ends growing .enabled 1 le_rfl (by simp)

theorem changeReadrq_ends (growing : Growing given least 1 state) :
    Reaches given least 2 (changeReadrq given.answers state) := by
  refine ends_check growing.built fun _ => ends_read ?_
  split_ifs
  · exact growing.later (Nat.le_succ 1)
  · exact ends_check growing.built fun _ => put_ends growing .readrq _ le_rfl (by simp)

theorem enableBusMaster_ends (growing : Growing given least 2 state) :
    Reaches given least 3 (enableBusMaster given.build state) := by
  refine ends_read ?_
  split_ifs with off
  · exact growing.later (Nat.le_succ 2)
  · cases build : given.build with
    | overlay => exact growing.built
    | standalone => exact put_ends growing .busMaster 1 le_rfl fun _ => by simpa using off

theorem enableMsi_ends (growing : Growing given least 3 state) :
    Reaches given least 4 (enableMsi given.answers state) := by
  refine ends_read ?_
  split_ifs
  · exact growing.later (Nat.le_succ 3)
  · exact ends_check growing.built fun _ => put_ends growing .msi 1 le_rfl (by simp)

theorem pciDeviceInit_ends (growing : Growing given 7 0 state) :
    Reaches given 8 4 (pciDeviceInit given.build given.answers state) := by
  refine ends_bind (enableDevice_ends growing) fun _ _ grown => ?_
  refine ends_bind (changeReadrq_ends grown) fun _ _ grown => ?_
  refine ends_bind (enableBusMaster_ends grown) fun _ _ grown => ?_
  refine ends_bind (enableMsi_ends grown) fun _ _ grown => ?_
  exact ends_refuse (fun _ => grown.built) fun _ => take_ends grown _ .irq le_rfl rfl rfl

theorem limitSegments_ends (growing : Growing given least 6 state) :
    Reaches given least 7 (limitSegments given.answers state) := by
  refine ends_read ?_
  split_ifs
  · exact growing.later (Nat.le_succ 6)
  · exact ends_check growing.built fun _ => put_ends growing .maxSegSize _ le_rfl (by simp)

theorem Growing.alignMask (growing : Growing given least 7 state) :
    Growing given least 8 state.alignMask := by
  rw [PciAttach.alignMask]
  split_ifs
  · exact growing.later (Nat.le_succ 7)
  · exact put_ends growing .minAlignMask _ le_rfl (by simp)

theorem Growing.force (growing : Growing given least 8 state)
    (lost : setting.lost given.build false = true) :
    Growing given least 8 (state.force setting value) :=
  { growing with
    built := growing.built.force lost
    untouched := fun other above => by cases other <;> simp [PciSetting.rank] at above }

theorem setDmaAddressing_ends (growing : Growing given least 4 state) :
    Reaches given least 8 (setDmaAddressing given.build given.answers state) := by
  cases build : given.build with
  | overlay =>
    refine ends_read (ends_refuse (fun _ => growing.built) fun _ => ?_)
    cases selectDmaMask given.answers with
    | none => exact growing.built
    | some mask =>
      refine ends_bind (put_ends growing .dmaMask mask le_rfl (by simp)) fun _ _ grown => ?_
      refine ends_refuse (fun _ => grown.built) fun _ => ?_
      refine ends_bind (put_ends grown .coherentDmaMask mask le_rfl (by simp))
        fun _ _ grown => ?_
      refine ends_bind (limitSegments_ends grown) fun _ _ grown => ?_
      exact grown.alignMask
  | standalone =>
    simp only [setDmaAddressing]
    have touched := growing.later (by decide : 4 ≤ 8)
    have lost {setting : PciSetting} (kept : setting.lost .standalone false = true) :
        setting.lost given.build false = true := build ▸ kept
    cases selectDmaMask given.answers with
    | none => exact growing.built
    | some mask =>
      have masked : Growing given least 8 (state.force .dmaMask mask) :=
        touched.force (lost rfl)
      refine ends_update (ends_refuse (fun _ => masked.built) fun _ => ?_)
      exact ((masked.force (lost rfl)).force (lost rfl)).force (lost rfl)

theorem allocQueue_ends (role : QueueRole) (v2 : given.revision = .v2)
    (growing : Growing given least leastSetting state)
    (ordered : least ≤ (PciResource.cqes role).rank) :
    Reaches given ((PciResource.sqes role).rank + 1) leastSetting
      (allocQueue given.answers role state) := by
  have possible : decide (given.revision = .v2) = true := decide_eq_true v2
  refine ends_bind (takeIf_ends growing _ _ (.cqes role) ordered rfl possible) fun _ _ grown => ?_
  exact ends_refuseAfter (fun _ => grown.built.release rfl)
    fun _ => acquire_ends grown (.sqes role) (by cases role <;> exact le_rfl) rfl possible

theorem makeQueue_ends (role : QueueRole) (v2 : given.revision = .v2)
    (growing : Growing given least leastSetting state)
    (ordered : least ≤ (PciResource.queue role).rank) :
    Reaches given ((PciResource.sqes role).rank + 1) leastSetting
      (makeQueue given.answers role state) := by
  refine ends_bind (takeIf_ends growing _ _ (.queue role) ordered rfl
    (by rw [v2]; cases role <;> rfl)) fun _ _ grown => ?_
  refine ends_onFailure (allocQueue_ends role v2 grown (by cases role <;> exact le_rfl)) ?_
  exact fun _ built => built.release rfl

theorem mxStartIoQueue_ends (growing : Growing given 14 leastSetting state) :
    Reaches given 16 leastSetting (mxStartIoQueue given.answers state) := by
  refine ends_bind (take_ends growing _ .submitThread le_rfl rfl rfl) fun _ _ grown => ?_
  exact ends_checkAfter (grown.built.release rfl)
    fun _ => acquire_ends grown .completeThread le_rfl rfl rfl

theorem initQueue_ends (growing : Growing given 8 leastSetting state) :
    Reaches given 16 leastSetting (initQueue given.revision given.answers state) := by
  cases revision : given.revision with
  | v1 =>
    refine ends_bind (takeIf_ends growing _ _ (.queue .io) (by decide) rfl rfl)
      fun _ _ grown => ?_
    refine ends_refuseAfter (fun _ => grown.built.release rfl) fun _ => ?_
    refine ends_refuseAfter (fun _ => grown.built.release rfl) fun _ => ?_
    have started := mxStartIoQueue_ends (grown.higher (by decide : _ ≤ 14))
    exact ends_onFailure started fun _ built => built.release rfl
  | v2 =>
    refine ends_bind (makeQueue_ends .admin revision growing le_rfl) fun _ _ grown => ?_
    refine ends_bind (makeQueue_ends .io revision grown le_rfl) fun _ _ grown => ?_
    exact ends_check grown.built fun _ => mxStartIoQueue_ends grown

/-! ## The whole creation -/

theorem refs_pos (ownRef : state.ownRef = true) : 0 < state.refs := by
  rw [refs, ownRef]
  simp only [Bool.toNat_true]
  omega

theorem krefGet_mxPdevPut (built : Built given state) : state.krefGet.mxPdevPut = state := by
  have counted := built.ref
  have positive := refs_pos built.ownRef
  rw [mxPdevPut, if_neg (by simp only [krefGet]; omega)]
  rfl

theorem refs_node (before after : PciAttach) (type : CdevType)
    (own : after.ownRef = before.ownRef) (pins : after.pins = before.pins)
    (others : ∀ other, other ≠ type → after.nodeAlive other = before.nodeAlive other) :
    after.refs + (before.nodeAlive type).toNat = before.refs + (after.nodeAlive type).toNat := by
  simp only [refs, own, pins]
  cases type
  · rw [others .event (by simp), others .bdf (by simp)]
    omega
  · rw [others .ioctl (by simp), others .bdf (by simp)]
    omega
  · rw [others .ioctl (by simp), others .event (by simp)]
    omega

theorem Growing.cdev (growing : Growing given least leastSetting state)
    (type : CdevType) (ordered : least ≤ (PciResource.cdev type).rank) :
    Growing given ((PciResource.cdev type).rank + 1) leastSetting
      (state.krefGet.acquire (.cdev type)) where
  built := {
    balanced := growing.built.balanced.acquire (growing.free _ ordered)
    object := by
      simp only [PciAttach.acquire, krefGet, Holdings.acquire]
      exact growing.built.object
    ownRef := growing.built.ownRef
    ref := by
      have dead : state.nodeAlive type = false := by
        rw [nodeAlive, growing.free _ ordered, growing.unopened type ordered]
        rfl
      have alive : (state.krefGet.acquire (.cdev type)).nodeAlive type = true := by
        simp [nodeAlive, PciAttach.acquire, Holdings.acquire]
      have moved := refs_node state (state.krefGet.acquire (.cdev type)) type rfl rfl
        fun other different => by
          have apart : PciResource.cdev other ≠ .cdev type := by simpa using different
          simp only [nodeAlive, PciAttach.acquire, krefGet, Holdings.acquire,
            Function.update_of_ne apart]
      have counted := growing.built.ref
      simp only [dead, alive, Bool.toNat_true, Bool.toNat_false] at moved
      change state.ref + 1 = _
      omega
    possible := by
      intro other impossible
      have different : other ≠ .cdev type := by
        rintro rfl
        cases impossible
      simp only [PciAttach.acquire, krefGet, Holdings.acquire, Function.update_of_ne different]
      exact growing.built.possible other impossible
    kept := growing.built.kept.congr rfl rfl
    whole := growing.built.whole
    unfenced := growing.built.unfenced }
  free := growing.free.acquire ordered
  unopened := fun other above => growing.unopened other (by omega)
  untouched := growing.untouched

theorem Growing.openFiles {type : CdevType} {count : Nat}
    (growing : Growing given ((PciResource.cdev type).rank + 1)
      leastSetting state) (there : state.holdings.marks (.cdev type) = true) :
    Growing given ((PciResource.cdev type).rank + 1) leastSetting
      (state.openFiles type count) where
  built := { growing.built with
    ref := by
      have alive (other : CdevType) :
          (state.openFiles type count).nodeAlive other = state.nodeAlive other := by
        by_cases same : other = type
        · subst same
          simp [nodeAlive, PciAttach.openFiles, there]
        · simp [nodeAlive, PciAttach.openFiles, same]
      have counted := growing.built.ref
      simp only [refs, alive] at counted ⊢
      simp only [PciAttach.openFiles]
      omega
    kept := growing.built.kept.congr rfl rfl }
  free := growing.free
  unopened := by
    intro other above
    have different : other ≠ type := by
      rintro rfl
      omega
    simp only [PciAttach.openFiles, Function.update_of_ne different]
    exact growing.unopened other above
  untouched := growing.untouched

theorem createMxCdev_ends (type : CdevType) (growing : Growing given least leastSetting state)
    (ordered : least ≤ (PciResource.cdev type).rank) :
    Reaches given ((PciResource.cdev type).rank + 1) leastSetting
      (createMxCdev given.answers type state) := by
  have undone : Built given state.krefGet.mxPdevPut := by
    rw [krefGet_mxPdevPut growing.built]
    exact growing.built
  refine ends_update (ends_checkAfter undone fun _ => ends_checkAfter undone fun _ =>
    ends_update ?_)
  exact (growing.cdev type ordered).openFiles
    (by simp [PciAttach.acquire, Holdings.acquire])

theorem createRest_ends (growing : Growing given 3 0 state) :
    Reaches given 22 8 (createRest given.build given.revision given.answers state) := by
  refine ends_bind (acquire_ends growing .cpuLatencyReq le_rfl rfl rfl) fun _ _ grown => ?_
  refine ends_bind (take_ends grown _ .chrdevRegion le_rfl rfl rfl) fun _ _ grown => ?_
  refine ends_bind (devMap_ends grown) fun _ _ grown => ?_
  refine ends_bind (pciDeviceInit_ends grown) fun _ _ grown => ?_
  refine ends_bind (setDmaAddressing_ends grown) fun _ _ grown => ?_
  refine ends_bind (initQueue_ends grown) fun _ _ grown => ?_
  refine ends_bind (takeIf_ends grown _ _ .asyncWq le_rfl rfl rfl) fun _ _ grown => ?_
  refine ends_bind (take_ends grown _ .zombieCleanupThread le_rfl rfl rfl) fun _ _ grown => ?_
  refine ends_bind (takeIf_ends grown _ _ .pagePool le_rfl rfl rfl) fun _ _ grown => ?_
  refine ends_bind (createMxCdev_ends .ioctl grown le_rfl) fun _ _ grown => ?_
  refine ends_bind (createMxCdev_ends .event grown le_rfl) fun _ _ grown => ?_
  exact ends_bind (createMxCdev_ends .bdf grown le_rfl) fun _ _ grown => grown

end PciAttach

end MxDriver
