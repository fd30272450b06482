import MxDriver.PciAttachBalance
import MxDriver.TransitionSystem

/-!
# An attach can be undone

Whatever fails in an attach, and whenever the owner of the PCI function is unbound, the
driver has given back what it took, and has restored what it changed, once the attachment
has dropped its reference.  Only the object waits for the last file and the last mapping.
-/

namespace MxDriver

open Fallible

namespace PciAttach

/-- The teardown has begun, and the protocol could not be stopped yet. -/
structure Torn (given : PciCase) (state : PciAttach) : Prop
    extends Standing given state where
  started : state.teardownStarted = true
  hidden : ∀ type, state.holdings.marks (.cdev type) = false
  quiet : state.holdings.marks .cpuLatencyReq = false

/-- What is left when the protocol has been stopped safely: at most the object with what
belongs to it, and no setting that waits for its restoration. -/
structure Emptied (given : PciCase) (state : PciAttach) : Prop where
  balanced : state.holdings.Balanced
  bare : ∀ resource, resource ≠ .object → resource ≠ .ioRef → resource ≠ .barMap →
    state.holdings.marks resource = false
  kept : Kept given state
  unchanged : ∀ setting, state.pci.changed setting = false

/-- The attachment still has its reference. -/
structure Cleared (given : PciCase) (state : PciAttach) : Prop extends Emptied given state where
  object : state.holdings.marks .object = true
  started : state.teardownStarted = true
  ownRef : state.ownRef = true
  ref : state.ref = state.refs

/-- The object is in use. -/
structure InUse (state : PciAttach) : Prop where
  object : state.holdings.marks .object = true
  started : state.teardownStarted = true
  ref : state.ref = state.refs
  used : 0 < state.refs

/-- Nothing is left of the attach, and nobody refers to it. -/
structure Gone (state : PciAttach) : Prop where
  unmarked : ∀ resource, state.holdings.marks resource = false
  unreferenced : state.refs = 0

/-- The attachment is over. -/
structure Left (given : PciCase) (state : PciAttach) : Prop extends Emptied given state where
  unowned : state.ownRef = false
  object : state.InUse ∨ state.Gone

variable {given : PciCase} {state next : PciAttach} {resource : PciResource} {action : PciAction}

theorem kept_found : Kept given (found given.initial) where
  restorable := fun _ _ => ⟨by simp [found], fun _ => .inl rfl⟩
  masterOff := by simp [found]
  masterSaved := by simp [found]

theorem left_of_unmarked (balanced : state.holdings.Balanced)
    (unmarked : ∀ resource, state.holdings.marks resource = false)
    (unowned : state.ownRef = false) (unreferenced : state.refs = 0)
    (pci : state.pci = (found given.initial).pci) (fenced : state.fenced = false) :
    Left given state ∧ state.fenced = false :=
  ⟨{ balanced := balanced
     bare := fun resource _ _ _ => unmarked resource
     kept := kept_found.congr pci fenced
     unchanged := fun _ => by rw [pci]; rfl
     unowned := unowned
     object := .inr ⟨unmarked, unreferenced⟩ }, fenced⟩

theorem createObject_ends :
    Ends (fun _ => Growing given 3 0)
      (fun state => Left given state ∧ state.fenced = false)
      (createObject given.answers (found given.initial)) := by
  have empty : (found given.initial).holdings.Balanced := Holdings.balanced_empty
  have first : ((found given.initial).acquire .object).holdings.Balanced := empty.acquire rfl
  have second : (((found given.initial).acquire .object).acquire .ioRef).holdings.Balanced :=
    first.acquire rfl
  have third : ((((found given.initial).acquire .object).acquire .ioRef).acquire
      .barMap).holdings.Balanced := second.acquire rfl
  unfold createObject takeIf take
  cases given.answers.kzalloc with
  | false => exact left_of_unmarked empty (fun _ => rfl) rfl rfl rfl rfl
  | true =>
  cases given.answers.percpuRefInit with
  | some error =>
    refine left_of_unmarked (first.release .object) (fun resource => ?_) rfl rfl rfl rfl
    cases resource <;> rfl
  | none =>
  cases given.answers.mxBarMapAlloc with
  | false =>
    refine left_of_unmarked ((second.release .ioRef).release .object) (fun resource => ?_)
      rfl rfl rfl rfl
    cases resource <;> rfl
  | true =>
    refine Growing.mk ?_ ?_ ?_ ?_
    · exact {
        balanced := third
        object := rfl
        ownRef := rfl
        ref := rfl
        possible := by
          intro other impossible
          cases other <;> first | rfl | cases impossible
        kept := kept_found.congr rfl rfl
        whole := rfl
        unfenced := rfl }
    · intro other above
      cases other <;> first | rfl | simp [PciResource.rank] at above
    · exact fun _ _ => rfl
    · exact fun _ _ => ⟨rfl, rfl⟩

/-! ## The teardown -/

theorem mxPdevPut_of_shared (counted : state.ref = state.refs + 1) (shared : 0 < state.refs) :
    state.mxPdevPut = { state with ref := state.refs } := by
  rw [mxPdevPut, if_neg (by omega), counted]
  rfl

/-- A node that is destroyed drops its reference, unless a file is open on it. -/
theorem destroyMxCdev_eq (standing : Standing given state)
    {type : CdevType} (marked : state.holdings.marks (.cdev type) = true) :
    state.destroyMxCdev type =
      { state.release (.cdev type) with ref := (state.release (.cdev type)).refs } := by
  have moved := refs_node state (state.release (.cdev type)) type rfl rfl
    fun other different => by
      have apart : PciResource.cdev other ≠ .cdev type := by simpa using different
      rw [nodeAlive, nodeAlive, marks_release_of_ne apart]
      rfl
  have alive : (state.release (.cdev type)).nodeAlive type = (state.files type != 0) := by
    rw [nodeAlive, marks_release_self]
    rfl
  have before : state.nodeAlive type = true := by simp [nodeAlive, marked]
  have counted : (state.release (.cdev type)).ref = state.refs := standing.ref
  rw [destroyMxCdev, if_pos marked]
  dsimp only
  by_cases unopened : state.files type = 0
  · simp only [before, alive, unopened, bne_self_eq_false, Bool.toNat_true, Bool.toNat_false]
      at moved
    rw [if_pos unopened]
    exact mxPdevPut_of_shared (by omega) (refs_pos standing.ownRef)
  · simp only [before, alive, bne_iff_ne.mpr unopened, Nat.add_right_cancel_iff] at moved
    rw [if_neg unopened, moved, ← counted]

theorem Standing.destroyMxCdev (standing : Standing given state)
    (type : CdevType) : Standing given (state.destroyMxCdev type) := by
  cases marked : state.holdings.marks (.cdev type) with
  | false =>
    rw [PciAttach.destroyMxCdev, if_neg (by simp [marked])]
    exact standing
  | true =>
    rw [destroyMxCdev_eq standing marked]
    exact {
      balanced := standing.balanced.release _
      object := by
        change (state.release (.cdev type)).holdings.marks .object = true
        rw [marks_release_of_ne (by simp)]
        exact standing.object
      ownRef := standing.ownRef
      ref := rfl
      possible := fun other impossible => unmarked_release (standing.possible other impossible)
      kept := standing.kept.congr rfl rfl }

theorem destroyMxCdev_unmarked (standing : Standing given state) {type : CdevType}
    (unmarked : resource = .cdev type ∨ state.holdings.marks resource = false) :
    (state.destroyMxCdev type).holdings.marks resource = false := by
  cases marked : state.holdings.marks (.cdev type) with
  | false =>
    rw [destroyMxCdev, if_neg (by simp [marked])]
    rcases unmarked with rfl | unmarked
    · exact marked
    · exact unmarked
  | true =>
    rw [destroyMxCdev_eq standing marked]
    rcases unmarked with rfl | unmarked
    · exact marks_release_self
    · exact unmarked_release unmarked

theorem destroyMxCdev_frame (standing : Standing given state) (type : CdevType) :
    (state.destroyMxCdev type).teardownStarted = state.teardownStarted ∧
      (state.destroyMxCdev type).fenced = state.fenced := by
  cases marked : state.holdings.marks (.cdev type) with
  | false =>
    rw [destroyMxCdev, if_neg (by simp [marked])]
    exact ⟨rfl, rfl⟩
  | true =>
    rw [destroyMxCdev_eq standing marked]
    exact ⟨rfl, rfl⟩

theorem Standing.startTeardown (standing : Standing given state) :
    Torn given state.startTeardown ∧
      state.startTeardown.fenced = state.fenced := by
  have begun : Standing given { state with teardownStarted := true } :=
    { standing with kept := standing.kept.congr rfl rfl }
  have first := begun.destroyMxCdev .ioctl
  have second := first.destroyMxCdev .event
  have third := second.destroyMxCdev .bdf
  refine ⟨{ third.release rfl with started := ?_, hidden := ?_, quiet := marks_release_self }, ?_⟩
  · exact (destroyMxCdev_frame second _).1.trans
      ((destroyMxCdev_frame first _).1.trans (destroyMxCdev_frame begun _).1)
  · intro type
    refine unmarked_release (destroyMxCdev_unmarked second ?_)
    cases type with
    | ioctl =>
      exact .inr (destroyMxCdev_unmarked first (.inr (destroyMxCdev_unmarked begun (.inl rfl))))
    | event => exact .inr (destroyMxCdev_unmarked first (.inl rfl))
    | bdf => exact .inl rfl
  · exact (destroyMxCdev_frame second _).2.trans
      ((destroyMxCdev_frame first _).2.trans (destroyMxCdev_frame begun _).2)

theorem Torn.release (torn : Torn given state) (plain : resource.counted = false) :
    Torn given (state.release resource) where
  toStanding := torn.toStanding.release plain
  started := torn.started
  hidden := fun type => unmarked_release (torn.hidden type)
  quiet := unmarked_release torn.quiet

theorem Kept.fence (kept : Kept given state) : Kept given state.mxdmaFencePciUnbind where
  restorable := by
    intro setting saved
    have different : setting ≠ .busMaster := by
      rintro rfl
      cases saved
    have before : setting.lost given.build state.fenced = false := by
      cases setting <;> first | exact absurd rfl different | exact saved
    exact (kept.restorable setting before).force different
  masterOff := fun _ => by
    simp only [mxdmaFencePciUnbind, PciAttach.force, SavedSettings.force, Function.update_self]
  masterSaved := kept.masterSaved

theorem Torn.fence (torn : Torn given state) : Torn given state.mxdmaFencePciUnbind :=
  { torn with kept := torn.kept.fence }

/-! ## What is freed at the end -/

/-- A part of the teardown: the object stays, no mark comes back, and the flags stay. -/
structure Sheds (given : PciCase) (before after : PciAttach) : Prop where
  fenced : after.fenced = before.fenced
  started : after.teardownStarted = before.teardownStarted
  standing : Standing given before →
    Standing given after
  unmarked : ∀ resource, before.holdings.marks resource = false →
    after.holdings.marks resource = false

variable {before middle after : PciAttach}

theorem Sheds.trans (first : Sheds given before middle) (second : Sheds given middle after) :
    Sheds given before after where
  fenced := second.fenced.trans first.fenced
  started := second.started.trans first.started
  standing := second.standing ∘ first.standing
  unmarked := fun resource free => second.unmarked resource (first.unmarked resource free)

theorem sheds_release (plain : resource.counted = false) :
    Sheds given state (state.release resource) where
  fenced := rfl
  started := rfl
  standing := fun standing => standing.release plain
  unmarked := fun _ => unmarked_release

theorem sheds_mboxes (qids : List Nat) :
    Sheds given state (qids.foldl
        (fun state qid => (release state (.sqMbox qid)).release (.cqMbox qid)) state) ∧
      ∀ qid ∈ qids, ∀ mbox ∈ [PciResource.sqMbox qid, .cqMbox qid], (qids.foldl
        (fun state qid => (release state (.sqMbox qid)).release (.cqMbox qid))
          state).holdings.marks mbox = false := by
  induction qids generalizing state with
  | nil => exact ⟨⟨rfl, rfl, id, fun _ => id⟩, by simp⟩
  | cons qid rest ih =>
    have first : Sheds given state
        ((state.release (.sqMbox qid)).release (.cqMbox qid)) :=
      (sheds_release rfl).trans (sheds_release rfl)
    obtain ⟨others, freed⟩ := @ih ((state.release (.sqMbox qid)).release (.cqMbox qid))
    refine ⟨first.trans others, fun other member mbox which => ?_⟩
    rcases List.mem_cons.mp member with rfl | later
    · refine others.unmarked mbox ?_
      simp only [List.mem_cons, List.not_mem_nil, or_false] at which
      rcases which with rfl | rfl
      · exact unmarked_release marks_release_self
      · exact marks_release_self
    · exact freed other later mbox which

theorem sheds_mxFreeRegisteredMboxes :
    Sheds given state state.mxFreeRegisteredMboxes ∧
      ∀ qid < maxNumOfMbox, ∀ mbox ∈ [PciResource.sqMbox qid, .cqMbox qid],
        state.mxFreeRegisteredMboxes.holdings.marks mbox = false := by
  obtain ⟨sheds, freed⟩ :=
    @sheds_mboxes given state (List.range maxNumOfMbox)
  rw [mxFreeRegisteredMboxes]
  exact ⟨sheds, fun qid small => freed qid (List.mem_range.mpr small)⟩

theorem sheds_freeQueue : Sheds given state (state.freeQueue given.revision) := by
  cases given.revision with
  | v1 => exact sheds_release rfl
  | v2 =>
    exact (sheds_release rfl).trans <| (sheds_release rfl).trans <| (sheds_release rfl).trans <|
      (sheds_release rfl).trans <| (sheds_release rfl).trans (sheds_release rfl)

theorem Kept.restore (kept : Kept given state) (setting : PciSetting) :
    Kept given (state.restore given.answers setting) where
  restorable := fun other saved => (kept.restorable other saved).restore
  masterOff := by
    intro fenced
    rcases SavedSettings.restore_current (restores given.answers) state.pci setting .busMaster with
      same | ⟨changed, restored⟩
    · exact same.trans (kept.masterOff fenced)
    · exact restored.trans (kept.masterSaved changed)
  masterSaved := by
    simp only [PciAttach.restore, SavedSettings.restore_changed, SavedSettings.restore_saved]
    intro changed
    refine kept.masterSaved ?_
    by_cases same : setting = .busMaster
    · subst same
      simp at changed
    · rwa [Function.update_of_ne (Ne.symm same)] at changed

theorem sheds_restore (setting : PciSetting) :
    Sheds given state (state.restore given.answers setting) where
  fenced := rfl
  started := rfl
  standing := fun standing => { standing with kept := standing.kept.restore setting }
  unmarked := fun _ => id

theorem sheds_restores (settings : List PciSetting) :
    Sheds given state (settings.foldl (·.restore given.answers) state) := by
  induction settings generalizing state with
  | nil => exact ⟨rfl, rfl, id, fun _ => id⟩
  | cons setting rest ih => exact (sheds_restore setting).trans ih

theorem sheds_pciDeviceExit : Sheds given state (state.pciDeviceExit given.answers) :=
  (sheds_release rfl).trans (sheds_restores _)

theorem pciDeviceExit_changed (setting : PciSetting) :
    (state.pciDeviceExit given.answers).pci.changed setting = false := by
  simp only [pciDeviceExit, List.foldl_cons, List.foldl_nil, restore,
    SavedSettings.restore_changed]
  cases setting <;> simp [Function.update]

theorem sheds_devUnmap : Sheds given state state.devUnmap :=
  (sheds_release rfl).trans (sheds_release rfl)

theorem sheds_freeAll : Sheds given state (given.freeAll state) :=
  sheds_mxFreeRegisteredMboxes.1.trans <| (sheds_release rfl).trans <| sheds_freeQueue.trans <|
    sheds_devUnmap.trans sheds_pciDeviceExit

theorem pciDeviceExit_holdings :
    (state.pciDeviceExit given.answers).holdings = state.holdings.release .irq :=
  rfl

/-- The queue of the first revision is one allocation. -/
theorem freeQueue_unmarked {revision : Revision} {role : QueueRole} (resource : PciResource)
    (listed : resource = .queue role ∨ resource = .cqes role ∨ resource = .sqes role)
    (possible : resource.possible revision = true) :
    (state.freeQueue revision).holdings.marks resource = false := by
  cases revision with
  | v1 =>
    rcases listed with rfl | rfl | rfl
    · cases role with
      | admin => cases possible
      | io => exact marks_release_self
    · cases possible
    · cases possible
  | v2 =>
    simp only [freeQueue, freeQueueStorage, release, Holdings.release_marks]
    rcases listed with rfl | rfl | rfl <;> cases role <;> simp [Function.update]

/-- The resources that only the end of `destroy_mx_pdev` frees. -/
def freedLast : PciResource → Bool
  | .pagePool | .queue _ | .cqes _ | .sqes _ | .bar | .barRegion | .irq | .sqMbox _
  | .cqMbox _ => true
  | _ => false

theorem freeAll_unmarked (standing : Standing given state) (last : freedLast resource = true) :
    (given.freeAll state).holdings.marks resource = false := by
  cases possible : resource.possible given.revision with
  | false => exact (sheds_freeAll.standing standing).possible resource possible
  | true =>
  -- once the resource is unmarked, it stays so
  have afterUnmap (freed : PciAttach) :
      Sheds given freed (freed.pciDeviceExit given.answers) :=
    sheds_pciDeviceExit
  have afterQueue (freed : PciAttach) :
      Sheds given freed (freed.devUnmap.pciDeviceExit given.answers) :=
    sheds_devUnmap.trans (afterUnmap _)
  have afterPool (freed : PciAttach) : Sheds given freed
      ((freed.freeQueue given.revision).devUnmap.pciDeviceExit given.answers) :=
    sheds_freeQueue.trans (afterQueue _)
  have afterMboxes (freed : PciAttach) : Sheds given freed
      (((freed.release .pagePool).freeQueue given.revision).devUnmap.pciDeviceExit given.answers) :=
    (sheds_release rfl).trans (afterPool _)
  rw [PciCase.freeAll, PciAttach.freeAll]
  cases resource with
  | irq =>
    rw [pciDeviceExit_holdings, Holdings.release_marks]
    exact Function.update_self ..
  | bar => exact (afterUnmap _).unmarked _ (unmarked_release marks_release_self)
  | barRegion => exact (afterUnmap _).unmarked _ marks_release_self
  | queue role => exact (afterQueue _).unmarked _ (freeQueue_unmarked _ (.inl rfl) possible)
  | cqes role => exact (afterQueue _).unmarked _ (freeQueue_unmarked _ (.inr (.inl rfl)) possible)
  | sqes role => exact (afterQueue _).unmarked _ (freeQueue_unmarked _ (.inr (.inr rfl)) possible)
  | pagePool => exact (afterPool _).unmarked _ marks_release_self
  | sqMbox qid | cqMbox qid =>
    have small : qid < maxNumOfMbox := by simpa [PciResource.possible] using possible
    have freed : Sheds given state state.mxFreeRegisteredMboxes ∧ _ :=
      sheds_mxFreeRegisteredMboxes
    exact (afterMboxes _).unmarked _ (freed.2 qid small _ (by simp))
  | _ => cases last

theorem Torn.cleared (torn : Torn given state)
    (stopped : ∀ resource ∈ [PciResource.asyncWq, .submitThread, .completeThread,
      .zombieCleanupThread, .chrdevRegion], state.holdings.marks resource = false) :
    Cleared given (given.freeAll state) := by
  have sheds : Sheds given state (given.freeAll state) :=
    sheds_freeAll
  have standing := sheds.standing torn.toStanding
  exact {
    balanced := standing.balanced
    object := standing.object
    bare := by
      intro resource notObject notRef notMap
      by_cases last : freedLast resource = true
      · exact freeAll_unmarked torn.toStanding last
      · refine sheds.unmarked resource ?_
        cases resource with
        | object => exact absurd rfl notObject
        | ioRef => exact absurd rfl notRef
        | barMap => exact absurd rfl notMap
        | cpuLatencyReq => exact torn.quiet
        | cdev type => exact torn.hidden type
        | asyncWq | submitThread | completeThread | zombieCleanupThread | chrdevRegion =>
          exact stopped _ (by simp)
        | _ => exact absurd rfl last
    kept := standing.kept
    unchanged := pciDeviceExit_changed
    started := sheds.started.trans torn.started
    ownRef := standing.ownRef
    ref := standing.ref }

/-! ## References that outlast the attachment -/

/-- With the last reference the object goes. -/
theorem Emptied.mxPdevPut (emptied : Emptied given state)
    (object : state.holdings.marks .object = true) (started : state.teardownStarted = true)
    (unowned : state.ownRef = false) (counted : state.ref = state.refs + 1) :
    Left given state.mxPdevPut := by
  by_cases shared : 0 < state.refs
  · rw [mxPdevPut_of_shared counted shared]
    exact { emptied with
      kept := emptied.kept.congr rfl rfl
      unowned := unowned
      object := .inl ⟨object, started, rfl, shared⟩ }
  rw [PciAttach.mxPdevPut, if_pos (by omega)]
  have unmarked (resource : PciResource) : state.mxPdevFree.holdings.marks resource = false := by
    change (((state.release .barMap).release .ioRef).release .object).holdings.marks resource = _
    by_cases object : resource = .object
    · rw [object]
      exact marks_release_self
    · refine unmarked_release ?_
      by_cases ref : resource = .ioRef
      · rw [ref]
        exact marks_release_self
      · refine unmarked_release ?_
        by_cases map : resource = .barMap
        · rw [map]
          exact marks_release_self
        · exact unmarked_release (emptied.bare resource object ref map)
  have alive (type : CdevType) : state.mxPdevFree.nodeAlive type = state.nodeAlive type := by
    rw [nodeAlive, nodeAlive, unmarked, emptied.bare (.cdev type) (by simp) (by simp) (by simp)]
    rfl
  have unreferenced : state.mxPdevFree.refs = 0 := by
    rw [refs, alive, alive, alive]
    exact Nat.eq_zero_of_not_pos shared
  exact {
    balanced := ((emptied.balanced.release _).release _).release _
    bare := fun resource _ _ _ => unmarked resource
    kept := emptied.kept.congr rfl rfl
    unchanged := emptied.unchanged
    unowned := unowned
    object := .inr ⟨unmarked, unreferenced⟩ }

theorem Cleared.mxdmaDropAttachment (cleared : Cleared given state) :
    Left given state.mxdmaDropAttachment := by
  refine Emptied.mxPdevPut { cleared.toEmptied with kept := cleared.kept.congr rfl rfl }
    cleared.object cleared.started rfl ?_
  have counted := cleared.ref
  simp only [refs, cleared.ownRef, Bool.toNat_true] at counted
  change state.ref = (Bool.toNat false + state.pins + (state.nodeAlive .ioctl).toNat +
    (state.nodeAlive .event).toNat + (state.nodeAlive .bdf).toNat) + 1
  simp only [Bool.toNat_false]
  omega

/-- A use of the object comes or goes and leaves the rest alone. -/
structure Recounts (before after : PciAttach) : Prop where
  same : ∃ ref pins files, after = { before with ref := ref, pins := pins, files := files }
  counted : after.ref = after.refs

theorem Built.recounts (built : Built given state)
    (recounts : Recounts state next) : Built given next := by
  obtain ⟨⟨ref, pins, files, rfl⟩, counted⟩ := recounts
  exact { built with ref := counted, kept := built.kept.congr rfl rfl }

theorem Torn.recounts (torn : Torn given state)
    (recounts : Recounts state next) : Torn given next := by
  obtain ⟨⟨ref, pins, files, rfl⟩, counted⟩ := recounts
  exact { torn with ref := counted, kept := torn.kept.congr rfl rfl }

theorem nodeAlive_files {type other : CdevType} (count : Nat) (different : other ≠ type) :
    nodeAlive { state with files := Function.update state.files type count } other =
      state.nodeAlive other := by
  simp [nodeAlive, different]

theorem recounts_enterNode (counted : state.ref = state.refs) {type : CdevType}
    (alive : state.nodeAlive type = true) : Recounts state (state.enterNode type) where
  same := ⟨state.ref, state.pins, _, rfl⟩
  counted := by
    have still : (state.enterNode type).nodeAlive type = true := by
      simp [nodeAlive, enterNode]
    have moved := refs_node state (state.enterNode type) type rfl rfl
      fun other different => nodeAlive_files _ different
    rw [alive, still, Nat.add_right_cancel_iff] at moved
    exact counted.trans moved.symm

theorem recounts_pin (counted : state.ref = state.refs) : Recounts state state.pin where
  same := ⟨state.ref + 1, state.pins + 1, state.files, rfl⟩
  counted := by
    have added : state.pin.refs = state.refs + 1 := by
      simp only [refs, pin, krefGet, nodeAlive]
      omega
    rw [added, ← counted]
    rfl

/-- A file goes: the node stays, or it drops a reference. -/
theorem leaveNode_cases (counted : state.ref = state.refs) {type : CdevType}
    (opened : 0 < state.files type) :
    Recounts state (state.leaveNode type) ∧ (state.leaveNode type).ref = state.ref ∨
      ∃ left : PciAttach, state.leaveNode type = left.mxPdevPut ∧ left.ref = left.refs + 1 ∧
        ∃ files, left = { state with files := files } := by
  have alive : state.nodeAlive type = true := by
    simp only [nodeAlive, Bool.or_eq_true, bne_iff_ne]
    exact .inr (by omega)
  have moved := refs_node state
    { state with files := Function.update state.files type (state.files type - 1) } type rfl rfl
    fun other different => nodeAlive_files _ different
  rw [alive] at moved
  rw [leaveNode]
  split
  · rename_i still
    rw [still, Nat.add_right_cancel_iff] at moved
    exact .inl ⟨⟨⟨state.ref, state.pins, _, rfl⟩, counted.trans moved.symm⟩, rfl⟩
  · rename_i released
    rw [Bool.not_eq_true] at released
    rw [released] at moved
    exact .inr ⟨_, rfl, counted.trans moved.symm, _, rfl⟩

theorem unpin_refs (counted : state.ref = state.refs) (pinned : 0 < state.pins) :
    state.ref = refs { state with pins := state.pins - 1 } + 1 := by
  rw [counted]
  simp only [refs, nodeAlive]
  omega

theorem recounts_put {left : PciAttach} (ownRef : state.ownRef = true)
    (same : ∃ pins files, left = { state with pins := pins, files := files })
    (counted : left.ref = left.refs + 1) : Recounts state left.mxPdevPut := by
  obtain ⟨pins, files, rfl⟩ := same
  rw [mxPdevPut_of_shared counted (refs_pos ownRef)]
  exact ⟨⟨_, pins, files, rfl⟩, rfl⟩

/-- The actions of those who use the object. -/
def uses : PciAction → Bool
  | .enterNode _ | .leaveNode _ | .pin | .unpin => true
  | .registerMbox _ | .detach _ => false

/-- As long as the attachment has its reference, no use takes the last one along. -/
theorem recounts_step (counted : state.ref = state.refs)
    (ownRef : state.ownRef = true) (use : uses action = true)
    (stepped : given.step state action = some next) : Recounts state next := by
  cases action with simp only [PciAttach.step, Option.ite_none_right_eq_some,
    Option.some.injEq] at stepped
  | registerMbox | detach => cases use
  | enterNode type =>
    obtain ⟨alive, rfl⟩ := stepped
    exact recounts_enterNode counted alive
  | leaveNode type =>
    obtain ⟨opened, rfl⟩ := stepped
    rcases leaveNode_cases counted opened with ⟨recounts, -⟩ | ⟨left, same, fewer, files, rfl⟩
    · exact recounts
    · rw [same]
      exact recounts_put ownRef ⟨state.pins, files, rfl⟩ fewer
  | pin =>
    obtain ⟨-, rfl⟩ := stepped
    exact recounts_pin counted
  | unpin =>
    obtain ⟨pinned, rfl⟩ := stepped
    exact recounts_put ownRef ⟨_, state.files, rfl⟩ (unpin_refs counted pinned)

/-- After the attachment the last use takes the object along. -/
theorem Left.use (left : Left given state) (inUse : state.InUse) (use : uses action = true)
    (stepped : given.step state action = some next) : Left given next := by
  have counted := inUse.ref
  have stays (recounts : Recounts state next) (used : 0 < next.refs) : Left given next := by
    obtain ⟨⟨ref, pins, files, rfl⟩, counted⟩ := recounts
    exact { left with
      kept := left.kept.congr rfl rfl
      object := .inl ⟨inUse.object, inUse.started, counted, used⟩ }
  have drops {fewer : PciAttach} (same : ∃ pins files,
      fewer = { state with pins := pins, files := files }) (counted : fewer.ref = fewer.refs + 1) :
      Left given fewer.mxPdevPut := by
    obtain ⟨pins, files, rfl⟩ := same
    exact Emptied.mxPdevPut { left.toEmptied with kept := left.kept.congr rfl rfl }
      inUse.object inUse.started left.unowned counted
  have used := inUse.used
  cases action with simp only [PciAttach.step, Option.ite_none_right_eq_some,
    Option.some.injEq] at stepped
  | registerMbox | detach => cases use
  | enterNode type =>
    obtain ⟨alive, rfl⟩ := stepped
    have recounts := recounts_enterNode counted alive
    exact stays recounts (recounts.counted ▸ counted ▸ used)
  | leaveNode type =>
    obtain ⟨opened, rfl⟩ := stepped
    rcases leaveNode_cases counted opened with
      ⟨recounts, sameRef⟩ | ⟨fewer, same, counted, files, rfl⟩
    · exact stays recounts (recounts.counted ▸ sameRef ▸ counted ▸ used)
    · rw [same]
      exact drops ⟨state.pins, files, rfl⟩ counted
  | pin =>
    obtain ⟨-, rfl⟩ := stepped
    have recounts := recounts_pin counted
    exact stays recounts (recounts.counted ▸ Nat.succ_pos _)
  | unpin =>
    obtain ⟨pinned, rfl⟩ := stepped
    exact drops ⟨_, state.files, rfl⟩ (unpin_refs counted pinned)

/-! ## Attach and detach -/

/-- Where a teardown leads to. -/
def Ended (given : PciCase) (safe : Bool) (ended : Bool × PciAttach) : Prop :=
  ended.1 = safe ∧
    if safe then Cleared given ended.2
    else Torn given ended.2 ∧ ended.2.protocolPoisoned = true

theorem Torn.finish (torn : Torn given state)
    (stopped : ∀ resource ∈ [PciResource.asyncWq, .submitThread, .completeThread],
      state.holdings.marks resource = false) :
    Cleared given (given.freeAll ((state.release .zombieCleanupThread).release .chrdevRegion)) := by
  refine ((torn.release rfl).release rfl).cleared fun resource listed => ?_
  by_cases early : resource ∈ [PciResource.asyncWq, .submitThread, .completeThread]
  · exact unmarked_release (unmarked_release (stopped resource early))
  · simp only [List.mem_cons, List.not_mem_nil, or_false, not_or] at listed early
    rcases listed with rfl | rfl | rfl | rfl | rfl
    · exact absurd rfl early.1
    · exact absurd rfl early.2.1
    · exact absurd rfl early.2.2
    · exact unmarked_release marks_release_self
    · exact marks_release_self

theorem Torn.stopProtocol (torn : Torn given state) (actualPciUnbind safe : Bool) :
    Ended given safe (state.stopProtocol given.revision given.answers actualPciUnbind safe) := by
  have stopped : Torn given
      (state.release .asyncWq).mxStopQueueThreads := ((torn.release rfl).release rfl).release rfl
  have quiet : ∀ resource ∈ [PciResource.asyncWq, .submitThread, .completeThread],
      (state.release .asyncWq).mxStopQueueThreads.holdings.marks resource = false := by
    intro resource listed
    simp only [List.mem_cons, List.not_mem_nil, or_false] at listed
    rcases listed with rfl | rfl | rfl
    · exact unmarked_release (unmarked_release marks_release_self)
    · exact unmarked_release marks_release_self
    · exact marks_release_self
  cases safe with
  | false =>
    have closed : Torn given
      ((state.release .asyncWq).mxStopQueueThreads.release .chrdevRegion) := stopped.release rfl
    exact ⟨rfl, { closed with kept := closed.kept.congr rfl rfl }, rfl⟩
  | true =>
    cases actualPciUnbind with
    | false => exact ⟨rfl, stopped.finish quiet⟩
    | true => exact ⟨rfl, stopped.fence.finish quiet⟩

/-- Only a real unbind clears the bus master bit. -/
theorem stopProtocol_fenced (safe : Bool) :
    (state.stopProtocol given.revision given.answers false safe).2.fenced = state.fenced := by
  cases safe with
  | false => rfl
  | true =>
    have freed (stopped : PciAttach) :
      Sheds given stopped (given.freeAll stopped) := sheds_freeAll
    exact (freed _).fenced

/-- Between the steps of a run: the device works, or its teardown waits for the real
unbind, or the attachment is over.  Mailboxes are registered in pairs. -/
def Settled (given : PciCase) (state : PciAttach) : Prop :=
  (Built given state ∧
      ∀ qid, state.holdings.marks (.cqMbox qid) = state.holdings.marks (.sqMbox qid)) ∨
    Torn given state ∧ state.protocolPoisoned = true ∨
    Left given state

theorem Ended.settled {safe : Bool} {ended : Bool × PciAttach} (ends : Ended given safe ended) :
    Settled given (if ended.1 then ended.2.mxdmaDropAttachment else ended.2) := by
  obtain ⟨result, left⟩ := ends
  rw [result]
  cases safe with
  | true => exact .inr (.inr (Cleared.mxdmaDropAttachment left))
  | false => exact .inr (.inl left)

theorem Built.destroyMxPdev (built : Built given state) (actualPciUnbind safe : Bool) :
    Ended given safe (given.destroyMxPdev state actualPciUnbind safe) := by
  rw [PciCase.destroyMxPdev, PciAttach.destroyMxPdev, if_neg (by simp [built.whole])]
  exact built.toStanding.startTeardown.1.stopProtocol actualPciUnbind safe

theorem Built.destroyMxPdev_fenced (built : Built given state)
    (safe : Bool) : (given.destroyMxPdev state false safe).2.fenced = false := by
  rw [PciCase.destroyMxPdev, PciAttach.destroyMxPdev, if_neg (by simp [built.whole])]
  exact (stopProtocol_fenced safe).trans
    (built.toStanding.startTeardown.2.trans built.unfenced)

theorem Torn.destroyMxPdev (torn : Torn given state)
    (poisoned : state.protocolPoisoned = true) (safe : Bool) :
    Ended given safe (given.destroyMxPdev state true safe) := by
  rw [PciCase.destroyMxPdev, PciAttach.destroyMxPdev, if_pos torn.started,
    if_neg (by simp [poisoned]), if_neg (by simp)]
  exact torn.stopProtocol true safe

theorem mxdmaDetachDevice_eq (safe : Bool) :
    state.mxdmaDetachDevice given.revision given.answers safe =
      if (given.destroyMxPdev state true safe).1 then
        (given.destroyMxPdev state true safe).2.mxdmaDropAttachment
      else (given.destroyMxPdev state true safe).2 := by
  rw [mxdmaDetachDevice, PciCase.destroyMxPdev]
  rcases state.destroyMxPdev given.revision given.answers true safe with ⟨result, left⟩
  cases result <;> rfl

theorem Built.registerMbox (built : Built given state)
    (paired : ∀ qid, state.holdings.marks (.cqMbox qid) = state.holdings.marks (.sqMbox qid))
    {qid : Nat} (small : qid < maxNumOfMbox) (free : state.holdings.marks (.sqMbox qid) = false) :
    Built given ((state.acquire (.sqMbox qid)).acquire (.cqMbox qid)) ∧
      ∀ other,
        ((state.acquire (.sqMbox qid)).acquire (.cqMbox qid)).holdings.marks (.cqMbox other) =
          ((state.acquire (.sqMbox qid)).acquire (.cqMbox qid)).holdings.marks (.sqMbox other) := by
  have possible : decide (qid < maxNumOfMbox) = true := decide_eq_true small
  have first : Built given (state.acquire (.sqMbox qid)) :=
    built.acquire free rfl possible
  have second : (state.acquire (.sqMbox qid)).holdings.marks (.cqMbox qid) = false :=
    (paired qid).trans free
  refine ⟨first.acquire second rfl possible, fun other => ?_⟩
  simp only [PciAttach.acquire, Holdings.acquire]
  by_cases same : other = qid
  · subst same
    simp [Function.update]
  · simp [Function.update, same, paired other]

theorem Settled.destroyMxPdev (settled : Settled given state)
    (ownRef : state.ownRef = true) (safe : Bool) :
    Ended given safe (given.destroyMxPdev state true safe) := by
  rcases settled with ⟨built, -⟩ | ⟨torn, poisoned⟩ | left
  · exact built.destroyMxPdev true safe
  · exact torn.destroyMxPdev poisoned safe
  · rw [left.unowned] at ownRef
    cases ownRef

theorem Recounts.frame (recounts : Recounts state next) :
    next.holdings = state.holdings ∧ next.protocolPoisoned = state.protocolPoisoned := by
  obtain ⟨⟨ref, pins, files, rfl⟩, -⟩ := recounts
  exact ⟨rfl, rfl⟩

theorem Gone.idle (gone : state.Gone) (use : uses action = true)
    (stepped : given.step state action = some next) : False := by
  have none := gone.unreferenced
  simp only [refs] at none
  have dead (type : CdevType) : state.nodeAlive type = false := by
    rw [← Bool.not_eq_true]
    intro alive
    cases type <;> simp only [alive, Bool.toNat_true] at none <;> omega
  cases action with simp only [PciAttach.step, Option.ite_none_right_eq_some] at stepped
  | registerMbox | detach => cases use
  | enterNode type => simp [dead type] at stepped
  | leaveNode type =>
    have closed := dead type
    simp only [nodeAlive, Bool.or_eq_false_iff, bne_eq_false_iff_eq] at closed
    omega
  | pin => simp [gone.unmarked] at stepped
  | unpin => omega

theorem Settled.use (settled : Settled given state) (use : uses action = true)
    (stepped : given.step state action = some next) : Settled given next := by
  rcases settled with ⟨built, paired⟩ | ⟨torn, poisoned⟩ | left
  · have recounts := recounts_step built.ref built.ownRef use stepped
    refine .inl ⟨built.recounts recounts, ?_⟩
    rw [recounts.frame.1]
    exact paired
  · have recounts := recounts_step torn.ref torn.ownRef use stepped
    exact .inr (.inl ⟨torn.recounts recounts, recounts.frame.2.trans poisoned⟩)
  · rcases left.object with inUse | gone
    · exact .inr (.inr (left.use inUse use stepped))
    · exact (gone.idle use stepped).elim

theorem Settled.step (settled : Settled given state)
    (stepped : given.step state action = some next) : Settled given next := by
  cases action with
  | registerMbox qid =>
    simp only [PciAttach.step] at stepped
    split_ifs at stepped with allowed
    cases stepped
    obtain ⟨object, whole, small, free⟩ := allowed
    rcases settled with ⟨built, paired⟩ | ⟨torn, -⟩ | left
    · exact .inl (built.registerMbox paired small free)
    · cases torn.started.symm.trans whole
    · rcases left.object with inUse | gone
      · cases inUse.started.symm.trans whole
      · cases (gone.unmarked _).symm.trans object
  | detach safe =>
    simp only [PciAttach.step] at stepped
    split_ifs at stepped with ownRef
    cases stepped
    rw [mxdmaDetachDevice_eq]
    exact (settled.destroyMxPdev ownRef safe).settled
  | enterNode | leaveNode | pin | unpin => exact settled.use rfl stepped

/-- Who refers to the object. -/
def Used (state : PciAttach) : Prop :=
  state.ownRef = true ∨ 0 < state.pins ∨ ∃ type, 0 < state.files type

theorem refs_pos_of_used (used : state.Used) : 0 < state.refs := by
  rcases used with ownRef | pinned | ⟨type, opened⟩
  · exact refs_pos ownRef
  · rw [refs]
    omega
  · have alive : state.nodeAlive type = true := by
      simp only [nodeAlive, Bool.or_eq_true, bne_iff_ne]
      exact .inr (by omega)
    cases type <;> simp only [refs, alive, Bool.toNat_true] <;> omega

/-- After the attachment there are files or pins as long as there is a reference. -/
theorem Left.used (left : Left given state) (used : 0 < state.refs) : state.Used := by
  have alive (type : CdevType) : state.nodeAlive type = (state.files type != 0) := by
    rw [nodeAlive, left.bare _ (by simp) (by simp) (by simp), Bool.false_or]
  by_contra unused
  simp only [Used, not_or, not_exists, Nat.not_lt, Nat.le_zero] at unused
  simp [refs, alive, left.unowned, unused.2.1, unused.2.2] at used

/-- The object is there as long as it is referred to, and no longer. -/
theorem Settled.object_iff (settled : Settled given state) :
    state.holdings.marks .object = true ↔ state.Used := by
  rcases settled with ⟨built, -⟩ | ⟨torn, -⟩ | left
  · exact iff_of_true built.object (.inl built.ownRef)
  · exact iff_of_true torn.object (.inl torn.ownRef)
  · rcases left.object with inUse | gone
    · exact iff_of_true inUse.object (left.used inUse.used)
    · refine iff_of_false (by simp [gone.unmarked]) fun used => ?_
      exact absurd gone.unreferenced (refs_pos_of_used used).ne'

theorem mxdmaDropAttachment_frame :
    state.mxdmaDropAttachment.ownRef = false ∧
      state.mxdmaDropAttachment.fenced = state.fenced := by
  rw [mxdmaDropAttachment, mxPdevPut]
  split <;> exact ⟨rfl, rfl⟩

/-- What an attach leaves: a device that works, or one whose teardown waits, or at most an
object that is in use. -/
theorem mxdmaAttachDevice_settled (given : PciCase) (safe : Bool) {ret : Ret} {left : PciAttach}
    (attached : (found given.initial).mxdmaAttachDevice given.build given.revision given.answers
      safe = (ret, left)) :
    Settled given left ∧
      (safe = true → ret ≠ none → left.ownRef = false ∧ left.fenced = false) := by
  have objectMade := @createObject_ends given
  rw [mxdmaAttachDevice] at attached
  rcases created : createObject given.answers (found given.initial) with ⟨result, first⟩
  rw [created] at objectMade attached
  cases result with
  | error error =>
    cases attached
    exact ⟨.inr (.inr objectMade.1), fun _ _ => ⟨objectMade.1.unowned, objectMade.2⟩⟩
  | ok _ =>
  have restMade := createRest_ends objectMade
  rcases completed : createRest given.build given.revision given.answers first with ⟨result, second⟩
  simp only [completed] at restMade attached
  cases result with
  | ok _ =>
    cases attached
    refine ⟨.inl ⟨Growing.built restMade, fun qid => ?_⟩, fun _ failed => absurd rfl failed⟩
    rw [Growing.free restMade (.cqMbox qid) le_rfl, Growing.free restMade (.sqMbox qid) le_rfl]
  | error error =>
  have built : Built given second := restMade
  obtain ⟨outcome, ended⟩ := built.destroyMxPdev false safe
  have unfenced := built.destroyMxPdev_fenced safe
  rcases destroyed : given.destroyMxPdev second false safe with ⟨result, third⟩
  simp only [destroyed] at outcome ended unfenced attached
  subst outcome
  cases result with
  | true =>
    cases attached
    exact ⟨.inr (.inr (Cleared.mxdmaDropAttachment ended)), fun _ _ =>
      ⟨mxdmaDropAttachment_frame.1, mxdmaDropAttachment_frame.2.trans unfenced⟩⟩
  | false =>
    cases attached
    exact ⟨.inr (.inl ended), by simp⟩

/-- What is known of an attachment that is over: everything but the object was given back,
and the settings were restored. -/
structure Over (given : PciCase) (state : PciAttach) : Prop where
  released : ∀ resource, resource ≠ .object → resource ≠ .ioRef → resource ≠ .barMap →
    state.holdings.ledger.held resource = 0
  restored : ∀ setting, setting.lost given.build state.fenced = false →
    state.pci.current setting = given.initial setting ∨
      restores given.answers setting (given.initial setting) = false
  masterOff : state.fenced = true → state.pci.current .busMaster = 0

theorem Left.isOver (left : Left given state) : Over given state where
  released resource object ref map :=
    left.balanced.held_eq_zero (left.bare resource object ref map)
  restored setting saved := (left.kept.restorable setting saved).current (left.unchanged setting)
  masterOff := left.kept.masterOff

/-- Wherever an attach fails and whenever the owner is unbound, in any order with the
registration of mailboxes, with files and with mappings: the fields of the object say what
is held, and nothing is given back twice.  A failed attach whose protocol was stopped drops
its reference and does not touch the bus master bit, and so does a detach, but for that bit,
which it clears.  Then everything but the object has been given back, and every setting is
as it was found, unless its restoration was refused; the standalone driver owns the function
and keeps its DMA settings.  The object is there exactly as long as the attachment, a file
or a pin refers to it, and when it is gone nothing is held. -/
theorem attach_undone (given : PciCase) (safe : Bool) {ret : Ret} {left state : PciAttach}
    (attached : (found given.initial).mxdmaAttachDevice given.build given.revision given.answers
      safe = (ret, left)) (reached : Reached given.step left state) :
    (safe = true → ret ≠ none → left.ownRef = false ∧ left.fenced = false) ∧
      state.holdings.Balanced ∧
      (∀ next, given.step state (.detach true) = some next →
        next.ownRef = false) ∧
      (state.ownRef = false → Over given state) ∧
      (state.holdings.marks .object = true ↔ state.Used) ∧
      (state.holdings.marks .object = false →
        ∀ resource, state.holdings.ledger.held resource = 0) := by
  obtain ⟨first, failed⟩ := mxdmaAttachDevice_settled given safe attached
  have settled : Settled given state :=
    reached.invariant first fun _ _ _ settled _ stepped => settled.step stepped
  refine ⟨failed, ?_, fun next stepped => ?_, fun unowned => ?_, settled.object_iff,
    fun noObject => ?_⟩
  · rcases settled with ⟨built, -⟩ | ⟨torn, -⟩ | left
    · exact built.balanced
    · exact torn.balanced
    · exact left.balanced
  · simp only [PciAttach.step] at stepped
    split_ifs at stepped with ownRef
    cases stepped
    obtain ⟨result, cleared⟩ := settled.destroyMxPdev ownRef true
    rw [mxdmaDetachDevice_eq, result]
    exact mxdmaDropAttachment_frame.1
  · rcases settled with ⟨built, -⟩ | ⟨torn, -⟩ | left
    · cases built.ownRef.symm.trans unowned
    · cases torn.ownRef.symm.trans unowned
    · exact left.isOver
  · rcases settled with ⟨built, -⟩ | ⟨torn, -⟩ | left
    · cases built.object.symm.trans noObject
    · cases torn.object.symm.trans noObject
    · rcases left.object with inUse | gone
      · cases inUse.object.symm.trans noObject
      · exact fun resource => left.balanced.held_eq_zero (gone.unmarked resource)

/-- A kernel that grants everything. -/
def grantingKernel : PciAnswers where
  kzalloc := true
  percpuRefInit := none
  mxBarMapAlloc := true
  allocChrdevRegion := none
  pciRequestRegion := none
  pciIomap := true
  pciEnableDeviceMem := none
  pcieGetReadrq := none
  set := fun _ _ => none
  pciEnableMsi := none
  pciIrqVector := true
  requestIrq := none
  allocQueue := fun _ => true
  allocCqes := fun _ => true
  allocSqes := fun _ => true
  sqContext := true
  cqContext := true
  createIoQueue := none
  submitThread := none
  completeThread := none
  allocWorkqueue := true
  zombieCleanupThread := none
  dmaPoolCreate := true
  devSetName := fun _ => none
  cdevDeviceAdd := fun _ => none
  opened := fun _ => 0

/-- A function as its CXL driver may have set it up. -/
def cxlSettings : PciSetting → Nat
  | .enabled => 1
  | .readrq => 512
  | .busMaster => 1
  | .msi => 0
  | .dmaMask => dmaBitMask 64
  | .coherentDmaMask => dmaBitMask 32
  | .maxSegSize => 2 ^ 31
  | .minAlignMask => 0

/-- The device as it is attached to that function. -/
def cxlAttach : PciAttach :=
  ((found cxlSettings).mxdmaAttachDevice .overlay .v2 grantingKernel true).2

/-- A file is open on the control node.  The first unbind cannot stop the protocol, the
second can, and then the file is closed. -/
def secondUnbind : List PciAction :=
  [.registerMbox 3, .enterNode .ioctl, .pin, .detach false, .detach true, .leaveNode .ioctl,
    .unpin]

set_option maxRecDepth 2000 in
theorem attach_undone_secondUnbind :
    ∃ inUse state,
      cxlAttach.pci.current .readrq = pageSize ∧ cxlAttach.holdings.ledger.held .irq = 1 ∧
      runActions (step .v2 grantingKernel) cxlAttach (secondUnbind.take 5) = some inUse ∧
      inUse.holdings.ledger.held .irq = 0 ∧ inUse.holdings.marks .object = true ∧
      runActions (step .v2 grantingKernel) cxlAttach secondUnbind = some state ∧
      (∀ resource, state.holdings.ledger.held resource = 0) ∧
      (state.pci.current .readrq = 512 ∨ restores grantingKernel .readrq 512 = false) := by
  have attached : (found cxlSettings).mxdmaAttachDevice .overlay .v2 grantingKernel true =
    (none, cxlAttach) := rfl
  have used : runActions (step .v2 grantingKernel) cxlAttach (secondUnbind.take 5) = some _ := rfl
  have ran : runActions (step .v2 grantingKernel) cxlAttach secondUnbind = some _ := rfl
  have inUse := attach_undone ⟨.overlay, .v2, grantingKernel, cxlSettings⟩ true attached
    (reached_of_runActions used)
  have undone := attach_undone ⟨.overlay, .v2, grantingKernel, cxlSettings⟩ true attached
    (reached_of_runActions ran)
  exact ⟨_, _, rfl, rfl, used,
    (inUse.2.2.2.1 (by decide +kernel)).released .irq (by simp) (by simp) (by simp),
    inUse.2.2.2.2.1.mpr (.inr (.inl (by decide +kernel))), ran,
    undone.2.2.2.2.2 (by decide +kernel),
    (undone.2.2.2.1 (by decide +kernel)).restored .readrq (by decide +kernel)⟩

end PciAttach

end MxDriver
