import MxDriver.DeviceRegistry

/-!
# One object a device, and what it pins

The lock of a device makes the test of an attach last until its object is registered, so
that no device gets a second one.  Every object holds one reference on its device and one
on the module from before it is created until it is dropped, also while a call has it in
hand.
-/

namespace MxDriver

variable {δ : Type*}

namespace RegistryCall

/-- The object that the call has in hand. -/
def attachment? : RegistryCall δ → Option (MxAttachment δ)
  | .undoing attachment _ | .detaching attachment | .adding attachment _ => some attachment
  | .idle | .attaching | .checked _ | .identified _ | .pinned | .removing | .returned _ => none

/-- The call holds a reference on the module. -/
def pinsModule : RegistryCall δ → Bool
  | .pinned | .undoing _ _ | .detaching _ | .adding _ _ => true
  | .idle | .attaching | .checked _ | .identified _ | .removing | .returned _ => false

/-- The call goes on from the knowledge that no object of the device is registered. -/
def alone : RegistryCall δ → Bool
  | .checked _ | .identified _ | .pinned | .undoing _ _ | .detaching _ | .adding _ _ => true
  | .idle | .attaching | .removing | .returned _ => false

end RegistryCall

/-- An object of the device that holds both references. -/
def MxAttachment.Pins (attachment : MxAttachment δ) (pdev : δ) : Prop :=
  attachment.pdev = pdev ∧ attachment.moduleRefHeld = true ∧ attachment.pciRefHeld = true

/-- What the call has in hand is its device's; what a detach puts back has the mark. -/
def RegistryCall.HandOk (call : RegistryCall δ) (pdev : δ) : Prop :=
  ∀ attachment ∈ call.attachment?, attachment.Pins pdev ∧
    (call = .adding attachment none → attachment.protocolPoisoned = true)

namespace RegistrySystem

variable [DecidableEq δ]

/-- The objects of a device. -/
def objectsOf (system : RegistrySystem δ) (pdev : δ) : Nat :=
  system.registry.countP (fun attachment => attachment.pdev = pdev) +
    (system.call pdev).attachment?.toList.length

/-- The objects and the calls that hold a reference on the module. -/
def modulePins [Fintype δ] (system : RegistrySystem δ) : Nat :=
  system.registry.length + tally (fun call => call.pinsModule = true) system.call

/-- The devices with a registered object. -/
def devices (system : RegistrySystem δ) : List δ := system.registry.map MxAttachment.pdev

structure Ok [Fintype δ] (system : RegistrySystem δ) : Prop where
  nodup : system.devices.Nodup
  registered : ∀ attachment ∈ system.registry, attachment.Pins attachment.pdev
  inHand : ∀ pdev, (system.call pdev).HandOk pdev
  alone : ∀ pdev, (system.call pdev).alone = true → pdev ∉ system.devices
  moduleRefs : system.moduleRefs = system.modulePins
  pciRefs : ∀ pdev, system.pciRefs pdev = system.objectsOf pdev
  busy : ∀ pdev, (system.call pdev).free = false → system.bound pdev = true
  unbound : system.phase ≠ .unregistered → ∀ attachment ∈ system.registry,
    system.bound attachment.pdev = false → attachment.protocolPoisoned = true

variable [Fintype δ] {system next : RegistrySystem δ} {pdev : δ}

theorem ok_start (bound : δ → Bool) : (start bound).Ok where
  nodup := List.nodup_nil
  registered := by simp [start]
  inHand := by simp [start, RegistryCall.HandOk, RegistryCall.attachment?]
  alone := by simp [start, RegistryCall.alone]
  moduleRefs := by simp [start, modulePins, tally, RegistryCall.pinsModule]
  pciRefs := by simp [start, objectsOf, RegistryCall.attachment?]
  busy := by simp [start, RegistryCall.free]
  unbound := by simp [start]

/-! ## One call -/

omit [Fintype δ] in
theorem forall_setCall (property : δ → RegistryCall δ → Prop) {call : RegistryCall δ}
    (here : property pdev call) (others : ∀ other, property other (system.call other)) (other : δ) :
    property other ((system.setCall pdev call).call other) :=
  (Function.forall_update_iff system.call property).mpr ⟨here, fun other _ => others other⟩ other

theorem modulePins_setCall (system : RegistrySystem δ) (pdev : δ) (call : RegistryCall δ) :
    (system.setCall pdev call).modulePins + (system.call pdev).pinsModule.toNat =
      system.modulePins + call.pinsModule.toNat := by
  have moved := tally_update (fun call => call.pinsModule = true) system.call pdev call
  simp only [modulePins, setCall, Bool.toNat] at moved ⊢
  cases before : (system.call pdev).pinsModule <;> cases after : call.pinsModule <;>
    simp [before, after] at moved ⊢ <;> omega

omit [Fintype δ] in
theorem objectsOf_setCall (system : RegistrySystem δ) (pdev : δ) (call : RegistryCall δ) :
    (system.setCall pdev call).objectsOf pdev +
        (system.call pdev).attachment?.toList.length =
      system.objectsOf pdev + call.attachment?.toList.length := by
  simp only [objectsOf, setCall, Function.update_self]
  omega

omit [Fintype δ] in
theorem objectsOf_setCall_of_ne {other : δ} (different : other ≠ pdev) (call : RegistryCall δ) :
    (system.setCall pdev call).objectsOf other = system.objectsOf other := by
  simp only [objectsOf, setCall, Function.update_of_ne different]

theorem Ok.move (ok : system.Ok) {call : RegistryCall δ} {moduleRefs : Nat} {pciRefs : δ → Nat}
    (inHand : call.HandOk pdev) (alone : call.alone = true → pdev ∉ system.devices)
    (busy : call.free = false → system.bound pdev = true)
    (pins : moduleRefs + (system.call pdev).pinsModule.toNat =
      system.moduleRefs + call.pinsModule.toNat)
    (counts : pciRefs pdev + (system.call pdev).attachment?.toList.length =
      system.pciRefs pdev + call.attachment?.toList.length)
    (others : ∀ other, other ≠ pdev → pciRefs other = system.pciRefs other) :
    Ok { system.setCall pdev call with moduleRefs := moduleRefs, pciRefs := pciRefs } := by
  refine { ok with
    inHand := forall_setCall (fun other call => call.HandOk other) inHand ok.inHand
    alone := forall_setCall (fun other call =>
      call.alone = true → other ∉ system.devices) alone ok.alone
    moduleRefs := ?_
    pciRefs := fun other => ?_
    busy := forall_setCall (fun other call =>
      call.free = false → system.bound other = true) busy ok.busy }
  · have moved := modulePins_setCall system pdev call
    have before := ok.moduleRefs
    change moduleRefs = (system.setCall pdev call).modulePins
    omega
  · change pciRefs other = (system.setCall pdev call).objectsOf other
    have before := ok.pciRefs other
    by_cases here : other = pdev
    · subst here
      have moved := objectsOf_setCall system other call
      omega
    · rw [others other here, objectsOf_setCall_of_ne here]
      exact before

theorem Ok.goOn (ok : system.Ok) {call : RegistryCall δ} (inHand : call.HandOk pdev)
    (alone : call.alone = true → pdev ∉ system.devices)
    (busy : call.free = false → system.bound pdev = true)
    (pins : call.pinsModule = (system.call pdev).pinsModule)
    (same : call.attachment?.toList.length = (system.call pdev).attachment?.toList.length) :
    (system.setCall pdev call).Ok :=
  ok.move inHand alone busy (by rw [pins]) (by rw [same]) fun _ _ => rfl

theorem Ok.begin {call : RegistryCall δ} (ok : system.Ok) (free : (system.call pdev).free = true)
    (begins : call = .attaching ∨ call = .removing) (running : system.bound pdev = true) :
    (system.setCall pdev call).Ok := by
  have nothing : (system.call pdev).pinsModule = false ∧
      (system.call pdev).attachment? = none := by
    cases stage : system.call pdev <;>
      simp [stage, RegistryCall.free, RegistryCall.pinsModule, RegistryCall.attachment?] at free ⊢
  have fresh : call.pinsModule = false ∧ call.attachment? = none ∧ call.alone = false := by
    rcases begins with rfl | rfl <;> exact ⟨rfl, rfl, rfl⟩
  apply ok.goOn <;> simp [nothing, fresh, running, RegistryCall.HandOk]

theorem Ok.leave {call : RegistryCall δ} (ok : system.Ok)
    (nothing : (system.call pdev).pinsModule = false ∧ (system.call pdev).attachment? = none)
    (ends : call = .idle ∨ ∃ result, call = .returned result) : (system.setCall pdev call).Ok := by
  have fresh : call.pinsModule = false ∧ call.attachment? = none ∧ call.alone = false ∧
      call.free = true := by
    rcases ends with rfl | ⟨result, rfl⟩ <;> exact ⟨rfl, rfl, rfl, rfl⟩
  apply ok.goOn <;> simp [nothing, fresh, RegistryCall.HandOk]

omit [Fintype δ] in
theorem mxdmaDropAttachment_of_pins {attachment : MxAttachment δ} (pins : attachment.Pins pdev) :
    system.mxdmaDropAttachment pdev attachment =
      { system with
        pciRefs := Function.update system.pciRefs pdev (system.pciRefs pdev - 1)
        moduleRefs := system.moduleRefs - 1 } := by
  rw [mxdmaDropAttachment, pins.2.1, pins.2.2, if_pos rfl, if_pos rfl]

theorem Ok.drop {attachment : MxAttachment δ} {call : RegistryCall δ} (ok : system.Ok)
    (inHand : (system.call pdev).attachment? = some attachment)
    (ends : call = .idle ∨ ∃ result, call = .returned result) :
    ((system.mxdmaDropAttachment pdev attachment).setCall pdev call).Ok := by
  have pins : attachment.Pins pdev := (ok.inHand pdev attachment inHand).1
  have held : (system.call pdev).pinsModule = true := by
    cases stage : system.call pdev <;>
      simp [stage, RegistryCall.attachment?, RegistryCall.pinsModule] at inHand ⊢
  have nothing : call.attachment? = none ∧ call.pinsModule = false ∧ call.alone = false ∧
      call.free = true := by
    rcases ends with rfl | ⟨result, rfl⟩ <;> exact ⟨rfl, rfl, rfl, rfl⟩
  have positive : 0 < system.pciRefs pdev := by
    rw [ok.pciRefs, objectsOf, inHand]
    exact Nat.succ_pos _
  have counted : 0 < system.moduleRefs := by
    rw [ok.moduleRefs, modulePins]
    have := tally_pos (p := fun call : RegistryCall δ => call.pinsModule = true) held
    omega
  rw [mxdmaDropAttachment_of_pins pins]
  apply ok.move
  case pins =>
    simp only [held, nothing.2.1, Bool.toNat_true, Bool.toNat_false]
    omega
  case counts =>
    simp only [inHand, nothing.1, Function.update_self, Option.toList_some, Option.toList_none,
      List.length_singleton, List.length_nil]
    omega
  case others => exact fun other different => Function.update_of_ne different ..
  all_goals simp [RegistryCall.HandOk, nothing]

theorem Ok.setUnbound (ok : system.Ok) (free : (system.call pdev).free = true)
    (poisoned : system.phase ≠ .unregistered → ∀ attachment ∈ system.registry,
      attachment.pdev = pdev → attachment.protocolPoisoned = true) :
    (system.setUnbound pdev).Ok := by
  refine { ok with
    busy := fun other running => ?_, unbound := fun loaded attachment member gone => ?_ }
  · have different : other ≠ pdev := by
      rintro rfl
      exact absurd (free.symm.trans running) (by simp)
    exact (Function.update_of_ne different ..).trans (ok.busy other running)
  · by_cases here : attachment.pdev = pdev
    · exact poisoned loaded attachment member here
    · exact ok.unbound loaded attachment member ((Function.update_of_ne here ..).symm.trans gone)

/-! ## The list -/

omit [DecidableEq δ] [Fintype δ] in
theorem mem_devices : pdev ∈ system.devices ↔
    ∃ attachment ∈ system.registry, attachment.pdev = pdev := by
  simp [devices]

section Steps

variable (ok : system.Ok)
include ok

theorem Ok.claim {attachment : MxAttachment δ} (removing : system.call pdev = .removing)
    (found : system.mxdmaFindDeviceLocked pdev = some attachment) :
    Ok { system.setCall pdev (.detaching attachment) with
      registry := system.registry.erase attachment } := by
  have member : attachment ∈ system.registry := List.mem_of_find?_eq_some found
  have same : attachment.pdev = pdev := by simpa using List.find?_some found
  have split := List.perm_cons_erase member
  have nodup := (split.map MxAttachment.pdev).nodup_iff.mp ok.nodup
  rw [List.map_cons, List.nodup_cons, same] at nodup
  have fewer : ∀ other ∈ system.registry.erase attachment, other ∈ system.registry :=
    fun other => List.mem_of_mem_erase
  refine { ok with
    nodup := nodup.2
    registered := fun other still => ok.registered other (fewer other still)
    inHand := forall_setCall (fun other call => call.HandOk other) ?_ ok.inHand
    alone := forall_setCall (fun other call => call.alone = true →
      other ∉ (system.registry.erase attachment).map MxAttachment.pdev) (fun _ => nodup.1) ?_
    moduleRefs := ?_
    pciRefs := fun other => ?_
    busy := forall_setCall (fun other call =>
      call.free = false → system.bound other = true) (fun _ => ok.busy pdev (by rw [removing]; rfl))
      ok.busy
    unbound := fun loaded other still => ok.unbound loaded other (fewer other still) }
  · rintro _ ⟨⟩
    exact ⟨same ▸ ok.registered attachment member, by simp⟩
  · intro other running there
    obtain ⟨object, still, device⟩ := List.mem_map.mp there
    exact ok.alone other running (mem_devices.mpr ⟨object, fewer object still, device⟩)
  · have moved := modulePins_setCall system pdev (.detaching attachment)
    have before := ok.moduleRefs
    have length := split.length_eq
    simp only [modulePins, removing, RegistryCall.pinsModule, Bool.toNat_true, Bool.toNat_false,
      setCall, List.length_cons] at moved before length ⊢
    omega
  · have before := ok.pciRefs other
    have counted := split.countP_eq fun attachment => decide (attachment.pdev = other)
    rw [List.countP_cons, same] at counted
    by_cases here : other = pdev
    · subst here
      simp only [objectsOf, removing, RegistryCall.attachment?, setCall, Function.update_self,
        Option.toList_some, Option.toList_none, List.length_nil, List.length_singleton,
        decide_true, if_true] at before counted ⊢
      omega
    · simp only [objectsOf, setCall, Function.update_of_ne here, Ne.symm here, decide_false,
        Bool.false_eq_true, if_false] at before counted ⊢
      omega

theorem Ok.add {attachment : MxAttachment δ} {result : Option AttachRet} {call : RegistryCall δ}
    (adding : system.call pdev = .adding attachment result)
    (ends : call = .idle ∨ ∃ result, call = .returned result) :
    Ok { system.setCall pdev call with registry := system.registry ++ [attachment] } := by
  have inHand : (system.call pdev).attachment? = some attachment := by rw [adding]; rfl
  have held : (system.call pdev).pinsModule = true := by rw [adding]; rfl
  have pins : attachment.Pins pdev := (ok.inHand pdev attachment inHand).1
  have absent : pdev ∉ system.devices := ok.alone pdev (by rw [adding]; rfl)
  have nothing : call.attachment? = none ∧ call.pinsModule = false ∧ call.alone = false ∧
      call.free = true := by
    rcases ends with rfl | ⟨result, rfl⟩ <;> exact ⟨rfl, rfl, rfl, rfl⟩
  refine { ok with
    nodup := ?_
    registered := ?_
    inHand := forall_setCall (fun other call => call.HandOk other)
      (by simp [RegistryCall.HandOk, nothing.1]) ok.inHand
    alone := fun other running => ?_
    moduleRefs := ?_
    pciRefs := fun other => ?_
    busy := forall_setCall (fun other call =>
      call.free = false → system.bound other = true) (by simp [nothing.2.2.2]) ok.busy
    unbound := fun loaded other there => ?_ }
  · rw [devices, List.map_append, List.map_singleton, pins.1]
    exact List.nodup_append.mpr ⟨ok.nodup, List.nodup_singleton _, by
      rintro other member _ last rfl
      exact absent (List.mem_singleton.mp last ▸ member)⟩
  · intro other there
    rcases List.mem_append.mp there with there | last
    · exact ok.registered other there
    · rw [List.mem_singleton.mp last, pins.1]
      exact pins
  · -- a call that relies on its device not being registered is for another device
    have different : other ≠ pdev := by
      rintro rfl
      simp [setCall, nothing.2.2.1] at running
    have before := ok.alone other (by simpa [setCall, different] using running)
    rw [devices, List.map_append, List.map_singleton, pins.1, List.mem_append,
      List.mem_singleton, not_or]
    exact ⟨before, different⟩
  · have moved := modulePins_setCall system pdev call
    have before := ok.moduleRefs
    simp only [modulePins, held, nothing.2.1, Bool.toNat_true, Bool.toNat_false, setCall,
      List.length_append, List.length_singleton] at moved before ⊢
    omega
  · have before := ok.pciRefs other
    by_cases here : other = pdev
    · subst here
      simp only [objectsOf, inHand, setCall, Function.update_self, nothing.1,
        Option.toList_some, Option.toList_none, List.length_nil, List.length_singleton,
        List.countP_append, List.countP_singleton, pins.1, decide_true, if_true] at before ⊢
      omega
    · simp only [objectsOf, setCall, Function.update_of_ne here, List.countP_append,
        List.countP_singleton, pins.1, Ne.symm here, decide_false, Bool.false_eq_true,
        if_false] at before ⊢
      omega
  · intro gone
    rcases List.mem_append.mp there with there | last
    · exact ok.unbound loaded other there gone
    · have running := ok.busy pdev (by rw [adding]; rfl)
      rw [List.mem_singleton.mp last, pins.1] at gone
      exact absurd (running.symm.trans gone) (by simp)

/-! ## The steps -/

theorem Ok.find (stepped : system.find pdev = some next) : next.Ok := by
  unfold RegistrySystem.find at stepped
  split at stepped
  · rename_i attaching
    have running := ok.busy pdev (by rw [attaching]; rfl)
    have nothing : (system.call pdev).pinsModule = false ∧
      (system.call pdev).attachment? = none := by rw [attaching]; exact ⟨rfl, rfl⟩
    split at stepped
    · obtain rfl := Option.some.inj stepped
      exact ok.leave nothing (.inr ⟨_, rfl⟩)
    split at stepped <;> obtain rfl := Option.some.inj stepped
    · exact ok.leave nothing (.inr ⟨_, rfl⟩)
    · rename_i missing
      apply ok.goOn
      case alone =>
        intro _ there
        obtain ⟨attachment, member, same⟩ := mem_devices.mp there
        have absent := List.find?_eq_none.mp missing attachment member
        simp [same] at absent
      case busy => exact fun _ => running
      all_goals simp [attaching, RegistryCall.HandOk, RegistryCall.attachment?,
        RegistryCall.pinsModule]
  · rename_i removing
    split at stepped <;> obtain rfl := Option.some.inj stepped
    · rename_i missing
      have done : (system.setCall pdev .idle).Ok :=
        ok.leave (by rw [removing]; exact ⟨rfl, rfl⟩) (.inl rfl)
      apply done.setUnbound
      · simp [RegistrySystem.setCall, RegistryCall.free]
      · intro _ attachment member same
        have absent := List.find?_eq_none.mp missing attachment member
        simp [same] at absent
    · rename_i found
      exact ok.claim removing found
  · cases stepped

theorem Ok.identify {found : Option Errno}
    (stepped : system.identify pdev found = some next) : next.Ok := by
  unfold RegistrySystem.identify at stepped
  split at stepped
  · rename_i checked
    have running := ok.busy pdev (by rw [checked]; rfl)
    have absent := ok.alone pdev (by rw [checked]; rfl)
    split at stepped <;> obtain rfl := Option.some.inj stepped
    · exact ok.leave (by rw [checked]; exact ⟨rfl, rfl⟩) (.inr ⟨_, rfl⟩)
    · apply ok.goOn <;> simp [checked, running, absent, RegistryCall.HandOk,
        RegistryCall.attachment?, RegistryCall.pinsModule]
  · cases stepped

theorem Ok.pin (stepped : system.pin pdev = some next) : next.Ok := by
  unfold RegistrySystem.pin at stepped
  split at stepped
  · rename_i identified
    have running := ok.busy pdev (by rw [identified]; rfl)
    have absent := ok.alone pdev (by rw [identified]; rfl)
    split at stepped <;> obtain rfl := Option.some.inj stepped
    · apply ok.move <;> simp [identified, running, absent, RegistryCall.HandOk,
        RegistryCall.attachment?, RegistryCall.pinsModule, RegistrySystem.setCall]
    · exact ok.leave (by rw [identified]; exact ⟨rfl, rfl⟩) (.inr ⟨_, rfl⟩)
  · cases stepped

theorem Ok.create {outcome : CreateOutcome}
    (stepped : system.create pdev outcome = some next) : next.Ok := by
  unfold RegistrySystem.create at stepped
  split at stepped
  · rename_i pinned
    have running := ok.busy pdev (by rw [pinned]; rfl)
    have absent := ok.alone pdev (by rw [pinned]; rfl)
    have held : (system.call pdev).pinsModule = true := by rw [pinned]; rfl
    have positive := tally_pos (p := fun call : RegistryCall δ => call.pinsModule = true) held
    have before := ok.moduleRefs
    rw [modulePins] at before
    have gets {call : RegistryCall δ} {attachment : MxAttachment δ}
        (inHand : call.HandOk pdev) (has : call.attachment? = some attachment)
        (pins : call.pinsModule = true) : Ok { system.setCall pdev call with
          pciRefs := Function.update system.pciRefs pdev (system.pciRefs pdev + 1) } := by
      apply ok.move inHand (fun _ => absent) (fun _ => running)
      case others => exact fun other different => Function.update_of_ne different ..
      case pins =>
        rw [pins, held]
        rfl
      case counts =>
        have none : (system.call pdev).attachment? = none := by rw [pinned]; rfl
        simp [has, none]
    cases outcome with
    | noObject error =>
      obtain rfl := Option.some.inj stepped
      apply ok.move
      case pins =>
        simp only [pinned, RegistryCall.pinsModule, Bool.toNat_true, Bool.toNat_false]
        omega
      all_goals simp [pinned, RegistryCall.HandOk, RegistryCall.attachment?,
        RegistryCall.alone, RegistryCall.free, RegistrySystem.setCall]
    | failed error poisoned =>
      obtain rfl := Option.some.inj stepped
      exact gets (by simp [RegistryCall.HandOk, RegistryCall.attachment?, MxAttachment.Pins])
        rfl rfl
    | created =>
      obtain rfl := Option.some.inj stepped
      exact gets (by simp [RegistryCall.HandOk, RegistryCall.attachment?, MxAttachment.Pins])
        rfl rfl
  · cases stepped

/-- A teardown that fails keeps the object in hand, with its mark. -/
theorem Ok.keep {attachment : MxAttachment δ} {result : Option AttachRet}
    (inHand : (system.call pdev).attachment? = some attachment) :
    (system.setCall pdev (.adding { attachment with protocolPoisoned := true } result)).Ok := by
  have pins : attachment.Pins pdev := (ok.inHand pdev attachment inHand).1
  have marks : (system.call pdev).pinsModule = true ∧ (system.call pdev).alone = true ∧
      (system.call pdev).free = false := by
    cases stage : system.call pdev <;>
      simp [stage, RegistryCall.attachment?, RegistryCall.pinsModule, RegistryCall.alone,
        RegistryCall.free] at inHand ⊢
  apply ok.goOn
  · rintro _ ⟨⟩
    exact ⟨pins, fun _ => rfl⟩
  · exact fun _ => ok.alone pdev marks.2.1
  · exact fun _ => ok.busy pdev marks.2.2
  · rw [marks.1]
    rfl
  · rw [inHand]
    rfl

theorem Ok.destroy {safe : Bool} (stepped : system.destroy pdev safe = some next) : next.Ok := by
  unfold RegistrySystem.destroy at stepped
  split at stepped
  · rename_i undoing
    split at stepped <;> obtain rfl := Option.some.inj stepped
    · exact ok.drop (by rw [undoing]; rfl) (.inr ⟨_, rfl⟩)
    · exact ok.keep (by rw [undoing]; rfl)
  · rename_i detaching
    split at stepped <;> obtain rfl := Option.some.inj stepped
    · have absent := ok.alone pdev (by rw [detaching]; rfl)
      apply (ok.drop (by rw [detaching]; rfl) (.inl rfl)).setUnbound
      · simp [RegistrySystem.setCall, RegistryCall.free]
      · exact fun _ attachment member same =>
          absurd (mem_devices.mpr ⟨attachment, member, same⟩) absent
    · exact ok.keep (by rw [detaching]; rfl)
  · cases stepped

theorem Ok.addStep (stepped : system.add pdev = some next) : next.Ok := by
  unfold RegistrySystem.add at stepped
  split at stepped
  · rename_i attachment result adding
    cases result with
    | some result =>
      obtain rfl := Option.some.inj stepped
      exact ok.add adding (.inr ⟨result, rfl⟩)
    | none =>
      obtain rfl := Option.some.inj stepped
      have absent := ok.alone pdev (by rw [adding]; rfl)
      apply (ok.add adding (.inl rfl)).setUnbound
      · simp [RegistrySystem.setCall, RegistryCall.free]
      · intro _ other there same
        rcases List.mem_append.mp there with there | last
        · exact absurd (mem_devices.mpr ⟨other, there, same⟩) absent
        · rw [List.mem_singleton.mp last]
          exact (ok.inHand pdev attachment (by rw [adding]; rfl)).2 adding
  · cases stepped

theorem ok_step {action : RegistryAction δ}
    (stepped : registryStep system action = some next) : next.Ok := by
  cases action with
  | bind pdev =>
    simp only [registryStep, Option.ite_none_right_eq_some] at stepped
    obtain ⟨⟨-, free⟩, stepped⟩ := stepped
    have bound : Ok { system with bound := Function.update system.bound pdev true } := by
      refine { ok with
        busy := fun other running => ?_, unbound := fun loaded other member gone => ?_ }
      · by_cases here : other = pdev
        · exact here ▸ Function.update_self ..
        · exact (Function.update_of_ne here ..).trans (ok.busy other running)
      · apply ok.unbound loaded other member
        by_cases here : other.pdev = pdev
        · simp [here] at gone
        · exact (Function.update_of_ne here ..).symm.trans gone
    split at stepped <;> obtain rfl := Option.some.inj stepped
    · exact bound
    · exact bound.begin free (.inl rfl) (Function.update_self ..)
  | enumerate pdev =>
    simp only [registryStep, Option.ite_none_right_eq_some, Option.some.injEq] at stepped
    obtain ⟨⟨-, running, free⟩, rfl⟩ := stepped
    exact ok.begin free (.inl rfl) running
  | unbind pdev =>
    simp only [registryStep, Option.ite_none_right_eq_some] at stepped
    obtain ⟨⟨running, free⟩, stepped⟩ := stepped
    split at stepped <;> obtain rfl := Option.some.inj stepped
    · rename_i unloaded
      exact ok.setUnbound free fun loaded => absurd unloaded loaded
    · exact ok.begin free (.inr rfl) running
  | find pdev => exact ok.find stepped
  | identify pdev found => exact ok.identify stepped
  | pin pdev => exact ok.pin stepped
  | create pdev outcome => exact ok.create stepped
  | destroy pdev safe => exact ok.destroy stepped
  | add pdev => exact ok.addStep stepped
  | initDone | unload | close =>
    simp only [registryStep, Option.ite_none_right_eq_some, Option.some.injEq] at stepped
    obtain ⟨now, rfl⟩ := stepped
    exact { ok with unbound := fun _ => ok.unbound (by simp [now]) }
  | unregister =>
    simp only [registryStep, Option.ite_none_right_eq_some, Option.some.injEq] at stepped
    obtain ⟨-, rfl⟩ := stepped
    exact { ok with unbound := fun loaded => absurd rfl loaded }

end Steps

theorem ok_of_reached {bound : δ → Bool} (reached : Reached registryStep (start bound) system) :
    system.Ok :=
  reached.invariant (ok_start bound) fun _ _ _ ok _ stepped => ok_step ok stepped

theorem Ok.objectsOf_le_one (ok : system.Ok) (pdev : δ) : system.objectsOf pdev ≤ 1 := by
  have listed : system.registry.countP (fun attachment => attachment.pdev = pdev) =
      system.devices.count pdev := by
    rw [devices, List.count, List.countP_map]
    exact List.countP_congr fun attachment _ => by simp
  have once := List.nodup_iff_count_le_one.mp ok.nodup pdev
  rw [objectsOf, listed]
  cases inHand : (system.call pdev).attachment? with
  | none => simpa using once
  | some attachment =>
    have alone : (system.call pdev).alone = true := by
      cases stage : system.call pdev <;>
        simp [stage, RegistryCall.attachment?, RegistryCall.alone] at inHand ⊢
    simp [List.count_eq_zero.mpr (ok.alone pdev alone)]

/-! ## Unloading -/

/-- An attach that began while the module was coming gets its reference after the kernel
has decided to unload it. -/
def LateGet (system : RegistrySystem δ) (action : RegistryAction δ) : Prop :=
  system.phase.alive = false ∧
    ∃ pdev, action = .pin pdev ∧ system.call pdev = .identified true

instance (system : RegistrySystem δ) (action : RegistryAction δ) :
    Decidable (system.LateGet action) :=
  inferInstanceAs (Decidable (_ ∧ _))

/-- Nobody holds a reference on a module that is about to be unloaded. -/
def Unpinned (system : RegistrySystem δ) : Prop :=
  system.phase.alive = false → system.moduleRefs = 0

/-- The phase of the module stays, and no reference on it is taken. -/
def TakesNoRef (system next : RegistrySystem δ) : Prop :=
  next.phase = system.phase ∧ next.moduleRefs ≤ system.moduleRefs

omit [DecidableEq δ] [Fintype δ] in
theorem Unpinned.of_takesNoRef (unpinned : system.Unpinned)
    (takesNoRef : TakesNoRef system next) : next.Unpinned := by
  intro dying
  rw [takesNoRef.1] at dying
  exact Nat.le_zero.mp (unpinned dying ▸ takesNoRef.2)

omit [Fintype δ] in
theorem find_takesNoRef (stepped : system.find pdev = some next) : TakesNoRef system next := by
  unfold RegistrySystem.find at stepped
  repeat' split at stepped
  all_goals cases stepped
  all_goals exact ⟨rfl, Nat.le_refl _⟩

omit [Fintype δ] in
theorem identify_takesNoRef {found : Option Errno}
    (stepped : system.identify pdev found = some next) : TakesNoRef system next := by
  unfold RegistrySystem.identify at stepped
  repeat' split at stepped
  all_goals cases stepped
  all_goals exact ⟨rfl, Nat.le_refl _⟩

omit [Fintype δ] in
/-- A reference is taken where the module is alive or was sampled as coming. -/
theorem pin_takesNoRef (stepped : system.pin pdev = some next) :
    TakesNoRef system next ∨
      next.phase = system.phase ∧
        (system.call pdev = .identified true ∨ system.phase.alive = true) := by
  unfold RegistrySystem.pin at stepped
  split at stepped
  · rename_i identified
    split at stepped
    · rename_i granted
      cases stepped
      refine .inr ⟨rfl, granted.imp_left ?_⟩
      rintro rfl
      exact identified
    · cases stepped
      exact .inl ⟨rfl, Nat.le_refl _⟩
  · cases stepped

omit [Fintype δ] in
theorem create_takesNoRef {outcome : CreateOutcome}
    (stepped : system.create pdev outcome = some next) : TakesNoRef system next := by
  unfold RegistrySystem.create at stepped
  split at stepped
  · cases outcome <;> cases stepped
    · exact ⟨rfl, Nat.sub_le ..⟩
    · exact ⟨rfl, Nat.le_refl _⟩
    · exact ⟨rfl, Nat.le_refl _⟩
  · cases stepped

omit [Fintype δ] in
theorem mxdmaDropAttachment_takesNoRef (system : RegistrySystem δ) (pdev : δ)
    (attachment : MxAttachment δ) :
    TakesNoRef system (system.mxdmaDropAttachment pdev attachment) := by
  refine ⟨rfl, ?_⟩
  unfold mxdmaDropAttachment
  dsimp only
  split
  · exact Nat.sub_le ..
  · exact Nat.le_refl _

omit [Fintype δ] in
theorem destroy_takesNoRef {safe : Bool} (stepped : system.destroy pdev safe = some next) :
    TakesNoRef system next := by
  unfold RegistrySystem.destroy at stepped
  split at stepped
  · split at stepped <;> cases stepped
    · exact mxdmaDropAttachment_takesNoRef system pdev _
    · exact ⟨rfl, Nat.le_refl _⟩
  · split at stepped <;> cases stepped
    · exact mxdmaDropAttachment_takesNoRef system pdev _
    · exact ⟨rfl, Nat.le_refl _⟩
  · cases stepped

omit [Fintype δ] in
theorem add_takesNoRef (stepped : system.add pdev = some next) : TakesNoRef system next := by
  unfold RegistrySystem.add at stepped
  repeat' split at stepped
  all_goals cases stepped
  all_goals exact ⟨rfl, Nat.le_refl _⟩

theorem unpinned_step {action : RegistryAction δ} (onTime : ¬ system.LateGet action)
    (unpinned : system.Unpinned) (stepped : registryStep system action = some next) :
    next.Unpinned := by
  cases action with
  | find pdev => exact unpinned.of_takesNoRef (find_takesNoRef stepped)
  | identify pdev found => exact unpinned.of_takesNoRef (identify_takesNoRef stepped)
  | pin pdev =>
    rcases pin_takesNoRef stepped with takesNoRef | ⟨same, late | alive⟩
    · exact unpinned.of_takesNoRef takesNoRef
    · intro dying
      exact absurd ⟨same ▸ dying, pdev, rfl, late⟩ onTime
    · intro dying
      rw [same, alive] at dying
      cases dying
  | create pdev outcome => exact unpinned.of_takesNoRef (create_takesNoRef stepped)
  | destroy pdev safe => exact unpinned.of_takesNoRef (destroy_takesNoRef stepped)
  | add pdev => exact unpinned.of_takesNoRef (add_takesNoRef stepped)
  | bind | unbind =>
    simp only [registryStep, Option.ite_none_right_eq_some] at stepped
    obtain ⟨-, stepped⟩ := stepped
    split at stepped <;> cases stepped <;>
      exact unpinned.of_takesNoRef ⟨rfl, Nat.le_refl _⟩
  | enumerate =>
    simp only [registryStep, Option.ite_none_right_eq_some, Option.some.injEq] at stepped
    obtain ⟨-, rfl⟩ := stepped
    exact unpinned.of_takesNoRef ⟨rfl, Nat.le_refl _⟩
  | initDone =>
    simp only [registryStep, Option.ite_none_right_eq_some, Option.some.injEq] at stepped
    obtain ⟨-, rfl⟩ := stepped
    intro dying
    cases dying
  | unload =>
    simp only [registryStep, Option.ite_none_right_eq_some, Option.some.injEq] at stepped
    obtain ⟨⟨-, unreferenced⟩, rfl⟩ := stepped
    exact fun _ => unreferenced
  | close =>
    simp only [registryStep, Option.ite_none_right_eq_some, Option.some.injEq] at stepped
    obtain ⟨going, rfl⟩ := stepped
    exact fun _ => unpinned (by rw [going]; rfl)
  | unregister =>
    simp only [registryStep, Option.ite_none_right_eq_some, Option.some.injEq] at stepped
    obtain ⟨⟨closed, -⟩, rfl⟩ := stepped
    exact fun _ => unpinned (by rw [closed]; rfl)

end RegistrySystem

section Runs

variable [DecidableEq δ] [Fintype δ] {bound : δ → Bool} {system : RegistrySystem δ}

/-- The registry is exact.  In every interleaving of binding and unbinding, of the walk at
load time and of unloading, no device has two objects, in the list or in the hand of a call;
the references on a device and on the module are those of the objects and of the attaches
under way; and as long as the notifier is registered an object that is left after its
device was unbound is one whose teardown failed. -/
theorem registry_exact (reached : Reached registryStep (.start bound) system) :
    system.devices.Nodup ∧ system.moduleRefs = system.modulePins ∧
      (∀ pdev, system.pciRefs pdev = system.objectsOf pdev ∧ system.objectsOf pdev ≤ 1) ∧
      (system.phase ≠ .unregistered → ∀ attachment ∈ system.registry,
        system.bound attachment.pdev = false → attachment.protocolPoisoned = true) := by
  have ok := RegistrySystem.ok_of_reached reached
  exact ⟨ok.nodup, ok.moduleRefs, fun pdev => ⟨ok.pciRefs pdev, ok.objectsOf_le_one pdev⟩,
    ok.unbound⟩

/-- A device is attached, its teardown fails once and then succeeds. -/
def failedUnbind : List (RegistryAction Party) :=
  [.enumerate 0, .bind 1, .find 1, .find 0, .identify 1 none, .pin 1, .create 1 .created, .add 1,
    .identify 0 none, .pin 0, .create 0 (.failed .enomem false), .destroy 0 true, .initDone,
    .unbind 1, .find 1, .destroy 1 false, .add 1]

theorem registry_exact_failedUnbind :
    ∃ system : RegistrySystem Party, Reached registryStep (.start fun pdev => pdev = 0) system ∧
      system.registry = [⟨1, true, true, true⟩] ∧ system.moduleRefs = 1 ∧
      system.bound 1 = false ∧ system.devices.Nodup := by
  have ran : ((runActions registryStep (.start fun pdev => decide (pdev = 0)) failedUnbind).map
      fun system => (system.registry, system.moduleRefs, system.bound 1)) =
      some ([⟨1, true, true, true⟩], 1, false) := by
    decide +kernel
  obtain ⟨system, final, seen⟩ := Option.map_eq_some_iff.mp ran
  simp only [Prod.mk.injEq] at seen
  have reached := reached_of_runActions final
  exact ⟨system, reached, seen.1, seen.2.1, seen.2.2, (registry_exact reached).1⟩

/-- Once the kernel has decided to unload the module, the registry is empty and no reference
is left, so that `mxdma_exit` has nothing to detach, unless an attach that began while the
module was coming was so slow that it got its reference after that decision. -/
theorem unload_finds_registry_empty
    (reached : ReachedBy registryStep (fun system action => ¬ system.LateGet action)
      (.start bound) system) (dying : system.phase.alive = false) :
    system.registry = [] ∧ system.moduleRefs = 0 ∧ ∀ pdev, system.pciRefs pdev = 0 := by
  have ok := RegistrySystem.ok_of_reached reached.reached
  have unpinned : system.Unpinned := by
    apply reached.invariant
    · simp [RegistrySystem.Unpinned, RegistrySystem.start]
    · intro current action next unpinned onTime stepped
      exact RegistrySystem.unpinned_step onTime unpinned stepped
  have zero : system.moduleRefs = 0 := unpinned dying
  have pins := ok.moduleRefs
  rw [zero, RegistrySystem.modulePins] at pins
  have empty : system.registry = [] := List.eq_nil_of_length_eq_zero (by omega)
  have noCall : tally (fun call => call.pinsModule = true) system.call = 0 := by omega
  refine ⟨empty, zero, fun pdev => ?_⟩
  have idle := tally_eq_zero_iff.mp noCall pdev
  have nothing : (system.call pdev).attachment? = none := by
    cases stage : system.call pdev <;>
      simp [stage, RegistryCall.pinsModule, RegistryCall.attachment?] at idle ⊢
  rw [ok.pciRefs, RegistrySystem.objectsOf, empty, nothing]
  rfl

/-- A device is attached and detached, and the module unloaded. -/
def attachedOnce : List (RegistryAction Party) :=
  [.initDone, .bind 0, .find 0, .identify 0 none, .pin 0, .create 0 .created, .add 0, .unbind 0,
    .find 0, .destroy 0 true, .unload, .close, .unregister]

theorem unload_finds_registry_empty_attachedOnce :
    ∃ system : RegistrySystem Party,
      ReachedBy registryStep (fun system action => ¬ system.LateGet action)
        (.start fun _ => false) system ∧
      system.phase = .unregistered ∧ system.registry = [] := by
  have ran : ((runAllowed registryStep (fun system action => ¬ system.LateGet action)
      (.start fun _ => false) attachedOnce).map RegistrySystem.phase) = some .unregistered := by
    decide +kernel
  obtain ⟨system, final, unregistered⟩ := Option.map_eq_some_iff.mp ran
  have reached := reachedBy_of_runAllowed final
  exact ⟨system, reached, unregistered,
    (unload_finds_registry_empty reached (by rw [unregistered]; rfl)).1⟩

/-- The notifier is called while the module is coming and is overtaken by its unloading. -/
def lateAttach : List (RegistryAction Party) :=
  [.bind 0, .find 0, .identify 0 none, .initDone, .unload, .close, .pin 0, .create 0 .created,
    .add 0, .unregister]

/-- The exception is real: the device stays attached to a module that is gone. -/
theorem lateAttach_outlives_module :
    ∃ system : RegistrySystem Party, Reached registryStep (.start fun _ => false) system ∧
      system.phase = .unregistered ∧ system.registry = [⟨0, false, true, true⟩] := by
  have ran : ((runActions registryStep (.start fun _ => false) lateAttach).map fun system =>
      (system.phase, system.registry)) = some (.unregistered, [⟨0, false, true, true⟩]) := by
    decide +kernel
  obtain ⟨system, final, seen⟩ := Option.map_eq_some_iff.mp ran
  simp only [Prod.mk.injEq] at seen
  exact ⟨system, reached_of_runActions final, seen⟩

end Runs

end MxDriver
