import MxDriver.DmaInvariant
import MxDriver.IndexedTally

/-!
# References on a shared mapping

The count of a mapping is the creator's reference and one for each transfer that has
not put its own yet.  The put that brings the count to zero unmaps, and a reference is
only taken while the creator holds one, so the mapping is unmapped once.
-/

namespace MxDriver

/-- The state of a mapping that `held` transfers have a reference on. -/
structure SgShare.Ok (share : SgShare) (held : Nat) : Prop where
  refcount : share.refcount = share.creator.toNat + held
  unmaps : share.unmaps = if share.created = true ∧ share.refcount = 0 then 1 else 0
  fresh : share.created = false → share.refcount = 0

namespace SgShare.Ok

variable {share : SgShare} {held : Nat}

theorem created (ok : share.Ok held) (referenced : 0 < share.refcount) : share.created = true := by
  cases created : share.created
  · have fresh := ok.fresh created
    omega
  · rfl

theorem unmaps_le (ok : share.Ok held) : share.unmaps ≤ 1 := by
  rw [ok.unmaps]
  split <;> omega

/-- The mapping is gone when nobody holds it any more. -/
theorem unmaps_iff (ok : share.Ok held) :
    share.unmaps = 1 ↔ share.created = true ∧ share.creator = false ∧ held = 0 := by
  rw [ok.unmaps, ok.refcount]
  cases share.created <;> cases share.creator <;> simp

theorem get (ok : share.Ok held) (creator : share.creator = true) : share.get.Ok (held + 1) := by
  have count := ok.refcount
  have unmaps := ok.unmaps
  have made := ok.created (by rw [count, creator, Bool.toNat_true]; omega)
  constructor <;> simp_all [SgShare.get]
  omega

theorem put (ok : share.Ok (held + 1)) : share.put.Ok held := by
  have count := ok.refcount
  have unmaps := ok.unmaps
  have made := ok.created (by omega)
  constructor <;> simp_all [SgShare.put]

theorem putCreator (ok : share.Ok held) (creator : share.creator = true) :
    SgShare.Ok { share.put with creator := false } held := by
  have count := ok.refcount
  have unmaps := ok.unmaps
  have made := ok.created (by rw [count, creator, Bool.toNat_true]; omega)
  constructor <;> simp_all [SgShare.put]

theorem create (ok : share.Ok held) (fresh : share.created = false) :
    SgShare.Ok { created := true, creator := true, refcount := 1, unmaps := 0 } held := by
  have count := ok.refcount
  have zero := ok.fresh fresh
  constructor <;> simp
  omega

end SgShare.Ok

namespace DmaSystem

variable {τ κ : Type*} [DecidableEq τ] [DecidableEq κ] [Fintype τ]

/-- The transfers that hold a reference on a mapping. -/
def held (transfer : τ → DmaTransfer κ) (context : κ) : Nat :=
  tally (fun transfer => transfer.holdsRef = true ∧ transfer.sgCtx = some context) transfer

omit [DecidableEq τ] in
theorem held_eq_zero_iff {transfer : τ → DmaTransfer κ} {context : κ} :
    held transfer context = 0 ↔
      ∀ index, (transfer index).sgCtx = some context → (transfer index).holdsRef = false := by
  rw [held, tally_eq_zero_iff]
  simp only [not_and', Bool.not_eq_true]

/-- Every mapping counts its references. -/
def SharesOk (system : DmaSystem τ κ) : Prop :=
  ∀ context, (system.context context).Ok (held system.transfer context)

omit [DecidableEq τ] in
theorem sharesOk_start : (start : DmaSystem τ κ).SharesOk := by
  intro context
  have none : held (fun _ : τ => ({} : DmaTransfer κ)) context = 0 := by
    rw [held, tally_eq_zero_iff]
    simp
  constructor <;> simp [start, none]

omit [DecidableEq τ] in
theorem sharesOk_update {transfer : τ → DmaTransfer κ} {share : κ → SgShare}
    (ok : ∀ context, (share context).Ok (held transfer context)) {mapping : κ} {value : SgShare}
    (changed : value.Ok (held transfer mapping)) (context : κ) :
    (Function.update share mapping value context).Ok (held transfer context) := by
  by_cases same : context = mapping
  · subst same
    rwa [Function.update_self]
  · rw [Function.update_of_ne same]
    exact ok context

section Move

variable {transfer : τ → DmaTransfer κ} {share : κ → SgShare} {index : τ} {after : DmaTransfer κ}

/-- A transfer takes or puts its reference, and the count follows. -/
theorem sharesOk_followRef (ok : ∀ context, (share context).Ok (held transfer context))
    (before : (transfer index).holdsRef = true → ∃ context, (transfer index).sgCtx = some context)
    (taken : after.holdsRef = true → ∃ context, after.sgCtx = some context)
    (kept : (transfer index).holdsRef = true → after.sgCtx = (transfer index).sgCtx)
    (creator : after.holdsRef = true → (transfer index).holdsRef = false →
      ∀ context, after.sgCtx = some context → (share context).creator = true) (context : κ) :
    (followRef share (transfer index) after context).Ok
      (held (Function.update transfer index after) context) := by
  cases held₀ : (transfer index).holdsRef <;> cases held₁ : after.holdsRef
  · rw [followRef_of_eq share (held₁.trans held₀.symm), held,
      tally_update_same _ _ _ (by simp [held₀, held₁])]
    exact ok context
  · obtain ⟨mapping, mappingEq⟩ := taken held₁
    have follow : followRef share (transfer index) after =
        Function.update share mapping (share mapping).get := by
      simp [followRef, held₀, held₁, mappingEq]
    rw [follow]
    by_cases same : context = mapping
    · subst same
      rw [Function.update_self, held, tally_update_enter _ _ _ (by simp [held₀])
        ⟨held₁, mappingEq⟩]
      exact (ok context).get (creator held₁ held₀ context mappingEq)
    · rw [Function.update_of_ne same, held, tally_update_same _ _ _
        (by simp [held₀, mappingEq, Ne.symm same])]
      exact ok context
  · obtain ⟨mapping, mappingEq⟩ := before held₀
    have follow : followRef share (transfer index) after =
        Function.update share mapping (share mapping).put := by
      simp [followRef, held₀, held₁, mappingEq]
    rw [follow]
    by_cases same : context = mapping
    · subst same
      have left := tally_update_leave (p := fun transfer : DmaTransfer κ =>
        transfer.holdsRef = true ∧ transfer.sgCtx = some context) transfer index after
        ⟨held₀, mappingEq⟩ (by simp [held₁])
      rw [Function.update_self]
      apply SgShare.Ok.put
      rw [held, left]
      exact ok context
    · rw [Function.update_of_ne same, held, tally_update_same _ _ _
        (by simp [held₁, mappingEq, Ne.symm same])]
      exact ok context
  · rw [followRef_of_eq share (held₁.trans held₀.symm), held,
      tally_update_same _ _ _ (by simp [held₀, held₁, kept held₀])]
    exact ok context

end Move

section Step

variable {system next : DmaSystem τ κ} {action : DmaAction τ κ}

omit [Fintype τ] in
theorem transfer_of_movesAt {index : τ} {view : DmaView κ} {waitDelta zombieDelta : Int}
    (moved : MovesAt system next index view waitDelta zombieDelta) :
    next.transfer = Function.update system.transfer index view.transfer := by
  funext other
  by_cases same : other = index
  · subst same
    rw [Function.update_self]
    exact congrArg DmaView.transfer moved.view_eq
  · rw [Function.update_of_ne same]
    exact congrArg DmaView.transfer (moved.others other same)

omit [Fintype τ] [DecidableEq κ] in
theorem transfer_of_unmoved (unmoved : Unmoved system next) : next.transfer = system.transfer :=
  funext fun index => congrArg DmaView.transfer (unmoved.view_eq index)

theorem sharesOk_step (ok : system.Ok) (shares : system.SharesOk)
    (step : dmaStep system action = some next) : next.SharesOk := by
  have mapped : ∀ {view : DmaView κ}, view.Ok → view.transfer.holdsRef = true →
      ∃ context, view.transfer.sgCtx = some context := fun ok held =>
    Option.isSome_iff_exists.mp (ok.holdsRef.mp held).1
  cases dmaStep_effect ok.view ok.safe step with
  | move moved =>
    obtain ⟨index, view, _, _, moved⟩ := moved
    intro context
    rw [moved.context, transfer_of_movesAt moved]
    apply sharesOk_followRef shares
    · exact mapped (ok.view index)
    · exact mapped ((ok.view index).move moved.moves)
    · intro held
      apply (moved.moves.fixed _).2
      intro unused
      have blank : system.transfer index = {} := ((ok.view index).unused unused).1
      simp [blank] at held
    · exact moved.creator
  | create unmoved fresh share =>
    intro context
    rw [share, transfer_of_unmoved unmoved]
    exact sharesOk_update shares ((shares _).create fresh) context
  | putCreator unmoved creator share =>
    intro context
    rw [share, transfer_of_unmoved unmoved]
    exact sharesOk_update shares ((shares _).putCreator creator) context
  | idle unmoved share =>
    intro context
    rw [share, transfer_of_unmoved unmoved]
    exact shares context
  | declare => exact shares
  | collect => exact shares

end Step

theorem sharesOk_of_reached {system : DmaSystem τ κ} (reached : Reached dmaStep start system) :
    system.SharesOk := by
  suffices both : system.Ok ∧ system.SharesOk from both.2
  apply ReachedBy.invariant reached ⟨ok_start, sharesOk_start⟩
  rintro current action next ⟨ok, shares⟩ - step
  exact ⟨ok_step ok step, sharesOk_step ok shares step⟩

end DmaSystem

end MxDriver
