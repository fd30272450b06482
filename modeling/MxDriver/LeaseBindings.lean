import MxDriver.LeaseSections

/-!
# What every bind establishes holds of all bindings

A binding is put in place by the locked section of a bind, or put back by an
unbind that failed.  So a property that every bind establishes is an invariant.
No bind leaves a lifetime source without its proof, for one, so a context whose
proofs are gone names no file at all.
-/

namespace MxDriver

variable {ι θ τ ν φ : Type*}

section Updates

variable [DecidableEq ι] [DecidableEq θ]

theorem records_update {p : ι → FileCtx φ → Prop}
    {table : ι → Option (FileCtx φ)} {ctx : ι} {record : FileCtx φ}
    (holds : ∀ other found, table other = some found → p other found) (new : p ctx record) :
    ∀ other found, Function.update table ctx (some record) other = some found →
      p other found := by
  intro other found foundEq
  by_cases same : other = ctx
  · subst other
    rw [Function.update_self] at foundEq
    obtain rfl := Option.some.inj foundEq
    exact new
  · rw [Function.update_of_ne same] at foundEq
    exact holds other found foundEq

theorem records_erase {p : ι → FileCtx φ → Prop} {table : ι → Option (FileCtx φ)} {ctx : ι}
    (holds : ∀ other found, table other = some found → p other found) :
    ∀ other found, Function.update table ctx none other = some found →
      p other found := by
  intro other found foundEq
  by_cases same : other = ctx
  · subst other
    rw [Function.update_self] at foundEq
    cases foundEq
  · rw [Function.update_of_ne same] at foundEq
    exact holds other found foundEq

omit [DecidableEq ι] in
theorem calls_update {p : LeaseCall ι φ → Prop}
    {threads : θ → LeaseThread ι ν φ} {thread : θ} {call : LeaseCall ι φ} {todo : List (Todo ι ν φ)}
    (holds : ∀ other, p (threads other).call) (new : p call) :
    ∀ other, p (Function.update threads thread ⟨call, todo⟩ other).call := by
  intro other
  by_cases same : other = thread
  · subst other
    rw [Function.update_self]
    exact new
  · rw [Function.update_of_ne same]
    exact holds other

end Updates

/-- What a call may put in place: the binding that an unbind restores, and the files
that a bind has looked up. -/
def LeaseCall.Brings (p : ProofBinding φ → Prop) (l : ProofsRequest → BindFiles φ → Prop) :
    LeaseCall ι φ → Prop
  | .unbinding _ detached => p detached
  | .preparing _ request bind => l request bind
  | _ => True

/-- The bindings in place, and those that an unbind may restore, have the property
`p`; the files that a bind has looked up for its request have the property `l`. -/
structure BindingsAre (p : ProofBinding φ → Prop) (l : ProofsRequest → BindFiles φ → Prop)
    (system : LeaseSystem ι θ τ ν φ) : Prop where
  contexts : ∀ ctx record, system.ctx ctx = some record → p record.proofs
  calls : ∀ thread, (system.thread thread).call.Brings p l

/-- What the sections of a bind have to establish for `p` to hold of all bindings. -/
structure BindingRule (p : ProofBinding φ → Prop)
    (l : ProofsRequest → BindFiles φ → Prop) : Prop where
  empty : p {}
  lookedUp : ∀ (files : FileTable φ) (fds : Int → Option φ) (profile : LeaseProfile)
    (request : ProofsRequest) (bind : BindFiles φ),
    mxLeaseBindProofsFiles files fds profile request = (none, bind) → l request bind
  bound : ∀ (request : ProofsRequest) (bind : BindFiles φ)
    (slotLockFile lifetimeLockFile : Option φ), l request bind →
    slotLockFile.isSome = bind.slotFile.isSome →
    lifetimeLockFile.isSome = (request.reserved.1 != 0) →
    p (newBinding request bind slotLockFile lifetimeLockFile)

section Rule

variable [DecidableEq ι] [DecidableEq θ] [DecidableEq φ]
variable {system next : LeaseSystem ι θ τ ν φ} {action : LeaseAction ι θ τ ν φ}
variable {p : ProofBinding φ → Prop} {l : ProofsRequest → BindFiles φ → Prop}

omit [DecidableEq φ] in
theorem BindingsAre.moved (are : BindingsAre p l system)
    {thread : θ} {ctx : ι} {record : FileCtx φ} {call : LeaseCall ι φ} {todo : List (Todo ι ν φ)}
    (contexts : next.ctx = Function.update system.ctx ctx (some record))
    (threads : next.thread = Function.update system.thread thread ⟨call, todo⟩)
    (bound : p record.proofs) (brings : call.Brings p l) : BindingsAre p l next where
  contexts := by
    rw [contexts]
    exact records_update (p := fun _ record => p record.proofs) are.contexts bound
  calls := by
    rw [threads]
    exact calls_update are.calls brings

omit [DecidableEq ι] [DecidableEq φ] in
theorem BindingsAre.thread (are : BindingsAre p l system)
    {thread : θ} {call : LeaseCall ι φ} {todo : List (Todo ι ν φ)}
    (contexts : next.ctx = system.ctx)
    (threads : next.thread = Function.update system.thread thread ⟨call, todo⟩)
    (brings : call.Brings p l) : BindingsAre p l next where
  contexts := contexts ▸ are.contexts
  calls := by
    rw [threads]
    exact calls_update are.calls brings

omit [DecidableEq ι] [DecidableEq θ] [DecidableEq φ] in
theorem BindingsAre.brings (are : BindingsAre p l system) {thread : θ}
    {call : LeaseCall ι φ} {todo : List (Todo ι ν φ)}
    (standing : system.thread thread = ⟨call, todo⟩) : call.Brings p l := by
  have brings := are.calls thread
  rwa [standing] at brings

theorem BindingsAre.reply (are : BindingsAre p l system) (rule : BindingRule p l)
    {thread : θ} {copied : Bool} (effect : ReplyEffect system thread copied next) :
    BindingsAre p l next := by
  cases effect with
  | acquired standing found | transitioned standing found | anchored standing found
  | bound standing found | unbound standing found | undoAcquire standing found
  | undoTransition standing found | undoAnchor standing found
  | undoKept standing found =>
    have bound := are.contexts _ _ found
    exact are.moved rfl rfl bound trivial
  | undoBind standing found =>
    refine are.moved rfl rfl ?_ trivial
    simp only [mxLeaseBindProofsUndo]
    split
    · exact rule.empty
    · exact are.contexts _ _ found
  | undoUnbind standing found =>
    refine are.moved rfl rfl ?_ trivial
    simp only [mxLeaseUnbindProofsUndo]
    split
    · exact are.brings standing
    · exact are.contexts _ _ found

theorem BindingsAre.call (are : BindingsAre p l system) (rule : BindingRule p l)
    (effect : CallEffect system action next) : BindingsAre p l next := by
  cases effect with
  | refused => exact are
  | copied effect | faulted effect => exact are.reply rule effect
  | acquire enters checked effect | transition enters checked
  | anchor enters checked effect =>
    have bound := are.contexts _ _ enters.found
    refine are.moved rfl rfl bound ?_
    split <;> trivial
  | bind enters lookedUp present =>
    have bound := are.contexts _ _ enters.found
    refine are.moved rfl rfl bound ?_
    split
    · rename_i found
      exact rule.lookedUp _ _ _ _ _ (found ▸ lookedUp)
    · trivial
  | bindLocked standing found effect =>
    refine are.moved rfl rfl ?_ ?_
    · cases effect with
      | refused error slotPinned => exact are.contexts _ _ found
      | kept => exact are.contexts _ _ found
      | committed phase drained unbound slotPinned slotLocked lifetimePinned
          lifetimeLocked =>
        exact rule.bound _ _ _ _ (are.brings standing) slotLocked lifetimeLocked
    · split <;> trivial
  | unbind enters effect =>
    have bound := are.contexts _ _ enters.found
    cases effect with
    | refused error => exact are.moved rfl rfl bound trivial
    | detached drained => exact are.moved rfl rfl rule.empty bound

variable [DecidableEq ν]

theorem BindingsAre.put (are : BindingsAre p l system) {thread : θ}
    {call : LeaseCall ι φ} {first : Todo ι ν φ} {rest : List (Todo ι ν φ)}
    (standing : system.thread thread = ⟨call, first :: rest⟩)
    (effect : PutEffect system thread call rest first next) : BindingsAre p l next := by
  have brings := are.brings standing
  cases effect with
  | file file | pdevKept shared | pdevFreed last | dangling gone =>
    exact are.thread rfl rfl brings
  | ctxKept found shared | uncharged mapped found =>
    have bound := are.contexts _ _ found
    exact are.moved rfl rfl bound brings
  | ctxFreed found last =>
    exact ⟨records_erase (p := fun _ record => p record.proofs) are.contexts,
      calls_update are.calls brings⟩

variable [DecidableEq τ]

theorem BindingsAre.life (are : BindingsAre p l system) (rule : BindingRule p l)
    (effect : LifeEffect system action next) : BindingsAre p l next := by
  cases effect with
  | refused => exact are
  | user stepped | vmaOpen mapped | remove => exact ⟨are.contexts, are.calls⟩
  | openGet idle alive | openFailed standing | closed idle opened unused
  | mmapCheck standing found room alone | mmapFail standing | detach idle attached =>
    exact are.thread rfl rfl trivial
  | opened standing free => exact are.moved rfl rfl rule.empty trivial
  | directBegin enters effect begins =>
    have bound := are.contexts _ _ enters.found
    cases effect with
    | refused | retracted | admitted => exact are.moved rfl rfl bound trivial
  | directEnd standing found =>
    rename_i thread ctx record
    have before := are.contexts _ _ found
    have bound : p (mxLeaseDirectEnd record).2.proofs := by
      unfold mxLeaseDirectEnd
      split <;> exact before
    exact are.moved rfl rfl bound trivial
  | transferGet standing free found checked | mmapCommit standing free found =>
    have bound := are.contexts _ _ found
    exact are.moved rfl rfl bound trivial
  | transferPut standing inFlight found =>
    have bound := are.contexts _ _ found
    exact are.moved rfl rfl bound (are.brings standing)
  | vmaClose standing mapped => exact are.thread rfl rfl (are.brings standing)
  | put standing effect => exact are.put standing effect

omit [DecidableEq ι] [DecidableEq θ] [DecidableEq φ] [DecidableEq τ]
  [DecidableEq ν] in
theorem bindingsAre_start (incarnation : UInt64) :
    BindingsAre p l (LeaseSystem.start incarnation : LeaseSystem ι θ τ ν φ) where
  contexts := by simp [LeaseSystem.start]
  calls _ := trivial

/-- In every interleaving, what every bind establishes holds of all bindings. -/
theorem bindingsAre_of_reached [Fintype θ] (rule : BindingRule p l) {incarnation : UInt64}
    (reached : Reached leaseStep (LeaseSystem.start incarnation) system) :
    BindingsAre p l system := by
  refine reached.invariant (bindingsAre_start incarnation) fun _ _ _ are _ stepped => ?_
  cases leaseStep_effect stepped with
  | call effect => exact are.call rule effect
  | life effect => exact are.life rule effect

end Rule

theorem bindingRule_complete : BindingRule (φ := φ) ProofBinding.Complete (fun _ _ => True) where
  empty := ProofBinding.complete_empty
  lookedUp _ _ _ _ _ _ := trivial
  bound _ _ _ _ _ _ lifetimeLocked := newBinding_complete _ _ lifetimeLocked

end MxDriver
