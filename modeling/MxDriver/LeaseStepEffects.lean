import MxDriver.LeaseCallEffects

/-!
# What a step of the lease system can do

`leaseStep` is read once: a step refuses, runs a section of a lease call, or
does one of the things of `LifeEffect`.  Invariants of the system are proved by
these cases.
-/

namespace MxDriver

variable {ι θ τ ν φ : Type*}

section Effect

variable [DecidableEq ι] [DecidableEq θ] [DecidableEq ν] [DecidableEq φ]

/-- What one of the remaining puts of a thread can do; `popped` is the system
without that put. -/
inductive PutEffect (system : LeaseSystem ι θ τ ν φ) (thread : θ)
    (call : LeaseCall ι φ) (rest : List (Todo ι ν φ)) :
    Todo ι ν φ → LeaseSystem ι θ τ ν φ → Prop
  | file (file : φ) :
      PutEffect system thread call rest (.put (.file file))
        { system with
          files := system.files.fput file
          thread := Function.update system.thread thread ⟨call, rest⟩ }
  | ctxKept {ctx : ι} {record : FileCtx φ} (found : system.ctx ctx = some record)
      (shared : record.refs ≠ 1) :
      PutEffect system thread call rest (.put (.ctx ctx))
        (system.publish thread ctx system.device system.files
          { record with refs := record.refs - 1 } call rest)
  | ctxFreed {ctx : ι} {record : FileCtx φ} (found : system.ctx ctx = some record)
      (last : record.refs = 1) :
      PutEffect system thread call rest (.put (.ctx ctx))
        { system with
          device := (mxFileCtxFree system.device record).2
          ctx := Function.update system.ctx ctx none
          thread := Function.update system.thread thread
            ⟨call, LeaseSystem.putFiles record.proofs.files ++ .put .pdev :: rest⟩
          warnings := (mxFileCtxFree system.device record).1 ++ system.warnings }
  | pdevKept (shared : system.pdevRefs ≠ 1) :
      PutEffect system thread call rest (.put .pdev)
        { system with
          pdevRefs := system.pdevRefs - 1
          thread := Function.update system.thread thread ⟨call, rest⟩ }
  | pdevFreed (last : system.pdevRefs = 1) :
      PutEffect system thread call rest (.put .pdev)
        { system with
          device := (mxPdevFree system.device).2
          pdevRefs := 0
          thread := Function.update system.thread thread ⟨call, rest⟩
          warnings := (mxPdevFree system.device).1 ++ system.warnings }
  | uncharged {vma : ν} {mapping : BarVma ι} {record : FileCtx φ}
      (mapped : system.vma vma = some mapping)
      (found : system.ctx mapping.owner = some record) :
      PutEffect system thread call rest (.uncharge vma)
        { system.publish thread mapping.owner system.device system.files
            { record with
              barMappingCount := (decWarn .barVmaClose record.barMappingCount).2 }
            call (.put (.ctx mapping.owner) :: .put .pdev :: rest) with
          vma := Function.update system.vma vma none
          warnings := (decWarn .barVmaClose record.barMappingCount).1 ++
            system.warnings }
  | dangling {first : Todo ι ν φ}
      (gone : (∃ ctx, first = .put (.ctx ctx) ∧ system.ctx ctx = none) ∨
        ∃ vma, first = .uncharge vma ∧ (system.vma vma = none ∨
          ∃ mapping, system.vma vma = some mapping ∧
            system.ctx mapping.owner = none)) :
      PutEffect system thread call rest first
        { system with
          thread := Function.update system.thread thread ⟨call, rest⟩ }

theorem LeaseSystem.put_effect {system next : LeaseSystem ι θ τ ν φ} {thread : θ}
    (stepped : system.put thread = some next) :
    ∃ call first rest, system.thread thread = ⟨call, first :: rest⟩ ∧
      PutEffect system thread call rest first next := by
  unfold LeaseSystem.put at stepped
  cases standing : system.thread thread with
  | mk call todo =>
    rw [standing] at stepped
    cases todo with
    | nil => cases stepped
    | cons first rest =>
      refine ⟨call, first, rest, rfl, ?_⟩
      obtain rfl := Option.some.inj stepped
      cases first with
      | put ref =>
        cases ref with
        | file file => exact .file file
        | pdev =>
          simp only [LeaseSystem.putPdev]
          split
          · rename_i last
            exact .pdevFreed last
          · rename_i shared
            exact .pdevKept shared
        | ctx ctx =>
          simp only [LeaseSystem.putCtx]
          split
          · rename_i gone
            exact .dangling (.inl ⟨ctx, rfl, gone⟩)
          rename_i record found
          split
          · rename_i last
            have effect : PutEffect system thread call rest
                (.put (.ctx ctx)) _ := .ctxFreed found last
            simpa using effect
          · rename_i shared
            have effect : PutEffect system thread call rest
                (.put (.ctx ctx)) _ := .ctxKept found shared
            simpa [LeaseSystem.publish] using effect
      | uncharge vma =>
        simp only [LeaseSystem.uncharge]
        split
        · rename_i gone
          exact .dangling (.inr ⟨vma, rfl, .inl gone⟩)
        rename_i mapping mapped
        split
        · rename_i gone
          exact .dangling (.inr ⟨vma, rfl, .inr ⟨mapping, mapped, gone⟩⟩)
        rename_i record found
        have effect : PutEffect system thread call rest (.uncharge vma) _ :=
          .uncharged mapped found
        simpa [LeaseSystem.publish] using effect

variable [DecidableEq τ]

/-- What a step outside the lease calls can do. -/
inductive LifeEffect (system : LeaseSystem ι θ τ ν φ) :
    LeaseAction ι θ τ ν φ → LeaseSystem ι θ τ ν φ → Prop
  | refused (action : LeaseAction ι θ τ ν φ) : LifeEffect system action system
  | user {action : UserFileAction φ} {files : FileTable φ}
      (stepped : system.files.user action = some files) :
      LifeEffect system (.user action) { system with files := files }
  | openGet {thread : θ} (idle : system.thread thread = ⟨.idle, []⟩)
      (alive : system.pdevRefs ≠ 0) :
      LifeEffect system (.openGet thread)
        { system with
          pdevRefs := system.pdevRefs + 1
          thread := Function.update system.thread thread ⟨.opening, []⟩ }
  | openFailed {thread : θ} {ctx : ι} {cdev : CharDev} {allocated : Bool}
      (standing : system.thread thread = ⟨.opening, []⟩) :
      LifeEffect system (.openFinish thread ctx cdev allocated)
        { system with
          thread := Function.update system.thread thread ⟨.idle, [.put .pdev]⟩ }
  | opened {thread : θ} {ctx : ι} {cdev : CharDev} {allocated : Bool}
      (standing : system.thread thread = ⟨.opening, []⟩)
      (free : system.ctx ctx = none) :
      LifeEffect system (.openFinish thread ctx cdev allocated)
        { system with
          ctx := Function.update system.ctx ctx (some { cdev := cdev })
          opened := Function.update system.opened ctx true
          thread := Function.update system.thread thread ⟨.idle, []⟩ }
  | closed {thread : θ} {ctx : ι} (idle : system.thread thread = ⟨.idle, []⟩)
      (opened : system.opened ctx = true)
      (unused : ∀ other, (system.thread other).call.ctx? ≠ some ctx) :
      LifeEffect system (.close thread ctx)
        { system with
          opened := Function.update system.opened ctx false
          thread := Function.update system.thread thread
            ⟨.idle, [.put (.ctx ctx)]⟩ }
  | directBegin {thread : θ} {ctx : ι} {record : FileCtx φ}
      {begun : Ret × DeviceLease × FileCtx φ}
      (enters : system.Enters thread ctx record)
      (effect : DirectBeginEffect system.device record begun)
      (begins : mxLeaseDirectBegin system.device record = begun) :
      LifeEffect system (.directBegin thread ctx)
        (system.publish thread ctx begun.2.1 system.files begun.2.2
          (if begun.1 = none then .direct ctx else .idle) [])
  | directEnd {thread : θ} {ctx : ι} {record : FileCtx φ}
      (standing : system.thread thread = ⟨.direct ctx, []⟩)
      (found : system.ctx ctx = some record) :
      LifeEffect system (.directEnd thread)
        { system.publish thread ctx system.device system.files
            (mxLeaseDirectEnd record).2 .idle [] with
          warnings := (if (mxLeaseDirectEnd record).1 then [.directEnd] else []) ++
            system.warnings }
  | transferGet {thread : θ} {transfer : τ} {ctx : ι} {record : FileCtx φ}
      (standing : system.thread thread = ⟨.direct ctx, []⟩)
      (free : system.transfer transfer = none)
      (found : system.ctx ctx = some record)
      (checked : mxLeaseTransferGetCheck system.device record = none) :
      LifeEffect system (.transferGet thread transfer)
        { system.publish thread ctx system.device
            ((issueTransfer system.files ctx record).files.foldl FileTable.hold
              system.files)
            { record with
              refs := record.refs + 1
              transferCount := incU32 record.transferCount }
            (.direct ctx) [] with
          transfer := Function.update system.transfer transfer
            (some (issueTransfer system.files ctx record)) }
  | transferPut {thread : θ} {transfer : τ} {call : LeaseCall ι φ}
      {issued : TransferLease ι φ} {record : FileCtx φ}
      (standing : system.thread thread = ⟨call, []⟩)
      (inFlight : system.transfer transfer = some issued)
      (found : system.ctx issued.owner = some record) :
      LifeEffect system (.transferPut thread transfer)
        { system.publish thread issued.owner system.device system.files
            { record with
              transferCount := (decWarn .transferPut record.transferCount).2 }
            call
            (LeaseSystem.putFiles issued.files ++ [.put (.ctx issued.owner)]) with
          transfer := Function.update system.transfer transfer none
          warnings := (decWarn .transferPut record.transferCount).1 ++
            system.warnings }
  | mmapCheck {thread : θ} {ctx : ι} {record : FileCtx φ}
      (standing : system.thread thread = ⟨.direct ctx, []⟩)
      (found : system.ctx ctx = some record)
      (room : record.barMappingCount ≠ u32Max)
      (alone : ∀ other, (system.thread other).call.isMapping = false) :
      LifeEffect system (.mmapCheck thread)
        { system with
          thread := Function.update system.thread thread ⟨.mapping ctx, []⟩ }
  | mmapCommit {thread : θ} {vma : ν} {ctx : ι} {record : FileCtx φ}
      (standing : system.thread thread = ⟨.mapping ctx, []⟩)
      (free : system.vma vma = none) (found : system.ctx ctx = some record) :
      LifeEffect system (.mmapCommit thread vma)
        { system.publish thread ctx system.device system.files
            { record with
              refs := record.refs + 1
              barMappingCount := incU32 record.barMappingCount }
            (.direct ctx) [] with
          pdevRefs := system.pdevRefs + 1
          vma := Function.update system.vma vma (some ⟨ctx, 1⟩) }
  | mmapFail {thread : θ} {ctx : ι}
      (standing : system.thread thread = ⟨.mapping ctx, []⟩) :
      LifeEffect system (.mmapFail thread)
        { system with
          thread := Function.update system.thread thread ⟨.direct ctx, []⟩ }
  | vmaOpen {vma : ν} {mapping : BarVma ι} (mapped : system.vma vma = some mapping) :
      LifeEffect system (.vmaOpen vma)
        { system with
          vma := Function.update system.vma vma
            (some { mapping with refs := mapping.refs + 1 }) }
  | vmaClose {thread : θ} {vma : ν} {call : LeaseCall ι φ} {mapping : BarVma ι}
      (standing : system.thread thread = ⟨call, []⟩)
      (mapped : system.vma vma = some mapping) :
      LifeEffect system (.vmaClose thread vma)
        { system with
          vma := Function.update system.vma vma
            (some { mapping with refs := mapping.refs - 1 })
          thread := Function.update system.thread thread
            ⟨call, if mapping.refs = 1 then [.uncharge vma] else []⟩ }
  | put {thread : θ} {call : LeaseCall ι φ} {first : Todo ι ν φ}
      {rest : List (Todo ι ν φ)} {next : LeaseSystem ι θ τ ν φ}
      (standing : system.thread thread = ⟨call, first :: rest⟩)
      (effect : PutEffect system thread call rest first next) :
      LifeEffect system (.put thread) next
  | remove :
      LifeEffect system .remove
        { system with device := { system.device with removed := true } }
  | detach {thread : θ} (idle : system.thread thread = ⟨.idle, []⟩)
      (attached : system.attached ≠ 0) :
      LifeEffect system (.detach thread)
        { system with
          attached := system.attached - 1
          thread := Function.update system.thread thread ⟨.idle, [.put .pdev]⟩ }

/-- Everything that a step of the system can do. -/
inductive LeaseEffect (system : LeaseSystem ι θ τ ν φ)
    (action : LeaseAction ι θ τ ν φ) (next : LeaseSystem ι θ τ ν φ) : Prop
  | call (effect : CallEffect system action next)
  | life (effect : LifeEffect system action next)

variable {system next : LeaseSystem ι θ τ ν φ} {thread : θ} {ctx : ι}

theorem LeaseSystem.openFinish_effect {cdev : CharDev} {allocated : Bool}
    (stepped : system.openFinish thread ctx cdev allocated = some next) :
    LifeEffect system (.openFinish thread ctx cdev allocated) next := by
  unfold LeaseSystem.openFinish at stepped
  split at stepped
  · rename_i ready
    split at stepped
    · obtain rfl := Option.some.inj stepped
      exact .openFailed (at?_eq_some ready.1)
    · obtain rfl := Option.some.inj stepped
      exact .opened (at?_eq_some ready.1) ready.2
  · cases stepped

theorem LeaseSystem.transferGet_effect {transfer : τ}
    (stepped : system.transferGet thread transfer = some next) :
    LifeEffect system (.transferGet thread transfer) next := by
  unfold LeaseSystem.transferGet at stepped
  split at stepped
  · rename_i standing
    split at stepped
    · cases stepped
    rename_i free
    obtain ⟨record, found, rfl⟩ := Option.map_eq_some_iff.mp stepped
    split
    · rename_i checked
      exact .transferGet (at?_eq_some standing) (not_not.mp free) found checked
    · exact .refused _
  · cases stepped

theorem LeaseSystem.transferPut_effect {transfer : τ}
    (stepped : system.transferPut thread transfer = some next) :
    LifeEffect system (.transferPut thread transfer) next := by
  unfold LeaseSystem.transferPut at stepped
  split at stepped
  · rename_i standing inFlight
    obtain ⟨record, found, rfl⟩ := Option.map_eq_some_iff.mp stepped
    exact .transferPut (at?_eq_some standing) inFlight found
  · cases stepped

theorem LeaseSystem.mmapCheck_effect [Fintype θ] (stepped : system.mmapCheck thread = some next) :
    LifeEffect system (.mmapCheck thread) next := by
  unfold LeaseSystem.mmapCheck at stepped
  split at stepped
  · rename_i standing
    obtain ⟨record, found, stepped⟩ := Option.bind_eq_some_iff.mp stepped
    split at stepped
    · cases stepped
    rename_i ready
    obtain rfl := Option.some.inj stepped
    obtain ⟨room, alone⟩ := not_or.mp ready
    exact .mmapCheck (at?_eq_some standing) found room (by simpa using alone)
  · cases stepped

theorem LeaseSystem.mmapCommit_effect {vma : ν}
    (stepped : system.mmapCommit thread vma = some next) :
    LifeEffect system (.mmapCommit thread vma) next := by
  unfold LeaseSystem.mmapCommit at stepped
  split at stepped
  · rename_i standing
    split at stepped
    · cases stepped
    rename_i free
    obtain ⟨record, found, rfl⟩ := Option.map_eq_some_iff.mp stepped
    exact .mmapCommit (at?_eq_some standing) (not_not.mp free) found
  · cases stepped

theorem LeaseSystem.vmaClose_effect {vma : ν} (stepped : system.vmaClose thread vma = some next) :
    LifeEffect system (.vmaClose thread vma) next := by
  unfold LeaseSystem.vmaClose at stepped
  split at stepped
  · rename_i standing mapped
    split at stepped
    · cases stepped
    obtain rfl := Option.some.inj stepped
    exact .vmaClose (at?_eq_some standing) mapped
  · cases stepped

theorem leaseStep_effect [Fintype θ] {system next : LeaseSystem ι θ τ ν φ}
    {action : LeaseAction ι θ τ ν φ} (stepped : leaseStep system action = some next) :
    LeaseEffect system action next := by
  cases action with
  | user action =>
    obtain ⟨files, moved, rfl⟩ := Option.map_eq_some_iff.mp stepped
    exact .life (.user moved)
  | openGet thread =>
    simp only [leaseStep, LeaseSystem.openGet] at stepped
    split at stepped
    · rename_i ready
      obtain rfl := Option.some.inj stepped
      exact .life (.openGet (LeaseSystem.at?_eq_some ready.1) ready.2)
    · cases stepped
  | openFinish thread ctx cdev allocated =>
    exact .life (LeaseSystem.openFinish_effect stepped)
  | close thread ctx =>
    simp only [leaseStep, LeaseSystem.close] at stepped
    split at stepped
    · rename_i ready
      obtain rfl := Option.some.inj stepped
      exact .life (.closed (LeaseSystem.at?_eq_some ready.1) ready.2.1 ready.2.2)
    · cases stepped
  | acquire thread ctx capable fds request => exact .call (LeaseSystem.acquire_effect stepped)
  | transition thread ctx capable request => exact .call (LeaseSystem.transition_effect stepped)
  | anchor thread ctx capable fds clone request => exact .call (LeaseSystem.anchor_effect stepped)
  | bind thread ctx fds request => exact .call (LeaseSystem.bind_effect stepped)
  | bindLocked thread clones => exact .call (LeaseSystem.bindLocked_effect stepped)
  | unbind thread ctx request => exact .call (LeaseSystem.unbind_effect stepped)
  | replyCopied thread => exact .call (.copied (LeaseSystem.replyCopied_effect stepped))
  | replyFaulted thread => exact .call (.faulted (LeaseSystem.replyFaulted_effect stepped))
  | directBegin thread ctx =>
    obtain ⟨record, entered, rfl⟩ := Option.map_eq_some_iff.mp stepped
    exact .life (.directBegin (LeaseSystem.enter_eq_some entered)
      (mxLeaseDirectBegin_effect ..) rfl)
  | directEnd thread =>
    simp only [leaseStep, LeaseSystem.directEnd] at stepped
    split at stepped
    · rename_i standing
      obtain ⟨record, found, rfl⟩ := Option.map_eq_some_iff.mp stepped
      exact .life (.directEnd (LeaseSystem.at?_eq_some standing) found)
    · cases stepped
  | transferGet thread transfer => exact .life (LeaseSystem.transferGet_effect stepped)
  | transferPut thread transfer => exact .life (LeaseSystem.transferPut_effect stepped)
  | mmapCheck thread => exact .life (LeaseSystem.mmapCheck_effect stepped)
  | mmapCommit thread vma => exact .life (LeaseSystem.mmapCommit_effect stepped)
  | mmapFail thread =>
    simp only [leaseStep, LeaseSystem.mmapFail] at stepped
    split at stepped
    · rename_i standing
      obtain rfl := Option.some.inj stepped
      exact .life (.mmapFail (LeaseSystem.at?_eq_some standing))
    · cases stepped
  | vmaOpen vma =>
    simp only [leaseStep, LeaseSystem.vmaOpen] at stepped
    split at stepped
    · rename_i mapped
      split at stepped
      · cases stepped
      obtain rfl := Option.some.inj stepped
      exact .life (.vmaOpen mapped)
    · cases stepped
  | vmaClose thread vma => exact .life (LeaseSystem.vmaClose_effect stepped)
  | put thread =>
    obtain ⟨call, first, rest, standing, effect⟩ := LeaseSystem.put_effect stepped
    exact .life (.put standing effect)
  | remove =>
    obtain rfl := Option.some.inj stepped
    exact .life .remove
  | detach thread =>
    simp only [leaseStep, LeaseSystem.detach] at stepped
    split at stepped
    · rename_i ready
      obtain rfl := Option.some.inj stepped
      exact .life (.detach (LeaseSystem.at?_eq_some ready.1) ready.2)
    · cases stepped

end Effect

end MxDriver
