import MxDriver.LeaseSystem
import Mathlib.Data.Fintype.Basic

/-!
# The remaining steps, and all of them together

Opening and closing files, direct sections and what they start, mappings and
their copies, and the puts that end everything.
-/

namespace MxDriver

variable {ι θ τ ν φ : Type*}

namespace LeaseSystem

variable [DecidableEq ι] [DecidableEq θ] [DecidableEq τ] [DecidableEq ν]
  [DecidableEq φ]

variable (system : LeaseSystem ι θ τ ν φ) (thread : θ)

/-- The `kref_get_unless_zero` of `mx_pdev_get_live`. -/
def openGet : Option (LeaseSystem ι θ τ ν φ) :=
  if system.at? thread = some .idle ∧ system.pdevRefs ≠ 0 then
    some { system with
      pdevRefs := system.pdevRefs + 1
      thread := Function.update system.thread thread ⟨.opening, []⟩ }
  else none

/-- The rest of `mxdma_device_open`: the device may be gone, the allocation may
fail, or there is a new context. -/
def openFinish (ctx : ι) (cdev : CharDev) (allocated : Bool) : Option (LeaseSystem ι θ τ ν φ) :=
  if system.at? thread = some .opening ∧ system.ctx ctx = none then
    if system.device.removed = true ∨ allocated = false then
      some { system with
        thread := Function.update system.thread thread ⟨.idle, [.put .pdev]⟩ }
    else
      some { system with
        ctx := Function.update system.ctx ctx (some { cdev := cdev })
        opened := Function.update system.opened ctx true
        thread := Function.update system.thread thread ⟨.idle, []⟩ }
  else none

/-- `mxdma_device_release`; the kernel keeps a file open while a call runs on
it. -/
def close [Fintype θ] (system : LeaseSystem ι θ τ ν φ) (thread : θ) (ctx : ι) :
    Option (LeaseSystem ι θ τ ν φ) :=
  if system.at? thread = some .idle ∧ system.opened ctx = true ∧
      ∀ other, (system.thread other).call.ctx? ≠ some ctx then
    some { system with
      opened := Function.update system.opened ctx false
      thread := Function.update system.thread thread ⟨.idle, [.put (.ctx ctx)]⟩ }
  else none

def directBegin (ctx : ι) : Option (LeaseSystem ι θ τ ν φ) :=
  (system.enter thread ctx).map fun record =>
    let begun := mxLeaseDirectBegin system.device record
    system.publish thread ctx begun.2.1 system.files begun.2.2
      (if begun.1 = none then .direct ctx else .idle) []

def directEnd : Option (LeaseSystem ι θ τ ν φ) :=
  match system.at? thread with
  | some (.direct ctx) =>
    (system.ctx ctx).map fun record =>
      let ended := mxLeaseDirectEnd record
      { system.publish thread ctx system.device system.files ended.2 .idle [] with
        warnings := (if ended.1 then [.directEnd] else []) ++ system.warnings }
  | _ => none

/-- `mx_lease_transfer_get` inside a direct section. -/
def transferGet (transfer : τ) : Option (LeaseSystem ι θ τ ν φ) :=
  match system.at? thread with
  | some (.direct ctx) =>
    if system.transfer transfer ≠ none then none
    else
      (system.ctx ctx).map fun record =>
        if mxLeaseTransferGetCheck system.device record = none then
          let issued := issueTransfer system.files ctx record
          { system.publish thread ctx system.device
              (issued.files.foldl FileTable.hold system.files)
              { record with
                refs := record.refs + 1
                transferCount := incU32 record.transferCount }
              (.direct ctx) [] with
            transfer := Function.update system.transfer transfer (some issued) }
        else system
  | _ => none

/-- `mx_lease_transfer_put`, up to the puts. -/
def transferPut (transfer : τ) : Option (LeaseSystem ι θ τ ν φ) :=
  match system.at? thread, system.transfer transfer with
  | some call, some issued =>
    (system.ctx issued.owner).map fun record =>
      let counted := decWarn .transferPut record.transferCount
      { system.publish thread issued.owner system.device system.files
          { record with transferCount := counted.2 } call
          (putFiles issued.files ++ [.put (.ctx issued.owner)]) with
        transfer := Function.update system.transfer transfer none
        warnings := counted.1 ++ system.warnings }
  | _, _ => none

/-- `mx_bar_mmap` has taken the lock of the map and found room for a mapping. -/
def mmapCheck [Fintype θ] (system : LeaseSystem ι θ τ ν φ) (thread : θ) :
    Option (LeaseSystem ι θ τ ν φ) :=
  match system.at? thread with
  | some (.direct ctx) =>
    (system.ctx ctx).bind fun record =>
      if record.barMappingCount = u32Max ∨
          ∃ other, (system.thread other).call.isMapping = true then none
      else
        some { system with
          thread := Function.update system.thread thread ⟨.mapping ctx, []⟩ }
  | _ => none

/-- `io_remap_pfn_range` succeeded. -/
def mmapCommit (vma : ν) : Option (LeaseSystem ι θ τ ν φ) :=
  match system.at? thread with
  | some (.mapping ctx) =>
    if system.vma vma ≠ none then none
    else
      (system.ctx ctx).map fun record =>
        { system.publish thread ctx system.device system.files
            { record with
              refs := record.refs + 1
              barMappingCount := incU32 record.barMappingCount }
            (.direct ctx) [] with
          pdevRefs := system.pdevRefs + 1
          vma := Function.update system.vma vma (some ⟨ctx, 1⟩) }
  | _ => none

/-- `io_remap_pfn_range` failed. -/
def mmapFail : Option (LeaseSystem ι θ τ ν φ) :=
  match system.at? thread with
  | some (.mapping ctx) =>
    some { system with
      thread := Function.update system.thread thread ⟨.direct ctx, []⟩ }
  | _ => none

/-- `mx_bar_vma_open`, for a fork or a split. -/
def vmaOpen (vma : ν) : Option (LeaseSystem ι θ τ ν φ) :=
  match system.vma vma with
  | some mapping =>
    if mapping.refs = 0 then none
    else
      some { system with
        vma := Function.update system.vma vma
          (some { mapping with refs := mapping.refs + 1 }) }
  | none => none

/-- `mx_bar_vma_close` under the lock of the map. -/
def vmaClose (vma : ν) : Option (LeaseSystem ι θ τ ν φ) :=
  match system.at? thread, system.vma vma with
  | some call, some mapping =>
    if mapping.refs = 0 then none
    else
      some { system with
        vma := Function.update system.vma vma
          (some { mapping with refs := mapping.refs - 1 })
        thread := Function.update system.thread thread
          ⟨call, if mapping.refs = 1 then [.uncharge vma] else []⟩ }
  | _, _ => none

/-- `mx_file_ctx_put` and, at zero, `mx_file_ctx_free`. -/
def putCtx (ctx : ι) (rest : List (Todo ι ν φ)) : LeaseSystem ι θ τ ν φ :=
  match system.ctx ctx with
  | none => system
  | some record =>
    if record.refs = 1 then
      let freed := mxFileCtxFree system.device record
      { system with
        device := freed.2
        ctx := Function.update system.ctx ctx none
        thread := Function.update system.thread thread
          ⟨(system.thread thread).call,
            putFiles record.proofs.files ++ .put .pdev :: rest⟩
        warnings := freed.1 ++ system.warnings }
    else
      system.publish thread ctx system.device system.files
        { record with refs := record.refs - 1 } (system.thread thread).call rest

/-- `mx_pdev_put` and, at zero, `mx_pdev_free`. -/
def putPdev : LeaseSystem ι θ τ ν φ :=
  if system.pdevRefs = 1 then
    let freed := mxPdevFree system.device
    { system with
      device := freed.2
      pdevRefs := 0
      warnings := freed.1 ++ system.warnings }
  else { system with pdevRefs := system.pdevRefs - 1 }

/-- The last copy of a mapping is gone: `mx_bar_vma_close` under the lease
lock. -/
def uncharge (vma : ν) (rest : List (Todo ι ν φ)) : LeaseSystem ι θ τ ν φ :=
  match system.vma vma with
  | none => system
  | some mapping =>
    match system.ctx mapping.owner with
    | none => system
    | some record =>
      let counted := decWarn .barVmaClose record.barMappingCount
      { system.publish thread mapping.owner system.device system.files
          { record with barMappingCount := counted.2 }
          (system.thread thread).call
          (.put (.ctx mapping.owner) :: .put .pdev :: rest) with
        vma := Function.update system.vma vma none
        warnings := counted.1 ++ system.warnings }

/-- A thread does the next of its remaining puts. -/
def put : Option (LeaseSystem ι θ τ ν φ) :=
  match (system.thread thread).todo with
  | [] => none
  | first :: rest =>
    let popped :=
      { system with
        thread := Function.update system.thread thread
          ⟨(system.thread thread).call, rest⟩ }
    some (match first with
      | .put (.file file) => { popped with files := system.files.fput file }
      | .put (.ctx ctx) => popped.putCtx thread ctx rest
      | .put .pdev => popped.putPdev
      | .uncharge vma => popped.uncharge thread vma rest)

/-- The registry or a character device lets go of the device. -/
def detach : Option (LeaseSystem ι θ τ ν φ) :=
  if system.at? thread = some .idle ∧ system.attached ≠ 0 then
    some { system with
      attached := system.attached - 1
      thread := Function.update system.thread thread ⟨.idle, [.put .pdev]⟩ }
  else none

end LeaseSystem

/-- One step of the whole system. -/
def leaseStep [DecidableEq ι] [DecidableEq θ] [DecidableEq τ] [DecidableEq ν]
    [DecidableEq φ] [Fintype θ] (system : LeaseSystem ι θ τ ν φ) :
    LeaseAction ι θ τ ν φ → Option (LeaseSystem ι θ τ ν φ)
  | .user action =>
    (system.files.user action).map fun files => { system with files := files }
  | .openGet thread => system.openGet thread
  | .openFinish thread ctx cdev allocated =>
    system.openFinish thread ctx cdev allocated
  | .close thread ctx => system.close thread ctx
  | .acquire thread ctx capable fds request =>
    system.acquire thread ctx capable fds request
  | .transition thread ctx capable request =>
    system.transition thread ctx capable request
  | .anchor thread ctx capable fds clone request =>
    system.anchor thread ctx capable fds clone request
  | .bind thread ctx fds request => system.bind thread ctx fds request
  | .bindLocked thread clones => system.bindLocked thread clones
  | .unbind thread ctx request => system.unbind thread ctx request
  | .replyCopied thread => system.replyCopied thread
  | .replyFaulted thread => system.replyFaulted thread
  | .directBegin thread ctx => system.directBegin thread ctx
  | .directEnd thread => system.directEnd thread
  | .transferGet thread transfer => system.transferGet thread transfer
  | .transferPut thread transfer => system.transferPut thread transfer
  | .mmapCheck thread => system.mmapCheck thread
  | .mmapCommit thread vma => system.mmapCommit thread vma
  | .mmapFail thread => system.mmapFail thread
  | .vmaOpen vma => system.vmaOpen vma
  | .vmaClose thread vma => system.vmaClose thread vma
  | .put thread => system.put thread
  | .remove => some { system with device := { system.device with removed := true } }
  | .detach thread => system.detach thread

end MxDriver
