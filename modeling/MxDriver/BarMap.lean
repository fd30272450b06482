import MxDriver.LeaseDirect
import MxDriver.MailboxContext
import MxDriver.TransitionSystem
import Mathlib.Data.Fintype.Fin
import Mathlib.Data.Multiset.Replicate

/-!
# BAR mappings and mailbox registration

A client either maps the BAR or has the driver drive mailboxes in it.  `mx_bar_mmap`
refuses while a mailbox is registered, and `ioctl_register_mbox` refuses while a mapping
is counted; both decide under the lock of the map.  A registration reads two contexts
from the device, so it drops the lock in between and decides again.  Copies of a mapping
appear by fork and by splitting, without a test.
-/

namespace MxDriver

def maxNumOfMbox : Nat := 80

/-- `struct mx_ioctl_mbox_info` -/
structure MboxInfo where
  qid : Nat
  sqCtxAddr : BitVec 64
  sqDataAddr : BitVec 64
  cqCtxAddr : BitVec 64
  cqDataAddr : BitVec 64
  deriving DecidableEq, Repr

/-- Where a call of `ioctl_register_mbox` stands.  The number of the queue is in range
once the call has checked it. -/
inductive RegisterCall
  | idle
  /-- Before the first locked section. -/
  | checking (qid : Fin maxNumOfMbox) (info : MboxInfo)
  | creatingSq (qid : Fin maxNumOfMbox) (info : MboxInfo)
  | creatingCq (qid : Fin maxNumOfMbox) (info : MboxInfo) (sqMbox : MxMbox)
  /-- Before the second locked section. -/
  | publishing (qid : Fin maxNumOfMbox) (info : MboxInfo) (sqMbox cqMbox : MxMbox)
  /-- The request, unless it could not be copied, and the result. -/
  | returned (info : Option MboxInfo) (ret : Ret)

/-- The arguments of an `mmap`, and what `io_remap_pfn_range` says to it. -/
structure MmapRequest where
  vmPgoff : Nat
  shared : Bool
  vmSize : Nat
  fMapping : Nat
  remap : Ret

/-- The device as far as mappings and mailboxes go.  `vmas` holds the `vm_private_data` of
each live VMA, so a copy is one more occurrence; `closing` are the objects whose last VMA
is closed and that are about to be freed. -/
structure BarSystem (ι β θ : Type*) where
  enabled : Bool
  reservedHioQid : Int
  barMappedSize : Nat
  count : Nat
  mapping : Option Nat
  sqMboxList : Fin maxNumOfMbox → Option MxMbox
  cqMboxList : Fin maxNumOfMbox → Option MxMbox
  barMappingCount : ι → Nat
  barVma : β → Option (BarVma ι)
  vmas : Multiset β
  closing : Finset β
  call : θ → RegisterCall

inductive BarAction (ι β θ : Type*)
  | online
  | mmap (ctx : ι) (request : MmapRequest) (barVma : Option β)
  | vmaOpen (barVma : β)
  | vmaClose (barVma : β)
  | uncharge (barVma : β)
  | register (thread : θ) (info : Option MboxInfo)
  | check (thread : θ)
  | createSq (thread : θ) (read : CtxRead) (allocated : Bool)
  | createCq (thread : θ) (read : CtxRead) (allocated : Bool)
  | publish (thread : θ)

namespace BarSystem

variable {ι β θ : Type*}

/-- The device after the probe, with the queue number it keeps for itself. -/
def start (reservedHioQid : Int) (barMappedSize : Nat) : BarSystem ι β θ where
  enabled := false
  reservedHioQid := reservedHioQid
  barMappedSize := barMappedSize
  count := 0
  mapping := none
  sqMboxList := fun _ => none
  cqMboxList := fun _ => none
  barMappingCount := fun _ => 0
  barVma := fun _ => none
  vmas := 0
  closing := ∅
  call := fun _ => .idle

/-! ## Mappings -/

/-- The return code of `mx_bar_mmap` once its object is allocated. -/
def mxBarMmapRet (system : BarSystem ι β θ) (ctx : ι) (request : MmapRequest) : Ret :=
  if system.enabled = false then some .enodev
  else if ∃ qid, (system.sqMboxList qid).isSome then some .ebusy
  else if request.vmPgoff ≠ 0 then some .einval
  else if request.shared = false then some .einval
  else if request.vmSize ≠ system.barMappedSize then some .einval
  else if system.barMappingCount ctx = u32Max then some .eoverflow
  else request.remap

variable [DecidableEq ι] [DecidableEq β] [DecidableEq θ] (system : BarSystem ι β θ)

/-- `mx_bar_mmap`, with the object that `kzalloc` returned. -/
def mxBarMmap (ctx : ι) (request : MmapRequest) (barVma : β) : BarSystem ι β θ :=
  match system.mxBarMmapRet ctx request with
  | some _ => system
  | none =>
    { system with
      mapping := some request.fMapping
      barMappingCount :=
        Function.update system.barMappingCount ctx (incU32 (system.barMappingCount ctx))
      barVma := Function.update system.barVma barVma (some ⟨ctx, 1⟩)
      vmas := barVma ::ₘ system.vmas
      count := incU32 system.count }

/-- `mx_bar_vma_open`, for a copy of a live VMA. -/
def mxBarVmaOpen (barVma : β) : Option (BarSystem ι β θ) :=
  match system.barVma barVma with
  | none => none
  | some object =>
    if barVma ∈ system.vmas then
      some { system with
        vmas := barVma ::ₘ system.vmas
        count := incU32 system.count
        barVma := Function.update system.barVma barVma
          (some { object with refs := object.refs + 1 }) }
    else none

/-- `mx_bar_vma_close` under the lock of the map.  A count of 0 stays, with a warning. -/
def mxBarVmaClose (barVma : β) : Option (BarSystem ι β θ) :=
  match system.barVma barVma with
  | none => none
  | some object =>
    if barVma ∈ system.vmas then
      some { system with
        vmas := system.vmas.erase barVma
        count := system.count - 1
        mapping := if system.count = 1 then none else system.mapping
        barVma := Function.update system.barVma barVma
          (some { object with refs := object.refs - 1 })
        closing := if object.refs = 1 then insert barVma system.closing else system.closing }
    else none

/-- The rest of `mx_bar_vma_close` after the last copy, under the lock of the lease. -/
def uncharge (barVma : β) : Option (BarSystem ι β θ) :=
  match system.barVma barVma with
  | none => none
  | some object =>
    if barVma ∈ system.closing then
      some { system with
        barMappingCount := Function.update system.barMappingCount object.owner
          (system.barMappingCount object.owner - 1)
        barVma := Function.update system.barVma barVma none
        closing := system.closing.erase barVma }
    else none

/-! ## Registration -/

variable (thread : θ)

def setCall (call : RegisterCall) : BarSystem ι β θ :=
  { system with call := Function.update system.call thread call }

/-- `registered_mbox_matches`, which follows both pointers. -/
def registeredMboxMatches (qid : Fin maxNumOfMbox) (info : MboxInfo) : Bool :=
  match system.sqMboxList qid, system.cqMboxList qid with
  | some sqMbox, some cqMbox =>
    sqMbox.rCtxAddr = info.sqCtxAddr && cqMbox.rCtxAddr = info.cqCtxAddr
  | _, _ => false

/-- What a locked section of `ioctl_register_mbox` decides: the call returns, or goes on. -/
def registerSection (qid : Fin maxNumOfMbox) (info : MboxInfo) : Option Ret :=
  if system.count ≠ 0 then some (some .ebusy)
  else if (system.sqMboxList qid).isSome then
    some (if system.registeredMboxMatches qid info then none else some .einval)
  else none

/-- The call up to its first locked section. -/
def registerEntry : Option MboxInfo → RegisterCall
  | none => .returned none (some .efault)
  | some info =>
    if inRange : info.qid < maxNumOfMbox then
      if 0 ≤ system.reservedHioQid ∧ (info.qid : Int) = system.reservedHioQid then
        .returned (some info) (some .ebusy)
      else .checking ⟨info.qid, inRange⟩ info
    else .returned (some info) (some .einval)

def register (info : Option MboxInfo) : Option (BarSystem ι β θ) :=
  match system.call thread with
  | .idle | .returned _ _ => some (system.setCall thread (system.registerEntry info))
  | _ => none

def check : Option (BarSystem ι β θ) :=
  match system.call thread with
  | .checking qid info =>
    match system.registerSection qid info with
    | some ret => some (system.setCall thread (.returned (some info) ret))
    | none => some (system.setCall thread (.creatingSq qid info))
  | _ => none

def createSq (read : CtxRead) (allocated : Bool) : Option (BarSystem ι β θ) :=
  match system.call thread with
  | .creatingSq qid info =>
    match createMxMbox info.sqCtxAddr info.sqDataAddr read allocated with
    | .error error => some (system.setCall thread (.returned (some info) (some error)))
    | .ok sqMbox => some (system.setCall thread (.creatingCq qid info sqMbox))
  | _ => none

def createCq (read : CtxRead) (allocated : Bool) : Option (BarSystem ι β θ) :=
  match system.call thread with
  | .creatingCq qid info sqMbox =>
    match createMxMbox info.cqCtxAddr info.cqDataAddr read allocated with
    | .error error => some (system.setCall thread (.returned (some info) (some error)))
    | .ok cqMbox => some (system.setCall thread (.publishing qid info sqMbox cqMbox))
  | _ => none

def publish : Option (BarSystem ι β θ) :=
  match system.call thread with
  | .publishing qid info sqMbox cqMbox =>
    match system.registerSection qid info with
    | some ret => some (system.setCall thread (.returned (some info) ret))
    | none =>
      some { system.setCall thread (.returned (some info) none) with
        sqMboxList := Function.update system.sqMboxList qid (some sqMbox)
        cqMboxList := Function.update system.cqMboxList qid (some cqMbox) }
  | _ => none

end BarSystem

/-- One step of a thread or of the kernel. -/
def barStep {ι β θ : Type*} [DecidableEq ι] [DecidableEq β] [DecidableEq θ]
    (system : BarSystem ι β θ) : BarAction ι β θ → Option (BarSystem ι β θ)
  | .online => some { system with enabled := true }
  | .mmap _ _ none => some system
  | .mmap ctx request (some barVma) =>
    if system.barVma barVma = none then some (system.mxBarMmap ctx request barVma) else none
  | .vmaOpen barVma => system.mxBarVmaOpen barVma
  | .vmaClose barVma => system.mxBarVmaClose barVma
  | .uncharge barVma => system.uncharge barVma
  | .register thread info => system.register thread info
  | .check thread => system.check thread
  | .createSq thread read allocated => system.createSq thread read allocated
  | .createCq thread read allocated => system.createCq thread read allocated
  | .publish thread => system.publish thread

end MxDriver
