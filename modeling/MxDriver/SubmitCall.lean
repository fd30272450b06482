import MxDriver.FallibleProgram
import MxDriver.ParallelSplit
import MxDriver.ResourceLedger

/-!
# A submission, and what it takes from the kernel

A read, write, control or passthrough call of `transfer.c` maps its buffer, allocates one
transfer for each slice, charges them to the lease, builds their commands, queues them
and waits.  Any of these calls into the kernel can fail, and each failure has its own
clean-up.  What a slice covers and what its command says is the subject of the files on
splitting and on descriptors; here the answers of the kernel are given, and the state is
what the driver's own records say it holds, next to what it really holds.
-/

namespace MxDriver

/-- What a transfer can hold. -/
inductive TransferPart
  | slab | id | lease | descVa | descBa | descPages
  deriving DecidableEq, Repr

/-- What a submission can hold. -/
inductive CallResource (τ : Type)
  | context
  | pageArray
  | pins
  | sgTable
  | mapping
  | transferArray
  | transfer (index : τ) (part : TransferPart)
  | ioRef (index : τ)
  deriving DecidableEq

/-- Where an array pointer leads. -/
inductive Storage
  | null | inline | allocated
  deriving DecidableEq, Repr

/-- `struct mx_sg_context`, as far as it says what to release. -/
structure SgHolding where
  refcount : Nat := 1
  pages : Storage := .null
  pagesNr : Nat := 0
  sgl : Storage := .null
  nents : Nat := 0
  deriving DecidableEq, Repr

/-- `struct mx_transfer`, as far as it says what to release.  `sgCtx` and `id` are cleared
when the reference is put and the id is out of the table.  The entries of `desc_list_va`
that point to a page are the first ones; `descListVa` is their number. -/
structure TransferHolding where
  size : Nat
  sgCtx : Bool
  id : Bool := true
  ownerCtx : Bool := false
  isSg : Bool := false
  descListVa : Option Nat := none
  descListBa : Bool := false
  queued : Bool := false
  isZombie : Bool := false
  deriving DecidableEq, Repr

/-- `creator` says that the reference of the call itself on its mapping is not put yet,
and `work` that the waiter of a transfer is on the workqueue. -/
structure CallState (τ : Type) where
  ledger : Ledger (CallResource τ) := {}
  context : Option SgHolding := none
  creator : Bool := false
  transferArray : Bool := false
  slot : τ → Option TransferHolding := fun _ => none
  work : τ → Bool := fun _ => false

/-! ## The answers of the kernel -/

/-- How `create_command` ends: without a descriptor list, or after `desc_list_alloc` for
so many pages, with the walk over the slice behind it. -/
inductive CommandAnswer
  | refused (error : Errno)
  | direct
  | list (listCnt : Nat) (va ba : Bool) (page : Nat → Bool) (walk : Ret)

/-- How a wait ends: the completion came, the transfer was taken back from the submission
list, or it stays with the device. -/
inductive WaitEnd
  | completed
  | recovered (error : Errno)
  | parked (error : Errno)
  deriving DecidableEq, Repr

structure TransferAnswers where
  slab : Bool
  id : Bool
  lease : Ret
  command : CommandAnswer
  wait : WaitEnd

structure CallAnswers (τ : Type) where
  services : SgServices
  transferArray : Bool
  transfer : τ → TransferAnswers

abbrev CallProgram (τ α : Type) := Fallible Errno (CallState τ) α

namespace CallState

variable {τ : Type} [DecidableEq τ] (call : CallState τ)

def take (resource : CallResource τ) (amount : Nat) : CallState τ :=
  { call with ledger := call.ledger.take resource amount }

def give (resource : CallResource τ) (amount : Nat) : CallState τ :=
  { call with ledger := call.ledger.give resource amount }

def setContext (change : SgHolding → SgHolding) : CallState τ :=
  { call with context := call.context.map change }

variable (index : τ)

def setTransfer (transfer : Option TransferHolding) : CallState τ :=
  { call with slot := Function.update call.slot index transfer }

def changeTransfer (change : TransferHolding → TransferHolding) : CallState τ :=
  call.setTransfer index ((call.slot index).map change)

/-! ## The shared mapping -/

def mxSgContextRelease (holding : SgHolding) : CallState τ :=
  let call := if holding.nents ≠ 0 then call.give .mapping 1 else call
  let call := if holding.pagesNr > 0 then call.give .pins holding.pagesNr else call
  let call := if holding.sgl = .allocated then call.give .sgTable 1 else call
  let call := if holding.pages = .allocated then call.give .pageArray 1 else call
  { call.give .context 1 with context := none }

def mxSgContextPut : CallState τ :=
  match call.context with
  | none => call
  | some holding =>
    if holding.refcount - 1 = 0 then call.mxSgContextRelease holding
    else { call with context := some { holding with refcount := holding.refcount - 1 } }

def mxSgContextGet : CallState τ :=
  call.setContext fun holding => { holding with refcount := holding.refcount + 1 }

/-- The call puts its own reference. -/
def putCreator : CallState τ :=
  { call.mxSgContextPut with creator := false }

/-- `kzalloc` of the context, with the reference of the call. -/
def newContext : CallState τ :=
  { call.take .context 1 with context := some {}, creator := true }

/-- The page array of the context. -/
def setPages (pagesNr : Nat) : CallState τ :=
  if pagesNr ≤ pagesInlineNr then
    call.setContext fun holding => { holding with pages := .inline }
  else (call.take .pageArray 1).setContext fun holding => { holding with pages := .allocated }

/-- `pin_user_pages_fast` pinned so many pages. -/
def setPinned (pinned : Nat) : CallState τ :=
  if pinned > 0 then
    (call.take .pins pinned).setContext fun holding => { holding with pagesNr := pinned }
  else call

/-- The scatter list of the context. -/
def setTable (pagesNr : Nat) : CallState τ :=
  if pagesNr ≤ pagesInlineNr then
    call.setContext fun holding => { holding with sgl := .inline }
  else (call.take .sgTable 1).setContext fun holding => { holding with sgl := .allocated }

/-- `dma_map_sg` mapped the scatter list to so many entries. -/
def setMapping (nents : Nat) : CallState τ :=
  if nents ≠ 0 then
    (call.take .mapping 1).setContext fun holding => { holding with nents := nents }
  else call

/-- `mx_sg_context_create` between `kzalloc` and the label `err`. -/
def fillContext (services : SgServices) (userAddr totalSize pagesNr : Nat) :
    CallProgram τ Unit := do
  .refuse (pagesNr > pagesInlineNr ∧ services.allocPages pagesNr = false) .enomem
  .update (·.setPages pagesNr)
  match services.pinUserPages userAddr pagesNr with
  | .error error => .fail error
  | .ok pinned => do
      .update (·.setPinned pinned)
      .refuse (pinned ≠ pagesNr) .efault
      .check (if pagesNr ≤ pagesInlineNr then none else services.allocTable pagesNr)
      .update (·.setTable pagesNr)
      let nents := (services.dmaMapSg userAddr totalSize).length
      .update (·.setMapping nents)
      .refuse (nents = 0) .eio

def mxSgContextCreate (services : SgServices) (userAddr totalSize : Nat) :
    CallProgram τ Unit := do
  let offset := userAddr % pageSize
  .refuse (totalSize = 0 ∨ totalSize > intMax / 8 * pageSize - offset) .einval
  let pagesNr := divRoundUp (offset + totalSize) pageSize
  .refuse (services.allocContext = false) .enomem
  .update newContext
  (fillContext services userAddr totalSize pagesNr).onFailure putCreator

/-! ## A transfer -/

/-- The part of `desc_list_free` for `desc_list_va`: the pages, and then the array. -/
def freeDescVa : CallState τ :=
  match (call.slot index).bind TransferHolding.descListVa with
  | none => call
  | some filled =>
    ((call.give (.transfer index .descPages) filled).give
      (.transfer index .descVa) 1).changeTransfer index
      fun transfer => { transfer with descListVa := none }

/-- The part of `desc_list_free` for `desc_list_ba`. -/
def freeDescBa : CallState τ :=
  if (call.slot index).any TransferHolding.descListBa then
    (call.give (.transfer index .descBa) 1).changeTransfer index
      fun transfer => { transfer with descListBa := false }
  else call

def descListFree : CallState τ :=
  (call.freeDescVa index).freeDescBa index

/-- One round of the loop of `desc_list_alloc`. -/
def fillDescList (page : Nat → Bool) (list : Nat) : CallProgram τ Unit := do
  .refuse (page list = false) .enomem
  .update fun call => (call.take (.transfer index .descPages) 1).changeTransfer index
    fun transfer => { transfer with descListVa := transfer.descListVa.map (· + 1) }

def descListAlloc (listCnt : Nat) (va ba : Bool) (page : Nat → Bool) :
    CallProgram τ Unit := do
  .refuse (va = false) .enomem
  .update fun call => (call.take (.transfer index .descVa) 1).changeTransfer index
    fun transfer => { transfer with descListVa := some 0 }
  -- the array is freed on its own here, and only after the loop has begun as a list
  (Fallible.refuse (ba = false) .enomem).onFailure fun call =>
    (call.give (.transfer index .descVa) 1).changeTransfer index
      fun transfer => { transfer with descListVa := none }
  .update fun call => (call.take (.transfer index .descBa) 1).changeTransfer index
    fun transfer => { transfer with descListBa := true }
  (Fallible.forEach (fillDescList index page) (List.range listCnt)).onFailure
    (·.descListFree index)

def transferIdFree : CallState τ :=
  if (call.slot index).any TransferHolding.id then
    (call.give (.transfer index .id) 1).changeTransfer index
      fun transfer => { transfer with id := false }
  else call

def mxLeaseTransferPut : CallState τ :=
  if (call.slot index).any TransferHolding.ownerCtx then
    (call.give (.transfer index .lease) 1).changeTransfer index
      fun transfer => { transfer with ownerCtx := false }
  else call

/-- The transfer puts its reference on the mapping, if it has one. -/
def putSgCtx : CallState τ :=
  if (call.slot index).any TransferHolding.sgCtx then
    call.mxSgContextPut.changeTransfer index fun transfer => { transfer with sgCtx := false }
  else call

def freeMxTransfer : CallState τ :=
  (call.give (.transfer index .slab) 1).setTransfer index none

def releaseMxTransfer : CallState τ :=
  (((call.putSgCtx index).transferIdFree index).mxLeaseTransferPut index).freeMxTransfer index

def mxTransferDestroySg : CallState τ :=
  (call.descListFree index).releaseMxTransfer index

/-- Without an id the transfer goes back to its cache at once. -/
def allocMxTransfer (answers : TransferAnswers) (index : τ) (size : Nat) :
    CallProgram τ Unit := do
  .refuse (answers.slab = false) .enomem
  .update (·.take (.transfer index .slab) 1)
  (Fallible.refuse (answers.id = false) .enomem).onFailure (·.give (.transfer index .slab) 1)
  .update fun call => (call.take (.transfer index .id) 1).setTransfer index
    (some { size := size, sgCtx := false })

def allocMxTransferSg (answers : TransferAnswers) (index : τ) (sliceSize : Nat) :
    CallProgram τ Unit := do
  allocMxTransfer answers index sliceSize
  .update fun call => call.mxSgContextGet.changeTransfer index
    fun transfer => { transfer with sgCtx := true }

/-- `if (transfers[i]) release_mx_transfer(transfers[i])` for each entry. -/
def releaseAllocated (indexes : List τ) (call : CallState τ) : CallState τ :=
  indexes.foldl (fun call index =>
    if (call.slot index).isSome then call.releaseMxTransfer index else call) call

def newTransferArray : CallState τ :=
  { call.take .transferArray 1 with transferArray := true }

def freeTransferArray : CallState τ :=
  { call.give .transferArray 1 with transferArray := false }

/-- The sizes that the loop of `alloc_mx_transfers` gives to so many transfers. -/
def sliceSizes (userAddr totalSize count : Nat) : List Nat :=
  let pagesNr := divRoundUp (userAddr % pageSize + totalSize) pageSize
  ((allocSlices ⟨true, some⟩ userAddr (pagesNr / count) count 0 (pagesNr % count) userAddr
    totalSize 0).getD []).map SgTransfer.size

/-- The size of a slice, by the place of its transfer. -/
def sliceSize (userAddr totalSize : Nat) (indexes : List τ) (index : τ) : Nat :=
  (sliceSizes userAddr totalSize indexes.length).getD (indexes.idxOf index) 0

def allocMxTransfers (answers : CallAnswers τ) (slice : τ → Nat) (indexes : List τ) :
    CallProgram τ Unit := do
  .refuse (answers.transferArray = false) .enomem
  .update newTransferArray
  (Fallible.forEach (fun index => allocMxTransferSg (answers.transfer index) index (slice index))
    indexes).onFailure fun call => (call.releaseAllocated indexes).freeTransferArray

/-! ## Queueing and waiting -/

def mxLeaseTransferGet (answers : TransferAnswers) (index : τ) : CallProgram τ Unit := do
  .check answers.lease
  .update fun call => (call.take (.transfer index .lease) 1).changeTransfer index
    fun transfer => { transfer with ownerCtx := true }

/-- `create_command_sg`: the walk frees the list again when it fails. -/
def createCommandSg (answers : TransferAnswers) (index : τ) : CallProgram τ Unit :=
  match answers.command with
  | .refused error => .fail error
  | .direct => pure ()
  | .list listCnt va ba page walk => do
      descListAlloc index listCnt va ba page
      (Fallible.check walk).onFailure (·.descListFree index)

def mxTransferInitSg (answers : TransferAnswers) (index : τ) : CallProgram τ Unit := do
  mxLeaseTransferGet answers index
  createCommandSg answers index
  .update (·.changeTransfer index fun transfer => { transfer with isSg := true })

/-- A command without a buffer needs no list. -/
def mxTransferInitCtrl (answers : TransferAnswers) (index : τ) : CallProgram τ Unit := do
  mxLeaseTransferGet answers index
  match answers.command with
  | .refused error => .fail error
  | .direct | .list _ _ _ _ _ => pure ()

def mxTransferQueue (call : CallState τ) : CallState τ :=
  call.changeTransfer index fun transfer => { transfer with queued := true }

/-- `transfer_id_claim_completion` takes the id out of the table. -/
def claimCompletion : CallState τ :=
  call.transferIdFree index

/-- `mx_transfer_teardown_done`, and `mx_transfer_teardown_recovered`, which differs only
in that it copies no result out. -/
def teardown : CallState τ :=
  if (call.slot index).any TransferHolding.isSg then call.mxTransferDestroySg index
  else call.releaseMxTransfer index

def mxTransferWait (waitEnd : WaitEnd) (index : τ) : CallProgram τ Nat := do
  let call ← .read
  match waitEnd with
  | .completed => do
      .update (·.claimCompletion index)
      .update (·.teardown index)
      return (call.slot index).elim 0 TransferHolding.size
  | .recovered error => do
      .update (·.teardown index)
      .fail error
  | .parked error => do
      .update (·.changeTransfer index fun transfer => { transfer with isZombie := true })
      .fail error

/-- The waits of a split transfer, one after another: the last error is returned. -/
def mxTransferWaitAll (answers : CallAnswers τ) : List τ → Ret → Nat → CallProgram τ Nat
  | [], none, transferred => pure transferred
  | [], some error, _ => .fail error
  | index :: indexes, err, transferred => do
      match ← (mxTransferWait (answers.transfer index).wait index).attempt with
      | .ok size => mxTransferWaitAll answers indexes err (transferred + size)
      | .error error => mxTransferWaitAll answers indexes (some error) transferred

/-- A work item that is on the queue already keeps the reference it has. -/
def mxTransferScheduleWait (call : CallState τ) : CallState τ :=
  if call.work index then call.give (.ioRef index) 1
  else { call with work := Function.update call.work index true }

/-- The waiter goes to the workqueue with a reference of its own. -/
def scheduleWait (call : CallState τ) : CallState τ :=
  (call.take (.ioRef index) 1).mxTransferScheduleWait index

def mxTransferSubmitSgOne (answers : TransferAnswers) (index : τ) (nowait : Bool) :
    CallProgram τ Nat := do
  let call ← .read
  (mxTransferInitSg answers index).onFailure (·.mxTransferDestroySg index)
  .update (mxTransferQueue index)
  if nowait then do
    .update (scheduleWait index)
    return (call.slot index).elim 0 TransferHolding.size
  else mxTransferWait answers.wait index

/-- `percpu_ref_get_many`, and then the waiters one after another. -/
def scheduleAll (indexes : List τ) (call : CallState τ) : CallState τ :=
  indexes.foldl (fun call index => call.mxTransferScheduleWait index)
    (indexes.foldl (fun call index => call.take (.ioRef index) 1) call)

def totalSize (indexes : List τ) : Nat :=
  (indexes.map fun index => (call.slot index).elim 0 TransferHolding.size).sum

def mxTransferSubmitSgParallel (answers : CallAnswers τ) (indexes : List τ) (nowait : Bool) :
    CallProgram τ Nat := do
  let call ← .read
  (Fallible.forEach (fun index => mxTransferInitSg (answers.transfer index) index)
    indexes).onFailure fun call =>
      (indexes.foldl (fun call index => call.mxTransferDestroySg index) call).freeTransferArray
  .update fun call => indexes.foldl (fun call index => mxTransferQueue index call) call
  if nowait then do
    .update (scheduleAll indexes)
    .update freeTransferArray
    return call.totalSize indexes
  else (mxTransferWaitAll answers indexes none 0).ensuring freeTransferArray

/-- The transfers of the call are numbered by `indexes`, one if it does not split. -/
def mxTransferSubmitSgSplit (answers : CallAnswers τ) (userAddr size : Nat)
    (indexes : List τ) (nowait : Bool) : CallProgram τ Nat := do
  mxSgContextCreate answers.services userAddr size
  match indexes with
  | [index] => do
      (allocMxTransferSg (answers.transfer index) index size).ensuring putCreator
      mxTransferSubmitSgOne (answers.transfer index) index nowait
  | _ => do
      (allocMxTransfers answers (sliceSize userAddr size indexes) indexes).ensuring putCreator
      mxTransferSubmitSgParallel answers indexes nowait

/-- `read_ctrl_from_device` and `write_ctrl_to_device`. -/
def submitCtrl (answers : TransferAnswers) (index : τ) (size : Nat) (nowait : Bool) :
    CallProgram τ Nat := do
  allocMxTransfer answers index size
  (mxTransferInitCtrl answers index).onFailure (·.releaseMxTransfer index)
  .update (mxTransferQueue index)
  if nowait then do
    .update (scheduleWait index)
    return size
  else mxTransferWait answers.wait index

/-- The wait of `submit_passthru_command`.  Without a completion the transfer is released
however the wait for the push ends. -/
def passthruWait (waitEnd : WaitEnd) (index : τ) (noCompletion : Bool) : CallProgram τ Nat :=
  match waitEnd, noCompletion with
  | .completed, false => do
      .update (·.claimCompletion index)
      .update (·.releaseMxTransfer index)
      return 0
  | .parked error, false => do
      .update (·.changeTransfer index fun transfer => { transfer with isZombie := true })
      .fail error
  | .completed, true => do
      .update (·.releaseMxTransfer index)
      return 0
  | .recovered error, _ | .parked error, true => do
      .update (·.releaseMxTransfer index)
      .fail error

def submitPassthruCommand (answers : TransferAnswers) (index : τ) (size : Nat)
    (supported noCompletion : Bool) : CallProgram τ Nat := do
  .refuse (supported = false) .eopnotsupp
  allocMxTransfer answers index size
  (mxTransferInitCtrl answers index).onFailure (·.releaseMxTransfer index)
  .update (mxTransferQueue index)
  passthruWait answers.wait index noCompletion

/-! ## After the call -/

/-- A waiter on the workqueue comes to its end, the complete thread claims a transfer, or
the zombie cleaner drains one. -/
inductive LateAction (τ : Type)
  | waitWork (index : τ) (waitEnd : WaitEnd)
  | claim (index : τ)
  | drain (index : τ)

def mxTransferWaitWork (waitEnd : WaitEnd) (index : τ) (call : CallState τ) : CallState τ :=
  let waited := (mxTransferWait waitEnd index call).2
  { waited.give (.ioRef index) 1 with work := Function.update waited.work index false }

/-- The body of the loop of `drain_zombie_list`. -/
def drainZombie : CallState τ :=
  if (call.slot index).any TransferHolding.isSg then
    (call.descListFree index).releaseMxTransfer index
  else call.releaseMxTransfer index

def lateStep : LateAction τ → Option (CallState τ)
  | .waitWork index waitEnd =>
    if call.work index then some (mxTransferWaitWork waitEnd index call) else none
  | .claim index =>
    if (call.slot index).any TransferHolding.queued then some (call.claimCompletion index)
    else none
  | .drain index =>
    if (call.slot index).any TransferHolding.isZombie then some (call.drainZombie index)
    else none

end CallState

end MxDriver
