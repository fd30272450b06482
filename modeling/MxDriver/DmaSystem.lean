import Mathlib.Algebra.Group.Nat.Defs
import Mathlib.Logic.Function.Basic
import MxDriver.TransitionSystem

/-!
# Transfers and the threads that share them

A transfer is queued by its submitter, pushed to the device by the submit thread,
completed by the complete thread, and torn down by its waiter.  A waiter that gives
up leaves the transfer to the zombie cleaner.  Every thread has its own program
counter and its own pointer to a transfer, and a step is one statement of the source
or one section under a lock.

A freed transfer stays in the state with the number of times it was freed, so nothing
prevents a step that touches it.
-/

namespace MxDriver

/-- `MX_PING_ID`: the id of the watchdog's ping, which no transfer has. -/
def mxPingId : Nat := 2 ^ 16 - 1

/-- Where the command of a transfer is.  A completion is `posted` in the queue of the
device and then `reported` to the complete thread; a `silent` command has none. -/
inductive CommandState
  | kept | owned | posted | reported | silent
  deriving DecidableEq, Repr

/-- The list that `zombie_entry` is linked into. -/
inductive ZombieEntry
  | unlinked | zombieList | toCleanup
  deriving DecidableEq, Repr

/-- `struct mx_transfer`.  The last fields record what happened to it: its reference
on the mapping is not put yet, it was queued, it was taken back from the submission
list, its own completion was claimed, and how often it was freed. -/
structure DmaTransfer (κ : Type*) where
  sgCtx : Option κ := none
  noCompletion : Bool := false
  id : Nat := 0
  onSq : Bool := false
  done : Bool := false
  isZombie : Bool := false
  waitClaimed : Bool := false
  zombieEntry : ZombieEntry := .unlinked
  command : CommandState := .kept
  holdsRef : Bool := false
  queued : Bool := false
  removed : Bool := false
  claimed : Bool := false
  frees : Nat := 0

/-- The next statement of `mx_transfer_destroy_sg` and `release_mx_transfer`:
`desc_list_free`, `mx_sg_context_put`, `transfer_id_free`, `mx_lease_transfer_put`,
and the free. -/
inductive ReleaseStage
  | desc | sg | id | lease | slab
  deriving DecidableEq, Repr

/-- The next statement of parking a zombie: the flag, the counter, the list. -/
inductive ParkStage
  | mark | count | enlist
  deriving DecidableEq, Repr

/-- Where the thread that owns a transfer stands: the submitter, and then the waiter
in `mx_transfer_wait` or `submit_passthru_command`. -/
inductive Waiter
  | unused
  | prepared
  | submitted
  | waiting
  | expired
  | late
  | handOff
  | parking (stage : ParkStage)
  | releasing (stage : ReleaseStage)
  | gone
  deriving DecidableEq, Repr

/-- The next statement of the submit thread for the transfer it took off the list. -/
inductive SubmitStage
  | count | push | signal
  deriving DecidableEq, Repr

/-- The next statement of the complete thread for the transfer it claimed. -/
inductive CompleteStage
  | uncount | check | deliver | signal
  deriving DecidableEq, Repr

/-- Between popping a completion and claiming its transfer the complete thread has
only the id; from the claim to the end it holds `id_lock`. -/
inductive CompleteThread (τ : Type*)
  | idle
  | popped (sender : τ) (id : Nat)
  | holding (transfer : τ) (stage : CompleteStage)
  | unlocking
  deriving DecidableEq, Repr

/-- The next statement of `drain_zombie_list`. -/
inductive DrainStage
  | swap
  | unlink (claimed : Bool)
  | uncount (claimed : Bool)
  | unpark
  | cancel
  | release (stage : ReleaseStage)
  deriving DecidableEq, Repr

/-- A shared mapping: it was created, the creator has not put its reference yet, the
count of references, and how often it was unmapped. -/
structure SgShare where
  created : Bool := false
  creator : Bool := false
  refcount : Nat := 0
  unmaps : Nat := 0
  deriving DecidableEq, Repr

namespace SgShare

/-- `mx_sg_context_get`. -/
def get (share : SgShare) : SgShare := { share with refcount := share.refcount + 1 }

/-- `mx_sg_context_put`: the last reference unmaps and unpins. -/
def put (share : SgShare) : SgShare :=
  { share with
    refcount := share.refcount - 1
    unmaps := if share.refcount - 1 = 0 then share.unmaps + 1 else share.unmaps }

end SgShare

structure DmaSystem (τ κ : Type*) where
  transfer : τ → DmaTransfer κ
  waiter : τ → Waiter
  context : κ → SgShare
  submit : Option (τ × SubmitStage)
  complete : CompleteThread τ
  cleaner : Option (τ × DrainStage)
  cleanerStopped : Bool
  queueStopped : Bool
  dmaReclaimSafe : Bool
  idTable : Nat → Option τ
  waitCount : Int
  zombieWaitCount : Int

/-- Nothing was submitted yet. -/
def DmaSystem.start {τ κ : Type*} : DmaSystem τ κ where
  transfer _ := {}
  waiter _ := .unused
  context _ := {}
  submit := none
  complete := .idle
  cleaner := none
  cleanerStopped := false
  queueStopped := false
  dmaReclaimSafe := false
  idTable _ := none
  waitCount := 0
  zombieWaitCount := 0

/-- A step of one of the threads, or of the device. -/
inductive DmaAction (τ κ : Type*)
  | createContext (context : κ)
  | allocate (transfer : τ) (sgCtx : Option κ) (noCompletion : Bool) (id : Nat)
  | putCreator (context : κ)
  | abandon (transfer : τ)
  | queue (transfer : τ)
  | startWait (transfer : τ)
  | submitTake (transfer : τ)
  | submitNext
  | deviceComplete (transfer : τ)
  | pop (transfer : τ)
  | claim
  | completeNext
  | observe (transfer : τ)
  | expire (transfer : τ)
  | removeFromSq (transfer : τ) (dead : Bool)
  | giveUp (transfer : τ)
  | park (transfer : τ)
  | release (transfer : τ)
  | inspect (transfer : τ)
  | drain (transfer : τ)
  | drainNext
  | stopQueue
  | declareSafe
  | stopCleaner
  deriving DecidableEq, Repr

variable {τ κ : Type*} [DecidableEq τ] [DecidableEq κ]

/-- The complete thread is between the claim and `transfer_id_complete_unlock`. -/
def CompleteThread.holdsIdLock {τ : Type*} : CompleteThread τ → Bool
  | holding _ _ | unlocking => true
  | idle | popped _ _ => false

namespace DmaSystem

variable (system : DmaSystem τ κ) (index : τ)

def setTransfer (transfer : DmaTransfer κ) : DmaSystem τ κ :=
  { system with transfer := Function.update system.transfer index transfer }

def setWaiter (waiter : Waiter) : DmaSystem τ κ :=
  { system with waiter := Function.update system.waiter index waiter }

/-! ## Submission -/

/-- `mx_sg_context_create`. -/
def createContext (context : κ) : Option (DmaSystem τ κ) :=
  if (system.context context).created then none
  else some { system with
    context := Function.update system.context context
      { created := true, creator := true, refcount := 1, unmaps := 0 } }

/-- `alloc_mx_transfer`, and `alloc_mx_transfer_sg` for a mapping whose creator still
holds it.  `idr_alloc_cyclic` returns an unused id below the one of the ping. -/
def allocate (sgCtx : Option κ) (noCompletion : Bool) (id : Nat) : Option (DmaSystem τ κ) :=
  if system.waiter index = .unused ∧ system.complete.holdsIdLock = false ∧ id < mxPingId ∧
      system.idTable id = none ∧ (noCompletion = true → sgCtx = none) ∧
      (∀ context ∈ sgCtx, (system.context context).creator = true) then
    some { system with
      transfer := Function.update system.transfer index
        { sgCtx := sgCtx, noCompletion := noCompletion, id := id, holdsRef := sgCtx.isSome }
      waiter := Function.update system.waiter index .prepared
      idTable := Function.update system.idTable id (some index)
      context := match sgCtx with
        | none => system.context
        | some context => Function.update system.context context (system.context context).get }
  else none

/-- The submitter drops the reference of the creator. -/
def putCreator (context : κ) : Option (DmaSystem τ κ) :=
  if (system.context context).creator then
    some { system with
      context := Function.update system.context context
        { (system.context context).put with creator := false } }
  else none

/-- A transfer that cannot be queued, because another one of the split or its own
command failed. -/
def abandon : Option (DmaSystem τ κ) :=
  if system.waiter index = .prepared then some (system.setWaiter index (.releasing .desc))
  else none

/-- `mx_transfer_queue` and `mx_transfer_queue_parallel`, under `sq_lock`. -/
def queue : Option (DmaSystem τ κ) :=
  if system.waiter index = .prepared ∧ system.submit = none ∧
      (∀ context ∈ (system.transfer index).sgCtx, (system.context context).creator = false) then
    some ((system.setTransfer index
      { system.transfer index with onSq := true, done := false, queued := true }).setWaiter
        index .submitted)
  else none

/-- The waiter starts, in the submitter or in a work item. -/
def startWait : Option (DmaSystem τ κ) :=
  if system.waiter index = .submitted then some (system.setWaiter index .waiting) else none

/-! ## The submit thread -/

/-- `list_del_init` in the loop of `mx_submit_handler`, which holds `sq_lock`. -/
def submitTake : Option (DmaSystem τ κ) :=
  if system.queueStopped = false ∧ system.submit = none ∧
      (system.transfer index).onSq = true then
    some { system.setTransfer index { system.transfer index with onSq := false } with
      submit := some (index, .count) }
  else none

/-- The rest of a round: `wait_count`, the push, and the signal if there is no
completion to wait for. -/
def submitNext : Option (DmaSystem τ κ) :=
  match system.submit with
  | none => none
  | some (index, .count) =>
    some { system with
      submit := some (index, .push)
      waitCount := system.waitCount +
        if (system.transfer index).noCompletion then 0 else 1 }
  | some (index, .push) =>
    if (system.transfer index).noCompletion then
      some { system.setTransfer index
          { system.transfer index with command := .silent } with
        submit := some (index, .signal) }
    else
      some { system.setTransfer index
          { system.transfer index with command := .owned } with
        submit := none }
  | some (index, .signal) =>
    some { system.setTransfer index { system.transfer index with done := true } with
      submit := none }

/-! ## The device and the complete thread -/

/-- The device completes a command once. -/
def deviceComplete : Option (DmaSystem τ κ) :=
  if (system.transfer index).command = .owned then
    some (system.setTransfer index { system.transfer index with command := .posted })
  else none

/-- `pop_completion`; a completion of the ping would be skipped here. -/
def pop : Option (DmaSystem τ κ) :=
  if system.queueStopped = false ∧ system.complete = .idle ∧
      (system.transfer index).command = .posted then
    some { system.setTransfer index
        { system.transfer index with command := .reported } with
      complete :=
        if (system.transfer index).id = mxPingId then .idle
        else .popped index (system.transfer index).id }
  else none

/-- `transfer_id_claim_completion`. -/
def claim : Option (DmaSystem τ κ) :=
  match system.complete with
  | .popped sender id =>
    match system.idTable id with
    | none => some { system with complete := .idle }
    | some index =>
      if (system.transfer index).waitClaimed then some { system with complete := .idle }
      else
        some { system.setTransfer index
            { system.transfer index with
              waitClaimed := true
              claimed := (system.transfer index).claimed || decide (sender = index) } with
          idTable := Function.update system.idTable id none
          complete := .holding index .uncount }
  | _ => none

/-- What `mx_complete_handler` does with a claimed transfer, under `id_lock`. -/
def completeNext : Option (DmaSystem τ κ) :=
  match system.complete with
  | .holding index .uncount =>
    some { system with
      waitCount := system.waitCount - 1
      complete := .holding index .check }
  | .holding index .check =>
    some { system with
      complete :=
        if (system.transfer index).isZombie then .unlocking else .holding index .deliver }
  | .holding index .deliver => some { system with complete := .holding index .signal }
  | .holding index .signal =>
    some { system.setTransfer index { system.transfer index with done := true } with
      complete := .unlocking }
  | .unlocking => some { system with complete := .idle }
  | .idle | .popped _ _ => none

/-! ## The waiter -/

/-- A wait returns because of the completion. -/
def observe : Option (DmaSystem τ κ) :=
  if (system.waiter index = .waiting ∨ system.waiter index = .late ∨
      system.waiter index = .handOff) ∧ (system.transfer index).done = true then
    some (system.setWaiter index (.releasing .desc))
  else none

/-- The first wait ends by a timeout, a signal, or a dead transport. -/
def expire : Option (DmaSystem τ κ) :=
  if system.waiter index = .waiting ∧ (system.transfer index).done = false then
    some (system.setWaiter index .expired)
  else none

/-- `mx_transfer_remove_from_sq`, and what follows from its result.  A waiter whose
transport is dead, or that waits for a passthrough command, parks the transfer at
once. -/
def removeFromSq (dead : Bool) : Option (DmaSystem τ κ) :=
  if system.waiter index = .expired ∧ system.submit = none then
    if (system.transfer index).onSq then
      some ((system.setTransfer index
        { system.transfer index with onSq := false, removed := true }).setWaiter index
          (.releasing .desc))
    else if (system.transfer index).noCompletion then some (system.setWaiter index .handOff)
    else if dead then some (system.setWaiter index (.parking .mark))
    else some (system.setWaiter index .late)
  else none

/-- The second wait times out. -/
def giveUp : Option (DmaSystem τ κ) :=
  if system.waiter index = .late ∧ (system.transfer index).done = false then
    some (system.setWaiter index (.parking .mark))
  else none

/-- `is_zombie`, `zombie_wait_count`, and the zombie list. -/
def park : Option (DmaSystem τ κ) :=
  match system.waiter index with
  | .parking .mark =>
    some ((system.setTransfer index
      { system.transfer index with isZombie := true }).setWaiter index (.parking .count))
  | .parking .count =>
    some { system.setWaiter index (.parking .enlist) with
      zombieWaitCount := system.zombieWaitCount + 1 }
  | .parking .enlist =>
    some ((system.setTransfer index
      { system.transfer index with zombieEntry := .zombieList }).setWaiter index .gone)
  | _ => none

/-! ## Teardown -/

/-- One statement of the teardown, and the stage after it.  `transfer_id_free` takes
`id_lock`. -/
def releaseStatement :
    ReleaseStage → Option (DmaSystem τ κ × Option ReleaseStage)
  | .desc => some (system, some .sg)
  | .sg =>
    some ({ system.setTransfer index { system.transfer index with holdsRef := false } with
      context := match (system.transfer index).sgCtx with
        | none => system.context
        | some context =>
          Function.update system.context context (system.context context).put }, some .id)
  | .id =>
    if system.complete.holdsIdLock then none
    else
      some ({ system with
        idTable :=
          if system.idTable (system.transfer index).id = some index then
            Function.update system.idTable (system.transfer index).id none
          else system.idTable }, some .lease)
  | .lease => some (system, some .slab)
  | .slab =>
    some (system.setTransfer index
      { system.transfer index with frees := (system.transfer index).frees + 1 }, none)

def release : Option (DmaSystem τ κ) :=
  match system.waiter index with
  | .releasing stage =>
    (system.releaseStatement index stage).map fun outcome =>
      outcome.1.setWaiter index
        (match outcome.2 with
        | some stage => .releasing stage
        | none => .gone)
  | _ => none

/-! ## The zombie cleaner -/

/-- One round of the collecting loop, which looks for zombies that are done. -/
def inspect : Option (DmaSystem τ κ) :=
  if system.cleanerStopped = false ∧ system.cleaner = none ∧
      (system.transfer index).zombieEntry = .zombieList then
    if (system.transfer index).waitClaimed then
      some (system.setTransfer index
        { system.transfer index with zombieEntry := .toCleanup })
    else some system
  else none

/-- The next entry of `to_cleanup`. -/
def drain : Option (DmaSystem τ κ) :=
  if system.cleaner = none ∧ (system.transfer index).zombieEntry = .toCleanup then
    some { system with cleaner := some (index, .swap) }
  else none

/-- The body of `drain_zombie_list`. -/
def drainNext : Option (DmaSystem τ κ) :=
  match system.cleaner with
  | none => none
  | some (index, .swap) =>
    some { system.setTransfer index { system.transfer index with waitClaimed := true } with
      cleaner := some (index, .unlink !(system.transfer index).waitClaimed) }
  | some (index, .unlink claimed) =>
    some { system.setTransfer index
        { system.transfer index with zombieEntry := .unlinked } with
      cleaner := some (index, .uncount claimed) }
  | some (index, .uncount claimed) =>
    some { system with
      waitCount := system.waitCount - if claimed then 1 else 0
      cleaner := some (index, .unpark) }
  | some (index, .unpark) =>
    some { system with
      zombieWaitCount := system.zombieWaitCount - 1
      cleaner := some (index, .cancel) }
  | some (index, .cancel) => some { system with cleaner := some (index, .release .desc) }
  | some (index, .release stage) =>
    (system.releaseStatement index stage).map fun outcome =>
      { outcome.1 with cleaner := outcome.2.map fun stage => (index, .release stage) }

/-- `mx_stop_queue_threads`, which waits for the handlers to return. -/
def stopQueue : Option (DmaSystem τ κ) :=
  if system.submit = none ∧ system.complete = .idle then
    some { system with queueStopped := true }
  else none

/-- `destroy_mx_pdev` declares the memory safe once the protocol is stopped. -/
def declareSafe : Option (DmaSystem τ κ) :=
  if system.queueStopped then some { system with dmaReclaimSafe := true } else none

/-- The end of `zombie_cleanup_handler`: all zombies are taken over, if that is safe. -/
def stopCleaner : Option (DmaSystem τ κ) :=
  if system.cleanerStopped = false ∧ system.cleaner = none then
    some { system with
      cleanerStopped := true
      transfer :=
        if system.dmaReclaimSafe then fun index =>
          { system.transfer index with
            zombieEntry :=
              if (system.transfer index).zombieEntry = .zombieList then .toCleanup
              else (system.transfer index).zombieEntry }
        else system.transfer }
  else none

end DmaSystem

def dmaStep (system : DmaSystem τ κ) : DmaAction τ κ → Option (DmaSystem τ κ)
  | .createContext context => system.createContext context
  | .allocate index sgCtx noCompletion id => system.allocate index sgCtx noCompletion id
  | .putCreator context => system.putCreator context
  | .abandon index => system.abandon index
  | .queue index => system.queue index
  | .startWait index => system.startWait index
  | .submitTake index => system.submitTake index
  | .submitNext => system.submitNext
  | .deviceComplete index => system.deviceComplete index
  | .pop index => system.pop index
  | .claim => system.claim
  | .completeNext => system.completeNext
  | .observe index => system.observe index
  | .expire index => system.expire index
  | .removeFromSq index dead => system.removeFromSq index dead
  | .giveUp index => system.giveUp index
  | .park index => system.park index
  | .release index => system.release index
  | .inspect index => system.inspect index
  | .drain index => system.drain index
  | .drainNext => system.drainNext
  | .stopQueue => system.stopQueue
  | .declareSafe => system.declareSafe
  | .stopCleaner => system.stopCleaner

end MxDriver
