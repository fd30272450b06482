import MxDriver.Liveness
import MxDriver.QueuePairFifo
import Mathlib.Tactic.SplitIfs

/-!
# The submit thread

Callers append their transfers to the submission list and take them back when they give
up.  The submit thread goes round: under `sq_lock` it walks the list from its head, pushes
one command after the other into the submission ring, and lets the watchdog push a ping;
then it rings the doorbell.  The complete thread and the device work on the rings
meanwhile, and the complete thread and the sysfs attributes on the watchdog's variables.
-/

namespace MxDriver

variable {τ β : Type}

/-- What is pushed: the command of a transfer, or the watchdog's ping. -/
inductive SubmitCommand (τ : Type)
  | transfer (index : τ)
  | ping
  deriving DecidableEq, Repr

def SubmitCommand.transfer? : SubmitCommand τ → Option τ
  | .transfer index => some index
  | .ping => none

/-- The next statement of `mx_submit_handler`: the wait, `spin_lock`, the test for a ping
in the loop, `is_pushable`, the count of the transfer it took, the push, the watchdog, its
push, and `post_submit`. -/
inductive HandlerStage (τ : Type)
  | waiting
  | sampled
  | walking
  | offering
  | taken (index : τ)
  | pushing
  | watching
  | pinging
  | ringing
  deriving DecidableEq, Repr

/-- Whether the thread is between `spin_lock` and `spin_unlock`. -/
def HandlerStage.holdsSqLock : HandlerStage τ → Bool
  | .waiting | .sampled | .ringing => false
  | .walking | .offering | .taken _ | .pushing | .watching | .pinging => true

/-- The queue with everybody who works on it.  `calls` are the transfers of each call of
`mx_transfer_queue` and `mx_transfer_queue_parallel` so far, and `recovered` those that were
taken back. -/
structure SubmitSystem (τ β : Type) where
  sqList : List τ
  stage : HandlerStage τ
  lv : LivenessQueue
  pair : QueuePair (SubmitCommand τ) β
  calls : List (List τ)
  recovered : List τ

def SubmitSystem.start (hz now : Nat) (zeroPayload : β) : SubmitSystem τ β where
  sqList := []
  stage := .waiting
  lv := .start hz now
  pair := .start .ping zeroPayload
  calls := []
  recovered := []

/-- The watchdog pushes a ping: again if the pong is overdue, or for the first time. -/
def LivenessQueue.Pings (hz : Nat) (queue : LivenessQueue) (pushable : Bool) : Prop :=
  pushable = true ∧ (queue.PongOverdue ∨
    0 < queue.outstanding ∧ queue.stallMs < queue.mxLivenessStalledMs hz ∧
      queue.lvInflight = false)

instance (hz : Nat) (queue : LivenessQueue) (pushable : Bool) :
    Decidable (queue.Pings hz pushable) :=
  inferInstanceAs (Decidable (_ ∧ _))

/-- The steps of the rings that are not those of the submit thread.  `is_popable` goes by
the counter and the flag of the queue. -/
def QueueAction.notSubmit {α : Type} (lv : LivenessQueue) : QueueAction α β → Bool
  | .admitPush _ | .copyCommand | .advanceTail | .ringSqDoorbell => false
  | .admitPop waitCount lvInflight => waitCount == lv.waitCount && lvInflight == lv.lvInflight
  | .copyCompletion | .publishHead | .advanceHead | .ringCqDoorbell | .fetch | .post _ => true

/-- The steps on the watchdog's variables that are not those of the submit thread.
`liveness_enable_store` takes `sq_lock`. -/
def LivenessAction.notSubmit (stage : HandlerStage τ) : LivenessAction → Bool
  | .sampleEnable | .push _ _ | .tick _ => false
  | .storeEnable _ => !stage.holdsSqLock
  | .advance _ | .storeStallMs _ | .storeDeadMs _ | .pop _ | .stamp | .revive | .clear
  | .claim _ | .park | .uncount | .drain => true

namespace SubmitSystem

variable [DecidableEq τ] (depth hz : Nat) (noCompletion : τ → Bool) (system : SubmitSystem τ β)

/-- `mx_transfer_queue` and `mx_transfer_queue_parallel`.  Each transfer is queued once. -/
def mxTransferQueue (batch : List τ) : Option (SubmitSystem τ β) :=
  if system.stage.holdsSqLock = false ∧ (system.calls.flatten ++ batch).Nodup then
    some { system with
      sqList := system.sqList ++ batch
      calls := system.calls ++ [batch] }
  else none

/-- `mx_transfer_remove_from_sq`. -/
def mxTransferRemoveFromSq (index : τ) : Option (SubmitSystem τ β) :=
  if system.stage.holdsSqLock = false then
    if index ∈ system.sqList then
      some { system with
        sqList := system.sqList.erase index
        recovered := index :: system.recovered }
    else some system
  else none

/-- The loop of `mx_submit_handler` at the head of the list. -/
def walk : SubmitSystem τ β :=
  { system with
    stage :=
      if system.sqList = [] ∨ system.lv.lvOn = true ∧ system.lv.lvInflight = true then .watching
      else .offering }

/-- `is_pushable`, and `list_del_init` if there is room. -/
def offer : Option (SubmitSystem τ β) :=
  match system.sqList with
  | [] => none
  | index :: rest =>
    if system.pair.queue.isPushable depth then
      (queueStep depth system.pair (.admitPush (.transfer index))).map fun pair =>
        { system with sqList := rest, pair := pair, stage := .taken index }
    else some { system with stage := .watching }

/-- `push_command`, which copies the command and then advances the tail. -/
def push (after : HandlerStage τ) : Option (SubmitSystem τ β) :=
  match system.pair.pushing with
  | .idle => none
  | .admitted _ =>
    (queueStep depth system.pair .copyCommand).map fun pair => { system with pair := pair }
  | .copied _ =>
    (queueStep depth system.pair .advanceTail).map fun pair =>
      { system with pair := pair, stage := after }

/-- The call of `mx_liveness_watchdog`. -/
def watch : Option (SubmitSystem τ β) :=
  let pushable := system.pair.queue.isPushable depth
  if system.lv.lvOn then
    let watched := { system with lv := system.lv.mxLivenessWatchdog hz pushable }
    if system.lv.Pings hz pushable then
      (queueStep depth system.pair (.admitPush .ping)).map fun pair =>
        { watched with pair := pair, stage := .pinging }
    else some { watched with stage := .ringing }
  else some { system with stage := .ringing }

/-- The next statement of `mx_submit_handler`. -/
def mxSubmitHandler : Option (SubmitSystem τ β) :=
  match system.stage with
  | .waiting =>
    -- the wait ends for a transfer, for a signal or after the interval
    some { system with
      lv := { system.lv with lvOn := system.lv.livenessEnable }
      stage := .sampled }
  | .sampled => some { system with stage := .walking }
  | .walking => some system.walk
  | .offering => system.offer depth
  | .taken index =>
    some { system with
      lv := system.lv.submit hz (noCompletion index)
      stage := .pushing }
  | .pushing => system.push depth .walking
  | .watching => system.watch depth hz
  | .pinging => system.push depth .ringing
  | .ringing => some { system with pair := system.pair.ringSqDoorbell, stage := .waiting }

end SubmitSystem

/-- A caller queues or takes back, the submit thread moves on, or another thread or the
device works on the rings or on the watchdog's variables. -/
inductive SubmitAction (τ β : Type)
  | queue (batch : List τ)
  | removeFromSq (index : τ)
  | handler
  | rings (action : QueueAction (SubmitCommand τ) β)
  | liveness (action : LivenessAction)

def submitStep [DecidableEq τ] (depth hz : Nat) (noCompletion : τ → Bool)
    (system : SubmitSystem τ β) : SubmitAction τ β → Option (SubmitSystem τ β)
  | .queue batch => system.mxTransferQueue batch
  | .removeFromSq index => system.mxTransferRemoveFromSq index
  | .handler => system.mxSubmitHandler depth hz noCompletion
  | .rings action =>
    if action.notSubmit system.lv then
      (queueStep depth system.pair action).map fun pair => { system with pair := pair }
    else none
  | .liveness action =>
    if action.notSubmit system.stage then
      (livenessStep hz system.lv action).map fun lv => { system with lv := lv }
    else none

end MxDriver
