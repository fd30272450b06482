import MxDriver.AdminPrograms
import MxDriver.TransitionSystem

/-!
# Sequences of calls on the admin queue

The driver configures the I/O queues, releases them, and recovers from lost completions.
Each call runs until it returns, with any timing of the device.  In every such sequence
the driver keeps track of the queues of the device, provided that the queues are not
configured a second time while some are on record and not released while the command that
creates the first one is still on its way.
-/

namespace MxDriver

open Polling AdminState AdminProgram

variable {ω ρ : Type}

inductive AdminCall
  | configure (allocated started : Ret)
  | release
  | recover
  deriving DecidableEq, Repr

def AdminCall.program (elsewhere : ρ → ω → ω) : AdminCall → AdminProgram ω ρ Ret
  | configure allocated started => configureIoQueue elsewhere allocated started
  | release => releaseIoQueue elsewhere
  | recover => recoverMxQueue elsewhere

/-- A call with the turns of the device that it takes, or events between two calls. -/
inductive AdminAction (ρ : Type)
  | call (call : AdminCall) (turns : List (List (AdminEvent ρ)))
  | elapse (events : List (AdminEvent ρ))
  deriving DecidableEq, Repr

def adminStep (elsewhere : ρ → ω → ω) (state : AdminState ω) :
    AdminAction ρ → Option (AdminState ω)
  | .call call turns =>
    match call.program elsewhere turns state with
    | .returned _ _ state => some state
    | .waiting _ => none
  | .elapse events => some (state.environment elsewhere events)

/-- The admin queue is configured and nothing else is. -/
def adminStart (barMappedSize : Nat) (others : ω) : AdminState ω :=
  AdminState.configureAdminQueue { barMappedSize := barMappedSize, others := others }

/-- Queues are configured only while none is on record, and they are not released while
the completion queue may still come into being. -/
def AdminAction.InOrder (state : AdminState ω) : AdminAction ρ → Prop
  | .call (.configure none _) _ => state.marks.queues = {}
  | .call .release _ =>
    ¬(state.admin.adminPending = true ∧ state.admin.adminPendingOpcode = .createIoCq)
  | _ => True

instance (state : AdminState ω) (action : AdminAction ρ) : Decidable (action.InOrder state) := by
  unfold AdminAction.InOrder
  split <;> infer_instance

/-- The driver keeps track of the queues. -/
structure QueuesTracked (state : AdminState ω) : Prop where
  outstanding : state.device.outstanding ≤ 1
  waitCount : state.admin.waitCount = if state.admin.adminPending then 1 else 0
  desynced : state.admin.adminDesynced = true → state.admin.adminPending = true
  recordedOnce : state.log.filterMap AdminLogEntry.submittedOpcode =
    state.log.filterMap AdminLogEntry.recordedOpcode ++
      if state.admin.adminPending then [state.admin.adminPendingOpcode] else []
  record : state.admin.adminPending = false → state.marks.queues = state.device.queues
  cqLast : ∀ command device, .submitted command device ∈ state.log →
    command.opcode = .deleteIoCq → device.queues.sq = none ∧ device.outstanding = 0
  disabledLast : ∀ pending device, .disabled pending device ∈ state.log →
    pending = false ∧ device.outstanding = 0 ∧ device.queues = {}

section Invariant

variable {elsewhere : ρ → ω → ω} {keeps : AdminFrame ω → Prop} {state : AdminState ω}

theorem QueuesTracked.of_tracked (tracked : Tracked keeps state) : QueuesTracked state := by
  rcases tracked with ⟨recorded, poisoned, idle⟩ | ⟨marks, command, busy⟩
  · exact
    { outstanding := by simp [idle.device, AdminDevice.outstanding]
      waitCount := by simp [idle.waitCount, idle.pending]
      desynced := by
        have synced : state.admin.adminDesynced = false :=
          congrArg AdminMarks.desynced idle.marks_eq
        simp [synced]
      recordedOnce := by simpa [idle.pending] using idle.log.once
      record := fun _ => by rw [idle.marks_eq, idle.device]
      cqLast := fun command device logged => idle.log.ordered _ logged
      disabledLast := fun pending device logged => idle.log.clearedLast _ logged }
  · exact
    { outstanding := Nat.le_of_eq busy.device.outstanding_eq
      waitCount := by simp [busy.waitCount, busy.pending]
      desynced := fun _ => busy.pending
      recordedOnce := by simpa [busy.pending, busy.opcode] using busy.log.once
      record := by simp [busy.pending]
      cqLast := fun command device logged => busy.log.ordered _ logged
      disabledLast := fun pending device logged => busy.log.clearedLast _ logged }

theorem tracked_of_settled (settled : Settled keeps state) : Tracked keeps state := by
  rcases settled with idle | ⟨recorded, command, busy⟩
  · exact .inl idle
  · exact .inr ⟨_, command, busy⟩

/-- The admin queue stays configured.  This is all that the calls need to know. -/
def AdminPresent (frame : AdminFrame ω) : Prop := frame.hasAdminQueue = true

theorem adminPresent_undisturbed : Undisturbed elsewhere (@AdminPresent ω) :=
  fun _ _ present => present

theorem settled_of_stopped {poisoned : Bool} (stopped : Stopped AdminPresent poisoned state) :
    Settled AdminPresent state := by
  obtain ⟨recorded, -, idle⟩ := stopped
  apply settled_of_idle (idle.mono _)
  rintro _ ⟨frame, present, rfl⟩
  exact present

variable (elsewhere)

theorem configure_meets (allocated started : Ret) :
    Meets (fun state : AdminState ω => Settled AdminPresent state ∧
        (allocated = none → state.marks.queues = {}))
      (configureIoQueue elsewhere allocated started) (fun _ => Settled AdminPresent)
      (Tracked AdminPresent) := by
  cases allocated with
  | some error => exact meets_pure fun _ start => start.1
  | none =>
    have returns : ∀ {poisoned : Bool} (ret : Ret) (state : AdminState ω),
        configurePost AdminPresent poisoned ret state → Settled AdminPresent state := by
      rintro poisoned (_ | error) state ended
      · obtain ⟨ioQueue, idle⟩ := ended
        exact settled_of_idle idle
      · exact ended
    rintro turns state ⟨⟨recorded, poisoned, idle⟩ | ⟨recorded, command, busy⟩, none_left⟩
    · have none_left := none_left rfl
      rw [idle.marks_eq] at none_left
      exact (configureIoQueue_meets adminPresent_undisturbed (fun _ => id) none_left started).mono
        (fun _ => id) returns (fun _ => id) turns state idle
    · have none_left := none_left rfl
      rw [busy.marks_eq] at none_left
      exact (configureIoQueue_desynced (fun _ => id) none_left started).mono
        (fun _ => id) (@returns true) (fun _ => id) turns state busy

theorem release_meets :
    Meets (fun state : AdminState ω => Settled AdminPresent state ∧
        ¬(state.admin.adminPending = true ∧ state.admin.adminPendingOpcode = .createIoCq))
      (releaseIoQueue elsewhere) (fun _ => Settled AdminPresent) (Tracked AdminPresent) := by
  rintro turns state ⟨⟨recorded, poisoned, idle⟩ | ⟨recorded, command, busy⟩, inOrder⟩
  · cases recorded with
    | none =>
      exact releaseIoQueue_unconfigured.mono (fun _ => id)
        (fun _ _ ended => settled_of_idle ended.2) (fun _ => id) turns state idle
    | some ioQueue =>
      apply (releaseIoQueue_meets adminPresent_undisturbed fun _ => id).mono
        (fun _ => id) _ (fun _ => id) turns state idle
      rintro (_ | error) state ended
      · exact settled_of_stopped ended
      · exact ended
  · obtain ⟨ioQueue, rfl⟩ := Option.isSome_iff_exists.mp busy.ioQueue
    have later : command.opcode ≠ .createIoCq := by
      intro first
      exact inOrder ⟨busy.pending, busy.opcode.trans first⟩
    exact (releaseIoQueue_desynced (fun _ => id) later).mono
      (fun _ => id) (fun _ _ => And.right) (fun _ => id) turns state busy

theorem recover_meets :
    Meets (Settled (@AdminPresent ω)) (recoverMxQueue elsewhere) (fun _ => Settled AdminPresent)
      (Tracked AdminPresent) := by
  apply (recoverMxQueue_meets adminPresent_undisturbed fun _ => id).mono (fun _ => id) _ fun _ => id
  rintro (_ | error) state ended
  · exact settled_of_stopped ended
  · exact ended.2.1

theorem call_meets (call : AdminCall) (turns : List (List (AdminEvent ρ)))
    (settled : Settled AdminPresent state) (inOrder : (AdminAction.call call turns).InOrder state) :
    Ends (fun _ => Settled AdminPresent) (Tracked AdminPresent)
      (call.program elsewhere turns state) := by
  cases call with
  | configure allocated started =>
    apply configure_meets elsewhere allocated started turns state ⟨settled, _⟩
    rintro rfl
    exact inOrder
  | release => exact release_meets elsewhere turns state ⟨settled, inOrder⟩
  | recover => exact recover_meets elsewhere turns state settled

variable {elsewhere}

theorem settled_step {next : AdminState ω} {action : AdminAction ρ}
    (settled : Settled AdminPresent state) (inOrder : action.InOrder state)
    (step : adminStep elsewhere state action = some next) : Settled AdminPresent next := by
  cases action with
  | call call turns =>
    have ends := call_meets elsewhere call turns settled inOrder
    rw [adminStep] at step
    split at step
    · rename_i outcome
      rw [outcome] at ends
      exact Option.some.inj step ▸ ends
    · cases step
  | elapse events =>
    cases step
    rcases settled with ⟨recorded, poisoned, idle⟩ | ⟨recorded, command, busy⟩
    · apply settled_of_idle
      exact environment_keeps (fun _ event idle => idle.event adminPresent_undisturbed event)
        _ _ idle
    · apply settled_of_busy
      exact environment_keeps (fun _ event busy => busy.event adminPresent_undisturbed event)
        _ _ busy

theorem settled_start (barMappedSize : Nat) (others : ω) :
    Settled AdminPresent (adminStart barMappedSize others) :=
  settled_of_idle
    { frame := rfl
      marks_eq := rfl
      waitCount := rfl
      pending := rfl
      device := rfl
      log := ⟨rfl, nofun, nofun⟩ }

end Invariant

section Runs

/-- No other thread is there. -/
def alone : Empty → Unit → Unit := fun _ _ => ()

/-- The turns of a command that completes at once. -/
def promptTurns (result sqHead : Nat) : List (List (AdminEvent Empty)) :=
  [[], [.execute result sqHead, .report]]

/-- The turns of a command whose completion does not come in time. -/
def lostTurns : List (List (AdminEvent Empty)) := [] :: List.replicate adminTimeout []

/-- The first DELETE is executed after its timeout and reported to the recovery. -/
def lateDeleteRun : List (AdminAction Empty) :=
  [.call (.configure none none) (promptTurns 3 1 ++ promptTurns 3 2),
    .call .release lostTurns,
    .elapse [.execute 0 3],
    .call .recover ([.report] :: promptTurns 0 4)]

/-- CREATE_IO_CQ gets lost and the queues are released. -/
def lostCreateRun : List (AdminAction Empty) :=
  [.call (.configure none none) lostTurns, .call .release []]

/-- The first DELETE gets lost and the queues are configured again before the recovery,
which then finds none on record. -/
def configuredTwiceRun : List (AdminAction Empty) :=
  [.call (.configure none none) (promptTurns 3 1 ++ promptTurns 3 2),
    .call .release lostTurns,
    .call (.configure none none) [],
    .elapse [.execute 0 3],
    .call .recover [[.report]]]

end Runs

/-- In every sequence of calls that are in order, and while the last of them waits, the
driver keeps track of the queues, and a drain never finds the admin queue lost. -/
theorem admin_queues_tracked {elsewhere : ρ → ω → ω} {barMappedSize : Nat} {others : ω}
    {state : AdminState ω}
    (reached : ReachedBy (adminStep elsewhere) (fun state action => action.InOrder state)
      (adminStart barMappedSize others) state) :
    QueuesTracked state ∧
      (∀ call turns, (AdminAction.call call turns).InOrder state →
        QueuesTracked (call.program elsewhere turns state).state) ∧
      ∀ turns rest final,
        drainPendingAdmin elsewhere turns state ≠ .returned (some .euclean) rest final := by
  have settled : Settled AdminPresent state := by
    apply reached.invariant (settled_start barMappedSize others)
    intro current action next settled inOrder step
    exact settled_step settled inOrder step
  refine ⟨.of_tracked (tracked_of_settled settled), ?_, ?_⟩
  · intro call turns inOrder
    have ends := call_meets elsewhere call turns settled inOrder
    cases outcome : call.program elsewhere turns state with
    | returned ret rest final =>
      rw [outcome] at ends
      exact .of_tracked (tracked_of_settled ends)
    | waiting final =>
      rw [outcome] at ends
      exact .of_tracked ends
  · intro turns rest final lost
    have ends := drainPendingAdmin_meets (@adminPresent_undisturbed ω ρ elsewhere) (fun _ => id)
      turns state settled
    rw [lost] at ends
    cases ends.1

theorem admin_queues_tracked_lateDelete :
    ∃ state, runAllowed (adminStep alone) (fun state action => action.InOrder state)
        (adminStart 0x2000 ()) lateDeleteRun = some state ∧
      state.queueDmaProgrammed = false ∧ state.device.queues = {} ∧ QueuesTracked state := by
  have outcome : ((runAllowed (adminStep alone) (fun state action => action.InOrder state)
      (adminStart 0x2000 ()) lateDeleteRun).map fun state =>
        (state.queueDmaProgrammed, state.device.queues)) = some (false, {}) := by
    decide +kernel
  obtain ⟨state, run, ended⟩ := Option.map_eq_some_iff.mp outcome
  simp only [Prod.mk.injEq] at ended
  exact ⟨state, run, ended.1, ended.2, (admin_queues_tracked (reachedBy_of_runAllowed run)).1⟩

/-- Out of order the addresses are cleared while a command is pending, or the record of a
queue is lost. -/
theorem admin_queues_untracked :
    (∃ state, Reached (adminStep alone) (adminStart 0x2000 ()) state ∧
      ∃ device, AdminLogEntry.disabled true device ∈ state.log) ∧
    ∃ state, Reached (adminStep alone) (adminStart 0x2000 ()) state ∧
      state.admin.adminPending = false ∧ state.marks.queues ≠ state.device.queues := by
  constructor
  · have outcome : ((runActions (adminStep alone) (adminStart 0x2000 ()) lostCreateRun).map
        AdminState.log) = some [.submitted ⟨.createIoCq, 1, 0⟩ {},
          .disabled true { submissions := [⟨.createIoCq, 1, 0⟩] }] := by
      decide +kernel
    obtain ⟨state, run, log⟩ := Option.map_eq_some_iff.mp outcome
    refine ⟨state, reached_of_runActions run, { submissions := [⟨.createIoCq, 1, 0⟩] }, ?_⟩
    simp [log]
  · have outcome : ((runActions (adminStep alone) (adminStart 0x2000 ()) configuredTwiceRun).map
        fun state => (state.admin.adminPending, state.marks.queues, state.device.queues)) =
        some (false, {}, ⟨some 3, none⟩) := by
      decide +kernel
    obtain ⟨state, run, ended⟩ := Option.map_eq_some_iff.mp outcome
    simp only [Prod.mk.injEq] at ended
    obtain ⟨pending, recorded, exists_⟩ := ended
    refine ⟨state, reached_of_runActions run, pending, ?_⟩
    rw [recorded, exists_]
    decide

end MxDriver
