import MxDriver.NodeAccess

/-!
# Nobody uses what a teardown has freed

The counter `io_ref` is exact at every moment, so that it reaches zero only when the last
body and the last waiter have left; and since nobody gets in after the kill, that lasts.
The attributes and the mappings go the same way, each by its own rule.
-/

namespace MxDriver

namespace NodeSystem

variable {θ ω ψ ν : Type*} [Fintype θ] [Fintype ω] [Fintype ν]

/-- The holders of `io_ref`: callers behind the first statement of
`mxdma_device_prepare`, and work items. -/
def users (system : NodeSystem θ ω ψ ν) : Nat :=
  tally (· ≠ .outside) system.body + tally (· = true) system.waitWork

/-- The VMAs. -/
def vmas (system : NodeSystem θ ω ψ ν) : Nat := tally (· ≠ .absent) system.vma

structure Ok (system : NodeSystem θ ω ψ ν) : Prop where
  users : system.ioRef.Counts system.users
  dying : system.ioRef.dying = system.stage.pastKill
  fence : system.stage.pastFence = true → system.users = 0
  nodes : system.stage.pastNodes = true → system.published = false
  attributes : system.stage.pastAttributes = true → ∀ reader, system.inAttribute reader = false
  counted : system.barCount = system.vmas
  mapping : ∀ vma, system.vma vma = .mapped → system.barMapping = true
  unmapped : system.stage.pastUnmap = true → ∀ vma, system.vma vma ≠ .mapped
  workqueue : system.asyncWq = false → system.stage.pastUnmap = true

variable {system next : NodeSystem θ ω ψ ν}

theorem ok_start : ({} : NodeSystem θ ω ψ ν).Ok where
  users := by simp [users, tally, KillableRef.Counts]
  dying := rfl
  fence := by simp [NodeStage.pastFence]
  nodes := by simp [NodeStage.pastNodes]
  attributes := by simp [NodeStage.pastAttributes]
  counted := by simp [vmas, tally]
  mapping := by simp
  unmapped := by simp [NodeStage.pastUnmap]
  workqueue := by simp

omit [Fintype ν] in
theorem users_eq_zero_iff :
    system.users = 0 ↔
      (∀ thread, system.body thread = .outside) ∧ ∀ work, system.waitWork work = false := by
  simp [users, tally_eq_zero_iff]

/-- Behind the fence nobody is inside. -/
theorem Ok.outside (ok : system.Ok) (past : system.stage.pastFence = true) (thread : θ) :
    system.body thread = .outside :=
  (users_eq_zero_iff.mp (ok.fence past)).1 thread

section Bodies

variable [DecidableEq θ] {thread : θ}

omit [Fintype ν] in
theorem users_setBody (system : NodeSystem θ ω ψ ν) (thread : θ) (body : BodyStage) :
    (system.setBody thread body).users + (if system.body thread ≠ .outside then 1 else 0) =
      system.users + if body ≠ .outside then 1 else 0 := by
  have moved := tally_update (· ≠ BodyStage.outside) system.body thread body
  simp only [users, setBody]
  omega

theorem Ok.putBody (ok : system.Ok) (holds : system.body thread ≠ .outside) :
    (system.putBody thread).Ok := by
  have moved := users_setBody system thread .outside
  simp only [holds, ne_eq, not_false_eq_true, not_true_eq_false, if_true, if_false,
    Nat.add_zero] at moved
  have behind := ok.users
  rw [← moved] at behind
  refine { ok with users := behind.put, fence := fun past => ?_ }
  exact absurd (ok.outside past thread) holds

theorem Ok.setBody (ok : system.Ok) (holds : system.body thread ≠ .outside) {body : BodyStage}
    (still : body ≠ .outside) : (system.setBody thread body).Ok := by
  have moved := users_setBody system thread body
  simp only [holds, still, ne_eq, not_false_eq_true, if_true, Nat.add_right_cancel_iff] at moved
  refine { ok with users := ?_, fence := fun past => ?_ }
  · rw [moved]
    exact ok.users
  · exact absurd (ok.outside past thread) holds

theorem Ok.mxdmaDevicePrepare (ok : system.Ok)
    (stepped : system.mxdmaDevicePrepare thread = some next) : next.Ok := by
  unfold NodeSystem.mxdmaDevicePrepare at stepped
  cases body : system.body thread with rw [body] at stepped
  | outside =>
    dsimp only at stepped
    split at stepped
    · obtain rfl := Option.some.inj stepped
      exact ok
    · rename_i ref got
      obtain rfl := Option.some.inj stepped
      have moved := users_setBody system thread .counted
      simp only [body, ne_eq, not_true_eq_false, if_false, reduceCtorEq, not_false_eq_true,
        if_true, Nat.add_zero] at moved
      have live : system.ioRef.dying = false ∧ ref.dying = false := by
        unfold KillableRef.tryGetLive at got
        split at got
        · cases got
        · rename_i live
          obtain rfl := Option.some.inj got
          exact ⟨by simpa using live, by simpa using live⟩
      refine { ok with users := ?_, dying := ?_, fence := fun past => ?_ }
      · change ref.Counts (system.setBody thread .counted).users
        rw [moved]
        exact ok.users.tryGetLive got
      · exact live.2.trans (live.1.symm.trans ok.dying)
      · have killed : system.stage.pastKill = false := ok.dying.symm.trans live.1
        change system.stage.pastFence = true at past
        cases stage : system.stage <;>
          simp [stage, NodeStage.pastFence, NodeStage.pastKill] at past killed
  | counted =>
    dsimp only at stepped
    split at stepped <;> obtain rfl := Option.some.inj stepped
    · exact ok.putBody (by simp [body])
    · exact ok.setBody (by simp [body]) (by simp)
  | notRemoved =>
    dsimp only at stepped
    split at stepped <;> obtain rfl := Option.some.inj stepped
    · exact ok.setBody (by simp [body]) (by simp)
    · exact ok.putBody (by simp [body])
  | inside => cases stepped

end Bodies

section Works

variable [DecidableEq ω] {work : ω}

theorem Ok.mxTransferScheduleWait {thread : θ} (ok : system.Ok)
    (stepped : system.mxTransferScheduleWait thread work = some next) : next.Ok := by
  simp only [NodeSystem.mxTransferScheduleWait, Option.ite_none_right_eq_some,
    Option.some.injEq] at stepped
  obtain ⟨⟨inside, fresh⟩, rfl⟩ := stepped
  have more := tally_update_enter (p := (· = true)) system.waitWork work true (by simp [fresh]) rfl
  refine { ok with users := ?_, fence := fun past => ?_ }
  · have counts := ok.users.get
    simp only [NodeSystem.users, more] at counts ⊢
    exact counts
  · exact absurd (ok.outside past thread) (by simp [inside])

theorem Ok.mxTransferWaitWork (ok : system.Ok)
    (stepped : system.mxTransferWaitWork work = some next) : next.Ok := by
  simp only [NodeSystem.mxTransferWaitWork, Option.ite_none_right_eq_some,
    Option.some.injEq] at stepped
  obtain ⟨running, rfl⟩ := stepped
  have fewer := tally_update_leave (p := (· = true)) system.waitWork work false running (by simp)
  refine { ok with users := ?_, fence := fun past => ?_ }
  · have counts := ok.users
    simp only [NodeSystem.users, ← fewer, ← Nat.add_assoc] at counts ⊢
    exact counts.put
  · have none := (users_eq_zero_iff.mp (ok.fence past)).2 work
    simp [running] at none

end Works

theorem Ok.enterAttribute [DecidableEq ψ] {reader : ψ} (ok : system.Ok)
    (stepped : system.enterAttribute reader = some next) : next.Ok := by
  simp only [NodeSystem.enterAttribute, Option.ite_none_right_eq_some, Option.some.injEq] at stepped
  obtain ⟨⟨published, -⟩, rfl⟩ := stepped
  refine { ok with attributes := fun past => ?_ }
  have unpublished := ok.nodes (by
    change system.stage.pastAttributes = true at past
    cases stage : system.stage <;>
      simp [stage, NodeStage.pastAttributes, NodeStage.pastNodes] at past ⊢)
  simp [published] at unpublished

theorem Ok.leaveAttribute [DecidableEq ψ] {reader : ψ} (ok : system.Ok)
    (stepped : system.leaveAttribute reader = some next) : next.Ok := by
  simp only [NodeSystem.leaveAttribute, Option.ite_none_right_eq_some, Option.some.injEq] at stepped
  obtain ⟨-, rfl⟩ := stepped
  refine { ok with attributes := fun past other => ?_ }
  by_cases same : other = reader
  · subst same
    exact Function.update_self ..
  · exact (Function.update_of_ne same ..).trans (ok.attributes past other)

section Mappings

variable [DecidableEq ν] {vma : ν}

omit [DecidableEq ν] in
/-- The count of the map does not wrap as long as it counts every VMA. -/
theorem Ok.incU32_barCount (ok : system.Ok) (room : system.vmas + 1 ≤ u32Max) :
    incU32 system.barCount = system.vmas + 1 := by
  rw [ok.counted]
  exact incU32_of_ne_max (by omega) (by omega)

theorem Ok.mxBarMmap {thread : θ} (ok : system.Ok) (room : next.vmas ≤ u32Max)
    (stepped : system.mxBarMmap thread vma = some next) : next.Ok := by
  simp only [NodeSystem.mxBarMmap, Option.ite_none_right_eq_some] at stepped
  obtain ⟨⟨inside, fresh⟩, stepped⟩ := stepped
  split at stepped
  · obtain rfl := Option.some.inj stepped
    have more := tally_update_enter (p := (· ≠ .absent)) system.vma vma .mapped
      (by simp [fresh]) (by simp)
    refine { ok with counted := ?_, mapping := fun _ _ => rfl, unmapped := fun past => ?_ }
    · exact (ok.incU32_barCount (more ▸ room)).trans more.symm
    · have fenced : system.stage.pastFence = true := by
        change system.stage.pastUnmap = true at past
        cases stage : system.stage <;>
          simp [stage, NodeStage.pastUnmap, NodeStage.pastFence] at past ⊢
      exact absurd (ok.outside fenced thread) (by simp [inside])
  · obtain rfl := Option.some.inj stepped
    exact ok

theorem Ok.mxBarVmaOpen {copy : ν} (ok : system.Ok) (room : next.vmas ≤ u32Max)
    (stepped : system.mxBarVmaOpen vma copy = some next) : next.Ok := by
  simp only [NodeSystem.mxBarVmaOpen, Option.ite_none_right_eq_some, Option.some.injEq] at stepped
  obtain ⟨⟨present, fresh⟩, rfl⟩ := stepped
  have more := tally_update_enter (p := (· ≠ .absent)) system.vma copy (system.vma vma)
    (by simp [fresh]) present
  have state (other : ν) : Function.update system.vma copy (system.vma vma) other =
      system.vma other ∨
      Function.update system.vma copy (system.vma vma) other = system.vma vma := by
    by_cases same : other = copy
    · subst same
      exact .inr (Function.update_self ..)
    · exact .inl (Function.update_of_ne same ..)
  refine { ok with
    counted := ?_, mapping := fun other mapped => ?_, unmapped := fun past other mapped => ?_ }
  · exact (ok.incU32_barCount (more ▸ room)).trans more.symm
  · rcases state other with same | same
    · exact ok.mapping other (same.symm.trans mapped)
    · exact ok.mapping vma (same.symm.trans mapped)
  · rcases state other with same | same
    · exact ok.unmapped past other (same.symm.trans mapped)
    · exact ok.unmapped past vma (same.symm.trans mapped)

theorem Ok.mxBarVmaClose (ok : system.Ok)
    (stepped : system.mxBarVmaClose vma = some next) : next.Ok := by
  simp only [NodeSystem.mxBarVmaClose, Option.ite_none_right_eq_some, Option.some.injEq] at stepped
  obtain ⟨present, rfl⟩ := stepped
  have fewer := tally_update_leave (p := (· ≠ .absent)) system.vma vma .absent present (by simp)
  have counted := ok.counted
  have still (other : ν) (mapped : Function.update system.vma vma .absent other = .mapped) :
      system.vma other = .mapped := by
    by_cases same : other = vma
    · subst same
      rw [Function.update_self] at mapped
      cases mapped
    · rwa [Function.update_of_ne same] at mapped
  refine { ok with
    counted := ?_, mapping := fun other mapped => ?_,
    unmapped := fun past other mapped => ok.unmapped past other (still other mapped) }
  · simp only [vmas] at counted ⊢
    omega
  · -- another VMA is left, so this was not the last one
    have there : Function.update system.vma vma .absent other ≠ .absent := by
      simp [show Function.update system.vma vma .absent other = .mapped from mapped]
    have another : 0 < tally (· ≠ .absent) (Function.update system.vma vma .absent) :=
      tally_pos there
    have more : system.barCount ≠ 1 := by
      simp only [vmas] at counted
      omega
    rw [if_neg more]
    exact ok.mapping other (still other mapped)

end Mappings

/-! ## The teardown -/

/-- Two statements of the teardown between which no user is affected. -/
def SameMarks (stage after : NodeStage) : Prop :=
  after.pastKill = stage.pastKill ∧ after.pastFence = stage.pastFence ∧
    after.pastNodes = stage.pastNodes ∧ after.pastAttributes = stage.pastAttributes ∧
    after.pastUnmap = stage.pastUnmap

theorem Ok.moveTo (ok : system.Ok) (after : NodeStage) (same : SameMarks system.stage after) :
    Ok { system with stage := after } := by
  obtain ⟨kill, fence, nodes, attributes, unmap⟩ := same
  exact
    { ok with
      dying := ok.dying.trans kill.symm
      fence := fun past => ok.fence (fence.symm.trans past)
      nodes := fun past => ok.nodes (nodes.symm.trans past)
      attributes := fun past => ok.attributes (attributes.symm.trans past)
      unmapped := fun past => ok.unmapped (unmap.symm.trans past)
      workqueue := fun gone => unmap.trans (ok.workqueue gone) }

/-- Before the mappings are removed the workqueue is there. -/
theorem Ok.asyncWq (ok : system.Ok) (before : system.stage.pastUnmap = false) :
    system.asyncWq = true := by
  rw [← Bool.not_eq_false]
  intro gone
  simp [ok.workqueue gone] at before

theorem Ok.kill (ok : system.Ok) (now : system.stage = .disabled) :
    Ok { system with
      stage := .killed
      ioRef := if system.ioRef.dying then system.ioRef else system.ioRef.kill } := by
  have live : system.ioRef.dying = false := by
    rw [ok.dying, now]
    rfl
  rw [live, if_neg (by simp)]
  exact
    { ok with
      users := ok.users.kill live
      dying := rfl
      fence := by simp [NodeStage.pastFence]
      nodes := by simp [NodeStage.pastNodes]
      attributes := by simp [NodeStage.pastAttributes]
      unmapped := by simp [NodeStage.pastUnmap]
      workqueue := by simp [ok.asyncWq (by rw [now]; rfl)] }

theorem Ok.unmapAll (ok : system.Ok) (now : system.stage = .nodesGone) :
    Ok { system.mxdmaUnmapAllBarVmas with stage := .unmapped } := by
  have dying := ok.dying
  have fence := ok.fence
  have nodes := ok.nodes
  have attributes := ok.attributes
  rw [now] at dying fence nodes attributes
  unfold mxdmaUnmapAllBarVmas
  split
  · refine { ok with
      dying := dying, fence := fence, nodes := nodes, attributes := attributes, counted := ?_,
      mapping := fun vma mapped => absurd mapped (BarMapping.zap_ne_mapped _),
      unmapped := fun _ vma => BarMapping.zap_ne_mapped _, workqueue := fun _ => rfl }
    rw [ok.counted]
    exact tally_congr fun vma => not_congr BarMapping.zap_eq_absent.symm
  · rename_i unset
    refine { ok with
      dying := dying, fence := fence, nodes := nodes, attributes := attributes,
      unmapped := fun _ vma mapped => unset (ok.mapping vma mapped), workqueue := fun _ => rfl }

theorem Ok.destroyMxPdev [Fintype ψ] {safe : Bool} (ok : system.Ok)
    (stepped : system.destroyMxPdev safe = some next) : next.Ok := by
  unfold NodeSystem.destroyMxPdev at stepped
  cases now : system.stage with rw [now] at stepped
  | attached | started | stopped =>
    obtain rfl := Option.some.inj stepped
    exact ok.moveTo _ (by rw [now]; exact ⟨rfl, rfl, rfl, rfl, rfl⟩)
  | removed =>
    obtain rfl := Option.some.inj stepped
    have moved := ok.moveTo .disabled (by rw [now]; exact ⟨rfl, rfl, rfl, rfl, rfl⟩)
    exact { moved with }
  | disabled =>
    obtain rfl := Option.some.inj stepped
    exact ok.kill now
  | killed =>
    simp only [Option.ite_none_right_eq_some, Option.some.injEq] at stepped
    obtain ⟨zero, rfl⟩ := stepped
    have none := (ok.users.isZero_iff.mp zero).2
    have dying := ok.dying
    rw [now] at dying
    exact { ok with
      dying := dying, fence := fun _ => none, nodes := by simp [NodeStage.pastNodes],
      attributes := by simp [NodeStage.pastAttributes],
      unmapped := by simp [NodeStage.pastUnmap],
      workqueue := by simp [ok.asyncWq (by rw [now]; rfl)] }
  | fenced =>
    obtain rfl := Option.some.inj stepped
    have dying := ok.dying
    have fence := ok.fence
    rw [now] at dying fence
    exact { ok with
      dying := dying, fence := fence, nodes := fun _ => rfl,
      attributes := by simp [NodeStage.pastAttributes],
      unmapped := by simp [NodeStage.pastUnmap],
      workqueue := by simp [ok.asyncWq (by rw [now]; rfl)] }
  | unpublished =>
    simp only [Option.ite_none_right_eq_some, Option.some.injEq] at stepped
    obtain ⟨none, rfl⟩ := stepped
    have dying := ok.dying
    have fence := ok.fence
    have nodes := ok.nodes
    rw [now] at dying fence nodes
    exact { ok with
      dying := dying, fence := fence, nodes := nodes, attributes := fun _ => none,
      unmapped := by simp [NodeStage.pastUnmap],
      workqueue := by simp [ok.asyncWq (by rw [now]; rfl)] }
  | nodesGone =>
    obtain rfl := Option.some.inj stepped
    exact ok.unmapAll now
  | unmapped =>
    simp only [Option.ite_none_right_eq_some, Option.some.injEq] at stepped
    obtain ⟨-, rfl⟩ := stepped
    have moved := ok.moveTo (if safe then .stopped else .retained)
      (by rw [now]; cases safe <;> exact ⟨rfl, rfl, rfl, rfl, rfl⟩)
    exact { moved with workqueue := fun _ => by cases safe <;> rfl }
  | retained =>
    simp only [Option.ite_none_right_eq_some, Option.some.injEq] at stepped
    obtain ⟨-, rfl⟩ := stepped
    exact ok.moveTo _ (by rw [now]; exact ⟨rfl, rfl, rfl, rfl, rfl⟩)
  | freed => cases stepped

/-- The step leaves no more VMAs than `bar_map->count` can count. -/
def Room [DecidableEq θ] [DecidableEq ω] [DecidableEq ψ] [DecidableEq ν] [Fintype ψ]
    (system : NodeSystem θ ω ψ ν) (action : NodeAction θ ω ψ ν) : Prop :=
  ∀ next ∈ nodeStep system action, next.vmas ≤ u32Max

instance [DecidableEq θ] [DecidableEq ω] [DecidableEq ψ] [DecidableEq ν] [Fintype ψ]
    (system : NodeSystem θ ω ψ ν) (action : NodeAction θ ω ψ ν) : Decidable (system.Room action) :=
  inferInstanceAs (Decidable (∀ next ∈ nodeStep system action, next.vmas ≤ u32Max))

theorem ok_step [DecidableEq θ] [DecidableEq ω] [DecidableEq ψ] [DecidableEq ν] [Fintype ψ]
    {action : NodeAction θ ω ψ ν} (ok : system.Ok) (room : system.Room action)
    (stepped : nodeStep system action = some next) : next.Ok := by
  cases action with
  | createCdevs =>
    simp only [nodeStep, Option.ite_none_right_eq_some, Option.some.injEq] at stepped
    obtain ⟨now, rfl⟩ := stepped
    exact { ok with nodes := by simp [now, NodeStage.pastNodes] }
  | online =>
    simp only [nodeStep, Option.ite_none_right_eq_some, Option.some.injEq] at stepped
    obtain ⟨-, rfl⟩ := stepped
    exact { ok with }
  | prepare thread => exact ok.mxdmaDevicePrepare stepped
  | finish thread =>
    simp only [nodeStep, mxdmaDeviceFinish, Option.ite_none_right_eq_some,
      Option.some.injEq] at stepped
    obtain ⟨inside, rfl⟩ := stepped
    exact ok.putBody (by simp [inside])
  | scheduleWait thread work => exact ok.mxTransferScheduleWait stepped
  | waitWork work => exact ok.mxTransferWaitWork stepped
  | enterAttribute reader => exact ok.enterAttribute stepped
  | leaveAttribute reader => exact ok.leaveAttribute stepped
  | mmap thread vma => exact ok.mxBarMmap (room next stepped) stepped
  | vmaOpen vma copy => exact ok.mxBarVmaOpen (room next stepped) stepped
  | vmaClose vma => exact ok.mxBarVmaClose stepped
  | destroy safe => exact ok.destroyMxPdev stepped

end NodeSystem

section Runs

variable {θ ω ψ ν : Type*} [DecidableEq θ] [DecidableEq ω] [DecidableEq ψ] [DecidableEq ν]
  [Fintype θ] [Fintype ω] [Fintype ψ] [Fintype ν]

end Runs

end MxDriver
