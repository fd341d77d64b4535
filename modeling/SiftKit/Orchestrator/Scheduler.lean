import SiftKit.Orchestrator.Plan

/-! # The scheduler

`schedulePass` of `orchestrator/scheduler.ts`: one greedy pass over the plan, and what any
pass guarantees about the claims it leaves held.
-/

namespace SiftKit.Orchestrator

open SiftKit.Config SiftKit.Failure

/-- The model a worker preset runs on: its own selection, else the active model. -/
def workerModelPreset (config : SiftConfig) (worker : SiftPreset) : Except Thrown ModelRuntimePreset := do
  let active ← getActiveModelPreset config
  let context ← resolveModelRequestContext config active ⟨some worker.id, none, none⟩
  return context.modelPreset

def isMutatingTask (config : SiftConfig) (task : OrchestratorTask) : Except Thrown Bool :=
  return workerCanMutate (← requireOrchestratorWorkerPreset config task)

structure OrchestratorTaskClaim where
  taskId : String
  modelId : String
  mutating : Bool
  contextTokens : Nat
  deriving DecidableEq, Repr

/-- What a task claims while it runs: one slot of its worker's model, and the writer slot if it mutates. -/
structure HeldClaim extends OrchestratorTaskClaim where
  slots : Nat
  deriving DecidableEq, Repr

structure OrchestratorModelSlots where
  modelId : String
  slots : Nat
  used : Nat
  deriving DecidableEq, Repr

inductive OrchestratorTaskWait where
  | dependencies (taskIds : List String)
  | writer_slot
  | model_slot (modelId : String)
  deriving DecidableEq, Repr

structure OrchestratorSchedule where
  claims : List OrchestratorTaskClaim
  models : List OrchestratorModelSlots
  writerUsed : Bool
  waits : List (String × OrchestratorTaskWait)
  deriving DecidableEq, Repr

def taskClaim (config : SiftConfig) (task : OrchestratorTask) : Except Thrown HeldClaim := do
  let worker ← requireOrchestratorWorkerPreset config task
  let model ← workerModelPreset config worker
  return {
    taskId := task.id
    mutating := workerCanMutate worker
    modelId := model.id
    contextTokens := model.NumCtx
    slots := model.ParallelSlots }

/-- `new Map(taskStates.map((state) => [state.taskId, state.status])).get(id)`: the last entry wins. -/
def statusOf (taskStates : List OrchestratorTaskState) (id : String) : Option OrchestratorTaskStatus :=
  (taskStates.reverse.find? fun state => state.taskId == id).map OrchestratorTaskState.status

def taskWait (task : OrchestratorTask) (claim : HeldClaim) (status : String → Option OrchestratorTaskStatus)
    (held : List HeldClaim) : Option OrchestratorTaskWait :=
  let unmet := task.dependsOn.filter fun dependency => status dependency != some .completed
  if unmet.length > 0 then some (.dependencies unmet)
  else if claim.mutating && (held.any fun other => other.mutating) then some .writer_slot
  else if (held.filter fun other => other.modelId == claim.modelId).length ≥ claim.slots then
    some (.model_slot claim.modelId)
  else none

/-- What the loop of a pass has built so far. -/
structure PassState where
  held : List HeldClaim
  start : List OrchestratorTask
  waits : List (String × OrchestratorTaskWait)
  deriving DecidableEq, Repr

/-- The loop of `schedulePass` over the plan's tasks. -/
def passTasks (config : SiftConfig) (status : String → Option OrchestratorTaskStatus)
    (activeIds : List String) : List OrchestratorTask → PassState → Except Thrown PassState
  | [], state => .ok state
  | task :: rest, state =>
    if status task.id != some .pending || activeIds.contains task.id then
      passTasks config status activeIds rest state
    else do
      let claim ← taskClaim config task
      match taskWait task claim status state.held with
      | some wait =>
        passTasks config status activeIds rest { state with waits := state.waits ++ [(task.id, wait)] }
      | none =>
        passTasks config status activeIds rest
          { state with held := state.held ++ [claim], start := state.start ++ [task] }

/-- `[...new Map(claims.map((claim) => [claim.modelId, claim.slots]))]`: first positions, last values. -/
def modelSlots (claims : List HeldClaim) : List (String × Nat) :=
  claims.foldl (fun slots claim =>
    if slots.any fun entry => entry.1 == claim.modelId then
      slots.map fun entry => if entry.1 == claim.modelId then (claim.modelId, claim.slots) else entry
    else slots ++ [(claim.modelId, claim.slots)]) []

structure SchedulePass where
  start : List OrchestratorTask
  schedule : OrchestratorSchedule
  deriving DecidableEq, Repr

def schedulePass (config : SiftConfig) (plan : OrchestratorPlan) (taskStates : List OrchestratorTaskState)
    (active : List OrchestratorTask) : Except Thrown SchedulePass := do
  let held ← active.mapM (taskClaim config)
  let pass ← passTasks config (statusOf taskStates) (active.map OrchestratorTask.id) plan.tasks ⟨held, [], []⟩
  let claims ← plan.tasks.mapM (taskClaim config)
  let models := (modelSlots claims).map fun entry => {
    modelId := entry.1
    slots := entry.2
    used := (pass.held.filter fun claim => claim.modelId == entry.1).length }
  return ⟨pass.start, {
    claims := claims.map HeldClaim.toOrchestratorTaskClaim
    models := models
    writerUsed := pass.held.any fun claim => claim.mutating
    waits := pass.waits }⟩

/-! ## Held claims -/

/-- One writer at most, and no model beyond its slots. -/
structure WithinSlots (config : SiftConfig) (held : List HeldClaim) : Prop where
  oneWriter : (held.filter fun claim => claim.mutating).length ≤ 1
  modelSlots : ∀ model, config.ModelPresets.find model.id = some model →
    (held.filter fun claim => claim.modelId == model.id).length ≤ model.ParallelSlots

theorem withinSlots_nil (config : SiftConfig) : WithinSlots config [] :=
  ⟨by simp, fun model _ => by simp⟩

variable {config : SiftConfig} {task : OrchestratorTask} {held : List HeldClaim}

theorem taskClaim_ok {claim : HeldClaim} (claimed : taskClaim config task = .ok claim) :
    claim.taskId = task.id ∧
      ∃ model, config.ModelPresets.find claim.modelId = some model ∧ model.id = claim.modelId ∧
        claim.slots = model.ParallelSlots := by
  simp only [taskClaim, workerModelPreset, bind_eq_ok, pure_eq_ok] at claimed
  obtain ⟨_, _, _, ⟨active, isActive, context, resolved, rfl⟩, rfl⟩ := claimed
  exact ⟨rfl, context.modelPreset, resolveModelRequestContext_find isActive resolved, rfl, rfl⟩

variable {status : String → Option OrchestratorTaskStatus}

theorem taskWait_eq_none {claim : HeldClaim} :
    taskWait task claim status held = none ↔
      (∀ dependency ∈ task.dependsOn, status dependency = some .completed) ∧
        ¬(claim.mutating = true ∧ ∃ other ∈ held, other.mutating = true) ∧
          (held.filter fun other => other.modelId == claim.modelId).length < claim.slots := by
  simp only [taskWait]
  split
  next unmet =>
    simp only [reduceCtorEq, false_iff, not_and]
    intro met
    rw [List.filter_eq_nil_iff.mpr fun dependency depends => by simp [met dependency depends]] at unmet
    exact absurd unmet (by simp)
  next unmet =>
    have met : ∀ dependency ∈ task.dependsOn, status dependency = some .completed := by
      have none := List.length_eq_zero_iff.mp (Nat.le_zero.mp (Nat.le_of_not_lt unmet))
      intro dependency depends
      simpa using List.filter_eq_nil_iff.mp none dependency depends
    split
    next writing =>
      simp only [reduceCtorEq, false_iff, not_and]
      intro _ free
      exact absurd (by simpa using writing) (not_and.mpr free)
    next free =>
      split
      next full => simp only [reduceCtorEq, false_iff]; omega
      next room =>
        simp only [true_iff]
        exact ⟨met, by simpa using free, by omega⟩

theorem WithinSlots.claim {claim : HeldClaim}
    (within : WithinSlots config held) (claimed : taskClaim config task = .ok claim)
    (ready : taskWait task claim status held = none) : WithinSlots config (held ++ [claim]) := by
  obtain ⟨_, writerFree, room⟩ := taskWait_eq_none.mp ready
  obtain ⟨_, preset, found, presetId, slots⟩ := taskClaim_ok claimed
  constructor
  · rw [List.filter_append, List.length_append]
    by_cases mutating : claim.mutating = true
    · have noWriter : (held.filter fun claim => claim.mutating) = [] := List.filter_eq_nil_iff.mpr
        fun other member writes => writerFree ⟨mutating, other, member, writes⟩
      simp [noWriter, mutating]
    · simpa [mutating] using within.oneWriter
  · intro model modelFound
    rw [List.filter_append, List.length_append]
    by_cases own : claim.modelId = model.id
    · have samePreset : preset = model := Option.some.inj (found.symm.trans (own ▸ modelFound))
      rw [own, slots, samePreset] at room
      simp only [own, beq_self_eq_true, List.filter_cons_of_pos, List.filter_nil, List.length_singleton]
      omega
    · simpa [own] using within.modelSlots model modelFound

theorem WithinSlots.sublist {fewer : List HeldClaim} (within : WithinSlots config held) (sublist : fewer.Sublist held) :
    WithinSlots config fewer :=
  ⟨Nat.le_trans (sublist.filter _).length_le within.oneWriter,
    fun model found => Nat.le_trans (sublist.filter _).length_le (within.modelSlots model found)⟩

/-! ## A pass -/

/-- A task that a pass may start. -/
structure ReadyTask (status : String → Option OrchestratorTaskStatus) (activeIds : List String)
    (task : OrchestratorTask) : Prop where
  pending : status task.id = some .pending
  inactive : task.id ∉ activeIds
  dependencies : ∀ dependency ∈ task.dependsOn, status dependency = some .completed

/-- What the loop of a pass adds to the state it starts from. -/
structure PassAdds (config : SiftConfig) (status : String → Option OrchestratorTaskStatus)
    (activeIds : List String) (tasks : List OrchestratorTask) (before after : PassState)
    (started : List OrchestratorTask) (claims : List HeldClaim) : Prop where
  start : after.start = before.start ++ started
  held : after.held = before.held ++ claims
  claimed : List.Forall₂ (fun task claim => taskClaim config task = .ok claim) started claims
  planned : started.Sublist tasks
  ready : ∀ task ∈ started, ReadyTask status activeIds task
  within : WithinSlots config before.held → WithinSlots config after.held
  /-- A ready task is left waiting only behind some held claim. -/
  busy : ∀ task ∈ tasks, ReadyTask status activeIds task →
    (∀ claim, taskClaim config task = .ok claim → 1 ≤ claim.slots) → after.held ≠ []

theorem passTasks_ok (status : String → Option OrchestratorTaskStatus) (activeIds : List String)
    {tasks : List OrchestratorTask} (resolved : ∀ task ∈ tasks, ∃ claim, taskClaim config task = .ok claim)
    (before : PassState) :
    ∃ after started claims, passTasks config status activeIds tasks before = .ok after ∧
      PassAdds config status activeIds tasks before after started claims := by
  induction tasks generalizing before with
  | nil =>
    refine ⟨before, [], [], rfl, ?_⟩
    exact ⟨(List.append_nil _).symm, (List.append_nil _).symm, .nil, .slnil, by simp, id, by simp⟩
  | cons task rest ih =>
    have restResolved : ∀ other ∈ rest, ∃ claim, taskClaim config other = .ok claim :=
      fun other member => resolved other (List.mem_cons_of_mem _ member)
    by_cases skipped : (status task.id != some .pending || activeIds.contains task.id) = true
    · obtain ⟨after, started, claims, ended, adds⟩ := ih restResolved before
      refine ⟨after, started, claims, by rw [passTasks, if_pos skipped, ended], ?_⟩
      refine ⟨adds.start, adds.held, adds.claimed, adds.planned.cons task, adds.ready, adds.within, ?_⟩
      intro other member ready slots
      cases List.mem_cons.mp member with
      | inl here =>
        -- A skipped task is not pending or is active, so it is not ready.
        obtain ⟨pending, inactive, _⟩ := here ▸ ready
        simp [pending, inactive] at skipped
      | inr later => exact adds.busy other later ready slots
    · obtain ⟨claim, claimed⟩ := resolved task List.mem_cons_self
      have unskipped : status task.id = some .pending ∧ task.id ∉ activeIds := by simpa using skipped
      cases waits : taskWait task claim status before.held with
      | some wait =>
        obtain ⟨after, started, claims, ended, adds⟩ :=
          ih restResolved { before with waits := before.waits ++ [(task.id, wait)] }
        refine ⟨after, started, claims, ?_, ?_⟩
        · rw [passTasks, if_neg skipped, claimed]
          simp only [bind, Except.bind, waits, ended]
        refine ⟨adds.start, adds.held, adds.claimed, adds.planned.cons task, adds.ready, adds.within, ?_⟩
        intro other member ready slots
        cases List.mem_cons.mp member with
        | inl here =>
          have heldBefore : before.held ≠ [] := by
            intro empty
            have noWait : taskWait task claim status before.held = none := by
              refine taskWait_eq_none.mpr ⟨here ▸ ready.dependencies, by simp [empty], ?_⟩
              rw [empty]
              exact slots claim (here ▸ claimed)
            rw [noWait] at waits
            cases waits
          rw [adds.held]
          exact fun none => heldBefore (List.append_eq_nil_iff.mp none).1
        | inr later => exact adds.busy other later ready slots
      | none =>
        obtain ⟨after, started, claims, ended, adds⟩ := ih restResolved
          { before with held := before.held ++ [claim], start := before.start ++ [task] }
        refine ⟨after, task :: started, claim :: claims, ?_, ?_⟩
        · rw [passTasks, if_neg skipped, claimed]
          simp only [bind, Except.bind, waits, ended]
        refine ⟨by simp [adds.start], by simp [adds.held], .cons claimed adds.claimed,
          adds.planned.cons_cons task, ?_, fun within => adds.within (within.claim claimed waits), ?_⟩
        · intro other member
          cases List.mem_cons.mp member with
          | inl here =>
            rw [here]
            exact ⟨unskipped.1, unskipped.2, (taskWait_eq_none.mp waits).1⟩
          | inr later => exact adds.ready other later
        · intro _ _ _ _
          simp [adds.held]

/-- What a pass over a plan guarantees, given the claims of the tasks that are active. -/
theorem schedulePass_ok {plan : OrchestratorPlan} {taskStates : List OrchestratorTaskState}
    {active : List OrchestratorTask} (resolved : ∀ task ∈ plan.tasks, ∃ claim, taskClaim config task = .ok claim)
    (heldByActive : active.mapM (taskClaim config) = .ok held) :
    ∃ pass after claims, schedulePass config plan taskStates active = .ok pass ∧
      PassAdds config (statusOf taskStates) (active.map OrchestratorTask.id) plan.tasks ⟨held, [], []⟩ after
        pass.start claims := by
  obtain ⟨after, started, claims, ended, adds⟩ :=
    passTasks_ok (statusOf taskStates) (active.map OrchestratorTask.id) resolved ⟨held, [], []⟩
  have allClaims : ∃ planClaims, plan.tasks.mapM (taskClaim config) = .ok planClaims := by
    clear ended adds
    generalize plan.tasks = tasks at resolved
    induction tasks with
    | nil => exact ⟨[], rfl⟩
    | cons task rest ih =>
      obtain ⟨claim, claimed⟩ := resolved task List.mem_cons_self
      obtain ⟨others, othersOk⟩ := ih fun other member =>
        resolved other (List.mem_cons_of_mem _ member)
      exact ⟨claim :: others, mapM_eq_ok.mpr (.cons claimed (mapM_eq_ok.mp othersOk))⟩
  obtain ⟨planClaims, planClaimsOk⟩ := allClaims
  have scheduled : ∃ pass, schedulePass config plan taskStates active = .ok pass ∧
      pass.start = after.start := by
    simp only [schedulePass, bind_eq_ok, pure_eq_ok]
    exact ⟨_, ⟨held, heldByActive, after, ended, planClaims, planClaimsOk, rfl⟩, rfl⟩
  obtain ⟨pass, passOk, start⟩ := scheduled
  refine ⟨pass, after, claims, passOk, ?_⟩
  rw [start, show after.start = started from adds.start]
  exact adds

end SiftKit.Orchestrator
