import SiftKit.Foundation.Runs
import SiftKit.Foundation.Tables
import SiftKit.Orchestrator.Scheduler

/-! # The task loop

`executeTasks` of `orchestrator/run.ts` while no task fails.  The loop runs up to
`Promise.race` in one go; then the started tasks work on their own, complete in any order,
and a completed one is collected by the race some time later, which runs the loop again.
-/

namespace SiftKit.Orchestrator

open SiftKit.Config SiftKit.Failure SiftKit.Tables SiftKit.Runs

/-- What the loop's tasks did, for the record. -/
inductive TaskEvent where
  | started (taskId : String)
  | completed (taskId : String)
  deriving DecidableEq, Repr

inductive LoopOutcome where
  /-- Waiting in `Promise.race`. -/
  | racing
  | returned
  /-- `throw fail('blocked', …)`. -/
  | blocked (failure : OrchestratorFailure)
  | threw (thrown : Thrown)
  deriving DecidableEq, Repr

/-- `tasks` is `this.state.tasks` and `running` the map of the loop, in insertion order. -/
structure TaskLoop where
  tasks : List OrchestratorTaskState
  running : List OrchestratorTask
  schedule : Option OrchestratorSchedule
  outcome : LoopOutcome
  log : List TaskEvent
  deriving DecidableEq, Repr

/-- `savePlan` on a new run: every task is pending. -/
def TaskLoop.initial (plan : OrchestratorPlan) : TaskLoop where
  tasks := plan.tasks.map fun task => ⟨task.id, .pending, none, []⟩
  running := []
  schedule := none
  outcome := .racing
  log := []

def setTask (taskId : String) (change : OrchestratorTaskState → OrchestratorTaskState)
    (tasks : List OrchestratorTaskState) : List OrchestratorTaskState :=
  updateWhere (fun task => task.taskId == taskId) change tasks

def OrchestratorTaskState.withStatus (status : OrchestratorTaskStatus) (task : OrchestratorTaskState) :
    OrchestratorTaskState :=
  { task with status := status }

def setTaskStatus (taskId : String) (status : OrchestratorTaskStatus) :
    List OrchestratorTaskState → List OrchestratorTaskState :=
  setTask taskId (.withStatus status)

/-- `running.set(task.id, …)`. -/
def setRunning (task : OrchestratorTask) (running : List OrchestratorTask) : List OrchestratorTask :=
  if running.any fun other => other.id == task.id then
    updateWhere (fun other => other.id == task.id) (fun _ => task) running
  else running ++ [task]

def TaskLoop.startTask (loop : TaskLoop) (task : OrchestratorTask) : TaskLoop :=
  { loop with
    tasks := setTaskStatus task.id .running loop.tasks
    running := setRunning task loop.running
    log := loop.log ++ [.started task.id] }

/-- One round of the loop, up to the race. -/
def TaskLoop.round (config : SiftConfig) (plan : OrchestratorPlan) (loop : TaskLoop) : TaskLoop :=
  match schedulePass config plan loop.tasks loop.running with
  | .error thrown => { loop with outcome := .threw thrown }
  | .ok pass =>
    let started := { pass.start.foldl TaskLoop.startTask loop with schedule := some pass.schedule }
    if started.running.isEmpty then
      let unfinished := (started.tasks.filter fun task => task.status != .completed).map
        OrchestratorTaskState.taskId
      if unfinished.isEmpty then { started with outcome := .returned }
      else
        let names := String.intercalate ", " unfinished
        { started with outcome := .blocked ⟨.blocked, s!"Tasks cannot start: {names}.", none, none, []⟩ }
    else { started with outcome := .racing }

inductive LoopLabel where
  /-- A running task changes its own state, to an open status. -/
  | work (changed : OrchestratorTaskState)
  /-- A running task ends with `setTaskStatus(task.id, 'completed')`. -/
  | complete (taskId : String)
  /-- The race delivers a completed task: `running.delete` and the next round. -/
  | collect (taskId : String)
  deriving DecidableEq, Repr

/-- A task whose `runTask` has not finished. -/
def TaskLoop.Working (loop : TaskLoop) (taskId : String) : Prop :=
  taskId ∈ loop.running.map OrchestratorTask.id ∧ statusOf loop.tasks taskId ≠ some .completed

inductive LoopStep (config : SiftConfig) (plan : OrchestratorPlan) :
    TaskLoop → LoopLabel → TaskLoop → Prop where
  | work {loop : TaskLoop} (changed : OrchestratorTaskState) (racing : loop.outcome = .racing)
      (working : loop.Working changed.taskId)
      (stillOpen : isOrchestratorOpenTaskStatus changed.status = true) :
      LoopStep config plan loop (.work changed)
        { loop with tasks := setTask changed.taskId (fun _ => changed) loop.tasks }
  | complete {loop : TaskLoop} (taskId : String) (racing : loop.outcome = .racing)
      (working : loop.Working taskId) :
      LoopStep config plan loop (.complete taskId)
        { loop with
          tasks := setTaskStatus taskId .completed loop.tasks
          log := loop.log ++ [.completed taskId] }
  | collect {loop : TaskLoop} (taskId : String) (racing : loop.outcome = .racing)
      (running : taskId ∈ loop.running.map OrchestratorTask.id)
      (completed : statusOf loop.tasks taskId = some .completed) :
      LoopStep config plan loop (.collect taskId)
        ({ loop with running := loop.running.filter fun task => task.id != taskId }.round config plan)

/-- `executeTasks`, at its first race. -/
def executeTasks (config : SiftConfig) (plan : OrchestratorPlan) : TaskLoop :=
  (TaskLoop.initial plan).round config plan

/-! ## Task states -/

variable {tasks : List OrchestratorTaskState} {taskId : String}
  (change : OrchestratorTaskState → OrchestratorTaskState)

theorem statusOf_isSome {id : String} :
    (statusOf tasks id).isSome = true ↔ id ∈ tasks.map OrchestratorTaskState.taskId := by
  simp [statusOf]

theorem statusOf_setTask {change : OrchestratorTaskState → OrchestratorTaskState}
    (kept : ∀ task, task.taskId = taskId → (change task).taskId = taskId) (other : String) :
    statusOf (setTask taskId change tasks) other =
      if other = taskId then
        ((tasks.reverse.find? fun task => task.taskId == taskId).map change).map OrchestratorTaskState.status
      else statusOf tasks other := by
  have reversed : (setTask taskId change tasks).reverse = setTask taskId change tasks.reverse := by
    simp only [setTask, updateWhere, List.map_reverse]
  unfold statusOf
  rw [reversed]
  by_cases own : other = taskId
  · rw [if_pos own, own]
    congr 1
    exact find?_updateWhere _ _ _ fun task _ selected => by
      simpa using kept task (by simpa using selected)
  · rw [if_neg own]
    congr 1
    exact find?_updateWhere_other fun task _ selected => by
      have sameId : task.taskId = taskId := by simpa using selected
      simp [sameId, kept task sameId, Ne.symm own]

theorem statusOf_setTask_other {other : String} (kept : ∀ task, task.taskId = taskId → (change task).taskId = taskId)
    (different : other ≠ taskId) : statusOf (setTask taskId change tasks) other = statusOf tasks other := by
  rw [statusOf_setTask kept, if_neg different]

theorem map_taskId_setTask (kept : ∀ task, task.taskId = taskId → (change task).taskId = taskId)
    (tasks : List OrchestratorTaskState) :
    (setTask taskId change tasks).map OrchestratorTaskState.taskId =
      tasks.map OrchestratorTaskState.taskId :=
  map_updateWhere fun task _ selected => by
    have sameId : task.taskId = taskId := by simpa using selected
    rw [kept task sameId, sameId]

theorem statusOf_setTask_known {status : OrchestratorTaskStatus}
    (kept : ∀ task, task.taskId = taskId → (change task).taskId = taskId)
    (changes : ∀ task, (change task).status = status) (known : taskId ∈ tasks.map OrchestratorTaskState.taskId)
    (other : String) :
    statusOf (setTask taskId change tasks) other =
      if other = taskId then some status else statusOf tasks other := by
  rw [statusOf_setTask kept]
  split
  · obtain ⟨found, isFound⟩ := Option.isSome_iff_exists.mp (statusOf_isSome.mpr known)
    obtain ⟨task, taskFound, _⟩ := Option.map_eq_some_iff.mp isFound
    simp only [taskFound, Option.map_some, changes]
  · rfl

theorem map_taskId_setTaskStatus (taskId : String) (status : OrchestratorTaskStatus)
    (tasks : List OrchestratorTaskState) :
    (setTaskStatus taskId status tasks).map OrchestratorTaskState.taskId =
      tasks.map OrchestratorTaskState.taskId :=
  map_taskId_setTask (.withStatus status) (fun _ same => same) tasks

theorem statusOf_setTaskStatus (known : taskId ∈ tasks.map OrchestratorTaskState.taskId)
    (status : OrchestratorTaskStatus) (other : String) :
    statusOf (setTaskStatus taskId status tasks) other =
      if other = taskId then some status else statusOf tasks other :=
  statusOf_setTask_known (.withStatus status) (fun _ same => same) (fun _ => rfl) known other

end SiftKit.Orchestrator
