import SiftKit.Orchestrator.TaskLoop

/-! # The task loop schedules every task once, and finishes

For an accepted plan whose worker models have at least one slot.
-/

namespace SiftKit.Orchestrator

open SiftKit.Config SiftKit.Failure SiftKit.Tables SiftKit.Runs SiftKit.Dependencies OrchestratorTaskState

/-- Every worker model of the plan resolves and has a parallel slot. -/
def WorkerModelsHaveSlots (config : SiftConfig) (plan : OrchestratorPlan) : Prop :=
  ∀ task ∈ plan.tasks, ∀ worker, requireOrchestratorWorkerPreset config task = .ok worker →
    ∃ model, workerModelPreset config worker = .ok model ∧ 1 ≤ model.ParallelSlots

/-- A started task's dependencies were all completed before. -/
def DependenciesFirst (plan : OrchestratorPlan) (log : List TaskEvent) : Prop :=
  ∀ before, ∀ task ∈ plan.tasks, before ++ [.started task.id] <+: log →
    ∀ dependency ∈ task.dependsOn, .completed dependency ∈ before

/-- What holds of the loop at any moment, between rounds and inside them. -/
structure LoopCore (config : SiftConfig) (plan : OrchestratorPlan) (loop : TaskLoop) : Prop where
  ids : loop.tasks.map taskId = plan.tasks.map OrchestratorTask.id
  planned : ∀ task ∈ loop.running, task ∈ plan.tasks
  distinct : (loop.running.map OrchestratorTask.id).Nodup
  claims : ∃ held, loop.running.mapM (taskClaim config) = .ok held ∧ WithinSlots config held
  begun : ∀ task ∈ loop.running, statusOf loop.tasks task.id ≠ some .pending
  idle : ∀ task ∈ plan.tasks, task.id ∉ loop.running.map OrchestratorTask.id →
    statusOf loop.tasks task.id = some .pending ∨ statusOf loop.tasks task.id = some .completed
  startedOnce : ∀ task ∈ plan.tasks, loop.log.count (.started task.id) =
    if statusOf loop.tasks task.id = some .pending then 0 else 1
  completedLogged : ∀ id, statusOf loop.tasks id = some .completed → .completed id ∈ loop.log
  dependenciesFirst : DependenciesFirst plan loop.log

/-- The loop waits for some running task, or has returned with every task completed. -/
structure LoopInvariant (config : SiftConfig) (plan : OrchestratorPlan) (loop : TaskLoop) : Prop where
  core : LoopCore config plan loop
  outcome : (loop.outcome = .racing ∧ loop.running ≠ []) ∨
    (loop.outcome = .returned ∧ loop.running = [] ∧
      ∀ task ∈ plan.tasks, statusOf loop.tasks task.id = some .completed)

/-! ## Task states and the log -/

theorem statusOf_of_mem {tasks : List OrchestratorTaskState} (distinct : (tasks.map taskId).Nodup)
    {task : OrchestratorTaskState} (member : task ∈ tasks) : statusOf tasks task.taskId = some task.status := by
  obtain ⟨status, isStatus⟩ := Option.isSome_iff_exists.mp
    (statusOf_isSome.mpr (List.mem_map_of_mem member))
  obtain ⟨found, isFound, rfl⟩ := Option.map_eq_some_iff.mp isStatus
  have foundMember : found ∈ tasks := List.mem_reverse.mp (List.mem_of_find?_eq_some isFound)
  have sameId : found.taskId = task.taskId := by simpa using List.find?_some isFound
  rw [isStatus, List.inj_on_of_nodup_map distinct foundMember member sameId]

theorem setRunning_fresh {task : OrchestratorTask} {running : List OrchestratorTask}
    (fresh : task.id ∉ running.map OrchestratorTask.id) : setRunning task running = running ++ [task] := by
  unfold setRunning
  rw [if_neg]
  intro known
  obtain ⟨other, member, sameId⟩ := List.any_eq_true.mp known
  exact fresh (List.mem_map.mpr ⟨other, member, by simpa using sameId⟩)

section

variable {plan : OrchestratorPlan} {log : List TaskEvent} (first : DependenciesFirst plan log)

include first

theorem DependenciesFirst.completed (id : String) : DependenciesFirst plan (log ++ [.completed id]) := by
  intro before task member listed
  cases List.prefix_concat_iff.mp listed with
  | inl whole =>
    have sameEvent := (List.append_inj' whole rfl).2
    cases sameEvent
  | inr earlier => exact first before task member earlier

theorem DependenciesFirst.started (distinct : (plan.tasks.map OrchestratorTask.id).Nodup)
    {started : List OrchestratorTask} (planned : ∀ task ∈ started, task ∈ plan.tasks)
    (met : ∀ task ∈ started, ∀ dependency ∈ task.dependsOn, .completed dependency ∈ log) :
    DependenciesFirst plan (log ++ started.map fun task => .started task.id) := by
  induction started generalizing log with
  | nil => simpa using first
  | cons task rest ih =>
    have oneMore : DependenciesFirst plan (log ++ [.started task.id]) := by
      intro before other member listed
      cases List.prefix_concat_iff.mp listed with
      | inl whole =>
        obtain ⟨rfl, sameEvent⟩ := List.append_inj' whole rfl
        simp only [List.cons.injEq, TaskEvent.started.injEq, and_true] at sameEvent
        have sameTask : other = task := List.inj_on_of_nodup_map distinct member
          (planned task List.mem_cons_self) sameEvent
        rw [sameTask]
        exact met task List.mem_cons_self
      | inr earlier => exact first before other member earlier
    have restStarted := ih oneMore
      (fun other member => planned other (List.mem_cons_of_mem _ member))
      fun other member dependency depends =>
        List.mem_append_left _ (met other (List.mem_cons_of_mem _ member) dependency depends)
    simpa using restStarted

end

/-! ## Starting the tasks of a pass -/

/-- What starting several tasks leaves. -/
structure Started (before after : TaskLoop) (started : List OrchestratorTask) : Prop where
  running : after.running = before.running ++ started
  log : after.log = before.log ++ started.map fun task => .started task.id
  ids : after.tasks.map taskId = before.tasks.map taskId
  statuses : ∀ id, statusOf after.tasks id =
    if id ∈ started.map OrchestratorTask.id then some .running else statusOf before.tasks id

theorem startTasks_ok {started : List OrchestratorTask} {loop : TaskLoop}
    (known : ∀ task ∈ started, task.id ∈ loop.tasks.map taskId)
    (distinct : ((loop.running ++ started).map OrchestratorTask.id).Nodup) :
    Started loop (started.foldl TaskLoop.startTask loop) started := by
  induction started generalizing loop with
  | nil => exact ⟨(List.append_nil _).symm, (List.append_nil _).symm, rfl, by simp⟩
  | cons task rest ih =>
    have ids := map_taskId_setTaskStatus task.id .running loop.tasks
    have statuses := statusOf_setTaskStatus (known task List.mem_cons_self) .running
    have fresh : task.id ∉ loop.running.map OrchestratorTask.id := by
      intro member
      rw [List.map_append, List.map_cons, List.nodup_append] at distinct
      exact distinct.2.2 _ member _ List.mem_cons_self rfl
    have running : (loop.startTask task).running = loop.running ++ [task] := setRunning_fresh fresh
    have restStarted := @ih (loop.startTask task)
      (fun other member => by
        rw [show (loop.startTask task).tasks.map taskId = _ from ids]
        exact known other (List.mem_cons_of_mem _ member))
      (by rw [running]; simpa using distinct)
    refine ⟨?_, ?_, restStarted.ids.trans ids, ?_⟩
    · rw [List.foldl_cons, restStarted.running, running]
      simp
    · rw [List.foldl_cons, restStarted.log]
      simp [TaskLoop.startTask]
    · intro id
      rw [List.foldl_cons, restStarted.statuses id, List.map_cons]
      by_cases inRest : id ∈ rest.map OrchestratorTask.id
      · simp [inRest]
      · rw [if_neg inRest, show statusOf (loop.startTask task).tasks id = _ from statuses id]
        simp [inRest]

/-! ## A round -/

section Round

variable {config : SiftConfig} {plan : OrchestratorPlan} {loop : TaskLoop}
  (graph : TaskGraph plan.tasks)
  (resolved : ∀ task ∈ plan.tasks, ∃ claim, taskClaim config task = .ok claim ∧ 1 ≤ claim.slots)

theorem LoopCore.known (core : LoopCore config plan loop) {task : OrchestratorTask}
    (member : task ∈ plan.tasks) : task.id ∈ loop.tasks.map taskId := by
  rw [core.ids]
  exact List.mem_map_of_mem member

theorem LoopCore.of_same {other : TaskLoop} (core : LoopCore config plan loop) (tasks : other.tasks = loop.tasks)
    (running : other.running = loop.running) (log : other.log = loop.log) : LoopCore config plan other := by
  obtain ⟨ids, planned, distinct, claims, begun, idle, startedOnce, completedLogged, first⟩ := core
  rw [← tasks] at ids begun idle startedOnce completedLogged
  rw [← running] at planned distinct claims begun idle
  rw [← log] at startedOnce completedLogged first
  exact ⟨ids, planned, distinct, claims, begun, idle, startedOnce, completedLogged, first⟩

include graph

theorem LoopCore.start (core : LoopCore config plan loop) {held claims : List HeldClaim}
    {after : PassState} {started : List OrchestratorTask} {next : TaskLoop}
    (heldByRunning : loop.running.mapM (taskClaim config) = .ok held)
    (within : WithinSlots config held)
    (adds : PassAdds config (statusOf loop.tasks) (loop.running.map OrchestratorTask.id) plan.tasks
      ⟨held, [], []⟩ after started claims)
    (starts : Started loop next started) : LoopCore config plan next := by
  have plannedStarted : ∀ task ∈ started, task ∈ plan.tasks := fun task member =>
    adds.planned.subset member
  have statusStarted : ∀ id ∈ started.map OrchestratorTask.id, statusOf loop.tasks id = some .pending := by
    intro id member
    obtain ⟨task, taskMember, rfl⟩ := List.mem_map.mp member
    exact (adds.ready task taskMember).pending
  refine ⟨starts.ids.trans core.ids, ?_, ?_, ?_, ?_, ?_, ?_, ?_, ?_⟩
  · rw [starts.running]
    intro task member
    cases List.mem_append.mp member with
    | inl running => exact core.planned task running
    | inr new => exact plannedStarted task new
  · rw [starts.running, List.map_append]
    refine List.nodup_append.mpr ⟨core.distinct, ?_, ?_⟩
    · exact graph.distinct.sublist (adds.planned.map _)
    · intro id running other new sameId
      obtain ⟨task, taskMember, rfl⟩ := List.mem_map.mp new
      exact (adds.ready task taskMember).inactive (sameId ▸ running)
  · refine ⟨held ++ claims, ?_, ?_⟩
    · rw [starts.running]
      exact mapM_eq_ok.mpr (List.rel_append (mapM_eq_ok.mp heldByRunning) adds.claimed)
    · rw [← show after.held = held ++ claims from adds.held]
      exact adds.within within
  · intro task member
    rw [starts.statuses]
    split
    · simp
    next notStarted =>
      rw [starts.running] at member
      cases List.mem_append.mp member with
      | inl running => exact core.begun task running
      | inr new => exact absurd (List.mem_map_of_mem new) notStarted
  · intro task member notRunning
    rw [starts.running, List.map_append, List.mem_append, not_or] at notRunning
    rw [starts.statuses, if_neg notRunning.2]
    exact core.idle task member notRunning.1
  · intro task member
    rw [starts.log, List.count_append, core.startedOnce task member, starts.statuses]
    by_cases new : task.id ∈ started.map OrchestratorTask.id
    · -- A started task was pending, so this is its first start.
      have once : (started.map fun task => TaskEvent.started task.id).count (.started task.id) = 1 := by
        have events : (started.map fun task => TaskEvent.started task.id) =
            (started.map OrchestratorTask.id).map TaskEvent.started := by simp
        rw [events]
        refine List.count_eq_one_of_mem ?_ (List.mem_map_of_mem new)
        refine List.Nodup.map (fun _ _ same => by simpa using same) ?_
        exact graph.distinct.sublist (adds.planned.map _)
      rw [once, if_pos (statusStarted task.id new), if_pos new]
      simp
    · have never : (started.map fun task => TaskEvent.started task.id).count (.started task.id) = 0 := by
        refine List.count_eq_zero.mpr fun listed => ?_
        obtain ⟨other, otherMember, sameEvent⟩ := List.mem_map.mp listed
        simp only [TaskEvent.started.injEq] at sameEvent
        exact new (sameEvent ▸ List.mem_map_of_mem otherMember)
      rw [never, if_neg new, Nat.add_zero]
  · intro id completed
    rw [starts.statuses] at completed
    split at completed
    · cases completed
    · rw [starts.log]
      exact List.mem_append_left _ (core.completedLogged id completed)
  · rw [starts.log]
    refine core.dependenciesFirst.started graph.distinct plannedStarted ?_
    intro task member dependency depends
    exact core.completedLogged dependency ((adds.ready task member).dependencies dependency depends)

theorem LoopCore.exists_ready (core : LoopCore config plan loop) (stopped : loop.running = [])
    {unfinished : OrchestratorTask} (member : unfinished ∈ plan.tasks)
    (notCompleted : statusOf loop.tasks unfinished.id ≠ some .completed) :
    ∃ task ∈ plan.tasks, ReadyTask (statusOf loop.tasks) [] task := by
  obtain ⟨order, ordered, listed⟩ := graph.ordered
  -- Ids that are no task's count as done; the order may list only tasks, but that is not needed.
  let done : String → Prop := fun id =>
    statusOf loop.tasks id = some .completed ∨ id ∉ plan.tasks.map OrchestratorTask.id
  have notDone : ¬done unfinished.id := by
    intro isDone
    cases isDone with
    | inl completed => exact notCompleted completed
    | inr absent => exact absent (List.mem_map_of_mem member)
  obtain ⟨id, _, idNotDone, dependenciesDone⟩ := ordered.exists_ready done (listed unfinished member) notDone
  simp only [done, not_or, not_not] at idNotDone
  obtain ⟨taskNotCompleted, isTask⟩ := idNotDone
  obtain ⟨task, taskMember, rfl⟩ := List.mem_map.mp isTask
  refine ⟨task, taskMember, ?_, by simp, ?_⟩
  · have idle := core.idle task taskMember (by simp [stopped])
    exact idle.resolve_right taskNotCompleted
  · intro dependency depends
    obtain ⟨other, otherMember, rfl⟩ := graph.present task taskMember dependency depends
    have isDone := dependenciesDone other.id (by
      rw [dependenciesOf, taskById_of_mem graph.distinct taskMember]
      exact depends)
    exact isDone.resolve_right fun absent => absent (List.mem_map_of_mem otherMember)

include resolved

section

variable (core : LoopCore config plan loop)

include core

theorem LoopCore.all_completed {held claims : List HeldClaim}
    {after : PassState} (heldByRunning : loop.running.mapM (taskClaim config) = .ok held)
    (adds : PassAdds config (statusOf loop.tasks) (loop.running.map OrchestratorTask.id) plan.tasks
      ⟨held, [], []⟩ after [] claims)
    (stopped : loop.running = []) :
    ∀ task ∈ plan.tasks, statusOf loop.tasks task.id = some .completed := by
  intro task member
  by_contra notCompleted
  obtain ⟨ready, readyMember, isReady⟩ := core.exists_ready graph stopped member notCompleted
  rw [stopped] at heldByRunning adds
  obtain rfl : [] = held := pure_eq_ok.mp heldByRunning
  have noClaims : claims = [] := List.forall₂_nil_left_iff.mp adds.claimed
  obtain ⟨claim, claimed, slots⟩ := resolved ready readyMember
  refine adds.busy ready readyMember isReady ?_ (by simp [adds.held, noClaims])
  intro other otherClaimed
  have sameClaim : claim = other := Except.ok.inj (claimed.symm.trans otherClaimed)
  exact sameClaim ▸ slots

theorem LoopCore.pass {held : List HeldClaim} (heldByRunning : loop.running.mapM (taskClaim config) = .ok held) :
    ∃ pass after claims, schedulePass config plan loop.tasks loop.running = .ok pass ∧
      PassAdds config (statusOf loop.tasks) (loop.running.map OrchestratorTask.id) plan.tasks ⟨held, [], []⟩
        after pass.start claims ∧
      Started loop (pass.start.foldl TaskLoop.startTask loop) pass.start := by
  obtain ⟨pass, after, claims, passOk, adds⟩ := schedulePass_ok
    (fun task member => (resolved task member).imp fun _ claimed => claimed.1) heldByRunning
  refine ⟨pass, after, claims, passOk, adds, ?_⟩
  have distinct : ((loop.running ++ pass.start).map OrchestratorTask.id).Nodup := by
    rw [List.map_append]
    refine List.nodup_append.mpr ⟨core.distinct, graph.distinct.sublist (adds.planned.map _), ?_⟩
    intro id running other new sameId
    obtain ⟨task, taskMember, rfl⟩ := List.mem_map.mp new
    exact (adds.ready task taskMember).inactive (sameId ▸ running)
  exact startTasks_ok (fun task member => core.known (adds.planned.subset member)) distinct

theorem LoopCore.round_starts :
    ∃ started, Started loop (loop.round config plan) started ∧
      ∀ task ∈ started, ReadyTask (statusOf loop.tasks) (loop.running.map OrchestratorTask.id) task := by
  obtain ⟨held, heldByRunning, _⟩ := core.claims
  obtain ⟨pass, after, claims, passOk, adds, starts⟩ := core.pass graph resolved heldByRunning
  refine ⟨pass.start, ?_, adds.ready⟩
  simp only [TaskLoop.round, passOk]
  split
  · split
    · exact ⟨starts.running, starts.log, starts.ids, starts.statuses⟩
    · exact ⟨starts.running, starts.log, starts.ids, starts.statuses⟩
  · exact ⟨starts.running, starts.log, starts.ids, starts.statuses⟩

/-- A round waits for a running task or returns; it never reports that tasks cannot start. -/
theorem LoopCore.round :
    LoopInvariant config plan (loop.round config plan) := by
  obtain ⟨held, heldByRunning, within⟩ := core.claims
  obtain ⟨pass, after, claims, passOk, adds, starts⟩ := core.pass graph resolved heldByRunning
  have startedCore := core.start graph heldByRunning within adds starts
  simp only [TaskLoop.round, passOk]
  by_cases stopped : (pass.start.foldl TaskLoop.startTask loop).running = []
  · have nothing := starts.running.symm.trans stopped
    obtain ⟨noRunning, noStart⟩ := List.append_eq_nil_iff.mp nothing
    rw [noStart] at adds
    have completed := core.all_completed graph resolved heldByRunning adds noRunning
    have completedAfter : ∀ task ∈ plan.tasks,
        statusOf (pass.start.foldl TaskLoop.startTask loop).tasks task.id = some .completed := by
      intro task member
      rw [starts.statuses, noStart, List.map_nil, if_neg List.not_mem_nil]
      exact completed task member
    have finished : ((pass.start.foldl TaskLoop.startTask loop).tasks.filter fun task =>
        task.status != .completed) = [] := by
      refine List.filter_eq_nil_iff.mpr fun state member => ?_
      have stateDistinct := graph.distinct
      rw [← startedCore.ids] at stateDistinct
      have isTask : state.taskId ∈ plan.tasks.map OrchestratorTask.id := by
        rw [← startedCore.ids]
        exact List.mem_map_of_mem member
      obtain ⟨task, taskMember, sameId⟩ := List.mem_map.mp isTask
      have status := completedAfter task taskMember
      rw [sameId, statusOf_of_mem stateDistinct member, Option.some.injEq] at status
      simp [status]
    simp only [stopped, List.isEmpty_nil, if_true, finished, List.map_nil]
    exact ⟨startedCore.of_same rfl stopped.symm rfl, .inr ⟨rfl, rfl, completedAfter⟩⟩
  · simp only [List.isEmpty_eq_false_iff.mpr stopped, Bool.false_eq_true, if_false]
    exact ⟨startedCore.of_same rfl rfl rfl, .inl ⟨rfl, stopped⟩⟩

end

end Round

end SiftKit.Orchestrator
