import SiftKit.Orchestrator.TaskLoopSafety

/-! # Runs of the task loop

Every step of the loop keeps its invariant, and a run in which started tasks complete
returns: the number of tasks that are running or not completed goes down.
-/

namespace SiftKit.Orchestrator

open SiftKit.Config SiftKit.Failure SiftKit.Tables SiftKit.Runs

/-! ## The start -/

theorem statusOf_initial (plan : OrchestratorPlan) (id : String) :
    statusOf (TaskLoop.initial plan).tasks id =
      if id ∈ plan.tasks.map OrchestratorTask.id then some .pending else none := by
  have ids : (TaskLoop.initial plan).tasks.map OrchestratorTaskState.taskId =
      plan.tasks.map OrchestratorTask.id := by simp [TaskLoop.initial]
  split
  next known =>
    rw [← ids] at known
    obtain ⟨status, isStatus⟩ := Option.isSome_iff_exists.mp (statusOf_isSome.mpr known)
    obtain ⟨found, isFound, rfl⟩ := Option.map_eq_some_iff.mp isStatus
    have member := List.mem_reverse.mp (List.mem_of_find?_eq_some isFound)
    obtain ⟨task, _, rfl⟩ := List.mem_map.mp member
    exact isStatus
  next unknown =>
    rw [← ids] at unknown
    exact Option.not_isSome_iff_eq_none.mp fun known => unknown (statusOf_isSome.mp known)

theorem LoopCore.initial (config : SiftConfig) (plan : OrchestratorPlan) :
    LoopCore config plan (TaskLoop.initial plan) := by
  have pending : ∀ task ∈ plan.tasks, statusOf (TaskLoop.initial plan).tasks task.id = some .pending := by
    intro task member
    rw [statusOf_initial, if_pos (List.mem_map_of_mem member)]
  constructor
  case ids => simp [TaskLoop.initial]
  case planned => simp [TaskLoop.initial]
  case distinct => simp [TaskLoop.initial]
  case claims => exact ⟨[], rfl, withinSlots_nil config⟩
  case begun => simp [TaskLoop.initial]
  case idle => exact fun task member _ => .inl (pending task member)
  case startedOnce =>
    intro task member
    rw [if_pos (pending task member)]
    rfl
  case completedLogged =>
    intro id completed
    rw [statusOf_initial] at completed
    split at completed <;> cases completed
  case dependenciesFirst =>
    intro before task _ listed
    have impossible := List.prefix_nil.mp listed
    simp at impossible

theorem countP_lt_of_exists {Item : Type} {items : List Item} {early late : Item → Bool}
    (fewer : ∀ item ∈ items, late item = true → early item = true) {item : Item} (member : item ∈ items)
    (before : early item = true) (gone : late item = false) : items.countP late < items.countP early := by
  induction items with
  | nil => cases member
  | cons head rest ih =>
    have restFewer : ∀ other ∈ rest, late other = true → early other = true :=
      fun other otherMember => fewer other (List.mem_cons_of_mem _ otherMember)
    have atMost : rest.countP late ≤ rest.countP early := List.countP_mono_left restFewer
    simp only [List.countP_cons]
    cases List.mem_cons.mp member with
    | inl here =>
      subst here
      simp only [before, gone, if_true, Bool.false_eq_true, if_false]
      omega
    | inr later =>
      have lower := ih restFewer later
      have headFewer := fewer head List.mem_cons_self
      cases lateHead : late head with
      | false =>
        simp only [Bool.false_eq_true, if_false]
        omega
      | true =>
        rw [headFewer lateHead]
        omega

/-! ## One step -/

section Step

variable {config : SiftConfig} {plan : OrchestratorPlan} {loop : TaskLoop} {taskId : String}

theorem LoopCore.worked (core : LoopCore config plan loop)
    (running : taskId ∈ loop.running.map OrchestratorTask.id)
    (change : OrchestratorTaskState → OrchestratorTaskState) {status : OrchestratorTaskStatus}
    (kept : ∀ task, task.taskId = taskId → (change task).taskId = taskId)
    (changes : ∀ task, (change task).status = status) (begun : status ≠ .pending) :
    LoopCore config plan { loop with
      tasks := setTask taskId change loop.tasks
      log := loop.log ++ if status = .completed then [.completed taskId] else [] } := by
  have known : taskId ∈ loop.tasks.map OrchestratorTaskState.taskId := by
    obtain ⟨task, member, rfl⟩ := List.mem_map.mp running
    exact core.known (core.planned task member)
  have statuses := statusOf_setTask_known change kept changes known
  have unfinished : statusOf loop.tasks taskId ≠ some .pending := by
    obtain ⟨task, member, rfl⟩ := List.mem_map.mp running
    exact core.begun task member
  constructor
  case ids => exact (map_taskId_setTask change kept loop.tasks).trans core.ids
  case planned => exact core.planned
  case distinct => exact core.distinct
  case claims => exact core.claims
  case begun =>
    intro task member
    rw [statuses]
    split
    · simpa using begun
    · exact core.begun task member
  case idle =>
    intro task member notRunning
    have other : task.id ≠ taskId := fun same => notRunning (by rwa [same])
    rw [statuses, if_neg other]
    exact core.idle task member notRunning
  case startedOnce =>
    intro task member
    have noStart : (if status = .completed then [TaskEvent.completed taskId] else []).count
        (.started task.id) = 0 := by split <;> simp
    rw [List.count_append, noStart, Nat.add_zero, core.startedOnce task member, statuses]
    by_cases own : task.id = taskId
    · rw [if_neg (own ▸ unfinished), if_pos own, if_neg (by simpa using begun)]
    · rw [if_neg own]
  case completedLogged =>
    intro id completed
    rw [statuses] at completed
    split at completed
    next own =>
      rw [if_pos (Option.some.inj completed), own]
      exact List.mem_append_right _ List.mem_cons_self
    · exact List.mem_append_left _ (core.completedLogged id completed)
  case dependenciesFirst =>
    split
    · exact core.dependenciesFirst.completed taskId
    · simpa using core.dependenciesFirst

theorem LoopCore.collected (core : LoopCore config plan loop)
    (completed : statusOf loop.tasks taskId = some .completed) :
    LoopCore config plan { loop with running := loop.running.filter fun task => task.id != taskId } := by
  obtain ⟨held, heldByRunning, within⟩ := core.claims
  have fewer : (loop.running.filter fun task => task.id != taskId).Sublist loop.running :=
    List.filter_sublist
  obtain ⟨fewerHeld, fewerOk, fewerWithin⟩ := mapM_of_sublist fewer heldByRunning
  constructor
  case ids => exact core.ids
  case planned => exact fun task member => core.planned task (fewer.subset member)
  case distinct => exact core.distinct.sublist (fewer.map _)
  case claims => exact ⟨fewerHeld, fewerOk, within.sublist fewerWithin⟩
  case begun => exact fun task member => core.begun task (fewer.subset member)
  case idle =>
    intro task member notRunning
    by_cases own : task.id = taskId
    · exact .inr (own ▸ completed)
    · refine core.idle task member fun running => notRunning ?_
      obtain ⟨other, otherMember, sameId⟩ := List.mem_map.mp running
      refine List.mem_map.mpr ⟨other, List.mem_filter.mpr ⟨otherMember, ?_⟩, sameId⟩
      simpa [sameId] using own
  case startedOnce => exact core.startedOnce
  case completedLogged => exact core.completedLogged
  case dependenciesFirst => exact core.dependenciesFirst

/-- The loop is done with a task. -/
def Settled (loop : TaskLoop) (taskId : String) : Prop :=
  statusOf loop.tasks taskId = some .completed ∧ taskId ∉ loop.running.map OrchestratorTask.id

instance (loop : TaskLoop) (taskId : String) : Decidable (Settled loop taskId) :=
  inferInstanceAs (Decidable (_ ∧ _))

/-- How many tasks the loop is not done with. -/
def unsettled (plan : OrchestratorPlan) (loop : TaskLoop) : Nat :=
  plan.tasks.countP fun task => !decide (Settled loop task.id)

section

variable {early late : TaskLoop} (kept : ∀ taskId, Settled early taskId → Settled late taskId)

include kept

theorem unsettled_le_of_settled : unsettled plan late ≤ unsettled plan early := by
  refine List.countP_mono_left fun task _ pending => ?_
  simp only [Bool.not_eq_true', decide_eq_false_iff_not] at pending ⊢
  exact fun settled => pending (kept task.id settled)

theorem unsettled_lt_of_settled {task : OrchestratorTask}
    (planned : task ∈ plan.tasks) (before : ¬Settled early task.id) (settled : Settled late task.id) :
    unsettled plan late < unsettled plan early := by
  refine countP_lt_of_exists ?_ planned (by simpa using before) (by simpa using settled)
  intro other _ pending
  simp only [Bool.not_eq_true', decide_eq_false_iff_not] at pending ⊢
  exact fun earlySettled => pending (kept other.id earlySettled)

end

variable (graph : TaskGraph plan.tasks)
  (resolved : ∀ task ∈ plan.tasks, ∃ claim, taskClaim config task = .ok claim ∧ 1 ≤ claim.slots)

include graph resolved

theorem LoopInvariant.executeTasks : LoopInvariant config plan (executeTasks config plan) :=
  (LoopCore.initial config plan).round graph resolved

theorem LoopInvariant.step {label : LoopLabel} {after : TaskLoop} (invariant : LoopInvariant config plan loop)
    (taken : LoopStep config plan loop label after) : LoopInvariant config plan after := by
  have waits : loop.outcome = .racing → loop.running ≠ [] := by
    intro racing
    cases invariant.outcome with
    | inl waiting => exact waiting.2
    | inr returned => exact absurd (racing.symm.trans returned.1) (by simp)
  cases taken with
  | work changed racing working stillOpen =>
    have notCompleted : changed.status ≠ .completed := by
      intro completed
      rw [completed] at stillOpen
      cases stillOpen
    have begun : changed.status ≠ .pending := by
      intro pending
      rw [pending] at stillOpen
      cases stillOpen
    have core := invariant.core.worked working.1 (fun _ => changed) (fun _ _ => rfl) (fun _ => rfl) begun
    exact ⟨core.of_same rfl rfl (by simp [notCompleted]), .inl ⟨racing, waits racing⟩⟩
  | complete taskId racing working =>
    have core := invariant.core.worked working.1 (.withStatus .completed) (fun _ same => same)
      (fun _ => rfl) (by simp)
    exact ⟨core.of_same rfl rfl rfl, .inl ⟨racing, waits racing⟩⟩
  | collect taskId racing running completed =>
    exact (invariant.core.collected completed).round graph resolved

/-! ## Progress -/

theorem LoopCore.round_settled (core : LoopCore config plan loop)
    (settled : Settled loop taskId) : Settled (loop.round config plan) taskId := by
  obtain ⟨started, starts, ready⟩ := core.round_starts graph resolved
  have notStarted : taskId ∉ started.map OrchestratorTask.id := by
    intro member
    obtain ⟨task, taskMember, rfl⟩ := List.mem_map.mp member
    have pending := (ready task taskMember).pending
    rw [settled.1] at pending
    cases pending
  constructor
  · rw [starts.statuses, if_neg notStarted]
    exact settled.1
  · rw [starts.running, List.map_append, List.mem_append, not_or]
    exact ⟨settled.2, notStarted⟩

section

variable {label : LoopLabel} {after : TaskLoop} (invariant : LoopInvariant config plan loop)
  (taken : LoopStep config plan loop label after)

include invariant taken

theorem LoopStep.settled (settled : Settled loop taskId) : Settled after taskId := by
  obtain ⟨completed, notRunning⟩ := settled
  cases taken with
  | work changed racing working stillOpen =>
    have other : taskId ≠ changed.taskId := fun same => working.2 (same ▸ completed)
    exact ⟨(statusOf_setTask_other _ (fun _ _ => rfl) other).trans completed, notRunning⟩
  | complete finishedId racing working =>
    have other : taskId ≠ finishedId := fun same => working.2 (same ▸ completed)
    exact ⟨(statusOf_setTask_other (.withStatus .completed) (fun _ same => same) other).trans completed,
      notRunning⟩
  | collect finishedId racing running finished =>
    refine (invariant.core.collected finished).round_settled graph resolved ⟨completed, fun stillRunning => ?_⟩
    exact notRunning ((List.filter_sublist.map _).subset stillRunning)

theorem LoopStep.log_prefix :
    loop.log <+: after.log := by
  cases taken with
  | work changed racing working stillOpen => exact List.prefix_rfl
  | complete taskId racing working => exact List.prefix_append _ _
  | collect taskId racing running completed =>
    obtain ⟨started, starts, _⟩ := (invariant.core.collected completed).round_starts graph resolved
    rw [starts.log]
    exact List.prefix_append _ _

end

/-- The loop is never stuck: when its running tasks complete one after the other it returns. -/
theorem LoopInvariant.can_return (invariant : LoopInvariant config plan loop) :
    ∃ labels after, Reaches (LoopStep config plan) loop labels after ∧ after.outcome = .returned := by
  induction bound : unsettled plan loop using Nat.strongRecOn generalizing loop with
  | ind count ih =>
    cases invariant.outcome with
    | inr returned => exact ⟨[], loop, .start, returned.1⟩
    | inl waiting =>
      obtain ⟨task, running⟩ := List.exists_mem_of_ne_nil _ waiting.2
      have listed : task.id ∈ loop.running.map OrchestratorTask.id := List.mem_map_of_mem running
      -- Once the task has completed it is collected, and the loop has one task less to do.
      have collects : ∀ middle, LoopInvariant config plan middle → middle.outcome = .racing →
          task.id ∈ middle.running.map OrchestratorTask.id → statusOf middle.tasks task.id = some .completed →
          unsettled plan middle ≤ count →
          ∃ labels after, Reaches (LoopStep config plan) middle labels after ∧ after.outcome = .returned := by
        intro middle middleInvariant racing middleListed completed atMost
        have taken : LoopStep config plan middle _ _ := .collect task.id racing middleListed completed
        have gone : Settled { middle with running := middle.running.filter fun other => other.id != task.id }
            task.id := ⟨completed, by simp⟩
        have settled := (middleInvariant.core.collected completed).round_settled graph resolved gone
        have fewer := unsettled_lt_of_settled (fun _ => taken.settled graph resolved middleInvariant)
          (invariant.core.planned task running) (fun settled => settled.2 middleListed) settled
        obtain ⟨labels, after, reached, returned⟩ := ih _ (Nat.lt_of_lt_of_le fewer atMost)
          (middleInvariant.step graph resolved taken) rfl
        exact ⟨_, after, (Reaches.next .start taken).trans reached, returned⟩
      by_cases completed : statusOf loop.tasks task.id = some .completed
      · exact collects loop invariant waiting.1 listed completed (Nat.le_of_eq bound)
      · have taken : LoopStep config plan loop _ _ := .complete task.id waiting.1 ⟨listed, completed⟩
        have known := invariant.core.known (invariant.core.planned task running)
        obtain ⟨labels, after, reached, returned⟩ := collects _ (invariant.step graph resolved taken) waiting.1
          listed ((statusOf_setTaskStatus known .completed task.id).trans (if_pos rfl))
          (bound ▸ unsettled_le_of_settled fun _ => taken.settled graph resolved invariant)
        exact ⟨_, after, (Reaches.next .start taken).trans reached, returned⟩

/-- Every started task completes, and the race delivers one of its tasks once one has completed. -/
structure Fair {config : SiftConfig} {plan : OrchestratorPlan}
    (execution : Execution (LoopStep config plan) (executeTasks config plan)) : Prop where
  tasksComplete : ∀ moment taskId, (execution.states moment).Working taskId →
    ∃ later, moment ≤ later ∧ statusOf (execution.states later).tasks taskId = some .completed
  raceDelivers : ∀ moment, ∀ task ∈ (execution.states moment).running,
    statusOf (execution.states moment).tasks task.id = some .completed →
      ∃ later, moment ≤ later ∧ ∃ delivered ∈ (execution.states moment).running,
        delivered.id ∉ (execution.states later).running.map OrchestratorTask.id

end Step

section Liveness

variable {config : SiftConfig} {plan : OrchestratorPlan} (graph : TaskGraph plan.tasks)
  (resolved : ∀ task ∈ plan.tasks, ∃ claim, taskClaim config task = .ok claim ∧ 1 ≤ claim.slots)
  (execution : Execution (LoopStep config plan) (executeTasks config plan))

include graph resolved

theorem execution_invariant (moment : Nat) : LoopInvariant config plan (execution.states moment) := by
  obtain ⟨labels, reached⟩ := execution.reaches moment
  exact reached.invariant _ (LoopInvariant.executeTasks graph resolved)
    fun invariant taken => invariant.step graph resolved taken

theorem settled_persists {taskId : String} {early late : Nat} (ordered : early ≤ late)
    (settled : Settled (execution.states early) taskId) : Settled (execution.states late) taskId := by
  refine execution.persists (fun loop => Settled loop taskId) (fun moment holds => ?_) ordered settled
  cases execution.moves moment with
  | inl stays => rwa [stays]
  | inr moves =>
    obtain ⟨label, taken⟩ := moves
    exact taken.settled graph resolved (execution_invariant graph resolved execution moment) holds

theorem started_persists {taskId : String} {early late : Nat} (ordered : early ≤ late)
    (started : .started taskId ∈ (execution.states early).log) : .started taskId ∈ (execution.states late).log := by
  refine execution.persists (fun loop => .started taskId ∈ loop.log) (fun moment holds => ?_)
    ordered started
  cases execution.moves moment with
  | inl stays => rwa [stays]
  | inr moves =>
    obtain ⟨label, taken⟩ := moves
    exact (taken.log_prefix graph resolved (execution_invariant graph resolved execution moment)).subset holds

theorem unsettled_antitone {early late : Nat} (ordered : early ≤ late) :
    unsettled plan (execution.states late) ≤ unsettled plan (execution.states early) :=
  unsettled_le_of_settled fun _ => settled_persists graph resolved execution ordered

theorem unsettled_lt {early late : Nat} (ordered : early ≤ late) {task : OrchestratorTask}
    (running : task ∈ (execution.states early).running)
    (gone : task.id ∉ (execution.states late).running.map OrchestratorTask.id) :
    unsettled plan (execution.states late) < unsettled plan (execution.states early) := by
  have earlyCore := (execution_invariant graph resolved execution early).core
  have lateCore := (execution_invariant graph resolved execution late).core
  have planned := earlyCore.planned task running
  have started : .started task.id ∈ (execution.states early).log := by
    refine List.count_pos_iff.mp ?_
    rw [earlyCore.startedOnce task planned, if_neg (earlyCore.begun task running)]
    exact Nat.one_pos
  have stillStarted := List.count_pos_iff.mpr (started_persists graph resolved execution ordered started)
  rw [lateCore.startedOnce task planned] at stillStarted
  have notPending : statusOf (execution.states late).tasks task.id ≠ some .pending := by
    intro pending
    rw [if_pos pending] at stillStarted
    omega
  have completed := (lateCore.idle task planned gone).resolve_left notPending
  exact unsettled_lt_of_settled (fun _ => settled_persists graph resolved execution ordered) planned
    (fun settled => settled.2 (List.mem_map_of_mem running)) ⟨completed, gone⟩

theorem eventually_returned (fair : Fair execution) : ∃ moment, (execution.states moment).outcome = .returned := by
  refine execution.eventually (fun loop => loop.outcome = .returned) (unsettled plan) fun moment => ?_
  have invariant := execution_invariant graph resolved execution moment
  cases invariant.outcome with
  | inr returned => exact .inl returned.1
  | inl waiting =>
    right
    obtain ⟨task, running⟩ := List.exists_mem_of_ne_nil _ waiting.2
    -- The task completes, at once or later.
    have completes : ∃ later, moment ≤ later ∧
        statusOf (execution.states later).tasks task.id = some .completed := by
      by_cases already : statusOf (execution.states moment).tasks task.id = some .completed
      · exact ⟨moment, Nat.le_refl _, already⟩
      · exact fair.tasksComplete moment task.id ⟨List.mem_map_of_mem running, already⟩
    obtain ⟨middle, ordered, completed⟩ := completes
    by_cases stillRunning : task ∈ (execution.states middle).running
    · obtain ⟨later, laterOrdered, delivered, wasRunning, gone⟩ :=
        fair.raceDelivers middle task stillRunning completed
      refine ⟨later, ?_⟩
      have drops := unsettled_lt graph resolved execution laterOrdered wasRunning gone
      have before := unsettled_antitone graph resolved execution ordered
      omega
    · refine ⟨middle, unsettled_lt graph resolved execution ordered running fun listed => stillRunning ?_⟩
      -- Running tasks are plan tasks, so one with the same id is the same task.
      obtain ⟨other, otherRunning, sameId⟩ := List.mem_map.mp listed
      have middleCore := (execution_invariant graph resolved execution middle).core
      have sameTask := List.inj_on_of_nodup_map graph.distinct (middleCore.planned other otherRunning)
        (invariant.core.planned task running) sameId
      exact sameTask ▸ otherRunning

end Liveness

/-! ## Scheduling of an accepted plan -/

/-- What the loop has done so far, in any state. -/
structure ScheduledWell (config : SiftConfig) (plan : OrchestratorPlan) (loop : TaskLoop) : Prop where
  startedAtMostOnce : ∀ task ∈ plan.tasks, loop.log.count (.started task.id) ≤ 1
  dependenciesFirst : DependenciesFirst plan loop.log
  withinSlots : ∃ held, loop.running.mapM (taskClaim config) = .ok held ∧ WithinSlots config held
  goesOn : loop.outcome = .racing ∨ loop.outcome = .returned
  returned : loop.outcome = .returned → ∀ task ∈ plan.tasks,
    statusOf loop.tasks task.id = some .completed ∧ loop.log.count (.started task.id) = 1

theorem LoopInvariant.scheduledWell {config : SiftConfig} {plan : OrchestratorPlan} {loop : TaskLoop}
    (invariant : LoopInvariant config plan loop) : ScheduledWell config plan loop := by
  constructor
  case startedAtMostOnce =>
    intro task member
    rw [invariant.core.startedOnce task member]
    split <;> omega
  case dependenciesFirst => exact invariant.core.dependenciesFirst
  case withinSlots => exact invariant.core.claims
  case goesOn => exact invariant.outcome.imp And.left And.left
  case returned =>
    intro returned task member
    cases invariant.outcome with
    | inl waiting => exact absurd (returned.symm.trans waiting.1) (by simp)
    | inr finished =>
      have completed := finished.2.2 task member
      refine ⟨completed, ?_⟩
      rw [invariant.core.startedOnce task member, completed]
      simp

theorem resolved_of_accepted {resolveRepoScopedPath : String → Except Thrown (Option String)}
    {config : SiftConfig} {plan validated : OrchestratorPlan}
    (accepted : validateOrchestratorPlan resolveRepoScopedPath config plan = .ok validated)
    (haveSlots : WorkerModelsHaveSlots config validated) :
    ∀ task ∈ validated.tasks, ∃ claim, taskClaim config task = .ok claim ∧ 1 ≤ claim.slots := by
  intro task member
  obtain ⟨worker, workerOk⟩ := (validateOrchestratorPlan_ok accepted).2 task member
  obtain ⟨model, modelOk, slots⟩ := haveSlots task member worker workerOk
  have claimed : taskClaim config task =
      .ok ⟨⟨task.id, model.id, workerCanMutate worker, model.NumCtx⟩, model.ParallelSlots⟩ := by
    simp only [taskClaim, bind_eq_ok, pure_eq_ok]
    exact ⟨worker, workerOk, model, modelOk, rfl⟩
  exact ⟨_, claimed, slots⟩

/--
The loop over an accepted plan: in every order of completions it schedules well, and when
every started task completes it returns.
-/
theorem executeTasks_contract {resolveRepoScopedPath : String → Except Thrown (Option String)}
    {config : SiftConfig} {plan validated : OrchestratorPlan}
    (accepted : validateOrchestratorPlan resolveRepoScopedPath config plan = .ok validated)
    (haveSlots : WorkerModelsHaveSlots config validated) :
    (∀ labels loop, Reaches (LoopStep config validated) (executeTasks config validated) labels loop →
      ScheduledWell config validated loop) ∧
    ∀ execution : Execution (LoopStep config validated) (executeTasks config validated), Fair execution →
      ∃ moment, (execution.states moment).outcome = .returned ∧
        ∀ task ∈ validated.tasks, statusOf (execution.states moment).tasks task.id = some .completed ∧
          (execution.states moment).log.count (.started task.id) = 1 := by
  have graph := (validateOrchestratorPlan_ok accepted).1
  have resolved := resolved_of_accepted accepted haveSlots
  constructor
  · intro labels loop reached
    exact (reached.invariant _ (LoopInvariant.executeTasks graph resolved)
      fun invariant taken => invariant.step graph resolved taken).scheduledWell
  · intro execution fair
    obtain ⟨moment, returned⟩ := eventually_returned graph resolved execution fair
    have scheduled := (execution_invariant graph resolved execution moment).scheduledWell
    exact ⟨moment, returned, scheduled.returned returned⟩

/-- However far the loop has got, completions of its running tasks can lead it to its end. -/
theorem executeTasks_can_return {resolveRepoScopedPath : String → Except Thrown (Option String)}
    {config : SiftConfig} {plan validated : OrchestratorPlan}
    (accepted : validateOrchestratorPlan resolveRepoScopedPath config plan = .ok validated)
    (haveSlots : WorkerModelsHaveSlots config validated) {labels : List LoopLabel} {loop : TaskLoop}
    (reached : Reaches (LoopStep config validated) (executeTasks config validated) labels loop) :
    ∃ more after, Reaches (LoopStep config validated) loop more after ∧ after.outcome = .returned := by
  have graph := (validateOrchestratorPlan_ok accepted).1
  have resolved := resolved_of_accepted accepted haveSlots
  have invariant := reached.invariant _ (LoopInvariant.executeTasks graph resolved)
    fun invariant taken => invariant.step graph resolved taken
  exact invariant.can_return graph resolved

/-! ## A plan with a dependency -/

def builtinPreset (id : String) (presetKind : PresetKind) (allowedTools : List PresetToolName) : SiftPreset :=
  ⟨id, presetKind, allowedTools, id == "summary", true, false, none, none⟩

def exampleConfig : SiftConfig where
  Presets := [
    builtinPreset "summary" .summary [],
    builtinPreset "repo-search" .repo_search [.read, .grep],
    builtinPreset "chat" .chat [],
    builtinPreset "plan" .plan [],
    builtinPreset "repo-agent" .repo_agent [.read, .write, .edit, .run],
    builtinPreset "orchestrator" .orchestrator []]
  ModelPresets := ⟨"default", [⟨"default", none, 32768, 2⟩]⟩

def exampleTask (id workerPresetId : String) (dependsOn : List String) : OrchestratorTask where
  id := id
  title := id
  dependsOn := dependsOn
  workerPresetId := workerPresetId
  readPaths := ["src"]
  writePaths := []
  steps := []
  verification := []
  acceptance := []
  temporaryPaths := []

def examplePlan : OrchestratorPlan where
  goal := "Rename the flag"
  constraints := []
  tasks := [exampleTask "change" "repo-agent" ["survey"], exampleTask "survey" "repo-search" []]
  finalVerification := []

theorem exampleConfig_slots : WorkerModelsHaveSlots exampleConfig examplePlan := by
  have model : ∀ task ∈ examplePlan.tasks, ∃ worker,
      requireOrchestratorWorkerPreset exampleConfig task = .ok worker ∧
        workerModelPreset exampleConfig worker = .ok ⟨"default", none, 32768, 2⟩ := by
    intro task member
    simp only [examplePlan, List.mem_cons, List.not_mem_nil, or_false] at member
    cases member with
    | inl change => exact ⟨builtinPreset "repo-agent" .repo_agent [.read, .write, .edit, .run], change ▸ rfl, rfl⟩
    | inr survey => exact ⟨builtinPreset "repo-search" .repo_search [.read, .grep], survey ▸ rfl, rfl⟩
  intro task member worker workerOk
  obtain ⟨known, knownOk, modelOk⟩ := model task member
  obtain rfl : known = worker := Except.ok.inj (knownOk.symm.trans workerOk)
  exact ⟨_, modelOk, by decide⟩

theorem executeTasks_examplePlan :
    (∀ labels loop, Reaches (LoopStep exampleConfig examplePlan) (executeTasks exampleConfig examplePlan) labels
      loop → ScheduledWell exampleConfig examplePlan loop) ∧
    ∀ execution : Execution (LoopStep exampleConfig examplePlan) (executeTasks exampleConfig examplePlan),
      Fair execution → ∃ moment, (execution.states moment).outcome = .returned ∧
        ∀ task ∈ examplePlan.tasks, statusOf (execution.states moment).tasks task.id = some .completed ∧
          (execution.states moment).log.count (.started task.id) = 1 :=
  @executeTasks_contract (fun path => .ok (some path)) exampleConfig examplePlan examplePlan rfl
    exampleConfig_slots

theorem examplePlan_can_return :
    ∃ more after, Reaches (LoopStep exampleConfig examplePlan) (executeTasks exampleConfig examplePlan) more after ∧
      after.outcome = .returned :=
  @executeTasks_can_return (fun path => .ok (some path)) exampleConfig examplePlan examplePlan rfl exampleConfig_slots _ _
    .start

/-- The survey goes first although it comes second. -/
example : (executeTasks exampleConfig examplePlan).log = [.started "survey"] := rfl

end SiftKit.Orchestrator
