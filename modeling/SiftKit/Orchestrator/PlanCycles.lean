import Mathlib.Data.List.Chain
import Mathlib.Data.List.Perm.Subperm
import SiftKit.Orchestrator.Plan

/-! # Which dependency graphs are accepted

`assertDependencies` accepts exactly the graphs without a cycle, and a cycle that it reports is one.
-/

namespace SiftKit.Orchestrator

open SiftKit.Failure SiftKit.Dependencies

variable {tasks : List OrchestratorTask} {task : OrchestratorTask} {thrown : Thrown}

/-- A path of dependencies back to the task where it starts. -/
def IsCycle (tasks : List OrchestratorTask) (ids : List String) : Prop :=
  ∃ start between, ids = start :: (between ++ [start]) ∧ ids.IsChain fun id dependency => dependency ∈ dependenciesOf tasks id

def NamesOthers (tasks : List OrchestratorTask) : Prop :=
  ∀ task ∈ tasks, ∀ dependency ∈ task.dependsOn, dependency ≠ task.id ∧ ∃ other ∈ tasks, other.id = dependency

/-- The tasks can be ordered so that each comes after all of its dependencies. -/
def Orderable (tasks : List OrchestratorTask) : Prop :=
  ∃ order : List String, DependencyOrder (dependenciesOf tasks) order ∧ ∀ task ∈ tasks, task.id ∈ order

def cycleError (ids : List String) : Thrown :=
  let cycle := String.intercalate " -> " ids
  .error s!"Plan tasks form a dependency cycle: {cycle}."

/-- What is wrong with the tasks when an error is thrown. -/
inductive Rejection (tasks : List OrchestratorTask) : Thrown → Prop where
  | duplicate (task : OrchestratorTask) (repeated : ¬(tasks.map OrchestratorTask.id).Nodup) :
      Rejection tasks (.error s!"Duplicate task id '{task.id}'.")
  | itself (task : OrchestratorTask) (member : task ∈ tasks) (depends : task.id ∈ task.dependsOn) :
      Rejection tasks (.error s!"Task '{task.id}' depends on itself.")
  | missing (task : OrchestratorTask) (dependency : String) (member : task ∈ tasks) (depends : dependency ∈ task.dependsOn)
      (absent : ∀ other ∈ tasks, other.id ≠ dependency) :
      Rejection tasks (.error s!"Task '{task.id}' depends on missing task '{dependency}'.")
  | cycle (ids : List String) (isCycle : IsCycle tasks ids) : Rejection tasks (cycleError ids)

/-! ## What is thrown -/

theorem checkDistinct_error {seen : List String} (rejected : checkDistinct seen tasks = .error thrown) :
    ∃ task ∈ tasks, thrown = .error s!"Duplicate task id '{task.id}'." ∧
      (task.id ∈ seen ∨ ¬(tasks.map OrchestratorTask.id).Nodup) := by
  induction tasks generalizing seen with
  | nil => cases rejected
  | cons task rest ih =>
    unfold checkDistinct at rejected
    grind

theorem checkDependency_error {dependsOn : List String} (rejected : checkDependency tasks task dependsOn = .error thrown) :
    ∃ dependency ∈ dependsOn,
      dependency = task.id ∧ thrown = .error s!"Task '{task.id}' depends on itself." ∨
      taskById tasks dependency = none ∧ thrown = .error s!"Task '{task.id}' depends on missing task '{dependency}'." := by
  induction dependsOn with
  | nil => cases rejected
  | cons dependency rest ih =>
    simp only [checkDependency, beq_iff_eq, Option.isNone_iff_eq_none] at rejected
    grind

theorem checkPresent_error {checked : List OrchestratorTask} (rejected : checkPresent tasks checked = .error thrown) :
    ∃ task ∈ checked, checkDependency tasks task task.dependsOn = .error thrown := by
  induction checked with
  | nil => cases rejected
  | cons task rest ih =>
    rw [checkPresent, bind_eq_error] at rejected
    grind

theorem visitDependencies_error {visitNext : OrchestratorTask → List String → Except Thrown (List String)}
    {dependsOn finished : List String} (rejected : visitDependencies tasks visitNext dependsOn finished = .error thrown) :
    ∃ next ∈ tasks, next.id ∈ dependsOn ∧ ∃ finished, visitNext next finished = .error thrown := by
  induction dependsOn generalizing finished with
  | nil => cases rejected
  | cons dependency rest ih =>
    unfold visitDependencies at rejected
    split at rejected
    next next found =>
      obtain ⟨member, isId⟩ := taskById_id found
      rw [bind_eq_error] at rejected
      grind
    · grind

/-- The trail is a path of distinct tasks to the visited one, so there is fuel for the next step. -/
theorem visit_error (distinct : (tasks.map OrchestratorTask.id).Nodup) {fuel : Nat} {trail finished : List String}
    (member : task ∈ tasks) (path : (trail ++ [task.id]).IsChain fun id dependency => dependency ∈ dependenciesOf tasks id)
    (once : trail.Nodup) (planned : trail ⊆ tasks.map OrchestratorTask.id) (room : tasks.length < trail.length + fuel)
    (rejected : visit tasks fuel trail task finished = .error thrown) : ∃ ids, IsCycle tasks ids ∧ thrown = cycleError ids := by
  induction fuel generalizing trail task finished with
  | zero =>
    have few := (List.subperm_of_subset once planned).length_le
    rw [List.length_map] at few
    omega
  | succ fuel ih =>
    unfold visit at rejected
    split at rejected
    · cases rejected
    · split at rejected
      next cycleStart isStart =>
        cases rejected
        obtain ⟨inTrail, same, _⟩ := List.findIdx?_eq_some_iff_getElem.mp isStart
        have fromStart : trail.drop cycleStart = task.id :: trail.drop (cycleStart + 1) := by
          rw [List.drop_eq_getElem_cons inTrail, beq_iff_eq.mp same]
        have closed := path.drop cycleStart
        rw [List.drop_append_of_le_length inTrail.le] at closed
        exact ⟨_, ⟨task.id, trail.drop (cycleStart + 1), by rw [fromStart]; rfl, closed⟩, rfl⟩
      next fresh =>
        rcases bind_eq_error.mp rejected with below | ⟨_, _, returned⟩
        · obtain ⟨next, nextMember, depends, _, nextRejected⟩ := visitDependencies_error below
          apply ih nextMember _ _ _ _ nextRejected
          · have step : next.id ∈ dependenciesOf tasks task.id := by
              rwa [dependenciesOf, taskById_of_mem distinct member]
            rw [List.append_assoc]
            exact List.isChain_split.mpr ⟨path, by simpa using step⟩
          · have unseen : task.id ∉ trail := fun inTrail => by simpa using List.findIdx?_eq_none_iff.mp fresh _ inTrail
            simpa using once.concat unseen
          · simpa using ⟨planned, ⟨task, member, rfl⟩⟩
          · simp only [List.length_append, List.length_singleton]
            omega
        · cases returned

theorem visitTasks_error (distinct : (tasks.map OrchestratorTask.id).Nodup) {remaining : List OrchestratorTask}
    {finished : List String} (planned : ∀ task ∈ remaining, task ∈ tasks)
    (rejected : visitTasks tasks remaining finished = .error thrown) : ∃ ids, IsCycle tasks ids ∧ thrown = cycleError ids := by
  induction remaining generalizing finished with
  | nil => cases rejected
  | cons task rest ih =>
    obtain ⟨member, others⟩ := List.forall_mem_cons.mp planned
    rcases bind_eq_error.mp rejected with here | ⟨_, _, later⟩
    · exact visit_error distinct member (List.isChain_singleton _) List.nodup_nil (List.nil_subset _) (by simp) here
    · exact ih others later

theorem assertDependencies_error (rejected : assertDependencies tasks = .error thrown) : Rejection tasks thrown := by
  rcases bind_eq_error.mp rejected with repeated | ⟨_, distinctOk, rejected⟩
  · obtain ⟨task, _, rfl, reason⟩ := checkDistinct_error repeated
    exact .duplicate task (reason.resolve_left List.not_mem_nil)
  rcases bind_eq_error.mp rejected with absent | ⟨_, _, rejected⟩
  · obtain ⟨task, member, wrong⟩ := checkPresent_error absent
    obtain ⟨dependency, depends, ⟨rfl, rfl⟩ | ⟨unknown, rfl⟩⟩ := checkDependency_error wrong
    · exact .itself task member depends
    · exact .missing task dependency member depends (by simpa [taskById] using unknown)
  rcases bind_eq_error.mp rejected with cyclic | ⟨_, _, returned⟩
  · obtain ⟨ids, isCycle, rfl⟩ := visitTasks_error (checkDistinct_ok distinctOk).1 (fun _ member => member) cyclic
    exact .cycle ids isCycle
  · cases returned

/-! ## What is accepted -/

theorem Orderable.acyclic (orderable : Orderable tasks) (ids : List String) : ¬IsCycle tasks ids := by
  rintro ⟨start, between, rfl, path⟩
  obtain ⟨order, ordered, listed⟩ := orderable
  have earlier : ∀ id dependency, dependency ∈ dependenciesOf tasks id → order.idxOf dependency < order.idxOf id := by
    intro id dependency depends
    cases found : taskById tasks id with
    | none => simp [dependenciesOf, found] at depends
    | some task =>
      obtain ⟨member, rfl⟩ := taskById_id found
      exact ordered.idxOf_lt (listed task member) depends
  -- The position falls along the path, which ends where it starts.
  have falling : (start :: (between ++ [start])).IsChain fun id dependency => order.idxOf dependency < order.idxOf id :=
    path.imp earlier
  exact Nat.lt_irrefl _ (List.rel_of_pairwise_cons (List.isChain_iff_pairwise.mp falling) (by simp : start ∈ between ++ [start]))

end SiftKit.Orchestrator
