import Mathlib.Data.List.Nodup
import SiftKit.Config.Presets
import SiftKit.Foundation.Dependencies
import SiftKit.Orchestrator.Contracts

/-! # Plan validation

`validateOrchestratorPlan` of `orchestrator/plan.ts`: the dependency graph, the workers
and the containment of every path.  `resolveRepoScopedPath` asks the file system, so its
answers are a parameter.
-/

namespace SiftKit.Orchestrator

open SiftKit.Config SiftKit.Failure SiftKit.Dependencies

/-! ## Workers -/

def MUTATING_TOOLS : List PresetToolName := [.write, .edit, .run]

def toolText : PresetToolName → String
  | .find_text => "find_text"
  | .read_lines => "read_lines"
  | .json_filter => "json_filter"
  | .json_get => "json_get"
  | .read => "read"
  | .grep => "grep"
  | .find => "find"
  | .ls => "ls"
  | .git => "git"
  | .web_search => "web_search"
  | .web_fetch => "web_fetch"
  | .write => "write"
  | .edit => "edit"
  | .run => "run"

/-- A worker that can change the checkout needs exclusive repository ownership. -/
def workerCanMutate (preset : SiftPreset) : Bool :=
  MUTATING_TOOLS.any fun tool => preset.allowedTools.contains tool

/-- Workers the orchestrator may start. -/
def requireOrchestratorWorkerPreset (config : SiftConfig) (task : OrchestratorTask) :
    Except Thrown SiftPreset := do
  let catalog ← PresetCatalog.fromPresets config.Presets
  let preset ← catalog.requireById task.workerPresetId
  let kind := preset.presetKind.text
  throwWhen (preset.presetKind != .repo_agent && preset.presetKind != .repo_search) (.error
    s!"Task '{task.id}' selects preset '{preset.id}' of kind '{kind}'; workers must be repo-agent or repo-search presets.")
  let granted := MUTATING_TOOLS.filter fun tool => preset.allowedTools.contains tool
  let tools := String.intercalate ", " (granted.map toolText)
  throwWhen (preset.presetKind == .repo_search && !granted.isEmpty)
    (.error s!"Read-only worker preset '{preset.id}' grants mutating tools: {tools}.")
  return preset

/-! ## Dependencies -/

/-- `byId` of distinct ids. -/
def taskById (tasks : List OrchestratorTask) (id : String) : Option OrchestratorTask :=
  tasks.find? fun task => task.id == id

/-- The loop that fills `byId`; `seen` are the ids it has. -/
def checkDistinct (seen : List String) : List OrchestratorTask → Except Thrown Unit
  | [] => .ok ()
  | task :: rest =>
    if seen.contains task.id then .error (.error s!"Duplicate task id '{task.id}'.")
    else checkDistinct (task.id :: seen) rest

def checkDependency (tasks : List OrchestratorTask) (task : OrchestratorTask) :
    List String → Except Thrown Unit
  | [] => .ok ()
  | dependency :: rest =>
    if dependency == task.id then .error (.error s!"Task '{task.id}' depends on itself.")
    else if (taskById tasks dependency).isNone then
      .error (.error s!"Task '{task.id}' depends on missing task '{dependency}'.")
    else checkDependency tasks task rest

def checkPresent (tasks : List OrchestratorTask) : List OrchestratorTask → Except Thrown Unit
  | [] => .ok ()
  | task :: rest => do
    checkDependency tasks task task.dependsOn
    checkPresent tasks rest

/-- The loop of `visit` over the dependencies of a task. -/
def visitDependencies (tasks : List OrchestratorTask)
    (visitNext : OrchestratorTask → List String → Except Thrown (List String)) :
    List String → List String → Except Thrown (List String)
  | [], finished => .ok finished
  | dependency :: rest, finished =>
    match taskById tasks dependency with
    | some next => do visitDependencies tasks visitNext rest (← visitNext next finished)
    | none => visitDependencies tasks visitNext rest finished

/--
`visit`, with the finished ids in the order they finished.  `fuel` bounds the depth of
the recursion: without it the call stack would.
-/
def visit (tasks : List OrchestratorTask) : Nat → List String → OrchestratorTask → List String →
    Except Thrown (List String)
  | 0, _, _, _ => .error (.error "Maximum call stack size exceeded")
  | fuel + 1, trail, task, finished =>
    if finished.contains task.id then .ok finished
    else match trail.findIdx? fun id => id == task.id with
      | some cycleStart =>
        let cycle := String.intercalate " -> " (trail.drop cycleStart ++ [task.id])
        .error (.error s!"Plan tasks form a dependency cycle: {cycle}.")
      | none => do
        let visited ← visitDependencies tasks (visit tasks fuel (trail ++ [task.id])) task.dependsOn finished
        return visited ++ [task.id]

/-- The last loop of `assertDependencies`; a trail never has an id twice, which bounds its length. -/
def visitTasks (tasks : List OrchestratorTask) : List OrchestratorTask → List String →
    Except Thrown (List String)
  | [], finished => .ok finished
  | task :: rest, finished => do
    visitTasks tasks rest (← visit tasks (tasks.length + 1) [] task finished)

def assertDependencies (tasks : List OrchestratorTask) : Except Thrown Unit := do
  checkDistinct [] tasks
  checkPresent tasks tasks
  let _ ← visitTasks tasks tasks []
  return ()

/-! ## Validation -/

section Validation

-- `resolveRepoScopedPath(repoRoot, rawPath)?.relativePath` for the run's repository.
variable (resolveRepoScopedPath : String → Except Thrown (Option String))

def scopePath (owner rawPath : String) : Except Thrown String := do
  match ← resolveRepoScopedPath rawPath with
  | none =>
    let posixPath := rawPath.map fun character => if character == '\\' then '/' else character
    throw (.error s!"{owner} path '{posixPath}' escapes the repository.")
  | some relativePath => return if relativePath.isEmpty then "." else relativePath

def scopeChecks (owner : String) (checks : List OrchestratorVerificationCheck) :
    Except Thrown (List OrchestratorVerificationCheck) :=
  checks.mapM fun check => do
    match check with
    | .command command =>
      return .command ⟨command.command, ← scopePath resolveRepoScopedPath owner command.cwd⟩
    | .evidence instruction paths =>
      return .evidence instruction (← paths.mapM (scopePath resolveRepoScopedPath owner))

def validateTask (config : SiftConfig) (task : OrchestratorTask) : Except Thrown OrchestratorTask := do
  let worker ← requireOrchestratorWorkerPreset config task
  throwWhen (worker.presetKind == .repo_search && !task.writePaths.isEmpty) (.error
    s!"Task '{task.id}' uses read-only worker '{worker.id}' but declares write paths.")
  let owner := s!"Task '{task.id}'"
  let readPaths ← task.readPaths.mapM (scopePath resolveRepoScopedPath owner)
  let writePaths ← task.writePaths.mapM (scopePath resolveRepoScopedPath owner)
  let temporaryPaths ← task.temporaryPaths.mapM (scopePath resolveRepoScopedPath owner)
  let verification ← scopeChecks resolveRepoScopedPath owner task.verification
  return { task with
    readPaths := readPaths
    writePaths := writePaths
    temporaryPaths := temporaryPaths
    verification := verification }

/-- Structural and capability validation; the plan comes back with repository-relative path keys. -/
def validateOrchestratorPlan (config : SiftConfig) (plan : OrchestratorPlan) :
    Except Thrown OrchestratorPlan := do
  assertDependencies plan.tasks
  let tasks ← plan.tasks.mapM (validateTask resolveRepoScopedPath config)
  let finalVerification ← scopeChecks resolveRepoScopedPath "Final verification" plan.finalVerification
  return { plan with tasks := tasks, finalVerification := finalVerification }

end Validation

/-! ## What an accepted plan is -/

variable {passed : Unit} {task : OrchestratorTask} {tasks : List OrchestratorTask}

theorem checkDistinct_ok {seen : List String}
    (accepted : checkDistinct seen tasks = .ok passed) :
    (tasks.map OrchestratorTask.id).Nodup ∧ ∀ task ∈ tasks, task.id ∉ seen := by
  induction tasks generalizing seen with
  | nil => exact ⟨List.nodup_nil, by simp⟩
  | cons task rest ih =>
    unfold checkDistinct at accepted
    split at accepted
    · cases accepted
    next fresh =>
      obtain ⟨distinct, unseen⟩ := ih accepted
      have restFresh : ∀ other ∈ rest, other.id ≠ task.id := fun other member same =>
        unseen other member (by simp [same])
      refine ⟨?_, ?_⟩
      · simp only [List.map_cons, List.nodup_cons, List.mem_map, not_exists, not_and]
        exact ⟨restFresh, distinct⟩
      · intro other member
        cases List.mem_cons.mp member with
        | inl here => rw [here]; simpa using fresh
        | inr later => exact fun known => unseen other later (List.mem_cons_of_mem _ known)

theorem checkDependency_ok {dependsOn : List String}
    (accepted : checkDependency tasks task dependsOn = .ok passed) :
    ∀ dependency ∈ dependsOn, (taskById tasks dependency).isSome = true := by
  induction dependsOn with
  | nil => simp
  | cons dependency rest ih =>
    unfold checkDependency at accepted
    split at accepted
    · cases accepted
    · split at accepted
      · cases accepted
      next present =>
        intro other member
        cases List.mem_cons.mp member with
        | inl here => rw [here]; simpa [Option.isSome_iff_ne_none] using present
        | inr later => exact ih accepted other later

theorem checkPresent_ok {checked : List OrchestratorTask} (accepted : checkPresent tasks checked = .ok passed) :
    ∀ task ∈ checked, ∀ dependency ∈ task.dependsOn, (taskById tasks dependency).isSome = true := by
  induction checked with
  | nil => simp
  | cons task rest ih =>
    unfold checkPresent at accepted
    obtain ⟨_, taskAccepted, restAccepted⟩ := bind_eq_ok.mp accepted
    intro other member
    cases List.mem_cons.mp member with
    | inl here => rw [here]; exact checkDependency_ok taskAccepted
    | inr later => exact ih restAccepted other later

/-- The ids a task depends on. -/
def dependenciesOf (tasks : List OrchestratorTask) (id : String) : List String :=
  match taskById tasks id with
  | some task => task.dependsOn
  | none => []

theorem taskById_id {id : String} (found : taskById tasks id = some task) :
    task ∈ tasks ∧ task.id = id :=
  ⟨List.mem_of_find?_eq_some found, by simpa using List.find?_some found⟩

theorem taskById_of_mem (distinct : (tasks.map OrchestratorTask.id).Nodup)
    (member : task ∈ tasks) : taskById tasks task.id = some task := by
  cases found : taskById tasks task.id with
  | none =>
    rw [taskById, List.find?_eq_none] at found
    exact absurd (beq_self_eq_true task.id) (found task member)
  | some other =>
    obtain ⟨otherMember, sameId⟩ := taskById_id found
    rw [List.inj_on_of_nodup_map distinct otherMember member sameId]

section Visit

variable {tasks : List OrchestratorTask} (distinct : (tasks.map OrchestratorTask.id).Nodup)
  (present : ∀ task ∈ tasks, ∀ dependency ∈ task.dependsOn, (taskById tasks dependency).isSome = true)

include distinct present

/-- What a visit that returns has done to the finished ids. -/
def Extends (tasks : List OrchestratorTask) (listed : List String) (finished visited : List String) : Prop :=
  DependencyOrder (dependenciesOf tasks) visited ∧ finished ⊆ visited ∧ listed ⊆ visited

variable {finished visited : List String}

omit distinct present in
theorem visitDependencies_ok {visitNext : OrchestratorTask → List String → Except Thrown (List String)}
    (nextOk : ∀ {task finished visited}, task ∈ tasks → DependencyOrder (dependenciesOf tasks) finished →
      visitNext task finished = .ok visited → Extends tasks [task.id] finished visited)
    {dependsOn : List String} (known : ∀ dependency ∈ dependsOn, (taskById tasks dependency).isSome = true)
    (ordered : DependencyOrder (dependenciesOf tasks) finished)
    (returned : visitDependencies tasks visitNext dependsOn finished = .ok visited) :
    Extends tasks dependsOn finished visited := by
  induction dependsOn generalizing finished with
  | nil =>
    cases returned
    exact ⟨ordered, List.Subset.refl _, List.nil_subset _⟩
  | cons dependency rest ih =>
    obtain ⟨next, found⟩ := Option.isSome_iff_exists.mp (known dependency List.mem_cons_self)
    obtain ⟨nextMember, nextId⟩ := taskById_id found
    simp only [visitDependencies, found, bind_eq_ok] at returned
    obtain ⟨middle, middleOk, restOk⟩ := returned
    obtain ⟨middleOrdered, middleExtended, middleListed⟩ := nextOk nextMember ordered middleOk
    obtain ⟨visitedOrdered, visitedExtended, visitedListed⟩ := ih
      (fun other depends => known other (List.mem_cons_of_mem _ depends)) middleOrdered restOk
    refine ⟨visitedOrdered, fun id before => visitedExtended (middleExtended before), ?_⟩
    intro other depends
    cases List.mem_cons.mp depends with
    | inl here =>
      rw [here, ← nextId]
      exact visitedExtended (middleListed List.mem_cons_self)
    | inr later => exact visitedListed later

theorem visit_ok {fuel : Nat} {trail : List String} {task : OrchestratorTask} (member : task ∈ tasks)
    (ordered : DependencyOrder (dependenciesOf tasks) finished)
    (returned : visit tasks fuel trail task finished = .ok visited) : Extends tasks [task.id] finished visited := by
  induction fuel generalizing trail task finished visited with
  | zero => cases returned
  | succ fuel ih =>
    unfold visit at returned
    split at returned
    next known =>
      cases returned
      exact ⟨ordered, List.Subset.refl _, by simpa using known⟩
    · split at returned
      · cases returned
      · simp only [bind_eq_ok, pure_eq_ok] at returned
        obtain ⟨before, beforeOk, rfl⟩ := returned
        obtain ⟨beforeOrdered, extended, listed⟩ :=
          visitDependencies_ok ih (present task member) ordered beforeOk
        refine ⟨.snoc beforeOrdered ?_, fun id known => List.mem_append_left _ (extended known), by simp⟩
        intro dependency depends
        rw [dependenciesOf, taskById_of_mem distinct member] at depends
        exact listed depends

theorem visitTasks_ok {remaining : List OrchestratorTask} (planned : ∀ task ∈ remaining, task ∈ tasks)
    (ordered : DependencyOrder (dependenciesOf tasks) finished)
    (returned : visitTasks tasks remaining finished = .ok visited) :
    Extends tasks (remaining.map OrchestratorTask.id) finished visited := by
  induction remaining generalizing finished with
  | nil =>
    cases returned
    exact ⟨ordered, List.Subset.refl _, List.nil_subset _⟩
  | cons task rest ih =>
    unfold visitTasks at returned
    obtain ⟨middle, middleOk, restOk⟩ := bind_eq_ok.mp returned
    obtain ⟨middleOrdered, middleExtended, listed⟩ :=
      visit_ok distinct present (planned task List.mem_cons_self) ordered middleOk
    obtain ⟨visitedOrdered, visitedExtended, restListed⟩ := ih
      (fun other member => planned other (List.mem_cons_of_mem _ member)) middleOrdered restOk
    refine ⟨visitedOrdered, fun id before => visitedExtended (middleExtended before), ?_⟩
    rw [List.map_cons, List.cons_subset]
    exact ⟨visitedExtended (listed List.mem_cons_self), restListed⟩

end Visit

/-- The dependency graph of an accepted plan. -/
structure TaskGraph (tasks : List OrchestratorTask) : Prop where
  distinct : (tasks.map OrchestratorTask.id).Nodup
  present : ∀ task ∈ tasks, ∀ dependency ∈ task.dependsOn, ∃ other ∈ tasks, other.id = dependency
  ordered : ∃ order : List String, DependencyOrder (dependenciesOf tasks) order ∧
    ∀ task ∈ tasks, task.id ∈ order

theorem assertDependencies_ok (accepted : assertDependencies tasks = .ok passed) :
    TaskGraph tasks := by
  simp only [assertDependencies, bind_eq_ok] at accepted
  obtain ⟨_, distinctOk, _, presentOk, order, visited, _⟩ := accepted
  have distinct := (checkDistinct_ok distinctOk).1
  have present := checkPresent_ok presentOk
  obtain ⟨ordered, _, listed⟩ := visitTasks_ok distinct present (fun _ member => member) .nil visited
  refine ⟨distinct, ?_, order, ordered, fun task member => listed (List.mem_map_of_mem member)⟩
  intro task member dependency depends
  obtain ⟨other, found⟩ := Option.isSome_iff_exists.mp (present task member dependency depends)
  exact ⟨other, taskById_id found⟩

/-- What validation keeps of a task. -/
def OrchestratorTask.node (task : OrchestratorTask) : String × List String × String :=
  (task.id, task.dependsOn, task.workerPresetId)

theorem dependenciesOf_eq (id : String) :
    dependenciesOf tasks id =
      match (tasks.map OrchestratorTask.node).find? fun node => node.1 == id with
      | some node => node.2.1
      | none => [] := by
  rw [dependenciesOf, taskById, List.find?_map]
  have sameTask : (tasks.find? fun task => task.id == id) =
      tasks.find? ((fun node : String × List String × String => node.1 == id) ∘ OrchestratorTask.node) := rfl
  rw [← sameTask]
  cases tasks.find? fun task => task.id == id <;> rfl

theorem TaskGraph.of_nodes {others : List OrchestratorTask} (graph : TaskGraph tasks)
    (same : others.map OrchestratorTask.node = tasks.map OrchestratorTask.node) : TaskGraph others := by
  have ids : others.map OrchestratorTask.id = tasks.map OrchestratorTask.id := by
    have projected := congrArg (List.map Prod.fst) same
    rwa [List.map_map, List.map_map] at projected
  have sameDependencies : dependenciesOf others = dependenciesOf tasks := by
    funext id
    rw [dependenciesOf_eq, dependenciesOf_eq, same]
  have planned : ∀ {first second : List OrchestratorTask},
      first.map OrchestratorTask.node = second.map OrchestratorTask.node → ∀ task ∈ first,
        ∃ other ∈ second, other.node = task.node := by
    intro first second sameNodes task member
    have listed : task.node ∈ second.map OrchestratorTask.node := by
      rw [← sameNodes]
      exact List.mem_map_of_mem member
    exact List.mem_map.mp listed
  refine ⟨ids ▸ graph.distinct, ?_, ?_⟩
  · intro task member dependency depends
    obtain ⟨old, oldMember, oldNode⟩ := planned same task member
    have oldDepends : dependency ∈ old.dependsOn := by
      rwa [show old.dependsOn = task.dependsOn from congrArg (·.2.1) oldNode]
    obtain ⟨target, targetMember, targetId⟩ := graph.present old oldMember dependency oldDepends
    obtain ⟨other, otherMember, otherNode⟩ := planned same.symm target targetMember
    exact ⟨other, otherMember, (congrArg Prod.fst otherNode).trans targetId⟩
  · obtain ⟨order, ordered, listed⟩ := graph.ordered
    refine ⟨order, sameDependencies ▸ ordered, fun task member => ?_⟩
    obtain ⟨old, oldMember, oldNode⟩ := planned same task member
    have sameId : old.id = task.id := congrArg Prod.fst oldNode
    exact sameId ▸ listed old oldMember

section

variable {resolveRepoScopedPath : String → Except Thrown (Option String)} {config : SiftConfig}

theorem validateTask_node {validated : OrchestratorTask} (accepted : validateTask resolveRepoScopedPath config task = .ok validated) :
    validated.node = task.node ∧ ∃ worker, requireOrchestratorWorkerPreset config validated = .ok worker := by
  simp only [validateTask, bind_eq_ok, pure_eq_ok] at accepted
  obtain ⟨worker, workerOk, _, _, _, _, _, _, _, _, _, _, rfl⟩ := accepted
  exact ⟨rfl, worker, workerOk⟩

theorem validateOrchestratorPlan_ok {plan validated : OrchestratorPlan}
    (accepted : validateOrchestratorPlan resolveRepoScopedPath config plan = .ok validated) :
    TaskGraph validated.tasks ∧
      ∀ task ∈ validated.tasks, ∃ worker, requireOrchestratorWorkerPreset config task = .ok worker := by
  simp only [validateOrchestratorPlan, bind_eq_ok, pure_eq_ok] at accepted
  obtain ⟨_, graphOk, tasks, tasksOk, _, _, rfl⟩ := accepted
  refine ⟨(assertDependencies_ok graphOk).of_nodes
    (map_of_mapM (fun round => (validateTask_node round).1) tasksOk), ?_⟩
  intro task member
  obtain ⟨original, _, round⟩ := mem_of_mapM tasksOk member
  exact (validateTask_node round).2

end

end SiftKit.Orchestrator
