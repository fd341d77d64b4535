import SiftKit.Orchestrator.TaskProgram

/-! # The completion gate of a task

Whatever workers, checks, reviews and the checkout answer, `implementTask` marks its task
completed behind the gate or throws, within its budget of attempts.  The other tasks of the
run, and whoever else changes it between a question and its answer, leave this task alone.
-/

namespace SiftKit.Orchestrator

open SiftKit.Config SiftKit.Failure SiftKit.Tables SiftKit.Coroutine RunRecord

/-! ## The progress of a task -/

/-- What a run holds about one task. -/
structure OwnPart where
  rows : List OrchestratorTaskState
  attempts : List OrchestratorAttempt
  records : List RunRecord

def SharedRun.own (taskId : String) (run : SharedRun) : OwnPart where
  rows := run.tasks.filter fun task => task.taskId == taskId
  attempts := run.attempts.filter fun attempt => attempt.taskId == taskId
  records := run.log.filter fun record => record.taskId == some taskId

def RunRecord.isReserved (purpose : OrchestratorChildPurpose) : RunRecord → Bool
  | .reserved _ other _ => other == purpose
  | _ => false

def RunRecord.isCompleted : RunRecord → Bool
  | .completed _ => true
  | _ => false

def RunRecord.result? : RunRecord → Option OrchestratorAttemptResult
  | .recorded result => some result
  | _ => none

def RunRecord.review? : RunRecord → Option (WorkspaceChanges × OrchestratorDriftReview)
  | .reviewed _ changes review => some (changes, review)
  | _ => none

/-- How far a task is, read off what the run holds about it. -/
structure TaskProgress where
  used : OrchestratorChildPurpose → Nat
  reserved : OrchestratorChildPurpose → Nat
  lastResult : Option OrchestratorAttemptResult
  /-- The committed reviews, each with the changes its round of the gate computed. -/
  reviews : List (WorkspaceChanges × OrchestratorDriftReview)
  /-- The review that each row of the task stores. -/
  stored : List (Option OrchestratorDriftReview)
  completed : Bool

def OwnPart.progress (own : OwnPart) : TaskProgress where
  used purpose := (own.attempts.filter fun attempt => attempt.purpose == purpose).length
  reserved purpose := (own.records.filter (isReserved purpose)).length
  lastResult := (own.records.filterMap result?).getLast?
  reviews := own.records.filterMap review?
  stored := own.rows.map OrchestratorTaskState.driftReview
  completed := own.records.any isCompleted

def SharedRun.progress (taskId : String) (run : SharedRun) : TaskProgress := (run.own taskId).progress

def TaskProgress.record (result : OrchestratorAttemptResult) (progress : TaskProgress) : TaskProgress :=
  { progress with lastResult := some result }

/-- A review is committed. -/
def TaskProgress.review (changes : WorkspaceChanges) (review : OrchestratorDriftReview) (progress : TaskProgress) :
    TaskProgress :=
  { progress with
    reviews := progress.reviews ++ [(changes, review)]
    stored := progress.stored.map fun _ => some review }

/-- An attempt is reserved. -/
def TaskProgress.reserve (purpose : OrchestratorChildPurpose) (progress : TaskProgress) : TaskProgress :=
  { progress with
    used := fun other => progress.used other + if other = purpose then 1 else 0
    reserved := fun other => progress.reserved other + if other = purpose then 1 else 0 }

/-! ## The gate -/

/-- The review of the last round, over the changes of that round and the review before it. -/
structure Reviewed (task : String) (earlier : List (WorkspaceChanges × OrchestratorDriftReview))
    (changes : WorkspaceChanges) (review : OrchestratorDriftReview) : Prop where
  ofTask : review.taskId = task
  verdict :
    (review.verdict = .not_required ∧ review.changeDigest = changes.digest.getD "none" ∧
      (changes.digest = none ∨ changesNeedDriftReview changes.paths = false)) ∨
    (review.verdict = .clean ∧ changes.digest = some review.changeDigest ∧
      ∀ preceding, earlier.getLast? = some preceding → review.Accounts preceding.2.findings)

/-- What a task that is marked completed has behind it. -/
structure CompletionGate (taskId : String) (run : SharedRun) : Prop where
  marked : statusOf run.tasks taskId = some .completed
  passed : ∃ result, (run.progress taskId).lastResult = some result ∧ result.passed = true
  reviewed : ∃ earlier changes review, (run.progress taskId).reviews = earlier ++ [(changes, review)] ∧
    (∀ stored ∈ (run.progress taskId).stored, stored = some review) ∧ Reviewed taskId earlier changes review

/-- At most two attempts of each purpose are reserved. -/
def WithinBudget (taskId : String) (run : SharedRun) : Prop :=
  ∀ purpose, (run.progress taskId).reserved purpose ≤ ORCHESTRATOR_MAX_ATTEMPTS

/-! ## Assertions about the progress -/

/-- Whoever acts between a question and its answer leaves the task's part of the run alone. -/
def keepsTask (taskId : String) (before : SharedRun) (question : TaskInterface.Question)
    (_ : TaskInterface.Answer question) (after : SharedRun) : Prop :=
  after.own taskId = before.own taskId

/-- A task that is under way: within its budget, and not marked completed. -/
structure Underway (progress : TaskProgress) : Prop where
  counted : ∀ purpose, progress.reserved purpose ≤ progress.used purpose
  budget : ∀ purpose, progress.reserved purpose ≤ ORCHESTRATOR_MAX_ATTEMPTS
  unmarked : progress.completed = false

def gateContract (taskId : String) : Contract TaskInterface SharedRun Stop where
  rely := keepsTask taskId
  asks run := Underway (run.progress taskId)
  throws stop run := stop ≠ .exhausted ∧ Underway (run.progress taskId)

/-- A triple over the progress of a task that stays under way. -/
def Achieves {Result : Type} (taskId : String) (before : TaskProgress → Prop) (program : Program Result)
    (returns : Result → TaskProgress → Prop) : Prop :=
  Triple (gateContract taskId) (fun run => Underway (run.progress taskId) ∧ before (run.progress taskId)) program
    fun result run => Underway (run.progress taskId) ∧ returns result (run.progress taskId)

namespace Achieves

variable {Result Next : Type} {taskId : String}

variable {returns : Result → TaskProgress → Prop} {before : TaskProgress → Prop}

theorem pure {result : Result} : Achieves taskId (returns result) (pure result) returns :=
  fun _ holds => holds

theorem done {result : Result} : Achieves taskId before (Pure.pure result) fun _ => before :=
  fun _ holds => holds

theorem bind {first : Program Result} {next : Result → Program Next} {middle : Result → TaskProgress → Prop}
    {returns : Next → TaskProgress → Prop} (firstAchieves : Achieves taskId before first middle)
    (nextAchieves : ∀ result, Achieves taskId (middle result) (next result) returns) :
    Achieves taskId before (first >>= next) returns :=
  Triple.bind (fun (result : Result) (run : SharedRun) => Underway (run.progress taskId) ∧ middle result (run.progress taskId))
    firstAchieves nextAchieves

theorem consequence {weak strong : TaskProgress → Prop} {program : Program Result}
    {wider : Result → TaskProgress → Prop} (achieves : Achieves taskId weak program returns)
    (before : ∀ progress, Underway progress → strong progress → weak progress)
    (after : ∀ result progress, Underway progress → returns result progress → wider result progress) :
    Achieves taskId strong program wider :=
  Triple.consequence achieves (fun _ holds => ⟨holds.1, before _ holds.1 holds.2⟩)
    fun _ _ holds => ⟨holds.1, after _ _ holds.1 holds.2⟩

theorem throw {stop : Stop} (named : stop ≠ .exhausted) : Achieves taskId before (throw stop) returns :=
  fun _ holds => ⟨named, holds.1⟩

theorem absurd {program : Program Result} (impossible : ∀ progress, Underway progress → ¬before progress) :
    Achieves taskId before program returns :=
  fun _ holds => (impossible _ holds.1 holds.2).elim

theorem read {project : SharedRun → Result} : Achieves taskId before (Coroutine.read project) fun _ => before :=
  fun _ holds => holds

theorem readRun :
    Achieves taskId before (Coroutine.read id) fun run progress => before progress ∧ progress = run.progress taskId :=
  fun _ holds => ⟨holds.1, holds.2, rfl⟩

theorem ofExcept {computation : Except Stop Result} (named : computation ≠ .error .exhausted) :
    Achieves taskId before (ofExcept computation) fun _ => before := by
  refine Triple.ofExcept (fun _ _ _ holds => holds) fun stop failed _ holds => ⟨?_, holds.1⟩
  intro exhausted
  exact named (failed.trans (congrArg Except.error exhausted))

theorem ite {condition : Prop} [Decidable condition] {thenBranch elseBranch : Program Result}
    (holds : condition → Achieves taskId before thenBranch returns)
    (fails : ¬condition → Achieves taskId before elseBranch returns) :
    Achieves taskId before (if condition then thenBranch else elseBranch) returns :=
  Triple.ite holds fails

end Achieves

/-! ## What each call does to the progress -/

theorem own_setTask (taskId : String) {change : OrchestratorTaskState → OrchestratorTaskState}
    (kept : ∀ task, (change task).taskId = task.taskId) (records : List RunRecord) (run : SharedRun) :
    ({ run with tasks := setTask taskId change run.tasks, log := run.log ++ records }).own taskId =
      ⟨(run.own taskId).rows.map change, (run.own taskId).attempts,
        (run.own taskId).records ++ records.filter fun record => record.taskId == some taskId⟩ := by
  have rows : (setTask taskId change run.tasks).filter (fun task => task.taskId == taskId) =
      (run.tasks.filter fun task => task.taskId == taskId).map change := by
    unfold setTask
    rw [filter_updateWhere fun task _ _ => by rw [kept]]
    refine List.map_congr_left fun task member => ?_
    rw [if_pos (List.mem_filter.mp member).2]
  simp only [SharedRun.own, rows, List.filter_append]

variable {change : OrchestratorAttempt → OrchestratorAttempt}

theorem used_kept {attempts : List OrchestratorAttempt} {childRunId : String}
    (kept : ∀ attempt, (change attempt).purpose = attempt.purpose) (purpose : OrchestratorChildPurpose) :
    ((updateWhere (fun attempt => attempt.childRunId == childRunId) change attempts).filter fun attempt =>
      attempt.purpose == purpose).length = (attempts.filter fun attempt => attempt.purpose == purpose).length := by
  rw [filter_updateWhere fun attempt _ _ => by rw [kept]]
  exact List.length_map _

theorem progress_writeAttempt (taskId childRunId : String)
    (keptTask : ∀ attempt, (change attempt).taskId = attempt.taskId)
    (keptPurpose : ∀ attempt, (change attempt).purpose = attempt.purpose) (records : List RunRecord)
    (run : SharedRun) :
    ({ run with
        attempts := updateWhere (fun attempt => attempt.childRunId == childRunId) change run.attempts
        log := run.log ++ records }).progress taskId =
      OwnPart.progress ⟨(run.own taskId).rows, (run.own taskId).attempts,
        (run.own taskId).records ++ records.filter fun record => record.taskId == some taskId⟩ := by
  have attempts : (updateWhere (fun attempt => attempt.childRunId == childRunId) change run.attempts).filter
      (fun attempt => attempt.taskId == taskId) =
      updateWhere (fun attempt => attempt.childRunId == childRunId) change
        (run.attempts.filter fun attempt => attempt.taskId == taskId) :=
    filter_updateWhere fun attempt _ _ => by rw [keptTask]
  simp only [SharedRun.progress, SharedRun.own, OwnPart.progress, attempts, used_kept keptPurpose, List.filter_append]

theorem usedAttempts_eq (run : SharedRun) (taskId : String) (purpose : OrchestratorChildPurpose) :
    OrchestratorRun.usedAttempts run taskId purpose = (run.progress taskId).used purpose := by
  simp only [OrchestratorRun.usedAttempts, SharedRun.progress, SharedRun.own, OwnPart.progress, List.filter_filter]
  simp only [Bool.and_comm]

theorem progress_reserve (attempt : OrchestratorAttempt) (run : SharedRun) :
    ({ run with
        attempts := run.attempts ++ [attempt]
        log := run.log ++ [.reserved attempt.taskId attempt.purpose attempt.attempt] } : SharedRun).progress
          attempt.taskId = (run.progress attempt.taskId).reserve attempt.purpose := by
  simp only [SharedRun.progress, SharedRun.own, OwnPart.progress, TaskProgress.reserve, List.filter_append]
  congr 1
  · funext purpose
    by_cases own : attempt.purpose = purpose
    · subst own
      simp
    · simp [own, Ne.symm own]
  · funext purpose
    by_cases own : attempt.purpose = purpose
    · subst own
      simp [RunRecord.taskId, isReserved]
    · simp [RunRecord.taskId, isReserved, own, Ne.symm own]
  · simp [RunRecord.taskId, result?]
  · simp [RunRecord.taskId, review?]
  · simp [RunRecord.taskId, isCompleted]

theorem stored_ne_nil {taskId : String} {run : SharedRun}
    (planned : (run.tasks.any fun task => task.taskId == taskId) = true) : (run.progress taskId).stored ≠ [] := by
  intro none
  simp only [SharedRun.progress, SharedRun.own, OwnPart.progress, List.map_eq_nil_iff, List.filter_eq_nil_iff] at none
  obtain ⟨task, member, isTask⟩ := List.any_eq_true.mp planned
  exact none task member isTask

theorem progress_started (taskId startedId : String) (purpose : OrchestratorChildPurpose) (number : Nat)
    (run : SharedRun) :
    ({ run with log := run.log ++ [.started startedId purpose number] } : SharedRun).progress taskId =
      run.progress taskId := by
  simp only [SharedRun.progress, SharedRun.own, OwnPart.progress, List.filter_append]
  by_cases own : startedId = taskId <;>
    simp [RunRecord.taskId, isReserved, result?, review?, isCompleted, own]

theorem Underway.reserve {progress : TaskProgress} {purpose : OrchestratorChildPurpose} (underway : Underway progress)
    (room : progress.used purpose < ORCHESTRATOR_MAX_ATTEMPTS) : Underway (progress.reserve purpose) := by
  constructor
  case counted =>
    intro other
    have counted := underway.counted other
    simp only [TaskProgress.reserve]
    omega
  case budget =>
    intro other
    have counted := underway.counted other
    have budget := underway.budget other
    simp only [TaskProgress.reserve]
    split
    next own =>
      subst own
      omega
    · omega
  case unmarked => exact underway.unmarked

namespace OrchestratorRun

variable {host : RunHost} {config : SiftConfig} {taskId : String}

theorem call_achieves (before : TaskProgress → Prop) : Achieves taskId before (call host) fun _ => before := by
  intro run holds
  unfold call
  cases host.failure run.calls with
  | none => exact holds
  | some thrown => exact ⟨by simp [errorStop], holds.1⟩

theorem commit_achieves {change : SharedRun → SharedRun} (effect : TaskProgress → TaskProgress)
    (shows : ∀ run, (change run).progress taskId = effect (run.progress taskId))
    (underway : ∀ progress, Underway progress → Underway (effect progress)) (returns : TaskProgress → Prop) :
    Achieves taskId (fun progress => returns (effect progress)) (do call host; modify change)
      fun _ => returns := by
  refine (call_achieves _).bind fun _ => ?_
  intro run holds
  show Underway ((change run).progress taskId) ∧ returns ((change run).progress taskId)
  rw [shows]
  exact ⟨underway _ holds.1, holds.2⟩

theorem setTaskStatus_achieves {status : OrchestratorTaskStatus} (notCompleted : status ≠ .completed)
    (before : TaskProgress → Prop) : Achieves taskId before (setTaskStatus host taskId status) fun _ => before := by
  unfold setTaskStatus setTask
  rw [if_neg notCompleted]
  refine commit_achieves id (fun run => ?_) (fun _ underway => underway) before
  have own := @own_setTask taskId (.withStatus status) (fun _ => rfl) [] run
  unfold SharedRun.progress
  rw [own]
  simp only [OwnPart.progress, List.filter_nil, List.append_nil, List.map_map, id]
  rfl

theorem setReview_achieves {change : OrchestratorTaskState → OrchestratorTaskState} {changes : WorkspaceChanges}
    {review : OrchestratorDriftReview} (kept : ∀ task, (change task).taskId = task.taskId)
    (stores : ∀ task, (change task).driftReview = some review) (returns : TaskProgress → Prop) :
    Achieves taskId (fun progress => returns (progress.review changes review))
      (setTask host taskId change [.reviewed taskId changes review]) fun _ => returns := by
  refine commit_achieves (TaskProgress.review changes review) (fun run => ?_) ?_ returns
  · have own := own_setTask taskId kept [.reviewed taskId changes review] run
    unfold SharedRun.progress
    rw [own]
    simp [OwnPart.progress, TaskProgress.review, RunRecord.taskId, isReserved, result?,
      review?, isCompleted, Function.comp_def, stores]
  · exact fun progress underway => ⟨underway.counted, underway.budget, underway.unmarked⟩

theorem markAttemptRunning_achieves (childRunId : String) (before : TaskProgress → Prop) :
    Achieves taskId before (markAttemptRunning host childRunId) fun _ => before := by
  refine commit_achieves id (fun run => ?_) (fun _ underway => underway) before
  refine (progress_writeAttempt taskId childRunId ?_ ?_ [] run).trans ?_
  · exact fun _ => rfl
  · exact fun _ => rfl
  · rw [List.filter_nil, List.append_nil]
    rfl

theorem recordAttemptResult_achieves {result : OrchestratorAttemptResult} (ofTask : result.taskId = taskId)
    (returns : TaskProgress → Prop) :
    Achieves taskId (fun progress => returns (progress.record result)) (recordAttemptResult host result)
      fun _ => returns := by
  refine commit_achieves (TaskProgress.record result) (fun run => ?_) ?_ returns
  · refine (progress_writeAttempt taskId result.childRunId ?_ ?_ [.recorded result] run).trans ?_
    · exact fun _ => rfl
    · exact fun _ => rfl
    simp [SharedRun.progress, OwnPart.progress, TaskProgress.record, RunRecord.taskId, isReserved,
      result?, review?, isCompleted, ofTask]
  · exact fun progress underway => ⟨underway.counted, underway.budget, underway.unmarked⟩

theorem insertAttempt_achieves (attempt : OrchestratorAttempt) (before : TaskProgress → Prop)
    (room : ∀ progress, before progress → progress.used attempt.purpose < ORCHESTRATOR_MAX_ATTEMPTS) :
    Achieves attempt.taskId before (insertAttempt attempt) fun _ after =>
      ∃ progress, before progress ∧ after = progress.reserve attempt.purpose := by
  intro run holds
  have shows := progress_reserve attempt run
  refine ⟨?_, _, holds.2, shows⟩
  rw [show SharedRun.progress attempt.taskId _ = _ from shows]
  exact holds.1.reserve (room _ holds.2)

theorem reserve_achieves (work : OrchestratorChildWork) (before : TaskProgress → Prop) :
    Achieves taskId before (reserve host taskId work) fun attempt after =>
      ∃ progress, before progress ∧ after = progress.reserve work.kind ∧ progress.stored ≠ [] ∧
        progress.used work.kind < ORCHESTRATOR_MAX_ATTEMPTS ∧
        attempt.attempt = progress.used work.kind + 1 := by
  refine (call_achieves before).bind fun _ => Achieves.readRun.bind fun run => ?_
  refine Achieves.ite (fun _ => Achieves.throw (by simp [errorStop])) fun planned => ?_
  refine Achieves.ite (fun _ => Achieves.throw (by simp [errorStop])) fun room => ?_
  rw [usedAttempts_eq, Nat.not_le] at room
  have stored := @stored_ne_nil taskId run (by simpa using planned)
  refine (insertAttempt_achieves (nextAttempt host run taskId work) _ ?_).bind fun _ => Achieves.pure.consequence ?_ fun _ _ _ holds => holds
  · intro progress holds
    rw [holds.2]
    exact room
  · intro after _ holds
    obtain ⟨progress, ⟨holdsBefore, rfl⟩, shows⟩ := holds
    exact ⟨run.progress taskId, holdsBefore, shows, stored, room, congrArg (· + 1) (usedAttempts_eq run taskId work.kind)⟩

/-! ## One child attempt -/

theorem await_achieves (question : TaskQuestion) (before : TaskProgress → Prop) :
    Achieves taskId before (await question) fun _ => before := by
  intro run holds
  refine ⟨holds.1, fun answer later relied => ?_⟩
  have sameProgress : later.progress taskId = run.progress taskId := congrArg OwnPart.progress relied
  cases answer with
  | ok reply =>
    show Underway (later.progress taskId) ∧ before (later.progress taskId)
    rw [sameProgress]
    exact holds
  | error thrown =>
    refine ⟨by simp, ?_⟩
    rw [show SharedRun.progress taskId _ = _ from sameProgress]
    exact holds.1

variable (task : OrchestratorTask)

theorem startOrchestratorChild_named (attempt : OrchestratorAttempt) :
    startOrchestratorChild config task attempt ≠ .error .exhausted := by
  unfold startOrchestratorChild
  split
  · simp [errorStop]
  · split <;> simp [errorStop]

theorem superviseChild_achieves (attempt : OrchestratorAttempt) (instruction : ChildInstruction)
    (before : TaskProgress → Prop) :
    Achieves taskId before (superviseChild host config task attempt instruction) fun _ => before := by
  refine Achieves.read.bind fun aborted => ?_
  cases aborted with
  | some reason => exact Achieves.throw (by simp [errorStop])
  | none =>
    refine (Achieves.ofExcept (startOrchestratorChild_named task attempt)).bind fun _ => ?_
    refine (call_achieves before).bind fun _ => ?_
    refine Achieves.bind ?_ fun _ => (markAttemptRunning_achieves attempt.childRunId before).bind fun _ =>
      await_achieves _ before
    intro run holds
    show Underway (SharedRun.progress taskId _) ∧ before (SharedRun.progress taskId _)
    rw [progress_started]
    exact holds

theorem runChecks_achieves (checks : List OrchestratorVerificationCheck) (before : TaskProgress → Prop) :
    Achieves taskId before (runChecks task checks) fun _ => before := by
  induction checks with
  | nil => exact Achieves.done
  | cons check rest ih =>
    cases check with
    | evidence instruction paths => exact ih.bind fun _ => Achieves.done
    | command command =>
      exact (await_achieves _ before).bind fun _ => ih.bind fun _ => Achieves.done

theorem askParent_achieves {Reply : Type} {infer : Program (Inference Reply)} {before : TaskProgress → Prop}
    (infers : Achieves taskId before infer fun _ => before) (tries : Nat) :
    Achieves taskId before (askParent host infer (tries + 1)) fun _ => before := by
  induction tries with
  | zero =>
    refine (call_achieves before).bind fun _ => infers.bind fun inference => ?_
    cases inference with
    | usable answer => exact Achieves.done
    | unusable problem => exact Achieves.done
    | infrastructure message => exact Achieves.throw (by simp)
  | succ tries ih =>
    refine (call_achieves before).bind fun _ => infers.bind fun inference => ?_
    cases inference with
    | usable answer => exact Achieves.done
    | unusable problem => exact Achieves.done
    | infrastructure message => exact ih

section

variable (child : ChildOutcome) (checks : List OrchestratorCheckResult) (changedPaths : List String)
  (before : TaskProgress → Prop)

include child checks changedPaths before

theorem askEvidenceReview_achieves (tries : Nat) (rejected : List String) :
    Achieves taskId before (askEvidenceReview host task child checks changedPaths tries rejected) fun _ => before := by
  induction tries generalizing rejected with
  | zero => exact Achieves.throw (by simp [fail])
  | succ tries ih =>
    refine (askParent_achieves (await_achieves _ before) 1).bind fun reply => ?_
    cases reply with
    | problems problems => exact ih problems
    | answer answer =>
      refine Achieves.read.bind fun evidenceProblem => ?_
      exact Achieves.ite (fun _ => Achieves.done) fun _ => ih _

theorem reviewEvidence_achieves :
    Achieves taskId before (reviewEvidence host task child checks changedPaths) fun _ => before :=
  Achieves.ite
    (fun _ => (askEvidenceReview_achieves task child checks changedPaths before _ []).bind fun _ => Achieves.done)
    fun _ => Achieves.done

end

theorem runAttempt_achieves {task : OrchestratorTask} (ofTask : task.id = taskId) (writePaths : List String)
    (attempt : OrchestratorAttempt) (instruction : ChildInstruction) (before : TaskProgress → Prop) :
    Achieves taskId before (runAttempt host config task writePaths attempt instruction) fun result after =>
      ∃ progress, before progress ∧ after = progress.record result := by
  refine (superviseChild_achieves task attempt instruction before).bind fun child => ?_
  subst ofTask
  refine (setTaskStatus_achieves (by decide) before).bind fun _ => ?_
  refine (runChecks_achieves task task.verification before).bind fun checks => ?_
  refine (await_achieves .attemptChanges before).bind fun changes => ?_
  refine (reviewEvidence_achieves task child checks changes.paths before).bind fun review => ?_
  refine Achieves.read.bind fun evidenceProblem => ?_
  refine Achieves.bind (Achieves.consequence (@recordAttemptResult_achieves host task.id _ rfl _) ?_ fun _ _ _ holds => holds) fun _ =>
    Achieves.pure
  intro progress _ holds
  exact ⟨progress, holds, rfl⟩

/-! ## The drift gate -/

/-- What `validateDriftReview` lets through. -/
structure Usable (taskId changeDigest : String) (openFindings : List OrchestratorDriftFinding)
    (review : OrchestratorDriftReview) : Prop where
  ofTask : review.taskId = taskId
  digest : review.changeDigest = changeDigest
  reviewed : review.verdict ≠ .not_required
  accounts : review.Accounts openFindings

theorem findUnrunnableFindings_achieves (review : OrchestratorDriftReview) (problems : List String)
    (before : TaskProgress → Prop) :
    Achieves taskId before (findUnrunnableFindings review problems) fun unusable progress =>
      before progress ∧ (unusable = [] → problems = []) := by
  refine Achieves.ite (fun usable => ?_) fun _ => ?_
  · refine (await_achieves _ before).consequence (fun _ _ holds => holds) fun _ _ _ holds => ⟨holds, fun _ => ?_⟩
    rw [Bool.and_eq_true, List.isEmpty_iff] at usable
    exact usable.1
  · exact Achieves.pure.consequence (fun _ _ holds => ⟨holds, id⟩) fun _ _ _ holds => holds

theorem reviewDrift_achieves (changeDigest diff : String) (changedPaths : List String)
    (openFindings : List OrchestratorDriftFinding) (checks : List OrchestratorCheckResult)
    (before : TaskProgress → Prop) (tries : Nat) (rejected : List String) :
    Achieves taskId before
      (reviewDrift host task changeDigest diff changedPaths openFindings checks tries rejected)
      fun review progress => before progress ∧ Usable task.id changeDigest openFindings review := by
  induction tries generalizing rejected with
  | zero => exact Achieves.throw (by simp [fail])
  | succ tries ih =>
    refine (askParent_achieves (await_achieves _ before) 1).bind fun reply => ?_
    cases reply with
    | problems problems => exact ih problems
    | answer review =>
      refine Achieves.read.bind fun evidenceProblem => ?_
      refine (findUnrunnableFindings_achieves review _ before).bind fun unusable => ?_
      refine Achieves.ite (fun usable => ?_) fun _ => ?_
      · refine Achieves.pure.consequence (fun progress _ holds => ?_) fun _ _ _ holds => holds
        have accepted := validateDriftReview_nil (holds.2 (List.isEmpty_iff.mp usable))
        exact ⟨holds.1, accepted.1, accepted.2.1, accepted.2.2.1, accepted.2.2.2⟩
      · exact (ih unusable).consequence (fun _ _ holds => holds.1) fun _ _ _ holds => holds

/-- What holds of the task when the gate starts a round. -/
structure RoundStart (rounds : Nat) (round : DriftRound) (progress : TaskProgress) : Prop where
  planned : progress.stored ≠ []
  /-- Rounds are left: each takes an attempt of its budget. -/
  bounded : ORCHESTRATOR_MAX_ATTEMPTS < rounds + progress.used .drift_fix
  room : 0 < rounds
  passed : round.retryEvidence = none → ∃ result, progress.lastResult = some result ∧ result.passed = true
  openFindings : ∀ preceding, progress.reviews.getLast? = some preceding → round.openFindings = preceding.2.findings

/-- What holds of the task when the gate lets it through. -/
structure GatePassed (taskId : String) (progress : TaskProgress) : Prop where
  planned : progress.stored ≠ []
  passed : ∃ result, progress.lastResult = some result ∧ result.passed = true
  reviewed : ∃ earlier changes review, progress.reviews = earlier ++ [(changes, review)] ∧
    (∀ stored ∈ progress.stored, stored = some review) ∧ Reviewed taskId earlier changes review

/-- What holds of the task when a round has findings to correct. -/
structure ToCorrect (rounds : Nat) (openFindings : List OrchestratorDriftFinding) (progress : TaskProgress) :
    Prop where
  planned : progress.stored ≠ []
  bounded : ORCHESTRATOR_MAX_ATTEMPTS < rounds + 1 + progress.used .drift_fix
  openFindings : ∀ preceding, progress.reviews.getLast? = some preceding → openFindings = preceding.2.findings

def RoundReviewed (taskId : String) (rounds : Nat) :
    Option (List OrchestratorDriftFinding) → TaskProgress → Prop
  | none => GatePassed taskId
  | some openFindings => ToCorrect rounds openFindings

theorem correctDrift_achieves (digest : String) (openFindings : List OrchestratorDriftFinding)
    (retryEvidence : Option String) (rounds : Nat) :
    Achieves task.id (ToCorrect rounds openFindings)
      (correctDrift host config task digest openFindings retryEvidence) (RoundStart rounds) := by
  refine Achieves.readRun.bind fun run => ?_
  refine Achieves.ite (fun _ => Achieves.throw (by simp [fail])) fun _ => ?_
  refine (setTaskStatus_achieves (by decide) _).bind fun _ => ?_
  refine (reserve_achieves _ _).bind fun attempt => ?_
  refine (@runAttempt_achieves host config task.id { task with
    verification := (buildDriftCorrectionWork task digest openFindings).verification } rfl _ attempt _ _).bind
      fun result => ?_
  refine Achieves.pure.consequence ?_ fun _ _ _ holds => holds
  intro _ _ holds
  obtain ⟨_, ⟨progress, ⟨start, _⟩, rfl, stored, room, _⟩, rfl⟩ := holds
  have used : ((progress.reserve .drift_fix).record result).used .drift_fix = progress.used .drift_fix + 1 := by
    simp [TaskProgress.reserve, TaskProgress.record]
  have bounded := start.bounded
  constructor
  case planned => exact stored
  case bounded =>
    show _ < rounds + ((progress.reserve .drift_fix).record result).used .drift_fix
    omega
  case room =>
    have left : progress.used .drift_fix < ORCHESTRATOR_MAX_ATTEMPTS := room
    omega
  case passed =>
    intro noEvidence
    refine ⟨result, rfl, ?_⟩
    by_contra failed
    simp [failed] at noEvidence
  case openFindings => exact start.openFindings

theorem reviewRound_achieves (changes : WorkspaceChanges) (digest : String) (isDigest : changes.digest = some digest)
    (rounds : Nat) (round : DriftRound) (noEvidence : round.retryEvidence = none) :
    Achieves task.id (RoundStart (rounds + 1) round) (reviewRound host task changes digest round)
      (RoundReviewed task.id rounds) := by
  refine (setTaskStatus_achieves (by decide) _).bind fun _ => ?_
  refine (await_achieves (.reviewDiff changes.paths) _).bind fun diff => ?_
  refine (reviewDrift_achieves task digest diff changes.paths _ _ _ _ _).bind fun review => ?_
  have commits := @setReview_achieves host task.id (withReviewedDigest review digest) changes review (fun _ => rfl)
    (fun _ => rfl) (RoundReviewed task.id rounds (if review.isActionable then some review.findings else none))
  refine Achieves.bind (commits.consequence ?_ fun _ _ _ holds => holds) fun _ => Achieves.pure
  intro progress _ holds
  obtain ⟨start, usable⟩ := holds
  obtain ⟨result, recorded, passed⟩ := start.passed noEvidence
  have stored : (progress.review changes review).stored ≠ [] := by
    simpa [TaskProgress.review] using start.planned
  have reviews : (progress.review changes review).reviews = progress.reviews ++ [(changes, review)] := rfl
  cases verdict : review.verdict with
  | not_required => exact absurd verdict usable.reviewed
  | actionable findings =>
    simp only [OrchestratorDriftReview.isActionable, OrchestratorDriftReview.findings, verdict, if_true]
    refine ⟨stored, start.bounded, fun preceding isLast => ?_⟩
    rw [reviews, List.getLast?_concat, Option.some.injEq] at isLast
    simp [← isLast, OrchestratorDriftReview.findings, verdict]
  | clean =>
    simp only [OrchestratorDriftReview.isActionable, verdict, Bool.false_eq_true, if_false]
    refine ⟨stored, ⟨result, recorded, passed⟩, progress.reviews, changes, review, reviews, ?_, usable.ofTask, .inr ?_⟩
    · simp [TaskProgress.review]
    · refine ⟨verdict, by rw [isDigest, usable.digest], fun preceding isLast => ?_⟩
      rw [← start.openFindings preceding isLast]
      exact usable.accounts

/-- A round without reviewable changes ends the gate, unless a correction has failed. -/
theorem notRequired_achieves (changes : WorkspaceChanges) (rounds : Nat) (round : DriftRound)
    (unreviewable : changes.digest = none ∨ changesNeedDriftReview changes.paths = false) :
    Achieves task.id (RoundStart rounds round)
      (setTask host task.id (withDriftReview (notRequiredReview task.id changes))
        [.reviewed task.id changes (notRequiredReview task.id changes)])
      fun _ progress => round.retryEvidence = none → GatePassed task.id progress := by
  have commits := @setReview_achieves host task.id (withDriftReview (notRequiredReview task.id changes)) changes _
    (fun _ => rfl) (fun _ => rfl) fun progress => round.retryEvidence = none → GatePassed task.id progress
  refine commits.consequence ?_ fun _ _ _ holds => holds
  intro progress _ start noEvidence
  have stored : (progress.review changes (notRequiredReview task.id changes)).stored ≠ [] := by
    simpa [TaskProgress.review] using start.planned
  refine ⟨stored, start.passed noEvidence, progress.reviews, changes, _, rfl, ?_, rfl, .inl ⟨rfl, rfl, unreviewable⟩⟩
  simp [TaskProgress.review]

theorem driftGate_achieves (rounds : Nat) (round : DriftRound) :
    Achieves task.id (RoundStart rounds round) (driftGate host config task rounds round)
      fun _ => GatePassed task.id := by
  induction rounds generalizing round with
  | zero => exact Achieves.absurd fun _ _ start => Nat.lt_irrefl 0 start.room
  | succ rounds ih =>
    refine (await_achieves (.gateChanges round.retryEvidence) _).bind fun changes => ?_
    split
    next digest isDigest _ =>
      split
      next noEvidence =>
        refine (reviewRound_achieves task changes digest isDigest rounds round noEvidence).bind fun findings => ?_
        cases findings with
        | none => exact Achieves.done
        | some openFindings =>
          exact (correctDrift_achieves task digest openFindings none rounds).bind ih
      next retryEvidence _ =>
        have corrects := @correctDrift_achieves host config task digest round.openFindings (some retryEvidence)
          rounds
        refine (corrects.consequence (fun progress _ start => ?_) fun _ _ _ holds => holds).bind ih
        exact ⟨start.planned, start.bounded, start.openFindings⟩
    next notReviewable =>
      have unreviewable : changes.digest = none ∨ changesNeedDriftReview changes.paths = false := by
        cases isDigest : changes.digest with
        | none => exact .inl rfl
        | some digest => exact .inr (Bool.eq_false_iff.mpr fun needed => notReviewable digest isDigest needed)
      refine (notRequired_achieves task changes (rounds + 1) round unreviewable).bind fun _ => ?_
      split
      next noEvidence => exact Achieves.done.consequence (fun _ _ holds => holds noEvidence) fun _ _ _ holds => holds
      · exact Achieves.throw (by simp [fail])

/-! ## The task -/

/-- What holds of the task before an implementation attempt. -/
structure AttemptStart (rounds : Nat) (progress : TaskProgress) : Prop where
  bounded : ORCHESTRATOR_MAX_ATTEMPTS < rounds + progress.used .implementation
  room : 0 < rounds
  unreviewed : progress.reviews = []

/-- What holds of the task once an attempt has passed. -/
structure Implemented (result : OrchestratorAttemptResult) (progress : TaskProgress) : Prop where
  planned : progress.stored ≠ []
  recorded : progress.lastResult = some result
  passed : result.passed = true
  unreviewed : progress.reviews = []

theorem implementationAttempts_achieves (baseline : WorkspaceSnapshot) (planPath planHash : String) (rounds : Nat)
    (retry : Option ImplementationRetryEvidence) :
    Achieves task.id (AttemptStart rounds)
      (implementationAttempts host config task baseline planPath planHash rounds retry) Implemented := by
  induction rounds generalizing retry with
  | zero => exact Achieves.absurd fun _ _ start => Nat.lt_irrefl 0 start.room
  | succ rounds ih =>
    refine (reserve_achieves _ _).bind fun attempt => ?_
    refine (runAttempt_achieves rfl _ attempt _ _).bind fun result => ?_
    refine Achieves.ite (fun passed => ?_) fun failed => ?_
    · refine Achieves.pure.consequence ?_ fun _ _ _ holds => holds
      intro _ _ holds
      obtain ⟨_, ⟨progress, start, rfl, stored, _⟩, rfl⟩ := holds
      exact ⟨stored, rfl, passed, start.unreviewed⟩
    refine Achieves.ite (fun _ => ?_) fun notLast => ?_
    · exact (setTaskStatus_achieves (by decide) _).bind fun _ => Achieves.throw (by simp [fail])
    refine (setTaskStatus_achieves (by decide) _).bind fun _ => ?_
    refine (await_achieves (.retryDiff result.changedPaths) _).bind fun diff => ?_
    refine (ih _).consequence ?_ fun _ _ _ holds => holds
    intro _ _ holds
    obtain ⟨_, ⟨progress, start, rfl, _, _, number⟩, rfl⟩ := holds
    have used : ((progress.reserve .implementation).record result).used .implementation =
        progress.used .implementation + 1 := by
      simp [TaskProgress.reserve, TaskProgress.record]
    have bounded := start.bounded
    have counted : attempt.attempt = progress.used .implementation + 1 := number
    refine ⟨?_, by omega, start.unreviewed⟩
    show _ < rounds + ((progress.reserve .implementation).record result).used .implementation
    omega

theorem cleanupTaskTemporaries_achieves (paths : List String) (before : TaskProgress → Prop) :
    Achieves taskId before (cleanupTaskTemporaries host task paths) fun _ => before := by
  induction paths with
  | nil => exact Achieves.done
  | cons path rest ih =>
    intro run holds
    unfold cleanupTaskTemporaries
    split
    · exact ⟨by simp [fail], holds.1⟩
    · exact ⟨by simp [fail], holds.1⟩
    · exact ih _ holds

/-- The last call marks a task that is behind the gate. -/
theorem markCompleted_gate (taskId : String) :
    Triple (gateContract taskId)
      (fun run => Underway (run.progress taskId) ∧ GatePassed taskId (run.progress taskId))
      (setTaskStatus host taskId .completed)
      fun _ run => CompletionGate taskId run ∧ WithinBudget taskId run := by
  have calls := @call_achieves host taskId (GatePassed taskId)
  refine Triple.bind _ calls fun _ => ?_
  intro run holds
  obtain ⟨underway, gate⟩ := holds
  have known : taskId ∈ run.tasks.map OrchestratorTaskState.taskId := by
    obtain ⟨review, member⟩ := List.exists_mem_of_ne_nil _ gate.planned
    obtain ⟨row, rowMember, _⟩ := List.mem_map.mp member
    obtain ⟨inTasks, isTask⟩ := List.mem_filter.mp rowMember
    exact List.mem_map.mpr ⟨row, inTasks, by simpa using isTask⟩
  have own := @own_setTask taskId (.withStatus .completed) (fun _ => rfl) [.completed taskId] run
  have shows : ({ run with
      tasks := Orchestrator.setTask taskId (.withStatus .completed) run.tasks
      log := run.log ++ [.completed taskId] } : SharedRun).progress taskId =
        { run.progress taskId with completed := true } := by
    unfold SharedRun.progress
    rw [own]
    simp [OwnPart.progress, RunRecord.taskId, isReserved, result?, review?,
      isCompleted, Function.comp_def, OrchestratorTaskState.withStatus]
  let marked : SharedRun := { run with
    tasks := Orchestrator.setTask taskId (.withStatus .completed) run.tasks
    log := run.log ++ [.completed taskId] }
  show CompletionGate taskId marked ∧ WithinBudget taskId marked
  refine ⟨⟨(statusOf_setTaskStatus known .completed taskId).trans (if_pos rfl), ?_, ?_⟩, ?_⟩
  · rw [shows]
    exact gate.passed
  · rw [shows]
    exact gate.reviewed
  · unfold WithinBudget
    rw [shows]
    exact underway.budget

theorem implementTask_gate (baseline : WorkspaceSnapshot) (planPath planHash : String) :
    Triple (gateContract task.id) (fun run => run.log = [])
      (implementTask host config task baseline planPath planHash)
      fun _ run => CompletionGate task.id run ∧ WithinBudget task.id run := by
  have attempts := @implementationAttempts_achieves host config task baseline planPath planHash maxRounds none
  have gated : ∀ result, Achieves task.id (Implemented result)
      (driftGate host config task maxRounds ⟨result.checks, [], none⟩) fun _ => GatePassed task.id := by
    intro result
    refine (driftGate_achieves task maxRounds _).consequence (fun progress _ implemented => ?_) fun _ _ _ holds => holds
    refine ⟨implemented.planned, ?_, by decide, fun _ => ⟨result, implemented.recorded, implemented.passed⟩, ?_⟩
    · show ORCHESTRATOR_MAX_ATTEMPTS < ORCHESTRATOR_MAX_ATTEMPTS + 1 + _
      omega
    · intro preceding isLast
      rw [implemented.unreviewed] at isLast
      cases isLast
  have cleaned := @cleanupTaskTemporaries_achieves host task.id task task.temporaryPaths (GatePassed task.id)
  have marked := @markCompleted_gate host task.id
  have whole := Triple.bind _ attempts fun result => Triple.bind _ (gated result) fun _ =>
    Triple.bind _ cleaned fun _ => marked
  refine whole.consequence (fun run fresh => ?_) fun _ _ holds => holds
  -- Nothing is recorded yet, so nothing is reserved and nothing is reviewed.
  have progress : run.progress task.id = { run.progress task.id with
      reserved := fun _ => 0
      reviews := []
      completed := false } := by
    simp [SharedRun.progress, SharedRun.own, OwnPart.progress, fresh]
  rw [progress]
  refine ⟨⟨fun _ => Nat.zero_le _, fun _ => Nat.zero_le _, rfl⟩, ?_, by decide, rfl⟩
  show ORCHESTRATOR_MAX_ATTEMPTS < ORCHESTRATOR_MAX_ATTEMPTS + 1 + _
  omega

end OrchestratorRun

/-- How `implementTask` may end. -/
def EndsBehindGate (taskId : String) : Outcome Stop Unit × SharedRun → Prop
  | (.returned _, run) => CompletionGate taskId run
  | (.threw stop, run) => stop ≠ .exhausted ∧ (run.progress taskId).completed = false

/--
For every world that answers, a task that starts is marked completed behind its gate, or its
program throws and it is not; either way within its budget of attempts, and never because a
loop ran out of rounds.
-/
theorem implementTask_completionGate (host : RunHost) (config : SiftConfig) (task : OrchestratorTask)
    (baseline : WorkspaceSnapshot) (planPath planHash : String) (run : SharedRun) {World : Type}
    (environment : Environment TaskInterface SharedRun World (keepsTask task.id)) (world : World) :
    let ended := (OrchestratorRun.implementTask host config task baseline planPath planHash
      { run with log := [] }).play environment world
    EndsBehindGate task.id ended ∧ WithinBudget task.id ended.2 := by
  intro ended
  have ensures := @OrchestratorRun.implementTask_gate host config task baseline planPath planHash
    { run with log := [] } rfl
  have atEnd : Meets (gateContract task.id) _ ended := ensures.play environment world
  clear_value ended
  cases ended with
  | mk outcome final =>
    cases outcome with
    | returned result => exact atEnd
    | threw stop => exact ⟨⟨atEnd.1, atEnd.2.unmarked⟩, atEnd.2.budget⟩

end SiftKit.Orchestrator
