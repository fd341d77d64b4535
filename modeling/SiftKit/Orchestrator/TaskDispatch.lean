import Mathlib.Data.List.TakeWhile
import SiftKit.Orchestrator.TaskLoopContract
import SiftKit.Orchestrator.TaskProgram

/-! # Dispatch after a failed task

`executeTasks` of `orchestrator/run.ts` with the programs of its tasks.  Once a task has
failed, the loop starts no task and aborts the children that run; each sibling goes on with
its own program, and whether that reserves another attempt depends on its next answers.
-/

namespace SiftKit.Orchestrator

open SiftKit.Config SiftKit.Failure SiftKit.Tables SiftKit.Coroutine SiftKit.Runs

/-! ## The loop and the programs of its tasks -/

/-- An entry of `running`: a task and where its program stopped. -/
structure TaskThread where
  task : OrchestratorTask
  node : Node TaskInterface SharedRun Stop Unit

inductive ExecutionOutcome where
  /-- Waiting in `Promise.race`. -/
  | racing
  /-- In the catch branch, until every task has settled. -/
  | stopping (stop : Stop)
  | returned
  | threw (stop : Stop)
  deriving DecidableEq, Repr

structure OrchestratorExecution where
  shared : SharedRun
  running : List TaskThread
  schedule : Option OrchestratorSchedule
  outcome : ExecutionOutcome

/-- What a run is started with. -/
structure RunInput where
  host : RunHost
  config : SiftConfig
  plan : OrchestratorPlan
  planPath : String
  planHash : String

namespace OrchestratorExecution

variable (input : RunInput)

/-- `this.setTaskStatus(task.id, 'running')` and the first part of `runTask`, for each task of a pass. -/
def startTasks : List OrchestratorTask → OrchestratorExecution → OrchestratorExecution
  | [], execution => execution
  | task :: rest, execution =>
    match OrchestratorRun.setTaskStatus input.host task.id .running execution.shared with
    | .returned shared () =>
      let node := OrchestratorRun.runTask input.host input.config task input.planPath input.planHash shared
      startTasks rest { execution with shared := node.state, running := execution.running ++ [⟨task, node⟩] }
    | .threw shared stop => { execution with shared := shared, outcome := .threw stop }
    | .waits shared _ _ => { execution with shared := shared }

/-- Nothing runs: every task is completed, or some cannot start. -/
def finishRound (started : OrchestratorExecution) : OrchestratorExecution :=
  if started.outcome = .racing ∧ started.running.isEmpty = true then
    let unfinished := (started.shared.tasks.filter fun task => task.status != .completed).map
      OrchestratorTaskState.taskId
    let names := String.intercalate ", " unfinished
    { started with
      outcome := if unfinished.isEmpty then .returned
        else .threw (.thrown (.failure ⟨.blocked, s!"Tasks cannot start: {names}.", none, none, []⟩)) }
  else started

/-- One round of the loop, up to the race. -/
def round (execution : OrchestratorExecution) : OrchestratorExecution :=
  match execution.shared.aborted with
  | some reason => { execution with outcome := .threw (errorStop (.error reason)) }
  | none =>
    match schedulePass input.config input.plan execution.shared.tasks (execution.running.map TaskThread.task) with
    | .error thrown => { execution with outcome := .threw (errorStop thrown) }
    | .ok pass =>
      finishRound (startTasks input pass.start
        { execution with schedule := some pass.schedule, outcome := .racing })

/-- `executeTasks`, at its first race: the plan is saved, no task has an attempt. -/
def start (evidenceProblem : OrchestratorCodeEvidence → Option String) : OrchestratorExecution :=
  round input {
    shared := {
      tasks := (TaskLoop.initial input.plan).tasks
      attempts := []
      aborted := none
      evidenceProblem := evidenceProblem
      calls := 0
      log := [] }
    running := []
    schedule := none
    outcome := .racing }

/-- What happens to a run.  An answer is given as what the world would answer to any question. -/
inductive Event where
  /-- The question that a task waits with is answered. -/
  | answer (taskId : String) (reply : (question : TaskQuestion) → TaskInterface.Answer question)
  /-- The race delivers a completed task. -/
  | collect (taskId : String)
  /-- The race rejects with a failed task: the children are aborted, and no further task starts. -/
  | fail (taskId : String)
  /-- Every task has settled, and the failure is thrown. -/
  | settle
  /-- The run is aborted from outside, or the checkout changes. -/
  | disturb (aborted : Option String) (evidenceProblem : OrchestratorCodeEvidence → Option String)

def find (taskId : String) (execution : OrchestratorExecution) : Option TaskThread :=
  execution.running.find? fun thread => thread.task.id == taskId

def isSettled : Node TaskInterface SharedRun Stop Unit → Bool
  | .waits .. => false
  | _ => true

/-- One step of a run. -/
def step (execution : OrchestratorExecution) : Event → Option OrchestratorExecution
  | .answer taskId reply =>
    match execution.find taskId with
    | some ⟨task, .waits _ question resume⟩ =>
      let node := resume (reply question) execution.shared
      some { execution with
        shared := node.state
        running := execution.running.map fun thread => if thread.task.id == taskId then ⟨task, node⟩ else thread }
    | _ => none
  | .collect taskId =>
    match execution.outcome, execution.find taskId with
    | .racing, some ⟨_, .returned _ ()⟩ =>
      some (round input { execution with
        running := execution.running.filter fun thread => thread.task.id != taskId })
    | _, _ => none
  | .fail taskId =>
    match execution.outcome, execution.find taskId with
    | .racing, some ⟨_, .threw _ stop⟩ =>
      some { execution with
        shared := { execution.shared with log := execution.shared.log ++ [.stopping] }
        outcome := .stopping stop }
    | _, _ => none
  | .settle =>
    match execution.outcome with
    | .stopping stop =>
      if execution.running.all fun thread => isSettled thread.node then some { execution with outcome := .threw stop }
      else none
    | _ => none
  | .disturb aborted evidenceProblem =>
    some { execution with
      shared := { execution.shared with aborted := aborted, evidenceProblem := evidenceProblem } }

end OrchestratorExecution

/-! ## Dispatch -/

/-- A child attempt is reserved or started. -/
def RunRecord.isDispatch : RunRecord → Bool
  | .reserved .. => true
  | .started .. => true
  | _ => false

/-- What a run did from the moment its loop entered the catch branch. -/
def afterStop (log : List RunRecord) : List RunRecord :=
  log.dropWhile fun record => record != .stopping

/-- No further child attempt is reserved or started. -/
def DispatchStopped (run : SharedRun) : Prop :=
  ∀ record ∈ afterStop run.log, record.isDispatch = false

/-- The loop has not entered its catch branch. -/
def Active (run : SharedRun) : Prop := RunRecord.stopping ∉ run.log

def hasReviewableChanges (changes : WorkspaceChanges) : Bool :=
  changes.digest.isSome && changesNeedDriftReview changes.paths

/--
The answers that send a task into another attempt: the baseline of a task that has made none,
the diff of a failed first attempt, reviewable changes after a failed correction, and a usable
actionable review; the last two when a correction is left.
-/
def sendsOn (taskId : String) (run : SharedRun) :
    (question : TaskQuestion) → TaskInterface.Answer question → Bool
  | .captureWorkspace, .ok _ => true
  | .retryDiff _, .ok _ => true
  | .gateChanges (some _), .ok changes =>
    hasReviewableChanges changes && OrchestratorRun.usedAttempts run taskId .drift_fix < ORCHESTRATOR_MAX_ATTEMPTS
  | .unrunnableChecks _, .ok unusable =>
    unusable.isEmpty && OrchestratorRun.usedAttempts run taskId .drift_fix < ORCHESTRATOR_MAX_ATTEMPTS
  | _, _ => false

instance (run : SharedRun) : Decidable (DispatchStopped run) :=
  inferInstanceAs (Decidable (∀ record ∈ afterStop run.log, record.isDispatch = false))

instance (run : SharedRun) : Decidable (Active run) :=
  inferInstanceAs (Decidable (RunRecord.stopping ∉ run.log))

/-- Once the loop stops, no task is sent into another attempt by this event. -/
def isCalm (execution : OrchestratorExecution) : OrchestratorExecution.Event → Bool
  | .answer taskId reply =>
    match execution.find taskId with
    | some ⟨_, .waits _ question _⟩ =>
      decide (Active execution.shared) || !sendsOn taskId execution.shared question (reply question)
    | _ => true
  | _ => true

/-- A step of a run in which a failed task sends no sibling into another attempt. -/
def calmStep (input : RunInput) (execution : OrchestratorExecution) (event : OrchestratorExecution.Event) :
    Option OrchestratorExecution :=
  if isCalm execution event then execution.step input event else none

/-! ## Assertions about dispatch -/

/-- A change that neither dispatches nor stops. -/
structure Minor (before after : SharedRun) : Prop where
  log : ∃ records, after.log = before.log ++ records ∧
    ∀ record ∈ records, record.isDispatch = false ∧ record ≠ .stopping
  used : ∀ taskId purpose, OrchestratorRun.usedAttempts after taskId purpose =
    OrchestratorRun.usedAttempts before taskId purpose

theorem mem_afterStop_append {early late : List RunRecord} {record : RunRecord}
    (member : record ∈ afterStop (early ++ late)) : record ∈ afterStop early ∨ record ∈ late := by
  unfold afterStop at member ⊢
  induction early with
  | nil => exact .inr ((List.dropWhile_sublist _).subset member)
  | cons head rest ih =>
    rw [List.cons_append, List.dropWhile_cons] at member
    rw [List.dropWhile_cons]
    split at member
    next skipped =>
      rw [if_pos skipped]
      exact ih member
    next stops =>
      rw [if_neg stops]
      exact List.mem_append.mp member

theorem Active.dispatchStopped {run : SharedRun} (active : Active run) : DispatchStopped run := by
  have none : afterStop run.log = [] := by
    refine List.dropWhile_eq_nil_iff.mpr fun record member => ?_
    simp only [bne_iff_ne, ne_eq]
    intro stopping
    exact active (stopping ▸ member)
  intro record member
  rw [none] at member
  cases member

theorem DispatchStopped.minor {before after : SharedRun} (minor : Minor before after)
    (stopped : DispatchStopped before) : DispatchStopped after := by
  obtain ⟨records, log, plain⟩ := minor.log
  intro record member
  rw [log] at member
  cases mem_afterStop_append member with
  | inl early => exact stopped record early
  | inr late => exact (plain record late).1

theorem Active.minor {before after : SharedRun} (minor : Minor before after) (active : Active before) :
    Active after := by
  obtain ⟨records, log, plain⟩ := minor.log
  unfold Active
  rw [log, List.mem_append, not_or]
  exact ⟨active, fun member => (plain _ member).2 rfl⟩

/-- Dispatch has stopped, and a task that has a correction left is not held up. -/
structure MayCorrect (taskId : String) (run : SharedRun) : Prop where
  stopped : DispatchStopped run
  active : OrchestratorRun.usedAttempts run taskId .drift_fix < ORCHESTRATOR_MAX_ATTEMPTS → Active run

variable {taskId : String}

theorem MayCorrect.minor {before after : SharedRun} (minor : Minor before after)
    (may : MayCorrect taskId before) : MayCorrect taskId after := by
  refine ⟨may.stopped.minor minor, fun left => (may.active ?_).minor minor⟩
  rwa [minor.used] at left

/-- An assertion that minor changes keep. -/
structure Steadfast (assertion : SharedRun → Prop) : Prop where
  kept : ∀ {before after}, Minor before after → assertion before → assertion after
  stopped : ∀ {run}, assertion run → DispatchStopped run

theorem steadfast_dispatchStopped : Steadfast DispatchStopped :=
  ⟨fun minor stopped => stopped.minor minor, id⟩

theorem steadfast_active : Steadfast Active :=
  ⟨fun minor active => active.minor minor, fun active => active.dispatchStopped⟩

theorem steadfast_mayCorrect (taskId : String) : Steadfast (MayCorrect taskId) :=
  ⟨fun minor may => may.minor minor, fun may => may.stopped⟩

/-- What a task may rely on in a calm run. -/
def dispatchContract (taskId : String) : Contract TaskInterface SharedRun Stop where
  rely _ question answer after :=
    DispatchStopped after ∧ (¬Active after → sendsOn taskId after question answer = false)
  asks := DispatchStopped
  throws _ := DispatchStopped

namespace OrchestratorRun

variable {host : RunHost} {config : SiftConfig} {taskId : String}

variable {assertion : SharedRun → Prop} (task : OrchestratorTask)

section

variable (steadfast : Steadfast assertion)

include steadfast

theorem call_keeps :
    Triple (dispatchContract taskId) assertion (call host) fun _ => assertion := by
  intro run holds
  have minor : Minor run { run with calls := run.calls + 1 } :=
    ⟨⟨[], (List.append_nil _).symm, by simp⟩, fun _ _ => rfl⟩
  unfold call
  split
  · exact steadfast.stopped (steadfast.kept minor holds)
  · exact steadfast.kept minor holds

theorem modify_keeps {change : SharedRun → SharedRun} (minor : ∀ run, Minor run (change run)) :
    Triple (dispatchContract taskId) assertion (modify change) fun _ => assertion :=
  fun _ holds => steadfast.kept (minor _) holds

theorem setTask_keeps (changed : String) (change : OrchestratorTaskState → OrchestratorTaskState)
    {records : List RunRecord} (plain : ∀ record ∈ records, record.isDispatch = false ∧ record ≠ .stopping) :
    Triple (dispatchContract taskId) assertion (setTask host changed change records) fun _ => assertion :=
  Triple.bind _ (call_keeps steadfast) fun _ => modify_keeps steadfast fun _ =>
    ⟨⟨records, rfl, plain⟩, fun _ _ => rfl⟩

theorem setTaskStatus_keeps (changed : String) (status : OrchestratorTaskStatus) :
    Triple (dispatchContract taskId) assertion (setTaskStatus host changed status) fun _ => assertion := by
  refine setTask_keeps steadfast changed _ fun record member => ?_
  split at member
  · obtain rfl := List.mem_singleton.mp member
    exact ⟨rfl, by simp⟩
  · cases member

theorem writeAttempt_keeps (childRunId : String) {change : OrchestratorAttempt → OrchestratorAttempt}
    (kept : ∀ attempt, (change attempt).taskId = attempt.taskId ∧ (change attempt).purpose = attempt.purpose)
    {records : List RunRecord} (plain : ∀ record ∈ records, record.isDispatch = false ∧ record ≠ .stopping) :
    Triple (dispatchContract taskId) assertion (writeAttempt host childRunId change records) fun _ => assertion := by
  refine Triple.bind _ (call_keeps steadfast) fun _ => modify_keeps steadfast fun run => ?_
  refine ⟨⟨records, rfl, plain⟩, fun owner purpose => ?_⟩
  unfold usedAttempts
  rw [filter_updateWhere fun attempt _ _ => by rw [(kept attempt).1, (kept attempt).2]]
  exact List.length_map _

theorem markAttemptRunning_keeps (childRunId : String) :
    Triple (dispatchContract taskId) assertion (markAttemptRunning host childRunId) fun _ => assertion := by
  refine writeAttempt_keeps steadfast childRunId ?_ ?_
  · exact fun _ => ⟨rfl, rfl⟩
  · simp

theorem recordAttemptResult_keeps (result : OrchestratorAttemptResult) :
    Triple (dispatchContract taskId) assertion (recordAttemptResult host result) fun _ => assertion := by
  refine writeAttempt_keeps steadfast result.childRunId ?_ ?_
  · exact fun _ => ⟨rfl, rfl⟩
  · simp [RunRecord.isDispatch]

end

/-! ## Where a task dispatches -/

theorem reserve_active (owner : String) (work : OrchestratorChildWork) :
    Triple (dispatchContract taskId) Active (reserve host owner work) fun _ => Active := by
  refine Triple.bind _ (call_keeps steadfast_active) fun _ => ?_
  refine Triple.bind (fun _ => Active) (fun _ holds => holds) fun run => ?_
  refine Triple.ite (fun _ _ holds => holds.dispatchStopped) fun _ => ?_
  refine Triple.ite (fun _ _ holds => holds.dispatchStopped) fun _ => ?_
  refine Triple.bind (fun _ => Active) (fun current holds => ?_) fun _ _ holds => holds
  show Active _
  simpa [Active, insertAttempt] using holds

theorem await_stopped (question : TaskQuestion) :
    Triple (dispatchContract taskId) DispatchStopped (await question) fun _ => DispatchStopped := by
  intro run holds
  refine ⟨holds, fun answer later relied => ?_⟩
  cases answer with
  | ok reply => exact relied.1
  | error thrown => exact relied.1

theorem await_sendsOn (question : TaskQuestion) {returns : TaskReply question → SharedRun → Prop}
    (calm : ∀ reply run, DispatchStopped run →
      (¬Active run → sendsOn taskId run question (.ok reply) = false) → returns reply run) :
    Triple (dispatchContract taskId) DispatchStopped (await question) returns := by
  intro run holds
  refine ⟨holds, fun answer later relied => ?_⟩
  cases answer with
  | ok reply => exact calm reply later relied.1 relied.2
  | error thrown => exact relied.1

theorem superviseChild_stopped (attempt : OrchestratorAttempt) (instruction : ChildInstruction) :
    Triple (dispatchContract taskId) Active (superviseChild host config task attempt instruction)
      fun _ => DispatchStopped := by
  refine Triple.bind (fun _ => Active) (fun _ holds => holds) fun aborted => ?_
  cases aborted with
  | some reason => exact fun _ holds => holds.dispatchStopped
  | none =>
    refine Triple.bind (fun _ => Active) ?_ fun _ => ?_
    · exact Triple.ofExcept (fun _ _ _ holds => holds) fun _ _ _ holds => holds.dispatchStopped
    refine Triple.bind _ (call_keeps steadfast_active) fun _ => ?_
    refine Triple.bind (fun _ => Active) (fun run holds => ?_) fun _ => ?_
    · show Active _
      simpa [Active] using holds
    refine Triple.bind _ (markAttemptRunning_keeps steadfast_active _) fun _ => ?_
    exact (await_stopped _).consequence (fun _ holds => holds.dispatchStopped) fun _ _ holds => holds

theorem runChecks_stopped (checks : List OrchestratorVerificationCheck) :
    Triple (dispatchContract taskId) DispatchStopped (runChecks task checks) fun _ => DispatchStopped := by
  induction checks with
  | nil => exact fun _ holds => holds
  | cons check rest ih =>
    cases check with
    | evidence instruction paths =>
      exact Triple.bind _ ih fun _ _ holds => holds
    | command command =>
      exact Triple.bind _ (await_stopped _) fun _ => Triple.bind _ ih fun _ _ holds => holds

theorem askParent_stopped {Reply : Type} {infer : Program (Inference Reply)}
    (infers : Triple (dispatchContract taskId) DispatchStopped infer fun _ => DispatchStopped) (tries : Nat) :
    Triple (dispatchContract taskId) DispatchStopped (askParent host infer tries) fun _ => DispatchStopped := by
  induction tries with
  | zero => exact fun _ holds => holds
  | succ tries ih =>
    refine Triple.bind _ (call_keeps steadfast_dispatchStopped) fun _ => Triple.bind _ infers fun inference => ?_
    cases inference with
    | usable answer => exact fun _ holds => holds
    | unusable problem => exact fun _ holds => holds
    | infrastructure message => exact Triple.ite (fun _ _ holds => holds) fun _ => ih

theorem askEvidenceReview_stopped (child : ChildOutcome) (checks : List OrchestratorCheckResult)
    (changedPaths : List String) (tries : Nat) (rejected : List String) :
    Triple (dispatchContract taskId) DispatchStopped
      (askEvidenceReview host task child checks changedPaths tries rejected) fun _ => DispatchStopped := by
  induction tries generalizing rejected with
  | zero => exact fun _ holds => holds
  | succ tries ih =>
    refine Triple.bind _ (askParent_stopped (await_stopped _) _) fun reply => ?_
    cases reply with
    | problems problems => exact ih problems
    | answer answer =>
      refine Triple.bind (fun _ => DispatchStopped) (fun _ holds => holds) fun _ => ?_
      exact Triple.ite (fun _ _ holds => holds) fun _ => ih _

theorem runAttempt_stopped (writePaths : List String) (attempt : OrchestratorAttempt) (instruction : ChildInstruction) :
    Triple (dispatchContract taskId) Active (runAttempt host config task writePaths attempt instruction)
      fun _ => DispatchStopped := by
  have reviews : ∀ child checks changedPaths, Triple (dispatchContract taskId) DispatchStopped
      (reviewEvidence host task child checks changedPaths) fun _ => DispatchStopped := by
    intro child checks changedPaths
    refine Triple.ite (fun _ => ?_) fun _ _ holds => holds
    exact Triple.bind _ (askEvidenceReview_stopped task child checks changedPaths _ []) fun _ _ holds => holds
  refine Triple.bind _ (superviseChild_stopped task attempt instruction) fun child => ?_
  refine Triple.bind _ (setTaskStatus_keeps steadfast_dispatchStopped _ _) fun _ => ?_
  refine Triple.bind _ (runChecks_stopped task task.verification) fun checks => ?_
  refine Triple.bind _ (await_stopped .attemptChanges) fun changes => ?_
  refine Triple.bind _ (reviews child checks changes.paths) fun review => ?_
  refine Triple.bind (fun _ => DispatchStopped) (fun _ holds => holds) fun _ => ?_
  exact Triple.bind _ (recordAttemptResult_keeps steadfast_dispatchStopped _) fun _ _ holds => holds

/-- With an actionable review, a task that has a correction left is not held up. -/
def Reviewable (taskId : String) (review : OrchestratorDriftReview) : SharedRun → Prop :=
  if review.isActionable then MayCorrect taskId else DispatchStopped

theorem findUnrunnableFindings_stopped (review : OrchestratorDriftReview) (problems : List String) :
    Triple (dispatchContract taskId) DispatchStopped (findUnrunnableFindings review problems)
      fun unusable run => DispatchStopped run ∧ (unusable = [] → Reviewable taskId review run) := by
  refine Triple.ite (fun asked => ?_) fun notAsked => ?_
  · rw [Bool.and_eq_true] at asked
    refine await_sendsOn _ fun unusable run stopped calm => ⟨stopped, fun none => ?_⟩
    rw [Reviewable, if_pos asked.2]
    refine ⟨stopped, fun left => ?_⟩
    by_contra stopping
    have held := calm stopping
    simp [sendsOn, none, left] at held
  · intro run holds
    refine ⟨holds, fun none => ?_⟩
    rw [Reviewable, if_neg fun actionable => notAsked (by simp [actionable, List.isEmpty_iff.mpr none])]
    exact holds

theorem reviewDrift_stopped (changeDigest diff : String) (changedPaths : List String)
    (openFindings : List OrchestratorDriftFinding) (checks : List OrchestratorCheckResult) (tries : Nat)
    (rejected : List String) :
    Triple (dispatchContract taskId) DispatchStopped
      (reviewDrift host task changeDigest diff changedPaths openFindings checks tries rejected)
      (Reviewable taskId) := by
  induction tries generalizing rejected with
  | zero => exact fun _ holds => holds
  | succ tries ih =>
    refine Triple.bind _ (askParent_stopped (await_stopped _) _) fun reply => ?_
    cases reply with
    | problems problems => exact ih problems
    | answer review =>
      refine Triple.bind (fun _ => DispatchStopped) (fun _ holds => holds) fun _ => ?_
      refine Triple.bind _ (findUnrunnableFindings_stopped review _) fun unusable => ?_
      refine Triple.ite (fun usable _ holds => holds.2 (List.isEmpty_iff.mp usable)) fun _ => ?_
      exact (ih unusable).consequence (fun _ holds => holds.1) fun _ _ holds => holds

theorem correctDrift_stopped (digest : String) (openFindings : List OrchestratorDriftFinding)
    (retryEvidence : Option String) :
    Triple (dispatchContract task.id) (MayCorrect task.id)
      (correctDrift host config task digest openFindings retryEvidence) fun _ => DispatchStopped := by
  refine Triple.bind (fun run current => MayCorrect task.id current ∧ current = run) ?_ fun run => ?_
  · exact fun _ holds => ⟨holds, rfl⟩
  refine Triple.ite (fun _ _ holds => holds.1.stopped) fun room => ?_
  -- A correction is left, so the loop is active.
  have active : ∀ current, MayCorrect task.id current ∧ current = run → Active current := by
    intro current holds
    exact holds.1.active (by rw [holds.2]; exact Nat.not_le.mp room)
  suffices acts : Triple (dispatchContract task.id) Active _ fun _ => DispatchStopped from
    acts.consequence active fun _ _ holds => holds
  refine Triple.bind _ (setTaskStatus_keeps steadfast_active _ _) fun _ => ?_
  refine Triple.bind _ (reserve_active _ _) fun attempt => ?_
  exact Triple.bind _ (runAttempt_stopped _ _ attempt _) fun _ _ holds => holds

theorem reviewRound_stopped (changes : WorkspaceChanges) (digest : String) (round : DriftRound) :
    Triple (dispatchContract taskId) DispatchStopped (reviewRound host task changes digest round)
      fun findings run => DispatchStopped run ∧ (findings.isSome = true → MayCorrect taskId run) := by
  refine Triple.bind _ (setTaskStatus_keeps steadfast_dispatchStopped _ _) fun _ => ?_
  refine Triple.bind _ (await_stopped (.reviewDiff changes.paths)) fun diff => ?_
  refine Triple.bind _ (reviewDrift_stopped task digest diff changes.paths _ _ _ _) fun review => ?_
  have steadfast : Steadfast (Reviewable taskId review) := by
    unfold Reviewable
    split
    · exact steadfast_mayCorrect taskId
    · exact steadfast_dispatchStopped
  refine Triple.bind _ (setTask_keeps steadfast _ _ ?_) fun _ run holds => ?_
  · simp [RunRecord.isDispatch]
  · refine ⟨steadfast.stopped holds, fun found => ?_⟩
    by_cases actionable : review.isActionable = true
    · rwa [Reviewable, if_pos actionable] at holds
    · simp [actionable] at found

theorem driftGate_stopped (rounds : Nat) (round : DriftRound) :
    Triple (dispatchContract task.id) DispatchStopped (driftGate host config task rounds round)
      fun _ => DispatchStopped := by
  induction rounds generalizing round with
  | zero => exact fun _ holds => holds
  | succ rounds ih =>
    -- Reviewable changes after a failed correction are answered while the loop is active, or no correction is left.
    refine Triple.bind (fun changes run => DispatchStopped run ∧
        (round.retryEvidence.isSome = true → hasReviewableChanges changes = true → MayCorrect task.id run)) ?_
      fun changes => ?_
    · refine await_sendsOn _ fun changes run stopped calm => ⟨stopped, fun failed reviewable => ⟨stopped, fun left => ?_⟩⟩
      by_contra stopping
      obtain ⟨retryEvidence, isEvidence⟩ := Option.isSome_iff_exists.mp failed
      have held := calm stopping
      rw [isEvidence] at held
      simp [sendsOn, reviewable, left] at held
    split
    next digest isDigest reviewable =>
      split
      next noEvidence =>
        suffices reviews : Triple (dispatchContract task.id) DispatchStopped _ fun _ => DispatchStopped from
          reviews.consequence (fun _ holds => holds.1) fun _ _ holds => holds
        refine Triple.bind _ (reviewRound_stopped task changes digest round) fun findings => ?_
        cases findings with
        | none => exact fun _ holds => holds.1
        | some openFindings =>
          suffices corrects : Triple (dispatchContract task.id) (MayCorrect task.id) _ fun _ => DispatchStopped from
            corrects.consequence (fun _ holds => holds.2 rfl) fun _ _ holds => holds
          exact Triple.bind _ (correctDrift_stopped task digest openFindings none) ih
      next retryEvidence isEvidence =>
        suffices corrects : Triple (dispatchContract task.id) (MayCorrect task.id) _ fun _ => DispatchStopped from
          corrects.consequence (fun _ holds => holds.2 (by simp [isEvidence])
            (by simp [hasReviewableChanges, isDigest, reviewable])) fun _ _ holds => holds
        exact Triple.bind _ (correctDrift_stopped task digest _ _) ih
    · suffices ends : Triple (dispatchContract task.id) DispatchStopped _ fun _ => DispatchStopped from
        ends.consequence (fun _ holds => holds.1) fun _ _ holds => holds
      refine Triple.bind _ (setTask_keeps steadfast_dispatchStopped _ _ ?_) fun _ => ?_
      · simp [RunRecord.isDispatch]
      · split
        · exact fun _ holds => holds
        · exact fun _ holds => holds

theorem implementationAttempts_stopped (baseline : WorkspaceSnapshot) (planPath planHash : String) (rounds : Nat)
    (retry : Option ImplementationRetryEvidence) :
    Triple (dispatchContract taskId) Active
      (implementationAttempts host config task baseline planPath planHash rounds retry) fun _ => DispatchStopped := by
  induction rounds generalizing retry with
  | zero => exact fun _ holds => holds.dispatchStopped
  | succ rounds ih =>
    refine Triple.bind _ (reserve_active _ _) fun attempt => ?_
    refine Triple.bind _ (runAttempt_stopped _ _ attempt _) fun result => ?_
    refine Triple.ite (fun _ _ holds => holds) fun _ => ?_
    refine Triple.ite (fun _ => ?_) fun _ => ?_
    · exact Triple.bind _ (setTaskStatus_keeps steadfast_dispatchStopped _ _) fun _ _ holds => holds
    refine Triple.bind _ (setTaskStatus_keeps steadfast_dispatchStopped _ _) fun _ => ?_
    refine Triple.bind (fun _ => Active) (await_sendsOn _ fun diff run _ calm => ?_) fun diff => ih _
    by_contra stopping
    have held := calm stopping
    simp [sendsOn] at held

theorem cleanupTaskTemporaries_stopped (paths : List String) :
    Triple (dispatchContract taskId) DispatchStopped (cleanupTaskTemporaries host task paths)
      fun _ => DispatchStopped := by
  induction paths with
  | nil => exact fun _ holds => holds
  | cons path rest ih =>
    intro run holds
    unfold cleanupTaskTemporaries
    split
    · exact holds
    · exact holds
    · exact ih _ holds

theorem runTask_stopped (planPath planHash : String) :
    Triple (dispatchContract task.id) DispatchStopped (runTask host config task planPath planHash)
      fun _ => DispatchStopped := by
  refine Triple.bind (fun _ => DispatchStopped) ?_ fun mutating => ?_
  · exact Triple.ofExcept (fun _ _ _ holds => holds) fun _ _ _ holds => holds
  refine Triple.bind _ (await_stopped _) fun _ => ?_
  refine Triple.bind (fun _ => Active) (await_sendsOn _ fun baseline run _ calm => ?_) fun baseline => ?_
  · by_contra stopping
    have held := calm stopping
    simp [sendsOn] at held
  refine Triple.bind _ (implementationAttempts_stopped task baseline planPath planHash _ _) fun passing => ?_
  refine Triple.bind _ (driftGate_stopped task _ _) fun _ => ?_
  refine Triple.bind _ (cleanupTaskTemporaries_stopped task _) fun _ => ?_
  exact setTaskStatus_keeps steadfast_dispatchStopped _ _

end OrchestratorRun

/-! ## Calm runs -/

/-- Whatever every task keeps to: its program goes on under its contract. -/
structure CalmInvariant (execution : OrchestratorExecution) : Prop where
  stopped : DispatchStopped execution.shared
  tasks : ∀ thread ∈ execution.running,
    thread.node.Ensures (dispatchContract thread.task.id) fun _ => DispatchStopped

theorem ensures_stopped {node : Node TaskInterface SharedRun Stop Unit}
    (ensures : node.Ensures (dispatchContract taskId) fun _ => DispatchStopped) : DispatchStopped node.state := by
  cases node with
  | returned state result => exact ensures
  | threw state stop => exact ensures
  | waits state question resume => exact ensures.1

section Calm

variable {input : RunInput}

variable {execution : OrchestratorExecution}

theorem CalmInvariant.startTasks (tasks : List OrchestratorTask) (invariant : CalmInvariant execution) :
    CalmInvariant (OrchestratorExecution.startTasks input tasks execution) := by
  induction tasks generalizing execution with
  | nil => exact invariant
  | cons task rest ih =>
    have status := @OrchestratorRun.setTaskStatus_keeps input.host task.id _ steadfast_dispatchStopped task.id .running
      execution.shared invariant.stopped
    unfold OrchestratorExecution.startTasks
    split
    next shared isStatus =>
      rw [isStatus] at status
      have program := @OrchestratorRun.runTask_stopped input.host input.config task input.planPath input.planHash
        shared status
      exact ih ⟨ensures_stopped program, forall_mem_snoc.mpr ⟨invariant.tasks, program⟩⟩
    next shared stop isStatus =>
      rw [isStatus] at status
      exact ⟨status, invariant.tasks⟩
    next shared question resume isStatus =>
      rw [isStatus] at status
      exact ⟨status.1, invariant.tasks⟩

theorem CalmInvariant.finishRound {started : OrchestratorExecution} (invariant : CalmInvariant started) :
    CalmInvariant started.finishRound := by
  unfold OrchestratorExecution.finishRound
  split
  · exact ⟨invariant.stopped, invariant.tasks⟩
  · exact invariant

theorem CalmInvariant.round (invariant : CalmInvariant execution) : CalmInvariant (execution.round input) := by
  unfold OrchestratorExecution.round
  split
  · exact ⟨invariant.stopped, invariant.tasks⟩
  split
  · exact ⟨invariant.stopped, invariant.tasks⟩
  next pass _ =>
    refine (CalmInvariant.startTasks pass.start ?_).finishRound
    exact ⟨invariant.stopped, invariant.tasks⟩

theorem find_thread {thread : TaskThread} (found : execution.find taskId = some thread) :
    thread ∈ execution.running ∧ thread.task.id = taskId :=
  ⟨List.mem_of_find?_eq_some found, by simpa using List.find?_some found⟩

theorem CalmInvariant.step {after : OrchestratorExecution} {event : OrchestratorExecution.Event}
    (invariant : CalmInvariant execution) (taken : Follows (calmStep input) execution event after) :
    CalmInvariant after := by
  obtain ⟨calm, taken⟩ := Option.ite_none_right_eq_some.mp taken
  cases event with
  | answer taskId reply =>
    simp only [OrchestratorExecution.step] at taken
    split at taken
    next task state question resume found =>
      cases taken
      obtain ⟨member, isTask⟩ := find_thread found
      have waits := invariant.tasks _ member
      have held : ¬Active execution.shared → sendsOn task.id execution.shared question (reply question) = false := by
        intro stopping
        rw [show task.id = taskId from isTask]
        simpa [isCalm, found, stopping] using calm
      have program := waits.2 (reply question) execution.shared ⟨invariant.stopped, held⟩
      refine ⟨ensures_stopped program, fun thread threadMember => ?_⟩
      obtain ⟨before, beforeMember, rfl⟩ := List.mem_map.mp threadMember
      split
      · exact program
      · exact invariant.tasks before beforeMember
    · cases taken
  | collect taskId =>
    simp only [OrchestratorExecution.step] at taken
    split at taken
    · cases taken
      exact CalmInvariant.round ⟨invariant.stopped, fun thread member =>
        invariant.tasks thread (List.mem_filter.mp member).1⟩
    · cases taken
  | fail taskId =>
    simp only [OrchestratorExecution.step] at taken
    split at taken
    · cases taken
      refine ⟨fun record member => ?_, invariant.tasks⟩
      cases mem_afterStop_append member with
      | inl earlier => exact invariant.stopped record earlier
      | inr new =>
        obtain rfl := List.mem_singleton.mp new
        rfl
    · cases taken
  | settle =>
    simp only [OrchestratorExecution.step] at taken
    split at taken
    · split at taken
      · cases taken
        exact ⟨invariant.stopped, invariant.tasks⟩
      · cases taken
    · cases taken
  | disturb aborted evidenceProblem =>
    cases taken
    exact ⟨invariant.stopped, invariant.tasks⟩

end Calm

/--
In every run in which a failed task sends no sibling into another attempt, no child attempt
is reserved or started once the loop has entered its catch branch.
-/
theorem dispatchStopped_of_calm (input : RunInput) (evidenceProblem : OrchestratorCodeEvidence → Option String)
    {events : List OrchestratorExecution.Event} {execution : OrchestratorExecution}
    (reached : Reaches (Follows (calmStep input)) (OrchestratorExecution.start input evidenceProblem) events execution) :
    DispatchStopped execution.shared := by
  have started : CalmInvariant (OrchestratorExecution.start input evidenceProblem) := by
    refine CalmInvariant.round ⟨fun record member => ?_, fun thread member => ?_⟩
    · cases member
    · cases member
  exact (reached.invariant CalmInvariant started fun invariant taken => invariant.step taken).stopped

/-! ## A sibling that retries -/

def noProblem (_ : OrchestratorCodeEvidence) : Option String := none

/-- Two tasks that run side by side. -/
def siblings : RunInput where
  host := ⟨fun _ => none, fun call => s!"{call}", fun _ => ""⟩
  config := exampleConfig
  plan := { examplePlan with
    tasks := [exampleTask "change" "repo-agent" [], exampleTask "survey" "repo-search" []] }
  planPath := "plan.md"
  planHash := "hash"

/-- Leases, baselines and diffs as they come; every child ends with this status. -/
def answering (workerStatus : OrchestratorWorkerStatus) : (question : TaskQuestion) → TaskInterface.Answer question
  | .acquireRepository _ => .ok ()
  | .captureWorkspace => .ok []
  | .child .. => .ok ⟨workerStatus, ""⟩
  | .check .. => .ok (.ran (some 0) false "")
  | .attemptChanges => .ok ⟨[], none⟩
  | .evidenceReview .. => .ok (.unusable "")
  | .retryDiff _ => .ok ""
  | .gateChanges _ => .ok ⟨[], none⟩
  | .reviewDiff _ => .ok ""
  | .driftReview .. => .ok (.unusable "")
  | .unrunnableChecks _ => .ok []

def answered (workerStatus : OrchestratorWorkerStatus) (taskIds : List String) : List OrchestratorExecution.Event :=
  taskIds.map fun taskId => .answer taskId (answering workerStatus)

/-- Both tasks start their first child; `change` fails twice, and the loop enters its catch branch. -/
def changeFails : List OrchestratorExecution.Event :=
  answered .failed ["change", "change", "survey", "survey", "change", "change", "change", "change", "change"] ++
    [.fail "change"]

/-- The child of `survey` is aborted, which its program takes for a failed first attempt. -/
def surveyRetries : List OrchestratorExecution.Event :=
  changeFails ++ answered .aborted ["survey", "survey", "survey"]

def siblingsStart : OrchestratorExecution := OrchestratorExecution.start siblings noProblem

/-- As long as `survey` waits for its diff, the run is calm. -/
theorem dispatchStopped_siblings : ∃ execution,
    Reaches (Follows (calmStep siblings)) siblingsStart (changeFails ++ answered .aborted ["survey", "survey"]) execution ∧
      ¬Active execution.shared ∧ DispatchStopped execution.shared := by
  have stops : (follow (calmStep siblings) siblingsStart (changeFails ++ answered .aborted ["survey", "survey"])).any
      (fun execution => !decide (Active execution.shared)) = true := by
    decide +kernel
  obtain ⟨execution, reached, stopping⟩ := reaches_of_any stops
  exact ⟨execution, reached, by simpa using stopping, dispatchStopped_of_calm siblings noProblem reached⟩

/-- The diff of its failed first attempt sends `survey` into a second one. -/
theorem survey_retries : ∃ events execution,
    Reaches (Follows (OrchestratorExecution.step siblings)) siblingsStart events execution ∧
      ¬DispatchStopped execution.shared := by
  have dispatched : (follow (OrchestratorExecution.step siblings) siblingsStart surveyRetries).any
      (fun execution => !decide (DispatchStopped execution.shared)) = true := by
    decide +kernel
  obtain ⟨execution, reached, dispatches⟩ := reaches_of_any dispatched
  exact ⟨surveyRetries, execution, reached, by simpa using dispatches⟩

end SiftKit.Orchestrator
