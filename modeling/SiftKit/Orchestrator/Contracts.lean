import SiftKit.Foundation.Schema

/-! # Orchestrator contracts

The data that `packages/contracts/src/orchestrator.ts` declares for plans, tasks, attempts,
runs and events, each with its schema.  A literal field of a union (`kind`, `status`) is the
constructor; `.strict()` has no counterpart, since a typed value has no further keys.
-/

namespace SiftKit.Orchestrator

open SiftKit.Schema

/-- The string formats that the schema library checks by itself. -/
structure StringFormats where
  uuid : String → Bool
  datetime : String → Bool

/-- Fixed policy: one initial dispatch plus one retry per purpose. -/
def ORCHESTRATOR_MAX_ATTEMPTS : Nat := 2

inductive OrchestratorChildPurpose where
  | implementation
  | drift_fix
  deriving DecidableEq, Repr

/-! ## Plans -/

structure OrchestratorCommandCheck where
  command : String
  cwd : String
  deriving DecidableEq, Repr

/-- The schema admits no other literal. -/
def OrchestratorCommandCheck.expectedExitCode (_ : OrchestratorCommandCheck) : Int := 0

inductive OrchestratorVerificationCheck where
  | command (check : OrchestratorCommandCheck)
  | evidence (instruction : String) (paths : List String)
  deriving DecidableEq, Repr

def OrchestratorVerificationCheck.parse :
    OrchestratorVerificationCheck → Option OrchestratorVerificationCheck
  | .command check => do
    return .command ⟨← trimmedNonEmpty check.command, ← nonEmpty check.cwd⟩
  | .evidence instruction paths => do
    return .evidence (← trimmedNonEmpty instruction) (← arrayMinOne nonEmpty paths)

structure OrchestratorTaskStep where
  instruction : String
  expectedResult : String
  deriving DecidableEq, Repr

def OrchestratorTaskStep.parse (step : OrchestratorTaskStep) : Option OrchestratorTaskStep := do
  return ⟨← trimmedNonEmpty step.instruction, ← trimmedNonEmpty step.expectedResult⟩

structure OrchestratorTask where
  id : String
  title : String
  dependsOn : List String
  workerPresetId : String
  readPaths : List String
  writePaths : List String
  steps : List OrchestratorTaskStep
  verification : List OrchestratorVerificationCheck
  acceptance : List String
  temporaryPaths : List String
  deriving DecidableEq, Repr

def OrchestratorTask.parse (task : OrchestratorTask) : Option OrchestratorTask := do
  return {
    id := ← refine isKebabCase task.id
    title := ← trimmedNonEmpty task.title
    dependsOn := ← array nonEmpty task.dependsOn
    workerPresetId := ← trimmedNonEmpty task.workerPresetId
    readPaths := ← array nonEmpty task.readPaths
    writePaths := ← array nonEmpty task.writePaths
    steps := ← arrayMinOne OrchestratorTaskStep.parse task.steps
    verification := ← arrayMinOne OrchestratorVerificationCheck.parse task.verification
    acceptance := ← arrayMinOne trimmedNonEmpty task.acceptance
    temporaryPaths := ← array nonEmpty task.temporaryPaths }

structure OrchestratorPlan where
  goal : String
  constraints : List String
  tasks : List OrchestratorTask
  finalVerification : List OrchestratorVerificationCheck
  deriving DecidableEq, Repr

def OrchestratorPlan.parse (plan : OrchestratorPlan) : Option OrchestratorPlan := do
  return {
    goal := ← trimmedNonEmpty plan.goal
    constraints := ← array nonEmpty plan.constraints
    tasks := ← arrayMinOne OrchestratorTask.parse plan.tasks
    finalVerification := ← arrayMinOne OrchestratorVerificationCheck.parse plan.finalVerification }

/-! ## Drift reviews -/

/-- A claim anchored to repository code. -/
structure OrchestratorCodeEvidence where
  path : String
  line : Nat
  snippet : String
  deriving DecidableEq, Repr

def OrchestratorCodeEvidence.parse (evidence : OrchestratorCodeEvidence) :
    Option OrchestratorCodeEvidence := do
  return ⟨← nonEmpty evidence.path, ← positiveInt evidence.line, ← trimmedNonEmpty evidence.snippet⟩

structure OrchestratorDriftFinding where
  id : String
  title : String
  purpose : String
  directive : String
  evidence : List OrchestratorCodeEvidence
  impact : String
  fix : String
  affectedPaths : List String
  verification : List OrchestratorVerificationCheck
  deriving DecidableEq, Repr

def OrchestratorDriftFinding.parse (finding : OrchestratorDriftFinding) :
    Option OrchestratorDriftFinding := do
  return {
    id := ← trimmedNonEmpty finding.id
    title := ← trimmedNonEmpty finding.title
    purpose := ← trimmedNonEmpty finding.purpose
    directive := ← trimmedNonEmpty finding.directive
    evidence := ← arrayMinOne OrchestratorCodeEvidence.parse finding.evidence
    impact := ← trimmedNonEmpty finding.impact
    fix := ← trimmedNonEmpty finding.fix
    affectedPaths := ← arrayMinOne nonEmpty finding.affectedPaths
    verification := ← arrayMinOne OrchestratorVerificationCheck.parse finding.verification }

structure OrchestratorResolution where
  findingId : String
  evidence : String
  deriving DecidableEq, Repr

def OrchestratorResolution.parse (resolution : OrchestratorResolution) :
    Option OrchestratorResolution := do
  return ⟨← nonEmpty resolution.findingId, ← trimmedNonEmpty resolution.evidence⟩

/-- The `status` of a review with what that status carries. -/
inductive OrchestratorDriftVerdict where
  /-- `reason` is always `'no_code_changes'`. -/
  | not_required
  /-- `findings` is always empty. -/
  | clean
  | actionable (findings : List OrchestratorDriftFinding)
  deriving DecidableEq, Repr

structure OrchestratorDriftReview where
  taskId : String
  changeDigest : String
  scopePaths : List String
  resolutions : List OrchestratorResolution
  verdict : OrchestratorDriftVerdict
  deriving DecidableEq, Repr

def OrchestratorDriftVerdict.parse : OrchestratorDriftVerdict → Option OrchestratorDriftVerdict
  | .not_required => some .not_required
  | .clean => some .clean
  | .actionable findings => do
    return .actionable (← arrayMinOne OrchestratorDriftFinding.parse findings)

def OrchestratorDriftReview.parse (review : OrchestratorDriftReview) :
    Option OrchestratorDriftReview := do
  return {
    taskId := ← nonEmpty review.taskId
    changeDigest := ← nonEmpty review.changeDigest
    scopePaths := ← array nonEmpty review.scopePaths
    resolutions := ← array OrchestratorResolution.parse review.resolutions
    verdict := ← review.verdict.parse }

/-! ## Child work -/

structure OrchestratorDriftCorrectionWork where
  taskId : String
  objective : String
  changeDigest : String
  findings : List OrchestratorDriftFinding
  allowedPaths : List String
  verification : List OrchestratorVerificationCheck
  deriving DecidableEq, Repr

def OrchestratorDriftCorrectionWork.parse (work : OrchestratorDriftCorrectionWork) :
    Option OrchestratorDriftCorrectionWork := do
  return {
    taskId := ← nonEmpty work.taskId
    objective := ← trimmedNonEmpty work.objective
    changeDigest := ← nonEmpty work.changeDigest
    findings := ← arrayMinOne OrchestratorDriftFinding.parse work.findings
    allowedPaths := ← arrayMinOne nonEmpty work.allowedPaths
    verification := ← arrayMinOne OrchestratorVerificationCheck.parse work.verification }

inductive OrchestratorChildWork where
  | implementation (planPath planHash : String) (task : OrchestratorTask)
  | drift_fix (work : OrchestratorDriftCorrectionWork)
  deriving DecidableEq, Repr

def OrchestratorChildWork.kind : OrchestratorChildWork → OrchestratorChildPurpose
  | .implementation .. => .implementation
  | .drift_fix _ => .drift_fix

def OrchestratorChildWork.parse : OrchestratorChildWork → Option OrchestratorChildWork
  | .implementation planPath planHash task => do
    return .implementation (← nonEmpty planPath) (← nonEmpty planHash) (← task.parse)
  | .drift_fix work => do
    return .drift_fix (← work.parse)

/-! ## Requests, phases and statuses -/

inductive ApprovalMode where
  | interactive
  | auto
  | off
  deriving DecidableEq, Repr

structure OrchestratorStartRequest where
  submissionId : String
  sessionId : Option String
  repoRoot : String
  presetId : String
  approval : ApprovalMode
  task : Option String
  planPath : Option String
  deriving DecidableEq, Repr

def OrchestratorStartRequest.parse (formats : StringFormats) (request : OrchestratorStartRequest) :
    Option OrchestratorStartRequest := do
  let parsed : OrchestratorStartRequest := {
    submissionId := ← refine formats.uuid request.submissionId
    sessionId := ← nullable (refine formats.uuid) request.sessionId
    repoRoot := ← trimmedNonEmpty request.repoRoot
    presetId := ← trimmedNonEmpty request.presetId
    approval := request.approval
    task := ← nullable trimmedNonEmpty request.task
    planPath := ← nullable trimmedNonEmpty request.planPath }
  refine (fun value => value.task.isSome || value.planPath.isSome) parsed

inductive OrchestratorPhase where
  | preparing_plan
  | validating_plan
  | executing
  | verifying
  | cleaning
  | approval_required
  | completed
  | failed
  | aborted
  | interrupted
  deriving DecidableEq, Repr

def ORCHESTRATOR_TERMINAL_PHASES : List OrchestratorPhase :=
  [.completed, .failed, .aborted, .interrupted]

def isOrchestratorTerminalPhase (phase : OrchestratorPhase) : Bool :=
  ORCHESTRATOR_TERMINAL_PHASES.any fun terminal => terminal == phase

inductive OrchestratorTaskStatus where
  | pending
  | running
  | verifying
  | reviewing_drift
  | correcting_drift
  | retry_pending
  | completed
  | failed
  | aborted
  deriving DecidableEq, Repr

/-- Task statuses that mean live work: the task holds its scheduler claim. -/
def OrchestratorOpenTaskStatus : List OrchestratorTaskStatus :=
  [.running, .verifying, .reviewing_drift, .correcting_drift, .retry_pending]

def isOrchestratorOpenTaskStatus (status : OrchestratorTaskStatus) : Bool :=
  OrchestratorOpenTaskStatus.any fun openStatus => openStatus == status

/-! ## Attempts -/

def attemptNumber (number : Nat) : Option Nat :=
  refine (fun value => 1 ≤ value && value ≤ ORCHESTRATOR_MAX_ATTEMPTS) number

/-- One declared check and what actually happened when it ran. -/
structure OrchestratorCheckResult where
  check : OrchestratorVerificationCheck
  executed : Bool
  exitCode : Option Int
  timedOut : Bool
  output : String
  deriving DecidableEq, Repr

def OrchestratorCheckResult.parse (result : OrchestratorCheckResult) :
    Option OrchestratorCheckResult := do
  return { result with check := ← result.check.parse, exitCode := ← nullable int result.exitCode }

/-- Why a command check failed, or null; evidence checks are judged by the review, never here. -/
def orchestratorCheckFailure (result : OrchestratorCheckResult) : Option String :=
  match result.check with
  | .evidence .. => none
  | .command check =>
    let command := s!"Check `{check.command}`"
    if !result.executed then some s!"{command} never ran."
    else if result.timedOut then some s!"{command} timed out."
    else if result.exitCode != some check.expectedExitCode then
      let exited := match result.exitCode with
        | some exitCode => toString exitCode
        | none => "unknown"
      some s!"{command} exited {exited}; expected {check.expectedExitCode}."
    else none

inductive OrchestratorWorkerStatus where
  | completed
  | failed
  | aborted
  | approval_timeout
  deriving DecidableEq, Repr

structure OrchestratorAttemptResult where
  taskId : String
  purpose : OrchestratorChildPurpose
  attempt : Nat
  childRunId : String
  workerStatus : OrchestratorWorkerStatus
  workerOutput : String
  passed : Bool
  checks : List OrchestratorCheckResult
  findings : List String
  changedPaths : List String
  scopeViolations : List String
  changeDigest : Option String
  deriving DecidableEq, Repr

def OrchestratorAttemptResult.parse (formats : StringFormats) (result : OrchestratorAttemptResult) :
    Option OrchestratorAttemptResult := do
  return {
    taskId := ← nonEmpty result.taskId
    purpose := result.purpose
    attempt := ← attemptNumber result.attempt
    childRunId := ← refine formats.uuid result.childRunId
    workerStatus := result.workerStatus
    workerOutput := result.workerOutput
    passed := result.passed
    checks := ← array OrchestratorCheckResult.parse result.checks
    findings := ← array trimmedNonEmpty result.findings
    changedPaths := ← array nonEmpty result.changedPaths
    scopeViolations := ← array nonEmpty result.scopeViolations
    changeDigest := ← nullable nonEmpty result.changeDigest }

inductive OrchestratorAttemptStatus where
  | reserved
  | running
  | settled
  | abandoned
  deriving DecidableEq, Repr

structure OrchestratorAttempt where
  taskId : String
  purpose : OrchestratorChildPurpose
  attempt : Nat
  childRunId : String
  work : OrchestratorChildWork
  status : OrchestratorAttemptStatus
  result : Option OrchestratorAttemptResult
  reservedAtUtc : String
  deriving DecidableEq, Repr

def OrchestratorAttempt.parse (formats : StringFormats) (attempt : OrchestratorAttempt) :
    Option OrchestratorAttempt := do
  return {
    taskId := ← nonEmpty attempt.taskId
    purpose := attempt.purpose
    attempt := ← attemptNumber attempt.attempt
    childRunId := ← refine formats.uuid attempt.childRunId
    work := ← attempt.work.parse
    status := attempt.status
    result := ← nullable (OrchestratorAttemptResult.parse formats) attempt.result
    reservedAtUtc := ← refine formats.datetime attempt.reservedAtUtc }

/-! ## Runs and events -/

/-- The run's one pending approval: a parked child's tool call, or one orchestrator check command. -/
inductive OrchestratorPendingApproval where
  | child (approvalId toolName command : String) (reviewPayload : Option String)
      (childRunId taskId : String)
  | check (approvalId : String) (taskId : Option String) (command cwd : String)
  deriving DecidableEq, Repr

def OrchestratorPendingApproval.parse (formats : StringFormats) :
    OrchestratorPendingApproval → Option OrchestratorPendingApproval
  | .child approvalId toolName command reviewPayload childRunId taskId => do
    return .child (← refine formats.uuid approvalId) (← nonEmpty toolName) (← nonEmpty command)
      reviewPayload (← refine formats.uuid childRunId) (← nonEmpty taskId)
  | .check approvalId taskId command cwd => do
    return .check (← refine formats.uuid approvalId) (← nullable nonEmpty taskId)
      (← trimmedNonEmpty command) (← nonEmpty cwd)

inductive OrchestratorFailureCode where
  | aborted
  | interrupted
  | internal_error
  | infrastructure_failed
  | blocked
  | cleanup_failed
  | plan_not_found
  | plan_blocked
  | plan_invalid
  | implementation_failed
  | task_review_invalid
  | drift_review_invalid
  | drift_unresolved
  | approval_decision_invalid
  | final_review_invalid
  | final_verification_failed
  deriving DecidableEq, Repr

structure OrchestratorFailure where
  code : OrchestratorFailureCode
  message : String
  taskId : Option String
  purpose : Option OrchestratorChildPurpose
  findingIds : List String
  deriving DecidableEq, Repr

def OrchestratorFailure.parse (failure : OrchestratorFailure) : Option OrchestratorFailure := do
  return { failure with
    message := ← nonEmpty failure.message
    findingIds := ← array nonEmpty failure.findingIds }

structure OrchestratorTaskState where
  taskId : String
  status : OrchestratorTaskStatus
  driftReview : Option OrchestratorDriftReview
  reviewedDigests : List String
  deriving DecidableEq, Repr

def OrchestratorTaskState.parse (task : OrchestratorTaskState) : Option OrchestratorTaskState := do
  return {
    taskId := ← nonEmpty task.taskId
    status := task.status
    driftReview := ← nullable OrchestratorDriftReview.parse task.driftReview
    reviewedDigests := ← array nonEmpty task.reviewedDigests }

/-- `OrchestratorRunStateSchema.omit({ attempts: true })`: the parent state as stored. -/
structure StoredRunState where
  runId : String
  request : OrchestratorStartRequest
  revision : Nat
  phase : OrchestratorPhase
  planPath : Option String
  planHash : Option String
  plan : Option OrchestratorPlan
  tasks : List OrchestratorTaskState
  phaseRunIds : List String
  approval : Option OrchestratorPendingApproval
  failure : Option OrchestratorFailure
  createdAtUtc : String
  updatedAtUtc : String
  deriving DecidableEq, Repr

structure OrchestratorRunState extends StoredRunState where
  attempts : List OrchestratorAttempt
  deriving DecidableEq, Repr

def StoredRunState.parse (formats : StringFormats) (state : StoredRunState) :
    Option StoredRunState := do
  return {
    runId := ← refine formats.uuid state.runId
    request := ← state.request.parse formats
    revision := ← nonnegativeInt state.revision
    phase := state.phase
    planPath := ← nullable nonEmpty state.planPath
    planHash := ← nullable nonEmpty state.planHash
    plan := ← nullable OrchestratorPlan.parse state.plan
    tasks := ← array OrchestratorTaskState.parse state.tasks
    phaseRunIds := ← array (refine formats.uuid) state.phaseRunIds
    approval := ← nullable (OrchestratorPendingApproval.parse formats) state.approval
    failure := ← nullable OrchestratorFailure.parse state.failure
    createdAtUtc := ← refine formats.datetime state.createdAtUtc
    updatedAtUtc := ← refine formats.datetime state.updatedAtUtc }

def OrchestratorRunState.parse (formats : StringFormats) (state : OrchestratorRunState) :
    Option OrchestratorRunState := do
  return {
    toStoredRunState := ← state.toStoredRunState.parse formats
    attempts := ← array (OrchestratorAttempt.parse formats) state.attempts }

/-- A committed state change. -/
structure OrchestratorEvent where
  runId : String
  sequence : Nat
  atUtc : String
  phase : OrchestratorPhase
  message : String
  taskId : Option String
  purpose : Option OrchestratorChildPurpose
  attempt : Option Nat
  childRunId : Option String
  deriving DecidableEq, Repr

def OrchestratorEvent.parse (formats : StringFormats) (event : OrchestratorEvent) :
    Option OrchestratorEvent := do
  return {
    runId := ← refine formats.uuid event.runId
    sequence := ← positiveInt event.sequence
    atUtc := ← refine formats.datetime event.atUtc
    phase := event.phase
    message := ← nonEmpty event.message
    taskId := ← nullable nonEmpty event.taskId
    purpose := event.purpose
    attempt := ← nullable attemptNumber event.attempt
    childRunId := ← nullable (refine formats.uuid) event.childRunId }

/-! ## What parsing keeps

Identifiers, numbers, phases and statuses are only checked; it is prose that gets trimmed.
-/

@[simp] theorem attemptNumber_eq_some {number parsed : Nat} :
    attemptNumber number = some parsed ↔
      (1 ≤ number ∧ number ≤ ORCHESTRATOR_MAX_ATTEMPTS) ∧ number = parsed := by
  simp [attemptNumber]

/-- An attempt without its work and result: which one it is and how far it got. -/
structure AttemptEntry where
  taskId : String
  purpose : OrchestratorChildPurpose
  attempt : Nat
  childRunId : String
  status : OrchestratorAttemptStatus
  deriving DecidableEq, Repr

def OrchestratorAttempt.entry (attempt : OrchestratorAttempt) : AttemptEntry :=
  ⟨attempt.taskId, attempt.purpose, attempt.attempt, attempt.childRunId, attempt.status⟩

/-- A task state without its reviews. -/
def OrchestratorTaskState.entry (task : OrchestratorTaskState) : String × OrchestratorTaskStatus :=
  (task.taskId, task.status)

theorem OrchestratorTaskState.parse_keeps :
    Keeps OrchestratorTaskState.parse OrchestratorTaskState.entry := by
  intro task parsed accepted
  simp only [OrchestratorTaskState.parse, Option.pure_def, Option.bind_eq_bind,
    Option.bind_eq_some_iff, nonEmpty_eq_some, Option.some.injEq] at accepted
  obtain ⟨_, ⟨_, rfl⟩, _, _, _, _, rfl⟩ := accepted
  rfl

variable (formats : StringFormats)

theorem OrchestratorAttempt.parse_keeps : Keeps (OrchestratorAttempt.parse formats) OrchestratorAttempt.entry := by
  intro attempt parsed accepted
  simp only [OrchestratorAttempt.parse, Option.pure_def, Option.bind_eq_bind,
    Option.bind_eq_some_iff, nonEmpty_eq_some, attemptNumber_eq_some, refine_eq_some,
    Option.some.injEq] at accepted
  obtain ⟨_, ⟨_, rfl⟩, _, ⟨_, rfl⟩, _, ⟨_, rfl⟩, _, _, _, _, _, _, rfl⟩ := accepted
  rfl

theorem StoredRunState.parse_keeps :
    Keeps (StoredRunState.parse formats) fun state =>
      (state.runId, state.revision, state.phase, state.tasks.map OrchestratorTaskState.entry) := by
  intro state parsed accepted
  simp only [StoredRunState.parse, Option.pure_def, Option.bind_eq_bind,
    Option.bind_eq_some_iff, nonnegativeInt_eq_some, refine_eq_some, Option.some.injEq] at accepted
  obtain ⟨_, ⟨_, rfl⟩, _, _, _, ⟨_, rfl⟩, _, _, _, _, _, _, tasks, tasksParsed, _, _, _, _, _, _,
    _, _, _, _, rfl⟩ := accepted
  simp only [OrchestratorTaskState.parse_keeps.array tasksParsed]

theorem OrchestratorRunState.parse_keeps :
    Keeps (OrchestratorRunState.parse formats) fun state =>
      ((state.runId, state.revision, state.phase, state.tasks.map OrchestratorTaskState.entry),
        state.attempts.map OrchestratorAttempt.entry) := by
  intro state parsed accepted
  simp only [OrchestratorRunState.parse, Option.pure_def, Option.bind_eq_bind,
    Option.bind_eq_some_iff, Option.some.injEq] at accepted
  obtain ⟨stored, storedParsed, attempts, attemptsParsed, rfl⟩ := accepted
  have storedKept := StoredRunState.parse_keeps formats storedParsed
  have attemptsKept := (OrchestratorAttempt.parse_keeps formats).array attemptsParsed
  exact Prod.ext storedKept attemptsKept

theorem OrchestratorEvent.parse_keeps :
    Keeps (OrchestratorEvent.parse formats) fun event => (event.runId, event.sequence) := by
  intro event parsed accepted
  simp only [OrchestratorEvent.parse, Option.pure_def, Option.bind_eq_bind,
    Option.bind_eq_some_iff, positiveInt_eq_some, refine_eq_some, Option.some.injEq] at accepted
  obtain ⟨_, ⟨_, rfl⟩, _, ⟨_, rfl⟩, _, _, _, _, _, _, _, _, _, _, rfl⟩ := accepted
  rfl

end SiftKit.Orchestrator
