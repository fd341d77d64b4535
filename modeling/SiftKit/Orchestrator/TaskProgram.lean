import SiftKit.Foundation.Coroutine
import SiftKit.Orchestrator.TaskLoop
import SiftKit.Orchestrator.Verification
import SiftKit.Repository.Gate

/-! # The program of a task

`runTask`, `implementTask` and `driftGate` of `orchestrator/run.ts` with what they call.
Workers, checks, the parent's answers and the checkout are asked; the run store, child
starts and deletions are calls that may throw; everything between two questions runs
without interruption.
-/

namespace SiftKit.Orchestrator

open SiftKit.Config SiftKit.Failure SiftKit.Tables SiftKit.Coroutine SiftKit.Repository

/-- Each parent phase gets this many tries for its infrastructure, and separately for usable answers. -/
def PARENT_PHASE_ATTEMPTS : Nat := 2

/-! ## The shared run -/

inductive RunThrown where
  /-- `OrchestratorRunFailure`. -/
  | failure (failure : OrchestratorFailure)
  /-- `OrchestratorInfrastructureError`. -/
  | infrastructure (message : String)
  | error (thrown : Thrown)
  deriving DecidableEq, Repr

/-- Why a program ends without a result. -/
inductive Stop where
  | thrown (thrown : RunThrown)
  /-- The bound on the rounds of a loop; the source has no such bound. -/
  | exhausted
  deriving DecidableEq, Repr

def fail (code : OrchestratorFailureCode) (message : String) (taskId : String)
    (purpose : Option OrchestratorChildPurpose) (findingIds : List String) : Stop :=
  .thrown (.failure ⟨code, message, some taskId, purpose, findingIds⟩)

/-- `throw new Error(message)`. -/
def errorStop (thrown : Thrown) : Stop := .thrown (.error thrown)

inductive RunRecord where
  | reserved (taskId : String) (purpose : OrchestratorChildPurpose) (attempt : Nat)
  | started (taskId : String) (purpose : OrchestratorChildPurpose) (attempt : Nat)
  | recorded (result : OrchestratorAttemptResult)
  /-- A review is committed, in the round of the drift gate that computed these changes. -/
  | reviewed (taskId : String) (changes : WorkspaceChanges) (review : OrchestratorDriftReview)
  | completed (taskId : String)
  /-- `executeTasks` enters its catch branch. -/
  | stopping
  deriving DecidableEq, Repr

def RunRecord.taskId : RunRecord → Option String
  | .reserved taskId _ _ => some taskId
  | .started taskId _ _ => some taskId
  | .recorded result => some result.taskId
  | .reviewed taskId _ _ => some taskId
  | .completed taskId => some taskId
  | .stopping => none

/--
The part of `this.state` that tasks read and write, the abort signal, and the checkout as
evidence is looked up in it.  `calls` counts the calls of the store and of the host.
-/
structure SharedRun where
  tasks : List OrchestratorTaskState
  attempts : List OrchestratorAttempt
  /-- The reason of the abort signal. -/
  aborted : Option String
  evidenceProblem : OrchestratorCodeEvidence → Option String
  calls : Nat
  log : List RunRecord

/-- What each call of the store or of the host meets: a failure, an identifier, the time. -/
structure RunHost where
  failure : Nat → Option Thrown
  randomUUID : Nat → String
  now : Nat → String

/-! ## Questions -/

/-- Dirty files at one moment: path and content (null for a deleted file). -/
def WorkspaceSnapshot : Type := List (String × Option String)

structure ChildOutcome where
  workerStatus : OrchestratorWorkerStatus
  output : String
  deriving DecidableEq, Repr

structure ImplementationRetryEvidence where
  failure : String
  checks : List OrchestratorCheckResult
  changedPaths : List String
  diff : String
  deriving DecidableEq, Repr

/-- What the instruction of a child is built from. -/
inductive ChildInstruction where
  | implementation (planPath planHash : String) (attempt : Nat) (preexistingDirtyPaths : List String)
      (retry : Option ImplementationRetryEvidence)
  | correction (work : OrchestratorDriftCorrectionWork) (retryEvidence : Option String)
  deriving DecidableEq, Repr

/-- How a check command went: `checkDenial` and `runVerificationCheck`. -/
inductive CheckRun where
  | denied (reason : String)
  | ran (exitCode : Option Int) (timedOut : Bool) (output : String)
  deriving DecidableEq, Repr

/-- One inference of the parent and the parsing of its output. -/
inductive Inference (Reply : Type) where
  | usable (answer : Reply)
  | unusable (problem : String)
  | infrastructure (message : String)
  deriving DecidableEq, Repr

inductive ParentReply (Reply : Type) where
  | answer (answer : Reply)
  | problems (problems : List String)
  deriving DecidableEq, Repr

inductive TaskQuestion where
  | acquireRepository (access : RepositoryAccess)
  | captureWorkspace
  | child (task : OrchestratorTask) (attempt : OrchestratorAttempt) (instruction : ChildInstruction)
  | check (task : OrchestratorTask) (check : OrchestratorCommandCheck)
  /-- `taskChanges` after an attempt. -/
  | attemptChanges
  | evidenceReview (child : ChildOutcome) (checks : List OrchestratorCheckResult) (changedPaths rejected : List String)
  /-- `renderDiff` for the retry of an implementation. -/
  | retryDiff (changedPaths : List String)
  /-- `taskChanges` in a round of the drift gate, after a correction that failed so. -/
  | gateChanges (retryEvidence : Option String)
  | reviewDiff (changedPaths : List String)
  | driftReview (changeDigest diff : String) (changedPaths : List String)
      (openFindings : List OrchestratorDriftFinding) (checks : List OrchestratorCheckResult) (rejected : List String)
  | unrunnableChecks (checks : List OrchestratorVerificationCheck)
  deriving DecidableEq, Repr

@[reducible] def TaskReply : TaskQuestion → Type
  | .acquireRepository _ => Unit
  | .captureWorkspace => WorkspaceSnapshot
  | .child .. => ChildOutcome
  | .check .. => CheckRun
  | .attemptChanges => WorkspaceChanges
  | .evidenceReview .. => Inference OrchestratorTaskReview
  | .retryDiff _ => String
  | .gateChanges _ => WorkspaceChanges
  | .reviewDiff _ => String
  | .driftReview .. => Inference OrchestratorDriftReview
  | .unrunnableChecks _ => List String

/-- Every awaited promise may reject. -/
@[reducible] def TaskInterface : Interface where
  Question := TaskQuestion
  Answer question := Except RunThrown (TaskReply question)

abbrev Program (Result : Type) : Type := Coroutine TaskInterface SharedRun Stop Result

def await (question : TaskQuestion) : Program (TaskReply question) := do
  ofExcept ((← ask question).mapError .thrown)

namespace OrchestratorRun

variable (host : RunHost) (config : SiftConfig)

/-! ## The store -/

/-- A call that may throw. -/
def call : Program Unit := fun run =>
  match host.failure run.calls with
  | some thrown => .threw { run with calls := run.calls + 1 } (errorStop thrown)
  | none => .returned { run with calls := run.calls + 1 } ()

/-- `commit` of a change of one task. -/
def setTask (taskId : String) (change : OrchestratorTaskState → OrchestratorTaskState)
    (records : List RunRecord) : Program Unit := do
  call host
  modify fun (run : SharedRun) => { run with
    tasks := Orchestrator.setTask taskId change run.tasks
    log := run.log ++ records }

def setTaskStatus (taskId : String) (status : OrchestratorTaskStatus) : Program Unit :=
  setTask host taskId (.withStatus status) (if status = .completed then [.completed taskId] else [])

def usedAttempts (run : SharedRun) (taskId : String) (purpose : OrchestratorChildPurpose) : Nat :=
  (run.attempts.filter fun attempt => attempt.taskId == taskId && attempt.purpose == purpose).length

def purposeName : OrchestratorChildPurpose → String
  | .implementation => "implementation"
  | .drift_fix => "drift_fix"

def insertAttempt (attempt : OrchestratorAttempt) : Program Unit :=
  modify fun run => { run with
    attempts := run.attempts ++ [attempt]
    log := run.log ++ [.reserved attempt.taskId attempt.purpose attempt.attempt] }

/-- The attempt after those that are used. -/
def nextAttempt (run : SharedRun) (taskId : String) (work : OrchestratorChildWork) : OrchestratorAttempt where
  taskId := taskId
  purpose := work.kind
  attempt := usedAttempts run taskId work.kind + 1
  childRunId := host.randomUUID run.calls
  work := work
  status := .reserved
  result := none
  reservedAtUtc := host.now run.calls

def reserve (taskId : String) (work : OrchestratorChildWork) : Program OrchestratorAttempt := do
  call host
  let run ← Coroutine.read id
  let used := usedAttempts run taskId work.kind
  if !run.tasks.any fun task => task.taskId == taskId then
    throw (errorStop (.error s!"Task '{taskId}' is not in the saved plan."))
  else if used ≥ ORCHESTRATOR_MAX_ATTEMPTS then
    throw (errorStop (.error s!"Task '{taskId}' reached the {purposeName work.kind} attempt limit."))
  else
    insertAttempt (nextAttempt host run taskId work)
    return nextAttempt host run taskId work

def writeAttempt (childRunId : String) (change : OrchestratorAttempt → OrchestratorAttempt)
    (records : List RunRecord) : Program Unit := do
  call host
  modify fun (run : SharedRun) => { run with
    attempts := updateWhere (fun attempt => attempt.childRunId == childRunId) change run.attempts
    log := run.log ++ records }

def markAttemptRunning (childRunId : String) : Program Unit :=
  writeAttempt host childRunId (fun attempt => { attempt with status := .running }) []

def recordAttemptResult (result : OrchestratorAttemptResult) : Program Unit :=
  writeAttempt host result.childRunId (fun attempt => { attempt with status := .settled, result := some result })
    [.recorded result]

/-! ## One child attempt -/

/-- Starts one reserved child through the ordinary worker lifecycle. -/
def startOrchestratorChild (task : OrchestratorTask) (attempt : OrchestratorAttempt) : Except Stop Unit :=
  match requireOrchestratorWorkerPreset config task with
  | .error thrown => .error (errorStop thrown)
  | .ok preset =>
    if attempt.purpose == .drift_fix && preset.presetKind != .repo_agent then
      .error (errorStop (.error s!"Drift corrections run on a repo-agent worker, not '{preset.id}'."))
    else .ok ()

def superviseChild (task : OrchestratorTask) (attempt : OrchestratorAttempt) (instruction : ChildInstruction) :
    Program ChildOutcome := do
  match ← Coroutine.read SharedRun.aborted with
  | some reason => throw (errorStop (.error reason))
  | none =>
    ofExcept (startOrchestratorChild config task attempt)
    call host
    modify fun (run : SharedRun) => { run with
      log := run.log ++ [.started attempt.taskId attempt.purpose attempt.attempt] }
    markAttemptRunning host attempt.childRunId
    await (.child task attempt instruction)

/-- Runs checks in order; unless approval is off, each command is approved on its own before it runs. -/
def runChecks (task : OrchestratorTask) : List OrchestratorVerificationCheck → Program (List OrchestratorCheckResult)
  | [] => return []
  | .evidence instruction paths :: rest => do
    return unexecutedCheck (.evidence instruction paths) "" :: (← runChecks task rest)
  | .command command :: rest => do
    let result := match ← await (.check task command) with
      | .denied reason => unexecutedCheck (.command command) s!"Not run: {reason}"
      | .ran exitCode timedOut output => ⟨.command command, true, exitCode, timedOut, output⟩
    return result :: (← runChecks task rest)

/-- One parent answer; an infrastructure failure is retried once and then ends the run. -/
def askParent {Reply : Type} (infer : Program (Inference Reply)) : Nat → Program (ParentReply Reply)
  | 0 => throw .exhausted
  | tries + 1 => do
    call host
    match ← infer with
    | .usable answer => return .answer answer
    | .unusable problem => return .problems [problem]
    | .infrastructure message =>
      if tries = 0 then throw (.thrown (.infrastructure message)) else askParent infer tries

/-- The parent's evidence review; `tries` of its answers may be unusable. -/
def askEvidenceReview (task : OrchestratorTask) (child : ChildOutcome) (checks : List OrchestratorCheckResult)
    (changedPaths : List String) : Nat → List String → Program OrchestratorTaskReview
  | 0, rejected =>
    let problems := String.intercalate " " rejected
    throw (fail .task_review_invalid s!"Task '{task.id}' evidence review was unusable: {problems}" task.id none [])
  | tries + 1, rejected => do
    match ← askParent host (await (.evidenceReview child checks changedPaths rejected)) PARENT_PHASE_ATTEMPTS with
    | .problems problems => askEvidenceReview task child checks changedPaths tries problems
    | .answer answer =>
      let problems := findReviewEvidenceProblems (← Coroutine.read SharedRun.evidenceProblem) answer
      if problems.isEmpty then return answer
      else askEvidenceReview task child checks changedPaths tries problems

def reviewEvidence (task : OrchestratorTask) (child : ChildOutcome) (checks : List OrchestratorCheckResult)
    (changedPaths : List String) : Program (Option OrchestratorTaskReview) :=
  if checks.any fun result => result.check.isEvidence then do
    return some (← askEvidenceReview host task child checks changedPaths PARENT_PHASE_ATTEMPTS [])
  else return none

/-- One child attempt; `task` is its work for this attempt (a drift fix carries its own checks). -/
def runAttempt (task : OrchestratorTask) (writePaths : List String) (attempt : OrchestratorAttempt)
    (instruction : ChildInstruction) : Program OrchestratorAttemptResult := do
  let child ← superviseChild host config task attempt instruction
  setTaskStatus host task.id .verifying
  let checks ← runChecks task task.verification
  let changes ← await .attemptChanges
  let scopeViolations := findScopeViolations changes.paths writePaths
  let review ← reviewEvidence host task child checks changes.paths
  let findings := evaluateAttempt (← Coroutine.read SharedRun.evidenceProblem) child.workerStatus checks scopeViolations review
  let result : OrchestratorAttemptResult := {
    taskId := task.id
    purpose := attempt.purpose
    attempt := attempt.attempt
    childRunId := attempt.childRunId
    workerStatus := child.workerStatus
    workerOutput := child.output
    passed := findings.isEmpty
    checks := checks
    findings := findings
    changedPaths := changes.paths
    scopeViolations := scopeViolations
    changeDigest := changes.digest }
  recordAttemptResult host result
  return result

/-! ## The drift gate -/

/-- The problems of a review, or else of the checks that its findings ask for. -/
def findUnrunnableFindings (review : OrchestratorDriftReview) (problems : List String) : Program (List String) :=
  if problems.isEmpty && review.isActionable then
    await (.unrunnableChecks (review.findings.flatMap OrchestratorDriftFinding.verification))
  else return problems

/-- `tries` answers of the parent may be unusable. -/
def reviewDrift (task : OrchestratorTask) (changeDigest diff : String) (changedPaths : List String)
    (openFindings : List OrchestratorDriftFinding) (checks : List OrchestratorCheckResult) :
    Nat → List String → Program OrchestratorDriftReview
  | 0, rejected =>
    let problems := String.intercalate " " rejected
    throw (fail .drift_review_invalid s!"Task '{task.id}' drift review was unusable: {problems}" task.id none
      (openFindings.map OrchestratorDriftFinding.id))
  | tries + 1, rejected => do
    match ← askParent host (await (.driftReview changeDigest diff changedPaths openFindings checks rejected))
        PARENT_PHASE_ATTEMPTS with
    | .problems problems => reviewDrift task changeDigest diff changedPaths openFindings checks tries problems
    | .answer review =>
      let problems := validateDriftReview (← Coroutine.read SharedRun.evidenceProblem) review task.id changeDigest changedPaths
        openFindings
      let unusable ← findUnrunnableFindings review problems
      if unusable.isEmpty then return review
      else reviewDrift task changeDigest diff changedPaths openFindings checks tries unusable

/-- `[...new Set([...reviewedDigests, digest])]`. -/
def withReviewedDigest (review : OrchestratorDriftReview) (digest : String) (task : OrchestratorTaskState) :
    OrchestratorTaskState :=
  { task with driftReview := some review, reviewedDigests := distinctTexts (task.reviewedDigests ++ [digest]) }

/-- The host's own review of a workspace without reviewable changes. -/
def notRequiredReview (taskId : String) (changes : WorkspaceChanges) : OrchestratorDriftReview :=
  ⟨taskId, changes.digest.getD "none", changes.paths, [], .not_required⟩

def withDriftReview (review : OrchestratorDriftReview) (task : OrchestratorTaskState) : OrchestratorTaskState :=
  { task with driftReview := some review }

/-- What a round of the drift gate leaves for the next. -/
structure DriftRound where
  checks : List OrchestratorCheckResult
  openFindings : List OrchestratorDriftFinding
  retryEvidence : Option String
  deriving DecidableEq, Repr

/-- A correction attempt, when one is left. -/
def correctDrift (task : OrchestratorTask) (digest : String) (openFindings : List OrchestratorDriftFinding)
    (retryEvidence : Option String) : Program DriftRound := do
  let used := usedAttempts (← Coroutine.read id) task.id .drift_fix
  if used ≥ ORCHESTRATOR_MAX_ATTEMPTS then
    throw (fail .drift_unresolved
      s!"Task '{task.id}' still has unresolved drift after {ORCHESTRATOR_MAX_ATTEMPTS} corrections." task.id
      (some .drift_fix) (openFindings.map OrchestratorDriftFinding.id))
  else
    setTaskStatus host task.id .correcting_drift
    let work := buildDriftCorrectionWork task digest openFindings
    let attempt ← reserve host task.id (.drift_fix work)
    let result ← runAttempt host config { task with verification := work.verification } work.allowedPaths attempt
      (.correction work retryEvidence)
    -- A functional regression from a correction must be fixed inside the same correction budget.
    return ⟨result.checks, openFindings, if result.passed then none else some (String.intercalate "\n" result.findings)⟩

/-- The review of a round, when the correction before it passed; `none` when it finds nothing actionable. -/
def reviewRound (task : OrchestratorTask) (changes : WorkspaceChanges) (digest : String) (round : DriftRound) :
    Program (Option (List OrchestratorDriftFinding)) := do
  setTaskStatus host task.id .reviewing_drift
  let diff ← await (.reviewDiff changes.paths)
  let review ← reviewDrift host task digest diff changes.paths round.openFindings round.checks PARENT_PHASE_ATTEMPTS []
  setTask host task.id (withReviewedDigest review digest) [.reviewed task.id changes review]
  return if review.isActionable then some review.findings else none

/-- The rounds of the gate, `rounds` at most. -/
def driftGate (task : OrchestratorTask) : Nat → DriftRound → Program Unit
  | 0, _ => throw .exhausted
  | rounds + 1, round => do
    let changes ← await (.gateChanges round.retryEvidence)
    match changes.digest, changesNeedDriftReview changes.paths with
    | some digest, true =>
      match round.retryEvidence with
      | none =>
        match ← reviewRound host task changes digest round with
        | none => return ()
        | some findings => driftGate task rounds (← correctDrift host config task digest findings none)
      | some retryEvidence =>
        driftGate task rounds (← correctDrift host config task digest round.openFindings (some retryEvidence))
    | _, _ =>
      let review := notRequiredReview task.id changes
      setTask host task.id (withDriftReview review) [.reviewed task.id changes review]
      match round.retryEvidence with
      | none => return ()
      | some retryEvidence =>
        throw (fail .drift_unresolved s!"Task '{task.id}' drift correction failed: {retryEvidence}" task.id
          (some .drift_fix) [])

/-! ## The task -/

/-- Implementation attempts until one passes, `rounds` at most. -/
def implementationAttempts (task : OrchestratorTask) (baseline : WorkspaceSnapshot) (planPath planHash : String) :
    Nat → Option ImplementationRetryEvidence → Program OrchestratorAttemptResult
  | 0, _ => throw .exhausted
  | rounds + 1, retry => do
    let attempt ← reserve host task.id (.implementation planPath planHash task)
    let result ← runAttempt host config task task.writePaths attempt
      (.implementation planPath planHash attempt.attempt (baseline.map Prod.fst) retry)
    if result.passed then return result
    else if attempt.attempt ≥ ORCHESTRATOR_MAX_ATTEMPTS then
      setTaskStatus host task.id .failed
      let findings := String.intercalate " " result.findings
      throw (fail .implementation_failed
        s!"Task '{task.id}' failed all {ORCHESTRATOR_MAX_ATTEMPTS} implementation attempts: {findings}" task.id
        (some .implementation) [])
    else
      setTaskStatus host task.id .retry_pending
      let diff ← await (.retryDiff result.changedPaths)
      implementationAttempts task baseline planPath planHash rounds
        (some ⟨String.intercalate "\n" result.findings, result.checks, result.changedPaths, diff⟩)

/-- `removeOwnedTemporaryPath` for each of them; a refusal is a cleanup failure. -/
def cleanupTaskTemporaries (task : OrchestratorTask) : List String → Program Unit
  | [] => return ()
  | _ :: rest => fun run =>
    match host.failure run.calls with
    | some (.error message) => .threw { run with calls := run.calls + 1 } (fail .cleanup_failed message task.id none [])
    | some .invalid => .threw { run with calls := run.calls + 1 } (fail .cleanup_failed "" task.id none [])
    | none => cleanupTaskTemporaries task rest { run with calls := run.calls + 1 }

/-- More rounds than a loop with a budget of attempts can take. -/
def maxRounds : Nat := ORCHESTRATOR_MAX_ATTEMPTS + 1

def implementTask (task : OrchestratorTask) (baseline : WorkspaceSnapshot) (planPath planHash : String) :
    Program Unit := do
  let passing ← implementationAttempts host config task baseline planPath planHash maxRounds none
  driftGate host config task maxRounds ⟨passing.checks, [], none⟩
  cleanupTaskTemporaries host task task.temporaryPaths
  setTaskStatus host task.id .completed

def runTask (task : OrchestratorTask) (planPath planHash : String) : Program Unit := do
  let mutating ← ofExcept ((isMutatingTask config task).mapError errorStop)
  await (.acquireRepository (if mutating then .exclusive else .shared))
  let baseline ← await .captureWorkspace
  implementTask host config task baseline planPath planHash

end OrchestratorRun

end SiftKit.Orchestrator
