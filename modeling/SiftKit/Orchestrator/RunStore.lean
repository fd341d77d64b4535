import SiftKit.Foundation.Failure
import SiftKit.Foundation.Runs
import SiftKit.Foundation.Tables
import SiftKit.Orchestrator.Contracts

/-! # The run store

`OrchestratorRunStore` of `orchestrator/run-store.ts` over its three tables.  The JSON
columns hold the values they serialize.  Whatever a call reads from its host (random
identifiers, the clock) is an input of the call, so nothing is assumed of it: an
identifier that is already in use runs into the uniqueness constraints.
-/

namespace SiftKit.Orchestrator

open SiftKit.Schema SiftKit.Tables SiftKit.Runs SiftKit.Failure

/-! ## The tables -/

structure RunRow where
  runId : String
  submissionId : String
  requestDigest : String
  revision : Nat
  phase : OrchestratorPhase
  stateJson : StoredRunState
  createdAtUtc : String
  updatedAtUtc : String
  deriving DecidableEq, Repr

structure AttemptRow where
  runId : String
  taskId : String
  purpose : OrchestratorChildPurpose
  attempt : Nat
  childRunId : String
  attemptJson : OrchestratorAttempt
  deriving DecidableEq, Repr

structure EventRow where
  runId : String
  sequence : Nat
  eventJson : OrchestratorEvent
  deriving DecidableEq, Repr

structure RunDatabase where
  runs : List RunRow
  attempts : List AttemptRow
  events : List EventRow
  deriving DecidableEq, Repr

def RunDatabase.empty : RunDatabase := ⟨[], [], []⟩

def RunDatabase.attemptsOf (database : RunDatabase) (runId : String) : List AttemptRow :=
  database.attempts.filter fun row => row.runId == runId

def RunDatabase.eventsOf (database : RunDatabase) (runId : String) : List EventRow :=
  database.events.filter fun row => row.runId == runId

/-- `run_id` is the primary key and `submission_id` is unique. -/
def RunRow.conflicts (row other : RunRow) : Bool :=
  other.runId == row.runId || other.submissionId == row.submissionId

/--
`child_run_id` is unique and the rest of the identity is the primary key.  The `CHECK`s
on purpose and number say no more than the attempt's schema, which every row has passed.
-/
def AttemptRow.conflicts (row other : AttemptRow) : Bool :=
  other.childRunId == row.childRunId ||
    (other.runId == row.runId && other.taskId == row.taskId && other.purpose == row.purpose &&
      other.attempt == row.attempt)

def EventRow.conflicts (row other : EventRow) : Bool :=
  other.runId == row.runId && other.sequence == row.sequence

/-! ## Failure and the host -/

inductive StoreError where
  /-- `throw new Error(message)`. -/
  | error (message : String)
  /-- A schema refuses a value. -/
  | invalid
  /-- The database refuses a row. -/
  | constraint
  deriving DecidableEq, Repr

def orInvalid {Value : Type} : Option Value → Except StoreError Value
  | some value => .ok value
  | none => .error .invalid

def orConstraint {Value : Type} : Option Value → Except StoreError Value
  | some value => .ok value
  | none => .error .constraint

/-- The parts of the store that are not its own: string formats and the digest of a request. -/
structure StoreEnvironment where
  formats : StringFormats
  digestStableJson : OrchestratorStartRequest → String

/-- What one call reads from its host: `randomUUID()` and the clock, each time it is read. -/
structure HostInputs where
  randomUUID : String
  startedAt : String
  committedAt : String
  eventAt : String
  deriving DecidableEq, Repr

/-- Fields a transition may change; an absent field is `none`. -/
structure OrchestratorRunChanges where
  phase : Option OrchestratorPhase := none
  tasks : Option (List OrchestratorTaskState) := none
  approval : Option (Option OrchestratorPendingApproval) := none
  failure : Option (Option OrchestratorFailure) := none
  phaseRunIds : Option (List String) := none
  deriving DecidableEq, Repr

/-- `{ ...state, ...changes }`. -/
def OrchestratorRunChanges.applyTo (changes : OrchestratorRunChanges) (state : OrchestratorRunState) :
    OrchestratorRunState :=
  { state with
    phase := changes.phase.getD state.phase
    tasks := changes.tasks.getD state.tasks
    approval := changes.approval.getD state.approval
    failure := changes.failure.getD state.failure
    phaseRunIds := changes.phaseRunIds.getD state.phaseRunIds }

/-- What an event says beyond the committed phase. -/
structure OrchestratorEventInput where
  message : String
  taskId : Option String := none
  purpose : Option OrchestratorChildPurpose := none
  attempt : Option Nat := none
  childRunId : Option String := none
  deriving DecidableEq, Repr

def phaseText : OrchestratorPhase → String
  | .preparing_plan => "preparing_plan"
  | .validating_plan => "validating_plan"
  | .executing => "executing"
  | .verifying => "verifying"
  | .cleaning => "cleaning"
  | .approval_required => "approval_required"
  | .completed => "completed"
  | .failed => "failed"
  | .aborted => "aborted"
  | .interrupted => "interrupted"

def purposeText : OrchestratorChildPurpose → String
  | .implementation => "implementation"
  | .drift_fix => "drift_fix"

/-! ## Reading -/

section Store

variable (environment : StoreEnvironment)

def readAttempts (runId : String) (database : RunDatabase) :
    Except StoreError (List OrchestratorAttempt) :=
  orInvalid (array (OrchestratorAttempt.parse environment.formats)
    ((database.attemptsOf runId).map AttemptRow.attemptJson))

def read (runId : String) (database : RunDatabase) : Except StoreError OrchestratorRunState := do
  match database.runs.find? fun row => row.runId == runId with
  | none => throw (.error s!"Unknown orchestrator run {runId}.")
  | some row =>
    let stored ← orInvalid (row.stateJson.parse environment.formats)
    let attempts ← readAttempts environment runId database
    orInvalid (OrchestratorRunState.parse environment.formats ⟨stored, attempts⟩)

def requireAttempt (state : OrchestratorRunState) (childRunId : String) :
    Except StoreError OrchestratorAttempt :=
  match state.attempts.find? fun entry => entry.childRunId == childRunId with
  | some attempt => .ok attempt
  | none => .error (.error s!"Unknown orchestrator child {childRunId} for run {state.runId}.")

/-! ## Writing -/

def appendEvent (host : HostInputs) (state : StoredRunState) (input : OrchestratorEventInput)
    (database : RunDatabase) : Except StoreError RunDatabase := do
  let last := ((database.eventsOf state.runId).map EventRow.sequence).max?.getD 0
  let event ← orInvalid (OrchestratorEvent.parse environment.formats {
    runId := state.runId
    sequence := last + 1
    atUtc := host.eventAt
    phase := state.phase
    message := input.message
    taskId := input.taskId
    purpose := input.purpose
    attempt := input.attempt
    childRunId := input.childRunId })
  let events ← orConstraint
    (insertRow EventRow.conflicts ⟨state.runId, event.sequence, event⟩ database.events)
  return { database with events := events }

def writeAttempt (runId : String) (attempt : OrchestratorAttempt) (database : RunDatabase) :
    Except StoreError RunDatabase := do
  let parsed ← orInvalid (attempt.parse environment.formats)
  return { database with
    attempts := updateWhere (fun row => row.runId == runId && row.childRunId == attempt.childRunId)
      (fun (row : AttemptRow) => { row with attemptJson := parsed }) database.attempts }

/-- The loop of `closeOpenWork` over the run's attempts. -/
def abandonAttempts (runId : String) :
    List OrchestratorAttempt → RunDatabase → Except StoreError RunDatabase
  | [], database => .ok database
  | attempt :: rest, database => do
    if attempt.status == .reserved || attempt.status == .running then
      abandonAttempts runId rest
        (← writeAttempt environment runId { attempt with status := .abandoned } database)
    else abandonAttempts runId rest database

/-- A stopped parent leaves nothing looking live: open tasks abort and unsettled attempts are abandoned. -/
def closeOpenWork (runId : String) (state : OrchestratorRunState) (database : RunDatabase) :
    Except StoreError (OrchestratorRunState × RunDatabase) := do
  let abandoned ← abandonAttempts environment runId state.attempts database
  return ({ state with
    tasks := state.tasks.map fun (task : OrchestratorTaskState) =>
      if isOrchestratorOpenTaskStatus task.status then { task with status := .aborted } else task },
    abandoned)

/-- `closing ? this.closeOpenWork(runId, stored) : stored`. -/
def closeStopped (runId : String) (stored : OrchestratorRunState) (database : RunDatabase) :
    Except StoreError (OrchestratorRunState × RunDatabase) :=
  let closing := isOrchestratorTerminalPhase stored.phase && stored.phase != .completed
  if closing then closeOpenWork environment runId stored database else pure (stored, database)

def RunRow.withState (next : StoredRunState) (row : RunRow) : RunRow :=
  { row with
    revision := next.revision
    phase := next.phase
    stateJson := next
    updatedAtUtc := next.updatedAtUtc }

@[simp] theorem RunRow.withState_runId (next : StoredRunState) (row : RunRow) :
    (row.withState next).runId = row.runId := rfl

/-- `UPDATE orchestrator_runs SET … WHERE run_id = ?`. -/
def RunDatabase.storeRun (runId : String) (next : StoredRunState) (database : RunDatabase) :
    RunDatabase :=
  { database with
    runs := updateWhere (fun row => row.runId == runId) (.withState next) database.runs }

/-- What a change hands to `mutate`: the state to store, its event, and the tables after the change's own writes. -/
structure RunChange where
  stored : OrchestratorRunState
  event : OrchestratorEventInput
  database : RunDatabase

/-- The body of the transaction of `mutate`. -/
def mutate (host : HostInputs) (runId : String) (revision : Nat)
    (change : OrchestratorRunState → RunDatabase → Except StoreError RunChange)
    (database : RunDatabase) : Except StoreError (OrchestratorRunState × RunDatabase) := do
  let current ← read environment runId database
  throwWhen (current.revision != revision)
    (.error s!"Orchestrator run {runId} stale revision {revision}; current revision is {current.revision}.")
  throwWhen (isOrchestratorTerminalPhase current.phase)
    (.error s!"Orchestrator run {runId} is {phaseText current.phase}.")
  let changed ← change current database
  let closed ← closeStopped environment runId changed.stored changed.database
  let next ← orInvalid (StoredRunState.parse environment.formats { closed.1.toStoredRunState with
    revision := revision + 1
    updatedAtUtc := host.committedAt })
  let appended ← appendEvent environment host next changed.event (closed.2.storeRun runId next)
  let answer ← read environment runId appended
  return (answer, appended)

/-- The body of the transaction of `create`. -/
def createRun (host : HostInputs) (request : OrchestratorStartRequest) (digest : String)
    (database : RunDatabase) : Except StoreError (OrchestratorRunState × RunDatabase) := do
  match database.runs.find? fun row => row.submissionId == request.submissionId with
  | some row =>
    throwWhen (row.requestDigest != digest)
      (.error s!"Submission {request.submissionId} was already used for a different orchestrator request.")
    let existing ← read environment row.runId database
    return (existing, database)
  | none =>
    let state ← orInvalid (StoredRunState.parse environment.formats {
      runId := host.randomUUID
      request := request
      revision := 0
      phase := .preparing_plan
      planPath := none
      planHash := none
      plan := none
      tasks := []
      phaseRunIds := []
      approval := none
      failure := none
      createdAtUtc := host.startedAt
      updatedAtUtc := host.startedAt })
    let runs ← orConstraint (insertRow RunRow.conflicts
      ⟨state.runId, request.submissionId, digest, state.revision, state.phase, state, host.startedAt,
        host.startedAt⟩ database.runs)
    let appended ← appendEvent environment host state { message := "Orchestrator run created." }
      { database with runs := runs }
    let answer ← read environment state.runId appended
    return (answer, appended)

/-! ## What each method changes -/

def savePlanChange (plan : OrchestratorPlan) (planPath contentHash : String)
    (state : OrchestratorRunState) (database : RunDatabase) : Except StoreError RunChange := do
  let planned := plan.tasks.map OrchestratorTask.id
  match state.attempts.find? fun attempt => !planned.contains attempt.taskId with
  | some attempt => throw (.error
      s!"Plan changed: task '{attempt.taskId}' already has attempts; start a new run for the changed plan.")
  | none =>
    -- A `Map` of the saved tasks by id keeps the last of several entries.
    let previous := fun (id : String) => state.tasks.reverse.find? fun task => task.taskId == id
    let tasks := plan.tasks.map fun task => (previous task.id).getD ⟨task.id, .pending, none, []⟩
    return ⟨{ state with
        plan := some plan
        planPath := some planPath
        planHash := some contentHash
        tasks := tasks }, { message := s!"Plan saved: {planPath}." }, database⟩

def updateChange (changes : OrchestratorRunChanges) (event : OrchestratorEventInput)
    (state : OrchestratorRunState) (database : RunDatabase) : Except StoreError RunChange :=
  return ⟨changes.applyTo state, event, database⟩

def reserveAttemptChange (host : HostInputs) (runId taskId : String) (work : OrchestratorChildWork)
    (current : OrchestratorRunState) (database : RunDatabase) : Except StoreError RunChange := do
  let purpose := work.kind
  throwWhen (!current.tasks.any fun task => task.taskId == taskId)
    (.error s!"Task '{taskId}' is not in the saved plan.")
  let used := (current.attempts.filter fun attempt =>
    attempt.taskId == taskId && attempt.purpose == purpose).length
  throwWhen (used ≥ ORCHESTRATOR_MAX_ATTEMPTS)
    (.error s!"Task '{taskId}' reached the {purposeText purpose} attempt limit.")
  let attempt ← orInvalid (OrchestratorAttempt.parse environment.formats
    ⟨taskId, purpose, used + 1, host.randomUUID, work, .reserved, none, host.startedAt⟩)
  let attempts ← orConstraint (insertRow AttemptRow.conflicts
    ⟨runId, taskId, purpose, attempt.attempt, host.randomUUID, attempt⟩ database.attempts)
  return ⟨current, {
      message := s!"Reserved {purposeText purpose} attempt {attempt.attempt}."
      taskId := some taskId
      purpose := some purpose
      attempt := some attempt.attempt
      childRunId := some host.randomUUID }, { database with attempts := attempts }⟩

def markAttemptRunningChange (runId childRunId : String) (state : OrchestratorRunState)
    (database : RunDatabase) : Except StoreError RunChange := do
  let attempt ← requireAttempt state childRunId
  throwWhen (attempt.status != .reserved)
    (.error s!"Orchestrator child {childRunId} was already started.")
  let written ← writeAttempt environment runId { attempt with status := .running } database
  return ⟨state, {
      message := s!"Started {purposeText attempt.purpose} attempt {attempt.attempt}."
      taskId := some attempt.taskId
      purpose := some attempt.purpose
      attempt := some attempt.attempt
      childRunId := some childRunId }, written⟩

def recordAttemptResultChange (runId : String) (result : OrchestratorAttemptResult)
    (state : OrchestratorRunState) (database : RunDatabase) : Except StoreError RunChange := do
  let attempt ← requireAttempt state result.childRunId
  throwWhen (attempt.status == .settled)
    (.error s!"Orchestrator child {result.childRunId} is already settled.")
  throwWhen (attempt.taskId != result.taskId || attempt.purpose != result.purpose ||
      attempt.attempt != result.attempt)
    (.error s!"Result for child {result.childRunId} does not match its reserved attempt.")
  let written ← writeAttempt environment runId
    { attempt with status := .settled, result := some result } database
  let outcome := if result.passed then "passed" else "failed"
  return ⟨state, {
      message := s!"Settled {purposeText attempt.purpose} attempt {attempt.attempt}: {outcome}."
      taskId := some attempt.taskId
      purpose := some attempt.purpose
      attempt := some attempt.attempt
      childRunId := some attempt.childRunId }, written⟩

/-- The changes of `markInterrupted`. -/
def interruptedChanges (reason : String) : OrchestratorRunChanges where
  phase := some .interrupted
  approval := some none
  failure := some (some ⟨.interrupted, reason, none, none, []⟩)

/-! ## Calls -/

inductive StoreCall where
  | create (input : OrchestratorStartRequest)
  | savePlan (runId : String) (revision : Nat) (plan : OrchestratorPlan) (planPath contentHash : String)
  | update (runId : String) (revision : Nat) (changes : OrchestratorRunChanges)
      (event : OrchestratorEventInput)
  | reserveAttempt (runId : String) (revision : Nat) (taskId : String) (work : OrchestratorChildWork)
  | markAttemptRunning (runId : String) (revision : Nat) (childRunId : String)
  | recordAttemptResult (runId : String) (revision : Nat) (input : OrchestratorAttemptResult)
  | markInterrupted (runId : String) (revision : Nat) (reason : String)
  deriving DecidableEq, Repr

inductive StoreAnswer where
  | run (state : OrchestratorRunState)
  | attempt (attempt : OrchestratorAttempt)
  deriving DecidableEq, Repr

/-- `database.transaction(body)()`: a throw rolls the tables back. -/
def transaction {Answer : Type} (body : RunDatabase → Except StoreError (Answer × RunDatabase))
    (database : RunDatabase) : Except StoreError Answer × RunDatabase :=
  match body database with
  | .ok (answer, committed) => (.ok answer, committed)
  | .error thrown => (.error thrown, database)

def create (host : HostInputs) (input : OrchestratorStartRequest) (database : RunDatabase) :
    Except StoreError OrchestratorRunState × RunDatabase :=
  match input.parse environment.formats with
  | none => (.error .invalid, database)
  | some request =>
    transaction (createRun environment host request (environment.digestStableJson request)) database

def savePlan (host : HostInputs) (runId : String) (revision : Nat) (plan : OrchestratorPlan)
    (planPath contentHash : String) :
    RunDatabase → Except StoreError OrchestratorRunState × RunDatabase :=
  transaction (mutate environment host runId revision (savePlanChange plan planPath contentHash))

def update (host : HostInputs) (runId : String) (revision : Nat) (changes : OrchestratorRunChanges)
    (event : OrchestratorEventInput) :
    RunDatabase → Except StoreError OrchestratorRunState × RunDatabase :=
  transaction (mutate environment host runId revision (updateChange changes event))

/-- The attempt is looked up in the committed state, after the transaction. -/
def reserveAttempt (host : HostInputs) (runId : String) (revision : Nat) (taskId : String)
    (work : OrchestratorChildWork) (database : RunDatabase) :
    Except StoreError OrchestratorAttempt × RunDatabase :=
  let (outcome, committed) := transaction
    (mutate environment host runId revision (reserveAttemptChange environment host runId taskId work)) database
  (outcome.bind fun state => requireAttempt state host.randomUUID, committed)

def markAttemptRunning (host : HostInputs) (runId : String) (revision : Nat) (childRunId : String) :
    RunDatabase → Except StoreError OrchestratorRunState × RunDatabase :=
  transaction (mutate environment host runId revision
    (markAttemptRunningChange environment runId childRunId))

def recordAttemptResult (host : HostInputs) (runId : String) (revision : Nat)
    (input : OrchestratorAttemptResult) (database : RunDatabase) :
    Except StoreError OrchestratorRunState × RunDatabase :=
  match input.parse environment.formats with
  | none => (.error .invalid, database)
  | some result =>
    transaction (mutate environment host runId revision
      (recordAttemptResultChange environment runId result)) database

def markInterrupted (host : HostInputs) (runId : String) (revision : Nat) (reason : String) :
    RunDatabase → Except StoreError OrchestratorRunState × RunDatabase :=
  update environment host runId revision (interruptedChanges reason) { message := reason }

/-- One call of the store: what it answers and the tables it leaves. -/
def perform (database : RunDatabase) (host : HostInputs) :
    StoreCall → Except StoreError StoreAnswer × RunDatabase
  | .create input =>
    let (answer, after) := create environment host input database
    (answer.map .run, after)
  | .savePlan runId revision plan planPath contentHash =>
    let (answer, after) := savePlan environment host runId revision plan planPath contentHash database
    (answer.map .run, after)
  | .update runId revision changes event =>
    let (answer, after) := update environment host runId revision changes event database
    (answer.map .run, after)
  | .reserveAttempt runId revision taskId work =>
    let (answer, after) := reserveAttempt environment host runId revision taskId work database
    (answer.map .attempt, after)
  | .markAttemptRunning runId revision childRunId =>
    let (answer, after) := markAttemptRunning environment host runId revision childRunId database
    (answer.map .run, after)
  | .recordAttemptResult runId revision input =>
    let (answer, after) := recordAttemptResult environment host runId revision input database
    (answer.map .run, after)
  | .markInterrupted runId revision reason =>
    let (answer, after) := markInterrupted environment host runId revision reason database
    (answer.map .run, after)

/-- The tables after one call. -/
def storeStep (database : RunDatabase) (call : HostInputs × StoreCall) : RunDatabase :=
  (perform environment database call.1 call.2).2

/-- The tables after a sequence of calls on an empty store. -/
def storeAfter (calls : List (HostInputs × StoreCall)) : RunDatabase :=
  run (storeStep environment) .empty calls

def succeeds (database : RunDatabase) (call : HostInputs × StoreCall) : Bool :=
  (perform environment database call.1 call.2).1.isOk

end Store

/-- The run a call is about and the revision it carries; `create` carries none. -/
def StoreCall.carries : StoreCall → Option (String × Nat)
  | .create _ => none
  | .savePlan runId revision _ _ _ => some (runId, revision)
  | .update runId revision _ _ => some (runId, revision)
  | .reserveAttempt runId revision _ _ => some (runId, revision)
  | .markAttemptRunning runId revision _ => some (runId, revision)
  | .recordAttemptResult runId revision _ => some (runId, revision)
  | .markInterrupted runId revision _ => some (runId, revision)

end SiftKit.Orchestrator
