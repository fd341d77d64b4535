import SiftKit.Foundation.OrderedMap

/-! # The approval gate

`ApprovalGate` of `repo-search/engine/approval-gate.ts`: the execution of a tool parks until a human decides,
the deadline passes, or the run is aborted.

The gate calls functions that it was handed: the recorder of the evidence, the writer of the progress, the
observer, the lease, and the clock.  What they come to is an argument of each operation.  A callback that the
recorder or the writer lets fail may abort the signal of the run before it throws, and the listeners of the
signal run inside that call.
-/

namespace SiftKit.RepoSearch.Approvals

/-! ## Decisions -/

inductive ApprovalMode where
  | interactive
  | auto
  | off
  deriving DecidableEq, Repr

inductive ApprovalDecision where
  | approve
  | deny (reason : String)
  | abort (reason : String)
  deriving DecidableEq, Repr

namespace ApprovalDecision

/-- `decision.kind === 'abort'`. -/
def isAbort : ApprovalDecision → Bool
  | .abort _ => true
  | _ => false

/-- `decision.kind === 'approve' ? null : decision.reason`. -/
def reason? : ApprovalDecision → Option String
  | .approve => none
  | .deny reason => some reason
  | .abort reason => some reason

end ApprovalDecision

/-- The decision as it goes into the evidence, without the wording of an abort. -/
inductive RepoAgentDecision where
  | approve
  | deny (reason : String)
  | abort
  deriving DecidableEq, Repr

def ApprovalDecision.recorded : ApprovalDecision → RepoAgentDecision
  | .approve => .approve
  | .deny reason => .deny reason
  | .abort _ => .abort

/-- `ChatApprovalOutcome`, as far as the gate writes it. -/
inductive ApprovalOutcome where
  | approved
  | denied
  | aborted
  | timeout
  deriving DecidableEq, Repr

def ApprovalDecision.outcome : ApprovalDecision → ApprovalOutcome
  | .approve => .approved
  | .deny _ => .denied
  | .abort _ => .aborted

/-- What a call threw: an error with its message, or a value that is no error. -/
inductive Failure where
  | error (message : String)
  | other
  deriving DecidableEq, Repr

def CLIENT_ABORT_MESSAGE : String := "Aborted by user."

def MISSING_CALL_MESSAGE : String := "Chat approval requires its exact proposed tool identity."

def buildApprovalTimeoutMessage (timeoutMs : Nat) : String :=
  s!"No approval decision was received within {timeoutMs}ms; the run was stopped (approval timeout)."

def buildObserverFailureMessage : Failure → String
  | .error message => s!"Approval observer failed: {message}"
  | .other => "Approval observer failed."

/-- `APPROVAL_EXEMPT_READ_ONLY_TOOLS`: the tools that only read, and those of the web chat. -/
def APPROVAL_EXEMPT_READ_ONLY_TOOLS : List String := ["read", "grep", "find", "ls", "ask_user", "show_image"]

def isApprovalExemptReadOnlyTool (toolName : String) : Bool := APPROVAL_EXEMPT_READ_ONLY_TOOLS.contains toolName

/-! ## What the gate works with -/

/-- `HumanApprovalRequestInput`. -/
structure ApprovalRequest (ToolCall : Type) where
  call : Option ToolCall
  turn : Nat
  toolName : String
  command : String
  reviewPayload : Option String

/-- The options of the constructor: it refuses a timeout that is not positive. -/
structure GateOptions where
  requestId : String
  bypassReadOnlyTools : Bool
  decisionTimeoutMs : Nat
  timeoutPositive : 0 < decisionTimeoutMs
  hasEvidenceRecorder : Bool
  hasObserver : Bool
  hasLease : Bool

structure PendingApproval where
  toolName : String
  startedAtMs : Int
  /-- Whether the timer of the approval was set, and not cleared since. -/
  timeoutHandle : Bool

/-- What a call of the recorder comes to.  A write that the storage did not take fences the run: it aborts
the signal of the run before it throws. -/
inductive Recording where
  | committed
  | refused (failure : Failure)
  | fenced (failure : Failure) (reason : String)

/-- What a call of the writer or of the lease comes to: it may abort the signal, and it may throw. -/
structure Callback where
  aborts : Option String
  thrown : Option Failure

def Callback.returns : Callback := ⟨none, none⟩

/-- What one operation meets: the clock, and what the functions that it calls come to.  The recorder is
called once for the approval of the operation, and once for each approval that an abort abandons. -/
structure Moment (ApprovalId : Type) where
  nowMs : Int
  recordRequested : Recording
  recordResolved : Recording
  recordAbandoned : ApprovalId → Recording
  write : Callback
  park : Callback
  observer : Option Failure

/-- `ChatApprovalRequestedEvidence`. -/
structure RequestedEvidence (ApprovalId ToolCall : Type) where
  approvalId : ApprovalId
  call : ToolCall
  toolName : String
  command : String
  reviewPayload : Option String
  mode : ApprovalMode
  requestedAtMs : Int
  expiresAtMs : Int

/-- `ChatApprovalResolvedEvidence`. -/
structure ResolvedEvidence (ApprovalId : Type) where
  approvalId : ApprovalId
  outcome : ApprovalOutcome
  decision : Option RepoAgentDecision
  reason : Option String
  decidedAtMs : Int

structure ApprovalRequestProgressEvent (ApprovalId : Type) where
  requestId : String
  approvalId : ApprovalId
  turn : Nat
  toolName : String
  command : String
  reviewPayload : Option String

inductive Settlement where
  | resolved (decision : ApprovalDecision)
  | rejected (failure : Failure)
  deriving DecidableEq, Repr

/-- What is seen of a gate, in the order in which it happened. -/
inductive GateEvent (ApprovalId ToolCall : Type) where
  /-- A request of an exempt tool was approved at once, without an approval. -/
  | exempted (toolName : String)
  | requested (approvalId : ApprovalId) (startedAtMs : Int)
  | requestRecorded (evidence : RequestedEvidence ApprovalId ToolCall)
  | published (event : ApprovalRequestProgressEvent ApprovalId)
  | resolutionRecorded (evidence : ResolvedEvidence ApprovalId)
  /-- `submit` was called, and what it returned or threw. -/
  | submitted (approvalId : ApprovalId) (decision : ApprovalDecision) (nowMs : Int) (answer : Except Failure Bool)
  | aborted (reason : String)
  /-- The promise of `request` settled. -/
  | settled (approvalId : ApprovalId) (settlement : Settlement)

/-- A gate and what it is tied to: the signal of the run with its listeners, and the timers that are armed. -/
structure GateRun (ApprovalId ToolCall : Type) where
  pending : OrderedMap ApprovalId PendingApproval
  currentMode : ApprovalMode
  /-- Why the signal was aborted, once it was. -/
  aborted : Option String
  /-- The approvals whose abort listener is registered at the signal, in the order of their registration. -/
  listeners : List ApprovalId
  /-- The approvals whose timer is armed. -/
  timers : List ApprovalId
  /-- How many identifiers were drawn. -/
  drawn : Nat
  /-- The approvals that are not decided: their promise is neither resolved nor rejected. -/
  waiting : List ApprovalId
  /-- The decisions that wait for the lease to come back. -/
  resuming : List (ApprovalId × ApprovalDecision)
  log : List (GateEvent ApprovalId ToolCall)

namespace GateRun

variable {ApprovalId ToolCall : Type} [DecidableEq ApprovalId]

/-- A new gate, at a signal that nobody aborted. -/
def start (mode : ApprovalMode) : GateRun ApprovalId ToolCall :=
  ⟨.empty, mode, none, [], [], 0, [], [], []⟩

def note (event : GateEvent ApprovalId ToolCall) (run : GateRun ApprovalId ToolCall) : GateRun ApprovalId ToolCall :=
  { run with log := run.log ++ [event] }

/-! ## The promise of an approval -/

def withoutWaiting (approvalId : ApprovalId) (run : GateRun ApprovalId ToolCall) : GateRun ApprovalId ToolCall :=
  { run with waiting := run.waiting.filter (· ≠ approvalId) }

/-- `reject(failure)`: nothing happens to a promise that was resolved or rejected before. -/
def reject (approvalId : ApprovalId) (failure : Failure) (run : GateRun ApprovalId ToolCall) : GateRun ApprovalId ToolCall :=
  if approvalId ∈ run.waiting then (run.withoutWaiting approvalId).note (.settled approvalId (.rejected failure)) else run

/-- `resolve(decision)`, and what `request` does with the decision: it waits for the lease unless the run stops. -/
def resolve (options : GateOptions) (approvalId : ApprovalId) (decision : ApprovalDecision)
    (run : GateRun ApprovalId ToolCall) : GateRun ApprovalId ToolCall :=
  if approvalId ∈ run.waiting then
    if options.hasLease && !decision.isAbort then
      { run.withoutWaiting approvalId with resuming := run.resuming ++ [(approvalId, decision)] }
    else (run.withoutWaiting approvalId).note (.settled approvalId (.resolved decision))
  else run

/-! ## Clearing and recording -/

/-- `clearPending(approvalId)`. -/
def clearPending (approvalId : ApprovalId) (run : GateRun ApprovalId ToolCall) : GateRun ApprovalId ToolCall :=
  match run.pending.get? approvalId with
  | none => run
  | some entry =>
    { run with
      pending := run.pending.delete approvalId
      timers := if entry.timeoutHandle then run.timers.filter (· ≠ approvalId) else run.timers
      listeners := run.listeners.filter (· ≠ approvalId) }

/-- `evidenceRecorder?.recordApprovalResolved(evidence)` at a signal that is aborted already: what is left
of the run, and what the recorder threw. -/
def recordFenced (options : GateOptions) (recording : Recording) (evidence : ResolvedEvidence ApprovalId)
    (run : GateRun ApprovalId ToolCall) : GateRun ApprovalId ToolCall × Option Failure :=
  if options.hasEvidenceRecorder then
    match recording with
    | .committed => (run.note (.resolutionRecorded evidence), none)
    | .refused failure => (run, some failure)
    | .fenced failure _ => (run, some failure)
  else (run, none)

variable (options : GateOptions) (moment : Moment ApprovalId)

def abandonedEvidence (approvalId : ApprovalId) : ResolvedEvidence ApprovalId :=
  ⟨approvalId, .aborted, none, some CLIENT_ABORT_MESSAGE, moment.nowMs⟩

/-- `abortListener()`. -/
def abandon (approvalId : ApprovalId) (reason : String) (run : GateRun ApprovalId ToolCall) : GateRun ApprovalId ToolCall :=
  let recorded := (run.clearPending approvalId).recordFenced options (moment.recordAbandoned approvalId)
    (abandonedEvidence moment approvalId)
  match recorded.2 with
  | some failure => recorded.1.reject approvalId failure
  | none => recorded.1.reject approvalId (.error reason)

def withoutListener (approvalId : ApprovalId) (run : GateRun ApprovalId ToolCall) : GateRun ApprovalId ToolCall :=
  { run with listeners := run.listeners.filter (· ≠ approvalId) }

/-- The event `abort` of the signal: its listeners are called in their order, each at most once, and none
that was removed in between. -/
def dispatch (reason : String) : List ApprovalId → GateRun ApprovalId ToolCall → GateRun ApprovalId ToolCall
  | [], run => run
  | approvalId :: later, run =>
    dispatch reason later
      (if approvalId ∈ run.listeners then (run.withoutListener approvalId).abandon options moment approvalId reason
       else run)

/-- `controller.abort(reason)`. -/
def abort (reason : String) (run : GateRun ApprovalId ToolCall) : GateRun ApprovalId ToolCall :=
  match run.aborted with
  | some _ => run
  | none => ({ run with aborted := some reason }.note (.aborted reason)).dispatch options moment reason run.listeners

/-- `evidenceRecorder?.recordApprovalResolved(evidence)`. -/
def record (evidence : ResolvedEvidence ApprovalId) (run : GateRun ApprovalId ToolCall) :
    GateRun ApprovalId ToolCall × Option Failure :=
  if options.hasEvidenceRecorder then
    match moment.recordResolved with
    | .committed => (run.note (.resolutionRecorded evidence), none)
    | .refused failure => (run, some failure)
    | .fenced failure reason => (run.abort options moment reason, some failure)
  else (run, none)

/-- What `observer?.onDecision(decision)` or `observer?.onTimeout()` throws. -/
def observerFailure : Option Failure := if options.hasObserver then moment.observer else none

/-- A call of the writer or of the lease: what is left of the run, and what was thrown. -/
def call (callback : Callback) (run : GateRun ApprovalId ToolCall) : GateRun ApprovalId ToolCall × Option Failure :=
  match callback.aborts with
  | some reason => (run.abort options moment reason, callback.thrown)
  | none => (run, callback.thrown)

/-! ## Expiry and decisions -/

def expiredEvidence (approvalId : ApprovalId) : ResolvedEvidence ApprovalId :=
  ⟨approvalId, .timeout, none, some (buildApprovalTimeoutMessage options.decisionTimeoutMs), moment.nowMs⟩

/-- `expireApproval(approvalId, entry)`. -/
def expireApproval (approvalId : ApprovalId) (run : GateRun ApprovalId ToolCall) : GateRun ApprovalId ToolCall :=
  match run.pending.get? approvalId with
  | none => run
  | some _ =>
    let recorded := run.record options moment (expiredEvidence options moment approvalId)
    match recorded.2 with
    | some failure =>
      (recorded.1.clearPending approvalId).resolve options approvalId (.abort (buildObserverFailureMessage failure))
    | none =>
      match observerFailure options moment with
      | some failure =>
        ((recorded.1.clearPending approvalId).clearPending approvalId).resolve options approvalId
          (.abort (buildObserverFailureMessage failure))
      | none =>
        (recorded.1.clearPending approvalId).resolve options approvalId
          (.abort (buildApprovalTimeoutMessage options.decisionTimeoutMs))

def decidedEvidence (approvalId : ApprovalId) (decision : ApprovalDecision) : ResolvedEvidence ApprovalId :=
  ⟨approvalId, decision.outcome, some decision.recorded, decision.reason?, moment.nowMs⟩

/-- The decision that the promise is resolved with: an observer that throws stops the run. -/
def deliveredDecision (decision : ApprovalDecision) : ApprovalDecision :=
  match observerFailure options moment with
  | some failure => .abort (buildObserverFailureMessage failure)
  | none => decision

/-- `submit(approvalId, decision)`: what is left of the run, and what it returned or threw. -/
def submit (approvalId : ApprovalId) (decision : ApprovalDecision) (run : GateRun ApprovalId ToolCall) :
    GateRun ApprovalId ToolCall × Except Failure Bool :=
  match run.pending.get? approvalId with
  | none => (run, .ok false)
  | some entry =>
    if entry.startedAtMs + options.decisionTimeoutMs ≤ moment.nowMs then
      (run.expireApproval options moment approvalId, .ok false)
    else
      let recorded := run.record options moment (decidedEvidence moment approvalId decision)
      match recorded.2 with
      | some failure => (recorded.1, .error failure)
      | none =>
        ((recorded.1.clearPending approvalId).resolve options approvalId (deliveredDecision options moment decision), .ok true)

/-! ## Requests -/

variable (randomUuid : Nat → ApprovalId)

/-- The executor of the promise after the timer is set: the request is published and the lease given up. -/
def publish (approvalId : ApprovalId) (input : ApprovalRequest ToolCall) (run : GateRun ApprovalId ToolCall) :
    GateRun ApprovalId ToolCall :=
  let published := (run.note (.published
    ⟨options.requestId, approvalId, input.turn, input.toolName, input.command, input.reviewPayload⟩)).call
      options moment moment.write
  match published.2 with
  | some failure => (published.1.clearPending approvalId).reject approvalId failure
  | none =>
    if options.hasLease then
      let parked := published.1.call options moment moment.park
      match parked.2 with
      | some failure => (parked.1.clearPending approvalId).reject approvalId failure
      | none => parked.1
    else published.1

/-- The executor of the promise. -/
def hold (approvalId : ApprovalId) (input : ApprovalRequest ToolCall) (run : GateRun ApprovalId ToolCall) :
    GateRun ApprovalId ToolCall :=
  let registered := { run with
    pending := run.pending.set approvalId ⟨input.toolName, moment.nowMs, false⟩
    listeners := run.listeners ++ [approvalId] }
  match run.aborted with
  | some reason => registered.abandon options moment approvalId reason
  | none =>
    { registered with
      pending := registered.pending.set approvalId ⟨input.toolName, moment.nowMs, true⟩
      timers := run.timers ++ [approvalId] }.publish options moment approvalId input

def requestedEvidence (approvalId : ApprovalId) (input : ApprovalRequest ToolCall) (call : ToolCall) (mode : ApprovalMode) :
    RequestedEvidence ApprovalId ToolCall :=
  ⟨approvalId, call, input.toolName, input.command, input.reviewPayload, mode, moment.nowMs,
    moment.nowMs + options.decisionTimeoutMs⟩

/-- `park(input)`, once the identifier is drawn. -/
def park (approvalId : ApprovalId) (input : ApprovalRequest ToolCall) (run : GateRun ApprovalId ToolCall) :
    GateRun ApprovalId ToolCall :=
  if options.hasEvidenceRecorder then
    match input.call with
    | none => run.reject approvalId (.error MISSING_CALL_MESSAGE)
    | some call =>
      match moment.recordRequested with
      | .committed =>
        (run.note (.requestRecorded (requestedEvidence options moment approvalId input call run.currentMode))).hold
          options moment approvalId input
      | .refused failure => run.reject approvalId failure
      | .fenced failure reason => (run.abort options moment reason).reject approvalId failure
  else run.hold options moment approvalId input

/-- `request(input)`. -/
def request (input : ApprovalRequest ToolCall) (run : GateRun ApprovalId ToolCall) : GateRun ApprovalId ToolCall :=
  if options.bypassReadOnlyTools && isApprovalExemptReadOnlyTool input.toolName then run.note (.exempted input.toolName)
  else
    ({ run with
        drawn := run.drawn + 1
        waiting := run.waiting ++ [randomUuid run.drawn] }.note (.requested (randomUuid run.drawn) moment.nowMs)).park
      options moment (randomUuid run.drawn) input

/-- `setMode(mode)`. -/
def setMode (mode : ApprovalMode) (run : GateRun ApprovalId ToolCall) : GateRun ApprovalId ToolCall :=
  { run with currentMode := mode }

/-! ## Steps -/

/-- A timer that is armed fires: it is armed no more, and its approval expires. -/
def timerFires (approvalId : ApprovalId) (run : GateRun ApprovalId ToolCall) : GateRun ApprovalId ToolCall :=
  if approvalId ∈ run.timers then
    { run with timers := run.timers.filter (· ≠ approvalId) }.expireApproval options moment approvalId
  else run

/-- `await lease.resume()` comes to an end: the promise of `request` settles. -/
def leaseResumes (approvalId : ApprovalId) (thrown : Option Failure) (run : GateRun ApprovalId ToolCall) :
    GateRun ApprovalId ToolCall :=
  match run.resuming.lookup approvalId with
  | none => run
  | some decision =>
    { run with resuming := run.resuming.filter fun entry => entry.1 ≠ approvalId }.note
      (.settled approvalId (match thrown with
        | none => .resolved decision
        | some failure => .rejected failure))

end GateRun

/-- What may happen to a gate, in any order and at any time. -/
inductive Operation (ApprovalId ToolCall : Type) where
  | request (input : ApprovalRequest ToolCall) (moment : Moment ApprovalId)
  | submit (approvalId : ApprovalId) (decision : ApprovalDecision) (moment : Moment ApprovalId)
  | timerFires (approvalId : ApprovalId) (moment : Moment ApprovalId)
  | abort (reason : String) (moment : Moment ApprovalId)
  | setMode (mode : ApprovalMode)
  | leaseResumes (approvalId : ApprovalId) (thrown : Option Failure)

def GateRun.step {ApprovalId ToolCall : Type} [DecidableEq ApprovalId] (options : GateOptions) (randomUuid : Nat → ApprovalId)
    (run : GateRun ApprovalId ToolCall) : Operation ApprovalId ToolCall → GateRun ApprovalId ToolCall
  | .request input moment => run.request options moment randomUuid input
  | .submit approvalId decision moment =>
    let submitted := run.submit options moment approvalId decision
    submitted.1.note (.submitted approvalId decision moment.nowMs submitted.2)
  | .timerFires approvalId moment => run.timerFires options moment approvalId
  | .abort reason moment => run.abort options moment reason
  | .setMode mode => run.setMode mode
  | .leaseResumes approvalId thrown => run.leaseResumes approvalId thrown

end SiftKit.RepoSearch.Approvals
