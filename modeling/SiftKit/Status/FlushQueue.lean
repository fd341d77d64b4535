import SiftKit.Foundation.Runs
import SiftKit.Status.InferenceLogs

/-! # The flush queue of inference runs

`InferenceRunFlushQueue` of `status-server/inference-run-flush-queue.ts` until it is closed, with the timing
of `idle-drain.ts` and a worker as in `inference-run-flush-worker.ts`.  `drainNow` is split where it awaits
the worker: one stretch up to the await, one that resumes when the promise has settled.  A worker takes
its requests in their order; it writes a batch before it answers `ok`, and writes nothing of a batch that
it refuses or fails at.
-/

namespace SiftKit.Status.Flush

/-! ## State -/

/-- `InferenceRunFlushQueueItem`. -/
structure FlushItem (Letter : Type) where
  runId : String
  enqueuedAtMs : Int
  attempts : Nat
  entries : Option (List (LogEntry Letter))

/-- `FlushWorkerRequest`. -/
structure FlushRequest (Letter : Type) where
  id : Nat
  runId : String
  entries : List (LogEntry Letter)

/-- What a worker sends, in the order in which it is received. -/
inductive WorkerEvent where
  | answered (id : Nat) (ok : Bool) (errorMessage : String)
  | error (message : String)
  | exit
  deriving DecidableEq

structure Worker (Letter : Type) where
  number : Nat
  alive : Bool
  inbox : List (FlushRequest Letter)
  outbox : List WorkerEvent

/-- The listeners that a batch has on its worker. -/
structure Listener where
  worker : Nat
  messageId : Nat
  acknowledgementExpired : Bool
  deriving DecidableEq

/-- How the promise of `flushInWorker` settled. -/
inductive FlushOutcome where
  | acknowledged
  | rejected (message : String)
  /-- `FlushAcknowledgementTimeoutError`. -/
  | timedOut
  deriving DecidableEq

/-- A `drainNow` that awaits the worker. -/
structure Drain (Letter : Type) where
  item : FlushItem Letter
  runId : String
  entries : List (LogEntry Letter)
  messageId : Nat
  deadlineMs : Option Int
  outcome : Option FlushOutcome

/-- Why a drain rejects. -/
inductive DrainFailure where
  /-- `Timed out draining inference run flush queue within its shutdown budget before run …`. -/
  | budget (runId : String)
  /-- `Inference run flush acknowledgement not received within budget … for run …`. -/
  | acknowledgement (runId : String)
  deriving DecidableEq

inductive BatchFate where
  | inFlight
  | acknowledged
  | putBack
  | abandoned
  deriving DecidableEq

/-- A batch that left the buffer, whether the worker wrote it, and what became of it: a record for the statements. -/
structure Batch (Letter : Type) where
  id : Nat
  runId : String
  entries : List (LogEntry Letter)
  written : Bool
  fate : BatchFate

/-- A chunk that was buffered: a record for the statements. -/
structure BufferedChunk (Letter : Type) where
  runId : String
  streamKind : InferenceRunStreamKind
  chunkText : List Letter

structure FlushState (Letter : Type) where
  nowMs : Int
  pendingChunks : PendingChunks Letter
  rows : List (LogChunkRow Letter)
  pendingByRunId : String → Option (FlushItem Letter)
  pendingOrder : List String
  scheduled : Bool
  shuttingDown : Bool
  /-- `draining` is that there is one. -/
  drain : Option (Drain Letter)
  runningRunId : Option String
  runningMessageId : Option Nat
  activeModelRequest : Bool
  modelRequestQueueLength : Nat
  lastModelRequestFinishedAtMs : Option Int
  completedCount : Nat
  failedCount : Nat
  drainFailure : Option DrainFailure
  worker : Option (Worker Letter)
  nextWorkerMessageId : Nat
  listeners : List Listener
  nextWorkerNumber : Nat
  buffered : List (BufferedChunk Letter)
  batches : List (Batch Letter)

structure FlushConfig where
  idleDelayMs : Nat
  maxDeferMs : Nat

def PENDING_FLUSH_HIGH_WATER_CHARACTERS : Nat := 8 * 1024 * 1024

/-! ## Timing -/

def deferredDrainWaitMs (idleDelayMs : Nat) : Int := max 1 (min 1000 (if idleDelayMs = 0 then 1000 else idleDelayMs))

def elapsedIdleWaitMs (idleDelayMs : Nat) (nowMs : Int) (lastFinishedAtMs : Option Int) (fallbackStartedAtMs : Int) : Int :=
  max 0 (idleDelayMs - (nowMs - lastFinishedAtMs.getD fallbackStartedAtMs))

section

variable {Letter : Type}

namespace FlushState

variable (state : FlushState Letter)

def getIdleWaitMs (config : FlushConfig) (fallbackStartedAtMs : Int) (pendingCharacters : Nat) : Int :=
  let deferLeftMs : Int := config.maxDeferMs - (state.nowMs - fallbackStartedAtMs)
  if state.shuttingDown || decide (PENDING_FLUSH_HIGH_WATER_CHARACTERS ≤ pendingCharacters) || decide (deferLeftMs ≤ 0) then 0
  else if state.activeModelRequest || decide (0 < state.modelRequestQueueLength) then
    min (deferredDrainWaitMs config.idleDelayMs) deferLeftMs
  else
    min (elapsedIdleWaitMs config.idleDelayMs state.nowMs state.lastModelRequestFinishedAtMs fallbackStartedAtMs) deferLeftMs

def scheduleDrain : FlushState Letter := { state with scheduled := true }

/-! ## Buffering and queueing -/

/-- `bufferInferenceRunLogChunk`, which throws without a run id. -/
def bufferChunk (runId : String) (streamKind : InferenceRunStreamKind) (chunkText : List Letter) : FlushState Letter :=
  let runId := Schema.trim runId
  if runId.isEmpty then state
  else
    { state with
      pendingChunks := bufferInferenceRunLogChunk state.pendingChunks runId streamKind chunkText
      buffered := state.buffered ++ [{ runId, streamKind, chunkText }] }

def enqueue (runId : String) : Bool × FlushState Letter :=
  let runId := Schema.trim runId
  if runId.isEmpty then (false, state)
  else if (state.pendingByRunId runId).isSome then (false, state)
  else if (getPendingLogChunkStats state.pendingChunks runId).totalCharacters = 0 then (false, state)
  else
    let queued :=
      { state with
        pendingByRunId := Function.update state.pendingByRunId runId
          (some { runId, enqueuedAtMs := state.nowMs, attempts := 0, entries := none })
        pendingOrder := state.pendingOrder ++ [runId] }
    (true, if state.drain.isNone then queued.scheduleDrain else queued)

/-- A drain is scheduled when one is due and none is running. -/
def kickDrain : FlushState Letter :=
  if !state.pendingOrder.isEmpty && state.drain.isNone then state.scheduleDrain else state

def setModelRequestState (active : Bool) (queueLength : Nat) (lastFinishedAtMs : Option Int) : FlushState Letter :=
  { state with
    activeModelRequest := active
    modelRequestQueueLength := queueLength
    lastModelRequestFinishedAtMs :=
      (lastFinishedAtMs.map fun finished => max 0 finished).or state.lastModelRequestFinishedAtMs }.kickDrain

def markModelRequestFinished (finishedAtMs : Int) : FlushState Letter :=
  { state with lastModelRequestFinishedAtMs := some (max 0 finishedAtMs) }.kickDrain

/-! ## Draining -/

def setFate (id : Nat) (fate : BatchFate) : FlushState Letter :=
  { state with batches := Tables.updateWhere (fun batch => batch.id == id) (fun batch => { batch with fate }) state.batches }

/-- The drain rejects; `ownDrainFailure` keeps the first failure and reschedules what is left. -/
def failDrain (failure : DrainFailure) : FlushState Letter :=
  let owned := { state with drain := none, drainFailure := some (state.drainFailure.getD failure) }
  if state.pendingOrder.isEmpty then owned else owned.scheduleDrain

/-- A flush that failed: its batch goes back to the buffer, and its run to the end of the queue. -/
def retry (drain : Drain Letter) : FlushState Letter :=
  { state with
    drain := none
    runningRunId := none
    runningMessageId := none
    pendingChunks := restoreInferenceRunPendingLogChunks state.pendingChunks drain.runId drain.entries
    failedCount := state.failedCount + 1
    pendingByRunId := Function.update state.pendingByRunId drain.runId
      (some { drain.item with attempts := drain.item.attempts + 1, entries := none })
    pendingOrder := state.pendingOrder ++ [drain.runId]
    scheduled := true }.setFate drain.messageId .putBack

/-- The batch gets its message id. -/
def takeBatch (runId : String) (entries : List (LogEntry Letter)) : FlushState Letter :=
  { state with
    runningRunId := some runId
    runningMessageId := some state.nextWorkerMessageId
    nextWorkerMessageId := state.nextWorkerMessageId + 1
    batches := state.batches ++ [{ id := state.nextWorkerMessageId, runId, entries, written := false, fate := .inFlight }] }

/-- `getWorker`, when it starts none or starting succeeds. -/
def withWorker : Worker Letter × FlushState Letter :=
  match state.worker with
  | some worker => (worker, state)
  | none =>
    ({ number := state.nextWorkerNumber, alive := true, inbox := [], outbox := [] },
      { state with nextWorkerNumber := state.nextWorkerNumber + 1 })

/-- `postMessage`: a worker that is gone receives nothing. -/
def Worker.post (worker : Worker Letter) (request : FlushRequest Letter) : Worker Letter :=
  if worker.alive then { worker with inbox := worker.inbox ++ [request] } else worker

/-- `flushInWorker` of a batch with its message id: its listeners are attached and it is posted. -/
def postBatch (drain : Drain Letter) : FlushState Letter :=
  let (worker, started) := state.withWorker
  { started with
    listeners := started.listeners ++ [{ worker := worker.number, messageId := drain.messageId, acknowledgementExpired := false }]
    worker := some (Worker.post worker { id := drain.messageId, runId := drain.runId, entries := drain.entries })
    drain := some drain }

/-- `flushInWorker` up to the await of `drainNow`; a worker that cannot be started rejects at once. -/
def flushBatch (runId : String) (item : FlushItem Letter) (entries : List (LogEntry Letter)) (deadlineMs : Option Int)
    (startFails : Bool) : FlushState Letter :=
  let drain : Drain Letter :=
    { item, runId, entries, messageId := state.nextWorkerMessageId, deadlineMs, outcome := none }
  let taken := state.takeBatch runId entries
  if startFails && state.worker.isNone then taken.retry drain else taken.postBatch drain

/-- The item of the queue's first run, and its text. -/
def takeItem (runId : String) (rest : List String) (item : FlushItem Letter) :
    List (LogEntry Letter) × FlushState Letter :=
  let dequeued := { state with pendingOrder := rest, pendingByRunId := Function.update state.pendingByRunId runId none }
  match item.entries with
  | some entries => (entries, dequeued)
  | none =>
    let (entries, pendingChunks) := consumeInferenceRunPendingLogChunks state.pendingChunks runId
    (entries, { dequeued with pendingChunks })

/-- The loop of `drainNow`, over what is left of the queue, up to its await or its end. -/
def drainLoop (config : FlushConfig) (deadlineMs : Option Int) (startFails : Bool) :
    List String → FlushState Letter → FlushState Letter
  | [], state => { state with pendingOrder := [], drain := none }
  | nextRunId :: rest, state =>
    if deadlineMs.any fun deadline => decide (deadline ≤ state.nowMs) then
      { state with pendingOrder := nextRunId :: rest }.failDrain (.budget nextRunId)
    else
      match state.pendingByRunId nextRunId with
      | none => drainLoop config deadlineMs startFails rest state
      | some item =>
        let pendingStats := getPendingLogChunkStats state.pendingChunks nextRunId
        if pendingStats.totalCharacters = 0 then
          drainLoop config deadlineMs startFails rest
            { state with pendingByRunId := Function.update state.pendingByRunId nextRunId none }
        else if 0 < state.getIdleWaitMs config item.enqueuedAtMs pendingStats.totalCharacters then
          { state with pendingOrder := nextRunId :: rest, drain := none, scheduled := true }
        else
          let (entries, taken) := state.takeItem nextRunId rest item
          if entries.isEmpty then drainLoop config deadlineMs startFails rest taken
          else taken.flushBatch nextRunId item entries deadlineMs startFails

/-- `drainNow` up to its first await. -/
def drainNow (config : FlushConfig) (deadlineMs : Option Int) (startFails : Bool) : FlushState Letter :=
  if state.drain.isSome then state
  else drainLoop config deadlineMs startFails state.pendingOrder { state with scheduled := false }

/-- `drainForShutdown` up to its first await. -/
def drainForShutdown (config : FlushConfig) (timeoutMs : Nat) (startFails : Bool) : FlushState Letter :=
  { state with shuttingDown := true, scheduled := false }.drainNow config (some (state.nowMs + timeoutMs)) startFails

/-- `drainNow` from its await on, once the promise has settled. -/
def resume (config : FlushConfig) (startFails : Bool) : FlushState Letter :=
  match state.drain with
  | none => state
  | some drain =>
    match drain.outcome with
    | none => state
    | some .acknowledged =>
      drainLoop config drain.deadlineMs startFails state.pendingOrder
        { state with runningRunId := none, runningMessageId := none, completedCount := state.completedCount + 1 }
    | some (.rejected _) => state.retry drain
    | some .timedOut => state.failDrain (.acknowledgement drain.runId)

/-! ## Settling -/

/-- A promise settles once. -/
def settle (messageId : Nat) (outcome : FlushOutcome) : FlushState Letter :=
  match state.drain with
  | none => state
  | some drain =>
    if drain.messageId = messageId ∧ drain.outcome = none then
      let settled := { state with drain := some { drain with outcome := some outcome } }
      match outcome with
      | .acknowledged => settled.setFate messageId .acknowledged
      | .timedOut => settled.setFate messageId .abandoned
      | .rejected _ => settled
    else state

def releaseAbandonedRun (messageId : Nat) : FlushState Letter :=
  if state.runningMessageId = some messageId then { state with runningMessageId := none, runningRunId := none } else state

/-- A listener that has detached itself hears of its batch. -/
def hear (outcome : FlushOutcome) (listener : Listener) : FlushState Letter :=
  if listener.acknowledgementExpired then state.releaseAbandonedRun listener.messageId
  else state.settle listener.messageId outcome

/-- The budget of the acknowledgement expires. -/
def ackTimeout : FlushState Letter :=
  match state.drain with
  | none => state
  | some drain =>
    if drain.deadlineMs.isSome ∧ drain.outcome = none then
      { state with
        listeners := Tables.updateWhere (fun listener => listener.messageId == drain.messageId)
          (fun listener => { listener with acknowledgementExpired := true }) state.listeners }.settle drain.messageId .timedOut
    else state

/-- The listeners that an event reaches, detached, and each told. -/
def tell (reached : Listener → Bool) (outcome : FlushOutcome) : FlushState Letter :=
  (state.listeners.filter reached).foldl (fun state listener => state.hear outcome listener)
    { state with listeners := state.listeners.filter fun listener => !reached listener }

def answerOutcome (ok : Bool) (errorMessage : String) : FlushOutcome :=
  if ok then .acknowledged
  else .rejected (if errorMessage.isEmpty then "inference run flush worker failed" else errorMessage)

/-- The next event of the worker is received. -/
def deliver : FlushState Letter :=
  match state.worker with
  | none => state
  | some worker =>
    match worker.outbox with
    | [] => state
    | event :: later =>
      let received := { state with worker := some { worker with outbox := later } }
      match event with
      | .answered id ok errorMessage =>
        received.tell (fun listener => listener.worker == worker.number && listener.messageId == id)
          (answerOutcome ok errorMessage)
      | .error message => received.tell (fun listener => listener.worker == worker.number) (.rejected message)
      | .exit => { received with worker := none }

/-! ## The worker -/

/-- The worker writes its next batch in one transaction, and answers. -/
def workerCommits : FlushState Letter :=
  match state.worker with
  | none => state
  | some worker =>
    match worker.inbox with
    | [] => state
    | request :: later =>
      { state with
        rows := appendInferenceRunLogChunks state.rows request.runId request.entries
        worker := some { worker with inbox := later, outbox := worker.outbox ++ [.answered request.id true ""] }
        batches := Tables.updateWhere (fun batch => batch.id == request.id)
          (fun batch => { batch with written := true }) state.batches }

/-- The worker's transaction fails, and it answers so. -/
def workerRefuses (errorMessage : String) : FlushState Letter :=
  match state.worker with
  | none => state
  | some worker =>
    match worker.inbox with
    | [] => state
    | request :: later =>
      { state with
        worker := some { worker with
          inbox := later, outbox := worker.outbox ++ [.answered request.id false errorMessage] } }

/-- The worker fails, and its thread ends. -/
def workerCrashes (message : String) : FlushState Letter :=
  match state.worker with
  | none => state
  | some worker =>
    if worker.alive then
      { state with
        worker := some { worker with
          alive := false, inbox := [], outbox := worker.outbox ++ [.error message, .exit] } }
    else state

end FlushState

/-! ## Calls -/

/-- One synchronous stretch of the process, or a move of the worker. -/
inductive FlushCall (Letter : Type) where
  | bufferChunk (runId : String) (streamKind : InferenceRunStreamKind) (chunkText : List Letter)
  | enqueue (runId : String)
  | setModelRequestState (active : Bool) (queueLength : Nat) (lastFinishedAtMs : Option Int)
  | markModelRequestFinished (finishedAtMs : Int)
  /-- Called by a timer, or by anyone. -/
  | drainNow (deadlineMs : Option Int) (startFails : Bool)
  | drainForShutdown (timeoutMs : Nat) (startFails : Bool)
  | resume (startFails : Bool)
  | ackTimeout
  | deliver
  | workerCommits
  | workerRefuses (errorMessage : String)
  | workerCrashes (message : String)

/-- A call, and the milliseconds since the one before it. -/
structure FlushEvent (Letter : Type) where
  elapsed : Nat
  call : FlushCall Letter

namespace FlushState

def advance (state : FlushState Letter) (elapsed : Nat) : FlushState Letter := { state with nowMs := state.nowMs + elapsed }

def answerCall (config : FlushConfig) (state : FlushState Letter) : FlushCall Letter → FlushState Letter
  | .bufferChunk runId streamKind chunkText => state.bufferChunk runId streamKind chunkText
  | .enqueue runId => (state.enqueue runId).2
  | .setModelRequestState active queueLength lastFinishedAtMs =>
    state.setModelRequestState active queueLength lastFinishedAtMs
  | .markModelRequestFinished finishedAtMs => state.markModelRequestFinished finishedAtMs
  | .drainNow deadlineMs startFails => state.drainNow config deadlineMs startFails
  | .drainForShutdown timeoutMs startFails => state.drainForShutdown config timeoutMs startFails
  | .resume startFails => state.resume config startFails
  | .ackTimeout => state.ackTimeout
  | .deliver => state.deliver
  | .workerCommits => state.workerCommits
  | .workerRefuses errorMessage => state.workerRefuses errorMessage
  | .workerCrashes message => state.workerCrashes message

/-- A queue that nothing was buffered for. -/
def opened (nowMs : Int) : FlushState Letter where
  nowMs := nowMs
  pendingChunks := fun _ => none
  rows := []
  pendingByRunId := fun _ => none
  pendingOrder := []
  scheduled := false
  shuttingDown := false
  drain := none
  runningRunId := none
  runningMessageId := none
  activeModelRequest := false
  modelRequestQueueLength := 0
  lastModelRequestFinishedAtMs := none
  completedCount := 0
  failedCount := 0
  drainFailure := none
  worker := none
  nextWorkerMessageId := 1
  listeners := []
  nextWorkerNumber := 0
  buffered := []
  batches := []

end FlushState

def step (config : FlushConfig) (state : FlushState Letter) (event : FlushEvent Letter) : FlushState Letter :=
  (state.advance event.elapsed).answerCall config event.call

end

end SiftKit.Status.Flush
