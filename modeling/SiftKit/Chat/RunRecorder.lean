import SiftKit.Chat.JournalEvents
import SiftKit.Chat.JournalReader

/-! # The recorder of a run

`ChatRunRecorder` of `status-server/chat-run-recorder.ts`, with the part of it that lives in memory and
the journal that it writes.  What an operation throws leaves the memory as it was at that point, while
its transaction is rolled back.
-/

namespace SiftKit.Chat

open SiftKit.Json SiftKit.Failure SiftKit.OrderedMap

/-! ## Memory -/

/-- What a recorder learns from the events that it writes. -/
structure RunMemory where
  admittedModelPreset : Option JsValue
  dispatched : Bool
  answerMessageId : Option JsString
  narratedTurns : List Nat
  toolMessageIds : OrderedMap JsString JsString
  userStop : Bool

namespace RunMemory

def fresh : RunMemory := ⟨none, false, none, [], OrderedMap.empty, false⟩

def textOf? : JsValue → Option JsString
  | .string text => some text
  | _ => none

/-- `message.role === 'assistant' && !message.tool_calls`: the calls of a message are an array, or absent. -/
def isAnswer (message : JsValue) : Bool :=
  (message.get (utf16 "role")).textOf == utf16 "assistant" && (message.get (utf16 "tool_calls")).isUndefined

def lastAnswer (messages : List JsValue) : Option JsValue := messages.reverse.find? isAnswer

def answerId (message : JsValue) : Option JsString := textOf? (message.get (utf16 "chatMessageId"))

/-- `set.add(turn)`. -/
def addTurn (turns : List Nat) (turn : Nat) : List Nat := if turns.contains turn then turns else turns ++ [turn]

/-- `buildChatMessageId(prefix, { kind: 'tool', toolCallId })`. -/
def toolMessageId (operationId : String) (displayToolCallId : JsString) : JsString :=
  utf16 s!"stopped-{operationId}-tool-" ++ displayToolCallId

def isNarration (event : JsValue) : Bool := isKind "narration" (event.get (utf16 "event"))

def narratedTurn (event : JsValue) : Nat := (((event.get (utf16 "event")).get (utf16 "delta")).get (utf16 "turn")).naturalOf

def initialMessages (event : JsValue) : List JsValue :=
  (event.get (utf16 "messages")).itemsOf.drop (event.get (utf16 "turnBoundary")).naturalOf

def callText (event : JsValue) (name : String) : JsString := ((event.get (utf16 "call")).get (utf16 name)).textOf

/-- `observeCommitted(event)`. -/
def observeCommitted (operationId : String) (memory : RunMemory) (event : JsValue) : RunMemory :=
  if isKind "model_admitted" event then { memory with admittedModelPreset := some (event.get (utf16 "modelPreset")) }
  else if isKind "context_initialized" event then
    { memory with dispatched := true, answerMessageId := (lastAnswer (initialMessages event)).bind answerId }
  else if isKind "context_spliced" event then
    match lastAnswer (event.get (utf16 "inserted")).itemsOf with
    | some assistant => { memory with answerMessageId := answerId assistant }
    | none => memory
  else if isKind "display" event && isNarration event then
    { memory with narratedTurns := addTurn memory.narratedTurns (narratedTurn event) }
  else if isKind "tool_proposed" event then
    { memory with
      toolMessageIds := memory.toolMessageIds.set (callText event "toolCallId")
        (toolMessageId operationId (callText event "displayToolCallId")) }
  else if isKind "stop_requested" event then { memory with userStop := true }
  else memory

end RunMemory

structure RecorderIdentity where
  operationId : String
  ownerEpoch : String
  sessionId : String

structure ChatRunRecorder extends RecorderIdentity where
  latestSequence : Nat
  /-- Why the run may write no more, once its storage failed. -/
  storageAbort : Option String
  deleted : Bool
  memory : RunMemory

/-- What an operation meets: the clock, the writes that the database cannot take, by the ids of their
events, and what the rest of its transaction comes to, the commit included. -/
structure Moment where
  now : Int
  nowUtc : String
  storage : String → Option String
  rest : Except Thrown Unit

/-- What an operation leaves behind. -/
structure Recorded where
  recorder : ChatRunRecorder
  store : ChatJournalStore
  outcome : Except Thrown Unit

namespace Recorded

def fail (recorder : ChatRunRecorder) (store : ChatJournalStore) (failure : Thrown) : Recorded := ⟨recorder, store, .error failure⟩

def done (recorder : ChatRunRecorder) (store : ChatJournalStore) : Recorded := ⟨recorder, store, .ok ()⟩

def andThen (recorded : Recorded) (next : ChatRunRecorder → ChatJournalStore → Recorded) : Recorded :=
  match recorded.outcome with
  | .ok _ => next recorded.recorder recorded.store
  | .error _ => recorded

/-- What the database is left with, and the sequence that the recorder goes on from: both as they were
when the transaction throws. -/
def transaction (latestSequence : Nat) (store : ChatJournalStore) (recorded : Recorded) : Recorded :=
  match recorded.outcome with
  | .ok _ => recorded
  | .error failure => ⟨{ recorded.recorder with latestSequence := latestSequence }, store, .error failure⟩

end Recorded

namespace ChatRunRecorder

variable (format : EventFormat) (moment : Moment)

/-- `new ChatRunRecorder(...)`. -/
def create (operationId ownerEpoch sessionId : String) : ChatRunRecorder :=
  ⟨⟨operationId, ownerEpoch, sessionId⟩, 0, none, false, .fresh⟩

/-! ## Writing -/

def abortForStorageFailure (recorder : ChatRunRecorder) (message : String) : ChatRunRecorder :=
  { recorder with storageAbort := recorder.storageAbort.or (some message) }

def markSessionDeleted (recorder : ChatRunRecorder) : ChatRunRecorder :=
  abortForStorageFailure { recorder with deleted := true } "Chat session was deleted."

/-- The id of an event that has no identity of its own. -/
def nextEventId (recorder : ChatRunRecorder) : String := s!"{recorder.operationId}:{recorder.latestSequence + 1}"

def deletedSession : Thrown := .error "Chat session was deleted; its execution cannot write further evidence."

def appended (recorder : ChatRunRecorder) (envelope : ChatJournalEnvelope) : ChatRunRecorder :=
  { recorder with
    latestSequence := max recorder.latestSequence envelope.sequence
    memory := recorder.memory.observeCommitted recorder.operationId envelope.event }

/-- Why an event may not be written: the end of a run may be, whatever its storage did. -/
def refusal (recorder : ChatRunRecorder) (kind : String) : Option Thrown :=
  if recorder.deleted then some deletedSession
  else if kind = "run_finished" then none
  else recorder.storageAbort.map .error

def write (recorder : ChatRunRecorder) (event : JsValue) (occurredAtUtc eventId : String) : ChatJournalAppend where
  operationId := recorder.operationId
  ownerEpoch := recorder.ownerEpoch
  expectedSequence := recorder.latestSequence
  eventId := eventId
  occurredAtUtc := occurredAtUtc
  event := event

/-- `commit(event, occurredAtUtc, eventId)`. -/
def commit (kind : String) (fields : EvidenceFields) (occurredAtUtc eventId : String) (recorder : ChatRunRecorder)
    (store : ChatJournalStore) : Recorded :=
  match recorder.refusal kind with
  | some reason => .fail recorder store reason
  | none =>
    match moment.storage eventId with
    | some message => .fail (recorder.abortForStorageFailure message) store (.error message)
    | none =>
      match store.append format.journal (recorder.write (fields.event kind) occurredAtUtc eventId) moment.now with
      | .ok (envelope, after) => .done (recorder.appended envelope) after
      | .error failure => .fail recorder store failure

/-- `commit(event)`. -/
def commitNext (kind : String) (fields : EvidenceFields) (recorder : ChatRunRecorder) (store : ChatJournalStore) : Recorded :=
  recorder.commit format moment kind fields moment.nowUtc recorder.nextEventId store

/-- The rest of a transaction. -/
def settleRest (recorder : ChatRunRecorder) (store : ChatJournalStore) : Recorded := ⟨recorder, store, moment.rest⟩

/-! ## Evidence that is a transaction of its own -/

def recordDisplay (fields : EvidenceFields) := commitNext format moment "display" fields

def recordPresentation (fields : EvidenceFields) := commitNext format moment "presentation" fields

def recordToolProposed (fields : EvidenceFields) := commitNext format moment "tool_proposed" fields

def recordToolResult (fields : EvidenceFields) := commitNext format moment "tool_result" fields

def recordToolResultFinalized (fields : EvidenceFields) := commitNext format moment "tool_result_finalized" fields

/-- `recordApprovalReviewed`, at the time that its evidence names. -/
def recordApprovalReviewed (fields : EvidenceFields) (reviewedAtUtc : String) (recorder : ChatRunRecorder) :=
  commit format moment "approval_reviewed" fields reviewedAtUtc recorder.nextEventId recorder

def recordApprovalRequested (fields : EvidenceFields) (approvalId requestedAtUtc : String) :=
  commit format moment "approval_requested" fields requestedAtUtc s!"approval_requested:{approvalId}"

def recordApprovalResolved (fields : EvidenceFields) (approvalId decidedAtUtc : String) :=
  commit format moment "approval_resolved" fields decidedAtUtc s!"approval_resolved:{approvalId}"

def recordQuestionRequested (fields : EvidenceFields) (questionId requestedAtUtc : String) :=
  commit format moment "question_requested" fields requestedAtUtc s!"question_requested:{questionId}"

def recordQuestionResolved (fields : EvidenceFields) (questionId decidedAtUtc : String) :=
  commit format moment "question_resolved" fields decidedAtUtc s!"question_resolved:{questionId}"

/-- `throwIfAborted(this.abortSignal)`: the run's storage failed, or its user stopped it. -/
def aborted (recorder : ChatRunRecorder) : Option Thrown :=
  match recorder.storageAbort with
  | some message => some (.error message)
  | none => if recorder.memory.userStop then some (.error "Stopped by user.") else none

def recordToolStarted (fields : EvidenceFields) (recorder : ChatRunRecorder) (store : ChatJournalStore) : Recorded :=
  match recorder.aborted with
  | some failure => .fail recorder store failure
  | none => recorder.commitNext format moment "tool_started" fields store

/-! ## Context -/

/-- `commitContext` around what `sanitizeChatContextImages` left of the evidence, or its failure. -/
def commitContext (sanitized : Except Thrown EvidenceFields) (write : EvidenceFields → ChatRunRecorder → ChatJournalStore → Recorded)
    (recorder : ChatRunRecorder) (store : ChatJournalStore) : Recorded :=
  Recorded.transaction recorder.latestSequence store
    (match sanitized with
      | .error failure => .fail recorder store failure
      | .ok fields => (write fields recorder store).andThen (settleRest moment))

def recordContextInitialized (sanitized : Except Thrown EvidenceFields) :=
  commitContext moment sanitized fun fields => commitNext format moment "context_initialized" fields

/-- `this.store.advanceContextRevision(...)`. -/
def advanceContextRevision (contextRevision : Nat) (recorder : ChatRunRecorder) (store : ChatJournalStore) : Recorded :=
  match store.advanceContextRevision format.journal ⟨recorder.operationId, contextRevision⟩ with
  | .ok after => .done recorder after
  | .error failure => .fail recorder store failure

def contextRevisionOf (fields : EvidenceFields) : Nat := (property fields.properties (utf16 "contextRevision")).naturalOf

def recordContextSpliced (sanitized : Except Thrown EvidenceFields) :=
  commitContext moment sanitized fun fields recorder store =>
    (recorder.commitNext format moment "context_spliced" fields store).andThen
      (advanceContextRevision format (contextRevisionOf fields))

/-! ## The model, the engine and the queue -/

structure AdmittedModel where
  modelPreset : JsValue
  proper : Proper modelPreset
  contextWindowTokens : Nat

def AdmittedModel.fields (admitted : AdmittedModel) : EvidenceFields :=
  .literal [("modelPreset", admitted.modelPreset), ("contextWindowTokens", .ofNat admitted.contextWindowTokens)] (by simp) (by
    intro entry member
    simp only [List.mem_cons, List.not_mem_nil, or_false] at member
    obtain rfl | rfl := member
    · exact admitted.proper
    · exact .number _)

/-- `recordModelAdmitted`; `recordChatSessionModel` is in the rest of its transaction. -/
def recordModelAdmitted (admitted : AdmittedModel) (recorder : ChatRunRecorder) (store : ChatJournalStore) : Recorded :=
  Recorded.transaction recorder.latestSequence store
    ((recorder.commitNext format moment "model_admitted" admitted.fields store).andThen (settleRest moment))

structure ChatRunEngineBinding where
  requestId : String
  repoAgentSessionId : Option String

def ChatRunEngineBinding.fields (binding : ChatRunEngineBinding) : EvidenceFields :=
  .literal [("requestId", .string (utf16 binding.requestId)),
      ("repoAgentSessionId", .ofText? (binding.repoAgentSessionId.map utf16))] (by simp) (by
    intro entry member
    simp only [List.mem_cons, List.not_mem_nil, or_false] at member
    obtain rfl | rfl := member
    · exact .string _
    · cases binding.repoAgentSessionId with
      | none => exact .null
      | some id => exact .string _)

/-- The run is bound, and the event says so unless the same request was bound before. -/
def bindOnce (binding : ChatRunEngineBinding) (recorder : ChatRunRecorder) (store : ChatJournalStore) : Recorded :=
  match store.readRun format.journal recorder.operationId with
  | .error failure => .fail recorder store failure
  | .ok before =>
    match store.bindEngine format.journal
        ⟨recorder.operationId, recorder.ownerEpoch, binding.requestId, binding.repoAgentSessionId⟩ moment.now with
    | .error failure => .fail recorder store failure
    | .ok (_, bound) =>
      if before.bind (fun run => run.requestId) = some binding.requestId then .done recorder bound
      else recorder.commitNext format moment "engine_bound" binding.fields bound

def bindEngine (binding : ChatRunEngineBinding) (recorder : ChatRunRecorder) (store : ChatJournalStore) : Recorded :=
  Recorded.transaction recorder.latestSequence store ((recorder.bindOnce format moment binding store).andThen (settleRest moment))

/-- `for (const message of messages) this.commit({ kind: 'queue_delivered', ... })`. -/
def deliverAll : List EvidenceFields → ChatRunRecorder → ChatJournalStore → Recorded
  | [], recorder, store => .done recorder store
  | message :: rest, recorder, store =>
    (recorder.commitNext format moment "queue_delivered" message store).andThen (deliverAll rest)

structure QueueClaim where
  sessionId : String
  requestId : String
  /-- The events of what the queue handed out, or why it handed out nothing. -/
  claimed : Except Thrown (List EvidenceFields)

def foreignDelivery : Thrown := .error "Queue delivery does not belong to this chat run."

def otherEngine : Thrown := .error "Queue delivery has a different engine identity."

/-- The claim belongs to this run and its engine. -/
def checkClaim (claim : QueueClaim) (recorder : ChatRunRecorder) (store : ChatJournalStore) : Except Thrown (List EvidenceFields) := do
  let run ← store.readRun format.journal recorder.operationId
  throwWhen (run.all fun run => run.sessionId != claim.sessionId) foreignDelivery
  throwWhen (run.any fun run => run.requestId.any fun id => id != claim.requestId) otherEngine
  claim.claimed

def notAdmitted : Thrown := .error "Chat run has not admitted its model yet."

def claimQueuedMessages (claim : QueueClaim) (recorder : ChatRunRecorder) (store : ChatJournalStore) : Recorded :=
  if recorder.memory.admittedModelPreset.isNone then .fail recorder store notAdmitted
  else Recorded.transaction recorder.latestSequence store
    (match recorder.checkClaim format claim store with
      | .error failure => .fail recorder store failure
      | .ok messages => (deliverAll format moment messages recorder store).andThen (settleRest moment))

/-! ## The end -/

def deletionOwns : Thrown := .error "Chat session deletion owns this operation; no terminal write is permitted."

/-- A run whose storage failed ends as a storage failure. -/
def settled (recorder : ChatRunRecorder) (outcome : ChatRunOutcome) : ChatRunOutcome :=
  match recorder.storageAbort with
  | some message =>
    { outcome with terminalCause := .storage_failure, detail := some (utf16 message), recoveryStatus := "recovery_needed" }
  | none => outcome

/-- `this.store.readRun(this.operationId)?.terminalCause === null`. -/
def isOpen : Option ChatRun → Bool
  | some run => run.terminalCause.isNone
  | none => false

/-- `this.store.finish(...)`. -/
def closeRow (cause : ChatRunTerminalCause) (recorder : ChatRunRecorder) (store : ChatJournalStore) : Recorded :=
  match store.finish format.journal ⟨recorder.operationId, recorder.ownerEpoch, cause, moment.nowUtc⟩ moment.now with
  | .ok (_, after) => .done recorder after
  | .error failure => .fail recorder store failure

def finishOnce (outcome : ChatRunOutcome) (recorder : ChatRunRecorder) (store : ChatJournalStore) : Recorded :=
  match store.readRun format.journal recorder.operationId with
  | .error failure => .fail recorder store failure
  | .ok run =>
    Recorded.andThen
      (if isOpen run then recorder.commitNext format moment "run_finished" (runFinishedFields outcome moment.nowUtc) store
        else .done recorder store)
      (closeRow format moment outcome.terminalCause)

def finish (outcome : ChatRunOutcome) (recorder : ChatRunRecorder) (store : ChatJournalStore) : Recorded :=
  if recorder.deleted then .fail recorder store deletionOwns
  else Recorded.transaction recorder.latestSequence store
    ((recorder.finishOnce format moment (recorder.settled outcome) store).andThen (settleRest moment))

/-! ## Stops -/

def stopFields : EvidenceFields :=
  .literal [("requestedAtUtc", .string (utf16 moment.nowUtc))] (by simp) (by
    intro entry member
    rw [List.mem_singleton.mp member]
    exact .string _)

def missingRun (recorder : ChatRunRecorder) : Thrown := .error s!"Chat run {recorder.operationId} is missing."

def requestUserStop (recorder : ChatRunRecorder) (store : ChatJournalStore) : Recorded :=
  if recorder.memory.userStop then .done recorder store
  else match store.readRun format.journal recorder.operationId with
    | .error failure => .fail recorder store failure
    | .ok none => .fail recorder store recorder.missingRun
    | .ok (some run) =>
      if run.terminalCause.isSome then .done recorder store
      else recorder.commitNext format moment "stop_requested" (stopFields moment) store

def notUndispatched : Thrown := .error "Only an undispatched submission can be cancelled."

def missingSubmission : Thrown := .error "Chat execution is missing its accepted submission."

/-- `this.userMessageId`: of the event that the run started with. -/
def userMessageId (recorder : ChatRunRecorder) (store : ChatJournalStore) : Except Thrown JsString := do
  throwWhen (!format.strings.isUuid recorder.operationId) .invalid
  match (store.eventsAfter recorder.operationId 0).head? with
  | none => throw missingSubmission
  | some row =>
    let first ← toEnvelope format.journal row
    throwWhen (!isKind "run_started" first.event) missingSubmission
    return (first.event.get (utf16 "userMessageId")).textOf

def cancelFields (userMessageId : JsString) : EvidenceFields :=
  .literal [("userMessageId", .string userMessageId), ("reason", .string (utf16 "client_disconnected_before_dispatch"))]
    (by simp) (by
      intro entry member
      simp only [List.mem_cons, List.not_mem_nil, or_false] at member
      obtain rfl | rfl := member <;> exact .string _)

/-- The run has not reached an engine: the message that started it. -/
def undispatched (recorder : ChatRunRecorder) (store : ChatJournalStore) : Except Thrown JsString := do
  let run ← store.readRun format.journal recorder.operationId
  throwWhen (run.all (fun run => run.requestId.isSome) || recorder.memory.dispatched) notUndispatched
  recorder.userMessageId format store

def cancelledOutcome : ChatRunOutcome :=
  ⟨.user_stop, some (utf16 "Client disconnected before dispatch."), .null, .null, "ok"⟩

/-- The event and the end of the run are two transactions. -/
def cancelUndispatchedSubmission (recorder : ChatRunRecorder) (store : ChatJournalStore) : Recorded :=
  match recorder.undispatched format store with
  | .error failure => .fail recorder store failure
  | .ok userMessageId =>
    (recorder.commitNext format moment "submission_cancelled" (cancelFields userMessageId) store).andThen
      (finish format moment cancelledOutcome)

/-! ## The beginning -/

/-- The input of `begin`, besides the receipt of a submission. -/
structure Start where
  operationId : String
  ownerEpoch : String
  sessionId : String
  operationKind : ChatSessionOperationKind
  userMessageId : JsString
  content : JsString
  images : JsValue
  imageMeta : JsValue
  settings : JsValue
  proper : Proper images ∧ Proper imageMeta ∧ Proper settings
  retainedHistoryRevision : Nat
  startedAtUtc : String

def operationKindName : ChatSessionOperationKind → String
  | .message => "message"
  | .plan => "plan"
  | .repo_search => "repo-search"
  | .repo_agent => "repo-agent"
  | .condense => "condense"

def Start.fields (start : Start) (runOrder : Nat) : EvidenceFields :=
  .literal [("sessionId", .string (utf16 start.sessionId)),
      ("operationKind", .string (utf16 (operationKindName start.operationKind))), ("runOrder", .ofNat runOrder),
      ("userMessageId", .string start.userMessageId), ("content", .string start.content), ("images", start.images),
      ("imageMeta", start.imageMeta), ("settings", start.settings),
      ("retainedHistoryRevision", .ofNat start.retainedHistoryRevision)] (by simp) (by
    intro entry member
    simp only [List.mem_cons, List.not_mem_nil, or_false] at member
    obtain ⟨images, imageMeta, settings⟩ := start.proper
    obtain rfl | rfl | rfl | rfl | rfl | rfl | rfl | rfl | rfl := member
    · exact .string _
    · exact .string _
    · exact .number _
    · exact .string _
    · exact .string _
    · exact images
    · exact imageMeta
    · exact settings
    · exact .number _)

def Start.run (start : Start) : ChatRunStart where
  operationId := start.operationId
  sessionId := start.sessionId
  recordKind := .execution
  operationKind := some start.operationKind
  ownerEpoch := start.ownerEpoch
  settings := some start.settings
  provenance := none
  createdAtUtc := start.startedAtUtc

/-- `ChatRunRecorder.begin`; the receipt of the submission is stored in the rest of the transaction. -/
def begin (start : Start) (store : ChatJournalStore) : Except Thrown (ChatRunRecorder × ChatJournalStore) := do
  let (run, begun) ← store.begin format.journal start.run
  let recorder := create start.operationId start.ownerEpoch start.sessionId
  let recorded := recorder.commit format moment "run_started" (start.fields run.runOrder) start.startedAtUtc recorder.nextEventId begun
  recorded.outcome
  moment.rest
  return (recorded.recorder, recorded.store)

def notOwner : Thrown := .error "Cannot resume a chat recorder owned by another epoch."

def notExecution : Thrown := .error "Only an execution run with admitted settings can be resumed."

/-- The memory of a recorder that saw some events. -/
def RunMemory.replay (operationId : String) (memory : RunMemory) (envelopes : List ChatJournalEnvelope) : RunMemory :=
  envelopes.foldl (fun memory envelope => memory.observeCommitted operationId envelope.event) memory

/-- `recorder.store.readAll(operationId)`, within one transaction. -/
def readAll (store : ChatJournalStore) (operationId : String) : Except Thrown (List ChatJournalEnvelope) := do
  let run ← store.requireRun format.journal operationId
  let reading := ChatJournalStore.readThrough format.journal (fun _ => store) operationId 0 run.latestSequence
  let _ ← reading.outcome
  return reading.yielded

/-- `ChatRunRecorder.resume`. -/
def resume (store : ChatJournalStore) (operationId ownerEpoch : String) : Except Thrown ChatRunRecorder := do
  let found ← store.readRun format.journal operationId
  let run ← found.elim (.error notOwner) .ok
  throwWhen (run.ownerEpoch != ownerEpoch) notOwner
  throwWhen run.settings.isNone notExecution
  let envelopes ← readAll format store operationId
  let recorder := create operationId ownerEpoch run.sessionId
  return { recorder with
    latestSequence := run.latestSequence
    memory := RunMemory.replay operationId recorder.memory envelopes }

end ChatRunRecorder

/-! ## Operations -/

open ChatRunRecorder

/-- An operation of a recorder, with what it is given. -/
inductive RecorderCall where
  | recordDisplay (fields : EvidenceFields)
  | recordPresentation (fields : EvidenceFields)
  | recordToolProposed (fields : EvidenceFields)
  | recordToolStarted (fields : EvidenceFields)
  | recordToolResult (fields : EvidenceFields)
  | recordToolResultFinalized (fields : EvidenceFields)
  | recordApprovalReviewed (fields : EvidenceFields) (reviewedAtUtc : String)
  | recordApprovalRequested (fields : EvidenceFields) (approvalId requestedAtUtc : String)
  | recordApprovalResolved (fields : EvidenceFields) (approvalId decidedAtUtc : String)
  | recordQuestionRequested (fields : EvidenceFields) (questionId requestedAtUtc : String)
  | recordQuestionResolved (fields : EvidenceFields) (questionId decidedAtUtc : String)
  | recordContextInitialized (sanitized : Except Thrown EvidenceFields)
  | recordContextSpliced (sanitized : Except Thrown EvidenceFields)
  | recordModelAdmitted (admitted : AdmittedModel)
  | bindEngine (binding : ChatRunEngineBinding)
  | claimQueuedMessages (claim : QueueClaim)
  | requestUserStop
  | cancelUndispatchedSubmission
  | finish (outcome : ChatRunOutcome)
  | abortForStorageFailure (message : String)
  | markSessionDeleted

/-- What an operation leaves behind. -/
def RecorderCall.perform (format : EventFormat) (moment : Moment) (call : RecorderCall) (recorder : ChatRunRecorder)
    (store : ChatJournalStore) : Recorded :=
  match call with
  | .recordDisplay fields => recorder.recordDisplay format moment fields store
  | .recordPresentation fields => recorder.recordPresentation format moment fields store
  | .recordToolProposed fields => recorder.recordToolProposed format moment fields store
  | .recordToolStarted fields => recorder.recordToolStarted format moment fields store
  | .recordToolResult fields => recorder.recordToolResult format moment fields store
  | .recordToolResultFinalized fields => recorder.recordToolResultFinalized format moment fields store
  | .recordApprovalReviewed fields atUtc => recorder.recordApprovalReviewed format moment fields atUtc store
  | .recordApprovalRequested fields id atUtc => recorder.recordApprovalRequested format moment fields id atUtc store
  | .recordApprovalResolved fields id atUtc => recorder.recordApprovalResolved format moment fields id atUtc store
  | .recordQuestionRequested fields id atUtc => recorder.recordQuestionRequested format moment fields id atUtc store
  | .recordQuestionResolved fields id atUtc => recorder.recordQuestionResolved format moment fields id atUtc store
  | .recordContextInitialized sanitized => recorder.recordContextInitialized format moment sanitized store
  | .recordContextSpliced sanitized => recorder.recordContextSpliced format moment sanitized store
  | .recordModelAdmitted admitted => recorder.recordModelAdmitted format moment admitted store
  | .bindEngine binding => recorder.bindEngine format moment binding store
  | .claimQueuedMessages claim => recorder.claimQueuedMessages format moment claim store
  | .requestUserStop => recorder.requestUserStop format moment store
  | .cancelUndispatchedSubmission => recorder.cancelUndispatchedSubmission format moment store
  | .finish outcome => recorder.finish format moment outcome store
  | .abortForStorageFailure message => .done (recorder.abortForStorageFailure message) store
  | .markSessionDeleted => .done recorder.markSessionDeleted store

end SiftKit.Chat
