import SiftKit.Chat.Contracts
import SiftKit.Chat.PlannerContext
import SiftKit.Foundation.OrderedMap

/-! # Replaying a context

`ChatContextReplay` of `status-server/chat-context-replay.ts`: it folds the events of one run into the
planner history that the run was working from.  What the user saw of an unfinished answer is not part
of a context and is left out.
-/

namespace SiftKit.Chat

open SiftKit.Json SiftKit.Failure SiftKit.OrderedMap

/-! ## Issues -/

inductive ChatRecoveryIssueCode where
  | sequence_gap
  | conflicting_event
  | context_gap
  deriving DecidableEq

structure Anchor where
  eventId : Option JsString
  sequence : Option Nat

structure ChatRecoveryIssue where
  code : ChatRecoveryIssueCode
  operationId : JsString
  eventId : Option JsString
  sequence : Option Nat
  detail : JsString

def issue (operationId : JsString) (code : ChatRecoveryIssueCode) (detail : JsString) (anchor : Anchor) : ChatRecoveryIssue :=
  ⟨code, operationId, anchor.eventId, anchor.sequence, detail.take CHAT_RECOVERY_ISSUE_DETAIL_MAX_CHARS⟩

inductive ChatToolExecutionState where
  | rejected
  | completed
  | uncertain
  | not_started
  deriving DecidableEq

inductive ChatRecoveryStatus where
  | ok
  | recovery_needed
  | recovery_failed
  deriving DecidableEq

structure ChatRecoveredContext where
  status : ChatRecoveryStatus
  messages : List ChatMessage
  contextRevision : Nat
  turnBoundary : Nat
  toolExecutions : List (JsString × ChatToolExecutionState)
  issues : List ChatRecoveryIssue

def failure (recoveryIssue : ChatRecoveryIssue) : ChatRecoveredContext := ⟨.recovery_failed, [], 0, 0, [], [recoveryIssue]⟩

/-! ## Tool calls -/

/-- Where a proposed call got to, from the evidence alone. -/
structure ToolCallRecord where
  call : ChatToolCallIdentity
  toolName : JsString
  started : Bool
  completed : Bool
  rejected : Bool
  represented : Bool
  recoveryArguments : Option JsValue
  output : Option JsString
  finalizedText : Option JsString

namespace ToolCallRecord

/-- `new ToolCallRecord(...)`. -/
def create (call : ChatToolCallIdentity) (toolName : JsString) (commandArguments : JsValue) : ToolCallRecord :=
  ⟨call, toolName, false, false, false, false, some commandArguments, none, none⟩

def executionState (record : ToolCallRecord) : ChatToolExecutionState :=
  if record.rejected then .rejected else if record.completed then .completed
  else if record.started then .uncertain else .not_started

def argumentsDropped (record : ToolCallRecord) : Thrown :=
  .error s!"Tool call {shownText record.call.displayToolCallId} no longer retains its arguments."

def commandArguments (record : ToolCallRecord) : Except Thrown JsValue := record.recoveryArguments.elim (.error record.argumentsDropped) .ok

def start (record : ToolCallRecord) : ToolCallRecord := { record with started := true }

def recordOutput (output : JsString) (rejected : Bool) (record : ToolCallRecord) : ToolCallRecord :=
  { record with
    completed := true
    rejected := rejected
    output := if record.represented then record.output else some output }

def recordFinalized (modelVisibleText : JsString) (record : ToolCallRecord) : ToolCallRecord :=
  if record.represented then record else { record with finalizedText := some modelVisibleText }

def markRepresented (record : ToolCallRecord) : ToolCallRecord :=
  { record with represented := true, recoveryArguments := none, output := none, finalizedText := none }

/-- What the model reads of a call that has no result. -/
def interruptionText (record : ToolCallRecord) : JsString :=
  utf16 "[interrupted] " ++ record.toolName ++
    if record.started then
      utf16 (" started but the server stopped before its result was recorded." ++
        " Outcome uncertain: verify the repository state before retrying.")
    else utf16 " was never started. No work was performed; it is safe to retry."

/-- The text that the model reads: the finalized one, or else the result. -/
def modelVisibleText (record : ToolCallRecord) : JsString := (record.finalizedText.or record.output).getD record.interruptionText

end ToolCallRecord

/-! ## The fold -/

structure ChatContextReplay where
  operationId : Option JsString
  firstAnchor : Anchor
  expectedSequence : Nat
  failed : Option ChatRecoveryIssue
  messages : Option (List ChatMessage)
  contextRevision : Nat
  turnBoundary : Nat
  /-- How many messages the recorded context holds. -/
  rawContextLength : Nat
  toolCalls : OrderedMap JsString ToolCallRecord
  batches : OrderedMap JsString (List JsString)
  /-- Every call that was ever written into history. -/
  declaredCallIds : List JsString
  pendingQueue : OrderedMap JsString QueuedMessage

namespace ChatContextReplay

/-- `new ChatContextReplay()`. -/
def create : ChatContextReplay := ⟨none, ⟨none, none⟩, 1, none, none, 0, 0, 0, empty, empty, [], empty⟩

variable (operationId : JsString) (anchor : Anchor)

def fail (code : ChatRecoveryIssueCode) (detail : JsString) (replay : ChatContextReplay) : ChatContextReplay :=
  { replay with failed := some (issue operationId code detail anchor) }

/-! ### Calls that history answers -/

/-- The last proposal of a native call id. -/
def latestCall (replay : ChatContextReplay) (toolCallId : JsString) : Option ToolCallRecord :=
  replay.toolCalls.values.reverse.find? fun record => record.call.toolCallId == toolCallId

/-- The call is answered by history. -/
def represent (replay : ChatContextReplay) (displayToolCallId : JsString) : ChatContextReplay :=
  { replay with
    declaredCallIds := displayToolCallId :: replay.declaredCallIds
    toolCalls := replay.toolCalls.update displayToolCallId ToolCallRecord.markRepresented }

/-- The calls that messages declare, as the last proposals of their ids. -/
def declaredCalls (replay : ChatContextReplay) (messages : List ChatMessage) : List JsString :=
  (messages.flatMap ChatMessage.declared).filterMap fun call =>
    (replay.latestCall call.id).map fun record => record.call.displayToolCallId

def collectDeclaredCallIds (messages : List ChatMessage) (replay : ChatContextReplay) : ChatContextReplay :=
  (replay.declaredCalls messages).foldl represent replay

/-! ### Context -/

/-- Deliveries that a context event has taken in. -/
def incorporate (queueMessageIds : Option (List JsString)) (replay : ChatContextReplay) : ChatContextReplay :=
  { replay with pendingQueue := (queueMessageIds.getD []).foldl OrderedMap.delete replay.pendingQueue }

def initializeContext (init : ChatContextInit) (replay : ChatContextReplay) : ChatContextReplay :=
  if replay.messages.isSome then replay.fail operationId anchor .context_gap (utf16 "context initialized twice")
  else if init.contextRevision ≠ 0 ∨ init.messages.length < init.turnBoundary then
    replay.fail operationId anchor .context_gap (utf16 "invalid initial context revision or turn boundary")
  else
    { replay with
        messages := some init.messages
        rawContextLength := init.messages.length
        contextRevision := init.contextRevision
        turnBoundary := init.turnBoundary }
      |>.collectDeclaredCallIds (init.messages.drop init.turnBoundary)

/-- The replaced message is a tool result, and the one in its place is a result of the same call. -/
def replacesResult (splice : ChatContextSplice) (messages : List ChatMessage) : Bool :=
  splice.reason == .tool_result_replaced && splice.deleteCount == 1 && splice.inserted.length == 1 &&
    match messages[splice.startIndex]?, splice.inserted.head? with
    | some replaced, some inserted => replaced.role == .tool && inserted.role == .tool && replaced.toolCallId == inserted.toolCallId
    | _, _ => false

/-- Each id names a proposal with a committed rejection, once. -/
def coalescedViolation (replay : ChatContextReplay) (seen : List JsString) : List JsString → Option JsString
  | [] => none
  | id :: rest =>
    if !((replay.toolCalls.get? id).any fun record => record.rejected) then
      some (utf16 "coalesced tool call " ++ id ++ utf16 " has no committed rejected result")
    else if replay.declaredCallIds.contains id || seen.contains id then
      some (utf16 "coalesced tool call " ++ id ++ utf16 " is already represented")
    else replay.coalescedViolation (id :: seen) rest

def validateCoalescedCalls (splice : ChatContextSplice) (messages : List ChatMessage) (replay : ChatContextReplay) : Option JsString :=
  if splice.coalescedToolCallIds.isEmpty then none
  else if !replacesResult splice messages then some (utf16 "coalesced tool calls require replacing exactly one existing tool result")
  else replay.coalescedViolation [] splice.coalescedToolCallIds

/-- The part of what a splice inserts that belongs to the current turn. -/
def currentTurn (splice : ChatContextSplice) : List ChatMessage := splice.inserted.drop (splice.turnBoundary - splice.startIndex)

/-- What there is against a splice. -/
def spliceConflict (splice : ChatContextSplice) (messages : List ChatMessage) (replay : ChatContextReplay) :
    Option (ChatRecoveryIssueCode × JsString) :=
  if splice.expectedRevision ≠ replay.contextRevision then
    some (.context_gap, utf16 s!"splice expected revision {splice.expectedRevision} but replay is at {replay.contextRevision}")
  else if splice.contextRevision ≠ replay.contextRevision + 1 ∨
      messages.length + splice.inserted.length < splice.turnBoundary + splice.deleteCount then
    some (.context_gap, utf16 "invalid next context revision or turn boundary")
  else if messages.length < splice.startIndex + splice.deleteCount then
    some (.context_gap, utf16 s!"splice at {splice.startIndex}+{splice.deleteCount} exceeds {messages.length} messages")
  else (replay.validateCoalescedCalls splice messages).map fun conflict => (.conflicting_event, conflict)

/-- The calls that a splice answers: those it declares in the current turn, and those it coalesces. -/
def representSplice (splice : ChatContextSplice) (replay : ChatContextReplay) : ChatContextReplay :=
  splice.coalescedToolCallIds.foldl represent (replay.collectDeclaredCallIds (currentTurn splice))

def applySplice (splice : ChatContextSplice) (replay : ChatContextReplay) : ChatContextReplay :=
  match replay.messages with
  | none => replay.fail operationId anchor .context_gap (utf16 "splice before any initial context")
  | some messages => match replay.spliceConflict splice messages with
    | some (code, detail) => replay.fail operationId anchor code detail
    | none =>
      { replay with
          messages := some (spliceList messages splice.startIndex splice.deleteCount splice.inserted)
          rawContextLength := replay.rawContextLength + splice.inserted.length - splice.deleteCount
          contextRevision := splice.contextRevision
          turnBoundary := splice.turnBoundary }
        |>.representSplice splice

/-! ### Tool evidence -/

def propose (call : ChatToolCallIdentity) (toolName : JsString) (arguments : JsValue) (replay : ChatContextReplay) : ChatContextReplay :=
  let batch := (replay.batches.get? call.batchId).getD []
  if replay.toolCalls.has call.displayToolCallId || call.indexInBatch != batch.length then
    replay.fail operationId anchor .conflicting_event (utf16 "tool proposal duplicates an identity or leaves a batch gap")
  else { replay with
    toolCalls := replay.toolCalls.set call.displayToolCallId (.create call toolName arguments)
    batches := replay.batches.set call.batchId (batch ++ [call.displayToolCallId]) }

/-- The record of a call, changed unless there is something against it. -/
def withRecord (call : ChatToolCallIdentity) (refuse : ToolCallRecord → Option (ChatRecoveryIssueCode × JsString))
    (change : ToolCallRecord → ToolCallRecord) (replay : ChatContextReplay) : ChatContextReplay :=
  match replay.toolCalls.get? call.displayToolCallId with
  | none => replay.fail operationId anchor .context_gap (utf16 "tool evidence has no proposal")
  | some record =>
    if record.call.toolCallId ≠ call.toolCallId ∨ record.call.batchId ≠ call.batchId ∨ record.call.turn ≠ call.turn ∨
        record.call.indexInBatch ≠ call.indexInBatch then
      replay.fail operationId anchor .conflicting_event (utf16 "tool evidence disagrees with its proposed identity")
    else match refuse record with
      | some (code, detail) => replay.fail operationId anchor code detail
      | none => { replay with toolCalls := replay.toolCalls.update call.displayToolCallId change }

def recordToolEvidence (event : ChatJournalEvent) (replay : ChatContextReplay) : ChatContextReplay :=
  match event with
  | .tool_proposed call toolName arguments => replay.propose operationId anchor call toolName arguments
  | .tool_started call => replay.withRecord operationId anchor call
      (fun record => if record.started || record.completed then
        some (.conflicting_event, utf16 "tool start follows prior execution evidence") else none)
      ToolCallRecord.start
  | .tool_result call rejected output => replay.withRecord operationId anchor call
      (fun record => if record.completed then some (.conflicting_event, utf16 "tool has more than one committed result") else none)
      (ToolCallRecord.recordOutput output rejected)
  | .tool_result_finalized call modelVisibleText => replay.withRecord operationId anchor call
      (fun record => if record.completed then none else some (.context_gap, utf16 "tool finalization has no full result"))
      (ToolCallRecord.recordFinalized modelVisibleText)
  | _ => replay

/-! ### Events -/

def applyEvent (event : ChatJournalEvent) (replay : ChatContextReplay) : ChatContextReplay :=
  match event with
  | .queue_delivered message => { replay with pendingQueue := replay.pendingQueue.set message.id message }
  | .context_initialized init => (replay.incorporate init.queueMessageIds).initializeContext operationId anchor init
  | .context_spliced splice => (replay.incorporate splice.queueMessageIds).applySplice operationId anchor splice
  | evidence => replay.recordToolEvidence operationId anchor evidence

end ChatContextReplay

namespace ChatContextReplay

/-- The replay names the operation of the first event that it reads. -/
def named (envelope : ContextEnvelope) (replay : ChatContextReplay) : ChatContextReplay :=
  { replay with
    operationId := some (replay.operationId.getD envelope.operationId)
    firstAnchor := if replay.operationId.isNone then ⟨some envelope.eventId, some envelope.sequence⟩ else replay.firstAnchor }

/-- The replay has read one more event. -/
def advanced (envelope : ContextEnvelope) (replay : ChatContextReplay) : ChatContextReplay :=
  { replay.named envelope with expectedSequence := replay.expectedSequence + 1 }

/-- `apply(envelope)`. -/
def apply (replay : ChatContextReplay) (envelope : ContextEnvelope) : ChatContextReplay :=
  if replay.failed.isSome then replay
  else
    let anchor : Anchor := ⟨some envelope.eventId, some envelope.sequence⟩
    let operationId := replay.operationId.getD envelope.operationId
    if envelope.operationId ≠ operationId then
      (replay.named envelope).fail operationId anchor .context_gap (utf16 "journal events name different operations")
    else if envelope.sequence ≠ replay.expectedSequence then
      (replay.named envelope).fail operationId anchor .sequence_gap
        (utf16 s!"expected sequence {replay.expectedSequence} but read {envelope.sequence}")
    else applyEvent operationId anchor envelope.event (replay.advanced envelope)

/-! ## The end -/

/-- The calls of a batch that history does not answer. -/
def openRecords (replay : ChatContextReplay) (batch : List JsString) : List ToolCallRecord :=
  (batch.filterMap replay.toolCalls.get?).filter fun record => !replay.declaredCallIds.contains record.call.displayToolCallId

/-- What a closed call says of itself in the message of its batch. -/
def recoveredOutcome (record : ToolCallRecord) : Except Thrown ToolBatchOutcome :=
  record.commandArguments.map fun arguments => ⟨⟨record.toolName, arguments⟩, record.call.toolCallId, record.modelVisibleText⟩

def closedResult (operationId : JsString) (record : ToolCallRecord) : ChatMessage :=
  { buildToolResultMessage record.call.toolCallId record.modelVisibleText with
    chatMessageId := some (buildChatMessageId (buildChatRunMessageIdPrefix operationId) (.tool record.call.displayToolCallId)) }

def closeBatch (operationId : JsString) (records : List ToolCallRecord) : Except Thrown (List ChatMessage) :=
  if records.isEmpty then .ok []
  else (records.mapM recoveredOutcome).map fun outcomes =>
    buildAssistantToolCallMessage outcomes [] [] :: records.map (closedResult operationId)

/-- `closeInterruptedBatches`: the messages that it adds. -/
def closeInterruptedBatches (replay : ChatContextReplay) (operationId : JsString) : Except Thrown (List ChatMessage) :=
  (replay.batches.values.mapM fun batch => closeBatch operationId (replay.openRecords batch)).map List.flatten

def finish (replay : ChatContextReplay) : Except Thrown ChatRecoveredContext :=
  match replay.failed, replay.operationId, replay.messages with
  | some recoveryIssue, _, _ => .ok (failure recoveryIssue)
  | none, none, _ => .ok ⟨.ok, [], 0, 0, [], []⟩
  | none, some operationId, none =>
    .ok (failure (issue operationId .context_gap (utf16 "no initial context was recorded") replay.firstAnchor))
  | none, some operationId, some messages => do
    let closed ← replay.closeInterruptedBatches operationId
    let all := messages ++ closed ++ replay.pendingQueue.values.map QueuedMessage.message
    match findPlannerContextViolation all with
    | some violation => return failure (issue operationId .context_gap violation ⟨none, none⟩)
    | none => return {
        status := if !closed.isEmpty || 0 < replay.pendingQueue.size then .recovery_needed else .ok
        messages := all
        contextRevision := replay.contextRevision
        turnBoundary := replay.turnBoundary
        toolExecutions := replay.toolCalls.values.map fun record => (record.call.toolCallId, record.executionState)
        issues := [] }

/-- The state after some events. -/
def replayed (envelopes : List ContextEnvelope) : ChatContextReplay := envelopes.foldl apply create

end ChatContextReplay

/-- `replayChatContext(events)`. -/
def replayChatContext (envelopes : List ContextEnvelope) : Except Thrown ChatRecoveredContext := (ChatContextReplay.replayed envelopes).finish

end SiftKit.Chat
