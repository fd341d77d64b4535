import SiftKit.Chat.PlannerContext
import SiftKit.Foundation.Schema

/-! # The transcript of a run

`TranscriptManager` of `repo-search/engine/transcript-manager.ts`, the one owner of the planner history
of a run: every mutation becomes a splice that is recorded before it is applied.
-/

namespace SiftKit.Chat

open SiftKit.Json SiftKit.Failure

/-! ## The recorder -/

/-- What a transcript asks of the recorder of its run during one call. -/
structure ChatContextRecorder where
  userMessageId : Except Thrown JsString
  messageIdPrefix : JsString
  resolveAssistantMessageId : Nat → JsString
  resolveToolMessageId : JsString → Option JsString
  historyRevision : Nat
  readHistoryRevisions : List ChatHistoryRevision
  images : ImageEvidence
  /-- The append to the journal, which may be refused. -/
  commit : ChatJournalEvent → Except Thrown Unit

namespace ChatContextRecorder

variable (recorder : ChatContextRecorder)

/-- Deleted images are left out of what is committed. -/
def recordContextInitialized (init : ChatContextInit) : Except Thrown ChatContextInit := do
  let messages ← sanitizeChatContextImages recorder.images init.messages
  let committed := { init with messages := messages }
  recorder.commit (.context_initialized committed)
  return committed

def recordContextSpliced (splice : ChatContextSplice) : Except Thrown ChatContextSplice := do
  let inserted ← sanitizeChatContextImages recorder.images splice.inserted
  let committed := { splice with inserted := inserted }
  recorder.commit (.context_spliced committed)
  return committed

end ChatContextRecorder

/-! ## The transcript -/

structure TranscriptManager where
  messages : List ChatMessage
  liveImagePathKeys : List JsString
  contextRevision : Nat
  currentTurnStartIndex : Nat
  forcedFinishCountdownIndex : Option Nat
  modelTurn : Nat
  appliedHistoryRevision : Nat

structure TranscriptOptions where
  systemPromptContent : JsString
  historyMessages : List ChatMessage
  initialUserContent : JsString
  initialUserImages : List JsString
  initialFollowupMessages : List ChatMessage
  initialQueueMessageIds : Option (List JsString)
  liveImagePathKeys : List JsString

def COMPACTION_SUMMARY_MARKER : JsString := utf16 "[CONTEXT COMPACTED — SUMMARY OF PRIOR CONVERSATION]"

/-- What a splice says beside its edit. -/
structure SpliceMetadata where
  queueMessageIds : Option (List JsString)
  compressedMessageIds : Option (List JsString)
  coalescedToolCallIds : List JsString

def noMetadata : SpliceMetadata := ⟨none, none, []⟩

def chatDisplayMessageIds (message : ChatMessage) : List JsString := message.chatMessageId.toList ++ message.thinkingMessageId.toList

def buildUserMessage (content : JsString) (images : List JsString) (imagePathKey : Option JsString) : ChatMessage :=
  { ChatMessage.plain .user (buildUserContent content images) with imagePathKey := imagePathKey }

namespace TranscriptManager

/-- The messages before the current turn. -/
def priorMessages (options : TranscriptOptions) : List ChatMessage :=
  ChatMessage.plain .system (.text options.systemPromptContent) :: options.historyMessages

def initialMessages (userMessageId : JsString) (options : TranscriptOptions) : List ChatMessage :=
  priorMessages options ++
    { buildUserMessage options.initialUserContent options.initialUserImages none with chatMessageId := some userMessageId } ::
      options.initialFollowupMessages

/-- Messages and the part of them before a turn, both revised. -/
def revise (pending : List ChatHistoryRevision) (messages prior : List ChatMessage) :
    Except Thrown (List ChatMessage × List ChatMessage) := do
  let messages ← applyChatContextRevisions messages pending
  let before ← applyChatContextRevisions prior pending
  return (messages, before)

/-- `new TranscriptManager(options)`, with what it recorded. -/
def create (recorder : ChatContextRecorder) (options : TranscriptOptions) : Except Thrown (ChatContextInit × TranscriptManager) := do
  let userMessageId ← recorder.userMessageId
  let (messages, before) ← revise (recorder.readHistoryRevisions.drop recorder.historyRevision) (initialMessages userMessageId options)
    (priorMessages options)
  let init : ChatContextInit := ⟨options.initialQueueMessageIds, messages, 0, before.length⟩
  throwWhen (!init.accepts) .invalid
  let committed ← recorder.recordContextInitialized init
  return (committed, ⟨committed.messages, options.liveImagePathKeys, 0, committed.turnBoundary, none, 1, recorder.readHistoryRevisions.length⟩)

/-- The context that the model reads. -/
def context (manager : TranscriptManager) : ContextState := ⟨manager.messages, manager.contextRevision, manager.currentTurnStartIndex⟩

/-! ### Splices -/

def noDisplayIdentity : Thrown := .error "A recorded tool result requires its display identity."

/-- An appended message with the ids of its display rows. -/
def identify (recorder : ChatContextRecorder) (modelTurn : Nat) (reason : ChatContextSpliceReason) (message : ChatMessage) :
    Except Thrown ChatMessage :=
  match message.toolCallId with
  | some toolCallId =>
    if reason = .append ∧ message.role = .tool ∧ message.chatMessageId.isNone then
      match recorder.resolveToolMessageId toolCallId with
      | none => .error noDisplayIdentity
      | some id => .ok { message with chatMessageId := some id }
    else .ok (named message)
  | none => .ok (named message)
where
  named (message : ChatMessage) : ChatMessage :=
    if reason ≠ .append ∨ message.role ≠ .assistant then message
    else { message with
      chatMessageId := message.chatMessageId.or (some (recorder.resolveAssistantMessageId modelTurn))
      thinkingMessageId := message.thinkingMessageId.or (some (buildChatMessageId recorder.messageIdPrefix (.thinking modelTurn))) }

def amended (manager : TranscriptManager) (committed : ChatContextSplice) : TranscriptManager :=
  { manager with
    messages := spliceList manager.messages committed.startIndex committed.deleteCount committed.inserted
    contextRevision := committed.contextRevision
    currentTurnStartIndex := committed.turnBoundary }

/-- The one path that changes history: the splice is checked, recorded and applied, in this order. -/
def applySplice (recorder : ChatContextRecorder) (manager : TranscriptManager) (startIndex : Int) (deleteCount : Nat)
    (inserted : List ChatMessage) (reason : ChatContextSpliceReason) (turnBoundary : Nat) (metadata : SpliceMetadata) :
    Except Thrown (ChatContextSplice × TranscriptManager) := do
  let identified ← inserted.mapM (identify recorder manager.modelTurn reason)
  let splice : ChatContextSplice := {
    compressedMessageIds := metadata.compressedMessageIds
    queueMessageIds := metadata.queueMessageIds
    expectedRevision := manager.contextRevision
    contextRevision := manager.contextRevision + 1
    startIndex := startIndex.toNat
    deleteCount := deleteCount
    inserted := identified
    turnBoundary := turnBoundary
    reason := reason
    coalescedToolCallIds := metadata.coalescedToolCallIds }
  throwWhen (startIndex < 0 || (SiftKit.Schema.maxSafeInteger : Int) < startIndex || !splice.accepts) .invalid
  let committed ← recorder.recordContextSpliced splice
  return (committed, manager.amended committed)

/-- Re-read guards of images that no message shows any more are released. -/
def releaseDroppedImageGuards (manager : TranscriptManager) : TranscriptManager :=
  let surviving := (manager.messages.filter fun message => 0 < countContentImages message.content).filterMap ChatMessage.imagePathKey
  { manager with liveImagePathKeys := manager.liveImagePathKeys.filter surviving.contains }

/-- What a mutation did: the transcript after it, what it recorded, and what it threw. -/
structure Outcome where
  manager : TranscriptManager
  recorded : List ChatContextSplice
  thrown : Option Thrown

/-- The outcome of a mutation of one splice. -/
def outcomeOf (manager : TranscriptManager) : Except Thrown (ChatContextSplice × TranscriptManager) → Outcome
  | .ok (splice, after) => ⟨after, [splice], none⟩
  | .error failure => ⟨manager, [], some failure⟩

/-! ### Mutations -/

def beginTurn (turn : Nat) (manager : TranscriptManager) : TranscriptManager := { manager with modelTurn := turn }

/-- A compaction summary carries the revision that it was written at. -/
def summarized (recorder : ChatContextRecorder) (manager : TranscriptManager) (message : ChatMessage) : ChatMessage :=
  match message.content with
  | some (.text content) =>
    if message.role = .assistant ∧ COMPACTION_SUMMARY_MARKER.isPrefixOf content then
      { message with chatMessageId := some (buildChatMessageId recorder.messageIdPrefix (.summary (manager.contextRevision + 1))) }
    else message
  | _ => message

def invalidTurnStart (index : Int) (length : Nat) : Thrown :=
  .error s!"TranscriptManager: invalid current turn start index {index} for a {length}-message replacement"

/-- Rebuilds the whole list; without a retained turn the turn starts past its end. -/
def replaceWith (recorder : ChatContextRecorder) (manager : TranscriptManager) (compactedMessages : List ChatMessage)
    (currentTurnStartIndex : Option Int) : Except Thrown (ChatContextSplice × TranscriptManager) := do
  let index := currentTurnStartIndex.getD compactedMessages.length
  throwWhen (currentTurnStartIndex.isSome && (index < 0 || (compactedMessages.length : Int) ≤ index))
    (invalidTurnStart index compactedMessages.length)
  let replacement := compactedMessages.map (summarized recorder manager)
  let retainedIds := replacement.flatMap chatDisplayMessageIds
  let compressedMessageIds := (manager.messages.flatMap chatDisplayMessageIds).filter fun id => !retainedIds.contains id
  let (splice, after) ← applySplice recorder manager 0 manager.messages.length replacement .compacted index.toNat
    { noMetadata with compressedMessageIds := some compressedMessageIds }
  return (splice, releaseDroppedImageGuards { after with forcedFinishCountdownIndex := none })

def append (recorder : ChatContextRecorder) (manager : TranscriptManager) (inserted : List ChatMessage) : Outcome :=
  if inserted.isEmpty then ⟨manager, [], none⟩
  else manager.outcomeOf
    (applySplice recorder manager manager.messages.length 0 inserted .append manager.currentTurnStartIndex noMetadata)

def pushQueuedUser (recorder : ChatContextRecorder) (manager : TranscriptManager) (id content : JsString) (images : List JsString) :
    Except Thrown (ChatContextSplice × TranscriptManager) :=
  applySplice recorder manager manager.messages.length 0 [{ buildUserMessage content images none with chatMessageId := some id }] .append
    manager.currentTurnStartIndex { noMetadata with queueMessageIds := some [id] }

def noImageIdentity : Thrown := .error "A recorded tool image requires its display identity."

def insertUserAfter (recorder : ChatContextRecorder) (manager : TranscriptManager) (index : Int) (content : JsString)
    (images : List JsString) (imagePathKey toolCallId : JsString) : Except Thrown (ChatContextSplice × TranscriptManager) :=
  match recorder.resolveToolMessageId toolCallId with
  | none => .error noImageIdentity
  | some messageId =>
    applySplice recorder manager (index + 1) 0 [{ buildUserMessage content images (some imagePathKey) with chatMessageId := some messageId }]
      .insert manager.currentTurnStartIndex noMetadata

/-- A message that answers a call. -/
def isResultOf (toolCallId : JsString) (message : ChatMessage) : Bool := message.role == .tool && message.toolCallId == some toolCallId

def findToolResultIndex (manager : TranscriptManager) (toolCallId : JsString) : Option Nat :=
  lastIndex? (isResultOf toolCallId) manager.messages

def noToolResult (toolCallId : JsString) : Thrown :=
  .error s!"TranscriptManager: no tool result for call {shownText toolCallId} to replace"

def replaceToolResult (recorder : ChatContextRecorder) (manager : TranscriptManager) (toolCallId content : JsString)
    (coalescedToolCallIds : List JsString) : Except Thrown (ChatContextSplice × TranscriptManager) :=
  match manager.findToolResultIndex toolCallId with
  | none => .error (noToolResult toolCallId)
  | some index => match manager.messages[index]? with
    | none => .error (noToolResult toolCallId)
    | some message =>
      applySplice recorder manager index 1 [{ message with content := some (.text content) }] .tool_result_replaced
        manager.currentTurnStartIndex { noMetadata with coalescedToolCallIds := coalescedToolCallIds }

/-- The one countdown message at the end, rewritten while it is the last one. -/
def upsertForcedFinishCountdown (recorder : ChatContextRecorder) (manager : TranscriptManager) (content : JsString) :
    Except Thrown (ChatContextSplice × TranscriptManager) := do
  let (index, deleteCount) := resolveTrailingUserSlot manager.messages.length manager.forcedFinishCountdownIndex
  let (splice, after) ← applySplice recorder manager index deleteCount [ChatMessage.plain .user (.text content)] .trailing_user_replaced
    manager.currentTurnStartIndex noMetadata
  return (splice, { after with forcedFinishCountdownIndex := some index })

def pruneThinking (recorder : ChatContextRecorder) (manager : TranscriptManager) (maintainPerStepThinking : Bool) : Outcome :=
  match prunePlannerMessages maintainPerStepThinking manager.messages with
  | none => ⟨manager, [], none⟩
  | some pruned => manager.outcomeOf
    (applySplice recorder manager 0 manager.messages.length pruned .thinking_pruned manager.currentTurnStartIndex noMetadata)

def pendingRevisions (recorder : ChatContextRecorder) (manager : TranscriptManager) : List ChatHistoryRevision :=
  recorder.readHistoryRevisions.drop manager.appliedHistoryRevision

/-- The revised list, and the part of it before the current turn. -/
def revised (recorder : ChatContextRecorder) (manager : TranscriptManager) : Except Thrown (List ChatMessage × List ChatMessage) :=
  revise (manager.pendingRevisions recorder) manager.messages (manager.messages.take manager.currentTurnStartIndex)

def reconcileHistory (recorder : ChatContextRecorder) (manager : TranscriptManager) : Outcome :=
  if (manager.pendingRevisions recorder).isEmpty then ⟨manager, [], none⟩
  else manager.outcomeOf do
    let (messages, before) ← manager.revised recorder
    let (splice, after) ← applySplice recorder manager 0 manager.messages.length messages .history_revised before.length noMetadata
    return (splice, releaseDroppedImageGuards { after with appliedHistoryRevision := recorder.readHistoryRevisions.length })

/-- Images age out of the retention window, and the re-read guards they held are released. -/
def pruneImages (recorder : ChatContextRecorder) (manager : TranscriptManager) (retention : Int) : Outcome :=
  let reconciled := manager.reconcileHistory recorder
  if reconciled.thrown.isSome then reconciled
  else match pruneImageMessages retention reconciled.manager.messages with
    | none => reconciled
    | some pruned =>
      match applySplice recorder reconciled.manager 0 reconciled.manager.messages.length pruned.messages .images_pruned
        reconciled.manager.currentTurnStartIndex noMetadata with
      | .error failure => { reconciled with thrown := some failure }
      | .ok (splice, after) => {
          manager := releaseDroppedImageGuards { after with
            liveImagePathKeys := after.liveImagePathKeys.filter fun key => !pruned.droppedPathKeys.contains key }
          recorded := reconciled.recorded ++ [splice]
          thrown := none }

/-- The mutations that callers ask for. -/
inductive Mutation where
  | beginTurn (turn : Nat)
  | replaceWith (compactedMessages : List ChatMessage) (currentTurnStartIndex : Option Int)
  | appendBatchExchange (outcomes : List ToolBatchOutcome) (thinkingText content : JsString)
  | pushAssistant (message : ChatMessage)
  | pushUser (content : JsString) (images : List JsString) (imagePathKey : Option JsString)
  | pushQueuedUser (id content : JsString) (images : List JsString)
  | insertUserAfter (index : Int) (content : JsString) (images : List JsString) (imagePathKey toolCallId : JsString)
  | replaceToolResult (toolCallId content : JsString) (coalescedToolCallIds : List JsString)
  | upsertForcedFinishCountdown (content : JsString)
  | pruneThinking (maintainPerStepThinking : Bool)
  | pruneImages (retention : Int)
  | reconcileHistory

def mutate (recorder : ChatContextRecorder) (manager : TranscriptManager) : Mutation → Outcome
  | .beginTurn turn => ⟨manager.beginTurn turn, [], none⟩
  | .replaceWith compactedMessages currentTurnStartIndex =>
    manager.outcomeOf (replaceWith recorder manager compactedMessages currentTurnStartIndex)
  | .appendBatchExchange outcomes thinkingText content => append recorder manager (buildToolBatchMessages outcomes thinkingText content)
  | .pushAssistant message => append recorder manager [message]
  | .pushUser content images imagePathKey => append recorder manager [buildUserMessage content images imagePathKey]
  | .pushQueuedUser id content images => manager.outcomeOf (pushQueuedUser recorder manager id content images)
  | .insertUserAfter index content images imagePathKey toolCallId =>
    manager.outcomeOf (insertUserAfter recorder manager index content images imagePathKey toolCallId)
  | .replaceToolResult toolCallId content coalescedToolCallIds =>
    manager.outcomeOf (replaceToolResult recorder manager toolCallId content coalescedToolCallIds)
  | .upsertForcedFinishCountdown content => manager.outcomeOf (upsertForcedFinishCountdown recorder manager content)
  | .pruneThinking maintainPerStepThinking => pruneThinking recorder manager maintainPerStepThinking
  | .pruneImages retention => pruneImages recorder manager retention
  | .reconcileHistory => reconcileHistory recorder manager

end TranscriptManager

end SiftKit.Chat
