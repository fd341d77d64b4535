import SiftKit.Chat.PlannerMessages

/-! # Planner context

How the messages of a run change: the first state of a context and the splices after it, revisions of
the history by the user, and the events of a journal as far as a context is read from them.
-/

namespace SiftKit.Chat

open SiftKit.Json SiftKit.Failure

/-- A text as it stands in the message of an error. -/
def shownText : JsString → String
  | [] => ""
  | [unit] => String.singleton (Char.ofNat unit.toNat)
  | unit :: next :: rest =>
    if isHighSurrogate unit && isLowSurrogate next then
      String.singleton (Char.ofNat (0x10000 + (unit.toNat - 0xD800) * 0x400 + (next.toNat - 0xDC00))) ++ shownText rest
    else String.singleton (Char.ofNat unit.toNat) ++ shownText (next :: rest)

/-! ## Splices -/

inductive ChatContextSpliceReason where
  | append
  | insert
  | tool_result_replaced
  | trailing_user_replaced
  | thinking_pruned
  | images_pruned
  | compacted
  | interruption_closed
  | history_revised
  deriving DecidableEq

structure ChatContextInit where
  queueMessageIds : Option (List JsString)
  messages : List ChatMessage
  contextRevision : Nat
  turnBoundary : Nat

structure ChatContextSplice where
  compressedMessageIds : Option (List JsString)
  queueMessageIds : Option (List JsString)
  expectedRevision : Nat
  contextRevision : Nat
  startIndex : Nat
  deleteCount : Nat
  inserted : List ChatMessage
  turnBoundary : Nat
  reason : ChatContextSpliceReason
  coalescedToolCallIds : List JsString

def areIds (ids : List JsString) : Bool := ids.all fun id => !id.isEmpty

/-- `ChatContextInitSchema`, in what the types do not say. -/
def ChatContextInit.accepts (init : ChatContextInit) : Bool := init.queueMessageIds.all areIds

/-- `ChatContextSpliceSchema`, in what the types do not say. -/
def ChatContextSplice.accepts (splice : ChatContextSplice) : Bool :=
  splice.compressedMessageIds.all areIds && splice.queueMessageIds.all areIds && areIds splice.coalescedToolCallIds &&
    0 < splice.contextRevision

/-- `array.splice(startIndex, deleteCount, ...inserted)`: what lies beyond the end is the end. -/
def spliceList {Item : Type} (items : List Item) (startIndex deleteCount : Nat) (inserted : List Item) : List Item :=
  items.take startIndex ++ inserted ++ items.drop (startIndex + deleteCount)

theorem length_spliceList {Item : Type} {items : List Item} {startIndex deleteCount : Nat} (inserted : List Item)
    (within : startIndex + deleteCount ≤ items.length) :
    (spliceList items startIndex deleteCount inserted).length = items.length - deleteCount + inserted.length := by
  simp only [spliceList, List.length_append, List.length_take, List.length_drop]
  omega

theorem spliceList_end {Item : Type} (items inserted : List Item) : spliceList items items.length 0 inserted = items ++ inserted := by
  simp [spliceList]

/-- A context: the messages, how often they were amended, and where the current turn starts. -/
structure ContextState where
  messages : List ChatMessage
  contextRevision : Nat
  turnBoundary : Nat
  deriving DecidableEq

namespace ContextState

def splice (state : ContextState) (splice : ChatContextSplice) : ContextState :=
  ⟨spliceList state.messages splice.startIndex splice.deleteCount splice.inserted, splice.contextRevision, splice.turnBoundary⟩

/-- The splice amends this revision. -/
def Amends (state : ContextState) (splice : ChatContextSplice) : Prop :=
  splice.expectedRevision = state.contextRevision ∧ splice.contextRevision = state.contextRevision + 1

/-- The splice stays within the messages, and so does the turn that it starts. -/
def Fits (state : ContextState) (splice : ChatContextSplice) : Prop :=
  splice.startIndex + splice.deleteCount ≤ state.messages.length ∧
    splice.turnBoundary + splice.deleteCount ≤ state.messages.length + splice.inserted.length

/-- The turn starts within the messages. -/
def WellBounded (state : ContextState) : Prop := state.turnBoundary ≤ state.messages.length

theorem wellBounded_splice {state : ContextState} {splice : ChatContextSplice} (fits : state.Fits splice) :
    (state.splice splice).WellBounded := by
  have length := length_spliceList splice.inserted fits.1
  obtain ⟨within, bounded⟩ := fits
  simp only [WellBounded, ContextState.splice, length]
  omega

end ContextState

/-! ## Revisions of the history -/

/-- `ChatHistoryRevision`, as far as a context is concerned: messages deleted, an image removed, or anything else. -/
inductive ChatHistoryRevision where
  | message_deleted (messageIds : List JsString)
  | image_removed (payloadDigest messageId : JsString)
  | other

namespace ContextRevision

/-- A call that is not answered yet, with the index of its message. -/
structure OpenCall where
  id : JsString
  assistantIndex : Nat

/-- What a scan has found: the open calls, and those whose results are deleted, by the index of their message. -/
structure Scan where
  openCalls : List OpenCall
  removedCalls : List (Nat × JsString)

def isDeleted (messageIds : List JsString) (id : Option JsString) : Bool := id.any messageIds.contains

def noDeclaration : Thrown := .error "Deleted tool result has no matching native declaration."

def scanMessage (messageIds : List JsString) (scan : Scan) (entry : ChatMessage × Nat) : Except Thrown Scan :=
  let (message, index) := entry
  let openCalls := scan.openCalls ++ message.declared.map fun call => ⟨call.id, index⟩
  if message.role ≠ .tool then .ok { scan with openCalls := openCalls }
  else if !isDeleted messageIds message.chatMessageId then .ok { scan with openCalls := openCalls.tail }
  else match openCalls with
    | [] => .error noDeclaration
    | call :: rest =>
      if message.toolCallId ≠ some call.id then .error noDeclaration
      else .ok { openCalls := rest, removedCalls := scan.removedCalls ++ [(call.assistantIndex, call.id)] }

/-- `next.content || next.reasoning_content`. -/
def saysSomething (message : ChatMessage) : Bool :=
  (match message.content with
    | some (.text text) => !text.isEmpty
    | some (.parts _) => true
    | none => false) || message.reasoningContent.any fun text => !text.isEmpty

/-- A message without its own deleted text and thinking; nothing of it is left when it declares no calls. -/
def withoutDeleted (messageIds : List JsString) (message : ChatMessage) : Option ChatMessage :=
  let deleted := isDeleted messageIds message.chatMessageId
  if deleted && message.declared.isEmpty then none
  else
    let next := if deleted then { message with content := none, chatMessageId := none } else message
    some (if isDeleted messageIds next.thinkingMessageId then { next with reasoningContent := none, thinkingMessageId := none } else next)

/-- A message without the calls whose results are deleted. -/
def withoutCalls (removedCalls : List (Nat × JsString)) (index : Nat) (message : ChatMessage) : Option ChatMessage :=
  match message.toolCalls with
  | none => some message
  | some calls =>
    let toolCalls := calls.filter fun call => !removedCalls.contains (index, call.id)
    if !toolCalls.isEmpty then some { message with toolCalls := some toolCalls }
    else if saysSomething { message with toolCalls := none } then some { message with toolCalls := none } else none

/-- Both sides of deleted tool exchanges are removed, and the other calls of their batches stay. -/
def deleteMessages (messageIds : List JsString) (messages : List ChatMessage) : Except Thrown (List ChatMessage) := do
  let scan ← messages.zipIdx.foldlM (scanMessage messageIds) ⟨[], []⟩
  return messages.zipIdx.filterMap fun (message, index) =>
    (withoutDeleted messageIds message).bind (withoutCalls scan.removedCalls index)

end ContextRevision

def applyChatContextRevisions (messages : List ChatMessage) (revisions : List ChatHistoryRevision) : Except Thrown (List ChatMessage) :=
  revisions.foldlM (fun retained revision =>
    match revision with
    | .message_deleted messageIds => ContextRevision.deleteMessages messageIds retained
    | _ => .ok retained) messages

/-! ## Deleted images -/

/-- What the session's journals say of its images: the committed revisions, and what each owner was
admitted with, `readOwnerImages`. -/
structure ImageEvidence where
  revisions : List ChatHistoryRevision
  ownerImages : JsString → List (List JsString)
  sha256 : JsString → JsString

namespace ImageEvidence

variable (evidence : ImageEvidence)

/-- The digests and owners of the removed images. -/
def removals : List (JsString × JsString) := evidence.revisions.filterMap fun revision =>
  match revision with
  | .image_removed payloadDigest messageId => some (payloadDigest, messageId)
  | _ => none

/-- The surviving payloads of an owner; the copies of its evidence must agree. -/
def readSurvivingInventory (messageId : JsString) : Except Thrown (List JsString) :=
  match evidence.ownerImages messageId with
  | [] => .error (.error s!"Chat image owner {shownText messageId} has no admitted evidence to sanitize against.")
  | first :: rest =>
    if rest.any fun copy => copy != first then
      .error (.error s!"Chat image owner {shownText messageId} has conflicting admitted evidence.")
    else .ok first

/-- The parts whose images are among the remaining ones, each of which counts once. -/
def keepSurvivingParts (remaining : List JsString) : List InferenceContentPart → List InferenceContentPart
  | [] => []
  | part :: rest =>
    match if part.type = imageType then part.imageUrl else none with
    | none => part :: keepSurvivingParts remaining rest
    | some url =>
      if remaining.contains url then part :: keepSurvivingParts (remaining.erase url) rest else keepSurvivingParts remaining rest

/-- The images of a message, by their URLs. -/
def imageUrls (parts : List InferenceContentPart) : List JsString :=
  (parts.filter fun part => part.type == imageType).filterMap InferenceContentPart.imageUrl

def noOwner : Thrown := .error "A deleted chat image has no attributable display owner in this context write."

def sanitizeMessage (message : ChatMessage) : Except Thrown ChatMessage :=
  match message.content with
  | some (.parts parts) =>
    if (imageUrls parts).isEmpty then .ok message
    else match message.chatMessageId with
      | none =>
        if (imageUrls parts).any fun url => (evidence.removals.map Prod.fst).contains (evidence.sha256 url) then .error noOwner
        else .ok message
      | some messageId =>
        if !(evidence.removals.map Prod.snd).contains messageId then .ok message
        else (evidence.readSurvivingInventory messageId).map fun inventory =>
          { message with content := some (.parts (keepSurvivingParts inventory parts)) }
  | _ => .ok message

end ImageEvidence

def sanitizeChatContextImages (evidence : ImageEvidence) (messages : List ChatMessage) : Except Thrown (List ChatMessage) :=
  if evidence.removals.isEmpty then .ok messages else messages.mapM evidence.sanitizeMessage

theorem length_sanitize {evidence : ImageEvidence} {messages sanitized : List ChatMessage}
    (isSanitized : sanitizeChatContextImages evidence messages = .ok sanitized) : sanitized.length = messages.length := by
  unfold sanitizeChatContextImages at isSanitized
  split at isSanitized
  · cases isSanitized
    rfl
  · exact (mapM_eq_ok.mp isSanitized).length_eq.symm

/-! ## Events -/

/-- Identity of one tool call inside one run: the id that history answers it by, and the one of its display rows. -/
structure ChatToolCallIdentity where
  toolCallId : JsString
  displayToolCallId : JsString
  batchId : JsString
  turn : Nat
  indexInBatch : Nat
  deriving DecidableEq

structure QueuedMessage where
  id : JsString
  content : JsString
  images : List JsString

/-- The message of the user that a queued one becomes. -/
def QueuedMessage.message (queued : QueuedMessage) : ChatMessage :=
  { ChatMessage.plain .user (buildUserContent queued.content queued.images) with chatMessageId := some queued.id }

/-- What a run was started with. -/
structure RunSubmission where
  userMessageId : JsString
  content : JsString
  images : List JsString

def RunSubmission.message (submission : RunSubmission) : ChatMessage :=
  { ChatMessage.plain .user (buildUserContent submission.content submission.images) with chatMessageId := some submission.userMessageId }

/-- The events of a journal, as far as a context is read from them. -/
inductive ChatJournalEvent where
  | run_started (submission : RunSubmission)
  | context_initialized (init : ChatContextInit)
  | context_spliced (splice : ChatContextSplice)
  | tool_proposed (call : ChatToolCallIdentity) (toolName : JsString) (arguments : JsValue)
  | tool_started (call : ChatToolCallIdentity)
  | tool_result (call : ChatToolCallIdentity) (rejected : Bool) (output : JsString)
  | tool_result_finalized (call : ChatToolCallIdentity) (modelVisibleText : JsString)
  | queue_delivered (message : QueuedMessage)
  | stop_requested
  | approval_requested (approvalId : JsString)
  | approval_resolved (approvalId : JsString)
  | question_requested (questionId : JsString)
  | question_resolved (questionId : JsString)
  | run_finished
  | other

/-- An event in its place in the journal of a run. -/
structure ContextEnvelope where
  operationId : JsString
  sequence : Nat
  eventId : JsString
  event : ChatJournalEvent

end SiftKit.Chat
