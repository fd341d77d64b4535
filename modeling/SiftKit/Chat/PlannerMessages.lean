import SiftKit.Foundation.Failure
import SiftKit.Json.Validation

/-! # Planner messages

The messages of `repo-search/planner-chat-message.ts`, what builds and rewrites them, and when a list
of them is one that a provider takes.
-/

namespace SiftKit.Chat

open SiftKit.Json SiftKit.Json.Schema SiftKit.Failure

/-! ## Messages -/

inductive InferenceChatRole where
  | system
  | user
  | assistant
  | tool
  deriving DecidableEq

def InferenceChatRole.name : InferenceChatRole → String
  | .system => "system"
  | .user => "user"
  | .assistant => "assistant"
  | .tool => "tool"

/-- A part of a message: prose, or the URL of an image. -/
structure InferenceContentPart where
  type : JsString
  text : Option JsString
  imageUrl : Option JsString
  deriving DecidableEq

inductive MessageContent where
  | text (text : JsString)
  | parts (parts : List InferenceContentPart)
  deriving DecidableEq

structure PlannerToolCall where
  id : JsString
  type : JsString
  name : JsString
  arguments : JsString
  deriving DecidableEq

structure ChatMessage where
  role : InferenceChatRole
  content : Option MessageContent
  imagePathKey : Option JsString
  chatMessageId : Option JsString
  thinkingMessageId : Option JsString
  reasoningContent : Option JsString
  toolCalls : Option (List PlannerToolCall)
  toolCallId : Option JsString
  deriving DecidableEq

namespace ChatMessage

/-- A message that says nothing but its content. -/
def plain (role : InferenceChatRole) (content : MessageContent) : ChatMessage :=
  ⟨role, some content, none, none, none, none, none, none⟩

/-- The tool calls of a message, `message.tool_calls ?? []`. -/
def declared (message : ChatMessage) : List PlannerToolCall := message.toolCalls.getD []

end ChatMessage

/-! ## Content -/

def textType : JsString := utf16 "text"

def imageType : JsString := utf16 "image_url"

def textPart (text : JsString) : InferenceContentPart := ⟨textType, some text, none⟩

def imagePart (url : JsString) : InferenceContentPart := ⟨imageType, none, some url⟩

def buildUserContent (text : JsString) (imageUris : List JsString) : MessageContent :=
  if imageUris.isEmpty then .text text
  else .parts ((if text.isEmpty then [] else [textPart text]) ++ imageUris.map imagePart)

/-- `texts.join(' ')`. -/
def joinTexts : List JsString → JsString
  | [] => []
  | [text] => text
  | text :: rest => text ++ utf16 " " ++ joinTexts rest

def extractContentText : Option MessageContent → JsString
  | some (.text text) => text
  | some (.parts parts) => joinTexts ((parts.filter fun part => part.type == textType).map fun part => part.text.getD [])
  | none => []

def contentParts : Option MessageContent → List InferenceContentPart
  | some (.parts parts) => parts
  | _ => []

def countContentImages (content : Option MessageContent) : Nat :=
  ((contentParts content).filter fun part => part.type == imageType).length

/-! ## Message ids -/

def buildChatRunMessageIdPrefix (operationId : JsString) : JsString := utf16 "stopped-" ++ operationId

inductive ChatMessageIdentity where
  | thinking (turn : Nat)
  | tool (toolCallId : JsString)
  | summary (revision : Nat)

/-- `buildChatMessageId`, of the identities that planner messages carry. -/
def buildChatMessageId (messageIdPrefix : JsString) : ChatMessageIdentity → JsString
  | .thinking turn => messageIdPrefix ++ utf16 s!"-thinking-{turn}"
  | .tool toolCallId => messageIdPrefix ++ utf16 "-tool-" ++ toolCallId
  | .summary revision => messageIdPrefix ++ utf16 s!"-summary-{revision}"

/-! ## Tool batches -/

structure ToolTranscriptAction where
  toolName : JsString
  args : JsValue

structure ToolBatchOutcome where
  action : ToolTranscriptAction
  toolCallId : JsString
  toolContent : JsString

def ToolBatchOutcome.call (outcome : ToolBatchOutcome) : PlannerToolCall :=
  ⟨outcome.toolCallId, utf16 "function", outcome.action.toolName, stringify outcome.action.args⟩

def buildAssistantToolCallMessage (outcomes : List ToolBatchOutcome) (thinkingText content : JsString) : ChatMessage :=
  { ChatMessage.plain .assistant (.text content) with
    toolCalls := some (outcomes.map ToolBatchOutcome.call)
    reasoningContent := if thinkingText.isEmpty then none else some thinkingText }

def buildToolResultMessage (toolCallId content : JsString) : ChatMessage :=
  { ChatMessage.plain .tool (.text content) with toolCallId := some toolCallId }

def buildToolBatchMessages (outcomes : List ToolBatchOutcome) (thinkingText content : JsString) : List ChatMessage :=
  if outcomes.isEmpty then []
  else buildAssistantToolCallMessage outcomes thinkingText content ::
    outcomes.map fun outcome => buildToolResultMessage outcome.toolCallId outcome.toolContent

/-- Where a trailing user message belongs: the index, and how many messages it replaces. -/
def resolveTrailingUserSlot (messageCount : Nat) (existingIndex : Option Nat) : Nat × Nat :=
  match existingIndex with
  | some index => if index < messageCount then (index, 1) else (messageCount, 0)
  | none => (messageCount, 0)

/-! ## Retention -/

def hasThinking (message : ChatMessage) : Bool := message.reasoningContent.any fun text => !(trim text).isEmpty

def lastIndex? (check : ChatMessage → Bool) (messages : List ChatMessage) : Option Nat :=
  (messages.reverse.findIdx? check).map fun back => messages.length - 1 - back

/-- `ThinkingRetentionPolicy.prunePlannerMessages`; nothing when nothing is dropped. -/
def prunePlannerMessages (maintainPerStepThinking : Bool) (messages : List ChatMessage) : Option (List ChatMessage) :=
  if maintainPerStepThinking then none
  else match lastIndex? hasThinking messages with
    | none => none
    | some latest =>
      if messages.zipIdx.any fun (message, index) => index != latest && message.reasoningContent.isSome then
        some (messages.zipIdx.map fun (message, index) =>
          if index == latest then message else { message with reasoningContent := none })
      else none

/-- The message whose image at an index ages out. -/
def dropImage (partIndex : Nat) (message : ChatMessage) : ChatMessage :=
  match message.content with
  | some (.parts parts) =>
    let spoken := trim (extractContentText message.content)
    let label := if spoken.isEmpty then utf16 "image" else spoken
    { message with content := some (.parts (parts.zipIdx.map fun (part, index) =>
      if index == partIndex then textPart (utf16 "[" ++ label ++ utf16 ", dropped from context]") else part)) }
  | _ => message

/-- Where the images are: the message, and the part of it. -/
def imagePositions (messages : List ChatMessage) : List (Nat × Nat) :=
  messages.zipIdx.flatMap fun (message, messageIndex) =>
    (contentParts message.content).zipIdx.filterMap fun (part, partIndex) =>
      if part.type == imageType then some (messageIndex, partIndex) else none

structure ImageRetentionOutcome where
  messages : List ChatMessage
  droppedPathKeys : List JsString

/-- `ImageRetentionPolicy.prune`; nothing when nothing aged out. -/
def pruneImageMessages (retention : Int) (messages : List ChatMessage) : Option ImageRetentionOutcome :=
  if retention < 0 then none
  else
    let dropped := (imagePositions messages).take ((imagePositions messages).length - retention.toNat)
    if dropped.isEmpty then none
    else some {
      messages := dropped.foldl (fun rewritten position => rewritten.modify position.1 (dropImage position.2)) messages
      droppedPathKeys := dropped.filterMap fun position => (messages[position.1]?).bind ChatMessage.imagePathKey }

variable {messages : List ChatMessage} {openCallIds : List JsString}

theorem length_prunePlannerMessages {maintainPerStepThinking : Bool} {pruned : List ChatMessage}
    (isPruned : prunePlannerMessages maintainPerStepThinking messages = some pruned) :
    pruned.length = messages.length := by
  unfold prunePlannerMessages at isPruned
  split at isPruned
  · cases isPruned
  · split at isPruned
    · cases isPruned
    · split at isPruned
      · cases isPruned
        simp
      · cases isPruned

theorem length_pruneImageMessages {retention : Int} {outcome : ImageRetentionOutcome}
    (isPruned : pruneImageMessages retention messages = some outcome) : outcome.messages.length = messages.length := by
  have kept : ∀ (positions : List (Nat × Nat)) (before : List ChatMessage),
      (positions.foldl (fun rewritten position => rewritten.modify position.1 (dropImage position.2)) before).length = before.length := by
    intro positions
    induction positions with
    | nil => exact fun before => rfl
    | cons position rest ih =>
      intro before
      rw [List.foldl_cons, ih, List.length_modify]
  unfold pruneImageMessages at isPruned
  split at isPruned
  · cases isPruned
  · simp only at isPruned
    split at isPruned
    · cases isPruned
    · cases isPruned
      exact kept _ messages

/-! ## Coherence -/

/-- The calls of a message join those that are open, unless one of them is open already. -/
def openCalls (index : Nat) (openCallIds : List JsString) : List PlannerToolCall → Except JsString (List JsString)
  | [] => .ok openCallIds
  | call :: rest =>
    if openCallIds.contains call.id then .error (utf16 s!"message {index} redeclares tool call " ++ call.id)
    else openCalls index (openCallIds ++ [call.id]) rest

/-- `ids.join(', ')`. -/
def joinIds : List JsString → JsString
  | [] => []
  | [id] => id
  | id :: rest => id ++ utf16 ", " ++ joinIds rest

def readMessage (index : Nat) (openCallIds : List JsString) (message : ChatMessage) : Except JsString (List JsString) :=
  if message.role = .tool then
    match openCallIds with
    | [] => .error (utf16 s!"message {index} is a tool result with no open tool call")
    | expected :: others =>
      if message.toolCallId = some expected then .ok others
      else .error (utf16 s!"message {index} answers " ++ message.toolCallId.getD (utf16 "undefined") ++ utf16 " while " ++ expected ++
        utf16 " is the open call")
  else match message.toolCallId with
    | some toolCallId => .error (utf16 s!"message {index} is a {message.role.name} message carrying tool_call_id " ++ toolCallId)
    | none => match message.toolCalls with
      | none => .ok openCallIds
      | some calls =>
        if message.role ≠ .assistant then .error (utf16 s!"message {index} is a {message.role.name} message declaring tool calls")
        else if calls.isEmpty then .error (utf16 s!"message {index} declares an empty tool_calls list")
        else openCalls index openCallIds calls

def violationFrom (openCallIds : List JsString) (index : Nat) : List ChatMessage → Option JsString
  | [] => if openCallIds.isEmpty then none else some (utf16 "tool calls " ++ joinIds openCallIds ++ utf16 " were never answered")
  | message :: rest =>
    match readMessage index openCallIds message with
    | .error violation => some violation
    | .ok openNow => violationFrom openNow (index + 1) rest

def findPlannerContextViolation (messages : List ChatMessage) : Option JsString := violationFrom [] 0 messages

/-! ### What coherence means -/

/-- The ids of the calls that the messages declare, in order. -/
def declaredIds (messages : List ChatMessage) : List JsString :=
  messages.flatMap fun message => if message.role = .tool then [] else message.declared.map PlannerToolCall.id

/-- The calls that the messages answer, in order. -/
def answeredIds (messages : List ChatMessage) : List (Option JsString) :=
  (messages.filter fun message => message.role = .tool).map ChatMessage.toolCallId

variable {index : Nat}

theorem openCalls_eq_ok {openNow : List JsString} {calls : List PlannerToolCall}
    (opened : openCalls index openCallIds calls = .ok openNow) :
    openNow = openCallIds ++ calls.map PlannerToolCall.id := by
  induction calls generalizing openCallIds with
  | nil =>
    cases opened
    simp
  | cons call rest ih =>
    rw [openCalls] at opened
    split at opened
    · cases opened
    · rw [ih opened, List.map_cons, List.append_assoc, List.singleton_append]

theorem readMessage_eq_ok {openNow : List JsString} {message : ChatMessage}
    (isRead : readMessage index openCallIds message = .ok openNow) :
    (∃ expected, message.role = .tool ∧ openCallIds = expected :: openNow ∧ message.toolCallId = some expected) ∨
      message.role ≠ .tool ∧ message.toolCallId = none ∧ openNow = openCallIds ++ message.declared.map PlannerToolCall.id := by
  unfold readMessage at isRead
  split at isRead
  next isTool =>
    cases openCallIds with
    | nil => cases isRead
    | cons expected others =>
      simp only at isRead
      split at isRead
      next answers =>
        cases isRead
        exact .inl ⟨expected, isTool, rfl, answers⟩
      · cases isRead
  next notTool =>
    right
    split at isRead
    · cases isRead
    next isId =>
      refine ⟨notTool, isId, ?_⟩
      rw [ChatMessage.declared]
      split at isRead
      next areCalls =>
        cases isRead
        simp [areCalls]
      next calls areCalls =>
        split at isRead
        · cases isRead
        · split at isRead
          · cases isRead
          · rw [areCalls]
            exact openCalls_eq_ok isRead

theorem violationFrom_cons {message : ChatMessage} {rest : List ChatMessage}
    (coherent : violationFrom openCallIds index (message :: rest) = none) :
    ∃ openNow, readMessage index openCallIds message = .ok openNow ∧ violationFrom openNow (index + 1) rest = none := by
  rw [violationFrom] at coherent
  split at coherent
  · cases coherent
  next openNow isRead => exact ⟨openNow, isRead, coherent⟩

/-- In a coherent list each call is answered once, in the order in which the calls were declared. -/
theorem answered_eq_declared (coherent : violationFrom openCallIds index messages = none) :
    answeredIds messages = (openCallIds ++ declaredIds messages).map some := by
  induction messages generalizing openCallIds index with
  | nil =>
    rw [violationFrom] at coherent
    split at coherent
    next none =>
      rw [List.isEmpty_iff.mp none]
      rfl
    · cases coherent
  | cons message rest ih =>
    obtain ⟨openNow, isRead, restCoherent⟩ := violationFrom_cons coherent
    obtain ⟨expected, isTool, rfl, isId⟩ | ⟨notTool, _, rfl⟩ := readMessage_eq_ok isRead
    · have later := ih restCoherent
      simp only [answeredIds, declaredIds, List.filter_cons, isTool, decide_true, if_true, List.map_cons, isId, List.flatMap_cons,
        List.nil_append, List.cons_append, List.cons.injEq, true_and] at later ⊢
      exact later
    · have later := ih restCoherent
      simp only [answeredIds, declaredIds, List.filter_cons, notTool, decide_false, Bool.false_eq_true, if_false, List.flatMap_cons] at later ⊢
      rw [later, List.append_assoc]

end SiftKit.Chat
