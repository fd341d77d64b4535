import SiftKit.Chat.Contracts
import SiftKit.Foundation.Failure
import SiftKit.Foundation.OrderedMap
import SiftKit.Foundation.Runs
import SiftKit.Foundation.Tables
import SiftKit.Json.Literals

/-! # Chat message queue

`ChatMessageQueueStore` of `state/chat-message-queue.ts` over its table and its rows of
`runtime_metadata`.  Each call is one transaction: a call that throws changes nothing.  Session
and receipt ids are UUIDs, so the two of them tell a metadata row.
-/

namespace SiftKit.Chat

open SiftKit.Json SiftKit.Json.Schema SiftKit.Failure SiftKit.Tables

def CHAT_QUEUE_MAX_PENDING : Nat := 50

def CHAT_QUEUE_MAX_CONTENT_CHARS : Nat := 200000

def CHAT_QUEUE_MAX_IMAGES : Nat := 8

/-- `z.string().uuid()`. -/
def StringFormats.isUuid (formats : StringFormats) (text : String) : Bool := formats.uuid (utf16 text)

/-! ## Requests -/

/-- Everything about a send except its text and images, captured at enqueue time. -/
def chatQueueSendOptionsSchema : Schema := object .strict ⟨[
  field "operationKind" (enumOf ["message", "plan", "repo-search", "repo-agent"]),
  optionalField "approval" approvalModeSchema, optionalField "repoRoot" trimmedNonEmpty,
  optionalField "maxTurns" positiveInteger, optionalField "webSearchOverride" (enumOf ["on", "off"]),
  optionalField "availableModels" (array anyString fun _ => true),
  optionalField "mockResponses" (array json fun _ => true), optionalField "mockCommandResults" jsonRecord],
  by simp [field, optionalField]⟩

structure ChatQueueEnqueueInput where
  id : String
  afterOperationId : Option String
  content : JsString
  images : List JsString
  options : JsValue

/-- `ChatQueueEnqueueRequestSchema.parse`. -/
def ChatQueueEnqueueInput.parse (formats : StringFormats) (input : ChatQueueEnqueueInput) : Option ChatQueueEnqueueInput := do
  let options ← chatQueueSendOptionsSchema.parse input.options
  if formats.isUuid input.id && input.afterOperationId.all formats.isUuid &&
      input.content.length ≤ CHAT_QUEUE_MAX_CONTENT_CHARS && input.images.all isSupportedImage &&
      input.images.length ≤ CHAT_QUEUE_MAX_IMAGES && (!(trim input.content).isEmpty || !input.images.isEmpty)
  then some { input with options := options } else none

structure ChatQueueClaimInput where
  requestId : String
  turn : Nat
  ids : Option (List String)

def ChatQueueClaimInput.accepts (formats : StringFormats) (input : ChatQueueClaimInput) : Bool :=
  !input.requestId.isEmpty && input.ids.all fun ids => ids.all formats.isUuid

inductive ForcePhase where
  | stopping
  | sending
  | failed
  deriving DecidableEq

structure ChatMessageQueueForceState where
  id : String
  operationId : Option String
  phase : ForcePhase
  messageIds : List String
  successorOperationId : String
  failureDetail : Option String
  deriving DecidableEq

/-- `ChatMessageQueueForceStateSchema`. -/
def ChatMessageQueueForceState.accepts (formats : StringFormats) (force : ChatMessageQueueForceState) : Bool :=
  formats.isUuid force.id && force.operationId.all formats.isUuid && force.messageIds.all formats.isUuid &&
    formats.isUuid force.successorOperationId

structure ChatQueueForceRequest where
  id : String
  operationId : Option String

def ChatQueueForceRequest.accepts (formats : StringFormats) (request : ChatQueueForceRequest) : Bool :=
  formats.isUuid request.id && request.operationId.all formats.isUuid

/-! ## Rows -/

inductive ChatQueuedMessageState where
  | pending
  | delivered
  deriving DecidableEq

/-- A row of `chat_pending_messages`. -/
structure QueueRow where
  sequence : Nat
  sessionId : String
  id : String
  content : JsString
  imagesJson : JsString
  optionsJson : JsString
  revision : Nat
  state : ChatQueuedMessageState
  deliveredRequestId : Option String
  deliveredTurn : Option Nat
  deliveredAtUtc : Option String
  createdAtUtc : String
  deriving DecidableEq

structure ChatQueuedMessage where
  sequence : Nat
  sessionId : String
  id : String
  content : JsString
  revision : Nat
  images : List JsString
  options : JsValue
  state : ChatQueuedMessageState
  deliveredRequestId : Option String
  deliveredTurn : Option Nat
  createdAtUtc : String

def imagesJson (images : List JsString) : JsString := stringify (.array (images.map .string))

def imagesSchema : Schema := array imageDataUrlSchema fun _ => true

/-- `QueueRowSchema`, in what its columns do not enforce. -/
def QueueRow.accepts (formats : StringFormats) (row : QueueRow) : Bool :=
  0 < row.sequence && !row.sessionId.isEmpty && formats.isUuid row.id && 0 < row.revision

/-- `toMessage(QueueRowSchema.parse(row))`. -/
def toMessage (formats : StringFormats) (row : QueueRow) : Except Thrown ChatQueuedMessage := do
  throwWhen (!row.accepts formats) .invalid
  let images ← orInvalid ((Json.parse row.imagesJson).bind imagesSchema.parse)
  let options ← orInvalid ((Json.parse row.optionsJson).bind chatQueueSendOptionsSchema.parse)
  throwWhen (decide (CHAT_QUEUE_MAX_CONTENT_CHARS < row.content.length)) .invalid
  return { row with images := images.itemsOf.map JsValue.textOf, options := options }

def sameBody (message : ChatQueuedMessage) (input : ChatQueueEnqueueInput) (options : JsValue) : Bool :=
  message.content == input.content && imagesJson message.images == imagesJson input.images &&
    stringify message.options == stringify options

/-! ## The store -/

structure QueueMetadata where
  revision : Nat
  paused : Bool
  force : Option ChatMessageQueueForceState
  deriving DecidableEq

structure MessageQueueStore where
  /-- In order of their sequence. -/
  rows : List QueueRow
  /-- The greatest sequence that was ever given out. -/
  lastSequence : Nat
  metadataRows : OrderedMap String QueueMetadata
  receipts : OrderedMap (String × String) ChatMessageQueueForceState

/-- A row of `chat_messages`, as far as the queue reads it. -/
structure HistoryRow where
  id : String
  role : String
  content : JsString
  images : Option JsString

/-- What the rest of the database says of a session while a call runs. -/
structure SessionHistory where
  sessionExists : Bool
  messages : List HistoryRow

/-- The images of a history row: none where the column is null. -/
def HistoryRow.imageList (row : HistoryRow) : Except Thrown (List JsString) :=
  match row.images with
  | none => .ok []
  | some text => (orInvalid ((Json.parse text).bind imagesSchema.parse)).map fun images => images.itemsOf.map JsValue.textOf

/-- The history holds the message as a user's. -/
def SessionHistory.hasUserMessage (history : SessionHistory) (id : String) : Bool :=
  history.messages.any fun row => row.id == id && row.role == "user"

inductive ChatQueueEnqueueResult where
  | alreadyPersisted
  | persistedConflict
  | enqueued (message : ChatQueuedMessage)
  | duplicate (message : ChatQueuedMessage)
  | conflict (message : ChatQueuedMessage)
  | overflow (pendingCount : Nat)
  | missingSession

inductive ChatQueueMutationResult where
  | applied (message : ChatQueuedMessage)
  | notPending (message : ChatQueuedMessage)
  | stale (message : ChatQueuedMessage)
  | notFound

inductive ChatQueueForceResult where
  | empty
  | started (force : ChatMessageQueueForceState)
  | duplicate (force : ChatMessageQueueForceState)
  | conflict (force : ChatMessageQueueForceState)
  | missingSession

namespace MessageQueueStore

/-- A database whose queue was never used. -/
def empty : MessageQueueStore := ⟨[], 0, .empty, .empty⟩

def metadata (store : MessageQueueStore) (sessionId : String) : QueueMetadata :=
  (store.metadataRows.get? sessionId).getD ⟨0, false, none⟩

def writeMetadata (store : MessageQueueStore) (sessionId : String) (state : QueueMetadata) : MessageQueueStore :=
  { store with metadataRows := store.metadataRows.set sessionId state }

def bump (store : MessageQueueStore) (sessionId : String) (paused : Option Bool := none) : MessageQueueStore :=
  let state := store.metadata sessionId
  store.writeMetadata sessionId ⟨state.revision + 1, paused.getD state.paused, state.force⟩

def readForceReceipt (store : MessageQueueStore) (sessionId id : String) : Option ChatMessageQueueForceState :=
  store.receipts.get? (sessionId, id)

def saveReceipt (store : MessageQueueStore) (sessionId : String) (force : ChatMessageQueueForceState) : MessageQueueStore :=
  { store with receipts := store.receipts.set (sessionId, force.id) force }

def isRow (sessionId id : String) (row : QueueRow) : Bool := row.sessionId == sessionId && row.id == id

def isPending (sessionId : String) (row : QueueRow) : Bool := row.sessionId == sessionId && row.state == .pending

def isDelivered (sessionId requestId : String) (row : QueueRow) : Bool :=
  row.sessionId == sessionId && row.state == .delivered && row.deliveredRequestId == some requestId

def readRow (formats : StringFormats) (store : MessageQueueStore) (sessionId id : String) :
    Except Thrown (Option ChatQueuedMessage) :=
  match store.rows.find? (isRow sessionId id) with
  | some row => (toMessage formats row).map some
  | none => .ok none

def disappeared (sessionId id : String) : Thrown := .error s!"Queued chat message {id} disappeared from session {sessionId}."

def requireRow (formats : StringFormats) (store : MessageQueueStore) (sessionId id : String) : Except Thrown ChatQueuedMessage := do
  match ← store.readRow formats sessionId id with
  | some message => return message
  | none => throw (disappeared sessionId id)

def countPending (store : MessageQueueStore) (sessionId : String) : Nat := store.rows.countP (isPending sessionId)

def listPending (formats : StringFormats) (store : MessageQueueStore) (sessionId : String) : Except Thrown (List ChatQueuedMessage) :=
  (store.rows.filter (isPending sessionId)).mapM (toMessage formats)

def listDelivered (formats : StringFormats) (store : MessageQueueStore) (sessionId requestId : String) :
    Except Thrown (List ChatQueuedMessage) :=
  (store.rows.filter (isDelivered sessionId requestId)).mapM (toMessage formats)

def isForceSnapshot (store : MessageQueueStore) (sessionId id : String) : Bool :=
  (store.metadata sessionId).force.any fun force => force.phase != .failed && force.messageIds.contains id

/-! ### Enqueue -/

/-- Whether the message is already in the chat history, and as what. -/
def persisted (history : SessionHistory) (input : ChatQueueEnqueueInput) : Except Thrown (Option ChatQueueEnqueueResult) :=
  match history.messages.find? fun row => row.id == input.id with
  | none => .ok none
  | some canonical => do
    let images ← canonical.imageList
    let same := canonical.role == "user" && canonical.content == input.content && imagesJson images == imagesJson input.images
    return some (if same then .alreadyPersisted else .persistedConflict)

def insertMessage (formats : StringFormats) (store : MessageQueueStore) (sessionId : String) (input : ChatQueueEnqueueInput)
    (nowUtc : String) : Except Thrown (ChatQueueEnqueueResult × MessageQueueStore) := do
  let options ← orInvalid (chatQueueSendOptionsSchema.parse input.options)
  let row : QueueRow := {
    sequence := store.lastSequence + 1
    sessionId := sessionId
    id := input.id
    content := input.content
    imagesJson := imagesJson input.images
    optionsJson := stringify options
    revision := 1
    state := .pending
    deliveredRequestId := none
    deliveredTurn := none
    deliveredAtUtc := none
    createdAtUtc := nowUtc }
  let rows ← orInvalid (insertRow (fun row other => isRow row.sessionId row.id other) row store.rows)
  let inserted := { store with rows := rows, lastSequence := store.lastSequence + 1 }.bump sessionId
  let message ← inserted.requireRow formats sessionId input.id
  return (.enqueued message, inserted)

def enqueueNew (formats : StringFormats) (store : MessageQueueStore) (sessionId : String) (input : ChatQueueEnqueueInput)
    (nowUtc : String) : Except Thrown (ChatQueueEnqueueResult × MessageQueueStore) := do
  match ← store.readRow formats sessionId input.id with
  | some existing =>
    let options ← orInvalid (chatQueueSendOptionsSchema.parse input.options)
    return (if sameBody existing input options then .duplicate existing else .conflict existing, store)
  | none =>
    if store.countPending sessionId ≥ CHAT_QUEUE_MAX_PENDING then
      return (.overflow (store.countPending sessionId), store)
    else store.insertMessage formats sessionId input nowUtc

def enqueue (formats : StringFormats) (store : MessageQueueStore) (history : SessionHistory) (sessionId : String)
    (input : ChatQueueEnqueueInput) (nowUtc : String) : Except Thrown (ChatQueueEnqueueResult × MessageQueueStore) := do
  let input ← orInvalid (input.parse formats)
  if !history.sessionExists then return (.missingSession, store)
  else match ← persisted history input with
    | some result => return (result, store)
    | none => store.enqueueNew formats sessionId input nowUtc

/-! ### Edit and remove -/

/-- `SET content = ?, revision = revision + 1`. -/
def editRow (content : JsString) (row : QueueRow) : QueueRow := { row with content := content, revision := row.revision + 1 }

/-- The row that an edit or a removal may change; otherwise the answer. -/
def editable (formats : StringFormats) (store : MessageQueueStore) (sessionId id : String) :
    Except Thrown (Except ChatQueueMutationResult ChatQueuedMessage) := do
  match ← store.readRow formats sessionId id with
  | none => return .error .notFound
  | some existing =>
    return if existing.state != .pending || store.isForceSnapshot sessionId id then .error (.notPending existing)
      else .ok existing

/-- `ChatQueueEditRequestSchema.parse`, of the content. -/
def editContent (content : JsString) (revision : Nat) : Option JsString :=
  let trimmed := trim content
  if !trimmed.isEmpty && trimmed.length ≤ CHAT_QUEUE_MAX_CONTENT_CHARS && 0 < revision then some trimmed else none

def edit (formats : StringFormats) (store : MessageQueueStore) (sessionId id : String) (content : JsString) (revision : Nat) :
    Except Thrown (ChatQueueMutationResult × MessageQueueStore) := do
  let content ← orInvalid (editContent content revision)
  match ← store.editable formats sessionId id with
  | .error answer => return (answer, store)
  | .ok existing =>
    if existing.revision ≠ revision then return (.stale existing, store)
    else
      let rows := updateWhere (isRow sessionId id) (editRow content) store.rows
      let edited := { store with rows := rows }.bump sessionId
      let message ← edited.requireRow formats sessionId id
      return (.applied message, edited)

def remove (formats : StringFormats) (store : MessageQueueStore) (sessionId id : String) :
    Except Thrown (ChatQueueMutationResult × MessageQueueStore) := do
  match ← store.editable formats sessionId id with
  | .error answer => return (answer, store)
  | .ok existing =>
    let rows := store.rows.filter fun row => !isRow sessionId id row
    return (.applied existing, { store with rows := rows }.bump sessionId)

/-! ### Claim and incorporate -/

/-- A row that was handed out. -/
def deliver (input : ChatQueueClaimInput) (nowUtc : String) (row : QueueRow) : QueueRow :=
  { row with
    state := .delivered
    deliveredRequestId := some input.requestId
    deliveredTurn := some input.turn
    deliveredAtUtc := some nowUtc }

/-- `UPDATE … WHERE session_id = ? AND id = ? AND state = 'pending'`. -/
def deliverRow (sessionId : String) (input : ChatQueueClaimInput) (nowUtc : String) (rows : List QueueRow)
    (id : String) : List QueueRow :=
  updateWhere (fun row => isRow sessionId id row && row.state == .pending) (deliver input nowUtc) rows

/-- The pending messages that a claim takes, in submission order. -/
def claimable (formats : StringFormats) (store : MessageQueueStore) (sessionId : String) (ids : Option (List String)) :
    Except Thrown (List ChatQueuedMessage) := do
  throwWhen (ids.any fun ids => !ids.Nodup) (.error "Duplicate queued snapshot IDs.")
  let pending ← store.listPending formats sessionId
  let claimed := pending.filter fun message => ids.all fun ids => ids.contains message.id
  throwWhen (ids.any fun ids => claimed.length != ids.length) (.error "Queued snapshot is no longer pending in full.")
  return claimed

def claim (formats : StringFormats) (store : MessageQueueStore) (sessionId : String) (input : ChatQueueClaimInput)
    (nowUtc : String) : Except Thrown (List ChatQueuedMessage × MessageQueueStore) := do
  throwWhen (!input.accepts formats) .invalid
  let claimed ← store.claimable formats sessionId input.ids
  let rows := (claimed.map ChatQueuedMessage.id).foldl (deliverRow sessionId input nowUtc) store.rows
  let delivered := { store with rows := rows }
  let after := if claimed.isEmpty then delivered else delivered.bump sessionId
  let messages ← claimed.mapM fun message => after.requireRow formats sessionId message.id
  return (messages, after)

def unincorporated (requestId : String) : Thrown := .error s!"Unincorporated queued delivery for request {requestId}."

def deleteIncorporated (formats : StringFormats) (store : MessageQueueStore) (history : SessionHistory)
    (sessionId requestId : String) : Except Thrown (Nat × MessageQueueStore) := do
  let isDone := fun row => isDelivered sessionId requestId row && history.hasUserMessage row.id
  let count := store.rows.countP isDone
  let rows := store.rows.filter fun row => !isDone row
  let after := if count > 0 then { store with rows := rows }.bump sessionId else { store with rows := rows }
  let left ← after.listDelivered formats sessionId requestId
  throwWhen (!left.isEmpty) (unincorporated requestId)
  return (count, after)

/-! ### Force and pause -/

def setPaused (store : MessageQueueStore) (sessionId : String) (paused : Bool) : MessageQueueStore :=
  store.bump sessionId (some paused)

def failForce (formats : StringFormats) (store : MessageQueueStore) (sessionId : String) (force : ChatMessageQueueForceState)
    (error : String) : Except Thrown MessageQueueStore := do
  let failed := { force with phase := .failed, failureDetail := some error }
  throwWhen (!failed.accepts formats) .invalid
  let saved := store.saveReceipt sessionId failed
  let state := store.metadata sessionId
  return if state.force.all fun current => current.id == force.id then
    saved.writeMetadata sessionId ⟨state.revision + 1, true, some failed⟩ else saved

/-- The force that stands in the way of another one. -/
def currentForce (store : MessageQueueStore) (sessionId : String) (request : ChatQueueForceRequest) : Option ChatQueueForceResult :=
  match store.readForceReceipt sessionId request.id with
  | some receipt => some (if receipt.operationId == request.operationId then .duplicate receipt else .conflict receipt)
  | none => match (store.metadata sessionId).force with
    | some force =>
      if force.phase != .failed then
        some (if force.id == request.id && force.operationId == request.operationId then .duplicate force else .conflict force)
      else none
    | none => none

def beginForce (formats : StringFormats) (store : MessageQueueStore) (history : SessionHistory) (sessionId : String)
    (request : ChatQueueForceRequest) (successorOperationId : String) : Except Thrown (ChatQueueForceResult × MessageQueueStore) := do
  throwWhen (!request.accepts formats || !formats.isUuid successorOperationId) .invalid
  if !history.sessionExists then return (.missingSession, store)
  else match store.currentForce sessionId request with
    | some result => return (result, store)
    | none =>
      let pending ← store.listPending formats sessionId
      if pending.isEmpty then return (.empty, store)
      else
        let state := store.metadata sessionId
        let force : ChatMessageQueueForceState := {
          id := request.id
          operationId := request.operationId
          phase := if request.operationId.isNone then .sending else .stopping
          messageIds := pending.map ChatQueuedMessage.id
          successorOperationId := successorOperationId
          failureDetail := none }
        return (.started force, store.writeMetadata sessionId ⟨state.revision + 1, state.paused, some force⟩)

def updateForce (formats : StringFormats) (store : MessageQueueStore) (sessionId forceId : String) (phase : ForcePhase)
    (failureDetail : Option String) : Except Thrown (Bool × MessageQueueStore) := do
  throwWhen (!formats.isUuid forceId) .invalid
  let state := store.metadata sessionId
  match state.force with
  | some force =>
    if force.id = forceId then
      return (true, store.writeMetadata sessionId
        ⟨state.revision + 1, state.paused, some { force with phase := phase, failureDetail := failureDetail }⟩)
    else return (false, store)
  | none => return (false, store)

def clearForce (formats : StringFormats) (store : MessageQueueStore) (sessionId forceId : String) :
    Except Thrown (Bool × MessageQueueStore) := do
  throwWhen (!formats.isUuid forceId) .invalid
  let state := store.metadata sessionId
  match state.force with
  | some force =>
    if force.id = forceId then
      return (true, (store.saveReceipt sessionId force).writeMetadata sessionId ⟨state.revision + 1, state.paused, none⟩)
    else return (false, store)
  | none => return (false, store)

end MessageQueueStore

end SiftKit.Chat
