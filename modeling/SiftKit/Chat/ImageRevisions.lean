import SiftKit.Chat.PlannerContext
import SiftKit.Foundation.Positions

/-! # Revisions of the images of a message

`state/chat-history-revisions.ts` and the image operations of `state/chat-sessions.ts`, with the rows that
`status-server/chat-run-projection.ts` folds the journal of a run into, as far as their attachments go.

A removed image is purged from the evidence, and recorded under its original position; a caption is
recorded only.  A row that is rebuilt is folded from what is left of the evidence, and the revisions are
applied to it.
-/

namespace SiftKit.Chat.ImageRevisions

open SiftKit.Json SiftKit.Json.Schema SiftKit.Failure SiftKit.Positions

/-! ## Attachments -/

inductive ImageMime where
  | png
  | jpeg
  | webp
  | gif
  deriving DecidableEq

structure ImageMetadata where
  width : Nat
  height : Nat
  originalWidth : Nat
  originalHeight : Nat
  mime : ImageMime
  byteLength : Nat
  tokenEstimate : Nat
  resized : Bool
  caption : Option JsString
  deriving DecidableEq

/-- `{ ...metadata, caption }`. -/
def ImageMetadata.captioned (metadata : ImageMetadata) (caption : JsString) : ImageMetadata :=
  { metadata with caption := some caption }

/-- The images of a message, as data URLs, and what was measured of each at its admission. -/
structure Attachments where
  images : List JsString
  imageMeta : List ImageMetadata
  deriving DecidableEq

/-- `{ images: images.filter((_, index) => index !== imageIndex), imageMeta: imageMeta.filter(...) }`. -/
def Attachments.without (attachments : Attachments) (imageIndex : Nat) : Attachments :=
  ⟨attachments.images.eraseIdx imageIndex, attachments.imageMeta.eraseIdx imageIndex⟩

/-- A row of the transcript, as far as its attachments go; fields that are absent are `none`. -/
structure TranscriptMessage where
  id : JsString
  content : JsString
  images : Option (List JsString)
  imageMeta : Option (List ImageMetadata)
  removedImageCount : Option Nat
  deriving DecidableEq

namespace TranscriptMessage

/-- A row that carries no attachments. -/
def blank (id content : JsString) : TranscriptMessage := ⟨id, content, none, none, none⟩

def attached (id content : JsString) (attachments : Attachments) : TranscriptMessage :=
  { blank id content with images := some attachments.images, imageMeta := some attachments.imageMeta }

end TranscriptMessage

/-! ## Events -/

inductive ChatHistoryRevision where
  | message_edited (messageId content : JsString)
  | message_deleted (messageIds : List JsString)
  | image_removed (payloadDigest : JsString) (originalImageIndex : Nat) (messageId : JsString) (imageIndex : Nat)
      (imagePathKey : Option JsString)
  | image_caption_updated (originalImageIndex : Nat) (messageId : JsString) (imageIndex : Nat) (caption : JsString)
  | condensed (summaryMessageId : JsString) (compressedMessageIds : List JsString)

/-- The frames of a display.  One of generated text, of usage or of a tool writes the text of a row, and keeps
its attachments. -/
inductive ChatTranscriptEvent where
  | submission (id content : JsString) (attachments : Attachments)
  | user_message (id content : JsString) (attachments : Attachments)
  | frame (id content : JsString)

/-- The rows that a compaction compresses, and the row of its summary. -/
structure Compaction where
  compressedMessageIds : List JsString
  summaryId : JsString
  summary : JsString

inductive ChatJournalEvent where
  | run_started (condense : Bool) (userMessageId content : JsString) (attachments : Attachments)
  | submission_cancelled (userMessageId : JsString)
  | queue_delivered (id content : JsString) (attachments : Attachments)
  | tool_proposed (displayToolCallId command : JsString)
  | tool_result (displayToolCallId output : JsString) (attachments : Attachments)
  | baseline_imported (messages : List TranscriptMessage) (retainedContext : List ChatMessage)
  | display (event : ChatTranscriptEvent)
  | context_initialized (messages : List ChatMessage)
  | context_spliced (inserted : List ChatMessage) (compaction : Option Compaction)
  /-- An approval that a decision resolved, with the text of its row. -/
  | approval_resolved (approvalId content : JsString)
  | run_finished (completed : Bool)
  | history_revised (revision : ChatHistoryRevision)
  | other

structure ChatRun where
  operationId : JsString
  events : List ChatJournalEvent

/-- The runs of a session, in their order; a revision of the history is a run of its own. -/
abbrev Journal := List ChatRun

def toolMessageId (operationId displayToolCallId : JsString) : JsString :=
  buildChatMessageId (buildChatRunMessageIdPrefix operationId) (.tool displayToolCallId)

def approvalMessageId (operationId approvalId : JsString) : JsString :=
  buildChatRunMessageIdPrefix operationId ++ utf16 "-approval-" ++ approvalId

def progressMessageId (operationId : JsString) : JsString := buildChatRunMessageIdPrefix operationId ++ utf16 "-progress"

/-! ## Reading and recording revisions -/

def ChatJournalEvent.revision? : ChatJournalEvent → Option ChatHistoryRevision
  | .history_revised revision => some revision
  | _ => none

def readChatHistoryRevisions (journal : Journal) : List ChatHistoryRevision :=
  journal.flatMap fun run => run.events.filterMap ChatJournalEvent.revision?

/-- `recordChatHistoryRevision`: a session that has no run has no journal to record it in. -/
def recordChatHistoryRevision (operationId : JsString) (revision : ChatHistoryRevision) (journal : Journal) : Journal :=
  if journal.isEmpty then journal else journal ++ [⟨operationId, [.history_revised revision]⟩]

def ChatHistoryRevision.removedIndex? (messageId : JsString) : ChatHistoryRevision → Option Nat
  | .image_removed _ originalImageIndex id _ _ => if id = messageId then some originalImageIndex else none
  | _ => none

/-- Image positions refer to the original admitted message, even after earlier attachments vanish. -/
def originalImageIndex (revisions : List ChatHistoryRevision) (messageId : JsString) (visibleIndex : Nat) : Nat :=
  shifted (ascending (revisions.filterMap (ChatHistoryRevision.removedIndex? messageId))) visibleIndex

def resolveOriginalChatImageIndex (journal : Journal) (messageId : JsString) (visibleIndex : Nat) : Nat :=
  originalImageIndex (readChatHistoryRevisions journal) messageId visibleIndex

/-! ## Purging the evidence -/

/-- `content.filter(...)`: the first part that is an image with the payload is dropped. -/
def withoutPayload (payload : JsString) : List InferenceContentPart → List InferenceContentPart
  | [] => []
  | part :: rest =>
    if part.type = imageType ∧ part.imageUrl = some payload then rest else part :: withoutPayload payload rest

def unmigratedIdentity : Thrown := .error "Image deletion requires migrated native message identities."

/-- Native copies drop one occurrence of the exact payload. -/
def removeImageFromNative (messageId payload : JsString) (message : ChatMessage) : Except Thrown ChatMessage :=
  match message.content with
  | some (.parts parts) =>
    if message.chatMessageId = none ∧ parts.any (fun part => part.imageUrl == some payload) then .error unmigratedIdentity
    else if message.chatMessageId ≠ some messageId then .ok message
    else .ok { message with content := some (.parts (withoutPayload payload parts)) }
  | _ => .ok message

variable (messageId : JsString) (imageIndex : Nat) (payload : JsString)

/-- A message of a baseline without the image. -/
def removeImageFromMessage (message : TranscriptMessage) : TranscriptMessage :=
  if message.id = messageId then
    { message with
      images := message.images.map (·.eraseIdx imageIndex)
      imageMeta := message.imageMeta.map (·.eraseIdx imageIndex) }
  else message

/-- The two frames that carry a message: only its images are filtered. -/
def removeImageFromDisplay : ChatTranscriptEvent → ChatTranscriptEvent
  | .submission id content attachments =>
    if id = messageId then .submission id content { attachments with images := attachments.images.eraseIdx imageIndex }
    else .submission id content attachments
  | .user_message id content attachments =>
    if id = messageId then .user_message id content { attachments with images := attachments.images.eraseIdx imageIndex }
    else .user_message id content attachments
  | .frame id content => .frame id content

def removeImageFromEvent (operationId : JsString) : ChatJournalEvent → Except Thrown ChatJournalEvent
  | .tool_result displayToolCallId output attachments =>
    .ok (.tool_result displayToolCallId output
      (if messageId = toolMessageId operationId displayToolCallId then attachments.without imageIndex else attachments))
  | .run_started condense userMessageId content attachments =>
    .ok (.run_started condense userMessageId content
      (if userMessageId = messageId then attachments.without imageIndex else attachments))
  | .queue_delivered id content attachments =>
    .ok (.queue_delivered id content (if id = messageId then attachments.without imageIndex else attachments))
  | .context_initialized messages => (messages.mapM (removeImageFromNative messageId payload)).map .context_initialized
  | .context_spliced inserted compaction =>
    (inserted.mapM (removeImageFromNative messageId payload)).map fun kept => .context_spliced kept compaction
  | .baseline_imported messages retainedContext =>
    (retainedContext.mapM (removeImageFromNative messageId payload)).map
      (.baseline_imported (messages.map (removeImageFromMessage messageId imageIndex)))
  | .display event => .ok (.display (removeImageFromDisplay messageId imageIndex event))
  | event => .ok event

def removeImageFromRun (run : ChatRun) : Except Thrown ChatRun :=
  (run.events.mapM (removeImageFromEvent messageId imageIndex payload run.operationId)).map (⟨run.operationId, ·⟩)

/-- `removeChatImageEvidence`, in one transaction. -/
def removeChatImageEvidence (sha256 : JsString → JsString) (operationId : JsString) (journal : Journal) : Except Thrown Journal :=
  (journal.mapM (removeImageFromRun messageId imageIndex payload)).map
    (recordChatHistoryRevision operationId
      (.image_removed (sha256 payload) (resolveOriginalChatImageIndex journal messageId imageIndex) messageId imageIndex none))

/-! ## Folding the evidence of a run into rows -/

/-- `upsertMessage`: the first row of that id is replaced in its place. -/
def upsertMessage (messages : List TranscriptMessage) (message : TranscriptMessage) : List TranscriptMessage :=
  match messages with
  | [] => [message]
  | first :: rest => if first.id = message.id then message :: rest else first :: upsertMessage rest message

/-- A frame writes the text of its row; a new row has no attachments. -/
def upsertText (messages : List TranscriptMessage) (id content : JsString) : List TranscriptMessage :=
  match messages.find? fun message => message.id == id with
  | some existing => upsertMessage messages { existing with content := content }
  | none => upsertMessage messages (.blank id content)

def reduceChatTranscript (messages : List TranscriptMessage) : ChatTranscriptEvent → List TranscriptMessage
  | .submission id content attachments => upsertMessage messages (.attached id content attachments)
  | .user_message id content attachments => upsertMessage messages (.attached id content attachments)
  | .frame id content => upsertText messages id content

/-- How many rows stand up to the last of the compressed ones. -/
def insertionIndex (compressed : List JsString) (ids : List JsString) : Nat :=
  (ids.zipIdx.filter fun entry => compressed.contains entry.1).foldl (fun _ entry => entry.2 + 1) 0

/-- The row of a summary stands after the last row that it compresses. -/
def insertSummary (compaction : Compaction) (messages : List TranscriptMessage) : List TranscriptMessage :=
  let index := insertionIndex compaction.compressedMessageIds (messages.map TranscriptMessage.id)
  messages.take index ++ TranscriptMessage.blank compaction.summaryId compaction.summary :: messages.drop index

def applyEvent (operationId : JsString) (messages : List TranscriptMessage) : ChatJournalEvent → List TranscriptMessage
  | .run_finished completed =>
    if completed then messages.filter fun message => message.id != progressMessageId operationId else messages
  | .submission_cancelled userMessageId => messages.filter fun message => message.id != userMessageId
  | .baseline_imported imported _ => imported
  | .approval_resolved approvalId content => messages ++ [.blank (approvalMessageId operationId approvalId) content]
  | .run_started condense userMessageId content attachments =>
    if condense then messages else reduceChatTranscript messages (.submission userMessageId content attachments)
  | .context_spliced _ (some compaction) => insertSummary compaction messages
  | .display event => reduceChatTranscript messages event
  | .queue_delivered id content attachments => reduceChatTranscript messages (.user_message id content attachments)
  | .tool_proposed displayToolCallId command => upsertText messages (toolMessageId operationId displayToolCallId) command
  | .tool_result displayToolCallId _ attachments =>
    messages.map fun message =>
      if message.id = toolMessageId operationId displayToolCallId then
        { message with images := some attachments.images, imageMeta := some attachments.imageMeta }
      else message
  | _ => messages

def ChatJournalEvent.isCancellation : ChatJournalEvent → Bool
  | .submission_cancelled _ => true
  | _ => false

def ChatJournalEvent.completed? : ChatJournalEvent → Option Bool
  | .run_finished completed => some completed
  | _ => none

/-- `finish`: the outcome of the run settles its rows; a run that failed leaves at least one. -/
def finish (run : ChatRun) (messages : List TranscriptMessage) : List TranscriptMessage :=
  match (run.events.filterMap ChatJournalEvent.completed?).getLast?, run.events.any ChatJournalEvent.isCancellation with
  | some true, false => messages.filter fun message => message.id != progressMessageId run.operationId
  | some false, false => if messages.isEmpty then [.blank (progressMessageId run.operationId) []] else messages
  | _, _ => messages

/-- `ChatRunProjection`, from the first event on. -/
def projectRun (run : ChatRun) : List TranscriptMessage := finish run (run.events.foldl (applyEvent run.operationId) [])

/-! ## Applying the revisions -/

/-- What a revision that deletes nothing makes of a row, among all the revisions. -/
def reviseMessage (revisions : List ChatHistoryRevision) (message : TranscriptMessage) : ChatHistoryRevision → TranscriptMessage
  | .message_edited id content => if message.id = id then { message with content := content } else message
  -- Image bodies are purged from the evidence when the removal is recorded.
  | .image_removed _ _ id _ _ =>
    if message.id = id then { message with removedImageCount := some (message.removedImageCount.getD 0 + 1) } else message
  | .image_caption_updated original id _ caption =>
    if message.id = id then
      { message with imageMeta := message.imageMeta.map fun imageMeta => imageMeta.mapIdx fun index metadata =>
          if originalImageIndex revisions message.id index = original then metadata.captioned caption else metadata }
    else message
  | _ => message

def applyRevision (revisions : List ChatHistoryRevision) (retained : List TranscriptMessage) (revision : ChatHistoryRevision) :
    List TranscriptMessage :=
  match revision with
  | .message_deleted messageIds => retained.filter fun message => !messageIds.contains message.id
  | revision => retained.map fun message => reviseMessage revisions message revision

def applyChatDisplayRevisions (messages : List TranscriptMessage) (revisions : List ChatHistoryRevision) : List TranscriptMessage :=
  revisions.foldl (applyRevision revisions) messages

/-- `rebuildChatRun`: the row of a message, from the journal alone. -/
def rebuiltRow (operationId : JsString) (journal : Journal) : Option TranscriptMessage :=
  (journal.find? fun run => run.operationId == operationId).bind fun run =>
    (applyChatDisplayRevisions (projectRun run) (readChatHistoryRevisions journal)).find? fun message => message.id == messageId

/-! ## The stored row -/

/-- The columns `images`, `image_meta` and `removed_image_count` of a message. -/
structure MessageImageRow where
  images : Option (List JsString)
  imageMeta : Option (List ImageMetadata)
  removedImageCount : Nat
  deriving DecidableEq

/-- `imageMeta.length > 0 ? imageMeta : null`. -/
def storedMeta (imageMeta : List ImageMetadata) : Option (List ImageMetadata) :=
  if imageMeta.isEmpty then none else some imageMeta

/-- `insertChatMessages`. -/
def TranscriptMessage.stored (message : TranscriptMessage) : MessageImageRow :=
  ⟨some (message.images.getD []), storedMeta (message.imageMeta.getD []), message.removedImageCount.getD 0⟩

/-- The journal of a session, and the stored row of the message. -/
structure MessageState where
  journal : Journal
  row : Option MessageImageRow

inductive ImageFailure where
  /-- `ChatMessageImageNotFoundError`. -/
  | notFound
  | captionRequired
  | evidence (thrown : Thrown)

namespace MessageState

def updateChatMessageImageCaption (operationId caption : JsString) (state : MessageState) : Except ImageFailure MessageState :=
  if (trim caption).isEmpty then .error .captionRequired
  else match state.row with
    | none => .error .notFound
    | some row =>
      match (row.images.getD [])[imageIndex]?, row.imageMeta with
      | none, _ => .error .notFound
      | some _, none => .error .notFound
      | some _, some imageMeta =>
        if imageIndex < imageMeta.length then
          .ok ⟨recordChatHistoryRevision operationId
              (.image_caption_updated (resolveOriginalChatImageIndex state.journal messageId imageIndex) messageId imageIndex
                (trim caption)) state.journal,
            some { row with imageMeta := some (imageMeta.modify imageIndex (·.captioned (trim caption))) }⟩
        else .error .notFound

def deleteChatMessageImage (sha256 : JsString → JsString) (operationId : JsString) (state : MessageState) :
    Except ImageFailure MessageState :=
  match state.row with
  | none => .error .notFound
  | some row =>
    match (row.images.getD [])[imageIndex]? with
    | none => .error .notFound
    | some payload =>
      match removeChatImageEvidence messageId imageIndex payload sha256 operationId state.journal with
      | .error thrown => .error (.evidence thrown)
      | .ok journal =>
        .ok ⟨journal, some
          { images := some ((row.images.getD []).eraseIdx imageIndex)
            imageMeta := storedMeta ((row.imageMeta.getD []).eraseIdx imageIndex)
            removedImageCount := row.removedImageCount + 1 }⟩

/-- The row is rebuilt from the journal of its run. -/
def rebuild (runId : JsString) (state : MessageState) : MessageState :=
  { state with row := (rebuiltRow messageId runId state.journal).map TranscriptMessage.stored }

end MessageState

end SiftKit.Chat.ImageRevisions
