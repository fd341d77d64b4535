import SiftKit.Chat.ImageRevisionsEffects
import SiftKit.Foundation.Runs

/-! # Image edits address the image the user saw

Removals and captions of the images of one message, each at the position that the image has among those
visible at that time, in any order: the row that is rebuilt from the journal carries the images that were
never removed, in their original order, each with its last caption.
-/

namespace SiftKit.Chat.ImageRevisions

open SiftKit.Json SiftKit.Json.Schema SiftKit.Failure SiftKit.Positions SiftKit.Runs
open SiftKit.Chat.ImageRevisions.ChatHistoryRevision

/-! ## What the user sees -/

/-- An edit of the images of a message, at a visible position. -/
inductive ImageEdit where
  | remove (imageIndex : Nat)
  | caption (imageIndex : Nat) (text : JsString)
  deriving DecidableEq

/-- A caption is given without the white space around it. -/
def ImageEdit.trimmed : ImageEdit → ImageEdit
  | .remove imageIndex => .remove imageIndex
  | .caption imageIndex text => .caption imageIndex (trim text)

/-- The images that are visible, by their original positions, and the last caption that each of them was given. -/
structure Shown where
  kept : List Nat
  captions : Nat → Option JsString

namespace Shown

/-- Every image, with its own metadata. -/
def all (count : Nat) : Shown := ⟨List.range count, fun _ => none⟩

def follow (shown : Shown) : ImageEdit → Shown
  | .remove imageIndex => { shown with kept := shown.kept.eraseIdx imageIndex }
  | .caption imageIndex caption =>
    { shown with
      captions := fun original => if shown.kept[imageIndex]? = some original then some caption else shown.captions original }

end Shown

/-- The metadata of an image under its last caption. -/
def withCaption (caption : Option JsString) (metadata : ImageMetadata) : ImageMetadata :=
  match caption with
  | some caption => metadata.captioned caption
  | none => metadata

/-- The attachments of a row are the original ones that are shown, under their captions. -/
structure Carries (original : Attachments) (shown : Shown) (attachments : Attachments) : Prop where
  images : attachments.images.map some = shown.kept.map fun position => original.images[position]?
  metadata : ∀ (visible position : Nat), shown.kept[visible]? = some position →
    attachments.imageMeta[visible]? = original.imageMeta[position]?.map (withCaption (shown.captions position))

def TranscriptMessage.attachments (message : TranscriptMessage) : Attachments :=
  ⟨message.images.getD [], message.imageMeta.getD []⟩

def MessageImageRow.attachments (row : MessageImageRow) : Attachments := ⟨row.images.getD [], row.imageMeta.getD []⟩

theorem stored_attachments (message : TranscriptMessage) : message.stored.attachments = message.attachments := by
  unfold TranscriptMessage.stored MessageImageRow.attachments storedMeta TranscriptMessage.attachments
  cases message.imageMeta with
  | none => rfl
  | some imageMeta => cases imageMeta <;> rfl

namespace Carries

variable {original attachments : Attachments} {shown : Shown}

section

variable (carries : Carries original shown attachments)

include carries

theorem length : attachments.images.length = shown.kept.length := by
  simpa using congrArg List.length carries.images

theorem stands {imageIndex : Nat} {payload : JsString}
    (visible : attachments.images[imageIndex]? = some payload) : imageIndex < shown.kept.length := by
  rw [← carries.length]
  exact (List.getElem?_eq_some_iff.mp visible).1

theorem removed (imageIndex : Nat) :
    Carries original (shown.follow (.remove imageIndex)) (attachments.without imageIndex) := by
  constructor
  · simp only [Shown.follow, Attachments.without, ← List.eraseIdx_map, carries.images]
  · intro visible position stands
    simp only [Shown.follow, Attachments.without, List.getElem?_eraseIdx] at stands ⊢
    by_cases before : visible < imageIndex
    · simp only [if_pos before] at stands ⊢
      exact carries.metadata visible position stands
    · simp only [if_neg before] at stands ⊢
      exact carries.metadata (visible + 1) position stands

theorem captioned (distinct : shown.kept.Nodup) {imageIndex : Nat}
    (within : imageIndex < shown.kept.length) (caption : JsString) :
    Carries original (shown.follow (.caption imageIndex caption))
      { attachments with imageMeta := attachments.imageMeta.modify imageIndex (·.captioned caption) } := by
  refine ⟨carries.images, fun visible position stands => ?_⟩
  have before := carries.metadata visible position stands
  simp only [Shown.follow] at stands ⊢
  rw [List.getElem?_modify, before]
  cases original.imageMeta[position]? with
  | none => rfl
  | some metadata =>
    by_cases here : imageIndex = visible
    · subst here
      cases given : shown.captions position <;> simp [stands, withCaption, ImageMetadata.captioned]
    · have elsewhere : shown.kept[imageIndex]? ≠ some position := by
        intro same
        exact here ((List.getElem?_inj within distinct).mp (same.trans stands.symm))
      simp [here, elsewhere]

end

end Carries

/-! ## What the revisions make of a row -/

section Revisions

variable (messageId : JsString)

def ChatHistoryRevision.deletes (messageId : JsString) : ChatHistoryRevision → Bool
  | .message_deleted messageIds => messageIds.contains messageId
  | _ => false

/-- The caption that a revision gives to an image of the message. -/
def ChatHistoryRevision.captionFor? (messageId : JsString) (position : Nat) : ChatHistoryRevision → Option JsString
  | .image_caption_updated original id _ caption => if id = messageId ∧ original = position then some caption else none
  | _ => none

/-- The last caption that revisions give to an image of the message. -/
def captionOf (revisions : List ChatHistoryRevision) (position : Nat) : Option JsString :=
  (revisions.filterMap (captionFor? messageId position)).getLast?

theorem reviseMessage_id (revisions : List ChatHistoryRevision) (message : TranscriptMessage) (revision : ChatHistoryRevision) :
    (reviseMessage revisions message revision).id = message.id := by
  unfold reviseMessage
  split <;> first | rfl | (split <;> rfl)

variable {messageId}

variable (all : List ChatHistoryRevision)

/-- Revisions that do not delete a message revise its row, and nothing else happens to it. -/
theorem find?_revised {revisions : List ChatHistoryRevision}
    (kept : ∀ revision ∈ revisions, revision.deletes messageId = false) (messages : List TranscriptMessage) :
    (revisions.foldl (applyRevision all) messages).find? (fun message => message.id == messageId) =
      (messages.find? fun message => message.id == messageId).map fun message => revisions.foldl (reviseMessage all) message := by
  induction revisions generalizing messages with
  | nil => simp
  | cons revision rest ih =>
    rw [List.foldl_cons, ih fun other member => kept other (List.mem_cons_of_mem _ member)]
    have first : (applyRevision all messages revision).find? (fun message => message.id == messageId) =
        (messages.find? fun message => message.id == messageId).map fun message => reviseMessage all message revision := by
      cases revision with
      | message_deleted messageIds =>
        have spared : messageId ∉ messageIds := by
          simpa [deletes] using kept _ (List.mem_cons_self ..)
        have same : ∀ message : TranscriptMessage,
            decide ((!messageIds.contains message.id) = true ∧ (message.id == messageId) = true) = (message.id == messageId) := by
          intro message
          by_cases own : message.id = messageId <;> simp [own, spared]
        rw [applyRevision, List.find?_filter]
        simp only [same, reviseMessage, Option.map_id']
      | _ => exact find?_map_id (fun message => reviseMessage_id all message _) messages messageId
    rw [first, Option.map_map]
    rfl

theorem withCaption_withCaption (later earlier : Option JsString) (metadata : ImageMetadata) :
    withCaption later (withCaption earlier metadata) = withCaption (later.or earlier) metadata := by
  cases later <;> cases earlier <;> rfl

theorem mapIdx_unchanged (imageMeta : List ImageMetadata) : imageMeta.mapIdx (fun _ metadata => metadata) = imageMeta := by
  apply List.ext_getElem?
  simp

theorem captionOf_append (early : List ChatHistoryRevision) (last : ChatHistoryRevision) (position : Nat) :
    captionOf messageId (early ++ [last]) position = (last.captionFor? messageId position).or (captionOf messageId early position) := by
  unfold captionOf
  cases given : last.captionFor? messageId position <;> simp [given]

/-- One revision captions one image at most. -/
theorem reviseMessage_attachments (revision : ChatHistoryRevision) {message : TranscriptMessage}
    (own : message.id = messageId) :
    (reviseMessage all message revision).attachments =
      { message.attachments with
        imageMeta := message.attachments.imageMeta.mapIdx fun index metadata =>
          withCaption (revision.captionFor? messageId (originalImageIndex all messageId index)) metadata } := by
  have unchanged : ∀ attachments : Attachments,
      { attachments with imageMeta := attachments.imageMeta.mapIdx fun _ metadata => withCaption none metadata } = attachments := by
    intro attachments
    simp only [withCaption, mapIdx_unchanged]
  cases revision with
  | image_caption_updated original id imageIndex caption =>
    by_cases here : id = messageId
    · subst here
      simp only [reviseMessage, own, if_true, TranscriptMessage.attachments, captionFor?, true_and]
      congr 1
      cases message.imageMeta with
      | none => rfl
      | some imageMeta =>
        simp only [Option.map_some, Option.getD_some]
        congr 1
        funext index metadata
        by_cases same : original = originalImageIndex all id index
        · simp [same, withCaption]
        · simp [same, Ne.symm same, withCaption]
    · simp only [reviseMessage, own, Ne.symm here, here, if_false, captionFor?, false_and, unchanged]
  | message_edited id content =>
    simp only [reviseMessage, captionFor?, unchanged]
    split <;> rfl
  | image_removed payloadDigest original id imageIndex imagePathKey =>
    simp only [reviseMessage, captionFor?, unchanged]
    split <;> rfl
  | message_deleted messageIds => simp only [reviseMessage, captionFor?, unchanged]
  | condensed summaryMessageId compressedMessageIds => simp only [reviseMessage, captionFor?, unchanged]

/-- The attachments of a revised row: the images stay, and each image has the last caption it was given. -/
theorem revised_attachments (revisions : List ChatHistoryRevision) {message : TranscriptMessage}
    (own : message.id = messageId) :
    (revisions.foldl (reviseMessage all) message).attachments =
      { message.attachments with
        imageMeta := message.attachments.imageMeta.mapIdx fun index metadata =>
          withCaption (captionOf messageId revisions (originalImageIndex all messageId index)) metadata } := by
  have keepsId : ∀ revisions : List ChatHistoryRevision, (revisions.foldl (reviseMessage all) message).id = messageId := by
    intro revisions
    induction revisions using List.reverseRecOn with
    | nil => exact own
    | append_singleton early last ih =>
      rw [List.foldl_append, List.foldl_cons, List.foldl_nil, reviseMessage_id, ih]
  induction revisions using List.reverseRecOn with
  | nil =>
    simp only [captionOf, List.filterMap_nil, List.getLast?_nil, withCaption, mapIdx_unchanged]
    rfl
  | append_singleton early last ih =>
    rw [List.foldl_append, List.foldl_cons, List.foldl_nil, reviseMessage_attachments all last (keepsId early), ih]
    simp only [List.mapIdx_mapIdx, Function.comp_def, captionOf_append, withCaption_withCaption]

end Revisions

/-! ## The journal after an edit -/

section Journals

variable {messageId runId payload operationId : JsString} {imageIndex : Nat} {journal purged : Journal}

/-- The row of a message before the revisions are applied to it. -/
def projectedRow (messageId runId : JsString) (journal : Journal) : Option TranscriptMessage :=
  (journal.find? fun run => run.operationId == runId).bind fun run => (projectRun run).find? fun message => message.id == messageId

theorem rebuiltRow_eq (kept : ∀ revision ∈ readChatHistoryRevisions journal, revision.deletes messageId = false) :
    rebuiltRow messageId runId journal = (projectedRow messageId runId journal).map fun message =>
      (readChatHistoryRevisions journal).foldl (reviseMessage (readChatHistoryRevisions journal)) message := by
  unfold rebuiltRow projectedRow applyChatDisplayRevisions
  cases journal.find? fun run => run.operationId == runId with
  | none => rfl
  | some run => exact find?_revised _ kept (projectRun run)

variable {message : TranscriptMessage}

theorem projectedRow_id (projected : projectedRow messageId runId journal = some message) :
    message.id = messageId := by
  obtain ⟨run, _, found⟩ := Option.bind_eq_some_iff.mp projected
  simpa using List.find?_some found

theorem recorded_revision (projected : projectedRow messageId runId journal = some message) (operationId : JsString)
    (revision : ChatHistoryRevision) :
    readChatHistoryRevisions (recordChatHistoryRevision operationId revision journal) = readChatHistoryRevisions journal ++ [revision] ∧
      projectedRow messageId runId (recordChatHistoryRevision operationId revision journal) = some message := by
  obtain ⟨run, found, projectedRun⟩ := Option.bind_eq_some_iff.mp projected
  have nonempty : journal.isEmpty = false := by
    cases journal with
    | nil => cases found
    | cons => rfl
  have record : recordChatHistoryRevision operationId revision journal = journal ++ [⟨operationId, [.history_revised revision]⟩] := by
    simp [recordChatHistoryRevision, nonempty]
  rw [record]
  constructor
  · simp [readChatHistoryRevisions, ChatJournalEvent.revision?]
  · rw [projectedRow, List.find?_append, found]
    exact projectedRun

section

variable (removed : journal.mapM (removeImageFromRun messageId imageIndex payload) = .ok purged)

include removed

theorem purged_revisions :
    readChatHistoryRevisions purged = readChatHistoryRevisions journal := by
  have kept : ∀ {run kept : ChatRun}, removeImageFromRun messageId imageIndex payload run = .ok kept →
      kept.events.filterMap ChatJournalEvent.revision? = run.events.filterMap ChatJournalEvent.revision? :=
    fun removed => filterMap_removed (fun removed => (removed_reads removed).2.2) (removed_events removed).2
  have same := map_of_mapM kept removed
  unfold readChatHistoryRevisions
  rw [List.flatMap_def, List.flatMap_def, same]

theorem purged_run {run : ChatRun}
    (found : journal.find? (fun run => run.operationId == runId) = some run) :
    ∃ kept, purged.find? (fun run => run.operationId == runId) = some kept ∧ removeImageFromRun messageId imageIndex payload run = .ok kept := by
  have rounds := mapM_eq_ok.mp removed
  clear removed
  induction rounds with
  | nil => cases found
  | @cons first kept journal purged round _ ih =>
    have sameId := (removed_events round).1
    rw [List.find?_cons] at found ⊢
    rw [sameId]
    split at found
    · cases found
      exact ⟨kept, rfl, round⟩
    · exact ih found

end

/-- The frames of the run that show the message carry no metadata of the image. -/
def MetadataSpared (messageId runId : JsString) (imageIndex : Nat) (journal : Journal) : Bool :=
  (journal.find? fun run => run.operationId == runId).all fun run => run.events.all (·.spares messageId imageIndex)

/-- Where the image is purged from the evidence, it is taken out of the projected row. -/
theorem purged_row (removed : journal.mapM (removeImageFromRun messageId imageIndex payload) = .ok purged)
    (spared : MetadataSpared messageId runId imageIndex journal = true)
    (projected : projectedRow messageId runId journal = some message) :
    projectedRow messageId runId purged = some (removeImageFromMessage messageId imageIndex message) := by
  obtain ⟨run, found, projectedRun⟩ := Option.bind_eq_some_iff.mp projected
  obtain ⟨kept, keptFound, round⟩ := purged_run removed found
  have spares : ∀ event ∈ run.events, event.spares messageId imageIndex = true := by
    simpa [MetadataSpared, found] using spared
  rw [projectedRow, keptFound, Option.bind_some, projectRun_removed round spares, find?_map_id removeImageFromMessage_id, projectedRun]
  rfl

theorem removeImageFromMessage_attachments (own : message.id = messageId) :
    (removeImageFromMessage messageId imageIndex message).attachments = message.attachments.without imageIndex := by
  simp only [removeImageFromMessage, own, if_true, TranscriptMessage.attachments, Attachments.without]
  cases message.images <;> cases message.imageMeta <;> rfl

end Journals

/-! ## What an edit keeps true -/

/-- The operations on a message: an edit of its images, recorded under an operation id, or a rebuild of its row. -/
inductive Operation where
  | edit (operationId : JsString) (edit : ImageEdit)
  | rebuild

variable {state : MessageState} {original : Attachments}

section Edits

variable (messageId runId : JsString) (sha256 : JsString → JsString)

def edited (operationId : JsString) (state : MessageState) : ImageEdit → Except ImageFailure MessageState
  | .remove imageIndex => state.deleteChatMessageImage messageId imageIndex sha256 operationId
  | .caption imageIndex caption => state.updateChatMessageImageCaption messageId imageIndex operationId caption

/-- An edit that fails changes nothing. -/
def step (state : MessageState) : Operation → MessageState
  | .edit operationId edit => (edited messageId sha256 operationId state edit).toOption.getD state
  | .rebuild => state.rebuild messageId runId

/-- The edits that were made, as they were given. -/
def made (state : MessageState) : Operation → List ImageEdit
  | .edit operationId edit => if (edited messageId sha256 operationId state edit).isOk then [edit.trimmed] else []
  | .rebuild => []

/-- A removed image has no metadata in the frames that show the message. -/
def spared (state : MessageState) : Operation → Bool
  | .edit _ (.remove imageIndex) => MetadataSpared messageId runId imageIndex state.journal
  | _ => true

variable {sha256}

theorem storedMeta_getD (imageMeta : List ImageMetadata) : (storedMeta imageMeta).getD [] = imageMeta := by
  cases imageMeta <;> rfl

variable {operationId : JsString} {after : MessageState} {imageIndex : Nat}

theorem deleteChatMessageImage_eq_ok {messageId : JsString}
    {row : MessageImageRow} (stored : state.row = some row)
    (done : state.deleteChatMessageImage messageId imageIndex sha256 operationId = .ok after) :
    ∃ payload purged, (row.images.getD [])[imageIndex]? = some payload ∧
      state.journal.mapM (removeImageFromRun messageId imageIndex payload) = .ok purged ∧
      after = ⟨recordChatHistoryRevision operationId
          (.image_removed (sha256 payload) (resolveOriginalChatImageIndex state.journal messageId imageIndex) messageId imageIndex none)
          purged,
        some ⟨some ((row.images.getD []).eraseIdx imageIndex), storedMeta ((row.imageMeta.getD []).eraseIdx imageIndex),
          row.removedImageCount + 1⟩⟩ := by
  simp only [MessageState.deleteChatMessageImage, stored] at done
  split at done
  · cases done
  next payload visible =>
    split at done
    · cases done
    next journal evidence =>
      obtain ⟨purged, removed, rfl⟩ := map_eq_ok.mp evidence
      cases done
      exact ⟨payload, purged, visible, removed, rfl⟩

theorem updateChatMessageImageCaption_eq_ok {messageId caption : JsString}
    {row : MessageImageRow} (stored : state.row = some row)
    (done : state.updateChatMessageImageCaption messageId imageIndex operationId caption = .ok after) :
    ∃ payload imageMeta, (row.images.getD [])[imageIndex]? = some payload ∧ row.imageMeta = some imageMeta ∧
      after = ⟨recordChatHistoryRevision operationId
          (.image_caption_updated (resolveOriginalChatImageIndex state.journal messageId imageIndex) messageId imageIndex (trim caption))
          state.journal,
        some { row with imageMeta := some (imageMeta.modify imageIndex (·.captioned (trim caption))) }⟩ := by
  simp only [MessageState.updateChatMessageImageCaption, stored] at done
  split at done
  · cases done
  · split at done
    · cases done
    · cases done
    next payload imageMeta visible measured =>
      split at done
      · cases done
        exact ⟨payload, imageMeta, visible, measured, rfl⟩
      · cases done

/-- The journal and the stored row of a message are those of what is shown of it. -/
structure Tracks (original : Attachments) (state : MessageState) (shown : Shown) : Prop where
  projected : ∃ message, projectedRow messageId runId state.journal = some message ∧
    Carries original ⟨shown.kept, fun _ => none⟩ message.attachments
  undeleted : ∀ revision ∈ readChatHistoryRevisions state.journal, revision.deletes messageId = false
  kept : shown.kept =
    left original.images.length ((readChatHistoryRevisions state.journal).filterMap (removedIndex? messageId))
  captions : shown.captions = captionOf messageId (readChatHistoryRevisions state.journal)
  stored : ∃ row, state.row = some row ∧ Carries original shown row.attachments

namespace Tracks

variable {messageId runId} {original : Attachments} {state : MessageState} {shown : Shown}

section

variable (tracks : Tracks messageId runId original state shown)

include tracks

theorem translates {visible : Nat} (within : visible < shown.kept.length) :
    shown.kept[visible]? = some (originalImageIndex (readChatHistoryRevisions state.journal) messageId visible) := by
  rw [tracks.kept] at within ⊢
  exact getElem?_shifted within

/-- The row that is rebuilt shows the images under their captions. -/
theorem rebuilt :
    ∃ message, rebuiltRow messageId runId state.journal = some message ∧ Carries original shown message.attachments := by
  obtain ⟨message, projected, carries⟩ := tracks.projected
  have revised := revised_attachments (readChatHistoryRevisions state.journal) (readChatHistoryRevisions state.journal)
    (projectedRow_id projected)
  refine ⟨_, (rebuiltRow_eq tracks.undeleted).trans (congrArg _ projected), ?_⟩
  rw [revised]
  refine ⟨carries.images, fun visible position stands => ?_⟩
  have within : visible < shown.kept.length := (List.getElem?_eq_some_iff.mp stands).1
  -- The replay translates the position once more, against every removal of the journal.
  have translated : originalImageIndex (readChatHistoryRevisions state.journal) messageId visible = position := by
    rw [tracks.translates within] at stands
    exact Option.some.inj stands
  have own := carries.metadata visible position stands
  simp only [List.getElem?_mapIdx, translated, tracks.captions, own, Option.map_map]
  rfl

theorem removed
    (spared : MetadataSpared messageId runId imageIndex state.journal = true)
    (done : state.deleteChatMessageImage messageId imageIndex sha256 operationId = .ok after) :
    Tracks messageId runId original after (shown.follow (.remove imageIndex)) := by
  obtain ⟨row, stored, carriesRow⟩ := tracks.stored
  obtain ⟨message, projected, carries⟩ := tracks.projected
  obtain ⟨payload, purged, visible, removed, rfl⟩ := deleteChatMessageImage_eq_ok stored done
  have stands := tracks.translates (carriesRow.stands visible)
  have purgedRow := purged_row removed spared projected
  obtain ⟨revisions, kept⟩ := recorded_revision purgedRow operationId
    (.image_removed (sha256 payload) (resolveOriginalChatImageIndex state.journal messageId imageIndex) messageId imageIndex none)
  rw [purged_revisions removed] at revisions
  constructor
  · refine ⟨_, kept, ?_⟩
    rw [removeImageFromMessage_attachments (projectedRow_id projected)]
    exact carries.removed imageIndex
  · intro revision member
    rw [revisions, List.mem_append, List.mem_singleton] at member
    rcases member with early | rfl
    · exact tracks.undeleted revision early
    · rfl
  · simp only [revisions, List.filterMap_append]
    rw [tracks.kept] at stands
    have one := left_append stands
    simp [Shown.follow, tracks.kept, one, removedIndex?, resolveOriginalChatImageIndex]
  · funext position
    simp [revisions, captionOf_append, captionFor?, Shown.follow, tracks.captions]
  · refine ⟨_, rfl, ?_⟩
    have both := carriesRow.removed imageIndex
    simpa [MessageImageRow.attachments, Attachments.without, storedMeta_getD] using both

theorem captioned {caption : JsString}
    (done : state.updateChatMessageImageCaption messageId imageIndex operationId caption = .ok after) :
    Tracks messageId runId original after (shown.follow (.caption imageIndex (trim caption))) := by
  obtain ⟨row, stored, carriesRow⟩ := tracks.stored
  obtain ⟨message, projected, carries⟩ := tracks.projected
  obtain ⟨payload, imageMeta, visible, measured, rfl⟩ := updateChatMessageImageCaption_eq_ok stored done
  have within := carriesRow.stands visible
  have stands := tracks.translates within
  obtain ⟨revisions, kept⟩ := recorded_revision projected operationId
    (.image_caption_updated (resolveOriginalChatImageIndex state.journal messageId imageIndex) messageId imageIndex (trim caption))
  constructor
  · exact ⟨_, kept, carries⟩
  · intro revision member
    rw [revisions, List.mem_append, List.mem_singleton] at member
    rcases member with early | rfl
    · exact tracks.undeleted revision early
    · rfl
  · simp only [revisions, List.filterMap_append]
    simp [Shown.follow, tracks.kept, List.filterMap_cons, removedIndex?]
  · funext position
    simp only [revisions, captionOf_append]
    simp only [captionFor?, Shown.follow, tracks.captions, stands, resolveOriginalChatImageIndex]
    by_cases same : originalImageIndex (readChatHistoryRevisions state.journal) messageId imageIndex = position
    · simp [same]
    · simp [same]
  · refine ⟨_, rfl, ?_⟩
    have distinct : shown.kept.Nodup := by
      rw [tracks.kept]
      exact left_nodup _ _
    have one := carriesRow.captioned distinct within (trim caption)
    simpa [MessageImageRow.attachments, measured] using one

theorem rebuild : Tracks messageId runId original (state.rebuild messageId runId) shown := by
  obtain ⟨message, row, carries⟩ := tracks.rebuilt
  refine { tracks with stored := ⟨message.stored, ?_, ?_⟩ }
  · simp [MessageState.rebuild, row]
  · rw [stored_attachments]
    exact carries

end

end Tracks

theorem step_tracks (sha256 : JsString → JsString) {messageId runId : JsString} {shown : Shown}
    (tracks : Tracks messageId runId original state shown) (operation : Operation)
    (spares : spared messageId runId state operation = true) :
    Tracks messageId runId original (step messageId runId sha256 state operation)
      ((made messageId sha256 state operation).foldl Shown.follow shown) := by
  cases operation with
  | rebuild => exact tracks.rebuild
  | edit operationId edit =>
    cases done : edited messageId sha256 operationId state edit with
    | error failure =>
      simpa [step, made, done, Except.toOption, Except.isOk, Except.toBool] using tracks
    | ok after =>
      simp only [step, made, done, Except.toOption, Except.isOk, Except.toBool, Option.getD_some, if_true, List.foldl_cons, List.foldl_nil]
      cases edit with
      | remove imageIndex => exact tracks.removed spares done
      | caption imageIndex caption => exact tracks.captioned done

end Edits

/-! ## Every sequence of edits -/

/-- The revision is about the images of the message, or deletes the message. -/
def ChatHistoryRevision.touches (messageId : JsString) : ChatHistoryRevision → Bool
  | .message_deleted messageIds => messageIds.contains messageId
  | .image_removed _ _ id _ _ => id == messageId
  | .image_caption_updated _ id _ _ => id == messageId
  | _ => false

/-- A message as it was admitted: nothing was revised of its images, and the stored row is the rebuilt one. -/
structure Admitted (messageId runId : JsString) (original : Attachments) (state : MessageState) : Prop where
  rebuilt : ∃ message, rebuiltRow messageId runId state.journal = some message ∧ message.attachments = original ∧
    state.row = some message.stored
  untouched : ∀ revision ∈ readChatHistoryRevisions state.journal, revision.touches messageId = false

theorem untouched_reads {messageId : JsString} {revision : ChatHistoryRevision} (untouched : revision.touches messageId = false) :
    revision.deletes messageId = false ∧ revision.removedIndex? messageId = none ∧
      ∀ position, revision.captionFor? messageId position = none := by
  cases revision with
  | message_deleted messageIds => exact ⟨untouched, rfl, fun _ => rfl⟩
  | image_removed payloadDigest original id imageIndex imagePathKey =>
    have other : id ≠ messageId := by simpa [touches] using untouched
    simp [deletes, removedIndex?, captionFor?, other]
  | image_caption_updated original id imageIndex caption =>
    have other : id ≠ messageId := by simpa [touches] using untouched
    simp [deletes, removedIndex?, captionFor?, other]
  | message_edited id content => exact ⟨rfl, rfl, fun _ => rfl⟩
  | condensed summaryMessageId compressedMessageIds => exact ⟨rfl, rfl, fun _ => rfl⟩

theorem carries_all (original : Attachments) : Carries original (.all original.images.length) original := by
  constructor
  · apply List.ext_getElem?
    intro position
    by_cases within : position < original.images.length <;> simp [Shown.all, within]
  · intro visible position stands
    obtain ⟨within, same⟩ := List.getElem?_eq_some_iff.mp stands
    have here : visible = position := by simpa [Shown.all] using same
    cases given : original.imageMeta[position]? <;> simp [here, given, Shown.all, withCaption]

theorem Admitted.tracks {messageId runId : JsString}
    (admitted : Admitted messageId runId original state) : Tracks messageId runId original state (.all original.images.length) := by
  obtain ⟨message, rebuilt, attachments, stored⟩ := admitted.rebuilt
  have undeleted : ∀ revision ∈ readChatHistoryRevisions state.journal, revision.deletes messageId = false :=
    fun revision member => (untouched_reads (admitted.untouched revision member)).1
  have uncaptioned : ∀ position, captionOf messageId (readChatHistoryRevisions state.journal) position = none := by
    intro position
    have none : (readChatHistoryRevisions state.journal).filterMap (captionFor? messageId position) = [] := by
      rw [List.filterMap_eq_nil_iff]
      exact fun revision member => (untouched_reads (admitted.untouched revision member)).2.2 position
    rw [captionOf, none, List.getLast?_nil]
  have unremoved : (readChatHistoryRevisions state.journal).filterMap (removedIndex? messageId) = [] := by
    rw [List.filterMap_eq_nil_iff]
    exact fun revision member => (untouched_reads (admitted.untouched revision member)).2.1
  constructor
  · rw [rebuiltRow_eq undeleted, Option.map_eq_some_iff] at rebuilt
    obtain ⟨row, projected, rfl⟩ := rebuilt
    have same := revised_attachments (readChatHistoryRevisions state.journal) (readChatHistoryRevisions state.journal)
      (projectedRow_id projected)
    simp only [uncaptioned, withCaption, mapIdx_unchanged] at same
    refine ⟨row, projected, ?_⟩
    rw [← attachments, same]
    exact carries_all _
  · exact undeleted
  · rw [unremoved, left_none]
    rfl
  · funext position
    rw [uncaptioned]
    rfl
  · refine ⟨_, stored, ?_⟩
    rw [stored_attachments, attachments]
    exact carries_all original

/-- What a user is shown after the edits that were made. -/
def shownAfter (messageId runId : JsString) (sha256 : JsString → JsString) (original : Attachments) (state : MessageState)
    (operations : List Operation) : Shown :=
  (observed (step messageId runId sha256) (made messageId sha256) state operations).foldl Shown.follow (.all original.images.length)

theorem run_tracks {messageId runId : JsString} {sha256 : JsString → JsString}
    (admitted : Admitted messageId runId original state) {operations : List Operation}
    (spares : Throughout (step messageId runId sha256) (fun state operation => spared messageId runId state operation = true)
      state operations) :
    Tracks messageId runId original (run (step messageId runId sha256) state operations)
      (shownAfter messageId runId sha256 original state operations) := by
  induction operations using List.reverseRecOn with
  | nil => exact admitted.tracks
  | append_singleton operations last ih =>
    obtain ⟨early, spared⟩ := throughout_snoc.mp spares
    have one := step_tracks sha256 (ih early) last spared
    simpa [shownAfter, observed_snoc, run_append] using one

theorem shown_sublist (edits : List ImageEdit) (shown : Shown) : (edits.foldl Shown.follow shown).kept.Sublist shown.kept := by
  induction edits generalizing shown with
  | nil => exact List.Sublist.refl _
  | cons edit rest ih =>
    apply (ih (shown.follow edit)).trans
    cases edit with
    | remove imageIndex => exact List.eraseIdx_sublist ..
    | caption imageIndex caption => exact List.Sublist.refl _

/-- Two images, and what was measured of them. -/
def twoImages : Attachments :=
  ⟨[utf16 "data:a", utf16 "data:b"], [⟨8, 8, 8, 8, .png, 100, 4, false, none⟩, ⟨16, 16, 32, 32, .webp, 200, 8, true, none⟩]⟩

/-- A session with one message, that the events of a run carry. -/
def sessionOf (events : List ChatJournalEvent) : MessageState :=
  ⟨[⟨utf16 "r", events⟩], (rebuiltRow (utf16 "u") (utf16 "r") [⟨utf16 "r", events⟩]).map TranscriptMessage.stored⟩

/-- Captions and a removal, with the row rebuilt in between. -/
def interleavedEdits : List Operation :=
  [.edit (utf16 "e1") (.caption 1 (utf16 " second ")), .edit (utf16 "e2") (.remove 0), .rebuild,
    .edit (utf16 "e3") (.caption 0 (utf16 "still second"))]

end SiftKit.Chat.ImageRevisions
