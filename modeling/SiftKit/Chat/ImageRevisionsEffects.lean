import SiftKit.Chat.ImageRevisions

/-! # What a removed image changes in the rows

Purging an image from the evidence of a run, and then folding the evidence, is folding the evidence and then
taking the image out of the row: event by event, and so for every run.
-/

namespace SiftKit.Chat.ImageRevisions

open SiftKit.Json SiftKit.Failure SiftKit.Positions SiftKit.Chat.ImageRevisions.ChatJournalEvent

variable {messageId payload operationId : JsString} {imageIndex : Nat}

/-! ## Rows keep their ids -/

@[simp] theorem removeImageFromMessage_id (message : TranscriptMessage) :
    (removeImageFromMessage messageId imageIndex message).id = message.id := by
  unfold removeImageFromMessage
  split <;> rfl

theorem removeImageFromMessage_blank (id content : JsString) :
    removeImageFromMessage messageId imageIndex (.blank id content) = .blank id content := by
  unfold removeImageFromMessage
  split <;> rfl

theorem removeImageFromMessage_attached (id content : JsString) (attachments : Attachments) :
    removeImageFromMessage messageId imageIndex (.attached id content attachments) =
      .attached id content (if id = messageId then attachments.without imageIndex else attachments) := by
  by_cases same : id = messageId <;>
    simp [removeImageFromMessage, TranscriptMessage.attached, TranscriptMessage.blank, Attachments.without, same]

theorem removeImageFromMessage_content (message : TranscriptMessage) (content : JsString) :
    removeImageFromMessage messageId imageIndex { message with content := content } =
      { removeImageFromMessage messageId imageIndex message with content := content } := by
  unfold removeImageFromMessage
  split <;> rfl

section Maps

variable {change : TranscriptMessage → TranscriptMessage} (keepsId : ∀ message, (change message).id = message.id)

include keepsId

variable (messages : List TranscriptMessage)

theorem upsertMessage_map (message : TranscriptMessage) :
    upsertMessage (messages.map change) (change message) = (upsertMessage messages message).map change := by
  induction messages with
  | nil => rfl
  | cons first rest ih =>
    simp only [List.map_cons, upsertMessage, keepsId, ih]
    split <;> simp

theorem find?_map_id (id : JsString) :
    (messages.map change).find? (fun message => message.id == id) = (messages.find? fun message => message.id == id).map change := by
  rw [List.find?_map]
  congr 2
  funext message
  simp [keepsId]

theorem filter_map_id (keep : JsString → Bool) :
    (messages.map change).filter (fun message => keep message.id) = (messages.filter fun message => keep message.id).map change := by
  rw [List.filter_map]
  congr 2
  funext message
  simp [keepsId]

theorem upsertText_map (id content : JsString)
    (writes : ∀ message content, change { message with content := content } = { change message with content := content })
    (blank : change (.blank id content) = .blank id content) :
    upsertText (messages.map change) id content = (upsertText messages id content).map change := by
  unfold upsertText
  rw [find?_map_id keepsId]
  cases messages.find? fun message => message.id == id with
  | none => simpa [blank] using upsertMessage_map keepsId messages (.blank id content)
  | some existing =>
    have written := upsertMessage_map keepsId messages { existing with content := content }
    rw [writes] at written
    exact written

theorem insertSummary_map (compaction : Compaction)
    (blank : change (.blank compaction.summaryId compaction.summary) = .blank compaction.summaryId compaction.summary) :
    insertSummary compaction (messages.map change) = (insertSummary compaction messages).map change := by
  have ids : (messages.map change).map TranscriptMessage.id = messages.map TranscriptMessage.id := by
    simp [Function.comp_def, keepsId]
  simp only [insertSummary, ids, List.map_append, List.map_cons, blank, List.map_take, List.map_drop]

end Maps

/-! ## Events -/

/-- The metadata that the two frames with a message carry for it. -/
def ChatJournalEvent.displayedMeta (messageId : JsString) : ChatJournalEvent → List ImageMetadata
  | .display (.submission id _ attachments) => if id = messageId then attachments.imageMeta else []
  | .display (.user_message id _ attachments) => if id = messageId then attachments.imageMeta else []
  | _ => []

/-- No frame of the message carries metadata of the image. -/
def ChatJournalEvent.spares (messageId : JsString) (imageIndex : Nat) (event : ChatJournalEvent) : Bool :=
  (event.displayedMeta messageId).length ≤ imageIndex

theorem attached_display {id : JsString} {attachments : Attachments} (content : JsString)
    (spares : id = messageId → attachments.imageMeta.length ≤ imageIndex) :
    TranscriptMessage.attached id content
        (if id = messageId then { attachments with images := attachments.images.eraseIdx imageIndex } else attachments) =
      removeImageFromMessage messageId imageIndex (.attached id content attachments) := by
  rw [removeImageFromMessage_attached]
  split
  next same => rw [Attachments.without, List.eraseIdx_of_length_le (spares same)]
  next => rfl

theorem reduce_removed (messages : List TranscriptMessage) {event : ChatTranscriptEvent}
    (spares : (ChatJournalEvent.display event).spares messageId imageIndex = true) :
    reduceChatTranscript (messages.map (removeImageFromMessage messageId imageIndex)) (removeImageFromDisplay messageId imageIndex event) =
      (reduceChatTranscript messages event).map (removeImageFromMessage messageId imageIndex) := by
  have upserted : ∀ (id content : JsString) (attachments : Attachments), (id = messageId → attachments.imageMeta.length ≤ imageIndex) →
      upsertMessage (messages.map (removeImageFromMessage messageId imageIndex)) (.attached id content
        (if id = messageId then { attachments with images := attachments.images.eraseIdx imageIndex } else attachments)) =
      (upsertMessage messages (.attached id content attachments)).map (removeImageFromMessage messageId imageIndex) := by
    intro id content attachments within
    rw [attached_display content within]
    exact upsertMessage_map removeImageFromMessage_id messages _
  cases event with
  | submission id content attachments =>
    have within : id = messageId → attachments.imageMeta.length ≤ imageIndex := by
      intro same
      simpa [ChatJournalEvent.spares, displayedMeta, same] using spares
    have taken := upserted id content attachments within
    by_cases same : id = messageId
    · simp only [removeImageFromDisplay, if_pos same] at taken ⊢
      exact taken
    · simp only [removeImageFromDisplay, if_neg same] at taken ⊢
      exact taken
  | user_message id content attachments =>
    have within : id = messageId → attachments.imageMeta.length ≤ imageIndex := by
      intro same
      simpa [ChatJournalEvent.spares, displayedMeta, same] using spares
    have taken := upserted id content attachments within
    by_cases same : id = messageId
    · simp only [removeImageFromDisplay, if_pos same] at taken ⊢
      exact taken
    · simp only [removeImageFromDisplay, if_neg same] at taken ⊢
      exact taken
  | frame id content =>
    exact upsertText_map removeImageFromMessage_id messages id content removeImageFromMessage_content
      (removeImageFromMessage_blank id content)

theorem applyEvent_removed (messages : List TranscriptMessage) {event kept : ChatJournalEvent}
    (removed : removeImageFromEvent messageId imageIndex payload operationId event = .ok kept)
    (spares : event.spares messageId imageIndex = true) :
    applyEvent operationId (messages.map (removeImageFromMessage messageId imageIndex)) kept =
      (applyEvent operationId messages event).map (removeImageFromMessage messageId imageIndex) := by
  have keepsId : ∀ message, (removeImageFromMessage messageId imageIndex message).id = message.id := removeImageFromMessage_id
  cases event with
  | run_started condense userMessageId content attachments =>
    cases removed
    cases condense with
    | true => rfl
    | false =>
      simp only [applyEvent, Bool.false_eq_true, if_false, reduceChatTranscript, ← removeImageFromMessage_attached]
      exact upsertMessage_map keepsId messages _
  | queue_delivered id content attachments =>
    cases removed
    simp only [applyEvent, reduceChatTranscript, ← removeImageFromMessage_attached]
    exact upsertMessage_map keepsId messages _
  | tool_result displayToolCallId output attachments =>
    cases removed
    simp only [applyEvent, List.map_map]
    apply List.map_congr_left
    intro message _
    by_cases own : message.id = toolMessageId operationId displayToolCallId
    · by_cases same : messageId = toolMessageId operationId displayToolCallId
      · simp [own, same, removeImageFromMessage, Attachments.without]
      · simp [own, same, Ne.symm same, removeImageFromMessage]
    · simp [own]
  | baseline_imported imported retainedContext =>
    obtain ⟨context, _, rfl⟩ := map_eq_ok.mp removed
    rfl
  | display event =>
    cases removed
    exact reduce_removed messages spares
  | context_initialized native =>
    obtain ⟨context, _, rfl⟩ := map_eq_ok.mp removed
    rfl
  | context_spliced inserted compaction =>
    obtain ⟨context, _, rfl⟩ := map_eq_ok.mp removed
    cases compaction with
    | none => rfl
    | some compaction => exact insertSummary_map keepsId messages compaction (removeImageFromMessage_blank _ _)
  | tool_proposed displayToolCallId command =>
    cases removed
    exact upsertText_map keepsId messages _ command removeImageFromMessage_content (removeImageFromMessage_blank _ command)
  | submission_cancelled userMessageId =>
    cases removed
    exact filter_map_id keepsId messages (· != userMessageId)
  | approval_resolved approvalId content =>
    cases removed
    simp [applyEvent, removeImageFromMessage_blank]
  | run_finished completed =>
    cases removed
    cases completed with
    | true => exact filter_map_id keepsId messages (· != progressMessageId operationId)
    | false => rfl
  | history_revised revision =>
    cases removed
    rfl
  | other =>
    cases removed
    rfl

/-! ## Runs -/

theorem removed_reads {event kept : ChatJournalEvent}
    (removed : removeImageFromEvent messageId imageIndex payload operationId event = .ok kept) :
    kept.isCancellation = event.isCancellation ∧ kept.completed? = event.completed? ∧ kept.revision? = event.revision? := by
  cases event with
  | baseline_imported | context_initialized | context_spliced =>
    obtain ⟨context, _, rfl⟩ := map_eq_ok.mp removed
    exact ⟨rfl, rfl, rfl⟩
  | _ =>
    cases removed
    exact ⟨rfl, rfl, rfl⟩

theorem removed_events {run kept : ChatRun} (removed : removeImageFromRun messageId imageIndex payload run = .ok kept) :
    kept.operationId = run.operationId ∧
      run.events.mapM (removeImageFromEvent messageId imageIndex payload run.operationId) = .ok kept.events := by
  obtain ⟨events, mapped, rfl⟩ := map_eq_ok.mp removed
  exact ⟨rfl, mapped⟩

theorem filterMap_removed {Reading : Type} {events kept : List ChatJournalEvent} {read : ChatJournalEvent → Option Reading}
    (same : ∀ {event event'}, removeImageFromEvent messageId imageIndex payload operationId event = .ok event' → read event' = read event)
    (removed : events.mapM (removeImageFromEvent messageId imageIndex payload operationId) = .ok kept) :
    kept.filterMap read = events.filterMap read := by
  have split : ∀ events : List ChatJournalEvent, events.filterMap read = (events.map read).filterMap id := by
    intro events
    rw [List.filterMap_map]
    rfl
  rw [split, split, map_of_mapM same removed]

theorem folded_removed {events kept : List ChatJournalEvent}
    (removed : List.Forall₂ (fun event event' => removeImageFromEvent messageId imageIndex payload operationId event = .ok event')
      events kept)
    (spares : ∀ event ∈ events, event.spares messageId imageIndex = true) (messages : List TranscriptMessage) :
    kept.foldl (applyEvent operationId) (messages.map (removeImageFromMessage messageId imageIndex)) =
      (events.foldl (applyEvent operationId) messages).map (removeImageFromMessage messageId imageIndex) := by
  induction removed generalizing messages with
  | nil => rfl
  | cons first rest ih =>
    rw [List.foldl_cons, List.foldl_cons, applyEvent_removed messages first (spares _ (List.mem_cons_self ..))]
    exact ih (fun event member => spares event (List.mem_cons_of_mem _ member)) _

section

variable {run kept : ChatRun} (removed : removeImageFromRun messageId imageIndex payload run = .ok kept)

include removed

theorem finish_removed (messages : List TranscriptMessage) :
    finish kept (messages.map (removeImageFromMessage messageId imageIndex)) =
      (finish run messages).map (removeImageFromMessage messageId imageIndex) := by
  obtain ⟨sameId, events⟩ := removed_events removed
  have causes : kept.events.filterMap completed? = run.events.filterMap completed? :=
    filterMap_removed (fun removed => (removed_reads removed).2.1) events
  have cancellations : kept.events.any isCancellation = run.events.any isCancellation := by
    have same : kept.events.map isCancellation = run.events.map isCancellation :=
      map_of_mapM (fun removed => (removed_reads removed).1) events
    have any : ∀ events : List ChatJournalEvent,
        events.any isCancellation = (events.map isCancellation).any id := by
      intro events
      rw [List.any_map]
      rfl
    rw [any, any, same]
  simp only [finish, causes, cancellations, sameId]
  split
  · exact filter_map_id removeImageFromMessage_id messages (· != progressMessageId run.operationId)
  · cases messages with
    | nil => simp [removeImageFromMessage_blank]
    | cons => rfl
  · rfl

/-- Without the image the run projects to the same rows, without the image. -/
theorem projectRun_removed (spares : ∀ event ∈ run.events, event.spares messageId imageIndex = true) :
    projectRun kept = (projectRun run).map (removeImageFromMessage messageId imageIndex) := by
  obtain ⟨sameId, events⟩ := removed_events removed
  have folded := folded_removed (mapM_eq_ok.mp events) spares []
  rw [List.map_nil] at folded
  rw [projectRun, sameId, folded]
  exact finish_removed removed _

end

end SiftKit.Chat.ImageRevisions
