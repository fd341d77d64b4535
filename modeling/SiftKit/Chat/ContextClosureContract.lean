import SiftKit.Chat.ContextClosure
import SiftKit.Chat.TranscriptContract

/-! # A closed run and its replay

Replaying the journal that a closure leaves gives what the replay of the open journal closed by itself,
and leaves nothing to close.
-/

namespace SiftKit.Chat

open SiftKit.Json SiftKit.Failure SiftKit.OrderedMap ChatContextReplay ClosingSession ChatJournalEvent

/-! ## What a replay holds -/

def ChatJournalEvent.isTool : ChatJournalEvent → Bool
  | .tool_proposed .. | .tool_started _ | .tool_result .. | .tool_result_finalized .. => true
  | _ => false

def ChatJournalEvent.isInit : ChatJournalEvent → Bool
  | .context_initialized _ => true
  | _ => false

/-- What a replay holds of the events that it read. -/
structure Replays (events : List ChatJournalEvent) (replay : ChatContextReplay) : Prop where
  keyed : ∀ entry ∈ replay.toolCalls.entries, entry.2.call.displayToolCallId = entry.1
  queued : ∀ entry ∈ replay.pendingQueue.entries, entry.1 = entry.2.id ∧ .queue_delivered entry.2 ∈ events
  initialized : replay.messages.isSome = events.any ChatJournalEvent.isInit
  batches : events.any isTool = false → replay.batches = empty

namespace Replays

variable {operationId : JsString} {anchor : Anchor} {eventIds : Nat → JsString} {events : List ChatJournalEvent} {replay : ChatContextReplay}

section

variable (holds : Replays events replay)

include holds

theorem represented (ids : List JsString) : Replays events (ids.foldl represent replay) := by
  rw [foldl_represent]
  constructor
  · intro entry member
    rw [entries_representCalls] at member
    obtain ⟨before, beforeMember, rfl⟩ := List.mem_map.mp member
    have isKey := holds.keyed before beforeMember
    split
    · exact isKey
    · exact isKey
  · exact holds.queued
  · exact holds.initialized
  · exact holds.batches

theorem incorporated (ids : Option (List JsString)) : Replays events (replay.incorporate ids) := by
  refine ⟨holds.keyed, ?_, holds.initialized, holds.batches⟩
  suffices kept : ∀ (ids : List JsString) (queue : OrderedMap JsString QueuedMessage),
      ∀ entry ∈ (ids.foldl OrderedMap.delete queue).entries, entry ∈ queue.entries from
    fun entry member => holds.queued entry (kept _ _ entry member)
  intro ids
  induction ids with
  | nil => exact fun _ _ member => member
  | cons id rest ih => exact fun queue entry member => (List.mem_filter.mp (ih _ entry member)).1

theorem more (event : ChatJournalEvent) (notInit : event.isInit = false) : Replays (events ++ [event]) replay := by
  refine ⟨holds.keyed, ?_, ?_, ?_⟩
  · exact fun entry member => ⟨(holds.queued entry member).1, List.mem_append_left _ (holds.queued entry member).2⟩
  · rw [List.any_append, holds.initialized]
    simp [notInit]
  · intro noTools
    rw [List.any_append, Bool.or_eq_false_iff] at noTools
    exact holds.batches noTools.1

theorem changed (identity : ChatToolCallIdentity) {change : ToolCallRecord → ToolCallRecord}
    (same : ∀ record, (change record).call = record.call) :
    Replays events { replay with toolCalls := replay.toolCalls.update identity.displayToolCallId change } := by
  refine ⟨?_, holds.queued, holds.initialized, holds.batches⟩
  intro entry member
  obtain ⟨before, beforeMember, rfl⟩ := List.mem_map.mp member
  have isKey := holds.keyed before beforeMember
  split
  · rwa [same]
  · exact isKey

theorem applied {event : ChatJournalEvent} (wentOn : replay.failed = none)
    (goesOn : (applyEvent operationId anchor event replay).failed = none) :
    Replays (events ++ [event]) (applyEvent operationId anchor event replay) := by
  cases event with
  | queue_delivered message =>
    refine ⟨holds.keyed, ?_, ?_, ?_⟩
    · intro entry member
      have isEntry := get?_eq_some.mpr member
      simp only [applyEvent, get?_set] at isEntry
      split at isEntry
      next sameKey =>
        cases isEntry
        exact ⟨sameKey, by simp⟩
      · obtain ⟨isKey, read⟩ := holds.queued entry (get?_eq_some.mp isEntry)
        exact ⟨isKey, List.mem_append_left _ read⟩
    · rw [List.any_append, ← holds.initialized]
      exact (Bool.or_false _).symm
    · intro noTools
      rw [List.any_append, Bool.or_eq_false_iff] at noTools
      exact holds.batches noTools.1
  | context_initialized init =>
    simp only [applyEvent] at goesOn ⊢
    have still : (replay.incorporate init.queueMessageIds).failed = none := wentOn
    obtain ⟨isNone, isZero, bounded⟩ := (initializeContext_ok still).mp goesOn
    have absent : (replay.incorporate init.queueMessageIds).messages.isSome = false := by
      rw [isNone]
      rfl
    rw [initializeContext, absent, if_neg Bool.false_ne_true, if_neg (by omega), collectDeclaredCallIds]
    apply represented
    have before := holds.incorporated init.queueMessageIds
    refine ⟨before.keyed, ?_, ?_, ?_⟩
    · exact fun entry member => ⟨(before.queued entry member).1, List.mem_append_left _ (before.queued entry member).2⟩
    · simp [ChatJournalEvent.isInit]
    · intro noTools
      rw [List.any_append, Bool.or_eq_false_iff] at noTools
      exact before.batches noTools.1
  | context_spliced splice =>
    simp only [applyEvent] at goesOn ⊢
    have still : (replay.incorporate splice.queueMessageIds).failed = none := wentOn
    obtain ⟨state, isState, _⟩ := (applySplice_ok still).mp goesOn
    have before := (holds.incorporated splice.queueMessageIds).more (.context_spliced splice) rfl
    obtain ⟨isMessages, _, _⟩ := context?_eq_some.mp isState
    rw [applySplice_eq goesOn isState, representSplice_eq]
    apply represented
    refine ⟨before.keyed, before.queued, ?_, before.batches⟩
    rw [← before.initialized, isMessages]
    rfl
  | tool_proposed call toolName arguments =>
    obtain ⟨isNew, same⟩ := propose_ok goesOn
    simp only [applyEvent, recordToolEvidence]
    rw [same]
    have before := holds.more (.tool_proposed call toolName arguments) rfl
    refine ⟨?_, before.queued, before.initialized, fun noTools => ?_⟩
    · intro entry member
      simp only [set_absent isNew] at member
      cases List.mem_append.mp member with
      | inl old => exact holds.keyed entry old
      | inr new => rw [List.mem_singleton.mp new]; rfl
    · simp [isTool] at noTools
  | tool_started call =>
    simp only [applyEvent, recordToolEvidence] at goesOn ⊢
    rw [withRecord_ok goesOn]
    exact (holds.more _ rfl).changed call fun _ => rfl
  | tool_result call rejected output =>
    simp only [applyEvent, recordToolEvidence] at goesOn ⊢
    rw [withRecord_ok goesOn]
    exact (holds.more _ rfl).changed call fun _ => rfl
  | tool_result_finalized call modelVisibleText =>
    simp only [applyEvent, recordToolEvidence] at goesOn ⊢
    rw [withRecord_ok goesOn]
    refine (holds.more _ rfl).changed call fun record => ?_
    unfold ToolCallRecord.recordFinalized
    split <;> rfl
  | _ => exact holds.more _ rfl

end

theorem ofJournal (goesOn : (replayOf operationId eventIds events).failed = none) : Replays events (replayOf operationId eventIds events) := by
  induction events using List.reverseRecOn with
  | nil => exact ⟨fun _ member => (by cases member), fun _ member => (by cases member), rfl, fun _ => rfl⟩
  | append_singleton events event ih =>
    have before := wentOn goesOn
    have holds := ih before
    rw [replayOf, replayed_journalOf_concat before] at goesOn ⊢
    have advanced : Replays events ((replayed (journalOf operationId eventIds events)).advanced
        ⟨operationId, events.length + 1, eventIds events.length, event⟩) :=
      ⟨holds.keyed, holds.queued, holds.initialized, holds.batches⟩
    exact advanced.applied before goesOn

end Replays

/-! ## The scan -/

theorem scanOrphan_concat (events : List ChatJournalEvent) (event : ChatJournalEvent) :
    scanOrphan (events ++ [event]) = (scanOrphan events).read event := by
  rw [scanOrphan, List.foldl_concat]
  rfl

theorem scanOrphan_initialized (events : List ChatJournalEvent) :
    (scanOrphan events).initialized = events.any ChatJournalEvent.isInit := by
  induction events using List.reverseRecOn with
  | nil => rfl
  | append_singleton events event ih =>
    rw [scanOrphan_concat, List.any_append, ← ih]
    cases event <;> simp [OrphanScan.read, ChatJournalEvent.isInit]

theorem scanOrphan_sawTool (events : List ChatJournalEvent) : (scanOrphan events).sawTool = events.any isTool := by
  induction events using List.reverseRecOn with
  | nil => rfl
  | append_singleton events event ih =>
    rw [scanOrphan_concat, List.any_append, ← ih]
    cases event <;> simp [OrphanScan.read, isTool]

variable {message : QueuedMessage}

theorem scanOrphan_delivered {events : List ChatJournalEvent} :
    message ∈ (scanOrphan events).delivered ↔ .queue_delivered message ∈ events := by
  induction events using List.reverseRecOn with
  | nil => simp [scanOrphan, OrphanScan.empty]
  | append_singleton events event ih =>
    rw [scanOrphan_concat, List.mem_append, ← ih]
    cases event <;> simp [OrphanScan.read]

/-! ## Events that a replay passes over -/

/-- What a closure writes beside the context. -/
def ChatJournalEvent.isQuiet : ChatJournalEvent → Bool
  | .approval_resolved _ => true
  | .question_resolved _ => true
  | .run_finished => true
  | _ => false

section

variable {operationId : JsString} {eventIds : Nat → JsString} {events : List ChatJournalEvent}

/-- Two replays that differ in the place of the journal that they have come to. -/
def Alike (operationId : JsString) (later earlier : ChatContextReplay) : Prop :=
  later = earlier ∨ ∃ anchor sequence, later = { earlier with
    operationId := some operationId
    firstAnchor := anchor
    expectedSequence := sequence }

theorem Alike.trans {first second third : ChatContextReplay} (later : Alike operationId third second)
    (earlier : Alike operationId second first) : Alike operationId third first := by
  obtain rfl | ⟨anchor, sequence, rfl⟩ := later
  · exact earlier
  · obtain rfl | ⟨_, _, rfl⟩ := earlier
    · exact .inr ⟨anchor, sequence, rfl⟩
    · exact .inr ⟨anchor, sequence, rfl⟩

theorem alike_quiet {event : ChatJournalEvent} (isQuiet : event.isQuiet = true) (goesOn : (replayOf operationId eventIds events).failed = none) :
    Alike operationId (replayOf operationId eventIds (events ++ [event])) (replayOf operationId eventIds events) := by
  have isPlace := place_replayed goesOn
  rw [place, Prod.mk.injEq] at isPlace
  have named : (replayed (journalOf operationId eventIds events)).operationId.getD operationId = operationId := by
    rw [isPlace.1]
    split <;> rfl
  right
  rw [replayOf, replayed_journalOf_concat goesOn]
  cases event with
  | approval_resolved approvalId => exact ⟨_, _, by simp only [applyEvent, recordToolEvidence, advanced, ChatContextReplay.named, named]; rfl⟩
  | question_resolved questionId => exact ⟨_, _, by simp only [applyEvent, recordToolEvidence, advanced, ChatContextReplay.named, named]; rfl⟩
  | run_finished => exact ⟨_, _, by simp only [applyEvent, recordToolEvidence, advanced, ChatContextReplay.named, named]; rfl⟩
  | _ => cases isQuiet

theorem Alike.failed {later earlier : ChatContextReplay} (alike : Alike operationId later earlier) : later.failed = earlier.failed := by
  obtain rfl | ⟨_, _, rfl⟩ := alike <;> rfl

theorem alike_quiets {quiets : List ChatJournalEvent} (areQuiet : ∀ event ∈ quiets, event.isQuiet = true)
    (goesOn : (replayOf operationId eventIds events).failed = none) :
    Alike operationId (replayOf operationId eventIds (events ++ quiets)) (replayOf operationId eventIds events) := by
  induction quiets generalizing events with
  | nil =>
    rw [List.append_nil]
    exact .inl rfl
  | cons event rest ih =>
    have first := @alike_quiet operationId eventIds events event (areQuiet event List.mem_cons_self) goesOn
    have later := ih (fun next member => areQuiet next (List.mem_cons_of_mem _ member)) (first.failed.trans goesOn)
    rw [List.append_assoc, List.singleton_append] at later
    exact later.trans first

theorem Alike.finish {later earlier : ChatContextReplay} (alike : Alike operationId later earlier)
    (isNamed : earlier.operationId = some operationId) : later.finish = earlier.finish ∨ earlier.messages = none := by
  obtain rfl | ⟨anchor, sequence, rfl⟩ := alike
  · exact .inl rfl
  · cases isMessages : earlier.messages with
    | none => exact .inr rfl
    | some messages =>
      left
      unfold ChatContextReplay.finish
      simp only [isNamed, isMessages]
      cases earlier.failed with
      | some _ => rfl
      | none => rfl

end

/-! ## Images of delivered messages -/

theorem keepSurvivingParts_images (images : List JsString) :
    ImageEvidence.keepSurvivingParts images (images.map imagePart) = images.map imagePart := by
  induction images with
  | nil => rfl
  | cons image rest ih => simp [ImageEvidence.keepSurvivingParts, imagePart, ih]

theorem textPart_not_image (text : JsString) : (textPart text).type ≠ imageType := by
  have apart : textType ≠ imageType := by decide
  exact apart

theorem sanitize_delivered {evidence : ImageEvidence} {sanitized : ChatMessage}
    (admitted : message.images ∈ evidence.ownerImages message.id)
    (isSanitized : evidence.sanitizeMessage message.message = .ok sanitized) : sanitized = message.message := by
  unfold ImageEvidence.sanitizeMessage at isSanitized
  split at isSanitized
  next parts isParts =>
    split at isSanitized
    · exact (Except.ok.inj isSanitized).symm
    · simp only [QueuedMessage.message] at isSanitized
      split at isSanitized
      · exact (Except.ok.inj isSanitized).symm
      · obtain ⟨inventory, isInventory, rfl⟩ := map_eq_ok.mp isSanitized
        have isImages : inventory = message.images := by
          unfold ImageEvidence.readSurvivingInventory at isInventory
          split at isInventory
          · cases isInventory
          next first rest areSources =>
            split at isInventory
            · cases isInventory
            next agree =>
              cases isInventory
              rw [areSources] at admitted
              cases List.mem_cons.mp admitted with
              | inl here => exact here.symm
              | inr later =>
                have same := agree
                simp only [List.any_eq_true, bne_iff_ne, not_exists, not_and, not_not] at same
                exact (same _ later).symm
        subst isImages
        have kept : ImageEvidence.keepSurvivingParts message.images parts = parts := by
          simp only [QueuedMessage.message, ChatMessage.plain, buildUserContent] at isParts
          split at isParts
          · cases isParts
          · cases isParts
            split
            · exact keepSurvivingParts_images _
            · rw [List.singleton_append, ImageEvidence.keepSurvivingParts, if_neg (textPart_not_image _)]
              exact congrArg _ (keepSurvivingParts_images _)
        rw [kept, ← isParts]
        rfl
  · exact (Except.ok.inj isSanitized).symm

variable {messages : List ChatMessage}

/-- Messages of which each is a text or a delivered message are committed as they are. -/
theorem sanitize_same_messages {evidence : ImageEvidence} {sanitized : List ChatMessage}
    (each : ∀ message ∈ messages, (∃ text, message.content = some (.text text)) ∨
      ∃ queued : QueuedMessage, message = queued.message ∧ queued.images ∈ evidence.ownerImages queued.id)
    (isSanitized : sanitizeChatContextImages evidence messages = .ok sanitized) : sanitized = messages := by
  unfold sanitizeChatContextImages at isSanitized
  split at isSanitized
  · exact (Except.ok.inj isSanitized).symm
  · have rounds := mapM_eq_ok.mp isSanitized
    clear isSanitized
    induction rounds with
    | nil => rfl
    | @cons message result _ _ here _ ih =>
      have rest := ih fun later member => each later (List.mem_cons_of_mem _ member)
      rw [rest]
      congr 1
      obtain ⟨text, isText⟩ | ⟨queued, rfl, admitted⟩ := each message List.mem_cons_self
      · unfold ImageEvidence.sanitizeMessage at here
        rw [isText] at here
        exact (Except.ok.inj here).symm
      · exact sanitize_delivered admitted here

/-! ## What a closure closes -/

/-- Each interrupted call is the last proposal of its native id. -/
def EachLatest (replay : ChatContextReplay) : Prop :=
  ∀ batch ∈ replay.batches.values, ∀ record ∈ replay.openRecords batch, replay.latestCall record.call.toolCallId = some record

section

variable {replay : ChatContextReplay} {operationId : JsString}

theorem eachLatest_of_distinct (distinct : (replay.toolCalls.values.map fun record => record.call.toolCallId).Nodup) : EachLatest replay := by
  intro batch _ record isOpen
  obtain ⟨id, _, found⟩ := List.mem_filterMap.mp (List.mem_filter.mp isOpen).1
  have member : record ∈ replay.toolCalls.values := List.mem_map_of_mem (get?_eq_some.mp found)
  unfold latestCall
  cases latest : replay.toolCalls.values.reverse.find? (fun candidate => candidate.call.toolCallId == record.call.toolCallId) with
  | none =>
    rw [List.find?_eq_none] at latest
    exact absurd (beq_self_eq_true _) (latest record (List.mem_reverse.mpr member))
  | some candidate =>
    have sameId : candidate.call.toolCallId = record.call.toolCallId := by simpa using List.find?_some latest
    have candidateMember := List.mem_reverse.mp (List.mem_of_find?_eq_some latest)
    rw [List.inj_on_of_nodup_map distinct candidateMember member sameId]

section

variable {closed : List ChatMessage} (isClosed : replay.closeInterruptedBatches operationId = .ok closed)

include isClosed

theorem content_closed :
    ∀ message ∈ closed, ∃ text, message.content = some (.text text) := by
  obtain ⟨batches, areClosed, rfl⟩ := map_eq_ok.mp isClosed
  intro message member
  obtain ⟨one, isOne, within⟩ := List.mem_flatten.mp member
  obtain ⟨batch, _, isBatch⟩ := mem_of_mapM areClosed isOne
  unfold closeBatch at isBatch
  split at isBatch
  · cases isBatch
    cases within
  · obtain ⟨outcomes, _, rfl⟩ := map_eq_ok.mp isBatch
    cases List.mem_cons.mp within with
    | inl first => exact ⟨[], by rw [first]; rfl⟩
    | inr later =>
      obtain ⟨record, _, rfl⟩ := List.mem_map.mp later
      exact ⟨record.modelVisibleText, rfl⟩

theorem declares_open {batch : List JsString} (isBatch : batch ∈ replay.batches.values) {record : ToolCallRecord} (isOpen : record ∈ replay.openRecords batch) :
    record.call.toolCallId ∈ (closed.flatMap ChatMessage.declared).map PlannerToolCall.id := by
  obtain ⟨batches, areClosed, rfl⟩ := map_eq_ok.mp isClosed
  obtain ⟨messages, isMessages, closing⟩ := exists_of_forall₂ (mapM_eq_ok.mp areClosed).flip isBatch
  have notEmpty : (replay.openRecords batch).isEmpty = false := by
    rw [List.isEmpty_eq_false_iff]
    exact List.ne_nil_of_mem isOpen
  rw [closeBatch, notEmpty, if_neg Bool.false_ne_true] at closing
  obtain ⟨outcomes, areOutcomes, rfl⟩ := map_eq_ok.mp closing
  obtain ⟨outcome, isOutcome, recovered⟩ := exists_of_forall₂ (mapM_eq_ok.mp areOutcomes).flip isOpen
  obtain ⟨arguments, _, rfl⟩ := map_eq_ok.mp recovered
  rw [List.mem_map]
  refine ⟨_, List.mem_flatMap.mpr ⟨_, List.mem_flatten.mpr ⟨_, isMessages, List.mem_cons_self⟩, List.mem_map_of_mem isOutcome⟩, rfl⟩

end

theorem foldl_delete (ids : List JsString) (queue : OrderedMap JsString QueuedMessage) :
    (ids.foldl OrderedMap.delete queue).entries = queue.entries.filter fun entry => !ids.contains entry.1 := by
  induction ids generalizing queue with
  | nil => simp
  | cons id rest ih =>
    rw [List.foldl_cons, ih]
    simp only [delete, retain, List.filter_filter, List.contains_cons, Bool.not_or]
    apply List.filter_congr
    intro entry _
    rw [Bool.eq_iff_iff]
    simp [and_comm]

theorem closes_nothing {ids : List JsString} (marked : ∀ batch ∈ replay.batches.values, ∀ record ∈ replay.openRecords batch,
    record.call.displayToolCallId ∈ ids) : (ids.foldl represent replay).closeInterruptedBatches operationId = .ok [] := by
  have nothing : ∀ batch ∈ replay.batches.values, (ids.foldl represent replay).openRecords batch = [] := by
    intro batch isBatch
    rw [foldl_represent, openRecords, List.filter_eq_nil_iff]
    intro record member
    obtain ⟨id, inBatch, found⟩ := List.mem_filterMap.mp member
    simp only [get?_representCalls] at found
    simp only [Bool.not_eq_true', Bool.not_eq_false, List.contains_iff_mem, List.mem_append, List.mem_reverse]
    by_contra unmarked
    rw [not_or] at unmarked
    -- the record before it was marked is open too
    have before : ∃ earlier, replay.toolCalls.get? id = some earlier ∧ earlier.call = record.call := by
      split at found
      · obtain ⟨earlier, isEarlier, rfl⟩ := Option.map_eq_some_iff.mp found
        exact ⟨earlier, isEarlier, rfl⟩
      · exact ⟨record, found, rfl⟩
    obtain ⟨earlier, isEarlier, sameCall⟩ := before
    have wasOpen : earlier ∈ replay.openRecords batch := by
      refine List.mem_filter.mpr ⟨List.mem_filterMap.mpr ⟨id, inBatch, isEarlier⟩, ?_⟩
      rw [sameCall]
      simpa using unmarked.2
    have isMarked := marked batch isBatch earlier wasOpen
    rw [sameCall] at isMarked
    exact unmarked.1 isMarked
  have batches : (ids.foldl represent replay).batches = replay.batches := by rw [foldl_represent]
  have each : (replay.batches.values.mapM fun batch => closeBatch operationId ((ids.foldl represent replay).openRecords batch)) =
      .ok (replay.batches.values.map fun _ => []) := by
    rw [mapM_eq_ok, List.forall₂_map_right_iff, List.forall₂_same]
    intro batch isBatch
    rw [nothing batch isBatch]
    rfl
  rw [closeInterruptedBatches, batches, each]
  simp [Except.map]

end

/-! ## The steps of a closure -/

section

variable {session : ClosingSession} {operationId : JsString} {eventIds : Nat → JsString} {events after : List ChatJournalEvent}

theorem append_ok {event : ChatJournalEvent} (appended : session.append events event = .ok after) :
    after = events ++ [event] ∧ events.any isFinish = false := by
  simp only [ClosingSession.append, bind_eq_ok, pure_eq_ok, throwWhen_eq_ok] at appended
  obtain ⟨_, notFinished, _, _, rfl⟩ := appended
  exact ⟨rfl, notFinished⟩

theorem appends_ok {added : List ChatJournalEvent} (appended : added.foldlM session.append events = .ok after) : after = events ++ added := by
  induction added generalizing events with
  | nil =>
    cases appended
    simp
  | cons event rest ih =>
    rw [List.foldlM_cons, bind_eq_ok] at appended
    obtain ⟨between, isBetween, later⟩ := appended
    rw [ih later, (append_ok isBetween).1, List.append_assoc, List.singleton_append]

theorem finishRun_ok (finished : session.finishRun events = .ok after) :
    after.any isFinish = true ∧ ∃ quiets, after = events ++ quiets ∧ ∀ event ∈ quiets, event.isQuiet = true := by
  unfold finishRun at finished
  split at finished
  next already =>
    cases finished
    exact ⟨already, [], (List.append_nil _).symm, fun _ member => (by cases member)⟩
  · obtain ⟨rfl, _⟩ := append_ok finished
    exact ⟨by simp [isFinish], [.run_finished], rfl, fun event member => by rw [List.mem_singleton.mp member]; rfl⟩

theorem resolutions_quiet (scan : OrphanScan) : ∀ event ∈ resolutions scan, event.isQuiet = true := by
  intro event member
  cases List.mem_append.mp member with
  | inl approvals =>
    obtain ⟨_, _, rfl⟩ := List.mem_map.mp approvals
    rfl
  | inr questions =>
    obtain ⟨_, _, rfl⟩ := List.mem_map.mp questions
    rfl

theorem closed_again (isFinished : events.any isFinish = true) : session.closedJournal operationId eventIds events = events := by
  have refuses : ∀ event next, session.append events event ≠ .ok next := by
    intro event next appended
    rw [(append_ok appended).2] at isFinished
    cases isFinished
  cases closed : session.closeOrphanedRun operationId eventIds events with
  | error failure => rw [closedJournal, closed]; rfl
  | ok after =>
    rw [closedJournal, closed]
    simp only [closeOrphanedRun, bind_eq_ok] at closed
    obtain ⟨resolved, areResolved, started, isStarted, closedEvents, isClosed, finished⟩ := closed
    have none : resolved = events := by
      cases empty : resolutions (scanOrphan events) with
      | nil =>
        rw [empty] at areResolved
        cases areResolved
        rfl
      | cons event rest =>
        rw [empty, List.foldlM_cons, bind_eq_ok] at areResolved
        obtain ⟨between, appended, _⟩ := areResolved
        exact absurd appended (refuses event between)
    subst none
    have same : started = resolved := by
      unfold startContext at isStarted
      split at isStarted
      · exact (Except.ok.inj isStarted).symm
      · unfold initializeOrphan at isStarted
        split at isStarted
        · split at isStarted
          · cases isStarted
          · rw [bind_eq_ok] at isStarted
            obtain ⟨_, _, appended⟩ := isStarted
            exact absurd appended (refuses _ _)
        · cases isStarted
    subst same
    have unchanged : closedEvents = started := by
      simp only [closeContext, bind_eq_ok] at isClosed
      obtain ⟨_, _, _, _, written⟩ := isClosed
      split at written
      · rw [bind_eq_ok] at written
        obtain ⟨_, _, appended⟩ := written
        exact absurd appended (refuses _ _)
      · exact (pure_eq_ok.mp written).symm
    subst unchanged
    rw [finishRun, if_pos isFinished] at finished
    cases finished
    rfl

/-! ## Agreement -/

variable {replay : ChatContextReplay} {scan : OrphanScan}

/-- A replay with a coherent context, nothing open and nothing queued ends with that context. -/
theorem finish_settled (goesOn : replay.failed = none)
    (isNamed : replay.operationId = some operationId) (isMessages : replay.messages = some messages)
    (closes : replay.closeInterruptedBatches operationId = .ok []) (noQueue : replay.pendingQueue.entries = [])
    (coherent : findPlannerContextViolation messages = none) :
    ∃ again, replay.finish = .ok again ∧ again.messages = messages ∧ again.status = .ok := by
  have all : messages ++ [] ++ replay.pendingQueue.values.map QueuedMessage.message = messages := by
    rw [OrderedMap.values, noQueue]
    simp
  refine ⟨⟨.ok, messages, replay.contextRevision, replay.turnBoundary,
    replay.toolCalls.values.map fun record => (record.call.toolCallId, record.executionState), []⟩, ?_, rfl, rfl⟩
  rw [ChatContextReplay.finish, goesOn, isNamed, isMessages]
  simp only [closes, bind, Except.bind, all, coherent]
  simp [OrderedMap.size, noQueue, pure, Except.pure]

theorem named_replayOf (goesOn : (replayOf operationId eventIds events).failed = none) (notEmpty : events ≠ []) :
    (replayOf operationId eventIds events).operationId = some operationId := by
  have isPlace := place_replayed goesOn
  rw [place, Prod.mk.injEq] at isPlace
  have some : events.isEmpty = false := by simpa using notEmpty
  rw [some, if_neg Bool.false_ne_true] at isPlace
  exact isPlace.1

theorem declared_delivered (queued : List QueuedMessage) : (queued.map QueuedMessage.message).flatMap ChatMessage.declared = [] := by
  rw [List.flatMap_eq_nil_iff]
  intro message member
  obtain ⟨_, _, rfl⟩ := List.mem_map.mp member
  rfl

theorem incorporate_all (holds : Replays events replay) {delivered : List QueuedMessage}
    (all : ∀ message, .queue_delivered message ∈ events → message ∈ delivered) :
    (replay.incorporate (some (delivered.map QueuedMessage.id))).pendingQueue.entries = [] := by
  simp only [incorporate, Option.getD_some, foldl_delete, List.filter_eq_nil_iff]
  intro entry member
  obtain ⟨isKey, wasDelivered⟩ := holds.queued entry member
  have contained : (delivered.map QueuedMessage.id).contains entry.1 = true := by
    rw [List.contains_iff_mem, isKey]
    exact List.mem_map_of_mem (all _ wasDelivered)
  rw [contained]
  exact Bool.false_ne_true

variable {recovered : ChatRecoveredContext}

/-- The closing splice answers every call that was open, and leaves nothing queued. -/
theorem finish_spliced {state : ContextState} {closed inserted : List ChatMessage}
    (all : ∀ message, .queue_delivered message ∈ events → message ∈ scan.delivered)
    (eachLatest : EachLatest (replayOf operationId eventIds events))
    (goesOn : (replayOf operationId eventIds events).failed = none)
    (isState : (replayOf operationId eventIds events).context? = some state)
    (closing : (replayOf operationId eventIds events).closeInterruptedBatches operationId = .ok closed)
    (isInserted : inserted = closed ++ (replayOf operationId eventIds events).pendingQueue.values.map QueuedMessage.message)
    (isMessages : recovered.messages = state.messages ++ inserted)
    (isRevision : recovered.contextRevision = state.contextRevision)
    (isBoundary : recovered.turnBoundary = state.turnBoundary)
    (coherent : findPlannerContextViolation recovered.messages = none) :
    let splice := closingSplice scan (replayOf operationId eventIds events) recovered inserted
    let after := replayOf operationId eventIds (events ++ [.context_spliced splice])
    after.failed = none ∧ after.messages = some recovered.messages ∧
      ∃ again, after.finish = .ok again ∧ again.messages = recovered.messages ∧ again.status = .ok := by
  intro splice after
  have measured := replayed_measured (journalOf operationId eventIds events) state isState
  have isLength : (replayOf operationId eventIds events).rawContextLength = state.messages.length := measured.1
  have bounded : state.turnBoundary ≤ state.messages.length := measured.2
  have isStart : splice.startIndex = state.messages.length := isLength
  have starts : splice.turnBoundary = state.turnBoundary := isBoundary
  have amends : state.Amends splice := ⟨isRevision, congrArg (· + 1) isRevision⟩
  have fits : state.Fits splice := by
    constructor
    · rw [isStart]
      exact Nat.le_refl _
    · have noDeletion : splice.deleteCount = 0 := rfl
      rw [starts, noDeletion]
      omega
  have goesOnAfter : after.failed = none := goesOn_spliced goesOn isState amends fits (.inl rfl)
  have holds := Replays.ofJournal goesOn
  -- the replay of the splice, before the calls that it answers
  let envelope : ContextEnvelope := ⟨operationId, events.length + 1, eventIds events.length, .context_spliced splice⟩
  let read := ((replayOf operationId eventIds events).advanced envelope).incorporate (some (scan.delivered.map QueuedMessage.id))
  have isAfter : after = ((read.withSplice splice state.messages).representedBy splice).foldl represent (read.withSplice splice state.messages) := by
    have step : after = read.applySplice operationId ⟨some (eventIds events.length), some (events.length + 1)⟩ splice :=
      replayed_journalOf_concat goesOn _
    have goesOnStep := goesOnAfter
    rw [step] at goesOnStep ⊢
    rw [← representSplice_eq]
    exact applySplice_eq goesOnStep isState
  have wholeTurn : currentTurn splice = inserted := by
    have none : splice.turnBoundary - splice.startIndex = 0 := by omega
    rw [currentTurn, none, List.drop_zero]
    rfl
  have marked : ∀ batch ∈ (read.withSplice splice state.messages).batches.values,
      ∀ record ∈ (read.withSplice splice state.messages).openRecords batch,
        record.call.displayToolCallId ∈ (read.withSplice splice state.messages).representedBy splice := by
    intro batch isBatch record isOpen
    have latest : (replayOf operationId eventIds events).latestCall record.call.toolCallId = some record := eachLatest batch isBatch record isOpen
    obtain ⟨call, declared, isId⟩ := List.mem_map.mp (declares_open closing isBatch isOpen)
    apply List.mem_append_left
    refine List.mem_filterMap.mpr ⟨call, ?_, ?_⟩
    · rw [wholeTurn, isInserted, List.flatMap_append, declared_delivered, List.append_nil]
      exact declared
    · rw [isId]
      exact congrArg (Option.map fun record => record.call.displayToolCallId) latest
  have isContent : after.messages = some recovered.messages := by
    rw [isAfter, foldl_represent]
    have spliced : spliceList state.messages splice.startIndex 0 splice.inserted = recovered.messages := by
      rw [isStart, spliceList_end, isMessages]
      rfl
    exact congrArg some spliced
  refine ⟨goesOnAfter, isContent, finish_settled goesOnAfter (named_replayOf goesOnAfter (by simp)) isContent ?_ ?_ coherent⟩
  · rw [isAfter]
    exact closes_nothing marked
  · rw [isAfter, foldl_represent]
    exact incorporate_all holds all

section

variable (all : ∀ message, .queue_delivered message ∈ events → message ∈ scan.delivered)

include all

/-- What a closure writes is what the replay closes by itself. -/
theorem closeContext_agrees (eachLatest : EachLatest (replayOf operationId eventIds events))
    (started : (replayOf operationId eventIds events).messages ≠ none)
    (isClosed : session.closeContext scan (replayOf operationId eventIds events) events = .ok after) :
    (replayOf operationId eventIds after).failed = none ∧ (replayOf operationId eventIds after).operationId = some operationId ∧
      (replayOf operationId eventIds after).messages ≠ none ∧
      ∃ recovered again, (replayOf operationId eventIds events).finish = .ok recovered ∧
        (replayOf operationId eventIds after).finish = .ok again ∧ again.messages = recovered.messages ∧ again.status = .ok := by
  simp only [closeContext, bind_eq_ok, throwWhen_eq_ok] at isClosed
  obtain ⟨recovered, isFinished, _, isRecovered, written⟩ := isClosed
  obtain ⟨goesOn, rest⟩ := finish_ok isFinished (by simpa using isRecovered)
  have notEmpty : events ≠ [] := by
    rintro rfl
    exact started rfl
  have isNamed := named_replayOf goesOn notEmpty
  obtain ⟨unnamed, _⟩ | ⟨named, state, closed, sameName, isState, closing, isMessages, isRevision, isBoundary, isStatus, coherent⟩ := rest
  · rw [isNamed] at unnamed
    cases unnamed
  cases isNamed.symm.trans sameName
  have measured := replayed_measured (journalOf operationId eventIds events) state isState
  split at written
  next longer =>
    rw [bind_eq_ok] at written
    obtain ⟨inserted, isSanitized, appended⟩ := written
    obtain ⟨rfl, _⟩ := append_ok appended
    -- what is inserted is what the replay added
    have isAdded : recovered.messages.drop (replayOf operationId eventIds events).rawContextLength =
        closed ++ (replayOf operationId eventIds events).pendingQueue.values.map QueuedMessage.message := by
      have isLength : (replayOf operationId eventIds events).rawContextLength = state.messages.length := measured.1
      rw [isMessages, isLength, List.append_assoc, List.drop_left]
    have holds := Replays.ofJournal goesOn
    have isInserted : inserted = closed ++ (replayOf operationId eventIds events).pendingQueue.values.map QueuedMessage.message := by
      rw [← isAdded]
      apply sanitize_same_messages _ isSanitized
      intro message member
      rw [isAdded] at member
      cases List.mem_append.mp member with
      | inl inClosing => exact .inl (content_closed closing message inClosing)
      | inr inQueue =>
        obtain ⟨queued, isQueued, rfl⟩ := List.mem_map.mp inQueue
        obtain ⟨entry, isEntry, rfl⟩ := List.mem_map.mp isQueued
        refine .inr ⟨entry.2, rfl, List.mem_append_left _ (List.mem_filterMap.mpr ⟨_, (holds.queued entry isEntry).2, ?_⟩)⟩
        rw [admittedImages, if_pos rfl]
    have isWhole : recovered.messages = state.messages ++ inserted := by rw [isInserted, isMessages, List.append_assoc]
    obtain ⟨goesOnAfter, isContent, again, finishedAgain, same, settled⟩ :=
      finish_spliced all eachLatest goesOn isState closing isInserted isWhole isRevision isBoundary coherent
    exact ⟨goesOnAfter, named_replayOf goesOnAfter (by simp), by rw [isContent]; exact Option.some_ne_none _,
      recovered, again, isFinished, finishedAgain, same, settled⟩
  next notLonger =>
    cases pure_eq_ok.mp written
    refine ⟨goesOn, isNamed, started, recovered, recovered, isFinished, isFinished, rfl, ?_⟩
    -- the replay added nothing
    have isLength : (replayOf operationId eventIds events).rawContextLength = state.messages.length := measured.1
    have lengths := congrArg List.length isMessages
    rw [isLength] at notLonger
    simp only [List.length_append, List.length_map, OrderedMap.values] at lengths
    have noClosing : closed = [] := List.eq_nil_of_length_eq_zero (by omega)
    have noQueue : (replayOf operationId eventIds events).pendingQueue.size = 0 := by
      rw [OrderedMap.size]
      omega
    rw [isStatus, noClosing, noQueue]
    rfl

theorem initializeOrphan_agrees (sawTool : scan.sawTool = events.any isTool) (initialized : session.initializeOrphan scan events = .ok after)
    (goesOn : (replayOf operationId eventIds after).failed = none) :
    ∃ prior submission messages, session.prior = some prior ∧ scan.started = some submission ∧
      sanitizeChatContextImages (session.images events) (submittedContext prior submission scan.delivered) = .ok messages ∧
      (replayOf operationId eventIds after).messages = some messages ∧
      (replayOf operationId eventIds after).batches = empty ∧ (replayOf operationId eventIds after).pendingQueue.entries = [] := by
  unfold initializeOrphan at initialized
  split at initialized
  next prior submission isPrior isStarted =>
    split at initialized
    · cases initialized
    next noTool =>
      rw [bind_eq_ok] at initialized
      obtain ⟨messages, isSanitized, appended⟩ := initialized
      obtain ⟨rfl, _⟩ := append_ok appended
      have before := wentOn goesOn
      have holds := Replays.ofJournal before
      have noTools : events.any isTool = false := by
        rw [← sawTool]
        exact Bool.eq_false_iff.mpr noTool
      refine ⟨prior, submission, messages, isPrior, isStarted, isSanitized, ?_, ?_, ?_⟩
      · have context := @sound_initialized operationId eventIds events
          ⟨some (scan.delivered.map QueuedMessage.id), messages, 0, prior.length⟩ goesOn
        exact (context?_eq_some.mp context).1
      · apply (Replays.ofJournal goesOn).batches
        rw [List.any_append, noTools]
        rfl
      · rw [replayOf, replayed_journalOf_concat before] at goesOn ⊢
        simp only [applyEvent] at goesOn ⊢
        have still : ((replayed (journalOf operationId eventIds events)).advanced ⟨operationId, events.length + 1, eventIds events.length,
          .context_initialized ⟨some (scan.delivered.map QueuedMessage.id), messages, 0, prior.length⟩⟩ |>.incorporate
            (some (scan.delivered.map QueuedMessage.id))).failed = none := before
        obtain ⟨isNone, isZero, bounded⟩ := (initializeContext_ok still).mp goesOn
        rw [initializeContext, isNone, Option.isSome_none, if_neg Bool.false_ne_true, if_neg (by omega), collectDeclaredCallIds, foldl_represent]
        exact incorporate_all holds all
  · cases initialized

end

theorem isTool_quiet {event : ChatJournalEvent} (isQuiet : event.isQuiet = true) : event.isTool = false := by
  cases event <;> first | rfl | cases isQuiet

theorem any_isTool_quiet {quiets : List ChatJournalEvent} (areQuiet : ∀ event ∈ quiets, event.isQuiet = true) :
    quiets.any isTool = false := by
  rw [List.any_eq_false]
  intro event member
  rw [isTool_quiet (areQuiet event member)]
  exact Bool.false_ne_true

theorem initializeOrphan_ok (initialized : session.initializeOrphan scan events = .ok after) :
    ∃ init, after = events ++ [.context_initialized init] := by
  unfold initializeOrphan at initialized
  split at initialized
  · split at initialized
    · cases initialized
    · rw [bind_eq_ok] at initialized
      obtain ⟨_, _, appended⟩ := initialized
      exact ⟨_, (append_ok appended).1⟩
  · cases initialized

theorem startContext_ok (isStarted : session.startContext scan events = .ok after) :
    ∃ more, after = events ++ more := by
  unfold startContext at isStarted
  split at isStarted
  · cases isStarted
    exact ⟨[], (List.append_nil _).symm⟩
  · obtain ⟨init, isAfter⟩ := initializeOrphan_ok isStarted
    exact ⟨_, isAfter⟩

theorem wentOn_append {more : List ChatJournalEvent} (goesOn : (replayOf operationId eventIds (events ++ more)).failed = none) :
    (replayOf operationId eventIds events).failed = none := by
  induction more using List.reverseRecOn with
  | nil => rwa [List.append_nil] at goesOn
  | append_singleton more event ih =>
    rw [← List.append_assoc] at goesOn
    exact ih (wentOn goesOn)

theorem goesOn_closeContext
    (isClosed : session.closeContext scan (replayOf operationId eventIds events) events = .ok after) :
    (replayOf operationId eventIds events).failed = none := by
  simp only [closeContext, bind_eq_ok, throwWhen_eq_ok] at isClosed
  obtain ⟨recovered, isFinished, _, isRecovered, _⟩ := isClosed
  exact (finish_ok isFinished (by simpa using isRecovered)).1

theorem eachLatest_alike {later earlier : ChatContextReplay} (alike : Alike operationId later earlier) (eachLatest : EachLatest earlier) :
    EachLatest later := by
  obtain rfl | ⟨_, _, rfl⟩ := alike <;> exact eachLatest

theorem messages_alike {later earlier : ChatContextReplay} (alike : Alike operationId later earlier) : later.messages = earlier.messages := by
  obtain rfl | ⟨_, _, rfl⟩ := alike <;> rfl

theorem finish_plain
    (isFinished : replay.finish = .ok recovered) (isRecovered : recovered.status ≠ .recovery_failed)
    (isMessages : replay.messages = some messages) (noBatches : replay.batches = empty)
    (noQueue : replay.pendingQueue.entries = []) (isNamed : replay.operationId ≠ none) :
    recovered.messages = messages := by
  obtain ⟨_, ⟨unnamed, _⟩ | ⟨named, state, closed, _, isState, closing, isAll, _⟩⟩ := finish_ok isFinished isRecovered
  · exact absurd unnamed isNamed
  · have noClosing : closed = [] := by
      rw [closeInterruptedBatches, noBatches] at closing
      exact (Except.ok.inj closing).symm
    have sameState : state.messages = messages := Option.some_inj.mp ((context?_eq_some.mp isState).1.symm.trans isMessages)
    rw [isAll, noClosing, OrderedMap.values, noQueue, sameState]
    simp

theorem scanned (isScan : scan = scanOrphan events) {added : List ChatJournalEvent}
    (areQuiet : ∀ event ∈ added, event.isQuiet = true) (member : .queue_delivered message ∈ events ++ added) :
    message ∈ scan.delivered := by
  rw [isScan, scanOrphan_delivered]
  cases List.mem_append.mp member with
  | inl before => exact before
  | inr quiet => cases areQuiet _ quiet

end

/-! ## The contract -/

/-- A session without earlier runs, in which every write succeeds. -/
def freshSession : ClosingSession := ⟨some [], [], fun _ => [], fun text => text, fun _ => .ok ()⟩

def orphanSubmission : RunSubmission := ⟨utf16 "user-1", utf16 "question", []⟩

def orphanId : JsString := utf16 "run"

def orphanEventIds (index : Nat) : JsString := utf16 s!"event {index}"

/-- A run that died while its one call was running. -/
def interruptedEvents : List ChatJournalEvent := [
  .run_started orphanSubmission,
  .context_initialized ⟨none, [orphanSubmission.message], 0, 0⟩,
  .tool_proposed ⟨utf16 "call_a", utf16 "display", utf16 "batch", 1, 0⟩ (utf16 "grep") (.object []),
  .tool_started ⟨utf16 "call_a", utf16 "display", utf16 "batch", 1, 0⟩]

/-- A run that died right after it was accepted. -/
def acceptedEvents : List ChatJournalEvent := [.run_started orphanSubmission]

end SiftKit.Chat
