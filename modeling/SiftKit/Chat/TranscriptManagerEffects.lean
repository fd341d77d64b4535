import SiftKit.Chat.TranscriptManager

/-! # What a mutation of a transcript records

Every mutation is a few splices.  Each of them was committed before it was applied, amends the revision
that it was made against, and stays within the messages unless its caller asked for a place past their end.
-/

namespace SiftKit.Chat

open SiftKit.Json SiftKit.Failure

/-! ## Committed values -/

/-- Two messages say who speaks, and which call is answered, alike. -/
def SameAnswer (left right : ChatMessage) : Prop := left.role = right.role ∧ left.toolCallId = right.toolCallId

theorem sanitizeMessage_same {evidence : ImageEvidence} {message sanitized : ChatMessage}
    (isSanitized : evidence.sanitizeMessage message = .ok sanitized) : SameAnswer message sanitized := by
  unfold ImageEvidence.sanitizeMessage at isSanitized
  split at isSanitized
  · split at isSanitized
    · cases isSanitized
      exact ⟨rfl, rfl⟩
    · split at isSanitized
      · split at isSanitized
        · cases isSanitized
        · cases isSanitized
          exact ⟨rfl, rfl⟩
      · split at isSanitized
        · cases isSanitized
          exact ⟨rfl, rfl⟩
        · obtain ⟨_, _, rfl⟩ := map_eq_ok.mp isSanitized
          exact ⟨rfl, rfl⟩
  · cases isSanitized
    exact ⟨rfl, rfl⟩

theorem sanitize_same {evidence : ImageEvidence} {messages sanitized : List ChatMessage}
    (isSanitized : sanitizeChatContextImages evidence messages = .ok sanitized) : List.Forall₂ SameAnswer messages sanitized := by
  unfold sanitizeChatContextImages at isSanitized
  split at isSanitized
  · cases isSanitized
    exact List.forall₂_same.mpr fun _ _ => ⟨rfl, rfl⟩
  · exact (mapM_eq_ok.mp isSanitized).imp fun _ _ => sanitizeMessage_same

namespace ChatContextRecorder

variable {recorder : ChatContextRecorder}

theorem recordContextInitialized_ok {init committed : ChatContextInit}
    (isRecorded : recorder.recordContextInitialized init = .ok committed) :
    recorder.commit (.context_initialized committed) = .ok () ∧ committed.contextRevision = init.contextRevision ∧
      committed.turnBoundary = init.turnBoundary ∧ committed.messages.length = init.messages.length := by
  simp only [recordContextInitialized, bind_eq_ok, pure_eq_ok] at isRecorded
  obtain ⟨messages, isSanitized, _, isCommitted, rfl⟩ := isRecorded
  exact ⟨isCommitted, rfl, rfl, length_sanitize isSanitized⟩

theorem recordContextSpliced_ok {splice committed : ChatContextSplice}
    (isRecorded : recorder.recordContextSpliced splice = .ok committed) :
    recorder.commit (.context_spliced committed) = .ok () ∧ committed = { splice with inserted := committed.inserted } ∧
      List.Forall₂ SameAnswer splice.inserted committed.inserted := by
  simp only [recordContextSpliced, bind_eq_ok, pure_eq_ok] at isRecorded
  obtain ⟨inserted, isSanitized, _, isCommitted, rfl⟩ := isRecorded
  exact ⟨isCommitted, rfl, sanitize_same isSanitized⟩

end ChatContextRecorder

namespace TranscriptManager

variable {recorder : ChatContextRecorder} {manager after : TranscriptManager} {splice : ChatContextSplice}

/-! ## One splice -/

/-- What a recorded splice says of the call that made it. -/
structure Recorded (recorder : ChatContextRecorder) (manager : TranscriptManager) (startIndex : Int) (deleteCount : Nat)
    (inserted : List ChatMessage) (reason : ChatContextSpliceReason) (turnBoundary : Nat) (coalescedToolCallIds : List JsString)
    (splice : ChatContextSplice) : Prop where
  committed : recorder.commit (.context_spliced splice) = .ok ()
  amends : manager.context.Amends splice
  startIndex : (splice.startIndex : Int) = startIndex
  deleteCount : splice.deleteCount = deleteCount
  length : splice.inserted.length = inserted.length
  answers : reason ≠ .append → List.Forall₂ SameAnswer inserted splice.inserted
  reason : splice.reason = reason
  turnBoundary : splice.turnBoundary = turnBoundary
  coalescedToolCallIds : splice.coalescedToolCallIds = coalescedToolCallIds

variable {reason : ChatContextSpliceReason} {inserted : List ChatMessage}

theorem identify_rewriting {modelTurn : Nat} (rewrites : reason ≠ .append) (message : ChatMessage) :
    identify recorder modelTurn reason message = .ok message := by
  have kept : identify.named recorder modelTurn reason message = message := by
    unfold identify.named
    exact if_pos (.inl rewrites)
  unfold identify
  split
  · rw [if_neg (fun appends => rewrites appends.1), kept]
  · rw [kept]

variable {turnBoundary : Nat} {deleteCount : Nat} {startIndex : Int}

theorem applySplice_ok {metadata : SpliceMetadata}
    (applied : applySplice recorder manager startIndex deleteCount inserted reason turnBoundary metadata = .ok (splice, after)) :
    Recorded recorder manager startIndex deleteCount inserted reason turnBoundary metadata.coalescedToolCallIds splice ∧
      after = manager.amended splice := by
  simp only [applySplice, bind_eq_ok, pure_eq_ok, throwWhen_eq_ok, Bool.or_eq_false_iff, decide_eq_false_iff_not] at applied
  obtain ⟨identified, isIdentified, _, ⟨⟨notNegative, _⟩, _⟩, committed, isRecorded, isResult⟩ := applied
  cases isResult
  obtain ⟨isCommitted, isSplice, answers⟩ := ChatContextRecorder.recordContextSpliced_ok isRecorded
  have identities := mapM_eq_ok.mp isIdentified
  refine ⟨?_, rfl⟩
  rw [isSplice] at isCommitted ⊢
  exact {
    committed := isCommitted
    amends := ⟨rfl, rfl⟩
    startIndex := Int.toNat_of_nonneg (by omega)
    deleteCount := rfl
    length := answers.length_eq.symm.trans identities.length_eq.symm
    reason := rfl
    turnBoundary := rfl
    coalescedToolCallIds := rfl
    answers := by
      intro rewrites
      have same : inserted = identified := by
        have pointwise : List.Forall₂ Eq inserted identified := by
          apply identities.imp
          intro message identity isIdentity
          rw [identify_rewriting rewrites] at isIdentity
          exact Except.ok.inj isIdentity
        rwa [List.forall₂_eq_eq_eq] at pointwise
      rw [same]
      exact answers }

/-! ## Each mutation -/

/-- A computation that records one splice and applies it. -/
def Writes (recorder : ChatContextRecorder) (manager : TranscriptManager)
    (written : Except Thrown (ChatContextSplice × TranscriptManager)) : Prop :=
  ∀ splice after, written = .ok (splice, after) →
    recorder.commit (.context_spliced splice) = .ok () ∧ manager.context.Amends splice ∧ after.context = manager.context.splice splice

theorem applySplice_writes {metadata : SpliceMetadata} :
    Writes recorder manager (applySplice recorder manager startIndex deleteCount inserted reason turnBoundary metadata) := by
  intro splice after applied
  obtain ⟨recorded, rfl⟩ := applySplice_ok applied
  exact ⟨recorded.committed, recorded.amends, rfl⟩

theorem replaceWith_ok {compactedMessages : List ChatMessage} {currentTurnStartIndex : Option Int}
    (replaced : replaceWith recorder manager compactedMessages currentTurnStartIndex = .ok (splice, after)) :
    ∃ turnBoundary, turnBoundary ≤ compactedMessages.length ∧
      Recorded recorder manager 0 manager.messages.length (compactedMessages.map (summarized recorder manager)) .compacted turnBoundary []
        splice ∧
      after.context = manager.context.splice splice := by
  simp only [replaceWith, bind_eq_ok, pure_eq_ok, throwWhen_eq_ok] at replaced
  obtain ⟨_, inRange, ⟨written, between⟩, applied, isResult⟩ := replaced
  cases isResult
  obtain ⟨recorded, rfl⟩ := applySplice_ok applied
  refine ⟨_, ?_, recorded, rfl⟩
  cases currentTurnStartIndex with
  | none => simp
  | some index =>
    simp only [Option.isSome_some, Bool.true_and, Option.getD_some, Bool.or_eq_false_iff, decide_eq_false_iff_not] at inRange ⊢
    omega

variable {content : JsString}

theorem insertUserAfter_ok {index : Int} {images : List JsString} {imagePathKey toolCallId : JsString}
    (inserted : insertUserAfter recorder manager index content images imagePathKey toolCallId = .ok (splice, after)) :
    ∃ message, Recorded recorder manager (index + 1) 0 [message] .insert manager.currentTurnStartIndex [] splice ∧
      after = manager.amended splice := by
  unfold insertUserAfter at inserted
  split at inserted
  · cases inserted
  · exact ⟨_, applySplice_ok inserted⟩

variable {coalescedToolCallIds : List JsString}

theorem replaceToolResult_ok {toolCallId : JsString}
    (replaced : replaceToolResult recorder manager toolCallId content coalescedToolCallIds = .ok (splice, after)) :
    ∃ (index : Nat) (message : ChatMessage), manager.messages[index]? = some message ∧ isResultOf toolCallId message = true ∧
      Recorded recorder manager index 1 [{ message with content := some (.text content) }] .tool_result_replaced
        manager.currentTurnStartIndex coalescedToolCallIds splice ∧
      after = manager.amended splice := by
  unfold replaceToolResult at replaced
  split at replaced
  · cases replaced
  next index isIndex =>
    split at replaced
    · cases replaced
    next message isMessage =>
      refine ⟨index, message, isMessage, ?_, applySplice_ok replaced⟩
      unfold findToolResultIndex lastIndex? at isIndex
      obtain ⟨back, isBack, rfl⟩ := Option.map_eq_some_iff.mp isIndex
      rw [List.findIdx?_eq_some_iff_getElem] at isBack
      obtain ⟨within, answers, _⟩ := isBack
      rw [List.getElem_reverse] at answers
      rw [List.length_reverse] at within
      have bound : manager.messages.length - 1 - back < manager.messages.length := by omega
      rw [List.getElem?_eq_getElem bound] at isMessage
      cases isMessage
      exact answers

theorem upsertForcedFinishCountdown_ok
    (upserted : upsertForcedFinishCountdown recorder manager content = .ok (splice, after)) :
    ∃ (index deleteCount : Nat), index + deleteCount ≤ manager.messages.length ∧ deleteCount ≤ 1 ∧
      Recorded recorder manager index deleteCount [ChatMessage.plain .user (.text content)] .trailing_user_replaced
        manager.currentTurnStartIndex [] splice ∧
      after.context = manager.context.splice splice := by
  simp only [upsertForcedFinishCountdown, bind_eq_ok, pure_eq_ok] at upserted
  obtain ⟨⟨written, between⟩, applied, isResult⟩ := upserted
  cases isResult
  obtain ⟨recorded, rfl⟩ := applySplice_ok applied
  refine ⟨_, _, ?_, ?_, recorded, rfl⟩
  all_goals
    unfold resolveTrailingUserSlot
    split
    · split <;> simp only <;> omega
    · simp only
      omega

theorem reconcileHistory_ok :
    (manager.reconcileHistory recorder).recorded = [] ∧ (manager.reconcileHistory recorder).manager.context = manager.context ∨
      ∃ splice messages before, (manager.reconcileHistory recorder).recorded = [splice] ∧
        manager.revised recorder = .ok (messages, before) ∧
        Recorded recorder manager 0 manager.messages.length messages .history_revised before.length [] splice ∧
        (manager.reconcileHistory recorder).manager.context = manager.context.splice splice := by
  unfold reconcileHistory
  split
  · exact .inl ⟨rfl, rfl⟩
  · unfold outcomeOf
    split
    next written =>
      right
      simp only [bind_eq_ok, pure_eq_ok] at written
      obtain ⟨⟨messages, before⟩, isRevised, ⟨splice, after⟩, applied, returned⟩ := written
      cases returned
      obtain ⟨recorded, rfl⟩ := applySplice_ok applied
      exact ⟨splice, messages, before, rfl, isRevised, recorded, rfl⟩
    · exact .inl ⟨rfl, rfl⟩

/-- The splices of a pruning of images: those of the reconciliation, and perhaps one more. -/
theorem pruneImages_ok (retention : Int) :
    (pruneImages recorder manager retention).recorded = (manager.reconcileHistory recorder).recorded ∧
        (pruneImages recorder manager retention).manager.context = (manager.reconcileHistory recorder).manager.context ∨
      ∃ splice pruned, pruned.length = (manager.reconcileHistory recorder).manager.messages.length ∧
        (pruneImages recorder manager retention).recorded = (manager.reconcileHistory recorder).recorded ++ [splice] ∧
        Recorded recorder (manager.reconcileHistory recorder).manager 0 (manager.reconcileHistory recorder).manager.messages.length pruned
          .images_pruned (manager.reconcileHistory recorder).manager.currentTurnStartIndex [] splice ∧
        (pruneImages recorder manager retention).manager.context =
          (manager.reconcileHistory recorder).manager.context.splice splice := by
  unfold pruneImages
  simp only
  split
  · exact .inl ⟨rfl, rfl⟩
  · split
    · exact .inl ⟨rfl, rfl⟩
    next pruned isPruned =>
      split
      · exact .inl ⟨rfl, rfl⟩
      next splice after applied =>
        obtain ⟨recorded, rfl⟩ := applySplice_ok applied
        exact .inr ⟨splice, pruned.messages, length_pruneImageMessages isPruned, rfl, recorded, rfl⟩

/-! ## Refusals -/

/-- Committed splices that lead from one context to another, each amending what the one before it left. -/
inductive Leads (recorder : ChatContextRecorder) : ContextState → List ChatContextSplice → ContextState → Prop where
  | nothing (state : ContextState) : Leads recorder state [] state
  | splice {state after : ContextState} {splice : ChatContextSplice} {later : List ChatContextSplice}
      (committed : recorder.commit (.context_spliced splice) = .ok ()) (amends : state.Amends splice)
      (leads : Leads recorder (state.splice splice) later after) : Leads recorder state (splice :: later) after

theorem Leads.trans {start middle state : ContextState} {early late : List ChatContextSplice} (before : Leads recorder start early middle)
    (next : Leads recorder middle late state) : Leads recorder start (early ++ late) state := by
  induction before with
  | nothing => exact next
  | splice committed amends _ ih => exact .splice committed amends (ih next)

theorem Recorded.leads
    (recorded : Recorded recorder manager startIndex deleteCount inserted reason turnBoundary coalescedToolCallIds splice) :
    Leads recorder manager.context [splice] (manager.context.splice splice) :=
  .splice recorded.committed recorded.amends (.nothing _)

theorem outcomeOf_leads {written : Except Thrown (ChatContextSplice × TranscriptManager)} (writes : Writes recorder manager written) :
    Leads recorder manager.context (manager.outcomeOf written).recorded (manager.outcomeOf written).manager.context := by
  cases written with
  | error failure => exact .nothing _
  | ok result =>
    obtain ⟨committed, amends, isAfter⟩ := writes result.1 result.2 rfl
    have leads : Leads recorder manager.context [result.1] (manager.context.splice result.1) := .splice committed amends (.nothing _)
    rwa [← isAfter] at leads

theorem reconcileHistory_leads :
    Leads recorder manager.context (manager.reconcileHistory recorder).recorded (manager.reconcileHistory recorder).manager.context := by
  obtain ⟨nothing, same⟩ | ⟨splice, _, _, isRecorded, _, recorded, isAfter⟩ := @reconcileHistory_ok recorder manager
  · rw [nothing, same]
    exact .nothing _
  · rw [isRecorded, isAfter]
    exact recorded.leads

theorem append_leads (inserted : List ChatMessage) :
    Leads recorder manager.context (append recorder manager inserted).recorded (append recorder manager inserted).manager.context := by
  unfold append
  split
  · exact .nothing _
  · exact outcomeOf_leads applySplice_writes

theorem mutate_leads (recorder : ChatContextRecorder) (manager : TranscriptManager) (mutation : Mutation) :
    Leads recorder manager.context (mutate recorder manager mutation).recorded (mutate recorder manager mutation).manager.context := by
  cases mutation with
  | beginTurn turn => exact .nothing _
  | replaceWith compactedMessages currentTurnStartIndex =>
    apply outcomeOf_leads
    intro splice after replaced
    obtain ⟨_, _, recorded, isAfter⟩ := replaceWith_ok replaced
    exact ⟨recorded.committed, recorded.amends, isAfter⟩
  | appendBatchExchange outcomes thinkingText content => exact append_leads _
  | pushAssistant message => exact append_leads _
  | pushUser content images imagePathKey => exact append_leads _
  | pushQueuedUser id content images => exact outcomeOf_leads applySplice_writes
  | insertUserAfter index content images imagePathKey toolCallId =>
    apply outcomeOf_leads
    intro splice after inserted
    obtain ⟨_, recorded, rfl⟩ := insertUserAfter_ok inserted
    exact ⟨recorded.committed, recorded.amends, rfl⟩
  | replaceToolResult toolCallId content coalescedToolCallIds =>
    apply outcomeOf_leads
    intro splice after replaced
    obtain ⟨_, _, _, _, recorded, rfl⟩ := replaceToolResult_ok replaced
    exact ⟨recorded.committed, recorded.amends, rfl⟩
  | upsertForcedFinishCountdown content =>
    apply outcomeOf_leads
    intro splice after upserted
    obtain ⟨_, _, _, _, recorded, isAfter⟩ := upsertForcedFinishCountdown_ok upserted
    exact ⟨recorded.committed, recorded.amends, isAfter⟩
  | pruneThinking maintainPerStepThinking =>
    simp only [mutate, pruneThinking]
    split
    · exact .nothing _
    · exact outcomeOf_leads applySplice_writes
  | pruneImages retention =>
    simp only [mutate]
    obtain ⟨isRecorded, same⟩ | ⟨splice, _, _, isRecorded, recorded, isAfter⟩ := @pruneImages_ok recorder manager retention
    · rw [isRecorded, same]
      exact reconcileHistory_leads
    · rw [isRecorded, isAfter]
      exact reconcileHistory_leads.trans recorded.leads
  | reconcileHistory => exact reconcileHistory_leads

end TranscriptManager

end SiftKit.Chat
