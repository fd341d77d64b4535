import SiftKit.Chat.ContextReplay
import SiftKit.Foundation.Runs

/-! # What an event does to a replay

One lemma for each kind of event: what must hold for the replay to go on, and what it is then.
-/

namespace SiftKit.Chat

open SiftKit.Json SiftKit.Failure SiftKit.OrderedMap

namespace ChatContextReplay

/-! ## Representing calls -/

/-- Calls of which some are answered by history. -/
def representCalls (calls : OrderedMap JsString ToolCallRecord) (ids : List JsString) : OrderedMap JsString ToolCallRecord :=
  ids.foldl (fun calls id => calls.update id ToolCallRecord.markRepresented) calls

@[simp] theorem markRepresented_twice (record : ToolCallRecord) : record.markRepresented.markRepresented = record.markRepresented := rfl

section

variable (calls : OrderedMap JsString ToolCallRecord) (ids : List JsString)

include calls ids

@[simp] theorem keys_representCalls :
    (representCalls calls ids).keys = calls.keys := by
  induction ids generalizing calls with
  | nil => rfl
  | cons id rest ih => exact (ih _).trans (keys_update calls id _)

theorem get?_representCalls (key : JsString) :
    (representCalls calls ids).get? key =
      if key ∈ ids then (calls.get? key).map ToolCallRecord.markRepresented else calls.get? key := by
  induction ids generalizing calls with
  | nil => rfl
  | cons id rest ih =>
    have step : representCalls calls (id :: rest) = representCalls (calls.update id ToolCallRecord.markRepresented) rest := rfl
    rw [step, ih, get?_update]
    by_cases same : key = id
    · cases calls.get? key <;> simp [same]
    · by_cases later : key ∈ rest <;> simp [same, later]

theorem entries_representCalls :
    (representCalls calls ids).entries =
      calls.entries.map fun entry => if entry.1 ∈ ids then (entry.1, entry.2.markRepresented) else entry := by
  induction ids generalizing calls with
  | nil => simp [representCalls]
  | cons id rest ih =>
    have step : representCalls calls (id :: rest) = representCalls (calls.update id ToolCallRecord.markRepresented) rest := rfl
    rw [step, ih]
    simp only [update, List.map_map]
    apply List.map_congr_left
    intro entry _
    by_cases same : entry.1 = id
    · by_cases later : entry.1 ∈ rest
      · simp [same, same ▸ later]
      · simp [same, same ▸ later]
    · simp [same]

end

theorem foldl_represent (ids : List JsString) (replay : ChatContextReplay) :
    ids.foldl represent replay =
      { replay with
        declaredCallIds := ids.reverse ++ replay.declaredCallIds
        toolCalls := representCalls replay.toolCalls ids } := by
  induction ids generalizing replay with
  | nil => rfl
  | cons id rest ih =>
    rw [List.foldl_cons, ih]
    simp [represent, representCalls]

/-- The calls that a splice answers, by their display ids. -/
def representedBy (splice : ChatContextSplice) (replay : ChatContextReplay) : List JsString :=
  replay.declaredCalls (currentTurn splice) ++ splice.coalescedToolCallIds

theorem representSplice_eq (splice : ChatContextSplice) (replay : ChatContextReplay) :
    replay.representSplice splice = (replay.representedBy splice).foldl represent replay := by
  rw [representSplice, collectDeclaredCallIds, representedBy, List.foldl_append]

/-! ## The context -/

/-- The context that the replay has come to. -/
def context? (replay : ChatContextReplay) : Option ContextState :=
  replay.messages.map fun messages => ⟨messages, replay.contextRevision, replay.turnBoundary⟩

variable {replay : ChatContextReplay}

theorem context?_eq_some {state : ContextState} :
    replay.context? = some state ↔
      replay.messages = some state.messages ∧ replay.contextRevision = state.contextRevision ∧
        replay.turnBoundary = state.turnBoundary := by
  cases state
  simp [context?, and_left_comm]

theorem context?_eq_none : replay.context? = none ↔ replay.messages = none := by simp [context?]

theorem not_failed {operationId : JsString} {anchor : Anchor} {code : ChatRecoveryIssueCode} {detail : JsString}
    (goesOn : (replay.fail operationId anchor code detail).failed = none) : False := by
  simp [fail] at goesOn

@[simp] theorem context?_incorporate (queueMessageIds : Option (List JsString)) (replay : ChatContextReplay) :
    (replay.incorporate queueMessageIds).context? = replay.context? := rfl

@[simp] theorem context?_foldl_represent (ids : List JsString) (replay : ChatContextReplay) :
    (ids.foldl represent replay).context? = replay.context? := by
  rw [foldl_represent]
  rfl

@[simp] theorem failed_foldl_represent (ids : List JsString) (replay : ChatContextReplay) :
    (ids.foldl represent replay).failed = replay.failed := by
  rw [foldl_represent]

/-! ## Reading an event -/

theorem apply_failed (hasFailed : replay.failed ≠ none) (envelope : ContextEnvelope) :
    replay.apply envelope = replay := by
  rw [apply, if_pos (Option.isSome_iff_ne_none.mpr hasFailed)]

theorem apply_ok {envelope : ContextEnvelope} (goesOn : (replay.apply envelope).failed = none) :
    replay.failed = none ∧ envelope.operationId = replay.operationId.getD envelope.operationId ∧
      envelope.sequence = replay.expectedSequence ∧
      replay.apply envelope =
        applyEvent envelope.operationId ⟨some envelope.eventId, some envelope.sequence⟩ envelope.event (replay.advanced envelope) := by
  have notFailed : replay.failed = none := by
    by_contra hasFailed
    rw [apply_failed hasFailed] at goesOn
    exact hasFailed goesOn
  have isNone : replay.failed.isSome = false := by rw [notFailed]; rfl
  simp only [apply, isNone, Bool.false_eq_true, if_false] at goesOn ⊢
  split at goesOn
  · exact (not_failed goesOn).elim
  next sameOperation =>
    have same := not_not.mp sameOperation
    split at goesOn
    · exact (not_failed goesOn).elim
    next inOrder =>
      rw [if_neg sameOperation, if_neg inOrder, ← same]
      exact ⟨notFailed, rfl, not_not.mp inOrder, rfl⟩

theorem apply_next {envelope : ContextEnvelope} (goesOn : replay.failed = none)
    (sameOperation : envelope.operationId = replay.operationId.getD envelope.operationId)
    (inOrder : envelope.sequence = replay.expectedSequence) :
    replay.apply envelope =
      applyEvent envelope.operationId ⟨some envelope.eventId, some envelope.sequence⟩ envelope.event (replay.advanced envelope) := by
  have isNone : replay.failed.isSome = false := by rw [goesOn]; rfl
  simp only [apply, isNone, Bool.false_eq_true, if_false]
  rw [← sameOperation, if_neg (not_not.mpr rfl), if_neg (not_not.mpr inOrder)]

@[simp] theorem context?_advanced (envelope : ContextEnvelope) (replay : ChatContextReplay) :
    (replay.advanced envelope).context? = replay.context? := rfl

/-! ## Context events -/

variable {operationId : JsString} {anchor : Anchor}

theorem initializeContext_ok {init : ChatContextInit} (goesOn : replay.failed = none) :
    (replay.initializeContext operationId anchor init).failed = none ↔
      replay.messages = none ∧ init.contextRevision = 0 ∧ init.turnBoundary ≤ init.messages.length := by
  unfold initializeContext
  split
  next isSome =>
    have started := Option.isSome_iff_ne_none.mp isSome
    exact ⟨fun ok => (not_failed ok).elim, fun ok => absurd ok.1 started⟩
  next isNone =>
    have absent : replay.messages = none := by simpa using isNone
    split
    next invalid =>
      exact ⟨fun ok => (not_failed ok).elim, fun ok => by omega⟩
    next valid =>
      rw [not_or, not_not, Nat.not_lt] at valid
      rw [collectDeclaredCallIds, failed_foldl_represent]
      exact ⟨fun _ => ⟨absent, valid⟩, fun _ => goesOn⟩

theorem context?_initializeContext {init : ChatContextInit}
    (goesOn : (replay.initializeContext operationId anchor init).failed = none) :
    (replay.initializeContext operationId anchor init).context? = some ⟨init.messages, init.contextRevision, init.turnBoundary⟩ := by
  unfold initializeContext at goesOn ⊢
  split at goesOn
  · exact (not_failed goesOn).elim
  next isNone =>
    split at goesOn
    · exact (not_failed goesOn).elim
    next valid =>
      rw [if_neg isNone, if_neg valid, collectDeclaredCallIds, context?_foldl_represent]
      rfl

theorem spliceConflict_eq_none {splice : ChatContextSplice} {messages : List ChatMessage} :
    replay.spliceConflict splice messages = none ↔
      (ContextState.mk messages replay.contextRevision replay.turnBoundary).Amends splice ∧
        (ContextState.mk messages replay.contextRevision replay.turnBoundary).Fits splice ∧
        replay.validateCoalescedCalls splice messages = none := by
  unfold spliceConflict ContextState.Amends ContextState.Fits
  split
  next otherRevision => exact ⟨fun impossible => (nomatch impossible), fun ok => absurd ok.1.1 otherRevision⟩
  next sameRevision =>
    split
    next invalid => exact ⟨fun impossible => (nomatch impossible), fun ok => by simp only at ok; omega⟩
    next valid =>
      split
      next beyond => exact ⟨fun impossible => (nomatch impossible), fun ok => by simp only at ok; omega⟩
      next within =>
        rw [Option.map_eq_none_iff]
        simp only
        exact ⟨fun coalesces => ⟨by omega, by omega, coalesces⟩, fun ok => ok.2.2⟩

/-- The replay after a splice that it took, before the calls that the splice answers. -/
def withSplice (splice : ChatContextSplice) (messages : List ChatMessage) (replay : ChatContextReplay) : ChatContextReplay :=
  { replay with
    messages := some (spliceList messages splice.startIndex splice.deleteCount splice.inserted)
    rawContextLength := replay.rawContextLength + splice.inserted.length - splice.deleteCount
    contextRevision := splice.contextRevision
    turnBoundary := splice.turnBoundary }

theorem applySplice_ok {splice : ChatContextSplice} (goesOn : replay.failed = none) :
    (replay.applySplice operationId anchor splice).failed = none ↔
      ∃ state, replay.context? = some state ∧ state.Amends splice ∧ state.Fits splice ∧
        replay.validateCoalescedCalls splice state.messages = none := by
  unfold applySplice
  cases given : replay.messages with
  | none =>
    have absent := context?_eq_none.mpr given
    refine ⟨fun ok => (not_failed ok).elim, fun ⟨state, isState, _⟩ => ?_⟩
    rw [absent] at isState
    cases isState
  | some messages =>
    have present : replay.context? = some ⟨messages, replay.contextRevision, replay.turnBoundary⟩ :=
      context?_eq_some.mpr ⟨given, rfl, rfl⟩
    simp only [present, Option.some_inj, exists_eq_left']
    cases conflict : replay.spliceConflict splice messages with
    | none =>
      rw [representSplice_eq, failed_foldl_represent]
      exact ⟨fun _ => spliceConflict_eq_none.mp conflict, fun _ => goesOn⟩
    | some refused =>
      refine ⟨fun ok => (not_failed ok).elim, fun ok => ?_⟩
      rw [spliceConflict_eq_none.mpr ok] at conflict
      cases conflict

section

variable {splice : ChatContextSplice} {replay : ChatContextReplay} {state : ContextState}
  (goesOn : (replay.applySplice operationId anchor splice).failed = none)
  (isState : replay.context? = some state)

include goesOn isState

theorem applySplice_eq :
    replay.applySplice operationId anchor splice = (replay.withSplice splice state.messages).representSplice splice := by
  obtain ⟨isMessages, _, _⟩ := context?_eq_some.mp isState
  unfold applySplice at goesOn ⊢
  rw [isMessages] at goesOn ⊢
  cases conflict : replay.spliceConflict splice state.messages with
  | none => simp only [conflict, withSplice]
  | some refused =>
    simp only [conflict] at goesOn
    exact (not_failed goesOn).elim

theorem context?_applySplice :
    (replay.applySplice operationId anchor splice).context? = some (state.splice splice) := by
  rw [applySplice_eq goesOn isState, representSplice_eq, context?_foldl_represent]
  rfl

end

/-! ## Tool evidence -/

/-- Evidence of tools touches nothing but the calls. -/
theorem recordToolEvidence_frame (event : ChatJournalEvent) (replay : ChatContextReplay) :
    ∃ failed toolCalls batches, replay.recordToolEvidence operationId anchor event =
      { replay with failed := failed, toolCalls := toolCalls, batches := batches } := by
  have one : ∀ call refuse change, ∃ failed toolCalls, replay.withRecord operationId anchor call refuse change =
      { replay with failed := failed, toolCalls := toolCalls } := by
    intro call refuse change
    unfold withRecord
    split
    · exact ⟨_, _, rfl⟩
    · split
      · exact ⟨_, _, rfl⟩
      · split <;> exact ⟨_, _, rfl⟩
  cases event with
  | tool_proposed call toolName arguments =>
    simp only [recordToolEvidence, propose]
    split <;> exact ⟨_, _, _, rfl⟩
  | tool_started call =>
    obtain ⟨failed, toolCalls, same⟩ := one call _ _
    exact ⟨failed, toolCalls, replay.batches, same⟩
  | tool_result call rejected output =>
    obtain ⟨failed, toolCalls, same⟩ := one call _ _
    exact ⟨failed, toolCalls, replay.batches, same⟩
  | tool_result_finalized call modelVisibleText =>
    obtain ⟨failed, toolCalls, same⟩ := one call _ _
    exact ⟨failed, toolCalls, replay.batches, same⟩
  | _ => exact ⟨_, _, _, rfl⟩

@[simp] theorem context?_recordToolEvidence (event : ChatJournalEvent) (replay : ChatContextReplay) :
    (replay.recordToolEvidence operationId anchor event).context? = replay.context? := by
  obtain ⟨failed, toolCalls, batches, same⟩ := @recordToolEvidence_frame operationId anchor event replay
  rw [same]
  rfl

theorem propose_ok {call : ChatToolCallIdentity} {toolName : JsString} {arguments : JsValue}
    (goesOn : (replay.propose operationId anchor call toolName arguments).failed = none) :
    call.displayToolCallId ∉ replay.toolCalls.keys ∧
      replay.propose operationId anchor call toolName arguments = { replay with
        toolCalls := replay.toolCalls.set call.displayToolCallId (.create call toolName arguments)
        batches := replay.batches.set call.batchId ((replay.batches.get? call.batchId).getD [] ++ [call.displayToolCallId]) } := by
  simp only [propose] at goesOn ⊢
  split at goesOn
  · exact (not_failed goesOn).elim
  next isNew =>
    rw [if_neg isNew]
    refine ⟨fun member => isNew ?_, rfl⟩
    rw [has_iff.mpr member, Bool.true_or]

theorem withRecord_ok {call : ChatToolCallIdentity} {refuse : ToolCallRecord → Option (ChatRecoveryIssueCode × JsString)}
    {change : ToolCallRecord → ToolCallRecord}
    (goesOn : (replay.withRecord operationId anchor call refuse change).failed = none) :
    replay.withRecord operationId anchor call refuse change =
      { replay with toolCalls := replay.toolCalls.update call.displayToolCallId change } := by
  unfold withRecord at goesOn ⊢
  split at goesOn
  · exact (not_failed goesOn).elim
  next record isRecord =>
    split at goesOn
    · exact (not_failed goesOn).elim
    next same =>
      simp only [if_neg same]
      cases refusal : refuse record with
      | none => rfl
      | some refused =>
        simp only [refusal] at goesOn
        exact (not_failed goesOn).elim

/-! ## The length of the context -/

/-- The replay knows how long its context is, and the turn starts within it. -/
def Measured (replay : ChatContextReplay) : Prop :=
  ∀ state, replay.context? = some state → replay.rawContextLength = state.messages.length ∧ state.WellBounded

section

variable {replay : ChatContextReplay} (measured : replay.Measured)

include measured

theorem initializeContext_measured (init : ChatContextInit) :
    (replay.initializeContext operationId anchor init).Measured := by
  unfold initializeContext
  split
  · exact measured
  · split
    · exact measured
    next valid =>
      rw [collectDeclaredCallIds, foldl_represent]
      intro state isState
      cases isState
      exact ⟨rfl, by simp only [ContextState.WellBounded]; omega⟩

theorem applySplice_measured (splice : ChatContextSplice) :
    (replay.applySplice operationId anchor splice).Measured := by
  unfold applySplice
  split
  · exact measured
  next messages isMessages =>
    split
    · exact measured
    next taken =>
      obtain ⟨_, fits, _⟩ := spliceConflict_eq_none.mp taken
      have known := (measured ⟨messages, replay.contextRevision, replay.turnBoundary⟩ (context?_eq_some.mpr ⟨isMessages, rfl, rfl⟩)).1
      rw [representSplice_eq, foldl_represent]
      intro state isState
      cases isState
      have length := length_spliceList splice.inserted fits.1
      refine ⟨?_, ContextState.wellBounded_splice fits⟩
      have within := fits.1
      simp only at known length within ⊢
      omega

theorem apply_measured (envelope : ContextEnvelope) : (replay.apply envelope).Measured := by
  unfold apply
  split
  · exact measured
  · simp only
    split
    · exact measured
    · split
      · exact measured
      · have read : (replay.advanced envelope).Measured := measured
        unfold applyEvent
        split
        · exact measured
        next init _ => exact @initializeContext_measured _ _ ((replay.advanced envelope).incorporate init.queueMessageIds) read init
        next splice _ => exact @applySplice_measured _ _ ((replay.advanced envelope).incorporate splice.queueMessageIds) read splice
        next evidence =>
          obtain ⟨failed, toolCalls, batches, same⟩ := recordToolEvidence_frame envelope.event (replay.advanced envelope)
          rw [same]
          exact measured

end

theorem replayed_measured (envelopes : List ContextEnvelope) : (replayed envelopes).Measured :=
  Runs.run_invariant Measured (fun _ envelope measured => apply_measured measured envelope) (fun _ isState => by cases isState) envelopes

/-! ## The end -/

theorem finish_ok {recovered : ChatRecoveredContext} (isFinished : replay.finish = .ok recovered)
    (isRecovered : recovered.status ≠ .recovery_failed) :
    replay.failed = none ∧ (replay.operationId = none ∧ recovered = ⟨.ok, [], 0, 0, [], []⟩ ∨
      ∃ operationId state closed, replay.operationId = some operationId ∧ replay.context? = some state ∧
        replay.closeInterruptedBatches operationId = .ok closed ∧
        recovered.messages = state.messages ++ closed ++ replay.pendingQueue.values.map QueuedMessage.message ∧
        recovered.contextRevision = state.contextRevision ∧ recovered.turnBoundary = state.turnBoundary ∧
        recovered.status = (if !closed.isEmpty || 0 < replay.pendingQueue.size then .recovery_needed else .ok) ∧
        findPlannerContextViolation recovered.messages = none) := by
  unfold finish at isFinished
  split at isFinished
  · cases isFinished
    exact absurd rfl isRecovered
  next isFailed isOperation =>
    cases isFinished
    exact ⟨isFailed, .inl ⟨isOperation, rfl⟩⟩
  · cases isFinished
    exact absurd rfl isRecovered
  next operationId messages isFailed isOperation isMessages =>
    rw [bind_eq_ok] at isFinished
    obtain ⟨closed, isClosed, isEnd⟩ := isFinished
    simp only at isEnd
    split at isEnd
    · cases isEnd
      exact absurd rfl isRecovered
    next coherent =>
      cases isEnd
      exact ⟨isFailed, .inr ⟨operationId, ⟨messages, _, _⟩, closed, isOperation, context?_eq_some.mpr ⟨isMessages, rfl, rfl⟩, isClosed, rfl, rfl,
        rfl, rfl, coherent⟩⟩

/-! ## The journal of one run -/

/-- The journal of a run: its events in their order, numbered from the first. -/
def journalOf (operationId : JsString) (eventIds : Nat → JsString) (events : List ChatJournalEvent) : List ContextEnvelope :=
  events.mapIdx fun index event => ⟨operationId, index + 1, eventIds index, event⟩

theorem journalOf_concat (operationId : JsString) (eventIds : Nat → JsString) (events : List ChatJournalEvent) (event : ChatJournalEvent) :
    journalOf operationId eventIds (events ++ [event]) =
      journalOf operationId eventIds events ++ [⟨operationId, events.length + 1, eventIds events.length, event⟩] :=
  List.mapIdx_concat

/-- Where in the journal a replay is. -/
def place (replay : ChatContextReplay) : Option JsString × Nat := (replay.operationId, replay.expectedSequence)

theorem place_applyEvent (event : ChatJournalEvent) (replay : ChatContextReplay) :
    (applyEvent operationId anchor event replay).place = replay.place := by
  unfold applyEvent
  split
  · rfl
  · unfold initializeContext
    split
    · rfl
    · split
      · rfl
      · rw [collectDeclaredCallIds, foldl_represent]
        rfl
  · unfold applySplice
    split
    · rfl
    · split
      · rfl
      · rw [representSplice_eq, foldl_represent]
        rfl
  · obtain ⟨failed, toolCalls, batches, same⟩ := @recordToolEvidence_frame operationId anchor event replay
    rw [same]
    rfl

theorem place_advanced (envelope : ContextEnvelope) (replay : ChatContextReplay) :
    (replay.advanced envelope).place = (some (replay.operationId.getD envelope.operationId), replay.expectedSequence + 1) := rfl

theorem replayed_concat (envelopes : List ContextEnvelope) (envelope : ContextEnvelope) :
    replayed (envelopes ++ [envelope]) = (replayed envelopes).apply envelope := List.foldl_concat ..

section

variable {eventIds : Nat → JsString} {events : List ChatJournalEvent}
  (goesOn : (replayed (journalOf operationId eventIds events)).failed = none)

include goesOn

theorem place_replayed :
    (replayed (journalOf operationId eventIds events)).place = (if events.isEmpty then none else some operationId, events.length + 1) := by
  induction events using List.reverseRecOn with
  | nil => rfl
  | append_singleton events event ih =>
    rw [journalOf_concat, replayed_concat] at goesOn ⊢
    obtain ⟨wentOn, sameOperation, inOrder, isRead⟩ := apply_ok goesOn
    rw [isRead, place_applyEvent, place_advanced, ← sameOperation, ← inOrder]
    simp

theorem replayed_journalOf_concat (event : ChatJournalEvent) :
    replayed (journalOf operationId eventIds (events ++ [event])) =
      applyEvent operationId ⟨some (eventIds events.length), some (events.length + 1)⟩ event
        ((replayed (journalOf operationId eventIds events)).advanced ⟨operationId, events.length + 1, eventIds events.length, event⟩) := by
  have isPlace := place_replayed goesOn
  rw [place, Prod.mk.injEq] at isPlace
  rw [journalOf_concat, replayed_concat]
  apply apply_next goesOn
  · rw [isPlace.1]
    split <;> rfl
  · exact isPlace.2.symm

end

end ChatContextReplay

end SiftKit.Chat
