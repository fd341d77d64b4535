import SiftKit.Chat.ContextReplayEffects
import SiftKit.Chat.ToolLedger

/-! # What a finished replay answers

A replay keeps track of the ledger of its journal as long as no context event is ambiguous about a reused
id.  What it then adds at its end answers each call that history does not hold, once and by its evidence.
-/

namespace SiftKit.Chat

open SiftKit.Json SiftKit.Failure SiftKit.OrderedMap ChatContextReplay

/-! ## Writing the newest calls -/

namespace Ledger

/-- The last proposal of an id. -/
def latest (id : JsString) (calls : List LedgerCall) : Option LedgerCall := calls.reverse.find? fun call => call.id == id

/-- The last proposals of the ids that messages declare. -/
def latestDeclared (messages : List ChatMessage) (calls : List LedgerCall) : List JsString :=
  (callIds messages).filterMap fun id => (latest id calls).map LedgerCall.display

theorem latest_split {early later : List LedgerCall} {call : LedgerCall} (last : call.id ∉ later.map LedgerCall.id) :
    latest call.id (early ++ call :: later) = some call := by
  have none : later.reverse.find? (fun other => other.id == call.id) = none := by
    rw [List.find?_eq_none]
    intro other member same
    exact last (List.mem_map.mpr ⟨other, List.mem_reverse.mp member, by simpa using same⟩)
  simp [latest, List.find?_append, none]

theorem latest_later {early later : List LedgerCall} {call : LedgerCall} {id : JsString} (again : id ∈ later.map LedgerCall.id) :
    ∃ other ∈ later, latest id (early ++ call :: later) = some other := by
  obtain ⟨first, member, rfl⟩ := List.mem_map.mp again
  cases found : later.reverse.find? (fun other => other.id == first.id) with
  | none =>
    rw [List.find?_eq_none] at found
    exact absurd (beq_self_eq_true first.id) (found first (List.mem_reverse.mpr member))
  | some other =>
    refine ⟨other, List.mem_reverse.mp (List.mem_of_find?_eq_some found), ?_⟩
    simp [latest, List.find?_append, found]

/-- A call is among the last proposals of the declared ids exactly if its id is declared and not proposed again. -/
theorem mem_latestDeclared {messages : List ChatMessage} {early later : List LedgerCall} {call : LedgerCall}
    (distinct : ((early ++ call :: later).map LedgerCall.display).Nodup) :
    call.display ∈ latestDeclared messages (early ++ call :: later) ↔ call.id ∈ callIds messages ∧ call.id ∉ later.map LedgerCall.id := by
  rw [latestDeclared, List.mem_filterMap]
  constructor
  · rintro ⟨id, declared, found⟩
    obtain ⟨other, isLatest, sameDisplay⟩ := Option.map_eq_some_iff.mp found
    have member : other ∈ early ++ call :: later := List.mem_reverse.mp (List.mem_of_find?_eq_some isLatest)
    have same : other = call := List.inj_on_of_nodup_map distinct member (by simp) sameDisplay
    subst same
    have isId : other.id = id := by simpa using List.find?_some isLatest
    subst isId
    refine ⟨declared, fun again => ?_⟩
    obtain ⟨third, thirdMember, isThird⟩ := @latest_later early later other other.id again
    rw [isLatest] at isThird
    cases isThird
    rw [List.map_append, List.map_cons, List.nodup_append, List.nodup_cons] at distinct
    exact distinct.2.1.1 (List.mem_map_of_mem thirdMember)
  · rintro ⟨declared, last⟩
    exact ⟨call.id, declared, by rw [latest_split last]; rfl⟩

theorem added_of_not_declared {edit : ContextEdit} {id : JsString} (absent : id ∉ callIds edit.current) : edit.added id = 0 := by
  rw [ContextEdit.added, List.count_eq_zero.mpr absent, Nat.zero_min]

/-- An edit without ambiguity writes the last proposals of the ids that it declares. -/
theorem write_eq_coalesce {edit : ContextEdit} {early calls : List LedgerCall} (addsLatest : AddsLatest edit calls)
    (distinct : ((early ++ calls).map LedgerCall.display).Nodup) :
    write edit.added calls = coalesce (latestDeclared edit.current (early ++ calls)) calls := by
  induction calls generalizing early with
  | nil => rfl
  | cons call later ih =>
    have regrouped : early ++ call :: later = (early ++ [call]) ++ later := by simp
    have rest := ih addsLatest.2 (regrouped ▸ distinct)
    rw [← regrouped] at rest
    rw [write, rest, coalesce, coalesce, List.map_cons]
    congr 2
    cases isWritten : call.written with
    | true => simp
    | false =>
      rw [Bool.false_or, Bool.false_or, Bool.eq_iff_iff, decide_eq_true_iff, List.contains_iff_mem, mem_latestDeclared distinct]
      by_cases declared : call.id ∈ callIds edit.current
      · rw [addsLatest.1 isWritten declared]
        exact ⟨fun last => ⟨declared, last⟩, fun both => both.2⟩
      · rw [added_of_not_declared declared]
        exact ⟨fun impossible => absurd impossible (Nat.not_lt_zero _), fun both => absurd both.1 declared⟩

theorem coalesce_nil (calls : List LedgerCall) : coalesce [] calls = calls := by simp [coalesce]

theorem coalesce_append (first second : List JsString) (calls : List LedgerCall) :
    coalesce second (coalesce first calls) = coalesce (first ++ second) calls := by
  simp only [coalesce, List.map_map]
  apply List.map_congr_left
  intro call _
  have same : ((first ++ second).contains call.display) = (first.contains call.display || second.contains call.display) := by
    rw [Bool.eq_iff_iff]
    simp
  simp only [Function.comp_apply, LedgerCall.display] at same ⊢
  rw [same, Bool.or_assoc]

end Ledger

/-! ## Keeping track -/

/-- A record of a replay tells what the ledger tells of a call; of a written call, only who it is. -/
def TracksCall (record : ToolCallRecord) (call : LedgerCall) : Prop :=
  record.call = call.identity ∧ record.toolName = call.toolName ∧
    (call.written = false → record.represented = false ∧ record.started = call.started ∧
      record.recoveryArguments = some call.arguments ∧ record.output = call.result ∧ record.finalizedText = call.finalized)

def TracksEntry (entry : JsString × ToolCallRecord) (call : LedgerCall) : Prop := entry.1 = call.display ∧ TracksCall entry.2 call

structure Tracks (replay : ChatContextReplay) (ledger : Ledger) : Prop where
  messages : replay.messages.getD [] = ledger.messages
  calls : List.Forall₂ TracksEntry replay.toolCalls.entries ledger.calls
  declared : ∀ call ∈ ledger.calls, call.display ∈ replay.declaredCallIds ↔ call.written = true
  known : ∀ id ∈ replay.declaredCallIds, id ∈ replay.toolCalls.keys
  batches : replay.batches.values.flatten.Perm replay.toolCalls.keys

namespace Tracks

variable {replay : ChatContextReplay} {ledger : Ledger}

theorem create : Tracks ChatContextReplay.create Ledger.empty where
  messages := rfl
  calls := .nil
  declared := fun _ member => by cases member
  known := fun _ member => by cases member
  batches := .nil

theorem keys (tracks : Tracks replay ledger) : replay.toolCalls.keys = ledger.calls.map LedgerCall.display := by
  rw [OrderedMap.keys, ← List.forall₂_eq_eq_eq, List.forall₂_map_left_iff, List.forall₂_map_right_iff]
  exact tracks.calls.imp fun _ _ tracked => tracked.1

theorem distinct (tracks : Tracks replay ledger) : (ledger.calls.map LedgerCall.display).Nodup := by
  rw [← tracks.keys]
  exact replay.toolCalls.distinct

/-! ### Calls that history answers -/

theorem find?_related {Left Right : Type} {related : Left → Right → Prop} {left : List Left} {right : List Right}
    {leftCheck : Left → Bool} {rightCheck : Right → Bool} (pairs : List.Forall₂ related left right)
    (alike : ∀ {one other}, related one other → leftCheck one = rightCheck other) :
    Option.Rel related (left.find? leftCheck) (right.find? rightCheck) := by
  induction pairs with
  | nil => exact .none
  | @cons one other _ _ here _ ih =>
    rw [List.find?_cons, List.find?_cons, ← alike here]
    cases leftCheck one with
    | true => exact .some here
    | false => exact ih

theorem map_related {Left Right Result : Type} {related : Left → Right → Prop} {left : Option Left} {right : Option Right}
    {leftRead : Left → Result} {rightRead : Right → Result} (pair : Option.Rel related left right)
    (alike : ∀ {one other}, related one other → leftRead one = rightRead other) : left.map leftRead = right.map rightRead := by
  cases pair with
  | none => rfl
  | some here => exact congrArg some (alike here)

theorem latestCall (tracks : Tracks replay ledger) (id : JsString) :
    (replay.latestCall id).map (fun record => record.call.displayToolCallId) = (Ledger.latest id ledger.calls).map LedgerCall.display := by
  have records : List.Forall₂ TracksCall replay.toolCalls.values ledger.calls :=
    List.forall₂_map_left_iff.mpr (tracks.calls.imp fun _ _ tracked => tracked.2)
  have found : Option.Rel TracksCall (replay.latestCall id) (Ledger.latest id ledger.calls) :=
    find?_related (List.forall₂_reverse_iff.mpr records) fun {record call} tracked => by rw [tracked.1]; rfl
  exact map_related found fun {record call} tracked => by rw [tracked.1]; rfl

theorem declaredCalls (tracks : Tracks replay ledger) (messages : List ChatMessage) :
    replay.declaredCalls messages = Ledger.latestDeclared messages ledger.calls := by
  have ids : callIds messages = (messages.flatMap ChatMessage.declared).map PlannerToolCall.id := by rw [callIds, List.map_flatMap]
  rw [ChatContextReplay.declaredCalls, Ledger.latestDeclared, ids, List.filterMap_map]
  exact List.filterMap_congr fun call _ => tracks.latestCall call.id

variable {call : LedgerCall} {record : ToolCallRecord}

theorem tracksCall_represented (tracked : TracksCall record call) :
    TracksCall record.markRepresented { call with written := true } :=
  ⟨tracked.1, tracked.2.1, fun impossible => (nomatch impossible)⟩

theorem represent (tracks : Tracks replay ledger) {ids : List JsString} (known : ∀ id ∈ ids, id ∈ replay.toolCalls.keys) :
    Tracks (ids.foldl ChatContextReplay.represent replay) { ledger with calls := Ledger.coalesce ids ledger.calls } := by
  rw [foldl_represent]
  constructor
  · exact tracks.messages
  · rw [entries_representCalls, Ledger.coalesce, List.forall₂_map_left_iff, List.forall₂_map_right_iff]
    apply tracks.calls.imp
    intro entry call tracked
    by_cases member : entry.1 ∈ ids
    · have contained : ids.contains call.display = true := by rw [← tracked.1]; simpa using member
      rw [if_pos member, contained, Bool.or_true]
      exact ⟨tracked.1, tracksCall_represented tracked.2⟩
    · have absent : ids.contains call.display = false := by rw [← tracked.1]; simpa using member
      rw [if_neg member, absent, Bool.or_false]
      exact tracked
  · intro call member
    obtain ⟨before, beforeMember, rfl⟩ := List.mem_map.mp member
    have declared := tracks.declared before beforeMember
    simp only [LedgerCall.display, List.mem_append, List.mem_reverse, Bool.or_eq_true, List.contains_iff_mem] at declared ⊢
    rw [declared]
    exact or_comm
  · intro id member
    rw [keys_representCalls]
    cases List.mem_append.mp member with
    | inl now => exact known id (List.mem_reverse.mp now)
    | inr before => exact tracks.known id before
  · rw [keys_representCalls]
    exact tracks.batches

theorem mem_latestDeclared_known (tracks : Tracks replay ledger) {messages : List ChatMessage} {id : JsString}
    (member : id ∈ Ledger.latestDeclared messages ledger.calls) : id ∈ replay.toolCalls.keys := by
  obtain ⟨_, _, found⟩ := List.mem_filterMap.mp member
  obtain ⟨call, isLatest, rfl⟩ := Option.map_eq_some_iff.mp found
  rw [tracks.keys]
  exact List.mem_map_of_mem (List.mem_reverse.mp (List.mem_of_find?_eq_some isLatest))

/-! ### Context events -/

variable {operationId : JsString} {anchor : Anchor}

/-- A context event without ambiguity: the last proposals of the ids that it declares are written, and so are those that it coalesces. -/
theorem edited (tracks : Tracks replay ledger) (edit : ContextEdit) (addsLatest : Ledger.AddsLatest edit ledger.calls)
    (coalesced : List JsString) (known : ∀ id ∈ coalesced, id ∈ replay.toolCalls.keys) {messages : List ChatMessage}
    (isMessages : replay.messages.getD [] = messages) :
    Tracks ((replay.declaredCalls edit.current ++ coalesced).foldl ChatContextReplay.represent replay)
      ⟨messages, Ledger.coalesce coalesced (Ledger.write edit.added ledger.calls)⟩ := by
  have written : Ledger.write edit.added ledger.calls = Ledger.coalesce (replay.declaredCalls edit.current) ledger.calls := by
    rw [tracks.declaredCalls]
    exact @Ledger.write_eq_coalesce edit [] ledger.calls addsLatest tracks.distinct
  rw [written, Ledger.coalesce_append, ← isMessages, tracks.messages]
  apply tracks.represent
  intro id member
  cases List.mem_append.mp member with
  | inl declared =>
    rw [tracks.declaredCalls] at declared
    exact tracks.mem_latestDeclared_known declared
  | inr isCoalesced => exact known id isCoalesced

theorem withMessages (tracks : Tracks replay ledger) (changed : ChatContextReplay) (calls : changed.toolCalls = replay.toolCalls)
    (declared : changed.declaredCallIds = replay.declaredCallIds) (batches : changed.batches = replay.batches) :
    Tracks changed { ledger with messages := changed.messages.getD [] } := by
  constructor
  · rfl
  · rw [calls]
    exact tracks.calls
  · rw [declared]
    exact tracks.declared
  · rw [declared, calls]
    exact tracks.known
  · rw [calls, batches]
    exact tracks.batches

theorem initialized (tracks : Tracks replay ledger) {init : ChatContextInit} (unambiguous : ledger.Unambiguous (.context_initialized init))
    (goesOn : (replay.initializeContext operationId anchor init).failed = none) :
    Tracks (replay.initializeContext operationId anchor init) (ledger.step (.context_initialized init)) := by
  unfold initializeContext at goesOn ⊢
  split at goesOn
  · exact (not_failed goesOn).elim
  next isNone =>
    split at goesOn
    · exact (not_failed goesOn).elim
    next valid =>
      rw [if_neg isNone, if_neg valid, collectDeclaredCallIds]
      have changed := tracks.withMessages { replay with
        messages := some init.messages
        rawContextLength := init.messages.length
        contextRevision := init.contextRevision
        turnBoundary := init.turnBoundary } rfl rfl rfl
      have next := changed.edited (Ledger.initEdit init) unambiguous [] (fun _ member => by cases member) rfl
      rw [List.append_nil, Ledger.coalesce_nil] at next
      exact next

theorem coalesced_known {ids seen : List JsString} (valid : replay.coalescedViolation seen ids = none) :
    ∀ id ∈ ids, id ∈ replay.toolCalls.keys := by
  induction ids generalizing seen with
  | nil => exact fun _ member => by cases member
  | cons id rest ih =>
    rw [coalescedViolation] at valid
    split at valid
    · cases valid
    next isRejected =>
      split at valid
      · cases valid
      · intro other member
        cases List.mem_cons.mp member with
        | inl here =>
          subst here
          rw [← has_iff, has]
          cases found : replay.toolCalls.get? other with
          | none => simp [found] at isRejected
          | some record => rfl
        | inr later => exact ih valid other later

section

variable (tracks : Tracks replay ledger)

include tracks

theorem spliced {splice : ChatContextSplice} (unambiguous : ledger.Unambiguous (.context_spliced splice))
    (goesOn : (replay.applySplice operationId anchor splice).failed = none) (wentOn : replay.failed = none) :
    Tracks (replay.applySplice operationId anchor splice) (ledger.step (.context_spliced splice)) := by
  obtain ⟨state, isState, _, _, coalesces⟩ := (applySplice_ok wentOn).mp goesOn
  obtain ⟨isMessages, _, _⟩ := context?_eq_some.mp isState
  have sameMessages : ledger.messages = state.messages := by rw [← tracks.messages, isMessages, Option.getD_some]
  have known : ∀ id ∈ splice.coalescedToolCallIds, id ∈ replay.toolCalls.keys := by
    unfold validateCoalescedCalls at coalesces
    split at coalesces
    next nothing =>
      rw [List.isEmpty_iff.mp nothing]
      exact fun _ member => by cases member
    · split at coalesces
      · cases coalesces
      · exact coalesced_known coalesces
  rw [applySplice_eq goesOn isState, representSplice_eq]
  have changed := tracks.withMessages (replay.withSplice splice state.messages) rfl rfl rfl
  have next := changed.edited (Ledger.spliceEdit splice ledger.messages) unambiguous splice.coalescedToolCallIds known rfl
  rw [Ledger.step, sameMessages]
  rw [sameMessages] at next
  exact next

/-! ### Tool evidence -/

theorem proposed {call : ChatToolCallIdentity} {toolName : JsString} {arguments : JsValue}
    (goesOn : (replay.propose operationId anchor call toolName arguments).failed = none) :
    Tracks (replay.propose operationId anchor call toolName arguments) (ledger.step (.tool_proposed call toolName arguments)) := by
  obtain ⟨isNew, same⟩ := propose_ok goesOn
  rw [same]
  constructor
  · exact tracks.messages
  · simp only [Ledger.step, set_absent isNew]
    apply List.rel_append tracks.calls
    exact .cons ⟨rfl, rfl, rfl, fun _ => ⟨rfl, rfl, rfl, rfl, rfl⟩⟩ .nil
  · intro other member
    cases List.mem_append.mp member with
    | inl before => exact tracks.declared other before
    | inr last =>
      rw [List.mem_singleton.mp last]
      exact ⟨fun declared => absurd (tracks.known _ declared) isNew, fun impossible => (nomatch impossible)⟩
  · intro id member
    simp only [keys_set, if_neg isNew, List.mem_append]
    exact .inl (tracks.known id member)
  · simp only [keys_set, if_neg isNew]
    exact (flatten_setEntry replay.batches.entries call.batchId call.displayToolCallId).trans (tracks.batches.append_right _)

theorem recorded (identity : ChatToolCallIdentity) {change : ToolCallRecord → ToolCallRecord}
    {more : LedgerCall → LedgerCall} (same : ∀ call, (more call).identity = call.identity ∧ (more call).written = call.written)
    (alike : ∀ {record call}, TracksCall record call → TracksCall (change record) (more call)) :
    Tracks { replay with toolCalls := replay.toolCalls.update identity.displayToolCallId change } (ledger.record identity more) := by
  constructor
  · exact tracks.messages
  · simp only [update, Ledger.record, List.forall₂_map_left_iff, List.forall₂_map_right_iff]
    apply tracks.calls.imp
    intro entry call tracked
    rw [← tracked.1]
    split
    · refine ⟨?_, alike tracked.2⟩
      rw [tracked.1, LedgerCall.display, LedgerCall.display, (same call).1]
    · exact tracked
  · intro call member
    obtain ⟨before, beforeMember, rfl⟩ := List.mem_map.mp member
    have declared := tracks.declared before beforeMember
    split
    · rwa [LedgerCall.display, (same before).1, (same before).2]
    · exact declared
  · simp only [keys_update]
    exact tracks.known
  · simp only [keys_update]
    exact tracks.batches

theorem evidence {event : ChatJournalEvent}
    (goesOn : (replay.recordToolEvidence operationId anchor event).failed = none)
    (notInit : ∀ init, event ≠ .context_initialized init) (notSplice : ∀ splice, event ≠ .context_spliced splice) :
    Tracks (replay.recordToolEvidence operationId anchor event) (ledger.step event) := by
  cases event with
  | context_initialized init => exact absurd rfl (notInit init)
  | context_spliced splice => exact absurd rfl (notSplice splice)
  | tool_proposed call toolName arguments => exact tracks.proposed goesOn
  | tool_started call =>
    simp only [recordToolEvidence] at goesOn ⊢
    rw [withRecord_ok goesOn]
    refine tracks.recorded call ?_ ?_
    · exact fun _ => ⟨rfl, rfl⟩
    intro record other tracked
    exact ⟨tracked.1, tracked.2.1, fun isOpen => ⟨(tracked.2.2 isOpen).1, rfl, (tracked.2.2 isOpen).2.2⟩⟩
  | tool_result call rejected output =>
    simp only [recordToolEvidence] at goesOn ⊢
    rw [withRecord_ok goesOn]
    refine tracks.recorded call ?_ ?_
    · exact fun _ => ⟨rfl, rfl⟩
    intro record other tracked
    refine ⟨tracked.1, tracked.2.1, fun isOpen => ?_⟩
    obtain ⟨notRepresented, started, arguments, _, finalized⟩ := tracked.2.2 isOpen
    exact ⟨notRepresented, started, arguments, by simp [ToolCallRecord.recordOutput, notRepresented], finalized⟩
  | tool_result_finalized call modelVisibleText =>
    simp only [recordToolEvidence] at goesOn ⊢
    rw [withRecord_ok goesOn]
    refine tracks.recorded call ?_ ?_
    · exact fun _ => ⟨rfl, rfl⟩
    intro record other tracked
    refine ⟨?_, ?_, fun isOpen => ?_⟩
    · unfold ToolCallRecord.recordFinalized
      split <;> exact tracked.1
    · unfold ToolCallRecord.recordFinalized
      split <;> exact tracked.2.1
    · obtain ⟨notRepresented, started, arguments, output, _⟩ := tracked.2.2 isOpen
      have finalized : record.recordFinalized modelVisibleText = { record with finalizedText := some modelVisibleText } := by
        rw [ToolCallRecord.recordFinalized, notRepresented, if_neg Bool.false_ne_true]
      rw [finalized]
      exact ⟨notRepresented, started, arguments, output, rfl⟩
  | _ => exact tracks

/-! ### Whole journals -/

theorem incorporated (queueMessageIds : Option (List JsString)) :
    Tracks (replay.incorporate queueMessageIds) ledger :=
  ⟨tracks.messages, tracks.calls, tracks.declared, tracks.known, tracks.batches⟩

theorem applied {envelope : ContextEnvelope} (unambiguous : ledger.Unambiguous envelope.event)
    (goesOn : (replay.apply envelope).failed = none) : Tracks (replay.apply envelope) (ledger.step envelope.event) := by
  obtain ⟨wentOn, _, _, isRead⟩ := apply_ok goesOn
  rw [isRead] at goesOn ⊢
  have read : Tracks (replay.advanced envelope) ledger :=
    ⟨tracks.messages, tracks.calls, tracks.declared, tracks.known, tracks.batches⟩
  cases isEvent : envelope.event with
  | context_initialized init =>
    rw [isEvent] at goesOn unambiguous
    exact (read.incorporated init.queueMessageIds).initialized unambiguous goesOn
  | context_spliced splice =>
    rw [isEvent] at goesOn unambiguous
    exact (read.incorporated splice.queueMessageIds).spliced unambiguous goesOn wentOn
  | queue_delivered message => exact ⟨read.messages, read.calls, read.declared, read.known, read.batches⟩
  | _ =>
    rw [isEvent] at goesOn
    exact read.evidence goesOn (fun _ same => by cases same) (fun _ same => by cases same)

end

theorem foldl_apply_failed {later : List ContextEnvelope} (hasFailed : replay.failed ≠ none) : later.foldl apply replay = replay := by
  induction later with
  | nil => rfl
  | cons envelope rest ih => rwa [List.foldl_cons, apply_failed hasFailed]

/-- A replay that goes on keeps track of a journal without ambiguity. -/
theorem run (tracks : Tracks replay ledger) {later : List ContextEnvelope}
    (unambiguous : ledger.AllUnambiguous (later.map ContextEnvelope.event)) (goesOn : (later.foldl apply replay).failed = none) :
    Tracks (later.foldl apply replay) ((later.map ContextEnvelope.event).foldl Ledger.step ledger) := by
  induction later generalizing replay ledger with
  | nil => exact tracks
  | cons envelope rest ih =>
    have wentOn : (replay.apply envelope).failed = none := by
      by_contra hasFailed
      rw [List.foldl_cons, foldl_apply_failed hasFailed] at goesOn
      exact hasFailed goesOn
    exact ih (tracks.applied unambiguous.1 wentOn) unambiguous.2 goesOn

/-! ## Closing -/

theorem closedResult_eq (tracked : TracksCall record call) (isOpen : call.written = false)
    (operationId : JsString) : closedResult operationId record = call.answer operationId := by
  obtain ⟨isCall, isName, whenOpen⟩ := tracked
  obtain ⟨_, started, _, output, finalized⟩ := whenOpen isOpen
  have sameText : record.modelVisibleText = call.text := by
    rw [ToolCallRecord.modelVisibleText, LedgerCall.text, output, finalized, ToolCallRecord.interruptionText, LedgerCall.interruptionText,
      isName, started]
  rw [closedResult, sameText, isCall]
  rfl

theorem closeBatch_tools {records : List ToolCallRecord} {closed : List ChatMessage}
    (isClosed : closeBatch operationId records = .ok closed) (call : LedgerCall) :
    closed.filter (call.IsAnswer operationId) = (records.map (closedResult operationId)).filter (call.IsAnswer operationId) := by
  unfold closeBatch at isClosed
  split at isClosed
  next nothing =>
    cases isClosed
    rw [List.isEmpty_iff.mp nothing]
    rfl
  · obtain ⟨outcomes, _, rfl⟩ := map_eq_ok.mp isClosed
    exact List.filter_cons_of_neg (by simp [LedgerCall.IsAnswer, buildAssistantToolCallMessage, ChatMessage.plain])

theorem openRecords_append (early late : List JsString) :
    replay.openRecords (early ++ late) = replay.openRecords early ++ replay.openRecords late := by
  rw [openRecords, openRecords, openRecords, List.filterMap_append, List.filter_append]

theorem closeBatches_tools {batches : List (List JsString)} {closed : List (List ChatMessage)}
    (isClosed : batches.mapM (fun batch => closeBatch operationId (replay.openRecords batch)) = .ok closed) (call : LedgerCall) :
    closed.flatten.filter (call.IsAnswer operationId) =
      ((replay.openRecords batches.flatten).map (closedResult operationId)).filter (call.IsAnswer operationId) := by
  have pairs := mapM_eq_ok.mp isClosed
  clear isClosed
  induction pairs with
  | nil => rfl
  | @cons batch messages _ _ here _ ih =>
    rw [List.flatten_cons, List.filter_append, closeBatch_tools here, ih, List.flatten_cons, openRecords_append,
      List.map_append, List.filter_append]

theorem recordOf (tracks : Tracks replay ledger) (member : call ∈ ledger.calls) :
    ∃ record, replay.toolCalls.get? call.display = some record ∧ TracksCall record call := by
  obtain ⟨entry, entryMember, isKey, tracked⟩ := exists_of_forall₂ tracks.calls member
  exact ⟨entry.2, get?_eq_some.mpr (isKey ▸ entryMember), tracked⟩

theorem display_of_get (tracks : Tracks replay ledger) {id : JsString}
    (found : replay.toolCalls.get? id = some record) : record.call.displayToolCallId = id := by
  obtain ⟨call, _, isKey, tracked⟩ := exists_of_forall₂ tracks.calls.flip (get?_eq_some.mp found)
  rw [tracked.1]
  exact isKey.symm

theorem isAnswer_closedResult (record : ToolCallRecord) (call : LedgerCall) :
    call.IsAnswer operationId (closedResult operationId record) = (record.call.displayToolCallId == call.display) := by
  rw [Bool.eq_iff_iff]
  simp [LedgerCall.IsAnswer, closedResult, buildToolResultMessage, ChatMessage.plain, buildChatMessageId]

theorem answered_once (tracks : Tracks replay ledger) (member : call ∈ ledger.calls) :
    ((replay.openRecords replay.batches.values.flatten).map (closedResult operationId)).filter (call.IsAnswer operationId) =
      if call.written then [] else [call.answer operationId] := by
  obtain ⟨record, isRecord, tracked⟩ := tracks.recordOf member
  -- every batch together holds each call once
  have distinct : replay.batches.values.flatten.Nodup := tracks.batches.nodup_iff.mpr replay.toolCalls.distinct
  have inBatch : call.display ∈ replay.batches.values.flatten := by
    rw [tracks.batches.mem_iff, tracks.keys]
    exact List.mem_map_of_mem member
  have only : (replay.batches.values.flatten.filterMap replay.toolCalls.get?).filter
      (fun record => record.call.displayToolCallId == call.display) = [record] := by
    have ofKey : (replay.batches.values.flatten.filter fun id => id == call.display).filterMap replay.toolCalls.get? = [record] := by
      rw [List.filter_beq, List.count_eq_one_of_mem distinct inBatch]
      simp [isRecord]
    rw [← ofKey, List.filter_filterMap, List.filterMap_filter]
    apply List.filterMap_congr
    intro id _
    cases found : replay.toolCalls.get? id with
    | none => simp
    | some other => simp [Option.filter, tracks.display_of_get found]
  have isDisplay : record.call.displayToolCallId = call.display := by rw [tracked.1]; rfl
  simp only [List.filter_map, Function.comp_def, isAnswer_closedResult]
  rw [openRecords, List.filter_filter, List.filter_congr (fun other _ => Bool.and_comm _ _), ← List.filter_filter, only]
  have declared := tracks.declared call member
  rw [← isDisplay] at declared
  cases isWritten : call.written with
  | true => simp [declared.mpr isWritten]
  | false =>
    have absent : record.call.displayToolCallId ∉ replay.declaredCallIds := by rw [declared, isWritten]; exact Bool.false_ne_true
    simp [absent, closedResult_eq tracked isWritten]

end Tracks

/-! ## The contract -/

/-- A replay that goes on without having named its operation has read nothing. -/
theorem unread {journal : List ContextEnvelope} (goesOn : (replayed journal).failed = none)
    (isUnnamed : (replayed journal).operationId = none) : journal = [] := by
  induction journal using List.reverseRecOn with
  | nil => rfl
  | append_singleton early envelope _ =>
    rw [replayed_concat] at goesOn isUnnamed
    obtain ⟨_, _, _, isRead⟩ := apply_ok goesOn
    have isPlace := congrArg Prod.fst (@place_applyEvent envelope.operationId ⟨some envelope.eventId, some envelope.sequence⟩
      envelope.event ((replayed early).advanced envelope))
    rw [← isRead] at isPlace
    rw [place, isUnnamed] at isPlace
    cases isPlace

/-- A finished replay is a valid context in every journal whose context events are not ambiguous about a reused id. -/
theorem finish_answers_open_calls {journal : List ContextEnvelope} (unambiguous : Ledger.empty.AllUnambiguous (journal.map ContextEnvelope.event))
    {recovered : ChatRecoveredContext} (isFinished : replayChatContext journal = .ok recovered)
    (isRecovered : recovered.status ≠ .recovery_failed) : ValidContext (Ledger.ofJournal journal) recovered.messages := by
  obtain ⟨goesOn, ⟨isUnnamed, rfl⟩ | ⟨operationId, state, closed, _, isState, isClosed, isMessages, _, _, _, coherent⟩⟩ :=
    finish_ok isFinished isRecovered
  · rw [unread goesOn isUnnamed]
    exact ⟨rfl, rfl, [], [], [], rfl, fun _ member => (by cases member), fun _ member => (by cases member)⟩
  · have tracks : Tracks (replayed journal) (Ledger.ofJournal journal) := Tracks.create.run unambiguous goesOn
    obtain ⟨raw, _, _⟩ := context?_eq_some.mp isState
    have sameMessages : state.messages = (Ledger.ofJournal journal).messages := by rw [← tracks.messages, raw, Option.getD_some]
    obtain ⟨batches, areClosed, rfl⟩ := map_eq_ok.mp isClosed
    refine ⟨coherent, answered_eq_declared coherent, operationId, batches.flatten, _, by rw [← sameMessages]; exact isMessages, ?_, ?_⟩
    · intro message member
      obtain ⟨queued, _, rfl⟩ := List.mem_map.mp member
      rfl
    · intro call member
      rw [Tracks.closeBatches_tools areClosed call]
      exact tracks.answered_once member

/-! ### A journal that reuses an id -/

theorem finished_of_any {journal : List ContextEnvelope} {shows : ChatRecoveredContext → Bool}
    (isShown : (replayChatContext journal).toOption.any shows = true) :
    ∃ recovered, replayChatContext journal = .ok recovered ∧ shows recovered = true := by
  cases given : replayChatContext journal with
  | error failure =>
    rw [given] at isShown
    cases isShown
  | ok recovered =>
    rw [given] at isShown
    exact ⟨recovered, rfl, isShown⟩

/-- The calls of two batches, of which the second uses the id of the first again. -/
def reusedCall (batch : Nat) : ChatToolCallIdentity :=
  ⟨utf16 "call_a", utf16 s!"display {batch}", utf16 s!"batch {batch}", batch, 0⟩

/-- A question, and an exchange that answered it with one call. -/
def reusedQuestion : ChatMessage := ChatMessage.plain .user (.text (utf16 "request"))

def reusedExchange : List ChatMessage :=
  buildToolBatchMessages [⟨⟨utf16 "grep", .object []⟩, utf16 "call_a", utf16 "first result"⟩] [] []

/-- The events of a run that proposes the id a second time, up to the result. -/
def reusedEvents : List ChatJournalEvent := [
  .context_initialized ⟨none, [reusedQuestion], 0, 0⟩,
  .tool_proposed (reusedCall 1) (utf16 "grep") (.object []),
  .tool_result (reusedCall 1) false (utf16 "first result"),
  .context_spliced ⟨none, none, 0, 1, 1, 0, reusedExchange, 0, .append, []⟩,
  .tool_proposed (reusedCall 2) (utf16 "grep") (.object []),
  .tool_result (reusedCall 2) false (utf16 "second result")]

def reusedJournal (events : List ChatJournalEvent) : List ContextEnvelope := journalOf (utf16 "run") (fun index => utf16 s!"event {index}") events

/-- The second result is answered when the run is interrupted here. -/
theorem finish_answers_reused_id : ∃ recovered, replayChatContext (reusedJournal reusedEvents) = .ok recovered ∧
    ValidContext (Ledger.ofJournal (reusedJournal reusedEvents)) recovered.messages := by
  have isOk : (replayChatContext (reusedJournal reusedEvents)).toOption.any
      (fun recovered => recovered.status == .recovery_needed) = true := by decide +kernel
  obtain ⟨recovered, isFinished, isNeeded⟩ := finished_of_any isOk
  have isRecovered : recovered.status ≠ .recovery_failed := by rw [eq_of_beq isNeeded]; decide
  exact ⟨recovered, isFinished, finish_answers_open_calls (by decide +kernel) isFinished isRecovered⟩

/-- Thinking is pruned before the second exchange is appended: the splice declares the id of the first exchange again. -/
def rewrittenEvents : List ChatJournalEvent :=
  reusedEvents ++ [.context_spliced ⟨none, none, 1, 2, 0, 3, reusedQuestion :: reusedExchange, 0, .thinking_pruned, []⟩]

/-- The second result is on record, history does not hold it, and the finished replay does not answer it. -/
theorem finish_drops_reused_id : ∃ recovered, replayChatContext (reusedJournal rewrittenEvents) = .ok recovered ∧
    recovered.status ≠ .recovery_failed ∧ ¬ValidContext (Ledger.ofJournal (reusedJournal rewrittenEvents)) recovered.messages := by
  have isOk : (replayChatContext (reusedJournal rewrittenEvents)).toOption.any (fun recovered =>
      recovered.status == .ok && recovered.messages == (Ledger.ofJournal (reusedJournal rewrittenEvents)).messages) = true := by
    decide +kernel
  obtain ⟨recovered, isFinished, isShown⟩ := finished_of_any isOk
  rw [Bool.and_eq_true] at isShown
  refine ⟨recovered, isFinished, by rw [eq_of_beq isShown.1]; decide, ?_⟩
  rintro ⟨_, _, operationId, closing, queued, isMessages, _, answers⟩
  -- nothing follows the messages of the context
  rw [eq_of_beq isShown.2, List.append_assoc, List.self_eq_append_right, List.append_eq_nil_iff] at isMessages
  have isOpen : ∃ call ∈ (Ledger.ofJournal (reusedJournal rewrittenEvents)).calls, call.written = false := by decide +kernel
  obtain ⟨call, member, notWritten⟩ := isOpen
  have answered := answers call member
  rw [isMessages.1, notWritten] at answered
  cases answered

end SiftKit.Chat
