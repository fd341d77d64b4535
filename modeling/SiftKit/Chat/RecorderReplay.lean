import SiftKit.Chat.RecorderMemory

/-! # A recorder in step with its journal

What a recorder keeps while it writes one event after the other: its sequence is the one of its run,
its memory is the one that the events of the run make, and no event of the run has the name that the
next one will have.
-/

namespace SiftKit.Chat

open SiftKit.Json SiftKit.Failure SiftKit.Tables SiftKit.Runs ChatJournalStore ChatRunRecorder RunMemory

variable {format : EventFormat} {moment : Moment} {recorder : ChatRunRecorder} {store after : ChatJournalStore}

/-! ## Names -/

/-- A recorder learns nothing from the event. -/
def Silent (event : JsValue) : Prop := ∀ kind ∈ learnedKinds, isKind kind event = false

/-- How an event of a run is named: by its place, or by a subject that a recorder learns nothing of. -/
inductive Named (format : EventFormat) (operationId : String) (row : EventRow) : Prop where
  | place (isName : row.eventId = eventIdAt operationId row.sequence)
  | subject {subject : String} (known : subject ∈ subjects) (id : String) (isName : row.eventId = subject ++ ":" ++ id)
      (silent : ∀ envelope, toEnvelope format.journal row = .ok envelope → Silent envelope.event)

/-- The name under which a recorder writes an event. -/
inductive Naming (recorder : ChatRunRecorder) (kind eventId : String) : Prop where
  | place (isName : eventId = recorder.nextEventId)
  | subject {subject : String} (known : subject ∈ subjects) (id : String) (isName : eventId = subject ++ ":" ++ id)
      (silent : kind ∉ learnedKinds)

variable {kind occurredAtUtc eventId : String}

theorem silent_event (unlearned : kind ∉ learnedKinds) (fields : EvidenceFields) : Silent (fields.event kind) := by
  intro learned member
  rw [EvidenceFields.isKind_event, beq_eq_false_iff_ne]
  rintro rfl
  exact unlearned member

theorem Silent.congr {left right : JsValue} (silent : Silent left) (same : SameJson left right) : Silent right := by
  intro kind member
  rw [← isKind_congr same]
  exact silent kind member

theorem Silent.parsed {event parsed : JsValue} (silent : Silent event) (accepted : format.journal.events.parse event = some parsed) :
    Silent parsed := by
  intro kind member
  rw [isKind_parsed accepted]
  exact silent kind member

/-! ## In step, as an invariant -/

structure Tracked (format : EventFormat) (recorder : ChatRunRecorder) (store : ChatJournalStore) : Prop where
  wellFormed : WellFormed format.journal store
  row : ∃ row, IsRow store recorder.operationId row ∧ row.ownerEpoch = recorder.ownerEpoch ∧
    row.effectiveSettingsJson.isSome = true ∧ row.latestSequence = recorder.latestSequence
  memory : ∃ envelopes, (store.eventsOf recorder.operationId).mapM (toEnvelope format.journal) = .ok envelopes ∧
    (replay recorder.operationId .fresh envelopes).shown = recorder.memory.shown
  named : ∀ event ∈ store.eventsOf recorder.operationId, Named format recorder.operationId event

theorem Tracked.congr {other : ChatRunRecorder} (tracked : Tracked format recorder store)
    (operationId : other.operationId = recorder.operationId) (ownerEpoch : other.ownerEpoch = recorder.ownerEpoch)
    (latest : other.latestSequence = recorder.latestSequence) (memory : other.memory.shown = recorder.memory.shown) :
    Tracked format other store := by
  constructor
  · exact tracked.wellFormed
  · rw [operationId, ownerEpoch, latest]
    exact tracked.row
  · rw [operationId, memory]
    exact tracked.memory
  · rw [operationId]
    exact tracked.named

theorem Tracked.isUuid (tracked : Tracked format recorder store) : format.strings.isUuid recorder.operationId = true := by
  obtain ⟨row, isRow, _⟩ := tracked.row
  rw [← isRow.operationId]
  exact tracked.wellFormed.isUuid isRow.mem

theorem Tracked.sequences (tracked : Tracked format recorder store) :
    (store.eventsOf recorder.operationId).map EventRow.sequence = List.range' 1 recorder.latestSequence := by
  obtain ⟨row, isRow, _, _, latest⟩ := tracked.row
  have numbered := tracked.wellFormed.numbered row isRow.mem
  rwa [isRow.operationId, latest] at numbered

theorem Tracked.sequence_le (tracked : Tracked format recorder store) {event : EventRow}
    (member : event ∈ store.eventsOf recorder.operationId) : event.sequence ≤ recorder.latestSequence := by
  have listed : event.sequence ∈ (store.eventsOf recorder.operationId).map EventRow.sequence := List.mem_map_of_mem member
  rw [tracked.sequences, List.mem_range'_1] at listed
  omega

/-! ## Calls that leave the run alone -/

/-- A call that neither adds an event to a run nor gives it another owner. -/
def JournalCall.Spares (operationId : String) : JournalCall → Prop
  | .append write _ _ => write.operationId ≠ operationId
  | .adopt target _ _ => target ≠ operationId
  | _ => True

theorem eventsOf_other {event : EventRow} {operationId : String} (other : event.operationId ≠ operationId) :
    (store.withEvent event).eventsOf operationId = store.eventsOf operationId := by
  rw [eventsOf_withEvent, if_neg other, List.append_nil]

theorem Tracked.update (tracked : Tracked format recorder store) {selects : RunRow → Bool} {rewrite : RunRow → RunRow}
    (keeps : KeepsEvents rewrite) (settings : ∀ row, (rewrite row).effectiveSettingsJson = row.effectiveSettingsJson)
    (owner : ∀ row, row.operationId = recorder.operationId → selects row = true → (rewrite row).ownerEpoch = row.ownerEpoch)
    (wellFormed : WellFormed format.journal { store with runs := updateWhere selects rewrite store.runs }) :
    Tracked format recorder { store with runs := updateWhere selects rewrite store.runs } := by
  obtain ⟨row, isRow, isOwner, hasSettings, latest⟩ := tracked.row
  refine ⟨wellFormed, ⟨_, isRow_updateWhere selects keeps.operationId isRow, ?_⟩, tracked.memory, tracked.named⟩
  split
  next selected =>
    rw [owner row isRow.operationId selected, settings, keeps.latestSequence]
    exact ⟨isOwner, hasSettings, latest⟩
  · exact ⟨isOwner, hasSettings, latest⟩

theorem Tracked.spared (tracked : Tracked format recorder store) {call : JournalCall} (effect : Effect format.journal store call after)
    (spares : call.Spares recorder.operationId) : Tracked format recorder after := by
  have wellFormed := tracked.wellFormed.effect effect
  cases effect with
  | nothing => exact tracked
  | begun =>
    obtain ⟨row, isRow, rest⟩ := tracked.row
    exact ⟨wellFormed, ⟨row, isRow_begun isRow, rest⟩, tracked.memory, tracked.named⟩
  | bound => exact tracked.update (keepsEvents_bindRow _) (fun _ => rfl) (fun _ _ _ => rfl) wellFormed
  | finished => exact tracked.update (keepsEvents_finishRow _) (fun _ => rfl) (fun _ _ _ => rfl) wellFormed
  | projected => exact tracked.update (keepsEvents_projectRow _) (fun _ => rfl) (fun _ _ _ => rfl) wellFormed
  | revised => exact tracked.update (keepsEvents_reviseRow _) (fun _ => rfl) (fun _ _ _ => rfl) wellFormed
  | ownerWritten => exact ⟨wellFormed, tracked.row, tracked.memory, tracked.named⟩
  | @adopted target ownerEpoch =>
    refine tracked.update (keepsEvents_adoptRow ownerEpoch) (fun _ => rfl) (fun row own selected => ?_) wellFormed
    rw [Bool.and_eq_true, isRun, beq_iff_eq, own] at selected
    exact absurd selected.1.symm spares
  | @appended _ _ _ _ event _ _ _ isNext =>
    have other : event.operationId ≠ recorder.operationId := by
      rw [isNext.operationId]
      exact spares
    obtain ⟨row, isRow, rest⟩ := tracked.row
    have updated := @isRow_updateWhere { store with events := store.events ++ [event] } recorder.operationId row
      (isRun event.operationId) (advanceRow event.sequence event.recordedAtUtc) (fun _ => rfl) isRow
    rw [if_neg (by simpa [isRun, isRow.operationId] using Ne.symm other)] at updated
    refine ⟨wellFormed, ⟨row, updated, rest⟩, ?_, ?_⟩
    · rw [eventsOf_other other]
      exact tracked.memory
    · rw [eventsOf_other other]
      exact tracked.named

/-! ## One event -/

variable {fields : EvidenceFields}

theorem Tracked.added (tracked : Tracked format recorder store)
    (naming : Naming recorder kind eventId) {run : RunRow} (isRow : IsRow store recorder.operationId run)
    {row : EventRow}
    (isNext : IsNextEvent format.journal store run (recorder.write (fields.event kind) occurredAtUtc eventId) row)
    {event : JsValue} (accepted : format.journal.events.parse (fields.event kind) = some event)
    {envelope : ChatJournalEnvelope} (sequence : envelope.sequence = row.sequence)
    (same : SameJson event envelope.event) : Tracked format (recorder.appended envelope) (store.withEvent row) := by
  obtain ⟨before, isBefore, owner, settings, latest⟩ := tracked.row
  obtain rfl := Option.some_inj.mp (isRow.symm.trans isBefore)
  have own : row.operationId = recorder.operationId := isNext.operationId
  have isTarget := isRow
  rw [← own] at isTarget
  have advanced := isRow_withEvent isTarget
  rw [own] at advanced
  obtain ⟨parsed, read, isParsed, isRead, sameRead⟩ := read_written (fields.event_proper kind) isNext
  obtain rfl := Option.some_inj.mp (accepted.symm.trans isParsed)
  have isLast : row.sequence = recorder.latestSequence + 1 := by rw [isNext.sequence, latest]
  constructor
  · exact tracked.wellFormed.append isRow isNext
  · refine ⟨_, advanced, owner, settings, ?_⟩
    simp only [advanceRow, appended, sequence, isLast]
    omega
  · obtain ⟨envelopes, areRead, sameMemory⟩ := tracked.memory
    refine ⟨envelopes ++ [read], ?_, ?_⟩
    · rw [appended, eventsOf_withEvent, if_pos own]
      exact mapM_eq_ok.mpr (List.rel_append (mapM_eq_ok.mp areRead) (.cons isRead .nil))
    · rw [replay, List.foldl_append]
      exact observe_congr (sameRead.symm.trans same) sameMemory
  · intro other member
    simp only [appended, eventsOf_withEvent, own, if_true, List.mem_append, List.mem_singleton] at member
    cases member with
    | inl early => exact tracked.named other early
    | inr isRow =>
      subst isRow
      cases naming with
      | place isName =>
        refine .place ?_
        rw [isNext.eventId, isLast]
        exact isName
      | subject known id isName silent =>
        refine .subject known id (isNext.eventId.trans isName) fun stored isStored => ?_
        obtain rfl := Except.ok.inj (isRead.symm.trans isStored)
        exact ((silent_event silent fields).parsed accepted).congr sameRead

theorem Tracked.stored (uuids : UuidText format.strings) (tracked : Tracked format recorder store)
    (naming : Naming recorder kind eventId) {row : EventRow}
    (found : store.events.find? (isEvent recorder.operationId eventId) = some row) {envelope : ChatJournalEnvelope}
    (isRead : toEnvelope format.journal row = .ok envelope) :
    envelope.sequence ≤ recorder.latestSequence ∧ Silent envelope.event ∧ kind ∉ learnedKinds := by
  have own := List.find?_some found
  simp only [isEvent, Bool.and_eq_true, beq_iff_eq] at own
  obtain ⟨ownRun, isName⟩ := own
  have member : row ∈ store.eventsOf recorder.operationId :=
    List.mem_filter.mpr ⟨List.mem_of_find?_eq_some found, by simpa using ownRun⟩
  have committed := tracked.sequence_le member
  have bounded : envelope.sequence ≤ recorder.latestSequence := by
    obtain ⟨_, other, isOther, _, shows⟩ := tracked.wellFormed.holds row (List.mem_of_find?_eq_some found)
    obtain rfl := Except.ok.inj (isRead.symm.trans isOther)
    rw [shows.sequence]
    exact committed
  refine ⟨bounded, ?_⟩
  cases naming with
  | place isNext =>
    exfalso
    cases tracked.named row member with
    | place isPlace =>
      have beyond := eventIdAt_inj (isPlace.symm.trans (isName.trans isNext))
      omega
    | subject known id isSubject =>
      exact subject_ne_eventIdAt uuids tracked.isUuid known id _ (isSubject.symm.trans (isName.trans isNext))
  | subject known id isSubject unlearned =>
    cases tracked.named row member with
    | place isPlace =>
      exact absurd (isSubject.symm.trans (isName.symm.trans isPlace)) (subject_ne_eventIdAt uuids tracked.isUuid known id _)
    | subject _ _ _ silent => exact ⟨silent envelope isRead, unlearned⟩

/-- What becomes of an event that is written. -/
inductive Commits (format : EventFormat) (recorder : ChatRunRecorder) (store : ChatJournalStore) (kind : String)
    (fields : EvidenceFields) (occurredAtUtc eventId : String) : Recorded → Prop where
  | refused {after : ChatRunRecorder} (identity : after.toRecorderIdentity = recorder.toRecorderIdentity)
      (latest : after.latestSequence = recorder.latestSequence) (memory : after.memory = recorder.memory) (failure : Thrown) :
      Commits format recorder store kind fields occurredAtUtc eventId (.fail after store failure)
  | stored {row : EventRow} {envelope : ChatJournalEnvelope}
      (found : store.events.find? (isEvent recorder.operationId eventId) = some row)
      (isRead : toEnvelope format.journal row = .ok envelope) :
      Commits format recorder store kind fields occurredAtUtc eventId (.done (recorder.appended envelope) store)
  | added {run : RunRow} {row : EventRow} {envelope : ChatJournalEnvelope} {event : JsValue}
      (isRow : IsRow store recorder.operationId run)
      (isNext : IsNextEvent format.journal store run (recorder.write (fields.event kind) occurredAtUtc eventId) row)
      (sequence : envelope.sequence = row.sequence) (accepted : format.journal.events.parse (fields.event kind) = some event)
      (same : SameJson event envelope.event) :
      Commits format recorder store kind fields occurredAtUtc eventId (.done (recorder.appended envelope) (store.withEvent row))

theorem commit_cases (format : EventFormat) (moment : Moment) (kind : String) (fields : EvidenceFields)
    (occurredAtUtc eventId : String) (recorder : ChatRunRecorder) (store : ChatJournalStore) :
    Commits format recorder store kind fields occurredAtUtc eventId
      (recorder.commit format moment kind fields occurredAtUtc eventId store) := by
  unfold commit
  cases recorder.refusal kind with
  | some reason => exact .refused rfl rfl rfl reason
  | none =>
    cases moment.storage eventId with
    | some message =>
      exact @Commits.refused format recorder store kind fields occurredAtUtc eventId (recorder.abortForStorageFailure message)
        rfl rfl rfl (.error message)
    | none =>
      cases isAppended : store.append format.journal (recorder.write (fields.event kind) occurredAtUtc eventId) moment.now with
      | error failure => exact .refused rfl rfl rfl failure
      | ok answer =>
        obtain ⟨run, isRow, _, stored | added⟩ := append_cases (fields.event_proper kind) isAppended
        · obtain ⟨row, found, isRead, isAfter⟩ := stored
          simp only [isAfter]
          exact .stored found isRead
        · obtain ⟨_, row, isNext, isAfter, sequence, event, accepted, same⟩ := added
          simp only [isAfter]
          exact .added isRow isNext sequence accepted same

/-! ## Parts of operations -/

/-- A part of an operation leaves a recorder in step, however it ends. -/
structure Steady (format : EventFormat) (recorder : ChatRunRecorder) (recorded : Recorded) : Prop where
  tracked : Tracked format recorded.recorder recorded.store
  identity : recorded.recorder.toRecorderIdentity = recorder.toRecorderIdentity

/-- And it tells the recorder nothing. -/
structure Quiet (format : EventFormat) (recorder : ChatRunRecorder) (recorded : Recorded) : Prop extends
    Steady format recorder recorded where
  memory : recorded.recorder.memory.shown = recorder.memory.shown

section

variable (uuids : UuidText format.strings) (tracked : Tracked format recorder store)
  (naming : Naming recorder kind eventId)

include uuids tracked naming

theorem commit_steady (moment : Moment) (fields : EvidenceFields) (occurredAtUtc : String) :
    Steady format recorder (recorder.commit format moment kind fields occurredAtUtc eventId store) := by
  have commits := commit_cases format moment kind fields occurredAtUtc eventId recorder store
  generalize recorder.commit format moment kind fields occurredAtUtc eventId store = recorded at commits
  cases commits with
  | refused identity latest memory =>
    obtain ⟨operationId, ownerEpoch, _⟩ := RecorderIdentity.mk.inj identity
    exact ⟨tracked.congr operationId ownerEpoch latest (congrArg shown memory), identity⟩
  | @stored row envelope found isRead =>
    obtain ⟨bounded, silent, _⟩ := tracked.stored uuids naming found isRead
    have unchanged : (recorder.appended envelope).memory = recorder.memory := observe_silent _ silent
    exact ⟨tracked.congr rfl rfl (Nat.max_eq_left bounded) (congrArg shown unchanged), rfl⟩
  | added isRow isNext sequence accepted same => exact ⟨tracked.added naming isRow isNext accepted sequence same, rfl⟩

theorem commit_quiet (unlearned : kind ∉ learnedKinds) (moment : Moment)
    (fields : EvidenceFields) (occurredAtUtc : String) :
    Quiet format recorder (recorder.commit format moment kind fields occurredAtUtc eventId store) := by
  refine ⟨commit_steady uuids tracked naming moment fields occurredAtUtc, ?_⟩
  have commits := commit_cases format moment kind fields occurredAtUtc eventId recorder store
  generalize recorder.commit format moment kind fields occurredAtUtc eventId store = recorded at commits
  cases commits with
  | refused _ _ memory => exact congrArg shown memory
  | @stored row envelope found isRead =>
    obtain ⟨_, silent, _⟩ := tracked.stored uuids naming found isRead
    exact congrArg shown (observe_silent _ silent)
  | added _ _ _ accepted same =>
    have silent := ((silent_event unlearned fields).parsed accepted).congr same
    exact congrArg shown (observe_silent _ silent)

end

theorem commit_failed
    (failed : (recorder.commit format moment kind fields occurredAtUtc eventId store).outcome ≠ .ok ()) :
    (recorder.commit format moment kind fields occurredAtUtc eventId store).recorder.memory = recorder.memory := by
  have commits := commit_cases format moment kind fields occurredAtUtc eventId recorder store
  generalize recorder.commit format moment kind fields occurredAtUtc eventId store = recorded at failed commits
  cases commits with
  | refused _ _ memory => exact memory
  | stored => exact absurd rfl failed
  | added => exact absurd rfl failed

/-- What an event of the other kinds tells. -/
theorem commit_told (uuids : UuidText format.strings) (tracked : Tracked format recorder store)
    (naming : Naming recorder kind eventId) (learned : kind ∈ learnedKinds)
    (succeeded : (recorder.commit format moment kind fields occurredAtUtc eventId store).outcome = .ok ()) :
    ∃ parsed, format.journal.events.parse (fields.event kind) = some parsed ∧
      (recorder.commit format moment kind fields occurredAtUtc eventId store).recorder.memory.shown =
        (recorder.memory.observeCommitted recorder.operationId parsed).shown := by
  have commits := commit_cases format moment kind fields occurredAtUtc eventId recorder store
  generalize recorder.commit format moment kind fields occurredAtUtc eventId store = recorded at succeeded commits
  cases commits with
  | refused => cases succeeded
  | stored found isRead => exact absurd learned (tracked.stored uuids naming found isRead).2.2
  | added _ _ _ accepted same => exact ⟨_, accepted, observe_congr same.symm rfl⟩

theorem quiet_done (tracked : Tracked format recorder store) : Quiet format recorder (.done recorder store) := ⟨⟨tracked, rfl⟩, rfl⟩

theorem quiet_fail (tracked : Tracked format recorder store) (failure : Thrown) :
    Quiet format recorder (.fail recorder store failure) := ⟨⟨tracked, rfl⟩, rfl⟩

theorem quiet_rest (tracked : Tracked format recorder store) (moment : Moment) :
    Quiet format recorder (recorder.settleRest moment store) := ⟨⟨tracked, rfl⟩, rfl⟩

theorem Quiet.andThen {recorded : Recorded} (quiet : Quiet format recorder recorded)
    {next : ChatRunRecorder → ChatJournalStore → Recorded}
    (more : ∀ {later middle}, Tracked format later middle → Quiet format later (next later middle)) :
    Quiet format recorder (recorded.andThen next) := by
  unfold Recorded.andThen
  split
  · obtain ⟨⟨tracked, identity⟩, memory⟩ := more quiet.tracked
    exact ⟨⟨tracked, identity.trans quiet.identity⟩, memory.trans quiet.memory⟩
  · exact quiet

/-- A transaction of such parts: when it throws, the recorder goes on from where it was. -/
theorem Quiet.transaction {recorded : Recorded} (quiet : Quiet format recorder recorded) (tracked : Tracked format recorder store) :
    Quiet format recorder (recorded.transaction recorder.latestSequence store) := by
  unfold Recorded.transaction
  split
  · exact quiet
  · obtain ⟨operationId, ownerEpoch, _⟩ := RecorderIdentity.mk.inj quiet.identity
    exact ⟨⟨tracked.congr operationId ownerEpoch rfl quiet.memory, quiet.identity⟩, quiet.memory⟩

end SiftKit.Chat
