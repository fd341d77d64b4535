import SiftKit.Chat.Journal

/-! # What a call does to the journal

One inversion for all calls: each of them changes one run, or adds one event at the end of a run, or
changes nothing; and whatever it wrote it can read back.
-/

namespace SiftKit.Chat

open SiftKit.Json SiftKit.Json.Schema SiftKit.Failure SiftKit.Tables

/-- Values that come with a call are ones that JSON can state. -/
inductive JournalCall where
  | begin (start : ChatRunStart)
  | bindEngine (binding : ChatEngineBinding) (now : Int)
  | append (write : ChatJournalAppend) (proper : Proper write.event) (now : Int)
  | finish (finish : ChatRunFinish) (now : Int)
  | advanceProjection (checkpoint : ChatProjectionCheckpoint)
  | advanceContextRevision (checkpoint : ChatContextCheckpoint)
  | adopt (operationId ownerEpoch : String) (now : Int)
  | writeOwner (owner : OwnerTable)

namespace ChatJournalStore

/-- The body of a transaction that answers nothing. -/
def silent (body : Except Thrown ChatJournalStore) : Except Thrown (Unit × ChatJournalStore) := body.map fun after => ((), after)

def perform (format : JournalFormat) (store : ChatJournalStore) : JournalCall → ChatJournalStore
  | .begin start => committed store (store.begin format start)
  | .bindEngine binding now => committed store (store.bindEngine format binding now)
  | .append write _ now => committed store (store.append format write now)
  | .finish outcome now => committed store (store.finish format outcome now)
  | .advanceProjection checkpoint => committed store (silent (store.advanceProjection format checkpoint))
  | .advanceContextRevision checkpoint => committed store (silent (store.advanceContextRevision format checkpoint))
  | .adopt operationId ownerEpoch now => committed store (silent (store.adopt operationId ownerEpoch now))
  | .writeOwner owner => { store with owner := owner }

/-! ## Reading runs -/

variable {format : JournalFormat} {store : ChatJournalStore}

def ReadsBack (format : JournalFormat) (row : RunRow) : Prop := ∃ run, toChatRun format row = .ok run

variable {row : RunRow} {run : ChatRun} {operationId : String}

theorem toChatRun_eq_ok : toChatRun format row = .ok run ↔
    (parseJsonColumn format.settings row.effectiveSettingsJson = .ok run.settings ∧
      parseJsonColumn format.provenance row.provenanceJson = .ok run.provenance) ∧
    row.accepts format.strings = true ∧ run.toChatRunColumns = row.toChatRunColumns := by
  simp only [toChatRun, bind_eq_ok, throwWhen_eq_ok, pure_eq_ok, Bool.not_eq_false']
  constructor
  · rintro ⟨settings, isSettings, provenance, isProvenance, _, accepted, rfl⟩
    exact ⟨⟨isSettings, isProvenance⟩, accepted, rfl⟩
  · rintro ⟨⟨isSettings, isProvenance⟩, accepted, same⟩
    refine ⟨run.settings, isSettings, run.provenance, isProvenance, (), accepted, ?_⟩
    rw [← same]

theorem ReadsBack.rewrite {rewritten : RunRow} (reads : ReadsBack format row)
    (settings : rewritten.effectiveSettingsJson = row.effectiveSettingsJson)
    (provenance : rewritten.provenanceJson = row.provenanceJson)
    (accepts : row.accepts format.strings = true → rewritten.accepts format.strings = true) :
    ReadsBack format rewritten := by
  obtain ⟨run, isRun⟩ := reads
  obtain ⟨⟨isSettings, isProvenance⟩, accepted, _⟩ := toChatRun_eq_ok.mp isRun
  refine ⟨⟨rewritten.toChatRunColumns, run.settings, run.provenance⟩, toChatRun_eq_ok.mpr ⟨⟨?_, ?_⟩, accepts accepted, rfl⟩⟩
  · rw [settings]
    exact isSettings
  · rw [provenance]
    exact isProvenance

theorem readRun_some (read : store.readRun format operationId = .ok (some run)) :
    ∃ row, store.runs.find? (isRun operationId) = some row ∧ toChatRun format row = .ok run := by
  simp only [readRun, bind_eq_ok] at read
  obtain ⟨_, _, read⟩ := read
  split at read
  next row found =>
    cases shown : toChatRun format row with
    | error failure => rw [shown] at read; cases read
    | ok other =>
      rw [shown] at read
      cases read
      exact ⟨row, found, shown⟩
  · cases read

theorem requireRun_ok (read : store.requireRun format operationId = .ok run) :
    ∃ row, store.runs.find? (isRun operationId) = some row ∧ toChatRun format row = .ok run := by
  simp only [requireRun, bind_eq_ok] at read
  obtain ⟨found, isFound, read⟩ := read
  cases found with
  | none => cases read
  | some other =>
    cases read
    exact readRun_some isFound

section

variable (found : store.runs.find? (isRun operationId) = some row) (reads : toChatRun format row = .ok run)

include found reads

theorem readRun_of_readsBack : store.readRun format operationId = .ok (some run) := by
  have own : row.operationId = operationId := by simpa [isRun] using List.find?_some found
  have isUuid : format.strings.isUuid operationId = true := by
    have accepted := (toChatRun_eq_ok.mp reads).2.1
    simp only [ChatRunColumns.accepts, Bool.and_eq_true] at accepted
    rw [← own]
    exact accepted.1.1.1.1.1.1.1
  rw [readRun, isUuid, found]
  simp only [Bool.not_true, throwWhen, Bool.false_eq_true, if_false]
  rw [reads]
  rfl

theorem requireRun_of_readsBack : store.requireRun format operationId = .ok run := by
  rw [requireRun, readRun_of_readsBack found reads]
  rfl

end

theorem columns_of_toChatRun (read : toChatRun format row = .ok run) :
    run.toChatRunColumns = row.toChatRunColumns := (toChatRun_eq_ok.mp read).2.2

theorem requireRun_update {rewrite : RunRow → RunRow} (kept : ∀ row, (rewrite row).operationId = row.operationId)
    (found : store.runs.find? (isRun operationId) = some row)
    (read : (store.updateRun operationId rewrite).requireRun format operationId = .ok run) :
    ReadsBack format (rewrite row) := by
  obtain ⟨after, isAfter, shown⟩ := requireRun_ok read
  have isKept : ∀ row ∈ store.runs, isRun operationId row = true → isRun operationId (rewrite row) = true := by
    intro row _ isOwn
    rw [isRun, kept]
    exact isOwn
  rw [updateRun, find?_updateWhere _ _ _ isKept, found] at isAfter
  cases isAfter
  exact ⟨run, shown⟩

/-! ## Who may write -/

/-- The writer owns the run, and an execution's writer holds the lease. -/
structure Admitted (store : ChatJournalStore) (run : ChatRunColumns) (ownerEpoch : String) (now : Int) : Prop where
  owner : run.ownerEpoch = ownerEpoch
  lease : run.recordKind = .execution → store.requireLease ownerEpoch now = .ok ()

theorem requireOwner_eq_ok {ownerEpoch : String} {now : Int} :
    store.requireOwner run ownerEpoch now = .ok () ↔ Admitted store run.toChatRunColumns ownerEpoch now := by
  simp only [requireOwner, bind_eq_ok, throwWhen_eq_ok, bne_eq_false_iff_eq]
  constructor
  · rintro ⟨_, owner, lease⟩
    refine ⟨owner, fun isExecution => ?_⟩
    rwa [if_pos isExecution] at lease
  · rintro ⟨owner, lease⟩
    refine ⟨(), owner, ?_⟩
    split
    next isExecution => exact lease isExecution
    · rfl

/-! ## Events -/

theorem parse_write {write parsed : ChatJournalAppend} (accepted : write.parse format = some parsed) :
    ∃ event, format.events.parse write.event = some event ∧ parsed = { write with event := event } ∧
      format.strings.isDatetime write.occurredAtUtc = true := by
  unfold ChatJournalAppend.parse at accepted
  obtain ⟨event, isEvent, accepted⟩ := Option.bind_eq_some_iff.mp accepted
  rw [Option.ite_none_right_eq_some, Option.some_inj] at accepted
  obtain ⟨valid, rfl⟩ := accepted
  simp only [Bool.and_eq_true, Bool.not_eq_true'] at valid
  exact ⟨event, isEvent, rfl, valid.2⟩

theorem decodeJson_stringify {event : JsValue} (proper : Proper event) (defined : event.isUndefined = false) :
    decodeJson (stringify event) = some (compact event) := by
  rw [decodeJson, parse_stringify proper, orNull_of_stated (by rwa [isUndefined_compact]), Option.bind_some, Schema.json, jsonWhere]
  exact if_pos (by rw [Plain.isJson (proper.plain defined), Bool.true_and])

theorem digest_eq {event : JsValue} (proper : Proper event) (defined : event.isUndefined = false) :
    digestChatJournalEvent format event = .ok (format.sha256 (stringify (canonical event))) := by
  have stable := stableStringify_compact event
  rw [orNull_of_stated (by rwa [isUndefined_compact])] at stable
  rw [digestChatJournalEvent, decodeJson_stringify proper defined, ← stable]
  rfl

/-- An envelope shows a row: it has its columns, and the event that the digest of the row was made of. -/
structure ShowsRow (format : JournalFormat) (row : EventRow) (envelope : ChatJournalEnvelope) : Prop where
  operationId : envelope.operationId = row.operationId
  sequence : envelope.sequence = row.sequence
  eventId : envelope.eventId = row.eventId
  payloadDigest : envelope.payloadDigest = row.payloadDigest
  digested : row.payloadDigest = format.sha256 (stringify (canonical envelope.event))
  proper : Proper envelope.event
  defined : envelope.event.isUndefined = false

/-- The row holds an event: it is read back as the same JSON. -/
def Holds (format : JournalFormat) (row : EventRow) (event : JsValue) : Prop :=
  ∃ envelope, toEnvelope format row = .ok envelope ∧ canonical envelope.event = canonical event ∧ ShowsRow format row envelope

theorem parse_envelope {envelope parsed : ChatJournalEnvelope} (accepted : envelope.parse format = some parsed) :
    format.events.parse envelope.event = some parsed.event ∧ parsed = { envelope with event := parsed.event } ∧
      (format.strings.isUuid envelope.operationId && decide (0 < envelope.sequence) && !envelope.eventId.isEmpty &&
        envelope.version == CHAT_JOURNAL_EVENT_VERSION && format.strings.isDatetime envelope.recordedAtUtc &&
        !envelope.payloadDigest.isEmpty) = true := by
  unfold ChatJournalEnvelope.parse at accepted
  obtain ⟨event, isEvent, accepted⟩ := Option.bind_eq_some_iff.mp accepted
  rw [Option.ite_none_right_eq_some, Option.some_inj] at accepted
  obtain ⟨valid, rfl⟩ := accepted
  exact ⟨isEvent, rfl, valid⟩

theorem holds_eventRow {write parsed : ChatJournalAppend} (proper : Proper write.event) (isParsed : write.parse format = some parsed)
    {payloadDigest : String} (digested : digestChatJournalEvent format parsed.event = .ok payloadDigest) {sequence : Nat}
    {envelope : ChatJournalEnvelope} (answered : ChatJournalEnvelope.parse format {
      operationId := parsed.operationId
      sequence := sequence
      eventId := parsed.eventId
      version := CHAT_JOURNAL_EVENT_VERSION
      recordedAtUtc := parsed.occurredAtUtc
      event := parsed.event
      payloadDigest := payloadDigest } = some envelope) :
    Holds format (eventRow parsed sequence payloadDigest) parsed.event := by
  obtain ⟨event, isEvent, rfl, _⟩ := parse_write isParsed
  obtain ⟨eventProper, defined⟩ := format.events.proper proper isEvent
  rw [digest_eq eventProper defined] at digested
  cases digested
  obtain ⟨_, _, valid⟩ := parse_envelope answered
  -- What is read is what was left of the accepted event, which the schema accepts twice more.
  obtain ⟨again, isAgain, sameAgain⟩ := format.events.stable proper isEvent
  have plain := eventProper.plain defined
  obtain ⟨read, isRead, sameRead⟩ := format.events.reads eventProper isAgain plain (canonical_compact _)
  obtain ⟨last, isLast, sameLast⟩ := format.events.stable plain.proper isRead
  have same : canonical last = canonical event := sameLast.trans (sameRead.trans sameAgain)
  have readProper := (format.events.proper plain.proper isRead).1
  obtain ⟨lastProper, lastDefined⟩ := format.events.proper readProper isLast
  refine ⟨⟨write.operationId, sequence, write.eventId, CHAT_JOURNAL_EVENT_VERSION, write.occurredAtUtc, last,
    format.sha256 (stringify (canonical event))⟩, ?_, same, rfl, rfl, rfl, rfl, ?_, lastProper, lastDefined⟩
  · have stable := stableStringify_compact event
    rw [orNull_of_stated (by rwa [isUndefined_compact])] at stable
    simp only [toEnvelope, bind_eq_ok, throwWhen_eq_ok, orInvalid_eq_ok]
    refine ⟨(), bne_self_eq_false _, compact event, ?_, read, isRead, (), ?_, ?_⟩
    · rw [eventRow, decodeJson_stringify eventProper defined]
      rfl
    · rw [digestStableJson, stable, eventRow, bne_self_eq_false]
    · simp only [ChatJournalEnvelope.parse, eventRow, isLast, Option.bind_eq_bind, Option.bind_some]
      exact if_pos valid
  · rw [eventRow, same]

/-! ## Effects -/

def IsRow (store : ChatJournalStore) (operationId : String) (row : RunRow) : Prop :=
  store.runs.find? (isRun operationId) = some row

/-- The store after one more event of a run. -/
def withEvent (store : ChatJournalStore) (row : EventRow) : ChatJournalStore :=
  { store with events := store.events ++ [row] }.updateRun row.operationId (advanceRow row.sequence row.recordedAtUtc)

/-- A row that an append may add to a run. -/
structure IsNextEvent (format : JournalFormat) (store : ChatJournalStore) (run : RunRow) (write : ChatJournalAppend)
    (row : EventRow) : Prop where
  operationId : row.operationId = write.operationId
  sequence : row.sequence = run.latestSequence + 1
  eventId : row.eventId = write.eventId
  fresh : ∀ other ∈ store.events, isEvent write.operationId write.eventId other = false
  holds : ∃ event, format.events.parse write.event = some event ∧ Holds format row event
  expected : write.expectedSequence = run.latestSequence
  dated : format.strings.isDatetime row.recordedAtUtc = true

inductive Effect (format : JournalFormat) (store : ChatJournalStore) : JournalCall → ChatJournalStore → Prop where
  | nothing (call : JournalCall) : Effect format store call store
  | begun {start parsed : ChatRunStart} (isParsed : start.parse format = some parsed)
      (fresh : ∀ other ∈ store.runs, runsConflict (store.startRow parsed) other = false)
      (reads : ReadsBack format (store.startRow parsed)) :
      Effect format store (.begin start) { store with runs := store.runs ++ [store.startRow parsed] }
  | bound {binding : ChatEngineBinding} {now : Int} {row : RunRow} (isRow : IsRow store binding.operationId row)
      (admitted : Admitted store row.toChatRunColumns binding.ownerEpoch now)
      (unbound : row.requestId = none ∧ row.repoAgentSessionId = none) (reads : ReadsBack format (bindRow binding row)) :
      Effect format store (.bindEngine binding now) (store.updateRun binding.operationId (bindRow binding))
  | appended {write : ChatJournalAppend} {proper : Proper write.event} {now : Int} {run : RunRow} {row : EventRow}
      (isRow : IsRow store write.operationId run) (admitted : Admitted store run.toChatRunColumns write.ownerEpoch now)
      (unfinished : run.terminalCause = none) (isNext : IsNextEvent format store run write row) :
      Effect format store (.append write proper now) (store.withEvent row)
  | finished {outcome : ChatRunFinish} {now : Int} {row : RunRow} (isRow : IsRow store outcome.operationId row)
      (admitted : Admitted store row.toChatRunColumns outcome.ownerEpoch now) (unfinished : row.terminalCause = none)
      (reads : ReadsBack format (finishRow outcome row)) :
      Effect format store (.finish outcome now) (store.updateRun outcome.operationId (finishRow outcome))
  | projected {checkpoint : ChatProjectionCheckpoint} {row : RunRow} (isRow : IsRow store checkpoint.operationId row)
      (committed : checkpoint.projectedSequence ≤ row.latestSequence) :
      Effect format store (.advanceProjection checkpoint) (store.updateRun checkpoint.operationId (projectRow checkpoint))
  | revised (checkpoint : ChatContextCheckpoint) :
      Effect format store (.advanceContextRevision checkpoint) (store.updateRun checkpoint.operationId (reviseRow checkpoint))
  | adopted {operationId ownerEpoch : String} {now : Int} {owner : OwnerRow} (isOwner : store.owner = some owner)
      (same : owner.ownerEpoch = ownerEpoch) (live : now < owner.leaseExpiresAt) :
      Effect format store (.adopt operationId ownerEpoch now) (store.adoptRun operationId ownerEpoch)
  | ownerWritten (owner : OwnerTable) : Effect format store (.writeOwner owner) { store with owner := owner }

section Calls

variable {after : ChatJournalStore}

variable {start : ChatRunStart} {run : ChatRun} {now : Int}

theorem parse_start {parsed : ChatRunStart} (isParsed : start.parse format = some parsed) : ∃ settings provenance,
    parseNullableWith format.settings start.settings = some settings ∧
      parsed = { start with settings := settings, provenance := provenance } := by
  simp only [ChatRunStart.parse, Option.bind_eq_bind, Option.bind_eq_some_iff] at isParsed
  obtain ⟨settings, isSettings, provenance, _, accepted⟩ := isParsed
  rw [Option.ite_none_right_eq_some, Option.some_inj] at accepted
  exact ⟨settings, provenance, isSettings, accepted.2.symm⟩

theorem begin_ok (ended : store.begin format start = .ok (run, after)) :
    ∃ parsed, start.parse format = some parsed ∧ (∀ other ∈ store.runs, runsConflict (store.startRow parsed) other = false) ∧
      ReadsBack format (store.startRow parsed) ∧ after = { store with runs := store.runs ++ [store.startRow parsed] } := by
  simp only [begin, bind_eq_ok, orInvalid_eq_ok, pure_eq_ok, Prod.mk.injEq] at ended
  obtain ⟨parsed, isParsed, _, _, runs, inserted, run, isRead, rfl, rfl⟩ := ended
  obtain ⟨rfl, fresh⟩ := insertRow_eq_some inserted
  obtain ⟨row, found, shown⟩ := requireRun_ok isRead
  -- No earlier row has the id: the row that was read is the new one.
  have isNew : row = store.startRow parsed := by
    rw [List.find?_append] at found
    have absent : store.runs.find? (isRun parsed.operationId) = none := by
      apply List.find?_eq_none.mpr
      intro other member own
      have distinct := fresh other member
      simp only [runsConflict, Bool.or_eq_false_iff] at distinct
      simp only [isRun, beq_iff_eq] at own
      simp [startRow, own] at distinct
    simpa [absent, isRun, startRow, eq_comm] using found
  refine ⟨parsed, isParsed, fresh, ⟨run, ?_⟩, rfl⟩
  rw [← isNew]
  exact shown

theorem begin_effect (ended : store.begin format start = .ok (run, after)) :
    Effect format store (.begin start) after := by
  obtain ⟨parsed, isParsed, fresh, reads, rfl⟩ := begin_ok ended
  exact .begun isParsed fresh reads

theorem bindEngine_effect {binding : ChatEngineBinding}
    (ended : store.bindEngine format binding now = .ok (run, after)) :
    Effect format store (.bindEngine binding now) after := by
  simp only [bindEngine, bind_eq_ok] at ended
  obtain ⟨_, _, before, isBefore, _, owned, ended⟩ := ended
  obtain ⟨row, found, shown⟩ := requireRun_ok isBefore
  have columns := columns_of_toChatRun shown
  have admitted := requireOwner_eq_ok.mp owned
  rw [columns] at admitted
  split at ended
  · simp only [bind_eq_ok, pure_eq_ok, Prod.mk.injEq] at ended
    obtain ⟨_, _, _, rfl⟩ := ended
    exact .nothing _
  next unbound =>
    simp only [bind_eq_ok, pure_eq_ok, Prod.mk.injEq] at ended
    obtain ⟨_, _, _, isRead, _, rfl⟩ := ended
    rw [columns] at unbound
    simp only [Bool.or_eq_true, Option.isSome_iff_ne_none, ne_eq, not_or, not_not] at unbound
    exact .bound found admitted unbound (requireRun_update (fun _ => rfl) found isRead)

section

variable {write : ChatJournalAppend} (proper : Proper write.event) {envelope : ChatJournalEnvelope}
  (ended : store.append format write now = .ok (envelope, after))

include proper ended

theorem append_cases :
    ∃ run, IsRow store write.operationId run ∧ Admitted store run.toChatRunColumns write.ownerEpoch now ∧
      ((∃ row, store.events.find? (isEvent write.operationId write.eventId) = some row ∧ toEnvelope format row = .ok envelope ∧
          after = store) ∨
        run.terminalCause = none ∧ ∃ row, IsNextEvent format store run write row ∧ after = store.withEvent row ∧
          envelope.sequence = row.sequence ∧
          ∃ event, format.events.parse write.event = some event ∧ SameJson event envelope.event) := by
  simp only [append, bind_eq_ok, orInvalid_eq_ok] at ended
  obtain ⟨parsed, isParsed, payloadDigest, digested, before, isBefore, _, owned, existing, isExisting, ended⟩ := ended
  obtain ⟨event, accepted, rfl, dated⟩ := parse_write isParsed
  obtain ⟨row, found, shown⟩ := requireRun_ok isBefore
  have columns := columns_of_toChatRun shown
  have admitted := requireOwner_eq_ok.mp owned
  rw [columns] at admitted
  refine ⟨row, found, admitted, ?_⟩
  cases existing with
  | some existing =>
    simp only [bind_eq_ok, pure_eq_ok, Prod.mk.injEq] at ended
    obtain ⟨_, _, rfl, rfl⟩ := ended
    simp only [readEventById] at isExisting
    split at isExisting
    next stored isStored =>
      obtain ⟨answer, isAnswer, same⟩ := map_eq_ok.mp isExisting
      obtain rfl := Option.some_inj.mp same
      exact .inl ⟨stored, isStored, isAnswer, rfl⟩
    · cases isExisting
  | none =>
    simp only [insertEvent, bind_eq_ok, throwWhen_eq_ok, orInvalid_eq_ok, pure_eq_ok, Prod.mk.injEq] at ended
    obtain ⟨_, unfinished, _, expected, events, inserted, answer, answered, rfl, rfl⟩ := ended
    obtain ⟨rfl, fresh⟩ := insertRow_eq_some inserted
    have holds := holds_eventRow proper isParsed digested answered
    obtain ⟨isAnswer, shows, _⟩ := parse_envelope answered
    have sequence := congrArg ChatJournalEnvelope.sequence shows
    obtain ⟨eventProper, _⟩ := format.events.proper proper accepted
    obtain ⟨again, isAgain, sameAgain⟩ := format.events.stable proper accepted
    rw [columns] at unfinished expected fresh holds sequence ⊢
    refine .inr ⟨by simpa using unfinished, _, ⟨rfl, rfl, rfl, fun other member => ?_, ⟨event, accepted, holds⟩, ?_, dated⟩, rfl,
      sequence, event, accepted, eventProper, (format.events.proper eventProper isAnswer).1, ?_⟩
    · have distinct := fresh other member
      simp only [eventsConflict, eventRow, Bool.and_eq_false_iff, Bool.or_eq_false_iff, beq_eq_false_iff_ne, ne_eq] at distinct
      rw [isEvent, Bool.and_eq_false_iff, beq_eq_false_iff_ne, beq_eq_false_iff_ne]
      exact distinct.imp (fun other => Ne.symm other) fun other => Ne.symm other.2
    · simpa using expected
    · rw [Option.some_inj.mp (isAnswer.symm.trans isAgain), sameAgain]

theorem append_effect :
    Effect format store (.append write proper now) after := by
  obtain ⟨run, isRow, admitted, stored | added⟩ := append_cases proper ended
  · obtain ⟨_, _, _, rfl⟩ := stored
    exact .nothing _
  · obtain ⟨unfinished, row, isNext, rfl, _⟩ := added
    exact .appended isRow admitted unfinished isNext

end

theorem finish_effect {outcome : ChatRunFinish} (ended : store.finish format outcome now = .ok (run, after)) :
    Effect format store (.finish outcome now) after := by
  simp only [finish, bind_eq_ok] at ended
  obtain ⟨_, _, before, isBefore, _, owned, ended⟩ := ended
  obtain ⟨row, found, shown⟩ := requireRun_ok isBefore
  have columns := columns_of_toChatRun shown
  have admitted := requireOwner_eq_ok.mp owned
  rw [columns] at admitted ended
  split at ended
  · simp only [bind_eq_ok, pure_eq_ok, Prod.mk.injEq] at ended
    obtain ⟨_, _, _, rfl⟩ := ended
    exact .nothing _
  next unfinished =>
    simp only [bind_eq_ok, pure_eq_ok, Prod.mk.injEq] at ended
    obtain ⟨_, isRead, _, rfl⟩ := ended
    exact .finished found admitted unfinished (requireRun_update (fun _ => rfl) found isRead)

theorem advanceProjection_effect {checkpoint : ChatProjectionCheckpoint}
    (ended : store.advanceProjection format checkpoint = .ok after) : Effect format store (.advanceProjection checkpoint) after := by
  simp only [advanceProjection, bind_eq_ok, throwWhen_eq_ok, pure_eq_ok] at ended
  obtain ⟨before, isBefore, _, committed, rfl⟩ := ended
  obtain ⟨row, found, shown⟩ := requireRun_ok isBefore
  rw [columns_of_toChatRun shown, decide_eq_false_iff_not] at committed
  exact .projected found (by omega)

theorem adopt_effect {operationId ownerEpoch : String} (ended : store.adopt operationId ownerEpoch now = .ok after) :
    Effect format store (.adopt operationId ownerEpoch now) after := by
  simp only [adopt, assertRecoveryOwner, bind_eq_ok, throwWhen_eq_ok, pure_eq_ok] at ended
  obtain ⟨_, ⟨owner, isOwner, allowed⟩, rfl⟩ := ended
  have isRow : store.owner = some owner := by
    unfold OwnerTable.require at isOwner
    split at isOwner
    next row present =>
      split at isOwner
      · cases isOwner
        exact present
      · cases isOwner
    · cases isOwner
  simp only [Bool.or_eq_false_iff, bne_eq_false_iff_eq, decide_eq_false_iff_not] at allowed
  exact .adopted isRow allowed.1 (by omega)

end Calls

theorem effect_of_call (format : JournalFormat) (store : ChatJournalStore) (call : JournalCall) :
    Effect format store call (store.perform format call) := by
  have of_ok : ∀ {Result : Type} {body : Except Thrown (Result × ChatJournalStore)},
      (∀ {result after}, body = .ok (result, after) → Effect format store call after) →
        Effect format store call (committed store body) := by
    intro Result body effect
    cases body with
    | error failure => exact .nothing call
    | ok answer => exact effect rfl
  have of_silent : ∀ {body : Except Thrown ChatJournalStore},
      (∀ {after}, body = .ok after → Effect format store call after) → Effect format store call (committed store (silent body)) := by
    intro body effect
    cases body with
    | error failure => exact .nothing call
    | ok after => exact effect rfl
  cases call with
  | begin start => exact of_ok begin_effect
  | bindEngine binding now => exact of_ok bindEngine_effect
  | append write proper now => exact of_ok (append_effect proper)
  | finish outcome now => exact of_ok finish_effect
  | advanceProjection checkpoint => exact of_silent advanceProjection_effect
  | advanceContextRevision checkpoint =>
    refine of_silent fun ended => ?_
    simp only [advanceContextRevision, bind_eq_ok, pure_eq_ok] at ended
    obtain ⟨_, _, rfl⟩ := ended
    exact .revised checkpoint
  | adopt operationId ownerEpoch now => exact of_silent adopt_effect
  | writeOwner owner => exact .ownerWritten owner

end ChatJournalStore

end SiftKit.Chat
