import SiftKit.Chat.JournalReader

/-! # The contract of the chat journal

Over every run of calls by any writers: the sequences count the events, a retry changes nothing, what
was settled stays, and a reading gives back what was appended.
-/

namespace SiftKit.Chat.ChatJournalStore

open SiftKit.Json SiftKit.Failure SiftKit.Tables SiftKit.Runs

variable {format : JournalFormat} {store : ChatJournalStore}

/-! ## Writers -/

/-- The run that a call names and the epoch it is made under, where it names one. -/
def JournalCall.writer : JournalCall → Option (String × String)
  | .bindEngine binding _ => some (binding.operationId, binding.ownerEpoch)
  | .append write _ _ => some (write.operationId, write.ownerEpoch)
  | .finish outcome _ => some (outcome.operationId, outcome.ownerEpoch)
  | _ => none

def JournalCall.time : JournalCall → Option Int
  | .bindEngine _ now => some now
  | .append _ _ now => some now
  | .finish _ now => some now
  | _ => none

variable {operationId : String} {row : EventRow} {write parsed : ChatJournalAppend} {envelope : ChatJournalEnvelope}

/-- A call under an epoch changes something only when the run is the epoch's, and an execution is written
to only under the lease. -/
theorem admitted_of_changed {call : JournalCall} {ownerEpoch : String} {now : Int}
    (writer : JournalCall.writer call = some (operationId, ownerEpoch)) (time : JournalCall.time call = some now)
    {after : ChatJournalStore} (effect : Effect format store call after) (changed : after ≠ store) :
    ∃ row, IsRow store operationId row ∧ Admitted store row.toChatRunColumns ownerEpoch now := by
  cases effect with
  | nothing => exact absurd rfl changed
  | bound isRow admitted =>
    cases writer
    cases time
    exact ⟨_, isRow, admitted⟩
  | appended isRow admitted =>
    cases writer
    cases time
    exact ⟨_, isRow, admitted⟩
  | finished isRow admitted =>
    cases writer
    cases time
    exact ⟨_, isRow, admitted⟩
  | begun => cases writer
  | projected => cases writer
  | revised => cases writer
  | adopted => cases writer
  | ownerWritten => cases writer

/-! ## Retries -/

theorem find_event (wellFormed : WellFormed format store) {eventId : String} (member : row ∈ store.events)
    (isOwn : isEvent operationId eventId row = true) :
    store.events.find? (isEvent operationId eventId) = some row := by
  cases found : store.events.find? (isEvent operationId eventId) with
  | none => exact absurd isOwn (List.find?_eq_none.mp found row member)
  | some other =>
    have otherOwn := List.find?_some found
    simp only [isEvent, Bool.and_eq_true, beq_iff_eq] at isOwn otherOwn
    have same : other = row := by
      apply List.inj_on_of_nodup_map wellFormed.eventIds (List.mem_of_find?_eq_some found) member
      rw [isOwn.1, isOwn.2, otherOwn.1, otherOwn.2]
    rw [same]

/-- Two texts of one digest. -/
def Collision (format : JournalFormat) : Prop := ∃ first second, first ≠ second ∧ format.sha256 first = format.sha256 second

section

variable (wellFormed : WellFormed format store) (proper : Proper write.event)
  (isParsed : write.parse format = some parsed) {run : RunRow} (isRow : IsRow store write.operationId run)
  {now : Int} (admitted : Admitted store run.toChatRunColumns write.ownerEpoch now)
  (member : row ∈ store.events) (isOwn : isEvent write.operationId write.eventId row = true)
  (read : toEnvelope format row = .ok envelope)

include wellFormed proper isParsed isRow admitted member isOwn read

theorem append_stored :
    store.append format write now = (throwWhen (envelope.payloadDigest != format.sha256 (stringify (canonical parsed.event)))
      (conflictingEvent parsed)).map fun _ => (envelope, store) := by
  obtain ⟨event, accepted, rfl, _⟩ := parse_write isParsed
  obtain ⟨eventProper, defined⟩ := format.events.proper proper accepted
  obtain ⟨before, isBefore⟩ := wellFormed.reads run isRow.mem
  have columns := columns_of_toChatRun isBefore
  have isRun := requireRun_of_readsBack isRow isBefore
  have owned : store.requireOwner before write.ownerEpoch now = .ok () := by
    apply requireOwner_eq_ok.mpr
    rw [columns]
    exact admitted
  have existing : store.readEventById format write.operationId write.eventId = .ok (some envelope) := by
    rw [readEventById, find_event wellFormed member isOwn]
    simp only [read]
    rfl
  rw [append, isParsed]
  simp only [orInvalid, digest_eq eventProper defined, isRun, owned, existing, bind, Except.bind]
  cases envelope.payloadDigest != format.sha256 (stringify (canonical event)) <;> rfl

theorem append_again (shows : ShowsRow format row envelope) (same : canonical parsed.event = canonical envelope.event) :
    store.append format write now = .ok (envelope, store) := by
  rw [append_stored wellFormed proper isParsed isRow admitted member isOwn read, shows.payloadDigest, shows.digested, same,
    bne_self_eq_false]
  rfl

theorem append_conflict (shows : ShowsRow format row envelope) (different : canonical parsed.event ≠ canonical envelope.event) :
    store.append format write now = .error (conflictingEvent parsed) ∨ Collision format := by
  obtain ⟨event, accepted, isWrite, _⟩ := parse_write isParsed
  have eventProper : Proper parsed.event ∧ parsed.event.isUndefined = false := by
    rw [isWrite]
    exact format.events.proper proper accepted
  by_cases told : format.sha256 (stringify (canonical envelope.event)) = format.sha256 (stringify (canonical parsed.event))
  · refine .inr ⟨_, _, fun sameText => different ?_, told⟩
    -- The text tells the content.
    have sameJson := canonical_of_stable shows.proper eventProper.1 (by rw [stableStringify_compact, stableStringify_compact, sameText])
    rw [orNull_of_stated (by rw [isUndefined_canonical, shows.defined]),
      orNull_of_stated (by rw [isUndefined_canonical, eventProper.2])] at sameJson
    exact sameJson.symm
  · refine .inl ?_
    rw [append_stored wellFormed proper isParsed isRow admitted member isOwn read, shows.payloadDigest, shows.digested,
      bne_iff_ne.mpr told]
    rfl

end

/-! ## Reading -/

section

variable (wellFormed : WellFormed format store) {row : RunRow} (member : row ∈ store.runs)

include wellFormed member

theorem WellFormed.length_eventsOf :
    (store.eventsOf row.operationId).length = row.latestSequence := by
  have counted := congrArg List.length (wellFormed.numbered row member)
  rwa [List.length_map, List.length_range'] at counted

theorem WellFormed.isUuid :
    format.strings.isUuid row.operationId = true := by
  obtain ⟨run, isRun⟩ := wellFormed.reads row member
  have accepted := (toChatRun_eq_ok.mp isRun).2.1
  simp only [ChatRunColumns.accepts, Bool.and_eq_true] at accepted
  exact accepted.1.1.1.1.1.1.1

/-- Readings of a run that began when the store was well formed. -/
theorem sees_run (meanwhile : Nat → List JournalCall) :
    Sees (fun query => run (perform format) store (meanwhile query)) row.operationId (store.eventsOf row.operationId) := by
  have later : ∀ query, WellFormed format (run (perform format) store (meanwhile query)) := fun query =>
    run_invariant (WellFormed format) (fun store call holds => holds.effect (effect_of_call format store call)) wellFormed _
  constructor
  · intro query
    obtain ⟨next, nextMember, follows⟩ := (keeps_run wellFormed (meanwhile query)).runs row member
    have numbered := (later query).numbered next nextMember
    have counted := congrArg List.length numbered
    rw [List.length_map, List.length_range'] at counted
    rw [follows.operationId] at numbered counted
    rw [NumberedFrom, counted]
    exact numbered
  · intro query
    exact (keeps_run wellFormed (meanwhile query)).events row.operationId

end

theorem mapM_holds (rows : List EventRow) (holds : ∀ row ∈ rows, ∃ event, Holds format row event) :
    ∃ envelopes, rows.mapM (toEnvelope format) = .ok envelopes ∧ List.Forall₂ (ShowsRow format) rows envelopes := by
  induction rows with
  | nil => exact ⟨[], rfl, .nil⟩
  | cons row rest ih =>
    obtain ⟨envelopes, areRead, shown⟩ := ih fun other member => holds other (List.mem_cons_of_mem _ member)
    obtain ⟨event, envelope, isRead, _, shows⟩ := holds row List.mem_cons_self
    refine ⟨envelope :: envelopes, ?_, .cons shows shown⟩
    rw [List.mapM_cons, isRead, areRead]
    rfl

/-- A reading of a whole run through the head it had yields its events, each once and in order, whatever
the limits of a page are and whatever is written in between. -/
theorem readAll_eq (wellFormed : WellFormed format store) {row : RunRow} (member : row ∈ store.runs) :
    ∃ envelopes, List.Forall₂ (ShowsRow format) (store.eventsOf row.operationId) envelopes ∧
      ∀ (meanwhile : Nat → List JournalCall) pageSize pageBytes, 0 < pageSize → readThroughPaged format pageSize pageBytes
        (fun query => run (perform format) store (meanwhile query)) row.operationId 0 row.latestSequence =
          ⟨envelopes, .ok row.latestSequence⟩ := by
  have numbered := wellFormed.numbered row member
  have counted := wellFormed.length_eventsOf member
  obtain ⟨envelopes, areRead, shown⟩ := mapM_holds (store.eventsOf row.operationId) fun event isEvent =>
    wellFormed.holds event (List.mem_filter.mp isEvent).1
  refine ⟨envelopes, shown, fun meanwhile pageSize pageBytes positive => ?_⟩
  have fromOne : NumberedFrom 1 (store.eventsOf row.operationId) := by
    rw [NumberedFrom, counted]
    exact numbered
  rw [readThroughPaged_eq (sees_run wellFormed member meanwhile) fromOne areRead positive (wellFormed.isUuid member) (by omega) (Nat.zero_le _),
    List.drop_zero, List.take_of_length_le]
  rw [← shown.length_eq, counted]

/-! ## The contract -/

/-- What holds of a journal after any calls. -/
structure JournalContract (format : JournalFormat) (store : ChatJournalStore) : Prop where
  /-- The stored sequences of a run are 1 up to its latest one. -/
  sequences : ∀ row ∈ store.runs, (store.eventsOf row.operationId).map EventRow.sequence = List.range' 1 row.latestSequence
  /-- Events stay, a bound engine and a terminal cause do not change, and nothing is appended after the cause. -/
  settled : ∀ later, Keeps store (run (perform format) store later)
  /-- A stored event is read back; appending it again gives it back and changes nothing, and other content is refused
  unless the digest cannot tell the two apart. -/
  retried : ∀ row ∈ store.events, ∃ envelope, toEnvelope format row = .ok envelope ∧ ShowsRow format row envelope ∧
    ∀ (write parsed : ChatJournalAppend) (stored : RunRow) (now : Int), Proper write.event → write.parse format = some parsed →
      isEvent write.operationId write.eventId row = true → IsRow store write.operationId stored →
      Admitted store stored.toChatRunColumns write.ownerEpoch now →
      (canonical parsed.event = canonical envelope.event → store.append format write now = .ok (envelope, store)) ∧
        (canonical parsed.event ≠ canonical envelope.event →
          store.append format write now = .error (conflictingEvent parsed) ∨ Collision format)
  /-- Whoever writes under another epoch than the run's, or without the lease of an execution, changes nothing. -/
  fenced : ∀ call operationId ownerEpoch now, JournalCall.writer call = some (operationId, ownerEpoch) →
    JournalCall.time call = some now →
    (¬ ∃ row, IsRow store operationId row ∧ Admitted store row.toChatRunColumns ownerEpoch now) →
    perform format store call = store
  /-- A projection moves nothing but its own checkpoint, and not beyond what is committed. -/
  projection : ∀ checkpoint, perform format store (.advanceProjection checkpoint) = store ∨
    ∃ row, IsRow store checkpoint.operationId row ∧ checkpoint.projectedSequence ≤ row.latestSequence ∧
      perform format store (.advanceProjection checkpoint) = store.updateRun checkpoint.operationId (projectRow checkpoint)
  /-- A reading through the head it began with yields the events up to it, in order and each once, or fails. -/
  reading : ∀ row ∈ store.runs, ∃ envelopes, List.Forall₂ (ShowsRow format) (store.eventsOf row.operationId) envelopes ∧
    ∀ pageSize pageBytes (meanwhile : Nat → List JournalCall),
      let reading := readThroughPaged format pageSize pageBytes (fun query => run (perform format) store (meanwhile query))
        row.operationId 0 row.latestSequence
      reading = ⟨envelopes, .ok row.latestSequence⟩ ∨ pageSize = 0 ∧ reading = .stop (.error missingEvidence)

theorem projection_effect (store : ChatJournalStore) (checkpoint : ChatProjectionCheckpoint) :
    perform format store (.advanceProjection checkpoint) = store ∨
    ∃ row, IsRow store checkpoint.operationId row ∧ checkpoint.projectedSequence ≤ row.latestSequence ∧
      perform format store (.advanceProjection checkpoint) = store.updateRun checkpoint.operationId (projectRow checkpoint) := by
  have effect := effect_of_call format store (.advanceProjection checkpoint)
  generalize perform format store (.advanceProjection checkpoint) = after at effect
  cases effect with
  | nothing => exact .inl rfl
  | projected isRow committed => exact .inr ⟨_, isRow, committed, rfl⟩

/-- A page that may hold no row yields nothing. -/
theorem readThroughPaged_noRows {pageBytes : Nat} {queries : Nat → ChatJournalStore} {head : Nat}
    (isUuid : format.strings.isUuid operationId = true) :
    readThroughPaged format 0 pageBytes queries operationId 0 head =
      if head = 0 then ⟨[], .ok head⟩ else .stop (.error missingEvidence) := by
  rw [readThroughPaged, isUuid, Bool.not_true, if_neg Bool.false_ne_true, if_neg (Nat.not_lt_zero head)]
  cases head with
  | zero => rfl
  | succ head => simp [readPages]

theorem journal_contract (format : JournalFormat) (calls : List JournalCall) :
    JournalContract format (run (perform format) empty calls) := by
  have wellFormed := wellFormed_run format calls
  generalize run (perform format) empty calls = store at wellFormed
  constructor
  · exact wellFormed.numbered
  · exact keeps_run wellFormed
  · intro row member
    obtain ⟨_, envelope, isRead, _, shows⟩ := wellFormed.holds row member
    refine ⟨envelope, isRead, shows, fun write parsed stored now proper isParsed isOwn isRow admitted => ⟨?_, ?_⟩⟩
    · exact append_again wellFormed proper isParsed isRow admitted member isOwn isRead shows
    · exact append_conflict wellFormed proper isParsed isRow admitted member isOwn isRead shows
  · intro call operationId ownerEpoch now writer time notAdmitted
    by_contra changed
    exact notAdmitted (admitted_of_changed writer time (effect_of_call format store call) changed)
  · exact projection_effect store
  · intro row member
    obtain ⟨envelopes, shown, readAll⟩ := readAll_eq wellFormed member
    refine ⟨envelopes, shown, fun pageSize pageBytes meanwhile => ?_⟩
    cases pageSize with
    | succ pageSize => exact .inl (readAll meanwhile (pageSize + 1) pageBytes (Nat.succ_pos _))
    | zero =>
      rw [readThroughPaged_noRows (wellFormed.isUuid member)]
      split
      next noEvents =>
        have counted := shown.length_eq.symm.trans (wellFormed.length_eventsOf member)
        rw [noEvents, List.length_eq_zero_iff] at counted
        exact .inl (by rw [counted, noEvents])
      · exact .inr ⟨rfl, rfl⟩

/-! ## A projection by a former owner

An append of a process that lost its lease is refused; a projection names no epoch, so nothing refuses it. -/

/-- A format that takes any JSON for an event, with the digest of the one event of the sample. -/
def sampleJournal : JournalFormat where
  strings := sampleFormats
  events := Schema.json
  settings := Schema.json
  provenance := Schema.json
  sha256 := fun _ => "c248a5c1129c39430e7a48aafc01afcebea675a2bab3b6b6d94d4c5027b27457"

def sampleStart : ChatRunStart where
  operationId := "9f8e7d6c-5b4a-4392-a1b0-c9d8e7f6a5b4"
  sessionId := "0b0e7c9a-6f3d-4b52-9a34-1c2d3e4f5a6b"
  recordKind := .execution
  operationKind := some .message
  ownerEpoch := "first:1"
  settings := none
  provenance := none
  createdAtUtc := "2026-01-01T00:00:00.000Z"

def sampleAppend (expectedSequence : Nat) (eventId : String) : ChatJournalAppend where
  operationId := sampleStart.operationId
  ownerEpoch := sampleStart.ownerEpoch
  expectedSequence := expectedSequence
  eventId := eventId
  occurredAtUtc := "2026-01-01T00:00:01.000Z"
  event := .object [(utf16 "kind", .string (utf16 "stop_requested")),
    (utf16 "requestedAtUtc", .string (utf16 "2026-01-01T00:00:00.000Z"))]

theorem sampleAppend_proper (expectedSequence : Nat) (eventId : String) : Proper (sampleAppend expectedSequence eventId).event := by
  refine .object (by decide) fun entry member => ?_
  simp only [List.mem_cons, List.not_mem_nil, or_false] at member
  obtain rfl | rfl := member <;> exact .string _

/-- The first owner wrote one event; then its lease expired and a second process took it over. -/
def takenOver : List JournalCall :=
  [.writeOwner (some ⟨"first", 1, 30000⟩), .begin sampleStart, .append (sampleAppend 0 "stop") (sampleAppend_proper 0 "stop") 1000,
    .writeOwner (some ⟨"second", 2, 60000⟩)]

def appendLate : JournalCall := .append (sampleAppend 1 "more") (sampleAppend_proper 1 "more") 30001

def projectLate : JournalCall := .advanceProjection ⟨sampleStart.operationId, 1, none, 0⟩

/-- What a journal shows of each run: its latest sequence, its checkpoint and its owner. -/
def progress (calls : List JournalCall) : List (Nat × Nat × String) :=
  (run (perform sampleJournal) empty calls).runs.map fun row => (row.latestSequence, row.projectedSequence, row.ownerEpoch)

theorem formerOwner_projects :
    progress takenOver = [(1, 0, "first:1")] ∧ progress (takenOver ++ [appendLate]) = progress takenOver ∧
      progress (takenOver ++ [projectLate]) ≠ progress takenOver := by
  decide +kernel

end SiftKit.Chat.ChatJournalStore
