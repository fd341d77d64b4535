import SiftKit.Chat.RunRecorder

/-! # What a recorder writes

Every operation of a recorder is a course of journal calls under the epoch of its owner.  A run is ended
by two calls of one transaction, which are one step of a course.
-/

namespace SiftKit.Chat

open SiftKit.Json SiftKit.Failure SiftKit.Tables SiftKit.Runs ChatJournalStore

/-! ## Courses -/

/-- A call that a process makes under an epoch at some time, and that does not end a journal. -/
def JournalCall.IsOwn (store : ChatJournalStore) (ownerEpoch : String) (now : Int) : JournalCall → Prop
  | .begin start => start.ownerEpoch = ownerEpoch
  | .bindEngine binding time => binding.ownerEpoch = ownerEpoch ∧ time = now
  | .append write _ time => (write.ownerEpoch = ownerEpoch ∧ time = now) ∧ isKind "run_finished" write.event = false
  | .finish outcome time => outcome.ownerEpoch = ownerEpoch ∧ time = now
  | .advanceContextRevision checkpoint => ∃ row, IsRow store checkpoint.operationId row ∧ row.ownerEpoch = ownerEpoch
  | .adopt _ epoch time => epoch = ownerEpoch ∧ time = now
  | .advanceProjection _ => False
  | .writeOwner _ => False

structure Ends (format : EventFormat) (ownerEpoch : String) (now : Int) (store : ChatJournalStore) (run : RunRow) (row : EventRow)
    (write : ChatJournalAppend) (outcome : ChatRunFinish) : Prop where
  isRow : IsRow store write.operationId run
  admitted : Admitted store run.toChatRunColumns ownerEpoch now
  unfinished : run.terminalCause = none
  proper : Proper write.event
  isNext : IsNextEvent format.journal store run write row
  sameRun : outcome.operationId = write.operationId
  sameWriter : write.ownerEpoch = ownerEpoch
  sameOwner : outcome.ownerEpoch = ownerEpoch
  isEnd : isKind "run_finished" write.event = true
  cause : causeOf write.event = .string (utf16 (causeName outcome.terminalCause))
  reads : ReadsBack format.journal (finishRow outcome (advanceRow row.sequence row.recordedAtUtc run))

inductive Move (format : EventFormat) (ownerEpoch : String) (now : Int) (store : ChatJournalStore) : ChatJournalStore → Prop where
  | call {call : JournalCall} {after : ChatJournalStore} (effect : Effect format.journal store call after)
      (isOwn : call.IsOwn store ownerEpoch now) : Move format ownerEpoch now store after
  | ended {run : RunRow} {row : EventRow} {write : ChatJournalAppend} {outcome : ChatRunFinish}
      (ends : Ends format ownerEpoch now store run row write outcome) :
      Move format ownerEpoch now store ((store.withEvent row).updateRun outcome.operationId (finishRow outcome))

abbrev Course (format : EventFormat) (ownerEpoch : String) (now : Int) : ChatJournalStore → ChatJournalStore → Prop :=
  Relation.ReflTransGen (Move format ownerEpoch now)

/-! ## Calls that succeeded -/

section Calls

variable {format : EventFormat} {store : ChatJournalStore}

/-- The run that a request begins is its writer's. -/
theorem owner_of_parse {start parsed : ChatRunStart} (isParsed : start.parse format.journal = some parsed) :
    parsed.ownerEpoch = start.ownerEpoch := by
  obtain ⟨_, _, _, rfl⟩ := parse_start isParsed
  rfl

theorem isRow_withEvent {run : RunRow} {row : EventRow} (isRow : IsRow store row.operationId run) :
    IsRow (store.withEvent row) row.operationId (advanceRow row.sequence row.recordedAtUtc run) := by
  have kept : ∀ other ∈ store.runs, isRun row.operationId other = true →
      isRun row.operationId (advanceRow row.sequence row.recordedAtUtc other) = true := fun _ _ own => own
  rw [IsRow, withEvent, updateRun, find?_updateWhere _ _ _ kept, isRow]
  rfl

theorem append_owned {write : ChatJournalAppend} (proper : Proper write.event) {now : Int} {envelope : ChatJournalEnvelope}
    {after : ChatJournalStore} (appended : store.append format.journal write now = .ok (envelope, after)) :
    ∃ row, IsRow after write.operationId row ∧ row.ownerEpoch = write.ownerEpoch := by
  obtain ⟨run, isRow, admitted, stored | added⟩ := append_cases proper appended
  · obtain ⟨_, _, _, rfl⟩ := stored
    exact ⟨run, isRow, admitted.owner⟩
  · obtain ⟨_, row, isNext, rfl, _⟩ := added
    have isTarget := isRow
    rw [← isNext.operationId] at isTarget ⊢
    exact ⟨_, isRow_withEvent isTarget, admitted.owner⟩

theorem journalFinish_ok {outcome : ChatRunFinish} {now : Int} {run : ChatRun} {after : ChatJournalStore}
    (ended : store.finish format.journal outcome now = .ok (run, after)) :
    ∃ row, IsRow store outcome.operationId row ∧ row.ownerEpoch = outcome.ownerEpoch ∧
      (row.terminalCause = none ∧ after = store.updateRun outcome.operationId (finishRow outcome) ∧
          ReadsBack format.journal (finishRow outcome row) ∨
        row.terminalCause = some outcome.terminalCause ∧ after = store) := by
  simp only [ChatJournalStore.finish, bind_eq_ok] at ended
  obtain ⟨_, _, before, isBefore, _, owned, ended⟩ := ended
  obtain ⟨row, found, shown⟩ := requireRun_ok isBefore
  have admitted := requireOwner_eq_ok.mp owned
  rw [columns_of_toChatRun shown] at ended admitted
  refine ⟨row, found, admitted.owner, ?_⟩
  split at ended
  next cause isCause =>
    simp only [bind_eq_ok, throwWhen_eq_ok, pure_eq_ok, Prod.mk.injEq, bne_eq_false_iff_eq] at ended
    obtain ⟨_, same, _, rfl⟩ := ended
    exact .inr ⟨by rw [isCause, same], rfl⟩
  next unfinished =>
    simp only [bind_eq_ok, pure_eq_ok, Prod.mk.injEq] at ended
    obtain ⟨_, isRead, _, rfl⟩ := ended
    exact .inl ⟨unfinished, rfl, requireRun_update (fun _ => rfl) found isRead⟩

end Calls

namespace ChatRunRecorder

variable {format : EventFormat} {moment : Moment} {recorder : ChatRunRecorder} {store : ChatJournalStore}

/-- What an operation writes, under the identity of its recorder. -/
structure Writes (format : EventFormat) (now : Int) (recorder : ChatRunRecorder) (store : ChatJournalStore) (recorded : Recorded) :
    Prop where
  identity : recorded.recorder.toRecorderIdentity = recorder.toRecorderIdentity
  course : Course format recorder.ownerEpoch now store recorded.store

theorem writes_done (format : EventFormat) (now : Int) (recorder : ChatRunRecorder) (store : ChatJournalStore) :
    Writes format now recorder store (.done recorder store) := ⟨rfl, .refl⟩

theorem writes_fail (format : EventFormat) (now : Int) (recorder : ChatRunRecorder) (store : ChatJournalStore) (failure : Thrown) :
    Writes format now recorder store (.fail recorder store failure) := ⟨rfl, .refl⟩

theorem writes_rest (format : EventFormat) (moment : Moment) (recorder : ChatRunRecorder) (store : ChatJournalStore) :
    Writes format moment.now recorder store (recorder.settleRest moment store) := ⟨rfl, .refl⟩

variable {now : Int} {recorded : Recorded} {next : ChatRunRecorder → ChatJournalStore → Recorded}

theorem Writes.andThen (writes : Writes format now recorder store recorded)
    (more : ∀ later middle, Writes format now later middle (next later middle)) :
    Writes format now recorder store (recorded.andThen next) := by
  unfold Recorded.andThen
  cases recorded.outcome with
  | error failure => exact writes
  | ok _ =>
    obtain ⟨identity, course⟩ := more recorded.recorder recorded.store
    refine ⟨identity.trans writes.identity, writes.course.trans ?_⟩
    rwa [writes.identity] at course

theorem andThen_ok
    (succeeded : (recorded.andThen next).outcome = .ok ()) :
    recorded.outcome = .ok () ∧ recorded.andThen next = next recorded.recorder recorded.store := by
  unfold Recorded.andThen at *
  cases isOutcome : recorded.outcome with
  | error failure =>
    rw [isOutcome] at succeeded
    exact absurd (isOutcome.symm.trans succeeded) (by simp)
  | ok passed => exact ⟨rfl, rfl⟩

theorem transaction_ok {latestSequence : Nat}
    (succeeded : (recorded.transaction latestSequence store).outcome = .ok ()) :
    recorded.outcome = .ok () ∧ recorded.transaction latestSequence store = recorded := by
  unfold Recorded.transaction at *
  split
  next isOutcome => exact ⟨isOutcome, rfl⟩
  next failed =>
    rw [failed] at succeeded
    cases succeeded

theorem Writes.transaction (writes : Writes format now recorder store recorded) (latestSequence : Nat) :
    Writes format now recorder store (recorded.transaction latestSequence store) := by
  unfold Recorded.transaction
  cases recorded.outcome with
  | error failure => exact ⟨writes.identity, .refl⟩
  | ok _ => exact writes

/-! ## One event -/

theorem commit_effect (format : EventFormat) (moment : Moment) (kind : String) (fields : EvidenceFields)
    (occurredAtUtc eventId : String) (recorder : ChatRunRecorder) (store : ChatJournalStore) :
    (recorder.commit format moment kind fields occurredAtUtc eventId store).recorder.toRecorderIdentity =
        recorder.toRecorderIdentity ∧
      Effect format.journal store (.append (recorder.write (fields.event kind) occurredAtUtc eventId) (fields.event_proper kind) moment.now)
        (recorder.commit format moment kind fields occurredAtUtc eventId store).store := by
  unfold commit
  cases recorder.refusal kind with
  | some reason => exact ⟨rfl, .nothing _⟩
  | none =>
    cases moment.storage eventId with
    | some message => exact ⟨rfl, .nothing _⟩
    | none =>
      cases appended : store.append format.journal (recorder.write (fields.event kind) occurredAtUtc eventId) moment.now with
      | error failure => exact ⟨rfl, .nothing _⟩
      | ok answer => exact ⟨rfl, append_effect (fields.event_proper kind) appended⟩

theorem writes_commit (format : EventFormat) (moment : Moment) (kind : String) (notEnd : kind ≠ "run_finished")
    (fields : EvidenceFields) (occurredAtUtc eventId : String) (recorder : ChatRunRecorder) (store : ChatJournalStore) :
    Writes format moment.now recorder store (recorder.commit format moment kind fields occurredAtUtc eventId store) := by
  obtain ⟨identity, effect⟩ := commit_effect format moment kind fields occurredAtUtc eventId recorder store
  have isOwn : JournalCall.IsOwn store recorder.ownerEpoch moment.now
      (.append (recorder.write (fields.event kind) occurredAtUtc eventId) (fields.event_proper kind) moment.now) :=
    ⟨⟨rfl, rfl⟩, by simpa [write] using notEnd⟩
  exact ⟨identity, .single (.call effect isOwn)⟩

theorem writes_commitNext (format : EventFormat) (moment : Moment) (kind : String) (notEnd : kind ≠ "run_finished")
    (fields : EvidenceFields) (recorder : ChatRunRecorder) (store : ChatJournalStore) :
    Writes format moment.now recorder store (recorder.commitNext format moment kind fields store) :=
  writes_commit format moment kind notEnd fields _ _ recorder store

/-! ## Operations -/

theorem writes_commitContext (format : EventFormat) (moment : Moment) (sanitized : Except Thrown EvidenceFields)
    {write : EvidenceFields → ChatRunRecorder → ChatJournalStore → Recorded}
    (writes : ∀ fields recorder store, Writes format moment.now recorder store (write fields recorder store))
    (recorder : ChatRunRecorder) (store : ChatJournalStore) :
    Writes format moment.now recorder store (recorder.commitContext moment sanitized write store) := by
  apply Writes.transaction
  cases sanitized with
  | error failure => exact writes_fail format moment.now recorder store failure
  | ok fields => exact (writes fields recorder store).andThen (writes_rest format moment)

theorem commit_owned {kind : String} {fields : EvidenceFields} {occurredAtUtc eventId : String}
    (succeeded : (recorder.commit format moment kind fields occurredAtUtc eventId store).outcome = .ok ()) :
    ∃ row, IsRow (recorder.commit format moment kind fields occurredAtUtc eventId store).store recorder.operationId row ∧
      row.ownerEpoch = recorder.ownerEpoch := by
  unfold commit at *
  cases refused : recorder.refusal kind with
  | some reason =>
    rw [refused] at succeeded
    cases succeeded
  | none =>
    rw [refused] at succeeded
    cases stored : moment.storage eventId with
    | some message =>
      simp only [stored] at succeeded
      cases succeeded
    | none =>
      simp only [stored] at succeeded ⊢
      cases appended : store.append format.journal (recorder.write (fields.event kind) occurredAtUtc eventId) moment.now with
      | error failure =>
        rw [appended] at succeeded
        cases succeeded
      | ok answer => exact append_owned (fields.event_proper kind) appended

theorem writes_context_spliced (format : EventFormat) (moment : Moment) (fields : EvidenceFields) (recorder : ChatRunRecorder)
    (store : ChatJournalStore) : Writes format moment.now recorder store
      ((recorder.commitNext format moment "context_spliced" fields store).andThen
        (advanceContextRevision format (contextRevisionOf fields))) := by
  have writes := writes_commitNext format moment "context_spliced" (by decide) fields recorder store
  have owned := @commit_owned format moment recorder store "context_spliced" fields moment.nowUtc recorder.nextEventId
  rw [← commitNext] at owned
  generalize recorder.commitNext format moment "context_spliced" fields store = recorded at writes owned
  obtain ⟨later, middle, answer⟩ := recorded
  cases answer with
  | error failure => exact writes
  | ok _ =>
    obtain ⟨row, isRow, owner⟩ := owned rfl
    obtain ⟨identity, course⟩ := writes
    simp only at identity course isRow
    simp only [Recorded.andThen, advanceContextRevision]
    cases advanced : middle.advanceContextRevision format.journal ⟨later.operationId, contextRevisionOf fields⟩ with
    | error failure => exact ⟨identity, course⟩
    | ok after =>
      have effect := effect_of_call format.journal middle (.advanceContextRevision ⟨later.operationId, contextRevisionOf fields⟩)
      rw [perform, advanced] at effect
      refine ⟨identity, course.tail (.call effect ⟨row, ?_, owner⟩)⟩
      rwa [← (RecorderIdentity.mk.inj identity).1] at isRow

theorem writes_bindOnce (format : EventFormat) (moment : Moment) (binding : ChatRunEngineBinding) (recorder : ChatRunRecorder)
    (store : ChatJournalStore) : Writes format moment.now recorder store (recorder.bindOnce format moment binding store) := by
  unfold bindOnce
  cases store.readRun format.journal recorder.operationId with
  | error failure => exact writes_fail format moment.now recorder store failure
  | ok before =>
    simp only
    cases isBound : store.bindEngine format.journal
        ⟨recorder.operationId, recorder.ownerEpoch, binding.requestId, binding.repoAgentSessionId⟩ moment.now with
    | error failure => exact writes_fail format moment.now recorder store failure
    | ok answer =>
      obtain ⟨run, bound⟩ := answer
      have step : Course format recorder.ownerEpoch moment.now store bound := .single (.call (bindEngine_effect isBound) ⟨rfl, rfl⟩)
      simp only
      split
      · exact ⟨rfl, step⟩
      · obtain ⟨identity, course⟩ := writes_commitNext format moment "engine_bound" (by decide) binding.fields recorder bound
        exact ⟨identity, step.trans course⟩

theorem writes_deliverAll (format : EventFormat) (moment : Moment) (messages : List EvidenceFields) (recorder : ChatRunRecorder)
    (store : ChatJournalStore) : Writes format moment.now recorder store (deliverAll format moment messages recorder store) := by
  induction messages generalizing recorder store with
  | nil => exact writes_done format moment.now recorder store
  | cons message rest ih =>
    exact (writes_commitNext format moment "queue_delivered" (by decide) message recorder store).andThen ih

theorem writes_claimQueuedMessages (format : EventFormat) (moment : Moment) (claim : QueueClaim) (recorder : ChatRunRecorder)
    (store : ChatJournalStore) :
    Writes format moment.now recorder store (recorder.claimQueuedMessages format moment claim store) := by
  unfold claimQueuedMessages
  split
  · exact writes_fail format moment.now recorder store _
  · apply Writes.transaction
    cases recorder.checkClaim format claim store with
    | error failure => exact writes_fail format moment.now recorder store failure
    | ok messages => exact (writes_deliverAll format moment messages recorder store).andThen (writes_rest format moment)

theorem writes_requestUserStop (format : EventFormat) (moment : Moment) (recorder : ChatRunRecorder) (store : ChatJournalStore) :
    Writes format moment.now recorder store (recorder.requestUserStop format moment store) := by
  unfold requestUserStop
  split
  · exact writes_done format moment.now recorder store
  · split
    · exact writes_fail format moment.now recorder store _
    · exact writes_fail format moment.now recorder store _
    · split
      · exact writes_done format moment.now recorder store
      · exact writes_commitNext format moment "stop_requested" (by decide) _ recorder store

/-! ## The end of a run -/

theorem writes_closeRow (format : EventFormat) (moment : Moment) (cause : ChatRunTerminalCause) (recorder : ChatRunRecorder)
    (store : ChatJournalStore) : Writes format moment.now recorder store (recorder.closeRow format moment cause store) := by
  unfold closeRow
  cases ended : store.finish format.journal ⟨recorder.operationId, recorder.ownerEpoch, cause, moment.nowUtc⟩ moment.now with
  | error failure => exact writes_fail format moment.now recorder store failure
  | ok answer => exact ⟨rfl, .single (.call (finish_effect ended) ⟨rfl, rfl⟩)⟩

theorem course_end {write : ChatJournalAppend} {proper : Proper write.event} {outcome : ChatRunFinish}
    {middle after : ChatJournalStore} {run : ChatRun} (isEnd : isKind "run_finished" write.event = true)
    (cause : causeOf write.event = .string (utf16 (causeName outcome.terminalCause)))
    (sameRun : outcome.operationId = write.operationId) (sameOwner : outcome.ownerEpoch = write.ownerEpoch)
    (effect : Effect format.journal store (.append write proper now) middle)
    (ended : middle.finish format.journal outcome now = .ok (run, after)) :
    Course format write.ownerEpoch now store after := by
  cases effect with
  | nothing => exact .single (.call (finish_effect ended) ⟨sameOwner, rfl⟩)
  | @appended _ _ _ before row isRow admitted unfinished isNext =>
    obtain ⟨last, isLast, _, ends⟩ := journalFinish_ok ended
    have isBefore := isRow
    rw [← isNext.operationId] at isRow
    rw [sameRun, ← isNext.operationId, IsRow, isRow_withEvent isRow, Option.some_inj] at isLast
    subst isLast
    cases ends with
    | inl ends =>
      obtain ⟨_, rfl, reads⟩ := ends
      exact .single (.ended ⟨isBefore, admitted, unfinished, proper, isNext, sameRun, rfl, sameOwner, isEnd, cause, reads⟩)
    | inr already =>
      -- The run had not ended before its last event.
      rw [advanceRow, unfinished] at already
      cases already.1

/-- What an operation writes unless it fails: then its transaction takes it back. -/
structure Attempts (format : EventFormat) (now : Int) (recorder : ChatRunRecorder) (store : ChatJournalStore) (recorded : Recorded) :
    Prop where
  identity : recorded.recorder.toRecorderIdentity = recorder.toRecorderIdentity
  course : recorded.outcome = .ok () → Course format recorder.ownerEpoch now store recorded.store

theorem Writes.attempts (writes : Writes format now recorder store recorded) :
    Attempts format now recorder store recorded := ⟨writes.identity, fun _ => writes.course⟩

theorem Attempts.transaction (attempts : Attempts format now recorder store recorded) (latestSequence : Nat) :
    Writes format now recorder store (recorded.transaction latestSequence store) := by
  unfold Recorded.transaction
  split
  next succeeded => exact ⟨attempts.identity, attempts.course succeeded⟩
  · exact ⟨attempts.identity, .refl⟩

theorem Attempts.rest (attempts : Attempts format moment.now recorder store recorded) :
    Attempts format moment.now recorder store (recorded.andThen (settleRest moment)) := by
  unfold Recorded.andThen
  split
  next succeeded => exact ⟨attempts.identity, fun _ => attempts.course succeeded⟩
  · exact attempts

theorem attempts_finishOnce (format : EventFormat) (moment : Moment) (outcome : ChatRunOutcome) (recorder : ChatRunRecorder)
    (store : ChatJournalStore) : Attempts format moment.now recorder store (recorder.finishOnce format moment outcome store) := by
  unfold finishOnce
  split
  · exact (writes_fail format moment.now recorder store _).attempts
  · split
    · have committed := commit_effect format moment "run_finished" (runFinishedFields outcome moment.nowUtc)
        moment.nowUtc recorder.nextEventId recorder store
      rw [← commitNext] at committed
      generalize recorder.commitNext format moment "run_finished" (runFinishedFields outcome moment.nowUtc) store = recorded
        at committed
      obtain ⟨later, middle, answer⟩ := recorded
      obtain ⟨identity, effect⟩ := committed
      cases answer with
      | error failure => exact ⟨identity, fun succeeded => (nomatch succeeded)⟩
      | ok _ =>
        simp only [Recorded.andThen, closeRow]
        split
        next ended =>
          obtain ⟨operationId, ownerEpoch, _⟩ := RecorderIdentity.mk.inj identity
          refine ⟨identity, fun _ => course_end ?_ ?_ operationId ownerEpoch effect ended⟩
          · exact (EvidenceFields.isKind_event _ _ _).trans (beq_self_eq_true _)
          · exact causeOf_runFinished outcome moment.nowUtc
        · exact ⟨identity, fun succeeded => (nomatch succeeded)⟩
    · exact (writes_closeRow format moment outcome.terminalCause recorder store).attempts

theorem writes_finish (format : EventFormat) (moment : Moment) (outcome : ChatRunOutcome) (recorder : ChatRunRecorder)
    (store : ChatJournalStore) : Writes format moment.now recorder store (recorder.finish format moment outcome store) := by
  unfold finish
  split
  · exact writes_fail format moment.now recorder store _
  · exact (attempts_finishOnce format moment _ recorder store).rest.transaction recorder.latestSequence

theorem writes_cancelUndispatchedSubmission (format : EventFormat) (moment : Moment) (recorder : ChatRunRecorder)
    (store : ChatJournalStore) :
    Writes format moment.now recorder store (recorder.cancelUndispatchedSubmission format moment store) := by
  unfold cancelUndispatchedSubmission
  split
  · exact writes_fail format moment.now recorder store _
  · exact (writes_commitNext format moment "submission_cancelled" (by decide) _ recorder store).andThen
      (writes_finish format moment cancelledOutcome)

theorem writes_recordToolStarted (format : EventFormat) (moment : Moment) (fields : EvidenceFields) (recorder : ChatRunRecorder)
    (store : ChatJournalStore) :
    Writes format moment.now recorder store (recorder.recordToolStarted format moment fields store) := by
  unfold recordToolStarted
  split
  · exact writes_fail format moment.now recorder store _
  · exact writes_commitNext format moment "tool_started" (by decide) fields recorder store

theorem writes_perform (format : EventFormat) (moment : Moment) (call : RecorderCall) (recorder : ChatRunRecorder)
    (store : ChatJournalStore) : Writes format moment.now recorder store (call.perform format moment recorder store) := by
  cases call with
  | recordDisplay fields => exact writes_commitNext format moment "display" (by decide) fields recorder store
  | recordPresentation fields => exact writes_commitNext format moment "presentation" (by decide) fields recorder store
  | recordToolProposed fields => exact writes_commitNext format moment "tool_proposed" (by decide) fields recorder store
  | recordToolStarted fields => exact writes_recordToolStarted format moment fields recorder store
  | recordToolResult fields => exact writes_commitNext format moment "tool_result" (by decide) fields recorder store
  | recordToolResultFinalized fields =>
    exact writes_commitNext format moment "tool_result_finalized" (by decide) fields recorder store
  | recordApprovalReviewed fields atUtc =>
    exact writes_commit format moment "approval_reviewed" (by decide) fields atUtc _ recorder store
  | recordApprovalRequested fields id atUtc =>
    exact writes_commit format moment "approval_requested" (by decide) fields atUtc _ recorder store
  | recordApprovalResolved fields id atUtc =>
    exact writes_commit format moment "approval_resolved" (by decide) fields atUtc _ recorder store
  | recordQuestionRequested fields id atUtc =>
    exact writes_commit format moment "question_requested" (by decide) fields atUtc _ recorder store
  | recordQuestionResolved fields id atUtc =>
    exact writes_commit format moment "question_resolved" (by decide) fields atUtc _ recorder store
  | recordContextInitialized sanitized =>
    exact writes_commitContext format moment sanitized
      (fun fields recorder store => writes_commitNext format moment "context_initialized" (by decide) fields recorder store) recorder store
  | recordContextSpliced sanitized =>
    exact writes_commitContext format moment sanitized (writes_context_spliced format moment) recorder store
  | recordModelAdmitted admitted =>
    apply Writes.transaction
    exact (writes_commitNext format moment "model_admitted" (by decide) admitted.fields recorder store).andThen
      (writes_rest format moment)
  | bindEngine binding =>
    apply Writes.transaction
    exact (writes_bindOnce format moment binding recorder store).andThen (writes_rest format moment)
  | claimQueuedMessages claim => exact writes_claimQueuedMessages format moment claim recorder store
  | requestUserStop => exact writes_requestUserStop format moment recorder store
  | cancelUndispatchedSubmission => exact writes_cancelUndispatchedSubmission format moment recorder store
  | finish outcome => exact writes_finish format moment outcome recorder store
  | abortForStorageFailure message => exact ⟨rfl, .refl⟩
  | markSessionDeleted => exact ⟨rfl, .refl⟩

/-! ## The beginning of a run -/

theorem begin_course {start : Start} {after : ChatJournalStore} (began : begin format moment start store = .ok (recorder, after)) :
    Course format start.ownerEpoch moment.now store after := by
  simp only [begin, bind_eq_ok, pure_eq_ok, Prod.mk.injEq] at began
  obtain ⟨answer, isBegun, _, _, _, _, _, rfl⟩ := began
  obtain ⟨identity, course⟩ := writes_commit format moment "run_started" (by decide) (start.fields answer.1.runOrder)
    start.startedAtUtc (create start.operationId start.ownerEpoch start.sessionId).nextEventId
    (create start.operationId start.ownerEpoch start.sessionId) answer.2
  exact (Relation.ReflTransGen.single (.call (begin_effect isBegun) rfl)).trans course

end ChatRunRecorder

end SiftKit.Chat
