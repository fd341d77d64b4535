import SiftKit.Chat.RecorderReplay

/-! # The recorder against its journal

After every operation a recorder knows what `resume` would build from the committed events, but for one
kind of operation: an event that was written before the rest of its transaction failed stays in memory.
-/

namespace SiftKit.Chat

open SiftKit.Json SiftKit.Json.Schema SiftKit.Failure SiftKit.Tables SiftKit.Runs ChatJournalStore ChatRunRecorder

variable {format : EventFormat} {moment : Moment} {recorder : ChatRunRecorder} {store after : ChatJournalStore}

/-! ## Operations that tell the recorder nothing, or write one event -/

theorem steady_commitNext (uuids : UuidText format.strings) (tracked : Tracked format recorder store) (moment : Moment) (kind : String)
    (fields : EvidenceFields) : Steady format recorder (recorder.commitNext format moment kind fields store) :=
  commit_steady uuids tracked (.place rfl) moment fields _

theorem quiet_commitNext (uuids : UuidText format.strings) (tracked : Tracked format recorder store) (moment : Moment) {kind : String}
    (unlearned : kind ∉ RunMemory.learnedKinds) (fields : EvidenceFields) :
    Quiet format recorder (recorder.commitNext format moment kind fields store) :=
  commit_quiet uuids tracked (.place rfl) unlearned moment fields _

theorem quiet_subject (uuids : UuidText format.strings) (tracked : Tracked format recorder store) (moment : Moment) {kind : String}
    (known : kind ∈ subjects) (fields : EvidenceFields) (occurredAtUtc id : String) :
    Quiet format recorder (recorder.commit format moment kind fields occurredAtUtc (kind ++ ":" ++ id) store) := by
  have unlearned : kind ∉ RunMemory.learnedKinds := by
    simp only [subjects, List.mem_cons, List.not_mem_nil, or_false] at known
    obtain rfl | rfl | rfl | rfl := known <;> decide
  exact commit_quiet uuids tracked (.subject known id rfl unlearned) unlearned moment fields _

theorem quiet_bindOnce (uuids : UuidText format.strings) (tracked : Tracked format recorder store) (moment : Moment)
    (binding : ChatRunEngineBinding) : Quiet format recorder (recorder.bindOnce format moment binding store) := by
  unfold bindOnce
  cases store.readRun format.journal recorder.operationId with
  | error failure => exact quiet_fail tracked failure
  | ok before =>
    simp only
    cases isBound : store.bindEngine format.journal
        ⟨recorder.operationId, recorder.ownerEpoch, binding.requestId, binding.repoAgentSessionId⟩ moment.now with
    | error failure => exact quiet_fail tracked failure
    | ok answer =>
      have bound := tracked.spared (bindEngine_effect isBound) trivial
      simp only
      split
      · exact quiet_done bound
      · have committed : Quiet format recorder (recorder.commitNext format moment "engine_bound" binding.fields answer.2) :=
          quiet_commitNext uuids bound moment (by decide) binding.fields
        exact committed

theorem quiet_deliverAll (uuids : UuidText format.strings) (moment : Moment) (messages : List EvidenceFields)
    {recorder : ChatRunRecorder} {store : ChatJournalStore} (tracked : Tracked format recorder store) :
    Quiet format recorder (deliverAll format moment messages recorder store) := by
  induction messages generalizing recorder store with
  | nil => exact quiet_done tracked
  | cons message rest ih =>
    exact (quiet_commitNext uuids tracked moment (by decide) message).andThen ih

theorem quiet_claimQueuedMessages (uuids : UuidText format.strings) (tracked : Tracked format recorder store) (moment : Moment)
    (claim : QueueClaim) : Quiet format recorder (recorder.claimQueuedMessages format moment claim store) := by
  unfold claimQueuedMessages
  split
  · exact quiet_fail tracked _
  · refine Quiet.transaction ?_ tracked
    cases recorder.checkClaim format claim store with
    | error failure => exact quiet_fail tracked failure
    | ok messages => exact (quiet_deliverAll uuids moment messages tracked).andThen fun later => quiet_rest later moment

theorem quiet_closeRow (tracked : Tracked format recorder store) (moment : Moment) (cause : ChatRunTerminalCause) :
    Quiet format recorder (recorder.closeRow format moment cause store) := by
  unfold closeRow
  cases ended : store.finish format.journal ⟨recorder.operationId, recorder.ownerEpoch, cause, moment.nowUtc⟩ moment.now with
  | error failure => exact quiet_fail tracked failure
  | ok answer => exact quiet_done (tracked.spared (finish_effect ended) trivial)

theorem quiet_finish (uuids : UuidText format.strings) (tracked : Tracked format recorder store) (moment : Moment)
    (outcome : ChatRunOutcome) : Quiet format recorder (recorder.finish format moment outcome store) := by
  unfold ChatRunRecorder.finish
  split
  · exact quiet_fail tracked _
  · refine Quiet.transaction ?_ tracked
    refine Quiet.andThen ?_ fun later => quiet_rest later moment
    unfold finishOnce
    split
    · exact quiet_fail tracked _
    · refine Quiet.andThen ?_ fun later => quiet_closeRow later moment _
      split
      · exact quiet_commitNext uuids tracked moment (by decide) _
      · exact quiet_done tracked

theorem quiet_cancelUndispatchedSubmission (uuids : UuidText format.strings) (tracked : Tracked format recorder store) (moment : Moment) :
    Quiet format recorder (recorder.cancelUndispatchedSubmission format moment store) := by
  unfold cancelUndispatchedSubmission
  split
  · exact quiet_fail tracked _
  · exact (quiet_commitNext uuids tracked moment (by decide) _).andThen fun later =>
      quiet_finish uuids later moment cancelledOutcome

theorem steady_requestUserStop (uuids : UuidText format.strings) (tracked : Tracked format recorder store) (moment : Moment) :
    Steady format recorder (recorder.requestUserStop format moment store) := by
  unfold requestUserStop
  split
  · exact (quiet_done tracked).toSteady
  · split
    · exact (quiet_fail tracked _).toSteady
    · exact (quiet_fail tracked _).toSteady
    · split
      · exact (quiet_done tracked).toSteady
      · exact steady_commitNext uuids tracked moment "stop_requested" _

theorem quiet_recordToolStarted (uuids : UuidText format.strings) (tracked : Tracked format recorder store) (moment : Moment)
    (fields : EvidenceFields) : Quiet format recorder (recorder.recordToolStarted format moment fields store) := by
  unfold recordToolStarted
  split
  · exact quiet_fail tracked _
  · exact quiet_commitNext uuids tracked moment (by decide) fields

theorem advanceContextRevision_done (tracked : Tracked format recorder store) (contextRevision : Nat) :
    ∃ after, recorder.advanceContextRevision format contextRevision store = .done recorder after ∧ Tracked format recorder after := by
  obtain ⟨row, isRow, _⟩ := tracked.row
  obtain ⟨run, isRun⟩ := tracked.wellFormed.reads row isRow.mem
  have advanced : store.advanceContextRevision format.journal ⟨recorder.operationId, contextRevision⟩ =
      .ok (store.updateRun recorder.operationId (reviseRow ⟨recorder.operationId, contextRevision⟩)) := by
    rw [ChatJournalStore.advanceContextRevision, requireRun_of_readsBack isRow isRun]
    rfl
  refine ⟨_, ?_, tracked.spared (.revised ⟨recorder.operationId, contextRevision⟩) trivial⟩
  rw [ChatRunRecorder.advanceContextRevision, advanced]

/-! ## Resuming -/

/-- `resume` would build what the recorder knows. -/
structure Resumes (recorder resumed : ChatRunRecorder) : Prop where
  operationId : resumed.operationId = recorder.operationId
  ownerEpoch : resumed.ownerEpoch = recorder.ownerEpoch
  latestSequence : resumed.latestSequence = recorder.latestSequence
  memory : resumed.memory.shown = recorder.memory.shown

def InStep (format : EventFormat) (recorder : ChatRunRecorder) (store : ChatJournalStore) : Prop :=
  ∃ resumed, resume format store recorder.operationId recorder.ownerEpoch = .ok resumed ∧ Resumes recorder resumed

theorem readAll_ok (wellFormed : WellFormed format.journal store) {row : RunRow} (member : row ∈ store.runs)
    {envelopes : List ChatJournalEnvelope} (read : (store.eventsOf row.operationId).mapM (toEnvelope format.journal) = .ok envelopes) :
    readAll format store row.operationId = .ok envelopes := by
  obtain ⟨run, isRun⟩ := wellFormed.reads row member
  have counted := wellFormed.length_eventsOf member
  have latest : run.latestSequence = row.latestSequence := by rw [columns_of_toChatRun isRun]
  have numbered : NumberedFrom 1 (store.eventsOf row.operationId) := by
    rw [NumberedFrom, counted]
    exact wellFormed.numbered row member
  have sees : Sees (fun _ => store) row.operationId (store.eventsOf row.operationId) := sees_run wellFormed member fun _ => []
  have whole : readThrough format.journal (fun _ => store) row.operationId 0 row.latestSequence =
      ⟨(envelopes.take row.latestSequence).drop 0, .ok row.latestSequence⟩ :=
    readThroughPaged_eq sees numbered read (by decide) (wellFormed.isUuid member) (by omega) (Nat.zero_le _)
  have all : (envelopes.take row.latestSequence).drop 0 = envelopes := by
    have sameLength := (mapM_eq_ok.mp read).length_eq
    rw [List.drop_zero, List.take_of_length_le (by omega)]
  rw [readAll, requireRun_of_readsBack (wellFormed.isRow member) isRun]
  simp only [bind, Except.bind, latest, whole, all]
  rfl

theorem Tracked.inStep (tracked : Tracked format recorder store) : InStep format recorder store := by
  obtain ⟨row, isRow, owner, settings, latest⟩ := tracked.row
  obtain ⟨envelopes, read, memory⟩ := tracked.memory
  obtain ⟨run, isRun⟩ := tracked.wellFormed.reads row isRow.mem
  have columns := columns_of_toChatRun isRun
  have found : store.readRun format.journal recorder.operationId = .ok (some run) := readRun_of_readsBack isRow isRun
  have runOwner : run.ownerEpoch = recorder.ownerEpoch := by rw [columns, owner]
  have runLatest : run.latestSequence = recorder.latestSequence := by rw [columns, latest]
  have given : run.settings.isNone = false := by
    have isSettings := (toChatRun_eq_ok.mp isRun).1.1
    obtain ⟨raw, isRaw⟩ := Option.isSome_iff_exists.mp settings
    rw [isRaw, parseJsonColumn] at isSettings
    obtain ⟨parsed, _, same⟩ := map_eq_ok.mp isSettings
    rw [← same]
    rfl
  have all : readAll format store recorder.operationId = .ok envelopes := by
    rw [← isRow.operationId] at read ⊢
    exact readAll_ok tracked.wellFormed isRow.mem read
  refine ⟨{ create recorder.operationId recorder.ownerEpoch run.sessionId with
    latestSequence := run.latestSequence
    memory := RunMemory.replay recorder.operationId .fresh envelopes }, ?_, rfl, rfl, runLatest, memory⟩
  rw [resume, found]
  simp only [bind, Except.bind, Option.elim, runOwner, bne_self_eq_false, given, throwWhen, Bool.false_eq_true, if_false, all]
  rfl

/-- What `resume` builds is in step. -/
theorem Tracked.resumed (tracked : Tracked format recorder store) {resumed : ChatRunRecorder}
    (isResumed : resume format store recorder.operationId recorder.ownerEpoch = .ok resumed) : Tracked format resumed store := by
  obtain ⟨other, isOther, resumes⟩ := tracked.inStep
  obtain rfl := Except.ok.inj (isResumed.symm.trans isOther)
  exact tracked.congr resumes.operationId resumes.ownerEpoch resumes.latestSequence resumes.memory

theorem InStep.memory {other : ChatRunRecorder} (inStep : InStep format recorder store) (otherInStep : InStep format other store)
    (operationId : other.operationId = recorder.operationId) (ownerEpoch : other.ownerEpoch = recorder.ownerEpoch) :
    other.memory.shown = recorder.memory.shown := by
  obtain ⟨resumed, isResumed, resumes⟩ := inStep
  obtain ⟨again, isAgain, resumesAgain⟩ := otherInStep
  rw [operationId, ownerEpoch] at isAgain
  obtain rfl := Except.ok.inj (isResumed.symm.trans isAgain)
  exact resumesAgain.memory.symm.trans resumes.memory

/-! ## Events within a wider transaction -/

/-- The rest of the transaction succeeds, or the event is refused, or it tells the recorder nothing new. -/
def Harmless (format : EventFormat) (moment : Moment) (recorder : ChatRunRecorder) (store : ChatJournalStore) (kind : String)
    (fields : EvidenceFields) : Prop :=
  moment.rest = .ok () ∨ (recorder.commitNext format moment kind fields store).outcome ≠ .ok () ∨
    ∀ parsed, format.journal.events.parse (fields.event kind) = some parsed →
      (recorder.memory.observeCommitted recorder.operationId parsed).shown = recorder.memory.shown

theorem told_transaction (uuids : UuidText format.strings) (tracked : Tracked format recorder store) {kind : String}
    (learned : kind ∈ RunMemory.learnedKinds) (fields : EvidenceFields) {tail : ChatRunRecorder → ChatJournalStore → Recorded}
    (rest : ∀ {later middle}, Tracked format later middle → Quiet format later (tail later middle) ∧
      (tail later middle).outcome = moment.rest) {result : Recorded}
    (isResult : result = ((recorder.commitNext format moment kind fields store).andThen tail).transaction recorder.latestSequence store) :
    (Harmless format moment recorder store kind fields → Tracked format result.recorder result.store) ∧
      (InStep format result.recorder result.store → Harmless format moment recorder store kind fields) := by
  have committed := steady_commitNext uuids tracked moment kind fields
  by_cases succeeded : (recorder.commitNext format moment kind fields store).outcome = .ok ()
  · obtain ⟨parsed, accepted, told⟩ := commit_told uuids tracked (.place rfl) learned succeeded
    rw [← commitNext] at told
    have refuses : Harmless format moment recorder store kind fields →
        moment.rest = .ok () ∨ (recorder.memory.observeCommitted recorder.operationId parsed).shown = recorder.memory.shown := by
      intro harmless
      obtain isDone | isRefused | tellsNothing := harmless
      · exact .inl isDone
      · exact absurd succeeded isRefused
      · exact .inr (tellsNothing parsed accepted)
    have sequel : (recorder.commitNext format moment kind fields store).andThen tail =
        tail (recorder.commitNext format moment kind fields store).recorder
          (recorder.commitNext format moment kind fields store).store := by
      rw [Recorded.andThen, succeeded]
    obtain ⟨quiet, outcome⟩ := rest committed.tracked
    rw [sequel] at isResult
    generalize tail _ _ = ended at isResult quiet outcome
    rw [Recorded.transaction, outcome] at isResult
    cases isRest : moment.rest with
    | ok passed =>
      rw [isRest] at isResult
      rw [isResult]
      exact ⟨fun _ => quiet.tracked, fun _ => .inl isRest⟩
    | error failure =>
      -- The store and the sequence are as they were, the memory is not.
      rw [isRest] at isResult
      rw [isRest] at refuses
      obtain ⟨operationId, ownerEpoch, _⟩ := RecorderIdentity.mk.inj (quiet.identity.trans committed.identity)
      have memory := quiet.memory.trans told
      rw [isResult]
      constructor
      · intro harmless
        obtain impossible | unchanged := refuses harmless
        · cases impossible
        · exact tracked.congr operationId ownerEpoch rfl (memory.trans unchanged)
      · intro inStep
        refine .inr (.inr fun other isOther => ?_)
        obtain rfl := Option.some_inj.mp (accepted.symm.trans isOther)
        have settled : InStep format { ended.recorder with latestSequence := recorder.latestSequence } store := inStep
        have known := tracked.inStep.memory settled operationId ownerEpoch
        exact memory.symm.trans known
  · refine ⟨fun _ => ?_, fun _ => .inr (.inl succeeded)⟩
    have unchanged := commit_failed succeeded
    rw [← commitNext] at unchanged
    obtain ⟨operationId, ownerEpoch, _⟩ := RecorderIdentity.mk.inj committed.identity
    cases failed : (recorder.commitNext format moment kind fields store).outcome with
    | ok passed => exact absurd failed succeeded
    | error failure =>
      rw [Recorded.andThen, failed, Recorded.transaction, failed] at isResult
      rw [isResult]
      exact tracked.congr operationId ownerEpoch rfl (congrArg RunMemory.shown unchanged)

theorem andThen_assoc (recorded : Recorded) (next last : ChatRunRecorder → ChatJournalStore → Recorded) :
    (recorded.andThen next).andThen last = recorded.andThen fun later middle => (next later middle).andThen last := by
  unfold Recorded.andThen
  cases isOutcome : recorded.outcome with
  | ok passed => rfl
  | error failure => rw [isOutcome]

/-! ## Operations -/

/-- When an operation leaves the recorder in step. -/
def RecorderCall.Calm (format : EventFormat) (moment : Moment) (recorder : ChatRunRecorder) (store : ChatJournalStore) :
    RecorderCall → Prop
  | .recordContextInitialized (.ok fields) => Harmless format moment recorder store "context_initialized" fields
  | .recordContextSpliced (.ok fields) => Harmless format moment recorder store "context_spliced" fields
  | .recordModelAdmitted admitted => Harmless format moment recorder store "model_admitted" admitted.fields
  | _ => True

theorem perform_tracked (uuids : UuidText format.strings) (tracked : Tracked format recorder store) (moment : Moment) (call : RecorderCall) :
    (call.Calm format moment recorder store →
        Tracked format (call.perform format moment recorder store).recorder (call.perform format moment recorder store).store) ∧
      (InStep format (call.perform format moment recorder store).recorder (call.perform format moment recorder store).store →
        call.Calm format moment recorder store) := by
  have steady : ∀ {recorded : Recorded}, Steady format recorder recorded → (True → Tracked format recorded.recorder recorded.store) ∧
      (InStep format recorded.recorder recorded.store → True) := fun steady => ⟨fun _ => steady.tracked, fun _ => trivial⟩
  have quiet : ∀ {recorded : Recorded}, Quiet format recorder recorded → (True → Tracked format recorded.recorder recorded.store) ∧
      (InStep format recorded.recorder recorded.store → True) := fun quiet => steady quiet.toSteady
  have sequenced := fun kind fields => steady (steady_commitNext uuids tracked moment kind fields)
  have subject := fun kind known fields atUtc id => quiet (@quiet_subject format recorder store uuids tracked moment kind known fields atUtc id)
  have ended : ∀ {later middle}, Tracked format later middle → Quiet format later (settleRest moment later middle) ∧
      (settleRest moment later middle).outcome = moment.rest := fun later => ⟨quiet_rest later moment, rfl⟩
  cases call with
  | recordDisplay fields => exact sequenced "display" fields
  | recordPresentation fields => exact sequenced "presentation" fields
  | recordToolProposed fields => exact sequenced "tool_proposed" fields
  | recordToolStarted fields => exact quiet (quiet_recordToolStarted uuids tracked moment fields)
  | recordToolResult fields => exact sequenced "tool_result" fields
  | recordToolResultFinalized fields => exact sequenced "tool_result_finalized" fields
  | recordApprovalReviewed fields atUtc => exact steady (commit_steady uuids tracked (.place rfl) moment fields atUtc)
  | recordApprovalRequested fields id atUtc => exact subject "approval_requested" (by decide) fields atUtc id
  | recordApprovalResolved fields id atUtc => exact subject "approval_resolved" (by decide) fields atUtc id
  | recordQuestionRequested fields id atUtc => exact subject "question_requested" (by decide) fields atUtc id
  | recordQuestionResolved fields id atUtc => exact subject "question_resolved" (by decide) fields atUtc id
  | recordContextInitialized sanitized =>
    cases sanitized with
    | error failure => exact quiet ((quiet_fail tracked failure).transaction tracked)
    | ok fields => exact told_transaction uuids tracked (by decide) fields ended rfl
  | recordContextSpliced sanitized =>
    cases sanitized with
    | error failure => exact quiet ((quiet_fail tracked failure).transaction tracked)
    | ok fields =>
      have tail : ∀ {later middle}, Tracked format later middle →
          Quiet format later ((later.advanceContextRevision format (contextRevisionOf fields) middle).andThen (settleRest moment)) ∧
            ((later.advanceContextRevision format (contextRevisionOf fields) middle).andThen (settleRest moment)).outcome =
              moment.rest := by
        intro later middle isTracked
        obtain ⟨after, advanced, afterTracked⟩ := advanceContextRevision_done isTracked (contextRevisionOf fields)
        rw [advanced]
        exact ended afterTracked
      exact told_transaction uuids tracked (by decide) fields tail (congrArg (Recorded.transaction recorder.latestSequence store) (andThen_assoc _ _ _))
  | recordModelAdmitted admitted => exact told_transaction uuids tracked (by decide) admitted.fields ended rfl
  | bindEngine binding =>
    exact quiet (((quiet_bindOnce uuids tracked moment binding).andThen fun later => quiet_rest later moment).transaction tracked)
  | claimQueuedMessages claim => exact quiet (quiet_claimQueuedMessages uuids tracked moment claim)
  | requestUserStop => exact steady (steady_requestUserStop uuids tracked moment)
  | cancelUndispatchedSubmission => exact quiet (quiet_cancelUndispatchedSubmission uuids tracked moment)
  | finish outcome => exact quiet (quiet_finish uuids tracked moment outcome)
  | abortForStorageFailure message => exact steady ⟨tracked.congr rfl rfl rfl rfl, rfl⟩
  | markSessionDeleted => exact steady ⟨tracked.congr rfl rfl rfl rfl, rfl⟩

/-! ## The beginning -/

theorem begin_tracked (uuids : UuidText format.strings) (wellFormed : WellFormed format.journal store) {start : Start}
    (began : begin format moment start store = .ok (recorder, after)) : Tracked format recorder after := by
  simp only [ChatRunRecorder.begin, bind_eq_ok, pure_eq_ok, Prod.mk.injEq] at began
  obtain ⟨⟨run, begun⟩, isBegun, _, _, _, _, rfl, rfl⟩ := began
  obtain ⟨parsed, isParsed, fresh, reads, rfl⟩ := begin_ok isBegun
  obtain ⟨settings, provenance, isSettings, rfl⟩ := parse_start isParsed
  have absent := absent_of_fresh fresh
  have none := eventsOf_unknown wellFormed absent
  have begunWellFormed := wellFormed.begin fresh reads
  have isRow := begunWellFormed.isRow (List.mem_append_right store.runs (List.mem_singleton_self _))
  have created : Tracked format (create start.operationId start.ownerEpoch start.sessionId) { store with
      runs := store.runs ++ [store.startRow { start.run with settings := settings, provenance := provenance }] } := by
    refine ⟨begunWellFormed, ⟨_, isRow, rfl, ?_, rfl⟩, ⟨[], ?_, rfl⟩, ?_⟩
    · obtain ⟨value, _, rfl⟩ := Option.map_eq_some_iff.mp isSettings
      rfl
    · exact congrArg (List.mapM (toEnvelope format.journal)) none
    · intro event member
      have impossible : event ∈ store.eventsOf start.operationId := member
      rw [show store.eventsOf start.operationId = [] from none] at impossible
      cases impossible
  exact (commit_steady uuids created (.place rfl) moment (start.fields run.runOrder) start.startedAtUtc).tracked

/-! ## Runs -/

structure RecorderSystem where
  recorder : ChatRunRecorder
  store : ChatJournalStore

/-- An operation of the recorder, a recorder that takes the run over, or a call of the server that is
not about the events of the run. -/
inductive RecorderLabel where
  | operation (moment : Moment) (call : RecorderCall)
  | resume
  | elsewhere (call : JournalCall)

inductive RecorderStep (format : EventFormat) (system : RecorderSystem) : RecorderLabel → RecorderSystem → Prop where
  | operation (moment : Moment) (call : RecorderCall) : RecorderStep format system (.operation moment call)
      ⟨(call.perform format moment system.recorder system.store).recorder, (call.perform format moment system.recorder system.store).store⟩
  | resume {resumed : ChatRunRecorder}
      (isResumed : resume format system.store system.recorder.operationId system.recorder.ownerEpoch = .ok resumed) :
      RecorderStep format system .resume { system with recorder := resumed }
  | elsewhere (call : JournalCall) (spares : call.Spares system.recorder.operationId) :
      RecorderStep format system (.elsewhere call) { system with store := system.store.perform format.journal call }

/-- A run that was begun in a database that any calls made. -/
def Begun (format : EventFormat) (system : RecorderSystem) : Prop :=
  ∃ calls moment start, begin format moment start (run (perform format.journal) ChatJournalStore.empty calls) =
    .ok (system.recorder, system.store)

def RecorderLabel.Calm (format : EventFormat) (system : RecorderSystem) : RecorderLabel → Prop
  | .operation moment call => call.Calm format moment system.recorder system.store
  | _ => True

def CalmStep (format : EventFormat) (system : RecorderSystem) (label : RecorderLabel) (after : RecorderSystem) : Prop :=
  RecorderStep format system label after ∧ label.Calm format system

theorem step_tracked (uuids : UuidText format.strings) {system next : RecorderSystem} {label : RecorderLabel}
    (tracked : Tracked format system.recorder system.store) (step : RecorderStep format system label next) :
    (label.Calm format system → Tracked format next.recorder next.store) ∧
      (InStep format next.recorder next.store → label.Calm format system) := by
  cases step with
  | operation moment call => exact perform_tracked uuids tracked moment call
  | resume isResumed => exact ⟨fun _ => tracked.resumed isResumed, fun _ => trivial⟩
  | elsewhere call spares => exact ⟨fun _ => tracked.spared (effect_of_call format.journal system.store call) spares, fun _ => trivial⟩

def uuidFormats : StringFormats := ⟨fun text => text.length == 36 && text.all isUuidUnit, sampleFormats.datetime⟩

theorem uuidText_uuidFormats : UuidText uuidFormats := by
  intro text isUuid unit member
  simp only [uuidFormats, Bool.and_eq_true, List.all_eq_true] at isUuid
  exact isUuid.2 unit member

/-- The start of a run, with any JSON for its images and settings. -/
def runStartedVariant : Variant kindKey := .object kindKey ["run_started"] .strict ⟨[
  field "sessionId" nonEmpty, field "operationKind" anyString, field "runOrder" positiveInteger,
  field "userMessageId" nonEmpty, field "content" anyString, field "images" json, field "imageMeta" json,
  field "settings" jsonRecord, field "retainedHistoryRevision" nonnegativeInteger], by simp [field, utf16_inj]⟩

/-- The admission of a model, with any record for its preset. -/
def modelAdmittedVariant : Variant kindKey := .object kindKey ["model_admitted"] .strict ⟨[
  field "modelPreset" jsonRecord, field "contextWindowTokens" positiveInteger], by simp [field, utf16_inj]⟩

def sampleEvents : EventFormat where
  strings := uuidFormats
  others := [runStartedVariant, modelAdmittedVariant]
  settings := jsonRecord
  provenance := json
  sha256 := fun text => if text.length < 200 then "admission" else "start"

def sampleMoment : Moment := ⟨1000, "2026-01-01T00:00:01.000Z", fun _ => none, .ok ()⟩

def sampleRunStart : Start where
  operationId := "9f8e7d6c-5b4a-4392-a1b0-c9d8e7f6a5b4"
  ownerEpoch := "first:1"
  sessionId := "0b0e7c9a-6f3d-4b52-9a34-1c2d3e4f5a6b"
  operationKind := .message
  userMessageId := utf16 "7a1e2d3c-4b5f-4a69-8c7d-6e5f4a3b2c1d"
  content := utf16 "Explain the parser."
  images := .array []
  imageMeta := .array []
  settings := .object []
  proper := ⟨.array (fun _ member => nomatch member) (fun _ member => nomatch member),
    .array (fun _ member => nomatch member) (fun _ member => nomatch member), .object (by simp [keysOf]) (fun _ member => nomatch member)⟩
  retainedHistoryRevision := 0
  startedAtUtc := "2026-01-01T00:00:00.000Z"

def samplePreset : JsValue := .object [(utf16 "id", .string (utf16 "default"))]

def sampleAdmitted : AdmittedModel where
  modelPreset := samplePreset
  proper := .object (by simp [keysOf]) fun entry member => by
    rw [List.mem_singleton.mp member]
    exact .string _
  contextWindowTokens := 32000

/-- The session was deleted meanwhile, so it has no row to record the model in. -/
def unrecordedModel : Moment := { sampleMoment with rest := .error (.error "Chat session is missing.") }

def sampleBegin : Except Thrown (ChatRunRecorder × ChatJournalStore) :=
  begin sampleEvents sampleMoment sampleRunStart ChatJournalStore.empty

/-- What a recorder and `resume` each know of an admitted model. -/
def admittedModels (moment : Moment) : Option (Bool × Bool) := do
  let (recorder, store) ← sampleBegin.toOption
  let admitted := (RecorderCall.recordModelAdmitted sampleAdmitted).perform sampleEvents moment recorder store
  let resumed ← (resume sampleEvents admitted.store admitted.recorder.operationId admitted.recorder.ownerEpoch).toOption
  return (admitted.recorder.memory.admittedModelPreset.isSome, resumed.memory.admittedModelPreset.isSome)

theorem admittedModels_unrecorded : admittedModels unrecordedModel = some (true, false) := by
  decide +kernel

theorem sampleBegin_ok : ∃ recorder store, sampleBegin = .ok (recorder, store) := by
  have drifted := admittedModels_unrecorded
  cases began : sampleBegin with
  | error failure =>
    rw [admittedModels, began] at drifted
    cases drifted
  | ok answer => exact ⟨answer.1, answer.2, rfl⟩

end SiftKit.Chat
