import SiftKit.Chat.RunRecorderEffects

/-! # Closing a run that its owner left behind

The transaction of `closeOrphanedChatRun` of `status-server/chat-run-recovery.ts`.  Which events close a
run is read off its journal; for what may be written, and by whom, any of them will do, so they are an
argument here.
-/

namespace SiftKit.Chat

open SiftKit.Json SiftKit.Failure SiftKit.Tables SiftKit.Runs ChatJournalStore ChatRunRecorder

/-- An event that a recovery writes before it ends the run. -/
inductive ClosingRecord where
  | approvalResolved (fields : EvidenceFields) (approvalId decidedAtUtc : String)
  | questionResolved (fields : EvidenceFields) (questionId decidedAtUtc : String)
  | contextInitialized (sanitized : Except Thrown EvidenceFields)
  | contextSpliced (sanitized : Except Thrown EvidenceFields)

def ClosingRecord.call : ClosingRecord → RecorderCall
  | .approvalResolved fields approvalId decidedAtUtc => .recordApprovalResolved fields approvalId decidedAtUtc
  | .questionResolved fields questionId decidedAtUtc => .recordQuestionResolved fields questionId decidedAtUtc
  | .contextInitialized sanitized => .recordContextInitialized sanitized
  | .contextSpliced sanitized => .recordContextSpliced sanitized

structure Closure where
  records : List ClosingRecord
  outcome : ChatRunOutcome

variable {format : EventFormat} {moment : Moment} {store after : ChatJournalStore}

def recordAll (format : EventFormat) (moment : Moment) : List ClosingRecord → ChatRunRecorder → ChatJournalStore → Recorded
  | [], recorder, store => .done recorder store
  | record :: rest, recorder, store => (record.call.perform format moment recorder store).andThen (recordAll format moment rest)

/-- Within the transaction each operation reads the same clock and fails at nothing but the journal; what
becomes of the queue, and the commit, are the rest. -/
def closeOrphanedChatRun (format : EventFormat) (moment : Moment) (closing : ChatJournalStore → Except Thrown Closure)
    (operationId ownerEpoch : String) (store : ChatJournalStore) : Except Thrown ChatJournalStore := do
  let adopted ← store.adopt operationId ownerEpoch moment.now
  let recorder ← resume format adopted operationId ownerEpoch
  let closure ← closing adopted
  let within := { moment with rest := .ok () }
  let recorded := (recordAll format within closure.records recorder adopted).andThen (finish format within closure.outcome)
  recorded.outcome
  moment.rest
  return recorded.store

/-! ## What a closure writes -/

theorem writes_recordAll (format : EventFormat) (moment : Moment) (records : List ClosingRecord) (recorder : ChatRunRecorder)
    (store : ChatJournalStore) : Writes format moment.now recorder store (recordAll format moment records recorder store) := by
  induction records generalizing recorder store with
  | nil => exact writes_done format moment.now recorder store
  | cons record rest ih =>
    exact (writes_perform format moment record.call recorder store).andThen ih

variable {recorder : ChatRunRecorder}

theorem resume_identity {operationId ownerEpoch : String}
    (resumed : resume format store operationId ownerEpoch = .ok recorder) :
    recorder.operationId = operationId ∧ recorder.ownerEpoch = ownerEpoch := by
  simp only [resume, bind_eq_ok, pure_eq_ok] at resumed
  obtain ⟨_, _, _, _, _, _, _, _, _, _, rfl⟩ := resumed
  exact ⟨rfl, rfl⟩

/-- A run that was finished is the writer's, and it has ended. -/
structure Settled (store : ChatJournalStore) (operationId ownerEpoch : String) (row : RunRow) : Prop where
  isRow : IsRow store operationId row
  ended : row.terminalCause ≠ none
  owner : row.ownerEpoch = ownerEpoch

theorem finish_settles {outcome : ChatRunFinish} {now : Int} {run : ChatRun}
    (ended : store.finish format.journal outcome now = .ok (run, after)) :
    ∃ row, Settled after outcome.operationId outcome.ownerEpoch row := by
  obtain ⟨row, isRow, owner, ends⟩ := journalFinish_ok ended
  cases ends with
  | inl ends =>
    obtain ⟨_, rfl, _⟩ := ends
    refine ⟨finishRow outcome row, ?_, by simp [finishRow], owner⟩
    have kept : ∀ other ∈ store.runs, isRun outcome.operationId other = true → isRun outcome.operationId (finishRow outcome other) = true :=
      fun _ _ own => own
    rw [IsRow, updateRun, find?_updateWhere _ _ _ kept, isRow]
    rfl
  | inr already =>
    rw [already.2]
    exact ⟨row, isRow, by rw [already.1]; simp, owner⟩

theorem closeRow_settles {cause : ChatRunTerminalCause} {recorded : Recorded}
    (identity : recorded.recorder.toRecorderIdentity = recorder.toRecorderIdentity)
    (succeeded : (recorded.andThen (closeRow format moment cause)).outcome = .ok ()) :
    ∃ row, Settled (recorded.andThen (closeRow format moment cause)).store recorder.operationId recorder.ownerEpoch row := by
  obtain ⟨_, isLast⟩ := andThen_ok succeeded
  rw [isLast] at succeeded ⊢
  rw [← identity]
  unfold closeRow at *
  split
  next ended => exact finish_settles ended
  next failed =>
    rw [failed] at succeeded
    cases succeeded

theorem finishOnce_settles {outcome : ChatRunOutcome}
    (succeeded : (recorder.finishOnce format moment outcome store).outcome = .ok ()) :
    ∃ row, Settled (recorder.finishOnce format moment outcome store).store recorder.operationId recorder.ownerEpoch row := by
  unfold finishOnce at *
  split
  next failed =>
    rw [failed] at succeeded
    cases succeeded
  next read =>
    rw [read] at succeeded
    apply closeRow_settles _ succeeded
    split
    · exact (commit_effect format moment "run_finished" _ _ _ recorder store).1
    · rfl

theorem finish_ends {outcome : ChatRunOutcome}
    (succeeded : (recorder.finish format moment outcome store).outcome = .ok ()) :
    ∃ row, Settled (recorder.finish format moment outcome store).store recorder.operationId recorder.ownerEpoch row := by
  unfold ChatRunRecorder.finish at *
  split
  next deleted =>
    rw [if_pos deleted] at succeeded
    cases succeeded
  next present =>
    rw [if_neg present] at succeeded
    obtain ⟨within, isBody⟩ := transaction_ok succeeded
    obtain ⟨once, isRest⟩ := andThen_ok within
    rw [isBody, isRest]
    exact finishOnce_settles once

/-- What a closure writes is a course under the epoch of the recovery, and in the end the run has ended. -/
theorem closeOrphanedChatRun_course {closing : ChatJournalStore → Except Thrown Closure} {operationId ownerEpoch : String}
    (closed : closeOrphanedChatRun format moment closing operationId ownerEpoch store = .ok after) :
    Course format ownerEpoch moment.now store after ∧ ∃ row, Settled after operationId ownerEpoch row := by
  simp only [closeOrphanedChatRun, bind_eq_ok, pure_eq_ok] at closed
  obtain ⟨adopted, isAdopted, recorder, resumed, closure, _, _, succeeded, _, _, rfl⟩ := closed
  obtain ⟨operationId, ownerEpoch⟩ := resume_identity resumed
  subst operationId
  subst ownerEpoch
  have start : Course format recorder.ownerEpoch moment.now store adopted := .single (.call (adopt_effect isAdopted) ⟨rfl, rfl⟩)
  have recorded := writes_recordAll format { moment with rest := .ok () } closure.records recorder adopted
  have ended := recorded.andThen (writes_finish format { moment with rest := .ok () } closure.outcome)
  refine ⟨start.trans ended.course, ?_⟩
  obtain ⟨_, isLast⟩ := andThen_ok succeeded
  rw [isLast] at succeeded ⊢
  have settled := finish_ends succeeded
  rwa [recorded.identity] at settled

end SiftKit.Chat
