import SiftKit.Orchestrator.RunLedger
import SiftKit.Orchestrator.RunStore

/-! # The run store refines the ledger

Each run's rows, read together, are a ledger.  A call of the store either leaves every
table as it was, or starts one run's ledger, or takes one run's ledger one step on; the
rows of all other runs stay as they are.
-/

namespace SiftKit.Orchestrator

open SiftKit.Schema SiftKit.Tables SiftKit.Failure

/-! ## A run's rows as a ledger -/

/-- The columns of a row say what its JSON says. -/
def RunRow.Agrees (row : RunRow) : Prop :=
  row.stateJson.runId = row.runId ∧ row.stateJson.revision = row.revision ∧
    row.stateJson.phase = row.phase

def AttemptRow.Agrees (row : AttemptRow) : Prop :=
  row.attemptJson.entry =
    ⟨row.taskId, row.purpose, row.attempt, row.childRunId, row.attemptJson.status⟩

namespace RunDatabase

structure Consistent (database : RunDatabase) : Prop where
  runsDistinct : (database.runs.map RunRow.runId).Nodup
  runsAgree : ∀ row ∈ database.runs, row.Agrees
  attemptsAgree : ∀ row ∈ database.attempts, row.Agrees
  childrenDistinct : (database.attempts.map AttemptRow.childRunId).Nodup
  attemptsOwned : ∀ row ∈ database.attempts, row.runId ∈ database.runs.map RunRow.runId
  eventsOwned : ∀ row ∈ database.events, row.runId ∈ database.runs.map RunRow.runId

def runOf (database : RunDatabase) (runId : String) : Option RunRow :=
  database.runs.find? fun row => row.runId == runId

def entriesOf (database : RunDatabase) (runId : String) : List AttemptEntry :=
  (database.attemptsOf runId).map fun row => row.attemptJson.entry

def sequencesOf (database : RunDatabase) (runId : String) : List Nat :=
  (database.eventsOf runId).map EventRow.sequence

def ledger (database : RunDatabase) (runId : String) : Option RunLedger :=
  (database.runOf runId).map fun row =>
    ⟨row.stateJson.revision, row.stateJson.phase, row.stateJson.tasks.map OrchestratorTaskState.entry,
      database.entriesOf runId, database.sequencesOf runId⟩

/-- The rows of one run are the same in both. -/
structure SameRun (runId : String) (before after : RunDatabase) : Prop where
  run : after.runs.filter (fun row => row.runId == runId) =
    before.runs.filter fun row => row.runId == runId
  attempts : after.attemptsOf runId = before.attemptsOf runId
  events : after.eventsOf runId = before.eventsOf runId

variable {database before after : RunDatabase} {runId : String}

theorem sameRun_refl (runId : String) (database : RunDatabase) : SameRun runId database database :=
  ⟨rfl, rfl, rfl⟩

theorem SameRun.trans {middle : RunDatabase} (first : SameRun runId before middle)
    (second : SameRun runId middle after) : SameRun runId before after :=
  ⟨second.run.trans first.run, second.attempts.trans first.attempts, second.events.trans first.events⟩

theorem SameRun.runOf (same : SameRun runId before after) : after.runOf runId = before.runOf runId := by
  unfold RunDatabase.runOf
  rw [← List.head?_filter, ← List.head?_filter, same.run]

theorem SameRun.ledger (same : SameRun runId before after) : after.ledger runId = before.ledger runId := by
  unfold RunDatabase.ledger entriesOf sequencesOf
  rw [same.runOf, same.attempts, same.events]

theorem runOf_mem {row : RunRow} (found : database.runOf runId = some row) :
    row ∈ database.runs ∧ row.runId = runId :=
  ⟨List.mem_of_find?_eq_some found, by simpa using List.find?_some found⟩

theorem runOf_eq_none : database.runOf runId = none ↔ runId ∉ database.runs.map RunRow.runId := by
  simp [runOf, List.find?_eq_none]

theorem Consistent.runOf_of_mem (consistent : database.Consistent) {row : RunRow}
    (member : row ∈ database.runs) : database.runOf row.runId = some row := by
  cases found : database.runOf row.runId with
  | none => exact absurd (List.mem_map_of_mem member) (runOf_eq_none.mp found)
  | some other =>
    obtain ⟨otherMember, sameId⟩ := runOf_mem found
    rw [List.inj_on_of_nodup_map consistent.runsDistinct otherMember member sameId]

theorem Consistent.entries_children_nodup (consistent : database.Consistent) (runId : String) :
    ((database.entriesOf runId).map AttemptEntry.childRunId).Nodup := by
  have columns : (database.entriesOf runId).map AttemptEntry.childRunId =
      (database.attemptsOf runId).map AttemptRow.childRunId := by
    simp only [entriesOf, List.map_map, List.map_inj_left, Function.comp_apply]
    intro row member
    have agrees := consistent.attemptsAgree row (List.mem_of_mem_filter member)
    exact congrArg AttemptEntry.childRunId agrees
  rw [columns]
  exact consistent.childrenDistinct.sublist (List.filter_sublist.map _)

end RunDatabase

open RunDatabase

variable {environment : StoreEnvironment} {host : HostInputs} {runId : String}
  {database : RunDatabase}

/-! ## Reading -/

theorem orInvalid_eq_ok {Value : Type} {parsed : Option Value} {value : Value} :
    orInvalid parsed = .ok value ↔ parsed = some value := by
  cases parsed <;> simp [orInvalid]

theorem orConstraint_eq_ok {Value : Type} {inserted : Option Value} {value : Value} :
    orConstraint inserted = .ok value ↔ inserted = some value := by
  cases inserted <;> simp [orConstraint]

section

variable {state : OrchestratorRunState} (answered : read environment runId database = .ok state)

include answered

theorem read_ok :
    ∃ row, database.runOf runId = some row ∧ state.runId = row.stateJson.runId ∧
      state.revision = row.stateJson.revision ∧ state.phase = row.stateJson.phase ∧
      state.tasks.map OrchestratorTaskState.entry = row.stateJson.tasks.map OrchestratorTaskState.entry ∧
      state.attempts.map OrchestratorAttempt.entry = database.entriesOf runId := by
  unfold read at answered
  split at answered
  · cases answered
  next row found =>
    simp only [readAttempts, bind_eq_ok, orInvalid_eq_ok] at answered
    obtain ⟨stored, storedParsed, attempts, attemptsParsed, stateParsed⟩ := answered
    have storedKept := StoredRunState.parse_keeps _ storedParsed
    have attemptsKept := (OrchestratorAttempt.parse_keeps _).array attemptsParsed
    have stateKept := OrchestratorRunState.parse_keeps _ stateParsed
    simp only [Prod.mk.injEq] at storedKept stateKept
    obtain ⟨⟨runIdKept, revisionKept, phaseKept, tasksKept⟩, entriesKept⟩ := stateKept
    obtain ⟨storedRunId, storedRevision, storedPhase, storedTasks⟩ := storedKept
    refine ⟨row, found, runIdKept.trans storedRunId, revisionKept.trans storedRevision,
      phaseKept.trans storedPhase, tasksKept.trans storedTasks, ?_⟩
    rw [entriesKept, attemptsKept, List.map_map]
    rfl

theorem read_ledger :
    database.ledger runId = some ⟨state.revision, state.phase,
      state.tasks.map OrchestratorTaskState.entry, state.attempts.map OrchestratorAttempt.entry,
      database.sequencesOf runId⟩ := by
  obtain ⟨row, found, _, revision, phase, tasks, attempts⟩ := read_ok answered
  simp only [RunDatabase.ledger, found, Option.map_some, revision, phase, tasks, attempts]

end

variable {attempt : OrchestratorAttempt}

theorem requireAttempt_ok {state : OrchestratorRunState} {childRunId : String}
    (answered : requireAttempt state childRunId = .ok attempt) :
    attempt ∈ state.attempts ∧ attempt.childRunId = childRunId := by
  unfold requireAttempt at answered
  split at answered
  next found known =>
    cases answered
    exact ⟨List.mem_of_find?_eq_some known, by simpa using List.find?_some known⟩
  · cases answered

/-! ## Writing an attempt -/

/-- Only the attempts of one run may differ. -/
structure OnlyAttemptsOf (runId : String) (before after : RunDatabase) : Prop where
  runs : after.runs = before.runs
  events : after.events = before.events
  others : ∀ other, other ≠ runId → after.attemptsOf other = before.attemptsOf other

theorem onlyAttemptsOf_refl (runId : String) (database : RunDatabase) : OnlyAttemptsOf runId database database :=
  ⟨rfl, rfl, fun _ _ => rfl⟩

variable {after : RunDatabase}

theorem OnlyAttemptsOf.trans {before middle : RunDatabase} (first : OnlyAttemptsOf runId before middle)
    (second : OnlyAttemptsOf runId middle after) : OnlyAttemptsOf runId before after :=
  ⟨second.runs.trans first.runs, second.events.trans first.events,
    fun other different => (second.others other different).trans (first.others other different)⟩

theorem OnlyAttemptsOf.sameRun {before : RunDatabase} (only : OnlyAttemptsOf runId before after)
    {other : String} (different : other ≠ runId) : SameRun other before after :=
  ⟨by rw [only.runs], only.others other different, by rw [eventsOf, eventsOf, only.events]⟩

variable {status : OrchestratorAttemptStatus}

theorem AttemptRow.Agrees.rewrite {row : AttemptRow} (agrees : row.Agrees) {written : OrchestratorAttempt}
    (same : written.entry = row.attemptJson.entry.withStatus status) :
    AttemptRow.Agrees { row with attemptJson := written } := by
  have statusWritten : written.status = status := congrArg AttemptEntry.status same
  unfold AttemptRow.Agrees at agrees ⊢
  rw [same, agrees, statusWritten]
  rfl

theorem RunDatabase.Consistent.row_of_child (consistent : database.Consistent) {known : AttemptEntry}
    (member : known ∈ database.entriesOf runId) {row : AttemptRow} (rowMember : row ∈ database.attempts)
    (sameChild : row.childRunId = known.childRunId) : row.runId = runId ∧ row.attemptJson.entry = known := by
  obtain ⟨knownRow, knownMember, knownEntry⟩ := List.mem_map.mp member
  obtain ⟨knownRowMember, knownRun⟩ := List.mem_filter.mp knownMember
  have knownChild : knownRow.childRunId = known.childRunId := by
    rw [← knownEntry, consistent.attemptsAgree knownRow knownRowMember]
  have sameRow : row = knownRow := List.inj_on_of_nodup_map consistent.childrenDistinct rowMember
    knownRowMember (sameChild.trans knownChild.symm)
  exact ⟨by rw [sameRow]; simpa using knownRun, by rw [sameRow, knownEntry]⟩

theorem writeAttempt_ok {known : AttemptEntry} (consistent : database.Consistent)
    (member : known ∈ database.entriesOf runId) (same : attempt.entry = known.withStatus attempt.status)
    (written : writeAttempt environment runId attempt database = .ok after) :
    after.Consistent ∧ OnlyAttemptsOf runId database after ∧
      after.entriesOf runId =
        RunLedger.moveAttempt attempt.childRunId attempt.status (database.entriesOf runId) := by
  simp only [writeAttempt, bind_eq_ok, pure_eq_ok, orInvalid_eq_ok] at written
  obtain ⟨parsed, parsedOk, rfl⟩ := written
  have child : attempt.childRunId = known.childRunId := congrArg AttemptEntry.childRunId same
  have writtenEntry : parsed.entry = known.withStatus attempt.status :=
    (OrchestratorAttempt.parse_keeps _ parsedOk).trans same
  have selectedRow : ∀ row ∈ database.attempts,
      (row.runId == runId && row.childRunId == attempt.childRunId) = true →
        row.runId = runId ∧ row.attemptJson.entry = known := by
    intro row rowMember selected
    simp only [Bool.and_eq_true, beq_iff_eq] at selected
    exact consistent.row_of_child member rowMember (selected.2.trans child)
  refine ⟨⟨consistent.runsDistinct, consistent.runsAgree, ?_, ?_, ?_, consistent.eventsOwned⟩,
    ⟨rfl, rfl, ?_⟩, ?_⟩
  · intro row rowMember
    obtain ⟨old, oldMember, rfl⟩ := mem_updateWhere.mp rowMember
    split
    next selected =>
      obtain ⟨_, entryKnown⟩ := selectedRow old oldMember selected
      exact (consistent.attemptsAgree old oldMember).rewrite (entryKnown ▸ writtenEntry)
    · exact consistent.attemptsAgree old oldMember
  · have children : (updateWhere
        (fun row => row.runId == runId && row.childRunId == attempt.childRunId)
        (fun (row : AttemptRow) => { row with attemptJson := parsed }) database.attempts).map
          AttemptRow.childRunId = database.attempts.map AttemptRow.childRunId :=
      map_updateWhere fun _ _ _ => rfl
    rw [children]
    exact consistent.childrenDistinct
  · intro row rowMember
    obtain ⟨old, oldMember, rfl⟩ := mem_updateWhere.mp rowMember
    split <;> exact consistent.attemptsOwned old oldMember
  · intro other different
    refine filter_updateWhere_of_disjoint fun row rowMember selected => ?_
    have ownRun := (selectedRow row rowMember selected).1
    simp [ownRun, Ne.symm different]
  · have ownRows : (updateWhere
        (fun row => row.runId == runId && row.childRunId == attempt.childRunId)
        (fun (row : AttemptRow) => { row with attemptJson := parsed }) database.attempts).filter
          (fun row => row.runId == runId) =
        updateWhere (fun row => row.runId == runId && row.childRunId == attempt.childRunId)
          (fun (row : AttemptRow) => { row with attemptJson := parsed })
          (database.attemptsOf runId) := filter_updateWhere fun _ _ _ => rfl
    refine (congrArg (List.map fun row => row.attemptJson.entry) ownRows).trans
      (map_updateWhere_eq fun row rowMember => ?_)
    obtain ⟨rowKnown, ownRun⟩ := List.mem_filter.mp rowMember
    have entryChild : row.attemptJson.entry.childRunId = row.childRunId :=
      congrArg AttemptEntry.childRunId (consistent.attemptsAgree row rowKnown)
    rw [entryChild]
    by_cases selected : row.childRunId = attempt.childRunId
    · have bothSelected : (row.runId == runId && row.childRunId == attempt.childRunId) = true := by
        simp only [ownRun, selected, beq_self_eq_true, Bool.and_self]
      obtain ⟨_, entryKnown⟩ := selectedRow row rowKnown bothSelected
      rw [if_pos bothSelected, if_pos (beq_iff_eq.mpr selected), entryKnown]
      exact writtenEntry
    · simp [selected]

/-- The attempts of `children` that are live, abandoned. -/
def abandonChildren (children : List String) : List AttemptEntry → List AttemptEntry :=
  updateWhere (fun entry => entry.status.isLive && children.contains entry.childRunId)
    (.withStatus .abandoned)

/-- One more child abandoned, seen from its entry: it is moved now or by the rest, not twice. -/
theorem abandonChildren_cons {child : String} (children : List String) {entries : List AttemptEntry}
    (statusOf : ∀ entry ∈ entries, entry.childRunId = child → entry.status = status) :
    abandonChildren children
        (if status.isLive then RunLedger.moveAttempt child .abandoned entries else entries) =
      abandonChildren (child :: children) entries := by
  by_cases live : status.isLive = true
  · simp only [live, if_true]
    refine updateWhere_eq_of_rows fun entry member => ?_
    by_cases own : entry.childRunId = child
    · have entryLive : entry.status.isLive = true := by rw [statusOf entry member own, live]
      simp [own, entryLive]
    · simp [own]
  · simp only [live, Bool.false_eq_true, if_false]
    refine List.map_inj_left.mpr fun entry member => ?_
    by_cases own : entry.childRunId = child
    · have entrySettled : entry.status.isLive = false := by
        rw [statusOf entry member own]
        simpa using live
      simp [entrySettled]
    · simp [own]

theorem abandonAttempts_ok {attempts : List OrchestratorAttempt}
    (consistent : database.Consistent) (known : ∀ attempt ∈ attempts, attempt.entry ∈ database.entriesOf runId)
    (distinct : (attempts.map OrchestratorAttempt.childRunId).Nodup)
    (abandoned : abandonAttempts environment runId attempts database = .ok after) :
    after.Consistent ∧ OnlyAttemptsOf runId database after ∧
      after.entriesOf runId =
        abandonChildren (attempts.map OrchestratorAttempt.childRunId) (database.entriesOf runId) := by
  induction attempts generalizing database with
  | nil =>
    cases abandoned
    refine ⟨consistent, onlyAttemptsOf_refl runId _, ?_⟩
    simp [abandonChildren, updateWhere]
  | cons attempt rest ih =>
    simp only [List.map_cons, List.nodup_cons] at distinct
    have member := known attempt List.mem_cons_self
    have statusOf : ∀ entry ∈ database.entriesOf runId,
        entry.childRunId = attempt.childRunId → entry.status = attempt.status := by
      intro entry entryMember sameChild
      have sameEntry : entry = attempt.entry := List.inj_on_of_nodup_map
        (consistent.entries_children_nodup runId) entryMember member sameChild
      exact congrArg AttemptEntry.status sameEntry
    have oneMore := abandonChildren_cons (rest.map OrchestratorAttempt.childRunId) statusOf
    unfold abandonAttempts at abandoned
    by_cases live : attempt.status.isLive = true
    · have liveStatus : (attempt.status == .reserved || attempt.status == .running) = true := live
      rw [if_pos liveStatus] at abandoned
      rw [if_pos live] at oneMore
      obtain ⟨written, writtenOk, restOk⟩ := bind_eq_ok.mp abandoned
      have abandonedEntry : OrchestratorAttempt.entry { attempt with status := .abandoned } =
          attempt.entry.withStatus .abandoned := rfl
      obtain ⟨writtenConsistent, writtenOnly, writtenEntries⟩ :=
        writeAttempt_ok consistent member abandonedEntry writtenOk
      -- The attempts still to visit are other children, which this write left alone.
      have restKnown : ∀ other ∈ rest, other.entry ∈ written.entriesOf runId := by
        intro other otherMember
        rw [writtenEntries]
        refine mem_updateWhere.mpr ⟨other.entry, known other (List.mem_cons_of_mem _ otherMember), ?_⟩
        have otherChild : other.entry.childRunId ≠ attempt.childRunId := fun sameChild =>
          distinct.1 (List.mem_map.mpr ⟨other, otherMember, sameChild⟩)
        rw [if_neg (by simpa using otherChild)]
      obtain ⟨afterConsistent, afterOnly, afterEntries⟩ :=
        ih writtenConsistent restKnown distinct.2 restOk
      exact ⟨afterConsistent, writtenOnly.trans afterOnly,
        by rw [afterEntries, writtenEntries, List.map_cons]; exact oneMore⟩
    · have settledStatus : ¬(attempt.status == .reserved || attempt.status == .running) = true := live
      rw [if_neg settledStatus] at abandoned
      rw [if_neg live] at oneMore
      obtain ⟨afterConsistent, afterOnly, afterEntries⟩ := ih consistent
        (fun other otherMember => known other (List.mem_cons_of_mem _ otherMember)) distinct.2 abandoned
      exact ⟨afterConsistent, afterOnly, by rw [afterEntries, List.map_cons]; exact oneMore⟩

theorem abandonChildren_all {children : List String} {entries : List AttemptEntry}
    (all : ∀ entry ∈ entries, entry.childRunId ∈ children) :
    abandonChildren children entries = RunLedger.abandonLive entries := by
  refine List.map_inj_left.mpr fun entry member => ?_
  have listed : children.contains entry.childRunId = true := by simpa using all entry member
  simp only [listed, Bool.and_true]

/-! ## Committing a change -/

theorem appendEvent_ok {state : StoredRunState} {input : OrchestratorEventInput}
    (appended : appendEvent environment host state input database = .ok after) :
    ∃ row : EventRow, row.runId = state.runId ∧
      row.sequence = (database.sequencesOf state.runId).max?.getD 0 + 1 ∧
      after = { database with events := database.events ++ [row] } := by
  simp only [appendEvent, bind_eq_ok, pure_eq_ok, orInvalid_eq_ok, orConstraint_eq_ok] at appended
  obtain ⟨event, eventParsed, events, inserted, rfl⟩ := appended
  have eventKept := OrchestratorEvent.parse_keeps _ eventParsed
  simp only [Prod.mk.injEq] at eventKept
  obtain ⟨rfl, _⟩ := insertRow_eq_some inserted
  exact ⟨_, rfl, eventKept.2, rfl⟩

theorem eventsOf_append (row : EventRow) (runId : String) :
    eventsOf { database with events := database.events ++ [row] } runId =
      database.eventsOf runId ++ if row.runId = runId then [row] else [] := by
  by_cases own : row.runId = runId
  · simp [eventsOf, own]
  · simp [eventsOf, own]

theorem commit_ok {next : StoredRunState} {event : OrchestratorEventInput} {row : RunRow}
    (consistent : database.Consistent) (found : database.runOf runId = some row) (own : next.runId = runId)
    (appended : appendEvent environment host next event (database.storeRun runId next) = .ok after) :
    after.Consistent ∧ (∀ other, other ≠ runId → SameRun other database after) ∧
      after.ledger runId = some ⟨next.revision, next.phase, next.tasks.map OrchestratorTaskState.entry,
        database.entriesOf runId,
        database.sequencesOf runId ++ [(database.sequencesOf runId).max?.getD 0 + 1]⟩ := by
  obtain ⟨eventRow, eventRun, sequence, rfl⟩ := appendEvent_ok appended
  obtain ⟨member, rowId⟩ := runOf_mem found
  have runIds : (database.storeRun runId next).runs.map RunRow.runId = database.runs.map RunRow.runId :=
    map_updateWhere fun _ _ _ => rfl
  rw [own] at eventRun sequence
  refine ⟨⟨?_, ?_, consistent.attemptsAgree, consistent.childrenDistinct, ?_, ?_⟩, ?_, ?_⟩
  · rw [runIds]
    exact consistent.runsDistinct
  · intro stored storedMember
    obtain ⟨old, oldMember, rfl⟩ := mem_updateWhere.mp storedMember
    split
    next selected => exact ⟨own.trans (beq_iff_eq.mp selected).symm, rfl, rfl⟩
    · exact consistent.runsAgree old oldMember
  · rw [runIds]
    exact consistent.attemptsOwned
  · rw [runIds]
    intro added addedMember
    cases List.mem_append.mp addedMember with
    | inl old => exact consistent.eventsOwned added old
    | inr new =>
      rw [List.mem_singleton.mp new, eventRun, ← rowId]
      exact List.mem_map_of_mem member
  · intro other different
    refine ⟨?_, rfl, ?_⟩
    · refine filter_updateWhere_of_disjoint fun old _ selected => ?_
      simp only [beq_iff_eq] at selected
      simp [selected, Ne.symm different]
    · rw [eventsOf_append, eventRun, if_neg (Ne.symm different), List.append_nil]
      rfl
  · have looked := find?_updateWhere (fun (row : RunRow) => row.runId == runId) (.withState next)
      database.runs fun _ _ selected => selected
    have stored : runOf (database.storeRun runId next) runId = some (row.withState next) :=
      looked.trans (congrArg (Option.map (RunRow.withState next)) found)
    have sequences : sequencesOf { (database.storeRun runId next) with
        events := (database.storeRun runId next).events ++ [eventRow] } runId =
          database.sequencesOf runId ++ [eventRow.sequence] := by
      simp only [sequencesOf, eventsOf_append, eventRun, if_true, List.map_append]
      rfl
    unfold RunDatabase.ledger
    rw [sequences, sequence]
    exact congrArg (Option.map _) stored

/-! ## Changes -/

/-- What a method's change may do to the tables: nothing yet, or one ledger step on its attempts. -/
inductive ChangeEffect (runId : String) (ledger : RunLedger) (current : OrchestratorRunState)
    (database : RunDatabase) (changed : RunChange) : Prop where
  | fields (untouched : changed.database = database)
      (attempts : changed.stored.attempts = current.attempts)
      (ownId : changed.stored.runId = current.runId)
  | attempts (stored : changed.stored = current) (consistent : changed.database.Consistent)
      (only : OnlyAttemptsOf runId database changed.database)
      (step : LedgerStep ledger
        (ledger.commit ledger.phase ledger.tasks (changed.database.entriesOf runId)))

/-- A state that was read in `database`, from which `ledger` can be read off. -/
structure ReadState (environment : StoreEnvironment) (runId : String) (database : RunDatabase)
    (current : OrchestratorRunState) (ledger : RunLedger) : Prop where
  consistent : database.Consistent
  sound : ledger.Sound
  answered : read environment runId database = .ok current
  isLedger : ledger = ⟨current.revision, current.phase,
    current.tasks.map OrchestratorTaskState.entry, current.attempts.map OrchestratorAttempt.entry,
    database.sequencesOf runId⟩
  active : isOrchestratorTerminalPhase current.phase = false

variable {ledger : RunLedger} {current : OrchestratorRunState} {changed : RunChange}

section

variable (state : ReadState environment runId database current ledger)

include state

theorem ReadState.entries :
    current.attempts.map OrchestratorAttempt.entry = database.entriesOf runId := by
  obtain ⟨_, _, _, _, _, _, entries⟩ := read_ok state.answered
  exact entries

theorem ReadState.attempts_eq :
    ledger.attempts = database.entriesOf runId := by
  rw [state.isLedger, ← state.entries]

theorem ReadState.ledger_active :
    isOrchestratorTerminalPhase ledger.phase = false := by
  rw [state.isLedger]
  exact state.active

theorem ReadState.requireAttempt_ok {childRunId : String} (found : requireAttempt current childRunId = .ok attempt) :
    attempt.childRunId = childRunId ∧ attempt.entry ∈ database.entriesOf runId ∧
      ∀ entry ∈ ledger.attempts, entry.childRunId = childRunId → entry = attempt.entry := by
  obtain ⟨member, child⟩ := SiftKit.Orchestrator.requireAttempt_ok found
  have entryMember : attempt.entry ∈ database.entriesOf runId := by
    rw [← state.entries]
    exact List.mem_map_of_mem member
  refine ⟨child, entryMember, fun entry known sameChild => ?_⟩
  rw [state.attempts_eq] at known
  exact List.inj_on_of_nodup_map (state.consistent.entries_children_nodup runId) known entryMember
    (sameChild.trans child.symm)

end

theorem tasks_abort_open (tasks : List OrchestratorTaskState) :
    (tasks.map fun (task : OrchestratorTaskState) =>
      if isOrchestratorOpenTaskStatus task.status then { task with status := .aborted } else task).map
        OrchestratorTaskState.entry = RunLedger.abortOpen (tasks.map OrchestratorTaskState.entry) := by
  refine map_updateWhere_eq fun task _ => ?_
  by_cases isOpen : isOrchestratorOpenTaskStatus task.status = true
  · simp only [OrchestratorTaskState.entry, isOpen, if_true]
  · simp only [OrchestratorTaskState.entry, isOpen, Bool.false_eq_true, if_false]

/-- Whatever the change did, closing what it stopped makes it one step of the ledger. -/
theorem closeStopped_ok {closed : OrchestratorRunState × RunDatabase}
    (state : ReadState environment runId database current ledger)
    (effect : ChangeEffect runId ledger current database changed)
    (closes : closeStopped environment runId changed.stored changed.database = .ok closed) :
    closed.2.Consistent ∧ OnlyAttemptsOf runId database closed.2 ∧ closed.1.runId = current.runId ∧
      LedgerStep ledger (ledger.commit closed.1.phase
        (closed.1.tasks.map OrchestratorTaskState.entry) (closed.2.entriesOf runId)) ∧
      (closed.2.entriesOf runId).map AttemptEntry.childRunId =
        (changed.database.entriesOf runId).map AttemptEntry.childRunId := by
  unfold closeStopped at closes
  cases effect with
  | fields untouched attempts ownId =>
    rw [untouched] at closes
    by_cases closing : isClosedPhase changed.stored.phase = true
    · have condition : (isOrchestratorTerminalPhase changed.stored.phase &&
          changed.stored.phase != .completed) = true := closing
      simp only [condition, if_true, closeOpenWork, bind_eq_ok, pure_eq_ok] at closes
      obtain ⟨abandoned, abandonedOk, rfl⟩ := closes
      rw [attempts] at abandonedOk
      have children : current.attempts.map OrchestratorAttempt.childRunId =
          (database.entriesOf runId).map AttemptEntry.childRunId := by
        rw [← state.entries, List.map_map]
        rfl
      obtain ⟨consistent, only, entries⟩ := abandonAttempts_ok state.consistent
        (fun attempt member => state.entries ▸ List.mem_map_of_mem member)
        (children ▸ state.consistent.entries_children_nodup runId) abandonedOk
      rw [children, abandonChildren_all fun _ member => List.mem_map_of_mem member] at entries
      refine ⟨consistent, only, ownId, ?_, ?_⟩
      · simp only [entries, tasks_abort_open, ← state.attempts_eq]
        exact .close state.ledger_active _ _ closing
      · rw [entries, untouched]
        exact RunLedger.map_statuses (fun _ _ => rfl) _ _ _
    · have condition : ¬(isOrchestratorTerminalPhase changed.stored.phase &&
          changed.stored.phase != .completed) = true := closing
      simp only [condition, Bool.false_eq_true, if_false, pure_eq_ok] at closes
      obtain rfl := closes
      refine ⟨state.consistent, onlyAttemptsOf_refl runId database, ownId, ?_, by rw [untouched]⟩
      rw [← state.attempts_eq]
      exact .advance state.ledger_active _ _ (by simpa using closing)
  | attempts stored consistent only step =>
    have condition : ¬(isOrchestratorTerminalPhase changed.stored.phase &&
        changed.stored.phase != .completed) = true := by
      rw [stored, state.active]
      simp
    simp only [condition, Bool.false_eq_true, if_false, pure_eq_ok] at closes
    obtain rfl := closes
    refine ⟨consistent, only, by rw [stored], ?_, rfl⟩
    rw [state.isLedger] at step ⊢
    rw [stored]
    exact step

/-- A successful `mutate` takes the run's ledger one step on from the caller's revision. -/
theorem mutate_ok {change : OrchestratorRunState → RunDatabase → Except StoreError RunChange}
    {revision : Nat} {answer : OrchestratorRunState}
    (effects : ∀ {ledger current changed}, ReadState environment runId database current ledger →
      change current database = .ok changed → ChangeEffect runId ledger current database changed)
    (consistent : database.Consistent)
    (sound : ∀ ledger, database.ledger runId = some ledger → ledger.Sound)
    (committed : mutate environment host runId revision change database = .ok (answer, after)) :
    ∃ before next, database.ledger runId = some before ∧ before.revision = revision ∧
      LedgerStep before next ∧ after.ledger runId = some next ∧ after.Consistent ∧
      (∀ other, other ≠ runId → SameRun other database after) ∧
      read environment runId after = .ok answer ∧
      ∃ current changed, ReadState environment runId database current before ∧
        change current database = .ok changed ∧
        next.attempts.map AttemptEntry.childRunId =
          (changed.database.entriesOf runId).map AttemptEntry.childRunId := by
  simp only [mutate, bind_eq_ok, pure_eq_ok, throwWhen_eq_ok, orInvalid_eq_ok, Prod.mk.injEq] at committed
  obtain ⟨current, answered, _, current_revision, _, active, changed, changes, closed, closes, next,
    nextParsed, appended, appends, _, reads, rfl, rfl⟩ := committed
  have isLedger := read_ledger answered
  have state : ReadState environment runId database current _ :=
    ⟨consistent, sound _ isLedger, answered, rfl, active⟩
  obtain ⟨row, found, rowId, _⟩ := read_ok answered
  obtain ⟨member, sameId⟩ := runOf_mem found
  have ownId : current.runId = runId := by
    rw [rowId, (consistent.runsAgree row member).1, sameId]
  obtain ⟨closedConsistent, only, closedId, step, children⟩ :=
    closeStopped_ok state (effects state changes) closes
  have nextKept := StoredRunState.parse_keeps _ nextParsed
  simp only [Prod.mk.injEq] at nextKept
  obtain ⟨nextId, nextRevision, nextPhase, nextTasks⟩ := nextKept
  have closedFound : closed.2.runOf runId = some row := by
    rw [runOf, only.runs]
    exact found
  obtain ⟨afterConsistent, others, afterLedger⟩ := commit_ok closedConsistent closedFound
    (nextId.trans (closedId.trans ownId)) appends
  have sequences : closed.2.sequencesOf runId = database.sequencesOf runId := by
    rw [sequencesOf, eventsOf, only.events]
    rfl
  have sameRevision : current.revision = revision := by simpa using current_revision
  refine ⟨_, _, isLedger, sameRevision, step, ?_, afterConsistent, ?_, reads, current, changed, state,
    changes, children⟩
  · rw [afterLedger, nextRevision, nextPhase, nextTasks, sequences, ← sameRevision]
    rfl
  · intro other different
    exact (only.sameRun different).trans (others other different)

end SiftKit.Orchestrator
