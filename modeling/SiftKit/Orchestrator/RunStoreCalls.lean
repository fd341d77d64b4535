import SiftKit.Orchestrator.RunStoreRefinement

/-! # The calls of the run store

What each method's change does to the ledger, and from that what any call does to the
tables: the *outcome* of a call is that nothing changed, that a run's ledger was started,
or that the ledger of the run it names took one step from the revision it carries.
-/

namespace SiftKit.Orchestrator

open SiftKit.Schema SiftKit.Tables SiftKit.Failure RunDatabase

variable {environment : StoreEnvironment} {host : HostInputs} {runId : String}
  {database : RunDatabase} {ledger : RunLedger} {current : OrchestratorRunState} {changed : RunChange}

/-! ## Effects of the changes -/

theorem savePlanChange_effect {plan : OrchestratorPlan} {planPath contentHash : String}
    (changes : savePlanChange plan planPath contentHash current database = .ok changed) :
    ChangeEffect runId ledger current database changed := by
  unfold savePlanChange at changes
  dsimp only at changes
  split at changes
  · cases changes
  · cases changes
    exact .fields rfl rfl rfl

theorem updateChange_effect {changes : OrchestratorRunChanges} {event : OrchestratorEventInput}
    (changesOk : updateChange changes event current database = .ok changed) :
    ChangeEffect runId ledger current database changed := by
  cases changesOk
  exact .fields rfl rfl rfl

section

variable (state : ReadState environment runId database current ledger)

include state

theorem moveAttempt_effect {childRunId : String} {attempt written : OrchestratorAttempt} {after : RunDatabase}
    (found : requireAttempt current childRunId = .ok attempt)
    (writes : writeAttempt environment runId written database = .ok after)
    (writtenEntry : written.entry = attempt.entry.withStatus written.status) (kept : written.status ≠ .abandoned)
    (moves : AttemptMove attempt.status written.status) (event : OrchestratorEventInput) :
    ChangeEffect runId ledger current database ⟨current, event, after⟩ := by
  obtain ⟨child, member, unique⟩ := state.requireAttempt_ok found
  obtain ⟨consistent, only, entries⟩ := writeAttempt_ok state.consistent member writtenEntry writes
  refine .attempts rfl consistent only ?_
  simp only [entries, ← state.attempts_eq]
  refine .move state.ledger_active written.childRunId written.status kept fun entry known sameChild => ?_
  have writtenChild : written.childRunId = childRunId :=
    (congrArg AttemptEntry.childRunId writtenEntry).trans child
  rw [unique entry known (sameChild.trans writtenChild)]
  exact moves

theorem markAttemptRunningChange_effect {childRunId : String}
    (changes : markAttemptRunningChange environment runId childRunId current database = .ok changed) :
    ChangeEffect runId ledger current database changed := by
  simp only [markAttemptRunningChange, bind_eq_ok, pure_eq_ok, throwWhen_eq_ok] at changes
  obtain ⟨attempt, found, _, reserved, after, writes, rfl⟩ := changes
  have status : attempt.status = .reserved := by simpa using reserved
  refine moveAttempt_effect state found writes rfl ?_ ?_ _
  · simp
  · rw [status]
    exact .start

theorem recordAttemptResultChange_effect {result : OrchestratorAttemptResult}
    (changes : recordAttemptResultChange environment runId result current database = .ok changed) :
    ChangeEffect runId ledger current database changed := by
  simp only [recordAttemptResultChange, bind_eq_ok, pure_eq_ok, throwWhen_eq_ok] at changes
  obtain ⟨attempt, found, _, unsettled, _, _, after, writes, rfl⟩ := changes
  refine moveAttempt_effect state found writes rfl ?_ ?_ _
  · simp
  · -- The method only rules out `settled`; that nothing is abandoned is the ledger's soundness.
    obtain ⟨_, member, _⟩ := state.requireAttempt_ok found
    have notAbandoned := state.sound.activeKept state.ledger_active attempt.entry
      (by rw [state.attempts_eq]; exact member)
    cases status : attempt.status with
    | reserved => exact .settle
    | running => exact .finish
    | settled => simp [status] at unsettled
    | abandoned => exact absurd status notAbandoned

theorem reserveAttemptChange_effect {taskId : String} {work : OrchestratorChildWork}
    (changes : reserveAttemptChange environment host runId taskId work current database = .ok changed) :
    ChangeEffect runId ledger current database changed ∧
      host.randomUUID ∈ (changed.database.entriesOf runId).map AttemptEntry.childRunId := by
  simp only [reserveAttemptChange, bind_eq_ok, pure_eq_ok, throwWhen_eq_ok, orInvalid_eq_ok,
    orConstraint_eq_ok] at changes
  obtain ⟨_, _, _, room, attempt, parsed, attempts, inserted, rfl⟩ := changes
  obtain ⟨rfl, free⟩ := insertRow_eq_some inserted
  have entry := OrchestratorAttempt.parse_keeps _ parsed
  obtain ⟨row, found, _⟩ := read_ok state.answered
  obtain ⟨rowMember, rowId⟩ := runOf_mem found
  have used : (current.attempts.filter fun attempt =>
      attempt.taskId == taskId && attempt.purpose == work.kind).length =
        (ledger.attemptsOf taskId work.kind).length := by
    rw [state.isLedger]
    simp only [RunLedger.attemptsOf, List.filter_map, List.length_map]
    rfl
  have freshRow : ∀ other ∈ database.attempts, other.childRunId ≠ host.randomUUID := by
    intro other otherMember sameChild
    have refused := free other otherMember
    simp [AttemptRow.conflicts, sameChild] at refused
  have entries : entriesOf { database with attempts := database.attempts ++
      [⟨runId, taskId, work.kind, attempt.attempt, host.randomUUID, attempt⟩] } runId =
        database.entriesOf runId ++ [attempt.entry] := by
    simp [entriesOf, attemptsOf]
  have newEntry : attempt.entry = ⟨taskId, work.kind, (ledger.attemptsOf taskId work.kind).length + 1,
      host.randomUUID, .reserved⟩ := by
    rw [entry, ← used]
    rfl
  refine ⟨.attempts rfl ⟨state.consistent.runsDistinct, state.consistent.runsAgree, ?_, ?_, ?_,
    state.consistent.eventsOwned⟩ ⟨rfl, rfl, ?_⟩ ?_, ?_⟩
  · have number : attempt.attempt = (ledger.attemptsOf taskId work.kind).length + 1 :=
      congrArg AttemptEntry.attempt newEntry
    have status : attempt.status = .reserved := congrArg AttemptEntry.status newEntry
    refine forall_mem_snoc.mpr ⟨state.consistent.attemptsAgree, ?_⟩
    simp only [AttemptRow.Agrees, newEntry, number, status]
  · exact nodup_map_snoc state.consistent.childrenDistinct freshRow
  · exact forall_mem_snoc.mpr ⟨state.consistent.attemptsOwned, rowId ▸ List.mem_map_of_mem rowMember⟩
  · intro other different
    simp [attemptsOf, Ne.symm different]
  · simp only [entries, newEntry, ← state.attempts_eq]
    refine .reserve state.ledger_active taskId work.kind host.randomUUID ?_ ?_
    · rw [← used]
      simpa using room
    · rw [state.attempts_eq]
      intro known
      obtain ⟨knownEntry, knownMember, knownChild⟩ := List.mem_map.mp known
      obtain ⟨knownRow, knownRowMember, rfl⟩ := List.mem_map.mp knownMember
      have knownRowKnown := List.mem_of_mem_filter knownRowMember
      have agrees := state.consistent.attemptsAgree knownRow knownRowKnown
      exact freshRow knownRow knownRowKnown ((congrArg AttemptEntry.childRunId agrees).symm.trans knownChild)
  · rw [entries, newEntry]
    simp

end

/-! ## Outcomes -/

/-- The tables agree with each other and every run's ledger is sound. -/
structure StoreInvariant (database : RunDatabase) : Prop where
  consistent : database.Consistent
  sound : ∀ runId ledger, database.ledger runId = some ledger → ledger.Sound

/-- What a call did to the tables; `carried` is the run and the revision it names. -/
inductive CallOutcome (before : RunDatabase) (carried : Option (String × Nat)) (succeeded : Bool) :
    RunDatabase → Prop where
  | unchanged (refused : carried ≠ none → succeeded = false) :
      CallOutcome before carried succeeded before
  | created {after : RunDatabase} (runId : String) (carriesNone : carried = none)
      (success : succeeded = true) (consistent : after.Consistent)
      (absent : before.ledger runId = none) (present : after.ledger runId = some .created)
      (others : ∀ other, other ≠ runId → SameRun other before after) :
      CallOutcome before carried succeeded after
  | stepped {after : RunDatabase} (runId : String) (ledger next : RunLedger)
      (carries : carried = some (runId, ledger.revision))
      (success : succeeded = true) (consistent : after.Consistent)
      (known : before.ledger runId = some ledger) (step : LedgerStep ledger next)
      (reached : after.ledger runId = some next)
      (others : ∀ other, other ≠ runId → SameRun other before after) :
      CallOutcome before carried succeeded after

theorem mutate_outcome {change : OrchestratorRunState → RunDatabase → Except StoreError RunChange}
    {revision : Nat} (invariant : StoreInvariant database)
    (effects : ∀ {ledger current changed}, ReadState environment runId database current ledger →
      change current database = .ok changed → ChangeEffect runId ledger current database changed) :
    CallOutcome database (some (runId, revision))
      (transaction (mutate environment host runId revision change) database).1.isOk
      (transaction (mutate environment host runId revision change) database).2 := by
  unfold transaction
  cases result : mutate environment host runId revision change database with
  | error thrown => exact .unchanged fun _ => rfl
  | ok committed =>
    obtain ⟨before, next, known, rfl, step, reached, consistent, others, _⟩ :=
      mutate_ok effects invariant.consistent (invariant.sound runId) result
    exact .stepped runId before next rfl rfl consistent known step reached others

theorem reserveAttempt_outcome {revision : Nat} {taskId : String} {work : OrchestratorChildWork}
    (invariant : StoreInvariant database) :
    CallOutcome database (some (runId, revision))
      (reserveAttempt environment host runId revision taskId work database).1.isOk
      (reserveAttempt environment host runId revision taskId work database).2 := by
  unfold reserveAttempt transaction
  cases result : mutate environment host runId revision
      (reserveAttemptChange environment host runId taskId work) database with
  | error thrown => exact .unchanged fun _ => rfl
  | ok committed =>
    obtain ⟨before, next, known, rfl, step, reached, consistent, others, reads, current, changed, state,
      changes, children⟩ := mutate_ok (fun state changes => (reserveAttemptChange_effect state changes).1)
        invariant.consistent (invariant.sound runId) result
    -- The committed state has the reserved attempt, so the look-up after the transaction finds it.
    have reserved := (reserveAttemptChange_effect state changes).2
    have answered := read_ledger reads
    rw [reached, Option.some.injEq] at answered
    rw [← children, answered] at reserved
    obtain ⟨entry, entryMember, child⟩ := List.mem_map.mp reserved
    obtain ⟨attempt, attemptMember, rfl⟩ := List.mem_map.mp entryMember
    have found : (committed.1.attempts.find? fun entry => entry.childRunId == host.randomUUID).isSome :=
      List.find?_isSome.mpr ⟨attempt, attemptMember, beq_iff_eq.mpr child⟩
    obtain ⟨reservedAttempt, isFound⟩ := Option.isSome_iff_exists.mp found
    have looked : requireAttempt committed.1 host.randomUUID = .ok reservedAttempt := by
      unfold requireAttempt
      rw [isFound]
    refine .stepped runId before next rfl ?_ consistent known step reached others
    simp only [Except.bind, looked]
    rfl

theorem recordAttemptResult_outcome {revision : Nat} {input : OrchestratorAttemptResult}
    (invariant : StoreInvariant database) :
    CallOutcome database (some (runId, revision))
      (recordAttemptResult environment host runId revision input database).1.isOk
      (recordAttemptResult environment host runId revision input database).2 := by
  unfold recordAttemptResult
  split
  · exact .unchanged fun _ => rfl
  · exact mutate_outcome invariant fun state changes => recordAttemptResultChange_effect state changes

theorem RunDatabase.Consistent.absent_rows (consistent : database.Consistent)
    (absent : runId ∉ database.runs.map RunRow.runId) :
    database.attemptsOf runId = [] ∧ database.eventsOf runId = [] := by
  constructor
  · refine List.filter_eq_nil_iff.mpr fun row member => ?_
    simp only [beq_iff_eq]
    exact fun own => absent (own ▸ consistent.attemptsOwned row member)
  · refine List.filter_eq_nil_iff.mpr fun row member => ?_
    simp only [beq_iff_eq]
    exact fun own => absent (own ▸ consistent.eventsOwned row member)

theorem create_fresh {row : RunRow} {runs : List RunRow} {event : OrchestratorEventInput} {after : RunDatabase}
    (consistent : database.Consistent) (inserted : insertRow RunRow.conflicts row database.runs = some runs)
    (agrees : row.Agrees) (revision : row.stateJson.revision = 0) (phase : row.stateJson.phase = .preparing_plan)
    (tasks : row.stateJson.tasks.map OrchestratorTaskState.entry = [])
    (appends : appendEvent environment host row.stateJson event { database with runs := runs } = .ok after) :
    CallOutcome database none true after := by
  obtain ⟨rfl, free⟩ := insertRow_eq_some inserted
  obtain ⟨eventRow, eventRun, sequence, rfl⟩ := appendEvent_ok appends
  rw [agrees.1] at eventRun sequence
  have absent : row.runId ∉ database.runs.map RunRow.runId := by
    intro known
    obtain ⟨other, otherMember, sameId⟩ := List.mem_map.mp known
    have refused := free other otherMember
    simp [RunRow.conflicts, sameId] at refused
  obtain ⟨noAttempts, noEvents⟩ := consistent.absent_rows absent
  have notFound : database.runOf row.runId = none := runOf_eq_none.mpr absent
  have firstSequence : eventRow.sequence = 1 := by
    rw [sequence]
    simp only [sequencesOf]
    rw [show eventsOf { database with runs := database.runs ++ [row] } row.runId = [] from noEvents]
    rfl
  refine .created row.runId rfl rfl ⟨?_, ?_, consistent.attemptsAgree, consistent.childrenDistinct, ?_, ?_⟩
    ?_ ?_ ?_
  · exact nodup_map_snoc consistent.runsDistinct fun known member same => absent (same ▸ List.mem_map_of_mem member)
  · exact forall_mem_snoc.mpr ⟨consistent.runsAgree, agrees⟩
  · intro other otherMember
    simp only [List.map_append, List.mem_append]
    exact .inl (consistent.attemptsOwned other otherMember)
  · intro other otherMember
    simp only [List.map_append, List.mem_append]
    cases List.mem_append.mp otherMember with
    | inl old => exact .inl (consistent.eventsOwned other old)
    | inr new =>
      rw [List.mem_singleton.mp new, eventRun]
      exact .inr (by simp)
  · simp [RunDatabase.ledger, notFound]
  · have found : runOf { database with
        runs := database.runs ++ [row], events := database.events ++ [eventRow] } row.runId = some row := by
      simp only [runOf, List.find?_append]
      rw [show database.runs.find? (fun other => other.runId == row.runId) = none from notFound]
      simp
    have events : eventsOf { database with
        runs := database.runs ++ [row], events := database.events ++ [eventRow] } row.runId = [eventRow] := by
      simp only [eventsOf, List.filter_append]
      rw [show database.events.filter (fun event => event.runId == row.runId) = [] from noEvents]
      simp [eventRun]
    have attempts : attemptsOf { database with
        runs := database.runs ++ [row], events := database.events ++ [eventRow] } row.runId = [] := noAttempts
    simp only [RunDatabase.ledger, found, Option.map_some, revision, phase, tasks, entriesOf, attempts,
      sequencesOf, events, List.map_nil, List.map_singleton, firstSequence]
    rfl
  · intro other different
    refine ⟨?_, rfl, ?_⟩
    · simp [Ne.symm different]
    · rw [eventsOf, eventsOf, List.filter_append]
      simp [eventRun, Ne.symm different]

theorem create_outcome {input : OrchestratorStartRequest} (invariant : StoreInvariant database) :
    CallOutcome database none (create environment host input database).1.isOk
      (create environment host input database).2 := by
  unfold create
  split
  · exact .unchanged fun carries => absurd rfl carries
  next request parsed =>
    unfold transaction
    cases result : createRun environment host request (environment.digestStableJson request) database with
    | error thrown => exact .unchanged fun carries => absurd rfl carries
    | ok committed =>
      unfold createRun at result
      split at result
      · simp only [bind_eq_ok, pure_eq_ok] at result
        obtain ⟨_, _, _, _, rfl⟩ := result
        exact .unchanged fun carries => absurd rfl carries
      next fresh =>
        simp only [bind_eq_ok, pure_eq_ok, orInvalid_eq_ok, orConstraint_eq_ok] at result
        obtain ⟨state, stateParsed, runs, inserted, appended, appends, _, _, rfl⟩ := result
        have kept := StoredRunState.parse_keeps _ stateParsed
        simp only [Prod.mk.injEq] at kept
        obtain ⟨_, revision, phase, tasks⟩ := kept
        exact create_fresh invariant.consistent inserted ⟨rfl, rfl, rfl⟩ revision phase tasks appends

theorem isOk_map {Answer Other : Type} (answer : Except StoreError Answer) (wrap : Answer → Other) :
    (answer.map wrap).isOk = answer.isOk := by
  cases answer <;> rfl

/-- Any call with any arguments: nothing changes, or one ledger starts or steps. -/
theorem perform_outcome (invariant : StoreInvariant database) (call : StoreCall) :
    CallOutcome database call.carries (perform environment database host call).1.isOk
      (perform environment database host call).2 := by
  cases call with
  | create input =>
    simp only [perform, isOk_map]
    exact create_outcome invariant
  | savePlan runId revision plan planPath contentHash =>
    simp only [perform, isOk_map]
    exact mutate_outcome invariant fun _ changes => savePlanChange_effect changes
  | update runId revision changes event =>
    simp only [perform, isOk_map]
    exact mutate_outcome invariant fun _ changesOk => updateChange_effect changesOk
  | reserveAttempt runId revision taskId work =>
    simp only [perform, isOk_map]
    exact reserveAttempt_outcome invariant
  | markAttemptRunning runId revision childRunId =>
    simp only [perform, isOk_map]
    exact mutate_outcome invariant fun state changes => markAttemptRunningChange_effect state changes
  | recordAttemptResult runId revision input =>
    simp only [perform, isOk_map]
    exact recordAttemptResult_outcome invariant
  | markInterrupted runId revision reason =>
    simp only [perform, isOk_map]
    exact mutate_outcome invariant fun _ changesOk => updateChange_effect changesOk

theorem storeStep_outcome (environment : StoreEnvironment) (invariant : StoreInvariant database)
    (call : HostInputs × StoreCall) :
    CallOutcome database call.2.carries (succeeds environment database call)
      (storeStep environment database call) :=
  perform_outcome invariant call.2

end SiftKit.Orchestrator
