import SiftKit.Orchestrator.RunStoreCalls

/-! # The run store keeps its runs

The ledger's soundness, carried along every sequence of calls and read back as what the
three tables of the store say.
-/

namespace SiftKit.Orchestrator

open SiftKit.Tables SiftKit.Runs RunDatabase

variable {environment : StoreEnvironment} {before after : RunDatabase}
  {carried : Option (String × Nat)} {succeeded : Bool}

/-! ## One call -/

theorem CallOutcome.invariant (outcome : CallOutcome before carried succeeded after)
    (invariant : StoreInvariant before) : StoreInvariant after := by
  cases outcome with
  | unchanged => exact invariant
  | created runId _ _ consistent absent present others =>
    refine ⟨consistent, fun other ledger known => ?_⟩
    by_cases own : other = runId
    · rw [own, present, Option.some.injEq] at known
      exact known ▸ RunLedger.sound_created
    · exact invariant.sound other ledger ((others other own).ledger ▸ known)
  | stepped runId ledger next _ _ consistent known step reached others =>
    refine ⟨consistent, fun other found otherKnown => ?_⟩
    by_cases own : other = runId
    · rw [own, reached, Option.some.injEq] at otherKnown
      exact otherKnown ▸ step.sound (invariant.sound runId ledger known)
    · exact invariant.sound other found ((others other own).ledger ▸ otherKnown)

/-- No run is lost and no revision goes back. -/
def LedgersGrow (before after : RunDatabase) : Prop :=
  ∀ runId ledger, before.ledger runId = some ledger →
    ∃ later, after.ledger runId = some later ∧ ledger.revision ≤ later.revision

theorem CallOutcome.ledgers_grow (outcome : CallOutcome before carried succeeded after) :
    LedgersGrow before after := by
  intro runId ledger known
  cases outcome with
  | unchanged => exact ⟨ledger, known, Nat.le_refl _⟩
  | created created _ _ _ absent present others =>
    by_cases own : runId = created
    · rw [own, absent] at known
      cases known
    · exact ⟨ledger, (others runId own).ledger.trans known, Nat.le_refl _⟩
  | stepped stepped old next _ _ _ oldKnown step reached others =>
    by_cases own : runId = stepped
    · rw [own, oldKnown, Option.some.injEq] at known
      have bumped := step.revision
      exact ⟨next, own ▸ reached, by rw [← known]; omega⟩
    · exact ⟨ledger, (others runId own).ledger.trans known, Nat.le_refl _⟩

variable {runId : String} {database : RunDatabase}

theorem CallOutcome.terminal_kept (outcome : CallOutcome before carried succeeded after) {ledger : RunLedger}
    (known : before.ledger runId = some ledger) (terminal : isOrchestratorTerminalPhase ledger.phase = true) :
    SameRun runId before after := by
  cases outcome with
  | unchanged => exact sameRun_refl runId before
  | created created _ _ _ absent _ others =>
    by_cases own : runId = created
    · rw [own, absent] at known
      cases known
    · exact others runId own
  | stepped stepped old next _ _ _ oldKnown step _ others =>
    by_cases own : runId = stepped
    · -- A step needs a run that is not in a terminal phase.
      rw [own, oldKnown, Option.some.injEq] at known
      have active := step.active
      rw [known, terminal] at active
      cases active
    · exact others runId own

theorem attemptsProgress_refl (attempts : List AttemptEntry) : AttemptsProgress attempts attempts := by
  refine ⟨attempts, [], (List.append_nil _).symm, ?_, by simp⟩
  exact List.forall₂_same.mpr fun attempt _ => attempt.progresses_refl

theorem ledger_entries {ledger : RunLedger} (known : database.ledger runId = some ledger) :
    ledger.attempts = database.entriesOf runId := by
  obtain ⟨row, _, rfl⟩ := Option.map_eq_some_iff.mp known
  rfl

theorem CallOutcome.attempts_progress (outcome : CallOutcome before carried succeeded after)
    (invariant : StoreInvariant before) (runId : String) :
    AttemptsProgress (before.entriesOf runId) (after.entriesOf runId) := by
  have elsewhere : SameRun runId before after →
      AttemptsProgress (before.entriesOf runId) (after.entriesOf runId) := by
    intro same
    rw [entriesOf, entriesOf, same.attempts]
    exact attemptsProgress_refl _
  cases outcome with
  | unchanged => exact elsewhere (sameRun_refl runId before)
  | created created _ _ _ absent present others =>
    by_cases own : runId = created
    · have unknown : runId ∉ before.runs.map RunRow.runId := by
        rw [own]
        exact runOf_eq_none.mp (by simpa [RunDatabase.ledger] using absent)
      rw [entriesOf, (invariant.consistent.absent_rows unknown).1, own, ← ledger_entries present]
      exact attemptsProgress_refl []
    · exact elsewhere (others runId own)
  | stepped stepped old next _ _ _ known step reached others =>
    by_cases own : runId = stepped
    · rw [own, ← ledger_entries known, ← ledger_entries reached]
      exact step.attempts_progress
    · exact elsewhere (others runId own)

/-! ## Sequences of calls -/

theorem storeInvariant_empty : StoreInvariant .empty where
  consistent := ⟨List.nodup_nil, by simp [RunDatabase.empty], by simp [RunDatabase.empty],
    List.nodup_nil, by simp [RunDatabase.empty], by simp [RunDatabase.empty]⟩
  sound _ _ known := by cases known

theorem storeAfter_invariant (environment : StoreEnvironment) (calls : List (HostInputs × StoreCall)) :
    StoreInvariant (storeAfter environment calls) :=
  run_invariant StoreInvariant
    (fun _ call invariant => (storeStep_outcome environment invariant call).invariant invariant)
    storeInvariant_empty calls

/-- Later calls lose no run, take no revision back, and leave a terminal run's rows alone. -/
theorem run_keeps (environment : StoreEnvironment) (invariant : StoreInvariant before)
    (calls : List (HostInputs × StoreCall)) :
    StoreInvariant (run (storeStep environment) before calls) ∧
      LedgersGrow before (run (storeStep environment) before calls) ∧
      ∀ runId ledger, before.ledger runId = some ledger →
        isOrchestratorTerminalPhase ledger.phase = true →
          SameRun runId before (run (storeStep environment) before calls) := by
  refine run_invariant (fun database => StoreInvariant database ∧ LedgersGrow before database ∧
    ∀ runId ledger, before.ledger runId = some ledger →
      isOrchestratorTerminalPhase ledger.phase = true → SameRun runId before database) ?_
    ⟨invariant, fun _ ledger known => ⟨ledger, known, Nat.le_refl _⟩,
      fun runId _ _ _ => sameRun_refl runId before⟩ calls
  intro database call ⟨kept, grown, same⟩
  have outcome := storeStep_outcome environment kept call
  refine ⟨outcome.invariant kept, ?_, ?_⟩
  · intro runId ledger known
    obtain ⟨middle, middleKnown, middleLe⟩ := grown runId ledger known
    obtain ⟨later, laterKnown, laterLe⟩ := outcome.ledgers_grow runId middle middleKnown
    exact ⟨later, laterKnown, Nat.le_trans middleLe laterLe⟩
  · intro runId ledger known terminal
    have unchanged := same runId ledger known terminal
    exact unchanged.trans (outcome.terminal_kept (unchanged.ledger.trans known) terminal)

/-- A successful call finds the run at the revision it carries and leaves it at the next one. -/
theorem CallOutcome.success_revision {revision : Nat}
    (outcome : CallOutcome before (some (runId, revision)) true after) :
    ∃ ledger next, before.ledger runId = some ledger ∧ ledger.revision = revision ∧
      after.ledger runId = some next ∧ next.revision = revision + 1 := by
  generalize names : some (runId, revision) = carried at outcome
  generalize success : true = succeeded at outcome
  cases outcome with
  | unchanged refused =>
    have failed := refused (by rw [← names]; simp)
    rw [← success] at failed
    cases failed
  | created _ carriesNone =>
    rw [carriesNone] at names
    cases names
  | stepped stepped ledger next carries _ _ known step reached =>
    rw [← names, Option.some.injEq, Prod.mk.injEq] at carries
    obtain ⟨rfl, rfl⟩ := carries
    exact ⟨ledger, next, known, rfl, reached, step.revision⟩

theorem CallOutcome.failure_unchanged (outcome : CallOutcome before carried false after) : after = before := by
  generalize failure : false = succeeded at outcome
  cases outcome with
  | unchanged => rfl
  | created _ _ success => rw [success] at failure; cases failure
  | stepped _ _ _ _ success => rw [success] at failure; cases failure

/-- Of two calls that carry the same revision of a run, the later one fails if the earlier succeeded. -/
theorem same_revision_once (invariant : StoreInvariant before) {revision : Nat} {early late : HostInputs × StoreCall}
    (earlyCarries : early.2.carries = some (runId, revision)) (lateCarries : late.2.carries = some (runId, revision))
    (earlySucceeds : succeeds environment before early = true) (between : List (HostInputs × StoreCall)) :
    succeeds environment (run (storeStep environment) (storeStep environment before early) between) late =
      false := by
  have earlyOutcome := storeStep_outcome environment invariant early
  have afterEarly := earlyOutcome.invariant invariant
  rw [earlySucceeds, earlyCarries] at earlyOutcome
  obtain ⟨_, next, _, _, reached, nextRevision⟩ := earlyOutcome.success_revision
  obtain ⟨lateInvariant, grown, _⟩ := run_keeps environment afterEarly between
  obtain ⟨later, laterKnown, laterLe⟩ := grown runId next reached
  have lateOutcome := storeStep_outcome environment lateInvariant late
  by_contra lateSucceeds
  rw [Bool.not_eq_false] at lateSucceeds
  rw [lateSucceeds, lateCarries] at lateOutcome
  obtain ⟨found, _, foundKnown, foundRevision, _⟩ := lateOutcome.success_revision
  have sameLedger : later = found := Option.some.inj (laterKnown.symm.trans foundKnown)
  rw [sameLedger] at laterLe
  omega

/-! ## The tables after any sequence of calls -/

theorem mem_runs_ledger (consistent : database.Consistent) {row : RunRow} (member : row ∈ database.runs) :
    database.ledger row.runId = some ⟨row.stateJson.revision, row.stateJson.phase,
      row.stateJson.tasks.map OrchestratorTaskState.entry, database.entriesOf row.runId,
      database.sequencesOf row.runId⟩ := by
  simp only [RunDatabase.ledger, consistent.runOf_of_mem member, Option.map_some]

theorem RunDatabase.SameRun.row_mem (same : SameRun runId before after) {row : RunRow} (member : row ∈ before.runs)
    (own : row.runId = runId) : row ∈ after.runs := by
  have listed : row ∈ after.runs.filter fun other => other.runId == runId := by
    rw [same.run]
    exact List.mem_filter.mpr ⟨member, beq_iff_eq.mpr own⟩
  exact List.mem_of_mem_filter listed

theorem numberedAttempts (invariant : StoreInvariant database) (runId taskId : String)
    (purpose : OrchestratorChildPurpose) :
    ∃ count ≤ ORCHESTRATOR_MAX_ATTEMPTS,
      ((database.entriesOf runId).filter fun attempt =>
        attempt.taskId == taskId && attempt.purpose == purpose).map AttemptEntry.attempt =
          List.range' 1 count := by
  cases known : database.ledger runId with
  | none =>
    have absent : runId ∉ database.runs.map RunRow.runId :=
      runOf_eq_none.mp (by simpa [RunDatabase.ledger] using known)
    refine ⟨0, by decide, ?_⟩
    rw [entriesOf, (invariant.consistent.absent_rows absent).1]
    rfl
  | some ledger =>
    have sound := invariant.sound runId ledger known
    have numbered := sound.attemptsNumbered taskId purpose
    have bounded := sound.attemptsBounded taskId purpose
    rw [Numbered, List.length_map] at numbered
    simp only [RunLedger.attemptsOf, ledger_entries known] at numbered bounded
    exact ⟨_, bounded, numbered⟩

theorem orchestratorRunStore_contract (environment : StoreEnvironment) (calls : List (HostInputs × StoreCall)) :
    let database := storeAfter environment calls
    (∀ row ∈ database.runs,
      (database.eventsOf row.runId).map EventRow.sequence =
        List.range' 1 (row.stateJson.revision + 1)) ∧
    (∀ runId, ((database.entriesOf runId).map AttemptEntry.childRunId).Nodup ∧
      ∀ taskId purpose, ∃ count ≤ 2,
        ((database.entriesOf runId).filter fun attempt =>
          attempt.taskId == taskId && attempt.purpose == purpose).map AttemptEntry.attempt =
            List.range' 1 count) ∧
    (∀ call runId, AttemptsProgress (database.entriesOf runId)
      ((storeStep environment database call).entriesOf runId)) ∧
    (∀ row ∈ database.runs, isOrchestratorTerminalPhase row.stateJson.phase = true → ∀ later,
      row ∈ (run (storeStep environment) database later).runs ∧
        SameRun row.runId database (run (storeStep environment) database later)) ∧
    (∀ row ∈ database.runs, row.stateJson.phase ∈ [.failed, .aborted, .interrupted] →
      (∀ attempt ∈ database.entriesOf row.runId,
        attempt.status ≠ .reserved ∧ attempt.status ≠ .running) ∧
      ∀ task ∈ row.stateJson.tasks, isOrchestratorOpenTaskStatus task.status = false) ∧
    (∀ early late between runId revision, early.2.carries = some (runId, revision) →
      late.2.carries = some (runId, revision) → succeeds environment database early = true →
        succeeds environment
          (run (storeStep environment) (storeStep environment database early) between) late = false) ∧
    (∀ call, succeeds environment database call = false → storeStep environment database call = database) := by
  intro database
  have invariant : StoreInvariant database := storeAfter_invariant environment calls
  refine ⟨?events, ?attempts, ?moves, ?terminal, ?closed, ?once, ?failed⟩
  case events =>
    intro row member
    have sound := invariant.sound row.runId _ (mem_runs_ledger invariant.consistent member)
    have numbered := sound.eventsNumbered
    rw [Numbered, sound.eventsCount] at numbered
    exact numbered
  case attempts =>
    intro runId
    exact ⟨invariant.consistent.entries_children_nodup runId, numberedAttempts invariant runId⟩
  case moves =>
    intro call runId
    exact (storeStep_outcome environment invariant call).attempts_progress invariant runId
  case terminal =>
    intro row member terminal later
    have known := mem_runs_ledger invariant.consistent member
    have same := (run_keeps environment invariant later).2.2 row.runId _ known terminal
    exact ⟨same.row_mem member rfl, same⟩
  case closed =>
    intro row member stopped
    have sound := invariant.sound row.runId _ (mem_runs_ledger invariant.consistent member)
    have closed : isClosedPhase row.stateJson.phase = true := by
      simp only [List.mem_cons, List.not_mem_nil, or_false] at stopped
      obtain phase | phase | phase := stopped <;> rw [phase] <;> rfl
    obtain ⟨attemptsIdle, tasksIdle⟩ := sound.closedIdle closed
    refine ⟨fun attempt attemptMember => ?_, fun task taskMember => ?_⟩
    · have idle := attemptsIdle attempt attemptMember
      simpa [OrchestratorAttemptStatus.isLive] using idle
    · exact tasksIdle task.entry (List.mem_map_of_mem taskMember)
  case once =>
    intro early late between runId revision earlyCarries lateCarries earlySucceeds
    exact same_revision_once invariant earlyCarries lateCarries earlySucceeds between
  case failed =>
    intro call refused
    have outcome := storeStep_outcome environment invariant call
    rw [refused] at outcome
    exact outcome.failure_unchanged

end SiftKit.Orchestrator
