import SiftKit.Assistant.JobRunner

/-! # A job is settled once

What runners that drain one store owe each other.  The statements that settle a job select it by its
id alone, so everything rests on the runners: as long as no lease recovery takes a job from a runner
that still executes it, and no cancellation names a settled job or one in execution, every job in a
runner's hands is running, and in nobody else's hands.
-/

namespace SiftKit.Assistant

open SiftKit.Tables SiftKit.Runs

/-! ## The contract -/

/-- The statuses that a job never leaves. -/
def JobStatus.isSettled : JobStatus → Bool
  | .completed | .cancelled | .deadLetter => true
  | .queued | .running | .paused | .failed => false

/-- The settled jobs of a table have kept their status. -/
def SettledKept (before after : JobTable) : Prop :=
  ∀ row ∈ before, row.status.isSettled = true → ∃ kept ∈ after, kept.id = row.id ∧ kept.status = row.status

structure SettledOnce (before : JobSystem) (made : JobLabel × Int) (after : JobSystem) : Prop where
  settled : SettledKept before.table after.table
  /-- A runner whose job has been recovered does not change it. -/
  stale : ∀ runner settlement execution, made.1 = .settle runner settlement →
    before.runners runner = .executing execution → execution.recovered = true →
    getJob after.table execution.jobId = getJob before.table execution.jobId
  live : PendingDistinct after.table
  noIndexFailure : before.thrown made ≠ some .pendingIdempotency

/-- A runner executes the job. -/
def JobSystem.InHand (system : JobSystem) (jobId : String) : Prop :=
  ∃ runner execution, system.runners runner = .executing execution ∧ execution.jobId = jobId

/-- No recovery takes a job that a runner still executes; a cancelled job is neither settled nor in execution. -/
def Punctual (system : JobSystem) (made : JobLabel × Int) : Prop :=
  match made.1 with
  | .drain _ ownerId =>
    ∀ row ∈ system.table, isLeaseExpired ownerId made.2 row = true → ¬ system.InHand row.id
  | .cancel jobId =>
    ∀ row ∈ system.table, row.id = jobId → row.status.isSettled = false ∧ ¬ system.InHand row.id
  | _ => True

/-- A step that meets the condition. -/
def PunctualStep (before : JobSystem) (made : JobLabel × Int) (after : JobSystem) : Prop :=
  before.step made = some after ∧ Punctual before made

/-! ## Rows under a call -/

variable {row : JobRow}

section

variable {nowUtc : Int} {call : JobCall} {table after : JobTable}

theorem TableChange.getJob (change : TableChange nowUtc call table after) {jobId : String}
    (found : getJob table jobId = some row) :
    ∃ kept, Assistant.getJob after jobId = some kept ∧ (kept = row ∨ Touched nowUtc row call kept) := by
  obtain ⟨_, selects, rewrite, keeps, touched, tables⟩ := change
  have rewritten : ∃ kept, Assistant.getJob (updateWhere selects rewrite table) jobId = some kept ∧
      (kept = row ∨ Touched nowUtc row call kept) := by
    rw [getJob_updateWhere keeps, found]
    refine ⟨_, rfl, ?_⟩
    dsimp only
    split
    next selected => exact Or.inr (touched row (mem_of_getJob found) selected)
    · exact Or.inl rfl
  cases tables with
  | inl same =>
    rw [same]
    exact rewritten
  | inr inserted =>
    obtain ⟨input, id, priority, _, same⟩ := inserted
    obtain ⟨kept, keptFound, how⟩ := rewritten
    refine ⟨kept, ?_, how⟩
    rw [same, Assistant.getJob, List.find?_append]
    rw [Assistant.getJob] at keptFound
    rw [keptFound]
    rfl

theorem TableChange.getJob_untouched (change : TableChange nowUtc call table after) {jobId : String}
    (found : Assistant.getJob table jobId = some row) (untouched : ∀ rewritten, ¬ Touched nowUtc row call rewritten) :
    Assistant.getJob after jobId = some row := by
  obtain ⟨kept, keptFound, how⟩ := change.getJob found
  cases how with
  | inl same => exact same ▸ keptFound
  | inr touched => exact absurd touched (untouched kept)

/-- A call whose statement selects a job by its id alone. -/
def JobCall.Names (call : JobCall) (jobId : String) : Prop :=
  call = .complete jobId ∨ call = .cancel jobId ∨ call = .requeuePreempted jobId ∨
    ∃ errorMessage, call = .fail jobId errorMessage

theorem SettledKept.of_change (consistent : Consistent table) (change : TableChange nowUtc call table after)
    (spares : ∀ row ∈ table, row.status.isSettled = true → ¬ call.Names row.id) : SettledKept table after := by
  intro row member settled
  have notNamed := spares row member settled
  have untouched : ∀ rewritten, ¬ Touched nowUtc row call rewritten := by
    intro rewritten touched
    cases touched with
    | superseded queued | claimed queued => simp [queued, JobStatus.isSettled] at settled
    | completed => exact notNamed (Or.inl rfl)
    | cancelled => exact notNamed (Or.inr (Or.inl rfl))
    | preempted => exact notNamed (Or.inr (Or.inr (Or.inl rfl)))
    | deadLettered | retried => exact notNamed (Or.inr (Or.inr (Or.inr ⟨_, rfl⟩)))
    | recovered expired =>
      simp only [isLeaseExpired, Bool.and_eq_true, beq_iff_eq] at expired
      simp [expired.1.2, JobStatus.isSettled] at settled
  have found := change.getJob_untouched (consistent.getJob_eq member) untouched
  exact ⟨row, mem_of_getJob found, rfl, rfl⟩

theorem perform_ne_pendingIdempotency (consistent : Consistent table) (nowUtc : Int) (call : JobCall)
    (live : ∀ row ∈ table, (call = .requeuePreempted row.id ∨ ∃ errorMessage, call = .fail row.id errorMessage) →
      row.status.isLive = true) : (call.perform nowUtc table).1 ≠ .error .pendingIdempotency := by
  have admitted : ∀ {jobId : String} {rewrite : JobRow → JobRow}, KeepsKeys rewrite →
      (∀ row ∈ table, row.id = jobId → row.status.isLive = true) →
      (answerJob jobId (updateJob jobId rewrite table)).1 ≠ .error .pendingIdempotency := by
    intro jobId rewrite keeps awake
    have updated : Consistent (updateWhere (fun row => row.id == jobId) rewrite table) :=
      consistent_updateWhere consistent keeps fun row member selected _ => awake row member (beq_iff_eq.mp selected)
    rw [answerJob_updateJob keeps updated.pending, requireJob]
    cases Assistant.getJob table jobId <;> simp [Except.map]
  have mapped : ∀ {Value : Type} (read : Value → JobAnswer) (performed : Except JobFailure Value × JobTable),
      performed.1 ≠ .error .pendingIdempotency → (answering read performed).1 ≠ .error .pendingIdempotency := by
    intro Value read performed notPending
    obtain ⟨answer, written⟩ := performed
    cases answer with
    | ok value => simp [answering, Except.map]
    | error failure => simpa [answering, Except.map] using notPending
  have ended : ∀ {status : JobStatus} (jobId : String) (errorMessage : Option String), status.isLive = false →
      (setTerminal jobId status errorMessage nowUtc table).1 ≠ .error .pendingIdempotency := by
    intro status jobId errorMessage notLive
    rw [setTerminal_eq consistent jobId notLive, requireJob]
    cases Assistant.getJob table jobId <;> simp [Except.map]
  cases call with
  | enqueue input priority id =>
    apply mapped
    cases enqueue_cases consistent input priority id nowUtc with
    | inl quiet => exact quiet.2
    | inr inserted =>
      rw [inserted.2.2]
      simp
  | enqueueSuperseding input priority id =>
    apply mapped
    rw [enqueueSuperseding_eq consistent]
    cases enqueue_cases (consistent_superseded consistent input nowUtc) input priority id nowUtc with
    | inl quiet => exact quiet.2
    | inr inserted =>
      rw [inserted.2.2]
      simp
  | claimNext input =>
    apply mapped
    cases claimNext_cases consistent input nowUtc with
    | inl none =>
      rw [none]
      simp
    | inr taken =>
      obtain ⟨_, _, _, performed⟩ := taken
      rw [performed]
      simp
  | complete jobId => exact mapped _ _ (ended jobId none rfl)
  | cancel jobId => exact mapped _ _ (ended jobId none rfl)
  | requeuePreempted jobId =>
    apply mapped
    apply admitted (keepsKeys_preempted nowUtc)
    rintro row member rfl
    exact live row member (Or.inl rfl)
  | fail jobId errorMessage =>
    apply mapped
    cases found : Assistant.getJob table jobId with
    | none =>
      rw [fail_unknown found]
      simp
    | some job =>
      rw [fail_eq found]
      split
      · exact ended jobId (some errorMessage) rfl
      · apply admitted (keepsKeys_requeuedWithBackoff _ _ nowUtc)
        rintro row member rfl
        exact live row member (Or.inr ⟨errorMessage, rfl⟩)
  | recoverExpiredLeases ownerId =>
    apply mapped
    rw [recoverExpiredLeases_eq consistent]
    simp

end

/-! ## Jobs in hand -/

/-- Every job in a runner's hands is running, was never recovered, and is in no other runner's hands. -/
structure Held (system : JobSystem) : Prop where
  consistent : Consistent system.table
  running : ∀ runner execution, system.runners runner = .executing execution → execution.recovered = false ∧
    ∃ row, getJob system.table execution.jobId = some row ∧ row.status = .running
  exclusive : ∀ runner other execution otherExecution, system.runners runner = .executing execution →
    system.runners other = .executing otherExecution → execution.jobId = otherExecution.jobId → runner = other

theorem held_start : Held .start where
  consistent := consistent_nil
  running _ _ executing := nomatch executing
  exclusive _ _ _ _ executing := nomatch executing

variable {runners : String → RunnerState}

theorem executing_of_update {moved runner : String} {state : RunnerState}
    {execution : Execution} (executing : Function.update runners moved state runner = .executing execution) :
    (runner = moved ∧ state = .executing execution) ∨ (runner ≠ moved ∧ runners runner = .executing execution) := by
  by_cases itself : runner = moved
  · rw [itself, Function.update_self] at executing
    exact Or.inl ⟨itself, executing⟩
  · rw [Function.update_of_ne itself] at executing
    exact Or.inr ⟨itself, executing⟩

variable {system : JobSystem} {made : JobLabel × Int} {labels : List (JobLabel × Int)}

theorem Held.of_kept (held : Held system) {after : JobTable} (consistent : Consistent after)
    (takesNone : ∀ runner execution, runners runner = .executing execution → system.runners runner =
      .executing execution)
    (kept : ∀ runner execution row, runners runner = .executing execution → getJob system.table execution.jobId =
      some row → row.status = .running → getJob after execution.jobId = some row) :
    Held ⟨after, runners⟩ where
  consistent := consistent
  running := by
    intro runner execution executing
    obtain ⟨fresh, row, found, running⟩ := held.running runner execution (takesNone runner execution executing)
    exact ⟨fresh, row, kept runner execution row executing found running, running⟩
  exclusive := by
    intro runner other execution otherExecution executing otherExecuting
    exact held.exclusive runner other execution otherExecution (takesNone runner execution executing)
      (takesNone other otherExecution otherExecuting)

/-- Taking up a queued job: it is in nobody else's hands, for those jobs are running. -/
theorem Held.claim (held : Held system) {runner : String} {input : ClaimJobInput} {nowUtc : Int} {candidate : JobRow}
    (member : candidate ∈ system.table) (queued : candidate.status = .queued) :
    Held ⟨updateWhere (isQueuedJob candidate.id) (claimed input nowUtc) system.table,
      Function.update system.runners runner (.executing ⟨candidate.id, false⟩)⟩ := by
  have found := held.consistent.getJob_eq member
  have others : ∀ other execution, system.runners other = .executing execution → execution.jobId ≠ candidate.id := by
    intro other execution executing same
    obtain ⟨_, row, rowFound, running⟩ := held.running other execution executing
    rw [same, found] at rowFound
    cases rowFound
    rw [queued] at running
    cases running
  refine ⟨consistent_claimed held.consistent candidate.id input nowUtc, ?_, ?_⟩
  · intro other execution executing
    cases executing_of_update executing with
    | inl itself =>
      cases itself.2
      refine ⟨rfl, claimed input nowUtc candidate, ?_, rfl⟩
      change getJob (updateWhere _ _ _) candidate.id = _
      rw [getJob_updateWhere (keepsKeys_claimed input nowUtc), found]
      simp [isQueuedJob, queued]
    | inr stays =>
      obtain ⟨fresh, row, rowFound, running⟩ := held.running other execution stays.2
      refine ⟨fresh, row, ?_, running⟩
      change getJob (updateWhere _ _ _) execution.jobId = _
      rw [getJob_updateWhere (keepsKeys_claimed input nowUtc), rowFound]
      simp [isQueuedJob, running]
  · intro first second firstExecution secondExecution firstExecuting secondExecuting same
    cases executing_of_update firstExecuting with
    | inl firstItself =>
      cases executing_of_update secondExecuting with
      | inl secondItself => rw [firstItself.1, secondItself.1]
      | inr secondStays =>
        cases firstItself.2
        exact absurd same.symm (others second secondExecution secondStays.2)
    | inr firstStays =>
      cases executing_of_update secondExecuting with
      | inl secondItself =>
        cases secondItself.2
        exact absurd same (others first firstExecution firstStays.2)
      | inr secondStays =>
        exact held.exclusive first second firstExecution secondExecution firstStays.2 secondStays.2 same

/-! ## Steps -/

variable {after : JobSystem}

theorem step_cases (stepped : system.step made = some after) :
    (∃ call, system.call made.1 = some call ∧
      after = ⟨(call.perform made.2 system.table).2,
        system.runnersAfter made.2 (call.perform made.2 system.table).1 made.1⟩) ∨
    (system.call made.1 = none ∧ ∃ runner, (made.1 = .leave runner ∨ made.1 = .stop runner) ∧
      after = system.setRunner runner .idle) := by
  unfold JobSystem.step at stepped
  split at stepped
  next call calls => exact Or.inl ⟨call, calls, (Option.some.inj stepped).symm⟩
  next calls =>
    split at stepped
    next runner label =>
      split at stepped
      · exact Or.inr ⟨calls, runner, Or.inl label, (Option.some.inj stepped).symm⟩
      · cases stepped
    next runner label => exact Or.inr ⟨calls, runner, Or.inr label, (Option.some.inj stepped).symm⟩
    · cases stepped

theorem settlement_next_ne_executing {Answer : Type} (settlement : Settlement) (answer : Except JobFailure Answer)
    (execution : Execution) : settlement.next answer ≠ .executing execution := by
  cases settlement <;> cases answer <;> exact nofun

theorem Settlement.id_of_touched {settlement : Settlement} {jobId : String} {nowUtc : Int} {rewritten : JobRow}
    (touched : Touched nowUtc row (settlement.call jobId) rewritten) : row.id = jobId := by
  cases settlement <;> cases touched <;> rfl

theorem Held.step (held : Held system) (stepped : PunctualStep system made after) :
    Held after := by
  obtain ⟨taken, punctual⟩ := stepped
  cases step_cases taken with
  | inr idles =>
    obtain ⟨_, runner, _, rfl⟩ := idles
    change Held ⟨system.table, Function.update system.runners runner .idle⟩
    apply held.of_kept held.consistent
    · intro other execution executing
      cases executing_of_update executing with
      | inl itself => cases itself.2
      | inr stays => exact stays.2
    · exact fun _ _ _ _ found _ => found
  | inl calls =>
    obtain ⟨call, calls, rfl⟩ := calls
    have change := tableChange_perform held.consistent made.2 call
    obtain ⟨label, nowUtc⟩ := made
    cases label with
    | enqueue input priority id =>
      cases calls
      apply held.of_kept change.consistent (fun _ _ executing => executing)
      intro runner execution row _ found _
      apply change.getJob_untouched found
      intro rewritten touched
      cases touched
    | enqueueSuperseding input priority id =>
      cases calls
      apply held.of_kept change.consistent (fun _ _ executing => executing)
      intro runner execution row _ found running
      apply change.getJob_untouched found
      intro rewritten touched
      cases touched with
      | superseded queued => rw [running] at queued; cases queued
    | cancel jobId =>
      cases calls
      apply held.of_kept change.consistent (fun _ _ executing => executing)
      intro runner execution row executing found _
      apply change.getJob_untouched found
      intro rewritten touched
      cases touched with
      | cancelled =>
        exact (punctual row (mem_of_getJob found) rfl).2 ⟨runner, execution, executing, (id_of_getJob found).symm⟩
    | drain runner ownerId =>
      simp only [JobSystem.call] at calls
      split at calls
      · cases calls
        have unrecovered : ∀ other execution, Function.update
            (fun other => (system.runners other).afterRecovery system.table ownerId nowUtc) runner .draining other =
              .executing execution → system.runners other = .executing execution := by
          intro other execution executing
          cases executing_of_update executing with
          | inl itself => cases itself.2
          | inr stays =>
            have afterRecovery := stays.2
            cases state : system.runners other with
            | idle =>
              rw [state] at afterRecovery
              cases afterRecovery
            | draining =>
              rw [state] at afterRecovery
              cases afterRecovery
            | executing current =>
              -- the recovery finds no lease of a job in hand expired
              obtain ⟨_, row, found, _⟩ := held.running other current state
              have notExpired : isLeaseExpired ownerId nowUtc row = false := by
                rw [Bool.eq_false_iff]
                intro expired
                exact punctual row (mem_of_getJob found) expired ⟨other, current, state, (id_of_getJob found).symm⟩
              rw [state, RunnerState.afterRecovery, found, Option.any_some, notExpired] at afterRecovery
              exact afterRecovery
        apply held.of_kept change.consistent unrecovered
        intro other execution row executing found _
        apply change.getJob_untouched found
        intro rewritten touched
        cases touched with
        | recovered expired =>
          exact punctual row (mem_of_getJob found) expired
            ⟨other, execution, unrecovered other execution executing, (id_of_getJob found).symm⟩
      · cases calls
    | claim runner ownerId leaseSeconds modelWorkAllowed =>
      simp only [JobSystem.call] at calls
      split at calls
      · cases calls
        cases claimNext_cases held.consistent ⟨ownerId, runner, leaseSeconds, modelWorkAllowed⟩ nowUtc with
        | inl none =>
          simp only [JobCall.perform, answering, none, JobSystem.runnersAfter, Except.map]
          apply held.of_kept held.consistent
          · intro other execution executing
            cases executing_of_update executing with
            | inl itself => cases itself.2
            | inr stays => exact stays.2
          · exact fun _ _ _ _ found _ => found
        | inr claims =>
          obtain ⟨candidate, member, claimable, performed⟩ := claims
          simp only [JobCall.perform, answering, performed, JobSystem.runnersAfter, Except.map]
          simp only [isClaimable, Bool.and_eq_true, beq_iff_eq] at claimable
          exact held.claim member claimable.1.1.2
      · cases calls
    | settle runner settlement =>
      simp only [JobSystem.call] at calls
      split at calls
      next execution executing =>
        cases calls
        have others : ∀ other otherExecution, Function.update system.runners runner
            (settlement.next ((settlement.call execution.jobId).perform nowUtc system.table).1) other =
              .executing otherExecution → other ≠ runner ∧ system.runners other = .executing otherExecution := by
          intro other otherExecution otherExecuting
          cases executing_of_update otherExecuting with
          | inl itself => exact absurd itself.2 (settlement_next_ne_executing settlement _ otherExecution)
          | inr stays => exact stays
        apply held.of_kept change.consistent fun other otherExecution executes => (others other otherExecution executes).2
        intro other otherExecution row otherExecuting found _
        obtain ⟨different, otherHolds⟩ := others other otherExecution otherExecuting
        apply change.getJob_untouched found
        intro rewritten touched
        apply different
        apply held.exclusive other runner otherExecution execution otherHolds executing
        rw [← id_of_getJob found]
        exact Settlement.id_of_touched touched
      · cases calls
    | leave runner | stop runner => cases calls

theorem held_of_reaches {final : JobSystem} (held : Held system) (reached : Reaches PunctualStep system labels final) :
    Held final :=
  reached.invariant Held held fun held stepped => held.step stepped

/-- A punctual step names a job that is running in the caller's hands, or cancels one that is not settled. -/
theorem call_spares (held : Held system) (punctual : Punctual system made) {call : JobCall}
    (calls : system.call made.1 = some call) (member : row ∈ system.table) (names : call.Names row.id) :
    (call = .cancel row.id ∧ row.status.isSettled = false) ∨ row.status = .running := by
  obtain ⟨label, nowUtc⟩ := made
  unfold JobCall.Names at names
  cases label with
  | enqueue | enqueueSuperseding | leave | stop => cases calls <;> simp at names
  | cancel jobId =>
    cases calls
    simp only [JobCall.cancel.injEq, reduceCtorEq, false_or, or_false, exists_false] at names
    exact Or.inl ⟨congrArg JobCall.cancel names, (punctual row member names.symm).1⟩
  | drain | claim =>
    simp only [JobSystem.call] at calls
    split at calls
    · cases calls
      simp at names
    · cases calls
  | settle runner settlement =>
    simp only [JobSystem.call] at calls
    split at calls
    next execution executing =>
      cases calls
      obtain ⟨_, current, found, running⟩ := held.running runner execution executing
      have same : row.id = execution.jobId := by
        cases settlement <;> simp [Settlement.call] at names <;> exact names.symm
      have isCurrent := held.consistent.getJob_eq member
      rw [same, found] at isCurrent
      rw [← Option.some.inj isCurrent]
      exact Or.inr running
    · cases calls

/-- Every punctual step honours the contract. -/
theorem settledOnce_of_punctualStep (held : Held system)
    (stepped : PunctualStep system made after) : SettledOnce system made after where
  settled := by
    cases step_cases stepped.1 with
    | inr idles =>
      obtain ⟨_, runner, _, rfl⟩ := idles
      exact fun row member _ => ⟨row, member, rfl, rfl⟩
    | inl calls =>
      obtain ⟨call, calls, rfl⟩ := calls
      apply SettledKept.of_change held.consistent (tableChange_perform held.consistent made.2 call)
      intro row member settled names
      cases call_spares held stepped.2 calls member names with
      | inl cancels =>
        rw [cancels.2] at settled
        cases settled
      | inr running =>
        rw [running] at settled
        cases settled
  stale := by
    intro runner settlement execution _ executing recovered
    have fresh := (held.running runner execution executing).1
    rw [fresh] at recovered
    cases recovered
  live := (held.step stepped).consistent.pending
  noIndexFailure := by
    unfold JobSystem.thrown
    split
    next call calls =>
      have admitted : (call.perform made.2 system.table).1 ≠ .error .pendingIdempotency := by
        apply perform_ne_pendingIdempotency held.consistent
        intro row member wakes
        have spared := call_spares held stepped.2 calls member (Or.inr (Or.inr wakes))
        cases spared with
        | inl cancels =>
          rw [cancels.1] at wakes
          simp at wakes
        | inr running =>
          rw [running]
          rfl
      split
      next failure thrown =>
        intro same
        rw [Option.some.inj same] at thrown
        exact admitted thrown
      · exact nofun
    · exact nofun

/-! ## Runs -/

theorem SettledKept.refl (table : JobTable) : SettledKept table table := fun row member _ => ⟨row, member, rfl, rfl⟩

theorem SettledKept.trans {first second third : JobTable} (early : SettledKept first second)
    (late : SettledKept second third) : SettledKept first third := by
  intro row member settled
  obtain ⟨kept, keptMember, keptId, keptStatus⟩ := early row member settled
  obtain ⟨last, lastMember, lastId, lastStatus⟩ := late kept keptMember (by rw [keptStatus]; exact settled)
  exact ⟨last, lastMember, lastId.trans keptId, lastStatus.trans keptStatus⟩

theorem settledKept_of_reaches {final : JobSystem} (held : Held system)
    (reached : Reaches PunctualStep system labels final) : SettledKept system.table final.table := by
  induction reached with
  | start => exact SettledKept.refl system.table
  | next before stepped ih =>
    exact ih.trans (settledOnce_of_punctualStep (held_of_reaches held before) stepped).settled

/-- In a run in which no lease recovery takes a job from a runner that still executes it, and no
cancellation names a settled job or one in execution, every step honours the contract, and a settled
job stays as it is to the end. -/
theorem settled_once_if_punctual {labels later : List (JobLabel × Int)} {system final : JobSystem}
    (reached : Reaches PunctualStep .start labels system) (continued : Reaches PunctualStep system later final) :
    (∀ made after, PunctualStep system made after → SettledOnce system made after) ∧
      SettledKept system.table final.table := by
  have held : Held system := held_of_reaches held_start reached
  exact ⟨fun made after stepped => settledOnce_of_punctualStep held stepped, settledKept_of_reaches held continued⟩

theorem punctual_of_no_expired {runner ownerId : String} {nowUtc : Int}
    (none : (system.table.all fun row => !isLeaseExpired ownerId nowUtc row) = true) :
    Punctual system (.drain runner ownerId, nowUtc) := by
  intro row member expired
  have notExpired := List.all_eq_true.mp none row member
  rw [expired] at notExpired
  cases notExpired

/-! ### Two runners and one job -/

def retention : EnqueueJobInput := ⟨"local", .captureRetention, "capture_retention"⟩

/-- The first runner's lease runs out while it executes; the second one recovers the job and completes it. -/
def overtaken : List (JobLabel × Int) :=
  [(.enqueue retention 500 "job_1", 0), (.drain "status-server:1" "local", 10),
    (.claim "status-server:1" "local" 120 true, 10), (.drain "status-server:2" "local", 200000),
    (.claim "status-server:2" "local" 120 true, 200000), (.settle "status-server:2" .completed, 200020)]

/-- The job that the second runner completed waits again after the first one reports its failure. -/
theorem stale_failure_wakes_settled_job :
    ¬ ∀ labels system made after, Reaches (Follows JobSystem.step) .start labels system →
      system.step made = some after → SettledOnce system made after := by
  intro contract
  have seen : ((follow JobSystem.step .start overtaken).any fun system =>
      system.table.any (fun row => row.id == "job_1" && row.status == .completed) &&
        (system.step (.settle "status-server:1" (.failed "timeout"), 200030)).any fun after =>
          after.table.all fun row => row.status == .queued) = true := by decide +kernel
  obtain ⟨system, reached, observed⟩ := reaches_of_any seen
  rw [Bool.and_eq_true, Option.any_eq_true] at observed
  obtain ⟨completed, after, stepped, queued⟩ := observed
  obtain ⟨row, member, isCompleted⟩ := List.any_eq_true.mp completed
  rw [Bool.and_eq_true, beq_iff_eq, beq_iff_eq] at isCompleted
  have settled : row.status.isSettled = true := by rw [isCompleted.2]; rfl
  obtain ⟨kept, keptMember, _, sameStatus⟩ := (contract _ _ _ _ reached stepped).settled row member settled
  have waits := List.all_eq_true.mp queued kept keptMember
  rw [sameStatus, isCompleted.2] at waits
  cases waits

theorem reaches_snoc (reached : Reaches PunctualStep .start labels system) (made : JobLabel × Int)
    (stepped : system.step made = some after) (punctual : Punctual system made) :
    Reaches PunctualStep .start (labels ++ [made]) after := reached.next ⟨stepped, punctual⟩

/-- One runner claims a job and completes it while its lease lasts. -/
theorem settled_once_one_runner :
    ∃ system final : JobSystem, (∀ made after, PunctualStep system made after → SettledOnce system made after) ∧
      SettledKept system.table final.table ∧ final.table.map JobRow.status = [JobStatus.completed] := by
  have enqueued := reaches_snoc .start (.enqueue retention 500 "job_1", 0) rfl trivial
  have drained := reaches_snoc enqueued (.drain "status-server:1" "local", 10) rfl (punctual_of_no_expired (by decide +kernel))
  have claimed := reaches_snoc drained (.claim "status-server:1" "local" 120 true, 10) rfl trivial
  have contract := settled_once_if_punctual claimed
    (@Reaches.next _ _ PunctualStep _ _ _ _ (.settle "status-server:1" .completed, 20) .start ⟨rfl, trivial⟩)
  exact ⟨_, _, contract.1, contract.2, by decide +kernel⟩

end SiftKit.Assistant
