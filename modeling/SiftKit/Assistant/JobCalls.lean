import SiftKit.Assistant.JobEffects

/-! # Calls of the job store

Every method of the store as one call, and what a call can do to one row: the guard of its statement
and the columns that it sets.
-/

namespace SiftKit.Assistant

open SiftKit.Tables

/-! ## Calls -/


/-- A call of the store with its arguments; an enqueue with the id that the generator draws. -/
inductive JobCall where
  | enqueue (input : EnqueueJobInput) (priority : Rat) (id : String)
  | enqueueSuperseding (input : EnqueueJobInput) (priority : Rat) (id : String)
  | claimNext (input : ClaimJobInput)
  | complete (jobId : String)
  | fail (jobId errorMessage : String)
  | cancel (jobId : String)
  | requeuePreempted (jobId : String)
  | recoverExpiredLeases (ownerId : String)
  deriving DecidableEq

/-- What a call answers: a job or none, or how many jobs it recovered. -/
inductive JobAnswer where
  | job (row : Option JobRow)
  | recovered (jobs : Nat)
  deriving DecidableEq

def answering {Value : Type} (read : Value → JobAnswer) (performed : Except JobFailure Value × JobTable) :
    Except JobFailure JobAnswer × JobTable :=
  (performed.1.map read, performed.2)

def JobCall.perform (nowUtc : Int) (table : JobTable) : JobCall → Except JobFailure JobAnswer × JobTable
  | .enqueue input priority id => answering .job (Assistant.enqueue input priority id nowUtc table)
  | .enqueueSuperseding input priority id =>
    answering .job (Assistant.enqueueSuperseding input priority id nowUtc table)
  | .claimNext input => answering .job (Assistant.claimNext input nowUtc table)
  | .complete jobId => answering (fun row => .job (some row)) (Assistant.complete jobId nowUtc table)
  | .fail jobId errorMessage => answering (fun row => .job (some row)) (Assistant.fail jobId errorMessage nowUtc table)
  | .cancel jobId => answering (fun row => .job (some row)) (Assistant.cancel jobId nowUtc table)
  | .requeuePreempted jobId => answering (fun row => .job (some row)) (Assistant.requeuePreempted jobId nowUtc table)
  | .recoverExpiredLeases ownerId => answering .recovered (Assistant.recoverExpiredLeases ownerId nowUtc table)

structure TimedJobCall where
  call : JobCall
  nowUtc : Int
  deriving DecidableEq

/-! ## What a call does to a row -/

/-- A call rewrites a row, given at what time. -/
inductive Touched (nowUtc : Int) (row : JobRow) : JobCall → JobRow → Prop where
  | superseded {input : EnqueueJobInput} {priority : Rat} {id : String} (queued : row.status = .queued) :
    Touched nowUtc row (.enqueueSuperseding input priority id) (superseded nowUtc row)
  | claimed {input : ClaimJobInput} (queued : row.status = .queued) :
    Touched nowUtc row (.claimNext input) (claimed input nowUtc row)
  | completed : Touched nowUtc row (.complete row.id) (terminal .completed none nowUtc row)
  | cancelled : Touched nowUtc row (.cancel row.id) (terminal .cancelled none nowUtc row)
  | deadLettered {errorMessage : String} (spent : row.maxAttempts ≤ row.attempts) :
    Touched nowUtc row (.fail row.id errorMessage) (terminal .deadLetter (some errorMessage) nowUtc row)
  | retried {errorMessage : String} (left : row.attempts < row.maxAttempts) :
    Touched nowUtc row (.fail row.id errorMessage) (requeuedWithBackoff errorMessage row.attempts nowUtc row)
  | preempted : Touched nowUtc row (.requeuePreempted row.id) (preempted nowUtc row)
  | recovered {ownerId : String} (expired : isLeaseExpired ownerId nowUtc row = true) :
    Touched nowUtc row (.recoverExpiredLeases ownerId) (recovered nowUtc row)

/-- The table after a call: its rows, some of them touched, and perhaps one new row. -/
structure TableChange (nowUtc : Int) (call : JobCall) (table after : JobTable) : Prop where
  consistent : Consistent after
  rows : ∃ selects rewrite, KeepsKeys rewrite ∧
    (∀ row ∈ table, selects row = true → Touched nowUtc row call (rewrite row)) ∧
    (after = updateWhere selects rewrite table ∨
      ∃ (input : EnqueueJobInput) (id : String) (priority : Int), (∀ row ∈ table, row.id ≠ id) ∧
        after = updateWhere selects rewrite table ++ [input.row id priority nowUtc])

section

variable {nowUtc : Int} {call : JobCall} {table : JobTable}

theorem updateWhere_none (rewrite : JobRow → JobRow) : updateWhere (fun _ => false) rewrite table = table := by
  simp [updateWhere]

theorem TableChange.kept (consistent : Consistent table) : TableChange nowUtc call table table :=
  ⟨consistent, fun _ => false, id, ⟨fun _ => rfl, fun _ => rfl⟩, fun _ _ selected => absurd selected Bool.false_ne_true,
    Or.inl (updateWhere_none id).symm⟩

theorem TableChange.rewritten {selects : JobRow → Bool} {rewrite : JobRow → JobRow} (kept : KeepsKeys rewrite)
    (consistent : Consistent (updateWhere selects rewrite table))
    (touched : ∀ row ∈ table, selects row = true → Touched nowUtc row call (rewrite row)) :
    TableChange nowUtc call table (updateWhere selects rewrite table) :=
  ⟨consistent, selects, rewrite, kept, touched, Or.inl rfl⟩

theorem tableChange_updateJob {jobId : String} {rewrite : JobRow → JobRow} (consistent : Consistent table)
    (kept : KeepsKeys rewrite) (touched : ∀ row ∈ table, row.id = jobId → Touched nowUtc row call (rewrite row)) :
    TableChange nowUtc call table (answerJob jobId (updateJob jobId rewrite table)).2 := by
  by_cases admitted : PendingDistinct (updateWhere (fun row => row.id == jobId) rewrite table)
  · rw [answerJob_updateJob kept admitted]
    apply TableChange.rewritten kept
    · refine ⟨?_, admitted⟩
      rw [ids_updateWhere kept]
      exact consistent.ids
    · intro row member selected
      exact touched row member (beq_iff_eq.mp selected)
  · rw [answerJob_refused admitted]
    exact .kept consistent

/-- Every call keeps the table consistent, and changes its rows in the ways of `Touched` alone. -/
theorem tableChange_perform (consistent : Consistent table) (nowUtc : Int) (call : JobCall) :
    TableChange nowUtc call table (call.perform nowUtc table).2 := by
  cases call with
  | enqueue input priority id =>
    cases enqueue_cases consistent input priority id nowUtc with
    | inl quiet =>
      rw [JobCall.perform, answering, quiet.1]
      exact .kept consistent
    | inr inserted =>
      obtain ⟨fresh, appended, performed⟩ := inserted
      rw [JobCall.perform, answering, performed]
      refine ⟨appended, fun _ => false, (fun row => row), ⟨fun _ => rfl, fun _ => rfl⟩, ?_, ?_⟩
      · intro _ _ selected
        cases selected
      · exact Or.inr ⟨input, id, priority.num, fresh, by rw [updateWhere_none]⟩
  | enqueueSuperseding input priority id =>
    have cancelled := consistent_superseded consistent input nowUtc
    have touched : ∀ row ∈ table, isSuperseded input row = true →
        Touched nowUtc row (.enqueueSuperseding input priority id) (superseded nowUtc row) := by
      intro row _ selected
      simp only [isSuperseded, Bool.and_eq_true, beq_iff_eq] at selected
      exact .superseded selected.2
    rw [JobCall.perform, answering, enqueueSuperseding_eq consistent]
    cases enqueue_cases cancelled input priority id nowUtc with
    | inl quiet =>
      rw [quiet.1]
      exact .rewritten (keepsKeys_superseded nowUtc) cancelled touched
    | inr inserted =>
      obtain ⟨fresh, appended, performed⟩ := inserted
      rw [performed]
      refine ⟨appended, isSuperseded input, superseded nowUtc, keepsKeys_superseded nowUtc, touched, ?_⟩
      refine Or.inr ⟨input, id, priority.num, ?_, rfl⟩
      intro row member same
      obtain ⟨stored, storedMember, storedId⟩ := ids_known (keepsKeys_superseded nowUtc) ⟨row, member, same⟩
      exact fresh stored storedMember storedId
  | claimNext input =>
    rw [JobCall.perform, answering]
    cases claimNext_cases consistent input nowUtc with
    | inl none =>
      rw [none]
      exact .kept consistent
    | inr taken =>
      obtain ⟨candidate, _, _, performed⟩ := taken
      rw [performed]
      apply TableChange.rewritten (keepsKeys_claimed input nowUtc) (consistent_claimed consistent candidate.id input nowUtc)
      intro row _ selected
      simp only [isQueuedJob, Bool.and_eq_true, beq_iff_eq] at selected
      exact .claimed selected.2
  | complete jobId =>
    apply tableChange_updateJob consistent (keepsKeys_terminal _ _ nowUtc)
    rintro row _ rfl
    exact .completed
  | cancel jobId =>
    apply tableChange_updateJob consistent (keepsKeys_terminal _ _ nowUtc)
    rintro row _ rfl
    exact .cancelled
  | requeuePreempted jobId =>
    apply tableChange_updateJob consistent (keepsKeys_preempted nowUtc)
    rintro row _ rfl
    exact .preempted
  | fail jobId errorMessage =>
    rw [JobCall.perform, answering]
    cases found : getJob table jobId with
    | none =>
      rw [fail_unknown found]
      exact .kept consistent
    | some job =>
      have isJob : ∀ row ∈ table, row.id = jobId → row = job := by
        rintro row member rfl
        rw [consistent.getJob_eq member] at found
        exact Option.some.inj found
      rw [fail_eq found]
      split
      next spent =>
        apply tableChange_updateJob consistent (keepsKeys_terminal _ _ nowUtc)
        intro row member same
        rw [isJob row member same, ← same, isJob row member same]
        exact .deadLettered spent
      next left =>
        apply tableChange_updateJob consistent (keepsKeys_requeuedWithBackoff _ _ nowUtc)
        intro row member same
        rw [isJob row member same, ← same, isJob row member same]
        exact .retried (Nat.lt_of_not_le left)
  | recoverExpiredLeases ownerId =>
    rw [JobCall.perform, answering, recoverExpiredLeases_eq consistent]
    exact .rewritten (keepsKeys_recovered nowUtc) (consistent_recovered consistent ownerId nowUtc)
      fun _ _ expired => .recovered expired

end

end SiftKit.Assistant
