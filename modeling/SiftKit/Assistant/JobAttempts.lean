import SiftKit.Foundation.Runs
import SiftKit.Assistant.JobCalls

/-! # The attempts of a job

A run of calls of the job store with the accounts of every job: how often it was claimed, and how
many claims `requeuePreempted` gave back.  The column `attempts` is the difference of the two in every
run.  The budget is checked by `fail` alone: a claim stays within it as long as lease recovery returns
no job to the queue whose budget is spent.
-/

namespace SiftKit.Assistant

open SiftKit.Tables SiftKit.Runs JobCall

/-! ## Accounts -/

/-- A store with the jobs that were claimed and the claims that were given back, one entry for each. -/
structure JobHistory where
  table : JobTable
  claims : List String
  givenBack : List String
  deriving DecidableEq

def JobHistory.start : JobHistory := ⟨[], [], []⟩

def JobCall.claimedJob (answer : Except JobFailure JobAnswer) : JobCall → List String
  | .claimNext _ =>
    match answer with
    | .ok (.job (some row)) => [row.id]
    | _ => []
  | _ => []

/-- The job whose claim a call gave back; a job without a consumed attempt has none to give. -/
def JobCall.givenBackJob (table : JobTable) (answer : Except JobFailure JobAnswer) : JobCall → List String
  | .requeuePreempted jobId =>
    match answer, getJob table jobId with
    | .ok _, some row => if 0 < row.attempts then [jobId] else []
    | _, _ => []
  | _ => []

def JobHistory.step (history : JobHistory) (made : TimedJobCall) : JobHistory where
  table := (made.call.perform made.nowUtc history.table).2
  claims := history.claims ++ made.call.claimedJob (made.call.perform made.nowUtc history.table).1
  givenBack := history.givenBack ++ made.call.givenBackJob history.table (made.call.perform made.nowUtc history.table).1

/-- A job is claimed at most `max_attempts` times beyond the claims that were given back. -/
def AttemptsBounded (history : JobHistory) : Prop :=
  ∀ row ∈ history.table, history.claims.count row.id ≤ row.maxAttempts + history.givenBack.count row.id

instance (history : JobHistory) : Decidable (AttemptsBounded history) :=
  inferInstanceAs (Decidable (∀ row ∈ history.table, _ ≤ _))

/-! ## The column counts the claims -/

structure Accounted (history : JobHistory) : Prop where
  consistent : Consistent history.table
  counts : ∀ row ∈ history.table, history.claims.count row.id = row.attempts + history.givenBack.count row.id
  claimsKnown : ∀ id ∈ history.claims, ∃ row ∈ history.table, row.id = id
  givenBackKnown : ∀ id ∈ history.givenBack, ∃ row ∈ history.table, row.id = id

theorem accounted_start : Accounted .start where
  consistent := consistent_nil
  counts _ member := absurd member List.not_mem_nil
  claimsKnown _ member := absurd member List.not_mem_nil
  givenBackKnown _ member := absurd member List.not_mem_nil

section

variable {table : JobTable} {claims givenBack : List String} {selects : JobRow → Bool} {rewrite : JobRow → JobRow}

/-- A rewrite keeps the accounts if it moves the column of each row as much as the counts of its id. -/
theorem Accounted.rewritten (accounted : Accounted ⟨table, claims, givenBack⟩) (kept : KeepsKeys rewrite)
    (consistent : Consistent (updateWhere selects rewrite table)) {newClaims newGivenBack : List String}
    (claimsKnown : ∀ id ∈ newClaims, ∃ row ∈ table, row.id = id)
    (givenBackKnown : ∀ id ∈ newGivenBack, ∃ row ∈ table, row.id = id)
    (moves : ∀ row ∈ table,
      row.attempts + newClaims.count row.id =
        (if selects row then rewrite row else row).attempts + newGivenBack.count row.id) :
    Accounted ⟨updateWhere selects rewrite table, claims ++ newClaims, givenBack ++ newGivenBack⟩ where
  consistent := consistent
  counts := by
    intro updated member
    obtain ⟨row, rowMember, rfl⟩ := mem_updateWhere.mp member
    have sameId : (if selects row then rewrite row else row).id = row.id := by
      split
      · exact kept.id row
      · rfl
    have before := accounted.counts row rowMember
    have moved := moves row rowMember
    simp only [List.count_append, sameId] at before ⊢
    omega
  claimsKnown := by
    intro id member
    apply ids_known kept
    cases List.mem_append.mp member with
    | inl early => exact accounted.claimsKnown id early
    | inr late => exact claimsKnown id late
  givenBackKnown := by
    intro id member
    apply ids_known kept
    cases List.mem_append.mp member with
    | inl early => exact accounted.givenBackKnown id early
    | inr late => exact givenBackKnown id late

theorem Accounted.snoc (accounted : Accounted ⟨table, claims, givenBack⟩) {row : JobRow}
    (fresh : ∀ stored ∈ table, stored.id ≠ row.id) (consistent : Consistent (table ++ [row]))
    (unclaimed : row.attempts = 0) : Accounted ⟨table ++ [row], claims, givenBack⟩ where
  consistent := consistent
  counts := by
    intro stored member
    cases List.mem_append.mp member with
    | inl early => exact accounted.counts stored early
    | inr late =>
      rw [List.mem_singleton.mp late]
      have neverClaimed : claims.count row.id = 0 := by
        rw [List.count_eq_zero]
        intro claimed
        obtain ⟨other, otherMember, same⟩ := accounted.claimsKnown row.id claimed
        exact fresh other otherMember same
      have neverGivenBack : givenBack.count row.id = 0 := by
        rw [List.count_eq_zero]
        intro given
        obtain ⟨other, otherMember, same⟩ := accounted.givenBackKnown row.id given
        exact fresh other otherMember same
      change claims.count row.id = row.attempts + givenBack.count row.id
      omega
  claimsKnown := by
    intro id member
    obtain ⟨stored, storedMember, same⟩ := accounted.claimsKnown id member
    exact ⟨stored, List.mem_append_left _ storedMember, same⟩
  givenBackKnown := by
    intro id member
    obtain ⟨stored, storedMember, same⟩ := accounted.givenBackKnown id member
    exact ⟨stored, List.mem_append_left _ storedMember, same⟩

end

variable {history : JobHistory}

section

variable (accounted : Accounted history)

include accounted

/-- A call that claims nothing and gives nothing back, seen in the accounts of the rows. -/
theorem Accounted.quiet {nowUtc : Int} {call : JobCall}
    (noClaim : call.claimedJob (call.perform nowUtc history.table).1 = [])
    (noGivenBack : call.givenBackJob history.table (call.perform nowUtc history.table).1 = [])
    (attempts : ∀ row rewritten, Touched nowUtc row call rewritten → rewritten.attempts = row.attempts) :
    Accounted (history.step ⟨call, nowUtc⟩) := by
  obtain ⟨table, claims, givenBack⟩ := history
  obtain ⟨consistent, selects, rewrite, kept, touched, after⟩ := tableChange_perform accounted.consistent nowUtc call
  simp only [JobHistory.step, noClaim, noGivenBack, List.append_nil]
  have consistentRows : Consistent (updateWhere selects rewrite table) := by
    cases after with
    | inl same => exact same ▸ consistent
    | inr inserted =>
      obtain ⟨input, id, priority, _, same⟩ := inserted
      rw [same] at consistent
      exact consistent.of_append
  have moved : Accounted ⟨updateWhere selects rewrite table, claims ++ [], givenBack ++ []⟩ := by
    apply accounted.rewritten kept consistentRows
    · exact fun _ member => absurd member List.not_mem_nil
    · exact fun _ member => absurd member List.not_mem_nil
    · intro row member
      split
      next selected => rw [attempts row _ (touched row member selected)]
      · rfl
  rw [List.append_nil, List.append_nil] at moved
  cases after with
  | inl same =>
    rw [same]
    exact moved
  | inr inserted =>
    obtain ⟨input, id, priority, fresh, same⟩ := inserted
    rw [same] at consistent ⊢
    apply moved.snoc _ consistent rfl
    intro stored member sameId
    obtain ⟨row, rowMember, rfl⟩ := mem_updateWhere.mp member
    apply fresh row rowMember
    change _ = (input.row id priority nowUtc).id
    rw [← sameId]
    split
    · exact (kept.id row).symm
    · rfl

theorem Accounted.claim (input : ClaimJobInput) (nowUtc : Int) :
    Accounted (history.step ⟨.claimNext input, nowUtc⟩) := by
  cases claimNext_cases accounted.consistent input nowUtc with
  | inl none =>
    have unchanged : history.step ⟨.claimNext input, nowUtc⟩ = history := by
      simp [JobHistory.step, perform, answering, none, claimedJob, givenBackJob, Except.map]
    rw [unchanged]
    exact accounted
  | inr taken =>
    obtain ⟨candidate, member, claimable, performed⟩ := taken
    have step : history.step ⟨.claimNext input, nowUtc⟩ =
        ⟨updateWhere (isQueuedJob candidate.id) (claimed input nowUtc) history.table,
          history.claims ++ [candidate.id], history.givenBack ++ []⟩ := by
      simp [JobHistory.step, perform, answering, performed, claimedJob, givenBackJob,
        Except.map, claimed]
    rw [step]
    apply accounted.rewritten (keepsKeys_claimed input nowUtc)
      (consistent_claimed accounted.consistent candidate.id input nowUtc)
    · intro id idMember
      rw [List.mem_singleton.mp idMember]
      exact ⟨candidate, member, rfl⟩
    · exact fun _ none => absurd none List.not_mem_nil
    · intro row rowMember
      by_cases same : row.id = candidate.id
      · -- the ids are distinct, so the row is the candidate
        have isCandidate : row = candidate := by
          have found := accounted.consistent.getJob_eq rowMember
          rw [same, accounted.consistent.getJob_eq member] at found
          exact (Option.some.inj found).symm
        have queued : candidate.status = .queued := by
          simp only [isClaimable, Bool.and_eq_true, beq_iff_eq] at claimable
          exact claimable.1.1.2
        simp [isCandidate, isQueuedJob, queued, claimed]
      · have counted : [candidate.id].count row.id = 0 := List.count_eq_zero.mpr fun isIn => same (List.mem_singleton.mp isIn)
        simp [isQueuedJob, same, counted]

theorem Accounted.giveBack (jobId : String) (nowUtc : Int) :
    Accounted (history.step ⟨.requeuePreempted jobId, nowUtc⟩) := by
  have kept := keepsKeys_preempted nowUtc
  by_cases admitted : PendingDistinct (updateWhere (fun row => row.id == jobId) (preempted nowUtc) history.table)
  · have performed := answerJob_updateJob kept admitted
    have step : history.step ⟨.requeuePreempted jobId, nowUtc⟩ =
        ⟨updateWhere (fun row => row.id == jobId) (preempted nowUtc) history.table, history.claims ++ [],
          history.givenBack ++ givenBackJob history.table
            (((requireJob history.table jobId).map (preempted nowUtc)).map fun row => .job (some row))
            (.requeuePreempted jobId)⟩ := by
      simp only [JobHistory.step, perform, answering, requeuePreempted, performed, claimedJob]
    rw [step]
    apply accounted.rewritten kept
    · refine ⟨?_, admitted⟩
      rw [ids_updateWhere kept]
      exact accounted.consistent.ids
    · exact fun _ none => absurd none List.not_mem_nil
    · intro id idMember
      cases found : getJob history.table jobId with
      | none => simp [givenBackJob, requireJob, found, Except.map] at idMember
      | some row =>
        simp only [givenBackJob, requireJob, found, Except.map] at idMember
        split at idMember
        · rw [List.mem_singleton.mp idMember]
          exact ⟨row, mem_of_getJob found, id_of_getJob found⟩
        · cases idMember
    · intro row member
      by_cases same : row.id = jobId
      · have found := accounted.consistent.getJob_eq member
        rw [same] at found
        simp only [same, beq_self_eq_true, if_true, givenBackJob, requireJob, found, Except.map, preempted]
        split
        · simp
          omega
        · simp
          omega
      · have notGiven : (givenBackJob history.table
            (((requireJob history.table jobId).map (preempted nowUtc)).map fun row => .job (some row))
            (.requeuePreempted jobId)).count row.id = 0 := by
          rw [List.count_eq_zero]
          intro isIn
          simp only [givenBackJob] at isIn
          split at isIn
          · split at isIn
            · exact same (List.mem_singleton.mp isIn)
            · cases isIn
          · cases isIn
        simp only [beq_eq_false_iff_ne.mpr same, notGiven, Bool.false_eq_true, if_false, List.count_nil]
  · have unchanged : history.step ⟨.requeuePreempted jobId, nowUtc⟩ = history := by
      simp [JobHistory.step, perform, answering, requeuePreempted, answerJob_refused admitted,
        claimedJob, givenBackJob, Except.map]
    rw [unchanged]
    exact accounted

/-- The column `attempts` is the claims less those given back, after every call. -/
theorem accounted_step (made : TimedJobCall) : Accounted (history.step made) := by
  obtain ⟨call, nowUtc⟩ := made
  cases call with
  | claimNext input => exact accounted.claim input nowUtc
  | requeuePreempted jobId => exact accounted.giveBack jobId nowUtc
  | enqueue | enqueueSuperseding | complete | fail | cancel | recoverExpiredLeases =>
    apply accounted.quiet rfl rfl
    intro row rewritten touched
    cases touched <;> rfl

end

/-! ## The budget -/

/-- A lease recovery keeps the budget if every job whose lease it finds expired has an attempt left. -/
def KeepsBudget (history : JobHistory) (made : TimedJobCall) : Prop :=
  match made.call with
  | .recoverExpiredLeases ownerId =>
    ∀ row ∈ history.table, isLeaseExpired ownerId made.nowUtc row = true → row.attempts < row.maxAttempts
  | _ => True

instance (history : JobHistory) (made : TimedJobCall) : Decidable (KeepsBudget history made) :=
  match made with
  | ⟨.recoverExpiredLeases ownerId, nowUtc⟩ =>
    inferInstanceAs (Decidable (∀ row ∈ history.table, isLeaseExpired ownerId nowUtc row = true → _ < _))
  | ⟨.enqueue .., _⟩ | ⟨.enqueueSuperseding .., _⟩ | ⟨.claimNext .., _⟩ | ⟨.complete .., _⟩ | ⟨.fail .., _⟩
  | ⟨.cancel .., _⟩ | ⟨.requeuePreempted .., _⟩ => .isTrue trivial

/-- A waiting job has an attempt left, and no job has consumed more than its budget. -/
structure WithinBudget (row : JobRow) : Prop where
  some : 0 < row.maxAttempts
  consumed : row.attempts ≤ row.maxAttempts
  waiting : row.status = .queued → row.attempts < row.maxAttempts

theorem WithinBudget.touched {made : TimedJobCall} (keeps : KeepsBudget history made) {row rewritten : JobRow}
    (member : row ∈ history.table) (within : WithinBudget row) (touched : Touched made.nowUtc row made.call rewritten) :
    WithinBudget rewritten := by
  have consumed := within.consumed
  have available := within.some
  unfold KeepsBudget at keeps
  generalize made.call = call at touched keeps
  cases touched with
  | superseded | completed | cancelled | deadLettered => exact ⟨within.some, within.consumed, nofun⟩
  | claimed queued => exact ⟨within.some, within.waiting queued, nofun⟩
  | retried left => exact ⟨within.some, within.consumed, fun _ => left⟩
  | recovered expired => exact ⟨within.some, within.consumed, fun _ => keeps row member expired⟩
  | preempted =>
    refine ⟨within.some, ?_, fun _ => ?_⟩
    · simp only [preempted]
      omega
    · simp only [preempted]
      omega

theorem withinBudget_step (accounted : Accounted history) {made : TimedJobCall} (keeps : KeepsBudget history made)
    (within : ∀ row ∈ history.table, WithinBudget row) : ∀ row ∈ (history.step made).table, WithinBudget row := by
  obtain ⟨_, selects, rewrite, _, touched, after⟩ := tableChange_perform accounted.consistent made.nowUtc made.call
  have rows : ∀ row ∈ updateWhere selects rewrite history.table, WithinBudget row := by
    intro updated member
    obtain ⟨row, rowMember, rfl⟩ := mem_updateWhere.mp member
    split
    next selected => exact (within row rowMember).touched keeps rowMember (touched row rowMember selected)
    · exact within row rowMember
  intro row member
  change row ∈ (made.call.perform made.nowUtc history.table).2 at member
  cases after with
  | inl same =>
    rw [same] at member
    exact rows row member
  | inr inserted =>
    obtain ⟨input, id, priority, _, same⟩ := inserted
    rw [same] at member
    exact forall_mem_snoc.mpr ⟨rows, Nat.succ_pos 2, Nat.zero_le 3, fun _ => Nat.succ_pos 2⟩ row member

/-! ## Runs -/

abbrev EveryCallKeepsBudget (history : JobHistory) (calls : List TimedJobCall) : Prop :=
  Throughout JobHistory.step KeepsBudget history calls

/-- The accounts of a run within the budget. -/
structure Budgeted (history : JobHistory) : Prop where
  accounted : Accounted history
  within : ∀ row ∈ history.table, WithinBudget row

theorem budgeted_run {calls : List TimedJobCall} (budgeted : Budgeted history)
    (keeps : EveryCallKeepsBudget history calls) : Budgeted (run JobHistory.step history calls) :=
  run_invariant_throughout Budgeted
    (fun _ made budgeted keeps =>
      ⟨accounted_step budgeted.accounted made, withinBudget_step budgeted.accounted keeps budgeted.within⟩)
    budgeted keeps

theorem attemptsBounded_iff (accounted : Accounted history) :
    AttemptsBounded history ↔ ∀ row ∈ history.table, row.attempts ≤ row.maxAttempts := by
  constructor
  · intro bounded row member
    have counts := accounted.counts row member
    have claims := bounded row member
    omega
  · intro consumed row member
    have counts := accounted.counts row member
    have within := consumed row member
    omega

/-- In a run whose lease recoveries return no job to the queue that has no attempt left, every job is
claimed at most `max_attempts` times beyond the claims given back. -/
theorem attempts_bounded_if_recovery_keeps_budget (calls : List TimedJobCall)
    (keeps : EveryCallKeepsBudget .start calls) : AttemptsBounded (run JobHistory.step .start calls) := by
  have budgeted : Budgeted (run JobHistory.step .start calls) :=
    budgeted_run ⟨accounted_start, fun _ member => absurd member List.not_mem_nil⟩ keeps
  rw [attemptsBounded_iff budgeted.accounted]
  intro row member
  exact (budgeted.within row member).consumed

/-! ### A runner that crashes -/

def ingestion : EnqueueJobInput := ⟨"local", .conversationIngestion, "ev_1"⟩

def crashingRunner : ClaimJobInput := ⟨"local", "status-server:1", 120, true⟩

/-- The runner claims and never reports; the next start recovers the lease after it ran out. -/
def crash (round : Nat) : List TimedJobCall :=
  [⟨.claimNext crashingRunner, 200000 * round⟩, ⟨.recoverExpiredLeases "local", 200000 * round + 120001⟩]

/-- Two crashes, then a claim that is completed: the third attempt of three. -/
theorem attempts_bounded_two_crashes :
    AttemptsBounded (run JobHistory.step .start
      (⟨.enqueue ingestion 800 "job_1", 0⟩ :: crash 0 ++ crash 1 ++
        [⟨.claimNext crashingRunner, 400000⟩, ⟨.complete "job_1", 400010⟩])) :=
  attempts_bounded_if_recovery_keeps_budget _ (by decide +kernel)

/-- A runner that crashes every time is handed the job a fourth time. -/
theorem crash_loop_exceeds_budget :
    ¬ ∀ calls : List TimedJobCall, AttemptsBounded (run JobHistory.step .start calls) := by
  intro bounded
  have fourth := bounded
    (⟨.enqueue ingestion 800 "job_1", 0⟩ :: crash 0 ++ crash 1 ++ crash 2 ++ [⟨.claimNext crashingRunner, 600000⟩])
  revert fourth
  decide +kernel

end SiftKit.Assistant
