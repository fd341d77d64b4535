import SiftKit.RepoSearch.ApprovalEffects
import SiftKit.Foundation.Runs

/-! # An approval is decided once

Over every run of a gate: requests, submissions, timers, aborts and changes of the mode in any order, with
callbacks that throw or abort the run.
-/

namespace SiftKit.RepoSearch.Approvals

open SiftKit.Runs

variable {ApprovalId ToolCall : Type} [DecidableEq ApprovalId]

namespace GateRun

variable {options : GateOptions} {moment : Moment ApprovalId} {randomUuid : Nat → ApprovalId}
  {run : GateRun ApprovalId ToolCall} {approvalId : ApprovalId}

/-! ## Only an accepted decision waits for the lease -/

theorem reject_resuming (failure : Failure) : (run.reject approvalId failure).resuming = run.resuming := by
  unfold reject
  split <;> rfl

theorem stop_resuming (reason : String) : (run.resolve options approvalId (.abort reason)).resuming = run.resuming := by
  simp only [resolve, ApprovalDecision.isAbort, Bool.not_true, Bool.and_false]
  split <;> rfl

theorem abandon_resuming (reason : String) : (run.abandon options moment approvalId reason).resuming = run.resuming := by
  simp only [abandon]
  obtain ⟨failure, recorded⟩ | ⟨evidence, written, recorded⟩ :=
    @recordFenced_cases _ _ options (run.clearPending approvalId) (moment.recordAbandoned approvalId)
      (abandonedEvidence moment approvalId)
  all_goals
    simp only [recorded, reject_resuming, withEvidence]
    exact clearPending_resuming approvalId

theorem dispatch_resuming (reason : String) (ids : List ApprovalId) :
    (run.dispatch options moment reason ids).resuming = run.resuming := by
  induction ids generalizing run with
  | nil => rfl
  | cons id later ih =>
    rw [dispatch, ih]
    split
    · exact abandon_resuming reason
    · rfl

theorem abort_resuming (reason : String) : (run.abort options moment reason).resuming = run.resuming := by
  unfold abort
  split
  · rfl
  · exact dispatch_resuming reason run.listeners

theorem record_resuming (entry : ResolvedEvidence ApprovalId) : (run.record options moment entry).1.resuming = run.resuming := by
  obtain ⟨failure, recorded⟩ | ⟨failure, reason, recorded⟩ | ⟨evidence, written, recorded⟩ :=
    @record_cases _ _ _ options moment run entry
  · rw [recorded]
  · rw [recorded]
    exact abort_resuming reason
  · rw [recorded]
    rfl

theorem expireApproval_ends {entry : PendingApproval} (found : run.pending.get? approvalId = some entry) :
    ∃ reason, run.expireApproval options moment approvalId =
      ((run.record options moment (expiredEvidence options moment approvalId)).1.clearPending approvalId).resolve options approvalId
        (.abort reason) := by
  simp only [expireApproval, found]
  split
  next failure _ => exact ⟨_, rfl⟩
  next =>
    split
    next failure _ => exact ⟨_, by rw [clearPending_twice]⟩
    next => exact ⟨_, rfl⟩

theorem expireApproval_resuming : (run.expireApproval options moment approvalId).resuming = run.resuming := by
  cases found : run.pending.get? approvalId with
  | none => simp [expireApproval, found]
  | some entry =>
    obtain ⟨reason, ended⟩ := @expireApproval_ends _ _ _ options moment run approvalId entry found
    rw [ended, stop_resuming, clearPending_resuming, record_resuming]

theorem expireApproval_gone {entry : PendingApproval} (found : run.pending.get? approvalId = some entry) :
    approvalId ∉ (run.expireApproval options moment approvalId).pending.keys := by
  obtain ⟨reason, ended⟩ := @expireApproval_ends _ _ _ options moment run approvalId entry found
  rw [ended, (resolve_leaves _).pending]
  simp

/-! ## Every reachable run -/

/-- A run that operations lead to. -/
structure Lawful (options : GateOptions) (randomUuid : Nat → ApprovalId) (run : GateRun ApprovalId ToolCall) : Prop where
  idle : Idle [] run
  sound : Ledger.Sound options randomUuid run.ledger

theorem Lawful.step (distinct : Function.Injective randomUuid) (lawful : Lawful options randomUuid run)
    (operation : Operation ApprovalId ToolCall) : Lawful options randomUuid (run.step options randomUuid operation) := by
  have advances := step_advances distinct lawful.idle lawful.sound operation
  exact ⟨advances.idle, lawful.sound.steps distinct advances.refines⟩

theorem lawful_start (mode : ApprovalMode) : Lawful options randomUuid (start mode : GateRun ApprovalId ToolCall) := by
  refine ⟨⟨?_, fun aborted => by cases aborted⟩, Ledger.sound_start⟩
  constructor <;> simp [start, OrderedMap.keys, OrderedMap.empty, OrderedMap.get?]

theorem lawful_run (distinct : Function.Injective randomUuid) (mode : ApprovalMode) (operations : List (Operation ApprovalId ToolCall)) :
    Lawful options randomUuid (Runs.run (step options randomUuid) (start mode) operations) :=
  run_invariant (Lawful options randomUuid) (fun _ operation lawful => lawful.step distinct operation) (lawful_start mode) operations

section

variable (lawful : Lawful options randomUuid run)

include lawful

theorem Lawful.heldOpen (waits : approvalId ∈ run.waiting) :
    approvalId ∈ run.timers ∧ approvalId ∈ run.listeners := by
  have timer : approvalId ∈ run.timers := by simpa using lawful.idle.held.waitsArmed approvalId waits
  obtain ⟨entry, found, _⟩ := lawful.idle.held.armed approvalId timer
  exact ⟨timer, (lawful.idle.held.listening approvalId).mpr (mem_keys found)⟩

theorem Lawful.waits_of_timer (timer : approvalId ∈ run.timers) : approvalId ∈ run.waiting := by
  obtain ⟨entry, found, _⟩ := lawful.idle.held.armed approvalId timer
  exact lawful.idle.held.pendingWaits approvalId (mem_keys found)

theorem Lawful.waits_of_listener (listens : approvalId ∈ run.listeners) : approvalId ∈ run.waiting :=
  lawful.idle.held.pendingWaits approvalId ((lawful.idle.held.listening approvalId).mp listens)

/-- Where an approval stands: it was requested at most once, and then it waits, waits for the lease, or settled. -/
theorem Lawful.account (approvalId : ApprovalId) :
    run.waiting.count approvalId + (run.resuming.map Prod.fst).count approvalId + (settlementsOf approvalId run.log).length =
      (requestsOf approvalId run.log).length ∧ (requestsOf approvalId run.log).length ≤ 1 :=
  ⟨lawful.sound.account approvalId, lawful.sound.requestedOnce approvalId⟩

end

theorem Lawful.settled_of_left {after : GateRun ApprovalId ToolCall} (lawful : Lawful options randomUuid run)
    (lawfulAfter : Lawful options randomUuid after) (waits : approvalId ∈ run.waiting) (refines : Refines options randomUuid run after)
    (left : approvalId ∉ after.waiting) (resuming : after.resuming = run.resuming) :
    (settlementsOf approvalId after.log).length = 1 := by
  have before := lawful.account approvalId
  have now := lawfulAfter.account approvalId
  have waited : 0 < run.waiting.count approvalId := List.count_pos_iff.mpr waits
  have gone : after.waiting.count approvalId = 0 := List.count_eq_zero.mpr left
  have kept : (requestsOf approvalId run.log).length ≤ (requestsOf approvalId after.log).length :=
    ((Ledger.log_prefix refines).filterMap _).length_le
  rw [resuming] at now
  omega

section

variable (distinct : Function.Injective randomUuid) (lawful : Lawful options randomUuid run)

include distinct lawful

theorem Lawful.timer_settles (timer : approvalId ∈ run.timers) (moment : Moment ApprovalId) :
    (settlementsOf approvalId (run.timerFires options moment approvalId).log).length = 1 := by
  have lawfulAfter : Lawful options randomUuid (run.timerFires options moment approvalId) :=
    lawful.step distinct (.timerFires approvalId moment)
  have advances : Advances options randomUuid [] run (run.timerFires options moment approvalId) := timerFires_advances lawful.idle
  have fired : run.timerFires options moment approvalId =
      { run with timers := run.timers.filter (· ≠ approvalId) }.expireApproval options moment approvalId := if_pos timer
  obtain ⟨entry, found, _⟩ := lawful.idle.held.armed approvalId timer
  apply lawful.settled_of_left lawfulAfter (lawful.waits_of_timer timer) advances.refines
  · intro waits
    have listens := (lawfulAfter.heldOpen waits).2
    rw [lawfulAfter.idle.held.listening, fired] at listens
    exact @expireApproval_gone _ _ _ options moment { run with timers := run.timers.filter (· ≠ approvalId) } approvalId entry
      found listens
  · rw [fired, expireApproval_resuming]

theorem Lawful.abort_settles (waits : approvalId ∈ run.waiting) (reason : String) (moment : Moment ApprovalId) :
    (settlementsOf approvalId (run.abort options moment reason).log).length = 1 := by
  have effect : Advances options randomUuid [] run (run.abort options moment reason) ∧ _ := abort_effect lawful.idle reason
  have lawfulAfter : Lawful options randomUuid (run.abort options moment reason) := lawful.step distinct (.abort reason moment)
  apply lawful.settled_of_left lawfulAfter waits effect.1.refines
  · intro stillWaits
    have listens := (lawfulAfter.heldOpen stillWaits).2
    exact effect.2 approvalId ((lawfulAfter.idle.held.listening approvalId).mp listens)
  · exact abort_resuming reason

theorem Lawful.lease_settles {decision : ApprovalDecision} (resumes : (approvalId, decision) ∈ run.resuming) (thrown : Option Failure) :
    (settlementsOf approvalId (run.leaseResumes approvalId thrown).log).length = 1 := by
  have lawfulAfter : Lawful options randomUuid (run.leaseResumes approvalId thrown) :=
    lawful.step distinct (.leaseResumes approvalId thrown)
  have account := lawfulAfter.account approvalId
  have settledNow : settlementsOf approvalId (run.leaseResumes approvalId thrown).log ≠ [] := by
    unfold leaseResumes
    split
    next absent =>
      rw [List.lookup_eq_none_iff] at absent
      exact absurd (absent _ resumes) (by simp)
    next => simp [note, settlementsOf_singleton, GateEvent.settlementOf?]
  have positive := List.length_pos_iff.mpr settledNow
  omega

end

end GateRun

/-! ## The contract -/

open GateRun in
/-- An approval of a run is decided exactly once. -/
structure DecidedOnce (options : GateOptions) (randomUuid : Nat → ApprovalId) (run : GateRun ApprovalId ToolCall)
    (approvalId : ApprovalId) : Prop where
  /-- Its promise settles at most once. -/
  settledAtMostOnce : (settlementsOf approvalId run.log).length ≤ 1
  /-- Until it settles, its timer is armed and the abort of the run would be heard, or the lease is on its way. -/
  outstanding : requestsOf approvalId run.log ≠ [] → settlementsOf approvalId run.log = [] →
    (approvalId ∈ run.timers ∧ approvalId ∈ run.listeners) ∨ ∃ decision, (approvalId, decision) ∈ run.resuming
  /-- Each of the three settles it, whatever the callbacks throw. -/
  timerSettles : approvalId ∈ run.timers → ∀ moment,
    (settlementsOf approvalId (run.step options randomUuid (.timerFires approvalId moment)).log).length = 1
  abortSettles : approvalId ∈ run.listeners → ∀ reason moment,
    (settlementsOf approvalId (run.step options randomUuid (.abort reason moment)).log).length = 1
  leaseSettles : ∀ decision, (approvalId, decision) ∈ run.resuming → ∀ thrown,
    (settlementsOf approvalId (run.step options randomUuid (.leaseResumes approvalId thrown)).log).length = 1
  /-- At most one submission for it returns `true`. -/
  acceptedAtMostOnce : (acceptancesOf approvalId run.log).length ≤ 1
  /-- It is approved only by a submission of `approve` that returned `true` before the deadline and before any abort. -/
  approvedRightly : .resolved .approve ∈ settlementsOf approvalId run.log → Ledger.AcceptedInTime options approvalId run.log
  /-- At most one resolution of it is recorded, and where it was approved, that one says so. -/
  recordedAtMostOnce : (resolutionsOf approvalId run.log).length ≤ 1
  approvalRecorded : options.hasEvidenceRecorder = true → .resolved .approve ∈ settlementsOf approvalId run.log →
    ∃ entry, resolutionsOf approvalId run.log = [entry] ∧ entry.outcome = .approved
  /-- Once it is settled, neither its timer nor its abort listener remains. -/
  released : settlementsOf approvalId run.log ≠ [] → approvalId ∉ run.timers ∧ approvalId ∉ run.listeners

open GateRun in
/-- In every run of a gate every approval is decided exactly once. -/
theorem approvals_are_decided_once (options : GateOptions) (randomUuid : Nat → ApprovalId) (distinct : Function.Injective randomUuid)
    (mode : ApprovalMode) (operations : List (Operation ApprovalId ToolCall)) (approvalId : ApprovalId) :
    DecidedOnce options randomUuid (Runs.run (step options randomUuid) (start mode) operations) approvalId := by
  have lawful : Lawful options randomUuid (Runs.run (step options randomUuid) (start mode) operations) :=
    lawful_run distinct mode operations
  generalize Runs.run (step options randomUuid) (start mode) operations = run at lawful ⊢
  have account := lawful.account approvalId
  have resolutions := lawful.sound.resolvedOnce approvalId
  have acceptances := lawful.sound.acceptedOnce approvalId
  simp only [ledger] at resolutions acceptances
  have atMostOneResolution : (resolutionsOf approvalId run.log).length ≤ 1 := by omega
  constructor
  · omega
  · intro requested unsettled
    have positive := List.length_pos_iff.mpr requested
    rw [unsettled, List.length_nil] at account
    by_cases waits : approvalId ∈ run.waiting
    · exact .inl (lawful.heldOpen waits)
    · right
      have gone : run.waiting.count approvalId = 0 := List.count_eq_zero.mpr waits
      have resumes : approvalId ∈ run.resuming.map Prod.fst := List.count_pos_iff.mp (by omega)
      obtain ⟨⟨id, decision⟩, member, rfl⟩ := List.mem_map.mp resumes
      exact ⟨decision, member⟩
  · exact fun timer moment => lawful.timer_settles distinct timer moment
  · exact fun listens reason moment => lawful.abort_settles distinct (lawful.waits_of_listener listens) reason moment
  · exact fun decision resumes thrown => lawful.lease_settles distinct resumes thrown
  · omega
  · exact fun approved => lawful.sound.accepted approvalId (.inr approved)
  · exact atMostOneResolution
  · intro recorder approved
    obtain ⟨entry, member, outcome⟩ := lawful.sound.recorded approvalId (.inr approved) recorder
    refine ⟨entry, ?_, outcome⟩
    have listed : entry ∈ resolutionsOf approvalId run.log := member
    cases written : resolutionsOf approvalId run.log with
    | nil => simp [written] at listed
    | cons first rest =>
      rw [written, List.length_cons] at atMostOneResolution
      have nothing : rest = [] := List.length_eq_zero_iff.mp (by omega)
      rw [written, nothing, List.mem_singleton] at listed
      rw [listed, nothing]
  · intro settled
    have positive := List.length_pos_iff.mpr settled
    have left : approvalId ∉ run.waiting := fun waits => by
      have waited : 0 < run.waiting.count approvalId := List.count_pos_iff.mpr waits
      omega
    exact ⟨fun timer => left (lawful.waits_of_timer timer), fun listens => left (lawful.waits_of_listener listens)⟩

/-! ## A run -/

/-- A gate with a recorder, an observer and a lease. -/
def sessionOptions : GateOptions := ⟨"run-1", true, 600000, by decide, true, true, true⟩

def quietMoment (nowMs : Int) : Moment Nat :=
  ⟨nowMs, .committed, .committed, fun _ => .committed, .returns, .returns, none⟩

/-- The recorder refuses the first evidence of a decision; the caller submits it again, and then once more. -/
def retriedRun : List (Operation Nat Unit) :=
  [.request ⟨some (), 1, "write", "write path=a.ts", none⟩ (quietMoment 0),
    .submit 0 .approve { quietMoment 10 with recordResolved := .refused (.error "disk") },
    .submit 0 .approve (quietMoment 20), .submit 0 (.deny "late") (quietMoment 30), .timerFires 0 (quietMoment 600000),
    .leaseResumes 0 none]

theorem retried_submission_is_decided_once :
    DecidedOnce sessionOptions id (Runs.run (GateRun.step sessionOptions id) (GateRun.start .interactive) retriedRun) 0 ∧
      settlementsOf 0 (Runs.run (GateRun.step sessionOptions id) (GateRun.start .interactive) retriedRun).log = [.resolved .approve] :=
  ⟨approvals_are_decided_once sessionOptions id Function.injective_id .interactive retriedRun 0, by decide⟩

end SiftKit.RepoSearch.Approvals
