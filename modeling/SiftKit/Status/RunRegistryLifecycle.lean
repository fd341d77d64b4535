import SiftKit.Status.RunRegistry

/-! # The life of a request

Each request goes through phases of its own: no call on another request changes its phase, and
only time forgets a completed one.  The three maps of the registry are one table of phases.
-/

namespace SiftKit.Status

open SiftKit.Runs OrderedMap

inductive Phase where
  | unknown
  | active
  | awaiting (completedAt : Int)
  /-- Completed, its metadata given up or no longer awaited. -/
  | settled (completedAt : Int)
  deriving DecidableEq

namespace Phase

def completedAt : Phase → Option Int
  | .awaiting completedAt => some completedAt
  | .settled completedAt => some completedAt
  | _ => none

/-- A request starts or goes on. -/
def started : Phase → Phase
  | .unknown => .active
  | phase => phase

def completed (nowMs : Int) : Phase → Phase
  | .unknown => .awaiting nowMs
  | .active => .awaiting nowMs
  | phase => phase

def finalized (nowMs : Int) : Phase → Phase
  | .awaiting completedAt => .settled completedAt
  | .active => .settled nowMs
  | phase => phase

def settledSince (nowMs completedAt : Int) : Phase :=
  if nowMs - completedAt ≥ COMPLETED_REQUEST_RETENTION_MS then .unknown else .settled completedAt

/-- What time does. -/
def pruned (nowMs : Int) : Phase → Phase
  | .awaiting completedAt =>
    if nowMs - completedAt ≥ TERMINAL_SNAPSHOT_RETENTION_MS then settledSince nowMs completedAt else .awaiting completedAt
  | .settled completedAt => settledSince nowMs completedAt
  | phase => phase

end Phase

inductive Call where
  | startOrAdvance (input : StatusRunStartInput)
  | markComplete (requestId terminalState : String) (nowMs : Int)
  | finalizeTerminal (requestId : String) (nowMs : Int)
  | pruneExpired (nowMs : Int)
  | getActiveRuns (nowMs : Int)
  | hasActiveRuns (nowMs : Int)

def perform (locale : Locale) (registry : StatusRunRegistry) : Call → StatusRunRegistry
  | .startOrAdvance input => (registry.startOrAdvance input).2
  | .markComplete requestId terminalState nowMs => (registry.markComplete requestId terminalState nowMs).2
  | .finalizeTerminal requestId nowMs => (registry.finalizeTerminal requestId nowMs).2
  | .pruneExpired nowMs => (registry.pruneExpired nowMs).2
  | .getActiveRuns nowMs => (registry.getActiveRuns locale nowMs).2
  | .hasActiveRuns nowMs => (registry.hasActiveRuns nowMs).2

def Phase.after (phase : Phase) (requestId : String) : Call → Phase
  | .startOrAdvance input => if input.requestId = requestId then phase.started else phase
  | .markComplete marked _ nowMs => if marked = requestId then phase.completed nowMs else phase
  | .finalizeTerminal marked nowMs => if marked = requestId then phase.finalized nowMs else phase
  | .pruneExpired nowMs => phase.pruned nowMs
  | .getActiveRuns nowMs => phase.pruned nowMs
  | .hasActiveRuns nowMs => phase.pruned nowMs

/-- The phase that the three maps tell. -/
def phaseFrom : Option Int → Bool → Bool → Phase
  | some completedAt, true, _ => .awaiting completedAt
  | some completedAt, false, _ => .settled completedAt
  | none, _, true => .active
  | none, _, false => .unknown

namespace StatusRunRegistry

def phaseOf (registry : StatusRunRegistry) (requestId : String) : Phase :=
  phaseFrom (registry.completedAtByRequestId.get? requestId) (registry.awaitingTerminalMetadata.has requestId)
    (registry.activeRuns.has requestId)

/-- The three maps tell one phase for each request. -/
structure Consistent (registry : StatusRunRegistry) : Prop where
  disjoint : ∀ requestId, registry.activeRuns.has requestId = true → registry.completedAtByRequestId.get? requestId = none
  awaited : ∀ requestId run, registry.awaitingTerminalMetadata.get? requestId = some run →
    registry.completedAtByRequestId.get? requestId = some run.completedAtMs

theorem consistent_empty : empty.Consistent := ⟨fun _ running => (nomatch running), fun _ _ found => (nomatch found)⟩

end StatusRunRegistry

open StatusRunRegistry

/-! ## Each call moves the phase of its own request -/

variable {requestId : String} {completedAt : Int}

section Calls

variable {registry : StatusRunRegistry}

theorem not_awaited (consistent : registry.Consistent)
    (absent : registry.completedAtByRequestId.get? requestId = none) :
    registry.awaitingTerminalMetadata.get? requestId = none := by
  cases found : registry.awaitingTerminalMetadata.get? requestId with
  | none => rfl
  | some run =>
    rw [consistent.awaited requestId run found] at absent
    cases absent

theorem not_running (consistent : registry.Consistent)
    (completed : registry.completedAtByRequestId.get? requestId = some completedAt) :
    (registry.activeRuns.get? requestId).isSome = false := by
  cases running : registry.activeRuns.get? requestId with
  | none => rfl
  | some run =>
    rw [consistent.disjoint requestId (by rw [has, running]; rfl)] at completed
    cases completed

theorem startOrAdvance_cases (registry : StatusRunRegistry) (input : StatusRunStartInput) :
    (registry.completedAtByRequestId.has input.requestId = true ∧
      registry.startOrAdvance input = (.late input.requestId, registry)) ∨
    (registry.completedAtByRequestId.get? input.requestId = none ∧ ∃ run,
      (registry.startOrAdvance input).2 = { registry with activeRuns := registry.activeRuns.set input.requestId run }) := by
  unfold startOrAdvance
  split
  next completed => exact .inl ⟨completed, rfl⟩
  next isOpen =>
    have absent : registry.completedAtByRequestId.get? input.requestId = none := by
      simpa [has] using isOpen
    split
    · exact .inr ⟨absent, _, rfl⟩
    · exact .inr ⟨absent, _, rfl⟩

theorem startOrAdvance_consistent (consistent : registry.Consistent) (input : StatusRunStartInput) :
    (registry.startOrAdvance input).2.Consistent := by
  cases startOrAdvance_cases registry input with
  | inl late =>
    rw [late.2]
    exact consistent
  | inr opened =>
    obtain ⟨absent, run, isAfter⟩ := opened
    rw [isAfter]
    refine ⟨fun requestId running => ?_, consistent.awaited⟩
    simp only [has_set, Bool.or_eq_true, beq_iff_eq] at running
    cases running with
    | inl same => rw [same, absent]
    | inr running => exact consistent.disjoint requestId running

theorem startOrAdvance_phase (registry : StatusRunRegistry) (input : StatusRunStartInput) (requestId : String) :
    (registry.startOrAdvance input).2.phaseOf requestId =
      if input.requestId = requestId then (registry.phaseOf requestId).started else registry.phaseOf requestId := by
  cases startOrAdvance_cases registry input with
  | inl late =>
    obtain ⟨completedAt, isCompleted⟩ := Option.isSome_iff_exists.mp late.1
    rw [late.2]
    split
    next same =>
      rw [← same, phaseOf, isCompleted]
      cases registry.awaitingTerminalMetadata.has input.requestId <;> rfl
    · rfl
  | inr opened =>
    obtain ⟨absent, run, isAfter⟩ := opened
    rw [isAfter]
    split
    next same =>
      subst same
      simp only [phaseOf, absent, has_set, beq_self_eq_true, Bool.true_or]
      cases registry.activeRuns.has input.requestId <;> rfl
    next other =>
      have apart : (requestId == input.requestId) = false := by simpa using Ne.symm other
      simp [phaseOf, apart]

theorem markComplete_cases (registry : StatusRunRegistry) (requestId terminalState : String) (nowMs : Int) :
    (registry.completedAtByRequestId.has requestId = true ∧
      registry.markComplete requestId terminalState nowMs = (.duplicate requestId, registry)) ∨
    (registry.completedAtByRequestId.get? requestId = none ∧ ∃ terminalRun : TerminalRunState,
      terminalRun.completedAtMs = nowMs ∧ (registry.markComplete requestId terminalState nowMs).1 ≠ .duplicate requestId ∧
      (registry.markComplete requestId terminalState nowMs).2 = {
        activeRuns := registry.activeRuns.delete requestId
        awaitingTerminalMetadata := registry.awaitingTerminalMetadata.set requestId terminalRun
        completedAtByRequestId := registry.completedAtByRequestId.set requestId nowMs }) := by
  unfold markComplete
  split
  next completed => exact .inl ⟨completed, rfl⟩
  next isOpen =>
    have absent : registry.completedAtByRequestId.get? requestId = none := by
      simpa [has] using isOpen
    refine .inr ⟨absent, ⟨registry.activeRuns.get? requestId, terminalState, nowMs⟩, rfl, ?_, rfl⟩
    simp only
    split
    · simp
    · simp

theorem markComplete_consistent (consistent : registry.Consistent) (requestId terminalState : String) (nowMs : Int) :
    (registry.markComplete requestId terminalState nowMs).2.Consistent := by
  cases markComplete_cases registry requestId terminalState nowMs with
  | inl duplicate =>
    rw [duplicate.2]
    exact consistent
  | inr opened =>
    obtain ⟨_, terminalRun, isTime, _, isAfter⟩ := opened
    rw [isAfter]
    refine ⟨fun other running => ?_, fun other run awaiting => ?_⟩
    · simp only [has_delete, Bool.and_eq_true, bne_iff_ne] at running
      rw [get?_set, if_neg running.1]
      exact consistent.disjoint other running.2
    · rw [get?_set] at awaiting ⊢
      split at awaiting
      next same =>
        cases awaiting
        rw [if_pos same, isTime]
      next apart =>
        rw [if_neg apart]
        exact consistent.awaited other run awaiting

theorem markComplete_phase (registry : StatusRunRegistry) (marked terminalState : String) (nowMs : Int) (requestId : String) :
    (registry.markComplete marked terminalState nowMs).2.phaseOf requestId =
      if marked = requestId then (registry.phaseOf requestId).completed nowMs else registry.phaseOf requestId := by
  cases markComplete_cases registry marked terminalState nowMs with
  | inl duplicate =>
    obtain ⟨completedAt, isCompleted⟩ := Option.isSome_iff_exists.mp duplicate.1
    rw [duplicate.2]
    split
    next same =>
      rw [← same, phaseOf, isCompleted]
      cases registry.awaitingTerminalMetadata.has marked <;> rfl
    · rfl
  | inr opened =>
    obtain ⟨absent, terminalRun, _, _, isAfter⟩ := opened
    rw [isAfter]
    split
    next same =>
      subst same
      simp only [phaseOf, absent, get?_set, if_true, has_set, beq_self_eq_true, Bool.true_or]
      cases registry.activeRuns.has marked <;> rfl
    next other =>
      have apart : (requestId == marked) = false := by simpa using Ne.symm other
      simp [phaseOf, apart, bne, Ne.symm other]

theorem finalizeTerminal_cases (registry : StatusRunRegistry) (requestId : String) (nowMs : Int) :
    (∃ result, result ≠ .finalized requestId ∧ registry.finalizeTerminal requestId nowMs = (result, registry) ∧
      (registry.completedAtByRequestId.has requestId = true → result = .duplicate requestId ∧
        registry.awaitingTerminalMetadata.has requestId = false) ∧
      (registry.completedAtByRequestId.get? requestId = none → registry.activeRuns.has requestId = false)) ∨
    (∃ run, registry.awaitingTerminalMetadata.get? requestId = some run ∧
      registry.finalizeTerminal requestId nowMs = (.finalized requestId,
        { registry with awaitingTerminalMetadata := registry.awaitingTerminalMetadata.delete requestId })) ∨
    (registry.activeRuns.has requestId = true ∧ registry.finalizeTerminal requestId nowMs = (.finalized requestId,
      { registry with
        activeRuns := registry.activeRuns.delete requestId
        completedAtByRequestId := registry.completedAtByRequestId.set requestId nowMs })) := by
  unfold finalizeTerminal isSettled
  split
  next settled =>
    rw [Bool.and_eq_true, Bool.not_eq_true'] at settled
    refine .inl ⟨_, by simp, rfl, fun _ => ⟨rfl, settled.2⟩, fun absent => ?_⟩
    rw [has, absent] at settled
    cases settled.1
  next isOpen =>
    rw [Bool.and_eq_true, Bool.not_eq_true', not_and, Bool.not_eq_false] at isOpen
    split
    next run awaiting => exact .inr (.inl ⟨run, awaiting, rfl⟩)
    next notAwaiting =>
      have absent : registry.completedAtByRequestId.get? requestId = none := by
        cases completed : registry.completedAtByRequestId.get? requestId with
        | none => rfl
        | some completedAt =>
          have awaiting := isOpen (by rw [has, completed]; rfl)
          rw [has, notAwaiting] at awaiting
          cases awaiting
      split
      next run running => exact .inr (.inr ⟨by rw [has, running]; rfl, rfl⟩)
      next idle =>
        refine .inl ⟨_, by simp, rfl, fun completed => ?_, fun _ => by rw [has, idle]; rfl⟩
        rw [has, absent] at completed
        cases completed

section

variable (consistent : registry.Consistent)

include consistent

theorem finalizeTerminal_consistent (requestId : String) (nowMs : Int) :
    (registry.finalizeTerminal requestId nowMs).2.Consistent := by
  rcases finalizeTerminal_cases registry requestId nowMs with ⟨_, _, isAfter, _⟩ | ⟨_, _, isAfter⟩ | ⟨running, isAfter⟩
  · rw [isAfter]
    exact consistent
  · rw [isAfter]
    refine ⟨consistent.disjoint, fun other run awaiting => consistent.awaited other run ?_⟩
    rw [get?_delete] at awaiting
    split at awaiting
    · cases awaiting
    · exact awaiting
  · rw [isAfter]
    refine ⟨fun other otherRunning => ?_, fun other run awaiting => ?_⟩
    · simp only [has_delete, Bool.and_eq_true, bne_iff_ne] at otherRunning
      rw [get?_set, if_neg otherRunning.1]
      exact consistent.disjoint other otherRunning.2
    · have isCompleted := consistent.awaited other run awaiting
      rw [get?_set]
      split
      next same =>
        subst same
        rw [consistent.disjoint other running] at isCompleted
        cases isCompleted
      · exact isCompleted

theorem finalizeTerminal_phase (marked : String) (nowMs : Int) (requestId : String) :
    (registry.finalizeTerminal marked nowMs).2.phaseOf requestId =
      if marked = requestId then (registry.phaseOf requestId).finalized nowMs else registry.phaseOf requestId := by
  by_cases same : marked = requestId
  · subst same
    rw [if_pos rfl]
    rcases finalizeTerminal_cases registry marked nowMs with
      ⟨_, _, isAfter, ofCompleted, ofAbsent⟩ | ⟨run, awaiting, isAfter⟩ | ⟨running, isAfter⟩
    · rw [isAfter, phaseOf]
      cases completed : registry.completedAtByRequestId.get? marked with
      | none => rw [ofAbsent completed]; rfl
      | some completedAt => rw [(ofCompleted (by rw [has, completed]; rfl)).2]; rfl
    · have isCompleted := consistent.awaited marked run awaiting
      simp only [isAfter, phaseOf, isCompleted, has_delete, bne_self_eq_false, Bool.false_and]
      simp only [has, awaiting]
      rfl
    · have absent := consistent.disjoint marked running
      have notAwaited := not_awaited consistent absent
      simp only [isAfter, phaseOf, get?_set, if_true, absent, running]
      simp only [has, notAwaited]
      rfl
  · have apart : (requestId == marked) = false := by simpa using Ne.symm same
    rw [if_neg same]
    rcases finalizeTerminal_cases registry marked nowMs with ⟨_, _, isAfter, _⟩ | ⟨_, _, isAfter⟩ | ⟨_, isAfter⟩
    · rw [isAfter]
    · simp [isAfter, phaseOf, apart, bne]
    · simp [isAfter, phaseOf, apart, bne, Ne.symm same]

theorem pruneExpired_consistent (nowMs : Int) : (registry.pruneExpired nowMs).2.Consistent := by
  simp only [pruneExpired]
  refine ⟨fun requestId running => ?_, fun requestId run awaiting => ?_⟩
  · rw [get?_retain, consistent.disjoint requestId running]
    rfl
  · have awaited := awaiting
    simp only [get?_retain, Option.filter_eq_some_iff] at awaiting
    have kept : completionExpired nowMs (registry.awaitingTerminalMetadata.retain fun _ run => !snapshotExpired nowMs run)
        requestId run.completedAtMs = false := by
      rw [completionExpired, has, awaited]
      rfl
    rw [get?_retain, consistent.awaited requestId run awaiting.1, Option.filter_some, kept]
    rfl

theorem pruneExpired_phase (nowMs : Int) (requestId : String) :
    (registry.pruneExpired nowMs).2.phaseOf requestId = (registry.phaseOf requestId).pruned nowMs := by
  simp only [pruneExpired, phaseOf, has, get?_retain, completionExpired]
  cases awaiting : registry.awaitingTerminalMetadata.get? requestId with
  | some run =>
    have completed := consistent.awaited requestId run awaiting
    rw [completed, not_running consistent completed]
    by_cases expired : nowMs - run.completedAtMs ≥ TERMINAL_SNAPSHOT_RETENTION_MS
    · by_cases forgotten : nowMs - run.completedAtMs ≥ COMPLETED_REQUEST_RETENTION_MS
      · simp [Option.filter_some, snapshotExpired, expired, forgotten, phaseFrom, Phase.pruned, Phase.settledSince]
      · simp [Option.filter_some, snapshotExpired, expired, forgotten, phaseFrom, Phase.pruned, Phase.settledSince]
    · simp [Option.filter_some, snapshotExpired, expired, phaseFrom, Phase.pruned]
  | none =>
    cases completed : registry.completedAtByRequestId.get? requestId with
    | none => cases (registry.activeRuns.get? requestId).isSome <;> rfl
    | some completedAt =>
      rw [not_running consistent completed]
      by_cases forgotten : nowMs - completedAt ≥ COMPLETED_REQUEST_RETENTION_MS
      · simp [Option.filter_some, forgotten, phaseFrom, Phase.pruned, Phase.settledSince]
      · simp [Option.filter_some, forgotten, phaseFrom, Phase.pruned, Phase.settledSince]

end

end Calls

/-! ## Runs -/

variable {registry : StatusRunRegistry}

theorem perform_consistent (locale : Locale) (consistent : registry.Consistent) (call : Call) :
    (perform locale registry call).Consistent := by
  cases call with
  | startOrAdvance input => exact startOrAdvance_consistent consistent input
  | markComplete requestId terminalState nowMs => exact markComplete_consistent consistent requestId terminalState nowMs
  | finalizeTerminal requestId nowMs => exact finalizeTerminal_consistent consistent requestId nowMs
  | pruneExpired nowMs => exact pruneExpired_consistent consistent nowMs
  | getActiveRuns nowMs => exact pruneExpired_consistent consistent nowMs
  | hasActiveRuns nowMs => exact pruneExpired_consistent consistent nowMs

/-- The registry refines the table of phases. -/
theorem perform_phase (locale : Locale) (consistent : registry.Consistent) (call : Call)
    (requestId : String) : (perform locale registry call).phaseOf requestId = (registry.phaseOf requestId).after requestId call := by
  cases call with
  | startOrAdvance input => exact startOrAdvance_phase registry input requestId
  | markComplete marked terminalState nowMs => exact markComplete_phase registry marked terminalState nowMs requestId
  | finalizeTerminal marked nowMs => exact finalizeTerminal_phase consistent marked nowMs requestId
  | pruneExpired nowMs => exact pruneExpired_phase consistent nowMs requestId
  | getActiveRuns nowMs => exact pruneExpired_phase consistent nowMs requestId
  | hasActiveRuns nowMs => exact pruneExpired_phase consistent nowMs requestId

theorem run_consistent (locale : Locale) (calls : List Call) : (run (perform locale) empty calls).Consistent :=
  run_invariant Consistent (fun _ call consistent => perform_consistent locale consistent call) consistent_empty calls

theorem completedAt_phase (registry : StatusRunRegistry) (requestId : String) :
    (registry.phaseOf requestId).completedAt = registry.completedAtByRequestId.get? requestId := by
  unfold phaseOf
  cases registry.completedAtByRequestId.get? requestId with
  | none => cases registry.activeRuns.has requestId <;> rfl
  | some completedAt => cases registry.awaitingTerminalMetadata.has requestId <;> rfl

theorem running_iff (consistent : registry.Consistent) (requestId : String) :
    registry.activeRuns.has requestId = true ↔ registry.phaseOf requestId = .active := by
  unfold phaseOf
  cases completed : registry.completedAtByRequestId.get? requestId with
  | none => cases registry.activeRuns.has requestId <;> simp [phaseFrom]
  | some completedAt =>
    have idle := not_running consistent completed
    rw [has, idle]
    cases registry.awaitingTerminalMetadata.has requestId <;> simp [phaseFrom]

/-! ## Calls that succeed -/

def Call.nowMs : Call → Int
  | .startOrAdvance input => input.nowMs
  | .markComplete _ _ nowMs => nowMs
  | .finalizeTerminal _ nowMs => nowMs
  | .pruneExpired nowMs => nowMs
  | .getActiveRuns nowMs => nowMs
  | .hasActiveRuns nowMs => nowMs

/-- `pruneExpired`, called by itself or for a list of the active runs. -/
def Call.prunes : Call → Bool
  | .pruneExpired _ => true
  | .getActiveRuns _ => true
  | .hasActiveRuns _ => true
  | _ => false

/-- A completion that is no duplicate. -/
def Completes (registry : StatusRunRegistry) (requestId : String) : Call → Prop
  | .markComplete marked terminalState nowMs =>
    marked = requestId ∧ (registry.markComplete marked terminalState nowMs).1 ≠ .duplicate marked
  | _ => False

def Finalizes (registry : StatusRunRegistry) (requestId : String) : Call → Prop
  | .finalizeTerminal marked nowMs => marked = requestId ∧ (registry.finalizeTerminal marked nowMs).1 = .finalized marked
  | _ => False

/-- The request was completed before the call and is not remembered after it. -/
def Forgets (locale : Locale) (registry : StatusRunRegistry) (requestId : String) (call : Call) : Prop :=
  registry.completedAtByRequestId.has requestId = true ∧
    (perform locale registry call).completedAtByRequestId.has requestId = false

def Remembers (locale : Locale) (requestId : String) : StatusRunRegistry → List Call → Prop
  | _, [] => True
  | registry, call :: rest =>
    ¬Forgets locale registry requestId call ∧ Remembers locale requestId (perform locale registry call) rest

variable {call : Call}

theorem completes_phase
    (completes : Completes registry requestId call) :
    (registry.phaseOf requestId).completedAt = none ∧ (registry.phaseOf requestId).after requestId call = .awaiting call.nowMs := by
  cases call with
  | markComplete marked terminalState nowMs =>
    obtain ⟨rfl, succeeds⟩ := completes
    rcases markComplete_cases registry marked terminalState nowMs with ⟨_, duplicate⟩ | ⟨absent, _⟩
    · exact absurd (congrArg Prod.fst duplicate) succeeds
    · refine ⟨by rw [completedAt_phase, absent], ?_⟩
      simp only [Phase.after, if_true, phaseOf, absent, Call.nowMs]
      cases registry.activeRuns.has marked <;> rfl
  | _ => exact completes.elim

theorem finalizes_phase (consistent : registry.Consistent)
    (finalizes : Finalizes registry requestId call) :
    (∀ completedAt, registry.phaseOf requestId ≠ .settled completedAt) ∧
      (registry.phaseOf requestId).after requestId call =
        .settled (((registry.phaseOf requestId).completedAt).getD call.nowMs) := by
  cases call with
  | finalizeTerminal marked nowMs =>
    obtain ⟨rfl, succeeds⟩ := finalizes
    rcases finalizeTerminal_cases registry marked nowMs with ⟨result, fails, isResult, _⟩ | ⟨run, awaiting, _⟩ | ⟨running, _⟩
    · rw [isResult] at succeeds
      exact absurd succeeds fails
    · have isPhase : registry.phaseOf marked = .awaiting run.completedAtMs := by
        rw [phaseOf, consistent.awaited marked run awaiting, has, awaiting]
        rfl
      rw [isPhase]
      exact ⟨fun _ => by simp, by simp [Phase.after, Phase.finalized, Phase.completedAt]⟩
    · have isPhase := (running_iff consistent marked).mp running
      rw [isPhase]
      exact ⟨fun _ => by simp, by simp [Phase.after, Phase.finalized, Phase.completedAt, Call.nowMs]⟩
  | _ => exact finalizes.elim

/-! ## Completed requests -/

theorem completedAt_eq_some {phase : Phase} :
    phase.completedAt = some completedAt ↔ phase = .awaiting completedAt ∨ phase = .settled completedAt := by
  cases phase <;> simp [Phase.completedAt]

/-- A completed request keeps its completion time until a prune forgets it, no earlier than the retention allows. -/
theorem completed_after {phase : Phase} (completed : phase.completedAt = some completedAt)
    (requestId : String) (call : Call) :
    (phase.after requestId call).completedAt = some completedAt ∨
      (phase.after requestId call = .unknown ∧ call.prunes = true ∧
        completedAt + COMPLETED_REQUEST_RETENTION_MS ≤ call.nowMs) := by
  have settled : ∀ nowMs, (Phase.settledSince nowMs completedAt).completedAt = some completedAt ∨
      (Phase.settledSince nowMs completedAt = .unknown ∧ completedAt + COMPLETED_REQUEST_RETENTION_MS ≤ nowMs) := by
    intro nowMs
    unfold Phase.settledSince
    split
    next forgotten => exact .inr ⟨rfl, by omega⟩
    · exact .inl rfl
  have pruned : ∀ nowMs, (phase.pruned nowMs).completedAt = some completedAt ∨
      (phase.pruned nowMs = .unknown ∧ completedAt + COMPLETED_REQUEST_RETENTION_MS ≤ nowMs) := by
    intro nowMs
    rcases completedAt_eq_some.mp completed with rfl | rfl
    · rw [Phase.pruned]
      split
      · exact settled nowMs
      · exact .inl rfl
    · exact settled nowMs
  have kept : ∀ {change : Phase → Phase} (own : Prop) [Decidable own],
      (change phase).completedAt = phase.completedAt → (if own then change phase else phase).completedAt = some completedAt := by
    intro change own _ same
    split
    · exact same.trans completed
    · exact completed
  cases call with
  | startOrAdvance input => exact .inl (kept _ (by rcases completedAt_eq_some.mp completed with rfl | rfl <;> rfl))
  | markComplete marked terminalState nowMs =>
    exact .inl (kept _ (by rcases completedAt_eq_some.mp completed with rfl | rfl <;> rfl))
  | finalizeTerminal marked nowMs => exact .inl (kept _ (by rcases completedAt_eq_some.mp completed with rfl | rfl <;> rfl))
  | pruneExpired nowMs => exact (pruned nowMs).imp id fun forgotten => ⟨forgotten.1, rfl, forgotten.2⟩
  | getActiveRuns nowMs => exact (pruned nowMs).imp id fun forgotten => ⟨forgotten.1, rfl, forgotten.2⟩
  | hasActiveRuns nowMs => exact (pruned nowMs).imp id fun forgotten => ⟨forgotten.1, rfl, forgotten.2⟩

/-- What was settled is not awaited again while it is remembered. -/
theorem settled_after (requestId : String) (call : Call) :
    (Phase.settled completedAt).after requestId call = .settled completedAt ∨
      (Phase.settled completedAt).after requestId call = .unknown := by
  have settled : ∀ nowMs, Phase.settledSince nowMs completedAt = .settled completedAt ∨
      Phase.settledSince nowMs completedAt = .unknown := by
    intro nowMs
    unfold Phase.settledSince
    split
    · exact .inr rfl
    · exact .inl rfl
  cases call with
  | startOrAdvance input => exact .inl (ite_self _)
  | markComplete marked terminalState nowMs => exact .inl (ite_self _)
  | finalizeTerminal marked nowMs => exact .inl (ite_self _)
  | pruneExpired nowMs => exact settled nowMs
  | getActiveRuns nowMs => exact settled nowMs
  | hasActiveRuns nowMs => exact settled nowMs

variable {calls : List Call}

/-- What a call preserves of the phase of a completed request as long as it is remembered holds after a run. -/
theorem remembered (locale : Locale) (requestId : String) (holds : Phase → Prop)
    (completed : ∀ phase, holds phase → phase.completedAt.isSome = true)
    (preserved : ∀ phase call, holds phase → (phase.after requestId call).completedAt.isSome = true →
      holds (phase.after requestId call)) (consistent : registry.Consistent) (now : holds (registry.phaseOf requestId))
    (remembers : Remembers locale requestId registry calls) :
    holds ((run (perform locale) registry calls).phaseOf requestId) := by
  induction calls generalizing registry with
  | nil => exact now
  | cons call rest ih =>
    have isCompleted := completed _ now
    rw [completedAt_phase] at isCompleted
    have still : (perform locale registry call).completedAtByRequestId.has requestId = true := by
      by_contra forgotten
      exact remembers.1 ⟨isCompleted, by simpa using forgotten⟩
    have phase := perform_phase locale consistent call requestId
    refine ih (perform_consistent locale consistent call) ?_ remembers.2
    rw [phase]
    refine preserved _ call now ?_
    rw [← phase, completedAt_phase]
    exact still

/-! ## The contract -/

/-- What callers of the registry rely on, in one state of it. -/
structure RegistryContract (locale : Locale) (registry : StatusRunRegistry) : Prop where
  disjoint : ∀ requestId, ¬(registry.activeRuns.has requestId = true ∧ registry.completedAtByRequestId.has requestId = true)
  awaited : ∀ requestId run, registry.awaitingTerminalMetadata.get? requestId = some run →
    registry.completedAtByRequestId.get? requestId = some run.completedAtMs
  /-- A completed request stays completed, and is not active, as long as it is remembered. -/
  completed : ∀ call requestId, Completes registry requestId call ∨ Finalizes registry requestId call →
    ∀ calls, Remembers locale requestId (perform locale registry call) calls →
      let later := run (perform locale) (perform locale registry call) calls
      later.activeRuns.has requestId = false ∧
        later.completedAtByRequestId.get? requestId =
          some ((registry.completedAtByRequestId.get? requestId).getD call.nowMs) ∧
        (∀ next, ¬Completes later requestId next) ∧
        (Finalizes registry requestId call → ∀ next, ¬Finalizes later requestId next)
  /-- Only a prune forgets a request, and not before its retention is over. -/
  forgotten : ∀ call requestId, Forgets locale registry requestId call → call.prunes = true ∧
    ∃ completedAt, registry.completedAtByRequestId.get? requestId = some completedAt ∧
      completedAt + COMPLETED_REQUEST_RETENTION_MS ≤ call.nowMs
  lateStart : ∀ input, registry.completedAtByRequestId.has input.requestId = true →
    registry.startOrAdvance input = (.late input.requestId, registry)
  duplicateCompletion : ∀ requestId terminalState nowMs, registry.completedAtByRequestId.has requestId = true →
    registry.markComplete requestId terminalState nowMs = (.duplicate requestId, registry)
  lateFinalize : ∀ requestId nowMs, (registry.finalizeTerminal requestId nowMs).1 ≠ .finalized requestId →
    (registry.finalizeTerminal requestId nowMs).2 = registry
  /-- A run leaves the active ones by its own completion or finalization. -/
  dropped : ∀ call requestId, registry.activeRuns.has requestId = true →
    (perform locale registry call).activeRuns.has requestId = false →
      Completes registry requestId call ∨ Finalizes registry requestId call

section Contract

variable (locale : Locale) {registry : StatusRunRegistry} (consistent : registry.Consistent)

include consistent

theorem completed_stays
    (succeeds : Completes registry requestId call ∨ Finalizes registry requestId call)
    (remembers : Remembers locale requestId (perform locale registry call) calls) :
    ((run (perform locale) (perform locale registry call) calls).phaseOf requestId).completedAt =
      some ((registry.completedAtByRequestId.get? requestId).getD call.nowMs) := by
  have now : ((perform locale registry call).phaseOf requestId).completedAt =
      some ((registry.completedAtByRequestId.get? requestId).getD call.nowMs) := by
    rw [perform_phase locale consistent, ← completedAt_phase]
    cases succeeds with
    | inl completes =>
      obtain ⟨absent, isAwaiting⟩ := completes_phase completes
      rw [isAwaiting, absent]
      rfl
    | inr finalizes =>
      obtain ⟨_, isSettled⟩ := finalizes_phase consistent finalizes
      rw [isSettled]
      rfl
  refine remembered locale requestId
    (fun phase => phase.completedAt = some ((registry.completedAtByRequestId.get? requestId).getD call.nowMs))
    (fun phase holds => by rw [holds]; rfl) (fun phase next holds still => ?_) (perform_consistent locale consistent call) now
    remembers
  cases completed_after holds requestId next with
  | inl same => exact same
  | inr forgotten =>
    rw [forgotten.1] at still
    cases still

theorem finalized_stays (finalizes : Finalizes registry requestId call)
    (remembers : Remembers locale requestId (perform locale registry call) calls) :
    ∃ completedAt, (run (perform locale) (perform locale registry call) calls).phaseOf requestId = .settled completedAt := by
  refine remembered locale requestId (fun phase => ∃ completedAt, phase = .settled completedAt)
    (fun phase ⟨_, holds⟩ => by rw [holds]; rfl) (fun phase next ⟨completedAt, holds⟩ still => ?_)
    (perform_consistent locale consistent call) ?_ remembers
  · rw [holds] at still ⊢
    cases settled_after requestId next with
    | inl same => exact ⟨completedAt, same⟩
    | inr forgotten =>
      rw [forgotten] at still
      cases still
  · obtain ⟨_, isSettled⟩ := finalizes_phase consistent finalizes
    exact ⟨_, (perform_phase locale consistent call requestId).trans isSettled⟩

omit consistent in
theorem dropped_only (running : registry.activeRuns.has requestId = true)
    (gone : (perform locale registry call).activeRuns.has requestId = false) :
    Completes registry requestId call ∨ Finalizes registry requestId call := by
  cases call with
  | startOrAdvance input =>
    cases startOrAdvance_cases registry input with
    | inl late =>
      rw [perform, late.2, running] at gone
      cases gone
    | inr opened =>
      obtain ⟨_, run, isAfter⟩ := opened
      rw [perform, isAfter, has_set, running, Bool.or_true] at gone
      cases gone
  | markComplete marked terminalState nowMs =>
    rcases markComplete_cases registry marked terminalState nowMs with ⟨_, duplicate⟩ | ⟨_, run, _, succeeds, isAfter⟩
    · rw [perform, duplicate, running] at gone
      cases gone
    · rw [perform, isAfter, has_delete, running, Bool.and_true, bne_eq_false_iff_eq] at gone
      exact .inl ⟨gone.symm, succeeds⟩
  | finalizeTerminal marked nowMs =>
    rcases finalizeTerminal_cases registry marked nowMs with ⟨_, _, isAfter, _⟩ | ⟨_, _, isAfter⟩ | ⟨_, isAfter⟩
    · rw [perform, isAfter, running] at gone
      cases gone
    · rw [perform, isAfter, running] at gone
      cases gone
    · have isResult := congrArg Prod.fst isAfter
      rw [perform, isAfter, has_delete, running, Bool.and_true, bne_eq_false_iff_eq] at gone
      exact .inr ⟨gone.symm, isResult⟩
  | _ =>
    rw [show (perform locale registry _).activeRuns = registry.activeRuns from rfl, running] at gone
    cases gone

end Contract

/-- The registry keeps its contract after any calls at any times. -/
theorem statusRunRegistry_contract (locale : Locale) (calls : List Call) :
    RegistryContract locale (run (perform locale) empty calls) := by
  have consistent := run_consistent locale calls
  generalize run (perform locale) empty calls = registry at consistent
  constructor
  case disjoint =>
    rintro requestId ⟨running, completed⟩
    rw [has, consistent.disjoint requestId running] at completed
    cases completed
  case awaited => exact consistent.awaited
  case completed =>
    intro call requestId succeeds later remembers
    have laterConsistent := run_invariant Consistent (fun _ call consistent => perform_consistent locale consistent call)
      (perform_consistent locale consistent call) later
    have stays := completed_stays locale consistent succeeds remembers
    refine ⟨?_, (completedAt_phase _ _).symm.trans stays, fun next completes => ?_, fun finalizes next again => ?_⟩
    · by_contra running
      rw [Bool.not_eq_false] at running
      rw [(running_iff laterConsistent requestId).mp running] at stays
      cases stays
    · rw [(completes_phase completes).1] at stays
      cases stays
    · obtain ⟨completedAt, isSettled⟩ := finalized_stays locale consistent finalizes remembers
      exact (finalizes_phase laterConsistent again).1 completedAt isSettled
  case forgotten =>
    rintro call requestId ⟨isCompleted, isForgotten⟩
    obtain ⟨completedAt, completed⟩ := Option.isSome_iff_exists.mp isCompleted
    have phase : (registry.phaseOf requestId).completedAt = some completedAt := by rw [completedAt_phase, completed]
    cases completed_after phase requestId call with
    | inl kept =>
      rw [← perform_phase locale consistent, completedAt_phase] at kept
      rw [has, kept] at isForgotten
      cases isForgotten
    | inr forgotten => exact ⟨forgotten.2.1, completedAt, completed, forgotten.2.2⟩
  case lateStart =>
    intro input completed
    unfold startOrAdvance
    rw [if_pos completed]
  case duplicateCompletion =>
    intro requestId terminalState nowMs completed
    unfold markComplete
    rw [if_pos completed]
  case lateFinalize =>
    intro requestId nowMs fails
    rcases finalizeTerminal_cases registry requestId nowMs with ⟨_, _, isAfter, _⟩ | ⟨_, _, isAfter⟩ | ⟨_, isAfter⟩
    · rw [isAfter]
    · exact absurd (congrArg Prod.fst isAfter) fails
    · exact absurd (congrArg Prod.fst isAfter) fails
  case dropped => exact fun call requestId running gone => dropped_only locale running gone

end SiftKit.Status
