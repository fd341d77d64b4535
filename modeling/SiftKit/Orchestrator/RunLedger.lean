import SiftKit.Foundation.Tables
import SiftKit.Orchestrator.Contracts

/-! # The ledger of a run

What the run store is for, without its tables, schemas and transactions: one run as a
ledger that counts its committed changes, and the four kinds of change it admits.  A
ledger is *sound* when its events count the changes, its attempts are numbered within the
budget, and nothing is left looking live once the run has stopped.
-/

namespace SiftKit.Orchestrator

open SiftKit.Tables

def OrchestratorAttemptStatus.isLive (status : OrchestratorAttemptStatus) : Bool :=
  status == .reserved || status == .running

/-- A terminal phase that closes open work. -/
def isClosedPhase (phase : OrchestratorPhase) : Bool :=
  isOrchestratorTerminalPhase phase && phase != .completed

inductive AttemptMove : OrchestratorAttemptStatus → OrchestratorAttemptStatus → Prop where
  | start : AttemptMove .reserved .running
  | settle : AttemptMove .reserved .settled
  | finish : AttemptMove .running .settled
  | abandonReserved : AttemptMove .reserved .abandoned
  | abandonRunning : AttemptMove .running .abandoned

def AttemptEntry.withStatus (status : OrchestratorAttemptStatus) (attempt : AttemptEntry) : AttemptEntry :=
  { attempt with status := status }

@[simp] theorem AttemptEntry.withStatus_status (status : OrchestratorAttemptStatus)
    (attempt : AttemptEntry) : (attempt.withStatus status).status = status := rfl

@[simp] theorem AttemptEntry.withStatus_childRunId (status : OrchestratorAttemptStatus)
    (attempt : AttemptEntry) : (attempt.withStatus status).childRunId = attempt.childRunId := rfl

@[simp] theorem OrchestratorAttemptStatus.isLive_abandoned :
    OrchestratorAttemptStatus.abandoned.isLive = false := rfl

/-- The same attempt, where it was or one move on. -/
def AttemptEntry.Progresses (before after : AttemptEntry) : Prop :=
  after = before.withStatus after.status ∧
    (after.status = before.status ∨ AttemptMove before.status after.status)

/-- The known attempts progress and the new ones, behind them, are reserved. -/
def AttemptsProgress (before after : List AttemptEntry) : Prop :=
  ∃ moved reserved, after = moved ++ reserved ∧
    List.Forall₂ AttemptEntry.Progresses before moved ∧
    ∀ attempt ∈ reserved, attempt.status = .reserved

structure RunLedger where
  revision : Nat
  phase : OrchestratorPhase
  tasks : List (String × OrchestratorTaskStatus)
  attempts : List AttemptEntry
  events : List Nat
  deriving DecidableEq, Repr

namespace RunLedger

def created : RunLedger := ⟨0, .preparing_plan, [], [], [1]⟩

def attemptsOf (ledger : RunLedger) (taskId : String) (purpose : OrchestratorChildPurpose) :
    List AttemptEntry :=
  ledger.attempts.filter fun attempt => attempt.taskId == taskId && attempt.purpose == purpose

/-- One committed change: the next revision and its event. -/
def commit (ledger : RunLedger) (phase : OrchestratorPhase)
    (tasks : List (String × OrchestratorTaskStatus)) (attempts : List AttemptEntry) : RunLedger :=
  ⟨ledger.revision + 1, phase, tasks, attempts, ledger.events ++ [ledger.events.max?.getD 0 + 1]⟩

def moveAttempt (childRunId : String) (status : OrchestratorAttemptStatus) :
    List AttemptEntry → List AttemptEntry :=
  updateWhere (fun attempt => attempt.childRunId == childRunId) (.withStatus status)

def abandonLive : List AttemptEntry → List AttemptEntry :=
  updateWhere (fun attempt => attempt.status.isLive) (.withStatus .abandoned)

def abortOpen : List (String × OrchestratorTaskStatus) → List (String × OrchestratorTaskStatus) :=
  updateWhere (fun task => isOrchestratorOpenTaskStatus task.2) fun task => (task.1, .aborted)

end RunLedger

open RunLedger

/-- The changes a run admits; none from a terminal phase. -/
inductive LedgerStep (ledger : RunLedger) : RunLedger → Prop where
  | reserve (active : isOrchestratorTerminalPhase ledger.phase = false)
      (taskId : String) (purpose : OrchestratorChildPurpose) (childRunId : String)
      (room : (ledger.attemptsOf taskId purpose).length < ORCHESTRATOR_MAX_ATTEMPTS)
      (fresh : childRunId ∉ ledger.attempts.map AttemptEntry.childRunId) :
      LedgerStep ledger (ledger.commit ledger.phase ledger.tasks
        (ledger.attempts ++
          [⟨taskId, purpose, (ledger.attemptsOf taskId purpose).length + 1, childRunId, .reserved⟩]))
  | move (active : isOrchestratorTerminalPhase ledger.phase = false)
      (childRunId : String) (status : OrchestratorAttemptStatus) (kept : status ≠ .abandoned)
      (moves : ∀ attempt ∈ ledger.attempts, attempt.childRunId = childRunId →
        AttemptMove attempt.status status) :
      LedgerStep ledger (ledger.commit ledger.phase ledger.tasks
        (moveAttempt childRunId status ledger.attempts))
  | advance (active : isOrchestratorTerminalPhase ledger.phase = false)
      (phase : OrchestratorPhase) (tasks : List (String × OrchestratorTaskStatus))
      (unclosed : isClosedPhase phase = false) :
      LedgerStep ledger (ledger.commit phase tasks ledger.attempts)
  | close (active : isOrchestratorTerminalPhase ledger.phase = false)
      (phase : OrchestratorPhase) (tasks : List (String × OrchestratorTaskStatus))
      (closed : isClosedPhase phase = true) :
      LedgerStep ledger (ledger.commit phase (abortOpen tasks) (abandonLive ledger.attempts))

structure RunLedger.Sound (ledger : RunLedger) : Prop where
  eventsNumbered : Numbered ledger.events
  eventsCount : ledger.events.length = ledger.revision + 1
  attemptsNumbered : ∀ taskId purpose,
    Numbered ((ledger.attemptsOf taskId purpose).map AttemptEntry.attempt)
  attemptsBounded : ∀ taskId purpose,
    (ledger.attemptsOf taskId purpose).length ≤ ORCHESTRATOR_MAX_ATTEMPTS
  childrenDistinct : (ledger.attempts.map AttemptEntry.childRunId).Nodup
  activeKept : isOrchestratorTerminalPhase ledger.phase = false →
    ∀ attempt ∈ ledger.attempts, attempt.status ≠ .abandoned
  closedIdle : isClosedPhase ledger.phase = true →
    (∀ attempt ∈ ledger.attempts, attempt.status.isLive = false) ∧
      ∀ task ∈ ledger.tasks, isOrchestratorOpenTaskStatus task.2 = false

/-! ## Steps -/

namespace LedgerStep

variable {ledger after : RunLedger}

theorem active (step : LedgerStep ledger after) : isOrchestratorTerminalPhase ledger.phase = false := by
  cases step <;> assumption

theorem revision (step : LedgerStep ledger after) : after.revision = ledger.revision + 1 := by
  cases step <;> rfl

end LedgerStep

variable {status : OrchestratorAttemptStatus} {attempt : AttemptEntry}

namespace AttemptEntry

theorem progresses_refl (attempt : AttemptEntry) : attempt.Progresses attempt :=
  ⟨rfl, .inl rfl⟩

theorem progresses_of_move
    (move : AttemptMove attempt.status status) : attempt.Progresses (attempt.withStatus status) :=
  ⟨rfl, .inr move⟩

end AttemptEntry

theorem updateWhere_progresses {selects : AttemptEntry → Bool}
    {attempts : List AttemptEntry}
    (moves : ∀ attempt ∈ attempts, selects attempt = true → AttemptMove attempt.status status) :
    AttemptsProgress attempts
      (updateWhere selects (.withStatus status) attempts) := by
  refine ⟨_, [], (List.append_nil _).symm, ?_, by simp⟩
  simp only [updateWhere, List.forall₂_map_right_iff, List.forall₂_same]
  intro attempt member
  by_cases selected : selects attempt = true
  · simp only [selected, if_true]
    exact AttemptEntry.progresses_of_move (moves attempt member selected)
  · simp only [selected, Bool.false_eq_true, if_false]
    exact attempt.progresses_refl

theorem abandonLive_moves (live : attempt.status.isLive = true) :
    AttemptMove attempt.status .abandoned := by
  cases status : attempt.status with
  | reserved => exact .abandonReserved
  | running => exact .abandonRunning
  | settled => rw [status] at live; cases live
  | abandoned => rw [status] at live; cases live

theorem LedgerStep.attempts_progress {ledger after : RunLedger} (step : LedgerStep ledger after) :
    AttemptsProgress ledger.attempts after.attempts := by
  cases step with
  | reserve =>
    refine ⟨ledger.attempts, _, rfl, ?_, ?_⟩
    · exact List.forall₂_same.mpr fun attempt _ => attempt.progresses_refl
    · intro attempt added
      rw [List.mem_singleton.mp added]
  | move _ childRunId status _ moves =>
    exact updateWhere_progresses fun attempt member selected => moves attempt member (by simpa using selected)
  | advance =>
    refine ⟨ledger.attempts, [], (List.append_nil _).symm, ?_, by simp⟩
    exact List.forall₂_same.mpr fun attempt _ => attempt.progresses_refl
  | close => exact updateWhere_progresses fun _ _ selected => abandonLive_moves selected

/-! ## Soundness is kept -/

namespace RunLedger

variable {ledger : RunLedger} {phase : OrchestratorPhase}
  {tasks : List (String × OrchestratorTaskStatus)} {attempts : List AttemptEntry}

theorem commit_events_numbered (sound : ledger.Sound) :
    Numbered (ledger.commit phase tasks attempts).events ∧
      (ledger.commit phase tasks attempts).events.length = ledger.revision + 1 + 1 := by
  simp only [commit, sound.eventsNumbered.max_eq_length]
  exact ⟨sound.eventsNumbered.snoc, by simp [sound.eventsCount]⟩

theorem filter_statuses (selects : AttemptEntry → Bool) (status : OrchestratorAttemptStatus)
    (attempts : List AttemptEntry) (taskId : String) (purpose : OrchestratorChildPurpose) :
    ((updateWhere selects (.withStatus status) attempts).filter
      fun attempt => attempt.taskId == taskId && attempt.purpose == purpose) =
      updateWhere selects (.withStatus status)
        (attempts.filter fun attempt => attempt.taskId == taskId && attempt.purpose == purpose) :=
  filter_updateWhere fun _ _ _ => rfl

theorem map_statuses {Column : Type} {column : AttemptEntry → Column}
    (untouched : ∀ status attempt, column (AttemptEntry.withStatus status attempt) = column attempt)
    (selects : AttemptEntry → Bool) (status : OrchestratorAttemptStatus) (attempts : List AttemptEntry) :
    (updateWhere selects (.withStatus status) attempts).map column = attempts.map column :=
  map_updateWhere fun attempt _ _ => untouched status attempt

theorem Sound.commit_statuses (sound : ledger.Sound) {selects : AttemptEntry → Bool}
    (rewritten : attempts =
      updateWhere selects (.withStatus status) ledger.attempts)
    (activeKept : isOrchestratorTerminalPhase phase = false →
      ∀ attempt ∈ attempts, attempt.status ≠ .abandoned)
    (closedIdle : isClosedPhase phase = true →
      (∀ attempt ∈ attempts, attempt.status.isLive = false) ∧
        ∀ task ∈ tasks, isOrchestratorOpenTaskStatus task.2 = false) :
    (ledger.commit phase tasks attempts).Sound where
  eventsNumbered := (commit_events_numbered sound).1
  eventsCount := (commit_events_numbered sound).2
  attemptsNumbered taskId purpose := by
    have numbers := sound.attemptsNumbered taskId purpose
    simp only [attemptsOf, commit, rewritten] at numbers ⊢
    rwa [filter_statuses, map_statuses fun _ _ => rfl]
  attemptsBounded taskId purpose := by
    have bounded := sound.attemptsBounded taskId purpose
    simp only [attemptsOf, commit, rewritten] at bounded ⊢
    rwa [filter_statuses, updateWhere, List.length_map]
  childrenDistinct := by
    have distinct := sound.childrenDistinct
    simp only [commit, rewritten]
    rwa [map_statuses fun _ _ => rfl]
  activeKept := activeKept
  closedIdle := closedIdle

theorem Sound.reserve (sound : ledger.Sound) (active : isOrchestratorTerminalPhase ledger.phase = false)
    {taskId : String} {purpose : OrchestratorChildPurpose} {childRunId : String}
    (room : (ledger.attemptsOf taskId purpose).length < ORCHESTRATOR_MAX_ATTEMPTS)
    (fresh : childRunId ∉ ledger.attempts.map AttemptEntry.childRunId) :
    (ledger.commit ledger.phase ledger.tasks (ledger.attempts ++
      [⟨taskId, purpose, (ledger.attemptsOf taskId purpose).length + 1, childRunId, .reserved⟩])).Sound where
  eventsNumbered := (commit_events_numbered sound).1
  eventsCount := (commit_events_numbered sound).2
  attemptsNumbered otherTask otherPurpose := by
    have numbers := sound.attemptsNumbered otherTask otherPurpose
    simp only [attemptsOf, commit, List.filter_append, List.map_append] at numbers ⊢
    by_cases same : taskId = otherTask ∧ purpose = otherPurpose
    · obtain ⟨rfl, rfl⟩ := same
      -- The new number is one more than how many there are.
      simpa using numbers.snoc
    · have other : (taskId == otherTask && purpose == otherPurpose) = false := by simpa using same
      simpa [other] using numbers
  attemptsBounded otherTask otherPurpose := by
    have bounded := sound.attemptsBounded otherTask otherPurpose
    simp only [attemptsOf, commit, List.filter_append, List.length_append] at room bounded ⊢
    by_cases same : taskId = otherTask ∧ purpose = otherPurpose
    · obtain ⟨rfl, rfl⟩ := same
      simp only [beq_self_eq_true, Bool.and_self, List.filter_cons_of_pos, List.filter_nil,
        List.length_singleton]
      omega
    · have other : (taskId == otherTask && purpose == otherPurpose) = false := by simpa using same
      simpa [other] using bounded
  childrenDistinct := by
    simp only [commit, List.map_append, List.map_singleton]
    refine List.nodup_append.mpr ⟨sound.childrenDistinct, by simp, ?_⟩
    intro child known other added equal
    exact fresh (by rwa [← List.mem_singleton.mp added, ← equal])
  activeKept _ attempt member := by
    simp only [commit, List.mem_append, List.mem_singleton] at member
    cases member with
    | inl known => exact sound.activeKept active attempt known
    | inr added =>
      rw [added]
      simp
  closedIdle closed := by
    simp only [commit, isClosedPhase, active, Bool.false_and] at closed
    cases closed

theorem sound_created : created.Sound where
  eventsNumbered := rfl
  eventsCount := rfl
  attemptsNumbered _ _ := rfl
  attemptsBounded _ _ := by simp [attemptsOf, created]
  childrenDistinct := List.nodup_nil
  activeKept _ _ member := by cases member
  closedIdle closed := by cases closed

theorem abandonLive_not_live (member : attempt ∈ abandonLive attempts) :
    attempt.status.isLive = false := by
  obtain ⟨before, _, rfl⟩ := mem_updateWhere.mp member
  by_cases live : before.status.isLive = true
  · simp only [live, if_true]
    rfl
  · simp [live]

theorem abortOpen_not_open {task : String × OrchestratorTaskStatus} (member : task ∈ abortOpen tasks) :
    isOrchestratorOpenTaskStatus task.2 = false := by
  obtain ⟨before, _, rfl⟩ := mem_updateWhere.mp member
  by_cases isOpen : isOrchestratorOpenTaskStatus before.2 = true
  · simp only [isOpen, if_true]
    decide
  · simp [isOpen]

end RunLedger

open RunLedger in
theorem LedgerStep.sound {ledger after : RunLedger} (step : LedgerStep ledger after)
    (sound : ledger.Sound) : after.Sound := by
  cases step with
  | reserve active taskId purpose childRunId room fresh => exact sound.reserve active room fresh
  | move active childRunId status kept moves =>
    refine sound.commit_statuses rfl ?_ ?_
    · intro _ attempt member
      obtain ⟨before, known, rfl⟩ := mem_updateWhere.mp member
      by_cases moved : (before.childRunId == childRunId) = true
      · simp only [moved, if_true]
        exact kept
      · simpa only [moved, Bool.false_eq_true, if_false] using sound.activeKept active before known
    · intro closed
      simp only [isClosedPhase, active, Bool.false_and] at closed
      cases closed
  | advance active phase tasks unclosed =>
    have unchanged : ledger.attempts =
        updateWhere (fun _ => false) (.withStatus .settled) ledger.attempts := by
      simp [updateWhere]
    refine sound.commit_statuses unchanged ?_ ?_
    · intro _ attempt member
      exact sound.activeKept active attempt member
    · intro closed
      rw [unclosed] at closed
      cases closed
  | close active phase tasks closed =>
    refine sound.commit_statuses rfl ?_ ?_
    · intro notTerminal
      simp only [isClosedPhase, notTerminal, Bool.false_and] at closed
      cases closed
    · intro _
      exact ⟨fun _ member => abandonLive_not_live member, fun _ member => abortOpen_not_open member⟩

end SiftKit.Orchestrator
