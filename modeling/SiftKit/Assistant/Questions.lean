import SiftKit.Foundation.Failure
import SiftKit.Foundation.Runs
import SiftKit.Foundation.Schema
import SiftKit.Foundation.SlidingWindow
import SiftKit.Foundation.Tables

/-! # The assistant's questions

`QuestionStore` of `assistant/storage/question-store.ts`, the policy engine and the scheduler of
`assistant/questions` over it.  Instants are milliseconds: the ISO texts of the columns compare as the
instants they write, for a clock that stays within the years of four digits.  The signals and the score
of a candidate are numbers of any arithmetic.
-/

namespace SiftKit.Assistant.Questions

open SiftKit.Failure SiftKit.Tables

/-! ## Rows -/

inductive QuestionStatus where
  | planned
  | eligible
  | shown
  | answered
  | dismissed
  | snoozed
  | expired
  | blocked
  deriving DecidableEq, Repr

namespace QuestionStatus

def live : List QuestionStatus := [.planned, .eligible, .shown, .snoozed]

def isLive (status : QuestionStatus) : Bool := live.contains status

def text : QuestionStatus → String
  | .planned => "planned"
  | .eligible => "eligible"
  | .shown => "shown"
  | .answered => "answered"
  | .dismissed => "dismissed"
  | .snoozed => "snoozed"
  | .expired => "expired"
  | .blocked => "blocked"

end QuestionStatus

/-- `QUESTION_TYPES`. -/
inductive QuestionType where
  | confirmInference
  | resolveConflict
  | clarifyScope
  | followActiveGoal
  | fillRelevantGap
  deriving DecidableEq, Repr

/-- A row of `assistant_questions`. -/
structure QuestionRow (Amount : Type) where
  id : String
  ownerId : String
  topicKey : String
  questionText : String
  questionType : QuestionType
  candidateIds : List String
  expectedValue : Amount
  interruptionCost : Amount
  status : QuestionStatus
  eligibleAfterUtc : Option Int
  expiresAtUtc : Option Int
  shownAtUtc : Option Int
  answeredAtUtc : Option Int
  answerEvidenceId : Option String
  createdAtUtc : Int
  updatedAtUtc : Int
  deriving DecidableEq

def QuestionRow.isLive {Amount : Type} (row : QuestionRow Amount) : Bool := row.status.isLive

structure QuestionCandidate (Amount : Type) where
  id : String
  ownerId : String
  topicKey : String
  questionType : QuestionType
  gapType : String
  candidateIds : List String
  concreteBenefit : Option String
  uncertaintyReduction : Amount
  futureUsefulness : Amount
  currentRelevance : Amount
  answerability : Amount
  interruptionCost : Amount
  sensitivityCost : Amount
  repeatPenalty : Amount
  expiresAtUtc : Int
  deriving DecidableEq

inductive QuestionPolicyDecision (Amount : Type) where
  | eligible (score : Amount)
  | pendingOnly (score : Amount)
  | ineligible (reason : String) (score : Amount)
  deriving DecidableEq

/-- A candidate that the policy did not turn down. -/
structure ApprovedCandidate (Amount : Type) where
  candidate : QuestionCandidate Amount
  eligible : Bool
  score : Amount
  deriving DecidableEq

structure PlanQuestionsSummary where
  planned : Nat
  eligible : Nat
  pendingOnly : Nat
  expired : Nat
  deriving DecidableEq

/-- A `planPending` whose model call is under way: what is left of its loop, and what it counted. -/
structure Planning (Amount : Type) where
  ownerId : String
  remaining : List (ApprovedCandidate Amount)
  summary : PlanQuestionsSummary
  deriving DecidableEq

/-- The clock, the table, the tables it refers to, and the plannings in their order of start. -/
structure QuestionState (Amount : Type) where
  nowUtc : Int
  owners : List String
  evidenceRecords : List String
  questions : List (QuestionRow Amount)
  plannings : List (Planning Amount)
  deriving DecidableEq

/-! ## The platform -/

/-- Number arithmetic and the collation of the platform. -/
structure Platform (Amount : Type) where
  zero : Amount
  one : Amount
  times : Amount → Amount → Amount
  minus : Amount → Amount → Amount
  less : Amount → Amount → Bool
  isFinite : Amount → Bool
  /-- `left.localeCompare(right) <= 0`. -/
  localeAtMost : String → String → Bool

/-! ## Configuration and environment -/

/-- `AssistantConfig.Questions`, with the two switches above it. -/
structure QuestionConfig where
  AssistantEnabled : Bool
  PrivateModeActive : Bool
  Enabled : Bool
  MaxPerDay : Nat
  MaxPerWeek : Nat
  MinimumHoursBetweenQuestions : Nat
  AllowedLocalTimeStart : String
  AllowedLocalTimeEnd : String
  DismissedCooldownDays : Nat
  UnansweredExpiryDays : Nat
  SuppressDuringFullscreen : Bool
  SuppressDuringDoNotDisturb : Bool
  ActiveInputSuppressionSeconds : Int
  deriving DecidableEq

/-- `QuestionEnvironmentState` when it is available. -/
structure QuestionEnvironment where
  nowUtc : Int
  localTime : String
  fullscreen : Bool
  locked : Bool
  doNotDisturb : Bool
  presenting : Bool
  excludedApplication : Bool
  secondsSinceMouseInput : Int
  secondsSinceKeyboardInput : Int
  deriving DecidableEq

def DAY_MS : Int := 86400000

def HOUR_MS : Int := 3600000

/-- The last instant of a date. -/
def MAX_DATE_MS : Int := 8640000000000000

/-- `+010000-01-01T00:00:00.000Z`: as a text it sorts before all years of four digits. -/
def FIRST_EXPANDED_YEAR_MS : Int := 253402300800000

/-! ## The store -/

def unknownQuestion (questionId : String) : Thrown := .error s!"Unknown assistant question: {questionId}"

def liveQuestionExists (topicKey : String) : Thrown := .error s!"A live question already exists for topic: {topicKey}"

def cannotTransition (current next : QuestionStatus) : Thrown :=
  .error s!"Cannot transition assistant question from {current.text} to {next.text}."

def duplicateId : Thrown := .error "UNIQUE constraint failed: assistant_questions.id"

def noSuchReference : Thrown := .error "FOREIGN KEY constraint failed"

def invalidTimeValue : Thrown := .error "Invalid time value"

def scoreNotNormalized : Thrown := .error "Question policy score components must be normalized to [0, 1]."

structure CreateQuestionInput (Amount : Type) where
  ownerId : String
  topicKey : String
  questionText : String
  questionType : QuestionType
  candidateIds : List String
  expectedValue : Amount
  interruptionCost : Amount
  eligibleAfterUtc : Option Int
  expiresAtUtc : Option Int

/-- The row that a create inserts. -/
def CreateQuestionInput.row {Amount : Type} (input : CreateQuestionInput Amount) (id : String) (nowUtc : Int) :
    QuestionRow Amount where
  id := id
  ownerId := input.ownerId
  topicKey := input.topicKey
  questionText := input.questionText
  questionType := input.questionType
  candidateIds := input.candidateIds
  expectedValue := input.expectedValue
  interruptionCost := input.interruptionCost
  status := .planned
  eligibleAfterUtc := input.eligibleAfterUtc
  expiresAtUtc := input.expiresAtUtc
  shownAtUtc := none
  answeredAtUtc := none
  answerEvidenceId := none
  createdAtUtc := nowUtc
  updatedAtUtc := nowUtc

/-- The values of a transition; no `shownAtUtc` keeps the one that is stored. -/
structure TransitionValues where
  eligibleAfterUtc : Option Int
  shownAtUtc : Option (Option Int)
  answeredAtUtc : Option Int
  answerEvidenceId : Option String

/-- The row that a transition writes. -/
def TransitionValues.rewrite {Amount : Type} (values : TransitionValues) (next : QuestionStatus) (nowUtc : Int)
    (row : QuestionRow Amount) : QuestionRow Amount :=
  { row with
    status := next
    eligibleAfterUtc := values.eligibleAfterUtc
    shownAtUtc := values.shownAtUtc.getD row.shownAtUtc
    answeredAtUtc := values.answeredAtUtc
    answerEvidenceId := values.answerEvidenceId
    updatedAtUtc := nowUtc }

namespace QuestionState

variable {Amount : Type} (state : QuestionState Amount)

def getQuestion (questionId : String) : Option (QuestionRow Amount) :=
  state.questions.find? fun row => row.id == questionId

def requireQuestion (questionId : String) : Except Thrown (QuestionRow Amount) :=
  match state.getQuestion questionId with
  | some row => .ok row
  | none => .error (unknownQuestion questionId)

def findLiveByTopic (ownerId topicKey : String) : Option (QuestionRow Amount) :=
  state.questions.find? fun row => row.ownerId == ownerId && row.topicKey == topicKey && row.isLive

/-- `ORDER BY created_at_utc ASC, id ASC`. -/
def isListedBefore (left right : QuestionRow Amount) : Bool :=
  if left.createdAtUtc ≠ right.createdAtUtc then decide (left.createdAtUtc < right.createdAtUtc)
  else decide (left.id ≤ right.id)

def listAll (ownerId : String) : List (QuestionRow Amount) :=
  orderBy isListedBefore (state.questions.filter fun row => row.ownerId == ownerId)

def create (input : CreateQuestionInput Amount) (id : String) :
    Except Thrown (QuestionRow Amount × QuestionState Amount) :=
  if (state.findLiveByTopic input.ownerId input.topicKey).isSome then .error (liveQuestionExists input.topicKey)
  else if !state.owners.contains input.ownerId then .error noSuchReference
  else
    match insertRow (fun row other => row.id == other.id) (input.row id state.nowUtc) state.questions with
    | none => .error duplicateId
    | some inserted => .ok (input.row id state.nowUtc, { state with questions := inserted })

/-- The allowed statuses of every transition are live, so the index on live topics never refuses the update. -/
def transition (questionId : String) (allowed : List QuestionStatus) (next : QuestionStatus)
    (values : TransitionValues) : Except Thrown (QuestionRow Amount × QuestionState Amount) := do
  let current ← state.requireQuestion questionId
  throwWhen (!allowed.contains current.status) (cannotTransition current.status next)
  throwWhen (values.answerEvidenceId.any fun evidenceId => !state.evidenceRecords.contains evidenceId) noSuchReference
  let written := updateWhere (fun row => row.id == questionId) (values.rewrite next state.nowUtc) state.questions
  let row ← { state with questions := written }.requireQuestion questionId
  pure (row, { state with questions := written })

def markEligible (questionId : String) (eligibleAfterUtc : Int) : Except Thrown (QuestionRow Amount × QuestionState Amount) :=
  state.transition questionId [.planned, .snoozed] .eligible
    { eligibleAfterUtc := some eligibleAfterUtc, shownAtUtc := some none, answeredAtUtc := none, answerEvidenceId := none }

def markShown (questionId : String) : Except Thrown (QuestionRow Amount × QuestionState Amount) :=
  state.transition questionId [.eligible] .shown
    { eligibleAfterUtc := none, shownAtUtc := some (some state.nowUtc), answeredAtUtc := none, answerEvidenceId := none }

def answer (questionId evidenceId : String) : Except Thrown (QuestionRow Amount × QuestionState Amount) :=
  state.transition questionId QuestionStatus.live .answered
    { eligibleAfterUtc := none, shownAtUtc := none, answeredAtUtc := some state.nowUtc, answerEvidenceId := some evidenceId }

def dismiss (questionId : String) : Except Thrown (QuestionRow Amount × QuestionState Amount) :=
  state.transition questionId QuestionStatus.live .dismissed
    { eligibleAfterUtc := none, shownAtUtc := none, answeredAtUtc := none, answerEvidenceId := none }

def snooze (questionId : String) (eligibleAfterUtc : Int) : Except Thrown (QuestionRow Amount × QuestionState Amount) :=
  state.transition questionId [.planned, .eligible, .shown] .snoozed
    { eligibleAfterUtc := some eligibleAfterUtc, shownAtUtc := none, answeredAtUtc := none, answerEvidenceId := none }

def block (questionId : String) : Except Thrown (QuestionRow Amount × QuestionState Amount) :=
  state.transition questionId QuestionStatus.live .blocked
    { eligibleAfterUtc := none, shownAtUtc := none, answeredAtUtc := none, answerEvidenceId := none }

/-- `expires_at_utc IS NOT NULL AND expires_at_utc <= ?`. -/
def isDue (expiresAtUtc : Option Int) (nowUtc : Int) : Bool :=
  expiresAtUtc.any fun expires => decide (expires ≤ nowUtc ∨ FIRST_EXPANDED_YEAR_MS ≤ expires)

/-- The rows that an expiry selects. -/
def isExpiring (ownerId : String) (nowUtc : Int) (row : QuestionRow Amount) : Bool :=
  row.ownerId == ownerId && row.isLive && isDue row.expiresAtUtc nowUtc

/-- The number of changed rows, and the table. -/
def expireDue (ownerId : String) : Nat × QuestionState Amount :=
  (state.questions.countP (isExpiring ownerId state.nowUtc),
    { state with
      questions := updateWhere (isExpiring ownerId state.nowUtc)
        (fun row => { row with status := .expired, updatedAtUtc := state.nowUtc }) state.questions })

end QuestionState

/-! ## The policy engine -/

structure QuestionPolicyHistory where
  shownToday : Nat
  shownThisWeek : Nat
  lastShownAtUtc : Option Int
  lastDismissedAtUtc : Option Int
  duplicateLiveQuestion : Bool
  deriving DecidableEq

/-- `GraphQuestionPolicyContext.readHistory`. -/
def readHistory {Amount : Type} (state : QuestionState Amount) (ownerId topicKey : String) (nowUtc : Int) :
    QuestionPolicyHistory :=
  let dayStart := nowUtc - DAY_MS
  let weekStart := nowUtc - 7 * DAY_MS
  let questions := state.listAll ownerId
  let shown := questions.filterMap fun row => row.shownAtUtc
  { shownToday := SlidingWindow.countAfter dayStart shown
    shownThisWeek := SlidingWindow.countAfter weekStart shown
    lastShownAtUtc := SlidingWindow.latest shown
    lastDismissedAtUtc := SlidingWindow.latest
      ((questions.filter fun row => row.topicKey == topicKey && row.status == .dismissed).map fun row => row.updatedAtUtc)
    duplicateLiveQuestion := questions.any fun row => row.topicKey == topicKey && row.isLive }

def SUPPORTED_QUESTION_GAP_TYPES : List String :=
  ["candidate_confirmation", "scope_clarification", "assertion_conflict", "active_goal_plan"]

def isAllowedLocalTime (localTime start stop : String) : Bool :=
  if start = stop then true
  else if start < stop then decide (start ≤ localTime ∧ localTime ≤ stop)
  else decide (start ≤ localTime ∨ localTime ≤ stop)

section

variable {Amount : Type} (platform : Platform Amount)

namespace Platform

/-- `Number.isFinite(signal) && signal >= 0 && signal <= 1`. -/
def isNormalized (signal : Amount) : Bool :=
  platform.isFinite signal && !platform.less signal platform.zero && !platform.less platform.one signal

def score (candidate : QuestionCandidate Amount) : Except Thrown Amount :=
  let signals := [candidate.uncertaintyReduction, candidate.futureUsefulness, candidate.currentRelevance,
    candidate.answerability, candidate.interruptionCost, candidate.sensitivityCost, candidate.repeatPenalty]
  if signals.any fun signal => !platform.isNormalized signal then .error scoreNotNormalized
  else
    let gain := platform.times (platform.times (platform.times candidate.uncertaintyReduction candidate.futureUsefulness)
      candidate.currentRelevance) candidate.answerability
    .ok (platform.minus (platform.minus (platform.minus gain candidate.interruptionCost) candidate.sensitivityCost)
      candidate.repeatPenalty)

/-- The score that ends an evaluation. -/
def scored (candidate : QuestionCandidate Amount) : Except Thrown (QuestionPolicyDecision Amount) := do
  let candidateScore ← platform.score candidate
  if platform.less platform.zero candidateScore then .ok (.eligible candidateScore)
  else .ok (.ineligible "score_not_positive" candidateScore)

/-- `QuestionPolicyEngine.evaluate`, given what the context knows of blocked topics and what the environment reads. -/
def evaluate (config : QuestionConfig) (state : QuestionState Amount) (isTopicBlocked : String → String → Bool)
    (environment : Option QuestionEnvironment) (candidate : QuestionCandidate Amount) :
    Except Thrown (QuestionPolicyDecision Amount) :=
  let ineligible : String → Except Thrown (QuestionPolicyDecision Amount) := fun reason => .ok (.ineligible reason platform.zero)
  if !config.AssistantEnabled then ineligible "assistant_disabled"
  else if !config.Enabled then ineligible "questions_disabled"
  else if candidate.concreteBenefit.all fun benefit => (Schema.trim benefit).isEmpty then ineligible "no_concrete_benefit"
  else if !SUPPORTED_QUESTION_GAP_TYPES.contains candidate.gapType then ineligible "unsupported_gap_type"
  else if isTopicBlocked candidate.ownerId candidate.topicKey then ineligible "topic_blocked"
  else if config.PrivateModeActive then ineligible "private_mode"
  else
    match environment with
    | none => .ok (.pendingOnly platform.zero)
    | some environment =>
      let history := readHistory state candidate.ownerId candidate.topicKey environment.nowUtc
      if candidate.expiresAtUtc ≤ environment.nowUtc then ineligible "expired"
      else if !isAllowedLocalTime environment.localTime config.AllowedLocalTimeStart config.AllowedLocalTimeEnd then
        ineligible "outside_allowed_time"
      else if config.MaxPerDay ≤ history.shownToday then ineligible "daily_cap"
      else if config.MaxPerWeek ≤ history.shownThisWeek then ineligible "weekly_cap"
      else if history.lastShownAtUtc.any fun last =>
          decide (environment.nowUtc - last < config.MinimumHoursBetweenQuestions * HOUR_MS) then
        ineligible "minimum_interval"
      else if history.lastDismissedAtUtc.any fun last =>
          decide (environment.nowUtc - last < config.DismissedCooldownDays * 24 * HOUR_MS) then
        ineligible "dismissed_cooldown"
      else if history.duplicateLiveQuestion then ineligible "duplicate_live_question"
      else if config.SuppressDuringFullscreen && environment.fullscreen then ineligible "fullscreen"
      else if environment.locked then ineligible "locked"
      else if config.SuppressDuringDoNotDisturb && environment.doNotDisturb then ineligible "do_not_disturb"
      else if environment.presenting then ineligible "presenting"
      else if environment.excludedApplication then ineligible "excluded_application"
      else if min environment.secondsSinceMouseInput environment.secondsSinceKeyboardInput <
          config.ActiveInputSuppressionSeconds then
        ineligible "recent_input"
      else platform.scored candidate

/-! ## The scheduler -/

/-- The entry of a decision, unless it is `ineligible`. -/
def approved (candidate : QuestionCandidate Amount) : QuestionPolicyDecision Amount → Option (ApprovedCandidate Amount)
  | .eligible score => some { candidate, eligible := true, score }
  | .pendingOnly score => some { candidate, eligible := false, score }
  | .ineligible _ _ => none

/-- `right.score - left.score || left.topicKey.localeCompare(right.topicKey)`, at most zero. -/
def isApprovedBefore (left right : ApprovedCandidate Amount) : Bool :=
  if platform.less right.score left.score then true
  else if platform.less left.score right.score then false
  else platform.localeAtMost left.candidate.topicKey right.candidate.topicKey

/-- What `planPending` judges in one go, before its first proposal. -/
def judge (config : QuestionConfig) (state : QuestionState Amount) (ownerId : String)
    (isTopicBlocked : String → String → Bool) (environment : Option QuestionEnvironment)
    (candidates : List (QuestionCandidate Amount)) : Except Thrown (List (ApprovedCandidate Amount)) := do
  let free := candidates.filter fun candidate => (state.findLiveByTopic ownerId candidate.topicKey).isNone
  let decisions ← free.mapM fun candidate =>
    (platform.evaluate config state isTopicBlocked environment candidate).map (approved candidate)
  pure ((orderBy platform.isApprovedBefore (decisions.filterMap id)).take config.MaxPerDay)

end Platform

/-- `new Date(Date.parse(nowUtc) + UnansweredExpiryDays * 86_400_000).toISOString()`. -/
def unansweredExpiry (config : QuestionConfig) (nowUtc : Int) : Except Thrown Int :=
  let expires := nowUtc + config.UnansweredExpiryDays * DAY_MS
  if MAX_DATE_MS < expires then .error invalidTimeValue else .ok expires

/-- The transaction of one proposal. -/
def insertProposal (config : QuestionConfig) (state : QuestionState Amount) (ownerId : String)
    (entry : ApprovedCandidate Amount) (questionText id : String) : Except Thrown (QuestionState Amount) := do
  let expires ← unansweredExpiry config state.nowUtc
  let created ← state.create
    { ownerId
      topicKey := entry.candidate.topicKey
      questionText
      questionType := entry.candidate.questionType
      candidateIds := entry.candidate.candidateIds
      expectedValue := entry.score
      interruptionCost := entry.candidate.interruptionCost
      eligibleAfterUtc := none
      expiresAtUtc := some expires } id
  if entry.eligible then
    let marked ← created.2.markEligible created.1.id state.nowUtc
    pure marked.2
  else pure created.2

/-! ## Calls -/

/-- One synchronous stretch of the service: a call of the store, the start of a `planPending` up to its first
model call, or the resumption of a planning with what the planner proposed, if it did. -/
inductive QuestionCall (Amount : Type) where
  | planPending (ownerId : String) (candidates : List (QuestionCandidate Amount))
      (isTopicBlocked : String → String → Bool) (environment : Option QuestionEnvironment)
  | proposed (planning : Nat) (questionText : Option String) (id : String)
  | markEligible (questionId : String) (eligibleAfterUtc : Int)
  | markShown (questionId : String)
  | answer (questionId evidenceId : String)
  | dismiss (questionId : String)
  | snooze (questionId : String) (eligibleAfterUtc : Int)
  | block (questionId : String)
  | expireDue (ownerId : String)

/-- A call, and the milliseconds since the one before it. -/
structure QuestionEvent (Amount : Type) where
  elapsed : Nat
  call : QuestionCall Amount

/-- What one more question counts. -/
def PlanQuestionsSummary.count (summary : PlanQuestionsSummary) (eligible : Bool) : PlanQuestionsSummary :=
  { summary with
    planned := summary.planned + 1
    eligible := if eligible then summary.eligible + 1 else summary.eligible
    pendingOnly := if eligible then summary.pendingOnly else summary.pendingOnly + 1 }

namespace QuestionState

def advance (state : QuestionState Amount) (elapsed : Nat) : QuestionState Amount :=
  { state with nowUtc := state.nowUtc + elapsed }

/-- A call that throws writes nothing. -/
def settle (state : QuestionState Amount) (result : Except Thrown (QuestionRow Amount × QuestionState Amount)) :
    QuestionState Amount :=
  committed state result

def setPlanning (state : QuestionState Amount) (planning : Nat) (rest : Planning Amount) : QuestionState Amount :=
  { state with plannings := state.plannings.set planning rest }

/-- `planPending` up to its first model call; a planning of nothing is over. -/
def planPending (platform : Platform Amount) (config : QuestionConfig) (state : QuestionState Amount) (ownerId : String)
    (candidates : List (QuestionCandidate Amount)) (isTopicBlocked : String → String → Bool)
    (environment : Option QuestionEnvironment) : QuestionState Amount :=
  let (expired, after) := state.expireDue ownerId
  match platform.judge config after ownerId isTopicBlocked environment candidates with
  | .ok remaining =>
    { after with
      plannings := after.plannings ++ [{ ownerId, remaining, summary := { planned := 0, eligible := 0, pendingOnly := 0, expired } }] }
  | .error _ => after

/-- The round of a planning that its planner answers; an abort, a refusal or a rolled back transaction ends it. -/
def proposed (config : QuestionConfig) (state : QuestionState Amount) (planning : Nat) (questionText : Option String)
    (id : String) : QuestionState Amount :=
  match state.plannings[planning]? with
  | some { ownerId, remaining := entry :: rest, summary } =>
    match questionText with
    | none => state.setPlanning planning { ownerId, remaining := [], summary }
    | some questionText =>
      match insertProposal config state ownerId entry questionText id with
      | .ok inserted =>
        inserted.setPlanning planning { ownerId, remaining := rest, summary := summary.count entry.eligible }
      | .error _ => state.setPlanning planning { ownerId, remaining := [], summary }
  | _ => state

def answerCall (platform : Platform Amount) (config : QuestionConfig) (state : QuestionState Amount) :
    QuestionCall Amount → QuestionState Amount
  | .planPending ownerId candidates isTopicBlocked environment =>
    state.planPending platform config ownerId candidates isTopicBlocked environment
  | .proposed planning questionText id => state.proposed config planning questionText id
  | .markEligible questionId eligibleAfterUtc => state.settle (state.markEligible questionId eligibleAfterUtc)
  | .markShown questionId => state.settle (state.markShown questionId)
  | .answer questionId evidenceId => state.settle (state.answer questionId evidenceId)
  | .dismiss questionId => state.settle (state.dismiss questionId)
  | .snooze questionId eligibleAfterUtc => state.settle (state.snooze questionId eligibleAfterUtc)
  | .block questionId => state.settle (state.block questionId)
  | .expireDue ownerId => (state.expireDue ownerId).2

/-- A service that has asked nothing yet. -/
def opened (nowUtc : Int) (owners evidenceRecords : List String) : QuestionState Amount :=
  { nowUtc, owners, evidenceRecords, questions := [], plannings := [] }

end QuestionState

def step (platform : Platform Amount) (config : QuestionConfig) (state : QuestionState Amount)
    (event : QuestionEvent Amount) : QuestionState Amount :=
  (state.advance event.elapsed).answerCall platform config event.call

end

end SiftKit.Assistant.Questions
