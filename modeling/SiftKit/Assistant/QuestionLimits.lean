import Mathlib.Algebra.Order.Group.Int
import SiftKit.Assistant.QuestionEffects

/-! # Limits on the questions that are shown

The policy judges candidates by the showings in the history, but a question is shown later, and nothing
checks then.  A showing is in the history as long as its row keeps `shown_at_utc`, which a question that
becomes eligible again loses.  So the limits hold in a run exactly if every showing meets them on its own
account, and no question that was shown becomes eligible again.
-/

namespace SiftKit.Assistant.Questions

open SiftKit.Failure SiftKit.SlidingWindow SiftKit.Tables QuestionState

variable {Amount : Type}

/-! ## Showings -/

/-- A question that the user was shown, and when. -/
structure Showing where
  ownerId : String
  questionId : String
  shownAtUtc : Int
  deriving DecidableEq

/-- The showing of a `markShown`, unless it throws. -/
def showingOf (state : QuestionState Amount) (questionId : String) : List Showing :=
  match state.markShown questionId with
  | .ok (row, after) => [{ ownerId := row.ownerId, questionId := row.id, shownAtUtc := after.nowUtc }]
  | .error _ => []

/-- The showing of a call, if it is one. -/
def showing (state : QuestionState Amount) (event : QuestionEvent Amount) : List Showing :=
  match event.call with
  | .markShown questionId => showingOf (state.advance event.elapsed) questionId
  | _ => []

def shownTimes (ownerId : String) (showings : List Showing) : List Int :=
  (showings.filter fun showing => showing.ownerId == ownerId).map fun showing => showing.shownAtUtc

variable (ownerId : String) {recorded recordedAfter : List Int}

@[simp] theorem shownTimes_append (first second : List Showing) :
    shownTimes ownerId (first ++ second) = shownTimes ownerId first ++ shownTimes ownerId second := by
  simp [shownTimes]

def recordedTime (ownerId : String) (row : QuestionRow Amount) : Option Int :=
  if row.ownerId == ownerId then row.shownAtUtc else none

/-- The showings of an owner that the table records. -/
def recordedTimes (ownerId : String) (rows : List (QuestionRow Amount)) : List Int :=
  rows.filterMap (recordedTime ownerId)

/-- A history counts the showings: of the last day, of the last week, and the last of all. -/
structure HistoryCounts (history : QuestionPolicyHistory) (nowUtc : Int) (times : List Int) : Prop where
  today : history.shownToday = countAfter (nowUtc - DAY_MS) times
  thisWeek : history.shownThisWeek = countAfter (nowUtc - 7 * DAY_MS) times
  last : history.lastShownAtUtc = latest times

theorem historyCounts_readHistory (state : QuestionState Amount) (ownerId topicKey : String) (nowUtc : Int) :
    HistoryCounts (readHistory state ownerId topicKey nowUtc) nowUtc (recordedTimes ownerId state.questions) := by
  have listed : ((state.listAll ownerId).filterMap fun row => row.shownAtUtc).Perm (recordedTimes ownerId state.questions) := by
    have same := (perm_orderBy isListedBefore
      (state.questions.filter fun row => row.ownerId == ownerId)).filterMap fun row => row.shownAtUtc
    rw [List.filterMap_filter] at same
    exact same
  constructor
  · exact countAfter_perm listed _
  · exact countAfter_perm listed _
  · exact latest_perm listed

/-! ## The limits -/

/-- What the claim of the limits says of a run of calls. -/
structure QuestionLimits (platform : Platform Amount) (config : QuestionConfig) (start : QuestionState Amount)
    (events : List (QuestionEvent Amount)) : Prop where
  counted : ∀ ownerId topicKey nowUtc,
    HistoryCounts (readHistory (Runs.run (step platform config) start events) ownerId topicKey nowUtc) nowUtc
      (shownTimes ownerId (Runs.observed (step platform config) showing start events))
  daily : ∀ ownerId, Limited DAY_MS config.MaxPerDay
    (shownTimes ownerId (Runs.observed (step platform config) showing start events))
  weekly : ∀ ownerId, Limited (7 * DAY_MS) config.MaxPerWeek
    (shownTimes ownerId (Runs.observed (step platform config) showing start events))
  spaced : ∀ ownerId, Spaced (config.MinimumHoursBetweenQuestions * HOUR_MS)
    (shownTimes ownerId (Runs.observed (step platform config) showing start events))
  oneLive : OneLivePerTopic (Runs.run (step platform config) start events).questions
  /-- What was live no more at some time of the run is in the table as it was then. -/
  settled : ∀ early, early <+: events → ∀ row ∈ (Runs.run (step platform config) start early).questions,
    row.isLive = false → row ∈ (Runs.run (step platform config) start events).questions ∧
      ∀ later ∈ (Runs.run (step platform config) start events).questions, later.id = row.id → later = row

/-- The gates of the policy on showings, passed by a history. -/
def WithinLimits (config : QuestionConfig) (history : QuestionPolicyHistory) (nowUtc : Int) : Prop :=
  history.shownToday < config.MaxPerDay ∧ history.shownThisWeek < config.MaxPerWeek ∧
    ∀ last, history.lastShownAtUtc = some last → config.MinimumHoursBetweenQuestions * HOUR_MS ≤ nowUtc - last

/-- A question is shown when the gates pass at that time, and none that was shown becomes eligible again. -/
def ShowsWithinLimits (config : QuestionConfig) (state : QuestionState Amount) (event : QuestionEvent Amount) : Prop :=
  match event.call with
  | .markShown questionId => ∀ row ∈ state.questions, row.id = questionId → row.status = .eligible →
    WithinLimits config (readHistory state row.ownerId row.topicKey (state.nowUtc + event.elapsed))
      (state.nowUtc + event.elapsed)
  | .markEligible questionId _ => ∀ row ∈ state.questions, row.id = questionId → row.status = .snoozed →
    row.shownAtUtc = none
  | _ => True

/-! ## The history and the showings -/

/-- The two lists of times cannot be told apart by a history. -/
def Agree (recorded shown : List Int) : Prop :=
  (∀ start, countAfter start recorded = countAfter start shown) ∧ latest recorded = latest shown

variable {state : QuestionState Amount}

theorem agree_iff_counts {ownerId : String} {times : List Int} :
    (∀ topicKey nowUtc, HistoryCounts (readHistory state ownerId topicKey nowUtc) nowUtc times) ↔
      Agree (recordedTimes ownerId state.questions) times := by
  constructor
  · intro counts
    constructor
    · intro start
      have read := (historyCounts_readHistory state ownerId "" (start + DAY_MS)).today
      have given := (counts "" (start + DAY_MS)).today
      rw [Int.add_sub_cancel] at read given
      exact read.symm.trans given
    · exact (historyCounts_readHistory state ownerId "" 0).last.symm.trans (counts "" 0).last
  · intro agree topicKey nowUtc
    have read := historyCounts_readHistory state ownerId topicKey nowUtc
    exact ⟨read.today.trans (agree.1 _), read.thisWeek.trans (agree.1 _), read.last.trans agree.2⟩

variable {shown : List Int}

theorem Agree.snoc {nowUtc : Int} (agree : Agree recorded shown)
    (past : ∀ time ∈ shown, time ≤ nowUtc) (recordsIt : recordedAfter.Perm (recorded ++ [nowUtc])) :
    Agree recordedAfter (shown ++ [nowUtc]) := by
  have recordedPast : ∀ time ∈ recorded, time ≤ nowUtc := by
    intro time member
    cases isLatest : latest recorded with
    | none =>
      rw [latest_eq_none.mp isLatest] at member
      cases member
    | some last =>
      have bound := (latest_eq_some.mp isLatest).2 time member
      rw [agree.2] at isLatest
      exact bound.trans (past last (latest_eq_some.mp isLatest).1)
  constructor
  · intro start
    rw [countAfter_perm recordsIt, countAfter_append, countAfter_append, agree.1]
  · rw [latest_perm recordsIt, latest_snoc recordedPast, latest_snoc past]

theorem Agree.perm (agree : Agree recorded shown) (same : recordedAfter.Perm recorded) :
    Agree recordedAfter shown :=
  ⟨fun start => (countAfter_perm same start).trans (agree.1 start), (latest_perm same).trans agree.2⟩

theorem Agree.not_forgotten {time : Int} (agree : Agree recorded shown)
    (forgets : recorded.Perm (time :: recordedAfter)) : ¬ Agree recordedAfter shown := by
  intro agreeAfter
  have before := agree.1 (time - 1)
  rw [countAfter_perm forgets, ← agreeAfter.1 (time - 1)] at before
  have counted : countAfter (time - 1) (time :: recordedAfter) = countAfter (time - 1) recordedAfter + 1 := by
    simp [countAfter]
  omega

variable {config : QuestionConfig}

theorem withinLimits_iff {ownerId : String} (topicKey : String)
    {nowUtc : Int} {times : List Int} (agree : Agree (recordedTimes ownerId state.questions) times) :
    WithinLimits config (readHistory state ownerId topicKey nowUtc) nowUtc ↔
      countAfter (nowUtc - DAY_MS) times < config.MaxPerDay ∧ countAfter (nowUtc - 7 * DAY_MS) times < config.MaxPerWeek ∧
        ∀ time ∈ times, config.MinimumHoursBetweenQuestions * HOUR_MS ≤ nowUtc - time := by
  have counts := agree_iff_counts.mpr agree topicKey nowUtc
  unfold WithinLimits
  rw [counts.today, counts.thisWeek, counts.last, forall_gap_iff_latest]

/-! ## What the calls do to the recorded showings -/

theorem recordedTimes_update {selects : QuestionRow Amount → Bool} {rewrite : QuestionRow Amount → QuestionRow Amount}
    {rows : List (QuestionRow Amount)}
    (kept : ∀ row, (rewrite row).ownerId = row.ownerId ∧ (rewrite row).shownAtUtc = row.shownAtUtc) :
    recordedTimes ownerId (updateWhere selects rewrite rows) = recordedTimes ownerId rows := by
  apply filterMap_updateWhere
  intro row _ _
  simp only [recordedTime, kept row]

theorem recordedTimes_settle {questionId : String} {allowed : List QuestionStatus}
    {next : QuestionStatus} {values : TransitionValues} (kept : values.shownAtUtc = none) :
    recordedTimes ownerId (state.settle (state.transition questionId allowed next values)).questions =
      recordedTimes ownerId state.questions := by
  cases ended : state.transition questionId allowed next values with
  | error failure => rfl
  | ok answered =>
    obtain ⟨result, after⟩ := answered
    obtain ⟨-, -, -, -, rfl⟩ := transition_eq_ok ended
    apply recordedTimes_update
    intro row
    simp [TransitionValues.rewrite, kept]

theorem recordedTimes_expireDue (state : QuestionState Amount) (expiredOwner ownerId : String) :
    recordedTimes ownerId (state.expireDue expiredOwner).2.questions = recordedTimes ownerId state.questions :=
  recordedTimes_update ownerId fun _ => ⟨rfl, rfl⟩

theorem recordedTimes_proposed (config : QuestionConfig) (state : QuestionState Amount) (planning : Nat)
    (questionText : Option String) (id ownerId : String) :
    recordedTimes ownerId (state.proposed config planning questionText id).questions =
      recordedTimes ownerId state.questions := by
  unfold QuestionState.proposed
  split
  · split
    · rfl
    · split
      next inserted isInserted =>
        obtain ⟨row, -, -, unseen, rfl⟩ := insertProposal_eq_ok isInserted
        simp [setPlanning, recordedTimes, recordedTime, unseen]
      · rfl
  · rfl

theorem recordedTimes_planPending (platform : Platform Amount) (config : QuestionConfig) (state : QuestionState Amount)
    (planningOwner : String) (candidates : List (QuestionCandidate Amount)) (isTopicBlocked : String → String → Bool)
    (environment : Option QuestionEnvironment) (ownerId : String) :
    recordedTimes ownerId (state.planPending platform config planningOwner candidates isTopicBlocked environment).questions =
      recordedTimes ownerId state.questions := by
  unfold QuestionState.planPending
  simp only
  split
  · exact recordedTimes_expireDue state planningOwner ownerId
  · exact recordedTimes_expireDue state planningOwner ownerId

theorem recordedTimes_between (before after : List (QuestionRow Amount)) (row : QuestionRow Amount) :
    (recordedTimes ownerId (before ++ row :: after)).Perm
      ((recordedTime ownerId row).toList ++ (recordedTimes ownerId before ++ recordedTimes ownerId after)) := by
  have split : recordedTimes ownerId (before ++ row :: after) =
      recordedTimes ownerId before ++ ((recordedTime ownerId row).toList ++ recordedTimes ownerId after) := by
    unfold recordedTimes
    rw [List.filterMap_append, List.filterMap_cons]
    cases recordedTime ownerId row with
    | none => rfl
    | some time => rfl
  rw [split]
  exact List.perm_append_comm_assoc _ _ _

section

variable {state : QuestionState Amount} {row : QuestionRow Amount} (sound : Sound state.questions)
  (member : row ∈ state.questions)

include sound member

/-- One row moves: what it recorded before and after, among the records of the others. -/
theorem recordedTimes_moved (next : QuestionStatus) (values : TransitionValues) (ownerId : String) :
    ∃ others,
      (recordedTimes ownerId state.questions).Perm ((recordedTime ownerId row).toList ++ others) ∧
      (recordedTimes ownerId (state.moved row.id next values).questions).Perm
        ((recordedTime ownerId (values.rewrite next state.nowUtc row)).toList ++ others) := by
  obtain ⟨before, after, isRows, written⟩ := exists_updateWhere_between sound.distinct member
  have isWritten : (state.moved row.id next values).questions = before ++ values.rewrite next state.nowUtc row :: after :=
    written (values.rewrite next state.nowUtc)
  refine ⟨recordedTimes ownerId before ++ recordedTimes ownerId after, ?_, ?_⟩
  · rw [isRows]
    exact recordedTimes_between ownerId before after row
  · rw [isWritten]
    exact recordedTimes_between ownerId before after _

theorem recordedTimes_shown (isEligible : row.status = .eligible) {values : TransitionValues}
    (records : values.shownAtUtc = some (some state.nowUtc)) (ownerId : String) :
    (recordedTimes ownerId (state.moved row.id .shown values).questions).Perm
      (recordedTimes ownerId state.questions ++
        shownTimes ownerId [{ ownerId := row.ownerId, questionId := row.id, shownAtUtc := state.nowUtc }]) := by
  have unseen : row.shownAtUtc = none := sound.unseen row member (Or.inr isEligible)
  obtain ⟨others, before, after⟩ := recordedTimes_moved sound member .shown values ownerId
  have nothing : (recordedTime ownerId row).toList = [] := by simp [recordedTime, unseen]
  have one : (recordedTime ownerId (values.rewrite .shown state.nowUtc row)).toList =
      shownTimes ownerId [{ ownerId := row.ownerId, questionId := row.id, shownAtUtc := state.nowUtc }] := by
    simp only [recordedTime, TransitionValues.rewrite, records, Option.getD_some, shownTimes]
    by_cases isOwner : (row.ownerId == ownerId) = true
    · simp [isOwner]
    · simp [isOwner]
  rw [nothing, List.nil_append] at before
  rw [one] at after
  exact after.trans (List.perm_append_comm.trans (before.symm.append_right _))

end

/-! ## One call -/

/-- The limits of one owner, by what is recorded and what was shown. -/
structure KeepsLimits (config : QuestionConfig) (recorded shown : List Int) : Prop where
  agree : Agree recorded shown
  daily : Limited DAY_MS config.MaxPerDay shown
  weekly : Limited (7 * DAY_MS) config.MaxPerWeek shown
  spaced : Spaced (config.MinimumHoursBetweenQuestions * HOUR_MS) shown

theorem keepsLimits_shown {nowUtc : Int}
    (keeps : KeepsLimits config recorded shown) (past : ∀ time ∈ shown, time ≤ nowUtc)
    (recordsIt : recordedAfter.Perm (recorded ++ [nowUtc])) :
    KeepsLimits config recordedAfter (shown ++ [nowUtc]) ↔
      countAfter (nowUtc - DAY_MS) shown < config.MaxPerDay ∧ countAfter (nowUtc - 7 * DAY_MS) shown < config.MaxPerWeek ∧
        ∀ time ∈ shown, config.MinimumHoursBetweenQuestions * HOUR_MS ≤ nowUtc - time := by
  have day : (0 : Int) < DAY_MS := by decide
  have week : (0 : Int) < 7 * DAY_MS := by decide
  constructor
  · intro after
    exact ⟨((limited_snoc day past).mp after.daily).2, ((limited_snoc week past).mp after.weekly).2,
      (spaced_snoc.mp after.spaced).2⟩
  · rintro ⟨today, thisWeek, apart⟩
    exact ⟨keeps.agree.snoc past recordsIt, (limited_snoc day past).mpr ⟨keeps.daily, today⟩,
      (limited_snoc week past).mpr ⟨keeps.weekly, thisWeek⟩, spaced_snoc.mpr ⟨keeps.spaced, apart⟩⟩

theorem KeepsLimits.perm (keeps : KeepsLimits config recorded shown)
    (same : recordedAfter.Perm recorded) : KeepsLimits config recordedAfter shown :=
  ⟨keeps.agree.perm same, keeps.daily, keeps.weekly, keeps.spaced⟩

section

variable {config : QuestionConfig} {state : QuestionState Amount} {shown : List Showing} (sound : Sound state.questions)
  (keeps : ∀ ownerId, KeepsLimits config (recordedTimes ownerId state.questions) (shownTimes ownerId shown))

include keeps in
theorem keeps_quiet {after : QuestionState Amount} {showings : List Showing} {condition : Prop} (showsNone : showings = [])
    (same : ∀ ownerId, (recordedTimes ownerId after.questions).Perm (recordedTimes ownerId state.questions))
    (met : condition) :
    (∀ ownerId, KeepsLimits config (recordedTimes ownerId after.questions) (shownTimes ownerId (shown ++ showings))) ↔
      condition := by
  apply iff_of_true ?_ met
  intro ownerId
  rw [showsNone, List.append_nil]
  exact (keeps ownerId).perm (same ownerId)

include sound keeps in
theorem keeps_markShown (questionId : String)
    (past : ∀ ownerId, ∀ time ∈ shownTimes ownerId shown, time ≤ state.nowUtc) :
    (∀ ownerId, KeepsLimits config (recordedTimes ownerId (state.settle (state.markShown questionId)).questions)
        (shownTimes ownerId (shown ++ showingOf state questionId))) ↔
      ∀ row ∈ state.questions, row.id = questionId → row.status = .eligible →
        WithinLimits config (readHistory state row.ownerId row.topicKey state.nowUtc) state.nowUtc := by
  by_cases waits : ∃ row, state.getQuestion questionId = some row ∧ row.status = .eligible
  · obtain ⟨row, found, isEligible⟩ := waits
    obtain ⟨member, rfl⟩ := mem_of_getQuestion found
    have ended := markShown_of_eligible found isEligible
    have isShown : showingOf state row.id = [{ ownerId := row.ownerId, questionId := row.id, shownAtUtc := state.nowUtc }] := by
      unfold showingOf
      rw [ended]
      rfl
    have recorded := recordedTimes_shown sound member isEligible (shownValues_shownAtUtc state)
    rw [isShown, ended]
    simp only [settle, committed, shownTimes_append]
    have ownShown : shownTimes row.ownerId [{ ownerId := row.ownerId, questionId := row.id, shownAtUtc := state.nowUtc }] =
        [state.nowUtc] := by
      simp [shownTimes]
    have ownRecorded := recorded row.ownerId
    rw [ownShown] at ownRecorded
    have ownLimits := (keepsLimits_shown (keeps row.ownerId) (past row.ownerId) ownRecorded).trans
      (withinLimits_iff row.topicKey (keeps row.ownerId).agree).symm
    constructor
    · intro all other isOther sameId _
      have same : other = row := List.inj_on_of_nodup_map sound.distinct isOther member sameId
      subst same
      have own := all other.ownerId
      rw [ownShown] at own
      exact ownLimits.mp own
    · intro within ownerId
      by_cases isOwner : row.ownerId = ownerId
      · subst isOwner
        rw [ownShown]
        exact ownLimits.mpr (within row member rfl isEligible)
      · have noneShown : shownTimes ownerId
            [{ ownerId := row.ownerId, questionId := row.id, shownAtUtc := state.nowUtc }] = [] := by
          simp [shownTimes, isOwner]
        have sameRecorded := recorded ownerId
        rw [noneShown, List.append_nil] at sameRecorded ⊢
        exact (keeps ownerId).perm sameRecorded
  · have refused : ∀ row, state.getQuestion questionId = some row → row.status ≠ .eligible :=
      fun row found isEligible => waits ⟨row, found, isEligible⟩
    obtain ⟨failure, ended⟩ := markShown_refused refused
    apply keeps_quiet keeps
    · unfold showingOf
      rw [ended]
    · rw [ended]
      exact fun _ => List.Perm.refl _
    · rintro row member rfl isEligible
      exact absurd isEligible (refused row (getQuestion_of_mem sound.distinct member))

include sound keeps in
theorem keeps_markEligible (questionId : String) (eligibleAfterUtc : Int) :
    (∀ ownerId, KeepsLimits config
        (recordedTimes ownerId (state.settle (state.markEligible questionId eligibleAfterUtc)).questions)
        (shownTimes ownerId (shown ++ []))) ↔
      ∀ row ∈ state.questions, row.id = questionId → row.status = .snoozed → row.shownAtUtc = none := by
  by_cases forgets : ∃ row, state.getQuestion questionId = some row ∧ row.status = .snoozed ∧ row.shownAtUtc ≠ none
  · obtain ⟨row, found, isSnoozed, wasShown⟩ := forgets
    obtain ⟨member, rfl⟩ := mem_of_getQuestion found
    obtain ⟨time, isTime⟩ := Option.ne_none_iff_exists'.mp wasShown
    -- the showing was made, and the history does not count it any more
    apply iff_of_false
    · intro all
      obtain ⟨others, before, after⟩ := recordedTimes_moved sound member .eligible
        (eligibleValues eligibleAfterUtc) row.ownerId
      have own := all row.ownerId
      rw [markEligible_of_snoozed found isSnoozed, List.append_nil] at own
      have had : (recordedTime row.ownerId row).toList = [time] := by simp [recordedTime, isTime]
      have hasNone : (recordedTime row.ownerId ((eligibleValues eligibleAfterUtc).rewrite .eligible
          state.nowUtc row)).toList = [] := by
        simp [recordedTime, TransitionValues.rewrite, eligibleValues]
      rw [had] at before
      rw [hasNone] at after
      exact (keeps row.ownerId).agree.not_forgotten (before.trans (after.symm.cons time)) own.agree
    · intro unseen
      exact wasShown (unseen row member rfl isSnoozed)
  · apply keeps_quiet keeps rfl
    · intro ownerId
      cases ended : state.markEligible questionId eligibleAfterUtc with
      | error failure => exact List.Perm.refl _
      | ok answered =>
        obtain ⟨result, after⟩ := answered
        obtain ⟨row, found, isAllowed, -, rfl⟩ := transition_eq_ok ended
        obtain ⟨member, rfl⟩ := mem_of_getQuestion found
        have unseen : row.shownAtUtc = none := by
          simp only [List.mem_cons, List.not_mem_nil, or_false] at isAllowed
          rcases isAllowed with isPlanned | isSnoozed
          · exact sound.unseen row member (Or.inl isPlanned)
          · by_contra wasShown
            exact forgets ⟨row, found, isSnoozed, wasShown⟩
        obtain ⟨others, before, after⟩ := recordedTimes_moved sound member .eligible
          (eligibleValues eligibleAfterUtc) ownerId
        have same : recordedTime ownerId ((eligibleValues eligibleAfterUtc).rewrite .eligible state.nowUtc row) =
            recordedTime ownerId row := by
          simp [recordedTime, TransitionValues.rewrite, eligibleValues, unseen]
        rw [same] at after
        exact after.trans before.symm
    · rintro row member rfl isSnoozed
      by_contra wasShown
      exact forgets ⟨row, getQuestion_of_mem sound.distinct member, isSnoozed, wasShown⟩

end

/-- One call keeps the limits exactly if it shows within them. -/
theorem keeps_step (platform : Platform Amount)
    {shown : List Showing} (event : QuestionEvent Amount) (sound : Sound state.questions)
    (keeps : ∀ ownerId, KeepsLimits config (recordedTimes ownerId state.questions) (shownTimes ownerId shown))
    (past : ∀ ownerId, ∀ time ∈ shownTimes ownerId shown, time ≤ state.nowUtc) :
    (∀ ownerId, KeepsLimits config (recordedTimes ownerId (step platform config state event).questions)
        (shownTimes ownerId (shown ++ showing state event))) ↔ ShowsWithinLimits config state event := by
  have advanced : ∀ ownerId, ∀ time ∈ shownTimes ownerId shown, time ≤ (state.advance event.elapsed).nowUtc := by
    intro ownerId time member
    have bound := past ownerId time member
    simp only [advance]
    omega
  obtain ⟨elapsed, call⟩ := event
  unfold ShowsWithinLimits step showing answerCall
  cases call with
  | markShown questionId =>
    exact @keeps_markShown _ config (state.advance elapsed) shown sound keeps questionId advanced
  | markEligible questionId eligibleAfterUtc =>
    exact @keeps_markEligible _ config (state.advance elapsed) shown sound keeps questionId eligibleAfterUtc
  | planPending ownerId candidates isTopicBlocked environment =>
    apply keeps_quiet keeps rfl ?_ trivial
    intro owner
    rw [recordedTimes_planPending]
    exact List.Perm.refl _
  | proposed planning questionText id =>
    apply keeps_quiet keeps rfl ?_ trivial
    intro owner
    rw [recordedTimes_proposed]
    exact List.Perm.refl _
  | expireDue ownerId =>
    apply keeps_quiet keeps rfl ?_ trivial
    intro owner
    rw [recordedTimes_expireDue]
    exact List.Perm.refl _
  | answer questionId evidenceId | dismiss questionId | snooze questionId eligibleAfterUtc | block questionId =>
    -- these keep what is stored
    apply keeps_quiet keeps rfl ?_ trivial
    intro owner
    exact List.Perm.of_eq (recordedTimes_settle owner rfl)

/-! ## Runs -/

theorem nowUtc_settle (state : QuestionState Amount) (questionId : String) (allowed : List QuestionStatus)
    (next : QuestionStatus) (values : TransitionValues) :
    (state.settle (state.transition questionId allowed next values)).nowUtc = state.nowUtc := by
  cases ended : state.transition questionId allowed next values with
  | error failure => rfl
  | ok answered =>
    obtain ⟨result, after⟩ := answered
    obtain ⟨-, -, -, -, rfl⟩ := transition_eq_ok ended
    rfl

theorem nowUtc_step (platform : Platform Amount) (config : QuestionConfig) (state : QuestionState Amount)
    (event : QuestionEvent Amount) : (step platform config state event).nowUtc = state.nowUtc + event.elapsed := by
  unfold step answerCall
  cases event.call with
  | planPending ownerId candidates isTopicBlocked environment =>
    simp only [QuestionState.planPending]
    split
    · rfl
    · rfl
  | proposed planning questionText id =>
    simp only [QuestionState.proposed]
    split
    · split
      · rfl
      · split
        next inserted isInserted =>
          obtain ⟨row, -, -, -, rfl⟩ := insertProposal_eq_ok isInserted
          rfl
        · rfl
    · rfl
  | expireDue ownerId => rfl
  | markEligible | markShown | answer | dismiss | snooze | block => exact nowUtc_settle (state.advance event.elapsed) _ _ _ _

theorem nowUtc_of_showingOf {questionId : String} {shown : Showing}
    (isShown : shown ∈ showingOf state questionId) : shown.shownAtUtc = state.nowUtc := by
  unfold showingOf at isShown
  split at isShown
  next row after ended =>
    obtain ⟨-, -, -, -, rfl⟩ := transition_eq_ok ended
    rw [List.mem_singleton] at isShown
    rw [isShown]
    rfl
  · cases isShown

variable (platform : Platform Amount) (config : QuestionConfig)

theorem shown_past (start : QuestionState Amount) (events : List (QuestionEvent Amount)) :
    ∀ shown ∈ Runs.observed (step platform config) showing start events,
      shown.shownAtUtc ≤ (Runs.run (step platform config) start events).nowUtc := by
  induction events using List.reverseRecOn with
  | nil => exact fun _ absent => nomatch absent
  | append_singleton events event ih =>
    intro shown member
    rw [Runs.observed_snoc, List.mem_append] at member
    rw [Runs.run_append, Runs.run_cons, Runs.run_nil, nowUtc_step]
    rcases member with earlier | isNow
    · have bound := ih shown earlier
      omega
    · unfold showing at isNow
      split at isNow
      · rw [nowUtc_of_showingOf isNow]
        rfl
      · cases isNow

theorem shownTimes_past (start : QuestionState Amount) (events : List (QuestionEvent Amount)) (ownerId : String) :
    ∀ time ∈ shownTimes ownerId (Runs.observed (step platform config) showing start events),
      time ≤ (Runs.run (step platform config) start events).nowUtc := by
  intro time member
  obtain ⟨shown, isShown, rfl⟩ := List.mem_map.mp member
  exact shown_past platform config start events shown (List.mem_filter.mp isShown).1

section

variable {start : QuestionState Amount} (sound : Sound start.questions)

include sound in
theorem settled_prefix {early events : List (QuestionEvent Amount)} (isPrefix : early <+: events)
    {row : QuestionRow Amount} (member : row ∈ (Runs.run (step platform config) start early).questions)
    (ended : row.isLive = false) :
    row ∈ (Runs.run (step platform config) start events).questions ∧
      ∀ later ∈ (Runs.run (step platform config) start events).questions, later.id = row.id → later = row := by
  obtain ⟨late, rfl⟩ := isPrefix
  have soundEarly := sound_run platform config sound early
  have stays : row ∈ (Runs.run (step platform config) start (early ++ late)).questions := by
    rw [Runs.run_append]
    exact settled_run platform config soundEarly late row member ended
  have distinct := (sound_run platform config sound (early ++ late)).distinct
  exact ⟨stays, fun later isLater sameId => List.inj_on_of_nodup_map distinct isLater stays sameId⟩

include sound in
/-- The parts of the limits that depend on what is shown. -/
theorem questionLimits_iff_keeps (events : List (QuestionEvent Amount)) :
    QuestionLimits platform config start events ↔
      ∀ ownerId, KeepsLimits config
        (recordedTimes ownerId (Runs.run (step platform config) start events).questions)
        (shownTimes ownerId (Runs.observed (step platform config) showing start events)) := by
  constructor
  · intro limits ownerId
    exact ⟨agree_iff_counts.mp (limits.counted ownerId), limits.daily ownerId, limits.weekly ownerId, limits.spaced ownerId⟩
  · intro keeps
    constructor
    · exact fun ownerId => agree_iff_counts.mpr (keeps ownerId).agree
    · exact fun ownerId => (keeps ownerId).daily
    · exact fun ownerId => (keeps ownerId).weekly
    · exact fun ownerId => (keeps ownerId).spaced
    · exact (sound_run platform config sound events).oneLive
    · exact fun early isPrefix row member ended => settled_prefix platform config sound isPrefix member ended

end

/-- The limits hold all along a run exactly if every showing is within them at its own time, and no question
that was shown becomes eligible again. -/
theorem questions_limited_iff (nowUtc : Int) (owners evidenceRecords : List String)
    (events : List (QuestionEvent Amount)) :
    (∀ early, early <+: events →
        QuestionLimits platform config (.opened nowUtc owners evidenceRecords) early) ↔
      Runs.Throughout (step platform config) (ShowsWithinLimits config)
        (.opened nowUtc owners evidenceRecords) events := by
  apply Runs.throughout_iff_prefixes
  · rw [questionLimits_iff_keeps platform config sound_nil]
    intro ownerId
    exact ⟨⟨fun _ => rfl, rfl⟩, limited_nil _ _, limited_nil _ _, spaced_nil _⟩
  · intro labels event limits
    rw [questionLimits_iff_keeps platform config sound_nil] at limits ⊢
    rw [Runs.observed_snoc, Runs.run_append, Runs.run_cons, Runs.run_nil]
    exact keeps_step platform event (sound_run platform config sound_nil labels) limits
      (shownTimes_past platform config _ labels)

/-! ## Two plannings before a showing -/

def exactIntegers : Platform Int where
  zero := 0
  one := 1
  times := fun left right => left * right
  minus := fun left right => left - right
  less := fun left right => decide (left < right)
  isFinite := fun _ => true
  localeAtMost := fun left right => decide (left ≤ right)

/-- The questions of `DEFAULT_ASSISTANT_CONFIG`, with the assistant on. -/
def defaultQuestions : QuestionConfig where
  AssistantEnabled := true
  PrivateModeActive := false
  Enabled := true
  MaxPerDay := 1
  MaxPerWeek := 3
  MinimumHoursBetweenQuestions := 20
  AllowedLocalTimeStart := "18:00"
  AllowedLocalTimeEnd := "21:30"
  DismissedCooldownDays := 7
  UnansweredExpiryDays := 7
  SuppressDuringFullscreen := true
  SuppressDuringDoNotDisturb := true
  ActiveInputSuppressionSeconds := 120

def freeDesktop : QuestionEnvironment where
  nowUtc := 0
  localTime := "19:00"
  fullscreen := false
  locked := false
  doNotDisturb := false
  presenting := false
  excludedApplication := false
  secondsSinceMouseInput := 600
  secondsSinceKeyboardInput := 600

def goalCandidate (topicKey : String) : QuestionCandidate Int where
  id := topicKey
  ownerId := "owner"
  topicKey := topicKey
  questionType := .followActiveGoal
  gapType := "active_goal_plan"
  candidateIds := []
  concreteBenefit := some "Make the goal more actionable."
  uncertaintyReduction := 1
  futureUsefulness := 1
  currentRelevance := 1
  answerability := 1
  interruptionCost := 0
  sensitivityCost := 0
  repeatPenalty := 0
  expiresAtUtc := 604800000

/-- A question planned on each of two topics, and then both shown within a second. -/
def twoPlannings : List (QuestionEvent Int) :=
  [{ elapsed := 0, call := .planPending "owner" [goalCandidate "goal:tea"] (fun _ _ => false) (some freeDesktop) },
    { elapsed := 0, call := .proposed 0 (some "Which tea?") "question-1" },
    { elapsed := 0, call := .planPending "owner" [goalCandidate "goal:run"] (fun _ _ => false) (some freeDesktop) },
    { elapsed := 0, call := .proposed 1 (some "When to run?") "question-2" },
    { elapsed := 0, call := .markShown "question-1" },
    { elapsed := 1000, call := .markShown "question-2" }]

theorem two_plannings_exceed_the_day :
    ¬ QuestionLimits exactIntegers defaultQuestions (.opened 0 ["owner"] []) twoPlannings := by
  intro limits
  have daily := limits.daily "owner" 1000
  have shown : shownTimes "owner" (Runs.observed (step exactIntegers defaultQuestions) showing (.opened 0 ["owner"] [])
      twoPlannings) = [0, 1000] := by
    decide +kernel
  rw [shown] at daily
  exact absurd daily (by decide)

end SiftKit.Assistant.Questions
