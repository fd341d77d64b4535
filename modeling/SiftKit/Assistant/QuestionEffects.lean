import SiftKit.Assistant.Questions

/-! # What the calls do to questions

A call leaves the table alone, expires live rows, adds one row of a free topic, or moves one live row
to its next status.  From that: ids stay distinct, a topic keeps at most one live question, a question
that waits to be shown was not shown, and a row that is no longer live stays as it is.
-/

namespace SiftKit.Assistant.Questions

open SiftKit.Failure SiftKit.Tables

variable {Amount : Type}

/-! ## Transitions -/

namespace QuestionState

variable {state after : QuestionState Amount} {questionId : String} {allowed : List QuestionStatus}
  {next : QuestionStatus} {values : TransitionValues} {row result : QuestionRow Amount}

theorem mem_of_getQuestion (found : state.getQuestion questionId = some row) : row ∈ state.questions ∧ row.id = questionId := by
  have named := List.find?_some found
  exact ⟨List.mem_of_find?_eq_some found, by simpa using named⟩

theorem getQuestion_of_mem (distinct : (state.questions.map fun row => row.id).Nodup) (member : row ∈ state.questions) :
    state.getQuestion row.id = some row := by
  cases found : state.getQuestion row.id with
  | none =>
    have absent := List.find?_eq_none.mp found row member
    simp at absent
  | some other =>
    obtain ⟨otherMember, sameId⟩ := mem_of_getQuestion found
    rw [List.inj_on_of_nodup_map distinct otherMember member sameId]

theorem requireQuestion_eq_ok : state.requireQuestion questionId = .ok row ↔ state.getQuestion questionId = some row := by
  unfold requireQuestion
  cases state.getQuestion questionId with
  | none => simp
  | some found => simp

/-- The table after a transition. -/
def moved (state : QuestionState Amount) (questionId : String) (next : QuestionStatus) (values : TransitionValues) :
    QuestionState Amount :=
  { state with questions := updateWhere (fun row => row.id == questionId) (values.rewrite next state.nowUtc) state.questions }

theorem getQuestion_moved (found : state.getQuestion questionId = some row) :
    (state.moved questionId next values).getQuestion questionId = some (values.rewrite next state.nowUtc row) := by
  unfold getQuestion at found ⊢
  have written := find?_updateWhere (fun row => row.id == questionId) (values.rewrite next state.nowUtc) state.questions
    fun _ _ selected => selected
  rw [found] at written
  exact written

theorem transition_eq_ok (ended : state.transition questionId allowed next values = .ok (result, after)) :
    ∃ row, state.getQuestion questionId = some row ∧ row.status ∈ allowed ∧
      result = values.rewrite next state.nowUtc row ∧ after = state.moved questionId next values := by
  unfold transition at ended
  simp only [bind_eq_ok, requireQuestion_eq_ok, throwWhen_eq_ok, pure_eq_ok, Prod.mk.injEq] at ended
  obtain ⟨row, found, _, isAllowed, _, _, written, rereads, rfl, rfl⟩ := ended
  have allowedStatus : row.status ∈ allowed := by simpa using isAllowed
  have reread : (state.moved questionId next values).getQuestion questionId = some written := rereads
  rw [getQuestion_moved found] at reread
  exact ⟨row, found, allowedStatus, (Option.some.inj reread).symm, rfl⟩

theorem transition_of_allowed (found : state.getQuestion questionId = some row) (isAllowed : row.status ∈ allowed)
    (noEvidence : values.answerEvidenceId = none) :
    state.transition questionId allowed next values =
      .ok (values.rewrite next state.nowUtc row, state.moved questionId next values) := by
  unfold transition
  simp only [bind_eq_ok, requireQuestion_eq_ok, throwWhen_eq_ok, pure_eq_ok]
  refine ⟨row, found, (), by simpa using isAllowed, (), by simp [noEvidence], _, getQuestion_moved found, rfl⟩

theorem transition_refused (refused : ∀ row, state.getQuestion questionId = some row → row.status ∉ allowed) :
    ∃ failure, state.transition questionId allowed next values = .error failure := by
  cases ended : state.transition questionId allowed next values with
  | error failure => exact ⟨failure, rfl⟩
  | ok answered =>
    obtain ⟨row, found, isAllowed, -, -⟩ := transition_eq_ok ended
    exact absurd isAllowed (refused row found)

/-- The values of a `markShown`. -/
def shownValues (state : QuestionState Amount) : TransitionValues where
  eligibleAfterUtc := none
  shownAtUtc := some (some state.nowUtc)
  answeredAtUtc := none
  answerEvidenceId := none

@[simp] theorem shownValues_shownAtUtc (state : QuestionState Amount) :
    state.shownValues.shownAtUtc = some (some state.nowUtc) := rfl

theorem markShown_of_eligible (found : state.getQuestion questionId = some row) (isEligible : row.status = .eligible) :
    state.markShown questionId =
      .ok (state.shownValues.rewrite .shown state.nowUtc row, state.moved questionId .shown state.shownValues) :=
  transition_of_allowed found (by simp [isEligible]) rfl

theorem markShown_refused (refused : ∀ row, state.getQuestion questionId = some row → row.status ≠ .eligible) :
    ∃ failure, state.markShown questionId = .error failure := by
  apply transition_refused
  intro row found isAllowed
  exact refused row found (by simpa using isAllowed)

/-- The values of a `markEligible`: they forget the showing. -/
def eligibleValues (eligibleAfterUtc : Int) : TransitionValues where
  eligibleAfterUtc := some eligibleAfterUtc
  shownAtUtc := some none
  answeredAtUtc := none
  answerEvidenceId := none

theorem markEligible_of_snoozed {eligibleAfterUtc : Int} (found : state.getQuestion questionId = some row)
    (isSnoozed : row.status = .snoozed) :
    state.markEligible questionId eligibleAfterUtc =
      .ok ((eligibleValues eligibleAfterUtc).rewrite .eligible state.nowUtc row,
        state.moved questionId .eligible (eligibleValues eligibleAfterUtc)) :=
  transition_of_allowed found (by simp [isSnoozed]) rfl

end QuestionState

/-! ## Changes of the table -/

/-- What a call can do to the table at an instant. -/
inductive Change (nowUtc : Int) (rows : List (QuestionRow Amount)) : List (QuestionRow Amount) → Prop where
  | unchanged : Change nowUtc rows rows
  | expired (selects : QuestionRow Amount → Bool) (onlyLive : ∀ row, selects row = true → row.isLive = true) :
    Change nowUtc rows (updateWhere selects (fun row => { row with status := .expired, updatedAtUtc := nowUtc }) rows)
  | created (row : QuestionRow Amount) (fresh : ∀ other ∈ rows, other.id ≠ row.id)
      (free : ∀ other ∈ rows, other.ownerId = row.ownerId → other.topicKey = row.topicKey → other.isLive = false)
      (unseen : row.shownAtUtc = none) : Change nowUtc rows (rows ++ [row])
  | moved (row : QuestionRow Amount) (member : row ∈ rows) (wasLive : row.isLive = true) (next : QuestionStatus)
      (values : TransitionValues)
      (unseen : next = .planned ∨ next = .eligible → values.shownAtUtc = some none) :
    Change nowUtc rows (updateWhere (fun other => other.id == row.id) (values.rewrite next nowUtc) rows)

theorem change_expireDue (state : QuestionState Amount) (ownerId : String) :
    Change state.nowUtc state.questions (state.expireDue ownerId).2.questions := by
  apply Change.expired
  intro row selected
  simp only [QuestionState.isExpiring, Bool.and_eq_true] at selected
  exact selected.1.2

theorem change_of_transition {state : QuestionState Amount} {questionId : String} {allowed : List QuestionStatus}
    {next : QuestionStatus} {values : TransitionValues} (onlyLive : ∀ status ∈ allowed, status.isLive = true)
    (unseen : next = .planned ∨ next = .eligible → values.shownAtUtc = some none) :
    Change state.nowUtc state.questions (state.settle (state.transition questionId allowed next values)).questions := by
  cases ended : state.transition questionId allowed next values with
  | error failure => exact .unchanged
  | ok answered =>
    obtain ⟨result, after⟩ := answered
    obtain ⟨row, found, isAllowed, -, rfl⟩ := QuestionState.transition_eq_ok ended
    obtain ⟨member, rfl⟩ := QuestionState.mem_of_getQuestion found
    exact .moved row member (onlyLive row.status isAllowed) next values unseen

theorem create_eq_ok {state after : QuestionState Amount} {input : CreateQuestionInput Amount} {id : String}
    {row : QuestionRow Amount} (ended : state.create input id = .ok (row, after)) :
    row = input.row id state.nowUtc ∧ after = { state with questions := state.questions ++ [row] } ∧
      (∀ other ∈ state.questions, other.id ≠ row.id) ∧
      ∀ other ∈ state.questions, other.ownerId = row.ownerId → other.topicKey = row.topicKey → other.isLive = false := by
  unfold QuestionState.create at ended
  split at ended
  · cases ended
  next noneLive =>
    split at ended
    · cases ended
    split at ended
    · cases ended
    next inserted isInserted =>
      cases ended
      obtain ⟨rfl, fresh⟩ := insertRow_eq_some isInserted
      refine ⟨rfl, rfl, ?_, ?_⟩
      · intro other member same
        have conflict := fresh other member
        simp [same] at conflict
      · intro other member sameOwner sameTopic
        have noneFound : state.findLiveByTopic input.ownerId input.topicKey = none := by simpa using noneLive
        have absent := List.find?_eq_none.mp noneFound other member
        simpa [sameOwner, sameTopic, CreateQuestionInput.row] using absent

theorem insertProposal_eq_ok {config : QuestionConfig} {state after : QuestionState Amount} {ownerId : String}
    {entry : ApprovedCandidate Amount} {questionText id : String}
    (ended : insertProposal config state ownerId entry questionText id = .ok after) :
    ∃ row, (∀ other ∈ state.questions, other.id ≠ row.id) ∧
      (∀ other ∈ state.questions, other.ownerId = row.ownerId → other.topicKey = row.topicKey → other.isLive = false) ∧
      row.shownAtUtc = none ∧ after = { state with questions := state.questions ++ [row] } := by
  unfold insertProposal at ended
  simp only [bind_eq_ok] at ended
  obtain ⟨expires, -, ⟨row, created⟩, isCreated, ended⟩ := ended
  obtain ⟨isRow, rfl, fresh, free⟩ := create_eq_ok isCreated
  split at ended
  · obtain ⟨⟨marked, final⟩, isMarked, ended⟩ := bind_eq_ok.mp ended
    cases ended
    obtain ⟨-, -, -, -, rfl⟩ := QuestionState.transition_eq_ok isMarked
    -- the new id is the only one that the update selects
    have others : ∀ other ∈ state.questions, (other.id == row.id) = false := by
      intro other member
      simp [fresh other member]
    have alone : ∀ values : TransitionValues, updateWhere (fun other => other.id == row.id)
        (values.rewrite .eligible state.nowUtc) (state.questions ++ [row]) =
          state.questions ++ [values.rewrite .eligible state.nowUtc row] := by
      intro values
      rw [updateWhere_append, updateWhere_of_none others]
      simp [updateWhere]
    refine ⟨TransitionValues.rewrite _ .eligible state.nowUtc row, fresh, free, ?_,
      congrArg (fun questions => { state with questions := questions }) (alone _)⟩
    rfl
  · cases ended
    refine ⟨row, fresh, free, ?_, rfl⟩
    rw [isRow]
    rfl

theorem change_proposed (config : QuestionConfig) (state : QuestionState Amount) (planning : Nat)
    (questionText : Option String) (id : String) :
    Change state.nowUtc state.questions (state.proposed config planning questionText id).questions := by
  unfold QuestionState.proposed
  split
  · split
    · exact .unchanged
    · split
      next inserted isInserted =>
        obtain ⟨row, fresh, free, unseen, rfl⟩ := insertProposal_eq_ok isInserted
        exact .created row fresh free unseen
      · exact .unchanged
  · exact .unchanged

theorem change_planPending (platform : Platform Amount) (config : QuestionConfig) (state : QuestionState Amount)
    (ownerId : String) (candidates : List (QuestionCandidate Amount)) (isTopicBlocked : String → String → Bool)
    (environment : Option QuestionEnvironment) :
    Change state.nowUtc state.questions
      (state.planPending platform config ownerId candidates isTopicBlocked environment).questions := by
  have expired := change_expireDue state ownerId
  unfold QuestionState.planPending
  simp only
  split
  · exact expired
  · exact expired

/-- What one call does to the table. -/
theorem change_step (platform : Platform Amount) (config : QuestionConfig) (state : QuestionState Amount)
    (event : QuestionEvent Amount) :
    Change (state.nowUtc + event.elapsed) state.questions (step platform config state event).questions := by
  unfold step QuestionState.answerCall
  cases event.call with
  | planPending ownerId candidates isTopicBlocked environment =>
    exact change_planPending platform config (state.advance event.elapsed) ownerId candidates isTopicBlocked environment
  | proposed planning questionText id =>
    exact change_proposed config (state.advance event.elapsed) planning questionText id
  | markEligible questionId eligibleAfterUtc =>
    exact @change_of_transition _ (state.advance event.elapsed) _ _ _ _ (by decide) (fun _ => rfl)
  | markShown questionId => exact @change_of_transition _ (state.advance event.elapsed) _ _ _ _ (by decide) (by simp)
  | answer questionId evidenceId =>
    exact @change_of_transition _ (state.advance event.elapsed) _ _ _ _ (by decide) (by simp)
  | dismiss questionId => exact @change_of_transition _ (state.advance event.elapsed) _ _ _ _ (by decide) (by simp)
  | snooze questionId eligibleAfterUtc =>
    exact @change_of_transition _ (state.advance event.elapsed) _ _ _ _ (by decide) (by simp)
  | block questionId => exact @change_of_transition _ (state.advance event.elapsed) _ _ _ _ (by decide) (by simp)
  | expireDue ownerId => exact change_expireDue (state.advance event.elapsed) ownerId

/-! ## What every change keeps -/

def liveOnTopic (ownerId topicKey : String) (row : QuestionRow Amount) : Bool :=
  row.ownerId == ownerId && row.topicKey == topicKey && row.isLive

/-- At most one live question exists per topic. -/
def OneLivePerTopic (rows : List (QuestionRow Amount)) : Prop :=
  ∀ ownerId topicKey, rows.countP (liveOnTopic ownerId topicKey) ≤ 1

/-- What holds of the table after any calls. -/
structure Sound (rows : List (QuestionRow Amount)) : Prop where
  distinct : (rows.map fun row => row.id).Nodup
  oneLive : OneLivePerTopic rows
  /-- A question that waits to be shown has no showing. -/
  unseen : ∀ row ∈ rows, row.status = .planned ∨ row.status = .eligible → row.shownAtUtc = none

theorem sound_nil : Sound ([] : List (QuestionRow Amount)) where
  distinct := List.nodup_nil
  oneLive := fun _ _ => by simp
  unseen := fun _ absent => nomatch absent

variable {nowUtc : Int} {rows after : List (QuestionRow Amount)}

theorem Sound.change (sound : Sound rows) (change : Change nowUtc rows after) : Sound after := by
  cases change with
  | unchanged => exact sound
  | expired selects onlyLive =>
    constructor
    · rw [map_updateWhere ?_]
      · exact sound.distinct
      · exact fun _ _ _ => rfl
    · intro ownerId topicKey
      apply (countP_updateWhere_le ?_).trans (sound.oneLive ownerId topicKey)
      intro row _ _ stillLive
      simp [liveOnTopic, QuestionRow.isLive, QuestionStatus.isLive, QuestionStatus.live] at stillLive
    · intro row member waits
      obtain ⟨stored, isStored, rfl⟩ := List.mem_map.mp member
      by_cases selected : selects stored = true
      · simp [selected] at waits
      · simp only [selected, Bool.false_eq_true, if_false] at waits ⊢
        exact sound.unseen stored isStored waits
  | created row fresh free unseen =>
    constructor
    · exact nodup_map_snoc sound.distinct fresh
    · intro ownerId topicKey
      rw [List.countP_append, List.countP_singleton]
      by_cases onTopic : liveOnTopic ownerId topicKey row = true
      · -- the topic of the new question had no live one
        have none : rows.countP (liveOnTopic ownerId topicKey) = 0 := by
          rw [List.countP_eq_zero]
          intro other member counted
          simp only [liveOnTopic, Bool.and_eq_true, beq_iff_eq] at onTopic counted
          have ended := free other member (counted.1.1.trans onTopic.1.1.symm) (counted.1.2.trans onTopic.1.2.symm)
          simp [ended] at counted
        rw [none, if_pos onTopic]
      · rw [if_neg onTopic]
        exact sound.oneLive ownerId topicKey
    · intro stored member waits
      rw [List.mem_append, List.mem_singleton] at member
      rcases member with earlier | rfl
      · exact sound.unseen stored earlier waits
      · exact unseen
  | moved row member wasLive next values unseen =>
    constructor
    · rw [map_updateWhere ?_]
      · exact sound.distinct
      · exact fun _ _ _ => rfl
    · intro ownerId topicKey
      apply (countP_updateWhere_le ?_).trans (sound.oneLive ownerId topicKey)
      intro stored isStored selected counted
      have same : stored = row := List.inj_on_of_nodup_map sound.distinct isStored member (by simpa using selected)
      simp only [liveOnTopic, Bool.and_eq_true] at counted ⊢
      exact ⟨counted.1, same ▸ wasLive⟩
    · intro written isWritten waits
      obtain ⟨stored, isStored, rfl⟩ := List.mem_map.mp isWritten
      by_cases selected : (stored.id == row.id) = true
      · simp only [selected, if_true] at waits ⊢
        simp [TransitionValues.rewrite, unseen waits]
      · simp only [selected, Bool.false_eq_true, if_false] at waits ⊢
        exact sound.unseen stored isStored waits

/-- A row that is no longer live stays in the table as it is. -/
def Settled (rows after : List (QuestionRow Amount)) : Prop := ∀ row ∈ rows, row.isLive = false → row ∈ after

theorem Settled.refl (rows : List (QuestionRow Amount)) : Settled rows rows := fun _ member _ => member

theorem Settled.trans {first second third : List (QuestionRow Amount)} (early : Settled first second)
    (late : Settled second third) : Settled first third :=
  fun row member ended => late row (early row member ended) ended

theorem settled_updateWhere {selects : QuestionRow Amount → Bool} {rewrite : QuestionRow Amount → QuestionRow Amount}
    (onlyLive : ∀ row ∈ rows, selects row = true → row.isLive = true) : Settled rows (updateWhere selects rewrite rows) := by
  intro row member ended
  have outside : selects row = false := by
    cases selected : selects row with
    | false => rfl
    | true => simp [onlyLive row member selected] at ended
  exact List.mem_map.mpr ⟨row, member, by simp [outside]⟩

theorem Sound.settled (sound : Sound rows) (change : Change nowUtc rows after) : Settled rows after := by
  cases change with
  | unchanged => exact Settled.refl rows
  | expired selects onlyLive => exact settled_updateWhere fun row _ => onlyLive row
  | created row fresh free unseen => exact fun stored member _ => List.mem_append_left _ member
  | moved row member wasLive next values unseen =>
    apply settled_updateWhere
    intro stored isStored selected
    have same : stored = row := List.inj_on_of_nodup_map sound.distinct isStored member (by simpa using selected)
    rw [same]
    exact wasLive

/-! ## Runs -/

section

variable (platform : Platform Amount) (config : QuestionConfig) {start : QuestionState Amount}
  (sound : Sound start.questions) (events : List (QuestionEvent Amount))

include platform config sound events

theorem sound_run :
    Sound (Runs.run (step platform config) start events).questions := by
  apply Runs.run_invariant (fun state : QuestionState Amount => Sound state.questions) ?_ sound
  intro state event sound
  exact sound.change (change_step platform config state event)

theorem settled_run :
    Settled start.questions (Runs.run (step platform config) start events).questions := by
  induction events generalizing start with
  | nil => exact Settled.refl _
  | cons event events ih =>
    have change := change_step platform config start event
    exact (sound.settled change).trans (ih (sound.change change))

end

end SiftKit.Assistant.Questions
