import SiftKit.Foundation.Runs
import SiftKit.Json.Text
import Mathlib.Data.List.Chain

/-! # Live text

`live-text-delta.ts` turns the snapshots of a growing text into deltas of bounded size, and
`chat-stream-progress-writer.ts` does so for four kinds of text at once.  A reader keeps a text for each turn and applies
the deltas to it.  The recorder is taken to store every delta that it is given: a failure ends the run.
-/

namespace SiftKit.Chat

open SiftKit.Json SiftKit.Runs

/-! ## The tracker -/

def LIVE_TEXT_FLUSH_MAX_PENDING_CHARS : Nat := 1024

def LIVE_TEXT_FLUSH_MAX_LATENCY_MS : Int := 100

structure ChatStreamTextDelta where
  turn : Int
  offset : Nat
  text : JsString
deriving DecidableEq

structure LiveTextDeltaTracker where
  sentTurn : Int
  sentLength : Nat
  pending : Option ChatStreamTextDelta
  pendingSinceMs : Int

variable {delta : ChatStreamTextDelta}

namespace LiveTextDeltaTracker

def new : LiveTextDeltaTracker := ⟨-1, 0, none, 0⟩

def sameTurn (tracker : LiveTextDeltaTracker) (turn : Int) : Bool :=
  match tracker.pending with
  | some pending => pending.turn == turn
  | none => tracker.sentTurn == turn

def baseLength (tracker : LiveTextDeltaTracker) : Nat :=
  match tracker.pending with
  | some pending => pending.offset + pending.text.length
  | none => tracker.sentLength

def pushSnapshot (tracker : LiveTextDeltaTracker) (turn : Int) (text : JsString) (atMs : Int) : LiveTextDeltaTracker :=
  if tracker.sameTurn turn && tracker.baseLength ≤ text.length then
    let appended := text.drop tracker.baseLength
    if appended.isEmpty then tracker
    else
      match tracker.pending with
      | some pending => { tracker with pending := some { pending with text := pending.text ++ appended } }
      | none => { tracker with pending := some ⟨turn, tracker.sentLength, appended⟩, pendingSinceMs := atMs }
  else { tracker with pending := some ⟨turn, 0, text⟩, pendingSinceMs := atMs }

def isDue (tracker : LiveTextDeltaTracker) (pending : ChatStreamTextDelta) (atMs : Int) (force : Bool) : Bool :=
  force || LIVE_TEXT_FLUSH_MAX_PENDING_CHARS ≤ pending.text.length
    || LIVE_TEXT_FLUSH_MAX_LATENCY_MS ≤ atMs - tracker.pendingSinceMs

def takeDue (tracker : LiveTextDeltaTracker) (atMs : Int) (force : Bool) : LiveTextDeltaTracker × Option ChatStreamTextDelta :=
  match tracker.pending with
  | none => (tracker, none)
  | some pending =>
    if tracker.isDue pending atMs force then
      let text := pending.text.take LIVE_TEXT_FLUSH_MAX_PENDING_CHARS
      let remaining := pending.text.drop text.length
      ({ tracker with
          pending := if remaining.isEmpty then none else some ⟨pending.turn, pending.offset + text.length, remaining⟩
          sentTurn := pending.turn
          sentLength := pending.offset + text.length },
        some ⟨pending.turn, pending.offset, text⟩)
    else (tracker, none)

def hasPending (tracker : LiveTextDeltaTracker) : Bool := tracker.pending.isSome

/-- What is left to take. -/
def backlog (tracker : LiveTextDeltaTracker) : Nat :=
  match tracker.pending with
  | some pending => pending.text.length + 1
  | none => 0

variable {tracker after : LiveTextDeltaTracker}

theorem takeDue_some {atMs : Int} {force : Bool}
    (taken : tracker.takeDue atMs force = (after, some delta)) :
    ∃ pending, tracker.pending = some pending ∧ delta.turn = pending.turn ∧ delta.offset = pending.offset ∧
      delta.text = pending.text.take LIVE_TEXT_FLUSH_MAX_PENDING_CHARS ∧ after.sentTurn = pending.turn ∧
      after.sentLength = pending.offset + delta.text.length ∧
      after.pending = (if (pending.text.drop delta.text.length).isEmpty then none
        else some ⟨pending.turn, pending.offset + delta.text.length, pending.text.drop delta.text.length⟩) := by
  unfold takeDue at taken
  split at taken
  next => cases taken
  next pending isPending =>
    split at taken
    · cases taken
      exact ⟨pending, isPending, rfl, rfl, rfl, rfl, rfl, rfl⟩
    · cases taken

theorem takeDue_none {atMs : Int} {force : Bool} (taken : tracker.takeDue atMs force = (after, none)) :
    after = tracker ∧ (force = true → tracker.pending = none) := by
  unfold takeDue at taken
  split at taken
  next isPending =>
    cases taken
    exact ⟨rfl, fun _ => isPending⟩
  next pending isPending =>
    split at taken
    · cases taken
    next notDue =>
      cases taken
      refine ⟨rfl, ?_⟩
      rintro rfl
      simp [isDue] at notDue

theorem takeDue_backlog {atMs : Int} {force : Bool}
    (taken : tracker.takeDue atMs force = (after, some delta)) : after.backlog < tracker.backlog := by
  obtain ⟨pending, isPending, _, _, isText, _, _, isAfter⟩ := takeDue_some taken
  have maximum : LIVE_TEXT_FLUSH_MAX_PENDING_CHARS = 1024 := rfl
  unfold backlog
  rw [isPending, isAfter]
  split
  next other isSome =>
    split at isSome
    · cases isSome
    next more =>
      cases isSome
      rw [isText, List.length_take, List.isEmpty_iff, List.drop_eq_nil_iff] at more
      simp only [isText, List.length_drop, List.length_take] at more ⊢
      omega
  · omega

end LiveTextDeltaTracker

open LiveTextDeltaTracker

/-- `emitTrackerDeltas`: deltas are taken as long as there are some. -/
def takeAll (tracker : LiveTextDeltaTracker) (now : Int) (force : Bool) : LiveTextDeltaTracker × List ChatStreamTextDelta :=
  match taken : tracker.takeDue now force with
  | (after, none) => (after, [])
  | (after, some delta) =>
    have _ := takeDue_backlog taken
    let later := takeAll after now force
    (later.1, delta :: later.2)
termination_by tracker.backlog

/-! ## The reader -/

def applyChatStreamTextDelta (previous : JsString) (delta : ChatStreamTextDelta) : JsString :=
  if delta.offset = 0 then delta.text
  else if delta.offset = previous.length then previous ++ delta.text
  else if delta.offset < previous.length then previous.take delta.offset ++ delta.text
  else previous

def turnText (deltas : List ChatStreamTextDelta) (turn : Int) : JsString :=
  (deltas.filter fun delta => delta.turn == turn).foldl applyChatStreamTextDelta []

theorem turnText_concat (deltas : List ChatStreamTextDelta) (delta : ChatStreamTextDelta) (turn : Int) :
    turnText (deltas ++ [delta]) turn =
      if delta.turn = turn then applyChatStreamTextDelta (turnText deltas turn) delta else turnText deltas turn := by
  unfold turnText
  rw [List.filter_append, List.filter_singleton, List.foldl_append]
  by_cases isTurn : delta.turn = turn
  · simp [isTurn]
  · have another : (delta.turn == turn) = false := by simpa using isTurn
    simp [isTurn, another]

/-- No delta begins beyond the text that it is applied to. -/
def InBounds (deltas : List ChatStreamTextDelta) : Prop :=
  ∀ early delta late, deltas = early ++ delta :: late → delta.offset ≤ (turnText early delta.turn).length

theorem inBounds_nil : InBounds [] := by
  intro early delta late isNil
  simp at isNil

variable {deltas : List ChatStreamTextDelta}

theorem InBounds.concat (bounded : InBounds deltas)
    (within : delta.offset ≤ (turnText deltas delta.turn).length) : InBounds (deltas ++ [delta]) := by
  intro early other late isSplit
  rcases List.eq_nil_or_concat late with rfl | ⟨middle, last, rfl⟩
  · obtain ⟨rfl, isLast⟩ := List.append_inj' isSplit rfl
    cases isLast
    exact within
  · rw [List.concat_eq_append, ← List.cons_append, ← List.append_assoc] at isSplit
    obtain ⟨isFront, _⟩ := List.append_inj' isSplit rfl
    exact bounded early other middle isFront

/-! ## Calls -/

structure TextSnapshot where
  turn : Int
  text : JsString
deriving DecidableEq

inductive TrackerCall where
  | pushSnapshot (snapshot : TextSnapshot) (atMs : Int)
  | takeDue (atMs : Int) (force : Bool)

def trackerStep (tracker : LiveTextDeltaTracker) : TrackerCall → LiveTextDeltaTracker
  | .pushSnapshot snapshot atMs => tracker.pushSnapshot snapshot.turn snapshot.text atMs
  | .takeDue atMs force => (tracker.takeDue atMs force).1

/-- What a call returns. -/
def trackerDelta (tracker : LiveTextDeltaTracker) : TrackerCall → List ChatStreamTextDelta
  | .pushSnapshot .. => []
  | .takeDue atMs force => (tracker.takeDue atMs force).2.toList

def trackerRun (calls : List TrackerCall) : LiveTextDeltaTracker := run trackerStep new calls

def emittedDeltas (calls : List TrackerCall) : List ChatStreamTextDelta := observed trackerStep trackerDelta new calls

def pushedSnapshots (calls : List TrackerCall) : List TextSnapshot :=
  calls.filterMap fun
    | .pushSnapshot snapshot _ => some snapshot
    | .takeDue .. => none

/-- A snapshot extends the one before it, or is shorter, if it is of the same turn. -/
def Succeeds (previous next : TextSnapshot) : Prop :=
  previous.turn = next.turn → previous.text <+: next.text ∨ next.text.length < previous.text.length

def lastSnapshot (snapshots : List TextSnapshot) (turn : Int) : JsString :=
  (((snapshots.filter fun snapshot => snapshot.turn == turn).getLast?).map TextSnapshot.text).getD []

theorem lastSnapshot_concat (snapshots : List TextSnapshot) (snapshot : TextSnapshot) (turn : Int) :
    lastSnapshot (snapshots ++ [snapshot]) turn = if snapshot.turn = turn then snapshot.text else lastSnapshot snapshots turn := by
  unfold lastSnapshot
  rw [List.filter_append, List.filter_singleton]
  by_cases isTurn : snapshot.turn = turn
  · simp [isTurn]
  · have another : (snapshot.turn == turn) = false := by simpa using isTurn
    simp [isTurn, another]

/-! ## What is pending -/

def LiveTextDeltaTracker.currentTurn (tracker : LiveTextDeltaTracker) : Int :=
  match tracker.pending with
  | some pending => pending.turn
  | none => tracker.sentTurn

theorem sameTurn_iff (tracker : LiveTextDeltaTracker) (turn : Int) :
    tracker.sameTurn turn = true ↔ tracker.currentTurn = turn := by
  unfold sameTurn currentTurn
  split <;> exact beq_iff_eq

/-- What the reader has of a turn is its last snapshot, up to what is pending. -/
def Owes (tracker : LiveTextDeltaTracker) (turn : Int) (received last : JsString) : Prop :=
  match tracker.pending with
  | none => received = last
  | some pending =>
    if pending.turn = turn then
      pending.offset ≤ last.length ∧ pending.text = last.drop pending.offset ∧
        (pending.offset = 0 ∨ received = last.take pending.offset)
    else received = last

/-- Nothing of the turn is pending. -/
def TurnSettled (tracker : LiveTextDeltaTracker) (turn : Int) : Prop := ∀ pending ∈ tracker.pending, pending.turn ≠ turn

instance (tracker : LiveTextDeltaTracker) (turn : Int) : Decidable (TurnSettled tracker turn) :=
  inferInstanceAs (Decidable (∀ pending ∈ tracker.pending, _))

section Steps

variable {tracker after : LiveTextDeltaTracker} {snapshot : TextSnapshot} {turn atMs : Int} {received last : JsString}

theorem owes_of_settled (settled : TurnSettled tracker turn) : Owes tracker turn received last ↔ received = last := by
  unfold Owes
  cases isPending : tracker.pending with
  | none => simp
  | some pending => simp [settled pending isPending]

theorem pushSnapshot_extending (same : tracker.sameTurn snapshot.turn = true) (longer : tracker.baseLength ≤ snapshot.text.length) :
    (snapshot.text.length = tracker.baseLength ∧ tracker.pushSnapshot snapshot.turn snapshot.text atMs = tracker) ∨
      (∃ pending, tracker.pending = some pending ∧ (tracker.pushSnapshot snapshot.turn snapshot.text atMs).pending =
        some { pending with text := pending.text ++ snapshot.text.drop tracker.baseLength }) ∨
      (tracker.pending = none ∧ (tracker.pushSnapshot snapshot.turn snapshot.text atMs).pending =
        some ⟨snapshot.turn, tracker.sentLength, snapshot.text.drop tracker.baseLength⟩) := by
  unfold pushSnapshot
  simp only [same, longer, decide_true, Bool.and_self, if_true]
  split
  next nothing =>
    have ended := List.drop_eq_nil_iff.mp (List.isEmpty_iff.mp nothing)
    exact .inl ⟨by omega, rfl⟩
  · right
    split
    next pending isPending => exact .inl ⟨pending, isPending, rfl⟩
    next isPending => exact .inr ⟨isPending, rfl⟩

theorem pushSnapshot_anew (another : ¬ (tracker.sameTurn snapshot.turn = true ∧ tracker.baseLength ≤ snapshot.text.length)) :
    (tracker.pushSnapshot snapshot.turn snapshot.text atMs).pending = some ⟨snapshot.turn, 0, snapshot.text⟩ := by
  have notExtending : ¬ (tracker.sameTurn snapshot.turn && decide (tracker.baseLength ≤ snapshot.text.length)) = true := by
    simpa using another
  rw [pushSnapshot, if_neg notExtending]

theorem pushSnapshot_at :
    (tracker.pushSnapshot snapshot.turn snapshot.text atMs).currentTurn = snapshot.turn ∧
      (tracker.pushSnapshot snapshot.turn snapshot.text atMs).baseLength = snapshot.text.length := by
  by_cases extending : tracker.sameTurn snapshot.turn = true ∧ tracker.baseLength ≤ snapshot.text.length
  · obtain ⟨same, longer⟩ := extending
    have isTurn := (sameTurn_iff tracker snapshot.turn).mp same
    rcases @pushSnapshot_extending tracker snapshot atMs same longer with ⟨ended, unchanged⟩ | ⟨pending, isPending, isAfter⟩ | ⟨isPending, isAfter⟩
    · rw [unchanged]
      exact ⟨isTurn, ended.symm⟩
    · simp only [currentTurn, baseLength, isPending, isAfter, List.length_append, List.length_drop] at isTurn longer ⊢
      exact ⟨isTurn, by omega⟩
    · simp only [currentTurn, baseLength, isPending, isAfter, List.length_drop] at longer ⊢
      exact ⟨trivial, by omega⟩
  · have isAfter := @pushSnapshot_anew tracker snapshot atMs extending
    simp [currentTurn, baseLength, isAfter]

/-- The turn of a snapshot owes its text, if it owed the text that the snapshot extends. -/
theorem owes_pushed
    (owed : tracker.sameTurn snapshot.turn = true → tracker.baseLength ≤ snapshot.text.length →
      Owes tracker snapshot.turn received last ∧ tracker.baseLength = last.length ∧ last <+: snapshot.text) :
    Owes (tracker.pushSnapshot snapshot.turn snapshot.text atMs) snapshot.turn received snapshot.text := by
  by_cases extending : tracker.sameTurn snapshot.turn = true ∧ tracker.baseLength ≤ snapshot.text.length
  · obtain ⟨same, longer⟩ := extending
    obtain ⟨owed, isBase, more, isText⟩ := owed same longer
    have isTurn := (sameTurn_iff tracker snapshot.turn).mp same
    have isMore : snapshot.text.drop tracker.baseLength = more := by rw [← isText, isBase, List.drop_left]
    rcases @pushSnapshot_extending tracker snapshot atMs same longer with ⟨ended, unchanged⟩ | ⟨pending, isPending, isAfter⟩ | ⟨isPending, isAfter⟩
    · -- the snapshot is the same text
      have isSame : last = snapshot.text := by
        have lengths := congrArg List.length isText
        rw [List.length_append] at lengths
        rw [← isText, List.length_eq_zero_iff.mp (show more.length = 0 by omega), List.append_nil]
      rwa [unchanged, ← isSame]
    · simp only [currentTurn, isPending] at isTurn
      simp only [Owes, isPending, isTurn, if_true] at owed
      obtain ⟨within, isPendingText, isReceived⟩ := owed
      simp only [Owes, isAfter, isTurn, if_true]
      refine ⟨by omega, ?_, isReceived.imp_right ?_⟩
      · rw [isMore, isPendingText, ← isText, List.drop_append_of_le_length within]
      · intro isTake
        rw [isTake, ← isText, List.take_append_of_le_length within]
    · simp only [Owes, isPending] at owed
      simp only [baseLength, isPending] at isBase longer
      simp only [Owes, isAfter, if_true]
      refine ⟨longer, by simp [baseLength, isPending], .inr ?_⟩
      rw [owed, ← isText, isBase, List.take_left]
  · have isAfter := @pushSnapshot_anew tracker snapshot atMs extending
    simp [Owes, isAfter]

theorem owes_of_other (owed : Owes tracker turn received last) (settled : TurnSettled tracker turn) (other : snapshot.turn ≠ turn) :
    Owes (tracker.pushSnapshot snapshot.turn snapshot.text atMs) turn received last := by
  rw [owes_of_settled settled] at owed
  apply (owes_of_settled ?_).mpr owed
  intro pending isPending
  have isTurn := (@pushSnapshot_at tracker snapshot atMs).1
  simp only [currentTurn, Option.mem_def.mp isPending] at isTurn
  rwa [isTurn]

theorem takeDue_at {force : Bool} :
    (tracker.takeDue atMs force).1.currentTurn = tracker.currentTurn ∧
      (tracker.takeDue atMs force).1.baseLength = tracker.baseLength := by
  rcases isTaken : tracker.takeDue atMs force with ⟨after, delta⟩
  cases delta with
  | none => rw [(takeDue_none isTaken).1]; exact ⟨rfl, rfl⟩
  | some delta =>
    obtain ⟨pending, isPending, _, _, isText, isSentTurn, isSentLength, isAfter⟩ := takeDue_some isTaken
    have shorter : delta.text.length ≤ pending.text.length := by rw [isText]; exact List.length_take_le' _ _
    by_cases nothing : (pending.text.drop delta.text.length).isEmpty = true
    · have ended := List.drop_eq_nil_iff.mp (List.isEmpty_iff.mp nothing)
      rw [if_pos nothing] at isAfter
      simp only [currentTurn, baseLength, isPending, isAfter, isSentTurn, isSentLength, true_and]
      omega
    · rw [if_neg nothing] at isAfter
      simp only [currentTurn, baseLength, isPending, isAfter, List.length_drop, true_and]
      omega

theorem owes_taken {force : Bool} (owed : Owes tracker turn (turnText deltas turn) last) :
    Owes (tracker.takeDue atMs force).1 turn (turnText (deltas ++ (tracker.takeDue atMs force).2.toList) turn) last := by
  rcases isTaken : tracker.takeDue atMs force with ⟨after, delta⟩
  cases delta with
  | none =>
    rw [(takeDue_none isTaken).1]
    simpa using owed
  | some delta =>
    obtain ⟨pending, isPending, isTurn, isOffset, isText, _, _, isAfter⟩ := takeDue_some isTaken
    have shorter : delta.text.length ≤ pending.text.length := by rw [isText]; exact List.length_take_le' _ _
    simp only [Option.toList_some, turnText_concat]
    unfold Owes at owed ⊢
    rw [isPending] at owed
    rw [isAfter]
    by_cases isHere : pending.turn = turn
    · simp only [if_pos isHere] at owed
      obtain ⟨within, isPendingText, isReceived⟩ := owed
      rw [if_pos (isTurn.trans isHere)]
      have isTake : delta.text = (last.drop pending.offset).take delta.text.length := by
        rw [← isPendingText, isText, List.length_take, List.take_eq_take_iff]
        omega
      have isNow : applyChatStreamTextDelta (turnText deltas turn) delta = last.take (pending.offset + delta.text.length) := by
        unfold applyChatStreamTextDelta
        rw [isOffset]
        rcases isReceived with isZero | isReceived
        · rw [if_pos isZero, isZero, Nat.zero_add]
          simpa [isZero] using isTake
        · split
          next isZero =>
            rw [isZero, Nat.zero_add]
            simpa [isZero] using isTake
          · have isLength : pending.offset = (turnText deltas turn).length := by
              rw [isReceived, List.length_take]
              omega
            rw [if_pos isLength, isReceived, List.take_add, ← isTake]
      rw [isNow]
      have isRest : pending.text.length = last.length - pending.offset := by rw [isPendingText, List.length_drop]
      by_cases nothing : (pending.text.drop delta.text.length).isEmpty = true
      · have ended := List.drop_eq_nil_iff.mp (List.isEmpty_iff.mp nothing)
        rw [if_pos nothing]
        exact List.take_of_length_le (by omega)
      · rw [if_neg nothing]
        simp only [isHere, if_true]
        refine ⟨by omega, ?_, .inr trivial⟩
        rw [isPendingText, List.drop_drop]
    · rw [if_neg (fun same => isHere (isTurn.symm.trans same))]
      simp only [if_neg isHere] at owed
      split
      next => exact owed
      next rest isSome =>
        split at isSome
        · cases isSome
        · cases isSome
          rw [if_neg isHere]
          exact owed

/-- A delta begins within what the reader has of its turn. -/
theorem taken_within {force : Bool}
    (owed : Owes tracker tracker.currentTurn (turnText deltas tracker.currentTurn) last)
    (isTaken : tracker.takeDue atMs force = (after, some delta)) : delta.offset ≤ (turnText deltas delta.turn).length := by
  obtain ⟨pending, isPending, isTurn, isOffset, _⟩ := takeDue_some isTaken
  have isCurrent : tracker.currentTurn = pending.turn := by simp [currentTurn, isPending]
  rw [isCurrent] at owed
  simp only [Owes, isPending, if_true] at owed
  obtain ⟨within, _, isZero | isReceived⟩ := owed
  · omega
  · rw [isTurn, isOffset, isReceived, List.length_take]
    omega

end Steps

/-! ## Runs of the tracker -/

theorem pushedSnapshots_append (early late : List TrackerCall) :
    pushedSnapshots (early ++ late) = pushedSnapshots early ++ pushedSnapshots late := List.filterMap_append

theorem pushedSnapshots_push (snapshot : TextSnapshot) (atMs : Int) :
    pushedSnapshots [.pushSnapshot snapshot atMs] = [snapshot] := rfl

theorem pushedSnapshots_take (atMs : Int) (force : Bool) : pushedSnapshots [.takeDue atMs force] = [] := rfl

theorem trackerRun_concat (calls : List TrackerCall) (call : TrackerCall) :
    trackerRun (calls ++ [call]) = trackerStep (trackerRun calls) call := run_append ..

theorem emittedDeltas_concat (calls : List TrackerCall) (call : TrackerCall) :
    emittedDeltas (calls ++ [call]) = emittedDeltas calls ++ trackerDelta (trackerRun calls) call := observed_snoc ..

/-- The tracker is at the end of the last snapshot. -/
structure AtLatest (tracker : LiveTextDeltaTracker) (snapshots : List TextSnapshot) : Prop where
  base : tracker.baseLength = (lastSnapshot snapshots tracker.currentTurn).length
  turn : ∀ latest ∈ snapshots.getLast?, tracker.currentTurn = latest.turn

theorem AtLatest.extends {tracker : LiveTextDeltaTracker} {snapshots : List TextSnapshot} {snapshot : TextSnapshot}
    (isAt : AtLatest tracker snapshots) (disciplined : (snapshots ++ [snapshot]).IsChain Succeeds)
    (same : tracker.sameTurn snapshot.turn = true) (longer : tracker.baseLength ≤ snapshot.text.length) :
    tracker.baseLength = (lastSnapshot snapshots snapshot.turn).length ∧ lastSnapshot snapshots snapshot.turn <+: snapshot.text := by
  have isTurn := (sameTurn_iff tracker snapshot.turn).mp same
  have isBase := isAt.base
  rw [isTurn] at isBase
  refine ⟨isBase, ?_⟩
  rcases List.eq_nil_or_concat snapshots with rfl | ⟨early, latest, rfl⟩
  · exact List.nil_prefix
  · rw [List.concat_eq_append] at isAt disciplined isBase ⊢
    have latestTurn : latest.turn = snapshot.turn := (isAt.turn latest (by simp)).symm.trans isTurn
    rw [lastSnapshot_concat, if_pos latestTurn] at isBase ⊢
    have succeeds : Succeeds latest snapshot := by
      have joined := (List.isChain_append.mp disciplined).2.2
      exact joined latest (by simp) snapshot (by simp)
    rcases succeeds latestTurn with extending | shorter
    · exact extending
    · omega

/-- Through every run the tracker is at the last snapshot, its deltas are in bounds, and it owes the rest of the last. -/
theorem trackerRun_current {calls : List TrackerCall} (disciplined : (pushedSnapshots calls).IsChain Succeeds) :
    AtLatest (trackerRun calls) (pushedSnapshots calls) ∧ InBounds (emittedDeltas calls) ∧
      Owes (trackerRun calls) (trackerRun calls).currentTurn (turnText (emittedDeltas calls) (trackerRun calls).currentTurn)
        (lastSnapshot (pushedSnapshots calls) (trackerRun calls).currentTurn) := by
  induction calls using List.reverseRecOn with
  | nil => exact ⟨⟨rfl, by simp [pushedSnapshots]⟩, inBounds_nil, rfl⟩
  | append_singleton calls call ih =>
    rw [pushedSnapshots_append] at disciplined
    obtain ⟨isAt, bounded, owed⟩ := ih (List.isChain_append.mp disciplined).1
    rw [trackerRun_concat, emittedDeltas_concat, pushedSnapshots_append]
    cases call with
    | pushSnapshot snapshot atMs =>
      simp only [trackerStep, trackerDelta, pushedSnapshots_push, List.append_nil] at disciplined ⊢
      obtain ⟨isTurn, isBase⟩ := @pushSnapshot_at (trackerRun calls) snapshot atMs
      rw [isTurn, lastSnapshot_concat, if_pos rfl]
      refine ⟨⟨?_, ?_⟩, bounded, ?_⟩
      · rw [isTurn, isBase, lastSnapshot_concat, if_pos rfl]
      · intro latest isLatest
        rw [List.getLast?_concat, Option.mem_some_iff] at isLatest
        rw [isTurn, isLatest]
      · apply owes_pushed
        intro same longer
        rw [(sameTurn_iff _ _).mp same] at owed
        exact ⟨owed, isAt.extends disciplined same longer⟩
    | takeDue atMs force =>
      simp only [trackerStep, trackerDelta, pushedSnapshots_take, List.append_nil]
      obtain ⟨isTurn, isBase⟩ := @takeDue_at (trackerRun calls) atMs force
      rw [isTurn]
      refine ⟨⟨by rw [isTurn, isBase]; exact isAt.base, by rw [isTurn]; exact isAt.turn⟩, ?_, owes_taken owed⟩
      rcases isTaken : (trackerRun calls).takeDue atMs force with ⟨after, delta⟩
      cases delta with
      | none => simpa using bounded
      | some delta => exact bounded.concat (taken_within owed isTaken)

/-- No snapshot of another turn comes while something of the turn is pending. -/
def Spares (turn : Int) (tracker : LiveTextDeltaTracker) : TrackerCall → Prop
  | .pushSnapshot snapshot _ => snapshot.turn = turn ∨ TurnSettled tracker turn
  | .takeDue .. => True

/-- A turn that is spared is owed the rest of its last snapshot, whatever other turns come. -/
theorem trackerRun_spared {calls : List TrackerCall} (disciplined : (pushedSnapshots calls).IsChain Succeeds) {turn : Int}
    (spared : Throughout trackerStep (Spares turn) new calls) :
    Owes (trackerRun calls) turn (turnText (emittedDeltas calls) turn) (lastSnapshot (pushedSnapshots calls) turn) := by
  induction calls using List.reverseRecOn with
  | nil => rfl
  | append_singleton calls call ih =>
    obtain ⟨sparedBefore, spares⟩ := throughout_snoc.mp spared
    rw [pushedSnapshots_append] at disciplined
    have before := (List.isChain_append.mp disciplined).1
    have owed := ih before sparedBefore
    rw [trackerRun_concat, emittedDeltas_concat, pushedSnapshots_append]
    cases call with
    | pushSnapshot snapshot atMs =>
      simp only [trackerStep, trackerDelta, pushedSnapshots_push, List.append_nil, lastSnapshot_concat] at disciplined ⊢
      by_cases isTurn : snapshot.turn = turn
      · subst isTurn
        rw [if_pos rfl]
        apply owes_pushed
        intro same longer
        exact ⟨owed, (trackerRun_current before).1.extends disciplined same longer⟩
      · rw [if_neg isTurn]
        exact owes_of_other owed (spares.resolve_left isTurn) isTurn
    | takeDue atMs force =>
      simp only [trackerStep, trackerDelta, pushedSnapshots_take, List.append_nil]
      exact owes_taken owed

/-! ## Draining -/

theorem takeAll_calls (tracker : LiveTextDeltaTracker) (now : Int) (force : Bool) :
    ∃ calls, takeAll tracker now force = (run trackerStep tracker calls, observed trackerStep trackerDelta tracker calls) ∧
      pushedSnapshots calls = [] ∧ ∀ turn, Throughout trackerStep (Spares turn) tracker calls := by
  fun_induction takeAll tracker now force with
  | case1 tracker after isTaken =>
    obtain ⟨rfl, _⟩ := takeDue_none isTaken
    exact ⟨[], rfl, rfl, fun _ => trivial⟩
  | case2 tracker after delta isTaken _ later ih =>
    obtain ⟨calls, isLater, noSnapshot, spares⟩ := ih
    refine ⟨.takeDue now force :: calls, ?_, noSnapshot, ?_⟩
    · simp [run_cons, observed, trackerStep, trackerDelta, isTaken, later, isLater]
    · intro turn
      refine ⟨trivial, ?_⟩
      simpa [trackerStep, isTaken] using spares turn

theorem takeAll_drained (tracker : LiveTextDeltaTracker) (now : Int) : (takeAll tracker now true).1.pending = none := by
  fun_induction takeAll tracker now true with
  | case1 tracker after isTaken =>
    obtain ⟨rfl, drained⟩ := takeDue_none isTaken
    exact drained rfl
  | case2 tracker after delta isTaken _ later ih => exact ih

end SiftKit.Chat
