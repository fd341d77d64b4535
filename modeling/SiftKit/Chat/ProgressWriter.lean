import SiftKit.Chat.LiveText

/-! # The progress writer of a chat stream

`chat-stream-progress-writer.ts`: every snapshot goes to the tracker of its kind, and what is due is recorded.  Every
other event, and every call of the recorder, first flushes what is pending.
-/

namespace SiftKit.Chat

open SiftKit.Json SiftKit.Runs LiveTextDeltaTracker

/-! ## The writer -/

inductive ChatTextDeltaKind where
  | thinking
  | narration
  | progress
  | answer
deriving DecidableEq

def ChatTextDeltaKind.all : List ChatTextDeltaKind := [.thinking, .narration, .progress, .answer]

/-- The progress events: a snapshot of one of the kinds, or another event. -/
inductive ProgressEvent where
  | text (kind : ChatTextDeltaKind) (turn : Nat) (text : JsString)
  | other

structure ChatStreamProgressWriter where
  streamAnswer : Bool
  /-- `thinkingDeltas`, `narrationDeltas`, `progressDeltas` and `answerDeltas`. -/
  deltas : ChatTextDeltaKind → LiveTextDeltaTracker
  flushTimer : Bool

/-- What the recorder is given. -/
abbrev RecordedDelta := ChatTextDeltaKind × ChatStreamTextDelta

namespace ChatStreamProgressWriter

def new (streamAnswer : Bool) : ChatStreamProgressWriter := ⟨streamAnswer, fun _ => LiveTextDeltaTracker.new, false⟩

def pushSnapshot (writer : ChatStreamProgressWriter) (kind : ChatTextDeltaKind) (turn : Nat) (text : JsString) (now : Int) :
    ChatStreamProgressWriter :=
  { writer with
    deltas := fun other => if other = kind then (writer.deltas kind).pushSnapshot turn text now else writer.deltas other }

/-- One tracker after the other; the timer is armed if something is left. -/
def emitDueDeltas (writer : ChatStreamProgressWriter) (now : Int) (force : Bool) :
    ChatStreamProgressWriter × List RecordedDelta :=
  let after := fun kind => (takeAll (writer.deltas kind) now force).1
  ({ writer with deltas := after, flushTimer := ChatTextDeltaKind.all.any fun kind => (after kind).hasPending },
    ChatTextDeltaKind.all.flatMap fun kind => (takeAll (writer.deltas kind) now force).2.map fun delta => (kind, delta))

def flushPending (writer : ChatStreamProgressWriter) (now : Int) : ChatStreamProgressWriter × List RecordedDelta :=
  { writer with flushTimer := false }.emitDueDeltas now true

/-- Without `streamAnswer` the snapshots of the answer are not forwarded. -/
def forwards (streamAnswer : Bool) (kind : ChatTextDeltaKind) : Bool := kind ≠ .answer || streamAnswer

def write (writer : ChatStreamProgressWriter) (now : Int) : ProgressEvent → ChatStreamProgressWriter × List RecordedDelta
  | .text kind turn text =>
    if forwards writer.streamAnswer kind then (writer.pushSnapshot kind turn text now).emitDueDeltas now false else (writer, [])
  | .other => writer.flushPending now

/-- The timer does nothing where it is not armed. -/
def fireTimer (writer : ChatStreamProgressWriter) (now : Int) : ChatStreamProgressWriter × List RecordedDelta :=
  if writer.flushTimer then { writer with flushTimer := false }.emitDueDeltas now true else (writer, [])

end ChatStreamProgressWriter

open ChatStreamProgressWriter

inductive WriterCall where
  | write (event : ProgressEvent) (now : Int)
  | flushPending (now : Int)
  | fireTimer (now : Int)

def writerResult (writer : ChatStreamProgressWriter) : WriterCall → ChatStreamProgressWriter × List RecordedDelta
  | .write event now => writer.write now event
  | .flushPending now => writer.flushPending now
  | .fireTimer now => writer.fireTimer now

def writerStep (writer : ChatStreamProgressWriter) (call : WriterCall) : ChatStreamProgressWriter := (writerResult writer call).1

def writerRun (streamAnswer : Bool) (calls : List WriterCall) : ChatStreamProgressWriter :=
  run writerStep (new streamAnswer) calls

/-- The deltas of a kind, in the order in which they are recorded. -/
def ofKind (kind : ChatTextDeltaKind) (recorded : List RecordedDelta) : List ChatStreamTextDelta :=
  (recorded.filter fun entry => entry.1 = kind).map Prod.snd

def recordedDeltas (streamAnswer : Bool) (calls : List WriterCall) : List RecordedDelta :=
  observed writerStep (fun writer call => (writerResult writer call).2) (new streamAnswer) calls

def forwardedSnapshots (streamAnswer : Bool) (kind : ChatTextDeltaKind) (calls : List WriterCall) : List TextSnapshot :=
  if forwards streamAnswer kind then
    calls.filterMap fun
      | .write (.text other turn text) _ => if other = kind then some ⟨turn, text⟩ else none
      | _ => none
  else []

/-- No snapshot of another turn is written for a kind while something of the turn is pending there. -/
def SparesTurn (kind : ChatTextDeltaKind) (turn : Int) (writer : ChatStreamProgressWriter) : WriterCall → Prop
  | .write (.text other otherTurn _) _ =>
    other = kind → forwards writer.streamAnswer kind → otherTurn = turn ∨ TurnSettled (writer.deltas kind) turn
  | _ => True

/-! ## Each kind is a tracker -/

variable (kind : ChatTextDeltaKind) (writer : ChatStreamProgressWriter)

theorem ofKind_append (early late : List RecordedDelta) :
    ofKind kind (early ++ late) = ofKind kind early ++ ofKind kind late := by
  simp [ofKind]

theorem ofKind_map (other : ChatTextDeltaKind) (deltas : List ChatStreamTextDelta) :
    ofKind kind (deltas.map fun delta => (other, delta)) = if other = kind then deltas else [] := by
  by_cases same : other = kind
  · simp [ofKind, same, List.filter_map, Function.comp_def]
  · simp [ofKind, same]

theorem emitDueDeltas_ofKind (now : Int) (force : Bool) (kind : ChatTextDeltaKind) :
    ofKind kind (writer.emitDueDeltas now force).2 = (takeAll (writer.deltas kind) now force).2 := by
  simp only [emitDueDeltas, ChatTextDeltaKind.all, List.flatMap_cons, List.flatMap_nil, List.append_nil, ofKind_append, ofKind_map]
  cases kind <;> simp

/-- What a call of the writer does to the tracker of a kind, as calls of the tracker. -/
structure ChannelCalls (kind : ChatTextDeltaKind) (writer : ChatStreamProgressWriter) (call : WriterCall)
    (calls : List TrackerCall) : Prop where
  tracker : (writerStep writer call).deltas kind = run trackerStep (writer.deltas kind) calls
  emitted : ofKind kind (writerResult writer call).2 = observed trackerStep trackerDelta (writer.deltas kind) calls
  pushed : pushedSnapshots calls = forwardedSnapshots writer.streamAnswer kind [call]
  spares : ∀ turn, SparesTurn kind turn writer call → Throughout trackerStep (Spares turn) (writer.deltas kind) calls

theorem streamAnswer_step (call : WriterCall) : (writerStep writer call).streamAnswer = writer.streamAnswer := by
  cases call with
  | write event now =>
    cases event with
    | text kind turn text =>
      simp only [writerStep, writerResult, write]
      split <;> rfl
    | other => rfl
  | flushPending now => rfl
  | fireTimer now =>
    simp only [writerStep, writerResult, fireTimer]
    split <;> rfl

theorem emitDueDeltas_calls (now : Int) (force : Bool) (kind : ChatTextDeltaKind) :
    ∃ calls, (writer.emitDueDeltas now force).1.deltas kind = run trackerStep (writer.deltas kind) calls ∧
      ofKind kind (writer.emitDueDeltas now force).2 = observed trackerStep trackerDelta (writer.deltas kind) calls ∧
        pushedSnapshots calls = [] ∧ ∀ turn, Throughout trackerStep (Spares turn) (writer.deltas kind) calls := by
  obtain ⟨calls, isTaken, noSnapshot, spares⟩ := takeAll_calls (writer.deltas kind) now force
  refine ⟨calls, ?_, ?_, noSnapshot, spares⟩
  · exact congrArg Prod.fst isTaken
  · rw [emitDueDeltas_ofKind, isTaken]

theorem channelCalls (call : WriterCall) : ∃ calls, ChannelCalls kind writer call calls := by
  have nothing : ∀ call, writerResult writer call = (writer, []) → forwardedSnapshots writer.streamAnswer kind [call] = [] →
      ChannelCalls kind writer call [] := by
    intro call unchanged noSnapshot
    exact ⟨by rw [writerStep, unchanged]; rfl, by rw [unchanged]; rfl, by rw [noSnapshot]; rfl, fun _ _ => trivial⟩
  have flushed : ∀ call now, writerResult writer call = { writer with flushTimer := false }.emitDueDeltas now true →
      forwardedSnapshots writer.streamAnswer kind [call] = [] → ∃ calls, ChannelCalls kind writer call calls := by
    intro call now isFlush noSnapshot
    obtain ⟨calls, tracker, emitted, noPush, spares⟩ := emitDueDeltas_calls { writer with flushTimer := false } now true kind
    exact ⟨calls, by rw [writerStep, isFlush]; exact tracker, by rw [isFlush]; exact emitted, by rw [noPush, noSnapshot],
      fun turn _ => spares turn⟩
  have notForwarded : ∀ call : WriterCall, (∀ other turn text now, call ≠ .write (.text other turn text) now) →
      forwardedSnapshots writer.streamAnswer kind [call] = [] := by
    intro call noText
    unfold forwardedSnapshots
    split
    · cases call with
      | write event now =>
        cases event with
        | text other turn text => exact absurd rfl (noText other turn text now)
        | other => rfl
      | flushPending now => rfl
      | fireTimer now => rfl
    · rfl
  cases call with
  | flushPending now => exact flushed _ now rfl (notForwarded _ (by simp))
  | fireTimer now =>
    by_cases armed : writer.flushTimer = true
    · exact flushed _ now (by simp [writerResult, fireTimer, armed]) (notForwarded _ (by simp))
    · exact ⟨[], nothing _ (by simp [writerResult, fireTimer, armed]) (notForwarded _ (by simp))⟩
  | write event now =>
    cases event with
    | other => exact flushed _ now rfl (notForwarded _ (by simp))
    | text other turn text =>
      by_cases isForwarded : forwards writer.streamAnswer other = true
      · obtain ⟨calls, tracker, emitted, noPush, spares⟩ :=
          emitDueDeltas_calls (writer.pushSnapshot other turn text now) now false kind
        have isResult : writerResult writer (.write (.text other turn text) now) =
            (writer.pushSnapshot other turn text now).emitDueDeltas now false := by
          simp [writerResult, write, isForwarded]
        by_cases isKind : kind = other
        · -- the snapshot is pushed, then taken from
          subst isKind
          have isPushed : (writer.pushSnapshot kind turn text now).deltas kind =
              trackerStep (writer.deltas kind) (.pushSnapshot ⟨turn, text⟩ now) := by
            simp [ChatStreamProgressWriter.pushSnapshot, trackerStep]
          rw [isPushed] at tracker emitted spares
          refine ⟨.pushSnapshot ⟨turn, text⟩ now :: calls, ?_, ?_, ?_, ?_⟩
          · rw [writerStep, isResult]
            exact tracker
          · rw [isResult]
            exact emitted
          · have isSplit : pushedSnapshots (.pushSnapshot ⟨turn, text⟩ now :: calls) = ⟨turn, text⟩ :: pushedSnapshots calls := rfl
            simp [isSplit, noPush, forwardedSnapshots, isForwarded]
          · intro watched spared
            exact ⟨spared rfl isForwarded, spares watched⟩
        · have isUntouched : (writer.pushSnapshot other turn text now).deltas kind = writer.deltas kind := by
            simp [ChatStreamProgressWriter.pushSnapshot, isKind]
          rw [isUntouched] at tracker emitted spares
          refine ⟨calls, ?_, ?_, ?_, fun watched _ => spares watched⟩
          · rw [writerStep, isResult]
            exact tracker
          · rw [isResult]
            exact emitted
          · simp [noPush, forwardedSnapshots, Ne.symm isKind]
      · refine ⟨[], nothing _ (by simp [writerResult, write, isForwarded]) ?_⟩
        unfold forwardedSnapshots
        split
        next isSent =>
          have isKind : other ≠ kind := by
            rintro rfl
            exact isForwarded isSent
          simp [isKind]
        next => rfl

theorem streamAnswer_run (streamAnswer : Bool) (calls : List WriterCall) :
    (writerRun streamAnswer calls).streamAnswer = streamAnswer :=
  run_invariant (fun writer => writer.streamAnswer = streamAnswer)
    (fun writer call same => (streamAnswer_step writer call).trans same) rfl calls

theorem forwardedSnapshots_append (streamAnswer : Bool) (kind : ChatTextDeltaKind) (early late : List WriterCall) :
    forwardedSnapshots streamAnswer kind (early ++ late) =
      forwardedSnapshots streamAnswer kind early ++ forwardedSnapshots streamAnswer kind late := by
  unfold forwardedSnapshots
  split
  · exact List.filterMap_append
  · rfl

theorem writerRun_channel (streamAnswer : Bool) (kind : ChatTextDeltaKind) (calls : List WriterCall) :
    ∃ trackerCalls, (writerRun streamAnswer calls).deltas kind = trackerRun trackerCalls ∧
      ofKind kind (recordedDeltas streamAnswer calls) = emittedDeltas trackerCalls ∧
      pushedSnapshots trackerCalls = forwardedSnapshots streamAnswer kind calls ∧
      ∀ turn, Throughout writerStep (SparesTurn kind turn) (new streamAnswer) calls →
        Throughout trackerStep (Spares turn) LiveTextDeltaTracker.new trackerCalls := by
  induction calls using List.reverseRecOn with
  | nil =>
    refine ⟨[], rfl, rfl, ?_, fun _ _ => trivial⟩
    unfold forwardedSnapshots
    split <;> rfl
  | append_singleton calls call ih =>
    obtain ⟨before, isTracker, isEmitted, isPushed, spares⟩ := ih
    obtain ⟨more, step⟩ := channelCalls kind (writerRun streamAnswer calls) call
    have isSame := streamAnswer_run streamAnswer calls
    have stepTracker := step.tracker
    have stepEmitted := step.emitted
    rw [isTracker] at stepTracker stepEmitted
    refine ⟨before ++ more, ?_, ?_, ?_, ?_⟩
    · rw [writerRun, run_append, trackerRun, run_append]
      exact stepTracker
    · rw [recordedDeltas, observed_snoc, ofKind_append, emittedDeltas, observed_append]
      exact congrArg₂ (· ++ ·) isEmitted stepEmitted
    · rw [pushedSnapshots_append, forwardedSnapshots_append, isPushed, step.pushed, isSame]
    · intro turn spared
      obtain ⟨sparedBefore, sparesLast⟩ := throughout_snoc.mp spared
      have last := step.spares turn sparesLast
      rw [isTracker] at last
      exact throughout_append.mpr ⟨spares turn sparedBefore, last⟩

/-! ## Rebuilt texts -/

/-- The deltas of a run of the tracker, and those that draining it takes. -/
def drainedDeltas (calls : List TrackerCall) (now : Int) : List ChatStreamTextDelta :=
  emittedDeltas calls ++ (takeAll (trackerRun calls) now true).2

theorem drainedDeltas_rebuild {calls : List TrackerCall} (disciplined : (pushedSnapshots calls).IsChain Succeeds) (now : Int) :
    InBounds (drainedDeltas calls now) ∧
      ∀ latest ∈ (pushedSnapshots calls).getLast?, turnText (drainedDeltas calls now) latest.turn = latest.text := by
  obtain ⟨more, isTaken, noSnapshot, _⟩ := takeAll_calls (trackerRun calls) now true
  have isRun : trackerRun (calls ++ more) = (takeAll (trackerRun calls) now true).1 := by
    rw [isTaken, trackerRun, run_append]
    rfl
  have isEmitted : emittedDeltas (calls ++ more) = drainedDeltas calls now := by
    rw [drainedDeltas, isTaken, emittedDeltas, observed_append]
    rfl
  have samePushed : pushedSnapshots (calls ++ more) = pushedSnapshots calls := by
    rw [pushedSnapshots_append, noSnapshot, List.append_nil]
  obtain ⟨isAt, bounded, owed⟩ := trackerRun_current (samePushed ▸ disciplined : (pushedSnapshots (calls ++ more)).IsChain Succeeds)
  rw [samePushed] at isAt owed
  rw [isEmitted] at bounded owed
  refine ⟨bounded, ?_⟩
  intro latest isLatest
  have isTurn := isAt.turn latest isLatest
  have drained : (trackerRun (calls ++ more)).pending = none := by rw [isRun, takeAll_drained]
  simp only [Owes, drained] at owed
  rw [isTurn] at owed
  obtain ⟨early, isSnapshots⟩ := List.getLast?_eq_some_iff.mp isLatest
  rw [owed, isSnapshots, lastSnapshot_concat, if_pos rfl]

theorem flushed_rebuild {streamAnswer : Bool} {kind : ChatTextDeltaKind} {calls : List WriterCall}
    (disciplined : (forwardedSnapshots streamAnswer kind calls).IsChain Succeeds) {turn : Int}
    (spared : Throughout writerStep (SparesTurn kind turn) (new streamAnswer) calls) (now : Int) :
    turnText (ofKind kind (recordedDeltas streamAnswer (calls ++ [.flushPending now]))) turn =
      lastSnapshot (forwardedSnapshots streamAnswer kind calls) turn := by
  obtain ⟨trackerCalls, isTracker, isEmitted, isPushed, spares⟩ :=
    writerRun_channel streamAnswer kind (calls ++ [.flushPending now])
  have samePushed : forwardedSnapshots streamAnswer kind (calls ++ [.flushPending now]) =
      forwardedSnapshots streamAnswer kind calls := by
    rw [forwardedSnapshots_append]
    unfold forwardedSnapshots
    split <;> simp
  rw [samePushed] at isPushed
  have sparedFlush : Throughout writerStep (SparesTurn kind turn) (new streamAnswer) (calls ++ [.flushPending now]) :=
    throughout_snoc.mpr ⟨spared, trivial⟩
  have owed := trackerRun_spared (isPushed ▸ disciplined) (spares turn sparedFlush)
  have drained : (trackerRun trackerCalls).pending = none := by
    rw [← isTracker, writerRun, run_append]
    exact takeAll_drained _ now
  simp only [Owes, drained] at owed
  rw [isEmitted, owed, isPushed]

/-- For every run of a tracker, no delta begins beyond the text of its turn, and after draining the text of the latest
turn is its last snapshot.  For every run of the writer, after a flush the text of a turn is the last snapshot that was
written for it, if no snapshot of another turn came for that kind while something of the turn was pending. -/
theorem live_text_rebuilds_snapshots (trackerCalls : List TrackerCall)
    (disciplined : (pushedSnapshots trackerCalls).IsChain Succeeds) (streamAnswer : Bool) (kind : ChatTextDeltaKind)
    (calls : List WriterCall) (disciplinedText : (forwardedSnapshots streamAnswer kind calls).IsChain Succeeds) (turn : Int)
    (spared : Throughout writerStep (SparesTurn kind turn) (new streamAnswer) calls) (now : Int) :
    (InBounds (drainedDeltas trackerCalls now) ∧ ∀ latest ∈ (pushedSnapshots trackerCalls).getLast?,
        turnText (drainedDeltas trackerCalls now) latest.turn = latest.text) ∧
      turnText (ofKind kind (recordedDeltas streamAnswer (calls ++ [.flushPending now]))) turn =
        lastSnapshot (forwardedSnapshots streamAnswer kind calls) turn :=
  ⟨drainedDeltas_rebuild disciplined now, flushed_rebuild disciplinedText spared now⟩

/-- A narration of two turns with a tool call in between. -/
def narratedTurns : List WriterCall :=
  [.write (.text .narration 1 (utf16 "Reading")) 0, .write .other 20, .write (.text .narration 2 (utf16 "Done")) 40]

theorem narrated_turns_are_rebuilt :
    (InBounds (drainedDeltas [.pushSnapshot ⟨1, utf16 "ab"⟩ 0, .takeDue 10 false, .pushSnapshot ⟨2, utf16 "c"⟩ 20] 30) ∧
        ∀ latest ∈ (pushedSnapshots [.pushSnapshot ⟨1, utf16 "ab"⟩ 0, .takeDue 10 false, .pushSnapshot ⟨2, utf16 "c"⟩ 20]).getLast?,
          turnText (drainedDeltas [.pushSnapshot ⟨1, utf16 "ab"⟩ 0, .takeDue 10 false, .pushSnapshot ⟨2, utf16 "c"⟩ 20] 30)
            latest.turn = latest.text) ∧
      turnText (ofKind .narration (recordedDeltas true (narratedTurns ++ [.flushPending 30]))) 1 =
        lastSnapshot (forwardedSnapshots true .narration narratedTurns) 1 :=
  live_text_rebuilds_snapshots [.pushSnapshot ⟨1, utf16 "ab"⟩ 0, .takeDue 10 false, .pushSnapshot ⟨2, utf16 "c"⟩ 20]
    (by unfold Succeeds; decide +kernel) true .narration narratedTurns (by unfold Succeeds; decide +kernel) 1
    ⟨fun _ _ => .inl rfl, trivial, fun _ _ => .inr (by decide +kernel), trivial⟩ 30

/-- Where the snapshot of the next turn comes at once, the pending text of the turn before it is discarded. -/
theorem pending_turn_is_discarded :
    turnText (ofKind .narration (recordedDeltas true
        [.write (.text .narration 1 (utf16 "Reading")) 0, .write (.text .narration 2 (utf16 "Done")) 20, .flushPending 30])) 1 = [] ∧
      lastSnapshot (forwardedSnapshots true .narration
        [.write (.text .narration 1 (utf16 "Reading")) 0, .write (.text .narration 2 (utf16 "Done")) 20]) 1 = utf16 "Reading" := by
  decide +kernel

end SiftKit.Chat
