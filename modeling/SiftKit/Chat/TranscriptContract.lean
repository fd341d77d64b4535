import SiftKit.Chat.ContextReplayEffects
import SiftKit.Chat.TranscriptManagerEffects

/-! # A transcript and its replay

A run changes its transcript, and records other evidence in between.  Replaying the journal that it leaves
gives the context that the model was reading, unless the replay takes exception to a mutation.
-/

namespace SiftKit.Chat

open SiftKit.Json SiftKit.Failure SiftKit.Runs ChatContextReplay TranscriptManager

/-! ## Runs -/

def ChatJournalEvent.isContext : ChatJournalEvent → Bool
  | .context_initialized _ => true
  | .context_spliced _ => true
  | _ => false

/-- What a run records beside its context. -/
structure RunEvidence where
  event : ChatJournalEvent
  isEvidence : event.isContext = false

/-- A run: its transcript, once there is one, and the events that it recorded. -/
structure LiveRun where
  manager : Option TranscriptManager
  events : List ChatJournalEvent

/-- What happens in a run: each call comes with what its recorder would answer. -/
inductive LiveStep where
  | create (recorder : ChatContextRecorder) (options : TranscriptOptions)
  | mutate (recorder : ChatContextRecorder) (mutation : Mutation)
  | record (evidence : RunEvidence)

namespace LiveRun

def start : LiveRun := ⟨none, []⟩

def create (recorder : ChatContextRecorder) (options : TranscriptOptions) (run : LiveRun) : LiveRun :=
  match run.manager with
  | some _ => run
  | none => match TranscriptManager.create recorder options with
    | .error _ => run
    | .ok (init, manager) => ⟨some manager, run.events ++ [.context_initialized init]⟩

def mutate (recorder : ChatContextRecorder) (mutation : Mutation) (run : LiveRun) : LiveRun :=
  match run.manager with
  | none => run
  | some manager =>
    let outcome := TranscriptManager.mutate recorder manager mutation
    ⟨some outcome.manager, run.events ++ outcome.recorded.map ChatJournalEvent.context_spliced⟩

def step (run : LiveRun) : LiveStep → LiveRun
  | .create recorder options => run.create recorder options
  | .mutate recorder mutation => run.mutate recorder mutation
  | .record evidence => { run with events := run.events ++ [evidence.event] }

/-- The context that the model reads. -/
def context (run : LiveRun) : Option ContextState := run.manager.map TranscriptManager.context

end LiveRun

/-! ## A replay of what was recorded -/

section

variable (operationId : JsString) (eventIds : Nat → JsString)

/-- The replay of the events of a run. -/
def replayOf (events : List ChatJournalEvent) : ChatContextReplay := replayed (journalOf operationId eventIds events)

/-- As long as the replay goes on, it has come to this context. -/
def Sound (events : List ChatJournalEvent) (context : Option ContextState) : Prop :=
  (replayOf operationId eventIds events).failed = none → (replayOf operationId eventIds events).context? = context

variable {operationId : JsString} {eventIds : Nat → JsString} {events : List ChatJournalEvent}

theorem wentOn {event : ChatJournalEvent} (goesOn : (replayOf operationId eventIds (events ++ [event])).failed = none) :
    (replayOf operationId eventIds events).failed = none := by
  unfold replayOf at goesOn ⊢
  rw [journalOf_concat, replayed_concat] at goesOn
  exact (apply_ok goesOn).1

theorem context?_evidence {event : ChatJournalEvent} (isEvidence : event.isContext = false) (anchor : Anchor) (replay : ChatContextReplay) :
    (applyEvent operationId anchor event replay).context? = replay.context? := by
  cases event with
  | context_initialized init => cases isEvidence
  | context_spliced splice => cases isEvidence
  | queue_delivered message => rfl
  | _ => exact context?_recordToolEvidence _ _

theorem sound_evidence {context : Option ContextState} (sound : Sound operationId eventIds events context) (evidence : RunEvidence) :
    Sound operationId eventIds (events ++ [evidence.event]) context := by
  intro goesOn
  have before := wentOn goesOn
  rw [replayOf, replayed_journalOf_concat before, context?_evidence evidence.isEvidence, context?_advanced]
  exact sound before

theorem sound_initialized (init : ChatContextInit) :
    Sound operationId eventIds (events ++ [.context_initialized init]) (some ⟨init.messages, init.contextRevision, init.turnBoundary⟩) := by
  intro goesOn
  have before := wentOn goesOn
  rw [replayOf, replayed_journalOf_concat before] at goesOn ⊢
  exact context?_initializeContext goesOn

variable {state : ContextState} {recorder : ChatContextRecorder} {after : ContextState}
  {splices : List ChatContextSplice} {manager : TranscriptManager} {splice : ChatContextSplice}

theorem sound_spliced (sound : Sound operationId eventIds events (some state)) (splice : ChatContextSplice) :
    Sound operationId eventIds (events ++ [.context_spliced splice]) (some (state.splice splice)) := by
  intro goesOn
  have before := wentOn goesOn
  rw [replayOf, replayed_journalOf_concat before] at goesOn ⊢
  exact context?_applySplice goesOn (sound before)

theorem sound_leads (leads : Leads recorder state splices after)
    (sound : Sound operationId eventIds events (some state)) :
    Sound operationId eventIds (events ++ splices.map ChatJournalEvent.context_spliced) (some after) := by
  induction leads generalizing events with
  | nothing =>
    rw [List.map_nil, List.append_nil]
    exact sound
  | @splice state after splice later committed amends leads ih =>
    have next := ih (sound_spliced sound splice)
    rwa [List.append_assoc, List.singleton_append] at next

theorem create_context {options : TranscriptOptions} {init : ChatContextInit}
    (created : TranscriptManager.create recorder options = .ok (init, manager)) :
    init.contextRevision = 0 ∧ manager.context = ⟨init.messages, init.contextRevision, init.turnBoundary⟩ := by
  simp only [TranscriptManager.create, bind_eq_ok, pure_eq_ok] at created
  obtain ⟨_, _, _, _, _, _, committed, isRecorded, isResult⟩ := created
  cases isResult
  obtain ⟨_, isZero, _, _⟩ := ChatContextRecorder.recordContextInitialized_ok isRecorded
  refine ⟨isZero, ?_⟩
  rw [TranscriptManager.context, isZero]

theorem sound_step {run : LiveRun} (sound : Sound operationId eventIds run.events run.context) (step : LiveStep) :
    Sound operationId eventIds (run.step step).events (run.step step).context := by
  cases step with
  | create recorder options =>
    simp only [LiveRun.step, LiveRun.create]
    split
    · exact sound
    · split
      · exact sound
      next init manager created =>
        rw [LiveRun.context, Option.map_some, (create_context created).2]
        exact sound_initialized init
  | mutate recorder mutation =>
    simp only [LiveRun.step, LiveRun.mutate]
    split
    · exact sound
    next manager isManager =>
      apply sound_leads (mutate_leads recorder manager mutation)
      rwa [LiveRun.context, isManager] at sound
  | record evidence => exact sound_evidence sound evidence

/-! ## When a replay goes on -/

/-- The current turn of the revised messages starts within them. -/
def RevisedWithin (revised : Except Thrown (List ChatMessage × List ChatMessage)) : Prop :=
  ∀ messages before, revised = .ok (messages, before) → before.length ≤ messages.length

/-- What a replay asks of a mutation: a place within the messages, and calls that can be coalesced. -/
def InRange (replay : ChatContextReplay) (recorder : ChatContextRecorder) (manager : TranscriptManager) : Mutation → Prop
  | .insertUserAfter index .. => index < manager.messages.length
  | .replaceToolResult _ _ coalescedToolCallIds => replay.coalescedViolation [] coalescedToolCallIds = none
  | .pruneImages _ => RevisedWithin (manager.revised recorder)
  | .reconcileHistory => RevisedWithin (manager.revised recorder)
  | _ => True

/-- Splices of which each stays within what the one before it left, and none coalesces calls. -/
def AllFit (state : ContextState) : List ChatContextSplice → Prop
  | [] => True
  | splice :: later => state.Fits splice ∧ splice.coalescedToolCallIds = [] ∧ AllFit (state.splice splice) later

variable {coalescedToolCallIds : List JsString}

theorem fits_of_recorded {startIndex : Int} {deleteCount : Nat} {inserted : List ChatMessage}
    {reason : ChatContextSpliceReason} {turnBoundary : Nat}
    (recorded : Recorded recorder manager startIndex deleteCount inserted reason turnBoundary coalescedToolCallIds splice)
    (within : startIndex + deleteCount ≤ manager.messages.length)
    (bounded : turnBoundary + deleteCount ≤ manager.messages.length + inserted.length) :
    manager.context.Fits splice := by
  have start := recorded.startIndex
  rw [ContextState.Fits, recorded.deleteCount, recorded.length, recorded.turnBoundary]
  exact ⟨by simp only [TranscriptManager.context]; omega, bounded⟩

theorem append_allFit (bounded : manager.context.WellBounded) (inserted : List ChatMessage) :
    AllFit manager.context (append recorder manager inserted).recorded := by
  unfold append
  split
  · trivial
  · cases applied : applySplice recorder manager manager.messages.length 0 inserted .append manager.currentTurnStartIndex noMetadata with
    | error failure => trivial
    | ok result =>
      obtain ⟨recorded, _⟩ := applySplice_ok applied
      have starts : manager.currentTurnStartIndex ≤ manager.messages.length := bounded
      exact ⟨fits_of_recorded recorded (by omega) (by omega), recorded.coalescedToolCallIds, trivial⟩

theorem outcomeOf_allFit {written : Except Thrown (ChatContextSplice × TranscriptManager)}
    (fits : ∀ splice after, written = .ok (splice, after) → manager.context.Fits splice ∧ splice.coalescedToolCallIds = []) :
    AllFit manager.context (manager.outcomeOf written).recorded := by
  cases written with
  | error failure => trivial
  | ok result =>
    obtain ⟨within, plain⟩ := fits result.1 result.2 rfl
    exact ⟨within, plain, trivial⟩

theorem reconcileHistory_allFit (within : RevisedWithin (manager.revised recorder)) :
    AllFit manager.context (manager.reconcileHistory recorder).recorded := by
  obtain ⟨nothing, _⟩ | ⟨splice, messages, before, isRecorded, isRevised, recorded, _⟩ := @reconcileHistory_ok recorder manager
  · rw [nothing]
    trivial
  · rw [isRecorded]
    have shorter := within messages before isRevised
    exact ⟨fits_of_recorded recorded (by omega) (by omega), recorded.coalescedToolCallIds, trivial⟩

theorem AllFit.append {middle : ContextState} {early late : List ChatContextSplice}
    (leads : Leads recorder state early middle) (before : AllFit state early) (next : AllFit middle late) :
    AllFit state (early ++ late) := by
  induction leads with
  | nothing => exact next
  | splice _ _ _ ih => exact ⟨before.1, before.2.1, ih before.2.2 next⟩

theorem AllFit.wellBounded (leads : Leads recorder state splices after) (allFit : AllFit state splices)
    (bounded : state.WellBounded) : after.WellBounded := by
  induction leads with
  | nothing => exact bounded
  | splice _ _ _ ih => exact ih allFit.2.2 (ContextState.wellBounded_splice allFit.1)

theorem mutate_allFit {replay : ChatContextReplay} (bounded : manager.context.WellBounded) {mutation : Mutation}
    (inRange : InRange replay recorder manager mutation)
    (keeps : ∀ toolCallId content coalescedToolCallIds, mutation ≠ .replaceToolResult toolCallId content coalescedToolCallIds) :
    AllFit manager.context (mutate recorder manager mutation).recorded := by
  have starts : manager.currentTurnStartIndex ≤ manager.messages.length := bounded
  cases mutation with
  | beginTurn turn => trivial
  | replaceWith compactedMessages currentTurnStartIndex =>
    apply outcomeOf_allFit
    intro splice after replaced
    obtain ⟨turnBoundary, retained, recorded, _⟩ := replaceWith_ok replaced
    exact ⟨fits_of_recorded recorded (by omega) (by rw [List.length_map]; omega), recorded.coalescedToolCallIds⟩
  | appendBatchExchange outcomes thinkingText content => exact append_allFit bounded _
  | pushAssistant message => exact append_allFit bounded _
  | pushUser content images imagePathKey => exact append_allFit bounded _
  | pushQueuedUser id content images =>
    apply outcomeOf_allFit
    intro splice after applied
    obtain ⟨recorded, _⟩ := applySplice_ok applied
    exact ⟨fits_of_recorded recorded (by omega) (by omega), recorded.coalescedToolCallIds⟩
  | insertUserAfter index content images imagePathKey toolCallId =>
    apply outcomeOf_allFit
    intro splice after inserted
    obtain ⟨_, recorded, _⟩ := insertUserAfter_ok inserted
    have within : index < manager.messages.length := inRange
    exact ⟨fits_of_recorded recorded (by omega) (by omega), recorded.coalescedToolCallIds⟩
  | replaceToolResult toolCallId content coalescedToolCallIds => exact absurd rfl (keeps _ _ _)
  | upsertForcedFinishCountdown content =>
    apply outcomeOf_allFit
    intro splice after upserted
    obtain ⟨index, deleteCount, within, atMostOne, recorded, _⟩ := upsertForcedFinishCountdown_ok upserted
    exact ⟨fits_of_recorded recorded (by omega) (by simp only [List.length_singleton]; omega), recorded.coalescedToolCallIds⟩
  | pruneThinking maintainPerStepThinking =>
    simp only [mutate, pruneThinking]
    split
    · trivial
    next pruned isPruned =>
      apply outcomeOf_allFit
      intro splice after applied
      obtain ⟨recorded, _⟩ := applySplice_ok applied
      have length := length_prunePlannerMessages isPruned
      exact ⟨fits_of_recorded recorded (by omega) (by omega), recorded.coalescedToolCallIds⟩
  | pruneImages retention =>
    have reconciled := reconcileHistory_allFit inRange
    simp only [mutate]
    obtain ⟨isRecorded, _⟩ | ⟨splice, pruned, length, isRecorded, recorded, _⟩ := @pruneImages_ok recorder manager retention
    · rw [isRecorded]
      exact reconciled
    · rw [isRecorded]
      have startsAfter : (manager.reconcileHistory recorder).manager.currentTurnStartIndex ≤
        (manager.reconcileHistory recorder).manager.messages.length := reconciled.wellBounded reconcileHistory_leads bounded
      apply reconciled.append reconcileHistory_leads
      exact ⟨fits_of_recorded recorded (by omega) (by omega), recorded.coalescedToolCallIds, trivial⟩
  | reconcileHistory => exact reconcileHistory_allFit inRange

/-! ### Splices that a replay takes -/

theorem coalescedViolation_same {left right : ChatContextReplay} (calls : left.toolCalls = right.toolCalls)
    (declared : left.declaredCallIds = right.declaredCallIds) (seen ids : List JsString) :
    left.coalescedViolation seen ids = right.coalescedViolation seen ids := by
  induction ids generalizing seen with
  | nil => rfl
  | cons id rest ih => rw [coalescedViolation, coalescedViolation, calls, declared, ih]

theorem goesOn_spliced (goesOn : (replayOf operationId eventIds events).failed = none)
    (isState : (replayOf operationId eventIds events).context? = some state) (amends : state.Amends splice)
    (fits : state.Fits splice)
    (coalesces : splice.coalescedToolCallIds = [] ∨ replacesResult splice state.messages = true ∧
      (replayOf operationId eventIds events).coalescedViolation [] splice.coalescedToolCallIds = none) :
    (replayOf operationId eventIds (events ++ [.context_spliced splice])).failed = none := by
  rw [replayOf, replayed_journalOf_concat goesOn]
  refine (ChatContextReplay.applySplice_ok ?_).mpr ⟨state, isState, amends, fits, ?_⟩
  · exact goesOn
  · unfold validateCoalescedCalls
    cases coalesces with
    | inl nothing => rw [nothing]; rfl
    | inr coalesced =>
      split
      · rfl
      · rw [coalesced.1, if_neg (by simp)]
        refine Eq.trans ?_ coalesced.2
        apply coalescedViolation_same <;> rfl

theorem goesOn_leads (leads : Leads recorder state splices after) (allFit : AllFit state splices)
    (goesOn : (replayOf operationId eventIds events).failed = none)
    (isState : (replayOf operationId eventIds events).context? = some state) :
    (replayOf operationId eventIds (events ++ splices.map ChatJournalEvent.context_spliced)).failed = none := by
  induction leads generalizing events with
  | nothing =>
    rw [List.map_nil, List.append_nil]
    exact goesOn
  | @splice state after splice later committed amends leads ih =>
    obtain ⟨fits, plain, laterFit⟩ := allFit
    have taken := goesOn_spliced goesOn isState amends fits (.inl plain)
    have next := ih laterFit taken (sound_spliced (fun _ => isState) splice taken)
    rwa [List.append_assoc, List.singleton_append] at next

/-- A rewritten result stands where a result of the same call stood. -/
theorem replaceToolResult_replaces {index : Nat} {message : ChatMessage} {toolCallId content : JsString}
    (isMessage : manager.messages[index]? = some message)
    (answers : isResultOf toolCallId message = true)
    (recorded : Recorded recorder manager index 1 [{ message with content := some (.text content) }] .tool_result_replaced manager.currentTurnStartIndex coalescedToolCallIds splice) :
    replacesResult splice manager.messages = true := by
  obtain ⟨inserted, others, same, nothing, isInserted⟩ := List.forall₂_cons_left_iff.mp (recorded.answers (by decide))
  cases nothing
  have isStart := recorded.startIndex
  have start : splice.startIndex = index := by omega
  rw [isResultOf, Bool.and_eq_true] at answers
  simp only [replacesResult, recorded.reason, recorded.deleteCount, isInserted, start, isMessage, List.length_singleton, List.head?_cons,
    ← same.1, ← same.2, answers.1, beq_self_eq_true, Bool.and_self]

theorem goesOn_mutate {mutation : Mutation} (goesOn : (replayOf operationId eventIds events).failed = none)
    (isState : (replayOf operationId eventIds events).context? = some manager.context)
    (inRange : InRange (replayOf operationId eventIds events) recorder manager mutation) :
    (replayOf operationId eventIds
      (events ++ (mutate recorder manager mutation).recorded.map ChatJournalEvent.context_spliced)).failed = none := by
  have bounded : manager.context.WellBounded := (replayed_measured _ _ isState).2
  by_cases replaces : ∃ toolCallId content coalescedToolCallIds, mutation = .replaceToolResult toolCallId content coalescedToolCallIds
  · obtain ⟨toolCallId, content, coalescedToolCallIds, rfl⟩ := replaces
    simp only [mutate]
    cases written : replaceToolResult recorder manager toolCallId content coalescedToolCallIds with
    | error failure =>
      simp only [outcomeOf, List.map_nil, List.append_nil]
      exact goesOn
    | ok result =>
      obtain ⟨index, message, isMessage, answers, recorded, _⟩ := replaceToolResult_ok written
      have within : index < manager.messages.length := (List.getElem?_eq_some_iff.mp isMessage).1
      have starts : manager.currentTurnStartIndex ≤ manager.messages.length := bounded
      have fits := fits_of_recorded recorded (by omega) (by simp only [List.length_singleton]; omega)
      apply goesOn_spliced goesOn isState recorded.amends fits
      right
      rw [recorded.coalescedToolCallIds]
      exact ⟨replaceToolResult_replaces isMessage answers recorded, inRange⟩
  · have keeps : ∀ toolCallId content coalescedToolCallIds, mutation ≠ .replaceToolResult toolCallId content coalescedToolCallIds :=
      fun toolCallId content coalescedToolCallIds same => replaces ⟨toolCallId, content, coalescedToolCallIds, same⟩
    exact goesOn_leads (mutate_leads recorder manager mutation) (mutate_allFit bounded inRange keeps) goesOn isState

/-! ## The contract -/

/-- What a replay asks of a step: a mutation in its place, and evidence that the replay takes. -/
def StepInRange (operationId : JsString) (eventIds : Nat → JsString) (run : LiveRun) : LiveStep → Prop
  | .create recorder options => ∀ userMessageId, recorder.userMessageId = .ok userMessageId →
      RevisedWithin (revise (recorder.readHistoryRevisions.drop recorder.historyRevision) (initialMessages userMessageId options)
        (priorMessages options))
  | .mutate recorder mutation => ∀ manager, run.manager = some manager →
      InRange (replayOf operationId eventIds run.events) recorder manager mutation
  | .record evidence => (replayOf operationId eventIds (run.events ++ [evidence.event])).failed = none

def AllInRange (operationId : JsString) (eventIds : Nat → JsString) (run : LiveRun) : List LiveStep → Prop
  | [] => True
  | step :: later => StepInRange operationId eventIds run step ∧ AllInRange operationId eventIds (run.step step) later

theorem goesOn_create {options : TranscriptOptions} {init : ChatContextInit}
    (created : TranscriptManager.create recorder options = .ok (init, manager))
    (goesOn : (replayOf operationId eventIds events).failed = none)
    (isNone : (replayOf operationId eventIds events).context? = none)
    (inRange : ∀ userMessageId, recorder.userMessageId = .ok userMessageId →
      RevisedWithin (revise (recorder.readHistoryRevisions.drop recorder.historyRevision)
      (initialMessages userMessageId options) (priorMessages options))) :
    (replayOf operationId eventIds (events ++ [.context_initialized init])).failed = none := by
  simp only [TranscriptManager.create, bind_eq_ok, pure_eq_ok] at created
  obtain ⟨userMessageId, isUser, ⟨messages, before⟩, isRevised, _, _, committed, isRecorded, isResult⟩ := created
  cases isResult
  obtain ⟨_, isZero, isBoundary, length⟩ := ChatContextRecorder.recordContextInitialized_ok isRecorded
  rw [replayOf, replayed_journalOf_concat goesOn]
  refine (initializeContext_ok ?_).mpr ⟨context?_eq_none.mp isNone, isZero, ?_⟩
  · exact goesOn
  · rw [isBoundary, length]
    exact inRange userMessageId isUser messages before isRevised

theorem goesOn_step {run : LiveRun} {step : LiveStep} (sound : Sound operationId eventIds run.events run.context)
    (goesOn : (replayOf operationId eventIds run.events).failed = none) (inRange : StepInRange operationId eventIds run step) :
    (replayOf operationId eventIds (run.step step).events).failed = none := by
  have isContext := sound goesOn
  cases step with
  | create recorder options =>
    simp only [LiveRun.step, LiveRun.create]
    split
    · exact goesOn
    next isNone =>
      split
      · exact goesOn
      next init manager created =>
        rw [LiveRun.context, isNone] at isContext
        exact goesOn_create created goesOn isContext inRange
  | mutate recorder mutation =>
    simp only [LiveRun.step, LiveRun.mutate]
    split
    · exact goesOn
    next manager isManager =>
      rw [LiveRun.context, isManager] at isContext
      exact goesOn_mutate goesOn isContext (inRange manager isManager)
  | record evidence => exact inRange

theorem goesOn_run {run : LiveRun} {steps : List LiveStep} (sound : Sound operationId eventIds run.events run.context)
    (goesOn : (replayOf operationId eventIds run.events).failed = none) (allInRange : AllInRange operationId eventIds run steps) :
    (replayOf operationId eventIds (Runs.run LiveRun.step run steps).events).failed = none := by
  induction steps generalizing run with
  | nil => exact goesOn
  | cons step later ih =>
    exact ih (sound_step sound step) (goesOn_step sound goesOn allInRange.1) allInRange.2

/-- The raw context of a finished replay: what it holds before interrupted calls are closed. -/
theorem finish_context {recovered : ChatRecoveredContext} {live : ContextState} (sound : Sound operationId eventIds events (some live))
    (isFinished : (replayOf operationId eventIds events).finish = .ok recovered) (isRecovered : recovered.status ≠ .recovery_failed) :
    recovered.messages.take (replayOf operationId eventIds events).rawContextLength = live.messages ∧
      recovered.contextRevision = live.contextRevision ∧ recovered.turnBoundary = live.turnBoundary := by
  obtain ⟨goesOn, ⟨unread, _⟩ | ⟨_, state, closed, _, isState, _, isMessages, isRevision, isBoundary, _⟩⟩ := finish_ok isFinished isRecovered
  · have isPlace := place_replayed goesOn
    have isContext := sound goesOn
    rw [place, Prod.mk.injEq] at isPlace
    cases events with
    | nil => cases isContext
    | cons event later =>
      rw [replayOf] at unread
      rw [unread] at isPlace
      cases isPlace.1
  · cases isState.symm.trans (sound goesOn)
    refine ⟨?_, isRevision, isBoundary⟩
    have measured : (replayOf operationId eventIds events).Measured := replayed_measured _
    rw [isMessages, (measured live isState).1, List.append_assoc, List.take_left]

theorem refused (leads : Leads recorder state splices after)
    (refuses : ∀ splice, recorder.commit (.context_spliced splice) ≠ .ok ()) : splices = [] ∧ after = state := by
  cases leads with
  | nothing => exact ⟨rfl, rfl⟩
  | splice committed _ _ => exact absurd committed (refuses _)

end

/-- Replaying what a run recorded gives its live messages, revision and turn boundary, or fails with a named issue; it goes on when
every step is in range.  And the live context changes by the splices that were committed, and by nothing else. -/
theorem replay_reproduces_transcript (operationId : JsString) (eventIds : Nat → JsString) (steps : List LiveStep) :
    let run := Runs.run LiveRun.step LiveRun.start steps
    let replay := replayOf operationId eventIds run.events
    (replay.failed = none → replay.context? = run.context) ∧
      (AllInRange operationId eventIds LiveRun.start steps → replay.failed = none) ∧
      (∀ recoveryIssue, replay.failed = some recoveryIssue → replay.finish = .ok (failure recoveryIssue)) ∧
      (∀ recovered live, replay.finish = .ok recovered → recovered.status ≠ .recovery_failed → run.context = some live →
        recovered.messages.take replay.rawContextLength = live.messages ∧ recovered.contextRevision = live.contextRevision ∧
          recovered.turnBoundary = live.turnBoundary) ∧
      ∀ recorder manager mutation,
        let outcome := TranscriptManager.mutate recorder manager mutation
        Leads recorder manager.context outcome.recorded outcome.manager.context ∧
          ((∀ splice, recorder.commit (.context_spliced splice) ≠ .ok ()) →
            outcome.recorded = [] ∧ outcome.manager.context = manager.context) := by
  have startSound : Sound operationId eventIds LiveRun.start.events LiveRun.start.context := fun _ => rfl
  have sound := run_invariant (fun run : LiveRun => Sound operationId eventIds run.events run.context) (fun run step isSound => sound_step isSound step)
    startSound steps
  refine ⟨sound, fun allInRange => goesOn_run startSound rfl allInRange, ?_, ?_, ?_⟩
  · intro recoveryIssue hasFailed
    rw [ChatContextReplay.finish, hasFailed]
  · intro recovered live isFinished isRecovered isLive
    rw [isLive] at sound
    exact finish_context sound isFinished isRecovered
  · intro recorder manager mutation
    have leads := mutate_leads recorder manager mutation
    exact ⟨leads, refused leads⟩

/-! ## A mutation past the end -/

/-- A recorder that takes every event. -/
def plainRecorder : ChatContextRecorder where
  userMessageId := .ok (utf16 "user-1")
  messageIdPrefix := utf16 "stopped-run"
  resolveAssistantMessageId := fun _ => utf16 "answer"
  resolveToolMessageId := fun id => some id
  historyRevision := 0
  readHistoryRevisions := []
  images := ⟨[], fun _ => [], fun text => text⟩
  commit := fun _ => .ok ()

def plainOptions : TranscriptOptions := ⟨utf16 "prompt", [], utf16 "question", [], [], none, []⟩

/-- An image is inserted behind a message that there is not: the array takes it at its end. -/
def pastTheEnd : LiveRun := Runs.run LiveRun.step LiveRun.start [
  .create plainRecorder plainOptions,
  .mutate plainRecorder (.insertUserAfter 5 (utf16 "image") [] (utf16 "a.png") (utf16 "call"))]

/-- The live transcript shows three messages, and its replay fails. -/
theorem replay_refuses_past_the_end :
    let replay := replayOf (utf16 "run") (fun index => utf16 s!"event {index}") pastTheEnd.events
    pastTheEnd.context.map (fun live => live.messages.length) = some 3 ∧ replay.context? ≠ pastTheEnd.context ∧
      replay.finish.toOption.map (fun recovered => (recovered.status, recovered.messages)) = some (.recovery_failed, []) := by
  decide +kernel

end SiftKit.Chat
