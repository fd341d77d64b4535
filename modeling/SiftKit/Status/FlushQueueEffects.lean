import SiftKit.Status.FlushQueue

/-! # What the calls of the flush queue change

A pass of a drain leaves the text alone until it takes the text of one run, as the last batch; settling
changes nothing but the outcome of the drain and the fate of its batch.
-/

namespace SiftKit.Status.Flush

open SiftKit.Tables

section

variable {Letter : Type}

/-! ## Texts of batches -/

def isHanded (runId : String) (batch : Batch Letter) : Bool :=
  batch.runId == runId && batch.fate != .putBack

def isWritten (runId : String) (batch : Batch Letter) : Bool :=
  batch.runId == runId && batch.written

/-- The text of some batches, in the order in which they left the buffer. -/
def batchesText (selects : Batch Letter → Bool) (batches : List (Batch Letter)) (streamKind : InferenceRunStreamKind) :
    List Letter :=
  (batches.filter selects).flatMap fun batch => entriesText batch.entries streamKind

def bufferedText (buffered : List (BufferedChunk Letter)) (runId : String) (streamKind : InferenceRunStreamKind) :
    List Letter :=
  (buffered.filter fun chunk => chunk.runId == runId && chunk.streamKind == streamKind).flatMap fun chunk => chunk.chunkText

theorem batchesText_append (selects : Batch Letter → Bool) (early late : List (Batch Letter))
    (streamKind : InferenceRunStreamKind) :
    batchesText selects (early ++ late) streamKind =
      batchesText selects early streamKind ++ batchesText selects late streamKind := by
  simp [batchesText]

theorem batchesText_single (selects : Batch Letter → Bool) (batch : Batch Letter) (streamKind : InferenceRunStreamKind) :
    batchesText selects [batch] streamKind = if selects batch then entriesText batch.entries streamKind else [] := by
  by_cases selected : selects batch
  · simp [batchesText, selected]
  · simp [batchesText, selected]

theorem batchesText_between (selects : Batch Letter → Bool) (before behind : List (Batch Letter)) (batch : Batch Letter)
    (streamKind : InferenceRunStreamKind) :
    batchesText selects (before ++ batch :: behind) streamKind = batchesText selects before streamKind ++
      ((if selects batch then entriesText batch.entries streamKind else []) ++ batchesText selects behind streamKind) := by
  rw [← batchesText_single, ← batchesText_append, ← batchesText_append]
  rfl

theorem batchesText_of_none {selects : Batch Letter → Bool} {batches : List (Batch Letter)}
    (none : ∀ batch ∈ batches, selects batch = false) (streamKind : InferenceRunStreamKind) :
    batchesText selects batches streamKind = [] := by
  have empty : batches.filter selects = [] := by
    rw [List.filter_eq_nil_iff]
    intro batch member
    simp [none batch member]
  simp [batchesText, empty]

theorem bufferedText_append (early late : List (BufferedChunk Letter)) (runId : String)
    (streamKind : InferenceRunStreamKind) :
    bufferedText (early ++ late) runId streamKind = bufferedText early runId streamKind ++ bufferedText late runId streamKind := by
  simp [bufferedText]

/-! ## Taking text -/

/-- No item of the queue carries a batch of its own. -/
def ItemsEmpty (state : FlushState Letter) : Prop :=
  ∀ runId item, state.pendingByRunId runId = some item → item.entries = none

/-- What is stored, buffered and awaited is the same. -/
structure SameText (before after : FlushState Letter) : Prop where
  rows : after.rows = before.rows
  worker : after.worker = before.worker
  listeners : after.listeners = before.listeners
  batches : after.batches = before.batches
  buffered : after.buffered = before.buffered
  nextWorkerMessageId : after.nextWorkerMessageId = before.nextWorkerMessageId
  items : ItemsEmpty before → ItemsEmpty after

/-- The same, with the same text pending. -/
structure Quiet (before after : FlushState Letter) : Prop extends SameText before after where
  pending : ∀ runId streamKind,
    pendingText after.pendingChunks runId streamKind = pendingText before.pendingChunks runId streamKind

/-- The pending text of a run is taken out. -/
structure Takes (before taken : FlushState Letter) (runId : String) (entries : List (LogEntry Letter)) : Prop
    extends SameText before taken where
  text : ∀ streamKind, entriesText entries streamKind = pendingText before.pendingChunks runId streamKind
  pending : ∀ otherId streamKind, pendingText taken.pendingChunks otherId streamKind =
    if otherId = runId then [] else pendingText before.pendingChunks otherId streamKind

theorem SameText.refl (state : FlushState Letter) : SameText state state :=
  ⟨rfl, rfl, rfl, rfl, rfl, rfl, fun items => items⟩

theorem SameText.trans {before between after : FlushState Letter} (early : SameText before between)
    (late : SameText between after) : SameText before after where
  rows := late.rows.trans early.rows
  worker := late.worker.trans early.worker
  listeners := late.listeners.trans early.listeners
  batches := late.batches.trans early.batches
  buffered := late.buffered.trans early.buffered
  nextWorkerMessageId := late.nextWorkerMessageId.trans early.nextWorkerMessageId
  items := fun items => late.items (early.items items)

theorem Quiet.refl (state : FlushState Letter) : Quiet state state :=
  ⟨SameText.refl state, fun _ _ => rfl⟩

theorem Quiet.trans {before between after : FlushState Letter} (early : Quiet before between) (late : Quiet between after) :
    Quiet before after :=
  ⟨early.toSameText.trans late.toSameText,
    fun runId streamKind => (late.pending runId streamKind).trans (early.pending runId streamKind)⟩

theorem Quiet.takes {before between taken : FlushState Letter} {runId : String} {entries : List (LogEntry Letter)}
    (early : Quiet before between) (late : Takes between taken runId entries) : Takes before taken runId entries where
  toSameText := early.toSameText.trans late.toSameText
  text := fun streamKind => (late.text streamKind).trans (early.pending runId streamKind)
  pending := fun otherId streamKind => by rw [late.pending otherId streamKind, early.pending otherId streamKind]

theorem Takes.quiet {before taken : FlushState Letter} {runId : String} (takes : Takes before taken runId []) :
    Quiet before taken where
  toSameText := takes.toSameText
  pending := fun otherId streamKind => by
    rw [takes.pending otherId streamKind]
    split
    next same =>
      have empty := takes.text streamKind
      rw [entriesText_nil] at empty
      rw [same, ← empty]
    · rfl

variable {state : FlushState Letter}

theorem ItemsEmpty.update {after : FlushState Letter} {runId : String} {item : Option (FlushItem Letter)}
    (items : ItemsEmpty state) (isEmpty : ∀ set, item = some set → set.entries = none)
    (updated : after.pendingByRunId = Function.update state.pendingByRunId runId item) : ItemsEmpty after := by
  intro otherId found isFound
  rw [updated] at isFound
  by_cases same : otherId = runId
  · rw [same, Function.update_self] at isFound
    exact isEmpty found isFound
  · rw [Function.update_of_ne same] at isFound
    exact items otherId found isFound

theorem takeItem_takes {runId : String} {rest : List String} {item : FlushItem Letter}
    (isEmpty : item.entries = none) :
    Takes state (state.takeItem runId rest item).2 runId (state.takeItem runId rest item).1 := by
  unfold FlushState.takeItem
  simp only [isEmpty]
  cases consumed : consumeInferenceRunPendingLogChunks state.pendingChunks runId with
  | mk entries pendingChunks =>
    exact {
      rows := rfl
      worker := rfl
      listeners := rfl
      batches := rfl
      buffered := rfl
      nextWorkerMessageId := rfl
      items := fun items => @ItemsEmpty.update _ state _ runId none items (fun _ absent => nomatch absent) rfl
      text := fun streamKind => (consume_text consumed streamKind).1
      pending := fun otherId streamKind => (consume_text consumed streamKind).2 otherId }

theorem drainLoop_cases (config : FlushConfig) (deadlineMs : Option Int) (startFails : Bool) (order : List String)
    (items : ItemsEmpty state) :
    (Quiet state (state.drainLoop config deadlineMs startFails order) ∧
        (state.drainLoop config deadlineMs startFails order).drain = none) ∨
      ∃ runId item entries taken, Takes state taken runId entries ∧
        state.drainLoop config deadlineMs startFails order =
          taken.flushBatch runId item entries deadlineMs startFails := by
  induction order generalizing state with
  | nil => exact .inl ⟨⟨⟨rfl, rfl, rfl, rfl, rfl, rfl, fun items => items⟩, fun _ _ => rfl⟩, rfl⟩
  | cons nextRunId rest ih =>
    -- what the rest of the queue does after a quiet change, it does from here
    have onward {between : FlushState Letter} (quiet : Quiet state between) :
        (Quiet state (between.drainLoop config deadlineMs startFails rest) ∧
            (between.drainLoop config deadlineMs startFails rest).drain = none) ∨
          ∃ runId item entries taken, Takes state taken runId entries ∧
            between.drainLoop config deadlineMs startFails rest =
              taken.flushBatch runId item entries deadlineMs startFails := by
      rcases ih (quiet.items items) with ⟨later, isOver⟩ | ⟨runId, item, entries, taken, takes, result⟩
      · exact .inl ⟨quiet.trans later, isOver⟩
      · exact .inr ⟨runId, item, entries, taken, quiet.takes takes, result⟩
    unfold FlushState.drainLoop
    split
    · -- past the deadline the drain fails
      left
      unfold FlushState.failDrain
      split <;> exact ⟨⟨⟨rfl, rfl, rfl, rfl, rfl, rfl, fun items => items⟩, fun _ _ => rfl⟩, rfl⟩
    · split
      · exact onward (Quiet.refl state)
      next item found =>
        simp only
        split
        · -- the buffer drained meanwhile: the item is stale
          apply onward
          exact ⟨⟨rfl, rfl, rfl, rfl, rfl, rfl,
            fun items => @ItemsEmpty.update _ state _ nextRunId none items (fun _ absent => nomatch absent) rfl⟩,
            fun _ _ => rfl⟩
        · split
          · exact .inl ⟨⟨⟨rfl, rfl, rfl, rfl, rfl, rfl, fun items => items⟩, fun _ _ => rfl⟩, rfl⟩
          · have takes := @takeItem_takes Letter state nextRunId rest item (items nextRunId item found)
            cases taken : state.takeItem nextRunId rest item with
            | mk entries after =>
              rw [taken] at takes
              simp only
              split
              next isEmpty =>
                rw [List.isEmpty_iff] at isEmpty
                subst isEmpty
                exact onward takes.quiet
              · exact .inr ⟨nextRunId, item, entries, after, takes, rfl⟩

/-- A batch is posted to the worker, or to a new one. -/
structure Posts (before : FlushState Letter) (drain : Drain Letter) (worker : Worker Letter) (after : FlushState Letter) :
    Prop where
  origin : before.worker = some worker ∨ ∃ number, worker = { number, alive := true, inbox := [], outbox := [] }
  rows : after.rows = before.rows
  batches : after.batches = before.batches
  buffered : after.buffered = before.buffered
  nextWorkerMessageId : after.nextWorkerMessageId = before.nextWorkerMessageId
  pendingByRunId : after.pendingByRunId = before.pendingByRunId
  pendingChunks : after.pendingChunks = before.pendingChunks
  posted : after.worker =
    some (FlushState.Worker.post worker { id := drain.messageId, runId := drain.runId, entries := drain.entries })
  listeners : after.listeners =
    before.listeners ++ [{ worker := worker.number, messageId := drain.messageId, acknowledgementExpired := false }]
  drain : after.drain = some drain

theorem postBatch_posts (state : FlushState Letter) (drain : Drain Letter) :
    ∃ worker, Posts state drain worker (state.postBatch drain) := by
  unfold FlushState.postBatch FlushState.withWorker
  cases present : state.worker with
  | some worker => exact ⟨worker, .inl present, rfl, rfl, rfl, rfl, rfl, rfl, rfl, rfl, rfl⟩
  | none => exact ⟨_, .inr ⟨state.nextWorkerNumber, rfl⟩, rfl, rfl, rfl, rfl, rfl, rfl, rfl, rfl, rfl⟩

@[simp] theorem post_number (worker : Worker Letter) (request : FlushRequest Letter) :
    (FlushState.Worker.post worker request).number = worker.number := by
  unfold FlushState.Worker.post
  split <;> rfl

/-! ## Settling -/

/-- What becomes of the batch of a promise that settles so. -/
def FlushOutcome.fate : FlushOutcome → BatchFate
  | .acknowledged => .acknowledged
  | .rejected _ => .inFlight
  | .timedOut => .abandoned

/-- Nothing differs but the outcome of the drain, the fate of a batch, and who runs. -/
structure Framed (before after : FlushState Letter) : Prop where
  rows : after.rows = before.rows
  worker : after.worker = before.worker
  listeners : after.listeners = before.listeners
  buffered : after.buffered = before.buffered
  nextWorkerMessageId : after.nextWorkerMessageId = before.nextWorkerMessageId
  pendingByRunId : after.pendingByRunId = before.pendingByRunId
  pendingChunks : after.pendingChunks = before.pendingChunks

theorem Framed.refl (state : FlushState Letter) : Framed state state :=
  ⟨rfl, rfl, rfl, rfl, rfl, rfl, rfl⟩

theorem Framed.trans {before between after : FlushState Letter} (early : Framed before between)
    (late : Framed between after) : Framed before after where
  rows := late.rows.trans early.rows
  worker := late.worker.trans early.worker
  listeners := late.listeners.trans early.listeners
  buffered := late.buffered.trans early.buffered
  nextWorkerMessageId := late.nextWorkerMessageId.trans early.nextWorkerMessageId
  pendingByRunId := late.pendingByRunId.trans early.pendingByRunId
  pendingChunks := late.pendingChunks.trans early.pendingChunks

structure LastBatch (batches : List (Batch Letter)) (drain : Drain Letter) (earlier : List (Batch Letter))
    (batch : Batch Letter) : Prop where
  batches : batches = earlier ++ [batch]
  before : ∀ other ∈ earlier, other.id < batch.id
  id : batch.id = drain.messageId
  runId : batch.runId = drain.runId
  entries : batch.entries = drain.entries

section

variable {state : FlushState Letter} {drain : Drain Letter} {earlier : List (Batch Letter)} {batch : Batch Letter}

theorem LastBatch.setFate (last : LastBatch state.batches drain earlier batch) (fate : BatchFate) :
    (state.setFate drain.messageId fate).batches = earlier ++ [{ batch with fate }] := by
  have others : ∀ other ∈ earlier, (other.id == drain.messageId) = false := by
    intro other member
    have less := last.before other member
    rw [last.id] at less
    simpa using Nat.ne_of_lt less
  have selected : (batch.id == drain.messageId) = true := by simp [last.id]
  show updateWhere _ _ state.batches = _
  rw [last.batches]
  exact updateWhere_between selected others fun _ absent => nomatch absent

/-- The drain's promise settled so. -/
structure Settles (state : FlushState Letter) (drain : Drain Letter) (earlier : List (Batch Letter)) (batch : Batch Letter)
    (outcome : FlushOutcome) (after : FlushState Letter) : Prop extends Framed state after where
  drain : after.drain = some { drain with outcome := some outcome }
  batches : after.batches = earlier ++ [{ batch with fate := outcome.fate }]

theorem settle_settles (isDraining : state.drain = some drain) (awaits : drain.outcome = none)
    (last : LastBatch state.batches drain earlier batch) (inFlight : batch.fate = .inFlight) (outcome : FlushOutcome) :
    Settles state drain earlier batch outcome (state.settle drain.messageId outcome) := by
  unfold FlushState.settle
  simp only [isDraining, awaits, and_self, if_true]
  have settled := fun fate => @LastBatch.setFate Letter
    { state with drain := some { drain with outcome := some outcome } } drain earlier batch last fate
  cases outcome with
  | acknowledged => exact ⟨⟨rfl, rfl, rfl, rfl, rfl, rfl, rfl⟩, rfl, settled .acknowledged⟩
  | timedOut => exact ⟨⟨rfl, rfl, rfl, rfl, rfl, rfl, rfl⟩, rfl, settled .abandoned⟩
  | rejected message =>
    refine ⟨⟨rfl, rfl, rfl, rfl, rfl, rfl, rfl⟩, rfl, ?_⟩
    show state.batches = _
    rw [last.batches, FlushOutcome.fate, ← inFlight]

theorem settle_settled (settled : ∀ drain, state.drain = some drain → drain.outcome ≠ none) (messageId : Nat)
    (outcome : FlushOutcome) : state.settle messageId outcome = state := by
  unfold FlushState.settle
  split
  · rfl
  next drain isDraining => simp [settled drain isDraining]

theorem settle_other {messageId : Nat} (other : ∀ drain, state.drain = some drain → drain.messageId ≠ messageId)
    (outcome : FlushOutcome) : state.settle messageId outcome = state := by
  unfold FlushState.settle
  split
  · rfl
  next drain isDraining => simp [other drain isDraining]

theorem releaseAbandonedRun_framed (messageId : Nat) :
    Framed state (state.releaseAbandonedRun messageId) ∧ (state.releaseAbandonedRun messageId).drain = state.drain ∧
      (state.releaseAbandonedRun messageId).batches = state.batches := by
  unfold FlushState.releaseAbandonedRun
  split
  · exact ⟨⟨rfl, rfl, rfl, rfl, rfl, rfl, rfl⟩, rfl, rfl⟩
  · exact ⟨Framed.refl state, rfl, rfl⟩

end

theorem hear_settled (outcome : FlushOutcome) (listeners : List Listener) (state : FlushState Letter)
    (settled : ∀ drain, state.drain = some drain → drain.outcome ≠ none) :
    let heard := listeners.foldl (fun state listener => state.hear outcome listener) state
    Framed state heard ∧ heard.drain = state.drain ∧ heard.batches = state.batches := by
  induction listeners generalizing state with
  | nil => exact ⟨Framed.refl state, rfl, rfl⟩
  | cons listener rest ih =>
    have first : Framed state (state.hear outcome listener) ∧ (state.hear outcome listener).drain = state.drain ∧
        (state.hear outcome listener).batches = state.batches := by
      unfold FlushState.hear
      split
      · exact releaseAbandonedRun_framed listener.messageId
      · rw [settle_settled settled]
        exact ⟨Framed.refl state, rfl, rfl⟩
    have later := ih (state.hear outcome listener) (by rw [first.2.1]; exact settled)
    rw [List.foldl_cons]
    exact ⟨first.1.trans later.1, later.2.1.trans first.2.1, later.2.2.trans first.2.2⟩

/-- A listener that stands for the batch. -/
def Listener.awaits (listener : Listener) (messageId : Nat) : Prop :=
  listener.acknowledgementExpired = false ∧ listener.messageId = messageId

theorem hear_awaiting (outcome : FlushOutcome) (listeners : List Listener) {drain : Drain Letter}
    {earlier : List (Batch Letter)} {batch : Batch Letter} (isDraining : state.drain = some drain)
    (awaits : drain.outcome = none) (last : LastBatch state.batches drain earlier batch)
    (inFlight : batch.fate = .inFlight) :
    let heard := listeners.foldl (fun state listener => state.hear outcome listener) state
    ((∃ listener ∈ listeners, listener.awaits drain.messageId) ∧ Settles state drain earlier batch outcome heard) ∨
      ((∀ listener ∈ listeners, ¬ listener.awaits drain.messageId) ∧
        Framed state heard ∧ heard.drain = state.drain ∧ heard.batches = state.batches) := by
  induction listeners generalizing state with
  | nil => exact .inr ⟨by simp, Framed.refl state, rfl, rfl⟩
  | cons listener rest ih =>
    simp only [List.foldl_cons]
    by_cases stands : listener.awaits drain.messageId
    · have settles := settle_settles isDraining awaits last inFlight outcome
      have heard : state.hear outcome listener = state.settle drain.messageId outcome := by
        simp [FlushState.hear, stands.1, stands.2]
      have later := hear_settled outcome rest (state.settle drain.messageId outcome) (by
        intro other isOther
        rw [settles.drain] at isOther
        cases isOther
        simp)
      rw [heard]
      refine .inl ⟨⟨listener, List.mem_cons_self, stands⟩, settles.toFramed.trans later.1, ?_, ?_⟩
      · exact later.2.1.trans settles.drain
      · exact later.2.2.trans settles.batches
    · -- it releases who runs, or is about another batch
      have first : Framed state (state.hear outcome listener) ∧ (state.hear outcome listener).drain = state.drain ∧
          (state.hear outcome listener).batches = state.batches := by
        unfold FlushState.hear
        split
        · exact releaseAbandonedRun_framed listener.messageId
        next unexpired =>
          rw [settle_other]
          · exact ⟨Framed.refl state, rfl, rfl⟩
          · intro other isOther same
            rw [isDraining] at isOther
            cases isOther
            exact stands ⟨by simpa using unexpired, same.symm⟩
      have later := @ih (state.hear outcome listener) (first.2.1.trans isDraining)
        (by rw [first.2.2]; exact last)
      rcases later with ⟨⟨found, member, isFound⟩, settles⟩ | ⟨none, framed, sameDrain, sameBatches⟩
      · exact .inl ⟨⟨found, List.mem_cons_of_mem _ member, isFound⟩, first.1.trans settles.toFramed, settles.drain,
          settles.batches⟩
      · refine .inr ⟨?_, first.1.trans framed, sameDrain.trans first.2.1, sameBatches.trans first.2.2⟩
        intro other member
        rcases List.mem_cons.mp member with rfl | member
        · exact stands
        · exact none other member

end

end SiftKit.Status.Flush
