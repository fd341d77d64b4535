import SiftKit.Status.FlushWorker

/-! # Log text of inference runs is stored once

The text of a run is in its rows, in the batches that left the buffer, and in the buffer.  A batch whose
transaction is rejected goes back to the buffer behind what was buffered meanwhile, which is where the
order is lost.  A worker takes its batches in the order of their message ids, and a promise settles only by
the answer to its own batch or by the end of its worker.
-/

namespace SiftKit.Status.Flush

open SiftKit.Tables

section

variable {Letter : Type}

/-! ## The statement -/

/-- The text of every stream is in order: the batches that left the buffer for good, then what is pending. -/
def InOrder (state : FlushState Letter) : Prop :=
  ∀ runId streamKind, bufferedText state.buffered runId streamKind =
    batchesText (isHanded runId) state.batches streamKind ++ pendingText state.pendingChunks runId streamKind

/-- Every chunk is stored once, and in order. -/
structure StoredOnce (state : FlushState Letter) : Prop where
  inOrder : InOrder state
  /-- What is persisted is the text of the written batches, each once. -/
  persisted : ∀ runId streamKind,
    persistedText state.rows runId streamKind = batchesText (isWritten runId) state.batches streamKind
  distinct : (state.batches.map fun batch => batch.id).Nodup
  /-- What is acknowledged is written, and what went back to the buffer is not. -/
  acknowledged : ∀ batch ∈ state.batches, batch.fate = .acknowledged → batch.written = true
  putBack : ∀ batch ∈ state.batches, batch.fate = .putBack → batch.written = false
  /-- Only the batch of the current drain is undecided. -/
  inFlight : ∀ batch ∈ state.batches, batch.fate = .inFlight → ∃ drain, state.drain = some drain ∧ drain.messageId = batch.id

/-- A rejected batch goes back in front of nothing: what was buffered for its streams meanwhile reads the same behind it
and before it. -/
def RestoresInPlace (state : FlushState Letter) (event : FlushEvent Letter) : Prop :=
  match event.call, state.drain with
  | .resume _, some drain =>
    ∀ message, drain.outcome = some (.rejected message) → ∀ streamKind,
      entriesText drain.entries streamKind ++ pendingText state.pendingChunks drain.runId streamKind =
        pendingText state.pendingChunks drain.runId streamKind ++ entriesText drain.entries streamKind
  | _, _ => True

/-! ## Consistency -/

/-- What is stored agrees with the batches. -/
structure Recorded (state : FlushState Letter) : Prop where
  inSequence : InSequence state.rows
  persisted : ∀ runId streamKind,
    persistedText state.rows runId streamKind = batchesText (isWritten runId) state.batches streamKind
  ascending : state.batches.Pairwise fun early late => early.id < late.id
  numbered : ∀ batch ∈ state.batches, batch.id < state.nextWorkerMessageId
  acknowledged : ∀ batch ∈ state.batches, batch.fate = .acknowledged → batch.written = true
  putBack : ∀ batch ∈ state.batches, batch.fate = .putBack → batch.written = false
  items : ItemsEmpty state
  worker : ∀ worker, state.worker = some worker → WorkerAgrees state.nextWorkerMessageId state.batches worker

/-- A worker has a batch in hand, or has answered it. -/
def Mentions (worker : Worker Letter) (id : Nat) : Prop :=
  (∃ request ∈ worker.inbox, request.id = id) ∨ ∃ ok message, WorkerEvent.answered id ok message ∈ worker.outbox

/-- How far the batch of a drain is. -/
def OutcomeAgrees (state : FlushState Letter) (drain : Drain Letter) (batch : Batch Letter) : Prop :=
  match drain.outcome with
  | none => batch.fate = .inFlight ∧
      (batch.written = true → ∃ worker, state.worker = some worker ∧
        ∃ message, WorkerEvent.answered drain.messageId true message ∈ worker.outbox) ∧
      ∀ worker, state.worker = some worker → Mentions worker drain.messageId →
        ∃ listener ∈ state.listeners, listener.worker = worker.number ∧ listener.awaits drain.messageId
  | some .acknowledged => batch.fate = .acknowledged
  | some (.rejected _) => batch.fate = .inFlight ∧ batch.written = false ∧
      ∀ worker, state.worker = some worker → ∀ request ∈ worker.inbox, request.id ≠ drain.messageId
  | some .timedOut => batch.fate = .abandoned

/-- What is awaited agrees with the batches. -/
structure Awaited (state : FlushState Letter) : Prop where
  inFlight : ∀ batch ∈ state.batches, batch.fate = .inFlight → ∃ drain, state.drain = some drain ∧ drain.messageId = batch.id
  drain : ∀ drain, state.drain = some drain →
    ∃ earlier batch, LastBatch state.batches drain earlier batch ∧ OutcomeAgrees state drain batch

structure Consistent (state : FlushState Letter) : Prop where
  recorded : Recorded state
  awaited : Awaited state

theorem consistent_opened (nowMs : Int) : Consistent (FlushState.opened nowMs : FlushState Letter) := by
  constructor
  · constructor <;> simp [FlushState.opened, InSequence, ItemsEmpty, persistedText, batchesText, orderBy]
  · constructor <;> simp [FlushState.opened]

section

variable {state after : FlushState Letter}

/-- No batch is undecided. -/
def Decided (state : FlushState Letter) : Prop :=
  ∀ batch ∈ state.batches, batch.fate ≠ .inFlight

theorem Awaited.decided (awaited : Awaited state) (idle : state.drain = none) : Decided state := by
  intro batch member inFlight
  obtain ⟨drain, isDraining, _⟩ := awaited.inFlight batch member inFlight
  rw [idle] at isDraining
  cases isDraining

theorem Decided.awaited (decided : Decided state) (idle : state.drain = none) : Awaited state where
  inFlight := fun batch member inFlight => absurd inFlight (decided batch member)
  drain := fun drain isDraining => by
    rw [idle] at isDraining
    cases isDraining

theorem Awaited.earlier_decided (awaited : Awaited state) {drain : Drain Letter} (isDraining : state.drain = some drain)
    {earlier : List (Batch Letter)} {batch : Batch Letter} (last : LastBatch state.batches drain earlier batch) :
    ∀ other ∈ earlier, other.fate ≠ .inFlight := by
  intro other member inFlight
  obtain ⟨current, isCurrent, sameId⟩ := awaited.inFlight other (by simp [last.batches, member]) inFlight
  rw [isDraining] at isCurrent
  cases isCurrent
  have less := last.before other member
  rw [last.id] at less
  omega

theorem Recorded.same (recorded : Recorded state) (rows : after.rows = state.rows) (worker : after.worker = state.worker)
    (batches : after.batches = state.batches) (nextId : after.nextWorkerMessageId = state.nextWorkerMessageId)
    (items : ItemsEmpty after) : Recorded after where
  inSequence := by rw [rows]; exact recorded.inSequence
  persisted := by rw [rows, batches]; exact recorded.persisted
  ascending := by rw [batches]; exact recorded.ascending
  numbered := by rw [batches, nextId]; exact recorded.numbered
  acknowledged := by rw [batches]; exact recorded.acknowledged
  putBack := by rw [batches]; exact recorded.putBack
  items
  worker := by rw [worker, nextId, batches]; exact recorded.worker

theorem SameText.recorded (same : SameText state after) (recorded : Recorded state) : Recorded after :=
  recorded.same same.rows same.worker same.batches same.nextWorkerMessageId (same.items recorded.items)

theorem Recorded.snoc (recorded : Recorded state) {batch : Batch Letter} (isNext : batch.id = state.nextWorkerMessageId)
    (unwritten : batch.written = false) (fate : batch.fate ≠ .acknowledged) (rows : after.rows = state.rows)
    (batches : after.batches = state.batches ++ [batch]) (nextId : after.nextWorkerMessageId = state.nextWorkerMessageId + 1)
    (items : ItemsEmpty after)
    (worker : ∀ worker, after.worker = some worker → WorkerAgrees after.nextWorkerMessageId after.batches worker) :
    Recorded after where
  inSequence := by rw [rows]; exact recorded.inSequence
  persisted := by
    intro runId streamKind
    rw [rows, batches, batchesText_append, batchesText_single, recorded.persisted runId streamKind]
    simp [isWritten, unwritten]
  ascending := by
    rw [batches, List.pairwise_append]
    refine ⟨recorded.ascending, List.pairwise_singleton _ _, ?_⟩
    intro early isEarly late isLate
    rw [List.mem_singleton.mp isLate, isNext]
    exact recorded.numbered early isEarly
  numbered := by
    rw [batches, nextId]
    exact forall_mem_snoc.mpr ⟨fun other old => Nat.lt_succ_of_lt (recorded.numbered other old), by omega⟩
  acknowledged := by
    rw [batches]
    exact forall_mem_snoc.mpr ⟨recorded.acknowledged, fun isAcknowledged => absurd isAcknowledged fate⟩
  putBack := by
    rw [batches]
    exact forall_mem_snoc.mpr ⟨recorded.putBack, fun _ => unwritten⟩
  items
  worker

theorem Recorded.retag (recorded : Recorded state) {drain : Drain Letter} {earlier : List (Batch Letter)}
    {batch : Batch Letter} (last : LastBatch state.batches drain earlier batch) {fate : BatchFate}
    (acknowledged : fate = .acknowledged → batch.written = true)
    (putBack : fate = .putBack → batch.written = false ∧
      ∀ worker, state.worker = some worker → ∀ request ∈ worker.inbox, request.id ≠ drain.messageId)
    (rows : after.rows = state.rows) (worker : after.worker = state.worker)
    (batches : after.batches = earlier ++ [{ batch with fate }])
    (nextId : after.nextWorkerMessageId = state.nextWorkerMessageId) (items : ItemsEmpty after) : Recorded after where
  inSequence := by rw [rows]; exact recorded.inSequence
  persisted := by
    intro runId streamKind
    rw [rows, batches, recorded.persisted runId streamKind, last.batches, batchesText_append, batchesText_append,
      batchesText_single, batchesText_single]
    rfl
  ascending := by
    have ascending := recorded.ascending
    rw [last.batches, List.pairwise_append] at ascending
    rw [batches, List.pairwise_append]
    exact ⟨ascending.1, List.pairwise_singleton _ _, by simpa using ascending.2.2⟩
  numbered := by
    have numbered := recorded.numbered
    rw [last.batches, forall_mem_snoc] at numbered
    rw [batches, nextId]
    exact forall_mem_snoc.mpr ⟨numbered.1, numbered.2⟩
  acknowledged := by
    rw [batches]
    exact forall_mem_snoc.mpr ⟨fun other old => recorded.acknowledged other (by simp [last.batches, old]), acknowledged⟩
  putBack := by
    rw [batches]
    exact forall_mem_snoc.mpr ⟨fun other old => recorded.putBack other (by simp [last.batches, old]),
      fun isPutBack => (putBack isPutBack).1⟩
  items
  worker := by
    intro current isWorker
    rw [worker] at isWorker
    have agrees := recorded.worker current isWorker
    rw [last.batches] at agrees
    rw [nextId, batches]
    apply agrees.retag
    intro isPutBack request member
    rw [last.id]
    exact (putBack isPutBack).2 current isWorker request member

end

/-! ## A drain -/

/-- A change leaves a consistent state, and the text in order. -/
def Keeps (before after : FlushState Letter) : Prop :=
  Consistent after ∧ (InOrder before → InOrder after)

section

variable {state : FlushState Letter}

theorem Consistent.keeps (consistent : Consistent state) : Keeps state state :=
  ⟨consistent, fun inOrder => inOrder⟩

variable {batch : Batch Letter} {earlier : List (Batch Letter)}

theorem retry_batches {drain : Drain Letter}
    (last : LastBatch state.batches drain earlier batch) :
    (state.retry drain).batches = earlier ++ [{ batch with fate := .putBack }] :=
  @LastBatch.setFate Letter { state with
      drain := none
      runningRunId := none
      runningMessageId := none
      pendingChunks := restoreInferenceRunPendingLogChunks state.pendingChunks drain.runId drain.entries
      failedCount := state.failedCount + 1
      pendingByRunId := Function.update state.pendingByRunId drain.runId
        (some { drain.item with attempts := drain.item.attempts + 1, entries := none })
      pendingOrder := state.pendingOrder ++ [drain.runId]
      scheduled := true } drain earlier batch last .putBack

theorem retry_items (items : ItemsEmpty state) (drain : Drain Letter) : ItemsEmpty (state.retry drain) := by
  apply @ItemsEmpty.update Letter state (state.retry drain) drain.runId _ items _ rfl
  rintro _ ⟨⟩
  rfl

/-- A run's text becomes the last batch, which is posted, or goes back at once. -/
theorem flushBatch_cases {taken : FlushState Letter} {runId : String} {entries : List (LogEntry Letter)}
    (takes : Takes state taken runId entries) (recorded : Recorded state) (decided : Decided state) (item : FlushItem Letter)
    (deadlineMs : Option Int) (startFails : Bool) :
    Keeps state (taken.flushBatch runId item entries deadlineMs startFails) := by
  let batch : Batch Letter :=
    { id := state.nextWorkerMessageId, runId, entries, written := false, fate := .inFlight }
  let drain : Drain Letter :=
    { item, runId, entries, messageId := taken.nextWorkerMessageId, deadlineMs, outcome := none }
  have sameRecorded := takes.recorded recorded
  have last : LastBatch (taken.takeBatch runId entries).batches drain state.batches batch := {
    batches := by simp only [FlushState.takeBatch, takes.batches, takes.nextWorkerMessageId, batch]
    before := recorded.numbered
    id := takes.nextWorkerMessageId.symm
    runId := rfl
    entries := rfl }
  unfold FlushState.flushBatch
  split
  · -- the worker cannot be started: the text goes back to where it was
    have batches := retry_batches last
    let back : Batch Letter := { batch with fate := .putBack }
    have recordedBack : Recorded ((taken.takeBatch runId entries).retry drain) := by
      apply @Recorded.snoc Letter state ((taken.takeBatch runId entries).retry drain) recorded back rfl rfl (by simp [back])
        takes.rows batches (congrArg (· + 1) takes.nextWorkerMessageId)
        (retry_items (fun _ _ => sameRecorded.items _ _) drain)
      intro worker isWorker
      have agrees := @WorkerAgrees.snoc Letter _ _ _ back
        (recorded.worker worker (takes.worker.symm.trans isWorker)) rfl
      rw [batches, show ((taken.takeBatch runId entries).retry drain).nextWorkerMessageId = taken.nextWorkerMessageId + 1 from rfl,
        takes.nextWorkerMessageId]
      exact agrees
    have decidedBack : Decided ((taken.takeBatch runId entries).retry drain) := by
      rw [Decided, batches]
      exact forall_mem_snoc.mpr ⟨decided, by simp⟩
    refine ⟨⟨recordedBack, decidedBack.awaited rfl⟩, fun inOrder otherId streamKind => ?_⟩
    have pending : pendingText ((taken.takeBatch runId entries).retry drain).pendingChunks otherId streamKind =
        pendingText state.pendingChunks otherId streamKind := by
      show pendingText (restoreInferenceRunPendingLogChunks taken.pendingChunks runId entries) otherId streamKind = _
      rw [pendingText_restore, takes.pending otherId streamKind, takes.text streamKind]
      by_cases same : otherId = runId
      · simp [same]
      · simp [same]
    rw [batches, pending, batchesText_append, batchesText_single,
      show ((taken.takeBatch runId entries).retry drain).buffered = state.buffered from takes.buffered,
      inOrder otherId streamKind]
    simp [isHanded]
  · obtain ⟨worker, posts⟩ := postBatch_posts (taken.takeBatch runId entries) drain
    have batches := posts.batches.trans last.batches
    have nextId := posts.nextWorkerMessageId.trans (congrArg (· + 1) takes.nextWorkerMessageId)
    have agrees : WorkerAgrees state.nextWorkerMessageId state.batches worker := by
      rcases posts.origin with present | ⟨number, rfl⟩
      · exact recorded.worker worker (takes.worker.symm.trans present)
      · exact WorkerAgrees.opened _ number _
    have isListening : ∃ listener ∈ ((taken.takeBatch runId entries).postBatch drain).listeners,
        listener.worker = worker.number ∧ listener.awaits drain.messageId := by
      rw [posts.listeners]
      exact ⟨_, List.mem_append_right _ (List.mem_singleton_self _), rfl, rfl, rfl⟩
    refine ⟨⟨?_, ?_⟩, fun inOrder otherId streamKind => ?_⟩
    · apply @Recorded.snoc Letter state ((taken.takeBatch runId entries).postBatch drain) recorded batch rfl rfl
        (by simp [batch]) (posts.rows.trans takes.rows) batches nextId
      · intro otherId found isFound
        rw [posts.pendingByRunId] at isFound
        exact sameRecorded.items otherId found isFound
      · intro current isWorker
        rw [posts.posted] at isWorker
        cases isWorker
        have posted := @WorkerAgrees.post Letter _ _ _ batch agrees recorded.numbered rfl rfl (by simp [batch])
        rw [batches, nextId]
        have sameId : drain.messageId = state.nextWorkerMessageId := takes.nextWorkerMessageId
        rw [sameId]
        exact posted
    · constructor
      · rw [batches]
        exact forall_mem_snoc.mpr ⟨fun other old inFlight => absurd inFlight (decided other old),
          fun _ => ⟨drain, posts.drain, takes.nextWorkerMessageId⟩⟩
      · intro current isCurrent
        rw [posts.drain] at isCurrent
        cases isCurrent
        refine ⟨state.batches, batch, ?_, ?_⟩
        · exact ⟨batches, last.before, last.id, last.runId, last.entries⟩
        · refine ⟨rfl, fun written => by simp [batch] at written, fun current isWorker _ => ?_⟩
          rw [posts.posted] at isWorker
          cases isWorker
          rw [post_number]
          exact isListening
    · have pending : pendingText ((taken.takeBatch runId entries).postBatch drain).pendingChunks otherId streamKind =
          if otherId = runId then [] else pendingText state.pendingChunks otherId streamKind := by
        rw [posts.pendingChunks]
        exact takes.pending otherId streamKind
      rw [batches, pending, batchesText_append, batchesText_single, posts.buffered,
        show (taken.takeBatch runId entries).buffered = state.buffered from takes.buffered, inOrder otherId streamKind]
      by_cases same : otherId = runId
      · simp [isHanded, batch, same, takes.text streamKind]
      · simp [isHanded, batch, same, Ne.symm same]

variable {after : FlushState Letter}

theorem InOrder.same (inOrder : InOrder state) (buffered : after.buffered = state.buffered)
    (batches : ∀ runId streamKind,
      batchesText (isHanded runId) after.batches streamKind = batchesText (isHanded runId) state.batches streamKind)
    (pending : ∀ runId streamKind,
      pendingText after.pendingChunks runId streamKind = pendingText state.pendingChunks runId streamKind) : InOrder after := by
  intro runId streamKind
  rw [buffered, batches, pending]
  exact inOrder runId streamKind

/-- A pass from a state in which every batch is decided. -/
theorem drainLoop_keeps (config : FlushConfig) (deadlineMs : Option Int) (startFails : Bool) (order : List String)
    (recorded : Recorded state) (decided : Decided state) :
    Keeps state (state.drainLoop config deadlineMs startFails order) := by
  rcases drainLoop_cases config deadlineMs startFails order recorded.items with
    ⟨quiet, idle⟩ | ⟨runId, item, entries, taken, takes, result⟩
  · have stillDecided : Decided (state.drainLoop config deadlineMs startFails order) := by
      unfold Decided
      rw [quiet.batches]
      exact decided
    refine ⟨⟨quiet.recorded recorded, stillDecided.awaited idle⟩, fun inOrder => ?_⟩
    exact inOrder.same quiet.buffered (fun runId streamKind => by rw [quiet.batches]) quiet.pending
  · rw [result]
    exact flushBatch_cases takes recorded decided item deadlineMs startFails

theorem Consistent.quiet (consistent : Consistent state) (quiet : Quiet state after)
    (drain : after.drain = state.drain) : Keeps state after := by
  refine ⟨⟨quiet.recorded consistent.recorded, ?_, ?_⟩, fun inOrder => ?_⟩
  · rw [quiet.batches, drain]
    exact consistent.awaited.inFlight
  · intro current isDraining
    rw [drain] at isDraining
    obtain ⟨earlier, batch, last, agrees⟩ := consistent.awaited.drain current isDraining
    refine ⟨earlier, batch, by rw [quiet.batches]; exact last, ?_⟩
    unfold OutcomeAgrees at agrees ⊢
    rw [quiet.worker, quiet.listeners]
    exact agrees
  · exact inOrder.same quiet.buffered (fun runId streamKind => by rw [quiet.batches]) quiet.pending

theorem Consistent.drainNow (consistent : Consistent state) (config : FlushConfig) (deadlineMs : Option Int)
    (startFails : Bool) : Keeps state (state.drainNow config deadlineMs startFails) := by
  unfold FlushState.drainNow
  split
  · exact consistent.keeps
  next isIdle =>
    have idle : state.drain = none := by simpa using isIdle
    have kept := @drainLoop_keeps Letter { state with scheduled := false } config deadlineMs startFails state.pendingOrder
      (consistent.recorded.same rfl rfl rfl rfl consistent.recorded.items) (consistent.awaited.decided idle)
    exact kept

/-- A batch that does not come back leaves the text where it is. -/
theorem batchesText_retag {fate : BatchFate} (stays : batch.fate ≠ .putBack)
    (kept : fate ≠ .putBack) (runId : String) (streamKind : InferenceRunStreamKind) :
    batchesText (isHanded runId) (earlier ++ [{ batch with fate }]) streamKind =
      batchesText (isHanded runId) (earlier ++ [batch]) streamKind := by
  rw [batchesText_append, batchesText_append, batchesText_single, batchesText_single]
  simp [isHanded, stays, kept]

theorem Recorded.settles (recorded : Recorded state) {drain : Drain Letter}
    (last : LastBatch state.batches drain earlier batch)
    (decided : ∀ other ∈ earlier, other.fate ≠ .inFlight) (inFlight : batch.fate = .inFlight) {outcome : FlushOutcome}
    (settles : Settles state drain earlier batch outcome after) (accepted : outcome = .acknowledged → batch.written = true)
    (refused : ∀ message, outcome = .rejected message → batch.written = false ∧
      ∀ worker, state.worker = some worker → ∀ request ∈ worker.inbox, request.id ≠ drain.messageId) :
    Keeps state after := by
  have notBack : outcome.fate ≠ .putBack := by cases outcome <;> simp [FlushOutcome.fate]
  refine ⟨⟨?_, ?_, ?_⟩, fun inOrder => ?_⟩
  · have isWritten : outcome.fate = .acknowledged → batch.written = true := by
      cases outcome <;> simp_all [FlushOutcome.fate]
    apply recorded.retag last isWritten (fun isBack => absurd isBack notBack) settles.rows settles.worker settles.batches
      settles.nextWorkerMessageId
    intro runId item found
    rw [settles.pendingByRunId] at found
    exact recorded.items runId item found
  · rw [settles.batches]
    exact forall_mem_snoc.mpr ⟨fun other old isInFlight => absurd isInFlight (decided other old),
      fun _ => ⟨_, settles.drain, last.id.symm⟩⟩
  · intro current isCurrent
    rw [settles.drain] at isCurrent
    cases isCurrent
    refine ⟨earlier, { batch with fate := outcome.fate }, ?_, ?_⟩
    · exact ⟨settles.batches, last.before, last.id, last.runId, last.entries⟩
    · cases outcome with
      | acknowledged => rfl
      | timedOut => rfl
      | rejected message =>
        refine ⟨rfl, (refused message rfl).1, ?_⟩
        rw [settles.worker]
        exact (refused message rfl).2
  · apply inOrder.same settles.buffered
    · intro runId streamKind
      rw [settles.batches, last.batches]
      exact batchesText_retag (by simp [inFlight]) notBack runId streamKind
    · intro runId streamKind
      rw [settles.pendingChunks]

/-! ### Events of the worker -/

theorem Framed.quiet {before : FlushState Letter} (framed : Framed before after)
    (batches : after.batches = before.batches) :
    Quiet before after where
  rows := framed.rows
  worker := framed.worker
  listeners := framed.listeners
  batches := batches
  buffered := framed.buffered
  nextWorkerMessageId := framed.nextWorkerMessageId
  items := fun items => by
    unfold ItemsEmpty
    rw [framed.pendingByRunId]
    exact items
  pending := fun runId streamKind => by rw [framed.pendingChunks]

/-- An outcome that is known does not depend on what the worker sent or on who listens. -/
theorem OutcomeAgrees.of_settled {drain : Drain Letter}
    (agrees : OutcomeAgrees state drain batch) (settled : drain.outcome ≠ none)
    (inbox : ∀ worker, after.worker = some worker → ∀ request ∈ worker.inbox, ∃ before, state.worker = some before ∧
      request ∈ before.inbox) : OutcomeAgrees after drain batch := by
  unfold OutcomeAgrees at agrees ⊢
  cases outcome : drain.outcome with
  | none => exact absurd outcome settled
  | some known =>
    rw [outcome] at agrees
    cases known with
    | acknowledged => exact agrees
    | timedOut => exact agrees
    | rejected message =>
      refine ⟨agrees.1, agrees.2.1, fun worker isWorker request member => ?_⟩
      obtain ⟨before, wasWorker, was⟩ := inbox worker isWorker request member
      exact agrees.2.2 before wasWorker request was

variable {worker : Worker Letter} {later : List WorkerEvent}

/-- An event of the worker reaches listeners: those of the awaited batch are told the truth, and if there are none it was
not about that batch. -/
theorem Consistent.tell (consistent : Consistent state) (isWorker : state.worker = some worker)
    {event : WorkerEvent} (sent : worker.outbox = event :: later) (reached : Listener → Bool)
    (outcome : FlushOutcome)
    (isTrue : ∀ drain earlier batch, state.drain = some drain → drain.outcome = none →
      LastBatch state.batches drain earlier batch → OutcomeAgrees state drain batch →
      (∃ listener ∈ state.listeners.filter reached, listener.awaits drain.messageId) →
        (outcome = .acknowledged → batch.written = true) ∧ ∀ message, outcome = .rejected message →
          batch.written = false ∧ ∀ request ∈ worker.inbox, request.id ≠ drain.messageId)
    (silent : ∀ drain earlier batch, state.drain = some drain → drain.outcome = none →
      LastBatch state.batches drain earlier batch → OutcomeAgrees state drain batch →
      (∀ listener ∈ state.listeners.filter reached, ¬ listener.awaits drain.messageId) →
        OutcomeAgrees
          { state with
            worker := some { worker with outbox := later }
            listeners := state.listeners.filter fun listener => !reached listener } drain batch) :
    Keeps state (FlushState.tell { state with worker := some { worker with outbox := later } } reached outcome) := by
  let base : FlushState Letter :=
    { state with
      worker := some { worker with outbox := later }
      listeners := state.listeners.filter fun listener => !reached listener }
  have recorded : Recorded base := by
    refine ⟨consistent.recorded.inSequence, consistent.recorded.persisted, consistent.recorded.ascending,
      consistent.recorded.numbered, consistent.recorded.acknowledged, consistent.recorded.putBack,
      consistent.recorded.items, ?_⟩
    rintro _ ⟨⟩
    exact (consistent.recorded.worker worker isWorker).receive sent
  -- what is left of the event once nobody is told
  have unheard {heard : FlushState Letter} (awaited : Awaited base) (framed : Framed base heard)
      (drain : heard.drain = base.drain) (batches : heard.batches = base.batches) : Keeps state heard := by
    have kept := Consistent.quiet ⟨recorded, awaited⟩ (framed.quiet batches) drain
    exact ⟨kept.1, fun inOrder => kept.2 inOrder⟩
  show Keeps state ((state.listeners.filter reached).foldl (fun state listener => state.hear outcome listener) base)
  rcases Option.eq_none_or_eq_some state.drain with isDraining | ⟨drain, isDraining⟩
  · have heard := hear_settled outcome (state.listeners.filter reached) base (fun drain isDrain => by
      simp [base, isDraining] at isDrain)
    have decided : Decided base := consistent.awaited.decided isDraining
    exact unheard (decided.awaited isDraining) heard.1 heard.2.1 heard.2.2
  · obtain ⟨earlier, batch, last, agrees⟩ := consistent.awaited.drain drain isDraining
    have awaited (stillAgrees : OutcomeAgrees base drain batch) : Awaited base := by
      refine ⟨consistent.awaited.inFlight, fun current isCurrent => ?_⟩
      have same : drain = current := Option.some.inj (isDraining.symm.trans isCurrent)
      subst same
      exact ⟨earlier, batch, last, stillAgrees⟩
    by_cases awaits : drain.outcome = none
    · have inFlight : batch.fate = .inFlight := by
        unfold OutcomeAgrees at agrees
        rw [awaits] at agrees
        exact agrees.1
      have decided := consistent.awaited.earlier_decided isDraining last
      rcases @hear_awaiting Letter base outcome (state.listeners.filter reached) drain earlier batch
        isDraining awaits last inFlight with ⟨told, settles⟩ | ⟨untold, framed, sameDrain, sameBatches⟩
      · have truth := isTrue drain earlier batch isDraining awaits last agrees told
        have kept := recorded.settles last decided inFlight settles truth.1 (by
          intro message isRejected
          refine ⟨(truth.2 message isRejected).1, ?_⟩
          rintro _ ⟨⟩
          exact (truth.2 message isRejected).2)
        exact ⟨kept.1, fun inOrder => kept.2 inOrder⟩
      · exact unheard (awaited (silent drain earlier batch isDraining awaits last agrees untold)) framed sameDrain sameBatches
    · have heard := hear_settled outcome (state.listeners.filter reached) base (fun current isCurrent => by
        have same : drain = current := Option.some.inj (isDraining.symm.trans isCurrent)
        subst same
        exact awaits)
      refine unheard (awaited (agrees.of_settled awaits ?_)) heard.1 heard.2.1 heard.2.2
      rintro _ ⟨⟩ request member
      exact ⟨worker, isWorker, member⟩

theorem Recorded.distinct (recorded : Recorded state) : (state.batches.map fun batch => batch.id).Nodup := by
  rw [List.nodup_iff_pairwise_ne, List.pairwise_map]
  exact recorded.ascending.imp Nat.ne_of_lt

theorem Recorded.eq_of_id (recorded : Recorded state) {first second : Batch Letter} (isFirst : first ∈ state.batches)
    (isSecond : second ∈ state.batches) (same : first.id = second.id) : first = second :=
  List.inj_on_of_nodup_map recorded.distinct isFirst isSecond same

theorem OutcomeAgrees.awaiting {drain : Drain Letter} (agrees : OutcomeAgrees state drain batch)
    (awaits : drain.outcome = none) :
    batch.fate = .inFlight ∧
      (batch.written = true → ∃ worker, state.worker = some worker ∧
        ∃ message, WorkerEvent.answered drain.messageId true message ∈ worker.outbox) ∧
      ∀ worker, state.worker = some worker → Mentions worker drain.messageId →
        ∃ listener ∈ state.listeners, listener.worker = worker.number ∧ listener.awaits drain.messageId := by
  unfold OutcomeAgrees at agrees
  rw [awaits] at agrees
  exact agrees

section

variable (consistent : Consistent state)

include consistent

theorem Consistent.answered (isWorker : state.worker = some worker)
    {id : Nat} {ok : Bool} {message : String}
    (sent : worker.outbox = .answered id ok message :: later) :
    Keeps state (FlushState.tell { state with worker := some { worker with outbox := later } }
      (fun listener => listener.worker == worker.number && listener.messageId == id)
      (FlushState.answerOutcome ok message)) := by
  have agreesWorker := consistent.recorded.worker worker isWorker
  have isSent : WorkerEvent.answered id ok message ∈ worker.outbox := by simp [sent]
  apply consistent.tell isWorker sent
  · rintro drain earlier batch isDraining awaits last agrees ⟨listener, isReached, stands⟩
    have isBatch : batch ∈ state.batches := by simp [last.batches]
    -- the listener that was reached is the batch's
    have sameId : drain.messageId = id := by
      have reached := (List.mem_filter.mp isReached).2
      simp only [Bool.and_eq_true, beq_iff_eq] at reached
      exact stands.2.symm.trans reached.2
    cases ok with
    | true =>
      refine ⟨fun _ => ?_, by simp [FlushState.answerOutcome]⟩
      obtain ⟨accepted, isAccepted, acceptedId, written⟩ := agreesWorker.accepted id message isSent
      have same := consistent.recorded.eq_of_id isAccepted isBatch (by rw [acceptedId, last.id, sameId])
      rw [← same]
      exact written
    | false =>
      refine ⟨by simp [FlushState.answerOutcome], fun _ _ => ?_⟩
      have refused := agreesWorker.refused id message isSent
      rw [sameId]
      exact ⟨refused.1 batch isBatch (by rw [last.id, sameId]), refused.2⟩
  · intro drain earlier batch isDraining awaits last agrees untold
    obtain ⟨inFlight, written, mentioned⟩ := agrees.awaiting awaits
    have otherId : drain.messageId ≠ id := by
      rintro rfl
      obtain ⟨listener, isListening, sameWorker, stands⟩ := mentioned worker isWorker (.inr ⟨ok, message, isSent⟩)
      apply untold listener _ stands
      simp [List.mem_filter, isListening, sameWorker, stands.2]
    unfold OutcomeAgrees
    rw [awaits]
    refine ⟨inFlight, fun isWritten => ?_, ?_⟩
    · obtain ⟨current, isCurrent, text, isAnswered⟩ := written isWritten
      rw [isWorker] at isCurrent
      cases isCurrent
      rw [sent, List.mem_cons] at isAnswered
      rcases isAnswered with first | rest
      · cases first
        exact absurd rfl otherId
      · exact ⟨_, rfl, text, rest⟩
    · rintro _ ⟨⟩ mentions
      have stillMentions : Mentions worker drain.messageId := by
        rcases mentions with requested | ⟨isOk, text, isAnswered⟩
        · exact .inl requested
        · exact .inr ⟨isOk, text, by simp [sent, isAnswered]⟩
      obtain ⟨listener, isListening, sameWorker, stands⟩ := mentioned worker isWorker stillMentions
      refine ⟨listener, List.mem_filter.mpr ⟨isListening, ?_⟩, sameWorker, stands⟩
      simp [stands.2, otherId]

theorem Consistent.failed (isWorker : state.worker = some worker)
    {message : String} (sent : worker.outbox = .error message :: later) :
    Keeps state (FlushState.tell { state with worker := some { worker with outbox := later } }
      (fun listener => listener.worker == worker.number) (.rejected message)) := by
  have agreesWorker := consistent.recorded.worker worker isWorker
  have empty := agreesWorker.inbox_eq_nil sent rfl
  have unwritten {drain : Drain Letter} {batch : Batch Letter} (agrees : OutcomeAgrees state drain batch)
      (awaits : drain.outcome = none) : batch.written = false := by
    cases written : batch.written with
    | false => rfl
    | true =>
      obtain ⟨current, isCurrent, text, isAnswered⟩ := (agrees.awaiting awaits).2.1 written
      rw [isWorker] at isCurrent
      cases isCurrent
      exact absurd isAnswered (agreesWorker.no_answer sent rfl _ _ _)
  apply consistent.tell isWorker sent
  · intro drain earlier batch isDraining awaits last agrees _
    refine ⟨by simp, fun _ _ => ⟨unwritten agrees awaits, ?_⟩⟩
    simp [empty]
  · intro drain earlier batch isDraining awaits last agrees _
    unfold OutcomeAgrees
    rw [awaits]
    refine ⟨(agrees.awaiting awaits).1, fun written => ?_, ?_⟩
    · rw [unwritten agrees awaits] at written
      cases written
    · -- the worker has nothing in hand, and answers nothing
      rintro _ ⟨⟩ (⟨request, member, _⟩ | ⟨ok, text, isAnswered⟩)
      · simp [empty] at member
      · exact absurd (by simp [sent, isAnswered]) (agreesWorker.no_answer sent rfl drain.messageId ok text)

theorem Consistent.deliver : Keeps state state.deliver := by
  unfold FlushState.deliver
  split
  · exact consistent.keeps
  next worker isWorker =>
    split
    · exact consistent.keeps
    next event later sent =>
      have agreesWorker := consistent.recorded.worker worker isWorker
      cases event with
      | answered id ok message => exact consistent.answered isWorker sent
      | error message => exact consistent.failed isWorker sent
      | exit =>
        refine ⟨⟨?_, consistent.awaited.inFlight, fun drain isDraining => ?_⟩, fun inOrder => inOrder⟩
        · exact ⟨consistent.recorded.inSequence, consistent.recorded.persisted, consistent.recorded.ascending,
            consistent.recorded.numbered, consistent.recorded.acknowledged, consistent.recorded.putBack,
            consistent.recorded.items, fun _ absent => nomatch absent⟩
        · obtain ⟨earlier, batch, last, agrees⟩ := consistent.awaited.drain drain isDraining
          refine ⟨earlier, batch, last, ?_⟩
          by_cases awaits : drain.outcome = none
          · have awaiting := agrees.awaiting awaits
            unfold OutcomeAgrees
            rw [awaits]
            refine ⟨awaiting.1, fun written => ?_, fun _ absent => nomatch absent⟩
            obtain ⟨current, isCurrent, text, isAnswered⟩ := awaiting.2.1 written
            rw [isWorker] at isCurrent
            cases isCurrent
            exact absurd isAnswered (agreesWorker.no_answer sent rfl _ _ _)
          · exact agrees.of_settled awaits fun _ absent => nomatch absent

theorem Consistent.ackTimeout : Keeps state state.ackTimeout := by
  unfold FlushState.ackTimeout
  split
  · exact consistent.keeps
  next drain isDraining =>
    split
    next expires =>
      obtain ⟨earlier, batch, last, agrees⟩ := consistent.awaited.drain drain isDraining
      let base : FlushState Letter :=
        { state with
          listeners := updateWhere (fun listener => listener.messageId == drain.messageId)
            (fun listener => { listener with acknowledgementExpired := true }) state.listeners }
      have recorded : Recorded base := consistent.recorded.same rfl rfl rfl rfl consistent.recorded.items
      have inFlight := (agrees.awaiting expires.2).1
      have settles := @settle_settles Letter base drain earlier batch isDraining expires.2 last inFlight .timedOut
      have kept := recorded.settles last (consistent.awaited.earlier_decided isDraining last) inFlight settles
        (by simp) (by simp)
      exact ⟨kept.1, fun inOrder => kept.2 inOrder⟩
    · exact consistent.keeps

end

/-! ### Moves of the worker -/

/-- A move of the worker: it takes requests and sends answers about them. -/
structure Moves (before after : Worker Letter) : Prop where
  number : after.number = before.number
  inbox : ∀ request ∈ after.inbox, request ∈ before.inbox
  outbox : ∀ event ∈ before.outbox, event ∈ after.outbox
  mentions : ∀ id, Mentions after id → Mentions before id

variable {later : List (FlushRequest Letter)}

theorem moves_answer {request : FlushRequest Letter}
    (received : worker.inbox = request :: later) (ok : Bool) (message : String) :
    Moves worker { worker with inbox := later, outbox := worker.outbox ++ [.answered request.id ok message] } where
  number := rfl
  inbox := fun other member => by simp [received, member]
  outbox := fun event sent => List.mem_append_left _ sent
  mentions := fun id mentions => by
    rcases mentions with ⟨other, member, sameId⟩ | ⟨isOk, text, sent⟩
    · exact .inl ⟨other, by simp [received, member], sameId⟩
    · rcases List.mem_append.mp sent with old | new
      · exact .inr ⟨isOk, text, old⟩
      · cases List.mem_singleton.mp new
        exact .inl ⟨request, by simp [received], rfl⟩

theorem moves_crash (worker : Worker Letter) (message : String) :
    Moves worker { worker with alive := false, inbox := [], outbox := worker.outbox ++ [.error message, .exit] } where
  number := rfl
  inbox := fun _ absent => nomatch absent
  outbox := fun event sent => List.mem_append_left _ sent
  mentions := fun id mentions => by
    rcases mentions with ⟨other, member, _⟩ | ⟨isOk, text, sent⟩
    · cases member
    · exact .inr ⟨isOk, text, by simpa using sent⟩

theorem OutcomeAgrees.moved {moved : Worker Letter} {drain : Drain Letter}
    (agrees : OutcomeAgrees state drain batch) (isWorker : state.worker = some worker) (moves : Moves worker moved)
    (isMoved : after.worker = some moved) (listeners : after.listeners = state.listeners) :
    OutcomeAgrees after drain batch := by
  by_cases awaits : drain.outcome = none
  · obtain ⟨inFlight, written, mentioned⟩ := agrees.awaiting awaits
    unfold OutcomeAgrees
    rw [awaits]
    refine ⟨inFlight, fun isWritten => ?_, fun current isCurrent mentions => ?_⟩
    · obtain ⟨current, isCurrent, text, isAnswered⟩ := written isWritten
      rw [isWorker] at isCurrent
      cases isCurrent
      exact ⟨moved, isMoved, text, moves.outbox _ isAnswered⟩
    · rw [isMoved] at isCurrent
      cases isCurrent
      rw [listeners, moves.number]
      exact mentioned worker isWorker (moves.mentions _ mentions)
  · apply agrees.of_settled awaits
    intro current isCurrent request member
    rw [isMoved] at isCurrent
    cases isCurrent
    exact ⟨worker, isWorker, moves.inbox request member⟩

theorem Consistent.moved (consistent : Consistent state) {moved : Worker Letter} (isWorker : state.worker = some worker)
    (moves : Moves worker moved) (agrees : WorkerAgrees state.nextWorkerMessageId state.batches moved) :
    Keeps state { state with worker := some moved } := by
  refine ⟨⟨?_, consistent.awaited.inFlight, fun drain isDraining => ?_⟩, fun inOrder => inOrder⟩
  · refine ⟨consistent.recorded.inSequence, consistent.recorded.persisted, consistent.recorded.ascending,
      consistent.recorded.numbered, consistent.recorded.acknowledged, consistent.recorded.putBack,
      consistent.recorded.items, ?_⟩
    rintro _ ⟨⟩
    exact agrees
  · obtain ⟨earlier, batch, last, agreed⟩ := consistent.awaited.drain drain isDraining
    exact ⟨earlier, batch, last, agreed.moved isWorker moves rfl rfl⟩

theorem Consistent.workerRefuses (consistent : Consistent state) (errorMessage : String) :
    Keeps state (state.workerRefuses errorMessage) := by
  unfold FlushState.workerRefuses
  split
  · exact consistent.keeps
  next worker isWorker =>
    split
    · exact consistent.keeps
    next request later received =>
      have agrees := consistent.recorded.worker worker isWorker
      exact consistent.moved isWorker (moves_answer received false errorMessage)
        (agrees.refuse consistent.recorded.numbered received errorMessage)

theorem Consistent.workerCrashes (consistent : Consistent state) (message : String) :
    Keeps state (state.workerCrashes message) := by
  unfold FlushState.workerCrashes
  split
  · exact consistent.keeps
  next worker isWorker =>
    split
    next isAlive =>
      exact consistent.moved isWorker (moves_crash worker message)
        ((consistent.recorded.worker worker isWorker).crash isAlive message)
    · exact consistent.keeps

section

variable (recorded : Recorded state) {worker : Worker Letter} (isWorker : state.worker = some worker)
  {request : FlushRequest Letter}

include recorded isWorker

theorem Recorded.taken (member : request ∈ worker.inbox) :
    ∃ before batch behind, state.batches = before ++ batch :: behind ∧ batch.id = request.id ∧ batch.runId = request.runId ∧
      batch.entries = request.entries ∧ batch.written = false ∧ batch.fate ≠ .putBack ∧
      (∀ other ∈ behind, other.written = false) ∧
      updateWhere (fun batch => batch.id == request.id) (fun batch => { batch with written := true }) state.batches =
        before ++ { batch with written := true } :: behind := by
  have agrees := recorded.worker worker isWorker
  obtain ⟨batch, isBatch, sameId, sameRun, sameEntries, unwritten, notBack⟩ := agrees.requested request member
  obtain ⟨before, behind, batches, updated⟩ := exists_updateWhere_between recorded.distinct isBatch
  refine ⟨before, batch, behind, batches, sameId, sameRun, sameEntries, unwritten, notBack, ?_, ?_⟩
  · -- batches are written in the order of their ids
    intro other isBehind
    cases written : other.written with
    | false => rfl
    | true =>
      have ascending := recorded.ascending
      rw [batches, List.pairwise_append, List.pairwise_cons] at ascending
      have more := ascending.2.1.1 other isBehind
      have less := agrees.later request member other (by simp [batches, isBehind]) written
      omega
  · rw [← sameId]
    exact updated fun batch => { batch with written := true }

theorem Recorded.commits (received : worker.inbox = request :: later) :
    Recorded { state with
      rows := appendInferenceRunLogChunks state.rows request.runId request.entries
      worker := some { worker with inbox := later, outbox := worker.outbox ++ [.answered request.id true ""] }
      batches := updateWhere (fun batch => batch.id == request.id) (fun batch => { batch with written := true })
        state.batches } := by
  obtain ⟨before, batch, behind, batches, sameId, sameRun, sameEntries, unwritten, notBack, unwrittenBehind, updated⟩ :=
    @Recorded.taken Letter state recorded worker isWorker request (by simp [received])
  have appended := append_batch recorded.inSequence request.runId request.entries
  have isBatch : batch ∈ state.batches := by simp [batches]
  refine ⟨appended.1, fun runId streamKind => ?_, ?_, ?_, ?_, ?_, recorded.items, ?_⟩
  · have nothingBehind : batchesText (isWritten runId) behind streamKind = [] :=
      batchesText_of_none (fun other member => by simp [isWritten, unwrittenBehind other member]) streamKind
    show persistedText (appendInferenceRunLogChunks state.rows request.runId request.entries) runId streamKind = _
    rw [appended.2 runId streamKind, recorded.persisted runId streamKind, updated, batches, batchesText_between,
      batchesText_between, nothingBehind]
    by_cases same : runId = request.runId
    · simp [isWritten, unwritten, same, sameRun, sameEntries]
    · simp [isWritten, unwritten, same, sameRun, Ne.symm same]
  · have ids : (updateWhere (fun batch => batch.id == request.id) (fun batch : Batch Letter => { batch with written := true })
        state.batches).map (fun batch => batch.id) = state.batches.map fun batch => batch.id := by
      rw [map_updateWhere]
      exact fun _ _ _ => rfl
    have ascending : (state.batches.map fun batch => batch.id).Pairwise fun early late => early < late :=
      List.pairwise_map.mpr recorded.ascending
    rw [← ids] at ascending
    exact List.pairwise_map.mp ascending
  · intro other member
    obtain ⟨was, wasBatch, rfl⟩ := mem_updateWhere.mp member
    have bound := recorded.numbered was wasBatch
    split <;> exact bound
  · intro other member isAcknowledged
    obtain ⟨was, wasBatch, rfl⟩ := mem_updateWhere.mp member
    split at isAcknowledged
    next selected => simp [selected]
    next unselected =>
      rw [if_neg unselected]
      exact recorded.acknowledged was wasBatch isAcknowledged
  · intro other member isPutBack
    obtain ⟨was, wasBatch, rfl⟩ := mem_updateWhere.mp member
    split at isPutBack
    next selected =>
      -- the batch that is written did not go back
      simp only [beq_iff_eq] at selected
      have same := recorded.eq_of_id wasBatch isBatch (selected.trans sameId.symm)
      rw [same] at isPutBack
      exact absurd isPutBack notBack
    next unselected =>
      rw [if_neg unselected]
      exact recorded.putBack was wasBatch isPutBack
  · rintro _ ⟨⟩
    exact (recorded.worker worker isWorker).commit recorded.numbered received

end

section

variable (consistent : Consistent state)

include consistent

theorem Consistent.workerCommits : Keeps state state.workerCommits := by
  unfold FlushState.workerCommits
  split
  · exact consistent.keeps
  next worker isWorker =>
    split
    · exact consistent.keeps
    next request later received =>
      have moves := moves_answer received true ""
      refine ⟨⟨consistent.recorded.commits isWorker received, ?_, fun drain isDraining => ?_⟩, fun inOrder => ?_⟩
      · intro other member inFlight
        obtain ⟨was, wasBatch, rfl⟩ := mem_updateWhere.mp member
        have awaited := consistent.awaited.inFlight was wasBatch
        split at inFlight <;> rename_i selected <;> simp only [selected] <;> exact awaited inFlight
      · obtain ⟨earlier, batch, last, agrees⟩ := consistent.awaited.drain drain isDraining
        refine ⟨updateWhere (fun batch => batch.id == request.id) (fun batch => { batch with written := true }) earlier,
          if batch.id == request.id then { batch with written := true } else batch, ?_, ?_⟩
        · refine ⟨?_, fun other member => ?_, ?_, ?_, ?_⟩
          · show updateWhere _ _ state.batches = _
            rw [last.batches, updateWhere_append]
            rfl
          · obtain ⟨was, wasEarlier, rfl⟩ := mem_updateWhere.mp member
            have less := last.before was wasEarlier
            split <;> split <;> exact less
          · split
            · exact last.id
            · exact last.id
          · split
            · exact last.runId
            · exact last.runId
          · split
            · exact last.entries
            · exact last.entries
        · split
          next selected =>
            simp only [beq_iff_eq] at selected
            by_cases awaits : drain.outcome = none
            · -- the awaited batch is written, and its answer sent
              obtain ⟨inFlight, _, mentioned⟩ := agrees.awaiting awaits
              unfold OutcomeAgrees
              rw [awaits]
              refine ⟨inFlight, fun _ => ⟨_, rfl, "", ?_⟩, ?_⟩
              · simp [← selected, last.id]
              · rintro _ ⟨⟩ mentions
                exact mentioned worker isWorker (moves.mentions _ mentions)
            · cases outcome : drain.outcome with
              | none => exact absurd outcome awaits
              | some known =>
                unfold OutcomeAgrees at agrees ⊢
                rw [outcome] at agrees ⊢
                cases known with
                | acknowledged => exact agrees
                | timedOut => exact agrees
                | rejected message =>
                  exact absurd (selected.symm.trans last.id) (agrees.2.2 worker isWorker request (by simp [received]))
          · exact agrees.moved isWorker moves rfl rfl
      · obtain ⟨before, batch, behind, batches, _, _, _, _, _, _, updated⟩ :=
          @Recorded.taken Letter state consistent.recorded worker isWorker request (by simp [received])
        intro runId streamKind
        have was := inOrder runId streamKind
        rw [batches, batchesText_between] at was
        show _ = batchesText _ (updateWhere _ _ state.batches) streamKind ++ _
        rw [updated, batchesText_between]
        exact was

/-! ### The drain goes on -/

theorem Consistent.retry {drain : Drain Letter} (isDraining : state.drain = some drain)
    {message : String} (rejected : drain.outcome = some (.rejected message)) :
    Consistent (state.retry drain) ∧ (InOrder state →
      (InOrder (state.retry drain) ↔ ∀ streamKind,
        entriesText drain.entries streamKind ++ pendingText state.pendingChunks drain.runId streamKind =
          pendingText state.pendingChunks drain.runId streamKind ++ entriesText drain.entries streamKind)) := by
  obtain ⟨earlier, batch, last, agrees⟩ := consistent.awaited.drain drain isDraining
  unfold OutcomeAgrees at agrees
  rw [rejected] at agrees
  obtain ⟨inFlight, unwritten, isOut⟩ := agrees
  have batches := retry_batches last
  have decided : Decided (state.retry drain) := by
    rw [Decided, batches]
    exact forall_mem_snoc.mpr ⟨consistent.awaited.earlier_decided isDraining last, by simp⟩
  refine ⟨⟨?_, decided.awaited rfl⟩, fun inOrder => ?_⟩
  · have back : BatchFate.putBack = .putBack → batch.written = false ∧ ∀ worker, state.worker = some worker →
        ∀ request ∈ worker.inbox, request.id ≠ drain.messageId := fun _ => ⟨unwritten, isOut⟩
    exact consistent.recorded.retag last (by simp) back rfl rfl batches rfl (retry_items consistent.recorded.items drain)
  · have before : ∀ runId streamKind, bufferedText state.buffered runId streamKind =
        batchesText (isHanded runId) earlier streamKind ++
          ((if runId = drain.runId then entriesText drain.entries streamKind else []) ++
            pendingText state.pendingChunks runId streamKind) := by
      intro runId streamKind
      rw [inOrder runId streamKind, last.batches, batchesText_append, batchesText_single, List.append_assoc]
      by_cases same : runId = drain.runId
      · simp [isHanded, last.runId, last.entries, inFlight, same]
      · simp [isHanded, last.runId, same, Ne.symm same]
    have behind : ∀ runId streamKind, batchesText (isHanded runId) (state.retry drain).batches streamKind ++
          pendingText (state.retry drain).pendingChunks runId streamKind =
        batchesText (isHanded runId) earlier streamKind ++
          (pendingText state.pendingChunks runId streamKind ++
            if runId = drain.runId then entriesText drain.entries streamKind else []) := by
      intro runId streamKind
      have restored : pendingText (state.retry drain).pendingChunks runId streamKind = _ :=
        pendingText_restore state.pendingChunks drain.runId runId drain.entries streamKind
      rw [batches, batchesText_append, batchesText_single, restored]
      simp [isHanded]
    have exactly : ∀ runId streamKind,
        (bufferedText state.buffered runId streamKind = batchesText (isHanded runId) (state.retry drain).batches streamKind ++
          pendingText (state.retry drain).pendingChunks runId streamKind) ↔
        (if runId = drain.runId then entriesText drain.entries streamKind else []) ++
            pendingText state.pendingChunks runId streamKind =
          pendingText state.pendingChunks runId streamKind ++
            if runId = drain.runId then entriesText drain.entries streamKind else [] := by
      intro runId streamKind
      rw [before, behind, List.append_cancel_left_eq]
    constructor
    · intro stillInOrder streamKind
      have here := (exactly drain.runId streamKind).mp (stillInOrder drain.runId streamKind)
      simpa using here
    · intro commutes runId streamKind
      apply (exactly runId streamKind).mpr
      by_cases same : runId = drain.runId
      · simpa [same] using commutes streamKind
      · simp [same]

theorem Consistent.resume (config : FlushConfig) (startFails : Bool)
    (unrejected : ∀ drain, state.drain = some drain → ∀ message, drain.outcome ≠ some (.rejected message)) :
    Keeps state (state.resume config startFails) := by
  unfold FlushState.resume
  split
  · exact consistent.keeps
  next drain isDraining =>
    obtain ⟨earlier, batch, last, agrees⟩ := consistent.awaited.drain drain isDraining
    have decidedUnless (settled : batch.fate ≠ .inFlight) : Decided state := by
      rw [Decided, last.batches]
      exact forall_mem_snoc.mpr ⟨consistent.awaited.earlier_decided isDraining last, settled⟩
    unfold OutcomeAgrees at agrees
    split
    · exact consistent.keeps
    next acknowledged =>
      rw [acknowledged] at agrees
      have decided := decidedUnless (by simp [agrees])
      have kept := @drainLoop_keeps Letter
        { state with runningRunId := none, runningMessageId := none, completedCount := state.completedCount + 1 } config
        drain.deadlineMs startFails state.pendingOrder
        (consistent.recorded.same rfl rfl rfl rfl consistent.recorded.items) decided
      exact kept
    next message rejected => exact absurd rejected (unrejected drain isDraining message)
    next timedOut =>
      rw [timedOut] at agrees
      have decided := decidedUnless (by simp [agrees])
      unfold FlushState.failDrain
      split
      · refine ⟨⟨consistent.recorded.same rfl rfl rfl rfl consistent.recorded.items, ?_⟩, fun inOrder => inOrder⟩
        exact Decided.awaited decided rfl
      · refine ⟨⟨consistent.recorded.same rfl rfl rfl rfl consistent.recorded.items, ?_⟩, fun inOrder => inOrder⟩
        exact Decided.awaited decided rfl

theorem Consistent.bufferChunk (runId : String) (streamKind : InferenceRunStreamKind)
    (chunkText : List Letter) : Keeps state (state.bufferChunk runId streamKind chunkText) := by
  unfold FlushState.bufferChunk
  simp only
  split
  · exact consistent.keeps
  · refine ⟨⟨consistent.recorded.same rfl rfl rfl rfl consistent.recorded.items, consistent.awaited.inFlight,
      consistent.awaited.drain⟩, fun inOrder otherId otherKind => ?_⟩
    rw [bufferedText_append, pendingText_bufferInferenceRunLogChunk, inOrder otherId otherKind, List.append_assoc]
    congr 2
    by_cases same : otherId = Schema.trim runId ∧ otherKind = streamKind
    · simp [bufferedText, same]
    · have other : ((Schema.trim runId == otherId) && (streamKind == otherKind)) = false := by
        simp only [Bool.and_eq_false_iff, beq_eq_false_iff_ne, ne_eq]
        rw [not_and_or] at same
        exact same.imp Ne.symm Ne.symm
      simp [bufferedText, same, other]

end

theorem Consistent.untouched (consistent : Consistent state) (rows : after.rows = state.rows)
    (worker : after.worker = state.worker) (listeners : after.listeners = state.listeners)
    (batches : after.batches = state.batches) (buffered : after.buffered = state.buffered)
    (nextId : after.nextWorkerMessageId = state.nextWorkerMessageId) (items : ItemsEmpty after)
    (pendingChunks : after.pendingChunks = state.pendingChunks) (drain : after.drain = state.drain) : Keeps state after :=
  consistent.quiet ⟨⟨rows, worker, listeners, batches, buffered, nextId, fun _ => items⟩, fun _ _ => by rw [pendingChunks]⟩
    drain

theorem Consistent.enqueue (consistent : Consistent state) (runId : String) : Keeps state (state.enqueue runId).2 := by
  unfold FlushState.enqueue
  simp only
  split
  · exact consistent.keeps
  · split
    · exact consistent.keeps
    · split
      · exact consistent.keeps
      · -- the new item carries no batch
        have items (after : FlushState Letter)
            (queued : after.pendingByRunId = Function.update state.pendingByRunId (Schema.trim runId)
              (some { runId := Schema.trim runId, enqueuedAtMs := state.nowMs, attempts := 0, entries := none })) :
            ItemsEmpty after := by
          apply consistent.recorded.items.update _ queued
          rintro _ ⟨⟩
          rfl
        split
        · exact consistent.untouched rfl rfl rfl rfl rfl rfl (items _ rfl) rfl rfl
        · exact consistent.untouched rfl rfl rfl rfl rfl rfl (items _ rfl) rfl rfl

/-! ## Runs -/

/-- A call other than the restoring of a batch. -/
theorem answerCall_keeps (config : FlushConfig) (consistent : Consistent state) (call : FlushCall Letter)
    (unrejected : ∀ startFails, call = .resume startFails → ∀ drain, state.drain = some drain →
      ∀ message, drain.outcome ≠ some (.rejected message)) : Keeps state (state.answerCall config call) := by
  have items := consistent.recorded.items
  cases call with
  | bufferChunk runId streamKind chunkText => exact consistent.bufferChunk runId streamKind chunkText
  | enqueue runId => exact consistent.enqueue runId
  | setModelRequestState active queueLength lastFinishedAtMs =>
    show Keeps state (FlushState.kickDrain _)
    unfold FlushState.kickDrain
    split
    · exact consistent.untouched rfl rfl rfl rfl rfl rfl items rfl rfl
    · exact consistent.untouched rfl rfl rfl rfl rfl rfl items rfl rfl
  | markModelRequestFinished finishedAtMs =>
    show Keeps state (FlushState.kickDrain _)
    unfold FlushState.kickDrain
    split
    · exact consistent.untouched rfl rfl rfl rfl rfl rfl items rfl rfl
    · exact consistent.untouched rfl rfl rfl rfl rfl rfl items rfl rfl
  | drainNow deadlineMs startFails => exact consistent.drainNow config deadlineMs startFails
  | drainForShutdown timeoutMs startFails =>
    have started := @Consistent.untouched Letter state { state with shuttingDown := true, scheduled := false } consistent
      rfl rfl rfl rfl rfl rfl items rfl rfl
    have drained := started.1.drainNow config (some (state.nowMs + timeoutMs)) startFails
    exact ⟨drained.1, fun inOrder => drained.2 (started.2 inOrder)⟩
  | resume startFails => exact consistent.resume config startFails (unrejected startFails rfl)
  | ackTimeout => exact consistent.ackTimeout
  | deliver => exact consistent.deliver
  | workerCommits => exact consistent.workerCommits
  | workerRefuses errorMessage => exact consistent.workerRefuses errorMessage
  | workerCrashes message => exact consistent.workerCrashes message

/-- One call keeps the text in order exactly if it puts no batch behind later text. -/
theorem step_keeps (config : FlushConfig) (consistent : Consistent state) (event : FlushEvent Letter) :
    Consistent (step config state event) ∧
      (InOrder state → (InOrder (step config state event) ↔ RestoresInPlace state event)) := by
  obtain ⟨elapsed, call⟩ := event
  have advanced := @Consistent.untouched Letter state (state.advance elapsed) consistent
    rfl rfl rfl rfl rfl rfl consistent.recorded.items rfl rfl
  by_cases restores : ∃ startFails, call = .resume startFails ∧
      ∃ drain, state.drain = some drain ∧ ∃ message, drain.outcome = some (.rejected message)
  · obtain ⟨startFails, rfl, drain, isDraining, message, rejected⟩ := restores
    have retried := @Consistent.retry Letter (state.advance elapsed) advanced.1 drain isDraining message rejected
    have result : step config state { elapsed, call := .resume startFails } = (state.advance elapsed).retry drain := by
      have isAdvanced : (state.advance elapsed).drain = some drain := isDraining
      simp only [step, FlushState.answerCall, FlushState.resume, isAdvanced, rejected]
    rw [result]
    refine ⟨retried.1, fun inOrder => (retried.2 (advanced.2 inOrder)).trans ?_⟩
    unfold RestoresInPlace
    simp only [isDraining]
    exact ⟨fun commutes _ _ => commutes, fun restored => restored message rejected⟩
  · have kept := answerCall_keeps config advanced.1 call (by
      intro startFails isResume drain isDraining message rejected
      exact restores ⟨startFails, isResume, drain, isDraining, message, rejected⟩)
    refine ⟨kept.1, fun inOrder => iff_of_true (kept.2 (advanced.2 inOrder)) ?_⟩
    unfold RestoresInPlace
    split
    next startFails drain isResume isDraining =>
      intro message rejected
      exact absurd ⟨startFails, isResume, drain, isDraining, message, rejected⟩ restores
    · trivial

theorem consistent_run (config : FlushConfig) (nowMs : Int) (events : List (FlushEvent Letter)) :
    Consistent (Runs.run (step config) (FlushState.opened nowMs) events) :=
  Runs.run_invariant Consistent (fun _ event consistent => (step_keeps config consistent event).1) (consistent_opened nowMs)
    events

theorem Consistent.storedOnce_iff (consistent : Consistent state) : StoredOnce state ↔ InOrder state := by
  refine ⟨fun stored => stored.inOrder, fun inOrder => ?_⟩
  exact {
    inOrder
    persisted := consistent.recorded.persisted
    distinct := by
      rw [List.nodup_iff_pairwise_ne, List.pairwise_map]
      exact consistent.recorded.ascending.imp Nat.ne_of_lt
    acknowledged := consistent.recorded.acknowledged
    putBack := consistent.recorded.putBack
    inFlight := consistent.awaited.inFlight }

/-- All along a run the text is stored once and in order, exactly if no batch goes back behind later text. -/
theorem log_text_stored_once_iff (config : FlushConfig) (nowMs : Int) (events : List (FlushEvent Letter)) :
    (∀ early, early <+: events → StoredOnce (Runs.run (step config) (FlushState.opened nowMs) early)) ↔
      Runs.Throughout (step config) RestoresInPlace (FlushState.opened nowMs) events := by
  apply Runs.throughout_iff_prefixes fun early => StoredOnce (Runs.run (step config) (FlushState.opened nowMs) early)
  · rw [(consistent_run config nowMs []).storedOnce_iff]
    intro runId streamKind
    simp [FlushState.opened, bufferedText, batchesText, pendingText, getPendingChunksForRun, emptyRunChunks]
  · intro early event stored
    have consistent := consistent_run config nowMs early
    rw [(consistent_run config nowMs (early ++ [event])).storedOnce_iff, Runs.run_append]
    exact (step_keeps config consistent event).2 stored.inOrder

end

/-! ### A refused batch -/

/-- A chunk is buffered while the batch before it is refused. -/
def refusedMeanwhile : List (FlushEvent Char) :=
  [⟨0, .bufferChunk "run" .engineStdout ['a']⟩, ⟨0, .enqueue "run"⟩, ⟨60000, .drainNow none false⟩,
    ⟨1, .bufferChunk "run" .engineStdout ['b']⟩, ⟨1, .workerRefuses "database is locked"⟩, ⟨1, .deliver⟩,
    ⟨0, .resume false⟩]

/-- Then the text is pending in another order than that in which it was buffered. -/
theorem refused_batch_goes_behind :
    ¬ ∀ early, early <+: refusedMeanwhile →
      StoredOnce (Runs.run (step { idleDelayMs := 0, maxDeferMs := 30000 }) (FlushState.opened 0) early) := by
  intro always
  have last := (always refusedMeanwhile (List.prefix_refl _)).inOrder "run" .engineStdout
  revert last
  decide +kernel

end

end SiftKit.Status.Flush
