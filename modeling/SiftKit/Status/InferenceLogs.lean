import SiftKit.Foundation.OrderedMap
import SiftKit.Foundation.Schema
import SiftKit.Foundation.Tables

/-! # Log text of inference runs

The buffer of chunks and the table `inference_run_log_chunks` of `state/inference-runs.ts`.  A text is a
list of letters, whatever they are; run ids are trimmed where they enter.
-/

namespace SiftKit.Status.Flush

open SiftKit.Tables

/-- `InferenceRunStreamKindSchema`. -/
inductive InferenceRunStreamKind where
  | launcherStdout
  | launcherStderr
  | engineStdout
  | engineStderr
  | startupReview
  | startupFailure
  deriving DecidableEq, Repr

/-- `InferenceRunPendingLogChunkEntry`. -/
structure LogEntry (Letter : Type) where
  streamKind : InferenceRunStreamKind
  chunkText : List Letter
  deriving DecidableEq

structure PendingRunChunks (Letter : Type) where
  chunksByStream : OrderedMap InferenceRunStreamKind (List (List Letter))
  characterCountByStream : OrderedMap InferenceRunStreamKind Nat
  totalCharacters : Nat

/-- A row of `inference_run_log_chunks`. -/
structure LogChunkRow (Letter : Type) where
  runId : String
  streamKind : InferenceRunStreamKind
  sequence : Nat
  chunkText : List Letter
  deriving DecidableEq

structure PendingLogChunkStats where
  characterCountByStream : InferenceRunStreamKind → Nat
  totalCharacters : Nat
  streamCount : Nat

section

variable {Letter : Type}

/-! ## The buffer -/

/-- `pendingChunksByRunId`. -/
abbrev PendingChunks (Letter : Type) := String → Option (PendingRunChunks Letter)

def emptyRunChunks : PendingRunChunks Letter where
  chunksByStream := OrderedMap.empty
  characterCountByStream := OrderedMap.empty
  totalCharacters := 0

def getPendingChunksForRun (pending : PendingChunks Letter) (runId : String) : PendingRunChunks Letter :=
  (pending runId).getD emptyRunChunks

def getPendingLogChunkStats (pending : PendingChunks Letter) (runId : String) : PendingLogChunkStats :=
  match pending runId with
  | none => { characterCountByStream := fun _ => 0, totalCharacters := 0, streamCount := 0 }
  | some run =>
    { characterCountByStream := fun streamKind => (run.characterCountByStream.get? streamKind).getD 0
      totalCharacters := run.totalCharacters
      streamCount := run.characterCountByStream.entries.countP fun entry => decide (0 < entry.2) }

/-- The run's chunks with one more. -/
def PendingRunChunks.push (run : PendingRunChunks Letter) (streamKind : InferenceRunStreamKind) (chunkText : List Letter) :
    PendingRunChunks Letter where
  chunksByStream := run.chunksByStream.set streamKind ((run.chunksByStream.get? streamKind).getD [] ++ [chunkText])
  characterCountByStream := run.characterCountByStream.set streamKind
    ((run.characterCountByStream.get? streamKind).getD 0 + chunkText.length)
  totalCharacters := run.totalCharacters + chunkText.length

/-- `bufferInferenceRunLogChunk`, given a run id that is not empty. -/
def bufferInferenceRunLogChunk (pending : PendingChunks Letter) (runId : String) (streamKind : InferenceRunStreamKind)
    (chunkText : List Letter) : PendingChunks Letter :=
  if chunkText.isEmpty then pending
  else Function.update pending runId (some ((getPendingChunksForRun pending runId).push streamKind chunkText))

/-- The entry of a stream, unless its text is empty. -/
def takePendingEntry (stream : InferenceRunStreamKind × List (List Letter)) : Option (LogEntry Letter) :=
  if stream.2.isEmpty then none
  else if stream.2.flatten.isEmpty then none
  else some { streamKind := stream.1, chunkText := stream.2.flatten }

def takePendingEntries (run : PendingRunChunks Letter) : List (LogEntry Letter) :=
  run.chunksByStream.entries.filterMap takePendingEntry

def clearPendingChunksForRun (pending : PendingChunks Letter) (runId : String) : PendingChunks Letter :=
  Function.update pending runId none

def consumeInferenceRunPendingLogChunks (pending : PendingChunks Letter) (runId : String) :
    List (LogEntry Letter) × PendingChunks Letter :=
  match pending runId with
  | none => ([], pending)
  | some run => (takePendingEntries run, clearPendingChunksForRun pending runId)

def restoreInferenceRunPendingLogChunks (pending : PendingChunks Letter) (runId : String)
    (entries : List (LogEntry Letter)) : PendingChunks Letter :=
  entries.foldl
    (fun pending entry => bufferInferenceRunLogChunk pending runId entry.streamKind entry.chunkText) pending

/-! ## The table -/

def isOfStream (runId : String) (streamKind : InferenceRunStreamKind) (row : LogChunkRow Letter) : Bool :=
  row.runId == runId && row.streamKind == streamKind

/-- `MAX(sequence) + 1`, from zero. -/
def getNextChunkSequence (rows : List (LogChunkRow Letter)) (runId : String) (streamKind : InferenceRunStreamKind) : Nat :=
  match ((rows.filter (isOfStream runId streamKind)).map fun row => row.sequence).max? with
  | none => 0
  | some last => last + 1

/-- `INSERT … ON CONFLICT (run_id, stream_kind, sequence) DO UPDATE`. -/
def appendInferenceRunLogChunk (rows : List (LogChunkRow Letter)) (row : LogChunkRow Letter) : List (LogChunkRow Letter) :=
  let conflicts : LogChunkRow Letter → Bool :=
    fun stored => isOfStream row.runId row.streamKind stored && stored.sequence == row.sequence
  if rows.any conflicts then
    updateWhere conflicts (fun stored => { stored with chunkText := stored.chunkText ++ row.chunkText }) rows
  else rows ++ [row]

/-- The transaction of `appendInferenceRunLogChunks`. -/
def appendInferenceRunLogChunks (rows : List (LogChunkRow Letter)) (runId : String) (entries : List (LogEntry Letter)) :
    List (LogChunkRow Letter) :=
  (entries.filter fun entry => !entry.chunkText.isEmpty).foldl
    (fun rows entry => appendInferenceRunLogChunk rows
      { runId, streamKind := entry.streamKind, sequence := getNextChunkSequence rows runId entry.streamKind,
        chunkText := entry.chunkText }) rows

/-! ## Texts -/

def pendingText (pending : PendingChunks Letter) (runId : String) (streamKind : InferenceRunStreamKind) : List Letter :=
  (((getPendingChunksForRun pending runId).chunksByStream.get? streamKind).getD []).flatten

def entriesText (entries : List (LogEntry Letter)) (streamKind : InferenceRunStreamKind) : List Letter :=
  (entries.filter fun entry => entry.streamKind == streamKind).flatMap fun entry => entry.chunkText

/-- `ORDER BY sequence ASC`. -/
def persistedText (rows : List (LogChunkRow Letter)) (runId : String) (streamKind : InferenceRunStreamKind) : List Letter :=
  (orderBy (fun left right => decide (left.sequence ≤ right.sequence)) (rows.filter (isOfStream runId streamKind))).flatMap
    fun row => row.chunkText

@[simp] theorem entriesText_nil (streamKind : InferenceRunStreamKind) :
    entriesText ([] : List (LogEntry Letter)) streamKind = [] := rfl

theorem entriesText_cons (entry : LogEntry Letter) (entries : List (LogEntry Letter)) (streamKind : InferenceRunStreamKind) :
    entriesText (entry :: entries) streamKind =
      (if entry.streamKind = streamKind then entry.chunkText else []) ++ entriesText entries streamKind := by
  by_cases same : entry.streamKind = streamKind
  · simp [entriesText, same]
  · simp [entriesText, same]

theorem pendingText_bufferInferenceRunLogChunk (pending : PendingChunks Letter) (runId otherId : String)
    (streamKind otherKind : InferenceRunStreamKind) (chunkText : List Letter) :
    pendingText (bufferInferenceRunLogChunk pending runId streamKind chunkText) otherId otherKind =
      pendingText pending otherId otherKind ++ if otherId = runId ∧ otherKind = streamKind then chunkText else [] := by
  unfold bufferInferenceRunLogChunk
  cases chunkText with
  | nil => simp
  | cons letter letters =>
    simp only [List.isEmpty_cons, Bool.false_eq_true, if_false]
    by_cases sameRun : otherId = runId
    · subst sameRun
      by_cases sameKind : otherKind = streamKind
      · simp [pendingText, getPendingChunksForRun, PendingRunChunks.push, sameKind]
      · simp [pendingText, getPendingChunksForRun, PendingRunChunks.push, sameKind]
    · simp [pendingText, getPendingChunksForRun, sameRun]

theorem pendingText_restore (pending : PendingChunks Letter) (runId otherId : String) (entries : List (LogEntry Letter))
    (streamKind : InferenceRunStreamKind) :
    pendingText (restoreInferenceRunPendingLogChunks pending runId entries) otherId streamKind =
      pendingText pending otherId streamKind ++ if otherId = runId then entriesText entries streamKind else [] := by
  unfold restoreInferenceRunPendingLogChunks
  induction entries generalizing pending with
  | nil => simp
  | cons entry rest ih =>
    rw [List.foldl_cons, ih, pendingText_bufferInferenceRunLogChunk, entriesText_cons]
    by_cases sameRun : otherId = runId
    · by_cases sameKind : entry.streamKind = streamKind
      · simp [sameRun, sameKind]
      · simp [sameRun, sameKind, Ne.symm sameKind]
    · simp [sameRun]

theorem entriesText_takePendingEntry (stream : InferenceRunStreamKind × List (List Letter))
    (streamKind : InferenceRunStreamKind) :
    entriesText (takePendingEntry stream).toList streamKind = if stream.1 = streamKind then stream.2.flatten else [] := by
  unfold takePendingEntry
  split
  next isEmpty =>
    rw [List.isEmpty_iff] at isEmpty
    simp [isEmpty]
  · split
    next isEmpty =>
      rw [List.isEmpty_iff] at isEmpty
      simp [isEmpty]
    · simp [entriesText_cons]

theorem entriesText_append (first second : List (LogEntry Letter)) (streamKind : InferenceRunStreamKind) :
    entriesText (first ++ second) streamKind = entriesText first streamKind ++ entriesText second streamKind := by
  simp [entriesText]

theorem entriesText_takePendingEntries (run : PendingRunChunks Letter) (streamKind : InferenceRunStreamKind) :
    entriesText (takePendingEntries run) streamKind = ((run.chunksByStream.get? streamKind).getD []).flatten := by
  unfold takePendingEntries OrderedMap.get?
  obtain ⟨entries, distinct⟩ := run.chunksByStream
  simp only
  induction entries with
  | nil => rfl
  | cons stream rest ih =>
    rw [List.map_cons, List.nodup_cons] at distinct
    have tail := ih distinct.2
    have split : (stream :: rest).filterMap takePendingEntry =
        (takePendingEntry stream).toList ++ rest.filterMap takePendingEntry := by
      rw [List.filterMap_cons]
      cases takePendingEntry stream with
      | none => rfl
      | some entry => rfl
    rw [split, entriesText_append, entriesText_takePendingEntry, tail]
    obtain ⟨kind, chunks⟩ := stream
    rw [OrderedMap.lookup_cons]
    by_cases same : streamKind = kind
    · subst same
      -- no later entry is of this stream
      have absent : rest.lookup streamKind = none := by
        rw [List.lookup_eq_none_iff]
        intro entry member
        simp only [bne_iff_ne, ne_eq]
        intro sameKind
        exact distinct.1 (List.mem_map.mpr ⟨entry, member, sameKind.symm⟩)
      simp [absent]
    · simp [same, Ne.symm same]

theorem pendingText_clear (pending : PendingChunks Letter) (runId otherId : String) (streamKind : InferenceRunStreamKind) :
    pendingText (clearPendingChunksForRun pending runId) otherId streamKind =
      if otherId = runId then [] else pendingText pending otherId streamKind := by
  by_cases same : otherId = runId
  · simp [pendingText, getPendingChunksForRun, clearPendingChunksForRun, same, emptyRunChunks]
  · simp [pendingText, getPendingChunksForRun, clearPendingChunksForRun, same]

theorem consume_text {pending after : PendingChunks Letter} {runId : String} {entries : List (LogEntry Letter)}
    (consumed : consumeInferenceRunPendingLogChunks pending runId = (entries, after)) (streamKind : InferenceRunStreamKind) :
    entriesText entries streamKind = pendingText pending runId streamKind ∧
      ∀ otherId, pendingText after otherId streamKind =
        if otherId = runId then [] else pendingText pending otherId streamKind := by
  unfold consumeInferenceRunPendingLogChunks at consumed
  split at consumed
  next absent =>
    cases consumed
    have nothing : pendingText pending runId streamKind = [] := by
      simp [pendingText, getPendingChunksForRun, absent, emptyRunChunks]
    refine ⟨nothing.symm, fun otherId => ?_⟩
    split
    next same => rw [same, nothing]
    · rfl
  next run present =>
    cases consumed
    constructor
    · rw [entriesText_takePendingEntries, pendingText, getPendingChunksForRun, present]
      rfl
    · exact fun otherId => pendingText_clear pending runId otherId streamKind

/-! ### Rows in sequence -/

/-- The rows of every stream are in the order of their sequence numbers. -/
def InSequence (rows : List (LogChunkRow Letter)) : Prop :=
  ∀ runId streamKind, (rows.filter (isOfStream runId streamKind)).Pairwise fun early late => early.sequence < late.sequence

variable {rows : List (LogChunkRow Letter)}

theorem persistedText_of_inSequence (ordered : InSequence rows) (runId : String) (streamKind : InferenceRunStreamKind) :
    persistedText rows runId streamKind = (rows.filter (isOfStream runId streamKind)).flatMap fun row => row.chunkText := by
  unfold persistedText orderBy
  rw [List.Pairwise.insertionSort_eq]
  exact (ordered runId streamKind).imp fun less => by simpa using less.le

theorem lt_getNextChunkSequence {runId : String} {streamKind : InferenceRunStreamKind} {row : LogChunkRow Letter}
    (member : row ∈ rows) (ofStream : isOfStream runId streamKind row = true) :
    row.sequence < getNextChunkSequence rows runId streamKind := by
  have listed : row.sequence ∈ (rows.filter (isOfStream runId streamKind)).map fun row => row.sequence :=
    List.mem_map_of_mem (List.mem_filter.mpr ⟨member, ofStream⟩)
  unfold getNextChunkSequence
  cases isMax : ((rows.filter (isOfStream runId streamKind)).map fun row => row.sequence).max? with
  | none =>
    rw [List.max?_eq_none_iff.mp isMax] at listed
    cases listed
  | some last =>
    have bound := (List.max?_eq_some_iff.mp isMax).2 _ listed
    simp only
    omega

theorem append_next (ordered : InSequence rows) (runId : String) (entry : LogEntry Letter) :
    let row : LogChunkRow Letter :=
      { runId, streamKind := entry.streamKind, sequence := getNextChunkSequence rows runId entry.streamKind,
        chunkText := entry.chunkText }
    appendInferenceRunLogChunk rows row = rows ++ [row] ∧ InSequence (rows ++ [row]) := by
  intro row
  constructor
  · unfold appendInferenceRunLogChunk
    rw [if_neg]
    intro conflicts
    obtain ⟨stored, member, conflict⟩ := List.any_eq_true.mp conflicts
    simp only [Bool.and_eq_true, beq_iff_eq] at conflict
    have less := lt_getNextChunkSequence member conflict.1
    exact absurd conflict.2 (Nat.ne_of_lt less)
  · intro otherId otherKind
    rw [List.filter_append, List.pairwise_append]
    refine ⟨ordered otherId otherKind, List.Pairwise.filter _ (List.pairwise_singleton _ _), ?_⟩
    intro stored isStored new isNew
    rw [List.mem_filter, List.mem_singleton] at isNew
    obtain ⟨rfl, ofStream⟩ := isNew
    simp only [isOfStream, Bool.and_eq_true, beq_iff_eq] at ofStream
    obtain ⟨member, sameStream⟩ := List.mem_filter.mp isStored
    rw [← ofStream.1, ← ofStream.2] at sameStream
    exact lt_getNextChunkSequence member sameStream

theorem append_batch (ordered : InSequence rows) (runId : String) (entries : List (LogEntry Letter)) :
    InSequence (appendInferenceRunLogChunks rows runId entries) ∧
      ∀ otherId streamKind, persistedText (appendInferenceRunLogChunks rows runId entries) otherId streamKind =
        persistedText rows otherId streamKind ++ if otherId = runId then entriesText entries streamKind else [] := by
  unfold appendInferenceRunLogChunks
  induction entries generalizing rows with
  | nil => simp [ordered]
  | cons entry rest ih =>
    by_cases isEmpty : entry.chunkText = []
    · rw [List.filter_cons, if_neg (by simp [isEmpty])]
      have tail := ih ordered
      refine ⟨tail.1, fun otherId streamKind => ?_⟩
      rw [tail.2 otherId streamKind, entriesText_cons, isEmpty]
      simp
    · rw [List.filter_cons, if_pos (by simpa using isEmpty), List.foldl_cons]
      obtain ⟨appended, stillOrdered⟩ := append_next ordered runId entry
      rw [appended]
      have tail := ih stillOrdered
      refine ⟨tail.1, fun otherId streamKind => ?_⟩
      rw [tail.2 otherId streamKind, persistedText_of_inSequence ordered, persistedText_of_inSequence stillOrdered,
        entriesText_cons, List.filter_append, List.flatMap_append]
      by_cases sameRun : otherId = runId
      · by_cases sameKind : entry.streamKind = streamKind
        · simp [isOfStream, sameRun, sameKind]
        · simp [isOfStream, sameRun, sameKind]
      · simp [isOfStream, sameRun, Ne.symm sameRun]

end

end SiftKit.Status.Flush
