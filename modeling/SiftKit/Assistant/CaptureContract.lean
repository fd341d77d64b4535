import SiftKit.Assistant.CaptureEffects

/-! # Capture states agree with the pixels

A capture that retention retired should stay as it is, and a live capture should have its pixels.  Nothing
in the store sees to it: an extraction writes its states whatever the capture's state is.  It holds in runs
that start no extraction of a retired capture, and in which no retention pass gets to a capture that an
extraction has in hand.
-/

namespace SiftKit.Assistant.Captures

open SiftKit.Assistant SiftKit.Failure SiftKit.Json SiftKit.Tables

variable {Envelope Digest : Type}

/-! ## What a retention pass gets to -/

def isExpiring (ownerId : String) (cutoff : Int) (row : CaptureRow) : Bool :=
  row.ownerId == ownerId && row.state.isRetirable && decide (row.enqueuedAtUtc < cutoff)

/-- The captures of an owner that a pass may evict after that, the oldest first. -/
def evictable (state : CaptureState Envelope Digest) (ownerId : String) (cutoff : Int) : List CaptureRow :=
  orderBy isEnqueuedBefore
    (state.queue.filter fun row => row.ownerId == ownerId && row.state.isRetirable && decide (cutoff ≤ row.enqueuedAtUtc))

/-- A pass does not get to a retirable capture: it is not too old, and the owner's live bytes are within the limit
without the captures that expire and those that are evicted before this one. -/
def Spares (state : CaptureState Envelope Digest) (observation : ObservationConfig) (ownerId : String) (row : CaptureRow) :
    Prop :=
  retentionCutoff observation state.nowMs ≤ row.enqueuedAtUtc ∧
    ((state.totalLiveBytes ownerId
      - sumBytes (state.queue.filter (isExpiring ownerId (retentionCutoff observation state.nowMs)))
      - sumBytes ((evictable state ownerId (retentionCutoff observation state.nowMs)).takeWhile
          fun other => other.evidenceId != row.evidenceId) : Int) : Rat) ≤ rawStorageLimitBytes observation

/-! ## The agreement -/

section

variable [DecidableEq Digest] (platform : CapturePlatform Envelope Digest)

def EnqueuesReadable (state : CaptureState Envelope Digest) (event : CaptureEvent) : Prop :=
  match event.call with
  | .enqueue input => hasPixels state.evidence input.evidenceId = true
  | _ => True

/-- No capture is enqueued under a record that is itself retired, no extraction starts on a retired capture, and no
retention pass gets to a capture that an extraction has in hand. -/
def KeepsHandsOff (state : CaptureState Envelope Digest) (event : CaptureEvent) : Prop :=
  match event.call with
  | .enqueue input => ∀ record, state.evidence.getEvidence input.evidenceId = some record →
    EvidenceState.isRetired record.status = false
  | .startRun run _ _ _ => ∀ row ∈ state.queue, row.evidenceId = run.evidenceId → row.state.isFinal = false
  | .retention observation ownerId _ => ∀ run ∈ state.runs, ∀ row ∈ state.queue, row.evidenceId = run.evidenceId →
    row.ownerId = ownerId → row.state.isRetirable = true →
      Spares (state.advance event.elapsed) observation ownerId row
  | _ => True

/-- A service without captures. -/
def opened (nowMs : Int) (evidence : EvidenceState Envelope Digest) : CaptureState Envelope Digest :=
  { nowMs, evidence, queue := [], runs := [] }

/-- What the claim of the agreement says of a retention pass. -/
structure RetainsWell (observation : ObservationConfig) (ownerId : String) (recordFails : String → Bool)
    (before : CaptureState Envelope Digest) : Prop where
  /-- No capture that an extraction has in hand loses its pixels. -/
  inHand : ∀ run ∈ before.runs, hasPixels before.evidence run.evidenceId = true →
    hasPixels (before.runRetention platform.toISOString observation ownerId recordFails).2.evidence run.evidenceId = true
  /-- A pass that returns is within the limit, or has left only what is being processed. -/
  withinLimit : ∀ summary,
    (before.runRetention platform.toISOString observation ownerId recordFails).1 = .ok summary →
      (((before.runRetention platform.toISOString observation ownerId recordFails).2.totalLiveBytes ownerId : Int) : Rat) ≤
        rawStorageLimitBytes observation ∨
      ∀ row ∈ (before.runRetention platform.toISOString observation ownerId recordFails).2.queue,
        row.ownerId = ownerId → row.state.isLive = true → row.state = .processing

/-- What the claim of the agreement says of a run. -/
structure CapturesAgree (start : CaptureState Envelope Digest) (events : List CaptureEvent) : Prop where
  /-- What retention left at some time of the run is in the queue as it was then. -/
  final : ∀ early, early <+: events → ∀ row ∈ (Runs.run (step platform) start early).queue, row.state.isFinal = true →
    row ∈ (Runs.run (step platform) start events).queue ∧
      ∀ later ∈ (Runs.run (step platform) start events).queue, later.evidenceId = row.evidenceId → later = row
  pixels : ∀ row ∈ (Runs.run (step platform) start events).queue, row.state.isLive = true →
    hasPixels (Runs.run (step platform) start events).evidence row.evidenceId = true
  /-- The live bytes are the bytes of the live captures that are stored. -/
  totals : ∀ ownerId, (Runs.run (step platform) start events).totalLiveBytes ownerId =
    sumBytes ((Runs.run (step platform) start events).queue.filter fun row => row.ownerId == ownerId && row.state.isLive &&
      hasPixels (Runs.run (step platform) start events).evidence row.evidenceId)
  retention : ∀ early elapsed observation ownerId recordFails,
    early ++ [{ elapsed, call := .retention observation ownerId recordFails }] <+: events →
      RetainsWell platform observation ownerId recordFails ((Runs.run (step platform) start early).advance elapsed)

end

/-! ## The invariant -/

/-- What the calls of such runs keep. -/
structure Agrees (state : CaptureState Envelope Digest) : Prop where
  distinct : (captureIds state.queue).Nodup
  /-- A capture that is not retired has its pixels. -/
  held : ∀ row ∈ state.queue, row.state.isFinal = false → Held state.evidence row.evidenceId
  /-- An extraction has a capture in hand that is not retired. -/
  running : ∀ run ∈ state.runs, ∃ row ∈ state.queue, row.evidenceId = run.evidenceId ∧ row.state.isFinal = false

theorem agrees_opened (nowMs : Int) (evidence : EvidenceState Envelope Digest) : Agrees (opened nowMs evidence) where
  distinct := List.nodup_nil
  held := fun _ absent => nomatch absent
  running := fun _ absent => nomatch absent

section

variable {state : CaptureQueueState}

theorem isFinal_of_isLive (live : state.isLive = true) : state.isFinal = false := by
  cases state <;> simp_all [CaptureQueueState.isLive, CaptureQueueState.isFinal]

theorem isFinal_of_isRetirable (retirable : state.isRetirable = true) : state.isFinal = false := by
  cases state <;> simp_all [CaptureQueueState.isRetirable, CaptureQueueState.isFinal]

theorem isLive_of_isRetirable (retirable : state.isRetirable = true) : state.isLive = true := by
  cases state <;> simp_all [CaptureQueueState.isRetirable, CaptureQueueState.isLive]

theorem eq_processing (live : state.isLive = true) (stays : state.isRetirable = false) :
    state = .processing := by
  cases state <;> simp_all [CaptureQueueState.isRetirable, CaptureQueueState.isLive]

end

/-- The rows that retention left are untouched. -/
def KeepsFinal (before after : CaptureState Envelope Digest) : Prop :=
  ∀ row ∈ before.queue, row.state.isFinal = true → row ∈ after.queue

variable {ownerId : String}

section

variable {state after : CaptureState Envelope Digest}

theorem KeepsFinal.trans {last : CaptureState Envelope Digest} (early : KeepsFinal state after) (late : KeepsFinal after last) :
    KeepsFinal state last :=
  fun row member isFinal => late row (early row member isFinal) isFinal

theorem Agrees.update (agrees : Agrees state) {selects : CaptureRow → Bool} {rewrite : CaptureRow → CaptureRow}
    (queue : after.queue = updateWhere selects rewrite state.queue) (evidence : after.evidence = state.evidence)
    (fewerRuns : ∀ run ∈ after.runs, run ∈ state.runs) (sameId : ∀ row, (rewrite row).evidenceId = row.evidenceId)
    (onlyOpen : ∀ row ∈ state.queue, selects row = true → row.state.isFinal = false ∧ (rewrite row).state.isFinal = false) :
    Agrees after ∧ KeepsFinal state after := by
  have written : ∀ row ∈ state.queue, ∃ later ∈ after.queue, later.evidenceId = row.evidenceId ∧
      later.state.isFinal = row.state.isFinal := by
    intro row member
    rw [queue]
    refine ⟨_, List.mem_map_of_mem member, ?_, ?_⟩
    · split
      · exact sameId row
      · rfl
    · split
      next selected => rw [(onlyOpen row member selected).1, (onlyOpen row member selected).2]
      · rfl
  constructor
  · constructor
    · unfold captureIds
      rw [queue, map_updateWhere fun row _ _ => sameId row]
      exact agrees.distinct
    · intro later isLater isOpen
      rw [queue] at isLater
      obtain ⟨row, member, rfl⟩ := List.mem_map.mp isLater
      rw [evidence]
      by_cases selected : selects row = true
      · simp only [selected, if_true] at isOpen ⊢
        rw [sameId row]
        exact agrees.held row member (onlyOpen row member selected).1
      · simp only [selected, Bool.false_eq_true, if_false] at isOpen ⊢
        exact agrees.held row member isOpen
    · intro run isRun
      obtain ⟨row, member, hasId, isOpen⟩ := agrees.running run (fewerRuns run isRun)
      obtain ⟨later, isLater, same, sameFinal⟩ := written row member
      exact ⟨later, isLater, same.trans hasId, sameFinal.trans isOpen⟩
  · intro row member isFinal
    have outside : selects row = false := by
      cases selected : selects row with
      | false => rfl
      | true => simp [(onlyOpen row member selected).1] at isFinal
    rw [queue]
    exact List.mem_map.mpr ⟨row, member, by simp [outside]⟩

variable {row : CaptureRow}

theorem Agrees.eq_of_id (agrees : Agrees state) {other : CaptureRow} (member : row ∈ state.queue)
    (isOther : other ∈ state.queue) (sameId : row.evidenceId = other.evidenceId) : row = other :=
  List.inj_on_of_nodup_map agrees.distinct member isOther sameId

/-- A part of a retention pass that takes captures which are not retired, and none that an extraction has in hand. -/
theorem Agrees.takes (agrees : Agrees state) {kind : CaptureQueueState} {ids : List String}
    (takes : Takes kind ids state after) (isFinal : kind.isFinal = true)
    (onlyOpen : ∀ row ∈ state.queue, row.evidenceId ∈ ids → row.state.isFinal = false)
    (spared : ∀ run ∈ state.runs, run.evidenceId ∉ ids) : Agrees after ∧ KeepsFinal state after := by
  have outside : ∀ row ∈ state.queue, row.evidenceId ∉ ids → row ∈ after.queue := by
    intro row member notTaken
    rw [takes.queue]
    exact List.mem_map.mpr ⟨row, member, by simp [notTaken]⟩
  constructor
  · constructor
    · unfold captureIds
      rw [takes.queue, taken, map_updateWhere ?_]
      · exact agrees.distinct
      · exact fun _ _ _ => rfl
    · intro later isLater isOpen
      rw [takes.queue] at isLater
      obtain ⟨row, member, rfl⟩ := List.mem_map.mp isLater
      by_cases isTaken : row.evidenceId ∈ ids
      · simp [isTaken, isFinal] at isOpen
      · simp only [List.contains_iff_mem, isTaken, if_false] at isOpen ⊢
        exact takes.held _ isTaken (agrees.held row member isOpen)
    · intro run isRun
      rw [takes.runs] at isRun
      obtain ⟨row, member, hasId, isOpen⟩ := agrees.running run isRun
      have notTaken : row.evidenceId ∉ ids := by
        rw [hasId]
        exact spared run isRun
      exact ⟨row, outside row member notTaken, hasId, isOpen⟩
  · intro row member rowFinal
    apply outside row member
    intro isTaken
    simp [onlyOpen row member isTaken] at rowFinal

/-! ## Calls -/

variable {evidenceId : String} {rows : List CaptureRow}

theorem Agrees.setState (agrees : Agrees state) {next : CaptureQueueState}
    (isOpen : ∀ row ∈ state.queue, row.evidenceId = evidenceId → row.state.isFinal = false)
    (nextOpen : next.isFinal = false) :
    Agrees (state.setState evidenceId next) ∧ KeepsFinal state (state.setState evidenceId next) := by
  apply @Agrees.update _ _ state (state.setState evidenceId next) agrees _ _ rfl rfl (fun _ isRun => isRun) fun _ => rfl
  intro row member selected
  exact ⟨isOpen row member (by simpa using selected), nextOpen⟩

theorem Agrees.markProcessed (agrees : Agrees state)
    (isOpen : ∀ row ∈ state.queue, row.evidenceId = evidenceId → row.state.isFinal = false) :
    Agrees (state.markProcessed evidenceId) ∧ KeepsFinal state (state.markProcessed evidenceId) := by
  apply @Agrees.update _ _ state (state.markProcessed evidenceId) agrees _ _ rfl rfl (fun _ isRun => isRun) fun _ => rfl
  intro row member selected
  exact ⟨isOpen row member (by simpa using selected), rfl⟩

theorem Agrees.recoverStrandedProcessing (agrees : Agrees state) (ownerId : String) (liveEvidenceIds : List String) :
    Agrees (state.recoverStrandedProcessing ownerId liveEvidenceIds) ∧
      KeepsFinal state (state.recoverStrandedProcessing ownerId liveEvidenceIds) := by
  apply @Agrees.update _ _ state (state.recoverStrandedProcessing ownerId liveEvidenceIds) agrees _ _ rfl rfl (fun _ isRun => isRun) fun _ => rfl
  intro row _ selected
  simp only [CaptureState.isStranded, Bool.and_eq_true, beq_iff_eq] at selected
  rw [selected.1.2]
  exact ⟨rfl, rfl⟩

variable {evidence : EvidenceState Envelope Digest}

theorem getEvidence_eq_some_of_ok {record : EvidenceRow Digest}
    (required : evidence.requireEvidence evidenceId = .ok record) :
    evidence.getEvidence evidenceId = some record := by
  unfold EvidenceState.requireEvidence at required
  split at required
  next found =>
    cases required
    exact found
  · cases required

theorem discardRows_eq_ok {auditFails : Bool} {discarded : CaptureState Envelope Digest}
    (held : ∀ row ∈ rows, Held state.evidence row.evidenceId)
    (ended : CaptureState.discardRows auditFails rows state = .ok discarded) : discarded = state := by
  induction rows with
  | nil =>
    cases ended
    rfl
  | cons row rest ih =>
    unfold CaptureState.discardRows at ended
    simp only [bind_eq_ok] at ended
    obtain ⟨record, required, readable, isReadable, ended⟩ := ended
    rw [(held row List.mem_cons_self).hasReadableBlob (getEvidence_eq_some_of_ok required)] at isReadable
    cases isReadable
    exact ih (fun other member => held other (List.mem_cons_of_mem _ member)) ended

theorem Agrees.cleanUpStranded (agrees : Agrees state) (ownerId : String) (liveEvidenceIds : List String)
    (auditFails : Bool) :
    Agrees (state.cleanUpStranded ownerId liveEvidenceIds auditFails) ∧
      KeepsFinal state (state.cleanUpStranded ownerId liveEvidenceIds auditFails) := by
  unfold CaptureState.cleanUpStranded
  split
  · exact ⟨agrees, fun _ member _ => member⟩
  next discarded ended =>
    have held : ∀ row ∈ state.listStrandedProcessing ownerId liveEvidenceIds, Held state.evidence row.evidenceId := by
      intro row member
      simp only [CaptureState.listStrandedProcessing, mem_orderBy, List.mem_filter, CaptureState.isStranded,
        Bool.and_eq_true, beq_iff_eq] at member
      apply agrees.held row member.1
      rw [member.2.1.2]
      rfl
    rw [discardRows_eq_ok held ended]
    exact agrees.recoverStrandedProcessing ownerId liveEvidenceIds

theorem Agrees.finishRun (agrees : Agrees state) (position : Nat) (outcome : ModelOutcome) :
    Agrees (state.finishRun position outcome) ∧ KeepsFinal state (state.finishRun position outcome) := by
  unfold CaptureState.finishRun
  split
  · exact ⟨agrees, fun _ member _ => member⟩
  next run isRun =>
    have ended : Agrees { state with runs := state.runs.eraseIdx position } :=
      ⟨agrees.distinct, agrees.held, fun other isOther => agrees.running other (List.mem_of_mem_eraseIdx isOther)⟩
    simp only
    split
    · obtain ⟨row, member, hasId, isOpen⟩ := agrees.running run (List.mem_of_getElem? isRun)
      apply ended.markProcessed
      intro other isOther otherId
      rw [agrees.eq_of_id isOther member (otherId.trans hasId.symm)]
      exact isOpen
    · exact ⟨ended, fun _ member _ => member⟩

theorem Agrees.enqueue (agrees : Agrees state) {input : EnqueueCaptureInput}
    (held : Held state.evidence input.evidenceId) :
    Agrees (committed state (state.enqueue input)) ∧ KeepsFinal state (committed state (state.enqueue input)) := by
  cases ended : state.enqueue input with
  | error failure => exact ⟨agrees, fun _ member _ => member⟩
  | ok answer =>
    simp only [CaptureState.enqueue, bind_eq_ok, throwWhen_eq_ok, pure_eq_ok] at ended
    obtain ⟨_, -, _, -, _, unique, rfl⟩ := ended
    have fresh : ∀ other ∈ state.queue, other.evidenceId ≠ input.evidenceId := by
      intro other member same
      have noneTaken := List.any_eq_false.mp unique other member
      simp [same] at noneTaken
    refine ⟨⟨?_, ?_, ?_⟩, fun row member _ => List.mem_append_left _ member⟩
    · exact nodup_map_snoc agrees.distinct fresh
    · exact forall_mem_snoc.mpr ⟨agrees.held, fun _ => held⟩
    · intro run isRun
      obtain ⟨row, member, hasId, isOpen⟩ := agrees.running run isRun
      exact ⟨row, List.mem_append_left _ member, hasId, isOpen⟩

/-! ## The listing of a pass -/

theorem mem_listLiveOldestFirst :
    row ∈ state.listLiveOldestFirst ownerId ↔
      row ∈ state.queue ∧ row.ownerId = ownerId ∧ row.state.isRetirable = true := by
  simp [CaptureState.listLiveOldestFirst, mem_orderBy, List.mem_filter]

section

variable (distinct : (captureIds state.queue).Nodup)

include distinct

theorem nodup_listLiveOldestFirst (ownerId : String) :
    (state.listLiveOldestFirst ownerId).Nodup :=
  (perm_orderBy _ _).nodup_iff.mpr (List.Nodup.filter _ (List.Nodup.of_map _ distinct))

theorem mem_captureIds_iff (listed : ∀ row ∈ rows, row ∈ state.queue)
    (member : row ∈ state.queue) : row.evidenceId ∈ captureIds rows ↔ row ∈ rows := by
  constructor
  · intro named
    obtain ⟨other, isOther, sameId⟩ := List.mem_map.mp named
    rw [List.inj_on_of_nodup_map distinct member (listed other isOther) sameId.symm]
    exact isOther
  · exact fun isRow => List.mem_map_of_mem isRow

theorem totalLiveBytes_takes {kind : CaptureQueueState}
    (takes : Takes kind (captureIds rows) state after) (ends : kind.isLive = false) (nodup : rows.Nodup)
    (live : ∀ row ∈ rows, row ∈ state.queue ∧ row.ownerId = ownerId ∧ row.state.isLive = true) :
    after.totalLiveBytes ownerId + sumBytes rows = state.totalLiveBytes ownerId := by
  have listed : ∀ row ∈ rows, row ∈ state.queue := fun row member => (live row member).1
  have isRows : (state.queue.filter fun row => (row.ownerId == ownerId && row.state.isLive) &&
      (captureIds rows).contains row.evidenceId).Perm rows := by
    rw [List.perm_ext_iff_of_nodup (List.Nodup.filter _ (List.Nodup.of_map _ distinct)) nodup]
    intro row
    simp only [List.mem_filter, Bool.and_eq_true, beq_iff_eq, List.contains_iff_mem]
    constructor
    · rintro ⟨member, -, named⟩
      exact (mem_captureIds_iff distinct listed member).mp named
    · intro isRow
      obtain ⟨member, owned, isLive⟩ := live row isRow
      exact ⟨member, ⟨owned, isLive⟩, List.mem_map_of_mem isRow⟩
  unfold CaptureState.totalLiveBytes
  rw [takes.queue, taken, filter_updateWhere_leaving, ← sumBytes_perm isRows]
  · exact sumBytes_filter_add _ _ _
  · intro row _
    simp [ends]

end

section

variable [DecidableEq Digest] (platform : CapturePlatform Envelope Digest)

variable {ownerId : String} {middle : CaptureState Envelope Digest}

theorem Agrees.recordEvidence (agrees : Agrees state) {sourceEventId mimeType : String} {bytes : Bytes}
    {draw : EvidenceDraw} {record : EvidenceRow Digest}
    (recorded : state.evidence.recordBlobEvidence platform.toEvidencePlatform ownerId sourceEventId mimeType bytes draw = .ok (record, evidence)) :
    Agrees { state with evidence } :=
  ⟨agrees.distinct, fun row member isOpen => (agrees.held row member isOpen).recordBlobEvidence recorded, agrees.running⟩

/-- An extraction of a capture that it moved to `processing`: its pixels are there. -/
theorem Agrees.dispatch (agrees : Agrees state) {run : ExtractionRun} (admission recheck : ImageCapability)
    (auditFails : Bool) (member : row ∈ state.queue) (hasId : row.evidenceId = run.evidenceId)
    (isOpen : row.state.isFinal = false) :
    Agrees (state.dispatch platform run admission recheck auditFails).2 ∧
      KeepsFinal state (state.dispatch platform run admission recheck auditFails).2 := by
  have stays : Agrees state ∧ KeepsFinal state state := ⟨agrees, fun _ member _ => member⟩
  have held : Held state.evidence run.evidenceId := hasId ▸ agrees.held row member isOpen
  unfold CaptureState.dispatch
  split
  · exact stays
  next record required =>
    rw [held.hasReadableBlob (getEvidence_eq_some_of_ok required)]
    simp only
    split
    · exact stays
    · split
      · apply agrees.setState ?_ rfl
        intro other isOther otherId
        rw [agrees.eq_of_id isOther member (otherId.trans hasId.symm)]
        exact isOpen
      · refine ⟨⟨agrees.distinct, agrees.held, ?_⟩, fun _ member _ => member⟩
        exact forall_mem_snoc.mpr ⟨agrees.running, row, member, hasId, isOpen⟩

theorem Agrees.startRun (agrees : Agrees state) {run : ExtractionRun} (admission recheck : ImageCapability)
    (auditFails : Bool) (isOpen : ∀ row ∈ state.queue, row.evidenceId = run.evidenceId → row.state.isFinal = false) :
    Agrees (state.startRun platform run admission recheck auditFails).2 ∧
      KeepsFinal state (state.startRun platform run admission recheck auditFails).2 := by
  have stays : Agrees state ∧ KeepsFinal state state := ⟨agrees, fun _ member _ => member⟩
  unfold CaptureState.startRun
  split
  · exact stays
  next queued required =>
    split
    · exact stays
    · split
      · exact agrees.setState isOpen rfl
      · have moved := agrees.setState isOpen (rfl : CaptureQueueState.processing.isFinal = false)
        have found : queued ∈ state.queue ∧ queued.evidenceId = run.evidenceId := by
          unfold CaptureState.require CaptureState.get at required
          split at required
          next isFound =>
            cases required
            exact ⟨List.mem_of_find?_eq_some isFound, by simpa using List.find?_some isFound⟩
          · cases required
        have isMoved : { queued with state := .processing, updatedAtUtc := state.nowMs } ∈
            (state.setState run.evidenceId .processing).queue :=
          List.mem_map.mpr ⟨queued, found.1, by simp [found.2]⟩
        have dispatched := moved.1.dispatch platform admission recheck auditFails isMoved found.2 rfl
        exact ⟨dispatched.1, moved.2.trans dispatched.2⟩

/-! ## The pass -/

/-- The captures that the first loop of a pass meets and finds too old. -/
def oldRows (state : CaptureState Envelope Digest) (ownerId : String) (cutoff : Int) : List CaptureRow :=
  (state.listLiveOldestFirst ownerId).filter fun row => decide (row.enqueuedAtUtc < cutoff)

theorem runRetention_parts (state : CaptureState Envelope Digest) (toISOString : Int → String)
    (observation : ObservationConfig) (ownerId : String) (recordFails : String → Bool) :
    ∃ expired middle early late,
      Takes .expired expired state middle ∧
      (∀ id ∈ expired, id ∈ captureIds (oldRows state ownerId (retentionCutoff observation state.nowMs))) ∧
      Takes .evicted (captureIds early) middle (state.runRetention toISOString observation ownerId recordFails).2 ∧
      (early ≠ [] → expired = captureIds (oldRows state ownerId (retentionCutoff observation state.nowMs)) ∧
        middle.listLiveOldestFirst ownerId = early ++ late) ∧
      (∀ before row later, early = before ++ row :: later →
        rawStorageLimitBytes observation < ((middle.totalLiveBytes ownerId - sumBytes before : Int) : Rat)) ∧
      ∀ summary, (state.runRetention toISOString observation ownerId recordFails).1 = .ok summary →
        ((middle.totalLiveBytes ownerId - sumBytes early : Int) : Rat) ≤ rawStorageLimitBytes observation ∨
          middle.listLiveOldestFirst ownerId = early := by
  unfold CaptureState.runRetention
  simp only
  split
  · exact ⟨[], state, [], [], Takes.none _ _, by simp, Takes.none _ _, by simp, by simp, fun _ failed => nomatch failed⟩
  · obtain ⟨expired, takes, areOld, complete⟩ := takes_expireRows toISOString
      (retentionCutoff observation state.nowMs) recordFails (state.listLiveOldestFirst ownerId) state
    cases looped : CaptureState.expireRows toISOString (retentionCutoff observation state.nowMs) recordFails
        (state.listLiveOldestFirst ownerId) state with
    | mk ended middle =>
      rw [looped] at takes complete
      cases ended with
      | error failure =>
        exact ⟨expired, middle, [], [], takes, areOld, Takes.none _ _, by simp, by simp, fun _ failed => nomatch failed⟩
      | ok count =>
        have allOld := complete count rfl
        simp only
        split
        · obtain ⟨early, late, isListed, evicts, exceeded, ends⟩ := takes_evictRows toISOString
            (rawStorageLimitBytes observation) recordFails (middle.listLiveOldestFirst ownerId)
            (middle.totalLiveBytes ownerId) middle
          refine ⟨expired, middle, early, late, takes, areOld, evicts, fun _ => ⟨allOld, isListed⟩, exceeded, ?_⟩
          intro summary returned
          obtain ⟨evictedCount, evicted, -⟩ := map_eq_ok.mp returned
          rcases ends evictedCount evicted with isEmpty | within
          · right
            rw [isListed, isEmpty, List.append_nil]
          · exact Or.inl within
        next within =>
          refine ⟨expired, middle, [], [], takes, areOld, Takes.none _ _, by simp, by simp, fun _ _ => Or.inl ?_⟩
          simpa using not_lt.mp within

omit [DecidableEq Digest] in
theorem mem_oldRows {cutoff : Int} :
    row ∈ oldRows state ownerId cutoff ↔
      row ∈ state.queue ∧ row.ownerId = ownerId ∧ row.state.isRetirable = true ∧ row.enqueuedAtUtc < cutoff := by
  simp [oldRows, List.mem_filter, mem_listLiveOldestFirst, and_assoc]

omit [DecidableEq Digest] in
theorem listLiveOldestFirst_expired (distinct : (captureIds state.queue).Nodup) {cutoff : Int}
    (takes : Takes .expired (captureIds (oldRows state ownerId cutoff)) state middle) :
    middle.listLiveOldestFirst ownerId = evictable state ownerId cutoff := by
  have listed : ∀ row ∈ oldRows state ownerId cutoff, row ∈ state.queue := fun row isOld => (mem_oldRows.mp isOld).1
  unfold CaptureState.listLiveOldestFirst evictable
  rw [takes.queue, taken, filter_updateWhere_leaving]
  · congr 1
    apply List.filter_congr
    intro row member
    have isOld : (captureIds (oldRows state ownerId cutoff)).contains row.evidenceId = true ↔ row ∈ oldRows state ownerId cutoff := by
      rw [List.contains_iff_mem]
      exact mem_captureIds_iff distinct listed member
    rw [mem_oldRows] at isOld
    rw [Bool.eq_iff_iff]
    simp only [Bool.and_eq_true, beq_iff_eq, Bool.not_eq_true', decide_eq_true_eq, ← Bool.not_eq_true, isOld, not_and, not_lt]
    constructor
    · rintro ⟨retirable, young⟩
      exact ⟨retirable, young member retirable.1 retirable.2⟩
    · rintro ⟨retirable, young⟩
      exact ⟨retirable, fun _ _ _ => young⟩
  · intro row _
    simp [CaptureQueueState.isRetirable]

omit [DecidableEq Digest] in
theorem totalLiveBytes_expired (distinct : (captureIds state.queue).Nodup) {cutoff : Int}
    (takes : Takes .expired (captureIds (oldRows state ownerId cutoff)) state middle) :
    middle.totalLiveBytes ownerId + sumBytes (state.queue.filter (isExpiring ownerId cutoff)) = state.totalLiveBytes ownerId := by
  have same : (oldRows state ownerId cutoff).Perm (state.queue.filter (isExpiring ownerId cutoff)) := by
    unfold oldRows CaptureState.listLiveOldestFirst
    apply ((perm_orderBy _ _).filter _).trans
    rw [List.filter_filter]
    apply List.Perm.of_eq
    apply List.filter_congr
    intro row _
    simp [isExpiring, Bool.and_comm, Bool.and_left_comm]
  rw [← sumBytes_perm same]
  apply totalLiveBytes_takes distinct takes rfl
  · exact List.Nodup.filter _ (nodup_listLiveOldestFirst distinct ownerId)
  · intro row isOld
    obtain ⟨member, owned, retirable, -⟩ := mem_oldRows.mp isOld
    exact ⟨member, owned, isLive_of_isRetirable retirable⟩

omit [DecidableEq Digest] in
/-- A capture that a pass spares is not among those that it evicts. -/
theorem not_evicted_of_spares (distinct : (captureIds state.queue).Nodup) {observation : ObservationConfig}
    {early late before later : List CaptureRow}
    (takes : Takes .expired (captureIds (oldRows state ownerId (retentionCutoff observation state.nowMs))) state middle)
    (listed : middle.listLiveOldestFirst ownerId = early ++ late) (met : early = before ++ row :: later)
    (exceeds : rawStorageLimitBytes observation < ((middle.totalLiveBytes ownerId - sumBytes before : Int) : Rat)) :
    ¬ Spares state observation ownerId row := by
  rintro ⟨-, within⟩
  have ahead : (evictable state ownerId (retentionCutoff observation state.nowMs)).takeWhile
      (fun other => other.evidenceId != row.evidenceId) = before := by
    rw [← listLiveOldestFirst_expired distinct takes, listed, met, List.append_assoc, List.cons_append]
    rw [List.takeWhile_append_of_pos ?_, List.takeWhile_cons_of_neg (by simp), List.append_nil]
    intro other isBefore
    have middleDistinct : (captureIds middle.queue).Nodup := by
      unfold captureIds
      rw [takes.queue, taken, map_updateWhere ?_]
      · exact distinct
      · exact fun _ _ _ => rfl
    have nodup := nodup_listLiveOldestFirst middleDistinct ownerId
    have inListing : ∀ each, each = other ∨ each = row → each ∈ middle.queue := by
      intro each isEach
      apply (mem_listLiveOldestFirst.mp _).1
      · exact ownerId
      · rw [listed, met]
        rcases isEach with rfl | rfl
        · simp [isBefore]
        · simp
    rw [listed, met] at nodup
    simp only [bne_iff_ne, ne_eq]
    intro sameId
    have same : other = row :=
      List.inj_on_of_nodup_map middleDistinct (inListing other (Or.inl rfl)) (inListing row (Or.inr rfl)) sameId
    subst same
    simp only [List.append_assoc, List.cons_append, List.nodup_append] at nodup
    exact nodup.2.2 other isBefore other List.mem_cons_self rfl
  have total := totalLiveBytes_expired distinct takes
  rw [ahead] at within
  have sameTotal : (state.totalLiveBytes ownerId - sumBytes (state.queue.filter
      (isExpiring ownerId (retentionCutoff observation state.nowMs))) - sumBytes before : Int) =
        middle.totalLiveBytes ownerId - sumBytes before := by
    omega
  rw [sameTotal] at within
  exact absurd within (not_le.mpr exceeds)

/-- A pass that gets to no capture in hand keeps the invariant, and the pixels of those captures. -/
theorem Agrees.retention (agrees : Agrees state) (toISOString : Int → String) (observation : ObservationConfig)
    (ownerId : String) (recordFails : String → Bool)
    (spared : ∀ run ∈ state.runs, ∀ row ∈ state.queue, row.evidenceId = run.evidenceId → row.ownerId = ownerId →
      row.state.isRetirable = true → Spares state observation ownerId row) :
    Agrees (state.runRetention toISOString observation ownerId recordFails).2 ∧
      KeepsFinal state (state.runRetention toISOString observation ownerId recordFails).2 ∧
      ∀ run ∈ state.runs, Held (state.runRetention toISOString observation ownerId recordFails).2.evidence run.evidenceId := by
  obtain ⟨expired, middle, early, late, expires, areOld, evicts, listed, exceeded, -⟩ :=
    runRetention_parts state toISOString observation ownerId recordFails
  have rowOf : ∀ id ∈ expired, ∃ row ∈ state.queue, row.evidenceId = id ∧ row.ownerId = ownerId ∧
      row.state.isRetirable = true ∧ row.enqueuedAtUtc < retentionCutoff observation state.nowMs := by
    intro id isExpired
    obtain ⟨row, isOld, hasId⟩ := List.mem_map.mp (areOld id isExpired)
    obtain ⟨member, owned, retirable, old⟩ := mem_oldRows.mp isOld
    exact ⟨row, member, hasId, owned, retirable, old⟩
  have sparedExpiry : ∀ run ∈ state.runs, run.evidenceId ∉ expired := by
    intro run isRun isExpired
    obtain ⟨row, member, hasId, owned, retirable, old⟩ := rowOf _ isExpired
    have young := (spared run isRun row member hasId owned retirable).1
    omega
  have afterExpiry := agrees.takes expires rfl (by
    intro row member isExpired
    obtain ⟨other, isOther, sameId, -, retirable, -⟩ := rowOf _ isExpired
    rw [← agrees.eq_of_id isOther member sameId]
    exact isFinal_of_isRetirable retirable) sparedExpiry
  have listing : ∀ row ∈ early, row ∈ middle.queue ∧ row.ownerId = ownerId ∧ row.state.isRetirable = true := by
    intro row isEarly
    rw [← mem_listLiveOldestFirst, (listed (List.ne_nil_of_mem isEarly)).2]
    exact List.mem_append_left _ isEarly
  have sparedEviction : ∀ run ∈ middle.runs, run.evidenceId ∉ captureIds early := by
    intro run isRun named
    rw [expires.runs] at isRun
    obtain ⟨row, isEarly, hasId⟩ := List.mem_map.mp named
    obtain ⟨isMiddle, owned, retirable⟩ := listing row isEarly
    obtain ⟨allOld, isListing⟩ := listed (List.ne_nil_of_mem isEarly)
    -- the first loop left the row as it was
    have member : row ∈ state.queue := by
      rw [expires.queue] at isMiddle
      obtain ⟨stored, isStored, rfl⟩ := List.mem_map.mp isMiddle
      by_cases isExpired : stored.evidenceId ∈ expired
      · simp [isExpired, CaptureQueueState.isRetirable] at retirable
      · simpa [isExpired] using isStored
    obtain ⟨before, later, met⟩ := List.append_of_mem isEarly
    rw [allOld] at expires
    exact not_evicted_of_spares agrees.distinct expires isListing met (exceeded before row later met)
      (spared run isRun row member hasId owned retirable)
  have afterEviction := afterExpiry.1.takes evicts rfl (by
    intro row member isEvicted
    have isEarly := (mem_captureIds_iff afterExpiry.1.distinct (fun other isOther => (listing other isOther).1) member).mp
      isEvicted
    exact isFinal_of_isRetirable (listing row isEarly).2.2) sparedEviction
  refine ⟨afterEviction.1, afterExpiry.2.trans afterEviction.2, ?_⟩
  intro run isRun
  obtain ⟨row, member, hasId, isOpen⟩ := agrees.running run isRun
  have held : Held state.evidence run.evidenceId := hasId ▸ agrees.held row member isOpen
  exact evicts.held _ (sparedEviction run (expires.runs ▸ isRun)) (expires.held _ (sparedExpiry run isRun) held)

/-- A pass that returns is within the limit, or leaves of its owner's live captures only those being processed. -/
theorem runRetention_limit (distinct : (captureIds state.queue).Nodup) (toISOString : Int → String)
    (observation : ObservationConfig) (ownerId : String) (recordFails : String → Bool) {summary : CaptureState.CaptureRetentionSummary}
    (returned : (state.runRetention toISOString observation ownerId recordFails).1 = .ok summary) :
    (((state.runRetention toISOString observation ownerId recordFails).2.totalLiveBytes ownerId : Int) : Rat) ≤
        rawStorageLimitBytes observation ∨
      ∀ row ∈ (state.runRetention toISOString observation ownerId recordFails).2.queue,
        row.ownerId = ownerId → row.state.isLive = true → row.state = .processing := by
  obtain ⟨expired, middle, early, late, expires, -, evicts, listed, -, ends⟩ :=
    runRetention_parts state toISOString observation ownerId recordFails
  have middleDistinct : (captureIds middle.queue).Nodup := by
    unfold captureIds
    rw [expires.queue, taken, map_updateWhere ?_]
    · exact distinct
    · exact fun _ _ _ => rfl
  have listing : ∀ row ∈ early, row ∈ middle.listLiveOldestFirst ownerId := by
    intro row isEarly
    rw [(listed (List.ne_nil_of_mem isEarly)).2]
    exact List.mem_append_left _ isEarly
  rcases ends summary returned with within | isAll
  · left
    have nodup : early.Nodup := by
      cases early with
      | nil => exact List.nodup_nil
      | cons row rest =>
        have all := nodup_listLiveOldestFirst middleDistinct ownerId
        rw [(listed (List.cons_ne_nil row rest)).2, List.nodup_append] at all
        exact all.1
    have total := totalLiveBytes_takes middleDistinct evicts rfl nodup (by
      intro row isEarly
      obtain ⟨member, owned, retirable⟩ := mem_listLiveOldestFirst.mp (listing row isEarly)
      exact ⟨member, owned, isLive_of_isRetirable retirable⟩)
    have same : ((state.runRetention toISOString observation ownerId recordFails).2.totalLiveBytes ownerId : Int) =
        middle.totalLiveBytes ownerId - sumBytes early := by
      omega
    rw [same]
    exact within
  · right
    intro row member owned live
    rw [evicts.queue] at member
    obtain ⟨stored, isStored, rfl⟩ := List.mem_map.mp member
    by_cases isEvicted : stored.evidenceId ∈ captureIds early
    · simp [isEvicted, CaptureQueueState.isLive] at live
    · simp only [List.contains_iff_mem, isEvicted, if_false] at owned live ⊢
      apply eq_processing live
      cases retirable : stored.state.isRetirable with
      | false => rfl
      | true =>
        -- every retirable capture of the owner was evicted
        have isListed := mem_listLiveOldestFirst.mpr ⟨isStored, owned, retirable⟩
        rw [isAll] at isListed
        exact absurd (List.mem_map_of_mem isListed) isEvicted

end

end

/-! ## Runs -/

variable {state : CaptureState Envelope Digest}

section

variable [DecidableEq Digest] (platform : CapturePlatform Envelope Digest)

theorem Agrees.step {event : CaptureEvent} (agrees : Agrees state)
    (readable : EnqueuesReadable state event) (handsOff : KeepsHandsOff state event) :
    Agrees (step platform state event) ∧ KeepsFinal state (step platform state event) := by
  obtain ⟨elapsed, call⟩ := event
  have advanced : Agrees (state.advance elapsed) := ⟨agrees.distinct, agrees.held, agrees.running⟩
  unfold Captures.step CaptureState.answerCall
  cases call with
  | recordEvidence ownerId sourceEventId mimeType bytes draw =>
    simp only
    split
    next recorded => exact ⟨advanced.recordEvidence platform recorded, fun _ member _ => member⟩
    · exact ⟨advanced, fun _ member _ => member⟩
  | enqueue input => exact advanced.enqueue (held_of_hasPixels readable handsOff)
  | startRun run admission recheck auditFails => exact advanced.startRun platform admission recheck auditFails handsOff
  | finishRun position outcome => exact advanced.finishRun position outcome
  | retention observation ownerId recordFails =>
    have passed := advanced.retention platform.toISOString observation ownerId recordFails handsOff
    exact ⟨passed.1, passed.2.1⟩
  | recoverStranded ownerId liveEvidenceIds => exact advanced.recoverStrandedProcessing ownerId liveEvidenceIds
  | cleanUpStranded ownerId liveEvidenceIds auditFails => exact advanced.cleanUpStranded ownerId liveEvidenceIds auditFails

/-- The calls of a run that enqueues readable evidence and keeps its hands off retired captures. -/
def IsCareful (state : CaptureState Envelope Digest) (event : CaptureEvent) : Prop :=
  EnqueuesReadable state event ∧ KeepsHandsOff state event

variable {start : CaptureState Envelope Digest} (agrees : Agrees start)

section

variable {events : List CaptureEvent} (careful : Runs.Throughout (step platform) IsCareful start events)

include careful

include agrees in
theorem agrees_run :
    Agrees (Runs.run (step platform) start events) :=
  Runs.run_invariant_throughout Agrees (fun _ _ agrees met => (agrees.step platform met.1 met.2).1) agrees careful

include agrees in
theorem keepsFinal_run :
    KeepsFinal start (Runs.run (step platform) start events) := by
  induction events generalizing start with
  | nil => exact fun _ member _ => member
  | cons event events ih =>
    have stepped := agrees.step platform careful.1.1 careful.1.2
    exact stepped.2.trans (ih stepped.1 careful.2)

end

end

/-! ## Samples -/

def sampleCapturePlatform : CapturePlatform (Bytes × Bytes) Bytes :=
  { samplePlatform with toISOString := fun milliseconds => toString milliseconds, isImageDataUrl := fun _ _ => true }

def emptyEvidence : EvidenceState (Bytes × Bytes) Bytes := ⟨[], [], fun _ => none⟩

def sampleObservation : ObservationConfig where
  RawRetentionHours := 72
  RawStorageLimitGb := 5

def recordPixels : CaptureEvent where
  elapsed := 0
  call := .recordEvidence "owner" "capture:1" "image/png" [104, 105] ⟨"blob_1", "ev_1", []⟩

def enqueueCapture : CaptureEvent where
  elapsed := 0
  call := .enqueue
    { ownerId := "owner", evidenceId := "ev_1", state := .queued, foregroundContextKey := "editor", pixelSha256 := "hi",
      perceptualHash := "0", byteLength := 2 }

def liveRuntime : ImageCapability := ⟨some "runtime_1", true, true⟩

def noRuntime : ImageCapability := ⟨none, false, false⟩

def startExtraction (capability : ImageCapability) : CaptureEvent where
  elapsed := 0
  call := .startRun ⟨"owner", "ev_1"⟩ capability capability false

/-- The scheduled pass, four days later. -/
def retainAfterDays : CaptureEvent where
  elapsed := 345600000
  call := .retention sampleObservation "owner" fun _ => false

/-- An extraction whose capture is too old when the pass comes, and that ends after it. -/
def slowExtraction : List CaptureEvent :=
  [recordPixels, enqueueCapture, startExtraction liveRuntime, retainAfterDays, ⟨0, .finishRun 0 (.ok false)⟩, retainAfterDays]

/-- A pass gets to none of the captures in hand when none of them is retirable. -/
theorem keepsHandsOff_of_processing {elapsed : Int} {observation : ObservationConfig} {recordFails : String → Bool}
    (inHand : ∀ run ∈ state.runs, ∀ row ∈ state.queue, row.evidenceId = run.evidenceId → row.state.isRetirable = false) :
    KeepsHandsOff state ⟨elapsed, .retention observation ownerId recordFails⟩ := by
  intro run isRun row member hasId _ retirable
  rw [inHand run isRun row member hasId] at retirable
  cases retirable

theorem recorded_is_readable :
    hasPixels (step sampleCapturePlatform (opened 0 emptyEvidence) recordPixels).evidence "ev_1" = true := by
  decide +kernel

/-- The extraction of a queued capture starts when retention has already retired it, and no runtime is there. -/
def lateExtraction : List CaptureEvent := [recordPixels, enqueueCapture, retainAfterDays, startExtraction noRuntime]

end SiftKit.Assistant.Captures
