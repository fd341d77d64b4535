import Mathlib.Algebra.Order.Ring.Rat
import Mathlib.Algebra.Ring.Nat
import SiftKit.Assistant.EvidenceStore
import SiftKit.Foundation.Runs

/-! # Screenshot captures

The capture queue of `assistant/images/capture-queue-store.ts`, over the evidence store that holds the
pixels, and what changes it: intake, the extractor of `image-extractor.ts`, the retention pass of
`capture-retention.ts`, and the recovery of captures whose worker is gone.  The extractor is split where
it awaits the model.  Instants are milliseconds: their ISO texts compare as they do.
-/

namespace SiftKit.Assistant.Captures

open SiftKit.Assistant SiftKit.Failure SiftKit.Json SiftKit.Tables

/-! ## Rows -/

inductive CaptureQueueState where
  | queued
  | awaitingImageCapability
  | processing
  | processed
  | expired
  | evicted
  | discarded
  deriving DecidableEq, Repr

namespace CaptureQueueState

/-- `LIVE_CAPTURE_STATES`: their pixels are on disk. -/
def isLive : CaptureQueueState → Bool
  | .queued | .awaitingImageCapability | .processing | .processed => true
  | .expired | .evicted | .discarded => false

def isRetirable : CaptureQueueState → Bool
  | .queued | .awaitingImageCapability | .processed => true
  | .processing | .expired | .evicted | .discarded => false

/-- What retention leaves behind. -/
def isFinal : CaptureQueueState → Bool
  | .expired | .evicted => true
  | .queued | .awaitingImageCapability | .processing | .processed | .discarded => false

end CaptureQueueState

/-- A row of `assistant_capture_queue`. -/
structure CaptureRow where
  evidenceId : String
  ownerId : String
  state : CaptureQueueState
  foregroundContextKey : String
  pixelSha256 : String
  perceptualHash : String
  byteLength : Nat
  enqueuedAtUtc : Int
  processedAtUtc : Option Int
  updatedAtUtc : Int
  deriving DecidableEq

structure EnqueueCaptureInput where
  ownerId : String
  evidenceId : String
  state : CaptureQueueState
  foregroundContextKey : String
  pixelSha256 : String
  perceptualHash : String
  byteLength : Nat

/-- `AssistantImageCapability`. -/
structure ImageCapability where
  instanceId : Option String
  visionCapable : Bool
  healthy : Bool
  deriving DecidableEq

def isUsableCapability (capability : ImageCapability) : Bool :=
  capability.visionCapable && capability.healthy && capability.instanceId.isSome

/-- An extraction that awaits the model. -/
structure ExtractionRun where
  ownerId : String
  evidenceId : String
  deriving DecidableEq

/-- The clock, the evidence, the queue, and the extractions that await the model. -/
structure CaptureState (Envelope Digest : Type) where
  nowMs : Int
  evidence : EvidenceState Envelope Digest
  queue : List CaptureRow
  runs : List ExtractionRun

/-- The platform of the evidence store, the texts of instants, and the schema of an image. -/
structure CapturePlatform (Envelope Digest : Type) extends EvidencePlatform Envelope Digest where
  toISOString : Int → String
  /-- `ImageDataUrlSchema` accepts the data URL of a content. -/
  isImageDataUrl : String → Bytes → Bool

/-- The part of `AssistantConfig.Observation` that retention reads. -/
structure ObservationConfig where
  RawRetentionHours : Nat
  RawStorageLimitGb : Rat

def HOUR_MS : Int := 3600000

/-- The first instant of a date. -/
def MIN_DATE_MS : Int := -8640000000000000

def BYTES_PER_GB : Rat := 1073741824

def rawStorageLimitBytes (observation : ObservationConfig) : Rat := observation.RawStorageLimitGb * BYTES_PER_GB

/-- The instant before which a capture has expired. -/
def retentionCutoff (observation : ObservationConfig) (nowMs : Int) : Int :=
  nowMs - observation.RawRetentionHours * HOUR_MS

def unknownCapture (evidenceId : String) : Thrown := .error s!"Unknown capture queue entry: {evidenceId}"

def noStoredImage (evidenceId : String) : Thrown := .error s!"Screenshot evidence {evidenceId} has no stored image."

def duplicateCapture : Thrown := .error "UNIQUE constraint failed: assistant_capture_queue.evidence_id"

def noSuchReference : Thrown := .error "FOREIGN KEY constraint failed"

def notPositive : Thrown := .error "CHECK constraint failed: byte_length > 0"

def invalidTimeValue : Thrown := .error "Invalid time value"

def notRecorded : Thrown := .error "The audit event or a confidence could not be written."

section

variable {Envelope Digest : Type}

/-! ## The queue -/

/-- `ORDER BY enqueued_at_utc ASC, evidence_id ASC`. -/
def isEnqueuedBefore (left right : CaptureRow) : Bool :=
  if left.enqueuedAtUtc ≠ right.enqueuedAtUtc then decide (left.enqueuedAtUtc < right.enqueuedAtUtc)
  else decide (left.evidenceId ≤ right.evidenceId)

def sumBytes (rows : List CaptureRow) : Nat := (rows.map fun row => row.byteLength).sum

namespace CaptureState

variable (state : CaptureState Envelope Digest)

def get (evidenceId : String) : Option CaptureRow := state.queue.find? fun row => row.evidenceId == evidenceId

def require (evidenceId : String) : Except Thrown CaptureRow :=
  match state.get evidenceId with
  | some row => .ok row
  | none => .error (unknownCapture evidenceId)

/-- The row that an enqueue inserts. -/
def newRow (input : EnqueueCaptureInput) : CaptureRow where
  evidenceId := input.evidenceId
  ownerId := input.ownerId
  state := input.state
  foregroundContextKey := input.foregroundContextKey
  pixelSha256 := input.pixelSha256
  perceptualHash := input.perceptualHash
  byteLength := input.byteLength
  enqueuedAtUtc := state.nowMs
  processedAtUtc := none
  updatedAtUtc := state.nowMs

def enqueue (input : EnqueueCaptureInput) : Except Thrown (CaptureRow × CaptureState Envelope Digest) := do
  throwWhen (input.byteLength == 0) notPositive
  throwWhen (state.evidence.getEvidence input.evidenceId).isNone noSuchReference
  throwWhen (state.queue.any fun row => row.evidenceId == input.evidenceId) duplicateCapture
  return (state.newRow input, { state with queue := state.queue ++ [state.newRow input] })

/-- `UPDATE … WHERE evidence_id = ?`; every caller has read the row, so that `require` finds it again. -/
def setState (evidenceId : String) (next : CaptureQueueState) : CaptureState Envelope Digest :=
  { state with
    queue := updateWhere (fun row => row.evidenceId == evidenceId)
      (fun row => { row with state := next, updatedAtUtc := state.nowMs }) state.queue }

def markProcessed (evidenceId : String) : CaptureState Envelope Digest :=
  { state with
    queue := updateWhere (fun row => row.evidenceId == evidenceId)
      (fun row => { row with
        state := .processed, processedAtUtc := some state.nowMs, updatedAtUtc := state.nowMs }) state.queue }

/-- `STRANDED_PROCESSING_PREDICATE`, for an owner. -/
def isStranded (ownerId : String) (liveEvidenceIds : List String) (row : CaptureRow) : Bool :=
  row.ownerId == ownerId && row.state == .processing && !liveEvidenceIds.contains row.evidenceId

def recoverStrandedProcessing (ownerId : String) (liveEvidenceIds : List String) : CaptureState Envelope Digest :=
  { state with
    queue := updateWhere (isStranded ownerId liveEvidenceIds)
      (fun row => { row with state := .queued, updatedAtUtc := state.nowMs }) state.queue }

def listStrandedProcessing (ownerId : String) (liveEvidenceIds : List String) : List CaptureRow :=
  orderBy isEnqueuedBefore (state.queue.filter (isStranded ownerId liveEvidenceIds))

def listLiveOldestFirst (ownerId : String) : List CaptureRow :=
  orderBy isEnqueuedBefore (state.queue.filter fun row => row.ownerId == ownerId && row.state.isRetirable)

def totalLiveBytes (ownerId : String) : Nat :=
  sumBytes (state.queue.filter fun row => row.ownerId == ownerId && row.state.isLive)

end CaptureState

/-! ## The pixels -/

/-- Whether this evidence still has pixels to read. -/
def hasReadableBlob (evidence : EvidenceState Envelope Digest) (record : EvidenceRow Digest) : Except Thrown Bool :=
  match record.blobId with
  | none => .ok false
  | some blobId => (evidence.requireBlob blobId).map fun blob => blob.deletedAtUtc.isNone

namespace CaptureState

variable [DecidableEq Digest] (platform : CapturePlatform Envelope Digest) (state : CaptureState Envelope Digest)

/-- The type and the bytes of the image's data URL. -/
def readImageDataUrl (record : EvidenceRow Digest) : Except Thrown (String × Bytes) :=
  match record.blobId with
  | none => .error (noStoredImage record.id)
  | some blobId => do
    let bytes ← state.evidence.readBlobBytes platform.toEvidencePlatform blobId
    throwWhen (!platform.isImageDataUrl record.mimeType bytes) .invalid
    return (record.mimeType, bytes)

/-! ## The extractor -/

omit [DecidableEq Digest] in
/-- The audit event comes first, and may fail. -/
def discardDeletedBlob (evidenceId : String) (auditFails : Bool) : Except Thrown Unit × CaptureState Envelope Digest :=
  if auditFails then (.error notRecorded, state) else (.ok (), state.markProcessed evidenceId)

/-- Where an extraction gets without awaiting the model. -/
inductive Admission where
  | alreadyProcessed
  | awaitingCapability
  | rejected
  | dispatched (mimeType : String) (bytes : Bytes)

/-- `run` from the admitted state, with the second reading of the capability. -/
def dispatch (run : ExtractionRun) (admission recheck : ImageCapability) (auditFails : Bool) :
    Except Thrown Admission × CaptureState Envelope Digest :=
  match state.evidence.requireEvidence run.evidenceId with
  | .error failure => (.error failure, state)
  | .ok evidence =>
    match hasReadableBlob state.evidence evidence with
    | .error failure => (.error failure, state)
    | .ok false =>
      let (ended, after) := state.discardDeletedBlob run.evidenceId auditFails
      (ended.map fun _ => .rejected, after)
    | .ok true =>
      match state.readImageDataUrl platform evidence with
      | .error failure => (.error failure, state)
      | .ok (mimeType, bytes) =>
        if recheck.instanceId ≠ admission.instanceId then
          (.ok .awaitingCapability, state.setState run.evidenceId .awaitingImageCapability)
        else (.ok (.dispatched mimeType bytes), { state with runs := state.runs ++ [run] })

/-- `ImageExtractor.run` up to its await. -/
def startRun (run : ExtractionRun) (admission recheck : ImageCapability) (auditFails : Bool) :
    Except Thrown Admission × CaptureState Envelope Digest :=
  match state.require run.evidenceId with
  | .error failure => (.error failure, state)
  | .ok queued =>
    if queued.state = .processed then (.ok .alreadyProcessed, state)
    else if !isUsableCapability admission then
      (.ok .awaitingCapability, state.setState run.evidenceId .awaitingImageCapability)
    else (state.setState run.evidenceId .processing).dispatch platform run admission recheck auditFails

end CaptureState

/-- What becomes of an extraction after its await: the runner throws, its output is of no use, or the statements
are stored; the audit event and the transaction of the statements may fail. -/
inductive ModelOutcome where
  | threw
  | notOk (auditFails : Bool)
  | ok (storeFails : Bool)
  deriving DecidableEq

def ModelOutcome.marksProcessed : ModelOutcome → Bool
  | .threw | .notOk true | .ok true => false
  | .notOk false | .ok false => true

namespace CaptureState

variable (state : CaptureState Envelope Digest)

/-- `ImageExtractor.run` from its await on; the statements are kept in tables of their own. -/
def finishRun (position : Nat) (outcome : ModelOutcome) : CaptureState Envelope Digest :=
  match state.runs[position]? with
  | none => state
  | some run =>
    let ended := { state with runs := state.runs.eraseIdx position }
    if outcome.marksProcessed then ended.markProcessed run.evidenceId else ended

/-! ## Recovery by the cleanup -/

/-- `GraphCleanupService.run`: the stranded captures without pixels are discarded, the others queued again; an audit
event that fails rolls all of it back. -/
def discardRows (auditFails : Bool) : List CaptureRow → CaptureState Envelope Digest →
    Except Thrown (CaptureState Envelope Digest)
  | [], state => .ok state
  | row :: rest, state => do
    let record ← state.evidence.requireEvidence row.evidenceId
    let readable ← hasReadableBlob state.evidence record
    if readable then discardRows auditFails rest state
    else
      match state.discardDeletedBlob row.evidenceId auditFails with
      | (.error failure, _) => .error failure
      | (.ok (), after) => discardRows auditFails rest after

def cleanUpStranded (ownerId : String) (liveEvidenceIds : List String) (auditFails : Bool) :
    CaptureState Envelope Digest :=
  match discardRows auditFails (state.listStrandedProcessing ownerId liveEvidenceIds) state with
  | .error _ => state
  | .ok discarded => discarded.recoverStrandedProcessing ownerId liveEvidenceIds

/-! ## Retention -/

variable [DecidableEq Digest]

/-- `retire`: the state is set first, and what follows may fail. -/
def retire (toISOString : Int → String) (row : CaptureRow) (kind : CaptureQueueState) (recordFails : String → Bool) :
    Except Thrown Unit × CaptureState Envelope Digest :=
  let marked := state.setState row.evidenceId kind
  match marked.evidence.expireEvidence row.evidenceId (toISOString state.nowMs) with
  | .error failure => (.error failure, marked)
  | .ok (_, evidence) =>
    (if recordFails row.evidenceId then .error notRecorded else .ok (), { marked with evidence })

/-- The first loop: what is older than the cutoff expires. -/
def expireRows (toISOString : Int → String) (cutoff : Int) (recordFails : String → Bool) :
    List CaptureRow → CaptureState Envelope Digest → Except Thrown Nat × CaptureState Envelope Digest
  | [], state => (.ok 0, state)
  | row :: rest, state =>
    if row.enqueuedAtUtc < cutoff then
      match state.retire toISOString row .expired recordFails with
      | (.error failure, after) => (.error failure, after)
      | (.ok (), after) =>
        let (expired, last) := expireRows toISOString cutoff recordFails rest after
        (expired.map fun count => count + 1, last)
    else expireRows toISOString cutoff recordFails rest state

/-- The second loop: the oldest are evicted as long as the total exceeds the limit. -/
def evictRows (toISOString : Int → String) (limitBytes : Rat) (recordFails : String → Bool) :
    Int → List CaptureRow → CaptureState Envelope Digest → Except Thrown Nat × CaptureState Envelope Digest
  | _, [], state => (.ok 0, state)
  | totalBytes, row :: rest, state =>
    if (totalBytes : Rat) ≤ limitBytes then (.ok 0, state)
    else
      match state.retire toISOString row .evicted recordFails with
      | (.error failure, after) => (.error failure, after)
      | (.ok (), after) =>
        let (evicted, last) := evictRows toISOString limitBytes recordFails (totalBytes - row.byteLength) rest after
        (evicted.map fun count => count + 1, last)

structure CaptureRetentionSummary where
  expired : Nat
  evicted : Nat
  deriving DecidableEq

/-- `CaptureRetentionService.run`. -/
def runRetention (toISOString : Int → String) (observation : ObservationConfig) (ownerId : String)
    (recordFails : String → Bool) : Except Thrown CaptureRetentionSummary × CaptureState Envelope Digest :=
  let cutoff := retentionCutoff observation state.nowMs
  if cutoff < MIN_DATE_MS then (.error invalidTimeValue, state)
  else
    match expireRows toISOString cutoff recordFails (state.listLiveOldestFirst ownerId) state with
    | (.error failure, after) => (.error failure, after)
    | (.ok expired, after) =>
      let limitBytes := rawStorageLimitBytes observation
      let totalBytes : Int := after.totalLiveBytes ownerId
      if limitBytes < (totalBytes : Rat) then
        let (evicted, last) := evictRows toISOString limitBytes recordFails totalBytes (after.listLiveOldestFirst ownerId) after
        (evicted.map fun evicted => { expired, evicted }, last)
      else (.ok { expired, evicted := 0 }, after)

end CaptureState

/-! ## Calls -/

/-- One synchronous stretch of the service. -/
inductive CaptureCall where
  | recordEvidence (ownerId sourceEventId mimeType : String) (bytes : Bytes) (draw : EvidenceDraw)
  | enqueue (input : EnqueueCaptureInput)
  | startRun (run : ExtractionRun) (admission recheck : ImageCapability) (auditFails : Bool)
  | finishRun (position : Nat) (outcome : ModelOutcome)
  | retention (observation : ObservationConfig) (ownerId : String) (recordFails : String → Bool)
  | recoverStranded (ownerId : String) (liveEvidenceIds : List String)
  | cleanUpStranded (ownerId : String) (liveEvidenceIds : List String) (auditFails : Bool)

/-- A call, and the milliseconds since the one before it. -/
structure CaptureEvent where
  elapsed : Int
  call : CaptureCall

variable [DecidableEq Digest] (platform : CapturePlatform Envelope Digest)

namespace CaptureState

omit [DecidableEq Digest] in
def advance (state : CaptureState Envelope Digest) (elapsed : Int) : CaptureState Envelope Digest :=
  { state with nowMs := state.nowMs + elapsed }

def answerCall (state : CaptureState Envelope Digest) : CaptureCall → CaptureState Envelope Digest
  | .recordEvidence ownerId sourceEventId mimeType bytes draw =>
    match state.evidence.recordBlobEvidence platform.toEvidencePlatform ownerId sourceEventId mimeType bytes draw with
    | .ok (_, evidence) => { state with evidence }
    | .error _ => state
  | .enqueue input => committed state (state.enqueue input)
  | .startRun run admission recheck auditFails => (state.startRun platform run admission recheck auditFails).2
  | .finishRun position outcome => state.finishRun position outcome
  | .retention observation ownerId recordFails =>
    (state.runRetention platform.toISOString observation ownerId recordFails).2
  | .recoverStranded ownerId liveEvidenceIds => state.recoverStrandedProcessing ownerId liveEvidenceIds
  | .cleanUpStranded ownerId liveEvidenceIds auditFails => state.cleanUpStranded ownerId liveEvidenceIds auditFails

end CaptureState

def step (state : CaptureState Envelope Digest) (event : CaptureEvent) : CaptureState Envelope Digest :=
  (state.advance event.elapsed).answerCall platform event.call

end

end SiftKit.Assistant.Captures
