import SiftKit.Assistant.AssertionViews
import SiftKit.Assistant.Captures
import SiftKit.Assistant.JobCalls
import SiftKit.Assistant.PreviewTokens
import SiftKit.Graph.SearchIndexContract

/-! # The cleanup of the graph

`assistant/control/graph-cleanup-service.ts`, with the validation of its token in `deletion-preview.ts`, over the
tables that it reads: the graph, the captures with their evidence, and the jobs.  What goes on between a preview and a
run is one call after the other.
-/

namespace SiftKit.Assistant.Cleanup

open SiftKit.Assistant.Captures
open SiftKit.Assistant.Memory (OWNER_PERSON_CANONICAL_KEY)
open SiftKit.Failure SiftKit.Graph SiftKit.Json SiftKit.Tables

/-! ## Tables -/

inductive EvidenceSourceType where
  | conversation_message
  | question_answer
  | manual_correction
  | manual_import
  | desktop_activity
  | screenshot
  | accessibility_snapshot
  | ocr_result
  | mobile_event
  deriving DecidableEq

/-- The columns of `evidence_records` that the evidence store does not read. -/
structure EvidenceClass where
  evidenceId : String
  ownerId : String
  sourceType : EvidenceSourceType
  sensitivity : Sensitivity
  deriving DecidableEq

/-- A row of `assertion_evidence`, less its stance and its weight. -/
structure AssertionEvidence where
  assertionId : String
  evidenceId : String
  deriving DecidableEq

structure AssistantState (Envelope Digest : Type) where
  captures : CaptureState Envelope Digest
  jobs : JobTable
  graph : GraphState
  graphVersion : Nat
  classes : List EvidenceClass
  links : List AssertionEvidence
  /-- The secret of the preview tokens, in base64url. -/
  previewSecret : Option JsString

structure AssistantPlatform (Envelope Digest : Type) extends CapturePlatform Envelope Digest where
  text : TextPlatform
  /-- `createHmac('sha256', secret).update(text).digest()`. -/
  hmac : Bytes → JsString → Bytes
  /-- The evidence id in the payload of an extraction job, which never changes; none where it does not parse. -/
  extractionEvidenceId : String → Option String

/-- What a cleanup throws. -/
inductive CleanupFailure where
  | thrown (failure : Thrown)
  | graph (message : ErrorMessage)
  | job (failure : JobFailure)

/-- `RELATION_DEFINITIONS[predicate].defaultSensitivity`. -/
def defaultSensitivity : RelationType → Sensitivity
  | .LIVES_IN | .VISITED => .sensitive
  | .HAS_SETTING | .HAS_COMPONENT | .RUNS_ON | .DEPENDS_ON | .CONFIGURED_WITH | .COMPARED_WITH | .TESTED_WITH
  | .RELATED_TO | .PART_OF => .low
  | .OWNS | .USES | .PREFERS | .DISLIKES | .AVOIDS | .WORKS_ON | .CREATED | .CONTRIBUTED_TO | .EMPLOYED_BY | .HAS_ROLE
  | .LOCATED_IN | .INTERESTED_IN | .READ | .WATCHED | .PLAYED | .DRIVES | .RIDES | .HAS_GOAL | .HAS_PLAN
  | .HAS_ROUTINE | .HAS_CONSTRAINT | .RESULTED_IN | .CAUSED_BY | .ABOUT | .MENTIONED_IN | .OBSERVED_DURING
  | .ASKED_ABOUT => .personal

/-! ## Plans -/

structure GraphCleanupPlan where
  orphanNodeIds : List String
  resumableCaptureIds : List String
  discardableCaptureIds : List String
  reclassifiableEvidenceIds : List String
  reclassifiableAssertionIds : List String
  deriving DecidableEq

def GraphCleanupPlan.counts (plan : GraphCleanupPlan) : GraphCleanupCounts where
  orphanNodes := plan.orphanNodeIds.length
  resumableCaptures := plan.resumableCaptureIds.length
  discardableCaptures := plan.discardableCaptureIds.length
  reclassifiableEvidence := plan.reclassifiableEvidenceIds.length
  reclassifiableAssertions := plan.reclassifiableAssertionIds.length

structure AssistantGraphCleanupPreview where
  previewToken : JsString
  graphVersion : Nat
  orphanNodeIds : List String
  resumableCaptureIds : List String
  discardableCaptureIds : List String
  reclassifiableEvidenceCount : Nat
  reclassifiableAssertionCount : Nat

structure GraphCleanupResult where
  nodesDeleted : Nat
  capturesRequeued : Nat
  capturesDiscarded : Nat
  evidenceReclassified : Nat
  assertionsReclassified : Nat
  deriving DecidableEq

/-- `Object.values(result).some((count) => count > 0)`. -/
def GraphCleanupResult.changes (result : GraphCleanupResult) : Bool :=
  [result.nodesDeleted, result.capturesRequeued, result.capturesDiscarded, result.evidenceReclassified,
    result.assertionsReclassified].any fun count => 0 < count

/-- `ORDER BY id ASC`, and the ids. -/
def idsOf {Row : Type} (id : Row → String) (rows : List Row) : List String :=
  (orderBy (fun left right => decide (id left ≤ id right)) rows).map id

/-- A person node that no assertion refers to, into which nothing was merged, and which the owner has not named. -/
def isOrphan (graph : GraphState) (row : NodeRow) : Bool :=
  row.type == .person && row.status == .active && row.canonicalKey != some OWNER_PERSON_CANONICAL_KEY &&
    !graph.assertions.rows.any (fun assertion =>
      assertion.subjectNodeId == row.id || assertion.objectNodeId == some row.id ||
        assertion.scopeNodeId == some row.id) &&
    !graph.nodes.rows.any (fun merged => merged.mergedIntoNodeId == some row.id) &&
    !graph.aliases.any (fun named => named.nodeId == row.id && named.aliasType == .user_supplied)

def orphanPersonNodeIds (graph : GraphState) : List String :=
  idsOf NodeRow.id (graph.nodes.rows.filter (isOrphan graph))

namespace AssistantState

variable {Envelope Digest : Type} (platform : AssistantPlatform Envelope Digest) (state : AssistantState Envelope Digest)

/-- The live jobs of an owner, in whatever order. -/
def liveJobs (ownerId : String) : List JobRow :=
  [JobStatus.queued, .running, .paused].flatMap fun status =>
    state.jobs.filter fun job => job.ownerId == ownerId && job.status == status

def listLiveImageExtractionEvidenceIds (ownerId : String) : Except Thrown (List String) :=
  ((state.liveJobs ownerId).filter fun job => job.jobType == .imageExtraction).mapM fun job =>
    orInvalid (platform.extractionEvidenceId job.id)

/-- `this.graph.evidence.hasReadableBlob(this.graph.evidence.requireEvidence(evidenceId))`. -/
def readable (evidenceId : String) : Except Thrown Bool := do
  let record ← state.captures.evidence.requireEvidence evidenceId
  hasReadableBlob state.captures.evidence record

/-- The stranded captures, each with whether it is readable. -/
def strandedCaptures (ownerId : String) : Except Thrown (List (String × Bool)) := do
  let live ← state.listLiveImageExtractionEvidenceIds platform ownerId
  (state.captures.listStrandedProcessing ownerId live).mapM fun row =>
    (state.readable row.evidenceId).map fun isReadable => (row.evidenceId, isReadable)

def isReclassifiable (ownerId : String) (row : EvidenceClass) : Bool :=
  row.ownerId == ownerId && row.sourceType == .screenshot && row.sensitivity == .sensitive

def reclassifiableEvidenceIds (ownerId : String) : List String :=
  idsOf EvidenceClass.evidenceId (state.classes.filter (isReclassifiable ownerId))

def isSensitiveByScreenshot (row : AssertionRow) : Bool :=
  row.sensitivity == .sensitive &&
    state.links.any (fun link => link.assertionId == row.id &&
      state.classes.any fun evidence => evidence.evidenceId == link.evidenceId && evidence.sourceType == .screenshot) &&
    !isSensitivityAtLeast (defaultSensitivity row.predicate) .sensitive

def reclassifiableAssertionIds : List String :=
  idsOf AssertionRow.id (state.graph.assertions.rows.filter state.isSensitiveByScreenshot)

def plan (ownerId : String) : Except Thrown GraphCleanupPlan := do
  let stranded ← state.strandedCaptures platform ownerId
  return {
    orphanNodeIds := orphanPersonNodeIds state.graph
    resumableCaptureIds := (stranded.filter fun capture => capture.2).map Prod.fst
    discardableCaptureIds := (stranded.filter fun capture => !capture.2).map Prod.fst
    reclassifiableEvidenceIds := state.reclassifiableEvidenceIds ownerId
    reclassifiableAssertionIds := state.reclassifiableAssertionIds }

/-! ## Preview -/

/-- `secret()`: what is stored, else some random bytes, which are stored. -/
def secret (draw : Bytes) : Bytes × AssistantState Envelope Digest :=
  match state.previewSecret with
  | some text => (fromBase64url text, state)
  | none => (draw, { state with previewSecret := some (toBase64url draw) })

def buildGraphCleanupPayload (ownerId : String) (counts : GraphCleanupCounts) : GraphCleanupPayload :=
  { ownerId := utf16 ownerId, graphVersion := state.graphVersion, counts }

def preview (ownerId : String) (draw : Bytes) :
    Except Thrown (AssistantGraphCleanupPreview × AssistantState Envelope Digest) := do
  let plan ← state.plan platform ownerId
  let (secret, after) := state.secret draw
  return ({
    previewToken := sign platform.hmac secret (state.buildGraphCleanupPayload ownerId plan.counts)
    graphVersion := state.graphVersion
    orphanNodeIds := plan.orphanNodeIds
    resumableCaptureIds := plan.resumableCaptureIds
    discardableCaptureIds := plan.discardableCaptureIds
    reclassifiableEvidenceCount := plan.reclassifiableEvidenceIds.length
    reclassifiableAssertionCount := plan.reclassifiableAssertionIds.length }, after)

def notThisCleanup : Thrown := .error "Deletion preview token does not authorize a cleanup."

def staleVersion : Thrown := .error "Deletion preview is stale because the graph version changed."

def staleRows : Thrown := .error "Deletion preview is stale because its affected rows changed."

/-- `validateGraphCleanup` with `assertCurrent`. -/
def validateGraphCleanup (secret : Bytes) (ownerId : String) (previewToken : JsString) (counts : GraphCleanupCounts) :
    Except Thrown Unit := do
  let payload ← verify platform.hmac secret previewToken
  throwWhen (payload.ownerId != utf16 ownerId) notThisCleanup
  throwWhen (payload.graphVersion != state.graphVersion) staleVersion
  throwWhen (stringify (state.buildGraphCleanupPayload ownerId counts).toJson != stringify payload.toJson) staleRows

/-! ## Run -/

/-- What a run finds around it. -/
structure RunDraw where
  /-- The random bytes of a new secret. -/
  secret : Bytes
  /-- The id of a new job. -/
  jobId : String
  projectionPriority : Rat
  /-- A write to the audit tables fails. -/
  auditFails : Bool

def chosen (plan : GraphCleanupPlan) (reclassifyScreenshots : Bool) : GraphCleanupPlan :=
  if reclassifyScreenshots then plan
  else { plan with reclassifiableEvidenceIds := [], reclassifiableAssertionIds := [] }

def deleteNode (graph : GraphState) (nodeId : String) : Except ErrorMessage GraphState := do
  let _ ← graph.requireNode nodeId
  graph.setNodeStatus nodeId .deleted none

def reclassifyAssertion (graph : GraphState) (assertionId : String) : Except ErrorMessage GraphState :=
  graph.setSensitivity assertionId .personal

def reclassifyEvidence (classes : List EvidenceClass) (evidenceId : String) : List EvidenceClass :=
  updateWhere (fun row => row.evidenceId == evidenceId) (fun row => { row with sensitivity := .personal }) classes

def enqueueProjectionMaintenance (ownerId : String) (draw : RunDraw) : Except JobFailure JobTable :=
  let version := state.graphVersion
  let enqueued := enqueueSuperseding ⟨ownerId, .projectionMaintenance, s!"projection_maintenance:{version}"⟩
    draw.projectionPriority draw.jobId state.captures.nowMs state.jobs
  enqueued.1.map fun _ => enqueued.2

/-- The transaction of a run.  An audit event that fails rolls all of it back, whichever it is. -/
def perform (ownerId : String) (plan : GraphCleanupPlan) (draw : RunDraw) :
    Except CleanupFailure (GraphCleanupResult × AssistantState Envelope Digest) := do
  let pruned ← (plan.orphanNodeIds.foldlM deleteNode state.graph).mapError .graph
  let discarded := plan.discardableCaptureIds.foldl CaptureState.markProcessed state.captures
  let live ← (state.listLiveImageExtractionEvidenceIds platform ownerId).mapError .thrown
  let captures := discarded.recoverStrandedProcessing ownerId live
  let classes := plan.reclassifiableEvidenceIds.foldl reclassifyEvidence state.classes
  let graph ← (plan.reclassifiableAssertionIds.foldlM reclassifyAssertion pruned).mapError .graph
  let result : GraphCleanupResult :=
    { nodesDeleted := plan.orphanNodeIds.length
      capturesRequeued := discarded.queue.countP (CaptureState.isStranded ownerId live)
      capturesDiscarded := plan.discardableCaptureIds.length
      evidenceReclassified := plan.reclassifiableEvidenceIds.length
      assertionsReclassified := plan.reclassifiableAssertionIds.length }
  let records := plan.orphanNodeIds ++ plan.discardableCaptureIds ++ plan.reclassifiableEvidenceIds ++
    plan.reclassifiableAssertionIds
  (throwWhen (draw.auditFails && !records.isEmpty) notRecorded).mapError .thrown
  let cleaned := { state with captures, classes, graph }
  if result.changes then
    let moved := { cleaned with graphVersion := cleaned.graphVersion + 1 }
    let jobs ← (moved.enqueueProjectionMaintenance ownerId draw).mapError .job
    return (result, { moved with jobs })
  else return (result, cleaned)

/-- The secret that a token is verified with; a token that has no two parts is refused before it is read. -/
def tokenSecret (previewToken : JsString) (draw : Bytes) : Bytes × AssistantState Envelope Digest :=
  if (previewToken.splitOn 0x2E).length = 2 then state.secret draw else ([], state)

/-- `run`, with what it leaves: a secret that it had to make stays. -/
def run (ownerId : String) (previewToken : JsString) (reclassifyScreenshots : Bool) (draw : RunDraw) :
    Except CleanupFailure GraphCleanupResult × AssistantState Envelope Digest :=
  match state.plan platform ownerId with
  | .error failure => (.error (.thrown failure), state)
  | .ok plan =>
    let (secret, kept) := state.tokenSecret previewToken draw.secret
    match kept.validateGraphCleanup platform secret ownerId previewToken plan.counts with
    | .error failure => (.error (.thrown failure), kept)
    | .ok () =>
      match kept.perform platform ownerId (chosen plan reclassifyScreenshots) draw with
      | .error failure => (.error failure, kept)
      | .ok (result, after) => (.ok result, after)

/-! ## Calls -/

end AssistantState

/-- The services set the merge target of a node with its status: an active node has none. -/
def SetsMergeTarget : StoreCall → Prop
  | .setNodeStatus _ status mergedIntoNodeId => status = .active → mergedIntoNodeId = none
  | _ => True

/-- What a graph mutation writes. -/
inductive GraphWrite where
  | store (call : StoreCall) (sets : SetsMergeTarget call)
  | linkEvidence (assertionId evidenceId : String)
  | unlinkEvidence (assertionId evidenceId : String)
  | unlinkAllForEvidence (evidenceId : String)
  | deleteEvidence (evidenceId : String)

/-- One synchronous stretch of the assistant. -/
inductive AssistantCall where
  /-- What goes on in the capture queue and its evidence. -/
  | captures (event : CaptureEvent)
  | jobs (call : JobCall)
  /-- Evidence that is deleted outside of a graph mutation: a turn that is suppressed. -/
  | deleteEvidence (evidenceId : String)
  /-- The columns of a new evidence record. -/
  | classify (row : EvidenceClass)
  /-- A graph mutation: one transaction, which ends with a new graph version. -/
  | changeGraph (writes : List GraphWrite)
  /-- `ensureOwnerPersonNode`, where there is no such node yet. -/
  | createOwnerNode (id : String)
  /-- An alias of the owner's node, as it is configured or as the owner says. -/
  | addOwnerAlias (aliasText : JsString) (id nowUtc : String)
  | removeOwnerAlias (aliasText : JsString)
  | previewCleanup (ownerId : String) (draw : Bytes)
  | runCleanup (ownerId : String) (previewToken : JsString) (reclassifyScreenshots : Bool) (draw : AssistantState.RunDraw)

namespace AssistantState

variable {Envelope Digest : Type} (platform : AssistantPlatform Envelope Digest) (state : AssistantState Envelope Digest)

def nowUtc : String := platform.toISOString state.captures.nowMs

/-- `findByCanonicalKey(ownerId, 'person', OWNER_PERSON_CANONICAL_KEY)`. -/
def ownerNode : Option NodeRow :=
  state.graph.nodes.rows.find? fun row =>
    row.type == .person && row.canonicalKey == some OWNER_PERSON_CANONICAL_KEY && row.status != .deleted

def withGraph (graph : GraphState) : AssistantState Envelope Digest := { state with graph }

/-- The owner's person node, as it is created. -/
def ownerNodeInput : CreateNodeInput :=
  { type := .person, canonicalKey := some OWNER_PERSON_CANONICAL_KEY, displayName := utf16 "the user"
    description := none, sensitivity := .personal }

/-- What a write leaves, if it does not throw. -/
def kept : Except ErrorMessage GraphState → AssistantState Envelope Digest
  | .ok graph => state.withGraph graph
  | .error _ => state

variable [DecidableEq Digest]

/-- Evidence and its pixels go, or the call throws. -/
def deleteEvidence (evidenceId : String) : Option (AssistantState Envelope Digest) :=
  (state.captures.evidence.deleteEvidence evidenceId (state.nowUtc platform)).toOption.map fun deleted =>
    { state with captures := { state.captures with evidence := deleted.2 } }

def write : GraphWrite → Option (AssistantState Envelope Digest)
  | .store call _ => (call.perform platform.text state.graph).toOption.map state.withGraph
  | .linkEvidence assertionId evidenceId =>
    let link : AssertionEvidence := ⟨assertionId, evidenceId⟩
    some { state with links := if state.links.contains link then state.links else state.links ++ [link] }
  | .unlinkEvidence assertionId evidenceId =>
    some { state with links := state.links.filter fun link => link != ⟨assertionId, evidenceId⟩ }
  | .unlinkAllForEvidence evidenceId =>
    some { state with links := state.links.filter fun link => link.evidenceId != evidenceId }
  | .deleteEvidence evidenceId => state.deleteEvidence platform evidenceId

/-- A transaction: all of its writes, or none. -/
def changeGraph (writes : List GraphWrite) : AssistantState Envelope Digest :=
  match writes.foldlM (fun (before : AssistantState Envelope Digest) change => before.write platform change) state with
  | none => state
  | some after => { after with graphVersion := after.graphVersion + 1 }

def answer : AssistantCall → AssistantState Envelope Digest
  | .captures event => { state with captures := Captures.step platform.toCapturePlatform state.captures event }
  | .jobs call => { state with jobs := (call.perform state.captures.nowMs state.jobs).2 }
  | .deleteEvidence evidenceId => (state.deleteEvidence platform evidenceId).getD state
  | .classify row => { state with classes := state.classes ++ [row] }
  | .changeGraph writes => state.changeGraph platform writes
  | .createOwnerNode id =>
    match state.ownerNode with
    | some _ => state
    | none => state.kept (state.graph.createNode ownerNodeInput id)
  | .addOwnerAlias aliasText id nowUtc =>
    match state.ownerNode with
    | none => state
    | some owner => state.kept (state.graph.addAlias platform.text owner.id aliasText .user_supplied id nowUtc)
  | .removeOwnerAlias aliasText =>
    match state.ownerNode with
    | none => state
    | some owner => state.withGraph (state.graph.removeAlias platform.text owner.id aliasText .user_supplied)
  | .previewCleanup ownerId draw =>
    match state.preview platform ownerId draw with
    | .ok (_, after) => after
    | .error _ => state
  | .runCleanup ownerId previewToken reclassifyScreenshots draw =>
    (state.run platform ownerId previewToken reclassifyScreenshots draw).2

/-- What calls leave, one after the other. -/
def afterCalls (calls : List AssistantCall) : AssistantState Envelope Digest :=
  Runs.run (fun before call => before.answer platform call) state calls

end AssistantState

/-- The assistant before its first call. -/
def opened {Envelope Digest : Type} (nowMs : Int) (graphVersion : Nat) : AssistantState Envelope Digest where
  captures := { nowMs, evidence := ⟨[], [], fun _ => none⟩, queue := [], runs := [] }
  jobs := []
  graph := .empty
  graphVersion := graphVersion
  classes := []
  links := []
  previewSecret := none

end SiftKit.Assistant.Cleanup
