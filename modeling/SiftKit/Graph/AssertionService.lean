import SiftKit.Graph.Validation

/-! # The assertion service

`graph/assertion-service.ts`: what happens when a proposal meets the graph.  A call is one
transaction: one that throws leaves the graph as it is.  The policies, the evidence and the clock are
the surroundings of a call.
-/

namespace SiftKit.Graph

open SiftKit.Failure SiftKit.Json

/-! ## Requests and outcomes -/

structure EvidenceLinkInput where
  evidenceId : String
  weight : ℚ

/-- A request to assert, with its predicate as it was proposed or as the validator narrowed it. -/
structure AssertRequestOf (Predicate : Type) where
  subjectNodeId : String
  predicate : Predicate
  object : AssertionObject
  scopeNodeId : Option String
  basis : AssertionBasis
  sensitivity : Sensitivity
  validFromUtc : Option String
  validToUtc : Option String
  observedAtUtc : String
  topics : List String
  searchText : AssertionSearchText
  evidence : List EvidenceLinkInput

abbrev AssertRequest := AssertRequestOf String

abbrev ValidatedAssertRequest := AssertRequestOf RelationType

/-- `{ ...request, predicate }`. -/
def AssertRequestOf.narrowed (request : AssertRequest) (predicate : RelationType) : ValidatedAssertRequest :=
  { request with predicate }

/-- Validation checks the ceiling of no confidence; the service computes the final value. -/
def AssertRequestOf.toValidation (request : AssertRequest) : AssertionValidationRequest :=
  { subjectNodeId := request.subjectNodeId, predicate := request.predicate, object := request.object
    scopeNodeId := request.scopeNodeId, basis := request.basis, confidence := ⟨false, 0, 0, by decide⟩
    sensitivity := request.sensitivity, validFromUtc := request.validFromUtc, validToUtc := request.validToUtc
    topics := request.topics }

structure CorrectRequest where
  assertionId : String
  object : AssertionObject
  observedAtUtc : String
  evidenceId : String
  searchText : AssertionSearchText

structure ConfirmRequest where
  assertionId : String
  evidenceId : String

/-- `ValidationCode | 'assertion_locked'`. -/
inductive AssertionRejectionCode where
  | validation (code : ValidationCode)
  | assertion_locked

inductive AssertionWriteOutcome where
  | created (assertionId : String)
  | reinforced (assertionId : String)
  | superseded (assertionId supersededAssertionId : String)
  | temporally_closed (assertionId closedAssertionId : String)
  | disputed (assertionId disputedWithAssertionId : String)
  | contradiction_recorded (assertionId : String)
  | rejected (code : AssertionRejectionCode) (message : ErrorMessage)

/-- What the confidence of an assertion depends on, beside its evidence and the time. -/
structure ConfidenceInput where
  assertionId : String
  basis : AssertionBasis
  predicate : RelationType
  lastObservedAtUtc : String
  userCorrected : Bool

/-- What a call finds around the graph. -/
structure Surroundings where
  nowUtc : String
  isTopicBlockedFromInference : String → Bool
  isAssertionLocked : String → Bool
  isMergeBlocked : String → String → Bool
  knowsEvidence : String → Bool
  /-- What the evidence linked to an assertion makes of its confidence. -/
  resolveConfidence : ConfidenceInput → Except ErrorMessage ℚ

/-! ## Evidence -/

section

variable (surroundings : Surroundings)

def linkEvidence (link : EvidenceLinkInput) : Except ErrorMessage Unit := do
  throwWhen (decide (link.weight < 0 ∨ 1 < link.weight)) (utf16 "CHECK constraint failed: assertion_evidence")
  throwWhen (!surroundings.knowsEvidence link.evidenceId) foreignKeyFailed

def linkAll (links : List EvidenceLinkInput) : Except ErrorMessage Unit := links.forM (linkEvidence surroundings)

end

namespace GraphState

variable (platform : TextPlatform) (surroundings : Surroundings) (state : GraphState)

def applyConfidence (assertionId : String) (userCorrected : Bool) : Except ErrorMessage GraphState := do
  let assertion ← state.requireAssertion assertionId
  let confidence ← surroundings.resolveConfidence
    ⟨assertionId, assertion.basis, assertion.predicate, assertion.lastObservedAtUtc, userCorrected⟩
  state.setConfidence assertionId confidence

/-! ## Writing -/

def toCreate (request : ValidatedAssertRequest) (supersedesAssertionId : Option String) : CreateAssertionInput :=
  { subjectNodeId := request.subjectNodeId, predicate := request.predicate, object := request.object
    scopeNodeId := request.scopeNodeId, status := .active, basis := request.basis, confidence := 0
    sensitivity := request.sensitivity, validFromUtc := request.validFromUtc, validToUtc := request.validToUtc
    observedAtUtc := request.observedAtUtc, supersedesAssertionId, searchText := request.searchText }

/-- Creates an assertion under a new id. -/
def writeAssertion (request : ValidatedAssertRequest) (supersedesAssertionId : Option String) (userCorrected : Bool)
    (id : String) : Except ErrorMessage GraphState := do
  let created ← state.createAssertion platform (toCreate request supersedesAssertionId) id surroundings.nowUtc
  linkAll surroundings request.evidence
  created.applyConfidence surroundings id userCorrected

def createNew (request : ValidatedAssertRequest) (supersedesAssertionId : Option String) (id : String) :
    Except ErrorMessage (AssertionWriteOutcome × GraphState) := do
  let created ← state.writeAssertion platform surroundings request supersedesAssertionId false id
  return (.created id, created)

/-- A live assertion of the same subject, predicate and scope, where the cardinality forbids a second value. -/
def findExclusiveRival (request : ValidatedAssertRequest) (cardinality : RelationCardinality) : Option AssertionRow :=
  if cardinality.isExclusive then
    let candidates := ((state.listByColumn .subject_node_id request.subjectNodeId [.active, .disputed]).filter
      fun row => decide (row.predicate = request.predicate)).filter
      fun row => decide (row.scopeNodeId = request.scopeNodeId)
    candidates.head?
  else none

def reinforce (existing : AssertionRow) (request : ValidatedAssertRequest) :
    Except ErrorMessage (AssertionWriteOutcome × GraphState) := do
  let observed ← state.recordObservation existing.id request.observedAtUtc
  linkAll surroundings request.evidence
  let after ← observed.applyConfidence surroundings existing.id false
  return (.reinforced existing.id, after)

def recordContradiction (survivor : AssertionRow) (request : ValidatedAssertRequest) :
    Except ErrorMessage (AssertionWriteOutcome × GraphState) := do
  linkAll surroundings request.evidence
  let after ← state.applyConfidence surroundings survivor.id false
  return (.contradiction_recorded survivor.id, after)

def dispute (rival : AssertionRow) (request : ValidatedAssertRequest) (id : String) :
    Except ErrorMessage (AssertionWriteOutcome × GraphState) := do
  let disputedRival ← state.setStatus rival.id .disputed
  let created ← disputedRival.writeAssertion platform surroundings request none false id
  let after ← created.setStatus id .disputed
  return (.disputed id rival.id, after)

def supersede (rival : AssertionRow) (request : ValidatedAssertRequest) (id : String) :
    Except ErrorMessage (AssertionWriteOutcome × GraphState) := do
  let created ← state.writeAssertion platform surroundings request (some rival.id) false id
  let after ← created.retireAssertion rival.id .superseded
  return (.superseded id rival.id, after)

def closeTemporally (rival : AssertionRow) (request : ValidatedAssertRequest) (id : String) :
    Except ErrorMessage (AssertionWriteOutcome × GraphState) :=
  match request.validFromUtc with
  | none => state.supersede platform surroundings rival request id
  | some validFrom => do
    let closed ← state.closeValidity rival.id validFrom
    let created ← closed.createNew platform surroundings request none id
    return (.temporally_closed id rival.id, created.2)

/-! ## The calls -/

/-- What becomes of a proposal that the validator lets pass. -/
def settle (request : ValidatedAssertRequest) (id : String) : Except ErrorMessage (AssertionWriteOutcome × GraphState) := do
  let definition := request.predicate.definition
  let assertionKey ←
    buildAssertionKey platform request.subjectNodeId request.predicate request.object request.scopeNodeId
  match state.findLiveByKey assertionKey with
  | some sameKey => state.reinforce surroundings sameKey request
  | none =>
    match state.findExclusiveRival request definition.cardinality with
    | none => state.createNew platform surroundings request none id
    | some rival =>
      let rivalId := rival.id
      if surroundings.isAssertionLocked rivalId then
        return (.rejected .assertion_locked (utf16 s!"Assertion {rivalId} is locked against automatic change."), state)
      else if isExplicitBasis rival.basis && !isExplicitBasis request.basis then
        state.recordContradiction surroundings rival request
      else if decide (definition.temporal ≠ .none) && request.validFromUtc.isSome then
        state.closeTemporally platform surroundings rival request id
      else if decide (definition.conflictStrategy = .mark_disputed) && isExplicitBasis rival.basis &&
          isExplicitBasis request.basis then
        state.dispute platform surroundings rival request id
      else state.supersede platform surroundings rival request id

def assert (request : AssertRequest) (id : String) : Except ErrorMessage (AssertionWriteOutcome × GraphState) :=
  match validate platform state surroundings.isTopicBlockedFromInference request.toValidation with
  | .error failure => .ok (.rejected (.validation failure.code) failure.message, state)
  | .ok predicate => state.settle platform surroundings (request.narrowed predicate) id

def correct (request : CorrectRequest) (id : String) : Except ErrorMessage (AssertionWriteOutcome × GraphState) := do
  let existing ← state.requireAssertion request.assertionId
  let replacement : ValidatedAssertRequest :=
    { subjectNodeId := existing.subjectNodeId, predicate := existing.predicate, object := request.object
      scopeNodeId := existing.scopeNodeId, basis := .explicit_user_statement, sensitivity := existing.sensitivity
      validFromUtc := existing.validFromUtc, validToUtc := existing.validToUtc
      observedAtUtc := request.observedAtUtc, topics := [], searchText := request.searchText
      evidence := [⟨request.evidenceId, 1⟩] }
  let written ← state.writeAssertion platform surroundings replacement (some existing.id) true id
  let after ← written.retireAssertion existing.id .superseded
  return (.superseded id existing.id, after)

def confirm (request : ConfirmRequest) : Except ErrorMessage GraphState := do
  let _ ← state.requireAssertion request.assertionId
  let confirmed ← state.updateAssertion request.assertionId fun row => { row with basis := .explicit_question_answer }
  linkEvidence surroundings ⟨request.evidenceId, 98 / 100⟩
  confirmed.applyConfidence surroundings request.assertionId false

/-- `expire`, `forget` and `reject` are this with their own status. -/
def changeStatus (assertionId : String) (status : AssertionStatus) : Except ErrorMessage GraphState := do
  let _ ← state.requireAssertion assertionId
  state.retireAssertion assertionId status

def expire (assertionId : String) : Except ErrorMessage GraphState := state.changeStatus assertionId .expired

def forget (assertionId : String) : Except ErrorMessage GraphState := state.changeStatus assertionId .deleted

def reject (assertionId : String) : Except ErrorMessage GraphState := state.changeStatus assertionId .rejected

end GraphState

end SiftKit.Graph
