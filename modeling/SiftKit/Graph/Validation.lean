import SiftKit.Graph.StoreEffects

/-! # The assertion validator

`graph/validation.ts`: the gate between a proposal and the graph.
-/

namespace SiftKit.Graph

open SiftKit.Failure SiftKit.Json

/-! ## Requests and failures -/

inductive ValidationCode where
  | unknown_predicate
  | subject_unresolved
  | object_unresolved
  | scope_unresolved
  | subject_type_not_allowed
  | object_type_not_allowed
  | scope_type_not_allowed
  | literal_object_not_allowed
  | node_object_not_allowed
  | literal_value_invalid
  | confidence_above_ceiling
  | confidence_out_of_range
  | secret_prohibited
  | blocked_topic
  | temporal_window_required
  | temporal_window_malformed
  | temporal_window_inconsistent
  deriving DecidableEq

structure ValidationFailure where
  code : ValidationCode
  message : ErrorMessage

/-- A confidence here is finite. -/
structure AssertionValidationRequest where
  subjectNodeId : String
  predicate : String
  object : AssertionObject
  scopeNodeId : Option String
  basis : AssertionBasis
  confidence : Decimal
  sensitivity : Sensitivity
  validFromUtc : Option String
  validToUtc : Option String
  topics : List String

/-- The only node type permitted as the scope of an assertion. -/
def SCOPE_NODE_TYPE : NodeType := .preference_context

def BASIS_CONFIDENCE_CEILING : AssertionBasis → ℚ
  | .explicit_user_statement => 99 / 100
  | .explicit_question_answer => 98 / 100
  | .manual_import => 95 / 100
  | .passive_observation => 85 / 100
  | .derived_aggregation => 80 / 100
  | .assistant_inference => 75 / 100

def decimalValue (decimal : Decimal) : ℚ :=
  (if decimal.negative then -1 else 1) * decimal.digits * 10 ^ decimal.exponent

def reject {Value : Type} (code : ValidationCode) (message : ErrorMessage) : Except ValidationFailure Value :=
  .error ⟨code, message⟩

/-! ## The checks -/

section

variable (platform : TextPlatform) (state : GraphState)

/-- `Date.parse(value)`. -/
def dateParse (value : String) : Option Int := platform.dateParse (utf16 value)

def requireRelation (predicate : String) : Except ValidationFailure RelationType :=
  match relationType? predicate with
  | some relation => .ok relation
  | none => reject .unknown_predicate (utf16 s!"Predicate {predicate} is not in the registry.")

def requireActive (nodeId : String) (code : ValidationCode) (message : ErrorMessage) : Except ValidationFailure NodeRow :=
  match state.getNode nodeId with
  | some row => if row.status = .active then .ok row else reject code message
  | none => reject code message

def validateObject (predicate : String) (relation : RelationType) : AssertionObject → Except ValidationFailure Unit
  | .literal valueType value =>
    if allowsLiteralObject relation then
      match normalizeLiteralValue platform valueType value with
      | .ok _ => .ok ()
      | .error message => reject .literal_value_invalid message
    else reject .literal_object_not_allowed (utf16 s!"{predicate} requires a node object, not a literal.")
  | .node nodeId =>
    if allowsLiteralObject relation then
      reject .node_object_not_allowed (utf16 s!"{predicate} requires a literal object, not a node.")
    else do
      let object ← requireActive state nodeId .object_unresolved (utf16 s!"Object node {nodeId} is not active.")
      let typeName := object.type.name
      throwWhen (!isNodeTypeAllowedAsObject relation object.type)
        ⟨.object_type_not_allowed, utf16 s!"{predicate} does not accept a {typeName} object."⟩

def validateScope : Option String → Except ValidationFailure Unit
  | none => .ok ()
  | some nodeId => do
    let scope ← requireActive state nodeId .scope_unresolved (utf16 s!"Scope node {nodeId} is not active.")
    let expected := SCOPE_NODE_TYPE.name
    let received := scope.type.name
    throwWhen (decide (scope.type ≠ SCOPE_NODE_TYPE))
      ⟨.scope_type_not_allowed, utf16 s!"An assertion scope must be a {expected} node, received {received}."⟩

def validateConfidence (basis : AssertionBasis) (confidence : Decimal) : Except ValidationFailure Unit := do
  throwWhen (decide (decimalValue confidence < 0 ∨ 1 < decimalValue confidence))
    ⟨.confidence_out_of_range, utf16 "Confidence must be within [0, 1]."⟩
  let basisName := basis.name
  throwWhen (decide (BASIS_CONFIDENCE_CEILING basis < decimalValue confidence))
    ⟨.confidence_above_ceiling, utf16 "Confidence " ++ confidence.text ++ utf16 s!" exceeds the {basisName} ceiling."⟩

/-- Topics bind only what is inferred. -/
def validateTopics (isTopicBlockedFromInference : String → Bool) (basis : AssertionBasis) (topics : List String) :
    Except ValidationFailure Unit :=
  if isExplicitBasis basis then .ok ()
  else
    match topics.find? isTopicBlockedFromInference with
    | some topic => reject .blocked_topic (utf16 s!"A never_infer_topic policy blocks topic {topic}.")
    | none => .ok ()

/-- One bound of a window is an instant, if it is given. -/
def validateBound (label : String) : Option String → Except ValidationFailure Unit
  | none => .ok ()
  | some value =>
    throwWhen (dateParse platform value).isNone
      ⟨.temporal_window_malformed, utf16 s!"{label} is not a parseable instant: {value}"⟩

/-- Whether the window ends where it starts, or before. -/
def isWindowInconsistent (validFromUtc validToUtc : Option String) : Bool :=
  match validFromUtc.bind (dateParse platform), validToUtc.bind (dateParse platform) with
  | some start, some stop => decide (stop ≤ start)
  | _, _ => false

def validateTemporal (predicate : String) (temporal : RelationTemporal) (validFromUtc validToUtc : Option String) :
    Except ValidationFailure Unit := do
  validateBound platform "validFromUtc" validFromUtc
  validateBound platform "validToUtc" validToUtc
  throwWhen (decide (temporal = .required) && validFromUtc.isNone)
    ⟨.temporal_window_required, utf16 s!"{predicate} requires a validFromUtc."⟩
  throwWhen (isWindowInconsistent platform validFromUtc validToUtc)
    ⟨.temporal_window_inconsistent, utf16 "validToUtc must be strictly after validFromUtc."⟩

/-- The relation that the predicate of an accepted request names, or why it is rejected. -/
def validate (isTopicBlockedFromInference : String → Bool) (request : AssertionValidationRequest) :
    Except ValidationFailure RelationType := do
  let predicate := request.predicate
  throwWhen (decide (request.sensitivity = .secret_prohibited))
    ⟨.secret_prohibited, utf16 "Secret-prohibited content is never written to the graph."⟩
  let relation ← requireRelation predicate
  let subjectNodeId := request.subjectNodeId
  let subject ← requireActive state subjectNodeId .subject_unresolved (utf16 s!"Subject node {subjectNodeId} is not active.")
  let typeName := subject.type.name
  throwWhen (!isNodeTypeAllowedAsSubject relation subject.type)
    ⟨.subject_type_not_allowed, utf16 s!"{predicate} does not accept a {typeName} subject."⟩
  validateObject platform state predicate relation request.object
  validateScope state request.scopeNodeId
  validateConfidence request.basis request.confidence
  validateTopics isTopicBlockedFromInference request.basis request.topics
  validateTemporal platform predicate relation.definition.temporal request.validFromUtc request.validToUtc
  return relation

/-! ## What an accepted request promises -/

def IsActiveNode (nodeId : String) (allowed : NodeType → Bool) : Prop :=
  ∃ row, state.getNode nodeId = some row ∧ row.status = .active ∧ allowed row.type = true

/-- The object is an active node of an allowed type, or a literal of its declared type. -/
def AcceptsObject (relation : RelationType) : AssertionObject → Prop
  | .node nodeId => IsActiveNode state nodeId (isNodeTypeAllowedAsObject relation)
  | .literal valueType value => allowsLiteralObject relation = true ∧
      ∃ text, normalizeLiteralValue platform valueType value = .ok text

/-- The node checks of the validator, which no write path but `assert` makes. -/
structure AcceptsNodes (subjectNodeId : String) (relation : RelationType) (object : AssertionObject)
    (scopeNodeId : Option String) : Prop where
  subject : IsActiveNode state subjectNodeId (isNodeTypeAllowedAsSubject relation)
  object : AcceptsObject platform state relation object
  scope : ∀ nodeId, scopeNodeId = some nodeId → IsActiveNode state nodeId fun type => type == SCOPE_NODE_TYPE

/-- A bound that is given is an instant, and two bounds are in order. -/
structure IsWindow (validFromUtc validToUtc : Option String) : Prop where
  starts : ∀ value, validFromUtc = some value → ∃ start, dateParse platform value = some start
  stops : ∀ value, validToUtc = some value → ∃ stop, dateParse platform value = some stop
  ordered : isWindowInconsistent platform validFromUtc validToUtc = false

end

section

variable {platform : TextPlatform} {state : GraphState} {relation : RelationType} {predicate : String}

theorem requireRelation_eq_ok :
    requireRelation predicate = .ok relation ↔ relationType? predicate = some relation := by
  unfold requireRelation
  split
  next found isFound => simp [isFound]
  next missing => simp [missing, reject]

theorem requireActive_eq_ok {nodeId : String} {code : ValidationCode} {message : ErrorMessage} {row : NodeRow} :
    requireActive state nodeId code message = .ok row ↔ state.getNode nodeId = some row ∧ row.status = .active := by
  unfold requireActive
  split
  next found isFound =>
    rw [isFound]
    by_cases active : found.status = .active
    · rw [if_pos active]
      simp only [Except.ok.injEq, Option.some.injEq, iff_self_and]
      rintro rfl
      exact active
    · rw [if_neg active]
      simp only [reject, reduceCtorEq, Option.some.injEq, false_iff, not_and]
      rintro rfl
      exact active
  next missing => simp [reject, missing]

variable {passed : Unit}

theorem validateObject_ok {object : AssertionObject}
    (accepted : validateObject platform state predicate relation object = .ok passed) :
    AcceptsObject platform state relation object := by
  cases object with
  | literal valueType value =>
    simp only [validateObject] at accepted
    split at accepted
    next allowed =>
      split at accepted
      next text isText => exact ⟨allowed, text, isText⟩
      next => cases accepted
    next => cases accepted
  | node nodeId =>
    simp only [validateObject] at accepted
    split at accepted
    next => cases accepted
    next =>
      simp only [bind_eq_ok, requireActive_eq_ok, throwWhen_eq_ok, Bool.not_eq_false'] at accepted
      obtain ⟨row, ⟨found, active⟩, allowed⟩ := accepted
      exact ⟨row, found, active, allowed⟩

theorem validateScope_ok {scopeNodeId : Option String}
    (accepted : validateScope state scopeNodeId = .ok passed) (nodeId : String) (isScope : scopeNodeId = some nodeId) :
    IsActiveNode state nodeId fun type => type == SCOPE_NODE_TYPE := by
  subst isScope
  simp only [validateScope, bind_eq_ok, requireActive_eq_ok, throwWhen_eq_ok, decide_eq_false_iff_not, not_not] at accepted
  obtain ⟨row, ⟨found, active⟩, isType⟩ := accepted
  exact ⟨row, found, active, by simp [isType]⟩

theorem validateBound_ok {label value : String}
    (accepted : validateBound platform label (some value) = .ok passed) : ∃ instant, dateParse platform value = some instant := by
  rw [validateBound, throwWhen_eq_ok, Option.isNone_eq_false_iff] at accepted
  exact Option.isSome_iff_exists.mp accepted

theorem validateTemporal_ok {temporal : RelationTemporal} {validFromUtc validToUtc : Option String}
    (accepted : validateTemporal platform predicate temporal validFromUtc validToUtc = .ok passed) :
    IsWindow platform validFromUtc validToUtc := by
  simp only [validateTemporal, bind_eq_ok, throwWhen_eq_ok] at accepted
  obtain ⟨_, starts, _, stops, _, _, ordered⟩ := accepted
  refine ⟨?_, ?_, ordered⟩
  · rintro value rfl
    exact validateBound_ok starts
  · rintro value rfl
    exact validateBound_ok stops

theorem validate_ok {isBlocked : String → Bool} {request : AssertionValidationRequest}
    (accepted : validate platform state isBlocked request = .ok relation) :
    relationType? request.predicate = some relation ∧
      AcceptsNodes platform state request.subjectNodeId relation request.object request.scopeNodeId ∧
      IsWindow platform request.validFromUtc request.validToUtc := by
  simp only [validate, bind_eq_ok, pure_eq_ok, throwWhen_eq_ok, requireRelation_eq_ok, requireActive_eq_ok,
    Bool.not_eq_false'] at accepted
  obtain ⟨_, _, named, isNamed, subject, ⟨found, active⟩, _, allowed, _, object, _, scope, _, _, _, _, _, window, rfl⟩ :=
    accepted
  exact ⟨isNamed, ⟨⟨subject, found, active, allowed⟩, validateObject_ok object, validateScope_ok scope⟩,
    validateTemporal_ok window⟩

end

end SiftKit.Graph
