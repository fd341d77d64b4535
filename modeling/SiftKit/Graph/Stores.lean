import SiftKit.Graph.State

/-! # The node and assertion stores

The writes of `storage/node-store.ts` and `storage/assertion-store.ts`.  A write that a constraint
refuses throws.  The ids and the time of a write are handed to it, where the stores ask the id
generator and the clock.
-/

namespace SiftKit.Graph

open SiftKit.Failure SiftKit.Json SiftKit.Tables

/-! ## Inputs -/

structure CreateNodeInput where
  type : NodeType
  canonicalKey : Option String
  displayName : JsString
  description : Option JsString
  sensitivity : Sensitivity

/-- What is not given stays as it is; a description may be given as null. -/
structure UpdateNodeInput where
  displayName : Option JsString
  description : Option (Option JsString)
  sensitivity : Option Sensitivity

structure CreateAssertionInput where
  subjectNodeId : String
  predicate : RelationType
  object : AssertionObject
  scopeNodeId : Option String
  status : AssertionStatus
  basis : AssertionBasis
  confidence : ℚ
  sensitivity : Sensitivity
  validFromUtc : Option String
  validToUtc : Option String
  observedAtUtc : String
  supersedesAssertionId : Option String
  searchText : AssertionSearchText

def AssertionStatus.name : AssertionStatus → String
  | .active => "active"
  | .disputed => "disputed"
  | .superseded => "superseded"
  | .rejected => "rejected"
  | .expired => "expired"
  | .deleted => "deleted"

/-! ## What is indexed -/

def isIndexableNode (row : NodeRow) : Bool := row.status == .active && isIndexableInPlaintext row.sensitivity

def isIndexableAssertion (row : AssertionRow) : Bool := row.isLive && isIndexableInPlaintext row.sensitivity

namespace GraphState

variable (state : GraphState)

/-- The aliases of a node, joined by blanks. -/
def aliasesText (nodeId : String) : JsString := [0x20].intercalate ((state.listAliases nodeId).map AliasRow.aliasText)

def nodeText (row : NodeRow) : NodeSearchText :=
  ⟨row.displayName, state.aliasesText row.id, row.description.getD []⟩

/-- `refreshFts` of a node. -/
def refreshNode (nodeId : String) : GraphState :=
  { state with nodes := state.nodes.refresh nodeId isIndexableNode state.nodeText }

/-- `refreshFts` of an assertion. -/
def refreshAssertion (assertionId : String) (searchText : AssertionSearchText) : GraphState :=
  { state with assertions := state.assertions.refresh assertionId isIndexableAssertion fun _ => searchText }

/-! ## Nodes -/

/-- `graph_nodes_owner_type_key_uq`: no two nodes of a type that are not deleted share a canonical key. -/
def canonicalKeysUnique (rows : List NodeRow) : Bool :=
  decide ((rows.filterMap fun row =>
    if row.status = .deleted then none else row.canonicalKey.map fun key => (row.type, key)).Nodup)

def newNode (input : CreateNodeInput) (id : String) : NodeRow :=
  { id, type := input.type, canonicalKey := input.canonicalKey, displayName := input.displayName
    description := input.description, sensitivity := input.sensitivity, status := .active
    mergedIntoNodeId := none, ftsRowid := none }

def createNode (input : CreateNodeInput) (id : String) : Except ErrorMessage GraphState := do
  let row := newNode input id
  throwWhen (state.nodes.rows.any fun other => decide (other.id = id)) (uniqueFailed "graph_nodes.id")
  throwWhen (!canonicalKeysUnique (state.nodes.rows ++ [row])) (uniqueFailed "graph_nodes.canonical_key")
  return refreshNode { state with nodes := ⟨state.nodes.rows ++ [row], state.nodes.index⟩ } id

def updateNode (nodeId : String) (input : UpdateNodeInput) : Except ErrorMessage GraphState := do
  let existing ← state.requireNode nodeId
  let rewrite (row : NodeRow) : NodeRow :=
    { row with
      displayName := input.displayName.getD existing.displayName
      description := input.description.getD existing.description
      sensitivity := input.sensitivity.getD existing.sensitivity }
  return refreshNode { state with nodes := state.nodes.update nodeId rewrite } nodeId

def setNodeStatus (nodeId : String) (status : NodeStatus) (mergedIntoNodeId : Option String) :
    Except ErrorMessage GraphState := do
  let nodes := state.nodes.update nodeId fun row => { row with status, mergedIntoNodeId }
  throwWhen (mergedIntoNodeId.any fun target => (state.getNode target).isNone) foreignKeyFailed
  throwWhen (!canonicalKeysUnique nodes.rows) (uniqueFailed "graph_nodes.canonical_key")
  let after := refreshNode { state with nodes } nodeId
  let _ ← after.requireNode nodeId
  return after

/-! ## Aliases -/

def addAlias (platform : TextPlatform) (nodeId : String) (aliasText : JsString) (aliasType : AliasType)
    (id nowUtc : String) : Except ErrorMessage GraphState := do
  let normalizedAlias := normalizeAliasText platform aliasText
  if state.aliases.any fun row => decide (row.nodeId = nodeId ∧ row.normalizedAlias = normalizedAlias) then
    return state
  else
    let row : AliasRow := { id, nodeId, aliasText, normalizedAlias, aliasType, createdAtUtc := nowUtc }
    throwWhen (state.aliases.any fun other => decide (other.id = id)) (uniqueFailed "graph_node_aliases.id")
    throwWhen (state.getNode nodeId).isNone foreignKeyFailed
    return refreshNode { state with aliases := state.aliases ++ [row] } nodeId

def removeAlias (platform : TextPlatform) (nodeId : String) (aliasText : JsString) (aliasType : AliasType) : GraphState :=
  let isRemoved (row : AliasRow) :=
    decide (row.nodeId = nodeId ∧ row.normalizedAlias = normalizeAliasText platform aliasText ∧ row.aliasType = aliasType)
  if state.aliases.any isRemoved then
    refreshNode { state with aliases := state.aliases.filter fun row => !isRemoved row } nodeId
  else state

/-- Re-points every alias of the source at the target, and gives the ids of the moved ones. -/
def reassignAliases (sourceNodeId targetNodeId : String) : Except ErrorMessage (List String × GraphState) := do
  let moved := (state.listAliases sourceNodeId).map AliasRow.id
  throwWhen (!moved.isEmpty && (state.getNode targetNodeId).isNone) foreignKeyFailed
  let aliases := updateWhere (fun row => decide (row.nodeId = sourceNodeId))
    (fun row => { row with nodeId := targetNodeId }) state.aliases
  return (moved, refreshNode (refreshNode { state with aliases } sourceNodeId) targetNodeId)

/-! ## Assertions -/

/-- An update that may touch keys and statuses: refused when two live rows come to share a key. -/
def updateAssertion (assertionId : String) (rewrite : AssertionRow → AssertionRow) : Except ErrorMessage GraphState := do
  let _ ← state.requireAssertion assertionId
  let assertions := state.assertions.update assertionId rewrite
  throwWhen (!decide (liveKeys assertions.rows).Nodup) (uniqueFailed "graph_assertions.assertion_key")
  return { state with assertions }

def referencesExist (row : AssertionRow) : Bool :=
  ([some row.subjectNodeId, row.objectNodeId, row.scopeNodeId].all fun reference =>
    reference.all fun nodeId => (state.getNode nodeId).isSome) &&
  row.supersedesAssertionId.all fun assertionId => (state.getAssertion assertionId).isSome

/-- `object_normalized_text`: null for a node. -/
def objectText (platform : TextPlatform) : AssertionObject → Except ErrorMessage (Option JsString)
  | .node _ => .ok none
  | .literal valueType value => (normalizeLiteralValue platform valueType value).map some

def newAssertion (input : CreateAssertionInput) (id nowUtc : String) (assertionKey : AssertionKey)
    (objectNormalizedText : Option JsString) : AssertionRow :=
  { id, assertionKey, subjectNodeId := input.subjectNodeId, predicate := input.predicate, object := input.object
    objectNormalizedText, scopeNodeId := input.scopeNodeId, status := input.status, basis := input.basis
    confidence := input.confidence, sensitivity := input.sensitivity, validFromUtc := input.validFromUtc
    validToUtc := input.validToUtc, firstObservedAtUtc := input.observedAtUtc
    lastObservedAtUtc := input.observedAtUtc, supersedesAssertionId := input.supersedesAssertionId
    createdAtUtc := nowUtc, ftsRowid := none }

def createAssertion (platform : TextPlatform) (input : CreateAssertionInput) (id nowUtc : String) :
    Except ErrorMessage GraphState := do
  let assertionKey ← buildAssertionKey platform input.subjectNodeId input.predicate input.object input.scopeNodeId
  let objectNormalizedText ← objectText platform input.object
  let row := newAssertion input id nowUtc assertionKey objectNormalizedText
  let rows := state.assertions.rows ++ [row]
  throwWhen (state.assertions.rows.any fun other => decide (other.id = id)) (uniqueFailed "graph_assertions.id")
  throwWhen (!decide (liveKeys rows).Nodup) (uniqueFailed "graph_assertions.assertion_key")
  throwWhen (!state.referencesExist row) foreignKeyFailed
  return refreshAssertion { state with assertions := ⟨rows, state.assertions.index⟩ } id input.searchText

/-- Moves an assertion out of the live set, freeing its key. -/
def retireAssertion (assertionId : String) (status : AssertionStatus) : Except ErrorMessage GraphState := do
  let existing ← state.requireAssertion assertionId
  let updated ← state.updateAssertion assertionId fun row => { row with status }
  return { updated with assertions := updated.assertions.drop assertionId existing.ftsRowid }

def setStatus (assertionId : String) (status : AssertionStatus) : Except ErrorMessage GraphState :=
  state.updateAssertion assertionId fun row => { row with status }

/-- Reactivates a superseded assertion, and rebuilds its index entry. -/
def reactivateAssertion (assertionId : String) (searchText : AssertionSearchText) : Except ErrorMessage GraphState := do
  let existing ← state.requireAssertion assertionId
  let status := existing.status.name
  throwWhen (decide (existing.status ≠ .superseded))
    (utf16 s!"Assertion {assertionId} cannot be reactivated from status {status}.")
  let updated ← state.updateAssertion assertionId fun row => { row with status := .active }
  return updated.refreshAssertion assertionId searchText

def setSensitivity (assertionId : String) (sensitivity : Sensitivity) : Except ErrorMessage GraphState :=
  state.updateAssertion assertionId fun row => { row with sensitivity }

def setConfidence (assertionId : String) (confidence : ℚ) : Except ErrorMessage GraphState :=
  state.updateAssertion assertionId fun row => { row with confidence }

/-- Closes the validity window without retiring the row. -/
def closeValidity (assertionId validToUtc : String) : Except ErrorMessage GraphState :=
  state.updateAssertion assertionId fun row => { row with validToUtc := some validToUtc }

/-- Extends the support window of an assertion. -/
def recordObservation (assertionId observedAtUtc : String) : Except ErrorMessage GraphState :=
  state.updateAssertion assertionId fun row =>
    { row with
      firstObservedAtUtc := min row.firstObservedAtUtc observedAtUtc
      lastObservedAtUtc := max row.lastObservedAtUtc observedAtUtc }

/-- Re-points a reference, and recomputes the key. -/
def repointNodeReference (platform : TextPlatform) (assertionId : String) (column : NodeReferenceColumn)
    (targetNodeId : String) : Except ErrorMessage GraphState := do
  let existing ← state.requireAssertion assertionId
  throwWhen (state.getNode targetNodeId).isNone foreignKeyFailed
  throwWhen (decide (column = .object_node_id) && existing.objectNodeId.isNone)
    (utf16 "CHECK constraint failed: graph_assertions")
  let rekeyed ← (existing.withReference targetNodeId column).currentKey platform
  state.updateAssertion assertionId fun row =>
    { row.withReference targetNodeId column with assertionKey := rekeyed }

end GraphState

end SiftKit.Graph
