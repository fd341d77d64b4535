import Mathlib.Data.String.Basic
import SiftKit.Foundation.SearchIndex
import SiftKit.Graph.Keys

/-! # The tables of the assistant graph

The rows of `graph_nodes`, `graph_node_aliases`, `graph_assertions` and `graph_entity_merges`, the log
entries of merges, and the two plaintext indexes.  The graph has one owner, so the owner columns are
left out; so are the columns that no modelled function reads.
-/

namespace SiftKit.Graph

open SiftKit.Failure SiftKit.Json SiftKit.Tables

/-! ## Rows -/

structure NodeRow where
  id : String
  type : NodeType
  canonicalKey : Option String
  displayName : JsString
  description : Option JsString
  sensitivity : Sensitivity
  status : NodeStatus
  mergedIntoNodeId : Option String
  ftsRowid : Option Nat

structure AliasRow where
  id : String
  nodeId : String
  aliasText : JsString
  normalizedAlias : JsString
  aliasType : AliasType
  createdAtUtc : String

structure AssertionRow where
  id : String
  assertionKey : AssertionKey
  subjectNodeId : String
  predicate : RelationType
  object : AssertionObject
  objectNormalizedText : Option JsString
  scopeNodeId : Option String
  status : AssertionStatus
  basis : AssertionBasis
  confidence : ℚ
  sensitivity : Sensitivity
  validFromUtc : Option String
  validToUtc : Option String
  firstObservedAtUtc : String
  lastObservedAtUtc : String
  supersedesAssertionId : Option String
  createdAtUtc : String
  ftsRowid : Option Nat

structure MergeRow where
  id : String
  sourceNodeId : String
  targetNodeId : String
  reversible : Bool
  reversedAtUtc : Option String

inductive NodeReferenceColumn where
  | subject_node_id
  | object_node_id
  | scope_node_id
  deriving DecidableEq

structure MovedAssertion where
  assertionId : String
  column : NodeReferenceColumn
  previousNodeId : String

structure MergePayload where
  sourceNodeId : String
  targetNodeId : String
  movedAliasIds : List String
  movedAssertions : List MovedAssertion
  retiredAssertionIds : List String

/-- An entry of the mutation log with the operation `merge_node`. -/
structure MergeMutation where
  id : String
  targetId : String
  createdAtUtc : String
  payload : MergePayload

/-- What of a node is indexed. -/
structure NodeSearchText where
  displayName : JsString
  aliases : JsString
  description : JsString

structure AssertionSearchText where
  subject : JsString
  predicate : JsString
  object : JsString
  scope : JsString

instance : Indexed NodeRow where
  id := NodeRow.id
  rowid := NodeRow.ftsRowid
  track number row := { row with ftsRowid := number }
  id_track _ _ := rfl
  rowid_track _ _ := rfl

instance : Indexed AssertionRow where
  id := AssertionRow.id
  rowid := AssertionRow.ftsRowid
  track number row := { row with ftsRowid := number }
  id_track _ _ := rfl
  rowid_track _ _ := rfl

structure GraphState where
  nodes : IndexedTable NodeRow NodeSearchText
  aliases : List AliasRow
  assertions : IndexedTable AssertionRow AssertionSearchText
  merges : List MergeRow
  mutations : List MergeMutation

def GraphState.empty : GraphState := ⟨.empty, [], .empty, [], []⟩

/-! ## Columns -/

namespace AssertionRow

def isLive (row : AssertionRow) : Bool := row.status.isLive

/-- The object node, null for a literal. -/
def objectNodeId (row : AssertionRow) : Option String :=
  match row.object with
  | .node nodeId => some nodeId
  | .literal _ _ => none

def reference (row : AssertionRow) : NodeReferenceColumn → Option String
  | .subject_node_id => some row.subjectNodeId
  | .object_node_id => row.objectNodeId
  | .scope_node_id => row.scopeNodeId

/-- `UPDATE … SET column = nodeId`. -/
def withReference (row : AssertionRow) (nodeId : String) : NodeReferenceColumn → AssertionRow
  | .subject_node_id => { row with subjectNodeId := nodeId }
  | .object_node_id => { row with object := .node nodeId }
  | .scope_node_id => { row with scopeNodeId := some nodeId }

/-- The key of the columns. -/
def currentKey (platform : TextPlatform) (row : AssertionRow) : Except ErrorMessage AssertionKey :=
  buildAssertionKey platform row.subjectNodeId row.predicate row.object row.scopeNodeId

end AssertionRow

/-- `ORDER BY last_observed_at_utc DESC, id ASC`. -/
def isListedBefore (left right : AssertionRow) : Bool :=
  if left.lastObservedAtUtc ≠ right.lastObservedAtUtc then decide (right.lastObservedAtUtc ≤ left.lastObservedAtUtc)
  else decide (left.id ≤ right.id)

/-! ## Constraints -/

def uniqueFailed (column : String) : ErrorMessage := utf16 s!"UNIQUE constraint failed: {column}"

def foreignKeyFailed : ErrorMessage := utf16 "FOREIGN KEY constraint failed"

/-- `graph_assertions_active_key_uq`. -/
def liveKeys (rows : List AssertionRow) : List AssertionKey :=
  (rows.filter AssertionRow.isLive).map AssertionRow.assertionKey

/-! ## Queries -/

namespace GraphState

variable (state : GraphState)

def getNode (nodeId : String) : Option NodeRow := state.nodes.get? nodeId

def requireNode (nodeId : String) : Except ErrorMessage NodeRow :=
  match state.getNode nodeId with
  | some row => .ok row
  | none => .error (utf16 s!"Unknown graph node: {nodeId}")

def getAssertion (assertionId : String) : Option AssertionRow := state.assertions.get? assertionId

def requireAssertion (assertionId : String) : Except ErrorMessage AssertionRow :=
  match state.getAssertion assertionId with
  | some row => .ok row
  | none => .error (utf16 s!"Unknown graph assertion: {assertionId}")

/-- `ORDER BY created_at_utc ASC, id ASC`. -/
def isOlderAlias (left right : AliasRow) : Bool :=
  if left.createdAtUtc ≠ right.createdAtUtc then decide (left.createdAtUtc ≤ right.createdAtUtc)
  else decide (left.id ≤ right.id)

def listAliases (nodeId : String) : List AliasRow :=
  orderBy isOlderAlias (state.aliases.filter fun row => decide (row.nodeId = nodeId))

def findLiveByKey (key : AssertionKey) : Option AssertionRow :=
  state.assertions.rows.find? fun row => decide (row.assertionKey = key) && row.isLive

/-- `listBySubject`, `listByObjectNode` and `listByScope`. -/
def listByColumn (column : NodeReferenceColumn) (nodeId : String) (statuses : List AssertionStatus) : List AssertionRow :=
  orderBy isListedBefore <| state.assertions.rows.filter fun row =>
    decide (row.reference column = some nodeId) && statuses.contains row.status

end GraphState

end SiftKit.Graph
