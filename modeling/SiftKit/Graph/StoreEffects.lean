import SiftKit.Graph.Stores

/-! # What the stores' writes do

When a write of the stores succeeds, and what it leaves.  The number of an index entry is of no
concern outside the index: the facts of a table are its rows without it.
-/

namespace SiftKit.Graph

open SiftKit.Failure SiftKit.Json SiftKit.Tables

namespace GraphState

variable {state after : GraphState} {assertionId nodeId nowUtc : String}

/-! ## When a write succeeds -/

theorem requireAssertion_eq_ok {row : AssertionRow} :
    state.requireAssertion assertionId = .ok row ↔ state.getAssertion assertionId = some row := by
  unfold requireAssertion
  split
  next found isFound => simp [isFound]
  next missing => simp [missing]

theorem requireNode_eq_ok {row : NodeRow} : state.requireNode nodeId = .ok row ↔ state.getNode nodeId = some row := by
  unfold requireNode
  split
  next found isFound => simp [isFound]
  next missing => simp [missing]

theorem mem_listByColumn {column : NodeReferenceColumn} {statuses : List AssertionStatus} {row : AssertionRow} :
    row ∈ state.listByColumn column nodeId statuses ↔
      row ∈ state.assertions.rows ∧ row.reference column = some nodeId ∧ row.status ∈ statuses := by
  simp [listByColumn]

theorem updateAssertion_eq_ok {rewrite : AssertionRow → AssertionRow} :
    state.updateAssertion assertionId rewrite = .ok after ↔
      (∃ row, state.getAssertion assertionId = some row) ∧
      (liveKeys (state.assertions.update assertionId rewrite).rows).Nodup ∧
      after = { state with assertions := state.assertions.update assertionId rewrite } := by
  simp only [updateAssertion, bind_eq_ok, pure_eq_ok, requireAssertion_eq_ok, throwWhen_eq_ok, Bool.not_eq_false',
    decide_eq_true_eq]
  constructor
  · rintro ⟨row, found, _, unique, rfl⟩
    exact ⟨⟨row, found⟩, unique, rfl⟩
  · rintro ⟨⟨row, found⟩, unique, rfl⟩
    exact ⟨row, found, (), unique, rfl⟩

theorem retireAssertion_eq_ok {status : AssertionStatus} :
    state.retireAssertion assertionId status = .ok after ↔
      ∃ existing, state.getAssertion assertionId = some existing ∧ ∃ updated,
        state.updateAssertion assertionId (fun row => { row with status }) = .ok updated ∧
        after = { updated with assertions := updated.assertions.drop assertionId existing.ftsRowid } := by
  simp only [retireAssertion, bind_eq_ok, pure_eq_ok, requireAssertion_eq_ok]
  constructor
  · rintro ⟨existing, found, updated, isUpdated, rfl⟩
    exact ⟨existing, found, updated, isUpdated, rfl⟩
  · rintro ⟨existing, found, updated, isUpdated, rfl⟩
    exact ⟨existing, found, updated, isUpdated, rfl⟩

theorem reactivateAssertion_eq_ok {searchText : AssertionSearchText} :
    state.reactivateAssertion assertionId searchText = .ok after ↔
      ∃ existing, state.getAssertion assertionId = some existing ∧ existing.status = .superseded ∧ ∃ updated,
        state.updateAssertion assertionId (fun row => { row with status := .active }) = .ok updated ∧
        after = updated.refreshAssertion assertionId searchText := by
  simp only [reactivateAssertion, bind_eq_ok, pure_eq_ok, requireAssertion_eq_ok, throwWhen_eq_ok, decide_eq_false_iff_not,
    not_not]
  constructor
  · rintro ⟨existing, found, _, superseded, updated, isUpdated, rfl⟩
    exact ⟨existing, found, superseded, updated, isUpdated, rfl⟩
  · rintro ⟨existing, found, superseded, updated, isUpdated, rfl⟩
    exact ⟨existing, found, (), superseded, updated, isUpdated, rfl⟩

variable {platform : TextPlatform}

theorem repointNodeReference_ok {column : NodeReferenceColumn} {targetNodeId : String}
    (repointed : state.repointNodeReference platform assertionId column targetNodeId = .ok after) :
    ∃ existing key, state.getAssertion assertionId = some existing ∧ (state.getNode targetNodeId).isSome ∧
      (column = .object_node_id → existing.objectNodeId.isSome) ∧
      (existing.withReference targetNodeId column).currentKey platform = .ok key ∧
      state.updateAssertion assertionId
        (fun row => { row.withReference targetNodeId column with assertionKey := key }) = .ok after := by
  simp only [repointNodeReference, bind_eq_ok, requireAssertion_eq_ok, throwWhen_eq_ok] at repointed
  obtain ⟨existing, found, _, isNode, _, isObject, key, isKey, updated⟩ := repointed
  refine ⟨existing, key, found, by simpa using isNode, ?_, isKey, updated⟩
  rintro rfl
  simpa using isObject

theorem createAssertion_ok {input : CreateAssertionInput} {id : String}
    (created : state.createAssertion platform input id nowUtc = .ok after) :
    ∃ key text, buildAssertionKey platform input.subjectNodeId input.predicate input.object input.scopeNodeId = .ok key ∧
      (∀ other ∈ state.assertions.rows, other.id ≠ id) ∧
      (liveKeys (state.assertions.rows ++ [newAssertion input id nowUtc key text])).Nodup ∧
      state.referencesExist (newAssertion input id nowUtc key text) = true ∧
      after = GraphState.refreshAssertion
        { state with
          assertions := ⟨state.assertions.rows ++ [newAssertion input id nowUtc key text], state.assertions.index⟩ }
        id input.searchText := by
  simp only [createAssertion, bind_eq_ok, pure_eq_ok, throwWhen_eq_ok] at created
  obtain ⟨key, isKey, text, _, _, fresh, _, unique, _, exist, isAfter⟩ := created
  exact ⟨key, text, isKey, by simpa using fresh, by simpa using unique, by simpa using exist, isAfter.symm⟩

theorem createNode_ok {input : CreateNodeInput} {id : String} (created : state.createNode input id = .ok after) :
    (∀ other ∈ state.nodes.rows, other.id ≠ id) ∧
      after = GraphState.refreshNode
        { state with nodes := ⟨state.nodes.rows ++ [newNode input id], state.nodes.index⟩ } id := by
  simp only [createNode, bind_eq_ok, pure_eq_ok, throwWhen_eq_ok] at created
  obtain ⟨_, fresh, _, _, isAfter⟩ := created
  exact ⟨by simpa using fresh, isAfter.symm⟩

theorem setNodeStatus_ok {status : NodeStatus} {mergedIntoNodeId : Option String}
    (updated : state.setNodeStatus nodeId status mergedIntoNodeId = .ok after) :
    (∃ row, (GraphState.refreshNode
      { state with nodes := state.nodes.update nodeId fun row => { row with status, mergedIntoNodeId } } nodeId).getNode nodeId =
        some row) ∧
      after = GraphState.refreshNode
        { state with nodes := state.nodes.update nodeId fun row => { row with status, mergedIntoNodeId } } nodeId := by
  simp only [setNodeStatus, bind_eq_ok, pure_eq_ok, throwWhen_eq_ok, requireNode_eq_ok] at updated
  obtain ⟨_, _, _, _, row, found, isAfter⟩ := updated
  exact ⟨⟨row, found⟩, isAfter.symm⟩

theorem updateNode_ok {input : UpdateNodeInput} (updated : state.updateNode nodeId input = .ok after) :
    ∃ existing, state.getNode nodeId = some existing ∧
      after = GraphState.refreshNode
        { state with
          nodes := state.nodes.update nodeId fun row =>
            { row with
              displayName := input.displayName.getD existing.displayName
              description := input.description.getD existing.description
              sensitivity := input.sensitivity.getD existing.sensitivity } } nodeId := by
  simp only [updateNode, bind_eq_ok, pure_eq_ok, requireNode_eq_ok] at updated
  obtain ⟨existing, found, isAfter⟩ := updated
  exact ⟨existing, found, isAfter.symm⟩

theorem addAlias_ok {aliasText : JsString} {aliasType : AliasType} {id : String}
    (added : state.addAlias platform nodeId aliasText aliasType id nowUtc = .ok after) :
    after = state ∨ ∃ row : AliasRow, row.nodeId = nodeId ∧ row.id = id ∧
      (∀ other ∈ state.aliases, other.id ≠ id) ∧
      after = GraphState.refreshNode { state with aliases := state.aliases ++ [row] } nodeId := by
  simp only [addAlias] at added
  split at added
  next =>
    cases added
    exact Or.inl rfl
  next =>
    simp only [bind_eq_ok, pure_eq_ok, throwWhen_eq_ok] at added
    obtain ⟨_, fresh, _, _, isAfter⟩ := added
    exact Or.inr ⟨_, rfl, rfl, by simpa using fresh, isAfter.symm⟩

theorem reassignAliases_ok {sourceNodeId targetNodeId : String} {moved : List String}
    (reassigned : state.reassignAliases sourceNodeId targetNodeId = .ok (moved, after)) :
    moved = (state.listAliases sourceNodeId).map AliasRow.id ∧
      after = GraphState.refreshNode (GraphState.refreshNode
        { state with
          aliases := updateWhere (fun row => decide (row.nodeId = sourceNodeId))
            (fun row => { row with nodeId := targetNodeId }) state.aliases } sourceNodeId) targetNodeId := by
  simp only [reassignAliases, bind_eq_ok, pure_eq_ok, throwWhen_eq_ok, Prod.mk.injEq] at reassigned
  obtain ⟨_, _, isMoved, isAfter⟩ := reassigned
  exact ⟨isMoved.symm, isAfter.symm⟩

end GraphState

end SiftKit.Graph
