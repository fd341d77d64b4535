import SiftKit.Assistant.GraphCleanup

/-! # What changes the orphans

The orphans of a graph are read off a few columns of its nodes, the node references of its assertions, and its aliases.
A write that leaves the graph version gives no new orphans.
-/

namespace SiftKit.Assistant.Cleanup

open SiftKit.Assistant.Captures
open SiftKit.Assistant.Memory (OWNER_PERSON_CANONICAL_KEY)
open SiftKit.Failure SiftKit.Graph SiftKit.Json SiftKit.Tables GraphState

/-! ## Nodes without their texts -/

/-- What a cleanup reads of a node. -/
structure NodeFact where
  id : String
  type : NodeType
  canonicalKey : Option String
  status : NodeStatus
  target : Option String

def nodeFact (row : NodeRow) : NodeFact := ⟨row.id, row.type, row.canonicalKey, row.status, row.mergedIntoNodeId⟩

def factsOf (graph : GraphState) : List NodeFact := graph.nodes.rows.map nodeFact

/-- `SET status = ?, merged_into_node_id = ?`. -/
def restatus (nodeId : String) (status : NodeStatus) (target : Option String) (facts : List NodeFact) : List NodeFact :=
  updateWhere (fun fact => decide (fact.id = nodeId)) (fun fact => { fact with status, target }) facts

section

variable {graph after : GraphState} {platform : TextPlatform} {nodeId assertionId : String}

@[simp] theorem factsOf_refreshNode (graph : GraphState) (nodeId : String) :
    factsOf (graph.refreshNode nodeId) = factsOf graph :=
  IndexedTable.map_rows_refresh _ nodeId _ _ fun _ _ => rfl

theorem factsOf_createNode {input : CreateNodeInput} (created : graph.createNode input nodeId = .ok after) :
    (∀ fact ∈ factsOf graph, fact.id ≠ nodeId) ∧
      factsOf after = factsOf graph ++ [nodeFact (newNode input nodeId)] := by
  obtain ⟨fresh, rfl⟩ := createNode_ok created
  constructor
  · intro fact member
    obtain ⟨row, isRow, rfl⟩ := List.mem_map.mp member
    exact fresh row isRow
  · rw [factsOf_refreshNode]
    simp [factsOf]

theorem factsOf_setNodeStatus {status : NodeStatus} {target : Option String}
    (updated : graph.setNodeStatus nodeId status target = .ok after) :
    factsOf after = restatus nodeId status target (factsOf graph) ∧ after.aliases = graph.aliases ∧
      after.assertions = graph.assertions := by
  obtain ⟨_, rfl⟩ := setNodeStatus_ok updated
  refine ⟨?_, rfl, rfl⟩
  rw [factsOf_refreshNode]
  apply map_updateWhere_eq
  intro row _
  by_cases here : row.id = nodeId
  · simp [nodeFact, Indexed.id, here]
  · simp [nodeFact, Indexed.id, here]

theorem factsOf_updateNode {input : UpdateNodeInput} (updated : graph.updateNode nodeId input = .ok after) :
    factsOf after = factsOf graph := by
  obtain ⟨existing, _, rfl⟩ := updateNode_ok updated
  rw [factsOf_refreshNode]
  exact map_updateWhere fun row _ _ => rfl

theorem factsOf_addAlias {aliasText : JsString} {aliasType : AliasType} {id nowUtc : String}
    (added : graph.addAlias platform nodeId aliasText aliasType id nowUtc = .ok after) :
    factsOf after = factsOf graph ∧ (∀ named ∈ graph.aliases, named ∈ after.aliases) ∧
      after.assertions = graph.assertions := by
  obtain rfl | ⟨row, _, _, _, rfl⟩ := addAlias_ok added
  · exact ⟨rfl, fun _ member => member, rfl⟩
  · refine ⟨by rw [factsOf_refreshNode]; rfl, fun named member => ?_, rfl⟩
    exact List.mem_append_left _ member

theorem factsOf_removeAlias (graph : GraphState) (platform : TextPlatform) (nodeId : String) (aliasText : JsString)
    (aliasType : AliasType) :
    factsOf (graph.removeAlias platform nodeId aliasText aliasType) = factsOf graph ∧
      (∀ named ∈ graph.aliases, named.nodeId ≠ nodeId →
        named ∈ (graph.removeAlias platform nodeId aliasText aliasType).aliases) ∧
      (graph.removeAlias platform nodeId aliasText aliasType).assertions = graph.assertions := by
  unfold GraphState.removeAlias
  simp only
  split
  · refine ⟨by rw [factsOf_refreshNode]; rfl, fun named member apart => ?_, rfl⟩
    exact List.mem_filter.mpr ⟨member, by simp [apart]⟩
  · exact ⟨rfl, fun named member _ => member, rfl⟩

theorem factsOf_reassignAliases {sourceNodeId targetNodeId : String} {moved : List String}
    (reassigned : graph.reassignAliases sourceNodeId targetNodeId = .ok (moved, after)) :
    factsOf after = factsOf graph := by
  obtain ⟨_, rfl⟩ := reassignAliases_ok reassigned
  rw [factsOf_refreshNode, factsOf_refreshNode]
  rfl

theorem nodes_updateAssertion {rewrite : AssertionRow → AssertionRow}
    (updated : graph.updateAssertion assertionId rewrite = .ok after) : after.nodes = graph.nodes := by
  obtain ⟨_, _, rfl⟩ := updateAssertion_eq_ok.mp updated
  rfl

theorem factsOf_of_nodes (same : after.nodes = graph.nodes) : factsOf after = factsOf graph := by
  rw [factsOf, same, factsOf]

end

/-! ## Sound graphs -/

/-- Ids are distinct, and an active node was merged into none. -/
structure Sound (facts : List NodeFact) : Prop where
  ids : (facts.map NodeFact.id).Nodup
  targets : ∀ fact ∈ facts, fact.status = .active → fact.target = none

/-- What a write does to the nodes. -/
inductive FactsChange (facts : List NodeFact) : List NodeFact → Prop where
  | same : FactsChange facts facts
  | added (fact : NodeFact) (fresh : ∀ other ∈ facts, other.id ≠ fact.id) (merged : fact.target = none) :
      FactsChange facts (facts ++ [fact])
  | updated (nodeId : String) (status : NodeStatus) (target : Option String) (active : status = .active → target = none) :
      FactsChange facts (restatus nodeId status target facts)

theorem Sound.change {facts changed : List NodeFact} (sound : Sound facts) (change : FactsChange facts changed) :
    Sound changed := by
  cases change with
  | same => exact sound
  | added fact fresh merged =>
    constructor
    · exact nodup_map_snoc sound.ids fresh
    · intro other member isActive
      rw [List.mem_append, List.mem_singleton] at member
      cases member with
      | inl known => exact sound.targets other known isActive
      | inr isNew => rw [isNew, merged]
  | updated nodeId status target active =>
    constructor
    · have kept : (restatus nodeId status target facts).map NodeFact.id = facts.map NodeFact.id :=
        map_updateWhere fun _ _ _ => rfl
      rw [kept]
      exact sound.ids
    · intro other member isActive
      obtain ⟨fact, isFact, rfl⟩ := mem_updateWhere.mp member
      by_cases here : fact.id = nodeId
      · simp only [here, decide_true, if_true] at isActive ⊢
        exact active isActive
      · simp only [here, decide_false, Bool.false_eq_true, if_false] at isActive ⊢
        exact sound.targets fact isFact isActive

variable {graph : GraphState} {after : GraphState}

theorem factsChange_perform {platform : TextPlatform} {call : StoreCall}
    (sets : SetsMergeTarget call) (performed : call.perform platform graph = .ok after) :
    FactsChange (factsOf graph) (factsOf after) := by
  have same : factsOf after = factsOf graph → FactsChange (factsOf graph) (factsOf after) := fun same => same ▸ .same
  have nodes : after.nodes = graph.nodes → FactsChange (factsOf graph) (factsOf after) :=
    fun sameNodes => same (factsOf_of_nodes sameNodes)
  cases call with
  | createNode input id =>
    obtain ⟨fresh, isAfter⟩ := factsOf_createNode performed
    rw [isAfter]
    exact .added _ fresh rfl
  | updateNode nodeId input => exact same (factsOf_updateNode performed)
  | setNodeStatus nodeId status target =>
    rw [(factsOf_setNodeStatus performed).1]
    exact .updated nodeId status target sets
  | addAlias nodeId aliasText aliasType id nowUtc => exact same (factsOf_addAlias performed).1
  | removeAlias nodeId aliasText aliasType =>
    cases performed
    exact same (factsOf_removeAlias graph platform nodeId aliasText aliasType).1
  | reassignAliases sourceNodeId targetNodeId =>
    obtain ⟨⟨moved, changed⟩, reassigned, rfl⟩ := map_eq_ok.mp performed
    exact same (factsOf_reassignAliases reassigned)
  | createAssertion input id nowUtc =>
    obtain ⟨_, _, _, _, _, _, rfl⟩ := createAssertion_ok performed
    exact nodes rfl
  | retireAssertion assertionId status =>
    obtain ⟨_, _, updated, isUpdated, rfl⟩ := retireAssertion_eq_ok.mp performed
    exact nodes (show updated.nodes = graph.nodes from nodes_updateAssertion isUpdated)
  | reactivateAssertion assertionId searchText =>
    obtain ⟨_, _, _, updated, isUpdated, rfl⟩ := reactivateAssertion_eq_ok.mp performed
    exact nodes (show updated.nodes = graph.nodes from nodes_updateAssertion isUpdated)
  | repointNodeReference assertionId column targetNodeId =>
    obtain ⟨_, _, _, _, _, _, updated⟩ := repointNodeReference_ok performed
    exact nodes (nodes_updateAssertion updated)
  | setStatus assertionId status => exact nodes (nodes_updateAssertion performed)
  | setSensitivity assertionId sensitivity => exact nodes (nodes_updateAssertion performed)
  | setConfidence assertionId confidence => exact nodes (nodes_updateAssertion performed)
  | setBasis assertionId basis => exact nodes (nodes_updateAssertion performed)
  | closeValidity assertionId validToUtc => exact nodes (nodes_updateAssertion performed)
  | recordObservation assertionId observedAtUtc => exact nodes (nodes_updateAssertion performed)

/-! ## Orphans -/

theorem mem_idsOf {Row : Type} {id : Row → String} {rows : List Row} {name : String} :
    name ∈ idsOf id rows ↔ ∃ row ∈ rows, id row = name := by
  simp [idsOf]

def RefersTo (row : AssertionRow) (nodeId : String) : Prop :=
  row.subjectNodeId = nodeId ∨ row.objectNodeId = some nodeId ∨ row.scopeNodeId = some nodeId

/-- What makes an orphan of a node. -/
structure IsOrphan (graph : GraphState) (fact : NodeFact) : Prop where
  person : fact.type = .person
  active : fact.status = .active
  notOwner : fact.canonicalKey ≠ some OWNER_PERSON_CANONICAL_KEY
  unreferred : ∀ row ∈ graph.assertions.rows, ¬RefersTo row fact.id
  unmerged : ∀ other ∈ factsOf graph, other.target ≠ some fact.id
  unnamed : ∀ named ∈ graph.aliases, named.nodeId = fact.id → named.aliasType ≠ .user_supplied

theorem isOrphan_iff {row : NodeRow} : isOrphan graph row = true ↔ IsOrphan graph (nodeFact row) := by
  constructor
  · intro orphan
    simp only [isOrphan, Bool.and_eq_true, beq_iff_eq, bne_iff_ne, Bool.not_eq_true', List.any_eq_false, Bool.or_eq_true,
      not_or, not_and] at orphan
    obtain ⟨⟨⟨⟨⟨person, active⟩, notOwner⟩, unreferred⟩, unmerged⟩, unnamed⟩ := orphan
    refine ⟨person, active, notOwner, ?_, ?_, unnamed⟩
    · rintro assertion member (subject | object | scope)
      · exact (unreferred assertion member).1.1 subject
      · exact (unreferred assertion member).1.2 object
      · exact (unreferred assertion member).2 scope
    · intro other member
      obtain ⟨merged, isMerged, rfl⟩ := List.mem_map.mp member
      exact unmerged merged isMerged
  · rintro ⟨person, active, notOwner, unreferred, unmerged, unnamed⟩
    simp only [isOrphan, Bool.and_eq_true, beq_iff_eq, bne_iff_ne, Bool.not_eq_true', List.any_eq_false, Bool.or_eq_true,
      not_or, not_and]
    refine ⟨⟨⟨⟨⟨person, active⟩, notOwner⟩, ?_⟩, ?_⟩, unnamed⟩
    · intro assertion member
      have apart := unreferred assertion member
      simp only [RefersTo, not_or] at apart
      exact ⟨⟨apart.1, apart.2.1⟩, apart.2.2⟩
    · exact fun merged member => unmerged (nodeFact merged) (List.mem_map_of_mem member)

theorem mem_orphanPersonNodeIds {nodeId : String} :
    nodeId ∈ orphanPersonNodeIds graph ↔ ∃ fact ∈ factsOf graph, fact.id = nodeId ∧ IsOrphan graph fact := by
  rw [orphanPersonNodeIds, mem_idsOf]
  constructor
  · rintro ⟨row, member, sameId⟩
    obtain ⟨isRow, orphan⟩ := List.mem_filter.mp member
    exact ⟨nodeFact row, List.mem_map_of_mem isRow, sameId, isOrphan_iff.mp orphan⟩
  · rintro ⟨fact, member, sameId, orphan⟩
    obtain ⟨row, isRow, rfl⟩ := List.mem_map.mp member
    exact ⟨row, List.mem_filter.mpr ⟨isRow, isOrphan_iff.mpr orphan⟩, sameId⟩

/-- What stays an orphan where merge targets, references and names go only. -/
theorem IsOrphan.of_fewer {fact : NodeFact} (orphan : IsOrphan after fact)
    (references : ∀ row ∈ graph.assertions.rows, RefersTo row fact.id → ∃ later ∈ after.assertions.rows, RefersTo later fact.id)
    (targets : ∀ other ∈ factsOf graph, other.target = some fact.id →
      ∃ later ∈ factsOf after, later.target = some fact.id)
    (names : ∀ named ∈ graph.aliases, named.nodeId = fact.id → named ∈ after.aliases) : IsOrphan graph fact where
  person := orphan.person
  active := orphan.active
  notOwner := orphan.notOwner
  unreferred := by
    intro row member refers
    obtain ⟨later, isLater, laterRefers⟩ := references row member refers
    exact orphan.unreferred later isLater laterRefers
  unmerged := by
    intro other member merged
    obtain ⟨later, isLater, laterMerged⟩ := targets other member merged
    exact orphan.unmerged later isLater laterMerged
  unnamed := fun named member ofNode => orphan.unnamed named (names named member ofNode) ofNode

section

variable {Envelope Digest : Type} {platform : AssistantPlatform Envelope Digest} {state : AssistantState Envelope Digest}

/-- No new orphans. -/
def FewerOrphans (graph after : GraphState) : Prop :=
  ∀ nodeId ∈ orphanPersonNodeIds after, nodeId ∈ orphanPersonNodeIds graph

theorem ownerNode_spec {owner : NodeRow} (isOwner : state.ownerNode = some owner) :
    nodeFact owner ∈ factsOf state.graph ∧ owner.canonicalKey = some OWNER_PERSON_CANONICAL_KEY := by
  have found := List.find?_some isOwner
  simp only [Bool.and_eq_true, beq_iff_eq] at found
  exact ⟨List.mem_map_of_mem (List.mem_of_find?_eq_some isOwner), found.1.2⟩

theorem fewerOrphans_createOwnerNode {id : String}
    (created : state.graph.createNode AssistantState.ownerNodeInput id = .ok after) :
    FewerOrphans state.graph after := by
  obtain ⟨_, isAfter⟩ := factsOf_createNode created
  obtain ⟨_, isGraph⟩ := createNode_ok created
  intro nodeId member
  obtain ⟨fact, isFact, sameId, orphan⟩ := mem_orphanPersonNodeIds.mp member
  rw [isAfter, List.mem_append, List.mem_singleton] at isFact
  cases isFact with
  | inl known =>
    apply mem_orphanPersonNodeIds.mpr
    refine ⟨fact, known, sameId, orphan.of_fewer ?_ ?_ ?_⟩
    · exact fun row isRow refers => ⟨row, by rw [isGraph]; exact isRow, refers⟩
    · exact fun other isOther merged => ⟨other, by rw [isAfter]; exact List.mem_append_left _ isOther, merged⟩
    · exact fun named isNamed _ => by rw [isGraph]; exact isNamed
  | inr isNew =>
    rw [isNew] at orphan
    exact absurd rfl orphan.notOwner

theorem fewerOrphans_ownerAlias (sound : Sound (factsOf state.graph)) {owner : NodeRow}
    (isOwner : state.ownerNode = some owner) (facts : factsOf after = factsOf state.graph)
    (names : ∀ named ∈ state.graph.aliases, named.nodeId ≠ owner.id → named ∈ after.aliases)
    (assertions : after.assertions = state.graph.assertions) : FewerOrphans state.graph after := by
  obtain ⟨isFact, isKey⟩ := ownerNode_spec isOwner
  intro nodeId member
  obtain ⟨fact, known, sameId, orphan⟩ := mem_orphanPersonNodeIds.mp member
  rw [facts] at known
  have apart : fact.id ≠ owner.id := by
    intro same
    have sameFact : fact = nodeFact owner := List.inj_on_of_nodup_map sound.ids known isFact same
    exact orphan.notOwner (by rw [sameFact]; exact isKey)
  apply mem_orphanPersonNodeIds.mpr
  refine ⟨fact, known, sameId, orphan.of_fewer ?_ ?_ ?_⟩
  · exact fun row isRow refers => ⟨row, by rw [assertions]; exact isRow, refers⟩
  · exact fun other isOther merged => ⟨other, by rw [facts]; exact isOther, merged⟩
  · exact fun named isNamed ofNode => names named isNamed (fun ofOwner => apart (ofNode.symm.trans ofOwner))

end

end SiftKit.Assistant.Cleanup
