import SiftKit.Foundation.Runs
import SiftKit.Graph.StoreEffects

/-! # The plaintext indexes mirror the live graph

Every write of the two stores that changes a status, a text or a node's sensitivity refreshes the
index entry of its row.  The one that changes the sensitivity of an assertion does not, so the
indexes mirror the graph as long as no such write takes a live assertion across the exclusion floor.
-/

namespace SiftKit.Graph

open SiftKit.Failure SiftKit.Json SiftKit.Runs SiftKit.Tables SiftKit.Tables.IndexedTable MirrorsBut
open GraphState

/-! ## Calls -/

/-- The writes of the stores that the services make. -/
inductive StoreCall where
  | createNode (input : CreateNodeInput) (id : String)
  | updateNode (nodeId : String) (input : UpdateNodeInput)
  | setNodeStatus (nodeId : String) (status : NodeStatus) (mergedIntoNodeId : Option String)
  | addAlias (nodeId : String) (aliasText : JsString) (aliasType : AliasType) (id nowUtc : String)
  | removeAlias (nodeId : String) (aliasText : JsString) (aliasType : AliasType)
  | reassignAliases (sourceNodeId targetNodeId : String)
  | createAssertion (input : CreateAssertionInput) (id nowUtc : String)
  | retireAssertion (assertionId : String) (status : AssertionStatus)
  | setStatus (assertionId : String) (status : AssertionStatus)
  | reactivateAssertion (assertionId : String) (searchText : AssertionSearchText)
  | setSensitivity (assertionId : String) (sensitivity : Sensitivity)
  | setConfidence (assertionId : String) (confidence : ℚ)
  | setBasis (assertionId : String) (basis : AssertionBasis)
  | closeValidity (assertionId validToUtc : String)
  | recordObservation (assertionId observedAtUtc : String)
  | repointNodeReference (assertionId : String) (column : NodeReferenceColumn) (targetNodeId : String)

def StoreCall.perform (platform : TextPlatform) (state : GraphState) : StoreCall → Except ErrorMessage GraphState
  | .createNode input id => state.createNode input id
  | .updateNode nodeId input => state.updateNode nodeId input
  | .setNodeStatus nodeId status mergedIntoNodeId => state.setNodeStatus nodeId status mergedIntoNodeId
  | .addAlias nodeId aliasText aliasType id nowUtc => state.addAlias platform nodeId aliasText aliasType id nowUtc
  | .removeAlias nodeId aliasText aliasType => .ok (state.removeAlias platform nodeId aliasText aliasType)
  | .reassignAliases sourceNodeId targetNodeId => (state.reassignAliases sourceNodeId targetNodeId).map Prod.snd
  | .createAssertion input id nowUtc => state.createAssertion platform input id nowUtc
  | .retireAssertion assertionId status => state.retireAssertion assertionId status
  | .setStatus assertionId status => state.setStatus assertionId status
  | .reactivateAssertion assertionId searchText => state.reactivateAssertion assertionId searchText
  | .setSensitivity assertionId sensitivity => state.setSensitivity assertionId sensitivity
  | .setConfidence assertionId confidence => state.setConfidence assertionId confidence
  | .setBasis assertionId basis => state.updateAssertion assertionId fun row => { row with basis }
  | .closeValidity assertionId validToUtc => state.closeValidity assertionId validToUtc
  | .recordObservation assertionId observedAtUtc => state.recordObservation assertionId observedAtUtc
  | .repointNodeReference assertionId column targetNodeId =>
    state.repointNodeReference platform assertionId column targetNodeId

/-- How the services call the stores: they retire into statuses that are not live, and mark live
assertions as disputed. -/
def StoreCall.IsServiceCall (state : GraphState) : StoreCall → Prop
  | .retireAssertion _ status => status.isLive = false
  | .setStatus assertionId status =>
    status = .disputed ∧ ∀ row, state.getAssertion assertionId = some row → row.isLive = true
  | _ => True

/-- No reclassification takes a live assertion across the exclusion floor. -/
def StoreCall.KeepsFloor (state : GraphState) : StoreCall → Prop
  | .setSensitivity assertionId sensitivity => ∀ row, state.getAssertion assertionId = some row → row.isLive = true →
      isIndexableInPlaintext sensitivity = isIndexableInPlaintext row.sensitivity
  | _ => True

/-! ## The mirror -/

/-- What is indexed is what is live and below the floor, with the aliases of today. -/
structure GraphState.IsMirrored (state : GraphState) : Prop where
  assertions : ∀ row ∈ state.assertions.rows,
    (∃ entry ∈ state.assertions.index, entry.owner = row.id) ↔
      (row.status = .active ∨ row.status = .disputed) ∧ isSensitivityAtLeast row.sensitivity FTS_EXCLUSION_FLOOR = false
  nodes : ∀ row ∈ state.nodes.rows,
    (∃ entry ∈ state.nodes.index, entry.owner = row.id) ↔
      row.status = .active ∧ isSensitivityAtLeast row.sensitivity FTS_EXCLUSION_FLOOR = false
  aliases : ∀ row ∈ state.nodes.rows, ∀ entry ∈ state.nodes.index, entry.owner = row.id →
    entry.text.aliases = state.aliasesText row.id

/-- A call of the services that keeps the floor, and succeeds. -/
def MirroringStep (platform : TextPlatform) (before : GraphState) (call : StoreCall) (after : GraphState) : Prop :=
  call.IsServiceCall before ∧ call.KeepsFloor before ∧ call.perform platform before = .ok after

/-! ## The invariant -/

/-- The node index, but for stale nodes. -/
def GraphState.NodesMirrored (state : GraphState) (stale : String → Prop) : Prop :=
  MirrorsBut state.nodes isIndexableNode (fun row text => text = state.nodeText row) stale

def GraphState.AssertionsMirrored (state : GraphState) (stale : String → Prop) : Prop :=
  MirrorsBut state.assertions isIndexableAssertion (fun _ _ => True) stale

structure GraphState.IndexInvariant (state : GraphState) : Prop where
  nodes : state.NodesMirrored fun _ => False
  assertions : state.AssertionsMirrored fun _ => False

theorem indexInvariant_empty : empty.IndexInvariant := ⟨mirrorsBut_empty, mirrorsBut_empty⟩

section

variable {state : GraphState}

theorem GraphState.IndexInvariant.isMirrored (invariant : state.IndexInvariant) : state.IsMirrored := by
  refine ⟨?_, ?_, ?_⟩
  · intro row member
    rw [show row.id = Indexed.id row from rfl, invariant.assertions.entry_iff member id]
    cases isStatus : row.status <;> simp [isIndexableAssertion, AssertionRow.isLive, AssertionStatus.isLive,
      isIndexableInPlaintext, isStatus]
  · intro row member
    rw [show row.id = Indexed.id row from rfl, invariant.nodes.entry_iff member id]
    simp [isIndexableNode, isIndexableInPlaintext]
  · intro row member entry entryMember isOwner
    rw [invariant.nodes.faithful row member id entry entryMember isOwner]
    rfl

/-! ### Refreshing -/

theorem GraphState.NodesMirrored.refreshNode {stale : String → Prop}
    (mirrored : state.NodesMirrored stale) (nodeId : String) :
    (state.refreshNode nodeId).NodesMirrored fun other => stale other ∧ other ≠ nodeId :=
  refresh mirrored nodeId (fun _ _ => rfl) (fun _ _ _ => Iff.rfl) fun _ => rfl

theorem GraphState.NodesMirrored.refreshed {nodeId : String}
    (mirrored : state.NodesMirrored fun other => other = nodeId) :
    (state.refreshNode nodeId).NodesMirrored fun _ => False :=
  change (mirrored.refreshNode nodeId) (fun _ stale => stale.2 stale.1) fun _ _ _ _ isShown => isShown

theorem GraphState.AssertionsMirrored.refreshed {assertionId : String}
    (mirrored : state.AssertionsMirrored fun other => other = assertionId) (searchText : AssertionSearchText) :
    (state.refreshAssertion assertionId searchText).AssertionsMirrored fun _ => False := by
  have fresh : (state.refreshAssertion assertionId searchText).AssertionsMirrored
      fun other => other = assertionId ∧ other ≠ assertionId :=
    refresh mirrored assertionId (fun _ _ => rfl) (fun _ _ _ => Iff.rfl) fun _ => trivial
  exact change fresh (fun _ stale => stale.2 stale.1) fun _ _ _ _ isShown => isShown

theorem GraphState.NodesMirrored.withAliases {aliases : List AliasRow} {stale : String → Prop}
    (mirrored : state.NodesMirrored fun _ => False)
    (same : ∀ nodeId, ¬ stale nodeId → aliases.filter (fun row => decide (row.nodeId = nodeId)) =
      state.aliases.filter fun row => decide (row.nodeId = nodeId)) :
    NodesMirrored { state with aliases } stale := by
  apply change mirrored (fun _ => False.elim)
  intro row _ fresh text isShown
  have sameAliases : listAliases { state with aliases } row.id = state.listAliases row.id := by
    rw [listAliases, listAliases, same row.id fresh]
  rw [isShown, nodeText, nodeText, aliasesText, aliasesText, sameAliases]

end

/-! ### One call -/

variable {platform : TextPlatform}

namespace GraphState.IndexInvariant

variable {state after : GraphState}

theorem createNode {input : CreateNodeInput} {id : String} (invariant : state.IndexInvariant)
    (created : state.createNode input id = .ok after) : after.IndexInvariant := by
  obtain ⟨fresh, rfl⟩ := createNode_ok created
  refine ⟨NodesMirrored.refreshed ?_, invariant.assertions⟩
  have unknown : Indexed.rowid (newNode input id) = none := rfl
  exact change (insert invariant.nodes fresh unknown) (fun _ stale => stale.resolve_left not_false)
    fun _ _ _ _ isShown => isShown

theorem updatedNode {nodeId : String} {rewrite : NodeRow → NodeRow} (invariant : state.IndexInvariant)
    (keepsId : ∀ row, (rewrite row).id = row.id) (keepsRowid : ∀ row, (rewrite row).ftsRowid = row.ftsRowid) :
    (refreshNode { state with nodes := state.nodes.update nodeId rewrite } nodeId).IndexInvariant := by
  refine ⟨NodesMirrored.refreshed ?_, invariant.assertions⟩
  have updated := update invariant.nodes nodeId keepsId keepsRowid
  exact change updated (fun _ stale => stale.resolve_left not_false) fun _ _ _ _ isShown => isShown

theorem addAlias {nodeId id nowUtc : String} {aliasText : JsString} {aliasType : AliasType}
    (invariant : state.IndexInvariant)
    (added : state.addAlias platform nodeId aliasText aliasType id nowUtc = .ok after) : after.IndexInvariant := by
  obtain rfl | ⟨row, rfl, _, _, rfl⟩ := addAlias_ok added
  · exact invariant
  · refine ⟨NodesMirrored.refreshed (invariant.nodes.withAliases ?_), invariant.assertions⟩
    intro nodeId other
    rw [List.filter_append, List.filter_singleton]
    simp [Ne.symm other]

theorem removeAlias (platform : TextPlatform) (nodeId : String) (aliasText : JsString) (aliasType : AliasType)
    (invariant : state.IndexInvariant) : (state.removeAlias platform nodeId aliasText aliasType).IndexInvariant := by
  unfold GraphState.removeAlias
  dsimp only
  split
  · refine ⟨NodesMirrored.refreshed (invariant.nodes.withAliases ?_), invariant.assertions⟩
    intro otherId other
    rw [List.filter_filter]
    apply List.filter_congr
    intro row _
    by_cases isOther : row.nodeId = otherId
    · simp [isOther, other]
    · simp [isOther]
  · exact invariant

theorem reassignAliases {sourceNodeId targetNodeId : String} {moved : List String} (invariant : state.IndexInvariant)
    (reassigned : state.reassignAliases sourceNodeId targetNodeId = .ok (moved, after)) : after.IndexInvariant := by
  obtain ⟨_, rfl⟩ := reassignAliases_ok reassigned
  refine ⟨NodesMirrored.refreshed ?_, invariant.assertions⟩
  have repointed : NodesMirrored { state with
      aliases := updateWhere (fun row => decide (row.nodeId = sourceNodeId))
        (fun row => { row with nodeId := targetNodeId }) state.aliases }
      fun other => other = sourceNodeId ∨ other = targetNodeId := by
    apply invariant.nodes.withAliases
    intro nodeId other
    rw [not_or] at other
    apply filter_updateWhere_of_disjoint
    intro row _ isSource
    simp only [decide_eq_true_eq, decide_eq_false_iff_not] at isSource ⊢
    exact ⟨fun same => other.1 (same.symm.trans isSource), fun same => other.2 same.symm⟩
  apply change (repointed.refreshNode sourceNodeId) ?_ fun _ _ _ _ isShown => isShown
  intro other stale
  exact stale.1.resolve_left stale.2

theorem createAssertion {input : CreateAssertionInput} {id nowUtc : String}
    (invariant : state.IndexInvariant) (created : state.createAssertion platform input id nowUtc = .ok after) :
    after.IndexInvariant := by
  obtain ⟨key, text, _, fresh, _, _, rfl⟩ := createAssertion_ok created
  refine ⟨invariant.nodes, AssertionsMirrored.refreshed ?_ _⟩
  have unknown : Indexed.rowid (newAssertion input id nowUtc key text) = none := rfl
  exact change (insert invariant.assertions fresh unknown) (fun _ stale => stale.resolve_left not_false)
    fun _ _ _ _ isShown => isShown

variable {assertionId : String} {rewrite : AssertionRow → AssertionRow}

section

variable (invariant : state.IndexInvariant) (updated : state.updateAssertion assertionId rewrite = .ok after)

include invariant updated

section

variable (keepsId : ∀ row, (rewrite row).id = row.id)
  (keepsRowid : ∀ row, (rewrite row).ftsRowid = row.ftsRowid)

include keepsId keepsRowid

theorem updateAssertion (keepsIndexable : ∀ row, state.getAssertion assertionId = some row → isIndexableAssertion (rewrite row) =
      isIndexableAssertion row) :
    after.IndexInvariant := by
  obtain ⟨⟨existing, found⟩, _, rfl⟩ := updateAssertion_eq_ok.mp updated
  obtain ⟨member, rfl⟩ := id_of_get? found
  refine ⟨invariant.nodes, update_kept invariant.assertions _ keepsId keepsRowid ?_ fun _ _ _ _ _ => trivial⟩
  intro row rowMember same
  rw [invariant.assertions.tracked.row_unique rowMember member same]
  exact keepsIndexable existing found

theorem staleAssertion :
    after.AssertionsMirrored fun other => other = assertionId := by
  obtain ⟨_, _, rfl⟩ := updateAssertion_eq_ok.mp updated
  exact change (update invariant.assertions assertionId keepsId keepsRowid)
    (fun _ stale => stale.resolve_left not_false) fun _ _ _ _ isShown => isShown

end

theorem nodes_updateAssertion : after.NodesMirrored fun _ => False := by
  obtain ⟨_, _, rfl⟩ := updateAssertion_eq_ok.mp updated
  exact invariant.nodes

end

theorem reactivateAssertion {searchText : AssertionSearchText} (invariant : state.IndexInvariant)
    (reactivated : state.reactivateAssertion assertionId searchText = .ok after) : after.IndexInvariant := by
  obtain ⟨existing, _, _, updated, isUpdated, rfl⟩ := reactivateAssertion_eq_ok.mp reactivated
  have nodes := invariant.nodes_updateAssertion isUpdated
  exact ⟨nodes, (invariant.staleAssertion isUpdated (fun _ => rfl) fun _ => rfl).refreshed searchText⟩

theorem retireAssertion {status : AssertionStatus} (invariant : state.IndexInvariant)
    (notLive : status.isLive = false) (retired : state.retireAssertion assertionId status = .ok after) :
    after.IndexInvariant := by
  obtain ⟨existing, found, updated, isUpdated, rfl⟩ := retireAssertion_eq_ok.mp retired
  have nodes := invariant.nodes_updateAssertion isUpdated
  refine ⟨nodes, ?_⟩
  have stale := invariant.staleAssertion isUpdated (fun _ => rfl) fun _ => rfl
  obtain ⟨_, _, rfl⟩ := updateAssertion_eq_ok.mp isUpdated
  obtain ⟨member, rfl⟩ := id_of_get? found
  -- the updated row still knows the number that the row read before it had
  let row : AssertionRow := { existing with status }
  have rowMember : row ∈ (state.assertions.update (Indexed.id existing) fun row => { row with status }).rows :=
    mem_update.mpr ⟨existing, member, (if_pos rfl).symm⟩
  have dropped := drop stale rowMember
  obtain ⟨after, afterMember, afterId, unknown, isAfter⟩ := dropped_row rowMember
  have notIndexable : isIndexableAssertion after = false := by
    rcases isAfter with rfl | rfl <;> simp [isIndexableAssertion, AssertionRow.isLive, row, notLive, Indexed.track]
  have settled := settle dropped afterMember afterId (by rw [unknown, notIndexable]; rfl) fun _ _ _ => trivial
  exact change settled (fun _ isStale => isStale.2 isStale.1) fun _ _ _ _ isShown => isShown

end GraphState.IndexInvariant

theorem GraphState.IndexInvariant.step {before after : GraphState} {call : StoreCall}
    (invariant : before.IndexInvariant) (taken : MirroringStep platform before call after) : after.IndexInvariant := by
  obtain ⟨isService, keepsFloor, performed⟩ := taken
  cases call with
  | createNode input id => exact invariant.createNode performed
  | updateNode nodeId input =>
    obtain ⟨existing, _, rfl⟩ := updateNode_ok performed
    exact invariant.updatedNode (fun _ => rfl) fun _ => rfl
  | setNodeStatus nodeId status mergedIntoNodeId =>
    obtain ⟨_, rfl⟩ := setNodeStatus_ok performed
    exact invariant.updatedNode (fun _ => rfl) fun _ => rfl
  | addAlias nodeId aliasText aliasType id nowUtc => exact invariant.addAlias performed
  | removeAlias nodeId aliasText aliasType =>
    cases performed
    exact invariant.removeAlias platform nodeId aliasText aliasType
  | reassignAliases sourceNodeId targetNodeId =>
    obtain ⟨answer, reassigned, rfl⟩ := map_eq_ok.mp performed
    exact invariant.reassignAliases reassigned
  | createAssertion input id nowUtc => exact invariant.createAssertion performed
  | retireAssertion assertionId status => exact invariant.retireAssertion isService performed
  | setStatus assertionId status =>
    refine invariant.updateAssertion performed (fun _ => rfl) (fun _ => rfl) ?_
    intro row found
    -- a live assertion that becomes disputed stays live
    obtain ⟨rfl, live⟩ := isService
    have wasLive := live row found
    simp only [isIndexableAssertion, wasLive]
    rfl
  | reactivateAssertion assertionId searchText => exact invariant.reactivateAssertion performed
  | setSensitivity assertionId sensitivity =>
    refine invariant.updateAssertion performed (fun _ => rfl) (fun _ => rfl) ?_
    intro row found
    cases live : row.isLive with
    | true =>
      have kept := keepsFloor row found live
      simp only [isIndexableAssertion, AssertionRow.isLive, kept]
    | false =>
      rw [AssertionRow.isLive] at live
      simp only [isIndexableAssertion, AssertionRow.isLive, live, Bool.false_and]
  | setConfidence assertionId confidence =>
    exact invariant.updateAssertion performed (fun _ => rfl) (fun _ => rfl) fun _ _ => rfl
  | setBasis assertionId basis =>
    exact invariant.updateAssertion performed (fun _ => rfl) (fun _ => rfl) fun _ _ => rfl
  | closeValidity assertionId validToUtc =>
    exact invariant.updateAssertion performed (fun _ => rfl) (fun _ => rfl) fun _ _ => rfl
  | recordObservation assertionId observedAtUtc =>
    exact invariant.updateAssertion performed (fun _ => rfl) (fun _ => rfl) fun _ _ => rfl
  | repointNodeReference assertionId column targetNodeId =>
    obtain ⟨existing, key, _, _, _, _, updated⟩ := repointNodeReference_ok performed
    refine invariant.updateAssertion updated ?_ ?_ ?_ <;> intro row <;> cases column <;> intros <;> rfl

/-! ## Runs -/

/-- In every run of service calls that keep the floor, the indexes mirror the graph. -/
theorem indexes_mirror_if_floor_kept (platform : TextPlatform) {calls : List StoreCall} {state : GraphState}
    (reached : Reaches (MirroringStep platform) empty calls state) : state.IsMirrored := by
  have invariant : state.IndexInvariant := by
    apply reached.invariant IndexInvariant indexInvariant_empty
    intro before call after held taken
    exact held.step taken
  exact invariant.isMirrored

/-! ### Samples -/

/-- Texts that are normal already, and no dates. -/
def asciiPlatform : TextPlatform := ⟨id, id, fun _ => none, fun _ => []⟩

def samplePerson : CreateNodeInput := ⟨.person, none, utf16 "Ada", none, .personal⟩

def sampleRole (sensitivity : Sensitivity) : CreateAssertionInput where
  subjectNodeId := "node_1"
  predicate := .HAS_ROLE
  object := .literal .string (.string (utf16 "engineer"))
  scopeNodeId := none
  status := .active
  basis := .passive_observation
  confidence := 0
  sensitivity
  validFromUtc := none
  validToUtc := none
  observedAtUtc := "2026-08-05T09:00:00.000Z"
  supersedesAssertionId := none
  searchText := ⟨utf16 "Ada", utf16 "HAS_ROLE", utf16 "engineer", []⟩

/-- A role below the floor is found. -/
theorem indexes_mirror_low_role : ∃ state : GraphState, state.IsMirrored ∧ state.assertions.index.length = 1 := by
  let calls : List StoreCall :=
    [.createNode samplePerson "node_1", .createAssertion (sampleRole .low) "ast_1" "2026-08-05T09:00:00.000Z"]
  have reached : ∃ state, Reaches (MirroringStep asciiPlatform) empty calls state ∧
      state.assertions.index.length = 1 :=
    ⟨_, .first ⟨trivial, trivial, rfl⟩ (.first ⟨trivial, trivial, rfl⟩ .start), rfl⟩
  obtain ⟨state, reached, indexed⟩ := reached
  exact ⟨state, indexes_mirror_if_floor_kept asciiPlatform reached, indexed⟩

/-- A live assertion above the floor that is reclassified below it stays out of the index. -/
theorem reclassified_assertion_is_not_indexed :
    ¬ ∀ calls state, Reaches (fun before (call : StoreCall) after =>
        call.IsServiceCall before ∧ call.perform asciiPlatform before = .ok after) empty calls state →
      state.IsMirrored := by
  intro always
  have mirrored := always [.createNode samplePerson "node_1",
      .createAssertion (sampleRole .sensitive) "ast_1" "2026-08-05T09:00:00.000Z", .setSensitivity "ast_1" .personal] _
    (.first ⟨trivial, rfl⟩ (.first ⟨trivial, rfl⟩ (.first ⟨trivial, rfl⟩ .start)))
  obtain ⟨entry, member, _⟩ := (mirrored.assertions _ List.mem_cons_self).mpr ⟨Or.inl rfl, rfl⟩
  cases member

end SiftKit.Graph
