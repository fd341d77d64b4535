import SiftKit.Foundation.Traversal
import SiftKit.Graph.State

/-! # Neighborhoods

`assistant/graph/neighborhood.ts` over the edge queries of `storage/assertion-store.ts`: a breadth-first search with
five bounds, each of which leaves a trace when it cuts something off.
-/

namespace SiftKit.Graph

open SiftKit.Failure SiftKit.Json SiftKit.Tables SiftKit.Traversal
open Relation (ReflTransGen)

/-! ## Queries -/

/-- A graph whose assertions have their primary key. -/
structure KeyedGraph extends GraphState where
  distinctIds : (assertions.rows.map AssertionRow.id).Nodup

/-- The order in which a query without `ORDER BY` yields its rows: any. -/
structure ScanOrder where
  order : List String → List String
  perm : ∀ ids, (order ids).Perm ids

inductive EdgeDirection where
  | subject
  | object

def EdgeDirection.column : EdgeDirection → NodeReferenceColumn
  | .subject => .subject_node_id
  | .object => .object_node_id

/-- A live edge between nodes at one side of a node. -/
def isLiveNodeEdge (nodeId : String) (direction : EdgeDirection) (predicates : List RelationType) (row : AssertionRow) : Bool :=
  decide (row.reference direction.column = some nodeId) && predicates.contains row.predicate && row.isLive &&
    row.objectNodeId.isSome

section

variable (graph : KeyedGraph) (scan : ScanOrder)

def liveNodeEdges (nodeId : String) (direction : EdgeDirection) (predicates : List RelationType) : List AssertionRow :=
  graph.assertions.rows.filter (isLiveNodeEdge nodeId direction predicates)

def listTopLiveNodeEdges (nodeId : String) (direction : EdgeDirection) (predicate : RelationType) (limit : Nat) :
    List AssertionRow :=
  (orderBy isListedBefore (liveNodeEdges graph nodeId direction [predicate])).take limit

def listLiveNodeEdgeIds (nodeId : String) (direction : EdgeDirection) (predicates : List RelationType) (limit : Nat) :
    List String :=
  (scan.order ((liveNodeEdges graph nodeId direction predicates).map AssertionRow.id)).take limit

/-! ## The search -/

inductive TruncationReason where
  | max_hops
  | max_nodes
  | max_assertions
  | max_fanout
  deriving DecidableEq

structure NeighborhoodRequest where
  rootNodeId : String
  predicates : List RelationType
  maxHops : Nat
  maxNodes : Nat
  maxAssertions : Nat
  maxFanoutPerNodePredicate : Nat

structure Neighborhood where
  rootNodeId : String
  nodeIds : List String
  assertionIds : List String
  truncatedBy : List TruncationReason

/-- `set.add(item)`, of a set in the order of its insertions. -/
def addTo {Item : Type} [DecidableEq Item] (set : List Item) (item : Item) : List Item :=
  if item ∈ set then set else set ++ [item]

structure NeighborhoodSearch where
  visitedNodes : List String
  collectedAssertions : List String
  truncatedBy : List TruncationReason
  nextFrontier : List String

namespace NeighborhoodSearch

def truncate (search : NeighborhoodSearch) (reason : TruncationReason) : NeighborhoodSearch :=
  { search with truncatedBy := addTo search.truncatedBy reason }

def visit (search : NeighborhoodSearch) (nodeId : String) : NeighborhoodSearch :=
  { search with
    visitedNodes := addTo search.visitedNodes nodeId
    nextFrontier := search.nextFrontier ++ [nodeId] }

def collect (search : NeighborhoodSearch) (assertionId : String) : NeighborhoodSearch :=
  { search with collectedAssertions := addTo search.collectedAssertions assertionId }

end NeighborhoodSearch

/-- `if (!byId.has(edge.id)) byId.set(edge.id, edge)`. -/
def addEdge (edges : List AssertionRow) (edge : AssertionRow) : List AssertionRow :=
  if edge.id ∈ edges.map AssertionRow.id then edges else edges ++ [edge]

/-- The edges of a predicate: of the subject side first, each once. -/
def edgesOf (nodeId : String) (fetchLimit : Nat) (predicate : RelationType) : List AssertionRow :=
  (listTopLiveNodeEdges graph nodeId .subject predicate fetchLimit ++
    listTopLiveNodeEdges graph nodeId .object predicate fetchLimit).foldl addEdge []

/-- The values of `groupByPredicate`, in allowlist order. -/
def groupByPredicate (nodeId : String) (allowed : List RelationType) (fetchLimit : Nat) : List (List AssertionRow) :=
  (allowed.map (edgesOf graph nodeId fetchLimit)).filter fun edges => !edges.isEmpty

/-- The other end of an edge. -/
def neighbourId (nodeId : String) (edge : AssertionRow) : Option String :=
  if edge.subjectNodeId = nodeId then edge.objectNodeId else some edge.subjectNodeId

variable (request : NeighborhoodRequest)

/-- The loop over the edges that are taken of one predicate. -/
def takeEdges (nodeId : String) : List AssertionRow → NeighborhoodSearch → NeighborhoodSearch
  | [], search => search
  | edge :: rest, search =>
    if request.maxAssertions ≤ search.collectedAssertions.length then search.truncate .max_assertions
    else
      match neighbourId nodeId edge with
      | none => takeEdges nodeId rest search
      | some neighbour =>
        if neighbour ∈ search.visitedNodes then takeEdges nodeId rest (search.collect edge.id)
        else if request.maxNodes ≤ search.visitedNodes.length then takeEdges nodeId rest (search.truncate .max_nodes)
        else takeEdges nodeId rest ((search.visit neighbour).collect edge.id)

def expandPredicate (nodeId : String) (search : NeighborhoodSearch) (edges : List AssertionRow) : NeighborhoodSearch :=
  let taken := edges.take request.maxFanoutPerNodePredicate
  takeEdges request nodeId taken (if taken.length < edges.length then search.truncate .max_fanout else search)

def expandNode (search : NeighborhoodSearch) (nodeId : String) : NeighborhoodSearch :=
  (groupByPredicate graph nodeId request.predicates.eraseDups (request.maxFanoutPerNodePredicate + 1)).foldl
    (expandPredicate request nodeId) search

/-- The hops that are left, from a frontier: the last frontier, and the search after it. -/
def expandHops : Nat → List String → NeighborhoodSearch → List String × NeighborhoodSearch
  | 0, frontier, search => (frontier, search)
  | hops + 1, frontier, search =>
    if frontier.isEmpty then (frontier, search)
    else
      let expanded := frontier.foldl (expandNode graph request) { search with nextFrontier := [] }
      expandHops hops expanded.nextFrontier expanded

/-- Whether a node of the frontier has a live edge that was not collected. -/
def hasRemainingEdges (frontier collectedAssertions : List String) : Bool :=
  let predicates := request.predicates.eraseDups
  let limit := collectedAssertions.length + 1
  frontier.any fun nodeId =>
    (listLiveNodeEdgeIds graph scan nodeId .subject predicates limit ++
      listLiveNodeEdgeIds graph scan nodeId .object predicates limit).any fun id => !collectedAssertions.contains id

/-- `NeighborhoodReader.read`. -/
def readNeighborhood : Except ErrorMessage Neighborhood := do
  let _ ← graph.requireNode request.rootNodeId
  let started : NeighborhoodSearch :=
    { visitedNodes := [request.rootNodeId], collectedAssertions := [], truncatedBy := [], nextFrontier := [] }
  let ended := expandHops graph request request.maxHops [request.rootNodeId] started
  let search :=
    if !ended.1.isEmpty && hasRemainingEdges graph scan request ended.1 ended.2.collectedAssertions then
      ended.2.truncate .max_hops
    else ended.2
  return {
    rootNodeId := request.rootNodeId
    nodeIds := search.visitedNodes
    assertionIds := search.collectedAssertions
    truncatedBy := search.truncatedBy }

end

/-! ## Edges -/

section

variable {graph : KeyedGraph} {request : NeighborhoodRequest}

/-- A live assertion of an allowed predicate between nodes. -/
structure IsEdge (graph : KeyedGraph) (request : NeighborhoodRequest) (row : AssertionRow) : Prop where
  stored : row ∈ graph.assertions.rows
  live : row.isLive = true
  allowed : row.predicate ∈ request.predicates
  between : row.objectNodeId.isSome = true

def Touches (row : AssertionRow) (nodeId : String) : Prop := row.subjectNodeId = nodeId ∨ row.objectNodeId = some nodeId

/-- An edge from one node to another, in either direction. -/
def Joins (row : AssertionRow) (nodeId neighbour : String) : Prop :=
  row.subjectNodeId = nodeId ∧ row.objectNodeId = some neighbour ∨ row.subjectNodeId = neighbour ∧ row.objectNodeId = some nodeId

def Adjacent (graph : KeyedGraph) (request : NeighborhoodRequest) (nodeId neighbour : String) : Prop :=
  ∃ row, IsEdge graph request row ∧ Joins row nodeId neighbour

variable {nodeId : String} {row : AssertionRow}

theorem neighbourId_spec (isEdge : IsEdge graph request row) (touches : Touches row nodeId) :
    ∃ neighbour, neighbourId nodeId row = some neighbour ∧ Joins row nodeId neighbour := by
  unfold neighbourId
  split
  next isSubject =>
    obtain ⟨object, isObject⟩ := Option.isSome_iff_exists.mp isEdge.between
    exact ⟨object, isObject, .inl ⟨isSubject, isObject⟩⟩
  next notSubject => exact ⟨row.subjectNodeId, rfl, .inr ⟨rfl, touches.resolve_left notSubject⟩⟩

variable {direction : EdgeDirection}

theorem isLiveNodeEdge_iff {predicates : List RelationType} :
    isLiveNodeEdge nodeId direction predicates row = true ↔
      row.reference direction.column = some nodeId ∧ row.predicate ∈ predicates ∧ row.isLive = true ∧
        row.objectNodeId.isSome = true := by
  simp [isLiveNodeEdge, and_assoc]

theorem touches_of_reference
    (refers : row.reference direction.column = some nodeId) : Touches row nodeId := by
  cases direction with
  | subject => exact .inl (by simpa [EdgeDirection.column, AssertionRow.reference] using refers)
  | object => exact .inr refers

theorem eq_of_ids {other : AssertionRow} (stored : row ∈ graph.assertions.rows)
    (otherStored : other ∈ graph.assertions.rows)
    (same : row.id = other.id) : row = other :=
  List.inj_on_of_nodup_map graph.distinctIds stored otherStored same

/-! ### The edges of one predicate -/

theorem foldl_addEdge_subset (edges kept : List AssertionRow) : edges.foldl addEdge kept ⊆ kept ++ edges := by
  induction edges generalizing kept with
  | nil => simp
  | cons edge rest ih =>
    intro row member
    have isIn := ih (addEdge kept edge) member
    simp only [addEdge, List.mem_append, List.mem_cons] at isIn ⊢
    split at isIn <;> grind

theorem ids_foldl_addEdge (edges kept : List AssertionRow) :
    (kept ++ edges).map AssertionRow.id ⊆ (edges.foldl addEdge kept).map AssertionRow.id := by
  induction edges generalizing kept with
  | nil => simp
  | cons edge rest ih =>
    intro id member
    apply ih (addEdge kept edge)
    simp only [addEdge, List.map_append, List.mem_append, List.map_cons, List.mem_cons] at member ⊢
    split <;> grind

variable {predicate : RelationType}

theorem mem_listTop {limit : Nat}
    (member : row ∈ listTopLiveNodeEdges graph nodeId direction predicate limit) :
    row ∈ graph.assertions.rows ∧ isLiveNodeEdge nodeId direction [predicate] row = true := by
  have isIn := List.mem_of_mem_take member
  rw [mem_orderBy] at isIn
  exact List.mem_filter.mp isIn

theorem edgesOf_sound {fetchLimit : Nat} (allowed : predicate ∈ request.predicates)
    (member : row ∈ edgesOf graph nodeId fetchLimit predicate) :
    IsEdge graph request row ∧ Touches row nodeId := by
  have fetched : ∃ direction, row ∈ listTopLiveNodeEdges graph nodeId direction predicate fetchLimit := by
    have isIn := foldl_addEdge_subset _ _ member
    rw [List.nil_append, List.mem_append] at isIn
    cases isIn with
    | inl isSubject => exact ⟨.subject, isSubject⟩
    | inr isObject => exact ⟨.object, isObject⟩
  obtain ⟨direction, isTop⟩ := fetched
  obtain ⟨stored, isLive⟩ := mem_listTop isTop
  obtain ⟨refers, isPredicate, live, between⟩ := isLiveNodeEdge_iff.mp isLive
  rw [← List.mem_singleton.mp isPredicate] at allowed
  exact ⟨⟨stored, live, allowed, between⟩, touches_of_reference refers⟩

theorem edgesOf_complete {fanout : Nat}
    (few : (edgesOf graph nodeId (fanout + 1) predicate).length ≤ fanout) (isEdge : IsEdge graph request row)
    (touches : Touches row nodeId) (isPredicate : row.predicate = predicate) :
    row ∈ edgesOf graph nodeId (fanout + 1) predicate := by
  obtain ⟨direction, refers⟩ : ∃ direction : EdgeDirection, row.reference direction.column = some nodeId := by
    cases touches with
    | inl isSubject => exact ⟨.subject, by simp [EdgeDirection.column, AssertionRow.reference, isSubject]⟩
    | inr isObject => exact ⟨.object, isObject⟩
  let side := orderBy isListedBefore (liveNodeEdges graph nodeId direction [predicate])
  have onSide : row ∈ side := by
    rw [mem_orderBy, liveNodeEdges, List.mem_filter, isLiveNodeEdge_iff]
    exact ⟨isEdge.stored, refers, by simp [isPredicate], isEdge.live, isEdge.between⟩
  -- the ids that were fetched of this side are among those of the edges, so they are few as well
  have fetchedIds : (side.take (fanout + 1)).map AssertionRow.id ⊆
      (edgesOf graph nodeId (fanout + 1) predicate).map AssertionRow.id := by
    intro id member
    apply ids_foldl_addEdge
    rw [List.nil_append, List.map_append, List.mem_append]
    cases direction with
    | subject => exact .inl member
    | object => exact .inr member
  have distinct : ((side.take (fanout + 1)).map AssertionRow.id).Nodup := by
    have whole : (side.map AssertionRow.id).Nodup := by
      rw [((perm_orderBy _ _).map AssertionRow.id).nodup_iff]
      exact graph.distinctIds.sublist (List.filter_sublist.map _)
    exact whole.sublist ((List.take_sublist _ _).map _)
  have fewFetched : (side.take (fanout + 1)).length ≤ fanout := by
    have fits := (List.subperm_of_subset distinct fetchedIds).length_le
    simp only [List.length_map] at fits
    omega
  rw [← take_eq_of_few fewFetched] at onSide
  obtain ⟨other, isIn, same⟩ := List.mem_map.mp (fetchedIds (List.mem_map_of_mem onSide))
  have allowed : predicate ∈ request.predicates := isPredicate ▸ isEdge.allowed
  rwa [eq_of_ids isEdge.stored (edgesOf_sound allowed isIn).1.stored same.symm]

/-! ## What the search adds -/

variable {Item : Type}

theorem subset_addTo [DecidableEq Item] (set : List Item) (item : Item) : set ⊆ addTo set item := by
  unfold addTo
  split
  · exact List.Subset.refl _
  · exact List.subset_append_left _ _

@[simp] theorem mem_addTo [DecidableEq Item] {set : List Item} {item other : Item} :
    other ∈ addTo set item ↔ other ∈ set ∨ other = item := by
  unfold addTo
  split <;> grind

theorem nodup_addTo [DecidableEq Item] {set : List Item} (distinct : set.Nodup) (item : Item) :
    (addTo set item).Nodup := by
  unfold addTo
  split
  · exact distinct
  next absent => exact List.nodup_append.mpr ⟨distinct, List.nodup_singleton item, by grind⟩

theorem length_addTo_le [DecidableEq Item] (set : List Item) (item : Item) :
    (addTo set item).length ≤ set.length + 1 := by
  unfold addTo
  split <;> simp

/-- A search that went on: it forgets nothing, and a node that is new to it stands in the next frontier. -/
structure Extends (before after : NeighborhoodSearch) : Prop where
  visited : before.visitedNodes ⊆ after.visitedNodes
  collected : before.collectedAssertions ⊆ after.collectedAssertions
  truncated : before.truncatedBy ⊆ after.truncatedBy
  waiting : before.nextFrontier ⊆ after.nextFrontier
  fresh : ∀ nodeId ∈ after.visitedNodes, nodeId ∈ before.visitedNodes ∨ nodeId ∈ after.nextFrontier

theorem Extends.refl (search : NeighborhoodSearch) : Extends search search :=
  ⟨fun _ => id, fun _ => id, fun _ => id, fun _ => id, fun _ => .inl⟩

theorem Extends.trans {first second third : NeighborhoodSearch} (early : Extends first second) (late : Extends second third) :
    Extends first third where
  visited := fun _ member => late.visited (early.visited member)
  collected := fun _ member => late.collected (early.collected member)
  truncated := fun _ member => late.truncated (early.truncated member)
  waiting := fun _ member => late.waiting (early.waiting member)
  fresh := by
    intro nodeId isVisited
    cases late.fresh nodeId isVisited with
    | inl before => exact (early.fresh nodeId before).imp_right fun isWaiting => late.waiting isWaiting
    | inr isWaiting => exact .inr isWaiting

theorem Extends.whole {before after : NeighborhoodSearch} (extends_ : Extends before after) (whole : after.truncatedBy = []) :
    before.truncatedBy = [] := List.eq_nil_of_subset_nil (whole ▸ extends_.truncated)

section

variable (search : NeighborhoodSearch)

include search

theorem extends_truncate (reason : TruncationReason) : Extends search (search.truncate reason) :=
  ⟨fun _ => id, fun _ => id, subset_addTo _ _, fun _ => id, fun _ => .inl⟩

theorem truncate_ne_nil (reason : TruncationReason) : (search.truncate reason).truncatedBy ≠ [] := by
  have isIn : reason ∈ (search.truncate reason).truncatedBy := mem_addTo.mpr (.inr rfl)
  exact List.ne_nil_of_mem isIn

theorem extends_collect (assertionId : String) : Extends search (search.collect assertionId) :=
  ⟨fun _ => id, subset_addTo _ _, fun _ => id, fun _ => id, fun _ => .inl⟩

theorem extends_visit (nodeId : String) : Extends search (search.visit nodeId) := by
  refine ⟨subset_addTo _ _, fun _ => id, fun _ => id, List.subset_append_left _ _, fun other isVisited => ?_⟩
  cases mem_addTo.mp isVisited with
  | inl before => exact .inl before
  | inr same => exact .inr (by simp [NeighborhoodSearch.visit, same])

end

section

variable {Item : Type} {step : NeighborhoodSearch → Item → NeighborhoodSearch}
  (each : ∀ search item, Extends search (step search item))

include each

theorem foldl_passes {items : List Item} {item : Item} (member : item ∈ items) (search : NeighborhoodSearch) :
    ∃ before, Extends search before ∧ Extends (step before item) (items.foldl step search) := by
  have goesOn : ∀ (items : List Item) (search : NeighborhoodSearch), Extends search (items.foldl step search) := by
    intro items
    induction items with
    | nil => exact Extends.refl
    | cons first rest ih => exact fun search => (each search first).trans (ih _)
  obtain ⟨early, late, rfl⟩ := List.append_of_mem member
  refine ⟨early.foldl step search, goesOn early search, ?_⟩
  rw [List.foldl_append, List.foldl_cons]
  exact goesOn late _

theorem foldl_extends (items : List Item) (search : NeighborhoodSearch) :
    Extends search (items.foldl step search) := by
  cases items with
  | nil => exact .refl search
  | cons first rest =>
    obtain ⟨before, early, late⟩ := foldl_passes each (List.mem_cons_self (a := first) (l := rest)) search
    exact early.trans ((each before first).trans late)

end

theorem takeEdges_extends (nodeId : String) (edges : List AssertionRow) (search : NeighborhoodSearch) :
    Extends search (takeEdges request nodeId edges search) := by
  induction edges generalizing search with
  | nil => exact .refl search
  | cons edge rest ih =>
    rw [takeEdges]
    split
    · exact extends_truncate search _
    · split
      · exact ih search
      · split
        · exact (extends_collect search edge.id).trans (ih _)
        · split
          · exact (extends_truncate search _).trans (ih _)
          · exact ((extends_visit search _).trans (extends_collect _ edge.id)).trans (ih _)

theorem expandPredicate_extends (nodeId : String) (search : NeighborhoodSearch) (edges : List AssertionRow) :
    Extends search (expandPredicate request nodeId search edges) := by
  unfold expandPredicate
  simp only
  split
  · exact (extends_truncate search _).trans (takeEdges_extends nodeId _ _)
  · exact takeEdges_extends nodeId _ _

theorem expandNode_extends (search : NeighborhoodSearch) (nodeId : String) :
    Extends search (expandNode graph request search nodeId) :=
  foldl_extends (fun search edges => expandPredicate_extends nodeId search edges) _ search

/-! ## Nothing is left out silently -/

variable {search : NeighborhoodSearch}

theorem takeEdges_complete {edges : List AssertionRow}
    (each : ∀ edge ∈ edges, IsEdge graph request edge ∧ Touches edge nodeId)
    (whole : (takeEdges request nodeId edges search).truncatedBy = []) :
    ∀ edge ∈ edges, edge.id ∈ (takeEdges request nodeId edges search).collectedAssertions := by
  induction edges generalizing search with
  | nil => simp
  | cons edge rest ih =>
    obtain ⟨⟨isEdge, touches⟩, others⟩ := List.forall_mem_cons.mp each
    obtain ⟨neighbour, isNeighbour, _⟩ := neighbourId_spec isEdge touches
    rw [takeEdges] at whole ⊢
    simp only [isNeighbour] at whole ⊢
    split at whole
    · exact absurd whole (truncate_ne_nil search _)
    next room =>
      rw [if_neg room]
      have here : ∀ after : NeighborhoodSearch, edge.id ∈ after.collectedAssertions →
          edge.id ∈ (takeEdges request nodeId rest after).collectedAssertions :=
        fun after isCollected => (takeEdges_extends nodeId rest after).collected isCollected
      split at whole
      next known =>
        rw [if_pos known, List.forall_mem_cons]
        exact ⟨here _ (mem_addTo.mpr (.inr rfl)), ih others whole⟩
      next unknown =>
        rw [if_neg unknown]
        split at whole
        · exact absurd ((takeEdges_extends nodeId rest _).whole whole) (truncate_ne_nil search _)
        next space =>
          rw [if_neg space, List.forall_mem_cons]
          exact ⟨here _ (mem_addTo.mpr (.inr rfl)), ih others whole⟩

/-- Every edge of the node was collected. -/
def Expanded (graph : KeyedGraph) (request : NeighborhoodRequest) (search : NeighborhoodSearch) (nodeId : String) : Prop :=
  ∀ row, IsEdge graph request row → Touches row nodeId → row.id ∈ search.collectedAssertions

theorem Expanded.extend {before after : NeighborhoodSearch} (expanded : Expanded graph request before nodeId)
    (later : Extends before after) : Expanded graph request after nodeId :=
  fun row isEdge touches => later.collected (expanded row isEdge touches)

theorem expandPredicate_complete
    (allowed : predicate ∈ request.predicates)
    (whole : (expandPredicate request nodeId search
      (edgesOf graph nodeId (request.maxFanoutPerNodePredicate + 1) predicate)).truncatedBy = [])
    (isEdge : IsEdge graph request row) (touches : Touches row nodeId) (isPredicate : row.predicate = predicate) :
    row.id ∈ (expandPredicate request nodeId search
      (edgesOf graph nodeId (request.maxFanoutPerNodePredicate + 1) predicate)).collectedAssertions := by
  unfold expandPredicate at whole ⊢
  simp only at whole ⊢
  split at whole
  · exact absurd ((takeEdges_extends nodeId _ _).whole whole) (truncate_ne_nil search _)
  next all =>
    rw [if_neg all]
    have few : (edgesOf graph nodeId (request.maxFanoutPerNodePredicate + 1) predicate).length ≤ request.maxFanoutPerNodePredicate := by
      rw [List.length_take] at all
      omega
    rw [List.take_of_length_le few] at whole ⊢
    exact takeEdges_complete (fun edge member => edgesOf_sound allowed member) whole row (edgesOf_complete few isEdge touches isPredicate)

theorem expandNode_complete
    (whole : (expandNode graph request search nodeId).truncatedBy = []) :
    Expanded graph request (expandNode graph request search nodeId) nodeId := by
  intro row isEdge touches
  let edges := edgesOf graph nodeId (request.maxFanoutPerNodePredicate + 1) row.predicate
  have notEmpty : edges ≠ [] := by
    intro empty
    have none : edgesOf graph nodeId (request.maxFanoutPerNodePredicate + 1) row.predicate = [] := empty
    have found := edgesOf_complete (by rw [none]; exact Nat.zero_le _) isEdge touches rfl
    rw [none] at found
    cases found
  have isGroup : edges ∈ groupByPredicate graph nodeId request.predicates.eraseDups (request.maxFanoutPerNodePredicate + 1) := by
    refine List.mem_filter.mpr ⟨List.mem_map_of_mem (List.mem_eraseDups.mpr isEdge.allowed), ?_⟩
    simpa using notEmpty
  obtain ⟨before, _, later⟩ := foldl_passes (fun search edges => @expandPredicate_extends request nodeId search edges) isGroup search
  exact later.collected (expandPredicate_complete isEdge.allowed (later.whole whole) isEdge touches rfl)

/-! ## Nothing is made up -/

/-- What a search has found after some hops. -/
structure Sound (graph : KeyedGraph) (request : NeighborhoodRequest) (hops : Nat) (search : NeighborhoodSearch) : Prop where
  distinctNodes : search.visitedNodes.Nodup
  root : request.rootNodeId ∈ search.visitedNodes
  fewNodes : search.visitedNodes.length ≤ max 1 request.maxNodes
  near : ∀ nodeId ∈ search.visitedNodes, ∃ count ≤ hops, Hops (Adjacent graph request) request.rootNodeId count nodeId
  distinctAssertions : search.collectedAssertions.Nodup
  fewAssertions : search.collectedAssertions.length ≤ request.maxAssertions
  joined : ∀ id ∈ search.collectedAssertions, ∃ row object, IsEdge graph request row ∧ row.id = id ∧
    row.objectNodeId = some object ∧ row.subjectNodeId ∈ search.visitedNodes ∧ object ∈ search.visitedNodes
  waiting : search.nextFrontier ⊆ search.visitedNodes

variable {hops : Nat} {search : NeighborhoodSearch}

section

variable (sound : Sound graph request hops search)

include sound

theorem Sound.truncate (reason : TruncationReason) :
    Sound graph request hops (search.truncate reason) := { sound with }

theorem Sound.visit {neighbour : String} {count : Nat}
    (reached : Hops (Adjacent graph request) request.rootNodeId count nodeId) (inTime : count < hops)
    (isEdge : IsEdge graph request row) (joins : Joins row nodeId neighbour)
    (space : search.visitedNodes.length < request.maxNodes) : Sound graph request hops (search.visit neighbour) where
  distinctNodes := nodup_addTo sound.distinctNodes neighbour
  root := subset_addTo _ _ sound.root
  fewNodes := by
    have longer := length_addTo_le search.visitedNodes neighbour
    simp only [NeighborhoodSearch.visit]
    omega
  near := by
    intro other isVisited
    cases mem_addTo.mp isVisited with
    | inl before => exact sound.near other before
    | inr same =>
      rw [same]
      exact ⟨count + 1, inTime, reached.hop ⟨row, isEdge, joins⟩⟩
  distinctAssertions := sound.distinctAssertions
  fewAssertions := sound.fewAssertions
  joined := by
    intro id isCollected
    obtain ⟨found, object, foundEdge, isId, isObject, subjectVisited, objectVisited⟩ := sound.joined id isCollected
    exact ⟨found, object, foundEdge, isId, isObject, subset_addTo _ _ subjectVisited, subset_addTo _ _ objectVisited⟩
  waiting := by
    intro other isWaiting
    cases List.mem_append.mp isWaiting with
    | inl before => exact subset_addTo _ _ (sound.waiting before)
    | inr same => exact mem_addTo.mpr (.inr (List.mem_singleton.mp same))

theorem Sound.collect {neighbour : String}
    (isEdge : IsEdge graph request row) (joins : Joins row nodeId neighbour) (isVisited : nodeId ∈ search.visitedNodes)
    (neighbourVisited : neighbour ∈ search.visitedNodes) (room : search.collectedAssertions.length < request.maxAssertions) :
    Sound graph request hops (search.collect row.id) where
  distinctNodes := sound.distinctNodes
  root := sound.root
  fewNodes := sound.fewNodes
  near := sound.near
  distinctAssertions := nodup_addTo sound.distinctAssertions row.id
  fewAssertions := by
    have longer := length_addTo_le search.collectedAssertions row.id
    simp only [NeighborhoodSearch.collect]
    omega
  joined := by
    intro id isCollected
    cases mem_addTo.mp isCollected with
    | inl before => exact sound.joined id before
    | inr same =>
      rw [same]
      cases joins with
      | inl forward => exact ⟨row, neighbour, isEdge, rfl, forward.2, by rwa [forward.1], neighbourVisited⟩
      | inr backward => exact ⟨row, nodeId, isEdge, rfl, backward.2, by rwa [backward.1], isVisited⟩
  waiting := sound.waiting

end

section

variable {nodeId : String} {count : Nat}
  (reached : Hops (Adjacent graph request) request.rootNodeId count nodeId) (inTime : count < hops)

include reached inTime

theorem takeEdges_sound {edges : List AssertionRow} (each : ∀ edge ∈ edges, IsEdge graph request edge ∧ Touches edge nodeId)
    (isVisited : nodeId ∈ search.visitedNodes) (sound : Sound graph request hops search) :
    Sound graph request hops (takeEdges request nodeId edges search) := by
  induction edges generalizing search with
  | nil => exact sound
  | cons edge rest ih =>
    obtain ⟨⟨isEdge, touches⟩, others⟩ := List.forall_mem_cons.mp each
    obtain ⟨neighbour, isNeighbour, joins⟩ := neighbourId_spec isEdge touches
    rw [takeEdges]
    simp only [isNeighbour]
    split
    · exact sound.truncate _
    next full =>
      have room := Nat.not_le.mp full
      split
      next known => exact ih others isVisited (sound.collect isEdge joins isVisited known room)
      next unknown =>
        split
        · exact ih others isVisited (sound.truncate _)
        next space =>
          have visited := sound.visit reached inTime isEdge joins (Nat.not_le.mp space)
          have stillVisited : nodeId ∈ (search.visit neighbour).visitedNodes := subset_addTo _ _ isVisited
          exact ih others stillVisited
            (visited.collect isEdge joins stillVisited (mem_addTo.mpr (.inr rfl)) room)

theorem expandNode_sound (isVisited : nodeId ∈ search.visitedNodes) (sound : Sound graph request hops search) :
    Sound graph request hops (expandNode graph request search nodeId) := by
  unfold expandNode
  have groups : ∀ edges ∈ groupByPredicate graph nodeId request.predicates.eraseDups (request.maxFanoutPerNodePredicate + 1),
      ∀ edge ∈ edges, IsEdge graph request edge ∧ Touches edge nodeId := by
    intro edges isGroup edge member
    obtain ⟨predicate, allowed, rfl⟩ := List.mem_map.mp (List.mem_of_mem_filter isGroup)
    exact edgesOf_sound (List.mem_eraseDups.mp allowed) member
  generalize groupByPredicate graph nodeId request.predicates.eraseDups (request.maxFanoutPerNodePredicate + 1) = all at groups
  induction all generalizing search with
  | nil => exact sound
  | cons edges rest ih =>
    obtain ⟨first, others⟩ := List.forall_mem_cons.mp groups
    apply ih ((expandPredicate_extends nodeId search edges).visited isVisited) _ others
    have taken : ∀ edge ∈ edges.take request.maxFanoutPerNodePredicate, IsEdge graph request edge ∧ Touches edge nodeId :=
      fun edge member => first edge (List.mem_of_mem_take member)
    unfold expandPredicate
    simp only
    split
    · exact takeEdges_sound reached inTime taken isVisited (sound.truncate _)
    · exact takeEdges_sound reached inTime taken isVisited sound

end

theorem expandAll_sound {frontier : List String} (each : ∀ nodeId ∈ frontier, nodeId ∈ search.visitedNodes ∧
      ∃ count < hops, Hops (Adjacent graph request) request.rootNodeId count nodeId) (sound : Sound graph request hops search) :
    Sound graph request hops (frontier.foldl (expandNode graph request) search) := by
  induction frontier generalizing search with
  | nil => exact sound
  | cons nodeId rest ih =>
    obtain ⟨⟨isVisited, count, inTime, reached⟩, others⟩ := List.forall_mem_cons.mp each
    apply ih _ (expandNode_sound reached inTime isVisited sound)
    intro other member
    obtain ⟨otherVisited, otherReached⟩ := others other member
    exact ⟨(expandNode_extends search nodeId).visited otherVisited, otherReached⟩

/-! ## The hops -/

/-- Between two hops: what was found is sound, the frontier was reached in time, and every other node is expanded unless
something was cut off. -/
structure AtHop (graph : KeyedGraph) (request : NeighborhoodRequest) (hops : Nat) (frontier : List String)
    (search : NeighborhoodSearch) : Prop where
  sound : Sound graph request hops search
  frontierVisited : frontier ⊆ search.visitedNodes
  expanded : search.truncatedBy = [] → ∀ nodeId ∈ search.visitedNodes, nodeId ∈ frontier ∨ Expanded graph request search nodeId

theorem AtHop.hop {frontier : List String} (atHop : AtHop graph request hops frontier search) :
    let expanded := frontier.foldl (expandNode graph request) { search with nextFrontier := [] }
    AtHop graph request (hops + 1) expanded.nextFrontier expanded := by
  intro expanded
  let started : NeighborhoodSearch := { search with nextFrontier := [] }
  have each := fun search nodeId => @expandNode_extends graph request search nodeId
  have whole : Extends started expanded := foldl_extends each frontier started
  have startSound : Sound graph request (hops + 1) started := by
    refine { atHop.sound with near := fun nodeId isVisited => ?_, waiting := List.nil_subset _ }
    obtain ⟨count, inTime, reached⟩ := atHop.sound.near nodeId isVisited
    exact ⟨count, Nat.le_succ_of_le inTime, reached⟩
  have sound : Sound graph request (hops + 1) expanded := by
    refine expandAll_sound (fun nodeId member => ⟨atHop.frontierVisited member, ?_⟩) startSound
    obtain ⟨count, inTime, reached⟩ := atHop.sound.near nodeId (atHop.frontierVisited member)
    exact ⟨count, Nat.lt_succ_of_le inTime, reached⟩
  refine ⟨sound, sound.waiting, fun notCut nodeId isVisited => ?_⟩
  cases whole.fresh nodeId isVisited with
  | inr isWaiting => exact .inl isWaiting
  | inl before =>
    right
    cases atHop.expanded (whole.whole notCut) nodeId before with
    | inl inFrontier =>
      obtain ⟨early, _, later⟩ := foldl_passes each inFrontier started
      exact (expandNode_complete (later.whole notCut)).extend later
    | inr already => exact fun row isEdge touches => whole.collected (already row isEdge touches)

theorem expandHops_atHop {remaining : Nat} {frontier : List String} (atHop : AtHop graph request hops frontier search) :
    ∃ last ≤ hops + remaining, AtHop graph request last (expandHops graph request remaining frontier search).1
      (expandHops graph request remaining frontier search).2 := by
  induction remaining generalizing hops frontier search with
  | zero => exact ⟨hops, le_rfl, atHop⟩
  | succ remaining ih =>
    rw [expandHops]
    split
    · exact ⟨hops, Nat.le_add_right _ _, atHop⟩
    · obtain ⟨last, inTime, ended⟩ := ih atHop.hop
      exact ⟨last, by omega, ended⟩

theorem expanded_of_no_remaining {scan : ScanOrder} {frontier collectedAssertions : List String}
    (none : hasRemainingEdges graph scan request frontier collectedAssertions = false) (member : nodeId ∈ frontier)
    (isEdge : IsEdge graph request row) (touches : Touches row nodeId) : row.id ∈ collectedAssertions := by
  obtain ⟨direction, refers⟩ : ∃ direction : EdgeDirection, row.reference direction.column = some nodeId := by
    cases touches with
    | inl isSubject => exact ⟨.subject, by simp [EdgeDirection.column, AssertionRow.reference, isSubject]⟩
    | inr isObject => exact ⟨.object, isObject⟩
  let ids := scan.order ((liveNodeEdges graph nodeId direction request.predicates.eraseDups).map AssertionRow.id)
  have distinct : ids.Nodup := by
    rw [(scan.perm _).nodup_iff]
    exact graph.distinctIds.sublist (List.filter_sublist.map _)
  have fetched : ids.take (collectedAssertions.length + 1) ⊆ collectedAssertions := by
    intro id isFetched
    have noneHere : ∀ fetchedId ∈ listLiveNodeEdgeIds graph scan nodeId .subject request.predicates.eraseDups
        (collectedAssertions.length + 1) ++ listLiveNodeEdgeIds graph scan nodeId .object request.predicates.eraseDups
        (collectedAssertions.length + 1), fetchedId ∈ collectedAssertions := by
      have all := List.any_eq_false.mp none nodeId member
      rw [Bool.not_eq_true, List.any_eq_false] at all
      intro fetchedId isIn
      simpa using all fetchedId isIn
    apply noneHere
    rw [List.mem_append]
    cases direction with
    | subject => exact .inl isFetched
    | object => exact .inr isFetched
  apply subset_of_take_subset distinct fetched
  rw [(scan.perm _).mem_iff]
  apply List.mem_map_of_mem
  rw [liveNodeEdges, List.mem_filter, isLiveNodeEdge_iff]
  exact ⟨isEdge.stored, refers, List.mem_eraseDups.mpr isEdge.allowed, isEdge.live, isEdge.between⟩

/-- Expanded nodes are all that is reachable, and their edges are all that there are. -/
theorem complete_of_expanded (sound : Sound graph request hops search)
    (expanded : ∀ nodeId ∈ search.visitedNodes, Expanded graph request search nodeId) :
    (∀ nodeId, nodeId ∈ search.visitedNodes ↔ ReflTransGen (Adjacent graph request) request.rootNodeId nodeId) ∧
      ∀ id, id ∈ search.collectedAssertions ↔ ∃ row object, IsEdge graph request row ∧ row.id = id ∧
        row.objectNodeId = some object ∧ ReflTransGen (Adjacent graph request) request.rootNodeId row.subjectNodeId ∧
        ReflTransGen (Adjacent graph request) request.rootNodeId object := by
  have nodes : ∀ nodeId, nodeId ∈ search.visitedNodes ↔ ReflTransGen (Adjacent graph request) request.rootNodeId nodeId := by
    intro nodeId
    constructor
    · intro isVisited
      obtain ⟨_, _, reached⟩ := sound.near nodeId isVisited
      exact reached.reachable
    · apply reachable_within sound.root
      rintro early late isVisited ⟨row, isEdge, joins⟩
      have touches : Touches row early := joins.imp And.left And.right
      -- the edge was collected with both of its ends
      obtain ⟨found, object, foundEdge, isId, isObject, subjectVisited, objectVisited⟩ :=
        sound.joined row.id (expanded early isVisited row isEdge touches)
      obtain rfl := eq_of_ids foundEdge.stored isEdge.stored isId
      cases joins with
      | inl forward =>
        rw [forward.2] at isObject
        cases isObject
        exact objectVisited
      | inr backward => rwa [← backward.1]
  refine ⟨nodes, fun id => ⟨fun isCollected => ?_, ?_⟩⟩
  · obtain ⟨row, object, isEdge, isId, isObject, subjectVisited, objectVisited⟩ := sound.joined id isCollected
    exact ⟨row, object, isEdge, isId, isObject, (nodes _).mp subjectVisited, (nodes _).mp objectVisited⟩
  · rintro ⟨row, object, isEdge, rfl, _, subjectReached, _⟩
    exact expanded _ ((nodes _).mpr subjectReached) row isEdge (.inl rfl)

end

/-! ## What a neighborhood is -/

/-- A neighborhood holds at most as many distinct nodes and assertions as its bounds say, nodes within the hops and live
assertions of allowed predicates between them; and one that reports no truncation holds every node that such assertions
reach from the root, and every such assertion between them. -/
theorem untruncated_neighborhood_is_complete (graph : KeyedGraph) (scan : ScanOrder) (request : NeighborhoodRequest)
    (neighborhood : Neighborhood) (isRead : readNeighborhood graph scan request = .ok neighborhood) :
    (neighborhood.nodeIds.Nodup ∧ neighborhood.nodeIds.length ≤ max 1 request.maxNodes ∧
      ∀ nodeId ∈ neighborhood.nodeIds, ∃ count ≤ request.maxHops,
        Hops (Adjacent graph request) request.rootNodeId count nodeId) ∧
    (neighborhood.assertionIds.Nodup ∧ neighborhood.assertionIds.length ≤ request.maxAssertions ∧
      ∀ id ∈ neighborhood.assertionIds, ∃ row object, IsEdge graph request row ∧ row.id = id ∧ row.objectNodeId = some object ∧
        row.subjectNodeId ∈ neighborhood.nodeIds ∧ object ∈ neighborhood.nodeIds) ∧
    (neighborhood.truncatedBy = [] →
      (∀ nodeId, nodeId ∈ neighborhood.nodeIds ↔ ReflTransGen (Adjacent graph request) request.rootNodeId nodeId) ∧
        ∀ id, id ∈ neighborhood.assertionIds ↔ ∃ row object, IsEdge graph request row ∧ row.id = id ∧
          row.objectNodeId = some object ∧ ReflTransGen (Adjacent graph request) request.rootNodeId row.subjectNodeId ∧
          ReflTransGen (Adjacent graph request) request.rootNodeId object) := by
  have started : AtHop graph request 0 [request.rootNodeId] ⟨[request.rootNodeId], [], [], []⟩ := by
    constructor
    · constructor
      · exact List.nodup_singleton _
      · exact List.mem_singleton_self _
      · exact Nat.le_max_left _ _
      · intro nodeId isRoot
        rw [List.mem_singleton.mp isRoot]
        exact ⟨0, le_rfl, .root⟩
      · exact List.nodup_nil
      · exact Nat.zero_le _
      · simp
      · exact List.nil_subset _
    · exact List.Subset.refl _
    · exact fun _ nodeId isRoot => .inl isRoot
  obtain ⟨last, inTime, ended⟩ := @expandHops_atHop graph request 0 _ request.maxHops _ started
  rw [readNeighborhood, bind_eq_ok] at isRead
  obtain ⟨_, _, isRead⟩ := isRead
  simp only [pure_eq_ok] at isRead
  generalize expandHops graph request request.maxHops [request.rootNodeId] ⟨[request.rootNodeId], [], [], []⟩ = result
    at ended isRead
  have near : ∀ nodeId ∈ result.2.visitedNodes, ∃ count ≤ request.maxHops,
      Hops (Adjacent graph request) request.rootNodeId count nodeId := by
    intro nodeId isVisited
    obtain ⟨count, early, reached⟩ := ended.sound.near nodeId isVisited
    exact ⟨count, by omega, reached⟩
  have found := ended.sound
  split at isRead
  next cut =>
    subst isRead
    refine ⟨⟨found.distinctNodes, found.fewNodes, near⟩, ⟨found.distinctAssertions, found.fewAssertions, found.joined⟩, fun whole => ?_⟩
    exact absurd whole (truncate_ne_nil result.2 .max_hops)
  next notCut =>
    subst isRead
    refine ⟨⟨found.distinctNodes, found.fewNodes, near⟩, ⟨found.distinctAssertions, found.fewAssertions, found.joined⟩, fun whole => ?_⟩
    apply complete_of_expanded found
    intro nodeId isVisited row isEdge touches
    cases ended.expanded whole nodeId isVisited with
    | inl inFrontier =>
      have none : hasRemainingEdges graph scan request result.1 result.2.collectedAssertions = false := by
        have present : result.1.isEmpty = false := by
          rw [List.isEmpty_eq_false_iff]
          exact List.ne_nil_of_mem inFrontier
        simpa [present] using notCut
      exact expanded_of_no_remaining none inFrontier isEdge touches
    | inr expanded => exact expanded row isEdge touches

/-! ### Two nodes -/

def pairNode (id : String) : NodeRow := ⟨id, .topic, none, utf16 id, none, .personal, .active, none, none⟩

def pairAssertion (id subjectNodeId : String) (object : AssertionObject) : AssertionRow where
  id := id
  assertionKey := ⟨subjectNodeId, .PART_OF, .node id, none⟩
  subjectNodeId := subjectNodeId
  predicate := .PART_OF
  object := object
  objectNormalizedText := none
  scopeNodeId := none
  status := .active
  basis := .explicit_user_statement
  confidence := 1
  sensitivity := .personal
  validFromUtc := none
  validToUtc := none
  firstObservedAtUtc := "2026-03-01T00:00:00.000Z"
  lastObservedAtUtc := "2026-03-01T00:00:00.000Z"
  supersedesAssertionId := none
  createdAtUtc := "2026-03-01T00:00:00.000Z"
  ftsRowid := none

/-- An edge, one back, one from a node to itself, and a literal. -/
def pairGraph : KeyedGraph where
  toGraphState :=
    { GraphState.empty with
      nodes := ⟨[pairNode "wheel", pairNode "bike"], []⟩
      assertions := ⟨[pairAssertion "ast_1" "wheel" (.node "bike"), pairAssertion "ast_2" "bike" (.node "wheel"),
        pairAssertion "ast_3" "bike" (.node "bike"), pairAssertion "ast_4" "bike" (.literal .string (.string (utf16 "red")))], []⟩ }
  distinctIds := by decide

def tableOrder : ScanOrder := ⟨id, fun _ => .refl _⟩

def pairRequest : NeighborhoodRequest := ⟨"wheel", [.PART_OF], 2, 5, 5, 3⟩

theorem pair_neighborhood_is_complete :
    ∃ neighborhood, readNeighborhood pairGraph tableOrder pairRequest = .ok neighborhood ∧
      ∀ nodeId, nodeId ∈ neighborhood.nodeIds ↔ ReflTransGen (Adjacent pairGraph pairRequest) "wheel" nodeId := by
  have whole : ((readNeighborhood pairGraph tableOrder pairRequest).toOption.any
      fun neighborhood => neighborhood.truncatedBy.isEmpty) = true := by
    decide +kernel
  cases isRead : readNeighborhood pairGraph tableOrder pairRequest with
  | error message => simp [isRead, Except.toOption] at whole
  | ok neighborhood =>
    have untruncated : neighborhood.truncatedBy = [] := by simpa [isRead, Except.toOption] using whole
    obtain ⟨_, _, complete⟩ := untruncated_neighborhood_is_complete pairGraph tableOrder pairRequest neighborhood isRead
    exact ⟨neighborhood, rfl, (complete untruncated).1⟩

end SiftKit.Graph
