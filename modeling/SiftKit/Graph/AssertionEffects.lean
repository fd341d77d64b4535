import SiftKit.Graph.AssertionService

/-! # What the assertion service does

What an assertion states is all of it but its evidence: when it was observed and how confident it is.
Every successful call is seen here as a change of the statements of the graph; the rest stays.
-/

namespace SiftKit.Graph

open SiftKit.Failure SiftKit.Json SiftKit.Tables SiftKit.Tables.IndexedTable

/-! ## Statements -/

structure Statement where
  id : String
  assertionKey : AssertionKey
  subjectNodeId : String
  predicate : RelationType
  object : AssertionObject
  scopeNodeId : Option String
  status : AssertionStatus
  basis : AssertionBasis
  validFromUtc : Option String
  validToUtc : Option String

def AssertionRow.statement (row : AssertionRow) : Statement :=
  ⟨row.id, row.assertionKey, row.subjectNodeId, row.predicate, row.object, row.scopeNodeId, row.status, row.basis,
    row.validFromUtc, row.validToUtc⟩

def Statement.isLive (statement : Statement) : Bool := statement.status.isLive

def GraphState.statements (state : GraphState) : List Statement := state.assertions.rows.map AssertionRow.statement

/-- The keys that must not occur twice. -/
def heldKeys (statements : List Statement) : List AssertionKey :=
  (statements.filter Statement.isLive).map Statement.assertionKey

def restate (id : String) (rewrite : Statement → Statement) (statements : List Statement) : List Statement :=
  updateWhere (fun statement => decide (statement.id = id)) rewrite statements

def newStatement (request : ValidatedAssertRequest) (id : String) (assertionKey : AssertionKey) : Statement :=
  ⟨id, assertionKey, request.subjectNodeId, request.predicate, request.object, request.scopeNodeId, .active,
    request.basis, request.validFromUtc, request.validToUtc⟩

theorem liveKeys_eq (rows : List AssertionRow) : liveKeys rows = heldKeys (rows.map AssertionRow.statement) := by
  rw [heldKeys, List.filter_map, List.map_map]
  rfl

variable {statement : Statement} {id : String} {rewrite : Statement → Statement} {statements : List Statement}
  {state : GraphState}

theorem mem_statements :
    statement ∈ state.statements ↔ ∃ row ∈ state.assertions.rows, row.statement = statement := List.mem_map

theorem mem_restate :
    statement ∈ restate id rewrite statements ↔
      ∃ before ∈ statements, statement = if before.id = id then rewrite before else before := by
  simp [restate, mem_updateWhere]

theorem ids_restate (id : String) (statements : List Statement)
    (keepsId : ∀ statement, (rewrite statement).id = statement.id) :
    (restate id rewrite statements).map Statement.id = statements.map Statement.id :=
  map_updateWhere fun statement _ _ => keepsId statement

theorem nodup_restate (nodup : (statements.map Statement.id).Nodup)
    (keepsId : ∀ statement, (rewrite statement).id = statement.id) :
    ((restate id rewrite statements).map Statement.id).Nodup := by
  rw [ids_restate id statements keepsId]
  exact nodup

theorem fresh_restate {newId : String} (fresh : ∀ statement ∈ statements, statement.id ≠ newId)
    (keepsId : ∀ statement, (rewrite statement).id = statement.id) :
    ∀ statement ∈ restate id rewrite statements, statement.id ≠ newId := by
  intro statement member
  obtain ⟨before, beforeMember, rfl⟩ := mem_restate.mp member
  split
  · rw [keepsId]
    exact fresh before beforeMember
  · exact fresh before beforeMember

theorem restate_append (id : String) (rewrite : Statement → Statement) (statements : List Statement) (statement : Statement) :
    restate id rewrite (statements ++ [statement]) =
      restate id rewrite statements ++ [if statement.id = id then rewrite statement else statement] := by
  simp [restate, updateWhere]

theorem restate_of_fresh (fresh : ∀ statement ∈ statements, statement.id ≠ id) :
    restate id rewrite statements = statements := by
  have unchanged : statements.map (fun statement => if decide (statement.id = id) then rewrite statement else statement) =
      statements.map fun statement => statement := by
    apply List.map_congr_left
    intro statement member
    simp [fresh statement member]
  rw [restate, updateWhere, unchanged, List.map_id']

@[simp] theorem restate_same (id : String) (statements : List Statement) :
    restate id (fun statement => statement) statements = statements := by simp [restate, updateWhere]

theorem heldKeys_append (live : statement.isLive = true) (statements : List Statement) :
    heldKeys (statements ++ [statement]) = heldKeys statements ++ [statement.assertionKey] := by
  simp [heldKeys, live]

theorem heldKeys_restate (statements : List Statement)
    (keepsKey : ∀ statement, (rewrite statement).assertionKey = statement.assertionKey)
    (keepsStatus : ∀ statement, (rewrite statement).status = statement.status) :
    heldKeys (restate id rewrite statements) = heldKeys statements := by
  rw [heldKeys, restate, filter_updateWhere]
  · exact map_updateWhere fun statement _ _ => keepsKey statement
  · intro statement _ _
    rw [Statement.isLive, keepsStatus, Statement.isLive]

variable {status : AssertionStatus}

theorem heldKeys_retired (notLive : status.isLive = false) (statements : List Statement) :
    (heldKeys (restate id (fun statement => { statement with status }) statements)).Sublist (heldKeys statements) := by
  induction statements with
  | nil => exact List.Sublist.refl _
  | cons statement rest ih =>
    simp only [heldKeys, restate, updateWhere, List.map_cons, List.filter_cons] at ih ⊢
    by_cases isId : statement.id = id <;> cases live : statement.isLive
    · simpa [isId, Statement.isLive, notLive] using ih
    · simpa [isId, Statement.isLive, notLive] using ih.trans (List.sublist_cons_self _ _)
    · simpa [isId, live] using ih
    · simpa [isId, live] using ih

/-! ## Evidence -/

/-- What a write under a new id needs: the id is not taken, the evidence is known and weighed, and makes a confidence. -/
structure CanWrite (surroundings : Surroundings) (statements : List Statement) (request : ValidatedAssertRequest)
    (userCorrected : Bool) (newId : String) : Prop where
  fresh : ∀ statement ∈ statements, statement.id ≠ newId
  evidence : ∀ link ∈ request.evidence, (0 ≤ link.weight ∧ link.weight ≤ 1) ∧
    surroundings.knowsEvidence link.evidenceId = true
  confidence : ∃ confidence, surroundings.resolveConfidence
    ⟨newId, request.basis, request.predicate, request.observedAtUtc, userCorrected⟩ = .ok confidence

variable {surroundings : Surroundings}

theorem linkEvidence_eq_ok {link : EvidenceLinkInput} {passed : Unit} :
    linkEvidence surroundings link = .ok passed ↔
      (0 ≤ link.weight ∧ link.weight ≤ 1) ∧ surroundings.knowsEvidence link.evidenceId = true := by
  simp only [linkEvidence, bind_eq_ok, throwWhen_eq_ok, decide_eq_false_iff_not, not_or, not_lt, Bool.not_eq_false',
    exists_const]

theorem linkAll_eq_ok {links : List EvidenceLinkInput} {passed : Unit} :
    linkAll surroundings links = .ok passed ↔ ∀ link ∈ links, (0 ≤ link.weight ∧ link.weight ≤ 1) ∧
      surroundings.knowsEvidence link.evidenceId = true := by
  induction links with
  | nil => simp [linkAll, pure_eq_ok]
  | cons link rest ih =>
    have oneMore : linkAll surroundings (link :: rest) = linkEvidence surroundings link >>= fun _ => linkAll surroundings rest :=
      rfl
    simp only [oneMore, bind_eq_ok, linkEvidence_eq_ok, ih, List.forall_mem_cons, exists_const]

/-! ## Changes -/

/-- After a write only the assertions differ: they state this, and no live key is held twice. -/
structure Becomes (state : GraphState) (statements : List Statement) (after : GraphState) : Prop where
  stated : after.statements = statements
  rest : after = { state with assertions := after.assertions }
  unique : (heldKeys statements).Nodup

theorem Becomes.trans {middle after : GraphState} {between : List Statement}
    (first : Becomes state between middle) (second : Becomes middle statements after) :
    Becomes state statements after := by
  refine ⟨second.stated, ?_, second.unique⟩
  rw [second.rest, first.rest]

theorem Becomes.nodes {after : GraphState} (becomes : Becomes state statements after) :
    after.nodes = state.nodes := by rw [becomes.rest]

namespace GraphState

variable {platform : TextPlatform} {surroundings : Surroundings} {state after : GraphState}
  {newId assertionId : String} {request : ValidatedAssertRequest} {rival existing : AssertionRow}
  {outcome : AssertionWriteOutcome}

/-! ### Writes of the store -/

variable {rewrite : AssertionRow → AssertionRow} {supersedesAssertionId : Option String} {userCorrected : Bool}
  {restated : Statement → Statement}

theorem statements_update
    (same : ∀ row, (rewrite row).statement = restated row.statement) :
    (state.assertions.update assertionId rewrite).rows.map AssertionRow.statement =
      restate assertionId restated state.statements := by
  apply map_updateWhere_eq
  intro row _
  show (if decide (row.id = assertionId) = true then rewrite row else row).statement =
    if decide (row.id = assertionId) = true then restated row.statement else row.statement
  split
  · exact same row
  · rfl

theorem statements_refreshAssertion (searchText : AssertionSearchText) :
    (state.refreshAssertion assertionId searchText).statements = state.statements :=
  map_rows_refresh _ _ _ _ fun _ _ => rfl

theorem updateAssertion_becomes
    (updated : state.updateAssertion assertionId rewrite = .ok after)
    (same : ∀ row, (rewrite row).statement = restated row.statement) :
    Becomes state (restate assertionId restated state.statements) after := by
  obtain ⟨_, unique, rfl⟩ := updateAssertion_eq_ok.mp updated
  rw [liveKeys_eq, statements_update same] at unique
  exact ⟨statements_update same, rfl, unique⟩

/-- A write to columns that state nothing. -/
theorem updateAssertion_silent (updated : state.updateAssertion assertionId rewrite = .ok after)
    (same : ∀ row, (rewrite row).statement = row.statement) : Becomes state state.statements after := by
  have becomes : Becomes state (restate assertionId (fun statement => statement) state.statements) after :=
    updateAssertion_becomes updated same
  rw [restate_same] at becomes
  exact becomes

theorem setStatus_becomes (updated : state.setStatus assertionId status = .ok after) :
    Becomes state (restate assertionId (fun statement => { statement with status }) state.statements) after :=
  updateAssertion_becomes updated fun _ => rfl

theorem closeValidity_becomes {validToUtc : String} (updated : state.closeValidity assertionId validToUtc = .ok after) :
    Becomes state (restate assertionId (fun statement => { statement with validToUtc := some validToUtc }) state.statements)
      after :=
  updateAssertion_becomes updated fun _ => rfl

theorem retireAssertion_becomes
    (retired : state.retireAssertion assertionId status = .ok after) :
    Becomes state (restate assertionId (fun statement => { statement with status }) state.statements) after := by
  obtain ⟨existing, _, updated, isUpdated, rfl⟩ := retireAssertion_eq_ok.mp retired
  have becomes := setStatus_becomes isUpdated
  refine ⟨?_, ?_, becomes.unique⟩
  · rw [← becomes.stated]
    exact map_rows_drop _ _ _ fun _ _ => rfl
  · rw [becomes.rest]

section

variable {nowUtc : String}
  (created : state.createAssertion platform (toCreate request supersedesAssertionId) newId nowUtc = .ok after)

include created

theorem createAssertion_becomes :
    ∃ key, buildAssertionKey platform request.subjectNodeId request.predicate request.object request.scopeNodeId = .ok key ∧
      (∀ statement ∈ state.statements, statement.id ≠ newId) ∧
      Becomes state (state.statements ++ [newStatement request newId key]) after := by
  obtain ⟨key, text, isKey, fresh, unique, _, rfl⟩ := createAssertion_ok created
  refine ⟨key, isKey, ?_, ?_, rfl, ?_⟩
  · intro statement member
    obtain ⟨row, rowMember, rfl⟩ := mem_statements.mp member
    exact fresh row rowMember
  · rw [statements_refreshAssertion]
    exact List.map_append
  · rw [liveKeys_eq, List.map_append] at unique
    exact unique

theorem getAssertion_created :
    ∃ row, after.getAssertion newId = some row ∧ row.basis = request.basis ∧ row.predicate = request.predicate ∧
      row.lastObservedAtUtc = request.observedAtUtc := by
  obtain ⟨key, text, _, fresh, _, _, rfl⟩ := createAssertion_ok created
  let column (row : AssertionRow) := (row.id, row.basis, row.predicate, row.lastObservedAtUtc)
  let new := newAssertion (toCreate request supersedesAssertionId) newId nowUtc key text
  have sameColumns := map_rows_refresh (⟨state.assertions.rows ++ [new], state.assertions.index⟩ :
    IndexedTable AssertionRow AssertionSearchText) newId isIndexableAssertion (fun _ => request.searchText)
    (show ∀ number row, column (Indexed.track number row) = column row from fun _ _ => rfl)
  have newMember : column new ∈ (state.assertions.rows ++ [new]).map column :=
    List.mem_map_of_mem (List.mem_append_right _ List.mem_cons_self)
  rw [← sameColumns] at newMember
  obtain ⟨known, knownMember, isNew⟩ := List.mem_map.mp newMember
  have found : ∃ row, ((⟨state.assertions.rows ++ [new], state.assertions.index⟩ :
      IndexedTable AssertionRow AssertionSearchText).refresh newId isIndexableAssertion fun _ => request.searchText).get?
        newId = some row := by
    rw [← Option.isSome_iff_exists, IndexedTable.get?, List.find?_isSome]
    exact ⟨known, knownMember, decide_eq_true (congrArg Prod.fst isNew)⟩
  obtain ⟨row, isRow⟩ := found
  obtain ⟨member, isId⟩ := id_of_get? isRow
  have rowColumn : column row ∈ (state.assertions.rows ++ [new]).map column := by
    rw [← sameColumns]
    exact List.mem_map_of_mem member
  refine ⟨row, isRow, ?_⟩
  obtain ⟨source, sourceMember, same⟩ := List.mem_map.mp rowColumn
  simp only [column, Prod.mk.injEq] at same
  rcases List.mem_append.mp sourceMember with old | isSource
  · exact absurd (same.1.trans isId) (fresh source old)
  · rw [List.mem_singleton.mp isSource] at same
    exact ⟨same.2.1.symm, same.2.2.1.symm, same.2.2.2.symm⟩

end

/-! ### Writes of the service -/

theorem applyConfidence_becomes (applied : state.applyConfidence surroundings assertionId userCorrected = .ok after) :
    Becomes state state.statements after := by
  simp only [applyConfidence, bind_eq_ok] at applied
  obtain ⟨_, _, _, _, updated⟩ := applied
  exact updateAssertion_silent updated fun _ => rfl

theorem writeAssertion_becomes
    (written : state.writeAssertion platform surroundings request supersedesAssertionId userCorrected newId = .ok after) :
    ∃ key, buildAssertionKey platform request.subjectNodeId request.predicate request.object request.scopeNodeId = .ok key ∧
      CanWrite surroundings state.statements request userCorrected newId ∧
      Becomes state (state.statements ++ [newStatement request newId key]) after := by
  simp only [writeAssertion, bind_eq_ok] at written
  obtain ⟨created, isCreated, _, linked, applied⟩ := written
  obtain ⟨key, isKey, fresh, becomes⟩ := createAssertion_becomes isCreated
  have confident := applyConfidence_becomes applied
  rw [becomes.stated] at confident
  refine ⟨key, isKey, ⟨fresh, linkAll_eq_ok.mp linked, ?_⟩, becomes.trans confident⟩
  obtain ⟨row, found, basis, predicate, observed⟩ := getAssertion_created isCreated
  simp only [applyConfidence, bind_eq_ok, requireAssertion_eq_ok] at applied
  obtain ⟨assertion, isAssertion, confidence, resolved, _⟩ := applied
  obtain rfl := Option.some.inj (found.symm.trans isAssertion)
  rw [basis, predicate, observed] at resolved
  exact ⟨confidence, resolved⟩

theorem reinforce_becomes (reinforced : state.reinforce surroundings existing request = .ok (outcome, after)) :
    Becomes state state.statements after := by
  simp only [reinforce, bind_eq_ok, pure_eq_ok, Prod.mk.injEq] at reinforced
  obtain ⟨observed, isObserved, _, _, confident, applied, _, rfl⟩ := reinforced
  have first : Becomes state state.statements observed := updateAssertion_silent isObserved fun _ => rfl
  have second := applyConfidence_becomes applied
  rw [first.stated] at second
  exact first.trans second

theorem recordContradiction_becomes
    (recorded : state.recordContradiction surroundings existing request = .ok (outcome, after)) :
    Becomes state state.statements after := by
  simp only [recordContradiction, bind_eq_ok, pure_eq_ok, Prod.mk.injEq] at recorded
  obtain ⟨_, _, confident, applied, _, rfl⟩ := recorded
  exact applyConfidence_becomes applied

theorem canWrite_of_restate {statements : List Statement} {rewrite : Statement → Statement}
    (canWrite : CanWrite surroundings (restate assertionId rewrite statements) request userCorrected newId)
    (keepsId : ∀ statement, (rewrite statement).id = statement.id) :
    CanWrite surroundings statements request userCorrected newId := by
  refine ⟨?_, canWrite.evidence, canWrite.confidence⟩
  have sameIds := ids_restate assertionId statements keepsId
  intro statement member isNew
  have isId : newId ∈ (restate assertionId rewrite statements).map Statement.id := by
    rw [sameIds]
    exact List.mem_map.mpr ⟨statement, member, isNew⟩
  obtain ⟨restated, restatedMember, same⟩ := List.mem_map.mp isId
  exact canWrite.fresh restated restatedMember same

theorem supersede_becomes
    (superseded : state.supersede platform surroundings rival request newId = .ok (outcome, after)) :
    ∃ key, buildAssertionKey platform request.subjectNodeId request.predicate request.object request.scopeNodeId = .ok key ∧
      CanWrite surroundings state.statements request false newId ∧
      Becomes state (restate rival.id (fun statement => { statement with status := .superseded })
        (state.statements ++ [newStatement request newId key])) after := by
  simp only [supersede, bind_eq_ok, pure_eq_ok, Prod.mk.injEq] at superseded
  obtain ⟨created, written, retired, isRetired, _, rfl⟩ := superseded
  obtain ⟨key, isKey, canWrite, first⟩ := writeAssertion_becomes written
  have second := retireAssertion_becomes isRetired
  rw [first.stated] at second
  exact ⟨key, isKey, canWrite, first.trans second⟩

theorem dispute_becomes (disputed : state.dispute platform surroundings rival request newId = .ok (outcome, after)) :
    ∃ key, buildAssertionKey platform request.subjectNodeId request.predicate request.object request.scopeNodeId = .ok key ∧
      CanWrite surroundings state.statements request false newId ∧
      Becomes state (restate newId (fun statement => { statement with status := .disputed })
        (restate rival.id (fun statement => { statement with status := .disputed }) state.statements ++
          [newStatement request newId key])) after := by
  simp only [dispute, bind_eq_ok, pure_eq_ok, Prod.mk.injEq] at disputed
  obtain ⟨marked, isMarked, created, written, both, isBoth, _, rfl⟩ := disputed
  have first := setStatus_becomes isMarked
  obtain ⟨key, isKey, canWrite, second⟩ := writeAssertion_becomes written
  have third := setStatus_becomes isBoth
  rw [second.stated] at third
  rw [first.stated] at canWrite second third
  exact ⟨key, isKey, canWrite_of_restate canWrite fun _ => rfl, (first.trans second).trans third⟩

theorem closeTemporally_becomes {validFrom : String} (starts : request.validFromUtc = some validFrom)
    (closed : state.closeTemporally platform surroundings rival request newId = .ok (outcome, after)) :
    ∃ key, buildAssertionKey platform request.subjectNodeId request.predicate request.object request.scopeNodeId = .ok key ∧
      CanWrite surroundings state.statements request false newId ∧
      Becomes state (restate rival.id (fun statement => { statement with validToUtc := some validFrom }) state.statements ++
        [newStatement request newId key]) after := by
  rw [closeTemporally, starts] at closed
  simp only [createNew, bind_eq_ok, pure_eq_ok, Prod.mk.injEq] at closed
  obtain ⟨ended, isEnded, created, ⟨made, written, isCreated⟩, _, rfl⟩ := closed
  have first := closeValidity_becomes isEnded
  obtain ⟨key, isKey, canWrite, second⟩ := writeAssertion_becomes written
  rw [first.stated] at canWrite second
  rw [← isCreated]
  exact ⟨key, isKey, canWrite_of_restate canWrite fun _ => rfl, first.trans second⟩

end GraphState

/-! ## What becomes of a proposal -/

/-- Explicit memory outranks a proposal that is not. -/
def outranks (rival : AssertionRow) (request : ValidatedAssertRequest) : Bool :=
  isExplicitBasis rival.basis && !isExplicitBasis request.basis

/-- A proposal that says since when it holds ends what held before. -/
def closesRival (request : ValidatedAssertRequest) : Bool :=
  decide (request.predicate.definition.temporal ≠ .none) && request.validFromUtc.isSome

/-- Two explicit statements of a relation that marks them as disputed. -/
def disputesRival (rival : AssertionRow) (request : ValidatedAssertRequest) : Bool :=
  decide (request.predicate.definition.conflictStrategy = .mark_disputed) && isExplicitBasis rival.basis &&
    isExplicitBasis request.basis

/-- A live assertion of the subject, predicate and scope of a proposal. -/
structure IsCandidate (state : GraphState) (request : ValidatedAssertRequest) (row : AssertionRow) : Prop where
  member : row ∈ state.assertions.rows
  isLive : row.isLive = true
  subject : row.subjectNodeId = request.subjectNodeId
  predicate : row.predicate = request.predicate
  scope : row.scopeNodeId = request.scopeNodeId

section

variable {state : GraphState} {request : ValidatedAssertRequest}

theorem mem_candidates {row : AssertionRow} :
    row ∈ ((state.listByColumn .subject_node_id request.subjectNodeId [.active, .disputed]).filter
      fun row => decide (row.predicate = request.predicate)).filter
      (fun row => decide (row.scopeNodeId = request.scopeNodeId)) ↔ IsCandidate state request row := by
  have isLive : row.status ∈ [AssertionStatus.active, .disputed] ↔ row.isLive = true := by
    rw [AssertionRow.isLive]
    cases row.status <;> decide
  simp only [List.mem_filter, GraphState.mem_listByColumn, AssertionRow.reference, Option.some.injEq, decide_eq_true_eq]
  rw [isLive]
  constructor
  · rintro ⟨⟨⟨member, subject, live⟩, predicate⟩, scope⟩
    exact ⟨member, live, subject, predicate, scope⟩
  · rintro ⟨member, live, subject, predicate, scope⟩
    exact ⟨⟨⟨member, subject, live⟩, predicate⟩, scope⟩

variable {cardinality : RelationCardinality}

theorem findExclusiveRival_eq_none (exclusive : cardinality.isExclusive = true) :
    state.findExclusiveRival request cardinality = none ↔ ∀ row, ¬ IsCandidate state request row := by
  rw [GraphState.findExclusiveRival, if_pos exclusive, List.head?_eq_none_iff, List.eq_nil_iff_forall_not_mem]
  simp only [mem_candidates]

theorem findExclusiveRival_eq_some
    {rival : AssertionRow} (isRival : state.findExclusiveRival request cardinality = some rival) :
    cardinality.isExclusive = true ∧ IsCandidate state request rival := by
  unfold GraphState.findExclusiveRival at isRival
  split at isRival
  next exclusive => exact ⟨exclusive, mem_candidates.mp (List.mem_of_head? isRival)⟩
  next => cases isRival

end

section

variable (platform : TextPlatform) (surroundings : Surroundings) (state : GraphState) (request : ValidatedAssertRequest)
  (newId : String)

/-- The proposal has a key that no live assertion holds. -/
structure ProposesNew (key : AssertionKey) : Prop where
  isKey : buildAssertionKey platform request.subjectNodeId request.predicate request.object request.scopeNodeId = .ok key
  unheld : state.findLiveByKey key = none

/-- The proposal may replace a rival: it is new, and the rival is neither locked nor outranks it. -/
structure MayReplace (key : AssertionKey) (rival : AssertionRow) : Prop extends ProposesNew platform state request key where
  isRival : state.findExclusiveRival request request.predicate.definition.cardinality = some rival
  unlocked : surroundings.isAssertionLocked rival.id = false
  notOutranked : outranks rival request = false

/-- The statements that a proposal may lead to, where they are not as they were. -/
inductive Settles : List Statement → Prop
  | created {key : AssertionKey} (proposes : ProposesNew platform state request key)
      (noRival : state.findExclusiveRival request request.predicate.definition.cardinality = none) :
      Settles (state.statements ++ [newStatement request newId key])
  | closed {key : AssertionKey} {rival : AssertionRow} {validFrom : String}
      (replaces : MayReplace platform surroundings state request key rival) (closes : closesRival request = true)
      (starts : request.validFromUtc = some validFrom) :
      Settles (restate rival.id (fun statement => { statement with validToUtc := some validFrom }) state.statements ++
        [newStatement request newId key])
  | disputed {key : AssertionKey} {rival : AssertionRow}
      (replaces : MayReplace platform surroundings state request key rival) (keepsWindow : closesRival request = false)
      (disputes : disputesRival rival request = true) :
      Settles (restate newId (fun statement => { statement with status := .disputed })
        (restate rival.id (fun statement => { statement with status := .disputed }) state.statements ++
          [newStatement request newId key]))
  | superseded {key : AssertionKey} {rival : AssertionRow}
      (replaces : MayReplace platform surroundings state request key rival) (keepsWindow : closesRival request = false)
      (agrees : disputesRival rival request = false) :
      Settles (restate rival.id (fun statement => { statement with status := .superseded })
        (state.statements ++ [newStatement request newId key]))

end

variable {request : ValidatedAssertRequest}

theorem Settles.ids {platform : TextPlatform} {newId : String}
    (settles : Settles platform surroundings state request newId statements) :
    statements.map Statement.id = state.statements.map Statement.id ++ [newId] := by
  cases settles with
  | created => exact List.map_append
  | closed =>
    rw [List.map_append, ids_restate _ _ fun _ => by rfl]
    rfl
  | disputed =>
    rw [ids_restate _ _ fun _ => by rfl, List.map_append, ids_restate _ _ fun _ => by rfl]
    rfl
  | superseded =>
    rw [ids_restate _ _ fun _ => by rfl]
    exact List.map_append

namespace GraphState

variable {platform : TextPlatform} {surroundings : Surroundings} {state after : GraphState} {newId : String}
  {outcome : AssertionWriteOutcome}

/-- A proposal that the validator let pass leaves the graph, restates what it stated, or settles with a new assertion. -/
theorem settle_cases
    (settled : state.settle platform surroundings request newId = .ok (outcome, after)) :
    after = state ∨ Becomes state state.statements after ∨
      ∃ statements, CanWrite surroundings state.statements request false newId ∧
        Settles platform surroundings state request newId statements ∧ Becomes state statements after := by
  simp only [settle, bind_eq_ok] at settled
  obtain ⟨key, isKey, settled⟩ := settled
  split at settled
  next sameKey _ => exact Or.inr (Or.inl (reinforce_becomes settled))
  next unheld =>
    have proposes : ProposesNew platform state request key := ⟨isKey, unheld⟩
    split at settled
    next noRival =>
      simp only [createNew, bind_eq_ok, pure_eq_ok, Prod.mk.injEq] at settled
      obtain ⟨created, written, _, rfl⟩ := settled
      obtain ⟨_, isSame, canWrite, becomes⟩ := writeAssertion_becomes written
      obtain rfl := Except.ok.inj (isKey.symm.trans isSame)
      exact Or.inr (Or.inr ⟨_, canWrite, .created proposes noRival, becomes⟩)
    next rival isRival =>
      split at settled
      next =>
        simp only [pure_eq_ok, Prod.mk.injEq] at settled
        exact Or.inl settled.2.symm
      next unlocked =>
        split at settled
        next => exact Or.inr (Or.inl (recordContradiction_becomes settled))
        next notOutranked =>
          have replaces : MayReplace platform surroundings state request key rival :=
            ⟨proposes, isRival, by simpa using unlocked, by simpa [outranks] using notOutranked⟩
          split at settled
          next closes =>
            have isSome : request.validFromUtc.isSome = true := (Bool.and_eq_true_iff.mp closes).2
            obtain ⟨validFrom, starts⟩ := Option.isSome_iff_exists.mp isSome
            obtain ⟨_, isSame, canWrite, becomes⟩ := closeTemporally_becomes starts settled
            obtain rfl := Except.ok.inj (isKey.symm.trans isSame)
            exact Or.inr (Or.inr ⟨_, canWrite, .closed replaces closes starts, becomes⟩)
          next keepsWindow =>
            split at settled
            next disputes =>
              obtain ⟨_, isSame, canWrite, becomes⟩ := dispute_becomes settled
              obtain rfl := Except.ok.inj (isKey.symm.trans isSame)
              exact Or.inr (Or.inr ⟨_, canWrite, .disputed replaces (Bool.eq_false_iff.mpr keepsWindow) disputes, becomes⟩)
            next agrees =>
              obtain ⟨_, isSame, canWrite, becomes⟩ := supersede_becomes settled
              obtain rfl := Except.ok.inj (isKey.symm.trans isSame)
              exact Or.inr (Or.inr ⟨_, canWrite, .superseded replaces (Bool.eq_false_iff.mpr keepsWindow)
                (Bool.eq_false_iff.mpr agrees), becomes⟩)

/-- An `assert` that changes the graph was accepted by the validator. -/
theorem assert_cases {request : AssertRequest} (asserted : state.assert platform surroundings request newId = .ok (outcome, after)) :
    after = state ∨ ∃ relation,
      validate platform state surroundings.isTopicBlockedFromInference request.toValidation = .ok relation ∧
      state.settle platform surroundings (request.narrowed relation) newId = .ok (outcome, after) := by
  unfold assert at asserted
  split at asserted
  next =>
    cases asserted
    exact Or.inl rfl
  next relation accepted => exact Or.inr ⟨relation, accepted, asserted⟩

end GraphState

end SiftKit.Graph
