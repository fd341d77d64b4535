import SiftKit.Graph.ExclusiveValues

/-! # Explicit memory and passive evidence

A proposal of passive evidence meets one rival, the most recently observed live value of its slot.  If
that is explicit, memory stays as it is; if it is not, the proposal replaces it, whatever explicit
values stand beside it.
-/

namespace SiftKit.Graph

open SiftKit.Failure SiftKit.Json SiftKit.Runs SiftKit.Tables SiftKit.Tables.IndexedTable SiftKit.Windows

/-! ## When the write of a new value succeeds -/

namespace GraphState

variable {platform : TextPlatform} {surroundings : Surroundings} {state after : GraphState} {newId : String}
  {request : ValidatedAssertRequest} {relation : RelationType} {key : AssertionKey}

theorem getAssertion_isSome {statement : Statement} (member : statement ∈ state.statements) :
    ∃ row, state.getAssertion statement.id = some row := by
  obtain ⟨row, rowMember, rfl⟩ := mem_statements.mp member
  rw [← Option.isSome_iff_exists, getAssertion, IndexedTable.get?, List.find?_isSome]
  exact ⟨row, rowMember, decide_eq_true rfl⟩

theorem not_mem_heldKeys (unheld : state.findLiveByKey key = none) : key ∉ heldKeys state.statements := by
  intro held
  obtain ⟨statement, isLive, rfl⟩ := List.mem_map.mp held
  obtain ⟨member, live⟩ := List.mem_filter.mp isLive
  obtain ⟨row, rowMember, rfl⟩ := mem_statements.mp member
  have missing := List.find?_eq_none.mp unheld row rowMember
  have isRowLive : row.isLive = true := live
  simp [isRowLive, AssertionRow.statement] at missing

theorem updateAssertion_succeeds {assertionId : String} {rewrite : AssertionRow → AssertionRow}
    {restated : Statement → Statement} {statement : Statement} (member : statement ∈ state.statements)
    (isId : statement.id = assertionId) (unique : (heldKeys (restate assertionId restated state.statements)).Nodup)
    (same : ∀ row, (rewrite row).statement = restated row.statement) :
    ∃ after, state.updateAssertion assertionId rewrite = .ok after := by
  subst isId
  refine ⟨_, updateAssertion_eq_ok.mpr ⟨getAssertion_isSome member, ?_, rfl⟩⟩
  rw [liveKeys_eq, statements_update same]
  exact unique

variable {supersedesAssertionId : Option String}

theorem referencesExist_of_accepts {nowUtc : String} {text : Option JsString}
    (nodes : AcceptsNodes platform state request.subjectNodeId relation request.object request.scopeNodeId)
    (supersedes : ∀ assertionId, supersedesAssertionId = some assertionId → ∃ row, state.getAssertion assertionId = some row) :
    state.referencesExist (newAssertion (toCreate request supersedesAssertionId) newId nowUtc key text) = true := by
  obtain ⟨subject, isSubject, _⟩ := nodes.subject
  simp only [referencesExist, newAssertion, toCreate, List.all_cons, List.all_nil, Bool.and_true, Bool.and_eq_true,
    Option.all_some, isSubject, Option.isSome_some, true_and]
  refine ⟨⟨?_, ?_⟩, ?_⟩
  · have accepted := nodes.object
    cases isObject : request.object with
    | node nodeId =>
      rw [isObject] at accepted
      obtain ⟨object, found, _⟩ := accepted
      simp [AssertionRow.objectNodeId, found]
    | literal valueType value => simp [AssertionRow.objectNodeId]
  · cases isScope : request.scopeNodeId with
    | none => rfl
    | some nodeId =>
      obtain ⟨scope, found, _⟩ := nodes.scope nodeId isScope
      simp [found]
  · cases supersedesAssertionId with
    | none => rfl
    | some assertionId =>
      obtain ⟨row, found⟩ := supersedes assertionId rfl
      simp [found]

theorem writeAssertion_succeeds {userCorrected : Bool}
    (canWrite : CanWrite surroundings state.statements request userCorrected newId)
    (isKey : buildAssertionKey platform request.subjectNodeId request.predicate request.object request.scopeNodeId = .ok key)
    (unheld : key ∉ heldKeys state.statements) (unique : (heldKeys state.statements).Nodup)
    (nodes : AcceptsNodes platform state request.subjectNodeId relation request.object request.scopeNodeId)
    (supersedes : ∀ assertionId, supersedesAssertionId = some assertionId → ∃ row, state.getAssertion assertionId = some row) :
    ∃ after, state.writeAssertion platform surroundings request supersedesAssertionId userCorrected newId = .ok after := by
  have isText : ∃ text, objectText platform request.object = .ok text := by
    obtain ⟨objectKey, isObjectKey, _⟩ := (buildAssertionKey_eq_ok platform).mp isKey
    cases isObject : request.object with
    | node nodeId => exact ⟨none, rfl⟩
    | literal valueType value =>
      rw [isObject] at isObjectKey
      obtain ⟨text, normalized, _⟩ := bind_eq_ok.mp isObjectKey
      exact ⟨some text, map_eq_ok.mpr ⟨text, normalized, rfl⟩⟩
  obtain ⟨text, isText⟩ := isText
  have created : ∃ created, state.createAssertion platform (toCreate request supersedesAssertionId) newId
      surroundings.nowUtc = .ok created := by
    simp only [createAssertion, bind_eq_ok, pure_eq_ok, throwWhen_eq_ok]
    refine ⟨_, key, isKey, text, isText, (), ?_, (), ?_, (), ?_, rfl⟩
    · rw [List.any_eq_false]
      intro row member taken
      exact canWrite.fresh row.statement (mem_statements.mpr ⟨row, member, rfl⟩) (of_decide_eq_true taken)
    · rw [Bool.not_eq_false', decide_eq_true_eq, liveKeys_eq, List.map_append]
      show (heldKeys (state.statements ++ [newStatement request newId key])).Nodup
      rw [heldKeys_append rfl]
      refine List.nodup_append.mpr ⟨unique, List.nodup_singleton _, ?_⟩
      rintro held heldMember other isOther rfl
      rw [List.mem_singleton.mp isOther] at heldMember
      exact unheld heldMember
    · rw [Bool.not_eq_false']
      exact referencesExist_of_accepts nodes supersedes
  obtain ⟨created, isCreated⟩ := created
  obtain ⟨row, found, basis, predicate, observed⟩ := getAssertion_created isCreated
  obtain ⟨confidence, resolved⟩ := canWrite.confidence
  obtain ⟨_, _, _, becomes⟩ := createAssertion_becomes isCreated
  have confident : ∃ after, created.setConfidence newId confidence = .ok after := by
    obtain ⟨member, isId⟩ := id_of_get? found
    have stillUnique : (heldKeys (restate newId (fun statement => statement) created.statements)).Nodup := by
      rw [restate_same, becomes.stated]
      exact becomes.unique
    exact updateAssertion_succeeds (mem_statements.mpr ⟨row, member, rfl⟩) isId stillUnique fun _ => rfl
  obtain ⟨after, isAfter⟩ := confident
  refine ⟨after, ?_⟩
  simp only [writeAssertion, applyConfidence, bind_eq_ok, requireAssertion_eq_ok]
  refine ⟨created, isCreated, (), linkAll_eq_ok.mpr canWrite.evidence, row, found, confidence, ?_, isAfter⟩
  rw [basis, predicate, observed]
  exact resolved

theorem acceptsNodes_of_nodes {subjectNodeId : String} {object : AssertionObject} {scopeNodeId : Option String}
    (accepts : AcceptsNodes platform state subjectNodeId relation object scopeNodeId) (same : after.nodes = state.nodes) :
    AcceptsNodes platform after subjectNodeId relation object scopeNodeId := by
  have sameNode : ∀ nodeId allowed, IsActiveNode after nodeId allowed ↔ IsActiveNode state nodeId allowed := by
    intro nodeId allowed
    rw [IsActiveNode, IsActiveNode, getNode, getNode, same]
  refine ⟨(sameNode _ _).mpr accepts.subject, ?_, fun nodeId isScope => (sameNode _ _).mpr (accepts.scope nodeId isScope)⟩
  have accepted := accepts.object
  cases object with
  | node nodeId => exact (sameNode _ _).mpr accepted
  | literal valueType value => exact accepted

variable {rival : AssertionRow}

theorem supersede_succeeds (canWrite : CanWrite surroundings state.statements request false newId)
    (proposes : ProposesNew platform state request key) (unique : (heldKeys state.statements).Nodup)
    (nodes : AcceptsNodes platform state request.subjectNodeId relation request.object request.scopeNodeId)
    (member : rival ∈ state.assertions.rows) :
    ∃ answer, state.supersede platform surroundings rival request newId = .ok answer := by
  have rivalMember : rival.statement ∈ state.statements := mem_statements.mpr ⟨rival, member, rfl⟩
  have found : ∀ assertionId, some rival.id = some assertionId → ∃ row, state.getAssertion assertionId = some row := by
    rintro assertionId isRival
    cases isRival
    exact getAssertion_isSome rivalMember
  obtain ⟨written, isWritten⟩ :=
    writeAssertion_succeeds canWrite proposes.isKey (not_mem_heldKeys proposes.unheld) unique nodes found
  obtain ⟨newKey, _, _, becomes⟩ := writeAssertion_becomes isWritten
  have stillMember : rival.statement ∈ written.statements := by
    rw [becomes.stated]
    exact List.mem_append_left _ rivalMember
  have stillUnique : (heldKeys (restate rival.id (fun statement => { statement with status := .superseded })
      written.statements)).Nodup := by
    rw [becomes.stated]
    exact becomes.unique.sublist (heldKeys_retired rfl _)
  have updated : ∃ updated, written.setStatus rival.id .superseded = .ok updated :=
    updateAssertion_succeeds stillMember rfl stillUnique fun _ => rfl
  obtain ⟨updated, isUpdated⟩ := updated
  obtain ⟨existing, isExisting⟩ := getAssertion_isSome stillMember
  have retired : ∃ after, written.retireAssertion rival.id .superseded = .ok after :=
    ⟨_, retireAssertion_eq_ok.mpr ⟨existing, isExisting, updated, isUpdated, rfl⟩⟩
  obtain ⟨after, isAfter⟩ := retired
  refine ⟨(.superseded newId rival.id, after), ?_⟩
  simp only [supersede, bind_eq_ok, pure_eq_ok]
  exact ⟨written, isWritten, after, isAfter, rfl⟩

theorem closeTemporally_succeeds {validFrom : String} (canWrite : CanWrite surroundings state.statements request false newId)
    (proposes : ProposesNew platform state request key) (unique : (heldKeys state.statements).Nodup)
    (nodes : AcceptsNodes platform state request.subjectNodeId relation request.object request.scopeNodeId)
    (member : rival ∈ state.assertions.rows) (starts : request.validFromUtc = some validFrom) :
    ∃ answer, state.closeTemporally platform surroundings rival request newId = .ok answer := by
  have sameKeys : heldKeys (restate rival.id (fun statement => { statement with validToUtc := some validFrom })
      state.statements) = heldKeys state.statements := heldKeys_restate _ (fun _ => rfl) fun _ => rfl
  have closed : ∃ closed, state.closeValidity rival.id validFrom = .ok closed := by
    rw [← sameKeys] at unique
    exact updateAssertion_succeeds (mem_statements.mpr ⟨rival, member, rfl⟩) rfl unique fun _ => rfl
  obtain ⟨closed, isClosed⟩ := closed
  have becomes := closeValidity_becomes isClosed
  have stillCanWrite : CanWrite surroundings closed.statements request false newId := by
    rw [becomes.stated]
    exact ⟨fresh_restate canWrite.fresh fun _ => rfl, canWrite.evidence, canWrite.confidence⟩
  have stillUnheld : key ∉ heldKeys closed.statements := by
    rw [becomes.stated, sameKeys]
    exact not_mem_heldKeys proposes.unheld
  have stillUnique : (heldKeys closed.statements).Nodup := by
    rw [becomes.stated]
    exact becomes.unique
  have nothingSuperseded : ∀ assertionId, none = some assertionId → ∃ row, closed.getAssertion assertionId = some row := by
    intro assertionId isNone
    cases isNone
  obtain ⟨written, isWritten⟩ := writeAssertion_succeeds stillCanWrite proposes.isKey stillUnheld stillUnique
    (acceptsNodes_of_nodes nodes becomes.nodes) nothingSuperseded
  refine ⟨(.temporally_closed newId rival.id, written), ?_⟩
  simp only [closeTemporally, starts, createNew, bind_eq_ok, pure_eq_ok]
  exact ⟨closed, isClosed, _, ⟨written, isWritten, rfl⟩, rfl⟩

end GraphState

/-! ## What is to hold, and when it does -/

/-- Every live assertion of explicit basis still states what it stated. -/
def KeepsExplicit (before after : GraphState) : Prop :=
  ∀ row ∈ before.assertions.rows, row.isLive = true → isExplicitBasis row.basis = true →
    ∃ kept ∈ after.assertions.rows, kept.statement = row.statement

/-- Every live assertion was there before. -/
def CreatesNoLive (before after : GraphState) : Prop :=
  ∀ row ∈ after.assertions.rows, row.isLive = true → ∃ old ∈ before.assertions.rows, old.id = row.id

/-- A live explicit value of the same slot, with another object and a window that overlaps the requested one. -/
structure Contradicts (platform : TextPlatform) (state : GraphState) (request : ValidatedAssertRequest)
    (row : AssertionRow) : Prop where
  candidate : IsCandidate state request row
  isExplicit : isExplicitBasis row.basis = true
  otherObject : assertionObjectKey platform row.object ≠ assertionObjectKey platform request.object
  overlaps : ¬ (row.window platform).Apart (windowOf platform request.validFromUtc request.validToUtc)

/-- The call leaves explicit memory alone, and creates no value that it contradicts. -/
structure RespectsExplicit (platform : TextPlatform) (state : GraphState) (call : AssertCall) : Prop where
  keeps : KeepsExplicit state (assertStep platform state call)
  createsNone : ∀ relation, relationType? call.request.predicate = some relation →
    relation.definition.cardinality.isExclusive = true →
    (∃ row, Contradicts platform state (call.request.narrowed relation) row) →
    CreatesNoLive state (assertStep platform state call)

/-- Where explicit memory contradicts a proposal that the validator lets pass, and that could be written under a key that
is not held, the value that the proposal meets is explicit itself, or locked. -/
def MeetsExplicitRival (platform : TextPlatform) (state : GraphState) (call : AssertCall) : Prop :=
  ∀ relation key rival,
    validate platform state call.surroundings.isTopicBlockedFromInference call.request.toValidation = .ok relation →
    (∃ row, Contradicts platform state (call.request.narrowed relation) row) →
    ProposesNew platform state (call.request.narrowed relation) key →
    CanWrite call.surroundings state.statements (call.request.narrowed relation) false call.id →
    state.findExclusiveRival (call.request.narrowed relation) relation.definition.cardinality = some rival →
    isExplicitBasis rival.basis = true ∨ call.surroundings.isAssertionLocked rival.id = true

/-! ## The invariant -/

structure Consistent (statements : List Statement) : Prop where
  ids : (statements.map Statement.id).Nodup
  keys : (heldKeys statements).Nodup

theorem Consistent.step {platform : TextPlatform} {state : GraphState} {call : AssertCall}
    (consistent : Consistent state.statements) : Consistent (assertStep platform state call).statements := by
  unfold assertStep
  cases asserted : state.assert platform call.surroundings call.request call.id with
  | error failure => exact consistent
  | ok answer =>
    obtain ⟨outcome, after⟩ := answer
    show Consistent after.statements
    obtain rfl | ⟨relation, accepted, settled⟩ := GraphState.assert_cases asserted
    · exact consistent
    obtain rfl | becomes | ⟨statements, canWrite, settles, becomes⟩ := GraphState.settle_cases settled
    · exact consistent
    · rw [becomes.stated]
      exact consistent
    rw [becomes.stated]
    refine ⟨?_, becomes.unique⟩
    rw [settles.ids]
    refine List.nodup_append.mpr ⟨consistent.ids, List.nodup_singleton _, ?_⟩
    rintro id isId other isOther rfl
    obtain ⟨known, member, same⟩ := List.mem_map.mp isId
    exact canWrite.fresh known member (same.trans (List.mem_singleton.mp isOther))

/-! ## Explicit memory stays -/

section

variable {platform : TextPlatform} {surroundings : Surroundings} {state : GraphState} {request : ValidatedAssertRequest}
  {newId : String} {key : AssertionKey} {rival : AssertionRow}

section

variable (replaces : MayReplace platform surroundings state request key rival)
  (passive : isExplicitBasis request.basis = false)

include replaces passive

theorem MayReplace.not_explicit : isExplicitBasis rival.basis = false := by
  have notOutranked := replaces.notOutranked
  rw [outranks, passive, Bool.not_false, Bool.and_true] at notOutranked
  exact notOutranked

theorem MayReplace.other_id (consistent : Consistent state.statements) {statement : Statement}
    (member : statement ∈ state.statements) (isExplicit : isExplicitBasis statement.basis = true) :
    statement.id ≠ rival.id := by
  intro same
  obtain ⟨_, candidate⟩ := findExclusiveRival_eq_some replaces.isRival
  have rivalMember : rival.statement ∈ state.statements := mem_statements.mpr ⟨rival, candidate.member, rfl⟩
  obtain rfl := List.inj_on_of_nodup_map consistent.ids member rivalMember same
  have notExplicit := replaces.not_explicit passive
  simp [AssertionRow.statement, notExplicit] at isExplicit

end

theorem Settles.keepsExplicit {statements : List Statement}
    (settles : Settles platform surroundings state request newId statements)
    (passive : isExplicitBasis request.basis = false) (consistent : Consistent state.statements) {statement : Statement}
    (member : statement ∈ state.statements) (isExplicit : isExplicitBasis statement.basis = true) :
    statement ∈ statements := by
  cases settles with
  | created => exact List.mem_append_left _ member
  | closed replaces _ _ =>
    have different := replaces.other_id passive consistent member isExplicit
    exact List.mem_append_left _ (mem_restate.mpr ⟨statement, member, (if_neg different).symm⟩)
  | disputed _ _ disputes => simp [disputesRival, passive] at disputes
  | superseded replaces _ _ =>
    have different := replaces.other_id passive consistent member isExplicit
    exact mem_restate.mpr ⟨statement, List.mem_append_left _ member, (if_neg different).symm⟩

/-- What happens to a proposal that may replace its rival. -/
theorem settle_of_mayReplace (replaces : MayReplace platform surroundings state request key rival)
    (passive : isExplicitBasis request.basis = false) :
    state.settle platform surroundings request newId =
      if closesRival request then state.closeTemporally platform surroundings rival request newId
      else state.supersede platform surroundings rival request newId := by
  have notExplicit := replaces.not_explicit passive
  simp only [GraphState.settle, replaces.isKey, bind, Except.bind, replaces.unheld, replaces.isRival, replaces.unlocked,
    notExplicit, passive, closesRival, Bool.false_and, Bool.and_false, Bool.false_eq_true, if_false]
  rfl

end

section

variable {platform : TextPlatform} {state : GraphState} {call : AssertCall}

/-- What an `assert` does to the statements, if anything. -/
theorem assertStep_cases :
    (assertStep platform state call).statements = state.statements ∨ ∃ relation statements,
      validate platform state call.surroundings.isTopicBlockedFromInference call.request.toValidation = .ok relation ∧
      CanWrite call.surroundings state.statements (call.request.narrowed relation) false call.id ∧
      Settles platform call.surroundings state (call.request.narrowed relation) call.id statements ∧
      (assertStep platform state call).statements = statements := by
  unfold assertStep
  cases asserted : state.assert platform call.surroundings call.request call.id with
  | error failure => exact Or.inl rfl
  | ok answer =>
    obtain ⟨outcome, after⟩ := answer
    obtain rfl | ⟨relation, accepted, settled⟩ := GraphState.assert_cases asserted
    · exact Or.inl rfl
    obtain rfl | becomes | ⟨statements, canWrite, settles, becomes⟩ := GraphState.settle_cases settled
    · exact Or.inl rfl
    · exact Or.inl becomes.stated
    · exact Or.inr ⟨relation, statements, accepted, canWrite, settles, becomes.stated⟩

theorem keepsExplicit_assertStep (consistent : Consistent state.statements)
    (passive : isExplicitBasis call.request.basis = false) : KeepsExplicit state (assertStep platform state call) := by
  intro row member _ isExplicit
  have stated : row.statement ∈ state.statements := mem_statements.mpr ⟨row, member, rfl⟩
  apply mem_statements.mp
  obtain same | ⟨relation, statements, _, _, settles, isAfter⟩ := assertStep_cases
  · rw [same]
    exact stated
  · rw [isAfter]
    exact settles.keepsExplicit passive consistent stated isExplicit

/-- A value that is explicit or locked keeps contradicted proposals out. -/
theorem MeetsExplicitRival.createsNone {relation : RelationType} {row : AssertionRow}
    (meets : MeetsExplicitRival platform state call) (passive : isExplicitBasis call.request.basis = false)
    (named : relationType? call.request.predicate = some relation)
    (exclusive : relation.definition.cardinality.isExclusive = true)
    (contradicts : Contradicts platform state (call.request.narrowed relation) row) :
    CreatesNoLive state (assertStep platform state call) := by
  obtain same | ⟨accepted, statements, isAccepted, canWrite, settles, isAfter⟩ := assertStep_cases
  · intro after member _
    have stated : after.statement ∈ state.statements := by
      rw [← same]
      exact mem_statements.mpr ⟨after, member, rfl⟩
    obtain ⟨old, oldMember, isSame⟩ := mem_statements.mp stated
    exact ⟨old, oldMember, congrArg Statement.id isSame⟩
  · obtain rfl := Option.some.inj (named.symm.trans (validate_ok isAccepted).1)
    have impossible : ∀ {key rival}, ¬ MayReplace platform call.surroundings state (call.request.narrowed relation) key rival := by
      intro key rival replaces
      obtain isExplicit | locked :=
        meets relation key rival isAccepted ⟨row, contradicts⟩ replaces.toProposesNew canWrite replaces.isRival
      · exact absurd isExplicit (by simp [replaces.not_explicit passive])
      · exact absurd locked (by simp [replaces.unlocked])
    cases settles with
    | created _ noRival => exact absurd contradicts.candidate ((findExclusiveRival_eq_none exclusive).mp noRival row)
    | closed replaces => exact absurd replaces impossible
    | disputed replaces => exact absurd replaces impossible
    | superseded replaces => exact absurd replaces impossible

/-- A proposal that may replace its rival, and can be written, becomes a new live value. -/
theorem not_createsNoLive {relation : RelationType} {key : AssertionKey} {rival : AssertionRow}
    (consistent : Consistent state.statements) (passive : isExplicitBasis call.request.basis = false)
    (accepted : validate platform state call.surroundings.isTopicBlockedFromInference call.request.toValidation = .ok relation)
    (replaces : MayReplace platform call.surroundings state (call.request.narrowed relation) key rival)
    (canWrite : CanWrite call.surroundings state.statements (call.request.narrowed relation) false call.id) :
    ¬ CreatesNoLive state (assertStep platform state call) := by
  obtain ⟨_, candidate⟩ := findExclusiveRival_eq_some replaces.isRival
  have nodes : AcceptsNodes platform state call.request.subjectNodeId relation call.request.object call.request.scopeNodeId :=
    (validate_ok accepted).2.1
  have written : ∃ answer, state.settle platform call.surroundings (call.request.narrowed relation) call.id = .ok answer ∧
      ∃ live ∈ answer.2.statements, live.id = call.id ∧ live.isLive = true := by
    rw [settle_of_mayReplace replaces passive]
    have different : call.id ≠ rival.id := by
      intro same
      exact canWrite.fresh rival.statement (mem_statements.mpr ⟨rival, candidate.member, rfl⟩) same.symm
    cases closes : closesRival (call.request.narrowed relation) with
    | true =>
      have isSome : call.request.validFromUtc.isSome = true := (Bool.and_eq_true_iff.mp closes).2
      obtain ⟨validFrom, starts⟩ := Option.isSome_iff_exists.mp isSome
      obtain ⟨answer, isAnswer⟩ := GraphState.closeTemporally_succeeds canWrite replaces.toProposesNew consistent.keys nodes
        candidate.member starts
      obtain ⟨newKey, _, _, becomes⟩ := GraphState.closeTemporally_becomes starts isAnswer
      refine ⟨answer, isAnswer, newStatement (call.request.narrowed relation) call.id newKey, ?_, rfl, rfl⟩
      rw [becomes.stated]
      exact List.mem_append_right _ List.mem_cons_self
    | false =>
      obtain ⟨answer, isAnswer⟩ := GraphState.supersede_succeeds canWrite replaces.toProposesNew consistent.keys nodes
        candidate.member
      obtain ⟨newKey, _, _, becomes⟩ := GraphState.supersede_becomes isAnswer
      refine ⟨answer, isAnswer, newStatement (call.request.narrowed relation) call.id newKey, ?_, rfl, rfl⟩
      rw [becomes.stated]
      exact mem_restate.mpr ⟨_, List.mem_append_right _ List.mem_cons_self, (if_neg different).symm⟩
  obtain ⟨answer, isAnswer, live, liveMember, isNew, isLive⟩ := written
  intro createsNone
  have isAfter : assertStep platform state call = answer.2 := by
    rw [assertStep, GraphState.assert, accepted]
    show committed state (state.settle platform call.surroundings (call.request.narrowed relation) call.id) = answer.2
    rw [isAnswer]
    rfl
  rw [isAfter] at createsNone
  obtain ⟨row, rowMember, rfl⟩ := mem_statements.mp liveMember
  obtain ⟨old, oldMember, sameId⟩ := createsNone row rowMember isLive
  exact canWrite.fresh old.statement (mem_statements.mpr ⟨old, oldMember, rfl⟩) (sameId.trans isNew)

end

/-- From a graph without assertions, after any `assert` calls, a further call of no explicit basis respects explicit
memory exactly if the value that it meets is explicit or locked wherever explicit memory contradicts it. -/
theorem explicit_memory_respected_iff (platform : TextPlatform) {start : GraphState} (calls : List AssertCall)
    {call : AssertCall} (noAssertions : start.assertions.rows = []) (passive : isExplicitBasis call.request.basis = false) :
    RespectsExplicit platform (run (assertStep platform) start calls) call ↔
      MeetsExplicitRival platform (run (assertStep platform) start calls) call := by
  have consistent : Consistent (run (assertStep platform) start calls).statements := by
    apply run_invariant fun state : GraphState => Consistent state.statements
    · intro state call held
      exact held.step
    · rw [GraphState.statements, noAssertions]
      exact ⟨List.nodup_nil, List.nodup_nil⟩
  constructor
  · intro respects relation key rival accepted contradicts proposes canWrite isRival
    by_contra neither
    rw [not_or, Bool.not_eq_true, Bool.not_eq_true] at neither
    have replaces : MayReplace platform call.surroundings (run (assertStep platform) start calls)
        (call.request.narrowed relation) key rival := ⟨proposes, isRival, neither.2, by simp [outranks, neither.1]⟩
    obtain ⟨exclusive, _⟩ := findExclusiveRival_eq_some isRival
    exact not_createsNoLive consistent passive accepted replaces canWrite
      (respects.createsNone relation (validate_ok accepted).1 exclusive contradicts)
  · intro meets
    refine ⟨keepsExplicit_assertStep consistent passive, ?_⟩
    rintro relation named exclusive ⟨row, contradicts⟩
    exact meets.createsNone passive named exclusive contradicts

/-! ### Samples -/

/-- An explicit role stands against another that is only observed. -/
theorem explicit_role_respected : RespectsExplicit datedPlatform (run (assertStep datedPlatform) personGraph
    [assertRole (utf16 "manager") .explicit_user_statement none january "ast_1"])
    (assertRole (utf16 "engineer") .passive_observation none march "ast_2") := by
  refine (explicit_memory_respected_iff datedPlatform _ rfl rfl).mpr ?_
  intro relation key rival _ _ _ _ isRival
  obtain ⟨_, candidate⟩ := findExclusiveRival_eq_some isRival
  have allExplicit : ∀ row ∈ (run (assertStep datedPlatform) personGraph
      [assertRole (utf16 "manager") .explicit_user_statement none january "ast_1"]).assertions.rows,
      isExplicitBasis row.basis = true := by decide +kernel
  exact Or.inl (allExplicit rival candidate.member)

/-- An observed role that an explicit one closed, and that is observed again. -/
def closedAndReinforced : List AssertCall :=
  [assertRole (utf16 "engineer") .passive_observation none january "ast_1",
    assertRole (utf16 "manager") .explicit_user_statement (some january) january "ast_2",
    assertRole (utf16 "engineer") .passive_observation none march "ast_3"]

/-- What was closed and observed again is met first, and gives way to a new value beside the explicit one. -/
theorem reinforced_rival_hides_explicit :
    ¬ ∀ start calls call, start.assertions.rows = [] → isExplicitBasis call.request.basis = false →
      RespectsExplicit datedPlatform (run (assertStep datedPlatform) start calls) call := by
  intro always
  let call := assertRole (utf16 "captain") .passive_observation none march "ast_4"
  have respects := always personGraph closedAndReinforced call rfl rfl
  have explicitRole : ∃ row ∈ (run (assertStep datedPlatform) personGraph closedAndReinforced).assertions.rows,
      (row.isLive = true ∧ row.subjectNodeId = "node_1" ∧ row.predicate = .HAS_ROLE ∧ row.scopeNodeId = none) ∧
      isExplicitBasis row.basis = true ∧
      (assertionObjectKey datedPlatform row.object).toOption ≠ (assertionObjectKey datedPlatform call.request.object).toOption ∧
      (row.window datedPlatform).Contains 1767225600000 := by decide +kernel
  obtain ⟨row, member, ⟨isLive, subject, predicate, scope⟩, isExplicit, otherObject, contains⟩ := explicitRole
  have contradicts : Contradicts datedPlatform _ (call.request.narrowed .HAS_ROLE) row :=
    ⟨⟨member, isLive, subject, predicate, scope⟩, isExplicit, fun same => otherObject (congrArg Except.toOption same),
      fun apart => apart 1767225600000 contains (by decide +kernel)⟩
  have createsNone := respects.createsNone .HAS_ROLE rfl rfl ⟨row, contradicts⟩
  have newValue : ∃ row ∈ (assertStep datedPlatform (run (assertStep datedPlatform) personGraph closedAndReinforced)
      call).assertions.rows, row.isLive = true ∧
      ∀ old ∈ (run (assertStep datedPlatform) personGraph closedAndReinforced).assertions.rows, old.id ≠ row.id := by
    decide +kernel
  obtain ⟨new, newMember, newLive, fresh⟩ := newValue
  obtain ⟨old, oldMember, same⟩ := createsNone new newMember newLive
  exact fresh old oldMember same

end SiftKit.Graph
