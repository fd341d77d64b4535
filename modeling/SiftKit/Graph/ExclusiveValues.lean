import SiftKit.Foundation.Runs
import SiftKit.Foundation.Windows
import SiftKit.Graph.AssertionEffects

/-! # One current value per exclusive predicate

A second value of an exclusive predicate supersedes, closes or disputes the one value that it meets,
the most recently observed live one.  That leaves one current value at every instant, as long as the
windows that a proposal brings about keep clear of the active values that it does not meet.
-/

namespace SiftKit.Graph

open SiftKit.Failure SiftKit.Json SiftKit.Runs SiftKit.Tables SiftKit.Windows

/-! ## Calls -/

/-- A call of `assert`, with what it finds around the graph and the id that it draws. -/
structure AssertCall where
  surroundings : Surroundings
  request : AssertRequest
  id : String

/-- A call that throws is rolled back. -/
def assertStep (platform : TextPlatform) (state : GraphState) (call : AssertCall) : GraphState :=
  committed state (state.assert platform call.surroundings call.request call.id)

/-! ## Windows -/

def windowOf (platform : TextPlatform) (validFromUtc validToUtc : Option String) : Window Int :=
  ⟨validFromUtc.bind (dateParse platform), validToUtc.bind (dateParse platform)⟩

def AssertionRow.window (platform : TextPlatform) (row : AssertionRow) : Window Int :=
  windowOf platform row.validFromUtc row.validToUtc

def Statement.window (platform : TextPlatform) (statement : Statement) : Window Int :=
  windowOf platform statement.validFromUtc statement.validToUtc

variable {platform : TextPlatform}

theorem isWindowInconsistent_eq_false {validFromUtc validToUtc : Option String} :
    isWindowInconsistent platform validFromUtc validToUtc = false ↔ (windowOf platform validFromUtc validToUtc).Ordered := by
  unfold isWindowInconsistent
  split
  next start stop isStart isStop => simp [Window.Ordered, windowOf, isStart, isStop]
  next notBoth =>
    simp only [Window.Ordered, windowOf, true_iff]
    intro start stop isStart isStop
    exact absurd isStop (notBoth start stop isStart)

/-! ## What is to hold -/

/-- At every instant an exclusive predicate has one active value, and windows are in order. -/
structure OneCurrentValue (platform : TextPlatform) (state : GraphState) : Prop where
  current : ∀ subjectNodeId (predicate : RelationType) scopeNodeId, predicate.definition.cardinality.isExclusive = true →
    ∀ instant, (state.assertions.rows.filter fun row =>
      decide (row.subjectNodeId = subjectNodeId ∧ row.predicate = predicate ∧ row.scopeNodeId = scopeNodeId ∧
        row.status = .active ∧ (row.window platform).Contains instant)).length ≤ 1
  ordered : ∀ row ∈ state.assertions.rows, ∀ validFrom validTo, row.validFromUtc = some validFrom →
    row.validToUtc = some validTo → ∃ start stop, dateParse platform validFrom = some start ∧
      dateParse platform validTo = some stop ∧ start < stop

/-! ## When it holds -/

/-- The window keeps clear of the active values of the proposal's subject, predicate and scope, other than the rival. -/
def ClearOfOthers (platform : TextPlatform) (state : GraphState) (request : ValidatedAssertRequest) (rival : AssertionRow)
    (window : Window Int) : Prop :=
  ∀ other ∈ state.assertions.rows, other.id ≠ rival.id → other.status = .active →
    other.subjectNodeId = request.subjectNodeId → other.predicate = request.predicate →
    other.scopeNodeId = request.scopeNodeId → window.Apart (other.window platform)

/-- The rival, closed where the proposal starts, starts before that, and keeps clear of the others if it is active. -/
structure ClosesWell (platform : TextPlatform) (state : GraphState) (request : ValidatedAssertRequest)
    (rival : AssertionRow) : Prop where
  ordered : Window.Ordered ⟨(rival.window platform).start, (windowOf platform request.validFromUtc none).start⟩
  clear : rival.status = .active → ClearOfOthers platform state request rival
    ⟨(rival.window platform).start, (windowOf platform request.validFromUtc none).start⟩

/-- A proposal that replaces a rival or closes it keeps clear of the values that it does not meet. -/
def KeepsWindowsApart (platform : TextPlatform) (state : GraphState) (call : AssertCall) : Prop :=
  ∀ relation key rival,
    validate platform state call.surroundings.isTopicBlockedFromInference call.request.toValidation = .ok relation →
    MayReplace platform call.surroundings state (call.request.narrowed relation) key rival →
    closesRival (call.request.narrowed relation) = true ∨ disputesRival rival (call.request.narrowed relation) = false →
    ClearOfOthers platform state (call.request.narrowed relation) rival
        (windowOf platform call.request.validFromUtc call.request.validToUtc) ∧
      (closesRival (call.request.narrowed relation) = true →
        ClosesWell platform state (call.request.narrowed relation) rival)

/-! ## The invariant -/

/-- Two values of one subject, predicate and scope. -/
def Statement.SameSlot (statement other : Statement) : Prop :=
  statement.subjectNodeId = other.subjectNodeId ∧ statement.predicate = other.predicate ∧
    statement.scopeNodeId = other.scopeNodeId

structure ValuesApart (platform : TextPlatform) (statements : List Statement) : Prop where
  ids : (statements.map Statement.id).Nodup
  windows : ∀ statement ∈ statements, IsWindow platform statement.validFromUtc statement.validToUtc
  apart : ∀ first ∈ statements, ∀ second ∈ statements, first.id ≠ second.id → first.status = .active →
    second.status = .active → first.SameSlot second → first.predicate.definition.cardinality.isExclusive = true →
    (first.window platform).Apart (second.window platform)

namespace ValuesApart

variable {platform : TextPlatform} {statements : List Statement}

theorem insert {statement : Statement} (apart : ValuesApart platform statements)
    (fresh : ∀ other ∈ statements, other.id ≠ statement.id)
    (window : IsWindow platform statement.validFromUtc statement.validToUtc)
    (clear : statement.status = .active → statement.predicate.definition.cardinality.isExclusive = true →
      ∀ other ∈ statements, other.status = .active → other.SameSlot statement →
        (statement.window platform).Apart (other.window platform)) :
    ValuesApart platform (statements ++ [statement]) := by
  refine ⟨?_, ?_, ?_⟩
  · exact nodup_map_snoc apart.ids fresh
  · exact forall_mem_snoc.mpr ⟨apart.windows, window⟩
  · intro first firstMember second secondMember different firstActive secondActive same exclusive
    rcases List.mem_append.mp firstMember with firstOld | firstNew <;>
      rcases List.mem_append.mp secondMember with secondOld | secondNew
    · exact apart.apart first firstOld second secondOld different firstActive secondActive same exclusive
    · obtain rfl := List.mem_singleton.mp secondNew
      rw [same.2.1] at exclusive
      exact (clear secondActive exclusive first firstOld firstActive same).symm
    · obtain rfl := List.mem_singleton.mp firstNew
      exact clear firstActive exclusive second secondOld secondActive ⟨same.1.symm, same.2.1.symm, same.2.2.symm⟩
    · rw [List.mem_singleton.mp firstNew, List.mem_singleton.mp secondNew] at different
      exact absurd rfl different

theorem deactivate {status : AssertionStatus} (apart : ValuesApart platform statements) (id : String)
    (inactive : status ≠ .active) :
    ValuesApart platform (restate id (fun statement => { statement with status }) statements) := by
  refine ⟨?_, ?_, ?_⟩
  · exact nodup_restate apart.ids fun _ => rfl
  · intro statement member
    obtain ⟨before, beforeMember, rfl⟩ := mem_restate.mp member
    split
    · exact apart.windows before beforeMember
    · exact apart.windows before beforeMember
  · intro first firstMember second secondMember different firstActive secondActive same exclusive
    obtain ⟨left, leftMember, rfl⟩ := mem_restate.mp firstMember
    obtain ⟨right, rightMember, rfl⟩ := mem_restate.mp secondMember
    -- an active statement is not the one that was rewritten
    split at firstActive
    next => exact absurd firstActive inactive
    next leftKept =>
      split at secondActive
      next => exact absurd secondActive inactive
      next rightKept =>
        rw [if_neg leftKept, if_neg rightKept] at different same
        rw [if_neg leftKept] at exclusive
        rw [if_neg leftKept, if_neg rightKept]
        exact apart.apart left leftMember right rightMember different firstActive secondActive same exclusive

theorem close {id validFrom : String} {instant : Int} (apart : ValuesApart platform statements)
    (parses : dateParse platform validFrom = some instant)
    (ordered : ∀ statement ∈ statements, statement.id = id →
      Window.Ordered ⟨(statement.window platform).start, some instant⟩)
    (clear : ∀ statement ∈ statements, statement.id = id → statement.status = .active →
      statement.predicate.definition.cardinality.isExclusive = true →
      ∀ other ∈ statements, other.id ≠ id → other.status = .active → other.SameSlot statement →
        Window.Apart ⟨(statement.window platform).start, some instant⟩ (other.window platform)) :
    ValuesApart platform (restate id (fun statement => { statement with validToUtc := some validFrom }) statements) := by
  have closedWindow : ∀ validFromUtc, windowOf platform validFromUtc (some validFrom) =
      ⟨(windowOf platform validFromUtc none).start, some instant⟩ := by
    intro validFromUtc
    simp only [windowOf, Option.bind_some, parses]
  refine ⟨nodup_restate apart.ids fun _ => rfl, ?_, ?_⟩
  · intro statement member
    obtain ⟨before, beforeMember, rfl⟩ := mem_restate.mp member
    have window := apart.windows before beforeMember
    split
    next isId =>
      refine ⟨window.starts, ?_, ?_⟩
      · rintro value isValue
        cases isValue
        exact ⟨instant, parses⟩
      · rw [isWindowInconsistent_eq_false, closedWindow]
        exact ordered before beforeMember isId
    next => exact window
  · intro first firstMember second secondMember different firstActive secondActive same exclusive
    obtain ⟨left, leftMember, rfl⟩ := mem_restate.mp firstMember
    obtain ⟨right, rightMember, rfl⟩ := mem_restate.mp secondMember
    by_cases leftId : left.id = id <;> by_cases rightId : right.id = id
    · simp only [leftId, rightId, if_true, ne_eq, not_true_eq_false] at different
    · simp only [if_pos leftId, if_neg rightId] at firstActive secondActive same exclusive ⊢
      rw [Statement.window, closedWindow]
      exact clear left leftMember leftId firstActive exclusive right rightMember rightId secondActive
        ⟨same.1.symm, same.2.1.symm, same.2.2.symm⟩
    · simp only [if_neg leftId, if_pos rightId] at firstActive secondActive same exclusive ⊢
      rw [same.2.1] at exclusive
      have apartRight := clear right rightMember rightId secondActive exclusive left leftMember leftId firstActive same
      rw [Statement.window, Statement.window, closedWindow]
      exact apartRight.symm
    · simp only [if_neg leftId, if_neg rightId] at different firstActive secondActive same exclusive ⊢
      exact apart.apart left leftMember right rightMember different firstActive secondActive same exclusive

theorem eq_of_id (apart : ValuesApart platform statements) {first second : Statement} (firstMember : first ∈ statements)
    (secondMember : second ∈ statements) (same : first.id = second.id) : first = second :=
  List.inj_on_of_nodup_map apart.ids firstMember secondMember same

end ValuesApart

/-! ## One call -/

section

variable {platform : TextPlatform} {state : GraphState} {request : ValidatedAssertRequest} {rival : AssertionRow}
  {window : Window Int}

theorem ClearOfOthers.statement (clear : ClearOfOthers platform state request rival window) {other : Statement}
    (member : other ∈ state.statements) (different : other.id ≠ rival.id) (active : other.status = .active)
    (subject : other.subjectNodeId = request.subjectNodeId) (predicate : other.predicate = request.predicate)
    (scope : other.scopeNodeId = request.scopeNodeId) : window.Apart (other.window platform) := by
  obtain ⟨row, rowMember, rfl⟩ := mem_statements.mp member
  exact clear row rowMember different active subject predicate scope

theorem ValuesApart.closeRival {validFrom : String} {instant : Int} (apart : ValuesApart platform state.statements)
    (candidate : IsCandidate state request rival) (starts : request.validFromUtc = some validFrom)
    (parses : dateParse platform validFrom = some instant) (closesWell : ClosesWell platform state request rival) :
    ValuesApart platform
      (restate rival.id (fun statement => { statement with validToUtc := some validFrom }) state.statements) := by
  have rivalMember : rival.statement ∈ state.statements := mem_statements.mpr ⟨rival, candidate.member, rfl⟩
  have isStart : (windowOf platform request.validFromUtc none).start = some instant := by
    simp only [windowOf, starts, Option.bind_some, parses]
  obtain ⟨ordered, clear⟩ := closesWell
  rw [isStart] at ordered clear
  apply apart.close parses
  · intro statement member isId
    obtain rfl := apart.eq_of_id member rivalMember isId
    exact ordered
  · intro statement member isId active _ other otherMember different otherActive same
    obtain rfl := apart.eq_of_id member rivalMember isId
    exact (clear active).statement otherMember different otherActive (same.1.trans candidate.subject)
      (same.2.1.trans candidate.predicate) (same.2.2.trans candidate.scope)

end

theorem ValuesApart.step {state : GraphState} {call : AssertCall}
    (apart : ValuesApart platform state.statements) (keeps : KeepsWindowsApart platform state call) :
    ValuesApart platform (assertStep platform state call).statements := by
  unfold assertStep
  cases asserted : state.assert platform call.surroundings call.request call.id with
  | error failure => exact apart
  | ok answer =>
    obtain ⟨outcome, after⟩ := answer
    show ValuesApart platform after.statements
    obtain rfl | ⟨relation, accepted, settled⟩ := GraphState.assert_cases asserted
    · exact apart
    obtain rfl | becomes | ⟨statements, canWrite, settles, becomes⟩ := GraphState.settle_cases settled
    · exact apart
    · rw [becomes.stated]
      exact apart
    rw [becomes.stated]
    have fresh := canWrite.fresh
    have window : IsWindow platform call.request.validFromUtc call.request.validToUtc := (validate_ok accepted).2.2
    cases settles with
    | created proposes noRival =>
      apply apart.insert fresh window
      intro _ exclusive other member active same
      -- an active value of the slot would be a candidate
      obtain ⟨row, rowMember, rfl⟩ := mem_statements.mp member
      have isLive : row.isLive = true := congrArg AssertionStatus.isLive active
      exact absurd ⟨rowMember, isLive, same.1, same.2.1, same.2.2⟩ ((findExclusiveRival_eq_none exclusive).mp noRival row)
    | @closed key rival validFrom replaces closes starts =>
      obtain ⟨clear, closesWell⟩ := keeps relation key rival accepted replaces (Or.inl closes)
      obtain ⟨_, candidate⟩ := findExclusiveRival_eq_some replaces.isRival
      obtain ⟨instant, parses⟩ := window.starts validFrom starts
      have closed := apart.closeRival candidate starts parses (closesWell closes)
      apply closed.insert (fresh_restate fresh fun _ => rfl) window
      intro _ _ other member active same
      obtain ⟨before, beforeMember, rfl⟩ := mem_restate.mp member
      split at active
      next isRival =>
        -- the closed rival ends where the new value starts
        rw [if_pos isRival]
        have stops : (Statement.window platform { before with validToUtc := some validFrom }).stop = some instant := by
          simp only [Statement.window, windowOf, Option.bind_some, parses]
        have newStarts : ((newStatement (call.request.narrowed relation) call.id key).window platform).start = some instant := by
          show Option.bind _ _ = _
          rw [newStatement, starts, Option.bind_some, parses]
        exact (Window.apart_of_meeting stops newStarts).symm
      next isOther =>
        rw [if_neg isOther] at same ⊢
        exact clear.statement beforeMember isOther active same.1 same.2.1 same.2.2
    | @disputed key rival replaces keepsWindow disputes =>
      have restFresh : ∀ statement ∈ restate rival.id (fun statement => { statement with status := .disputed })
          state.statements, statement.id ≠ call.id := fresh_restate fresh fun _ => rfl
      have isNew : (newStatement (call.request.narrowed relation) call.id key).id = call.id := rfl
      rw [restate_append, if_pos isNew, restate_of_fresh restFresh]
      have disputedRival : ValuesApart platform (restate rival.id (fun statement => { statement with status := .disputed })
          state.statements) := apart.deactivate rival.id (by decide)
      apply disputedRival.insert restFresh window
      intro active
      cases active
    | @superseded key rival replaces keepsWindow agrees =>
      obtain ⟨clear, _⟩ := keeps relation key rival accepted replaces (Or.inr agrees)
      obtain ⟨_, candidate⟩ := findExclusiveRival_eq_some replaces.isRival
      have different : (newStatement (call.request.narrowed relation) call.id key).id ≠ rival.id := by
        intro same
        exact fresh rival.statement (mem_statements.mpr ⟨rival, candidate.member, rfl⟩) same.symm
      rw [restate_append, if_neg different]
      have retired : ValuesApart platform (restate rival.id (fun statement => { statement with status := .superseded })
          state.statements) := apart.deactivate rival.id (by decide)
      apply retired.insert (fresh_restate fresh fun _ => rfl) window
      intro _ _ other member active same
      obtain ⟨before, beforeMember, rfl⟩ := mem_restate.mp member
      split at active
      next => cases active
      next isOther =>
        rw [if_neg isOther] at same ⊢
        exact clear.statement beforeMember isOther active same.1 same.2.1 same.2.2

/-! ## Runs -/

theorem ValuesApart.oneCurrentValue {state : GraphState}
    (apart : ValuesApart platform state.statements) : OneCurrentValue platform state := by
  refine ⟨?_, ?_⟩
  · intro subjectNodeId predicate scopeNodeId exclusive instant
    have ids : (state.assertions.rows.map AssertionRow.id).Nodup := by
      have distinct := apart.ids
      rw [GraphState.statements, List.map_map] at distinct
      exact distinct
    -- two current values of one slot would not be apart
    refine length_le_one_of_unique AssertionRow.id (ids.sublist (List.filter_sublist.map _)) ?_
    intro first second firstMember secondMember
    simp only [List.mem_filter, decide_eq_true_eq] at firstMember secondMember
    obtain ⟨firstRow, subject, named, scope, active, contains⟩ := firstMember
    obtain ⟨secondRow, otherSubject, otherNamed, otherScope, otherActive, otherContains⟩ := secondMember
    by_contra different
    have windowsApart := apart.apart first.statement (mem_statements.mpr ⟨first, firstRow, rfl⟩) second.statement
      (mem_statements.mpr ⟨second, secondRow, rfl⟩) different active otherActive
      ⟨subject.trans otherSubject.symm, named.trans otherNamed.symm, scope.trans otherScope.symm⟩
      ((congrArg (fun relation => (RelationType.definition relation).cardinality.isExclusive) named).trans exclusive)
    exact windowsApart instant contains otherContains
  · intro row member validFrom validTo isFrom isTo
    have window := apart.windows row.statement (mem_statements.mpr ⟨row, member, rfl⟩)
    obtain ⟨start, isStart⟩ := window.starts validFrom isFrom
    obtain ⟨stop, isStop⟩ := window.stops validTo isTo
    have ordered := isWindowInconsistent_eq_false.mp window.ordered
    refine ⟨start, stop, isStart, isStop, ordered start stop ?_ ?_⟩
    · show Option.bind row.validFromUtc _ = _
      rw [isFrom, Option.bind_some, isStart]
    · show Option.bind row.validToUtc _ = _
      rw [isTo, Option.bind_some, isStop]

/-- In every run of `assert` calls that keep windows apart, from a graph without assertions, exclusive predicates have
one current value. -/
theorem one_current_value_if_windows_apart (platform : TextPlatform) {start : GraphState} {calls : List AssertCall}
    (noAssertions : start.assertions.rows = [])
    (keeps : Throughout (assertStep platform) (KeepsWindowsApart platform) start calls) :
    OneCurrentValue platform (run (assertStep platform) start calls) := by
  have apart : ValuesApart platform (run (assertStep platform) start calls).statements := by
    apply run_invariant_throughout (fun state => ValuesApart platform state.statements) _ _ keeps
    · intro state call held meets
      exact held.step meets
    · rw [GraphState.statements, noAssertions]
      exact ⟨List.nodup_nil, by simp, by simp⟩
  exact apart.oneCurrentValue

/-! ### Samples -/

def january : String := "2026-01-01T00:00:00.000Z"

def march : String := "2026-03-01T00:00:00.000Z"

/-- Texts that are normal already, and two dates. -/
def datedPlatform : TextPlatform where
  nfc := id
  toLowerCase := id
  dateParse := fun text =>
    if text = utf16 january then some 1767225600000 else if text = utf16 march then some 1772323200000 else none
  toISOString := fun _ => []

/-- Surroundings without policies, that know all evidence and are sure of nothing. -/
def sampleSurroundings : Surroundings where
  nowUtc := "2026-08-05T09:00:00.000Z"
  isTopicBlockedFromInference := fun _ => false
  isAssertionLocked := fun _ => false
  isMergeBlocked := fun _ _ => false
  knowsEvidence := fun _ => true
  resolveConfidence := fun _ => .ok 0

/-- A person, of whom nothing is known. -/
def personGraph : GraphState :=
  { GraphState.empty with
    nodes := ⟨[⟨"node_1", .person, none, utf16 "Ada", none, .personal, .active, none, none⟩], []⟩ }

/-- The role of the person, since an instant or always. -/
def assertRole (role : JsString) (basis : AssertionBasis) (validFromUtc : Option String) (observedAtUtc id : String) :
    AssertCall where
  surroundings := sampleSurroundings
  request :=
    { subjectNodeId := "node_1", predicate := "HAS_ROLE", object := .literal .string (.string role), scopeNodeId := none
      basis, sensitivity := .personal, validFromUtc, validToUtc := none, observedAtUtc, topics := []
      searchText := ⟨utf16 "Ada", utf16 "HAS_ROLE", role, []⟩, evidence := [] }
  id

def engineerSinceJanuary (id : String) : AssertCall :=
  assertRole (utf16 "engineer") .passive_observation (some january) january id

def managerSinceMarch (id : String) : AssertCall := assertRole (utf16 "manager") .passive_observation (some march) march id

/-- A role since January that is closed by one since March. -/
theorem one_current_value_in_order : OneCurrentValue datedPlatform (run (assertStep datedPlatform) personGraph
    [engineerSinceJanuary "ast_1", managerSinceMarch "ast_2"]) := by
  refine one_current_value_if_windows_apart datedPlatform rfl ⟨?_, ?_, trivial⟩
  · intro relation key rival _ replaces
    obtain ⟨_, candidate⟩ := findExclusiveRival_eq_some replaces.isRival
    cases candidate.member
  · intro relation key rival accepted replaces _
    obtain ⟨_, candidate⟩ := findExclusiveRival_eq_some replaces.isRival
    have onlyFirst : ∀ row ∈ (assertStep datedPlatform personGraph (engineerSinceJanuary "ast_1")).assertions.rows,
        row.id = "ast_1" ∧ row.validFromUtc = some january := by
      decide +kernel
    have clear : ∀ (request : ValidatedAssertRequest) window, ClearOfOthers datedPlatform
        (assertStep datedPlatform personGraph (engineerSinceJanuary "ast_1")) request rival window := by
      intro request window other member different
      exact absurd ((onlyFirst other member).1.trans (onlyFirst rival candidate.member).1.symm) different
    refine ⟨clear _ _, fun _ => ⟨?_, fun _ => clear _ _⟩⟩
    have isJanuary : dateParse datedPlatform january = some 1767225600000 := by decide +kernel
    have isMarch : dateParse datedPlatform march = some 1772323200000 := by decide +kernel
    intro start stop isStart isStop
    rw [AssertionRow.window, (onlyFirst rival candidate.member).2] at isStart
    cases isJanuary.symm.trans isStart
    cases isMarch.symm.trans isStop
    decide

/-- A role since January that is asserted after one since March leaves the latter a window that ends before it starts. -/
theorem late_assertion_inverts_window :
    ¬ ∀ start calls, start.assertions.rows = [] → OneCurrentValue datedPlatform (run (assertStep datedPlatform) start calls) := by
  intro always
  have held := always personGraph [managerSinceMarch "ast_1", engineerSinceJanuary "ast_2"] rfl
  have inverted : ∃ row ∈ (run (assertStep datedPlatform) personGraph
      [managerSinceMarch "ast_1", engineerSinceJanuary "ast_2"]).assertions.rows,
      row.validFromUtc = some march ∧ row.validToUtc = some january := by decide +kernel
  obtain ⟨row, member, isFrom, isTo⟩ := inverted
  obtain ⟨start, stop, isStart, isStop, ordered⟩ := held.ordered row member march january isFrom isTo
  cases isStart.symm.trans (show _ = some 1772323200000 by decide +kernel)
  cases isStop.symm.trans (show _ = some 1767225600000 by decide +kernel)
  cases ordered

end SiftKit.Graph
