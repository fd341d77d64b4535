import SiftKit.Graph.ExclusiveValues

/-! # The history of memory

The calls of the assertion service add statements and retire them.  None is removed or rewritten, and a retired one stays
retired: what replaces it is a statement of its own.
-/

namespace SiftKit.Graph

open SiftKit.Failure SiftKit.Json SiftKit.Runs SiftKit.Tables SiftKit.Tables.IndexedTable

/-! ## Calls -/

/-- A call of the service, with what it finds around the graph and the id that it draws. -/
inductive ServiceCall where
  | assert (surroundings : Surroundings) (request : AssertRequest) (id : String)
  | correct (surroundings : Surroundings) (request : CorrectRequest) (id : String)
  | confirm (surroundings : Surroundings) (request : ConfirmRequest)
  | expire (assertionId : String)
  | forget (assertionId : String)
  | reject (assertionId : String)

def ServiceCall.perform (platform : TextPlatform) (state : GraphState) : ServiceCall → Except ErrorMessage GraphState
  | .assert surroundings request id => (state.assert platform surroundings request id).map Prod.snd
  | .correct surroundings request id => (state.correct platform surroundings request id).map Prod.snd
  | .confirm surroundings request => state.confirm surroundings request
  | .expire assertionId => state.expire assertionId
  | .forget assertionId => state.forget assertionId
  | .reject assertionId => state.reject assertionId

/-- A call that throws is rolled back. -/
def serve (platform : TextPlatform) (state : GraphState) (call : ServiceCall) : GraphState :=
  match call.perform platform state with
  | .ok after => after
  | .error _ => state

/-! ## What may become of a statement -/

structure Follows (before after : Statement) : Prop where
  same : { after with status := before.status, basis := before.basis, validToUtc := before.validToUtc } = before
  notRevived : after.isLive = true → before.isLive = true
  explicit : isExplicitBasis before.basis = true → isExplicitBasis after.basis = true
  closed : before.validToUtc.isSome = true → after.validToUtc.isSome = true

/-- Every statement is still in its place, and no id is given twice. -/
def Prolongs (before after : List Statement) : Prop :=
  (before.map Statement.id).Nodup →
    (∀ (place : Nat) statement, before[place]? = some statement → ∃ later, after[place]? = some later ∧ Follows statement later) ∧
    (after.map Statement.id).Nodup

structure KeepsHistory (before after : GraphState) : Prop where
  statements : Prolongs before.statements after.statements
  unique : (heldKeys before.statements).Nodup → (heldKeys after.statements).Nodup
  rest : after = { before with assertions := after.assertions }

/-- The corrected statement is not live, and another holds the value of the user. -/
structure Corrected (request : CorrectRequest) (newId : String) (statements : List Statement) : Prop where
  retired : ∃ statement ∈ statements, statement.id = request.assertionId ∧ statement.isLive = false
  replaced : ∃ statement ∈ statements, statement.id = newId ∧ statement.object = request.object ∧
    isExplicitBasis statement.basis = true

/-- What a run keeps, and that what was corrected in it stays so. -/
structure KeepsMemory (platform : TextPlatform) (state : GraphState) (calls : List ServiceCall) : Prop where
  history : KeepsHistory state (run (serve platform) state calls)
  corrections : ∀ early surroundings request newId late answer, calls = early ++ .correct surroundings request newId :: late →
    (run (serve platform) state early).correct platform surroundings request newId = .ok answer →
    Corrected request newId (run (serve platform) state calls).statements

variable {before middle after : List Statement} {statement : Statement} {id : String}

theorem Follows.refl (statement : Statement) : Follows statement statement := ⟨rfl, fun live => live, fun held => held, fun set => set⟩

theorem Follows.id_eq {later : Statement} (follows : Follows statement later) : later.id = statement.id := by
  rw [← follows.same]

theorem Follows.trans {first second third : Statement} (early : Follows first second) (late : Follows second third) :
    Follows first third := by
  refine ⟨?_, fun live => early.notRevived (late.notRevived live), fun held => late.explicit (early.explicit held),
    fun set => late.closed (early.closed set)⟩
  have same := early.same
  rw [← late.same] at same
  exact same

theorem Prolongs.refl (statements : List Statement) : Prolongs statements statements := fun distinct =>
  ⟨fun _ statement found => ⟨statement, found, .refl statement⟩, distinct⟩

theorem Prolongs.trans (early : Prolongs before middle) (late : Prolongs middle after) : Prolongs before after := by
  intro distinct
  obtain ⟨kept, still⟩ := early distinct
  obtain ⟨keptLater, stillLater⟩ := late still
  refine ⟨?_, stillLater⟩
  intro place statement found
  obtain ⟨between, isBetween, follows⟩ := kept place statement found
  obtain ⟨later, isLater, followsOn⟩ := keptLater place between isBetween
  exact ⟨later, isLater, follows.trans followsOn⟩

theorem prolongs_append (fresh : ∀ other ∈ before, other.id ≠ statement.id) : Prolongs before (before ++ [statement]) := by
  intro distinct
  constructor
  · intro place other found
    refine ⟨other, ?_, .refl other⟩
    rw [List.getElem?_append_left (List.getElem?_eq_some_iff.mp found).1]
    exact found
  · simpa [List.nodup_append, distinct] using fresh

theorem prolongs_restate {rewrite : Statement → Statement} (keepsId : ∀ statement, (rewrite statement).id = statement.id)
    (follows : (before.map Statement.id).Nodup → ∀ statement ∈ before, statement.id = id → Follows statement (rewrite statement)) :
    Prolongs before (restate id rewrite before) := by
  intro distinct
  refine ⟨?_, nodup_restate distinct keepsId⟩
  intro place statement found
  refine ⟨if statement.id = id then rewrite statement else statement, by simp [restate, updateWhere, found], ?_⟩
  split
  next isId => exact follows distinct statement (List.mem_of_getElem? found) isId
  next => exact .refl statement

variable {status : AssertionStatus}

/-- A status revives no statement if it is not live, or given to live ones. -/
theorem prolongs_status (live : status.isLive = true →
    (before.map Statement.id).Nodup → ∀ statement ∈ before, statement.id = id → statement.isLive = true) :
    Prolongs before (restate id (fun statement => { statement with status }) before) := by
  refine prolongs_restate (fun _ => by rfl) fun distinct statement member isId => ?_
  exact ⟨rfl, fun isLive => live isLive distinct statement member isId, fun held => held, fun set => set⟩

theorem prolongs_retired (notLive : status.isLive = false) :
    Prolongs before (restate id (fun statement => { statement with status }) before) :=
  prolongs_status fun live => absurd live (Bool.eq_false_iff.mp notLive)

/-! ## What one call keeps -/

section

variable {platform : TextPlatform} {surroundings : Surroundings} {state later : GraphState} {newId : String}

theorem Becomes.keepsHistory (becomes : Becomes state after later) (prolonged : Prolongs state.statements after) :
    KeepsHistory state later := by
  refine ⟨?_, fun _ => ?_, becomes.rest⟩ <;> rw [becomes.stated]
  · exact prolonged
  · exact becomes.unique

/-- Only a live rival is disputed, so nothing is revived. -/
theorem Settles.prolongs {request : ValidatedAssertRequest} (fresh : ∀ statement ∈ state.statements, statement.id ≠ newId)
    (settles : Settles platform surroundings state request newId after) : Prolongs state.statements after := by
  cases settles with
  | created => exact prolongs_append fresh
  | closed =>
    refine (prolongs_restate (fun _ => by rfl) fun _ _ _ _ => ?_).trans (prolongs_append (fresh_restate fresh fun _ => by rfl))
    exact ⟨rfl, fun live => live, fun held => held, fun _ => rfl⟩
  | @disputed key rival replaces =>
    have candidate := (findExclusiveRival_eq_some replaces.isRival).2
    have marked : Prolongs state.statements
        (restate rival.id (fun statement => { statement with status := .disputed }) state.statements) := by
      refine prolongs_status fun _ distinct statement member isRival => ?_
      rw [List.inj_on_of_nodup_map distinct member (mem_statements.mpr ⟨rival, candidate.member, rfl⟩) isRival]
      exact candidate.isLive
    have restatedFresh : ∀ other ∈ restate rival.id (fun statement => { statement with status := .disputed }) state.statements,
        other.id ≠ newId := fresh_restate fresh fun _ => rfl
    -- the new statement was live until it was disputed
    refine (marked.trans (prolongs_append restatedFresh)).trans (prolongs_status fun _ _ statement member isNew => ?_)
    cases List.mem_append.mp member with
    | inl old => exact absurd isNew (restatedFresh statement old)
    | inr new =>
      rw [List.mem_singleton.mp new]
      rfl
  | superseded => exact (prolongs_append fresh).trans (prolongs_retired rfl)

theorem correct_becomes {request : CorrectRequest} {answer : AssertionWriteOutcome × GraphState}
    (corrected : state.correct platform surroundings request newId = .ok answer) :
    Corrected request newId answer.2.statements ∧ KeepsHistory state answer.2 := by
  simp only [GraphState.correct, bind_eq_ok, pure_eq_ok, GraphState.requireAssertion_eq_ok] at corrected
  obtain ⟨existing, found, written, isWritten, retired, isRetired, rfl⟩ := corrected
  obtain ⟨member, isId⟩ := id_of_get? found
  have stated : existing.statement ∈ state.statements := mem_statements.mpr ⟨existing, member, rfl⟩
  obtain ⟨key, _, canWrite, first⟩ := GraphState.writeAssertion_becomes isWritten
  have second := GraphState.retireAssertion_becomes isRetired
  rw [first.stated] at second
  have becomes := first.trans second
  refine ⟨?_, becomes.keepsHistory ((prolongs_append canWrite.fresh).trans (prolongs_retired rfl))⟩
  rw [becomes.stated]
  have other : newId ≠ existing.id := (canWrite.fresh _ stated).symm
  constructor
  · exact ⟨_, mem_restate.mpr ⟨_, List.mem_append_left _ stated, (if_pos rfl).symm⟩, isId, rfl⟩
  · exact ⟨_, mem_restate.mpr ⟨_, List.mem_append_right _ (List.mem_singleton_self _), (if_neg other).symm⟩, rfl, rfl, rfl⟩

theorem changeStatus_keeps (notLive : status.isLive = false)
    (changed : state.changeStatus id status = .ok later) : KeepsHistory state later := by
  simp only [GraphState.changeStatus, bind_eq_ok] at changed
  obtain ⟨_, _, retired⟩ := changed
  exact (GraphState.retireAssertion_becomes retired).keepsHistory (prolongs_retired notLive)

theorem keepsHistory_serve (platform : TextPlatform) (state : GraphState) (call : ServiceCall) :
    KeepsHistory state (serve platform state call) := by
  have unchanged : KeepsHistory state state := ⟨.refl _, fun unique => unique, rfl⟩
  unfold serve
  split
  next later performed =>
    cases call with
    | assert surroundings request newId =>
      obtain ⟨⟨outcome, _⟩, asserted, rfl⟩ := map_eq_ok.mp performed
      obtain rfl | ⟨_, _, settled⟩ := GraphState.assert_cases asserted
      · exact unchanged
      obtain rfl | becomes | ⟨_, canWrite, settles, becomes⟩ := GraphState.settle_cases settled
      · exact unchanged
      · exact becomes.keepsHistory (.refl _)
      · exact becomes.keepsHistory (settles.prolongs canWrite.fresh)
    | correct surroundings request newId =>
      obtain ⟨_, corrected, rfl⟩ := map_eq_ok.mp performed
      exact (correct_becomes corrected).2
    | confirm surroundings request =>
      simp only [ServiceCall.perform, GraphState.confirm, bind_eq_ok] at performed
      obtain ⟨_, _, confirmed, isConfirmed, _, _, applied⟩ := performed
      have first : Becomes state (restate _ (fun statement => { statement with basis := .explicit_question_answer })
          state.statements) confirmed := GraphState.updateAssertion_becomes isConfirmed fun _ => rfl
      have second := GraphState.applyConfidence_becomes applied
      rw [first.stated] at second
      refine (first.trans second).keepsHistory (prolongs_restate (fun _ => by rfl) fun _ _ _ _ => ?_)
      exact ⟨rfl, fun live => live, fun _ => rfl, fun set => set⟩
    | expire | forget | reject => exact changeStatus_keeps rfl performed
  next => exact unchanged

end

/-! ## Runs -/

theorem Prolongs.corrected {request : CorrectRequest} {newId : String} (prolonged : Prolongs before after)
    (distinct : (before.map Statement.id).Nodup) (corrected : Corrected request newId before) :
    Corrected request newId after := by
  have kept : ∀ statement ∈ before, ∃ later ∈ after, Follows statement later := by
    intro statement member
    obtain ⟨place, found⟩ := List.mem_iff_getElem?.mp member
    obtain ⟨later, isLater, follows⟩ := (prolonged distinct).1 place statement found
    exact ⟨later, List.mem_of_getElem? isLater, follows⟩
  obtain ⟨old, oldMember, isOld, notLive⟩ := corrected.retired
  obtain ⟨new, newMember, isNew, isObject, explicit⟩ := corrected.replaced
  obtain ⟨oldLater, oldLaterMember, oldFollows⟩ := kept old oldMember
  obtain ⟨newLater, newLaterMember, newFollows⟩ := kept new newMember
  refine ⟨⟨oldLater, oldLaterMember, oldFollows.id_eq.trans isOld, ?_⟩,
    ⟨newLater, newLaterMember, newFollows.id_eq.trans isNew, ?_, newFollows.explicit explicit⟩⟩
  · exact Bool.eq_false_iff.mpr fun live => Bool.eq_false_iff.mp notLive (oldFollows.notRevived live)
  · rw [← isObject, ← newFollows.same]

/-- Calls that fail, and corrections of what is retired already, are among the calls. -/
theorem memory_history_is_kept (platform : TextPlatform) {state : GraphState}
    (distinct : (state.statements.map Statement.id).Nodup) (calls : List ServiceCall) : KeepsMemory platform state calls := by
  have history : ∀ start calls, KeepsHistory start (run (serve platform) start calls) := by
    apply run_related KeepsHistory
    · exact fun _ => ⟨.refl _, fun unique => unique, rfl⟩
    · intro first second third early late
      refine ⟨early.statements.trans late.statements, fun unique => late.unique (early.unique unique), ?_⟩
      rw [late.rest, early.rest]
    · exact keepsHistory_serve platform
  refine ⟨history state calls, ?_⟩
  -- the correction holds once it is made, and what comes later keeps it
  rintro early surroundings request newId late answer rfl succeeded
  obtain ⟨corrected, keeps⟩ := correct_becomes succeeded
  have served : serve platform (run (serve platform) state early) (.correct surroundings request newId) = answer.2 := by
    simp [serve, ServiceCall.perform, succeeded, Except.map]
  rw [run_append, run_cons, served]
  have stillDistinct := (keeps.statements ((history state early).statements distinct).2).2
  exact (history answer.2 late).statements.corrected stillDistinct corrected

/-- A role that is observed and then corrected. -/
theorem memory_history_is_kept_of_correction : KeepsMemory datedPlatform personGraph
    [.assert sampleSurroundings (engineerSinceJanuary "ast_1").request "ast_1",
      .correct sampleSurroundings ⟨"ast_1", .literal .string (.string (utf16 "manager")), march, "ev_1", ⟨[], [], [], []⟩⟩ "ast_2"] :=
  @memory_history_is_kept datedPlatform personGraph List.nodup_nil _

end SiftKit.Graph
