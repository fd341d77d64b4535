import SiftKit.Graph.MemoryHistory
import SiftKit.Graph.SearchIndexContract

/-! # What the assertion service asks of the stores

Every call of the service is a run of store calls by the rules under which the indexes mirror the graph.  A dispute
meets them for two reasons: its rival is live, and the new statement has an id of its own.
-/

namespace SiftKit.Graph

open SiftKit.Failure SiftKit.Runs SiftKit.Tables.IndexedTable GraphState

/-- Some calls of the stores, each by the rules for services. -/
def AsksStores (platform : TextPlatform) (before after : GraphState) : Prop :=
  ∃ calls, Reaches (MirroringStep platform) before calls after

/-- A call of the service, or one that another service makes to the stores. -/
def MemoryStep (platform : TextPlatform) (before : GraphState) : ServiceCall ⊕ StoreCall → GraphState → Prop
  | .inl call, after => after = serve platform before call
  | .inr call, after => MirroringStep platform before call after

variable {platform : TextPlatform} {surroundings : Surroundings} {state middle after : GraphState}
  {request : ValidatedAssertRequest} {rival : AssertionRow} {assertionId newId : String} {outcome : AssertionWriteOutcome}
  {supersedes : Option String} {userCorrected : Bool}

namespace AsksStores

theorem refl (state : GraphState) : AsksStores platform state state := ⟨[], .start⟩

theorem trans (early : AsksStores platform state middle) (late : AsksStores platform middle after) :
    AsksStores platform state after := by
  obtain ⟨first, reached⟩ := early
  obtain ⟨second, reachedThen⟩ := late
  exact ⟨first ++ second, reached.trans reachedThen⟩

theorem once (call : StoreCall) (isService : call.IsServiceCall state) (keepsFloor : call.KeepsFloor state)
    (performed : call.perform platform state = .ok after) : AsksStores platform state after :=
  ⟨[call], .first ⟨isService, keepsFloor, performed⟩ .start⟩

theorem indexInvariant (asks : AsksStores platform state after) (invariant : state.IndexInvariant) : after.IndexInvariant := by
  obtain ⟨calls, reached⟩ := asks
  apply reached.invariant IndexInvariant invariant
  intro before call later held taken
  exact held.step taken

/-! ## Writes of the service -/

theorem retire {status : AssertionStatus} (notLive : status.isLive = false)
    (retired : state.retireAssertion assertionId status = .ok after) : AsksStores platform state after :=
  once (.retireAssertion assertionId status) notLive trivial retired

theorem changeStatus {status : AssertionStatus} (notLive : status.isLive = false)
    (changed : state.changeStatus assertionId status = .ok after) : AsksStores platform state after := by
  simp only [GraphState.changeStatus, bind_eq_ok] at changed
  obtain ⟨_, _, retired⟩ := changed
  exact retire notLive retired

/-- What is disputed was live. -/
theorem dispute (live : ∀ statement ∈ state.statements, statement.id = assertionId → statement.isLive = true)
    (marked : state.setStatus assertionId .disputed = .ok after) : AsksStores platform state after := by
  refine once (.setStatus assertionId .disputed) ⟨rfl, fun row found => ?_⟩ trivial marked
  obtain ⟨member, isId⟩ := id_of_get? found
  exact live row.statement (mem_statements.mpr ⟨row, member, rfl⟩) isId

theorem applyConfidence (applied : state.applyConfidence surroundings assertionId userCorrected = .ok after) :
    AsksStores platform state after := by
  simp only [GraphState.applyConfidence, bind_eq_ok] at applied
  obtain ⟨_, _, confidence, _, updated⟩ := applied
  exact once (.setConfidence assertionId confidence) trivial trivial updated

theorem write (written : state.writeAssertion platform surroundings request supersedes userCorrected newId = .ok after) :
    AsksStores platform state after := by
  simp only [writeAssertion, bind_eq_ok] at written
  obtain ⟨created, isCreated, _, _, applied⟩ := written
  exact (once (.createAssertion _ newId surroundings.nowUtc) trivial trivial isCreated).trans (applyConfidence applied)

theorem supersede (superseded : state.supersede platform surroundings rival request newId = .ok (outcome, after)) :
    AsksStores platform state after := by
  simp only [GraphState.supersede, bind_eq_ok, pure_eq_ok, Prod.mk.injEq] at superseded
  obtain ⟨created, written, retired, isRetired, _, rfl⟩ := superseded
  exact (write written).trans (retire rfl isRetired)

/-! ## A proposal -/

theorem disputeRival (invariant : state.IndexInvariant) (member : rival ∈ state.assertions.rows) (isLive : rival.isLive = true)
    (disputed : state.dispute platform surroundings rival request newId = .ok (outcome, after)) :
    AsksStores platform state after := by
  simp only [GraphState.dispute, bind_eq_ok, pure_eq_ok, Prod.mk.injEq] at disputed
  obtain ⟨marked, isMarked, created, written, both, isBoth, _, rfl⟩ := disputed
  have first : AsksStores platform state marked := by
    refine dispute (fun statement isStatement isRival => ?_) isMarked
    obtain ⟨row, rowMember, rfl⟩ := mem_statements.mp isStatement
    rw [invariant.assertions.tracked.row_unique rowMember member isRival]
    exact isLive
  -- every statement under the new id is the new one, which was just written as active
  obtain ⟨_, _, canWrite, becomes⟩ := writeAssertion_becomes written
  refine (first.trans (write written)).trans (dispute (fun statement isStatement isNew => ?_) isBoth)
  rw [becomes.stated] at isStatement
  cases List.mem_append.mp isStatement with
  | inl old => exact absurd isNew (canWrite.fresh statement old)
  | inr new =>
    rw [List.mem_singleton.mp new]
    rfl

theorem closeTemporally (closed : state.closeTemporally platform surroundings rival request newId = .ok (outcome, after)) :
    AsksStores platform state after := by
  unfold GraphState.closeTemporally at closed
  split at closed
  next => exact supersede closed
  next validFrom _ =>
    simp only [createNew, bind_eq_ok, pure_eq_ok, Prod.mk.injEq] at closed
    obtain ⟨ended, isEnded, _, ⟨created, written, rfl⟩, _, rfl⟩ := closed
    exact (once (.closeValidity rival.id validFrom) trivial trivial isEnded).trans (write written)

theorem settle (invariant : state.IndexInvariant)
    (settled : state.settle platform surroundings request newId = .ok (outcome, after)) : AsksStores platform state after := by
  simp only [GraphState.settle, bind_eq_ok] at settled
  obtain ⟨_, _, settled⟩ := settled
  split at settled
  next sameKey _ =>
    simp only [reinforce, bind_eq_ok, pure_eq_ok, Prod.mk.injEq] at settled
    obtain ⟨observed, isObserved, _, _, confident, applied, _, rfl⟩ := settled
    exact (once (.recordObservation sameKey.id request.observedAtUtc) trivial trivial isObserved).trans (applyConfidence applied)
  next =>
    split at settled
    next =>
      simp only [createNew, bind_eq_ok, pure_eq_ok, Prod.mk.injEq] at settled
      obtain ⟨created, written, _, rfl⟩ := settled
      exact write written
    next rival isRival =>
      have candidate := (findExclusiveRival_eq_some isRival).2
      split at settled
      next =>
        simp only [pure_eq_ok, Prod.mk.injEq] at settled
        exact settled.2 ▸ refl state
      next =>
        split at settled
        next =>
          simp only [recordContradiction, bind_eq_ok, pure_eq_ok, Prod.mk.injEq] at settled
          obtain ⟨_, _, confident, applied, _, rfl⟩ := settled
          exact applyConfidence applied
        next =>
          split at settled
          next => exact closeTemporally settled
          next =>
            split at settled
            next => exact disputeRival invariant candidate.member candidate.isLive settled
            next => exact supersede settled

/-! ## Calls and runs -/

theorem serve (invariant : state.IndexInvariant) (call : ServiceCall) :
    AsksStores platform state (serve platform state call) := by
  unfold Graph.serve
  split
  next later performed =>
    cases call with
    | assert surroundings request newId =>
      obtain ⟨⟨outcome, _⟩, asserted, rfl⟩ := map_eq_ok.mp performed
      obtain rfl | ⟨_, _, settled⟩ := assert_cases asserted
      · exact refl _
      · exact settle invariant settled
    | correct surroundings request newId =>
      obtain ⟨_, corrected, rfl⟩ := map_eq_ok.mp performed
      simp only [correct, bind_eq_ok, pure_eq_ok] at corrected
      obtain ⟨_, _, written, isWritten, retired, isRetired, rfl⟩ := corrected
      exact (write isWritten).trans (retire rfl isRetired)
    | confirm surroundings request =>
      simp only [ServiceCall.perform, confirm, bind_eq_ok] at performed
      obtain ⟨_, _, confirmed, isConfirmed, _, _, applied⟩ := performed
      exact (once (.setBasis request.assertionId .explicit_question_answer) trivial trivial isConfirmed).trans
        (applyConfidence applied)
    | expire | forget | reject => exact changeStatus rfl performed
  next => exact refl state

end AsksStores

end SiftKit.Graph
