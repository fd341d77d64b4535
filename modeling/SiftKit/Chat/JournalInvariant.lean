import SiftKit.Chat.JournalEffects

/-! # What every journal keeps

The sequences of a run count its events, whatever was written can be read back, and what was settled
stays: the events, the engine binding, and the terminal cause with everything before it.
-/

namespace SiftKit.Chat.ChatJournalStore

open SiftKit.Json SiftKit.Failure SiftKit.Tables SiftKit.Runs

variable {format : JournalFormat} {store after : ChatJournalStore}

/-- The events of a run, in the order they were appended. -/
def eventsOf (store : ChatJournalStore) (operationId : String) : List EventRow :=
  store.events.filter fun row => row.operationId == operationId

def operationIds (store : ChatJournalStore) : List String := store.runs.map fun row => row.operationId

def eventKeys (store : ChatJournalStore) : List (String × String) := store.events.map fun row => (row.operationId, row.eventId)

structure WellFormed (format : JournalFormat) (store : ChatJournalStore) : Prop where
  once : store.operationIds.Nodup
  reads : ∀ row ∈ store.runs, ReadsBack format row
  numbered : ∀ row ∈ store.runs,
    (store.eventsOf row.operationId).map EventRow.sequence = List.range' 1 row.latestSequence
  projected : ∀ row ∈ store.runs, row.projectedSequence ≤ row.latestSequence
  known : ∀ event ∈ store.events, event.operationId ∈ store.operationIds
  eventIds : store.eventKeys.Nodup
  holds : ∀ row ∈ store.events, ∃ event, Holds format row event

theorem wellFormed_empty (format : JournalFormat) : WellFormed format empty := by
  constructor
  · exact .nil
  · intro row member
    cases member
  · intro row member
    cases member
  · intro row member
    cases member
  · intro row member
    cases member
  · exact .nil
  · intro row member
    cases member

/-! ## The row of a run -/

variable {row : RunRow}

theorem IsRow.mem {operationId : String} (isRow : IsRow store operationId row) : row ∈ store.runs :=
  List.mem_of_find?_eq_some isRow

theorem IsRow.operationId {operationId : String} (isRow : IsRow store operationId row) :
    row.operationId = operationId := by
  simpa [isRun] using List.find?_some isRow

theorem WellFormed.row_unique (wellFormed : WellFormed format store) {other : RunRow} (member : row ∈ store.runs)
    (otherMember : other ∈ store.runs) (same : row.operationId = other.operationId) : row = other :=
  List.inj_on_of_nodup_map wellFormed.once member otherMember same

theorem WellFormed.isRow (wellFormed : WellFormed format store) (member : row ∈ store.runs) :
    IsRow store row.operationId row := by
  cases found : store.runs.find? (isRun row.operationId) with
  | none =>
    have absent := List.find?_eq_none.mp found row member
    simp [isRun] at absent
  | some other =>
    have own := IsRow.operationId found
    rw [wellFormed.row_unique (IsRow.mem found) member own] at found
    exact found

/-! ## Updates of runs -/

/-- A rewriting of a run that touches neither its id nor its events. -/
structure KeepsEvents (rewrite : RunRow → RunRow) : Prop where
  operationId : ∀ row, (rewrite row).operationId = row.operationId
  latestSequence : ∀ row, (rewrite row).latestSequence = row.latestSequence

theorem keepsEvents_bindRow (binding : ChatEngineBinding) : KeepsEvents (bindRow binding) := ⟨fun _ => rfl, fun _ => rfl⟩

theorem keepsEvents_finishRow (outcome : ChatRunFinish) : KeepsEvents (finishRow outcome) := ⟨fun _ => rfl, fun _ => rfl⟩

theorem keepsEvents_projectRow (checkpoint : ChatProjectionCheckpoint) : KeepsEvents (projectRow checkpoint) :=
  ⟨fun _ => rfl, fun _ => rfl⟩

theorem keepsEvents_reviseRow (checkpoint : ChatContextCheckpoint) : KeepsEvents (reviseRow checkpoint) :=
  ⟨fun _ => rfl, fun _ => rfl⟩

theorem keepsEvents_adoptRow (ownerEpoch : String) : KeepsEvents (adoptRow ownerEpoch) := ⟨fun _ => rfl, fun _ => rfl⟩

theorem WellFormed.selected (wellFormed : WellFormed format store) {operationId : String} {other : RunRow}
    (isRow : IsRow store operationId row) (member : other ∈ store.runs) (selected : isRun operationId other = true) : other = row :=
  wellFormed.row_unique member isRow.mem ((beq_iff_eq.mp selected).trans isRow.operationId.symm)

theorem WellFormed.update (wellFormed : WellFormed format store) {selects : RunRow → Bool} {rewrite : RunRow → RunRow}
    (keeps : KeepsEvents rewrite) (reads : ∀ row ∈ store.runs, selects row = true → ReadsBack format (rewrite row))
    (projected : ∀ row ∈ store.runs, selects row = true → (rewrite row).projectedSequence ≤ row.latestSequence) :
    WellFormed format { store with runs := updateWhere selects rewrite store.runs } := by
  have ids : (updateWhere selects rewrite store.runs).map (fun row => row.operationId) = store.operationIds :=
    map_updateWhere fun row _ _ => keeps.operationId row
  constructor
  · rw [operationIds, ids]
    exact wellFormed.once
  · intro row member
    obtain ⟨before, beforeMember, rfl⟩ := mem_updateWhere.mp member
    split
    next selected => exact reads before beforeMember selected
    · exact wellFormed.reads before beforeMember
  · intro row member
    obtain ⟨before, beforeMember, rfl⟩ := mem_updateWhere.mp member
    have numbered := wellFormed.numbered before beforeMember
    split
    · rw [keeps.operationId, keeps.latestSequence]
      exact numbered
    · exact numbered
  · intro row member
    obtain ⟨before, beforeMember, rfl⟩ := mem_updateWhere.mp member
    split
    next selected =>
      rw [keeps.latestSequence]
      exact projected before beforeMember selected
    · exact wellFormed.projected before beforeMember
  · rw [operationIds, ids]
    exact wellFormed.known
  · exact wellFormed.eventIds
  · exact wellFormed.holds

/-! ## Events -/

theorem eventsOf_withEvent (store : ChatJournalStore) (row : EventRow) (operationId : String) :
    (store.withEvent row).eventsOf operationId =
      store.eventsOf operationId ++ if row.operationId = operationId then [row] else [] := by
  unfold withEvent updateRun eventsOf
  rw [List.filter_append, List.filter_singleton]
  by_cases own : row.operationId = operationId
  · simp [own]
  · simp [own, beq_false_of_ne own]

theorem WellFormed.append (wellFormed : WellFormed format store) {run : RunRow} {write : ChatJournalAppend} {row : EventRow}
    (isRow : IsRow store write.operationId run) (isNext : IsNextEvent format store run write row) :
    WellFormed format (store.withEvent row) := by
  have ids : (store.withEvent row).operationIds = store.operationIds := map_updateWhere fun _ _ _ => rfl
  have own : run.operationId = row.operationId := by rw [isRow.operationId, isNext.operationId]
  constructor
  · rw [ids]
    exact wellFormed.once
  · intro next member
    obtain ⟨before, beforeMember, rfl⟩ := mem_updateWhere.mp member
    have reads := wellFormed.reads before beforeMember
    split
    · refine reads.rewrite rfl rfl fun accepted => ?_
      simp only [ChatRunColumns.accepts, Bool.and_eq_true] at accepted ⊢
      exact ⟨accepted.1, isNext.dated⟩
    · exact reads
  · intro next member
    rw [eventsOf_withEvent]
    obtain ⟨before, beforeMember, rfl⟩ := mem_updateWhere.mp member
    have numbered := wellFormed.numbered before beforeMember
    by_cases same : before.operationId = row.operationId
    · -- The run of the event: its events count one further.
      obtain rfl := wellFormed.row_unique beforeMember isRow.mem (same.trans own.symm)
      rw [if_pos (by simp [isRun, same]), advanceRow, if_pos same.symm, List.map_append, List.map_singleton, numbered,
        isNext.sequence, List.range'_concat]
      simp [Nat.add_comm]
    · rw [if_neg (by simpa [isRun] using same), if_neg (Ne.symm same), List.append_nil]
      exact numbered
  · intro next member
    obtain ⟨before, beforeMember, rfl⟩ := mem_updateWhere.mp member
    have projected := wellFormed.projected before beforeMember
    split
    next selected =>
      have same : before.operationId = row.operationId := by simpa [isRun] using selected
      obtain rfl := wellFormed.row_unique beforeMember isRow.mem (same.trans own.symm)
      have sequence := isNext.sequence
      simp only [advanceRow]
      omega
    · exact projected
  · rw [ids]
    exact forall_mem_snoc.mpr ⟨wellFormed.known, own ▸ List.mem_map.mpr ⟨run, isRow.mem, rfl⟩⟩
  · apply nodup_map_snoc wellFormed.eventIds
    intro other otherMember same
    obtain ⟨sameOperation, sameId⟩ := Prod.mk.inj same
    have different := isNext.fresh other otherMember
    rw [isNext.operationId] at sameOperation
    rw [isNext.eventId] at sameId
    simp [isEvent, sameOperation, sameId] at different
  · obtain ⟨held, _, holds⟩ := isNext.holds
    exact forall_mem_snoc.mpr ⟨wellFormed.holds, held, holds⟩

theorem absent_of_fresh (fresh : ∀ other ∈ store.runs, runsConflict row other = false) :
    row.operationId ∉ store.operationIds := by
  intro member
  obtain ⟨other, otherMember, same⟩ := List.mem_map.mp member
  have distinct := fresh other otherMember
  simp [runsConflict, same] at distinct

theorem eventsOf_unknown (wellFormed : WellFormed format store) {operationId : String} (absent : operationId ∉ store.operationIds) :
    store.eventsOf operationId = [] := by
  apply List.filter_eq_nil_iff.mpr
  intro event member own
  rw [beq_iff_eq] at own
  exact absent (own ▸ wellFormed.known event member)

theorem WellFormed.begin (wellFormed : WellFormed format store) {start : ChatRunStart}
    (fresh : ∀ other ∈ store.runs, runsConflict (store.startRow start) other = false)
    (reads : ReadsBack format (store.startRow start)) :
    WellFormed format { store with runs := store.runs ++ [store.startRow start] } := by
  have absent := absent_of_fresh fresh
  constructor
  · apply nodup_map_snoc wellFormed.once
    intro other member same
    exact absent (List.mem_map.mpr ⟨other, member, same⟩)
  · exact forall_mem_snoc.mpr ⟨wellFormed.reads, reads⟩
  · have none := eventsOf_unknown wellFormed absent
    refine forall_mem_snoc.mpr ⟨wellFormed.numbered, ?_⟩
    unfold eventsOf at none ⊢
    rw [none]
    rfl
  · exact forall_mem_snoc.mpr ⟨wellFormed.projected, Nat.le_refl 0⟩
  · intro event member
    unfold operationIds
    rw [List.map_append]
    exact List.mem_append_left _ (wellFormed.known event member)
  · exact wellFormed.eventIds
  · exact wellFormed.holds

theorem ownerEpoch_ne_empty (row : OwnerRow) : row.ownerEpoch.isEmpty = false := by
  have colon : ':' ∈ row.ownerEpoch.toList := by
    simp [OwnerRow.ownerEpoch, ownerEpoch]
  cases empty : row.ownerEpoch.isEmpty with
  | false => rfl
  | true =>
    rw [String.isEmpty_iff.mp empty] at colon
    cases colon

theorem WellFormed.effect (wellFormed : WellFormed format store) {call : JournalCall} (effect : Effect format store call after) :
    WellFormed format after := by
  cases effect with
  | nothing => exact wellFormed
  | begun _ fresh reads => exact wellFormed.begin fresh reads
  | @bound binding _ row isRow _ _ reads =>
    apply wellFormed.update (keepsEvents_bindRow _)
    · intro other member selected
      obtain rfl := wellFormed.selected isRow member selected
      exact reads
    · intro other member _
      exact wellFormed.projected other member
  | appended isRow _ _ isNext => exact wellFormed.append isRow isNext
  | @finished outcome _ row isRow _ _ reads =>
    apply wellFormed.update (keepsEvents_finishRow _)
    · intro other member selected
      obtain rfl := wellFormed.selected isRow member selected
      exact reads
    · intro other member _
      exact wellFormed.projected other member
  | projected isRow committed =>
    apply wellFormed.update (keepsEvents_projectRow _)
    · intro other member _
      exact (wellFormed.reads other member).rewrite rfl rfl fun accepted => accepted
    · intro other member selected
      obtain rfl := wellFormed.selected isRow member selected
      exact committed
  | revised =>
    apply wellFormed.update (keepsEvents_reviseRow _)
    · intro other member _
      exact (wellFormed.reads other member).rewrite rfl rfl fun accepted => accepted
    · intro other member _
      exact wellFormed.projected other member
  | @adopted _ _ _ owner _ same =>
    apply wellFormed.update (keepsEvents_adoptRow _)
    · intro other member _
      refine (wellFormed.reads other member).rewrite rfl rfl fun accepted => ?_
      have given := ownerEpoch_ne_empty owner
      rw [same] at given
      simp only [ChatRunColumns.accepts, Bool.and_eq_true, Bool.not_eq_true'] at accepted ⊢
      obtain ⟨⟨⟨others, _⟩, created⟩, updated⟩ := accepted
      exact ⟨⟨⟨others, given⟩, created⟩, updated⟩
    · intro other member _
      exact wellFormed.projected other member
  | ownerWritten => exact ⟨wellFormed.once, wellFormed.reads, wellFormed.numbered, wellFormed.projected, wellFormed.known,
      wellFormed.eventIds, wellFormed.holds⟩

theorem wellFormed_run (format : JournalFormat) (calls : List JournalCall) : WellFormed format (run (perform format) empty calls) :=
  run_invariant (WellFormed format) (fun store call wellFormed => wellFormed.effect (effect_of_call format store call))
    (wellFormed_empty format) calls

/-! ## What was settled stays -/

/-- What becomes of the row of a run. -/
structure Follows (row next : RunRow) : Prop where
  operationId : next.operationId = row.operationId
  binding : row.requestId ≠ none ∨ row.repoAgentSessionId ≠ none →
    next.requestId = row.requestId ∧ next.repoAgentSessionId = row.repoAgentSessionId
  terminalCause : row.terminalCause ≠ none → next.terminalCause = row.terminalCause

theorem Follows.refl (row : RunRow) : Follows row row := ⟨rfl, fun _ => ⟨rfl, rfl⟩, fun _ => rfl⟩

theorem Follows.trans {next last : RunRow} (early : Follows row next)
    (late : Follows next last) : Follows row last := by
  constructor
  · rw [late.operationId, early.operationId]
  · intro isBound
    obtain ⟨request, session⟩ := early.binding isBound
    rw [← request, ← session] at isBound ⊢
    exact late.binding isBound
  · intro ended
    have cause := early.terminalCause ended
    rw [← cause] at ended ⊢
    exact late.terminalCause ended

/-- What one store keeps of an earlier one: its events in their places, and no more than these in a
run that had ended. -/
structure Keeps (store after : ChatJournalStore) : Prop where
  runs : ∀ row ∈ store.runs, ∃ next ∈ after.runs, Follows row next
  events : ∀ operationId, store.eventsOf operationId <+: after.eventsOf operationId
  ended : ∀ row ∈ store.runs, row.terminalCause ≠ none →
    after.eventsOf row.operationId = store.eventsOf row.operationId

theorem Keeps.refl (store : ChatJournalStore) : Keeps store store :=
  ⟨fun row member => ⟨row, member, .refl row⟩, fun _ => List.prefix_rfl, fun _ _ _ => rfl⟩

theorem Keeps.trans {last : ChatJournalStore} (early : Keeps store after) (late : Keeps after last) : Keeps store last := by
  constructor
  · intro row member
    obtain ⟨next, nextMember, follows⟩ := early.runs row member
    obtain ⟨final, finalMember, followsNext⟩ := late.runs next nextMember
    exact ⟨final, finalMember, follows.trans followsNext⟩
  · intro operationId
    exact (early.events operationId).trans (late.events operationId)
  · intro row member ended
    obtain ⟨next, nextMember, follows⟩ := early.runs row member
    have nextEnded : next.terminalCause ≠ none := by
      rw [follows.terminalCause ended]
      exact ended
    rw [← early.ended row member ended, ← follows.operationId]
    exact late.ended next nextMember nextEnded

theorem keeps_update {selects : RunRow → Bool} {rewrite : RunRow → RunRow}
    (follows : ∀ row ∈ store.runs, selects row = true → Follows row (rewrite row)) :
    Keeps store { store with runs := updateWhere selects rewrite store.runs } := by
  refine ⟨fun row member => ?_, fun _ => List.prefix_rfl, fun _ _ _ => rfl⟩
  refine ⟨_, mem_updateWhere.mpr ⟨row, member, rfl⟩, ?_⟩
  split
  next selected => exact follows row member selected
  · exact .refl row

theorem effect_keeps (wellFormed : WellFormed format store) {call : JournalCall} (effect : Effect format store call after) :
    Keeps store after := by
  cases effect with
  | nothing => exact .refl _
  | begun => exact ⟨fun row member => ⟨row, List.mem_append_left _ member, .refl row⟩, fun _ => List.prefix_rfl, fun _ _ _ => rfl⟩
  | @bound binding _ row isRow _ unbound =>
    refine keeps_update fun other member selected => ?_
    obtain rfl := wellFormed.selected isRow member selected
    exact ⟨rfl, fun isBound => absurd isBound (by simp [unbound]), fun _ => rfl⟩
  | @appended write _ _ run row isRow _ unfinished isNext =>
    constructor
    · intro other member
      refine ⟨_, mem_updateWhere.mpr ⟨other, member, rfl⟩, ?_⟩
      split
      · exact ⟨rfl, fun _ => ⟨rfl, rfl⟩, fun _ => rfl⟩
      · exact .refl other
    · intro operationId
      rw [eventsOf_withEvent]
      exact List.prefix_append _ _
    · intro other member ended
      rw [eventsOf_withEvent]
      by_cases same : row.operationId = other.operationId
      · -- The run of the event has not ended.
        have own := isRow.operationId
        obtain rfl := wellFormed.row_unique member isRow.mem (same.symm.trans (isNext.operationId.trans own.symm))
        exact absurd unfinished ended
      · rw [if_neg same, List.append_nil]
  | @finished outcome _ row isRow _ unfinished =>
    refine keeps_update fun other member selected => ?_
    obtain rfl := wellFormed.selected isRow member selected
    exact ⟨rfl, fun _ => ⟨rfl, rfl⟩, fun ended => absurd unfinished ended⟩
  | projected => exact keeps_update fun other _ _ => ⟨rfl, fun _ => ⟨rfl, rfl⟩, fun _ => rfl⟩
  | revised => exact keeps_update fun other _ _ => ⟨rfl, fun _ => ⟨rfl, rfl⟩, fun _ => rfl⟩
  | adopted => exact keeps_update fun other _ _ => ⟨rfl, fun _ => ⟨rfl, rfl⟩, fun _ => rfl⟩
  | ownerWritten => exact ⟨fun row member => ⟨row, member, .refl row⟩, fun _ => List.prefix_rfl, fun _ _ _ => rfl⟩

/-- Whatever follows keeps what a well-formed store has settled. -/
theorem keeps_run (wellFormed : WellFormed format store) (calls : List JournalCall) :
    Keeps store (run (perform format) store calls) := by
  induction calls generalizing store with
  | nil => exact .refl store
  | cons call later ih =>
    have effect := effect_of_call format store call
    exact (effect_keeps wellFormed effect).trans (ih (wellFormed.effect effect))

end SiftKit.Chat.ChatJournalStore
