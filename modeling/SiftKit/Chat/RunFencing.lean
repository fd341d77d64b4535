import SiftKit.Chat.RunRecovery
import SiftKit.Chat.JournalContract

/-! # What a course may do to a run

One lemma says all that a course does to the row of a run and to its events.  Who may write, that a
closed run stays closed, and that a journal ends with the end of its run, follow from it.
-/

namespace SiftKit.Chat

open SiftKit.Json SiftKit.Failure SiftKit.Tables SiftKit.Runs ChatJournalStore

variable {format : EventFormat} {store after : ChatJournalStore} {ownerEpoch : String} {now : Int}

/-! ## The last event -/

/-- The row holds an event that ends a run. -/
def IsEnd (format : EventFormat) (row : EventRow) : Prop :=
  ∃ envelope, toEnvelope format.journal row = .ok envelope ∧ isKind "run_finished" envelope.event = true

def EndsWith (format : EventFormat) (row : EventRow) (cause : ChatRunTerminalCause) : Prop :=
  ∃ envelope, toEnvelope format.journal row = .ok envelope ∧ isKind "run_finished" envelope.event = true ∧
    causeOf envelope.event = .string (utf16 (causeName cause))

/-- No event of a run ends it but the last one, which agrees with its terminal cause. -/
inductive Concludes (format : EventFormat) (row : RunRow) : List EventRow → Prop where
  | running {events : List EventRow} (quiet : ∀ event ∈ events, ¬IsEnd format event) : Concludes format row events
  | closed {early : List EventRow} {last : EventRow} {cause : ChatRunTerminalCause} (quiet : ∀ event ∈ early, ¬IsEnd format event)
      (ends : EndsWith format last cause) (agrees : row.terminalCause = some cause) : Concludes format row (early ++ [last])

variable {row : RunRow}

theorem Concludes.quiet {events : List EventRow} (concludes : Concludes format row events)
    (unfinished : row.terminalCause = none) : ∀ event ∈ events, ¬IsEnd format event := by
  cases concludes with
  | running quiet => exact quiet
  | closed _ _ agrees =>
    rw [unfinished] at agrees
    cases agrees

variable {write : ChatJournalAppend} {run : RunRow}

theorem read_written (proper : Proper write.event) {row : EventRow}
    (isNext : IsNextEvent format.journal store run write row) : ∃ event envelope, format.journal.events.parse write.event = some event ∧
      toEnvelope format.journal row = .ok envelope ∧ SameJson event envelope.event := by
  obtain ⟨event, accepted, envelope, isRead, same, shows⟩ := isNext.holds
  exact ⟨event, envelope, accepted, isRead, (format.journal.events.proper proper accepted).1, shows.proper, same.symm⟩

theorem isKind_congr {left right : JsValue} (same : SameJson left right) (kind : String) : isKind kind left = isKind kind right := by
  rw [isKind, isKind, kindOf, kindOf, (same.get kindKey).textOf]

theorem not_isEnd (proper : Proper write.event) {row : EventRow}
    (isNext : IsNextEvent format.journal store run write row) (quiet : isKind "run_finished" write.event = false) :
    ¬IsEnd format row := by
  rintro ⟨envelope, isRead, isEnd⟩
  obtain ⟨event, other, accepted, isOther, same⟩ := read_written proper isNext
  obtain rfl := Except.ok.inj (isRead.symm.trans isOther)
  rw [← isKind_congr same, isKind_parsed accepted, quiet] at isEnd
  cases isEnd

theorem endsWith {row : EventRow} {outcome : ChatRunFinish}
    (ends : Ends format ownerEpoch now store run row write outcome) : EndsWith format row outcome.terminalCause := by
  obtain ⟨event, envelope, accepted, isRead, same⟩ := read_written ends.proper ends.isNext
  refine ⟨envelope, isRead, ?_, ?_⟩
  · rw [← isKind_congr same, isKind_parsed accepted, ends.isEnd]
  · have kept := causeOf_parsed accepted ends.isEnd
    have sameCause := same.get (utf16 "terminalCause")
    rw [← causeOf, kept, ends.cause] at sameCause
    exact sameCause.eq_string

/-! ## One move -/

/-- What a move makes of the row of a run, and the events that it adds. -/
inductive RunStep (format : EventFormat) (ownerEpoch : String) (now : Int) (store : ChatJournalStore) (row : RunRow) :
    RunRow → List EventRow → Prop where
  | same : RunStep format ownerEpoch now store row row []
  | adopted (unfinished : row.terminalCause = none) : RunStep format ownerEpoch now store row (adoptRow ownerEpoch row) []
  | rewritten {next : RunRow} (owner : row.ownerEpoch = ownerEpoch) (nextOwner : next.ownerEpoch = ownerEpoch)
      (kind : next.recordKind = row.recordKind) (cause : next.terminalCause = row.terminalCause ∨ row.terminalCause = none) :
      RunStep format ownerEpoch now store row next []
  | appended {next : RunRow} {event : EventRow} (admitted : Admitted store row.toChatRunColumns ownerEpoch now)
      (unfinished : row.terminalCause = none) (nextOwner : next.ownerEpoch = ownerEpoch) (kind : next.recordKind = row.recordKind)
      (cause : next.terminalCause = none) (quiet : ¬IsEnd format event) : RunStep format ownerEpoch now store row next [event]
  | ended {next : RunRow} {event : EventRow} {cause : ChatRunTerminalCause}
      (admitted : Admitted store row.toChatRunColumns ownerEpoch now) (unfinished : row.terminalCause = none)
      (nextOwner : next.ownerEpoch = ownerEpoch) (kind : next.recordKind = row.recordKind)
      (agrees : next.terminalCause = some cause) (ends : EndsWith format event cause) :
      RunStep format ownerEpoch now store row next [event]

variable {next : RunRow}

theorem RunStep.concludes {added events : List EventRow} (step : RunStep format ownerEpoch now store row next added)
    (concludes : Concludes format row events) : Concludes format next (events ++ added) := by
  cases step with
  | same =>
    rw [List.append_nil]
    exact concludes
  | adopted unfinished =>
    rw [List.append_nil]
    exact .running (concludes.quiet unfinished)
  | rewritten _ _ _ cause =>
    rw [List.append_nil]
    cases concludes with
    | running quiet => exact .running quiet
    | closed quiet ends agrees =>
      refine .closed quiet ends ?_
      cases cause with
      | inl same => rw [same, agrees]
      | inr unfinished =>
        rw [unfinished] at agrees
        cases agrees
  | appended _ unfinished _ _ _ quiet =>
    apply Concludes.running
    intro event member
    cases List.mem_append.mp member with
    | inl early => exact concludes.quiet unfinished event early
    | inr last =>
      rw [List.mem_singleton.mp last]
      exact quiet
  | ended _ unfinished _ _ agrees ends => exact .closed (concludes.quiet unfinished) ends agrees

section

variable {row next : RunRow} {added : List EventRow} (step : RunStep format ownerEpoch now store row next added)

include step

/-- A run that is the writer's stays the writer's, and one that ended and is another's stays as it is. -/
theorem RunStep.owner :
    next.recordKind = row.recordKind ∧ (next = row ∧ added = [] ∨ next.ownerEpoch = ownerEpoch ∧
      (row.ownerEpoch = ownerEpoch ∨ row.terminalCause = none)) := by
  cases step with
  | same => exact ⟨rfl, .inl ⟨rfl, rfl⟩⟩
  | adopted unfinished => exact ⟨rfl, .inr ⟨rfl, .inr unfinished⟩⟩
  | rewritten owner nextOwner kind => exact ⟨kind, .inr ⟨nextOwner, .inl owner⟩⟩
  | appended admitted _ nextOwner kind => exact ⟨kind, .inr ⟨nextOwner, .inl admitted.owner⟩⟩
  | ended admitted _ nextOwner kind => exact ⟨kind, .inr ⟨nextOwner, .inl admitted.owner⟩⟩

theorem RunStep.admitted (some : added ≠ []) : Admitted store row.toChatRunColumns ownerEpoch now ∧ next.ownerEpoch = ownerEpoch := by
  cases step with
  | same => exact absurd rfl some
  | adopted => exact absurd rfl some
  | rewritten => exact absurd rfl some
  | appended admitted _ nextOwner => exact ⟨admitted, nextOwner⟩
  | ended admitted _ nextOwner => exact ⟨admitted, nextOwner⟩

end

/-! ### The row of a run after a move -/

section Moves

variable {operationId : String} {row : RunRow}

theorem isRow_updateWhere (selects : RunRow → Bool) {rewrite : RunRow → RunRow} (kept : ∀ row, (rewrite row).operationId = row.operationId)
    (isRow : IsRow store operationId row) : IsRow { store with runs := updateWhere selects rewrite store.runs } operationId
      (if selects row then rewrite row else row) := by
  have query : ∀ row, isRun operationId (rewrite row) = isRun operationId row := fun row => by rw [isRun, isRun, kept]
  rw [IsRow, find?_updateWhere_kept selects store.runs query, isRow]
  rfl

theorem run_update {target : String} {selected : RunRow} {rewrite : RunRow → RunRow} (isTarget : IsRow store target selected)
    (kept : ∀ row, (rewrite row).operationId = row.operationId)
    (step : RunStep format ownerEpoch now store selected (rewrite selected) []) (isRow : IsRow store operationId row) :
    ∃ next added, IsRow (store.updateRun target rewrite) operationId next ∧
      (store.updateRun target rewrite).eventsOf operationId = store.eventsOf operationId ++ added ∧
      RunStep format ownerEpoch now store row next added := by
  refine ⟨_, [], isRow_updateWhere (isRun target) kept isRow, (List.append_nil _).symm, ?_⟩
  split
  next own =>
    rw [isRun, beq_iff_eq, isRow.operationId] at own
    subst own
    obtain rfl := Option.some_inj.mp (isRow.symm.trans isTarget)
    exact step
  · exact .same

theorem isRow_begun {start : RunRow} (isRow : IsRow store operationId row) :
    IsRow { store with runs := store.runs ++ [start] } operationId row := by
  rw [IsRow, List.find?_append, isRow]
  rfl

/-- What becomes of a run when an event is appended, and its row is rewritten after that. -/
theorem run_append {event : EventRow} {selected : RunRow} {rewrite : RunRow → RunRow}
    (isTarget : IsRow store event.operationId selected) (kept : ∀ row, (rewrite row).operationId = row.operationId)
    (step : RunStep format ownerEpoch now store selected (rewrite (advanceRow event.sequence event.recordedAtUtc selected)) [event])
    (isRow : IsRow store operationId row) :
    ∃ next added, IsRow ((store.withEvent event).updateRun event.operationId rewrite) operationId next ∧
      ((store.withEvent event).updateRun event.operationId rewrite).eventsOf operationId = store.eventsOf operationId ++ added ∧
      RunStep format ownerEpoch now store row next added := by
  have advanced := @isRow_updateWhere { store with events := store.events ++ [event] } operationId row (isRun event.operationId)
    (advanceRow event.sequence event.recordedAtUtc) (fun _ => rfl) isRow
  have rewritten := @isRow_updateWhere (store.withEvent event) operationId _ (isRun event.operationId) rewrite kept advanced
  refine ⟨_, _, rewritten, eventsOf_withEvent store event operationId, ?_⟩
  by_cases own : event.operationId = operationId
  · subst own
    obtain rfl := Option.some_inj.mp (isRow.symm.trans isTarget)
    have selects : isRun event.operationId row = true := by simp [isRun, isRow.operationId]
    have selectsNext : isRun event.operationId (advanceRow event.sequence event.recordedAtUtc row) = true := selects
    rw [if_pos rfl, if_pos selects, if_pos selectsNext]
    exact step
  · have passes : isRun event.operationId row = false := by
      rw [isRun, isRow.operationId]
      exact beq_eq_false_iff_ne.mpr (Ne.symm own)
    simp only [passes, own, Bool.false_eq_true, if_false]
    exact .same

theorem move_run (move : Move format ownerEpoch now store after) (isRow : IsRow store operationId row) :
    ∃ next added, IsRow after operationId next ∧ after.eventsOf operationId = store.eventsOf operationId ++ added ∧
      RunStep format ownerEpoch now store row next added := by
  cases move with
  | call effect isOwn =>
    cases effect with
    | nothing => exact ⟨row, [], isRow, (List.append_nil _).symm, .same⟩
    | begun => exact ⟨row, [], isRow_begun isRow, (List.append_nil _).symm, .same⟩
    | bound isTarget admitted =>
      obtain ⟨rfl, rfl⟩ := isOwn
      exact run_update isTarget (fun _ => rfl) (.rewritten admitted.owner admitted.owner rfl (.inl rfl)) isRow
    | @appended write proper _ _ event isTarget admitted unfinished isNext =>
      obtain ⟨⟨rfl, rfl⟩, quiet⟩ := isOwn
      rw [← isNext.operationId] at isTarget
      have result := @run_append format store write.ownerEpoch _ operationId row event _ id isTarget (fun _ => rfl)
        (.appended admitted unfinished admitted.owner rfl unfinished (not_isEnd proper isNext quiet)) isRow
      have same : (store.withEvent event).updateRun event.operationId id = store.withEvent event := by
        unfold updateRun updateWhere
        simp
      rwa [same] at result
    | finished isTarget admitted unfinished =>
      obtain ⟨rfl, rfl⟩ := isOwn
      exact run_update isTarget (fun _ => rfl) (.rewritten admitted.owner admitted.owner rfl (.inr unfinished)) isRow
    | projected => cases isOwn
    | revised checkpoint =>
      obtain ⟨selected, isTarget, owner⟩ := isOwn
      exact run_update isTarget (fun _ => rfl) (.rewritten owner owner rfl (.inl rfl)) isRow
    | @adopted target epoch time =>
      obtain ⟨rfl, rfl⟩ := isOwn
      refine ⟨_, [], isRow_updateWhere (fun row => isRun target row && row.terminalCause.isNone) (fun _ => rfl) isRow,
        (List.append_nil _).symm, ?_⟩
      split
      next selected =>
        rw [Bool.and_eq_true, Option.isNone_iff_eq_none] at selected
        exact .adopted selected.2
      · exact .same
    | ownerWritten => cases isOwn
  | @ended run event write outcome ends =>
    have isTarget := ends.isRow
    rw [← ends.isNext.operationId] at isTarget
    rw [ends.sameRun, ← ends.isNext.operationId]
    exact run_append isTarget (fun _ => rfl)
      (.ended ends.admitted ends.unfinished ends.admitted.owner rfl rfl (endsWith ends)) isRow

theorem Ends.effects {event : EventRow} {outcome : ChatRunFinish}
    (ends : Ends format ownerEpoch now store run event write outcome) :
    Effect format.journal store (.append write ends.proper now) (store.withEvent event) ∧
      Effect format.journal (store.withEvent event) (.finish outcome now)
        ((store.withEvent event).updateRun outcome.operationId (finishRow outcome)) := by
  obtain ⟨owner, lease⟩ := ends.admitted
  constructor
  · apply Effect.appended ends.isRow _ ends.unfinished ends.isNext
    rw [ends.sameWriter]
    exact ends.admitted
  · have isTarget := ends.isRow
    rw [← ends.isNext.operationId] at isTarget
    have advanced := isRow_withEvent isTarget
    rw [ends.isNext.operationId, ← ends.sameRun] at advanced
    refine .finished advanced ⟨owner.trans ends.sameOwner.symm, fun isExecution => ?_⟩ ends.unfinished ends.reads
    rw [ends.sameOwner]
    exact lease isExecution

section

variable (wellFormed : WellFormed format.journal store) (move : Move format ownerEpoch now store after)

include wellFormed move

theorem move_wellFormed :
    WellFormed format.journal after := by
  cases move with
  | call effect => exact wellFormed.effect effect
  | ended ends =>
    obtain ⟨appended, finished⟩ := ends.effects
    exact (wellFormed.effect appended).effect finished

theorem move_keeps :
    Keeps store after := by
  cases move with
  | call effect => exact effect_keeps wellFormed effect
  | ended ends =>
    obtain ⟨appended, finished⟩ := ends.effects
    exact (effect_keeps wellFormed appended).trans (effect_keeps (wellFormed.effect appended) finished)

end

theorem move_owner (move : Move format ownerEpoch now store after) : after.owner = store.owner := by
  cases move with
  | call effect isOwn =>
    cases effect with
    | ownerWritten => cases isOwn
    | _ => rfl
  | ended => rfl

theorem move_fresh (wellFormed : WellFormed format.journal store) (move : Move format ownerEpoch now store after)
    (absent : store.runs.find? (isRun operationId) = none) (isRow : IsRow after operationId next) :
    next.ownerEpoch = ownerEpoch ∧ after.eventsOf operationId = [] := by
  have updated : ∀ (selects : RunRow → Bool) (rewrite : RunRow → RunRow), (∀ row, (rewrite row).operationId = row.operationId) →
      (updateWhere selects rewrite store.runs).find? (isRun operationId) = none := by
    intro selects rewrite kept
    rw [find?_updateWhere_kept selects store.runs fun row => by rw [isRun, isRun, kept], absent]
    rfl
  have impossible : ∀ {runs : List RunRow}, runs = after.runs → runs.find? (isRun operationId) = none → False := by
    rintro _ rfl none
    rw [IsRow, none] at isRow
    cases isRow
  cases move with
  | call effect isOwn =>
    cases effect with
    | nothing => exact (impossible rfl absent).elim
    | @begun start parsed isParsed fresh =>
      rw [IsRow, List.find?_append, absent, Option.none_or] at isRow
      have isNew := List.mem_singleton.mp (List.mem_of_find?_eq_some isRow)
      subst isNew
      refine ⟨?_, ?_⟩
      · exact (owner_of_parse isParsed).trans isOwn
      · apply eventsOf_unknown wellFormed
        intro member
        obtain ⟨row, rowMember, own⟩ := List.mem_map.mp member
        have other := List.find?_eq_none.mp absent row rowMember
        simp [isRun, own] at other
    | bound => exact (impossible rfl (updated _ _ fun _ => rfl)).elim
    | appended => exact (impossible rfl (updated _ _ fun _ => rfl)).elim
    | finished => exact (impossible rfl (updated _ _ fun _ => rfl)).elim
    | projected => cases isOwn
    | revised => exact (impossible rfl (updated _ _ fun _ => rfl)).elim
    | adopted => exact (impossible rfl (updated _ _ fun _ => rfl)).elim
    | ownerWritten => cases isOwn
  | @ended run event write outcome ends =>
    refine (impossible rfl ?_).elim
    have finished : ∀ row, isRun operationId (finishRow outcome row) = isRun operationId row := fun _ => rfl
    have advanced := updated (isRun event.operationId) (advanceRow event.sequence event.recordedAtUtc) fun _ => rfl
    rw [updateRun, find?_updateWhere_kept _ _ finished, withEvent, updateRun, advanced]
    rfl

end Moves

/-! ## Courses -/

/-- What a course makes of a run. -/
structure RunCourse (format : EventFormat) (ownerEpoch : String) (now : Int) (store : ChatJournalStore) (row next : RunRow)
    (added : List EventRow) : Prop where
  kind : next.recordKind = row.recordKind
  owner : next = row ∧ added = [] ∨ next.ownerEpoch = ownerEpoch ∧ (row.ownerEpoch = ownerEpoch ∨ row.terminalCause = none)
  leased : added ≠ [] → row.recordKind = .execution → store.requireLease ownerEpoch now = .ok ()
  concludes : ∀ events, Concludes format row events → Concludes format next (events ++ added)

theorem RunCourse.refl (row : RunRow) : RunCourse format ownerEpoch now store row row [] := by
  refine ⟨rfl, .inl ⟨rfl, rfl⟩, fun some => absurd rfl some, fun events concludes => ?_⟩
  rwa [List.append_nil]

theorem RunStep.course {added : List EventRow} (step : RunStep format ownerEpoch now store row next added) :
    RunCourse format ownerEpoch now store row next added := by
  obtain ⟨kind, owner⟩ := step.owner
  exact ⟨kind, owner, fun some => (step.admitted some).1.lease, fun _ => step.concludes⟩

theorem RunCourse.trans {middle : ChatJournalStore} {last : RunRow} {added more : List EventRow}
    (early : RunCourse format ownerEpoch now store row next added) (late : RunCourse format ownerEpoch now middle next last more)
    (sameOwner : middle.owner = store.owner) : RunCourse format ownerEpoch now store row last (added ++ more) := by
  refine ⟨late.kind.trans early.kind, ?_, fun some isExecution => ?_, fun events concludes => ?_⟩
  · cases early.owner with
    | inl same =>
      obtain ⟨rfl, rfl⟩ := same
      exact late.owner
    | inr own =>
      cases late.owner with
      | inl same =>
        obtain ⟨rfl, rfl⟩ := same
        exact .inr own
      | inr nextOwn => exact .inr ⟨nextOwn.1, own.2⟩
  · by_cases none : added = []
    · subst none
      have leased := late.leased some (early.kind.trans isExecution)
      rwa [requireLease, sameOwner] at leased
    · exact early.leased none isExecution
  · rw [← List.append_assoc]
    exact late.concludes _ (early.concludes events concludes)

section Courses

variable {operationId : String}

section

variable (wellFormed : WellFormed format.journal store) (course : Course format ownerEpoch now store after)

include wellFormed course

theorem course_wellFormed :
    WellFormed format.journal after := by
  induction course with
  | refl => exact wellFormed
  | tail _ move ih => exact move_wellFormed ih move

theorem course_keeps :
    Keeps store after := by
  induction course with
  | refl => exact .refl store
  | tail earlier move ih => exact ih.trans (move_keeps (course_wellFormed wellFormed earlier) move)

end

theorem course_owner (course : Course format ownerEpoch now store after) : after.owner = store.owner := by
  induction course with
  | refl => rfl
  | tail _ move ih => exact (move_owner move).trans ih

theorem course_run (course : Course format ownerEpoch now store after) (isRow : IsRow store operationId row) :
    ∃ next added, IsRow after operationId next ∧ after.eventsOf operationId = store.eventsOf operationId ++ added ∧
      RunCourse format ownerEpoch now store row next added := by
  induction course with
  | refl => exact ⟨row, [], isRow, (List.append_nil _).symm, .refl row⟩
  | tail earlier move ih =>
    obtain ⟨next, added, isNext, events, sofar⟩ := ih
    obtain ⟨last, more, isLast, moreEvents, step⟩ := move_run move isNext
    refine ⟨last, added ++ more, isLast, ?_, sofar.trans step.course (course_owner earlier)⟩
    rw [moreEvents, events, List.append_assoc]

/-- What a course makes of a run that it begins. -/
theorem course_fresh (wellFormed : WellFormed format.journal store) (course : Course format ownerEpoch now store after)
    (absent : store.runs.find? (isRun operationId) = none) (isRow : IsRow after operationId next) :
    next.ownerEpoch = ownerEpoch ∧ Concludes format next (after.eventsOf operationId) ∧
      (after.eventsOf operationId ≠ [] → next.recordKind = .execution → store.requireLease ownerEpoch now = .ok ()) := by
  induction course generalizing next with
  | refl =>
    rw [IsRow, absent] at isRow
    cases isRow
  | @tail middle last earlier move ih =>
    cases found : middle.runs.find? (isRun operationId) with
    | none =>
      obtain ⟨owner, noEvents⟩ := move_fresh (course_wellFormed wellFormed earlier) move found isRow
      rw [noEvents]
      exact ⟨owner, .running fun _ member => absurd member List.not_mem_nil, fun some => absurd rfl some⟩
    | some row =>
      obtain ⟨owner, concludes, leased⟩ := ih found
      obtain ⟨other, more, isOther, events, step⟩ := move_run move found
      obtain rfl := Option.some_inj.mp (isRow.symm.trans isOther)
      have isCourse := step.course
      rw [events]
      refine ⟨?_, isCourse.concludes _ concludes, fun some isExecution => ?_⟩
      · cases isCourse.owner with
        | inl same => rw [same.1, owner]
        | inr own => exact own.1
      · by_cases none : more = []
        · rw [none, List.append_nil] at some
          exact leased some (isCourse.kind.symm.trans isExecution)
        · have admitted := isCourse.leased none (isCourse.kind.symm.trans isExecution)
          rwa [requireLease, course_owner earlier] at admitted

end Courses

end SiftKit.Chat
