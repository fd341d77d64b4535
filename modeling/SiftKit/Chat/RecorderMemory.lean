import SiftKit.Chat.RunFencing

/-! # What a recorder remembers

The memory of a recorder against the one that `resume` builds from the committed events.  An event is
seen twice, as it was written and as it is read back, which are the same JSON.
-/

namespace SiftKit.Chat

open SiftKit.Json SiftKit.Failure SiftKit.Tables SiftKit.Runs ChatJournalStore ChatRunRecorder

namespace RunMemory

/-! ## The same memory -/

/-- A memory up to what JSON tells of the model in it. -/
def shown (memory : RunMemory) : RunMemory := { memory with admittedModelPreset := memory.admittedModelPreset.map canonical }

variable {operationId : String} {left right : JsValue} {memory other : RunMemory}

theorem isAnswer_congr (same : SameJson left right) : isAnswer left = isAnswer right := by
  rw [isAnswer, isAnswer, (same.get (utf16 "role")).textOf, (same.get (utf16 "tool_calls")).isUndefined]

theorem textOf?_congr (same : SameJson left right) : textOf? left = textOf? right := by
  obtain ⟨leftProper, rightProper, canonical⟩ := same
  cases leftProper with
  | string text => rw [(Schema.IsScalar.string text).eq_of_canonical rightProper canonical.symm]
  | _ => cases rightProper <;> simp_all [Json.canonical, textOf?]

theorem answerId_congr (same : SameJson left right) : answerId left = answerId right := textOf?_congr (same.get (utf16 "chatMessageId"))

theorem lastAnswer_congr {first second : List JsValue} (same : List.Forall₂ SameJson first second) :
    (lastAnswer first).map answerId = (lastAnswer second).map answerId := by
  have reversed := List.rel_reverse same
  unfold lastAnswer
  generalize first.reverse = early at reversed
  generalize second.reverse = late at reversed
  induction reversed with
  | nil => rfl
  | @cons item twin _ _ sameItem _ ih =>
    rw [List.find?_cons, List.find?_cons, isAnswer_congr sameItem]
    cases isAnswer twin with
    | true => exact congrArg some (answerId_congr sameItem)
    | false => exact ih

theorem initialMessages_congr (same : SameJson left right) : List.Forall₂ SameJson (initialMessages left) (initialMessages right) := by
  rw [initialMessages, initialMessages, (same.get (utf16 "turnBoundary")).naturalOf]
  exact List.forall₂_drop _ (same.get (utf16 "messages")).itemsOf

theorem callText_congr (same : SameJson left right) (name : String) : callText left name = callText right name :=
  ((same.get (utf16 "call")).get (utf16 name)).textOf

theorem observe_congr (same : SameJson left right) (sameMemory : memory.shown = other.shown) :
    (memory.observeCommitted operationId left).shown = (other.observeCommitted operationId right).shown := by
  have kinds : ∀ kind, isKind kind left = isKind kind right := isKind_congr same
  have narrations : isNarration left = isNarration right := isKind_congr (same.get (utf16 "event")) "narration"
  have turns : narratedTurn left = narratedTurn right :=
    (((same.get (utf16 "event")).get (utf16 "delta")).get (utf16 "turn")).naturalOf
  simp only [shown, mk.injEq] at sameMemory
  obtain ⟨preset, dispatched, answer, narrated, tools, stop⟩ := sameMemory
  unfold observeCommitted
  simp only [kinds, narrations]
  split
  · simp only [shown, mk.injEq, Option.map_some, dispatched, answer, narrated, tools, stop, and_true, Option.some_inj]
    exact (same.get (utf16 "modelPreset")).canonical
  · split
    · have answers := lastAnswer_congr (initialMessages_congr same)
      have joined : ∀ message : Option JsValue, message.bind answerId = (message.map answerId).join := fun message => by
        cases message <;> rfl
      have bound : (lastAnswer (initialMessages left)).bind answerId = (lastAnswer (initialMessages right)).bind answerId := by
        rw [joined, joined, answers]
      simp only [shown, preset, narrated, tools, stop, bound]
    · split
      · have answers := lastAnswer_congr (same.get (utf16 "inserted")).itemsOf
        cases first : lastAnswer (left.get (utf16 "inserted")).itemsOf with
        | none =>
          rw [first, Option.map_none, eq_comm, Option.map_eq_none_iff] at answers
          simp only [answers, shown, preset, dispatched, answer, narrated, tools, stop]
        | some message =>
          rw [first, Option.map_some, eq_comm, Option.map_eq_some_iff] at answers
          obtain ⟨twin, second, sameId⟩ := answers
          simp only [second, shown, preset, dispatched, narrated, tools, stop, sameId]
      · split
        · simp only [shown, preset, dispatched, answer, narrated, tools, stop, turns]
        · split
          · simp only [shown, preset, dispatched, answer, narrated, tools, stop, callText_congr same]
          · split
            · simp only [shown, preset, dispatched, answer, narrated, tools]
            · simp only [shown, preset, dispatched, answer, narrated, tools, stop]

/-- The kinds of the events that a recorder learns from. -/
def learnedKinds : List String :=
  ["model_admitted", "context_initialized", "context_spliced", "display", "tool_proposed", "stop_requested"]

theorem observe_silent (memory : RunMemory) {event : JsValue} (silent : ∀ kind ∈ learnedKinds, isKind kind event = false) :
    memory.observeCommitted operationId event = memory := by
  simp only [learnedKinds, List.forall_mem_cons] at silent
  obtain ⟨admitted, initialized, spliced, display, proposed, stop, _⟩ := silent
  simp [observeCommitted, admitted, initialized, spliced, display, proposed, stop]

end RunMemory

variable {format : EventFormat} {recorder : ChatRunRecorder} {store after : ChatJournalStore}

/-! ## Names of events -/

/-- The id that an event has by its place. -/
def eventIdAt (operationId : String) (sequence : Nat) : String := s!"{operationId}:{sequence}"

theorem eventIdAt_eq (operationId : String) (sequence : Nat) : eventIdAt operationId sequence = ownerEpoch operationId sequence := rfl

theorem eventIdAt_inj {operationId : String} {first second : Nat} (same : eventIdAt operationId first = eventIdAt operationId second) :
    first = second := (@ownerEpoch_inj operationId operationId first second same).2

/-- What a `z.string().uuid()` consists of: hexadecimal digits and hyphens. -/
def isUuidUnit (unit : CodeUnit) : Bool :=
  (0x30 ≤ unit && unit ≤ 0x39) || (0x41 ≤ unit && unit ≤ 0x46) || (0x61 ≤ unit && unit ≤ 0x66) || unit == 0x2D

def UuidText (formats : StringFormats) : Prop := ∀ text, formats.uuid text = true → ∀ unit ∈ text, isUuidUnit unit = true

/-- The words before the colon of an event that is named after what it is about. -/
def subjects : List String := ["approval_requested", "approval_resolved", "question_requested", "question_resolved"]

section

variable {formats : StringFormats} (uuids : UuidText formats) {operationId : String}
  (isUuid : formats.isUuid operationId = true)

include uuids isUuid

theorem notMem_of_uuid {character : Char} (other : ∀ unit ∈ utf16Character character, isUuidUnit unit = false)
    (stated : utf16Character character ≠ []) : character ∉ operationId.toList := by
  intro member
  obtain ⟨unit, rest, isUnit⟩ := List.exists_cons_of_ne_nil stated
  have ofCharacter : unit ∈ utf16Character character := by
    rw [isUnit]
    exact List.mem_cons_self
  have ofText : unit ∈ utf16 operationId := List.mem_flatMap.mpr ⟨character, member, ofCharacter⟩
  have isOne := uuids (utf16 operationId) isUuid unit ofText
  rw [other unit ofCharacter] at isOne
  cases isOne

theorem subject_ne_eventIdAt {subject : String} (known : subject ∈ subjects) (id : String) (sequence : Nat) :
    subject ++ ":" ++ id ≠ eventIdAt operationId sequence := by
  intro same
  have noColon := @notMem_of_uuid formats uuids operationId isUuid ':' (by simp [utf16Character, isUuidUnit]) (by simp [utf16Character])
  have noUnderscore := @notMem_of_uuid formats uuids operationId isUuid '_' (by simp [utf16Character, isUuidUnit]) (by simp [utf16Character])
  have texts := congrArg String.toList same
  have subjectColon : ':' ∉ subject.toList := by
    simp only [subjects, List.mem_cons, List.not_mem_nil, or_false] at known
    obtain rfl | rfl | rfl | rfl := known <;> decide
  have subjectUnderscore : '_' ∈ subject.toList := by
    simp only [subjects, List.mem_cons, List.not_mem_nil, or_false] at known
    obtain rfl | rfl | rfl | rfl := known <;> decide
  rw [eventIdAt_eq] at texts
  have split : subject.toList ++ ':' :: id.toList = operationId.toList ++ ':' :: (toString sequence).toList := by
    simpa [ownerEpoch, String.toList_append] using texts
  obtain ⟨sameSubject, _⟩ := (Separators.first_inj subjectColon noColon).mp split
  rw [sameSubject] at subjectUnderscore
  exact noUnderscore subjectUnderscore

end

end SiftKit.Chat
