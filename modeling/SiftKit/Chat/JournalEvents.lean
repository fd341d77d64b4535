import SiftKit.Chat.Journal

/-! # Journal events

`ChatJournalEventSchema` of `state/chat-journal-schema.ts` is a union told by `kind`.  The variant that
ends a run is stated here as it is; of the others only their kinds matter, so they are an argument.
-/

namespace SiftKit.Chat

open SiftKit.Json SiftKit.Json.Schema SiftKit.Failure

/-- The key that tells the events of a journal apart. -/
abbrev kindKey : JsString := utf16 "kind"

def kindOf (event : JsValue) : JsValue := event.get kindKey

def isKind (kind : String) (event : JsValue) : Bool := (kindOf event).textOf == utf16 kind

/-! ## The fields of an event -/

/-- The fields that a writer gives to an event besides its kind. -/
structure EvidenceFields where
  properties : Properties
  distinct : (kindKey :: keysOf properties).Nodup
  proper : ∀ entry ∈ properties, Proper entry.2

namespace EvidenceFields

/-- `{ kind, ...fields }`. -/
def event (kind : String) (fields : EvidenceFields) : JsValue := .object ((kindKey, .string (utf16 kind)) :: fields.properties)

theorem event_proper (kind : String) (fields : EvidenceFields) : Proper (fields.event kind) := by
  refine .object fields.distinct fun entry member => ?_
  cases List.mem_cons.mp member with
  | inl isKind =>
    rw [isKind]
    exact .string _
  | inr own => exact fields.proper entry own

@[simp] theorem kindOf_event (kind : String) (fields : EvidenceFields) : kindOf (fields.event kind) = .string (utf16 kind) := by
  simp [kindOf, event, JsValue.get, property]

@[simp] theorem isKind_event (kind other : String) (fields : EvidenceFields) :
    isKind kind (fields.event other) = (other == kind) := by
  rw [isKind, kindOf_event, textOf_string]
  by_cases same : other = kind
  · simp [same]
  · have different : utf16 other ≠ utf16 kind := fun sameText => same (utf16_injective sameText)
    simp [same, different]

/-- Fields that are written down one by one. -/
def literal (entries : List (String × JsValue)) (distinct : ("kind" :: entries.map Prod.fst).Nodup)
    (proper : ∀ entry ∈ entries, Proper entry.2) : EvidenceFields where
  properties := literalProperties entries
  distinct := by
    have keys : kindKey :: keysOf (literalProperties entries) = ("kind" :: entries.map Prod.fst).map utf16 := by
      rw [List.map_cons, ← keysOf_literal]
    rw [keys]
    exact distinct.map utf16_injective
  proper := fun entry member => by
    obtain ⟨original, originalMember, rfl⟩ := List.mem_map.mp member
    exact proper original originalMember

end EvidenceFields

/-! ## The end of a run -/

structure ChatRunOutcome where
  terminalCause : ChatRunTerminalCause
  detail : Option JsString
  usage : JsValue
  usageProper : Proper usage
  recoveryStatus : String

def runFinishedShape (formats : StringFormats) : Shape := ⟨[
  field "terminalCause" chatRunTerminalCauseSchema, field "detail" (nullable anyString),
  field "usage" (nullable chatStreamUsageEventSchema), field "recoveryStatus" chatRecoveryStatusSchema,
  field "finishedAtUtc" (string formats.datetime)], by simp [field]⟩

def runFinishedVariant (formats : StringFormats) : Variant kindKey :=
  .object kindKey ["run_finished"] .strict (runFinishedShape formats)

/-- The fields of the event that ends a run. -/
def runFinishedFields (outcome : ChatRunOutcome) (finishedAtUtc : String) : EvidenceFields :=
  .literal [("terminalCause", .string (utf16 (ChatJournalStore.causeName outcome.terminalCause))),
      ("detail", .ofText? outcome.detail), ("usage", outcome.usage), ("recoveryStatus", .string (utf16 outcome.recoveryStatus)),
      ("finishedAtUtc", .string (utf16 finishedAtUtc))]
    (by simp) (by
      intro entry member
      simp only [List.mem_cons, List.not_mem_nil, or_false] at member
      obtain rfl | rfl | rfl | rfl | rfl := member
      · exact .string _
      · cases outcome.detail with
        | none => exact .null
        | some detail => exact .string detail
      · exact outcome.usageProper
      · exact .string _
      · exact .string _)

/-- The cause that the last event of a run names. -/
def causeOf (event : JsValue) : JsValue := event.get (utf16 "terminalCause")

theorem causeOf_runFinished (outcome : ChatRunOutcome) (finishedAtUtc : String) :
    causeOf ((runFinishedFields outcome finishedAtUtc).event "run_finished") =
      .string (utf16 (ChatJournalStore.causeName outcome.terminalCause)) := by
  have other : kindKey ≠ utf16 "terminalCause" := fun same => by simpa using utf16_injective same
  simp [causeOf, EvidenceFields.event, runFinishedFields, EvidenceFields.literal, literalProperties, JsValue.get, property, other]

/-! ## The union -/

/-- `ChatJournalEventSchema`, with the variants that a run does not end with. -/
def chatJournalEventSchema (formats : StringFormats) (others : List (Variant kindKey)) : Schema :=
  discriminatedUnion kindKey (runFinishedVariant formats :: others)

structure EventFormat where
  strings : StringFormats
  others : List (Variant kindKey)
  /-- `ChatRunEffectiveSettingsSchema`. -/
  settings : Schema
  /-- `ChatImportProvenanceSchema`. -/
  provenance : Schema
  sha256 : JsString → String

def EventFormat.journal (format : EventFormat) : JournalFormat where
  strings := format.strings
  events := chatJournalEventSchema format.strings format.others
  settings := format.settings
  provenance := format.provenance
  sha256 := format.sha256

variable {format : EventFormat} {event parsed : JsValue}

section

variable (accepted : format.journal.events.parse event = some parsed)

include accepted

theorem kindOf_parsed : kindOf parsed = kindOf event := by
  obtain ⟨_, variant, _, _, isParsed⟩ := parseUnion_eq_some.mp accepted
  exact variant.keeps isParsed

theorem isKind_parsed (kind : String) : isKind kind parsed = isKind kind event := by
  rw [isKind, kindOf_parsed accepted, isKind]

theorem causeOf_parsed (isEnd : isKind "run_finished" event = true) : causeOf parsed = causeOf event := by
  obtain ⟨tag, variant, isTag, isVariant, isParsed⟩ := parseUnion_eq_some.mp accepted
  rw [isKind, kindOf, isTag, textOf_string, beq_iff_eq] at isEnd
  have first : (runFinishedVariant format.strings).tags.contains tag = true := by
    simp [runFinishedVariant, Variant.object, isEnd]
  rw [List.find?_cons, first] at isVariant
  obtain rfl := Option.some_inj.mp isVariant
  have stated : field "terminalCause" chatRunTerminalCauseSchema ∈ (runFinishedShape format.strings).fields := List.mem_cons_self
  have member := @Shape.mem_extend_base _ (runFinishedShape format.strings) ⟨[⟨kindKey, enum [utf16 "run_finished"], false⟩], by simp⟩
    stated (by simp [Shape.keys, field, utf16_injective.eq_iff])
  exact parseObject_keeps_enum member isParsed

end

end SiftKit.Chat
