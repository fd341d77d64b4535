import Mathlib.Data.List.DropRight
import SiftKit.Json.Equality

/-! # Schemas over JSON values

A schema parses a value or refuses it.  Each schema carries what a transfer relies on: a value
that was accepted is accepted again after it was written as JSON and read, with the same result,
and so is the result itself.
-/

namespace SiftKit.Json

structure Schema where
  parse : JsValue → Option JsValue
  proper : ∀ {value parsed : JsValue}, Proper value → parse value = some parsed →
    Proper parsed ∧ parsed.isUndefined = false
  plain : ∀ {value parsed : JsValue}, Plain value → parse value = some parsed → Plain parsed
  /-- The same JSON is accepted, with the same result. -/
  reads : ∀ {value parsed other : JsValue}, Proper value → parse value = some parsed → Plain other →
    canonical other = canonical value → ∃ again, parse other = some again ∧ canonical again = canonical parsed
  /-- What was accepted is accepted as it is. -/
  stable : ∀ {value parsed : JsValue}, Proper value → parse value = some parsed →
    ∃ again, parse parsed = some again ∧ canonical again = canonical parsed

namespace Schema

/-! ## Scalars -/

inductive IsScalar : JsValue → Prop where
  | null : IsScalar .null
  | boolean (value : Bool) : IsScalar (.boolean value)
  | number (value : Decimal) : IsScalar (.number value)
  | string (text : JsString) : IsScalar (.string text)

theorem IsScalar.plain {value : JsValue} (scalar : IsScalar value) : Plain value := by
  cases scalar with
  | null => exact .null
  | boolean value => exact .boolean value
  | number value => exact .number value
  | string text => exact .string text

theorem IsScalar.eq_of_canonical {value other : JsValue} (scalar : IsScalar value) (proper : Proper other)
    (same : canonical other = canonical value) : other = value := by
  cases proper with
  | undefined => cases scalar <;> simp [canonical] at same
  | null => cases scalar <;> simp_all [canonical]
  | boolean => cases scalar <;> simp_all [canonical]
  | number => cases scalar <;> simp_all [canonical]
  | string => cases scalar <;> simp_all [canonical]
  | array => cases scalar <;> simp [canonical] at same
  | object => cases scalar <;> simp [canonical] at same

def scalar (parse : JsValue → Option JsValue)
    (scalars : ∀ {value parsed : JsValue}, parse value = some parsed → IsScalar value ∧ IsScalar parsed)
    (stable : ∀ {value parsed : JsValue}, parse value = some parsed → parse parsed = some parsed) : Schema where
  parse := parse
  proper := fun _ accepted => ⟨(scalars accepted).2.plain.proper, (scalars accepted).2.plain.isUndefined⟩
  plain := fun _ accepted => (scalars accepted).2.plain
  reads := fun _ accepted plain same => by
    rw [(scalars accepted).1.eq_of_canonical plain.proper same]
    exact ⟨_, accepted, rfl⟩
  stable := fun _ accepted => ⟨_, stable accepted, rfl⟩

def parseString (change : JsString → JsString) (check : JsString → Bool) : JsValue → Option JsValue
  | .string text => if check (change text) then some (.string (change text)) else none
  | _ => none

theorem parseString_eq_some {change : JsString → JsString} {check : JsString → Bool} {value parsed : JsValue} :
    parseString change check value = some parsed ↔
      ∃ text, value = .string text ∧ check (change text) = true ∧ parsed = .string (change text) := by
  constructor
  · intro accepted
    cases value with
    | string text =>
      simp only [parseString, Option.ite_none_right_eq_some] at accepted
      exact ⟨text, rfl, accepted.1, (Option.some_inj.mp accepted.2).symm⟩
    | _ => cases accepted
  · rintro ⟨text, rfl, checked, rfl⟩
    simp [parseString, checked]

/-- `z.string()` with a change that is made first and a check. -/
def changedString (change : JsString → JsString) (check : JsString → Bool)
    (settles : ∀ text, change (change text) = change text) : Schema :=
  scalar (parseString change check)
    (fun accepted => by
      obtain ⟨text, rfl, _, rfl⟩ := parseString_eq_some.mp accepted
      exact ⟨.string _, .string _⟩)
    (fun accepted => by
      obtain ⟨text, rfl, checked, rfl⟩ := parseString_eq_some.mp accepted
      exact parseString_eq_some.mpr ⟨change text, rfl, by rw [settles]; exact checked, by rw [settles]⟩)

/-- `z.string()` with a check. -/
def string (check : JsString → Bool) : Schema := changedString id check fun _ => rfl

def anyString : Schema := string fun _ => true

/-- `z.string().min(1)`. -/
def nonEmpty : Schema := string fun text => !text.isEmpty

/-- `z.enum(texts)`; a literal is an enumeration of one. -/
def enum (texts : List JsString) : Schema := string texts.contains

/-- What `String.prototype.trim` strips: white space, line ends and the byte order mark. -/
def isWhiteSpace (unit : CodeUnit) : Bool :=
  let code := unit.toNat
  (9 ≤ code && code ≤ 13) || code == 0x20 || code == 0xA0 || code == 0x1680 ||
    (0x2000 ≤ code && code ≤ 0x200A) || code == 0x2028 || code == 0x2029 || code == 0x202F ||
    code == 0x205F || code == 0x3000 || code == 0xFEFF

def trim (text : JsString) : JsString := (text.dropWhile isWhiteSpace).rdropWhile isWhiteSpace

theorem trim_trim (text : JsString) : trim (trim text) = trim text := by
  have start : (trim text).dropWhile isWhiteSpace = trim text := by
    cases isTrimmed : trim text with
    | nil => rfl
    | cons unit rest =>
      obtain ⟨after, isPrefix⟩ := List.rdropWhile_prefix isWhiteSpace (text.dropWhile isWhiteSpace)
      have head := List.head?_dropWhile_not isWhiteSpace text
      rw [show (text.dropWhile isWhiteSpace).rdropWhile isWhiteSpace = unit :: rest from isTrimmed, List.cons_append]
        at isPrefix
      rw [← isPrefix] at head
      rw [List.dropWhile_cons_of_neg (by simpa using head)]
  rw [trim, start]
  exact List.rdropWhile_idempotent isWhiteSpace _

/-- `z.string().trim().min(1)`. -/
def trimmedNonEmpty : Schema := changedString trim (fun text => !text.isEmpty) trim_trim

def parseNumber (check : Decimal → Bool) : JsValue → Option JsValue
  | .number value => if check value then some (.number value) else none
  | _ => none

theorem parseNumber_eq_some {check : Decimal → Bool} {value parsed : JsValue} :
    parseNumber check value = some parsed ↔
      ∃ number, value = .number number ∧ check number = true ∧ parsed = .number number := by
  constructor
  · intro accepted
    cases value with
    | number number =>
      simp only [parseNumber, Option.ite_none_right_eq_some] at accepted
      exact ⟨number, rfl, accepted.1, (Option.some_inj.mp accepted.2).symm⟩
    | _ => cases accepted
  · rintro ⟨number, rfl, checked, rfl⟩
    simp [parseNumber, checked]

/-- `z.number()` with a check. -/
def number (check : Decimal → Bool) : Schema :=
  scalar (parseNumber check)
    (fun accepted => by
      obtain ⟨number, rfl, _, rfl⟩ := parseNumber_eq_some.mp accepted
      exact ⟨.number _, .number _⟩)
    (fun accepted => by
      obtain ⟨number, rfl, checked, rfl⟩ := parseNumber_eq_some.mp accepted
      exact parseNumber_eq_some.mpr ⟨number, rfl, checked, rfl⟩)

def parseBoolean : JsValue → Option JsValue
  | .boolean value => some (.boolean value)
  | _ => none

/-- `z.boolean()`. -/
def boolean : Schema :=
  scalar parseBoolean
    (fun {value _} accepted => by
      cases value <;> simp [parseBoolean] at accepted
      subst accepted
      exact ⟨.boolean _, .boolean _⟩)
    (fun {value _} accepted => by
      cases value <;> simp [parseBoolean] at accepted
      subst accepted
      rfl)

/-! ## Null and arrays -/

def parseNullable (parse : JsValue → Option JsValue) : JsValue → Option JsValue
  | .null => some .null
  | value => parse value

theorem parseNullable_given {parse : JsValue → Option JsValue} {value : JsValue} (given : value ≠ .null) :
    parseNullable parse value = parse value := by
  cases value with
  | null => exact absurd rfl given
  | _ => rfl

theorem canonical_eq_null {value : JsValue} (proper : Proper value) (same : canonical value = .null) : value = .null :=
  IsScalar.null.eq_of_canonical proper same

/-- `schema.nullable()`. -/
def nullable (schema : Schema) : Schema where
  parse := parseNullable schema.parse
  proper := fun {value parsed} isProper accepted => by
    by_cases null : value = .null
    · subst null
      cases accepted
      exact ⟨.null, rfl⟩
    · exact schema.proper isProper (by rwa [parseNullable_given null] at accepted)
  plain := fun {value parsed} isPlain accepted => by
    by_cases null : value = .null
    · subst null
      cases accepted
      exact .null
    · exact schema.plain isPlain (by rwa [parseNullable_given null] at accepted)
  reads := fun {value parsed other} isProper accepted isPlain same => by
    by_cases null : value = .null
    · subst null
      cases accepted
      rw [canonical_eq_null isPlain.proper same]
      exact ⟨.null, rfl, rfl⟩
    · have otherGiven : other ≠ .null := by
        intro otherNull
        subst otherNull
        exact null (canonical_eq_null isProper same.symm)
      rw [parseNullable_given null] at accepted
      rw [parseNullable_given otherGiven]
      exact schema.reads isProper accepted isPlain same
  stable := fun {value parsed} isProper accepted => by
    by_cases null : value = .null
    · subst null
      cases accepted
      exact ⟨.null, rfl, rfl⟩
    · rw [parseNullable_given null] at accepted
      by_cases parsedNull : parsed = .null
      · subst parsedNull
        exact ⟨.null, rfl, rfl⟩
      · rw [parseNullable_given parsedNull]
        exact schema.stable isProper accepted

def parseItems (parse : JsValue → Option JsValue) : List JsValue → Option (List JsValue)
  | [] => some []
  | item :: rest => do
    let parsed ← parse item
    let others ← parseItems parse rest
    return parsed :: others

theorem parseItems_eq_some {parse : JsValue → Option JsValue} {items results : List JsValue} :
    parseItems parse items = some results ↔ List.Forall₂ (fun item result => parse item = some result) items results := by
  induction items generalizing results with
  | nil => simp [parseItems, eq_comm]
  | cons item rest ih =>
    simp only [parseItems, Option.bind_eq_bind, Option.bind_eq_some_iff, Option.pure_def, Option.some_inj,
      ih, List.forall₂_cons_left_iff]
    constructor
    · rintro ⟨result, accepted, others, othersAccepted, rfl⟩
      exact ⟨result, others, accepted, othersAccepted, rfl⟩
    · rintro ⟨result, others, accepted, othersAccepted, rfl⟩
      exact ⟨result, accepted, others, othersAccepted, rfl⟩

theorem canonical_items {items : List JsValue} (defined : ∀ item ∈ items, item.isUndefined = false) :
    items.map (fun item => (canonical item).orNull) = items.map canonical :=
  List.map_congr_left fun item member => orNull_of_stated (by rw [isUndefined_canonical, defined item member])

theorem canonical_array_of_defined {left right : List JsValue} (leftDefined : ∀ item ∈ left, item.isUndefined = false)
    (rightDefined : ∀ item ∈ right, item.isUndefined = false) :
    canonical (.array left) = canonical (.array right) ↔ left.map canonical = right.map canonical := by
  rw [canonical_array_iff, canonical_items leftDefined, canonical_items rightDefined]

def parseArray (parse : JsValue → Option JsValue) (check : Nat → Bool) : JsValue → Option JsValue
  | .array items => if check items.length then (parseItems parse items).map .array else none
  | _ => none

theorem parseArray_eq_some {parse : JsValue → Option JsValue} {check : Nat → Bool} {value parsed : JsValue} :
    parseArray parse check value = some parsed ↔ ∃ items results, value = .array items ∧ check items.length = true ∧
      List.Forall₂ (fun item result => parse item = some result) items results ∧ parsed = .array results := by
  constructor
  · intro accepted
    cases value with
    | array items =>
      simp only [parseArray, Option.ite_none_right_eq_some, Option.map_eq_some_iff, parseItems_eq_some] at accepted
      obtain ⟨checked, results, each, rfl⟩ := accepted
      exact ⟨items, results, rfl, checked, each, rfl⟩
    | _ => cases accepted
  · rintro ⟨items, results, rfl, checked, each, rfl⟩
    simp [parseArray, checked, parseItems_eq_some.mpr each]

theorem parseItems_again {parse : JsValue → Option JsValue} {items results others : List JsValue}
    (accepted : List.Forall₂ (fun item result => parse item = some result) items results)
    (each : ∀ item ∈ items, ∀ result other, parse item = some result → canonical other = canonical item → other ∈ others →
      ∃ again, parse other = some again ∧ canonical again = canonical result)
    (same : others.map canonical = items.map canonical) :
    ∃ againItems, List.Forall₂ (fun item result => parse item = some result) others againItems ∧
      againItems.map canonical = results.map canonical := by
  induction accepted generalizing others with
  | nil =>
    obtain rfl := List.map_eq_nil_iff.mp same
    exact ⟨[], .nil, rfl⟩
  | cons head _ ih =>
    obtain ⟨other, rest, rfl, sameHead, sameRest⟩ := List.map_eq_cons_iff.mp same
    obtain ⟨again, isAgain, sameAgain⟩ := each _ List.mem_cons_self _ other head sameHead List.mem_cons_self
    obtain ⟨againItems, accepted, sameItems⟩ := ih
      (fun item member result other isResult sameItem otherMember =>
        each item (List.mem_cons_of_mem _ member) result other isResult sameItem (List.mem_cons_of_mem _ otherMember))
      sameRest
    exact ⟨again :: againItems, .cons isAgain accepted, by rw [List.map_cons, List.map_cons, sameAgain, sameItems]⟩

theorem forall_of_accepted (holds : JsValue → Prop) {parse : JsValue → Option JsValue} {items results : List JsValue}
    (accepted : List.Forall₂ (fun item result => parse item = some result) items results)
    (each : ∀ item ∈ items, ∀ result, parse item = some result → holds result) : ∀ result ∈ results, holds result := by
  induction accepted with
  | nil => simp
  | cons head _ ih =>
    rw [List.forall_mem_cons]
    exact ⟨each _ List.mem_cons_self _ head,
      ih fun item member => each item (List.mem_cons_of_mem _ member)⟩

/-- `z.array(schema)` with a check of the length. -/
def array (schema : Schema) (check : Nat → Bool) : Schema where
  parse := parseArray schema.parse check
  proper := fun isProper accepted => by
    obtain ⟨items, results, rfl, _, each, rfl⟩ := parseArray_eq_some.mp accepted
    cases isProper with
    | array _ itemsProper =>
      refine ⟨.array ?_ ?_, rfl⟩
      · exact forall_of_accepted _ each fun item member _ isResult => (schema.proper (itemsProper item member) isResult).2
      · exact forall_of_accepted _ each fun item member _ isResult => (schema.proper (itemsProper item member) isResult).1
  plain := fun isPlain accepted => by
    obtain ⟨items, results, rfl, _, each, rfl⟩ := parseArray_eq_some.mp accepted
    cases isPlain with
    | array itemsPlain =>
      exact .array (forall_of_accepted _ each fun item member _ isResult => schema.plain (itemsPlain item member) isResult)
  reads := fun {value parsed other} isProper accepted isPlain same => by
    obtain ⟨items, results, rfl, checked, each, rfl⟩ := parseArray_eq_some.mp accepted
    cases isProper with
    | array defined itemsProper =>
      cases isPlain with
      | @array others othersPlain =>
        have othersDefined : ∀ item ∈ others, item.isUndefined = false := fun item member => (othersPlain item member).isUndefined
        have sameItems := (canonical_array_of_defined othersDefined defined).mp same
        obtain ⟨againItems, again, sameAgain⟩ := parseItems_again each
          (fun item member result other isResult sameItem otherMember =>
            schema.reads (itemsProper item member) isResult (othersPlain other otherMember) sameItem) sameItems
        have length : others.length = items.length := by simpa using congrArg List.length sameItems
        refine ⟨.array againItems, parseArray_eq_some.mpr ⟨others, againItems, rfl, by rwa [length], again, rfl⟩, ?_⟩
        refine (canonical_array_of_defined ?_ ?_).mpr sameAgain
        · exact forall_of_accepted _ again fun item member _ isResult => (schema.proper (othersPlain item member).proper isResult).2
        · exact forall_of_accepted _ each fun item member _ isResult => (schema.proper (itemsProper item member) isResult).2
      | _ => simp [canonical] at same
  stable := fun {value parsed} isProper accepted => by
    obtain ⟨items, results, rfl, checked, each, rfl⟩ := parseArray_eq_some.mp accepted
    cases isProper with
    | array defined itemsProper =>
      have resultsDefined := forall_of_accepted (fun result => result.isUndefined = false) each
        fun item member _ isResult => (schema.proper (itemsProper item member) isResult).2
      have again : ∃ againItems, List.Forall₂ (fun item result => schema.parse item = some result) results againItems ∧
          againItems.map canonical = results.map canonical := by
        clear accepted checked resultsDefined
        induction each with
        | nil => exact ⟨[], .nil, rfl⟩
        | cons head _ ih =>
          obtain ⟨result, isResult, sameResult⟩ := schema.stable (itemsProper _ List.mem_cons_self) head
          obtain ⟨rest, isRest, sameRest⟩ := ih (fun item member => defined item (List.mem_cons_of_mem _ member))
            fun item member => itemsProper item (List.mem_cons_of_mem _ member)
          exact ⟨result :: rest, .cons isResult isRest, by rw [List.map_cons, List.map_cons, sameResult, sameRest]⟩
      obtain ⟨againItems, isAgain, sameAgain⟩ := again
      have length : results.length = items.length := each.length_eq.symm
      refine ⟨.array againItems, parseArray_eq_some.mpr ⟨results, againItems, rfl, by rwa [length], isAgain, rfl⟩, ?_⟩
      refine (canonical_array_of_defined ?_ resultsDefined).mpr sameAgain
      have resultsProper := forall_of_accepted Proper each
        fun item member _ isResult => (schema.proper (itemsProper item member) isResult).1
      exact forall_of_accepted _ isAgain fun item member _ isResult => (schema.proper (resultsProper item member) isResult).2

/-! ## Objects -/

structure Field where
  key : JsString
  schema : Schema
  optional : Bool

/-- A required field. -/
def field (name : String) (schema : Schema) : Field := ⟨utf16 name, schema, false⟩

/-- `name: schema.optional()`. -/
def optionalField (name : String) (schema : Schema) : Field := ⟨utf16 name, schema, true⟩

def Field.parse (field : Field) (value : JsValue) : Option JsValue :=
  if value.isUndefined then if field.optional then some .undefined else none else field.schema.parse value

variable {field : Field}

theorem Field.parse_undefined {value parsed : JsValue} (undefined : value.isUndefined = true)
    (accepted : field.parse value = some parsed) : field.optional = true ∧ parsed = .undefined := by
  simp only [parse, undefined, if_true, Option.ite_none_right_eq_some, Option.some_inj] at accepted
  exact ⟨accepted.1, accepted.2.symm⟩

theorem Field.parse_defined {value : JsValue} (defined : value.isUndefined = false) :
    field.parse value = field.schema.parse value := by
  simp [parse, defined]

theorem Field.proper {value parsed : JsValue} (isProper : Proper value)
    (accepted : field.parse value = some parsed) : Proper parsed ∧ parsed.isUndefined = value.isUndefined := by
  cases undefined : value.isUndefined with
  | true =>
    obtain ⟨_, rfl⟩ := parse_undefined undefined accepted
    exact ⟨.undefined, rfl⟩
  | false =>
    rw [parse_defined undefined] at accepted
    exact field.schema.proper isProper accepted

theorem Field.reads {value parsed other : JsValue} (isProper : Proper value)
    (accepted : field.parse value = some parsed) (isPlain : other.isUndefined = false → Plain other)
    (same : canonical other = canonical value) :
    ∃ again, field.parse other = some again ∧ canonical again = canonical parsed := by
  have alike : other.isUndefined = value.isUndefined := by
    rw [← isUndefined_canonical, same, isUndefined_canonical]
  cases undefined : value.isUndefined with
  | true =>
    obtain ⟨optional, rfl⟩ := parse_undefined undefined accepted
    exact ⟨.undefined, by simp [parse, alike, undefined, optional], rfl⟩
  | false =>
    rw [undefined] at alike
    rw [parse_defined undefined] at accepted
    rw [parse_defined alike]
    exact field.schema.reads isProper accepted (isPlain alike) same

theorem Field.stable {value parsed : JsValue} (isProper : Proper value)
    (accepted : field.parse value = some parsed) :
    ∃ again, field.parse parsed = some again ∧ canonical again = canonical parsed := by
  cases undefined : value.isUndefined with
  | true =>
    obtain ⟨optional, rfl⟩ := parse_undefined undefined accepted
    exact ⟨.undefined, by simp [parse, optional, JsValue.isUndefined], rfl⟩
  | false =>
    rw [parse_defined undefined] at accepted
    rw [parse_defined (field.schema.proper isProper accepted).2]
    exact field.schema.stable isProper accepted

/-- The fields of an object schema. -/
structure Shape where
  fields : List Field
  distinct : (fields.map Field.key).Nodup

namespace Shape

def keys (shape : Shape) : List JsString := shape.fields.map Field.key

/-- The field of the extension, where it has one with that key. -/
def override (extension : Shape) (field : Field) : Field :=
  (extension.fields.find? fun other => other.key == field.key).getD field

theorem key_override (extension : Shape) (field : Field) : (extension.override field).key = field.key := by
  unfold override
  cases found : extension.fields.find? fun other => other.key == field.key with
  | none => rfl
  | some other => simpa using List.find?_some found

/-- `.extend(extension)`. -/
def extend (shape extension : Shape) : Shape where
  fields := shape.fields.map extension.override ++ extension.fields.filter fun field => !shape.keys.contains field.key
  distinct := by
    have kept : (shape.fields.map extension.override).map Field.key = shape.keys := by
      rw [List.map_map]
      exact List.map_congr_left fun field _ => extension.key_override field
    rw [List.map_append, kept, List.nodup_append]
    refine ⟨shape.distinct, extension.distinct.sublist (List.filter_sublist.map _), fun key member other otherMember same => ?_⟩
    obtain ⟨field, fieldMember, rfl⟩ := List.mem_map.mp otherMember
    have absent := (List.mem_filter.mp fieldMember).2
    rw [← same] at absent
    simp [member] at absent

end Shape

def parseFields (properties : Properties) : List Field → Option Properties
  | [] => some []
  | field :: rest => do
    let parsed ← field.parse (property properties field.key)
    let others ← parseFields properties rest
    -- An undefined property is kept where it was written down.
    return if parsed.isUndefined && !hasOwn properties field.key then others else (field.key, parsed) :: others

variable {properties : Properties} {parsed : Properties}

/-- What parsing gives for each field, and for nothing else. -/
theorem parseFields_spec {fields : List Field}
    (distinct : (fields.map Field.key).Nodup) (accepted : parseFields properties fields = some parsed) :
    (keysOf parsed).Sublist (fields.map Field.key) ∧
      (∀ field ∈ fields, field.parse (property properties field.key) = some (property parsed field.key)) ∧
      ∀ entry ∈ parsed, entry.2.isUndefined = true → entry.1 ∈ keysOf properties := by
  induction fields generalizing parsed with
  | nil =>
    cases accepted
    exact ⟨.slnil, by simp, by simp⟩
  | cons field rest ih =>
    simp only [parseFields, Option.bind_eq_bind, Option.bind_eq_some_iff, Option.pure_def, Option.some_inj] at accepted
    obtain ⟨value, isValue, others, areOthers, rfl⟩ := accepted
    rw [List.map_cons, List.nodup_cons] at distinct
    obtain ⟨within, each, own⟩ := ih distinct.2 areOthers
    have absent : field.key ∉ keysOf others := fun member => distinct.1 (within.subset member)
    have apart : ∀ other ∈ rest, field.key ≠ other.key := fun other member same =>
      distinct.1 (same ▸ List.mem_map_of_mem member)
    split
    next left_out =>
      simp only [Bool.and_eq_true, isUndefined_eq_true] at left_out
      refine ⟨within.cons _, fun other member => ?_, own⟩
      cases List.mem_cons.mp member with
      | inl here => rw [here, property_of_not_mem absent, isValue, left_out.1]
      | inr later => exact each other later
    next kept =>
      refine ⟨within.cons_cons _, fun other member => ?_, fun entry member undefined => ?_⟩
      · cases List.mem_cons.mp member with
        | inl here => rw [here, isValue, property, if_pos rfl]
        | inr later => rw [each other later, property, if_neg (apart other later)]
      · cases List.mem_cons.mp member with
        | inl here =>
          subst here
          simpa [undefined, hasOwn] using kept
        | inr later => exact own entry later undefined

theorem parseFields_total {fields : List Field}
    (each : ∀ field ∈ fields, ∃ parsed, field.parse (property properties field.key) = some parsed) :
    ∃ parsed, parseFields properties fields = some parsed := by
  induction fields with
  | nil => exact ⟨[], rfl⟩
  | cons field rest ih =>
    obtain ⟨value, isValue⟩ := each field List.mem_cons_self
    obtain ⟨others, areOthers⟩ := ih fun other member => each other (List.mem_cons_of_mem _ member)
    exact ⟨_, by simp only [parseFields, isValue, areOthers, Option.bind_eq_bind, Option.bind_some]; rfl⟩

inductive ObjectMode where
  /-- `z.object`: unknown keys are left out. -/
  | strip
  /-- `z.strictObject`: unknown keys are refused. -/
  | strict
  deriving DecidableEq

def knowsKeys (shape : Shape) (properties : Properties) : Bool :=
  (keysOf properties).all fun key => shape.keys.contains key

def parseObject (mode : ObjectMode) (shape : Shape) : JsValue → Option JsValue
  | .object properties =>
    if mode = .strict ∧ knowsKeys shape properties = false then none
    else (parseFields properties shape.fields).map .object
  | _ => none

variable {shape : Shape}

theorem parseObject_eq_some {mode : ObjectMode} {value parsed : JsValue} :
    parseObject mode shape value = some parsed ↔ ∃ properties results, value = .object properties ∧
      (mode = .strict → knowsKeys shape properties = true) ∧ parseFields properties shape.fields = some results ∧
      parsed = .object results := by
  constructor
  · intro accepted
    cases value with
    | object properties =>
      simp only [parseObject] at accepted
      split at accepted
      · cases accepted
      next known =>
        obtain ⟨results, areResults, rfl⟩ := Option.map_eq_some_iff.mp accepted
        exact ⟨properties, results, rfl, fun strict => by simpa [strict] using known, areResults, rfl⟩
    | _ => cases accepted
  · rintro ⟨properties, results, rfl, known, accepted, rfl⟩
    have passes : ¬(mode = .strict ∧ knowsKeys shape properties = false) := by
      rintro ⟨strict, unknown⟩
      rw [known strict] at unknown
      cases unknown
    simp [parseObject, if_neg passes, accepted]

theorem proper_property (each : ∀ entry ∈ properties, Proper entry.2) (key : JsString) :
    Proper (property properties key) := by
  by_cases own : key ∈ keysOf properties
  · exact each _ (property_mem own)
  · rw [property_of_not_mem own]
    exact .undefined

theorem plain_property (each : ∀ entry ∈ properties, Plain entry.2) {key : JsString}
    (defined : (property properties key).isUndefined = false) : Plain (property properties key) := by
  by_cases own : key ∈ keysOf properties
  · exact each _ (property_mem own)
  · rw [property_of_not_mem own] at defined
    cases defined

theorem canonical_parsed {left right leftParsed rightParsed : Properties}
    (leftAccepted : parseFields left shape.fields = some leftParsed)
    (rightAccepted : parseFields right shape.fields = some rightParsed)
    (same : ∀ field ∈ shape.fields, canonical (property leftParsed field.key) = canonical (property rightParsed field.key)) :
    canonical (.object leftParsed) = canonical (.object rightParsed) := by
  obtain ⟨leftWithin, _⟩ := parseFields_spec shape.distinct leftAccepted
  obtain ⟨rightWithin, _⟩ := parseFields_spec shape.distinct rightAccepted
  refine (canonical_object_iff (shape.distinct.sublist leftWithin) (shape.distinct.sublist rightWithin)).mpr fun key => ?_
  by_cases known : key ∈ shape.fields.map Field.key
  · obtain ⟨field, member, rfl⟩ := List.mem_map.mp known
    exact same field member
  · rw [property_of_not_mem fun member => known (leftWithin.subset member),
      property_of_not_mem fun member => known (rightWithin.subset member)]

theorem proper_parseFields (each : ∀ entry ∈ properties, Proper entry.2)
    (accepted : parseFields properties shape.fields = some parsed) : Proper (.object parsed) := by
  obtain ⟨within, spec, _⟩ := parseFields_spec shape.distinct accepted
  have distinct := shape.distinct.sublist within
  refine .object distinct fun entry member => ?_
  have known := within.subset (List.mem_map_of_mem (f := Prod.fst) member)
  obtain ⟨field, fieldMember, isKey⟩ := List.mem_map.mp known
  have value := property_of_entry distinct member
  have parsed := Field.proper (proper_property each field.key) (spec field fieldMember)
  rw [isKey, value] at parsed
  exact parsed.1

theorem parseFields_reads {others : Properties}
    (each : ∀ entry ∈ properties, Proper entry.2) (accepted : parseFields properties shape.fields = some parsed)
    (plain : ∀ entry ∈ others, Plain entry.2)
    (same : ∀ key, canonical (property others key) = canonical (property properties key)) :
    ∃ again, parseFields others shape.fields = some again ∧ canonical (.object again) = canonical (.object parsed) := by
  obtain ⟨_, spec, _⟩ := parseFields_spec shape.distinct accepted
  have fieldReads : ∀ field ∈ shape.fields, ∃ again, field.parse (property others field.key) = some again ∧
      canonical again = canonical (property parsed field.key) :=
    fun field member => Field.reads (proper_property each field.key) (spec field member)
      (fun defined => plain_property plain defined) (same field.key)
  obtain ⟨again, isAgain⟩ := parseFields_total fun field member => (fieldReads field member).imp fun _ read => read.1
  obtain ⟨_, againSpec, _⟩ := parseFields_spec shape.distinct isAgain
  refine ⟨again, isAgain, canonical_parsed isAgain accepted fun field member => ?_⟩
  obtain ⟨value, isValue, sameValue⟩ := fieldReads field member
  rw [againSpec field member, Option.some_inj] at isValue
  rw [isValue, sameValue]

theorem mem_keysOf_of_defined {key : JsString}
    (defined : (property properties key).isUndefined = false) : key ∈ keysOf properties := by
  by_contra absent
  rw [property_of_not_mem absent] at defined
  cases defined

/-- `z.object(shape)` or `z.strictObject(shape)`. -/
def object (mode : ObjectMode) (shape : Shape) : Schema where
  parse := parseObject mode shape
  proper := fun isProper accepted => by
    obtain ⟨properties, results, rfl, _, areResults, rfl⟩ := parseObject_eq_some.mp accepted
    cases isProper with
    | object _ each => exact ⟨proper_parseFields each areResults, rfl⟩
  plain := fun isPlain accepted => by
    obtain ⟨properties, results, rfl, _, areResults, rfl⟩ := parseObject_eq_some.mp accepted
    cases isPlain with
    | object distinct each =>
      obtain ⟨within, spec, own⟩ := parseFields_spec shape.distinct areResults
      refine .object (shape.distinct.sublist within) fun entry member => ?_
      have known := within.subset (List.mem_map_of_mem (f := Prod.fst) member)
      obtain ⟨field, fieldMember, isKey⟩ := List.mem_map.mp known
      have value := property_of_entry (shape.distinct.sublist within) member
      have parsed := spec field fieldMember
      rw [isKey, value] at parsed
      have alike := (Field.proper (proper_property (fun entry member => (each entry member).proper) entry.1) parsed).2
      cases undefined : (property properties entry.1).isUndefined with
      | true =>
        rw [undefined] at alike
        have plainOwn := (each _ (property_mem (own entry member alike))).isUndefined
        rw [undefined] at plainOwn
        cases plainOwn
      | false =>
        rw [Field.parse_defined undefined] at parsed
        exact field.schema.plain (plain_property each undefined) parsed
  reads := fun isProper accepted isPlain same => by
    obtain ⟨properties, results, rfl, known, areResults, rfl⟩ := parseObject_eq_some.mp accepted
    cases isProper with
    | object distinct each =>
      cases isPlain with
      | @object others othersDistinct othersPlain =>
        have agree := (canonical_object_iff othersDistinct distinct).mp same
        obtain ⟨again, isAgain, sameAgain⟩ := parseFields_reads each areResults othersPlain agree
        refine ⟨.object again, parseObject_eq_some.mpr ⟨others, again, rfl, fun strict => ?_, isAgain, rfl⟩, sameAgain⟩
        have knownKeys := known strict
        simp only [knowsKeys, List.all_eq_true] at knownKeys ⊢
        intro key own
        refine knownKeys key (mem_keysOf_of_defined ?_)
        rw [← isUndefined_canonical, ← agree, isUndefined_canonical]
        exact (othersPlain _ (property_mem own)).isUndefined
      | _ => simp [canonical] at same
  stable := fun isProper accepted => by
    obtain ⟨properties, results, rfl, _, areResults, rfl⟩ := parseObject_eq_some.mp accepted
    cases isProper with
    | object _ each =>
      obtain ⟨within, spec, _⟩ := parseFields_spec shape.distinct areResults
      have fieldStable : ∀ field ∈ shape.fields, ∃ again, field.parse (property results field.key) = some again ∧
          canonical again = canonical (property results field.key) :=
        fun field member => Field.stable (proper_property each field.key) (spec field member)
      obtain ⟨again, isAgain⟩ := parseFields_total fun field member => (fieldStable field member).imp fun _ read => read.1
      obtain ⟨_, againSpec, _⟩ := parseFields_spec shape.distinct isAgain
      refine ⟨.object again, parseObject_eq_some.mpr ⟨results, again, rfl, fun _ => ?_, isAgain, rfl⟩,
        canonical_parsed isAgain areResults fun field member => ?_⟩
      · simp only [knowsKeys, List.all_eq_true, List.contains_iff_mem]
        exact fun key own => within.subset own
      · obtain ⟨value, isValue, sameValue⟩ := fieldStable field member
        rw [againSpec field member, Option.some_inj] at isValue
        rw [isValue, sameValue]

/-! ## Checks and unions -/

/-- A schema of a union, with the tags that choose it; the result keeps its tag. -/
structure Variant (key : JsString) where
  tags : List JsString
  schema : Schema
  keeps : ∀ {value parsed : JsValue}, schema.parse value = some parsed → parsed.get key = value.get key

theorem canonical_get {left right : JsValue} (leftProper : Proper left) (rightProper : Proper right)
    (same : canonical left = canonical right) (key : JsString) : canonical (left.get key) = canonical (right.get key) := by
  cases leftProper with
  | object leftDistinct _ =>
    cases rightProper with
    | object rightDistinct _ => exact (canonical_object_iff leftDistinct rightDistinct).mp same key
    | _ => simp [canonical] at same
  | _ =>
    cases rightProper with
    | object => simp [canonical] at same
    | _ => rfl

theorem proper_get {value : JsValue} (isProper : Proper value) (key : JsString) : Proper (value.get key) := by
  cases isProper with
  | object _ each => exact proper_property each key
  | _ => exact .undefined

def parseUnion {key : JsString} (variants : List (Variant key)) (value : JsValue) : Option JsValue :=
  match value.get key with
  | .string tag => (variants.find? fun variant => variant.tags.contains tag).bind fun variant => variant.schema.parse value
  | _ => none

theorem parseUnion_eq_some {key : JsString} {variants : List (Variant key)} {value parsed : JsValue} :
    parseUnion variants value = some parsed ↔ ∃ tag variant, value.get key = .string tag ∧
      (variants.find? fun variant => variant.tags.contains tag) = some variant ∧ variant.schema.parse value = some parsed := by
  unfold parseUnion
  constructor
  · intro accepted
    split at accepted
    next tag isTag =>
      obtain ⟨variant, isVariant, isParsed⟩ := Option.bind_eq_some_iff.mp accepted
      exact ⟨tag, variant, isTag, isVariant, isParsed⟩
    · cases accepted
  · rintro ⟨tag, variant, isTag, isVariant, isParsed⟩
    simp only [isTag, isVariant, Option.bind_some, isParsed]

/-- `z.discriminatedUnion(key, variants)`. -/
def discriminatedUnion (key : JsString) (variants : List (Variant key)) : Schema where
  parse := parseUnion variants
  proper := fun isProper accepted => by
    obtain ⟨_, variant, _, _, isParsed⟩ := parseUnion_eq_some.mp accepted
    exact variant.schema.proper isProper isParsed
  plain := fun isPlain accepted => by
    obtain ⟨_, variant, _, _, isParsed⟩ := parseUnion_eq_some.mp accepted
    exact variant.schema.plain isPlain isParsed
  reads := fun isProper accepted isPlain same => by
    obtain ⟨tag, variant, isTag, isVariant, isParsed⟩ := parseUnion_eq_some.mp accepted
    obtain ⟨again, isAgain, sameAgain⟩ := variant.schema.reads isProper isParsed isPlain same
    have sameTag := canonical_get isPlain.proper isProper same key
    rw [isTag] at sameTag
    have otherTag := (IsScalar.string tag).eq_of_canonical (proper_get isPlain.proper key) sameTag
    exact ⟨again, parseUnion_eq_some.mpr ⟨tag, variant, otherTag, isVariant, isAgain⟩, sameAgain⟩
  stable := fun isProper accepted => by
    obtain ⟨tag, variant, isTag, isVariant, isParsed⟩ := parseUnion_eq_some.mp accepted
    obtain ⟨again, isAgain, sameAgain⟩ := variant.schema.stable isProper isParsed
    exact ⟨again, parseUnion_eq_some.mpr ⟨tag, variant, (variant.keeps isParsed).trans isTag, isVariant, isAgain⟩, sameAgain⟩

namespace Shape

theorem mem_extend_base {extension : Shape} (member : field ∈ shape.fields)
    (kept : field.key ∉ extension.keys) : field ∈ (shape.extend extension).fields := by
  refine List.mem_append_left _ (List.mem_map.mpr ⟨field, member, ?_⟩)
  have none : (extension.fields.find? fun other => other.key == field.key) = none := by
    refine List.find?_eq_none.mpr fun other otherMember same => kept ?_
    rw [← beq_iff_eq.mp same]
    exact List.mem_map_of_mem otherMember
  rw [override, none]
  rfl

theorem mem_extend_extension {extension : Shape} (member : field ∈ extension.fields) :
    field ∈ (shape.extend extension).fields := by
  by_cases known : field.key ∈ shape.keys
  · obtain ⟨old, oldMember, sameKey⟩ := List.mem_map.mp known
    refine List.mem_append_left _ (List.mem_map.mpr ⟨old, oldMember, ?_⟩)
    unfold override
    cases found : extension.fields.find? fun other => other.key == old.key with
    | none =>
      have other := List.find?_eq_none.mp found field member
      simp [sameKey] at other
    | some other =>
      have otherKey : other.key = old.key := by simpa using List.find?_some found
      exact List.inj_on_of_nodup_map extension.distinct (List.mem_of_find?_eq_some found) member (otherKey.trans sameKey)
  · refine List.mem_append_right _ (List.mem_filter.mpr ⟨member, ?_⟩)
    simpa using known

end Shape

theorem parse_enum {texts : List JsString} {value parsed : JsValue} (accepted : (enum texts).parse value = some parsed) :
    parsed = value ∧ ∃ text ∈ texts, value = .string text := by
  obtain ⟨text, rfl, checked, rfl⟩ := parseString_eq_some.mp accepted
  exact ⟨rfl, text, by simpa using checked, rfl⟩

theorem parseObject_keeps_enum {mode : ObjectMode} {key : JsString} {texts : List JsString}
    (member : ⟨key, enum texts, false⟩ ∈ shape.fields) {value parsed : JsValue}
    (accepted : parseObject mode shape value = some parsed) : parsed.get key = value.get key := by
  obtain ⟨properties, results, rfl, _, areResults, rfl⟩ := parseObject_eq_some.mp accepted
  obtain ⟨_, spec, _⟩ := parseFields_spec shape.distinct areResults
  have isField := spec _ member
  simp only [Field.parse, Bool.false_eq_true, if_false] at isField
  split at isField
  · cases isField
  · exact (parse_enum isField).1

/-- An object schema of a union: its fields, and its tag. -/
def Variant.object (key : JsString) (tags : List String) (mode : ObjectMode) (shape : Shape) : Variant key where
  tags := tags.map utf16
  schema := Schema.object mode (shape.extend ⟨[⟨key, enum (tags.map utf16), false⟩], by simp⟩)
  keeps := fun accepted =>
    @parseObject_keeps_enum _ _ key (tags.map utf16) (Shape.mem_extend_extension (by simp)) _ _ accepted

/-! ## Admitted values -/

end Schema

end SiftKit.Json
