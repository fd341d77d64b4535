import SiftKit.Json.Validation

/-! # Object literals and the fields of an object

What a program writes as an object literal, and how it reads the fields of a value it parsed.
-/

namespace SiftKit.Json

/-! ## Reading -/

def JsValue.textOf : JsValue → JsString
  | .string text => text
  | _ => []

/-- A natural number, where the value is one. -/
def JsValue.naturalOf : JsValue → Nat
  | .number value => value.natural.getD 0
  | _ => 0

/-- The items, where the value is an array. -/
def JsValue.itemsOf : JsValue → List JsValue
  | .array items => items
  | _ => []

def JsValue.ofNat (number : Nat) : JsValue := .number (.ofNat number)

/-- `null` or a text. -/
def JsValue.ofText? : Option JsString → JsValue
  | none => .null
  | some text => .string text

@[simp] theorem textOf_string (text : JsString) : (JsValue.string text).textOf = text := rfl

/-! ## The same JSON -/

/-- Two values that a program takes for the same JSON. -/
structure SameJson (left right : JsValue) : Prop where
  leftProper : Proper left
  rightProper : Proper right
  canonical : canonical left = canonical right

namespace SameJson

variable {left right : JsValue}

theorem symm (same : SameJson left right) : SameJson right left := ⟨same.rightProper, same.leftProper, same.canonical.symm⟩

theorem trans {last : JsValue} (same : SameJson left right) (next : SameJson right last) : SameJson left last :=
  ⟨same.leftProper, next.rightProper, same.canonical.trans next.canonical⟩

section

variable (same : SameJson left right)

include same

theorem get (key : JsString) : SameJson (left.get key) (right.get key) :=
  ⟨Schema.proper_get same.leftProper key, Schema.proper_get same.rightProper key,
    Schema.canonical_get same.leftProper same.rightProper same.canonical key⟩

theorem textOf : left.textOf = right.textOf := by
  obtain ⟨leftProper, rightProper, canonical⟩ := same
  cases leftProper with
  | string text => rw [(Schema.IsScalar.string text).eq_of_canonical rightProper canonical.symm]
  | _ => cases rightProper <;> simp_all [Json.canonical, JsValue.textOf]

theorem naturalOf : left.naturalOf = right.naturalOf := by
  obtain ⟨leftProper, rightProper, canonical⟩ := same
  cases leftProper with
  | number value => rw [(Schema.IsScalar.number value).eq_of_canonical rightProper canonical.symm]
  | _ => cases rightProper <;> simp_all [Json.canonical, JsValue.naturalOf]

theorem itemsOf : List.Forall₂ SameJson left.itemsOf right.itemsOf := by
  obtain ⟨leftProper, rightProper, canonical⟩ := same
  cases leftProper with
  | @array leftItems leftDefined leftEach =>
    cases rightProper with
    | @array rightItems rightDefined rightEach =>
      have items := (Schema.canonical_array_of_defined leftDefined rightDefined).mp canonical
      simp only [JsValue.itemsOf]
      clear canonical leftDefined rightDefined
      induction leftItems generalizing rightItems with
      | nil =>
        rw [List.map_nil, eq_comm, List.map_eq_nil_iff] at items
        rw [items]
        exact .nil
      | cons item rest ih =>
        obtain ⟨other, others, rfl, sameItem, sameRest⟩ := List.map_eq_cons_iff.mp (items.symm)
        rw [List.forall_mem_cons] at leftEach rightEach
        exact .cons ⟨leftEach.1, rightEach.1, sameItem.symm⟩ (ih leftEach.2 rightEach.2 sameRest.symm)
    | _ => simp [Json.canonical] at canonical
  | _ => cases rightProper <;> simp_all [Json.canonical, JsValue.itemsOf]

theorem isUndefined : left.isUndefined = right.isUndefined := by
  rw [← isUndefined_canonical, same.canonical, isUndefined_canonical]

end

theorem eq_string {text : JsString} (same : SameJson (.string text) right) : right = .string text :=
  (Schema.IsScalar.string text).eq_of_canonical same.rightProper same.canonical.symm

end SameJson

/-! ## Literals -/

def literalProperties (entries : List (String × JsValue)) : Properties := entries.map fun entry => (utf16 entry.1, entry.2)

/-- `{ name: value, … }`. -/
def JsValue.literal (entries : List (String × JsValue)) : JsValue := .object (literalProperties entries)

variable (entries : List (String × JsValue))

@[simp] theorem property_literal (name : String) :
    property (literalProperties entries) (utf16 name) = (entries.lookup name).getD .undefined := by
  induction entries with
  | nil => rfl
  | cons entry rest ih =>
    obtain ⟨first, value⟩ := entry
    simp only [literalProperties, List.map_cons, property, utf16_inj] at ih ⊢
    by_cases same : first = name
    · simp [same]
    · have apart : (name == first) = false := by simpa using Ne.symm same
      simp only [if_neg same, ih, List.lookup_cons, apart]

@[simp] theorem get_literal (name : String) :
    (JsValue.literal entries).get (utf16 name) = (entries.lookup name).getD .undefined :=
  property_literal entries name

theorem keysOf_literal : keysOf (literalProperties entries) = (entries.map Prod.fst).map utf16 := by
  simp [keysOf, literalProperties]

theorem utf16_injective : Function.Injective utf16 := fun _ _ same => utf16_inj.mp same

variable {entries : List (String × JsValue)}

theorem nodup_literal (distinct : (entries.map Prod.fst).Nodup) :
    (keysOf (literalProperties entries)).Nodup := by
  rw [keysOf_literal]
  exact distinct.map utf16_injective

theorem proper_literal (distinct : (entries.map Prod.fst).Nodup)
    (each : ∀ entry ∈ entries, Proper entry.2) : Proper (JsValue.literal entries) := by
  refine .object (nodup_literal distinct) fun entry member => ?_
  obtain ⟨original, originalMember, rfl⟩ := List.mem_map.mp member
  exact each original originalMember

/-! ## Any JSON -/

namespace Schema

mutual

/-- A value that JSON can say: nothing undefined, no `NaN`, no infinity. -/
def isJson : JsValue → Bool
  | .undefined => false
  | .nonFinite => false
  | .array items => areJson items
  | .object properties => areJsonProperties properties
  | _ => true
termination_by structural value => value

def areJson : List JsValue → Bool
  | [] => true
  | item :: rest => isJson item && areJson rest
termination_by structural items => items

def areJsonProperties : List (JsString × JsValue) → Bool
  | [] => true
  | (_, value) :: rest => isJson value && areJsonProperties rest
termination_by structural properties => properties

end

theorem areJson_eq (items : List JsValue) : areJson items = items.all isJson := by
  induction items with
  | nil => rfl
  | cons item rest ih => rw [areJson, ih, List.all_cons]

theorem areJsonProperties_eq (properties : Properties) :
    areJsonProperties properties = properties.all fun entry => isJson entry.2 := by
  induction properties with
  | nil => rfl
  | cons entry rest ih =>
    obtain ⟨key, value⟩ := entry
    rw [areJsonProperties, ih, List.all_cons]

theorem Plain.isJson {value : JsValue} (plain : Plain value) : isJson value = true := by
  induction plain with
  | array _ ih =>
    rw [Schema.isJson, areJson_eq, List.all_eq_true]
    exact ih
  | object _ _ ih =>
    rw [Schema.isJson, areJsonProperties_eq, List.all_eq_true]
    exact ih
  | _ => rfl

theorem isUndefined_of_isJson {value : JsValue} (json : isJson value = true) : value.isUndefined = false := by
  cases value with
  | undefined => cases json
  | _ => rfl

/-- `z.json()`, of values that pass a further check of their form. -/
def jsonWhere (check : JsValue → Bool)
    (lawful : ∀ {left right : JsValue}, Proper left → Proper right → canonical left = canonical right → check left = check right) :
    Schema where
  parse := fun value => if isJson value && check value then some value else none
  proper := fun isProper accepted => by
    rw [Option.ite_none_right_eq_some, Bool.and_eq_true] at accepted
    obtain ⟨⟨json, _⟩, same⟩ := accepted
    cases same
    exact ⟨isProper, isUndefined_of_isJson json⟩
  plain := fun isPlain accepted => by
    rw [Option.ite_none_right_eq_some] at accepted
    cases accepted.2
    exact isPlain
  reads := fun {value _ other} isProper accepted isPlain same => by
    rw [Option.ite_none_right_eq_some, Bool.and_eq_true] at accepted
    obtain ⟨⟨_, checked⟩, isValue⟩ := accepted
    cases isValue
    refine ⟨other, ?_, same⟩
    rw [if_pos (by rw [Plain.isJson isPlain, lawful isPlain.proper isProper same, checked]; rfl)]
  stable := fun {value _} isProper accepted => by
    have again := accepted
    rw [Option.ite_none_right_eq_some] at accepted
    cases accepted.2
    exact ⟨_, again, rfl⟩

/-- `z.json()`. -/
def json : Schema := jsonWhere (fun _ => true) fun _ _ _ => rfl

def isObject : JsValue → Bool
  | .object _ => true
  | _ => false

/-- `z.record(z.string(), z.json())`. -/
def jsonRecord : Schema := jsonWhere isObject fun leftProper rightProper same => by
  cases leftProper <;> cases rightProper <;> simp_all [canonical, isObject]

end Schema

end SiftKit.Json
