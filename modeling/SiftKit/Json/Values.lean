import SiftKit.Json.Numbers

/-! # Values and their JSON text

The values that `JSON.stringify` is given: a property may be `undefined`, and then it is left
out.  `compact` is what is left of a value after it was written and read, `canonical` is that
with the keys of every object in order: two values are the same JSON when these agree.
-/

namespace SiftKit.Json

inductive JsValue where
  | undefined
  | null
  | boolean (value : Bool)
  | number (value : Decimal)
  /-- `NaN` and the infinities, which JSON writes as `null`. -/
  | nonFinite
  | string (text : JsString)
  | array (items : List JsValue)
  | object (properties : List (JsString × JsValue))

abbrev Properties := List (JsString × JsValue)

/-- Induction over the items of arrays and the properties of objects. -/
@[induction_eliminator]
theorem JsValue.induction {motive : JsValue → Prop} (undefined : motive .undefined) (null : motive .null)
    (boolean : ∀ value, motive (.boolean value)) (number : ∀ value, motive (.number value))
    (nonFinite : motive .nonFinite) (string : ∀ text, motive (.string text))
    (array : ∀ items, (∀ item ∈ items, motive item) → motive (.array items))
    (object : ∀ properties, (∀ property ∈ properties, motive property.2) → motive (.object properties))
    (value : JsValue) : motive value := by
  refine @JsValue.rec motive (fun items => ∀ item ∈ items, motive item)
    (fun properties => ∀ property ∈ properties, motive property.2) (fun property => motive property.2)
    undefined null boolean number nonFinite string array object ?_ ?_ ?_ ?_ ?_ value
  · simp
  · simp_all
  · simp
  · simp_all
  · simp

/-! ## Properties -/

/-- `value.key`, for the properties of an object. -/
def property : Properties → JsString → JsValue
  | [], _ => .undefined
  | (name, value) :: rest, key => if name = key then value else property rest key

def keysOf (properties : Properties) : List JsString := properties.map Prod.fst

def hasOwn (properties : Properties) (key : JsString) : Bool := (keysOf properties).contains key

/-- `object.key = value`: in place if the key is there, else at the end. -/
def define : Properties → JsString → JsValue → Properties
  | [], key, value => [(key, value)]
  | (name, old) :: rest, key, value =>
    if name = key then (key, value) :: rest else (name, old) :: define rest key value

/-- `value.key`: undefined where the value is no object. -/
def JsValue.get : JsValue → JsString → JsValue
  | .object properties, key => property properties key
  | _, _ => .undefined

variable {value : JsValue} (items : List JsValue) (properties : Properties)

section

variable {properties : Properties}

theorem property_of_mem (distinct : (keysOf properties).Nodup) {key : JsString}
    (member : (key, value) ∈ properties) : property properties key = value := by
  induction properties with
  | nil => cases member
  | cons head rest ih =>
    obtain ⟨name, other⟩ := head
    rw [keysOf, List.map_cons, List.nodup_cons] at distinct
    cases List.mem_cons.mp member with
    | inl here =>
      cases here
      simp [property]
    | inr later =>
      have apart : name ≠ key := by
        intro same
        subst same
        exact distinct.1 (List.mem_map.mpr ⟨_, later, rfl⟩)
      rw [property, if_neg apart]
      exact ih distinct.2 later

theorem property_of_entry (distinct : (keysOf properties).Nodup) {entry : JsString × JsValue}
    (member : entry ∈ properties) : property properties entry.1 = entry.2 :=
  property_of_mem distinct member

theorem property_mem {key : JsString} (own : key ∈ keysOf properties) :
    (key, property properties key) ∈ properties := by
  induction properties with
  | nil => cases own
  | cons head rest ih =>
    obtain ⟨name, value⟩ := head
    by_cases same : name = key
    · simp [property, same]
    · have later : key ∈ keysOf rest := by
        simpa [keysOf, Ne.symm same] using own
      simp only [property, if_neg same]
      exact List.mem_cons_of_mem _ (ih later)

theorem property_of_not_mem {key : JsString} (absent : key ∉ keysOf properties) :
    property properties key = .undefined := by
  induction properties with
  | nil => rfl
  | cons head rest ih =>
    obtain ⟨name, value⟩ := head
    simp only [keysOf, List.map_cons, List.mem_cons, not_or] at absent
    rw [property, if_neg (Ne.symm absent.1)]
    exact ih absent.2

end

/-! ## Writing -/

/-- `texts.join(',')`. -/
def commaSeparated : List JsString → JsString
  | [] => []
  | [text] => text
  | text :: rest => text ++ 0x2C :: commaSeparated rest

mutual

/-- `JSON.stringify(value ?? null)`. -/
def stringify : JsValue → JsString
  | .undefined => utf16 "null"
  | .null => utf16 "null"
  | .boolean true => utf16 "true"
  | .boolean false => utf16 "false"
  | .number value => value.text
  | .nonFinite => utf16 "null"
  | .string text => quoted text
  | .array items => 0x5B :: (commaSeparated (stringifyItems items) ++ [0x5D])
  | .object properties => 0x7B :: (commaSeparated (stringifyProperties properties) ++ [0x7D])
termination_by structural value => value

def stringifyItems : List JsValue → List JsString
  | [] => []
  | item :: rest => stringify item :: stringifyItems rest
termination_by structural items => items

def stringifyProperties : List (JsString × JsValue) → List JsString
  | [] => []
  | (_, .undefined) :: rest => stringifyProperties rest
  | (key, value) :: rest => (quoted key ++ 0x3A :: stringify value) :: stringifyProperties rest
termination_by structural properties => properties

end

/-! ## What is left of a value -/

/-- `value ?? null`. -/
def JsValue.orNull : JsValue → JsValue
  | .undefined => .null
  | value => value

mutual

/-- `JSON.parse(JSON.stringify(value))`; an undefined value stays undefined. -/
def compact : JsValue → JsValue
  | .nonFinite => .null
  | .array items => .array (compactItems items)
  | .object properties => .object (compactProperties properties)
  | value => value
termination_by structural value => value

def compactItems : List JsValue → List JsValue
  | [] => []
  | item :: rest => (compact item).orNull :: compactItems rest
termination_by structural items => items

def compactProperties : List (JsString × JsValue) → List (JsString × JsValue)
  | [] => []
  | (_, .undefined) :: rest => compactProperties rest
  | (key, value) :: rest => (key, compact value) :: compactProperties rest
termination_by structural properties => properties

end

def JsValue.isUndefined : JsValue → Bool
  | .undefined => true
  | _ => false

/-- JSON loses nothing of it but undefined properties: no key stands twice, numbers are finite, items are defined. -/
inductive Proper : JsValue → Prop where
  | undefined : Proper .undefined
  | null : Proper .null
  | boolean (value : Bool) : Proper (.boolean value)
  | number (value : Decimal) : Proper (.number value)
  | string (text : JsString) : Proper (.string text)
  | array {items : List JsValue} (defined : ∀ item ∈ items, item.isUndefined = false)
      (each : ∀ item ∈ items, Proper item) : Proper (.array items)
  | object {properties : Properties} (distinct : (keysOf properties).Nodup)
      (each : ∀ entry ∈ properties, Proper entry.2) : Proper (.object properties)

/-- JSON loses nothing of it. -/
inductive Plain : JsValue → Prop where
  | null : Plain .null
  | boolean (value : Bool) : Plain (.boolean value)
  | number (value : Decimal) : Plain (.number value)
  | string (text : JsString) : Plain (.string text)
  | array {items : List JsValue} (each : ∀ item ∈ items, Plain item) : Plain (.array items)
  | object {properties : Properties} (distinct : (keysOf properties).Nodup)
      (each : ∀ entry ∈ properties, Plain entry.2) : Plain (.object properties)

/-- The properties that JSON keeps. -/
def stated (properties : Properties) : Properties := properties.filter fun entry => !entry.2.isUndefined

theorem isUndefined_eq_true : value.isUndefined = true ↔ value = .undefined := by
  cases value <;> simp [JsValue.isUndefined]

@[simp] theorem isUndefined_compact (value : JsValue) : (compact value).isUndefined = value.isUndefined := by
  cases value <;> rfl

@[simp] theorem orNull_array : (JsValue.array items).orNull = .array items := rfl

@[simp] theorem orNull_object : (JsValue.object properties).orNull = .object properties := rfl

theorem orNull_of_stated (given : value.isUndefined = false) : value.orNull = value := by
  cases value with
  | undefined => cases given
  | _ => rfl

theorem Plain.isUndefined (plain : Plain value) : value.isUndefined = false := by
  cases plain <;> rfl

theorem Plain.proper (plain : Plain value) : Proper value := by
  induction plain with
  | null => exact .null
  | boolean value => exact .boolean value
  | number value => exact .number value
  | string text => exact .string text
  | array each ih => exact .array (fun item member => (each item member).isUndefined) ih
  | object distinct _ ih => exact .object distinct ih

theorem stringifyItems_eq : stringifyItems items = items.map stringify := by
  induction items with
  | nil => rfl
  | cons item rest ih => rw [stringifyItems, ih, List.map_cons]

theorem compactItems_eq : compactItems items = items.map fun item => (compact item).orNull := by
  induction items with
  | nil => rfl
  | cons item rest ih => rw [compactItems, ih, List.map_cons]

theorem stringifyProperties_eq :
    stringifyProperties properties = (stated properties).map fun entry => quoted entry.1 ++ 0x3A :: stringify entry.2 := by
  induction properties with
  | nil => rfl
  | cons entry rest ih =>
    obtain ⟨key, value⟩ := entry
    cases value with
    | undefined => simpa [stringifyProperties, stated, JsValue.isUndefined] using ih
    | _ => simpa [stringifyProperties, stated, JsValue.isUndefined] using ih

theorem compactProperties_eq :
    compactProperties properties = (stated properties).map fun entry => (entry.1, compact entry.2) := by
  induction properties with
  | nil => rfl
  | cons entry rest ih =>
    obtain ⟨key, value⟩ := entry
    cases value with
    | undefined => simpa [compactProperties, stated, JsValue.isUndefined] using ih
    | _ => simpa [compactProperties, stated, JsValue.isUndefined] using ih

theorem keysOf_stated_sublist : (keysOf (stated properties)).Sublist (keysOf properties) :=
  List.filter_sublist.map Prod.fst

theorem keysOf_compactProperties : keysOf (compactProperties properties) = keysOf (stated properties) := by
  rw [compactProperties_eq, keysOf, List.map_map]
  rfl

/-- What is left of a value loses nothing more. -/
theorem Proper.plain (proper : Proper value) (given : value.isUndefined = false) : Plain (compact value) := by
  induction value with
  | array items ih =>
    cases proper with
    | array defined each =>
      rw [compact, compactItems_eq]
      refine .array fun item member => ?_
      obtain ⟨original, originalMember, rfl⟩ := List.mem_map.mp member
      have isGiven := defined original originalMember
      rw [orNull_of_stated (by rwa [isUndefined_compact])]
      exact ih original originalMember (each original originalMember) isGiven
  | object properties ih =>
    cases proper with
    | object distinct each =>
      rw [compact]
      refine .object ?_ fun entry member => ?_
      · rw [keysOf_compactProperties]
        exact distinct.sublist (keysOf_stated_sublist properties)
      · rw [compactProperties_eq] at member
        obtain ⟨original, originalMember, rfl⟩ := List.mem_map.mp member
        obtain ⟨own, isGiven⟩ := List.mem_filter.mp originalMember
        exact ih original own (each original own) (by simpa using isGiven)
  | nonFinite => cases proper
  | undefined => cases given
  | null => exact .null
  | boolean value => exact .boolean value
  | number value => exact .number value
  | string text => exact .string text

end SiftKit.Json
