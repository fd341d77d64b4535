import SiftKit.Foundation.Failure
import SiftKit.Graph.Vocabulary
import SiftKit.Json.Validation

/-! # Literal values and assertion keys

`normalizeLiteralValue` and `buildAssertionKey` of `assistant/domain/keys.ts`.  A key is a digest of
its parts, joined so that they are read back from the text, and digests do not collide: here it is
the parts themselves.
-/

namespace SiftKit.Graph

open SiftKit.Failure SiftKit.Json
open SiftKit.Json.Schema (isWhiteSpace trim)

abbrev ErrorMessage := JsString

/-- What the platform knows of Unicode and of dates. -/
structure TextPlatform where
  /-- `text.normalize('NFC')`. -/
  nfc : JsString → JsString
  toLowerCase : JsString → JsString
  /-- `Date.parse`, none for `NaN`. -/
  dateParse : JsString → Option Int
  /-- `new Date(instant).toISOString()`. -/
  toISOString : Int → JsString

/-! ## Literals -/

/-- `text.replace(/\s+/g, ' ')`, inside a run of white space or not. -/
def collapseWhiteSpace (inside : Bool) : JsString → JsString
  | [] => []
  | unit :: rest =>
    if isWhiteSpace unit then
      if inside then collapseWhiteSpace true rest else 0x20 :: collapseWhiteSpace true rest
    else unit :: collapseWhiteSpace false rest

/-- `/^\d{4}-\d{2}-\d{2}$/.test(text)`. -/
def isDateText : JsString → Bool
  | [year₁, year₂, year₃, year₄, dash₁, month₁, month₂, dash₂, day₁, day₂] =>
    [year₁, year₂, year₃, year₄, month₁, month₂, day₁, day₂].all isDigit && dash₁ == 0x2D && dash₂ == 0x2D
  | _ => false

/-- `Number.isInteger(value)`. -/
def isInteger (value : Decimal) : Bool := decide (0 ≤ value.exponent)

section

variable (platform : TextPlatform)

/-- Trim, normalize, collapse internal white space, lowercase. -/
def normalizeAliasText (value : JsString) : JsString :=
  platform.toLowerCase (collapseWhiteSpace false (trim (platform.nfc value)))

/-- The text of a value of its declared type, or why it is none. -/
def normalizeLiteralValue : ObjectValueType → JsValue → Except ErrorMessage JsString
  | .string, .string text => .ok (normalizeAliasText platform text)
  | .string, _ => .error (utf16 "Literal string expects a string value.")
  | .integer, .number value =>
    if isInteger value then .ok value.text else .error (utf16 "Literal integer expects an integer value.")
  | .integer, _ => .error (utf16 "Literal integer expects an integer value.")
  | .number, .number value => .ok value.text
  | .number, .nonFinite => .error (utf16 "Literal number must be finite")
  | .number, _ => .error (utf16 "Literal number expects a numeric value.")
  | .boolean, .boolean value => .ok (utf16 (if value then "true" else "false"))
  | .boolean, _ => .error (utf16 "Literal boolean expects a boolean value.")
  | .date, .string text =>
    if isDateText text then .ok text else .error (utf16 "Literal date expects YYYY-MM-DD.")
  | .date, _ => .error (utf16 "Literal date expects YYYY-MM-DD.")
  | .datetime, .string text =>
    match platform.dateParse text with
    | some instant => .ok (platform.toISOString instant)
    | none => .error (utf16 "Literal datetime is unparseable: " ++ text)
  | .datetime, _ => .error (utf16 "Literal datetime expects a string.")
  | .duration, .string text =>
    if text.head? = some 0x50 then .ok text else .error (utf16 "Literal duration expects an ISO-8601 duration.")
  | .duration, _ => .error (utf16 "Literal duration expects an ISO-8601 duration.")
  | .quantity, .object properties =>
    match property properties (utf16 "amount"), property properties (utf16 "unit") with
    | .number amount, .string unit => .ok (amount.text ++ 0x20 :: platform.toLowerCase (trim unit))
    | .nonFinite, .string _ => .error (utf16 "Literal number must be finite")
    | _, _ => .error (utf16 "Literal quantity expects \x7b amount: number, unit: string \x7d.")
  | .quantity, _ => .error (utf16 "Literal quantity expects \x7b amount, unit \x7d.")
  | .json, value => .ok (stableStringify value)

/-! ## Keys -/

/-- `AssertionObjectRef`: a node, or a value of a declared type. -/
inductive AssertionObject where
  | node (nodeId : String)
  | literal (valueType : ObjectValueType) (value : JsValue)

/-- `assertionObjectKey`. -/
inductive ObjectKey where
  | node (nodeId : String)
  | literal (valueType : ObjectValueType) (text : JsString)
  deriving DecidableEq

structure AssertionKey where
  subjectNodeId : String
  predicate : RelationType
  object : ObjectKey
  scopeNodeId : Option String
  deriving DecidableEq

def assertionObjectKey : AssertionObject → Except ErrorMessage ObjectKey
  | .node nodeId => .ok (.node nodeId)
  | .literal valueType value => do
    let text ← normalizeLiteralValue platform valueType value
    return .literal valueType text

def buildAssertionKey (subjectNodeId : String) (predicate : RelationType) (object : AssertionObject)
    (scopeNodeId : Option String) : Except ErrorMessage AssertionKey := do
  let objectKey ← assertionObjectKey platform object
  return ⟨subjectNodeId, predicate, objectKey, scopeNodeId⟩

theorem buildAssertionKey_eq_ok {subjectNodeId : String} {predicate : RelationType} {object : AssertionObject}
    {scopeNodeId : Option String} {key : AssertionKey} :
    buildAssertionKey platform subjectNodeId predicate object scopeNodeId = .ok key ↔
      ∃ objectKey, assertionObjectKey platform object = .ok objectKey ∧
        ⟨subjectNodeId, predicate, objectKey, scopeNodeId⟩ = key := by
  simp only [buildAssertionKey, bind_eq_ok, pure_eq_ok]

end

end SiftKit.Graph
