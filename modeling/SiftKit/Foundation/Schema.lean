import Mathlib.Data.List.Basic

/-! # Schema validation

The combinators of a schema library over typed values: a schema is a function that
returns the parsed value, or `none` where the library throws.  A parsed value may differ
from the given one (text is trimmed), so each schema says which part of a value it keeps.
-/

namespace SiftKit.Schema

variable {Value Key : Type}

/-! ## Text and numbers -/

/-- What `String.prototype.trim` strips: white space, line ends and the byte order mark. -/
def isWhiteSpace (character : Char) : Bool :=
  let code := character.toNat
  (9 ≤ code && code ≤ 13) || code == 0x20 || code == 0xA0 || code == 0x1680 ||
    (0x2000 ≤ code && code ≤ 0x200A) || code == 0x2028 || code == 0x2029 || code == 0x202F ||
    code == 0x205F || code == 0x3000 || code == 0xFEFF

def trim (text : String) : String :=
  String.ofList ((text.toList.dropWhile isWhiteSpace).reverse.dropWhile isWhiteSpace).reverse

/-- `z.string().min(1)`. -/
def nonEmpty (text : String) : Option String :=
  if text.isEmpty then none else some text

/-- `z.string().trim().min(1)`. -/
def trimmedNonEmpty (text : String) : Option String := nonEmpty (trim text)

/-- A check that hands the value on unchanged. -/
def refine (accepts : Value → Bool) (value : Value) : Option Value :=
  if accepts value then some value else none

/-- `Number.MAX_SAFE_INTEGER`, the bound of every integer schema. -/
def maxSafeInteger : Nat := 9007199254740991

def nonnegativeInt (number : Nat) : Option Nat := refine (fun value => value ≤ maxSafeInteger) number

def positiveInt (number : Nat) : Option Nat :=
  refine (fun value => 1 ≤ value && value ≤ maxSafeInteger) number

def int (number : Int) : Option Int :=
  refine (fun value => -(maxSafeInteger : Int) ≤ value && value ≤ (maxSafeInteger : Int)) number

@[simp] theorem nonEmpty_eq_some {text parsed : String} :
    nonEmpty text = some parsed ↔ text.isEmpty = false ∧ text = parsed := by
  simp [nonEmpty]

@[simp] theorem refine_eq_some {accepts : Value → Bool} {value parsed : Value} :
    refine accepts value = some parsed ↔ accepts value = true ∧ value = parsed := by
  simp [refine]

@[simp] theorem nonnegativeInt_eq_some {number parsed : Nat} :
    nonnegativeInt number = some parsed ↔ number ≤ maxSafeInteger ∧ number = parsed := by
  simp [nonnegativeInt]

@[simp] theorem positiveInt_eq_some {number parsed : Nat} :
    positiveInt number = some parsed ↔ (1 ≤ number ∧ number ≤ maxSafeInteger) ∧ number = parsed := by
  simp [positiveInt]

/-- `/^[a-z0-9]+(?:-[a-z0-9]+)*$/u`: words of lower-case letters and digits, joined by hyphens. -/
def isKebabCase (text : String) : Bool :=
  (text.toList.splitOn '-').all fun word =>
    !word.isEmpty && word.all fun character => character.isLower || character.isDigit

/-! ## Containers -/

def nullable (schema : Value → Option Value) : Option Value → Option (Option Value)
  | none => some none
  | some value => (schema value).map some

def array (schema : Value → Option Value) (values : List Value) : Option (List Value) :=
  values.mapM schema

/-- `z.array(schema).min(1)`. -/
def arrayMinOne (schema : Value → Option Value) (values : List Value) : Option (List Value) := do
  refine (fun parsed => !parsed.isEmpty) (← array schema values)

/-! ## What a schema keeps -/

/-- Parsing keeps `key` of every value it accepts. -/
def Keeps (schema : Value → Option Value) (key : Value → Key) : Prop :=
  ∀ ⦃value parsed : Value⦄, schema value = some parsed → key parsed = key value

theorem Keeps.array {schema : Value → Option Value} {key : Value → Key} (keeps : Keeps schema key) :
    Keeps (array schema) (List.map key) := by
  intro values
  induction values with
  | nil =>
    intro parsed accepted
    cases accepted
    rfl
  | cons value rest ih =>
    intro parsed accepted
    simp only [Schema.array, List.mapM_cons, Option.pure_def, Option.bind_eq_bind,
      Option.bind_eq_some_iff, Option.some.injEq] at accepted
    obtain ⟨first, firstAccepted, others, othersAccepted, rfl⟩ := accepted
    have tail := ih othersAccepted
    simp only [List.map_cons, keeps firstAccepted, tail]

end SiftKit.Schema
