import SiftKit.Json.Validation

/-! # Numbers read from text

`Number(text)`: white space around a literal is passed over, an empty text is zero, and a literal is rounded to the
nearest number of double precision.
-/

namespace SiftKit.Json

open SiftKit.Json.Schema (trim)

/-! ## Rounding -/

/-- The nearer whole number, of two equally near the even one. -/
def roundHalfEven (value : ℚ) : Int :=
  let below := value.floor
  let excess := value - below
  if excess < 1 / 2 then below
  else if 1 / 2 < excess then below + 1
  else if below % 2 = 0 then below else below + 1

def powerOfTwo (exponent : Int) : ℚ :=
  if 0 ≤ exponent then (2 ^ exponent.toNat : Nat) else 1 / (2 ^ (-exponent).toNat : Nat)

/-- The exponent of the greatest power of two that is no more than a positive value. -/
def binaryExponent (value : ℚ) : Int :=
  let estimate : Int := value.num.natAbs.log2 - value.den.log2
  if powerOfTwo estimate ≤ value then estimate else estimate - 1

/-- The nearest number of double precision to a value that is not negative, none where that is infinite. -/
def nearestDouble (value : ℚ) : Option ℚ :=
  if value = 0 then some 0
  else
    let spacing := powerOfTwo (max (binaryExponent value - 52) (-1074))
    let rounded := roundHalfEven (value / spacing) * spacing
    if rounded < powerOfTwo 1024 then some rounded else none

/-! ## Literals -/

def decimalScale (exponent : Int) : ℚ :=
  if 0 ≤ exponent then (10 ^ exponent.toNat : Nat) else 1 / (10 ^ (-exponent).toNat : Nat)

/-- A text of digits, with at least one. -/
def digitsNumber (digits : JsString) : Option Nat :=
  if digits.isEmpty || !digits.all isDigit then none else some (digitsValue digits)

/-- What follows the digits of a decimal literal. -/
def exponentPart : JsString → Option Int
  | [] => some 0
  | mark :: rest =>
    if mark = 0x65 || mark = 0x45 then
      match rest with
      | 0x2B :: digits => (digitsNumber digits).map Int.ofNat
      | 0x2D :: digits => (digitsNumber digits).map fun value => -(value : Int)
      | digits => (digitsNumber digits).map Int.ofNat
    else none

/-- A decimal literal without a sign. -/
def unsignedNumber (text : JsString) : Option ℚ :=
  let whole := text.takeWhile isDigit
  let rest := text.dropWhile isDigit
  let fraction := if rest.head? = some 0x2E then rest.tail.takeWhile isDigit else []
  let more := if rest.head? = some 0x2E then rest.tail.dropWhile isDigit else rest
  if whole.isEmpty && fraction.isEmpty then none
  else
    (exponentPart more).bind fun exponent =>
      nearestDouble (digitsValue (whole ++ fraction) * decimalScale (exponent - fraction.length))

/-- The digits of a literal of another base. -/
def baseNumber (base : Nat) (digits : JsString) : Option ℚ :=
  if digits.isEmpty then none
  else
    (digits.mapM fun unit => (hexValue unit).filter (· < base)).bind fun values =>
      nearestDouble (Nat.ofDigits base values.reverse)

/-- A literal with white space stripped. -/
def literalNumber : JsString → Option ℚ
  | [] => some 0
  | 0x2B :: rest => unsignedNumber rest
  | 0x2D :: rest => (unsignedNumber rest).map Neg.neg
  | 0x30 :: mark :: rest =>
    if mark = 0x78 || mark = 0x58 then baseNumber 16 rest
    else if mark = 0x6F || mark = 0x4F then baseNumber 8 rest
    else if mark = 0x62 || mark = 0x42 then baseNumber 2 rest
    else unsignedNumber (0x30 :: mark :: rest)
  | text => unsignedNumber text

/-- `Number(text)`, none for `NaN` and the infinities. -/
def numberOfText (text : JsString) : Option ℚ := literalNumber (trim text)

example : numberOfText (utf16 " 0x1F ") = some 31 := by decide +kernel

example : numberOfText (utf16 "99999999999999999999e-20") = some 1 := by decide +kernel

/-- `String(number)` of a natural number. -/
def decimalText (number : Nat) : JsString := if number = 0 then [0x30] else digitUnits number

theorem numberOfText_decimalText : ∀ octet < 256, numberOfText (decimalText octet) = some (octet : ℚ) := by
  decide +kernel

theorem isDigit_decimalText {number : Nat} {unit : CodeUnit} (member : unit ∈ decimalText number) :
    isDigit unit = true := by
  by_cases isZero : number = 0
  · simp only [decimalText, isZero, if_true, List.mem_singleton] at member
    subst member
    decide
  · simp only [decimalText, isZero, if_false] at member
    exact isDigit_digitUnits member

end SiftKit.Json
