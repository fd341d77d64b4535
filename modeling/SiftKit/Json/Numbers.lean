import Mathlib.Data.Nat.Digits.Lemmas
import SiftKit.Json.Text

/-! # Numbers as JSON text

A finite number is kept as the shortest decimal that reads back as it, which is what
`Number.prototype.toString` prints.  JSON writes negative zero as `0`, so there is one zero.
-/

namespace SiftKit.Json

/-! ## Digits -/

def isDigit (unit : CodeUnit) : Bool := 0x30 ≤ unit.toNat && unit.toNat ≤ 0x39

def digitUnit (digit : Nat) : CodeUnit := .ofNat (0x30 + digit)

/-- The decimal digits of a positive number; none of zero. -/
def digitUnits (number : Nat) : JsString := ((Nat.digits 10 number).map digitUnit).reverse

def digitsValue (digits : JsString) : Nat :=
  Nat.ofDigits 10 (digits.map fun unit => unit.toNat - 0x30).reverse

theorem toNat_digitUnit {digit : Nat} (small : digit < 10) : (digitUnit digit).toNat = 0x30 + digit := by
  rw [digitUnit, UInt16.toNat_ofNat']
  omega

theorem isDigit_digitUnits {number : Nat} {unit : CodeUnit} (member : unit ∈ digitUnits number) :
    isDigit unit = true := by
  simp only [digitUnits, List.mem_reverse, List.mem_map] at member
  obtain ⟨digit, digitMember, rfl⟩ := member
  have small := Nat.digits_lt_base (by decide) digitMember
  simp only [isDigit, toNat_digitUnit small, Bool.and_eq_true, decide_eq_true_eq]
  omega

theorem digitsValue_digitUnits (number : Nat) : digitsValue (digitUnits number) = number := by
  have values : (Nat.digits 10 number).map (fun digit => (digitUnit digit).toNat - 0x30) = Nat.digits 10 number := by
    rw [List.map_congr_left (g := id)]
    · exact List.map_id _
    · intro digit member
      rw [toNat_digitUnit (Nat.digits_lt_base (by decide) member)]
      simp
  rw [digitsValue, digitUnits, List.map_reverse, List.map_map, List.reverse_reverse]
  exact (congrArg (Nat.ofDigits 10) values).trans (Nat.ofDigits_digits 10 number)

theorem digitsValue_append (early late : JsString) :
    digitsValue (early ++ late) = digitsValue early * 10 ^ late.length + digitsValue late := by
  rw [digitsValue, List.map_append, List.reverse_append, Nat.ofDigits_append]
  simp only [List.length_reverse, List.length_map, digitsValue]
  ring

theorem digitsValue_zeros (count : Nat) : digitsValue (List.replicate count 0x30) = 0 := by
  induction count with
  | zero => rfl
  | succ count ih =>
    rw [List.replicate_succ', digitsValue_append, ih]
    rfl

theorem digitUnits_ne_nil {number : Nat} (positive : number ≠ 0) : digitUnits number ≠ [] := by
  simp [digitUnits, Nat.digits_ne_nil_iff_ne_zero.mpr positive]

theorem head_digitUnits {number : Nat} {unit : CodeUnit} {rest : JsString} (digits : digitUnits number = unit :: rest) :
    unit ≠ 0x30 := by
  have positive : Nat.digits 10 number ≠ [] := by
    intro none
    simp [digitUnits, none] at digits
  have last : (Nat.digits 10 number).getLast? = some ((Nat.digits 10 number).getLast positive) :=
    List.getLast?_eq_getLast_of_ne_nil positive
  have head := congrArg List.head? digits
  rw [digitUnits, List.head?_reverse, List.getLast?_map, last, List.head?_cons, Option.map_some, Option.some_inj] at head
  have small := Nat.digits_lt_base (b := 10) (by decide) (List.getLast_mem positive)
  have nonzero := Nat.getLast_digit_ne_zero 10 (Nat.digits_ne_nil_iff_ne_zero.mp positive)
  rw [← head]
  intro zero
  have value := congrArg UInt16.toNat zero
  rw [toNat_digitUnit small] at value
  simp only [UInt16.reduceToNat] at value
  omega

/-! ## Decimals -/

/-- `digits · 10 ^ exponent`, with no zero at its end. -/
structure Decimal where
  negative : Bool
  digits : Nat
  exponent : Int
  shortest : if digits = 0 then negative = false ∧ exponent = 0 else digits % 10 ≠ 0
  deriving DecidableEq

/-- Zeros at the end go to the exponent. -/
def stripZeros (digits : Nat) (exponent : Int) : Nat × Int :=
  if digits = 0 then (0, 0)
  else if digits % 10 = 0 then stripZeros (digits / 10) (exponent + 1)
  else (digits, exponent)
termination_by digits
decreasing_by omega

theorem stripZeros_shortest (digits : Nat) (exponent : Int) :
    if (stripZeros digits exponent).1 = 0 then (stripZeros digits exponent).2 = 0
    else (stripZeros digits exponent).1 % 10 ≠ 0 := by
  induction digits, exponent using stripZeros.induct with
  | case1 exponent => simp [stripZeros]
  | case2 digits exponent positive zero ih =>
    rw [stripZeros, if_neg positive, if_pos zero]
    exact ih
  | case3 digits exponent positive last =>
    rw [stripZeros, if_neg positive, if_neg last]
    simp [positive, last]

theorem stripZeros_zeros {digits : Nat} (last : digits % 10 ≠ 0) (exponent : Int) (count : Nat) :
    stripZeros (digits * 10 ^ count) exponent = (digits, exponent + count) := by
  induction count generalizing exponent with
  | zero =>
    rw [stripZeros, if_neg (by omega), if_neg (by simpa using last)]
    simp
  | succ count ih =>
    have positive : digits * 10 ^ (count + 1) ≠ 0 := by
      have := Nat.pos_of_ne_zero (show digits ≠ 0 by omega)
      positivity
    have tens : digits * 10 ^ (count + 1) = digits * 10 ^ count * 10 := by ring
    rw [stripZeros, if_neg positive, if_pos (by omega), tens, Nat.mul_div_cancel _ (by decide), ih]
    simp
    omega

/-- The decimal that a number's text stands for. -/
def Decimal.make (negative : Bool) (digits : Nat) (exponent : Int) : Decimal where
  negative := negative && (stripZeros digits exponent).1 != 0
  digits := (stripZeros digits exponent).1
  exponent := (stripZeros digits exponent).2
  shortest := by
    have stripped := stripZeros_shortest digits exponent
    split at stripped
    next zero => simp [zero, stripped]
    next positive => simp [positive, stripped]

theorem Decimal.make_zeros (decimal : Decimal) (count : Nat) :
    Decimal.make decimal.negative (decimal.digits * 10 ^ count) (decimal.exponent - count) = decimal := by
  obtain ⟨negative, digits, exponent, shortest⟩ := decimal
  split at shortest
  next zero =>
    obtain ⟨rfl, rfl⟩ := shortest
    subst zero
    simp [make, stripZeros]
  next positive =>
    simp [make, stripZeros_zeros shortest, positive]

/-- A natural number, as far as the decimal is one. -/
def Decimal.natural (decimal : Decimal) : Option Nat :=
  if decimal.negative = false ∧ 0 ≤ decimal.exponent then some (decimal.digits * 10 ^ decimal.exponent.toNat) else none

def Decimal.ofNat (number : Nat) : Decimal := .make false number 0

theorem stripZeros_value (digits : Nat) (exponent : Int) (nonnegative : 0 ≤ exponent) :
    0 ≤ (stripZeros digits exponent).2 ∧
      (stripZeros digits exponent).1 * 10 ^ (stripZeros digits exponent).2.toNat = digits * 10 ^ exponent.toNat := by
  induction digits, exponent using stripZeros.induct with
  | case1 exponent => simp [stripZeros]
  | case2 digits exponent positive zero ih =>
    rw [stripZeros, if_neg positive, if_pos zero]
    obtain ⟨later, same⟩ := ih (by omega)
    refine ⟨later, same.trans ?_⟩
    have next : (exponent + 1).toNat = exponent.toNat + 1 := by omega
    have tens : digits = digits / 10 * 10 := by omega
    rw [next, pow_succ']
    conv_rhs => rw [tens]
    ring
  | case3 digits exponent positive last =>
    rw [stripZeros, if_neg positive, if_neg last]
    exact ⟨nonnegative, rfl⟩

@[simp] theorem Decimal.natural_ofNat (number : Nat) : (Decimal.ofNat number).natural = some number := by
  obtain ⟨nonnegative, same⟩ := stripZeros_value number 0 (by decide)
  simp [natural, ofNat, make, nonnegative, same]

/-! ## Writing -/

def zeros (count : Nat) : JsString := List.replicate count 0x30

/-- `e power`, with its sign. -/
def exponentText (power : Int) : JsString :=
  0x65 :: (if power < 0 then 0x2D else 0x2B) :: digitUnits power.natAbs

/-- A positive number: in full up to 21 digits, as a small fraction, or with an exponent. -/
def magnitudeText (digits : JsString) (exponent : Int) : JsString :=
  let point := exponent + digits.length
  if 0 ≤ exponent ∧ point ≤ 21 then digits ++ zeros exponent.toNat
  else if 0 < point ∧ point ≤ 21 then digits.take point.toNat ++ 0x2E :: digits.drop point.toNat
  else if -6 < point ∧ point ≤ 0 then 0x30 :: 0x2E :: (zeros (-point).toNat ++ digits)
  else if digits.length = 1 then digits ++ exponentText (point - 1)
  else digits.take 1 ++ 0x2E :: (digits.drop 1 ++ exponentText (point - 1))

/-- `Number.prototype.toString`. -/
def Decimal.text (decimal : Decimal) : JsString :=
  if decimal.digits = 0 then [0x30]
  else
    let magnitude := magnitudeText (digitUnits decimal.digits) decimal.exponent
    if decimal.negative then 0x2D :: magnitude else magnitude

/-! ## Reading -/

/-- The digits that a text starts with, and what follows them. -/
def spanDigits (text : JsString) : JsString × JsString := (text.takeWhile isDigit, text.dropWhile isDigit)

/-- `. digits`, if it is there. -/
def readFraction : JsString → Option (JsString × JsString)
  | 0x2E :: rest =>
    let (digits, rest) := spanDigits rest
    if digits = [] then none else some (digits, rest)
  | text => some ([], text)

def readSign : JsString → Bool × JsString
  | 0x2D :: rest => (true, rest)
  | 0x2B :: rest => (false, rest)
  | rest => (false, rest)

/-- `e digits` with a sign that may be left out, if it is there. -/
def readExponent : JsString → Option (Int × JsString)
  | [] => some (0, [])
  | unit :: rest =>
    if unit = 0x65 ∨ unit = 0x45 then
      let (negative, rest) := readSign rest
      let (digits, rest) := spanDigits rest
      if digits = [] then none
      else some (if negative then -(digitsValue digits : Int) else digitsValue digits, rest)
    else some (0, unit :: rest)

/-- A number without its sign: digits without a leading zero, a fraction, an exponent. -/
def readMagnitude (negative : Bool) (text : JsString) : Option (Decimal × JsString) := do
  let (whole, rest) := spanDigits text
  if whole = [] ∨ (whole.head? = some 0x30 ∧ 1 < whole.length) then none
  let (fraction, rest) ← readFraction rest
  let (power, rest) ← readExponent rest
  some (.make negative (digitsValue (whole ++ fraction)) (power - fraction.length), rest)

def readNumber : JsString → Option (Decimal × JsString)
  | 0x2D :: rest => readMagnitude true rest
  | text => readMagnitude false text

/-- A text that does not go on with a number. -/
def EndsNumber (rest : JsString) : Prop :=
  ∀ unit ∈ rest.head?, isDigit unit = false ∧ unit ≠ 0x2E ∧ unit ≠ 0x65 ∧ unit ≠ 0x45

theorem spanDigits_append {digits rest : JsString} (isDigits : ∀ unit ∈ digits, isDigit unit = true)
    (ends : ∀ unit ∈ rest.head?, isDigit unit = false) : spanDigits (digits ++ rest) = (digits, rest) := by
  induction digits with
  | nil =>
    cases rest with
    | nil => rfl
    | cons unit rest =>
      have stops := ends unit (by simp)
      simp [spanDigits, stops]
  | cons digit digits ih =>
    have later := ih fun unit member => isDigits unit (List.mem_cons_of_mem _ member)
    simp only [spanDigits, Prod.mk.injEq] at later
    simp [spanDigits, isDigits digit List.mem_cons_self, later.1, later.2]

theorem EndsNumber.digits {rest : JsString} (ends : EndsNumber rest) : ∀ unit ∈ rest.head?, isDigit unit = false :=
  fun unit member => (ends unit member).1

theorem readFraction_none {rest : JsString} (ends : ∀ unit ∈ rest.head?, unit ≠ 0x2E) :
    readFraction rest = some ([], rest) := by
  unfold readFraction
  split
  next rest => exact absurd rfl (ends 0x2E (by simp))
  · rfl

theorem readFraction_digits {digits rest : JsString} (isDigits : ∀ unit ∈ digits, isDigit unit = true)
    (some_digits : digits ≠ []) (ends : ∀ unit ∈ rest.head?, isDigit unit = false) :
    readFraction (0x2E :: digits ++ rest) = some (digits, rest) := by
  simp only [List.cons_append, readFraction, spanDigits_append isDigits ends, if_neg some_digits]

theorem readExponent_none {rest : JsString} (ends : EndsNumber rest) : readExponent rest = some (0, rest) := by
  unfold readExponent
  split
  · rfl
  next unit rest =>
    have stops := ends unit (by simp)
    simp [stops.2.2.1, stops.2.2.2]

theorem readSign_power (power : Int) (rest : JsString) :
    readSign ((if power < 0 then 0x2D else 0x2B) :: rest) = (decide (power < 0), rest) := by
  by_cases negative : power < 0
  · simp [negative, readSign]
  · simp [negative, readSign]

theorem readExponent_digits {power : Int} (nonzero : power ≠ 0) {rest : JsString} (ends : EndsNumber rest) :
    readExponent (exponentText power ++ rest) = some (power, rest) := by
  have span := spanDigits_append (fun unit => @isDigit_digitUnits power.natAbs unit) ends.digits
  have more := @digitUnits_ne_nil power.natAbs (by omega)
  simp only [exponentText, List.cons_append, readExponent, true_or, if_true, readSign_power, span, if_neg more,
    digitsValue_digitUnits, decide_eq_true_eq]
  congr 2
  split
  · omega
  · omega

/-! ## Reading undoes writing -/

theorem readMagnitude_eq {negative : Bool} {whole fraction afterWhole afterFraction rest : JsString} {power : Int}
    (isWhole : ∀ unit ∈ whole, isDigit unit = true) (someWhole : whole ≠ [])
    (noLeadingZero : whole.head? = some 0x30 → whole.length = 1)
    (wholeEnds : ∀ unit ∈ afterWhole.head?, isDigit unit = false)
    (isFraction : readFraction afterWhole = some (fraction, afterFraction))
    (isExponent : readExponent afterFraction = some (power, rest)) :
    readMagnitude negative (whole ++ afterWhole) =
      some (.make negative (digitsValue (whole ++ fraction)) (power - fraction.length), rest) := by
  have proceeds : ¬(whole = [] ∨ (whole.head? = some 0x30 ∧ 1 < whole.length)) := by
    intro stops
    cases stops with
    | inl none => exact someWhole none
    | inr zero =>
      have single := noLeadingZero zero.1
      omega
  simp only [readMagnitude, spanDigits_append isWhole wholeEnds, if_neg proceeds, isFraction, isExponent,
    Option.bind_eq_bind, Option.bind_some]

theorem head?_digitUnits (number : Nat) : (digitUnits number).head? ≠ some 0x30 := by
  intro zero
  cases digits : digitUnits number with
  | nil => simp [digits] at zero
  | cons unit others =>
    rw [digits, List.head?_cons, Option.some_inj] at zero
    exact head_digitUnits digits zero

theorem isDigit_zeros {count : Nat} {unit : CodeUnit} (member : unit ∈ zeros count) : isDigit unit = true := by
  rw [List.eq_of_mem_replicate member]
  rfl

theorem EndsNumber.exponentText {power : Int} {rest : JsString} :
    ∀ unit ∈ (exponentText power ++ rest).head?, isDigit unit = false ∧ unit ≠ 0x2E := by
  intro unit member
  simp only [Json.exponentText, List.cons_append, List.head?_cons, Option.mem_def, Option.some_inj] at member
  rw [← member]
  decide

theorem readMagnitude_text {negative : Bool} {number : Nat} (positive : number ≠ 0) (exponent : Int) {rest : JsString}
    (ends : EndsNumber rest) :
    ∃ count : Nat, readMagnitude negative (magnitudeText (digitUnits number) exponent ++ rest) =
      some (.make negative (number * 10 ^ count) (exponent - count), rest) := by
  have isDigits := fun unit => @isDigit_digitUnits number unit
  have someDigits := digitUnits_ne_nil positive
  have length := List.length_pos_of_ne_nil someDigits
  have value := digitsValue_digitUnits number
  have head := head?_digitUnits number
  generalize digitUnits number = digits at *
  have noFraction := @readFraction_none rest fun unit member => (ends unit member).2.1
  have noExponent := readExponent_none ends
  unfold magnitudeText
  simp only
  split
  next inFull =>
    refine ⟨exponent.toNat, ?_⟩
    have isWhole : ∀ unit ∈ digits ++ zeros exponent.toNat, isDigit unit = true := by
      intro unit member
      cases List.mem_append.mp member with
      | inl digit => exact isDigits unit digit
      | inr zero => exact isDigit_zeros zero
    have noLeadingZero : (digits ++ zeros exponent.toNat).head? ≠ some 0x30 := by
      rwa [List.head?_append_of_ne_nil _ someDigits]
    rw [readMagnitude_eq isWhole (by simp [someDigits]) (fun zero => absurd zero noLeadingZero) ends.digits noFraction
      noExponent]
    simp [digitsValue_append, zeros, digitsValue_zeros, value, inFull.1]
  next notInFull =>
    refine ⟨0, ?_⟩
    split
    next withPoint =>
      have isWhole : ∀ unit ∈ digits.take (exponent + digits.length).toNat, isDigit unit = true :=
        fun unit member => isDigits unit (List.mem_of_mem_take member)
      have isFraction := @readFraction_digits (digits.drop (exponent + digits.length).toNat) rest
        (fun unit member => isDigits unit (List.mem_of_mem_drop member))
        (by
          intro none
          have shorter := List.drop_eq_nil_iff.mp none
          omega)
        ends.digits
      have noLeadingZero : (digits.take (exponent + digits.length).toNat).head? ≠ some 0x30 := by
        rwa [List.head?_take, if_neg (by omega)]
      rw [List.append_assoc, readMagnitude_eq isWhole (by simp [someDigits]; omega)
        (fun zero => absurd zero noLeadingZero) (by simp [isDigit]) isFraction noExponent]
      simp only [List.take_append_drop, value, List.length_drop, pow_zero, Nat.mul_one]
      congr 3
      omega
    next notWithPoint =>
      split
      next fraction =>
        have isFraction := @readFraction_digits (zeros (-(exponent + digits.length)).toNat ++ digits) rest
          (by
            intro unit member
            cases List.mem_append.mp member with
            | inl zero => exact isDigit_zeros zero
            | inr digit => exact isDigits unit digit)
          (by simp [someDigits]) ends.digits
        have read := @readMagnitude_eq negative [0x30] _ _ _ _ _ (by simp [isDigit]) (by simp) (by simp) (by simp [isDigit])
          isFraction noExponent
        have total : digitsValue ([0x30] ++ (zeros (-(exponent + digits.length)).toNat ++ digits)) = number := by
          rw [← List.append_assoc, digitsValue_append, value]
          have leading : digitsValue ([0x30] ++ zeros (-(exponent + digits.length)).toNat) = 0 :=
            digitsValue_zeros (_ + 1)
          rw [leading]
          omega
        simp only [List.cons_append, List.nil_append] at read ⊢
        rw [read]
        simp only [List.length_append, zeros, List.length_replicate, pow_zero, Nat.mul_one]
        congr 3
        omega
      next large =>
        have isExponent := @readExponent_digits (exponent + digits.length - 1) (by omega) rest ends
        split
        next oneDigit =>
          have noFraction := @readFraction_none (exponentText (exponent + digits.length - 1) ++ rest)
            fun unit member => (EndsNumber.exponentText unit member).2
          rw [List.append_assoc, readMagnitude_eq isDigits someDigits (fun zero => absurd zero head)
            (fun unit member => (EndsNumber.exponentText unit member).1) noFraction isExponent]
          simp only [List.append_nil, value, List.length_nil, pow_zero, Nat.mul_one]
          congr 3
          omega
        next moreDigits =>
          have isFraction := @readFraction_digits (digits.drop 1) (exponentText (exponent + digits.length - 1) ++ rest)
            (fun unit member => isDigits unit (List.mem_of_mem_drop member))
            (by
              intro none
              have shorter := List.drop_eq_nil_iff.mp none
              omega)
            (fun unit member => (EndsNumber.exponentText unit member).1)
          have noLeadingZero : (digits.take 1).head? ≠ some 0x30 := by
            rwa [List.head?_take, if_neg (by omega)]
          have read := @readMagnitude_eq negative (digits.take 1) _ _ _ _ _
            (fun unit member => isDigits unit (List.mem_of_mem_take member)) (by simp [someDigits])
            (fun zero => absurd zero noLeadingZero) (by simp [isDigit]) isFraction isExponent
          simp only [List.append_assoc, List.cons_append] at read ⊢
          rw [read, List.take_append_drop, value]
          simp only [List.length_drop, pow_zero, Nat.mul_one]
          congr 3
          omega

theorem readNumber_unsigned {text : JsString} (unsigned : text.head? ≠ some 0x2D) :
    readNumber text = readMagnitude false text := by
  unfold readNumber
  split
  next rest => exact absurd rfl unsigned
  · rfl

theorem head_magnitudeText {number : Nat} (positive : number ≠ 0) (exponent : Int) :
    ∃ unit rest, magnitudeText (digitUnits number) exponent = unit :: rest ∧ isDigit unit = true := by
  have isDigits := fun unit => @isDigit_digitUnits number unit
  have someDigits := digitUnits_ne_nil positive
  generalize digitUnits number = digits at *
  cases digits with
  | nil => exact absurd rfl someDigits
  | cons digit digits =>
    have first := isDigits digit List.mem_cons_self
    unfold magnitudeText
    simp only
    split
    · exact ⟨digit, _, rfl, first⟩
    split
    next withPoint =>
      obtain ⟨count, isCount⟩ : ∃ count, (exponent + (digit :: digits).length).toNat = count + 1 :=
        ⟨(exponent + (digit :: digits).length).toNat - 1, by omega⟩
      rw [isCount]
      exact ⟨digit, _, rfl, first⟩
    split
    · exact ⟨0x30, _, rfl, rfl⟩
    split
    · exact ⟨digit, _, rfl, first⟩
    · exact ⟨digit, _, rfl, first⟩

theorem readNumber_text (decimal : Decimal) {rest : JsString} (ends : EndsNumber rest) :
    readNumber (decimal.text ++ rest) = some (decimal, rest) := by
  unfold Decimal.text
  split
  next zero =>
    have read := @readMagnitude_eq false [0x30] _ _ _ _ _ (by simp [isDigit]) (by simp) (by simp) ends.digits
      (readFraction_none fun unit member => (ends unit member).2.1) (readExponent_none ends)
    obtain ⟨negative, digits, exponent, shortest⟩ := decimal
    simp only at zero
    rw [if_pos zero] at shortest
    obtain ⟨rfl, rfl⟩ := shortest
    subst zero
    have none : digitsValue ([0x30] ++ []) = 0 := rfl
    rw [readNumber_unsigned (by simp), read, none]
    simp [Decimal.make, stripZeros]
  next positive =>
    obtain ⟨count, read⟩ := @readMagnitude_text decimal.negative decimal.digits positive decimal.exponent rest ends
    rw [Decimal.make_zeros] at read
    simp only
    split
    next negative =>
      rw [negative] at read
      exact read
    next unsigned =>
      have noSign : (magnitudeText (digitUnits decimal.digits) decimal.exponent ++ rest).head? ≠ some 0x2D := by
        obtain ⟨unit, others, isText, digit⟩ := head_magnitudeText positive decimal.exponent
        rw [isText]
        intro sign
        rw [List.cons_append, List.head?_cons, Option.some_inj] at sign
        rw [sign] at digit
        cases digit
      rw [readNumber_unsigned noSign, ← read, Bool.eq_false_iff.mpr unsigned]

end SiftKit.Json
