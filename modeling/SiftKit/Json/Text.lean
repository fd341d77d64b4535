import Mathlib.Data.List.Basic

/-! # Strings as JSON text

A string of the source language is a sequence of UTF-16 code units, and nothing keeps a
surrogate from standing alone.  `JSON.stringify` writes a lone surrogate as an escape, so
whether a unit is escaped depends on its neighbours; a text may be escaped slice by slice
as long as no slice ends inside a pair.
-/

namespace SiftKit.Json

/-- A UTF-16 code unit. -/
abbrev CodeUnit := UInt16

abbrev JsString := List CodeUnit

/-! ## Literals -/

def utf16Character (character : Char) : JsString :=
  if character.toNat < 0x10000 then [.ofNat character.toNat]
  else [.ofNat (0xD800 + (character.toNat - 0x10000) / 0x400),
    .ofNat (0xDC00 + (character.toNat - 0x10000) % 0x400)]

/-- A literal of the source. -/
def utf16 (text : String) : JsString := text.toList.flatMap utf16Character

def isHighSurrogate (unit : CodeUnit) : Bool := 0xD800 ≤ unit.toNat && unit.toNat ≤ 0xDBFF

def isLowSurrogate (unit : CodeUnit) : Bool := 0xDC00 ≤ unit.toNat && unit.toNat ≤ 0xDFFF

/-- `Buffer.byteLength(text, 'utf8')`: a pair of surrogates is one character of four bytes. -/
def utf8Length : JsString → Nat
  | [] => 0
  | [unit] => if unit.toNat < 0x80 then 1 else if unit.toNat < 0x800 then 2 else 3
  | unit :: next :: rest =>
    if isHighSurrogate unit && isLowSurrogate next then 4 + utf8Length rest
    else (if unit.toNat < 0x80 then 1 else if unit.toNat < 0x800 then 2 else 3) + utf8Length (next :: rest)

theorem toNat_character_lt (character : Char) : character.toNat < 0x110000 := by
  have valid := character.valid
  simp only [UInt32.isValidChar, Nat.isValidChar] at valid
  have same : character.toNat = character.val.toNat := rfl
  omega

theorem isHighSurrogate_supplementary {character : Char} (supplementary : ¬character.toNat < 0x10000) :
    isHighSurrogate (.ofNat (0xD800 + (character.toNat - 0x10000) / 0x400)) = true := by
  have bound := toNat_character_lt character
  simp only [isHighSurrogate, UInt16.toNat_ofNat', Bool.and_eq_true, decide_eq_true_eq]
  omega

theorem isHighSurrogate_basic {character : Char} (basic : character.toNat < 0x10000) :
    isHighSurrogate (.ofNat character.toNat) = false := by
  have valid := character.valid
  simp only [UInt32.isValidChar, Nat.isValidChar] at valid
  have same : character.toNat = character.val.toNat := rfl
  simp only [isHighSurrogate, UInt16.toNat_ofNat', Bool.and_eq_false_iff, decide_eq_false_iff_not]
  omega

theorem utf16Character_ne_nil (character : Char) : utf16Character character ≠ [] := by
  unfold utf16Character
  split
  · simp
  · simp

theorem utf16Character_append_inj {first second : Char} {early late : JsString}
    (same : utf16Character first ++ early = utf16Character second ++ late) : first = second ∧ early = late := by
  have firstBound := toNat_character_lt first
  have secondBound := toNat_character_lt second
  unfold utf16Character at same
  split at same
  next basic =>
    split at same
    next otherBasic =>
      simp only [List.singleton_append, List.cons.injEq] at same
      have units := congrArg UInt16.toNat same.1
      simp only [UInt16.toNat_ofNat'] at units
      exact ⟨Char.toNat_inj.mp (by omega), same.2⟩
    next otherSupplementary =>
      simp only [List.cons_append, List.nil_append, List.cons.injEq] at same
      have high := isHighSurrogate_supplementary otherSupplementary
      rw [← same.1, isHighSurrogate_basic basic] at high
      cases high
  next supplementary =>
    split at same
    next otherBasic =>
      simp only [List.cons_append, List.nil_append, List.cons.injEq] at same
      have high := isHighSurrogate_supplementary supplementary
      rw [same.1, isHighSurrogate_basic otherBasic] at high
      cases high
    next otherSupplementary =>
      simp only [List.cons_append, List.nil_append, List.cons.injEq] at same
      have high := congrArg UInt16.toNat same.1
      have low := congrArg UInt16.toNat same.2.1
      simp only [UInt16.toNat_ofNat'] at high low
      exact ⟨Char.toNat_inj.mp (by omega), same.2.2⟩

theorem flatMap_utf16Character_inj {early late : List Char}
    (same : early.flatMap utf16Character = late.flatMap utf16Character) : early = late := by
  induction early generalizing late with
  | nil =>
    cases late with
    | nil => rfl
    | cons character rest =>
      rw [List.flatMap_nil, List.flatMap_cons] at same
      exact absurd (List.append_eq_nil_iff.mp same.symm).1 (utf16Character_ne_nil character)
  | cons character rest ih =>
    cases late with
    | nil =>
      rw [List.flatMap_nil, List.flatMap_cons] at same
      exact absurd (List.append_eq_nil_iff.mp same).1 (utf16Character_ne_nil character)
    | cons other others =>
      rw [List.flatMap_cons, List.flatMap_cons] at same
      obtain ⟨rfl, rest_same⟩ := utf16Character_append_inj same
      rw [ih rest_same]

theorem toString_nat_injective {first second : Nat} (same : toString first = toString second) : first = second := by
  rw [Nat.toString_eq_ofList_toDigits, Nat.toString_eq_ofList_toDigits, String.ofList_inj] at same
  have values := congrArg (fun digits => Nat.ofDigitChars 10 digits 0) same
  simpa only [Nat.ofDigitChars_ten_toDigits] using values

@[simp] theorem utf16_inj {early late : String} : utf16 early = utf16 late ↔ early = late := by
  constructor
  · intro same
    exact String.toList_inj.mp (flatMap_utf16Character_inj same)
  · intro same
    rw [same]

/-! ## Escapes -/

def hexDigit (value : Nat) : CodeUnit := .ofNat (if value < 10 then 0x30 + value else 0x57 + value)

/-- A unit as `\u` and four digits. -/
def unicodeEscape (unit : CodeUnit) : JsString :=
  [0x5C, 0x75, hexDigit (unit.toNat / 0x1000), hexDigit (unit.toNat / 0x100 % 16), hexDigit (unit.toNat / 0x10 % 16),
    hexDigit (unit.toNat % 16)]

/-- The units with an escape of one letter, and that letter. -/
def shortEscapes : List (CodeUnit × CodeUnit) :=
  [(0x22, 0x22), (0x5C, 0x5C), (0x08, 0x62), (0x0C, 0x66), (0x0A, 0x6E), (0x0D, 0x72), (0x09, 0x74)]

/-- A unit that stands by itself, as `JSON.stringify` writes it. -/
def escapeUnit (unit : CodeUnit) : JsString :=
  match shortEscapes.lookup unit with
  | some letter => [0x5C, letter]
  | none =>
    if unit.toNat < 0x20 || isHighSurrogate unit || isLowSurrogate unit then unicodeEscape unit else [unit]

/-- `JSON.stringify` of a string, without its quotes. -/
def escape : JsString → JsString
  | [] => []
  | [unit] => escapeUnit unit
  | unit :: next :: rest =>
    if isHighSurrogate unit && isLowSurrogate next then unit :: next :: escape rest
    else escapeUnit unit ++ escape (next :: rest)

def quoted (text : JsString) : JsString := 0x22 :: escape text ++ [0x22]

/-- A surrogate pair stands across the border of two texts. -/
def splitsPair (early late : JsString) : Bool :=
  early.getLast?.any isHighSurrogate && late.head?.any isLowSurrogate

theorem escape_append {early late : JsString} (whole : splitsPair early late = false) :
    escape (early ++ late) = escape early ++ escape late := by
  induction early using escape.induct with
  | case1 => rfl
  | case2 unit =>
    cases late with
    | nil => simp [escape]
    | cons next rest =>
      simp only [splitsPair, List.getLast?_singleton, List.head?_cons, Option.any_some] at whole
      simp [escape, whole]
  | case3 unit next rest pair ih =>
    have later : splitsPair rest late = false := by
      cases rest with
      | nil => rfl
      | cons other others => simpa [splitsPair, List.getLast?_cons_cons] using whole
    simp only [List.cons_append, escape, pair, if_true, ih later]
  | case4 unit next rest apart ih =>
    have later : splitsPair (next :: rest) late = false := by
      simpa [splitsPair, List.getLast?_cons_cons] using whole
    simp only [List.cons_append, escape, apart, Bool.false_eq_true, if_false, List.append_assoc]
    rw [← List.cons_append, ih later]

/-! ## Reading -/

def hexValue (unit : CodeUnit) : Option Nat :=
  let value := unit.toNat
  if 0x30 ≤ value ∧ value ≤ 0x39 then some (value - 0x30)
  else if 0x41 ≤ value ∧ value ≤ 0x46 then some (value - 0x37)
  else if 0x61 ≤ value ∧ value ≤ 0x66 then some (value - 0x57)
  else none

/-- The unit that an escape of one letter stands for. -/
def unescapedUnit (letter : CodeUnit) : Option CodeUnit :=
  if letter = 0x2F then some 0x2F
  else (shortEscapes.find? fun entry => entry.2 == letter).map Prod.fst

def prependUnit (unit : CodeUnit) (read : JsString × JsString) : JsString × JsString :=
  (unit :: read.1, read.2)

/-- The string whose opening quote has been read, and what follows it. -/
def readString : JsString → Option (JsString × JsString)
  | [] => none
  | unit :: rest =>
    if unit = 0x22 then some ([], rest)
    else if unit = 0x5C then
      match rest with
      | 0x75 :: first :: second :: third :: fourth :: rest => do
        let value := (((← hexValue first) * 16 + (← hexValue second)) * 16 + (← hexValue third)) * 16 + (← hexValue fourth)
        (readString rest).map (prependUnit (.ofNat value))
      | code :: rest => do
        (readString rest).map (prependUnit (← unescapedUnit code))
      | [] => none
    else if unit.toNat < 0x20 then none
    else (readString rest).map (prependUnit unit)

theorem hexValue_hexDigit : ∀ value < 16, hexValue (hexDigit value) = some value := by
  decide

theorem readString_unicodeEscape (unit : CodeUnit) (rest : JsString) :
    readString (unicodeEscape unit ++ rest) = (readString rest).map (prependUnit unit) := by
  have bound := unit.toNat_lt
  have value : ((unit.toNat / 0x1000 * 16 + unit.toNat / 0x100 % 16) * 16 + unit.toNat / 0x10 % 16) * 16
      + unit.toNat % 16 = unit.toNat := by
    omega
  unfold unicodeEscape
  simp only [List.cons_append, List.nil_append]
  rw [readString.eq_def]
  simp only [hexValue_hexDigit (unit.toNat / 0x1000) (by omega), hexValue_hexDigit (unit.toNat / 0x100 % 16) (by omega),
    hexValue_hexDigit (unit.toNat / 0x10 % 16) (by omega), hexValue_hexDigit (unit.toNat % 16) (by omega),
    Option.bind_eq_bind, Option.bind_some, value, UInt16.ofNat_toNat]
  rfl

theorem readString_plain {unit : CodeUnit} (quote : unit ≠ 0x22) (backslash : unit ≠ 0x5C) (printable : ¬unit.toNat < 0x20)
    (rest : JsString) : readString (unit :: rest) = (readString rest).map (prependUnit unit) := by
  rw [readString.eq_def]
  simp only [quote, backslash, printable, if_false]

theorem readString_quote (rest : JsString) : readString (0x22 :: rest) = some ([], rest) := by
  rw [readString.eq_def]
  rfl

theorem shortEscapes_read : ∀ entry ∈ shortEscapes, entry.2 ≠ 0x75 ∧ unescapedUnit entry.2 = some entry.1 := by
  simp [shortEscapes, unescapedUnit]

theorem readString_short {unit letter : CodeUnit} (member : (unit, letter) ∈ shortEscapes) (rest : JsString) :
    readString (0x5C :: letter :: rest) = (readString rest).map (prependUnit unit) := by
  obtain ⟨notUnicode, read⟩ := shortEscapes_read (unit, letter) member
  rw [readString.eq_def]
  simp only [show (0x5C : CodeUnit) ≠ 0x22 by decide, if_false, if_true]
  split
  next isUnicode =>
    cases isUnicode
    exact absurd rfl notUnicode
  next letters =>
    cases letters
    simp only [read, Option.bind_eq_bind, Option.bind_some]
  next impossible => cases impossible

theorem readString_escapeUnit (unit : CodeUnit) (rest : JsString) :
    readString (escapeUnit unit ++ rest) = (readString rest).map (prependUnit unit) := by
  unfold escapeUnit
  split
  next letter found =>
    obtain ⟨early, late, isTable, _⟩ := List.lookup_eq_some_iff.mp found
    refine readString_short ?_ rest
    rw [isTable]
    simp
  next plain =>
    split
    · exact readString_unicodeEscape unit rest
    next printable =>
      simp only [Bool.or_eq_true, decide_eq_true_eq, not_or] at printable
      have ordinary := List.lookup_eq_none_iff.mp plain
      refine readString_plain ?_ ?_ printable.1.1 rest
      · simpa using ordinary (0x22, 0x22) (by decide)
      · simpa using ordinary (0x5C, 0x5C) (by decide)

theorem readString_escape (text rest : JsString) : readString (escape text ++ 0x22 :: rest) = some (text, rest) := by
  induction text using escape.induct with
  | case1 => exact readString_quote rest
  | case2 unit =>
    rw [escape, readString_escapeUnit, readString_quote]
    rfl
  | case3 unit next rest' pair ih =>
    obtain ⟨high, low⟩ := Bool.and_eq_true_iff.mp pair
    simp only [escape, pair, if_true, List.cons_append]
    simp only [isHighSurrogate, isLowSurrogate, Bool.and_eq_true, decide_eq_true_eq] at high low
    have apart : ∀ other : CodeUnit, other.toNat < 0x100 → ∀ surrogate : CodeUnit, 0xD800 ≤ surrogate.toNat →
        surrogate ≠ other := by
      intro other small surrogate large same
      rw [same] at large
      omega
    rw [readString_plain (apart _ (by decide) _ (by omega)) (apart _ (by decide) _ (by omega)) (by omega),
      readString_plain (apart _ (by decide) _ (by omega)) (apart _ (by decide) _ (by omega)) (by omega),
      ih]
    rfl
  | case4 unit next rest' apart ih =>
    simp only [escape, apart, Bool.false_eq_true, if_false, List.append_assoc]
    rw [readString_escapeUnit, ih]
    rfl

/-! ## Slices -/

/-- Where the next slice ends: after `limit` units, or one before that where a pair would be cut. -/
def sliceLength (limit : Nat) (text : JsString) : Nat :=
  let stop := min limit text.length
  if stop < text.length && (text[stop - 1]?).any isHighSurrogate then stop - 1 else stop

theorem sliceLength_pos {limit : Nat} {text : JsString} (atLeastTwo : 2 ≤ limit) (more : text ≠ []) :
    0 < sliceLength limit text := by
  have positive := List.length_pos_of_ne_nil more
  unfold sliceLength
  simp only
  split
  next cut =>
    simp only [Bool.and_eq_true, decide_eq_true_eq] at cut
    omega
  · omega

theorem splitsPair_slice (limit : Nat) (text : JsString) :
    splitsPair (text.take (sliceLength limit text)) (text.drop (sliceLength limit text)) = false := by
  unfold sliceLength
  simp only
  split
  next cut =>
    -- The slice is followed by a high surrogate, which ends no pair.
    simp only [Bool.and_eq_true] at cut
    obtain ⟨unit, isUnit, high⟩ := (Option.any_eq_true _ _).mp cut.2
    have notLow : isLowSurrogate unit = false := by
      simp only [isHighSurrogate, isLowSurrogate, Bool.and_eq_true, decide_eq_true_eq, Bool.and_eq_false_iff,
        decide_eq_false_iff_not] at high ⊢
      omega
    simp [splitsPair, List.head?_drop, isUnit, notLow]
  next whole =>
    by_cases inside : min limit text.length < text.length
    · have notHigh : (text[min limit text.length - 1]?).any isHighSurrogate = false := by
        simpa [inside] using whole
      simp only [splitsPair, Bool.and_eq_false_iff]
      left
      rw [List.getLast?_take]
      split
      · rfl
      · rw [List.getElem?_eq_getElem (by omega)] at notHigh ⊢
        exact notHigh
    · rw [List.drop_eq_nil_of_le (by omega)]
      simp [splitsPair]

/-- `stringSegments`, without the quotes: a text escaped a bounded slice at a time. -/
def escapedSlices (limit : Nat) (atLeastTwo : 2 ≤ limit) (text : JsString) : List JsString :=
  match text with
  | [] => []
  | unit :: rest =>
    escape ((unit :: rest).take (sliceLength limit (unit :: rest))) ::
      escapedSlices limit atLeastTwo ((unit :: rest).drop (sliceLength limit (unit :: rest)))
termination_by text.length
decreasing_by
  have positive := @sliceLength_pos limit (unit :: rest) atLeastTwo (by simp)
  simp only [List.length_drop, List.length_cons] at *
  omega

theorem flatten_escapedSlices (limit : Nat) (atLeastTwo : 2 ≤ limit) (text : JsString) :
    (escapedSlices limit atLeastTwo text).flatten = escape text := by
  induction text using escapedSlices.induct limit atLeastTwo with
  | case1 => rw [escapedSlices]; rfl
  | case2 unit rest ih =>
    rw [escapedSlices, List.flatten_cons, ih, ← escape_append (splitsPair_slice _ _),
      List.take_append_drop]

end SiftKit.Json
