import SiftKit.Json.Text

/-! # Strings as UTF-8

`Buffer.from(text, 'utf8')` and `bytes.toString('utf8')`.  A surrogate that stands alone has no
encoding: it is written as the replacement character, and so is every maximal part of the bytes that
encodes nothing.  A text without lone surrogates comes back unchanged.
-/

namespace SiftKit.Json

/-! ## Encoding -/

/-- The bytes of a code point. -/
def utf8Character (code : Nat) : List UInt8 :=
  if code < 0x80 then [.ofNat code]
  else if code < 0x800 then [.ofNat (0xC0 + code / 0x40), .ofNat (0x80 + code % 0x40)]
  else if code < 0x10000 then
    [.ofNat (0xE0 + code / 0x1000), .ofNat (0x80 + code / 0x40 % 0x40), .ofNat (0x80 + code % 0x40)]
  else
    [.ofNat (0xF0 + code / 0x40000), .ofNat (0x80 + code / 0x1000 % 0x40), .ofNat (0x80 + code / 0x40 % 0x40),
      .ofNat (0x80 + code % 0x40)]

/-- The code point of a unit outside a pair: the replacement character for a surrogate. -/
def loneCode (unit : CodeUnit) : Nat := if isHighSurrogate unit || isLowSurrogate unit then 0xFFFD else unit.toNat

/-- The code point of a pair of surrogates. -/
def pairCode (high low : CodeUnit) : Nat := 0x10000 + (high.toNat - 0xD800) * 0x400 + (low.toNat - 0xDC00)

/-- `Buffer.from(text, 'utf8')`. -/
def encodeUtf8 : JsString → List UInt8
  | [] => []
  | [unit] => utf8Character (loneCode unit)
  | unit :: next :: rest =>
    if isHighSurrogate unit && isLowSurrogate next then utf8Character (pairCode unit next) ++ encodeUtf8 rest
    else utf8Character (loneCode unit) ++ encodeUtf8 (next :: rest)

/-! ## Decoding -/

/-- A sequence begun: how many bytes it still needs, what it spells so far, and where its next byte may lie. -/
structure Utf8Sequence where
  needed : Nat
  code : Nat
  lower : Nat
  upper : Nat

def Utf8Sequence.none : Utf8Sequence := ⟨0, 0, 0x80, 0xBF⟩

def replacement : CodeUnit := 0xFFFD

def utf16Code (code : Nat) : JsString :=
  if code < 0x10000 then [.ofNat code]
  else [.ofNat (0xD800 + (code - 0x10000) / 0x400), .ofNat (0xDC00 + (code - 0x10000) % 0x400)]

/-- A byte outside a sequence: what it is by itself, and the sequence that it begins. -/
def startSequence (byte : Nat) : JsString × Utf8Sequence :=
  if byte < 0x80 then ([.ofNat byte], .none)
  else if 0xC2 ≤ byte ∧ byte ≤ 0xDF then ([], ⟨1, byte - 0xC0, 0x80, 0xBF⟩)
  else if 0xE0 ≤ byte ∧ byte ≤ 0xEF then
    ([], ⟨2, byte - 0xE0, if byte = 0xE0 then 0xA0 else 0x80, if byte = 0xED then 0x9F else 0xBF⟩)
  else if 0xF0 ≤ byte ∧ byte ≤ 0xF4 then
    ([], ⟨3, byte - 0xF0, if byte = 0xF0 then 0x90 else 0x80, if byte = 0xF4 then 0x8F else 0xBF⟩)
  else ([replacement], .none)

/-- What is decoded from the next byte on. -/
def decodeSequence (sequence : Utf8Sequence) : List UInt8 → JsString
  | [] => if sequence.needed = 0 then [] else [replacement]
  | byte :: rest =>
    if sequence.needed = 0 then
      (startSequence byte.toNat).1 ++ decodeSequence (startSequence byte.toNat).2 rest
    else if byte.toNat < sequence.lower ∨ sequence.upper < byte.toNat then
      -- the sequence is cut off, and the byte is read again as a first one
      replacement :: (startSequence byte.toNat).1 ++ decodeSequence (startSequence byte.toNat).2 rest
    else
      let code := sequence.code * 0x40 + (byte.toNat - 0x80)
      if sequence.needed = 1 then utf16Code code ++ decodeSequence .none rest
      else decodeSequence ⟨sequence.needed - 1, code, 0x80, 0xBF⟩ rest

/-- `bytes.toString('utf8')`. -/
def decodeUtf8 (bytes : List UInt8) : JsString := decodeSequence .none bytes

/-! ## Round trip -/

/-- A code point that is no surrogate. -/
def IsScalar (code : Nat) : Prop := code < 0xD800 ∨ (0xDFFF < code ∧ code < 0x110000)

theorem decodeSequence_first {byte : UInt8} (rest : List UInt8) :
    decodeSequence .none (byte :: rest) =
      (startSequence byte.toNat).1 ++ decodeSequence (startSequence byte.toNat).2 rest := by
  rw [decodeSequence]
  exact if_pos rfl

theorem decodeSequence_within {needed code lower upper : Nat} {byte : UInt8} (rest : List UInt8)
    (open_ : needed ≠ 0) (within : lower ≤ byte.toNat ∧ byte.toNat ≤ upper) :
    decodeSequence ⟨needed, code, lower, upper⟩ (byte :: rest) =
      if needed = 1 then utf16Code (code * 0x40 + (byte.toNat - 0x80)) ++ decodeSequence .none rest
      else decodeSequence ⟨needed - 1, code * 0x40 + (byte.toNat - 0x80), 0x80, 0xBF⟩ rest := by
  rw [decodeSequence]
  simp only [open_, if_false]
  rw [if_neg (by omega)]

theorem toNat_ofNat_byte {value : Nat} (small : value < 0x100) : (UInt8.ofNat value).toNat = value := by
  rw [UInt8.toNat_ofNat']
  omega

theorem decodeSequence_utf8Character {code : Nat} (scalar : IsScalar code) (rest : List UInt8) :
    decodeSequence .none (utf8Character code ++ rest) = utf16Code code ++ decodeSequence .none rest := by
  unfold IsScalar at scalar
  unfold utf8Character
  split
  next oneByte =>
    rw [List.singleton_append, decodeSequence_first, toNat_ofNat_byte (by omega), startSequence, if_pos oneByte, utf16Code,
      if_pos (by omega)]
  next more =>
    split
    next twoBytes =>
      have first : startSequence (0xC0 + code / 0x40) = ([], ⟨1, code / 0x40, 0x80, 0xBF⟩) := by
        rw [startSequence, if_neg (by omega), if_pos (by omega), Nat.add_sub_cancel_left]
      have spelled : code / 0x40 * 0x40 + (0x80 + code % 0x40 - 0x80) = code := by omega
      rw [List.cons_append, decodeSequence_first, toNat_ofNat_byte (by omega), first, List.nil_append, List.singleton_append,
        decodeSequence_within _ (by decide) (by rw [toNat_ofNat_byte (by omega)]; omega), if_pos rfl,
        toNat_ofNat_byte (by omega), spelled]
    next more =>
      split
      next threeBytes =>
        have first : startSequence (0xE0 + code / 0x1000) =
            ([], ⟨2, code / 0x1000, if 0xE0 + code / 0x1000 = 0xE0 then 0xA0 else 0x80,
              if 0xE0 + code / 0x1000 = 0xED then 0x9F else 0xBF⟩) := by
          rw [startSequence, if_neg (by omega), if_neg (by omega), if_pos (by omega), Nat.add_sub_cancel_left]
        have spelled : (code / 0x1000 * 0x40 + (0x80 + code / 0x40 % 0x40 - 0x80)) * 0x40 +
            (0x80 + code % 0x40 - 0x80) = code := by omega
        rw [List.cons_append, decodeSequence_first, toNat_ofNat_byte (by omega), first, List.nil_append, List.cons_append,
          decodeSequence_within _ (by decide) (by rw [toNat_ofNat_byte (by omega)]; split <;> split <;> omega),
          if_neg (by decide), List.singleton_append, toNat_ofNat_byte (by omega),
          decodeSequence_within _ (by decide) (by rw [toNat_ofNat_byte (by omega)]; omega), if_pos rfl,
          toNat_ofNat_byte (by omega), spelled]
      next more =>
        have first : startSequence (0xF0 + code / 0x40000) =
            ([], ⟨3, code / 0x40000, if 0xF0 + code / 0x40000 = 0xF0 then 0x90 else 0x80,
              if 0xF0 + code / 0x40000 = 0xF4 then 0x8F else 0xBF⟩) := by
          rw [startSequence, if_neg (by omega), if_neg (by omega), if_neg (by omega), if_pos (by omega),
            Nat.add_sub_cancel_left]
        have spelled : ((code / 0x40000 * 0x40 + (0x80 + code / 0x1000 % 0x40 - 0x80)) * 0x40 +
            (0x80 + code / 0x40 % 0x40 - 0x80)) * 0x40 + (0x80 + code % 0x40 - 0x80) = code := by omega
        rw [List.cons_append, decodeSequence_first, toNat_ofNat_byte (by omega), first, List.nil_append, List.cons_append,
          decodeSequence_within _ (by decide) (by rw [toNat_ofNat_byte (by omega)]; split <;> split <;> omega),
          if_neg (by decide), List.cons_append, toNat_ofNat_byte (by omega),
          decodeSequence_within _ (by decide) (by rw [toNat_ofNat_byte (by omega)]; omega), if_neg (by decide),
          List.singleton_append, toNat_ofNat_byte (by omega),
          decodeSequence_within _ (by decide) (by rw [toNat_ofNat_byte (by omega)]; omega), if_pos rfl,
          toNat_ofNat_byte (by omega), spelled]

theorem isScalar_character (character : Char) : IsScalar character.toNat := by
  have valid := character.valid
  simp only [UInt32.isValidChar, Nat.isValidChar] at valid
  have same : character.toNat = character.val.toNat := rfl
  unfold IsScalar
  omega

theorem isLowSurrogate_basic {character : Char} (basic : character.toNat < 0x10000) :
    isLowSurrogate (.ofNat character.toNat) = false := by
  have scalar := isScalar_character character
  unfold IsScalar at scalar
  simp only [isLowSurrogate, UInt16.toNat_ofNat', Bool.and_eq_false_iff, decide_eq_false_iff_not]
  omega

theorem pairCode_supplementary {code : Nat} (bound : code < 0x110000) (supplementary : ¬ code < 0x10000) :
    pairCode (.ofNat (0xD800 + (code - 0x10000) / 0x400)) (.ofNat (0xDC00 + (code - 0x10000) % 0x400)) = code := by
  have high : (UInt16.ofNat (0xD800 + (code - 0x10000) / 0x400)).toNat = 0xD800 + (code - 0x10000) / 0x400 := by
    rw [UInt16.toNat_ofNat']
    omega
  have low : (UInt16.ofNat (0xDC00 + (code - 0x10000) % 0x400)).toNat = 0xDC00 + (code - 0x10000) % 0x400 := by
    rw [UInt16.toNat_ofNat']
    omega
  unfold pairCode
  omega

theorem encodeUtf8_utf16Character (character : Char) (rest : JsString) :
    encodeUtf8 (utf16Character character ++ rest) = utf8Character character.toNat ++ encodeUtf8 rest := by
  have bound := toNat_character_lt character
  unfold utf16Character
  split
  next basic =>
    have notHigh := isHighSurrogate_basic basic
    have notLow := isLowSurrogate_basic basic
    have code : loneCode (.ofNat character.toNat) = character.toNat := by
      rw [loneCode, notHigh, notLow, Bool.or_self, if_neg Bool.false_ne_true, UInt16.toNat_ofNat']
      omega
    cases rest with
    | nil =>
      change utf8Character (loneCode (.ofNat character.toNat)) = utf8Character character.toNat ++ []
      rw [code, List.append_nil]
    | cons next others =>
      rw [List.singleton_append, encodeUtf8, notHigh, Bool.false_and, if_neg Bool.false_ne_true, code]
  next supplementary =>
    have high := isHighSurrogate_supplementary supplementary
    have low : isLowSurrogate (.ofNat (0xDC00 + (character.toNat - 0x10000) % 0x400)) = true := by
      simp only [isLowSurrogate, UInt16.toNat_ofNat', Bool.and_eq_true, decide_eq_true_eq]
      omega
    have code := pairCode_supplementary bound supplementary
    rw [List.cons_append, List.singleton_append, encodeUtf8, high, low, Bool.and_self, if_pos rfl, code]

theorem utf16Code_character (character : Char) : utf16Code character.toNat = utf16Character character := by
  rw [utf16Code, utf16Character]

theorem decodeUtf8_encodeUtf8 (text : String) : decodeUtf8 (encodeUtf8 (utf16 text)) = utf16 text := by
  unfold decodeUtf8 utf16
  induction text.toList with
  | nil => rfl
  | cons character rest ih =>
    rw [List.flatMap_cons, encodeUtf8_utf16Character, decodeSequence_utf8Character (isScalar_character character),
      ih, utf16Code_character]

/-- A text without lone surrogates. -/
def WellFormed (text : JsString) : Prop := ∃ characters : String, text = utf16 characters

theorem WellFormed.decodeUtf8_encodeUtf8 {text : JsString} (wellFormed : WellFormed text) :
    decodeUtf8 (encodeUtf8 text) = text := by
  obtain ⟨characters, rfl⟩ := wellFormed
  exact Json.decodeUtf8_encodeUtf8 characters

/-! ## Any text -/

/-- `text.toWellFormed()`. -/
def toWellFormed : JsString → JsString
  | [] => []
  | [unit] => [.ofNat (loneCode unit)]
  | unit :: next :: rest =>
    if isHighSurrogate unit && isLowSurrogate next then unit :: next :: toWellFormed rest
    else .ofNat (loneCode unit) :: toWellFormed (next :: rest)

theorem loneCode_scalar (unit : CodeUnit) : IsScalar (loneCode unit) ∧ loneCode unit < 0x10000 := by
  have bound := unit.toNat_lt
  unfold loneCode IsScalar
  split
  next surrogate => omega
  next plain =>
    simp only [isHighSurrogate, isLowSurrogate, Bool.or_eq_true, Bool.and_eq_true, decide_eq_true_eq] at plain
    omega

theorem utf16Code_loneCode (unit : CodeUnit) : utf16Code (loneCode unit) = [.ofNat (loneCode unit)] := by
  rw [utf16Code, if_pos (loneCode_scalar unit).2]

theorem pairCode_scalar {high low : CodeUnit} (first : isHighSurrogate high = true) (second : isLowSurrogate low = true) :
    IsScalar (pairCode high low) ∧ utf16Code (pairCode high low) = [high, low] := by
  simp only [isHighSurrogate, isLowSurrogate, Bool.and_eq_true, decide_eq_true_eq] at first second
  have code : pairCode high low = 0x10000 + ((high.toNat - 0xD800) * 0x400 + (low.toNat - 0xDC00)) := by
    unfold pairCode
    omega
  constructor
  · unfold IsScalar
    omega
  · have highPart : 0xD800 + (pairCode high low - 0x10000) / 0x400 = high.toNat := by omega
    have lowPart : 0xDC00 + (pairCode high low - 0x10000) % 0x400 = low.toNat := by omega
    rw [utf16Code, if_neg (by omega), highPart, lowPart, UInt16.ofNat_toNat, UInt16.ofNat_toNat]

theorem decodeUtf8_encodeUtf8_any (text : JsString) : decodeUtf8 (encodeUtf8 text) = toWellFormed text := by
  unfold decodeUtf8
  fun_induction encodeUtf8 text with
  | case1 => rfl
  | case2 unit =>
    have decoded := decodeSequence_utf8Character (loneCode_scalar unit).1 []
    rw [List.append_nil] at decoded
    rw [decoded, utf16Code_loneCode]
    rfl
  | case3 unit next rest pair ih =>
    obtain ⟨first, second⟩ := Bool.and_eq_true_iff.mp pair
    obtain ⟨scalar, units⟩ := pairCode_scalar first second
    rw [decodeSequence_utf8Character scalar, units, ih, toWellFormed, if_pos pair]
    rfl
  | case4 unit next rest alone ih =>
    rw [decodeSequence_utf8Character (loneCode_scalar unit).1, utf16Code_loneCode, ih, toWellFormed, if_neg alone]
    rfl

end SiftKit.Json
