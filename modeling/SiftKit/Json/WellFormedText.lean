import SiftKit.Json.Segments
import SiftKit.Json.Utf8

/-! # Texts with the same bytes

Two texts have the same UTF-8 exactly when they are the same once their lone surrogates are replaced.
-/

namespace SiftKit.Json

def isSurrogate (unit : CodeUnit) : Bool := isHighSurrogate unit || isLowSurrogate unit

theorem loneUnit_plain (unit : CodeUnit) :
    isSurrogate (.ofNat (loneCode unit)) = false ∧ loneCode (.ofNat (loneCode unit)) = loneCode unit := by
  obtain ⟨scalar, small⟩ := loneCode_scalar unit
  have code : (UInt16.ofNat (loneCode unit)).toNat = loneCode unit := by
    rw [UInt16.toNat_ofNat']
    omega
  have plain : isSurrogate (.ofNat (loneCode unit)) = false := by
    unfold IsScalar at scalar
    simp only [isSurrogate, isHighSurrogate, isLowSurrogate, code, Bool.or_eq_false_iff, Bool.and_eq_false_iff,
      decide_eq_false_iff_not]
    omega
  refine ⟨plain, ?_⟩
  rw [loneCode, show (isHighSurrogate _ || isLowSurrogate _) = false from plain, if_neg Bool.false_ne_true, code]

variable {unit : CodeUnit}

section

variable (plain : isSurrogate unit = false)

include plain

theorem loneUnit_of_plain : .ofNat (loneCode unit) = unit := by
  rw [loneCode, show (isHighSurrogate unit || isLowSurrogate unit) = false from plain, if_neg Bool.false_ne_true,
    UInt16.ofNat_toNat]

theorem not_high_of_plain : isHighSurrogate unit = false :=
  (Bool.or_eq_false_iff.mp plain).1

theorem not_low_of_plain : isLowSurrogate unit = false :=
  (Bool.or_eq_false_iff.mp plain).2

theorem encodeUtf8_cons_plain (rest : JsString) :
    encodeUtf8 (unit :: rest) = utf8Character (loneCode unit) ++ encodeUtf8 rest := by
  cases rest with
  | nil => simp [encodeUtf8]
  | cons next others => rw [encodeUtf8, not_high_of_plain plain, Bool.false_and, if_neg Bool.false_ne_true]

end

theorem encodeUtf8_toWellFormed (text : JsString) : encodeUtf8 (toWellFormed text) = encodeUtf8 text := by
  fun_induction toWellFormed text with
  | case1 => rfl
  | case2 unit => simp [encodeUtf8, (loneUnit_plain unit).2]
  | case3 unit next rest pair ih => rw [encodeUtf8, if_pos pair, ih, encodeUtf8, if_pos pair]
  | case4 unit next rest alone ih =>
    rw [encodeUtf8_cons_plain (loneUnit_plain unit).1, (loneUnit_plain unit).2, ih, encodeUtf8, if_neg alone]

theorem encodeUtf8_inj {first second : JsString} :
    encodeUtf8 first = encodeUtf8 second ↔ toWellFormed first = toWellFormed second := by
  constructor
  · intro same
    rw [← decodeUtf8_encodeUtf8_any, same, decodeUtf8_encodeUtf8_any]
  · intro same
    rw [← encodeUtf8_toWellFormed, same, encodeUtf8_toWellFormed]

@[simp] theorem toWellFormed_utf16 (text : String) : toWellFormed (utf16 text) = utf16 text := by
  rw [← decodeUtf8_encodeUtf8_any, decodeUtf8_encodeUtf8]

theorem toWellFormed_cons_plain (plain : isSurrogate unit = false) (rest : JsString) :
    toWellFormed (unit :: rest) = unit :: toWellFormed rest := by
  cases rest with
  | nil => exact congrArg (fun only => [only]) (loneUnit_of_plain plain)
  | cons next others =>
    rw [toWellFormed, not_high_of_plain plain, Bool.false_and, if_neg Bool.false_ne_true, loneUnit_of_plain plain]

theorem toWellFormed_append_cons {separator : CodeUnit} (plain : isSurrogate separator = false) (early late : JsString) :
    toWellFormed (early ++ separator :: late) = toWellFormed early ++ separator :: toWellFormed late := by
  fun_induction toWellFormed early with
  | case1 => exact toWellFormed_cons_plain plain late
  | case2 unit =>
    have alone : (isHighSurrogate unit && isLowSurrogate separator) = false := by
      rw [not_low_of_plain plain, Bool.and_false]
    rw [List.singleton_append, toWellFormed, if_neg (by simp [alone]), toWellFormed_cons_plain plain]
    rfl
  | case3 unit next rest pair ih =>
    rw [List.cons_append, List.cons_append, toWellFormed, if_pos pair, ih]
    rfl
  | case4 unit next rest alone ih =>
    rw [List.cons_append, List.cons_append, toWellFormed, if_neg alone]
    exact congrArg _ ih

variable {text : JsString}

theorem mem_toWellFormed (member : unit ∈ toWellFormed text) :
    unit ∈ text ∨ unit = replacement := by
  have ofLone : ∀ other : CodeUnit, unit = .ofNat (loneCode other) → unit = other ∨ unit = replacement := by
    rintro other rfl
    by_cases surrogate : isSurrogate other = true
    · apply Or.inr
      rw [loneCode, show (isHighSurrogate other || isLowSurrogate other) = true from surrogate, if_pos rfl]
      rfl
    · exact .inl (loneUnit_of_plain (by simpa using surrogate))
  fun_induction toWellFormed text with
  | case1 => cases member
  | case2 other =>
    rw [List.mem_singleton] at member
    simpa using ofLone other member
  | case3 other next rest pair ih =>
    rw [List.mem_cons, List.mem_cons] at member
    obtain same | same | later := member
    · simp [same]
    · simp [same]
    · cases ih later with
      | inl inside => exact .inl (by simp [inside])
      | inr isReplacement => exact .inr isReplacement
  | case4 other next rest alone ih =>
    rw [List.mem_cons] at member
    obtain same | later := member
    · cases ofLone other same with
      | inl isOther => exact .inl (by simp [isOther])
      | inr isReplacement => exact .inr isReplacement
    · cases ih later with
      | inl inside => exact .inl (List.mem_cons_of_mem _ inside)
      | inr isReplacement => exact .inr isReplacement

/-! ## JSON -/

/-- `text.isWellFormed()`. -/
def IsWellFormed (text : JsString) : Prop := toWellFormed text = text

def Plainly (text : JsString) : Prop := ∀ unit ∈ text, isSurrogate unit = false

theorem toWellFormed_append_plain {early : JsString} (plain : Plainly early) (late : JsString) :
    toWellFormed (early ++ late) = early ++ toWellFormed late := by
  induction early with
  | nil => rfl
  | cons unit rest ih =>
    obtain ⟨first, others⟩ := List.forall_mem_cons.mp plain
    rw [List.cons_append, toWellFormed_cons_plain first, ih others, List.cons_append]

theorem Plainly.isWellFormed (plain : Plainly text) : IsWellFormed text := by
  have whole := toWellFormed_append_plain plain []
  rwa [List.append_nil, toWellFormed, List.append_nil] at whole

theorem plain_of_small (small : unit.toNat < 0x80) : isSurrogate unit = false := by
  simp only [isSurrogate, isHighSurrogate, isLowSurrogate, Bool.or_eq_false_iff, Bool.and_eq_false_iff,
    decide_eq_false_iff_not]
  omega

theorem plainly_escapeUnit (unit : CodeUnit) : Plainly (escapeUnit unit) := by
  unfold escapeUnit
  split
  next letter found =>
    obtain ⟨early, late, isTable, _⟩ := List.lookup_eq_some_iff.mp found
    have letters : (shortEscapes.all fun entry => !isSurrogate entry.2) = true := by decide
    have plain : isSurrogate letter = false := by
      simpa using List.all_eq_true.mp letters (unit, letter) (by rw [isTable]; simp)
    simp only [Plainly, List.forall_mem_cons, List.not_mem_nil, false_implies, implies_true, and_true, plain]
    decide
  next =>
    split
    · have bound := unit.toNat_lt
      have digits : ∀ value < 16, isSurrogate (hexDigit value) = false :=
        fun value small => plain_of_small (hexDigit_small value small)
      simp only [Plainly, unicodeEscape, List.forall_mem_cons, List.not_mem_nil, false_implies, implies_true, and_true]
      exact ⟨by decide, by decide, digits _ (by omega), digits _ (by omega), digits _ (by omega), digits _ (by omega)⟩
    next other =>
      simp only [Bool.or_eq_true, not_or, Bool.not_eq_true] at other
      simp [Plainly, isSurrogate, other.1.2, other.2]

theorem isWellFormed_escape (text : JsString) : IsWellFormed (escape text) := by
  unfold IsWellFormed
  fun_induction escape text with
  | case1 => rfl
  | case2 unit => exact (plainly_escapeUnit unit).isWellFormed
  | case3 unit next rest pair ih => rw [toWellFormed, if_pos pair, ih]
  | case4 unit next rest alone ih => rw [toWellFormed_append_plain (plainly_escapeUnit unit), ih]

theorem IsWellFormed.join {early late : JsString} {separator : CodeUnit} (isEarly : IsWellFormed early)
    (plain : isSurrogate separator = false) (isLate : IsWellFormed late) : IsWellFormed (early ++ separator :: late) := by
  rw [IsWellFormed, toWellFormed_append_cons plain, isEarly, isLate]

theorem IsWellFormed.between {first last : CodeUnit} (isText : IsWellFormed text)
    (isFirst : isSurrogate first = false) (isLast : isSurrogate last = false) :
    IsWellFormed (first :: (text ++ [last])) := by
  have whole : IsWellFormed (text ++ [last]) := isText.join isLast rfl
  rw [IsWellFormed, toWellFormed_cons_plain isFirst, whole]

theorem isWellFormed_quoted (text : JsString) : IsWellFormed (quoted text) :=
  (isWellFormed_escape text).between (by decide) (by decide)

theorem isWellFormed_commaSeparated {texts : List JsString} (each : ∀ text ∈ texts, IsWellFormed text) :
    IsWellFormed (commaSeparated texts) := by
  fun_induction commaSeparated texts with
  | case1 => rfl
  | case2 text => exact each text (List.mem_singleton_self text)
  | case3 text rest _ ih =>
    obtain ⟨first, others⟩ := List.forall_mem_cons.mp each
    exact first.join (by decide) (ih others)

theorem isWellFormed_stringify (value : JsValue) : IsWellFormed (stringify value) := by
  induction value with
  | undefined => exact toWellFormed_utf16 "null"
  | null => exact toWellFormed_utf16 "null"
  | boolean value =>
    cases value with
    | false => exact toWellFormed_utf16 "false"
    | true => exact toWellFormed_utf16 "true"
  | number decimal =>
    have plain : Plainly decimal.text := fun unit member => plain_of_small (ascii_text decimal unit member)
    exact plain.isWellFormed
  | nonFinite => exact toWellFormed_utf16 "null"
  | string text => exact isWellFormed_quoted text
  | array items ih =>
    have each : ∀ text ∈ stringifyItems items, IsWellFormed text := by
      intro text member
      rw [stringifyItems_eq] at member
      obtain ⟨item, isItem, rfl⟩ := List.mem_map.mp member
      exact ih item isItem
    exact (isWellFormed_commaSeparated each).between (by decide) (by decide)
  | object properties ih =>
    have each : ∀ text ∈ stringifyProperties properties, IsWellFormed text := by
      intro text member
      rw [stringifyProperties_eq] at member
      obtain ⟨entry, isEntry, rfl⟩ := List.mem_map.mp member
      exact (isWellFormed_quoted entry.1).join (by decide) (ih entry (List.mem_of_mem_filter isEntry))
    exact (isWellFormed_commaSeparated each).between (by decide) (by decide)

theorem decodeUtf8_encodeUtf8_stringify (value : JsValue) : decodeUtf8 (encodeUtf8 (stringify value)) = stringify value := by
  rw [decodeUtf8_encodeUtf8_any, isWellFormed_stringify]

end SiftKit.Json
