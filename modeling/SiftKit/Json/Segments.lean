import SiftKit.Json.Values

/-! # Texts in segments

A text that ends in no high surrogate can be followed by any other without a pair being made across the border: what
is escaped, or counted in bytes, segment by segment is the escape, or the count, of the whole.
-/

namespace SiftKit.Json

/-! ## Whole texts -/

def EndsWhole (text : JsString) : Prop := text.getLast?.any isHighSurrogate = false

theorem EndsWhole.splitsPair {early : JsString} (ends : EndsWhole early) (late : JsString) : splitsPair early late = false := by
  rw [EndsWhole] at ends
  rw [Json.splitsPair, ends, Bool.false_and]

theorem endsWhole_nil : EndsWhole [] := rfl

variable {text : JsString}

theorem endsWhole_concat {last : CodeUnit} (notHigh : isHighSurrogate last = false) :
    EndsWhole (text ++ [last]) := by
  simp [EndsWhole, notHigh]

theorem EndsWhole.append {early late : JsString} (earlyEnds : EndsWhole early) (lateEnds : EndsWhole late) :
    EndsWhole (early ++ late) := by
  cases late with
  | nil => rwa [List.append_nil]
  | cons unit rest =>
    rw [EndsWhole, List.getLast?_append_of_ne_nil early (List.cons_ne_nil unit rest)]
    exact lateEnds

theorem hexDigit_small : ∀ value < 16, (hexDigit value).toNat < 0x80 := by
  decide

theorem endsWhole_escapeUnit (unit : CodeUnit) : EndsWhole (escapeUnit unit) := by
  unfold escapeUnit
  split
  next letter found =>
    -- the letters are ASCII
    obtain ⟨early, late, isTable, _⟩ := List.lookup_eq_some_iff.mp found
    have letters : (shortEscapes.all fun entry => !isHighSurrogate entry.2) = true := by decide
    have notHigh : isHighSurrogate letter = false := by
      simpa using List.all_eq_true.mp letters (unit, letter) (by rw [isTable]; simp)
    exact @endsWhole_concat [0x5C] letter notHigh
  next =>
    split
    · have bound := unit.toNat_lt
      have small := hexDigit_small (unit.toNat % 16) (by omega)
      refine @endsWhole_concat [0x5C, 0x75, _, _, _] (hexDigit (unit.toNat % 16)) ?_
      simp only [isHighSurrogate, Bool.and_eq_false_iff, decide_eq_false_iff_not]
      omega
    next plain =>
      simp only [Bool.or_eq_true, not_or, Bool.not_eq_true] at plain
      exact @endsWhole_concat [] unit plain.1.2

/-- A surrogate that stands alone is written as an escape, so no escaped text ends in one. -/
theorem endsWhole_escape (text : JsString) : EndsWhole (escape text) := by
  induction text using escape.induct with
  | case1 => exact endsWhole_nil
  | case2 unit => exact endsWhole_escapeUnit unit
  | case3 unit next rest pair ih =>
    have low := (Bool.and_eq_true_iff.mp pair).2
    have notHigh : isHighSurrogate next = false := by
      simp only [isLowSurrogate, isHighSurrogate, Bool.and_eq_true, decide_eq_true_eq, Bool.and_eq_false_iff,
        decide_eq_false_iff_not] at low ⊢
      omega
    simp only [escape, pair, if_true]
    exact (@endsWhole_concat [unit] next notHigh).append ih
  | case4 unit next rest apart ih =>
    simp only [escape, apart, Bool.false_eq_true, if_false]
    exact (endsWhole_escapeUnit unit).append ih

theorem escapeUnit_ne_nil (unit : CodeUnit) : escapeUnit unit ≠ [] := by
  unfold escapeUnit
  split
  · simp
  · split <;> simp [unicodeEscape]

theorem escape_ne_nil (present : text ≠ []) : escape text ≠ [] := by
  fun_cases escape text with
  | case1 => exact absurd rfl present
  | case2 unit => exact escapeUnit_ne_nil unit
  | case3 => simp
  | case4 => simp [escapeUnit_ne_nil]

theorem utf8Length_append {early late : JsString} (whole : splitsPair early late = false) :
    utf8Length (early ++ late) = utf8Length early + utf8Length late := by
  induction early using escape.induct with
  | case1 => simp [utf8Length]
  | case2 unit =>
    cases late with
    | nil => simp [utf8Length]
    | cons next rest =>
      simp only [splitsPair, List.getLast?_singleton, List.head?_cons, Option.any_some] at whole
      simp [utf8Length, whole]
  | case3 unit next rest pair ih =>
    have later : splitsPair rest late = false := by
      cases rest with
      | nil => rfl
      | cons other others => simpa [splitsPair, List.getLast?_cons_cons] using whole
    simp only [List.cons_append, utf8Length, pair, if_true, ih later, Nat.add_assoc]
  | case4 unit next rest apart ih =>
    have later : splitsPair (next :: rest) late = false := by
      simpa [splitsPair, List.getLast?_cons_cons] using whole
    simp only [List.cons_append, utf8Length, apart, Bool.false_eq_true, if_false]
    rw [← List.cons_append, ih later, Nat.add_assoc]

/-! ## Numbers -/

/-- Every unit is an ASCII character. -/
def Ascii (text : JsString) : Prop := ∀ unit ∈ text, unit.toNat < 0x80

theorem Ascii.endsWhole (ascii : Ascii text) : EndsWhole text := by
  cases isLast : text.getLast? with
  | none => rw [EndsWhole, isLast, Option.any_none]
  | some last =>
    have bound := ascii last (List.mem_of_getLast? isLast)
    simp only [EndsWhole, isLast, Option.any_some, isHighSurrogate, Bool.and_eq_false_iff, decide_eq_false_iff_not]
    omega

/-! ### The units of a number -/

section

/-- The units of a number that are no digits. -/
def numberMarks : List CodeUnit := [0x2B, 0x2D, 0x2E, 0x65]

variable {holds : CodeUnit → Prop} (digit : ∀ unit, isDigit unit = true → holds unit) (mark : ∀ unit ∈ numberMarks, holds unit)

include digit mark

theorem forall_exponentText (power : Int) : ∀ unit ∈ exponentText power, holds unit := by
  unfold exponentText
  rw [List.forall_mem_cons, List.forall_mem_cons]
  refine ⟨mark _ (by decide), ?_, fun unit member => digit unit (isDigit_digitUnits member)⟩
  split <;> exact mark _ (by decide)

theorem forall_magnitudeText {digits : JsString} (each : ∀ unit ∈ digits, holds unit) (exponent : Int) :
    ∀ unit ∈ magnitudeText digits exponent, holds unit := by
  have early : ∀ count, ∀ unit ∈ digits.take count, holds unit := fun count unit member => each unit (List.mem_of_mem_take member)
  have late : ∀ count, ∀ unit ∈ digits.drop count, holds unit := fun count unit member => each unit (List.mem_of_mem_drop member)
  have blanks : ∀ count, ∀ unit ∈ zeros count, holds unit := fun count unit member => digit unit (isDigit_zeros member)
  have point : holds 0x2E := mark _ (by decide)
  have zero : holds 0x30 := digit _ (by decide)
  have power := fun exponent => forall_exponentText digit mark exponent
  unfold magnitudeText
  simp only
  split
  · exact List.forall_mem_append.mpr ⟨each, blanks _⟩
  · split
    · exact List.forall_mem_append.mpr ⟨early _, List.forall_mem_cons.mpr ⟨point, late _⟩⟩
    · split
      · rw [List.forall_mem_cons, List.forall_mem_cons]
        exact ⟨zero, point, List.forall_mem_append.mpr ⟨blanks _, each⟩⟩
      · split
        · exact List.forall_mem_append.mpr ⟨each, power _⟩
        · exact List.forall_mem_append.mpr
            ⟨early _, List.forall_mem_cons.mpr ⟨point, List.forall_mem_append.mpr ⟨late _, power _⟩⟩⟩

theorem forall_text (decimal : Decimal) : ∀ unit ∈ decimal.text, holds unit := by
  have magnitude := forall_magnitudeText digit mark
    (fun unit member => digit unit (@isDigit_digitUnits decimal.digits unit member)) decimal.exponent
  unfold Decimal.text
  split
  · rw [List.forall_mem_singleton]
    exact digit _ (by decide)
  · simp only
    split
    · exact List.forall_mem_cons.mpr ⟨mark _ (by decide), magnitude⟩
    · exact magnitude

end

theorem range_of_isDigit {unit : CodeUnit} (digit : isDigit unit = true) : 0x30 ≤ unit.toNat ∧ unit.toNat ≤ 0x39 := by
  simpa [isDigit] using digit

theorem ascii_text (decimal : Decimal) : Ascii decimal.text := by
  refine forall_text (fun unit digit => ?_) (by simp [numberMarks]) decimal
  have := range_of_isDigit digit
  omega

theorem text_ne_nil (decimal : Decimal) : decimal.text ≠ [] := by
  unfold Decimal.text
  split
  · simp
  next positive =>
    simp only
    split
    · simp
    · unfold magnitudeText
      have digits := digitUnits_ne_nil positive
      simp only
      split <;> (try split) <;> (try split) <;> (try split) <;> simp [digits]

/-! ## Printable texts -/

/-- No control characters, line ends among them. -/
def Printable (text : JsString) : Prop := ∀ unit ∈ text, 0x20 ≤ unit.toNat

instance : DecidablePred Printable := fun text => List.decidableBAll _ text

theorem printable_escapeUnit (unit : CodeUnit) : Printable (escapeUnit unit) := by
  unfold escapeUnit
  split
  next letter found =>
    obtain ⟨early, late, isTable, _⟩ := List.lookup_eq_some_iff.mp found
    have letters : (shortEscapes.all fun entry => decide (0x20 ≤ entry.2.toNat)) = true := by decide
    have printable : 0x20 ≤ letter.toNat := by
      simpa using List.all_eq_true.mp letters (unit, letter) (by rw [isTable]; simp)
    simp [Printable, printable]
  next =>
    split
    · have digits : ∀ value < 16, 0x20 ≤ (hexDigit value).toNat := by decide
      have bound := unit.toNat_lt
      simp only [Printable, unicodeEscape, List.forall_mem_cons, List.not_mem_nil, false_implies, implies_true, and_true]
      exact ⟨by decide, by decide, digits _ (by omega), digits _ (by omega), digits _ (by omega), digits _ (by omega)⟩
    next plain =>
      simp only [Bool.or_eq_true, decide_eq_true_eq, not_or] at plain
      simpa [Printable] using plain.1.1

theorem printable_escape (text : JsString) : Printable (escape text) := by
  fun_induction escape text with
  | case1 => simp [Printable]
  | case2 unit => exact printable_escapeUnit unit
  | case3 unit next rest pair ih =>
    simp only [Bool.and_eq_true, isHighSurrogate, isLowSurrogate, decide_eq_true_eq] at pair
    unfold Printable at ih ⊢
    rw [List.forall_mem_cons, List.forall_mem_cons]
    exact ⟨by omega, by omega, ih⟩
  | case4 unit next rest _ ih =>
    exact List.forall_mem_append.mpr ⟨printable_escapeUnit unit, ih⟩

theorem printable_quoted (text : JsString) : Printable (quoted text) := by
  have quote : Printable [0x22] := by simp [Printable]
  have body := List.forall_mem_append.mpr ⟨printable_escape text, quote⟩
  exact List.forall_mem_cons.mpr ⟨by decide, body⟩

theorem printable_text (decimal : Decimal) : Printable decimal.text := by
  refine forall_text (fun unit digit => ?_) (by simp [numberMarks]) decimal
  have := range_of_isDigit digit
  omega

theorem printable_commaSeparated {texts : List JsString} (each : ∀ text ∈ texts, Printable text) :
    Printable (commaSeparated texts) := by
  fun_induction commaSeparated texts with
  | case1 => simp [Printable]
  | case2 text => exact each text (List.mem_singleton_self text)
  | case3 text rest _ ih =>
    obtain ⟨first, others⟩ := List.forall_mem_cons.mp each
    exact List.forall_mem_append.mpr ⟨first, List.forall_mem_cons.mpr ⟨by decide, ih others⟩⟩

/-- JSON stands on one line. -/
theorem printable_stringify (value : JsValue) : Printable (stringify value) := by
  have bracketed : ∀ (first last : CodeUnit) {texts : List JsString}, 0x20 ≤ first.toNat → 0x20 ≤ last.toNat →
      (∀ text ∈ texts, Printable text) → Printable (first :: (commaSeparated texts ++ [last])) := by
    intro first last texts isFirst isLast each
    refine List.forall_mem_cons.mpr ⟨isFirst, List.forall_mem_append.mpr ⟨printable_commaSeparated each, ?_⟩⟩
    exact List.forall_mem_singleton.mpr isLast
  have null : Printable (utf16 "null") := by decide
  induction value with
  | undefined => exact null
  | null => exact null
  | boolean value => cases value <;> decide
  | number decimal => exact printable_text decimal
  | nonFinite => exact null
  | string text => exact printable_quoted text
  | array items ih =>
    apply bracketed 0x5B 0x5D (by decide) (by decide)
    intro text member
    rw [stringifyItems_eq] at member
    obtain ⟨item, isItem, rfl⟩ := List.mem_map.mp member
    exact ih item isItem
  | object properties ih =>
    apply bracketed 0x7B 0x7D (by decide) (by decide)
    intro text member
    rw [stringifyProperties_eq] at member
    obtain ⟨entry, isEntry, rfl⟩ := List.mem_map.mp member
    have value := ih entry (List.mem_of_mem_filter isEntry)
    exact List.forall_mem_append.mpr ⟨printable_quoted entry.1, List.forall_mem_cons.mpr ⟨by decide, value⟩⟩

end SiftKit.Json
