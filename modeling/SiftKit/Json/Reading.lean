import SiftKit.Json.Values

/-! # Reading JSON text

`JSON.parse`, by recursive descent over a text of code units, and the round trip: reading what
`JSON.stringify` wrote gives the value without its undefined properties.
-/

namespace SiftKit.Json

def isSpace (unit : CodeUnit) : Bool := unit == 0x20 || unit == 0x09 || unit == 0x0A || unit == 0x0D

def skipSpace (text : JsString) : JsString := text.dropWhile isSpace

/-- A text that starts with the word. -/
def readWord (word : JsString) (value : JsValue) (text : JsString) : Option (JsValue × JsString) :=
  if word.isPrefixOf text then some (value, text.drop word.length) else none

def readScalar (text : JsString) : Option (JsValue × JsString) :=
  readWord (utf16 "true") (.boolean true) text
    <|> readWord (utf16 "false") (.boolean false) text
    <|> readWord (utf16 "null") .null text
    <|> (readNumber text).map fun read => (.number read.1, read.2)

/-- Where a key is written twice, the last value counts, at the place of the first. -/
def defineAll (entries : Properties) : Properties :=
  entries.foldl (fun object entry => define object entry.1 entry.2) []

mutual

def readValue : Nat → JsString → Option (JsValue × JsString)
  | 0, _ => none
  | fuel + 1, text =>
    match skipSpace text with
    | [] => none
    | unit :: rest =>
      if unit = 0x22 then (readString rest).map fun read => (.string read.1, read.2)
      else if unit = 0x5B then
        if (skipSpace rest).head? = some 0x5D then some (.array [], (skipSpace rest).tail)
        else (readItems fuel rest).map fun read => (.array read.1, read.2)
      else if unit = 0x7B then
        if (skipSpace rest).head? = some 0x7D then some (.object [], (skipSpace rest).tail)
        else (readEntries fuel rest).map fun read => (.object (defineAll read.1), read.2)
      else readScalar (unit :: rest)

/-- The items of an array whose bracket has been read. -/
def readItems : Nat → JsString → Option (List JsValue × JsString)
  | 0, _ => none
  | fuel + 1, text => do
    let (item, rest) ← readValue fuel text
    match skipSpace rest with
    | 0x2C :: rest => (readItems fuel rest).map fun read => (item :: read.1, read.2)
    | 0x5D :: rest => some ([item], rest)
    | _ => none

/-- The entries of an object whose brace has been read. -/
def readEntries : Nat → JsString → Option (Properties × JsString)
  | 0, _ => none
  | fuel + 1, text =>
    match skipSpace text with
    | 0x22 :: rest => do
      let (key, rest) ← readString rest
      match skipSpace rest with
      | 0x3A :: rest => do
        let (value, rest) ← readValue fuel rest
        match skipSpace rest with
        | 0x2C :: rest => (readEntries fuel rest).map fun read => ((key, value) :: read.1, read.2)
        | 0x7D :: rest => some ([(key, value)], rest)
        | _ => none
      | _ => none
    | _ => none

end

/-- `JSON.parse`. -/
def parse (text : JsString) : Option JsValue := do
  let (value, rest) ← readValue (text.length + 1) text
  if skipSpace rest = [] then some value else none

/-! ## Scalars -/

variable {unit : CodeUnit} {text : JsString} {value : JsValue} {entries : Properties}

theorem skipSpace_cons (ink : isSpace unit = false) (rest : JsString) : skipSpace (unit :: rest) = unit :: rest := by
  simp [skipSpace, ink]

theorem readWord_other {letter first : CodeUnit} (word : JsString) (value : JsValue) (text : JsString)
    (other : letter ≠ first) : readWord (letter :: word) value (first :: text) = none := by
  simp [readWord, List.isPrefixOf, other]

/-- What a number's text starts with. -/
def StartsNumber (unit : CodeUnit) : Prop := isDigit unit = true ∨ unit = 0x2D

theorem StartsNumber.range (starts : StartsNumber unit) : 0x2D ≤ unit.toNat ∧ unit.toNat ≤ 0x39 := by
  cases starts with
  | inl digit =>
    simp only [isDigit, Bool.and_eq_true, decide_eq_true_eq] at digit
    omega
  | inr sign =>
    rw [sign]
    decide

theorem StartsNumber.ne (starts : StartsNumber unit) (other : CodeUnit)
    (outside : other.toNat < 0x2D ∨ 0x39 < other.toNat) : unit ≠ other := by
  have range := starts.range
  intro same
  rw [same] at range
  omega

theorem StartsNumber.not_space (starts : StartsNumber unit) : isSpace unit = false := by
  simp only [isSpace, Bool.or_eq_false_iff, beq_eq_false_iff_ne]
  exact ⟨⟨⟨starts.ne _ (by decide), starts.ne _ (by decide)⟩, starts.ne _ (by decide)⟩, starts.ne _ (by decide)⟩

theorem head_decimalText (decimal : Decimal) : ∃ unit rest, decimal.text = unit :: rest ∧ StartsNumber unit := by
  unfold Decimal.text
  split
  · exact ⟨0x30, [], rfl, .inl rfl⟩
  next positive =>
    simp only
    split
    · exact ⟨0x2D, _, rfl, .inr rfl⟩
    · obtain ⟨unit, rest, isText, digit⟩ := head_magnitudeText positive decimal.exponent
      exact ⟨unit, rest, isText, .inl digit⟩

variable {rest : JsString}

theorem readScalar_number (decimal : Decimal) (ends : EndsNumber rest) :
    readScalar (decimal.text ++ rest) = some (.number decimal, rest) := by
  obtain ⟨unit, text, isText, starts⟩ := head_decimalText decimal
  have read := readNumber_text decimal ends
  rw [isText] at read ⊢
  rw [List.cons_append] at read ⊢
  have noTrue := readWord_other (utf16 "rue") (.boolean true) (text ++ rest) (starts.ne 0x74 (by decide)).symm
  have noFalse := readWord_other (utf16 "alse") (.boolean false) (text ++ rest) (starts.ne 0x66 (by decide)).symm
  have noNull := readWord_other (utf16 "ull") .null (text ++ rest) (starts.ne 0x6E (by decide)).symm
  unfold readScalar
  rw [show utf16 "true" = 0x74 :: utf16 "rue" from rfl, noTrue, show utf16 "false" = 0x66 :: utf16 "alse" from rfl, noFalse,
    show utf16 "null" = 0x6E :: utf16 "ull" from rfl, noNull, read]
  rfl

theorem readScalar_true (rest : JsString) : readScalar (utf16 "true" ++ rest) = some (.boolean true, rest) := rfl

theorem readScalar_false (rest : JsString) : readScalar (utf16 "false" ++ rest) = some (.boolean false, rest) := rfl

theorem readScalar_null (rest : JsString) : readScalar (utf16 "null" ++ rest) = some (.null, rest) := rfl

theorem readValue_scalar (fuel : Nat) (ink : isSpace unit = false) (notString : unit ≠ 0x22) (notArray : unit ≠ 0x5B)
    (notObject : unit ≠ 0x7B) : readValue (fuel + 1) (unit :: text) = readScalar (unit :: text) := by
  simp only [readValue, skipSpace_cons ink, if_neg notString, if_neg notArray, if_neg notObject]

/-! ## Reading undoes writing -/

/-- A value's text is read as what is left of the value. -/
def ReadsBack (value : JsValue) : Prop :=
  ∀ (fuel : Nat) (rest : JsString), (stringify value).length ≤ fuel → EndsNumber rest →
    readValue fuel (stringify value ++ rest) = some ((compact value).orNull, rest)

theorem endsNumber_cons (ends : isDigit unit = false ∧ unit ≠ 0x2E ∧ unit ≠ 0x65 ∧ unit ≠ 0x45) (rest : JsString) :
    EndsNumber (unit :: rest) := by
  intro first member
  simp only [List.head?_cons, Option.mem_def, Option.some_inj] at member
  rw [← member]
  exact ends

theorem readsBack_scalar (isText : stringify value = unit :: text) (ink : isSpace unit = false)
    (notString : unit ≠ 0x22) (notArray : unit ≠ 0x5B) (notObject : unit ≠ 0x7B)
    (read : ∀ rest, EndsNumber rest → readScalar (stringify value ++ rest) = some ((compact value).orNull, rest)) :
    ReadsBack value := by
  intro fuel rest enough ends
  have scalar := read rest ends
  rw [isText] at enough scalar ⊢
  cases fuel with
  | zero => simp at enough
  | succ fuel =>
    rw [List.cons_append] at scalar ⊢
    rw [readValue_scalar fuel ink notString notArray notObject, scalar]

theorem readsBack_number (decimal : Decimal) : ReadsBack (.number decimal) := by
  obtain ⟨unit, text, isText, starts⟩ := head_decimalText decimal
  exact readsBack_scalar isText starts.not_space (starts.ne _ (by decide)) (starts.ne _ (by decide)) (starts.ne _ (by decide))
    fun rest ends => readScalar_number decimal ends

theorem readsBack_string (text : JsString) : ReadsBack (.string text) := by
  intro fuel rest enough ends
  cases fuel with
  | zero => simp [stringify, quoted] at enough
  | succ fuel =>
    have read := readString_escape text rest
    simp only [stringify, quoted, List.cons_append, List.append_assoc, List.nil_append, readValue,
      skipSpace_cons (show isSpace 0x22 = false from rfl), if_true, read, Option.map_some]
    rfl

theorem length_commaSeparated_cons (text next : JsString) (rest : List JsString) :
    (commaSeparated (text :: next :: rest)).length = text.length + 1 + (commaSeparated (next :: rest)).length := by
  simp only [commaSeparated, List.length_append, List.length_cons]
  omega

variable {fuel : Nat}

theorem readItems_last {item : JsValue}
    (read : readValue fuel text = some (item, 0x5D :: rest)) : readItems (fuel + 1) text = some ([item], rest) := by
  simp only [readItems, read, Option.bind_eq_bind, Option.bind_some, skipSpace_cons (show isSpace 0x5D = false from rfl)]

theorem readItems_more {item : JsValue}
    (read : readValue fuel text = some (item, 0x2C :: rest)) :
    readItems (fuel + 1) text = (readItems fuel rest).map fun read => (item :: read.1, read.2) := by
  simp only [readItems, read, Option.bind_eq_bind, Option.bind_some, skipSpace_cons (show isSpace 0x2C = false from rfl)]

theorem readItems_text {items : List JsValue} (some_items : items ≠ []) (each : ∀ item ∈ items, ReadsBack item)
    (fuel : Nat) (rest : JsString) (enough : (commaSeparated (stringifyItems items)).length < fuel) :
    readItems fuel (commaSeparated (stringifyItems items) ++ 0x5D :: rest) = some (compactItems items, rest) := by
  induction items generalizing fuel with
  | nil => exact absurd rfl some_items
  | cons item others ih =>
    have first := each item List.mem_cons_self
    cases fuel with
    | zero => omega
    | succ fuel =>
      cases others with
      | nil => exact readItems_last (first fuel _ (Nat.lt_succ_iff.mp enough) (endsNumber_cons (by decide) rest))
      | cons next others =>
        have later := ih (by simp) (fun other member => each other (List.mem_cons_of_mem _ member)) fuel
          (by simp only [stringifyItems, length_commaSeparated_cons] at enough ⊢; omega)
        have read := first fuel (0x2C :: (commaSeparated (stringifyItems (next :: others)) ++ 0x5D :: rest))
          (by simp only [stringifyItems, length_commaSeparated_cons] at enough; omega) (endsNumber_cons (by decide) _)
        have text : commaSeparated (stringifyItems (item :: next :: others)) ++ 0x5D :: rest =
            stringify item ++ 0x2C :: (commaSeparated (stringifyItems (next :: others)) ++ 0x5D :: rest) := by
          simp [stringifyItems, commaSeparated]
        rw [text, readItems_more read, later]
        rfl

theorem readEntries_last {key : JsString} (read : readValue fuel text = some (value, 0x7D :: rest)) :
    readEntries (fuel + 1) (quoted key ++ 0x3A :: text) = some ([(key, value)], rest) := by
  have readKey := readString_escape key (0x3A :: text)
  simp only [readEntries, quoted, List.cons_append, List.append_assoc, List.nil_append, readKey, read, Option.bind_eq_bind,
    Option.bind_some, skipSpace_cons (show isSpace 0x22 = false from rfl), skipSpace_cons (show isSpace 0x3A = false from rfl),
    skipSpace_cons (show isSpace 0x7D = false from rfl)]

theorem readEntries_more {key : JsString} (read : readValue fuel text = some (value, 0x2C :: rest)) :
    readEntries (fuel + 1) (quoted key ++ 0x3A :: text) =
      (readEntries fuel rest).map fun read => ((key, value) :: read.1, read.2) := by
  have readKey := readString_escape key (0x3A :: text)
  simp only [readEntries, quoted, List.cons_append, List.append_assoc, List.nil_append, readKey, read, Option.bind_eq_bind,
    Option.bind_some, skipSpace_cons (show isSpace 0x22 = false from rfl), skipSpace_cons (show isSpace 0x3A = false from rfl),
    skipSpace_cons (show isSpace 0x2C = false from rfl)]

/-- An entry of an object as it is written. -/
def entryText (entry : JsString × JsValue) : JsString := quoted entry.1 ++ 0x3A :: stringify entry.2

theorem readEntries_text (some_entries : entries ≠ []) (each : ∀ entry ∈ entries, ReadsBack entry.2) (fuel : Nat)
    (rest : JsString) (enough : (commaSeparated (entries.map entryText)).length < fuel) :
    readEntries fuel (commaSeparated (entries.map entryText) ++ 0x7D :: rest) =
      some (entries.map fun entry => (entry.1, (compact entry.2).orNull), rest) := by
  induction entries generalizing fuel with
  | nil => exact absurd rfl some_entries
  | cons entry others ih =>
    have first := each entry List.mem_cons_self
    have shorter : (stringify entry.2).length < (entryText entry).length := by
      simp only [entryText, List.length_append, List.length_cons]
      omega
    cases fuel with
    | zero => omega
    | succ fuel =>
      cases others with
      | nil =>
        have length : (entryText entry).length < fuel + 1 := enough
        have text : commaSeparated ([entry].map entryText) ++ 0x7D :: rest =
            quoted entry.1 ++ 0x3A :: (stringify entry.2 ++ 0x7D :: rest) := by
          simp [commaSeparated, entryText]
        rw [text, readEntries_last (first fuel _ (by omega) (endsNumber_cons (by decide) rest))]
        rfl
      | cons next others =>
        simp only [List.map_cons, length_commaSeparated_cons] at enough
        have later := ih (by simp) (fun other member => each other (List.mem_cons_of_mem _ member)) fuel
          (by simp only [List.map_cons]; omega)
        have read := first fuel (0x2C :: (commaSeparated ((next :: others).map entryText) ++ 0x7D :: rest)) (by omega)
          (endsNumber_cons (by decide) _)
        have text : commaSeparated ((entry :: next :: others).map entryText) ++ 0x7D :: rest =
            quoted entry.1 ++ 0x3A ::
              (stringify entry.2 ++ 0x2C :: (commaSeparated ((next :: others).map entryText) ++ 0x7D :: rest)) := by
          simp [commaSeparated, entryText]
        rw [text, readEntries_more read, later]
        rfl

theorem define_absent {properties : Properties} {key : JsString} (absent : key ∉ keysOf properties) (value : JsValue) :
    define properties key value = properties ++ [(key, value)] := by
  induction properties with
  | nil => rfl
  | cons head rest ih =>
    simp only [keysOf, List.map_cons, List.mem_cons, not_or] at absent
    rw [define, if_neg (Ne.symm absent.1), ih absent.2, List.cons_append]

theorem defineAll_append (object : Properties) (distinct : (keysOf (object ++ entries)).Nodup) :
    entries.foldl (fun object entry => define object entry.1 entry.2) object = object ++ entries := by
  induction entries generalizing object with
  | nil => simp
  | cons entry rest ih =>
    have absent : entry.1 ∉ keysOf object := by
      simp only [keysOf, List.map_append, List.map_cons] at distinct
      intro member
      exact (List.nodup_append.mp distinct).2.2 _ member _ List.mem_cons_self rfl
    have moved : object ++ entry :: rest = (object ++ [entry]) ++ rest := by simp
    rw [List.foldl_cons, define_absent absent, ih _ (by rwa [← moved]), ← moved]

theorem defineAll_distinct (distinct : (keysOf entries).Nodup) : defineAll entries = entries :=
  defineAll_append [] distinct

theorem head_stringify (value : JsValue) : ∃ unit rest, stringify value = unit :: rest ∧ isSpace unit = false ∧ unit ≠ 0x5D := by
  cases value with
  | undefined => exact ⟨0x6E, utf16 "ull", rfl, rfl, by decide⟩
  | null => exact ⟨0x6E, utf16 "ull", rfl, rfl, by decide⟩
  | boolean value =>
    cases value with
    | true => exact ⟨0x74, utf16 "rue", rfl, rfl, by decide⟩
    | false => exact ⟨0x66, utf16 "alse", rfl, rfl, by decide⟩
  | number decimal =>
    obtain ⟨unit, text, isText, starts⟩ := head_decimalText decimal
    exact ⟨unit, text, isText, starts.not_space, starts.ne _ (by decide)⟩
  | nonFinite => exact ⟨0x6E, utf16 "ull", rfl, rfl, by decide⟩
  | string text => exact ⟨0x22, _, rfl, rfl, by decide⟩
  | array items => exact ⟨0x5B, _, rfl, rfl, by decide⟩
  | object properties => exact ⟨0x7B, _, rfl, rfl, by decide⟩

theorem head_commaSeparated (isText : text = unit :: rest) (texts : List JsString) :
    ∃ more, commaSeparated (text :: texts) = unit :: more := by
  subst isText
  cases texts with
  | nil => exact ⟨rest, rfl⟩
  | cons next others => exact ⟨_, rfl⟩

theorem readsBack_array {items : List JsValue} (each : ∀ item ∈ items, ReadsBack item) : ReadsBack (.array items) := by
  intro fuel rest enough ends
  cases fuel with
  | zero => simp [stringify] at enough
  | succ fuel =>
    cases items with
    | nil => rfl
    | cons item others =>
      obtain ⟨unit, _, isText, ink, open_bracket⟩ := head_stringify item
      obtain ⟨more, isCommas⟩ := head_commaSeparated isText (stringifyItems others)
      have commas : commaSeparated (stringifyItems (item :: others)) = unit :: more := isCommas
      have read := readItems_text (by simp) each fuel rest
        (by simp only [stringify, List.length_cons, List.length_append] at enough; simp only [stringifyItems] at *; omega)
      have text : stringify (.array (item :: others)) ++ rest =
          0x5B :: (commaSeparated (stringifyItems (item :: others)) ++ 0x5D :: rest) := by
        simp [stringify]
      rw [text]
      rw [commas] at read ⊢
      simp only [List.cons_append] at read ⊢
      simp only [readValue, skipSpace_cons (show isSpace 0x5B = false from rfl), skipSpace_cons ink, List.head?_cons,
        Option.some_inj, if_neg open_bracket, read]
      rfl

theorem compactProperties_orNull (properties : Properties) :
    (stated properties).map (fun entry => (entry.1, (compact entry.2).orNull)) = compactProperties properties := by
  rw [compactProperties_eq]
  refine List.map_congr_left fun entry member => ?_
  have given : entry.2.isUndefined = false := by simpa using (List.mem_filter.mp member).2
  rw [orNull_of_stated (by rwa [isUndefined_compact])]

theorem readsBack_object {properties : Properties} (distinct : (keysOf properties).Nodup)
    (each : ∀ entry ∈ properties, ReadsBack entry.2) : ReadsBack (.object properties) := by
  intro fuel rest enough ends
  have texts : stringifyProperties properties = (stated properties).map entryText := stringifyProperties_eq properties
  have left := compactProperties_orNull properties
  have leftDistinct : (keysOf (compactProperties properties)).Nodup := by
    rw [keysOf_compactProperties]
    exact distinct.sublist (keysOf_stated_sublist properties)
  have statedEach : ∀ entry ∈ stated properties, ReadsBack entry.2 :=
    fun entry member => each entry (List.mem_filter.mp member).1
  simp only [stringify, texts, List.length_cons, List.length_append] at enough ⊢
  simp only [compact]
  generalize stated properties = entries at *
  cases fuel with
  | zero => omega
  | succ fuel =>
    cases entries with
    | nil =>
      rw [← left]
      rfl
    | cons entry others =>
      obtain ⟨more, commas⟩ := head_commaSeparated (show entryText entry = 0x22 :: _ from rfl) (others.map entryText)
      rw [← List.map_cons] at commas
      have read := readEntries_text (by simp) statedEach fuel rest (by omega)
      rw [left, commas] at read
      rw [commas]
      simp only [List.cons_append, List.append_assoc, List.nil_append] at read ⊢
      simp only [readValue, skipSpace_cons (show isSpace 0x7B = false from rfl),
        skipSpace_cons (show isSpace 0x22 = false from rfl), List.head?_cons, read, Option.map_some,
        defineAll_distinct leftDistinct]
      rfl

theorem readsBack (proper : Proper value) : ReadsBack value := by
  induction value with
  | undefined => exact readsBack_scalar rfl rfl (by decide) (by decide) (by decide) fun rest _ => readScalar_null rest
  | null => exact readsBack_scalar rfl rfl (by decide) (by decide) (by decide) fun rest _ => readScalar_null rest
  | boolean value =>
    cases value with
    | true => exact readsBack_scalar rfl rfl (by decide) (by decide) (by decide) fun rest _ => readScalar_true rest
    | false => exact readsBack_scalar rfl rfl (by decide) (by decide) (by decide) fun rest _ => readScalar_false rest
  | number decimal => exact readsBack_number decimal
  | nonFinite => cases proper
  | string text => exact readsBack_string text
  | array items ih =>
    cases proper with
    | array _ each => exact readsBack_array fun item member => ih item member (each item member)
  | object properties ih =>
    cases proper with
    | object distinct each =>
      exact readsBack_object distinct fun entry member => ih entry member (each entry member)

theorem parse_stringify (proper : Proper value) : parse (stringify value) = some (compact value).orNull := by
  have read := readsBack proper ((stringify value).length + 1) [] (by omega) (by simp [EndsNumber])
  rw [List.append_nil] at read
  rw [parse, read]
  rfl

end SiftKit.Json
