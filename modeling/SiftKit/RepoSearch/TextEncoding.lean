import SiftKit.Json.Utf8

/-! # The text of a file

The encoding of a file is told from its mark, or from where its null bytes stand.  The tools see the
text with its line ends normalized; the style of the line ends is kept apart, and re-applied when the
text is written back.
-/

namespace SiftKit.RepoSearch

open SiftKit.Json

/-! ## Encodings -/

inductive SupportedTextEncoding where
  | utf8
  | utf16le
  | utf16be
  deriving DecidableEq

def markOf : SupportedTextEncoding → List UInt8
  | .utf16le => [0xFF, 0xFE]
  | .utf16be => [0xFE, 0xFF]
  | .utf8 => []

/-- How many null bytes stand at even positions, and how many at odd ones. -/
def countNulls : List UInt8 → Nat × Nat
  | [] => (0, 0)
  | byte :: rest => ((countNulls rest).2 + (if byte = 0 then 1 else 0), (countNulls rest).1)

def detectEncoding (buffer : List UInt8) : SupportedTextEncoding :=
  if (markOf .utf16le).isPrefixOf buffer then .utf16le
  else if (markOf .utf16be).isPrefixOf buffer then .utf16be
  else if buffer.length < 8 then .utf8
  else
    let sampleLength := min buffer.length 4096
    let evenSlots := (sampleLength + 1) / 2
    let oddSlots := sampleLength / 2
    let (evenNulls, oddNulls) := countNulls (buffer.take sampleLength)
    -- a ratio of so few bytes is never rounded across 0.4 or 0.1
    if 4 * oddSlots ≤ 10 * oddNulls && 10 * evenNulls ≤ evenSlots then .utf16le
    else if 4 * evenSlots ≤ 10 * evenNulls && 10 * oddNulls ≤ oddSlots then .utf16be
    else .utf8

/-- `buffer.toString('utf16le')`: an odd last byte is left out. -/
def decodeUtf16le : List UInt8 → JsString
  | low :: high :: rest => .ofNat (low.toNat + 0x100 * high.toNat) :: decodeUtf16le rest
  | _ => []

def swapBytes : List UInt8 → List UInt8
  | first :: second :: rest => second :: first :: swapBytes rest
  | _ => []

def withoutMark (encoding : SupportedTextEncoding) (buffer : List UInt8) : List UInt8 :=
  if (markOf encoding).isPrefixOf buffer then buffer.drop (markOf encoding).length else buffer

def decodeAs (encoding : SupportedTextEncoding) (buffer : List UInt8) : JsString :=
  match encoding with
  | .utf16le => decodeUtf16le (withoutMark .utf16le buffer)
  | .utf16be => decodeUtf16le (swapBytes (withoutMark .utf16be buffer))
  | .utf8 =>
    let decoded := decodeUtf8 buffer
    if decoded.head? = some 0xFEFF then decoded.tail else decoded

def decodeTextBuffer (buffer : List UInt8) : JsString := decodeAs (detectEncoding buffer) buffer

/-! ## Line ends -/

def carriageReturn : CodeUnit := 0x0D

def lineFeed : CodeUnit := 0x0A

/-- `text.replace(/\r\n/gu, '\n')`. -/
def normalizeLineEnds : JsString → JsString
  | [] => []
  | [unit] => [unit]
  | unit :: next :: rest =>
    if unit = carriageReturn ∧ next = lineFeed then lineFeed :: normalizeLineEnds rest
    else unit :: normalizeLineEnds (next :: rest)

inductive SourceEolStyle where
  | lf
  | crlf
  deriving DecidableEq

/-- `text.match(/\r?\n/gu)`, each match by its style. -/
def newlines : JsString → List SourceEolStyle
  | [] => []
  | [unit] => if unit = lineFeed then [.lf] else []
  | unit :: next :: rest =>
    if unit = carriageReturn ∧ next = lineFeed then .crlf :: newlines rest
    else if unit = lineFeed then .lf :: newlines (next :: rest)
    else newlines (next :: rest)

def detectEolStyle (rawText : JsString) : SourceEolStyle :=
  if 0 < (newlines rawText).length ∧ ∀ newline ∈ newlines rawText, newline = .crlf then .crlf else .lf

def writtenUnit : SourceEolStyle → CodeUnit → JsString
  | .lf, unit => [unit]
  | .crlf, unit => if unit = lineFeed then [carriageReturn, lineFeed] else [unit]

def applyEolStyle (text : JsString) (style : SourceEolStyle) : JsString :=
  let normalized := normalizeLineEnds text
  match style with
  | .crlf => normalized.flatMap (writtenUnit .crlf)
  | .lf => normalized

theorem applyEolStyle_eq (text : JsString) (style : SourceEolStyle) :
    applyEolStyle text style = (normalizeLineEnds text).flatMap (writtenUnit style) := by
  cases style with
  | crlf => rfl
  | lf => exact (List.flatMap_singleton' _).symm

theorem writtenUnit_ne_nil (style : SourceEolStyle) (unit : CodeUnit) : writtenUnit style unit ≠ [] := by
  cases style with
  | lf => exact List.cons_ne_nil unit []
  | crlf =>
    rw [writtenUnit]
    split <;> exact List.cons_ne_nil _ _

/-! ### Uniform line ends -/

def UniformlyLf (text : JsString) : Prop := ∀ before after, text ≠ before ++ carriageReturn :: lineFeed :: after

/-- A carriage return stands before every line feed. -/
def UniformlyCrlf (text : JsString) : Prop :=
  ∀ before after, text = before ++ lineFeed :: after → before.getLast? = some carriageReturn

variable {text : JsString}

theorem UniformlyLf.tail {unit : CodeUnit} (uniform : UniformlyLf (unit :: text)) : UniformlyLf text :=
  fun before after split => uniform (unit :: before) after (by rw [split, List.cons_append])

theorem uniformlyLf_of_not_mem (absent : carriageReturn ∉ text) : UniformlyLf text := by
  rintro before after rfl
  exact absent (by simp)

theorem normalizeLineEnds_of_uniformlyLf (uniform : UniformlyLf text) : normalizeLineEnds text = text := by
  fun_induction normalizeLineEnds text with
  | case1 => rfl
  | case2 unit => rfl
  | case3 unit next rest crlf ih =>
    obtain ⟨rfl, rfl⟩ := crlf
    exact absurd rfl (uniform [] rest)
  | case4 unit next rest other ih => rw [ih uniform.tail]

theorem uniformlyCrlf_nil : UniformlyCrlf [] := by
  intro before after split
  exact absurd (congrArg List.length split) (by simp)

theorem not_uniformlyCrlf_cons (rest : JsString) : ¬ UniformlyCrlf (lineFeed :: rest) := by
  intro uniform
  exact absurd (uniform [] rest rfl) (by decide)

theorem uniformlyCrlf_pair {rest : JsString} :
    UniformlyCrlf (carriageReturn :: lineFeed :: rest) ↔ UniformlyCrlf rest := by
  constructor
  · intro uniform before after split
    have whole := uniform (carriageReturn :: lineFeed :: before) after (by rw [split]; rfl)
    cases before with
    | nil => exact absurd whole (by decide)
    | cons next before => rwa [List.getLast?_cons_cons, List.getLast?_cons_cons] at whole
  · intro uniform before after split
    match before, split with
    | [], split => exact absurd (List.cons.inj split).1 (by decide)
    | [unit], split => rw [(List.cons.inj split).1]; rfl
    | first :: second :: before, split =>
      have whole := uniform before after (List.cons.inj (List.cons.inj split).2).2
      cases before with
      | nil => exact absurd whole (by decide)
      | cons next before => rwa [List.getLast?_cons_cons, List.getLast?_cons_cons]

theorem uniformlyCrlf_cons {unit : CodeUnit} {rest : JsString} (plain : unit ≠ lineFeed)
    (apart : unit = carriageReturn → rest.head? ≠ some lineFeed) :
    UniformlyCrlf (unit :: rest) ↔ UniformlyCrlf rest := by
  constructor
  · intro uniform before after split
    have whole := uniform (unit :: before) after (by rw [split, List.cons_append])
    cases before with
    | nil =>
      obtain rfl : unit = carriageReturn := by simpa using whole
      rw [split] at apart
      exact absurd rfl (apart rfl)
    | cons next before => rwa [List.getLast?_cons_cons] at whole
  · intro uniform before after split
    cases before with
    | nil => exact absurd (List.cons.inj split).1 plain
    | cons first before =>
      have whole := uniform before after (List.cons.inj split).2
      cases before with
      | nil => exact absurd whole (by decide)
      | cons next before => rwa [List.getLast?_cons_cons]

theorem newlines_crlf (text : JsString) : (∀ newline ∈ newlines text, newline = .crlf) ↔ UniformlyCrlf text := by
  fun_induction newlines text with
  | case1 => simp [uniformlyCrlf_nil]
  | case2 => simp [not_uniformlyCrlf_cons]
  | case3 unit plain =>
    have single : UniformlyCrlf [unit] := (uniformlyCrlf_cons plain fun _ => by simp).mpr uniformlyCrlf_nil
    simp [single]
  | case4 unit next rest crlf ih =>
    obtain ⟨rfl, rfl⟩ := crlf
    rw [uniformlyCrlf_pair, ← ih]
    simp
  | case5 next rest other ih => simp [not_uniformlyCrlf_cons]
  | case6 unit next rest other plain ih =>
    rw [ih, uniformlyCrlf_cons plain]
    exact fun start head => other ⟨start, by simpa using head⟩

theorem newlines_ne_nil : newlines text ≠ [] ↔ lineFeed ∈ text := by
  fun_induction newlines text with
  | case1 => simp
  | case2 => simp
  | case3 unit plain => simp [Ne.symm plain]
  | case4 unit next rest crlf ih => simp [crlf.2]
  | case5 next rest other ih => simp
  | case6 unit next rest other plain ih =>
    rw [ih, @List.mem_cons _ unit (next :: rest) lineFeed]
    exact (or_iff_right (Ne.symm plain)).symm

theorem detectEolStyle_eq_crlf : detectEolStyle text = .crlf ↔ lineFeed ∈ text ∧ UniformlyCrlf text := by
  rw [← newlines_ne_nil, ← newlines_crlf, ← List.length_pos_iff, detectEolStyle]
  split
  next uniform => exact ⟨fun _ => uniform, fun _ => rfl⟩
  next mixed => exact ⟨fun style => absurd style (by decide), fun uniform => absurd uniform mixed⟩

theorem detectEolStyle_of_uniformlyLf (uniform : UniformlyLf text) : detectEolStyle text = .lf := by
  cases style : detectEolStyle text with
  | lf => rfl
  | crlf =>
    obtain ⟨member, crlf⟩ := detectEolStyle_eq_crlf.mp style
    obtain ⟨before, after, split⟩ := List.append_of_mem member
    obtain ⟨early, rfl⟩ := List.getLast?_eq_some_iff.mp (crlf before after split)
    rw [List.append_assoc, List.singleton_append] at split
    exact absurd split (uniform early after)

theorem written_normalizeLineEnds (uniform : UniformlyCrlf text) :
    (normalizeLineEnds text).flatMap (writtenUnit .crlf) = text := by
  fun_induction normalizeLineEnds text with
  | case1 => rfl
  | case2 unit =>
    have plain : unit ≠ lineFeed := by
      rintro rfl
      exact not_uniformlyCrlf_cons [] uniform
    rw [List.flatMap_singleton, writtenUnit, if_neg plain]
  | case3 unit next rest crlf ih =>
    obtain ⟨rfl, rfl⟩ := crlf
    rw [List.flatMap_cons, ih (uniformlyCrlf_pair.mp uniform)]
    rfl
  | case4 unit next rest other ih =>
    have plain : unit ≠ lineFeed := by
      rintro rfl
      exact not_uniformlyCrlf_cons (next :: rest) uniform
    have later : UniformlyCrlf (next :: rest) :=
      (uniformlyCrlf_cons plain fun start head => other ⟨start, by simpa using head⟩).mp uniform
    rw [List.flatMap_cons, ih later, writtenUnit, if_neg plain]
    rfl

theorem uniformlyCrlf_written (text : JsString) : UniformlyCrlf (text.flatMap (writtenUnit .crlf)) := by
  induction text with
  | nil => exact uniformlyCrlf_nil
  | cons unit rest ih =>
    rw [List.flatMap_cons, writtenUnit]
    split
    next feed => exact uniformlyCrlf_pair.mpr ih
    next plain =>
      refine (uniformlyCrlf_cons plain fun start head => ?_).mpr ih
      -- a line feed is written behind a carriage return
      cases rest with
      | nil => exact absurd head (Option.some_ne_none lineFeed).symm
      | cons next rest =>
        rw [List.flatMap_cons, writtenUnit] at head
        split at head
        next =>
          have same : carriageReturn = lineFeed := Option.some.inj head
          exact absurd same (by decide)
        next other => exact other (by simpa using head)

theorem normalizeLineEnds_written (absent : carriageReturn ∉ text) :
    normalizeLineEnds (text.flatMap (writtenUnit .crlf)) = text := by
  induction text with
  | nil => rfl
  | cons unit rest ih =>
    rw [List.mem_cons, not_or] at absent
    have later := ih absent.2
    rw [List.flatMap_cons, writtenUnit]
    split
    next feed =>
      rw [List.cons_append, List.singleton_append, normalizeLineEnds, if_pos ⟨rfl, rfl⟩, later, feed]
    next plain =>
      rw [List.singleton_append]
      cases written : rest.flatMap (writtenUnit .crlf) with
      | nil =>
        rw [written] at later
        rw [← later]
        rfl
      | cons next others =>
        rw [written] at later
        rw [normalizeLineEnds, if_neg (fun crlf => absent.1 crlf.1.symm), later]

theorem normalizeLineEnds_applyEolStyle (absent : carriageReturn ∉ text) (style : SourceEolStyle) :
    normalizeLineEnds (applyEolStyle text style) = text := by
  have same := normalizeLineEnds_of_uniformlyLf (uniformlyLf_of_not_mem absent)
  cases style with
  | crlf => rw [applyEolStyle_eq, same, normalizeLineEnds_written absent]
  | lf =>
    change normalizeLineEnds (normalizeLineEnds text) = text
    rw [same, same]

theorem written_of_uniform (uniform : UniformlyLf text ∨ UniformlyCrlf text) :
    (normalizeLineEnds text).flatMap (writtenUnit (detectEolStyle text)) = text := by
  rw [← applyEolStyle_eq]
  rcases uniform with lf | crlf
  · rw [detectEolStyle_of_uniformlyLf lf]
    exact normalizeLineEnds_of_uniformlyLf lf
  · cases style : detectEolStyle text with
    | crlf => exact written_normalizeLineEnds crlf
    | lf =>
      -- then the text has no line feed
      have noFeed : lineFeed ∉ text := by
        intro member
        rw [detectEolStyle_eq_crlf.mpr ⟨member, crlf⟩] at style
        exact absurd style (by decide)
      apply normalizeLineEnds_of_uniformlyLf
      rintro before after rfl
      exact noFeed (by simp)

end SiftKit.RepoSearch
