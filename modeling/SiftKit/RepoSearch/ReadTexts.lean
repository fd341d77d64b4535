import SiftKit.Foundation.Lines
import SiftKit.RepoSearch.ReadWindows

/-! # The texts of a read

What a read says before it is fitted is its numbered lines, the last one trimmed at its end, and the mark of
the end of the file.  What is kept of it is its first lines.
-/

namespace SiftKit.RepoSearch

open SiftKit.Json
open SiftKit.Json.Schema (isWhiteSpace trim)
open SiftKit.Lines

/-! ## Lines of results -/

/-- A line of a result: it starts with something, and it is one line. -/
abbrev IsSolid (line : JsString) : Prop := Solid lineFeed isWhiteSpace line

def trimmedLines (lines : List JsString) : List JsString := trimLast isWhiteSpace lines

variable {lines : List JsString} {line : JsString} (number : Nat)

theorem trim_joinLines (solid : ∀ line ∈ lines, IsSolid line) :
    trim (joinLines lines) = joinLines (trimmedLines lines) := by
  unfold trim joinLines
  rw [dropWhile_intercalate solid, rdropWhile_intercalate solid]
  rfl

theorem trimEnd_joinLines (solid : ∀ line ∈ lines, IsSolid line) :
    trimEnd (joinLines lines) = joinLines (trimmedLines lines) := rdropWhile_intercalate solid

theorem joinLines_concat (present : lines ≠ []) (last : JsString) :
    joinLines (lines ++ [last]) = joinLines lines ++ lineFeed :: last := by
  unfold joinLines
  rw [intercalate_append present (List.cons_ne_nil last []), List.intercalate_singleton]

theorem splitLines_joinLines (present : lines ≠ []) (solid : ∀ line ∈ lines, IsSolid line) :
    splitLines (joinLines lines) = lines :=
  List.splitOn_intercalate lineFeed (fun line member => (solid line member).noSeparator) present

theorem lineFeed_not_mem_splitLines {text : JsString} (member : line ∈ splitLines text) : lineFeed ∉ line :=
  separator_not_mem_splitOn member

def EndsPlain (line : JsString) : Prop := line.getLast? ≠ some carriageReturn

variable {rest : JsString}

theorem normalizeLineEnds_line (noFeed : lineFeed ∉ line) (plain : EndsPlain line) :
    normalizeLineEnds (line ++ lineFeed :: rest) = line ++ lineFeed :: normalizeLineEnds rest := by
  induction line with
  | nil =>
    cases rest with
    | nil => rfl
    | cons next rest =>
      rw [List.nil_append, normalizeLineEnds, if_neg]
      · rfl
      · intro both
        exact absurd both.1 (by decide)
  | cons unit others ih =>
    rw [List.mem_cons, not_or] at noFeed
    cases others with
    | nil =>
      have notReturn : unit ≠ carriageReturn := by simpa [EndsPlain] using plain
      rw [List.singleton_append, normalizeLineEnds, if_neg (fun both => notReturn both.1)]
      have tail := ih noFeed.2 (by simp [EndsPlain])
      rw [List.nil_append, List.nil_append] at tail
      rw [tail, List.singleton_append]
    | cons next others =>
      have tail := ih noFeed.2 (by simpa [EndsPlain] using plain)
      rw [List.cons_append, List.cons_append, normalizeLineEnds, if_neg]
      · rw [← List.cons_append, tail]
        rfl
      · intro both
        exact noFeed.2 (by simp [both.2])

theorem normalizeLineEnds_of_noFeed (noFeed : lineFeed ∉ line) : normalizeLineEnds line = line := by
  apply normalizeLineEnds_of_uniformlyLf
  intro before after same
  exact noFeed (by simp [same])

theorem normalizeLineEnds_joinLines (noFeed : ∀ line ∈ lines, lineFeed ∉ line)
    (plain : ∀ line ∈ lines, EndsPlain line) : normalizeLineEnds (joinLines lines) = joinLines lines := by
  induction lines with
  | nil => rfl
  | cons line rest ih =>
    have tail := ih (fun other member => noFeed other (List.mem_cons_of_mem _ member))
      fun other member => plain other (List.mem_cons_of_mem _ member)
    cases rest with
    | nil =>
      unfold joinLines
      rw [List.intercalate_singleton]
      exact normalizeLineEnds_of_noFeed (noFeed line List.mem_cons_self)
    | cons next rest =>
      have joined : joinLines (line :: next :: rest) = line ++ lineFeed :: joinLines (next :: rest) := by
        unfold joinLines
        rw [List.intercalate_cons_of_ne_nil (List.cons_ne_nil next rest)]
        simp
      rw [joined, normalizeLineEnds_line (noFeed line List.mem_cons_self) (plain line List.mem_cons_self), tail]

theorem splitLineEnds_joinLines (present : lines ≠ []) (solid : ∀ line ∈ lines, IsSolid line)
    (plain : ∀ line ∈ lines, EndsPlain line) : splitLineEnds (joinLines lines) = lines := by
  unfold splitLineEnds
  rw [splitLines_joinLines present solid]
  simp only
  have kept : lines.dropLast.map (fun line => if line.getLast? = some carriageReturn then line.dropLast else line) =
      lines.dropLast := by
    conv_rhs => rw [← List.map_id lines.dropLast]
    apply List.map_congr_left
    intro line member
    rw [if_neg (plain line (List.dropLast_subset _ member))]
    rfl
  rw [kept, List.getLast?_eq_getLast_of_ne_nil present]
  exact List.dropLast_concat_getLast present

/-! ## Numbers -/

theorem isDigit_of_mem_numberText {number : Nat} {unit : CodeUnit} (member : unit ∈ numberText number) :
    isDigit unit = true := by
  unfold numberText utf16 at member
  obtain ⟨character, isCharacter, isUnit⟩ := List.mem_flatMap.mp member
  rw [Nat.toString_eq_ofList_toDigits, String.toList_ofList] at isCharacter
  have digit := Nat.isDigit_of_mem_toDigits (by decide) (by decide) isCharacter
  unfold Char.isDigit at digit
  simp only [Bool.and_eq_true, decide_eq_true_eq] at digit
  have low : 0x30 ≤ character.toNat := digit.1
  have high : character.toNat ≤ 0x39 := digit.2
  rw [utf16Character, if_pos (by omega), List.mem_singleton] at isUnit
  rw [isUnit]
  simp only [isDigit, UInt16.toNat_ofNat', Bool.and_eq_true, decide_eq_true_eq]
  omega

theorem numberText_ne_nil : numberText number ≠ [] := by
  unfold numberText utf16
  rw [Nat.toString_eq_ofList_toDigits, String.toList_ofList]
  have present : Nat.toDigits 10 number ≠ [] := List.ne_nil_of_length_pos Nat.length_toDigits_pos
  cases digits : Nat.toDigits 10 number with
  | nil => exact absurd digits present
  | cons first rest => simp [utf16Character_ne_nil]

theorem not_isWhiteSpace_of_isDigit {unit : CodeUnit} (digit : isDigit unit = true) : isWhiteSpace unit = false := by
  simp only [isDigit, Bool.and_eq_true, decide_eq_true_eq] at digit
  simp only [isWhiteSpace, Bool.or_eq_false_iff, Bool.and_eq_false_iff, decide_eq_false_iff_not, beq_eq_false_iff_ne]
  omega

theorem solid_numberText (noFeed : lineFeed ∉ rest) : IsSolid (numberText number ++ rest) := by
  have solid : IsSolid (numberText number) := by
    constructor
    · cases digits : numberText number with
      | nil => exact absurd digits (numberText_ne_nil number)
      | cons first others =>
        have digit : isDigit first = true := isDigit_of_mem_numberText (by rw [digits]; exact List.mem_cons_self)
        exact ⟨first, others, rfl, not_isWhiteSpace_of_isDigit digit⟩
    · intro within
      exact absurd (isDigit_of_mem_numberText within) (by decide)
  exact solid.append noFeed

theorem isNumbered_numberText (rest : JsString) : isNumbered (numberText number ++ 0x3A :: rest) = true := by
  have digits : ∀ unit ∈ numberText number, isDigit unit = true := fun unit member => isDigit_of_mem_numberText member
  have present : (numberText number).isEmpty = false := by simpa using numberText_ne_nil number
  unfold isNumbered
  rw [List.takeWhile_append_of_pos digits, List.dropWhile_append_of_pos digits]
  have colon : isDigit 0x3A = false := by decide
  simp [colon, numberText_ne_nil]

/-! ## Numbered lines -/

theorem numberedLine_eq (line : JsString) : numberedLine number line = numberText number ++ 0x3A :: 0x20 :: line := by
  unfold numberedLine
  have colon : utf16 ": " = [0x3A, 0x20] := by decide +kernel
  rw [colon, List.append_assoc]
  rfl

theorem solid_numberedLine (noFeed : lineFeed ∉ line) : IsSolid (numberedLine number line) := by
  rw [numberedLine_eq]
  apply solid_numberText
  rw [List.mem_cons, List.mem_cons, not_or, not_or]
  exact ⟨by decide, by decide, noFeed⟩

theorem endsPlain_numberedLine (plain : EndsPlain line) : EndsPlain (numberedLine number line) := by
  rw [numberedLine_eq]
  unfold EndsPlain at plain ⊢
  cases line using List.reverseRecOn with
  | nil =>
    simp only [List.getLast?_append, List.getLast?_cons_cons, List.getLast?_singleton, Option.some_or]
    decide
  | append_singleton early last =>
    have same : numberText number ++ 0x3A :: 0x20 :: (early ++ [last]) =
        (numberText number ++ 0x3A :: 0x20 :: early) ++ [last] := by simp
    rw [same, List.getLast?_concat]
    rw [List.getLast?_concat] at plain
    exact plain

theorem trimEnd_numberedLine (line : JsString) :
    trimEnd (numberedLine number line) =
      if trimEnd line = [] then numberText number ++ [0x3A] else numberedLine number (trimEnd line) := by
  rw [numberedLine_eq, numberedLine_eq]
  unfold trimEnd
  split
  next blank =>
    have all : ∀ unit ∈ 0x20 :: line, isWhiteSpace unit = true := by
      intro unit member
      rcases List.mem_cons.mp member with rfl | rest
      · decide
      · exact List.rdropWhile_eq_nil_iff.mp blank unit rest
    have colon : (0x3A :: 0x20 :: line : JsString).rdropWhile isWhiteSpace = [0x3A] := by
      unfold List.rdropWhile
      have reversed : (0x3A :: 0x20 :: line : JsString).reverse = (0x20 :: line).reverse ++ [0x3A] := by simp
      rw [reversed, List.dropWhile_append_of_pos (fun unit member => all unit (List.mem_reverse.mp member))]
      decide
    rw [rdropWhile_append (by rw [colon]; exact List.cons_ne_nil _ _), colon]
  next notBlank =>
    have same : numberText number ++ 0x3A :: 0x20 :: line = (numberText number ++ [0x3A, 0x20]) ++ line := by simp
    rw [same, rdropWhile_append notBlank]
    simp

theorem isNumbered_numberedLine (line : JsString) : isNumbered (numberedLine number line) = true := by
  rw [numberedLine_eq]
  exact isNumbered_numberText number _

theorem isNumbered_trimEnd_numberedLine (line : JsString) :
    isNumbered (trimEnd (numberedLine number line)) = true := by
  rw [trimEnd_numberedLine]
  split
  · exact isNumbered_numberText number []
  · exact isNumbered_numberedLine number _

theorem numberedLines_take (lines : List JsString) (startLine count : Nat) :
    (numberedLines lines startLine).take count = numberedLines (lines.take count) startLine := by
  apply List.ext_getElem?
  intro index
  unfold numberedLines
  simp only [List.getElem?_take, List.getElem?_mapIdx]
  split <;> rfl

theorem mem_numberedLines {startLine : Nat} (member : line ∈ numberedLines lines startLine) :
    ∃ number, ∃ text ∈ lines, line = numberedLine number text := by
  obtain ⟨index, bound, rfl⟩ := List.mem_mapIdx.mp member
  exact ⟨startLine + index, lines[index], List.getElem_mem bound, rfl⟩

theorem solid_numberedLines (noFeed : ∀ line ∈ lines, lineFeed ∉ line) (startLine : Nat) :
    ∀ line ∈ numberedLines lines startLine, IsSolid line := by
  intro line member
  obtain ⟨number, text, isText, rfl⟩ := mem_numberedLines member
  exact solid_numberedLine number (noFeed text isText)

theorem endsPlain_trimEnd (line : JsString) : EndsPlain (trimEnd line) := by
  unfold EndsPlain
  intro last
  cases trimmed : trimEnd line with
  | nil =>
    rw [trimmed] at last
    cases last
  | cons first rest =>
    have present : line.rdropWhile isWhiteSpace ≠ [] := by
      rw [show line.rdropWhile isWhiteSpace = first :: rest from trimmed]
      exact List.cons_ne_nil first rest
    have notBlank := List.rdropWhile_last_not isWhiteSpace line present
    unfold trimEnd at last
    rw [List.getLast?_eq_getLast_of_ne_nil present, Option.some_inj] at last
    rw [last] at notBlank
    exact notBlank (by decide)

theorem endsPlain_trimmedLines (plain : ∀ line ∈ lines, EndsPlain line) :
    ∀ line ∈ trimmedLines lines, EndsPlain line := by
  cases lines using List.reverseRecOn with
  | nil => exact plain
  | append_singleton early last =>
    unfold trimmedLines
    rw [trimLast_concat]
    intro line member
    rcases List.mem_append.mp member with isEarly | isLast
    · exact plain line (List.mem_append_left _ isEarly)
    · rw [List.mem_singleton.mp isLast]
      exact endsPlain_trimEnd last

/-! ## Marks -/

theorem trimEnd_append_literal (early : JsString) {literal : JsString} (whole : trimEnd literal = literal)
    (present : literal ≠ []) : trimEnd (early ++ literal) = early ++ literal := by
  unfold trimEnd at whole ⊢
  rw [rdropWhile_append (by rw [whole]; exact present), whole]

theorem lineFeed_not_mem_numberText : lineFeed ∉ numberText number := fun within =>
  absurd (isDigit_of_mem_numberText within) (by decide)

/-- A line that stands in a text as it is, without a number. -/
structure IsMark (line : JsString) : Prop where
  solid : IsSolid line
  whole : trimEnd line = line
  unnumbered : isNumbered line = false

theorem IsMark.plain (mark : IsMark line) : EndsPlain line := by
  rw [← mark.whole]
  exact endsPlain_trimEnd line

theorem isMark_of_start {first : CodeUnit} (notBlank : isWhiteSpace first = false)
    (noDigit : isDigit first = false) (noFeed : lineFeed ∉ first :: rest) (whole : trimEnd (first :: rest) = first :: rest) :
    IsMark (first :: rest) := by
  refine ⟨⟨⟨first, rest, rfl, notBlank⟩, noFeed⟩, whole, ?_⟩
  unfold isNumbered
  rw [List.takeWhile_cons_of_neg (by simp [noDigit])]
  rfl

theorem isMark_endOfFileMark (lineCount : Nat) : IsMark (endOfFileMark lineCount) := by
  have parts : endOfFileMark lineCount = 0x28 :: (utf16 "end of file: " ++ numberText lineCount ++ utf16 " line" ++
      pluralEnd lineCount ++ utf16 ")") := by
    unfold endOfFileMark
    have opening : utf16 "(end of file: " = 0x28 :: utf16 "end of file: " := by decide +kernel
    rw [opening]
    rfl
  rw [parts]
  apply isMark_of_start
  · decide
  · decide
  · have start : lineFeed ∉ utf16 "end of file: " := by decide +kernel
    have middle : lineFeed ∉ utf16 " line" := by decide +kernel
    have stop : lineFeed ∉ utf16 ")" := by decide +kernel
    have plural : lineFeed ∉ pluralEnd lineCount := by
      unfold pluralEnd
      split
      · simp
      · decide +kernel
    have notOpening : lineFeed ≠ 0x28 := by decide
    simp [start, middle, stop, plural, notOpening, lineFeed_not_mem_numberText]
  · rw [← List.cons_append]
    apply trimEnd_append_literal
    · decide +kernel
    · decide +kernel

theorem isMark_warning (detection : TokenRepetitionDetection) : IsMark (buildToolOutputRepetitionWarning detection) := by
  have parts : buildToolOutputRepetitionWarning detection =
      0x53 :: (utf16 "iftKit stopped tool output early: recent tokens repeated every " ++
        numberText detection.periodTokens ++ utf16 " tokens across the last " ++ numberText detection.windowTokens ++
        utf16 " tokens after " ++ numberText detection.totalTokens ++ utf16 " tokens.") := by
    unfold buildToolOutputRepetitionWarning
    have opening : utf16 "SiftKit stopped tool output early: recent tokens repeated every " =
        0x53 :: utf16 "iftKit stopped tool output early: recent tokens repeated every " := by decide +kernel
    rw [opening]
    rfl
  rw [parts]
  apply isMark_of_start
  · decide
  · decide
  · have first : lineFeed ∉ utf16 "iftKit stopped tool output early: recent tokens repeated every " := by decide +kernel
    have second : lineFeed ∉ utf16 " tokens across the last " := by decide +kernel
    have third : lineFeed ∉ utf16 " tokens after " := by decide +kernel
    have fourth : lineFeed ∉ utf16 " tokens." := by decide +kernel
    have notOpening : lineFeed ≠ 0x53 := by decide
    simp [first, second, third, fourth, notOpening, lineFeed_not_mem_numberText]
  · rw [← List.cons_append]
    apply trimEnd_append_literal
    · decide +kernel
    · decide +kernel

theorem trimmedLines_concat (lines : List JsString) (last : JsString) :
    trimmedLines (lines ++ [last]) = lines ++ [trimEnd last] := trimLast_concat lines last

/-! ## What a read says -/

/-- The mark of the end of the file, where a plan reaches it. -/
def ReadPlan.marks (plan : ReadPlan) : List JsString :=
  if plan.effectiveEndLineExclusive = plan.totalEndLineExclusive then [endOfFileMark (plan.totalEndLineExclusive - 1)] else []

def ReadPlan.numbered (plan : ReadPlan) : List JsString := numberedLines plan.selectedLines plan.effectiveStartLine

/-- The lines of the output of a plan. -/
def ReadPlan.resultLines (plan : ReadPlan) : List JsString := trimmedLines plan.numbered ++ plan.marks

section

variable {plan : ReadPlan}

theorem marks_cases (plan : ReadPlan) : plan.marks = [] ∨ ∃ mark, IsMark mark ∧ plan.marks = [mark] := by
  unfold ReadPlan.marks
  split
  · exact .inr ⟨_, isMark_endOfFileMark _, rfl⟩
  · exact .inl rfl

theorem numbered_ne_nil (present : plan.selectedLines ≠ []) : plan.numbered ≠ [] := by
  simpa [ReadPlan.numbered, numberedLines] using present

theorem length_numbered (plan : ReadPlan) : plan.numbered.length = plan.selectedLines.length := by
  simp [ReadPlan.numbered, numberedLines]

theorem trimmedLines_ne_nil {lines : List JsString} (present : lines ≠ []) : trimmedLines lines ≠ [] := by
  intro absent
  have same : (trimmedLines lines).length = lines.length := length_trimLast lines
  rw [absent] at same
  exact present (List.length_eq_zero_iff.mp same.symm)

theorem resultLines_ne_nil (present : plan.selectedLines ≠ []) : plan.resultLines ≠ [] := by
  unfold ReadPlan.resultLines
  exact List.append_ne_nil_of_left_ne_nil (trimmedLines_ne_nil (numbered_ne_nil present)) _

theorem output_buildReadExecution (present : plan.selectedLines ≠ []) (noFeed : ∀ line ∈ plan.selectedLines, lineFeed ∉ line) :
    (buildReadExecution plan).output = joinLines plan.resultLines := by
  have solid := solid_numberedLines noFeed plan.effectiveStartLine
  unfold buildReadExecution ReadPlan.resultLines ReadPlan.marks formatNumberedTextBlock
  simp only [trim_joinLines solid]
  split
  · rw [joinLines_concat (trimmedLines_ne_nil (numbered_ne_nil present)), List.append_assoc]
    rfl
  · rw [List.append_nil]
    rfl

theorem solid_resultLines (noFeed : ∀ line ∈ plan.selectedLines, lineFeed ∉ line) :
    ∀ line ∈ plan.resultLines, IsSolid line := by
  intro line member
  unfold ReadPlan.resultLines at member
  rcases List.mem_append.mp member with isNumbered | isMark
  · exact solid_trimLast (solid_numberedLines noFeed plan.effectiveStartLine) line isNumbered
  · rcases marks_cases plan with none | ⟨mark, marks, only⟩
    · rw [none] at isMark
      cases isMark
    · rw [only, List.mem_singleton] at isMark
      rw [isMark]
      exact marks.solid

theorem plain_resultLines (plain : ∀ line ∈ plan.selectedLines, EndsPlain line) :
    ∀ line ∈ plan.resultLines, EndsPlain line := by
  intro line member
  unfold ReadPlan.resultLines at member
  rcases List.mem_append.mp member with isNumbered | isMark
  · apply endsPlain_trimmedLines _ line isNumbered
    intro other isOther
    obtain ⟨number, text, isText, rfl⟩ := mem_numberedLines isOther
    exact endsPlain_numberedLine number (plain text isText)
  · rcases marks_cases plan with none | ⟨mark, marks, only⟩
    · rw [none] at isMark
      cases isMark
    · rw [only, List.mem_singleton] at isMark
      rw [isMark]
      exact marks.plain

theorem trimmedLines_resultLines (plan : ReadPlan) : trimmedLines plan.resultLines = plan.resultLines := by
  unfold ReadPlan.resultLines
  rcases marks_cases plan with none | ⟨mark, marks, only⟩
  · rw [none, List.append_nil]
    exact trimLast_trimLast _
  · rw [only, trimmedLines_concat, marks.whole]

theorem promptText_output (present : plan.selectedLines ≠ []) (noFeed : ∀ line ∈ plan.selectedLines, lineFeed ∉ line)
    (plain : ∀ line ∈ plan.selectedLines, EndsPlain line) :
    promptText (buildReadExecution plan).output = applyToolOutputRepetitionGuard (joinLines plan.resultLines) := by
  have solid := solid_resultLines noFeed
  unfold promptText
  rw [output_buildReadExecution present noFeed, trim_joinLines solid, trimmedLines_resultLines,
    normalizeLineEnds_joinLines (fun line member => (solid line member).noSeparator) (plain_resultLines plain),
    trim_joinLines solid, trimmedLines_resultLines]

end

end SiftKit.RepoSearch
