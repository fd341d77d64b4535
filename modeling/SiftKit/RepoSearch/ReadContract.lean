import SiftKit.RepoSearch.ReadTexts

/-! # Lines that were shown

A read records a count of lines.  Where the result is cut at the end of a line, and nothing but lines is
counted, the recorded lines are the ones that stand in the result.
-/

namespace SiftKit.RepoSearch

open SiftKit.Json
open SiftKit.Json.Schema (isWhiteSpace trim)
open SiftKit.Lines SiftKit.Ranges SiftKit.Runs

/-! ## What is kept of a result -/

/-- The first lines, the last of them trimmed, stand in a text. -/
def Reveals (lines : List JsString) (count : Nat) (text : JsString) : Prop :=
  ∀ line ∈ trimmedLines (lines.take count), line ∈ splitLines text

theorem solid_truncationNotice (input : ToolOutputFitInput) (noFeed : lineFeed ∉ input.unit) (truncatedCount : Nat) :
    ∀ notice ∈ truncationNotice input truncatedCount, IsSolid notice := by
  unfold truncationNotice
  split
  · intro notice isNotice
    rw [List.mem_singleton.mp isNotice, List.append_assoc, List.append_assoc]
    apply solid_numberText
    have space : lineFeed ∉ utf16 " " := by decide +kernel
    have rest : lineFeed ∉ utf16 " truncated due to per-tool context limit." := by decide +kernel
    simp [space, rest, noFeed]
  · simp

variable {lines : List JsString}

theorem joinLines_ne_nil (present : lines ≠ []) (solid : ∀ line ∈ lines, IsSolid line) :
    joinLines lines ≠ [] := by
  cases lines with
  | nil => exact absurd rfl present
  | cons line rest =>
    intro isEmpty
    have nonEmpty := (solid line List.mem_cons_self).ne_nil
    cases rest with
    | nil => exact nonEmpty (by simpa [joinLines] using isEmpty)
    | cons next rest =>
      unfold joinLines at isEmpty
      rw [List.intercalate_cons_of_ne_nil (List.cons_ne_nil next rest)] at isEmpty
      simp at isEmpty

theorem reveals_buildCandidate (input : ToolOutputFitInput) (isHead : input.keep = .head) (noHeader : input.headerText = [])
    (byLines : input.separator = [lineFeed]) (noFeed : lineFeed ∉ input.unit)
    (solid : ∀ line ∈ input.segments, IsSolid line) (count : Nat) :
    Reveals input.segments count (buildCandidate input count) := by
  intro line member
  have solidTaken : ∀ line ∈ input.segments.take count, IsSolid line := fun other isTaken =>
    solid other (List.mem_of_mem_take isTaken)
  let trimmed := trimmedLines (input.segments.take count)
  have solidTrimmed : ∀ line ∈ trimmed, IsSolid line := solid_trimLast solidTaken
  have present : trimmed ≠ [] := List.ne_nil_of_mem member
  have body : partOf (joinWith [lineFeed] (input.segments.take count)) = [joinLines trimmed] := by
    unfold partOf joinWith
    have isTrimmed : trim ([lineFeed].intercalate (input.segments.take count)) = joinLines trimmed :=
      trim_joinLines solidTaken
    rw [isTrimmed, if_neg]
    simpa using joinLines_ne_nil present solidTrimmed
  have header : partOf input.headerText = [] := by
    rw [noHeader]
    rfl
  unfold buildCandidate
  simp only [isHead, header, List.nil_append, byLines, body]
  have notices := solid_truncationNotice input noFeed (input.segments.length - count)
  -- a notice is one more line
  unfold truncationNotice at notices ⊢
  split
  next omits =>
    rw [if_pos omits] at notices
    let notice := numberText (input.segments.length - count) ++ utf16 " " ++ input.unit ++
      utf16 " truncated due to per-tool context limit."
    have solidAll : ∀ line ∈ trimmed ++ [notice], IsSolid line := by
      intro other isOther
      rcases List.mem_append.mp isOther with isTrimmed | isNotice
      · exact solidTrimmed other isTrimmed
      · exact notices other isNotice
    have joined : joinWith [lineFeed] ([joinLines trimmed] ++ [notice]) = joinLines (trimmed ++ [notice]) := by
      rw [joinLines_concat present]
      simp [joinWith, List.intercalate_cons_cons]
    show line ∈ splitLines (trim (joinWith [lineFeed] ([joinLines trimmed] ++ [notice])))
    rw [joined, trim_joinLines solidAll, trimmedLines_concat]
    rw [splitLines_joinLines (List.append_ne_nil_of_left_ne_nil present _)]
    · exact List.mem_append_left _ member
    · have both := solid_trimLast solidAll
      rw [trimLast_concat] at both
      exact both
  next keepsAll =>
    rw [List.append_nil]
    show line ∈ splitLines (trim ([lineFeed].intercalate [joinLines trimmed]))
    rw [List.intercalate_singleton, trim_joinLines solidTrimmed]
    have again : trimmedLines trimmed = trimmed := trimLast_trimLast _
    rw [again, splitLines_joinLines present solidTrimmed]
    exact member

section

variable {plan : ReadPlan}

theorem reveals_of_resultLines {count : Nat} {text : JsString} (revealed : Reveals plan.resultLines count text) :
    Reveals plan.numbered (min plan.numbered.length count) text := by
  have taken : plan.numbered.take (min plan.numbered.length count) = plan.numbered.take count := by
    rcases Nat.le_total plan.numbered.length count with all | part
    · rw [Nat.min_eq_left all, List.take_length, List.take_of_length_le all]
    · rw [Nat.min_eq_right part]
  intro line member
  rw [taken] at member
  apply revealed
  unfold ReadPlan.resultLines
  have sameLength : (trimmedLines plan.numbered).length = plan.numbered.length := length_trimLast plan.numbered
  rcases Nat.lt_or_ge plan.numbered.length count with past | within
  · -- all the lines stand before the mark
    rw [List.take_of_length_le (Nat.le_of_lt past)] at member
    rw [List.take_append, List.take_of_length_le (by omega)]
    rcases marks_cases plan with none | ⟨mark, _, only⟩
    · rw [none, List.take_nil, List.append_nil]
      have again : trimmedLines (trimmedLines plan.numbered) = trimmedLines plan.numbered := trimLast_trimLast _
      rw [again]
      exact member
    · have one : [mark].take (count - (trimmedLines plan.numbered).length) = [mark] :=
        List.take_of_length_le (by simp; omega)
      rw [only, one, trimmedLines_concat]
      exact List.mem_append_left _ member
  · rw [List.take_append_of_le_length (by omega)]
    have same : trimmedLines ((trimmedLines plan.numbered).take count) = trimmedLines (plan.numbered.take count) :=
      trimLast_take _ _
    rw [same]
    exact member

/-- The line after which so many lines end has no blanks at its end. -/
def EndsWhole (lines : List JsString) (count : Nat) : Prop :=
  ∀ line ∈ (lines.take count).getLast?, trimEnd line = line

/-- Whether a read counts the lines that it shows: the lines end plain, and the result ends after a line that ends in no
blank.  Where the guard cuts the text, the text fits and the cut is after a line, or nothing is kept. -/
def CountsWhatItShows (surroundings : ReadSurroundings) (plan : ReadPlan) : Prop :=
  let text := joinLines plan.resultLines
  let maxResultTokens := min surroundings.perToolCapTokens surroundings.remainingTokenAllowance
  let input := fitInput (applyToolOutputRepetitionGuard text) maxResultTokens .head
  let fits := surroundings.countTokens (applyToolOutputRepetitionGuard text) ≤ maxResultTokens
  (∀ line ∈ plan.selectedLines, EndsPlain line) ∧
    match detectRecentTokenRepetition text with
    | none =>
      (fits → EndsWhole plan.selectedLines plan.selectedLines.length) ∧
        (¬ fits → ∀ count, MayKeep surroundings.countTokens input count → EndsWhole plan.selectedLines count)
    | some detection =>
      (fits → ∃ count,
        detection.truncatedText =
          trimEnd (formatNumberedTextBlock (plan.selectedLines.take count) plan.effectiveStartLine) ∧
        EndsWhole plan.selectedLines count) ∧
        (¬ fits → ∀ count, MayKeep surroundings.countTokens input count → count = 0)

/-- How many lines a read records. -/
def returnedLineCount (surroundings : ReadSurroundings) (execution : ReadExecution) : Nat :=
  let fitted := fitToBudget surroundings.countTokens (promptText execution.output)
    (min surroundings.perToolCapTokens surroundings.remainingTokenAllowance) .head
  min execution.lineReadLinesTotal
    (fitted.fittedReturnedSegmentCount.getD ((splitLineEnds fitted.resultText).countP isNumbered))

theorem fitToolResult_eq (surroundings : ReadSurroundings) (execution : ReadExecution) (states : ReadStates) :
    (fitToolResult surroundings execution states).1.resultText =
        (fitToBudget surroundings.countTokens (promptText execution.output)
          (min surroundings.perToolCapTokens surroundings.remainingTokenAllowance) .head).resultText ∧
      (fitToolResult surroundings execution states).2 =
        if 0 < returnedLineCount surroundings execution then
          recordNativeRead states execution.pathKey
            ⟨execution.startLine, execution.startLine + returnedLineCount surroundings execution⟩
        else states := by
  unfold fitToolResult returnedLineCount
  simp only
  split
  next records =>
    rw [if_pos records.2]
    exact ⟨rfl, rfl⟩
  next nothing =>
    rw [if_neg]
    · exact ⟨rfl, rfl⟩
    · intro positive
      exact nothing ⟨by omega, positive⟩

section

variable {surroundings : ReadSurroundings}

theorem isNumbered_of_mem_trimmedLines {startLine : Nat} {line : JsString}
    (member : line ∈ trimmedLines (numberedLines lines startLine)) : isNumbered line = true := by
  cases isLines : numberedLines lines startLine using List.reverseRecOn with
  | nil =>
    rw [isLines] at member
    cases member
  | append_singleton early last =>
    have ofLines : ∀ other ∈ early ++ [last], ∃ number, ∃ text ∈ lines, other = numberedLine number text := by
      intro other isOther
      rw [← isLines] at isOther
      exact mem_numberedLines isOther
    rw [isLines, trimmedLines_concat] at member
    rcases List.mem_append.mp member with isEarly | isLast
    · obtain ⟨number, text, _, rfl⟩ := ofLines line (List.mem_append_left _ isEarly)
      exact isNumbered_numberedLine number text
    · obtain ⟨number, text, _, rfl⟩ := ofLines last (by simp)
      rw [List.mem_singleton.mp isLast]
      exact isNumbered_trimEnd_numberedLine number text

/-- A silent guard: what is counted is shown. -/
theorem reveals_of_silent (present : plan.selectedLines ≠ []) (noFeed : ∀ line ∈ plan.selectedLines, lineFeed ∉ line)
    (plain : ∀ line ∈ plan.selectedLines, EndsPlain line) {maxResultTokens : Nat}
    (ends : surroundings.countTokens (joinLines plan.resultLines) ≤ maxResultTokens →
      EndsWhole plan.selectedLines plan.selectedLines.length)
    (endsEach : ¬ surroundings.countTokens (joinLines plan.resultLines) ≤ maxResultTokens →
      ∀ count, MayKeep surroundings.countTokens (fitInput (joinLines plan.resultLines) maxResultTokens .head) count →
        EndsWhole plan.selectedLines count) :
    let fitted := fitToBudget surroundings.countTokens (joinLines plan.resultLines) maxResultTokens .head
    let count := min plan.selectedLines.length
      (fitted.fittedReturnedSegmentCount.getD ((splitLineEnds fitted.resultText).countP isNumbered))
    Reveals plan.numbered count fitted.resultText ∧ EndsWhole plan.selectedLines count := by
  have solid := solid_resultLines noFeed
  have split := splitLineEnds_joinLines (resultLines_ne_nil present) solid (plain_resultLines plain)
  intro fitted count
  by_cases fits : surroundings.countTokens (joinLines plan.resultLines) ≤ maxResultTokens
  · have isFitted : fitted = { resultText := joinLines plan.resultLines, fittedReturnedSegmentCount := none } := by
      simp only [fitted, fitToBudget]
      rw [if_neg (not_lt.mpr fits)]
    have counted : count = plan.selectedLines.length := by
      have numbers : plan.resultLines.countP isNumbered = plan.selectedLines.length := by
        have all : (trimmedLines plan.numbered).countP isNumbered = (trimmedLines plan.numbered).length :=
          List.countP_eq_length.mpr fun line member => isNumbered_of_mem_trimmedLines member
        unfold ReadPlan.resultLines
        rw [List.countP_append, all]
        have sameLength : (trimmedLines plan.numbered).length = plan.selectedLines.length := by
          rw [← length_numbered]
          exact length_trimLast _
        rcases marks_cases plan with none | ⟨mark, isMark, only⟩
        · rw [none, sameLength]
          rfl
        · rw [only, sameLength]
          simp [isMark.unnumbered]
      simp only [count, isFitted, Option.getD_none, split, numbers, Nat.min_self]
    rw [counted]
    refine ⟨?_, ends fits⟩
    intro line member
    rw [List.take_of_length_le (le_of_eq (length_numbered plan))] at member
    rw [isFitted]
    show line ∈ splitLines (joinLines plan.resultLines)
    rw [splitLines_joinLines (resultLines_ne_nil present) solid]
    exact List.mem_append_left _ member
  · let input := fitInput (joinLines plan.resultLines) maxResultTokens .head
    have segments : input.segments = plan.resultLines := by
      show (splitLineEnds (joinLines plan.resultLines)).filter _ = _
      rw [split, List.filter_eq_self]
      intro line member
      simpa using (solid line member).ne_nil
    have isFitted : fitted = { resultText := (fitSegments surroundings.countTokens input).visibleText
                               fittedReturnedSegmentCount := some (fitSegments surroundings.countTokens input).returnedLineCount } := by
      simp only [fitted, fitToBudget]
      rw [if_pos (not_le.mp fits)]
    obtain ⟨mayKeep, visible, _⟩ := @fitSegments_spec surroundings.countTokens input
      (by rw [segments]; exact resultLines_ne_nil present)
    have unitFeed : lineFeed ∉ input.unit := by
      show lineFeed ∉ utf16 "lines"
      decide +kernel
    have revealed := reveals_buildCandidate input rfl rfl rfl unitFeed (by rw [segments]; exact solid)
      (fitSegments surroundings.countTokens input).returnedLineCount
    rw [segments] at revealed
    have numberedRevealed := reveals_of_resultLines revealed
    rw [length_numbered] at numberedRevealed
    have isCount : count = min plan.selectedLines.length (fitSegments surroundings.countTokens input).returnedLineCount := by
      simp only [count, isFitted, Option.getD_some]
    rw [isCount, isFitted]
    refine ⟨?_, ?_⟩
    · show Reveals _ _ (fitSegments surroundings.countTokens input).visibleText
      rw [visible]
      exact numberedRevealed
    · have whole := endsEach fits _ mayKeep
      unfold EndsWhole at whole ⊢
      rcases Nat.le_total plan.selectedLines.length (fitSegments surroundings.countTokens input).returnedLineCount with all | part
      · rw [List.take_of_length_le all] at whole
        rw [Nat.min_eq_left all, List.take_length]
        exact whole
      · rw [Nat.min_eq_right part]
        exact whole

theorem reveals_of_cut (noFeed : ∀ line ∈ plan.selectedLines, lineFeed ∉ line)
    (plain : ∀ line ∈ plan.selectedLines, EndsPlain line) {detection : TokenRepetitionDetection}
    (detected : detectRecentTokenRepetition (joinLines plan.resultLines) = some detection) {kept : Nat}
    (cut : detection.truncatedText =
      trimEnd (formatNumberedTextBlock (plan.selectedLines.take kept) plan.effectiveStartLine)) :
    let resultText := applyToolOutputRepetitionGuard (joinLines plan.resultLines)
    (splitLineEnds resultText).countP isNumbered = (plan.selectedLines.take kept).length ∧
      Reveals plan.numbered (plan.selectedLines.take kept).length resultText := by
  intro resultText
  let numbered := plan.numbered.take kept
  have isNumbered' : numbered = numberedLines (plan.selectedLines.take kept) plan.effectiveStartLine := numberedLines_take _ _ _
  have sameLength : numbered.length = (plan.selectedLines.take kept).length := by
    rw [isNumbered']
    simp [numberedLines]
  have solid : ∀ line ∈ numbered, IsSolid line := fun line member =>
    solid_numberedLines noFeed plan.effectiveStartLine line (List.mem_of_mem_take member)
  have solidTrimmed : ∀ line ∈ trimmedLines numbered, IsSolid line := solid_trimLast solid
  have warning := isMark_warning detection
  have truncated : detection.truncatedText = joinLines (trimmedLines numbered) := by
    rw [cut, formatNumberedTextBlock, ← isNumbered', trimEnd_joinLines solid]
  have taken : plan.numbered.take (plan.selectedLines.take kept).length = numbered := by
    rw [← sameLength]
    simp only [numbered, List.length_take, ← List.take_take, List.take_length]
  -- the result is the warning and the lines that are left
  have isResult : resultText = joinLines (buildToolOutputRepetitionWarning detection :: trimmedLines numbered) := by
    simp only [resultText, applyToolOutputRepetitionGuard, detected, truncated]
    have warned : trim (buildToolOutputRepetitionWarning detection) = buildToolOutputRepetitionWarning detection := by
      have single := @trim_joinLines [buildToolOutputRepetitionWarning detection] (by simpa using warning.solid)
      have whole : trimmedLines [buildToolOutputRepetitionWarning detection] = [buildToolOutputRepetitionWarning detection] :=
        congrArg (fun line => [line]) warning.whole
      rw [whole] at single
      simpa [joinLines] using single
    have warnedPresent : (buildToolOutputRepetitionWarning detection).isEmpty = false := by
      simpa using warning.solid.ne_nil
    cases left : trimmedLines numbered with
    | nil =>
      have blank : trim (joinLines []) = [] := rfl
      rw [List.filter_cons_of_pos (by rw [warned, warnedPresent]; rfl), List.filter_cons_of_neg (by simp [blank])]
      simpa [joinLines] using warned
    | cons first rest =>
      rw [← left]
      have present : trimmedLines numbered ≠ [] := by
        rw [left]
        exact List.cons_ne_nil first rest
      have again : trimmedLines (trimmedLines numbered) = trimmedLines numbered := trimLast_trimLast _
      have leftPresent : (trim (joinLines (trimmedLines numbered))).isEmpty = false := by
        rw [trim_joinLines solidTrimmed, again]
        simpa using joinLines_ne_nil present solidTrimmed
      have solidAll : ∀ line ∈ [buildToolOutputRepetitionWarning detection] ++ trimmedLines numbered, IsSolid line := by
        intro line member
        rcases List.mem_append.mp member with isWarning | isLeft
        · rw [List.mem_singleton.mp isWarning]
          exact warning.solid
        · exact solidTrimmed line isLeft
      have joined : joinLines [buildToolOutputRepetitionWarning detection, joinLines (trimmedLines numbered)] =
          joinLines ([buildToolOutputRepetitionWarning detection] ++ trimmedLines numbered) := by
        unfold joinLines
        rw [intercalate_append (List.cons_ne_nil _ _) present, List.intercalate_cons_cons, List.intercalate_singleton,
          List.intercalate_singleton]
        simp
      have allTrimmed : trimmedLines ([buildToolOutputRepetitionWarning detection] ++ trimmedLines numbered) =
          [buildToolOutputRepetitionWarning detection] ++ trimmedLines numbered := by
        rw [left]
        show _ :: trimmedLines (first :: rest) = _
        rw [← left, again, left]
        rfl
      rw [List.filter_cons_of_pos (by rw [warned, warnedPresent]; rfl),
        List.filter_cons_of_pos (by rw [leftPresent]; rfl), List.filter_nil, joined, trim_joinLines solidAll, allTrimmed]
      rfl
  have solidResult : ∀ line ∈ buildToolOutputRepetitionWarning detection :: trimmedLines numbered, IsSolid line := by
    intro line member
    rcases List.mem_cons.mp member with rfl | isLeft
    · exact warning.solid
    · exact solidTrimmed line isLeft
  have plainResult : ∀ line ∈ buildToolOutputRepetitionWarning detection :: trimmedLines numbered, EndsPlain line := by
    intro line member
    rcases List.mem_cons.mp member with rfl | isLeft
    · exact warning.plain
    · apply endsPlain_trimmedLines _ line isLeft
      intro other isOther
      obtain ⟨number, text, isText, rfl⟩ := mem_numberedLines (List.mem_of_mem_take isOther)
      exact endsPlain_numberedLine number (plain text isText)
  constructor
  · rw [isResult, splitLineEnds_joinLines (List.cons_ne_nil _ _) solidResult plainResult,
      List.countP_cons_of_neg (by simp [warning.unnumbered])]
    have all : (trimmedLines numbered).countP isNumbered = (trimmedLines numbered).length := by
      rw [isNumbered']
      exact List.countP_eq_length.mpr fun line member => isNumbered_of_mem_trimmedLines member
    have sameTrimmed : (trimmedLines numbered).length = numbered.length := length_trimLast _
    rw [all, sameTrimmed, sameLength]
  · intro line member
    rw [taken] at member
    rw [isResult, splitLines_joinLines (List.cons_ne_nil _ _) solidResult]
    exact List.mem_cons_of_mem _ member

end

/-! ## What is shown -/

/-- A line of a result that shows the whole of a line of a file, with its number. -/
def IsShownAs (number : Nat) (text line : JsString) : Prop :=
  line = numberedLine number text ∨ text = [] ∧ line = numberText number ++ [0x3A]

/-- A result shows a line of its file. -/
def ShownRead.Shows (result : ShownRead) (number : Nat) : Prop :=
  ∃ text, 1 ≤ number ∧ result.lines[number - 1]? = some text ∧
    ∃ line ∈ splitLines result.resultText, IsShownAs number text line

theorem shown_of_reveals {count : Nat} {text : JsString} (revealed : Reveals plan.numbered count text)
    (ends : EndsWhole plan.selectedLines count) {index : Nat} (inside : index < count) {selected : JsString}
    (isSelected : plan.selectedLines[index]? = some selected) :
    ∃ line ∈ splitLines text, IsShownAs (plan.effectiveStartLine + index) selected line := by
  have bound := (List.getElem?_eq_some_iff.mp isSelected).1
  have isNumbered : (plan.numbered.take count)[index]? = some (numberedLine (plan.effectiveStartLine + index) selected) := by
    rw [List.getElem?_take, if_pos inside, ReadPlan.numbered, numberedLines, List.getElem?_mapIdx, isSelected]
    rfl
  cases taken : plan.numbered.take count using List.reverseRecOn with
  | nil =>
    rw [taken] at isNumbered
    cases isNumbered
  | append_singleton early last =>
    have revealedLines : ∀ line ∈ early ++ [trimEnd last], line ∈ splitLines text := by
      have whole : trimmedLines (plan.numbered.take count) = early ++ [trimEnd last] := by rw [taken, trimmedLines_concat]
      intro line member
      exact revealed line (by rw [whole]; exact member)
    rw [taken] at isNumbered
    rcases Nat.lt_or_ge index early.length with before | isLast
    · rw [List.getElem?_append_left before] at isNumbered
      exact ⟨_, revealedLines _ (List.mem_append_left _ (List.mem_of_getElem? isNumbered)), .inl rfl⟩
    · -- the last line has its end trimmed
      have atEnd : index = early.length := by
        have within := (List.getElem?_eq_some_iff.mp isNumbered).1
        rw [List.length_append, List.length_singleton] at within
        omega
      rw [atEnd, List.getElem?_concat_length, Option.some_inj] at isNumbered
      have lastSelected : (plan.selectedLines.take count).getLast? = some selected := by
        have sameLength : (plan.selectedLines.take count).length = index + 1 := by
          have lengths := congrArg List.length taken
          rw [List.length_append, List.length_singleton, List.length_take, length_numbered, ← List.length_take] at lengths
          omega
        rw [List.getLast?_eq_getElem?, sameLength, Nat.add_sub_cancel, List.getElem?_take, if_pos inside]
        exact isSelected
      have whole : trimEnd selected = selected := ends selected lastSelected
      refine ⟨trimEnd last, revealedLines _ (by simp), ?_⟩
      rw [isNumbered, ← atEnd, trimEnd_numberedLine, whole]
      split
      next empty => exact .inr ⟨empty, rfl⟩
      · exact .inl rfl

theorem shows_of_countsWhatItShows {surroundings : ReadSurroundings} (present : plan.selectedLines ≠ [])
    (positive : 1 ≤ plan.effectiveStartLine) (noFeed : ∀ line ∈ plan.lines, lineFeed ∉ line)
    (counts : CountsWhatItShows surroundings plan) {states : ReadStates} {number : Nat}
    (fromStart : plan.effectiveStartLine ≤ number)
    (recorded : number < plan.effectiveStartLine + returnedLineCount surroundings (buildReadExecution plan)) :
    (⟨plan.pathKey, plan.lines, (fitToolResult surroundings (buildReadExecution plan) states).1.resultText⟩ :
      ShownRead).Shows number := by
  have selectedFeed : ∀ line ∈ plan.selectedLines, lineFeed ∉ line := fun line member =>
    noFeed line (List.mem_of_mem_take (List.mem_of_mem_drop member))
  obtain ⟨plain, cuts⟩ := counts
  have isText := promptText_output present selectedFeed plain
  have revealed : Reveals plan.numbered (returnedLineCount surroundings (buildReadExecution plan))
      (fitToolResult surroundings (buildReadExecution plan) states).1.resultText ∧
      EndsWhole plan.selectedLines (returnedLineCount surroundings (buildReadExecution plan)) := by
    rw [(fitToolResult_eq surroundings (buildReadExecution plan) states).1]
    unfold returnedLineCount
    simp only [isText]
    cases detected : detectRecentTokenRepetition (joinLines plan.resultLines) with
    | none =>
      have silent : applyToolOutputRepetitionGuard (joinLines plan.resultLines) = joinLines plan.resultLines := by
        simp [applyToolOutputRepetitionGuard, detected]
      simp only [detected, silent] at cuts ⊢
      exact reveals_of_silent present selectedFeed plain cuts.1 cuts.2
    | some detection =>
      simp only [detected] at cuts
      by_cases fits : surroundings.countTokens (applyToolOutputRepetitionGuard (joinLines plan.resultLines)) ≤
          min surroundings.perToolCapTokens surroundings.remainingTokenAllowance
      · obtain ⟨kept, cut, ends⟩ := cuts.1 fits
        obtain ⟨counted, revealed⟩ := reveals_of_cut selectedFeed plain detected cut
        unfold fitToBudget
        rw [if_neg (not_lt.mpr fits)]
        simp only [Option.getD_none, counted]
        have total : (buildReadExecution plan).lineReadLinesTotal = plan.selectedLines.length := rfl
        have smaller : min (buildReadExecution plan).lineReadLinesTotal (plan.selectedLines.take kept).length =
            (plan.selectedLines.take kept).length := by
          rw [total, List.length_take]
          omega
        rw [smaller]
        refine ⟨revealed, ?_⟩
        unfold EndsWhole at ends ⊢
        have same : plan.selectedLines.take (plan.selectedLines.take kept).length = plan.selectedLines.take kept := by
          rw [List.length_take, ← List.take_take, List.take_length]
        rw [same]
        exact ends
      · -- nothing of the cut text is kept
        let input := fitInput (applyToolOutputRepetitionGuard (joinLines plan.resultLines))
          (min surroundings.perToolCapTokens surroundings.remainingTokenAllowance) .head
        have nothing : (fitSegments surroundings.countTokens input).returnedLineCount = 0 := by
          by_cases segments : input.segments = []
          · unfold fitSegments
            simp [segments]
          · exact cuts.2 fits _ (fitSegments_spec segments).1
        unfold fitToBudget
        rw [if_pos (not_le.mp fits)]
        simp only [Option.getD_some]
        rw [nothing, Nat.min_zero]
        constructor
        · intro line member
          cases member
        · intro line member
          cases member
  obtain ⟨reveals, ends⟩ := revealed
  have inside : number - plan.effectiveStartLine < returnedLineCount surroundings (buildReadExecution plan) := by omega
  have bound : number - plan.effectiveStartLine < plan.selectedLines.length :=
    lt_of_lt_of_le inside (Nat.min_le_left _ _)
  have isSelected := List.getElem?_eq_getElem bound
  obtain ⟨line, isLine, shownAs⟩ := shown_of_reveals reveals ends inside isSelected
  have sameNumber : plan.effectiveStartLine + (number - plan.effectiveStartLine) = number := by omega
  rw [sameNumber] at shownAs
  refine ⟨plan.selectedLines[number - plan.effectiveStartLine], by omega, ?_, line, isLine, shownAs⟩
  -- the selected lines are those of the file
  unfold ReadPlan.selectedLines at isSelected
  rw [List.getElem?_drop] at isSelected
  have sameIndex : plan.effectiveStartLine - 1 + (number - plan.effectiveStartLine) = number - 1 := by omega
  rw [sameIndex, List.getElem?_take] at isSelected
  split at isSelected
  · exact isSelected
  · cases isSelected

end

/-! ## Recorded lines -/

/-- A line that is marked as returned. -/
def IsReturned (states : ReadStates) (pathKey : JsString) (line : Nat) : Prop :=
  ∃ state, states.get? pathKey = some state ∧ Covers state.mergedReturnedRanges line

variable {line : Nat} {states : ReadStates}

theorem normalizeRange_contains {range : ReadRange} : (normalizeRange range).Contains line ↔ range.Contains line := by
  unfold normalizeRange Range.Contains
  simp only
  omega

theorem sorted_orderBy (ranges : List ReadRange) :
    (Tables.orderBy isSortedBefore ranges).Pairwise fun left right => left.start ≤ right.start := by
  have : IsTrans ReadRange fun left right => isSortedBefore left right = true := by
    constructor
    intro first second third
    simp only [isSortedBefore, decide_eq_true_eq]
    omega
  have : Std.Total fun left right : ReadRange => isSortedBefore left right = true := by
    constructor
    intro first second
    simp only [isSortedBefore, decide_eq_true_eq]
    omega
  apply (List.pairwise_insertionSort (fun left right => isSortedBefore left right = true) ranges).imp
  intro left right
  simp only [isSortedBefore, decide_eq_true_eq]
  omega

theorem covers_mergeRange {ranges : List ReadRange} {next : ReadRange} :
    Covers (mergeRange ranges next) line ↔ Covers ranges line ∨ next.Contains line := by
  unfold mergeRange
  split
  next empty =>
    have nothing : ¬ next.Contains line := by
      unfold Range.Contains
      omega
    simp [nothing]
  · rw [covers_mergeSorted (sorted_orderBy _), Covers.perm (Tables.perm_orderBy _ _), covers_filter]
    unfold Covers
    simp only [List.mem_append, List.mem_map, List.mem_singleton]
    constructor
    · rintro ⟨range, ⟨recorded, isRecorded, rfl⟩ | rfl, within⟩
      · exact .inl ⟨recorded, isRecorded, normalizeRange_contains.mp within⟩
      · exact .inr (normalizeRange_contains.mp within)
    · rintro (⟨recorded, isRecorded, within⟩ | within)
      · exact ⟨_, .inl ⟨recorded, isRecorded, rfl⟩, normalizeRange_contains.mpr within⟩
      · exact ⟨_, .inr rfl, normalizeRange_contains.mpr within⟩

/-- Looking a state up leaves the marked lines as they are. -/
theorem getOrCreateFileReadState_spec (states : ReadStates) (pathKey : JsString) :
    (∀ line, Covers (getOrCreateFileReadState states pathKey).1.mergedReturnedRanges line ↔ IsReturned states pathKey line) ∧
      (getOrCreateFileReadState states pathKey).2.get? pathKey = some (getOrCreateFileReadState states pathKey).1 ∧
      ∀ key line, IsReturned (getOrCreateFileReadState states pathKey).2 key line ↔ IsReturned states key line := by
  unfold getOrCreateFileReadState
  cases found : states.get? pathKey with
  | some state =>
    refine ⟨fun line => ?_, found, fun key line => Iff.rfl⟩
    unfold IsReturned
    simp [found]
  | none =>
    refine ⟨fun line => ?_, by simp, fun key line => ?_⟩
    · unfold IsReturned
      simp [found, FileReadState.empty, Covers]
    · unfold IsReturned
      rw [OrderedMap.get?_set]
      split
      next same =>
        rw [same, found]
        simp [FileReadState.empty, Covers]
      · rfl

theorem isReturned_recordNativeRead {pathKey key : JsString} {range : ReadRange} :
    IsReturned (recordNativeRead states pathKey range) key line ↔
      IsReturned states key line ∨ key = pathKey ∧ range.Contains line := by
  obtain ⟨covered, _, same⟩ := getOrCreateFileReadState_spec states pathKey
  unfold recordNativeRead
  rw [← same key line]
  unfold IsReturned
  simp only [OrderedMap.get?_set]
  split
  next isKey =>
    rw [isKey]
    simp only [Option.some.injEq, exists_eq_left', covers_mergeRange, true_and]
    apply or_congr_left
    rw [covered]
    exact (same pathKey line).symm
  next isOther => simp [isOther]

theorem isReturned_invalidatePath {pathKey key : JsString} :
    IsReturned (invalidatePath states pathKey) key line ↔ IsReturned states key line ∧ key ≠ pathKey := by
  unfold IsReturned invalidatePath
  rw [OrderedMap.get?_update]
  split
  next isKey =>
    rw [isKey]
    simp only [Option.map_eq_some_iff, ne_eq, not_true_eq_false, and_false, iff_false]
    rintro ⟨_, ⟨state, _, rfl⟩, covered⟩
    exact covers_nil line covered
  next isOther => simp [isOther]

theorem not_isReturned_invalidateAll {key : JsString} : ¬ IsReturned (invalidateAll states) key line := by
  rintro ⟨state, found, covered⟩
  obtain ⟨entry, _, isEntry⟩ := List.mem_map.mp (OrderedMap.get?_eq_some.mp found)
  cases isEntry
  exact covers_nil line covered

/-! ## Plans -/

section

variable {buildReadPathKey : JsString → JsString}

theorem lineFeed_not_mem_splitSourceLines {text line : JsString} (member : line ∈ splitSourceLines text) :
    lineFeed ∉ line := by
  unfold splitSourceLines at member
  simp only at member
  split at member
  · exact lineFeed_not_mem_splitLines (List.dropLast_subset _ member)
  · exact lineFeed_not_mem_splitLines member

theorem readSourceLines_eq_ok {surroundings : ReadSurroundings} {path displayPath : JsString}
    (isRead : readSourceLines surroundings path = .ok (displayPath, lines)) : ∀ line ∈ lines, lineFeed ∉ line := by
  unfold readSourceLines at isRead
  repeat' split at isRead
  all_goals cases isRead
  exact fun line member => lineFeed_not_mem_splitSourceLines member

structure PlanOf (states : ReadStates) (plan : ReadPlan) : Prop where
  positive : plan.hasUnread = true → 1 ≤ plan.effectiveStartLine
  noFeed : ∀ line ∈ plan.lines, lineFeed ∉ line
  passed : ∀ line, plan.requestedStartLine ≤ line → line < plan.effectiveStartLine → IsReturned states plan.pathKey line
  exhausted : plan.hasUnread = false →
    ∀ line, plan.requestedStartLine ≤ line → line ≤ plan.requestedEndLine → IsReturned states plan.pathKey line
  selects : plan.hasUnread = true → plan.selectedLines ≠ []

/-- Where the lines end that were asked for. -/
def requestedEnd (offset : Nat) (limit : Option Nat) (lineCount : Nat) : Nat :=
  match limit with
  | none => lineCount + 1
  | some limit => max (offset + 1) (min (offset + limit) (lineCount + 1))

theorem planLines_spec {states : ReadStates} {commandPath displayPath : JsString} {offset : Nat} {limit : Option Nat}
    {expandReads : Bool} {returnedRanges : List ReadRange} (positive : 1 ≤ offset)
    (inside : offset ≤ lines.length) (noFeed : ∀ line ∈ lines, lineFeed ∉ line)
    (covered : ∀ line, Covers returnedRanges line ↔ IsReturned states (buildReadPathKey displayPath) line) :
    PlanOf states (planLines buildReadPathKey commandPath displayPath offset limit expandReads returnedRanges lines) := by
  let requestedEndExclusive := requestedEnd offset limit lines.length
  have requestedEnd : requestedEndExclusive ≤ lines.length + 1 ∧ 1 ≤ requestedEndExclusive := by
    simp only [requestedEndExclusive, requestedEnd]
    split
    · omega
    · omega
  let totalEnd := if expandReads && !returnedRanges.isEmpty then lines.length + 1 else requestedEndExclusive
  have total : requestedEndExclusive ≤ totalEnd ∧ totalEnd ≤ lines.length + 1 := by
    simp only [totalEnd]
    split
    · omega
    · omega
  obtain ⟨passed, exhausted, unread⟩ := @findContiguousUnreadRange_spec offset totalEnd returnedRanges positive
  refine ⟨?_, noFeed, ?_, ?_, ?_⟩
  · intro isUnread
    exact le_trans positive (unread isUnread).1
  · intro line fromStart before
    exact (covered line).mp (passed line fromStart before)
  · intro none line fromStart toEnd
    apply (covered line).mp
    apply exhausted none line fromStart
    have within : line ≤ requestedEndExclusive - 1 := toEnd
    omega
  · intro isUnread
    obtain ⟨_, before, bounded⟩ := unread isUnread
    have length : ((planLines buildReadPathKey commandPath displayPath offset limit expandReads returnedRanges
        lines).selectedLines).length ≠ 0 := by
      show (((lines.take ((findContiguousUnreadRange offset totalEnd returnedRanges).stop - 1)).drop
        ((findContiguousUnreadRange offset totalEnd returnedRanges).start - 1)).length) ≠ 0
      rw [List.length_drop, List.length_take]
      omega
    intro absent
    rw [absent] at length
    exact length rfl

theorem planRead_spec (surroundings : ReadSurroundings) (args : ReadToolArgs) (states : ReadStates) :
    (∀ key line, IsReturned (planRead buildReadPathKey surroundings args states).2 key line ↔ IsReturned states key line) ∧
      ∀ plan, (planRead buildReadPathKey surroundings args states).1 = .ok plan → PlanOf states plan := by
  unfold planRead
  split
  · exact ⟨fun _ _ => Iff.rfl, fun _ planned => nomatch planned⟩
  · exact ⟨fun _ _ => Iff.rfl, fun _ planned => nomatch planned⟩
  next offset limit isOffset isLimit =>
    have positive : 1 ≤ offset := by
      unfold resolvePositiveInteger at isOffset
      split at isOffset
      · cases isOffset
        exact le_refl 1
      · split at isOffset
        next isPositive =>
          cases isOffset
          exact isPositive
        · cases isOffset
    split
    · exact ⟨fun _ _ => Iff.rfl, fun _ planned => nomatch planned⟩
    next displayPath lines isRead =>
      split
      · exact ⟨fun _ _ => Iff.rfl, fun _ planned => nomatch planned⟩
      next inside =>
        obtain ⟨covered, _, same⟩ := getOrCreateFileReadState_spec states (buildReadPathKey displayPath)
        refine ⟨same, ?_⟩
        intro plan planned
        cases planned
        exact planLines_spec positive (not_lt.mp inside) (readSourceLines_eq_ok isRead) covered

end

/-! ## Runs -/

/-- A line that a result of a read has shown since the last invalidation of its path. -/
def ReadWindowState.HasShown (state : ReadWindowState) (pathKey : JsString) (line : Nat) : Prop :=
  ∃ result ∈ state.shown, result.pathKey = pathKey ∧ result.Shows line

section

variable (buildReadPathKey : JsString → JsString)

/-- Lines are marked, and skipped by plans, only when they were shown. -/
structure ReadsAreShown (state : ReadWindowState) : Prop where
  returned : ∀ pathKey line, IsReturned state.states pathKey line → state.HasShown pathKey line
  passed : ∀ surroundings args plan, (planRead buildReadPathKey surroundings args state.states).1 = .ok plan →
    ∀ line, plan.requestedStartLine ≤ line → line < plan.effectiveStartLine → state.HasShown plan.pathKey line
  exhausted : ∀ surroundings args plan, (planRead buildReadPathKey surroundings args state.states).1 = .ok plan →
    plan.hasUnread = false → ∀ line, plan.requestedStartLine ≤ line → line ≤ plan.requestedEndLine →
      state.HasShown plan.pathKey line

def CountsCall (state : ReadWindowState) : ToolCall → Prop
  | .read surroundings args =>
    ∀ resolvedPath plan, surroundings.context.resolveRepoScopedPath args.path = some resolvedPath →
      surroundings.isImagePath resolvedPath.relativePath = false →
      (planRead buildReadPathKey surroundings args state.states).1 = .ok plan → plan.hasUnread = true →
      CountsWhatItShows surroundings plan
  | .mutate _ => True
  | .run _ => True

end

section

variable {buildReadPathKey : JsString → JsString}

theorem executeRead_marks {surroundings : ReadSurroundings} {args : ReadToolArgs} {state : ReadWindowState}
    (counts : CountsCall buildReadPathKey state (.read surroundings args))
    (marked : ∀ pathKey line, IsReturned state.states pathKey line → state.HasShown pathKey line) :
    let after := executeRead buildReadPathKey surroundings args state
    ∀ pathKey line, IsReturned after.states pathKey line → after.HasShown pathKey line := by
  intro after
  have isAfter : after = executeRead buildReadPathKey surroundings args state := rfl
  unfold executeRead at isAfter
  obtain ⟨same, planned⟩ := @planRead_spec buildReadPathKey surroundings args state.states
  have unchanged : ∀ states, (∀ key line, IsReturned states key line ↔ IsReturned state.states key line) →
      ∀ pathKey line, IsReturned states pathKey line → ({ state with states } : ReadWindowState).HasShown pathKey line :=
    fun states sameMarks pathKey line isMarked => marked pathKey line ((sameMarks pathKey line).mp isMarked)
  split at isAfter
  next resolvedPath resolved =>
    split at isAfter
    · rw [isAfter]
      exact marked
    next notImage =>
      cases plan? : planRead buildReadPathKey surroundings args state.states with
      | mk result states =>
        rw [plan?] at isAfter same planned
        cases result with
        | error reason =>
          rw [isAfter]
          exact unchanged states same
        | ok plan =>
          simp only at isAfter
          split at isAfter
          next isUnread =>
            have planOf := planned plan rfl
            have counted := counts resolvedPath plan resolved (by simpa using notImage) (by rw [plan?]) isUnread
            rw [isAfter]
            intro pathKey line isMarked
            rw [(fitToolResult_eq surroundings (buildReadExecution plan) states).2] at isMarked
            -- the line was marked before, or is one of this read
            have split : IsReturned state.states pathKey line ∨ pathKey = plan.pathKey ∧
                plan.effectiveStartLine ≤ line ∧
                line < plan.effectiveStartLine + returnedLineCount surroundings (buildReadExecution plan) := by
              split at isMarked
              · rcases isReturned_recordNativeRead.mp isMarked with before | ⟨isKey, within⟩
                · exact .inl ((same pathKey line).mp before)
                · exact .inr ⟨isKey, within.1, within.2⟩
              · exact .inl ((same pathKey line).mp isMarked)
            rcases split with before | ⟨isKey, fromStart, recorded⟩
            · obtain ⟨result, isResult, isPath, shows⟩ := marked pathKey line before
              exact ⟨result, List.mem_append_left _ isResult, isPath, shows⟩
            · have shows := @shows_of_countsWhatItShows plan surroundings (planOf.selects isUnread) (planOf.positive isUnread)
                planOf.noFeed counted states line fromStart recorded
              exact ⟨_, List.mem_append_right _ (List.mem_singleton_self _), isKey.symm, shows⟩
          · rw [isAfter]
            exact unchanged states same
  · rw [isAfter]
    exact marked

theorem performCall_marks {state : ReadWindowState} {call : ToolCall}
    (marked : ∀ pathKey line, IsReturned state.states pathKey line → state.HasShown pathKey line)
    (counts : CountsCall buildReadPathKey state call) :
    ∀ pathKey line, IsReturned (performCall buildReadPathKey state call).states pathKey line →
      (performCall buildReadPathKey state call).HasShown pathKey line := by
  cases call with
  | read surroundings args => exact executeRead_marks counts marked
  | mutate execution =>
    intro pathKey line
    unfold performCall invalidateAfterMutation
    simp only
    split
    · split
      · intro isMarked
        obtain ⟨before, otherPath⟩ := isReturned_invalidatePath.mp isMarked
        obtain ⟨result, isResult, rfl, shows⟩ := marked pathKey line before
        exact ⟨result, List.mem_filter.mpr ⟨isResult, by simpa using otherPath⟩, rfl, shows⟩
      · exact marked pathKey line
    · exact marked pathKey line
  | run completed =>
    intro pathKey line
    unfold performCall
    simp only
    split
    · exact fun isMarked => absurd isMarked not_isReturned_invalidateAll
    · exact marked pathKey line

/-- In every run whose reads count what they show, a line is skipped as already read only if it was shown. -/
theorem reads_are_shown {calls : List ToolCall}
    (counts : Throughout (performCall buildReadPathKey) (CountsCall buildReadPathKey) ReadWindowState.start calls) :
    ReadsAreShown buildReadPathKey (run (performCall buildReadPathKey) ReadWindowState.start calls) := by
  have marked : ∀ pathKey line,
      IsReturned (run (performCall buildReadPathKey) ReadWindowState.start calls).states pathKey line →
        (run (performCall buildReadPathKey) ReadWindowState.start calls).HasShown pathKey line := by
    apply run_invariant_throughout
      (fun state : ReadWindowState => ∀ pathKey line, IsReturned state.states pathKey line → state.HasShown pathKey line)
      (fun _ _ => performCall_marks) _ counts
    rintro pathKey line ⟨_, found, _⟩
    cases found
  refine ⟨marked, ?_, ?_⟩
  · intro surroundings args plan planned line fromStart before
    exact marked _ _ (((planRead_spec surroundings args _).2 plan planned).passed line fromStart before)
  · intro surroundings args plan planned none line fromStart toEnd
    exact marked _ _ (((planRead_spec surroundings args _).2 plan planned).exhausted none line fromStart toEnd)

end

/-! ### Samples -/

def notesPath : JsString := utf16 "notes.md"

/-- One file, a token for every character, and room for all of it. -/
def notesSurroundings (text : String) : ReadSurroundings where
  context :=
    { resolveRepoScopedPath := fun path => some ⟨utf16 "/repo/" ++ path, path⟩
      isRepoRelativePathIgnored := fun _ => false
      shortSha256 := fun _ => [] }
  isImagePath := fun _ => false
  files := fun path => if path = utf16 "/repo/notes.md" then some (encodeUtf8 (utf16 text)) else none
  expandReads := true
  countTokens := List.length
  perToolCapTokens := 1000
  remainingTokenAllowance := 1000

def readNotes (text : String) (limit : Option Nat) : ToolCall := .read (notesSurroundings text) ⟨notesPath, some 1, limit⟩

/-- A file of two lines and a blank one. -/
def shortNotes : String := "one\n\ntwo"

/-- The file is read whole. -/
theorem short_notes_are_shown :
    ReadsAreShown id (run (performCall id) ReadWindowState.start [readNotes shortNotes none]) := by
  apply reads_are_shown
  refine ⟨?_, trivial⟩
  intro resolvedPath plan _ _ planned _
  have isPlan : ∃ planned,
      (planRead id (notesSurroundings shortNotes) ⟨notesPath, some 1, none⟩ OrderedMap.empty).1 = .ok planned ∧
        (∀ line ∈ planned.selectedLines, line.getLast? ≠ some carriageReturn) ∧
        (detectRecentTokenRepetition (joinLines planned.resultLines)).isNone = true ∧
        (applyToolOutputRepetitionGuard (joinLines planned.resultLines)).length ≤ 1000 ∧
        ∀ line ∈ (planned.selectedLines.take planned.selectedLines.length).getLast?, trimEnd line = line := by
    refine ⟨_, rfl, ?_⟩
    decide +kernel
  obtain ⟨other, isOther, plain, silent, fits, ends⟩ := isPlan
  have same : plan = other := by
    have both := planned.symm.trans isOther
    cases both
    rfl
  rw [same]
  refine ⟨plain, ?_⟩
  simp only [Option.isNone_iff_eq_none.mp silent]
  exact ⟨fun _ => ends, fun tooLong => absurd fits tooLong⟩

/-- A rule of dashes, and one more line. -/
def ruledNotes : String := String.ofList (List.replicate 100 '-') ++ "\nend"

/-- The guard cuts the whole rule away, and its line is marked as returned by its number alone. -/
theorem cut_rule_is_marked :
    ¬ ReadsAreShown id (run (performCall id) ReadWindowState.start [readNotes ruledNotes (some 1)]) := by
  intro shown
  have marked : ∃ state, (run (performCall id) ReadWindowState.start [readNotes ruledNotes (some 1)]).states.get? notesPath =
      some state ∧ Covers state.mergedReturnedRanges 1 := by
    refine ⟨⟨[⟨1, 2⟩], 1, 1, 0⟩, ?_⟩
    decide +kernel
  obtain ⟨result, isResult, _, text, _, isText, line, isLine, shownAs⟩ := shown.returned notesPath 1 marked
  have unshown : ∀ result ∈ (run (performCall id) ReadWindowState.start [readNotes ruledNotes (some 1)]).shown,
      result.lines[0]? = some (List.replicate 100 0x2D) ∧
        ∀ line ∈ splitLines result.resultText, line ≠ numberedLine 1 (List.replicate 100 0x2D) := by decide +kernel
  obtain ⟨isRule, absent⟩ := unshown result isResult
  cases isText.symm.trans isRule
  rcases shownAs with whole | ⟨blank, _⟩
  · exact absent line isLine whole
  · cases blank

end SiftKit.RepoSearch
