import SiftKit.LlmProtocol.ToolCallParser

/-! # Projections of a growing text

What a text has that is decided stays so while the text grows.  The one exception is a text that ends in two
backticks: they are an empty inline code until a third one makes them the beginning of a fence.
-/

namespace SiftKit.LlmProtocol

open SiftKit.Json SiftKit.Replacement

variable {text more : JsString}

/-! ## The scan -/

/-- Where the scan stands when the text ends: what is before is decided. -/
def MarkdownCodeScan.decidedUpTo (scan : MarkdownCodeScan) (text : JsString) : Nat :=
  scan.incompleteStart.getD text.length

/-- Nothing that the scan finds is before the index from which it starts. -/
def MarkdownCodeScan.StartsAfter (scan : MarkdownCodeScan) (index : Nat) : Prop :=
  (∀ region ∈ scan.regions, index ≤ region.start) ∧ ∀ start, scan.incompleteStart = some start → index ≤ start

variable {scan : MarkdownCodeScan} {index start : Nat} {longer : MarkdownCodeScan}

theorem MarkdownCodeScan.StartsAfter.mono {earlier : Nat} (starts : scan.StartsAfter index) (before : earlier ≤ index) :
    scan.StartsAfter earlier :=
  ⟨fun region member => before.trans (starts.1 region member), fun start isStart => before.trans (starts.2 start isStart)⟩

theorem scanMarkdownFrom_startsAfter (text : JsString) (index : Nat) : (scanMarkdownFrom text index).StartsAfter index := by
  fun_induction scanMarkdownFrom text index with
  | case1 index _ incompleteStart isStep =>
    refine ⟨by simp, ?_⟩
    rintro start rfl
    exact (scanStep_done isStep).1
  | case2 index _ start stop isStep _ rest ih =>
    obtain ⟨after, wide, _⟩ := scanStep_region isStep
    have later : rest.StartsAfter index := ih.mono (by omega)
    refine ⟨?_, later.2⟩
    intro region member
    rcases List.mem_cons.mp member with rfl | isLater
    · exact after
    · exact later.1 region isLater
  | case3 index _ next isStep _ ih =>
    have forward := scanStep_skip isStep
    exact ih.mono (by omega)
  | case4 => exact ⟨by simp, by simp⟩

theorem scanMarkdownFrom_incomplete (isStart : (scanMarkdownFrom text index).incompleteStart = some start) :
    OccursAt text inlineMark start := by
  fun_induction scanMarkdownFrom text index with
  | case1 index _ incompleteStart isStep =>
    obtain rfl : incompleteStart = some start := isStart
    exact (scanStep_done isStep).2
  | case2 index _ first stop isStep _ rest ih => exact ih isStart
  | case3 index _ next isStep _ ih => exact ih isStart
  | case4 => cases isStart

/-- The two backticks at the end of the text are the beginning of a fence in the longer one. -/
def Reopened (text longer : JsString) (start : Nat) : Prop := start + 2 = text.length ∧ OccursAt longer fenceMark start

theorem occursAt_inlineMark_of_fenceMark {offset : Nat} (occurs : OccursAt text fenceMark start) (within : offset < 3) :
    OccursAt text inlineMark (start + offset) := by
  obtain ⟨rest, isRest⟩ := occurs
  rw [OccursAt, ← List.drop_drop, ← isRest]
  have isMark : ∀ offset < 3, inlineMark <+: fenceMark.drop offset := by decide
  rw [List.drop_append_of_le_length (by simp [fenceMark]; omega)]
  exact (isMark offset within).trans (List.prefix_append _ rest)

/-- A backtick that is no fence in a text is one in a longer text only if the text ends too early to tell. -/
theorem fence_of_append (notFence : ¬ OccursAt text fenceMark start)
    (isFence : OccursAt (text ++ more) fenceMark start) : text.length < start + 3 := by
  by_contra fits
  exact notFence (isFence.of_append (by simp [fenceMark]; omega))

theorem codeAt_append_region {first stop : Nat} (isStep : codeAt text start = .region first stop) :
    codeAt (text ++ more) start = .region first stop ∨ (stop = text.length ∧ Reopened text (text ++ more) first) := by
  obtain ⟨rfl, wide, bound⟩ : first = start ∧ start + 2 ≤ stop ∧ stop ≤ text.length := by
    have isFrom := codeAt_from text start
    rwa [isStep] at isFrom
  unfold codeAt at isStep
  split at isStep
  next isFence =>
    -- a fence and its end stay what they are
    left
    split at isStep
    next => cases isStep
    next close found =>
      have occurs : OccursAt text fenceMark first := List.isPrefixOf_iff_prefix.mp isFence
      have stays : fenceMark.isPrefixOf ((text ++ more).drop first) = true :=
        List.isPrefixOf_iff_prefix.mpr (occurs.append fenceMark_ne_nil more)
      rw [codeAt, if_pos stays, indexOfFrom_append fenceMark_ne_nil found more]
      exact isStep
  next notFence =>
    have noFence : ¬ OccursAt text fenceMark first := fun occurs => notFence (List.isPrefixOf_iff_prefix.mpr occurs)
    obtain ⟨close, found, isStop, notSkipped⟩ : ∃ close, indexOfFrom text inlineMark (first + 1) = some close ∧
        close + 1 = stop ∧ ∀ lineEnd, indexOfFrom text newline (first + 1) = some lineEnd → ¬ lineEnd < close := by
      split at isStep
      next => cases isStep
      next => cases isStep
      next close found none =>
        cases isStep
        exact ⟨close, found, rfl, by simp [none]⟩
      next close lineEnd found foundEnd =>
        split at isStep
        · cases isStep
        next notBefore =>
          cases isStep
          refine ⟨close, found, rfl, ?_⟩
          intro other isOther
          rw [foundEnd] at isOther
          cases isOther
          exact notBefore
    obtain ⟨after, occurs, isFirst⟩ := (indexOfFrom_eq_some_iff inlineMark_ne_nil).mp found
    by_cases isFence : OccursAt (text ++ more) fenceMark first
    · -- the second backtick of the fence is the one that closed the inline code
      right
      have short := fence_of_append noFence isFence
      exact ⟨by omega, by omega, isFence⟩
    · left
      have stays : ¬ fenceMark.isPrefixOf ((text ++ more).drop first) = true :=
        fun isPrefix => isFence (List.isPrefixOf_iff_prefix.mp isPrefix)
      rw [codeAt, if_neg stays, indexOfFrom_append inlineMark_ne_nil found more]
      cases foundEnd : indexOfFrom (text ++ more) newline (first + 1) with
      | none => rw [← isStop]
      | some lineEnd =>
        have notBefore : ¬ lineEnd < close := by
          cases isEnd : indexOfFrom text newline (first + 1) with
          | none =>
            have beyond : text.length < lineEnd + 1 := indexOfFrom_append_of_none isEnd newline_ne_nil foundEnd
            omega
          | some other =>
            have same := indexOfFrom_append newline_ne_nil isEnd more
            rw [foundEnd] at same
            cases same
            exact notSkipped _ isEnd
        simp only [if_neg notBefore, ← isStop]

theorem codeAt_append_skip {next : Nat} (isStep : codeAt text start = .skip next) :
    codeAt (text ++ more) start = .skip next := by
  unfold codeAt at isStep
  split at isStep
  next => split at isStep <;> cases isStep
  next notFence =>
    have noFence : ¬ OccursAt text fenceMark start := fun occurs => notFence (List.isPrefixOf_iff_prefix.mpr occurs)
    obtain ⟨lineEnd, foundEnd, isNext, notClosed⟩ : ∃ lineEnd, indexOfFrom text newline (start + 1) = some lineEnd ∧
        lineEnd + 1 = next ∧ ∀ close, indexOfFrom text inlineMark (start + 1) = some close → lineEnd < close := by
      split at isStep
      next => cases isStep
      next lineEnd none foundEnd =>
        cases isStep
        exact ⟨lineEnd, foundEnd, rfl, by simp [none]⟩
      next => cases isStep
      next close lineEnd found foundEnd =>
        split at isStep
        next before =>
          cases isStep
          refine ⟨lineEnd, foundEnd, rfl, ?_⟩
          intro other isOther
          rw [found] at isOther
          cases isOther
          exact before
        · cases isStep
    obtain ⟨after, occurs, _⟩ := (indexOfFrom_eq_some_iff newline_ne_nil).mp foundEnd
    have bound : lineEnd + 1 ≤ text.length := occurs.bound newline_ne_nil
    -- the line ends before any backtick of the longer text
    have notBefore : ∀ close, indexOfFrom (text ++ more) inlineMark (start + 1) = some close → lineEnd < close := by
      intro close found
      cases isClose : indexOfFrom text inlineMark (start + 1) with
      | none =>
        have beyond : text.length < close + 1 := indexOfFrom_append_of_none isClose inlineMark_ne_nil found
        omega
      | some other =>
        have same := indexOfFrom_append inlineMark_ne_nil isClose more
        rw [found] at same
        cases same
        exact notClosed _ isClose
    have stays : ¬ fenceMark.isPrefixOf ((text ++ more).drop start) = true := by
      intro isPrefix
      have second : OccursAt (text ++ more) inlineMark (start + 1) :=
        occursAt_inlineMark_of_fenceMark (List.isPrefixOf_iff_prefix.mp isPrefix) (by omega)
      cases found : indexOfFrom (text ++ more) inlineMark (start + 1) with
      | none => exact indexOfFrom_eq_none found (start + 1) le_rfl second
      | some close =>
        have later := notBefore close found
        exact indexOfFrom_first found (start + 1) le_rfl (by omega) second
    rw [codeAt, if_neg stays, indexOfFrom_append newline_ne_nil foundEnd more]
    cases found : indexOfFrom (text ++ more) inlineMark (start + 1) with
    | none => rw [← isNext]
    | some close => simp only [if_pos (notBefore close found), ← isNext]

/-- A round that found a region does the same in a longer text, or the region is an empty inline code that is reopened. -/
theorem scanStep_append_region {stop : Nat} (isStep : scanStep text index = .region start stop) :
    scanStep (text ++ more) index = .region start stop ∨ (stop = text.length ∧ Reopened text (text ++ more) start) := by
  unfold scanStep at isStep
  split at isStep
  next => cases isStep
  next first found =>
    rw [scanStep, indexOfFrom_append inlineMark_ne_nil found more]
    exact codeAt_append_region isStep

theorem scanStep_append_skip {next : Nat} (isStep : scanStep text index = .skip next) :
    scanStep (text ++ more) index = .skip next := by
  unfold scanStep at isStep
  split at isStep
  next => cases isStep
  next first found =>
    rw [scanStep, indexOfFrom_append inlineMark_ne_nil found more]
    exact codeAt_append_skip isStep

/-- Where the scan ended, the scan of a longer text finds nothing earlier. -/
theorem scanStep_append_done {incompleteStart : Option Nat} (isStep : scanStep text index = .done incompleteStart) :
    scanStep (text ++ more) index = .done none ∨ ∃ start, incompleteStart.getD text.length ≤ start ∧
      (scanStep (text ++ more) index).From (text ++ more) start := by
  unfold scanStep at isStep
  split at isStep
  next none =>
    cases isStep
    unfold scanStep
    split
    next => exact .inl rfl
    next start found =>
      right
      have beyond : text.length < start + 1 := indexOfFrom_append_of_none none inlineMark_ne_nil found
      exact ⟨start, by simp only [Option.getD_none]; omega, codeAt_from _ start⟩
  next start found =>
    right
    have isFrom := codeAt_from text start
    rw [isStep] at isFrom
    obtain rfl : incompleteStart = some start := isFrom
    rw [scanStep, indexOfFrom_append inlineMark_ne_nil found more]
    exact ⟨start, le_rfl, codeAt_from _ start⟩

/-- The scan of a longer text starts with the regions that the scan has found, and finds others only where it stood. -/
def MarkdownCodeScan.Extends (scan longer : MarkdownCodeScan) (decided : Nat) : Prop :=
  ∃ later, longer.regions = scan.regions ++ later ∧ (∀ region ∈ later, decided ≤ region.start) ∧
    ∀ start, longer.incompleteStart = some start → decided ≤ start

theorem MarkdownCodeScan.Extends.cons {decided : Nat} (isLonger : scan.Extends longer decided) (region : CodeRegion) :
    MarkdownCodeScan.Extends ⟨region :: scan.regions, scan.incompleteStart⟩
      ⟨region :: longer.regions, longer.incompleteStart⟩ decided := by
  obtain ⟨later, regions, starts, incomplete⟩ := isLonger
  exact ⟨later, by simp [regions], starts, incomplete⟩

/-- The last region of the scan is an empty inline code that the longer text reopens; the others stay. -/
def MarkdownCodeScan.Reopens (scan longer : MarkdownCodeScan) (text longerText : JsString) : Prop :=
  ∃ kept start later, scan.regions = kept ++ [⟨start, text.length⟩] ∧ Reopened text longerText start ∧
    longer.regions = kept ++ later

theorem MarkdownCodeScan.Reopens.cons {longerText : JsString} (reopens : scan.Reopens longer text longerText)
    (region : CodeRegion) :
    MarkdownCodeScan.Reopens ⟨region :: scan.regions, scan.incompleteStart⟩
      ⟨region :: longer.regions, longer.incompleteStart⟩ text longerText := by
  obtain ⟨kept, start, later, regions, isReopened, longerRegions⟩ := reopens
  exact ⟨region :: kept, start, later, by simp [regions], isReopened, by simp [longerRegions]⟩

theorem scanMarkdownFrom_of_done {incompleteStart : Option Nat} (isStep : scanStep text index = .done incompleteStart)
    (inside : index < text.length) : scanMarkdownFrom text index = ⟨[], incompleteStart⟩ := by
  rw [scanMarkdownFrom, dif_pos inside]
  split <;> simp_all

theorem scanMarkdownFrom_of_region {stop : Nat} (isStep : scanStep text index = .region start stop)
    (inside : index < text.length) : scanMarkdownFrom text index =
      ⟨⟨start, stop⟩ :: (scanMarkdownFrom text stop).regions, (scanMarkdownFrom text stop).incompleteStart⟩ := by
  rw [scanMarkdownFrom, dif_pos inside]
  split <;> simp_all

theorem scanMarkdownFrom_of_skip {next : Nat} (isStep : scanStep text index = .skip next)
    (inside : index < text.length) : scanMarkdownFrom text index = scanMarkdownFrom text next := by
  rw [scanMarkdownFrom, dif_pos inside]
  split <;> simp_all

/-- From a round that begins at a start on, everything that is found is there or later. -/
theorem scanMarkdownFrom_startsAfter_step (isFrom : (scanStep text index).From text start)
    (inside : index < text.length) : (scanMarkdownFrom text index).StartsAfter start := by
  cases isStep : scanStep text index with
  | done incompleteStart =>
    rw [isStep] at isFrom
    rw [scanMarkdownFrom_of_done isStep inside]
    refine ⟨by simp, ?_⟩
    intro other isOther
    obtain rfl : other = start := Option.some.inj (isOther.symm.trans isFrom)
    exact le_rfl
  | region first stop =>
    rw [isStep] at isFrom
    obtain ⟨rfl, wide, _⟩ := isFrom
    have later : (scanMarkdownFrom text stop).StartsAfter first := (scanMarkdownFrom_startsAfter text stop).mono (by omega)
    rw [scanMarkdownFrom_of_region isStep inside]
    refine ⟨?_, later.2⟩
    intro region member
    rcases List.mem_cons.mp member with rfl | isLater
    · exact le_rfl
    · exact later.1 region isLater
  | skip next =>
    rw [isStep] at isFrom
    rw [scanMarkdownFrom_of_skip isStep inside]
    exact (scanMarkdownFrom_startsAfter text next).mono (by have := isFrom.1; omega)

/-- The scan of a longer text extends the scan of the text, unless it reopens the text's last region. -/
theorem scanMarkdownFrom_append (text more : JsString) (index : Nat) :
    (scanMarkdownFrom text index).Extends (scanMarkdownFrom (text ++ more) index)
        ((scanMarkdownFrom text index).decidedUpTo text) ∨
      (scanMarkdownFrom text index).Reopens (scanMarkdownFrom (text ++ more) index) text (text ++ more) := by
  fun_induction scanMarkdownFrom text index with
  | case1 index inside incompleteStart isStep =>
    left
    have longerInside : index < (text ++ more).length := by rw [List.length_append]; omega
    rcases scanStep_append_done isStep with isDone | ⟨start, decided, isFrom⟩
    · rw [scanMarkdownFrom_of_done isDone longerInside]
      exact ⟨[], rfl, by simp, by simp⟩
    · have starts := (scanMarkdownFrom_startsAfter_step isFrom longerInside).mono decided
      exact ⟨_, rfl, starts.1, starts.2⟩
  | case2 index inside start stop isStep _ rest ih =>
    have longerInside : index < (text ++ more).length := by rw [List.length_append]; omega
    rcases scanStep_append_region isStep with stays | ⟨rfl, isReopened⟩
    · rw [scanMarkdownFrom_of_region stays longerInside]
      rcases ih with isLonger | reopens
      · exact .inl (isLonger.cons ⟨start, stop⟩)
      · exact .inr (reopens.cons ⟨start, stop⟩)
    · right
      have isRest : rest = ⟨[], none⟩ := by
        unfold rest
        rw [scanMarkdownFrom, dif_neg (lt_irrefl _)]
      exact ⟨[], start, _, by simp [isRest], isReopened, rfl⟩
  | case3 index inside next isStep _ ih =>
    have longerInside : index < (text ++ more).length := by rw [List.length_append]; omega
    rw [scanMarkdownFrom_of_skip (scanStep_append_skip isStep) longerInside]
    exact ih
  | case4 index outside =>
    left
    have starts := (scanMarkdownFrom_startsAfter (text ++ more) index).mono (Nat.le_of_not_lt outside)
    exact ⟨_, rfl, starts.1, starts.2⟩

/-! ## Tags -/

variable {regions : List CodeRegion}

/-- A tag that is not quoted. -/
def BareTag (text : JsString) (regions : List CodeRegion) (index : Nat) : Prop :=
  OccursAt text toolCallOpenTag index ∧ ¬ isInsideCodeRegion regions index

theorem isInsideCodeRegion_append (regions later : List CodeRegion) (index : Nat) :
    isInsideCodeRegion (regions ++ later) index = (isInsideCodeRegion regions index || isInsideCodeRegion later index) := by
  simp [isInsideCodeRegion]

theorem not_inside_of_before (after : ∀ region ∈ regions, index < region.start) :
    ¬ isInsideCodeRegion regions index := by
  intro inside
  obtain ⟨region, member, covers⟩ := List.any_eq_true.mp inside
  have starts := after region member
  simp [CodeRegion.covers] at covers
  omega

theorem toolCallOpenTag_length : toolCallOpenTag.length = 11 := by decide +kernel

theorem mark_ne_of_tag {offset : Nat} (occurs : OccursAt text toolCallOpenTag index) (within : offset < 11) :
    ¬ OccursAt text inlineMark (index + offset) := by
  intro isMark
  have noMark : ∀ offset < 11, toolCallOpenTag[offset]? ≠ some 0x60 := by decide +kernel
  have shorter : offset < toolCallOpenTag.length := by rw [toolCallOpenTag_length]; exact within
  obtain ⟨rest, isRest⟩ := occurs
  obtain ⟨other, isOther⟩ := isMark
  have inTag : text[index + offset]? = toolCallOpenTag[offset]? := by
    rw [← List.getElem?_drop, ← isRest, List.getElem?_append_left shorter]
  have inMark : text[index + offset]? = some 0x60 := by
    rw [← Nat.add_zero (index + offset), ← List.getElem?_drop, ← isOther]
    rfl
  exact noMark offset within (inTag.symm.trans inMark)

theorem findBareOpenTagFrom_spec (text : JsString) (regions : List CodeRegion) (start : Nat) :
    match findBareOpenTagFrom text regions start with
    | some index => BareTag text regions index ∧ ∀ earlier, start ≤ earlier → earlier < index → ¬ BareTag text regions earlier
    | none => ∀ index, start ≤ index → ¬ BareTag text regions index := by
  fun_induction findBareOpenTagFrom text regions start with
  | case1 start found =>
    intro index after bare
    exact indexOfFrom_eq_none found index after bare.1
  | case2 start index found _ inside ih =>
    -- the tags through this one are quoted
    obtain ⟨_, _, isFirst⟩ := (indexOfFrom_eq_some_iff toolCallOpenTag_ne_nil).mp found
    have quoted : ∀ earlier, start ≤ earlier → earlier ≤ index → ¬ BareTag text regions earlier := by
      intro earlier after before bare
      rcases Nat.lt_or_eq_of_le before with isBefore | rfl
      · exact isFirst earlier after isBefore bare.1
      · exact bare.2 inside
    split at ih
    next other _ =>
      refine ⟨ih.1, ?_⟩
      intro earlier after before
      by_cases isQuoted : earlier ≤ index
      · exact quoted earlier after isQuoted
      · exact ih.2 earlier (by omega) before
    next =>
      intro earlier after
      by_cases isQuoted : earlier ≤ index
      · exact quoted earlier after isQuoted
      · exact ih earlier (by omega)
  | case3 start index found _ outside =>
    obtain ⟨_, occurs, isFirst⟩ := (indexOfFrom_eq_some_iff toolCallOpenTag_ne_nil).mp found
    exact ⟨⟨occurs, outside⟩, fun earlier after before bare => isFirst earlier after before bare.1⟩

theorem trailingPrefixFrom_spec (text : JsString) (regions : List CodeRegion) (most : Nat) :
    trailingPrefixFrom text regions most ≤ most ∧
      (0 < trailingPrefixFrom text regions most → endsWithTagPrefix text regions (trailingPrefixFrom text regions most)) ∧
      ∀ length ≤ most, endsWithTagPrefix text regions length → length ≤ trailingPrefixFrom text regions most := by
  induction most with
  | zero => simp [trailingPrefixFrom]
  | succ most ih =>
    unfold trailingPrefixFrom
    split
    next ends => exact ⟨le_rfl, fun _ => ends, fun length within _ => within⟩
    next notEnds =>
      obtain ⟨bound, ends, longest⟩ := ih
      refine ⟨by omega, ends, ?_⟩
      intro length within isEnd
      rcases Nat.lt_or_eq_of_le within with before | rfl
      · exact longest length (by omega) isEnd
      · exact absurd isEnd notEnds

/-! ## Projections -/

/-- The end of the text is the beginning of a tag, outside of markdown code. -/
def EndsInTagPrefix (text : JsString) (regions : List CodeRegion) (start : Nat) : Prop :=
  start < text.length ∧ ¬ isInsideCodeRegion regions start ∧ text.drop start <+: toolCallOpenTag

theorem endsWithTagPrefix_iff {length : Nat} (positive : 0 < length) (within : length ≤ text.length) :
    endsWithTagPrefix text regions length = true ↔ EndsInTagPrefix text regions (text.length - length) := by
  have inText : text.length - length < text.length := by omega
  simp [endsWithTagPrefix, EndsInTagPrefix, inText]

theorem trailing_le (text : JsString) (regions : List CodeRegion) :
    getTrailingOpenTagPrefixLength text regions ≤ text.length ∧ getTrailingOpenTagPrefixLength text regions ≤ 10 := by
  obtain ⟨bound, _⟩ := trailingPrefixFrom_spec text regions (min text.length (toolCallOpenTag.length - 1))
  rw [toolCallOpenTag_length] at bound
  unfold getTrailingOpenTagPrefixLength
  rw [toolCallOpenTag_length]
  omega

theorem trailing_ends (positive : 0 < getTrailingOpenTagPrefixLength text regions) :
    EndsInTagPrefix text regions (text.length - getTrailingOpenTagPrefixLength text regions) := by
  obtain ⟨_, ends, _⟩ := trailingPrefixFrom_spec text regions (min text.length (toolCallOpenTag.length - 1))
  exact (endsWithTagPrefix_iff positive (trailing_le text regions).1).mp (ends positive)

/-- What is shown stops before the beginning of a tag, if it is not the whole tag. -/
theorem trailing_longest (ends : EndsInTagPrefix text regions start) (short : text.length < start + 11) :
    text.length - getTrailingOpenTagPrefixLength text regions ≤ start := by
  obtain ⟨_, _, longest⟩ := trailingPrefixFrom_spec text regions (min text.length (toolCallOpenTag.length - 1))
  have before := ends.1
  have isEnd : endsWithTagPrefix text regions (text.length - start) = true := by
    rw [endsWithTagPrefix_iff (by omega) (by omega), Nat.sub_sub_self before.le]
    exact ends
  have longer := longest (text.length - start) (by rw [toolCallOpenTag_length]; omega) isEnd
  unfold getTrailingOpenTagPrefixLength
  omega

/-- The part of a text that is decided, and what of it is shown if it has no tag. -/
def decidedText (text : JsString) : JsString := text.take ((scanMarkdownCode text).decidedUpTo text)

theorem decidedUpTo_le (text : JsString) : (scanMarkdownCode text).decidedUpTo text ≤ text.length := by
  unfold MarkdownCodeScan.decidedUpTo
  cases isStart : (scanMarkdownCode text).incompleteStart with
  | none => exact le_rfl
  | some start =>
    have bound : start + 1 ≤ text.length := (scanMarkdownFrom_incomplete isStart).bound inlineMark_ne_nil
    simp only [Option.getD_some]
    omega

theorem decidedText_length (text : JsString) : (decidedText text).length = (scanMarkdownCode text).decidedUpTo text := by
  rw [decidedText, List.length_take, Nat.min_eq_left (decidedUpTo_le text)]

/-- A text is shown up to its first bare tag, or else as far as it is decided and does not end in the beginning of one. -/
theorem projectStreamText_cases (text : JsString) :
    (∃ index, BareTag text (scanMarkdownCode text).regions index ∧ index < (scanMarkdownCode text).decidedUpTo text ∧
        (∀ earlier < index, ¬ BareTag text (scanMarkdownCode text).regions earlier) ∧
        projectStreamText text = ⟨.toolControl, text.take index⟩) ∨
      ((∀ index < (scanMarkdownCode text).decidedUpTo text, ¬ BareTag text (scanMarkdownCode text).regions index) ∧
        projectStreamText text =
          ⟨if text ≠ [] ∧ (scanMarkdownCode text).incompleteStart = none ∧
              getTrailingOpenTagPrefixLength text (scanMarkdownCode text).regions = 0 then .narration else .undecided,
            withoutTagPrefix (decidedText text) (scanMarkdownCode text).regions⟩) := by
  have search := findBareOpenTagFrom_spec text (scanMarkdownCode text).regions 0
  by_cases isEmpty : text = []
  · right
    refine ⟨?_, by simp [isEmpty, projectStreamText, decidedText, withoutTagPrefix]⟩
    intro index _ bare
    have bound := bare.1.bound toolCallOpenTag_ne_nil
    rw [isEmpty, toolCallOpenTag_length] at bound
    simp at bound
  · have notEmpty : ¬ text.isEmpty = true := fun isNil => isEmpty (List.isEmpty_iff.mp isNil)
    unfold projectStreamText
    rw [if_neg notEmpty]
    simp only [findBareOpenTag, decidedText, MarkdownCodeScan.decidedUpTo]
    cases isStart : (scanMarkdownCode text).incompleteStart with
    | none =>
      cases isIndex : findBareOpenTagFrom text (scanMarkdownCode text).regions 0 with
      | none =>
        right
        rw [isIndex] at search
        refine ⟨fun index _ => search index (Nat.zero_le index), ?_⟩
        by_cases isWhole : getTrailingOpenTagPrefixLength text (scanMarkdownCode text).regions = 0
        · simp [isWhole, isEmpty, withoutTagPrefix]
        · simp [isWhole, Nat.pos_of_ne_zero isWhole]
      | some index =>
        left
        rw [isIndex] at search
        have bound := search.1.1.bound toolCallOpenTag_ne_nil
        rw [toolCallOpenTag_length] at bound
        refine ⟨index, search.1, by simp; omega, fun earlier => search.2 earlier (Nat.zero_le earlier), rfl⟩
    | some start =>
      cases isIndex : findBareOpenTagFrom text (scanMarkdownCode text).regions 0 with
      | none =>
        right
        rw [isIndex] at search
        exact ⟨fun index _ => search index (Nat.zero_le index), by simp⟩
      | some index =>
        rw [isIndex] at search
        by_cases isBefore : start < index
        · right
          refine ⟨?_, by simp [isBefore]⟩
          intro earlier before
          exact search.2 earlier (Nat.zero_le earlier) (lt_trans before isBefore)
        · left
          have apart : index ≠ start := by
            rintro rfl
            exact mark_ne_of_tag search.1.1 (by omega : 0 < 11) (scanMarkdownFrom_incomplete isStart)
          refine ⟨index, search.1, ?_, fun earlier => search.2 earlier (Nat.zero_le earlier), by simp [isBefore]⟩
          simp only [Option.getD_some]
          omega

theorem withoutTagPrefix_prefix (text : JsString) (regions : List CodeRegion) : withoutTagPrefix text regions <+: text :=
  List.take_prefix _ text

theorem withoutTagPrefix_length (text : JsString) (regions : List CodeRegion) :
    (withoutTagPrefix text regions).length = text.length - getTrailingOpenTagPrefixLength text regions := by
  rw [withoutTagPrefix, List.length_take, Nat.min_eq_left (Nat.sub_le _ _)]

theorem narrationText_prefix (text : JsString) : (projectStreamText text).narrationText <+: text := by
  rcases projectStreamText_cases text with ⟨index, _, _, _, isProjection⟩ | ⟨_, isProjection⟩
  · rw [isProjection]
    exact List.take_prefix index text
  · rw [isProjection]
    exact ( withoutTagPrefix_prefix _ _).trans (List.take_prefix _ text)

theorem narrationText_length_le (text : JsString) :
    (projectStreamText text).narrationText.length ≤ (scanMarkdownCode text).decidedUpTo text := by
  rcases projectStreamText_cases text with ⟨index, _, before, _, isProjection⟩ | ⟨_, isProjection⟩
  · rw [isProjection]
    exact (List.length_take_le index text).trans before.le
  · rw [isProjection]
    exact ( withoutTagPrefix_prefix _ _).length_le.trans (decidedText_length text).le

/-! ## Growing texts -/

theorem scanMarkdownCode_append (text more : JsString) :
    (scanMarkdownCode text).Extends (scanMarkdownCode (text ++ more)) ((scanMarkdownCode text).decidedUpTo text) ∨
      (scanMarkdownCode text).Reopens (scanMarkdownCode (text ++ more)) text (text ++ more) :=
  scanMarkdownFrom_append text more 0

theorem MarkdownCodeScan.Extends.inside {decided : Nat} (isLonger : scan.Extends longer decided)
    (inside : isInsideCodeRegion scan.regions index = true) : isInsideCodeRegion longer.regions index = true := by
  obtain ⟨later, isRegions, _⟩ := isLonger
  rw [isRegions, isInsideCodeRegion_append, inside, Bool.true_or]

theorem MarkdownCodeScan.Extends.outside {decided : Nat} (isLonger : scan.Extends longer decided)
    (before : index < decided) (outside : ¬ isInsideCodeRegion scan.regions index) :
    ¬ isInsideCodeRegion longer.regions index := by
  obtain ⟨later, isRegions, starts, _⟩ := isLonger
  rw [isRegions, isInsideCodeRegion_append, Bool.or_eq_true, not_or]
  refine ⟨outside, not_inside_of_before ?_⟩
  intro region member
  exact lt_of_lt_of_le before (starts region member)

theorem decidedUpTo_append
    (isLonger : (scanMarkdownCode text).Extends (scanMarkdownCode (text ++ more)) ((scanMarkdownCode text).decidedUpTo text)) :
    (scanMarkdownCode text).decidedUpTo text ≤ (scanMarkdownCode (text ++ more)).decidedUpTo (text ++ more) := by
  obtain ⟨_, _, _, incomplete⟩ := isLonger
  have within := decidedUpTo_le text
  unfold MarkdownCodeScan.decidedUpTo at incomplete within ⊢
  cases isStart : (scanMarkdownCode (text ++ more)).incompleteStart with
  | some start => exact incomplete start isStart
  | none =>
    rw [Option.getD_none, List.length_append]
    omega

theorem quoted_of_begun (occurs : OccursAt (text ++ more) toolCallOpenTag index)
    (shown : index < (projectStreamText text).narrationText.length) :
    isInsideCodeRegion (scanMarkdownCode text).regions index = true := by
  by_contra outside
  have decided := narrationText_length_le text
  have within := decidedUpTo_le text
  have complete : index + 11 ≤ text.length → BareTag text (scanMarkdownCode text).regions index :=
    fun fits => ⟨occurs.of_append (by rw [toolCallOpenTag_length]; exact fits), outside⟩
  rcases projectStreamText_cases text with ⟨first, bare, _, isFirst, isProjection⟩ | ⟨noBare, isProjection⟩
  · -- the first bare tag is behind it and complete
    have bound := bare.1.bound toolCallOpenTag_ne_nil
    rw [toolCallOpenTag_length] at bound
    rw [isProjection, List.length_take] at shown
    exact isFirst index (by omega) (complete (by omega))
  · have short : text.length < index + 11 := by
      by_contra fits
      exact noBare index (by omega) (complete (by omega))
    cases isStart : (scanMarkdownCode text).incompleteStart with
    | some start =>
      -- a backtick would stand in the tag
      have isDecided : (scanMarkdownCode text).decidedUpTo text = start := by simp [MarkdownCodeScan.decidedUpTo, isStart]
      have mark := (scanMarkdownFrom_incomplete isStart).append inlineMark_ne_nil more
      apply @mark_ne_of_tag (text ++ more) index (start - index) occurs (by omega)
      rwa [Nat.add_sub_cancel' (by omega)]
    | none =>
      have isDecided : decidedText text = text := by simp [decidedText, MarkdownCodeScan.decidedUpTo, isStart]
      rw [isProjection, withoutTagPrefix_length, isDecided] at shown
      have isLonger : (text ++ more).drop index = text.drop index ++ more := List.drop_append_of_le_length (by omega)
      have begins : text.drop index <+: toolCallOpenTag := by
        apply List.prefix_of_prefix_length_le (isLonger ▸ List.prefix_append _ more) occurs
        rw [List.length_drop, toolCallOpenTag_length]
        omega
      have stops := trailing_longest ⟨by omega, outside, begins⟩ short
      omega

/-- No bare tag of a longer text begins in what a text shows. -/
theorem narrationText_length_le_bareTag
    (bare : BareTag (text ++ more) (scanMarkdownCode (text ++ more)).regions index) :
    (projectStreamText text).narrationText.length ≤ index := by
  by_contra notAfter
  have inside := quoted_of_begun bare.1 (by omega)
  apply bare.2
  rcases scanMarkdownCode_append text more with isLonger | ⟨kept, start, later, isScan, isReopened, isLonger⟩
  · exact isLonger.inside inside
  · rw [isScan, isInsideCodeRegion_append, Bool.or_eq_true] at inside
    rcases inside with inKept | inLast
    · rw [isLonger, isInsideCodeRegion_append, inKept, Bool.true_or]
    · -- the tag does not begin with a backtick
      simp only [isInsideCodeRegion, List.any_cons, List.any_nil, Bool.or_false, CodeRegion.covers, Bool.and_eq_true,
        decide_eq_true_eq] at inLast
      have width := isReopened.1
      have mark := occursAt_inlineMark_of_fenceMark isReopened.2 (by omega : index - start < 3)
      rw [Nat.add_sub_cancel' inLast.1] at mark
      exact absurd mark (mark_ne_of_tag bare.1 (by omega : 0 < 11))

/-- The text ends in two backticks that are an empty inline code, and the longer one goes on with a third. -/
def ReopensCode (text longer : JsString) : Prop :=
  ∃ start, (scanMarkdownCode text).regions.getLast? = some ⟨start, text.length⟩ ∧ Reopened text longer start

/-- The beginning of a tag behind what the longer text shows stood there before. -/
theorem endsInTagPrefix_of_append
    (isLonger : (scanMarkdownCode text).Extends (scanMarkdownCode (text ++ more)) ((scanMarkdownCode text).decidedUpTo text))
    (before : start < (scanMarkdownCode text).decidedUpTo text)
    (ends : EndsInTagPrefix (decidedText (text ++ more)) (scanMarkdownCode (text ++ more)).regions start) :
    EndsInTagPrefix (decidedText text) (scanMarkdownCode text).regions start := by
  have isPrefix : decidedText text <+: decidedText (text ++ more) := by
    have inText : decidedText text <+: text ++ more := (List.take_prefix _ text).trans (List.prefix_append text more)
    apply List.prefix_of_prefix_length_le inText (List.take_prefix _ (text ++ more))
    rw [decidedText_length, ← decidedText, decidedText_length]
    exact decidedUpTo_append isLonger
  refine ⟨by rwa [decidedText_length], fun inside => ends.2.1 (isLonger.inside inside), ?_⟩
  exact (isPrefix.drop start).trans ends.2.2

/-- What is shown of a text is shown of a longer one. -/
theorem narrationText_append (text more : JsString) :
    (projectStreamText text).narrationText <+: (projectStreamText (text ++ more)).narrationText ∨
      ReopensCode text (text ++ more) := by
  rcases scanMarkdownCode_append text more with isLonger | ⟨kept, start, _, isScan, isReopened, _⟩
  · left
    have inLonger : (projectStreamText text).narrationText <+: text ++ more :=
      ( narrationText_prefix text).trans (List.prefix_append text more)
    apply List.prefix_of_prefix_length_le inLonger ( narrationText_prefix (text ++ more))
    have moreDecided := decidedUpTo_append isLonger
    rcases projectStreamText_cases (text ++ more) with ⟨first, bare, _, _, isProjection⟩ | ⟨noBare, isProjection⟩
    · have bound := bare.1.bound toolCallOpenTag_ne_nil
      rw [isProjection, List.length_take, Nat.min_eq_left (by omega)]
      exact narrationText_length_le_bareTag bare
    · have shown := narrationText_length_le text
      rw [isProjection, withoutTagPrefix_length]
      by_contra notLonger
      have positive : 0 < getTrailingOpenTagPrefixLength (decidedText (text ++ more)) (scanMarkdownCode (text ++ more)).regions := by
        rw [decidedText_length] at notLonger
        omega
      have ends := endsInTagPrefix_of_append isLonger (by omega) (trailing_ends positive)
      rcases projectStreamText_cases text with ⟨first, bare, isBefore, _, _⟩ | ⟨_, isProjectionText⟩
      · -- a bare tag of the text is one of the longer text
        apply noBare first (by omega)
        exact ⟨bare.1.append toolCallOpenTag_ne_nil more, isLonger.outside isBefore bare.2⟩
      · have isShort := trailing_le (decidedText (text ++ more)) (scanMarkdownCode (text ++ more)).regions
        have stops := trailing_longest ends (by simp only [decidedText_length] at isShort ⊢; omega)
        rw [isProjectionText, withoutTagPrefix_length] at notLonger
        omega
  · right
    exact ⟨start, by rw [isScan, List.getLast?_concat], isReopened⟩

end SiftKit.LlmProtocol
