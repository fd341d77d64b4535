import SiftKit.RepoSearch.ReadContract

/-! # The budget of tool results

`turn-budget.ts`, `tool-result-budgeter.ts` and the capacity of `tool-action-processor.ts`: every call of a
batch is given what the results before it left of the prompt, and its result is cut down to that.
-/

namespace SiftKit.RepoSearch

open SiftKit.Json
open SiftKit.Json.Schema (isWhiteSpace trim trim_trim)
open SiftKit.Lines SiftKit.Runs

/-! ## Capacities -/

def FAILED_COMMAND_TAIL_CAP_TOKENS : Nat := 1024

/-- Resolved before the tool runs; zero capacity never reaches the budgeter. -/
structure AvailableToolResultCapacity where
  perToolCapTokens : Nat
  remainingTokenAllowance : Nat
  hasCap : 0 < perToolCapTokens
  hasAllowance : 0 < remainingTokenAllowance

inductive ToolResultCapacity where
  | available (capacity : AvailableToolResultCapacity)
  /-- The result could not be represented in the transcript, so the tool must not execute. -/
  | exhausted

structure TurnBudget where
  maxPromptTokens : Nat
  /-- `Math.floor((this.maxPromptTokens * turnShareRatio) / calls)`, by the commands completed and those of the batch.
  The ratio is a floating-point number, and what follows holds for any share. -/
  turnShare : Nat → Nat → Nat

namespace TurnBudget

def perToolCapTokens (budget : TurnBudget) (completedCommandCount batchCommandCount : Nat) : Nat :=
  max 1 (budget.turnShare completedCommandCount batchCommandCount)

def remainingToolAllowance (budget : TurnBudget) (promptTokenCount acceptedToolPromptTokensThisTurn : Nat) : Nat :=
  budget.maxPromptTokens - promptTokenCount - acceptedToolPromptTokensThisTurn

def resolveToolResultCapacity (budget : TurnBudget)
    (promptTokenCount acceptedToolPromptTokensThisTurn completedCommandCount batchCommandCount : Nat) : ToolResultCapacity :=
  let remainingTokenAllowance := budget.remainingToolAllowance promptTokenCount acceptedToolPromptTokensThisTurn
  if remains : remainingTokenAllowance = 0 then .exhausted
  else
    .available {
      perToolCapTokens := budget.perToolCapTokens completedCommandCount batchCommandCount
      remainingTokenAllowance
      hasCap := Nat.lt_of_lt_of_le Nat.one_pos (Nat.le_max_left ..)
      hasAllowance := Nat.pos_of_ne_zero remains }

end TurnBudget

/-! ## Fitting -/

inductive ToolOutputTruncationUnit where
  | lines
  | files
  | results
  | characters
  deriving DecidableEq

def ToolOutputTruncationUnit.text : ToolOutputTruncationUnit → JsString
  | .lines => utf16 "lines"
  | .files => utf16 "files"
  | .results => utf16 "results"
  | .characters => utf16 "characters"

structure FitOptions where
  resultText : JsString
  rawResultText : JsString
  capacity : AvailableToolResultCapacity
  commandSucceededForFitting : Bool
  outputUnit : ToolOutputTruncationUnit
  keep : ToolOutputKeep

namespace FitOptions

def maxResultTokens (options : FitOptions) : Nat :=
  let successBudgetTokens := min options.capacity.perToolCapTokens options.capacity.remainingTokenAllowance
  if options.commandSucceededForFitting then successBudgetTokens
  else min FAILED_COMMAND_TAIL_CAP_TOKENS successBudgetTokens

def fitInput (options : FitOptions) : ToolOutputFitInput where
  headerText := []
  segments := (splitLineEnds options.resultText).filter fun line => !line.isEmpty
  separator := [lineFeed]
  maxTokens := options.maxResultTokens
  unit := options.outputUnit.text
  keep := if options.commandSucceededForFitting then options.keep else .tail

theorem maxResultTokens_pos (options : FitOptions) : 0 < options.maxResultTokens := by
  have cap := options.capacity.hasCap
  have allowance := options.capacity.hasAllowance
  unfold maxResultTokens FAILED_COMMAND_TAIL_CAP_TOKENS
  simp only
  split <;> omega

theorem maxResultTokens_le (options : FitOptions) :
    options.maxResultTokens ≤ min options.capacity.perToolCapTokens options.capacity.remainingTokenAllowance := by
  unfold maxResultTokens
  simp only
  split <;> omega

theorem maxResultTokens_le_failed (options : FitOptions) (failed : options.commandSucceededForFitting = false) :
    options.maxResultTokens ≤ FAILED_COMMAND_TAIL_CAP_TOKENS := by
  simp [maxResultTokens, failed]

end FitOptions

/-- A fitted result with its counts. -/
structure BudgetedResult where
  resultText : JsString
  resultTokenCount : Nat
  fittedReturnedSegmentCount : Option Nat
  rawResultTokenCount : Nat

/-- `fit` of `ToolResultBudgeter`. -/
def fit (countTokens : JsString → Nat) (options : FitOptions) : BudgetedResult :=
  let rawResultTokenCount := countTokens options.rawResultText
  let candidateResultTokenCount := countTokens options.resultText
  if options.maxResultTokens < candidateResultTokenCount then
    let fitResult := fitSegments countTokens options.fitInput
    { resultText := fitResult.visibleText
      resultTokenCount := countTokens fitResult.visibleText
      fittedReturnedSegmentCount := some fitResult.returnedLineCount
      rawResultTokenCount }
  else
    { resultText := options.resultText
      resultTokenCount := candidateResultTokenCount
      fittedReturnedSegmentCount := none
      rawResultTokenCount }

/-! ## Batches -/

/-- A call that ran, as its result is before it is fitted. -/
structure ExecutedToolCall where
  resultText : JsString
  rawResultText : JsString
  commandSucceeded : Bool
  outputUnit : ToolOutputTruncationUnit
  keep : ToolOutputKeep

def ExecutedToolCall.fitOptions (call : ExecutedToolCall) (capacity : AvailableToolResultCapacity) : FitOptions where
  resultText := call.resultText
  rawResultText := call.rawResultText
  capacity
  commandSucceededForFitting := call.commandSucceeded
  outputUnit := call.outputUnit
  keep := call.keep

/-- What is the same for the calls of a batch. -/
structure ToolBatch where
  budget : TurnBudget
  promptTokenCount : Nat
  completedCommandCountAtTurnStart : Nat
  batchCommandCount : Nat

def ToolBatch.capacity (batch : ToolBatch) (acceptedToolPromptTokensThisTurn : Nat) : ToolResultCapacity :=
  batch.budget.resolveToolResultCapacity batch.promptTokenCount acceptedToolPromptTokensThisTurn
    batch.completedCommandCountAtTurnStart batch.batchCommandCount

/-- The tokens that are accepted after a call: an exhausted one is not executed. -/
def processToolAction (countTokens : JsString → Nat) (batch : ToolBatch) (acceptedToolPromptTokensThisTurn : Nat)
    (call : ExecutedToolCall) : Nat :=
  match batch.capacity acceptedToolPromptTokensThisTurn with
  | .exhausted => acceptedToolPromptTokensThisTurn
  | .available capacity => acceptedToolPromptTokensThisTurn + (fit countTokens (call.fitOptions capacity)).resultTokenCount

/-! ## What a fitted result is -/

/-- A notice that so many segments were cut, whether any were or not. -/
def noticeText (options : FitOptions) (truncatedCount : Nat) : JsString :=
  numberText truncatedCount ++ utf16 " " ++ options.outputUnit.text ++ utf16 " truncated due to per-tool context limit."

/-- The notice that is left when nothing is kept. -/
def bareNotice (options : FitOptions) : JsString := noticeText options options.fitInput.segments.length

theorem truncationNotice_eq (options : FitOptions) (truncatedCount : Nat) :
    truncationNotice options.fitInput truncatedCount = if 0 < truncatedCount then [noticeText options truncatedCount] else [] := rfl

/-- The text of a head or a tail: its segments, unless they are blank, and the notice of what was cut. -/
def headText (options : FitOptions) (kept cut : List JsString) : JsString :=
  joinWith [lineFeed] (partOf (joinLines kept) ++ truncationNotice options.fitInput cut.length)

def tailText (options : FitOptions) (kept cut : List JsString) : JsString :=
  joinWith [lineFeed] (truncationNotice options.fitInput cut.length ++ partOf (joinLines kept))

/-- A result that is some of the segments from one end. -/
inductive IsCut (options : FitOptions) (text : JsString) (returnedCount : Nat) : Prop where
  | head (kept cut : List JsString) (isHead : options.fitInput.keep = .head)
      (segments : options.fitInput.segments = kept ++ cut) (returned : kept.length = returnedCount)
      (isText : text = headText options kept cut)
  | tail (kept cut : List JsString) (isTail : options.fitInput.keep = .tail)
      (segments : options.fitInput.segments = cut ++ kept) (returned : kept.length = returnedCount)
      (isText : text = tailText options kept cut)

/-- A result within its budget, and what of the text it was fitted from it has. -/
structure IsFitted (countTokens : JsString → Nat) (options : FitOptions) (result : BudgetedResult) : Prop where
  counted : result.resultTokenCount = countTokens result.resultText
  within : result.resultTokenCount ≤ min options.capacity.perToolCapTokens options.capacity.remainingTokenAllowance
  failed : options.commandSucceededForFitting = false → result.resultTokenCount ≤ FAILED_COMMAND_TAIL_CAP_TOKENS
  unchanged : countTokens options.resultText ≤ options.maxResultTokens →
    result.resultText = options.resultText ∧ result.fittedReturnedSegmentCount = none
  cut : options.maxResultTokens < countTokens options.resultText →
    ∃ returnedCount, result.fittedReturnedSegmentCount = some returnedCount ∧ IsCut options result.resultText returnedCount

/-! ### Trimming -/

abbrev IsWhole (text : JsString) : Prop := Whole isWhiteSpace text

theorem trim_whole {text : JsString} (whole : IsWhole text) : trim text = text := by
  rw [trim, whole.dropWhile_eq, whole.rdropWhile_eq]

theorem isWhole_trim {text : JsString} (present : trim text ≠ []) : IsWhole (trim text) := by
  have start : (trim text).dropWhile isWhiteSpace = trim text := by
    apply (List.dropWhile_suffix isWhiteSpace).eq_of_length_le
    have again := trim_trim text
    -- trimming once more takes nothing off, so its first half does not either
    have bounded := (List.rdropWhile_prefix isWhiteSpace ((trim text).dropWhile isWhiteSpace)).length_le
    have isTrimmed : ((trim text).dropWhile isWhiteSpace).rdropWhile isWhiteSpace = trim text := again
    rw [isTrimmed] at bounded
    exact bounded
  refine ⟨present, start, ?_⟩
  exact List.rdropWhile_idempotent isWhiteSpace _

theorem isWhole_of_mem_partOf {text part : JsString} (member : part ∈ partOf text) : IsWhole part := by
  unfold partOf at member
  split at member
  · cases member
  next present =>
    rw [List.mem_singleton.mp member]
    apply isWhole_trim
    simpa using present

theorem isWhole_noticeText (options : FitOptions) (truncatedCount : Nat) : IsWhole (noticeText options truncatedCount) := by
  have ends : trimEnd (utf16 " truncated due to per-tool context limit.") = utf16 " truncated due to per-tool context limit." := by
    decide +kernel
  have present : utf16 " truncated due to per-tool context limit." ≠ [] := by decide +kernel
  have solid : IsSolid (numberText truncatedCount ++ ([] : JsString)) := solid_numberText truncatedCount List.not_mem_nil
  obtain ⟨first, rest, isNumber, isFirst⟩ := solid.starts
  rw [List.append_nil] at isNumber
  constructor
  · simp [noticeText, isNumber]
  · unfold noticeText
    rw [isNumber, List.cons_append, List.cons_append, List.cons_append, List.dropWhile_cons_of_neg (by simp [isFirst])]
  · exact trimEnd_append_literal _ ends present

theorem isWhole_of_mem_truncationNotice {options : FitOptions} {truncatedCount : Nat} {part : JsString}
    (member : part ∈ truncationNotice options.fitInput truncatedCount) : IsWhole part := by
  rw [truncationNotice_eq] at member
  split at member
  · rw [List.mem_singleton.mp member]
    exact isWhole_noticeText options truncatedCount
  · cases member

theorem trim_joinWith {parts : List JsString} (whole : ∀ part ∈ parts, IsWhole part) :
    trim (joinWith [lineFeed] parts) = joinWith [lineFeed] parts := by
  cases parts with
  | nil => rfl
  | cons part rest => exact trim_whole (Whole.intercalate [lineFeed] (List.cons_ne_nil part rest) whole)

theorem isCut_buildCandidate (options : FitOptions) {count : Nat} (bounded : count ≤ options.fitInput.segments.length) :
    IsCut options (buildCandidate options.fitInput count) count := by
  have header : partOf options.fitInput.headerText = [] := rfl
  have bySeparator : options.fitInput.separator = [lineFeed] := rfl
  let segments := options.fitInput.segments
  cases isKeep : options.fitInput.keep with
  | head =>
    apply IsCut.head (segments.take count) (segments.drop count) isKeep (List.take_append_drop count segments).symm
    · rw [List.length_take]
      exact Nat.min_eq_left bounded
    · unfold buildCandidate headText
      simp only [isKeep, header, List.nil_append, bySeparator]
      rw [List.length_drop]
      apply trim_joinWith
      intro part member
      rcases List.mem_append.mp member with isBody | isNotice
      · exact isWhole_of_mem_partOf isBody
      · exact isWhole_of_mem_truncationNotice isNotice
  | tail =>
    let early := segments.length - count
    apply IsCut.tail (segments.drop early) (segments.take early) isKeep (List.take_append_drop early segments).symm
    · rw [List.length_drop]
      have isTotal : segments.length = options.fitInput.segments.length := rfl
      omega
    · unfold buildCandidate tailText
      simp only [isKeep, header, List.nil_append, bySeparator]
      rw [List.length_take, Nat.min_eq_left (Nat.sub_le _ _)]
      apply trim_joinWith
      intro part member
      rcases List.mem_append.mp member with isNotice | isBody
      · exact isWhole_of_mem_truncationNotice isNotice
      · exact isWhole_of_mem_partOf isBody

theorem buildCandidate_zero (options : FitOptions) (present : options.fitInput.segments ≠ []) :
    buildCandidate options.fitInput 0 = bareNotice options := by
  have header : partOf options.fitInput.headerText = [] := rfl
  have noBody : partOf (joinWith options.fitInput.separator []) = [] := rfl
  have cut : 0 < options.fitInput.segments.length := List.length_pos_iff.mpr present
  have whole := isWhole_noticeText options options.fitInput.segments.length
  have isBare : trim (joinWith options.fitInput.separator [noticeText options options.fitInput.segments.length]) =
      bareNotice options := by
    rw [joinWith, List.intercalate_singleton]
    exact trim_whole whole
  unfold buildCandidate
  cases isKeep : options.fitInput.keep with
  | head =>
    simp only [header, List.take_zero, noBody, List.nil_append, Nat.sub_zero, truncationNotice_eq, if_pos cut]
    exact isBare
  | tail =>
    simp only [header, Nat.sub_zero, List.drop_length, noBody, List.nil_append, List.append_nil, truncationNotice_eq, if_pos cut]
    exact isBare

/-! ## Within the budget -/

section Counter

variable {countTokens : JsString → Nat}

/-- A counter that does not grow when text is removed. -/
def IsMonotone (countTokens : JsString → Nat) : Prop :=
  ∀ {shorter longer : JsString}, shorter.Sublist longer → countTokens shorter ≤ countTokens longer

section

variable (options : FitOptions) (monotone : IsMonotone countTokens)
  (enough : countTokens (bareNotice options) ≤ options.maxResultTokens)

include options monotone enough

theorem fitSegments_within :
    countTokens (fitSegments countTokens options.fitInput).visibleText ≤ options.maxResultTokens := by
  have positive := options.maxResultTokens_pos
  have isMax : options.fitInput.maxTokens = options.maxResultTokens := rfl
  by_cases present : options.fitInput.segments = []
  · -- nothing but blank lines: the result is empty
    have isEmpty : (fitSegments countTokens options.fitInput).visibleText = [] := by
      unfold fitSegments
      simp [present]
      rfl
    rw [isEmpty]
    exact le_trans (monotone (List.nil_sublist _)) enough
  · obtain ⟨mayKeep, isText, _⟩ := @fitSegments_spec countTokens _ present
    rw [isText]
    rcases mayKeep with nothing | ⟨_, all⟩ | ⟨_, some⟩
    · rw [nothing, buildCandidate_zero options present]
      exact enough
    · rw [isMax] at all
      omega
    · unfold truncationTarget at some
      rw [isMax] at some
      omega

theorem isFitted_fit :
    IsFitted countTokens options (fit countTokens options) := by
  have bounded : (fit countTokens options).resultTokenCount ≤ options.maxResultTokens := by
    unfold fit
    simp only
    split
    · exact fitSegments_within options monotone enough
    next fits => exact not_lt.mp fits
  constructor
  · unfold fit
    simp only
    split <;> rfl
  · exact le_trans bounded options.maxResultTokens_le
  · intro failed
    exact le_trans bounded (options.maxResultTokens_le_failed failed)
  · intro fits
    simp [fit, not_lt.mpr fits]
  · intro tooLong
    simp only [fit, tooLong, if_true]
    refine ⟨_, rfl, ?_⟩
    by_cases present : options.fitInput.segments = []
    · -- no segments are a head and a tail of none
      have isResult : fitSegments countTokens options.fitInput = ⟨[], 0, 0, none⟩ := by
        unfold fitSegments
        simp [present]
        rfl
      rw [isResult]
      have isCut := isCut_buildCandidate options (Nat.zero_le _)
      have isNothing : buildCandidate options.fitInput 0 = [] := by
        unfold buildCandidate
        cases options.fitInput.keep <;> simp [present] <;> rfl
      rw [isNothing] at isCut
      exact isCut
    · obtain ⟨_, isText, returned⟩ := @fitSegments_spec countTokens _ present
      rw [isText]
      exact isCut_buildCandidate options returned

end

/-- A call has room for the notice, if its capacity is not exhausted. -/
def HasRoom (countTokens : JsString → Nat) (batch : ToolBatch) (accepted : Nat) (call : ExecutedToolCall) : Prop :=
  ∀ capacity, batch.capacity accepted = .available capacity →
    countTokens (bareNotice (call.fitOptions capacity)) ≤ (call.fitOptions capacity).maxResultTokens

theorem processToolAction_within (monotone : IsMonotone countTokens) (batch : ToolBatch) {accepted : Nat}
    (call : ExecutedToolCall) (room : HasRoom countTokens batch accepted call)
    (within : batch.promptTokenCount + accepted ≤ max batch.promptTokenCount batch.budget.maxPromptTokens) :
    batch.promptTokenCount + processToolAction countTokens batch accepted call ≤
      max batch.promptTokenCount batch.budget.maxPromptTokens := by
  unfold processToolAction
  cases isCapacity : batch.capacity accepted with
  | exhausted => exact within
  | available capacity =>
    have fitted := (isFitted_fit _ monotone (room capacity isCapacity)).within
    have allowance : capacity.remainingTokenAllowance = batch.budget.maxPromptTokens - batch.promptTokenCount - accepted := by
      unfold ToolBatch.capacity TurnBudget.resolveToolResultCapacity at isCapacity
      simp only at isCapacity
      split at isCapacity
      · cases isCapacity
      · cases isCapacity
        rfl
    have isAllowance : (call.fitOptions capacity).capacity.remainingTokenAllowance = capacity.remainingTokenAllowance := rfl
    have positive := capacity.hasAllowance
    simp only
    omega

end Counter

/-! ### Samples -/

/-- Sixty blank lines between two that are not. -/
def spacedOptions : FitOptions where
  resultText := utf16 "a" ++ List.replicate 60 lineFeed ++ utf16 "b"
  rawResultText := []
  capacity := ⟨50, 50, by decide, by decide⟩
  commandSucceededForFitting := true
  outputUnit := .lines
  keep := .head

/-- Two calls that share a prompt of a hundred tokens, of which forty are used. -/
def sharedBatch : ToolBatch where
  budget := ⟨100, fun _ _ => 50⟩
  promptTokenCount := 40
  completedCommandCountAtTurnStart := 0
  batchCommandCount := 2

def sharedCalls : List ExecutedToolCall :=
  [⟨spacedOptions.resultText, [], true, .lines, .head⟩, ⟨utf16 "short", [], true, .lines, .tail⟩]

/-- A result of a head or a tail of the segments that always has a notice. -/
def HasNotice (options : FitOptions) (text : JsString) : Prop :=
  ∃ kept cut, (options.fitInput.segments = kept ++ cut ∧
      text = joinWith [lineFeed] (partOf (joinLines kept) ++ [noticeText options cut.length])) ∨
    (options.fitInput.segments = cut ++ kept ∧
      text = joinWith [lineFeed] ([noticeText options cut.length] ++ partOf (joinLines kept)))

end SiftKit.RepoSearch
