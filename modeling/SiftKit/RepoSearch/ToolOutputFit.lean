import SiftKit.Foundation.Ranges
import SiftKit.Foundation.Tables
import SiftKit.RepoSearch.RepetitionGuard

/-! # Fitting tool output

`tool-output-fit.ts`: the segments of a result are kept from one end, as many as a search finds to fit.
-/

namespace SiftKit.RepoSearch

open SiftKit.Json
open SiftKit.Json.Schema (isWhiteSpace trim)
open SiftKit.Ranges

inductive ToolOutputKeep where
  | head
  | tail
  deriving DecidableEq

structure ToolOutputFitInput where
  headerText : JsString
  segments : List JsString
  separator : JsString
  maxTokens : Nat
  unit : JsString
  keep : ToolOutputKeep

structure ToolOutputFitResult where
  visibleText : JsString
  returnedLineCount : Nat
  truncatedLineCount : Nat
  truncationReason : Option JsString

/-- `parts.join(separator)`. -/
def joinWith (separator : JsString) (parts : List JsString) : JsString := separator.intercalate parts

/-- `N lines truncated due to per-tool context limit.` -/
def truncationNotice (input : ToolOutputFitInput) (truncatedCount : Nat) : List JsString :=
  if 0 < truncatedCount then
    [numberText truncatedCount ++ utf16 " " ++ input.unit ++ utf16 " truncated due to per-tool context limit."]
  else []

/-- A part is left out when it is blank. -/
def partOf (text : JsString) : List JsString := if (trim text).isEmpty then [] else [trim text]

def buildCandidate (input : ToolOutputFitInput) (segmentCount : Nat) : JsString :=
  let total := input.segments.length
  let notice := truncationNotice input (total - segmentCount)
  let parts := match input.keep with
    | .tail => notice ++ partOf (joinWith input.separator (input.segments.drop (total - segmentCount)))
    | .head => partOf (joinWith input.separator (input.segments.take segmentCount)) ++ notice
  trim (joinWith input.separator (partOf input.headerText ++ parts))

def searchFitting (fits : Nat → Bool) (low high : Int) (bestCount : Nat) : Nat :=
  if low ≤ high then
    let mid := (low + high) / 2
    if fits mid.toNat then searchFitting fits (mid + 1) high mid.toNat
    else searchFitting fits low (mid - 1) bestCount
  else bestCount
termination_by (high + 1 - low).toNat

/-- The tokens that a truncated result may take. -/
def truncationTarget (maxTokens : Nat) : Nat := max 1 (max 1 maxTokens / 2)

def fitSegments (countToolOutputTokens : JsString → Nat) (input : ToolOutputFitInput) : ToolOutputFitResult :=
  let maxTokens := max 1 input.maxTokens
  let totalCount := input.segments.length
  if totalCount = 0 then
    { visibleText := trim input.headerText, returnedLineCount := 0, truncatedLineCount := 0, truncationReason := none }
  else if countToolOutputTokens (buildCandidate input totalCount) ≤ maxTokens then
    { visibleText := buildCandidate input totalCount
      returnedLineCount := totalCount
      truncatedLineCount := 0
      truncationReason := none }
  else
    let fits (count : Nat) : Bool :=
      decide (countToolOutputTokens (buildCandidate input count) ≤ truncationTarget input.maxTokens)
    let bestCount := searchFitting fits 0 totalCount 0
    { visibleText := buildCandidate input bestCount
      returnedLineCount := bestCount
      truncatedLineCount := totalCount - bestCount
      truncationReason := some (utf16 "per-tool context limit") }

/-! ## What the search finds -/

theorem searchFitting_spec {fits : Nat → Bool} {low high : Int} {bestCount : Nat} :
    (searchFitting fits low high bestCount = bestCount) ∨
      (fits (searchFitting fits low high bestCount) = true ∧ (searchFitting fits low high bestCount : Int) ≤ max high 0) := by
  fun_induction searchFitting fits low high bestCount with
  | case1 low high bestCount inRange mid isFitting ih =>
    rcases ih with same | found
    · right
      rw [same]
      refine ⟨isFitting, ?_⟩
      omega
    · exact .inr found
  | case2 low high bestCount inRange mid notFitting ih =>
    rcases ih with same | found
    · exact .inl same
    · right
      refine ⟨found.1, ?_⟩
      have bound := found.2
      omega
  | case3 => exact .inl rfl

/-- The counts that a fit may return: nothing, everything if that fits, or what fits the target. -/
def MayKeep (countToolOutputTokens : JsString → Nat) (input : ToolOutputFitInput) (count : Nat) : Prop :=
  count = 0 ∨
    count = input.segments.length ∧ countToolOutputTokens (buildCandidate input count) ≤ max 1 input.maxTokens ∨
    count ≤ input.segments.length ∧
      countToolOutputTokens (buildCandidate input count) ≤ truncationTarget input.maxTokens

theorem fitSegments_spec {countToolOutputTokens : JsString → Nat} {input : ToolOutputFitInput}
    (present : input.segments ≠ []) :
    let result := fitSegments countToolOutputTokens input
    MayKeep countToolOutputTokens input result.returnedLineCount ∧
      result.visibleText = buildCandidate input result.returnedLineCount ∧
      result.returnedLineCount ≤ input.segments.length := by
  intro result
  have counted : input.segments.length ≠ 0 := by simpa using present
  have isResult : result = fitSegments countToolOutputTokens input := rfl
  unfold fitSegments at isResult
  simp only [counted, if_false] at isResult
  split at isResult
  next allFit =>
    rw [isResult]
    simp [MayKeep, allFit]
  next someOmitted =>
    rw [isResult]
    simp only
    rcases @searchFitting_spec
      (fun count => decide (countToolOutputTokens (buildCandidate input count) ≤ truncationTarget input.maxTokens))
      0 input.segments.length 0 with nothing | ⟨fits, bounded⟩
    · simp [nothing, MayKeep]
    · have within := bounded
      simp only [Int.natCast_nonneg, sup_of_le_left, Nat.cast_le] at within
      have isFitting : MayKeep countToolOutputTokens input _ := .inr (.inr ⟨within, by simpa using fits⟩)
      simp [isFitting, within]

/-! ## Unread lines -/

abbrev ReadRange := Range Nat

structure UnreadRangeResult where
  hasUnread : Bool
  start : Nat
  stop : Nat
  deriving DecidableEq

def findContiguousUnreadRange (requestedStart totalEnd : Nat) (returnedRanges : List ReadRange) : UnreadRangeResult :=
  let totalEnd := max 1 totalEnd
  let ranges := Tables.orderBy (fun left right : ReadRange =>
      decide (left.start < right.start ∨ left.start = right.start ∧ left.stop ≤ right.stop))
    ((returnedRanges.map fun range : ReadRange => ⟨max 1 range.start, max 1 range.stop⟩).filter fun range =>
      decide (range.start < range.stop))
  let start := advance (max 1 requestedStart) ranges
  if totalEnd ≤ start then { hasUnread := false, start := totalEnd, stop := totalEnd }
  else
    let nextRange := ranges.find? fun range => decide (start < range.start)
    let stop := min totalEnd ((nextRange.map Range.start).getD totalEnd)
    if stop ≤ start then { hasUnread := false, start, stop := start } else { hasUnread := true, start, stop }

theorem findContiguousUnreadRange_spec {requestedStart totalEnd : Nat} (returnedRanges : List ReadRange)
    (positive : 1 ≤ requestedStart) :
    let result := findContiguousUnreadRange requestedStart totalEnd returnedRanges
    (∀ line, requestedStart ≤ line → line < result.start → Covers returnedRanges line) ∧
      (result.hasUnread = false → ∀ line, requestedStart ≤ line → line < totalEnd → Covers returnedRanges line) ∧
      (result.hasUnread = true → requestedStart ≤ result.start ∧ result.start < result.stop ∧ result.stop ≤ max 1 totalEnd) := by
  intro result
  let ranges := Tables.orderBy (fun left right : ReadRange =>
      decide (left.start < right.start ∨ left.start = right.start ∧ left.stop ≤ right.stop))
    ((returnedRanges.map fun range : ReadRange => (⟨max 1 range.start, max 1 range.stop⟩ : ReadRange)).filter fun range =>
      decide (range.start < range.stop))
  let start := advance (max 1 requestedStart) ranges
  have isRequested : max 1 requestedStart = requestedStart := by omega
  -- what is passed is in one of the ranges as they were recorded
  have passed : ∀ line, requestedStart ≤ line → line < start → Covers returnedRanges line := by
    intro line fromStart before
    have covered : Covers ranges line := covers_of_advance (by rw [isRequested]; exact fromStart) before
    obtain ⟨range, member, within⟩ := covers_filter.mp ((Covers.perm (Tables.perm_orderBy _ _)).mp covered)
    obtain ⟨recorded, isRecorded, rfl⟩ := List.mem_map.mp member
    refine ⟨recorded, isRecorded, ?_⟩
    unfold Range.Contains at within ⊢
    simp only at within
    omega
  have isResult : result = if max 1 totalEnd ≤ start then ⟨false, max 1 totalEnd, max 1 totalEnd⟩
      else
        let stop := min (max 1 totalEnd)
          (((ranges.find? fun range => decide (start < range.start)).map Range.start).getD (max 1 totalEnd))
        if stop ≤ start then ⟨false, start, start⟩ else ⟨true, start, stop⟩ := rfl
  have moved : requestedStart ≤ start := by
    have grows := le_advance (max 1 requestedStart) ranges
    omega
  split at isResult
  next exhausted =>
    rw [isResult]
    refine ⟨?_, ?_, by simp⟩
    · intro line fromStart before
      exact passed line fromStart (lt_of_lt_of_le before exhausted)
    · intro _ line fromStart before
      exact passed line fromStart (by omega)
  next unfinished =>
    -- the next range starts after the point that was moved
    have later : start < min (max 1 totalEnd)
        (((ranges.find? fun range => decide (start < range.start)).map Range.start).getD (max 1 totalEnd)) := by
      cases found : ranges.find? fun range => decide (start < range.start) with
      | none =>
        simp only [Option.map_none, Option.getD_none]
        omega
      | some next =>
        have after : start < next.start := by simpa using List.find?_some found
        simp only [Option.map_some, Option.getD_some]
        omega
    simp only [not_le.mpr later, if_false] at isResult
    rw [isResult]
    exact ⟨passed, by simp, fun _ => ⟨moved, later, Nat.min_le_left _ _⟩⟩

end SiftKit.RepoSearch
