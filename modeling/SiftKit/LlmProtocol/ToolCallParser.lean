import SiftKit.Foundation.Replacement
import SiftKit.Json.Text

/-! # Tool calls in streamed text

`tool-call-parser.ts`: which parts of a text are markdown code, and how much of a text may be shown while it is
still growing.  A tag in markdown code is a quoted example; outside of it, it begins a tool call.
-/

namespace SiftKit.LlmProtocol

open SiftKit.Json SiftKit.Replacement

/-! ## Markdown code -/

def toolCallOpenTag : JsString := utf16 "<tool_call>"

def inlineMark : JsString := [0x60]

def fenceMark : JsString := [0x60, 0x60, 0x60]

def newline : JsString := [0x0A]

structure CodeRegion where
  start : Nat
  stop : Nat
deriving DecidableEq

def CodeRegion.covers (region : CodeRegion) (index : Nat) : Bool := region.start ≤ index && index < region.stop

structure MarkdownCodeScan where
  regions : List CodeRegion
  incompleteStart : Option Nat

/-- How the scan goes on after one round of its loop. -/
inductive CodeStep where
  | done (incompleteStart : Option Nat)
  | region (start stop : Nat)
  | skip (next : Nat)

/-- The rest of the round, once a backtick is found. -/
def codeAt (text : JsString) (start : Nat) : CodeStep :=
  if fenceMark.isPrefixOf (text.drop start) then
    match indexOfFrom text fenceMark (start + 3) with
    | none => .done (some start)
    | some close => .region start (close + 3)
  else
    match indexOfFrom text inlineMark (start + 1), indexOfFrom text newline (start + 1) with
    | none, none => .done (some start)
    | none, some lineEnd => .skip (lineEnd + 1)
    | some close, none => .region start (close + 1)
    | some close, some lineEnd => if lineEnd < close then .skip (lineEnd + 1) else .region start (close + 1)

def scanStep (text : JsString) (index : Nat) : CodeStep :=
  match indexOfFrom text inlineMark index with
  | none => .done none
  | some start => codeAt text start

theorem inlineMark_ne_nil : inlineMark ≠ [] := List.cons_ne_nil _ _

theorem fenceMark_ne_nil : fenceMark ≠ [] := List.cons_ne_nil _ _

theorem newline_ne_nil : newline ≠ [] := List.cons_ne_nil _ _

/-- What a round does begins at its backtick and ends behind it. -/
def CodeStep.From (text : JsString) (start : Nat) : CodeStep → Prop
  | .done incompleteStart => incompleteStart = some start
  | .region first stop => first = start ∧ start + 2 ≤ stop ∧ stop ≤ text.length
  | .skip next => start + 2 ≤ next ∧ next ≤ text.length

theorem codeAt_from (text : JsString) (start : Nat) : (codeAt text start).From text start := by
  unfold codeAt
  split
  · split
    next => rfl
    next close found =>
      obtain ⟨after, occurs, _⟩ := (indexOfFrom_eq_some_iff fenceMark_ne_nil).mp found
      have bound : close + 3 ≤ text.length := occurs.bound fenceMark_ne_nil
      exact ⟨rfl, by omega, bound⟩
  · have found_within : ∀ mark : CodeUnit, ∀ position, indexOfFrom text [mark] (start + 1) = some position →
        start + 1 ≤ position ∧ position + 1 ≤ text.length := by
      intro mark position found
      obtain ⟨after, occurs, _⟩ := (indexOfFrom_eq_some_iff (List.cons_ne_nil mark [])).mp found
      exact ⟨after, occurs.bound (List.cons_ne_nil mark [])⟩
    split
    next => rfl
    next lineEnd _ found =>
      obtain ⟨after, bound⟩ := found_within _ _ found
      exact ⟨by omega, bound⟩
    next close found _ =>
      obtain ⟨after, bound⟩ := found_within _ _ found
      exact ⟨rfl, by omega, bound⟩
    next close lineEnd found foundEnd =>
      obtain ⟨after, bound⟩ := found_within _ _ found
      obtain ⟨afterEnd, boundEnd⟩ := found_within _ _ foundEnd
      split
      · exact ⟨by omega, boundEnd⟩
      · exact ⟨rfl, by omega, bound⟩

variable {text : JsString}

theorem scanStep_region {index start stop : Nat} (isStep : scanStep text index = .region start stop) :
    index ≤ start ∧ start + 2 ≤ stop ∧ stop ≤ text.length := by
  unfold scanStep at isStep
  split at isStep
  next => cases isStep
  next first found =>
    have isFrom := codeAt_from text first
    rw [isStep] at isFrom
    obtain ⟨rfl, wide, bound⟩ := isFrom
    exact ⟨((indexOfFrom_eq_some_iff inlineMark_ne_nil).mp found).1, wide, bound⟩

theorem scanStep_skip {index next : Nat} (isStep : scanStep text index = .skip next) :
    index + 2 ≤ next ∧ next ≤ text.length := by
  unfold scanStep at isStep
  split at isStep
  next => cases isStep
  next first found =>
    have isFrom := codeAt_from text first
    rw [isStep] at isFrom
    have after := ((indexOfFrom_eq_some_iff inlineMark_ne_nil).mp found).1
    exact ⟨by have := isFrom.1; omega, isFrom.2⟩

theorem scanStep_done {index start : Nat} (isStep : scanStep text index = .done (some start)) :
    index ≤ start ∧ OccursAt text inlineMark start := by
  unfold scanStep at isStep
  split at isStep
  next => cases isStep
  next first found =>
    have isFrom := codeAt_from text first
    rw [isStep] at isFrom
    obtain rfl : start = first := Option.some.inj isFrom
    obtain ⟨after, occurs, _⟩ := (indexOfFrom_eq_some_iff inlineMark_ne_nil).mp found
    exact ⟨after, occurs⟩

/-- The loop of `scanMarkdownCode` from an index on. -/
def scanMarkdownFrom (text : JsString) (index : Nat) : MarkdownCodeScan :=
  if inside : index < text.length then
    match isStep : scanStep text index with
    | .done incompleteStart => ⟨[], incompleteStart⟩
    | .region start stop =>
      have forward : text.length - stop < text.length - index := by
        have wide := scanStep_region isStep
        omega
      let rest := scanMarkdownFrom text stop
      ⟨⟨start, stop⟩ :: rest.regions, rest.incompleteStart⟩
    | .skip next =>
      have forward : text.length - next < text.length - index := by
        have wide := scanStep_skip isStep
        omega
      scanMarkdownFrom text next
  else ⟨[], none⟩
termination_by text.length - index

def scanMarkdownCode (text : JsString) : MarkdownCodeScan := scanMarkdownFrom text 0

def isInsideCodeRegion (regions : List CodeRegion) (index : Nat) : Bool := regions.any fun region => region.covers index

/-! ## Tags -/

theorem toolCallOpenTag_ne_nil : toolCallOpenTag ≠ [] := by decide +kernel

/-- The loop of `findBareOpenTag` from an index on. -/
def findBareOpenTagFrom (text : JsString) (regions : List CodeRegion) (start : Nat) : Option Nat :=
  match found : indexOfFrom text toolCallOpenTag start with
  | none => none
  | some index =>
    have forward : text.length - (index + 1) < text.length - start := by
      obtain ⟨after, occurs, _⟩ := (indexOfFrom_eq_some_iff toolCallOpenTag_ne_nil).mp found
      have bound := occurs.bound toolCallOpenTag_ne_nil
      have positive : 0 < toolCallOpenTag.length := List.length_pos_iff.mpr toolCallOpenTag_ne_nil
      omega
    if isInsideCodeRegion regions index then findBareOpenTagFrom text regions (index + 1) else some index
termination_by text.length - start

def findBareOpenTag (text : JsString) (regions : List CodeRegion) : Option Nat := findBareOpenTagFrom text regions 0

/-- The text ends with so many units of the tag, outside of markdown code. -/
def endsWithTagPrefix (text : JsString) (regions : List CodeRegion) (length : Nat) : Bool :=
  let start := text.length - length
  !isInsideCodeRegion regions start && (text.drop start).isPrefixOf toolCallOpenTag

/-- The loop of `getTrailingOpenTagPrefixLength` from a length down. -/
def trailingPrefixFrom (text : JsString) (regions : List CodeRegion) : Nat → Nat
  | 0 => 0
  | length + 1 => if endsWithTagPrefix text regions (length + 1) then length + 1 else trailingPrefixFrom text regions length

def getTrailingOpenTagPrefixLength (text : JsString) (regions : List CodeRegion) : Nat :=
  trailingPrefixFrom text regions (min text.length (toolCallOpenTag.length - 1))

/-! ## What may be shown -/

inductive Classification where
  | undecided
  | narration
  | toolControl
deriving DecidableEq

structure TextToolCallProjection where
  classification : Classification
  narrationText : JsString

/-- A text without what may be the beginning of a tag at its end. -/
def withoutTagPrefix (text : JsString) (regions : List CodeRegion) : JsString :=
  text.take (text.length - getTrailingOpenTagPrefixLength text regions)

def projectStreamText (text : JsString) : TextToolCallProjection :=
  if text.isEmpty then ⟨.undecided, []⟩
  else
    let markdown := scanMarkdownCode text
    let bareOpenTagIndex := findBareOpenTag text markdown.regions
    match markdown.incompleteStart, bareOpenTagIndex with
    | some incompleteStart, none => ⟨.undecided, withoutTagPrefix (text.take incompleteStart) markdown.regions⟩
    | some incompleteStart, some openTag =>
      if incompleteStart < openTag then ⟨.undecided, withoutTagPrefix (text.take incompleteStart) markdown.regions⟩
      else ⟨.toolControl, text.take openTag⟩
    | none, some openTag => ⟨.toolControl, text.take openTag⟩
    | none, none =>
      if 0 < getTrailingOpenTagPrefixLength text markdown.regions then
        ⟨.undecided, withoutTagPrefix text markdown.regions⟩
      else ⟨.narration, text⟩

end SiftKit.LlmProtocol
