import SiftKit.LlmProtocol.StreamProjection

/-! # Live content

`live-content-classifier.ts`: a model's answer is classified while it arrives, and once more when it is complete.
-/

namespace SiftKit.LlmProtocol

open SiftKit.Json SiftKit.Replacement

structure LiveContentSnapshot where
  classification : Classification
  rawText : JsString
  narrationText : JsString
deriving DecidableEq

structure LiveContentClassifier where
  rawText : JsString
  nativeToolBoundary : Option Nat

namespace LiveContentClassifier

def new : LiveContentClassifier := ⟨[], none⟩

def snapshot (classifier : LiveContentClassifier) (classification : Classification) (narrationText : JsString) :
    LiveContentSnapshot := ⟨classification, classifier.rawText, narrationText⟩

def observeContent (classifier : LiveContentClassifier) (accumulatedContent : JsString) :
    LiveContentClassifier × LiveContentSnapshot :=
  let observed := { classifier with rawText := accumulatedContent }
  match observed.nativeToolBoundary with
  | some boundary =>
    let visibleText := accumulatedContent.take boundary
    (observed, observed.snapshot .toolControl (projectStreamText visibleText).narrationText)
  | none =>
    let projection := projectStreamText accumulatedContent
    (observed, observed.snapshot projection.classification projection.narrationText)

def observeNativeToolCall (classifier : LiveContentClassifier) : LiveContentClassifier × LiveContentSnapshot :=
  let observed := { classifier with nativeToolBoundary := some classifier.rawText.length }
  (observed, observed.snapshot .toolControl (projectStreamText observed.rawText).narrationText)

def finish (classifier : LiveContentClassifier) : LiveContentSnapshot :=
  let projection := projectStreamText classifier.rawText
  match classifier.nativeToolBoundary with
  | some boundary =>
    let visibleText := classifier.rawText.take boundary
    classifier.snapshot .toolControl (projectStreamText visibleText).narrationText
  | none =>
    if projection.classification = .undecided then classifier.snapshot .undecided []
    else classifier.snapshot projection.classification projection.narrationText

/-- One observation after another, with what each has returned. -/
def observeAll (classifier : LiveContentClassifier) : List JsString → LiveContentClassifier × List LiveContentSnapshot
  | [] => (classifier, [])
  | content :: rest =>
    let observed := classifier.observeContent content
    let later := observed.1.observeAll rest
    (later.1, observed.2 :: later.2)

end LiveContentClassifier

open LiveContentClassifier

/-! ## Without native tool calls -/

/-- What an observation returns as long as there is no native tool call. -/
def projected (content : JsString) : LiveContentSnapshot :=
  ⟨(projectStreamText content).classification, content, (projectStreamText content).narrationText⟩

section

variable {classifier : LiveContentClassifier} (noBoundary : classifier.nativeToolBoundary = none)

include noBoundary

theorem observeContent_of_none (content : JsString) : classifier.observeContent content = (⟨content, none⟩, projected content) := by
  obtain ⟨rawText, boundary⟩ := classifier
  obtain rfl : boundary = none := noBoundary
  rfl

theorem observeAll_of_none (contents : List JsString) :
    classifier.observeAll contents = (⟨contents.getLastD classifier.rawText, none⟩, contents.map projected) := by
  induction contents generalizing classifier with
  | nil =>
    obtain ⟨rawText, boundary⟩ := classifier
    obtain rfl : boundary = none := noBoundary
    rfl
  | cons content rest ih =>
    rw [observeAll, observeContent_of_none noBoundary]
    simp [@ih ⟨content, none⟩ rfl, List.getLast?_cons]

end

/-! ## While the text grows -/

/-- Of every text that arrives in growing prefixes, what is shown of one is shown of every later one, unless the
earlier ends in an empty inline code that a third backtick makes a fence.  Nothing that is shown reaches the beginning of
a tag that stands outside of the markdown code of the complete text. -/
theorem narrations_grow_without_tags (text : JsString) (contents : List JsString) (growing : contents.Pairwise (· <+: ·))
    (ofText : ∀ content ∈ contents, content <+: text) :
    (new.observeAll contents).2.Pairwise (fun earlier later =>
        earlier.narrationText <+: later.narrationText ∨ ReopensCode earlier.rawText later.rawText) ∧
      ∀ snapshot ∈ (new.observeAll contents).2, snapshot.narrationText <+: text ∧
        ∀ index, BareTag text (scanMarkdownCode text).regions index → snapshot.narrationText.length ≤ index := by
  rw [observeAll_of_none rfl]
  constructor
  · rw [List.pairwise_map]
    apply growing.imp
    rintro earlier _ ⟨more, rfl⟩
    exact narrationText_append earlier more
  · intro snapshot member
    obtain ⟨content, isContent, rfl⟩ := List.mem_map.mp member
    obtain ⟨more, rfl⟩ := ofText content isContent
    refine ⟨( narrationText_prefix content).trans (List.prefix_append content more), ?_⟩
    intro index bare
    exact narrationText_length_le_bareTag bare

/-- A draft that goes on with a tool call. -/
theorem draft_stays_without_tag :
    (new.observeAll [utf16 "Draft <", utf16 "Draft <tool_call>"]).2.Pairwise (fun earlier later =>
        earlier.narrationText <+: later.narrationText ∨ ReopensCode earlier.rawText later.rawText) ∧
      ∀ snapshot ∈ (new.observeAll [utf16 "Draft <", utf16 "Draft <tool_call>"]).2,
        snapshot.narrationText <+: utf16 "Draft <tool_call>" ∧
          ∀ index, BareTag (utf16 "Draft <tool_call>") (scanMarkdownCode (utf16 "Draft <tool_call>")).regions index →
            snapshot.narrationText.length ≤ index :=
  narrations_grow_without_tags (utf16 "Draft <tool_call>") [utf16 "Draft <", utf16 "Draft <tool_call>"]
    (by decide +kernel) (by decide +kernel)

/-- Two backticks are shown until a third one comes; and what is shown may end with what begins a tag, if no tag can
come of it. -/
theorem backticks_are_retracted :
    ¬ ((new.observeAll [utf16 "``", utf16 "```"]).2.Pairwise fun earlier later =>
        earlier.narrationText <+: later.narrationText) ∧
      (new.observeAll [utf16 "a<<"]).2.map (·.narrationText) = [utf16 "a<"] ∧
      ¬ isInsideCodeRegion (scanMarkdownCode (utf16 "a<<")).regions 1 ∧ utf16 "<" <+: toolCallOpenTag := by
  decide +kernel

/-! ## At the end -/

/-- Nothing of the text waits for more: no code is open, and its end is not the beginning of a tag outside of code. -/
def NothingPending (text : JsString) : Prop :=
  (scanMarkdownCode text).incompleteStart = none ∧ ∀ start, ¬ EndsInTagPrefix text (scanMarkdownCode text).regions start

theorem trailing_eq_zero_iff {text : JsString} (noTag : ∀ index, ¬ OccursAt text toolCallOpenTag index)
    (regions : List CodeRegion) :
    getTrailingOpenTagPrefixLength text regions = 0 ↔ ∀ start, ¬ EndsInTagPrefix text regions start := by
  constructor
  · intro isZero start ends
    have short : text.length < start + 11 := by
      -- the end of the text would be the whole tag
      by_contra long
      have sameLength : toolCallOpenTag.length ≤ (text.drop start).length := by
        rw [List.length_drop, toolCallOpenTag_length]
        omega
      apply noTag start
      rw [OccursAt, ends.2.2.eq_of_length_le sameLength]
    have stops := trailing_longest ends short
    have before := ends.1
    omega
  · intro never
    by_contra notZero
    exact never _ (trailing_ends (Nat.pos_of_ne_zero notZero))

end SiftKit.LlmProtocol
