import SiftKit.Assistant.TierUtility

/-! # Views of assertions

`projections/assertion-view.ts`, `assertion-view-builder.ts` and `assertion-sentence.ts`: an assertion with
its references resolved to text, and the one line that says it.
-/

namespace SiftKit.Assistant.Memory

open SiftKit.Failure SiftKit.Graph SiftKit.Json
open SiftKit.Json.Schema (trim)

/-! ## The graph -/

/-- The tables that projections read, with the columns `pinned` and `user_demoted` by the assertion's id. -/
structure MemoryGraph where
  state : GraphState
  pinned : String → Bool
  userDemoted : String → Bool
  graphVersion : Nat
  /-- The primary key of `graph_assertions`. -/
  distinct : (state.assertions.rows.map fun row => row.id).Nodup

structure MemoryPlatform extends TextPlatform where
  toUpperCase : JsString → JsString
  /-- `left.localeCompare(right)`. -/
  localeCompare : JsString → JsString → Int

def OWNER_PERSON_CANONICAL_KEY : String := "person:owner"

/-! ## Views -/

structure AssertionView where
  assertionId : String
  subjectText : JsString
  subjectIsOwner : Bool
  predicate : RelationType
  objectText : JsString
  /-- Empty when the assertion is unscoped. -/
  scopeText : JsString
  status : AssertionStatus
  basis : AssertionBasis
  confidence : ℚ
  sensitivity : Sensitivity
  pinned : Bool
  userDemoted : Bool
  lastObservedAtUtc : String
  validFromUtc : Option String
  validToUtc : Option String
  topicKey : JsString

def AssertionView.isCore (view : AssertionView) : Bool := projectionBehavior view.predicate == .core

/-- Plaintext projections carry `low` and `personal` only. -/
def isProjectableInPlaintext (view : AssertionView) : Bool :=
  view.sensitivity == .low || view.sensitivity == .personal

/-! ### Topic keys -/

/-- `[a-z0-9]`. -/
def isSlugUnit (unit : CodeUnit) : Bool := isDigit unit || (0x61 ≤ unit.toNat && unit.toNat ≤ 0x7A)

/-- `text.replace(/[^a-z0-9]+/g, '-')`, inside such a run or not. -/
def replaceRuns (inside : Bool) : JsString → JsString
  | [] => []
  | unit :: rest =>
    if isSlugUnit unit then unit :: replaceRuns false rest
    else if inside then replaceRuns true rest
    else 0x2D :: replaceRuns true rest

/-- `text.replace(/^-|-$/g, '')`. -/
def stripDashes (text : JsString) : JsString :=
  let front := if text.head? = some 0x2D then text.tail else text
  if front.getLast? = some 0x2D then front.dropLast else front

section

variable (platform : MemoryPlatform)

def toTopicKey (displayName : JsString) : JsString :=
  let slug := stripDashes (replaceRuns false (normalizeAliasText platform.toTextPlatform displayName))
  if slug.isEmpty then utf16 "general" else slug

/-! ### Building -/

/-- The node that a column refers to, null for none. -/
def referencedNode (graph : MemoryGraph) : Option String → Except ErrorMessage (Option NodeRow)
  | none => .ok none
  | some nodeId => (graph.state.requireNode nodeId).map some

/-- The text of the object: a node's name, or the literal. -/
def renderObject (row : AssertionRow) (objectNode : Option NodeRow) : Except ErrorMessage JsString :=
  match objectNode, row.object with
  | some node, _ => .ok node.displayName
  | none, .literal valueType value => normalizeLiteralValue platform.toTextPlatform valueType value
  | none, .node _ => .error (utf16 s!"Assertion {row.id} has a literal object with no value.")

/-- `buildWithNodes`. -/
def buildView (graph : MemoryGraph) (row : AssertionRow) : Except ErrorMessage AssertionView := do
  let subject ← graph.state.requireNode row.subjectNodeId
  let objectNode ← referencedNode graph row.objectNodeId
  let scopeNode ← referencedNode graph row.scopeNodeId
  let objectText ← renderObject platform row objectNode
  return {
    assertionId := row.id
    subjectText := subject.displayName
    subjectIsOwner := subject.canonicalKey == some OWNER_PERSON_CANONICAL_KEY
    predicate := row.predicate
    objectText
    scopeText := (scopeNode.map NodeRow.displayName).getD []
    status := row.status
    basis := row.basis
    confidence := row.confidence
    sensitivity := row.sensitivity
    pinned := graph.pinned row.id
    userDemoted := graph.userDemoted row.id
    lastObservedAtUtc := row.lastObservedAtUtc
    validFromUtc := row.validFromUtc
    validToUtc := row.validToUtc
    topicKey := toTopicKey platform
      (((objectNode.map NodeRow.displayName).or (scopeNode.map NodeRow.displayName)).getD (utf16 "general")) }

/-- `findByCanonicalKey(ownerId, 'person', OWNER_PERSON_CANONICAL_KEY)`. -/
def findOwner (graph : MemoryGraph) : Option NodeRow :=
  graph.state.nodes.rows.find? fun row =>
    row.type == .person && row.canonicalKey == some OWNER_PERSON_CANONICAL_KEY && row.status != .deleted

def LIVE_ASSERTION_STATUSES : List AssertionStatus := [.active, .disputed]

def collectViews (graph : MemoryGraph) : Except ErrorMessage (List AssertionView) :=
  match findOwner graph with
  | none => .ok []
  | some owner => do
    let rows := (graph.state.listByColumn .subject_node_id owner.id LIVE_ASSERTION_STATUSES).filter fun row =>
      projectionBehavior row.predicate != .never_project
    let views ← rows.mapM (buildView platform graph)
    return views.filter isProjectableInPlaintext

/-! ## Order -/

/-- `compareViewsByValue`: pinned first, then explicit over inferred, then confidence, then id. -/
def compareViewsByValue (left right : AssertionView) : Int :=
  if left.userDemoted ≠ right.userDemoted then if left.userDemoted then 1 else -1
  else if left.pinned ≠ right.pinned then if left.pinned then -1 else 1
  else if isExplicitBasis left.basis ≠ isExplicitBasis right.basis then if isExplicitBasis left.basis then -1 else 1
  else if left.confidence ≠ right.confidence then if left.confidence < right.confidence then 1 else -1
  else platform.localeCompare (utf16 left.assertionId) (utf16 right.assertionId)

def sortByValue (views : List AssertionView) : List AssertionView :=
  Tables.orderBy (fun left right => decide (compareViewsByValue platform left right ≤ 0)) views

/-! ## Sentences -/

def predicatePhrase : RelationType → String
  | .OWNS => "owns"
  | .USES => "uses"
  | .PREFERS => "prefers"
  | .DISLIKES => "dislikes"
  | .AVOIDS => "avoids"
  | .WORKS_ON => "works on"
  | .CREATED => "created"
  | .CONTRIBUTED_TO => "contributed to"
  | .EMPLOYED_BY => "is employed by"
  | .HAS_ROLE => "holds the role of"
  | .LOCATED_IN => "is located in"
  | .LIVES_IN => "lives in"
  | .VISITED => "visited"
  | .INTERESTED_IN => "is interested in"
  | .READ => "read"
  | .WATCHED => "watched"
  | .PLAYED => "played"
  | .DRIVES => "drives"
  | .RIDES => "rides"
  | .HAS_GOAL => "has the goal"
  | .HAS_PLAN => "has the plan"
  | .HAS_ROUTINE => "has the routine"
  | .HAS_CONSTRAINT => "has the constraint"
  | .HAS_SETTING => "has the setting"
  | .HAS_COMPONENT => "has the component"
  | .RUNS_ON => "runs on"
  | .DEPENDS_ON => "depends on"
  | .CONFIGURED_WITH => "is configured with"
  | .COMPARED_WITH => "was compared with"
  | .TESTED_WITH => "was tested with"
  | .RESULTED_IN => "resulted in"
  | .CAUSED_BY => "was caused by"
  | .RELATED_TO => "is related to"
  | .PART_OF => "is part of"
  | .ABOUT => "is about"
  | .MENTIONED_IN => "was mentioned in"
  | .OBSERVED_DURING => "was observed during"
  | .ASKED_ABOUT => "asked about"

def capitalize : JsString → JsString
  | [] => []
  | first :: rest => platform.toUpperCase [first] ++ rest

/-- `confidence.toFixed(2)`. -/
def formatConfidence (confidence : ℚ) : JsString :=
  let hundredths := (confidence * 100 + 1 / 2).floor.toNat
  utf16 s!"{hundredths / 100}.{hundredths / 10 % 10}{hundredths % 10}"

def citation (assertionId : String) : JsString := utf16 s!"[M:{assertionId}]"

/-- `renderAssertionSentence`: the memory id is part of the line. -/
def renderAssertionSentence (input : AssertionView) : JsString :=
  let phrase := utf16 (predicatePhrase input.predicate)
  let subject := if input.subjectIsOwner then [] else input.subjectText ++ utf16 " "
  let plain := subject ++ phrase ++ utf16 " " ++ input.objectText
  let inScope := if (trim input.scopeText).isEmpty then plain else plain ++ utf16 ", for " ++ input.scopeText
  if input.status = .disputed then
    utf16 "- Disputed: " ++ inScope ++ utf16 ". Confidence " ++ formatConfidence input.confidence ++ utf16 ". " ++
      citation input.assertionId
  else if !isExplicitBasis input.basis then
    utf16 "- Inferred, not confirmed: " ++ inScope ++ utf16 ". Confidence " ++ formatConfidence input.confidence ++
      utf16 ". " ++ citation input.assertionId
  else utf16 "- " ++ capitalize platform inScope ++ utf16 ". " ++ citation input.assertionId

theorem citation_infix_renderAssertionSentence (input : AssertionView) :
    citation input.assertionId <:+: renderAssertionSentence platform input := by
  unfold renderAssertionSentence
  simp only
  split
  · exact List.IsSuffix.isInfix (List.suffix_append _ _)
  · split
    · exact List.IsSuffix.isInfix (List.suffix_append _ _)
    · exact List.IsSuffix.isInfix (List.suffix_append _ _)

/-! ## Topic keys hold no slash -/

theorem mem_replaceRuns {inside : Bool} {text : JsString} {unit : CodeUnit} (member : unit ∈ replaceRuns inside text) :
    isSlugUnit unit = true ∨ unit = 0x2D := by
  induction text generalizing inside with
  | nil => cases member
  | cons first rest ih =>
    unfold replaceRuns at member
    split at member
    next isSlug =>
      rcases List.mem_cons.mp member with rfl | later
      · exact .inl isSlug
      · exact ih later
    · split at member
      · exact ih member
      · rcases List.mem_cons.mp member with rfl | later
        · exact .inr rfl
        · exact ih later

theorem mem_of_mem_stripDashes {text : JsString} {unit : CodeUnit} (member : unit ∈ stripDashes text) : unit ∈ text := by
  unfold stripDashes at member
  simp only at member
  generalize isFront : (if text.head? = some 0x2D then text.tail else text) = front at member
  have kept : ∀ other ∈ front, other ∈ text := by
    rw [← isFront]
    split
    · exact fun other isTail => List.mem_of_mem_tail isTail
    · exact fun other same => same
  split at member
  · exact kept unit (List.mem_of_mem_dropLast member)
  · exact kept unit member

theorem slash_not_mem_toTopicKey (displayName : JsString) : (0x2F : CodeUnit) ∉ toTopicKey platform displayName := by
  intro isSlash
  unfold toTopicKey at isSlash
  simp only at isSlash
  split at isSlash
  · revert isSlash
    decide +kernel
  · rcases mem_replaceRuns (mem_of_mem_stripDashes isSlash) with isSlug | isDash
    · revert isSlug
      decide
    · revert isDash
      decide

end

end SiftKit.Assistant.Memory
