import SiftKit.Assistant.AssertionViews
import SiftKit.Foundation.OrderedMap

/-! # Compiled documents

`projections/token-limit-enforcer.ts`, `profile-compiler.ts`, `dossier-compiler.ts` and `archive-planner.ts`.
The token counter is a function of the text.
-/

namespace SiftKit.Assistant.Memory

open SiftKit.Failure SiftKit.Graph SiftKit.Json SiftKit.Tables

/-! ## Tokens -/

structure TokenCount where
  tokenCount : Nat
  tokenizerId : JsString

def tierTokenLimit : Tier → Nat
  | .tier1 => 10000
  | .tier2 => 50000
  | .tier3 => 10000

/-- `lines.join('\n')`. -/
def joinLines (lines : List JsString) : JsString := [0x0A].intercalate lines

/-- `line.startsWith('- ')`. -/
def isListItem (line : JsString) : Bool := (utf16 "- ").isPrefixOf line

/-- The places of the list items. -/
def citedIndices (lines : List JsString) : List Nat :=
  (lines.zipIdx.filter fun entry => isListItem entry.1).map Prod.snd

/-- The lines without the last list items. -/
def keptLines (lines : List JsString) (dropped : Nat) : List JsString :=
  let removed := (citedIndices lines).drop ((citedIndices lines).length - dropped)
  (lines.zipIdx.filter fun entry => !removed.contains entry.2).map Prod.fst

def bodyFor (lines : List JsString) (dropped : Nat) : JsString :=
  if dropped = 0 then joinLines lines else joinLines (keptLines lines dropped)

/-- The search for the least number of dropped lines that fits. -/
def searchDropped (fits : Nat → Bool) (low high : Int) (dropped : Nat) : Nat :=
  if low ≤ high then
    let mid := (low + high) / 2
    if fits mid.toNat then searchDropped fits low (mid - 1) mid.toNat
    else searchDropped fits (mid + 1) high dropped
  else dropped
termination_by (high + 1 - low).toNat

structure EnforcedBody where
  body : JsString
  droppedLines : Nat

section

variable (count : JsString → TokenCount)

def enforce (lines : List JsString) (tokenLimit : Nat) : EnforcedBody :=
  let fits (dropped : Nat) : Bool := decide ((count (bodyFor lines dropped)).tokenCount ≤ tokenLimit)
  if fits 0 then { body := bodyFor lines 0, droppedLines := 0 }
  else if (citedIndices lines).isEmpty then { body := bodyFor lines 0, droppedLines := 0 }
  else
    let dropped := searchDropped fits 1 (citedIndices lines).length (citedIndices lines).length
    { body := bodyFor lines dropped, droppedLines := dropped }

/-! ## Documents -/

structure CompiledDocument where
  tier : Tier
  topicKey : JsString
  title : JsString
  body : JsString
  includedAssertionIds : List String
  omittedAssertionCount : Int
  sensitivity : Sensitivity
  tokenCount : Nat
  tokenizerId : JsString

/-- `body.includes('[M:…]')`. -/
def isCited (body : JsString) (assertionId : String) : Bool := decide (citation assertionId <:+: body)

/-- `['…'].sort()`: by code units. -/
def sortTexts (texts : List JsString) : List JsString := orderBy (fun left right => decide (left ≤ right)) texts

variable (platform : MemoryPlatform)

/-! ### The profile -/

structure Section where
  heading : String
  predicates : List RelationType

/-- `SECTIONS` of `profile-compiler.ts`. -/
def PROFILE_SECTIONS : List Section :=
  [⟨"## Stable identity", [.HAS_ROLE, .LIVES_IN, .EMPLOYED_BY]⟩,
    ⟨"## Preferences and constraints", [.PREFERS, .DISLIKES, .AVOIDS, .HAS_CONSTRAINT]⟩,
    ⟨"## Environment", [.USES, .OWNS, .HAS_COMPONENT, .RUNS_ON, .HAS_SETTING]⟩,
    ⟨"## Active goals", [.HAS_GOAL, .HAS_PLAN, .WORKS_ON]⟩]

def pick (views : List AssertionView) (predicates : List RelationType) : List AssertionView :=
  views.filter fun item => predicates.contains item.predicate

/-- The lines of a section of the profile: none without views. -/
def profileSectionLines (eligible : List AssertionView) (part : Section) : List JsString :=
  let views := pick eligible part.predicates
  if views.isEmpty then [] else utf16 part.heading :: views.map (renderAssertionSentence platform) ++ [[]]

def topicLine (topicKey : JsString) : JsString := utf16 "- " ++ topicKey

structure ProfileCompileRequest where
  views : List AssertionView
  tier2TopicKeys : List JsString

def ProfileCompileRequest.lines (request : ProfileCompileRequest) : List JsString :=
  let eligible := sortByValue platform (request.views.filter isProjectableInPlaintext)
  [utf16 "# Profile", []] ++ PROFILE_SECTIONS.flatMap (profileSectionLines platform eligible) ++
    [utf16 "## Memory topics"] ++ (sortTexts request.tier2TopicKeys).map topicLine ++ [[]]

/-- The ids on the lines of the profile. -/
def ProfileCompileRequest.ids (request : ProfileCompileRequest) : List String :=
  let eligible := sortByValue platform (request.views.filter isProjectableInPlaintext)
  PROFILE_SECTIONS.flatMap fun part => (pick eligible part.predicates).map AssertionView.assertionId

/-- `ProfileCompiler.compile`. -/
def compileProfile (request : ProfileCompileRequest) : CompiledDocument :=
  let eligible := sortByValue platform (request.views.filter isProjectableInPlaintext)
  let used := request.ids platform
  let omitted : Int := request.views.length - eligible.length +
    (eligible.filter fun item => !used.contains item.assertionId).length
  let trimmed := enforce count (request.lines platform) (tierTokenLimit .tier1)
  let counted := count trimmed.body
  { tier := .tier1
    topicKey := utf16 "profile"
    title := utf16 "Profile"
    body := trimmed.body
    includedAssertionIds := used.filter (isCited trimmed.body)
    omittedAssertionCount := omitted + trimmed.droppedLines
    sensitivity := .personal
    tokenCount := counted.tokenCount
    tokenizerId := counted.tokenizerId }

/-! ### Dossiers -/

def STABLE_PREDICATES : List RelationType := [.CREATED, .CONTRIBUTED_TO, .PART_OF, .HAS_COMPONENT, .OWNS, .DRIVES, .RIDES]

def PREFERENCE_PREDICATES : List RelationType := [.PREFERS, .DISLIKES, .AVOIDS, .HAS_CONSTRAINT]

def GOAL_PREDICATES : List RelationType := [.HAS_GOAL, .HAS_PLAN, .WORKS_ON]

def CHRONOLOGY_PREDICATES : List RelationType :=
  [.VISITED, .READ, .WATCHED, .PLAYED, .OBSERVED_DURING, .ASKED_ABOUT, .COMPARED_WITH, .TESTED_WITH, .RESULTED_IN,
    .CAUSED_BY, .MENTIONED_IN]

def CLAIMED_PREDICATES : List RelationType :=
  STABLE_PREDICATES ++ PREFERENCE_PREDICATES ++ GOAL_PREDICATES ++ CHRONOLOGY_PREDICATES

structure DossierCompileRequest where
  tier : Tier
  topicKey : JsString
  title : JsString
  views : List AssertionView
  relatedTopicKeys : List JsString

def isUncertain (view : AssertionView) : Bool := view.status == .disputed || !isExplicitBasis view.basis

def DOSSIER_SECTIONS : List (String × (AssertionView → Bool)) :=
  [("## Stable facts", fun view => !isUncertain view && STABLE_PREDICATES.contains view.predicate),
    ("## Current state", fun view => !isUncertain view && !CLAIMED_PREDICATES.contains view.predicate),
    ("## Preferences and constraints", fun view => !isUncertain view && PREFERENCE_PREDICATES.contains view.predicate),
    ("## Active goals and open threads", fun view => !isUncertain view && GOAL_PREDICATES.contains view.predicate),
    ("## Relevant chronology", fun view => !isUncertain view && CHRONOLOGY_PREDICATES.contains view.predicate),
    ("## Uncertain or disputed items", isUncertain)]

def DossierCompileRequest.lines (request : DossierCompileRequest) : List JsString :=
  let eligible := sortByValue platform (request.views.filter isProjectableInPlaintext)
  [utf16 "# " ++ request.title, [], utf16 "## Compact summary",
    utf16 s!"{eligible.length} recorded facts about " ++ request.title ++ utf16 ".", []] ++
    DOSSIER_SECTIONS.flatMap (fun part =>
      utf16 part.1 :: (eligible.filter part.2).map (renderAssertionSentence platform) ++ [[]]) ++
    [utf16 "## Related memory topics"] ++ (sortTexts request.relatedTopicKeys).map topicLine ++ [[]]

/-- The ids on the lines of a dossier. -/
def DossierCompileRequest.ids (request : DossierCompileRequest) : List String :=
  let eligible := sortByValue platform (request.views.filter isProjectableInPlaintext)
  DOSSIER_SECTIONS.flatMap fun part => (eligible.filter part.2).map AssertionView.assertionId

/-- `DossierCompiler.compile`. -/
def compileDossier (request : DossierCompileRequest) : CompiledDocument :=
  let limited := enforce count (request.lines platform) (tierTokenLimit request.tier)
  let counted := count limited.body
  let survivingIds := (request.ids platform).filter (isCited limited.body)
  { tier := request.tier
    topicKey := request.topicKey
    title := request.title
    body := limited.body
    includedAssertionIds := survivingIds
    omittedAssertionCount := request.views.length - survivingIds.length
    sensitivity := .personal
    tokenCount := counted.tokenCount
    tokenizerId := counted.tokenizerId }

end

/-! ## Archives -/

section

variable {Topic : Type} (topicKey : Topic → JsString)

structure ArchivePlan (Topic : Type) where
  kept : List Topic
  /-- The merged topics of every archive, in the order in which they were popped. -/
  archives : OrderedMap JsString (List Topic)

def isSegmentEnd (unit : CodeUnit) : Bool := unit == 0x2D || unit == 0x2F

/-- Everything before the first hyphen or slash. -/
def firstSegment (key : JsString) : JsString :=
  let segment := key.takeWhile fun unit => !isSegmentEnd unit
  if segment.isEmpty then utf16 "misc" else segment

def archiveKey (key : JsString) : JsString := utf16 "archive/" ++ firstSegment key

/-- Pops the lowest topics, which stand first, while there are too many documents. -/
def popTopics (limit : Nat) :
    List Topic → OrderedMap JsString (List Topic) → List Topic × OrderedMap JsString (List Topic)
  | [], archives => ([], archives)
  | lowest :: rest, archives =>
    if limit < (lowest :: rest).length + archives.size then
      let key := archiveKey (topicKey lowest)
      popTopics limit rest (archives.set key ((archives.get? key).getD [] ++ [lowest]))
    else (lowest :: rest, archives)

def planTier3Archives (sortedByUtilityDesc : List Topic) (limit : Nat) : ArchivePlan Topic :=
  let (kept, archives) := popTopics topicKey limit sortedByUtilityDesc.reverse OrderedMap.empty
  if limit < kept.length + archives.size ∧ 1 < archives.size then
    { kept := kept.reverse
      archives := OrderedMap.empty.set (utf16 "archive/misc") archives.values.flatten }
  else { kept := kept.reverse, archives }

end

end SiftKit.Assistant.Memory
