import SiftKit.Assistant.CompiledDocuments

/-! # The projection compiler

`memory_projections` as `storage/projection-store.ts` writes it, and `compileAll` of
`projections/projection-compiler.ts`.  The owner's rows are all there are.  The summarizer is a function of
its input and of the abort signal; the audit log, which nothing here reads, is left out.
-/

namespace SiftKit.Assistant.Memory

open SiftKit.Failure SiftKit.Graph SiftKit.Json SiftKit.Tables

/-! ## Rows -/

structure ProjectionFrontmatter where
  /-- None for `memproj_pending`. -/
  projectionId : Option Nat
  tier : Tier
  topicKey : JsString
  generatedAtMs : Int
  graphVersion : Nat
  tokenizerId : JsString
  tokenCount : Nat
  sensitivity : Sensitivity
  includedAssertionIds : List String

/-- A row of `memory_projections`; its content is the frontmatter and the body. -/
structure ProjectionRow where
  id : Nat
  tier : Tier
  topicKey : JsString
  title : JsString
  frontmatter : ProjectionFrontmatter
  body : JsString
  tokenCount : Nat
  tokenizerId : JsString
  graphVersion : Nat
  includedAssertionIds : List String
  sensitivity : Sensitivity
  generatedAtMs : Int

def ProjectionRow.key (row : ProjectionRow) : Tier × JsString := (row.tier, row.topicKey)

/-- The table, with its primary key and `UNIQUE (owner_id, tier, topic_key)`. -/
structure ProjectionTable where
  rows : List ProjectionRow
  nextId : Nat
  distinctIds : (rows.map ProjectionRow.id).Nodup
  issued : ∀ row ∈ rows, row.id < nextId
  distinctKeys : (rows.map ProjectionRow.key).Nodup

structure UpsertProjectionInput where
  tier : Tier
  topicKey : JsString
  title : JsString
  frontmatter : ProjectionFrontmatter
  body : JsString
  tokenCount : Nat
  tokenizerId : JsString
  graphVersion : Nat
  includedAssertionIds : List String
  sensitivity : Sensitivity

def Tier.rank : Tier → Nat
  | .tier1 => 1
  | .tier2 => 2
  | .tier3 => 3

namespace ProjectionTable

def empty : ProjectionTable := ⟨[], 0, List.nodup_nil, by simp, List.nodup_nil⟩

variable (table : ProjectionTable)

def findByTopic (tier : Tier) (topicKey : JsString) : Option ProjectionRow :=
  table.rows.find? fun row => decide (row.key = (tier, topicKey))

/-- The columns that an upsert writes. -/
def written (input : UpsertProjectionInput) (nowMs : Int) (id : Nat) : ProjectionRow where
  id := id
  tier := input.tier
  topicKey := input.topicKey
  title := input.title
  frontmatter := input.frontmatter
  body := input.body
  tokenCount := input.tokenCount
  tokenizerId := input.tokenizerId
  graphVersion := input.graphVersion
  includedAssertionIds := input.includedAssertionIds
  sensitivity := input.sensitivity
  generatedAtMs := nowMs

/-- The rows after an upsert: the one of its key is rewritten, or there is a new one. -/
def upsertRows (input : UpsertProjectionInput) (nowMs : Int) : List ProjectionRow :=
  match table.findByTopic input.tier input.topicKey with
  | none => table.rows ++ [written input nowMs table.nextId]
  | some existing => updateWhere (fun row => row.id == existing.id) (fun row => written input nowMs row.id) table.rows

theorem mem_of_findByTopic {table : ProjectionTable} {tier : Tier} {topicKey : JsString} {row : ProjectionRow}
    (found : table.findByTopic tier topicKey = some row) : row ∈ table.rows ∧ row.key = (tier, topicKey) :=
  ⟨List.mem_of_find?_eq_some found, by simpa using List.find?_some found⟩

variable (input : UpsertProjectionInput)

theorem keys_upsertRows (nowMs : Int) :
    (table.upsertRows input nowMs).map ProjectionRow.key =
      if (input.tier, input.topicKey) ∈ table.rows.map ProjectionRow.key then table.rows.map ProjectionRow.key
      else table.rows.map ProjectionRow.key ++ [(input.tier, input.topicKey)] := by
  unfold upsertRows
  split
  next absent =>
    have isNew : (input.tier, input.topicKey) ∉ table.rows.map ProjectionRow.key := by
      intro listed
      obtain ⟨row, member, isKey⟩ := List.mem_map.mp listed
      have missing := List.find?_eq_none.mp absent row member
      exact missing (by simpa using isKey)
    rw [if_neg isNew, List.map_append]
    rfl
  next existing found =>
    obtain ⟨member, isKey⟩ := mem_of_findByTopic found
    have listed : (input.tier, input.topicKey) ∈ table.rows.map ProjectionRow.key :=
      List.mem_map.mpr ⟨existing, member, isKey⟩
    rw [if_pos listed]
    apply map_updateWhere
    intro row isRow selected
    -- the row with this id is the one that was found
    have same : row = existing := List.inj_on_of_nodup_map table.distinctIds isRow member (by simpa using selected)
    rw [same, isKey]
    rfl

theorem distinctKeys_upsertRows (nowMs : Int) : ((table.upsertRows input nowMs).map ProjectionRow.key).Nodup := by
  rw [keys_upsertRows]
  split
  · exact table.distinctKeys
  next isNew =>
    rw [List.nodup_append]
    refine ⟨table.distinctKeys, by simp, ?_⟩
    rintro key isKey other isOther rfl
    rw [List.mem_singleton] at isOther
    exact isNew (isOther ▸ isKey)

theorem distinctIds_upsertRows (nowMs : Int) : ((table.upsertRows input nowMs).map ProjectionRow.id).Nodup := by
  unfold upsertRows
  split
  · exact nodup_map_snoc table.distinctIds fun row member => Nat.ne_of_lt (table.issued row member)
  · rw [map_updateWhere]
    · exact table.distinctIds
    · exact fun _ _ _ => rfl

theorem issued_upsertRows (nowMs : Int) : ∀ row ∈ table.upsertRows input nowMs, row.id < table.nextId + 1 := by
  intro row member
  unfold upsertRows at member
  split at member
  · rcases List.mem_append.mp member with old | new
    · exact Nat.lt_succ_of_lt (table.issued row old)
    · rw [List.mem_singleton.mp new]
      exact Nat.lt_succ_self _
  · obtain ⟨before, was, rfl⟩ := mem_updateWhere.mp member
    have bound := table.issued before was
    split
    · exact Nat.lt_succ_of_lt bound
    · exact Nat.lt_succ_of_lt bound

def upsert (input : UpsertProjectionInput) (nowMs : Int) : ProjectionTable where
  rows := table.upsertRows input nowMs
  nextId := table.nextId + 1
  distinctIds := distinctIds_upsertRows table input nowMs
  issued := issued_upsertRows table input nowMs
  distinctKeys := distinctKeys_upsertRows table input nowMs

def deleteProjection (id : Nat) : ProjectionTable where
  rows := table.rows.filter fun row => row.id != id
  nextId := table.nextId
  distinctIds := (List.filter_sublist.map ProjectionRow.id).nodup table.distinctIds
  issued := fun row member => table.issued row (List.mem_of_mem_filter member)
  distinctKeys := (List.filter_sublist.map ProjectionRow.key).nodup table.distinctKeys

/-- `ORDER BY tier ASC, topic_key ASC`. -/
def isListedBefore (left right : ProjectionRow) : Bool :=
  if left.tier ≠ right.tier then decide (Tier.rank left.tier ≤ Tier.rank right.tier) else decide (left.topicKey ≤ right.topicKey)

def listAllRows : List ProjectionRow := orderBy isListedBefore table.rows

end ProjectionTable

/-! ## The compiler -/

structure SummarizeProjectionInput where
  body : JsString
  assertions : List (String × Sensitivity)
  targetTokens : Nat

inductive SummarizeProjectionResult where
  | summarized (body : JsString) (assertionIds : List String)
  | unchanged (reason : JsString)

/-- What a compiler is built of. -/
structure MemoryServices (Signal Number : Type) where
  platform : MemoryPlatform
  arithmetic : Arithmetic Number
  count : JsString → TokenCount
  summarize : Signal → SummarizeProjectionInput → SummarizeProjectionResult
  /-- `ProjectionTargetTokens`. -/
  targetTokens : Tier → Nat
  /-- `TierDocumentLimits`. -/
  tierLimits : Tier → Nat

structure TopicBundle (Number : Type) where
  topicKey : JsString
  title : JsString
  views : List AssertionView
  utility : Number
  tier : Tier

structure CompileSummary where
  written : Nat
  unchanged : Nat
  demotedTopicKeys : List JsString
  omittedAssertionCount : Int
  deletedProjectionCount : Nat
  archivedTopicKeys : List JsString

/-- What the documents so far did. -/
structure CompileProgress where
  table : ProjectionTable
  written : Nat
  unchanged : Nat
  omittedAssertionCount : Int
  desired : List (Tier × JsString)

section

variable {Signal Number : Type} (services : MemoryServices Signal Number)

/-! ### Bundles -/

/-- `Date.parse(view.lastObservedAtUtc)`; staleness refuses `NaN`. -/
def observedMs (view : AssertionView) : Except ErrorMessage Int :=
  match services.platform.dateParse (utf16 view.lastObservedAtUtc) with
  | some instant => .ok instant
  | none => .error (utf16 "Observation age in days must be finite and non-negative: NaN")

/-- `Math.max(0, (now - then) / 86_400_000)`. -/
def ageInDays (nowMs observedMs : Int) : Number :=
  services.arithmetic.max (services.arithmetic.literal 0)
    (services.arithmetic.div (services.arithmetic.literal (nowMs - observedMs : Int)) (services.arithmetic.literal 86400000))

def RECENCY_HALF_LIFE_DAYS : ℚ := 60

def flag (holds : Bool) : Number := services.arithmetic.literal (if holds then 1 else 0)

def worstStaleness (nowMs : Int) (views : List AssertionView) : Except ErrorMessage Number :=
  views.foldlM (fun worst view => do
    let observed ← observedMs services view
    let factor ← stalenessFactor services.arithmetic (stalenessClass view.predicate) (ageInDays services nowMs observed)
    return services.arithmetic.max worst (services.arithmetic.sub (services.arithmetic.literal 1) factor))
    (services.arithmetic.literal 0)

def isStated (view : AssertionView) : Bool :=
  view.basis == .explicit_user_statement || view.basis == .explicit_question_answer

def scoreTopic (nowMs : Int) (views : List AssertionView) : Except ErrorMessage Number := do
  let arithmetic := services.arithmetic
  let observed ← views.mapM (observedMs services)
  let newest := observed.foldl max 0
  let ageDays := ageInDays services nowMs newest
  let staleness ← worstStaleness services nowMs views
  let viewCount := arithmetic.literal views.length
  tierUtility arithmetic {
    explicitness :=
      if views.isEmpty then arithmetic.literal 0
      else arithmetic.div (arithmetic.literal (views.countP isStated)) viewCount
    crossDomainUsefulness := arithmetic.min (arithmetic.literal 1) (arithmetic.div viewCount (arithmetic.literal 10))
    retrievalFrequency := arithmetic.literal 0
    recency := arithmetic.exp2
      (arithmetic.div (arithmetic.sub (arithmetic.literal 0) ageDays) (arithmetic.literal RECENCY_HALF_LIFE_DAYS))
    activeGoalRelevance := flag services
      (views.any fun view => view.predicate == .HAS_GOAL || view.predicate == .WORKS_ON)
    uniqueness := arithmetic.div (arithmetic.literal 1) (arithmetic.max (arithmetic.literal 1) viewCount)
    userPin := flag services (views.any AssertionView.pinned)
    userDemotion := flag services (views.any AssertionView.userDemoted)
    redundancy := arithmetic.literal 0
    staleness
    sensitivityCost := flag services
      (views.any fun view => view.sensitivity != .low && view.sensitivity != .personal) }

/-- The views that the profile takes. -/
def isProfileView (view : AssertionView) : Bool := view.isCore && !view.userDemoted

/-- `byTopic`: the other views by their topic, in the order of their first views. -/
def groupByTopic (views : List AssertionView) : OrderedMap JsString (List AssertionView) :=
  (views.filter fun view => !isProfileView view).foldl
    (fun byTopic view => byTopic.set view.topicKey ((byTopic.get? view.topicKey).getD [] ++ [view])) OrderedMap.empty

/-- The bundle of a topic, unless it is routed to the profile or nowhere. -/
def buildBundle (nowMs : Int) (topic : JsString × List AssertionView) : Except ErrorMessage (Option (TopicBundle Number)) := do
  let behavior := projectionBehavior ((topic.2.head?.map AssertionView.predicate).getD .RELATED_TO)
  let utility ← scoreTopic services nowMs topic.2
  match routeTier services.arithmetic behavior utility with
  | none => return none
  | some .tier1 => return none
  | some tier =>
    return some {
      topicKey := topic.1
      title := (topic.2.head?.map AssertionView.objectText).getD topic.1
      views := topic.2
      utility
      tier }

/-- `[...].sort((left, right) => left[0].localeCompare(right[0]))`. -/
def sortByKey {Value : Type} (entries : List (JsString × Value)) : List (JsString × Value) :=
  orderBy (fun left right => decide (services.platform.localeCompare left.1 right.1 ≤ 0)) entries

def buildBundles (nowMs : Int) (views : List AssertionView) : Except ErrorMessage (List (TopicBundle Number)) := do
  let bundles ← (sortByKey services (groupByTopic views).entries).mapM (buildBundle services nowMs)
  return bundles.filterMap id

/-- `sort((left, right) => right.utility - left.utility)`. -/
def sortByUtility (bundles : List (TopicBundle Number)) : List (TopicBundle Number) :=
  orderBy (fun left right =>
    services.arithmetic.le (services.arithmetic.sub right.utility left.utility) (services.arithmetic.literal 0)) bundles

/-! ### Writing -/

def writeDocument (table : ProjectionTable) (document : CompiledDocument) (graphVersion : Nat) (nowMs : Int)
    (provisionalId : Option Nat) : ProjectionTable :=
  table.upsert {
    tier := document.tier
    topicKey := document.topicKey
    title := document.title
    frontmatter := {
      projectionId := provisionalId
      tier := document.tier
      topicKey := document.topicKey
      generatedAtMs := nowMs
      graphVersion
      tokenizerId := document.tokenizerId
      tokenCount := document.tokenCount
      sensitivity := document.sensitivity
      includedAssertionIds := document.includedAssertionIds }
    body := document.body
    tokenCount := document.tokenCount
    tokenizerId := document.tokenizerId
    graphVersion
    includedAssertionIds := document.includedAssertionIds
    sensitivity := document.sensitivity } nowMs

/-- The document as it is summarized, if it is too long for its tier. -/
def summarizeDocument (signal : Signal) (document : CompiledDocument) : Option CompiledDocument :=
  if document.tokenCount ≤ services.targetTokens document.tier then none
  else
    match services.summarize signal {
      body := document.body
      assertions := document.includedAssertionIds.map fun assertionId => (assertionId, document.sensitivity)
      targetTokens := services.targetTokens document.tier } with
    | .unchanged _ => none
    | .summarized body assertionIds =>
      let counted := services.count body
      some { document with
        body
        includedAssertionIds := assertionIds
        tokenCount := counted.tokenCount
        tokenizerId := counted.tokenizerId }

/-- `persistWithSummary`: a row of this graph version is left as it is. -/
def persistWithSummary (graphVersion : Nat) (nowMs : Int) (signal : Signal) (progress : CompileProgress)
    (document : CompiledDocument) : CompileProgress :=
  let existing := progress.table.findByTopic document.tier document.topicKey
  let desired := progress.desired ++ [(document.tier, document.topicKey)]
  let omittedAssertionCount := progress.omittedAssertionCount + document.omittedAssertionCount
  if existing.any fun row => row.graphVersion == graphVersion then
    { progress with unchanged := progress.unchanged + 1, omittedAssertionCount, desired }
  else
    let provisionalId := existing.map ProjectionRow.id
    let table := writeDocument progress.table document graphVersion nowMs provisionalId
    let table := match summarizeDocument services signal document with
      | none => table
      | some summary => writeDocument table summary graphVersion nowMs provisionalId
    { table, written := progress.written + 1, unchanged := progress.unchanged, omittedAssertionCount, desired }

/-- Deletes every row that this compile did not produce. -/
def sweepOrphans (table : ProjectionTable) (desired : List (Tier × JsString)) : Nat × ProjectionTable :=
  table.listAllRows.foldl (fun (swept : Nat × ProjectionTable) row =>
    if desired.contains row.key then swept else (swept.1 + 1, swept.2.deleteProjection row.id)) (0, table)

/-! ### Compiling -/

/-- How the topics are laid out. -/
structure MemoryPlan (Number : Type) where
  profileViews : List AssertionView
  keptTier2 : List (TopicBundle Number)
  overflow : List (TopicBundle Number)
  tier3 : ArchivePlan (TopicBundle Number)

def planMemory (views : List AssertionView) (bundles : List (TopicBundle Number)) : MemoryPlan Number :=
  let tier2 := sortByUtility services (bundles.filter fun bundle => bundle.tier == .tier2)
  let overflow := tier2.drop (services.tierLimits .tier2)
  let tier3Sorted := sortByUtility services
    ((bundles.filter fun bundle => bundle.tier == .tier3) ++ overflow.map fun bundle => { bundle with tier := .tier3 })
  { profileViews := views.filter isProfileView
    keptTier2 := tier2.take (services.tierLimits .tier2)
    overflow
    tier3 := planTier3Archives TopicBundle.topicKey tier3Sorted (services.tierLimits .tier3) }

def compileTopic (keptTier2 : List (TopicBundle Number)) (bundle : TopicBundle Number) : CompiledDocument :=
  compileDossier services.count services.platform {
    tier := bundle.tier
    topicKey := bundle.topicKey
    title := bundle.title
    views := bundle.views
    relatedTopicKeys := ((keptTier2.filter fun other => other.topicKey != bundle.topicKey).take 5).map TopicBundle.topicKey }

def compileArchive (group : JsString × List (TopicBundle Number)) : CompiledDocument :=
  compileDossier services.count services.platform {
    tier := .tier3
    topicKey := group.1
    title := utf16 "Archive — " ++ group.1.drop (utf16 "archive/").length
    views := group.2.flatMap TopicBundle.views
    relatedTopicKeys := [] }

def compileAll (graph : MemoryGraph) (nowMs : Int) (signal : Signal) (table : ProjectionTable) :
    Except ErrorMessage (CompileSummary × ProjectionTable) := do
  let all ← collectViews services.platform graph
  let bundles ← buildBundles services nowMs all
  let plan := planMemory services all bundles
  let persist := persistWithSummary services graph.graphVersion nowMs signal
  let start : CompileProgress := { table, written := 0, unchanged := 0, omittedAssertionCount := 0, desired := [] }
  -- an owner with nothing to say gets no profile
  let profiled :=
    if plan.profileViews.isEmpty && plan.keptTier2.isEmpty then start
    else persist start (compileProfile services.count services.platform
      { views := plan.profileViews, tier2TopicKeys := plan.keptTier2.map TopicBundle.topicKey })
  let topics := (plan.keptTier2 ++ plan.tier3.kept).foldl
    (fun progress bundle => persist progress (compileTopic services plan.keptTier2 bundle)) profiled
  let archived := (sortByKey services plan.tier3.archives.entries).foldl
    (fun progress group => persist progress (compileArchive services group)) topics
  let (deletedProjectionCount, swept) := sweepOrphans archived.table archived.desired
  return ({
    written := archived.written
    unchanged := archived.unchanged
    demotedTopicKeys := plan.overflow.map TopicBundle.topicKey
    omittedAssertionCount := archived.omittedAssertionCount
    deletedProjectionCount
    archivedTopicKeys := sortTexts (plan.tier3.archives.values.flatten.map TopicBundle.topicKey) }, swept)

end

end SiftKit.Assistant.Memory
