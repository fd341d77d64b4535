import SiftKit.Assistant.DocumentCounts

/-! # Compiled memory and the rows before it

A compile leaves a row of the current graph version as it is, whatever the document now says.  What the
documents say depends on the instant and on the abort signal too, so such a row may be stale.
-/

namespace SiftKit.Assistant.Memory

open SiftKit.Failure SiftKit.Graph SiftKit.Json SiftKit.Tables ProjectionTable

/-! ## Reading rows by their keys -/

namespace ProjectionTable

/-- The graph version, the body and the citations of the row of a key. -/
def read (table : ProjectionTable) (key : Tier × JsString) : Option (Nat × JsString × List String) :=
  (table.findByTopic key.1 key.2).map fun row => (row.graphVersion, row.body, row.includedAssertionIds)

variable {table : ProjectionTable}

variable {key : Tier × JsString}

theorem findByTopic_eq_some {row : ProjectionRow} :
    table.findByTopic key.1 key.2 = some row ↔ row ∈ table.rows ∧ row.key = key := by
  constructor
  · exact fun found => mem_of_findByTopic found
  · rintro ⟨member, rfl⟩
    unfold findByTopic
    cases found : table.rows.find? fun other => decide (other.key = (row.key.1, row.key.2)) with
    | none => simpa using List.find?_eq_none.mp found row member
    | some other =>
      have isOther := List.mem_of_find?_eq_some found
      have sameKey : other.key = row.key := by simpa using List.find?_some found
      rw [List.inj_on_of_nodup_map table.distinctKeys isOther member sameKey]

theorem read_eq_some {version : Nat} {body : JsString} {assertionIds : List String} :
    table.read key = some (version, body, assertionIds) ↔
      ∃ row ∈ table.rows, row.key = key ∧ row.graphVersion = version ∧ row.body = body ∧
        row.includedAssertionIds = assertionIds := by
  unfold read
  constructor
  · intro isRead
    obtain ⟨row, found, same⟩ := Option.map_eq_some_iff.mp isRead
    obtain ⟨member, isKey⟩ := findByTopic_eq_some.mp found
    cases same
    exact ⟨row, member, isKey, rfl, rfl, rfl⟩
  · rintro ⟨row, member, isKey, rfl, rfl, rfl⟩
    rw [findByTopic_eq_some.mpr ⟨member, isKey⟩]
    rfl

/-- The rows as they are read: their keys, bodies and citations. -/
def texts (table : ProjectionTable) : List ((Tier × JsString) × JsString × List String) :=
  table.rows.map fun row => (row.key, row.body, row.includedAssertionIds)

theorem mem_texts {body : JsString} {assertionIds : List String} :
    (key, body, assertionIds) ∈ table.texts ↔ ∃ version, table.read key = some (version, body, assertionIds) := by
  simp [texts, read_eq_some]

theorem read_eq_none : table.read key = none ↔ ∀ row ∈ table.rows, row.key ≠ key := by
  unfold read findByTopic
  simp

theorem read_upsert (input : UpsertProjectionInput) (nowMs : Int) (key : Tier × JsString) :
    (table.upsert input nowMs).read key =
      if key = (input.tier, input.topicKey) then some (input.graphVersion, input.body, input.includedAssertionIds)
      else table.read key := by
  have rows : (table.upsert input nowMs).rows = table.upsertRows input nowMs := rfl
  split
  next isKey =>
    rw [read_eq_some, rows]
    unfold upsertRows
    split
    · exact ⟨written input nowMs table.nextId, by simp, isKey.symm, rfl, rfl, rfl⟩
    next existing found =>
      have member := (mem_of_findByTopic found).1
      refine ⟨written input nowMs existing.id, mem_updateWhere.mpr ⟨existing, member, by simp⟩, isKey.symm, rfl, rfl, rfl⟩
  next otherKey =>
    -- the other rows are untouched
    have same : ∀ row, row.key = key → (row ∈ table.upsertRows input nowMs ↔ row ∈ table.rows) := by
      rintro row rfl
      unfold upsertRows
      split
      · rw [List.mem_append, List.mem_singleton]
        constructor
        · rintro (old | rfl)
          · exact old
          · exact absurd rfl otherKey
        · exact Or.inl
      next existing found =>
        obtain ⟨member, isExisting⟩ := mem_of_findByTopic found
        rw [mem_updateWhere]
        constructor
        · rintro ⟨before, was, isRow⟩
          split at isRow
          · rw [isRow] at otherKey
            exact absurd rfl otherKey
          · rw [isRow]
            exact was
        · intro isRow
          refine ⟨row, isRow, ?_⟩
          rw [if_neg]
          intro sameId
          have isSame : row = existing := List.inj_on_of_nodup_map table.distinctIds isRow member (by simpa using sameId)
          rw [isSame] at otherKey
          exact otherKey isExisting
    cases before : table.read key with
    | none =>
      rw [read_eq_none] at before ⊢
      intro row member isKey
      exact before row ((same row isKey).mp member) isKey
    | some content =>
      obtain ⟨version, body, assertionIds⟩ := content
      obtain ⟨row, member, isKey, rest⟩ := read_eq_some.mp before
      exact read_eq_some.mpr ⟨row, (same row isKey).mpr member, isKey, rest⟩

end ProjectionTable

section

variable {Signal Number : Type} {services : MemoryServices Signal Number}

/-! ## Persisting -/

def storedDocument (services : MemoryServices Signal Number) (signal : Signal) (document : CompiledDocument) :
    CompiledDocument :=
  (summarizeDocument services signal document).getD document

theorem key_summarizeDocument {signal : Signal} {document summary : CompiledDocument}
    (summarized : summarizeDocument services signal document = some summary) : summary.key = document.key := by
  unfold summarizeDocument at summarized
  split at summarized
  · cases summarized
  · split at summarized
    · cases summarized
    · cases summarized
      rfl

/-- Whether the row of a document is left as it is. -/
def isSkipped (table : ProjectionTable) (graphVersion : Nat) (document : CompiledDocument) : Bool :=
  (table.read document.key).any fun content => content.1 == graphVersion

section

variable (graphVersion : Nat) (nowMs : Int) (signal : Signal)

include graphVersion nowMs signal

theorem read_persist (progress : CompileProgress)
    (document : CompiledDocument) (key : Tier × JsString) :
    (persistWithSummary services graphVersion nowMs signal progress document).table.read key =
      if key = document.key ∧ isSkipped progress.table graphVersion document = false then
        some (graphVersion, (storedDocument services signal document).body,
          (storedDocument services signal document).includedAssertionIds)
      else progress.table.read key := by
  have skips : (progress.table.findByTopic document.tier document.topicKey).any (fun row => row.graphVersion == graphVersion) =
      isSkipped progress.table graphVersion document := by
    unfold isSkipped ProjectionTable.read CompiledDocument.key
    rw [Option.any_map]
  unfold persistWithSummary
  simp only [skips]
  split
  next isSkip => simp [isSkip]
  next notSkip =>
    have writes : isSkipped progress.table graphVersion document = false := by simpa using notSkip
    unfold storedDocument
    cases summarized : summarizeDocument services signal document with
    | none =>
      simp only [writes, and_true, Option.getD_none]
      exact ProjectionTable.read_upsert _ _ _
    | some summary =>
      have sameKey := key_summarizeDocument summarized
      simp only [writes, and_true, Option.getD_some]
      unfold writeDocument
      rw [ProjectionTable.read_upsert, ProjectionTable.read_upsert]
      unfold CompiledDocument.key at sameKey ⊢
      simp only [sameKey]
      by_cases isKey : key = (document.tier, document.topicKey)
      · simp only [isKey, if_true]
      · simp only [isKey, if_false]

theorem desired_persist (progress : CompileProgress)
    (document : CompiledDocument) :
    (persistWithSummary services graphVersion nowMs signal progress document).desired =
        progress.desired ++ [document.key] ∧
      (persistWithSummary services graphVersion nowMs signal progress document).omittedAssertionCount =
        progress.omittedAssertionCount + document.omittedAssertionCount := by
  unfold persistWithSummary
  simp only
  split
  · exact ⟨rfl, rfl⟩
  · exact ⟨rfl, rfl⟩

theorem read_persistAll (table : ProjectionTable)
    (documents : List CompiledDocument) (distinct : (documents.map CompiledDocument.key).Nodup) :
    let persisted := persistAll services graphVersion nowMs signal table documents
    persisted.desired = documents.map CompiledDocument.key ∧
      persisted.omittedAssertionCount = (documents.map CompiledDocument.omittedAssertionCount).sum ∧
      (∀ document ∈ documents, persisted.table.read document.key =
        if isSkipped table graphVersion document then table.read document.key
        else some (graphVersion, (storedDocument services signal document).body,
          (storedDocument services signal document).includedAssertionIds)) ∧
      ∀ key ∉ documents.map CompiledDocument.key, persisted.table.read key = table.read key := by
  intro persisted
  induction documents using List.reverseRecOn with
  | nil => exact ⟨rfl, rfl, by simp, fun _ _ => rfl⟩
  | append_singleton documents last ih =>
    rw [List.map_append, List.nodup_append] at distinct
    obtain ⟨desired, omitted, documentRows, otherRows⟩ := ih distinct.1
    let before := persistAll services graphVersion nowMs signal table documents
    have result : persisted = persistWithSummary services graphVersion nowMs signal before last := by
      simp only [persisted, persistAll, List.foldl_append, List.foldl_cons, List.foldl_nil]
      rfl
    have isNew : last.key ∉ documents.map CompiledDocument.key := fun listed =>
      distinct.2.2 _ listed _ (by simp) rfl
    have untouched : before.table.read last.key = table.read last.key := otherRows last.key isNew
    have sameSkip : isSkipped before.table graphVersion last = isSkipped table graphVersion last := by
      unfold isSkipped
      rw [untouched]
    rw [result]
    refine ⟨?_, ?_, ?_, ?_⟩
    · rw [(desired_persist graphVersion nowMs signal before last).1, desired, List.map_append]
      rfl
    · rw [(desired_persist graphVersion nowMs signal before last).2, omitted, List.map_append, List.sum_append]
      simp
    · intro document member
      rw [read_persist, sameSkip]
      rcases List.mem_append.mp member with old | new
      · have apart : document.key ≠ last.key := fun same =>
          isNew (same ▸ List.mem_map_of_mem old)
        rw [if_neg (fun both => apart both.1)]
        exact documentRows document old
      · rw [List.mem_singleton.mp new, untouched]
        cases skips : isSkipped table graphVersion last with
        | true => simp
        | false => simp
    · intro key isOther
      rw [List.map_append, List.mem_append, not_or] at isOther
      rw [read_persist, if_neg (fun both => isOther.2 (by simp [both.1]))]
      exact otherRows key isOther.1

end

/-! ## Sweeping -/

theorem rows_sweepOrphans (table : ProjectionTable) (desired : List (Tier × JsString)) :
    (sweepOrphans table desired).2.rows = table.rows.filter fun row => desired.contains row.key := by
  unfold sweepOrphans
  -- every listed row that is not wanted is deleted by its id
  have deleted (later : List ProjectionRow) (start : Nat × ProjectionTable) :
      (later.foldl (fun (swept : Nat × ProjectionTable) row =>
        if desired.contains row.key then swept else (swept.1 + 1, swept.2.deleteProjection row.id)) start).2.rows =
        start.2.rows.filter fun row => later.all fun other => desired.contains other.key || row.id != other.id := by
    induction later generalizing start with
    | nil => simp
    | cons other rest ih =>
      rw [List.foldl_cons, ih]
      cases wanted : desired.contains other.key with
      | true => simp only [if_true, List.all_cons, wanted, Bool.true_or, Bool.true_and]
      | false =>
        simp only [Bool.false_eq_true, if_false, deleteProjection, List.filter_filter, List.all_cons,
          wanted, Bool.false_or, Bool.and_comm]
  rw [deleted]
  apply List.filter_congr
  intro row member
  rw [Bool.eq_iff_iff, List.all_eq_true]
  constructor
  · intro kept
    have itself := kept row (mem_orderBy.mpr member)
    simpa using itself
  · intro wanted other isListed
    by_cases sameId : row.id = other.id
    · have same := List.inj_on_of_nodup_map table.distinctIds member (mem_orderBy.mp isListed) sameId
      rw [← same, wanted]
      rfl
    · simp [sameId]

theorem read_sweepOrphans (table : ProjectionTable) (desired : List (Tier × JsString)) (key : Tier × JsString) :
    (sweepOrphans table desired).2.read key = if key ∈ desired then table.read key else none := by
  unfold ProjectionTable.read ProjectionTable.findByTopic
  rw [rows_sweepOrphans, List.find?_filter]
  have same (row : ProjectionRow) : (desired.contains row.key = true ∧ decide (row.key = (key.1, key.2)) = true) ↔
      (key ∈ desired ∧ row.key = (key.1, key.2)) := by
    rw [decide_eq_true_eq]
    constructor
    · rintro ⟨wanted, isKey⟩
      exact ⟨by simpa [isKey] using wanted, isKey⟩
    · rintro ⟨wanted, isKey⟩
      exact ⟨by simpa [isKey] using wanted, isKey⟩
  simp only [same]
  split
  next wanted => simp [wanted]
  next unwanted => simp [unwanted]

/-! ## A compile as it should be -/

/-- What a compile of a table should leave. -/
structure FollowsGraph (services : MemoryServices Signal Number) (graph : MemoryGraph) (nowMs : Int) (signal : Signal)
    (views : List AssertionView) (bundles : List (TopicBundle Number)) (summary : CompileSummary) (after : ProjectionTable) :
    Prop where
  /-- The rows are those of a compile without any rows before it. -/
  asFresh : ∃ freshSummary fresh,
    compileAll services graph nowMs signal empty = .ok (freshSummary, fresh) ∧
      ∀ text, text ∈ after.texts ↔ text ∈ fresh.texts
  /-- Every bundle has its views in one stored document. -/
  stored : ∀ bundle ∈ bundles, ∃ planned ∈ plannedDocuments services (planMemory services views bundles),
    bundle.topicKey ∈ planned.topicKeys ∧ (∀ view ∈ bundle.views, view ∈ planned.views) ∧
      planned.document.key ∈ after.rows.map ProjectionRow.key ∧
      ∀ other ∈ plannedDocuments services (planMemory services views bundles),
        bundle.topicKey ∈ other.topicKeys → other = planned
  /-- What is core or in a bundle is cited, or left out of its document. -/
  accounted : ∀ view ∈ views, (view.isCore = true ∨ ∃ bundle ∈ bundles, view ∈ bundle.views) →
    (∃ row ∈ after.rows, view.assertionId ∈ row.includedAssertionIds) ∨
      ∃ planned ∈ plannedDocuments services (planMemory services views bundles),
        view ∈ omittedViews planned.views planned.document
  /-- What the documents leave out is counted. -/
  counted : (((plannedDocuments services (planMemory services views bundles)).map fun planned =>
    ((omittedViews planned.views planned.document).length : Int)).sum) ≤ summary.omittedAssertionCount

/-- Every compile that completes leaves what it should. -/
def CompilesAfresh (services : MemoryServices Signal Number) (graph : MemoryGraph) (nowMs : Int) (signal : Signal)
    (table : ProjectionTable) : Prop :=
  ∀ views bundles summary after, collectViews services.platform graph = .ok views →
    buildBundles services nowMs views = .ok bundles →
    compileAll services graph nowMs signal table = .ok (summary, after) →
    FollowsGraph services graph nowMs signal views bundles summary after

/-- Whether one of the documents as they are stored cites an assertion. -/
def IsCitedByPlan (services : MemoryServices Signal Number) (signal : Signal) (views : List AssertionView)
    (bundles : List (TopicBundle Number)) (assertionId : String) : Prop :=
  ∃ planned ∈ plannedDocuments services (planMemory services views bundles),
    assertionId ∈ (storedDocument services signal planned.document).includedAssertionIds

/-- What the rows before a compile, the summaries and the routing have to be for that. -/
structure IsCurrent (services : MemoryServices Signal Number) (graph : MemoryGraph) (signal : Signal)
    (views : List AssertionView) (bundles : List (TopicBundle Number)) (table : ProjectionTable) : Prop where
  /-- A row of this graph version says what its document now says. -/
  upToDate : ∀ planned ∈ plannedDocuments services (planMemory services views bundles), ∀ body assertionIds,
    table.read planned.document.key = some (graph.graphVersion, body, assertionIds) →
      body = (storedDocument services signal planned.document).body ∧
        assertionIds = (storedDocument services signal planned.document).includedAssertionIds
  /-- No summary drops a citation that no other document makes. -/
  cites : ∀ planned ∈ plannedDocuments services (planMemory services views bundles),
    ∀ assertionId ∈ planned.document.includedAssertionIds, IsCitedByPlan services signal views bundles assertionId
  /-- A demoted core view is not routed away. -/
  routed : ∀ view ∈ views, view.isCore = true → view.userDemoted = true →
    (∃ bundle ∈ bundles, view ∈ bundle.views) ∨ IsCitedByPlan services signal views bundles view.assertionId

/-! ## What a compile leaves -/

section

variable {graph : MemoryGraph} {nowMs : Int} {signal : Signal} {views : List AssertionView}
  {bundles : List (TopicBundle Number)}

variable {table after : ProjectionTable} {summary : CompileSummary}

section

variable (collected : collectViews services.platform graph = .ok views)
  (built : buildBundles services nowMs views = .ok bundles)

include collected built

/-- A row is there of every planned document and of nothing else. -/
theorem read_compileAll (compiled : compileAll services graph nowMs signal table = .ok (summary, after)) :
    summary.omittedAssertionCount = ((plannedDocuments services (planMemory services views bundles)).map
        fun planned => planned.document.omittedAssertionCount).sum ∧
      (∀ planned ∈ plannedDocuments services (planMemory services views bundles), after.read planned.document.key =
        if isSkipped table graph.graphVersion planned.document then table.read planned.document.key
        else some (graph.graphVersion, (storedDocument services signal planned.document).body,
          (storedDocument services signal planned.document).includedAssertionIds)) ∧
      ∀ key ∉ (plannedDocuments services (planMemory services views bundles)).map fun planned => planned.document.key,
        after.read key = none := by
  obtain ⟨_, _, sameViews, sameBundles, rfl, rfl⟩ := compileAll_eq_ok.mp compiled
  rw [collected] at sameViews
  cases sameViews
  rw [built] at sameBundles
  cases sameBundles
  obtain ⟨distinct, ofViews⟩ := buildBundles_eq_ok built
  have noSlash : ∀ bundle ∈ bundles, (0x2F : CodeUnit) ∉ bundle.topicKey := by
    intro bundle member
    obtain ⟨view, isView, sameKey⟩ := (ofViews bundle member).key
    rw [← sameKey]
    exact slash_not_mem_of_collectViews collected isView
  have keys := @keys_planned_nodup _ _ services views _ distinct (fun bundle member => (ofViews bundle member).tier) noSlash
  generalize plannedDocuments services (planMemory services views bundles) = documents at keys ⊢
  have sameKeys : (documents.map PlannedDocument.document).map CompiledDocument.key =
      documents.map fun planned => planned.document.key := List.map_map
  obtain ⟨desired, omitted, documentRows, otherRows⟩ :=
    @read_persistAll _ _ services graph.graphVersion nowMs signal table (documents.map PlannedDocument.document)
      (by rw [sameKeys]; exact keys)
  refine ⟨?_, ?_, ?_⟩
  · simp only [omitted, List.map_map]
    rfl
  · intro planned member
    have isDocument : planned.document ∈ documents.map PlannedDocument.document := List.mem_map_of_mem member
    have isDesired : planned.document.key ∈ (documents.map PlannedDocument.document).map CompiledDocument.key :=
      List.mem_map_of_mem isDocument
    simp only [read_sweepOrphans, desired, if_pos isDesired]
    exact documentRows planned.document isDocument
  · intro key isOther
    simp only [read_sweepOrphans, desired, sameKeys, if_neg isOther]

/-- A compile completes or not whatever the rows are. -/
theorem compileAll_completes (table : ProjectionTable) :
    ∃ summary after, compileAll services graph nowMs signal table = .ok (summary, after) :=
  ⟨_, _, compileAll_eq_ok.mpr ⟨views, bundles, collected, built, rfl, rfl⟩⟩

end

theorem not_isSkipped_empty (graphVersion : Nat) (document : CompiledDocument) :
    isSkipped empty graphVersion document = false := rfl

/-- The rows are those of a fresh compile exactly when every skipped row is up to date. -/
theorem asFresh_iff (collected : collectViews services.platform graph = .ok views)
    (built : buildBundles services nowMs views = .ok bundles)
    (compiled : compileAll services graph nowMs signal table = .ok (summary, after)) :
    (∃ freshSummary fresh, compileAll services graph nowMs signal empty = .ok (freshSummary, fresh) ∧
        ∀ text, text ∈ after.texts ↔ text ∈ fresh.texts) ↔
      ∀ planned ∈ plannedDocuments services (planMemory services views bundles), ∀ body assertionIds,
        table.read planned.document.key = some (graph.graphVersion, body, assertionIds) →
          body = (storedDocument services signal planned.document).body ∧
            assertionIds = (storedDocument services signal planned.document).includedAssertionIds := by
  obtain ⟨_, documentRows, otherRows⟩ := read_compileAll collected built compiled
  constructor
  · rintro ⟨_, fresh, isFresh, same⟩ planned member body assertionIds isRead
    have freshRow := (read_compileAll collected built isFresh).2.1 planned member
    rw [not_isSkipped_empty, if_neg Bool.false_ne_true] at freshRow
    have row := documentRows planned member
    have skips : isSkipped table graph.graphVersion planned.document = true := by
      simp [isSkipped, isRead]
    rw [skips, if_pos rfl, isRead] at row
    -- what was skipped is among the fresh rows too
    obtain ⟨version, found⟩ := ProjectionTable.mem_texts.mp ((same _).mp (ProjectionTable.mem_texts.mpr ⟨_, row⟩))
    rw [freshRow] at found
    cases found
    exact ⟨rfl, rfl⟩
  · intro upToDate
    obtain ⟨freshSummary, fresh, isFresh⟩ := @compileAll_completes _ _ _ _ _ signal _ _ collected built empty
    obtain ⟨_, freshRows, otherFreshRows⟩ := read_compileAll collected built isFresh
    refine ⟨freshSummary, fresh, isFresh, ?_⟩
    have sameRead (key : Tier × JsString) : (after.read key).map Prod.snd = (fresh.read key).map Prod.snd := by
      by_cases isKey : key ∈ (plannedDocuments services (planMemory services views bundles)).map
          fun planned => planned.document.key
      · obtain ⟨planned, member, rfl⟩ := List.mem_map.mp isKey
        rw [documentRows planned member, freshRows planned member, not_isSkipped_empty, if_neg Bool.false_ne_true]
        split
        next skips =>
          unfold isSkipped at skips
          cases isRead : table.read planned.document.key with
          | none => simp [isRead] at skips
          | some content =>
            obtain ⟨version, body, assertionIds⟩ := content
            have sameVersion : version = graph.graphVersion := by simpa [isRead] using skips
            rw [sameVersion] at isRead
            obtain ⟨sameBody, sameIds⟩ := upToDate planned member body assertionIds isRead
            rw [sameBody, sameIds]
            rfl
        · rfl
      · rw [otherRows key isKey, otherFreshRows key isKey]
    rintro ⟨key, body, assertionIds⟩
    have texts (rows : ProjectionTable) : (key, body, assertionIds) ∈ rows.texts ↔
        (rows.read key).map Prod.snd = some (body, assertionIds) := by
      rw [ProjectionTable.mem_texts]
      simp
    rw [texts, texts, sameRead]

theorem planned_of_view_unique (built : buildBundles services nowMs views = .ok bundles) {first second : PlannedDocument}
    (isFirst : first ∈ plannedDocuments services (planMemory services views bundles))
    (isSecond : second ∈ plannedDocuments services (planMemory services views bundles)) {view : AssertionView}
    (inFirst : view ∈ first.views) (inSecond : view ∈ second.views) : first = second := by
  obtain ⟨distinct, ofViews⟩ := buildBundles_eq_ok built
  have tiers : ∀ bundle ∈ bundles, bundle.tier = .tier2 ∨ bundle.tier = .tier3 := fun bundle member =>
    (ofViews bundle member).tier
  rcases views_planned tiers isFirst inFirst with ⟨_, isProfile, ofProfile⟩ | ⟨bundle, isBundle, ofBundle, inTopics⟩
  · rcases views_planned tiers isSecond inSecond with ⟨_, _, alsoProfile⟩ | ⟨bundle, isBundle, ofBundle, _⟩
    · -- there is one profile
      unfold plannedProfile at ofProfile alsoProfile
      split at ofProfile
      · cases ofProfile
      next present =>
        rw [if_neg present] at alsoProfile
        rw [List.mem_singleton.mp ofProfile, List.mem_singleton.mp alsoProfile]
    · have isOther := ((ofViews bundle isBundle).views view ofBundle).2.1
      rw [isProfile] at isOther
      cases isOther
  · rcases views_planned tiers isSecond inSecond with ⟨_, isProfile, _⟩ | ⟨other, isOther, ofOther, alsoInTopics⟩
    · have notProfile := ((ofViews bundle isBundle).views view ofBundle).2.1
      rw [isProfile] at notProfile
      cases notProfile
    · rw [← ((ofViews bundle isBundle).views view ofBundle).2.2] at inTopics
      rw [← ((ofViews other isOther).views view ofOther).2.2] at alsoInTopics
      exact planned_unique distinct tiers isFirst isSecond inTopics alsoInTopics

section

variable (collected : collectViews services.platform graph = .ok views)
  (built : buildBundles services nowMs views = .ok bundles)

include collected built

/-- Where the rows are up to date, what is cited is what the stored documents cite. -/
theorem cited_iff (asFresh : ∃ freshSummary fresh, compileAll services graph nowMs signal empty =
      .ok (freshSummary, fresh) ∧ ∀ text, text ∈ after.texts ↔ text ∈ fresh.texts)
    (assertionId : String) :
    (∃ row ∈ after.rows, assertionId ∈ row.includedAssertionIds) ↔ IsCitedByPlan services signal views bundles assertionId := by
  obtain ⟨_, fresh, isFresh, same⟩ := asFresh
  obtain ⟨_, freshRows, otherFreshRows⟩ := read_compileAll collected built isFresh
  constructor
  · rintro ⟨row, member, isCited⟩
    have isText : (row.key, row.body, row.includedAssertionIds) ∈ after.texts := List.mem_map_of_mem member
    obtain ⟨version, isRead⟩ := ProjectionTable.mem_texts.mp ((same _).mp isText)
    by_cases isKey : row.key ∈ (plannedDocuments services (planMemory services views bundles)).map
        fun planned => planned.document.key
    · obtain ⟨planned, isPlanned, sameKey⟩ := List.mem_map.mp isKey
      have written := freshRows planned isPlanned
      rw [not_isSkipped_empty, if_neg Bool.false_ne_true, sameKey, isRead] at written
      simp only [Option.some.injEq, Prod.mk.injEq] at written
      exact ⟨planned, isPlanned, written.2.2 ▸ isCited⟩
    · rw [otherFreshRows row.key isKey] at isRead
      cases isRead
  · rintro ⟨planned, isPlanned, isCited⟩
    have written := freshRows planned isPlanned
    rw [not_isSkipped_empty, if_neg Bool.false_ne_true] at written
    obtain ⟨row, member, isRow⟩ := List.mem_map.mp ((same _).mpr (ProjectionTable.mem_texts.mpr ⟨_, written⟩))
    simp only [Prod.mk.injEq] at isRow
    exact ⟨row, member, isRow.2.2 ▸ isCited⟩

/-- What documents leave out, they count. -/
theorem counted_compileAll (compiled : compileAll services graph nowMs signal table = .ok (summary, after)) :
    (((plannedDocuments services (planMemory services views bundles)).map fun planned =>
      ((omittedViews planned.views planned.document).length : Int)).sum) ≤ summary.omittedAssertionCount := by
  rw [(read_compileAll collected built compiled).1]
  apply List.sum_le_sum
  intro planned member
  exact omitted_planned (distinct_of_collectViews collected) member

theorem stored_compileAll (compiled : compileAll services graph nowMs signal table = .ok (summary, after)) :
    ∀ bundle ∈ bundles, ∃ planned ∈ plannedDocuments services (planMemory services views bundles),
      bundle.topicKey ∈ planned.topicKeys ∧ (∀ view ∈ bundle.views, view ∈ planned.views) ∧
        planned.document.key ∈ after.rows.map ProjectionRow.key ∧
        ∀ other ∈ plannedDocuments services (planMemory services views bundles),
          bundle.topicKey ∈ other.topicKeys → other = planned := by
  intro bundle isBundle
  obtain ⟨distinct, ofViews⟩ := buildBundles_eq_ok built
  have tiers : ∀ bundle ∈ bundles, bundle.tier = .tier2 ∨ bundle.tier = .tier3 := fun bundle member =>
    (ofViews bundle member).tier
  obtain ⟨planned, member, inTopics, inViews⟩ := @planned_of_bundle _ _ services views _ tiers _ isBundle
  refine ⟨planned, member, inTopics, inViews, ?_, ?_⟩
  · -- the row is the one that was skipped, or a new one
    have row := (read_compileAll collected built compiled).2.1 planned member
    by_contra absent
    have isNone : after.read planned.document.key = none :=
      ProjectionTable.read_eq_none.mpr fun row isRow sameKey => absent (List.mem_map.mpr ⟨row, isRow, sameKey⟩)
    rw [isNone] at row
    split at row
    next skips => simp [isSkipped, ← row] at skips
    · cases row
  · intro other isOther alsoInTopics
    exact planned_unique distinct tiers isOther member alsoInTopics inTopics

end

/-- Where the rows are up to date, every view is accounted for exactly when its citation is kept. -/
theorem accounted_iff (built : buildBundles services nowMs views = .ok bundles) (isCitedBy : String → Prop) :
    (∀ view ∈ views, (view.isCore = true ∨ ∃ bundle ∈ bundles, view ∈ bundle.views) →
      isCitedBy view.assertionId ∨
        ∃ planned ∈ plannedDocuments services (planMemory services views bundles),
          view ∈ omittedViews planned.views planned.document) ↔
      (∀ planned ∈ plannedDocuments services (planMemory services views bundles),
        ∀ assertionId ∈ planned.document.includedAssertionIds, isCitedBy assertionId) ∧
      ∀ view ∈ views, view.isCore = true → view.userDemoted = true →
        (∃ bundle ∈ bundles, view ∈ bundle.views) ∨ isCitedBy view.assertionId := by
  have tiers : ∀ bundle ∈ bundles, bundle.tier = .tier2 ∨ bundle.tier = .tier3 := fun bundle member =>
    ((buildBundles_eq_ok built).2 bundle member).tier
  have ofViews := (buildBundles_eq_ok built).2
  constructor
  · intro accounted
    constructor
    · intro planned member assertionId isIncluded
      obtain ⟨view, isView, rfl⟩ := included_planned member isIncluded
      have subject : view ∈ views ∧ (view.isCore = true ∨ ∃ bundle ∈ bundles, view ∈ bundle.views) := by
        rcases views_planned tiers member isView with ⟨inViews, isProfile, _⟩ | ⟨bundle, isBundle, ofBundle, _⟩
        · unfold isProfileView at isProfile
          rw [Bool.and_eq_true] at isProfile
          exact ⟨inViews, .inl isProfile.1⟩
        · exact ⟨((ofViews bundle isBundle).views view ofBundle).1, .inr ⟨bundle, isBundle, ofBundle⟩⟩
      rcases accounted view subject.1 subject.2 with isCited | ⟨other, isOther, isOmitted⟩
      · exact isCited
      · -- the document that leaves it out is the one that includes it
        obtain ⟨inOther, notIncluded⟩ := List.mem_filter.mp isOmitted
        rw [planned_of_view_unique built isOther member inOther isView] at notIncluded
        simp [isIncluded] at notIncluded
    · intro view isView isCore isDemoted
      rcases accounted view isView (.inl isCore) with isCited | ⟨planned, member, isOmitted⟩
      · exact .inr isCited
      · obtain ⟨inPlanned, _⟩ := List.mem_filter.mp isOmitted
        rcases views_planned tiers member inPlanned with ⟨_, isProfile, _⟩ | ⟨bundle, isBundle, ofBundle, _⟩
        · simp [isProfileView, isDemoted] at isProfile
        · exact .inl ⟨bundle, isBundle, ofBundle⟩
  · rintro ⟨cites, routed⟩ view isView subject
    have placed : isCitedBy view.assertionId ∨
        ∃ planned ∈ plannedDocuments services (planMemory services views bundles), view ∈ planned.views := by
      cases isProfile : isProfileView view with
      | true => exact .inr (planned_of_profileView isView isProfile)
      | false =>
        have inBundle : isCitedBy view.assertionId ∨ ∃ bundle ∈ bundles, view ∈ bundle.views := by
          rcases subject with isCore | inBundle
          · have isDemoted : view.userDemoted = true := by simpa [isProfileView, isCore] using isProfile
            exact (routed view isView isCore isDemoted).symm
          · exact .inr inBundle
        rcases inBundle with isCited | ⟨bundle, isBundle, ofBundle⟩
        · exact .inl isCited
        · obtain ⟨planned, member, _, inViews⟩ := @planned_of_bundle _ _ services views _ tiers _ isBundle
          exact .inr ⟨planned, member, inViews view ofBundle⟩
    rcases placed with isCited | ⟨planned, member, inPlanned⟩
    · exact .inl isCited
    · by_cases isIncluded : view.assertionId ∈ planned.document.includedAssertionIds
      · exact .inl (cites planned member _ isIncluded)
      · exact .inr ⟨planned, member, List.mem_filter.mpr ⟨inPlanned, by simpa using isIncluded⟩⟩

end

/-- Compiled memory follows from the graph exactly when the skipped rows say what they should and no citation is
lost to a summary or to the routing. -/
theorem compilesAfresh_iff (services : MemoryServices Signal Number) (graph : MemoryGraph) (nowMs : Int) (signal : Signal)
    (table : ProjectionTable) :
    CompilesAfresh services graph nowMs signal table ↔
      ∀ views bundles, collectViews services.platform graph = .ok views → buildBundles services nowMs views = .ok bundles →
        IsCurrent services graph signal views bundles table := by
  constructor
  · intro afresh views bundles collected built
    obtain ⟨summary, after, compiled⟩ := @compileAll_completes _ _ _ _ _ signal _ _ collected built table
    have follows := afresh views bundles summary after collected built compiled
    have accounted := follows.accounted
    simp only [cited_iff collected built follows.asFresh] at accounted
    obtain ⟨cites, routed⟩ := (accounted_iff built (IsCitedByPlan services signal views bundles)).mp accounted
    exact ⟨(asFresh_iff collected built compiled).mp follows.asFresh, cites, routed⟩
  · intro current views bundles summary after collected built compiled
    obtain ⟨upToDate, cites, routed⟩ := current views bundles collected built
    have asFresh := (asFresh_iff collected built compiled).mpr upToDate
    refine ⟨asFresh, stored_compileAll collected built compiled, ?_, counted_compileAll collected built compiled⟩
    simp only [cited_iff collected built asFresh]
    exact (accounted_iff built (IsCitedByPlan services signal views bundles)).mpr ⟨cites, routed⟩

end

/-! ## A topic that grows old -/

/-- Rational numbers; powers of two at whole exponents. -/
def rationals : Arithmetic ℚ where
  literal := id
  add := (· + ·)
  sub := (· - ·)
  mul := (· * ·)
  div := (· / ·)
  min := fun left right => if left ≤ right then left else right
  max := fun left right => if left ≤ right then right else left
  exp2 := fun exponent =>
    if 0 ≤ exponent then 2 ^ exponent.floor.toNat else 1 / 2 ^ (-exponent.floor).toNat
  round := fun value => (value + 1 / 2).floor
  isFinite := fun _ => true
  lt := fun left right => decide (left < right)
  le := fun left right => decide (left ≤ right)
  toText := fun _ => []

def marchInstant : Int := 1772323200000

/-- Texts of small letters, and one date. -/
def samplePlatform : MemoryPlatform where
  nfc := id
  toLowerCase := id
  dateParse := fun text => if text = utf16 "2026-03-01T00:00:00.000Z" then some marchInstant else none
  toISOString := fun _ => []
  toUpperCase := fun text => text.map fun unit => if 0x61 ≤ unit.toNat && unit.toNat ≤ 0x7A then unit - 0x20 else unit
  localeCompare := fun left right => if left = right then 0 else if left ≤ right then -1 else 1

/-- A token for every character, and no summaries. -/
def sampleServices : MemoryServices Unit ℚ where
  platform := samplePlatform
  arithmetic := rationals
  count := fun text => ⟨text.length, utf16 "characters"⟩
  summarize := fun _ _ => .unchanged (utf16 "unavailable")
  targetTokens := fun _ => 1000
  tierLimits := fun _ => 10

def sampleNode (id : String) (type : NodeType) (canonicalKey : Option String) (displayName : String) : NodeRow :=
  ⟨id, type, canonicalKey, utf16 displayName, none, .personal, .active, none, none⟩

def sampleAssertion (id : String) (predicate : RelationType) (object : AssertionObject) (objectKey : ObjectKey)
    (basis : AssertionBasis) : AssertionRow where
  id := id
  assertionKey := ⟨"node_1", predicate, objectKey, none⟩
  subjectNodeId := "node_1"
  predicate := predicate
  object := object
  objectNormalizedText := none
  scopeNodeId := none
  status := .active
  basis := basis
  confidence := 1 / 2
  sensitivity := .personal
  validFromUtc := none
  validToUtc := none
  firstObservedAtUtc := "2026-03-01T00:00:00.000Z"
  lastObservedAtUtc := "2026-03-01T00:00:00.000Z"
  supersedesAssertionId := none
  createdAtUtc := "2026-03-01T00:00:00.000Z"
  ftsRowid := none

/-- The owner has a role, and made a zine: that was observed only, and is pinned. -/
def zineGraph : MemoryGraph where
  state :=
    { GraphState.empty with
      nodes := ⟨[sampleNode "node_1" .person (some OWNER_PERSON_CANONICAL_KEY) "owner",
        sampleNode "node_2" .document none "zine"], []⟩
      assertions := ⟨[sampleAssertion "ast_1" .HAS_ROLE (.literal .string (.string (utf16 "editor")))
          (.literal .string (utf16 "editor")) .explicit_user_statement,
        sampleAssertion "ast_2" .CREATED (.node "node_2") (.node "node_2") .passive_observation], []⟩ }
  pinned := fun id => id == "ast_2"
  userDemoted := fun _ => false
  graphVersion := 7
  distinct := by decide

/-- The rows after compiles at these instants, the last first. -/
def compileAt : List Int → Option ProjectionTable
  | [] => some empty
  | nowMs :: earlier =>
    (compileAt earlier).bind fun table =>
      (compileAll sampleServices zineGraph nowMs () table).toOption.map Prod.snd

theorem compileAt_cons {nowMs : Int} {earlier : List Int} {table after : ProjectionTable} {summary : CompileSummary}
    (isTable : compileAt earlier = some table)
    (compiled : compileAll sampleServices zineGraph nowMs () table = .ok (summary, after)) :
    compileAt (nowMs :: earlier) = some after := by
  rw [compileAt, isTable, Option.bind_some, compiled]
  rfl

def sixtyDays : Int := 60 * 86400000

/-- Sixty days later the zine has left the second tier, and the profile still lists it. -/
theorem stale_profile_stays : ∃ summary before,
    compileAll sampleServices zineGraph marchInstant () empty = .ok (summary, before) ∧
      ¬ CompilesAfresh sampleServices zineGraph (marchInstant + sixtyDays) () before := by
  have completes : (compileAt [marchInstant + sixtyDays, marchInstant]).isSome = true := by decide +kernel
  have differs : ∃ text ∈ ((compileAt [marchInstant + sixtyDays]).map ProjectionTable.texts).getD [],
      text ∉ ((compileAt [marchInstant + sixtyDays, marchInstant]).map ProjectionTable.texts).getD [] := by decide +kernel
  cases firstRun : compileAll sampleServices zineGraph marchInstant () empty with
  | error message =>
    have stops : compileAt [marchInstant] = none := by
      rw [compileAt, compileAt, Option.bind_some, firstRun]
      rfl
    rw [compileAt, stops] at completes
    cases completes
  | ok first =>
    obtain ⟨summary, before⟩ := first
    have isBefore : compileAt [marchInstant] = some before := compileAt_cons rfl firstRun
    refine ⟨summary, before, rfl, ?_⟩
    intro afresh
    cases laterRun : compileAll sampleServices zineGraph (marchInstant + sixtyDays) () before with
    | error message =>
      rw [compileAt, isBefore, Option.bind_some, laterRun] at completes
      cases completes
    | ok later =>
      obtain ⟨laterSummary, after⟩ := later
      obtain ⟨views, bundles, collected, built, _⟩ := compileAll_eq_ok.mp laterRun
      obtain ⟨_, fresh, isFresh, same⟩ := (afresh views bundles laterSummary after collected built laterRun).asFresh
      obtain ⟨text, inFresh, notAfter⟩ := differs
      rw [compileAt_cons rfl isFresh] at inFresh
      rw [compileAt_cons isBefore laterRun] at notAfter
      exact notAfter ((same text).mpr inFresh)

end SiftKit.Assistant.Memory
