import SiftKit.Assistant.MemoryCompiler

/-! # The documents of a plan

A compile lays its topics out and compiles one document of each place.  Every bundle has one place, and no
two documents have one key.
-/

namespace SiftKit.Assistant.Memory

open SiftKit.Failure SiftKit.Graph SiftKit.Json SiftKit.Tables OrderedMap

/-- A document with the views and the topics that it is compiled from. -/
structure PlannedDocument where
  document : CompiledDocument
  views : List AssertionView
  topicKeys : List JsString

def CompiledDocument.key (document : CompiledDocument) : Tier × JsString := (document.tier, document.topicKey)

section

variable {Signal Number : Type} (services : MemoryServices Signal Number)

def plannedTopic (keptTier2 : List (TopicBundle Number)) (bundle : TopicBundle Number) : PlannedDocument :=
  { document := compileTopic services keptTier2 bundle, views := bundle.views, topicKeys := [bundle.topicKey] }

def plannedArchive (group : JsString × List (TopicBundle Number)) : PlannedDocument :=
  { document := compileArchive services group
    views := group.2.flatMap TopicBundle.views
    topicKeys := group.2.map TopicBundle.topicKey }

def plannedProfile (plan : MemoryPlan Number) : List PlannedDocument :=
  if plan.profileViews.isEmpty && plan.keptTier2.isEmpty then []
  else
    [{ document := compileProfile services.count services.platform
        { views := plan.profileViews, tier2TopicKeys := plan.keptTier2.map TopicBundle.topicKey }
       views := plan.profileViews
       topicKeys := [] }]

/-- The documents that a compile persists, in their order. -/
def plannedDocuments (plan : MemoryPlan Number) : List PlannedDocument :=
  plannedProfile services plan ++ (plan.keptTier2 ++ plan.tier3.kept).map (plannedTopic services plan.keptTier2) ++
    (sortByKey services plan.tier3.archives.entries).map (plannedArchive services)

/-! ## Compiling is persisting the planned documents -/

/-- What the documents do, one after the other. -/
def persistAll (graphVersion : Nat) (nowMs : Int) (signal : Signal) (table : ProjectionTable)
    (documents : List CompiledDocument) : CompileProgress :=
  documents.foldl (persistWithSummary services graphVersion nowMs signal)
    { table, written := 0, unchanged := 0, omittedAssertionCount := 0, desired := [] }

variable {services}

variable {graph : MemoryGraph} {view : AssertionView}

theorem compileAll_eq_ok {nowMs : Int} {signal : Signal} {table : ProjectionTable} {summary : CompileSummary}
    {after : ProjectionTable} :
    compileAll services graph nowMs signal table = .ok (summary, after) ↔
      ∃ views bundles, collectViews services.platform graph = .ok views ∧ buildBundles services nowMs views = .ok bundles ∧
        let plan := planMemory services views bundles
        let persisted := persistAll services graph.graphVersion nowMs signal table
          ((plannedDocuments services plan).map PlannedDocument.document)
        summary = {
          written := persisted.written
          unchanged := persisted.unchanged
          demotedTopicKeys := plan.overflow.map TopicBundle.topicKey
          omittedAssertionCount := persisted.omittedAssertionCount
          deletedProjectionCount := (sweepOrphans persisted.table persisted.desired).1
          archivedTopicKeys := sortTexts (plan.tier3.archives.values.flatten.map TopicBundle.topicKey) } ∧
        after = (sweepOrphans persisted.table persisted.desired).2 := by
  unfold compileAll
  simp only [bind_eq_ok, pure_eq_ok, Prod.mk.injEq]
  -- the loops persist the planned documents in their order
  have persisted : ∀ plan : MemoryPlan Number,
      persistAll services graph.graphVersion nowMs signal table ((plannedDocuments services plan).map PlannedDocument.document) =
        (sortByKey services plan.tier3.archives.entries).foldl
          (fun progress group =>
            persistWithSummary services graph.graphVersion nowMs signal progress (compileArchive services group))
          ((plan.keptTier2 ++ plan.tier3.kept).foldl
            (fun progress bundle => persistWithSummary services graph.graphVersion nowMs signal progress
              (compileTopic services plan.keptTier2 bundle))
            (if plan.profileViews.isEmpty && plan.keptTier2.isEmpty then
              { table, written := 0, unchanged := 0, omittedAssertionCount := 0, desired := [] }
            else persistWithSummary services graph.graphVersion nowMs signal
              { table, written := 0, unchanged := 0, omittedAssertionCount := 0, desired := [] }
              (compileProfile services.count services.platform
                { views := plan.profileViews, tier2TopicKeys := plan.keptTier2.map TopicBundle.topicKey }))) := by
    intro plan
    unfold persistAll plannedDocuments plannedProfile
    rw [List.map_append, List.map_append, List.foldl_append, List.foldl_append, List.map_map, List.map_map,
      List.foldl_map, List.foldl_map]
    split <;> rfl
  constructor
  · rintro ⟨views, collected, bundles, built, rest⟩
    refine ⟨views, bundles, collected, built, ?_⟩
    simp only [persisted]
    exact ⟨rest.1.symm, rest.2.symm⟩
  · rintro ⟨views, bundles, collected, built, rest⟩
    simp only [persisted] at rest
    exact ⟨views, collected, bundles, built, rest.1.symm, rest.2.symm⟩

/-! ## Topics -/

theorem mem_groupByTopic {views : List AssertionView} {topic : JsString × List AssertionView}
    (member : topic ∈ (groupByTopic views).entries) :
    (∃ view ∈ views, view.topicKey = topic.1) ∧
      ∀ view ∈ topic.2, view ∈ views ∧ isProfileView view = false ∧ view.topicKey = topic.1 := by
  unfold groupByTopic at member
  suffices general : ∀ (later : List AssertionView) (byTopic : OrderedMap JsString (List AssertionView)),
      (∀ view ∈ later, view ∈ views ∧ isProfileView view = false) →
      (∀ topic ∈ byTopic.entries, (∃ view ∈ views, view.topicKey = topic.1) ∧
        ∀ view ∈ topic.2, view ∈ views ∧ isProfileView view = false ∧ view.topicKey = topic.1) →
      ∀ topic ∈ (later.foldl (fun byTopic view =>
          byTopic.set view.topicKey ((byTopic.get? view.topicKey).getD [] ++ [view])) byTopic).entries,
        (∃ view ∈ views, view.topicKey = topic.1) ∧
          ∀ view ∈ topic.2, view ∈ views ∧ isProfileView view = false ∧ view.topicKey = topic.1 by
    apply general _ empty _ _ topic member
    · intro view isLater
      rw [List.mem_filter] at isLater
      exact ⟨isLater.1, by simpa using isLater.2⟩
    · intro topic absent
      cases absent
  clear member topic
  intro later
  induction later with
  | nil => exact fun _ _ holds => holds
  | cons view rest ih =>
    intro byTopic isLater holds
    rw [List.foldl_cons]
    apply ih _ (fun other isRest => isLater other (List.mem_cons_of_mem _ isRest))
    obtain ⟨isView, isOther⟩ := isLater view List.mem_cons_self
    rintro ⟨key, items⟩ member
    have found := get?_eq_some.mpr member
    rw [get?_set] at found
    split at found
    next same =>
      -- the topic of this view grows by it
      cases found
      refine ⟨⟨view, isView, same.symm⟩, fun other isItem => ?_⟩
      rcases List.mem_append.mp isItem with old | new
      · cases present : byTopic.get? view.topicKey with
        | none => simp [present] at old
        | some before =>
          rw [present, Option.getD_some] at old
          have wasItem := (holds _ (get?_eq_some.mp present)).2 other old
          exact ⟨wasItem.1, wasItem.2.1, wasItem.2.2.trans same.symm⟩
      · rw [List.mem_singleton.mp new]
        exact ⟨isView, isOther, same.symm⟩
    · exact holds (key, items) (get?_eq_some.mp found)

/-- What a bundle is made of. -/
structure BundleOf (views : List AssertionView) (bundle : TopicBundle Number) : Prop where
  key : ∃ view ∈ views, view.topicKey = bundle.topicKey
  views : ∀ view ∈ bundle.views, view ∈ views ∧ isProfileView view = false ∧ view.topicKey = bundle.topicKey
  tier : bundle.tier = .tier2 ∨ bundle.tier = .tier3

theorem buildBundle_eq_ok {nowMs : Int} {topic : JsString × List AssertionView} {bundle : TopicBundle Number}
    (built : buildBundle services nowMs topic = .ok (some bundle)) :
    bundle.topicKey = topic.1 ∧ bundle.views = topic.2 ∧ (bundle.tier = .tier2 ∨ bundle.tier = .tier3) := by
  unfold buildBundle at built
  simp only [bind_eq_ok] at built
  obtain ⟨utility, _, routed⟩ := built
  split at routed
  · cases pure_eq_ok.mp routed
  · cases pure_eq_ok.mp routed
  next tier notProfile isTier =>
    have same := pure_eq_ok.mp routed
    cases same
    refine ⟨rfl, rfl, ?_⟩
    cases tier with
    | tier1 => exact absurd rfl notProfile
    | tier2 => exact .inl rfl
    | tier3 => exact .inr rfl

theorem buildBundles_eq_ok {nowMs : Int} {views : List AssertionView} {bundles : List (TopicBundle Number)}
    (built : buildBundles services nowMs views = .ok bundles) :
    (bundles.map TopicBundle.topicKey).Nodup ∧ ∀ bundle ∈ bundles, BundleOf views bundle := by
  unfold buildBundles at built
  simp only [bind_eq_ok, pure_eq_ok] at built
  obtain ⟨results, rounds, rfl⟩ := built
  constructor
  · have distinct : ((sortByKey services (groupByTopic views).entries).map Prod.fst).Nodup :=
      ((perm_orderBy _ _).map Prod.fst).nodup_iff.mpr (groupByTopic views).distinct
    have related := mapM_eq_ok.mp rounds
    have fewer : ((results.filterMap id).map TopicBundle.topicKey).Sublist
        ((sortByKey services (groupByTopic views).entries).map Prod.fst) := by
      clear distinct rounds
      generalize sortByKey services (groupByTopic views).entries = topics at related
      induction related with
      | nil => exact List.Sublist.slnil
      | @cons topic result topics results head _ ih =>
        cases result with
        | none => exact ih.cons _
        | some bundle =>
          have sameKey := (buildBundle_eq_ok head).1
          have kept : (some bundle :: results).filterMap id = bundle :: results.filterMap id := rfl
          rw [kept, List.map_cons, List.map_cons, sameKey]
          exact ih.cons_cons _
    exact fewer.nodup distinct
  · intro bundle member
    obtain ⟨result, isResult, isBundle⟩ := List.mem_filterMap.mp member
    obtain ⟨topic, isTopic, round⟩ := mem_of_mapM rounds isResult
    rw [id] at isBundle
    rw [isBundle] at round
    obtain ⟨sameKey, sameViews, tier⟩ := buildBundle_eq_ok round
    obtain ⟨key, ofTopic⟩ := mem_groupByTopic (mem_orderBy.mp isTopic)
    rw [← sameKey] at key ofTopic
    rw [← sameViews] at ofTopic
    exact ⟨key, ofTopic, tier⟩

section

variable {views : List AssertionView} (collected : collectViews services.platform graph = .ok views)

include collected

theorem slash_not_mem_of_collectViews (member : view ∈ views) :
    (0x2F : CodeUnit) ∉ view.topicKey := by
  unfold collectViews at collected
  split at collected
  · cases collected
    cases member
  · simp only [bind_eq_ok, pure_eq_ok] at collected
    obtain ⟨all, rounds, rfl⟩ := collected
    obtain ⟨row, _, round⟩ := mem_of_mapM rounds (List.mem_of_mem_filter member)
    unfold buildView at round
    simp only [bind_eq_ok, pure_eq_ok] at round
    obtain ⟨subject, _, objectNode, _, scopeNode, _, objectText, _, rfl⟩ := round
    exact slash_not_mem_toTopicKey services.platform _

theorem distinct_of_collectViews : (views.map AssertionView.assertionId).Nodup := by
  unfold collectViews at collected
  split at collected
  · cases collected
    exact List.nodup_nil
  next owner _ =>
    simp only [bind_eq_ok, pure_eq_ok] at collected
    obtain ⟨all, rounds, rfl⟩ := collected
    apply (List.filter_sublist.map AssertionView.assertionId).nodup
    have sameIds : ∀ {rows : List AssertionRow} {built : List AssertionView},
        List.Forall₂ (fun row view => buildView services.platform graph row = .ok view) rows built →
          built.map AssertionView.assertionId = rows.map AssertionRow.id := by
      intro rows built related
      induction related with
      | nil => rfl
      | cons round _ ih =>
        unfold buildView at round
        simp only [bind_eq_ok, pure_eq_ok] at round
        obtain ⟨subject, _, objectNode, _, scopeNode, _, objectText, _, rfl⟩ := round
        simp only [List.map_cons, ih]
    rw [sameIds (mapM_eq_ok.mp rounds)]
    apply (List.filter_sublist.map AssertionRow.id).nodup
    apply ((perm_orderBy _ _).map AssertionRow.id).nodup_iff.mpr
    exact (List.filter_sublist.map AssertionRow.id).nodup graph.distinct

end

/-! ## Archives -/

section

variable {Topic : Type} {topicKey : Topic → JsString}

/-- Popping moves topics, and every archive has a key of its own kind. -/
theorem popTopics_perm (limit : Nat) (topics : List Topic) (archives : OrderedMap JsString (List Topic)) :
    ((popTopics topicKey limit topics archives).1 ++ (popTopics topicKey limit topics archives).2.values.flatten).Perm
      (topics ++ archives.values.flatten) := by
  induction topics generalizing archives with
  | nil => exact .refl _
  | cons lowest rest ih =>
    unfold popTopics
    split
    · let key := archiveKey (topicKey lowest)
      have grown : (archives.set key ((archives.get? key).getD [] ++ [lowest])).values.flatten.Perm
          (archives.values.flatten ++ [lowest]) := flatten_setEntry archives.entries key lowest
      calc _ = (popTopics topicKey limit rest (archives.set key ((archives.get? key).getD [] ++ [lowest]))).1 ++
            (popTopics topicKey limit rest (archives.set key ((archives.get? key).getD [] ++ [lowest]))).2.values.flatten := rfl
        List.Perm _ (rest ++ (archives.set key ((archives.get? key).getD [] ++ [lowest])).values.flatten) :=
          ih _
        List.Perm _ (rest ++ (archives.values.flatten ++ [lowest])) := List.Perm.append_left _ grown
        List.Perm _ (lowest :: rest ++ archives.values.flatten) := by
          rw [← List.append_assoc]
          exact List.perm_append_comm
    · exact .refl _

def IsArchiveKey (key : JsString) : Prop := (0x2F : CodeUnit) ∈ key

theorem isArchiveKey_archiveKey (key : JsString) : IsArchiveKey (archiveKey key) := by
  have slash : (0x2F : CodeUnit) ∈ utf16 "archive/" := by decide +kernel
  exact List.mem_append_left _ slash

theorem popTopics_keys (limit : Nat) (topics : List Topic) (archives : OrderedMap JsString (List Topic))
    (keys : ∀ key ∈ archives.keys, IsArchiveKey key) :
    ∀ key ∈ (popTopics topicKey limit topics archives).2.keys, IsArchiveKey key := by
  induction topics generalizing archives with
  | nil => exact keys
  | cons lowest rest ih =>
    unfold popTopics
    split
    · apply ih
      intro key member
      rw [keys_set] at member
      split at member
      · exact keys key member
      · rcases List.mem_append.mp member with old | new
        · exact keys key old
        · rw [List.mem_singleton.mp new]
          exact isArchiveKey_archiveKey _
    · exact keys

theorem planTier3Archives_perm (topics : List Topic) (limit : Nat) :
    ((planTier3Archives topicKey topics limit).kept ++ (planTier3Archives topicKey topics limit).archives.values.flatten).Perm
      topics := by
  have popped := @popTopics_perm Topic topicKey limit topics.reverse empty
  have isInput : (topics.reverse ++ (empty : OrderedMap JsString (List Topic)).values.flatten).Perm topics := by
    have none : (empty : OrderedMap JsString (List Topic)).values.flatten = [] := rfl
    rw [none, List.append_nil]
    exact List.reverse_perm topics
  unfold planTier3Archives
  generalize popTopics topicKey limit topics.reverse empty = result at popped
  obtain ⟨kept, archives⟩ := result
  have whole : (kept.reverse ++ archives.values.flatten).Perm topics :=
    ((List.Perm.append_right _ (List.reverse_perm kept)).trans popped).trans isInput
  simp only
  split
  · -- one archive holds what all of them held
    have merged : (empty.set (utf16 "archive/misc") archives.values.flatten).values.flatten =
        archives.values.flatten := by
      rw [values, set_absent (by simp [OrderedMap.keys, empty])]
      simp [empty]
    simp only [merged]
    exact whole
  · exact whole

theorem planTier3Archives_keys (topics : List Topic) (limit : Nat) :
    ∀ key ∈ (planTier3Archives topicKey topics limit).archives.keys, IsArchiveKey key := by
  have popped := @popTopics_keys Topic topicKey limit topics.reverse empty (fun _ absent => nomatch absent)
  unfold planTier3Archives
  simp only
  split
  · intro key member
    simp only [keys_set] at member
    have misc : IsArchiveKey (utf16 "archive/misc") := by unfold IsArchiveKey; decide +kernel
    have only : key = utf16 "archive/misc" := by simpa [OrderedMap.keys, empty] using member
    rw [only]
    exact misc
  · exact popped

end

/-! ## Places -/

/-- What of a bundle does not depend on where it is put. -/
def TopicBundle.content (bundle : TopicBundle Number) : JsString × List AssertionView := (bundle.topicKey, bundle.views)

/-- The bundles as a plan puts them. -/
def MemoryPlan.placed (plan : MemoryPlan Number) : List (TopicBundle Number) :=
  plan.keptTier2 ++ plan.tier3.kept ++ plan.tier3.archives.values.flatten

variable {views : List AssertionView} {bundles : List (TopicBundle Number)}

theorem content_placed_perm (tiers : ∀ bundle ∈ bundles, bundle.tier = .tier2 ∨ bundle.tier = .tier3) :
    ((planMemory services views bundles).placed.map TopicBundle.content).Perm (bundles.map TopicBundle.content) := by
  let tier2 := sortByUtility services (bundles.filter fun bundle => bundle.tier == .tier2)
  let overflow := tier2.drop (services.tierLimits .tier2)
  let lowered := overflow.map fun bundle => { bundle with tier := Tier.tier3 }
  let tier3 := bundles.filter fun bundle => bundle.tier == .tier3
  have sameContent : lowered.map TopicBundle.content = overflow.map TopicBundle.content := by
    simp only [lowered, List.map_map]
    rfl
  have archived : ((planMemory services views bundles).tier3.kept ++
      (planMemory services views bundles).tier3.archives.values.flatten).Perm (tier3 ++ lowered) :=
    (planTier3Archives_perm _ _).trans (perm_orderBy _ _)
  have sorted : tier2.Perm (bundles.filter fun bundle => bundle.tier == .tier2) := perm_orderBy _ _
  have others : (bundles.filter fun bundle => !(bundle.tier == .tier2)) = tier3 := by
    apply List.filter_congr
    intro bundle member
    rcases tiers bundle member with isTier | isTier <;> rw [isTier] <;> rfl
  have split : ((bundles.filter fun bundle => bundle.tier == .tier2) ++ tier3).Perm bundles := by
    rw [← others]
    exact List.filter_append_perm _ bundles
  calc _ = ((planMemory services views bundles).keptTier2 ++ ((planMemory services views bundles).tier3.kept ++
        (planMemory services views bundles).tier3.archives.values.flatten)).map TopicBundle.content := by
          rw [MemoryPlan.placed, List.append_assoc]
    List.Perm _ ((tier2.take (services.tierLimits .tier2) ++ (tier3 ++ lowered)).map TopicBundle.content) :=
      (List.Perm.append_left _ archived).map _
    List.Perm _ ((tier2.take (services.tierLimits .tier2) ++ (overflow ++ tier3)).map TopicBundle.content) := by
      simp only [List.map_append, sameContent]
      exact List.Perm.append_left _ List.perm_append_comm
    List.Perm _ ((tier2 ++ tier3).map TopicBundle.content) := by
      rw [← List.append_assoc, List.take_append_drop]
    List.Perm _ (bundles.map TopicBundle.content) := ((List.Perm.append_right _ sorted).trans split).map _

theorem tier_placed :
    (∀ bundle ∈ (planMemory services views bundles).keptTier2, bundle.tier = .tier2) ∧
      ∀ bundle ∈ (planMemory services views bundles).tier3.kept, bundle.tier = .tier3 := by
  constructor
  · intro bundle member
    have isTier2 := (List.mem_filter.mp (mem_orderBy.mp (List.mem_of_mem_take member))).2
    simpa using isTier2
  · intro bundle member
    have isInput := (planTier3Archives_perm _ _).subset (List.mem_append_left _ member)
    rcases List.mem_append.mp (mem_orderBy.mp isInput) with isTier3 | isLowered
    · simpa using (List.mem_filter.mp isTier3).2
    · obtain ⟨original, _, rfl⟩ := List.mem_map.mp isLowered
      rfl

section

variable (tiers : ∀ bundle ∈ bundles, bundle.tier = .tier2 ∨ bundle.tier = .tier3)

include tiers

theorem topicKeys_planned_perm :
    ((plannedDocuments services (planMemory services views bundles)).flatMap PlannedDocument.topicKeys).Perm
      (bundles.map TopicBundle.topicKey) := by
  have placed := (@content_placed_perm _ _ services views _ tiers).map Prod.fst
  rw [List.map_map, List.map_map] at placed
  generalize planMemory services views bundles = plan at placed
  have profile : (plannedProfile services plan).flatMap PlannedDocument.topicKeys = [] := by
    unfold plannedProfile
    split <;> rfl
  have topics : ((plan.keptTier2 ++ plan.tier3.kept).map (plannedTopic services plan.keptTier2)).flatMap
      PlannedDocument.topicKeys = (plan.keptTier2 ++ plan.tier3.kept).map TopicBundle.topicKey := by
    rw [List.flatMap_map, List.map_eq_flatMap]
    rfl
  have archives : (((sortByKey services plan.tier3.archives.entries).map (plannedArchive services)).flatMap
      PlannedDocument.topicKeys).Perm (plan.tier3.archives.values.flatten.map TopicBundle.topicKey) := by
    rw [List.flatMap_map, values, List.map_flatten, List.map_map, ← List.flatMap_def]
    exact (perm_orderBy _ _).flatMap_right _
  unfold plannedDocuments
  rw [List.flatMap_append, List.flatMap_append, profile, topics, List.nil_append]
  rw [MemoryPlan.placed, List.map_append] at placed
  exact (List.Perm.append_left _ archives).trans placed

theorem views_planned {planned : PlannedDocument} (member : planned ∈ plannedDocuments services (planMemory services views bundles))
    (isView : view ∈ planned.views) :
    (view ∈ views ∧ isProfileView view = true ∧ planned ∈ plannedProfile services (planMemory services views bundles)) ∨
      ∃ bundle ∈ bundles, view ∈ bundle.views ∧ bundle.topicKey ∈ planned.topicKeys := by
  have placed := @content_placed_perm _ _ services views _ tiers
  -- a bundle in its place has its topic and its views
  have original {bundle : TopicBundle Number} (isPlaced : bundle ∈ (planMemory services views bundles).placed) :
      ∃ before ∈ bundles, before.topicKey = bundle.topicKey ∧ before.views = bundle.views := by
    obtain ⟨before, isBefore, same⟩ := List.mem_map.mp (placed.subset (List.mem_map_of_mem isPlaced))
    exact ⟨before, isBefore, congrArg Prod.fst same, congrArg Prod.snd same⟩
  unfold plannedDocuments at member
  rcases List.mem_append.mp member with front | isArchive
  · rcases List.mem_append.mp front with isProfile | isTopic
    · left
      have profile := isProfile
      unfold plannedProfile at profile
      split at profile
      · cases profile
      · rw [List.mem_singleton.mp profile] at isView
        have inProfile := List.mem_filter.mp isView
        exact ⟨inProfile.1, by simpa using inProfile.2, isProfile⟩
    · right
      obtain ⟨bundle, isBundle, rfl⟩ := List.mem_map.mp isTopic
      obtain ⟨before, isBefore, sameKey, sameViews⟩ := original (List.mem_append_left _ isBundle)
      exact ⟨before, isBefore, by rw [sameViews]; exact isView, by rw [sameKey]; exact List.mem_singleton_self _⟩
  · right
    obtain ⟨group, isGroup, rfl⟩ := List.mem_map.mp isArchive
    obtain ⟨bundle, isBundle, isOfBundle⟩ := List.mem_flatMap.mp isView
    have isArchived : bundle ∈ (planMemory services views bundles).tier3.archives.values.flatten :=
      List.mem_flatten.mpr ⟨group.2, List.mem_map_of_mem (mem_orderBy.mp isGroup), isBundle⟩
    obtain ⟨before, isBefore, sameKey, sameViews⟩ := original (List.mem_append_right _ isArchived)
    exact ⟨before, isBefore, by rw [sameViews]; exact isOfBundle, by rw [sameKey]; exact List.mem_map_of_mem isBundle⟩

theorem planned_of_bundle {bundle : TopicBundle Number} (member : bundle ∈ bundles) :
    ∃ planned ∈ plannedDocuments services (planMemory services views bundles),
      bundle.topicKey ∈ planned.topicKeys ∧ ∀ view ∈ bundle.views, view ∈ planned.views := by
  have placed := @content_placed_perm _ _ services views _ tiers
  obtain ⟨put, isPut, same⟩ := List.mem_map.mp (placed.symm.subset (List.mem_map_of_mem member))
  have sameKey : put.topicKey = bundle.topicKey := congrArg Prod.fst same
  have sameViews : put.views = bundle.views := congrArg Prod.snd same
  rw [← sameKey, ← sameViews]
  unfold MemoryPlan.placed at isPut
  rcases List.mem_append.mp isPut with isTopic | isArchived
  · refine ⟨plannedTopic services (planMemory services views bundles).keptTier2 put, ?_, List.mem_singleton_self _,
      fun _ isView => isView⟩
    exact List.mem_append_left _ (List.mem_append_right _ (List.mem_map_of_mem isTopic))
  · obtain ⟨items, isItems, isItem⟩ := List.mem_flatten.mp isArchived
    obtain ⟨group, isGroup, rfl⟩ := List.mem_map.mp isItems
    refine ⟨plannedArchive services group, ?_, List.mem_map_of_mem isItem,
      fun view isView => List.mem_flatMap.mpr ⟨put, isItem, isView⟩⟩
    exact List.mem_append_right _ (List.mem_map_of_mem (mem_orderBy.mpr isGroup))

end

theorem planned_of_profileView (member : view ∈ views) (isProfile : isProfileView view = true) :
    ∃ planned ∈ plannedDocuments services (planMemory services views bundles), view ∈ planned.views := by
  have inProfile : view ∈ (planMemory services views bundles).profileViews :=
    List.mem_filter.mpr ⟨member, by simpa using isProfile⟩
  have present : (planMemory services views bundles).profileViews.isEmpty = false := by
    cases isEmpty : (planMemory services views bundles).profileViews with
    | nil => rw [isEmpty] at inProfile; cases inProfile
    | cons _ _ => rfl
  have isPlanned : ∃ planned ∈ plannedProfile services (planMemory services views bundles), view ∈ planned.views := by
    unfold plannedProfile
    simp only [present, Bool.false_and, Bool.false_eq_true, if_false]
    exact ⟨_, List.mem_singleton_self _, inProfile⟩
  obtain ⟨planned, isDocument, isView⟩ := isPlanned
  exact ⟨planned, List.mem_append_left _ (List.mem_append_left _ isDocument), isView⟩

section

variable (distinct : (bundles.map TopicBundle.topicKey).Nodup)
  (tiers : ∀ bundle ∈ bundles, bundle.tier = .tier2 ∨ bundle.tier = .tier3)

include distinct tiers

theorem keys_planned_nodup (noSlash : ∀ bundle ∈ bundles, (0x2F : CodeUnit) ∉ bundle.topicKey) :
    ((plannedDocuments services (planMemory services views bundles)).map fun planned => planned.document.key).Nodup := by
  have placedKeys : ((planMemory services views bundles).placed.map TopicBundle.topicKey).Perm
      (bundles.map TopicBundle.topicKey) := by
    have placed := (@content_placed_perm _ _ services views _ tiers).map Prod.fst
    rw [List.map_map, List.map_map] at placed
    exact placed
  have archiveKeys := @planTier3Archives_keys (TopicBundle Number) TopicBundle.topicKey
    (sortByUtility services ((bundles.filter fun bundle => bundle.tier == .tier3) ++
      ((sortByUtility services (bundles.filter fun bundle => bundle.tier == .tier2)).drop (services.tierLimits .tier2)).map
        fun bundle => { bundle with tier := .tier3 })) (services.tierLimits .tier3)
  have tiersPlaced := @tier_placed _ _ services views bundles
  change ∀ key ∈ (planMemory services views bundles).tier3.archives.keys, IsArchiveKey key at archiveKeys
  generalize planMemory services views bundles = plan at placedKeys archiveKeys tiersPlaced
  have profileKey : ∀ planned ∈ plannedProfile services plan, planned.document.key = (.tier1, utf16 "profile") := by
    intro planned member
    unfold plannedProfile at member
    split at member
    · cases member
    · rw [List.mem_singleton.mp member]
      rfl
  have topicKey : ∀ planned ∈ (plan.keptTier2 ++ plan.tier3.kept).map (plannedTopic services plan.keptTier2),
      planned.document.key.1 ≠ .tier1 ∧ (0x2F : CodeUnit) ∉ planned.document.key.2 := by
    intro planned member
    obtain ⟨bundle, isBundle, rfl⟩ := List.mem_map.mp member
    constructor
    · show bundle.tier ≠ .tier1
      rcases List.mem_append.mp isBundle with isTier2 | isTier3
      · simp [tiersPlaced.1 bundle isTier2]
      · simp [tiersPlaced.2 bundle isTier3]
    · show (0x2F : CodeUnit) ∉ bundle.topicKey
      have isPlaced : bundle.topicKey ∈ plan.placed.map TopicBundle.topicKey :=
        List.mem_map_of_mem (List.mem_append_left _ isBundle)
      obtain ⟨original, isOriginal, sameKey⟩ := List.mem_map.mp (placedKeys.subset isPlaced)
      rw [← sameKey]
      exact noSlash original isOriginal
  have archiveKey : ∀ planned ∈ (sortByKey services plan.tier3.archives.entries).map (plannedArchive services),
      planned.document.key.1 = .tier3 ∧ (0x2F : CodeUnit) ∈ planned.document.key.2 := by
    intro planned member
    obtain ⟨group, isGroup, rfl⟩ := List.mem_map.mp member
    exact ⟨rfl, archiveKeys _ (List.mem_map_of_mem (mem_orderBy.mp isGroup))⟩
  have profileNodup : ((plannedProfile services plan).map fun planned => planned.document.key).Nodup := by
    unfold plannedProfile
    split <;> simp
  have topicNodup : (((plan.keptTier2 ++ plan.tier3.kept).map (plannedTopic services plan.keptTier2)).map
      fun planned => planned.document.key).Nodup := by
    apply List.Nodup.of_map Prod.snd
    rw [List.map_map, List.map_map]
    have placedNodup := placedKeys.nodup_iff.mpr distinct
    rw [MemoryPlan.placed, List.map_append] at placedNodup
    exact (List.nodup_append.mp placedNodup).1
  have archiveNodup : (((sortByKey services plan.tier3.archives.entries).map (plannedArchive services)).map
      fun planned => planned.document.key).Nodup := by
    apply List.Nodup.of_map Prod.snd
    rw [List.map_map, List.map_map]
    exact ((perm_orderBy _ _).map Prod.fst).nodup_iff.mpr plan.tier3.archives.distinct
  unfold plannedDocuments
  rw [List.map_append, List.map_append, List.nodup_append, List.nodup_append]
  refine ⟨⟨profileNodup, topicNodup, ?_⟩, archiveNodup, ?_⟩
  · rintro key isProfile other isTopic rfl
    obtain ⟨planned, member, rfl⟩ := List.mem_map.mp isProfile
    obtain ⟨topic, isPlanned, sameKey⟩ := List.mem_map.mp isTopic
    have notFirst := (topicKey topic isPlanned).1
    rw [sameKey, profileKey planned member] at notFirst
    exact notFirst rfl
  · rintro key isFront other isArchive rfl
    obtain ⟨archive, isPlanned, rfl⟩ := List.mem_map.mp isArchive
    have isKey := archiveKey archive isPlanned
    rcases List.mem_append.mp isFront with isProfile | isTopic
    · obtain ⟨planned, member, sameKey⟩ := List.mem_map.mp isProfile
      rw [← sameKey, profileKey planned member] at isKey
      cases isKey.1
    · obtain ⟨topic, member, sameKey⟩ := List.mem_map.mp isTopic
      have noSlash := (topicKey topic member).2
      rw [sameKey] at noSlash
      exact noSlash isKey.2

theorem planned_unique {first second : PlannedDocument}
    (isFirst : first ∈ plannedDocuments services (planMemory services views bundles))
    (isSecond : second ∈ plannedDocuments services (planMemory services views bundles)) {topicKey : JsString}
    (inFirst : topicKey ∈ first.topicKeys) (inSecond : topicKey ∈ second.topicKeys) : first = second := by
  have nodup := (@topicKeys_planned_perm _ _ services views _ tiers).nodup_iff.mpr distinct
  by_contra apart
  have disjoint := (List.nodup_flatMap.mp nodup).2
  have : Std.Symm (Function.onFun List.Disjoint PlannedDocument.topicKeys) := ⟨fun _ _ apart => List.Disjoint.symm apart⟩
  exact disjoint.forall isFirst isSecond apart inFirst inSecond

end

end

end SiftKit.Assistant.Memory
