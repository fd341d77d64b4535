import SiftKit.Assistant.MemoryPlan
import SiftKit.Foundation.Sections

/-! # What documents leave out

The views whose assertions a document does not include are counted as omitted: a line that the token limit
keeps cites its assertion, so what is not included was never on a line, or was on one that was dropped.
-/

namespace SiftKit.Assistant.Memory

open SiftKit.Graph SiftKit.Json SiftKit.Sections SiftKit.Tables

/-! ## Lines -/

theorem infix_joinLines {lines : List JsString} {line : JsString} (member : line ∈ lines) : line <:+: joinLines lines := by
  unfold joinLines
  induction lines with
  | nil => cases member
  | cons first rest ih =>
    cases rest with
    | nil =>
      rw [List.mem_singleton.mp member]
      simp
    | cons second others =>
      rw [List.intercalate_cons_cons]
      rcases List.mem_cons.mp member with rfl | later
      · rw [List.append_assoc]
        exact (List.prefix_append _ _).isInfix
      · exact (ih later).trans (List.suffix_append _ _).isInfix

theorem lost_le_dropped (lines : List JsString) (dropped : Nat) :
    lines.countP (fun line => !decide (line <:+: bodyFor lines dropped)) ≤ dropped := by
  unfold bodyFor
  split
  · rw [List.countP_eq_zero.mpr]
    · exact Nat.zero_le _
    · intro line member
      simp [infix_joinLines member]
  · let removed := (citedIndices lines).drop ((citedIndices lines).length - dropped)
    -- a line in a place that stays is in the body
    have stays : ∀ entry ∈ lines.zipIdx, (!decide (entry.1 <:+: joinLines (keptLines lines dropped))) = true →
        removed.contains entry.2 = true := by
      intro entry member lost
      by_contra notRemoved
      have kept : entry.1 ∈ keptLines lines dropped :=
        List.mem_map_of_mem (List.mem_filter.mpr ⟨member, by simpa [removed] using notRemoved⟩)
      simp [infix_joinLines kept] at lost
    have places : (lines.zipIdx.map Prod.snd).Nodup := by
      rw [List.zipIdx_map_snd]
      exact List.nodup_range'
    have onPlaces : ∀ counts : JsString → Bool, lines.countP counts = lines.zipIdx.countP fun entry => counts entry.1 := by
      intro counts
      have mapped := @List.countP_map _ _ counts (fun entry : JsString × Nat => entry.1) lines.zipIdx
      rw [List.zipIdx_map_fst] at mapped
      exact mapped
    calc lines.countP (fun line => !decide (line <:+: joinLines (keptLines lines dropped)))
        = lines.zipIdx.countP (fun entry => !decide (entry.1 <:+: joinLines (keptLines lines dropped))) := by
          exact onPlaces _
      _ ≤ lines.zipIdx.countP (fun entry => removed.contains entry.2) := List.countP_mono_left stays
      _ = ((lines.zipIdx.map Prod.snd).filter removed.contains).length := by
          rw [← List.countP_eq_length_filter, List.countP_map]
          rfl
      _ ≤ removed.length := by
          apply List.Subperm.length_le
          apply List.subperm_of_subset (places.filter _)
          intro place member
          simpa using (List.mem_filter.mp member).2
      _ ≤ dropped := by
          simp only [removed, List.length_drop]
          omega

theorem enforce_lost (count : JsString → TokenCount) (lines : List JsString) (tokenLimit : Nat) :
    lines.countP (fun line => !decide (line <:+: (enforce count lines tokenLimit).body)) ≤
      (enforce count lines tokenLimit).droppedLines := by
  unfold enforce
  simp only
  split
  · exact lost_le_dropped lines 0
  · split
    · exact lost_le_dropped lines 0
    · exact lost_le_dropped lines _

/-! ## Documents -/

section

variable (count : JsString → TokenCount) (platform : MemoryPlatform)

/-- The views that a document does not include. -/
def omittedViews (views : List AssertionView) (document : CompiledDocument) : List AssertionView :=
  views.filter fun view => !document.includedAssertionIds.contains view.assertionId

theorem perm_sortByValue (views : List AssertionView) : (sortByValue platform views).Perm views := perm_orderBy _ _

theorem citation_infix_of_sentence {body : JsString} {view : AssertionView}
    (within : renderAssertionSentence platform view <:+: body) : isCited body view.assertionId = true := by
  unfold isCited
  simpa using (citation_infix_renderAssertionSentence platform view).trans within

theorem dossier_sections_apart (view : AssertionView) : (DOSSIER_SECTIONS.countP fun part => part.2 view) ≤ 1 := by
  have table : ∀ (uncertain : Bool) (predicate : RelationType),
      [!uncertain && STABLE_PREDICATES.contains predicate, !uncertain && !CLAIMED_PREDICATES.contains predicate,
        !uncertain && PREFERENCE_PREDICATES.contains predicate, !uncertain && GOAL_PREDICATES.contains predicate,
        !uncertain && CHRONOLOGY_PREDICATES.contains predicate, uncertain].countP id ≤ 1 := by
    intro uncertain predicate
    cases uncertain <;> cases predicate <;> decide
  exact table (isUncertain view) view.predicate

theorem omitted_compileDossier (request : DossierCompileRequest) :
    ((omittedViews request.views (compileDossier count platform request)).length : Int) ≤
      (compileDossier count platform request).omittedAssertionCount := by
  let document := compileDossier count platform request
  let eligible := sortByValue platform (request.views.filter isProjectableInPlaintext)
  let isIncluded (view : AssertionView) : Bool := document.includedAssertionIds.contains view.assertionId
  have apart : ∀ view ∈ eligible, ((DOSSIER_SECTIONS.map Prod.snd).countP fun part => part view) ≤ 1 := by
    intro view _
    rw [List.countP_map]
    exact dossier_sections_apart view
  have included : document.includedAssertionIds.length ≤ request.views.countP isIncluded := by
    calc document.includedAssertionIds.length
        = (DOSSIER_SECTIONS.map fun part =>
            (eligible.filter part.2).countP fun view => isCited document.body view.assertionId).sum := by
          show ((request.ids platform).filter (isCited document.body)).length = _
          rw [← List.countP_eq_length_filter, DossierCompileRequest.ids, List.countP_flatMap]
          congr 1
          apply List.map_congr_left
          intro part _
          simp only [Function.comp_apply, List.countP_map]
          rfl
      _ ≤ (DOSSIER_SECTIONS.map fun part => (eligible.filter part.2).countP isIncluded).sum := by
          apply List.sum_le_sum
          intro part isPart
          apply List.countP_mono_left
          intro view member cited
          have listed : view.assertionId ∈ request.ids platform :=
            List.mem_flatMap.mpr ⟨part, isPart, List.mem_map_of_mem member⟩
          have kept : view.assertionId ∈ document.includedAssertionIds := List.mem_filter.mpr ⟨listed, cited⟩
          simpa [isIncluded] using kept
      _ = ((DOSSIER_SECTIONS.map Prod.snd).map fun part => (eligible.filter part).countP isIncluded).sum := by
          rw [List.map_map]
          rfl
      _ ≤ eligible.countP isIncluded := sum_sections_le_countP apart
      _ = (request.views.filter isProjectableInPlaintext).countP isIncluded := (perm_sortByValue platform _).countP_eq _
      _ ≤ request.views.countP isIncluded := List.filter_sublist.countP_le
  have split := @List.length_eq_length_filter_add _ request.views isIncluded
  rw [← List.countP_eq_length_filter] at split
  show ((omittedViews request.views document).length : Int) ≤ request.views.length - document.includedAssertionIds.length
  have omitted : omittedViews request.views document = request.views.filter fun view => !isIncluded view := rfl
  rw [omitted]
  omega

theorem countP_profile_lines (request : ProfileCompileRequest) (counts : JsString → Bool) :
    (PROFILE_SECTIONS.map fun part =>
        (pick (sortByValue platform (request.views.filter isProjectableInPlaintext)) part.predicates).countP fun view =>
          counts (renderAssertionSentence platform view)).sum ≤
      (request.lines platform).countP counts := by
  let eligible := sortByValue platform (request.views.filter isProjectableInPlaintext)
  calc (PROFILE_SECTIONS.map fun part =>
          (pick eligible part.predicates).countP fun view => counts (renderAssertionSentence platform view)).sum
      ≤ (PROFILE_SECTIONS.map fun part => (profileSectionLines platform eligible part).countP counts).sum := by
        apply List.sum_le_sum
        intro part _
        unfold profileSectionLines
        simp only
        split
        next isEmpty =>
          rw [List.isEmpty_iff] at isEmpty
          simp [eligible, isEmpty]
        · rw [List.cons_append, List.countP_cons, List.countP_append, List.countP_map]
          have same : (counts ∘ renderAssertionSentence platform) = fun view => counts (renderAssertionSentence platform view) :=
            rfl
          rw [same]
          omega
    _ = (PROFILE_SECTIONS.flatMap (profileSectionLines platform eligible)).countP counts := by
        rw [List.countP_flatMap]
        rfl
    _ ≤ (request.lines platform).countP counts := by
        show _ ≤ ([utf16 "# Profile", []] ++ PROFILE_SECTIONS.flatMap (profileSectionLines platform eligible) ++
          [utf16 "## Memory topics"] ++ (sortTexts request.tier2TopicKeys).map topicLine ++ [[]]).countP counts
        simp only [List.countP_append]
        omega

theorem omitted_compileProfile (request : ProfileCompileRequest)
    (distinct : (request.views.map AssertionView.assertionId).Nodup) :
    ((omittedViews request.views (compileProfile count platform request)).length : Int) ≤
      (compileProfile count platform request).omittedAssertionCount := by
  let document := compileProfile count platform request
  let eligible := sortByValue platform (request.views.filter isProjectableInPlaintext)
  let used := request.ids platform
  let trimmed := enforce count (request.lines platform) (tierTokenLimit .tier1)
  let isOmitted (view : AssertionView) : Bool := !document.includedAssertionIds.contains view.assertionId
  let isLost (view : AssertionView) : Bool := used.contains view.assertionId && isOmitted view
  have fromViews : ∀ view ∈ eligible, view ∈ request.views := fun view member =>
    List.mem_of_mem_filter ((perm_sortByValue platform _).subset member)
  -- a view whose id is on a line is on that line, and the line was dropped
  have covered : ∀ view ∈ eligible, isLost view = true →
      ∃ part ∈ PROFILE_SECTIONS.map fun part (view : AssertionView) => part.predicates.contains view.predicate,
        part view = true := by
    intro view member lost
    simp only [isLost, Bool.and_eq_true] at lost
    have isUsed : view.assertionId ∈ used := by simpa using lost.1
    obtain ⟨part, isPart, listed⟩ := List.mem_flatMap.mp isUsed
    obtain ⟨other, picked, sameId⟩ := List.mem_map.mp listed
    have isOther := List.mem_filter.mp picked
    have same : other = view :=
      List.inj_on_of_nodup_map distinct (fromViews other isOther.1) (fromViews view member) sameId
    rw [same] at isOther
    exact ⟨_, List.mem_map_of_mem isPart, isOther.2⟩
  have lost : eligible.countP isLost ≤ trimmed.droppedLines := by
    calc eligible.countP isLost
        ≤ ((PROFILE_SECTIONS.map fun part (view : AssertionView) => part.predicates.contains view.predicate).map
            fun part => (eligible.filter part).countP isLost).sum := countP_le_sum_sections covered
      _ = (PROFILE_SECTIONS.map fun part => (pick eligible part.predicates).countP isLost).sum := by
          rw [List.map_map]
          rfl
      _ ≤ (PROFILE_SECTIONS.map fun part => (pick eligible part.predicates).countP fun view =>
            !decide (renderAssertionSentence platform view <:+: trimmed.body)).sum := by
          apply List.sum_le_sum
          intro part _
          apply List.countP_mono_left
          intro view _ isLostView
          simp only [isLost, Bool.and_eq_true] at isLostView
          have isUsed : view.assertionId ∈ used := by simpa using isLostView.1
          by_contra within
          have cited : isCited trimmed.body view.assertionId = true :=
            citation_infix_of_sentence platform (by simpa using within)
          have included : view.assertionId ∈ document.includedAssertionIds := List.mem_filter.mpr ⟨isUsed, cited⟩
          simp [isOmitted, included] at isLostView
      _ ≤ (request.lines platform).countP fun line => !decide (line <:+: trimmed.body) :=
          countP_profile_lines platform request fun line => !decide (line <:+: trimmed.body)
      _ ≤ trimmed.droppedLines := enforce_lost count (request.lines platform) _
  have partition : (request.views.filter isOmitted).length ≤
      (request.views.length - eligible.length) + (eligible.filter fun view => !used.contains view.assertionId).length +
        eligible.countP isLost := by
    have isEligible : eligible.length = (request.views.filter isProjectableInPlaintext).length :=
      (perm_sortByValue platform _).length_eq
    have sameCount : (request.views.filter isProjectableInPlaintext).countP isOmitted = eligible.countP isOmitted :=
      ((perm_sortByValue platform _).countP_eq _).symm
    have apart := List.countP_eq_countP_filter_add request.views isOmitted isProjectableInPlaintext
    have others := @List.length_eq_length_filter_add _ request.views isProjectableInPlaintext
    have bound : (request.views.filter fun view => !isProjectableInPlaintext view).countP isOmitted ≤
        (request.views.filter fun view => !isProjectableInPlaintext view).length := List.countP_le_length
    have either : eligible.countP isOmitted ≤
        (eligible.filter fun view => !used.contains view.assertionId).length + eligible.countP isLost := by
      have unused := List.countP_eq_countP_filter_add eligible isOmitted fun view => used.contains view.assertionId
      have onLine : (eligible.filter fun view => used.contains view.assertionId).countP isOmitted = eligible.countP isLost := by
        rw [List.countP_filter]
        apply List.countP_congr
        intro view _
        simp [isLost, and_comm]
      have offLine : (eligible.filter fun view => !used.contains view.assertionId).countP isOmitted ≤
          (eligible.filter fun view => !used.contains view.assertionId).length := List.countP_le_length
      omega
    rw [← List.countP_eq_length_filter, isEligible]
    omega
  have shorter : eligible.length ≤ request.views.length := by
    rw [(perm_sortByValue platform _).length_eq]
    exact List.length_filter_le _ _
  show ((request.views.filter isOmitted).length : Int) ≤ (request.views.length - eligible.length +
    (eligible.filter fun view => !used.contains view.assertionId).length : Int) + trimmed.droppedLines
  omega

theorem view_of_id {Part : Type} {parts : List Part} {takes : Part → AssertionView → Bool} {views : List AssertionView}
    {assertionId : String} (listed : assertionId ∈ parts.flatMap fun part =>
      ((sortByValue platform (views.filter isProjectableInPlaintext)).filter (takes part)).map AssertionView.assertionId) :
    ∃ view ∈ views, view.assertionId = assertionId := by
  obtain ⟨part, _, isListed⟩ := List.mem_flatMap.mp listed
  obtain ⟨view, member, sameId⟩ := List.mem_map.mp isListed
  have isEligible := (perm_sortByValue platform _).subset (List.mem_of_mem_filter member)
  exact ⟨view, List.mem_of_mem_filter isEligible, sameId⟩

end

/-! ## Planned documents -/

section

variable {Signal Number : Type} {services : MemoryServices Signal Number} {views : List AssertionView}
  {bundles : List (TopicBundle Number)} {planned : PlannedDocument}

theorem included_planned (member : planned ∈ plannedDocuments services (planMemory services views bundles))
    {assertionId : String} (included : assertionId ∈ planned.document.includedAssertionIds) :
    ∃ view ∈ planned.views, view.assertionId = assertionId := by
  unfold plannedDocuments at member
  rcases List.mem_append.mp member with front | isArchive
  · rcases List.mem_append.mp front with isProfile | isTopic
    · unfold plannedProfile at isProfile
      split at isProfile
      · cases isProfile
      · rw [List.mem_singleton.mp isProfile] at included ⊢
        exact view_of_id _ (List.mem_of_mem_filter included)
    · obtain ⟨bundle, _, rfl⟩ := List.mem_map.mp isTopic
      exact view_of_id _ (List.mem_of_mem_filter included)
  · obtain ⟨group, _, rfl⟩ := List.mem_map.mp isArchive
    exact view_of_id _ (List.mem_of_mem_filter included)

theorem omitted_planned (distinct : (views.map AssertionView.assertionId).Nodup)
    (member : planned ∈ plannedDocuments services (planMemory services views bundles)) :
    ((omittedViews planned.views planned.document).length : Int) ≤ planned.document.omittedAssertionCount := by
  unfold plannedDocuments at member
  rcases List.mem_append.mp member with front | isArchive
  · rcases List.mem_append.mp front with isProfile | isTopic
    · unfold plannedProfile at isProfile
      split at isProfile
      · cases isProfile
      · rw [List.mem_singleton.mp isProfile]
        apply omitted_compileProfile
        exact (List.filter_sublist.map AssertionView.assertionId).nodup distinct
    · obtain ⟨bundle, _, rfl⟩ := List.mem_map.mp isTopic
      exact omitted_compileDossier services.count services.platform _
  · obtain ⟨group, _, rfl⟩ := List.mem_map.mp isArchive
    exact omitted_compileDossier services.count services.platform _

end

end SiftKit.Assistant.Memory
