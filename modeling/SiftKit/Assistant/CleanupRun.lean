import SiftKit.Assistant.CleanupEffects

/-! # What a run of the cleanup leaves

Each loop of a run is one update of a table.  Once a run has committed there is nothing left for a second one.
-/

namespace SiftKit.Assistant.Cleanup

open SiftKit.Assistant.Captures SiftKit.Failure SiftKit.Graph SiftKit.Tables
open AssistantState (deleteNode reclassifyAssertion reclassifyEvidence chosen)
open AssistantState

/-! ## The loops -/

/-- A node that a cleanup deletes. -/
def NodeFact.deleted (fact : NodeFact) : NodeFact := { fact with status := .deleted, target := none }

/-- A row that a cleanup reclassifies. -/
def personalAssertion (row : AssertionRow) : AssertionRow := { row with sensitivity := .personal }

def personalEvidence (row : EvidenceClass) : EvidenceClass := { row with sensitivity := .personal }

theorem deleteNode_ok {graph after : GraphState} {nodeId : String} (deleted : deleteNode graph nodeId = .ok after) :
    graph.setNodeStatus nodeId .deleted none = .ok after := by
  rw [deleteNode, bind_eq_ok] at deleted
  obtain ⟨_, _, updated⟩ := deleted
  exact updated

theorem foldlM_deleteNode_ok {ids : List String} {graph after : GraphState} (deleted : ids.foldlM deleteNode graph = .ok after) :
    factsOf after = updateWhere (fun fact => ids.contains fact.id) NodeFact.deleted (factsOf graph) ∧
      after.aliases = graph.aliases ∧ after.assertions = graph.assertions := by
  refine ⟨?_, ?_, ?_⟩
  · have inTurn := view_of_foldlM factsOf (fun facts nodeId => restatus nodeId .deleted none facts)
      (fun round => (factsOf_setNodeStatus (deleteNode_ok round)).1) deleted
    rw [inTurn]
    exact foldl_updateWhere NodeFact.id NodeFact.deleted (fun _ => rfl) (fun _ => rfl) ids (factsOf graph)
  · exact kept_of_foldlM GraphState.aliases (fun round => (factsOf_setNodeStatus (deleteNode_ok round)).2.1) deleted
  · exact kept_of_foldlM GraphState.assertions (fun round => (factsOf_setNodeStatus (deleteNode_ok round)).2.2) deleted

theorem reclassifyAssertion_ok {graph after : GraphState} {assertionId : String}
    (reclassified : reclassifyAssertion graph assertionId = .ok after) :
    after.assertions.rows = updateWhere (fun row => row.id == assertionId) personalAssertion graph.assertions.rows ∧
      after.nodes = graph.nodes ∧ after.aliases = graph.aliases := by
  obtain ⟨_, _, rfl⟩ := GraphState.updateAssertion_eq_ok.mp reclassified
  exact ⟨rfl, rfl, rfl⟩

theorem foldlM_reclassifyAssertion_ok {ids : List String} {graph after : GraphState}
    (reclassified : ids.foldlM reclassifyAssertion graph = .ok after) :
    after.assertions.rows = updateWhere (fun row => ids.contains row.id) personalAssertion graph.assertions.rows ∧
      after.nodes = graph.nodes ∧ after.aliases = graph.aliases := by
  refine ⟨?_, ?_, ?_⟩
  · have inTurn := view_of_foldlM (fun state : GraphState => state.assertions.rows)
      (fun rows assertionId => updateWhere (fun row => row.id == assertionId) personalAssertion rows)
      (fun round => (reclassifyAssertion_ok round).1) reclassified
    rw [inTurn]
    exact foldl_updateWhere AssertionRow.id personalAssertion (fun _ => rfl) (fun _ => rfl) ids graph.assertions.rows
  · exact kept_of_foldlM GraphState.nodes (fun round => (reclassifyAssertion_ok round).2.1) reclassified
  · exact kept_of_foldlM GraphState.aliases (fun round => (reclassifyAssertion_ok round).2.2) reclassified

theorem foldl_reclassifyEvidence (ids : List String) (classes : List EvidenceClass) :
    ids.foldl reclassifyEvidence classes = updateWhere (fun row => ids.contains row.evidenceId) personalEvidence classes :=
  foldl_updateWhere EvidenceClass.evidenceId personalEvidence (fun _ => rfl) (fun _ => rfl) ids classes

section

variable {Envelope Digest : Type}

/-- A capture whose pixels are gone. -/
def processedAt (nowMs : Int) (row : CaptureRow) : CaptureRow :=
  { row with state := .processed, processedAtUtc := some nowMs, updatedAtUtc := nowMs }

/-- What a run makes of a capture. -/
def settled (ownerId : String) (discardable live : List String) (nowMs : Int) (row : CaptureRow) : CaptureRow :=
  let discarded := if discardable.contains row.evidenceId then processedAt nowMs row else row
  if CaptureState.isStranded ownerId live discarded then { discarded with state := .queued, updatedAtUtc := nowMs }
  else discarded

theorem foldl_markProcessed (ids : List String) (captures : CaptureState Envelope Digest) :
    ids.foldl CaptureState.markProcessed captures =
      { captures with
        queue := updateWhere (fun row => ids.contains row.evidenceId) (processedAt captures.nowMs) captures.queue } := by
  rw [← foldl_updateWhere CaptureRow.evidenceId (processedAt captures.nowMs) (fun _ => rfl) (fun _ => rfl) ids]
  induction ids generalizing captures with
  | nil => rfl
  | cons evidenceId rest ih =>
    rw [List.foldl_cons, ih]
    rfl

theorem queue_settled (ownerId : String) (discardable live : List String) (captures : CaptureState Envelope Digest) :
    ((discardable.foldl CaptureState.markProcessed captures).recoverStrandedProcessing ownerId live).queue =
      captures.queue.map (settled ownerId discardable live captures.nowMs) := by
  rw [foldl_markProcessed]
  simp only [CaptureState.recoverStrandedProcessing, updateWhere, List.map_map]
  rfl

theorem settled_cases (ownerId : String) (discardable live : List String) (nowMs : Int) (row : CaptureRow) :
    (discardable.contains row.evidenceId = true ∧ settled ownerId discardable live nowMs row = processedAt nowMs row) ∨
      (discardable.contains row.evidenceId = false ∧ CaptureState.isStranded ownerId live row = true ∧
        settled ownerId discardable live nowMs row = { row with state := .queued, updatedAtUtc := nowMs }) ∨
      (discardable.contains row.evidenceId = false ∧ CaptureState.isStranded ownerId live row = false ∧
        settled ownerId discardable live nowMs row = row) := by
  by_cases gone : discardable.contains row.evidenceId = true
  · have final : CaptureState.isStranded ownerId live (processedAt nowMs row) = false := by
      simp [CaptureState.isStranded, processedAt]
    exact Or.inl ⟨gone, by simp only [settled, gone, final, if_true, Bool.false_eq_true, if_false]⟩
  · by_cases isStranded : CaptureState.isStranded ownerId live row = true
    · have requeued : settled ownerId discardable live nowMs row = { row with state := .queued, updatedAtUtc := nowMs } := by
        simp only [settled, gone, if_false, isStranded, if_true, Bool.false_eq_true]
      exact Or.inr (Or.inl ⟨by simpa using gone, isStranded, requeued⟩)
    · have untouched : settled ownerId discardable live nowMs row = row := by
        simp only [settled, gone, if_false, isStranded, Bool.false_eq_true]
      exact Or.inr (Or.inr ⟨by simpa using gone, by simpa using isStranded, untouched⟩)

/-! ## Live jobs -/

theorem enqueueSuperseding_ok {input : EnqueueJobInput} {priority : Rat} {id : String} {nowUtc : Int} {table : JobTable}
    {answer : Option JobRow} (answered : (enqueueSuperseding input priority id nowUtc table).1 = .ok answer) :
    (enqueueSuperseding input priority id nowUtc table).2 = updateWhere (isSuperseded input) (superseded nowUtc) table ∨
      (enqueueSuperseding input priority id nowUtc table).2 =
        updateWhere (isSuperseded input) (superseded nowUtc) table ++ [input.row id priority.num nowUtc] := by
  revert answered
  unfold enqueueSuperseding write
  split
  next cancelled isWritten =>
    split at isWritten
    · cases isWritten
      unfold enqueue
      split
      · intro answered
        cases answered
      · split
        · exact fun _ => Or.inl rfl
        · unfold insertJob write
          split
          · intro answered
            cases answered
          · split
            · exact fun _ => Or.inr rfl
            · intro answered
              cases answered
    · cases isWritten
  next failure kept isRefused =>
    intro answered
    cases answered

variable {state after : AssistantState Envelope Digest}

theorem liveExtractions_of_jobs (platform : AssistantPlatform Envelope Digest) (ownerId : String)
    (same : after.jobs = state.jobs) :
    after.listLiveImageExtractionEvidenceIds platform ownerId = state.listLiveImageExtractionEvidenceIds platform ownerId := by
  simp only [listLiveImageExtractionEvidenceIds, liveJobs, same]

variable {ownerId : String}

theorem liveExtractions_enqueue (platform : AssistantPlatform Envelope Digest) (otherId : String)
    {draw : RunDraw} {jobs : JobTable} (enqueued : state.enqueueProjectionMaintenance ownerId draw = .ok jobs) :
    ({ state with jobs } : AssistantState Envelope Digest).listLiveImageExtractionEvidenceIds platform otherId =
      state.listLiveImageExtractionEvidenceIds platform otherId := by
  obtain ⟨answer, answered, rfl⟩ := map_eq_ok.mp enqueued
  have perStatus : ∀ status : JobStatus,
      (((enqueueSuperseding ⟨ownerId, .projectionMaintenance, s!"projection_maintenance:{state.graphVersion}"⟩
          draw.projectionPriority draw.jobId state.captures.nowMs state.jobs).2.filter
            fun job => job.ownerId == otherId && job.status == status).filter fun job => job.jobType == .imageExtraction) =
        (state.jobs.filter fun job => job.ownerId == otherId && job.status == status).filter
          fun job => job.jobType == .imageExtraction := by
    intro status
    have kept : (updateWhere (isSuperseded
          ⟨ownerId, .projectionMaintenance, s!"projection_maintenance:{state.graphVersion}"⟩)
          (superseded state.captures.nowMs) state.jobs).filter (fun job =>
            job.jobType == .imageExtraction && (job.ownerId == otherId && job.status == status)) =
        state.jobs.filter fun job => job.jobType == .imageExtraction && (job.ownerId == otherId && job.status == status) := by
      apply filter_updateWhere_of_disjoint
      intro row _ isSelected
      have isMaintenance : row.jobType = .projectionMaintenance := by
        simp only [isSuperseded, Bool.and_eq_true, beq_iff_eq] at isSelected
        exact isSelected.1.2
      simp [superseded, isMaintenance]
    simp only [List.filter_filter]
    cases enqueueSuperseding_ok answered with
    | inl updated => rw [updated, kept]
    | inr added =>
      rw [added, List.filter_append, kept]
      simp [EnqueueJobInput.row]
  simp only [listLiveImageExtractionEvidenceIds, liveJobs, List.flatMap_cons, List.flatMap_nil,
    List.filter_append, perStatus]

/-! ## The transaction -/

variable {platform : AssistantPlatform Envelope Digest}

/-- What a run that does not throw leaves. -/
structure Performed (platform : AssistantPlatform Envelope Digest) (state after : AssistantState Envelope Digest)
    (ownerId : String) (plan : GraphCleanupPlan) : Prop where
  facts : factsOf after.graph =
    updateWhere (fun fact => plan.orphanNodeIds.contains fact.id) NodeFact.deleted (factsOf state.graph)
  aliases : after.graph.aliases = state.graph.aliases
  assertions : after.graph.assertions.rows =
    updateWhere (fun row => plan.reclassifiableAssertionIds.contains row.id) personalAssertion state.graph.assertions.rows
  classes : after.classes =
    updateWhere (fun row => plan.reclassifiableEvidenceIds.contains row.evidenceId) personalEvidence state.classes
  links : after.links = state.links
  evidence : after.captures.evidence = state.captures.evidence
  queue : ∃ live, state.listLiveImageExtractionEvidenceIds platform ownerId = .ok live ∧
    after.captures.queue = state.captures.queue.map (settled ownerId plan.discardableCaptureIds live state.captures.nowMs)
  live : ∀ otherId, after.listLiveImageExtractionEvidenceIds platform otherId =
    state.listLiveImageExtractionEvidenceIds platform otherId
  version : state.graphVersion ≤ after.graphVersion

theorem perform_ok {plan : GraphCleanupPlan} {draw : RunDraw} {result : GraphCleanupResult}
    (performed : state.perform platform ownerId plan draw = .ok (result, after)) :
    Performed platform state after ownerId plan := by
  simp only [perform, bind_eq_ok, mapError_eq_ok] at performed
  obtain ⟨pruned, isPruned, live, isLive, graph, isGraph, _, _, rest⟩ := performed
  obtain ⟨prunedFacts, prunedAliases, prunedAssertions⟩ := foldlM_deleteNode_ok isPruned
  obtain ⟨isAssertions, sameNodes, sameAliases⟩ := foldlM_reclassifyAssertion_ok isGraph
  -- all but the jobs and the version, whichever way the run ends
  have cleaned : ∀ jobs version, state.graphVersion ≤ version →
      (∀ otherId, ({ state with jobs } : AssistantState Envelope Digest).listLiveImageExtractionEvidenceIds platform otherId =
        state.listLiveImageExtractionEvidenceIds platform otherId) →
      Performed platform state
        { state with
          captures := (plan.discardableCaptureIds.foldl CaptureState.markProcessed state.captures).recoverStrandedProcessing
            ownerId live
          classes := plan.reclassifiableEvidenceIds.foldl reclassifyEvidence state.classes
          graph, jobs, graphVersion := version } ownerId plan := by
    intro jobs version grows sameLive
    constructor
    · rw [factsOf_of_nodes sameNodes]
      exact prunedFacts
    · exact sameAliases.trans prunedAliases
    · rw [isAssertions, prunedAssertions]
    · exact foldl_reclassifyEvidence plan.reclassifiableEvidenceIds state.classes
    · rfl
    · rw [foldl_markProcessed]
      rfl
    · exact ⟨live, isLive, queue_settled ownerId plan.discardableCaptureIds live state.captures⟩
    · exact sameLive
    · exact grows
  split at rest
  · simp only [bind_eq_ok, mapError_eq_ok, pure_eq_ok, Prod.mk.injEq] at rest
    obtain ⟨jobs, enqueued, _, rfl⟩ := rest
    apply cleaned jobs _ (Nat.le_succ _)
    intro otherId
    have sameLive := liveExtractions_enqueue platform otherId enqueued
    exact (liveExtractions_of_jobs platform otherId rfl).trans
      (sameLive.trans (liveExtractions_of_jobs platform otherId rfl))
  · rw [pure_eq_ok, Prod.mk.injEq] at rest
    obtain ⟨_, rfl⟩ := rest
    exact cleaned state.jobs _ (Nat.le_refl _) fun otherId => rfl

/-- A run throws and keeps all but its secret, or it has planned, validated and performed. -/
theorem run_cases (platform : AssistantPlatform Envelope Digest) (state : AssistantState Envelope Digest)
    (ownerId : String) (token : Json.JsString) (reclassify : Bool) (draw : RunDraw) :
    (∃ failure stored, state.run platform ownerId token reclassify draw =
      (.error failure, { state with previewSecret := stored })) ∨
    ∃ plan secret stored result after, state.run platform ownerId token reclassify draw = (.ok result, after) ∧
      state.plan platform ownerId = .ok plan ∧
      state.validateGraphCleanup platform secret ownerId token plan.counts = .ok () ∧
      ({ state with previewSecret := stored } : AssistantState Envelope Digest).perform platform ownerId
        (chosen plan reclassify) draw = .ok (result, after) := by
  have kept : ∃ stored, (state.tokenSecret token draw.secret).2 = { state with previewSecret := stored } := by
    unfold tokenSecret AssistantState.secret
    split
    · split
      · exact ⟨state.previewSecret, rfl⟩
      · exact ⟨_, rfl⟩
    · exact ⟨state.previewSecret, rfl⟩
  obtain ⟨stored, isStored⟩ := kept
  unfold AssistantState.run
  split
  · exact Or.inl ⟨_, state.previewSecret, rfl⟩
  next plan isPlan =>
    simp only [isStored]
    split
    · exact Or.inl ⟨_, stored, rfl⟩
    next passed validated =>
      split
      · exact Or.inl ⟨_, stored, rfl⟩
      next result after performed => exact Or.inr ⟨plan, _, stored, result, after, rfl, isPlan, validated, performed⟩

theorem run_ok {token : Json.JsString} {reclassify : Bool} {draw : RunDraw}
    {result : GraphCleanupResult} (ran : state.run platform ownerId token reclassify draw = (.ok result, after)) :
    ∃ plan secret, state.plan platform ownerId = .ok plan ∧
      state.validateGraphCleanup platform secret ownerId token plan.counts = .ok () ∧
      Performed platform state after ownerId (chosen plan reclassify) := by
  obtain ⟨failure, stored, threw⟩ | ⟨plan, secret, stored, given, ended, isRun, isPlan, validated, performed⟩ :=
    run_cases platform state ownerId token reclassify draw
  · rw [threw] at ran
    cases ran
  · rw [isRun] at ran
    cases ran
    obtain ⟨facts, aliases, assertions, classes, links, evidence, queue, live, version⟩ := perform_ok performed
    exact ⟨plan, secret, isPlan, validated, ⟨facts, aliases, assertions, classes, links, evidence, queue, live, version⟩⟩

/-! ## Nothing is left -/

theorem Sound.deleted {facts : List NodeFact} (sound : Sound facts) (ids : List String) :
    Sound (updateWhere (fun fact => ids.contains fact.id) NodeFact.deleted facts) := by
  constructor
  · have kept : (updateWhere (fun fact => ids.contains fact.id) NodeFact.deleted facts).map NodeFact.id =
        facts.map NodeFact.id := map_updateWhere fun _ _ _ => rfl
    rw [kept]
    exact sound.ids
  · intro other member isActive
    obtain ⟨fact, isFact, rfl⟩ := mem_updateWhere.mp member
    split at isActive
    · cases isActive
    next untouched =>
      rw [if_neg untouched]
      exact sound.targets fact isFact isActive

section

variable {ownerId : String} {plan : GraphCleanupPlan}

section

variable (performed : Performed platform state after ownerId plan)

include performed

theorem Performed.orphans_nil (sound : Sound (factsOf state.graph)) (planned : plan.orphanNodeIds = orphanPersonNodeIds state.graph) :
    orphanPersonNodeIds after.graph = [] := by
  rw [List.eq_nil_iff_forall_not_mem]
  intro nodeId member
  obtain ⟨later, isLater, _, orphan⟩ := mem_orphanPersonNodeIds.mp member
  rw [performed.facts] at isLater
  obtain ⟨fact, isFact, rfl⟩ := mem_updateWhere.mp isLater
  by_cases listed : plan.orphanNodeIds.contains fact.id = true
  · rw [if_pos listed] at orphan
    cases orphan.active
  · rw [if_neg listed] at orphan
    -- a node that was none before stays none: the nodes that went were active, and so merged into no other
    have before : IsOrphan state.graph fact := by
      apply orphan.of_fewer
      · intro row isRow refers
        have kept : (if plan.reclassifiableAssertionIds.contains row.id then personalAssertion row else row) ∈
            after.graph.assertions.rows := by
          rw [performed.assertions]
          exact mem_updateWhere.mpr ⟨row, isRow, rfl⟩
        refine ⟨_, kept, ?_⟩
        split
        · exact refers
        · exact refers
      · intro other isOther merged
        have kept : (if plan.orphanNodeIds.contains other.id then other.deleted else other) ∈ factsOf after.graph := by
          rw [performed.facts]
          exact mem_updateWhere.mpr ⟨other, isOther, rfl⟩
        by_cases gone : plan.orphanNodeIds.contains other.id = true
        · rw [List.contains_iff_mem, planned] at gone
          obtain ⟨same, isSame, sameId, otherOrphan⟩ := mem_orphanPersonNodeIds.mp gone
          have isOrphan : same = other := List.inj_on_of_nodup_map sound.ids isSame isOther sameId
          rw [isOrphan] at otherOrphan
          rw [sound.targets other isOther otherOrphan.active] at merged
          cases merged
        · rw [if_neg gone] at kept
          exact ⟨other, kept, merged⟩
      · intro named isNamed _
        rw [performed.aliases]
        exact isNamed
    apply listed
    rw [List.contains_iff_mem, planned]
    exact mem_orphanPersonNodeIds.mpr ⟨fact, isFact, rfl, before⟩

theorem Performed.stranded_nil :
    after.strandedCaptures platform ownerId = .ok [] := by
  obtain ⟨live, isLive, isQueue⟩ := performed.queue
  have none : after.captures.listStrandedProcessing ownerId live = [] := by
    rw [List.eq_nil_iff_forall_not_mem]
    intro later member
    simp only [CaptureState.listStrandedProcessing, mem_orderBy, List.mem_filter, isQueue, List.mem_map] at member
    obtain ⟨⟨row, _, rfl⟩, isStranded⟩ := member
    obtain ⟨_, is⟩ | ⟨_, _, is⟩ | ⟨_, wasNone, is⟩ :=
      settled_cases ownerId plan.discardableCaptureIds live state.captures.nowMs row
    · simp [is, CaptureState.isStranded, processedAt] at isStranded
    · simp [is, CaptureState.isStranded] at isStranded
    · rw [is, wasNone] at isStranded
      cases isStranded
  simp only [strandedCaptures, performed.live, isLive]
  show (after.captures.listStrandedProcessing ownerId live).mapM _ = _
  rw [none]
  rfl

theorem Performed.reclassifiableEvidence_nil (planned : plan.reclassifiableEvidenceIds = state.reclassifiableEvidenceIds ownerId) :
    after.reclassifiableEvidenceIds ownerId = [] := by
  rw [List.eq_nil_iff_forall_not_mem]
  intro evidenceId member
  obtain ⟨later, isLater, _⟩ := mem_idsOf.mp member
  rw [performed.classes, List.mem_filter] at isLater
  obtain ⟨isLater, reclassifiable⟩ := isLater
  obtain ⟨row, isRow, rfl⟩ := mem_updateWhere.mp isLater
  split at reclassifiable
  · simp [isReclassifiable, personalEvidence] at reclassifiable
  next untouched =>
    apply untouched
    rw [List.contains_iff_mem, planned]
    exact mem_idsOf.mpr ⟨row, List.mem_filter.mpr ⟨isRow, reclassifiable⟩, rfl⟩

theorem Performed.reclassifiableAssertions_nil (planned : plan.reclassifiableAssertionIds = state.reclassifiableAssertionIds) :
    after.reclassifiableAssertionIds = [] := by
  rw [List.eq_nil_iff_forall_not_mem]
  intro assertionId member
  obtain ⟨later, isLater, _⟩ := mem_idsOf.mp member
  rw [performed.assertions, List.mem_filter] at isLater
  obtain ⟨isLater, reclassifiable⟩ := isLater
  obtain ⟨row, isRow, rfl⟩ := mem_updateWhere.mp isLater
  split at reclassifiable
  · simp [isSensitiveByScreenshot, personalAssertion] at reclassifiable
  next untouched =>
    -- the screenshots are the same ones as before
    have sources : ∀ evidenceId, after.classes.any (fun evidence =>
        evidence.evidenceId == evidenceId && evidence.sourceType == .screenshot) =
        state.classes.any fun evidence => evidence.evidenceId == evidenceId && evidence.sourceType == .screenshot := by
      intro evidenceId
      rw [performed.classes]
      simp only [updateWhere, List.any_map]
      congr 1
      funext evidence
      by_cases changed : plan.reclassifiableEvidenceIds.contains evidence.evidenceId = true
      · simp only [Function.comp_apply, changed, if_true, personalEvidence]
      · simp only [Function.comp_apply, changed, Bool.false_eq_true, if_false]
    apply untouched
    rw [List.contains_iff_mem, planned]
    apply mem_idsOf.mpr
    refine ⟨row, List.mem_filter.mpr ⟨isRow, ?_⟩, rfl⟩
    simpa only [isSensitiveByScreenshot, performed.links, sources] using reclassifiable

end

/-- A plan that has nothing to do. -/
def GraphCleanupPlan.empty : GraphCleanupPlan := ⟨[], [], [], [], []⟩

theorem plan_ok : state.plan platform ownerId = .ok plan ↔
    ∃ stranded, state.strandedCaptures platform ownerId = .ok stranded ∧
      plan = {
        orphanNodeIds := orphanPersonNodeIds state.graph
        resumableCaptureIds := (stranded.filter fun capture => capture.2).map Prod.fst
        discardableCaptureIds := (stranded.filter fun capture => !capture.2).map Prod.fst
        reclassifiableEvidenceIds := state.reclassifiableEvidenceIds ownerId
        reclassifiableAssertionIds := state.reclassifiableAssertionIds } := by
  simp only [AssistantState.plan, bind_eq_ok, pure_eq_ok, @eq_comm _ _ plan]

theorem plan_after (sound : Sound (factsOf state.graph)) (planned : state.plan platform ownerId = .ok plan)
    (performed : Performed platform state after ownerId plan) : after.plan platform ownerId = .ok .empty := by
  obtain ⟨stranded, _, isPlan⟩ := plan_ok.mp planned
  apply plan_ok.mpr
  refine ⟨[], performed.stranded_nil, ?_⟩
  rw [performed.orphans_nil sound (by rw [isPlan]), performed.reclassifiableEvidence_nil (by rw [isPlan]),
    performed.reclassifiableAssertions_nil (by rw [isPlan])]
  rfl

end

end

end SiftKit.Assistant.Cleanup
