import SiftKit.Assistant.CaptureContract
import SiftKit.Assistant.CleanupRun
import SiftKit.Graph.ExclusiveValues

/-! # What a cleanup touches was previewed

A token binds the owner, the graph version and how many records a plan lists, and the plan is made again at the run.
Whatever gives new orphans moves the version, so that a run deletes the nodes of its preview only.  The captures are
stranded and recovered without the version: there a run may find as many captures as its preview did, and other ones.
-/

namespace SiftKit.Assistant.Cleanup

open SiftKit.Assistant.Captures SiftKit.Failure SiftKit.Graph SiftKit.Json SiftKit.Tables
open AssistantState (chosen)
open AssistantState

variable {Envelope Digest : Type}

/-! ## What a cleanup may touch -/

/-- A run deletes, discards and requeues what its preview listed. -/
structure TouchesOnlyListed (preview : AssistantGraphCleanupPreview) (before after : AssistantState Envelope Digest) :
    Prop where
  nodes : List.Forall₂ (fun (row later : NodeRow) => later.id = row.id ∧
    (later.status = row.status ∨ later.status = .deleted ∧ row.id ∈ preview.orphanNodeIds))
    before.graph.nodes.rows after.graph.nodes.rows
  captures : List.Forall₂ (fun (row later : CaptureRow) => later.evidenceId = row.evidenceId ∧
    (later.state = row.state ∨ later.state = .processed ∧ row.evidenceId ∈ preview.discardableCaptureIds ∨
      later.state = .queued ∧ row.evidenceId ∈ preview.resumableCaptureIds))
    before.captures.queue after.captures.queue

/-- A capture in processing that no live extraction is about, and whether its pixels can be read. -/
def Stranded (platform : AssistantPlatform Envelope Digest) (state : AssistantState Envelope Digest)
    (ownerId evidenceId : String) (isReadable : Bool) : Prop :=
  ∃ live, state.listLiveImageExtractionEvidenceIds platform ownerId = .ok live ∧
    (∃ row ∈ state.captures.queue, row.evidenceId = evidenceId ∧ CaptureState.isStranded ownerId live row = true) ∧
    state.readable evidenceId = .ok isReadable

/-- Every capture that is stranded now was stranded before, and could be read as it can be now. -/
def NothingNewlyStranded (platform : AssistantPlatform Envelope Digest) (before now : AssistantState Envelope Digest)
    (ownerId : String) : Prop :=
  ∀ evidenceId isReadable, Stranded platform now ownerId evidenceId isReadable →
    Stranded platform before ownerId evidenceId isReadable

/-- A preview of a state succeeds, and has nothing to list. -/
def ListsNothing (platform : AssistantPlatform Envelope Digest) (state : AssistantState Envelope Digest) (ownerId : String)
    (draw : Bytes) : Prop :=
  ∃ preview shown, state.preview platform ownerId draw = .ok (preview, shown) ∧ preview.orphanNodeIds = [] ∧
    preview.resumableCaptureIds = [] ∧ preview.discardableCaptureIds = [] ∧ preview.reclassifiableEvidenceCount = 0 ∧
    preview.reclassifiableAssertionCount = 0

section

variable {platform : AssistantPlatform Envelope Digest} {state after : AssistantState Envelope Digest} {ownerId : String}
  {plan : GraphCleanupPlan} {evidenceId : String} {stranded : List (String × Bool)}

/-! ## Plans and previews -/

theorem mem_strandedCaptures {isReadable : Bool}
    (listed : state.strandedCaptures platform ownerId = .ok stranded) :
    (evidenceId, isReadable) ∈ stranded ↔ Stranded platform state ownerId evidenceId isReadable := by
  simp only [strandedCaptures, bind_eq_ok] at listed
  obtain ⟨live, isLive, collected⟩ := listed
  constructor
  · intro member
    obtain ⟨row, isRow, isPair⟩ := mem_of_mapM collected member
    obtain ⟨read, isRead, same⟩ := map_eq_ok.mp isPair
    cases same
    simp only [CaptureState.listStrandedProcessing, mem_orderBy, List.mem_filter] at isRow
    exact ⟨live, isLive, ⟨row, isRow.1, rfl, isRow.2⟩, isRead⟩
  · rintro ⟨otherLive, isOther, ⟨row, isRow, rfl, isStranded⟩, isRead⟩
    rw [isLive] at isOther
    cases isOther
    have isListed : row ∈ state.captures.listStrandedProcessing ownerId live := by
      simp only [CaptureState.listStrandedProcessing, mem_orderBy, List.mem_filter]
      exact ⟨isRow, isStranded⟩
    obtain ⟨pair, isPair, ofRow⟩ := exists_of_forall₂ (mapM_eq_ok.mp collected).flip isListed
    obtain ⟨read, otherRead, rfl⟩ := map_eq_ok.mp ofRow
    rw [isRead] at otherRead
    cases otherRead
    exact isPair

theorem exists_stranded {live : List String} {row : CaptureRow}
    (listed : state.strandedCaptures platform ownerId = .ok stranded)
    (isLive : state.listLiveImageExtractionEvidenceIds platform ownerId = .ok live) (isRow : row ∈ state.captures.queue)
    (isStranded : CaptureState.isStranded ownerId live row = true) :
    ∃ isReadable, Stranded platform state ownerId row.evidenceId isReadable := by
  simp only [strandedCaptures, bind_eq_ok] at listed
  obtain ⟨sameLive, isSame, collected⟩ := listed
  rw [isLive] at isSame
  cases isSame
  have isListed : row ∈ state.captures.listStrandedProcessing ownerId live := by
    simp only [CaptureState.listStrandedProcessing, mem_orderBy, List.mem_filter]
    exact ⟨isRow, isStranded⟩
  obtain ⟨pair, _, ofRow⟩ := exists_of_forall₂ (mapM_eq_ok.mp collected).flip isListed
  obtain ⟨isReadable, isRead, _⟩ := map_eq_ok.mp ofRow
  exact ⟨isReadable, live, isLive, ⟨row, isRow, rfl, isStranded⟩, isRead⟩

theorem mem_resumable (planned : state.plan platform ownerId = .ok plan) :
    evidenceId ∈ plan.resumableCaptureIds ↔ Stranded platform state ownerId evidenceId true := by
  obtain ⟨stranded, listed, rfl⟩ := plan_ok.mp planned
  rw [← mem_strandedCaptures listed]
  simp

theorem mem_discardable (planned : state.plan platform ownerId = .ok plan) :
    evidenceId ∈ plan.discardableCaptureIds ↔ Stranded platform state ownerId evidenceId false := by
  obtain ⟨stranded, listed, rfl⟩ := plan_ok.mp planned
  rw [← mem_strandedCaptures listed]
  simp

def signedPreview (platform : AssistantPlatform Envelope Digest) (state : AssistantState Envelope Digest) (ownerId : String)
    (secret : Bytes) (plan : GraphCleanupPlan) : AssistantGraphCleanupPreview where
  previewToken := sign platform.hmac secret (state.buildGraphCleanupPayload ownerId plan.counts)
  graphVersion := state.graphVersion
  orphanNodeIds := plan.orphanNodeIds
  resumableCaptureIds := plan.resumableCaptureIds
  discardableCaptureIds := plan.discardableCaptureIds
  reclassifiableEvidenceCount := plan.reclassifiableEvidenceIds.length
  reclassifiableAssertionCount := plan.reclassifiableAssertionIds.length

theorem preview_ok {draw : Bytes} {preview : AssistantGraphCleanupPreview}
    (previewed : state.preview platform ownerId draw = .ok (preview, after)) :
    ∃ plan secret stored, state.plan platform ownerId = .ok plan ∧ after = { state with previewSecret := stored } ∧
      preview = signedPreview platform state ownerId secret plan := by
  simp only [AssistantState.preview, bind_eq_ok, pure_eq_ok, Prod.mk.injEq] at previewed
  obtain ⟨plan, planned, isPreview, isAfter⟩ := previewed
  have kept : ∃ stored, (state.secret draw).2 = { state with previewSecret := stored } := by
    unfold AssistantState.secret
    split
    · exact ⟨state.previewSecret, rfl⟩
    · exact ⟨_, rfl⟩
  obtain ⟨stored, isStored⟩ := kept
  exact ⟨plan, _, stored, planned, isAfter.symm.trans isStored, isPreview.symm⟩

theorem listsNothing_of_empty (planned : state.plan platform ownerId = .ok .empty) (draw : Bytes) :
    ListsNothing platform state ownerId draw := by
  have shown : ∃ preview shown, state.preview platform ownerId draw = .ok (preview, shown) := by
    simp only [AssistantState.preview, bind_eq_ok, pure_eq_ok]
    exact ⟨_, _, .empty, planned, rfl⟩
  obtain ⟨preview, left, previewed⟩ := shown
  obtain ⟨plan, secret, stored, isPlan, _, rfl⟩ := preview_ok previewed
  rw [planned] at isPlan
  cases isPlan
  exact ⟨_, left, previewed, rfl, rfl, rfl, rfl, rfl⟩

theorem version_of_validated {secret other : Bytes} {payload : GraphCleanupPayload} {counts : GraphCleanupCounts}
    (validated : state.validateGraphCleanup platform other ownerId (sign platform.hmac secret payload) counts = .ok ()) :
    state.graphVersion = payload.graphVersion := by
  simp only [validateGraphCleanup, bind_eq_ok, throwWhen_eq_ok] at validated
  obtain ⟨parsed, isVerified, _, _, _, sameVersion, _⟩ := validated
  obtain ⟨_, _, isPayload⟩ := verify_sign_iff.mp isVerified
  have same : payload.graphVersion = state.graphVersion := by simpa [isPayload] using sameVersion
  exact same.symm

/-! ## The version -/

theorem FewerOrphans.refl (graph : GraphState) : FewerOrphans graph graph := fun _ member => member

theorem FewerOrphans.trans {graph middle later : GraphState} (first : FewerOrphans graph middle)
    (second : FewerOrphans middle later) : FewerOrphans graph later :=
  fun nodeId member => first nodeId (second nodeId member)

/-- What a call does to the graph: new orphans come with a new version. -/
structure Moves (state after : AssistantState Envelope Digest) : Prop where
  sound : Sound (factsOf after.graph)
  version : state.graphVersion ≤ after.graphVersion
  orphans : after.graphVersion = state.graphVersion → FewerOrphans state.graph after.graph

theorem Moves.of_same (sound : Sound (factsOf state.graph)) (graph : after.graph = state.graph)
    (version : after.graphVersion = state.graphVersion) : Moves state after where
  sound := by rw [graph]; exact sound
  version := Nat.le_of_eq version.symm
  orphans := fun _ => by rw [graph]; exact FewerOrphans.refl _

theorem Moves.of_kept {written : Except ErrorMessage GraphState} (sound : Sound (factsOf state.graph))
    (changes : ∀ graph, written = .ok graph → FactsChange (factsOf state.graph) (factsOf graph) ∧
      FewerOrphans state.graph graph) : Moves state (state.kept written) := by
  cases written with
  | error message => exact .of_same sound rfl rfl
  | ok graph =>
    obtain ⟨change, fewer⟩ := changes graph rfl
    exact ⟨sound.change change, Nat.le_refl _, fun _ => fewer⟩

theorem moves_run (sound : Sound (factsOf state.graph)) (ownerId : String) (token : JsString) (reclassify : Bool)
    (draw : RunDraw) : Moves state (state.run platform ownerId token reclassify draw).2 := by
  obtain ⟨failure, stored, threw⟩ | ⟨plan, secret, stored, result, after, ran, planned, _, performed⟩ :=
    run_cases platform state ownerId token reclassify draw
  · rw [threw]
    exact .of_same sound rfl rfl
  · rw [ran]
    have effects := perform_ok performed
    have listed : (chosen plan reclassify).orphanNodeIds = orphanPersonNodeIds state.graph := by
      obtain ⟨stranded, _, rfl⟩ := plan_ok.mp planned
      cases reclassify <;> rfl
    refine ⟨?_, effects.version, fun _ nodeId member => ?_⟩
    · show Sound (factsOf after.graph)
      rw [effects.facts]
      exact sound.deleted _
    · have none : orphanPersonNodeIds after.graph = [] := effects.orphans_nil sound listed
      rw [show (Except.ok result, after).2 = after from rfl, none] at member
      cases member

section

variable [DecidableEq Digest]

theorem write_sound {change : GraphWrite} (sound : Sound (factsOf state.graph))
    (written : state.write platform change = some after) :
    Sound (factsOf after.graph) ∧ after.graphVersion = state.graphVersion := by
  cases change with
  | store call sets =>
    obtain ⟨graph, performed, rfl⟩ := Option.map_eq_some_iff.mp written
    exact ⟨sound.change (factsChange_perform sets (toOption_eq_some.mp performed)), rfl⟩
  | linkEvidence assertionId evidenceId =>
    cases written
    exact ⟨sound, rfl⟩
  | unlinkEvidence assertionId evidenceId =>
    cases written
    exact ⟨sound, rfl⟩
  | unlinkAllForEvidence evidenceId =>
    cases written
    exact ⟨sound, rfl⟩
  | deleteEvidence evidenceId =>
    obtain ⟨deleted, _, rfl⟩ := Option.map_eq_some_iff.mp written
    exact ⟨sound, rfl⟩

theorem writes_sound {writes : List GraphWrite} (sound : Sound (factsOf state.graph))
    (written : writes.foldlM (fun (before : AssistantState Envelope Digest) change => before.write platform change) state =
      some after) :
    Sound (factsOf after.graph) ∧ after.graphVersion = state.graphVersion := by
  induction writes generalizing state with
  | nil =>
    cases written
    exact ⟨sound, rfl⟩
  | cons change rest ih =>
    rw [List.foldlM_cons, Option.bind_eq_bind, Option.bind_eq_some_iff] at written
    obtain ⟨middle, isWritten, later⟩ := written
    obtain ⟨middleSound, middleVersion⟩ := write_sound sound isWritten
    obtain ⟨laterSound, laterVersion⟩ := ih middleSound later
    exact ⟨laterSound, laterVersion.trans middleVersion⟩

theorem moves_answer (sound : Sound (factsOf state.graph)) (call : AssistantCall) :
    Moves state (state.answer platform call) := by
  cases call with
  | captures event => exact .of_same sound rfl rfl
  | jobs call => exact .of_same sound rfl rfl
  | deleteEvidence evidenceId =>
    simp only [answer, AssistantState.deleteEvidence]
    cases (state.captures.evidence.deleteEvidence evidenceId (state.nowUtc platform)).toOption with
    | none => exact .of_same sound rfl rfl
    | some deleted => exact .of_same sound rfl rfl
  | classify row => exact .of_same sound rfl rfl
  | changeGraph writes =>
    simp only [answer, AssistantState.changeGraph]
    split
    · exact .of_same sound rfl rfl
    next middle written =>
      obtain ⟨middleSound, middleVersion⟩ := writes_sound sound written
      refine ⟨middleSound, by simp [middleVersion], fun same => ?_⟩
      -- a mutation has a version of its own
      simp [middleVersion] at same
  | createOwnerNode id =>
    simp only [answer]
    split
    · exact .of_same sound rfl rfl
    · apply Moves.of_kept sound
      intro graph created
      obtain ⟨fresh, isGraph⟩ := factsOf_createNode created
      rw [isGraph]
      exact ⟨.added _ fresh rfl, fewerOrphans_createOwnerNode created⟩
  | addOwnerAlias aliasText id nowUtc =>
    simp only [answer]
    split
    · exact .of_same sound rfl rfl
    next owner isOwner =>
      apply Moves.of_kept sound
      intro graph added
      obtain ⟨facts, names, assertions⟩ := factsOf_addAlias added
      rw [facts]
      exact ⟨.same, fewerOrphans_ownerAlias sound isOwner facts (fun named member _ => names named member) assertions⟩
  | removeOwnerAlias aliasText =>
    simp only [answer]
    split
    · exact .of_same sound rfl rfl
    next owner isOwner =>
      obtain ⟨facts, names, assertions⟩ := factsOf_removeAlias state.graph platform.text owner.id aliasText .user_supplied
      refine ⟨?_, Nat.le_refl _, fun _ => fewerOrphans_ownerAlias sound isOwner facts names assertions⟩
      rw [withGraph, facts]
      exact sound
  | previewCleanup ownerId draw =>
    simp only [answer]
    split
    next preview shown previewed =>
      obtain ⟨_, _, stored, _, rfl, _⟩ := preview_ok previewed
      exact .of_same sound rfl rfl
    · exact .of_same sound rfl rfl
  | runCleanup ownerId previewToken reclassify draw => exact moves_run sound ownerId previewToken reclassify draw

theorem sound_of_calls (sound : Sound (factsOf state.graph)) (calls : List AssistantCall) :
    Sound (factsOf (state.afterCalls platform calls).graph) :=
  Runs.run_invariant (fun later : AssistantState Envelope Digest => Sound (factsOf later.graph))
    (fun _ call isSound => (moves_answer isSound call).sound) sound calls

theorem sound_of_run (nowMs : Int) (version : Nat) (calls : List AssistantCall) :
    Sound (factsOf ((opened nowMs version).afterCalls platform calls).graph) := by
  have empty : Sound (factsOf (opened nowMs version : AssistantState Envelope Digest).graph) :=
    ⟨List.nodup_nil, fun _ member => (List.not_mem_nil member).elim⟩
  exact sound_of_calls empty calls

theorem fewerOrphans_of_version (sound : Sound (factsOf state.graph)) (calls : List AssistantCall)
    (same : (state.afterCalls platform calls).graphVersion = state.graphVersion) :
    FewerOrphans state.graph (state.afterCalls platform calls).graph := by
  have moves : Moves state (state.afterCalls platform calls) := by
    apply Runs.run_invariant (fun later => Moves state later)
    · intro later call moved
      have next := @moves_answer _ _ platform _ _ moved.sound call
      refine ⟨next.sound, moved.version.trans next.version, fun unmoved => ?_⟩
      have middle : later.graphVersion = state.graphVersion := by
        have first := moved.version
        have second := next.version
        omega
      exact (moved.orphans middle).trans (next.orphans (unmoved.trans middle.symm))
    · exact .of_same sound rfl rfl
  exact moves.orphans same

end


/-! ## A run after its preview -/

theorem touchesCaptures_iff {previewed now : AssistantState Envelope Digest} {listed : GraphCleanupPlan} {live : List String}
    (previewPlanned : previewed.plan platform ownerId = .ok listed) (planned : now.plan platform ownerId = .ok plan)
    (isLive : now.listLiveImageExtractionEvidenceIds platform ownerId = .ok live) (nowMs : Int) :
    (∀ row ∈ now.captures.queue,
      (settled ownerId plan.discardableCaptureIds live nowMs row).evidenceId = row.evidenceId ∧
        ((settled ownerId plan.discardableCaptureIds live nowMs row).state = row.state ∨
          (settled ownerId plan.discardableCaptureIds live nowMs row).state = .processed ∧
            row.evidenceId ∈ listed.discardableCaptureIds ∨
          (settled ownerId plan.discardableCaptureIds live nowMs row).state = .queued ∧
            row.evidenceId ∈ listed.resumableCaptureIds)) ↔
      NothingNewlyStranded platform previewed now ownerId := by
  obtain ⟨stranded, isStrandedList, _⟩ := plan_ok.mp planned
  have unreadable : ∀ evidenceId, Stranded platform now ownerId evidenceId true →
      plan.discardableCaptureIds.contains evidenceId = false := by
    rintro evidenceId ⟨_, _, _, isRead⟩
    rw [← Bool.not_eq_true, List.contains_iff_mem, mem_discardable planned]
    rintro ⟨_, _, _, otherRead⟩
    rw [isRead] at otherRead
    cases otherRead
  constructor
  · intro touches evidenceId isReadable isStranded
    obtain ⟨sameLive, isSame, ⟨row, isRow, rfl, rowStranded⟩, isRead⟩ := id isStranded
    rw [isLive] at isSame
    cases isSame
    have processing : row.state = .processing := by
      simp only [CaptureState.isStranded, Bool.and_eq_true, beq_iff_eq] at rowStranded
      exact rowStranded.1.2
    obtain ⟨_, touched⟩ := touches row isRow
    rw [processing] at touched
    cases isReadable with
    | true =>
      obtain ⟨gone, _⟩ | ⟨_, _, is⟩ | ⟨_, wasNone, _⟩ := settled_cases ownerId plan.discardableCaptureIds live nowMs row
      · rw [unreadable _ isStranded] at gone
        cases gone
      · simp only [is, reduceCtorEq, false_and, true_and, false_or] at touched
        exact (mem_resumable previewPlanned).mp touched
      · rw [rowStranded] at wasNone
        cases wasNone
    | false =>
      have gone : plan.discardableCaptureIds.contains row.evidenceId = true :=
        List.contains_iff_mem.mpr ((mem_discardable planned).mpr isStranded)
      obtain ⟨_, is⟩ | ⟨remains, _⟩ | ⟨remains, _⟩ := settled_cases ownerId plan.discardableCaptureIds live nowMs row
      · simp only [is, processedAt, reduceCtorEq, false_and, true_and, false_or, or_false] at touched
        exact (mem_discardable previewPlanned).mp touched
      · rw [gone] at remains
        cases remains
      · rw [gone] at remains
        cases remains
  · intro nothing row isRow
    obtain ⟨gone, is⟩ | ⟨remains, rowStranded, is⟩ | ⟨_, _, is⟩ :=
      settled_cases ownerId plan.discardableCaptureIds live nowMs row
    · rw [is]
      have isStranded := (mem_discardable planned).mp (List.contains_iff_mem.mp gone)
      exact ⟨rfl, Or.inr (Or.inl ⟨rfl, (mem_discardable previewPlanned).mpr (nothing _ _ isStranded)⟩)⟩
    · rw [is]
      obtain ⟨isReadable, isStranded⟩ := exists_stranded isStrandedList isLive isRow rowStranded
      cases isReadable with
      | true => exact ⟨rfl, Or.inr (Or.inr ⟨rfl, (mem_resumable previewPlanned).mpr (nothing _ _ isStranded)⟩)⟩
      | false =>
        rw [List.contains_iff_mem.mpr ((mem_discardable planned).mpr isStranded)] at remains
        cases remains
    · rw [is]
      exact ⟨rfl, Or.inl rfl⟩

theorem touchesNodes (performed : Performed platform state after ownerId plan) :
    List.Forall₂ (fun (row later : NodeRow) => later.id = row.id ∧
      (later.status = row.status ∨ later.status = .deleted ∧ row.id ∈ plan.orphanNodeIds))
      state.graph.nodes.rows after.graph.nodes.rows := by
  have inTurn : List.Forall₂ Eq (after.graph.nodes.rows.map nodeFact) (state.graph.nodes.rows.map fun row =>
      if plan.orphanNodeIds.contains (nodeFact row).id then (nodeFact row).deleted else nodeFact row) := by
    have isAfter : after.graph.nodes.rows.map nodeFact = state.graph.nodes.rows.map fun row =>
        if plan.orphanNodeIds.contains (nodeFact row).id then (nodeFact row).deleted else nodeFact row := by
      have facts := performed.facts
      simp only [factsOf, updateWhere, List.map_map] at facts
      exact facts
    rw [isAfter]
    exact List.forall₂_refl _
  apply (List.forall₂_map_right_iff.mp (List.forall₂_map_left_iff.mp inTurn)).flip.imp
  intro row later same
  have sameId : later.id = (nodeFact later).id := rfl
  have sameStatus : later.status = (nodeFact later).status := rfl
  rw [sameId, sameStatus, show nodeFact later = _ from same]
  split
  next listed => exact ⟨rfl, Or.inr ⟨rfl, List.contains_iff_mem.mp listed⟩⟩
  · exact ⟨rfl, Or.inl rfl⟩

/-- A run touches only what its preview listed, exactly if no capture was stranded, or lost its pixels while it was,
since the preview; and after it, if it reclassified, there is nothing left to list. -/
theorem cleanup_touches_only_listed_iff [DecidableEq Digest] (platform : AssistantPlatform Envelope Digest) (nowMs : Int)
    (version : Nat) (early between : List AssistantCall) (ownerId : String) (draw : Bytes) (reclassify : Bool)
    (runDraw : RunDraw) {preview : AssistantGraphCleanupPreview} {shown after : AssistantState Envelope Digest}
    {result : GraphCleanupResult}
    (previewed : ((opened nowMs version).afterCalls platform early).preview platform ownerId draw = .ok (preview, shown))
    (ran : (shown.afterCalls platform between).run platform ownerId preview.previewToken reclassify runDraw =
      (.ok result, after)) :
    TouchesOnlyListed preview (shown.afterCalls platform between) after ∧
        (reclassify = true → ∀ again, ListsNothing platform after ownerId again) ↔
      NothingNewlyStranded platform ((opened nowMs version).afterCalls platform early)
        (shown.afterCalls platform between) ownerId := by
  obtain ⟨listed, secret, stored, previewPlanned, isShown, rfl⟩ := preview_ok previewed
  obtain ⟨plan, runSecret, planned, validated, performed⟩ := run_ok ran
  obtain ⟨live, isLive, isQueue⟩ := performed.queue
  have sameGraph : shown.graph = ((opened nowMs version).afterCalls platform early).graph := by rw [isShown]
  have shownSound : Sound (factsOf shown.graph) := by
    rw [sameGraph]
    exact sound_of_run nowMs version early
  have sound : Sound (factsOf (shown.afterCalls platform between).graph) := sound_of_calls shownSound between
  have sameVersion : (shown.afterCalls platform between).graphVersion = shown.graphVersion := by
    rw [version_of_validated validated, isShown]
    rfl
  have deleted : ∀ nodeId ∈ (chosen plan reclassify).orphanNodeIds, nodeId ∈ listed.orphanNodeIds := by
    obtain ⟨_, _, rfl⟩ := plan_ok.mp planned
    obtain ⟨_, _, rfl⟩ := plan_ok.mp previewPlanned
    have fewer := fewerOrphans_of_version shownSound between sameVersion
    rw [sameGraph] at fewer
    cases reclassify with
    | true => exact fewer
    | false => exact fewer
  have sameDiscardable : (chosen plan reclassify).discardableCaptureIds = plan.discardableCaptureIds := by
    cases reclassify <;> rfl
  have nodes : List.Forall₂ (fun (row later : NodeRow) => later.id = row.id ∧
      (later.status = row.status ∨ later.status = .deleted ∧ row.id ∈ listed.orphanNodeIds))
      (shown.afterCalls platform between).graph.nodes.rows after.graph.nodes.rows := by
    apply (touchesNodes performed).imp
    rintro row later ⟨sameId, untouched | ⟨isDeleted, orphan⟩⟩
    · exact ⟨sameId, Or.inl untouched⟩
    · exact ⟨sameId, Or.inr ⟨isDeleted, deleted _ orphan⟩⟩
  have nothingLeft : reclassify = true → ∀ again, ListsNothing platform after ownerId again := by
    rintro rfl again
    exact listsNothing_of_empty (plan_after sound planned performed) again
  have captures := touchesCaptures_iff previewPlanned planned isLive (shown.afterCalls platform between).captures.nowMs
  rw [← captures]
  constructor
  · rintro ⟨⟨_, touches⟩, _⟩
    rw [isQueue, sameDiscardable, List.forall₂_map_right_iff, List.forall₂_same] at touches
    exact touches
  · intro touches
    refine ⟨⟨nodes, ?_⟩, nothingLeft⟩
    rw [isQueue, sameDiscardable, List.forall₂_map_right_iff, List.forall₂_same]
    exact touches

/-! ## Samples -/

theorem preview_of_planned (fresh : state.previewSecret = none) (planned : state.plan platform ownerId = .ok plan)
    (draw : Bytes) :
    state.preview platform ownerId draw =
      .ok (signedPreview platform state ownerId draw plan, { state with previewSecret := some (toBase64url draw) }) := by
  simp only [AssistantState.preview, planned, AssistantState.secret, fresh]
  rfl

theorem run_of_signed {secret : Bytes} {reclassify : Bool} {draw : RunDraw} {result : GraphCleanupResult}
    (stored : state.previewSecret = some (toBase64url secret)) (planned : state.plan platform ownerId = .ok plan)
    (safe : state.graphVersion ≤ SiftKit.Schema.maxSafeInteger ∧ plan.counts.Safe)
    (performed : state.perform platform ownerId (chosen plan reclassify) draw = .ok (result, after)) :
    state.run platform ownerId (sign platform.hmac secret (state.buildGraphCleanupPayload ownerId plan.counts)) reclassify
      draw = (.ok result, after) := by
  have verified := (@verify_sign_iff platform.hmac secret secret (state.buildGraphCleanupPayload ownerId plan.counts) _).mpr
    ⟨rfl, safe, rfl⟩
  have validated : state.validateGraphCleanup platform secret ownerId
      (sign platform.hmac secret (state.buildGraphCleanupPayload ownerId plan.counts)) plan.counts = .ok () := by
    simp only [validateGraphCleanup, bind_eq_ok, throwWhen_eq_ok]
    exact ⟨_, verified, (), by simp [buildGraphCleanupPayload], (),
      by simp [buildGraphCleanupPayload], by simp⟩
  have secrets : state.tokenSecret (sign platform.hmac secret (state.buildGraphCleanupPayload ownerId plan.counts))
      draw.secret = (secret, state) := by
    simp [tokenSecret, splitOn_sign, AssistantState.secret, stored, fromBase64url_toBase64url]
  simp only [run, planned, secrets, validated, performed]

end

def sampleAssistantPlatform : AssistantPlatform (Bytes × Bytes) Bytes :=
  { sampleCapturePlatform with
    text := datedPlatform
    hmac := fun secret text => secret ++ encodeUtf8 text
    extractionEvidenceId := fun jobId =>
      if jobId = "job_1" then some "ev_1" else if jobId = "job_2" then some "ev_2" else none }

def sampleSecret : Bytes := [7, 7, 7, 7]

def sampleDraw : RunDraw where
  secret := []
  jobId := "job_3"
  projectionPriority := 0
  auditFails := false

/-- What the first preview leaves. -/
def withSecret (state : AssistantState (Bytes × Bytes) Bytes) : AssistantState (Bytes × Bytes) Bytes :=
  { state with previewSecret := some (toBase64url sampleSecret) }

/-! ### A person that nothing refers to -/

def addPerson : AssistantCall :=
  .changeGraph [.store (.createNode
    { type := .person, canonicalKey := none, displayName := utf16 "Ann", description := none, sensitivity := .personal }
    "node_1") trivial]

def withPerson : AssistantState (Bytes × Bytes) Bytes := (opened 0 1).afterCalls sampleAssistantPlatform [addPerson]

def personPlan : GraphCleanupPlan := ⟨["node_1"], [], [], [], []⟩

/-- The owner's node comes after the preview, and without a version. -/
def withOwner : AssistantState (Bytes × Bytes) Bytes :=
  (withSecret withPerson).afterCalls sampleAssistantPlatform [.createOwnerNode "node_2"]

theorem withPerson_planned : withPerson.previewSecret = none ∧
    withPerson.plan sampleAssistantPlatform "owner" = .ok personPlan := by
  decide +kernel

theorem withOwner_planned : withOwner.previewSecret = some (toBase64url sampleSecret) ∧ withOwner.graphVersion = 2 ∧
    withOwner.plan sampleAssistantPlatform "owner" = .ok personPlan ∧ withOwner.captures.queue = [] ∧
    withPerson.buildGraphCleanupPayload "owner" personPlan.counts =
      withOwner.buildGraphCleanupPayload "owner" personPlan.counts ∧
    (withOwner.perform sampleAssistantPlatform "owner" personPlan sampleDraw).toOption.isSome = true := by
  decide +kernel

theorem cleanup_touches_person :
    ∃ preview shown result after,
      withPerson.preview sampleAssistantPlatform "owner" sampleSecret = .ok (preview, shown) ∧
      (shown.afterCalls sampleAssistantPlatform [.createOwnerNode "node_2"]).run sampleAssistantPlatform "owner"
        preview.previewToken true sampleDraw = (.ok result, after) ∧
      TouchesOnlyListed preview (shown.afterCalls sampleAssistantPlatform [.createOwnerNode "node_2"]) after := by
  obtain ⟨fresh, planned⟩ := withPerson_planned
  obtain ⟨stored, isVersion, ownerPlanned, noCaptures, samePayload, performs⟩ := withOwner_planned
  obtain ⟨⟨result, after⟩, performed⟩ := Option.isSome_iff_exists.mp performs
  have previewed := preview_of_planned fresh planned sampleSecret
  have safe : withOwner.graphVersion ≤ SiftKit.Schema.maxSafeInteger ∧ personPlan.counts.Safe := by
    rw [isVersion]
    simp [GraphCleanupCounts.Safe, GraphCleanupPlan.counts, personPlan, SiftKit.Schema.maxSafeInteger]
  have ran : withOwner.run sampleAssistantPlatform "owner" (sign sampleAssistantPlatform.hmac sampleSecret
      (withPerson.buildGraphCleanupPayload "owner" personPlan.counts)) true sampleDraw = (.ok result, after) := by
    rw [samePayload]
    exact run_of_signed stored ownerPlanned safe (toOption_eq_some.mp performed)
  have nothing : NothingNewlyStranded sampleAssistantPlatform withPerson withOwner "owner" := by
    rintro evidenceId isReadable ⟨_, _, ⟨row, isRow, _⟩, _⟩
    rw [noCaptures] at isRow
    cases isRow
  have touches := (cleanup_touches_only_listed_iff sampleAssistantPlatform 0 1 [addPerson] [.createOwnerNode "node_2"] "owner"
    sampleSecret true sampleDraw previewed ran).mpr nothing
  exact ⟨_, _, result, after, previewed, ran, touches.1⟩

/-! ### Two captures whose extractions fail -/

/-- A capture that waits for its extraction. -/
def takeCapture (sourceEventId blobId evidenceId jobId : String) (bytes : Bytes) : List AssistantCall :=
  [.captures ⟨0, .recordEvidence "owner" sourceEventId "image/png" bytes ⟨blobId, evidenceId, []⟩⟩,
    .captures ⟨0, .enqueue
      { ownerId := "owner", evidenceId, state := .queued, foregroundContextKey := "editor", pixelSha256 := evidenceId,
        perceptualHash := "0", byteLength := bytes.length }⟩,
    .jobs (.enqueue ⟨"owner", .imageExtraction, s!"image_extraction:{evidenceId}"⟩ 10 jobId)]

/-- An extraction whose model call fails, and the minutes until the next one. -/
def failExtraction (evidenceId jobId : String) : List AssistantCall :=
  [.jobs (.claimNext ⟨"owner", "worker", 60, true⟩),
    .captures ⟨0, .startRun ⟨"owner", evidenceId⟩ liveRuntime liveRuntime false⟩,
    .captures ⟨0, .finishRun 0 .threw⟩,
    .jobs (.fail jobId "The model call failed."),
    .captures ⟨120000, .retention sampleObservation "owner" fun _ => false⟩]

/-- A capture whose extraction fails for good. -/
def strandCapture (sourceEventId blobId evidenceId jobId : String) (bytes : Bytes) : List AssistantCall :=
  takeCapture sourceEventId blobId evidenceId jobId bytes ++ failExtraction evidenceId jobId ++
    failExtraction evidenceId jobId ++ failExtraction evidenceId jobId

def strandFirst : List AssistantCall := strandCapture "capture:1" "blob_1" "ev_1" "job_1" [104, 105]

/-- The service starts again and recovers the first capture; then the extraction of a second one fails for good. -/
def strandSecond : List AssistantCall :=
  .captures ⟨0, .recoverStranded "owner" []⟩ :: strandCapture "capture:2" "blob_2" "ev_2" "job_2" [104, 111]

def firstStranded : AssistantState (Bytes × Bytes) Bytes := (opened 0 1).afterCalls sampleAssistantPlatform strandFirst

def secondStranded : AssistantState (Bytes × Bytes) Bytes :=
  (withSecret firstStranded).afterCalls sampleAssistantPlatform strandSecond

def firstPlan : GraphCleanupPlan := ⟨[], ["ev_1"], [], [], []⟩

def secondPlan : GraphCleanupPlan := ⟨[], ["ev_2"], [], [], []⟩

theorem firstStranded_planned : firstStranded.previewSecret = none ∧
    firstStranded.plan sampleAssistantPlatform "owner" = .ok firstPlan := by
  decide +kernel

theorem secondStranded_planned : secondStranded.previewSecret = some (toBase64url sampleSecret) ∧
    secondStranded.graphVersion = 1 ∧ secondStranded.plan sampleAssistantPlatform "owner" = .ok secondPlan ∧
    firstStranded.buildGraphCleanupPayload "owner" firstPlan.counts =
      secondStranded.buildGraphCleanupPayload "owner" secondPlan.counts ∧
    (secondStranded.perform sampleAssistantPlatform "owner" secondPlan sampleDraw).toOption.isSome = true := by
  decide +kernel

/-- The token that was given for one capture requeues another one. -/
theorem token_requeues_another_capture :
    ¬ ∀ (early between : List AssistantCall) (draw : Bytes) (runDraw : RunDraw)
      (preview : AssistantGraphCleanupPreview) (shown after : AssistantState (Bytes × Bytes) Bytes)
      (result : GraphCleanupResult),
      ((opened 0 1).afterCalls sampleAssistantPlatform early).preview sampleAssistantPlatform "owner" draw =
        .ok (preview, shown) →
      (shown.afterCalls sampleAssistantPlatform between).run sampleAssistantPlatform "owner" preview.previewToken true
        runDraw = (.ok result, after) →
      TouchesOnlyListed preview (shown.afterCalls sampleAssistantPlatform between) after := by
  intro touchesOnly
  obtain ⟨fresh, planned⟩ := firstStranded_planned
  obtain ⟨stored, isVersion, secondPlanned, samePayload, performs⟩ := secondStranded_planned
  obtain ⟨⟨result, after⟩, performed⟩ := Option.isSome_iff_exists.mp performs
  have previewed : firstStranded.preview sampleAssistantPlatform "owner" sampleSecret =
      .ok (signedPreview sampleAssistantPlatform firstStranded "owner" sampleSecret firstPlan, withSecret firstStranded) :=
    preview_of_planned fresh planned sampleSecret
  have safe : secondStranded.graphVersion ≤ SiftKit.Schema.maxSafeInteger ∧ secondPlan.counts.Safe := by
    rw [isVersion]
    simp [GraphCleanupCounts.Safe, GraphCleanupPlan.counts, secondPlan, SiftKit.Schema.maxSafeInteger]
  have ran : secondStranded.run sampleAssistantPlatform "owner" (sign sampleAssistantPlatform.hmac sampleSecret
      (firstStranded.buildGraphCleanupPayload "owner" firstPlan.counts)) true sampleDraw = (.ok result, after) := by
    rw [samePayload]
    exact run_of_signed stored secondPlanned safe (toOption_eq_some.mp performed)
  have only : TouchesOnlyListed (signedPreview sampleAssistantPlatform firstStranded "owner" sampleSecret firstPlan)
      secondStranded after :=
    touchesOnly strandFirst strandSecond sampleSecret sampleDraw _ (withSecret firstStranded) after result previewed ran
  obtain ⟨_, touches⟩ := only
  obtain ⟨live, isLive, isQueue⟩ := (perform_ok (toOption_eq_some.mp performed)).queue
  rw [isQueue, List.forall₂_map_right_iff, List.forall₂_same] at touches
  have nothing := (touchesCaptures_iff planned secondPlanned isLive secondStranded.captures.nowMs).mp touches
  have isStranded : Stranded sampleAssistantPlatform secondStranded "owner" "ev_2" true :=
    (mem_resumable secondPlanned).mp (List.mem_singleton.mpr rfl)
  have wasListed : "ev_2" ∈ firstPlan.resumableCaptureIds := (mem_resumable planned).mpr (nothing _ _ isStranded)
  exact absurd wasListed (by decide)

end SiftKit.Assistant.Cleanup
