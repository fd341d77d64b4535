import SiftKit.RepoSearch.ApprovalLedger

/-! # What the operations of an approval gate do

Whatever holds an approval open (its entry, its timer, its listener) belongs to an approval that waits, and
an approval that waits is held open.  Each operation keeps that, and is a sequence of steps of the ledger.
-/

namespace SiftKit.RepoSearch.Approvals

open Relation

variable {ApprovalId ToolCall : Type} [DecidableEq ApprovalId]

namespace GateRun

variable {options : GateOptions} {moment : Moment ApprovalId} {randomUuid : Nat → ApprovalId}
  {run : GateRun ApprovalId ToolCall} {approvalId : ApprovalId} {spared : List ApprovalId}

def ledger (run : GateRun ApprovalId ToolCall) : Ledger ApprovalId ToolCall := ⟨run.drawn, run.waiting, run.resuming, run.log⟩

/-- What happened from one run to the other happened to the ledger. -/
def Refines (options : GateOptions) (randomUuid : Nat → ApprovalId) (before after : GateRun ApprovalId ToolCall) : Prop :=
  ReflTransGen (Ledger.Step options randomUuid) before.ledger after.ledger

/-! ## What holds an approval open -/

/-- The approvals that wait are exactly those that are held open, but for spared ones that are about to leave. -/
structure Held (spared : List ApprovalId) (run : GateRun ApprovalId ToolCall) : Prop where
  listening : ∀ id, id ∈ run.listeners ↔ id ∈ run.pending.keys
  armed : ∀ id ∈ run.timers, ∃ entry, run.pending.get? id = some entry ∧ entry.timeoutHandle = true
  pendingWaits : ∀ id ∈ run.pending.keys, id ∈ run.waiting
  waitsArmed : ∀ id ∈ run.waiting, id ∈ run.timers ∨ id ∈ spared
  started : ∀ id entry, run.pending.get? id = some entry → .requested id entry.startedAtMs ∈ run.log
  sawAbort : ∀ reason, .aborted reason ∈ run.log → run.aborted.isSome = true

/-- And once the signal is aborted, none is held open any more. -/
structure Idle (spared : List ApprovalId) (run : GateRun ApprovalId ToolCall) : Prop where
  held : Held spared run
  ended : run.aborted.isSome = true → ∀ id, id ∉ run.pending.keys

theorem mem_keys {entry : PendingApproval} (found : run.pending.get? approvalId = some entry) : approvalId ∈ run.pending.keys := by
  rw [← OrderedMap.has_iff, OrderedMap.has, found]
  rfl

theorem Held.spare (held : Held spared run) (id : ApprovalId) : Held (id :: spared) run :=
  { held with waitsArmed := fun other waits => (held.waitsArmed other waits).imp_right (List.mem_cons_of_mem id) }

theorem Idle.spare (idle : Idle spared run) (id : ApprovalId) : Idle (id :: spared) run := ⟨idle.held.spare id, idle.ended⟩

/-! ## Clearing -/

section Clearing

variable (approvalId)

@[simp] theorem clearPending_ledger : (run.clearPending approvalId).ledger = run.ledger := by
  unfold clearPending
  split <;> rfl

@[simp] theorem clearPending_waiting : (run.clearPending approvalId).waiting = run.waiting := by
  unfold clearPending
  split <;> rfl

@[simp] theorem clearPending_log : (run.clearPending approvalId).log = run.log := by
  unfold clearPending
  split <;> rfl

@[simp] theorem clearPending_resuming : (run.clearPending approvalId).resuming = run.resuming := by
  unfold clearPending
  split <;> rfl

@[simp] theorem clearPending_aborted : (run.clearPending approvalId).aborted = run.aborted := by
  unfold clearPending
  split <;> rfl

@[simp] theorem clearPending_get? (id : ApprovalId) :
    (run.clearPending approvalId).pending.get? id = if id = approvalId then none else run.pending.get? id := by
  unfold clearPending
  split
  next absent =>
    split
    next same => rw [same, absent]
    next => rfl
  next => simp

theorem mem_keys_iff (id : ApprovalId) : id ∈ run.pending.keys ↔ ∃ entry, run.pending.get? id = some entry := by
  rw [← OrderedMap.has_iff, OrderedMap.has, Option.isSome_iff_exists]

@[simp] theorem clearPending_keys (id : ApprovalId) :
    id ∈ (run.clearPending approvalId).pending.keys ↔ id ∈ run.pending.keys ∧ id ≠ approvalId := by
  rw [mem_keys_iff, mem_keys_iff, clearPending_get?]
  by_cases same : id = approvalId <;> simp [same]

theorem Held.clearPending (held : Held spared run) : Held (approvalId :: spared) (run.clearPending approvalId) := by
  have apart : ∀ id, run.pending.get? approvalId = none → id ∈ run.pending.keys → id ≠ approvalId := by
    rintro id absent member rfl
    exact OrderedMap.get?_eq_none.mp absent member
  have listeners : ∀ id, id ∈ (run.clearPending approvalId).listeners ↔ id ∈ run.listeners ∧ id ≠ approvalId := by
    intro id
    unfold GateRun.clearPending
    split
    next absent => exact ⟨fun listens => ⟨listens, apart id absent ((held.listening id).mp listens)⟩, fun both => both.1⟩
    next => simp
  have timers : ∀ id, id ∈ (run.clearPending approvalId).timers ↔ id ∈ run.timers ∧ id ≠ approvalId := by
    intro id
    unfold GateRun.clearPending
    split
    next absent =>
      refine ⟨fun timer => ⟨timer, ?_⟩, fun both => both.1⟩
      obtain ⟨entry, found, _⟩ := held.armed id timer
      exact apart id absent (mem_keys found)
    next entry found =>
      cases set : entry.timeoutHandle with
      | true => simp
      | false =>
        -- An entry whose timer was not set has none.
        refine ⟨fun timer => ⟨timer, ?_⟩, fun both => both.1⟩
        rintro rfl
        obtain ⟨own, ownFound, ownSet⟩ := held.armed _ timer
        rw [found, Option.some_inj] at ownFound
        rw [← ownFound, set] at ownSet
        cases ownSet
  constructor
  · intro id
    rw [listeners, clearPending_keys, held.listening]
  · intro id timer
    obtain ⟨before, other⟩ := (timers id).mp timer
    simpa [other] using held.armed id before
  · intro id member
    rw [clearPending_waiting]
    exact held.pendingWaits id ((clearPending_keys approvalId id).mp member).1
  · intro id waits
    rw [clearPending_waiting] at waits
    by_cases same : id = approvalId
    · simp [same]
    · rw [timers]
      exact (held.waitsArmed id waits).imp (fun timer => ⟨timer, same⟩) (List.mem_cons_of_mem _)
  · intro id entry found
    rw [clearPending_get?] at found
    split at found
    · cases found
    · rw [clearPending_log]
      exact held.started id entry found
  · simpa using held.sawAbort

theorem Idle.clearPending (idle : Idle spared run) : Idle (approvalId :: spared) (run.clearPending approvalId) := by
  refine ⟨idle.held.clearPending approvalId, fun aborted id member => ?_⟩
  rw [clearPending_aborted] at aborted
  exact idle.ended aborted id ((clearPending_keys approvalId id).mp member).1

end Clearing

/-! ## Leaving -/

/-- What a promise that settles changes: its approval waits no more. -/
structure Leaves (approvalId : ApprovalId) (before after : GateRun ApprovalId ToolCall) : Prop where
  pending : after.pending = before.pending
  listeners : after.listeners = before.listeners
  timers : after.timers = before.timers
  aborted : after.aborted = before.aborted
  waiting : ∀ id, id ∈ after.waiting ↔ id ∈ before.waiting ∧ id ≠ approvalId
  earlier : ∀ event ∈ before.log, event ∈ after.log
  noAbort : ∀ reason, .aborted reason ∈ after.log → .aborted reason ∈ before.log

variable {after : GateRun ApprovalId ToolCall} (entry : ResolvedEvidence ApprovalId)
  {evidence : List (ResolvedEvidence ApprovalId)} {decision : ApprovalDecision}

theorem Held.leave (held : Held (approvalId :: spared) run) (cleared : approvalId ∉ run.pending.keys)
    (leaves : Leaves approvalId run after) : Held spared after := by
  constructor
  · rw [leaves.listeners, leaves.pending]
    exact held.listening
  · rw [leaves.timers, leaves.pending]
    exact held.armed
  · intro id member
    rw [leaves.pending] at member
    refine (leaves.waiting id).mpr ⟨held.pendingWaits id member, ?_⟩
    rintro rfl
    exact cleared member
  · intro id waits
    obtain ⟨before, other⟩ := (leaves.waiting id).mp waits
    rw [leaves.timers]
    refine (held.waitsArmed id before).imp_right fun member => ?_
    exact (List.mem_cons.mp member).resolve_left other
  · intro id entry found
    rw [leaves.pending] at found
    exact leaves.earlier _ (held.started id entry found)
  · intro reason aborted
    rw [leaves.aborted]
    exact held.sawAbort reason (leaves.noAbort reason aborted)

theorem Idle.leave (idle : Idle (approvalId :: spared) run) (cleared : approvalId ∉ run.pending.keys)
    (leaves : Leaves approvalId run after) : Idle spared after := by
  refine ⟨idle.held.leave cleared leaves, ?_⟩
  rw [leaves.aborted, leaves.pending]
  exact idle.ended

omit [DecidableEq ApprovalId] in
theorem leaves_unless_waiting (absent : approvalId ∉ run.waiting) : Leaves approvalId run run := by
  refine ⟨rfl, rfl, rfl, rfl, fun id => ⟨fun waits => ⟨waits, ?_⟩, fun both => both.1⟩, fun _ member => member, fun _ member => member⟩
  rintro rfl
  exact absent waits

theorem reject_leaves (failure : Failure) : Leaves approvalId run (run.reject approvalId failure) := by
  unfold reject
  split
  next => constructor <;> simp +contextual [withoutWaiting, note]
  next absent => exact leaves_unless_waiting absent

theorem resolve_leaves (decision : ApprovalDecision) : Leaves approvalId run (run.resolve options approvalId decision) := by
  unfold resolve
  split
  next =>
    split
    · constructor <;> simp [withoutWaiting]
    · constructor <;> simp +contextual [withoutWaiting, note]
  next absent => exact leaves_unless_waiting absent

/-! ## Recording -/

/-- The run after resolutions were recorded. -/
def withEvidence (evidence : List (ResolvedEvidence ApprovalId)) (run : GateRun ApprovalId ToolCall) : GateRun ApprovalId ToolCall :=
  { run with log := run.log ++ evidence.map .resolutionRecorded }

theorem Held.extend (held : Held spared run) {events : List (GateEvent ApprovalId ToolCall)}
    (noAbort : ∀ reason, .aborted reason ∉ events) : Held spared { run with log := run.log ++ events } := by
  refine ⟨held.listening, held.armed, held.pendingWaits, held.waitsArmed, ?_, ?_⟩
  · intro id entry found
    exact List.mem_append_left _ (held.started id entry found)
  · intro reason member
    exact held.sawAbort reason ((List.mem_append.mp member).resolve_right (noAbort reason))

theorem Idle.withEvidence (idle : Idle spared run) (evidence : List (ResolvedEvidence ApprovalId)) :
    Idle spared (run.withEvidence evidence) :=
  ⟨idle.held.extend (by simp), idle.ended⟩

variable {event : GateEvent ApprovalId ToolCall}

theorem Idle.note (idle : Idle spared run) (noAbort : ∀ reason, event ≠ .aborted reason) :
    Idle spared (run.note event) :=
  ⟨idle.held.extend fun reason member => noAbort reason (List.mem_singleton.mp member).symm, idle.ended⟩

/-- The evidence of one resolution, which is written exactly if there is a recorder. -/
structure Written (options : GateOptions) (entry : ResolvedEvidence ApprovalId) (evidence : List (ResolvedEvidence ApprovalId)) :
    Prop where
  own : Ledger.OwnEvidence entry.approvalId evidence
  recorded : options.hasEvidenceRecorder = true → entry ∈ evidence

omit [DecidableEq ApprovalId] in
theorem written_committed : Written options entry [entry] :=
  ⟨⟨by simp, by simp⟩, fun _ => List.mem_singleton.mpr rfl⟩

omit [DecidableEq ApprovalId] in
theorem written_none (noRecorder : options.hasEvidenceRecorder ≠ true) : Written options entry [] :=
  ⟨⟨by simp, by simp⟩, fun recorder => absurd recorder noRecorder⟩

omit [DecidableEq ApprovalId] in
theorem recordFenced_cases (recording : Recording) (entry : ResolvedEvidence ApprovalId) :
    (∃ failure, run.recordFenced options recording entry = (run, some failure)) ∨
      ∃ evidence, Written options entry evidence ∧ run.recordFenced options recording entry = (run.withEvidence evidence, none) := by
  unfold recordFenced
  split
  next recorder =>
    cases recording with
    | committed => exact .inr ⟨[entry], written_committed entry, rfl⟩
    | refused failure => exact .inl ⟨failure, rfl⟩
    | fenced failure reason => exact .inl ⟨failure, rfl⟩
  next noRecorder => exact .inr ⟨[], written_none entry noRecorder, by simp [withEvidence]⟩

theorem record_cases :
    (∃ failure, run.record options moment entry = (run, some failure)) ∨
      (∃ failure reason, run.record options moment entry = (run.abort options moment reason, some failure)) ∨
        ∃ evidence, Written options entry evidence ∧ run.record options moment entry = (run.withEvidence evidence, none) := by
  unfold record
  split
  next recorder =>
    cases moment.recordResolved with
    | committed => exact .inr (.inr ⟨[entry], written_committed entry, rfl⟩)
    | refused failure => exact .inl ⟨failure, rfl⟩
    | fenced failure reason => exact .inr (.inl ⟨failure, reason, rfl⟩)
  next noRecorder => exact .inr (.inr ⟨[], written_none entry noRecorder, by simp [withEvidence]⟩)

/-! ## Steps of the ledger -/

theorem Refines.refl (run : GateRun ApprovalId ToolCall) : Refines options randomUuid run run := ReflTransGen.refl

theorem Refines.trans {first second third : GateRun ApprovalId ToolCall} (early : Refines options randomUuid first second)
    (late : Refines options randomUuid second third) : Refines options randomUuid first third :=
  ReflTransGen.trans early late

theorem note_refines (quiet : event.isRemark = true) :
    Refines options randomUuid run (run.note event) :=
  ReflTransGen.single (.remark run.ledger quiet)

omit [DecidableEq ApprovalId] in
theorem ownEvidence_nil (approvalId : ApprovalId) : Ledger.OwnEvidence approvalId [] := ⟨by simp, by simp⟩

omit [DecidableEq ApprovalId] in
@[simp] theorem withEvidence_nil : run.withEvidence [] = run := by
  simp [withEvidence]

theorem reject_refines (waits : approvalId ∈ run.waiting) (own : Ledger.OwnEvidence approvalId evidence)
    (failure : Failure) : Refines options randomUuid run ((run.withEvidence evidence).reject approvalId failure) := by
  have taken : (run.withEvidence evidence).reject approvalId failure =
      ((run.withEvidence evidence).withoutWaiting approvalId).note (.settled approvalId (.rejected failure)) := if_pos waits
  rw [taken]
  exact ReflTransGen.single (.dropped run.ledger waits own (by simp))

theorem stop_refines (waits : approvalId ∈ run.waiting) (own : Ledger.OwnEvidence approvalId evidence)
    (reason : String) :
    Refines options randomUuid run ((run.withEvidence evidence).resolve options approvalId (.abort reason)) := by
  have taken : (run.withEvidence evidence).resolve options approvalId (.abort reason) =
      ((run.withEvidence evidence).withoutWaiting approvalId).note (.settled approvalId (.resolved (.abort reason))) := by
    rw [resolve, if_pos (show approvalId ∈ (run.withEvidence evidence).waiting from waits)]
    simp [ApprovalDecision.isAbort]
  rw [taken]
  exact ReflTransGen.single (.dropped run.ledger waits own (by simp))

theorem reject_refines_always (failure : Failure) : Refines options randomUuid run (run.reject approvalId failure) := by
  by_cases waits : approvalId ∈ run.waiting
  · have dropped : Refines options randomUuid run ((run.withEvidence []).reject approvalId failure) :=
      reject_refines waits (ownEvidence_nil approvalId) failure
    simpa using dropped
  · rw [reject, if_neg waits]
    exact Refines.refl run

theorem stop_refines_always (reason : String) : Refines options randomUuid run (run.resolve options approvalId (.abort reason)) := by
  by_cases waits : approvalId ∈ run.waiting
  · have dropped : Refines options randomUuid run ((run.withEvidence []).resolve options approvalId (.abort reason)) :=
      stop_refines waits (ownEvidence_nil approvalId) reason
    simpa using dropped
  · rw [resolve, if_neg waits]
    exact Refines.refl run

theorem clearPending_refines (refines : Refines options randomUuid (run.clearPending approvalId) after) :
    Refines options randomUuid run after := by
  rw [Refines, clearPending_ledger] at refines
  exact refines

/-! ## Aborts -/

/-- What the abandonment of one approval does to a run in which it is held open. -/
structure Abandoned (options : GateOptions) (randomUuid : Nat → ApprovalId) (spared gone : List ApprovalId)
    (before after : GateRun ApprovalId ToolCall) : Prop where
  held : Held spared after
  refines : Refines options randomUuid before after
  listeners : ∀ id, id ∈ after.listeners ↔ id ∈ before.listeners ∧ id ∉ gone
  aborted : after.aborted = before.aborted

theorem abandon_effect (held : Held spared run) (pending : approvalId ∈ run.pending.keys) (reason : String) :
    Abandoned options randomUuid spared [approvalId] run (run.abandon options moment approvalId reason) := by
  have waits : approvalId ∈ (run.clearPending approvalId).waiting := by
    simpa using held.pendingWaits approvalId pending
  have cleared : approvalId ∉ (run.clearPending approvalId).pending.keys := by simp
  have listeners : ∀ id, id ∈ (run.clearPending approvalId).listeners ↔ id ∈ run.listeners ∧ id ≠ approvalId := by
    intro id
    rw [(held.clearPending approvalId).listening, clearPending_keys, held.listening]
  -- Whatever the recorder did, the promise is rejected once the entry is gone.
  have left : ∀ evidence failure, Ledger.OwnEvidence approvalId evidence →
      Abandoned options randomUuid spared [approvalId] run
        (((run.clearPending approvalId).withEvidence evidence).reject approvalId failure) := by
    intro evidence failure own
    have leaves : Leaves approvalId ((run.clearPending approvalId).withEvidence evidence) _ := reject_leaves failure
    constructor
    · exact ((held.clearPending approvalId).extend (by simp)).leave cleared leaves
    · exact clearPending_refines (reject_refines waits own failure)
    · intro id
      rw [leaves.listeners, List.mem_singleton]
      exact listeners id
    · rw [leaves.aborted]
      exact clearPending_aborted approvalId
  unfold abandon
  obtain ⟨failure, recorded⟩ | ⟨evidence, written, recorded⟩ :=
    @recordFenced_cases _ _ options (run.clearPending approvalId) (moment.recordAbandoned approvalId)
      (abandonedEvidence moment approvalId)
  · simp only [recorded]
    simpa using left [] failure (ownEvidence_nil approvalId)
  · simp only [recorded]
    exact left evidence _ written.own

theorem abandon_withoutListener (pending : approvalId ∈ run.pending.keys) (reason : String) :
    (run.withoutListener approvalId).abandon options moment approvalId reason = run.abandon options moment approvalId reason := by
  have same : (run.withoutListener approvalId).clearPending approvalId = run.clearPending approvalId := by
    obtain ⟨entry, found⟩ := (mem_keys_iff approvalId).mp pending
    have foundHere : (run.withoutListener approvalId).pending.get? approvalId = some entry := found
    simp only [clearPending, foundHere, found]
    simp [withoutListener]
  rw [abandon, same]
  rfl

/-- The listeners of a signal are called one after the other: by induction on those that are still to be called. -/
theorem dispatch_effect (reason : String) (ids : List ApprovalId) {run : GateRun ApprovalId ToolCall} (held : Held spared run) :
    Abandoned options randomUuid spared ids run (run.dispatch options moment reason ids) := by
  induction ids generalizing run with
  | nil => exact ⟨held, .refl run, by simp [dispatch], rfl⟩
  | cons id later ih =>
    rw [dispatch]
    split
    next listens =>
      have pending := (held.listening id).mp listens
      rw [abandon_withoutListener pending]
      have first : Abandoned options randomUuid spared [id] run (run.abandon options moment id reason) :=
        abandon_effect held pending reason
      have rest := ih first.held
      constructor
      · exact rest.held
      · exact first.refines.trans rest.refines
      · intro other
        rw [rest.listeners, first.listeners, List.mem_singleton, List.mem_cons, not_or, and_assoc]
      · exact rest.aborted.trans first.aborted
    next deaf =>
      have rest := ih held
      constructor
      · exact rest.held
      · exact rest.refines
      · intro other
        rw [rest.listeners, List.mem_cons, not_or]
        refine ⟨fun both => ⟨both.1, ?_, both.2⟩, fun both => ⟨both.1, both.2.2⟩⟩
        rintro rfl
        exact deaf both.1
      · exact rest.aborted

/-- What an operation does to a run, as far as the approvals are concerned. -/
structure Advances (options : GateOptions) (randomUuid : Nat → ApprovalId) (spared : List ApprovalId)
    (before after : GateRun ApprovalId ToolCall) : Prop where
  idle : Idle spared after
  refines : Refines options randomUuid before after

theorem Idle.stay (idle : Idle spared run) : Advances options randomUuid spared run run := ⟨idle, .refl run⟩

theorem Advances.trans {spared' : List ApprovalId} {first second third : GateRun ApprovalId ToolCall}
    (early : Advances options randomUuid spared' first second) (late : Advances options randomUuid spared second third) :
    Advances options randomUuid spared first third :=
  ⟨late.idle, early.refines.trans late.refines⟩

theorem abort_effect (idle : Idle spared run) (reason : String) :
    Advances options randomUuid spared run (run.abort options moment reason) ∧
      ∀ id, id ∉ (run.abort options moment reason).pending.keys := by
  unfold abort
  split
  next earlier aborted => exact ⟨idle.stay, idle.ended (by rw [aborted]; rfl)⟩
  next live =>
    have held : Held spared ({ run with aborted := some reason }.note (.aborted reason)) := by
      refine ⟨idle.held.listening, idle.held.armed, idle.held.pendingWaits, idle.held.waitsArmed, ?_, fun _ _ => rfl⟩
      intro id entry found
      exact List.mem_append_left _ (idle.held.started id entry found)
    have effect : Abandoned options randomUuid spared run.listeners ({ run with aborted := some reason }.note (.aborted reason))
        (({ run with aborted := some reason }.note (.aborted reason)).dispatch options moment reason run.listeners) :=
      dispatch_effect reason run.listeners held
    have cleared : ∀ id, id ∉ (({ run with aborted := some reason }.note (.aborted reason)).dispatch options moment reason
        run.listeners).pending.keys := by
      intro id pending
      -- A listener that is left was not among those that were called.
      have listens := (effect.listeners id).mp ((effect.held.listening id).mpr pending)
      exact listens.2 listens.1
    exact ⟨⟨⟨effect.held, fun _ => cleared⟩, Refines.trans (note_refines rfl) effect.refines⟩, cleared⟩

theorem abort_advances (idle : Idle spared run) (reason : String) :
    Advances options randomUuid spared run (run.abort options moment reason) :=
  (abort_effect idle reason).1

/-! ## Callbacks -/

theorem call_advances (moment : Moment ApprovalId) (idle : Idle spared run) (callback : Callback) :
    Advances options randomUuid spared run (run.call options moment callback).1 := by
  unfold call
  cases callback.aborts with
  | some reason => exact abort_advances idle reason
  | none => exact idle.stay

theorem closed_advances (idle : Idle spared run) (failure : Failure) :
    Advances options randomUuid spared run ((run.clearPending approvalId).reject approvalId failure) :=
  ⟨(idle.clearPending approvalId).leave (by simp) (reject_leaves failure), clearPending_refines (reject_refines_always failure)⟩

theorem stopped_advances (idle : Idle (approvalId :: spared) run) (reason : String) :
    Advances options randomUuid spared run ((run.clearPending approvalId).resolve options approvalId (.abort reason)) := by
  refine ⟨?_, clearPending_refines (stop_refines_always reason)⟩
  have twice : Idle (approvalId :: spared) (run.clearPending approvalId) := by
    have cleared := idle.clearPending approvalId
    refine ⟨{ cleared.held with waitsArmed := fun id waits => ?_ }, cleared.ended⟩
    exact (cleared.held.waitsArmed id waits).imp_right fun member => by simpa using member
  exact twice.leave (by simp) (resolve_leaves _)

/-! ## Expiry and decisions -/

@[simp] theorem clearPending_withEvidence (evidence : List (ResolvedEvidence ApprovalId)) :
    (run.withEvidence evidence).clearPending approvalId = (run.clearPending approvalId).withEvidence evidence := by
  unfold clearPending
  cases found : run.pending.get? approvalId <;> simp [withEvidence, found]

@[simp] theorem clearPending_twice : (run.clearPending approvalId).clearPending approvalId = run.clearPending approvalId := by
  have absent : (run.clearPending approvalId).pending.get? approvalId = none := by simp
  rw [clearPending, absent]

/-- The expiry is recorded or not; the approval leaves with an abort either way. -/
theorem expireApproval_advances (idle : Idle (approvalId :: spared) run) {entry : PendingApproval}
    (found : run.pending.get? approvalId = some entry) :
    Advances options randomUuid spared run (run.expireApproval options moment approvalId) := by
  have waits : approvalId ∈ run.waiting := idle.held.pendingWaits approvalId (mem_keys found)
  simp only [expireApproval, found]
  obtain ⟨failure, recorded⟩ | ⟨failure, reason, recorded⟩ | ⟨evidence, written, recorded⟩ :=
    @record_cases _ _ _ options moment run (expiredEvidence options moment approvalId)
  · simp only [recorded]
    exact stopped_advances idle _
  · -- The recorder fenced the run: the listener of this approval was called as well.
    simp only [recorded]
    have aborted : Advances options randomUuid (approvalId :: spared) run (run.abort options moment reason) :=
      abort_advances idle reason
    exact aborted.trans (stopped_advances aborted.idle _)
  · have stopped : ∀ reason, Advances options randomUuid spared run
        (((run.withEvidence evidence).clearPending approvalId).resolve options approvalId (.abort reason)) := by
      intro reason
      have after : Advances options randomUuid spared (run.withEvidence evidence)
          (((run.withEvidence evidence).clearPending approvalId).resolve options approvalId (.abort reason)) :=
        stopped_advances (idle.withEvidence evidence) reason
      refine ⟨after.idle, ?_⟩
      have own : Ledger.OwnEvidence approvalId evidence := written.own
      rw [clearPending_withEvidence]
      exact clearPending_refines (stop_refines (by simpa using waits) own reason)
    simp only [recorded]
    cases observerFailure options moment with
    | some failure =>
      simp only [clearPending_twice]
      exact stopped _
    | none => exact stopped _

theorem timerFires_advances (idle : Idle [] run) : Advances options randomUuid [] run (run.timerFires options moment approvalId) := by
  unfold timerFires
  split
  next timer =>
    obtain ⟨entry, found, _⟩ := idle.held.armed approvalId timer
    have fired : Idle [approvalId] { run with timers := run.timers.filter (· ≠ approvalId) } := by
      refine ⟨{ idle.held with armed := fun id member => ?_, waitsArmed := fun id waits => ?_ }, idle.ended⟩
      · exact idle.held.armed id (List.mem_of_mem_filter member)
      · by_cases same : id = approvalId
        · exact .inr (List.mem_singleton.mpr same)
        · refine .inl (List.mem_filter.mpr ⟨?_, by simpa using same⟩)
          simpa using idle.held.waitsArmed id waits
    have expired : Advances options randomUuid [] { run with timers := run.timers.filter (· ≠ approvalId) }
        ({ run with timers := run.timers.filter (· ≠ approvalId) }.expireApproval options moment approvalId) :=
      expireApproval_advances fired found
    exact ⟨expired.idle, expired.refines⟩
  next => exact idle.stay

omit [DecidableEq ApprovalId] in
/-- The decision that is delivered is the one that was submitted, unless the observer made it an abort. -/
theorem deliveredDecision_faithful (approved : deliveredDecision options moment decision = .approve) :
    decision = .approve := by
  unfold deliveredDecision at approved
  split at approved
  · cases approved
  · exact approved

/-- A submission that is answered with `true` decides its approval. -/
theorem resolve_refines (waits : approvalId ∈ run.waiting) {startedAtMs : Int}
    (opened : .requested approvalId startedAtMs ∈ run.log)
    (inTime : moment.nowMs < startedAtMs + options.decisionTimeoutMs)
    (notAborted : ∀ reason, .aborted reason ∉ run.log)
    (written : Written options (decidedEvidence moment approvalId decision) evidence) :
    Refines options randomUuid run
      (((run.withEvidence evidence).resolve options approvalId (deliveredDecision options moment decision)).note
        (.submitted approvalId decision moment.nowMs (.ok true))) := by
  have recorded : options.hasEvidenceRecorder = true → ∃ entry ∈ evidence, entry.outcome = decision.outcome :=
    fun recorder => ⟨_, written.recorded recorder, rfl⟩
  have faithful : deliveredDecision options moment decision = .approve → decision = .approve := deliveredDecision_faithful
  have step : Ledger.Step options randomUuid run.ledger _ :=
    .decided run.ledger waits faithful opened inTime notAborted written.own recorded
  refine ReflTransGen.single ?_
  have taken : approvalId ∈ (run.withEvidence evidence).waiting := waits
  convert step using 1
  by_cases leased : Ledger.waitsForLease options (deliveredDecision options moment decision) = true
  · have waitsHere : (options.hasLease && !(deliveredDecision options moment decision).isAbort) = true := leased
    simp only [resolve, if_pos taken, if_pos waitsHere, Ledger.decidedEvents, if_pos leased]
    simp [ledger, note, withoutWaiting, withEvidence]
  · have settlesHere : ¬(options.hasLease && !(deliveredDecision options moment decision).isAbort) = true := leased
    simp only [resolve, if_pos taken, if_neg settlesHere, Ledger.decidedEvents, if_neg leased]
    simp [ledger, note, withoutWaiting, withEvidence]

omit [DecidableEq ApprovalId] in
theorem submitted_isRemark {nowMs : Int} {answer : Except Failure Bool} (refused : answer ≠ .ok true) :
    (GateEvent.submitted approvalId decision nowMs answer : GateEvent ApprovalId ToolCall).isRemark = true := by
  cases answer with
  | error failure => rfl
  | ok accepted =>
    cases accepted with
    | false => rfl
    | true => exact absurd rfl refused

/-- A submission that was not accepted is only noted. -/
theorem Advances.refused (advances : Advances options randomUuid spared run after) {nowMs : Int}
    {answer : Except Failure Bool} (refused : answer ≠ .ok true) :
    Advances options randomUuid spared run (after.note (.submitted approvalId decision nowMs answer)) :=
  ⟨advances.idle.note (by simp), advances.refines.trans (note_refines (submitted_isRemark refused))⟩

theorem submit_advances (idle : Idle [] run) (decision : ApprovalDecision) :
    Advances options randomUuid [] run ((run.submit options moment approvalId decision).1.note
      (.submitted approvalId decision moment.nowMs (run.submit options moment approvalId decision).2)) := by
  cases found : run.pending.get? approvalId with
  | none =>
    simp only [submit, found]
    exact idle.stay.refused (by simp)
  | some entry =>
    simp only [submit, found]
    split
    next late => exact (expireApproval_advances (idle.spare approvalId) found).refused (by simp)
    next early =>
      obtain ⟨failure, recorded⟩ | ⟨failure, reason, recorded⟩ | ⟨evidence, written, recorded⟩ :=
        @record_cases _ _ _ options moment run (decidedEvidence moment approvalId decision)
      · simp only [recorded]
        exact idle.stay.refused (by simp)
      · simp only [recorded]
        exact (abort_advances idle reason).refused (by simp)
      · simp only [recorded, clearPending_withEvidence]
        have pending := mem_keys found
        have waits : approvalId ∈ (run.clearPending approvalId).waiting := by
          simpa using idle.held.pendingWaits approvalId pending
        -- The approval is held open, so nobody aborted the run.
        have live : ∀ reason, .aborted reason ∉ (run.clearPending approvalId).log := by
          intro reason aborted
          rw [clearPending_log] at aborted
          exact idle.ended (idle.held.sawAbort reason aborted) approvalId pending
        have opened : .requested approvalId entry.startedAtMs ∈ (run.clearPending approvalId).log := by
          simpa using idle.held.started approvalId entry found
        constructor
        · have cleared : Idle [approvalId] ((run.clearPending approvalId).withEvidence evidence) :=
            (idle.clearPending approvalId).withEvidence evidence
          have absent : approvalId ∉ ((run.clearPending approvalId).withEvidence evidence).pending.keys := by
            simp [withEvidence]
          exact (cleared.leave absent (resolve_leaves _)).note (by simp)
        · exact clearPending_refines (resolve_refines waits opened (by omega) live written)

/-! ## Requests -/

theorem publish_advances (idle : Idle [] run) (input : ApprovalRequest ToolCall) :
    Advances options randomUuid [] run (run.publish options moment approvalId input) := by
  have noted : Advances options randomUuid [] run (run.note (.published
      ⟨options.requestId, approvalId, input.turn, input.toolName, input.command, input.reviewPayload⟩)) :=
    ⟨idle.note (by simp), note_refines rfl⟩
  have written : Advances options randomUuid [] run _ := noted.trans (call_advances moment noted.idle moment.write)
  simp only [publish]
  split
  next failure _ => exact written.trans (closed_advances written.idle failure)
  next =>
    split
    next =>
      have parked : Advances options randomUuid [] run _ := written.trans (call_advances moment written.idle moment.park)
      split
      next failure _ => exact parked.trans (closed_advances parked.idle failure)
      next => exact parked
    next => exact written

theorem Held.unspare (held : Held (approvalId :: spared) run) (left : approvalId ∉ run.waiting) : Held spared run := by
  refine { held with waitsArmed := fun id waits => (held.waitsArmed id waits).imp_right fun member => ?_ }
  refine (List.mem_cons.mp member).resolve_left ?_
  rintro rfl
  exact left waits

theorem reject_waiting (failure : Failure) : approvalId ∉ (run.reject approvalId failure).waiting := by
  rw [(reject_leaves failure).waiting]
  simp

theorem abandon_waiting (reason : String) : approvalId ∉ (run.abandon options moment approvalId reason).waiting := by
  simp only [abandon]
  split
  · exact reject_waiting _
  · exact reject_waiting _

/-- A new approval waits, and nothing holds it open yet. -/
structure Opening (approvalId : ApprovalId) (startedAtMs : Int) (run : GateRun ApprovalId ToolCall) : Prop where
  idle : Idle [approvalId] run
  absent : approvalId ∉ run.pending.keys
  waits : approvalId ∈ run.waiting
  opened : .requested approvalId startedAtMs ∈ run.log

theorem Opening.registered {startedAtMs : Int} (opening : Opening approvalId startedAtMs run) {pending : OrderedMap ApprovalId PendingApproval}
    (entry : PendingApproval) (inserted : ∀ id, pending.get? id = if id = approvalId then some entry else run.pending.get? id)
    (started : entry.startedAtMs = startedAtMs) :
    Held (if entry.timeoutHandle then [] else [approvalId])
      { run with
        pending := pending
        listeners := run.listeners ++ [approvalId]
        timers := if entry.timeoutHandle then run.timers ++ [approvalId] else run.timers } := by
  have held := opening.idle.held
  have keys : ∀ id, id ∈ pending.keys ↔ id = approvalId ∨ id ∈ run.pending.keys := by
    intro id
    simp only [← OrderedMap.has_iff, OrderedMap.has, inserted]
    by_cases same : id = approvalId <;> simp [same]
  have armed : ∀ id ∈ run.timers, ∃ own, pending.get? id = some own ∧ own.timeoutHandle = true := by
    intro id timer
    obtain ⟨own, found, set⟩ := held.armed id timer
    have other : id ≠ approvalId := by
      rintro rfl
      exact opening.absent (mem_keys found)
    exact ⟨own, by rw [inserted, if_neg other, found], set⟩
  constructor
  · intro id
    rw [keys, List.mem_append, List.mem_singleton, held.listening, or_comm]
  · intro id timer
    cases set : entry.timeoutHandle with
    | false => exact armed id (by simpa [set] using timer)
    | true =>
      simp only [set, if_true, List.mem_append, List.mem_singleton] at timer
      cases timer with
      | inl before => exact armed id before
      | inr own => exact ⟨entry, by rw [inserted, if_pos own], set⟩
  · intro id member
    cases (keys id).mp member with
    | inl same =>
      rw [same]
      exact opening.waits
    | inr before => exact held.pendingWaits id before
  · intro id waits
    have before := held.waitsArmed id waits
    cases entry.timeoutHandle with
    | false => exact before
    | true => simpa using before
  · intro id own found
    rw [inserted] at found
    split at found
    next same =>
      cases found
      rw [same, started]
      exact opening.opened
    next => exact held.started id own found
  · exact held.sawAbort

theorem hold_advances (opening : Opening approvalId moment.nowMs run) (input : ApprovalRequest ToolCall) :
    Advances options randomUuid [] run (run.hold options moment approvalId input) := by
  unfold hold
  split
  next reason aborted =>
    -- The signal was aborted before: the listener is called by hand, and removes what was registered.
    have held : Held [approvalId] { run with
        pending := run.pending.set approvalId ⟨input.toolName, moment.nowMs, false⟩
        listeners := run.listeners ++ [approvalId] } :=
      opening.registered ⟨input.toolName, moment.nowMs, false⟩ (fun id => OrderedMap.get?_set _ approvalId id _) rfl
    have pending : approvalId ∈ (run.pending.set approvalId ⟨input.toolName, moment.nowMs, false⟩).keys := by
      rw [← OrderedMap.has_iff, OrderedMap.has, OrderedMap.get?_set, if_pos rfl]
      rfl
    have effect : Abandoned options randomUuid [approvalId] [approvalId] _ (GateRun.abandon options moment approvalId reason _) :=
      abandon_effect held pending reason
    refine ⟨⟨effect.held.unspare (abandon_waiting reason), fun _ id member => ?_⟩, effect.refines⟩
    obtain ⟨listens, other⟩ := (effect.listeners id).mp ((effect.held.listening id).mpr member)
    have before : id ∈ run.listeners := by simpa [List.mem_singleton.not.mp other] using listens
    exact opening.idle.ended (by rw [aborted]; rfl) id ((opening.idle.held.listening id).mp before)
  next live =>
    have held : Held [] { run with
        pending := (run.pending.set approvalId ⟨input.toolName, moment.nowMs, false⟩).set approvalId ⟨input.toolName, moment.nowMs, true⟩
        listeners := run.listeners ++ [approvalId]
        timers := run.timers ++ [approvalId] } :=
      opening.registered ⟨input.toolName, moment.nowMs, true⟩ (fun id => by simp only [OrderedMap.get?_set]; split <;> rfl) rfl
    have idle : Idle [] _ := ⟨held, fun aborted => by simp [live] at aborted⟩
    have published : Advances options randomUuid [] _ (GateRun.publish options moment approvalId input _) :=
      publish_advances idle input
    exact ⟨published.idle, published.refines⟩

theorem park_advances (opening : Opening approvalId moment.nowMs run) (input : ApprovalRequest ToolCall) :
    Advances options randomUuid [] run (run.park options moment approvalId input) := by
  have refused : ∀ {after : GateRun ApprovalId ToolCall} (failure : Failure), Advances options randomUuid [approvalId] run after →
      approvalId ∉ after.pending.keys → Advances options randomUuid [] run (after.reject approvalId failure) := by
    intro after failure advances absent
    exact ⟨advances.idle.leave absent (reject_leaves failure), advances.refines.trans (reject_refines_always failure)⟩
  unfold park
  split
  next =>
    cases input.call with
    | none => exact refused _ opening.idle.stay opening.absent
    | some call =>
      cases moment.recordRequested with
      | committed =>
        have recorded : Opening approvalId moment.nowMs
            (run.note (.requestRecorded (requestedEvidence options moment approvalId input call run.currentMode))) :=
          ⟨opening.idle.note (by simp), opening.absent, opening.waits, List.mem_append_left _ opening.opened⟩
        have held : Advances options randomUuid [] _ _ := hold_advances recorded input
        exact ⟨held.idle, Refines.trans (note_refines rfl) held.refines⟩
      | refused failure => exact refused failure opening.idle.stay opening.absent
      | fenced failure reason =>
        have aborted := @abort_effect _ _ _ options moment randomUuid run [approvalId] opening.idle reason
        exact refused failure aborted.1 (aborted.2 approvalId)
  next => exact hold_advances opening input

/-- A request waits from the start, under an identifier that nobody waits under. -/
theorem request_advances (idle : Idle [] run) (fresh : randomUuid run.drawn ∉ run.waiting) (input : ApprovalRequest ToolCall) :
    Advances options randomUuid [] run (run.request options moment randomUuid input) := by
  unfold request
  split
  next => exact ⟨idle.note (by simp), note_refines rfl⟩
  next =>
    have absent : randomUuid run.drawn ∉ run.pending.keys := fun pending => fresh (idle.held.pendingWaits _ pending)
    have held : Held [randomUuid run.drawn] { run with
        drawn := run.drawn + 1
        waiting := run.waiting ++ [randomUuid run.drawn]
        log := run.log ++ [.requested (randomUuid run.drawn) moment.nowMs] } := by
      constructor
      · exact idle.held.listening
      · exact idle.held.armed
      · intro id member
        exact List.mem_append_left _ (idle.held.pendingWaits id member)
      · intro id waits
        cases List.mem_append.mp waits with
        | inl before => exact .inl (by simpa using idle.held.waitsArmed id before)
        | inr own => exact .inr own
      · intro id entry found
        exact List.mem_append_left _ (idle.held.started id entry found)
      · intro reason member
        exact idle.held.sawAbort reason (by simpa using member)
    have opening : Opening (randomUuid run.drawn) moment.nowMs _ := ⟨⟨held, idle.ended⟩, absent, by simp, by simp⟩
    have parked : Advances options randomUuid [] _ (GateRun.park options moment _ input _) := park_advances opening input
    refine ⟨parked.idle, ReflTransGen.head ?_ parked.refines⟩
    exact .opened run.ledger moment.nowMs

theorem leaseResumes_advances (idle : Idle [] run) (thrown : Option Failure) :
    Advances options randomUuid [] run (run.leaseResumes approvalId thrown) := by
  unfold leaseResumes
  split
  next => exact idle.stay
  next decision found =>
    refine ⟨⟨?_, idle.ended⟩, ReflTransGen.single (.resumed run.ledger (OrderedMap.mem_of_lookup found) fun approved => ?_)⟩
    · have held : Held [] { run with resuming := run.resuming.filter fun entry => entry.1 ≠ approvalId } := { idle.held with }
      exact held.extend (by simp)
    · cases thrown with
      | some failure => cases approved
      | none => exact Settlement.resolved.inj approved

/-! ## Every operation -/

theorem step_advances (distinct : Function.Injective randomUuid) (idle : Idle [] run)
    (sound : Ledger.Sound options randomUuid run.ledger) (operation : Operation ApprovalId ToolCall) :
    Advances options randomUuid [] run (run.step options randomUuid operation) := by
  cases operation with
  | request input moment =>
    have fresh : randomUuid run.drawn ∉ run.waiting := by
      have unrequested : requestsOf (randomUuid run.drawn) run.ledger.log = [] := sound.fresh distinct
      have account := sound.account (randomUuid run.drawn)
      rw [unrequested, List.length_nil] at account
      have nobody : run.ledger.waiting.count (randomUuid run.drawn) = 0 := by omega
      exact List.count_eq_zero.mp nobody
    exact request_advances idle fresh input
  | submit approvalId decision moment => exact submit_advances idle decision
  | timerFires approvalId moment => exact timerFires_advances idle
  | abort reason moment => exact abort_advances idle reason
  | setMode mode => exact ⟨⟨{ idle.held with }, idle.ended⟩, .refl run⟩
  | leaseResumes approvalId thrown => exact leaseResumes_advances idle thrown

end GateRun

end SiftKit.RepoSearch.Approvals
