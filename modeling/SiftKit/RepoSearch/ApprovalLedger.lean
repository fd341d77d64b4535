import SiftKit.RepoSearch.ApprovalGate
import Mathlib.Logic.Relation
import Mathlib.Data.List.Count

/-! # The ledger of the approvals

What a gate is for, without its timers, listeners and callbacks: which approvals wait for a decision, which
wait for the lease to come back, and what was seen of each.  An approval is opened once, and it leaves the
waiting ones once, either with a decision that was accepted or without one.
-/

namespace SiftKit.RepoSearch.Approvals

variable {ApprovalId ToolCall : Type} [DecidableEq ApprovalId]

/-! ## What a log says of one approval -/

namespace GateEvent

def requestOf? (approvalId : ApprovalId) : GateEvent ApprovalId ToolCall → Option Int
  | .requested id startedAtMs => if id = approvalId then some startedAtMs else none
  | _ => none

def settlementOf? (approvalId : ApprovalId) : GateEvent ApprovalId ToolCall → Option Settlement
  | .settled id settlement => if id = approvalId then some settlement else none
  | _ => none

def resolutionOf? (approvalId : ApprovalId) : GateEvent ApprovalId ToolCall → Option (ResolvedEvidence ApprovalId)
  | .resolutionRecorded evidence => if evidence.approvalId = approvalId then some evidence else none
  | _ => none

/-- A submission that returned `true`. -/
def acceptanceOf? (approvalId : ApprovalId) : GateEvent ApprovalId ToolCall → Option (ApprovalDecision × Int)
  | .submitted id decision nowMs (.ok true) => if id = approvalId then some (decision, nowMs) else none
  | _ => none

/-- An event that decides nothing and records no resolution. -/
def isRemark : GateEvent ApprovalId ToolCall → Bool
  | .requested .. => false
  | .resolutionRecorded _ => false
  | .settled .. => false
  | .submitted _ _ _ (.ok true) => false
  | _ => true

end GateEvent

def requestsOf (approvalId : ApprovalId) (log : List (GateEvent ApprovalId ToolCall)) : List Int :=
  log.filterMap (GateEvent.requestOf? approvalId)

def settlementsOf (approvalId : ApprovalId) (log : List (GateEvent ApprovalId ToolCall)) : List Settlement :=
  log.filterMap (GateEvent.settlementOf? approvalId)

def resolutionsOf (approvalId : ApprovalId) (log : List (GateEvent ApprovalId ToolCall)) : List (ResolvedEvidence ApprovalId) :=
  log.filterMap (GateEvent.resolutionOf? approvalId)

def acceptancesOf (approvalId : ApprovalId) (log : List (GateEvent ApprovalId ToolCall)) : List (ApprovalDecision × Int) :=
  log.filterMap (GateEvent.acceptanceOf? approvalId)

section Logs

variable (approvalId id : ApprovalId) (log later : List (GateEvent ApprovalId ToolCall))

@[simp] theorem requestsOf_append : requestsOf approvalId (log ++ later) = requestsOf approvalId log ++ requestsOf approvalId later :=
  List.filterMap_append

@[simp] theorem settlementsOf_append :
    settlementsOf approvalId (log ++ later) = settlementsOf approvalId log ++ settlementsOf approvalId later :=
  List.filterMap_append

@[simp] theorem resolutionsOf_append :
    resolutionsOf approvalId (log ++ later) = resolutionsOf approvalId log ++ resolutionsOf approvalId later :=
  List.filterMap_append

@[simp] theorem acceptancesOf_append :
    acceptancesOf approvalId (log ++ later) = acceptancesOf approvalId log ++ acceptancesOf approvalId later :=
  List.filterMap_append

variable (event : GateEvent ApprovalId ToolCall)

theorem requestsOf_singleton : requestsOf approvalId [event] = (event.requestOf? approvalId).toList := by
  cases found : event.requestOf? approvalId <;> simp [requestsOf, found]

theorem settlementsOf_singleton : settlementsOf approvalId [event] = (event.settlementOf? approvalId).toList := by
  cases found : event.settlementOf? approvalId <;> simp [settlementsOf, found]

theorem resolutionsOf_singleton : resolutionsOf approvalId [event] = (event.resolutionOf? approvalId).toList := by
  cases found : event.resolutionOf? approvalId <;> simp [resolutionsOf, found]

theorem acceptancesOf_singleton : acceptancesOf approvalId [event] = (event.acceptanceOf? approvalId).toList := by
  cases found : event.acceptanceOf? approvalId <;> simp [acceptancesOf, found]

theorem GateEvent.remark_silent {event : GateEvent ApprovalId ToolCall} (remark : event.isRemark = true) :
    event.requestOf? approvalId = none ∧ event.settlementOf? approvalId = none ∧
      event.resolutionOf? approvalId = none ∧ event.acceptanceOf? approvalId = none := by
  cases event with
  | submitted given decision nowMs answer =>
    cases answer with
    | error failure => exact ⟨rfl, rfl, rfl, rfl⟩
    | ok accepted =>
      cases accepted with
      | false => exact ⟨rfl, rfl, rfl, rfl⟩
      | true => cases remark
  | requested given startedAtMs => cases remark
  | resolutionRecorded evidence => cases remark
  | settled given settlement => cases remark
  | exempted | requestRecorded | published | aborted => exact ⟨rfl, rfl, rfl, rfl⟩

theorem count_without (ids : List ApprovalId) : (ids.filter (· ≠ id)).count approvalId = if approvalId = id then 0 else ids.count approvalId := by
  by_cases same : approvalId = id
  · rw [if_pos same, List.count_eq_zero]
    simp [same]
  · rw [if_neg same]
    exact List.count_filter (by simpa using same)

end Logs

/-! ## The ledger -/

structure Ledger (ApprovalId ToolCall : Type) where
  drawn : Nat
  waiting : List ApprovalId
  resuming : List (ApprovalId × ApprovalDecision)
  log : List (GateEvent ApprovalId ToolCall)

namespace Ledger

variable (options : GateOptions) (randomUuid : Nat → ApprovalId)

/-- The evidence that an approval leaves with: at most one resolution of its own. -/
structure OwnEvidence (approvalId : ApprovalId) (evidence : List (ResolvedEvidence ApprovalId)) : Prop where
  atMostOne : evidence.length ≤ 1
  own : ∀ entry ∈ evidence, entry.approvalId = approvalId

/-- Whether a decision waits for the lease before it reaches the caller. -/
def waitsForLease (delivered : ApprovalDecision) : Bool := options.hasLease && !delivered.isAbort

/-- What is seen of a decision that was accepted: the evidence, what the caller gets, and the answer. -/
def decidedEvents (approvalId : ApprovalId) (decision delivered : ApprovalDecision) (nowMs : Int)
    (evidence : List (ResolvedEvidence ApprovalId)) : List (GateEvent ApprovalId ToolCall) :=
  evidence.map .resolutionRecorded ++
    ((if waitsForLease options delivered then [] else [.settled approvalId (.resolved delivered)]) ++
      [.submitted approvalId decision nowMs (.ok true)])

inductive Step : Ledger ApprovalId ToolCall → Ledger ApprovalId ToolCall → Prop where
  | remark (ledger) {event : GateEvent ApprovalId ToolCall} (quiet : event.isRemark = true) :
      Step ledger { ledger with log := ledger.log ++ [event] }
  | opened (ledger) (startedAtMs : Int) :
      Step ledger
        { ledger with
          drawn := ledger.drawn + 1
          waiting := ledger.waiting ++ [randomUuid ledger.drawn]
          log := ledger.log ++ [.requested (randomUuid ledger.drawn) startedAtMs] }
  | dropped (ledger) {approvalId : ApprovalId} (waits : approvalId ∈ ledger.waiting)
      {evidence : List (ResolvedEvidence ApprovalId)} (own : OwnEvidence approvalId evidence) {settlement : Settlement}
      (notApproved : settlement ≠ .resolved .approve) :
      Step ledger
        { ledger with
          waiting := ledger.waiting.filter (· ≠ approvalId)
          log := ledger.log ++ evidence.map .resolutionRecorded ++ [.settled approvalId settlement] }
  | decided (ledger) {approvalId : ApprovalId} (waits : approvalId ∈ ledger.waiting) {decision delivered : ApprovalDecision}
      (faithful : delivered = .approve → decision = .approve) {startedAtMs nowMs : Int}
      (opened : .requested approvalId startedAtMs ∈ ledger.log) (inTime : nowMs < startedAtMs + options.decisionTimeoutMs)
      (notAborted : ∀ reason, .aborted reason ∉ ledger.log) {evidence : List (ResolvedEvidence ApprovalId)}
      (own : OwnEvidence approvalId evidence)
      (recorded : options.hasEvidenceRecorder = true → ∃ entry ∈ evidence, entry.outcome = decision.outcome) :
      Step ledger
        { ledger with
          waiting := ledger.waiting.filter (· ≠ approvalId)
          resuming := if waitsForLease options delivered then ledger.resuming ++ [(approvalId, delivered)] else ledger.resuming
          log := ledger.log ++ decidedEvents options approvalId decision delivered nowMs evidence }
  | resumed (ledger) {approvalId : ApprovalId} {decision : ApprovalDecision} (holds : (approvalId, decision) ∈ ledger.resuming)
      {settlement : Settlement} (faithful : settlement = .resolved .approve → decision = .approve) :
      Step ledger
        { ledger with
          resuming := ledger.resuming.filter fun entry => entry.1 ≠ approvalId
          log := ledger.log ++ [.settled approvalId settlement] }

/-! ## What holds of every ledger -/

/-- The promise of an approval settled, or will settle with the lease, as an approval. -/
def Approved (ledger : Ledger ApprovalId ToolCall) (approvalId : ApprovalId) : Prop :=
  (approvalId, .approve) ∈ ledger.resuming ∨ .resolved .approve ∈ settlementsOf approvalId ledger.log

/-- A submission of `approve` was accepted before the deadline and before any abort. -/
def AcceptedInTime (approvalId : ApprovalId) (log : List (GateEvent ApprovalId ToolCall)) : Prop :=
  ∃ (startedAtMs nowMs : Int) (early late : List (GateEvent ApprovalId ToolCall)), log = early ++ .submitted approvalId .approve nowMs (.ok true) :: late ∧
    .requested approvalId startedAtMs ∈ early ∧ nowMs < startedAtMs + options.decisionTimeoutMs ∧
      ∀ reason, .aborted reason ∉ early

variable {approvalId : ApprovalId}

omit [DecidableEq ApprovalId] in
theorem AcceptedInTime.append {log : List (GateEvent ApprovalId ToolCall)}
    (accepted : AcceptedInTime options approvalId log) (later : List (GateEvent ApprovalId ToolCall)) :
    AcceptedInTime options approvalId (log ++ later) := by
  obtain ⟨startedAtMs, nowMs, early, late, rfl, opened, inTime, notAborted⟩ := accepted
  exact ⟨startedAtMs, nowMs, early, late ++ later, by simp, opened, inTime, notAborted⟩

structure Sound (ledger : Ledger ApprovalId ToolCall) : Prop where
  /-- An approval that was requested waits, or waits for the lease, or settled. -/
  account : ∀ approvalId, ledger.waiting.count approvalId + (ledger.resuming.map Prod.fst).count approvalId +
    (settlementsOf approvalId ledger.log).length = (requestsOf approvalId ledger.log).length
  requestedOnce : ∀ approvalId, (requestsOf approvalId ledger.log).length ≤ 1
  /-- A resolution is recorded by an approval that leaves the waiting ones. -/
  resolvedOnce : ∀ approvalId,
    (resolutionsOf approvalId ledger.log).length + ledger.waiting.count approvalId ≤ (requestsOf approvalId ledger.log).length
  acceptedOnce : ∀ approvalId,
    (acceptancesOf approvalId ledger.log).length + ledger.waiting.count approvalId ≤ (requestsOf approvalId ledger.log).length
  drawnBefore : ∀ approvalId, requestsOf approvalId ledger.log ≠ [] → ∃ number < ledger.drawn, approvalId = randomUuid number
  accepted : ∀ approvalId, Approved ledger approvalId → AcceptedInTime options approvalId ledger.log
  recorded : ∀ approvalId, Approved ledger approvalId → options.hasEvidenceRecorder = true →
    ∃ entry ∈ resolutionsOf approvalId ledger.log, entry.outcome = .approved

section Preserved

variable {options randomUuid} {ledger : Ledger ApprovalId ToolCall}

theorem evidence_silent {evidence : List (ResolvedEvidence ApprovalId)}
    (own : OwnEvidence approvalId evidence) (other : ApprovalId) :
    let events : List (GateEvent ApprovalId ToolCall) := evidence.map .resolutionRecorded
    requestsOf other events = [] ∧ settlementsOf other events = [] ∧ acceptancesOf other events = [] ∧
      resolutionsOf other events = if other = approvalId then evidence else [] := by
  intro events
  refine ⟨by simp [events, requestsOf, GateEvent.requestOf?], by simp [events, settlementsOf, GateEvent.settlementOf?],
    by simp [events, acceptancesOf, GateEvent.acceptanceOf?], ?_⟩
  have read : resolutionsOf other events =
      evidence.filterMap fun entry => if entry.approvalId = other then some entry else none := by
    simp only [events, resolutionsOf, List.filterMap_map]
    rfl
  rw [read]
  split
  next same =>
    rw [List.filterMap_congr (g := some) (fun entry member => by simp [own.own entry member, same])]
    simp
  next apart =>
    rw [List.filterMap_eq_nil_iff]
    intro entry member
    rw [own.own entry member, if_neg (Ne.symm apart)]

section

variable (sound : Sound options randomUuid ledger)

include sound

variable {event : GateEvent ApprovalId ToolCall}

theorem Sound.unwaited {resuming : List (ApprovalId × ApprovalDecision)}
    (silent : ∀ id, event.requestOf? id = none ∧ event.resolutionOf? id = none ∧ event.acceptanceOf? id = none)
    (account : ∀ id, (resuming.map Prod.fst).count id + (settlementsOf id (ledger.log ++ [event])).length =
      (ledger.resuming.map Prod.fst).count id + (settlementsOf id ledger.log).length)
    (approvedBefore : ∀ id, Approved { ledger with resuming, log := ledger.log ++ [event] } id → Approved ledger id) :
    Sound options randomUuid { ledger with resuming, log := ledger.log ++ [event] } := by
  have requests : ∀ id, requestsOf id (ledger.log ++ [event]) = requestsOf id ledger.log := by
    intro id
    simp [requestsOf_singleton, silent id]
  have resolutions : ∀ id, resolutionsOf id (ledger.log ++ [event]) = resolutionsOf id ledger.log := by
    intro id
    simp [resolutionsOf_singleton, silent id]
  have acceptances : ∀ id, acceptancesOf id (ledger.log ++ [event]) = acceptancesOf id ledger.log := by
    intro id
    simp [acceptancesOf_singleton, silent id]
  constructor
  · intro id
    have before := sound.account id
    have same := account id
    simp only [requests]
    omega
  · simpa only [requests] using sound.requestedOnce
  · simpa only [requests, resolutions] using sound.resolvedOnce
  · simpa only [requests, acceptances] using sound.acceptedOnce
  · simpa only [requests] using sound.drawnBefore
  · intro id approved
    exact (sound.accepted id (approvedBefore id approved)).append options _
  · intro id approved recorder
    simpa only [resolutions] using sound.recorded id (approvedBefore id approved) recorder

theorem Sound.remark
    (quiet : event.isRemark = true) : Sound options randomUuid { ledger with log := ledger.log ++ [event] } := by
  have silent := fun id => GateEvent.remark_silent id quiet
  have settlements : ∀ id, settlementsOf id (ledger.log ++ [event]) = settlementsOf id ledger.log := by
    intro id
    simp [settlementsOf_singleton, (silent id).2.1]
  apply sound.unwaited
  · exact fun id => ⟨(silent id).1, (silent id).2.2⟩
  · intro id
    rw [settlements]
  · intro id approved
    simpa only [Approved, settlements] using approved

theorem Sound.fresh (distinct : Function.Injective randomUuid) :
    requestsOf (randomUuid ledger.drawn) ledger.log = [] := by
  by_contra requested
  obtain ⟨number, before, same⟩ := sound.drawnBefore _ requested
  have equal : ledger.drawn = number := distinct same
  omega

theorem Sound.opened (distinct : Function.Injective randomUuid) (startedAtMs : Int) :
    Sound options randomUuid
      { ledger with
        drawn := ledger.drawn + 1
        waiting := ledger.waiting ++ [randomUuid ledger.drawn]
        log := ledger.log ++ [.requested (randomUuid ledger.drawn) startedAtMs] } := by
  have fresh := sound.fresh distinct
  have requests : ∀ id, requestsOf id (ledger.log ++ [.requested (randomUuid ledger.drawn) startedAtMs]) =
      requestsOf id ledger.log ++ if randomUuid ledger.drawn = id then [startedAtMs] else [] := by
    intro id
    by_cases same : randomUuid ledger.drawn = id <;> simp [requestsOf_singleton, GateEvent.requestOf?, same]
  have settlements : ∀ id, settlementsOf id (ledger.log ++ [.requested (randomUuid ledger.drawn) startedAtMs]) =
      settlementsOf id ledger.log := by
    intro id
    simp [settlementsOf_singleton, GateEvent.settlementOf?]
  have resolutions : ∀ id, resolutionsOf id (ledger.log ++ [.requested (randomUuid ledger.drawn) startedAtMs]) =
      resolutionsOf id ledger.log := by
    intro id
    simp [resolutionsOf_singleton, GateEvent.resolutionOf?]
  have acceptances : ∀ id, acceptancesOf id (ledger.log ++ [.requested (randomUuid ledger.drawn) startedAtMs]) =
      acceptancesOf id ledger.log := by
    intro id
    simp [acceptancesOf_singleton, GateEvent.acceptanceOf?]
  have counted : ∀ id, (ledger.waiting ++ [randomUuid ledger.drawn]).count id =
      ledger.waiting.count id + if randomUuid ledger.drawn = id then 1 else 0 := by
    intro id
    by_cases same : randomUuid ledger.drawn = id <;> simp [List.count_append, same]
  constructor
  · intro id
    have before := sound.account id
    simp only [requests, settlements, counted, List.length_append]
    split <;> simp <;> omega
  · intro id
    have before := sound.requestedOnce id
    simp only [requests, List.length_append]
    split
    next same => simp [← same, fresh]
    next => simpa using before
  · intro id
    have before := sound.resolvedOnce id
    simp only [requests, resolutions, counted, List.length_append]
    split <;> simp <;> omega
  · intro id
    have before := sound.acceptedOnce id
    simp only [requests, acceptances, counted, List.length_append]
    split <;> simp <;> omega
  · intro id requested
    simp only [requests] at requested
    by_cases same : randomUuid ledger.drawn = id
    · exact ⟨ledger.drawn, Nat.lt_succ_self _, same.symm⟩
    · obtain ⟨number, before, equal⟩ := sound.drawnBefore id (by simpa [same] using requested)
      exact ⟨number, Nat.lt_succ_of_lt before, equal⟩
  · intro id approved
    exact (sound.accepted id (by simpa only [Approved, settlements] using approved)).append options _
  · intro id approved recorder
    simpa only [resolutions] using sound.recorded id (by simpa only [Approved, settlements] using approved) recorder

end

/-- What an approval leaves behind when it waits no more: it settles, or its decision waits for the lease; at
most one resolution is recorded and at most one submission accepted; and if it is approved, then rightly. -/
structure Departure (ledger : Ledger ApprovalId ToolCall) (approvalId : ApprovalId) (resuming : List (ApprovalId × ApprovalDecision))
    (added : List (GateEvent ApprovalId ToolCall)) : Prop where
  requests : ∀ id, requestsOf id added = []
  leaves : ∀ id, (resuming.map Prod.fst).count id + (settlementsOf id added).length =
    (ledger.resuming.map Prod.fst).count id + if id = approvalId then 1 else 0
  resolutions : ∀ id, (resolutionsOf id added).length ≤ if id = approvalId then 1 else 0
  acceptances : ∀ id, (acceptancesOf id added).length ≤ if id = approvalId then 1 else 0

section

variable (sound : Sound options randomUuid ledger) {approvalId : ApprovalId}
  (waits : approvalId ∈ ledger.waiting)

include sound waits

theorem Sound.departed {resuming : List (ApprovalId × ApprovalDecision)} {added : List (GateEvent ApprovalId ToolCall)}
    (departure : Departure ledger approvalId resuming added)
    (approvals : ∀ id, Approved { ledger with resuming := resuming, log := ledger.log ++ added } id → Approved ledger id ∨
      AcceptedInTime options id (ledger.log ++ added) ∧ (options.hasEvidenceRecorder = true →
        ∃ entry ∈ resolutionsOf id (ledger.log ++ added), entry.outcome = .approved)) :
    Sound options randomUuid
      { ledger with
        waiting := ledger.waiting.filter (· ≠ approvalId)
        resuming := resuming
        log := ledger.log ++ added } := by
  have waited : 0 < ledger.waiting.count approvalId := List.count_pos_iff.mpr waits
  have requests : ∀ id, requestsOf id (ledger.log ++ added) = requestsOf id ledger.log := by
    intro id
    simp [departure.requests]
  constructor
  · intro id
    have before := sound.account id
    have once := sound.requestedOnce id
    have leaves := departure.leaves id
    simp only [requests, settlementsOf_append, List.length_append, count_without]
    split
    next same =>
      subst same
      simp only [if_true] at leaves
      omega
    next apart =>
      rw [if_neg apart] at leaves
      omega
  · intro id
    rw [requests]
    exact sound.requestedOnce id
  · intro id
    have before := sound.resolvedOnce id
    have most := departure.resolutions id
    simp only [requests, resolutionsOf_append, List.length_append, count_without]
    split
    next same =>
      subst same
      simp only [if_true] at most
      omega
    next apart =>
      rw [if_neg apart] at most
      omega
  · intro id
    have before := sound.acceptedOnce id
    have most := departure.acceptances id
    simp only [requests, acceptancesOf_append, List.length_append, count_without]
    split
    next same =>
      subst same
      simp only [if_true] at most
      omega
    next apart =>
      rw [if_neg apart] at most
      omega
  · intro id requested
    exact sound.drawnBefore id (by simpa only [requests] using requested)
  · intro id approved
    cases approvals id approved with
    | inl before => exact (sound.accepted id before).append options added
    | inr now => exact now.1
  · intro id approved recorder
    cases approvals id approved with
    | inl before =>
      obtain ⟨entry, member, outcome⟩ := sound.recorded id before recorder
      exact ⟨entry, by simp [member], outcome⟩
    | inr now => exact now.2 recorder

theorem Sound.dropped {evidence : List (ResolvedEvidence ApprovalId)} (own : OwnEvidence approvalId evidence) {settlement : Settlement}
    (notApproved : settlement ≠ .resolved .approve) :
    Sound options randomUuid
      { ledger with
        waiting := ledger.waiting.filter (· ≠ approvalId)
        log := ledger.log ++ evidence.map .resolutionRecorded ++ [.settled approvalId settlement] } := by
  have silent := @evidence_silent ApprovalId ToolCall _ approvalId evidence own
  rw [List.append_assoc]
  apply sound.departed waits
  · constructor
    · intro id
      simp [(silent id).1, requestsOf_singleton, GateEvent.requestOf?]
    · intro id
      by_cases same : id = approvalId
      · subst same
        simp [(silent id).2.1, settlementsOf_singleton, GateEvent.settlementOf?]
      · simp [(silent id).2.1, settlementsOf_singleton, GateEvent.settlementOf?, same, Ne.symm same]
    · intro id
      have most := own.atMostOne
      rw [resolutionsOf_append, (silent id).2.2.2, resolutionsOf_singleton]
      split <;> simp [GateEvent.resolutionOf?, most]
    · intro id
      simp [(silent id).2.2.1, acceptancesOf_singleton, GateEvent.acceptanceOf?]
  · intro id approved
    refine .inl (approved.imp_right fun settled => ?_)
    rw [settlementsOf_append, settlementsOf_append, (silent id).2.1, settlementsOf_singleton, List.nil_append,
      List.mem_append] at settled
    refine settled.resolve_right fun last => notApproved ?_
    simp only [GateEvent.settlementOf?] at last
    split at last
    · simpa using (Option.mem_toList.mp last)
    · simp at last

end

section Decided

variable {approvalId : ApprovalId} {evidence : List (ResolvedEvidence ApprovalId)} (own : OwnEvidence approvalId evidence)
  (decision delivered : ApprovalDecision) (nowMs : Int) (id : ApprovalId)

include own

theorem requestsOf_decided :
    requestsOf id (decidedEvents options approvalId decision delivered nowMs evidence : List (GateEvent ApprovalId ToolCall)) = [] := by
  rw [decidedEvents, requestsOf_append, (evidence_silent own id).1]
  split <;> simp [requestsOf, GateEvent.requestOf?]

theorem settlementsOf_decided :
    settlementsOf id (decidedEvents options approvalId decision delivered nowMs evidence : List (GateEvent ApprovalId ToolCall)) =
      if waitsForLease options delivered then [] else if approvalId = id then [.resolved delivered] else [] := by
  rw [decidedEvents, settlementsOf_append, (evidence_silent own id).2.1]
  by_cases same : approvalId = id <;> split <;> simp [settlementsOf, GateEvent.settlementOf?, same]

theorem resolutionsOf_decided :
    resolutionsOf id (decidedEvents options approvalId decision delivered nowMs evidence : List (GateEvent ApprovalId ToolCall)) =
      if id = approvalId then evidence else [] := by
  rw [decidedEvents, resolutionsOf_append, (evidence_silent own id).2.2.2]
  split <;> split <;> simp [resolutionsOf, GateEvent.resolutionOf?]

theorem acceptancesOf_decided :
    acceptancesOf id (decidedEvents options approvalId decision delivered nowMs evidence : List (GateEvent ApprovalId ToolCall)) =
      if approvalId = id then [(decision, nowMs)] else [] := by
  rw [decidedEvents, acceptancesOf_append, (evidence_silent own id).2.2.1]
  have others : ∀ events : List (GateEvent ApprovalId ToolCall), events = [] ∨ events = [.settled approvalId (.resolved delivered)] →
      acceptancesOf id events = [] := by
    rintro events (rfl | rfl) <;> simp [acceptancesOf, GateEvent.acceptanceOf?]
  rw [List.nil_append, acceptancesOf_append, others _ (by split <;> simp), acceptancesOf_singleton, GateEvent.acceptanceOf?]
  split <;> rfl

end Decided

theorem Sound.decided (sound : Sound options randomUuid ledger) (waits : approvalId ∈ ledger.waiting)
    {decision delivered : ApprovalDecision} (faithful : delivered = .approve → decision = .approve) {startedAtMs nowMs : Int}
    (opened : .requested approvalId startedAtMs ∈ ledger.log) (inTime : nowMs < startedAtMs + options.decisionTimeoutMs)
    (notAborted : ∀ reason, .aborted reason ∉ ledger.log) {evidence : List (ResolvedEvidence ApprovalId)}
    (own : OwnEvidence approvalId evidence)
    (recorded : options.hasEvidenceRecorder = true → ∃ entry ∈ evidence, entry.outcome = decision.outcome) :
    Sound options randomUuid
      { ledger with
        waiting := ledger.waiting.filter (· ≠ approvalId)
        resuming := if waitsForLease options delivered then ledger.resuming ++ [(approvalId, delivered)] else ledger.resuming
        log := ledger.log ++ decidedEvents options approvalId decision delivered nowMs evidence } := by
  -- Only the decision of this approval, as it is delivered, can newly be an approval.
  have justified : delivered = .approve → AcceptedInTime options approvalId
      (ledger.log ++ decidedEvents options approvalId decision delivered nowMs evidence) := by
    intro approved
    refine ⟨startedAtMs, nowMs, ledger.log ++ (evidence.map .resolutionRecorded ++
      if waitsForLease options delivered then [] else [.settled approvalId (.resolved delivered)]), [], ?_, ?_, inTime, ?_⟩
    · rw [← faithful approved, decidedEvents]
      simp
    · simp [opened]
    · intro reason
      split <;> simp [notAborted reason]
  have evident : delivered = .approve → options.hasEvidenceRecorder = true →
      ∃ entry ∈ resolutionsOf approvalId (ledger.log ++ decidedEvents options approvalId decision delivered nowMs evidence),
        entry.outcome = .approved := by
    intro approved recorder
    obtain ⟨entry, member, outcome⟩ := recorded recorder
    rw [resolutionsOf_append, resolutionsOf_decided own, if_pos rfl]
    exact ⟨entry, List.mem_append_right _ member, by rw [outcome, faithful approved]; rfl⟩
  apply sound.departed waits
  · constructor
    · exact requestsOf_decided own decision delivered nowMs
    · intro id
      rw [settlementsOf_decided own]
      by_cases same : id = approvalId
      · subst same
        split <;> simp [List.count_append]
      · split <;> simp [List.count_append, Ne.symm same]
    · intro id
      rw [resolutionsOf_decided own]
      have most := own.atMostOne
      split <;> simp [most]
    · intro id
      rw [acceptancesOf_decided own]
      by_cases same : id = approvalId
      · simp [same]
      · simp [Ne.symm same]
  · intro id approved
    by_cases same : id = approvalId ∧ delivered = .approve
    · obtain ⟨rfl, isApproval⟩ := same
      exact .inr ⟨justified isApproval, evident isApproval⟩
    · left
      cases approved with
      | inl resuming =>
        left
        split at resuming
        · cases List.mem_append.mp resuming with
          | inl before => exact before
          | inr now =>
            rw [List.mem_singleton, Prod.mk.injEq] at now
            exact absurd ⟨now.1, now.2.symm⟩ same
        · exact resuming
      | inr settled =>
        right
        rw [settlementsOf_append, settlementsOf_decided own, List.mem_append] at settled
        refine settled.resolve_right fun now => same ?_
        split at now
        · cases now
        · split at now
          next here =>
            rw [List.mem_singleton, Settlement.resolved.injEq] at now
            exact ⟨here.symm, now.symm⟩
          next => cases now

theorem Sound.resumed (sound : Sound options randomUuid ledger) {decision : ApprovalDecision}
    (holds : (approvalId, decision) ∈ ledger.resuming) {settlement : Settlement}
    (faithful : settlement = .resolved .approve → decision = .approve) :
    Sound options randomUuid
      { ledger with
        resuming := ledger.resuming.filter fun entry => entry.1 ≠ approvalId
        log := ledger.log ++ [.settled approvalId settlement] } := by
  have settlements : ∀ id, settlementsOf id (ledger.log ++ [.settled approvalId settlement]) =
      settlementsOf id ledger.log ++ if approvalId = id then [settlement] else [] := by
    intro id
    by_cases same : approvalId = id <;> simp [settlementsOf_singleton, GateEvent.settlementOf?, same]
  have remaining : (ledger.resuming.filter fun entry => entry.1 ≠ approvalId).map Prod.fst =
      (ledger.resuming.map Prod.fst).filter (· ≠ approvalId) := by
    rw [List.filter_map]
    rfl
  have held : 0 < (ledger.resuming.map Prod.fst).count approvalId :=
    List.count_pos_iff.mpr (List.mem_map.mpr ⟨_, holds, rfl⟩)
  apply sound.unwaited
  · exact fun id => ⟨rfl, rfl, rfl⟩
  · intro id
    have once := sound.requestedOnce id
    have before := sound.account id
    simp only [settlements, remaining, count_without, List.length_append]
    by_cases same : id = approvalId
    · subst same
      simp
      omega
    · simp [same, Ne.symm same]
  · intro id approved
    cases approved with
    | inl resuming => exact .inl (List.mem_of_mem_filter resuming)
    | inr settled =>
      simp only [settlements, List.mem_append] at settled
      cases settled with
      | inl before => exact .inr before
      | inr now =>
        split at now
        next same =>
          rw [faithful (List.mem_singleton.mp now).symm, same] at holds
          exact .inl holds
        next => cases now

variable {next : Ledger ApprovalId ToolCall}

theorem Sound.step (distinct : Function.Injective randomUuid) (sound : Sound options randomUuid ledger)
    (step : Step options randomUuid ledger next) : Sound options randomUuid next := by
  cases step with
  | remark quiet => exact sound.remark quiet
  | opened startedAtMs => exact sound.opened distinct startedAtMs
  | dropped waits own notApproved => exact sound.dropped waits own notApproved
  | decided waits faithful opened inTime notAborted own recorded =>
    exact sound.decided waits faithful opened inTime notAborted own recorded
  | resumed holds faithful => exact sound.resumed holds faithful

theorem Sound.steps (distinct : Function.Injective randomUuid) (sound : Sound options randomUuid ledger)
    (steps : Relation.ReflTransGen (Step options randomUuid) ledger next) : Sound options randomUuid next := by
  induction steps with
  | refl => exact sound
  | tail _ step ih => exact ih.step distinct step

theorem log_prefix (steps : Relation.ReflTransGen (Step options randomUuid) ledger next) :
    ledger.log <+: next.log := by
  induction steps with
  | refl => exact List.prefix_refl _
  | tail _ step ih =>
    refine ih.trans ?_
    cases step with
    | dropped => simp only [List.append_assoc, List.prefix_append]
    | _ => exact List.prefix_append _ _

theorem sound_start : Sound options randomUuid (⟨0, [], [], []⟩ : Ledger ApprovalId ToolCall) := by
  constructor <;> simp [requestsOf, settlementsOf, resolutionsOf, acceptancesOf, Approved]

end Preserved

end Ledger

end SiftKit.RepoSearch.Approvals
