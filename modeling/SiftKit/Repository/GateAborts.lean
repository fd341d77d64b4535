import SiftKit.Repository.GateInvariant

/-! # Aborted requests at the gate

An abort event runs the listeners of its signal one after another, and each of them drains the line that
it leaves.  A request of the same signal that has not had its turn yet is let in by such a drain like any
other, so it is granted although its signal is aborted.
-/

namespace SiftKit.Repository

open SiftKit.FifoLine SiftKit.Runs RepositoryGate

/-! ## What an operation keeps -/

/-- What only grows from one gate to another: the history, and who has left. -/
structure Extends (before after : RepositoryGate) : Prop where
  leases : ∀ lease ∈ before.leases, ∃ kept ∈ after.leases, kept.key = lease.key ∧ kept.claim = lease.claim
  rejections : ∀ request ∈ before.rejections, request ∈ after.rejections

theorem Extends.refl (gate : RepositoryGate) : Extends gate gate :=
  ⟨fun lease member => ⟨lease, member, rfl, rfl⟩, fun _ member => member⟩

theorem Extends.trans {first second third : RepositoryGate} (early : Extends first second) (late : Extends second third) :
    Extends first third := by
  refine ⟨?_, fun request member => late.rejections request (early.rejections request member)⟩
  intro lease member
  obtain ⟨kept, keptMember, sameKey, sameClaim⟩ := early.leases lease member
  obtain ⟨still, stillMember, stillKey, stillClaim⟩ := late.leases kept keptMember
  exact ⟨still, stillMember, stillKey.trans sameKey, stillClaim.trans sameClaim⟩

/-- Requests are numbered as they arrive, and listeners are registered in that order. -/
structure InOrder (gate : RepositoryGate) : Prop where
  arrivals : (gate.arrivals.map Prod.snd).Pairwise (· < ·)
  listeners : gate.listeners.Pairwise fun early late => early.request < late.request

/-- What a drain does to the gate's records. -/
structure Drains (before after : RepositoryGate) : Prop where
  extended : Extends before after
  arrivals : after.arrivals = before.arrivals
  rejections : after.rejections = before.rejections
  abortedSignals : after.abortedSignals = before.abortedSignals
  listeners : after.listeners.Sublist before.listeners

theorem drainWaiters_drains (key : String) (entry : Nat) (waiters : List RepositoryWaiter) (gate : RepositoryGate) :
    Drains gate (drainWaiters key entry waiters gate) := by
  induction waiters generalizing gate with
  | nil => exact ⟨.refl gate, rfl, rfl, rfl, List.Sublist.refl _⟩
  | cons next rest ih =>
    simp only [drainWaiters]
    split
    next =>
      obtain ⟨extended, arrivals, rejections, abortedSignals, listeners⟩ :=
        ih ((gate.shiftWaiter entry).grant key entry next)
      have granted : Extends gate ((gate.shiftWaiter entry).grant key entry next) :=
        ⟨fun lease member => ⟨lease, List.mem_append_left _ member, rfl, rfl⟩, fun _ member => member⟩
      exact ⟨granted.trans extended, arrivals, rejections, abortedSignals, listeners.trans List.filter_sublist⟩
    next => exact ⟨.refl gate, rfl, rfl, rfl, List.Sublist.refl _⟩

theorem drain_drains (key : String) (entry : Nat) (gate : RepositoryGate) : Drains gate (gate.drain key entry) := by
  have loop := drainWaiters_drains key entry (gate.heap entry).waiters gate
  simp only [RepositoryGate.drain]
  split
  · exact ⟨⟨loop.extended.leases, loop.extended.rejections⟩, loop.arrivals, loop.rejections, loop.abortedSignals,
      loop.listeners⟩
  · exact loop

variable {gate : RepositoryGate} {listener : AbortListener} {before after : RepositoryGate}

/-- What the turn of one listener does. -/
structure Withdraws (listener : AbortListener) (before after : RepositoryGate) : Prop where
  settled : Settled after
  extended : Extends before after
  rejections : after.rejections = before.rejections ++ [listener.request]
  arrivals : after.arrivals = before.arrivals
  abortedSignals : after.abortedSignals = before.abortedSignals
  listeners : after.listeners.Sublist (before.listeners.filter fun other => other != listener)
  own : after.entryAt listener.key =
    ⟨drainedHolders admits RepositoryWaiter.toRepositoryClaim (before.entryAt listener.key).holders
        ((before.entryAt listener.key).waiters.filter fun waiter => waiter.request != listener.request),
      drainedWaiters admits RepositoryWaiter.toRepositoryClaim (before.entryAt listener.key).holders
        ((before.entryAt listener.key).waiters.filter fun waiter => waiter.request != listener.request)⟩
  others : ∀ other, other ≠ listener.key → after.entryAt other = before.entryAt other

theorem onAbort_withdraws (settled : Settled gate) (registered : listener ∈ gate.listeners) :
    Withdraws listener gate (onAbort listener
      { gate with listeners := gate.listeners.filter fun other => other != listener }) := by
  have settledAfter := settled.onAbort registered
  have consistent := settled.toConsistent.withdrawn registered
  have mapped := (settled.listenerLive listener registered).1
  rw [onAbort_eq] at settledAfter ⊢
  have rewrites := settled.toConsistent.withdrawn_rewrites registered
  obtain ⟨own, others⟩ := entryAt_drain consistent (show (withdrawn listener gate).entries listener.key = _ from mapped)
  have drains := drain_drains listener.key listener.entry (withdrawn listener gate)
  have left : Extends gate (withdrawn listener gate) :=
    ⟨fun lease member => ⟨lease, member, rfl, rfl⟩, fun _ member => List.mem_append_left _ member⟩
  refine ⟨settledAfter, left.trans drains.extended, drains.rejections, drains.arrivals, drains.abortedSignals,
    drains.listeners, ?_, ?_⟩
  · rw [own, rewrites.heap_same, entryAt_eq mapped]
  · intro other different
    rw [others other different]
    exact (rewrites.sameElsewhere settled.toConsistent).entryAt different

/-! ## One abort event -/

/-- Some waiter of the signal would be let in if the signal's waiters ahead of it were gone. -/
def LetsIn (abortSignal : Nat) (entry : RepositoryEntry) : Prop :=
  SlipsIn admits RepositoryWaiter.toRepositoryClaim (fun waiter => waiter.abortSignal == abortSignal) entry.holders
    entry.waiters

/-- Every waiter of the signal is rejected. -/
def RejectsAll (abortSignal : Nat) (before after : RepositoryGate) : Prop :=
  ∀ key, ∀ waiter ∈ (before.entryAt key).waiters, waiter.abortSignal = abortSignal → waiter.request ∈ after.rejections

section

variable (consistent : Consistent gate)

include consistent

/-- The waiters of a line stand in the order of their requests. -/
theorem waiters_inOrder (inOrder : InOrder gate) (key : String) :
    ((gate.entryAt key).waiters.map fun waiter => waiter.request).Pairwise (· < ·) := by
  have unaborted : (gate.unabortedAt key).Sublist (gate.arrivals.map Prod.snd) :=
    List.filter_sublist.trans (List.filter_sublist.map _)
  have sorted := inOrder.arrivals.sublist unaborted
  rw [consistent.fifo key] at sorted
  exact (List.pairwise_append.mp sorted).2.1

theorem listener_of_waiter {key : String} {waiter : RepositoryWaiter}
    (waits : waiter ∈ (gate.entryAt key).waiters) :
    ∃ entry, (⟨waiter.abortSignal, key, entry, waiter.request⟩ : AbortListener) ∈ gate.listeners := by
  cases mapped : gate.entries key with
  | none => simp [entryAt, mapped] at waits
  | some entry =>
    rw [entryAt_eq mapped] at waits
    exact ⟨entry, consistent.waiterListens key entry mapped waiter waits⟩

/-- The line of a listener whose turn it is, split at its waiter. -/
theorem line_of_listener (inOrder : InOrder gate)
    (registered : listener ∈ gate.listeners)
    (isFirst : ∀ other ∈ gate.listeners, other.abortSignal = listener.abortSignal → listener.request ≤ other.request) :
    ∃ ahead waiter behind, (gate.entryAt listener.key).waiters = ahead ++ waiter :: behind ∧
      waiter.request = listener.request ∧ waiter.abortSignal = listener.abortSignal ∧
      (∀ other ∈ ahead, other.abortSignal ≠ listener.abortSignal) ∧
      ((gate.entryAt listener.key).waiters.filter fun other => other.request != listener.request) = ahead ++ behind := by
  obtain ⟨mapped, waiter, waits, sameRequest, sameSignal⟩ := consistent.listenerLive listener registered
  rw [← entryAt_eq mapped] at waits
  have sorted := waiters_inOrder consistent inOrder listener.key
  obtain ⟨ahead, behind, line⟩ := List.append_of_mem waits
  rw [line, List.map_append, List.pairwise_append, List.map_cons, List.pairwise_cons] at sorted
  obtain ⟨_, ⟨later, _⟩, earlier⟩ := sorted
  have isEarlier : ∀ other ∈ ahead, other.request < listener.request := by
    intro other member
    rw [← sameRequest]
    exact earlier _ (List.mem_map_of_mem member) _ List.mem_cons_self
  have isLater : ∀ other ∈ behind, listener.request < other.request := by
    intro other member
    rw [← sameRequest]
    exact later _ (List.mem_map_of_mem member)
  refine ⟨ahead, waiter, behind, line, sameRequest, sameSignal, ?_, ?_⟩
  · intro other member ofSignal
    obtain ⟨entry, listens⟩ := listener_of_waiter consistent (line ▸ List.mem_append_left _ member :
      other ∈ (gate.entryAt listener.key).waiters)
    have atLeast : listener.request ≤ other.request := isFirst _ listens ofSignal
    have below := isEarlier other member
    omega
  · rw [line, List.filter_append, List.filter_cons_of_neg (by simp [sameRequest])]
    congr 1
    · apply List.filter_eq_self.mpr
      intro other member
      have below := isEarlier other member
      simp only [bne_iff_ne, ne_eq]
      omega
    · apply List.filter_eq_self.mpr
      intro other member
      have above := isLater other member
      simp only [bne_iff_ne, ne_eq]
      omega

theorem not_rejected_of_leased {lease : RepositoryLease}
    (granted : lease ∈ gate.leases) : lease.claim.request ∉ gate.rejections := by
  have isGranted : lease.claim.request ∈ gate.grantedAt lease.key :=
    List.mem_map_of_mem (List.mem_filter.mpr ⟨granted, by simp⟩)
  have unaborted : lease.claim.request ∈ gate.unabortedAt lease.key := by
    rw [consistent.fifo lease.key]
    exact List.mem_append_left _ isGranted
  simpa using (List.mem_filter.mp unaborted).2

end

theorem leased_of_left (consistent : Consistent before) (consistentAfter : Consistent after)
    (arrivals : after.arrivals = before.arrivals) {key : String} {waiter : RepositoryWaiter}
    (waits : waiter ∈ (before.entryAt key).waiters)
    (left : ∀ other ∈ (after.entryAt key).waiters, other.request ≠ waiter.request)
    (notRejected : waiter.request ∉ after.rejections) :
    ∃ lease ∈ after.leases, lease.claim.request = waiter.request := by
  have arrived := (List.mem_filter.mp (consistent.waiter_unaborted waits)).1
  have unaborted : waiter.request ∈ after.unabortedAt key := by
    rw [unabortedAt, arrivedAt, arrivals]
    exact List.mem_filter.mpr ⟨arrived, by simpa using notRejected⟩
  rw [consistentAfter.fifo key, List.mem_append] at unaborted
  obtain isGranted | stillWaits := unaborted
  · obtain ⟨lease, member, same⟩ := List.mem_map.mp isGranted
    exact ⟨lease, (List.mem_filter.mp member).1, same⟩
  · obtain ⟨other, member, same⟩ := List.mem_map.mp stillWaits
    exact absurd same (left other member)

theorem Withdraws.inOrder (withdraws : Withdraws listener before after) (inOrder : InOrder before) :
    InOrder after := by
  refine ⟨?_, inOrder.listeners.sublist (withdraws.listeners.trans List.filter_sublist)⟩
  rw [withdraws.arrivals]
  exact inOrder.arrivals

/-- What the dispatch to some listeners does. -/
structure Dispatches (listeners : List AbortListener) (before after : RepositoryGate) : Prop where
  settled : Settled after
  inOrder : InOrder after
  extended : Extends before after
  abortedSignals : after.abortedSignals = before.abortedSignals
  listeners : ∀ listener ∈ after.listeners, listener ∈ before.listeners ∧ listener ∉ listeners

theorem dispatchAbort_dispatches (listeners : List AbortListener) (settled : Settled gate) (inOrder : InOrder gate) :
    Dispatches listeners gate (dispatchAbort listeners gate) := by
  induction listeners generalizing gate with
  | nil => exact ⟨settled, inOrder, .refl gate, rfl, fun listener member => ⟨member, by simp⟩⟩
  | cons listener rest ih =>
    simp only [dispatchAbort]
    split
    next isRegistered =>
      have registered : listener ∈ gate.listeners := by simpa using isRegistered
      have withdraws := onAbort_withdraws settled registered
      obtain ⟨settledAfter, inOrderAfter, extended, abortedSignals, remaining⟩ :=
        ih withdraws.settled (withdraws.inOrder inOrder)
      refine ⟨settledAfter, inOrderAfter, withdraws.extended.trans extended,
        abortedSignals.trans withdraws.abortedSignals, ?_⟩
      intro other member
      obtain ⟨stillRegistered, notRest⟩ := remaining other member
      obtain ⟨wasRegistered, isOther⟩ := List.mem_filter.mp (withdraws.listeners.subset stillRegistered)
      exact ⟨wasRegistered, by simp [notRest, by simpa using isOther]⟩
    next notRegistered =>
      obtain ⟨settledAfter, inOrderAfter, extended, abortedSignals, remaining⟩ := ih settled inOrder
      refine ⟨settledAfter, inOrderAfter, extended, abortedSignals, ?_⟩
      intro other member
      obtain ⟨registered, notRest⟩ := remaining other member
      refine ⟨registered, ?_⟩
      rintro isTodo
      obtain rfl | inRest := List.mem_cons.mp isTodo
      · exact notRegistered (by simpa using registered)
      · exact notRest inRest

/-- The turn of the first listener of a signal: the others are rejected in the end if the drain lets none of them in, and
those that it leaves in line are rejected. -/
theorem Withdraws.rejectsAll_iff {final : RepositoryGate} (withdraws : Withdraws listener before after)
    (settled : Settled before) (inOrder : InOrder before) (registered : listener ∈ before.listeners)
    (isFirst : ∀ other ∈ before.listeners, other.abortSignal = listener.abortSignal → listener.request ≤ other.request)
    (settledFinal : Settled final) (extended : Extends after final)
    (rest : RejectsAll listener.abortSignal after final ↔ ∀ key, ¬ LetsIn listener.abortSignal (after.entryAt key)) :
    RejectsAll listener.abortSignal before final ↔ ∀ key, ¬ LetsIn listener.abortSignal (before.entryAt key) := by
  obtain ⟨ahead, waiter, behind, line, sameRequest, sameSignal, stay, without⟩ :=
    line_of_listener settled.toConsistent inOrder registered isFirst
  have own := withdraws.own
  rw [without] at own
  have blocked : ∀ head, (ahead ++ waiter :: behind).head? = some head →
      admits head (before.entryAt listener.key).holders = false := by
    rw [← line]
    exact fun head atHead => settled.headBlocked listener.key head atHead
  set through := admitted admits RepositoryWaiter.toRepositoryClaim (before.entryAt listener.key).holders (ahead ++ behind)
  have split : through ++ (after.entryAt listener.key).waiters = ahead ++ behind := by
    rw [own]
    exact admitted_append_drainedWaiters _ _ _ _
  have slips : LetsIn listener.abortSignal (before.entryAt listener.key) ↔
      (∃ other ∈ through, other.abortSignal = listener.abortSignal) ∨
      LetsIn listener.abortSignal (after.entryAt listener.key) := by
    have withdrawal : SlipsIn admits RepositoryWaiter.toRepositoryClaim
        (fun other => other.abortSignal == listener.abortSignal) (before.entryAt listener.key).holders
        (ahead ++ waiter :: behind) ↔ _ :=
      slipsIn_withdraw blocked (by simpa using stay) (by simpa using sameSignal)
    rw [LetsIn, LetsIn, line, own]
    simpa using withdrawal
  have waitersBefore : ∀ other, other ∈ ahead ++ behind → other ∈ (before.entryAt listener.key).waiters := by
    intro other member
    rw [← without] at member
    exact (List.mem_filter.mp member).1
  have distinct : ((through ++ (after.entryAt listener.key).waiters).map fun other => other.request).Nodup := by
    rw [split, ← without]
    have line := settled.line_nodup listener.key
    exact (List.nodup_append.mp line).2.1.sublist (List.filter_sublist.map _)
  -- a waiter that the drain lets in is not rejected in the end
  have letIn : RejectsAll listener.abortSignal before final → ∀ other ∈ through, other.abortSignal ≠ listener.abortSignal := by
    intro rejects other member ofSignal
    have isOther : other ∈ ahead ++ behind := split ▸ List.mem_append_left _ member
    have waits := waitersBefore other isOther
    have gone : ∀ still ∈ (after.entryAt listener.key).waiters, still.request ≠ other.request := by
      intro still stillWaits same
      rw [List.map_append, List.nodup_append] at distinct
      exact distinct.2.2 _ (List.mem_map_of_mem member) _ (List.mem_map_of_mem stillWaits) same.symm
    have notRejected : other.request ∉ after.rejections := by
      rw [withdraws.rejections, List.mem_append, List.mem_singleton, not_or]
      refine ⟨by simpa using (List.mem_filter.mp (settled.waiter_unaborted waits)).2, ?_⟩
      rw [← without] at isOther
      simpa using (List.mem_filter.mp isOther).2
    obtain ⟨lease, granted, same⟩ := leased_of_left settled.toConsistent withdraws.settled.toConsistent withdraws.arrivals
      waits gone notRejected
    obtain ⟨kept, keptGranted, _, sameClaim⟩ := extended.leases lease granted
    apply not_rejected_of_leased settledFinal.toConsistent keptGranted
    rw [sameClaim, same]
    exact rejects listener.key other waits ofSignal
  constructor
  · intro rejects
    have restRejects : RejectsAll listener.abortSignal after final := by
      intro key other waits ofSignal
      by_cases same : key = listener.key
      · subst same
        exact rejects listener.key other (waitersBefore other (split ▸ List.mem_append_right _ waits)) ofSignal
      · rw [withdraws.others key same] at waits
        exact rejects key other waits ofSignal
    intro key lets
    by_cases same : key = listener.key
    · subst same
      obtain ⟨other, member, ofSignal⟩ | later := slips.mp lets
      · exact letIn rejects other member ofSignal
      · exact rest.mp restRejects listener.key later
    · rw [← withdraws.others key same] at lets
      exact rest.mp restRejects key lets
  · intro none key other waits ofSignal
    have noneAfter : ∀ key, ¬ LetsIn listener.abortSignal (after.entryAt key) := by
      intro key lets
      by_cases same : key = listener.key
      · subst same
        exact none listener.key (slips.mpr (Or.inr lets))
      · rw [withdraws.others key same] at lets
        exact none key lets
    by_cases same : key = listener.key
    · subst same
      by_cases isWaiter : other.request = listener.request
      · rw [isWaiter]
        apply extended.rejections
        rw [withdraws.rejections]
        exact List.mem_append_right _ List.mem_cons_self
      · have stays : other ∈ through ++ (after.entryAt listener.key).waiters := by
          rw [split, ← without]
          exact List.mem_filter.mpr ⟨waits, by simpa using isWaiter⟩
        obtain isThrough | stillWaits := List.mem_append.mp stays
        · exact absurd (slips.mpr (Or.inl ⟨other, isThrough, ofSignal⟩)) (none listener.key)
        · exact rest.mpr noneAfter listener.key other stillWaits ofSignal
    · rw [← withdraws.others key same] at waits
      exact rest.mpr noneAfter key other waits ofSignal

/-- Where nobody listens to a signal, nobody waits for it, is rejected or slips in. -/
theorem rejectsAll_iff_of_unheard (consistent : Consistent gate) {abortSignal : Nat}
    (unheard : ∀ listener ∈ gate.listeners, listener.abortSignal ≠ abortSignal) :
    RejectsAll abortSignal gate after ↔ ∀ key, ¬ LetsIn abortSignal (gate.entryAt key) := by
  have nobody : ∀ key, ∀ waiter ∈ (gate.entryAt key).waiters, waiter.abortSignal ≠ abortSignal := by
    intro key waiter waits
    obtain ⟨entry, listens⟩ := listener_of_waiter consistent waits
    exact unheard _ listens
  refine iff_of_true (fun key waiter waits isSignal => absurd isSignal (nobody key waiter waits)) ?_
  rintro key ⟨ahead, leaver, behind, line, isLeaver, _⟩
  exact nobody key leaver (by simp [line]) (by simpa using isLeaver)

theorem dispatchAbort_rejectsAll_iff {abortSignal : Nat} (listeners : List AbortListener) (settled : Settled gate)
    (inOrder : InOrder gate)
    (covers : ∀ listener ∈ gate.listeners, listener.abortSignal = abortSignal → listener ∈ listeners)
    (ofSignal : ∀ listener ∈ listeners, listener.abortSignal = abortSignal)
    (sorted : listeners.Pairwise fun early late => early.request < late.request) :
    RejectsAll abortSignal gate (dispatchAbort listeners gate) ↔
      ∀ key, ¬ LetsIn abortSignal (gate.entryAt key) := by
  induction listeners generalizing gate with
  | nil =>
    apply rejectsAll_iff_of_unheard settled.toConsistent
    intro listener member isSignal
    cases covers listener member isSignal
  | cons listener rest ih =>
    rw [List.pairwise_cons] at sorted
    have restOfSignal : ∀ other ∈ rest, other.abortSignal = abortSignal :=
      fun other member => ofSignal other (List.mem_cons_of_mem _ member)
    obtain rfl := ofSignal listener List.mem_cons_self
    simp only [dispatchAbort]
    split
    next isRegistered =>
      have registered : listener ∈ gate.listeners := by simpa using isRegistered
      have withdraws := onAbort_withdraws settled registered
      have isFirst : ∀ other ∈ gate.listeners, other.abortSignal = listener.abortSignal →
          listener.request ≤ other.request := by
        intro other member same
        obtain rfl | inRest := List.mem_cons.mp (covers other member same)
        · exact Nat.le_refl _
        · exact Nat.le_of_lt (sorted.1 other inRest)
      have dispatches := dispatchAbort_dispatches rest withdraws.settled (withdraws.inOrder inOrder)
      apply withdraws.rejectsAll_iff settled inOrder registered isFirst dispatches.settled dispatches.extended
      apply ih withdraws.settled (withdraws.inOrder inOrder) _ restOfSignal sorted.2
      intro other member same
      obtain ⟨wasRegistered, isOther⟩ := List.mem_filter.mp (withdraws.listeners.subset member)
      exact (List.mem_cons.mp (covers other wasRegistered same)).resolve_left (by simpa using isOther)
    next notRegistered =>
      apply ih settled inOrder _ restOfSignal sorted.2
      intro other member same
      obtain rfl | inRest := List.mem_cons.mp (covers other member same)
      · exact absurd (by simpa using member) notRegistered
      · exact inRest

/-! ## Runs -/

/-- Nobody listens to a signal that is aborted. -/
def ListensUnaborted (gate : RepositoryGate) : Prop :=
  ∀ listener ∈ gate.listeners, listener.abortSignal ∉ gate.abortedSignals

/-- What every operation keeps, beside the settled lines. -/
structure Chronicled (gate : RepositoryGate) : Prop where
  settled : Settled gate
  inOrder : InOrder gate
  unaborted : ListensUnaborted gate

theorem Chronicled.drained (inOrder : InOrder before) (unaborted : ListensUnaborted before)
    (drains : Drains before after) (settled : Settled after) : Chronicled after := by
  refine ⟨settled, ⟨?_, inOrder.listeners.sublist drains.listeners⟩, ?_⟩
  · rw [drains.arrivals]
    exact inOrder.arrivals
  · intro listener member
    rw [drains.abortedSignals]
    exact unaborted listener (drains.listeners.subset member)

section

variable (chronicled : Chronicled gate)

include chronicled

theorem Chronicled.acquire (canonicalRepositoryKey : Option String)
    (access : RepositoryAccess) (owner : Option String) (abortSignal : Nat) :
    Chronicled (gate.acquire canonicalRepositoryKey access owner abortSignal) ∧
      Extends gate (gate.acquire canonicalRepositoryKey access owner abortSignal) := by
  have settled := chronicled.settled.acquire canonicalRepositoryKey access owner abortSignal
  simp only [RepositoryGate.acquire] at settled ⊢
  cases canonicalRepositoryKey with
  | none => exact ⟨chronicled, .refl gate⟩
  | some key =>
    simp only at settled ⊢
    split at settled
    next aborted =>
      rw [if_pos aborted]
      exact ⟨chronicled, .refl gate⟩
    next notAborted =>
      rw [if_neg notAborted]
      set found := gate.entryFor key
      have sameRecords : found.2.listeners = gate.listeners ∧ found.2.arrivals = gate.arrivals ∧
          found.2.abortedSignals = gate.abortedSignals ∧ found.2.rejections = gate.rejections ∧
          found.2.leases = gate.leases ∧ found.2.nextRequest = gate.nextRequest := by
        simp only [found, entryFor]
        split <;> exact ⟨rfl, rfl, rfl, rfl, rfl, rfl⟩
      obtain ⟨listeners, arrivals, abortedSignals, rejections, leases, nextRequest⟩ := sameRecords
      have drains := drain_drains key found.1
        (found.2.enqueue key found.1 ⟨⟨found.2.nextRequest, access, owner⟩, abortSignal⟩)
      have queued : Extends gate (found.2.enqueue key found.1 ⟨⟨found.2.nextRequest, access, owner⟩, abortSignal⟩) := by
        refine ⟨fun lease member => ⟨lease, ?_, rfl, rfl⟩, fun request member => ?_⟩
        · show lease ∈ found.2.leases
          rw [leases]
          exact member
        · show request ∈ found.2.rejections
          rw [rejections]
          exact member
      refine ⟨Chronicled.drained ⟨?_, ?_⟩ ?_ drains settled, queued.trans drains.extended⟩
      · show ((found.2.arrivals ++ [(key, found.2.nextRequest)]).map Prod.snd).Pairwise (· < ·)
        rw [arrivals, nextRequest, List.map_append, List.pairwise_append]
        refine ⟨chronicled.inOrder.arrivals, List.pairwise_singleton _ _, ?_⟩
        intro request isArrived other isNew
        obtain ⟨arrival, member, rfl⟩ := List.mem_map.mp isArrived
        rw [List.mem_singleton.mp isNew]
        exact chronicled.settled.arrivalsIssued arrival member
      · show (found.2.listeners ++ [(⟨abortSignal, key, found.1, found.2.nextRequest⟩ : AbortListener)]).Pairwise
          fun early late => early.request < late.request
        rw [listeners, nextRequest, List.pairwise_append]
        refine ⟨chronicled.inOrder.listeners, List.pairwise_singleton _ _, ?_⟩
        intro listener member other isNew
        obtain ⟨mapped, waiter, waits, sameRequest, _⟩ := chronicled.settled.listenerLive listener member
        rw [← entryAt_eq mapped] at waits
        rw [List.mem_singleton.mp isNew, ← sameRequest]
        exact chronicled.settled.arrivalsIssued _ (chronicled.settled.waiter_arrived waits)
      · intro listener member
        show listener.abortSignal ∉ found.2.abortedSignals
        rw [abortedSignals]
        have isListener : listener ∈ found.2.listeners ++ [⟨abortSignal, key, found.1, found.2.nextRequest⟩] := member
        rw [listeners, List.mem_append, List.mem_singleton] at isListener
        obtain old | rfl := isListener
        · exact chronicled.unaborted listener old
        · simpa using notAborted

theorem Chronicled.abort (abortSignal : Nat) :
    Chronicled (gate.abort abortSignal) ∧ Extends gate (gate.abort abortSignal) := by
  simp only [RepositoryGate.abort]
  split
  next => exact ⟨chronicled, .refl gate⟩
  next =>
    have settled : Settled { gate with abortedSignals := abortSignal :: gate.abortedSignals } :=
      { chronicled.settled with }
    have inOrder : InOrder { gate with abortedSignals := abortSignal :: gate.abortedSignals } :=
      ⟨chronicled.inOrder.arrivals, chronicled.inOrder.listeners⟩
    have dispatches := dispatchAbort_dispatches
      (gate.listeners.filter fun listener => listener.abortSignal == abortSignal) settled inOrder
    refine ⟨⟨dispatches.settled, dispatches.inOrder, ?_⟩, ⟨dispatches.extended.leases, dispatches.extended.rejections⟩⟩
    intro listener member
    obtain ⟨registered, notTodo⟩ := dispatches.listeners listener member
    rw [dispatches.abortedSignals, List.mem_cons, not_or]
    refine ⟨?_, chronicled.unaborted listener registered⟩
    rintro rfl
    exact notTodo (List.mem_filter.mpr ⟨registered, by simp⟩)

theorem Chronicled.release (request : Nat) :
    Chronicled (gate.release request) ∧ Extends gate (gate.release request) := by
  have settled := chronicled.settled.release request
  simp only [RepositoryGate.release] at settled ⊢
  split at settled
  next => exact ⟨chronicled, .refl gate⟩
  next lease found =>
    split at settled
    next released =>
      rw [if_pos released]
      exact ⟨chronicled, .refl gate⟩
    next unreleased =>
      rw [if_neg unreleased]
      refine ⟨Chronicled.drained ⟨?_, ?_⟩ ?_ (drain_drains _ _ _) settled, Extends.trans ⟨?_, ?_⟩ (drain_drains _ _ _).extended⟩
      · exact chronicled.inOrder.arrivals
      · exact chronicled.inOrder.listeners
      · exact chronicled.unaborted
      · intro other member
        refine ⟨_, List.mem_map_of_mem member, ?_, ?_⟩ <;> split <;> rfl
      · exact fun _ member => member

theorem Chronicled.apply (operation : GateOperation) :
    Chronicled (gate.apply operation) ∧ Extends gate (gate.apply operation) := by
  cases operation with
  | acquire key access owner abortSignal => exact chronicled.acquire key access owner abortSignal
  | abort abortSignal => exact chronicled.abort abortSignal
  | release request => exact chronicled.release request

theorem Chronicled.run (operations : List GateOperation) :
    Chronicled (run RepositoryGate.apply gate operations) ∧ Extends gate (run RepositoryGate.apply gate operations) := by
  induction operations generalizing gate with
  | nil => exact ⟨chronicled, .refl gate⟩
  | cons operation later ih =>
    obtain ⟨applied, extended⟩ := chronicled.apply operation
    obtain ⟨laterChronicled, laterExtended⟩ := ih applied
    exact ⟨laterChronicled, extended.trans laterExtended⟩

end

theorem gateAfter_chronicled (operations : List GateOperation) : Chronicled (gateAfter operations) := by
  have start : Chronicled .empty := by
    refine ⟨.empty, ⟨List.Pairwise.nil, List.Pairwise.nil⟩, ?_⟩
    intro listener member
    cases member
  exact (start.run operations).1

/--
After any operations, the requests of a signal that still wait when it is aborted are rejected, and never granted later,
exactly if nowhere one of them would be let in with those ahead of it gone.
-/
theorem aborted_waiters_rejected_iff (operations : List GateOperation) (abortSignal : Nat) :
    (∀ key, ∀ waiter ∈ ((gateAfter operations).entryAt key).waiters, waiter.abortSignal = abortSignal →
      waiter.request ∈ ((gateAfter operations).abort abortSignal).rejections ∧
      ∀ later, ∀ lease ∈ (gateAfter (operations ++ .abort abortSignal :: later)).leases,
        lease.claim.request ≠ waiter.request) ↔
    ∀ key, ¬ LetsIn abortSignal ((gateAfter operations).entryAt key) := by
  have chronicled := gateAfter_chronicled operations
  set gate := gateAfter operations with isGate
  have rejectsAll : RejectsAll abortSignal gate (gate.abort abortSignal) ↔ ∀ key, ¬ LetsIn abortSignal (gate.entryAt key) := by
    simp only [RepositoryGate.abort]
    split
    next already =>
      apply rejectsAll_iff_of_unheard chronicled.settled.toConsistent
      rintro listener member rfl
      exact chronicled.unaborted _ member (by simpa using already)
    next =>
      have settled : Settled { gate with abortedSignals := abortSignal :: gate.abortedSignals } :=
        { chronicled.settled with }
      apply dispatchAbort_rejectsAll_iff _ settled ⟨chronicled.inOrder.arrivals, chronicled.inOrder.listeners⟩
      · intro listener member isSignal
        exact List.mem_filter.mpr ⟨member, by simpa using isSignal⟩
      · intro listener member
        simpa using (List.mem_filter.mp member).2
      · exact chronicled.inOrder.listeners.sublist List.filter_sublist
  rw [← rejectsAll]
  constructor
  · intro rejects key waiter waits isSignal
    exact (rejects key waiter waits isSignal).1
  · intro rejects key waiter waits isSignal
    have rejected := rejects key waiter waits isSignal
    refine ⟨rejected, ?_⟩
    intro later lease granted same
    have isAfter : gateAfter (operations ++ .abort abortSignal :: later) =
        SiftKit.Runs.run RepositoryGate.apply (gate.abort abortSignal) later := by
      rw [gateAfter, run_append, run_cons]
      rfl
    rw [isAfter] at granted
    obtain ⟨laterChronicled, extended⟩ := (chronicled.abort abortSignal).1.run later
    apply not_rejected_of_leased laterChronicled.settled.toConsistent granted
    rw [same]
    exact extended.rejections _ rejected

/-! ### A request that slips in -/

/-- A reader of nobody's, then a writer and a reader of one aborted run: the reader is let in when the writer leaves. -/
theorem aborted_reader_is_granted :
    ¬ ∀ operations abortSignal key, ∀ waiter ∈ ((gateAfter operations).entryAt key).waiters,
      waiter.abortSignal = abortSignal →
      waiter.request ∈ ((gateAfter operations).abort abortSignal).rejections ∧
      ∀ later, ∀ lease ∈ (gateAfter (operations ++ .abort abortSignal :: later)).leases,
        lease.claim.request ≠ waiter.request := by
  intro always
  let operations : List GateOperation :=
    [.acquire (some "repo") .shared none 0, .acquire (some "repo") .exclusive (some "run_1") 1,
      .acquire (some "repo") .shared (some "run_1") 1]
  have waits : (⟨⟨2, .shared, some "run_1"⟩, 1⟩ : RepositoryWaiter) ∈ ((gateAfter operations).entryAt "repo").waiters := by
    decide
  have neverGranted := (always operations 1 "repo" _ waits rfl).2 []
  have granted : ∃ lease ∈ (gateAfter (operations ++ [.abort 1])).leases, lease.claim.request = 2 := by decide
  obtain ⟨lease, member, isReader⟩ := granted
  exact neverGranted lease member isReader

end SiftKit.Repository
