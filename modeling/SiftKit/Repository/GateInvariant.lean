import SiftKit.Foundation.Tables
import SiftKit.Repository.Gate

/-! # What every operation on the repository gate preserves

`Consistent` relates the map, the entry objects, the closures handed out and the
recorded history; it also holds between the statements of an operation.  `Settled`
adds what `drain` restores at the end: the head of every line is blocked, and the
map keeps no idle entry.
-/

namespace SiftKit.Repository

open SiftKit.Runs SiftKit.FifoLine SiftKit.Tables

/-! ## Compatibility -/

theorem sameOwner_comm (left right : RepositoryClaim) : sameOwner left right = sameOwner right left := by
  cases leftOwner : left.owner <;> cases rightOwner : right.owner <;>
    simp [sameOwner, leftOwner, rightOwner, Bool.beq_comm]

/-- Two claims may be held together: an exclusive one only beside its own run's readers. -/
def Tolerates (left right : RepositoryClaim) : Prop :=
  (left.access = .exclusive ∨ right.access = .exclusive) →
    (left.access = .shared ∨ right.access = .shared) ∧ sameOwner left right = true

instance : Std.Symm Tolerates where
  symm left right tolerates oneExclusive := by
    obtain ⟨oneShared, owned⟩ := tolerates oneExclusive.symm
    exact ⟨oneShared.symm, by rw [sameOwner_comm]; exact owned⟩

def Exclusion (holders : List RepositoryClaim) : Prop :=
  holders.Pairwise Tolerates

theorem isCompatible_exclusion {holders : List RepositoryClaim} {next : RepositoryClaim}
    (exclusion : Exclusion holders) (compatible : isCompatible next holders = true) :
    Exclusion (holders ++ [next]) := by
  refine List.pairwise_append.mpr ⟨exclusion, List.pairwise_singleton _ _, ?_⟩
  intro holder isHolder other isNext oneExclusive
  obtain rfl : other = next := by simpa using isNext
  have nonempty : holders.isEmpty = false := by
    cases holders with
    | nil => cases isHolder
    | cons _ _ => rfl
  simp only [isCompatible, nonempty, Bool.false_eq_true, if_false] at compatible
  cases access : other.access with
  | shared =>
    simp only [access, List.all_eq_true, Bool.or_eq_true, beq_iff_eq] at compatible
    refine ⟨Or.inr rfl, ?_⟩
    rcases compatible holder isHolder with isShared | owned
    · rcases oneExclusive with holderExclusive | otherExclusive
      · rw [isShared] at holderExclusive; cases holderExclusive
      · rw [access] at otherExclusive; cases otherExclusive
    · exact owned
  | exclusive =>
    simp only [access, List.all_eq_true, Bool.and_eq_true, beq_iff_eq] at compatible
    exact ⟨Or.inl (compatible holder isHolder).1, (compatible holder isHolder).2⟩

/-! ## List facts about removal by identity -/

theorem spliceIndexOf_eq_filter {Item : Type} (identity : Item → Nat) (wanted : Nat) (items : List Item)
    (distinct : (items.map identity).Nodup) (present : wanted ∈ items.map identity) :
    spliceIndexOf (fun item => identity item == wanted) items =
      items.filter fun item => identity item != wanted := by
  induction items with
  | nil => cases present
  | cons head rest ih =>
    simp only [List.map_cons, List.nodup_cons] at distinct
    by_cases isHead : identity head = wanted
    · have absent : ∀ item ∈ rest, identity item ≠ wanted := by
        intro item member same
        exact distinct.1 (List.mem_map.mpr ⟨item, member, same.trans isHead.symm⟩)
      have kept : rest.filter (fun item => identity item != wanted) = rest :=
        List.filter_eq_self.mpr (by simpa using absent)
      simp [spliceIndexOf, List.findIdx?_cons, isHead, kept]
    · have inRest : wanted ∈ rest.map identity := by
        rcases List.mem_cons.mp present with same | inRest
        · exact absurd same.symm isHead
        · exact inRest
      have step := ih distinct.2 inRest
      simp only [spliceIndexOf] at step ⊢
      obtain ⟨index, found⟩ : ∃ index, rest.findIdx? (fun item => identity item == wanted) = some index := by
        rw [← Option.isSome_iff_exists, List.findIdx?_isSome]
        obtain ⟨item, member, same⟩ := List.mem_map.mp inRest
        exact List.any_eq_true.mpr ⟨item, member, by simpa using same⟩
      rw [found] at step
      simp [List.findIdx?_cons, isHead, found, step]

/-! ## The invariant -/

namespace RepositoryGate

variable (gate : RepositoryGate) (entry : Nat) (value : RepositoryEntry)

/-- Claims held under a key: granted there and not yet released. -/
def heldAt (gate : RepositoryGate) (key : String) : List RepositoryClaim :=
  ((gate.leasesAt key).filter fun lease => !lease.released).map RepositoryLease.claim

/-- The requests queued under a key that no abort removed, in arrival order. -/
def unabortedAt (gate : RepositoryGate) (key : String) : List Nat :=
  (gate.arrivedAt key).filter fun request => !gate.rejections.contains request

end RepositoryGate

/-- The pointer facts and the history an operation keeps at every statement. -/
structure Consistent (gate : RepositoryGate) : Prop where
  entryAllocated : ∀ key entry, gate.entries key = some entry → entry < gate.nextEntry
  entryOwned : ∀ key other entry, gate.entries key = some entry → gate.entries other = some entry →
    key = other
  leaseLive : ∀ lease ∈ gate.leases, lease.released = false → gate.entries lease.key = some lease.entry
  listenerLive : ∀ listener ∈ gate.listeners, gate.entries listener.key = some listener.entry ∧
    ∃ waiter ∈ (gate.heap listener.entry).waiters,
      waiter.request = listener.request ∧ waiter.abortSignal = listener.abortSignal
  waiterListens : ∀ key entry, gate.entries key = some entry → ∀ waiter ∈ (gate.heap entry).waiters,
    (⟨waiter.abortSignal, key, entry, waiter.request⟩ : AbortListener) ∈ gate.listeners
  holdersLeased : ∀ key, (gate.entryAt key).holders = gate.heldAt key
  fifo : ∀ key, gate.unabortedAt key =
    gate.grantedAt key ++ (gate.entryAt key).waiters.map fun waiter => waiter.request
  arrivalsDistinct : (gate.arrivals.map Prod.snd).Nodup
  arrivalsIssued : ∀ arrival ∈ gate.arrivals, arrival.2 < gate.nextRequest
  rejectedWaited : ∀ request ∈ gate.rejections, request < gate.nextRequest
  leaseArrived : ∀ lease ∈ gate.leases, (lease.key, lease.claim.request) ∈ gate.arrivals
  exclusion : ∀ key, Exclusion (gate.entryAt key).holders

/-- What `drain` restores: blocked heads, and no idle entry in the map. -/
structure Settled (gate : RepositoryGate) : Prop extends Consistent gate where
  headBlocked : ∀ key head, (gate.entryAt key).waiters.head? = some head →
    isCompatible head.toRepositoryClaim (gate.entryAt key).holders = false
  entryBusy : ∀ key entry, gate.entries key = some entry →
    (gate.heap entry).holders ≠ [] ∨ (gate.heap entry).waiters ≠ []

/-! ## Reading the invariant -/

namespace RepositoryGate

variable {gate : RepositoryGate}

theorem entryAt_eq {key : String} {entry : Nat} (mapped : gate.entries key = some entry) :
    gate.entryAt key = gate.heap entry := by
  simp [entryAt, mapped]

end RepositoryGate

namespace Consistent

variable {gate : RepositoryGate}

section

variable (consistent : Consistent gate)

include consistent

theorem elsewhere {key other : String} {entry : Nat} (mapped : gate.entries key = some entry)
    (different : other ≠ key) : gate.entries other ≠ some entry :=
  fun alsoMapped => different (consistent.entryOwned other key entry alsoMapped mapped)

theorem arrival_key {key other : String} {request : Nat} (arrived : (key, request) ∈ gate.arrivals)
    (alsoArrived : (other, request) ∈ gate.arrivals) : key = other := by
  have equal := List.inj_on_of_nodup_map consistent.arrivalsDistinct arrived alsoArrived rfl
  exact congrArg Prod.fst equal

section

variable {key : String} {waiter : RepositoryWaiter} (waiting : waiter ∈ (gate.entryAt key).waiters)

include waiting

theorem waiter_unaborted :
    waiter.request ∈ gate.unabortedAt key := by
  rw [consistent.fifo key]
  exact List.mem_append_right _ (List.mem_map_of_mem waiting)

theorem waiter_arrived : (key, waiter.request) ∈ gate.arrivals := by
  have unaborted := consistent.waiter_unaborted waiting
  simp only [RepositoryGate.unabortedAt, RepositoryGate.arrivedAt, List.mem_filter, List.mem_map] at unaborted
  obtain ⟨⟨⟨arrivalKey, request⟩, ⟨arrived, sameKey⟩, rfl⟩, _⟩ := unaborted
  obtain rfl : arrivalKey = key := by simpa using sameKey
  exact arrived

end

theorem arrivedAt_nodup (key : String) : (gate.arrivedAt key).Nodup :=
  (List.filter_sublist.map Prod.snd).nodup consistent.arrivalsDistinct

theorem line_nodup (key : String) :
    (gate.grantedAt key ++ (gate.entryAt key).waiters.map fun waiter => waiter.request).Nodup := by
  rw [← consistent.fifo key]
  exact (consistent.arrivedAt_nodup key).filter _

end

end Consistent

/-! ## Rewriting one entry -/

variable {key : String} {entry : Nat}

/-- An operation works under one key: every other key keeps its entry as it is. -/
def SameElsewhere (key : String) (before after : RepositoryGate) : Prop :=
  ∀ other, other ≠ key → after.entries other = before.entries other ∧
    ∀ entry, before.entries other = some entry → after.heap entry = before.heap entry

theorem SameElsewhere.entryAt {before after : RepositoryGate} (same : SameElsewhere key before after) {other : String}
    (different : other ≠ key) : after.entryAt other = before.entryAt other := by
  obtain ⟨entriesSame, heapSame⟩ := same other different
  cases mapped : before.entries other with
  | none => simp [RepositoryGate.entryAt, entriesSame, mapped]
  | some entry => simp [RepositoryGate.entryAt, entriesSame, mapped, heapSame entry mapped]

theorem SameElsewhere.trans {first second third : RepositoryGate} (early : SameElsewhere key first second)
    (late : SameElsewhere key second third) : SameElsewhere key first third := by
  intro other different
  obtain ⟨entriesSame, heapSame⟩ := early other different
  obtain ⟨stillSame, heapStill⟩ := late other different
  refine ⟨stillSame.trans entriesSame, fun entry present => ?_⟩
  rw [heapStill entry (entriesSame.trans present), heapSame entry present]

/-- The map stays, and the entry object under one key gets a new value. -/
structure Rewrites (gate after : RepositoryGate) (key : String) (entry : Nat) (value : RepositoryEntry) : Prop where
  mapped : gate.entries key = some entry
  entries : after.entries = gate.entries
  heap : after.heap = Function.update gate.heap entry value

namespace Rewrites

variable {gate after : RepositoryGate} {value : RepositoryEntry}

section

variable (rewrites : Rewrites gate after key entry value)

include rewrites

theorem heap_same : after.heap entry = value := by
  simp [rewrites.heap]

theorem heap_other {other : Nat} (different : other ≠ entry) :
    after.heap other = gate.heap other := by
  simp [rewrites.heap, different]

theorem sameElsewhere (consistent : Consistent gate) :
    SameElsewhere key gate after := by
  intro other different
  refine ⟨congrFun rewrites.entries other, fun found present => rewrites.heap_other ?_⟩
  rintro rfl
  exact consistent.elsewhere rewrites.mapped different present

end

theorem trans {final : RepositoryGate} {last : RepositoryEntry} (early : Rewrites gate after key entry value)
    (late : Rewrites after final key entry last) : Rewrites gate final key entry last :=
  ⟨early.mapped, late.entries.trans early.entries, by rw [late.heap, early.heap, Function.update_idem]⟩

theorem every_key (rewrites : Rewrites gate after key entry value) (consistent : Consistent gate)
    {motive : String → RepositoryEntry → Prop} (here : motive key value)
    (elsewhere : ∀ other, other ≠ key → motive other (gate.entryAt other)) (other : String) :
    motive other (after.entryAt other) := by
  by_cases same : other = key
  · rw [same, RepositoryGate.entryAt_eq ((congrFun rewrites.entries key).trans rewrites.mapped), rewrites.heap_same]
    exact here
  · rw [(rewrites.sameElsewhere consistent).entryAt same]
    exact elsewhere other same

theorem exclusion (rewrites : Rewrites gate after key entry value) (consistent : Consistent gate)
    (exclusive : Exclusion value.holders) (other : String) : Exclusion (after.entryAt other).holders :=
  rewrites.every_key consistent (motive := fun _ value => Exclusion value.holders) exclusive
    (fun other _ => consistent.exclusion other) other

end Rewrites

variable {gate : RepositoryGate}

theorem Consistent.here (consistent : Consistent gate) (mapped : gate.entries key = some entry) :
    (gate.heap entry).holders = gate.heldAt key ∧ Exclusion (gate.heap entry).holders ∧
      gate.unabortedAt key = gate.grantedAt key ++ (gate.heap entry).waiters.map fun waiter => waiter.request := by
  rw [← RepositoryGate.entryAt_eq mapped]
  exact ⟨consistent.holdersLeased key, consistent.exclusion key, consistent.fifo key⟩

/-! ## Granting the head of a line -/

theorem grant_rewrites (mapped : gate.entries key = some entry) {next : RepositoryWaiter}
    {rest : List RepositoryWaiter} (line : (gate.heap entry).waiters = next :: rest) :
    Rewrites gate ((gate.shiftWaiter entry).grant key entry next) key entry
      ⟨(gate.heap entry).holders ++ [next.toRepositoryClaim], rest⟩ where
  mapped
  entries := rfl
  heap := by simp [RepositoryGate.grant, RepositoryGate.shiftWaiter, RepositoryGate.setEntry, line]

theorem Consistent.grantHead (consistent : Consistent gate)
    (mapped : gate.entries key = some entry) {next : RepositoryWaiter} {rest : List RepositoryWaiter}
    (line : (gate.heap entry).waiters = next :: rest)
    (compatible : isCompatible next.toRepositoryClaim (gate.heap entry).holders = true) :
    Consistent ((gate.shiftWaiter entry).grant key entry next) := by
  have rewrites := grant_rewrites mapped line
  obtain ⟨held, exclusive, inLine⟩ := consistent.here mapped
  have nextWaits : next ∈ (gate.entryAt key).waiters := by simp [RepositoryGate.entryAt_eq mapped, line]
  have nextArrived := consistent.waiter_arrived nextWaits
  have lineNodup := consistent.line_nodup key
  rw [RepositoryGate.entryAt_eq mapped, line, List.map_cons] at lineNodup
  have notInRest : ∀ waiter ∈ rest, waiter.request ≠ next.request := by
    intro waiter member same
    have tailNodup := (List.nodup_append.mp lineNodup).2.1
    exact (List.nodup_cons.mp tailNodup).1 (List.mem_map.mpr ⟨waiter, member, same⟩)
  -- the gate after the grant, field by field
  set granted := (gate.shiftWaiter entry).grant key entry next with grantedDef
  have leasesEq : granted.leases = gate.leases ++ [⟨key, entry, next.toRepositoryClaim, false⟩] := rfl
  have listenersEq : granted.listeners =
      gate.listeners.filter fun listener => listener.request != next.request := rfl
  have unabortedEq : ∀ other, granted.unabortedAt other = gate.unabortedAt other := fun _ => rfl
  exact {
    entryAllocated := consistent.entryAllocated
    entryOwned := consistent.entryOwned
    leaseLive := by
      rw [leasesEq]
      exact forall_mem_snoc.mpr ⟨consistent.leaseLive, fun _ => mapped⟩
    listenerLive := by
      intro listener member
      rw [listenersEq] at member
      obtain ⟨old, notNext⟩ := List.mem_filter.mp member
      obtain ⟨listenerMapped, waiter, waits, sameRequest, sameSignal⟩ := consistent.listenerLive listener old
      refine ⟨listenerMapped, waiter, ?_, sameRequest, sameSignal⟩
      by_cases sameEntry : listener.entry = entry
      · rw [sameEntry, rewrites.heap_same]
        rw [sameEntry, line] at waits
        rcases List.mem_cons.mp waits with rfl | inRest
        · simp [sameRequest] at notNext
        · exact inRest
      · rw [rewrites.heap_other sameEntry]; exact waits
    waiterListens := by
      intro other otherEntry otherMapped waiter waits
      rw [listenersEq]
      by_cases sameEntry : otherEntry = entry
      · subst sameEntry
        rw [rewrites.heap_same] at waits
        refine List.mem_filter.mpr ⟨consistent.waiterListens other otherEntry otherMapped waiter ?_, ?_⟩
        · rw [line]; exact List.mem_cons_of_mem _ waits
        · simpa using notInRest waiter waits
      · rw [rewrites.heap_other sameEntry] at waits
        refine List.mem_filter.mpr ⟨consistent.waiterListens other otherEntry otherMapped waiter waits, ?_⟩
        have otherMappedBefore : gate.entries other = some otherEntry := otherMapped
        rw [← RepositoryGate.entryAt_eq otherMappedBefore] at waits
        have waiterArrived := consistent.waiter_arrived waits
        simp only [bne_iff_ne, ne_eq]
        intro same
        rw [same] at waiterArrived
        have sameKey := consistent.arrival_key waiterArrived nextArrived
        rw [sameKey] at otherMapped
        exact sameEntry (Option.some.inj (otherMapped.symm.trans mapped))
    holdersLeased := by
      apply rewrites.every_key consistent (motive := fun other value => value.holders = granted.heldAt other)
      · simp [RepositoryGate.heldAt, RepositoryGate.leasesAt, leasesEq, held]
      · intro other same
        rw [consistent.holdersLeased other]
        simp [RepositoryGate.heldAt, RepositoryGate.leasesAt, leasesEq, List.filter_append, Ne.symm same]
    fifo := by
      apply rewrites.every_key consistent
        (motive := fun other value => granted.unabortedAt other = granted.grantedAt other ++ value.waiters.map _)
      · rw [unabortedEq, inLine, line]
        simp [RepositoryGate.grantedAt, RepositoryGate.leasesAt, leasesEq]
      · intro other same
        rw [unabortedEq, consistent.fifo other]
        simp [RepositoryGate.grantedAt, RepositoryGate.leasesAt, leasesEq, List.filter_append, Ne.symm same]
    arrivalsDistinct := consistent.arrivalsDistinct
    arrivalsIssued := consistent.arrivalsIssued
    rejectedWaited := consistent.rejectedWaited
    leaseArrived := by
      rw [leasesEq]
      exact forall_mem_snoc.mpr ⟨consistent.leaseArrived, nextArrived⟩
    exclusion := rewrites.exclusion consistent (isCompatible_exclusion exclusive compatible) }

/-! ## Draining a line -/

/-- Admission as the gate tests it, for the results on lines. -/
abbrev admits (next : RepositoryWaiter) (holders : List RepositoryClaim) : Bool :=
  isCompatible next.toRepositoryClaim holders

/-- The loop of `drain` is one drain of the line, and touches no other entry. -/
theorem drainWaiters_spec (waiters : List RepositoryWaiter) (consistent : Consistent gate)
    (mapped : gate.entries key = some entry) (line : (gate.heap entry).waiters = waiters) :
    let drained := RepositoryGate.drainWaiters key entry waiters gate
    Consistent drained ∧ Rewrites gate drained key entry
      ⟨drainedHolders admits RepositoryWaiter.toRepositoryClaim (gate.heap entry).holders waiters,
        drainedWaiters admits RepositoryWaiter.toRepositoryClaim (gate.heap entry).holders waiters⟩ := by
  induction waiters generalizing gate with
  | nil =>
    refine ⟨consistent, mapped, rfl, ?_⟩
    simp [RepositoryGate.drainWaiters, drainedHolders, drainedWaiters, ← line]
  | cons next rest ih =>
    simp only [RepositoryGate.drainWaiters, drainedHolders, drainedWaiters, admits]
    split
    · next compatible =>
      have granted := grant_rewrites mapped line
      obtain ⟨drainedConsistent, drained⟩ :=
        ih (consistent.grantHead mapped line compatible) mapped (by rw [granted.heap_same])
      rw [granted.heap_same] at drained
      exact ⟨drainedConsistent, granted.trans drained⟩
    · refine ⟨consistent, mapped, rfl, ?_⟩
      rw [← line]
      exact (Function.update_eq_self _ _).symm

/-- Deleting an idle entry changes nothing that is seen under any key. -/
theorem Consistent.deleteIdle (consistent : Consistent gate)
    (mapped : gate.entries key = some entry) (idle : gate.heap entry = ⟨[], []⟩) :
    Consistent { gate with entries := Function.update gate.entries key none } := by
  have entriesAfter : ∀ other found, Function.update gate.entries key none other = some found →
      other ≠ key ∧ gate.entries other = some found := by
    intro other found present
    by_cases same : other = key
    · subst same; simp at present
    · exact ⟨same, by simpa [same] using present⟩
  have entryAtEq : ∀ other, ({ gate with entries := Function.update gate.entries key none } :
      RepositoryGate).entryAt other = gate.entryAt other := by
    intro other
    by_cases same : other = key
    · subst same; simp [RepositoryGate.entryAt, mapped, idle]
    · simp [RepositoryGate.entryAt, same]
  have heldNone : gate.heldAt key = [] := by
    rw [← consistent.holdersLeased key, RepositoryGate.entryAt_eq mapped, idle]
  have otherKey : ∀ other found, gate.entries other = some found → found ≠ entry → other ≠ key := by
    rintro other found present different rfl
    exact different (Option.some.inj (present.symm.trans mapped))
  exact {
    entryAllocated := fun other found present => consistent.entryAllocated other found (entriesAfter other found present).2
    entryOwned := fun other another found present alsoPresent =>
      consistent.entryOwned other another found (entriesAfter other found present).2
        (entriesAfter another found alsoPresent).2
    leaseLive := by
      intro lease member unreleased
      have live := consistent.leaseLive lease member unreleased
      have notKey : lease.key ≠ key := by
        rintro rfl
        have held : lease.claim ∈ gate.heldAt lease.key := by
          refine List.mem_map_of_mem (List.mem_filter.mpr ⟨?_, by simp [unreleased]⟩)
          exact List.mem_filter.mpr ⟨member, by simp⟩
        rw [heldNone] at held
        cases held
      simpa [notKey] using live
    listenerLive := by
      intro listener member
      obtain ⟨listenerMapped, waiter, waits, same⟩ := consistent.listenerLive listener member
      have notKey : listener.key ≠ key := by
        refine otherKey _ _ listenerMapped ?_
        intro sameEntry
        rw [sameEntry, idle] at waits
        cases waits
      exact ⟨by simpa [notKey] using listenerMapped, waiter, waits, same⟩
    waiterListens := fun other found present => consistent.waiterListens other found (entriesAfter other found present).2
    holdersLeased := fun other => by rw [entryAtEq other]; exact consistent.holdersLeased other
    fifo := fun other => by rw [entryAtEq other]; exact consistent.fifo other
    arrivalsDistinct := consistent.arrivalsDistinct
    arrivalsIssued := consistent.arrivalsIssued
    rejectedWaited := consistent.rejectedWaited
    leaseArrived := consistent.leaseArrived
    exclusion := fun other => by rw [entryAtEq other]; exact consistent.exclusion other }

theorem idle_entry {value : RepositoryEntry} (idle : (value.holders.isEmpty && value.waiters.isEmpty) = true) :
    value = ⟨[], []⟩ := by
  obtain ⟨holders, waiters⟩ := value
  simpa using idle

/-- A drain seen under every key. -/
theorem entryAt_drain (consistent : Consistent gate) (mapped : gate.entries key = some entry) :
    (gate.drain key entry).entryAt key =
      ⟨drainedHolders admits RepositoryWaiter.toRepositoryClaim (gate.heap entry).holders (gate.heap entry).waiters,
        drainedWaiters admits RepositoryWaiter.toRepositoryClaim (gate.heap entry).holders (gate.heap entry).waiters⟩ ∧
    ∀ other, other ≠ key → (gate.drain key entry).entryAt other = gate.entryAt other := by
  obtain ⟨_, rewrites⟩ := drainWaiters_spec (gate.heap entry).waiters consistent mapped rfl
  have elsewhere := rewrites.sameElsewhere consistent
  rw [← rewrites.heap_same]
  simp only [RepositoryGate.drain]
  split
  · next idle =>
    refine ⟨by simp [RepositoryGate.entryAt, idle_entry idle], fun other different => ?_⟩
    rw [← elsewhere.entryAt different]
    simp [RepositoryGate.entryAt, different]
  · refine ⟨?_, fun other different => elsewhere.entryAt different⟩
    exact RepositoryGate.entryAt_eq ((congrFun rewrites.entries key).trans mapped)

/-- `drain` settles its own key and leaves the others as they stand. -/
theorem Settled.drain {before : RepositoryGate} (settled : Settled before) (same : SameElsewhere key before gate)
    (consistent : Consistent gate) (mapped : gate.entries key = some entry) : Settled (gate.drain key entry) := by
  obtain ⟨drainedConsistent, rewrites⟩ := drainWaiters_spec (gate.heap entry).waiters consistent mapped rfl
  have drainedMapped := (congrFun rewrites.entries key).trans mapped
  have elsewhere := same.trans (rewrites.sameElsewhere consistent)
  have headBlocked : ∀ other head, ((gate.drain key entry).entryAt other).waiters.head? = some head →
      isCompatible head.toRepositoryClaim ((gate.drain key entry).entryAt other).holders = false := by
    obtain ⟨own, others⟩ := entryAt_drain consistent mapped
    intro other head atHead
    by_cases isOwn : other = key
    · subst isOwn
      rw [own] at atHead ⊢
      exact drainedWaiters_blocked admits _ _ _ head atHead
    · rw [others other isOwn, same.entryAt isOwn] at atHead ⊢
      exact settled.headBlocked other head atHead
  have entryBusy : ∀ other found, other ≠ key → before.entries other = some found →
      let drained := RepositoryGate.drainWaiters key entry (gate.heap entry).waiters gate
      (drained.heap found).holders ≠ [] ∨ (drained.heap found).waiters ≠ [] := by
    intro other found different present drained
    rw [(elsewhere other different).2 found present]
    exact settled.entryBusy other found present
  simp only [RepositoryGate.drain] at headBlocked ⊢
  split at headBlocked
  · next idle =>
    rw [if_pos idle]
    refine { drainedConsistent.deleteIdle drainedMapped (idle_entry idle) with headBlocked, entryBusy := ?_ }
    intro other found present
    by_cases isOwn : other = key
    · subst isOwn; simp at present
    · apply entryBusy other found isOwn
      rw [← (elsewhere other isOwn).1]
      simpa [isOwn] using present
  · next busy =>
    rw [if_neg busy]
    refine { drainedConsistent with headBlocked, entryBusy := ?_ }
    intro other found present
    by_cases isOwn : other = key
    · subst isOwn
      obtain rfl : found = entry := Option.some.inj (present.symm.trans drainedMapped)
      by_contra neither
      simp only [not_or, not_not] at neither
      simp [neither] at busy
    · exact entryBusy other found isOwn ((elsewhere other isOwn).1.symm.trans present)

/-! ## Acquiring -/

theorem entryFor_spec (consistent : Consistent gate) (key : String) :
    Consistent (gate.entryFor key).2 ∧ (gate.entryFor key).2.entries key = some (gate.entryFor key).1 ∧
      SameElsewhere key gate (gate.entryFor key).2 := by
  cases mapped : gate.entries key with
  | some entry =>
    simp only [RepositoryGate.entryFor, mapped]
    exact ⟨consistent, trivial, fun _ _ => ⟨rfl, fun _ _ => rfl⟩⟩
  | none =>
    simp only [RepositoryGate.entryFor, mapped]
    set made : RepositoryGate := { gate.setEntry gate.nextEntry ⟨[], []⟩ with
      nextEntry := gate.nextEntry + 1
      entries := Function.update gate.entries key (some gate.nextEntry) } with madeDef
    have fresh : ∀ other entry, gate.entries other = some entry → entry ≠ gate.nextEntry :=
      fun other entry present => Nat.ne_of_lt (consistent.entryAllocated other entry present)
    have heapKept : ∀ entry, entry ≠ gate.nextEntry → made.heap entry = gate.heap entry := by
      intro entry different
      simp [madeDef, RepositoryGate.setEntry, different]
    have heapNew : made.heap gate.nextEntry = ⟨[], []⟩ := by simp [madeDef, RepositoryGate.setEntry]
    have entriesNew : made.entries key = some gate.nextEntry := by simp [madeDef]
    have entriesKept : ∀ other, other ≠ key → made.entries other = gate.entries other := by
      intro other different
      simp [madeDef, different]
    have keyOf : ∀ other entry, gate.entries other = some entry → other ≠ key := by
      rintro other entry present rfl
      rw [mapped] at present
      cases present
    have entryAtSame : ∀ other, made.entryAt other = gate.entryAt other := by
      intro other
      by_cases same : other = key
      · subst same; simp [RepositoryGate.entryAt, entriesNew, heapNew, mapped]
      · cases present : gate.entries other with
        | none => simp [RepositoryGate.entryAt, entriesKept other same, present]
        | some entry =>
          simp [RepositoryGate.entryAt, entriesKept other same, present, heapKept entry (fresh other entry present)]
    have entriesCases : ∀ other entry, made.entries other = some entry →
        (other = key ∧ entry = gate.nextEntry) ∨ gate.entries other = some entry := by
      intro other entry present
      by_cases same : other = key
      · subst same
        rw [entriesNew] at present
        exact Or.inl ⟨rfl, (Option.some.inj present).symm⟩
      · rw [entriesKept other same] at present
        exact Or.inr present
    refine ⟨?_, entriesNew, fun other different => ⟨entriesKept other different,
      fun entry present => heapKept entry (fresh other entry present)⟩⟩
    exact {
      entryAllocated := by
        intro other entry present
        rcases entriesCases other entry present with ⟨_, rfl⟩ | old
        · exact Nat.lt_succ_self _
        · exact Nat.lt_succ_of_lt (consistent.entryAllocated other entry old)
      entryOwned := by
        intro other another entry present alsoPresent
        rcases entriesCases other entry present with ⟨rfl, rfl⟩ | old
        · rcases entriesCases another _ alsoPresent with ⟨rfl, _⟩ | alsoOld
          · rfl
          · exact absurd rfl (fresh _ _ alsoOld)
        · rcases entriesCases another entry alsoPresent with ⟨_, rfl⟩ | alsoOld
          · exact absurd rfl (fresh _ _ old)
          · exact consistent.entryOwned other another entry old alsoOld
      leaseLive := by
        intro lease member unreleased
        have live := consistent.leaseLive lease member unreleased
        rw [entriesKept _ (keyOf _ _ live)]
        exact live
      listenerLive := by
        intro listener member
        obtain ⟨live, waiter, waits, same⟩ := consistent.listenerLive listener member
        refine ⟨by rw [entriesKept _ (keyOf _ _ live)]; exact live, waiter, ?_, same⟩
        rw [heapKept _ (fresh _ _ live)]
        exact waits
      waiterListens := by
        intro other entry present waiter waits
        rcases entriesCases other entry present with ⟨_, rfl⟩ | old
        · rw [heapNew] at waits; cases waits
        · rw [heapKept _ (fresh _ _ old)] at waits
          exact consistent.waiterListens other entry old waiter waits
      holdersLeased := fun other => by rw [entryAtSame other]; exact consistent.holdersLeased other
      fifo := fun other => by rw [entryAtSame other]; exact consistent.fifo other
      arrivalsDistinct := consistent.arrivalsDistinct
      arrivalsIssued := consistent.arrivalsIssued
      rejectedWaited := consistent.rejectedWaited
      leaseArrived := consistent.leaseArrived
      exclusion := fun other => by rw [entryAtSame other]; exact consistent.exclusion other }

theorem enqueue_rewrites (mapped : gate.entries key = some entry) (waiter : RepositoryWaiter) :
    Rewrites gate (gate.enqueue key entry waiter) key entry
      ⟨(gate.heap entry).holders, (gate.heap entry).waiters ++ [waiter]⟩ :=
  ⟨mapped, rfl, rfl⟩

theorem Consistent.enqueue (consistent : Consistent gate)
    (mapped : gate.entries key = some entry) (access : RepositoryAccess) (owner : Option String) (abortSignal : Nat) :
    Consistent (gate.enqueue key entry ⟨⟨gate.nextRequest, access, owner⟩, abortSignal⟩) := by
  set waiter : RepositoryWaiter := ⟨⟨gate.nextRequest, access, owner⟩, abortSignal⟩ with waiterDef
  set queued := gate.enqueue key entry waiter with queuedDef
  have rewrites := enqueue_rewrites mapped waiter
  obtain ⟨held, exclusive, inLine⟩ := consistent.here mapped
  have listenersEq : queued.listeners = gate.listeners ++ [⟨abortSignal, key, entry, gate.nextRequest⟩] := rfl
  have arrivalsEq : queued.arrivals = gate.arrivals ++ [(key, gate.nextRequest)] := rfl
  have notRejected : gate.nextRequest ∉ gate.rejections :=
    fun member => absurd (consistent.rejectedWaited _ member) (Nat.lt_irrefl _)
  exact {
    entryAllocated := consistent.entryAllocated
    entryOwned := consistent.entryOwned
    leaseLive := consistent.leaseLive
    listenerLive := by
      intro listener member
      rw [listenersEq] at member
      rcases List.mem_append.mp member with old | new
      · obtain ⟨live, found, waits, same⟩ := consistent.listenerLive listener old
        refine ⟨live, found, ?_, same⟩
        by_cases sameEntry : listener.entry = entry
        · rw [sameEntry, rewrites.heap_same]
          rw [sameEntry] at waits
          exact List.mem_append_left _ waits
        · rw [rewrites.heap_other sameEntry]; exact waits
      · obtain rfl : listener = _ := by simpa using new
        refine ⟨mapped, waiter, ?_, rfl, rfl⟩
        rw [rewrites.heap_same]
        exact List.mem_append_right _ List.mem_cons_self
    waiterListens := by
      intro other found present someone waits
      rw [listenersEq]
      by_cases sameEntry : found = entry
      · subst sameEntry
        obtain rfl : other = key := consistent.entryOwned _ _ _ present mapped
        rw [rewrites.heap_same] at waits
        rcases List.mem_append.mp waits with old | new
        · exact List.mem_append_left _ (consistent.waiterListens _ _ mapped someone old)
        · obtain rfl : someone = waiter := by simpa using new
          exact List.mem_append_right _ List.mem_cons_self
      · rw [rewrites.heap_other sameEntry] at waits
        exact List.mem_append_left _ (consistent.waiterListens other found present someone waits)
    holdersLeased := rewrites.every_key consistent (motive := fun other value => value.holders = gate.heldAt other) held
      fun other _ => consistent.holdersLeased other
    fifo := by
      apply rewrites.every_key consistent
        (motive := fun other value => queued.unabortedAt other = queued.grantedAt other ++ value.waiters.map _)
      · have joined : queued.unabortedAt key = gate.unabortedAt key ++ [gate.nextRequest] := by
          simp [RepositoryGate.unabortedAt, RepositoryGate.arrivedAt, arrivalsEq, List.filter_append,
            show queued.rejections = gate.rejections from rfl, notRejected]
        rw [joined, inLine]
        simp [waiterDef, show queued.grantedAt key = gate.grantedAt key from rfl]
      · intro other different
        have unaborted : queued.unabortedAt other = gate.unabortedAt other := by
          simp [RepositoryGate.unabortedAt, RepositoryGate.arrivedAt, arrivalsEq, List.filter_append, Ne.symm different,
            show queued.rejections = gate.rejections from rfl]
        rw [unaborted]
        exact consistent.fifo other
    arrivalsDistinct := by
      rw [arrivalsEq]
      exact nodup_map_snoc consistent.arrivalsDistinct
        fun arrival member => Nat.ne_of_lt (consistent.arrivalsIssued arrival member)
    arrivalsIssued := by
      rw [arrivalsEq]
      exact forall_mem_snoc.mpr ⟨fun arrival old => Nat.lt_succ_of_lt (consistent.arrivalsIssued arrival old),
        Nat.lt_succ_self _⟩
    rejectedWaited := fun request member => Nat.lt_succ_of_lt (consistent.rejectedWaited request member)
    leaseArrived := fun lease member => List.mem_append_left _ (consistent.leaseArrived lease member)
    exclusion := rewrites.exclusion consistent exclusive }

theorem Settled.acquire (settled : Settled gate)
    (canonicalRepositoryKey : Option String) (access : RepositoryAccess) (owner : Option String)
    (abortSignal : Nat) : Settled (gate.acquire canonicalRepositoryKey access owner abortSignal) := by
  cases canonicalRepositoryKey with
  | none => exact settled
  | some key =>
    simp only [RepositoryGate.acquire]
    split
    · exact settled
    · obtain ⟨found, mapped, sameElsewhere⟩ := entryFor_spec settled.toConsistent key
      exact settled.drain (sameElsewhere.trans ((enqueue_rewrites mapped _).sameElsewhere found))
        (found.enqueue mapped access owner abortSignal) mapped

/-! ## Aborting -/

theorem drainWaiters_rejections (key : String) (entry : Nat) (rejections : List Nat)
    (waiters : List RepositoryWaiter) (gate : RepositoryGate) :
    RepositoryGate.drainWaiters key entry waiters { gate with rejections := rejections } =
      { RepositoryGate.drainWaiters key entry waiters gate with rejections := rejections } := by
  induction waiters generalizing gate with
  | nil => rfl
  | cons next rest ih =>
    simp only [RepositoryGate.drainWaiters]
    split
    · exact ih ((gate.shiftWaiter entry).grant key entry next)
    · rfl

theorem drain_rejections (key : String) (entry : Nat) (rejections : List Nat) (gate : RepositoryGate) :
    RepositoryGate.drain key entry { gate with rejections := rejections } =
      { RepositoryGate.drain key entry gate with rejections := rejections } := by
  simp only [RepositoryGate.drain, drainWaiters_rejections]
  split <;> rfl

theorem drain_keeps_rejections (key : String) (entry : Nat) (gate : RepositoryGate) :
    (RepositoryGate.drain key entry gate).rejections = gate.rejections := by
  have commuted : RepositoryGate.drain key entry gate =
      { RepositoryGate.drain key entry gate with rejections := gate.rejections } :=
    drain_rejections key entry gate.rejections gate
  calc (RepositoryGate.drain key entry gate).rejections
      = ({ RepositoryGate.drain key entry gate with rejections := gate.rejections } :
          RepositoryGate).rejections := congrArg RepositoryGate.rejections commuted
    _ = gate.rejections := rfl

/-- The gate once an aborted waiter has left its line, before the drain. -/
def withdrawn (listener : AbortListener) (gate : RepositoryGate) : RepositoryGate :=
  { gate.setEntry listener.entry { gate.heap listener.entry with
      waiters := spliceIndexOf (fun waiter => waiter.request == listener.request)
        (gate.heap listener.entry).waiters } with
    listeners := gate.listeners.filter fun other => other != listener
    rejections := gate.rejections ++ [listener.request] }

theorem onAbort_eq (listener : AbortListener) (gate : RepositoryGate) :
    RepositoryGate.onAbort listener
        { gate with listeners := gate.listeners.filter fun other => other != listener } =
      (withdrawn listener gate).drain listener.key listener.entry := by
  simp only [RepositoryGate.onAbort, withdrawn, drain_keeps_rejections]
  exact (drain_rejections _ _ _ _).symm

section

variable {gate : RepositoryGate} (consistent : Consistent gate) {listener : AbortListener}
  (registered : listener ∈ gate.listeners)

include consistent registered

theorem Consistent.waits_once :
    ((gate.heap listener.entry).waiters.map fun waiter => waiter.request).Nodup ∧
      (∀ request ∈ gate.grantedAt listener.key, request ≠ listener.request) ∧
      (listener.key, listener.request) ∈ gate.arrivals := by
  obtain ⟨mapped, waiter, waits, sameRequest, _⟩ := consistent.listenerLive listener registered
  have line := List.nodup_append.mp (consistent.line_nodup listener.key)
  have arrived := consistent.waiter_arrived (by rw [RepositoryGate.entryAt_eq mapped]; exact waits)
  rw [RepositoryGate.entryAt_eq mapped] at line
  rw [sameRequest] at arrived
  refine ⟨line.2.1, ?_, arrived⟩
  rintro request member rfl
  exact line.2.2 _ member _ (List.mem_map.mpr ⟨waiter, waits, sameRequest⟩) rfl

theorem Consistent.withdrawn_rewrites :
    Rewrites gate (withdrawn listener gate) listener.key listener.entry ⟨(gate.heap listener.entry).holders,
      (gate.heap listener.entry).waiters.filter fun waiter => waiter.request != listener.request⟩ := by
  obtain ⟨mapped, waiter, waits, sameRequest, _⟩ := consistent.listenerLive listener registered
  refine ⟨mapped, rfl, ?_⟩
  have spliced := spliceIndexOf_eq_filter (fun waiter : RepositoryWaiter => waiter.request) listener.request _
    (consistent.waits_once registered).1 (List.mem_map.mpr ⟨waiter, waits, sameRequest⟩)
  simp [withdrawn, RepositoryGate.setEntry, spliced]

theorem Consistent.withdrawn :
    Consistent (withdrawn listener gate) := by
  obtain ⟨mapped, waiter, waits, sameRequest, sameSignal⟩ := consistent.listenerLive listener registered
  obtain ⟨waitersDistinct, notGranted, waiterArrived⟩ := consistent.waits_once registered
  obtain ⟨held, exclusive, inLine⟩ := consistent.here mapped
  have rewrites := consistent.withdrawn_rewrites registered
  set left := SiftKit.Repository.withdrawn listener gate with leftDef
  have listenersEq : left.listeners = gate.listeners.filter fun other => other != listener := rfl
  have rejectionsEq : left.rejections = gate.rejections ++ [listener.request] := rfl
  have unabortedEq : ∀ other, left.unabortedAt other =
      (gate.unabortedAt other).filter fun request => request != listener.request := by
    intro other
    simp only [RepositoryGate.unabortedAt, List.filter_filter, rejectionsEq,
      show left.arrivedAt other = gate.arrivedAt other from rfl]
    apply List.filter_congr
    intro request _
    by_cases same : request = listener.request <;> simp [same]
  exact {
    entryAllocated := consistent.entryAllocated
    entryOwned := consistent.entryOwned
    leaseLive := consistent.leaseLive
    listenerLive := by
      intro other member
      rw [listenersEq] at member
      obtain ⟨old, notThis⟩ := List.mem_filter.mp member
      obtain ⟨live, found, foundWaits, foundRequest, foundSignal⟩ := consistent.listenerLive other old
      refine ⟨live, found, ?_, foundRequest, foundSignal⟩
      by_cases sameEntry : other.entry = listener.entry
      · rw [sameEntry, rewrites.heap_same]
        rw [sameEntry] at foundWaits
        refine List.mem_filter.mpr ⟨foundWaits, ?_⟩
        simp only [bne_iff_ne, ne_eq]
        intro foundSame
        -- two listeners of one waiter are one listener
        obtain rfl : found = waiter := by
          exact List.inj_on_of_nodup_map waitersDistinct foundWaits waits (foundSame.trans sameRequest.symm)
        have sameKey : other.key = listener.key :=
          consistent.entryOwned _ _ _ live (by rw [sameEntry]; exact mapped)
        have equal : other = listener := by
          cases other; cases listener; simp_all
        simp [equal] at notThis
      · rw [rewrites.heap_other sameEntry]; exact foundWaits
    waiterListens := by
      intro other found present someone someoneWaits
      rw [listenersEq]
      by_cases sameEntry : found = listener.entry
      · subst sameEntry
        rw [rewrites.heap_same] at someoneWaits
        obtain ⟨old, notThis⟩ := List.mem_filter.mp someoneWaits
        refine List.mem_filter.mpr ⟨consistent.waiterListens other _ present someone old, ?_⟩
        simp only [bne_iff_ne, ne_eq]
        intro equal
        have sameAsThis : someone.request = listener.request := congrArg AbortListener.request equal
        simp [sameAsThis] at notThis
      · rw [rewrites.heap_other sameEntry] at someoneWaits
        refine List.mem_filter.mpr ⟨consistent.waiterListens other found present someone someoneWaits, ?_⟩
        simp only [bne_iff_ne, ne_eq]
        intro equal
        exact sameEntry (congrArg AbortListener.entry equal)
    holdersLeased := rewrites.every_key consistent (motive := fun other value => value.holders = gate.heldAt other) held
      fun other _ => consistent.holdersLeased other
    fifo := by
      apply rewrites.every_key consistent
        (motive := fun other value => left.unabortedAt other = gate.grantedAt other ++ value.waiters.map _)
      · rw [unabortedEq, inLine, List.filter_append]
        congr 1
        · exact List.filter_eq_self.mpr (by simpa using notGranted)
        · rw [List.filter_map]; rfl
      · intro other same
        rw [unabortedEq other, ← consistent.fifo other]
        refine List.filter_eq_self.mpr ?_
        intro request member
        simp only [bne_iff_ne, ne_eq]
        rintro rfl
        simp only [RepositoryGate.unabortedAt, RepositoryGate.arrivedAt, List.mem_filter, List.mem_map] at member
        obtain ⟨⟨⟨arrivalKey, request⟩, ⟨arrived, sameKey⟩, rfl⟩, _⟩ := member
        obtain rfl : arrivalKey = other := by simpa using sameKey
        exact same (consistent.arrival_key arrived waiterArrived)
    arrivalsDistinct := consistent.arrivalsDistinct
    arrivalsIssued := consistent.arrivalsIssued
    rejectedWaited := by
      rw [rejectionsEq]
      exact forall_mem_snoc.mpr ⟨consistent.rejectedWaited, consistent.arrivalsIssued _ waiterArrived⟩
    leaseArrived := consistent.leaseArrived
    exclusion := rewrites.exclusion consistent exclusive }

end

theorem Settled.onAbort (settled : Settled gate) {listener : AbortListener}
    (registered : listener ∈ gate.listeners) :
    Settled (RepositoryGate.onAbort listener
      { gate with listeners := gate.listeners.filter fun other => other != listener }) := by
  rw [onAbort_eq]
  exact settled.drain ((settled.withdrawn_rewrites registered).sameElsewhere settled.toConsistent)
    (settled.toConsistent.withdrawn registered) (settled.listenerLive listener registered).1

/-- Each listener still registered when its turn comes is one withdrawal; the others are skipped. -/
theorem Settled.dispatchAbort (listeners : List AbortListener)
    (settled : Settled gate) : Settled (RepositoryGate.dispatchAbort listeners gate) := by
  induction listeners generalizing gate with
  | nil => exact settled
  | cons listener rest ih =>
    simp only [RepositoryGate.dispatchAbort]
    split
    · next registered => exact ih (settled.onAbort (by simpa using registered))
    · exact ih settled

theorem Settled.abort (settled : Settled gate) (abortSignal : Nat) :
    Settled (gate.abort abortSignal) := by
  simp only [RepositoryGate.abort]
  split
  · exact settled
  · exact Settled.dispatchAbort _ { settled with }

/-! ## Releasing -/

/-- The leases after `release` has marked the one of `request`. -/
def markReleased (request : Nat) (leases : List RepositoryLease) : List RepositoryLease :=
  leases.map fun (lease : RepositoryLease) =>
    if lease.claim.request == request then { lease with released := true } else lease

section

variable (request : Nat) (leases : List RepositoryLease)

include request leases

theorem markReleased_filter_key (key : String) :
    (markReleased request leases).filter (fun lease => lease.key == key) =
      markReleased request (leases.filter fun lease => lease.key == key) := by
  rw [markReleased, List.filter_map, markReleased]
  congr 1
  apply List.filter_congr
  intro lease _
  simp only [Function.comp]
  split <;> rfl

theorem markReleased_requests :
    (markReleased request leases).map (fun lease => lease.claim.request) =
      leases.map fun lease => lease.claim.request := by
  simp only [markReleased, List.map_map]
  apply List.map_congr_left
  intro lease _
  simp only [Function.comp]
  split <;> rfl

theorem markReleased_held :
    ((markReleased request leases).filter fun lease => !lease.released).map RepositoryLease.claim =
      ((leases.filter fun lease => !lease.released).map RepositoryLease.claim).filter
        fun claim => claim.request != request := by
  induction leases with
  | nil => rfl
  | cons lease rest ih =>
    simp only [markReleased, List.map_cons] at ih ⊢
    by_cases marked : lease.claim.request == request
    · by_cases released : lease.released <;> simp_all
    · by_cases released : lease.released <;> simp_all

end

theorem Consistent.held_once (consistent : Consistent gate) {lease : RepositoryLease}
    (member : lease ∈ gate.leases) (unreleased : lease.released = false) :
    ((gate.heldAt lease.key).map fun claim => claim.request).Nodup ∧ lease.claim ∈ gate.heldAt lease.key := by
  constructor
  · have grantedDistinct := (List.nodup_append.mp (consistent.line_nodup lease.key)).1
    refine List.Sublist.nodup ?_ grantedDistinct
    rw [RepositoryGate.heldAt, List.map_map]
    exact List.filter_sublist.map _
  · refine List.mem_map_of_mem (List.mem_filter.mpr ⟨?_, by simpa using unreleased⟩)
    exact List.mem_filter.mpr ⟨member, by simp⟩

theorem Consistent.lease_key (consistent : Consistent gate) {lease other : RepositoryLease}
    (member : lease ∈ gate.leases) (alsoMember : other ∈ gate.leases) (same : other.claim.request = lease.claim.request) :
    other.key = lease.key := by
  have arrived := consistent.leaseArrived lease member
  have alsoArrived := consistent.leaseArrived other alsoMember
  rw [same] at alsoArrived
  exact consistent.arrival_key alsoArrived arrived

theorem Settled.release (settled : Settled gate) (request : Nat) :
    Settled (gate.release request) := by
  simp only [RepositoryGate.release]
  split
  · exact settled
  · next lease found =>
    split
    · exact settled
    · next unreleased =>
      have consistent := settled.toConsistent
      have leaseMember := List.mem_of_find?_eq_some found
      have leaseRequest : lease.claim.request = request := by simpa using List.find?_some found
      have mapped := settled.leaseLive lease leaseMember (by simpa using unreleased)
      obtain ⟨held, exclusive, inLine⟩ := consistent.here mapped
      obtain ⟨heldDistinct, isHeld⟩ := consistent.held_once leaseMember (by simpa using unreleased)
      set left : RepositoryGate :=
        ({ gate with leases := markReleased request gate.leases } : RepositoryGate).setEntry lease.entry
          { gate.heap lease.entry with
            holders := spliceIndexOf (fun holder => holder.request == request) (gate.heap lease.entry).holders }
        with leftDef
      change Settled (left.drain lease.key lease.entry)
      have rewrites : Rewrites gate left lease.key lease.entry ⟨(gate.heap lease.entry).holders.filter
          fun holder => holder.request != request, (gate.heap lease.entry).waiters⟩ := by
        refine ⟨mapped, rfl, ?_⟩
        rw [← held] at heldDistinct isHeld
        have spliced := spliceIndexOf_eq_filter (fun claim : RepositoryClaim => claim.request) request _ heldDistinct
          (List.mem_map.mpr ⟨lease.claim, isHeld, leaseRequest⟩)
        simp [leftDef, RepositoryGate.setEntry, spliced]
      have leasesAtEq : ∀ other, left.leasesAt other = markReleased request (gate.leasesAt other) :=
        fun other => markReleased_filter_key request gate.leases other
      have grantedEq : ∀ other, left.grantedAt other = gate.grantedAt other := by
        intro other
        rw [RepositoryGate.grantedAt, leasesAtEq, markReleased_requests, RepositoryGate.grantedAt]
      have heldEq : ∀ other, left.heldAt other =
          (gate.heldAt other).filter fun claim => claim.request != request := by
        intro other
        rw [RepositoryGate.heldAt, leasesAtEq, markReleased_held, RepositoryGate.heldAt]
      have waitersSame : ∀ entry, (left.heap entry).waiters = (gate.heap entry).waiters := by
        intro entry
        by_cases same : entry = lease.entry
        · rw [same, rewrites.heap_same]
        · rw [rewrites.heap_other same]
      refine settled.drain (rewrites.sameElsewhere consistent) ?_ mapped
      exact {
        entryAllocated := settled.entryAllocated
        entryOwned := settled.entryOwned
        leaseLive := by
          intro other member unreleasedOther
          obtain ⟨before, beforeMember, rfl⟩ := List.mem_map.mp (show other ∈ markReleased request gate.leases from member)
          by_cases marked : before.claim.request == request
          · simp [marked] at unreleasedOther
          · simp only [marked] at unreleasedOther ⊢
            exact settled.leaseLive before beforeMember unreleasedOther
        listenerLive := by
          intro listener member
          obtain ⟨live, waiter, waits, same⟩ := settled.listenerLive listener member
          exact ⟨live, waiter, by rw [waitersSame]; exact waits, same⟩
        waiterListens := by
          intro other entry present waiter waits
          rw [waitersSame] at waits
          exact settled.waiterListens other entry present waiter waits
        holdersLeased := by
          apply rewrites.every_key consistent (motive := fun other value => value.holders = left.heldAt other)
          · rw [heldEq, held]
          · intro other different
            rw [heldEq other, settled.holdersLeased other]
            refine (List.filter_eq_self.mpr ?_).symm
            intro claim member
            obtain ⟨heldLease, heldMember, rfl⟩ := List.mem_map.mp member
            obtain ⟨granted, underKey⟩ := List.mem_filter.mp (List.mem_filter.mp heldMember).1
            simp only [bne_iff_ne, ne_eq]
            intro same
            have sameKey := consistent.lease_key leaseMember granted (same.trans leaseRequest.symm)
            exact different ((beq_iff_eq.mp underKey).symm.trans sameKey)
        fifo := by
          apply rewrites.every_key consistent
            (motive := fun other value => gate.unabortedAt other = left.grantedAt other ++ value.waiters.map _)
          · rw [grantedEq, inLine]
          · intro other _
            rw [grantedEq]
            exact settled.fifo other
        arrivalsDistinct := settled.arrivalsDistinct
        arrivalsIssued := settled.arrivalsIssued
        rejectedWaited := settled.rejectedWaited
        leaseArrived := by
          intro other member
          obtain ⟨before, beforeMember, rfl⟩ := List.mem_map.mp (show other ∈ markReleased request gate.leases from member)
          have arrived := settled.leaseArrived before beforeMember
          change _ ∈ gate.arrivals
          by_cases marked : before.claim.request == request <;> simpa [marked] using arrived
        exclusion := rewrites.exclusion consistent (exclusive.sublist List.filter_sublist) }

/-! ## Every reachable gate is settled -/

theorem Settled.empty : Settled .empty where
  entryAllocated := by intro key entry present; simp [RepositoryGate.empty] at present
  entryOwned := by intro key other entry present; simp [RepositoryGate.empty] at present
  leaseLive := by intro lease member; simp [RepositoryGate.empty] at member
  listenerLive := by intro listener member; simp [RepositoryGate.empty] at member
  waiterListens := by intro key entry present; simp [RepositoryGate.empty] at present
  holdersLeased := fun _ => rfl
  fifo := fun _ => rfl
  arrivalsDistinct := List.nodup_nil
  arrivalsIssued := by intro arrival member; simp [RepositoryGate.empty] at member
  rejectedWaited := by intro request member; simp [RepositoryGate.empty] at member
  leaseArrived := by intro lease member; simp [RepositoryGate.empty] at member
  exclusion := fun _ => List.Pairwise.nil
  headBlocked := by intro key head atHead; simp [RepositoryGate.entryAt, RepositoryGate.empty] at atHead
  entryBusy := by intro key entry present; simp [RepositoryGate.empty] at present

theorem Settled.apply (settled : Settled gate) (operation : GateOperation) :
    Settled (gate.apply operation) := by
  cases operation with
  | acquire key access owner abortSignal => exact settled.acquire key access owner abortSignal
  | abort abortSignal => exact settled.abort abortSignal
  | release request => exact settled.release request

theorem gateAfter_settled (operations : List GateOperation) : Settled (gateAfter operations) :=
  run_invariant Settled (fun _ operation settled => settled.apply operation) Settled.empty operations

end SiftKit.Repository
