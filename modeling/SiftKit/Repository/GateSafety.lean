import Mathlib.Data.List.Pairwise
import SiftKit.Repository.GateInvariant

/-! # Safety, order and progress of the repository gate

Read off the invariant: who may hold a repository together, in which order requests
are granted, that nobody compatible is left waiting, and what a lease is worth after
its release.
-/

namespace SiftKit.Repository

open SiftKit.Runs RepositoryGate

/-! ## Exclusion, holder by holder -/

theorem Exclusion.beside {holders : List RepositoryClaim} (exclusion : Exclusion holders)
    {holder other : RepositoryClaim} (isHolder : holder ∈ holders) (isOther : other ∈ holders)
    (different : other ≠ holder) (exclusive : holder.access = .exclusive) :
    other.access = .shared ∧ sameOwner holder other = true := by
  have tolerates : Tolerates holder other := exclusion.forall isHolder isOther (Ne.symm different)
  obtain ⟨oneShared, owned⟩ := tolerates (Or.inl exclusive)
  rcases oneShared with holderShared | otherShared
  · rw [exclusive] at holderShared; cases holderShared
  · exact ⟨otherShared, owned⟩

/-- Two holders that are not of one run coexist only among readers. -/
theorem Exclusion.strangers {holders : List RepositoryClaim} (exclusion : Exclusion holders)
    {left right : RepositoryClaim} (isLeft : left ∈ holders) (isRight : right ∈ holders) (different : left ≠ right)
    (strangers : sameOwner left right = false) : ∀ holder ∈ holders, holder.access = .shared := by
  intro holder isHolder
  cases access : holder.access with
  | shared => rfl
  | exclusive =>
    have ownedBy : ∀ other ∈ holders, other ≠ holder → other.owner = holder.owner ∧ holder.owner.isSome = true := by
      intro other isOther otherDifferent
      have owned := (exclusion.beside isHolder isOther otherDifferent access).2
      simp only [sameOwner, Bool.and_eq_true, beq_iff_eq] at owned
      exact ⟨owned.2.symm, owned.1⟩
    by_cases leftIs : left = holder
    · subst leftIs
      obtain ⟨owner, someone⟩ := ownedBy right isRight (Ne.symm different)
      simp [sameOwner, someone, owner] at strangers
    · obtain ⟨owner, someone⟩ := ownedBy left isLeft leftIs
      by_cases rightIs : right = holder
      · subst rightIs
        simp [sameOwner, someone, owner] at strangers
      · obtain ⟨rightOwner, _⟩ := ownedBy right isRight rightIs
        simp [sameOwner, owner, rightOwner, someone] at strangers

/-! ## Leases -/

variable {lease : RepositoryLease} {gate : RepositoryGate}

theorem Consistent.lease_unique (consistent : Consistent gate)
    {other : RepositoryLease} (isLease : lease ∈ gate.leases) (isOther : other ∈ gate.leases)
    (same : lease.claim.request = other.claim.request) : lease = other := by
  have arrived := consistent.leaseArrived lease isLease
  have alsoArrived := consistent.leaseArrived other isOther
  rw [same] at arrived
  have keys := consistent.arrival_key arrived alsoArrived
  have distinct := (List.nodup_append.mp (consistent.line_nodup lease.key)).1
  exact List.inj_on_of_nodup_map distinct (List.mem_filter.mpr ⟨isLease, by simp⟩)
    (List.mem_filter.mpr ⟨isOther, by simp [keys]⟩) same

/-- Releasing a released lease changes nothing at all. -/
theorem Consistent.release_released (consistent : Consistent gate)
    (isLease : lease ∈ gate.leases) (released : lease.released = true) : gate.release lease.claim.request = gate := by
  simp only [RepositoryGate.release]
  split
  · rfl
  · next found isFound =>
    have sameRequest : found.claim.request = lease.claim.request := by simpa using List.find?_some isFound
    obtain rfl := consistent.lease_unique (List.mem_of_find?_eq_some isFound) isLease sameRequest
    simp [released]

/-- A released lease stays on record, released. -/
def RetainsReleased (before after : RepositoryGate) : Prop :=
  ∀ lease ∈ before.leases, lease.released = true → lease ∈ after.leases

theorem RetainsReleased.trans {first second third : RepositoryGate} (early : RetainsReleased first second)
    (late : RetainsReleased second third) : RetainsReleased first third :=
  fun lease member released => late lease (early lease member released) released

theorem drainWaiters_retains (key : String) (entry : Nat) (waiters : List RepositoryWaiter)
    (gate : RepositoryGate) : RetainsReleased gate (drainWaiters key entry waiters gate) := by
  induction waiters generalizing gate with
  | nil => exact fun _ member _ => member
  | cons next rest ih =>
    simp only [drainWaiters]
    split
    · refine RetainsReleased.trans (fun lease member _ => ?_) (ih _)
      exact List.mem_append_left _ member
    · exact fun _ member _ => member

theorem drain_retains (key : String) (entry : Nat) (gate : RepositoryGate) :
    RetainsReleased gate (gate.drain key entry) := by
  have loop := drainWaiters_retains key entry (gate.heap entry).waiters gate
  simp only [drain]
  split <;> exact loop

theorem dispatchAbort_retains (listeners : List AbortListener) (gate : RepositoryGate) :
    RetainsReleased gate (dispatchAbort listeners gate) := by
  induction listeners generalizing gate with
  | nil => exact fun _ member _ => member
  | cons listener rest ih =>
    simp only [dispatchAbort]
    split
    · refine RetainsReleased.trans ?_ (ih _)
      exact fun lease member released => drain_retains _ _ _ lease member released
    · exact ih gate

theorem markReleased_retains {request : Nat} {leases : List RepositoryLease}
    (member : lease ∈ leases) (released : lease.released = true) : lease ∈ markReleased request leases := by
  refine List.mem_map.mpr ⟨lease, member, ?_⟩
  cases lease
  simp_all

theorem apply_retains (gate : RepositoryGate) (operation : GateOperation) :
    RetainsReleased gate (gate.apply operation) := by
  cases operation with
  | acquire canonicalRepositoryKey access owner abortSignal =>
    simp only [apply, RepositoryGate.acquire]
    cases canonicalRepositoryKey with
    | none => exact fun _ member _ => member
    | some key =>
      simp only
      split
      · exact fun _ member _ => member
      · refine RetainsReleased.trans (fun lease member _ => ?_) (drain_retains _ _ _)
        change lease ∈ (gate.entryFor key).2.leases
        simp only [entryFor]
        split <;> exact member
  | abort abortSignal =>
    simp only [apply, RepositoryGate.abort]
    split
    · exact fun _ member _ => member
    · exact fun lease member released => dispatchAbort_retains _ _ lease member released
  | release request =>
    simp only [apply, RepositoryGate.release]
    split
    · exact fun _ member _ => member
    · split
      · exact fun _ member _ => member
      · refine RetainsReleased.trans (fun lease member released => ?_) (drain_retains _ _ _)
        exact markReleased_retains member released

theorem Settled.release_records (settled : Settled gate)
    (isLease : lease ∈ gate.leases) :
    ∃ recorded ∈ (gate.release lease.claim.request).leases,
      recorded.claim.request = lease.claim.request ∧ recorded.released = true := by
  by_cases alreadyReleased : lease.released = true
  · rw [settled.toConsistent.release_released isLease alreadyReleased]
    exact ⟨lease, isLease, rfl, alreadyReleased⟩
  · simp only [RepositoryGate.release]
    split
    · next absent =>
      have contradiction := List.find?_eq_none.mp absent lease isLease
      simp at contradiction
    · next found isFound =>
      have sameRequest : found.claim.request = lease.claim.request := by simpa using List.find?_some isFound
      obtain rfl := settled.toConsistent.lease_unique (List.mem_of_find?_eq_some isFound) isLease sameRequest
      rw [if_neg alreadyReleased]
      refine ⟨{ found with released := true }, drain_retains _ _ _ _ ?_ rfl, rfl, rfl⟩
      change _ ∈ markReleased found.claim.request gate.leases
      exact List.mem_map.mpr ⟨found, isLease, by simp⟩

/-! ## The gate's contract -/

/--
For every sequence of operations on a new gate and every key: exclusion among the
holders, grants in queue order among the requests no abort removed, a blocked head and
no idle entry, the holders exactly the granted and unreleased claims, and nothing left to
release once a lease has been released, whatever happens in between.
-/
theorem repositoryGate_contract (operations : List GateOperation) (key : String) :
    let gate := gateAfter operations
    let entry := gate.entryAt key
    (∀ holder ∈ entry.holders, holder.access = .exclusive → ∀ other ∈ entry.holders, other ≠ holder →
      other.access = .shared ∧ sameOwner holder other = true) ∧
    (∀ left ∈ entry.holders, ∀ right ∈ entry.holders, left ≠ right → sameOwner left right = false →
      ∀ holder ∈ entry.holders, holder.access = .shared) ∧
    ((gate.arrivedAt key).Nodup ∧
      (gate.arrivedAt key).filter (fun request => !gate.rejections.contains request) =
        gate.grantedAt key ++ entry.waiters.map fun waiter => waiter.request) ∧
    (∀ head, entry.waiters.head? = some head →
      isCompatible head.toRepositoryClaim entry.holders = false) ∧
    (∀ identity, gate.entries key = some identity → entry.holders ≠ [] ∨ entry.waiters ≠ []) ∧
    entry.holders =
      ((gate.leasesAt key).filter fun lease => !lease.released).map RepositoryLease.claim ∧
    (∀ request ∈ gate.grantedAt key, ∀ later : List GateOperation,
      (gateAfter (operations ++ .release request :: later)).release request =
        gateAfter (operations ++ .release request :: later)) := by
  have settled := gateAfter_settled operations
  refine ⟨?_, ?_, ⟨settled.arrivedAt_nodup key, settled.fifo key⟩, settled.headBlocked key, ?_,
    settled.holdersLeased key, ?_⟩
  · intro holder isHolder exclusive other isOther different
    exact (settled.exclusion key).beside isHolder isOther different exclusive
  · intro left isLeft right isRight different strangers
    exact (settled.exclusion key).strangers isLeft isRight different strangers
  · intro identity mapped
    rw [entryAt_eq mapped]
    exact settled.entryBusy key identity mapped
  · intro request granted later
    obtain ⟨lease, member, rfl⟩ := List.mem_map.mp granted
    obtain ⟨recorded, isRecorded, sameRequest, released⟩ :=
      settled.release_records (List.mem_filter.mp member).1
    have kept : RetainsReleased ((gateAfter operations).release lease.claim.request)
        (gateAfter (operations ++ .release lease.claim.request :: later)) := by
      rw [show gateAfter (operations ++ .release lease.claim.request :: later) =
        run apply ((gateAfter operations).release lease.claim.request) later from
          run_append _ _ _ _]
      exact run_related RetainsReleased (fun _ _ isLease _ => isLease)
        (fun _ _ _ early late => early.trans late) apply_retains _ later
    have again := (gateAfter_settled (operations ++ .release lease.claim.request :: later)).toConsistent.release_released
      (kept recorded isRecorded released) released
    rwa [sameRequest] at again

end SiftKit.Repository
