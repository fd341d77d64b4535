import SiftKit.Foundation.FifoLine
import SiftKit.Foundation.Runs

/-! # The repository gate

`RepositoryGate` of `status-server/orchestrator-runs.ts`: shared readers overlap,
and one exclusive holder overlaps only its own run's readers.  JavaScript object
identity is kept: a claim is known by the `acquire` call that made it, and every
closure (`onAbort`, `release`) holds the entry object it was created with, which
need not be the one the map has under the key when the closure runs.
-/

namespace SiftKit.Repository

open SiftKit.Runs

inductive RepositoryAccess where
  | shared
  | exclusive
  deriving DecidableEq, Repr

/-- One held or requested access; `request` is the identity of the claim object. -/
structure RepositoryClaim where
  request : Nat
  access : RepositoryAccess
  owner : Option String
  deriving DecidableEq, Repr

structure RepositoryWaiter extends RepositoryClaim where
  abortSignal : Nat
  deriving DecidableEq, Repr

structure RepositoryEntry where
  holders : List RepositoryClaim
  waiters : List RepositoryWaiter
  deriving DecidableEq, Repr

def sameOwner (left right : RepositoryClaim) : Bool :=
  left.owner.isSome && left.owner == right.owner

def isCompatible (next : RepositoryClaim) (holders : List RepositoryClaim) : Bool :=
  if holders.isEmpty then true
  else match next.access with
    | .shared => holders.all fun holder => holder.access == .shared || sameOwner holder next
    | .exclusive => holders.all fun holder => holder.access == .shared && sameOwner holder next

/-- `items.splice(items.indexOf(item), 1)`: an absent item has index -1, which removes the last one. -/
def spliceIndexOf {Item : Type} (isItem : Item → Bool) (items : List Item) : List Item :=
  match items.findIdx? isItem with
  | some index => items.eraseIdx index
  | none => items.dropLast

/-- A registered `onAbort` closure. -/
structure AbortListener where
  abortSignal : Nat
  key : String
  entry : Nat
  request : Nat
  deriving DecidableEq, Repr

/-- A granted `RepositoryLease` with what its `release` closure captured. -/
structure RepositoryLease where
  key : String
  entry : Nat
  claim : RepositoryClaim
  released : Bool
  deriving DecidableEq, Repr

/--
The gate and the closures it has handed out.  `entries` is the map and `heap` the
entry objects; `leases` are in grant order.  `arrivals` and `rejections` only record
history: which requests were queued under which key, and which were aborted there.
-/
structure RepositoryGate where
  entries : String → Option Nat
  heap : Nat → RepositoryEntry
  nextEntry : Nat
  nextRequest : Nat
  abortedSignals : List Nat
  listeners : List AbortListener
  leases : List RepositoryLease
  arrivals : List (String × Nat)
  rejections : List Nat

namespace RepositoryGate

def empty : RepositoryGate where
  entries := fun _ => none
  heap := fun _ => ⟨[], []⟩
  nextEntry := 0
  nextRequest := 0
  abortedSignals := []
  listeners := []
  leases := []
  arrivals := []
  rejections := []

def setEntry (gate : RepositoryGate) (entry : Nat) (value : RepositoryEntry) : RepositoryGate :=
  { gate with heap := Function.update gate.heap entry value }

/-- `waiter.grant()`: the listener goes, the claim is held, and the lease resolves. -/
def grant (key : String) (entry : Nat) (waiter : RepositoryWaiter) (gate : RepositoryGate) :
    RepositoryGate :=
  let claim := waiter.toRepositoryClaim
  let removed := { gate with
    listeners := gate.listeners.filter fun listener => listener.request != waiter.request }
  let held := removed.setEntry entry
    { removed.heap entry with holders := (removed.heap entry).holders ++ [claim] }
  { held with leases := held.leases ++ [⟨key, entry, claim, false⟩] }

/-- `entry.waiters.shift()`. -/
def shiftWaiter (entry : Nat) (gate : RepositoryGate) : RepositoryGate :=
  gate.setEntry entry { gate.heap entry with waiters := (gate.heap entry).waiters.tail }

/-- The loop of `drain` over the entry's waiters, as they stand when it starts. -/
def drainWaiters (key : String) (entry : Nat) : List RepositoryWaiter → RepositoryGate → RepositoryGate
  | [], gate => gate
  | next :: rest, gate =>
    if isCompatible next.toRepositoryClaim (gate.heap entry).holders then
      drainWaiters key entry rest ((gate.shiftWaiter entry).grant key entry next)
    else gate

def drain (key : String) (entry : Nat) (gate : RepositoryGate) : RepositoryGate :=
  let drained := drainWaiters key entry (gate.heap entry).waiters gate
  if (drained.heap entry).holders.isEmpty && (drained.heap entry).waiters.isEmpty then
    { drained with entries := Function.update drained.entries key none }
  else drained

/-- `this.entries.get(key) ?? { holders: [], waiters: [] }`, then `this.entries.set(key, entry)`. -/
def entryFor (key : String) (gate : RepositoryGate) : Nat × RepositoryGate :=
  match gate.entries key with
  | some entry => (entry, gate)
  | none => (gate.nextEntry,
      { gate.setEntry gate.nextEntry ⟨[], []⟩ with
        nextEntry := gate.nextEntry + 1
        entries := Function.update gate.entries key (some gate.nextEntry) })

/-- `entry.waiters.push(waiter)` and the registration of its `onAbort`. -/
def enqueue (key : String) (entry : Nat) (waiter : RepositoryWaiter) (gate : RepositoryGate) :
    RepositoryGate :=
  let pushed := gate.setEntry entry
    { gate.heap entry with waiters := (gate.heap entry).waiters ++ [waiter] }
  { pushed with
    nextRequest := gate.nextRequest + 1
    listeners := gate.listeners ++ [⟨waiter.abortSignal, key, entry, waiter.request⟩]
    arrivals := gate.arrivals ++ [(key, waiter.request)] }

/--
`acquire`.  `canonicalRepositoryKey` asks the file system, so its answer is an input:
`none` when it throws, and then, as for a signal that has already aborted, the returned
promise rejects and the gate is untouched.
-/
def acquire (canonicalRepositoryKey : Option String) (access : RepositoryAccess)
    (owner : Option String) (abortSignal : Nat) (gate : RepositoryGate) : RepositoryGate :=
  match canonicalRepositoryKey with
  | none => gate
  | some key =>
    if gate.abortedSignals.contains abortSignal then gate
    else
      let found := gate.entryFor key
      let waiter : RepositoryWaiter := ⟨⟨found.2.nextRequest, access, owner⟩, abortSignal⟩
      (found.2.enqueue key found.1 waiter).drain key found.1

/-- The `onAbort` closure: leave the line, let others in, reject. -/
def onAbort (listener : AbortListener) (gate : RepositoryGate) : RepositoryGate :=
  let entry := gate.heap listener.entry
  let left := gate.setEntry listener.entry
    { entry with waiters := spliceIndexOf (fun waiter => waiter.request == listener.request) entry.waiters }
  let drained := left.drain listener.key listener.entry
  { drained with rejections := drained.rejections ++ [listener.request] }

/--
Dispatch of one abort event to the listeners present when it fires.  A listener that an
earlier one removed (its waiter was granted meanwhile) is skipped; `once` removes it first.
-/
def dispatchAbort : List AbortListener → RepositoryGate → RepositoryGate
  | [], gate => gate
  | listener :: rest, gate =>
    if gate.listeners.contains listener then
      dispatchAbort rest (onAbort listener
        { gate with listeners := gate.listeners.filter fun other => other != listener })
    else dispatchAbort rest gate

/-- `AbortController.abort()`: only the first call dispatches. -/
def abort (abortSignal : Nat) (gate : RepositoryGate) : RepositoryGate :=
  if gate.abortedSignals.contains abortSignal then gate
  else dispatchAbort (gate.listeners.filter fun listener => listener.abortSignal == abortSignal)
    { gate with abortedSignals := abortSignal :: gate.abortedSignals }

/-- `lease.release()` of the lease granted to `request`; before the grant there is no lease to call. -/
def release (request : Nat) (gate : RepositoryGate) : RepositoryGate :=
  match gate.leases.find? fun lease => lease.claim.request == request with
  | none => gate
  | some lease =>
    if lease.released then gate
    else
      let marked := { gate with leases := gate.leases.map fun (other : RepositoryLease) =>
        if other.claim.request == request then { other with released := true } else other }
      let entry := marked.heap lease.entry
      let removed := marked.setEntry lease.entry
        { entry with holders := spliceIndexOf (fun holder => holder.request == request) entry.holders }
      removed.drain lease.key lease.entry

end RepositoryGate

/-- What the gate's users can do to it. -/
inductive GateOperation where
  | acquire (canonicalRepositoryKey : Option String) (access : RepositoryAccess)
      (owner : Option String) (abortSignal : Nat)
  | abort (abortSignal : Nat)
  | release (request : Nat)
  deriving DecidableEq, Repr

def RepositoryGate.apply (gate : RepositoryGate) : GateOperation → RepositoryGate
  | .acquire key access owner abortSignal => gate.acquire key access owner abortSignal
  | .abort abortSignal => gate.abort abortSignal
  | .release request => gate.release request

/-- The gate after a sequence of operations on a new one. -/
def gateAfter (operations : List GateOperation) : RepositoryGate :=
  run RepositoryGate.apply .empty operations

/-! ## What a key's users see -/

namespace RepositoryGate

/-- The entry the map has under a key; a key without one is an idle repository. -/
def entryAt (gate : RepositoryGate) (key : String) : RepositoryEntry :=
  match gate.entries key with
  | some entry => gate.heap entry
  | none => ⟨[], []⟩

/-- The requests queued under a key, in order. -/
def arrivedAt (gate : RepositoryGate) (key : String) : List Nat :=
  (gate.arrivals.filter fun arrival => arrival.1 == key).map Prod.snd

/-- The leases granted under a key, in grant order. -/
def leasesAt (gate : RepositoryGate) (key : String) : List RepositoryLease :=
  gate.leases.filter fun lease => lease.key == key

/-- The requests granted under a key, in grant order. -/
def grantedAt (gate : RepositoryGate) (key : String) : List Nat :=
  (gate.leasesAt key).map fun lease => lease.claim.request

end RepositoryGate

end SiftKit.Repository
