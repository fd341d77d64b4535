import Mathlib.Data.List.Induction
import SiftKit.Foundation.Traversal

/-! # The process tree

How a process is terminated with its descendants where `taskkill` is denied: the descendants in a snapshot of all
processes, deepest first, and then the process itself.
-/

namespace SiftKit.ProcessTree

open Relation SiftKit.Traversal

structure WindowsProcessEntry where
  ProcessId : Nat
  ParentProcessId : Nat

/-- `childrenByParent.get(pid) ?? []`: the map lists the children of a parent in the order of their entries. -/
def childrenOf (entries : List WindowsProcessEntry) (pid : Nat) : List Nat :=
  (entries.filter fun entry => entry.ParentProcessId == pid).map WindowsProcessEntry.ProcessId

structure Progress where
  visited : List Nat
  ordered : List Nat

/-- The loop of `visit`. -/
def visitChildren (visitNext : Nat → Progress → Option Progress) : List Nat → Progress → Option Progress
  | [], progress => some progress
  | childPid :: rest, progress =>
    if progress.visited.contains childPid then visitChildren visitNext rest progress
    else do
      let below ← visitNext childPid { progress with visited := childPid :: progress.visited }
      visitChildren visitNext rest { below with ordered := below.ordered ++ [childPid] }

/-- `visit`; `fuel` bounds the depth of the recursion, and nothing comes back where it would go deeper. -/
def visit (entries : List WindowsProcessEntry) : Nat → Nat → Progress → Option Progress
  | 0, _, _ => none
  | fuel + 1, pid, progress => visitChildren (visit entries fuel) (childrenOf entries pid) progress

def orderDescendantProcessIds (rootPid : Nat) (entries : List WindowsProcessEntry) : Option (List Nat) :=
  (visit entries (entries.length + 1) rootPid ⟨[rootPid], []⟩).map Progress.ordered

/-- The signals that were sent, and whether a process took one. -/
structure Termination where
  signalled : List Nat
  terminated : Bool

/-- One `kill`, which answers or throws (`none`) by what was sent before; what it throws is caught. -/
def signal (kill : List Nat → Nat → Option Bool) (termination : Termination) (pid : Nat) : Termination where
  signalled := termination.signalled ++ [pid]
  terminated := termination.terminated || kill termination.signalled pid == some true

/-- There is no snapshot where its helper fails, or prints something else. -/
def terminateWindowsFallback (kill : List Nat → Nat → Option Bool) (rootPid : Nat)
    (snapshot : Option (List WindowsProcessEntry)) : Option Termination := do
  let descendants ← match snapshot with
    | some entries => orderDescendantProcessIds rootPid entries
    | none => some []
  return signal kill (descendants.foldl (signal kill) ⟨[], false⟩) rootPid

/-! ## One traversal -/

variable {entries : List WindowsProcessEntry} {rootPid pid childPid : Nat} {progress below : Progress}

def IsParent (entries : List WindowsProcessEntry) (parent child : Nat) : Prop :=
  ∃ entry ∈ entries, entry.ParentProcessId = parent ∧ entry.ProcessId = child

@[simp] theorem mem_childrenOf : childPid ∈ childrenOf entries pid ↔ IsParent entries pid childPid := by
  simp [childrenOf, IsParent, and_assoc]

/-- Parent links lead from the first process to the second. -/
abbrev Reaches (entries : List WindowsProcessEntry) : Nat → Nat → Prop := ReflTransGen (IsParent entries)

/-- Marked and not listed: the process is on the way from the root to the one that is visited. -/
def Progress.Open (progress : Progress) (pid : Nat) : Prop := pid ∈ progress.visited ∧ pid ∉ progress.ordered

/-- Between two children of a process. -/
structure Visiting (entries : List WindowsProcessEntry) (rootPid pid : Nat) (progress : Progress) : Prop where
  here : pid ∈ progress.visited
  unique : progress.visited.Nodup
  marked : progress.ordered ⊆ progress.visited
  once : progress.ordered.Nodup
  reached : ∀ known ∈ progress.visited, Reaches entries rootPid known
  path : ∀ above, progress.Open above → Reaches entries above pid
  closed : ∀ listed ∈ progress.ordered, ∀ child, IsParent entries listed child →
    child ∈ progress.visited ∧ (child ∈ progress.ordered ∨ Reaches entries child listed)
  deepest : progress.ordered.Pairwise fun early late => IsParent entries early late → Reaches entries late early

/-- What the visits of some children have done; none of them is left open. -/
structure Explored (children : List Nat) (before after : Progress) : Prop where
  kept : before.visited <:+ after.visited
  sameOpen : ∀ pid, after.Open pid ↔ before.Open pid
  marked : children ⊆ after.visited

/-- A marked process is the root or has an entry. -/
theorem Visiting.few (visiting : Visiting entries rootPid pid progress) : progress.visited.length ≤ entries.length + 1 := by
  have known : progress.visited ⊆ rootPid :: entries.map WindowsProcessEntry.ProcessId := by
    intro marked isMarked
    cases ReflTransGen.cases_tail (visiting.reached marked isMarked) with
    | inl isRoot => simp [isRoot]
    | inr linked =>
      obtain ⟨_, _, entry, member, _, rfl⟩ := linked
      exact List.mem_cons_of_mem _ (List.mem_map_of_mem member)
  simpa using (List.subperm_of_subset visiting.unique known).length_le

theorem Visiting.enter (visiting : Visiting entries rootPid pid progress) (isChild : IsParent entries pid childPid)
    (fresh : childPid ∉ progress.visited) :
    Visiting entries rootPid childPid { progress with visited := childPid :: progress.visited } where
  here := List.mem_cons_self
  unique := List.nodup_cons.mpr ⟨fresh, visiting.unique⟩
  marked := fun _ listed => List.mem_cons_of_mem _ (visiting.marked listed)
  once := visiting.once
  reached := List.forall_mem_cons.mpr ⟨(visiting.reached pid visiting.here).tail isChild, visiting.reached⟩
  path := by
    rintro above ⟨isMarked, unlisted⟩
    cases List.mem_cons.mp isMarked with
    | inl here => exact here ▸ .refl
    | inr earlier => exact (visiting.path above ⟨earlier, unlisted⟩).tail isChild
  closed := fun listed isListed child link => (visiting.closed listed isListed child link).imp_left (List.mem_cons_of_mem _)
  deepest := visiting.deepest

/-- A process is listed when its children are marked; a child that is not listed by then is on the way to it. -/
theorem Visiting.leave (visiting : Visiting entries rootPid pid progress) (fresh : childPid ∉ progress.visited)
    (inside : Visiting entries rootPid childPid below)
    (done : Explored (childrenOf entries childPid) { progress with visited := childPid :: progress.visited } below) :
    Visiting entries rootPid pid { below with ordered := below.ordered ++ [childPid] } := by
  have stillOpen := (done.sameOpen childPid).mpr ⟨List.mem_cons_self, fun listed => fresh (visiting.marked listed)⟩
  constructor
  · exact done.kept.subset (List.mem_cons_of_mem _ visiting.here)
  · exact inside.unique
  · simpa using ⟨inside.marked, stillOpen.1⟩
  · simpa using inside.once.concat stillOpen.2
  · exact inside.reached
  · rintro above ⟨isMarked, unlisted⟩
    simp only [List.mem_append, List.mem_singleton, not_or] at unlisted
    have wasOpen := (done.sameOpen above).mp ⟨isMarked, unlisted.1⟩
    exact visiting.path above ⟨List.mem_of_ne_of_mem unlisted.2 wasOpen.1, wasOpen.2⟩
  · intro listed isListed child link
    cases List.mem_append.mp isListed with
    | inl earlier => exact (inside.closed listed earlier child link).imp_right (·.imp_left (List.mem_append_left _))
    | inr here =>
      obtain rfl := List.mem_singleton.mp here
      have isMarked := done.marked (mem_childrenOf.mpr link)
      by_cases earlier : child ∈ below.ordered
      · exact ⟨isMarked, .inl (List.mem_append_left _ earlier)⟩
      · exact ⟨isMarked, .inr (inside.path child ⟨isMarked, earlier⟩)⟩
  · refine List.pairwise_append.mpr ⟨inside.deepest, List.pairwise_singleton _ _, ?_⟩
    intro early isEarly late isLate link
    obtain rfl := List.mem_singleton.mp isLate
    exact (inside.closed early isEarly late link).2.resolve_left stillOpen.2

/-- Every level of the recursion has marked one more process, so there is fuel for the next one. -/
theorem visitChildren_returns {fuel : Nat}
    (nextReturns : ∀ {childPid progress}, Visiting entries rootPid childPid progress →
      entries.length + 2 ≤ fuel + progress.visited.length → ∃ after, visit entries fuel childPid progress = some after ∧
        Visiting entries rootPid childPid after ∧ Explored (childrenOf entries childPid) progress after)
    {remaining : List Nat} (own : ∀ child ∈ remaining, IsParent entries pid child)
    (visiting : Visiting entries rootPid pid progress) (room : entries.length + 2 ≤ fuel + 1 + progress.visited.length) :
    ∃ after, visitChildren (visit entries fuel) remaining progress = some after ∧
      Visiting entries rootPid pid after ∧ Explored remaining progress after := by
  induction remaining generalizing progress with
  | nil => exact ⟨progress, rfl, visiting, List.suffix_refl _, fun _ => Iff.rfl, List.nil_subset _⟩
  | cons childPid rest ih =>
    obtain ⟨isChild, ownRest⟩ := List.forall_mem_cons.mp own
    by_cases isMarked : childPid ∈ progress.visited
    · obtain ⟨after, returned, visitingAfter, done⟩ := ih ownRest visiting room
      exact ⟨after, by simp [visitChildren, isMarked, returned], visitingAfter, done.kept, done.sameOpen,
        List.cons_subset.mpr ⟨done.kept.subset isMarked, done.marked⟩⟩
    · obtain ⟨below, belowReturned, inside, belowDone⟩ := nextReturns (visiting.enter isChild isMarked)
        (by rw [List.length_cons]; omega)
      have grown := belowDone.kept.length_le
      rw [List.length_cons] at grown
      obtain ⟨after, returned, visitingAfter, done⟩ := ih ownRest (visiting.leave isMarked inside belowDone)
        (by simp only; omega)
      have kept := belowDone.kept.trans done.kept
      refine ⟨after, by simp [visitChildren, isMarked, belowReturned, returned], visitingAfter,
        (List.suffix_cons _ _).trans kept, ?_, List.cons_subset.mpr ⟨kept.subset List.mem_cons_self, done.marked⟩⟩
      -- the child was opened and listed; every other process is as open as it was
      intro other
      rw [done.sameOpen]
      have opened := belowDone.sameOpen other
      simp only [Progress.Open, List.mem_append, List.mem_cons, List.not_mem_nil] at opened ⊢
      grind

theorem visit_returns {fuel : Nat} (visiting : Visiting entries rootPid pid progress)
    (room : entries.length + 2 ≤ fuel + progress.visited.length) :
    ∃ after, visit entries fuel pid progress = some after ∧ Visiting entries rootPid pid after ∧
      Explored (childrenOf entries pid) progress after := by
  induction fuel generalizing pid progress with
  | zero =>
    -- more processes would be marked than there are
    have few := visiting.few
    omega
  | succ fuel ih => exact visitChildren_returns ih (fun _ => mem_childrenOf.mp) visiting room

/-! ## The order -/

/-- The entries below a root are a tree: none of them is the root again, and each process has one parent. -/
structure ReachableTree (rootPid : Nat) (entries : List WindowsProcessEntry) : Prop where
  root_top : ∀ parent, Reaches entries rootPid parent → ¬IsParent entries parent rootPid
  one_parent : ∀ first second child, Reaches entries rootPid first → Reaches entries rootPid second →
    IsParent entries first child → IsParent entries second child → first = second

theorem ReachableTree.acyclic (tree : ReachableTree rootPid entries) (reached : Reaches entries rootPid pid) :
    ¬TransGen (IsParent entries) pid pid := by
  induction reached with
  | refl =>
    intro cycle
    obtain ⟨last, before, step⟩ := TransGen.tail'_iff.mp cycle
    exact tree.root_top last before step
  | tail reached step ih =>
    intro cycle
    obtain ⟨last, before, lastStep⟩ := TransGen.tail'_iff.mp cycle
    have same := tree.one_parent _ _ _ ((reached.tail step).trans before) reached lastStep step
    exact ih (TransGen.head' step (same ▸ before))

/-- The descendants are the reachable processes, each once, and in a tree every process before its parent. -/
structure ListsDescendants (rootPid : Nat) (entries : List WindowsProcessEntry) (ordered : List Nat) : Prop where
  once : ordered.Nodup
  mem_iff : ∀ pid, pid ∈ ordered ↔ pid ≠ rootPid ∧ Reaches entries rootPid pid
  deepestFirst : ReachableTree rootPid entries → ∀ parent ∈ ordered, ∀ child ∈ ordered, IsParent entries parent child →
    ordered.idxOf child < ordered.idxOf parent

theorem orderDescendantProcessIds_exact (rootPid : Nat) (entries : List WindowsProcessEntry) :
    ∃ ordered, orderDescendantProcessIds rootPid entries = some ordered ∧ ListsDescendants rootPid entries ordered := by
  have starting : Visiting entries rootPid rootPid ⟨[rootPid], []⟩ := by
    constructor <;> simp [Progress.Open, ReflTransGen.refl]
  obtain ⟨after, returned, visiting, done⟩ := @visit_returns entries rootPid rootPid _ (entries.length + 1) starting (by simp)
  -- only the root is still open
  have openIff : ∀ pid, after.Open pid ↔ pid = rootPid := by
    intro pid
    rw [done.sameOpen]
    simp [Progress.Open]
  have rootOpen := (openIff rootPid).mpr rfl
  have listed_iff : ∀ pid, pid ∈ after.ordered ↔ pid ≠ rootPid ∧ pid ∈ after.visited := by
    intro pid
    have isOpen := openIff pid
    have isMarked := @visiting.marked pid
    unfold Progress.Open at isOpen
    grind
  have closed : ∀ parent child, parent ∈ after.visited → IsParent entries parent child → child ∈ after.visited := by
    intro parent child isMarked link
    by_cases isRoot : parent = rootPid
    · exact done.marked (mem_childrenOf.mpr (isRoot ▸ link))
    · exact (visiting.closed parent ((listed_iff parent).mpr ⟨isRoot, isMarked⟩) child link).1
  refine ⟨after.ordered, by simp [orderDescendantProcessIds, returned], visiting.once, fun pid => ?_, ?_⟩
  · rw [listed_iff]
    exact and_congr_right fun _ => ⟨visiting.reached pid, reachable_within rootOpen.1 closed⟩
  · intro tree parent parentListed child childListed link
    -- a parent in front of its child would be reached from it
    by_contra behind
    have cycle : Reaches entries child parent := by
      rcases Nat.eq_or_lt_of_le (Nat.not_lt.mp behind) with same | later
      · exact (List.idxOf_inj parentListed).mp same ▸ .refl
      · have ranked := List.pairwise_iff_getElem.mp visiting.deepest _ _ (List.idxOf_lt_length_of_mem parentListed)
          (List.idxOf_lt_length_of_mem childListed) later
        simp only [List.getElem_idxOf] at ranked
        exact ranked link
    exact tree.acyclic (visiting.reached parent (visiting.marked parentListed)) (TransGen.head' link cycle)

/-! ## The signals -/

variable {kill : List Nat → Nat → Option Bool}

theorem signal_each (kill : List Nat → Nat → Option Bool) (pids : List Nat) :
    (pids.foldl (signal kill) ⟨[], false⟩).signalled = pids ∧
      ((pids.foldl (signal kill) ⟨[], false⟩).terminated = true ↔
        ∃ early pid, early ++ [pid] <+: pids ∧ kill early pid = some true) := by
  induction pids using List.reverseRecOn with
  | nil => simp
  | append_singleton pids last ih =>
    obtain ⟨signalled, terminated⟩ := ih
    rw [List.foldl_append]
    constructor
    · simp [signal, signalled]
    · simp [signal, signalled, terminated, List.prefix_concat_iff, or_and_right, exists_or, or_comm]

/-- Whatever the processes answer: each descendant gets one signal, the root the last one, and nothing else gets any. -/
theorem terminateWindowsFallback_exact (kill : List Nat → Nat → Option Bool) (rootPid : Nat)
    (snapshot : Option (List WindowsProcessEntry)) :
    ∃ ordered terminated, terminateWindowsFallback kill rootPid snapshot = some ⟨ordered ++ [rootPid], terminated⟩ ∧
      ListsDescendants rootPid (snapshot.getD []) ordered ∧
      (terminated = true ↔ ∃ early pid, early ++ [pid] <+: ordered ++ [rootPid] ∧ kill early pid = some true) := by
  obtain ⟨ordered, returned, lists⟩ := orderDescendantProcessIds_exact rootPid (snapshot.getD [])
  obtain ⟨signalled, terminated⟩ := signal_each kill (ordered ++ [rootPid])
  refine ⟨ordered, _, ?_, lists, terminated⟩
  rw [List.foldl_append] at signalled ⊢
  cases snapshot with
  | none =>
    obtain rfl : [] = ordered := Option.some.inj returned
    simp [terminateWindowsFallback, signal]
  | some entries =>
    simp only [Option.getD_some] at returned
    simp [terminateWindowsFallback, returned, signal, (signal_each kill ordered).1]

end SiftKit.ProcessTree
