import Mathlib.Data.List.Basic

/-! # Dependency orders

Nodes with lists of dependencies.  A *dependency order* lists a node only behind
everything the node depends on; a set of nodes that has one has no cycle, and whatever
part of it is done, some undone node has only done dependencies.
-/

namespace SiftKit.Dependencies

variable {Node : Type}

inductive DependencyOrder (dependencies : Node → List Node) : List Node → Prop where
  | nil : DependencyOrder dependencies []
  | snoc {order : List Node} {node : Node} (ordered : DependencyOrder dependencies order)
      (ready : ∀ dependency ∈ dependencies node, dependency ∈ order) :
      DependencyOrder dependencies (order ++ [node])

namespace DependencyOrder

variable {dependencies : Node → List Node} {order : List Node}

theorem exists_ready (ordered : DependencyOrder dependencies order) (done : Node → Prop)
    {undone : Node} (member : undone ∈ order) (notDone : ¬done undone) :
    ∃ node ∈ order, ¬done node ∧ ∀ dependency ∈ dependencies node, done dependency := by
  induction ordered generalizing undone with
  | nil => cases member
  | snoc ordered ready ih =>
    rename_i earlier last
    by_cases pending : ∃ node ∈ earlier, ¬done node
    · obtain ⟨node, nodeMember, nodeNotDone⟩ := pending
      obtain ⟨found, foundMember, isReady⟩ := ih nodeMember nodeNotDone
      exact ⟨found, List.mem_append_left _ foundMember, isReady⟩
    · -- Everything before the last node is done, so the last one is the undone node and is ready.
      have earlierDone : ∀ node ∈ earlier, done node := fun node nodeMember =>
        Classical.byContradiction fun nodeNotDone => pending ⟨node, nodeMember, nodeNotDone⟩
      cases List.mem_append.mp member with
      | inl before => exact absurd (earlierDone undone before) notDone
      | inr here =>
        have isLast : undone = last := List.mem_singleton.mp here
        exact ⟨undone, member, notDone, fun dependency depends =>
          earlierDone dependency (ready dependency (isLast ▸ depends))⟩

theorem idxOf_lt [DecidableEq Node] (ordered : DependencyOrder dependencies order) {node dependency : Node}
    (member : node ∈ order) (depends : dependency ∈ dependencies node) : order.idxOf dependency < order.idxOf node := by
  induction ordered with
  | nil => cases member
  | snoc ordered ready ih =>
    rename_i earlier last
    by_cases before : node ∈ earlier
    · have first := ih before
      have isBefore := List.idxOf_lt_length_iff.mp (Nat.lt_trans first (List.idxOf_lt_length_of_mem before))
      rwa [List.idxOf_append_of_mem before, List.idxOf_append_of_mem isBefore]
    · have isLast : node = last := by simpa [before] using member
      have isBefore := ready dependency (isLast ▸ depends)
      rw [List.idxOf_append_of_mem isBefore, List.idxOf_append_of_notMem before]
      exact Nat.lt_of_lt_of_le (List.idxOf_lt_length_of_mem isBefore) (Nat.le_add_right _ _)

end DependencyOrder

end SiftKit.Dependencies
