import Mathlib.Data.List.Nodup
import Mathlib.Data.List.Perm.Subperm

/-! # Traversals

Nodes within a number of hops of a root, and what a bounded fetch of distinct items tells about all of them.
-/

namespace SiftKit.Traversal

variable {Node Item : Type}

/-! ## Hops -/

/-- A node at the end of so many hops from the root. -/
inductive Hops (adjacent : Node → Node → Prop) (root : Node) : Nat → Node → Prop
  | root : Hops adjacent root 0 root
  | hop {hops : Nat} {node next : Node} (before : Hops adjacent root hops node) (step : adjacent node next) :
      Hops adjacent root (hops + 1) next

variable {adjacent : Node → Node → Prop}

theorem Hops.reachable {root node : Node} {hops : Nat} (reached : Hops adjacent root hops node) :
    Relation.ReflTransGen adjacent root node := by
  induction reached with
  | root => exact .refl
  | hop _ step ih => exact ih.tail step

theorem reachable_within {visited : Node → Prop} {root node : Node} (isRoot : visited root)
    (closed : ∀ early late, visited early → adjacent early late → visited late)
    (reached : Relation.ReflTransGen adjacent root node) : visited node := by
  induction reached with
  | refl => exact isRoot
  | tail _ step ih => exact closed _ _ ih step

/-! ## Bounded fetches -/

theorem take_eq_of_few {items : List Item} {limit : Nat} (few : (items.take (limit + 1)).length ≤ limit) :
    items.take (limit + 1) = items := by
  rw [List.length_take] at few
  exact List.take_of_length_le (by omega)

theorem subset_of_take_subset {items known : List Item} (distinct : items.Nodup)
    (fetched : items.take (known.length + 1) ⊆ known) : items ⊆ known := by
  have few : (items.take (known.length + 1)).length ≤ known.length :=
    (List.subperm_of_subset (distinct.sublist (List.take_sublist _ _)) fetched).length_le
  rwa [take_eq_of_few few] at fetched

end SiftKit.Traversal
