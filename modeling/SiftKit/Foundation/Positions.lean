import Mathlib.Data.List.Sort
import Mathlib.Data.List.Dedup
import Mathlib.Data.List.Perm.Basic
import Mathlib.Data.List.Range

/-! # Positions in a list that lost some of its items

The items of a list are known by their original positions.  Some are taken out, and a reader addresses the
others by where they stand now: how the two kinds of position are translated into each other.
-/

namespace SiftKit.Positions

/-! ## The positions that are left -/

/-- The original positions that are left of so many, in their order. -/
def left (count : Nat) (removed : List Nat) : List Nat := (List.range count).filter fun position => !removed.contains position

theorem left_nodup (count : Nat) (removed : List Nat) : (left count removed).Nodup :=
  List.nodup_range.filter _

theorem left_none (count : Nat) : left count [] = List.range count := by
  simp [left]

variable {visible original : Nat} {removed : List Nat} {count : Nat}

theorem left_append (stands : (left count removed)[visible]? = some original) :
    left count (removed ++ [original]) = (left count removed).eraseIdx visible := by
  have filtered : left count (removed ++ [original]) = (left count removed).filter (· != original) := by
    rw [left, left, List.filter_filter]
    congr 1
    funext position
    by_cases same : position = original <;> simp [same]
  obtain ⟨within, value⟩ := List.getElem?_eq_some_iff.mp stands
  rw [filtered, ← (left_nodup count removed).erase_eq_filter original]
  have index : (left count removed).idxOf original = visible := by
    rw [← value]
    exact (left_nodup count removed).idxOf_getElem visible within
  rw [List.erase_eq_eraseIdx_of_idxOf index]

/-! ## From where an item stands to where it stood -/

/-- Each position that was taken out, from the first on, shifts what stands at it or after it. -/
def shift (original position : Nat) : Nat := if position ≤ original then original + 1 else original

/-- The original position of what stands at a visible one, given what was taken out in ascending order. -/
def shifted (sorted : List Nat) (visible : Nat) : Nat := sorted.foldl shift visible

/-- Where an item stood: it was not taken out, and so many of those before it are left as stand before it now. -/
def Stood (removed : List Nat) (visible original : Nat) : Prop :=
  original ∉ removed ∧ visible + (removed.filter (· < original)).length = original

theorem stood_shifted {sorted : List Nat} (ascending : sorted.Pairwise (· < ·)) (visible : Nat) :
    Stood sorted visible (shifted sorted visible) := by
  induction sorted using List.reverseRecOn with
  | nil => simp [Stood, shifted]
  | append_singleton sorted last ih =>
    obtain ⟨early, -, below⟩ := List.pairwise_append.mp ascending
    have before : ∀ position ∈ sorted, position < last := fun position member => below position member last (by simp)
    obtain ⟨absent, counted⟩ := ih early
    have step : shifted (sorted ++ [last]) visible = shift (shifted sorted visible) last := by
      simp [shifted]
    rw [step]
    generalize shifted sorted visible = original at absent counted ⊢
    unfold shift
    split
    next passed =>
      -- Everything taken out lies before what stands there now.
      have all : ∀ bound, last ≤ bound → sorted.filter (· < bound) = sorted := by
        intro bound beyond
        rw [List.filter_eq_self]
        intro position member
        have := before position member
        simp
        omega
      constructor
      · intro member
        cases List.mem_append.mp member with
        | inl inside =>
          have := before _ inside
          omega
        | inr isLast =>
          rw [List.mem_singleton] at isLast
          omega
      · rw [all original passed] at counted
        simp only [List.filter_append, all (original + 1) (by omega), List.length_append]
        have kept : [last].filter (· < original + 1) = [last] := by
          simp
          omega
        rw [kept, List.length_singleton]
        omega
    next ahead =>
      constructor
      · simp only [List.mem_append, List.mem_singleton, not_or]
        exact ⟨absent, by omega⟩
      · have dropped : [last].filter (· < original) = [] := by
          simp
          omega
        rw [List.filter_append, dropped, List.append_nil]
        exact counted

/-- So many positions before it are left as there are positions before it, less those taken out. -/
theorem Stood.length_left (distinct : removed.Nodup) (stood : Stood removed visible original) :
    (left original removed).length = visible := by
  have parts := List.length_eq_length_filter_add (l := List.range original) (fun position => !removed.contains position)
  have taken : ((List.range original).filter fun position => !!removed.contains position).length =
      (removed.filter (· < original)).length := by
    apply List.Perm.length_eq
    rw [List.perm_ext_iff_of_nodup (List.nodup_range.filter _) (distinct.filter _)]
    intro position
    simp [and_comm]
  have counted := stood.2
  rw [List.length_range, taken] at parts
  unfold left
  omega

theorem Stood.getElem?_left (distinct : removed.Nodup) (stood : Stood removed visible original)
    (within : original < count) : (left count removed)[visible]? = some original := by
  have before := stood.length_left distinct
  obtain ⟨later, rfl⟩ : ∃ later, count = original + (later + 1) := ⟨count - original - 1, by omega⟩
  have ranges : List.range (original + (later + 1)) = List.range original ++ original :: List.range' (original + 1) later := by
    rw [List.range_eq_range', List.range_eq_range', ← List.range'_append_1, List.range'_succ, Nat.zero_add]
  have split : left (original + (later + 1)) removed = left original removed ++
      original :: (List.range' (original + 1) later).filter fun position => !removed.contains position := by
    rw [left, ranges, List.filter_append, List.filter_cons_of_pos (by simpa using stood.1)]
    rfl
  rw [split, List.getElem?_append_right (by omega), before, Nat.sub_self]
  rfl

theorem Stood.within (distinct : removed.Nodup) (stood : Stood removed visible original)
    (stands : visible < (left count removed).length) : original < count := by
  by_contra beyond
  have fewer : (left count removed).length ≤ (left original removed).length :=
    ((List.range_sublist.mpr (by omega)).filter _).length_le
  rw [stood.length_left distinct] at fewer
  omega

/-- Positions as a set, in ascending order. -/
def ascending (positions : List Nat) : List Nat := positions.dedup.mergeSort (fun first second => decide (first ≤ second))

theorem mem_ascending {positions : List Nat} {position : Nat} : position ∈ ascending positions ↔ position ∈ positions := by
  simp [ascending]

theorem ascending_pairwise (positions : List Nat) : (ascending positions).Pairwise (· < ·) := by
  have sorted : (ascending positions).Pairwise (fun first second => decide (first ≤ second) = true) :=
    List.pairwise_mergeSort (by simp; omega) (by simp; omega) _
  have distinct : (ascending positions).Nodup := ((List.mergeSort_perm _ _).nodup_iff).mpr positions.nodup_dedup
  refine (List.pairwise_and_iff.mpr ⟨sorted, distinct⟩).imp fun both => ?_
  have ordered := of_decide_eq_true both.1
  have apart := both.2
  omega

theorem getElem?_shifted (stands : visible < (left count removed).length) :
    (left count removed)[visible]? = some (shifted (ascending removed) visible) := by
  have same : left count removed = left count (ascending removed) := by
    unfold left
    congr 1
    funext position
    simp [mem_ascending]
  have distinct : (ascending removed).Nodup := (ascending_pairwise removed).imp Nat.ne_of_lt
  have stood := stood_shifted (ascending_pairwise removed) visible
  rw [same] at stands ⊢
  exact stood.getElem?_left distinct (stood.within distinct stands)

end SiftKit.Positions
