import Mathlib.Algebra.Order.BigOperators.Group.List
import Mathlib.Algebra.Ring.Nat

/-! # Counting over the sections of a list

A list is read in sections, each the elements that one condition selects.  What is counted in the sections
together is at least what is counted in the list where every counted element is in a section, and at most
where no element is in two.
-/

namespace SiftKit.Sections

variable {Item : Type} {counts : Item → Bool} {sections : List (Item → Bool)}

theorem sum_countP_filter_cons (item : Item) (rest : List Item) :
    (sections.map fun part => ((item :: rest).filter part).countP counts).sum =
      (if counts item then sections.countP fun part => part item else 0) +
        (sections.map fun part => (rest.filter part).countP counts).sum := by
  induction sections with
  | nil => simp
  | cons part others ih =>
    simp only [List.map_cons, List.sum_cons, ih, List.countP_cons]
    by_cases counted : counts item
    · by_cases selected : part item
      · simp only [List.filter_cons, selected, if_true, List.countP_cons, counted]
        omega
      · simp only [List.filter_cons, selected, Bool.false_eq_true, if_false, counted, if_true]
        omega
    · by_cases selected : part item
      · simp only [List.filter_cons, selected, if_true, List.countP_cons, counted, Bool.false_eq_true, if_false]
        omega
      · simp only [List.filter_cons, selected, Bool.false_eq_true, if_false, counted]
        omega

theorem countP_le_sum_sections {items : List Item}
    (covered : ∀ item ∈ items, counts item = true → ∃ part ∈ sections, part item = true) :
    items.countP counts ≤ (sections.map fun part => (items.filter part).countP counts).sum := by
  induction items with
  | nil => simp
  | cons item rest ih =>
    have tail := ih fun other member => covered other (List.mem_cons_of_mem _ member)
    rw [sum_countP_filter_cons, List.countP_cons]
    by_cases counted : counts item
    · obtain ⟨part, isSection, selected⟩ := covered item List.mem_cons_self counted
      have once : 0 < sections.countP fun part => part item := List.countP_pos_iff.mpr ⟨part, isSection, selected⟩
      simp only [counted, if_true]
      omega
    · simp only [counted, Bool.false_eq_true, if_false]
      omega

theorem sum_sections_le_countP {items : List Item}
    (apart : ∀ item ∈ items, (sections.countP fun part => part item) ≤ 1) :
    (sections.map fun part => (items.filter part).countP counts).sum ≤ items.countP counts := by
  induction items with
  | nil => simp
  | cons item rest ih =>
    have tail := ih fun other member => apart other (List.mem_cons_of_mem _ member)
    have once := apart item List.mem_cons_self
    rw [sum_countP_filter_cons, List.countP_cons]
    split
    · omega
    · omega

end SiftKit.Sections
