import Mathlib.Order.Bounds.Basic

/-! # Bisection

A search that halves a window of places, for a test that holds from some place on (or up to some place).
What it finds is said without the search: the first place that passes, or the last one, among the places up to
a bound. A scan of every place finds the same.
-/

namespace SiftKit.Bisection

variable {test : Nat → Bool} {bound : Nat}

/-! ## What is found -/

/-- The first place up to the bound that passes, and the bound when none does. -/
structure IsFirst (test : Nat → Bool) (bound place : Nat) : Prop where
  bounded : place ≤ bound
  passes : test place = true ∨ place = bound
  first : ∀ earlier < place, test earlier = false

/-- The last place up to the bound that passes, and zero when none does. -/
structure IsLast (test : Nat → Bool) (bound place : Nat) : Prop where
  bounded : place ≤ bound
  passes : test place = true ∨ place = 0
  last : ∀ later, place < later → later ≤ bound → test later = false

theorem IsFirst.unique {left right : Nat} (isLeft : IsFirst test bound left) (isRight : IsFirst test bound right) :
    left = right := by
  -- a place before the other one fails, so it passes only as the bound, which nothing exceeds
  have notBefore : ∀ {one other : Nat}, IsFirst test bound one → IsFirst test bound other → ¬ one < other := by
    intro one other isOne isOther before
    cases isOne.passes with
    | inl passes => simp [isOther.first one before] at passes
    | inr last =>
      have := isOther.bounded
      omega
  exact Nat.le_antisymm (Nat.le_of_not_lt (notBefore isRight isLeft)) (Nat.le_of_not_lt (notBefore isLeft isRight))

theorem passes_of_le (rising : Monotone test) {early late : Nat} (before : early ≤ late) (passes : test early = true) :
    test late = true := by
  have := rising before
  rw [passes] at this
  exact top_le_iff.mp this

theorem fails_of_le (rising : Monotone test) {early late : Nat} (before : early ≤ late) (fails : test late = false) :
    test early = false := by
  by_contra passes
  simp [passes_of_le rising before (by simpa using passes)] at fails

theorem fails_after (falling : Antitone test) {early late : Nat} (before : early ≤ late) (fails : test early = false) :
    test late = false := by
  have := falling before
  rw [fails] at this
  exact le_bot_iff.mp this

/-! ## Windows

Between two rounds of the search everything below the window is decided, and so is everything above it.
-/

/-- The window `low … high` in the search of the first place, with the best place so far. -/
structure FirstWindow (test : Nat → Bool) (bound low high best : Nat) : Prop where
  below : ∀ place < low, test place = false
  ordered : low ≤ high + 1
  bounded : best ≤ bound
  passes : test best = true ∨ best = bound
  /-- The best place is the one after the window, unless nothing passed. -/
  above : best ≤ high + 1

theorem FirstWindow.keepLow {low high best middle : Nat} (window : FirstWindow test bound low high best)
    (within : low ≤ middle ∧ middle ≤ high) (positive : 0 < middle) (inBound : middle ≤ bound) (passes : test middle = true) :
    FirstWindow test bound low (middle - 1) middle where
  below := window.below
  ordered := by omega
  bounded := inBound
  passes := .inl passes
  above := by omega

theorem FirstWindow.keepHigh (rising : Monotone test) {low high best middle : Nat}
    (window : FirstWindow test bound low high best) (within : low ≤ middle ∧ middle ≤ high) (fails : test middle = false) :
    FirstWindow test bound (middle + 1) high best where
  below := by
    intro place before
    exact fails_of_le rising (Nat.lt_succ_iff.mp before) fails
  ordered := by omega
  bounded := window.bounded
  passes := window.passes
  above := window.above

theorem FirstWindow.closed {low high best : Nat} (window : FirstWindow test bound low high best) (empty : high < low) :
    IsFirst test bound best where
  bounded := window.bounded
  passes := window.passes
  first := by
    intro earlier before
    have := window.above
    exact window.below earlier (by omega)

/-- The window `low … high` in the search of the last place. -/
structure LastWindow (test : Nat → Bool) (bound low high : Nat) : Prop where
  ordered : low ≤ high
  bounded : high ≤ bound
  passes : test low = true ∨ low = 0
  above : ∀ place, high < place → place ≤ bound → test place = false

theorem LastWindow.keepHigh {low high middle : Nat} (window : LastWindow test bound low high)
    (within : low ≤ middle ∧ middle ≤ high) (passes : test middle = true) : LastWindow test bound middle high where
  ordered := within.2
  bounded := window.bounded
  passes := .inl passes
  above := window.above

theorem LastWindow.keepLow (falling : Antitone test) {low high middle : Nat} (window : LastWindow test bound low high)
    (within : low < middle ∧ middle ≤ high) (fails : test middle = false) : LastWindow test bound low (middle - 1) where
  ordered := by omega
  bounded := by
    have := window.bounded
    omega
  passes := window.passes
  above := by
    intro place after _
    exact fails_after falling (by omega) fails

theorem LastWindow.closed {low high : Nat} (window : LastWindow test bound low high) (empty : high ≤ low) :
    IsLast test bound low where
  bounded := Nat.le_trans window.ordered window.bounded
  passes := window.passes
  last := by
    intro later after inBound
    exact window.above later (by omega) inBound

end SiftKit.Bisection
