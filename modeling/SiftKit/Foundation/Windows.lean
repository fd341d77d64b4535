import Mathlib.Order.Lattice

/-! # Half-open windows of time

A window starts at its first bound and ends before its second; a bound that is not given is no bound.
-/

namespace SiftKit.Windows

variable {Time : Type} [LinearOrder Time]

structure Window (Time : Type) where
  start : Option Time
  stop : Option Time

namespace Window

def Contains (window : Window Time) (instant : Time) : Prop :=
  (∀ start, window.start = some start → start ≤ instant) ∧ ∀ stop, window.stop = some stop → instant < stop

instance (window : Window Time) (instant : Time) : Decidable (window.Contains instant) :=
  match window with
  | ⟨none, none⟩ => isTrue ⟨by simp, by simp⟩
  | ⟨some start, none⟩ => decidable_of_iff (start ≤ instant) (by simp [Contains])
  | ⟨none, some stop⟩ => decidable_of_iff (instant < stop) (by simp [Contains])
  | ⟨some start, some stop⟩ => decidable_of_iff (start ≤ instant ∧ instant < stop) (by simp [Contains])

/-- No instant lies in both windows. -/
def Apart (window other : Window Time) : Prop := ∀ instant, window.Contains instant → ¬ other.Contains instant

/-- A window with two bounds starts before it ends. -/
def Ordered (window : Window Time) : Prop :=
  ∀ start stop, window.start = some start → window.stop = some stop → start < stop

theorem Apart.symm {window other : Window Time} (apart : window.Apart other) : other.Apart window :=
  fun instant inOther inWindow => apart instant inWindow inOther

theorem apart_of_meeting {window other : Window Time} {bound : Time} (stops : window.stop = some bound)
    (starts : other.start = some bound) : window.Apart other := by
  intro instant inWindow inOther
  have before : instant < bound := inWindow.2 bound stops
  have after : bound ≤ instant := inOther.1 bound starts
  exact absurd before (not_lt.mpr after)

end Window

end SiftKit.Windows
