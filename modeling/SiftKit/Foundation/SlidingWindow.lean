import Mathlib.Algebra.Order.Group.Defs

/-! # Limits on events in sliding windows

Events are instants, in the order they happen.  A cap bounds how many of them any window of a span
holds, a gap keeps any two of them apart.  Both are kept by one more event exactly when the window
that ends with it has room and the latest event is far enough back.
-/

namespace SiftKit.SlidingWindow

variable {Time : Type} [AddCommGroup Time] [LinearOrder Time] [IsOrderedAddMonoid Time]

/-- The events later than an instant. -/
def countAfter (start : Time) (events : List Time) : Nat := events.countP fun event => decide (start < event)

/-- The events of the window that ends with an instant and starts a span before it. -/
def countWithin (span stop : Time) (events : List Time) : Nat :=
  events.countP fun event => decide (stop - span < event ∧ event ≤ stop)

/-- No window of the span holds more events than the cap. -/
def Limited (span : Time) (cap : Nat) (events : List Time) : Prop := ∀ stop, countWithin span stop events ≤ cap

/-- Any two events are at least the gap apart. -/
def Spaced (gap : Time) (events : List Time) : Prop := events.Pairwise fun earlier later => gap ≤ later - earlier

/-- `.sort().at(-1)`. -/
def latest (events : List Time) : Option Time := events.max?

omit [IsOrderedAddMonoid Time] in
@[simp] theorem limited_nil (span : Time) (cap : Nat) : Limited span cap ([] : List Time) := by
  intro stop
  simp [countWithin]

omit [IsOrderedAddMonoid Time] in
@[simp] theorem spaced_nil (gap : Time) : Spaced gap ([] : List Time) := List.Pairwise.nil

omit [IsOrderedAddMonoid Time] [AddCommGroup Time] in
theorem countAfter_perm {first second : List Time} (same : first.Perm second) (start : Time) :
    countAfter start first = countAfter start second :=
  same.countP_eq _

omit [IsOrderedAddMonoid Time] [AddCommGroup Time] in
@[simp] theorem countAfter_append (start : Time) (first second : List Time) :
    countAfter start (first ++ second) = countAfter start first + countAfter start second :=
  List.countP_append

omit [IsOrderedAddMonoid Time] in
theorem countWithin_of_past {span stop : Time} {events : List Time} (past : ∀ event ∈ events, event ≤ stop) :
    countWithin span stop events = countAfter (stop - span) events := by
  apply List.countP_congr
  intro event member
  simp [past event member]

theorem limited_snoc {span now : Time} {cap : Nat} {events : List Time} (positive : 0 < span)
    (past : ∀ event ∈ events, event ≤ now) :
    Limited span cap (events ++ [now]) ↔ Limited span cap events ∧ countAfter (now - span) events < cap := by
  have inOwn : now - span < now := sub_lt_self now positive
  constructor
  · intro limited
    constructor
    · intro stop
      have bound := limited stop
      simp only [countWithin, List.countP_append] at bound
      unfold countWithin
      omega
    · have bound := limited now
      simp only [countWithin, List.countP_append, List.countP_singleton] at bound
      rw [← countWithin_of_past past]
      simp only [inOwn, le_refl, and_self, decide_true, if_true] at bound
      unfold countWithin
      omega
  · rintro ⟨limited, room⟩ stop
    by_cases reached : now ≤ stop
    · -- every event is past, so the window that ends with the new one starts no later
      have allPast : ∀ event ∈ events ++ [now], event ≤ stop := by
        intro event member
        rw [List.mem_append, List.mem_singleton] at member
        rcases member with earlier | rfl
        · exact (past event earlier).trans reached
        · exact reached
      have fewer : countAfter (stop - span) events ≤ countAfter (now - span) events := by
        apply List.countP_mono_left
        intro event _ after
        simp only [decide_eq_true_eq] at after ⊢
        exact (sub_le_sub_right reached span).trans_lt after
      rw [countWithin_of_past allPast, countAfter_append]
      have one : countAfter (stop - span) [now] ≤ 1 := List.countP_le_length
      omega
    · have bound := limited stop
      unfold countWithin at bound ⊢
      rw [List.countP_append, List.countP_singleton]
      simp only [reached, and_false, decide_false, Bool.false_eq_true, if_false]
      omega

omit [IsOrderedAddMonoid Time] in
theorem spaced_snoc {gap now : Time} {events : List Time} :
    Spaced gap (events ++ [now]) ↔ Spaced gap events ∧ ∀ event ∈ events, gap ≤ now - event := by
  simp [Spaced, List.pairwise_append]

section

omit [AddCommGroup Time] [IsOrderedAddMonoid Time]

variable {events : List Time}

theorem latest_eq_some {event : Time} :
    latest events = some event ↔ event ∈ events ∧ ∀ other ∈ events, other ≤ event :=
  List.max?_eq_some_iff

theorem latest_eq_none : latest events = none ↔ events = [] := List.max?_eq_none_iff

theorem latest_perm {first second : List Time} (same : first.Perm second) : latest first = latest second := by
  cases ofFirst : latest first with
  | none =>
    rw [latest_eq_none] at ofFirst
    subst ofFirst
    rw [List.nil_perm.mp same]
    rfl
  | some event =>
    rw [latest_eq_some] at ofFirst
    symm
    rw [latest_eq_some]
    exact ⟨same.mem_iff.mp ofFirst.1, fun other member => ofFirst.2 other (same.mem_iff.mpr member)⟩

theorem latest_snoc {now : Time} (past : ∀ event ∈ events, event ≤ now) :
    latest (events ++ [now]) = some now := by
  rw [latest_eq_some]
  constructor
  · simp
  · intro other member
    rw [List.mem_append, List.mem_singleton] at member
    rcases member with earlier | rfl
    · exact past other earlier
    · exact le_refl other

end

theorem forall_gap_iff_latest {gap now : Time} {events : List Time} :
    (∀ event ∈ events, gap ≤ now - event) ↔ ∀ last, latest events = some last → gap ≤ now - last := by
  constructor
  · intro far last isLatest
    exact far last (latest_eq_some.mp isLatest).1
  · intro far event member
    cases isLatest : latest events with
    | none =>
      rw [latest_eq_none.mp isLatest] at member
      cases member
    | some last =>
      have bound : event ≤ last := (latest_eq_some.mp isLatest).2 event member
      exact (far last isLatest).trans (sub_le_sub_left bound now)

end SiftKit.SlidingWindow
