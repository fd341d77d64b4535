import Mathlib.Data.List.Sort

/-! # Half-open ranges

A set of points is kept as a list of ranges, each with its start and without its stop.  Ranges that are
sorted by their starts are merged in one sweep; a point is moved past the ranges it is in.
-/

namespace SiftKit.Ranges

structure Range (Point : Type) where
  start : Point
  stop : Point
  deriving DecidableEq, Repr

section

variable {Point : Type} [LinearOrder Point]

def Range.Contains (range : Range Point) (point : Point) : Prop := range.start ≤ point ∧ point < range.stop

instance (range : Range Point) (point : Point) : Decidable (range.Contains point) :=
  inferInstanceAs (Decidable (_ ∧ _))

def Covers (ranges : List (Range Point)) (point : Point) : Prop := ∃ range ∈ ranges, range.Contains point

instance (ranges : List (Range Point)) (point : Point) : Decidable (Covers ranges point) :=
  inferInstanceAs (Decidable (∃ range ∈ ranges, range.Contains point))

theorem covers_nil (point : Point) : ¬ Covers [] point := by
  simp [Covers]

variable {rest : List (Range Point)} {point : Point} {ranges : List (Range Point)} {current : Range Point}

@[simp] theorem covers_cons {range : Range Point} :
    Covers (range :: rest) point ↔ range.Contains point ∨ Covers rest point := by
  simp [Covers]

theorem Covers.perm {others : List (Range Point)} (same : ranges.Perm others) :
    Covers ranges point ↔ Covers others point := by
  unfold Covers
  simp only [same.mem_iff]

theorem covers_filter :
    Covers (ranges.filter fun range => decide (range.start < range.stop)) point ↔ Covers ranges point := by
  unfold Covers
  constructor
  · rintro ⟨range, member, within⟩
    exact ⟨range, List.mem_of_mem_filter member, within⟩
  · rintro ⟨range, member, within⟩
    refine ⟨range, List.mem_filter.mpr ⟨member, ?_⟩, within⟩
    simpa using lt_of_le_of_lt within.1 within.2

/-! ## Merging -/

/-- The sweep over sorted ranges: a range that starts within the current one extends it. -/
def sweep (current : Range Point) : List (Range Point) → List (Range Point)
  | [] => [current]
  | next :: rest =>
    if current.stop < next.start then current :: sweep next rest
    else if current.stop < next.stop then sweep { current with stop := next.stop } rest
    else sweep current rest

def mergeSorted : List (Range Point) → List (Range Point)
  | [] => []
  | first :: rest => sweep first rest

theorem covers_sweep (sorted : (current :: rest).Pairwise fun left right => left.start ≤ right.start) :
    Covers (sweep current rest) point ↔ Covers (current :: rest) point := by
  induction rest generalizing current with
  | nil => rfl
  | cons next rest ih =>
    obtain ⟨first, tail⟩ := List.pairwise_cons.mp sorted
    have ordered : current.start ≤ next.start := first next List.mem_cons_self
    have later : ∀ range : Range Point, range.start = current.start →
        (range :: rest).Pairwise fun left right => left.start ≤ right.start := by
      intro range sameStart
      refine List.pairwise_cons.mpr ⟨fun other member => ?_, (List.pairwise_cons.mp tail).2⟩
      rw [sameStart]
      exact first other (List.mem_cons_of_mem _ member)
    unfold sweep
    split
    · simp only [covers_cons, ih tail]
    next touching =>
      -- the next range starts within the current one, or where it stops
      have meets : next.start ≤ current.stop := not_lt.mp touching
      split
      next longer =>
        rw [ih (later { current with stop := next.stop } rfl)]
        simp only [covers_cons, ← or_assoc]
        apply or_congr_left
        unfold Range.Contains
        constructor
        · rintro ⟨fromStart, toStop⟩
          rcases lt_or_ge point current.stop with inCurrent | past
          · exact .inl ⟨fromStart, inCurrent⟩
          · exact .inr ⟨le_trans meets past, toStop⟩
        · rintro (⟨fromStart, toStop⟩ | ⟨fromStart, toStop⟩)
          · exact ⟨fromStart, lt_trans toStop longer⟩
          · exact ⟨le_trans ordered fromStart, toStop⟩
      next shorter =>
        rw [ih (later current rfl)]
        simp only [covers_cons, ← or_assoc]
        apply or_congr_left
        unfold Range.Contains
        constructor
        · exact Or.inl
        · rintro (within | ⟨fromStart, toStop⟩)
          · exact within
          · exact ⟨le_trans ordered fromStart, lt_of_lt_of_le toStop (not_lt.mp shorter)⟩

theorem covers_mergeSorted (sorted : ranges.Pairwise fun left right => left.start ≤ right.start) :
    Covers (mergeSorted ranges) point ↔ Covers ranges point := by
  cases ranges with
  | nil => rfl
  | cons first rest => exact covers_sweep sorted

/-! ## What is merged -/

/-- Ranges that each contain something, in order, with a gap between any two of them. -/
structure Separated (ranges : List (Range Point)) : Prop where
  proper : ∀ range ∈ ranges, range.start < range.stop
  apart : ranges.Pairwise fun left right => left.stop < right.start

theorem Separated.nil : Separated ([] : List (Range Point)) := ⟨by simp, .nil⟩

theorem start_le_of_mem_sweep (sorted : (current :: rest).Pairwise fun left right => left.start ≤ right.start)
    {range : Range Point} (member : range ∈ sweep current rest) : current.start ≤ range.start := by
  induction rest generalizing current with
  | nil =>
    rw [List.mem_singleton.mp member]
  | cons next rest ih =>
    obtain ⟨first, tail⟩ := List.pairwise_cons.mp sorted
    have ordered : current.start ≤ next.start := first next List.mem_cons_self
    have without : ∀ other ∈ rest, current.start ≤ other.start := fun other isOther =>
      first other (List.mem_cons_of_mem _ isOther)
    have later := (List.pairwise_cons.mp tail).2
    unfold sweep at member
    split at member
    · rcases List.mem_cons.mp member with rfl | isLater
      · exact le_refl _
      · exact le_trans ordered (ih tail isLater)
    · split at member
      · apply @ih { current with stop := next.stop } _ member
        exact List.pairwise_cons.mpr ⟨without, later⟩
      · exact ih (List.pairwise_cons.mpr ⟨without, later⟩) member

theorem separated_sweep (sorted : (current :: rest).Pairwise fun left right => left.start ≤ right.start)
    (proper : ∀ range ∈ current :: rest, range.start < range.stop) : Separated (sweep current rest) := by
  induction rest generalizing current with
  | nil => exact ⟨proper, List.pairwise_singleton _ _⟩
  | cons next rest ih =>
    obtain ⟨first, tail⟩ := List.pairwise_cons.mp sorted
    have without : ∀ other ∈ rest, current.start ≤ other.start := fun other isOther =>
      first other (List.mem_cons_of_mem _ isOther)
    have later := (List.pairwise_cons.mp tail).2
    have properRest : ∀ other ∈ rest, other.start < other.stop := fun other isOther => proper other (by simp [isOther])
    have ownProper : current.start < current.stop := proper current List.mem_cons_self
    unfold sweep
    split
    next gap =>
      -- the current range ends before anything that the rest of the sweep starts
      have swept := ih tail fun other isOther => proper other (List.mem_cons_of_mem _ isOther)
      constructor
      · intro range member
        rcases List.mem_cons.mp member with rfl | isLater
        · exact ownProper
        · exact swept.proper range isLater
      · apply List.pairwise_cons.mpr
        constructor
        · intro other isOther
          exact lt_of_lt_of_le gap (start_le_of_mem_sweep tail isOther)
        · exact swept.apart
    next touching =>
      split
      next longer =>
        have extended : ∀ other ∈ rest, ({ current with stop := next.stop } : Range Point).start ≤ other.start := without
        apply ih (List.pairwise_cons.mpr ⟨extended, later⟩)
        intro range member
        rcases List.mem_cons.mp member with rfl | isRest
        · exact lt_trans ownProper longer
        · exact properRest range isRest
      next shorter =>
        apply ih (List.pairwise_cons.mpr ⟨without, later⟩)
        intro range member
        rcases List.mem_cons.mp member with rfl | isRest
        · exact ownProper
        · exact properRest range isRest

theorem separated_mergeSorted (sorted : ranges.Pairwise fun left right => left.start ≤ right.start)
    (proper : ∀ range ∈ ranges, range.start < range.stop) : Separated (mergeSorted ranges) := by
  cases ranges with
  | nil => exact Separated.nil
  | cons first rest => exact separated_sweep sorted proper

/-! ## Moving past ranges -/

/-- Moves a point past the ranges that it is in, up to the first range after it. -/
def advance (point : Point) : List (Range Point) → Point
  | [] => point
  | range :: rest =>
    if range.stop ≤ point then advance point rest
    else if range.start ≤ point ∧ point < range.stop then advance range.stop rest
    else point

theorem le_advance (start : Point) (ranges : List (Range Point)) : start ≤ advance start ranges := by
  induction ranges generalizing start with
  | nil => exact le_refl start
  | cons range rest ih =>
    unfold advance
    split
    · exact ih start
    · split
      next within => exact le_trans (le_of_lt within.2) (ih range.stop)
      · exact le_refl start

theorem covers_of_advance {start : Point} (fromStart : start ≤ point) (passed : point < advance start ranges) :
    Covers ranges point := by
  induction ranges generalizing start with
  | nil => exact absurd fromStart (not_le.mpr passed)
  | cons range rest ih =>
    rw [covers_cons]
    unfold advance at passed
    split at passed
    · exact .inr (ih fromStart passed)
    · split at passed
      next within =>
        rcases lt_or_ge point range.stop with inside | past
        · exact .inl ⟨le_trans within.1 fromStart, inside⟩
        · exact .inr (ih past passed)
      · exact absurd fromStart (not_le.mpr passed)

theorem not_covers_advance (sorted : ranges.Pairwise fun left right => left.start ≤ right.start) (start : Point) :
    ¬ Covers ranges (advance start ranges) := by
  induction ranges generalizing start with
  | nil => exact covers_nil _
  | cons range rest ih =>
    obtain ⟨first, tail⟩ := List.pairwise_cons.mp sorted
    rw [covers_cons, not_or]
    unfold advance
    split
    next behind =>
      -- a range that is passed stays behind the point
      refine ⟨?_, ih tail start⟩
      intro within
      exact absurd (le_trans behind (le_advance start rest)) (not_le.mpr within.2)
    next ahead =>
      split
      next inside =>
        refine ⟨?_, ih tail range.stop⟩
        intro within
        exact absurd (le_advance range.stop rest) (not_le.mpr within.2)
      next outside =>
        have before : start < range.start := by
          rcases lt_or_ge start range.start with before | past
          · exact before
          · exact absurd ⟨past, not_le.mp ahead⟩ outside
        constructor
        · intro within
          exact absurd within.1 (not_le.mpr before)
        · rintro ⟨other, isOther, within⟩
          exact absurd (le_trans (first other isOther) within.1) (not_le.mpr before)

theorem not_covers_before_next (sorted : ranges.Pairwise fun left right => left.start ≤ right.start) {start : Point}
    (free : ¬ Covers ranges start) (fromStart : start ≤ point)
    (beforeNext : ∀ next ∈ ranges.find? fun range => decide (start < range.start), point < next.start) :
    ¬ Covers ranges point := by
  rintro ⟨range, member, within⟩
  rcases lt_or_ge start range.start with later | earlier
  · cases found : ranges.find? fun range => decide (start < range.start) with
    | none =>
      have notLater := List.find?_eq_none.mp found range member
      simp [later] at notLater
    | some next =>
      -- the first range that starts later starts no later than this one
      obtain ⟨_, early, late, isRanges, notLater⟩ := List.find?_eq_some_iff_append.mp found
      have bounded := beforeNext next found
      have nextFirst : next.start ≤ range.start := by
        rw [isRanges] at member sorted
        rcases List.mem_append.mp member with isEarly | isLate
        · have isNot := notLater range isEarly
          simp [later] at isNot
        · rcases List.mem_cons.mp isLate with rfl | isLater
          · exact le_refl _
          · exact (List.pairwise_cons.mp (List.pairwise_append.mp sorted).2.1).1 range isLater
      exact absurd (le_trans nextFirst within.1) (not_le.mpr bounded)
  · exact free ⟨range, member, earlier, lt_of_le_of_lt fromStart within.2⟩

end

end SiftKit.Ranges
