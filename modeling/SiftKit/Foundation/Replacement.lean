import Mathlib.Data.List.Infix

/-! # Replacing parts of a text

A part of a text is given by its bounds.  Parts that are disjoint can be replaced at once, and one
walk over them from left to right does so.
-/

namespace SiftKit.Replacement

variable {Letter : Type}

/-! ## Occurrences -/

def OccursAt (text pattern : List Letter) (position : Nat) : Prop := pattern <+: text.drop position

variable {position : Nat} {pattern : List Letter}

theorem OccursAt.bound {text : List Letter} (occurs : OccursAt text pattern position)
    (nonEmpty : pattern ≠ []) : position + pattern.length ≤ text.length := by
  have fits : pattern.length ≤ (text.drop position).length := occurs.length_le
  have positive : 0 < pattern.length := List.length_pos_iff.mpr nonEmpty
  rw [List.length_drop] at fits
  omega

section Search

variable [DecidableEq Letter]

/-- Where the pattern occurs first. -/
def indexOf (pattern : List Letter) : List Letter → Option Nat
  | [] => if pattern.isEmpty then some 0 else none
  | letter :: rest =>
    if pattern.isPrefixOf (letter :: rest) then some 0 else (indexOf pattern rest).map fun position => position + 1

/-- Where the pattern occurs first from a position on. -/
def indexOfFrom (text pattern : List Letter) (start : Nat) : Option Nat :=
  (indexOf pattern (text.drop start)).map fun position => position + min start text.length

theorem indexOf_eq_some : ∀ {text : List Letter} {position : Nat},
    indexOf pattern text = some position → OccursAt text pattern position
  | [], position, found => by
    cases pattern with
    | nil => exact List.nil_prefix
    | cons letter pattern => simp [indexOf] at found
  | letter :: rest, position, found => by
    rw [indexOf] at found
    split at found
    next here =>
      obtain rfl : 0 = position := Option.some.inj found
      exact List.isPrefixOf_iff_prefix.mp here
    next later =>
      obtain ⟨earlier, foundEarlier, rfl⟩ := Option.map_eq_some_iff.mp found
      have occurs : OccursAt rest pattern earlier := indexOf_eq_some foundEarlier
      exact occurs

theorem indexOf_first : ∀ {text : List Letter} {position : Nat},
    indexOf pattern text = some position → ∀ earlier < position, ¬ OccursAt text pattern earlier
  | [], position, found, earlier, before => by
    cases pattern with
    | nil =>
      have here : 0 = position := by simpa [indexOf] using found
      omega
    | cons letter pattern => simp [indexOf] at found
  | letter :: rest, position, found, earlier, before => by
    rw [indexOf] at found
    split at found
    next here =>
      have start : 0 = position := Option.some.inj found
      omega
    next notHere =>
      obtain ⟨later, foundLater, rfl⟩ := Option.map_eq_some_iff.mp found
      cases earlier with
      | zero => exact fun occurs => notHere (List.isPrefixOf_iff_prefix.mpr occurs)
      | succ earlier => exact indexOf_first foundLater earlier (by omega)

theorem indexOf_eq_none : ∀ {text : List Letter}, indexOf pattern text = none →
    ∀ position, ¬ OccursAt text pattern position
  | [], missing, position, occurs => by
    cases pattern with
    | nil => simp [indexOf] at missing
    | cons letter pattern =>
      rw [OccursAt, List.drop_nil] at occurs
      exact List.cons_ne_nil letter pattern (List.prefix_nil.mp occurs)
  | letter :: rest, missing, position, occurs => by
    rw [indexOf] at missing
    split at missing
    next here => exact Option.some_ne_none 0 missing
    next notHere =>
      cases position with
      | zero => exact notHere (List.isPrefixOf_iff_prefix.mpr occurs)
      | succ position => exact indexOf_eq_none (Option.map_eq_none_iff.mp missing) position occurs

variable {start : Nat} {text : List Letter}

omit [DecidableEq Letter] in
theorem occursAt_drop :
    OccursAt (text.drop start) pattern position ↔ OccursAt text pattern (start + position) := by
  rw [OccursAt, OccursAt, List.drop_drop]

section

variable {text pattern : List Letter}

theorem indexOfFrom_eq_some (inside : start ≤ text.length)
    (found : indexOfFrom text pattern start = some position) : start ≤ position ∧ OccursAt text pattern position := by
  obtain ⟨offset, foundOffset, rfl⟩ := Option.map_eq_some_iff.mp found
  have occurs := occursAt_drop.mp (indexOf_eq_some foundOffset)
  rw [Nat.min_eq_left inside]
  exact ⟨Nat.le_add_left start offset, Nat.add_comm start offset ▸ occurs⟩

theorem indexOfFrom_eq_none (missing : indexOfFrom text pattern start = none)
    (position : Nat) (after : start ≤ position) : ¬ OccursAt text pattern position := by
  intro occurs
  have none := indexOf_eq_none (Option.map_eq_none_iff.mp missing) (position - start)
  rw [occursAt_drop, Nat.add_sub_cancel' after] at none
  exact none occurs

theorem indexOfFrom_first
    (found : indexOfFrom text pattern start = some position) (earlier : Nat) (after : start ≤ earlier)
    (before : earlier < position) : ¬ OccursAt text pattern earlier := by
  obtain ⟨offset, foundOffset, rfl⟩ := Option.map_eq_some_iff.mp found
  intro occurs
  have first := indexOf_first foundOffset (earlier - start) (by omega)
  rw [occursAt_drop, Nat.add_sub_cancel' after] at first
  exact first occurs

theorem indexOfFrom_eq_some_iff (nonEmpty : pattern ≠ []) :
    indexOfFrom text pattern start = some position ↔
      start ≤ position ∧ OccursAt text pattern position ∧
        ∀ earlier, start ≤ earlier → earlier < position → ¬ OccursAt text pattern earlier := by
  constructor
  · intro found
    have inside : start ≤ text.length := by
      by_contra beyond
      obtain ⟨offset, foundOffset, _⟩ := Option.map_eq_some_iff.mp found
      have bound := (occursAt_drop.mp (indexOf_eq_some foundOffset)).bound nonEmpty
      omega
    obtain ⟨after, occurs⟩ := indexOfFrom_eq_some inside found
    exact ⟨after, occurs, indexOfFrom_first found⟩
  · rintro ⟨after, occurs, first⟩
    have bound := occurs.bound nonEmpty
    cases found : indexOfFrom text pattern start with
    | none => exact absurd occurs (indexOfFrom_eq_none found position after)
    | some other =>
      obtain ⟨otherAfter, otherOccurs⟩ := indexOfFrom_eq_some (by omega) found
      have notBefore : ¬ other < position := fun before => first other otherAfter before otherOccurs
      have notAfter : ¬ position < other := fun before => indexOfFrom_first found position after before occurs
      rw [show other = position by omega]

end

/-! ### Longer texts -/

omit [DecidableEq Letter] in
theorem OccursAt.append (occurs : OccursAt text pattern position)
    (nonEmpty : pattern ≠ []) (more : List Letter) : OccursAt (text ++ more) pattern position := by
  have bound := occurs.bound nonEmpty
  rw [OccursAt, List.drop_append_of_le_length (by omega)]
  exact occurs.trans (List.prefix_append _ more)

omit [DecidableEq Letter] in
theorem OccursAt.of_append {more : List Letter}
    (occurs : OccursAt (text ++ more) pattern position) (fits : position + pattern.length ≤ text.length) :
    OccursAt text pattern position := by
  rw [OccursAt, List.drop_append_of_le_length (by omega)] at occurs
  apply List.prefix_of_prefix_length_le occurs (List.prefix_append _ more)
  rw [List.length_drop]
  omega

section

variable {text pattern : List Letter}

theorem indexOfFrom_append (nonEmpty : pattern ≠ [])
    (found : indexOfFrom text pattern start = some position) (more : List Letter) :
    indexOfFrom (text ++ more) pattern start = some position := by
  rw [indexOfFrom_eq_some_iff nonEmpty] at found ⊢
  obtain ⟨after, occurs, first⟩ := found
  have bound := occurs.bound nonEmpty
  refine ⟨after, occurs.append nonEmpty more, ?_⟩
  intro earlier isAfter before occursEarlier
  exact first earlier isAfter before (occursEarlier.of_append (by omega))

theorem indexOfFrom_append_of_none
    (missing : indexOfFrom text pattern start = none) {more : List Letter} (nonEmpty : pattern ≠ [])
    (found : indexOfFrom (text ++ more) pattern start = some position) : text.length < position + pattern.length := by
  by_contra fits
  obtain ⟨after, occurs, _⟩ := (indexOfFrom_eq_some_iff nonEmpty).mp found
  exact indexOfFrom_eq_none missing position after (occurs.of_append (by omega))

theorem only_occurrence (first : indexOf pattern text = some start)
    (last : indexOfFrom text pattern (start + 1) = none) (position : Nat) (occurs : OccursAt text pattern position) :
    position = start := by
  rcases Nat.lt_trichotomy position start with before | same | after
  · exact absurd occurs (indexOf_first first position before)
  · exact same
  · exact absurd occurs (indexOfFrom_eq_none last position after)

theorem search_of_unique (nonEmpty : pattern ≠ [])
    (occurs : OccursAt text pattern start) (only : ∀ position, OccursAt text pattern position → position = start) :
    indexOf pattern text = some start ∧ indexOfFrom text pattern (start + 1) = none := by
  constructor
  · cases found : indexOf pattern text with
    | none => exact absurd occurs (indexOf_eq_none found start)
    | some position => rw [only position (indexOf_eq_some found)]
  · cases found : indexOfFrom text pattern (start + 1) with
    | none => rfl
    | some position =>
      have bound := occurs.bound nonEmpty
      have positive : 0 < pattern.length := List.length_pos_iff.mpr nonEmpty
      have second := indexOfFrom_eq_some (by omega) found
      have same := only position second.2
      omega

end

end Search

/-! ## Parts -/

/-- What is to stand in place of a part of the text. -/
structure Splice (Letter : Type) where
  start : Nat
  stop : Nat
  replacement : List Letter

variable {splice : Splice Letter}

namespace Splice

def covers (splice : Splice Letter) (position : Nat) : Bool := splice.start ≤ position && position < splice.stop

/-- No position is in both parts. -/
def Apart (splice other : Splice Letter) : Prop := ∀ position, splice.covers position → ¬ other.covers position

def Before (splice other : Splice Letter) : Prop := splice.stop ≤ other.start

/-- A part of this text, with something in it. -/
def Within (splice : Splice Letter) (text : List Letter) : Prop := splice.start < splice.stop ∧ splice.stop ≤ text.length

theorem covers_iff :
    splice.covers position = true ↔ splice.start ≤ position ∧ position < splice.stop := by
  simp [covers]

variable {other : Splice Letter}

theorem Apart.symm (apart : splice.Apart other) : other.Apart splice :=
  fun position inOther inSplice => apart position inSplice inOther

theorem Before.apart (before : splice.Before other) : splice.Apart other := by
  intro position inSplice inOther
  unfold Before at before
  rw [covers_iff] at inSplice inOther
  omega

theorem Apart.before {text : List Letter} (apart : splice.Apart other)
    (within : other.Within text) (starts : splice.start ≤ other.start) : splice.Before other := by
  have outside := apart other.start
  rw [covers_iff, covers_iff] at outside
  unfold Within at within
  unfold Before
  omega

end Splice

/-! ## Replacing all parts at once -/

/-- The first of the parts that a position is in. -/
def partAt : List (Splice Letter) → Nat → Option (Splice Letter)
  | [], _ => none
  | splice :: rest, position => if splice.covers position then some splice else partAt rest position

/-- What stands in the new text for a position of the old one. -/
def writtenAt (text : List Letter) (splices : List (Splice Letter)) (position : Nat) : List Letter :=
  match partAt splices position with
  | some splice => if splice.start = position then splice.replacement else []
  | none => text[position]?.toList

def replaceAll (text : List Letter) (splices : List (Splice Letter)) : List Letter :=
  (List.range text.length).flatMap (writtenAt text splices)

variable {splices : List (Splice Letter)}

theorem partAt_eq_some
    (found : partAt splices position = some splice) : splice ∈ splices ∧ splice.covers position = true := by
  induction splices with
  | nil => exact absurd found (Option.some_ne_none splice).symm
  | cons head rest ih =>
    rw [partAt] at found
    split at found
    next inside =>
      obtain rfl : head = splice := Option.some.inj found
      exact ⟨List.mem_cons_self, inside⟩
    next outside =>
      obtain ⟨member, inside⟩ := ih found
      exact ⟨List.mem_cons_of_mem head member, inside⟩

theorem partAt_eq_none :
    partAt splices position = none ↔ ∀ splice ∈ splices, ¬ splice.covers position := by
  induction splices with
  | nil => simp [partAt]
  | cons head rest ih =>
    rw [partAt, List.forall_mem_cons]
    split
    next inside => simp [inside]
    next outside =>
      rw [ih]
      exact ⟨fun others => ⟨outside, others⟩, And.right⟩

theorem partAt_of_mem (apart : splices.Pairwise Splice.Apart)
    (member : splice ∈ splices) (inside : splice.covers position = true) :
    partAt splices position = some splice := by
  induction splices with
  | nil => exact absurd member List.not_mem_nil
  | cons head rest ih =>
    obtain ⟨apartHead, apartRest⟩ := List.pairwise_cons.mp apart
    rw [partAt]
    rcases List.mem_cons.mp member with rfl | later
    · rw [if_pos inside]
    · rw [if_neg (fun inHead => apartHead splice later position inHead inside)]
      exact ih apartRest later

theorem replaceAll_perm (text : List Letter) {others : List (Splice Letter)} (apart : splices.Pairwise Splice.Apart)
    (same : splices.Perm others) : replaceAll text splices = replaceAll text others := by
  have apartOthers : others.Pairwise Splice.Apart := (same.pairwise_iff Splice.Apart.symm).mp apart
  have pointwise (position : Nat) : writtenAt text splices position = writtenAt text others position := by
    unfold writtenAt
    cases found : partAt splices position with
    | some splice =>
      obtain ⟨member, inside⟩ := partAt_eq_some found
      rw [partAt_of_mem apartOthers (same.mem_iff.mp member) inside]
    | none =>
      have nowhere : partAt others position = none :=
        partAt_eq_none.mpr fun splice member => partAt_eq_none.mp found splice (same.mem_iff.mpr member)
      rw [nowhere]
  unfold replaceAll
  rw [funext pointwise]

theorem mem_replaceAll {text : List Letter} {letter : Letter}
    (member : letter ∈ replaceAll text splices) : letter ∈ text ∨ ∃ splice ∈ splices, letter ∈ splice.replacement := by
  obtain ⟨position, _, written⟩ := List.mem_flatMap.mp member
  unfold writtenAt at written
  cases found : partAt splices position with
  | some splice =>
    simp only [found] at written
    split at written
    next => exact .inr ⟨splice, (partAt_eq_some found).1, written⟩
    next => exact absurd written List.not_mem_nil
  | none =>
    simp only [found, Option.mem_toList] at written
    exact .inl (List.mem_of_getElem? written)

/-! ## One walk from left to right -/

/-- The text from the cursor on, with the parts replaced in the order given. -/
def walk (text : List Letter) : Nat → List (Splice Letter) → List Letter
  | cursor, [] => text.drop cursor
  | cursor, splice :: rest =>
    (text.take splice.start).drop cursor ++ splice.replacement ++ walk text splice.stop rest

theorem flatMap_untouched (text : List Letter) : ∀ (count cursor : Nat),
    (∀ position, cursor ≤ position → position < cursor + count → partAt splices position = none) →
    (List.range' cursor count).flatMap (writtenAt text splices) = (text.drop cursor).take count
  | 0, cursor, _ => by rw [List.take_zero]; rfl
  | count + 1, cursor, untouched => by
    have here : writtenAt text splices cursor = text[cursor]?.toList := by
      rw [writtenAt, untouched cursor (by omega) (by omega)]
    have rest := flatMap_untouched text count (cursor + 1) fun position after before =>
      untouched position (by omega) (by omega)
    rw [List.range'_succ, List.flatMap_cons, here, rest]
    by_cases inside : cursor < text.length
    · rw [List.getElem?_eq_getElem inside, List.drop_eq_getElem_cons inside, List.take_succ_cons]
      rfl
    · rw [List.getElem?_eq_none (by omega), List.drop_eq_nil_of_le (by omega), List.drop_eq_nil_of_le (by omega)]
      simp

theorem flatMap_covered (text : List Letter) :
    ∀ (count cursor : Nat), splice.start < cursor →
    (∀ position, cursor ≤ position → position < cursor + count → partAt splices position = some splice) →
    (List.range' cursor count).flatMap (writtenAt text splices) = []
  | 0, _, _, _ => rfl
  | count + 1, cursor, after, covered => by
    have here : writtenAt text splices cursor = [] := by
      rw [writtenAt, covered cursor (by omega) (by omega)]
      exact if_neg (by omega)
    have rest := flatMap_covered text count (cursor + 1) (by omega) fun position later before =>
      covered position (by omega) (by omega)
    rw [List.range'_succ, List.flatMap_cons, here, rest]
    rfl

theorem flatMap_past (text : List Letter) {rest : List (Splice Letter)} (count : Nat) :
    (List.range' splice.stop count).flatMap (writtenAt text (splice :: rest)) =
      (List.range' splice.stop count).flatMap (writtenAt text rest) := by
  apply List.flatMap_congr
  intro position member
  have after : splice.stop ≤ position := (List.mem_range'_1.mp member).1
  have outside : ¬ splice.covers position := by
    rw [Splice.covers_iff]
    omega
  rw [writtenAt, writtenAt, partAt, if_neg outside]

theorem range'_split {low middle high : Nat} (lower : low ≤ middle) (upper : middle ≤ high) :
    List.range' low (high - low) = List.range' low (middle - low) ++ List.range' middle (high - middle) := by
  have joined := @List.range'_append_1 low (middle - low) (high - middle)
  rw [Nat.add_sub_cancel' lower] at joined
  rw [joined]
  congr 1
  omega

section

variable (text : List Letter) {splices : List (Splice Letter)} (ordered : splices.Pairwise Splice.Before)
  (proper : ∀ splice ∈ splices, splice.Within text)

include text ordered proper

theorem walk_eq {cursor : Nat} (after : ∀ splice ∈ splices, cursor ≤ splice.start) (inside : cursor ≤ text.length) :
    walk text cursor splices = (List.range' cursor (text.length - cursor)).flatMap (writtenAt text splices) := by
  induction splices generalizing cursor with
  | nil =>
    rw [flatMap_untouched text _ _ (fun _ _ _ => rfl), walk, List.take_of_length_le (by rw [List.length_drop])]
  | cons splice rest ih =>
    obtain ⟨before, orderedRest⟩ := List.pairwise_cons.mp ordered
    obtain ⟨nonEmpty, bound⟩ : splice.start < splice.stop ∧ splice.stop ≤ text.length := proper splice List.mem_cons_self
    have starts : cursor ≤ splice.start := after splice List.mem_cons_self
    have later := ih orderedRest (fun other member => proper other (List.mem_cons_of_mem splice member)) before bound
    -- the bounds of the first part split the positions in three
    have gap : (List.range' cursor (splice.start - cursor)).flatMap (writtenAt text (splice :: rest)) =
        (text.take splice.start).drop cursor := by
      rw [flatMap_untouched, List.drop_take]
      intro position low high
      rw [partAt_eq_none, List.forall_mem_cons]
      refine ⟨by rw [Splice.covers_iff]; omega, fun other member => ?_⟩
      have order : splice.stop ≤ other.start := before other member
      rw [Splice.covers_iff]
      omega
    have part : (List.range' splice.start (splice.stop - splice.start)).flatMap (writtenAt text (splice :: rest)) =
        splice.replacement := by
      have covered (position : Nat) (low : splice.start ≤ position) (high : position < splice.stop) :
          partAt (splice :: rest) position = some splice := by
        rw [partAt, if_pos (Splice.covers_iff.mpr ⟨low, high⟩)]
      obtain ⟨count, size⟩ : ∃ count, splice.stop - splice.start = count + 1 := ⟨splice.stop - splice.start - 1, by omega⟩
      rw [size, List.range'_succ, List.flatMap_cons, writtenAt, covered splice.start le_rfl nonEmpty]
      dsimp only
      have others := flatMap_covered text count (splice.start + 1) (Nat.lt_succ_self splice.start)
        fun position low high => covered position (by omega) (by omega)
      rw [if_pos rfl, others, List.append_nil]
    rw [walk, later, range'_split starts (nonEmpty.le.trans bound), range'_split nonEmpty.le bound, List.flatMap_append,
      List.flatMap_append, gap, part, flatMap_past, List.append_assoc]

theorem walk_eq_replaceAll : walk text 0 splices = replaceAll text splices := by
  rw [walk_eq text ordered proper (fun splice _ => Nat.zero_le splice.start) (Nat.zero_le text.length), replaceAll,
    List.range_eq_range', Nat.sub_zero]

end

/-! ## A text written letter by letter -/

variable {Image : Type}

/-- A part of a text as a part of the text written letter by letter. -/
def Splice.image (write : Letter → List Image) (text : List Letter) (splice : Splice Letter) : Splice Image where
  start := ((text.take splice.start).flatMap write).length
  stop := ((text.take splice.stop).flatMap write).length
  replacement := splice.replacement.flatMap write

theorem OccursAt.image (write : Letter → List Image) {text : List Letter}
    (occurs : OccursAt text pattern position) :
    OccursAt (text.flatMap write) (pattern.flatMap write) ((text.take position).flatMap write).length ∧
      ((text.take (position + pattern.length)).flatMap write).length =
        ((text.take position).flatMap write).length + (pattern.flatMap write).length := by
  obtain ⟨rest, found⟩ := occurs
  have whole : text.flatMap write = (text.take position).flatMap write ++ (pattern ++ rest).flatMap write := by
    rw [found, ← List.flatMap_append, List.take_append_drop]
  constructor
  · refine ⟨rest.flatMap write, ?_⟩
    rw [whole, List.drop_left, List.flatMap_append]
  · rw [List.take_add, ← found, List.take_left, List.flatMap_append, List.length_append]

section

variable (write : Letter → List Image) (text : List Letter)

include write text

theorem flatMap_drop_take {low high : Nat} (order : low ≤ high) :
    ((text.take high).drop low).flatMap write =
      ((text.flatMap write).take ((text.take high).flatMap write).length).drop ((text.take low).flatMap write).length := by
  have whole : text.flatMap write = (text.take high).flatMap write ++ (text.drop high).flatMap write := by
    rw [← List.flatMap_append, List.take_append_drop]
  have early : (text.take high).flatMap write =
      (text.take low).flatMap write ++ ((text.take high).drop low).flatMap write := by
    have cut := List.take_append_drop low (text.take high)
    rw [List.take_take, Nat.min_eq_left order] at cut
    rw [← List.flatMap_append, cut]
  rw [whole, List.take_left, early, List.drop_left]

theorem walk_image
    (ordered : splices.Pairwise Splice.Before) (proper : ∀ splice ∈ splices, splice.Within text) {cursor : Nat}
    (after : ∀ splice ∈ splices, cursor ≤ splice.start) (inside : cursor ≤ text.length) :
    (walk text cursor splices).flatMap write =
      walk (text.flatMap write) ((text.take cursor).flatMap write).length (splices.map (Splice.image write text)) := by
  induction splices generalizing cursor with
  | nil =>
    have rest := flatMap_drop_take write text inside
    rw [List.take_length, List.take_length] at rest
    exact rest
  | cons splice rest ih =>
    obtain ⟨before, orderedRest⟩ := List.pairwise_cons.mp ordered
    obtain ⟨nonEmpty, bound⟩ : splice.start < splice.stop ∧ splice.stop ≤ text.length := proper splice List.mem_cons_self
    have later := ih orderedRest (fun other member => proper other (List.mem_cons_of_mem splice member)) before bound
    rw [walk, List.flatMap_append, List.flatMap_append, later,
      flatMap_drop_take write text (after splice List.mem_cons_self)]
    rfl

theorem length_flatMap_take_mono {low high : Nat} (order : low ≤ high) :
    ((text.take low).flatMap write).length ≤ ((text.take high).flatMap write).length :=
  ((List.take_prefix_take_left order).flatMap write).length_le

theorem pairwise_before_image
    (ordered : splices.Pairwise Splice.Before) : (splices.map (Splice.image write text)).Pairwise Splice.Before :=
  List.pairwise_map.mpr (ordered.imp fun before => length_flatMap_take_mono write text before)

end

theorem Splice.Within.image {write : Letter → List Image} (something : ∀ letter, write letter ≠ [])
    {text : List Letter} (within : splice.Within text) : (splice.image write text).Within (text.flatMap write) := by
  obtain ⟨nonEmpty, bound⟩ : splice.start < splice.stop ∧ splice.stop ≤ text.length := within
  constructor
  · have inside : splice.start < text.length := by omega
    have first : (text.take (splice.start + 1)).flatMap write =
        (text.take splice.start).flatMap write ++ write text[splice.start] := by
      rw [List.take_succ_eq_append_getElem inside, List.flatMap_append, List.flatMap_singleton]
    have grows : 0 < (write text[splice.start]).length := List.length_pos_iff.mpr (something _)
    have next : splice.start + 1 ≤ splice.stop := nonEmpty
    have rest := length_flatMap_take_mono write text next
    rw [first, List.length_append] at rest
    change ((text.take splice.start).flatMap write).length < ((text.take splice.stop).flatMap write).length
    omega
  · have all := length_flatMap_take_mono write text bound
    rw [List.take_length] at all
    exact all

theorem replaceAll_image (write : Letter → List Image) (something : ∀ letter, write letter ≠ []) (text : List Letter)
    {ordered : List (Splice Letter)} (order : ordered.Pairwise Splice.Before)
    (proper : ∀ splice ∈ ordered, splice.Within text) (same : splices.Perm ordered) :
    (replaceAll text splices).flatMap write =
      replaceAll (text.flatMap write) (splices.map (Splice.image write text)) := by
  have images := pairwise_before_image write text order
  have properImages : ∀ image ∈ ordered.map (Splice.image write text), image.Within (text.flatMap write) := by
    intro image member
    obtain ⟨splice, listed, rfl⟩ := List.mem_map.mp member
    exact (proper splice listed).image something
  calc (replaceAll text splices).flatMap write
      = (walk text 0 ordered).flatMap write := by
        rw [walk_eq_replaceAll text order proper, ← replaceAll_perm text (order.imp Splice.Before.apart) same.symm]
    _ = walk (text.flatMap write) 0 (ordered.map (Splice.image write text)) :=
        walk_image write text order proper (fun splice _ => Nat.zero_le splice.start) (Nat.zero_le text.length)
    _ = replaceAll (text.flatMap write) (splices.map (Splice.image write text)) := by
        rw [walk_eq_replaceAll _ images properImages,
          replaceAll_perm _ (images.imp Splice.Before.apart) (same.symm.map (Splice.image write text))]

end SiftKit.Replacement
