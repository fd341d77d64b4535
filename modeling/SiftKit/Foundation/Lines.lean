import Mathlib.Data.List.DropRight

/-! # Lines

A text is its lines joined by a separator.  Where no line has the separator in it, and every line starts with
something that is not blank, trimming the text trims the end of its last line.
-/

namespace SiftKit.Lines

variable {Symbol : Type} {separator : Symbol} {isBlank : Symbol → Bool}

/-- A line without the separator that does not start blank. -/
structure Solid (separator : Symbol) (isBlank : Symbol → Bool) (line : List Symbol) : Prop where
  starts : ∃ first rest, line = first :: rest ∧ isBlank first = false
  noSeparator : separator ∉ line

variable {line : List Symbol} (lines : List (List Symbol))

theorem Solid.ne_nil (solid : Solid separator isBlank line) : line ≠ [] := by
  obtain ⟨first, rest, rfl, _⟩ := solid.starts
  exact List.cons_ne_nil first rest

theorem Solid.append {more : List Symbol} (solid : Solid separator isBlank line) (noSeparator : separator ∉ more) :
    Solid separator isBlank (line ++ more) := by
  obtain ⟨first, rest, rfl, isFirst⟩ := solid.starts
  refine ⟨⟨first, rest ++ more, rfl, isFirst⟩, ?_⟩
  rw [List.mem_append, not_or]
  exact ⟨solid.noSeparator, noSeparator⟩

/-! ## Trimming -/

theorem rdropWhile_append {early late : List Symbol} (notBlank : late.rdropWhile isBlank ≠ []) :
    (early ++ late).rdropWhile isBlank = early ++ late.rdropWhile isBlank := by
  unfold List.rdropWhile at notBlank ⊢
  have present : (late.reverse.dropWhile isBlank).isEmpty = false := by
    simpa using notBlank
  rw [List.reverse_append, List.dropWhile_append, present, if_neg Bool.false_ne_true, List.reverse_append,
    List.reverse_reverse]

theorem Solid.rdropWhile_ne_nil (solid : Solid separator isBlank line) : line.rdropWhile isBlank ≠ [] := by
  obtain ⟨first, rest, rfl, isFirst⟩ := solid.starts
  intro blank
  have all := List.rdropWhile_eq_nil_iff.mp blank first List.mem_cons_self
  rw [isFirst] at all
  cases all

theorem Solid.rdropWhile (solid : Solid separator isBlank line) :
    Solid separator isBlank (line.rdropWhile isBlank) := by
  obtain ⟨suffix, whole⟩ := List.rdropWhile_prefix isBlank line
  constructor
  · obtain ⟨first, rest, isLine, isFirst⟩ := solid.starts
    cases trimmed : line.rdropWhile isBlank with
    | nil => exact absurd trimmed solid.rdropWhile_ne_nil
    | cons other others =>
      rw [trimmed, isLine, List.cons_append] at whole
      cases whole
      exact ⟨first, others, rfl, isFirst⟩
  · intro within
    apply solid.noSeparator
    rw [← whole]
    exact List.mem_append_left _ within

/-- A text that is not empty and has nothing to trim at either end. -/
structure Whole (isBlank : Symbol → Bool) (text : List Symbol) : Prop where
  ne_nil : text ≠ []
  dropWhile_eq : text.dropWhile isBlank = text
  rdropWhile_eq : text.rdropWhile isBlank = text

theorem Whole.append {early late : List Symbol} (first : Whole isBlank early) (middle : List Symbol)
    (last : Whole isBlank late) : Whole isBlank (early ++ middle ++ late) := by
  constructor
  · intro empty
    exact first.ne_nil (List.append_eq_nil_iff.mp (List.append_eq_nil_iff.mp empty).1).1
  · have present : (early.dropWhile isBlank).isEmpty = false := by
      rw [first.dropWhile_eq]
      simpa using first.ne_nil
    rw [List.append_assoc, List.dropWhile_append, present, if_neg Bool.false_ne_true, first.dropWhile_eq]
  · rw [rdropWhile_append (by rw [last.rdropWhile_eq]; exact last.ne_nil), last.rdropWhile_eq]

theorem Whole.intercalate {parts : List (List Symbol)} (middle : List Symbol) (present : parts ≠ [])
    (whole : ∀ part ∈ parts, Whole isBlank part) : Whole isBlank (middle.intercalate parts) := by
  induction parts with
  | nil => exact absurd rfl present
  | cons part rest ih =>
    have first := whole part List.mem_cons_self
    cases rest with
    | nil => simpa using first
    | cons next rest =>
      rw [List.intercalate_cons_of_ne_nil (List.cons_ne_nil next rest)]
      apply first.append middle
      exact ih (List.cons_ne_nil next rest) fun other isOther => whole other (List.mem_cons_of_mem _ isOther)

/-- The lines of which the last is trimmed at its end. -/
def trimLast (isBlank : Symbol → Bool) : List (List Symbol) → List (List Symbol)
  | [] => []
  | [line] => [line.rdropWhile isBlank]
  | line :: next :: rest => line :: trimLast isBlank (next :: rest)

theorem trimLast_concat (last : List Symbol) :
    trimLast isBlank (lines ++ [last]) = lines ++ [last.rdropWhile isBlank] := by
  induction lines with
  | nil => rfl
  | cons line rest ih =>
    cases rest with
    | nil => rfl
    | cons next rest =>
      rw [List.cons_append, List.cons_append]
      show line :: trimLast isBlank (next :: rest ++ [last]) = _
      rw [ih]
      rfl

@[simp] theorem length_trimLast : (trimLast isBlank lines).length = lines.length := by
  induction lines using List.reverseRecOn with
  | nil => rfl
  | append_singleton lines last _ => simp [trimLast_concat]

theorem trimLast_trimLast : trimLast isBlank (trimLast isBlank lines) = trimLast isBlank lines := by
  induction lines using List.reverseRecOn with
  | nil => rfl
  | append_singleton lines last _ => rw [trimLast_concat, trimLast_concat, List.rdropWhile_idempotent]

theorem trimLast_take (count : Nat) :
    trimLast isBlank ((trimLast isBlank lines).take count) = trimLast isBlank (lines.take count) := by
  induction lines using List.reverseRecOn with
  | nil => rfl
  | append_singleton lines last _ =>
    rcases Nat.lt_or_ge lines.length count with whole | part
    · rw [List.take_of_length_le (by simp; omega), List.take_of_length_le (by simp; omega), trimLast_trimLast]
    · rw [trimLast_concat, List.take_append_of_le_length part, List.take_append_of_le_length part]

theorem solid_trimLast {lines : List (List Symbol)} (solid : ∀ line ∈ lines, Solid separator isBlank line) :
    ∀ line ∈ trimLast isBlank lines, Solid separator isBlank line := by
  induction lines using List.reverseRecOn with
  | nil => exact solid
  | append_singleton lines last _ =>
    rw [trimLast_concat]
    intro line member
    rcases List.mem_append.mp member with early | isLast
    · exact solid line (List.mem_append_left _ early)
    · rw [List.mem_singleton.mp isLast]
      exact (solid last (by simp)).rdropWhile

/-! ## Joining -/

theorem intercalate_concat (last : List Symbol) :
    [separator].intercalate (lines ++ [last]) = lines.flatMap (fun line => line ++ [separator]) ++ last := by
  induction lines with
  | nil => simp
  | cons line rest ih =>
    rw [List.cons_append, List.intercalate_cons_of_ne_nil (by simp), ih]
    simp

theorem intercalate_append {early late : List (List Symbol)} (someEarly : early ≠ []) (someLate : late ≠ []) :
    [separator].intercalate (early ++ late) =
      [separator].intercalate early ++ separator :: [separator].intercalate late := by
  induction early with
  | nil => exact absurd rfl someEarly
  | cons line rest ih =>
    cases rest with
    | nil =>
      rw [List.singleton_append, List.intercalate_cons_of_ne_nil someLate]
      simp
    | cons next rest =>
      rw [List.cons_append, List.intercalate_cons_of_ne_nil (by simp), ih (by simp),
        List.intercalate_cons_of_ne_nil (List.cons_ne_nil next rest)]
      simp

section

variable {lines : List (List Symbol)} (solid : ∀ line ∈ lines, Solid separator isBlank line)

include solid

theorem dropWhile_intercalate :
    ([separator].intercalate lines).dropWhile isBlank = [separator].intercalate lines := by
  cases lines with
  | nil => rfl
  | cons line rest =>
    obtain ⟨first, others, rfl, isFirst⟩ := (solid line List.mem_cons_self).starts
    cases rest with
    | nil => simp [isFirst]
    | cons next rest =>
      rw [List.intercalate_cons_of_ne_nil (List.cons_ne_nil next rest)]
      simp [isFirst]

theorem rdropWhile_intercalate :
    ([separator].intercalate lines).rdropWhile isBlank = [separator].intercalate (trimLast isBlank lines) := by
  induction lines using List.reverseRecOn with
  | nil => rfl
  | append_singleton lines last _ =>
    rw [trimLast_concat, intercalate_concat, intercalate_concat]
    exact rdropWhile_append (solid last (by simp)).rdropWhile_ne_nil

end

/-! ## Splitting -/

theorem separator_not_mem_splitOn [DecidableEq Symbol] {text : List Symbol} (member : line ∈ text.splitOn separator) :
    separator ∉ line := by
  induction text generalizing line with
  | nil =>
    rw [List.splitOn_nil, List.mem_singleton] at member
    simp [member]
  | cons symbol rest ih =>
    rw [List.splitOn_cons_eq_if_modifyHead] at member
    split at member
    · rcases List.mem_cons.mp member with rfl | later
      · simp
      · exact ih later
    next apart =>
      cases split : rest.splitOn separator with
      | nil => exact absurd split (List.splitOn_ne_nil separator rest)
      | cons first others =>
        rw [split] at member ih
        rcases List.mem_cons.mp member with rfl | later
        · rw [List.mem_cons, not_or]
          exact ⟨fun same => apart (by simp [same]), ih List.mem_cons_self⟩
        · exact ih (List.mem_cons_of_mem _ later)

end SiftKit.Lines
