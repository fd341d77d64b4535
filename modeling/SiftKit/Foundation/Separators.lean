import Mathlib.Data.List.Basic

/-! # Fields joined by a separator

What a joined text tells of its fields.  A field without the separator is read back from either end; a field that may
hold the separator is read back where the field after it can be told from it.
-/

namespace SiftKit.Separators

variable {Symbol : Type*} {separator : Symbol}

variable {first second early late : List Symbol}

/-- Two cuts of one text are the same, or one of them is the earlier. -/
theorem cut_cases (same : first ++ separator :: early = second ++ separator :: late) :
    (first = second ∧ early = late) ∨
      (∃ middle, first = second ++ separator :: middle ∧ late = middle ++ separator :: early) ∨
      ∃ middle, second = first ++ separator :: middle ∧ early = middle ++ separator :: late := by
  cases List.append_eq_append_iff.mp same with
  | inl longer =>
    obtain ⟨between, isSecond, isEarly⟩ := longer
    cases between with
    | nil => exact .inl ⟨by simp [isSecond], by simpa using isEarly⟩
    | cons unit middle =>
      obtain ⟨rfl, rest⟩ := List.cons_eq_cons.mp isEarly
      exact .inr (.inr ⟨middle, isSecond, rest⟩)
  | inr shorter =>
    obtain ⟨between, isFirst, isLate⟩ := shorter
    cases between with
    | nil => exact .inl ⟨by simp [isFirst], by simpa using isLate.symm⟩
    | cons unit middle =>
      obtain ⟨rfl, rest⟩ := List.cons_eq_cons.mp isLate
      exact .inr (.inl ⟨middle, isFirst, rest⟩)

theorem first_inj (absentFirst : separator ∉ first) (absentSecond : separator ∉ second) :
    first ++ separator :: early = second ++ separator :: late ↔ first = second ∧ early = late := by
  constructor
  · intro same
    obtain both | ⟨middle, isFirst, _⟩ | ⟨middle, isSecond, _⟩ := cut_cases same
    · exact both
    · exact absurd (isFirst ▸ by simp) absentFirst
    · exact absurd (isSecond ▸ by simp) absentSecond
  · rintro ⟨rfl, rfl⟩
    rfl

theorem last_inj (absentEarly : separator ∉ early) (absentLate : separator ∉ late) :
    first ++ separator :: early = second ++ separator :: late ↔ first = second ∧ early = late := by
  constructor
  · intro same
    obtain both | ⟨middle, _, isLate⟩ | ⟨middle, _, isEarly⟩ := cut_cases same
    · exact both
    · exact absurd (isLate ▸ by simp) absentLate
    · exact absurd (isEarly ▸ by simp) absentEarly
  · rintro ⟨rfl, rfl⟩
    rfl

variable {isMark : Symbol → Bool}

/-- A marked field that starts after a cut does not start earlier in unmarked text. -/
theorem marked_not_within {field middle rest : List Symbol} (absent : separator ∉ field)
    (marked : ∃ symbol ∈ field, isMark symbol = true) (plain : ∀ symbol ∈ middle, isMark symbol = false) :
    field ++ separator :: rest ≠ middle ++ separator :: late := by
  intro same
  have inside : ∀ symbol ∈ field, symbol ∈ middle := by
    obtain ⟨isField, _⟩ | ⟨between, isField, _⟩ | ⟨between, isMiddle, _⟩ := cut_cases same
    · intro symbol member
      exact isField ▸ member
    · exact absurd (isField ▸ by simp) absent
    · intro symbol member
      rw [isMiddle]
      exact List.mem_append_left _ member
  obtain ⟨symbol, member, isMarked⟩ := marked
  rw [plain symbol (inside symbol member)] at isMarked
  cases isMarked

/-- A field with a mark, after a text without one, is read back although that text may hold the separator. -/
theorem marked_inj {field other rest : List Symbol} (plainFirst : ∀ symbol ∈ first, isMark symbol = false)
    (plainSecond : ∀ symbol ∈ second, isMark symbol = false) (absentField : separator ∉ field)
    (absentOther : separator ∉ other) (markedField : ∃ symbol ∈ field, isMark symbol = true)
    (markedOther : ∃ symbol ∈ other, isMark symbol = true) :
    first ++ separator :: (field ++ separator :: rest) = second ++ separator :: (other ++ separator :: late) ↔
      first = second ∧ field = other ∧ rest = late := by
  constructor
  · intro same
    obtain ⟨isFirst, fields⟩ | ⟨middle, isFirst, fields⟩ | ⟨middle, isSecond, fields⟩ := cut_cases same
    · exact ⟨isFirst, (first_inj absentField absentOther).mp fields⟩
    · have plain : ∀ symbol ∈ middle, isMark symbol = false := by
        intro symbol member
        exact plainFirst symbol (by simp [isFirst, member])
      exact absurd fields (marked_not_within absentOther markedOther plain)
    · have plain : ∀ symbol ∈ middle, isMark symbol = false := by
        intro symbol member
        exact plainSecond symbol (by simp [isSecond, member])
      exact absurd fields (marked_not_within absentField markedField plain)
  · rintro ⟨rfl, rfl, rfl⟩
    rfl

end SiftKit.Separators
