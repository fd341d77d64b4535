import Mathlib.Data.List.Sort

/-! # Tables of rows

A database table is the list of its rows in row-id order: an insert appends unless a
uniqueness constraint refuses the row, and an update rewrites the selected rows in place.
A column that numbers rows by `MAX + 1` counts them.
-/

namespace SiftKit.Tables

variable {Row Column : Type}

/-! ## Insert and update -/

/-- `INSERT`: refused when a row of the table conflicts with the new one. -/
def insertRow (conflicts : Row → Row → Bool) (row : Row) (table : List Row) : Option (List Row) :=
  if table.any (conflicts row) then none else some (table ++ [row])

/-- `UPDATE … WHERE`. -/
def updateWhere (selects : Row → Bool) (rewrite : Row → Row) (table : List Row) : List Row :=
  table.map fun row => if selects row then rewrite row else row

/-- `ORDER BY … LIMIT 1`: the row that no other one precedes. -/
def firstBy (precedes : Row → Row → Bool) : List Row → Option Row
  | [] => none
  | row :: rest =>
    match firstBy precedes rest with
    | none => some row
    | some first => if precedes first row then some first else some row

variable {table : List Row} {row : Row} {selects : Row → Bool} {rewrite : Row → Row} {query : Row → Bool}

theorem forall_mem_snoc {Holds : Row → Prop} :
    (∀ other ∈ table ++ [row], Holds other) ↔ (∀ other ∈ table, Holds other) ∧ Holds row := by
  rw [List.forall_mem_append, List.forall_mem_singleton]

theorem nodup_map_snoc {key : Row → Column} (distinct : (table.map key).Nodup)
    (fresh : ∀ other ∈ table, key other ≠ key row) : ((table ++ [row]).map key).Nodup := by
  rw [List.map_append, List.map_singleton, List.nodup_append]
  refine ⟨distinct, List.nodup_singleton _, ?_⟩
  simpa using fresh

theorem mem_of_firstBy {precedes : Row → Row → Bool} (first : firstBy precedes table = some row) : row ∈ table := by
  induction table with
  | nil => cases first
  | cons head rest ih =>
    unfold firstBy at first
    split at first
    · cases first
      exact List.mem_cons_self
    next found earlier =>
      split at first
      · cases first
        exact List.mem_cons_of_mem _ (ih earlier)
      · cases first
        exact List.mem_cons_self

/-- `ORDER BY`. -/
def orderBy (precedes : Row → Row → Bool) (table : List Row) : List Row :=
  table.insertionSort fun left right => precedes left right = true

theorem perm_orderBy (precedes : Row → Row → Bool) (table : List Row) : (orderBy precedes table).Perm table :=
  List.perm_insertionSort _ table

@[simp] theorem mem_orderBy {precedes : Row → Row → Bool} : row ∈ orderBy precedes table ↔ row ∈ table :=
  (perm_orderBy precedes table).mem_iff

theorem insertRow_eq_some {conflicts : Row → Row → Bool} {inserted : List Row}
    (accepted : insertRow conflicts row table = some inserted) :
    inserted = table ++ [row] ∧ ∀ other ∈ table, conflicts row other = false := by
  unfold insertRow at accepted
  split at accepted
  · cases accepted
  next free =>
    cases accepted
    exact ⟨rfl, by simpa using free⟩

theorem mem_updateWhere :
    row ∈ updateWhere selects rewrite table ↔
      ∃ before ∈ table, row = if selects before then rewrite before else before := by
  simp only [updateWhere, List.mem_map, eq_comm]

theorem length_le_one_of_unique {Key : Type} (key : Row → Key) (distinct : (table.map key).Nodup)
    (same : ∀ first second, first ∈ table → second ∈ table → key first = key second) : table.length ≤ 1 := by
  match table with
  | [] => simp
  | [row] => simp
  | first :: second :: rest =>
    have repeated := same first second (by simp) (by simp)
    simp only [List.map_cons, List.nodup_cons, List.mem_cons, not_or] at distinct
    exact absurd repeated distinct.1.1

theorem map_updateWhere {column : Row → Column}
    (kept : ∀ row ∈ table, selects row = true → column (rewrite row) = column row) :
    (updateWhere selects rewrite table).map column = table.map column := by
  simp only [updateWhere, List.map_map, List.map_inj_left, Function.comp_apply]
  intro row member
  by_cases selected : selects row = true
  · simp only [selected, if_true, kept row member selected]
  · simp only [selected, if_false, Bool.false_eq_true]

theorem map_updateWhere_eq {column : Row → Column} {columnSelects : Column → Bool} {columnRewrite : Column → Column}
    (rows : ∀ row ∈ table, column (if selects row then rewrite row else row) =
      if columnSelects (column row) then columnRewrite (column row) else column row) :
    (updateWhere selects rewrite table).map column =
      updateWhere columnSelects columnRewrite (table.map column) := by
  simp only [updateWhere, List.map_map, List.map_inj_left, Function.comp_apply]
  exact rows

theorem filter_updateWhere_of_disjoint
    (outside : ∀ row ∈ table, selects row = true → query row = false ∧ query (rewrite row) = false) :
    (updateWhere selects rewrite table).filter query = table.filter query := by
  induction table with
  | nil => rfl
  | cons row rest ih =>
    have restKept := ih fun other member => outside other (List.mem_cons_of_mem _ member)
    simp only [updateWhere, List.map_cons, List.filter_cons] at restKept ⊢
    by_cases selected : selects row = true
    · obtain ⟨rowOut, rewrittenOut⟩ := outside row List.mem_cons_self selected
      simp only [selected, if_true, rowOut, rewrittenOut, Bool.false_eq_true, if_false, restKept]
    · simp only [selected, Bool.false_eq_true, if_false, restKept]

theorem filter_updateWhere (kept : ∀ row ∈ table, selects row = true → query (rewrite row) = query row) :
    (updateWhere selects rewrite table).filter query =
      updateWhere selects rewrite (table.filter query) := by
  induction table with
  | nil => rfl
  | cons row rest ih =>
    have restKept := ih fun other member => kept other (List.mem_cons_of_mem _ member)
    have sameQuery : query (if selects row then rewrite row else row) = query row := by
      by_cases selected : selects row = true
      · simp only [selected, if_true, kept row List.mem_cons_self selected]
      · simp only [selected, Bool.false_eq_true, if_false]
    simp only [updateWhere, List.map_cons, List.filter_cons] at restKept ⊢
    simp only [sameQuery, restKept]
    split <;> rfl

theorem updateWhere_append (selects : Row → Bool) (rewrite : Row → Row) (first second : List Row) :
    updateWhere selects rewrite (first ++ second) = updateWhere selects rewrite first ++ updateWhere selects rewrite second :=
  List.map_append

theorem updateWhere_of_none (outside : ∀ row ∈ table, selects row = false) :
    updateWhere selects rewrite table = table := by
  have same : table.map (fun row => if selects row then rewrite row else row) = table.map id := by
    apply List.map_congr_left
    intro row member
    simp [outside row member]
  rw [updateWhere, same, List.map_id]

theorem foldl_updateWhere {Key : Type} [BEq Key] [LawfulBEq Key] (key : Row → Key) (rewrite : Row → Row)
    (kept : ∀ row, key (rewrite row) = key row) (once : ∀ row, rewrite (rewrite row) = rewrite row) (keys : List Key)
    (table : List Row) :
    keys.foldl (fun rows name => updateWhere (fun row => key row == name) rewrite rows) table =
      updateWhere (fun row => keys.contains (key row)) rewrite table := by
  induction keys generalizing table with
  | nil => exact (updateWhere_of_none fun _ _ => rfl).symm
  | cons name rest ih =>
    rw [List.foldl_cons, ih]
    simp only [updateWhere, List.map_map, List.map_inj_left, Function.comp_apply]
    intro row _
    by_cases here : key row = name
    · by_cases again : rest.contains name = true
      · simp [here, kept, once]
      · have gone : name ∉ rest := by simpa using again
        simp [here, kept, gone]
    · have apart : (key row == name) = false := by simpa using here
      simp [apart]

theorem updateWhere_between {before after : List Row} (selected : selects row = true)
    (outsideBefore : ∀ other ∈ before, selects other = false) (outsideAfter : ∀ other ∈ after, selects other = false) :
    updateWhere selects rewrite (before ++ row :: after) = before ++ rewrite row :: after := by
  rw [updateWhere_append, updateWhere_of_none outsideBefore]
  have rest : updateWhere selects rewrite after = after := updateWhere_of_none outsideAfter
  unfold updateWhere at rest ⊢
  rw [List.map_cons, if_pos selected, rest]

theorem exists_updateWhere_between {Key : Type} [DecidableEq Key] {key : Row → Key} (distinct : (table.map key).Nodup)
    (member : row ∈ table) :
    ∃ before after, table = before ++ row :: after ∧
      ∀ rewrite, updateWhere (fun other => key other == key row) rewrite table = before ++ rewrite row :: after := by
  obtain ⟨before, after, rfl⟩ := List.append_of_mem member
  refine ⟨before, after, rfl, fun rewrite => updateWhere_between (by simp) ?_ ?_⟩
  · intro other isBefore
    simp only [List.map_append, List.map_cons, List.nodup_append, List.mem_map, List.mem_cons] at distinct
    simpa using distinct.2.2 _ ⟨other, isBefore, rfl⟩ _ (Or.inl rfl)
  · intro other isAfter
    simp only [List.map_append, List.map_cons, List.nodup_append, List.nodup_cons, List.mem_map] at distinct
    simp only [beq_eq_false_iff_ne, ne_eq]
    exact fun same => distinct.2.1.1 ⟨other, isAfter, same⟩

theorem filterMap_updateWhere {read : Row → Option Column}
    (kept : ∀ row ∈ table, selects row = true → read (rewrite row) = read row) :
    (updateWhere selects rewrite table).filterMap read = table.filterMap read := by
  unfold updateWhere
  rw [List.filterMap_map]
  apply List.filterMap_congr
  intro row member
  simp only [Function.comp_apply]
  split
  next selected => exact kept row member selected
  · rfl

theorem countP_updateWhere_le {counts : Row → Bool}
    (shrinks : ∀ row ∈ table, selects row = true → counts (rewrite row) = true → counts row = true) :
    (updateWhere selects rewrite table).countP counts ≤ table.countP counts := by
  unfold updateWhere
  rw [List.countP_map]
  apply List.countP_mono_left
  intro row member counted
  simp only [Function.comp_apply] at counted
  split at counted
  next selected => exact shrinks row member selected counted
  · exact counted

theorem filter_updateWhere_leaving (table : List Row)
    (leaves : ∀ row, selects row = true → query (rewrite row) = false) :
    (updateWhere selects rewrite table).filter query = table.filter fun row => query row && !selects row := by
  induction table with
  | nil => rfl
  | cons row rest ih =>
    simp only [updateWhere, List.map_cons, List.filter_cons] at ih ⊢
    cases selected : selects row with
    | true => simp [leaves row selected, ih]
    | false => simp [ih]

theorem find?_updateWhere (selects : Row → Bool) (rewrite : Row → Row) (table : List Row)
    (kept : ∀ row ∈ table, selects row = true → selects (rewrite row) = true) :
    (updateWhere selects rewrite table).find? selects = (table.find? selects).map rewrite := by
  induction table with
  | nil => rfl
  | cons row rest ih =>
    have restKept := ih fun other member => kept other (List.mem_cons_of_mem _ member)
    simp only [updateWhere, List.map_cons, List.find?_cons] at restKept ⊢
    by_cases selected : selects row = true
    · simp only [selected, if_true, kept row List.mem_cons_self selected, Option.map_some]
    · simp only [selected, Bool.false_eq_true, if_false, restKept]

theorem find?_updateWhere_kept (selects : Row → Bool) (table : List Row)
    (kept : ∀ row, query (rewrite row) = query row) :
    (updateWhere selects rewrite table).find? query =
      (table.find? query).map fun row => if selects row then rewrite row else row := by
  have same : (query ∘ fun row => if selects row then rewrite row else row) = query := by
    funext row
    simp only [Function.comp_apply]
    split
    · exact kept row
    · rfl
  rw [updateWhere, List.find?_map, same]

theorem find?_updateWhere_other
    (outside : ∀ row ∈ table, selects row = true → query row = false ∧ query (rewrite row) = false) :
    (updateWhere selects rewrite table).find? query = table.find? query := by
  rw [← List.head?_filter, ← List.head?_filter, filter_updateWhere_of_disjoint outside]

theorem updateWhere_eq_of_rows {first second both : Row → Bool}
    (rows : ∀ row ∈ table,
      (if second (if first row then rewrite row else row) then rewrite (if first row then rewrite row else row)
        else if first row then rewrite row else row) = if both row then rewrite row else row) :
    updateWhere second rewrite (updateWhere first rewrite table) = updateWhere both rewrite table := by
  simp only [updateWhere, List.map_map, List.map_inj_left, Function.comp_apply]
  exact rows

/-! ## Numbered columns -/

/-- The numbers are 1, 2, …, n, in this order. -/
def Numbered (numbers : List Nat) : Prop := numbers = List.range' 1 numbers.length

section

variable {numbers : List Nat} (numbered : Numbered numbers)

include numbered

theorem Numbered.mem_iff {number : Nat} : number ∈ numbers ↔ 1 ≤ number ∧ number ≤ numbers.length := by
  have inRange : number ∈ numbers ↔ number ∈ List.range' 1 numbers.length := by
    rw [← numbered]
  rw [inRange, List.mem_range'_1]
  omega

theorem Numbered.snoc :
    Numbered (numbers ++ [numbers.length + 1]) := by
  unfold Numbered at *
  rw [List.length_append, List.length_singleton, List.range'_concat, ← numbered]
  simp [Nat.add_comm]

theorem Numbered.max_eq_length :
    numbers.max?.getD 0 = numbers.length := by
  cases count : numbers.length with
  | zero =>
    rw [List.length_eq_zero_iff.mp count]
    rfl
  | succ last =>
    have greatest : numbers.max? = some (last + 1) := by
      simp only [List.max?_eq_some_iff, numbered.mem_iff, count]
      exact ⟨by omega, fun number inRange => inRange.2⟩
    rw [greatest, Option.getD_some]

end

end SiftKit.Tables
