import SiftKit.Foundation.Tables

/-! # Tables with a search index kept by hand

A table whose rows know the number of their entry in a second table, the index.  Nothing but the
writes themselves keeps the two in step: an entry is dropped by its number, and a refreshed row gets a
new one if it is to be found at all.
-/

namespace SiftKit.Tables

/-- An entry of an index, the row that it belongs to, and what can be found of it. -/
structure IndexEntry (Text : Type) where
  rowid : Nat
  owner : String
  text : Text

structure IndexedTable (Row Text : Type) where
  rows : List Row
  index : List (IndexEntry Text)

/-- Rows with an id and a column for the number of their entry. -/
class Indexed (Row : Type) where
  id : Row → String
  rowid : Row → Option Nat
  track : Option Nat → Row → Row
  id_track : ∀ number row, id (track number row) = id row
  rowid_track : ∀ number row, rowid (track number row) = number

attribute [simp] Indexed.id_track Indexed.rowid_track

namespace IndexedTable

variable {Row Text : Type} [Indexed Row]

def empty : IndexedTable Row Text := ⟨[], []⟩

def get? (table : IndexedTable Row Text) (id : String) : Option Row :=
  table.rows.find? fun row => decide (Indexed.id row = id)

/-- Rewrites the row with an id; its entry stays as it is. -/
def update (table : IndexedTable Row Text) (id : String) (rewrite : Row → Row) : IndexedTable Row Text :=
  { table with rows := updateWhere (fun row => decide (Indexed.id row = id)) rewrite table.rows }

/-- Drops an entry by its number, and forgets the number. -/
def drop (table : IndexedTable Row Text) (id : String) : Option Nat → IndexedTable Row Text
  | none => table
  | some number =>
    update ⟨table.rows, table.index.filter fun entry => decide (entry.rowid ≠ number)⟩ id (Indexed.track none)

/-- The number of the next entry. -/
def nextRowid (table : IndexedTable Row Text) : Nat := (table.index.map IndexEntry.rowid).max?.getD 0 + 1

/-- Writes an entry, and records its number. -/
def enter (table : IndexedTable Row Text) (id : String) (text : Text) : IndexedTable Row Text :=
  update ⟨table.rows, table.index ++ [⟨table.nextRowid, id, text⟩]⟩ id (Indexed.track (some table.nextRowid))

/-- Drops the entry of a row, and writes it again if the row is to be found. -/
def refresh (table : IndexedTable Row Text) (id : String) (indexable : Row → Bool) (text : Row → Text) :
    IndexedTable Row Text :=
  match table.get? id with
  | none => table
  | some row =>
    let dropped := table.drop id (Indexed.rowid row)
    if indexable row then dropped.enter id (text row) else dropped

/-! ## Rows -/

variable {row : Row} {rewrite : Row → Row}

theorem id_of_get? {table : IndexedTable Row Text} {id : String} (found : table.get? id = some row) :
    row ∈ table.rows ∧ Indexed.id row = id :=
  ⟨List.mem_of_find?_eq_some found, by simpa using List.find?_some found⟩

theorem mem_update {table : IndexedTable Row Text} {id : String} :
    row ∈ (table.update id rewrite).rows ↔
      ∃ before ∈ table.rows, row = if Indexed.id before = id then rewrite before else before := by
  simp [update, mem_updateWhere]

@[simp] theorem index_update (table : IndexedTable Row Text) (id : String) (rewrite : Row → Row) :
    (table.update id rewrite).index = table.index := rfl

/-! ### What a refresh leaves alone -/

variable {Column : Type} {column : Row → Column}

section

variable (table : IndexedTable Row Text) (id : String)

include table id

theorem map_rows_update (kept : ∀ row, column (rewrite row) = column row) :
    (table.update id rewrite).rows.map column = table.rows.map column :=
  map_updateWhere fun row _ _ => kept row

theorem map_rows_drop (rowid : Option Nat)
    (blind : ∀ number row, column (Indexed.track number row) = column row) :
    (table.drop id rowid).rows.map column = table.rows.map column := by
  cases rowid with
  | none => rfl
  | some number => exact map_rows_update _ id (blind none)

theorem map_rows_refresh (indexable : Row → Bool) (text : Row → Text)
    (blind : ∀ number row, column (Indexed.track number row) = column row) :
    (table.refresh id indexable text).rows.map column = table.rows.map column := by
  unfold refresh
  split
  next => rfl
  next row _ =>
    dsimp only
    split
    · rw [enter, map_rows_update _ id (blind _)]
      exact map_rows_drop table id _ blind
    · exact map_rows_drop table id _ blind

end

/-! ## Bookkeeping -/

/-- Every entry belongs to the row that knows its number, and every known number is an entry's. -/
structure Tracked (table : IndexedTable Row Text) : Prop where
  ids : (table.rows.map Indexed.id).Nodup
  rowids : (table.index.map IndexEntry.rowid).Nodup
  owned : ∀ entry ∈ table.index, ∃ row ∈ table.rows, Indexed.id row = entry.owner ∧ Indexed.rowid row = some entry.rowid
  known : ∀ row ∈ table.rows, ∀ number, Indexed.rowid row = some number →
    ∃ entry ∈ table.index, entry.rowid = number ∧ entry.owner = Indexed.id row

theorem tracked_empty : Tracked (empty : IndexedTable Row Text) := by
  constructor <;> simp [empty]

section

variable {table : IndexedTable Row Text}

theorem Tracked.row_unique (tracked : table.Tracked) {first second : Row} (firstMember : first ∈ table.rows)
    (secondMember : second ∈ table.rows) (same : Indexed.id first = Indexed.id second) : first = second :=
  List.inj_on_of_nodup_map tracked.ids firstMember secondMember same

theorem Tracked.entry_unique (tracked : table.Tracked) {first second : IndexEntry Text}
    (firstMember : first ∈ table.index) (secondMember : second ∈ table.index) (same : first.owner = second.owner) :
    first = second := by
  obtain ⟨row, member, isOwner, isNumber⟩ := tracked.owned first firstMember
  obtain ⟨other, otherMember, otherOwner, otherNumber⟩ := tracked.owned second secondMember
  have sameRow : row = other := tracked.row_unique member otherMember (by rw [isOwner, otherOwner, same])
  rw [sameRow, otherNumber] at isNumber
  exact List.inj_on_of_nodup_map tracked.rowids firstMember secondMember (Option.some.inj isNumber).symm

theorem Tracked.entry_iff (tracked : table.Tracked) (member : row ∈ table.rows) :
    (∃ entry ∈ table.index, entry.owner = Indexed.id row) ↔ (Indexed.rowid row).isSome = true := by
  constructor
  · rintro ⟨entry, entryMember, isOwner⟩
    obtain ⟨other, otherMember, otherOwner, isNumber⟩ := tracked.owned entry entryMember
    rw [tracked.row_unique member otherMember (by rw [otherOwner, isOwner]), isNumber]
    rfl
  · intro isSome
    obtain ⟨number, isNumber⟩ := Option.isSome_iff_exists.mp isSome
    obtain ⟨entry, entryMember, _, isOwner⟩ := tracked.known row member number isNumber
    exact ⟨entry, entryMember, isOwner⟩

theorem ids_update {id : String} (keepsId : ∀ row, Indexed.id (rewrite row) = Indexed.id row) :
    (table.update id rewrite).rows.map Indexed.id = table.rows.map Indexed.id :=
  map_updateWhere fun row _ _ => keepsId row

theorem Tracked.update (tracked : table.Tracked) (id : String)
    (keepsId : ∀ row, Indexed.id (rewrite row) = Indexed.id row)
    (keepsRowid : ∀ row, Indexed.rowid (rewrite row) = Indexed.rowid row) : (table.update id rewrite).Tracked := by
  have kept : ∀ row, Indexed.id (if Indexed.id row = id then rewrite row else row) = Indexed.id row ∧
      Indexed.rowid (if Indexed.id row = id then rewrite row else row) = Indexed.rowid row := by
    intro row
    split
    · exact ⟨keepsId row, keepsRowid row⟩
    · exact ⟨rfl, rfl⟩
  refine ⟨by rw [ids_update keepsId]; exact tracked.ids, tracked.rowids, ?_, ?_⟩
  · intro entry member
    obtain ⟨row, rowMember, isOwner, isNumber⟩ := tracked.owned entry member
    exact ⟨_, mem_update.mpr ⟨row, rowMember, rfl⟩, (kept row).1.trans isOwner, (kept row).2.trans isNumber⟩
  · intro row member number isNumber
    obtain ⟨before, beforeMember, rfl⟩ := mem_update.mp member
    obtain ⟨entry, entryMember, sameNumber, isOwner⟩ := tracked.known before beforeMember number ((kept before).2 ▸ isNumber)
    exact ⟨entry, entryMember, sameNumber, isOwner.trans (kept before).1.symm⟩

theorem Tracked.insert (tracked : table.Tracked) (fresh : ∀ other ∈ table.rows, Indexed.id other ≠ Indexed.id row)
    (unknown : Indexed.rowid row = none) : Tracked { table with rows := table.rows ++ [row] } := by
  refine ⟨?_, tracked.rowids, ?_, ?_⟩
  · simp only [List.map_append, List.map_cons, List.map_nil, List.nodup_append, List.nodup_singleton, true_and,
      List.mem_map, List.mem_singleton]
    refine ⟨tracked.ids, ?_⟩
    rintro _ ⟨other, member, rfl⟩ _ rfl
    exact fresh other member
  · intro entry member
    obtain ⟨other, otherMember, isOwner⟩ := tracked.owned entry member
    exact ⟨other, List.mem_append_left _ otherMember, isOwner⟩
  · intro other member number isNumber
    cases List.mem_append.mp member with
    | inl before => exact tracked.known other before number isNumber
    | inr new =>
      rw [List.mem_singleton.mp new, unknown] at isNumber
      cases isNumber

theorem Tracked.mem_index_drop (tracked : table.Tracked) (member : row ∈ table.rows) {entry : IndexEntry Text} :
    entry ∈ (table.drop (Indexed.id row) (Indexed.rowid row)).index ↔
      entry ∈ table.index ∧ entry.owner ≠ Indexed.id row := by
  cases isNumber : Indexed.rowid row with
  | none =>
    simp only [IndexedTable.drop, iff_self_and]
    intro entryMember isOwner
    have isSome := (tracked.entry_iff member).mp ⟨entry, entryMember, isOwner⟩
    rw [isNumber] at isSome
    cases isSome
  | some number =>
    simp only [IndexedTable.drop, index_update, List.mem_filter, decide_eq_true_eq, and_congr_right_iff, not_iff_not]
    intro entryMember
    obtain ⟨dropped, droppedMember, rfl, droppedOwner⟩ := tracked.known row member number isNumber
    constructor
    · intro same
      rw [List.inj_on_of_nodup_map tracked.rowids entryMember droppedMember same, droppedOwner]
    · intro isOwner
      rw [tracked.entry_unique entryMember droppedMember (by rw [isOwner, droppedOwner])]

theorem mem_rows_drop {other : Row} (member : other ∈ (table.drop (Indexed.id row) (Indexed.rowid row)).rows) :
    ∃ before ∈ table.rows, (Indexed.id before ≠ Indexed.id row ∧ other = before) ∨
      (Indexed.id before = Indexed.id row ∧ (other = before ∨ other = Indexed.track none before)) := by
  cases isNumber : Indexed.rowid row with
  | none =>
    rw [isNumber] at member
    refine ⟨other, member, ?_⟩
    by_cases same : Indexed.id other = Indexed.id row
    · exact Or.inr ⟨same, Or.inl rfl⟩
    · exact Or.inl ⟨same, rfl⟩
  | some number =>
    rw [isNumber] at member
    obtain ⟨before, beforeMember, rfl⟩ := mem_update.mp member
    refine ⟨before, beforeMember, ?_⟩
    by_cases same : Indexed.id before = Indexed.id row
    · exact Or.inr ⟨same, Or.inr (if_pos same)⟩
    · exact Or.inl ⟨same, if_neg same⟩

theorem dropped_row (member : row ∈ table.rows) :
    ∃ dropped ∈ (table.drop (Indexed.id row) (Indexed.rowid row)).rows, Indexed.id dropped = Indexed.id row ∧
      Indexed.rowid dropped = none ∧ (dropped = row ∨ dropped = Indexed.track none row) := by
  cases isNumber : Indexed.rowid row with
  | none => exact ⟨row, member, rfl, isNumber, Or.inl rfl⟩
  | some number =>
    exact ⟨_, mem_update.mpr ⟨row, member, (if_pos rfl).symm⟩, Indexed.id_track _ _, Indexed.rowid_track _ _, Or.inr rfl⟩

theorem Tracked.drop (tracked : table.Tracked) (member : row ∈ table.rows) :
    (table.drop (Indexed.id row) (Indexed.rowid row)).Tracked := by
  cases isNumber : Indexed.rowid row with
  | none => exact tracked
  | some number =>
    have mem_index : ∀ entry, entry ∈ (table.drop (Indexed.id row) (some number)).index ↔
        entry ∈ table.index ∧ entry.owner ≠ Indexed.id row := by
      intro entry
      rw [← isNumber]
      exact tracked.mem_index_drop member
    refine ⟨?_, ?_, ?_, ?_⟩
    · rw [IndexedTable.drop, ids_update fun _ => Indexed.id_track _ _]
      exact tracked.ids
    · exact tracked.rowids.sublist (List.filter_sublist.map _)
    · intro entry entryMember
      obtain ⟨inIndex, other⟩ := (mem_index entry).mp entryMember
      obtain ⟨owner, ownerMember, isOwner, ownerNumber⟩ := tracked.owned entry inIndex
      exact ⟨owner, mem_update.mpr ⟨owner, ownerMember, (if_neg (isOwner ▸ other)).symm⟩, isOwner, ownerNumber⟩
    · intro other otherMember otherNumber isOther
      obtain ⟨before, beforeMember, rfl⟩ := mem_update.mp otherMember
      split at isOther
      next => simp at isOther
      next apart =>
        rw [if_neg apart]
        obtain ⟨entry, entryMember, sameNumber, isOwner⟩ := tracked.known before beforeMember otherNumber isOther
        exact ⟨entry, (mem_index entry).mpr ⟨entryMember, isOwner ▸ apart⟩, sameNumber, isOwner⟩

end

omit [Indexed Row] in
theorem lt_nextRowid {table : IndexedTable Row Text} {entry : IndexEntry Text} (member : entry ∈ table.index) :
    entry.rowid < table.nextRowid := by
  have inNumbers : entry.rowid ∈ table.index.map IndexEntry.rowid := List.mem_map_of_mem member
  unfold nextRowid
  cases greatest : (table.index.map IndexEntry.rowid).max? with
  | none =>
    rw [List.max?_eq_none_iff.mp greatest] at inNumbers
    cases inNumbers
  | some number =>
    have bound := (List.max?_eq_some_iff.mp greatest).2 entry.rowid inNumbers
    rw [Option.getD_some]
    omega

theorem Tracked.enter {table : IndexedTable Row Text} (tracked : table.Tracked) (member : row ∈ table.rows)
    (unknown : Indexed.rowid row = none) (text : Text) : (table.enter (Indexed.id row) text).Tracked := by
  refine ⟨?_, ?_, ?_, ?_⟩
  · rw [IndexedTable.enter, ids_update fun _ => Indexed.id_track _ _]
    exact tracked.ids
  · simp only [IndexedTable.enter, index_update, List.map_append, List.map_cons, List.map_nil, List.nodup_append,
      List.nodup_singleton, true_and, List.mem_map, List.mem_singleton]
    refine ⟨tracked.rowids, ?_⟩
    rintro _ ⟨entry, entryMember, rfl⟩ _ rfl
    have := lt_nextRowid entryMember
    omega
  · intro entry entryMember
    simp only [IndexedTable.enter, index_update, List.mem_append, List.mem_singleton] at entryMember
    rcases entryMember with before | rfl
    · obtain ⟨owner, ownerMember, isOwner, ownerNumber⟩ := tracked.owned entry before
      have apart : Indexed.id owner ≠ Indexed.id row := by
        intro same
        rw [tracked.row_unique ownerMember member same, unknown] at ownerNumber
        cases ownerNumber
      exact ⟨owner, mem_update.mpr ⟨owner, ownerMember, (if_neg apart).symm⟩, isOwner, ownerNumber⟩
    · exact ⟨_, mem_update.mpr ⟨row, member, (if_pos rfl).symm⟩, Indexed.id_track _ _, Indexed.rowid_track _ _⟩
  · intro other otherMember number isNumber
    obtain ⟨before, beforeMember, rfl⟩ := mem_update.mp otherMember
    simp only [IndexedTable.enter, index_update, List.mem_append, List.mem_singleton]
    split at isNumber
    next same =>
      rw [Indexed.rowid_track] at isNumber
      refine ⟨_, Or.inr rfl, Option.some.inj isNumber, ?_⟩
      rw [if_pos same, Indexed.id_track, same]
    next apart =>
      obtain ⟨entry, entryMember, sameNumber, isOwner⟩ := tracked.known before beforeMember number isNumber
      exact ⟨entry, Or.inl entryMember, sameNumber, by rw [if_neg apart]; exact isOwner⟩

/-! ## Mirrors -/

/-- Except for the stale rows, those that are to be found have an entry that shows them, and no others. -/
structure MirrorsBut (table : IndexedTable Row Text) (indexable : Row → Bool) (shows : Row → Text → Prop)
    (stale : String → Prop) : Prop where
  tracked : table.Tracked
  present : ∀ row ∈ table.rows, ¬ stale (Indexed.id row) → (Indexed.rowid row).isSome = indexable row
  faithful : ∀ row ∈ table.rows, ¬ stale (Indexed.id row) → ∀ entry ∈ table.index, entry.owner = Indexed.id row →
    shows row entry.text

variable {table : IndexedTable Row Text} {indexable : Row → Bool} {shows : Row → Text → Prop} {stale : String → Prop}

theorem mirrorsBut_empty : MirrorsBut (empty : IndexedTable Row Text) indexable shows stale := by
  refine ⟨tracked_empty, ?_, ?_⟩ <;> simp [empty]

theorem MirrorsBut.change {shown : Row → Text → Prop} {more : String → Prop}
    (mirrors : MirrorsBut table indexable shows stale) (within : ∀ id, stale id → more id)
    (same : ∀ row ∈ table.rows, ¬ more (Indexed.id row) → ∀ text, shows row text → shown row text) :
    MirrorsBut table indexable shown more :=
  ⟨mirrors.tracked, fun row member fresh => mirrors.present row member fun isStale => fresh (within _ isStale),
    fun row member fresh entry entryMember isOwner => same row member fresh _
      (mirrors.faithful row member (fun isStale => fresh (within _ isStale)) entry entryMember isOwner)⟩

section

variable (mirrors : MirrorsBut table indexable shows stale)

include mirrors

theorem MirrorsBut.entry_iff (member : row ∈ table.rows) (fresh : ¬ stale (Indexed.id row)) :
    (∃ entry ∈ table.index, entry.owner = Indexed.id row) ↔ indexable row = true := by
  rw [mirrors.tracked.entry_iff member, mirrors.present row member fresh]

section

variable (id : String) (keepsId : ∀ row, Indexed.id (rewrite row) = Indexed.id row)
  (keepsRowid : ∀ row, Indexed.rowid (rewrite row) = Indexed.rowid row)

include id keepsId keepsRowid

theorem MirrorsBut.update :
    MirrorsBut (table.update id rewrite) indexable shows fun other => stale other ∨ other = id := by
  refine ⟨mirrors.tracked.update id keepsId keepsRowid, ?_, ?_⟩
  · intro row member fresh
    obtain ⟨before, beforeMember, rfl⟩ := mem_update.mp member
    rw [not_or] at fresh
    split at fresh
    next same => exact absurd ((keepsId before).trans same) fresh.2
    next apart =>
      rw [if_neg apart]
      exact mirrors.present before beforeMember fresh.1
  · intro row member fresh
    obtain ⟨before, beforeMember, rfl⟩ := mem_update.mp member
    rw [not_or] at fresh
    split at fresh
    next same => exact absurd ((keepsId before).trans same) fresh.2
    next apart =>
      rw [if_neg apart]
      exact mirrors.faithful before beforeMember fresh.1

theorem MirrorsBut.update_kept (keepsIndexable : ∀ row ∈ table.rows, Indexed.id row = id → indexable (rewrite row) = indexable row)
    (keepsShown : ∀ row ∈ table.rows, Indexed.id row = id → ∀ text, shows row text → shows (rewrite row) text) :
    MirrorsBut (table.update id rewrite) indexable shows stale := by
  refine ⟨mirrors.tracked.update id keepsId keepsRowid, ?_, ?_⟩
  · intro row member fresh
    obtain ⟨before, beforeMember, rfl⟩ := mem_update.mp member
    split at fresh
    next same =>
      rw [if_pos same, keepsRowid, keepsIndexable before beforeMember same]
      exact mirrors.present before beforeMember (by rwa [keepsId] at fresh)
    next apart =>
      rw [if_neg apart]
      exact mirrors.present before beforeMember fresh
  · intro row member fresh entry entryMember isOwner
    obtain ⟨before, beforeMember, rfl⟩ := mem_update.mp member
    split at fresh
    next same =>
      rw [if_pos same] at isOwner ⊢
      rw [keepsId] at isOwner fresh
      exact keepsShown before beforeMember same _ (mirrors.faithful before beforeMember fresh entry entryMember isOwner)
    next apart =>
      rw [if_neg apart] at isOwner ⊢
      exact mirrors.faithful before beforeMember fresh entry entryMember isOwner

end

theorem MirrorsBut.insert (new : ∀ other ∈ table.rows, Indexed.id other ≠ Indexed.id row) (unknown : Indexed.rowid row = none) :
    MirrorsBut ⟨table.rows ++ [row], table.index⟩ indexable shows fun other => stale other ∨ other = Indexed.id row := by
  refine ⟨mirrors.tracked.insert new unknown, ?_, ?_⟩
  · intro other member fresh
    rw [not_or] at fresh
    cases List.mem_append.mp member with
    | inl before => exact mirrors.present other before fresh.1
    | inr isNew => exact absurd (congrArg Indexed.id (List.mem_singleton.mp isNew)) fresh.2
  · intro other member fresh
    rw [not_or] at fresh
    cases List.mem_append.mp member with
    | inl before => exact mirrors.faithful other before fresh.1
    | inr isNew => exact absurd (congrArg Indexed.id (List.mem_singleton.mp isNew)) fresh.2

theorem MirrorsBut.drop (member : row ∈ table.rows) :
    MirrorsBut (table.drop (Indexed.id row) (Indexed.rowid row)) indexable shows
      fun other => stale other ∨ other = Indexed.id row := by
  refine ⟨mirrors.tracked.drop member, ?_, ?_⟩
  · intro other otherMember fresh
    rw [not_or] at fresh
    obtain ⟨before, beforeMember, ⟨_, rfl⟩ | ⟨same, isRow⟩⟩ := mem_rows_drop otherMember
    · exact mirrors.present other beforeMember fresh.1
    · rcases isRow with rfl | rfl
      · exact absurd same fresh.2
      · exact absurd ((Indexed.id_track _ _).trans same) fresh.2
  · intro other otherMember fresh entry entryMember isOwner
    rw [not_or] at fresh
    obtain ⟨before, beforeMember, ⟨_, rfl⟩ | ⟨same, isRow⟩⟩ := mem_rows_drop otherMember
    · exact mirrors.faithful other beforeMember fresh.1 entry ((mirrors.tracked.mem_index_drop member).mp entryMember).1 isOwner
    · rcases isRow with rfl | rfl
      · exact absurd same fresh.2
      · exact absurd ((Indexed.id_track _ _).trans same) fresh.2

theorem MirrorsBut.enter (member : row ∈ table.rows) (unknown : Indexed.rowid row = none) (text : Text) :
    MirrorsBut (table.enter (Indexed.id row) text) indexable shows fun other => stale other ∨ other = Indexed.id row := by
  refine ⟨mirrors.tracked.enter member unknown text, ?_, ?_⟩
  · intro other otherMember fresh
    rw [not_or] at fresh
    obtain ⟨before, beforeMember, rfl⟩ := mem_update.mp otherMember
    split at fresh
    next same => exact absurd ((Indexed.id_track _ _).trans same) fresh.2
    next apart =>
      rw [if_neg apart]
      exact mirrors.present before beforeMember fresh.1
  · intro other otherMember fresh entry entryMember isOwner
    rw [not_or] at fresh
    obtain ⟨before, beforeMember, rfl⟩ := mem_update.mp otherMember
    split at fresh
    next same => exact absurd ((Indexed.id_track _ _).trans same) fresh.2
    next apart =>
      rw [if_neg apart] at isOwner ⊢
      simp only [IndexedTable.enter, index_update, List.mem_append, List.mem_singleton] at entryMember
      rcases entryMember with before | rfl
      · exact mirrors.faithful _ beforeMember fresh.1 entry before isOwner
      · exact absurd isOwner.symm apart

end

theorem MirrorsBut.settle {id : String}
    (mirrors : MirrorsBut table indexable shows fun other => stale other ∨ other = id) (member : row ∈ table.rows)
    (isRow : Indexed.id row = id) (present : (Indexed.rowid row).isSome = indexable row)
    (faithful : ∀ entry ∈ table.index, entry.owner = id → shows row entry.text) :
    MirrorsBut table indexable shows fun other => stale other ∧ other ≠ id := by
  refine ⟨mirrors.tracked, ?_, ?_⟩
  · intro other otherMember fresh
    by_cases same : Indexed.id other = id
    · rw [mirrors.tracked.row_unique otherMember member (same.trans isRow.symm)]
      exact present
    · exact mirrors.present other otherMember (by simpa [same] using fresh)
  · intro other otherMember fresh entry entryMember isOwner
    by_cases same : Indexed.id other = id
    · rw [mirrors.tracked.row_unique otherMember member (same.trans isRow.symm)]
      exact faithful entry entryMember (isOwner.trans same)
    · exact mirrors.faithful other otherMember (by simpa [same] using fresh) entry entryMember isOwner

theorem MirrorsBut.refresh (mirrors : MirrorsBut table indexable shows stale) (id : String) {text : Row → Text}
    (keepsIndexable : ∀ number row, indexable (Indexed.track number row) = indexable row)
    (keepsShown : ∀ number row shown, shows (Indexed.track number row) shown ↔ shows row shown)
    (shown : ∀ row, shows row (text row)) :
    MirrorsBut (table.refresh id indexable text) indexable shows fun other => stale other ∧ other ≠ id := by
  unfold IndexedTable.refresh
  split
  next missing =>
    have absent : ∀ row ∈ table.rows, Indexed.id row ≠ id := by simpa [get?] using missing
    exact ⟨mirrors.tracked,
      fun row member fresh => mirrors.present row member fun isStale => fresh ⟨isStale, absent row member⟩,
      fun row member fresh => mirrors.faithful row member fun isStale => fresh ⟨isStale, absent row member⟩⟩
  next row found =>
    obtain ⟨member, rfl⟩ := id_of_get? found
    obtain ⟨dropped, droppedMember, droppedId, unknown, isDropped⟩ := dropped_row member
    have sameIndexable : indexable dropped = indexable row := by
      rcases isDropped with rfl | rfl
      · rfl
      · exact keepsIndexable _ _
    have noEntry : ∀ entry ∈ (table.drop (Indexed.id row) (Indexed.rowid row)).index, entry.owner ≠ Indexed.id row :=
      fun entry entryMember => ((mirrors.tracked.mem_index_drop member).mp entryMember).2
    dsimp only
    split
    next isIndexable =>
      have entered := (mirrors.drop member).enter droppedMember unknown (text row)
      rw [droppedId] at entered
      have again : MirrorsBut _ indexable shows fun other => stale other ∨ other = Indexed.id row :=
        entered.change (fun other isStale => isStale.elim id Or.inr) fun _ _ _ _ isShown => isShown
      refine again.settle (mem_update.mpr ⟨dropped, droppedMember, (if_pos droppedId).symm⟩) ?_ ?_ ?_
      · rw [Indexed.id_track, droppedId]
      · rw [Indexed.rowid_track, keepsIndexable, sameIndexable, isIndexable]
        rfl
      · intro entry entryMember isOwner
        simp only [IndexedTable.enter, index_update, List.mem_append, List.mem_singleton] at entryMember
        rcases entryMember with before | rfl
        · exact absurd isOwner (noEntry entry before)
        · rw [keepsShown]
          rcases isDropped with rfl | rfl
          · exact shown _
          · exact (keepsShown _ _ _).mpr (shown _)
    next notIndexable =>
      refine (mirrors.drop member).settle droppedMember droppedId ?_ ?_
      · rw [unknown, sameIndexable]
        simpa using notIndexable
      · intro entry entryMember isOwner
        exact absurd isOwner (noEntry entry entryMember)

end IndexedTable

end SiftKit.Tables
