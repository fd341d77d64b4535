import Mathlib.Data.List.Nodup

/-! # Maps that remember their order

A map as the source language has it: its entries in the order in which their keys were first
set; setting a key again keeps its place.
-/

namespace SiftKit

structure OrderedMap (Key Value : Type) where
  entries : List (Key × Value)
  distinct : (entries.map Prod.fst).Nodup

namespace OrderedMap

variable {Key Value : Type} [DecidableEq Key]

/-! ## Entries -/

def setEntry (entries : List (Key × Value)) (key : Key) (value : Value) : List (Key × Value) :=
  match entries with
  | [] => [(key, value)]
  | (name, old) :: rest => if name = key then (key, value) :: rest else (name, old) :: setEntry rest key value

theorem lookup_cons (key name : Key) (value : Value) (rest : List (Key × Value)) :
    ((name, value) :: rest).lookup key = if key = name then some value else rest.lookup key := by
  by_cases same : key = name
  · simp [same]
  · have apart : (key == name) = false := by simpa using same
    simp [List.lookup_cons, apart, same]

theorem keys_setEntry (entries : List (Key × Value)) (key : Key) (value : Value) :
    (setEntry entries key value).map Prod.fst =
      if key ∈ entries.map Prod.fst then entries.map Prod.fst else entries.map Prod.fst ++ [key] := by
  induction entries with
  | nil => simp [setEntry]
  | cons entry rest ih =>
    obtain ⟨name, old⟩ := entry
    by_cases same : name = key
    · simp [setEntry, same]
    · simp only [setEntry, if_neg same, List.map_cons, ih, List.mem_cons, Ne.symm same, false_or]
      split <;> rfl

theorem lookup_setEntry (entries : List (Key × Value)) (key other : Key) (value : Value) :
    (setEntry entries key value).lookup other = if other = key then some value else entries.lookup other := by
  induction entries with
  | nil => simp [setEntry, lookup_cons]
  | cons entry rest ih =>
    obtain ⟨name, old⟩ := entry
    by_cases same : name = key
    · subst same
      by_cases here : other = name <;> simp [setEntry, lookup_cons, here]
    · simp only [setEntry, if_neg same, lookup_cons, ih]
      by_cases here : other = name
      · simp [here, same]
      · simp [here]

variable {entries : List (Key × Value)}

theorem setEntry_absent {key : Key} (absent : key ∉ entries.map Prod.fst) (value : Value) :
    setEntry entries key value = entries ++ [(key, value)] := by
  induction entries with
  | nil => rfl
  | cons entry rest ih =>
    rw [List.map_cons, List.mem_cons, not_or] at absent
    rw [setEntry, if_neg (Ne.symm absent.1), ih absent.2]
    rfl

theorem mem_of_lookup {key : Key} {value : Value} (found : entries.lookup key = some value) :
    (key, value) ∈ entries := by
  obtain ⟨early, late, rfl, _⟩ := List.lookup_eq_some_iff.mp found
  simp

theorem lookup_of_mem (distinct : (entries.map Prod.fst).Nodup) {key : Key} {value : Value}
    (member : (key, value) ∈ entries) : entries.lookup key = some value := by
  induction entries with
  | nil => cases member
  | cons entry rest ih =>
    rw [List.map_cons, List.nodup_cons] at distinct
    cases List.mem_cons.mp member with
    | inl here =>
      subst here
      simp
    | inr later =>
      have apart : key ≠ entry.1 := by
        intro same
        exact distinct.1 (List.mem_map.mpr ⟨_, later, same⟩)
      rw [lookup_cons, if_neg apart]
      exact ih distinct.2 later

/-! ## Maps -/

/-- `new Map()`. -/
def empty : OrderedMap Key Value := ⟨[], List.nodup_nil⟩

/-- `map.get(key)`. -/
def get? (map : OrderedMap Key Value) (key : Key) : Option Value := map.entries.lookup key

/-- `map.has(key)`. -/
def has (map : OrderedMap Key Value) (key : Key) : Bool := (map.get? key).isSome

/-- `map.set(key, value)`. -/
def set (map : OrderedMap Key Value) (key : Key) (value : Value) : OrderedMap Key Value where
  entries := setEntry map.entries key value
  distinct := by
    rw [keys_setEntry]
    split
    · exact map.distinct
    next absent =>
      rw [List.nodup_append]
      refine ⟨map.distinct, List.nodup_singleton key, fun other member last isLast same => absent ?_⟩
      rwa [← List.mem_singleton.mp isLast, ← same]

/-- Deletes every entry that is not kept. -/
def retain (map : OrderedMap Key Value) (keep : Key → Value → Bool) : OrderedMap Key Value where
  entries := map.entries.filter fun entry => keep entry.1 entry.2
  distinct := map.distinct.sublist (List.filter_sublist.map _)

/-- `map.delete(key)`. -/
def delete (map : OrderedMap Key Value) (key : Key) : OrderedMap Key Value := map.retain fun name _ => name != key

def update (map : OrderedMap Key Value) (key : Key) (change : Value → Value) : OrderedMap Key Value where
  entries := map.entries.map fun entry => if entry.1 = key then (entry.1, change entry.2) else entry
  distinct := by
    have keys : (map.entries.map fun entry => if entry.1 = key then (entry.1, change entry.2) else entry).map Prod.fst =
        map.entries.map Prod.fst := by
      rw [List.map_map]
      apply List.map_congr_left
      intro entry _
      simp only [Function.comp_apply]
      split <;> rfl
    rw [keys]
    exact map.distinct

/-- `new Map(entries)`. -/
def ofEntries (entries : List (Key × Value)) : OrderedMap Key Value :=
  entries.foldl (fun map entry => map.set entry.1 entry.2) empty

def keys (map : OrderedMap Key Value) : List Key := map.entries.map Prod.fst

def values (map : OrderedMap Key Value) : List Value := map.entries.map Prod.snd

def size (map : OrderedMap Key Value) : Nat := map.entries.length

omit [DecidableEq Key] in
@[ext] theorem ext {left right : OrderedMap Key Value} (same : left.entries = right.entries) : left = right := by
  cases left
  cases right
  cases same
  rfl

section

variable {map : OrderedMap Key Value} {key : Key}

theorem get?_eq_some {value : Value} :
    map.get? key = some value ↔ (key, value) ∈ map.entries :=
  ⟨mem_of_lookup, lookup_of_mem map.distinct⟩

theorem get?_eq_none : map.get? key = none ↔ key ∉ map.keys := by
  rw [get?, List.lookup_eq_none_iff]
  simp only [keys, List.mem_map, not_exists, not_and, bne_iff_ne, ne_eq]
  exact ⟨fun absent entry member same => absent entry member same.symm,
    fun absent entry member same => absent entry member same.symm⟩

theorem has_iff : map.has key = true ↔ key ∈ map.keys := by
  rw [has, Option.isSome_iff_ne_none, ne_eq, get?_eq_none, not_not]

end

@[simp] theorem get?_empty (key : Key) : (empty : OrderedMap Key Value).get? key = none := rfl

section

variable (map : OrderedMap Key Value)

include map

@[simp] theorem get?_set (key other : Key) (value : Value) :
    (map.set key value).get? other = if other = key then some value else map.get? other :=
  lookup_setEntry map.entries key other value

@[simp] theorem get?_retain (keep : Key → Value → Bool) (key : Key) :
    (map.retain keep).get? key = (map.get? key).filter (keep key) := by
  cases found : map.get? key with
  | none =>
    rw [get?_eq_none] at found
    rw [Option.filter_none, get?_eq_none]
    exact fun member => found ((List.filter_sublist.map Prod.fst).subset member)
  | some value =>
    have member := get?_eq_some.mp found
    cases kept : keep key value with
    | true =>
      rw [Option.filter_some, kept]
      exact get?_eq_some.mpr (List.mem_filter.mpr ⟨member, kept⟩)
    | false =>
      rw [Option.filter_some, if_neg (by simp [kept]), get?_eq_none]
      intro own
      obtain ⟨entry, entryMember, rfl⟩ := List.mem_map.mp own
      obtain ⟨entryOwn, entryKept⟩ := List.mem_filter.mp entryMember
      have same : some entry.2 = some value := (get?_eq_some.mpr entryOwn).symm.trans found
      rw [Option.some_inj.mp same, kept] at entryKept
      cases entryKept

@[simp] theorem get?_delete (key other : Key) :
    (map.delete key).get? other = if other = key then none else map.get? other := by
  rw [delete, get?_retain]
  by_cases same : other = key
  · subst same
    cases map.get? other <;> simp
  · cases map.get? other <;> simp [same]

@[simp] theorem has_set (key other : Key) (value : Value) :
    (map.set key value).has other = (other == key || map.has other) := by
  by_cases same : other = key <;> simp [has, same]

@[simp] theorem has_delete (key other : Key) : (map.delete key).has other = (other != key && map.has other) := by
  by_cases same : other = key <;> simp [has, same]

theorem keys_set (key : Key) (value : Value) :
    (map.set key value).keys = if key ∈ map.keys then map.keys else map.keys ++ [key] :=
  keys_setEntry map.entries key value

@[simp] theorem keys_update (key : Key) (change : Value → Value) : (map.update key change).keys = map.keys := by
  unfold keys update
  rw [List.map_map]
  apply List.map_congr_left
  intro entry _
  simp only [Function.comp_apply]
  split <;> rfl

@[simp] theorem get?_update (key other : Key) (change : Value → Value) :
    (map.update key change).get? other = if other = key then (map.get? other).map change else map.get? other := by
  cases found : map.get? other with
  | none =>
    have absent : other ∉ (map.update key change).keys := by
      rw [keys_update]
      exact get?_eq_none.mp found
    rw [get?_eq_none.mpr absent]
    split <;> rfl
  | some value =>
    have member : (if other = key then (other, change value) else (other, value)) ∈ (map.update key change).entries :=
      List.mem_map.mpr ⟨(other, value), get?_eq_some.mp found, rfl⟩
    by_cases same : other = key
    · rw [if_pos same]
      rw [if_pos same] at member
      exact get?_eq_some.mpr member
    · rw [if_neg same]
      rw [if_neg same] at member
      exact get?_eq_some.mpr member

end

theorem set_absent {map : OrderedMap Key Value} {key : Key} (absent : key ∉ map.keys) (value : Value) :
    (map.set key value).entries = map.entries ++ [(key, value)] :=
  setEntry_absent absent value

theorem flatten_setEntry {Item : Type} (entries : List (Key × List Item)) (key : Key) (item : Item) :
    ((setEntry entries key ((entries.lookup key).getD [] ++ [item])).map Prod.snd).flatten.Perm
      ((entries.map Prod.snd).flatten ++ [item]) := by
  induction entries with
  | nil => exact .refl _
  | cons entry rest ih =>
    obtain ⟨name, items⟩ := entry
    by_cases same : name = key
    · subst same
      simp only [setEntry, if_true, lookup_cons, Option.getD_some, List.map_cons, List.flatten_cons, List.append_assoc]
      exact List.Perm.append_left _ (List.perm_append_comm)
    · simp only [setEntry, if_neg same, lookup_cons, if_neg (Ne.symm same), List.map_cons, List.flatten_cons, List.append_assoc]
      exact List.Perm.append_left _ ih

theorem ofEntries_distinct (distinct : (entries.map Prod.fst).Nodup) : (ofEntries entries).entries = entries := by
  suffices general : ∀ map : OrderedMap Key Value, ((map.entries ++ entries).map Prod.fst).Nodup →
      (entries.foldl (fun map entry => map.set entry.1 entry.2) map).entries = map.entries ++ entries from
    general empty distinct
  clear distinct
  induction entries with
  | nil => simp
  | cons entry rest ih =>
    intro map distinct
    have absent : entry.1 ∉ map.keys := by
      rw [List.map_append, List.map_cons, List.nodup_append] at distinct
      exact fun member => distinct.2.2 _ member _ List.mem_cons_self rfl
    have regrouped : map.entries ++ entry :: rest = (map.set entry.1 entry.2).entries ++ rest := by
      rw [set_absent absent]
      simp
    rw [regrouped] at distinct ⊢
    exact ih _ distinct

end OrderedMap

end SiftKit
