import SiftKit.Json.Reading

/-! # The same JSON

Two values are the same JSON when their canonical forms agree.  The source compares the text
that `stableStringify` gives; for objects the comparison can be made key by key.
-/

namespace SiftKit.Json

/-- `Object.keys(value).sort()`: by code units. -/
def sortKeys {Value : Type} (entries : List (JsString × Value)) : List (JsString × Value) :=
  entries.insertionSort fun early late => early.1 ≤ late.1

mutual

/-- What JSON tells of a value, with keys in order; an undefined value stays undefined. -/
def canonical : JsValue → JsValue
  | .nonFinite => .null
  | .array items => .array (canonicalItems items)
  | .object properties => .object (sortKeys (canonicalProperties properties))
  | value => value
termination_by structural value => value

def canonicalItems : List JsValue → List JsValue
  | [] => []
  | item :: rest => (canonical item).orNull :: canonicalItems rest
termination_by structural items => items

def canonicalProperties : List (JsString × JsValue) → List (JsString × JsValue)
  | [] => []
  | (_, .undefined) :: rest => canonicalProperties rest
  | (key, value) :: rest => (key, canonical value) :: canonicalProperties rest
termination_by structural properties => properties

end

mutual

/-- `JSON.stringify` with the keys of every object in order. -/
def stableStringify : JsValue → JsString
  | .array items => 0x5B :: (commaSeparated (stableItems items) ++ [0x5D])
  | .object properties =>
    0x7B :: (commaSeparated ((sortKeys (stableProperties properties)).map fun entry => quoted entry.1 ++ 0x3A :: entry.2)
      ++ [0x7D])
  | value => stringify value
termination_by structural value => value

def stableItems : List JsValue → List JsString
  | [] => []
  | item :: rest => stableStringify item :: stableItems rest
termination_by structural items => items

def stableProperties : List (JsString × JsValue) → List (JsString × JsString)
  | [] => []
  | (key, value) :: rest => (key, stableStringify value) :: stableProperties rest
termination_by structural properties => properties

end

/-! ## Sorting -/

section Sorting

variable {Value Result : Type}

theorem sortKeys_perm (entries : List (JsString × Value)) : (sortKeys entries).Perm entries :=
  List.perm_insertionSort _ entries

theorem sortKeys_map (change : Value → Result) (entries : List (JsString × Value)) :
    (sortKeys entries).map (fun entry => (entry.1, change entry.2)) =
      sortKeys (entries.map fun entry => (entry.1, change entry.2)) :=
  List.map_insertionSort _ _ _ _ fun _ _ _ _ => Iff.rfl

instance : Std.Total fun early late : JsString × Value => early.1 ≤ late.1 :=
  ⟨fun early late => List.le_total early.1 late.1⟩

instance : IsTrans (JsString × Value) fun early late => early.1 ≤ late.1 :=
  ⟨fun _ _ _ => List.le_trans⟩

theorem sortKeys_sorted (entries : List (JsString × Value)) :
    (sortKeys entries).Pairwise fun early late => early.1 ≤ late.1 :=
  List.pairwise_insertionSort _ entries

theorem sortKeys_congr {left right : List (JsString × Value)} (distinct : (left.map Prod.fst).Nodup)
    (same : left.Perm right) : sortKeys left = sortKeys right := by
  have perm : (sortKeys left).Perm (sortKeys right) :=
    (sortKeys_perm left).trans (same.trans (sortKeys_perm right).symm)
  refine perm.eq_of_pairwise (fun early late earlyMember lateMember before after => ?_) (sortKeys_sorted left)
    (sortKeys_sorted right)
  have keys : early.1 = late.1 := List.le_antisymm before after
  have earlyLeft := (sortKeys_perm left).subset earlyMember
  have lateLeft := same.symm.subset ((sortKeys_perm right).subset lateMember)
  exact List.inj_on_of_nodup_map distinct earlyLeft lateLeft keys

end Sorting

/-! ## Canonical forms -/

variable (value : JsValue) {properties : Properties}

@[simp] theorem isUndefined_canonical : (canonical value).isUndefined = value.isUndefined := by
  cases value <;> rfl

theorem canonicalItems_eq (items : List JsValue) : canonicalItems items = items.map fun item => (canonical item).orNull := by
  induction items with
  | nil => rfl
  | cons item rest ih => rw [canonicalItems, ih, List.map_cons]

theorem canonicalProperties_eq (properties : Properties) :
    canonicalProperties properties = (stated properties).map fun entry => (entry.1, canonical entry.2) := by
  induction properties with
  | nil => rfl
  | cons entry rest ih =>
    obtain ⟨key, value⟩ := entry
    cases value with
    | undefined => simpa [canonicalProperties, stated, JsValue.isUndefined] using ih
    | _ => simpa [canonicalProperties, stated, JsValue.isUndefined] using ih

theorem nodup_canonicalProperties (distinct : (keysOf properties).Nodup) :
    (keysOf (canonicalProperties properties)).Nodup := by
  rw [canonicalProperties_eq, keysOf, List.map_map]
  exact distinct.sublist (keysOf_stated_sublist properties)

theorem property_canonicalProperties (distinct : (keysOf properties).Nodup) (key : JsString) :
    property (canonicalProperties properties) key = canonical (property properties key) := by
  induction properties with
  | nil => rfl
  | cons entry rest ih =>
    obtain ⟨name, value⟩ := entry
    rw [keysOf, List.map_cons, List.nodup_cons] at distinct
    have later := ih distinct.2
    by_cases same : name = key
    · subst same
      have absent : property rest name = .undefined := property_of_not_mem distinct.1
      cases value with
      | undefined => simpa [canonicalProperties, property, absent] using later
      | _ => simp [canonicalProperties, property]
    · cases value with
      | undefined => simpa [canonicalProperties, property, same] using later
      | _ => simpa [canonicalProperties, property, same] using later

theorem property_perm {left right : Properties} (distinct : (keysOf left).Nodup) (same : left.Perm right) (key : JsString) :
    property left key = property right key := by
  have rightDistinct : (keysOf right).Nodup := (same.map Prod.fst).nodup_iff.mp distinct
  by_cases own : key ∈ keysOf left
  · exact (property_of_mem rightDistinct (same.subset (property_mem own))).symm
  · have absent : key ∉ keysOf right := fun member => own ((same.map Prod.fst).symm.subset member)
    rw [property_of_not_mem own, property_of_not_mem absent]

theorem isUndefined_of_mem_canonicalProperties {entry : JsString × JsValue}
    (member : entry ∈ canonicalProperties properties) : entry.2.isUndefined = false := by
  rw [canonicalProperties_eq] at member
  obtain ⟨original, originalMember, rfl⟩ := List.mem_map.mp member
  simpa using (List.mem_filter.mp originalMember).2

theorem canonical_object_iff {left right : Properties} (leftDistinct : (keysOf left).Nodup)
    (rightDistinct : (keysOf right).Nodup) :
    canonical (.object left) = canonical (.object right) ↔
      ∀ key, canonical (property left key) = canonical (property right key) := by
  have leftNodup := nodup_canonicalProperties leftDistinct
  have rightNodup := nodup_canonicalProperties rightDistinct
  constructor
  · intro same key
    have sorted : sortKeys (canonicalProperties left) = sortKeys (canonicalProperties right) := by
      simpa [canonical] using same
    rw [← property_canonicalProperties leftDistinct, ← property_canonicalProperties rightDistinct,
      property_perm leftNodup (sortKeys_perm _).symm, property_perm rightNodup (sortKeys_perm _).symm, sorted]
  · intro same
    have agree : ∀ key, property (canonicalProperties left) key = property (canonicalProperties right) key := by
      intro key
      rw [property_canonicalProperties leftDistinct, property_canonicalProperties rightDistinct, same]
    have within : ∀ {early late : Properties}, (keysOf (canonicalProperties early)).Nodup →
        (∀ key, property (canonicalProperties early) key = property (canonicalProperties late) key) →
        ∀ entry ∈ canonicalProperties early, entry ∈ canonicalProperties late := by
      intro early late distinct agree entry member
      have value := property_of_entry distinct member
      rw [agree] at value
      by_cases own : entry.1 ∈ keysOf (canonicalProperties late)
      · have found := property_mem own
        rwa [value] at found
      · have stated := isUndefined_of_mem_canonicalProperties member
        rw [← value, property_of_not_mem own] at stated
        cases stated
    have perm : (canonicalProperties left).Perm (canonicalProperties right) :=
      (List.perm_ext_iff_of_nodup leftNodup.of_map rightNodup.of_map).mpr fun entry =>
        ⟨within leftNodup agree entry, within rightNodup (fun key => (agree key).symm) entry⟩
    simp only [canonical, sortKeys_congr leftNodup perm]

theorem canonical_array_iff {left right : List JsValue} :
    canonical (.array left) = canonical (.array right) ↔
      left.map (fun item => (canonical item).orNull) = right.map fun item => (canonical item).orNull := by
  simp only [canonical, canonicalItems_eq, JsValue.array.injEq]

/-! ## Written and read -/

theorem Proper.canonical {value : JsValue} (proper : Proper value) : Proper (canonical value) := by
  induction value with
  | array items ih =>
    cases proper with
    | array defined each =>
      rw [Json.canonical, canonicalItems_eq]
      have unchanged : ∀ item ∈ items, (Json.canonical item).orNull = Json.canonical item :=
        fun item member => orNull_of_stated (by rw [isUndefined_canonical, defined item member])
      rw [List.map_congr_left unchanged]
      refine .array (fun item member => ?_) fun item member => ?_
      · obtain ⟨original, originalMember, rfl⟩ := List.mem_map.mp member
        rw [isUndefined_canonical, defined original originalMember]
      · obtain ⟨original, originalMember, rfl⟩ := List.mem_map.mp member
        exact ih original originalMember (each original originalMember)
  | object properties ih =>
    cases proper with
    | object distinct each =>
      have perm := sortKeys_perm (canonicalProperties properties)
      refine .object ((perm.map Prod.fst).nodup_iff.mpr (nodup_canonicalProperties distinct)) fun entry member => ?_
      have inside := perm.subset member
      rw [canonicalProperties_eq] at inside
      obtain ⟨original, originalMember, rfl⟩ := List.mem_map.mp inside
      have own := (List.mem_filter.mp originalMember).1
      exact ih original own (each original own)
  | nonFinite => exact .null
  | undefined => exact proper
  | null => exact proper
  | boolean value => exact proper
  | number value => exact proper
  | string text => exact proper

theorem canonical_orNull : canonical value.orNull = (canonical value).orNull := by
  cases value <;> rfl

theorem orNull_orNull : value.orNull.orNull = value.orNull := by
  cases value <;> rfl

theorem stated_of_stated {entries : Properties} (each : ∀ entry ∈ entries, entry.2.isUndefined = false) :
    stated entries = entries :=
  List.filter_eq_self.mpr fun entry member => by simp [each entry member]

theorem canonical_compact : canonical (compact value) = canonical value := by
  induction value with
  | array items ih =>
    simp only [compact, canonical, compactItems_eq, canonicalItems_eq, List.map_map, JsValue.array.injEq]
    refine List.map_congr_left fun item member => ?_
    rw [Function.comp_apply, canonical_orNull, orNull_orNull, ih item member]
  | object properties ih =>
    have entries : canonicalProperties (compactProperties properties) = canonicalProperties properties := by
      rw [canonicalProperties_eq, stated_of_stated, compactProperties_eq, canonicalProperties_eq, List.map_map]
      · exact List.map_congr_left fun entry member => by
          simp [ih entry (List.mem_filter.mp member).1]
      · intro entry member
        rw [compactProperties_eq] at member
        obtain ⟨original, originalMember, rfl⟩ := List.mem_map.mp member
        simpa using (List.mem_filter.mp originalMember).2
    simp only [compact, canonical, entries]
  | nonFinite => rfl
  | undefined => rfl
  | null => rfl
  | boolean value => rfl
  | number value => rfl
  | string text => rfl

theorem compact_canonical : compact (canonical value) = canonical value := by
  induction value with
  | array items ih =>
    simp only [canonical, compact, canonicalItems_eq, compactItems_eq, List.map_map, JsValue.array.injEq]
    refine List.map_congr_left fun item member => ?_
    have inner := ih item member
    simp only [Function.comp_apply]
    generalize canonical item = value at *
    cases value with
    | undefined => rfl
    | _ => exact congrArg JsValue.orNull inner
  | object properties ih =>
    have allStated : ∀ entry ∈ sortKeys (canonicalProperties properties), entry.2.isUndefined = false :=
      fun entry member => isUndefined_of_mem_canonicalProperties ((sortKeys_perm _).subset member)
    have each : ∀ entry ∈ sortKeys (canonicalProperties properties), (entry.1, compact entry.2) = entry := by
      intro entry member
      have inside := (sortKeys_perm _).subset member
      rw [canonicalProperties_eq] at inside
      obtain ⟨original, originalMember, rfl⟩ := List.mem_map.mp inside
      rw [ih original (List.mem_filter.mp originalMember).1]
    simp only [canonical, compact, compactProperties_eq, stated_of_stated allStated]
    rw [List.map_congr_left each, List.map_id']
  | nonFinite => rfl
  | undefined => rfl
  | null => rfl
  | boolean value => rfl
  | number value => rfl
  | string text => rfl

/-! ## Stable text -/

theorem stableItems_eq (items : List JsValue) : stableItems items = items.map stableStringify := by
  induction items with
  | nil => rfl
  | cons item rest ih => rw [stableItems, ih, List.map_cons]

theorem stableProperties_eq (properties : Properties) :
    stableProperties properties = properties.map fun entry => (entry.1, stableStringify entry.2) := by
  induction properties with
  | nil => rfl
  | cons entry rest ih => rw [stableProperties, ih, List.map_cons]

theorem stringify_orNull : stringify value.orNull = stringify value := by
  cases value <;> rfl

theorem stableStringify_compact : stableStringify (compact value).orNull = stringify (canonical value) := by
  induction value with
  | array items ih =>
    simp only [compact, orNull_array, stableStringify, stableItems_eq, compactItems_eq, List.map_map, canonical, stringify,
      stringifyItems_eq, canonicalItems_eq]
    congr 3
    refine List.map_congr_left fun item member => ?_
    simp only [Function.comp_apply, stringify_orNull]
    exact ih item member
  | object properties ih =>
    have allStated : ∀ entry ∈ sortKeys (canonicalProperties properties), entry.2.isUndefined = false :=
      fun entry member => isUndefined_of_mem_canonicalProperties ((sortKeys_perm _).subset member)
    have entries : stableProperties (compactProperties properties) =
        (canonicalProperties properties).map fun entry => (entry.1, stringify entry.2) := by
      rw [stableProperties_eq, compactProperties_eq, canonicalProperties_eq, List.map_map, List.map_map]
      refine List.map_congr_left fun entry member => ?_
      have given : entry.2.isUndefined = false := by simpa using (List.mem_filter.mp member).2
      have inner := ih entry (List.mem_filter.mp member).1
      rw [orNull_of_stated (by simpa using given)] at inner
      simp [inner]
    simp only [compact, orNull_object, stableStringify, entries, canonical, stringify, stringifyProperties_eq,
      stated_of_stated allStated]
    rw [← sortKeys_map, List.map_map]
    rfl
  | nonFinite => rfl
  | undefined => rfl
  | null => rfl
  | boolean value => cases value <;> rfl
  | number value => rfl
  | string text => rfl

theorem canonical_of_stable {left right : JsValue} (leftProper : Proper left) (rightProper : Proper right)
    (same : stableStringify (compact left).orNull = stableStringify (compact right).orNull) :
    (canonical left).orNull = (canonical right).orNull := by
  rw [stableStringify_compact, stableStringify_compact] at same
  have leftRead := parse_stringify leftProper.canonical
  have rightRead := parse_stringify rightProper.canonical
  rw [compact_canonical] at leftRead rightRead
  rw [same, rightRead] at leftRead
  exact (Option.some_inj.mp leftRead).symm

end SiftKit.Json
