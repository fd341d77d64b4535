import Mathlib.Data.List.Forall2

/-! # Computations that may fail

When a sequence of failing steps succeeds: each of its steps did, and no guard threw.
-/

namespace SiftKit.Failure

variable {Failure Value Result : Type}

/-- What a program throws: an error with its message, or a schema's refusal of a value. -/
inductive Thrown where
  | error (message : String)
  | invalid
  deriving DecidableEq, Repr

variable {next : Value → Except Failure Result} {computation : Except Failure Value}

theorem bind_eq_ok {result : Result} :
    (computation >>= next) = .ok result ↔ ∃ value, computation = .ok value ∧ next value = .ok result := by
  cases computation with
  | ok value => exact ⟨fun ended => ⟨value, rfl, ended⟩, fun ⟨_, rfl, ended⟩ => ended⟩
  | error failure => exact ⟨fun ended => (nomatch ended), fun ⟨_, failed, _⟩ => (nomatch failed)⟩

theorem bind_eq_error {failure : Failure} :
    (computation >>= next) = .error failure ↔
      computation = .error failure ∨ ∃ value, computation = .ok value ∧ next value = .error failure := by
  cases computation <;> simp [bind, Except.bind]

theorem pure_eq_ok {value result : Value} : (pure value : Except Failure Value) = .ok result ↔ value = result :=
  ⟨fun ended => by cases ended; rfl, fun same => by rw [same]; rfl⟩

/-- `if (condition) throw failure`. -/
def throwWhen (condition : Bool) (failure : Failure) : Except Failure Unit :=
  if condition then .error failure else .ok ()

theorem throwWhen_eq_ok {condition : Bool} {failure : Failure} {passed : Unit} :
    throwWhen condition failure = .ok passed ↔ condition = false := by
  cases condition with
  | true => exact ⟨fun ended => (nomatch ended), fun isFalse => (nomatch isFalse)⟩
  | false => exact ⟨fun _ => rfl, fun _ => rfl⟩

variable {body : Except Failure Value}

theorem map_eq_ok {read : Value → Result} {result : Result} :
    body.map read = .ok result ↔ ∃ value, body = .ok value ∧ read value = result := by
  cases body with
  | error failure => simp [Except.map]
  | ok value => simp [Except.map]

theorem mapError_eq_ok {Other : Type} {read : Failure → Other} {value : Value} :
    body.mapError read = .ok value ↔ body = .ok value := by
  cases body with
  | error failure => simp [Except.mapError]
  | ok given => simp [Except.mapError]

theorem toOption_eq_some {value : Value} : body.toOption = some value ↔ body = .ok value := by
  cases body with
  | error failure => simp [Except.toOption]
  | ok given => simp [Except.toOption]

/-- What a schema gave, or its refusal. -/
def orInvalid : Option Value → Except Thrown Value
  | some value => .ok value
  | none => .error .invalid

theorem orInvalid_eq_ok {value : Option Value} {result : Value} : orInvalid value = .ok result ↔ value = some result := by
  cases value with
  | none => exact ⟨fun ended => (nomatch ended), fun absent => (nomatch absent)⟩
  | some given => exact ⟨fun ended => by cases ended; rfl, fun same => by cases same; rfl⟩

/-- A transaction commits unless its body throws. -/
def committed {Store : Type} (store : Store) : Except Failure (Result × Store) → Store
  | .ok answer => answer.2
  | .error _ => store

variable {round : Value → Except Failure Result} {items : List Value} {results : List Result}

theorem mapM_eq_ok :
    items.mapM round = .ok results ↔ List.Forall₂ (fun item result => round item = .ok result) items results := by
  induction items generalizing results with
  | nil =>
    simp only [List.mapM_nil, pure_eq_ok, List.forall₂_nil_left_iff]
    exact eq_comm
  | cons item rest ih =>
    simp only [List.mapM_cons, bind_eq_ok, pure_eq_ok, List.forall₂_cons_left_iff]
    constructor
    · rintro ⟨result, itemOk, others, othersOk, rfl⟩
      exact ⟨result, others, itemOk, ih.mp othersOk, rfl⟩
    · rintro ⟨result, others, itemOk, othersOk, rfl⟩
      exact ⟨result, itemOk, others, ih.mpr othersOk, rfl⟩

section

variable {Item State View : Type} {round : State → Item → Except Failure State} (view : State → View)

include view

/-- What every round of a loop does to a view of its state, the loop does in turn. -/
theorem view_of_foldlM (change : View → Item → View)
    (rounds : ∀ {before item after}, round before item = .ok after → view after = change (view before) item)
    {items : List Item} {start ended : State} (succeeded : items.foldlM round start = .ok ended) :
    view ended = items.foldl change (view start) := by
  induction items generalizing start with
  | nil =>
    rw [List.foldlM_nil, pure_eq_ok] at succeeded
    rw [← succeeded, List.foldl_nil]
  | cons item rest ih =>
    rw [List.foldlM_cons, bind_eq_ok] at succeeded
    obtain ⟨middle, first, later⟩ := succeeded
    rw [List.foldl_cons, ← rounds first]
    exact ih later

/-- What every round of a loop keeps, the loop keeps. -/
theorem kept_of_foldlM (rounds : ∀ {before item after}, round before item = .ok after → view after = view before)
    {items : List Item} {start ended : State} (succeeded : items.foldlM round start = .ok ended) :
    view ended = view start := by
  rw [view_of_foldlM view (fun given _ => given) rounds succeeded, List.foldl_fixed]

end

theorem exists_of_forall₂ {relation : Value → Result → Prop}
    (related : List.Forall₂ relation items results) {result : Result} (member : result ∈ results) :
    ∃ item ∈ items, relation item result := by
  induction related with
  | nil => cases member
  | cons head _ ih =>
    cases List.mem_cons.mp member with
    | inl here =>
      rw [here]
      exact ⟨_, List.mem_cons_self, head⟩
    | inr later =>
      obtain ⟨item, itemMember, itemRelated⟩ := ih later
      exact ⟨item, List.mem_cons_of_mem _ itemMember, itemRelated⟩

theorem mem_of_mapM
    (succeeded : items.mapM round = .ok results) {result : Result} (member : result ∈ results) :
    ∃ item ∈ items, round item = .ok result :=
  exists_of_forall₂ (mapM_eq_ok.mp succeeded) member

theorem mapM_of_sublist {fewer : List Value}
    (sublist : fewer.Sublist items) (succeeded : items.mapM round = .ok results) :
    ∃ fewerResults, fewer.mapM round = .ok fewerResults ∧ fewerResults.Sublist results := by
  simp only [mapM_eq_ok] at succeeded ⊢
  induction sublist generalizing results with
  | slnil => exact ⟨[], .nil, List.nil_sublist _⟩
  | cons _ _ ih =>
    cases succeeded with
    | cons _ others =>
      obtain ⟨fewerResults, rounds, within⟩ := ih others
      exact ⟨fewerResults, rounds, within.cons _⟩
  | cons_cons _ _ ih =>
    cases succeeded with
    | cons itemOk others =>
      obtain ⟨fewerResults, rounds, within⟩ := ih others
      exact ⟨_ :: fewerResults, .cons itemOk rounds, within.cons_cons _⟩

theorem map_of_mapM {Key : Type} {results : List Value} {round : Value → Except Failure Value}
    {key : Value → Key} (kept : ∀ {item result}, round item = .ok result → key result = key item)
    (succeeded : items.mapM round = .ok results) : results.map key = items.map key := by
  have rounds := mapM_eq_ok.mp succeeded
  clear succeeded
  induction rounds with
  | nil => rfl
  | cons roundOk _ ih => simp only [List.map_cons, kept roundOk, ih]

end SiftKit.Failure
