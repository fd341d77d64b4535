import Mathlib.Data.List.Induction
import Mathlib.Logic.Relation

/-! # Runs of state machines

Two shapes of state machine occur in this development.  An *object* answers a
sequence of calls, one state for each call: its runs are folds.  A *system* of
interleaved parties takes labelled steps: its runs are derivations.  Both come
with the one induction every invariant proof goes through.
-/

namespace SiftKit.Runs

variable {State Label : Type}

/-! ## Objects: one state after each call -/

/-- The state after a sequence of calls. -/
def run (step : State → Label → State) (start : State) (labels : List Label) : State :=
  labels.foldl step start

section

variable (step : State → Label → State) (start : State)

include step start

@[simp] theorem run_nil :
    run step start [] = start := rfl

@[simp] theorem run_cons (label : Label) (labels : List Label) :
    run step start (label :: labels) = run step (step start label) labels := rfl

theorem run_append (early late : List Label) :
    run step start (early ++ late) = run step (run step start early) late :=
  List.foldl_append

end

/-- What is seen of each call of a run, in their order. -/
def observed {Observation : Type} (step : State → Label → State) (observe : State → Label → List Observation)
    (start : State) : List Label → List Observation
  | [] => []
  | label :: later => observe start label ++ observed step observe (step start label) later

section

variable {Observation : Type} (step : State → Label → State) (observe : State → Label → List Observation)
  (start : State)

include step observe start

theorem observed_append (early late : List Label) :
    observed step observe start (early ++ late) =
      observed step observe start early ++ observed step observe (run step start early) late := by
  induction early generalizing start with
  | nil => rfl
  | cons first early ih =>
    simp only [List.cons_append, observed, ih, run_cons, List.append_assoc]

theorem observed_snoc (labels : List Label) (label : Label) :
    observed step observe start (labels ++ [label]) =
      observed step observe start labels ++ observe (run step start labels) label := by
  simp [observed_append, observed]

end

variable {start : State}

theorem run_invariant {step : State → Label → State} (invariant : State → Prop)
    (preserved : ∀ state label, invariant state → invariant (step state label))
    (holds : invariant start) (labels : List Label) : invariant (run step start labels) := by
  induction labels generalizing start with
  | nil => exact holds
  | cons label labels ih =>
    exact ih (preserved start label holds)

/-- Every call of a run meets a condition on it and the state it is made in. -/
def Throughout (step : State → Label → State) (condition : State → Label → Prop) (start : State) : List Label → Prop
  | [] => True
  | label :: later => condition start label ∧ Throughout step condition (step start label) later

instance (step : State → Label → State) (condition : State → Label → Prop)
    [decidable : ∀ state label, Decidable (condition state label)] (start : State) (labels : List Label) :
    Decidable (Throughout step condition start labels) :=
  match labels with
  | [] => .isTrue trivial
  | label :: later =>
    have := instDecidableThroughout step condition (step start label) later
    inferInstanceAs (Decidable (condition start label ∧ _))

variable {condition : State → Label → Prop} {labels : List Label} {state : State}

section

variable {step : State → Label → State}

theorem run_invariant_throughout (invariant : State → Prop)
    (preserved : ∀ state label, invariant state → condition state label → invariant (step state label))
    (holds : invariant start) (meets : Throughout step condition start labels) :
    invariant (run step start labels) := by
  induction labels generalizing start with
  | nil => exact holds
  | cons label labels ih =>
    exact ih (preserved start label holds meets.1) meets.2

theorem throughout_append {early late : List Label} :
    Throughout step condition start (early ++ late) ↔
      Throughout step condition start early ∧ Throughout step condition (run step start early) late := by
  induction early generalizing start with
  | nil => simp [Throughout]
  | cons first early ih =>
    simp only [List.cons_append, Throughout, ih, run_cons, and_assoc]

theorem throughout_snoc {label : Label} :
    Throughout step condition start (labels ++ [label]) ↔
      Throughout step condition start labels ∧ condition (run step start labels) label := by
  simp [throughout_append, Throughout]

theorem throughout_and {first second : State → Label → Prop}
    (meetsFirst : Throughout step first start labels) (meetsSecond : Throughout step second start labels) :
    Throughout step (fun state label => first state label ∧ second state label) start labels := by
  induction labels generalizing start with
  | nil => trivial
  | cons label labels ih =>
    exact ⟨⟨meetsFirst.1, meetsSecond.1⟩, ih meetsFirst.2 meetsSecond.2⟩

theorem throughout_iff_prefixes (holds : List Label → Prop) (atStart : holds [])
    (kept : ∀ labels label, holds labels → (holds (labels ++ [label]) ↔ condition (run step start labels) label))
    (labels : List Label) : (∀ early, early <+: labels → holds early) ↔ Throughout step condition start labels := by
  induction labels using List.reverseRecOn with
  | nil => simp [Throughout, atStart]
  | append_singleton labels label ih =>
    rw [throughout_snoc, ← ih]
    constructor
    · intro all
      have earlier : ∀ early, early <+: labels → holds early :=
        fun early isPrefix => all early (isPrefix.trans (List.prefix_append labels [label]))
      have last : holds (labels ++ [label]) := all _ (List.prefix_refl _)
      exact ⟨earlier, (kept labels label (earlier labels (List.prefix_refl labels))).mp last⟩
    · rintro ⟨earlier, met⟩ early isPrefix
      rcases List.prefix_concat_iff.mp isPrefix with rfl | shorter
      · exact (kept labels label (earlier labels (List.prefix_refl labels))).mpr met
      · exact earlier early shorter

theorem run_related (relation : State → State → Prop)
    (refl : ∀ state, relation state state)
    (trans : ∀ first second third, relation first second → relation second third →
      relation first third)
    (respected : ∀ state label, relation state (step state label))
    (start : State) (labels : List Label) : relation start (run step start labels) := by
  induction labels generalizing start with
  | nil => exact refl start
  | cons label labels ih =>
    exact trans _ _ _ (respected start label) (ih (step start label))

end

/-! ## Systems: labelled steps of interleaved parties -/

/-- Finite runs, with the labels of their steps in order. -/
inductive Reaches (step : State → Label → State → Prop) (start : State) :
    List Label → State → Prop where
  | start : Reaches step start [] start
  | next {labels : List Label} {state after : State} {label : Label}
      (reached : Reaches step start labels state) (taken : step state label after) :
      Reaches step start (labels ++ [label]) after

section

variable {step : State → Label → State → Prop}

theorem Reaches.invariant
    (reached : Reaches step start labels state) (invariant : State → Prop) (holds : invariant start)
    (preserved : ∀ {before label after}, invariant before → step before label after → invariant after) :
    invariant state := by
  induction reached with
  | start => exact holds
  | next _ taken ih => exact preserved ih taken

theorem Reaches.trans {middle : State} {early late : List Label}
    (before : Reaches step start early middle) (after : Reaches step middle late state) :
    Reaches step start (early ++ late) state := by
  induction after with
  | start =>
    rw [List.append_nil]
    exact before
  | next _ taken ih =>
    rw [← List.append_assoc]
    exact ih.next taken

theorem Reaches.first {middle : State} {label : Label}
    (taken : step start label middle) (rest : Reaches step middle labels state) :
    Reaches step start (label :: labels) state :=
  (Reaches.next .start taken).trans rest

end

/-- A system whose steps are computed: the state after the labels, if each of them can be taken. -/
def follow (step : State → Label → Option State) (start : State) (labels : List Label) : Option State :=
  labels.foldlM step start

def Follows (step : State → Label → Option State) (state : State) (label : Label) (after : State) : Prop :=
  step state label = some after

variable {step : State → Label → Option State}

theorem reaches_of_follow
    (followed : follow step start labels = some state) : Reaches (Follows step) start labels state := by
  induction labels generalizing start with
  | nil =>
    cases followed
    exact .start
  | cons label labels ih =>
    unfold follow at followed
    rw [List.foldlM_cons, Option.bind_eq_bind, Option.bind_eq_some_iff] at followed
    obtain ⟨middle, taken, rest⟩ := followed
    exact Reaches.first taken (ih rest)

theorem reaches_of_any {holds : State → Bool}
    (seen : (follow step start labels).any holds = true) :
    ∃ state, Reaches (Follows step) start labels state ∧ holds state = true := by
  obtain ⟨state, followed, isSeen⟩ := (Option.any_eq_true _ _).mp seen
  exact ⟨state, reaches_of_follow followed, isSeen⟩

/-- An infinite run, which may stay in a state for any number of moments. -/
structure Execution (step : State → Label → State → Prop) (start : State) where
  states : Nat → State
  starts : states 0 = start
  moves : ∀ moment, states (moment + 1) = states moment ∨
    ∃ label, step (states moment) label (states (moment + 1))

namespace Execution

variable {step : State → Label → State → Prop} {start : State} (execution : Execution step start)

theorem reaches (moment : Nat) : ∃ labels, Reaches step start labels (execution.states moment) := by
  induction moment with
  | zero =>
    rw [execution.starts]
    exact ⟨[], .start⟩
  | succ moment ih =>
    obtain ⟨labels, reached⟩ := ih
    cases execution.moves moment with
    | inl stays =>
      rw [stays]
      exact ⟨labels, reached⟩
    | inr moves =>
      obtain ⟨label, taken⟩ := moves
      exact ⟨labels ++ [label], reached.next taken⟩

theorem persists (property : State → Prop)
    (kept : ∀ moment, property (execution.states moment) → property (execution.states (moment + 1)))
    {early late : Nat} (ordered : early ≤ late) (holds : property (execution.states early)) :
    property (execution.states late) := by
  induction ordered with
  | refl => exact holds
  | step _ ih => exact kept _ ih

/-- If the goal is not reached the measure drops sooner or later: then the goal is reached. -/
theorem eventually (goal : State → Prop) (measure : State → Nat)
    (progress : ∀ moment, goal (execution.states moment) ∨
      ∃ later, measure (execution.states later) < measure (execution.states moment)) :
    ∃ moment, goal (execution.states moment) := by
  have below : ∀ bound moment, measure (execution.states moment) < bound →
      ∃ later, goal (execution.states later) := by
    intro bound
    induction bound with
    | zero => intro moment impossible; omega
    | succ bound ih =>
      intro moment bounded
      cases progress moment with
      | inl reached => exact ⟨moment, reached⟩
      | inr drops =>
        obtain ⟨later, lower⟩ := drops
        exact ih later (by omega)
  exact below _ 0 (Nat.lt_succ_self _)

end Execution

end SiftKit.Runs
