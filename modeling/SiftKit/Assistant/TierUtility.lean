import SiftKit.Graph.State

/-! # Tiers of topics

What the relation registry says about projections, `domain/staleness.ts` and `domain/tier-utility.ts`.  The
numbers are those of the platform: nothing is assumed of their arithmetic.
-/

namespace SiftKit.Assistant.Memory

open SiftKit.Failure SiftKit.Graph SiftKit.Json

/-! ## Numbers -/

/-- The operations on numbers that scoring uses. -/
structure Arithmetic (Number : Type) where
  literal : ℚ → Number
  add : Number → Number → Number
  sub : Number → Number → Number
  mul : Number → Number → Number
  div : Number → Number → Number
  min : Number → Number → Number
  max : Number → Number → Number
  /-- `2 ** exponent`. -/
  exp2 : Number → Number
  /-- `Math.round`. -/
  round : Number → Number
  isFinite : Number → Bool
  lt : Number → Number → Bool
  le : Number → Number → Bool
  toText : Number → JsString

/-! ## The registry -/

inductive ProjectionBehavior where
  | core
  | dossier
  | episodic
  | never_project
  deriving DecidableEq

inductive StalenessClass where
  | none
  | very_slow
  | slow
  | moderate
  | fast
  | rapid
  | very_rapid
  deriving DecidableEq

/-- `RELATION_DEFINITIONS[predicate].projectionBehavior`. -/
def projectionBehavior : RelationType → ProjectionBehavior
  | .OWNS | .USES | .DISLIKES | .AVOIDS | .CREATED | .CONTRIBUTED_TO | .LOCATED_IN | .LIVES_IN | .INTERESTED_IN
    | .DRIVES | .RIDES | .HAS_PLAN | .HAS_SETTING | .HAS_COMPONENT | .RUNS_ON | .DEPENDS_ON | .CONFIGURED_WITH
    | .PART_OF | .ABOUT => .dossier
  | .PREFERS | .WORKS_ON | .EMPLOYED_BY | .HAS_ROLE | .HAS_GOAL | .HAS_ROUTINE | .HAS_CONSTRAINT => .core
  | .VISITED | .READ | .WATCHED | .PLAYED | .COMPARED_WITH | .TESTED_WITH | .RESULTED_IN | .CAUSED_BY
    | .OBSERVED_DURING => .episodic
  | .RELATED_TO | .MENTIONED_IN | .ASKED_ABOUT => .never_project

/-- `RELATION_DEFINITIONS[predicate].stalenessClass`. -/
def stalenessClass : RelationType → StalenessClass
  | .OWNS | .EMPLOYED_BY | .HAS_ROLE | .LIVES_IN | .DRIVES | .RIDES | .HAS_COMPONENT | .PART_OF => .slow
  | .USES | .WORKS_ON | .INTERESTED_IN | .HAS_GOAL | .HAS_PLAN | .HAS_ROUTINE | .RUNS_ON | .DEPENDS_ON
    | .RELATED_TO => .moderate
  | .PREFERS | .DISLIKES | .AVOIDS | .HAS_CONSTRAINT => .very_slow
  | .CREATED | .CONTRIBUTED_TO | .VISITED | .READ | .WATCHED | .PLAYED | .COMPARED_WITH | .TESTED_WITH
    | .RESULTED_IN | .CAUSED_BY | .ABOUT | .MENTIONED_IN => .none
  | .LOCATED_IN | .HAS_SETTING | .CONFIGURED_WITH => .fast
  | .OBSERVED_DURING => .very_rapid
  | .ASKED_ABOUT => .rapid

/-! ## Staleness -/

/-- `STALENESS_HALF_LIFE_DAYS`: none for what does not decay. -/
def stalenessHalfLifeDays : StalenessClass → Option ℚ
  | .none => none
  | .very_slow => some 3650
  | .slow => some 730
  | .moderate => some 180
  | .fast => some 60
  | .rapid => some 14
  | .very_rapid => some 3

section

variable {Number : Type} (arithmetic : Arithmetic Number)

def stalenessFactor (decay : StalenessClass) (ageDays : Number) : Except ErrorMessage Number := do
  throwWhen (!arithmetic.isFinite ageDays || arithmetic.lt ageDays (arithmetic.literal 0))
    (utf16 "Observation age in days must be finite and non-negative: " ++ arithmetic.toText ageDays)
  match stalenessHalfLifeDays decay with
  | none => return arithmetic.literal 1
  | some halfLife =>
    return arithmetic.exp2 (arithmetic.div (arithmetic.sub (arithmetic.literal 0) ageDays) (arithmetic.literal halfLife))

/-! ## Utility -/

/-- `TierUtilityInput`, in the order of `UTILITY_KEYS`. -/
structure TierUtilityInput (Number : Type) where
  explicitness : Number
  crossDomainUsefulness : Number
  retrievalFrequency : Number
  recency : Number
  activeGoalRelevance : Number
  uniqueness : Number
  userPin : Number
  userDemotion : Number
  redundancy : Number
  staleness : Number
  sensitivityCost : Number

/-- `UTILITY_KEYS`: each key with its signal and its weight. -/
def TierUtilityInput.signals {Number : Type} (input : TierUtilityInput Number) : List (String × Number × ℚ) :=
  [("explicitness", input.explicitness, 3), ("crossDomainUsefulness", input.crossDomainUsefulness, 5 / 2),
    ("retrievalFrequency", input.retrievalFrequency, 2), ("recency", input.recency, 3 / 2),
    ("activeGoalRelevance", input.activeGoalRelevance, 3 / 2), ("uniqueness", input.uniqueness, 1),
    ("userPin", input.userPin, 1), ("userDemotion", input.userDemotion, -1), ("redundancy", input.redundancy, -2),
    ("staleness", input.staleness, -3 / 2), ("sensitivityCost", input.sensitivityCost, -1)]

def addSignal (total : Number) (signal : String × Number × ℚ) : Except ErrorMessage Number := do
  let (key, value, weight) := signal
  throwWhen (!arithmetic.isFinite value || arithmetic.lt value (arithmetic.literal 0) ||
      arithmetic.lt (arithmetic.literal 1) value)
    (utf16 s!"Tier utility signal {key} must be within [0, 1]: " ++ arithmetic.toText value)
  return arithmetic.add total (arithmetic.mul value (arithmetic.literal weight))

def tierUtility (input : TierUtilityInput Number) : Except ErrorMessage Number := do
  let total ← input.signals.foldlM (addSignal arithmetic) (arithmetic.literal 0)
  return arithmetic.div (arithmetic.round (arithmetic.mul total (arithmetic.literal 1000000))) (arithmetic.literal 1000000)

/-! ## Routing -/

inductive Tier where
  | tier1
  | tier2
  | tier3
  deriving DecidableEq, Repr

def TIER_1_MIN_UTILITY : ℚ := 7

def TIER_2_MIN_UTILITY : ℚ := 7 / 2

/-- Behaviour outranks score; none is graph-only. -/
def routeTier (behavior : ProjectionBehavior) (utility : Number) : Option Tier :=
  match behavior with
  | .never_project => none
  | .episodic => some .tier3
  | .core => if arithmetic.le (arithmetic.literal TIER_1_MIN_UTILITY) utility then some .tier1 else some .tier2
  | .dossier => if arithmetic.le (arithmetic.literal TIER_2_MIN_UTILITY) utility then some .tier2 else some .tier3

end

end SiftKit.Assistant.Memory
