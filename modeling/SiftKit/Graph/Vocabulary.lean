/-! # The vocabulary of the assistant graph

The enumerations of `assistant/domain/enums.ts`, the node types of `node-types.ts` and the relation
registry of `relation-types.ts`.  A relation's defaults for projections and staleness, which nothing
modelled reads, are left out.
-/

namespace SiftKit.Graph

/-! ## Enumerations -/

inductive Sensitivity where
  | low
  | personal
  | sensitive
  | highly_sensitive
  | secret_prohibited
  deriving DecidableEq

def Sensitivity.rank : Sensitivity → Nat
  | .low => 0
  | .personal => 1
  | .sensitive => 2
  | .highly_sensitive => 3
  | .secret_prohibited => 4

def isSensitivityAtLeast (value floor : Sensitivity) : Bool := decide (floor.rank ≤ value.rank)

def FTS_EXCLUSION_FLOOR : Sensitivity := .sensitive

def isIndexableInPlaintext (sensitivity : Sensitivity) : Bool :=
  !isSensitivityAtLeast sensitivity FTS_EXCLUSION_FLOOR

inductive AssertionStatus where
  | active
  | disputed
  | superseded
  | rejected
  | expired
  | deleted
  deriving DecidableEq

/-- `LIVE_ASSERTION_STATUSES`: the statuses that hold the unique assertion key. -/
def AssertionStatus.isLive : AssertionStatus → Bool
  | .active | .disputed => true
  | .superseded | .rejected | .expired | .deleted => false

inductive AssertionBasis where
  | explicit_user_statement
  | explicit_question_answer
  | manual_import
  | passive_observation
  | derived_aggregation
  | assistant_inference
  deriving DecidableEq

def isExplicitBasis : AssertionBasis → Bool
  | .explicit_user_statement | .explicit_question_answer | .manual_import => true
  | .passive_observation | .derived_aggregation | .assistant_inference => false

def AssertionBasis.name : AssertionBasis → String
  | .explicit_user_statement => "explicit_user_statement"
  | .explicit_question_answer => "explicit_question_answer"
  | .manual_import => "manual_import"
  | .passive_observation => "passive_observation"
  | .derived_aggregation => "derived_aggregation"
  | .assistant_inference => "assistant_inference"

inductive NodeStatus where
  | active
  | merged
  | archived
  | deleted
  deriving DecidableEq

inductive AliasType where
  | name
  | handle
  | model
  | path
  | identifier
  | user_supplied
  deriving DecidableEq

inductive ObjectValueType where
  | string
  | integer
  | number
  | boolean
  | date
  | datetime
  | duration
  | quantity
  | json
  deriving DecidableEq

inductive MergeActorType where
  | user
  | assistant_proposal
  deriving DecidableEq

/-! ## Node types -/

inductive NodeType where
  | person
  | organization
  | place
  | device
  | software
  | project
  | document
  | topic
  | goal
  | routine
  | activity
  | episode
  | event
  | preference_context
  | policy_topic
  | question_topic
  | account
  | vehicle
  | home_asset
  | financial_account
  | health_topic
  | food_recipe
  | media_work
  | model
  | inference_backend
  | dataset
  | benchmark
  | configuration_profile
  deriving DecidableEq

def NODE_TYPES : List NodeType :=
  [.person, .organization, .place, .device, .software, .project, .document, .topic, .goal, .routine, .activity,
    .episode, .event, .preference_context, .policy_topic, .question_topic, .account, .vehicle, .home_asset,
    .financial_account, .health_topic, .food_recipe, .media_work, .model, .inference_backend, .dataset,
    .benchmark, .configuration_profile]

def NodeType.name : NodeType → String
  | .person => "person"
  | .organization => "organization"
  | .place => "place"
  | .device => "device"
  | .software => "software"
  | .project => "project"
  | .document => "document"
  | .topic => "topic"
  | .goal => "goal"
  | .routine => "routine"
  | .activity => "activity"
  | .episode => "episode"
  | .event => "event"
  | .preference_context => "preference_context"
  | .policy_topic => "policy_topic"
  | .question_topic => "question_topic"
  | .account => "account"
  | .vehicle => "vehicle"
  | .home_asset => "home_asset"
  | .financial_account => "financial_account"
  | .health_topic => "health_topic"
  | .food_recipe => "food_recipe"
  | .media_work => "media_work"
  | .model => "model"
  | .inference_backend => "inference_backend"
  | .dataset => "dataset"
  | .benchmark => "benchmark"
  | .configuration_profile => "configuration_profile"

/-! ## Relations -/

inductive RelationType where
  | OWNS
  | USES
  | PREFERS
  | DISLIKES
  | AVOIDS
  | WORKS_ON
  | CREATED
  | CONTRIBUTED_TO
  | EMPLOYED_BY
  | HAS_ROLE
  | LOCATED_IN
  | LIVES_IN
  | VISITED
  | INTERESTED_IN
  | READ
  | WATCHED
  | PLAYED
  | DRIVES
  | RIDES
  | HAS_GOAL
  | HAS_PLAN
  | HAS_ROUTINE
  | HAS_CONSTRAINT
  | HAS_SETTING
  | HAS_COMPONENT
  | RUNS_ON
  | DEPENDS_ON
  | CONFIGURED_WITH
  | COMPARED_WITH
  | TESTED_WITH
  | RESULTED_IN
  | CAUSED_BY
  | RELATED_TO
  | PART_OF
  | ABOUT
  | MENTIONED_IN
  | OBSERVED_DURING
  | ASKED_ABOUT
  deriving DecidableEq

/-- `RELATION_TYPES`, each with its name. -/
def RELATION_TYPES : List (String × RelationType) :=
  [("OWNS", .OWNS), ("USES", .USES), ("PREFERS", .PREFERS), ("DISLIKES", .DISLIKES), ("AVOIDS", .AVOIDS),
    ("WORKS_ON", .WORKS_ON), ("CREATED", .CREATED), ("CONTRIBUTED_TO", .CONTRIBUTED_TO),
    ("EMPLOYED_BY", .EMPLOYED_BY), ("HAS_ROLE", .HAS_ROLE), ("LOCATED_IN", .LOCATED_IN),
    ("LIVES_IN", .LIVES_IN), ("VISITED", .VISITED), ("INTERESTED_IN", .INTERESTED_IN), ("READ", .READ),
    ("WATCHED", .WATCHED), ("PLAYED", .PLAYED), ("DRIVES", .DRIVES), ("RIDES", .RIDES),
    ("HAS_GOAL", .HAS_GOAL), ("HAS_PLAN", .HAS_PLAN), ("HAS_ROUTINE", .HAS_ROUTINE),
    ("HAS_CONSTRAINT", .HAS_CONSTRAINT), ("HAS_SETTING", .HAS_SETTING), ("HAS_COMPONENT", .HAS_COMPONENT),
    ("RUNS_ON", .RUNS_ON), ("DEPENDS_ON", .DEPENDS_ON), ("CONFIGURED_WITH", .CONFIGURED_WITH),
    ("COMPARED_WITH", .COMPARED_WITH), ("TESTED_WITH", .TESTED_WITH), ("RESULTED_IN", .RESULTED_IN),
    ("CAUSED_BY", .CAUSED_BY), ("RELATED_TO", .RELATED_TO), ("PART_OF", .PART_OF), ("ABOUT", .ABOUT),
    ("MENTIONED_IN", .MENTIONED_IN), ("OBSERVED_DURING", .OBSERVED_DURING), ("ASKED_ABOUT", .ASKED_ABOUT)]

/-- `isRelationType`, with the relation that the predicate names. -/
def relationType? (predicate : String) : Option RelationType := RELATION_TYPES.lookup predicate

inductive RelationCardinality where
  | many
  | single_current
  | single_per_scope
  | append_only
  deriving DecidableEq

inductive RelationTemporal where
  | none
  | optional
  | required
  deriving DecidableEq

inductive ConflictStrategy where
  | coexist
  | supersede_current
  | mark_disputed
  | require_confirmation
  deriving DecidableEq

/-- `allowedObjectTypes`: node types, or a literal. -/
inductive ObjectTypes where
  | nodes (types : List NodeType)
  | literal

structure RelationDefinition where
  allowedSubjectTypes : List NodeType
  allowedObjectTypes : ObjectTypes
  cardinality : RelationCardinality
  temporal : RelationTemporal
  conflictStrategy : ConflictStrategy

def ANY : List NodeType := NODE_TYPES

def PERSON : List NodeType := [.person]

def PLACES : List NodeType := [.place]

def OWNABLE : List NodeType :=
  [.device, .software, .vehicle, .home_asset, .financial_account, .account, .document, .media_work, .dataset,
    .model]

def TOOLS : List NodeType := [.software, .device, .model, .inference_backend, .configuration_profile]

def TASTEABLE : List NodeType :=
  [.software, .device, .model, .inference_backend, .configuration_profile, .topic, .media_work, .food_recipe,
    .activity, .health_topic, .vehicle, .place]

def AUTHORED : List NodeType := [.project, .document, .media_work, .dataset, .software]

def WORK_ITEMS : List NodeType := [.project, .goal, .document, .dataset, .benchmark]

def TOPICAL : List NodeType :=
  [.topic, .project, .software, .model, .media_work, .health_topic, .food_recipe, .activity, .place,
    .organization]

def OCCURRENCES : List NodeType := [.activity, .episode, .event]

def RelationType.definition : RelationType → RelationDefinition
  | .OWNS => ⟨PERSON, .nodes OWNABLE, .many, .optional, .coexist⟩
  | .USES => ⟨PERSON, .nodes TOOLS, .many, .optional, .coexist⟩
  | .PREFERS => ⟨PERSON, .nodes TASTEABLE, .single_per_scope, .optional, .supersede_current⟩
  | .DISLIKES => ⟨PERSON, .nodes TASTEABLE, .single_per_scope, .optional, .supersede_current⟩
  | .AVOIDS => ⟨PERSON, .nodes TASTEABLE, .single_per_scope, .optional, .supersede_current⟩
  | .WORKS_ON => ⟨PERSON, .nodes WORK_ITEMS, .many, .optional, .coexist⟩
  | .CREATED => ⟨PERSON, .nodes AUTHORED, .append_only, .optional, .coexist⟩
  | .CONTRIBUTED_TO => ⟨PERSON, .nodes AUTHORED, .many, .optional, .coexist⟩
  | .EMPLOYED_BY =>
    ⟨[.person, .episode],
      .nodes [.organization], .single_current, .required, .supersede_current⟩
  | .HAS_ROLE => ⟨[.person, .episode], .literal, .single_current, .optional, .supersede_current⟩
  | .LOCATED_IN =>
    ⟨[.device, .home_asset, .vehicle, .organization, .event, .episode],
      .nodes PLACES, .single_current, .optional, .supersede_current⟩
  | .LIVES_IN => ⟨PERSON, .nodes PLACES, .single_current, .optional, .supersede_current⟩
  | .VISITED => ⟨PERSON, .nodes PLACES, .append_only, .required, .coexist⟩
  | .INTERESTED_IN => ⟨PERSON, .nodes TOPICAL, .many, .optional, .coexist⟩
  | .READ => ⟨PERSON, .nodes [.media_work, .document], .append_only, .optional, .coexist⟩
  | .WATCHED => ⟨PERSON, .nodes [.media_work], .append_only, .optional, .coexist⟩
  | .PLAYED => ⟨PERSON, .nodes [.media_work, .software], .append_only, .optional, .coexist⟩
  | .DRIVES => ⟨PERSON, .nodes [.vehicle], .many, .optional, .coexist⟩
  | .RIDES => ⟨PERSON, .nodes [.vehicle], .many, .optional, .coexist⟩
  | .HAS_GOAL => ⟨PERSON, .nodes [.goal], .many, .optional, .coexist⟩
  | .HAS_PLAN => ⟨[.person, .project, .goal], .nodes [.goal, .project, .episode], .many, .optional, .coexist⟩
  | .HAS_ROUTINE => ⟨PERSON, .nodes [.routine], .many, .optional, .supersede_current⟩
  | .HAS_CONSTRAINT => ⟨[.person, .project, .goal], .literal, .single_per_scope, .optional, .mark_disputed⟩
  | .HAS_SETTING =>
    ⟨[.software, .device, .configuration_profile, .model, .inference_backend],
      .literal, .single_per_scope, .optional, .supersede_current⟩
  | .HAS_COMPONENT =>
    ⟨[.device, .software, .vehicle, .home_asset, .project],
      .nodes [.device, .software, .home_asset], .many, .optional, .coexist⟩
  | .RUNS_ON =>
    ⟨[.software, .model, .project],
      .nodes [.device, .software, .inference_backend], .many, .optional, .coexist⟩
  | .DEPENDS_ON =>
    ⟨[.software, .project, .model, .goal],
      .nodes [.software, .project, .model, .inference_backend, .dataset], .many, .optional, .coexist⟩
  | .CONFIGURED_WITH =>
    ⟨[.software, .model, .inference_backend, .device],
      .nodes [.configuration_profile], .single_current, .optional, .supersede_current⟩
  | .COMPARED_WITH =>
    ⟨[.model, .software, .inference_backend, .benchmark],
      .nodes [.model, .software, .inference_backend], .many, .optional, .coexist⟩
  | .TESTED_WITH =>
    ⟨[.model, .software, .project],
      .nodes [.benchmark, .dataset, .configuration_profile], .many, .optional, .coexist⟩
  | .RESULTED_IN =>
    ⟨[.event, .episode, .activity, .benchmark],
      .nodes [.event, .episode, .document, .goal], .append_only, .optional, .coexist⟩
  | .CAUSED_BY =>
    ⟨[.event, .episode, .document, .goal],
      .nodes [.event, .episode, .activity, .benchmark], .many, .optional, .coexist⟩
  | .RELATED_TO => ⟨ANY, .nodes ANY, .many, .none, .coexist⟩
  | .PART_OF =>
    ⟨[.device, .software, .home_asset],
      .nodes [.device, .software, .vehicle, .home_asset, .project], .many, .none, .coexist⟩
  | .ABOUT => ⟨[.episode, .event, .document, .activity, .question_topic], .nodes ANY, .many, .none, .coexist⟩
  | .MENTIONED_IN => ⟨ANY, .nodes [.document, .episode, .event], .append_only, .none, .coexist⟩
  | .OBSERVED_DURING => ⟨ANY, .nodes OCCURRENCES, .append_only, .required, .coexist⟩
  | .ASKED_ABOUT => ⟨[.question_topic], .nodes ANY, .many, .none, .coexist⟩

def isNodeTypeAllowedAsSubject (predicate : RelationType) (nodeType : NodeType) : Bool :=
  predicate.definition.allowedSubjectTypes.contains nodeType

def isNodeTypeAllowedAsObject (predicate : RelationType) (nodeType : NodeType) : Bool :=
  match predicate.definition.allowedObjectTypes with
  | .nodes types => types.contains nodeType
  | .literal => false

def allowsLiteralObject (predicate : RelationType) : Bool :=
  match predicate.definition.allowedObjectTypes with
  | .nodes _ => false
  | .literal => true

/-- `EXCLUSIVE_CARDINALITIES`: a second live value of the same subject, predicate and scope conflicts. -/
def RelationCardinality.isExclusive : RelationCardinality → Bool
  | .single_current | .single_per_scope => true
  | .many | .append_only => false

end SiftKit.Graph
