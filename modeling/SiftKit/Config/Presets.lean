import SiftKit.Foundation.Failure
import SiftKit.Foundation.Schema

/-! # Presets and the model of a request

Operation presets and model presets of a configuration, `preset-catalog.ts`, and the
choice of a request's model preset in `status-server/model-request-context.ts`.
-/

namespace SiftKit.Config

open SiftKit.Schema SiftKit.Failure

inductive PresetKind where
  | summary
  | chat
  | plan
  | repo_search
  | repo_agent
  | orchestrator
  deriving DecidableEq, Repr

def PresetKind.text : PresetKind → String
  | .summary => "summary"
  | .chat => "chat"
  | .plan => "plan"
  | .repo_search => "repo-search"
  | .repo_agent => "repo-agent"
  | .orchestrator => "orchestrator"

inductive PresetToolName where
  | find_text
  | read_lines
  | json_filter
  | json_get
  | read
  | grep
  | find
  | ls
  | git
  | web_search
  | web_fetch
  | write
  | edit
  | run
  deriving DecidableEq, Repr

structure SiftPreset where
  id : String
  presetKind : PresetKind
  allowedTools : List PresetToolName
  useForSummary : Bool
  builtin : Bool
  deletable : Bool
  maxTurns : Option Nat
  /-- Model this operation uses; null keeps the active model. -/
  modelPresetId : Option String
  deriving DecidableEq, Repr

def SiftPreset.parse (preset : SiftPreset) : Option SiftPreset := do
  return { preset with
    id := ← refine isKebabCase (← trimmedNonEmpty preset.id)
    maxTurns := ← nullable positiveInt preset.maxTurns
    modelPresetId := ← nullable trimmedNonEmpty preset.modelPresetId }

/-- `superRefine` of the collection: distinct ids, and one summary default, of summary kind. -/
def isPresetCollection (presets : List SiftPreset) : Bool :=
  (presets.map SiftPreset.id).Nodup &&
    match presets.filter SiftPreset.useForSummary with
    | [summaryDefault] => summaryDefault.presetKind == .summary
    | _ => false

def parsePresetCollection (presets : List SiftPreset) : Option (List SiftPreset) := do
  refine isPresetCollection (← array SiftPreset.parse presets)

structure ModelRuntimePreset where
  id : String
  Model : Option String
  NumCtx : Nat
  /-- Normalized to a positive integer when the configuration is read. -/
  ParallelSlots : Nat
  deriving DecidableEq, Repr

structure ServerModelPresets where
  ActivePresetId : String
  Presets : List ModelRuntimePreset
  deriving DecidableEq, Repr

structure SiftConfig where
  Presets : List SiftPreset
  ModelPresets : ServerModelPresets
  deriving DecidableEq, Repr

/-! ## The preset catalog -/

def BUILTIN_PRESET_IDS : List String :=
  ["summary", "repo-search", "chat", "plan", "repo-agent", "orchestrator"]

structure PresetCatalog where
  presets : List SiftPreset
  deriving DecidableEq, Repr

namespace PresetCatalog

/-- The loop of `fromValidatedPresets` over the built-in ids. -/
def checkBuiltins (presets : List SiftPreset) : List String → Except Thrown Unit
  | [] => .ok ()
  | builtinId :: rest =>
    match presets.find? fun entry => entry.id == builtinId with
    | none => .error (.error s!"Missing built-in preset '{builtinId}'.")
    | some preset =>
      if !preset.builtin || preset.deletable then
        .error (.error s!"Built-in preset '{builtinId}' must have builtin true and deletable false.")
      else checkBuiltins presets rest

/-- Its loop over the custom presets. -/
def checkCustoms : List SiftPreset → Except Thrown Unit
  | [] => .ok ()
  | preset :: rest =>
    if !BUILTIN_PRESET_IDS.contains preset.id && (preset.builtin || !preset.deletable) then
      .error (.error s!"Custom preset '{preset.id}' must have builtin false and deletable true.")
    else checkCustoms rest

def fromValidatedPresets (presets : List SiftPreset) : Except Thrown PresetCatalog := do
  checkBuiltins presets BUILTIN_PRESET_IDS
  checkCustoms presets
  return ⟨presets⟩

def fromPresets (presets : List SiftPreset) : Except Thrown PresetCatalog :=
  match parsePresetCollection presets with
  | none => .error .invalid
  | some parsed => fromValidatedPresets parsed

def requireById (presetId : String) (catalog : PresetCatalog) : Except Thrown SiftPreset :=
  match catalog.presets.find? fun entry => entry.id == presetId with
  | none => .error (.error s!"Preset '{presetId}' was not found.")
  | some preset => .ok preset

end PresetCatalog

/-! ## The model of a request -/

def ServerModelPresets.find (presets : ServerModelPresets) (id : String) : Option ModelRuntimePreset :=
  presets.Presets.find? fun preset => preset.id == id

def getActiveModelPreset (config : SiftConfig) : Except Thrown ModelRuntimePreset :=
  match config.ModelPresets.find config.ModelPresets.ActivePresetId with
  | some preset => .ok preset
  | none =>
    if config.ModelPresets.Presets.isEmpty then .error (.error "Model preset list is empty.")
    else .error (.error
      s!"Active model preset id '{config.ModelPresets.ActivePresetId}' does not exist in the model preset list.")

structure ModelRequestIntent where
  presetId : Option String
  model : Option String
  modelPresetId : Option String := none
  deriving DecidableEq, Repr

structure ModelRequestContext where
  operationPreset : Option SiftPreset
  modelPreset : ModelRuntimePreset
  config : SiftConfig
  deriving DecidableEq, Repr

def requestedOperationPreset (config : SiftConfig) (intent : ModelRequestIntent) :
    Except Thrown (Option SiftPreset) :=
  match intent.presetId with
  | none => .ok none
  | some presetId => do
    let catalog ← PresetCatalog.fromPresets config.Presets
    return some (← catalog.requireById presetId)

/-- The model preset by id: the request's own, else the operation preset's, else the applied one. -/
def requestedModelPreset (config : SiftConfig) (applied : ModelRuntimePreset)
    (intent : ModelRequestIntent) (operationPreset : Option SiftPreset) :
    Except Thrown ModelRuntimePreset :=
  match intent.modelPresetId, operationPreset with
  | some modelPresetId, _ =>
    match config.ModelPresets.find modelPresetId with
    | some selected => .ok selected
    | none => .error (.error s!"Model preset '{modelPresetId}' does not exist.")
  | none, some preset =>
    match preset.modelPresetId with
    | none => .ok applied
    | some modelPresetId =>
      match config.ModelPresets.find modelPresetId with
      | some referenced => .ok referenced
      | none => .error (.error
          s!"Operation preset '{preset.id}' references missing model preset '{modelPresetId}'.")
  | none, none => .ok applied

/-- A model named on the command line overrides the preset when exactly one preset has it. -/
def matchCliModel (config : SiftConfig) (intent : ModelRequestIntent) (modelPreset : ModelRuntimePreset) :
    Except Thrown ModelRuntimePreset :=
  match intent.model with
  | none => .ok modelPreset
  | some model =>
    if modelPreset.Model == some model then .ok modelPreset
    else match config.ModelPresets.Presets.filter fun preset => preset.Model == some model with
      | [] => .error (.error s!"CLI model '{model}' does not match any configured model preset.")
      | [matched] => .ok matched
      | several =>
        let ids := String.intercalate ", " (several.map ModelRuntimePreset.id)
        .error (.error s!"CLI model '{model}' is ambiguous: {ids}.")

/-- The configuration a request runs on: its model preset in place and active. -/
def executionConfig (config : SiftConfig) (modelPreset : ModelRuntimePreset) : Except Thrown SiftConfig :=
  match config.ModelPresets.Presets.findIdx? fun preset => preset.id == modelPreset.id with
  | none => .error (.error s!"Model preset '{modelPreset.id}' does not exist.")
  | some modelIndex => .ok { config with
      ModelPresets := ⟨modelPreset.id, config.ModelPresets.Presets.set modelIndex modelPreset⟩ }

/-- The schema that ends it re-checks values that have all passed it before. -/
def resolveModelRequestContext (config : SiftConfig) (applied : ModelRuntimePreset)
    (intent : ModelRequestIntent) : Except Thrown ModelRequestContext := do
  let operationPreset ← requestedOperationPreset config intent
  let selected ← requestedModelPreset config applied intent operationPreset
  let modelPreset ← matchCliModel config intent selected
  let execution ← executionConfig config modelPreset
  return ⟨operationPreset, modelPreset, execution⟩

theorem resolveModelRequestContext_find {config : SiftConfig} {applied : ModelRuntimePreset}
    {presetId : Option String} {context : ModelRequestContext}
    (isActive : getActiveModelPreset config = .ok applied)
    (resolved : resolveModelRequestContext config applied ⟨presetId, none, none⟩ = .ok context) :
    config.ModelPresets.find context.modelPreset.id = some context.modelPreset := by
  have find_id : ∀ {id : String} {preset : ModelRuntimePreset},
      config.ModelPresets.find id = some preset → config.ModelPresets.find preset.id = some preset := by
    intro id preset found
    have sameId : preset.id = id := by simpa using List.find?_some found
    rw [sameId, found]
  have appliedFound : config.ModelPresets.find applied.id = some applied := by
    unfold getActiveModelPreset at isActive
    split at isActive
    next preset found =>
      cases isActive
      exact find_id found
    · split at isActive <;> cases isActive
  simp only [resolveModelRequestContext, matchCliModel, bind_eq_ok, pure_eq_ok] at resolved
  obtain ⟨operationPreset, _, selected, selects, _, matched, _, _, rfl⟩ := resolved
  cases matched
  cases operationPreset with
  | none =>
    cases selects
    exact appliedFound
  | some preset =>
    simp only [requestedModelPreset] at selects
    split at selects
    · cases selects
      exact appliedFound
    next modelPresetId _ =>
      split at selects
      next referenced found =>
        cases selects
        exact find_id found
      · cases selects

end SiftKit.Config
