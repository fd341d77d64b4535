import SiftKit.Foundation.Failure
import SiftKit.Foundation.Schema

/-! # The saved model selection

The selection and the model presets are columns of one configuration row.  A transition of the runtime
compares the row with the configuration that it started from, and writes only where nothing newer was saved.
-/

namespace SiftKit.Status

open SiftKit.Schema SiftKit.Failure

variable {Settings Columns Engine Error : Type}

/-- A model preset: what the selection names, and the settings of its profile. -/
structure ModelRuntimePreset (Settings : Type) where
  id : String
  Model : Option String
  ExternalServerEnabled : Bool
  settings : Settings

/-- The row of the configuration; the columns that no transition writes are taken together. -/
structure AppConfigRow (Columns : Type) where
  server_model_presets_json : String
  server_model_active_preset_id : Option String
  runtime_model : Option String
  server_external_server_enabled : Nat
  updated_at_utc : String
  others : Columns

/-- The part of a configuration that was read. -/
structure SiftConfig (Settings Engine : Type) where
  ActivePresetId : String
  Presets : List (ModelRuntimePreset Settings)
  Exl3 : Engine

/-- How presets are read from their column and written as JSON, and what the runtime makes of errors and profiles. -/
structure Surroundings (Settings Engine Error : Type) where
  parseModelRuntimePresetArray : String → Except Error (List (ModelRuntimePreset Settings))
  stringifyPreset : ModelRuntimePreset Settings → String
  getPresetResidencyKey : Engine → ModelRuntimePreset Settings → Except Error String
  error : String → Error
  message : Error → String

def findPreset (presets : List (ModelRuntimePreset Settings)) (presetId : String) : Option (ModelRuntimePreset Settings) :=
  presets.find? fun preset => preset.id == presetId

section Selection

variable (surroundings : Surroundings Settings Engine Error)

def Surroundings.stringifyPresets (presets : List (ModelRuntimePreset Settings)) : String :=
  "[" ++ ",".intercalate (presets.map surroundings.stringifyPreset) ++ "]"

/-- Whether the row still has the selection and this record of the configuration that was expected. -/
def selectionUnchanged (row : AppConfigRow Columns) (expected : SiftConfig Settings Engine) (presetId : String) :
    Except Error Bool :=
  if row.server_model_active_preset_id ≠ trimmedNonEmpty expected.ActivePresetId then .ok false
  else
    match findPreset expected.Presets presetId with
    | none => .ok false
    | some expectedRecord => do
      let latest ← surroundings.parseModelRuntimePresetArray row.server_model_presets_json
      match findPreset latest presetId with
      | none => return false
      | some latestRecord =>
        return surroundings.stringifyPreset latestRecord == surroundings.stringifyPreset expectedRecord

def updateActiveSelection (row : AppConfigRow Columns) (selection : ModelRuntimePreset Settings) (now : String) :
    AppConfigRow Columns :=
  { row with
    server_model_active_preset_id := some selection.id
    runtime_model := selection.Model
    server_external_server_enabled := if selection.ExternalServerEnabled then 1 else 0
    updated_at_utc := now }

def persistAppliedModelSelection (row : Option (AppConfigRow Columns)) (expected : SiftConfig Settings Engine)
    (applied : ModelRuntimePreset Settings) (now : String) : Except Error (Bool × Option (AppConfigRow Columns)) :=
  match row with
  | none => .ok (false, none)
  | some saved => do
    if !(← selectionUnchanged surroundings saved expected applied.id) then return (false, some saved)
    return (true, some (updateActiveSelection saved applied now))

def restorePreviousModelSelection (row : Option (AppConfigRow Columns)) (expected : SiftConfig Settings Engine)
    (previous : ModelRuntimePreset Settings) (now : String) : Except Error (Bool × Option (AppConfigRow Columns)) :=
  match row with
  | none => .ok (false, none)
  | some saved => do
    if !(← selectionUnchanged surroundings saved expected previous.id) then return (false, some saved)
    if !(← selectionUnchanged surroundings saved expected expected.ActivePresetId) then return (false, some saved)
    let latest ← surroundings.parseModelRuntimePresetArray saved.server_model_presets_json
    let presets := latest.map fun preset => if preset.id == previous.id then previous else preset
    return (true, some { updateActiveSelection saved previous now with
      server_model_presets_json := surroundings.stringifyPresets presets })

/-! ## Compare and set -/

/-- The row names the same selection as the configuration, and has the same record under the id. -/
def KeepsSelection (row : AppConfigRow Columns) (expected : SiftConfig Settings Engine) (presetId : String) : Prop :=
  row.server_model_active_preset_id = trimmedNonEmpty expected.ActivePresetId ∧
    ∃ expectedRecord latest latestRecord, findPreset expected.Presets presetId = some expectedRecord ∧
      surroundings.parseModelRuntimePresetArray row.server_model_presets_json = .ok latest ∧
      findPreset latest presetId = some latestRecord ∧
      surroundings.stringifyPreset latestRecord = surroundings.stringifyPreset expectedRecord

variable {surroundings}

variable {expected : SiftConfig Settings Engine} {row : Option (AppConfigRow Columns)}

theorem selectionUnchanged_eq_ok {row : AppConfigRow Columns} {presetId : String} {unchanged : Bool}
    (compared : selectionUnchanged surroundings row expected presetId = .ok unchanged) :
    unchanged = true ↔ KeepsSelection surroundings row expected presetId := by
  unfold selectionUnchanged at compared
  unfold KeepsSelection
  split at compared
  next other =>
    obtain rfl : false = unchanged := Except.ok.inj compared
    exact ⟨fun isTrue => (nomatch isTrue), fun keeps => absurd keeps.1 other⟩
  next same =>
    cases recorded : findPreset expected.Presets presetId with
    | none =>
      rw [recorded] at compared
      obtain rfl : false = unchanged := Except.ok.inj compared
      simp
    | some expectedRecord =>
      simp only [recorded, bind_eq_ok] at compared
      obtain ⟨latest, parsed, compared⟩ := compared
      cases found : findPreset latest presetId with
      | none =>
        simp only [found, pure_eq_ok] at compared
        subst compared
        simp [parsed, found]
      | some latestRecord =>
        simp only [found, pure_eq_ok] at compared
        subst compared
        simp [parsed, found, not_not.mp same]

theorem selectionUnchanged_eq_error {row : AppConfigRow Columns} {presetId : String} {failure : Error}
    (failed : selectionUnchanged surroundings row expected presetId = .error failure) :
    surroundings.parseModelRuntimePresetArray row.server_model_presets_json = .error failure := by
  unfold selectionUnchanged at failed
  split at failed
  next => exact nomatch failed
  next =>
    cases recorded : findPreset expected.Presets presetId with
    | none => simp [recorded] at failed
    | some expectedRecord =>
      cases parsed : surroundings.parseModelRuntimePresetArray row.server_model_presets_json with
      | error refused =>
        simp only [recorded, parsed] at failed
        obtain rfl : refused = failure := Except.error.inj failed
        rfl
      | ok latest =>
        simp only [recorded, parsed] at failed
        cases found : findPreset latest presetId <;> simp [found, bind, Except.bind, pure, Except.pure] at failed

variable {applied : ModelRuntimePreset Settings}

theorem persistAppliedModelSelection_eq_error {now : String} {failure : Error}
    (failed : persistAppliedModelSelection surroundings row expected applied now = .error failure) :
    ∃ text, surroundings.parseModelRuntimePresetArray text = .error failure := by
  cases row with
  | none => exact nomatch failed
  | some saved =>
    cases compared : selectionUnchanged surroundings saved expected applied.id with
    | error refused =>
      simp only [persistAppliedModelSelection, compared] at failed
      obtain rfl : refused = failure := Except.error.inj failed
      exact ⟨_, selectionUnchanged_eq_error compared⟩
    | ok unchanged =>
      cases unchanged <;> simp [persistAppliedModelSelection, compared, bind, Except.bind, pure, Except.pure] at failed

variable {later : Option (AppConfigRow Columns)}

/-- What the row becomes when a switch is kept: nothing but the selection, and only if it was the expected one. -/
theorem persistAppliedModelSelection_eq_ok {now : String} {written : Bool}
    (persisted : persistAppliedModelSelection surroundings row expected applied now = .ok (written, later)) :
    (∃ saved, row = some saved ∧ KeepsSelection surroundings saved expected applied.id ∧ written = true ∧
      later = some (updateActiveSelection saved applied now)) ∨
    ((∀ saved, row = some saved → ¬ KeepsSelection surroundings saved expected applied.id) ∧ written = false ∧
      later = row) := by
  cases row with
  | none =>
    obtain ⟨rfl, rfl⟩ := Prod.mk.inj (Except.ok.inj persisted)
    exact .inr ⟨fun saved isSome => (nomatch isSome), rfl, rfl⟩
  | some saved =>
    simp only [persistAppliedModelSelection, bind_eq_ok] at persisted
    obtain ⟨unchanged, compared, persisted⟩ := persisted
    have keeps := selectionUnchanged_eq_ok compared
    cases unchanged with
    | false =>
      obtain ⟨rfl, rfl⟩ := Prod.mk.inj (Except.ok.inj persisted)
      refine .inr ⟨?_, rfl, rfl⟩
      rintro _ ⟨⟩ kept
      exact Bool.false_ne_true (keeps.mpr kept)
    | true =>
      obtain ⟨rfl, rfl⟩ := Prod.mk.inj (Except.ok.inj persisted)
      exact .inl ⟨saved, rfl, keeps.mp rfl, rfl, rfl⟩

/-- What the row becomes when a switch is undone: the previous preset is selected and has its own record again,
if the row still had the expected selection and both records. -/
theorem restorePreviousModelSelection_eq_ok
    {previous : ModelRuntimePreset Settings} {now : String} {restored : Bool}
    (done : restorePreviousModelSelection surroundings row expected previous now = .ok (restored, later)) :
    (∃ saved latest, row = some saved ∧ KeepsSelection surroundings saved expected previous.id ∧
      KeepsSelection surroundings saved expected expected.ActivePresetId ∧
      surroundings.parseModelRuntimePresetArray saved.server_model_presets_json = .ok latest ∧ restored = true ∧
      later = some { updateActiveSelection saved previous now with
        server_model_presets_json := surroundings.stringifyPresets
          (latest.map fun preset => if preset.id == previous.id then previous else preset) }) ∨
    ((∀ saved, row = some saved → ¬ (KeepsSelection surroundings saved expected previous.id ∧
      KeepsSelection surroundings saved expected expected.ActivePresetId)) ∧ restored = false ∧ later = row) := by
  cases row with
  | none =>
    obtain ⟨rfl, rfl⟩ := Prod.mk.inj (Except.ok.inj done)
    exact .inr ⟨fun saved isSome => (nomatch isSome), rfl, rfl⟩
  | some saved =>
    simp only [restorePreviousModelSelection, bind_eq_ok] at done
    obtain ⟨unchanged, compared, done⟩ := done
    have keepsPrevious := selectionUnchanged_eq_ok compared
    cases unchanged with
    | false =>
      obtain ⟨rfl, rfl⟩ := Prod.mk.inj (Except.ok.inj done)
      refine .inr ⟨?_, rfl, rfl⟩
      rintro _ ⟨⟩ ⟨kept, _⟩
      exact Bool.false_ne_true (keepsPrevious.mpr kept)
    | true =>
      simp only [Bool.not_true, Bool.false_eq_true, if_false, bind_eq_ok] at done
      obtain ⟨unchanged, compared, done⟩ := done
      have keepsSelected := selectionUnchanged_eq_ok compared
      cases unchanged with
      | false =>
        obtain ⟨rfl, rfl⟩ := Prod.mk.inj (Except.ok.inj done)
        refine .inr ⟨?_, rfl, rfl⟩
        rintro _ ⟨⟩ ⟨_, kept⟩
        exact Bool.false_ne_true (keepsSelected.mpr kept)
      | true =>
        simp only [Bool.not_true, Bool.false_eq_true, if_false, bind_eq_ok] at done
        obtain ⟨latest, parsed, done⟩ := done
        obtain ⟨rfl, rfl⟩ := Prod.mk.inj (Except.ok.inj done)
        exact .inl ⟨saved, latest, rfl, keepsPrevious.mp rfl, keepsSelected.mp rfl, parsed, rfl, rfl⟩

end Selection

end SiftKit.Status
