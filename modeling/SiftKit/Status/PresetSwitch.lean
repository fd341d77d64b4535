import SiftKit.Foundation.Coroutine
import SiftKit.Status.ModelSelection
import Mathlib.Logic.Relation

/-! # Switching the model preset

`executeSwitch` of the runtime coordinator.  The runtime and the database are asked; between a question
and its answer the configuration may be saved.  A step that throws is followed by the rollback, and the
switch throws what the step threw.
-/

namespace SiftKit.Status

open SiftKit.Coroutine SiftKit.Failure Relation

variable {Settings Columns Engine Error World : Type}

inductive InferenceProcessState where
  | stopped
  | starting
  | ready
  | stopping
  | failed
  deriving DecidableEq

inductive InferenceModelState where
  | unloaded
  | loading
  | ready
  | unloading
  | failed
  deriving DecidableEq

inductive InferenceRuntimeErrorPhase where
  | process_start
  | model_load
  | model_unload
  | preset_switch
  deriving DecidableEq

/-- What `this.rollback` reports. -/
inductive Rollback where
  | restored (presetId : String) (cleanupError : Option String)
  | kept (presetId : String) (cleanupError : Option String)
  | failed (message : String)
  deriving DecidableEq

def Rollback.text : Rollback → String
  | .restored presetId cleanupError => s!"Restored preset '{presetId}'." ++ warning cleanupError
  | .kept presetId cleanupError =>
    s!"Kept the newer saved selection; running preset is '{presetId}'." ++ warning cleanupError
  | .failed message => message
where
  warning : Option String → String
    | some cleanupError => s!" Target cleanup warning: {cleanupError}"
    | none => ""

/-- Administrative switches apply a saved selection; requested ones persist theirs; restarts force a new process. -/
inductive SwitchKind where
  | administrative
  | requested
  | restart
  deriving DecidableEq

/-- The runtime, the applied preset, the configuration row and what the coordinator reports; and `previousEngine`,
a variable of the switch that its catch branch reads. -/
structure SwitchState (Settings Columns Engine : Type) where
  applied : ModelRuntimePreset Settings
  engine : Engine
  processState : InferenceProcessState
  modelState : InferenceModelState
  row : Option (AppConfigRow Columns)
  errorPhase : Option InferenceRuntimeErrorPhase
  error : Option String
  rollback : Option Rollback
  previousEngine : Option Engine

/-! ## Questions -/

/-- Where the switch is: in its `try` branch or in its `catch` branch. -/
inductive SwitchPhase where
  | switching
  | rollingBack
  deriving DecidableEq

inductive SwitchCall (Settings : Type) where
  | unloadPreset
  | stopProcess
  | ensurePresetReady (preset : ModelRuntimePreset Settings)
  /-- A transaction of the database: it throws, or takes place at a time. -/
  | transaction

def SwitchCall.Answer : SwitchCall Settings → Type
  | .unloadPreset | .stopProcess | .ensurePresetReady _ => Unit
  | .transaction => String

abbrev switchInterface (Settings Error : Type) : Interface where
  Question := SwitchPhase × SwitchCall Settings
  Answer := fun question => Except Error question.2.Answer

abbrev SwitchProgram (Settings Columns Engine Error Result : Type) : Type :=
  Coroutine (switchInterface Settings Error) (SwitchState Settings Columns Engine) Error Result

section Program

variable (surroundings : Surroundings Settings Engine Error)

/-- `await` a call that may throw. -/
def call (phase : SwitchPhase) (question : SwitchCall Settings) :
    SwitchProgram Settings Columns Engine Error question.Answer := do
  let answer ← @ask (switchInterface Settings Error) (SwitchState Settings Columns Engine) Error (phase, question)
  ofExcept answer

def replaceEngineConfig (engine : Engine) : SwitchProgram Settings Columns Engine Error Engine := do
  let state ← read fun state : SwitchState Settings Columns Engine => state
  if state.processState ≠ .stopped then
    throw (surroundings.error "Engine configuration can only change while stopped.")
  else do
    modify fun state : SwitchState Settings Columns Engine => { state with engine }
    return state.engine

def hasReadyResidency (target : ModelRuntimePreset Settings) : SwitchProgram Settings Columns Engine Error Bool := do
  let state ← read fun state : SwitchState Settings Columns Engine => state
  if state.modelState ≠ .ready then return false
  else do
    let targetKey ← ofExcept (surroundings.getPresetResidencyKey state.engine target)
    let appliedKey ← ofExcept (surroundings.getPresetResidencyKey state.engine state.applied)
    return targetKey == appliedKey

def publishReadyPreset (target : ModelRuntimePreset Settings) : SwitchProgram Settings Columns Engine Error Unit :=
  modify fun state : SwitchState Settings Columns Engine =>
    { state with applied := target, errorPhase := none, error := none }

/-- A transaction over the row that compares and sets it. -/
def transact {Result : Type} (phase : SwitchPhase)
    (body : Option (AppConfigRow Columns) → String → Except Error (Result × Option (AppConfigRow Columns))) :
    SwitchProgram Settings Columns Engine Error Result := do
  let now : String ← call phase .transaction
  let state ← read fun state : SwitchState Settings Columns Engine => state
  let outcome ← ofExcept (body state.row now)
  modify fun state : SwitchState Settings Columns Engine => { state with row := outcome.2 }
  return outcome.1

def unloadResident (reuseResidency : Bool) : SwitchProgram Settings Columns Engine Error Unit :=
  if reuseResidency then pure () else call .switching .unloadPreset

/-- A restart stops the process, and gives the runtime the engine configuration that was saved. -/
def replaceProcess (kind : SwitchKind) (expected : SiftConfig Settings Engine) :
    SwitchProgram Settings Columns Engine Error Unit :=
  if kind = .restart then do
    call .switching .stopProcess
    let previousEngine ← replaceEngineConfig surroundings expected.Exl3
    modify fun state : SwitchState Settings Columns Engine => { state with previousEngine := some previousEngine }
  else pure ()

def persistSelection (target : ModelRuntimePreset Settings) (kind : SwitchKind) (expected : SiftConfig Settings Engine) :
    SwitchProgram Settings Columns Engine Error Unit :=
  if kind = .requested then do
    let _ ← transact .switching fun row now => persistAppliedModelSelection surroundings row expected target now
    return ()
  else pure ()

/-- The `try` branch. -/
def switchTo (target : ModelRuntimePreset Settings) (kind : SwitchKind) (expected : SiftConfig Settings Engine)
    (reuseResidency : Bool) : SwitchProgram Settings Columns Engine Error Unit := do
  unloadResident reuseResidency
  replaceProcess surroundings kind expected
  call .switching (.ensurePresetReady target)
  publishReadyPreset target
  persistSelection surroundings target kind expected

/-- Unloads what the target left behind; an error is only reported. -/
def cleanUp : SwitchProgram Settings Columns Engine Error (Option String) := do
  let state ← read fun state : SwitchState Settings Columns Engine => state
  if state.processState = .ready then
    attempt (do call .rollingBack .unloadPreset; return none) fun targetCleanupError =>
      pure (some (surroundings.message targetCleanupError))
  else return none

def stopRestarted (kind : SwitchKind) : SwitchProgram Settings Columns Engine Error Unit := do
  let state ← read fun state : SwitchState Settings Columns Engine => state
  if kind = .restart ∧ state.processState ≠ .stopped then call .rollingBack .stopProcess else pure ()

def restoreEngine : SwitchProgram Settings Columns Engine Error Unit := do
  let state ← read fun state : SwitchState Settings Columns Engine => state
  match state.previousEngine with
  | some previousEngine => do
    let _ ← replaceEngineConfig surroundings previousEngine
    return ()
  | none => pure ()

/-- The steps of the rollback. -/
def restorePrevious (previous : ModelRuntimePreset Settings) (kind : SwitchKind) (expected : SiftConfig Settings Engine) :
    SwitchProgram Settings Columns Engine Error Unit := do
  let cleanupError ← cleanUp surroundings
  stopRestarted kind
  restoreEngine surroundings
  let restored ← transact .rollingBack fun row now => restorePreviousModelSelection surroundings row expected previous now
  call .rollingBack (.ensurePresetReady previous)
  modify fun state : SwitchState Settings Columns Engine =>
    { state with
      applied := previous
      rollback := some (if restored then .restored previous.id cleanupError else .kept previous.id cleanupError) }

/-- The `catch` branch. -/
def rollBack (previous : ModelRuntimePreset Settings) (kind : SwitchKind) (expected : SiftConfig Settings Engine)
    (failure : Error) : SwitchProgram Settings Columns Engine Error Unit := do
  modify fun state : SwitchState Settings Columns Engine =>
    { state with errorPhase := some .preset_switch, error := some (surroundings.message failure) }
  attempt (restorePrevious surroundings previous kind expected) fun rollbackError =>
    modify fun state : SwitchState Settings Columns Engine =>
      { state with rollback := some (.failed (surroundings.message rollbackError)) }
  throw failure

/-- Whether the target can be taken over as it is loaded; a restart never asks. -/
def reusesResidency (target : ModelRuntimePreset Settings) (kind : SwitchKind) :
    SwitchProgram Settings Columns Engine Error Bool :=
  if kind = .restart then pure false else hasReadyResidency surroundings target

def executeSwitch (target : ModelRuntimePreset Settings) (kind : SwitchKind) (expected : SiftConfig Settings Engine) :
    SwitchProgram Settings Columns Engine Error Unit := do
  let previous ← read fun state : SwitchState Settings Columns Engine => state.applied
  let reuseResidency ← reusesResidency surroundings target kind
  modify fun state : SwitchState Settings Columns Engine => { state with previousEngine := none }
  attempt (switchTo surroundings target kind expected reuseResidency) (rollBack surroundings previous kind expected)

end Program

/-! ## What may be relied on -/

section Contract

/-- The runtime goes its way, and the configuration may be saved. -/
structure LeavesAlone (saves : Option (AppConfigRow Columns) → Option (AppConfigRow Columns) → Prop)
    (state later : SwitchState Settings Columns Engine) : Prop where
  applied : later.applied = state.applied
  engine : later.engine = state.engine
  previousEngine : later.previousEngine = state.previousEngine
  errorPhase : later.errorPhase = state.errorPhase
  error : later.error = state.error
  rollback : later.rollback = state.rollback
  row : ReflTransGen saves state.row later.row

/-- Between a question and its answer nothing but the runtime and the saves act, and no save comes between the
parts of a transaction; what a step of the switch itself throws is among the errors `raised`. -/
structure Relies (saves : Option (AppConfigRow Columns) → Option (AppConfigRow Columns) → Prop) (raised : Error → Prop)
    (state : SwitchState Settings Columns Engine) (question : SwitchPhase × SwitchCall Settings)
    (answer : Except Error question.2.Answer) (later : SwitchState Settings Columns Engine) : Prop where
  alone : LeavesAlone saves state later
  atomic : question.2 = .transaction → later = state
  raises : ∀ failure, question.1 = .switching → answer = .error failure → raised failure

variable (saves : Option (AppConfigRow Columns) → Option (AppConfigRow Columns) → Prop) (raised : Error → Prop)

def switchContract (throws : Error → SwitchState Settings Columns Engine → Prop) :
    Contract (switchInterface Settings Error) (SwitchState Settings Columns Engine) Error where
  rely := Relies saves raised
  asks := fun _ => True
  throws := throws

variable {saves raised} {throws : Error → SwitchState Settings Columns Engine → Prop}

/-- A property that the runtime and the saves keep. -/
def Stable (saves : Option (AppConfigRow Columns) → Option (AppConfigRow Columns) → Prop)
    (holds : SwitchState Settings Columns Engine → Prop) : Prop :=
  ∀ state later, LeavesAlone saves state later → holds state → holds later

theorem call_keeps {holds : SwitchState Settings Columns Engine → Prop} (stable : Stable saves holds)
    {phase : SwitchPhase} (question : SwitchCall Settings)
    (throwing : ∀ failure state, (phase = .switching → raised failure) → holds state → throws failure state) :
    Triple (switchContract saves raised throws) holds (call phase question : SwitchProgram Settings Columns Engine Error _)
      (fun _ => holds) := by
  intro state held
  refine ⟨trivial, fun answer later relied => ?_⟩
  have kept : holds later := stable state later relied.alone held
  cases answer with
  | ok value => exact kept
  | error failure => exact throwing failure later (fun switching => relied.raises failure switching rfl) kept

variable {before : SwitchState Settings Columns Engine → Prop}

theorem transact_ensures {Result : Type}
    {returns : Result → SwitchState Settings Columns Engine → Prop} {phase : SwitchPhase}
    {body : Option (AppConfigRow Columns) → String → Except Error (Result × Option (AppConfigRow Columns))}
    (refused : ∀ failure state, (phase = .switching → raised failure) → before state → throws failure state)
    (failed : ∀ failure state now, before state → body state.row now = .error failure → throws failure state)
    (committed : ∀ result row state now, before state → body state.row now = .ok (result, row) →
      returns result { state with row }) :
    Triple (switchContract saves raised throws) before (transact phase body) returns := by
  intro state held
  refine ⟨trivial, fun answer later relied => ?_⟩
  obtain rfl : later = state := relied.atomic rfl
  cases answer with
  | error failure => exact refused failure later (fun switching => relied.raises failure switching rfl) held
  | ok now =>
    change Node.Ensures _ returns (Node.bind _ (ofExcept (body later.row now) later))
    cases outcome : body later.row now with
    | error failure => exact failed failure later now held outcome
    | ok written => exact committed written.1 written.2 later now held outcome

variable {surroundings : Surroundings Settings Engine Error}

theorem replaceEngineConfig_ensures
    {returns : Engine → SwitchState Settings Columns Engine → Prop} {engine : Engine}
    (refused : ∀ state, before state →
      throws (surroundings.error "Engine configuration can only change while stopped.") state)
    (replaced : ∀ state, before state → returns state.engine { state with engine }) :
    Triple (switchContract saves raised throws) before (replaceEngineConfig surroundings engine) returns := by
  intro state held
  unfold replaceEngineConfig
  change Node.Ensures _ returns ((if state.processState ≠ .stopped then _ else _ : SwitchProgram _ _ _ _ _) state)
  split
  next running => exact refused state held
  next stopped => exact replaced state held

/-! ## The switch -/

/-- The switch has not written anything, and it knows the engine configuration that it found. -/
structure Pending (saves : Option (AppConfigRow Columns) → Option (AppConfigRow Columns) → Prop)
    (start state : SwitchState Settings Columns Engine) : Prop where
  row : ReflTransGen saves start.row state.row
  engine : (state.previousEngine = none ∧ state.engine = start.engine) ∨ state.previousEngine = some start.engine

variable {start : SwitchState Settings Columns Engine}

theorem Pending.stable : Stable saves (Pending saves start) := by
  intro state later alone pending
  refine ⟨pending.row.trans alone.row, ?_⟩
  rw [alone.previousEngine, alone.engine]
  exact pending.engine

/-- Before the engine configuration is replaced. -/
def Untouched (saves : Option (AppConfigRow Columns) → Option (AppConfigRow Columns) → Prop)
    (start state : SwitchState Settings Columns Engine) : Prop :=
  ReflTransGen saves start.row state.row ∧ state.previousEngine = none ∧ state.engine = start.engine

theorem Untouched.stable : Stable saves (Untouched saves start) := by
  rintro state later alone ⟨row, previousEngine, engine⟩
  exact ⟨row.trans alone.row, alone.previousEngine.trans previousEngine, alone.engine.trans engine⟩

theorem Untouched.pending {state : SwitchState Settings Columns Engine} (untouched : Untouched saves start state) :
    Pending saves start state :=
  ⟨untouched.1, .inl untouched.2⟩

/-- What a switch that succeeded did to the row: nothing, or a requested one set the selection that it expected. -/
def Persisted (surroundings : Surroundings Settings Engine Error) (target : ModelRuntimePreset Settings) (kind : SwitchKind)
    (expected : SiftConfig Settings Engine) (row later : Option (AppConfigRow Columns)) : Prop :=
  if kind = .requested then
    ∃ written now, persistAppliedModelSelection surroundings row expected target now = .ok (written, later)
  else later = row

/-- The end of a switch that succeeded. -/
structure Switched (surroundings : Surroundings Settings Engine Error)
    (saves : Option (AppConfigRow Columns) → Option (AppConfigRow Columns) → Prop) (target : ModelRuntimePreset Settings)
    (kind : SwitchKind) (expected : SiftConfig Settings Engine) (start state : SwitchState Settings Columns Engine) :
    Prop where
  applied : state.applied = target
  row : ∃ row, ReflTransGen saves start.row row ∧ Persisted surroundings target kind expected row state.row

/-- The errors that a step of the switch itself may throw without being asked of the world. -/
structure RaisesOwn (surroundings : Surroundings Settings Engine Error) (raised : Error → Prop) : Prop where
  engine : raised (surroundings.error "Engine configuration can only change while stopped.")
  presets : ∀ text failure, surroundings.parseModelRuntimePresetArray text = .error failure → raised failure

/-- A step that fails leaves a switch pending. -/
def Interrupted (saves : Option (AppConfigRow Columns) → Option (AppConfigRow Columns) → Prop) (raised : Error → Prop)
    (start : SwitchState Settings Columns Engine) (failure : Error) (state : SwitchState Settings Columns Engine) : Prop :=
  raised failure ∧ Pending saves start state

theorem unloadResident_ensures {reuseResidency : Bool} :
    Triple (switchContract saves raised (Interrupted saves raised start)) (Untouched saves start)
      (unloadResident reuseResidency : SwitchProgram Settings Columns Engine Error Unit) (fun _ => Untouched saves start) := by
  unfold unloadResident
  cases reuseResidency with
  | true => exact fun _ held => held
  | false => exact call_keeps Untouched.stable .unloadPreset fun failure state known held => ⟨known rfl, held.pending⟩

variable {expected : SiftConfig Settings Engine}

theorem replaceProcess_ensures {kind : SwitchKind}
    (own : RaisesOwn surroundings raised) :
    Triple (switchContract saves raised (Interrupted saves raised start)) (Untouched saves start)
      (replaceProcess surroundings kind expected) (fun _ => Pending saves start) := by
  apply Triple.ite
  · intro restarts
    refine Triple.bind (fun _ => Untouched saves start) (call_keeps Untouched.stable .stopProcess ?_) fun _ => ?_
    · exact fun failure state known held => ⟨known rfl, held.pending⟩
    refine Triple.bind (fun previousEngine state => previousEngine = start.engine ∧ ReflTransGen saves start.row state.row)
      (replaceEngineConfig_ensures ?_ ?_) fun previousEngine => ?_
    · exact fun state held => ⟨own.engine, held.pending⟩
    · exact fun state held => ⟨held.2.2, held.1⟩
    · rintro state ⟨rfl, row⟩
      exact ⟨row, .inr rfl⟩
  · intro keeps state held
    exact held.pending

section

variable {target : ModelRuntimePreset Settings} {kind : SwitchKind} {expected : SiftConfig Settings Engine}

theorem persistSelection_ensures (own : RaisesOwn surroundings raised) :
    Triple (switchContract saves raised (Interrupted saves raised start))
      (fun state => Pending saves start state ∧ state.applied = target) (persistSelection surroundings target kind expected)
      (fun _ => Switched surroundings saves target kind expected start) := by
  apply Triple.ite
  · intro requested
    refine Triple.bind (fun _ => Switched surroundings saves target kind expected start) (transact_ensures ?_ ?_ ?_)
      fun _ _ switched => switched
    · exact fun failure state known held => ⟨known rfl, held.1⟩
    · intro failure state now held failed
      obtain ⟨text, refused⟩ := persistAppliedModelSelection_eq_error failed
      exact ⟨own.presets text failure refused, held.1⟩
    · intro written row state now held persisted
      refine ⟨held.2, state.row, held.1.row, ?_⟩
      rw [Persisted, if_pos requested]
      exact ⟨written, now, persisted⟩
  · intro other state held
    refine ⟨held.2, state.row, held.1.row, ?_⟩
    rw [Persisted, if_neg other]

theorem switchTo_ensures {reuseResidency : Bool} (own : RaisesOwn surroundings raised) :
    Triple (switchContract saves raised (Interrupted saves raised start)) (Untouched saves start)
      (switchTo surroundings target kind expected reuseResidency)
      (fun _ => Switched surroundings saves target kind expected start) := by
  refine Triple.bind (fun _ => Untouched saves start) unloadResident_ensures fun _ => ?_
  refine Triple.bind (fun _ => Pending saves start) (replaceProcess_ensures own) fun _ => ?_
  refine Triple.bind (fun _ => Pending saves start) (call_keeps Pending.stable (.ensurePresetReady target) ?_) fun _ => ?_
  · exact fun failure state known held => ⟨known rfl, held⟩
  refine Triple.bind (fun _ state => Pending saves start state ∧ state.applied = target) ?_ fun _ =>
    persistSelection_ensures own
  intro state held
  exact ⟨⟨held.row, held.engine⟩, rfl⟩

end

/-! ## The rollback -/

/-- The rollback goes on, and the error of the switch is reported. -/
def RollingBack (surroundings : Surroundings Settings Engine Error) (failure : Error)
    (state : SwitchState Settings Columns Engine) : Prop :=
  state.errorPhase = some .preset_switch ∧ state.error = some (surroundings.message failure)

variable {failure : Error}

theorem RollingBack.stable :
    Stable saves (RollingBack surroundings failure : SwitchState Settings Columns Engine → Prop) := by
  rintro state later alone ⟨phase, reported⟩
  exact ⟨alone.errorPhase.trans phase, alone.error.trans reported⟩

/-- Nothing is undone yet. -/
def Undoing (surroundings : Surroundings Settings Engine Error)
    (saves : Option (AppConfigRow Columns) → Option (AppConfigRow Columns) → Prop) (failure : Error)
    (start state : SwitchState Settings Columns Engine) : Prop :=
  Pending saves start state ∧ RollingBack surroundings failure state

theorem Undoing.stable : Stable saves (Undoing surroundings saves failure start) :=
  fun state later alone undoing =>
    ⟨Pending.stable state later alone undoing.1, RollingBack.stable state later alone undoing.2⟩

def EngineRestored (surroundings : Surroundings Settings Engine Error)
    (saves : Option (AppConfigRow Columns) → Option (AppConfigRow Columns) → Prop) (failure : Error)
    (start state : SwitchState Settings Columns Engine) : Prop :=
  ReflTransGen saves start.row state.row ∧ state.engine = start.engine ∧ RollingBack surroundings failure state

/-- The row after the transaction of the rollback, and after what was saved since. -/
def RowRestored (surroundings : Surroundings Settings Engine Error)
    (saves : Option (AppConfigRow Columns) → Option (AppConfigRow Columns) → Prop) (expected : SiftConfig Settings Engine)
    (failure : Error) (start : SwitchState Settings Columns Engine) (restored : Bool)
    (state : SwitchState Settings Columns Engine) : Prop :=
  (∃ row now later, ReflTransGen saves start.row row ∧
    restorePreviousModelSelection surroundings row expected start.applied now = .ok (restored, later) ∧
    ReflTransGen saves later state.row) ∧
  state.engine = start.engine ∧ RollingBack surroundings failure state

theorem RowRestored.stable {restored : Bool} :
    Stable saves (RowRestored surroundings saves expected failure start restored) := by
  rintro state later alone ⟨⟨row, now, written, before, done, after⟩, engine, reported⟩
  exact ⟨⟨row, now, written, before, done, after.trans alone.row⟩, alone.engine.trans engine,
    RollingBack.stable state later alone reported⟩

/-- The end of a rollback that got through. -/
structure Restored (surroundings : Surroundings Settings Engine Error)
    (saves : Option (AppConfigRow Columns) → Option (AppConfigRow Columns) → Prop) (expected : SiftConfig Settings Engine)
    (failure : Error) (start state : SwitchState Settings Columns Engine) : Prop where
  applied : state.applied = start.applied
  outcome : ∃ restored cleanupError, RowRestored surroundings saves expected failure start restored state ∧
    state.rollback = some (if restored then .restored start.applied.id cleanupError else .kept start.applied.id cleanupError)

section Rollback

variable {failure : Error} {kind : SwitchKind} {expected : SiftConfig Settings Engine}

/-- In the rollback any error may come; it is caught. -/
abbrev rollbackContract (saves : Option (AppConfigRow Columns) → Option (AppConfigRow Columns) → Prop) (raised : Error → Prop)
    (surroundings : Surroundings Settings Engine Error) (failure : Error) :
    Contract (switchInterface Settings Error) (SwitchState Settings Columns Engine) Error :=
  switchContract saves raised fun _ => RollingBack surroundings failure

theorem cleanUp_ensures :
    Triple (rollbackContract saves raised surroundings failure) (Undoing surroundings saves failure start)
      (cleanUp surroundings) (fun _ => Undoing surroundings saves failure start) := by
  refine Triple.bind (fun _ => Undoing surroundings saves failure start) (fun _ held => held) fun state => ?_
  apply Triple.ite
  · intro ready
    refine Triple.attempt (fun _ => Undoing surroundings saves failure start) ?_ fun _ _ held => held
    refine Triple.bind (fun _ => Undoing surroundings saves failure start) ?_ fun _ _ held => held
    exact call_keeps Undoing.stable .unloadPreset fun _ _ _ held => held
  · exact fun _ _ held => held

theorem stopRestarted_ensures :
    Triple (rollbackContract saves raised surroundings failure) (Undoing surroundings saves failure start)
      (stopRestarted kind) (fun _ => Undoing surroundings saves failure start) := by
  refine Triple.bind (fun _ => Undoing surroundings saves failure start) (fun _ held => held) fun state => ?_
  apply Triple.ite
  · exact fun _ => call_keeps Undoing.stable .stopProcess fun _ _ _ held => held.2
  · exact fun _ _ held => held

theorem restoreEngine_ensures :
    Triple (rollbackContract saves raised surroundings failure) (Undoing surroundings saves failure start)
      (restoreEngine surroundings) (fun _ => EngineRestored surroundings saves failure start) := by
  refine Triple.bind (fun read state => read = state ∧ Undoing surroundings saves failure start state)
    (fun _ held => ⟨rfl, held⟩) fun read => ?_
  cases previous : read.previousEngine with
  | none =>
    rintro state ⟨rfl, pending, reported⟩
    rcases pending.engine with ⟨_, engine⟩ | known
    · exact ⟨pending.row, engine, reported⟩
    · rw [previous] at known
      exact nomatch known
  | some previousEngine =>
    refine Triple.bind (fun _ => EngineRestored surroundings saves failure start) (replaceEngineConfig_ensures ?_ ?_)
      fun _ _ held => held
    · exact fun state held => held.2.2
    · rintro state ⟨rfl, pending, reported⟩
      rcases pending.engine with ⟨unknown, _⟩ | known
      · rw [previous] at unknown
        exact nomatch unknown
      · rw [previous] at known
        exact ⟨pending.row, Option.some.inj known, reported⟩

theorem restorePrevious_ensures :
    Triple (rollbackContract saves raised surroundings failure) (Undoing surroundings saves failure start)
      (restorePrevious surroundings start.applied kind expected)
      (fun _ => Restored surroundings saves expected failure start) := by
  refine Triple.bind (fun _ => Undoing surroundings saves failure start) cleanUp_ensures fun cleanupError => ?_
  refine Triple.bind (fun _ => Undoing surroundings saves failure start) stopRestarted_ensures fun _ => ?_
  refine Triple.bind (fun _ => EngineRestored surroundings saves failure start) restoreEngine_ensures fun _ => ?_
  refine Triple.bind (RowRestored surroundings saves expected failure start) (transact_ensures ?_ ?_ ?_) fun restored => ?_
  · exact fun _ _ _ held => held.2.2
  · exact fun _ _ _ held _ => held.2.2
  · exact fun restored row state now held done => ⟨⟨state.row, now, row, held.1, done, .refl⟩, held.2.1, held.2.2⟩
  refine Triple.bind (fun _ => RowRestored surroundings saves expected failure start restored)
    (call_keeps RowRestored.stable (.ensurePresetReady start.applied) fun _ _ _ held => held.2.2) fun _ => ?_
  exact fun state held => ⟨rfl, restored, cleanupError, held, rfl⟩

/-- How a switch that failed ends: what it throws came from one of its own steps, and unless a step of the
rollback failed too, the previous state is restored. -/
def Undone (surroundings : Surroundings Settings Engine Error)
    (saves : Option (AppConfigRow Columns) → Option (AppConfigRow Columns) → Prop) (raised : Error → Prop)
    (expected : SiftConfig Settings Engine) (start : SwitchState Settings Columns Engine) (failure : Error)
    (state : SwitchState Settings Columns Engine) : Prop :=
  raised failure ∧ RollingBack surroundings failure state ∧
    ((∃ message, state.rollback = some (.failed message)) ∨ Restored surroundings saves expected failure start state)

theorem rollBack_ensures {returns : Unit → SwitchState Settings Columns Engine → Prop} :
    Triple (switchContract saves raised (Undone surroundings saves raised expected start))
      (Interrupted saves raised start failure) (rollBack surroundings start.applied kind expected failure) returns := by
  rintro state ⟨known, pending⟩
  have caught : Triple (switchContract saves raised (Undone surroundings saves raised expected start))
      (Undoing surroundings saves failure start)
      (attempt (restorePrevious surroundings start.applied kind expected) fun rollbackError =>
        modify fun state : SwitchState Settings Columns Engine =>
          { state with rollback := some (.failed (surroundings.message rollbackError)) })
      (fun _ => Undone surroundings saves raised expected start failure) := by
    refine Triple.attempt (fun _ => RollingBack surroundings failure) ?_ fun rollbackError => ?_
    · exact Triple.consequence restorePrevious_ensures (fun _ held => held) fun _ state restored =>
        ⟨known, restored.outcome.choose_spec.choose_spec.1.2.2, .inr restored⟩
    · exact fun state held => ⟨known, held, .inl ⟨_, rfl⟩⟩
  have whole : Triple (switchContract saves raised (Undone surroundings saves raised expected start)) (Pending saves start)
      (rollBack surroundings start.applied kind expected failure) returns := by
    refine Triple.bind (fun _ => Undoing surroundings saves failure start) ?_ fun _ => Triple.bind _ caught fun _ => ?_
    · exact fun state held => ⟨⟨held.row, held.engine⟩, rfl, rfl⟩
    · exact Triple.throw
  exact whole state pending

/-- The keys of the residencies can be told, wherever they are compared. -/
def Comparable (surroundings : Surroundings Settings Engine Error) (target : ModelRuntimePreset Settings) (kind : SwitchKind)
    (start : SwitchState Settings Columns Engine) : Prop :=
  kind ≠ .restart → start.modelState = .ready →
    (∃ key, surroundings.getPresetResidencyKey start.engine target = .ok key) ∧
      ∃ key, surroundings.getPresetResidencyKey start.engine start.applied = .ok key

variable {target : ModelRuntimePreset Settings}

theorem reusesResidency_ensures (comparable : Comparable surroundings target kind start) :
    Triple (switchContract saves raised throws) (fun state => state = start) (reusesResidency surroundings target kind)
      (fun _ state => state = start) := by
  apply Triple.ite
  · exact fun _ _ held => held
  · intro other
    refine Triple.bind (fun found state => found = start ∧ state = start) (fun state held => ⟨held, held⟩) fun found => ?_
    refine Triple.ite (fun _ _ held => held.2) fun ready => ?_
    rintro state ⟨rfl, rfl⟩
    obtain ⟨⟨targetKey, ofTarget⟩, appliedKey, ofApplied⟩ := comparable other (not_not.mp ready)
    rw [ofTarget, ofApplied]
    rfl

theorem executeSwitch_ensures (own : RaisesOwn surroundings raised)
    (comparable : Comparable surroundings target kind start) :
    Triple (switchContract saves raised (Undone surroundings saves raised expected start)) (fun state => state = start)
      (executeSwitch surroundings target kind expected)
      (fun _ => Switched surroundings saves target kind expected start) := by
  refine Triple.bind (fun previous state => previous = start.applied ∧ state = start)
    (fun state held => ⟨congrArg _ held, held⟩) fun previous => ?_
  rintro state ⟨rfl, isStart⟩
  refine (Triple.bind (fun _ state => state = start) (reusesResidency_ensures comparable) fun reuseResidency => ?_) state isStart
  refine Triple.bind (fun _ => Untouched saves start) ?_ fun _ => ?_
  · rintro _ rfl
    exact ⟨.refl, rfl, rfl⟩
  · exact Triple.attempt (Interrupted saves raised start) (switchTo_ensures own) fun failure => rollBack_ensures

end Rollback

/-! ## Runs of a switch -/

end Contract

def sampleProfile (id : String) : ModelRuntimePreset Unit := ⟨id, some id, false, ()⟩

def profileText (preset : ModelRuntimePreset Unit) : String :=
  "\x7b\"id\":\"" ++ preset.id ++ "\",\"Model\":\"" ++ preset.id ++ "\"\x7d"

def sampleRow : AppConfigRow Unit :=
  ⟨"[" ++ profileText (sampleProfile "main") ++ "," ++ profileText (sampleProfile "alt") ++ "]", some "main", some "main", 0,
    "2026-01-01T00:00:00.000Z", ()⟩

def sampleSurroundings : Surroundings Unit Nat String where
  parseModelRuntimePresetArray := fun text =>
    if text = sampleRow.server_model_presets_json then .ok [sampleProfile "main", sampleProfile "alt"]
    else .error "Unexpected end of JSON input"
  stringifyPreset := profileText
  getPresetResidencyKey := fun _ preset => .ok preset.id
  error := id
  message := id

/-- A runtime that cannot load the target, and nobody saves. -/
def failingLoad : Environment (switchInterface Unit String) (SwitchState Unit Unit Nat) Unit
    (Relies (fun _ _ => False) fun failure => failure = "load failed: alt" ∨
      failure = "Engine configuration can only change while stopped." ∨ failure = "Unexpected end of JSON input") where
  answer := fun _ state question =>
    ((), state, match question with
      | (.switching, .ensurePresetReady _) => .error "load failed: alt"
      | (_, .unloadPreset) | (_, .stopProcess) | (_, .ensurePresetReady _) => .ok ()
      | (_, .transaction) => .ok "2026-01-02T00:00:00.000Z")
  relied := by
    rintro ⟨⟩ state ⟨phase, question⟩
    refine ⟨⟨rfl, rfl, rfl, rfl, rfl, rfl, .refl⟩, fun _ => rfl, ?_⟩
    rintro failure switching answered
    cases switching
    cases question with
    | ensurePresetReady preset => exact .inl (Except.error.inj answered).symm
    | unloadPreset => exact nomatch answered
    | stopProcess => exact nomatch answered
    | transaction => exact nomatch answered

def readyState : SwitchState Unit Unit Nat :=
  ⟨sampleProfile "main", 1, .ready, .ready, some sampleRow, none, none, none, none⟩

end SiftKit.Status
