import SiftKit.Foundation.OrderedMap
import SiftKit.Foundation.Runs

/-! # Status run registry

`StatusRunRegistry` of `status-server/status-run-registry.ts`: which requests are running, which
wait for their terminal metadata, and which were completed not long ago.
-/

namespace SiftKit.Status

def TERMINAL_SNAPSHOT_RETENTION_MS : Int := 300000

def COMPLETED_REQUEST_RETENTION_MS : Int := 900000

inductive TaskKind where
  | summary
  | plan
  | repoSearch
  | chat
  deriving DecidableEq

structure StatusRunStartInput where
  requestId : String
  statusPath : String
  taskKind : Option TaskKind
  nowMs : Int
  rawInputCharacterCount : Option Nat
  promptCharacterCount : Option Nat
  promptTokenCount : Option Nat
  chunkIndex : Option Nat
  chunkTotal : Option Nat
  chunkPath : Option String
  deriving DecidableEq

structure ActiveRunState where
  requestId : String
  statusPath : String
  taskKind : Option TaskKind
  overallStartedAt : Int
  currentRequestStartedAt : Int
  stepCount : Nat
  rawInputCharacterCount : Option Nat
  promptCharacterCount : Option Nat
  promptTokenCount : Option Nat
  outputTokensTotal : Nat
  chunkIndex : Option Nat
  chunkTotal : Option Nat
  chunkPath : Option String
  deriving DecidableEq

structure TerminalRunState where
  run : Option ActiveRunState
  terminalState : String
  completedAtMs : Int
  deriving DecidableEq

inductive StatusRunStartResult where
  | started (run : ActiveRunState)
  | advanced (run : ActiveRunState)
  | late (requestId : String)
  deriving DecidableEq

inductive StatusRunCompleteResult where
  | completed (run : TerminalRunState)
  | completedWithoutRun (run : TerminalRunState)
  | duplicate (requestId : String)
  deriving DecidableEq

inductive StatusTerminalResolution where
  | active (run : ActiveRunState)
  | awaiting (run : TerminalRunState)
  | duplicate (requestId : String)
  | unknown (requestId : String)
  deriving DecidableEq

inductive StatusTerminalFinalizeResult where
  | finalized (requestId : String)
  | duplicate (requestId : String)
  | unknown (requestId : String)
  deriving DecidableEq

inductive ExpiredPhase where
  | awaitingTerminalMetadata
  | completed
  deriving DecidableEq

structure ExpiredStatusRun where
  requestId : String
  phase : ExpiredPhase
  deriving DecidableEq

/-- A run as the dashboard lists it. -/
structure ActiveStatusRun where
  requestId : String
  statusPath : String
  taskKind : Option TaskKind
  startedAtUtc : String
  currentStepStartedAtUtc : String
  stepCount : Nat
  chunkIndex : Option Nat
  chunkTotal : Option Nat

def createActiveRunState (input : StatusRunStartInput) : ActiveRunState where
  requestId := input.requestId
  statusPath := input.statusPath
  taskKind := input.taskKind
  overallStartedAt := input.nowMs
  currentRequestStartedAt := input.nowMs
  stepCount := 1
  rawInputCharacterCount := input.rawInputCharacterCount
  promptCharacterCount := input.promptCharacterCount
  promptTokenCount := input.promptTokenCount
  outputTokensTotal := 0
  chunkIndex := input.chunkIndex
  chunkTotal := input.chunkTotal
  chunkPath := input.chunkPath

/-- One more step of a run; what the input leaves open keeps its value. -/
def ActiveRunState.advance (existing : ActiveRunState) (input : StatusRunStartInput) : ActiveRunState :=
  { existing with
    stepCount := existing.stepCount + 1
    currentRequestStartedAt := input.nowMs
    rawInputCharacterCount := existing.rawInputCharacterCount <|> input.rawInputCharacterCount
    promptCharacterCount := input.promptCharacterCount <|> existing.promptCharacterCount
    promptTokenCount := input.promptTokenCount <|> existing.promptTokenCount
    chunkIndex := input.chunkIndex <|> existing.chunkIndex
    chunkTotal := input.chunkTotal <|> existing.chunkTotal
    chunkPath := input.chunkPath <|> existing.chunkPath }

/-- What the runtime gives for texts and times: `localeCompare`, as "not after", and `toISOString`. -/
structure Locale where
  notAfter : String → String → Bool
  toISOString : Int → String

structure StatusRunRegistry where
  activeRuns : OrderedMap String ActiveRunState
  awaitingTerminalMetadata : OrderedMap String TerminalRunState
  completedAtByRequestId : OrderedMap String Int

namespace StatusRunRegistry

/-- `new StatusRunRegistry()`. -/
def empty : StatusRunRegistry := ⟨.empty, .empty, .empty⟩

def startOrAdvance (registry : StatusRunRegistry) (input : StatusRunStartInput) : StatusRunStartResult × StatusRunRegistry :=
  if registry.completedAtByRequestId.has input.requestId then (.late input.requestId, registry)
  else match registry.activeRuns.get? input.requestId with
    | some existing =>
      let run := existing.advance input
      (.advanced run, { registry with activeRuns := registry.activeRuns.set input.requestId run })
    | none =>
      let run := createActiveRunState input
      (.started run, { registry with activeRuns := registry.activeRuns.set input.requestId run })

def markComplete (registry : StatusRunRegistry) (requestId terminalState : String) (nowMs : Int) :
    StatusRunCompleteResult × StatusRunRegistry :=
  if registry.completedAtByRequestId.has requestId then (.duplicate requestId, registry)
  else
    let run := registry.activeRuns.get? requestId
    let terminalRun := ⟨run, terminalState, nowMs⟩
    let after := {
      activeRuns := registry.activeRuns.delete requestId
      awaitingTerminalMetadata := registry.awaitingTerminalMetadata.set requestId terminalRun
      completedAtByRequestId := registry.completedAtByRequestId.set requestId nowMs }
    (if run.isNone then .completedWithoutRun terminalRun else .completed terminalRun, after)

/-- Completed, and its metadata no longer awaited. -/
def isSettled (registry : StatusRunRegistry) (requestId : String) : Bool :=
  registry.completedAtByRequestId.has requestId && !registry.awaitingTerminalMetadata.has requestId

def resolveTerminalRun (registry : StatusRunRegistry) (requestId : String) : StatusTerminalResolution :=
  if registry.isSettled requestId then .duplicate requestId
  else match registry.awaitingTerminalMetadata.get? requestId with
    | some awaiting => .awaiting awaiting
    | none => match registry.activeRuns.get? requestId with
      | some active => .active active
      | none => .unknown requestId

def finalizeTerminal (registry : StatusRunRegistry) (requestId : String) (nowMs : Int) :
    StatusTerminalFinalizeResult × StatusRunRegistry :=
  if registry.isSettled requestId then (.duplicate requestId, registry)
  else match registry.awaitingTerminalMetadata.get? requestId with
    | some _ => (.finalized requestId,
        { registry with awaitingTerminalMetadata := registry.awaitingTerminalMetadata.delete requestId })
    | none => match registry.activeRuns.get? requestId with
      | some _ => (.finalized requestId, { registry with
          activeRuns := registry.activeRuns.delete requestId
          completedAtByRequestId := registry.completedAtByRequestId.set requestId nowMs })
      | none => (.unknown requestId, registry)

/-- Terminal metadata that was awaited for too long. -/
def snapshotExpired (nowMs : Int) (terminalRun : TerminalRunState) : Bool :=
  nowMs - terminalRun.completedAtMs ≥ TERMINAL_SNAPSHOT_RETENTION_MS

/-- A completion that need not be remembered any longer. -/
def completionExpired (nowMs : Int) (awaiting : OrderedMap String TerminalRunState) (requestId : String)
    (completedAt : Int) : Bool :=
  !awaiting.has requestId && nowMs - completedAt ≥ COMPLETED_REQUEST_RETENTION_MS

def pruneExpired (registry : StatusRunRegistry) (nowMs : Int) : List ExpiredStatusRun × StatusRunRegistry :=
  let expiredRuns := registry.awaitingTerminalMetadata.entries.filter fun entry => snapshotExpired nowMs entry.2
  let awaiting := registry.awaitingTerminalMetadata.retain fun _ terminalRun => !snapshotExpired nowMs terminalRun
  let expiredCompletions := registry.completedAtByRequestId.entries.filter fun entry =>
    completionExpired nowMs awaiting entry.1 entry.2
  (expiredRuns.map (fun entry => ⟨entry.1, .awaitingTerminalMetadata⟩) ++
      expiredCompletions.map fun entry => ⟨entry.1, .completed⟩,
    { registry with
      awaitingTerminalMetadata := awaiting
      completedAtByRequestId := registry.completedAtByRequestId.retain fun requestId completedAt =>
        !completionExpired nowMs awaiting requestId completedAt })

def toActiveStatusRun (locale : Locale) (run : ActiveRunState) : ActiveStatusRun where
  requestId := run.requestId
  statusPath := run.statusPath
  taskKind := run.taskKind
  startedAtUtc := locale.toISOString run.overallStartedAt
  currentStepStartedAtUtc := locale.toISOString run.currentRequestStartedAt
  stepCount := run.stepCount
  chunkIndex := run.chunkIndex
  chunkTotal := run.chunkTotal

/-- Earlier runs first; request ids break ties. -/
def startsBefore (locale : Locale) (early late : ActiveRunState) : Bool :=
  if early.overallStartedAt = late.overallStartedAt then locale.notAfter early.requestId late.requestId
  else early.overallStartedAt < late.overallStartedAt

def getActiveRuns (locale : Locale) (registry : StatusRunRegistry) (nowMs : Int) : List ActiveStatusRun × StatusRunRegistry :=
  let pruned := (registry.pruneExpired nowMs).2
  ((pruned.activeRuns.values.mergeSort (startsBefore locale)).map (toActiveStatusRun locale), pruned)

def hasActiveRuns (registry : StatusRunRegistry) (nowMs : Int) : Bool × StatusRunRegistry :=
  let pruned := (registry.pruneExpired nowMs).2
  (pruned.activeRuns.size > 0, pruned)

end StatusRunRegistry

end SiftKit.Status
