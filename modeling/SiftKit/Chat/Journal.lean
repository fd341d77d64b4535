import SiftKit.Chat.MessageQueue
import SiftKit.Chat.RuntimeOwner

/-! # Chat journal

`ChatJournalStore` of `state/chat-journal.ts` over `chat_runs` and `chat_run_events`.  What the store
does with an event depends on nothing but the schema of events and the digest of their texts, so both
are arguments.  Each call is one transaction: a call that throws changes nothing.
-/

namespace SiftKit.Chat

open SiftKit.Json SiftKit.Failure SiftKit.Tables

def CHAT_JOURNAL_EVENT_VERSION : Nat := 2

def CHAT_JOURNAL_READ_PAGE_SIZE : Nat := 500

def CHAT_JOURNAL_READ_PAGE_BYTES : Nat := 1024 * 1024

/-- `z.string().datetime()`. -/
def StringFormats.isDatetime (formats : StringFormats) (text : String) : Bool := formats.datetime (utf16 text)

structure JournalFormat where
  strings : StringFormats
  /-- `ChatJournalEventSchema`. -/
  events : Schema
  /-- `ChatRunEffectiveSettingsSchema`. -/
  settings : Schema
  /-- `ChatImportProvenanceSchema`. -/
  provenance : Schema
  /-- The hash in hexadecimal. -/
  sha256 : JsString → String

/-! ## Rows -/

inductive ChatRunRecordKind where
  | execution
  | baseline
  | history_revision
  deriving DecidableEq

inductive ChatSessionOperationKind where
  | message
  | plan
  | repo_search
  | repo_agent
  | condense
  deriving DecidableEq

inductive ChatRunTerminalCause where
  | completed
  | user_stop
  | approval_timeout
  | provider_failure
  | execution_failure
  | storage_failure
  | server_restart
  deriving DecidableEq

/-- What a row of `chat_runs` and a `ChatRun` have in common. -/
structure ChatRunColumns where
  operationId : String
  sessionId : String
  recordKind : ChatRunRecordKind
  operationKind : Option ChatSessionOperationKind
  requestId : Option String
  repoAgentSessionId : Option String
  runOrder : Nat
  ownerEpoch : String
  createdAtUtc : String
  updatedAtUtc : String
  terminalCause : Option ChatRunTerminalCause
  latestSequence : Nat
  projectedSequence : Nat
  projectedDigest : Option String
  projectedHistoryRevision : Nat
  contextRevision : Nat
  deriving DecidableEq

structure RunRow extends ChatRunColumns where
  effectiveSettingsJson : Option JsString
  provenanceJson : Option JsString
  deriving DecidableEq

structure ChatRun extends ChatRunColumns where
  settings : Option JsValue
  provenance : Option JsValue

/-- `ChatRunSchema`, in what the columns do not enforce. -/
def ChatRunColumns.accepts (formats : StringFormats) (run : ChatRunColumns) : Bool :=
  formats.isUuid run.operationId && !run.sessionId.isEmpty && run.requestId.all (fun id => !id.isEmpty) &&
    run.repoAgentSessionId.all (fun id => !id.isEmpty) && 0 < run.runOrder && !run.ownerEpoch.isEmpty &&
    formats.isDatetime run.createdAtUtc && formats.isDatetime run.updatedAtUtc

def parseJsonColumn (schema : Schema) : Option JsString → Except Thrown (Option JsValue)
  | none => .ok none
  | some raw => (orInvalid ((Json.parse raw).bind schema.parse)).map some

def toChatRun (format : JournalFormat) (row : RunRow) : Except Thrown ChatRun := do
  let settings ← parseJsonColumn format.settings row.effectiveSettingsJson
  let provenance ← parseJsonColumn format.provenance row.provenanceJson
  throwWhen (!row.accepts format.strings) .invalid
  return { row with settings := settings, provenance := provenance }

structure EventRow where
  operationId : String
  sequence : Nat
  eventId : String
  version : Nat
  recordedAtUtc : String
  bodyJson : JsString
  payloadDigest : String
  deriving DecidableEq

/-- One committed row, as it is read back. -/
structure ChatJournalEnvelope where
  operationId : String
  sequence : Nat
  eventId : String
  version : Nat
  recordedAtUtc : String
  event : JsValue
  payloadDigest : String

def digestStableJson (format : JournalFormat) (value : JsValue) : String := format.sha256 (stableStringify value)

def decodeJson (text : JsString) : Option JsValue := (Json.parse text).bind Schema.json.parse

def digestChatJournalEvent (format : JournalFormat) (event : JsValue) : Except Thrown String :=
  (orInvalid (decodeJson (stringify event))).map (digestStableJson format)

/-- The message of a `ChatJournalIntegrityError`. -/
def integrityError (row : EventRow) (detail : String) : Thrown :=
  .error s!"Chat journal event {row.eventId} in run {row.operationId}: {detail}"

/-- `ChatJournalEnvelopeSchema.parse`. -/
def ChatJournalEnvelope.parse (format : JournalFormat) (envelope : ChatJournalEnvelope) : Option ChatJournalEnvelope := do
  let event ← format.events.parse envelope.event
  if format.strings.isUuid envelope.operationId && 0 < envelope.sequence && !envelope.eventId.isEmpty &&
      envelope.version == CHAT_JOURNAL_EVENT_VERSION && format.strings.isDatetime envelope.recordedAtUtc &&
      !envelope.payloadDigest.isEmpty
  then some { envelope with event := event } else none

def toEnvelope (format : JournalFormat) (row : EventRow) : Except Thrown ChatJournalEnvelope := do
  throwWhen (row.version != CHAT_JOURNAL_EVENT_VERSION)
    (integrityError row s!"unsupported version {row.version}; this build reads version {CHAT_JOURNAL_EVENT_VERSION}.")
  let decoded ← (decodeJson row.bodyJson).elim (.error (integrityError row "malformed event payload: invalid JSON.")) .ok
  let event ← orInvalid (format.events.parse decoded)
  throwWhen (digestStableJson format decoded != row.payloadDigest) (integrityError row "corrupt payload digest.")
  orInvalid (ChatJournalEnvelope.parse format {
    operationId := row.operationId
    sequence := row.sequence
    eventId := row.eventId
    version := row.version
    recordedAtUtc := row.recordedAtUtc
    event := event
    payloadDigest := row.payloadDigest })

/-! ## Requests -/

structure ChatRunStart where
  operationId : String
  sessionId : String
  recordKind : ChatRunRecordKind
  operationKind : Option ChatSessionOperationKind
  ownerEpoch : String
  settings : Option JsValue
  provenance : Option JsValue
  createdAtUtc : String

def parseNullableWith (schema : Schema) : Option JsValue → Option (Option JsValue)
  | none => some none
  | some value => (schema.parse value).map some

/-- `ChatRunStartSchema.parse`. -/
def ChatRunStart.parse (format : JournalFormat) (start : ChatRunStart) : Option ChatRunStart := do
  let settings ← parseNullableWith format.settings start.settings
  let provenance ← parseNullableWith format.provenance start.provenance
  if format.strings.isUuid start.operationId && !start.sessionId.isEmpty && !start.ownerEpoch.isEmpty &&
      format.strings.isDatetime start.createdAtUtc
  then some { start with settings := settings, provenance := provenance } else none

structure ChatEngineBinding where
  operationId : String
  ownerEpoch : String
  requestId : String
  repoAgentSessionId : Option String

def ChatEngineBinding.accepts (formats : StringFormats) (binding : ChatEngineBinding) : Bool :=
  formats.isUuid binding.operationId && !binding.ownerEpoch.isEmpty && !binding.requestId.isEmpty &&
    binding.repoAgentSessionId.all fun id => !id.isEmpty

structure ChatJournalAppend where
  operationId : String
  ownerEpoch : String
  expectedSequence : Nat
  eventId : String
  occurredAtUtc : String
  event : JsValue

/-- `ChatJournalAppendSchema.parse`. -/
def ChatJournalAppend.parse (format : JournalFormat) (write : ChatJournalAppend) : Option ChatJournalAppend := do
  let event ← format.events.parse write.event
  if format.strings.isUuid write.operationId && !write.ownerEpoch.isEmpty && !write.eventId.isEmpty &&
      format.strings.isDatetime write.occurredAtUtc
  then some { write with event := event } else none

structure ChatRunFinish where
  operationId : String
  ownerEpoch : String
  terminalCause : ChatRunTerminalCause
  updatedAtUtc : String

def ChatRunFinish.accepts (formats : StringFormats) (finish : ChatRunFinish) : Bool :=
  formats.isUuid finish.operationId && !finish.ownerEpoch.isEmpty && formats.isDatetime finish.updatedAtUtc

structure ChatProjectionCheckpoint where
  operationId : String
  projectedSequence : Nat
  projectedDigest : Option String
  projectedHistoryRevision : Nat

structure ChatContextCheckpoint where
  operationId : String
  contextRevision : Nat

/-! ## The store -/

structure ChatJournalStore where
  runs : List RunRow
  events : List EventRow
  owner : OwnerTable

namespace ChatJournalStore

/-- A database without chat runs. -/
def empty : ChatJournalStore := ⟨[], [], none⟩

def isRun (operationId : String) (row : RunRow) : Bool := row.operationId == operationId

def isEvent (operationId eventId : String) (row : EventRow) : Bool :=
  row.operationId == operationId && row.eventId == eventId

def readRun (format : JournalFormat) (store : ChatJournalStore) (operationId : String) : Except Thrown (Option ChatRun) := do
  throwWhen (!format.strings.isUuid operationId) .invalid
  match store.runs.find? (isRun operationId) with
  | some row => (toChatRun format row).map some
  | none => return none

def unknownRun (operationId : String) : Thrown := .error s!"Chat run {operationId} is unknown to the chat journal."

def requireRun (format : JournalFormat) (store : ChatJournalStore) (operationId : String) : Except Thrown ChatRun := do
  match ← store.readRun format operationId with
  | some run => return run
  | none => throw (unknownRun operationId)

def ownedByOther (run : ChatRun) (ownerEpoch : String) : Thrown :=
  .error s!"Chat run {run.operationId} is owned by epoch {run.ownerEpoch}; a write from {ownerEpoch} is fenced out."

def leaseLost : Thrown := .error "Chat runtime owner lease expired or fenced out this writer."

/-- The lease row, where there is one, names the writer and has not expired. -/
def requireLease (store : ChatJournalStore) (ownerEpoch : String) (now : Int) : Except Thrown Unit :=
  match store.owner with
  | none => .ok ()
  | some row => do
    throwWhen (!row.accepts) .invalid
    throwWhen (row.ownerEpoch != ownerEpoch || decide (row.leaseExpiresAt ≤ now)) leaseLost

def requireOwner (store : ChatJournalStore) (run : ChatRun) (ownerEpoch : String) (now : Int) : Except Thrown Unit := do
  throwWhen (run.ownerEpoch != ownerEpoch) (ownedByOther run ownerEpoch)
  if run.recordKind = .execution then store.requireLease ownerEpoch now else return ()

def readEventById (format : JournalFormat) (store : ChatJournalStore) (operationId eventId : String) :
    Except Thrown (Option ChatJournalEnvelope) :=
  match store.events.find? (isEvent operationId eventId) with
  | some row => (toEnvelope format row).map some
  | none => .ok none

def updateRun (store : ChatJournalStore) (operationId : String) (rewrite : RunRow → RunRow) : ChatJournalStore :=
  { store with runs := updateWhere (isRun operationId) rewrite store.runs }

/-! ### Runs -/

/-- The unique indexes of `chat_runs`: the id, the two engine identities, the order in the session, and
one unfinished execution for each session. -/
def runsConflict (row other : RunRow) : Bool :=
  row.operationId == other.operationId || (row.requestId.isSome && row.requestId == other.requestId) ||
    (row.repoAgentSessionId.isSome && row.repoAgentSessionId == other.repoAgentSessionId) ||
    (row.sessionId == other.sessionId && (row.runOrder == other.runOrder ||
      (row.recordKind == .execution && other.recordKind == .execution && row.terminalCause.isNone && other.terminalCause.isNone)))

/-- `COALESCE(MAX(run_order), 0) + 1`. -/
def nextRunOrder (store : ChatJournalStore) (sessionId : String) : Nat :=
  ((store.runs.filter fun row => row.sessionId == sessionId).map fun row => row.runOrder).max?.getD 0 + 1

/-- The checks of the table on a new row. -/
def ChatRunStart.fits (start : ChatRunStart) : Bool :=
  (start.recordKind == .execution) == start.operationKind.isSome && (start.recordKind == .execution || start.settings.isNone)

def startRow (store : ChatJournalStore) (start : ChatRunStart) : RunRow where
  operationId := start.operationId
  sessionId := start.sessionId
  recordKind := start.recordKind
  operationKind := start.operationKind
  requestId := none
  repoAgentSessionId := none
  runOrder := store.nextRunOrder start.sessionId
  ownerEpoch := start.ownerEpoch
  createdAtUtc := start.createdAtUtc
  updatedAtUtc := start.createdAtUtc
  terminalCause := none
  latestSequence := 0
  projectedSequence := 0
  projectedDigest := none
  projectedHistoryRevision := 0
  contextRevision := 0
  effectiveSettingsJson := start.settings.map stringify
  provenanceJson := start.provenance.map stringify

def begin (format : JournalFormat) (store : ChatJournalStore) (start : ChatRunStart) : Except Thrown (ChatRun × ChatJournalStore) := do
  let start ← orInvalid (start.parse format)
  throwWhen (!ChatRunStart.fits start) .invalid
  let runs ← orInvalid (insertRow runsConflict (store.startRow start) store.runs)
  let begun := { store with runs := runs }
  let run ← begun.requireRun format start.operationId
  return (run, begun)

def alreadyBound (binding : ChatEngineBinding) (run : ChatRun) : Thrown :=
  let bound := run.requestId.getD ""
  .error (s!"Chat run {binding.operationId} is already bound to request {bound};" ++
    s!" it cannot be rebound to {binding.requestId}.")

/-- Another run has one of the engine identities. -/
def isBoundElsewhere (store : ChatJournalStore) (binding : ChatEngineBinding) : Bool :=
  store.runs.any fun row => row.operationId != binding.operationId && (row.requestId == some binding.requestId ||
    (binding.repoAgentSessionId.isSome && row.repoAgentSessionId == binding.repoAgentSessionId))

def bindRow (binding : ChatEngineBinding) (row : RunRow) : RunRow :=
  { row with requestId := some binding.requestId, repoAgentSessionId := binding.repoAgentSessionId }

def bindEngine (format : JournalFormat) (store : ChatJournalStore) (binding : ChatEngineBinding) (now : Int) :
    Except Thrown (ChatRun × ChatJournalStore) := do
  throwWhen (!binding.accepts format.strings) .invalid
  let run ← store.requireRun format binding.operationId
  store.requireOwner run binding.ownerEpoch now
  if run.requestId.isSome || run.repoAgentSessionId.isSome then
    throwWhen (run.requestId != some binding.requestId || run.repoAgentSessionId != binding.repoAgentSessionId)
      (alreadyBound binding run)
    return (run, store)
  else
    throwWhen (store.isBoundElsewhere binding) .invalid
    let bound := store.updateRun binding.operationId (bindRow binding)
    let run ← bound.requireRun format binding.operationId
    return (run, bound)

/-! ### Events -/

def conflictingEvent (write : ChatJournalAppend) : Thrown :=
  .error (s!"Chat journal event {write.eventId} in run {write.operationId} was already committed with" ++
    " different content; refusing this conflicting event.")

def terminalRun (write : ChatJournalAppend) : Thrown :=
  .error s!"Chat run {write.operationId} is terminal; new evidence is forbidden."

def unexpectedSequence (write : ChatJournalAppend) (run : ChatRun) : Thrown :=
  .error (s!"Chat journal write to run {write.operationId} expected sequence {write.expectedSequence}" ++
    s!" but the run is at {run.latestSequence}.")

def eventRow (write : ChatJournalAppend) (sequence : Nat) (payloadDigest : String) : EventRow where
  operationId := write.operationId
  sequence := sequence
  eventId := write.eventId
  version := CHAT_JOURNAL_EVENT_VERSION
  recordedAtUtc := write.occurredAtUtc
  bodyJson := stringify write.event
  payloadDigest := payloadDigest

/-- The primary key and the unique index of `chat_run_events`. -/
def eventsConflict (row other : EventRow) : Bool :=
  row.operationId == other.operationId && (row.sequence == other.sequence || row.eventId == other.eventId)

def advanceRow (sequence : Nat) (updatedAtUtc : String) (row : RunRow) : RunRow :=
  { row with latestSequence := sequence, updatedAtUtc := updatedAtUtc }

def insertEvent (format : JournalFormat) (store : ChatJournalStore) (run : ChatRun) (write : ChatJournalAppend)
    (payloadDigest : String) : Except Thrown (ChatJournalEnvelope × ChatJournalStore) := do
  throwWhen run.terminalCause.isSome (terminalRun write)
  throwWhen (write.expectedSequence != run.latestSequence) (unexpectedSequence write run)
  let row := eventRow write (run.latestSequence + 1) payloadDigest
  let events ← orInvalid (insertRow eventsConflict row store.events)
  let appended := { store with events := events }.updateRun write.operationId (advanceRow row.sequence write.occurredAtUtc)
  let envelope ← orInvalid (ChatJournalEnvelope.parse format {
    operationId := row.operationId
    sequence := row.sequence
    eventId := row.eventId
    version := row.version
    recordedAtUtc := row.recordedAtUtc
    event := write.event
    payloadDigest := payloadDigest })
  return (envelope, appended)

def append (format : JournalFormat) (store : ChatJournalStore) (write : ChatJournalAppend) (now : Int) :
    Except Thrown (ChatJournalEnvelope × ChatJournalStore) := do
  let write ← orInvalid (write.parse format)
  let payloadDigest ← digestChatJournalEvent format write.event
  let run ← store.requireRun format write.operationId
  store.requireOwner run write.ownerEpoch now
  match ← store.readEventById format write.operationId write.eventId with
  | some existing =>
    throwWhen (existing.payloadDigest != payloadDigest) (conflictingEvent write)
    return (existing, store)
  | none => store.insertEvent format run write payloadDigest

/-! ### The end of a run, and its checkpoints -/

def causeName : ChatRunTerminalCause → String
  | .completed => "completed"
  | .user_stop => "user_stop"
  | .approval_timeout => "approval_timeout"
  | .provider_failure => "provider_failure"
  | .execution_failure => "execution_failure"
  | .storage_failure => "storage_failure"
  | .server_restart => "server_restart"

def alreadyEnded (finish : ChatRunFinish) (cause : ChatRunTerminalCause) : Thrown :=
  .error (s!"Chat run {finish.operationId} already ended as {causeName cause};" ++
    s!" it cannot also end as {causeName finish.terminalCause}.")

def finishRow (finish : ChatRunFinish) (row : RunRow) : RunRow :=
  { row with terminalCause := some finish.terminalCause, updatedAtUtc := finish.updatedAtUtc }

def finish (format : JournalFormat) (store : ChatJournalStore) (finish : ChatRunFinish) (now : Int) :
    Except Thrown (ChatRun × ChatJournalStore) := do
  throwWhen (!finish.accepts format.strings) .invalid
  let run ← store.requireRun format finish.operationId
  store.requireOwner run finish.ownerEpoch now
  match run.terminalCause with
  | some cause =>
    throwWhen (cause != finish.terminalCause) (alreadyEnded finish cause)
    return (run, store)
  | none =>
    let finished := store.updateRun finish.operationId (finishRow finish)
    let run ← finished.requireRun format finish.operationId
    return (run, finished)

def beyondCommitted (checkpoint : ChatProjectionCheckpoint) (run : ChatRun) : Thrown :=
  .error (s!"Chat run {checkpoint.operationId} cannot project sequence {checkpoint.projectedSequence}" ++
    s!" beyond its committed {run.latestSequence}.")

def projectRow (checkpoint : ChatProjectionCheckpoint) (row : RunRow) : RunRow :=
  { row with
    projectedSequence := checkpoint.projectedSequence
    projectedDigest := checkpoint.projectedDigest
    projectedHistoryRevision := checkpoint.projectedHistoryRevision }

def advanceProjection (format : JournalFormat) (store : ChatJournalStore) (checkpoint : ChatProjectionCheckpoint) :
    Except Thrown ChatJournalStore := do
  let run ← store.requireRun format checkpoint.operationId
  throwWhen (decide (run.latestSequence < checkpoint.projectedSequence)) (beyondCommitted checkpoint run)
  return store.updateRun checkpoint.operationId (projectRow checkpoint)

def reviseRow (checkpoint : ChatContextCheckpoint) (row : RunRow) : RunRow :=
  { row with contextRevision := checkpoint.contextRevision }

def advanceContextRevision (format : JournalFormat) (store : ChatJournalStore) (checkpoint : ChatContextCheckpoint) :
    Except Thrown ChatJournalStore := do
  let _ ← store.requireRun format checkpoint.operationId
  return store.updateRun checkpoint.operationId (reviseRow checkpoint)

/-! ### Recovery -/

def recoveryNotOwner : Thrown := .error "Chat recovery requires the current runtime owner lease."

/-- `assertRecoveryOwner` of `chat-run-recovery.ts`. -/
def assertRecoveryOwner (store : ChatJournalStore) (ownerEpoch : String) (now : Int) : Except Thrown Unit := do
  let row ← store.owner.require
  throwWhen (row.ownerEpoch != ownerEpoch || decide (row.leaseExpiresAt ≤ now)) recoveryNotOwner

def adoptRow (ownerEpoch : String) (row : RunRow) : RunRow := { row with ownerEpoch := ownerEpoch }

/-- `UPDATE chat_runs SET owner_epoch=? WHERE operation_id=? AND terminal_cause IS NULL`. -/
def adoptRun (store : ChatJournalStore) (operationId ownerEpoch : String) : ChatJournalStore :=
  { store with
    runs := updateWhere (fun row => isRun operationId row && row.terminalCause.isNone) (adoptRow ownerEpoch) store.runs }

/-- How a recovery begins to close a run that its owner left behind. -/
def adopt (store : ChatJournalStore) (operationId ownerEpoch : String) (now : Int) : Except Thrown ChatJournalStore := do
  store.assertRecoveryOwner ownerEpoch now
  return store.adoptRun operationId ownerEpoch

end ChatJournalStore

end SiftKit.Chat
