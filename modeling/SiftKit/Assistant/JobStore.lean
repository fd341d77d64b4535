import Mathlib.Data.Rat.Defs
import SiftKit.Foundation.Tables

/-! # The assistant's job store

`JobStore` of `assistant/storage/job-store.ts` over the table `assistant_jobs`.  Every call reads the
clock once, in milliseconds: the ISO instants of the columns are compared as the instants they write.
No call opens a transaction, so what a call wrote before it threw stays written.
-/

namespace SiftKit.Assistant

open SiftKit.Tables

/-! ## Rows -/

inductive JobStatus where
  | queued
  | running
  | paused
  | completed
  | failed
  | cancelled
  | deadLetter
  deriving DecidableEq, Repr

/-- `LIVE_JOB_STATUSES`: these hold the idempotency slot. -/
def JobStatus.isLive : JobStatus → Bool
  | .queued | .running | .paused => true
  | .completed | .failed | .cancelled | .deadLetter => false

/-- `ASSISTANT_JOB_TYPES`. -/
inductive AssistantJobType where
  | conversationIngestion
  | candidateConsolidation
  | projectionMaintenance
  | questionAnswerIngestion
  | questionPlanning
  | projectionSummarization
  | imageExtraction
  | captureRetention
  deriving DecidableEq, Repr

/-- `MODEL_BACKED_JOB_TYPES.includes`. -/
def isModelBackedJobType : AssistantJobType → Bool
  | .conversationIngestion | .candidateConsolidation | .questionAnswerIngestion
  | .questionPlanning | .projectionSummarization | .imageExtraction => true
  | .projectionMaintenance | .captureRetention => false

/-- A row of `assistant_jobs`, less the payload, which the store never reads. -/
structure JobRow where
  id : String
  ownerId : String
  jobType : AssistantJobType
  priority : Int
  idempotencyKey : String
  status : JobStatus
  attempts : Nat
  maxAttempts : Nat
  availableAtUtc : Int
  leaseOwner : Option String
  leaseExpiresAtUtc : Option Int
  lastError : Option String
  createdAtUtc : Int
  updatedAtUtc : Int
  deriving DecidableEq, Repr

abbrev JobTable := List JobRow

def RETRY_BACKOFF_SECONDS : Nat := 30

def DEFAULT_MAX_ATTEMPTS : Nat := 3

inductive JobFailure where
  /-- `Assistant job priority must be an integer; received …`. -/
  | priorityNotInteger (priority : Rat)
  /-- `Unknown assistant job: …`. -/
  | unknownJob (jobId : String)
  | primaryKey
  /-- `assistant_jobs_pending_idempotency_uq`. -/
  | pendingIdempotency
  deriving DecidableEq

/-! ## Constraints -/

/-- The rows that the partial index covers, by the columns it covers. -/
def pendingKeys (table : JobTable) : List (String × String) :=
  (table.filter fun row => row.status.isLive).map fun row => (row.ownerId, row.idempotencyKey)

/-- `UNIQUE (owner_id, idempotency_key) WHERE status IN ('queued', 'running', 'paused')`. -/
def PendingDistinct (table : JobTable) : Prop := (pendingKeys table).Nodup

instance (table : JobTable) : Decidable (PendingDistinct table) :=
  inferInstanceAs (Decidable (pendingKeys table).Nodup)

/-- A statement that would break the index changes nothing. -/
def write (table written : JobTable) : Except JobFailure Unit × JobTable :=
  if PendingDistinct written then (.ok (), written) else (.error .pendingIdempotency, table)

def insertJob (row : JobRow) (table : JobTable) : Except JobFailure Unit × JobTable :=
  if table.any fun stored => stored.id == row.id then (.error .primaryKey, table)
  else write table (table ++ [row])

/-- `UPDATE … WHERE id = ?`. -/
def updateJob (jobId : String) (rewrite : JobRow → JobRow) (table : JobTable) : Except JobFailure Unit × JobTable :=
  write table (updateWhere (fun row => row.id == jobId) rewrite table)

/-! ## Reads -/

def getJob (table : JobTable) (jobId : String) : Option JobRow := table.find? fun row => row.id == jobId

def requireJob (table : JobTable) (jobId : String) : Except JobFailure JobRow :=
  match getJob table jobId with
  | some row => .ok row
  | none => .error (.unknownJob jobId)

def findLiveByIdempotencyKey (table : JobTable) (ownerId idempotencyKey : String) : Option JobRow :=
  table.find? fun row => row.ownerId == ownerId && row.idempotencyKey == idempotencyKey && row.status.isLive

/-- What a call answers after its statement: the row, or what the statement threw. -/
def answerJob (jobId : String) : Except JobFailure Unit × JobTable → Except JobFailure JobRow × JobTable
  | (.ok (), table) => (requireJob table jobId, table)
  | (.error failure, table) => (.error failure, table)

/-! ## Enqueue -/

structure EnqueueJobInput where
  ownerId : String
  jobType : AssistantJobType
  idempotencyKey : String
  deriving DecidableEq

/-- The row that an enqueue inserts. -/
def EnqueueJobInput.row (input : EnqueueJobInput) (id : String) (priority : Int) (nowUtc : Int) : JobRow where
  id := id
  ownerId := input.ownerId
  jobType := input.jobType
  priority := priority
  idempotencyKey := input.idempotencyKey
  status := .queued
  attempts := 0
  maxAttempts := DEFAULT_MAX_ATTEMPTS
  availableAtUtc := nowUtc
  leaseOwner := none
  leaseExpiresAtUtc := none
  lastError := none
  createdAtUtc := nowUtc
  updatedAtUtc := nowUtc

/-- `enqueue`, given the id that the generator draws; none when an equivalent job is live. -/
def enqueue (input : EnqueueJobInput) (priority : Rat) (id : String) (nowUtc : Int) (table : JobTable) :
    Except JobFailure (Option JobRow) × JobTable :=
  if !priority.isInt then (.error (.priorityNotInteger priority), table)
  else if (findLiveByIdempotencyKey table input.ownerId input.idempotencyKey).isSome then (.ok none, table)
  else
    let inserted := answerJob id (insertJob (input.row id priority.num nowUtc) table)
    (inserted.1.map some, inserted.2)

/-- `WHERE owner_id = ? AND job_type = ? AND status = 'queued'`. -/
def isSuperseded (input : EnqueueJobInput) (row : JobRow) : Bool :=
  row.ownerId == input.ownerId && row.jobType == input.jobType && row.status == .queued

/-- `SET status = 'cancelled'`. -/
def superseded (nowUtc : Int) (row : JobRow) : JobRow := { row with status := .cancelled, updatedAtUtc := nowUtc }

def enqueueSuperseding (input : EnqueueJobInput) (priority : Rat) (id : String) (nowUtc : Int) (table : JobTable) :
    Except JobFailure (Option JobRow) × JobTable :=
  match write table (updateWhere (isSuperseded input) (superseded nowUtc) table) with
  | (.ok (), cancelled) => enqueue input priority id nowUtc cancelled
  | (.error failure, kept) => (.error failure, kept)

/-! ## Claim -/

structure ClaimJobInput where
  ownerId : String
  leaseOwner : String
  leaseSeconds : Nat
  modelWorkAllowed : Bool
  deriving DecidableEq

/-- `status = 'queued' AND available_at_utc <= ?`, with the model-backed types kept back. -/
def isClaimable (input : ClaimJobInput) (nowUtc : Int) (row : JobRow) : Bool :=
  row.ownerId == input.ownerId && row.status == .queued && decide (row.availableAtUtc ≤ nowUtc) &&
    (input.modelWorkAllowed || !isModelBackedJobType row.jobType)

/-- `ORDER BY priority DESC, available_at_utc ASC, created_at_utc ASC, id ASC`. -/
def isClaimedBefore (left right : JobRow) : Bool :=
  if left.priority ≠ right.priority then decide (right.priority < left.priority)
  else if left.availableAtUtc ≠ right.availableAtUtc then decide (left.availableAtUtc < right.availableAtUtc)
  else if left.createdAtUtc ≠ right.createdAtUtc then decide (left.createdAtUtc < right.createdAtUtc)
  else decide (left.id < right.id)

/-- The row that `SELECT … LIMIT 1` gives. -/
def claimCandidate (input : ClaimJobInput) (nowUtc : Int) (table : JobTable) : Option JobRow :=
  firstBy isClaimedBefore (table.filter (isClaimable input nowUtc))

/-- `SET status = 'running', attempts = attempts + 1, …`. -/
def claimed (input : ClaimJobInput) (nowUtc : Int) (row : JobRow) : JobRow :=
  { row with
    status := .running, attempts := row.attempts + 1, leaseOwner := some input.leaseOwner,
    leaseExpiresAtUtc := some (nowUtc + input.leaseSeconds * 1000), updatedAtUtc := nowUtc }

/-- `WHERE id = ? AND status = 'queued'`. -/
def isQueuedJob (jobId : String) (row : JobRow) : Bool := row.id == jobId && row.status == .queued

def claimNext (input : ClaimJobInput) (nowUtc : Int) (table : JobTable) :
    Except JobFailure (Option JobRow) × JobTable :=
  match claimCandidate input nowUtc table with
  | none => (.ok none, table)
  | some candidate =>
    match write table (updateWhere (isQueuedJob candidate.id) (claimed input nowUtc) table) with
    | (.ok (), updated) =>
      if table.countP (isQueuedJob candidate.id) = 1 then ((requireJob updated candidate.id).map some, updated)
      else (.ok none, updated)
    | (.error failure, kept) => (.error failure, kept)

/-! ## Settle -/

/-- `setTerminal`. -/
def terminal (status : JobStatus) (errorMessage : Option String) (nowUtc : Int) (row : JobRow) : JobRow :=
  { row with
    status := status, leaseOwner := none, leaseExpiresAtUtc := none, lastError := errorMessage,
    updatedAtUtc := nowUtc }

def setTerminal (jobId : String) (status : JobStatus) (errorMessage : Option String) (nowUtc : Int)
    (table : JobTable) : Except JobFailure JobRow × JobTable :=
  answerJob jobId (updateJob jobId (terminal status errorMessage nowUtc) table)

def complete (jobId : String) (nowUtc : Int) (table : JobTable) : Except JobFailure JobRow × JobTable :=
  setTerminal jobId .completed none nowUtc table

def cancel (jobId : String) (nowUtc : Int) (table : JobTable) : Except JobFailure JobRow × JobTable :=
  setTerminal jobId .cancelled none nowUtc table

/-- Back into the queue, available later the more attempts were consumed. -/
def requeuedWithBackoff (errorMessage : String) (attempts : Nat) (nowUtc : Int) (row : JobRow) : JobRow :=
  { row with
    status := .queued, leaseOwner := none, leaseExpiresAtUtc := none,
    availableAtUtc := nowUtc + attempts * RETRY_BACKOFF_SECONDS * 1000, lastError := some errorMessage,
    updatedAtUtc := nowUtc }

def fail (jobId errorMessage : String) (nowUtc : Int) (table : JobTable) : Except JobFailure JobRow × JobTable :=
  match requireJob table jobId with
  | .error failure => (.error failure, table)
  | .ok job =>
    if job.maxAttempts ≤ job.attempts then setTerminal jobId .deadLetter (some errorMessage) nowUtc table
    else answerJob jobId (updateJob jobId (requeuedWithBackoff errorMessage job.attempts nowUtc) table)

/-- `attempts = MAX(attempts - 1, 0)`: the attempt that the claim consumed is given back. -/
def preempted (nowUtc : Int) (row : JobRow) : JobRow :=
  { row with
    status := .queued, attempts := row.attempts - 1, leaseOwner := none, leaseExpiresAtUtc := none,
    availableAtUtc := nowUtc, updatedAtUtc := nowUtc }

def requeuePreempted (jobId : String) (nowUtc : Int) (table : JobTable) : Except JobFailure JobRow × JobTable :=
  answerJob jobId (updateJob jobId (preempted nowUtc) table)

/-! ## Lease recovery -/

/-- `owner_id = ? AND status = 'running' AND lease_expires_at_utc < ?`. -/
def isLeaseExpired (ownerId : String) (nowUtc : Int) (row : JobRow) : Bool :=
  row.ownerId == ownerId && row.status == .running && row.leaseExpiresAtUtc.any fun expires => decide (expires < nowUtc)

/-- `SET status = 'queued', lease_owner = NULL, …`: the attempts stay. -/
def recovered (nowUtc : Int) (row : JobRow) : JobRow :=
  { row with
    status := .queued, leaseOwner := none, leaseExpiresAtUtc := none, availableAtUtc := nowUtc,
    updatedAtUtc := nowUtc }

/-- How many jobs were returned to the queue. -/
def recoverExpiredLeases (ownerId : String) (nowUtc : Int) (table : JobTable) : Except JobFailure Nat × JobTable :=
  match write table (updateWhere (isLeaseExpired ownerId nowUtc) (recovered nowUtc) table) with
  | (.ok (), updated) => (.ok (table.countP (isLeaseExpired ownerId nowUtc)), updated)
  | (.error failure, kept) => (.error failure, kept)

end SiftKit.Assistant
