import SiftKit.Foundation.Runs
import SiftKit.Assistant.JobCalls

/-! # Runners draining one job store

`AssistantJobRunner.drain` of `assistant/jobs/job-runner.ts`.  A drain recovers the expired leases and
then claims jobs one after another, until a gate closes or nothing is claimable.  What a job does
while it executes is left open: it takes any time and ends in any way, and a runner may stop between
two calls of the store and never come back.  Enqueues and cancellations come from outside.
-/

namespace SiftKit.Assistant

open SiftKit.Runs

/-! ## Runners -/

/-- A claimed job in the hands of a runner, and whether its lease was recovered since the claim. -/
structure Execution where
  jobId : String
  recovered : Bool
  deriving DecidableEq

inductive RunnerState where
  | idle
  | draining
  | executing (execution : Execution)
  deriving DecidableEq

/-- The store and its runners, by their lease owner. -/
structure JobSystem where
  table : JobTable
  runners : String → RunnerState

def JobSystem.start : JobSystem := ⟨[], fun _ => .idle⟩

def JobSystem.setRunner (system : JobSystem) (runner : String) (state : RunnerState) : JobSystem :=
  { system with runners := Function.update system.runners runner state }

/-- How a drain reports a job that it executed. -/
inductive Settlement where
  /-- `execute` returned. -/
  | completed
  /-- It threw after a preemption, or the model went out of residence. -/
  | preempted
  /-- It threw for another reason. -/
  | failed (errorMessage : String)
  deriving DecidableEq

def Settlement.call (jobId : String) : Settlement → JobCall
  | .completed => .complete jobId
  | .preempted => .requeuePreempted jobId
  | .failed errorMessage => .fail jobId errorMessage

/-- A drain goes on after it completed or failed a job; it ends after a preemption, or when the store throws. -/
def Settlement.next {Answer : Type} (answer : Except JobFailure Answer) : Settlement → RunnerState
  | .preempted => .idle
  | .completed | .failed _ =>
    match answer with
    | .ok _ => .draining
    | .error _ => .idle

/-! ## Steps -/

inductive JobLabel where
  | enqueue (input : EnqueueJobInput) (priority : Rat) (id : String)
  | enqueueSuperseding (input : EnqueueJobInput) (priority : Rat) (id : String)
  | cancel (jobId : String)
  /-- A runner begins to drain: it recovers the expired leases. -/
  | drain (runner ownerId : String)
  | claim (runner ownerId : String) (leaseSeconds : Nat) (modelWorkAllowed : Bool)
  | settle (runner : String) (settlement : Settlement)
  /-- A gate closed, or the job limit is reached. -/
  | leave (runner : String)
  /-- The process ends, whatever it was doing. -/
  | stop (runner : String)
  deriving DecidableEq

/-- The execution of a job whose lease a recovery takes. -/
def RunnerState.afterRecovery (table : JobTable) (ownerId : String) (nowUtc : Int) : RunnerState → RunnerState
  | .executing execution =>
    if (getJob table execution.jobId).any (isLeaseExpired ownerId nowUtc) then .executing { execution with recovered := true }
    else .executing execution
  | state => state

/-- The call of the store that a step makes. -/
def JobSystem.call (system : JobSystem) : JobLabel → Option JobCall
  | .enqueue input priority id => some (.enqueue input priority id)
  | .enqueueSuperseding input priority id => some (.enqueueSuperseding input priority id)
  | .cancel jobId => some (.cancel jobId)
  | .drain runner ownerId => if system.runners runner = .idle then some (.recoverExpiredLeases ownerId) else none
  | .claim runner ownerId leaseSeconds modelWorkAllowed =>
    if system.runners runner = .draining then
      some (.claimNext ⟨ownerId, runner, leaseSeconds, modelWorkAllowed⟩)
    else none
  | .settle runner settlement =>
    match system.runners runner with
    | .executing execution => some (settlement.call execution.jobId)
    | _ => none
  | .leave _ | .stop _ => none

/-- What becomes of the runners, given what the call answered. -/
def JobSystem.runnersAfter (system : JobSystem) (nowUtc : Int) (answer : Except JobFailure JobAnswer) :
    JobLabel → String → RunnerState
  | .enqueue .. | .enqueueSuperseding .. | .cancel .. => system.runners
  | .drain runner ownerId =>
    Function.update (fun other => (system.runners other).afterRecovery system.table ownerId nowUtc) runner .draining
  | .claim runner .. =>
    Function.update system.runners runner
      (match answer with
      | .ok (.job (some row)) => .executing ⟨row.id, false⟩
      | _ => .idle)
  | .settle runner settlement => Function.update system.runners runner (settlement.next answer)
  | .leave runner | .stop runner => Function.update system.runners runner .idle

/-- A step that makes a call makes it at once; the others only move a runner. -/
def JobSystem.step (system : JobSystem) (made : JobLabel × Int) : Option JobSystem :=
  match system.call made.1 with
  | some call =>
    let performed := call.perform made.2 system.table
    some ⟨performed.2, system.runnersAfter made.2 performed.1 made.1⟩
  | none =>
    match made.1 with
    | .leave runner => if system.runners runner = .draining then some (system.setRunner runner .idle) else none
    | .stop runner => some (system.setRunner runner .idle)
    | _ => none

/-- What the call of a step threw. -/
def JobSystem.thrown (system : JobSystem) (made : JobLabel × Int) : Option JobFailure :=
  match system.call made.1 with
  | some call =>
    match (call.perform made.2 system.table).1 with
    | .error failure => some failure
    | .ok _ => none
  | none => none

end SiftKit.Assistant
