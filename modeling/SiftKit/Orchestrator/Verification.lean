import SiftKit.Orchestrator.Contracts

/-! # Verification

What an attempt, a review and a change of the workspace are judged by: `verification.ts`,
`drift-review.ts` and the path predicates of `workspace.ts`.  Whether cited code is where a
review says is asked of the checkout: `evidenceProblem` is `findEvidenceProblem` for the
repository as it is at the moment.
-/

namespace SiftKit.Orchestrator

/-! ## Changed paths -/

def ORCHESTRATOR_ARTIFACT_ROOT : String := ".siftkit/orchestrator/"

def PROSE_EXTENSIONS : List String := [".md", ".mdx", ".txt", ".rst", ".log"]

def startsWith (path start : String) : Bool := start.toList.isPrefixOf path.toList

/-- `path.toLowerCase().endsWith(extension)`: no other letter than `A` to `Z` lowers to one of an extension. -/
def endsWithIgnoringCase (path extension : String) : Bool :=
  extension.toList.isSuffixOf (path.toList.map Char.toLower)

/-- `allowed.replace(/\/$/u, '')`. -/
def withoutTrailingSlash (path : String) : String :=
  if path.toList.getLast? == some '/' then String.ofList path.toList.dropLast else path

structure WorkspaceChanges where
  /-- Paths whose content differs from the baseline, sorted. -/
  paths : List String
  /-- Digest of exactly these paths and contents; null when nothing changed. -/
  digest : Option String
  deriving DecidableEq, Repr

/-- Changed paths the task may not touch; run artifacts are always allowed. -/
def findScopeViolations (changedPaths writePaths : List String) : List String :=
  changedPaths.filter fun path => !startsWith path ORCHESTRATOR_ARTIFACT_ROOT &&
    !writePaths.any fun allowed =>
      allowed == "." || path == allowed || startsWith path (withoutTrailingSlash allowed ++ "/")

/-- Source, tests, scripts, and config changes need a drift review; prose and logs do not. -/
def changesNeedDriftReview (changedPaths : List String) : Bool :=
  changedPaths.any fun path => !startsWith path ORCHESTRATOR_ARTIFACT_ROOT &&
    !PROSE_EXTENSIONS.any fun extension => endsWithIgnoringCase path extension

/-! ## Attempts -/

structure OrchestratorReviewFinding where
  path : String
  line : Nat
  issue : String
  deriving DecidableEq, Repr

/-- A parent acceptance review of recorded evidence; a failure must anchor what is wrong. -/
inductive OrchestratorTaskReview where
  | pass (evidence : List OrchestratorCodeEvidence)
  | fail (findings : List OrchestratorReviewFinding)
  deriving DecidableEq, Repr

/-- A check recorded without running: an evidence check awaiting review, or a denied command. -/
def unexecutedCheck (check : OrchestratorVerificationCheck) (output : String) : OrchestratorCheckResult :=
  ⟨check, false, none, false, output⟩

def OrchestratorVerificationCheck.isEvidence : OrchestratorVerificationCheck → Bool
  | .evidence .. => true
  | .command _ => false

def workerStatusText : OrchestratorWorkerStatus → String
  | .completed => "completed"
  | .failed => "failed"
  | .aborted => "aborted"
  | .approval_timeout => "approval_timeout"

section Checkout

variable (evidenceProblem : OrchestratorCodeEvidence → Option String)

/-- Problems with a passing review's citations; a failing review cites findings, not evidence. -/
def findReviewEvidenceProblems : OrchestratorTaskReview → List String
  | .fail _ => []
  | .pass evidence => evidence.filterMap fun cited =>
      (evidenceProblem cited).map fun problem => s!"Review evidence: {problem}."

/--
The findings of an attempt, which passes when it has none: a completed worker, every command
check executed with its expected exit, no scope violations, and (when evidence checks exist)
a passing review with verified anchors.
-/
def evaluateAttempt (workerStatus : OrchestratorWorkerStatus) (checks : List OrchestratorCheckResult)
    (scopeViolations : List String) (review : Option OrchestratorTaskReview) : List String :=
  let worker := if workerStatus != .completed then [s!"The worker ended {workerStatusText workerStatus}."] else []
  let failures := checks.filterMap orchestratorCheckFailure
  let violations := scopeViolations.map fun path => s!"Changed {path}, which is outside the task's write scope."
  let needsReview := checks.any fun result => result.check.isEvidence
  let unreviewed := if needsReview && review.isNone then ["Evidence checks were not reviewed."] else []
  let rejected := match review with
    | some (.fail findings) => findings.map fun finding => s!"{finding.path}:{finding.line} {finding.issue}"
    | _ => []
  let citations := match review with
    | some answer => findReviewEvidenceProblems evidenceProblem answer
    | none => []
  worker ++ failures ++ violations ++ unreviewed ++ rejected ++ citations

/-! ## Drift reviews -/

def OrchestratorDriftReview.findings (review : OrchestratorDriftReview) : List OrchestratorDriftFinding :=
  match review.verdict with
  | .actionable findings => findings
  | _ => []

def OrchestratorDriftReview.isActionable (review : OrchestratorDriftReview) : Bool :=
  match review.verdict with
  | .actionable _ => true
  | _ => false

/-- The loop of `validateDriftReview` over the findings; `reported` are the ids before. -/
def findingProblems (changedPaths : List String) (reported : List String) :
    List OrchestratorDriftFinding → List String
  | [] => []
  | finding :: rest =>
    let twice := if reported.contains finding.id then [s!"Finding {finding.id} is reported twice."] else []
    let anchors := finding.evidence.filterMap fun evidence =>
      (evidenceProblem evidence).map fun problem => s!"Finding {finding.id}: {problem}."
    let unrelated := if finding.evidence.any fun evidence => changedPaths.contains evidence.path then []
      else [s!"Finding {finding.id} cites no code this step changed."]
    twice ++ anchors ++ unrelated ++ findingProblems changedPaths (finding.id :: reported) rest

/-- Prior findings that a review neither resolves nor reports again. -/
def unaccounted (review : OrchestratorDriftReview) (openFindings : List OrchestratorDriftFinding) :
    List OrchestratorDriftFinding :=
  let resolved := review.resolutions.map OrchestratorResolution.findingId
  let reported := review.findings.map OrchestratorDriftFinding.id
  openFindings.filter fun finding => !resolved.contains finding.id && !reported.contains finding.id

/-- Its checks of what a review is about. -/
def subjectProblems (review : OrchestratorDriftReview) (taskId changeDigest : String) : List String :=
  let step := s!"The review names step '{review.taskId}', not '{taskId}'."
  (if review.taskId != taskId then [step] else []) ++
    (if review.changeDigest != changeDigest then
      ["The review is for a different change digest than the current code."] else [])

/--
Problems that make a drift report unusable: wrong step or digest, host-only statuses, unanchored
or stale evidence, findings not attributable to this step, and unaccounted prior findings.
-/
def validateDriftReview (review : OrchestratorDriftReview) (taskId changeDigest : String)
    (changedPaths : List String) (openFindings : List OrchestratorDriftFinding) : List String :=
  match review.verdict with
  | .not_required =>
    subjectProblems review taskId changeDigest ++ ["Only the host may decide a review is not required."]
  | _ =>
    subjectProblems review taskId changeDigest ++ findingProblems evidenceProblem changedPaths [] review.findings ++
      (unaccounted review openFindings).map fun finding =>
        s!"Prior finding {finding.id} is neither resolved nor reported again."

end Checkout

/-- `dedupeChecks`: the first of equal checks stays. -/
def dedupeChecks (checks : List OrchestratorVerificationCheck) : List OrchestratorVerificationCheck :=
  checks.foldl (fun seen check => if seen.contains check then seen else seen ++ [check]) []

/-- `[...new Set(texts)]`. -/
def distinctTexts (texts : List String) : List String :=
  texts.foldl (fun seen text => if seen.contains text then seen else seen ++ [text]) []

/-- The canonical bullet-correction payload: every confirmed finding, bounded paths, and the union of checks. -/
def buildDriftCorrectionWork (task : OrchestratorTask) (changeDigest : String)
    (findings : List OrchestratorDriftFinding) : OrchestratorDriftCorrectionWork :=
  let acceptance := String.intercalate " " task.acceptance
  { taskId := task.id
    objective := s!"{task.title}. Acceptance: {acceptance}"
    changeDigest := changeDigest
    findings := findings
    allowedPaths := distinctTexts (task.writePaths ++ findings.flatMap OrchestratorDriftFinding.affectedPaths)
    verification := dedupeChecks (task.verification ++ findings.flatMap OrchestratorDriftFinding.verification) }

/-! ## What an accepted review says -/

/-- Every prior finding is resolved or reported again. -/
def OrchestratorDriftReview.Accounts (review : OrchestratorDriftReview)
    (findings : List OrchestratorDriftFinding) : Prop :=
  ∀ finding ∈ findings, finding.id ∈ review.resolutions.map OrchestratorResolution.findingId ∨
    finding.id ∈ review.findings.map OrchestratorDriftFinding.id

variable {review : OrchestratorDriftReview} {openFindings : List OrchestratorDriftFinding}

theorem unaccounted_eq_nil :
    unaccounted review openFindings = [] ↔ review.Accounts openFindings := by
  simp only [unaccounted, List.filter_eq_nil_iff, OrchestratorDriftReview.Accounts]
  constructor
  · intro accounted finding member
    have notBoth := accounted finding member
    simp only [Bool.and_eq_true, Bool.not_eq_true', List.contains_eq_mem, decide_eq_false_iff_not] at notBoth
    by_cases resolved : finding.id ∈ review.resolutions.map OrchestratorResolution.findingId
    · exact .inl resolved
    · exact .inr (Decidable.not_not.mp fun unreported => notBoth ⟨resolved, unreported⟩)
  · intro accounts finding member
    cases accounts finding member with
    | inl resolved => simp [resolved]
    | inr reported => simp [reported]

theorem subjectProblems_eq_nil {taskId changeDigest : String} :
    subjectProblems review taskId changeDigest = [] ↔
      review.taskId = taskId ∧ review.changeDigest = changeDigest := by
  simp only [subjectProblems, List.append_eq_nil_iff]
  have conditional : ∀ {condition : Bool} {text : String},
      (if condition then [text] else []) = [] ↔ condition = false := by
    intro condition text
    cases condition <;> simp
  rw [conditional, conditional]
  simp

/-- A usable review is a reviewer's own, of this step and this digest, and accounts for the open findings. -/
theorem validateDriftReview_nil {evidenceProblem : OrchestratorCodeEvidence → Option String}
    {taskId changeDigest : String} {changedPaths : List String}
    (usable : validateDriftReview evidenceProblem review taskId changeDigest changedPaths openFindings = []) :
    review.taskId = taskId ∧ review.changeDigest = changeDigest ∧ review.verdict ≠ .not_required ∧
      review.Accounts openFindings := by
  unfold validateDriftReview at usable
  split at usable
  · have impossible := (List.append_eq_nil_iff.mp usable).2
    cases impossible
  next notHost =>
    rw [List.append_assoc, List.append_eq_nil_iff, List.append_eq_nil_iff] at usable
    obtain ⟨subject, _, accounted⟩ := usable
    obtain ⟨step, digest⟩ := subjectProblems_eq_nil.mp subject
    exact ⟨step, digest, notHost, unaccounted_eq_nil.mp (List.map_eq_nil_iff.mp accounted)⟩

end SiftKit.Orchestrator
