import SiftKit.Chat.ContextReplayEffects

/-! # Closing the context of an orphaned run

The context that `closeOrphanedChatRun` of `status-server/chat-run-recovery.ts` writes for a run that its
owner left behind, out of a scan of the journal and of its own replay of it.
-/

namespace SiftKit.Chat

open SiftKit.Json SiftKit.Failure SiftKit.OrderedMap ChatContextReplay

/-! ## The scan -/

structure OrphanScan where
  stopped : Bool
  initialized : Bool
  sawTool : Bool
  started : Option RunSubmission
  unresolvedApprovalIds : List JsString
  unresolvedQuestionIds : List JsString
  delivered : List QueuedMessage

namespace OrphanScan

def empty : OrphanScan := ⟨false, false, false, none, [], [], []⟩

def read (scan : OrphanScan) : ChatJournalEvent → OrphanScan
  | .stop_requested => { scan with stopped := true }
  | .context_initialized _ => { scan with initialized := true }
  | .run_started submission => { scan with started := some submission }
  | .queue_delivered message => { scan with delivered := scan.delivered ++ [message] }
  | .approval_requested approvalId => { scan with unresolvedApprovalIds := scan.unresolvedApprovalIds ++ [approvalId] }
  | .approval_resolved approvalId => { scan with unresolvedApprovalIds := scan.unresolvedApprovalIds.filter fun id => id != approvalId }
  | .question_requested questionId => { scan with unresolvedQuestionIds := scan.unresolvedQuestionIds ++ [questionId] }
  | .question_resolved questionId => { scan with unresolvedQuestionIds := scan.unresolvedQuestionIds.filter fun id => id != questionId }
  | .tool_proposed .. | .tool_started _ | .tool_result .. | .tool_result_finalized .. => { scan with sawTool := true }
  | _ => scan

end OrphanScan

/-- `scanOrphan(store, operationId)`. -/
def scanOrphan (events : List ChatJournalEvent) : OrphanScan := events.foldl OrphanScan.read .empty

/-! ## The closure -/

/-- What a closure finds in the session of its run, and what becomes of its writes. -/
structure ClosingSession where
  /-- The history before the run; none when its recovery failed. -/
  prior : Option (List ChatMessage)
  revisions : List ChatHistoryRevision
  /-- What other runs, and other events of this one, admit for a display owner. -/
  otherImages : JsString → List (List JsString)
  sha256 : JsString → JsString
  commit : ChatJournalEvent → Except Thrown Unit

namespace ClosingSession

variable (session : ClosingSession)

/-- The images that an event admits for a display owner. -/
def admittedImages (messageId : JsString) : ChatJournalEvent → Option (List JsString)
  | .run_started submission => if submission.userMessageId = messageId then some submission.images else none
  | .queue_delivered message => if message.id = messageId then some message.images else none
  | _ => none

/-- The evidence of images that the session holds. -/
def images (events : List ChatJournalEvent) : ImageEvidence where
  revisions := session.revisions
  ownerImages := fun messageId => events.filterMap (admittedImages messageId) ++ session.otherImages messageId
  sha256 := session.sha256

def isFinish : ChatJournalEvent → Bool
  | .run_finished => true
  | _ => false

def isTerminal : Thrown := .error "Chat run is terminal; new evidence is forbidden."

/-- A terminal run takes no further event. -/
def append (events : List ChatJournalEvent) (event : ChatJournalEvent) : Except Thrown (List ChatJournalEvent) := do
  throwWhen (events.any isFinish) isTerminal
  session.commit event
  return events ++ [event]

def incomplete : Thrown := .error "Orphaned run has incomplete context evidence; continuation requires repair."

def corrupt : Thrown := .error "Orphaned run has corrupt context evidence."

/-- The messages of a run that never had a context: the history before it, its submission, and what was delivered to it. -/
def submittedContext (prior : List ChatMessage) (submission : RunSubmission) (delivered : List QueuedMessage) : List ChatMessage :=
  prior ++ submission.message :: (delivered.filter fun message => message.id != submission.userMessageId).map QueuedMessage.message

/-- Writes the first context of a run that died before it had one. -/
def initializeOrphan (scan : OrphanScan) (events : List ChatJournalEvent) : Except Thrown (List ChatJournalEvent) :=
  match session.prior, scan.started with
  | some prior, some submission =>
    if scan.sawTool then .error incomplete
    else do
      let messages ← sanitizeChatContextImages (session.images events) (submittedContext prior submission scan.delivered)
      session.append events (.context_initialized ⟨some (scan.delivered.map QueuedMessage.id), messages, 0, prior.length⟩)
  | _, _ => .error incomplete

def startContext (scan : OrphanScan) (events : List ChatJournalEvent) : Except Thrown (List ChatJournalEvent) :=
  if scan.initialized then .ok events else session.initializeOrphan scan events

def closingSplice (scan : OrphanScan) (replay : ChatContextReplay) (recovered : ChatRecoveredContext) (inserted : List ChatMessage) :
    ChatContextSplice where
  compressedMessageIds := none
  queueMessageIds := some (scan.delivered.map QueuedMessage.id)
  expectedRevision := recovered.contextRevision
  contextRevision := recovered.contextRevision + 1
  startIndex := replay.rawContextLength
  deleteCount := 0
  inserted := inserted
  turnBoundary := recovered.turnBoundary
  reason := .interruption_closed
  coalescedToolCallIds := []

/-- Writes what the replay adds to the recorded context. -/
def closeContext (scan : OrphanScan) (replay : ChatContextReplay) (events : List ChatJournalEvent) : Except Thrown (List ChatJournalEvent) := do
  let recovered ← replay.finish
  throwWhen (recovered.status == .recovery_failed) corrupt
  if replay.rawContextLength < recovered.messages.length then
    let inserted ← sanitizeChatContextImages (session.images events) (recovered.messages.drop replay.rawContextLength)
    session.append events (.context_spliced (closingSplice scan replay recovered inserted))
  else return events

/-- The run is finished, unless it is already. -/
def finishRun (events : List ChatJournalEvent) : Except Thrown (List ChatJournalEvent) :=
  if events.any isFinish then .ok events else session.append events .run_finished

/-- The answers that nobody will give any more. -/
def resolutions (scan : OrphanScan) : List ChatJournalEvent :=
  scan.unresolvedApprovalIds.map ChatJournalEvent.approval_resolved ++ scan.unresolvedQuestionIds.map ChatJournalEvent.question_resolved

/-- `closeOrphanedChatRun`, on the events of the run: the journal that its transaction leaves. -/
def closeOrphanedRun (operationId : JsString) (eventIds : Nat → JsString) (events : List ChatJournalEvent) :
    Except Thrown (List ChatJournalEvent) := do
  let scan := scanOrphan events
  let resolved ← (resolutions scan).foldlM session.append events
  let started ← session.startContext scan resolved
  let closed ← session.closeContext scan (replayed (journalOf operationId eventIds started)) started
  session.finishRun closed

/-- The journal after a closure, which is rolled back when it throws. -/
def closedJournal (operationId : JsString) (eventIds : Nat → JsString) (events : List ChatJournalEvent) : List ChatJournalEvent :=
  (session.closeOrphanedRun operationId eventIds events).toOption.getD events

end ClosingSession

end SiftKit.Chat
