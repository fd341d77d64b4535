import SiftKit.Chat.PlannerContext

/-! # The ledger of tool calls

What a journal says of its tool calls, told without the bookkeeping of a replay: every proposal with
the evidence recorded for it, and whether history has come to hold the call.  A context event adds a
declaration of an id to the current turn when it inserts more declarations of the id than it takes out,
and the calls that it writes into history are the newest of the id that history does not hold yet.
-/

namespace SiftKit.Chat

open SiftKit.Json

/-- A proposed call and what is on record of it. -/
structure LedgerCall where
  identity : ChatToolCallIdentity
  toolName : JsString
  arguments : JsValue
  started : Bool
  result : Option JsString
  finalized : Option JsString
  /-- History holds the call. -/
  written : Bool

namespace LedgerCall

/-- The id that history answers the call by. -/
def id (call : LedgerCall) : JsString := call.identity.toolCallId

/-- The id of the display row of the call, which no other call has. -/
def display (call : LedgerCall) : JsString := call.identity.displayToolCallId

/-- What is said of a call without a result. -/
def interruptionText (call : LedgerCall) : JsString :=
  utf16 "[interrupted] " ++ call.toolName ++
    if call.started then
      utf16 (" started but the server stopped before its result was recorded." ++
        " Outcome uncertain: verify the repository state before retrying.")
    else utf16 " was never started. No work was performed; it is safe to retry."

/-- The evidence of the call: the finalized text, else the result, else the interruption text. -/
def text (call : LedgerCall) : JsString := (call.finalized.or call.result).getD call.interruptionText

def answer (operationId : JsString) (call : LedgerCall) : ChatMessage :=
  { ChatMessage.plain .tool (.text call.text) with
    toolCallId := some call.id
    chatMessageId := some (buildChatMessageId (buildChatRunMessageIdPrefix operationId) (.tool call.display)) }

/-- The message answers the call, whatever it says. -/
def IsAnswer (operationId : JsString) (call : LedgerCall) (message : ChatMessage) : Bool :=
  message.role == .tool &&
    message.chatMessageId == some (buildChatMessageId (buildChatRunMessageIdPrefix operationId) (.tool call.display))

end LedgerCall

def callIds (messages : List ChatMessage) : List JsString := messages.flatMap fun message => message.declared.map PlannerToolCall.id

/-- A context event, as far as calls are concerned: what it inserts, the part of that in the current turn, and what it takes out. -/
structure ContextEdit where
  inserted : List ChatMessage
  current : List ChatMessage
  deleted : List ChatMessage

/-- How many declarations of an id the edit adds to the current turn. -/
def ContextEdit.added (edit : ContextEdit) (id : JsString) : Nat :=
  min ((callIds edit.current).count id) ((callIds edit.inserted).count id - (callIds edit.deleted).count id)

structure Ledger where
  messages : List ChatMessage
  calls : List LedgerCall

namespace Ledger

def empty : Ledger := ⟨[], []⟩

/-- How many calls of an id history does not hold. -/
def openCount (id : JsString) (calls : List LedgerCall) : Nat := calls.countP fun call => !call.written && call.id == id

/-- The newest open calls of each id are written, as many as declarations were added. -/
def write (added : JsString → Nat) : List LedgerCall → List LedgerCall
  | [] => []
  | call :: later => { call with written := call.written || openCount call.id later < added call.id } :: write added later

/-- Calls named by their display ids are written. -/
def coalesce (ids : List JsString) (calls : List LedgerCall) : List LedgerCall :=
  calls.map fun call => { call with written := call.written || ids.contains call.display }

/-- More evidence of one call. -/
def record (identity : ChatToolCallIdentity) (change : LedgerCall → LedgerCall) (ledger : Ledger) : Ledger :=
  { ledger with calls := ledger.calls.map fun call => if call.display = identity.displayToolCallId then change call else call }

def initEdit (init : ChatContextInit) : ContextEdit := ⟨init.messages, init.messages.drop init.turnBoundary, []⟩

def spliceEdit (splice : ChatContextSplice) (messages : List ChatMessage) : ContextEdit :=
  ⟨splice.inserted, splice.inserted.drop (splice.turnBoundary - splice.startIndex),
    (messages.drop splice.startIndex).take splice.deleteCount⟩

def step (ledger : Ledger) : ChatJournalEvent → Ledger
  | .context_initialized init => ⟨init.messages, write (initEdit init).added ledger.calls⟩
  | .context_spliced splice =>
    ⟨spliceList ledger.messages splice.startIndex splice.deleteCount splice.inserted,
      coalesce splice.coalescedToolCallIds (write (spliceEdit splice ledger.messages).added ledger.calls)⟩
  | .tool_proposed identity toolName arguments =>
    { ledger with calls := ledger.calls ++ [⟨identity, toolName, arguments, false, none, none, false⟩] }
  | .tool_started identity => ledger.record identity fun call => { call with started := true }
  | .tool_result identity _ output => ledger.record identity fun call => { call with result := some output }
  | .tool_result_finalized identity text => ledger.record identity fun call => { call with finalized := some text }
  | _ => ledger

def ofJournal (envelopes : List ContextEnvelope) : Ledger := (envelopes.map ContextEnvelope.event).foldl step empty

/-! ## Reused ids -/

/-- Whenever the edit declares the id of an open call, it adds a declaration for the call exactly if the call is the latest
proposal of its id. -/
def AddsLatest (edit : ContextEdit) : List LedgerCall → Prop
  | [] => True
  | call :: later =>
    (call.written = false → call.id ∈ callIds edit.current →
      (openCount call.id later < edit.added call.id ↔ call.id ∉ later.map LedgerCall.id)) ∧ AddsLatest edit later

instance (edit : ContextEdit) : ∀ calls, Decidable (AddsLatest edit calls)
  | [] => inferInstanceAs (Decidable True)
  | _ :: later =>
    have : Decidable (AddsLatest edit later) := instDecidableAddsLatest edit later
    inferInstanceAs (Decidable (_ ∧ _))

def Unambiguous (ledger : Ledger) : ChatJournalEvent → Prop
  | .context_initialized init => AddsLatest (initEdit init) ledger.calls
  | .context_spliced splice => AddsLatest (spliceEdit splice ledger.messages) ledger.calls
  | _ => True

instance (ledger : Ledger) : ∀ event, Decidable (ledger.Unambiguous event)
  | .context_initialized init => inferInstanceAs (Decidable (AddsLatest (initEdit init) ledger.calls))
  | .context_spliced splice => inferInstanceAs (Decidable (AddsLatest (spliceEdit splice ledger.messages) ledger.calls))
  | .run_started _ | .tool_proposed .. | .tool_started _ | .tool_result .. | .tool_result_finalized .. | .queue_delivered _
  | .stop_requested | .approval_requested _ | .approval_resolved _ | .question_requested _ | .question_resolved _ | .run_finished
  | .other => inferInstanceAs (Decidable True)

/-- No context event of a journal is ambiguous. -/
def AllUnambiguous (ledger : Ledger) : List ChatJournalEvent → Prop
  | [] => True
  | event :: later => ledger.Unambiguous event ∧ AllUnambiguous (ledger.step event) later

instance : ∀ events (ledger : Ledger), Decidable (ledger.AllUnambiguous events)
  | [], _ => inferInstanceAs (Decidable True)
  | event :: later, ledger =>
    have : Decidable (AllUnambiguous (ledger.step event) later) := instDecidableAllUnambiguous later (ledger.step event)
    inferInstanceAs (Decidable (_ ∧ _))

end Ledger

/-! ## Valid contexts -/

/-- Coherent messages: those of the context, then answers to the calls that history does not hold, then queued messages.  Every such
call is answered once, by its evidence, and no other call is answered again. -/
def ValidContext (ledger : Ledger) (messages : List ChatMessage) : Prop :=
  findPlannerContextViolation messages = none ∧ answeredIds messages = (declaredIds messages).map some ∧
    ∃ operationId closing queued, messages = ledger.messages ++ closing ++ queued ∧ (∀ message ∈ queued, message.role = .user) ∧
      ∀ call ∈ ledger.calls, closing.filter (call.IsAnswer operationId) = if call.written then [] else [call.answer operationId]

end SiftKit.Chat
