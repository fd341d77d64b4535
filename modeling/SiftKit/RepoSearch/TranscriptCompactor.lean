import SiftKit.Chat.PlannerMessages
import Mathlib.Data.Rat.Floor

/-! # The transcript compactor

`repo-search/engine/transcript-compactor.ts`: a transcript becomes its system message, a summary of the rest, and the
messages that a policy retains.  What a prompt counts and what the summarizer answers are given.
-/

namespace SiftKit.RepoSearch.Compaction

open SiftKit.Chat SiftKit.Failure SiftKit.Json
open SiftKit.Json.Schema (trim)

def COMPACTION_SUMMARY_MARKER : JsString := utf16 "[CONTEXT COMPACTED — SUMMARY OF PRIOR CONVERSATION]"

def COMPACTION_SUMMARY_ATTEMPTS : Nat := 2

def COMPACTION_SUMMARY_MIN_OUTPUT_TOKENS : Int := 512

def buildCompactionSummaryInstruction : JsString :=
  [0x0A].intercalate ([
    "You are compacting a long working conversation so the same model can resume it from the summary alone.",
    "The system instructions above remain active after compaction and must not be repeated in the summary.",
    "Only the completed conversation history above will be replaced by what you write.",
    "Write the summary as plain prose under these headings, in this order:",
    "1. Task and goal — what was asked, in the requester's terms.",
    "2. Current state — what is done, what is not.",
    "3. Key findings — concrete evidence, each with a file:line anchor where one exists.",
    "4. Decisions made — choices already settled, and why, so they are not relitigated.",
    "5. Tool results that still matter — reproduce exact error text, command output and identifiers verbatim.",
    "6. In-flight work — pending edits, the current hypothesis, and the next intended command.",
    "Rules:",
    "- Write for the model that must continue the work, not for a reader looking back.",
    "- Never invent a path, line number, symbol or result that is not in the conversation.",
    "- Prefer dropping commentary over dropping a concrete anchor or an exact error string.",
    "- Output the summary only. No preamble, no meta-commentary about summarizing."].map utf16)

/-! ## Retention -/

/-- A number that should be an index: an integer, or another number by its text. -/
inductive StartIndex where
  | integer (value : Int)
  | other (text : JsString)

inductive CompactionRetention where
  | current_chat_turn (startIndex : StartIndex)
  | latest_user
  | none

def StartIndex.text : StartIndex → JsString
  | .integer value => utf16 s!"{value}"
  | .other text => text

def isUser (message : ChatMessage) : Bool := message.role == .user

/-- The last index from `bodyStart` on that holds a user message. -/
def findLatestUserIndex (messages : List ChatMessage) (bodyStart : Nat) : Option Nat :=
  ((List.range' bodyStart (messages.length - bodyStart)).reverse).find? fun index => (messages[index]?).any isUser

structure RetentionPartition where
  completedMessages : List ChatMessage
  retainedMessages : List ChatMessage

def outsideBody (startIndex : StartIndex) (bodyStart messageCount : Nat) : JsString :=
  utf16 "invalid compaction retention boundary: startIndex " ++ startIndex.text ++
    utf16 s!" is outside the transcript body [{bodyStart}, {messageCount})"

def partitionCompactionRetention (messages : List ChatMessage) (bodyStart : Nat) :
    CompactionRetention → Except JsString RetentionPartition
  | .current_chat_turn (.other text) => .error (outsideBody (.other text) bodyStart messages.length)
  | .current_chat_turn (.integer startIndex) =>
    if startIndex < bodyStart ∨ messages.length ≤ startIndex then
      .error (outsideBody (.integer startIndex) bodyStart messages.length)
    else
      let retainedMessages := messages.drop startIndex.toNat
      if !retainedMessages.head?.any isUser then
        .error (utf16 "invalid compaction retention boundary: the retained chat turn must begin with a user message")
      else .ok { completedMessages := (messages.take startIndex.toNat).drop bodyStart, retainedMessages }
  | .latest_user =>
    match findLatestUserIndex messages bodyStart with
    | .none =>
      .error (utf16 "invalid compaction retention boundary: latest_user retention requires a user message to retain")
    | some latestUserIndex =>
      .ok { completedMessages := messages.drop bodyStart, retainedMessages := (messages[latestUserIndex]?).toList }
  | .none => .ok { completedMessages := messages.drop bodyStart, retainedMessages := [] }

/-! ## Tokens -/

structure GenerationTokens where
  totalTokens : Int
  reasoningTokens : Int
  outputTokens : Int

def splitCompactionGenerationTokens (totalTokens : Int) : GenerationTokens :=
  let normalizedTotal := max 0 totalTokens
  let outputTokens := normalizedTotal / 3
  { totalTokens := normalizedTotal, reasoningTokens := normalizedTotal - outputTokens, outputTokens }

/-- A caller outside the turn loop has no turn to name. -/
def formatTurn : Option Int → String
  | .none => "none"
  | some turn => toString turn

structure CompactorOptions where
  totalContextTokens : Int
  compactionReserveTokens : ℚ
  /-- What the rendered prompt of messages counts. -/
  countPlannerPromptTokens : List ChatMessage → Except JsString Int
  countTokensWithFallback : JsString → Int

/-- The budget of a generation after a prompt of a size. -/
def fitGenerationTokens (options : CompactorOptions) (promptTokenCount : Int) : GenerationTokens :=
  let generationTokenCeiling := max 0 ⌊options.compactionReserveTokens⌋
  let remainingTokens := options.totalContextTokens - promptTokenCount
  let requestedTokens := splitCompactionGenerationTokens generationTokenCeiling
  let outputTokens := min requestedTokens.outputTokens (max remainingTokens 0)
  let reasoningTokens := min requestedTokens.reasoningTokens (max (remainingTokens - outputTokens) 0)
  { totalTokens := reasoningTokens + outputTokens, reasoningTokens, outputTokens }

def resolveSummaryGenerationTokens (options : CompactorOptions) (turn : Option Int) (summaryRequestMessages : List ChatMessage) :
    Except JsString GenerationTokens := do
  let promptTokenCount ← options.countPlannerPromptTokens summaryRequestMessages
  let generationTokens := fitGenerationTokens options promptTokenCount
  if COMPACTION_SUMMARY_MIN_OUTPUT_TOKENS ≤ generationTokens.outputTokens then .ok generationTokens
  else
    .error (utf16 (s!"planner_compaction_prompt_overflow prompt_tokens={promptTokenCount} " ++
      s!"remaining_tokens={options.totalContextTokens - promptTokenCount} " ++
      s!"min_summary_output_tokens={COMPACTION_SUMMARY_MIN_OUTPUT_TOKENS} " ++
      s!"total_context_tokens={options.totalContextTokens} turn={formatTurn turn}"))

/-! ## The summary -/

structure SummaryRequest where
  messages : List ChatMessage
  instruction : JsString
  maxTokens : Int
  reasoningBudgetTokens : Int
  continuationMinTokens : Int
  mockResponseIndex : Int

structure SummaryResponse where
  text : JsString
  mockExhausted : Bool
  nextMockResponseIndex : Option Int
  /-- What recording the usage of the response throws, which only a turn does. -/
  recordingError : Option JsString
  elapsedMs : Int
  promptCacheTokens : Option Int
  promptEvalTokens : Option Int

/-- What one request comes to. -/
inductive SummaryAttempt where
  | threw (message : JsString)
  | answered (response : SummaryResponse)

structure SummaryResult where
  summaryText : JsString
  nextMockResponseIndex : Int
  elapsedMs : Int
  promptCacheTokens : Option Int
  promptEvalTokens : Option Int

/-- An attempt: the index of the next mock response, and the summary or the message of its error. -/
def readAttempt (turn : Option Int) (mockResponseIndex : Int) : SummaryAttempt → Int × Except JsString SummaryResult
  | .threw message => (mockResponseIndex, .error message)
  | .answered response =>
    let nextIndex := response.nextMockResponseIndex.getD mockResponseIndex
    match (if turn.isSome then response.recordingError else .none) with
    | some message => (nextIndex, .error message)
    | .none =>
      let summaryText := trim response.text
      if !response.mockExhausted && !summaryText.isEmpty then
        (nextIndex, .ok
          { summaryText
            nextMockResponseIndex := nextIndex
            elapsedMs := response.elapsedMs
            promptCacheTokens := response.promptCacheTokens
            promptEvalTokens := response.promptEvalTokens })
      else (nextIndex, .error (if response.mockExhausted then utf16 "mock_exhausted" else utf16 "empty_output"))

/-- What is observed of a compaction: its requests, the retries it logged, and how it ended. -/
structure Requested (Result : Type) where
  requests : List SummaryRequest
  retries : List (Nat × JsString)
  result : Except JsString Result

def summaryRounds (turn : Option Int) (request : Int → SummaryRequest) (summarizer : Nat → SummaryAttempt) :
    (remaining attempt : Nat) → (mockResponseIndex : Int) → (lastErrorMessage : JsString) → Requested SummaryResult
  | 0, _, _, lastErrorMessage =>
    { requests := []
      retries := []
      result := .error (utf16 s!"planner_compaction_failed attempts={COMPACTION_SUMMARY_ATTEMPTS} turn={formatTurn turn} last_error=" ++
        if lastErrorMessage.isEmpty then utf16 "unknown" else lastErrorMessage) }
  | remaining + 1, attempt, mockResponseIndex, _ =>
    match readAttempt turn mockResponseIndex (summarizer attempt) with
    | (_, .ok summary) => { requests := [request mockResponseIndex], retries := [], result := .ok summary }
    | (nextIndex, .error message) =>
      let later := summaryRounds turn request summarizer remaining (attempt + 1) nextIndex message
      { requests := request mockResponseIndex :: later.requests
        retries := (attempt, message) :: later.retries
        result := later.result }

def requestSummary (turn : Option Int) (mockResponseIndex : Int) (summarizer : Nat → SummaryAttempt)
    (historyMessages : List ChatMessage) (instruction : JsString) (generationTokens : GenerationTokens) :
    Requested SummaryResult :=
  summaryRounds turn
    (fun mockResponseIndex =>
      { messages := historyMessages
        instruction
        maxTokens := generationTokens.totalTokens
        reasoningBudgetTokens := generationTokens.reasoningTokens
        continuationMinTokens := generationTokens.outputTokens
        mockResponseIndex })
    summarizer COMPACTION_SUMMARY_ATTEMPTS 1 mockResponseIndex []

/-! ## Compaction -/

structure CompactionInput where
  turn : Option Int
  messages : List ChatMessage
  mockResponseIndex : Int
  retention : CompactionRetention

structure CompactionOutcome where
  messages : List ChatMessage
  summaryText : JsString
  droppedMessageCount : Int
  summaryTokenCount : Int
  summaryGenerationTokenBudget : Int
  summaryReasoningTokenBudget : Int
  summaryOutputTokenBudget : Int
  summarizerElapsedMs : Int
  nextMockResponseIndex : Int
  currentTurnStartIndex : Option Nat
  promptCacheTokens : Option Int
  promptEvalTokens : Option Int

def buildCompactionSummaryMessage (summaryText : JsString) : ChatMessage :=
  ChatMessage.plain .assistant (.text (COMPACTION_SUMMARY_MARKER ++ [0x0A] ++ summaryText))

/-- The system message, if it comes first. -/
def systemMessages : List ChatMessage → List ChatMessage
  | [] => []
  | first :: _ => if first.role = .system then [first] else []

/-- The messages that the summarizer sees. -/
def historyMessages (input : CompactionInput) (partition : RetentionPartition) : List ChatMessage :=
  systemMessages input.messages ++ partition.completedMessages

def summaryRequestMessages (input : CompactionInput) (partition : RetentionPartition) : List ChatMessage :=
  historyMessages input partition ++ [ChatMessage.plain .user (.text buildCompactionSummaryInstruction)]

/-- The rebuilt transcript, which has to be one that a provider takes. -/
def rebuild (options : CompactorOptions) (input : CompactionInput) (partition : RetentionPartition)
    (generationTokens : GenerationTokens) (summary : SummaryResult) : Except JsString CompactionOutcome :=
  let system := systemMessages input.messages
  let rebuilt := system ++ [buildCompactionSummaryMessage summary.summaryText] ++ partition.retainedMessages
  match findPlannerContextViolation rebuilt with
  | some violation =>
    .error (utf16 "TranscriptCompactor: retention would leave an invalid transcript — " ++ violation)
  | .none =>
    let keptMessageCount := system.length + partition.retainedMessages.length
    .ok
      { messages := rebuilt
        summaryText := summary.summaryText
        droppedMessageCount := (input.messages.length : Int) - keptMessageCount
        summaryTokenCount := options.countTokensWithFallback summary.summaryText
        summaryGenerationTokenBudget := generationTokens.totalTokens
        summaryReasoningTokenBudget := generationTokens.reasoningTokens
        summaryOutputTokenBudget := generationTokens.outputTokens
        summarizerElapsedMs := summary.elapsedMs
        nextMockResponseIndex := summary.nextMockResponseIndex
        currentTurnStartIndex := match input.retention with
          | .current_chat_turn _ => some (if system.isEmpty then 1 else 2)
          | _ => .none
        promptCacheTokens := summary.promptCacheTokens
        promptEvalTokens := summary.promptEvalTokens }

/-- `TranscriptCompactor.compact`. -/
def compact (options : CompactorOptions) (summarizer : Nat → SummaryAttempt) (input : CompactionInput) :
    Requested CompactionOutcome :=
  let prepared := do
    let partition ← partitionCompactionRetention input.messages (systemMessages input.messages).length input.retention
    let generationTokens ← resolveSummaryGenerationTokens options input.turn (summaryRequestMessages input partition)
    return (partition, generationTokens)
  match prepared with
  | .error message => { requests := [], retries := [], result := .error message }
  | .ok (partition, generationTokens) =>
    let summary := requestSummary input.turn input.mockResponseIndex summarizer (historyMessages input partition)
      buildCompactionSummaryInstruction generationTokens
    { requests := summary.requests
      retries := summary.retries
      result := do rebuild options input partition generationTokens (← summary.result) }

/-! ## What a policy retains -/

/-- The last user message of the body. -/
structure IsLatestUser (messages : List ChatMessage) (bodyStart latest : Nat) : Prop where
  inBody : bodyStart ≤ latest
  spoken : (messages[latest]?).any isUser = true
  last : ∀ later, latest < later → (messages[later]?).any isUser = false

/-- The places that a policy retains: the turn from its start to the end, the last user message, or none. -/
def Retains (messages : List ChatMessage) (bodyStart : Nat) : CompactionRetention → List Nat → Prop
  | .current_chat_turn (.integer startIndex), places =>
    ∃ start : Nat, startIndex = start ∧ bodyStart ≤ start ∧ start < messages.length ∧
      places = List.range' start (messages.length - start)
  | .current_chat_turn (.other _), _ => False
  | .latest_user, places => ∃ latest, IsLatestUser messages bodyStart latest ∧ places = [latest]
  | .none, places => places = []

def messagesAt (messages : List ChatMessage) (places : List Nat) : List ChatMessage := places.filterMap fun place => messages[place]?

variable {messages : List ChatMessage} {retention : CompactionRetention}

theorem messagesAt_range' {start count : Nat} (toEnd : start + count = messages.length) :
    messagesAt messages (List.range' start count) = messages.drop start := by
  induction count generalizing start with
  | zero =>
    rw [List.drop_eq_nil_of_le (by omega)]
    rfl
  | succ count ih =>
    have within : start < messages.length := by omega
    have rest := @ih (start + 1) (by omega)
    rw [List.drop_eq_getElem_cons within, ← rest]
    simp [messagesAt, List.range'_succ, List.getElem?_eq_getElem within]

variable {bodyStart : Nat}

theorem findLatestUserIndex_spec {latest : Nat}
    (found : findLatestUserIndex messages bodyStart = some latest) : IsLatestUser messages bodyStart latest := by
  rw [findLatestUserIndex, List.find?_eq_some_iff_append] at found
  obtain ⟨spoken, early, late, isReversed, after⟩ := found
  have isRange : List.range' bodyStart (messages.length - bodyStart) = late.reverse ++ latest :: early.reverse := by
    rw [← List.reverse_reverse (List.range' _ _), isReversed]
    simp
  have inRange : latest ∈ List.range' bodyStart (messages.length - bodyStart) := by simp [isRange]
  refine ⟨(List.mem_range'_1.mp inRange).1, spoken, fun later behind => ?_⟩
  by_cases beyond : messages.length ≤ later
  · simp [List.getElem?_eq_none beyond]
  · -- a later index stands behind this one in the range, so the search passed it
    have later_mem : later ∈ late.reverse ++ latest :: early.reverse := by
      rw [← isRange, List.mem_range'_1]
      have := (List.mem_range'_1.mp inRange).1
      omega
    have increasing : (late.reverse ++ latest :: early.reverse).Pairwise (· < ·) := isRange ▸ List.pairwise_lt_range'
    rw [List.pairwise_append] at increasing
    rcases List.mem_append.mp later_mem with before | atOrAfter
    · have := increasing.2.2 later before latest (List.mem_cons_self ..)
      omega
    · have afterLatest : later ∈ early := by
        cases List.mem_cons.mp atOrAfter with
        | inl same => omega
        | inr member => simpa using member
      simpa using after later afterLatest

theorem partition_retains {partition : RetentionPartition}
    (parted : partitionCompactionRetention messages bodyStart retention = .ok partition) :
    ∃ places, Retains messages bodyStart retention places ∧ partition.retainedMessages = messagesAt messages places := by
  cases retention with
  | current_chat_turn startIndex =>
    cases startIndex with
    | other text => cases parted
    | integer startIndex =>
      simp only [partitionCompactionRetention] at parted
      split at parted
      next => cases parted
      next inside =>
        split at parted
        next => cases parted
        next =>
          cases parted
          refine ⟨_, ⟨startIndex.toNat, by omega, by omega, by omega, rfl⟩, ?_⟩
          rw [messagesAt_range' (by omega)]
  | latest_user =>
    simp only [partitionCompactionRetention] at parted
    split at parted
    next => cases parted
    next latest found =>
      cases parted
      refine ⟨[latest], ⟨latest, findLatestUserIndex_spec found, rfl⟩, ?_⟩
      cases isMessage : messages[latest]? <;> simp [messagesAt, isMessage]
  | none =>
    cases parted
    exact ⟨[], rfl, rfl⟩

variable {places : List Nat}

theorem Retains.within (retains : Retains messages bodyStart retention places) :
    places.Nodup ∧ ∀ place ∈ places, bodyStart ≤ place ∧ place < messages.length := by
  match retention, retains with
  | .current_chat_turn (.integer _), ⟨start, _, inBody, _, isRange⟩ =>
    rw [isRange]
    refine ⟨List.nodup_range', fun place member => ?_⟩
    rw [List.mem_range'_1] at member
    omega
  | .latest_user, ⟨latest, isLatest, isPlace⟩ =>
    rw [isPlace]
    refine ⟨List.nodup_singleton latest, fun place member => ?_⟩
    rw [List.mem_singleton.mp member]
    refine ⟨isLatest.inBody, ?_⟩
    by_contra beyond
    have spoken := isLatest.spoken
    rw [List.getElem?_eq_none (Nat.not_lt.mp beyond)] at spoken
    cases spoken
  | .none, isEmpty =>
    rw [show places = [] from isEmpty]
    simp

theorem length_messagesAt (within : ∀ place ∈ places, place < messages.length) :
    (messagesAt messages places).length = places.length := by
  induction places with
  | nil => rfl
  | cons place rest ih =>
    obtain ⟨here, others⟩ := List.forall_mem_cons.mp within
    have later := ih others
    simp only [messagesAt] at later ⊢
    rw [List.filterMap_cons_some (List.getElem?_eq_getElem here), List.length_cons, later, List.length_cons]

theorem systemMessages_cases (messages : List ChatMessage) :
    systemMessages messages = [] ∨ ∃ message, systemMessages messages = [message] := by
  cases messages with
  | nil => exact .inl rfl
  | cons first rest =>
    rw [systemMessages]
    split
    · exact .inr ⟨first, rfl⟩
    · exact .inl rfl

theorem systemMessages_eq_take (messages : List ChatMessage) :
    systemMessages messages = messages.take (systemMessages messages).length := by
  cases messages with
  | nil => rfl
  | cons first rest =>
    rw [systemMessages]
    split <;> simp

/-- The places of a transcript that a compaction drops. -/
def droppedPlaces (messages : List ChatMessage) (places : List Nat) : List Nat :=
  (List.range messages.length).filter fun place => decide (place ∉ List.range (systemMessages messages).length ++ places)

theorem length_droppedPlaces
    (retains : Retains messages (systemMessages messages).length retention places) :
    ((droppedPlaces messages places).length : Int) =
      messages.length - ((systemMessages messages).length + places.length : Nat) := by
  obtain ⟨distinct, within⟩ := retains.within
  have bounded : (systemMessages messages).length ≤ messages.length := by
    rw [systemMessages_eq_take]
    exact List.length_take_le' _ _
  let kept := List.range (systemMessages messages).length ++ places
  have keptDistinct : kept.Nodup := by
    rw [List.nodup_append]
    refine ⟨List.nodup_range, distinct, fun place isSystem other isPlace same => ?_⟩
    have := List.mem_range.mp isSystem
    have := (within other isPlace).1
    omega
  -- the places that stay are the kept ones
  have stays : ((List.range messages.length).filter fun place => decide (place ∈ kept)).Perm kept := by
    rw [List.perm_ext_iff_of_nodup (List.nodup_range.filter _) keptDistinct]
    intro place
    simp only [List.mem_filter, List.mem_range, decide_eq_true_eq, and_iff_right_iff_imp]
    intro member
    cases List.mem_append.mp member with
    | inl isSystem =>
      have := List.mem_range.mp isSystem
      omega
    | inr isPlace => exact (within place isPlace).2
  have whole := @List.length_eq_length_filter_add Nat (List.range messages.length) (fun place => decide (place ∈ kept))
  rw [stays.length_eq, List.length_range] at whole
  have isDropped : droppedPlaces messages places = (List.range messages.length).filter fun place => !decide (place ∈ kept) := by
    simp only [droppedPlaces, kept, decide_not]
  have isKept : kept.length = (systemMessages messages).length + places.length := by simp [kept]
  rw [isDropped]
  omega

/-! ## Budgets -/

/-- A budget that leaves enough output keeps within the reserve and the window. -/
theorem fitGenerationTokens_bounds {options : CompactorOptions} {promptTokenCount : Int}
    (enough : COMPACTION_SUMMARY_MIN_OUTPUT_TOKENS ≤ (fitGenerationTokens options promptTokenCount).outputTokens) :
    let budget := fitGenerationTokens options promptTokenCount
    ((budget.reasoningTokens + budget.outputTokens : Int) : ℚ) ≤ options.compactionReserveTokens ∧
      promptTokenCount + budget.reasoningTokens + budget.outputTokens ≤ options.totalContextTokens ∧
      budget.totalTokens = budget.reasoningTokens + budget.outputTokens := by
  simp only [fitGenerationTokens, splitCompactionGenerationTokens, COMPACTION_SUMMARY_MIN_OUTPUT_TOKENS] at enough ⊢
  have floored := Int.floor_le options.compactionReserveTokens
  generalize ⌊options.compactionReserveTokens⌋ = reserve at enough floored ⊢
  refine ⟨le_trans ?_ floored, by omega, trivial⟩
  -- with a positive output the ceiling is the reserve itself
  exact_mod_cast (by omega)

theorem resolveSummaryGenerationTokens_eq_ok {options : CompactorOptions} {turn : Option Int}
    {generationTokens : GenerationTokens}
    (resolved : resolveSummaryGenerationTokens options turn messages = .ok generationTokens) :
    ∃ promptTokenCount, options.countPlannerPromptTokens messages = .ok promptTokenCount ∧
      generationTokens = fitGenerationTokens options promptTokenCount ∧
      COMPACTION_SUMMARY_MIN_OUTPUT_TOKENS ≤ generationTokens.outputTokens := by
  rw [resolveSummaryGenerationTokens, bind_eq_ok] at resolved
  obtain ⟨promptTokenCount, counted, resolved⟩ := resolved
  refine ⟨promptTokenCount, counted, ?_⟩
  simp only at resolved
  split at resolved
  next enough =>
    cases resolved
    exact ⟨rfl, enough⟩
  next => cases resolved

/-! ## Requests -/

theorem summaryRounds_requests (turn : Option Int) (request : Int → SummaryRequest) (summarizer : Nat → SummaryAttempt)
    (remaining attempt : Nat) (mockResponseIndex : Int) (lastErrorMessage : JsString) :
    (summaryRounds turn request summarizer remaining attempt mockResponseIndex lastErrorMessage).requests.length ≤ remaining := by
  induction remaining generalizing attempt mockResponseIndex lastErrorMessage with
  | zero => exact le_rfl
  | succ remaining ih =>
    rw [summaryRounds]
    split
    next => simp
    next nextIndex message _ => exact Nat.succ_le_succ (ih (attempt + 1) nextIndex message)

/-! ## What a compaction leaves -/

/-- For every summarizer, every prompt size and every policy a compaction makes at most two requests.  It throws, or it
leaves the system message, one summary, and the messages in the places that the policy retains, as a transcript that a
provider takes; the places of the current turn start where it says, all other places are counted as dropped, and the
budget fits the reserve and the window. -/
theorem compact_leaves_the_retained (options : CompactorOptions) (summarizer : Nat → SummaryAttempt) (input : CompactionInput) :
    (compact options summarizer input).requests.length ≤ 2 ∧
      ∀ outcome, (compact options summarizer input).result = .ok outcome →
        ∃ places partition promptTokenCount,
          Retains input.messages (systemMessages input.messages).length input.retention places ∧
          outcome.messages = systemMessages input.messages ++ [buildCompactionSummaryMessage outcome.summaryText] ++
            messagesAt input.messages places ∧
          findPlannerContextViolation outcome.messages = none ∧
          (∀ startIndex, input.retention = .current_chat_turn (.integer startIndex) →
            ∃ index message, outcome.currentTurnStartIndex = some index ∧ outcome.messages[index]? = some message ∧
              input.messages[startIndex.toNat]? = some message) ∧
          outcome.droppedMessageCount = (droppedPlaces input.messages places).length ∧
          partitionCompactionRetention input.messages (systemMessages input.messages).length input.retention = .ok partition ∧
          options.countPlannerPromptTokens (summaryRequestMessages input partition) = .ok promptTokenCount ∧
          ((outcome.summaryReasoningTokenBudget + outcome.summaryOutputTokenBudget : Int) : ℚ) ≤
            options.compactionReserveTokens ∧
          promptTokenCount + outcome.summaryReasoningTokenBudget + outcome.summaryOutputTokenBudget ≤
            options.totalContextTokens ∧
          COMPACTION_SUMMARY_MIN_OUTPUT_TOKENS ≤ outcome.summaryOutputTokenBudget := by
  unfold compact
  simp only
  split
  next message _ => exact ⟨Nat.zero_le _, fun _ failed => nomatch failed⟩
  next partition generationTokens prepared =>
    refine ⟨summaryRounds_requests _ _ _ _ _ _ _, fun outcome compacted => ?_⟩
    simp only [bind_eq_ok, pure_eq_ok, Prod.mk.injEq] at prepared compacted
    obtain ⟨partition, parted, generationTokens, resolved, rfl, rfl⟩ := prepared
    obtain ⟨summary, _, rebuilt⟩ := compacted
    obtain ⟨places, retains, isRetained⟩ := partition_retains parted
    obtain ⟨promptTokenCount, counted, isBudget, enough⟩ := resolveSummaryGenerationTokens_eq_ok resolved
    obtain ⟨inReserve, inWindow, _⟩ := fitGenerationTokens_bounds (isBudget ▸ enough)
    have keptPlaces := length_messagesAt fun place member => (retains.within.2 place member).2
    simp only [rebuild] at rebuilt
    split at rebuilt
    next => cases rebuilt
    next coherent =>
      cases rebuilt
      rw [isRetained] at coherent ⊢
      refine ⟨places, partition, promptTokenCount, retains, rfl, coherent, ?_, ?_, parted, counted, ?_, ?_, enough⟩
      · intro startIndex isTurn
        rw [isTurn] at retains
        obtain ⟨start, rfl, _, inside, isRange⟩ := retains
        -- the retained messages start right after the system message and the summary
        have first : (messagesAt input.messages places)[0]? = some input.messages[start] := by
          rw [isRange, messagesAt_range' (by omega), List.drop_eq_getElem_cons inside]
          rfl
        refine ⟨(systemMessages input.messages).length + 1, input.messages[start], ?_, ?_, ?_⟩
        · simp only [isTurn]
          cases systemMessages_cases input.messages with
          | inl none => simp [none]
          | inr one =>
            obtain ⟨message, isOne⟩ := one
            simp [isOne]
        · rw [List.getElem?_append_right (by simp), List.length_append, List.length_singleton, Nat.sub_self]
          exact first
        · rw [Int.toNat_natCast]
          exact List.getElem?_eq_getElem inside
      · rw [length_droppedPlaces retains, keptPlaces]
      · rw [isBudget]
        exact inReserve
      · rw [isBudget]
        exact inWindow

/-! ### A compaction whose first request fails -/

def sampleOptions : CompactorOptions where
  totalContextTokens := 32768
  compactionReserveTokens := 15000
  countPlannerPromptTokens := fun messages => .ok (100 * messages.length)
  countTokensWithFallback := fun text => text.length

def sampleSummarizer (attempt : Nat) : SummaryAttempt :=
  if attempt = 1 then .threw (utf16 "HTTP 503")
  else .answered ⟨utf16 " Read the parser. ", false, none, none, 12, none, none⟩

def sampleInput : CompactionInput where
  turn := some 3
  messages :=
    [.plain .system (.text (utf16 "Search.")), .plain .user (.text (utf16 "Where is the parser?")),
      .plain .assistant (.text (utf16 "In lib.")), .plain .user (.text (utf16 "And its tests?"))]
  mockResponseIndex := 0
  retention := .current_chat_turn (.integer 3)

theorem sample_compaction_leaves_the_retained :
    ∃ outcome, (compact sampleOptions sampleSummarizer sampleInput).result = .ok outcome ∧
      findPlannerContextViolation outcome.messages = none ∧ outcome.messages.length = 3 := by
  have ended : ((compact sampleOptions sampleSummarizer sampleInput).result.toOption.any
      fun outcome => outcome.messages.length == 3) = true := by
    decide +kernel
  cases isOutcome : (compact sampleOptions sampleSummarizer sampleInput).result with
  | error message => simp [isOutcome, Except.toOption] at ended
  | ok outcome =>
    obtain ⟨_, left⟩ := compact_leaves_the_retained sampleOptions sampleSummarizer sampleInput
    obtain ⟨_, _, _, _, _, coherent, _⟩ := left outcome isOutcome
    exact ⟨outcome, rfl, coherent, by simpa [isOutcome, Except.toOption] using ended⟩

end SiftKit.RepoSearch.Compaction
