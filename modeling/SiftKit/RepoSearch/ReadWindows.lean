import SiftKit.Foundation.OrderedMap
import SiftKit.Foundation.Runs
import SiftKit.RepoSearch.ToolOutputFit

/-! # Read windows

`read-overlap.ts`, `read-window-governor.ts`, the `read` tool of `repo-tools.ts`, `tool-result-budgeter.ts` and
what `tool-action-processor.ts` does with the result of a read: lines that were returned to the model are
recorded by path, and later reads skip them.
-/

namespace SiftKit.RepoSearch

open SiftKit.Json
open SiftKit.Json.Schema (isWhiteSpace trim)
open SiftKit.Ranges SiftKit.Tables

/-! ## Recorded ranges -/

structure FileReadState where
  /-- Line ranges already returned to the model, merged and sorted. -/
  mergedReturnedRanges : List ReadRange
  totalLinesRead : Nat
  uniqueLinesRead : Nat
  overlapLines : Nat
  deriving DecidableEq

def FileReadState.empty : FileReadState := ⟨[], 0, 0, 0⟩

abbrev ReadStates := OrderedMap JsString FileReadState

def normalizeRange (range : ReadRange) : ReadRange := { range with stop := max range.start range.stop }

def intersectionLength (first second : ReadRange) : Nat :=
  min (normalizeRange first).stop (normalizeRange second).stop - max first.start second.start

def overlapWithRanges (ranges : List ReadRange) (next : ReadRange) : Nat :=
  (ranges.map fun range => intersectionLength range next).sum

def isSortedBefore (left right : ReadRange) : Bool :=
  decide (left.start < right.start ∨ left.start = right.start ∧ left.stop ≤ right.stop)

def mergeRange (ranges : List ReadRange) (next : ReadRange) : List ReadRange :=
  if next.stop ≤ next.start then ranges
  else
    mergeSorted (orderBy isSortedBefore
      ((ranges.map normalizeRange ++ [normalizeRange next]).filter fun range => decide (range.start < range.stop)))

def getOrCreateFileReadState (states : ReadStates) (pathKey : JsString) : FileReadState × ReadStates :=
  match states.get? pathKey with
  | some state => (state, states)
  | none => (FileReadState.empty, states.set pathKey FileReadState.empty)

/-- Records the range actually returned to the model. -/
def recordNativeRead (states : ReadStates) (pathKey : JsString) (returnedRange : ReadRange) : ReadStates :=
  let (state, states) := getOrCreateFileReadState states pathKey
  let linesRead := returnedRange.stop - returnedRange.start
  let overlapLines := overlapWithRanges state.mergedReturnedRanges returnedRange
  states.set pathKey {
    mergedReturnedRanges := mergeRange state.mergedReturnedRanges returnedRange
    totalLinesRead := state.totalLinesRead + linesRead
    uniqueLinesRead := state.uniqueLinesRead + (linesRead - overlapLines)
    overlapLines := state.overlapLines + overlapLines }

def FileReadState.invalidate (state : FileReadState) : FileReadState := { state with mergedReturnedRanges := [] }

def invalidatePath (states : ReadStates) (pathKey : JsString) : ReadStates := states.update pathKey FileReadState.invalidate

def invalidateAll (states : ReadStates) : ReadStates where
  entries := states.entries.map fun entry => (entry.1, entry.2.invalidate)
  distinct := by simpa [List.map_map, Function.comp_def] using states.distinct

/-! ## Planning a read -/

structure ReadToolArgs where
  path : JsString
  offset : Option Nat
  limit : Option Nat

/-- What a call of a tool finds around it. -/
structure ReadSurroundings where
  context : RepoToolContext
  isImagePath : JsString → Bool
  files : Files
  expandReads : Bool
  countTokens : JsString → Nat
  perToolCapTokens : Nat
  remainingTokenAllowance : Nat

def READ_MAX_BYTES : Nat := 2000000

structure ReadPlan where
  commandPath : JsString
  requestedStartLine : Nat
  requestedEndLine : Nat
  effectiveStartLine : Nat
  effectiveEndLineExclusive : Nat
  totalEndLineExclusive : Nat
  pathKey : JsString
  displayPath : JsString
  lines : List JsString
  hasUnread : Bool
  noUnreadOutput : Option JsString

/-- A trailing newline terminates the last line; it does not start an empty one after it. -/
def splitSourceLines (text : JsString) : List JsString :=
  let lines := splitLines text
  if 1 < lines.length ∧ lines.getLast? = some [] then lines.dropLast else lines

def resolvePositiveInteger (value : Option Nat) (fallback : Nat) (reason : JsString) : Except JsString Nat :=
  match value with
  | none => .ok fallback
  | some number => if 0 < number then .ok number else .error reason

def resolveOptionalPositiveInteger (value : Option Nat) (reason : JsString) : Except JsString (Option Nat) :=
  match value with
  | none => .ok none
  | some number => if 0 < number then .ok (some number) else .error reason

section

variable (buildReadPathKey : JsString → JsString)

/-- The lines of the file that a path names, or why they cannot be read. -/
def readSourceLines (surroundings : ReadSurroundings) (path : JsString) : Except JsString (JsString × List JsString) :=
  match surroundings.context.resolveRepoScopedPath path with
  | none => .error (utf16 "path must stay within the repository root")
  | some resolvedPath =>
    if surroundings.context.isRepoRelativePathIgnored resolvedPath.relativePath then
      .error (utf16 "path is ignored by runtime policy")
    else
      match surroundings.files resolvedPath.absolutePath with
      | none => .error (utf16 "path is not a readable file")
      | some buffer =>
        if READ_MAX_BYTES < buffer.length then
          .error (utf16 "file is " ++ numberText buffer.length ++ utf16 " bytes; read supports files up to " ++
            numberText READ_MAX_BYTES ++ utf16 " bytes — use grep to extract the lines you need")
        else .ok (resolvedPath.relativePath, splitSourceLines (normalizeLineEnds (decodeTextBuffer buffer)))

def pluralEnd (count : Nat) : JsString := if count = 1 then [] else utf16 "s"

/-- The plan of a read in a file of these lines, of which some were returned already. -/
def planLines (commandPath displayPath : JsString) (offset : Nat) (limit : Option Nat) (expandReads : Bool)
    (returnedRanges : List ReadRange) (lines : List JsString) : ReadPlan :=
  let totalEndLineExclusive := lines.length + 1
  let requestedEndExclusive := match limit with
    | none => totalEndLineExclusive
    | some limit => max (offset + 1) (min (offset + limit) totalEndLineExclusive)
  let totalEnd :=
    if expandReads && !returnedRanges.isEmpty then totalEndLineExclusive else requestedEndExclusive
  let unreadRange := findContiguousUnreadRange offset totalEnd returnedRanges
  { commandPath
    requestedStartLine := offset
    requestedEndLine := requestedEndExclusive - 1
    effectiveStartLine := unreadRange.start
    effectiveEndLineExclusive := unreadRange.stop
    totalEndLineExclusive
    pathKey := buildReadPathKey displayPath
    displayPath
    lines
    hasUnread := unreadRange.hasUnread
    noUnreadOutput :=
      if unreadRange.hasUnread then none
      else
        some (utf16 "Lines " ++ numberText offset ++ utf16 "-" ++ numberText (requestedEndExclusive - 1) ++ utf16 " of " ++
          displayPath ++ utf16 " were already returned in this run. Read a different range, or edit/write the file to " ++
          utf16 "re-read it.") }

/-- `planRead`: the plan or the reason of its failure, and the states with one of the path. -/
def planRead (surroundings : ReadSurroundings) (args : ReadToolArgs) (states : ReadStates) :
    Except JsString ReadPlan × ReadStates :=
  match resolvePositiveInteger args.offset 1 (utf16 "offset must be a positive integer"),
      resolveOptionalPositiveInteger args.limit (utf16 "limit must be a positive integer") with
  | .error reason, _ => (.error reason, states)
  | .ok _, .error reason => (.error reason, states)
  | .ok offset, .ok limit =>
    match readSourceLines surroundings args.path with
    | .error reason => (.error reason, states)
    | .ok (displayPath, lines) =>
      if lines.length < offset then
        (.error (utf16 "offset " ++ numberText offset ++ utf16 " is past the end of " ++ displayPath ++ utf16 " (" ++
          numberText lines.length ++ utf16 " line" ++ pluralEnd lines.length ++ utf16 ")"), states)
      else
        let (state, states) := getOrCreateFileReadState states (buildReadPathKey displayPath)
        (.ok (planLines buildReadPathKey (trim args.path) displayPath offset limit surroundings.expandReads
          state.mergedReturnedRanges lines), states)

end

/-! ## Executing a read -/

structure ReadExecution where
  command : JsString
  output : JsString
  commandPath : JsString
  pathKey : JsString
  startLine : Nat
  lineReadLinesTotal : Nat

def buildReadCommand (pathText : JsString) (offset limit : Nat) : JsString :=
  utf16 "read path=" ++ quoted pathText ++ utf16 " offset=" ++ numberText offset ++ utf16 " limit=" ++ numberText limit

def numberedLine (number : Nat) (line : JsString) : JsString := numberText number ++ utf16 ": " ++ line

def numberedLines (lines : List JsString) (startLine : Nat) : List JsString :=
  lines.mapIdx fun index line => numberedLine (startLine + index) line

def formatNumberedTextBlock (lines : List JsString) (startLine : Nat) : JsString := joinLines (numberedLines lines startLine)

/-- The line that marks the last one. -/
def endOfFileMark (lineCount : Nat) : JsString :=
  utf16 "(end of file: " ++ numberText lineCount ++ utf16 " line" ++ pluralEnd lineCount ++ utf16 ")"

/-- The unread lines of a plan. -/
def ReadPlan.selectedLines (plan : ReadPlan) : List JsString :=
  (plan.lines.take (plan.effectiveEndLineExclusive - 1)).drop (plan.effectiveStartLine - 1)

/-- `buildReadExecution`, for a plan with unread lines. -/
def buildReadExecution (plan : ReadPlan) : ReadExecution :=
  let numberedText := trim (formatNumberedTextBlock plan.selectedLines plan.effectiveStartLine)
  { command := buildReadCommand plan.commandPath plan.effectiveStartLine
      (plan.effectiveEndLineExclusive - plan.effectiveStartLine)
    output :=
      if plan.effectiveEndLineExclusive = plan.totalEndLineExclusive then
        numberedText ++ [lineFeed] ++ endOfFileMark (plan.totalEndLineExclusive - 1)
      else numberedText
    commandPath := plan.commandPath
    pathKey := plan.pathKey
    startLine := plan.effectiveStartLine
    lineReadLinesTotal := plan.selectedLines.length }

/-! ## Fitting its result -/

/-- `text.split(/\r?\n/u)`. -/
def splitLineEnds (text : JsString) : List JsString :=
  let lines := splitLines text
  let withoutReturn (line : JsString) : JsString := if line.getLast? = some carriageReturn then line.dropLast else line
  lines.dropLast.map withoutReturn ++ lines.getLast?.toList

/-- `/^\d+:/u.test(line)`. -/
def isNumbered (line : JsString) : Bool :=
  !(line.takeWhile isDigit).isEmpty && (line.dropWhile isDigit).head? == some 0x3A

structure FittedToolResult where
  resultText : JsString
  /-- None when the result fits as it is. -/
  fittedReturnedSegmentCount : Option Nat

/-- What is fitted when a result is too long. -/
def fitInput (resultText : JsString) (maxResultTokens : Nat) (keep : ToolOutputKeep) : ToolOutputFitInput where
  headerText := []
  segments := (splitLineEnds resultText).filter fun line => !line.isEmpty
  separator := [lineFeed]
  maxTokens := maxResultTokens
  unit := utf16 "lines"
  keep := keep

/-- `ToolResultBudgeter.fit`. -/
def fitToBudget (countTokens : JsString → Nat) (resultText : JsString) (maxResultTokens : Nat) (keep : ToolOutputKeep) :
    FittedToolResult :=
  if maxResultTokens < countTokens resultText then
    let fitResult := fitSegments countTokens (fitInput resultText maxResultTokens keep)
    { resultText := fitResult.visibleText, fittedReturnedSegmentCount := some fitResult.returnedLineCount }
  else { resultText, fittedReturnedSegmentCount := none }

/-- The text of a result before it is fitted. -/
def promptText (output : JsString) : JsString :=
  applyToolOutputRepetitionGuard (trim (normalizeLineEnds (trim output)))

structure FittedToolOutcome where
  commandToRun : JsString
  resultText : JsString
  lineReadLinesTotal : Nat

/-- `fitToolResult` of a read, whose output is never empty and whose exit code is zero. -/
def fitToolResult (surroundings : ReadSurroundings) (execution : ReadExecution) (states : ReadStates) :
    FittedToolOutcome × ReadStates :=
  let successBudgetTokens := min surroundings.perToolCapTokens surroundings.remainingTokenAllowance
  let fitted := fitToBudget surroundings.countTokens (promptText execution.output) successBudgetTokens .head
  -- output fitting may have truncated the window
  let returnedLineCount := min execution.lineReadLinesTotal
    (fitted.fittedReturnedSegmentCount.getD ((splitLineEnds fitted.resultText).countP isNumbered))
  if 0 < execution.lineReadLinesTotal ∧ 0 < returnedLineCount then
    ({ commandToRun := buildReadCommand execution.commandPath execution.startLine returnedLineCount
       resultText := fitted.resultText
       lineReadLinesTotal := returnedLineCount },
      recordNativeRead states execution.pathKey ⟨execution.startLine, execution.startLine + returnedLineCount⟩)
  else
    ({ commandToRun := execution.command
       resultText := fitted.resultText
       lineReadLinesTotal := execution.lineReadLinesTotal }, states)

/-! ## Calls -/

/-- A result of a read as it went into the transcript, and the lines of the file it was read from. -/
structure ShownRead where
  pathKey : JsString
  lines : List JsString
  resultText : JsString

/-- The recorded ranges, and the results of reads since the last invalidation of their paths. -/
structure ReadWindowState where
  states : ReadStates
  shown : List ShownRead

def ReadWindowState.start : ReadWindowState := ⟨OrderedMap.empty, []⟩

inductive ToolCall where
  | read (surroundings : ReadSurroundings) (args : ReadToolArgs)
  /-- An edit or a write, with what it came to. -/
  | mutate (execution : RepoToolExecution)
  /-- A command that was completed, or was not. -/
  | run (completed : Bool)

section

variable (buildReadPathKey : JsString → JsString)

/-- A read: refused, exhausted, or executed and fitted.  An image has no lines. -/
def executeRead (surroundings : ReadSurroundings) (args : ReadToolArgs) (before : ReadWindowState) : ReadWindowState :=
  match surroundings.context.resolveRepoScopedPath args.path with
  | some resolvedPath =>
    if surroundings.isImagePath resolvedPath.relativePath then before
    else
      match planRead buildReadPathKey surroundings args before.states with
      | (.error _, states) => { before with states }
      | (.ok plan, states) =>
        if plan.hasUnread then
          let (outcome, states) := fitToolResult surroundings (buildReadExecution plan) states
          { states, shown := before.shown ++ [⟨plan.pathKey, plan.lines, outcome.resultText⟩] }
        else { before with states }
  | none => before

def invalidateAfterMutation (execution : RepoToolExecution) (before : ReadWindowState) : ReadWindowState :=
  match execution with
  | .success _ _ exitCode _ _ _ mutatedPath =>
    if exitCode = 0 then
      { states := invalidatePath before.states (buildReadPathKey mutatedPath)
        shown := before.shown.filter fun result => result.pathKey != buildReadPathKey mutatedPath }
    else before
  | .failure .. => before

def performCall (before : ReadWindowState) : ToolCall → ReadWindowState
  | .read surroundings args => executeRead buildReadPathKey surroundings args before
  | .mutate execution => invalidateAfterMutation buildReadPathKey execution before
  | .run completed => if completed then { states := invalidateAll before.states, shown := [] } else before

end

end SiftKit.RepoSearch
