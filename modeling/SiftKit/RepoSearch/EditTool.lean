import SiftKit.Foundation.Replacement
import SiftKit.Json.Values
import SiftKit.RepoSearch.TextEncoding

/-! # The edit tool

An edit names a text of the file and what is to stand in its place.  Every edit is matched against the
original text; the matches are sorted, checked against each other, and applied in one walk.
-/

namespace SiftKit.RepoSearch

open SiftKit.Json SiftKit.Replacement

/-! ## Arguments and results -/

structure EditReplacement where
  oldText : JsString
  newText : JsString

structure EditToolArgs where
  path : JsString
  edits : List EditReplacement

/-- A path within the repository. -/
structure ResolvedPath where
  absolutePath : JsString
  relativePath : JsString

/-- What the tools ask of their surroundings. -/
structure RepoToolContext where
  resolveRepoScopedPath : JsString → Option ResolvedPath
  isRepoRelativePathIgnored : JsString → Bool
  shortSha256 : JsString → JsString

/-- The bytes of the regular files, by absolute path. -/
abbrev Files := JsString → Option (List UInt8)

inductive RepoToolExecution where
  | success (requestedCommand command : JsString) (exitCode : Nat) (output toolType outputUnit mutatedPath : JsString)
  | failure (command reason toolType : JsString)

def RepoToolExecution.ok : RepoToolExecution → Bool
  | .success .. => true
  | .failure .. => false

def numberText (number : Nat) : JsString := utf16 (toString number)

/-- A digest over the pairs of old and new texts. -/
def editContentDigest (context : RepoToolContext) (edits : List EditReplacement) : JsString :=
  context.shortSha256 (stringify (.array (edits.map fun edit => .array [.string edit.oldText, .string edit.newText])))

/-- The key that the call goes by.  The path comes trimmed from the schema. -/
def buildEditCommand (context : RepoToolContext) (args : EditToolArgs) : JsString :=
  utf16 "edit path=" ++ quoted args.path ++ utf16 " edits=" ++ numberText args.edits.length ++ utf16 " sha=" ++
    quoted (editContentDigest context args.edits)

/-! ## Matching -/

structure ResolvedEdit where
  index : Nat
  start : Nat
  stop : Nat
  newText : JsString

def splitLines (text : JsString) : List JsString := text.splitOn lineFeed

def joinLines (lines : List JsString) : JsString := List.intercalate [lineFeed] lines

/-- The line of a position, counted from one. -/
def lineNumberAt (text : JsString) (offset : Nat) : Nat := (splitLines (text.take offset)).length

def recopyHint : JsString := utf16 "Re-read the file and copy oldText verbatim."

/-- Where the copy of a text leaves the file: behind its longest part of whole lines that occurs there. -/
def describeDivergence (originalText : JsString) (lines : List JsString) (label : JsString) : Nat → JsString
  | 0 =>
    label ++ utf16 "; its first line does not occur anywhere: " ++ quoted (lines.headD []) ++ utf16 ". " ++ recopyHint
  | count + 1 =>
    match indexOf (joinLines (lines.take (count + 1))) originalText with
    | none => describeDivergence originalText lines label count
    | some start =>
      let fileLine := lineNumberAt originalText start
      let fileLines := splitLines originalText
      let nextIndex := fileLine - 1 + (count + 1)
      let actual := match fileLines[nextIndex]? with
        | none => utf16 "\"\" (end of file)"
        | some nextFileLine =>
          if nextIndex = fileLines.length - 1 ∧ nextFileLine = [] then utf16 "\"\" (end of file)" else quoted nextFileLine
      label ++ utf16 "; oldText lines 1-" ++ numberText (count + 1) ++ utf16 " match at file line " ++
        numberText fileLine ++ utf16 ", but oldText line " ++ numberText (count + 2) ++ utf16 " is " ++
        quoted (lines.getD (count + 1) []) ++ utf16 " while the file has " ++ actual ++ utf16 ". " ++ recopyHint

def describeMissingOldText (originalText oldText : JsString) (index : Nat) : JsString :=
  let lines := splitLines oldText
  describeDivergence originalText lines (utf16 "edits[" ++ numberText index ++ utf16 "].oldText not found in file")
    (lines.length - 1)

def describeRepeatedOldText (originalText : JsString) (index start second : Nat) : JsString :=
  utf16 "edits[" ++ numberText index ++ utf16 "].oldText is not unique in file; it matches at file lines " ++
    numberText (lineNumberAt originalText start) ++ utf16 " and " ++ numberText (lineNumberAt originalText second) ++
    utf16 ". Extend oldText with neighbouring lines so it matches once."

def resolveEdit (originalText : JsString) (index : Nat) (edit : EditReplacement) : Except JsString ResolvedEdit :=
  match indexOf edit.oldText originalText with
  | none => .error (describeMissingOldText originalText edit.oldText index)
  | some start =>
    match indexOfFrom originalText edit.oldText (start + 1) with
    | some second => .error (describeRepeatedOldText originalText index start second)
    | none => .ok { index, start, stop := start + edit.oldText.length, newText := edit.newText }

/-- Every edit by itself: what failed, and what was resolved. -/
def resolveEach (originalText : JsString) : Nat → List EditReplacement → List JsString × List ResolvedEdit
  | _, [] => ([], [])
  | index, edit :: rest =>
    let (failures, resolved) := resolveEach originalText (index + 1) rest
    match resolveEdit originalText index edit with
    | .error failure => (failure :: failures, resolved)
    | .ok found => (failures, found :: resolved)

def describeRange (originalText : JsString) (edit : ResolvedEdit) : JsString :=
  numberText (lineNumberAt originalText edit.start) ++ utf16 "-" ++
    numberText (lineNumberAt originalText (max edit.start (edit.stop - 1)))

def describeOverlap (originalText : JsString) (first second : ResolvedEdit) : JsString :=
  utf16 "edits[" ++ numberText first.index ++ utf16 "] (file lines " ++ describeRange originalText first ++
    utf16 ") and edits[" ++ numberText second.index ++ utf16 "] (file lines " ++ describeRange originalText second ++
    utf16 ") overlap; merge them into one edit"

/-- The first of the sorted matches that starts before its predecessor ends. -/
def findOverlap (originalText : JsString) : List ResolvedEdit → Option JsString
  | first :: second :: rest =>
    if second.start < first.stop then some (describeOverlap originalText first second)
    else findOverlap originalText (second :: rest)
  | _ => none

def byStart (resolved : List ResolvedEdit) : List ResolvedEdit :=
  resolved.insertionSort fun left right => left.start ≤ right.start

def resolveEdits (originalText : JsString) (rawEdits : List EditReplacement) : Except JsString (List ResolvedEdit) :=
  let (failures, resolved) := resolveEach originalText 0 rawEdits
  if 0 < failures.length then .error (joinLines failures)
  else
    let ordered := byStart resolved
    match findOverlap originalText ordered with
    | some overlap => .error overlap
    | none => .ok ordered

/-! ## Applying -/

/-- The new text, from what is written of it and where the cursor stands in the old one. -/
def applyResolved (originalText updatedText : JsString) (cursor : Nat) : List ResolvedEdit → JsString
  | [] => updatedText ++ originalText.drop cursor
  | edit :: rest =>
    applyResolved originalText (updatedText ++ ((originalText.take edit.start).drop cursor ++ edit.newText)) edit.stop rest

def executeEdit (args : EditToolArgs) (context : RepoToolContext) (files : Files) : RepoToolExecution × Files :=
  let command := buildEditCommand context args
  match context.resolveRepoScopedPath args.path with
  | none => (.failure command (utf16 "path must stay within the repository root") (utf16 "edit"), files)
  | some resolvedPath =>
    if context.isRepoRelativePathIgnored resolvedPath.relativePath then
      (.failure command (utf16 "path is ignored by runtime policy") (utf16 "edit"), files)
    else
      match files resolvedPath.absolutePath with
      | none => (.failure command (utf16 "path is not a readable file") (utf16 "edit"), files)
      | some buffer =>
        let rawText := decodeTextBuffer buffer
        let eolStyle := detectEolStyle rawText
        let originalText := normalizeLineEnds rawText
        match resolveEdits originalText args.edits with
        | .error reason => (.failure command reason (utf16 "edit"), files)
        | .ok resolved =>
          let updatedText := applyResolved originalText [] 0 resolved
          let output := utf16 "Applied " ++ numberText resolved.length ++ utf16 " edit(s) to " ++
            resolvedPath.relativePath ++ utf16 "."
          (.success command command 0 output (utf16 "edit") (utf16 "lines") resolvedPath.relativePath,
            Function.update files resolvedPath.absolutePath (some (encodeUtf8 (applyEolStyle updatedText eolStyle))))

end SiftKit.RepoSearch
