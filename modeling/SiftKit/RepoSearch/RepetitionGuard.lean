import SiftKit.Json.Validation
import SiftKit.RepoSearch.EditTool

/-! # The repetition guard

`repetition-guard.ts`, with its defaults, and `applyToolOutputRepetitionGuard`: a text whose last tokens
repeat is cut where the repeated run starts.
-/

namespace SiftKit.RepoSearch

open SiftKit.Json
open SiftKit.Json.Schema (isWhiteSpace trim)

/-! ## Tokens -/

structure TokenSpan where
  value : JsString
  startIndex : Nat
  deriving DecidableEq

/-- `[A-Za-z_]`. -/
def isNameStart (unit : CodeUnit) : Bool :=
  (0x41 ≤ unit.toNat && unit.toNat ≤ 0x5A) || (0x61 ≤ unit.toNat && unit.toNat ≤ 0x7A) || unit == 0x5F

/-- `[A-Za-z0-9_]`. -/
def isWordUnit (unit : CodeUnit) : Bool := isNameStart unit || isDigit unit

/-- The length of a match of `[A-Za-z_][A-Za-z0-9_-]*>?`, zero for none. -/
def tagNameLength : JsString → Nat
  | [] => 0
  | first :: rest =>
    if isNameStart first then
      let name := rest.takeWhile fun unit => isWordUnit unit || unit == 0x2D
      1 + name.length + (if (rest.drop name.length).head? = some 0x3E then 1 else 0)
    else 0

/-- The length of a match of `<\/?[A-Za-z_][A-Za-z0-9_-]*>?`, zero for none. -/
def tagLength : JsString → Nat
  | 0x3C :: 0x2F :: rest => if tagNameLength rest = 0 then 0 else 2 + tagNameLength rest
  | 0x3C :: rest => if tagNameLength rest = 0 then 0 else 1 + tagNameLength rest
  | _ => 0

/-- The length of the token at the front of a text, zero for white space. -/
def tokenLength : JsString → Nat
  | [] => 0
  | unit :: rest =>
    if tagLength (unit :: rest) ≠ 0 then tagLength (unit :: rest)
    else if isWordUnit unit then ((unit :: rest).takeWhile isWordUnit).length
    else if isWhiteSpace unit then 0
    else if isHighSurrogate unit && rest.head?.any isLowSurrogate then 2
    else 1

/-- The tokens of a text from an index, of which so many units belong to the last one. -/
def tokenizeFrom (index skipped : Nat) : JsString → List TokenSpan
  | [] => []
  | unit :: rest =>
    if 0 < skipped then tokenizeFrom (index + 1) (skipped - 1) rest
    else
      let length := tokenLength (unit :: rest)
      if length = 0 then tokenizeFrom (index + 1) 0 rest
      else ⟨(unit :: rest).take length, index⟩ :: tokenizeFrom (index + 1) (length - 1) rest

def tokenizeForRepetitionDetection (text : JsString) : List TokenSpan := tokenizeFrom 0 0 text

/-! ## Repetition -/

def DEFAULT_MIN_TOTAL_TOKENS : Nat := 101

def DEFAULT_WINDOW_TOKENS : Nat := 10

def DEFAULT_MIN_REPEATS : Nat := 2

/-- The value of a token, none past the end. -/
def valueAt (tokens : List TokenSpan) (index : Nat) : Option JsString := tokens[index]?.map TokenSpan.value

/-- The while loop of the prefix table; every turn makes the prefix shorter. -/
def shortenPrefix (tokens : List TokenSpan) (prefixTable : List Nat) (index : Nat) : Nat → Nat → Nat
  | 0, prefixLength => prefixLength
  | fuel + 1, prefixLength =>
    if 0 < prefixLength ∧ valueAt tokens index ≠ valueAt tokens prefixLength then
      shortenPrefix tokens prefixTable index fuel (prefixTable.getD (prefixLength - 1) 0)
    else prefixLength

/-- One more entry of the prefix table. -/
def extendPrefixTable (tokens : List TokenSpan) (prefixTable : List Nat) (index : Nat) : List Nat :=
  let before := prefixTable.getD (index - 1) 0
  let prefixLength := shortenPrefix tokens prefixTable index before before
  prefixTable ++ [if valueAt tokens index = valueAt tokens prefixLength then prefixLength + 1 else prefixLength]

def buildPrefixTable (tokens : List TokenSpan) : List Nat :=
  (List.range' 1 (tokens.length - 1)).foldl (extendPrefixTable tokens) [0]

structure TokenRepetitionDetection where
  totalTokens : Nat
  windowTokens : Nat
  periodTokens : Nat
  repeatedRunTokens : Nat
  repeatedTokens : List JsString
  truncatedText : JsString

/-- Where the repeated run starts: it is followed back while the period before it is the same. -/
def repeatedRunStart (tokens : List TokenSpan) (periodTokens : Nat) : Nat → Nat → Nat
  | 0, start => start
  | fuel + 1, start =>
    if periodTokens ≤ start ∧
        ∀ offset < periodTokens, valueAt tokens (start - periodTokens + offset) = valueAt tokens (start + offset) then
      repeatedRunStart tokens periodTokens fuel (start - periodTokens)
    else start

/-- `text.trimEnd()`. -/
def trimEnd (text : JsString) : JsString := text.rdropWhile isWhiteSpace

def detectRecentTokenRepetition (text : JsString) : Option TokenRepetitionDetection :=
  let tokens := tokenizeForRepetitionDetection text
  if tokens.length < DEFAULT_MIN_TOTAL_TOKENS ∨ tokens.length < DEFAULT_WINDOW_TOKENS then none
  else
    let suffixWindow := tokens.drop (tokens.length - DEFAULT_WINDOW_TOKENS)
    let prefixTable := buildPrefixTable suffixWindow.reverse
    let periodTokens := DEFAULT_WINDOW_TOKENS - prefixTable.getD (DEFAULT_WINDOW_TOKENS - 1) 0
    if DEFAULT_WINDOW_TOKENS ≤ periodTokens ∨ DEFAULT_WINDOW_TOKENS < DEFAULT_MIN_REPEATS * periodTokens then none
    else
      let start := repeatedRunStart tokens periodTokens tokens.length (tokens.length - periodTokens)
      some {
        totalTokens := tokens.length
        windowTokens := DEFAULT_WINDOW_TOKENS
        periodTokens
        repeatedRunTokens := tokens.length - start
        repeatedTokens := (suffixWindow.drop (DEFAULT_WINDOW_TOKENS - periodTokens)).map TokenSpan.value
        truncatedText := trimEnd (text.take ((tokens[start]?.map TokenSpan.startIndex).getD 0)) }

/-! ## The guard -/

def buildToolOutputRepetitionWarning (detection : TokenRepetitionDetection) : JsString :=
  utf16 "SiftKit stopped tool output early: recent tokens repeated every " ++ numberText detection.periodTokens ++
    utf16 " tokens across the last " ++ numberText detection.windowTokens ++ utf16 " tokens after " ++
    numberText detection.totalTokens ++ utf16 " tokens."

def applyToolOutputRepetitionGuard (text : JsString) : JsString :=
  match detectRecentTokenRepetition text with
  | none => text
  | some detection =>
    trim (joinLines ([buildToolOutputRepetitionWarning detection, detection.truncatedText].filter
      fun part => !(trim part).isEmpty))

end SiftKit.RepoSearch
