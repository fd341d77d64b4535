import SiftKit.Json.Validation

/-! # Chat contracts

The schemas of `packages/contracts/src/chat.ts`, `chat-recovery.ts`, `image.ts` and
`inference-throughput.ts` that a snapshot of an operation is made of.
-/

namespace SiftKit.Chat

open SiftKit.Json SiftKit.Json.Schema

/-- The string formats that the schema library checks by itself. -/
structure StringFormats where
  uuid : JsString → Bool
  datetime : JsString → Bool

/-- Formats for runs on fixed inputs: an id is told by its length, and any text is a time. -/
def sampleFormats : StringFormats := ⟨fun text => text.length == 36, fun text => !text.isEmpty⟩

/-! ## Numbers -/

def maxSafeInteger : Nat := 9007199254740991

def isInteger (number : Decimal) : Bool :=
  0 ≤ number.exponent && number.digits * 10 ^ number.exponent.toNat ≤ maxSafeInteger

def isNonnegative (number : Decimal) : Bool := !number.negative

def isPositive (number : Decimal) : Bool := !number.negative && number.digits != 0

/-- `z.number().int().nonnegative()`. -/
def nonnegativeInteger : Schema := number fun value => isInteger value && isNonnegative value

/-- `z.number().int().positive()`. -/
def positiveInteger : Schema := number fun value => isInteger value && isPositive value

/-- `z.number().positive()`. -/
def positiveNumber : Schema := number isPositive

/-- `z.enum`, over literals. -/
def enumOf (texts : List String) : Schema := enum (texts.map utf16)

/-! ## Images -/

def SIFT_MAX_IMAGE_BYTES : Nat := 20 * 1024 * 1024

def imageMimes : List String := ["image/png", "image/jpeg", "image/webp", "image/gif"]

/-- `\w`. -/
def isWordUnit (unit : CodeUnit) : Bool :=
  let code := unit.toNat
  (0x30 ≤ code && code ≤ 0x39) || (0x41 ≤ code && code ≤ 0x5A) || (0x61 ≤ code && code ≤ 0x7A) || code == 0x5F

def dropPrefix (start text : JsString) : Option JsString :=
  if start.isPrefixOf text then some (text.drop start.length) else none

/-- The type and payload of `data:image/…;base64,…`. -/
def splitImageDataUrl (dataUrl : JsString) : Option (JsString × JsString) := do
  let rest ← dropPrefix (utf16 "data:image/") dataUrl
  let name := rest.takeWhile isWordUnit
  let base64 ← dropPrefix (utf16 ";base64,") (rest.dropWhile isWordUnit)
  let mime := utf16 "image/" ++ name
  if (imageMimes.map utf16).contains mime then some (mime, base64) else none

/-- Four characters carry three bytes; padding carries none. -/
def base64PayloadByteLength (base64 : JsString) : Int :=
  let padding := if (utf16 "==").isSuffixOf base64 then 2 else if (utf16 "=").isSuffixOf base64 then 1 else 0
  (base64.length * 3 / 4 : Nat) - padding

def isSupportedImage (dataUrl : JsString) : Bool :=
  (splitImageDataUrl dataUrl).any fun split => base64PayloadByteLength split.2 ≤ SIFT_MAX_IMAGE_BYTES

def imageDataUrlSchema : Schema := string isSupportedImage

/-! ## Messages -/

def chatRunTerminalCauseSchema : Schema := enumOf
  ["completed", "user_stop", "approval_timeout", "provider_failure", "execution_failure", "storage_failure", "server_restart"]

/-! ## Turns -/

def chatTurnTokenRecordSchema : Schema := object .strip ⟨[
  field "turn" positiveInteger, field "promptTokens" nonnegativeInteger, field "thinkingTokens" nonnegativeInteger,
  field "outputTokens" nonnegativeInteger, field "toolTokens" nonnegativeInteger, field "generatedChars" nonnegativeInteger,
  field "thinkingTokensEstimated" boolean, field "outputTokensEstimated" boolean], by simp [field]⟩

def chatTurnTokenTotalsSchema : Schema := object .strip ⟨[
  field "promptTokens" nonnegativeInteger, field "thinkingTokens" nonnegativeInteger,
  field "outputTokens" nonnegativeInteger, field "toolTokens" nonnegativeInteger,
  field "thinkingTokensEstimatedCount" nonnegativeInteger, field "outputTokensEstimatedCount" nonnegativeInteger],
  by simp [field]⟩

def chatStreamUsageEventSchema : Schema := object .strip ⟨[
  field "turn" nonnegativeInteger, field "maxTurns" positiveInteger, field "record" chatTurnTokenRecordSchema,
  field "totals" chatTurnTokenTotalsSchema, field "charsPerToken" positiveNumber], by simp [field]⟩

/-! ## Operations -/

def approvalModeSchema : Schema := enumOf ["interactive", "auto", "off"]

def chatRecoveryStatusSchema : Schema := enumOf ["ok", "recovery_needed", "recovery_failed"]

def CHAT_RECOVERY_ISSUE_DETAIL_MAX_CHARS : Nat := 200

end SiftKit.Chat
