import SiftKit.Assistant.KeyCustody
import SiftKit.Foundation.Base64
import SiftKit.Foundation.Schema
import SiftKit.Json.Literals
import SiftKit.Json.WellFormedText

/-! # Signed previews

The tokens of `assistant/control/deletion-preview.ts` for a cleanup of the graph: a payload as JSON in base64url, and
its signature behind a dot.
-/

namespace SiftKit.Assistant.Cleanup

open SiftKit.Failure SiftKit.Json

/-! ## Texts of bytes -/

def BASE64URL_LETTERS : JsString := utf16 "ABCDEFGHIJKLMNOPQRSTUVWXYZabcdefghijklmnopqrstuvwxyz0123456789-_"

/-- `bytes.toString('base64url')`. -/
def toBase64url (bytes : Bytes) : JsString := (Base64.sextets bytes).map fun sextet => BASE64URL_LETTERS.getD sextet 0

/-- The value of a letter in either alphabet. -/
def letterValue (unit : CodeUnit) : Option Nat :=
  if unit = 0x2B then some 62
  else if unit = 0x2F then some 63
  else if BASE64URL_LETTERS.contains unit then some (BASE64URL_LETTERS.idxOf unit)
  else none

/-- `Buffer.from(text, 'base64url')`: what is no letter is passed over, and the padding ends the text. -/
def fromBase64url (text : JsString) : Bytes :=
  Base64.octets ((text.takeWhile fun unit => unit != 0x3D).filterMap letterValue)

/-! ## Payloads -/

structure GraphCleanupCounts where
  orphanNodes : Nat
  resumableCaptures : Nat
  discardableCaptures : Nat
  reclassifiableEvidence : Nat
  reclassifiableAssertions : Nat
deriving DecidableEq

structure GraphCleanupPayload where
  ownerId : JsString
  graphVersion : Nat
  counts : GraphCleanupCounts
deriving DecidableEq

def GraphCleanupCounts.toJson (counts : GraphCleanupCounts) : JsValue :=
  .literal
    [("orphanNodes", .ofNat counts.orphanNodes), ("resumableCaptures", .ofNat counts.resumableCaptures),
      ("discardableCaptures", .ofNat counts.discardableCaptures),
      ("reclassifiableEvidence", .ofNat counts.reclassifiableEvidence),
      ("reclassifiableAssertions", .ofNat counts.reclassifiableAssertions)]

def GraphCleanupPayload.toJson (payload : GraphCleanupPayload) : JsValue :=
  .literal
    [("ownerId", .string payload.ownerId), ("operation", .string (utf16 "graph_cleanup")),
      ("graphVersion", .ofNat payload.graphVersion), ("counts", payload.counts.toJson)]

/-- `z.number().int().min(0)`. -/
def parseCount : JsValue → Option Nat
  | .number value => value.natural.bind SiftKit.Schema.nonnegativeInt
  | _ => none

/-- `GraphCleanupCountsSchema`. -/
def parseCounts : JsValue → Option GraphCleanupCounts
  | .object properties =>
    if (keysOf properties).all
        [utf16 "orphanNodes", utf16 "resumableCaptures", utf16 "discardableCaptures", utf16 "reclassifiableEvidence",
          utf16 "reclassifiableAssertions"].contains then do
      let orphanNodes ← parseCount (property properties (utf16 "orphanNodes"))
      let resumableCaptures ← parseCount (property properties (utf16 "resumableCaptures"))
      let discardableCaptures ← parseCount (property properties (utf16 "discardableCaptures"))
      let reclassifiableEvidence ← parseCount (property properties (utf16 "reclassifiableEvidence"))
      let reclassifiableAssertions ← parseCount (property properties (utf16 "reclassifiableAssertions"))
      return { orphanNodes, resumableCaptures, discardableCaptures, reclassifiableEvidence, reclassifiableAssertions }
    else none
  | _ => none

/-- `GraphCleanupPayloadSchema`, which is no payload of another operation. -/
def parsePayload (value : JsValue) : Option GraphCleanupPayload :=
  match value.get (utf16 "ownerId"), value.get (utf16 "operation") with
  | .string ownerId, .string operation =>
    if operation = utf16 "graph_cleanup" then do
      let graphVersion ← parseCount (value.get (utf16 "graphVersion"))
      let counts ← parseCounts (value.get (utf16 "counts"))
      return { ownerId, graphVersion, counts }
    else none
  | _, _ => none

/-! ## Tokens -/

section

variable (hmac : Bytes → JsString → Bytes)

/-- `createHmac('sha256', secret).update(encoded).digest('base64url')`. -/
def signature (secret : Bytes) (encoded : JsString) : JsString := toBase64url (hmac secret encoded)

def encoded (payload : GraphCleanupPayload) : JsString := toBase64url (encodeUtf8 (stringify payload.toJson))

def sign (secret : Bytes) (payload : GraphCleanupPayload) : JsString :=
  encoded payload ++ 0x2E :: signature hmac secret (encoded payload)

def invalidToken : Thrown := .error "Invalid deletion preview token."

def invalidSignature : Thrown := .error "Invalid deletion preview token signature."

def invalidPayload : Thrown := .error "Invalid deletion preview token payload."

/-- `parseJsonText(text, PreviewPayloadSchema)`. -/
def parsePayloadText (text : JsString) : Option GraphCleanupPayload :=
  (parse (if text.head? = some 0xFEFF then text.tail else text)).bind parsePayload

/-- A token of a cleanup is what is signed here. -/
def verify (secret : Bytes) (token : JsString) : Except Thrown GraphCleanupPayload :=
  match token.splitOn 0x2E with
  | [encoded, suppliedSignature] =>
    let suppliedBytes := fromBase64url suppliedSignature
    let expectedBytes := fromBase64url (signature hmac secret encoded)
    if suppliedBytes.length ≠ expectedBytes.length ∨ toBase64url suppliedBytes ≠ suppliedSignature ∨
        suppliedBytes ≠ expectedBytes then .error invalidSignature
    else (parsePayloadText (decodeUtf8 (fromBase64url encoded))).elim (.error invalidPayload) .ok
  | _ => .error invalidToken

end

/-! ## What a token holds -/

theorem letterValue_letter : ∀ sextet < 64, letterValue (BASE64URL_LETTERS.getD sextet 0) = some sextet ∧
    BASE64URL_LETTERS.getD sextet 0 ≠ 0x3D ∧ BASE64URL_LETTERS.getD sextet 0 ≠ 0x2E := by
  decide +kernel

theorem fromBase64url_toBase64url (bytes : Bytes) : fromBase64url (toBase64url bytes) = bytes := by
  have noPadding : (toBase64url bytes).takeWhile (fun unit => unit != 0x3D) = toBase64url bytes := by
    apply List.takeWhile_eq_self_iff.mpr
    intro unit member
    obtain ⟨sextet, isSextet, rfl⟩ := List.mem_map.mp member
    simpa using (letterValue_letter sextet (Base64.sextets_lt isSextet)).2.1
  have letters : (toBase64url bytes).filterMap letterValue = Base64.sextets bytes := by
    rw [toBase64url, List.filterMap_map]
    have each : ∀ sextet ∈ Base64.sextets bytes,
        (letterValue ∘ fun sextet => BASE64URL_LETTERS.getD sextet 0) sextet = some sextet :=
      fun sextet member => (letterValue_letter sextet (Base64.sextets_lt member)).1
    rw [List.filterMap_congr each, List.filterMap_some]
  rw [fromBase64url, noPadding, letters, Base64.octets_sextets]

theorem no_dot (bytes : Bytes) : 0x2E ∉ toBase64url bytes := by
  intro member
  obtain ⟨sextet, isSextet, isDot⟩ := List.mem_map.mp member
  exact (letterValue_letter sextet (Base64.sextets_lt isSextet)).2.2 isDot

theorem splitOn_sign (hmac : Bytes → JsString → Bytes) (secret : Bytes) (payload : GraphCleanupPayload) :
    (sign hmac secret payload).splitOn 0x2E = [encoded payload, signature hmac secret (encoded payload)] := by
  have parts : ([0x2E].intercalate [encoded payload, signature hmac secret (encoded payload)]).splitOn 0x2E =
      [encoded payload, signature hmac secret (encoded payload)] :=
    List.splitOn_intercalate 0x2E (by simp [encoded, signature, no_dot]) (by simp)
  simpa [sign, List.intercalate] using parts

theorem parse_toJson (payload : GraphCleanupPayload) : parse (stringify payload.toJson) = some payload.toJson := by
  have counts : Proper payload.counts.toJson := by
    apply proper_literal
    · simp
    · simp only [List.forall_mem_cons, List.not_mem_nil, false_implies, implies_true, and_true]
      exact ⟨.number _, .number _, .number _, .number _, .number _⟩
  have proper : Proper payload.toJson := by
    apply proper_literal
    · simp
    · simp only [List.forall_mem_cons, List.not_mem_nil, false_implies, implies_true, and_true]
      exact ⟨.string _, .string _, .number _, counts⟩
  rw [parse_stringify proper]
  rfl

theorem parseCount_ofNat (number : Nat) : parseCount (.ofNat number) = SiftKit.Schema.nonnegativeInt number := by
  simp [parseCount, JsValue.ofNat]

/-- Numbers that a schema takes for integers. -/
def GraphCleanupCounts.Safe (counts : GraphCleanupCounts) : Prop :=
  ∀ number ∈ [counts.orphanNodes, counts.resumableCaptures, counts.discardableCaptures, counts.reclassifiableEvidence,
    counts.reclassifiableAssertions], number ≤ SiftKit.Schema.maxSafeInteger

theorem parseCounts_toJson {counts parsed : GraphCleanupCounts} :
    parseCounts counts.toJson = some parsed ↔ counts.Safe ∧ parsed = counts := by
  have known : (keysOf (literalProperties
      [("orphanNodes", JsValue.ofNat counts.orphanNodes), ("resumableCaptures", .ofNat counts.resumableCaptures),
        ("discardableCaptures", .ofNat counts.discardableCaptures),
        ("reclassifiableEvidence", .ofNat counts.reclassifiableEvidence),
        ("reclassifiableAssertions", .ofNat counts.reclassifiableAssertions)])).all
      [utf16 "orphanNodes", utf16 "resumableCaptures", utf16 "discardableCaptures", utf16 "reclassifiableEvidence",
        utf16 "reclassifiableAssertions"].contains = true := by
    simp only [keysOf_literal, List.map_cons, List.map_nil]
    decide +kernel
  rw [GraphCleanupCounts.toJson, JsValue.literal, parseCounts, if_pos known]
  simp [List.lookup_cons, parseCount_ofNat, Option.bind_eq_some_iff, GraphCleanupCounts.Safe, and_assoc,
    @eq_comm _ parsed]

theorem parsePayload_toJson {payload parsed : GraphCleanupPayload} :
    parsePayload payload.toJson = some parsed ↔
      (payload.graphVersion ≤ SiftKit.Schema.maxSafeInteger ∧ payload.counts.Safe) ∧ parsed = payload := by
  rw [GraphCleanupPayload.toJson, parsePayload]
  simp [List.lookup_cons, parseCount_ofNat, parseCounts_toJson, Option.bind_eq_some_iff, and_assoc, @eq_comm _ parsed]

/-- A payload that is signed comes back from its token, if it comes back at all. -/
theorem verify_sign_iff {hmac : Bytes → JsString → Bytes} {secret other : Bytes} {payload parsed : GraphCleanupPayload} :
    verify hmac other (sign hmac secret payload) = .ok parsed ↔
      hmac secret (encoded payload) = hmac other (encoded payload) ∧
        (payload.graphVersion ≤ SiftKit.Schema.maxSafeInteger ∧ payload.counts.Safe) ∧ parsed = payload := by
  have noMark : ¬(stringify payload.toJson).head? = some 0xFEFF := by
    have brace : (stringify payload.toJson).head? = some 0x7B := rfl
    rw [brace]
    decide
  have parsedText : parsePayloadText (decodeUtf8 (fromBase64url (encoded payload))) = parsePayload payload.toJson := by
    rw [encoded, fromBase64url_toBase64url, decodeUtf8_encodeUtf8_stringify, parsePayloadText, if_neg noMark,
      parse_toJson, Option.bind_some]
  rw [verify, splitOn_sign, ← parsePayload_toJson]
  simp only [signature, fromBase64url_toBase64url, parsedText]
  by_cases same : hmac secret (encoded payload) = hmac other (encoded payload)
  · rw [if_neg (by simp [same])]
    cases parses : parsePayload payload.toJson with
    | none => simp
    | some found => simp [same]
  · rw [if_pos (by simp [same])]
    simp [same]

end SiftKit.Assistant.Cleanup
