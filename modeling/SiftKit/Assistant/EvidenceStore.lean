import SiftKit.Assistant.KeyCustody
import SiftKit.Json.Utf8

/-! # The evidence store

`EvidenceStore` of `assistant/storage/evidence-store.ts` with the content hashes of `domain/keys.ts`.
Blobs are shared by the records of an owner with the same content, and by all owners in the file that
is named after the content.  A storage URI is a digest by its type, so no path is ever rejected; an
insert throws where a unique column is taken.
-/

namespace SiftKit.Assistant

open SiftKit.Failure SiftKit.Json SiftKit.Tables

/-! ## The platform -/

/-- Unicode normalization, the digest and the cipher, as the platform computes them. -/
structure EvidencePlatform (Envelope Digest : Type) where
  /-- `text.normalize('NFC')`. -/
  nfc : JsString → JsString
  /-- `hashBytes`. -/
  hashBytes : Bytes → Digest
  /-- An envelope of a plaintext under the active key, with the random bytes that it takes. -/
  encrypt : Bytes → Bytes → Envelope
  /-- The plaintext of an envelope, unless its authentication fails. -/
  decrypt : Envelope → Option Bytes

def carriageReturn : CodeUnit := 0x0D

def lineFeed : CodeUnit := 0x0A

/-- `text.replace(/\r\n/g, '\n')`. -/
def replaceCrLf : JsString → JsString
  | [] => []
  | [unit] => [unit]
  | unit :: next :: rest =>
    if unit = carriageReturn ∧ next = lineFeed then lineFeed :: replaceCrLf rest
    else unit :: replaceCrLf (next :: rest)

/-- `text.replace(/\r/g, '\n')`. -/
def replaceCr (text : JsString) : JsString := text.map fun unit => if unit = carriageReturn then lineFeed else unit

/-! ## Rows -/

structure BlobRow (Digest : Type) where
  id : String
  ownerId : String
  contentHash : Digest
  storageUri : Digest
  deletedAtUtc : Option String
  deriving DecidableEq

inductive EvidenceStatus where
  | active
  | expired
  | quarantined
  | deleted
  deriving DecidableEq

structure EvidenceRow (Digest : Type) where
  id : String
  ownerId : String
  sourceEventId : String
  blobId : Option String
  contentHash : Digest
  mimeType : String
  status : EvidenceStatus
  deriving DecidableEq

/-- The two tables, and the files under the evidence root. -/
structure EvidenceState (Envelope Digest : Type) where
  records : List (EvidenceRow Digest)
  blobs : List (BlobRow Digest)
  files : Digest → Option Envelope

/-- What a recording draws: the ids of its new rows, and the cipher's random bytes. -/
structure EvidenceDraw where
  blobId : String
  evidenceId : String
  random : Bytes

def textPlain : String := "text/plain"

def unknownRecord (evidenceId : String) : Thrown := .error s!"Unknown evidence record: {evidenceId}"

def unknownBlob (blobId : String) : Thrown := .error s!"Unknown evidence blob: {blobId}"

def noContent (evidenceId : String) : Thrown := .error s!"Evidence {evidenceId} has no stored content."

def notText (evidenceId mimeType : String) : Thrown := .error s!"Evidence {evidenceId} is {mimeType}, not text."

def blobDeleted (blobId : String) : Thrown := .error s!"Evidence blob {blobId} has been deleted."

def hashMismatch (blobId : String) : Thrown := .error s!"Evidence blob {blobId} content hash mismatch."

def noSuchFile : Thrown := .error "ENOENT: no such file or directory"

def notUnique (table : String) : Thrown := .error s!"UNIQUE constraint failed: {table}"

section

variable {Envelope Digest : Type} [DecidableEq Digest] (platform : EvidencePlatform Envelope Digest)

omit [DecidableEq Digest] in
/-- Unicode NFC, then line endings. -/
def EvidencePlatform.normalizeText (text : JsString) : JsString := replaceCr (replaceCrLf (platform.nfc text))

omit [DecidableEq Digest] in
def EvidencePlatform.hashTextContent (text : JsString) : Digest :=
  platform.hashBytes (encodeUtf8 (platform.normalizeText text))

/-! ## Queries -/

namespace EvidenceState

variable (state : EvidenceState Envelope Digest)

omit [DecidableEq Digest] in
def getEvidence (evidenceId : String) : Option (EvidenceRow Digest) :=
  state.records.find? fun row => decide (row.id = evidenceId)

omit [DecidableEq Digest] in
def requireEvidence (evidenceId : String) : Except Thrown (EvidenceRow Digest) :=
  match state.getEvidence evidenceId with
  | some row => .ok row
  | none => .error (unknownRecord evidenceId)

omit [DecidableEq Digest] in
def findBySourceEventId (ownerId sourceEventId : String) : Option (EvidenceRow Digest) :=
  state.records.find? fun row => decide (row.ownerId = ownerId ∧ row.sourceEventId = sourceEventId)

omit [DecidableEq Digest] in
def requireBlob (blobId : String) : Except Thrown (BlobRow Digest) :=
  match state.blobs.find? fun row => decide (row.id = blobId) with
  | some row => .ok row
  | none => .error (unknownBlob blobId)

/-- The owner's blob row with a content hash, deleted or not. -/
def findBlob (ownerId : String) (contentHash : Digest) : Option (BlobRow Digest) :=
  state.blobs.find? fun row => decide (row.ownerId = ownerId ∧ row.contentHash = contentHash)

/-- Whether a record has given up its bytes. -/
def isRetired (status : EvidenceStatus) : Bool := status == .deleted || status == .expired

omit [DecidableEq Digest] in
/-- How many records still hold a blob. -/
def remaining (blobId : String) : Nat :=
  state.records.countP fun row => decide (row.blobId = some blobId) && !isRetired row.status

def readBlobBytes (blobId : String) : Except Thrown Bytes := do
  let blob ← state.requireBlob blobId
  throwWhen blob.deletedAtUtc.isSome (blobDeleted blobId)
  match state.files blob.storageUri with
  | none => .error noSuchFile
  | some envelope =>
    match platform.decrypt envelope with
    | none => .error cannotDecrypt
    | some plaintext =>
      throwWhen (decide (platform.hashBytes plaintext ≠ blob.contentHash)) (hashMismatch blobId)
      return plaintext

def readTextContent (evidence : EvidenceRow Digest) : Except Thrown JsString :=
  match evidence.blobId with
  | none => .error (noContent evidence.id)
  | some blobId => do
    throwWhen (evidence.mimeType != textPlain) (notText evidence.id evidence.mimeType)
    let bytes ← state.readBlobBytes platform blobId
    return decodeUtf8 bytes

/-! ## Recording -/

/-- A row of the blob table, unless its id or its owner's content hash is taken. -/
def insertBlob (row : BlobRow Digest) : Except Thrown (EvidenceState Envelope Digest) := do
  throwWhen (state.blobs.any fun other =>
    decide (other.id = row.id ∨ (other.ownerId = row.ownerId ∧ other.contentHash = row.contentHash)))
    (notUnique "evidence_blobs")
  return { state with blobs := state.blobs ++ [row] }

omit [DecidableEq Digest] in
/-- `insertEvidence`: an active record, unless its id or its owner's source event is taken. -/
def insertEvidence (row : EvidenceRow Digest) : Except Thrown (EvidenceState Envelope Digest) := do
  throwWhen (state.records.any fun other =>
    decide (other.id = row.id ∨ (other.ownerId = row.ownerId ∧ other.sourceEventId = row.sourceEventId)))
    (notUnique "evidence_records")
  return { state with records := state.records ++ [row] }

/-- `persistBlob`: the row that is there, also when it is deleted; else a file and a row. -/
def persistBlob (ownerId : String) (contentHash : Digest) (bytes : Bytes) (draw : EvidenceDraw) :
    Except Thrown (BlobRow Digest × EvidenceState Envelope Digest) :=
  match state.findBlob ownerId contentHash with
  | some existing => .ok (existing, state)
  | none => do
    let written := { state with
      files := Function.update state.files contentHash (some (platform.encrypt draw.random bytes)) }
    let row : BlobRow Digest := ⟨draw.blobId, ownerId, contentHash, contentHash, none⟩
    let inserted ← written.insertBlob row
    return (row, inserted)

/-- The common course of `recordTextEvidence` and `recordBlobEvidence`. -/
def recordEvidence (ownerId sourceEventId : String) (contentHash : Digest) (mimeType : String) (bytes : Bytes)
    (draw : EvidenceDraw) : Except Thrown (EvidenceRow Digest × EvidenceState Envelope Digest) :=
  match state.findBySourceEventId ownerId sourceEventId with
  | some existing => .ok (existing, state)
  | none => do
    let (blob, stored) ← state.persistBlob platform ownerId contentHash bytes draw
    let row : EvidenceRow Digest :=
      ⟨draw.evidenceId, ownerId, sourceEventId, some blob.id, contentHash, mimeType, .active⟩
    let inserted ← stored.insertEvidence row
    return (row, inserted)

/-- The text is hashed as normalized and stored as it is. -/
def recordTextEvidence (ownerId sourceEventId : String) (text : JsString) (draw : EvidenceDraw) :
    Except Thrown (EvidenceRow Digest × EvidenceState Envelope Digest) :=
  state.recordEvidence platform ownerId sourceEventId (platform.hashTextContent text) textPlain (encodeUtf8 text) draw

def recordBlobEvidence (ownerId sourceEventId mimeType : String) (bytes : Bytes) (draw : EvidenceDraw) :
    Except Thrown (EvidenceRow Digest × EvidenceState Envelope Digest) :=
  state.recordEvidence platform ownerId sourceEventId (platform.hashBytes bytes) mimeType bytes draw

/-! ## Retiring -/

omit [DecidableEq Digest] in
def setStatus (evidenceId : String) (status : EvidenceStatus) : EvidenceState Envelope Digest :=
  { state with
    records := updateWhere (fun row => decide (row.id = evidenceId)) (fun row => { row with status }) state.records }

/-- Removes a blob's file and marks its row deleted. -/
def purge (blob : BlobRow Digest) (nowUtc : String) : EvidenceState Envelope Digest :=
  { state with
    files := Function.update state.files blob.storageUri none
    blobs := updateWhere (fun row => decide (row.id = blob.id))
      (fun row => { row with deletedAtUtc := some nowUtc }) state.blobs }

/-- Marks a record, and purges its blob when no other record holds it any more. -/
def markAndPurge (evidence : EvidenceRow Digest) (status : EvidenceStatus) (nowUtc : String) :
    Except Thrown (EvidenceState Envelope Digest) :=
  let marked := state.setStatus evidence.id status
  match evidence.blobId with
  | none => .ok marked
  | some blobId =>
    if 0 < marked.remaining blobId then .ok marked
    else do
      let blob ← marked.requireBlob blobId
      return marked.purge blob nowUtc

def retire (evidenceId : String) (status : EvidenceStatus) (nowUtc : String) :
    Except Thrown (EvidenceRow Digest × EvidenceState Envelope Digest) := do
  let evidence ← state.requireEvidence evidenceId
  let after ← state.markAndPurge evidence status nowUtc
  let retired ← after.requireEvidence evidenceId
  return (retired, after)

def deleteEvidence (evidenceId nowUtc : String) : Except Thrown (EvidenceRow Digest × EvidenceState Envelope Digest) :=
  state.retire evidenceId .deleted nowUtc

def expireEvidence (evidenceId nowUtc : String) : Except Thrown (EvidenceRow Digest × EvidenceState Envelope Digest) :=
  state.retire evidenceId .expired nowUtc

end EvidenceState

end

end SiftKit.Assistant
