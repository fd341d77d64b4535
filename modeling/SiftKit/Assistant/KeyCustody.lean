import SiftKit.Foundation.Failure
import SiftKit.Foundation.OrderedMap
import SiftKit.Foundation.Tables

/-! # Custody of the evidence keys

`KeyCustodyService` of `assistant/crypto/key-custody.ts`, with the key file of `key-provider.ts` and
the keys in memory of `imported-key-provider.ts`.  The key file and the custody setting are durable,
the imported keys are not; a call is the sequence of disks that its durable writes leave behind, and
how it ended.
-/

namespace SiftKit.Assistant

open SiftKit.Failure SiftKit.Tables

/-! ## Keys and blobs -/

abbrev Bytes := List UInt8

/-- The cipher, the encoding of key bytes and the digest, as the platform computes them. -/
structure EvidenceCrypto (Envelope Digest : Type) where
  /-- `Buffer.from(encoded, 'base64')`. -/
  decodeBase64 : String → Bytes
  /-- The key id in the header of a well-formed envelope. -/
  headerKeyId : Envelope → Option String
  /-- Plaintext under a key, unless the authentication or the plaintext hash fails. -/
  decipher : Bytes → Envelope → Option Bytes
  /-- An envelope under a key id and key. -/
  encrypt : String → Bytes → Bytes → Envelope
  hashBytes : Bytes → Digest

/-- `KeyFile` and `KeyMaterialDto`: key ids with their encoded keys, one of them active. -/
structure KeyMaterial where
  activeKeyId : String
  keys : OrderedMap String String

inductive KeyCustody where
  | file
  | desktop
  deriving DecidableEq

/-- A stored blob that is not deleted, with its envelope file if that is readable. -/
structure StoredBlob (Envelope Digest : Type) where
  id : String
  contentHash : Digest
  createdAtUtc : Int
  envelope : Option Envelope

/-- What survives the process: the custody setting and the key file. -/
structure CustodyDisk where
  custody : KeyCustody
  keyFile : Option KeyMaterial

section

variable {Envelope Digest : Type} [DecidableEq Digest] (crypto : EvidenceCrypto Envelope Digest)

def KEY_BYTE_LENGTH : Nat := 32

/-- `BlobCipher.decrypt` with the keys that a provider gives. -/
def decrypt (getKeyById : String → Option Bytes) (envelope : Envelope) : Option Bytes := do
  let keyId ← crypto.headerKeyId envelope
  let material ← getKeyById keyId
  crypto.decipher material envelope

/-- `FileKeyProvider.getKeyById`: none when the key is not available or has the wrong length. -/
def fileKeyById (keyFile : Option KeyMaterial) (keyId : String) : Option Bytes := do
  let file ← keyFile
  let encoded ← file.keys.get? keyId
  let material := crypto.decodeBase64 encoded
  if material.length = KEY_BYTE_LENGTH then some material else none

/-! ## Imported keys -/

structure ImportedKeys where
  activeKeyId : String
  byId : List (String × Bytes)

def importWrongLength (keyId : String) : Thrown := .error s!"Imported evidence key {keyId} has the wrong length."

def importOmitsActive (keyId : String) : Thrown := .error s!"Imported key material omits its active key {keyId}."

/-- `ImportedKeyProvider.import`. -/
def importKeys (material : KeyMaterial) : Except Thrown ImportedKeys := do
  let byId ← material.keys.entries.mapM fun entry => do
    throwWhen (decide ((crypto.decodeBase64 entry.2).length ≠ KEY_BYTE_LENGTH)) (importWrongLength entry.1)
    return (entry.1, crypto.decodeBase64 entry.2)
  throwWhen (!material.keys.has material.activeKeyId) (importOmitsActive material.activeKeyId)
  return ⟨material.activeKeyId, byId⟩

/-- `ImportedKeyProvider.getKeyById`. -/
def importedKeyById (imported : Option ImportedKeys) (keyId : String) : Option Bytes := do
  let keys ← imported
  keys.byId.lookup keyId

/-- `CustodyDelegatingKeyProvider.getKeyById`. -/
def custodyKeyById (disk : CustodyDisk) (imported : Option ImportedKeys) : String → Option Bytes :=
  match disk.custody with
  | .desktop => importedKeyById imported
  | .file => fileKeyById crypto disk.keyFile

/-! ## Verification -/

/-- `ORDER BY created_at_utc DESC, id DESC`. -/
def isNewerBlob (left right : StoredBlob Envelope Digest) : Bool :=
  if left.createdAtUtc ≠ right.createdAtUtc then decide (right.createdAtUtc < left.createdAtUtc)
  else decide (right.id < left.id)

def findLatestBlob (blobs : List (StoredBlob Envelope Digest)) : Option (StoredBlob Envelope Digest) :=
  firstBy isNewerBlob blobs

def roundTripFailed : Thrown := .error "Imported evidence keys failed the cipher round trip."

def cannotDecrypt : Thrown := .error "Evidence envelope failed authentication; the blob has been tampered with."

def wrongContent (blobId : String) : Thrown :=
  .error s!"Imported evidence keys decrypt blob {blobId} to the wrong content."

/-- What `cipher.decrypt` gives, or the error that it throws. -/
def orCannotDecrypt : Option Bytes → Except Thrown Bytes
  | some plaintext => .ok plaintext
  | none => .error cannotDecrypt

/-- `verifyDecrypts`, with the random sample of the round trip. -/
def verifyDecrypts (blobs : List (StoredBlob Envelope Digest)) (sample : Bytes) (material : KeyMaterial) :
    Except Thrown ImportedKeys := do
  let candidate ← importKeys crypto material
  match findLatestBlob blobs with
  | none =>
    let active ← orCannotDecrypt (importedKeyById (some candidate) candidate.activeKeyId)
    let opened ← orCannotDecrypt
      (decrypt crypto (importedKeyById (some candidate)) (crypto.encrypt candidate.activeKeyId active sample))
    throwWhen (opened != sample) roundTripFailed
    return candidate
  | some blob =>
    let opened ← orCannotDecrypt (blob.envelope.bind (decrypt crypto (importedKeyById (some candidate))))
    throwWhen (crypto.hashBytes opened != blob.contentHash) (wrongContent blob.id)
    return candidate

end

/-! ## Calls -/

structure KeyCustodyState where
  custody : KeyCustody
  imported : Bool
  activeKeyId : Option String
  deriving DecidableEq

/-- A call: the disks that its durable writes left, in their order, how it ended, and the keys in memory then. -/
structure CustodyCall where
  writes : List CustodyDisk
  result : Except Thrown KeyCustodyState
  memory : Option ImportedKeys

/-- What a call finds: the disk, the keys in memory, and what it draws from outside. -/
structure CustodyScene where
  disk : CustodyDisk
  imported : Option ImportedKeys
  /-- The first key set, should the key file have to be made. -/
  generated : KeyMaterial
  sample : Bytes
  /-- Whether the config store persists the flip, or throws. -/
  persists : Bool

def notUnderFileCustody : Thrown := .error "Key custody migration is only available under file custody."

def idsDoNotMatch : Thrown := .error "Imported key ids do not match the evidence key file."

def notPersisted : Thrown := .error "The assistant config could not be written."

/-- `Object.keys(material.keys).sort()`. -/
def sortedKeyIds (material : KeyMaterial) : List String := material.keys.keys.insertionSort (· ≤ ·)

/-- The guard of the migration: the same active key and the same ids. -/
def idsMatch (file material : KeyMaterial) : Bool :=
  material.activeKeyId == file.activeKeyId && sortedKeyIds file == sortedKeyIds material

section

variable {Envelope Digest : Type} [DecidableEq Digest] (crypto : EvidenceCrypto Envelope Digest)
  (blobs : List (StoredBlob Envelope Digest))

/-- `ensureKeyFile`: the key file, and the disk that making it left. -/
def CustodyScene.ensureKeyFile (scene : CustodyScene) : KeyMaterial × List CustodyDisk :=
  match scene.disk.keyFile with
  | some file => (file, [])
  | none => (scene.generated, [⟨scene.disk.custody, some scene.generated⟩])

/-- `status()` after a call that ended under desktop custody. -/
def desktopStatus (keys : ImportedKeys) : KeyCustodyState := ⟨.desktop, true, some keys.activeKeyId⟩

/-- `finalizeMigration`: the import, then `deleteKeyFile`, then `writeCustody('desktop')`. -/
def finalizeMigration (scene : CustodyScene) (material : KeyMaterial) : CustodyCall :=
  if scene.disk.custody ≠ .file then ⟨[], .error notUnderFileCustody, scene.imported⟩
  else
    let (file, made) := scene.ensureKeyFile
    if !idsMatch file material then ⟨made, .error idsDoNotMatch, scene.imported⟩
    else
      match verifyDecrypts crypto blobs scene.sample material with
      | .error failure => ⟨made, .error failure, scene.imported⟩
      | .ok keys =>
        let deleted : CustodyDisk := ⟨.file, none⟩
        if scene.persists then ⟨made ++ [deleted, ⟨.desktop, none⟩], .ok (desktopStatus keys), some keys⟩
        else ⟨made ++ [deleted], .error notPersisted, some keys⟩

def importFromShell (scene : CustodyScene) (material : KeyMaterial) : CustodyCall :=
  if scene.disk.custody = .file then finalizeMigration crypto blobs scene material
  else
    match verifyDecrypts crypto blobs scene.sample material with
    | .error failure => ⟨[], .error failure, scene.imported⟩
    | .ok keys => ⟨[], .ok (desktopStatus keys), some keys⟩

/-- The two calls that the claim of a shell reaches. -/
inductive CustodyEntry where
  | importFromShell
  | finalizeMigration
  deriving DecidableEq

def CustodyEntry.perform (entry : CustodyEntry) (scene : CustodyScene) (material : KeyMaterial) : CustodyCall :=
  match entry with
  | .importFromShell => Assistant.importFromShell crypto blobs scene material
  | .finalizeMigration => Assistant.finalizeMigration crypto blobs scene material

end

/-! ## The contract -/

section

variable {Envelope Digest : Type} [DecidableEq Digest] (crypto : EvidenceCrypto Envelope Digest)
  (blobs : List (StoredBlob Envelope Digest))

def StoredBlob.Opens (blob : StoredBlob Envelope Digest) (getKeyById : String → Option Bytes) : Prop :=
  ((blob.envelope.bind (decrypt crypto getKeyById)).isSome) = true

/-- What opens blobs when nothing but the disk and the shell's material is left. -/
def keyByIdAfterStop (disk : CustodyDisk) (material : KeyMaterial) : String → Option Bytes :=
  match disk.custody with
  | .file => fileKeyById crypto disk.keyFile
  | .desktop => fileKeyById crypto (some material)

def CustodyCall.lastDisk (call : CustodyCall) (scene : CustodyScene) : CustodyDisk :=
  call.writes.getLast?.getD scene.disk

/-- A key file goes only from a disk whose custody is the desktop's, and only for material that equals its keys. -/
def RemovesRightly (material : KeyMaterial) (disk next : CustodyDisk) : Prop :=
  ∀ file, disk.keyFile = some file → next.keyFile = none →
    disk.custody = .desktop ∧ material.activeKeyId = file.activeKeyId ∧
      ∀ keyId, fileKeyById crypto (some material) keyId = fileKeyById crypto (some file) keyId

/-- No blob that was readable before the call is lost by it. -/
structure CustodySafe (scene : CustodyScene) (material : KeyMaterial) (call : CustodyCall) : Prop where
  /-- A stop after any of the durable writes. -/
  stops : ∀ blob ∈ blobs, blob.Opens crypto (custodyKeyById crypto scene.disk scene.imported) →
    ∀ disk ∈ call.writes, blob.Opens crypto (keyByIdAfterStop crypto disk material)
  returns : ∀ blob ∈ blobs, blob.Opens crypto (custodyKeyById crypto scene.disk scene.imported) →
    ∀ state, call.result = .ok state → blob.Opens crypto (keyByIdAfterStop crypto (call.lastDisk scene) material)
  /-- A call that threw left the keys where they were: in the key file, with the shell, or in memory. -/
  throws : ∀ blob ∈ blobs, blob.Opens crypto (custodyKeyById crypto scene.disk scene.imported) →
    ∀ failure, call.result = .error failure →
      blob.Opens crypto (fileKeyById crypto (call.lastDisk scene).keyFile) ∨
        ((call.lastDisk scene).custody = .desktop ∧
          (blob.Opens crypto (fileKeyById crypto (some material)) ∨ blob.Opens crypto (importedKeyById call.memory)))
  removal : List.IsChain (RemovesRightly crypto material) (scene.disk :: call.writes)

/-- The guards of the migration pass: the ids match those of the key file, and the newest blob opens. -/
def Migrates (scene : CustodyScene) (material : KeyMaterial) : Prop :=
  idsMatch scene.ensureKeyFile.1 material = true ∧
    ∃ keys, verifyDecrypts crypto blobs scene.sample material = .ok keys

/-- When the shell's material is refused, or has every key that the blobs need. -/
def OffersEnough (entry : CustodyEntry) (scene : CustodyScene) (material : KeyMaterial) : Prop :=
  match scene.disk.custody with
  | .file => ¬ Migrates crypto blobs scene material
  | .desktop => entry = .importFromShell → ∀ keys, verifyDecrypts crypto blobs scene.sample material = .ok keys →
      ∀ blob ∈ blobs, blob.Opens crypto (importedKeyById scene.imported) →
        blob.Opens crypto (fileKeyById crypto (some material))

/-! ### What each entry does -/

variable {crypto blobs}

omit [DecidableEq Digest] in
theorem not_opens_without_keyFile (blob : StoredBlob Envelope Digest) : ¬ blob.Opens crypto (fileKeyById crypto none) := by
  intro opens
  unfold StoredBlob.Opens at opens
  cases stored : blob.envelope with
  | none =>
    rw [stored] at opens
    cases opens
  | some envelope =>
    rw [stored] at opens
    unfold decrypt at opens
    cases header : crypto.headerKeyId envelope with
    | none => simp [header] at opens
    | some keyId => simp [fileKeyById] at opens

variable {scene : CustodyScene} {material : KeyMaterial}

/-- A migration whose guards do not pass has made a missing key file, and nothing else. -/
theorem finalizeMigration_refused (custody : scene.disk.custody = .file)
    (refused : ¬ Migrates crypto blobs scene material) :
    ∃ failure, finalizeMigration crypto blobs scene material = ⟨scene.ensureKeyFile.2, .error failure, scene.imported⟩ := by
  unfold finalizeMigration
  rw [if_neg (not_not_intro custody)]
  dsimp only
  split
  · exact ⟨_, rfl⟩
  next matched =>
    split
    next failure _ => exact ⟨failure, rfl⟩
    next keys verified =>
      exact absurd ⟨by simpa using matched, keys, verified⟩ refused

/-- A migration whose guards pass deletes the key file while the custody is still the file's. -/
theorem finalizeMigration_migrates (custody : scene.disk.custody = .file)
    (migrates : Migrates crypto blobs scene material) :
    ∃ later, (finalizeMigration crypto blobs scene material).writes = scene.ensureKeyFile.2 ++ ⟨.file, none⟩ :: later := by
  obtain ⟨matched, keys, verified⟩ := migrates
  unfold finalizeMigration
  rw [if_neg (not_not_intro custody)]
  simp only [matched, verified, Bool.not_true, Bool.false_eq_true, if_false]
  split
  · exact ⟨[⟨.desktop, none⟩], rfl⟩
  · exact ⟨[], rfl⟩

theorem perform_of_file (entry : CustodyEntry) (material : KeyMaterial) (custody : scene.disk.custody = .file) :
    entry.perform crypto blobs scene material = finalizeMigration crypto blobs scene material := by
  cases entry with
  | importFromShell => exact if_pos custody
  | finalizeMigration => rfl

omit [DecidableEq Digest] in
/-- The disk before the deletion holds the key file, made or found. -/
theorem not_removesRightly_from_file (custody : scene.disk.custody = .file) (later : List CustodyDisk) :
    ¬ List.IsChain (RemovesRightly crypto material) (scene.disk :: (scene.ensureKeyFile.2 ++ ⟨.file, none⟩ :: later)) := by
  intro chain
  unfold CustodyScene.ensureKeyFile at chain
  cases stored : scene.disk.keyFile with
  | some file =>
    rw [stored] at chain
    have removed := (List.isChain_cons_cons.mp chain).1 file stored rfl
    rw [custody] at removed
    cases removed.1
  | none =>
    rw [stored] at chain
    have removed := (List.isChain_cons_cons.mp (List.isChain_cons_cons.mp chain).2).1 scene.generated rfl rfl
    rw [custody] at removed
    cases removed.1

/-! ### When no key is lost -/

omit [DecidableEq Digest] in
/-- A call that writes at most a missing key file, throws, and leaves the memory alone. -/
theorem custodySafe_of_refused (custody : scene.disk.custody = .file) (failure : Thrown) :
    CustodySafe crypto blobs scene material ⟨scene.ensureKeyFile.2, .error failure, scene.imported⟩ := by
  have lookups : custodyKeyById crypto scene.disk scene.imported = fileKeyById crypto scene.disk.keyFile := by
    rw [custodyKeyById, custody]
  cases stored : scene.disk.keyFile with
  | none =>
    -- nothing was readable, so nothing can be lost
    have unreadable : ∀ blob : StoredBlob Envelope Digest,
        ¬ blob.Opens crypto (custodyKeyById crypto scene.disk scene.imported) := by
      intro blob
      rw [lookups, stored]
      exact not_opens_without_keyFile blob
    refine ⟨fun blob _ opens => absurd opens (unreadable blob), fun blob _ opens => absurd opens (unreadable blob),
      fun blob _ opens => absurd opens (unreadable blob), ?_⟩
    rw [CustodyScene.ensureKeyFile, stored]
    refine List.isChain_cons_cons.mpr ⟨?_, List.IsChain.singleton _⟩
    intro file found
    rw [stored] at found
    cases found
  | some file =>
    rw [CustodyScene.ensureKeyFile, stored]
    refine ⟨fun _ _ _ disk member => absurd member List.not_mem_nil, (fun _ _ _ state returned => nomatch returned), ?_,
      List.IsChain.singleton _⟩
    intro blob _ opens _ _
    rw [lookups] at opens
    exact Or.inl opens

omit [DecidableEq Digest] in
/-- A call under desktop custody writes nothing; what it throws leaves the keys in memory. -/
theorem custodySafe_of_desktop (custody : scene.disk.custody = .desktop) (failure : Thrown) :
    CustodySafe crypto blobs scene material ⟨[], .error failure, scene.imported⟩ := by
  refine ⟨fun _ _ _ disk member => absurd member List.not_mem_nil, (fun _ _ _ state returned => nomatch returned), ?_,
    List.IsChain.singleton _⟩
  intro blob _ opens _ _
  rw [custodyKeyById, custody] at opens
  exact Or.inr ⟨custody, Or.inr opens⟩

theorem importFromShell_desktop {keys : ImportedKeys} (custody : scene.disk.custody = .desktop)
    (verified : verifyDecrypts crypto blobs scene.sample material = .ok keys) :
    importFromShell crypto blobs scene material = ⟨[], .ok (desktopStatus keys), some keys⟩ := by
  rw [importFromShell, if_neg (by rw [custody]; exact nofun), verified]

theorem importFromShell_desktop_refused {failure : Thrown} (custody : scene.disk.custody = .desktop)
    (refused : verifyDecrypts crypto blobs scene.sample material = .error failure) :
    importFromShell crypto blobs scene material = ⟨[], .error failure, scene.imported⟩ := by
  rw [importFromShell, if_neg (by rw [custody]; exact nofun), refused]

variable (crypto blobs)

/-- No key is lost exactly when a migration is refused before it begins, or the material that the
shell offers again opens all that the material in memory did. -/
theorem custodySafe_iff (entry : CustodyEntry) (scene : CustodyScene) (material : KeyMaterial) :
    CustodySafe crypto blobs scene material (entry.perform crypto blobs scene material) ↔
      OffersEnough crypto blobs entry scene material := by
  unfold OffersEnough
  cases custody : scene.disk.custody with
  | file =>
    rw [perform_of_file entry material custody]
    constructor
    · intro safe migrates
      obtain ⟨later, writes⟩ := finalizeMigration_migrates custody migrates
      have removal := safe.removal
      rw [writes] at removal
      exact not_removesRightly_from_file custody later removal
    · intro refused
      obtain ⟨failure, call⟩ := finalizeMigration_refused custody refused
      rw [call]
      exact custodySafe_of_refused custody failure
  | desktop =>
    have lookups : custodyKeyById crypto scene.disk scene.imported = importedKeyById scene.imported := by
      rw [custodyKeyById, custody]
    cases entry with
    | finalizeMigration =>
      constructor
      · exact fun _ isImport => nomatch isImport
      · intro _
        rw [CustodyEntry.perform, finalizeMigration, if_pos (by rw [custody]; exact nofun)]
        exact custodySafe_of_desktop custody _
    | importFromShell =>
      rw [CustodyEntry.perform]
      constructor
      · intro safe _ keys verified blob member opens
        have returned := safe.returns blob member (by rw [lookups]; exact opens) (desktopStatus keys)
        rw [importFromShell_desktop custody verified] at returned
        have after := returned rfl
        rw [CustodyCall.lastDisk, List.getLast?_nil, Option.getD_none, keyByIdAfterStop, custody] at after
        exact after
      · intro enough
        cases verified : verifyDecrypts crypto blobs scene.sample material with
        | error failure =>
          rw [importFromShell_desktop_refused custody verified]
          exact custodySafe_of_desktop custody failure
        | ok keys =>
          rw [importFromShell_desktop custody verified]
          refine ⟨fun _ _ _ disk member => absurd member List.not_mem_nil, ?_,
            (fun _ _ _ failure threw => nomatch threw), List.IsChain.singleton _⟩
          intro blob member opens _ _
          rw [CustodyCall.lastDisk, List.getLast?_nil, Option.getD_none, keyByIdAfterStop, custody]
          rw [lookups] at opens
          exact enough rfl keys verified blob member opens

end

/-! ### A stop between the two writes -/

/-- A key of 32 bytes and its encoding. -/
def sampleKey : Bytes := List.replicate 32 1

def sampleEncodedKey : String := "AQEBAQEBAQEBAQEBAQEBAQEBAQEBAQEBAQEBAQEBAQE="

/-- An envelope is its key id, its key and its plaintext; a digest is what it digests. -/
def sampleCrypto : EvidenceCrypto (String × Bytes × Bytes) Bytes where
  decodeBase64 encoded := if encoded = sampleEncodedKey then sampleKey else []
  headerKeyId envelope := some envelope.1
  decipher material envelope := if material = envelope.2.1 then some envelope.2.2 else none
  encrypt keyId material plaintext := (keyId, material, plaintext)
  hashBytes plaintext := plaintext

def sampleMaterial : KeyMaterial := ⟨"k1", ⟨[("k1", sampleEncodedKey)], List.nodup_singleton _⟩⟩

def sampleBlob : StoredBlob (String × Bytes × Bytes) Bytes := ⟨"blob_1", [104, 105], 0, some ("k1", sampleKey, [104, 105])⟩

def sampleScene : CustodyScene := ⟨⟨.file, some sampleMaterial⟩, none, sampleMaterial, [], true⟩

/-- The material is the key file's own, the blob opens with it, and the process stops after the key
file is deleted: the custody is still the file's, and no key is left. -/
theorem stop_after_deletion_loses_blob :
    ¬ ∀ entry scene material, CustodySafe sampleCrypto [sampleBlob] scene material
      (CustodyEntry.perform sampleCrypto [sampleBlob] entry scene material) := by
  intro safe
  have migrates : Migrates sampleCrypto [sampleBlob] sampleScene sampleMaterial :=
    ⟨by decide +kernel, ⟨"k1", [("k1", sampleKey)]⟩, rfl⟩
  obtain ⟨later, writes⟩ := finalizeMigration_migrates rfl migrates
  have kept := (safe .finalizeMigration sampleScene sampleMaterial).stops sampleBlob List.mem_cons_self rfl
    ⟨.file, none⟩ (by rw [CustodyEntry.perform, writes]; exact List.mem_append_right _ List.mem_cons_self)
  exact not_opens_without_keyFile sampleBlob kept

end SiftKit.Assistant
