import SiftKit.Assistant.EvidenceStore
import SiftKit.Foundation.Runs

/-! # Stored evidence stays readable

In a run of recordings, deletions and expiries every active record should give back what was recorded
under it.  It does as long as no text is stored under a hash that is not its own, no recording meets a
deleted blob, and no purge takes a file that another owner's blob needs.
-/

namespace SiftKit.Assistant

open SiftKit.Failure SiftKit.Json SiftKit.Runs SiftKit.Tables EvidenceState

/-! ## Histories -/

/-- What was handed to a recording. -/
inductive EvidenceContent where
  | text (text : JsString)
  | bytes (bytes : Bytes)

/-- A store, and what was recorded under each evidence id. -/
structure EvidenceHistory (Envelope Digest : Type) where
  state : EvidenceState Envelope Digest
  recorded : List (String × EvidenceContent)

inductive EvidenceCall where
  | recordTextEvidence (ownerId sourceEventId : String) (text : JsString) (draw : EvidenceDraw)
  | recordBlobEvidence (ownerId sourceEventId mimeType : String) (bytes : Bytes) (draw : EvidenceDraw)
  | deleteEvidence (evidenceId nowUtc : String)
  | expireEvidence (evidenceId nowUtc : String)

section

variable {Envelope Digest : Type} [DecidableEq Digest] (platform : EvidencePlatform Envelope Digest)

namespace EvidenceHistory

variable (history : EvidenceHistory Envelope Digest)

/-- A recording returned: a new record came with its content, a replay came with none. -/
def afterRecording (ownerId sourceEventId evidenceId : String) (content : EvidenceContent)
    (state : EvidenceState Envelope Digest) : EvidenceHistory Envelope Digest :=
  match history.state.findBySourceEventId ownerId sourceEventId with
  | some _ => ⟨state, history.recorded⟩
  | none => ⟨state, (evidenceId, content) :: history.recorded⟩

/-- A call that succeeds, as a step. -/
def step : EvidenceCall → Option (EvidenceHistory Envelope Digest)
  | .recordTextEvidence ownerId sourceEventId text draw =>
    (history.state.recordTextEvidence platform ownerId sourceEventId text draw).toOption.map fun answer =>
      history.afterRecording ownerId sourceEventId draw.evidenceId (.text text) answer.2
  | .recordBlobEvidence ownerId sourceEventId mimeType bytes draw =>
    (history.state.recordBlobEvidence platform ownerId sourceEventId mimeType bytes draw).toOption.map fun answer =>
      history.afterRecording ownerId sourceEventId draw.evidenceId (.bytes bytes) answer.2
  | .deleteEvidence evidenceId nowUtc =>
    (history.state.deleteEvidence evidenceId nowUtc).toOption.map fun answer => ⟨answer.2, history.recorded⟩
  | .expireEvidence evidenceId nowUtc =>
    (history.state.expireEvidence evidenceId nowUtc).toOption.map fun answer => ⟨answer.2, history.recorded⟩

/-- A record gives back a content: the bytes themselves, a text up to normalization. -/
def ReadsBack (record : EvidenceRow Digest) (blobId : String) : EvidenceContent → Prop
  | .text text => ∃ read, history.state.readTextContent platform record = .ok read ∧
      platform.normalizeText read = platform.normalizeText text
  | .bytes bytes => history.state.readBlobBytes platform blobId = .ok bytes

/-- Every active record refers to a blob that is there, and gives back what was recorded under it. -/
def Readable : Prop :=
  ∀ record ∈ history.state.records, record.status = .active → ∀ blobId, record.blobId = some blobId →
    ∃ blob, history.state.requireBlob blobId = .ok blob ∧ blob.deletedAtUtc = none ∧
      (history.state.files blob.storageUri).isSome ∧
      ∃ content, history.recorded.lookup record.id = some content ∧ history.ReadsBack platform record blobId content

end EvidenceHistory

/-- Nothing recorded. -/
def emptyHistory : EvidenceHistory Envelope Digest := ⟨⟨[], [], fun _ => none⟩, []⟩

/-! ## When a call keeps the contents -/

namespace EvidenceState

variable (state : EvidenceState Envelope Digest)

/-- A text has no lone surrogate, and finds a live blob with its hash, or none and is stored as it is hashed. -/
def StoresText (ownerId : String) (text : JsString) : Prop :=
  WellFormed (platform.normalizeText text) ∧
    match state.findBlob ownerId (platform.hashTextContent text) with
    | some existing => existing.deletedAtUtc = none
    | none => platform.normalizeText text = text

/-- The bytes find no deleted blob. -/
def StoresBytes (ownerId : String) (bytes : Bytes) : Prop :=
  ∀ existing, state.findBlob ownerId (platform.hashBytes bytes) = some existing → existing.deletedAtUtc = none

/-- If a retirement lets the last hold on a blob go, no other live blob needs its file. -/
def PurgesAlone (evidenceId : String) (status : EvidenceStatus) : Prop :=
  ∀ evidence blobId blob, state.getEvidence evidenceId = some evidence → evidence.blobId = some blobId →
    (state.setStatus evidenceId status).remaining blobId = 0 → state.requireBlob blobId = .ok blob →
    ∀ other ∈ state.blobs, other.id ≠ blobId → other.deletedAtUtc = none → other.storageUri ≠ blob.storageUri

/-- A replay changes nothing; every other call has its condition. -/
def Keeps : EvidenceCall → Prop
  | .recordTextEvidence ownerId sourceEventId text _ =>
    (state.findBySourceEventId ownerId sourceEventId).isSome ∨ state.StoresText platform ownerId text
  | .recordBlobEvidence ownerId sourceEventId _ bytes _ =>
    (state.findBySourceEventId ownerId sourceEventId).isSome ∨ state.StoresBytes platform ownerId bytes
  | .deleteEvidence evidenceId _ => state.PurgesAlone evidenceId .deleted
  | .expireEvidence evidenceId _ => state.PurgesAlone evidenceId .expired

end EvidenceState

def KeepingStep (before : EvidenceHistory Envelope Digest) (call : EvidenceCall)
    (after : EvidenceHistory Envelope Digest) : Prop :=
  before.state.Keeps platform call ∧ before.step platform call = some after

/-! ## What the platform promises -/

/-- `text.replace(/\r\n/g, '\n').replace(/\r/g, '\n')`. -/
def lineEndings (text : JsString) : JsString := replaceCr (replaceCrLf text)

omit [DecidableEq Digest] in
/-- Digests do not collide, decryption inverts encryption, and a normalized text stays normalized when
its line endings are replaced. -/
structure EvidencePlatform.Lawful : Prop where
  injective : Function.Injective platform.hashBytes
  decrypts : ∀ random bytes, platform.decrypt (platform.encrypt random bytes) = some bytes
  nfcStable : ∀ text, platform.nfc (lineEndings (platform.nfc text)) = lineEndings (platform.nfc text)

theorem replaceCr_plain {text : JsString} (plain : carriageReturn ∉ text) : replaceCr text = text := by
  unfold replaceCr
  conv_rhs => rw [← List.map_id text]
  apply List.map_congr_left
  intro unit member
  rw [if_neg fun same => plain (by rw [← same]; exact member)]
  rfl

theorem replaceCrLf_plain {text : JsString} (plain : carriageReturn ∉ text) : replaceCrLf text = text := by
  fun_induction replaceCrLf text with
  | case1 => rfl
  | case2 => rfl
  | case3 unit next rest isBreak =>
    rw [isBreak.1] at plain
    simp at plain
  | case4 unit next rest _ ih =>
    rw [List.mem_cons, not_or] at plain
    rw [ih plain.2]

theorem not_mem_replaceCr (text : JsString) : carriageReturn ∉ replaceCr text := by
  intro member
  obtain ⟨unit, _, isReturn⟩ := List.mem_map.mp member
  split at isReturn
  · simp [lineFeed, carriageReturn] at isReturn
  · contradiction

theorem lineEndings_lineEndings (text : JsString) : lineEndings (lineEndings text) = lineEndings text := by
  have plain : carriageReturn ∉ lineEndings text := not_mem_replaceCr _
  rw [lineEndings, replaceCrLf_plain plain, replaceCr_plain plain]

omit [DecidableEq Digest] in
theorem EvidencePlatform.Lawful.normalizeText_normalizeText {platform : EvidencePlatform Envelope Digest}
    (lawful : platform.Lawful) (text : JsString) :
    platform.normalizeText (platform.normalizeText text) = platform.normalizeText text := by
  change lineEndings (platform.nfc (lineEndings (platform.nfc text))) = lineEndings (platform.nfc text)
  rw [lawful.nfcStable, lineEndings_lineEndings]

/-! ## What is stored -/

omit [DecidableEq Digest] in
/-- A record carries the hash of its content. -/
def EvidenceRow.Matches (record : EvidenceRow Digest) : EvidenceContent → Prop
  | .text text => record.contentHash = platform.hashTextContent text ∧ WellFormed (platform.normalizeText text) ∧
      record.mimeType = textPlain
  | .bytes bytes => record.contentHash = platform.hashBytes bytes

/-- Live blobs have files that open to their content, and active records have live blobs. -/
structure WellStored (history : EvidenceHistory Envelope Digest) : Prop where
  recordIds : (history.state.records.map EvidenceRow.id).Nodup
  blobIds : (history.state.blobs.map BlobRow.id).Nodup
  addressed : ∀ blob ∈ history.state.blobs, blob.storageUri = blob.contentHash
  filed : ∀ blob ∈ history.state.blobs, blob.deletedAtUtc = none → ∃ envelope plaintext,
    history.state.files blob.storageUri = some envelope ∧ platform.decrypt envelope = some plaintext ∧
      platform.hashBytes plaintext = blob.contentHash
  held : ∀ record ∈ history.state.records, record.status = .active → ∃ blob ∈ history.state.blobs,
    record.blobId = some blob.id ∧ blob.deletedAtUtc = none ∧ blob.contentHash = record.contentHash
  known : ∀ record ∈ history.state.records, ∃ content, history.recorded.lookup record.id = some content ∧
    record.Matches platform content

omit [DecidableEq Digest] in
theorem wellStored_empty : WellStored platform (emptyHistory : EvidenceHistory Envelope Digest) := by
  constructor <;> simp [emptyHistory]

variable {platform}

/-! ### Reading -/

variable {blob : BlobRow Digest} {ownerId : String} {contentHash : Digest} {bytes : Bytes} {draw : EvidenceDraw}
  {answer : EvidenceRow Digest × EvidenceState Envelope Digest} {status : EvidenceStatus}
  {state : EvidenceState Envelope Digest}

omit [DecidableEq Digest] in
theorem requireBlob_of_mem (distinct : (state.blobs.map BlobRow.id).Nodup)
    (member : blob ∈ state.blobs) : state.requireBlob blob.id = .ok blob := by
  have found : state.blobs.find? (fun row => decide (row.id = blob.id)) = some blob := by
    rw [List.find?_eq_some_iff_append]
    obtain ⟨early, late, split⟩ := List.append_of_mem member
    refine ⟨by simp, early, late, split, ?_⟩
    intro other earlier
    rw [split, List.map_append, List.nodup_append] at distinct
    have apart := distinct.2.2 other.id (List.mem_map_of_mem earlier) blob.id (by simp)
    simp [apart]
  rw [requireBlob, found]

omit [DecidableEq Digest] in
theorem requireBlob_eq_ok {blobId : String}
    (required : state.requireBlob blobId = .ok blob) : blob ∈ state.blobs ∧ blob.id = blobId := by
  unfold requireBlob at required
  split at required
  next row found =>
    cases required
    exact ⟨List.mem_of_find?_eq_some found, by simpa using List.find?_some found⟩
  next => cases required

theorem readBlobBytes_ok {envelope : Envelope} {plaintext : Bytes}
    (required : state.requireBlob blob.id = .ok blob) (live : blob.deletedAtUtc = none)
    (filed : state.files blob.storageUri = some envelope) (opens : platform.decrypt envelope = some plaintext)
    (hashed : platform.hashBytes plaintext = blob.contentHash) :
    state.readBlobBytes platform blob.id = .ok plaintext := by
  simp [readBlobBytes, required, live, filed, opens, hashed, throwWhen, bind, Except.bind, pure, Except.pure]

variable {history : EvidenceHistory Envelope Digest}

theorem WellStored.readable (lawful : platform.Lawful)
    (stored : WellStored platform history) : history.Readable platform := by
  intro record member active blobId holds
  obtain ⟨blob, blobMember, refers, live, sameHash⟩ := stored.held record member active
  obtain ⟨envelope, plaintext, isFiled, opens, hashed⟩ := stored.filed blob blobMember live
  obtain ⟨content, wasRecorded, isContent⟩ := stored.known record member
  have sameId : blob.id = blobId := Option.some.inj (refers.symm.trans holds)
  subst sameId
  have required := requireBlob_of_mem stored.blobIds blobMember
  have read := readBlobBytes_ok required live isFiled opens hashed
  refine ⟨blob, required, live, by rw [isFiled]; rfl, content, wasRecorded, ?_⟩
  cases content with
  | bytes bytes =>
    -- equal digests are of equal bytes
    have same : plaintext = bytes := lawful.injective (by rw [hashed, sameHash, isContent])
    rw [← same]
    exact read
  | text text =>
    obtain ⟨textHash, wellFormed, plain⟩ := isContent
    have same : plaintext = encodeUtf8 (platform.normalizeText text) :=
      lawful.injective (by rw [hashed, sameHash, textHash]; rfl)
    refine ⟨platform.normalizeText text, ?_, lawful.normalizeText_normalizeText text⟩
    rw [readTextContent, holds]
    simp only [plain, read, bne_self_eq_false, throwWhen, Bool.false_eq_true, if_false, bind, Except.bind, pure, Except.pure]
    rw [same, wellFormed.decodeUtf8_encodeUtf8]

/-! ### Recording -/

variable {after : EvidenceState Envelope Digest}

/-- A blob that is there is taken as it is; else there is a new row, and a file of its hash. -/
theorem persistBlob_cases
    (persisted : state.persistBlob platform ownerId contentHash bytes draw = .ok (blob, after)) :
    (state.findBlob ownerId contentHash = some blob ∧ after = state) ∨
    (state.findBlob ownerId contentHash = none ∧ blob = ⟨draw.blobId, ownerId, contentHash, contentHash, none⟩ ∧
      (∀ other ∈ state.blobs, other.id ≠ draw.blobId) ∧
      after = { state with
        files := Function.update state.files contentHash (some (platform.encrypt draw.random bytes))
        blobs := state.blobs ++ [blob] }) := by
  unfold persistBlob at persisted
  split at persisted
  next existing found =>
    cases persisted
    exact Or.inl ⟨found, rfl⟩
  next absent =>
    simp only [insertBlob, bind_eq_ok, pure_eq_ok, throwWhen_eq_ok] at persisted
    obtain ⟨inserted, ⟨_, unique, rfl⟩, isResult⟩ := persisted
    cases isResult
    refine Or.inr ⟨absent, rfl, ?_, rfl⟩
    intro other member same
    have noneTaken := List.any_eq_false.mp unique other member
    simp [same] at noneTaken

/-- A replay changes nothing; a new record refers to the blob that was persisted. -/
theorem recordEvidence_cases {sourceEventId mimeType : String}
    (recorded : state.recordEvidence platform ownerId sourceEventId contentHash mimeType bytes draw = .ok answer) :
    ((state.findBySourceEventId ownerId sourceEventId).isSome ∧ answer.2 = state) ∨
    (state.findBySourceEventId ownerId sourceEventId = none ∧ ∃ blob stored,
      state.persistBlob platform ownerId contentHash bytes draw = .ok (blob, stored) ∧
      (∀ other ∈ stored.records, other.id ≠ draw.evidenceId) ∧
      answer.2 = { stored with
        records := stored.records ++
          [⟨draw.evidenceId, ownerId, sourceEventId, some blob.id, contentHash, mimeType, .active⟩] }) := by
  unfold recordEvidence at recorded
  split at recorded
  next existing found =>
    cases recorded
    exact Or.inl ⟨by rw [found]; rfl, rfl⟩
  next absent =>
    simp only [insertEvidence, bind_eq_ok, pure_eq_ok, throwWhen_eq_ok] at recorded
    obtain ⟨⟨blob, stored⟩, persisted, inserted, ⟨_, unique, rfl⟩, isResult⟩ := recorded
    cases isResult
    refine Or.inr ⟨absent, blob, stored, persisted, ?_, rfl⟩
    intro other member same
    have noneTaken := List.any_eq_false.mp unique other member
    simp [same] at noneTaken

theorem WellStored.persistBlob
    (lawful : platform.Lawful) (stored : WellStored platform history)
    (live : ∀ existing, history.state.findBlob ownerId contentHash = some existing → existing.deletedAtUtc = none)
    (hashed : history.state.findBlob ownerId contentHash = none → platform.hashBytes bytes = contentHash)
    (persisted : history.state.persistBlob platform ownerId contentHash bytes draw = .ok (blob, after)) :
    WellStored platform ⟨after, history.recorded⟩ ∧ after.records = history.state.records ∧ blob ∈ after.blobs ∧
      blob.deletedAtUtc = none ∧ blob.contentHash = contentHash := by
  rcases persistBlob_cases persisted with ⟨found, rfl⟩ | ⟨absent, rfl, fresh, rfl⟩
  · have isBlob := List.find?_some found
    simp only [decide_eq_true_eq] at isBlob
    exact ⟨stored, rfl, List.mem_of_find?_eq_some found, live blob found, isBlob.2⟩
  · refine ⟨⟨stored.recordIds, ?_, ?_, ?_, ?_, stored.known⟩, rfl, by simp, rfl, rfl⟩
    · exact nodup_map_snoc stored.blobIds fresh
    · exact forall_mem_snoc.mpr ⟨stored.addressed, rfl⟩
    · intro other member otherLive
      rcases List.mem_append.mp member with before | new
      · by_cases shared : other.storageUri = contentHash
        · -- the file of another owner's blob with this content is written again
          refine ⟨_, bytes, by rw [shared]; exact Function.update_self _ _ _, lawful.decrypts _ _, ?_⟩
          rw [hashed absent, ← shared, stored.addressed other before]
        · obtain ⟨envelope, plaintext, isFiled, opens, isHash⟩ := stored.filed other before otherLive
          exact ⟨envelope, plaintext, (Function.update_of_ne shared _ _).trans isFiled, opens, isHash⟩
      · rw [List.mem_singleton.mp new]
        exact ⟨_, bytes, Function.update_self _ _ _, lawful.decrypts _ _, hashed absent⟩
    · intro record member active
      obtain ⟨other, otherMember, holds⟩ := stored.held record member active
      exact ⟨other, List.mem_append_left _ otherMember, holds⟩

omit [DecidableEq Digest] in
theorem WellStored.insertEvidence {record : EvidenceRow Digest}
    {content : EvidenceContent} (stored : WellStored platform history)
    (fresh : ∀ other ∈ history.state.records, other.id ≠ record.id) (member : blob ∈ history.state.blobs)
    (live : blob.deletedAtUtc = none) (refers : record.blobId = some blob.id)
    (sameHash : blob.contentHash = record.contentHash) (isContent : record.Matches platform content) :
    WellStored platform ⟨{ history.state with records := history.state.records ++ [record] },
      (record.id, content) :: history.recorded⟩ := by
  refine ⟨?_, stored.blobIds, stored.addressed, stored.filed, ?_, ?_⟩
  · exact nodup_map_snoc stored.recordIds fresh
  · exact forall_mem_snoc.mpr ⟨stored.held, fun _ => ⟨blob, member, refers, live, sameHash⟩⟩
  · intro other otherMember
    rcases List.mem_append.mp otherMember with before | new
    · obtain ⟨known, wasRecorded, matches_⟩ := stored.known other before
      refine ⟨known, ?_, matches_⟩
      rw [List.lookup_cons, beq_eq_false_iff_ne.mpr (fresh other before)]
      exact wasRecorded
    · rw [List.mem_singleton.mp new]
      exact ⟨content, by simp, isContent⟩

theorem WellStored.recordEvidence {sourceEventId mimeType : String}
    {content : EvidenceContent} (lawful : platform.Lawful) (stored : WellStored platform history)
    (recorded : history.state.recordEvidence platform ownerId sourceEventId contentHash mimeType bytes draw = .ok answer)
    (keeps : (history.state.findBySourceEventId ownerId sourceEventId).isSome ∨ ((∀ existing,
      history.state.findBlob ownerId contentHash = some existing → existing.deletedAtUtc = none) ∧
      (history.state.findBlob ownerId contentHash = none → platform.hashBytes bytes = contentHash) ∧
      ∀ record : EvidenceRow Digest, record.contentHash = contentHash → record.mimeType = mimeType →
      record.Matches platform content)) :
    WellStored platform (history.afterRecording ownerId sourceEventId draw.evidenceId content answer.2) := by
  rcases recordEvidence_cases recorded with ⟨replayed, same⟩ | ⟨absent, blob, middle, persisted, fresh, isAfter⟩
  · obtain ⟨existing, found⟩ := Option.isSome_iff_exists.mp replayed
    rw [EvidenceHistory.afterRecording, found, same]
    exact stored
  · rw [absent, Option.isSome_none, Bool.false_eq_true, false_or] at keeps
    obtain ⟨live, hashed, matches_⟩ := keeps
    obtain ⟨persistedWell, _, member, isLive, sameHash⟩ := stored.persistBlob lawful live hashed persisted
    rw [EvidenceHistory.afterRecording, absent, isAfter]
    exact persistedWell.insertEvidence fresh member isLive rfl sameHash (matches_ _ rfl rfl)

/-! ### Retiring -/

/-- A retirement marks the record, and purges the blob that nothing holds any more. -/
theorem retire_cases {evidenceId nowUtc : String}
    (retired : state.retire evidenceId status nowUtc = .ok answer) :
    ∃ evidence, state.getEvidence evidenceId = some evidence ∧ (answer.2 = state.setStatus evidenceId status ∨
      ∃ blobId blob, evidence.blobId = some blobId ∧ (state.setStatus evidenceId status).remaining blobId = 0 ∧
        state.requireBlob blobId = .ok blob ∧ answer.2 = (state.setStatus evidenceId status).purge blob nowUtc) := by
  simp only [retire, bind_eq_ok, pure_eq_ok] at retired
  obtain ⟨evidence, required, after, marked, _, _, isResult⟩ := retired
  cases isResult
  have found : state.getEvidence evidenceId = some evidence := by
    unfold requireEvidence at required
    split at required
    next row isRow =>
      cases required
      exact isRow
    next => cases required
  have sameId : evidence.id = evidenceId := by simpa using List.find?_some found
  refine ⟨evidence, found, ?_⟩
  rw [markAndPurge, sameId] at marked
  split at marked
  next =>
    cases marked
    exact Or.inl rfl
  next blobId holds =>
    split at marked
    next =>
      cases marked
      exact Or.inl rfl
    next unheld =>
      simp only [bind_eq_ok, pure_eq_ok] at marked
      obtain ⟨blob, isBlob, rfl⟩ := marked
      exact Or.inr ⟨blobId, blob, holds, by omega, isBlob, rfl⟩

omit [DecidableEq Digest] in
theorem WellStored.setStatus (stored : WellStored platform history)
    (evidenceId : String) (inactive : status ≠ .active) :
    WellStored platform ⟨history.state.setStatus evidenceId status, history.recorded⟩ := by
  refine ⟨?_, stored.blobIds, stored.addressed, stored.filed, ?_, ?_⟩
  · change ((updateWhere _ _ history.state.records).map EvidenceRow.id).Nodup
    rw [map_updateWhere]
    · exact stored.recordIds
    · intros
      rfl
  · intro record member active
    obtain ⟨before, beforeMember, isRow⟩ := mem_updateWhere.mp member
    split at isRow
    next =>
      rw [isRow] at active
      exact absurd active inactive
    next =>
      rw [isRow] at active ⊢
      exact stored.held before beforeMember active
  · intro record member
    obtain ⟨before, beforeMember, isRow⟩ := mem_updateWhere.mp member
    obtain ⟨content, wasRecorded, isContent⟩ := stored.known before beforeMember
    refine ⟨content, ?_, ?_⟩
    · rw [isRow]
      split <;> exact wasRecorded
    · rw [isRow]
      split <;> cases content <;> exact isContent

theorem WellStored.purge (stored : WellStored platform history)
    (unheld : history.state.remaining blob.id = 0)
    (alone : ∀ other ∈ history.state.blobs, other.id ≠ blob.id → other.deletedAtUtc = none →
      other.storageUri ≠ blob.storageUri)
    (nowUtc : String) : WellStored platform ⟨history.state.purge blob nowUtc, history.recorded⟩ := by
  refine ⟨stored.recordIds, ?_, ?_, ?_, ?_, stored.known⟩
  · change ((updateWhere _ _ history.state.blobs).map BlobRow.id).Nodup
    rw [map_updateWhere]
    · exact stored.blobIds
    · intros
      rfl
  · intro row member
    obtain ⟨before, beforeMember, isRow⟩ := mem_updateWhere.mp member
    rw [isRow]
    split <;> exact stored.addressed before beforeMember
  · intro row member live
    obtain ⟨before, beforeMember, isRow⟩ := mem_updateWhere.mp member
    split at isRow
    next =>
      rw [isRow] at live
      cases live
    next other =>
      simp only [decide_eq_true_eq] at other
      rw [isRow] at live ⊢
      obtain ⟨envelope, plaintext, isFiled, opens, hashed⟩ := stored.filed before beforeMember live
      exact ⟨envelope, plaintext, (Function.update_of_ne (alone before beforeMember other live) _ _).trans isFiled, opens,
        hashed⟩
  · intro record member active
    obtain ⟨held, heldMember, refers, live, sameHash⟩ := stored.held record member active
    -- a blob that an active record refers to is not the purged one
    have other : held.id ≠ blob.id := by
      intro same
      have holdsNone := List.countP_eq_zero.mp unheld record member
      simp [refers, same, active, isRetired] at holdsNone
    refine ⟨held, mem_updateWhere.mpr ⟨held, heldMember, ?_⟩, refers, live, sameHash⟩
    simp [other]

theorem WellStored.retire {evidenceId nowUtc : String}
    (stored : WellStored platform history) (inactive : status ≠ .active)
    (alone : history.state.PurgesAlone evidenceId status)
    (retired : history.state.retire evidenceId status nowUtc = .ok answer) :
    WellStored platform ⟨answer.2, history.recorded⟩ := by
  obtain ⟨evidence, found, marked | ⟨blobId, blob, holds, unheld, required, purged⟩⟩ := retire_cases retired
  · rw [marked]
    exact stored.setStatus evidenceId inactive
  · obtain ⟨_, rfl⟩ := requireBlob_eq_ok required
    rw [purged]
    exact (stored.setStatus evidenceId inactive).purge unheld (alone evidence blob.id blob found holds unheld required) nowUtc

/-! ## Runs -/

theorem WellStored.step {before after : EvidenceHistory Envelope Digest} {call : EvidenceCall}
    (lawful : platform.Lawful) (stored : WellStored platform before) (taken : KeepingStep platform before call after) :
    WellStored platform after := by
  obtain ⟨keeps, taken⟩ := taken
  cases call with
  | recordTextEvidence ownerId sourceEventId text draw =>
    obtain ⟨answer, recorded, rfl⟩ := Option.map_eq_some_iff.mp taken
    apply stored.recordEvidence lawful (toOption_eq_some.mp recorded)
    refine Or.imp_right (fun stores => ?_) keeps
    obtain ⟨wellFormed, fits⟩ := stores
    refine ⟨?_, ?_, fun record sameHash isPlain => ⟨sameHash, wellFormed, isPlain⟩⟩
    · intro existing found
      rw [found] at fits
      exact fits
    · intro absent
      rw [absent] at fits
      -- a text that is its own normal form is stored under its own hash
      rw [EvidencePlatform.hashTextContent, fits]
  | recordBlobEvidence ownerId sourceEventId mimeType bytes draw =>
    obtain ⟨answer, recorded, rfl⟩ := Option.map_eq_some_iff.mp taken
    apply stored.recordEvidence lawful (toOption_eq_some.mp recorded)
    exact Or.imp_right (fun live => ⟨live, fun _ => rfl, fun record sameHash _ => sameHash⟩) keeps
  | deleteEvidence evidenceId nowUtc =>
    obtain ⟨answer, retired, rfl⟩ := Option.map_eq_some_iff.mp taken
    exact stored.retire (by simp) keeps (toOption_eq_some.mp retired)
  | expireEvidence evidenceId nowUtc =>
    obtain ⟨answer, retired, rfl⟩ := Option.map_eq_some_iff.mp taken
    exact stored.retire (by simp) keeps (toOption_eq_some.mp retired)

variable (platform)

/-- In every run of calls that keep the contents, every active record reads back what was recorded. -/
theorem evidence_readable_if_kept (lawful : platform.Lawful) {calls : List EvidenceCall}
    {history : EvidenceHistory Envelope Digest}
    (reached : Reaches (KeepingStep platform) emptyHistory calls history) : history.Readable platform := by
  have stored : WellStored platform history := by
    apply reached.invariant (WellStored platform) (wellStored_empty platform)
    intro before call after storedBefore taken
    exact storedBefore.step lawful taken
  exact stored.readable lawful

end

/-! ### Samples -/

/-- Texts in NFC, digests that are what they digest, and envelopes that carry their plaintext. -/
def samplePlatform : EvidencePlatform (Bytes × Bytes) Bytes where
  nfc text := text
  hashBytes plaintext := plaintext
  encrypt random plaintext := (random, plaintext)
  decrypt envelope := some envelope.2

theorem samplePlatform_lawful : samplePlatform.Lawful where
  injective := Function.injective_id
  decrypts _ _ := rfl
  nfcStable _ := rfl

def textCall : EvidenceCall := .recordTextEvidence "owner" "event_1" (utf16 "hi") ⟨"blob_1", "ev_1", []⟩

def blobCall : EvidenceCall := .recordBlobEvidence "owner" "event_2" "image/png" [104, 105] ⟨"blob_2", "ev_2", []⟩

def textHistory : EvidenceHistory (Bytes × Bytes) Bytes :=
  ((emptyHistory : EvidenceHistory (Bytes × Bytes) Bytes).step samplePlatform textCall).getD emptyHistory

def sharedHistory : EvidenceHistory (Bytes × Bytes) Bytes := (textHistory.step samplePlatform blobCall).getD emptyHistory

/-- A text and a blob of the same bytes share a file. -/
theorem evidence_readable_shared_blob : sharedHistory.Readable samplePlatform := by
  have isText : KeepingStep samplePlatform emptyHistory textCall textHistory :=
    ⟨Or.inr ⟨⟨"hi", rfl⟩, rfl⟩, rfl⟩
  have isShared : KeepingStep samplePlatform textHistory blobCall sharedHistory := by
    refine ⟨Or.inr fun existing found => ?_, rfl⟩
    cases found
    rfl
  exact evidence_readable_if_kept samplePlatform samplePlatform_lawful ((Reaches.start.next isText).next isShared)

/-- A text with a CR LF is stored under a hash that is not its own, so that it cannot be read. -/
theorem crlf_text_is_unreadable :
    samplePlatform.Lawful ∧ ¬ ∀ calls history,
      Reaches (Follows (EvidenceHistory.step samplePlatform)) emptyHistory calls history →
        history.Readable samplePlatform := by
  refine ⟨samplePlatform_lawful, fun readable => ?_⟩
  have stuck := readable [.recordTextEvidence "owner" "event_1" (utf16 "a\r\nb") ⟨"blob_1", "ev_1", []⟩] _
    (reaches_of_follow rfl) _ List.mem_cons_self rfl "blob_1" rfl
  obtain ⟨blob, _, _, _, content, isContent, text⟩ := stuck
  cases isContent
  obtain ⟨read, isRead, _⟩ := text
  exact nomatch isRead

end SiftKit.Assistant
