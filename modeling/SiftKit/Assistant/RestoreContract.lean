import SiftKit.Assistant.RestoreService
import SiftKit.Zip.RoundTrip

/-! # What a restore writes and what it has verified

The blobs that a restore writes, and the archives that pass its verification.
-/

namespace SiftKit.Restore

open SiftKit.ByteFields
open SiftKit.Failure (bind_eq_ok map_eq_ok)
open SiftKit.Json SiftKit.PathSegments SiftKit.Zip

variable {compression : Compression} {sha256 : Bytes → JsString} {style : PathStyle} {root : Path}

/-! ## Verification -/

theorem forM_eq_ok {Item : Type} {items : List Item} {check : Item → Except ErrorMessage Unit} :
    items.forM check = .ok () ↔ ∀ item ∈ items, check item = .ok () := by
  induction items with
  | nil => simp [pure, Except.pure]
  | cons item rest ih =>
    have unfolded : (item :: rest).forM check = (check item >>= fun _ => rest.forM check) := rfl
    rw [unfolded, bind_eq_ok, List.forall_mem_cons, ← ih]
    constructor
    · rintro ⟨⟨⟩, first, others⟩
      exact ⟨first, others⟩
    · rintro ⟨first, others⟩
      exact ⟨(), first, others⟩

section

variable (compression : Compression) (sha256 : Bytes → JsString)

/-- Every listed entry is there, with its hash. -/
def Matches (reader : ZipFileReader) (manifest : BackupManifest) : Prop :=
  ∀ entry ∈ manifest.files, reader.hasEntry entry.1 = true ∧ reader.hashEntry compression sha256 entry.1 = .ok entry.2

/-- Every entry but the manifest is listed, as an own key, with its hash. -/
def ListsAll (reader : ZipFileReader) (manifest : BackupManifest) : Prop :=
  ∀ name ∈ reader.entryNames, name ≠ MANIFEST_ENTRY →
    ∃ hash, (name, hash) ∈ manifest.files ∧ reader.hashEntry compression sha256 name = .ok hash

end

variable {reader : ZipFileReader} {manifest : BackupManifest} {name : JsString} {names : List JsString}

theorem checkListed_eq_ok {entry : JsString × JsString} :
    checkListed compression sha256 reader entry = .ok () ↔
      reader.hasEntry entry.1 = true ∧ reader.hashEntry compression sha256 entry.1 = .ok entry.2 := by
  by_cases has : reader.hasEntry entry.1 = true
  · cases hashed : reader.hashEntry compression sha256 entry.1 with
    | error message => simp [checkListed, has, hashed, bind, Except.bind]
    | ok hash => simp [checkListed, has, hashed, bind, Except.bind]
  · simp [checkListed, has]

theorem checkCovered_eq_ok :
    checkCovered manifest name = .ok () ↔ (name ≠ MANIFEST_ENTRY → manifest.covers name = true) := by
  by_cases isManifest : name = MANIFEST_ENTRY
  · simp [checkCovered, isManifest]
  · cases covered : manifest.covers name with
    | false => simp [checkCovered, isManifest, covered]
    | true => simp [checkCovered, covered]

theorem verifyEntries_eq_ok :
    verifyEntries compression sha256 reader = .ok () ↔
      ∃ manifest, readManifestOnly compression reader = .ok manifest ∧ Matches compression sha256 reader manifest ∧
        ∀ name ∈ reader.entryNames, name ≠ MANIFEST_ENTRY → manifest.covers name = true := by
  rw [verifyEntries, bind_eq_ok]
  apply exists_congr
  intro manifest
  apply and_congr_right
  intro _
  rw [bind_eq_ok]
  constructor
  · rintro ⟨⟨⟩, listed, covered⟩
    exact ⟨fun entry member => checkListed_eq_ok.mp (forM_eq_ok.mp listed entry member),
      fun name member => checkCovered_eq_ok.mp (forM_eq_ok.mp covered name member)⟩
  · rintro ⟨listed, covered⟩
    exact ⟨(), forM_eq_ok.mpr fun entry member => checkListed_eq_ok.mpr (listed entry member),
      forM_eq_ok.mpr fun name member => checkCovered_eq_ok.mpr (covered name member)⟩

theorem lists_iff : manifest.lists name = true ↔ ∃ hash, (name, hash) ∈ manifest.files := by
  simp [BackupManifest.lists]

theorem hash_of_lists (matching : Matches compression sha256 reader manifest) (listed : manifest.lists name = true) :
    ∃ hash, (name, hash) ∈ manifest.files ∧ reader.hashEntry compression sha256 name = .ok hash := by
  obtain ⟨hash, member⟩ := lists_iff.mp listed
  exact ⟨hash, member, (matching (name, hash) member).2⟩

section

variable (compression : Compression) (sha256 : Bytes → JsString)

def VerifiedIsCovered (archive : Bytes) : Prop :=
  ∀ reader, openArchive archive = .ok reader → verifyEntries compression sha256 reader = .ok () →
    ∃ manifest, readManifestOnly compression reader = .ok manifest ∧ ListsAll compression sha256 reader manifest ∧
      ∀ entry ∈ manifest.files, reader.hasEntry entry.1 = true

/-- The entries that a manifest does not list are none, or one of them has a name of its own, or the manifest does not
match anyway. -/
def NoneHidden (reader : ZipFileReader) (manifest : BackupManifest) : Prop :=
  (∀ name ∈ reader.entryNames, name ≠ MANIFEST_ENTRY → manifest.lists name = true) ∨
    (∃ name ∈ reader.entryNames, name ≠ MANIFEST_ENTRY ∧ manifest.lists name = false ∧ name ∉ INHERITED_NAMES) ∨
    ∃ entry ∈ manifest.files,
      ¬(reader.hasEntry entry.1 = true ∧ reader.hashEntry compression sha256 entry.1 = .ok entry.2)

end

/-- Verification covers an archive exactly when no unlisted entry hides behind a name that every object inherits. -/
theorem verified_is_covered_iff (archive : Bytes) :
    VerifiedIsCovered compression sha256 archive ↔
      ∀ reader manifest, openArchive archive = .ok reader → readManifestOnly compression reader = .ok manifest →
        NoneHidden compression sha256 reader manifest := by
  constructor
  · intro covered reader manifest opens isManifest
    by_cases matching : Matches compression sha256 reader manifest
    · by_cases covers : ∀ name ∈ reader.entryNames, name ≠ MANIFEST_ENTRY → manifest.covers name = true
      · obtain ⟨other, isOther, lists, _⟩ :=
          covered reader opens (verifyEntries_eq_ok.mpr ⟨manifest, isManifest, matching, covers⟩)
        cases isManifest.symm.trans isOther
        apply Or.inl
        intro name member notManifest
        obtain ⟨hash, listed, _⟩ := lists name member notManifest
        exact lists_iff.mpr ⟨hash, listed⟩
      · push Not at covers
        obtain ⟨name, member, notManifest, notCovered⟩ := covers
        simp only [BackupManifest.covers, ne_eq, Bool.or_eq_true, not_or, List.contains_iff_mem] at notCovered
        exact .inr (.inl ⟨name, member, notManifest, by simpa using notCovered.1, notCovered.2⟩)
    · simp only [Matches] at matching
      push Not at matching
      obtain ⟨entry, member, apart⟩ := matching
      exact .inr (.inr ⟨entry, member, fun both => apart both.1 both.2⟩)
  · intro noneHidden reader opens verified
    obtain ⟨manifest, isManifest, matching, covers⟩ := verifyEntries_eq_ok.mp verified
    refine ⟨manifest, isManifest, ?_, fun entry member => (matching entry member).1⟩
    intro name member notManifest
    apply hash_of_lists matching
    obtain listed | ⟨hidden, isHidden, hiddenNotManifest, notListed, notInherited⟩ | ⟨entry, isEntry, apart⟩ :=
      noneHidden reader manifest opens isManifest
    · exact listed name member notManifest
    · have covered := covers hidden isHidden hiddenNotManifest
      simp only [BackupManifest.covers, notListed, Bool.false_or, List.contains_iff_mem] at covered
      exact absurd covered notInherited
    · exact absurd (matching entry isEntry) apart

/-! ## Extraction -/

theorem extracts_of_hash {hash : JsString} (hashed : reader.hashEntry compression sha256 name = .ok hash) :
    (reader.extractTo compression name).opened = true ∧ ∃ data, (reader.extractTo compression name).result = .ok data := by
  rw [ZipFileReader.hashEntry, bind_eq_ok] at hashed
  obtain ⟨entry, required, hashed⟩ := hashed
  cases isMethod : entry.method with
  | deflate =>
    simp only [isMethod, map_eq_ok] at hashed
    obtain ⟨data, read, _⟩ := hashed
    simp [ZipFileReader.extractTo, required, isMethod, read]
  | store =>
    simp only [isMethod, map_eq_ok] at hashed
    obtain ⟨_, walked, _⟩ := hashed
    simp [ZipFileReader.extractTo, required, isMethod, walked, Except.map]

theorem throws_of_unopened (unopened : (reader.extractTo compression name).opened = false) :
    ∃ message, (reader.extractTo compression name).result = .error message := by
  cases required : reader.requireEntry name with
  | error message => simp [ZipFileReader.extractTo, required]
  | ok entry =>
    cases isMethod : entry.method with
    | deflate =>
      cases read : reader.readEntry compression name with
      | error message => simp [ZipFileReader.extractTo, required, isMethod, read]
      | ok data => simp [ZipFileReader.extractTo, required, isMethod, read] at unopened
    | store => simp [ZipFileReader.extractTo, required, isMethod] at unopened

theorem hasNull_dropLast {path : Path} (noNull : hasNull path = false) : hasNull path.dropLast = false := by
  simp only [hasNull, List.any_eq_false] at noNull ⊢
  exact fun segment member => noNull segment (List.mem_of_mem_dropLast member)

/-- What is opened for a blob is its target, and a blob that is done has been opened. -/
theorem extractBlob_spec (reader : ZipFileReader) (answer : FileAnswer) (name : JsString) :
    (∀ path, (extractBlob compression style root reader answer name).1 = some path →
        path = blobTarget style root name ∧ hasNull path = false) ∧
      ((extractBlob compression style root reader answer name).2 = .ok () →
        hasNull (blobTarget style root name) = false) := by
  by_cases blocked : hasNull (blobTarget style root name).dropLast || !answer.makes
  · simp [extractBlob, blocked]
  · cases opened : (reader.extractTo compression name).opened with
    | false =>
      obtain ⟨message, throws⟩ := throws_of_unopened opened
      simp [extractBlob, blocked, opened, throws, Except.map]
    | true =>
      by_cases refused : hasNull (blobTarget style root name) || !answer.opens
      · simp [extractBlob, blocked, opened, refused]
      · have noNull : hasNull (blobTarget style root name) = false := by
          simp only [Bool.or_eq_true, not_or] at refused
          simpa using refused.1
        simp only [extractBlob, blocked, opened, refused, Bool.not_true, Bool.false_eq_true, if_false,
          Option.some.injEq]
        exact ⟨fun path isPath => ⟨isPath.symm, isPath ▸ noNull⟩, fun _ => noNull⟩

/-- A file system that refuses nothing. -/
def permissive : FileAnswer := ⟨true, true, true⟩

theorem extractBlob_permissive (noNull : hasNull (blobTarget style root name) = false)
    (opened : (reader.extractTo compression name).opened = true)
    (extracts : ∃ data, (reader.extractTo compression name).result = .ok data) :
    extractBlob compression style root reader permissive name = (some (blobTarget style root name), .ok ()) := by
  obtain ⟨data, isData⟩ := extracts
  simp [extractBlob, permissive, hasNull_dropLast noNull, noNull, opened, isData, Except.map]

def blobNames (names : List JsString) : List JsString := names.filter BLOB_PREFIX.isPrefixOf

/-- A blob that is written comes after blobs whose targets are paths. -/
theorem mem_extractBlobs {files : Nat → FileAnswer} {number : Nat} {path : Path}
    (member : path ∈ (extractBlobs compression style root reader files number names).1) :
    ∃ early name late, blobNames names = early ++ name :: late ∧ path = blobTarget style root name ∧
      ∀ passed ∈ early ++ [name], hasNull (blobTarget style root passed) = false := by
  induction names generalizing number with
  | nil => cases member
  | cons name rest ih =>
    by_cases isBlob : BLOB_PREFIX.isPrefixOf name = true
    · obtain ⟨opens, done⟩ := @extractBlob_spec compression style root reader (files number) name
      have here : ∀ written, (extractBlob compression style root reader (files number) name).1 = written →
          path ∈ written.toList → ∃ early found late, blobNames (name :: rest) = early ++ found :: late ∧
            path = blobTarget style root found ∧
            ∀ passed ∈ early ++ [found], hasNull (blobTarget style root passed) = false := by
        intro written isWritten inside
        rw [Option.mem_toList] at inside
        obtain ⟨isTarget, noNull⟩ := opens path (isWritten.trans inside)
        refine ⟨[], name, blobNames rest, by simp [blobNames, isBlob], isTarget, ?_⟩
        simpa [← isTarget] using noNull
      cases extracted : extractBlob compression style root reader (files number) name with
      | mk written ended =>
        cases ended with
        | error message =>
          simp only [extractBlobs, isBlob, Bool.not_true, Bool.false_eq_true, if_false, extracted] at member
          exact here written (by rw [extracted]) member
        | ok _ =>
          simp only [extractBlobs, isBlob, Bool.not_true, Bool.false_eq_true, if_false, extracted,
            List.mem_append] at member
          cases member with
          | inl first => exact here written (by rw [extracted]) first
          | inr later =>
            obtain ⟨early, found, late, isNames, isTarget, noNull⟩ := ih later
            refine ⟨name :: early, found, late, ?_, isTarget, ?_⟩
            · simp only [blobNames, List.filter_cons, isBlob, if_true, List.cons_append]
              exact congrArg _ isNames
            · intro passed inside
              rw [List.cons_append, List.mem_cons] at inside
              cases inside with
              | inl isFirst => exact isFirst ▸ done (by rw [extracted])
              | inr isLater => exact noNull passed isLater
    · simp only [extractBlobs, isBlob, Bool.not_false, if_true] at member
      obtain ⟨early, found, late, isNames, rest⟩ := ih member
      refine ⟨early, found, late, ?_, rest⟩
      simpa [blobNames, isBlob] using isNames

/-- A file system that refuses nothing writes every blob up to the first whose target is no path. -/
theorem extractBlobs_permissive {number : Nat}
    (extracts : ∀ name ∈ blobNames names, (reader.extractTo compression name).opened = true ∧ ∃ data,
      (reader.extractTo compression name).result = .ok data)
    {early late : List JsString} (isNames : blobNames names = early ++ name :: late)
    (noNull : ∀ passed ∈ early ++ [name], hasNull (blobTarget style root passed) = false) :
    blobTarget style root name ∈
      (extractBlobs compression style root reader (fun _ => permissive) number names).1 := by
  induction names generalizing number early with
  | nil => simp [blobNames] at isNames
  | cons first rest ih =>
    by_cases isBlob : BLOB_PREFIX.isPrefixOf first = true
    · have split : first :: blobNames rest = early ++ name :: late := by
        simpa [blobNames, isBlob] using isNames
      have firstNoNull : hasNull (blobTarget style root first) = false := by
        cases early with
        | nil =>
          obtain ⟨rfl, _⟩ := List.cons_eq_cons.mp split
          exact noNull first (by simp)
        | cons other others =>
          obtain ⟨rfl, _⟩ := List.cons_eq_cons.mp split
          exact noNull first (by simp)
      have firstExtracts := extracts first (by simp [blobNames, isBlob])
      have extracted := extractBlob_permissive firstNoNull firstExtracts.1 firstExtracts.2
      simp only [extractBlobs, isBlob, Bool.not_true, Bool.false_eq_true, if_false, extracted, Option.toList_some,
        List.singleton_append, List.mem_cons]
      cases early with
      | nil =>
        obtain ⟨rfl, _⟩ := List.cons_eq_cons.mp split
        exact .inl rfl
      | cons other others =>
        obtain ⟨rfl, isRest⟩ := List.cons_eq_cons.mp split
        apply Or.inr
        apply ih _ isRest
        · exact fun passed member => noNull passed (by simp at member; simp [member])
        · intro found member
          apply extracts found
          simp only [blobNames, List.filter_cons, isBlob, if_true]
          exact List.mem_cons_of_mem _ member
    · simp only [extractBlobs, isBlob, Bool.not_false, if_true]
      have sameNames : blobNames (first :: rest) = blobNames rest := by simp [blobNames, isBlob]
      exact ih (sameNames ▸ extracts) (sameNames ▸ isNames) noNull

/-! ## Restoring -/

section

variable (compression : Compression) (sha256 : Bytes → JsString)

/-- What a restore asks of an archive before it replaces anything. -/
structure Passes (reader : ZipFileReader) (manifest : BackupManifest) : Prop where
  matching : Matches compression sha256 reader manifest
  covered : ∀ name ∈ reader.entryNames, name ≠ MANIFEST_ENTRY → manifest.covers name = true
  version : manifest.schemaVersion = CURRENT_SCHEMA_VERSION
  snapshot : reader.hasEntry SNAPSHOT_ENTRY = true

variable (style : PathStyle) (root : Path)

/-- Every blob of an archive that passes leads inside, as far as the targets are paths. -/
def LeadsInside (archive : Bytes) : Prop :=
  ∀ reader manifest, openArchive archive = .ok reader → readManifestOnly compression reader = .ok manifest →
    Passes compression sha256 reader manifest →
    ∀ early name late, blobNames reader.entryNames = early ++ name :: late →
      (∀ passed ∈ early ++ [name], hasNull (blobTarget style root passed) = false) →
      Inside root (blobTarget style root name)

end

theorem readManifest_eq_ok :
    readManifest compression reader = .ok manifest ↔ readManifestOnly compression reader = .ok manifest ∧
      manifest.schemaVersion = CURRENT_SCHEMA_VERSION ∧ reader.hasEntry SNAPSHOT_ENTRY = true := by
  rw [readManifest, bind_eq_ok]
  constructor
  · rintro ⟨read, isRead, kept⟩
    by_cases version : read.schemaVersion = CURRENT_SCHEMA_VERSION
    · by_cases snapshot : reader.hasEntry SNAPSHOT_ENTRY = true
      · simp only [version, snapshot, ne_eq, not_true_eq_false, if_false, Bool.not_true, Bool.false_eq_true,
          Except.ok.injEq] at kept
        subst kept
        exact ⟨isRead, version, snapshot⟩
      · simp [version, snapshot] at kept
    · simp [version] at kept
  · rintro ⟨isRead, version, snapshot⟩
    exact ⟨manifest, isRead, by simp [version, snapshot]⟩

variable {archive : Bytes}

/-- A restore replaces something exactly when the archive passes and the rows are replaced. -/
theorem prepare_eq_ok {surroundings : Surroundings} :
    prepare compression sha256 archive surroundings = .ok reader ↔ openArchive archive = .ok reader ∧
      (∃ manifest, readManifestOnly compression reader = .ok manifest ∧ Passes compression sha256 reader manifest) ∧
        replaceRows compression reader surroundings = .ok () := by
  simp only [prepare, bind_eq_ok]
  constructor
  · rintro ⟨opened, opens, ⟨⟨⟩, verified, manifest, isManifest, ⟨⟨⟩, replaced, kept⟩⟩⟩
    cases kept
    obtain ⟨onlyManifest, version, snapshot⟩ := readManifest_eq_ok.mp isManifest
    obtain ⟨other, isOther, matching, covered⟩ := verifyEntries_eq_ok.mp verified
    cases onlyManifest.symm.trans isOther
    exact ⟨opens, ⟨manifest, onlyManifest, matching, covered, version, snapshot⟩, replaced⟩
  · rintro ⟨opens, ⟨manifest, isManifest, passes⟩, replaced⟩
    exact ⟨reader, opens, (), verifyEntries_eq_ok.mpr ⟨manifest, isManifest, passes.matching, passes.covered⟩,
      manifest, readManifest_eq_ok.mpr ⟨isManifest, passes.version, passes.snapshot⟩, (), replaced, rfl⟩

/-- What is neither the manifest nor a name that every object inherits is listed by what covers it, and extracted. -/
theorem Passes.extracts (passes : Passes compression sha256 reader manifest) (member : name ∈ reader.entryNames)
    (notManifest : name ≠ MANIFEST_ENTRY) (notInherited : name ∉ INHERITED_NAMES) :
    (reader.extractTo compression name).opened = true ∧
      ∃ data, (reader.extractTo compression name).result = .ok data := by
  have covered := passes.covered name member notManifest
  simp only [BackupManifest.covers, Bool.or_eq_true, List.contains_iff_mem, notInherited, or_false] at covered
  obtain ⟨hash, _, hashed⟩ := hash_of_lists passes.matching covered
  exact extracts_of_hash hashed

theorem mem_blobNames : name ∈ blobNames names ↔ name ∈ names ∧ BLOB_PREFIX.isPrefixOf name = true := List.mem_filter

theorem blob_apart (isBlob : BLOB_PREFIX.isPrefixOf name = true) :
    name ≠ MANIFEST_ENTRY ∧ name ∉ INHERITED_NAMES := by
  have apart : ∀ other ∈ MANIFEST_ENTRY :: INHERITED_NAMES, BLOB_PREFIX.isPrefixOf other = false := by decide +kernel
  constructor
  · rintro rfl
    rw [apart _ (by simp)] at isBlob
    cases isBlob
  · intro member
    rw [apart name (by simp [member])] at isBlob
    cases isBlob

/-- Surroundings in which nothing fails. -/
def permissiveSurroundings : Surroundings := ⟨.ok (), .ok (), fun _ => permissive, .ok true⟩

theorem replaceRows_permissive (passes : Passes compression sha256 reader manifest) :
    replaceRows compression reader permissiveSurroundings = .ok () := by
  have apart : SNAPSHOT_ENTRY ≠ MANIFEST_ENTRY ∧ SNAPSHOT_ENTRY ∉ INHERITED_NAMES := by decide +kernel
  obtain ⟨_, data, extracted⟩ := passes.extracts (OrderedMap.has_iff.mp passes.snapshot) apart.1 apart.2
  rw [replaceRows, bind_eq_ok]
  exact ⟨data, extracted, rfl⟩

theorem mem_restoreArchive {surroundings : Surroundings} {path : Path}
    (member : path ∈ (restoreArchive compression sha256 style root archive surroundings).writes) :
    ∃ reader manifest, openArchive archive = .ok reader ∧ readManifestOnly compression reader = .ok manifest ∧
      Passes compression sha256 reader manifest ∧
      path ∈ (extractBlobs compression style root reader surroundings.files 0 reader.entryNames).1 := by
  cases prepared : prepare compression sha256 archive surroundings with
  | error message => simp [restoreArchive, prepared] at member
  | ok reader =>
    obtain ⟨opens, ⟨manifest, isManifest, passes⟩, _⟩ := prepare_eq_ok.mp prepared
    cases removed : surroundings.removal with
    | error message => simp [restoreArchive, prepared, replaceBlobTree, removed] at member
    | ok removal =>
      cases removal
      simp only [restoreArchive, prepared, replaceBlobTree, removed] at member
      exact ⟨reader, manifest, opens, isManifest, passes, member⟩

/-- In surroundings in which nothing fails an archive that passes has its blobs written, up to the first whose target is
no path. -/
theorem restoreArchive_permissive (opens : openArchive archive = .ok reader)
    (isManifest : readManifestOnly compression reader = .ok manifest)
    (passes : Passes compression sha256 reader manifest) {early late : List JsString}
    (isNames : blobNames reader.entryNames = early ++ name :: late)
    (noNull : ∀ passed ∈ early ++ [name], hasNull (blobTarget style root passed) = false) :
    blobTarget style root name ∈
      (restoreArchive compression sha256 style root archive permissiveSurroundings).writes := by
  have prepared := prepare_eq_ok.mpr ⟨opens, ⟨manifest, isManifest, passes⟩, replaceRows_permissive passes⟩
  rw [restoreArchive, prepared]
  apply extractBlobs_permissive _ isNames noNull
  intro blob member
  obtain ⟨isEntry, isBlob⟩ := mem_blobNames.mp member
  exact passes.extracts isEntry (blob_apart isBlob).1 (blob_apart isBlob).2

/-- An archive's restore writes inside whatever the surroundings are exactly when its blobs lead inside. -/
theorem restoreArchive_inside_iff (archive : Bytes) :
    (∀ surroundings, ∀ path ∈ (restoreArchive compression sha256 style root archive surroundings).writes,
        Inside root path) ↔
      LeadsInside compression sha256 style root archive := by
  constructor
  · intro inside reader manifest opens isManifest passes early name late isNames noNull
    exact inside _ _ (restoreArchive_permissive opens isManifest passes isNames noNull)
  · intro leads surroundings path member
    obtain ⟨reader, manifest, opens, isManifest, passes, written⟩ := mem_restoreArchive member
    obtain ⟨early, name, late, isNames, rfl, noNull⟩ := mem_extractBlobs written
    exact leads reader manifest opens isManifest passes early name late isNames noNull

section

variable (compression : Compression) (sha256 : Bytes → JsString) (style : PathStyle) (root : Path)

/-- A confirmed restore writes inside the evidence tree exactly when the blobs of the upload lead inside, and
verification covers an archive exactly when no unlisted entry hides behind a name that every object inherits. -/
theorem restores_stay_inside_iff (pending : OrderedMap JsString PendingRestore) (uploadId confirmToken : JsString) :
    ((∀ surroundings, ∀ path ∈
          (confirm compression sha256 style root pending uploadId confirmToken surroundings).writes, Inside root path) ↔
        ∀ request, pending.get? uploadId = some request →
          encodeUtf8 confirmToken = encodeUtf8 request.confirmToken →
            LeadsInside compression sha256 style root request.archive) ∧
      ∀ archive, VerifiedIsCovered compression sha256 archive ↔
        ∀ reader manifest, openArchive archive = .ok reader → readManifestOnly compression reader = .ok manifest →
          NoneHidden compression sha256 reader manifest := by
  refine ⟨?_, verified_is_covered_iff⟩
  cases isPending : pending.get? uploadId with
  | none => simp [confirm, isPending]
  | some request =>
    by_cases accepted : encodeUtf8 confirmToken = encodeUtf8 request.confirmToken
    · simp [confirm, isPending, accepted, restoreArchive_inside_iff]
    · simp [confirm, isPending, accepted]

end

/-! ## A crafted archive -/

/-- The digest of no bytes. -/
def emptyHash : JsString := utf16 "e3b0c44298fc1c149afbf4c8996fb92427ae41e4649b934ca495991b7852b855"

def escapingText : JsString :=
  utf16 "\x7b\"schemaVersion\":83,\"createdAtUtc\":\"\",\"custody\":\"file\",\"files\":\x7b\"snapshot.sqlite\":\"" ++
    emptyHash ++ utf16 "\",\"blobs/../key\":\"" ++ emptyHash ++ utf16 "\"\x7d\x7d"

/-- A blob whose name goes up, and an entry that the manifest does not list. -/
def escapingAdditions : List Addition :=
  [.buffer MANIFEST_ENTRY (encodeUtf8 escapingText), .buffer SNAPSHOT_ENTRY [], .buffer (utf16 "blobs/../key") [],
    .buffer (utf16 "constructor") []]

theorem escaping_names : (escapingAdditions.map Addition.name).Nodup := by decide +kernel

theorem escaping_wellFormed : ∀ addition ∈ escapingAdditions, WellFormed addition.name := by
  intro addition member
  simp only [escapingAdditions, List.mem_cons, List.not_mem_nil, or_false] at member
  obtain rfl | rfl | rfl | rfl := member
  · exact ⟨"manifest.json", rfl⟩
  · exact ⟨"snapshot.sqlite", rfl⟩
  · exact ⟨"blobs/../key", rfl⟩
  · exact ⟨"constructor", rfl⟩

theorem escaping_admissible : Admissible storedBlocks escapingAdditions := by
  constructor
  · decide
  · intro addition member
    simp only [escapingAdditions, List.mem_cons, List.not_mem_nil, or_false] at member
    obtain rfl | rfl | rfl | rfl := member
    · exact ⟨⟨by decide +kernel, by decide +kernel, by decide +kernel⟩, by simp⟩
    · exact ⟨⟨by decide +kernel, by decide +kernel, by decide +kernel⟩, by simp⟩
    · exact ⟨⟨by decide +kernel, by decide +kernel, by decide +kernel⟩, by simp⟩
    · exact ⟨⟨by decide +kernel, by decide +kernel, by decide +kernel⟩, by simp⟩
  · decide +kernel

def escapingManifest : BackupManifest :=
  { schemaVersion := 83, createdAtUtc := [], custody := utf16 "file"
    files := [(SNAPSHOT_ENTRY, emptyHash), (utf16 "blobs/../key", emptyHash)] }

theorem storedBlocks_inflates (data : Bytes) : storedBlocks.inflateRaw (storedBlocks.deflateRaw data) = .ok data := by
  simp [storedBlocks, littleEndian]

section

variable {additions : List Addition} (admissible : Admissible storedBlocks additions)
  (distinct : (additions.map Addition.name).Nodup) (wellFormed : ∀ addition ∈ additions, WellFormed addition.name)
  {addition : Addition} (member : addition ∈ additions)

include distinct wellFormed member

theorem hasEntry_readerOf : (readerOf storedBlocks additions).hasEntry addition.name = true := by
  apply OrderedMap.has_iff.mpr
  have names := (@entryNames_readerOf storedBlocks additions distinct wellFormed).1
  rw [ZipFileReader.entryNames] at names
  rw [names]
  exact List.mem_map_of_mem member

include admissible

theorem entry_readerOf :
    (readerOf storedBlocks additions).readEntry storedBlocks addition.name = .ok addition.data ∧
      (readerOf storedBlocks additions).hashEntry storedBlocks sha256 addition.name = .ok (sha256 addition.data) := by
  obtain ⟨early, late, isAdditions⟩ := List.append_of_mem member
  exact ⟨readEntry_readerOf admissible distinct wellFormed isAdditions storedBlocks_inflates,
    hashEntry_readerOf admissible distinct wellFormed isAdditions storedBlocks_inflates⟩

end

theorem escaping_manifest :
    readManifestOnly storedBlocks (readerOf storedBlocks escapingAdditions) = .ok escapingManifest := by
  have parsed : (parseJsonText (decodeUtf8 (encodeUtf8 escapingText))).toOption = some escapingManifest := by
    decide +kernel
  rw [SiftKit.Failure.toOption_eq_some] at parsed
  have first : Addition.buffer MANIFEST_ENTRY (encodeUtf8 escapingText) ∈ escapingAdditions := by simp [escapingAdditions]
  have isEntry := hasEntry_readerOf escaping_names escaping_wellFormed first
  have isRead := (@entry_readerOf (fun _ => []) _ escaping_admissible escaping_names escaping_wellFormed _ first).1
  rw [Addition.name] at isEntry isRead
  rw [readManifestOnly, isEntry, isRead, ← parsed]
  simp only [Bool.not_true, Bool.false_eq_true, if_false, Except.bind, Addition.data]

theorem escaping_passes :
    Passes storedBlocks (fun _ => emptyHash) (readerOf storedBlocks escapingAdditions) escapingManifest := by
  have names := (@entryNames_readerOf storedBlocks _ escaping_names escaping_wellFormed).1
  have snapshot : Addition.buffer SNAPSHOT_ENTRY [] ∈ escapingAdditions := by simp [escapingAdditions]
  have blob : Addition.buffer (utf16 "blobs/../key") [] ∈ escapingAdditions := by simp [escapingAdditions]
  constructor
  · intro entry member
    simp only [escapingManifest, List.mem_cons, List.not_mem_nil, or_false] at member
    cases member with
    | inl isSnapshot =>
      subst isSnapshot
      exact ⟨hasEntry_readerOf escaping_names escaping_wellFormed snapshot,
        (entry_readerOf escaping_admissible escaping_names escaping_wellFormed snapshot).2⟩
    | inr isBlob =>
      subst isBlob
      exact ⟨hasEntry_readerOf escaping_names escaping_wellFormed blob,
        (entry_readerOf escaping_admissible escaping_names escaping_wellFormed blob).2⟩
  · rw [names]
    decide +kernel
  · rfl
  · exact hasEntry_readerOf escaping_names escaping_wellFormed snapshot

/-- A confirmed restore of the crafted archive writes beside the evidence tree, and its verification succeeds on an entry
that the manifest does not list. -/
theorem crafted_archive_leaves_the_tree :
    ∃ archive, writeArchive storedBlocks escapingAdditions = .ok archive ∧
      (∃ path ∈ (confirm storedBlocks (fun _ => emptyHash) .posix [utf16 "evidence"]
          (OrderedMap.ofEntries [(utf16 "upload", ⟨archive, utf16 "token"⟩)]) (utf16 "upload") (utf16 "token")
          permissiveSurroundings).writes, ¬Inside [utf16 "evidence"] path) ∧
      ¬VerifiedIsCovered storedBlocks (fun _ => emptyHash) archive := by
  refine ⟨archiveOf storedBlocks escapingAdditions, writeArchive_eq escaping_admissible, ?_, ?_⟩
  · refine ⟨[utf16 "key"], ?_, ?_⟩
    · have names := (@entryNames_readerOf storedBlocks _ escaping_names escaping_wellFormed).1
      have blobs : blobNames (readerOf storedBlocks escapingAdditions).entryNames = [] ++ utf16 "blobs/../key" :: [] := by
        rw [names]
        decide +kernel
      have noNull : ∀ passed ∈ [] ++ [utf16 "blobs/../key"],
          hasNull (blobTarget .posix [utf16 "evidence"] passed) = false := by decide +kernel
      have target : blobTarget .posix [utf16 "evidence"] (utf16 "blobs/../key") = [utf16 "key"] := by decide +kernel
      have written := restoreArchive_permissive (openArchive_eq escaping_admissible) escaping_manifest escaping_passes
        blobs noNull
      rw [target] at written
      simpa [confirm, OrderedMap.ofEntries] using written
    · rintro ⟨below, _, isPath⟩
      have apart : utf16 "key" ≠ utf16 "evidence" := by decide
      exact apart (List.cons_eq_cons.mp isPath).1
  · intro covered
    have verified := verifyEntries_eq_ok.mpr ⟨_, escaping_manifest, escaping_passes.matching, escaping_passes.covered⟩
    obtain ⟨manifest, isManifest, lists, _⟩ := covered _ (openArchive_eq escaping_admissible) verified
    cases escaping_manifest.symm.trans isManifest
    have names := (@entryNames_readerOf storedBlocks _ escaping_names escaping_wellFormed).1
    obtain ⟨hash, listed, _⟩ := lists (utf16 "constructor") (by rw [names]; decide +kernel) (by decide)
    have unlisted : escapingManifest.lists (utf16 "constructor") = false := by decide
    rw [lists_iff.mpr ⟨hash, listed⟩] at unlisted
    cases unlisted

end SiftKit.Restore
