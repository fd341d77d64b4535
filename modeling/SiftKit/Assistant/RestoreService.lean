import SiftKit.Foundation.Failure
import SiftKit.Foundation.PathSegments
import SiftKit.Json.Reading
import SiftKit.Zip.Reader

/-! # Restoring a backup

`assistant/control/restore-service.ts` with `backup-format.ts`: an uploaded archive is verified against its manifest,
and its blobs replace the evidence tree.  The database, the key custody and the answers of the file system are the
surroundings of a restore.
-/

namespace SiftKit.Restore

open SiftKit.ByteFields SiftKit.Json SiftKit.PathSegments SiftKit.Zip

/-! ## The format -/

def SNAPSHOT_ENTRY : JsString := utf16 "snapshot.sqlite"

def KEY_ENTRY : JsString := utf16 "key.protected"

def MANIFEST_ENTRY : JsString := utf16 "manifest.json"

def BLOB_PREFIX : JsString := utf16 "blobs/"

def CURRENT_SCHEMA_VERSION : Nat := 83

/-- `/^[0-9a-f]{64}$/u.test(text)`. -/
def isHash (text : JsString) : Bool :=
  text.length == 64 && text.all fun unit => isDigit unit || (0x61 ≤ unit.toNat && unit.toNat ≤ 0x66)

structure BackupManifest where
  schemaVersion : Nat
  createdAtUtc : JsString
  custody : JsString
  /-- Each listed name with its hash; a record takes no key `__proto__`. -/
  files : List (JsString × JsString)
deriving DecidableEq

def parseFiles : Properties → Option (List (JsString × JsString))
  | [] => some []
  | (name, value) :: rest =>
    if name = utf16 "__proto__" then parseFiles rest
    else
      match value with
      | .string hash => if isHash hash then (parseFiles rest).map ((name, hash) :: ·) else none
      | _ => none

/-- `BackupManifestSchema.parse`. -/
def parseManifest : JsValue → Option BackupManifest
  | .object properties =>
    if (keysOf properties).all
        [utf16 "schemaVersion", utf16 "createdAtUtc", utf16 "custody", utf16 "files"].contains then
      match property properties (utf16 "schemaVersion"), property properties (utf16 "createdAtUtc"),
        property properties (utf16 "custody"), property properties (utf16 "files") with
      | .number version, .string createdAtUtc, .string custody, .object files => do
        let schemaVersion ← version.natural.filter fun value => 1 ≤ value && value ≤ 9007199254740991
        let files ← parseFiles files
        if [utf16 "file", utf16 "desktop"].contains custody then some { schemaVersion, createdAtUtc, custody, files }
        else none
      | _, _, _, _ => none
    else none
  | _ => none

/-- `parseJsonText(text, BackupManifestSchema)`. -/
def parseJsonText (text : JsString) : Except ErrorMessage BackupManifest :=
  let normalized := if text.head? = some 0xFEFF then text.tail else text
  match parse normalized with
  | none => .error (utf16 "SyntaxError")
  | some value => (parseManifest value).elim (.error (utf16 "ZodError")) .ok

/-- The names that every object has without their being its own. -/
def INHERITED_NAMES : List JsString :=
  ["constructor", "__defineGetter__", "__defineSetter__", "hasOwnProperty", "__lookupGetter__", "__lookupSetter__",
    "isPrototypeOf", "propertyIsEnumerable", "toString", "valueOf", "__proto__", "toLocaleString"].map utf16

def BackupManifest.lists (manifest : BackupManifest) (name : JsString) : Bool := (manifest.files.map Prod.fst).contains name

/-- `manifest.files[name] !== undefined`. -/
def BackupManifest.covers (manifest : BackupManifest) (name : JsString) : Bool :=
  manifest.lists name || INHERITED_NAMES.contains name

/-! ## Paths -/

inductive PathStyle where
  | posix
  | win32

def isSeparator : PathStyle → CodeUnit → Bool
  | .posix, unit => unit == 0x2F
  | .win32, unit => unit == 0x2F || unit == 0x5C

/-- The segments of an absolute path, below the root of its drive. -/
abbrev Path := List JsString

def isHere (segment : JsString) : Bool := segment.isEmpty || segment == utf16 "."

def isUp (segment : JsString) : Bool := segment == utf16 ".."

/-- `path.join(root, ...parts)`. -/
def joinPath (style : PathStyle) (root : Path) (parts : List JsString) : Path :=
  resolve isHere isUp root (parts.flatMap fun part => part.splitOnP (isSeparator style))

/-- `name.slice(BLOB_PREFIX.length).split('/')`. -/
def blobParts (name : JsString) : List JsString := (name.drop BLOB_PREFIX.length).splitOn 0x2F

/-- Where a blob is extracted to. -/
def blobTarget (style : PathStyle) (root : Path) (name : JsString) : Path := joinPath style root (blobParts name)

/-- A path with a null is no path for the file system. -/
def hasNull (path : Path) : Bool := path.any fun segment => segment.contains 0

/-! ## The service -/

/-- Whether the file system makes a directory, opens a file and writes to it. -/
structure FileAnswer where
  makes : Bool
  opens : Bool
  writes : Bool

/-- What a restore finds around it. -/
structure Surroundings where
  /-- The rows of the snapshot replace those of the database. -/
  rows : Except ErrorMessage Unit
  /-- The evidence tree is removed. -/
  removal : Except ErrorMessage Unit
  /-- The answers for one blob after the other. -/
  files : Nat → FileAnswer
  /-- The key is unsealed and taken over. -/
  key : Except ErrorMessage Bool

structure PendingRestore where
  /-- What lies at `archivePath`. -/
  archive : Bytes
  confirmToken : JsString

/-- The blobs that a restore opened for writing, and how it ended. -/
structure RestoreRun where
  writes : List Path
  outcome : Except ErrorMessage Bool

section

variable (compression : Compression) (sha256 : Bytes → JsString) (style : PathStyle) (root : Path)

def readManifestOnly (reader : ZipFileReader) : Except ErrorMessage BackupManifest :=
  if !reader.hasEntry MANIFEST_ENTRY then .error (utf16 "Backup is missing its manifest.json.")
  else (reader.readEntry compression MANIFEST_ENTRY).bind fun data => parseJsonText (decodeUtf8 data)

/-- A listed entry is there, with its hash. -/
def checkListed (reader : ZipFileReader) (entry : JsString × JsString) : Except ErrorMessage Unit := do
  if !reader.hasEntry entry.1 then .error (utf16 "Backup entry " ++ entry.1 ++ utf16 " is missing.")
  else
    let hash ← reader.hashEntry compression sha256 entry.1
    if hash ≠ entry.2 then .error (utf16 "Backup entry " ++ entry.1 ++ utf16 " failed its manifest hash check.")
    else .ok ()

def checkCovered (manifest : BackupManifest) (name : JsString) : Except ErrorMessage Unit :=
  if name ≠ MANIFEST_ENTRY ∧ manifest.covers name = false then
    .error (utf16 "Backup entry " ++ name ++ utf16 " is not covered by the manifest hash list.")
  else .ok ()

def verifyEntries (reader : ZipFileReader) : Except ErrorMessage Unit := do
  let manifest ← readManifestOnly compression reader
  manifest.files.forM (checkListed compression sha256 reader)
  reader.entryNames.forM (checkCovered manifest)

def readManifest (reader : ZipFileReader) : Except ErrorMessage BackupManifest := do
  let manifest ← readManifestOnly compression reader
  if manifest.schemaVersion ≠ CURRENT_SCHEMA_VERSION then
    .error (utf16 "Backup schema version " ++ utf16 (toString manifest.schemaVersion) ++
      utf16 " is unsupported; expected " ++ utf16 (toString CURRENT_SCHEMA_VERSION) ++ utf16 ".")
  else if !reader.hasEntry SNAPSHOT_ENTRY then .error (utf16 "Backup is missing its database snapshot.")
  else .ok manifest

/-- What the file system throws. -/
def EIO : ErrorMessage := utf16 "EIO"

/-- A blob that is extracted: the file that was opened for writing, and how the extraction ended. -/
def extractBlob (reader : ZipFileReader) (answer : FileAnswer) (name : JsString) :
    Option Path × Except ErrorMessage Unit :=
  let target := blobTarget style root name
  if hasNull target.dropLast || !answer.makes then (none, .error EIO)
  else
    let extraction := reader.extractTo compression name
    if !extraction.opened then (none, extraction.result.map fun _ => ())
    else if hasNull target || !answer.opens then (none, .error EIO)
    else (some target, if answer.writes then extraction.result.map fun _ => () else .error EIO)

/-- The loop over the entries, with the answers for the blobs from a number on. -/
def extractBlobs (reader : ZipFileReader) (files : Nat → FileAnswer) :
    Nat → List JsString → List Path × Except ErrorMessage Unit
  | _, [] => ([], .ok ())
  | number, name :: rest =>
    if !BLOB_PREFIX.isPrefixOf name then extractBlobs reader files number rest
    else
      let (written, ended) := extractBlob compression style root reader (files number) name
      match ended with
      | .error message => (written.toList, .error message)
      | .ok () =>
        let later := extractBlobs reader files (number + 1) rest
        (written.toList ++ later.1, later.2)

def replaceBlobTree (reader : ZipFileReader) (surroundings : Surroundings) : List Path × Except ErrorMessage Unit :=
  match surroundings.removal with
  | .error message => ([], .error message)
  | .ok () => extractBlobs compression style root reader surroundings.files 0 reader.entryNames

def replaceRows (reader : ZipFileReader) (surroundings : Surroundings) : Except ErrorMessage Unit := do
  let _ ← (reader.extractTo compression SNAPSHOT_ENTRY).result
  surroundings.rows

def recoverKey (reader : ZipFileReader) (surroundings : Surroundings) : Except ErrorMessage Bool :=
  if !reader.hasEntry KEY_ENTRY then .ok false
  else (reader.readEntry compression KEY_ENTRY).bind fun _ => surroundings.key

/-- What `confirm` does before it touches the evidence tree. -/
def prepare (archive : Bytes) (surroundings : Surroundings) : Except ErrorMessage ZipFileReader := do
  let reader ← openArchive archive
  verifyEntries compression sha256 reader
  let _ ← readManifest compression reader
  replaceRows compression reader surroundings
  .ok reader

def restoreArchive (archive : Bytes) (surroundings : Surroundings) : RestoreRun :=
  match prepare compression sha256 archive surroundings with
  | .error message => ⟨[], .error message⟩
  | .ok reader =>
    let replaced := replaceBlobTree compression style root reader surroundings
    ⟨replaced.1, replaced.2.bind fun _ => recoverKey compression reader surroundings⟩

/-- `confirm(uploadId, confirmToken)`. -/
def confirm (pending : OrderedMap JsString PendingRestore) (uploadId confirmToken : JsString)
    (surroundings : Surroundings) : RestoreRun :=
  match pending.get? uploadId with
  | none => ⟨[], .error (utf16 "Unknown restore upload: " ++ uploadId)⟩
  | some request =>
    if encodeUtf8 confirmToken ≠ encodeUtf8 request.confirmToken then
      ⟨[], .error (utf16 "Restore confirm token does not match this upload.")⟩
    else restoreArchive compression sha256 style root request.archive surroundings

end

end SiftKit.Restore
