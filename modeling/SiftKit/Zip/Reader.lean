import SiftKit.Foundation.OrderedMap
import SiftKit.Zip.Writer

/-! # Reading an archive

`lib/zip-file-reader.ts`: the directory is found from the end of the file, and what is read of an entry is checked
against the checksum that the directory has of it.
-/

namespace SiftKit.Zip

open SiftKit.ByteFields SiftKit.Json

def READ_CHUNK_BYTES : Nat := 1024 * 1024

structure DirectoryEntry where
  method : Method
  crc : Nat
  compressedSize : Nat
  uncompressedSize : Nat
  localOffset : Nat

/-- An archive on disk, with its directory. -/
structure ZipFileReader where
  archive : Bytes
  directory : OrderedMap JsString DirectoryEntry

/-- A short read throws. -/
def readExactly (archive : Bytes) (length position : Nat) : Except ErrorMessage Bytes :=
  if length = 0 then .ok []
  else (slice archive position length).elim (.error (utf16 "Zip archive ended before the expected number of bytes.")) .ok

def DecodedCentralEntry.entry (decoded : DecodedCentralEntry) : DirectoryEntry :=
  { method := decoded.method, crc := decoded.crc, compressedSize := decoded.compressedSize
    uncompressedSize := decoded.uncompressedSize, localOffset := decoded.localOffset }

/-- So many records of the directory from a cursor on. -/
def decodeRecords (central : Bytes) : Nat → Nat → Except ErrorMessage (List (JsString × DirectoryEntry))
  | 0, _ => .ok []
  | count + 1, cursor => do
    let decoded ← decodeCentralHeader central cursor
    let rest ← decodeRecords central count (cursor + decoded.recordLength)
    .ok ((decoded.name, decoded.entry) :: rest)

def readCentralDirectory (archive : Bytes) : Except ErrorMessage (OrderedMap JsString DirectoryEntry) := do
  let tailLength := min archive.length (EOCD_SIZE + MAX_COMMENT_LENGTH)
  let tail ← readExactly archive tailLength (archive.length - tailLength)
  let eocdOffset ← findEocdOffset tail
  let entryCount ← readOrThrow 2 tail (eocdOffset + 10)
  let centralSize ← readOrThrow 4 tail (eocdOffset + 12)
  let centralStart ← readOrThrow 4 tail (eocdOffset + 16)
  let central ← readExactly archive centralSize centralStart
  let records ← decodeRecords central entryCount 0
  .ok (OrderedMap.ofEntries records)

/-- `ZipFileReader.open(archivePath)`. -/
def openArchive (archive : Bytes) : Except ErrorMessage ZipFileReader :=
  (readCentralDirectory archive).map fun directory => ⟨archive, directory⟩

def crcFailure (name : JsString) : ErrorMessage := utf16 "Zip entry " ++ name ++ utf16 " failed its CRC check."

/-- What a sink was given, and how the walk ended. -/
structure Walk where
  chunks : List Bytes
  outcome : Except ErrorMessage Unit

/-- The chunks of a stored entry from a position on. -/
def walkChunks (archive : Bytes) (position remaining : Nat) : Walk :=
  if finished : remaining = 0 then ⟨[], .ok ()⟩
  else
    let toRead := min READ_CHUNK_BYTES remaining
    match readExactly archive toRead position with
    | .error message => ⟨[], .error message⟩
    | .ok view =>
      have shorter : remaining - min READ_CHUNK_BYTES remaining < remaining := by
        simp only [READ_CHUNK_BYTES]
        omega
      let rest := walkChunks archive (position + toRead) (remaining - toRead)
      ⟨view :: rest.chunks, rest.outcome⟩
termination_by remaining

/-- A file that is extracted: whether it was opened for writing, and its bytes, or why there is none. -/
structure Extraction where
  opened : Bool
  result : Except ErrorMessage Bytes

namespace ZipFileReader

variable {Digest : Type} (compression : Compression) (sha256 : Bytes → Digest)

def entryNames (reader : ZipFileReader) : List JsString := reader.directory.keys

def hasEntry (reader : ZipFileReader) (name : JsString) : Bool := reader.directory.has name

def requireEntry (reader : ZipFileReader) (name : JsString) : Except ErrorMessage DirectoryEntry :=
  (reader.directory.get? name).elim (.error (utf16 "Zip archive has no entry named " ++ name ++ utf16 ".")) .ok

def dataStart (reader : ZipFileReader) (entry : DirectoryEntry) : Except ErrorMessage Nat := do
  let header ← readExactly reader.archive LOCAL_HEADER_SIZE entry.localOffset
  localHeaderDataOffset entry.localOffset header

def inflated (method : Method) (compressed : Bytes) : Except ErrorMessage Bytes :=
  match method with
  | .deflate => compression.inflateRaw compressed
  | .store => .ok compressed

def readEntry (reader : ZipFileReader) (name : JsString) : Except ErrorMessage Bytes := do
  let entry ← reader.requireEntry name
  let start ← reader.dataStart entry
  let compressed ← readExactly reader.archive entry.compressedSize start
  let data ← inflated compression entry.method compressed
  if (crc32 data).toNat ≠ entry.crc then .error (crcFailure name) else .ok data

def walkStored (reader : ZipFileReader) (name : JsString) (entry : DirectoryEntry) : Walk :=
  match reader.dataStart entry with
  | .error message => ⟨[], .error message⟩
  | .ok start =>
    let walk := walkChunks reader.archive start entry.compressedSize
    match walk.outcome with
    | .error message => ⟨walk.chunks, .error message⟩
    | .ok () =>
      if (crc32Finish (walk.chunks.foldl crc32Update CRC32_SEED)).toNat ≠ entry.crc then
        ⟨walk.chunks, .error (crcFailure name)⟩
      else walk

def hashEntry (reader : ZipFileReader) (name : JsString) : Except ErrorMessage Digest := do
  let entry ← reader.requireEntry name
  match entry.method with
  | .deflate => (reader.readEntry compression name).map sha256
  | .store =>
    let walk := reader.walkStored name entry
    walk.outcome.map fun _ => sha256 walk.chunks.flatten

/-- `extractTo(name, destinationPath)`: a stored entry goes to the file as it is walked, and the file is removed again
where that fails. -/
def extractTo (reader : ZipFileReader) (name : JsString) : Extraction :=
  match reader.requireEntry name with
  | .error message => ⟨false, .error message⟩
  | .ok entry =>
    match entry.method with
    | .deflate =>
      match reader.readEntry compression name with
      | .error message => ⟨false, .error message⟩
      | .ok data => ⟨true, .ok data⟩
    | .store =>
      let walk := reader.walkStored name entry
      ⟨true, walk.outcome.map fun _ => walk.chunks.flatten⟩

end ZipFileReader

/-! ## Opening -/

theorem readExactly_at {archive early middle late : Bytes} {length position : Nat}
    (isArchive : archive = early ++ (middle ++ late)) (isLength : length = middle.length)
    (isPosition : position = early.length) : readExactly archive length position = .ok middle := by
  rw [readExactly, isArchive, slice_at isPosition isLength]
  by_cases empty : length = 0
  · have isEmpty : middle = [] := List.eq_nil_of_length_eq_zero (by omega)
    simp [empty, isEmpty]
  · simp [empty]

theorem findEocdFrom_here {tail : Bytes} {index : Nat} (found : readNumber 4 tail index = some EOCD) :
    findEocdFrom tail index = .ok index := by
  cases index with
  | zero => simp [findEocdFrom, found]
  | succ index => simp [findEocdFrom, found]

theorem decodeRecords_eq {entries : List WrittenEntry}
    (fits : ∀ entry ∈ entries, entry.fields.Fits ∧ entry.offset < 0x100000000) (before : Bytes) :
    decodeRecords (before ++ directoryOf entries) entries.length before.length =
      .ok (entries.map fun entry =>
        (decodeUtf8 entry.fields.name,
          ⟨entry.fields.method, entry.fields.crc.toNat, entry.fields.compressedSize, entry.fields.uncompressedSize,
            entry.offset⟩)) := by
  induction entries generalizing before with
  | nil => rfl
  | cons entry rest ih =>
    obtain ⟨fieldsFit, offsetFits⟩ := fits entry (by simp)
    have isDirectory : before ++ directoryOf (entry :: rest) =
        before ++ (centralHeader entry.fields entry.offset ++ (entry.fields.name ++ directoryOf rest)) := by
      simp [directoryOf]
    have first := decodeCentralHeader_eq fieldsFit offsetFits before (directoryOf rest)
    have others := ih (fun later member => fits later (by simp [member]))
      (before ++ (centralHeader entry.fields entry.offset ++ entry.fields.name))
    have cursor : (before ++ (centralHeader entry.fields entry.offset ++ entry.fields.name)).length =
        before.length + (CENTRAL_HEADER_SIZE + entry.fields.name.length) := by simp
    rw [cursor] at others
    simp only [List.append_assoc] at others
    rw [isDirectory, List.length_cons, decodeRecords]
    simp only [first, bind, Except.bind, others]
    rfl

theorem readCentralDirectory_eq {body directory early : Bytes} {entryCount : Nat}
    {records : List (JsString × DirectoryEntry)} (isBody : body = early ++ directory)
    (countFits : entryCount < 0x10000) (small : body.length < 0x100000000)
    (decoded : decodeRecords directory entryCount 0 = .ok records) :
    readCentralDirectory (body ++ eocd entryCount directory.length early.length) =
      .ok (OrderedMap.ofEntries records) := by
  have startFits : early.length < 0x100000000 := by
    rw [isBody, List.length_append] at small
    omega
  have sizeFits : directory.length < 0x100000000 := by
    rw [isBody, List.length_append] at small
    omega
  let record := eocd entryCount directory.length early.length
  let tailLength := min (body ++ record).length (EOCD_SIZE + MAX_COMMENT_LENGTH)
  let skipped := (body ++ record).length - tailLength
  have archiveLength : (body ++ record).length = body.length + EOCD_SIZE := by simp [record]
  have within : skipped ≤ body.length := by
    simp only [skipped, tailLength, archiveLength, EOCD_SIZE, MAX_COMMENT_LENGTH]
    omega
  have isTail : (body ++ record) = body.take skipped ++ ((body.drop skipped ++ record) ++ []) := by
    rw [List.append_nil, ← List.append_assoc, List.take_append_drop]
  have tail : readExactly (body ++ record) tailLength skipped = .ok (body.drop skipped ++ record) := by
    apply readExactly_at isTail
    · simp only [List.length_append, List.length_drop, record, length_eocd, skipped, tailLength, EOCD_SIZE,
        MAX_COMMENT_LENGTH]
      omega
    · rw [List.length_take]
      omega
  -- A field of the record, seen from the tail.
  have field : ∀ {width offset value : Nat}, slice record offset width = some (littleEndian width value) →
      value < 0x100 ^ width →
      readNumber width (body.drop skipped ++ record) ((body.drop skipped).length + offset) = some value := by
    intro width offset value isSlice fits
    rw [readNumber_within rfl]
    exact readNumber_of_slice isSlice fits
  have found : findEocdOffset (body.drop skipped ++ record) = .ok (body.drop skipped).length := by
    have long : ¬(body.drop skipped ++ record).length < EOCD_SIZE := by simp [record]
    have last : (body.drop skipped ++ record).length - EOCD_SIZE = (body.drop skipped).length := by simp [record]
    rw [findEocdOffset, if_neg long, last]
    exact findEocdFrom_here (@field 4 0 EOCD rfl (by decide))
  have count := readOrThrow_eq_ok (@field 2 10 entryCount rfl countFits)
  have size := readOrThrow_eq_ok (@field 4 12 directory.length rfl sizeFits)
  have start := readOrThrow_eq_ok (@field 4 16 early.length rfl startFits)
  have central : readExactly (body ++ record) directory.length early.length = .ok directory :=
    readExactly_at (by rw [isBody, List.append_assoc]) rfl rfl
  rw [readCentralDirectory]
  simp only [bind, Except.bind]
  rw [show readExactly (body ++ eocd entryCount directory.length early.length) _ _ = _ from tail]
  simp only [found, count, size, start]
  rw [show readExactly (body ++ eocd entryCount directory.length early.length) _ _ = _ from central]
  simp only [decoded]

end SiftKit.Zip
