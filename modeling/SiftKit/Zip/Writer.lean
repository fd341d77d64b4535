import SiftKit.Zip.Format

/-! # Writing an archive

`lib/zip-file-writer.ts`: entries are appended one after the other, the header of a streamed one is patched once its
bytes have been copied, and the directory comes last.
-/

namespace SiftKit.Zip

open SiftKit.ByteFields SiftKit.Json

def MAX_ZIP32_BYTES : Nat := 0xfffffffe

/-- `deflateRawSync` and `inflateRawSync`. -/
structure Compression where
  deflateRaw : Bytes → Bytes
  inflateRaw : Bytes → Except ErrorMessage Bytes

structure WrittenEntry where
  fields : ZipEntryFields
  offset : Nat

/-- A file on disk: its size when it is looked up, and what the reads of it return until one returns nothing. -/
structure SourceFile where
  path : JsString
  size : Nat
  chunks : List Bytes
  present : ∀ chunk ∈ chunks, chunk ≠ []

def SourceFile.contents (source : SourceFile) : Bytes := source.chunks.flatten

/-- The file has the size that it was looked up with. -/
def SourceFile.Steady (source : SourceFile) : Prop := source.size = source.contents.length

structure ZipFileWriter where
  file : Bytes
  entries : List WrittenEntry
  offset : Nat
  finished : Bool
  aborted : Bool

namespace ZipFileWriter

/-- `new ZipFileWriter(archivePath)`. -/
def opened : ZipFileWriter := ⟨[], [], 0, false, false⟩

def assertWritable (writer : ZipFileWriter) : Except ErrorMessage Unit :=
  if writer.finished then .error (utf16 "Zip archive already finished.")
  else if writer.aborted then .error (utf16 "Zip archive already aborted.")
  else .ok ()

def assertZip32 (value : Nat) (message : ErrorMessage) : Except ErrorMessage Unit :=
  if MAX_ZIP32_BYTES < value then .error message else .ok ()

def writeAt (writer : ZipFileWriter) (position : Nat) (data : Bytes) : ZipFileWriter :=
  { writer with file := positionalWrite writer.file position data }

def append (writer : ZipFileWriter) (data : Bytes) : ZipFileWriter :=
  { writer.writeAt writer.offset data with offset := writer.offset + data.length }

def writeEntryHeaderAndName (writer : ZipFileWriter) (name : JsString) (crc : UInt32) (method : Method)
    (compressedSize uncompressedSize : Nat) : Except ErrorMessage ZipFileWriter := do
  let fields : ZipEntryFields := { name := encodeUtf8 name, method, crc, compressedSize, uncompressedSize }
  let header ← encodeLocalHeader fields
  let pushed := { writer with entries := writer.entries ++ [WrittenEntry.mk fields writer.offset] }
  .ok ((pushed.append header).append fields.name)

def addBuffer (compression : Compression) (writer : ZipFileWriter) (name : JsString) (data : Bytes) :
    Except ErrorMessage ZipFileWriter := do
  writer.assertWritable
  let deflated := compression.deflateRaw data
  let useDeflate := decide (deflated.length < data.length)
  let payload := if useDeflate then deflated else data
  let headed ← writer.writeEntryHeaderAndName name (crc32 data) (if useDeflate then .deflate else .store)
    payload.length data.length
  .ok (headed.append payload)

/-- A chunk copied into the archive, with the checksum and the count of what was copied. -/
def copyChunk (copy : ZipFileWriter × UInt32 × Nat) (chunk : Bytes) : ZipFileWriter × UInt32 × Nat :=
  (copy.1.append chunk, crc32Update copy.2.1 chunk, copy.2.2 + chunk.length)

def copyFileContents (writer : ZipFileWriter) (source : SourceFile) (size : Nat) :
    Except ErrorMessage (ZipFileWriter × UInt32) :=
  let copy := source.chunks.foldl copyChunk (writer, CRC32_SEED, 0)
  if copy.2.2 ≠ size then
    .error (utf16 "File " ++ source.path ++
      utf16 " changed size while being archived; the archive is unusable.")
  else .ok (copy.1, crc32Finish copy.2.1)

/-- `entry.crc = crc` of the entry added last. -/
def setLastCrc (writer : ZipFileWriter) (crc : UInt32) : ZipFileWriter :=
  { writer with
    entries := writer.entries.modify (writer.entries.length - 1) fun entry =>
      { entry with fields := { entry.fields with crc } } }

def addFile (writer : ZipFileWriter) (name : JsString) (source : SourceFile) : Except ErrorMessage ZipFileWriter := do
  writer.assertWritable
  assertZip32 source.size (utf16 "File " ++ source.path ++ utf16 " is too large for a non-zip64 archive.")
  let headerOffset := writer.offset
  let headed ← writer.writeEntryHeaderAndName name 0 .store source.size source.size
  let (copied, crc) ← headed.copyFileContents source source.size
  .ok ((copied.setLastCrc crc).writeAt (headerOffset + LOCAL_HEADER_CRC_OFFSET) (littleEndian 4 crc.toNat))

def writeCentralHeader (writer : ZipFileWriter) (entry : WrittenEntry) : Except ErrorMessage ZipFileWriter := do
  let header ← encodeCentralHeader entry.fields entry.offset
  .ok ((writer.append header).append entry.fields.name)

def finish (writer : ZipFileWriter) : Except ErrorMessage ZipFileWriter := do
  writer.assertWritable
  let centralStart := writer.offset
  let directed ← writer.entries.foldlM writeCentralHeader { writer with finished := true }
  assertZip32 directed.offset (utf16 "Archive is too large for a non-zip64 end-of-central-directory.")
  let record ← encodeEocd directed.entries.length (directed.offset - centralStart) centralStart
  .ok (directed.append record)

end ZipFileWriter

/-- An entry that is added, in one of the two ways. -/
inductive Addition where
  | buffer (name : JsString) (data : Bytes)
  | file (name : JsString) (source : SourceFile)

def Addition.name : Addition → JsString
  | .buffer name _ => name
  | .file name _ => name

def Addition.data : Addition → Bytes
  | .buffer _ data => data
  | .file _ source => source.contents

def addEntry (compression : Compression) (writer : ZipFileWriter) : Addition → Except ErrorMessage ZipFileWriter
  | .buffer name data => writer.addBuffer compression name data
  | .file name source => writer.addFile name source

/-- The archive of some entries, added in order. -/
def writeArchive (compression : Compression) (additions : List Addition) : Except ErrorMessage Bytes := do
  let added ← additions.foldlM (addEntry compression) .opened
  let finished ← added.finish
  .ok finished.file

/-! ## What is written -/

section

variable (compression : Compression)

/-- The header fields of an entry, as they stand once it has been added. -/
def Addition.fields : Addition → ZipEntryFields
  | .buffer name data =>
    let deflated := compression.deflateRaw data
    let useDeflate := decide (deflated.length < data.length)
    { name := encodeUtf8 name, method := if useDeflate then .deflate else .store, crc := crc32 data
      compressedSize := (if useDeflate then deflated else data).length, uncompressedSize := data.length }
  | .file name source =>
    { name := encodeUtf8 name, method := .store, crc := crc32 source.contents
      compressedSize := source.contents.length, uncompressedSize := source.contents.length }

def Addition.payload : Addition → Bytes
  | .buffer _ data =>
    let deflated := compression.deflateRaw data
    let useDeflate := decide (deflated.length < data.length)
    if useDeflate then deflated else data
  | .file _ source => source.contents

def localRecord (addition : Addition) : Bytes :=
  localHeader (addition.fields compression) ++ ((addition.fields compression).name ++ addition.payload compression)

def localRecords (additions : List Addition) : Bytes := additions.flatMap (localRecord compression)

/-- The entries of a writer whose archive has so many bytes before them. -/
def writtenFrom : Nat → List Addition → List WrittenEntry
  | _, [] => []
  | offset, addition :: rest =>
    ⟨addition.fields compression, offset⟩ :: writtenFrom (offset + (localRecord compression addition).length) rest

/-- A writer that has added some entries. -/
def writerOf (additions : List Addition) : ZipFileWriter where
  file := localRecords compression additions
  entries := writtenFrom compression 0 additions
  offset := (localRecords compression additions).length
  finished := false
  aborted := false

/-- An entry that the fields of its headers can hold, from a file that does not change. -/
def Addition.Fits (addition : Addition) : Prop :=
  (addition.fields compression).Fits ∧
    ∀ name source, addition = .file name source → source.Steady ∧ source.size ≤ MAX_ZIP32_BYTES

def directoryOf (entries : List WrittenEntry) : Bytes :=
  entries.flatMap fun entry => centralHeader entry.fields entry.offset ++ entry.fields.name

/-- The whole archive of some entries. -/
def archiveOf (additions : List Addition) : Bytes :=
  let records := localRecords compression additions
  let directory := directoryOf (writtenFrom compression 0 additions)
  records ++ (directory ++ eocd additions.length directory.length records.length)

end

variable {compression : Compression}

theorem writtenFrom_append (offset : Nat) (early late : List Addition) :
    writtenFrom compression offset (early ++ late) =
      writtenFrom compression offset early ++
        writtenFrom compression (offset + (localRecords compression early).length) late := by
  induction early generalizing offset with
  | nil => simp [writtenFrom, localRecords]
  | cons addition rest ih =>
    simp only [List.cons_append, writtenFrom, ih, localRecords, List.flatMap_cons, List.length_append,
      Nat.add_assoc]

@[simp] theorem length_writtenFrom (offset : Nat) (additions : List Addition) :
    (writtenFrom compression offset additions).length = additions.length := by
  induction additions generalizing offset with
  | nil => rfl
  | cons addition rest ih => simp [writtenFrom, ih]

variable (done : List Addition) {additions : List Addition}

theorem writerOf_append (addition : Addition) :
    writerOf compression (done ++ [addition]) =
      { writerOf compression done with
        file := localRecords compression done ++ localRecord compression addition
        entries := writtenFrom compression 0 done ++
          [⟨addition.fields compression, (localRecords compression done).length⟩]
        offset := (localRecords compression done).length + (localRecord compression addition).length } := by
  simp [writerOf, localRecords, writtenFrom_append, writtenFrom]

variable {name : JsString}

namespace ZipFileWriter

variable {writer : ZipFileWriter}

theorem append_eq (atEnd : writer.offset = writer.file.length) (data : Bytes) :
    writer.append data =
      { writer with file := writer.file ++ data, offset := writer.offset + data.length } := by
  simp [append, writeAt, atEnd, positionalWrite_end]

theorem append_append (atEnd : writer.offset = writer.file.length) (early late : Bytes) :
    (writer.append early).append late = writer.append (early ++ late) := by
  have stillAtEnd : (writer.append early).offset = (writer.append early).file.length := by
    simp [append_eq atEnd, atEnd]
  rw [append_eq stillAtEnd, append_eq atEnd, append_eq atEnd]
  simp [Nat.add_assoc]

theorem writeEntryHeaderAndName_eq {crc : UInt32} {method : Method}
    {compressedSize uncompressedSize : Nat} (atEnd : writer.offset = writer.file.length)
    (fits : ZipEntryFields.Fits { name := encodeUtf8 name, method, crc, compressedSize, uncompressedSize }) :
    writer.writeEntryHeaderAndName name crc method compressedSize uncompressedSize =
      let fields : ZipEntryFields := { name := encodeUtf8 name, method, crc, compressedSize, uncompressedSize }
      .ok ({ writer with entries := writer.entries ++ [WrittenEntry.mk fields writer.offset] }.append
        (localHeader fields ++ fields.name)) := by
  rw [writeEntryHeaderAndName, encodeLocalHeader_eq fits]
  simp only [bind, Except.bind]
  rw [append_append (by exact atEnd)]

theorem foldl_copyChunk (chunks : List Bytes) (atEnd : writer.offset = writer.file.length) (crc : UInt32)
    (copied : Nat) :
    chunks.foldl copyChunk (writer, crc, copied) =
      ({ writer with file := writer.file ++ chunks.flatten, offset := writer.offset + chunks.flatten.length },
        crc32Update crc chunks.flatten, copied + chunks.flatten.length) := by
  induction chunks generalizing writer crc copied with
  | nil => simp [crc32Update]
  | cons chunk rest ih =>
    rw [List.foldl_cons, copyChunk, append_eq atEnd, ih (by simp [atEnd])]
    simp [crc32Update, List.foldl_append, Nat.add_assoc]

theorem copyFileContents_eq (atEnd : writer.offset = writer.file.length) (source : SourceFile) :
    writer.copyFileContents source source.contents.length =
      .ok (writer.append source.contents, crc32 source.contents) := by
  rw [copyFileContents, foldl_copyChunk source.chunks atEnd, append_eq atEnd]
  simp [SourceFile.contents, crc32]

end ZipFileWriter

theorem writerOf_atEnd : (writerOf compression done).offset = (writerOf compression done).file.length :=
  rfl

theorem writerOf_append_eq (addition : Addition) :
    ({ writerOf compression done with
        entries := (writerOf compression done).entries ++
          [WrittenEntry.mk (addition.fields compression) (writerOf compression done).offset] }.append
      (localRecord compression addition)) = writerOf compression (done ++ [addition]) := by
  rw [ZipFileWriter.append_eq (by exact writerOf_atEnd done), writerOf_append]
  rfl

theorem addBuffer_eq {data : Bytes} (fits : (Addition.buffer name data).Fits compression) :
    (writerOf compression done).addBuffer compression name data =
      .ok (writerOf compression (done ++ [.buffer name data])) := by
  have unfolded : (writerOf compression done).addBuffer compression name data =
      ((writerOf compression done).writeEntryHeaderAndName name _ _ _ _).bind fun headed =>
        .ok (headed.append ((Addition.buffer name data).payload compression)) := rfl
  rw [unfolded, ZipFileWriter.writeEntryHeaderAndName_eq (writerOf_atEnd done) fits.1]
  simp only [Except.bind]
  rw [ZipFileWriter.append_append (by exact writerOf_atEnd done), List.append_assoc]
  exact congrArg Except.ok (writerOf_append_eq done (.buffer name data))

theorem localHeader_crc (fields : ZipEntryFields) : ∃ front back : Bytes, front.length = LOCAL_HEADER_CRC_OFFSET ∧
    ∀ crc : UInt32, localHeader { fields with crc } = front ++ (littleEndian 4 crc.toNat ++ back) :=
  ⟨packed [(4, LOCAL_HEADER), (2, 20), (2, 0x0800), (2, fields.method.code), (4, 0)],
    packed [(4, fields.compressedSize), (4, fields.uncompressedSize), (2, fields.name.length), (2, 0)], rfl,
    fun _ => rfl⟩

theorem modify_last (entries : List WrittenEntry) (last : WrittenEntry) (change : WrittenEntry → WrittenEntry) :
    (entries ++ [last]).modify ((entries ++ [last]).length - 1) change = entries ++ [change last] := by
  rw [List.length_append, List.length_singleton, Nat.add_sub_cancel]
  induction entries with
  | nil => rfl
  | cons entry rest ih => simpa using ih

theorem addFile_eq {source : SourceFile} (fits : (Addition.file name source).Fits compression) :
    (writerOf compression done).addFile name source =
      .ok (writerOf compression (done ++ [.file name source])) := by
  obtain ⟨steady, small⟩ := fits.2 name source rfl
  have unfolded : (writerOf compression done).addFile name source =
      (ZipFileWriter.assertZip32 source.size _).bind fun _ =>
        ((writerOf compression done).writeEntryHeaderAndName name 0 .store source.size source.size).bind fun headed =>
          (headed.copyFileContents source source.size).bind fun copy =>
            .ok ((copy.1.setLastCrc copy.2).writeAt
              ((writerOf compression done).offset + LOCAL_HEADER_CRC_OFFSET) (littleEndian 4 copy.2.toNat)) := rfl
  have allowed : ∀ message, ZipFileWriter.assertZip32 source.size message = .ok () := by
    intro message
    rw [ZipFileWriter.assertZip32, if_neg (Nat.not_lt.mpr small)]
  have atEnd := @writerOf_atEnd compression done
  -- The header goes out without a checksum, and is otherwise the entry's.
  let blank : ZipEntryFields := { (Addition.file name source).fields compression with crc := 0 }
  rw [unfolded, allowed]
  simp only [Except.bind]
  rw [steady, ZipFileWriter.writeEntryHeaderAndName_eq atEnd (by exact fits.1)]
  simp only
  rw [ZipFileWriter.append_eq (by exact atEnd), ZipFileWriter.copyFileContents_eq (by simp [atEnd]),
    ZipFileWriter.append_eq (by simp [atEnd])]
  simp only [ZipFileWriter.setLastCrc, modify_last, ZipFileWriter.writeAt]
  obtain ⟨front, back, isFront, header⟩ := localHeader_crc ((Addition.file name source).fields compression)
  have patched : positionalWrite
      ((writerOf compression done).file ++ (localHeader blank ++ blank.name) ++ source.contents)
      ((writerOf compression done).offset + LOCAL_HEADER_CRC_OFFSET) (littleEndian 4 (crc32 source.contents).toNat) =
      localRecords compression done ++ localRecord compression (.file name source) := by
    have split : (writerOf compression done).file ++ (localHeader blank ++ blank.name) ++ source.contents =
        (localRecords compression done ++ front) ++
          (littleEndian 4 (0 : UInt32).toNat ++ (back ++ (blank.name ++ source.contents))) := by
      rw [show localHeader blank = _ from header 0]
      simp [writerOf]
    have whole : localHeader ((Addition.file name source).fields compression) = _ := header (crc32 source.contents)
    rw [split, positionalWrite_over (by simp [writerOf, isFront]) (by simp), localRecord, whole]
    simp [Addition.payload, blank]
  rw [writerOf_append]
  apply congrArg Except.ok
  rw [ZipFileWriter.mk.injEq]
  refine ⟨patched, rfl, ?_, rfl, rfl⟩
  simp [writerOf, localRecord, Addition.fields, Addition.payload, Nat.add_assoc]

theorem addEntry_eq {addition : Addition} (fits : addition.Fits compression) :
    addEntry compression (writerOf compression done) addition = .ok (writerOf compression (done ++ [addition])) := by
  cases addition with
  | buffer name data => exact addBuffer_eq done fits
  | file name source => exact addFile_eq done fits

theorem foldlM_addEntry (fits : ∀ addition ∈ additions, addition.Fits compression) :
    additions.foldlM (addEntry compression) (writerOf compression done) =
      .ok (writerOf compression (done ++ additions)) := by
  induction additions generalizing done with
  | nil => simp [pure, Except.pure]
  | cons addition rest ih =>
    have first := addEntry_eq done (fits addition (by simp))
    have others := ih (done ++ [addition]) (fun later member => fits later (by simp [member]))
    rw [List.foldlM_cons, first]
    simpa [bind, Except.bind] using others

theorem foldlM_writeCentralHeader {writer : ZipFileWriter} (atEnd : writer.offset = writer.file.length)
    {entries : List WrittenEntry} (fits : ∀ entry ∈ entries, entry.fields.Fits ∧ entry.offset < 0x100000000) :
    entries.foldlM ZipFileWriter.writeCentralHeader writer = .ok (writer.append (directoryOf entries)) := by
  induction entries generalizing writer with
  | nil => simp [pure, Except.pure, directoryOf, ZipFileWriter.append_eq atEnd]
  | cons entry rest ih =>
    obtain ⟨fieldsFit, offsetFits⟩ := fits entry (by simp)
    have first : writer.writeCentralHeader entry =
        .ok (writer.append (centralHeader entry.fields entry.offset ++ entry.fields.name)) := by
      rw [ZipFileWriter.writeCentralHeader, encodeCentralHeader_eq fieldsFit offsetFits]
      simp only [bind, Except.bind]
      rw [ZipFileWriter.append_append atEnd]
    have stillAtEnd : (writer.append (centralHeader entry.fields entry.offset ++ entry.fields.name)).offset =
        (writer.append (centralHeader entry.fields entry.offset ++ entry.fields.name)).file.length := by
      simp [ZipFileWriter.append_eq atEnd, atEnd]
    have others := ih stillAtEnd (fun later member => fits later (by simp [member]))
    rw [List.foldlM_cons, first]
    simp only [bind, Except.bind, others]
    rw [ZipFileWriter.append_append atEnd]
    simp [directoryOf]

theorem mem_writtenFrom {offset : Nat} {entry : WrittenEntry}
    (member : entry ∈ writtenFrom compression offset additions) :
    ∃ early addition late, additions = early ++ addition :: late ∧ entry.fields = addition.fields compression ∧
      entry.offset = offset + (localRecords compression early).length := by
  induction additions generalizing offset with
  | nil => cases member
  | cons addition rest ih =>
    rw [writtenFrom, List.mem_cons] at member
    cases member with
    | inl isFirst => exact ⟨[], addition, rest, rfl, by simp [isFirst], by simp [isFirst, localRecords]⟩
    | inr later =>
      obtain ⟨early, found, late, isRest, isFields, isOffset⟩ := ih later
      refine ⟨addition :: early, found, late, by simp [isRest], isFields, ?_⟩
      simp [isOffset, localRecords, Nat.add_assoc]

/-- What an archive may hold: fewer entries than a count holds, each within its fields, and a directory that ends within
the limit. -/
structure Admissible (compression : Compression) (additions : List Addition) : Prop where
  few : additions.length < 0x10000
  fits : ∀ addition ∈ additions, addition.Fits compression
  small : (localRecords compression additions).length +
    (directoryOf (writtenFrom compression 0 additions)).length ≤ MAX_ZIP32_BYTES

/-- Admissible entries make an archive: their records, the directory and its end. -/
theorem writeArchive_eq (admissible : Admissible compression additions) :
    writeArchive compression additions = .ok (archiveOf compression additions) := by
  have small := admissible.small
  simp only [MAX_ZIP32_BYTES] at small
  have entriesFit : ∀ entry ∈ writtenFrom compression 0 additions, entry.fields.Fits ∧ entry.offset < 0x100000000 := by
    intro entry member
    obtain ⟨early, addition, late, isAdditions, isFields, isOffset⟩ := mem_writtenFrom member
    have fits := (admissible.fits addition (by simp [isAdditions])).1
    rw [isAdditions, localRecords, List.flatMap_append, List.length_append] at small
    rw [localRecords] at isOffset
    exact ⟨isFields ▸ fits, by omega⟩
  have atEnd := @writerOf_atEnd compression additions
  let closing : ZipFileWriter := { writerOf compression additions with finished := true }
  have closingAtEnd : closing.offset = closing.file.length := atEnd
  have unfolded : (writerOf compression additions).finish =
      (closing.entries.foldlM ZipFileWriter.writeCentralHeader closing).bind fun directed =>
        (ZipFileWriter.assertZip32 directed.offset _).bind fun _ =>
          (encodeEocd directed.entries.length (directed.offset - closing.offset) closing.offset).bind fun record =>
            .ok (directed.append record) := rfl
  have allowed : ∀ message, ZipFileWriter.assertZip32
      (closing.append (directoryOf (writtenFrom compression 0 additions))).offset message = .ok () := by
    intro message
    rw [ZipFileWriter.assertZip32, if_neg]
    rw [ZipFileWriter.append_eq closingAtEnd]
    simpa [closing, writerOf, MAX_ZIP32_BYTES] using small
  have record : encodeEocd (closing.append (directoryOf (writtenFrom compression 0 additions))).entries.length
      ((closing.append (directoryOf (writtenFrom compression 0 additions))).offset - closing.offset) closing.offset =
      .ok (eocd additions.length (directoryOf (writtenFrom compression 0 additions)).length
        (localRecords compression additions).length) := by
    rw [ZipFileWriter.append_eq closingAtEnd]
    simp only [closing, writerOf, length_writtenFrom, Nat.add_sub_cancel_left]
    exact encodeEocd_eq admissible.few (by omega) (by omega)
  have finished : (writerOf compression additions).finish = .ok
      (closing.append (directoryOf (writtenFrom compression 0 additions) ++
        eocd additions.length (directoryOf (writtenFrom compression 0 additions)).length
          (localRecords compression additions).length)) := by
    rw [unfolded, show closing.entries = writtenFrom compression 0 additions from rfl,
      foldlM_writeCentralHeader closingAtEnd entriesFit]
    simp only [Except.bind, allowed, record]
    rw [ZipFileWriter.append_append closingAtEnd]
  have added : additions.foldlM (addEntry compression) .opened = .ok (writerOf compression additions) :=
    foldlM_addEntry [] admissible.fits
  rw [writeArchive, added]
  simp only [bind, Except.bind, finished]
  rw [ZipFileWriter.append_eq closingAtEnd]
  rfl

end SiftKit.Zip
