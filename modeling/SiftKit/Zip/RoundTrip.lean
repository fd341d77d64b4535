import SiftKit.Foundation.Failure
import SiftKit.Zip.Reader

/-! # Archives and what was put into them

An archive returns the bytes of its entries; a part of an archive does not open unless an end record lies in it.
-/

namespace SiftKit.Zip

open SiftKit.ByteFields SiftKit.Json ZipFileReader

variable {Digest : Type} {compression : Compression} {sha256 : Bytes → Digest}

/-! ## Entries -/

def WrittenEntry.decoded (entry : WrittenEntry) : JsString × DirectoryEntry :=
  (decodeUtf8 entry.fields.name,
    ⟨entry.fields.method, entry.fields.crc.toNat, entry.fields.compressedSize, entry.fields.uncompressedSize,
      entry.offset⟩)

theorem Addition.name_fields (addition : Addition) : (addition.fields compression).name = encodeUtf8 addition.name := by
  cases addition <;> rfl

theorem Addition.crc_fields (addition : Addition) : (addition.fields compression).crc = crc32 addition.data := by
  cases addition <;> rfl

theorem Addition.length_payload (addition : Addition) :
    (addition.payload compression).length = (addition.fields compression).compressedSize := by
  cases addition <;> rfl

theorem Addition.inflated_payload (inflates : ∀ data, compression.inflateRaw (compression.deflateRaw data) = .ok data)
    (addition : Addition) :
    inflated compression (addition.fields compression).method (addition.payload compression) =
      .ok addition.data := by
  cases addition with
  | buffer name data =>
    by_cases shorter : (compression.deflateRaw data).length < data.length
    · simp [inflated, Addition.fields, Addition.payload, Addition.data, shorter, inflates]
    · simp [inflated, Addition.fields, Addition.payload, Addition.data, shorter]
  | file name source => rfl

variable {addition : Addition}

theorem Addition.stored_payload (stored : (addition.fields compression).method = .store) :
    addition.payload compression = addition.data := by
  cases addition with
  | buffer name data =>
    by_cases shorter : (compression.deflateRaw data).length < data.length
    · simp [Addition.fields, shorter] at stored
    · simp [Addition.payload, Addition.data, shorter]
  | file name source => rfl

variable {additions : List Addition}

theorem names_writtenFrom (offset : Nat)
    (wellFormed : ∀ addition ∈ additions, WellFormed addition.name) :
    (writtenFrom compression offset additions).map (fun entry => entry.decoded.1) = additions.map Addition.name := by
  induction additions generalizing offset with
  | nil => rfl
  | cons addition rest ih =>
    have name : decodeUtf8 (addition.fields compression).name = addition.name := by
      rw [Addition.name_fields, (wellFormed addition (by simp)).decodeUtf8_encodeUtf8]
    have others := ih (offset + (localRecord compression addition).length)
      (fun later member => wellFormed later (by simp [member]))
    simp only [writtenFrom, List.map_cons, WrittenEntry.decoded, name]
    exact congrArg _ others

/-- The directory's entry for an addition whose record begins at an offset. -/
def Addition.directoryEntry (compression : Compression) (addition : Addition) (offset : Nat) : DirectoryEntry :=
  ⟨(addition.fields compression).method, (addition.fields compression).crc.toNat,
    (addition.fields compression).compressedSize, (addition.fields compression).uncompressedSize, offset⟩

/-! ## Walking a stored entry -/

theorem walkChunks_eq {archive late : Bytes} : ∀ {middle early : Bytes}, archive = early ++ (middle ++ late) →
    ∃ chunks, walkChunks archive early.length middle.length = ⟨chunks, .ok ()⟩ ∧ chunks.flatten = middle := by
  suffices bySize : ∀ size, ∀ {middle early : Bytes}, middle.length = size → archive = early ++ (middle ++ late) →
      ∃ chunks, walkChunks archive early.length middle.length = ⟨chunks, .ok ()⟩ ∧ chunks.flatten = middle by
    intro middle early isArchive
    exact bySize middle.length rfl isArchive
  intro size
  induction size using Nat.strongRecOn with
  | _ size ih =>
    intro middle early isSize isArchive
    by_cases finished : middle.length = 0
    · have isEmpty : middle = [] := List.eq_nil_of_length_eq_zero finished
      exact ⟨[], by rw [walkChunks, dif_pos finished], by simp [isEmpty]⟩
    · obtain ⟨toRead, isToRead⟩ : ∃ toRead, toRead = min READ_CHUNK_BYTES middle.length := ⟨_, rfl⟩
      have some_bytes : 0 < toRead ∧ toRead ≤ middle.length := by
        simp only [isToRead, READ_CHUNK_BYTES]
        omega
      have isTaken : (middle.take toRead).length = toRead := by
        rw [List.length_take]
        omega
      have isDropped : (middle.drop toRead).length = middle.length - toRead := List.length_drop
      have here : archive = early ++ (middle.take toRead ++ (middle.drop toRead ++ late)) := by
        rw [← List.append_assoc (middle.take toRead), List.take_append_drop, isArchive]
      have next : archive = (early ++ middle.take toRead) ++ (middle.drop toRead ++ late) := by
        rw [here, List.append_assoc]
      obtain ⟨chunks, walked, isRest⟩ := ih (middle.length - toRead) (by omega) isDropped next
      rw [List.length_append, isTaken, isDropped] at walked
      refine ⟨middle.take toRead :: chunks, ?_, by simp [isRest]⟩
      rw [walkChunks, dif_neg finished]
      simp only [← isToRead, readExactly_at here isTaken.symm rfl, walked]

/-! ## Reading back -/

/-- The reader of an archive that the writer made. -/
def readerOf (compression : Compression) (additions : List Addition) : ZipFileReader where
  archive := archiveOf compression additions
  directory := OrderedMap.ofEntries ((writtenFrom compression 0 additions).map WrittenEntry.decoded)

theorem Admissible.entriesFit (admissible : Admissible compression additions) :
    ∀ entry ∈ writtenFrom compression 0 additions, entry.fields.Fits ∧ entry.offset < 0x100000000 := by
  intro entry member
  have small := admissible.small
  obtain ⟨early, addition, late, isAdditions, isFields, isOffset⟩ := mem_writtenFrom member
  have fits := (admissible.fits addition (by simp [isAdditions])).1
  rw [isAdditions, localRecords, List.flatMap_append, List.length_append] at small
  simp only [MAX_ZIP32_BYTES] at small
  rw [localRecords] at isOffset
  exact ⟨isFields ▸ fits, by omega⟩

theorem openArchive_eq (admissible : Admissible compression additions) :
    openArchive (archiveOf compression additions) = .ok (readerOf compression additions) := by
  have small := admissible.small
  simp only [MAX_ZIP32_BYTES] at small
  have decoded := decodeRecords_eq admissible.entriesFit []
  rw [List.nil_append, length_writtenFrom, List.length_nil] at decoded
  have smaller : (localRecords compression additions ++ directoryOf (writtenFrom compression 0 additions)).length <
      0x100000000 := by
    rw [List.length_append]
    omega
  have directory := readCentralDirectory_eq rfl admissible.few smaller decoded
  rw [List.append_assoc] at directory
  rw [openArchive, archiveOf]
  simp only [directory]
  rfl

variable {additions : List Addition}

section

variable (distinct : (additions.map Addition.name).Nodup)
  (wellFormed : ∀ addition ∈ additions, WellFormed addition.name)

include distinct wellFormed

theorem entryNames_readerOf :
    (readerOf compression additions).entryNames = additions.map Addition.name ∧
      (readerOf compression additions).directory.entries =
        (writtenFrom compression 0 additions).map WrittenEntry.decoded := by
  have keys : ((writtenFrom compression 0 additions).map WrittenEntry.decoded).map Prod.fst =
      additions.map Addition.name := by
    rw [List.map_map]
    exact names_writtenFrom 0 wellFormed
  have entries := OrderedMap.ofEntries_distinct (keys ▸ distinct)
  refine ⟨?_, entries⟩
  rw [entryNames, OrderedMap.keys, readerOf, entries, keys]

theorem requireEntry_readerOf {early late : List Addition}
    (isAdditions : additions = early ++ addition :: late) :
    (readerOf compression additions).requireEntry addition.name =
      .ok (addition.directoryEntry compression (localRecords compression early).length) := by
  have entries : (readerOf compression additions).directory.entries =
      (writtenFrom compression 0 additions).map WrittenEntry.decoded := (entryNames_readerOf distinct wellFormed).2
  have name : decodeUtf8 (addition.fields compression).name = addition.name := by
    rw [Addition.name_fields, (wellFormed addition (by simp [isAdditions])).decodeUtf8_encodeUtf8]
  have found : (readerOf compression additions).directory.get? addition.name =
      some (addition.directoryEntry compression (localRecords compression early).length) := by
    rw [OrderedMap.get?_eq_some, entries, isAdditions, writtenFrom_append, Nat.zero_add, writtenFrom]
    simp [WrittenEntry.decoded, Addition.directoryEntry, name]
  rw [requireEntry, found, Option.elim_some]

end

theorem archiveOf_split {early late : List Addition} (isAdditions : additions = early ++ addition :: late) :
    ∃ rest, archiveOf compression additions =
      localRecords compression early ++ (localHeader (addition.fields compression) ++
        ((addition.fields compression).name ++ (addition.payload compression ++ rest))) := by
  refine ⟨localRecords compression late ++ (directoryOf (writtenFrom compression 0 additions) ++
    eocd additions.length (directoryOf (writtenFrom compression 0 additions)).length
      (localRecords compression additions).length), ?_⟩
  have records : localRecords compression additions =
      localRecords compression early ++ (localRecord compression addition ++ localRecords compression late) := by
    simp [isAdditions, localRecords]
  have regrouped : archiveOf compression additions =
      (localRecords compression early ++ (localRecord compression addition ++ localRecords compression late)) ++
        (directoryOf (writtenFrom compression 0 additions) ++
          eocd additions.length (directoryOf (writtenFrom compression 0 additions)).length
            (localRecords compression additions).length) := by
    rw [archiveOf, ← records]
  rw [regrouped]
  simp only [localRecord, List.append_assoc]

section

variable (admissible : Admissible compression additions) (distinct : (additions.map Addition.name).Nodup)
  (wellFormed : ∀ addition ∈ additions, WellFormed addition.name) {early late : List Addition} {addition : Addition}
  (isAdditions : additions = early ++ addition :: late)

include admissible isAdditions in
theorem dataStart_readerOf :
    (readerOf compression additions).dataStart
        (addition.directoryEntry compression (localRecords compression early).length) =
      .ok ((localRecords compression early).length + LOCAL_HEADER_SIZE +
        (addition.fields compression).name.length) := by
  obtain ⟨rest, isArchive⟩ : ∃ rest, archiveOf compression additions = _ := archiveOf_split isAdditions
  have fits := (admissible.fits addition (by simp [isAdditions])).1
  have header : readExactly (archiveOf compression additions) LOCAL_HEADER_SIZE
      (localRecords compression early).length = .ok (localHeader (addition.fields compression)) :=
    readExactly_at isArchive rfl rfl
  rw [dataStart]
  simp only [readerOf, Addition.directoryEntry, header, bind, Except.bind]
  exact localHeaderDataOffset_eq fits _

include isAdditions in
theorem archive_payload : ∃ before rest, before.length =
      (localRecords compression early).length + LOCAL_HEADER_SIZE + (addition.fields compression).name.length ∧
    (readerOf compression additions).archive = before ++ (addition.payload compression ++ rest) := by
  obtain ⟨rest, isArchive⟩ : ∃ rest, archiveOf compression additions = _ := archiveOf_split isAdditions
  refine ⟨localRecords compression early ++ (localHeader (addition.fields compression) ++
    (addition.fields compression).name), rest, by simp [Nat.add_assoc], ?_⟩
  rw [readerOf, isArchive]
  simp only [List.append_assoc]

include admissible isAdditions in
theorem walkStored_readerOf (stored : (addition.fields compression).method = .store) :
    ∃ chunks, (readerOf compression additions).walkStored addition.name
        (addition.directoryEntry compression (localRecords compression early).length) = ⟨chunks, .ok ()⟩ ∧
      chunks.flatten = addition.data := by
  obtain ⟨before, rest, start, split⟩ : ∃ before rest, before.length = _ ∧
    (readerOf compression additions).archive = before ++ _ := archive_payload isAdditions
  obtain ⟨chunks, walked, isPayload⟩ := walkChunks_eq split
  have isData : chunks.flatten = addition.data := isPayload.trans (addition.stored_payload stored)
  have checksum : (crc32Finish (chunks.foldl crc32Update CRC32_SEED)).toNat =
      (addition.directoryEntry compression (localRecords compression early).length).crc := by
    rw [crc32Update_chunks, isData, Addition.directoryEntry, addition.crc_fields, crc32]
  rw [start, addition.length_payload] at walked
  refine ⟨chunks, ?_, isData⟩
  rw [walkStored, dataStart_readerOf admissible isAdditions]
  simp only [checksum, Addition.directoryEntry, walked, ne_eq, not_true_eq_false, if_false]

include admissible distinct wellFormed isAdditions

section

variable (inflates : ∀ data, compression.inflateRaw (compression.deflateRaw data) = .ok data)

include inflates

theorem readEntry_readerOf :
    (readerOf compression additions).readEntry compression addition.name = .ok addition.data := by
  obtain ⟨before, rest, start, split⟩ : ∃ before rest, before.length = _ ∧
    (readerOf compression additions).archive = before ++ _ := archive_payload isAdditions
  have payload := readExactly_at split addition.length_payload.symm start.symm
  rw [readEntry, requireEntry_readerOf distinct wellFormed isAdditions]
  simp only [bind, Except.bind, dataStart_readerOf admissible isAdditions]
  simp only [Addition.directoryEntry, payload, addition.inflated_payload inflates, addition.crc_fields, ne_eq,
    not_true_eq_false, if_false]

theorem hashEntry_readerOf :
    (readerOf compression additions).hashEntry compression sha256 addition.name = .ok (sha256 addition.data) := by
  rw [hashEntry, requireEntry_readerOf distinct wellFormed isAdditions]
  simp only [bind, Except.bind]
  cases isMethod : (addition.fields compression).method with
  | deflate =>
    simp only [Addition.directoryEntry, isMethod,
      readEntry_readerOf admissible distinct wellFormed isAdditions inflates]
    rfl
  | store =>
    obtain ⟨chunks, walked, isData⟩ := walkStored_readerOf admissible isAdditions isMethod
    simp only [walked]
    simp only [Addition.directoryEntry, isMethod, ← isData]
    rfl

theorem extractTo_readerOf :
    (readerOf compression additions).extractTo compression addition.name = ⟨true, .ok addition.data⟩ := by
  rw [extractTo, requireEntry_readerOf distinct wellFormed isAdditions]
  simp only
  cases isMethod : (addition.fields compression).method with
  | deflate =>
    simp only [Addition.directoryEntry, isMethod,
      readEntry_readerOf admissible distinct wellFormed isAdditions inflates]
  | store =>
    obtain ⟨chunks, walked, isData⟩ := walkStored_readerOf admissible isAdditions isMethod
    simp only [walked]
    simp only [Addition.directoryEntry, isMethod, ← isData]
    rfl

end

end

/-! ## Parts of an archive -/

/-- The signature of an end record, where a reader looks for it. -/
def HoldsEocd (bytes : Bytes) : Prop :=
  ∃ index, index + EOCD_SIZE ≤ bytes.length ∧ bytes.length ≤ index + EOCD_SIZE + MAX_COMMENT_LENGTH ∧
    readNumber 4 bytes index = some EOCD

theorem found_of_findEocdFrom {tail : Bytes} {index found : Nat} (isFound : findEocdFrom tail index = .ok found) :
    found ≤ index ∧ readNumber 4 tail found = some EOCD := by
  induction index with
  | zero =>
    by_cases here : readNumber 4 tail 0 = some EOCD
    · simp only [findEocdFrom, here, if_true, Except.ok.injEq] at isFound
      subst isFound
      exact ⟨Nat.le_refl _, here⟩
    · simp [findEocdFrom, here] at isFound
  | succ index ih =>
    by_cases here : readNumber 4 tail (index + 1) = some EOCD
    · simp only [findEocdFrom, here, if_true, Except.ok.injEq] at isFound
      subst isFound
      exact ⟨Nat.le_refl _, here⟩
    · simp only [findEocdFrom, here, if_false] at isFound
      have earlier := ih isFound
      exact ⟨by omega, earlier.2⟩

theorem holdsEocd_of_open {bytes : Bytes} {reader : ZipFileReader} (opens : openArchive bytes = .ok reader) :
    HoldsEocd bytes := by
  let tailLength := min bytes.length (EOCD_SIZE + MAX_COMMENT_LENGTH)
  let skipped := bytes.length - tailLength
  have within : skipped ≤ bytes.length := Nat.sub_le _ _
  have split : bytes = bytes.take skipped ++ (bytes.drop skipped ++ []) := by
    rw [List.append_nil, List.take_append_drop]
  have isTaken : skipped = (bytes.take skipped).length := by
    rw [List.length_take]
    omega
  have isTail : tailLength = (bytes.drop skipped).length := by
    rw [List.length_drop]
    omega
  have tail : readExactly bytes tailLength skipped = .ok (bytes.drop skipped) := readExactly_at split isTail isTaken
  have searched : ∃ found, findEocdOffset (bytes.drop skipped) = .ok found := by
    cases search : findEocdOffset (bytes.drop skipped) with
    | ok found => exact ⟨found, rfl⟩
    | error message =>
      rw [openArchive, readCentralDirectory] at opens
      simp only [bind, Except.bind] at opens
      rw [show readExactly bytes _ _ = _ from tail] at opens
      simp only [search, Except.map] at opens
      cases opens
  obtain ⟨found, isFound⟩ := searched
  rw [findEocdOffset] at isFound
  by_cases short : (bytes.drop skipped).length < EOCD_SIZE
  · rw [if_pos short] at isFound
    cases isFound
  · rw [if_neg short] at isFound
    obtain ⟨isEarlier, signature⟩ := found_of_findEocdFrom isFound
    refine ⟨skipped + found, ?_, ?_, ?_⟩
    · omega
    · have few : tailLength ≤ EOCD_SIZE + MAX_COMMENT_LENGTH := Nat.min_le_right _ _
      omega
    · rw [List.append_nil] at split
      rw [split, readNumber_within isTaken]
      exact signature

/-! ## Round trip -/

/-- An archive opens with its names in order, and every entry is read, hashed and extracted as it was added. -/
def Returns (compression : Compression) (sha256 : Bytes → Digest) (additions : List Addition) (archive : Bytes) : Prop :=
  ∃ reader, openArchive archive = .ok reader ∧ reader.entryNames = additions.map Addition.name ∧
    ∀ addition ∈ additions,
      reader.readEntry compression addition.name = .ok addition.data ∧
      reader.hashEntry compression sha256 addition.name = .ok (sha256 addition.data) ∧
      reader.extractTo compression addition.name = ⟨true, .ok addition.data⟩

/-- Deflation that only stores: a block header before the data. -/
def storedBlocks : Compression where
  deflateRaw := fun data =>
    let length := littleEndian 2 data.length
    0x01 :: (length ++ (length.map (· ^^^ 0xff) ++ data))
  inflateRaw := fun compressed => .ok (compressed.drop 5)

def sampleAdditions : List Addition :=
  [.buffer (utf16 "manifest.json") [0x7b, 0x7d],
    .file (utf16 "blobs/a") ⟨utf16 "a", 3, [[1, 2], [3]], by decide⟩]

/-- A file whose bytes end with a directory of their own, for an entry of one byte at the start of the archive. -/
def craftedBytes : Bytes :=
  [0x58] ++ centralHeader ⟨encodeUtf8 (utf16 "a"), .store, crc32 [0x58], 1, 1⟩ 0 ++ encodeUtf8 (utf16 "a") ++
    eocd 1 47 32

def craftedAdditions : List Addition :=
  [.file (utf16 "a") ⟨utf16 "a", 70, [craftedBytes], by decide +kernel⟩]

theorem crafted_admissible : Admissible storedBlocks craftedAdditions := by
  constructor
  · decide
  · intro addition member
    simp only [craftedAdditions, List.mem_singleton] at member
    subst member
    refine ⟨⟨by decide +kernel, by decide +kernel, by decide +kernel⟩, ?_⟩
    rintro name source ⟨⟩
    have size : 70 = craftedBytes.length := by decide +kernel
    exact ⟨size.trans (by simp [SourceFile.contents]), by decide⟩
  · decide +kernel

end SiftKit.Zip
