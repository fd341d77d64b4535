import SiftKit.Foundation.ByteFields
import SiftKit.Json.Utf8

/-! # The archive format

`lib/zip.ts`: the checksum, and the records of an archive with the fields that its writer fills and its reader reads.
-/

namespace SiftKit.Zip

open SiftKit.ByteFields SiftKit.Json

abbrev ErrorMessage := JsString

def LOCAL_HEADER : Nat := 0x04034b50

def CENTRAL_HEADER : Nat := 0x02014b50

def EOCD : Nat := 0x06054b50

def LOCAL_HEADER_SIZE : Nat := 30

def CENTRAL_HEADER_SIZE : Nat := 46

def EOCD_SIZE : Nat := 22

/-- Where the checksum is in a local header. -/
def LOCAL_HEADER_CRC_OFFSET : Nat := 14

def MAX_COMMENT_LENGTH : Nat := 65535

/-! ## The checksum -/

/-- One bit of an entry of the table. -/
def tableBit (crc : UInt32) : UInt32 := if crc &&& 1 = 1 then (0xedb88320 : UInt32) ^^^ (crc >>> 1) else crc >>> 1

/-- An entry of `CRC_TABLE`. -/
def tableEntry (index : UInt32) : UInt32 := Nat.iterate tableBit 8 index

def CRC32_SEED : UInt32 := 0xffffffff

def crc32Byte (crc : UInt32) (byte : UInt8) : UInt32 :=
  tableEntry ((crc ^^^ byte.toUInt32) &&& 0xff) ^^^ (crc >>> 8)

def crc32Update (crc : UInt32) (data : Bytes) : UInt32 := data.foldl crc32Byte crc

def crc32Finish (crc : UInt32) : UInt32 := crc ^^^ 0xffffffff

def crc32 (data : Bytes) : UInt32 := crc32Finish (crc32Update CRC32_SEED data)

theorem crc32Update_chunks (crc : UInt32) (chunks : List Bytes) :
    chunks.foldl crc32Update crc = crc32Update crc chunks.flatten := by
  induction chunks generalizing crc with
  | nil => rfl
  | cons chunk rest ih =>
    rw [List.foldl_cons, ih, List.flatten_cons, crc32Update, crc32Update, crc32Update,
      List.foldl_append]

example : crc32 (List.map (fun letter => .ofNat letter.toNat) "123456789".toList) = 0xcbf43926 := by decide +kernel

/-! ## Records -/

inductive Method where
  | store
  | deflate
  deriving DecidableEq

def Method.code : Method → Nat
  | .store => 0
  | .deflate => 8

def method? : Nat → Option Method
  | 0 => some .store
  | 8 => some .deflate
  | _ => none

structure ZipEntryFields where
  name : Bytes
  method : Method
  crc : UInt32
  compressedSize : Nat
  uncompressedSize : Nat

/-- What a buffer throws where a number does not fit its field or a field the buffer. -/
def ERR_OUT_OF_RANGE : ErrorMessage := utf16 "ERR_OUT_OF_RANGE"

def encodeLocalHeader (entry : ZipEntryFields) : Except ErrorMessage Bytes :=
  ((writeFields LOCAL_HEADER_SIZE
    [⟨4, LOCAL_HEADER, 0⟩, ⟨2, 20, 4⟩, ⟨2, 0x0800, 6⟩, ⟨2, entry.method.code, 8⟩, ⟨4, 0, 10⟩,
      ⟨4, entry.crc.toNat, LOCAL_HEADER_CRC_OFFSET⟩, ⟨4, entry.compressedSize, 18⟩, ⟨4, entry.uncompressedSize, 22⟩,
      ⟨2, entry.name.length, 26⟩, ⟨2, 0, 28⟩]).elim (.error ERR_OUT_OF_RANGE) .ok)

def encodeCentralHeader (entry : ZipEntryFields) (localOffset : Nat) : Except ErrorMessage Bytes :=
  ((writeFields CENTRAL_HEADER_SIZE
    [⟨4, CENTRAL_HEADER, 0⟩, ⟨2, 20, 4⟩, ⟨2, 20, 6⟩, ⟨2, 0x0800, 8⟩, ⟨2, entry.method.code, 10⟩, ⟨4, 0, 12⟩,
      ⟨4, entry.crc.toNat, 16⟩, ⟨4, entry.compressedSize, 20⟩, ⟨4, entry.uncompressedSize, 24⟩,
      ⟨2, entry.name.length, 28⟩, ⟨4, localOffset, 42⟩]).elim (.error ERR_OUT_OF_RANGE) .ok)

def encodeEocd (entryCount centralSize centralStart : Nat) : Except ErrorMessage Bytes :=
  ((writeFields EOCD_SIZE
    [⟨4, EOCD, 0⟩, ⟨2, entryCount, 8⟩, ⟨2, entryCount, 10⟩, ⟨4, centralSize, 12⟩, ⟨4, centralStart, 16⟩]).elim
      (.error ERR_OUT_OF_RANGE) .ok)

structure DecodedCentralEntry where
  name : JsString
  method : Method
  crc : Nat
  compressedSize : Nat
  uncompressedSize : Nat
  localOffset : Nat
  /-- How far the next record is. -/
  recordLength : Nat

/-- A number of a buffer, or what reading over its end throws. -/
def readOrThrow (width : Nat) (buffer : Bytes) (offset : Nat) : Except ErrorMessage Nat :=
  (readNumber width buffer offset).elim (.error ERR_OUT_OF_RANGE) .ok

def decodeCentralHeader (central : Bytes) (cursor : Nat) : Except ErrorMessage DecodedCentralEntry := do
  let signature ← readOrThrow 4 central cursor
  if signature ≠ CENTRAL_HEADER then .error (utf16 "Zip central directory entry is corrupt.")
  else
    let nameLength ← readOrThrow 2 central (cursor + 28)
    let extraLength ← readOrThrow 2 central (cursor + 30)
    let commentLength ← readOrThrow 2 central (cursor + 32)
    let name := decodeUtf8 ((central.drop (cursor + CENTRAL_HEADER_SIZE)).take nameLength)
    let code ← readOrThrow 2 central (cursor + 10)
    match method? code with
    | none =>
      .error (utf16 "Zip entry " ++ name ++ utf16 " uses unsupported compression method " ++ utf16 (toString code) ++
        utf16 ".")
    | some method =>
      let crc ← readOrThrow 4 central (cursor + 16)
      let compressedSize ← readOrThrow 4 central (cursor + 20)
      let uncompressedSize ← readOrThrow 4 central (cursor + 24)
      let localOffset ← readOrThrow 4 central (cursor + 42)
      .ok
        { name, method, crc, compressedSize, uncompressedSize, localOffset
          recordLength := CENTRAL_HEADER_SIZE + nameLength + extraLength + commentLength }

/-- The last place, from one down to the first, where a record of the archive's end begins. -/
def findEocdFrom (tail : Bytes) : Nat → Except ErrorMessage Nat
  | 0 =>
    if readNumber 4 tail 0 = some EOCD then .ok 0 else .error (utf16 "Zip end of central directory not found.")
  | index + 1 => if readNumber 4 tail (index + 1) = some EOCD then .ok (index + 1) else findEocdFrom tail index

def findEocdOffset (tail : Bytes) : Except ErrorMessage Nat :=
  if tail.length < EOCD_SIZE then .error (utf16 "Zip end of central directory not found.")
  else findEocdFrom tail (tail.length - EOCD_SIZE)

def localHeaderDataOffset (localOffset : Nat) (localHeader : Bytes) : Except ErrorMessage Nat := do
  let nameLength ← readOrThrow 2 localHeader 26
  let extraLength ← readOrThrow 2 localHeader 28
  .ok (localOffset + LOCAL_HEADER_SIZE + nameLength + extraLength)

/-! ## Layout -/

/-- Numbers one after the other. -/
def packed (fields : List (Nat × Nat)) : Bytes := fields.flatMap fun field => littleEndian field.1 field.2

/-- A local header as it lies in an archive. -/
def localHeader (entry : ZipEntryFields) : Bytes :=
  packed [(4, LOCAL_HEADER), (2, 20), (2, 0x0800), (2, entry.method.code), (4, 0), (4, entry.crc.toNat),
    (4, entry.compressedSize), (4, entry.uncompressedSize), (2, entry.name.length), (2, 0)]

def centralHeader (entry : ZipEntryFields) (localOffset : Nat) : Bytes :=
  packed [(4, CENTRAL_HEADER), (2, 20), (2, 20), (2, 0x0800), (2, entry.method.code), (4, 0), (4, entry.crc.toNat),
    (4, entry.compressedSize), (4, entry.uncompressedSize), (2, entry.name.length), (2, 0), (2, 0), (2, 0), (2, 0),
    (4, 0), (4, localOffset)]

def eocd (entryCount centralSize centralStart : Nat) : Bytes :=
  packed [(4, EOCD), (2, 0), (2, 0), (2, entryCount), (2, entryCount), (4, centralSize), (4, centralStart), (2, 0)]

/-- Sizes and a name that the fields of a header hold. -/
def ZipEntryFields.Fits (entry : ZipEntryFields) : Prop :=
  entry.name.length < 0x10000 ∧ entry.compressedSize < 0x100000000 ∧ entry.uncompressedSize < 0x100000000

theorem Method.code_lt (method : Method) : method.code < 0x10000 := by
  cases method <;> decide

variable {entry : ZipEntryFields}

theorem encodeLocalHeader_eq (fits : entry.Fits) : encodeLocalHeader entry = .ok (localHeader entry) := by
  obtain ⟨nameFits, compressedFits, uncompressedFits⟩ := fits
  have methodFits := entry.method.code_lt
  have crcFits := entry.crc.toNat_lt
  rw [encodeLocalHeader, writeFields_eq_some _ rfl]
  · rfl
  · simp [FieldWrite.fits, LOCAL_HEADER, LOCAL_HEADER_SIZE, LOCAL_HEADER_CRC_OFFSET, nameFits, compressedFits,
      uncompressedFits, methodFits, crcFits]

theorem encodeCentralHeader_eq {localOffset : Nat} (fits : entry.Fits) (offsetFits : localOffset < 0x100000000) :
    encodeCentralHeader entry localOffset = .ok (centralHeader entry localOffset) := by
  obtain ⟨nameFits, compressedFits, uncompressedFits⟩ := fits
  have methodFits := entry.method.code_lt
  have crcFits := entry.crc.toNat_lt
  rw [encodeCentralHeader, writeFields_eq_some _ rfl]
  · rfl
  · simp [FieldWrite.fits, CENTRAL_HEADER, CENTRAL_HEADER_SIZE, nameFits, compressedFits, uncompressedFits, methodFits,
      crcFits, offsetFits]

theorem encodeEocd_eq {entryCount centralSize centralStart : Nat} (countFits : entryCount < 0x10000)
    (sizeFits : centralSize < 0x100000000) (startFits : centralStart < 0x100000000) :
    encodeEocd entryCount centralSize centralStart = .ok (eocd entryCount centralSize centralStart) := by
  rw [encodeEocd, writeFields_eq_some _ rfl]
  · rfl
  · simp [FieldWrite.fits, EOCD, EOCD_SIZE, countFits, sizeFits, startFits]

@[simp] theorem length_localHeader (entry : ZipEntryFields) : (localHeader entry).length = LOCAL_HEADER_SIZE := rfl

@[simp] theorem length_centralHeader (entry : ZipEntryFields) (localOffset : Nat) :
    (centralHeader entry localOffset).length = CENTRAL_HEADER_SIZE := rfl

@[simp] theorem length_eocd (entryCount centralSize centralStart : Nat) :
    (eocd entryCount centralSize centralStart).length = EOCD_SIZE := rfl

/-! ## Reading -/

theorem readOrThrow_eq_ok {width : Nat} {buffer : Bytes} {offset value : Nat}
    (isNumber : readNumber width buffer offset = some value) : readOrThrow width buffer offset = .ok value := by
  rw [readOrThrow, isNumber, Option.elim_some]

theorem localHeaderDataOffset_eq (fits : entry.Fits) (localOffset : Nat) :
    localHeaderDataOffset localOffset (localHeader entry) =
      .ok (localOffset + LOCAL_HEADER_SIZE + entry.name.length) := by
  have nameLength : readNumber 2 (localHeader entry) 26 = some entry.name.length := readNumber_of_slice rfl fits.1
  have extraLength : readNumber 2 (localHeader entry) 28 = some 0 := readNumber_of_slice rfl (by decide)
  rw [localHeaderDataOffset, readOrThrow_eq_ok nameLength, readOrThrow_eq_ok extraLength]
  rfl

theorem method?_code (method : Method) : method? method.code = some method := by
  cases method <;> rfl

theorem decodeCentralHeader_eq {localOffset : Nat} (fits : entry.Fits) (offsetFits : localOffset < 0x100000000)
    (before after : Bytes) :
    decodeCentralHeader (before ++ (centralHeader entry localOffset ++ (entry.name ++ after))) before.length =
      .ok
        { name := decodeUtf8 entry.name, method := entry.method, crc := entry.crc.toNat
          compressedSize := entry.compressedSize, uncompressedSize := entry.uncompressedSize, localOffset
          recordLength := CENTRAL_HEADER_SIZE + entry.name.length } := by
  obtain ⟨nameFits, compressedFits, uncompressedFits⟩ := fits
  -- A field of the header, seen from the whole directory.
  have field : ∀ {width offset value : Nat}, offset + width ≤ CENTRAL_HEADER_SIZE →
      slice (centralHeader entry localOffset) offset width = some (littleEndian width value) → value < 0x100 ^ width →
      readOrThrow width (before ++ (centralHeader entry localOffset ++ (entry.name ++ after))) (before.length + offset) =
        .ok value := by
    intro width offset value within isSlice valueFits
    apply readOrThrow_eq_ok
    rw [readNumber_within rfl, readNumber_append within]
    exact readNumber_of_slice isSlice valueFits
  have signature := @field 4 0 CENTRAL_HEADER (by decide) rfl (by decide)
  have method := @field 2 10 entry.method.code (by decide) rfl entry.method.code_lt
  have crc := @field 4 16 entry.crc.toNat (by decide) rfl entry.crc.toNat_lt
  have compressedSize := @field 4 20 entry.compressedSize (by decide) rfl compressedFits
  have uncompressedSize := @field 4 24 entry.uncompressedSize (by decide) rfl uncompressedFits
  have nameLength := @field 2 28 entry.name.length (by decide) rfl nameFits
  have extraLength := @field 2 30 0 (by decide) rfl (by decide)
  have commentLength := @field 2 32 0 (by decide) rfl (by decide)
  have offset := @field 4 42 localOffset (by decide) rfl offsetFits
  have name : ((before ++ (centralHeader entry localOffset ++ (entry.name ++ after))).drop
      (before.length + CENTRAL_HEADER_SIZE)).take entry.name.length = entry.name := by
    rw [← List.drop_drop, List.drop_left, ← length_centralHeader entry localOffset, List.drop_left, List.take_left]
  rw [Nat.add_zero] at signature
  simp only [decodeCentralHeader, bind, Except.bind, signature, nameLength, extraLength, commentLength, method, name,
    method?_code, crc, compressedSize, uncompressedSize, offset, ne_eq, not_true_eq_false, if_false, Nat.add_zero]

end SiftKit.Zip
