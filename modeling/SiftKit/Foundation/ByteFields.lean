import Mathlib.Data.List.Basic
import Mathlib.Tactic.Ring

/-! # Fields of bytes

Numbers written in a fixed count of bytes, the least significant first, at known places of a buffer or a file.
-/

namespace SiftKit.ByteFields

abbrev Bytes := List UInt8

/-! ## Numbers -/

/-- A number in so many bytes. -/
def littleEndian : Nat → Nat → Bytes
  | 0, _ => []
  | width + 1, value => .ofNat value :: littleEndian width (value / 0x100)

def fromLittleEndian : Bytes → Nat
  | [] => 0
  | byte :: rest => byte.toNat + 0x100 * fromLittleEndian rest

@[simp] theorem length_littleEndian (width value : Nat) : (littleEndian width value).length = width := by
  induction width generalizing value with
  | zero => rfl
  | succ width ih => simp [littleEndian, ih]

theorem fromLittleEndian_littleEndian {width value : Nat} (fits : value < 0x100 ^ width) :
    fromLittleEndian (littleEndian width value) = value := by
  induction width generalizing value with
  | zero =>
    have isZero : value = 0 := by simpa using fits
    simp [littleEndian, fromLittleEndian, isZero]
  | succ width ih =>
    have smaller : value / 0x100 < 0x100 ^ width := by
      rw [Nat.pow_succ] at fits
      omega
    rw [littleEndian, fromLittleEndian, ih smaller, UInt8.toNat_ofNat']
    omega

/-- So many bytes of a buffer from an offset on, none where the buffer ends before. -/
def slice (buffer : Bytes) (offset length : Nat) : Option Bytes :=
  if offset + length ≤ buffer.length then some ((buffer.drop offset).take length) else none

def readNumber (width : Nat) (buffer : Bytes) (offset : Nat) : Option Nat :=
  (slice buffer offset width).map fromLittleEndian

variable {offset : Nat} {early : Bytes} {late : Bytes}

theorem slice_at {middle : Bytes} {length : Nat} (isOffset : offset = early.length)
    (isLength : length = middle.length) : slice (early ++ (middle ++ late)) offset length = some middle := by
  subst isOffset isLength
  rw [slice, if_pos (by simp), List.drop_left, List.take_left]

variable {buffer : Bytes}

theorem slice_within {base length : Nat} (isBase : base = early.length) :
    slice (early ++ buffer) (base + offset) length = slice buffer offset length := by
  subst isBase
  simp only [slice, List.length_append, Nat.add_assoc, Nat.add_le_add_iff_left]
  rw [← List.drop_drop, List.drop_left]

theorem slice_append {length : Nat} (within : offset + length ≤ buffer.length) :
    slice (buffer ++ late) offset length = slice buffer offset length := by
  have longer : offset + length ≤ (buffer ++ late).length := by
    rw [List.length_append]
    omega
  rw [slice, if_pos longer, slice, if_pos within, List.drop_append_of_le_length (by omega),
    List.take_append_of_le_length (by rw [List.length_drop]; omega)]

theorem readNumber_within {width base : Nat} (isBase : base = early.length) :
    readNumber width (early ++ buffer) (base + offset) = readNumber width buffer offset := by
  rw [readNumber, slice_within isBase, readNumber]

theorem readNumber_append {width : Nat} (within : offset + width ≤ buffer.length) :
    readNumber width (buffer ++ late) offset = readNumber width buffer offset := by
  rw [readNumber, slice_append within, readNumber]

theorem readNumber_of_slice {width value : Nat}
    (isSlice : slice buffer offset width = some (littleEndian width value)) (fits : value < 0x100 ^ width) :
    readNumber width buffer offset = some value := by
  rw [readNumber, isSlice, Option.map_some, fromLittleEndian_littleEndian fits]

/-! ## Places -/

def overwrite (buffer : Bytes) (offset : Nat) (bytes : Bytes) : Bytes :=
  buffer.take offset ++ bytes ++ buffer.drop (offset + bytes.length)

/-- A positional write to a file: a gap before it is filled with zeros. -/
def positionalWrite (file : Bytes) (position : Nat) (bytes : Bytes) : Bytes :=
  overwrite (file ++ List.replicate (position - file.length) 0) position bytes

theorem positionalWrite_end (file bytes : Bytes) : positionalWrite file file.length bytes = file ++ bytes := by
  simp [positionalWrite, overwrite]

theorem positionalWrite_over {old bytes : Bytes} {position : Nat} (isPosition : position = early.length)
    (sameLength : bytes.length = old.length) :
    positionalWrite (early ++ (old ++ late)) position bytes = early ++ (bytes ++ late) := by
  subst isPosition
  have noGap : early.length - (early ++ (old ++ late)).length = 0 := by
    rw [List.length_append]
    omega
  rw [positionalWrite, noGap, List.replicate_zero, List.append_nil, overwrite, List.take_left, sameLength,
    ← List.append_assoc early old late, ← List.length_append, List.drop_left, List.append_assoc]

/-! ## Buffers of fields -/

/-- A number put into a buffer: how many bytes, which number and where. -/
structure FieldWrite where
  width : Nat
  value : Nat
  offset : Nat

def FieldWrite.bytes (field : FieldWrite) : Bytes := littleEndian field.width field.value

/-- A number that fits its bytes, within a buffer of some size. -/
def FieldWrite.fits (size : Nat) (field : FieldWrite) : Bool :=
  decide (field.value < 0x100 ^ field.width) && decide (field.offset + field.width ≤ size)

/-- A buffer of zeros with its fields written in order, none where a field does not fit. -/
def writeFields (size : Nat) (fields : List FieldWrite) : Option Bytes :=
  if fields.all (FieldWrite.fits size) then
    some (fields.foldl (fun buffer field => overwrite buffer field.offset field.bytes) (List.replicate size 0))
  else none

/-- Fields that follow one another from a place on, up to the size of their buffer. -/
def inOrder (size : Nat) : Nat → List FieldWrite → Bool
  | start, [] => start ≤ size
  | start, field :: rest => start ≤ field.offset && inOrder size (field.offset + field.width) rest

/-- Fields as they lie in a buffer from a place on, with zeros between and after them. -/
def laidOut (size : Nat) : Nat → List FieldWrite → Bytes
  | start, [] => List.replicate (size - start) 0
  | start, field :: rest =>
    List.replicate (field.offset - start) 0 ++ (field.bytes ++ laidOut size (field.offset + field.width) rest)

theorem size_of_inOrder {size : Nat} {fields : List FieldWrite} {start : Nat} (ordered : inOrder size start fields = true) :
    start ≤ size := by
  induction fields generalizing start with
  | nil => simpa [inOrder] using ordered
  | cons field rest ih =>
    simp only [inOrder, Bool.and_eq_true, decide_eq_true_eq] at ordered
    have later := ih ordered.2
    omega

theorem overwrite_zeros (done bytes : Bytes) {room : Nat} (after : done.length ≤ offset)
    (within : offset + bytes.length ≤ done.length + room) :
    overwrite (done ++ List.replicate room 0) offset bytes =
      (done ++ (List.replicate (offset - done.length) 0 ++ bytes)) ++
        List.replicate (done.length + room - (offset + bytes.length)) 0 := by
  have before : (done ++ List.replicate room 0).take offset = done ++ List.replicate (offset - done.length) 0 := by
    rw [List.take_append, List.take_of_length_le after, List.take_replicate]
    congr 2
    omega
  have behind : (done ++ List.replicate room 0).drop (offset + bytes.length) =
      List.replicate (done.length + room - (offset + bytes.length)) 0 := by
    rw [List.drop_append, List.drop_of_length_le (by omega), List.nil_append, List.drop_replicate]
    congr 1
    omega
  rw [overwrite, before, behind, List.append_assoc done]

theorem foldl_overwrite {size : Nat} {fields : List FieldWrite} {start : Nat} {done : Bytes}
    (ordered : inOrder size start fields = true) (isStart : done.length = start) :
    fields.foldl (fun buffer field => overwrite buffer field.offset field.bytes)
        (done ++ List.replicate (size - start) 0) =
      done ++ laidOut size start fields := by
  induction fields generalizing start done with
  | nil => rfl
  | cons field rest ih =>
    simp only [inOrder, Bool.and_eq_true, decide_eq_true_eq] at ordered
    have within := size_of_inOrder ordered.2
    have width : field.bytes.length = field.width := length_littleEndian field.width field.value
    have room : done.length + (size - start) - (field.offset + field.bytes.length) =
        size - (field.offset + field.width) := by omega
    have written : (done ++ (List.replicate (field.offset - done.length) 0 ++ field.bytes)).length =
        field.offset + field.width := by
      simp only [List.length_append, List.length_replicate]
      omega
    rw [List.foldl_cons, overwrite_zeros done field.bytes (by omega) (by omega), room,
      ih ordered.2 written, laidOut, isStart]
    simp only [List.append_assoc]

/-- Fields that fit and follow one another are written as they lie. -/
theorem writeFields_eq_some {size : Nat} {fields : List FieldWrite} (fits : fields.all (FieldWrite.fits size) = true)
    (ordered : inOrder size 0 fields = true) : writeFields size fields = some (laidOut size 0 fields) := by
  have written := @foldl_overwrite size fields 0 [] ordered rfl
  rw [writeFields, if_pos fits]
  simpa using written

end SiftKit.ByteFields
