import SiftKit.Json.Segments
import SiftKit.Chat.Contracts
import SiftKit.Json.Literals

/-! # Chat projection encoder

`chat-projection-encoder.ts`, with the frames of `packages/contracts/src/chat-projection.ts`: a record is written as JSON in bounded segments, from an explicit stack, and the segments
are gathered into frames whose events stay within a number of bytes.
-/

namespace SiftKit.Chat

open SiftKit.Json SiftKit.Json.Schema

/-! ## Frames -/

def CHAT_PROJECTION_PROTOCOL_VERSION : Nat := 3

def CHAT_PROJECTION_MAX_FRAME_BYTES : Nat := 64 * 1024

/-- One `chat_projection` event: a fragment of exactly one logical record's JSON. -/
structure ChatProjectionFrame where
  version : Nat
  transferId : JsString
  recordIndex : Nat
  chunkIndex : Nat
  finalChunk : Bool
  data : JsString

def ChatProjectionFrame.toJson (frame : ChatProjectionFrame) : JsValue :=
  .literal [("version", .ofNat frame.version), ("transferId", .string frame.transferId),
    ("recordIndex", .ofNat frame.recordIndex), ("chunkIndex", .ofNat frame.chunkIndex),
    ("finalChunk", .boolean frame.finalChunk), ("data", .string frame.data)]

def chatProjectionFrameSchema (formats : StringFormats) : Schema := object .strict ⟨[
  field "version" (number fun value => value == .ofNat CHAT_PROJECTION_PROTOCOL_VERSION),
  field "transferId" (string formats.uuid), field "recordIndex" nonnegativeInteger, field "chunkIndex" nonnegativeInteger,
  field "finalChunk" boolean, field "data" (string fun text => text.length ≤ CHAT_PROJECTION_MAX_FRAME_BYTES)],
  by simp [field]⟩

/-! ## Segments -/

def STRING_SEGMENT_CODE_UNITS : Nat := 4096

/-- A string as JSON text, a bounded slice at a time. -/
def stringSegments (text : JsString) : List JsString :=
  [0x22] :: (escapedSlices STRING_SEGMENT_CODE_UNITS (by decide) text ++ [[0x22]])

/-- An array or an object of which so many items or entries are written. -/
inductive OpenContainer where
  | array (items : List JsValue) (index : Nat)
  | object (entries : Properties) (index : Nat)

/-- What `openValue` yields, and what it pushes on the stack. -/
def openValue : JsValue → List JsString × Option OpenContainer
  | .string text => (stringSegments text, none)
  | .null => ([utf16 "null"], none)
  | .undefined => ([utf16 "null"], none)
  | .number value => ([value.text], none)
  | .nonFinite => ([utf16 "null"], none)
  | .boolean value => ([if value then utf16 "true" else utf16 "false"], none)
  | .array items => ([[0x5B]], some (.array items 0))
  | .object properties => ([[0x7B]], some (.object (stated properties) 0))

def separatorAt (index : Nat) : List JsString := if 0 < index then [[0x2C]] else []

/-- One round of the loop: what it yields, and what is on the stack in place of its top. -/
def containerStep : OpenContainer → List JsString × List OpenContainer
  | .array items index =>
    match items[index]? with
    | none => ([[0x5D]], [])
    | some item =>
      let opened := openValue item.orNull
      (separatorAt index ++ opened.1, opened.2.toList ++ [.array items (index + 1)])
  | .object entries index =>
    match entries[index]? with
    | none => ([[0x7D]], [])
    | some entry =>
      let opened := openValue entry.2
      (separatorAt index ++ (quoted entry.1 ++ [0x3A]) :: opened.1, opened.2.toList ++ [.object entries (index + 1)])

/-! ## The text of the segments -/

/-- The texts of items or entries of which the first has the index. -/
def separatedFrom (index : Nat) (texts : List JsString) : JsString :=
  if 0 < index then texts.flatMap (0x2C :: ·) else commaSeparated texts

theorem commaSeparated_cons (text : JsString) (rest : List JsString) :
    commaSeparated (text :: rest) = text ++ rest.flatMap (0x2C :: ·) := by
  induction rest generalizing text with
  | nil => simp [commaSeparated]
  | cons next rest ih =>
    rw [commaSeparated, ih]
    · simp
    · simp

theorem separatedFrom_cons (index : Nat) (text : JsString) (rest : List JsString) :
    separatedFrom index (text :: rest) = (separatorAt index).flatten ++ text ++ separatedFrom (index + 1) rest := by
  unfold separatedFrom separatorAt
  by_cases later : 0 < index
  · simp [later]
  · simp [later, commaSeparated_cons]

/-- What is still to be written of a container. -/
def OpenContainer.text : OpenContainer → JsString
  | .array items index => separatedFrom index ((items.drop index).map stringify) ++ [0x5D]
  | .object entries index => separatedFrom index ((entries.drop index).map entryText) ++ [0x7D]

theorem stringSegments_flatten (text : JsString) : (stringSegments text).flatten = quoted text := by
  simp [stringSegments, flatten_escapedSlices, quoted]

theorem openValue_text (value : JsValue) :
    (openValue value).1.flatten ++ (openValue value).2.toList.flatMap OpenContainer.text = stringify value := by
  cases value with
  | string text => simp [openValue, stringSegments_flatten, stringify]
  | boolean value => cases value <;> simp [openValue, stringify]
  | array items => simp [openValue, stringify, OpenContainer.text, separatedFrom, stringifyItems_eq]
  | object properties =>
    have isEntries : stringifyProperties properties = (stated properties).map entryText := stringifyProperties_eq properties
    simp [openValue, stringify, OpenContainer.text, separatedFrom, isEntries]
  | _ => simp [openValue, stringify]

theorem stringify_orNull (value : JsValue) : stringify value.orNull = stringify value := by
  cases value <;> rfl

theorem containerStep_text (top : OpenContainer) :
    (containerStep top).1.flatten ++ (containerStep top).2.flatMap OpenContainer.text = top.text := by
  cases top with
  | array items index =>
    cases isItem : items[index]? with
    | none =>
      have ended : items.drop index = [] := List.drop_eq_nil_iff.mpr (List.getElem?_eq_none_iff.mp isItem)
      simp [containerStep, isItem, OpenContainer.text, ended, separatedFrom, commaSeparated]
    | some item =>
      obtain ⟨inside, rfl⟩ := List.getElem?_eq_some_iff.mp isItem
      have opened := openValue_text items[index].orNull
      rw [stringify_orNull] at opened
      simp only [containerStep, isItem, OpenContainer.text, List.drop_eq_getElem_cons inside, List.map_cons, separatedFrom_cons, List.flatten_append,
        List.flatMap_append, List.flatMap_cons, List.flatMap_nil, List.append_nil, ← opened, List.append_assoc]
  | object entries index =>
    cases isEntry : entries[index]? with
    | none =>
      have ended : entries.drop index = [] := List.drop_eq_nil_iff.mpr (List.getElem?_eq_none_iff.mp isEntry)
      simp [containerStep, isEntry, OpenContainer.text, ended, separatedFrom, commaSeparated]
    | some entry =>
      obtain ⟨inside, rfl⟩ := List.getElem?_eq_some_iff.mp isEntry
      have opened := openValue_text entries[index].2
      simp only [containerStep, isEntry, OpenContainer.text, List.drop_eq_getElem_cons inside, List.map_cons, separatedFrom_cons, List.flatten_append,
        List.flatMap_append, List.flatMap_cons, List.flatMap_nil, List.append_nil, entryText, ← opened, List.append_assoc,
        List.flatten_cons, List.cons_append, List.nil_append]

theorem openValue_flatten_ne_nil (value : JsValue) : (openValue value).1.flatten ≠ [] := by
  have literals : utf16 "null" ≠ [] ∧ utf16 "true" ≠ [] ∧ utf16 "false" ≠ [] := by decide +kernel
  cases value with
  | number value => simp [openValue, text_ne_nil]
  | boolean value => cases value <;> simp [openValue, literals]
  | string text => simp [openValue, stringSegments]
  | array items => simp [openValue]
  | object properties => simp [openValue]
  | _ => simp [openValue, literals]

theorem containerStep_flatten_ne_nil (top : OpenContainer) : (containerStep top).1.flatten ≠ [] := by
  cases top with
  | array items index =>
    cases isItem : items[index]? with
    | none => simp [containerStep, isItem]
    | some item =>
      have opened := openValue_flatten_ne_nil item.orNull
      simp only [containerStep, isItem, List.flatten_append]
      exact List.append_ne_nil_of_right_ne_nil _ opened
  | object entries index =>
    cases isEntry : entries[index]? with
    | none => simp [containerStep, isEntry]
    | some entry => simp [containerStep, isEntry, quoted]

/-- The loop, with the top of the stack first: less is left to be written after each round. -/
def jsonLoop : List OpenContainer → List JsString
  | [] => []
  | top :: below =>
    have less : (((containerStep top).2 ++ below).flatMap OpenContainer.text).length <
        ((top :: below).flatMap OpenContainer.text).length := by
      have written := List.length_pos_iff.mpr (containerStep_flatten_ne_nil top)
      rw [List.flatMap_append, List.flatMap_cons, ← containerStep_text top, List.append_assoc]
      simp only [List.length_append] at written ⊢
      omega
    (containerStep top).1 ++ jsonLoop ((containerStep top).2 ++ below)
termination_by stack => (stack.flatMap OpenContainer.text).length
decreasing_by exact less

def jsonSegments (root : JsValue) : List JsString := (openValue root).1 ++ jsonLoop (openValue root).2.toList

theorem jsonLoop_text (stack : List OpenContainer) : (jsonLoop stack).flatten = stack.flatMap OpenContainer.text := by
  fun_induction jsonLoop stack with
  | case1 => rfl
  | case2 top below _ ih =>
    rw [List.flatten_append, ih, List.flatMap_append, List.flatMap_cons, ← containerStep_text top,
      List.append_assoc]

theorem jsonSegments_flatten (root : JsValue) : (jsonSegments root).flatten = stringify root := by
  rw [jsonSegments, List.flatten_append, jsonLoop_text, openValue_text]

/-! ## Whole segments -/

/-- Something that can be escaped and counted by itself. -/
def Segment (text : JsString) : Prop := text ≠ [] ∧ EndsWhole text

theorem segment_ascii {text : JsString} (ascii : Ascii text) (present : text ≠ []) : Segment text := ⟨present, ascii.endsWhole⟩

theorem segment_slices {limit : Nat} (atLeastTwo : 2 ≤ limit) (text : JsString) :
    ∀ segment ∈ escapedSlices limit atLeastTwo text, Segment segment := by
  fun_induction escapedSlices limit atLeastTwo text with
  | case1 => simp
  | case2 unit rest ih =>
    have positive := @sliceLength_pos limit (unit :: rest) atLeastTwo (by simp)
    intro segment member
    rcases List.mem_cons.mp member with rfl | later
    · refine ⟨?_, endsWhole_escape _⟩
      apply escape_ne_nil
      rw [Ne, List.take_eq_nil_iff]
      simp
      omega
    · exact ih segment later

theorem segment_openValue (value : JsValue) : ∀ segment ∈ (openValue value).1, Segment segment := by
  have literals : ∀ text ∈ [utf16 "null", utf16 "true", utf16 "false", [0x22], [0x5B], [0x7B]], Segment text := by
    simp only [List.forall_mem_cons, List.not_mem_nil, false_imp_iff, implies_true, and_true, Segment, EndsWhole]
    decide +kernel
  simp only [List.forall_mem_cons, List.not_mem_nil, false_imp_iff, implies_true, and_true] at literals
  obtain ⟨isNull, isTrue, isFalse, isQuote, isBracket, isBrace⟩ := literals
  cases value with
  | number value => simpa [openValue] using segment_ascii (ascii_text value) (text_ne_nil value)
  | boolean value => cases value <;> simpa [openValue]
  | string text =>
    intro segment member
    rcases List.mem_cons.mp member with rfl | isLater
    · exact isQuote
    · rcases List.mem_append.mp isLater with isSlice | isLast
      · exact segment_slices (by decide) text segment isSlice
      · rwa [List.mem_singleton.mp isLast]
  | _ => simpa [openValue]

theorem segment_separator (index : Nat) : ∀ segment ∈ separatorAt index, Segment segment := by
  intro segment member
  unfold separatorAt at member
  split at member
  · rw [List.mem_singleton.mp member]
    exact ⟨List.cons_ne_nil _ _, rfl⟩
  · cases member

theorem segment_containerStep (top : OpenContainer) : ∀ segment ∈ (containerStep top).1, Segment segment := by
  cases top with
  | array items index =>
    cases isItem : items[index]? with
    | none => simp [containerStep, isItem, Segment, EndsWhole, isHighSurrogate]
    | some item =>
      simp only [containerStep, isItem, List.mem_append]
      rintro segment (isSeparator | isOpened)
      · exact segment_separator index segment isSeparator
      · exact segment_openValue _ segment isOpened
  | object entries index =>
    cases isEntry : entries[index]? with
    | none => simp [containerStep, isEntry, Segment, EndsWhole, isHighSurrogate]
    | some entry =>
      simp only [containerStep, isEntry, List.mem_append, List.mem_cons]
      rintro segment (isSeparator | rfl | isOpened)
      · exact segment_separator index segment isSeparator
      · exact ⟨by simp, endsWhole_concat rfl⟩
      · exact segment_openValue _ segment isOpened

theorem segment_jsonSegments (root : JsValue) : ∀ segment ∈ jsonSegments root, Segment segment := by
  have loops : ∀ stack, ∀ segment ∈ jsonLoop stack, Segment segment := by
    intro stack
    fun_induction jsonLoop stack with
    | case1 => simp
    | case2 top below _ ih =>
      intro segment member
      rcases List.mem_append.mp member with isStep | isLater
      · exact segment_containerStep top segment isStep
      · exact ih segment isLater
  intro segment member
  rcases List.mem_append.mp member with isOpened | isLater
  · exact segment_openValue root segment isOpened
  · exact loops _ segment isLater

/-! ## Frames -/

/-- `event: chat_projection`, a line feed, `data: ` and the frame's JSON, and two line feeds. -/
def serializeChatProjectionFrame (frame : ChatProjectionFrame) : JsString :=
  utf16 "event: chat_projection\ndata: " ++ stringify frame.toJson ++ utf16 "\n\n"

inductive EncodeError where
  | invalidFrame
  /-- `Chat projection segment of … bytes exceeds the …-byte frame budget.` -/
  | segmentTooLong (bytes : Nat) (maxFrameBytes : Int)

/-- The frames that the generator yields, and the error that ends it. -/
structure Encoding where
  frames : List ChatProjectionFrame
  error : Option EncodeError

def Encoding.after (frame : ChatProjectionFrame) (later : Encoding) : Encoding := ⟨frame :: later.frames, later.error⟩

/-- Bytes of a segment once it is escaped a second time. -/
def escapedBytes (segment : JsString) : Nat := utf8Length (quoted segment) - 2

section Frames

variable (formats : StringFormats) (transferId : JsString) (recordIndex : Nat) (maxFrameBytes : Int)

/-- A frame that the schema accepts. -/
def frameOf (chunkIndex : Nat) (finalChunk : Bool) (data : JsString) : Option ChatProjectionFrame :=
  let frame : ChatProjectionFrame :=
    ⟨CHAT_PROJECTION_PROTOCOL_VERSION, transferId, recordIndex, chunkIndex, finalChunk, data⟩
  ((chatProjectionFrameSchema formats).parse frame.toJson).map fun _ => frame

/-- What the data of a frame may take. -/
def budgetOf (chunkIndex : Nat) : Option Int :=
  (frameOf formats transferId recordIndex chunkIndex false []).map fun frame =>
    maxFrameBytes - utf8Length (serializeChatProjectionFrame frame)

/-- The loop over the segments. -/
def encodeSegments : List JsString → (chunkIndex : Nat) → (data : JsString) → (dataBytes : Nat) → (budget : Int) → Encoding
  | [], chunkIndex, data, _, _ =>
    match frameOf formats transferId recordIndex chunkIndex true data with
    | none => ⟨[], some .invalidFrame⟩
    | some frame => ⟨[frame], none⟩
  | segment :: rest, chunkIndex, data, dataBytes, budget =>
    let bytes := escapedBytes segment
    if budget < dataBytes + bytes ∧ 0 < dataBytes then
      match frameOf formats transferId recordIndex chunkIndex false data with
      | none => ⟨[], some .invalidFrame⟩
      | some frame =>
        match budgetOf formats transferId recordIndex maxFrameBytes (chunkIndex + 1) with
        | none => ⟨[frame], some .invalidFrame⟩
        | some nextBudget =>
          if nextBudget < bytes then ⟨[frame], some (.segmentTooLong bytes maxFrameBytes)⟩
          else (encodeSegments rest (chunkIndex + 1) segment bytes nextBudget).after frame
    else if budget < bytes then ⟨[], some (.segmentTooLong bytes maxFrameBytes)⟩
    else encodeSegments rest chunkIndex (data ++ segment) (dataBytes + bytes) budget

def encodeChatProjectionRecord (record : JsValue) : Encoding :=
  match budgetOf formats transferId recordIndex maxFrameBytes 0 with
  | none => ⟨[], some .invalidFrame⟩
  | some budget => encodeSegments formats transferId recordIndex maxFrameBytes (jsonSegments record) 0 [] 0 budget

end Frames

/-! ## Bytes -/

theorem escapedBytes_eq (segment : JsString) : escapedBytes segment = utf8Length (escape segment) := by
  have opened : utf8Length (0x22 :: (escape segment ++ [0x22])) = 1 + utf8Length (escape segment ++ [0x22]) :=
    @utf8Length_append [0x22] (escape segment ++ [0x22]) rfl
  rw [escapedBytes, quoted, List.cons_append, opened, utf8Length_append ((endsWhole_escape segment).splitsPair _)]
  have quote : utf8Length [0x22] = 1 := rfl
  omega

theorem utf8Length_escape_append {data segment : JsString} (whole : EndsWhole data) :
    utf8Length (escape (data ++ segment)) = utf8Length (escape data) + utf8Length (escape segment) := by
  rw [escape_append (whole.splitsPair segment), utf8Length_append ((endsWhole_escape data).splitsPair _)]

def booleanText (value : Bool) : JsString := if value then utf16 "true" else utf16 "false"

/-- An event up to the mark that the chunk is final. -/
def frameHead (frame : ChatProjectionFrame) : JsString :=
  utf16 "event: chat_projection\ndata: " ++ 0x7B :: (entryText (utf16 "version", .ofNat frame.version) ++
    0x2C :: (entryText (utf16 "transferId", .string frame.transferId) ++
    0x2C :: (entryText (utf16 "recordIndex", .ofNat frame.recordIndex) ++
    0x2C :: (entryText (utf16 "chunkIndex", .ofNat frame.chunkIndex) ++ 0x2C :: (quoted (utf16 "finalChunk") ++ [0x3A])))))

/-- Between that mark and the data, and after the data. -/
def frameMiddle : JsString := 0x2C :: (quoted (utf16 "data") ++ [0x3A, 0x22])

def frameTail : JsString := 0x22 :: 0x7D :: utf16 "\n\n"

theorem serialize_eq (frame : ChatProjectionFrame) : serializeChatProjectionFrame frame =
    frameHead frame ++ (booleanText frame.finalChunk ++ (frameMiddle ++ (escape frame.data ++ frameTail))) := by
  have isBoolean : stringify (.boolean frame.finalChunk) = booleanText frame.finalChunk := by
    cases frame.finalChunk <;> rfl
  have isData : stringify (.string frame.data) = quoted frame.data := rfl
  have isObject : ∀ properties, stringify (.object properties) =
      0x7B :: (commaSeparated (stringifyProperties properties) ++ [0x7D]) := fun _ => rfl
  rw [serializeChatProjectionFrame, ChatProjectionFrame.toJson, JsValue.literal, isObject, stringifyProperties_eq]
  simp [literalProperties, stated, JsValue.isUndefined, JsValue.ofNat, commaSeparated, isBoolean, isData, frameHead, frameMiddle,
    frameTail, entryText, quoted]

theorem endsWhole_frameHead (frame : ChatProjectionFrame) : EndsWhole (frameHead frame) := by
  simp only [frameHead, EndsWhole, List.getLast?_append, List.getLast?_cons, List.getLast?_nil, Option.getD_some,
    Option.getD_none, Option.some_or, Option.any_some]
  rfl

theorem utf8Length_serialize (frame : ChatProjectionFrame) :
    utf8Length (serializeChatProjectionFrame frame) = utf8Length (frameHead frame) +
      (utf8Length (booleanText frame.finalChunk) + (utf8Length frameMiddle + (utf8Length (escape frame.data) + utf8Length frameTail))) := by
  have booleanWhole : EndsWhole (booleanText frame.finalChunk) := by
    have both : ∀ value, EndsWhole (booleanText value) := by
      unfold EndsWhole
      decide +kernel
    exact both frame.finalChunk
  have middleWhole : EndsWhole frameMiddle := by
    unfold EndsWhole
    decide +kernel
  rw [serialize_eq, utf8Length_append ((endsWhole_frameHead frame).splitsPair _), utf8Length_append (booleanWhole.splitsPair _),
    utf8Length_append (middleWhole.splitsPair _), utf8Length_append ((endsWhole_escape frame.data).splitsPair _)]

/-! ## Runs of the generator -/

/-- Frames with consecutive indices and bounded events.  Unless an error ends them they carry the text, and the last is final. -/
structure Encoding.Carries (encoding : Encoding) (chunkIndex : Nat) (text : JsString) (maxFrameBytes : Int) : Prop where
  bounded : ∀ frame ∈ encoding.frames, (utf8Length (serializeChatProjectionFrame frame) : Int) ≤ maxFrameBytes
  numbered : encoding.frames.map (·.chunkIndex) = List.range' chunkIndex encoding.frames.length
  complete : encoding.error = none → encoding.frames.flatMap (·.data) = text ∧
    ∃ early last, encoding.frames = early ++ [last] ∧ last.finalChunk = true ∧ ∀ frame ∈ early, frame.finalChunk = false

variable {formats : StringFormats} {transferId : JsString} {recordIndex chunkIndex : Nat} {maxFrameBytes : Int}

theorem Encoding.carries_error (error : EncodeError) (text : JsString) :
    Encoding.Carries ⟨[], some error⟩ chunkIndex text maxFrameBytes := by
  constructor
  · intro frame member
    cases member
  · simp
  · intro noError
    cases noError

variable {frame : ChatProjectionFrame}

theorem Encoding.Carries.after {encoding : Encoding} {text : JsString}
    (carries : encoding.Carries (frame.chunkIndex + 1) text maxFrameBytes) (notFinal : frame.finalChunk = false)
    (fits : (utf8Length (serializeChatProjectionFrame frame) : Int) ≤ maxFrameBytes) :
    (encoding.after frame).Carries frame.chunkIndex (frame.data ++ text) maxFrameBytes where
  bounded := by
    intro other member
    rcases List.mem_cons.mp member with rfl | isLater
    · exact fits
    · exact carries.bounded other isLater
  numbered := by
    rw [Encoding.after, List.map_cons, carries.numbered, List.length_cons, List.range'_succ]
  complete := by
    intro noError
    obtain ⟨isText, early, last, isFrames, isFinal, others⟩ := carries.complete noError
    refine ⟨by rw [Encoding.after, List.flatMap_cons, isText], frame :: early, last, by simp [Encoding.after, isFrames], isFinal, ?_⟩
    intro other member
    rcases List.mem_cons.mp member with rfl | isLater
    · exact notFinal
    · exact others other isLater

theorem frameOf_eq_some {finalChunk : Bool} {data : JsString}
    (accepted : frameOf formats transferId recordIndex chunkIndex finalChunk data = some frame) :
    frame = ⟨CHAT_PROJECTION_PROTOCOL_VERSION, transferId, recordIndex, chunkIndex, finalChunk, data⟩ := by
  obtain ⟨_, _, rfl⟩ := Option.map_eq_some_iff.mp accepted
  rfl

/-- The bytes of an event without data. -/
def overheadOf (transferId : JsString) (recordIndex chunkIndex : Nat) : Nat :=
  utf8Length (serializeChatProjectionFrame ⟨CHAT_PROJECTION_PROTOCOL_VERSION, transferId, recordIndex, chunkIndex, false, []⟩)

theorem budgetOf_eq_some {budget : Int} (isBudget : budgetOf formats transferId recordIndex maxFrameBytes chunkIndex = some budget) :
    budget = maxFrameBytes - overheadOf transferId recordIndex chunkIndex := by
  obtain ⟨frame, accepted, rfl⟩ := Option.map_eq_some_iff.mp isBudget
  rw [frameOf_eq_some accepted]
  rfl

/-- Data within the budget make an event within the limit; the last frame is a byte shorter. -/
theorem frameOf_bounded {finalChunk : Bool} {data : JsString}
    (accepted : frameOf formats transferId recordIndex chunkIndex finalChunk data = some frame)
    (within : (utf8Length (escape data) : Int) ≤ maxFrameBytes - overheadOf transferId recordIndex chunkIndex) :
    (utf8Length (serializeChatProjectionFrame frame) : Int) ≤ maxFrameBytes := by
  have marks : ∀ value, utf8Length (booleanText value) ≤ utf8Length (booleanText false) := by decide +kernel
  have mark := marks finalChunk
  have head : ∀ finalChunk data, frameHead ⟨CHAT_PROJECTION_PROTOCOL_VERSION, transferId, recordIndex, chunkIndex, finalChunk, data⟩ =
      frameHead ⟨CHAT_PROJECTION_PROTOCOL_VERSION, transferId, recordIndex, chunkIndex, false, []⟩ := fun _ _ => rfl
  have none : utf8Length (escape []) = 0 := rfl
  rw [overheadOf, utf8Length_serialize] at within
  rw [frameOf_eq_some accepted, utf8Length_serialize, head finalChunk data]
  simp only [none] at within ⊢
  omega

theorem encodeSegments_carries {segments : List JsString} (each : ∀ segment ∈ segments, Segment segment) {data : JsString}
    (whole : EndsWhole data) {budget : Int} (isBudget : budget = maxFrameBytes - overheadOf transferId recordIndex chunkIndex)
    (within : data ≠ [] → (utf8Length (escape data) : Int) ≤ budget) (more : data = [] → segments ≠ []) :
    (encodeSegments formats transferId recordIndex maxFrameBytes segments chunkIndex data (utf8Length (escape data)) budget).Carries
      chunkIndex (data ++ segments.flatten) maxFrameBytes := by
  induction segments generalizing chunkIndex data budget with
  | nil =>
    have present : data ≠ [] := fun empty => more empty rfl
    rw [encodeSegments]
    cases accepted : frameOf formats transferId recordIndex chunkIndex true data with
    | none => exact Encoding.carries_error _ _
    | some frame =>
      have fits := frameOf_bounded accepted (isBudget ▸ within present)
      obtain rfl := frameOf_eq_some accepted
      constructor
      · intro frame member
        rw [List.mem_singleton.mp member]
        exact fits
      · simp
      · intro _
        exact ⟨by simp, [], _, rfl, rfl, by simp⟩
  | cons segment rest ih =>
    obtain ⟨first, others⟩ := List.forall_mem_cons.mp each
    have isLonger : utf8Length (escape (data ++ segment)) = utf8Length (escape data) + escapedBytes segment := by
      rw [utf8Length_escape_append whole, escapedBytes_eq]
    rw [encodeSegments]
    split
    next full =>
      -- the data go into a frame of their own
      have present : data ≠ [] := by
        rintro rfl
        exact absurd full.2 (lt_irrefl 0)
      cases accepted : frameOf formats transferId recordIndex chunkIndex false data with
      | none => exact Encoding.carries_error _ _
      | some frame =>
        have fits := frameOf_bounded accepted (isBudget ▸ within present)
        obtain rfl := frameOf_eq_some accepted
        cases isNext : budgetOf formats transferId recordIndex maxFrameBytes (chunkIndex + 1) with
        | none => exact (Encoding.carries_error _ (segment :: rest).flatten).after rfl fits
        | some nextBudget =>
          simp only
          split
          next => exact (Encoding.carries_error _ (segment :: rest).flatten).after rfl fits
          next short =>
            rw [escapedBytes_eq] at short ⊢
            exact (ih others first.2 (budgetOf_eq_some isNext) (fun _ => not_lt.mp short)
              (fun empty => absurd empty first.1)).after rfl fits
    next notFull =>
      split
      next => exact Encoding.carries_error _ _
      next short =>
        rw [List.flatten_cons, ← List.append_assoc, ← isLonger]
        apply ih others (whole.append first.2) isBudget
        · intro _
          rw [isLonger]
          by_cases isFirst : 0 < utf8Length (escape data)
          · have room : ¬ budget < utf8Length (escape data) + escapedBytes segment := fun exceeds => notFull ⟨exceeds, isFirst⟩
            push_cast
            omega
          · push_cast
            omega
        · intro empty
          exact absurd (List.append_eq_nil_iff.mp empty).2 first.1

/-! ## Frames of a record -/

/-- For every record and every limit, the frames are numbered from zero and no event is longer than the limit; and either
the encoder throws, or exactly the last frame is final and their data are the record's JSON. -/
theorem frames_carry_the_record (formats : StringFormats) (record : Properties) (transferId : JsString) (recordIndex : Nat)
    (maxFrameBytes : Int) :
    let encoding := encodeChatProjectionRecord formats transferId recordIndex maxFrameBytes (.object record)
    (∀ frame ∈ encoding.frames, (utf8Length (serializeChatProjectionFrame frame) : Int) ≤ maxFrameBytes) ∧
      encoding.frames.map (·.chunkIndex) = List.range encoding.frames.length ∧
        (encoding.error ≠ none ∨
          encoding.frames.flatMap (·.data) = stringify (.object record) ∧
            ∃ early last, encoding.frames = early ++ [last] ∧ last.finalChunk = true ∧
              ∀ frame ∈ early, frame.finalChunk = false) := by
  intro encoding
  have carries : encoding.Carries 0 (stringify (.object record)) maxFrameBytes := by
    unfold encoding encodeChatProjectionRecord
    cases isBudget : budgetOf formats transferId recordIndex maxFrameBytes 0 with
    | none => exact Encoding.carries_error _ _
    | some budget =>
      have written := @encodeSegments_carries formats transferId recordIndex 0 maxFrameBytes _
        (segment_jsonSegments (.object record)) [] endsWhole_nil budget (budgetOf_eq_some isBudget) (by simp)
        (by simp [jsonSegments, openValue])
      rwa [List.nil_append, jsonSegments_flatten] at written
  refine ⟨carries.bounded, by rw [carries.numbered, List.range_eq_range'], ?_⟩
  by_cases noError : encoding.error = none
  · exact .inr (carries.complete noError)
  · exact .inl noError

/-- A record that takes two events of up to 180 bytes. -/
example : (encodeChatProjectionRecord sampleFormats (utf16 "00000000-0000-4000-8000-000000000000") 0 180
    (.object [(utf16 "kind", .string (utf16 "queue")), (utf16 "queue", .array [.undefined, .nonFinite])])).frames.map
      (·.finalChunk) = [false, true] := by
  decide +kernel

end SiftKit.Chat
