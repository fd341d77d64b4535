import SiftKit.Chat.ProjectionEncoder
import SiftKit.Foundation.StreamCutting

/-! # Event streams

`lib/sse-frame-parser.ts`: a stream of events is cut at its empty lines, however it was chunked, and the lines of a
packet are its event and its data.
-/

namespace SiftKit.Chat

open SiftKit.Json
open SiftKit.Json.Schema (isWhiteSpace trim)
open SiftKit.StreamCutting

/-! ## Line ends -/

def lineFeed : CodeUnit := 0x0A

def carriageReturn : CodeUnit := 0x0D

/-- What follows a line end at the start of a text, `/^\r?\n/`. -/
def afterLineEnd : JsString → Option JsString
  | [] => none
  | first :: rest =>
    if first = lineFeed then some rest
    else if first = carriageReturn then
      match rest with
      | [] => none
      | second :: later => if second = lineFeed then some later else none
    else none

/-- What follows an empty line at the start of a text, `/^\r?\n\r?\n/`. -/
def afterBoundary (text : JsString) : Option JsString := (afterLineEnd text).bind afterLineEnd

variable {text later : JsString} (frame : ChatProjectionFrame)

theorem afterLineEnd_eq_some :
    afterLineEnd text = some later ↔ text = lineFeed :: later ∨ text = carriageReturn :: lineFeed :: later := by
  cases text with
  | nil => simp [afterLineEnd]
  | cons first rest =>
    by_cases isFeed : first = lineFeed
    · simp [afterLineEnd, isFeed, lineFeed, carriageReturn]
    · by_cases isReturn : first = carriageReturn
      · cases rest with
        | nil => simp [afterLineEnd, isReturn, lineFeed, carriageReturn]
        | cons second others =>
          by_cases isSecond : second = lineFeed
          · simp [afterLineEnd, isReturn, isSecond, lineFeed, carriageReturn]
          · have apart : carriageReturn ≠ lineFeed := by decide
            simp [afterLineEnd, isReturn, isSecond, apart]
      · simp [afterLineEnd, isFeed, isReturn]

theorem afterLineEnd_unfinished {more : JsString} (absent : afterLineEnd text = none)
    (completed : afterLineEnd (text ++ more) = some later) : text = [] ∨ text = [carriageReturn] := by
  cases afterLineEnd_eq_some.mp completed with
  | inl isFeed =>
    cases text with
    | nil => exact .inl rfl
    | cons first rest =>
      obtain ⟨rfl, _⟩ := List.cons_eq_cons.mp isFeed
      simp [afterLineEnd] at absent
  | inr isReturn =>
    cases text with
    | nil => exact .inl rfl
    | cons first rest =>
      obtain ⟨rfl, isRest⟩ := List.cons_eq_cons.mp isReturn
      cases rest with
      | nil => exact .inr rfl
      | cons second rest =>
        obtain ⟨rfl, _⟩ := List.cons_eq_cons.mp isRest
        simp [afterLineEnd, carriageReturn, lineFeed] at absent

theorem afterLineEnd_shorter (found : afterLineEnd text = some later) : later.length < text.length := by
  obtain rfl | rfl := afterLineEnd_eq_some.mp found <;> simp

theorem afterLineEnd_append (more : JsString) (found : afterLineEnd text = some later) :
    afterLineEnd (text ++ more) = some (later ++ more) := by
  rw [afterLineEnd_eq_some] at found ⊢
  obtain rfl | rfl := found <;> simp

/-- Lines are delimited by their ends. -/
def lineEnd : Delimiter CodeUnit where
  after := afterLineEnd
  consumes := afterLineEnd_shorter
  extends_under := afterLineEnd_append
  unfinished := by
    intro text more later absent completed
    obtain rfl | rfl := afterLineEnd_unfinished absent completed <;> decide

/-- Packets are delimited by empty lines. -/
def packetEnd : Delimiter CodeUnit where
  after := afterBoundary
  consumes := by
    intro text later found
    obtain ⟨middle, isMiddle, isLater⟩ := Option.bind_eq_some_iff.mp found
    exact Nat.lt_trans (afterLineEnd_shorter isLater) (afterLineEnd_shorter isMiddle)
  extends_under := by
    intro text later more found
    obtain ⟨middle, isMiddle, isLater⟩ := Option.bind_eq_some_iff.mp found
    rw [afterBoundary, afterLineEnd_append more isMiddle]
    exact afterLineEnd_append more isLater
  unfinished := by
    intro text more later absent completed
    obtain ⟨middle, isMiddle, isLater⟩ := Option.bind_eq_some_iff.mp completed
    cases first : afterLineEnd text with
    | none => obtain rfl | rfl := afterLineEnd_unfinished first isMiddle <;> decide
    | some rest =>
      -- the first line end is there, the second one is what more text completes
      rw [afterLineEnd_append more first] at isMiddle
      cases isMiddle
      rw [afterBoundary, first] at absent
      obtain rfl | rfl := afterLineEnd_unfinished absent isLater <;>
        obtain rfl | rfl := afterLineEnd_eq_some.mp first <;> decide

/-- `text.split(/\r?\n/)`. -/
def splitLines (text : JsString) : List JsString := (lineEnd.drain text).1 ++ [(lineEnd.drain text).2]

/-! ## The parser -/

structure SseFrame where
  event : JsString
  data : JsString
  deriving DecidableEq

structure PacketLines where
  event : JsString
  dataLines : List JsString

/-- `line.trimEnd()`. -/
def trimEnd (line : JsString) : JsString := line.rdropWhile isWhiteSpace

def readLine (packet : PacketLines) (rawLine : JsString) : PacketLines :=
  let line := trimEnd rawLine
  if line.isEmpty || (utf16 ":").isPrefixOf line then packet
  else if (utf16 "event:").isPrefixOf line then { packet with event := trim (line.drop (utf16 "event:").length) }
  else if (utf16 "data:").isPrefixOf line then
    { packet with dataLines := packet.dataLines ++ [trim (line.drop (utf16 "data:").length)] }
  else packet

def parsePacket (packet : JsString) : Option SseFrame :=
  let read := (splitLines packet).foldl readLine { event := utf16 "message", dataLines := [] }
  if read.dataLines.isEmpty then none else some { event := read.event, data := [lineFeed].intercalate read.dataLines }

structure SseFrameParser where
  buffer : JsString

namespace SseFrameParser

def new : SseFrameParser := { buffer := [] }

def pendingLength (parser : SseFrameParser) : Nat := parser.buffer.length

/-- `push`: the frames of the packets that are complete, and the parser after them. -/
def push (parser : SseFrameParser) (chunk : JsString) : List SseFrame × SseFrameParser :=
  let drained := packetEnd.drain (parser.buffer ++ chunk)
  (drained.1.filterMap parsePacket, { buffer := drained.2 })

/-- One push after the other. -/
def pushAll (parser : SseFrameParser) : List JsString → List SseFrame × SseFrameParser
  | [] => ([], parser)
  | chunk :: rest =>
    let pushed := parser.push chunk
    let later := pushAll pushed.2 rest
    (pushed.1 ++ later.1, later.2)

/-- A parser whose buffer holds no complete packet, as every parser is between two pushes. -/
def Waiting (parser : SseFrameParser) : Prop := packetEnd.cut parser.buffer = none

theorem push_waiting (parser : SseFrameParser) (chunk : JsString) : (parser.push chunk).2.Waiting := Delimiter.cut_rest _

theorem push_append (parser : SseFrameParser) (chunk more : JsString) :
    parser.push (chunk ++ more) =
      ((parser.push chunk).1 ++ ((parser.push chunk).2.push more).1, ((parser.push chunk).2.push more).2) := by
  simp only [push]
  rw [← List.append_assoc, Delimiter.drain_append, List.filterMap_append]

theorem pushAll_eq_push {parser : SseFrameParser} (waiting : parser.Waiting) (chunks : List JsString) :
    parser.pushAll chunks = parser.push chunks.flatten := by
  induction chunks generalizing parser with
  | nil => simp [pushAll, push, Delimiter.drain_uncut waiting]
  | cons chunk rest ih =>
    rw [List.flatten_cons, push_append, pushAll, ih (push_waiting parser chunk)]

end SseFrameParser

/-! ## Chat projection events -/

theorem Printable.no_lineEnd (printable : Printable text) :
    ∀ unit ∈ text, ∀ rest, afterLineEnd (unit :: rest) = none := by
  intro unit member rest
  have above := printable unit member
  have noFeed : unit ≠ lineFeed := by
    rintro rfl
    exact absurd above (by decide)
  have noReturn : unit ≠ carriageReturn := by
    rintro rfl
    exact absurd above (by decide)
  simp [afterLineEnd, noFeed, noReturn]

theorem Printable.no_boundary (printable : Printable text) :
    ∀ unit ∈ text, ∀ rest, afterBoundary (unit :: rest) = none := by
  intro unit member rest
  rw [afterBoundary, Printable.no_lineEnd printable unit member rest]
  rfl

theorem cut_packet {head : JsString} {first : CodeUnit} {tail : JsString} (isHead : Printable head)
    (isTail : Printable (first :: tail)) (rest : JsString) :
    packetEnd.cut (head ++ lineFeed :: first :: tail ++ [lineFeed, lineFeed] ++ rest) =
      some (head ++ lineFeed :: first :: tail, rest) := by
  have atEnd : cutWith afterBoundary ([lineFeed, lineFeed] ++ rest) = some ([], rest) := cutWith_here rfl
  have inTail : cutWith afterBoundary ((first :: tail) ++ ([lineFeed, lineFeed] ++ rest)) = some (first :: tail, rest) := by
    rw [cutWith_append (Printable.no_boundary isTail), atEnd]
    simp
  -- the one line end is not the first half of an empty line
  have atLine : afterBoundary (lineFeed :: ((first :: tail) ++ ([lineFeed, lineFeed] ++ rest))) = none :=
    Printable.no_lineEnd isTail first (List.mem_cons_self ..) _
  have fromLine : cutWith afterBoundary (lineFeed :: ((first :: tail) ++ ([lineFeed, lineFeed] ++ rest))) =
      some (lineFeed :: first :: tail, rest) := by
    rw [cutWith_cons atLine, inTail]
    rfl
  have whole := cutWith_append (Printable.no_boundary isHead) (lineFeed :: ((first :: tail) ++ ([lineFeed, lineFeed] ++ rest)))
  rw [fromLine] at whole
  rw [Delimiter.cut, List.append_assoc, List.append_assoc]
  exact whole

theorem splitLines_two {head tail : JsString} (isHead : Printable head) (isTail : Printable tail) :
    splitLines (head ++ lineFeed :: tail) = [head, tail] := by
  have noLine : cutWith afterLineEnd [] = none := rfl
  have first : lineEnd.cut (head ++ lineFeed :: tail) = some (head, tail) := by
    have whole := cutWith_append (Printable.no_lineEnd isHead) (lineFeed :: tail)
    rw [cutWith_here (show afterLineEnd (lineFeed :: tail) = some tail from rfl)] at whole
    rw [Delimiter.cut]
    simpa [lineEnd] using whole
  have last : lineEnd.cut tail = none := by
    have whole := cutWith_append (Printable.no_lineEnd isTail) []
    rw [noLine, List.append_nil] at whole
    exact whole
  rw [splitLines, Delimiter.drain_cut first, Delimiter.drain_uncut last]
  rfl

def eventLine : JsString := utf16 "event: chat_projection"

def dataPrefix : JsString := utf16 "data: "

theorem printable_eventLine : Printable eventLine := by decide

theorem readLine_event (packet : PacketLines) : readLine packet eventLine = { packet with event := utf16 "chat_projection" } := by
  have whole : trimEnd eventLine = eventLine := by decide +kernel
  have isEvent : trim (eventLine.drop (utf16 "event:").length) = utf16 "chat_projection" := by decide +kernel
  have noComment : (eventLine.isEmpty || (utf16 ":").isPrefixOf eventLine) = false := by decide
  have event : (utf16 "event:").isPrefixOf eventLine = true := by decide
  simp only [readLine, whole, noComment, event, isEvent, if_true, Bool.false_eq_true, if_false]

theorem readLine_data {first last : CodeUnit} {middle : JsString} (isFirst : isWhiteSpace first = false)
    (isLast : isWhiteSpace last = false) (packet : PacketLines) :
    readLine packet (dataPrefix ++ first :: (middle ++ [last])) =
      { packet with dataLines := packet.dataLines ++ [first :: (middle ++ [last])] } := by
  have ends : ∀ text : JsString, (text ++ [last]).rdropWhile isWhiteSpace = text ++ [last] := fun text =>
    List.rdropWhile_concat_neg _ _ _ (by simp [isLast])
  have whole : trimEnd (dataPrefix ++ first :: (middle ++ [last])) = dataPrefix ++ first :: (middle ++ [last]) :=
    ends (dataPrefix ++ first :: middle)
  -- the blank after the colon goes, and nothing else
  have isData : trim ((dataPrefix ++ first :: (middle ++ [last])).drop (utf16 "data:").length) = first :: (middle ++ [last]) := by
    have dropped : (dataPrefix ++ first :: (middle ++ [last])).drop (utf16 "data:").length = 0x20 :: first :: (middle ++ [last]) := rfl
    have blank : isWhiteSpace 0x20 = true := by decide
    rw [dropped, trim, List.dropWhile_cons_of_pos blank, List.dropWhile_cons_of_neg (by simp [isFirst])]
    exact ends (first :: middle)
  have noComment : ((dataPrefix ++ first :: (middle ++ [last])).isEmpty ||
      (utf16 ":").isPrefixOf (dataPrefix ++ first :: (middle ++ [last]))) = false := rfl
  have noEvent : (utf16 "event:").isPrefixOf (dataPrefix ++ first :: (middle ++ [last])) = false := rfl
  have data : (utf16 "data:").isPrefixOf (dataPrefix ++ first :: (middle ++ [last])) = true := rfl
  simp only [readLine, whole, noComment, noEvent, data, isData, if_true, Bool.false_eq_true, if_false]

def framePacket (frame : ChatProjectionFrame) : JsString := eventLine ++ lineFeed :: (dataPrefix ++ stringify frame.toJson)

theorem serialize_eq_packet : serializeChatProjectionFrame frame = framePacket frame ++ [lineFeed, lineFeed] := by
  have isHead : utf16 "event: chat_projection\ndata: " = eventLine ++ lineFeed :: dataPrefix := rfl
  rw [serializeChatProjectionFrame, isHead, framePacket]
  simp only [List.append_assoc, List.cons_append]
  rfl

theorem printable_dataLine : Printable (dataPrefix ++ stringify frame.toJson) := by
  have isPrefix : Printable dataPrefix := by decide
  exact List.forall_mem_append.mpr ⟨isPrefix, printable_stringify _⟩

theorem parsePacket_framePacket :
    parsePacket (framePacket frame) = some { event := utf16 "chat_projection", data := stringify frame.toJson } := by
  obtain ⟨middle, isObject⟩ : ∃ middle, stringify frame.toJson = 0x7B :: (middle ++ [0x7D]) := ⟨_, rfl⟩
  have lines : splitLines (framePacket frame) = [eventLine, dataPrefix ++ stringify frame.toJson] :=
    splitLines_two printable_eventLine (printable_dataLine frame)
  rw [parsePacket, lines, List.foldl_cons, List.foldl_cons, List.foldl_nil, readLine_event, isObject,
    readLine_data (by decide) (by decide)]
  simp

/-- What a parser reads of an event. -/
def frameEvent (frame : ChatProjectionFrame) : SseFrame := { event := utf16 "chat_projection", data := stringify frame.toJson }

/-- The chunks of a text make no difference to its frames and to what is pending; and of the serialized frames, in whatever
chunks they come, exactly these frames are read in their order, with data that are read back. -/
theorem event_stream_ignores_chunks :
    (∀ chunks : List JsString,
      (SseFrameParser.new.pushAll chunks).1 = (SseFrameParser.new.push chunks.flatten).1 ∧
        (SseFrameParser.new.pushAll chunks).2.pendingLength = (SseFrameParser.new.push chunks.flatten).2.pendingLength) ∧
    (∀ (frames : List ChatProjectionFrame) (chunks : List JsString),
      chunks.flatten = frames.flatMap serializeChatProjectionFrame →
        (SseFrameParser.new.pushAll chunks).1 = frames.map frameEvent ∧
          (SseFrameParser.new.pushAll chunks).2.pendingLength = 0 ∧
          ∀ frame, parse (frameEvent frame).data = some frame.toJson) := by
  have waiting : SseFrameParser.new.Waiting := rfl
  constructor
  · intro chunks
    rw [SseFrameParser.pushAll_eq_push waiting]
    exact ⟨rfl, rfl⟩
  · intro frames chunks isStream
    have packets : frames.flatMap serializeChatProjectionFrame =
        (frames.map framePacket).flatMap (· ++ [lineFeed, lineFeed]) ++ [] := by
      rw [List.append_nil, List.flatMap_map]
      exact List.flatMap_congr fun frame _ => serialize_eq_packet frame
    have drained : packetEnd.drain (frames.flatMap serializeChatProjectionFrame) = (frames.map framePacket, []) := by
      rw [packets]
      apply Delimiter.drain_pieces
      · intro piece member rest
        obtain ⟨frame, _, rfl⟩ := List.mem_map.mp member
        exact cut_packet printable_eventLine (printable_dataLine frame) rest
      · rfl
    have events : (frames.map framePacket).filterMap parsePacket = frames.map frameEvent := by
      rw [List.filterMap_map, ← List.filterMap_eq_map]
      exact List.filterMap_congr fun frame _ => parsePacket_framePacket frame
    rw [SseFrameParser.pushAll_eq_push waiting, isStream]
    simp only [SseFrameParser.push, SseFrameParser.new, List.nil_append, drained, SseFrameParser.pendingLength]
    refine ⟨events, rfl, fun frame => ?_⟩
    have proper : Proper frame.toJson := by
      apply proper_literal
      · simp
      · simp only [List.forall_mem_cons, List.not_mem_nil, false_implies, implies_true, and_true]
        exact ⟨.number _, .string _, .number _, .number _, .boolean _, .string _⟩
    exact parse_stringify proper

def terminalFrame : ChatProjectionFrame :=
  ⟨CHAT_PROJECTION_PROTOCOL_VERSION, utf16 "7c9e6679-7425-40de-944b-e07fc1f90ae7", 2, 0, true, utf16 "\x7b\"kind\":\"terminal\"\x7d\r\n"⟩

/-- A frame in two chunks. -/
theorem terminalFrame_in_two_chunks :
    (SseFrameParser.new.pushAll [(serializeChatProjectionFrame terminalFrame).take 40,
      (serializeChatProjectionFrame terminalFrame).drop 40]).1 = [frameEvent terminalFrame] := by
  have stream : [(serializeChatProjectionFrame terminalFrame).take 40, (serializeChatProjectionFrame terminalFrame).drop 40].flatten =
      [terminalFrame].flatMap serializeChatProjectionFrame := by
    simp
  exact (event_stream_ignores_chunks.2 [terminalFrame] _ stream).1

end SiftKit.Chat
