import GeoTrack.ClientConnection
import GeoTrack.MapBounds
import GeoTrack.PositionMessages
import GeoTrack.SlidingWindow

/-!
# What a dashboard may say

A dashboard sends two kinds of messages on its socket: the window it looks at, and
pings.  Anything else is answered with an error, and a client that sends too much of
it within a minute is cut off.

While the reader of a socket works, the other tasks of the gateway use the same
connection at any time.
-/

namespace GeoTrack

open LabelledRuns SlidingWindow

/-- An `int`; truth values are ints too. -/
inductive PyInt where
  | int (value : ℤ)
  | bool (value : Bool)
deriving DecidableEq

def PyInt.json : PyInt → Json
  | .int value => .int value
  | .bool value => .bool value

/-- `isinstance(value, int)`. -/
def Json.pyInt? : Json → Option PyInt
  | .int value => some (.int value)
  | .bool value => some (.bool value)
  | _ => none

/-- Texts Python makes: of a `float` that fails, and of any value. -/
structure PyTexts where
  floatError : Json → String
  repr : Option Json → String

/-- `ViewportMessage | PingMessage`. -/
inductive ProtocolMessage where
  | viewport (bbox : BBox)
  | ping (t : PyInt)

section Parsing

variable (orjson : Orjson) (numerals : PyNumerals) (texts : PyTexts)

def floatOrText (value : Json) : Except String PyFloat :=
  match numerals.toFloat value with
  | .ok number => .ok number
  | .error _ => .error (texts.floatError value)

def parseBBox (west south east north : Json) : Except String BBox := do
  let west ← floatOrText numerals texts west
  let south ← floatOrText numerals texts south
  let east ← floatOrText numerals texts east
  let north ← floatOrText numerals texts north
  BBox.ofFloats west south east north

/-- The message of a payload, or the text of a `ProtocolError`. -/
def parseClientMessage (raw : Bytes) : Except String ProtocolMessage :=
  match orjson.loads raw with
  | .error reason => .error ("invalid json: " ++ reason)
  | .ok (.obj fields) =>
      match fields.lookup "type" with
      | some (.str "viewport") =>
          match fields.lookup "bbox" with
          | some (.arr [west, south, east, north]) =>
              match parseBBox numerals texts west south east north with
              | .ok bbox => .ok (.viewport bbox)
              | .error reason => .error ("invalid bbox: " ++ reason)
          | _ => .error "viewport requires bbox [west, south, east, north]"
      | some (.str "ping") =>
          match ((fields.lookup "t").getD (.int 0)).pyInt? with
          | some t => .ok (.ping t)
          | none => .error "ping requires an integer t"
      | unknown => .error ("unsupported message type: " ++ texts.repr unknown)
  | .ok _ => .error "message must be a json object"

end Parsing

def Protocol.pongFrame (orjson : Orjson) (t : PyInt) (serverT : ℤ) : Bytes :=
  orjson.dumps (.obj [("type", .str "pong"), ("t", t.json), ("server_t", .int serverT)])

def Protocol.errorFrame (orjson : Orjson) (code detail : String) : Bytes :=
  orjson.dumps (.obj [("type", .str "error"), ("code", .str code), ("detail", .str detail)])

def clientMalformedBudget : ℕ := 20

def clientMalformedWindowS : ℚ := 60

def maxClientMessageBytes : ℕ := 16 * 1024

def closeProtocolError : ℕ := 1008

/-- What the other tasks of the gateway do with a connection. -/
inductive ConnectionCall where
  | sendControl (frame : Bytes)
  | offerPositions (delta : TickDelta)
  | requestClose (code : ℕ) (reason : String)
  | nextFrame (hub : PositionHub) (nowMs : ℤ)

def ConnectionCall.apply (connection : ClientConnection) : ConnectionCall → ClientConnection
  | .sendControl frame => connection.sendControl frame
  | .offerPositions delta => connection.offerPositions delta
  | .requestClose code reason => connection.requestClose code reason
  | .nextFrame hub nowMs => ((connection.nextFrame hub nowMs).map fun taken => taken.2.1).getD
      connection

/-- The reader of a socket: whether its loop still runs, the moments of the bad
messages, and the frames it has answered with. -/
structure ClientReader where
  connection : ClientConnection
  violations : List ℚ
  running : Bool
  answers : List Bytes

inductive ReaderEvent where
  /-- A message with its bytes, if it has any, and the clocks its handling reads. -/
  | received (payload : Option Bytes) (at_ : ℚ) (serverT : ℤ)
  | disconnected
  | elsewhere (call : ConnectionCall)

namespace ClientReader

def fresh (connection : ClientConnection) : ClientReader := ⟨connection, [], true, []⟩

def answer (frame : Bytes) (reader : ClientReader) : ClientReader :=
  { reader with
    connection := reader.connection.sendControl frame
    answers := reader.answers ++ [frame] }

def reject (orjson : Orjson) (at_ : ℚ) (code detail : String) (reader : ClientReader) :
    ClientReader :=
  let recent := reader.violations.dropWhile fun violation =>
    violation < Binary64.round (at_ - clientMalformedWindowS)
  let noted := { reader with violations := recent ++ [at_] }
  if clientMalformedBudget < noted.violations.length then
    { noted with
      connection := noted.connection.requestClose closeProtocolError
        "too many malformed messages"
      running := false }
  else
    noted.answer (Protocol.errorFrame orjson code detail)

def receive (orjson : Orjson) (numerals : PyNumerals) (texts : PyTexts) (payload : Option Bytes)
    (at_ : ℚ) (serverT : ℤ) (reader : ClientReader) : ClientReader :=
  match payload with
  | none => reader
  | some payload =>
      if maxClientMessageBytes < payload.length then
        reader.reject orjson at_ "message_too_large"
          s!"messages are limited to {maxClientMessageBytes} bytes"
      else
        match parseClientMessage orjson numerals texts payload with
        | .error detail => reader.reject orjson at_ "bad_message" detail
        | .ok (.viewport bbox) =>
            { reader with connection := reader.connection.setViewport bbox }
        | .ok (.ping t) => reader.answer (Protocol.pongFrame orjson t serverT)

def step (orjson : Orjson) (numerals : PyNumerals) (texts : PyTexts) (reader : ClientReader) :
    ReaderEvent → Option ClientReader
  | .received payload at_ serverT =>
      if reader.running then some (reader.receive orjson numerals texts payload at_ serverT)
      else none
  | .disconnected => if reader.running then some { reader with running := false } else none
  | .elsewhere call => some { reader with connection := call.apply reader.connection }

end ClientReader

end GeoTrack
