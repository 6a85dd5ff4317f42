import Mathlib.Data.Rat.Defs
import Mathlib.Algebra.Order.Ring.Unbundled.Rat

/-!
# Stream entries and their wire format

A report travels through an ingest stream as a compact JSON array of five
elements.  Decoding is where a payload that nobody can process is told apart
from one that can: every check raises the error the dead letter will carry.

JSON itself is read and written by a library outside the repository, taken
here as the parameter `Orjson`.  A finite float is the rational number it
denotes.
-/

namespace GeoTrack

abbrev Bytes := List UInt8

abbrev DeviceId := String

/-- A Python float, with the finite values as exact rationals. -/
inductive PyFloat where
  | finite (value : ℚ)
  | infinite (negative : Bool)
  | nan
deriving DecidableEq

/-- The values a JSON document loads to. -/
inductive Json where
  | null
  | bool (value : Bool)
  | int (value : ℤ)
  | float (value : PyFloat)
  | str (value : String)
  | arr (items : List Json)
  | obj (fields : List (String × Json))

/-- The JSON library. -/
structure Orjson where
  loads : Bytes → Except String Json
  dumps : Json → Bytes

/-- A library that knows one document. -/
def Orjson.knowing (raw : Bytes) (document : Json) : Orjson where
  loads other :=
    if other = raw then .ok document
    else .error "unexpected content after document: line 1 column 1 (char 0)"
  dumps _ := raw

/-- One device report as it travels through a shard stream. -/
structure LocationRecord where
  deviceId : DeviceId
  lat : ℚ
  lon : ℚ
  reportedMs : ℤ
  receivedMs : ℤ
deriving DecidableEq

/-- A position as it is broadcast. -/
structure PositionItem where
  deviceId : DeviceId
  latitude : ℚ
  longitude : ℚ
  reportedMs : ℤ
deriving DecidableEq

/-- Raised for payloads that cannot be decoded; the text goes to the
dead-letter stream. -/
structure CodecError where
  message : String
deriving DecidableEq

namespace Json

/-- `isinstance(value, int)`, which Python booleans satisfy too. -/
def asInt : Json → Option ℤ
  | .int value => some value
  | .bool value => some value.toInt
  | _ => none

/-- `isinstance(value, int | float)`, with the number it stands for. -/
def asNumber : Json → Option PyFloat
  | .float value => some value
  | value => value.asInt.map fun number => .finite number

end Json

def encodeRecord (orjson : Orjson) (record : LocationRecord) : Bytes :=
  orjson.dumps (.arr
    [.str record.deviceId, .float (.finite record.lat), .float (.finite record.lon),
      .int record.reportedMs, .int record.receivedMs])

/-- The checks on the five elements of a record, in the order of the source. -/
def checkRecord (deviceId lat lon reportedMs receivedMs : Json) :
    Except CodecError LocationRecord :=
  match deviceId with
  | .str device =>
      if device = "" then
        .error ⟨"device_id must be a non-empty string"⟩
      else
        match lat.asNumber, lon.asNumber with
        | some (.finite latitude), some (.finite longitude) =>
            if ¬ (-90 ≤ latitude ∧ latitude ≤ 90) ∨
                ¬ (-180 ≤ longitude ∧ longitude ≤ 180) then
              .error ⟨"latitude or longitude out of range"⟩
            else
              match reportedMs.asInt, receivedMs.asInt with
              | some reported, some received =>
                  .ok ⟨device, latitude, longitude, reported, received⟩
              | _, _ => .error ⟨"timestamps must be integers"⟩
        | some _, some _ => .error ⟨"latitude and longitude must be finite"⟩
        | _, _ => .error ⟨"latitude and longitude must be numbers"⟩
  | _ => .error ⟨"device_id must be a non-empty string"⟩

def decodeRecord (orjson : Orjson) (raw : Bytes) : Except CodecError LocationRecord :=
  match orjson.loads raw with
  | .error reason => .error ⟨"invalid json: " ++ reason⟩
  | .ok (.arr [deviceId, lat, lon, reportedMs, receivedMs]) =>
      checkRecord deviceId lat lon reportedMs receivedMs
  | .ok _ => .error ⟨"record must be a 5-element array"⟩

end GeoTrack
