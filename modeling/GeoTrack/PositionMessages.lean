import GeoTrack.Binary64
import GeoTrack.DashboardPresence
import GeoTrack.HubFrames
import GeoTrack.RedisBridge

/-!
# Positions on the fan-out channel

A committed batch is broadcast in pipelines of a bounded number of messages, the
positions first.  A failing pipeline has sent a prefix of its commands, and
nothing is sent after it.

At the other end a gateway hands every message on the positions channel to its
hub.  Whatever a message raises is contained: it is counted, and what the hub
took from it before stays.
-/

namespace GeoTrack

/-- The message of a batch's positions. -/
def positionsDocument (items : List PositionItem) : Json :=
  .obj [("items", .arr (items.map PositionItem.json))]

def encodePositions (orjson : Orjson) (items : List PositionItem) : Bytes :=
  orjson.dumps (positionsDocument items)

/-- The exceptions of decoding and applying a message. -/
inductive PyException where
  | codecError (message : String)
  | typeError
  | valueError
  | overflowError
deriving DecidableEq

/-- What Python makes of a text as a number. -/
structure PyNumerals where
  float : String → Option PyFloat
  int : String → Option ℤ

/-- `float(value)`. -/
def PyNumerals.toFloat (numerals : PyNumerals) : Json → Except PyException PyFloat
  | .float value => .ok value
  | .int value => .ok (.finite (Binary64.round value))
  | .bool value => .ok (.finite value.toInt)
  | .str text => (numerals.float text).elim (.error .valueError) .ok
  | .null | .arr _ | .obj _ => .error .typeError

/-- `int(value)`. -/
def PyNumerals.toInt (numerals : PyNumerals) : Json → Except PyException ℤ
  | .int value => .ok value
  | .bool value => .ok value.toInt
  | .float (.finite value) => .ok (Binary64.truncate value)
  | .float (.infinite _) => .error .overflowError
  | .float .nan => .error .valueError
  | .str text => (numerals.int text).elim (.error .valueError) .ok
  | .null | .arr _ | .obj _ => .error .typeError

/-- A position as it is decoded: the coordinates are any floats. -/
structure DecodedPosition where
  deviceId : DeviceId
  latitude : PyFloat
  longitude : PyFloat
  reportedMs : ℤ
deriving DecidableEq

def PositionItem.decoded (item : PositionItem) : DecodedPosition :=
  ⟨item.deviceId, .finite item.latitude, .finite item.longitude, item.reportedMs⟩

/-- The position if its coordinates are numbers. -/
def DecodedPosition.item? : DecodedPosition → Option PositionItem
  | ⟨deviceId, .finite latitude, .finite longitude, reportedMs⟩ =>
      some ⟨deviceId, latitude, longitude, reportedMs⟩
  | _ => none

section Decoding

variable (orjson : Orjson) (numerals : PyNumerals)

def decodePosition : Json → Except PyException DecodedPosition
  | .arr [deviceId, lat, lon, reportedMs] =>
      match deviceId with
      | .str device => do
          let latitude ← numerals.toFloat lat
          let longitude ← numerals.toFloat lon
          let reported ← numerals.toInt reportedMs
          return ⟨device, latitude, longitude, reported⟩
      | _ => .error (.codecError "device_id must be a string")
  | _ => .error (.codecError "position item must be a 4-element array")

def decodePositions (raw : Bytes) : Except PyException (List DecodedPosition) :=
  match orjson.loads raw with
  | .error reason => .error (.codecError ("invalid json: " ++ reason))
  | .ok payload =>
      let items := match payload with
        | .obj fields => fields.lookup "items"
        | _ => none
      match items with
      | some (.arr items) => items.mapM (decodePosition numerals)
      | _ => .error (.codecError "positions payload must carry an items array")

end Decoding

namespace PositionHub

/-- `apply` on what was decoded, and whether it raised: the cell of a newer
position cannot be found if a coordinate is no number. -/
def applyDecoded (hub : PositionHub) (updates : ℕ) : List DecodedPosition → PositionHub × Bool
  | [] => ({ hub with updates := updates }, false)
  | decoded :: rest =>
      match decoded.item? with
      | some item =>
          if hub.accepts item then (hub.place item).applyDecoded (updates + 1) rest
          else hub.applyDecoded updates rest
      | none =>
          let newer := (hub.latest.get? decoded.deviceId).all fun entry =>
            entry.item.reportedMs < decoded.reportedMs
          if newer then (hub, true) else hub.applyDecoded updates rest

/-- Positions that are numbers are applied as they are. -/
theorem applyDecoded_decoded (hub : PositionHub) (items : List PositionItem) :
    hub.applyDecoded hub.updates (items.map PositionItem.decoded) = (hub.apply items, false) := by
  have loop : ∀ (items : List PositionItem) (hub : PositionHub) (updates : ℕ),
      hub.applyDecoded updates (items.map PositionItem.decoded) =
        ({ items.foldl (fun current item =>
            if current.accepts item then current.place item else current) hub with
          updates := updates + (hub.accepted items).length }, false) := by
    intro items
    induction items with
    | nil => exact fun hub updates => rfl
    | cons item rest ih =>
        intro hub updates
        rw [List.map_cons, applyDecoded, PositionItem.decoded, DecodedPosition.item?,
          List.foldl_cons, accepted]
        by_cases accepts : hub.accepts item = true
        · simp only [if_pos accepts, ih, List.length_cons]
          rw [Nat.add_right_comm, Nat.add_assoc]
        · simp only [if_neg accepts, ih]
  rw [loop, apply]

end PositionHub

/-- The fan-out of a gateway: its hub, and the messages it could not use. -/
structure Intake where
  hub : PositionHub
  dropped : ℕ

/-- `_deliver` for a message on the positions channel. -/
def Intake.deliver (orjson : Orjson) (numerals : PyNumerals) (intake : Intake) (raw : Bytes) :
    Intake :=
  match decodePositions orjson numerals raw with
  | .error _ => { intake with dropped := intake.dropped + 1 }
  | .ok decoded =>
      let (hub, raised) := intake.hub.applyDecoded intake.hub.updates decoded
      ⟨hub, if raised then intake.dropped + 1 else intake.dropped⟩

/-- The numbers of the position are doubles and an integer that the JSON library
can write. -/
structure PositionItem.Writable (item : PositionItem) : Prop where
  latitude : Binary64.IsDouble item.latitude
  longitude : Binary64.IsDouble item.longitude
  reportedMs : -2 ^ 63 ≤ item.reportedMs ∧ item.reportedMs < 2 ^ 64

/-- What is relied on of the JSON library: it reads back a message of positions
that it can write. -/
def Orjson.ReadsPositions (orjson : Orjson) : Prop :=
  ∀ items, (∀ item ∈ items, item.Writable) →
    orjson.loads (encodePositions orjson items) = .ok (positionsDocument items)

section RoundTrip

variable {orjson : Orjson} {numerals : PyNumerals}

theorem decodePosition_json (item : PositionItem) :
    decodePosition numerals item.json = .ok item.decoded :=
  rfl

theorem mapM_decodePosition (items : List PositionItem) :
    (items.map PositionItem.json).mapM (decodePosition numerals) =
      .ok (items.map PositionItem.decoded) := by
  induction items with
  | nil => rfl
  | cons item rest ih =>
      rw [List.map_cons, List.mapM_cons, decodePosition_json, ih]
      rfl

theorem decodePositions_encodePositions (reads : orjson.ReadsPositions)
    {items : List PositionItem} (all : ∀ item ∈ items, item.Writable) :
    decodePositions orjson numerals (encodePositions orjson items) =
      .ok (items.map PositionItem.decoded) := by
  rw [decodePositions, reads items all]
  exact mapM_decodePosition items

theorem Intake.deliver_encodePositions (reads : orjson.ReadsPositions) (intake : Intake)
    {items : List PositionItem} (all : ∀ item ∈ items, item.Writable) :
    intake.deliver orjson numerals (encodePositions orjson items) =
      ⟨intake.hub.apply items, intake.dropped⟩ := by
  rw [deliver, decodePositions_encodePositions reads all]
  simp only [PositionHub.applyDecoded_decoded, Bool.false_eq_true, if_false]

end RoundTrip

/-- One PUBLISH of a batch's fan-out. -/
inductive Publication where
  | positions (payload : Bytes)
  | alert (userId : Uuid) (frame : AlertOut)

/-- The alert as its owner gets it, or nothing if it cannot be rendered. -/
def frameFor (alert : AlertRow) : Option Publication :=
  if deviceIdMatches alert.deviceId then some (.alert alert.userId alert.out) else none

def publishChunk : ℕ := 256

/-- The loop of `_fan_out`: the pipelines that are executed one after another. -/
def fanOutLoop : List Publication → List AlertRow → List (List Publication)
  | pending, [] => if pending = [] then [] else [pending]
  | pending, alert :: rest =>
      let pending := pending ++ (frameFor alert).toList
      if publishChunk ≤ pending.length then pending :: fanOutLoop [] rest
      else fanOutLoop pending rest

/-- The pipelines of a committed batch. -/
def publish (orjson : Orjson) (result : BatchResult) : List (List Publication) :=
  if result.accepted = [] ∧ result.alerts = [] then []
  else
    fanOutLoop (if result.accepted = [] then []
      else [.positions (encodePositions orjson result.accepted)]) result.alerts

theorem flatten_fanOutLoop (pending : List Publication) (alerts : List AlertRow) :
    (fanOutLoop pending alerts).flatten = pending ++ alerts.filterMap frameFor := by
  induction alerts generalizing pending with
  | nil =>
      rw [fanOutLoop]
      split
      case isTrue nothing => simp [nothing]
      case isFalse => simp
  | cons alert rest ih =>
      have head : (alert :: rest).filterMap frameFor =
          (frameFor alert).toList ++ rest.filterMap frameFor := by
        cases rendered : frameFor alert <;> simp [rendered]
      rw [fanOutLoop, head, ← List.append_assoc]
      split
      case isTrue => rw [List.flatten_cons, ih, List.nil_append]
      case isFalse => exact ih _

/-- The positions go out before the alerts. -/
theorem flatten_publish (orjson : Orjson) (result : BatchResult) :
    (publish orjson result).flatten =
      (if result.accepted = [] then []
        else [.positions (encodePositions orjson result.accepted)]) ++
        result.alerts.filterMap frameFor := by
  unfold publish
  split
  case isTrue nothing => simp [nothing]
  case isFalse => exact flatten_fanOutLoop _ _

/-- The payloads on the positions channel among some publications. -/
def payloads (sent : List Publication) : List Bytes :=
  sent.filterMap fun publication =>
    match publication with
    | .positions payload => some payload
    | .alert .. => none

/-- However far the fan-out gets, what it puts on the positions channel is the
message of the positions or nothing. -/
theorem payloads_take_publish (orjson : Orjson) (result : BatchResult) (sent : ℕ) :
    ∀ payload ∈ payloads ((publish orjson result).flatten.take sent),
      payload = encodePositions orjson result.accepted := by
  intro payload listed
  obtain ⟨publication, taken, same⟩ := List.mem_filterMap.mp listed
  have published := List.mem_of_mem_take taken
  rw [flatten_publish] at published
  rcases List.mem_append.mp published with first | later
  · split at first
    case isTrue => cases first
    case isFalse =>
        obtain rfl := List.mem_singleton.mp first
        exact (Option.some.inj same).symm
  · obtain ⟨alert, _, rendered⟩ := List.mem_filterMap.mp later
    rw [frameFor, Option.ite_none_right_eq_some] at rendered
    obtain ⟨_, rendered⟩ := rendered
    obtain rfl := Option.some.inj rendered
    cases same

end GeoTrack
