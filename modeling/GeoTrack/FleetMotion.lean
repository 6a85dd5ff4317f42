import Mathlib.Data.Rat.Defs
import Mathlib.Data.Fintype.Fin
import Mathlib.Logic.Function.Basic

/-!
# The load generator's fleet

Devices drift around a point and report their positions.  Each owns two random
streams: one moves it, the other jitters the interval between its reports.  A
third stream belongs to the slice of the fleet that one worker drives.

The floats and random generators of the interpreter are parameters of which
nothing is assumed: what is proved about trajectories holds for whatever
functions these are.
-/

namespace GeoTrack

/-- The interpreter's floats. -/
class FloatMath (ν : Type) extends Add ν, Sub ν, Mul ν, Div ν, Mod ν where
  literal : ℚ → ν
  lt : ν → ν → Bool
  le : ν → ν → Bool
  sqrt : ν → ν
  sin : ν → ν
  cos : ν → ν
  radians : ν → ν
  degrees : ν → ν
  atan2 : ν → ν → ν
  hypot : ν → ν → ν
  round : ν → ℕ → ν
  pi : ν

namespace FloatMath

variable {ν : Type} [FloatMath ν]

/-- `max` keeps its first argument unless the second is larger. -/
def pyMax (first second : ν) : ν := if lt first second then second else first

def pyMin (first second : ν) : ν := if lt second first then second else first

end FloatMath

/-- `random.Random` with states in `σ`. -/
structure RandomSource (ν σ : Type) where
  seeded : String → σ
  random : σ → ν × σ
  uniform : ν → ν → σ → ν × σ
  gauss : ν → ν → σ → ν × σ

open FloatMath

variable {ν σ : Type} [FloatMath ν]

section Geometry

def mPerDegLat : ν := literal 111320

def mPerDegLon (lat : ν) : ν := pyMax (mPerDegLat * cos (radians lat)) (literal 1)

def wrapDeg (delta : ν) : ν := (delta + literal 180) % literal 360 - literal 180

/-- The circle devices are kept inside. -/
structure Area (ν : Type) where
  lat : ν
  lon : ν
  radiusM : ν

/-- Metres east and north of the centre. -/
def Area.offsets (area : Area ν) (lat lon : ν) : ν × ν :=
  let north := (lat - area.lat) * mPerDegLat
  let east := wrapDeg (lon - area.lon) * mPerDegLon ((lat + area.lat) / literal 2)
  (east, north)

def Area.position (area : Area ν) (east north : ν) : ν × ν :=
  let lat := pyMin (pyMax (area.lat + north / mPerDegLat) (literal (-899 / 10)))
    (literal (899 / 10))
  let lon := wrapDeg (area.lon + east / mPerDegLon ((lat + area.lat) / literal 2))
  (lat, lon)

end Geometry

section Movement

structure MotionProfile (ν : Type) where
  share : ν
  minSpeedMps : ν
  maxSpeedMps : ν
  headingSigmaDeg : ν
  speedSigmaMps : ν

def stationary : MotionProfile ν :=
  ⟨literal (1 / 5), literal 0, literal (2 / 5), literal 30, literal (2 / 25)⟩

def pedestrian : MotionProfile ν :=
  ⟨literal (7 / 20), literal (3 / 5), literal 2, literal 12, literal (1 / 5)⟩

def cyclist : MotionProfile ν :=
  ⟨literal (1 / 5), literal 3, literal (13 / 2), literal 8, literal (1 / 2)⟩

def car : MotionProfile ν :=
  ⟨literal (1 / 4), literal 12, literal 20, literal 5, literal (6 / 5)⟩

def profiles : List (MotionProfile ν) := [stationary, pedestrian, cyclist, car]

structure DeviceState (ν : Type) where
  deviceId : String
  lat : ν
  lon : ν
  headingDeg : ν
  speedMps : ν
  profile : MotionProfile ν

variable (source : RandomSource ν σ)

def deviceRng (seed : ℤ) (deviceId : String) : σ :=
  source.seeded (toString seed ++ ":" ++ deviceId)

def reportRng (seed : ℤ) (deviceId : String) : σ :=
  source.seeded (toString seed ++ ":interval:" ++ deviceId)

/-- The first profile whose cumulated share exceeds the draw. -/
def pickProfile (draw cumulative : ν) : List (MotionProfile ν) → MotionProfile ν
  | [] => car
  | profile :: rest =>
      let reached := cumulative + profile.share
      if lt draw reached then profile else pickProfile draw reached rest

def profileFor (rng : σ) : MotionProfile ν × σ :=
  let (draw, rest) := source.random rng
  (pickProfile draw (literal 0) profiles, rest)

/-- One device of `build_fleet`. -/
def placeDevice (area : Area ν) (seed : ℤ) (deviceId : String) : DeviceState ν :=
  let (profile, afterProfile) := profileFor source (deviceRng source seed deviceId)
  let (spot, afterSpot) := source.random afterProfile
  let distance := area.radiusM * sqrt spot
  let (bearing, afterBearing) := source.uniform (literal 0) (literal 2 * pi) afterSpot
  let (lat, lon) := area.position (distance * sin bearing) (distance * cos bearing)
  let (heading, afterHeading) := source.uniform (literal 0) (literal 360) afterBearing
  let (speed, _) := source.uniform profile.minSpeedMps profile.maxSpeedMps afterHeading
  ⟨deviceId, lat, lon, heading, speed, profile⟩

/-- The number with at least five digits. -/
def zeroPadded (number : ℕ) : String :=
  String.ofList (List.replicate (5 - (toString number).length) '0') ++ toString number

def deviceIdOf (devicePrefix : String) (index : ℕ) : String := devicePrefix ++ zeroPadded index

def buildFleet (count : ℕ) (devicePrefix : String) (area : Area ν) (seed : ℤ) :
    List (DeviceState ν) :=
  (List.range count).map fun index => placeDevice source area seed (deviceIdOf devicePrefix index)

/-- Bounce off the boundary circle: the new offsets and heading. -/
def reflect (east north radius limit headingDeg : ν) : ν × ν × ν :=
  let scale := pyMax (literal 2 * limit - radius) (literal 0) / radius
  let normalDeg := degrees (atan2 east north)
  (east * scale, north * scale, (literal 2 * normalDeg + literal 180 - headingDeg) % literal 360)

def advance (dt : ν) (area : Area ν) (state : DeviceState ν) (rng : σ) : DeviceState ν × σ :=
  let profile := state.profile
  let scale := sqrt dt
  let (turn, afterTurn) := source.gauss (literal 0) (profile.headingSigmaDeg * scale) rng
  let headingDeg := (state.headingDeg + turn) % literal 360
  let (change, afterChange) := source.gauss (literal 0) (profile.speedSigmaMps * scale) afterTurn
  let drifted := state.speedMps + change
  let speedMps := pyMin (pyMax drifted profile.minSpeedMps) profile.maxSpeedMps
  let heading := radians headingDeg
  let distance := speedMps * dt
  let (fromEast, fromNorth) := area.offsets state.lat state.lon
  let east := fromEast + distance * sin heading
  let north := fromNorth + distance * cos heading
  let radius := hypot east north
  let (keptEast, keptNorth, keptHeading) :=
    if lt area.radiusM radius then reflect east north radius area.radiusM headingDeg
    else (east, north, headingDeg)
  let (lat, lon) := area.position keptEast keptNorth
  ({ state with lat := lat, lon := lon, headingDeg := keptHeading, speedMps := speedMps },
    afterChange)

structure Report (ν : Type) where
  deviceId : String
  latitude : ν
  longitude : ν
  timestamp : ℤ

def DeviceState.reportPayload (state : DeviceState ν) (moment : ℤ) : Report ν :=
  ⟨state.deviceId, round state.lat 7, round state.lon 7, moment⟩

/-- A reporting interval jittered by a fifth either way. -/
def jitteredInterval (interval : ν) (rng : σ) : ν × σ :=
  let (factor, rest) := source.uniform (literal 1 - literal (1 / 5)) (literal 1 + literal (1 / 5))
    rng
  (interval * factor, rest)

end Movement

section Scheduling

/-- Deadlines of devices, earliest first and by index where they are equal, the
order in which the heap gives them up. -/
structure Schedule (ν : Type) (count : ℕ) where
  heap : List (ν × Fin count)

namespace Schedule

variable {count : ℕ}

/-- Tuples compare by their first components and then by their second. -/
def earlier (first second : ν × Fin count) : Bool :=
  lt first.1 second.1 || (!lt second.1 first.1 && decide (first.2 < second.2))

def insertEntry (entry : ν × Fin count) : List (ν × Fin count) → List (ν × Fin count)
  | [] => [entry]
  | head :: rest => if earlier head entry then head :: insertEntry entry rest else entry :: head :: rest

def push (schedule : Schedule ν count) (index : Fin count) (due : ν) : Schedule ν count :=
  ⟨insertEntry (due, index) schedule.heap⟩

/-- The devices that have come due, and the schedule without them. -/
def popDue (schedule : Schedule ν count) (now : ν) : List (Fin count) × Schedule ν count :=
  ((schedule.heap.takeWhile fun entry => le entry.1 now).map Prod.snd,
    ⟨schedule.heap.dropWhile fun entry => le entry.1 now⟩)

end Schedule

/-- A device with its two streams and the seconds it will have been moving when
its next report is due.  `reported` records what it has reported. -/
structure Driven (ν σ : Type) where
  state : DeviceState ν
  rng : σ
  clock : σ
  dt : ν
  reported : List (Report ν)

structure FleetSettings (ν : Type) where
  interval : ν
  area : Area ν
  seed : ℤ

namespace Driven

variable (source : RandomSource ν σ) (settings : FleetSettings ν)

def fresh (state : DeviceState ν) : Driven ν σ where
  state := state
  rng := deviceRng source settings.seed state.deviceId
  clock := reportRng source settings.seed state.deviceId
  dt := settings.interval
  reported := []

/-- Move over the interval the device was scheduled for, and report. -/
def step (moment : ℤ) (driven : Driven ν σ) : Driven ν σ :=
  let (state, rng) := advance source driven.dt settings.area driven.state driven.rng
  { driven with
    state := state
    rng := rng
    reported := driven.reported ++ [state.reportPayload moment] }

/-- Draw the interval to the next report. -/
def redraw (driven : Driven ν σ) : Driven ν σ :=
  let (delay, clock) := jitteredInterval source settings.interval driven.clock
  { driven with clock := clock, dt := delay }

end Driven

/-- A slice of the fleet with its own schedule. -/
structure Devices (ν σ : Type) (count : ℕ) where
  fleet : Fin count → Driven ν σ
  driving : Bool
  rng : σ
  schedule : Schedule ν count

namespace Devices

variable (source : RandomSource ν σ) (settings : FleetSettings ν) {count : ℕ}

def init (states : List (DeviceState ν)) (rng : σ) : Devices ν σ states.length where
  fleet := fun index => .fresh source settings (states.get index)
  driving := false
  rng := rng
  schedule := ⟨[]⟩

/-- One device gets its deadline somewhere in the first interval. -/
def arm (now spread : ν) (devices : Devices ν σ count) (index : Fin count) : Devices ν σ count :=
  let offset := spread * literal index.val / literal count
  let (draw, rng) := source.random devices.rng
  { devices with
    rng := rng
    schedule := devices.schedule.push index (now + offset + draw * settings.interval) }

def start (now spread : ν) (devices : Devices ν σ count) : Devices ν σ count :=
  (List.finRange count).foldl (arm source settings now spread) { devices with schedule := ⟨[]⟩ }

/-- `driving`: claim the fleet and arm it, unless it has an owner. -/
def claim (now spread : ν) (devices : Devices ν σ count) : Option (Devices ν σ count) :=
  if devices.driving then none
  else some (start source settings now spread { devices with driving := true })

def release (devices : Devices ν σ count) : Devices ν σ count := { devices with driving := false }

def step (moment : ℤ) (devices : Devices ν σ count) (index : Fin count) :
    Report ν × Devices ν σ count :=
  let moved := (devices.fleet index).step source settings moment
  (moved.state.reportPayload moment,
    { devices with fleet := Function.update devices.fleet index moved })

/-- `[devices.step(index, moment) for index in due]`. -/
def stepAll (moment : ℤ) : List (Fin count) → Devices ν σ count →
    List (Report ν) × Devices ν σ count
  | [], devices => ([], devices)
  | index :: rest, devices =>
      let (report, moved) := step source settings moment devices index
      let (reports, after) := stepAll moment rest moved
      (report :: reports, after)

def reschedule (now : ν) (devices : Devices ν σ count) (index : Fin count) : Devices ν σ count :=
  let drawn := (devices.fleet index).redraw source settings
  { devices with
    fleet := Function.update devices.fleet index drawn
    schedule := devices.schedule.push index (now + drawn.dt) }

/-- Hold a device back; the spread comes from the stream of the slice. -/
def defer (until_ : ν) (devices : Devices ν σ count) (index : Fin count) : Devices ν σ count :=
  let (delay, rng) := jitteredInterval source settings.interval devices.rng
  { devices with rng := rng, schedule := devices.schedule.push index (until_ + delay) }

def popDue (now : ν) (devices : Devices ν σ count) : List (Fin count) × Devices ν σ count :=
  let (due, schedule) := devices.schedule.popDue now
  (due, { devices with schedule := schedule })

end Devices

end Scheduling

end GeoTrack
