import GeoTrack.StorableReports

/-!
# The database

The tables of the schema, keyed by their primary keys.  Timestamps are whole
milliseconds since the epoch, the resolution at which reports carry them.

The geometry and the collation belong to the server and are parameters of the
model.  All that is used of them is that the stored search area of a zone
meets every point within the zone's radius.
-/

namespace GeoTrack

abbrev Uuid := ℕ

structure Point where
  latitude : ℚ
  longitude : ℚ
deriving DecidableEq

/-- What the database server decides: the geodesic distance test, the
index-assisted test on the stored search area, and the order of device ids. -/
structure Postgis where
  dWithin : Point → ℚ → Point → Bool
  searchAreaMeets : Point → ℚ → Point → Bool
  searchAreaMeets_of_dWithin : ∀ center radius point,
    dWithin center radius point = true → searchAreaMeets center radius point = true
  deviceOrder : DeviceId → DeviceId → Bool

/-- Distances on the plane tangent at the equator, in units of one degree of
arc: good enough to evaluate the model on points that coincide or are far
apart. -/
def Postgis.tangentPlane : Postgis where
  dWithin center radius point :=
    ((center.latitude - point.latitude) ^ 2 + (center.longitude - point.longitude) ^ 2) *
      111195 ^ 2 ≤ radius ^ 2
  searchAreaMeets center radius point :=
    ((center.latitude - point.latitude) ^ 2 + (center.longitude - point.longitude) ^ 2) *
      111195 ^ 2 ≤ radius ^ 2
  searchAreaMeets_of_dWithin _ _ _ within := within
  deviceOrder first second := first ≤ second

structure ZoneRow where
  userId : Uuid
  name : String
  color : String
  center : Point
  radiusM : ℚ
  alertOnEnter : Bool
  alertOnExit : Bool
  dwellAlertIntervalS : Option ℤ
  version : ℤ
  createdAt : ℤ
  updatedAt : ℤ
deriving DecidableEq

structure PositionRow where
  position : Point
  reportedAt : ℤ
  receivedAt : ℤ
  updatedAt : ℤ
deriving DecidableEq

/-- The latest position of a device as it is listed. -/
structure DevicePositionOut where
  deviceId : DeviceId
  latitude : ℚ
  longitude : ℚ
  reportedAt : ℤ
  receivedAt : ℤ
deriving DecidableEq

structure PresenceRow where
  enteredAt : ℤ
  lastSeenAt : ℤ
  lastAlertAt : ℤ
deriving DecidableEq

structure HistoryRow where
  position : Point
  receivedAt : ℤ
deriving DecidableEq

inductive AlertKind where
  | enter
  | exit
  | dwell
deriving DecidableEq

/-- An alert before the identity column has given it a number. -/
structure AlertBody where
  userId : Uuid
  zoneId : Option Uuid
  zoneName : String
  deviceId : DeviceId
  kind : AlertKind
  position : Point
  occurredAt : ℤ
  createdAt : ℤ
deriving DecidableEq

structure AlertRow extends AlertBody where
  id : ℕ
deriving DecidableEq

structure Db where
  users : KeySet Uuid
  geozones : Dict Uuid ZoneRow
  devicePositions : Dict DeviceId PositionRow
  zonePresence : Dict (Uuid × DeviceId) PresenceRow
  locationHistory : Dict (DeviceId × ℤ) HistoryRow
  alerts : List AlertRow
  nextAlertId : ℕ
deriving DecidableEq

namespace Db

/-- A freshly migrated database with its accounts. -/
def fresh (users : KeySet Uuid) : Db where
  users := users
  geozones := ∅
  devicePositions := ∅
  zonePresence := ∅
  locationHistory := ∅
  alerts := []
  nextAlertId := 1

/-- Centre and radius of a zone, the part of it that decides who is inside. -/
def geometry (db : Db) (zoneId : Uuid) : Option (Point × ℚ) :=
  (db.geozones.get? zoneId).map fun zone => (zone.center, zone.radiusM)

/-- The alerts of one zone about one device, oldest first. -/
def alertsOf (db : Db) (zoneId : Uuid) (deviceId : DeviceId) : List AlertRow :=
  db.alerts.filter fun alert => alert.zoneId = some zoneId ∧ alert.deviceId = deviceId

end Db

end GeoTrack
