import GeoTrack.Tables

/-!
# Zone storage

Every statement is filtered by the owner as well as by the primary key, and a
write that carries an expected version only takes effect on that version.
-/

namespace GeoTrack

structure GeozoneCreate where
  name : String
  latitude : ℚ
  longitude : ℚ
  radiusM : ℚ
  color : Option String
  alertOnEnter : Bool
  alertOnExit : Bool
  dwellAlertIntervalS : Option ℤ
deriving DecidableEq

/-- A partial update: `none` for a field that is absent from the request.  The
dwell interval may be present and null, which switches dwell alerts off. -/
structure GeozonePatch where
  name : Option String
  color : Option String
  latitude : Option ℚ
  longitude : Option ℚ
  radiusM : Option ℚ
  alertOnEnter : Option Bool
  alertOnExit : Option Bool
  dwellAlertIntervalS : Option (Option ℤ)

inductive ZoneError where
  | unknownOwner
  | quotaExceeded (quota : ℕ)
  | duplicateId
  | versionMismatch (currentVersion : ℤ)
deriving DecidableEq

def zonePalette : List String :=
  ["#3fb1ff", "#ff4d4f", "#38d39f", "#ffb020", "#b980ff", "#ff7ab6", "#4ddbd0", "#f2f26b"]

def defaultZoneColor (index : ℕ) : String :=
  zonePalette.getD (index % zonePalette.length) ""

namespace Geozones

def countForUser (db : Db) (userId : Uuid) : ℕ :=
  (db.geozones.values.filter fun zone => zone.userId = userId).length

def getForUser (db : Db) (zoneId userId : Uuid) : Option ZoneRow :=
  (db.geozones.get? zoneId).filter fun zone => zone.userId = userId

/-- The expected version is null or the one in the row. -/
def versionGuard (expected : Option ℤ) (zone : ZoneRow) : Bool :=
  match expected with
  | none => true
  | some version => zone.version = version

/-- The row a guarded write would hit. -/
def writable (db : Db) (zoneId userId : Uuid) (expected : Option ℤ) : Option ZoneRow :=
  (getForUser db zoneId userId).filter (versionGuard expected)

/-- Insert a zone, refusing once the account is at its quota. -/
def create (now : ℤ) (db : Db) (newId userId : Uuid) (payload : GeozoneCreate) (quota : ℕ) :
    Except ZoneError (Db × ZoneRow) :=
  if userId ∉ db.users then
    .error .unknownOwner
  else if quota ≤ countForUser db userId then
    .error (.quotaExceeded quota)
  else if newId ∈ db.geozones then
    .error .duplicateId
  else
    let zone : ZoneRow :=
      { userId := userId
        name := payload.name
        color := payload.color.getD (defaultZoneColor (countForUser db userId))
        center := ⟨payload.latitude, payload.longitude⟩
        radiusM := payload.radiusM
        alertOnEnter := payload.alertOnEnter
        alertOnExit := payload.alertOnExit
        dwellAlertIntervalS := payload.dwellAlertIntervalS
        version := 1
        createdAt := now
        updatedAt := now }
    .ok ({ db with geozones := db.geozones.set newId zone }, zone)

/-- Raise if a conditional write missed because of the version, stay quiet
otherwise. -/
def explainMissingRow (db : Db) (zoneId userId : Uuid) : Except ZoneError Unit :=
  match getForUser db zoneId userId with
  | some zone => .error (.versionMismatch zone.version)
  | none => .ok ()

/-- An `UPDATE` of one zone through the owner and version filters. -/
def updateWhere (db : Db) (zoneId userId : Uuid) (expected : Option ℤ)
    (assign : ZoneRow → ZoneRow) : Except ZoneError (Db × Option ZoneRow) :=
  match writable db zoneId userId expected with
  | some zone =>
      .ok ({ db with geozones := db.geozones.set zoneId (assign zone) }, some (assign zone))
  | none => (explainMissingRow db zoneId userId).map fun _ => (db, none)

def assignAll (now : ℤ) (payload : GeozoneCreate) (zone : ZoneRow) : ZoneRow :=
  { zone with
    name := payload.name
    color := payload.color.getD zone.color
    center := ⟨payload.latitude, payload.longitude⟩
    radiusM := payload.radiusM
    alertOnEnter := payload.alertOnEnter
    alertOnExit := payload.alertOnExit
    dwellAlertIntervalS := payload.dwellAlertIntervalS
    version := zone.version + 1
    updatedAt := now }

def replace (now : ℤ) (db : Db) (zoneId userId : Uuid) (payload : GeozoneCreate)
    (expected : Option ℤ) : Except ZoneError (Db × Option ZoneRow) :=
  updateWhere db zoneId userId expected (assignAll now payload)

/-- No column would be assigned. -/
def patchIsEmpty (changes : GeozonePatch) : Bool :=
  changes.name.isNone && changes.color.isNone && changes.radiusM.isNone &&
    changes.alertOnEnter.isNone && changes.alertOnExit.isNone &&
    changes.dwellAlertIntervalS.isNone && changes.latitude.isNone && changes.longitude.isNone

def assignChanges (now : ℤ) (changes : GeozonePatch) (zone : ZoneRow) : ZoneRow :=
  { zone with
    name := changes.name.getD zone.name
    color := changes.color.getD zone.color
    -- an untouched coordinate is read back from the row being updated
    center := ⟨changes.latitude.getD zone.center.latitude,
      changes.longitude.getD zone.center.longitude⟩
    radiusM := changes.radiusM.getD zone.radiusM
    alertOnEnter := changes.alertOnEnter.getD zone.alertOnEnter
    alertOnExit := changes.alertOnExit.getD zone.alertOnExit
    dwellAlertIntervalS := changes.dwellAlertIntervalS.getD zone.dwellAlertIntervalS
    version := zone.version + 1
    updatedAt := now }

def patch (now : ℤ) (db : Db) (zoneId userId : Uuid) (changes : GeozonePatch)
    (expected : Option ℤ) : Except ZoneError (Db × Option ZoneRow) :=
  if patchIsEmpty changes then .ok (db, getForUser db zoneId userId)
  else updateWhere db zoneId userId expected (assignChanges now changes)

/-- The row goes, its presence rows with it, and its alerts keep only the
name. -/
def dropZone (db : Db) (zoneId : Uuid) : Db :=
  { db with
    geozones := db.geozones.erase zoneId
    zonePresence := db.zonePresence.filter fun key _ => key.1 ≠ zoneId
    alerts := db.alerts.map fun alert =>
      if alert.zoneId = some zoneId then { alert with zoneId := none } else alert }

def delete (db : Db) (zoneId userId : Uuid) (expected : Option ℤ) :
    Except ZoneError (Db × Bool) :=
  match writable db zoneId userId expected with
  | some _ => .ok (dropZone db zoneId, true)
  | none => (explainMissingRow db zoneId userId).map fun _ => (db, false)

end Geozones

end GeoTrack
