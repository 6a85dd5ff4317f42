import GeoTrack.Clock
import GeoTrack.Tables
import Mathlib.Data.List.Sort

/-!
# The batch statement

The common table expressions of the batch statement, one definition each.
All of them read the same snapshot; the writes they produce are collected and
take effect together.

After the definitions, the statement is brought into the form the invariants
use: what happens to a pair of zone and device depends only on the report
accepted for that device, on the zone's row and on the pair's presence row
(`transitionOf`).
-/

namespace GeoTrack

/-- Errors of the server that a retry cannot resolve. -/
inductive SqlError where
  | cardinalityViolation
deriving DecidableEq

namespace LocationRecord

def position (record : LocationRecord) : Point := ⟨record.lat, record.lon⟩

/-- The row that the statement returns for an accepted report, with
`int(row.occurred_at.timestamp() * 1000)`. -/
def acceptedItem (record : LocationRecord) : PositionItem :=
  ⟨record.deviceId, record.lat, record.lon, msThroughFloat record.reportedMs⟩

def positionRow (now : ℤ) (record : LocationRecord) : PositionRow where
  position := record.position
  reportedAt := record.reportedMs
  receivedAt := record.receivedMs
  updatedAt := now

def historyEntry (record : LocationRecord) : (DeviceId × ℤ) × HistoryRow :=
  ((record.deviceId, record.reportedMs), ⟨record.position, record.receivedMs⟩)

end LocationRecord

/-- `INSERT_HISTORY_SQL`: the primary key makes a replayed report a no-op. -/
def insertHistory (db : Db) (records : List LocationRecord) : Db :=
  { db with
    locationHistory := db.locationHistory.addAllNew (records.map LocationRecord.historyEntry) }

/-- The report is newer than the stored one, or the device is new. -/
def supersedes (positions : Dict DeviceId PositionRow) (record : LocationRecord) : Bool :=
  match positions.get? record.deviceId with
  | none => true
  | some row => row.reportedAt < record.reportedMs

/-- The conditional upsert of `device_positions`.  A second row for a device
that this command has already written is refused by the server. -/
def accepted (positions : Dict DeviceId PositionRow) (touched : List DeviceId) :
    List LocationRecord → Except SqlError (List LocationRecord)
  | [] => .ok []
  | record :: rest =>
      if record.deviceId ∈ touched then
        .error .cardinalityViolation
      else if supersedes positions record then
        (accepted positions (record.deviceId :: touched) rest).map (record :: ·)
      else
        accepted positions touched rest

/-- A report inside a zone. -/
structure Hit where
  record : LocationRecord
  zoneId : Uuid
  zone : ZoneRow
deriving DecidableEq

inductive TransitionState where
  | enter
  | stay
  | exit
deriving DecidableEq

/-- Something the batch has to say about a pair of zone and device. -/
structure Transition where
  zoneId : Uuid
  zone : ZoneRow
  record : LocationRecord
  lastAlertAt : Option ℤ
  state : TransitionState
deriving DecidableEq

namespace Transition

def key (transition : Transition) : Uuid × DeviceId :=
  (transition.zoneId, transition.record.deviceId)

/-- The dwell clock has run out. -/
def dwellDue (transition : Transition) : Bool :=
  match transition.zone.dwellAlertIntervalS, transition.lastAlertAt with
  | some interval, some last => last + interval * 1000 ≤ transition.record.reportedMs
  | _, _ => false

/-- Which transitions the zone's owner asked to hear about. -/
def kind (transition : Transition) : Option AlertKind :=
  match transition.state with
  | .enter => if transition.zone.alertOnEnter then some .enter else none
  | .exit => if transition.zone.alertOnExit then some .exit else none
  | .stay => if transition.dwellDue then some .dwell else none

/-- The start of the current dwell interval: entering starts it and a dwell
alert restarts it. -/
def dwellClock (transition : Transition) : ℤ :=
  if transition.kind = some .dwell then transition.record.reportedMs
  else transition.lastAlertAt.getD transition.record.reportedMs

def alertBody (now : ℤ) (transition : Transition) (kind : AlertKind) : AlertBody where
  userId := transition.zone.userId
  zoneId := some transition.zoneId
  zoneName := transition.zone.name
  deviceId := transition.record.deviceId
  kind := kind
  position := transition.record.position
  occurredAt := transition.record.reportedMs
  createdAt := now

end Transition

/-- What the statement writes, apart from the numbers of its alerts. -/
structure BatchWrites where
  positions : List (DeviceId × PositionRow)
  presenceDeletes : List (Uuid × DeviceId)
  presenceUpserts : List ((Uuid × DeviceId) × PresenceRow)
  alerts : List AlertBody

/-- What the statement returns. -/
structure BatchRows where
  accepted : List PositionItem
  alerts : List AlertRow
deriving DecidableEq

section Statement

variable (pg : Postgis)

/-- The two spatial tests of the join. -/
def zoneHit (zone : ZoneRow) (record : LocationRecord) : Bool :=
  pg.searchAreaMeets zone.center zone.radiusM record.position &&
    pg.dWithin zone.center zone.radiusM record.position

def hits (geozones : Dict Uuid ZoneRow) (reports : List LocationRecord) : List Hit :=
  reports.flatMap fun record =>
    (geozones.entries.filter fun entry => zoneHit pg entry.2 record).map fun entry =>
      ⟨record, entry.1, entry.2⟩

/-- Inside and new, or inside and known. -/
def insideTransition (presence : Dict (Uuid × DeviceId) PresenceRow) (hit : Hit) : Transition :=
  let known := presence.get? (hit.zoneId, hit.record.deviceId)
  { zoneId := hit.zoneId
    zone := hit.zone
    record := hit.record
    lastAlertAt := known.map PresenceRow.lastAlertAt
    state := if known.isNone then .enter else .stay }

/-- Known but no longer inside: a device that left produces no hit, so exits
are found from the presence table. -/
def exitTransition (db : Db) (found : List Hit) (record : LocationRecord)
    (entry : (Uuid × DeviceId) × PresenceRow) : Option Transition :=
  if entry.1.2 = record.deviceId ∧
      ¬ found.any (fun hit => hit.zoneId = entry.1.1 ∧ hit.record.deviceId = entry.1.2) then
    (db.geozones.get? entry.1.1).map fun zone =>
      { zoneId := entry.1.1
        zone := zone
        record := record
        lastAlertAt := some entry.2.lastAlertAt
        state := .exit }
  else
    none

def exitTransitions (db : Db) (found : List Hit) (reports : List LocationRecord) :
    List Transition :=
  reports.flatMap fun record => db.zonePresence.entries.filterMap (exitTransition db found record)

def transitions (db : Db) (reports : List LocationRecord) : List Transition :=
  let found := hits pg db.geozones reports
  found.map (insideTransition db.zonePresence) ++ exitTransitions db found reports

/-- The order in which alerts are numbered. -/
def alertOrder (first second : AlertBody) : Prop :=
  first.occurredAt < second.occurredAt ∨
    first.occurredAt = second.occurredAt ∧
      (first.zoneId.getD 0 < second.zoneId.getD 0 ∨
        first.zoneId.getD 0 = second.zoneId.getD 0 ∧
          pg.deviceOrder first.deviceId second.deviceId = true)

instance : DecidableRel (alertOrder pg) := fun _ _ =>
  inferInstanceAs (Decidable (_ ∨ _))

/-- The presence row an upsert leaves behind; the entry time survives. -/
def presenceRow (db : Db) (transition : Transition) : PresenceRow where
  enteredAt :=
    ((db.zonePresence.get? transition.key).map PresenceRow.enteredAt).getD
      transition.record.reportedMs
  lastSeenAt := transition.record.reportedMs
  lastAlertAt := transition.dwellClock

def newAlerts (now : ℤ) (events : List Transition) : List AlertBody :=
  (events.filterMap fun transition =>
    transition.kind.map (transition.alertBody now)).insertionSort (alertOrder pg)

/-- The writes that follow from the accepted reports. -/
def batchWrites (now : ℤ) (db : Db) (reports : List LocationRecord) : BatchWrites :=
  let events := transitions pg db reports
  { positions := reports.map fun record => (record.deviceId, record.positionRow now)
    presenceDeletes :=
      (events.filter fun transition => transition.state = .exit).map Transition.key
    presenceUpserts :=
      (events.filter fun transition => transition.state ≠ .exit).map fun transition =>
        (transition.key, presenceRow db transition)
    alerts := newAlerts pg now events }

end Statement

/-- Give consecutive numbers to alerts. -/
def numberAlerts (first : ℕ) (alerts : List AlertBody) : List AlertRow :=
  (alerts.zipIdx first).map fun entry => { toAlertBody := entry.1, id := entry.2 }

namespace Db

/-- Make the writes of a statement visible, with its alerts numbered. -/
def commitWrites (db : Db) (writes : BatchWrites) (numbered : List AlertRow) : Db :=
  { db with
    devicePositions := db.devicePositions.setAll writes.positions
    zonePresence :=
      (db.zonePresence.eraseAll writes.presenceDeletes).setAll writes.presenceUpserts
    alerts := db.alerts ++ numbered }

/-- Draw identity values. -/
def drawAlertIds (db : Db) (count : ℕ) : Db :=
  { db with nextAlertId := db.nextAlertId + count }

end Db

/-- `APPLY_BATCH_SQL`, with `now()` as a parameter. -/
def applyBatch (pg : Postgis) (now : ℤ) (db : Db) (input : List LocationRecord) :
    Except SqlError (Db × BatchRows) :=
  (accepted db.devicePositions [] input).map fun reports =>
    let writes := batchWrites pg now db reports
    let numbered := numberAlerts db.nextAlertId writes.alerts
    ((db.commitWrites writes numbered).drawAlertIds writes.alerts.length,
      { accepted := reports.map LocationRecord.acceptedItem
        alerts := numbered })

end GeoTrack
