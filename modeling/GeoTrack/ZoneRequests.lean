import GeoTrack.IfMatch
import GeoTrack.LabelledRuns

/-!
# Concurrent requests on zones

A request runs one guarded statement.  When it hits the zone's row, the row
stays locked until the request commits; when it misses, a second look at the
committed table decides between the two error answers.  Requests of all users
interleave between these points.

Under read committed a statement picks its row from the committed table.  If
the row it picked is locked by another request it waits, and evaluates its
filters again once the lock is gone; a row its filters do not pick is never
waited for.
-/

namespace GeoTrack

open LabelledRuns

abbrev RequestId := ℕ

/-- The body of a partial update: every field may be absent or null. -/
structure GeozonePatchBody where
  name : Option (Option String)
  color : Option (Option String)
  latitude : Option (Option ℚ)
  longitude : Option (Option ℚ)
  radiusM : Option (Option ℚ)
  alertOnEnter : Option (Option Bool)
  alertOnExit : Option (Option Bool)
  dwellAlertIntervalS : Option (Option ℤ)
deriving DecidableEq

namespace GeozonePatchBody

/-- The field is present and null. -/
def isNull {α : Type} : Option (Option α) → Bool
  | some none => true
  | _ => false

/-- The nulls among the fields that cannot be null, which is all of them but
the dwell interval. -/
def blanked (body : GeozonePatchBody) : List String :=
  ([("name", isNull body.name), ("color", isNull body.color),
    ("latitude", isNull body.latitude), ("longitude", isNull body.longitude),
    ("radius_m", isNull body.radiusM), ("alert_on_enter", isNull body.alertOnEnter),
    ("alert_on_exit", isNull body.alertOnExit)].filter Prod.snd).map Prod.fst

/-- The changes a body without blanked fields asks for. -/
def changes (body : GeozonePatchBody) : GeozonePatch where
  name := body.name.join
  color := body.color.join
  latitude := body.latitude.join
  longitude := body.longitude.join
  radiusM := body.radiusM.join
  alertOnEnter := body.alertOnEnter.join
  alertOnExit := body.alertOnExit.join
  dwellAlertIntervalS := body.dwellAlertIntervalS

end GeozonePatchBody

inductive ZoneCall where
  | replace (payload : GeozoneCreate)
  | patch (body : GeozonePatchBody)
  | delete
deriving DecidableEq

namespace ZoneCall

/-- The call runs a writing statement: everything but a partial update with
nothing to write. -/
def writes : ZoneCall → Bool
  | .patch body => !Geozones.patchIsEmpty body.changes
  | _ => true

/-- The fields of a partial update that are null and cannot be. -/
def blanked : ZoneCall → List String
  | .patch body => body.blanked
  | _ => []

/-- The row after the call's statement, or `none` when the row goes. -/
def rewrite (now : ℤ) (zone : ZoneRow) : ZoneCall → Option ZoneRow
  | .replace payload => some (Geozones.assignAll now payload zone)
  | .patch body => some (Geozones.assignChanges now body.changes zone)
  | .delete => none

end ZoneCall

/-- A request as it arrives, with the time its transaction will read. -/
structure ZoneRequest where
  userId : Uuid
  zoneId : Uuid
  ifMatch : Option String
  call : ZoneCall
  now : ℤ
deriving DecidableEq

inductive Answer where
  | zone (zone : ZoneRow) (etag : String)
  | noContent
  | problem (error : ProblemError)
  | databaseError
deriving DecidableEq

namespace Answer

/-- The request was carried out. -/
def Succeeds : Answer → Prop
  | .zone _ _ => True
  | .noContent => True
  | _ => False

def status : Answer → ℕ
  | .zone _ _ => 200
  | .noContent => 204
  | .problem error => error.status
  | .databaseError => 500

end Answer

def versionTag (version : ℤ) : String := "\"" ++ toString version ++ "\""

namespace ProblemError

def notFound (zoneId : Uuid) : ProblemError where
  status := 404
  title := "Not found"
  code := "not_found"
  detail := "No zone " ++ toString zoneId ++ " belongs to this account."
  headers := []
  extra := []

def stale (currentVersion : ℤ) : ProblemError where
  status := 412
  title := "Precondition failed"
  code := "precondition_failed"
  detail := "The zone has changed since the version you sent; re-read it and retry."
  headers := [("ETag", versionTag currentVersion)]
  extra := [("current_version", currentVersion)]

def blankedFields (fields : List String) : ProblemError where
  status := 422
  title := "Request validation failed"
  code := "validation_error"
  detail := "These fields cannot be set to null: " ++ ", ".intercalate fields ++ "."
  headers := []
  extra := []

end ProblemError

/-- The zone with its version as the entity tag. -/
def Answer.tag (zone : ZoneRow) : Answer := .zone zone (versionTag zone.version)

/-- The answer to a committed write, `none` standing for a deleted row. -/
def Answer.ofRow : Option ZoneRow → Answer
  | some row => .tag row
  | none => .noContent

/-- How far a request has come. -/
inductive RequestStage where
  /-- The header and the body are read, the statement has not run. -/
  | ready (expected : Option ℤ)
  /-- The statement waits for the lock on the row it picked. -/
  | waiting (expected : Option ℤ)
  /-- The statement picked this row and changed it; nothing is committed. -/
  | written (zone : ZoneRow)
  /-- The statement changed no row and the second look is due. -/
  | missed
  | answered (answer : Answer)
deriving DecidableEq

/-- The value can be bound as the expected version. -/
def bindable : Option ℤ → Bool
  | none => true
  | some version => InVersionRange version

namespace ZoneRequest

/-- What the handler does before it touches the database. -/
def receive (request : ZoneRequest) : RequestStage :=
  match parseIfMatch request.ifMatch with
  | .error problem => .answered (.problem problem)
  | .ok expected =>
      if request.call.blanked = [] then .ready expected
      else .answered (.problem (.blankedFields request.call.blanked))

/-- The one read of a partial update with nothing to write. -/
def readAnswer (db : Db) (request : ZoneRequest) (expected : Option ℤ) : Answer :=
  match Geozones.getForUser db request.zoneId request.userId with
  | none => .problem (.notFound request.zoneId)
  | some zone =>
      match expected with
      | none => .tag zone
      | some version =>
          if version ≠ zone.version then .problem (.stale zone.version) else .tag zone

/-- Run the request's statement on the committed tables. -/
def statement (db : Db) (request : ZoneRequest) (expected : Option ℤ) : RequestStage :=
  if ¬ request.call.writes then
    .answered (request.readAnswer db expected)
  else if ¬ bindable expected then
    .answered .databaseError
  else
    match Geozones.writable db request.zoneId request.userId expected with
    | some zone => .written zone
    | none => .missed

/-- The answer after the second look. -/
def explain (db : Db) (request : ZoneRequest) : Answer :=
  match Geozones.explainMissingRow db request.zoneId request.userId with
  | .error (.versionMismatch currentVersion) => .problem (.stale currentVersion)
  | _ => .problem (.notFound request.zoneId)

end ZoneRequest

/-- Make a changed row visible; a deleted one takes its presence rows along. -/
def commitRow (db : Db) (zoneId : Uuid) : Option ZoneRow → Db
  | some zone => { db with geozones := db.geozones.set zoneId zone }
  | none => Geozones.dropZone db zoneId

/-- The committed tables and the requests of all users. -/
structure ZoneServer where
  db : Db
  requests : Dict RequestId (ZoneRequest × RequestStage)

inductive ZoneEvent where
  | arrive (id : RequestId) (request : ZoneRequest)
  | wait (id : RequestId)
  | execute (id : RequestId)
  | commit (id : RequestId)
  | look (id : RequestId)
  | create (now : ℤ) (newId userId : Uuid) (payload : GeozoneCreate) (quota : ℕ)

/-- The request an event belongs to. -/
def ZoneEvent.requestId : ZoneEvent → Option RequestId
  | .arrive id _ | .wait id | .execute id | .commit id | .look id => some id
  | .create .. => none

namespace ZoneServer

def idle (db : Db) : ZoneServer := ⟨db, ∅⟩

/-- Some request has changed the row and not committed yet. -/
def locked (server : ZoneServer) (zoneId : Uuid) : Bool :=
  server.requests.entries.any fun entry =>
    match entry.2.2 with
    | .written _ => entry.2.1.zoneId = zoneId
    | _ => false

/-- The statement would pick a row that another request holds. -/
def blocked (server : ZoneServer) (request : ZoneRequest) (expected : Option ℤ) : Bool :=
  request.call.writes && bindable expected &&
    (Geozones.writable server.db request.zoneId request.userId expected).isSome &&
      server.locked request.zoneId

def setStage (server : ZoneServer) (id : RequestId) (request : ZoneRequest)
    (stage : RequestStage) : ZoneServer :=
  { server with requests := server.requests.set id (request, stage) }

def step (server : ZoneServer) : ZoneEvent → Option ZoneServer
  | .arrive id request =>
      if id ∈ server.requests then none
      else some (server.setStage id request request.receive)
  | .wait id =>
      match server.requests.get? id with
      | some (request, .ready expected) =>
          if server.blocked request expected then
            some (server.setStage id request (.waiting expected))
          else
            none
      | _ => none
  | .execute id =>
      match server.requests.get? id with
      | some (request, .ready expected) =>
          if server.blocked request expected then none
          else some (server.setStage id request (request.statement server.db expected))
      | some (request, .waiting expected) =>
          if server.locked request.zoneId then none
          else some (server.setStage id request (request.statement server.db expected))
      | _ => none
  | .commit id =>
      match server.requests.get? id with
      | some (request, .written zone) =>
          let row := request.call.rewrite request.now zone
          some ({ server with db := commitRow server.db request.zoneId row }.setStage id request
            (.answered (.ofRow row)))
      | _ => none
  | .look id =>
      match server.requests.get? id with
      | some (request, .missed) =>
          some (server.setStage id request (.answered (request.explain server.db)))
      | _ => none
  | .create now newId userId payload quota =>
      match Geozones.create now server.db newId userId payload quota with
      | .ok (db, _) => some { server with db := db }
      | .error _ => none

/-- Everything a step can do. -/
theorem step_cases {server after : ZoneServer} {event : ZoneEvent}
    (stepTo : server.step event = some after) :
    (∃ id request, event = .arrive id request ∧ server.requests.get? id = none ∧
      after = server.setStage id request request.receive) ∨
    (∃ id request expected, event = .wait id ∧
      server.requests.get? id = some (request, .ready expected) ∧
      server.blocked request expected = true ∧
      after = server.setStage id request (.waiting expected)) ∨
    (∃ id request expected, event = .execute id ∧
      (server.requests.get? id = some (request, .ready expected) ∧
          server.blocked request expected = false ∨
        server.requests.get? id = some (request, .waiting expected) ∧
          server.locked request.zoneId = false) ∧
      after = server.setStage id request (request.statement server.db expected)) ∨
    (∃ id request zone, event = .commit id ∧
      server.requests.get? id = some (request, .written zone) ∧
      after = (ZoneServer.mk (commitRow server.db request.zoneId
          (request.call.rewrite request.now zone)) server.requests).setStage id request
        (.answered (.ofRow (request.call.rewrite request.now zone)))) ∨
    (∃ id request, event = .look id ∧ server.requests.get? id = some (request, .missed) ∧
      after = server.setStage id request (.answered (request.explain server.db))) ∨
    (∃ now newId userId payload quota db zone,
      event = .create now newId userId payload quota ∧
      Geozones.create now server.db newId userId payload quota = .ok (db, zone) ∧
      after = { server with db := db }) := by
  cases event with
  | arrive id request =>
      simp only [step] at stepTo
      split at stepTo
      case isTrue => cases stepTo
      case isFalse fresh =>
          exact Or.inl ⟨id, request, rfl, Dict.not_mem_iff.mp fresh,
            (Option.some.inj stepTo).symm⟩
  | wait id =>
      simp only [step] at stepTo
      split at stepTo
      case h_1 request expected found =>
          split at stepTo
          case isTrue busy =>
              exact Or.inr (Or.inl ⟨id, request, expected, rfl, found, busy,
                (Option.some.inj stepTo).symm⟩)
          case isFalse => cases stepTo
      case h_2 => cases stepTo
  | execute id =>
      simp only [step] at stepTo
      split at stepTo
      case h_1 request expected found =>
          split at stepTo
          case isTrue => cases stepTo
          case isFalse free =>
              exact Or.inr (Or.inr (Or.inl ⟨id, request, expected, rfl,
                Or.inl ⟨found, by simpa using free⟩, (Option.some.inj stepTo).symm⟩))
      case h_2 request expected found =>
          split at stepTo
          case isTrue => cases stepTo
          case isFalse free =>
              exact Or.inr (Or.inr (Or.inl ⟨id, request, expected, rfl,
                Or.inr ⟨found, by simpa using free⟩, (Option.some.inj stepTo).symm⟩))
      case h_3 => cases stepTo
  | commit id =>
      simp only [step] at stepTo
      split at stepTo
      case h_1 request zone found =>
          exact Or.inr (Or.inr (Or.inr (Or.inl ⟨id, request, zone, rfl, found,
            (Option.some.inj stepTo).symm⟩)))
      case h_2 => cases stepTo
  | look id =>
      simp only [step] at stepTo
      split at stepTo
      case h_1 request found =>
          exact Or.inr (Or.inr (Or.inr (Or.inr (Or.inl ⟨id, request, rfl, found,
            (Option.some.inj stepTo).symm⟩))))
      case h_2 => cases stepTo
  | create now newId userId payload quota =>
      simp only [step] at stepTo
      split at stepTo
      case h_1 db zone made =>
          exact Or.inr (Or.inr (Or.inr (Or.inr (Or.inr ⟨now, newId, userId, payload, quota, db,
            zone, rfl, made, (Option.some.inj stepTo).symm⟩))))
      case h_2 => cases stepTo

@[simp]
theorem db_setStage (server : ZoneServer) (id : RequestId) (request : ZoneRequest)
    (stage : RequestStage) : (server.setStage id request stage).db = server.db :=
  rfl

/-- An unlocked row is held by nobody. -/
theorem not_written_of_unlocked {server : ZoneServer} {zoneId : Uuid}
    (free : server.locked zoneId = false) {id : RequestId} {request : ZoneRequest}
    {zone : ZoneRow} (found : server.requests.get? id = some (request, .written zone)) :
    request.zoneId ≠ zoneId := by
  intro same
  rw [locked, List.any_eq_false] at free
  apply free (id, request, .written zone) (Dict.mem_entries_iff.mpr found)
  simpa using same

end ZoneServer

end GeoTrack
