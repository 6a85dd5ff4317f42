import GeoTrack.ConditionalWrites

/-!
# The zone quota under concurrent creates

A create locks the row of its account, counts the zones of the account, and
inserts if there is room; the row stays locked until the transaction ends.
Deletes and updates do not take that lock.  All transactions of all accounts
interleave between statements, and a statement reads what was committed when
it started.

The creates of one account therefore count and commit one after the other.
Between the count of a create and its commit the number of committed zones of
its account can only shrink.
-/

namespace GeoTrack

open LabelledRuns

structure CreateRequest where
  userId : Uuid
  payload : GeozoneCreate
  now : ℤ
deriving DecidableEq

namespace ProblemError

def accountGone : ProblemError where
  status := 401
  title := "Authentication required"
  code := "unauthorized"
  detail := "The account this token belongs to no longer exists. Sign in again."
  headers := [("WWW-Authenticate", "Bearer")]
  extra := []

def zoneQuotaExceeded (quota : ℕ) : ProblemError where
  status := 409
  title := "Conflict"
  code := "zone_quota_exceeded"
  detail := "This account already holds " ++ toString quota ++ " zones. Delete one first."
  headers := []
  extra := []

end ProblemError

inductive CreateAnswer where
  | created (zone : ZoneRow) (location etag : String)
  | problem (error : ProblemError)
  | databaseError
deriving DecidableEq

def zoneLocation (zoneId : Uuid) : String := "/api/v1/geozones/" ++ toString zoneId

/-- How far a create has come. -/
inductive CreateStage where
  | ready
  /-- The first statement waits for the lock on the account. -/
  | waiting
  | locked
  /-- `count_for_user` runs on its snapshot. -/
  | counting (snapshot : Db)
  | counted (used : ℕ)
  /-- The handler has raised; the transaction is still open. -/
  | refused (error : ProblemError)
  | inserted (newId : Uuid) (zone : ZoneRow)
  | answered (answer : CreateAnswer)
deriving DecidableEq

namespace CreateStage

/-- Between the grant of the lock and the answer of a create that goes on. -/
def holdsLock : CreateStage → Bool
  | .locked => true
  | .counting _ => true
  | .counted _ => true
  | .inserted _ _ => true
  | _ => false

/-- The request is turned down with this problem. -/
def Refuses (error : ProblemError) : CreateStage → Prop
  | .refused raised => raised = error
  | .answered (.problem raised) => raised = error
  | _ => False

/-- What the end of the transaction without a commit answers. -/
def rollbackAnswer : CreateStage → Option CreateAnswer
  | .answered _ => none
  | .refused error => some (.problem error)
  | _ => some .databaseError

end CreateStage

namespace CreateRequest

/-- The row that `create` inserts after it has counted. -/
def row (request : CreateRequest) (used : ℕ) : ZoneRow where
  userId := request.userId
  name := request.payload.name
  color := request.payload.color.getD (defaultZoneColor used)
  center := ⟨request.payload.latitude, request.payload.longitude⟩
  radiusM := request.payload.radiusM
  alertOnEnter := request.payload.alertOnEnter
  alertOnExit := request.payload.alertOnExit
  dwellAlertIntervalS := request.payload.dwellAlertIntervalS
  version := 1
  createdAt := request.now
  updatedAt := request.now

end CreateRequest

/-- The committed tables with the requests on zones, the creates, and who holds
the row of which account. -/
structure QuotaServer where
  zones : ZoneServer
  creates : Dict RequestId (CreateRequest × CreateStage)
  ownerLocks : Dict Uuid RequestId

inductive QuotaEvent where
  /-- A step of a request on an existing zone. -/
  | zone (event : ZoneEvent)
  /-- Such a request ends without a commit. -/
  | abort (id : RequestId)
  | arrive (id : RequestId) (request : CreateRequest)
  | wait (id : RequestId)
  | lockOwner (id : RequestId)
  | startCount (id : RequestId)
  | finishCount (id : RequestId)
  | insert (id : RequestId) (newId : Uuid)
  | commit (id : RequestId)
  | rollback (id : RequestId)

namespace QuotaServer

def idle (db : Db) : QuotaServer := ⟨ZoneServer.idle db, ∅, ∅⟩

/-- The committed tables. -/
def db (server : QuotaServer) : Db := server.zones.db

def setStage (server : QuotaServer) (id : RequestId) (request : CreateRequest)
    (stage : CreateStage) : QuotaServer :=
  { server with creates := server.creates.set id (request, stage) }

/-- End a transaction, which frees its lock. -/
def close (server : QuotaServer) (id : RequestId) (request : CreateRequest)
    (answer : CreateAnswer) : QuotaServer :=
  { server.setStage id request (.answered answer) with
    ownerLocks := server.ownerLocks.filter fun _ holder => decide (holder ≠ id) }

/-- The inserted row becomes visible. -/
def publish (server : QuotaServer) (newId : Uuid) (zone : ZoneRow) : QuotaServer :=
  { server with
    zones := { server.zones with
      db := { server.db with geozones := server.db.geozones.set newId zone } } }

/-- Another create has inserted this key and not committed yet. -/
def reserved (server : QuotaServer) (newId : Uuid) : Bool :=
  server.creates.entries.any fun entry =>
    match entry.2.2 with
    | .inserted taken _ => taken = newId
    | _ => false

/-- `SELECT 1 FROM users WHERE id = :user_id FOR UPDATE` -/
def lockRow (server : QuotaServer) (id : RequestId) (request : CreateRequest) :
    Option QuotaServer :=
  if request.userId ∉ server.db.users then
    some (server.setStage id request (.refused .accountGone))
  else if server.ownerLocks.get? request.userId = none then
    some { server.setStage id request .locked with
      ownerLocks := server.ownerLocks.set request.userId id }
  else
    none

variable (quota : ℕ)

def step (server : QuotaServer) : QuotaEvent → Option QuotaServer
  -- creates run as transactions of their own
  | .zone (.create ..) => none
  | .zone event => (server.zones.step event).map fun zones => { server with zones := zones }
  | .abort id =>
      match server.zones.requests.get? id with
      | none => none
      | some (_, .answered _) => none
      | some (request, _) =>
          some { server with zones := server.zones.setStage id request (.answered .databaseError) }
  | .arrive id request =>
      if id ∈ server.creates then none else some (server.setStage id request .ready)
  | .wait id =>
      match server.creates.get? id with
      | some (request, .ready) =>
          if request.userId ∈ server.db.users ∧ request.userId ∈ server.ownerLocks then
            some (server.setStage id request .waiting)
          else
            none
      | _ => none
  | .lockOwner id =>
      match server.creates.get? id with
      | some (request, .ready) => server.lockRow id request
      | some (request, .waiting) => server.lockRow id request
      | _ => none
  | .startCount id =>
      match server.creates.get? id with
      | some (request, .locked) => some (server.setStage id request (.counting server.db))
      | _ => none
  | .finishCount id =>
      match server.creates.get? id with
      | some (request, .counting snapshot) =>
          let used := Geozones.countForUser snapshot request.userId
          if quota ≤ used then
            some (server.setStage id request (.refused (.zoneQuotaExceeded quota)))
          else
            some (server.setStage id request (.counted used))
      | _ => none
  | .insert id newId =>
      match server.creates.get? id with
      | some (request, .counted used) =>
          -- a taken key makes the statement fail and the transaction roll back
          if newId ∈ server.db.geozones ∨ server.reserved newId then none
          else some (server.setStage id request (.inserted newId (request.row used)))
      | _ => none
  | .commit id =>
      match server.creates.get? id with
      | some (request, .inserted newId zone) =>
          some ((server.publish newId zone).close id request
            (.created zone (zoneLocation newId) (versionTag zone.version)))
      | _ => none
  | .rollback id =>
      match server.creates.get? id with
      | some (request, stage) => stage.rollbackAnswer.map (server.close id request)
      | none => none

end QuotaServer

namespace QuotaServer

variable {quota : ℕ} {server after : QuotaServer} {event : QuotaEvent}

/-- Everything a step can do. -/
inductive Moves (quota : ℕ) (server : QuotaServer) : QuotaEvent → QuotaServer → Prop where
  | zone {event : ZoneEvent} {zones : ZoneServer}
      (other : ∀ now newId userId payload quota, event ≠ .create now newId userId payload quota)
      (stepTo : server.zones.step event = some zones) :
      Moves quota server (.zone event) { server with zones := zones }
  | abort {id : RequestId} {request : ZoneRequest} {stage : RequestStage}
      (found : server.zones.requests.get? id = some (request, stage)) :
      Moves quota server (.abort id)
        { server with zones := server.zones.setStage id request (.answered .databaseError) }
  | arrive {id : RequestId} {request : CreateRequest} (fresh : server.creates.get? id = none) :
      Moves quota server (.arrive id request) (server.setStage id request .ready)
  | wait {id : RequestId} {request : CreateRequest}
      (found : server.creates.get? id = some (request, .ready)) :
      Moves quota server (.wait id) (server.setStage id request .waiting)
  | unknownOwner {id : RequestId} {request : CreateRequest} {stage : CreateStage}
      (found : server.creates.get? id = some (request, stage))
      (unknown : request.userId ∉ server.db.users) :
      Moves quota server (.lockOwner id) (server.setStage id request (.refused .accountGone))
  | lockOwner {id : RequestId} {request : CreateRequest} {stage : CreateStage}
      (found : server.creates.get? id = some (request, stage))
      (asks : stage = .ready ∨ stage = .waiting)
      (free : server.ownerLocks.get? request.userId = none) :
      Moves quota server (.lockOwner id)
        { server.setStage id request .locked with
          ownerLocks := server.ownerLocks.set request.userId id }
  | startCount {id : RequestId} {request : CreateRequest}
      (found : server.creates.get? id = some (request, .locked)) :
      Moves quota server (.startCount id) (server.setStage id request (.counting server.db))
  | full {id : RequestId} {request : CreateRequest} {snapshot : Db}
      (found : server.creates.get? id = some (request, .counting snapshot))
      (noRoom : quota ≤ Geozones.countForUser snapshot request.userId) :
      Moves quota server (.finishCount id)
        (server.setStage id request (.refused (.zoneQuotaExceeded quota)))
  | counted {id : RequestId} {request : CreateRequest} {snapshot : Db}
      (found : server.creates.get? id = some (request, .counting snapshot))
      (room : Geozones.countForUser snapshot request.userId < quota) :
      Moves quota server (.finishCount id) (server.setStage id request
        (.counted (Geozones.countForUser snapshot request.userId)))
  | insert {id : RequestId} {request : CreateRequest} {used : ℕ} {newId : Uuid}
      (found : server.creates.get? id = some (request, .counted used))
      (fresh : newId ∉ server.db.geozones) (free : server.reserved newId = false) :
      Moves quota server (.insert id newId)
        (server.setStage id request (.inserted newId (request.row used)))
  | commit {id : RequestId} {request : CreateRequest} {newId : Uuid} {zone : ZoneRow}
      (found : server.creates.get? id = some (request, .inserted newId zone)) :
      Moves quota server (.commit id)
        ((server.publish newId zone).close id request
          (.created zone (zoneLocation newId) (versionTag zone.version)))
  | rollback {id : RequestId} {request : CreateRequest} {stage : CreateStage}
      {answer : CreateAnswer} (found : server.creates.get? id = some (request, stage))
      (ended : stage.rollbackAnswer = some answer) :
      Moves quota server (.rollback id) (server.close id request answer)

theorem moves_of_lockRow {id : RequestId} {request : CreateRequest} {stage : CreateStage}
    (found : server.creates.get? id = some (request, stage))
    (asks : stage = .ready ∨ stage = .waiting)
    (asked : server.lockRow id request = some after) :
    server.Moves quota (.lockOwner id) after := by
  unfold lockRow at asked
  split at asked
  case isTrue unknown =>
      obtain rfl := Option.some.inj asked
      exact .unknownOwner found unknown
  case isFalse =>
      split at asked
      case isTrue free =>
          obtain rfl := Option.some.inj asked
          exact .lockOwner found asks free
      case isFalse => cases asked

theorem moves_of_step (stepTo : server.step quota event = some after) :
    server.Moves quota event after := by
  unfold step at stepTo
  split at stepTo
  case h_1 => cases stepTo
  case h_2 event other =>
      obtain ⟨zones, moved, rfl⟩ := Option.map_eq_some_iff.mp stepTo
      exact .zone other moved
  case h_3 id =>
      split at stepTo
      case h_1 => cases stepTo
      case h_2 => cases stepTo
      case h_3 request stage _ found =>
          obtain rfl := Option.some.inj stepTo
          exact .abort found
  case h_4 id request =>
      split at stepTo
      case isTrue => cases stepTo
      case isFalse fresh =>
          obtain rfl := Option.some.inj stepTo
          exact .arrive (Dict.not_mem_iff.mp fresh)
  case h_5 id =>
      split at stepTo
      case h_1 request found =>
          split at stepTo
          case isTrue =>
              obtain rfl := Option.some.inj stepTo
              exact .wait found
          case isFalse => cases stepTo
      case h_2 => cases stepTo
  case h_6 id =>
      split at stepTo
      case h_1 request found => exact moves_of_lockRow found (Or.inl rfl) stepTo
      case h_2 request found => exact moves_of_lockRow found (Or.inr rfl) stepTo
      case h_3 => cases stepTo
  case h_7 id =>
      split at stepTo
      case h_1 request found =>
          obtain rfl := Option.some.inj stepTo
          exact .startCount found
      case h_2 => cases stepTo
  case h_8 id =>
      split at stepTo
      case h_1 request snapshot found =>
          simp only at stepTo
          split at stepTo
          case isTrue noRoom =>
              obtain rfl := Option.some.inj stepTo
              exact .full found noRoom
          case isFalse room =>
              obtain rfl := Option.some.inj stepTo
              exact .counted found (not_le.mp room)
      case h_2 => cases stepTo
  case h_9 id newId =>
      split at stepTo
      case h_1 request used found =>
          split at stepTo
          case isTrue => cases stepTo
          case isFalse free =>
              obtain ⟨fresh, unreserved⟩ := not_or.mp free
              obtain rfl := Option.some.inj stepTo
              exact .insert found fresh (by simpa using unreserved)
      case h_2 => cases stepTo
  case h_10 id =>
      split at stepTo
      case h_1 request newId zone found =>
          obtain rfl := Option.some.inj stepTo
          exact .commit found
      case h_2 => cases stepTo
  case h_11 id =>
      split at stepTo
      case h_1 request stage found =>
          obtain ⟨answer, ended, rfl⟩ := Option.map_eq_some_iff.mp stepTo
          exact .rollback found ended
      case h_2 => cases stepTo

end QuotaServer

/-- Every zone was there before, with the same owner. -/
def Db.ZonesFrom (before after : Db) : Prop :=
  ∀ zoneId row, after.geozones.get? zoneId = some row →
    ∃ old, before.geozones.get? zoneId = some old ∧ row.userId = old.userId

section Counting

variable {before after : Db} {userId : Uuid}

theorem countForUser_eq_card (db : Db) (userId : Uuid) :
    Geozones.countForUser db userId =
      (db.geozones.filter fun _ zone => decide (zone.userId = userId)).support.card := by
  rw [Dict.card_support, Geozones.countForUser, Dict.values, List.filter_map, List.length_map]
  rfl

theorem Db.ZonesFrom.countForUser_le (zonesFrom : before.ZonesFrom after) (userId : Uuid) :
    Geozones.countForUser after userId ≤ Geozones.countForUser before userId := by
  rw [countForUser_eq_card, countForUser_eq_card]
  apply Finset.card_le_card
  intro zoneId
  simp only [Dict.mem_support, Dict.mem_filter, decide_eq_true_eq]
  rintro ⟨row, found, owned⟩
  obtain ⟨old, known, sameOwner⟩ := zonesFrom zoneId row found
  exact ⟨old, known, sameOwner ▸ owned⟩

theorem countForUser_set_le (db : Db) (newId : Uuid) (zone : ZoneRow) (userId : Uuid) :
    Geozones.countForUser { db with geozones := db.geozones.set newId zone } userId ≤
      Geozones.countForUser db userId + if zone.userId = userId then 1 else 0 := by
  rw [countForUser_eq_card, countForUser_eq_card]
  split
  case isTrue =>
      apply le_trans (Finset.card_le_card _) (Finset.card_insert_le newId _)
      intro zoneId
      by_cases isNew : zoneId = newId <;> simp [isNew]
  case isFalse foreign =>
      rw [Nat.add_zero]
      apply Finset.card_le_card
      intro zoneId
      by_cases isNew : zoneId = newId <;> simp [isNew, foreign]

end Counting

/-- A row that a request on a zone has picked is the committed one, and no two
requests have picked the same. -/
structure ZoneServer.Held (server : ZoneServer) : Prop where
  row : ∀ id request zone, server.requests.get? id = some (request, .written zone) →
    server.db.geozones.get? request.zoneId = some zone
  exclusive : ∀ id other request another zone held,
    server.requests.get? id = some (request, .written zone) →
    server.requests.get? other = some (another, .written held) →
    request.zoneId = another.zoneId → id = other

namespace ZoneServer.Held

variable {server after : ZoneServer} {id : RequestId} {request : ZoneRequest}
  {stage : RequestStage} {db : Db} {event : ZoneEvent}

/-- One request moves on; the rows the others have picked stay. -/
theorem advance (held : server.Held)
    (row : ∀ zone, stage = .written zone → db.geozones.get? request.zoneId = some zone)
    (kept : ∀ other another zone, other ≠ id →
      server.requests.get? other = some (another, .written zone) →
      db.geozones.get? another.zoneId = server.db.geozones.get? another.zoneId)
    (alone : ∀ zone, stage = .written zone → ∀ other another locked, other ≠ id →
      server.requests.get? other = some (another, .written locked) →
      another.zoneId ≠ request.zoneId) :
    (ZoneServer.mk db (server.requests.set id (request, stage))).Held where
  row := by
    intro other another zone found
    rw [Dict.get?_set] at found
    split at found
    case isTrue =>
        obtain ⟨rfl, reached⟩ := Prod.mk.inj (Option.some.inj found)
        exact row zone reached
    case isFalse differs =>
        exact (kept other another zone differs found).trans (held.row other another zone found)
  exclusive := exclusive_set held.exclusive alone

/-- A request moves on without picking a row or committing. -/
theorem pass (held : server.Held) (idle : ∀ zone, stage ≠ .written zone) :
    (server.setStage id request stage).Held := by
  apply held.advance
  · exact fun zone reached => absurd reached (idle zone)
  · exact fun _ _ _ _ _ => rfl
  · exact fun zone reached => absurd reached (idle zone)

/-- A new zone under a key that was not taken. -/
theorem insert (held : server.Held) {newId : Uuid} (fresh : newId ∉ server.db.geozones)
    (zone : ZoneRow) :
    ({ server with
      db := { server.db with geozones := server.db.geozones.set newId zone } }).Held where
  row := by
    intro id request picked found
    have known := held.row id request picked found
    have differs : request.zoneId ≠ newId := by
      rintro rfl
      exact fresh (Dict.mem_iff_exists.mpr ⟨picked, known⟩)
    simpa [differs] using known
  exclusive := held.exclusive

theorem receive_ne_written (request : ZoneRequest) (zone : ZoneRow) :
    request.receive ≠ .written zone := by
  unfold ZoneRequest.receive
  split
  · simp
  · split <;> simp

theorem row_of_statement {expected : Option ℤ} {zone : ZoneRow}
    (picked : request.statement db expected = .written zone) :
    db.geozones.get? request.zoneId = some zone := by
  unfold ZoneRequest.statement at picked
  split at picked
  case isTrue => cases picked
  case isFalse =>
      split at picked
      case isTrue => cases picked
      case isFalse =>
          split at picked
          case h_1 row found =>
              obtain rfl := RequestStage.written.inj picked
              exact (writable_eq_some_iff.mp found).1
          case h_2 => cases picked

theorem userId_rewrite {call : ZoneCall} {now : ℤ} {zone row : ZoneRow}
    (rewritten : call.rewrite now zone = some row) : row.userId = zone.userId := by
  cases call with
  | replace payload =>
      obtain rfl := Option.some.inj rewritten
      rfl
  | patch body =>
      obtain rfl := Option.some.inj rewritten
      rfl
  | delete => cases rewritten

theorem zonesFrom_commitRow {zoneId : Uuid} {zone : ZoneRow} {call : ZoneCall} {now : ℤ}
    (known : db.geozones.get? zoneId = some zone) :
    db.ZonesFrom (commitRow db zoneId (call.rewrite now zone)) := by
  intro other row found
  rw [get?_commitRow] at found
  split at found
  case isTrue same => exact ⟨zone, same ▸ known, userId_rewrite found⟩
  case isFalse => exact ⟨row, found, rfl⟩

/-- The requests on zones keep their rows apart and never add a zone. -/
theorem step (held : server.Held)
    (other : ∀ now newId userId payload quota, event ≠ .create now newId userId payload quota)
    (stepTo : server.step event = some after) :
    after.Held ∧ server.db.ZonesFrom after.db := by
  have same : server.db.ZonesFrom server.db := fun _ row found => ⟨row, found, rfl⟩
  rcases ZoneServer.step_cases stepTo with
    ⟨id, request, rfl, missing, rfl⟩ | ⟨id, request, expected, rfl, found, -, rfl⟩ |
    ⟨id, request, expected, rfl, enabled, rfl⟩ | ⟨id, request, zone, rfl, found, rfl⟩ |
    ⟨id, request, rfl, found, rfl⟩ |
    ⟨now, newId, userId, payload, quota, db, zone, rfl, created, rfl⟩
  · exact ⟨held.pass (receive_ne_written request), same⟩
  · exact ⟨held.pass (by simp), same⟩
  · refine ⟨held.advance (fun zone => row_of_statement) (fun _ _ _ _ _ => rfl) ?_, same⟩
    intro zone picked other another locked _ found
    have free := unlocked_of_statement
      (enabled.imp (fun ready => ready.2) (fun waiting => waiting.2)) picked
    exact ZoneServer.not_written_of_unlocked free found
  · refine ⟨held.advance (by simp) ?_ (by simp), zonesFrom_commitRow (held.row id request zone found)⟩
    intro other another locked differs alsoFound
    rw [get?_commitRow, if_neg]
    intro sameZone
    exact differs (held.exclusive other id another request locked zone alsoFound found sameZone)
  · exact ⟨held.pass (by simp), same⟩
  · exact absurd rfl (other now newId userId payload quota)

end ZoneServer.Held

/-- What a create relies on from its count to its commit: the zones of its
account have not become more, and its key is not taken. -/
def CreateRequest.Room (quota : ℕ) (db : Db) (request : CreateRequest) : CreateStage → Prop
  | .counting snapshot =>
      Geozones.countForUser db request.userId ≤ Geozones.countForUser snapshot request.userId
  | .counted used => Geozones.countForUser db request.userId ≤ used ∧ used < quota
  | .inserted newId zone =>
      Geozones.countForUser db request.userId < quota ∧ zone.userId = request.userId ∧
        newId ∉ db.geozones
  | _ => True

theorem CreateRequest.Room.mono {quota : ℕ} {db later : Db} {request : CreateRequest}
    {stage : CreateStage} (room : request.Room quota db stage)
    (fewer : stage.holdsLock = true →
      Geozones.countForUser later request.userId ≤ Geozones.countForUser db request.userId)
    (untaken : ∀ newId zone, stage = .inserted newId zone → newId ∉ db.geozones →
      newId ∉ later.geozones) :
    request.Room quota later stage := by
  cases stage with
  | counting snapshot => exact le_trans (fewer rfl) room
  | counted used => exact ⟨le_trans (fewer rfl) room.1, room.2⟩
  | inserted newId zone =>
      exact ⟨lt_of_le_of_lt (fewer rfl) room.1, room.2.1, untaken newId zone rfl room.2.2⟩
  | ready => trivial
  | waiting => trivial
  | locked => trivial
  | refused error => trivial
  | answered answer => trivial

/-- The creates of an account take turns, and whoever has the turn still has
room for what it is about to insert. -/
structure QuotaServer.Orderly (quota : ℕ) (server : QuotaServer) : Prop where
  held : server.zones.Held
  turn : ∀ id request stage, server.creates.get? id = some (request, stage) →
    stage.holdsLock = true → server.ownerLocks.get? request.userId = some id
  room : ∀ id request stage, server.creates.get? id = some (request, stage) →
    request.Room quota server.db stage
  apart : ∀ id other request another newId zone inserted,
    server.creates.get? id = some (request, .inserted newId zone) →
    server.creates.get? other = some (another, .inserted newId inserted) → id = other

namespace QuotaServer

variable {quota : ℕ} {server after : QuotaServer} {event : QuotaEvent} {id : RequestId}
  {request : CreateRequest} {stage : CreateStage}

theorem orderly_idle (quota : ℕ) (start : Db) : (idle start).Orderly quota where
  held := by
    constructor
    · intro id request zone found
      cases found
    · intro id other request another zone held found
      cases found
  turn := by
    intro id request stage found
    cases found
  room := by
    intro id request stage found
    cases found
  apart := by
    intro id other request another newId zone inserted found
    cases found

/-- Zones are changed or removed under the creates. -/
theorem Orderly.zones (orderly : server.Orderly quota) {zones : ZoneServer} (held : zones.Held)
    (zonesFrom : server.db.ZonesFrom zones.db) :
    ({ server with zones := zones }).Orderly quota where
  held := held
  turn := orderly.turn
  room := by
    intro id request stage found
    apply (orderly.room id request stage found).mono
    · exact fun _ => zonesFrom.countForUser_le request.userId
    · intro newId zone _ absent taken
      obtain ⟨row, known⟩ := Dict.mem_iff_exists.mp taken
      obtain ⟨old, there, -⟩ := zonesFrom newId row known
      exact absent (Dict.mem_iff_exists.mpr ⟨old, there⟩)
  apart := orderly.apart

/-- One create moves on while the tables stay. -/
theorem Orderly.advance (orderly : server.Orderly quota) {locks : Dict Uuid RequestId}
    (room : request.Room quota server.db stage)
    (own : stage.holdsLock = true → locks.get? request.userId = some id)
    (others : ∀ userId other, other ≠ id → server.ownerLocks.get? userId = some other →
      locks.get? userId = some other)
    (unreserved : ∀ newId zone, stage = .inserted newId zone → ∀ other another inserted,
      other ≠ id → server.creates.get? other ≠ some (another, .inserted newId inserted)) :
    ({ server.setStage id request stage with ownerLocks := locks }).Orderly quota where
  held := orderly.held
  turn := by
    intro other another reached found holds
    rw [setStage, Dict.get?_set] at found
    split at found
    case isTrue same =>
        obtain ⟨rfl, rfl⟩ := Prod.mk.inj (Option.some.inj found)
        exact same ▸ own holds
    case isFalse differs =>
        exact others another.userId other differs (orderly.turn other another reached found holds)
  room := by
    intro other another reached found
    rw [setStage, Dict.get?_set] at found
    split at found
    case isTrue =>
        obtain ⟨rfl, rfl⟩ := Prod.mk.inj (Option.some.inj found)
        exact room
    case isFalse => exact orderly.room other another reached found
  apart := by
    intro first second one two newId zone inserted foundFirst foundSecond
    simp only [setStage, Dict.get?_set] at foundFirst foundSecond
    split at foundFirst
    case isTrue isFirst =>
        split at foundSecond
        case isTrue isSecond => exact isFirst.trans isSecond.symm
        case isFalse differs =>
            obtain ⟨rfl, reached⟩ := Prod.mk.inj (Option.some.inj foundFirst)
            exact absurd foundSecond
              (unreserved newId zone reached second two inserted differs)
    case isFalse differs =>
        split at foundSecond
        case isTrue isSecond =>
            obtain ⟨rfl, reached⟩ := Prod.mk.inj (Option.some.inj foundSecond)
            exact absurd foundFirst (unreserved newId inserted reached first one zone differs)
        case isFalse =>
            exact orderly.apart first second one two newId zone inserted foundFirst foundSecond

/-- A create moves on and keeps the locks as they are. -/
theorem Orderly.pass (orderly : server.Orderly quota) (room : request.Room quota server.db stage)
    (own : stage.holdsLock = true → server.ownerLocks.get? request.userId = some id)
    (unreserved : ∀ newId zone, stage = .inserted newId zone → ∀ other another inserted,
      other ≠ id → server.creates.get? other ≠ some (another, .inserted newId inserted)) :
    (server.setStage id request stage).Orderly quota :=
  orderly.advance room own (fun _ _ _ kept => kept) unreserved

theorem Orderly.close (orderly : server.Orderly quota) (id : RequestId)
    (request : CreateRequest) (answer : CreateAnswer) :
    (server.close id request answer).Orderly quota := by
  apply orderly.advance
  · trivial
  · exact fun holds => absurd holds (by simp [CreateStage.holdsLock])
  · intro userId other differs kept
    simp [kept, differs]
  · exact fun newId zone reached => by cases reached

theorem not_inserted_of_unreserved {newId : Uuid} (free : server.reserved newId = false)
    {another : CreateRequest} {zone : ZoneRow} :
    server.creates.get? id ≠ some (another, .inserted newId zone) := by
  intro found
  rw [reserved, List.any_eq_false] at free
  exact free (id, another, .inserted newId zone) (Dict.mem_entries_iff.mpr found) (by simp)

/-- The zone of a create becomes visible: nobody else of its account had
counted. -/
theorem Orderly.commit (orderly : server.Orderly quota) {newId : Uuid} {zone : ZoneRow}
    (found : server.creates.get? id = some (request, .inserted newId zone))
    (answer : CreateAnswer) :
    ((server.publish newId zone).close id request answer).Orderly quota := by
  obtain ⟨-, owner, fresh⟩ := orderly.room id request _ found
  have closed := orderly.close id request answer
  refine ⟨orderly.held.insert fresh zone, closed.turn, ?_, closed.apart⟩
  intro other another reached there
  apply (closed.room other another reached there).mono
  · intro holds
    have turn := closed.turn other another reached there holds
    have foreign : zone.userId ≠ another.userId := by
      intro same
      have mine : server.ownerLocks.get? another.userId = some id := by
        rw [← same, owner]
        exact orderly.turn id request _ found rfl
      obtain ⟨kept, elsewhere⟩ : id = other ∧ ¬ other = id := by
        simpa [QuotaServer.close, mine] using turn
      exact elsewhere kept.symm
    have grown := countForUser_set_le server.db newId zone another.userId
    rw [if_neg foreign] at grown
    exact grown
  · rintro taken inserted rfl absent
    have differs : taken ≠ newId := by
      rintro rfl
      rw [QuotaServer.close, setStage, Dict.get?_set] at there
      split at there
      case isTrue => cases there
      case isFalse elsewhere =>
          exact elsewhere (orderly.apart other id another request taken inserted zone there found)
    change taken ∉ server.db.geozones.set newId zone
    rw [Dict.mem_set, not_or]
    exact ⟨differs, absent⟩

theorem Orderly.step (orderly : server.Orderly quota)
    (stepTo : server.step quota event = some after) : after.Orderly quota := by
  cases moves_of_step stepTo with
  | zone other moved =>
      obtain ⟨held, zonesFrom⟩ := orderly.held.step other moved
      exact orderly.zones held zonesFrom
  | abort found =>
      exact orderly.zones (orderly.held.pass (by simp)) fun _ row known => ⟨row, known, rfl⟩
  | arrive fresh => exact orderly.pass trivial (by simp [CreateStage.holdsLock]) (by simp)
  | wait found => exact orderly.pass trivial (by simp [CreateStage.holdsLock]) (by simp)
  | unknownOwner found unknown =>
      exact orderly.pass trivial (by simp [CreateStage.holdsLock]) (by simp)
  | @lockOwner id request stage found asks free =>
      apply orderly.advance
      · trivial
      · simp
      · intro userId other differs kept
        have apart : userId ≠ request.userId := by
          rintro rfl
          rw [free] at kept
          cases kept
        simpa [apart] using kept
      · simp
  | startCount found =>
      exact orderly.pass (le_refl _) (fun _ => orderly.turn _ _ _ found rfl) (by simp)
  | full found noRoom => exact orderly.pass trivial (by simp [CreateStage.holdsLock]) (by simp)
  | counted found room =>
      exact orderly.pass ⟨orderly.room _ _ _ found, room⟩
        (fun _ => orderly.turn _ _ _ found rfl) (by simp)
  | insert found fresh free =>
      obtain ⟨fewer, room⟩ := orderly.room _ _ _ found
      apply orderly.pass
      · exact ⟨lt_of_le_of_lt fewer room, rfl, fresh⟩
      · exact fun _ => orderly.turn _ _ _ found rfl
      · rintro newId zone reached other another inserted -
        obtain ⟨rfl, -⟩ := CreateStage.inserted.inj reached
        exact not_inserted_of_unreserved free
  | commit found => exact orderly.commit found _
  | rollback found ended => exact orderly.close _ _ _

end QuotaServer

/-- All interleavings on a database. -/
abbrev QuotaRun (quota : ℕ) (start : Db) : List QuotaEvent → QuotaServer → Prop :=
  Run (QuotaServer.step quota) Anything (QuotaServer.idle start)

/-- The create's count started exactly once, in this state. -/
def CountedIn (quota : ℕ) (start : Db) (events : List QuotaEvent) (id : RequestId)
    (before : QuotaServer) : Prop :=
  ∀ other, Moment (QuotaServer.step quota) Anything (QuotaServer.idle start) events
    (.startCount id) other ↔ other = before

section Runs

variable {quota : ℕ} {start : Db} {events : List QuotaEvent} {server after : QuotaServer}
  {event : QuotaEvent} {id : RequestId} {request : CreateRequest}

theorem orderly_run (run : QuotaRun quota start events server) : server.Orderly quota :=
  run.invariant (QuotaServer.orderly_idle quota start) fun _ _ _ orderly _ => orderly.step

theorem countForUser_step (orderly : server.Orderly quota)
    (stepTo : server.step quota event = some after) {userId : Uuid}
    (within : Geozones.countForUser server.db userId ≤ quota) :
    Geozones.countForUser after.db userId ≤ quota := by
  cases QuotaServer.moves_of_step stepTo with
  | zone other moved =>
      exact le_trans ((orderly.held.step other moved).2.countForUser_le userId) within
  | @commit id request newId zone found =>
      obtain ⟨room, owner, -⟩ := orderly.room _ _ _ found
      have grown : Geozones.countForUser ((server.publish newId zone).close id request
          (.created zone (zoneLocation newId) (versionTag zone.version))).db userId ≤
          Geozones.countForUser server.db userId + if zone.userId = userId then 1 else 0 :=
        countForUser_set_le server.db newId zone userId
      by_cases mine : zone.userId = userId
      · rw [if_pos mine] at grown
        rw [← owner, mine] at room
        omega
      · rw [if_neg mine] at grown
        omega
  | abort | arrive | wait | unknownOwner | lockOwner | startCount | full | counted | insert |
    rollback => exact within

/-- What the steps so far say about a create's count. -/
def CountStory (quota : ℕ) (start : Db) (events : List QuotaEvent) (id : RequestId)
    (request : CreateRequest) : CreateStage → Prop
  | .counting snapshot => ∃ before, CountedIn quota start events id before ∧ before.db = snapshot
  | .refused error | .answered (.problem error) => error = .zoneQuotaExceeded quota →
      ∃ before, CountedIn quota start events id before ∧
        quota ≤ Geozones.countForUser before.db request.userId
  | .ready | .waiting | .locked => ∀ before, ¬ Moment (QuotaServer.step quota) Anything
      (QuotaServer.idle start) events (.startCount id) before
  | _ => True

theorem countedIn_last (run : QuotaRun quota start events server)
    (uncounted : ∀ before, ¬ Moment (QuotaServer.step quota) Anything (QuotaServer.idle start)
      events (.startCount id) before) :
    CountedIn quota start (events ++ [.startCount id]) id server := by
  intro other
  rw [run.moment_snoc_iff]
  exact ⟨fun moment => (moment.resolve_left (uncounted other)).2, fun same => Or.inr ⟨rfl, same⟩⟩

/-- Steps other than the start of its count leave a create's story as it is. -/
theorem CountStory.snoc (run : QuotaRun quota start events server)
    (differs : event ≠ .startCount id) {stage : CreateStage}
    (story : CountStory quota start events id request stage) :
    CountStory quota start (events ++ [event]) id request stage := by
  have same (before : QuotaServer) :
      Moment (QuotaServer.step quota) Anything (QuotaServer.idle start) (events ++ [event])
        (.startCount id) before ↔
      Moment (QuotaServer.step quota) Anything (QuotaServer.idle start) events
        (.startCount id) before := by
    rw [run.moment_snoc_iff]
    exact ⟨fun moment => moment.resolve_right fun last => differs last.1.symm, Or.inl⟩
  have counted (before : QuotaServer) :
      CountedIn quota start (events ++ [event]) id before ↔
        CountedIn quota start events id before :=
    forall_congr' fun other => by rw [same]
  cases stage with
  | counting snapshot => simpa only [CountStory, counted] using story
  | refused error => simpa only [CountStory, counted] using story
  | answered answer =>
      cases answer with
      | problem error => simpa only [CountStory, counted] using story
      | created zone location etag => trivial
      | databaseError => trivial
  | ready => simpa only [CountStory, same] using story
  | waiting => simpa only [CountStory, same] using story
  | locked => simpa only [CountStory, same] using story
  | counted used => trivial
  | inserted newId zone => trivial

/-- Every create has its story, and nothing was counted for one that did not
arrive. -/
structure CountsTold (quota : ℕ) (start : Db) (events : List QuotaEvent)
    (server : QuotaServer) : Prop where
  story : ∀ id request stage, server.creates.get? id = some (request, stage) →
    CountStory quota start events id request stage
  unheard : ∀ id, server.creates.get? id = none → ∀ before,
    ¬ Moment (QuotaServer.step quota) Anything (QuotaServer.idle start) events
      (.startCount id) before

/-- One create moves on. -/
theorem CountsTold.advance (told : CountsTold quota start events server)
    (run : QuotaRun quota start events server) {stage : CreateStage}
    (foreign : ∀ other, other ≠ id → event ≠ .startCount other)
    (story : CountStory quota start (events ++ [event]) id request stage)
    (moved : after.creates = server.creates.set id (request, stage)) :
    CountsTold quota start (events ++ [event]) after where
  story := by
    intro other another reached found
    rw [moved, Dict.get?_set] at found
    split at found
    case isTrue same =>
        obtain ⟨rfl, rfl⟩ := Prod.mk.inj (Option.some.inj found)
        exact same ▸ story
    case isFalse differs =>
        exact (told.story other another reached found).snoc run (foreign other differs)
  unheard := by
    intro other missing before
    rw [moved, Dict.get?_set] at missing
    split at missing
    case isTrue => cases missing
    case isFalse differs =>
        rw [run.moment_snoc_iff]
        rintro (earlier | ⟨last, -⟩)
        · exact told.unheard other missing before earlier
        · exact foreign other differs last.symm

/-- A step that is not about a create. -/
theorem CountsTold.aside (told : CountsTold quota start events server)
    (run : QuotaRun quota start events server) (foreign : ∀ id, event ≠ .startCount id)
    (kept : after.creates = server.creates) :
    CountsTold quota start (events ++ [event]) after where
  story := by
    intro id request stage found
    rw [kept] at found
    exact (told.story id request stage found).snoc run (foreign id)
  unheard := by
    intro id missing before
    rw [kept] at missing
    rw [run.moment_snoc_iff]
    rintro (earlier | ⟨last, -⟩)
    · exact told.unheard id missing before earlier
    · exact foreign id last.symm

theorem accountGone_ne (quota : ℕ) :
    ProblemError.accountGone ≠ ProblemError.zoneQuotaExceeded quota := by
  intro same
  have sameStatus : 401 = 409 := congrArg ProblemError.status same
  omega

theorem CountsTold.step (told : CountsTold quota start events server)
    (run : QuotaRun quota start events server) (stepTo : server.step quota event = some after) :
    CountsTold quota start (events ++ [event]) after := by
  cases QuotaServer.moves_of_step stepTo with
  | zone other moved => exact told.aside run (by simp) rfl
  | abort found => exact told.aside run (by simp) rfl
  | @arrive id request fresh =>
      have story : CountStory quota start events id request .ready := told.unheard id fresh
      exact told.advance run (by simp) (story.snoc run (by simp)) rfl
  | @wait id request found =>
      have ready := told.story id request _ found
      have story : CountStory quota start events id request .waiting := ready
      exact told.advance run (by simp) (story.snoc run (by simp)) rfl
  | @unknownOwner id request stage found unknown =>
      have story : CountStory quota start events id request (.refused .accountGone) :=
        fun same => absurd same (accountGone_ne quota)
      exact told.advance run (by simp) (story.snoc run (by simp)) rfl
  | @lockOwner id request stage found asks free =>
      have story : CountStory quota start events id request .locked := by
        rcases asks with rfl | rfl
        · have asked := told.story id request _ found
          exact asked
        · have waited := told.story id request _ found
          exact waited
      exact told.advance run (by simp) (story.snoc run (by simp)) rfl
  | @startCount id request found =>
      have counted := countedIn_last run (told.story id request _ found)
      have story : CountStory quota start (events ++ [.startCount id]) id request
          (.counting server.db) :=
        ⟨server, counted, rfl⟩
      exact told.advance run (by simpa using fun _ differs => Ne.symm differs) story rfl
  | @full id request snapshot found noRoom =>
      have story : CountStory quota start events id request
          (.refused (.zoneQuotaExceeded quota)) := by
        obtain ⟨before, counted, rfl⟩ := told.story id request _ found
        exact fun _ => ⟨before, counted, noRoom⟩
      exact told.advance run (by simp) (story.snoc run (by simp)) rfl
  | @counted id request snapshot found room =>
      have story : CountStory quota start events id request
          (.counted (Geozones.countForUser snapshot request.userId)) := trivial
      exact told.advance run (by simp) (story.snoc run (by simp)) rfl
  | @insert id request used newId found fresh free =>
      have story : CountStory quota start events id request
          (.inserted newId (request.row used)) := trivial
      exact told.advance run (by simp) (story.snoc run (by simp)) rfl
  | @commit id request newId zone found =>
      have story : CountStory quota start events id request (.answered
          (.created zone (zoneLocation newId) (versionTag zone.version))) := trivial
      exact told.advance run (by simp) (story.snoc run (by simp)) rfl
  | @rollback id request stage answer found ended =>
      have story : CountStory quota start events id request (.answered answer) := by
        have earlier := told.story id request stage found
        cases stage with
        | answered => cases ended
        | refused error =>
            obtain rfl := Option.some.inj ended
            exact earlier
        | ready | waiting | locked | counting | counted | inserted =>
            obtain rfl := Option.some.inj ended
            trivial
      exact told.advance run (by simp) (story.snoc run (by simp)) rfl

theorem countsTold_run (run : QuotaRun quota start events server) :
    CountsTold quota start events server := by
  induction run with
  | nil =>
      constructor
      · intro id request stage found
        cases found
      · exact fun _ _ _ => not_moment_nil
  | snoc earlier _ stepTo ih => exact ih.step earlier stepTo

end Runs

/-- A create that nothing interrupts does what `create` says. -/
theorem create_alone {quota : ℕ} {db after : Db} {request : CreateRequest} {newId : Uuid}
    {zone : ZoneRow}
    (created : Geozones.create request.now db newId request.userId request.payload quota =
      .ok (after, zone)) :
    ∃ server, QuotaRun quota db [.arrive 0 request, .lockOwner 0, .startCount 0, .finishCount 0,
      .insert 0 newId, .commit 0] server ∧ server.db = after := by
  unfold Geozones.create at created
  split at created
  case isTrue => cases created
  case isFalse known =>
      split at created
      case isTrue => cases created
      case isFalse room =>
          split at created
          case isTrue => cases created
          case isFalse fresh =>
              obtain ⟨rfl, rfl⟩ := Prod.mk.inj (Except.ok.inj created)
              let used := Geozones.countForUser db request.userId
              let arrived := (QuotaServer.idle db).setStage 0 request .ready
              let locked : QuotaServer := { arrived.setStage 0 request .locked with
                ownerLocks := arrived.ownerLocks.set request.userId 0 }
              let counting := locked.setStage 0 request (.counting db)
              let counted := counting.setStage 0 request (.counted used)
              let inserted := counted.setStage 0 request (.inserted newId (request.row used))
              have arrives : (QuotaServer.idle db).step quota (.arrive 0 request) = some arrived :=
                rfl
              have locks : arrived.step quota (.lockOwner 0) = some locked := by
                have present : request.userId ∈ arrived.db.users := not_not.mp known
                change arrived.lockRow 0 request = some locked
                rw [QuotaServer.lockRow, if_neg (not_not.mpr present)]
                rfl
              have starts : locked.step quota (.startCount 0) = some counting := rfl
              have counts : counting.step quota (.finishCount 0) = some counted := if_neg room
              have inserts : counted.step quota (.insert 0 newId) = some inserted := by
                have free : ¬ (newId ∈ counted.db.geozones ∨ counted.reserved newId = true) :=
                  not_or.mpr ⟨fresh, Bool.false_ne_true⟩
                exact if_neg free
              let closed := (inserted.publish newId (request.row used)).close 0 request
                (.created (request.row used) (zoneLocation newId) (versionTag 1))
              have commits : inserted.step quota (.commit 0) = some closed := rfl
              have toCounting : QuotaRun quota db [.arrive 0 request, .lockOwner 0, .startCount 0]
                  counting :=
                ((Run.nil.snoc trivial arrives).snoc trivial locks).snoc trivial starts
              have toInserted := (toCounting.snoc trivial counts).snoc trivial inserts
              exact ⟨closed, toInserted.snoc trivial commits, rfl⟩

/-- However creates, deletes and updates interleave, no account comes to hold
more than the quota, and a create is turned down for the quota only if its
account held that many committed zones when it counted. -/
theorem zone_quota_kept {quota : ℕ} {start : Db} {events : List QuotaEvent}
    {server : QuotaServer} (run : QuotaRun quota start events server) :
    (∀ userId, Geozones.countForUser start userId ≤ quota →
      Geozones.countForUser server.db userId ≤ quota) ∧
    ∀ id request stage, server.creates.get? id = some (request, stage) →
      stage.Refuses (.zoneQuotaExceeded quota) →
      ∃ before, CountedIn quota start events id before ∧
        quota ≤ Geozones.countForUser before.db request.userId := by
  constructor
  · intro userId within
    induction run with
    | nil => exact within
    | snoc earlier _ stepTo ih => exact countForUser_step (orderly_run earlier) stepTo ih
  · intro id request stage found refuses
    have story := (countsTold_run run).story id request stage found
    cases stage with
    | refused error => exact story refuses
    | answered answer =>
        cases answer with
        | problem error => exact story refuses
        | created | databaseError => exact refuses.elim
    | ready | waiting | locked | counting | counted | inserted => exact refuses.elim

/-- Two creates race for the last zone of an account; the loser counts again
what the winner has committed, also while a delete is under way. -/
def raceForLast : List QuotaEvent :=
  let yard : GeozoneCreate := ⟨"yard", 0, 0, 100, none, true, true, none⟩
  [.arrive 0 ⟨1, yard, 10⟩, .arrive 1 ⟨1, yard, 11⟩, .lockOwner 0, .wait 1, .startCount 0,
    .finishCount 0, .insert 0 7, .commit 0, .lockOwner 1,
    .zone (.arrive 2 ⟨1, 7, none, .delete, 12⟩), .zone (.execute 2), .startCount 1,
    .zone (.commit 2), .finishCount 1, .rollback 1]

theorem zone_quota_kept_race :
    ∃ server, QuotaRun 1 (Db.fresh (KeySet.add ∅ 1)) raceForLast server ∧
      server.creates.get? 1 = some (⟨1, ⟨"yard", 0, 0, 100, none, true, true, none⟩, 11⟩,
        .answered (.problem (.zoneQuotaExceeded 1))) ∧
      Geozones.countForUser server.db 1 ≤ 1 ∧
      ∃ before, CountedIn 1 (Db.fresh (KeySet.add ∅ 1)) raceForLast 1 before ∧
        1 ≤ Geozones.countForUser before.db 1 := by
  obtain ⟨server, executed, refused⟩ : ∃ server,
      exec (QuotaServer.step 1) Anything (QuotaServer.idle (Db.fresh (KeySet.add ∅ 1)))
        raceForLast = some server ∧
      server.creates.get? 1 = some (⟨1, ⟨"yard", 0, 0, 100, none, true, true, none⟩, 11⟩,
        .answered (.problem (.zoneQuotaExceeded 1))) :=
    exists_of_exec (by decide +kernel)
  have run := run_of_exec executed
  obtain ⟨within, counted⟩ := zone_quota_kept run
  exact ⟨server, run, refused, within 1 (by decide), counted 1 _ _ refused rfl⟩

end GeoTrack
