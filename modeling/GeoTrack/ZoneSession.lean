import GeoTrack.ZoneEditor

/-!
# Zone frames and zone responses in one session

The map of a session is written by two channels: zone frames, and the responses
to its own requests.  A frame is checked against the stored version; a response
is stored as it comes.  Every request is sent, answered by the server and
handled by the session in separate steps, with anything in between, and a
rejected write is followed by a read of its own.

New zones get ids that were never used before.
-/

namespace GeoTrack

open LabelledRuns

abbrev CallId := ℕ

/-- What a session asks the API.  A partial update names the version the
session holds. -/
inductive ZoneEditorCall where
  | load
  | patch (zoneId : Uuid) (changes : GeozonePatch) (version : ℤ)
  | create (payload : GeozoneCreate)
  | read (zoneId : Uuid)
  | remove (zoneId : Uuid)

inductive ZoneResponse where
  | page (items : List GeozoneOut)
  | zone (zone : GeozoneOut)
  | noContent
  | error (status : ℕ)

/-- The zones a response carries. -/
def ZoneResponse.carried : ZoneResponse → List GeozoneOut
  | .page items => items
  | .zone item => [item]
  | _ => []

namespace Geozones

/-- One page of the user's zones, oldest first. -/
def listForUser (db : Db) (userId : Uuid) (limit offset : ℕ) : List GeozoneOut :=
  (((db.geozones.entries.filter fun entry => entry.2.userId = userId).insertionSort
    fun first second => first.2.createdAt < second.2.createdAt ∨
      first.2.createdAt = second.2.createdAt ∧ first.1 ≤ second.1).drop offset |>.take limit).map
    fun entry => entry.2.out entry.1

end Geozones

/-- The limit `listZones` asks for. -/
def zonePageLimit : ℕ := 500

namespace ZoneEditorCall

variable (userId : Uuid) (now : ℤ) (newId : Uuid) (quota : ℕ)

/-- The operation a call runs on the tables. -/
def op : ZoneEditorCall → Option Op
  | .load | .read _ => none
  | .patch zoneId changes version => some (.patch now zoneId userId changes (some version))
  | .create payload => some (.create now newId userId payload quota)
  | .remove zoneId => some (.delete zoneId userId none)

/-- The API's answer, from the tables before the call. -/
def respond (db : Db) : ZoneEditorCall → ZoneResponse
  | .load => .page (Geozones.listForUser db userId zonePageLimit 0)
  | .read zoneId =>
      match zoneTable db userId zoneId with
      | some zone => .zone zone
      | none => .error 404
  | .patch zoneId changes version =>
      if Geozones.patchIsEmpty changes then
        match zoneTable db userId zoneId with
        | some zone => if zone.version ≠ version then .error 412 else .zone zone
        | none => .error 404
      else
        match Geozones.patch now db zoneId userId changes (some version) with
        | .ok (_, some zone) => .zone (zone.out zoneId)
        | .ok (_, none) => .error 404
        | .error _ => .error 412
  | .create payload =>
      match Geozones.create now db newId userId payload quota with
      | .ok (_, zone) => .zone (zone.out newId)
      | .error .unknownOwner => .error 401
      | .error (.quotaExceeded _) => .error 409
      | .error _ => .error 500
  | .remove zoneId =>
      match Geozones.delete db zoneId userId none with
      | .ok (_, true) => .noContent
      | .ok (_, false) => .error 404
      | .error _ => .error 412

end ZoneEditorCall

namespace ZoneEditor

/-- After a rejected write: forget a zone that is gone, read one that moved
on. -/
def recover (zones : Dict Uuid GeozoneOut) (zoneId : Uuid) (status : ℕ) :
    Dict Uuid GeozoneOut × Option ZoneEditorCall :=
  if status = 404 then (zones.erase zoneId, none)
  else if status = 409 ∨ status = 412 then (zones, some (.read zoneId))
  else (zones, none)

/-- Handle the response to a call, with the call that follows it. -/
def handle (zones : Dict Uuid GeozoneOut) :
    ZoneEditorCall → ZoneResponse → Dict Uuid GeozoneOut × Option ZoneEditorCall
  | .load, .page items => (Dict.setAll ∅ (items.map fun zone => (zone.id, zone)), none)
  | .load, _ => (zones, none)
  | .patch zoneId _ _, .zone updated => (zones.set zoneId updated, none)
  | .patch zoneId _ _, .error status => recover zones zoneId status
  | .patch _ _ _, _ => (zones, none)
  | .create _, .zone zone => (zones.set zone.id zone, none)
  | .create _, _ => (zones, none)
  | .read _, .zone zone => (zones.set zone.id zone, none)
  | .read _, _ => (zones, some .load)
  | .remove zoneId, .noContent => (zones.erase zoneId, none)
  | .remove zoneId, .error status => recover zones zoneId status
  | .remove _, _ => (zones, none)

end ZoneEditor

inductive CallStage where
  | sent (call : ZoneEditorCall)
  /-- Answered when the session had handled this many zones. -/
  | answered (call : ZoneEditorCall) (response : ZoneResponse) (handledBefore : ℕ)

/-- The tables, the frames on their way to one session, and the session.
`handled` lists the zones of all frames and responses it has handled. -/
structure ZoneSession where
  db : Db
  handedOut : List Uuid
  inFlight : List ZoneFrame
  zones : Dict Uuid GeozoneOut
  calls : Dict CallId CallStage
  handled : List GeozoneOut

inductive SessionEvent where
  /-- Somebody changes the tables. -/
  | commit (op : Op)
  /-- One of the frames on their way arrives. -/
  | frame (index : ℕ)
  | issue (id : CallId) (call : ZoneEditorCall)
  | answer (id : CallId) (now : ℤ) (newId : Uuid) (quota : ℕ)
  /-- The request or its answer is lost. -/
  | lose (id : CallId)
  | handle (id : CallId)

namespace ZoneSession

/-- A session that has just started, on tables with some history. -/
def start (db : Db) : ZoneSession where
  db := db
  handedOut := db.geozones.keys
  inFlight := []
  zones := ∅
  calls := ∅
  handled := []

/-- What the session itself may send: a partial update carries the version in
the map, and reads only follow rejected writes. -/
def mayIssue (zones : Dict Uuid GeozoneOut) : ZoneEditorCall → Bool
  | .patch zoneId _ version => (zones.get? zoneId).map GeozoneOut.version = some version
  | .read _ => false
  | _ => true

section Steps

variable (pg : Postgis) (settings : StorageSettings) (userId : Uuid)

/-- An operation commits and its frame is published. -/
def commit (session : ZoneSession) (op : Op) : Option ZoneSession :=
  if ∀ newId ∈ op.newZoneId, newId ∉ session.handedOut then
    some { session with
      db := GeoTrack.step pg settings session.db op
      handedOut := session.handedOut ++ op.newZoneId.toList
      inFlight := session.inFlight ++ (announced userId session.db op).toList }
  else
    none

def step (session : ZoneSession) : SessionEvent → Option ZoneSession
  | .commit op => session.commit pg settings userId op
  | .frame index =>
      (session.inFlight[index]?).map fun frame =>
        { session with
          inFlight := session.inFlight.eraseIdx index
          zones := ZoneEditor.applyEvent session.zones frame
          handled := session.handled ++ (ZoneEditor.shown frame).toList }
  | .issue id call =>
      if id ∉ session.calls ∧ mayIssue session.zones call then
        some { session with calls := session.calls.set id (.sent call) }
      else
        none
  | .answer id now newId quota =>
      match session.calls.get? id with
      | some (.sent call) =>
          let stage := CallStage.answered call (call.respond userId now newId quota session.db)
            session.handled.length
          match call.op userId now newId quota with
          | none => some { session with calls := session.calls.set id stage }
          | some op =>
              (session.commit pg settings userId op).map fun after =>
                { after with calls := session.calls.set id stage }
      | _ => none
  | .lose id =>
      match session.calls.get? id with
      | some (.sent call) | some (.answered call _ _) =>
          some { session with
            calls := session.calls.set id (.answered call (.error 0) session.handled.length) }
      | none => none
  | .handle id =>
      match session.calls.get? id with
      | some (.answered call response _) =>
          let (zones, next) := ZoneEditor.handle session.zones call response
          some { session with
            zones := zones
            handled := session.handled ++ response.carried
            calls := match next with
              | some follow => session.calls.set id (.sent follow)
              | none => session.calls.erase id }
      | _ => none

end Steps

/-- A response is not overtaken: of the zones it carries the map holds no newer
version that the session has handled since the server answered. -/
def NotOvertaken (session : ZoneSession) : SessionEvent → Prop
  | .handle id =>
      match session.calls.get? id with
      | some (.answered _ response handledBefore) =>
          ∀ zone ∈ response.carried, ∀ newer ∈ session.handled.drop handledBefore,
            session.zones.get? zone.id = some newer → newer.version ≤ zone.version
      | _ => True
  | _ => True

instance (session : ZoneSession) (event : SessionEvent) :
    Decidable (session.NotOvertaken event) :=
  match event with
  | .handle id =>
      match found : session.calls.get? id with
      | some (.answered _ response handledBefore) =>
          decidable_of_iff (∀ zone ∈ response.carried, ∀ newer ∈ session.handled.drop handledBefore,
            session.zones.get? zone.id = some newer → newer.version ≤ zone.version)
            (by rw [NotOvertaken, found])
      | some (.sent _) | none => isTrue (by rw [NotOvertaken, found]; trivial)
  | .commit _ | .frame _ | .issue _ _ | .answer _ _ _ _ | .lose _ => isTrue trivial

end ZoneSession

namespace ZoneSession

section Invariant

variable {pg : Postgis} {settings : StorageSettings} {userId : Uuid}
  {session after : ZoneSession}

/-- The zone is in the map, in a frame on its way or in a response. -/
def Known (session : ZoneSession) (zone : GeozoneOut) : Prop :=
  (∃ id, session.zones.get? id = some zone) ∨
    (∃ frame ∈ session.inFlight, ZoneEditor.shown frame = some zone) ∨
    ∃ id call response before,
      session.calls.get? id = some (.answered call response before) ∧ zone ∈ response.carried

/-- Nothing the session knows or will hear is newer than the tables. -/
structure UpToDate (userId : Uuid) (session : ZoneSession) : Prop where
  keyed : ∀ id zone, session.zones.get? id = some zone → zone.id = id
  patched : ∀ id zoneId changes version zone before,
    session.calls.get? id = some (.answered (.patch zoneId changes version) (.zone zone) before) →
    zone.id = zoneId
  handedOut : ∀ id, id ∈ session.db.geozones → id ∈ session.handedOut
  known : ∀ zone, session.Known zone → zone.id ∈ session.handedOut ∧
    ∀ current, zoneTable session.db userId zone.id = some current →
      zone.version ≤ current.version
  marked : ∀ id call response before,
    session.calls.get? id = some (.answered call response before) →
    before ≤ session.handled.length
  /-- What is newer than a response was handled after the answer. -/
  answered : ∀ id call response before,
    session.calls.get? id = some (.answered call response before) →
    ∀ zone ∈ response.carried, ∀ stored, session.zones.get? zone.id = some stored →
      stored.version ≤ zone.version ∨ stored ∈ session.handled.drop before

theorem upToDate_start (userId : Uuid) (db : Db) : UpToDate userId (start db) where
  keyed := by
    intro id zone found
    cases found
  patched := by
    intro id zoneId changes version zone before found
    cases found
  handedOut := fun id present => Dict.mem_keys_iff.mpr present
  known := by
    rintro zone (⟨id, found⟩ | ⟨frame, listed, -⟩ | ⟨id, call, response, before, found, -⟩)
    · cases found
    · cases listed
    · cases found
  marked := by
    intro id call response before found
    cases found
  answered := by
    intro id call response before found
    cases found

theorem mem_geozones_of_zoneTable {db : Db} {id : Uuid} {zone : GeozoneOut}
    (shown : zoneTable db userId id = some zone) : id ∈ db.geozones := by
  obtain ⟨row, found, -⟩ := Option.map_eq_some_iff.mp shown
  exact Dict.mem_iff_exists.mpr ⟨row, (getForUser_eq_some_iff.mp found).1⟩

theorem id_of_zoneTable {db : Db} {id : Uuid} {zone : GeozoneOut}
    (shown : zoneTable db userId id = some zone) : zone.id = id := by
  obtain ⟨row, -, rfl⟩ := Option.map_eq_some_iff.mp shown
  rfl

/-- Zones are only added under the id handed out for them. -/
theorem mem_geozones_step {db : Db} {op : Op} {id : Uuid}
    (present : id ∈ (GeoTrack.step pg settings db op).geozones) :
    id ∈ db.geozones ∨ op.newZoneId = some id := by
  have updated (zoneId owner : Uuid) (expected : Option ℤ) (assign : ZoneRow → ZoneRow)
      (there : id ∈ (committed db (Geozones.updateWhere db zoneId owner expected assign)).geozones) :
      id ∈ db.geozones := by
    unfold Geozones.updateWhere at there
    cases picked : Geozones.writable db zoneId owner expected with
    | none =>
        rw [picked] at there
        unfold Geozones.explainMissingRow at there
        cases read : Geozones.getForUser db zoneId owner <;> rw [read] at there <;> exact there
    | some zone =>
        rw [picked] at there
        simp only [committed, Dict.mem_set] at there
        rcases there with rfl | there
        · exact Dict.mem_iff_exists.mpr ⟨zone, (writable_eq_some_iff.mp picked).1⟩
        · exact there
  cases op with
  | batch batch =>
      rw [step_batch] at present
      exact Or.inl present
  | create now newId owner payload quota =>
      simp only [GeoTrack.step] at present
      cases made : Geozones.create now db newId owner payload quota with
      | error problem =>
          rw [made] at present
          exact Or.inl present
      | ok result =>
          rw [made] at present
          simp only [committed, (geozones_create made).2, Dict.mem_set] at present
          exact present.symm.imp_right fun same => by rw [same]; rfl
  | replace now zoneId owner payload expected => exact Or.inl (updated _ _ _ _ present)
  | patch now zoneId owner changes expected =>
      simp only [GeoTrack.step, Geozones.patch] at present
      split at present
      case isTrue => exact Or.inl present
      case isFalse => exact Or.inl (updated _ _ _ _ present)
  | delete zoneId owner expected =>
      left
      simp only [GeoTrack.step, Geozones.delete] at present
      cases picked : Geozones.writable db zoneId owner expected with
      | none =>
          rw [picked] at present
          unfold Geozones.explainMissingRow at present
          cases read : Geozones.getForUser db zoneId owner <;> rw [read] at present <;>
            exact present
      | some zone =>
          rw [picked] at present
          simp only [committed, Geozones.dropZone, Dict.mem_erase] at present
          exact present.2

/-- A row of the tables is as new as anything known about it. -/
theorem UpToDate.known_of_current (upToDate : UpToDate userId session) {zone : GeozoneOut}
    (current : zoneTable session.db userId zone.id = some zone) :
    zone.id ∈ session.handedOut ∧ ∀ other, zoneTable session.db userId zone.id = some other →
      zone.version ≤ other.version := by
  refine ⟨upToDate.handedOut _ (mem_geozones_of_zoneTable current), fun other shown => ?_⟩
  rw [current] at shown
  rw [Option.some.inj shown]

theorem commit_eq_some {op : Op} (committed : session.commit pg settings userId op = some after) :
    (∀ newId, op.newZoneId = some newId → newId ∉ session.handedOut) ∧
      after = { session with
        db := GeoTrack.step pg settings session.db op
        handedOut := session.handedOut ++ op.newZoneId.toList
        inFlight := session.inFlight ++ (announced userId session.db op).toList } := by
  unfold commit at committed
  split at committed
  case isTrue unused => exact ⟨fun newId isNew => unused newId isNew, (Option.some.inj committed).symm⟩
  case isFalse => cases committed

/-- A commit only moves the tables ahead. -/
theorem not_newer_step {op : Op} {zone : GeozoneOut}
    (unused : ∀ newId, op.newZoneId = some newId → newId ∉ session.handedOut)
    (handedOut : zone.id ∈ session.handedOut)
    (notNewer : ∀ current, zoneTable session.db userId zone.id = some current →
      zone.version ≤ current.version) :
    ∀ current, zoneTable (GeoTrack.step pg settings session.db op) userId zone.id = some current →
      zone.version ≤ current.version := by
  intro current shown
  have announces := announces_step pg settings userId session.db op
  generalize sent : announced userId session.db op = frame at announces
  cases announces with
  | nothing same => exact notNewer current (by rw [← same]; exact shown)
  | created made fresh table =>
      rw [table] at shown
      split at shown
      case isTrue same =>
          exact absurd handedOut (same ▸ unused _ (newZoneId_of_created userId sent))
      case isFalse => exact notNewer current shown
  | updated made old known next table =>
      rw [table] at shown
      split at shown
      case isTrue same =>
          obtain rfl := Option.some.inj shown
          have behind := notNewer old (by rw [same]; exact known)
          omega
      case isFalse => exact notNewer current shown
  | deleted zoneId old known table =>
      rw [table] at shown
      split at shown
      case isTrue => cases shown
      case isFalse => exact notNewer current shown

/-- A frame carries the row that its operation has just written. -/
theorem current_of_announced (pg : Postgis) (settings : StorageSettings) {db : Db} {op : Op}
    {frame : ZoneFrame} {zone : GeozoneOut}
    (sent : announced userId db op = some frame) (shows : ZoneEditor.shown frame = some zone) :
    zoneTable (GeoTrack.step pg settings db op) userId zone.id = some zone := by
  have announces := announces_step pg settings userId db op
  rw [sent] at announces
  cases announces with
  | created made fresh table =>
      obtain rfl := Option.some.inj shows
      rw [table, if_pos rfl]
  | updated made old known next table =>
      obtain rfl := Option.some.inj shows
      rw [table, if_pos rfl]
  | deleted => cases shows

theorem UpToDate.commit (upToDate : UpToDate userId session) {op : Op}
    (committed : session.commit pg settings userId op = some after) : UpToDate userId after := by
  obtain ⟨unused, rfl⟩ := commit_eq_some committed
  have handedOut : ∀ id, id ∈ (GeoTrack.step pg settings session.db op).geozones →
      id ∈ session.handedOut ++ op.newZoneId.toList := by
    intro id present
    rw [List.mem_append]
    rcases mem_geozones_step present with before | isNew
    · exact Or.inl (upToDate.handedOut id before)
    · exact Or.inr (by simp [isNew])
  refine ⟨upToDate.keyed, upToDate.patched, handedOut, ?_, upToDate.marked, upToDate.answered⟩
  intro zone known
  have knownBefore : session.Known zone ∨
      zoneTable (GeoTrack.step pg settings session.db op) userId zone.id = some zone := by
    rcases known with inMap | ⟨frame, listed, shows⟩ | inResponse
    · exact Or.inl (Or.inl inMap)
    · rw [List.mem_append, Option.mem_toList] at listed
      rcases listed with onItsWay | sent
      · exact Or.inl (Or.inr (Or.inl ⟨frame, onItsWay, shows⟩))
      · exact Or.inr (current_of_announced pg settings sent shows)
    · exact Or.inl (Or.inr (Or.inr inResponse))
  rcases knownBefore with before | current
  · obtain ⟨isHandedOut, notNewer⟩ := upToDate.known zone before
    exact ⟨List.mem_append_left _ isHandedOut, not_newer_step unused isHandedOut notNewer⟩
  · refine ⟨handedOut _ (mem_geozones_of_zoneTable current), fun other shown => ?_⟩
    rw [current] at shown
    rw [Option.some.inj shown]

/-- The server answers from its current rows. -/
theorem UpToDate.answer (upToDate : UpToDate userId session) {id : CallId}
    {call : ZoneEditorCall} {response : ZoneResponse}
    (current : ∀ zone ∈ response.carried, zoneTable session.db userId zone.id = some zone)
    (ofPatch : ∀ zoneId changes version zone, call = .patch zoneId changes version →
      response = .zone zone → zone.id = zoneId) :
    UpToDate userId { session with
      calls := session.calls.set id (.answered call response session.handled.length) } := by
  have stages : ∀ other call' response' before,
      (session.calls.set id (.answered call response session.handled.length)).get? other =
        some (.answered call' response' before) →
      call' = call ∧ response' = response ∧ before = session.handled.length ∨
        session.calls.get? other = some (.answered call' response' before) := by
    intro other call' response' before found
    rw [Dict.get?_set] at found
    split at found
    case isTrue =>
        obtain ⟨rfl, rfl, rfl⟩ := CallStage.answered.inj (Option.some.inj found)
        exact Or.inl ⟨rfl, rfl, rfl⟩
    case isFalse => exact Or.inr found
  refine ⟨upToDate.keyed, ?_, upToDate.handedOut, ?_, ?_, ?_⟩
  · intro other zoneId changes version zone before found
    rcases stages other _ _ before found with ⟨isCall, isResponse, -⟩ | earlier
    · exact ofPatch zoneId changes version zone isCall.symm isResponse.symm
    · exact upToDate.patched other zoneId changes version zone before earlier
  · rintro zone (inMap | onItsWay | ⟨other, call', response', before, found, carried⟩)
    · exact upToDate.known zone (Or.inl inMap)
    · exact upToDate.known zone (Or.inr (Or.inl onItsWay))
    · rcases stages other _ _ before found with ⟨-, rfl, -⟩ | earlier
      · exact upToDate.known_of_current (current zone carried)
      · exact upToDate.known zone (Or.inr (Or.inr ⟨other, _, _, _, earlier, carried⟩))
  · intro other call' response' before found
    rcases stages other _ _ before found with ⟨-, -, rfl⟩ | earlier
    · exact le_rfl
    · exact upToDate.marked other _ _ _ earlier
  · intro other call' response' before found zone carried stored inMap
    rcases stages other _ _ before found with ⟨-, rfl, -⟩ | earlier
    · have notNewer := (upToDate.known stored (Or.inl ⟨_, inMap⟩)).2
      rw [upToDate.keyed _ _ inMap] at notNewer
      exact Or.inl (notNewer zone (current zone carried))
    · exact upToDate.answered other _ _ _ earlier zone carried stored inMap

/-- The session handles zones it knew of: they enter the map and the list of
what was handled. -/
theorem UpToDate.store (upToDate : UpToDate userId session) {added : List GeozoneOut}
    (sameDb : after.db = session.db) (sameIds : after.handedOut = session.handedOut)
    (handled : after.handled = session.handled ++ added)
    (frames : ∀ frame ∈ after.inFlight, frame ∈ session.inFlight)
    (calls : ∀ id call response before,
      after.calls.get? id = some (.answered call response before) →
      session.calls.get? id = some (.answered call response before))
    (entries : ∀ id zone, after.zones.get? id = some zone →
      session.zones.get? id = some zone ∨ zone.id = id ∧ zone ∈ added ∧ session.Known zone) :
    UpToDate userId after := by
  refine ⟨?_, ?_, ?_, ?_, ?_, ?_⟩
  · intro id zone found
    rcases entries id zone found with before | ⟨isKey, -⟩
    · exact upToDate.keyed id zone before
    · exact isKey
  · intro id zoneId changes version zone before found
    exact upToDate.patched id zoneId changes version zone before (calls _ _ _ _ found)
  · rw [sameDb, sameIds]
    exact upToDate.handedOut
  · rw [sameDb, sameIds]
    rintro zone (⟨id, found⟩ | ⟨frame, listed, shows⟩ | ⟨id, call, response, before, found, carried⟩)
    · rcases entries id zone found with before | ⟨-, -, known⟩
      · exact upToDate.known zone (Or.inl ⟨id, before⟩)
      · exact upToDate.known zone known
    · exact upToDate.known zone (Or.inr (Or.inl ⟨frame, frames frame listed, shows⟩))
    · exact upToDate.known zone
        (Or.inr (Or.inr ⟨id, call, response, before, calls _ _ _ _ found, carried⟩))
  · intro id call response before found
    rw [handled, List.length_append]
    have marked := upToDate.marked id call response before (calls _ _ _ _ found)
    omega
  · intro id call response before found zone carried stored inMap
    have marked := upToDate.marked id call response before (calls _ _ _ _ found)
    rw [handled, List.drop_append_of_le_length marked, List.mem_append]
    rcases entries _ stored inMap with earlier | ⟨-, new, -⟩
    · have earlierBound := upToDate.answered id call response before (calls _ _ _ _ found) zone
        carried stored earlier
      exact earlierBound.imp_right Or.inl
    · exact Or.inr (Or.inr new)

section Responses

variable {now : ℤ} {newId : Uuid} {quota : ℕ} {db : Db} {zone : GeozoneOut}

theorem current_of_listForUser {limit offset : ℕ}
    (listed : zone ∈ Geozones.listForUser db userId limit offset) :
    zoneTable db userId zone.id = some zone := by
  rw [Geozones.listForUser, List.mem_map] at listed
  obtain ⟨⟨id, row⟩, onPage, rfl⟩ := listed
  have owned := List.mem_of_mem_drop (List.mem_of_mem_take onPage)
  rw [List.mem_insertionSort, List.mem_filter] at owned
  exact zoneTable_eq_some (Dict.mem_entries_iff.mp owned.1) (by simpa using owned.2)

/-- The zones in a response are rows of the tables after the call. -/
theorem current_of_respond (pg : Postgis) (settings : StorageSettings) {call : ZoneEditorCall}
    (carried : zone ∈ (call.respond userId now newId quota db).carried) :
    zoneTable ((call.op userId now newId quota).elim db (GeoTrack.step pg settings db)) userId
      zone.id = some zone := by
  cases call with
  | load => exact current_of_listForUser carried
  | read zoneId =>
      simp only [ZoneEditorCall.respond] at carried
      split at carried
      case h_1 row shown =>
          obtain rfl := List.mem_singleton.mp carried
          rw [id_of_zoneTable shown]
          exact shown
      case h_2 => cases carried
  | patch zoneId changes version =>
      simp only [ZoneEditorCall.respond] at carried
      split at carried
      case isTrue nothing =>
          -- nothing is written, the row is the one that was read
          have same : GeoTrack.step pg settings db (.patch now zoneId userId changes (some version)) =
              db := by
            simp [GeoTrack.step, Geozones.patch, nothing, committed]
          simp only [ZoneEditorCall.op, Option.elim, same]
          split at carried
          case h_1 row shown =>
              split at carried
              case isTrue => cases carried
              case isFalse =>
                  obtain rfl := List.mem_singleton.mp carried
                  rw [id_of_zoneTable shown]
                  exact shown
          case h_2 => cases carried
      case isFalse something =>
          split at carried
          case h_1 written row patched =>
              obtain rfl := List.mem_singleton.mp carried
              have sent : announced userId db (.patch now zoneId userId changes (some version)) =
                  some (.updated (row.out zoneId)) := by
                simp [announced, something, patched, updatedFrame]
              exact current_of_announced pg settings sent rfl
          case h_2 => cases carried
          case h_3 => cases carried
  | create payload =>
      simp only [ZoneEditorCall.respond] at carried
      split at carried
      case h_1 written row made =>
          obtain rfl := List.mem_singleton.mp carried
          have sent : announced userId db (.create now newId userId payload quota) =
              some (.created (row.out newId)) := by
            simp [announced, made]
          exact current_of_announced pg settings sent rfl
      case h_2 | h_3 | h_4 => cases carried
  | remove zoneId =>
      simp only [ZoneEditorCall.respond] at carried
      split at carried <;> cases carried

theorem id_of_patch_response {zoneId : Uuid} {changes : GeozonePatch} {version : ℤ}
    (response : ZoneEditorCall.respond userId now newId quota db (.patch zoneId changes version) =
      .zone zone) : zone.id = zoneId := by
  simp only [ZoneEditorCall.respond] at response
  split at response
  case isTrue =>
      split at response
      case h_1 row shown =>
          split at response
          case isTrue => cases response
          case isFalse =>
              obtain rfl := ZoneResponse.zone.inj response
              exact id_of_zoneTable shown
      case h_2 => cases response
  case isFalse =>
      split at response
      case h_1 =>
          obtain rfl := ZoneResponse.zone.inj response
          rfl
      case h_2 | h_3 => cases response

/-- An entry of the map after a response was there before or came with it. -/
theorem entry_of_handle {zones : Dict Uuid GeozoneOut} {call : ZoneEditorCall}
    {response : ZoneResponse} {id : Uuid}
    (found : (ZoneEditor.handle zones call response).1.get? id = some zone) :
    zones.get? id = some zone ∨ zone ∈ response.carried ∧
      (zone.id = id ∨ ∃ changes version,
        call = .patch id changes version ∧ response = .zone zone) := by
  have recovered {zoneId : Uuid} {status : ℕ}
      (foundLater : (ZoneEditor.recover zones zoneId status).1.get? id = some zone) :
      zones.get? id = some zone := by
    unfold ZoneEditor.recover at foundLater
    split at foundLater
    case isTrue =>
        exact (Dict.of_get?_erase foundLater).2
    case isFalse => split at foundLater <;> exact foundLater
  have assigned {key : Uuid} {item : GeozoneOut}
      (foundLater : (zones.set key item).get? id = some zone) :
      zones.get? id = some zone ∨ key = id ∧ item = zone := by
    rw [Dict.get?_set] at foundLater
    split at foundLater
    case isTrue same => exact Or.inr ⟨same.symm, Option.some.inj foundLater⟩
    case isFalse => exact Or.inl foundLater
  unfold ZoneEditor.handle at found
  split at found
  case h_1 items =>
      rcases Dict.mem_of_get?_setAll found with listed | impossible
      · obtain ⟨item, onPage, same⟩ := List.mem_map.mp listed
        obtain ⟨rfl, rfl⟩ := Prod.mk.inj same
        exact Or.inr ⟨onPage, Or.inl rfl⟩
      · cases impossible
  case h_3 zoneId changes version updated =>
      rcases assigned found with before | ⟨rfl, rfl⟩
      · exact Or.inl before
      · exact Or.inr ⟨List.mem_singleton_self _, Or.inr ⟨changes, version, rfl, rfl⟩⟩
  case h_4 => exact Or.inl (recovered found)
  case h_6 | h_8 =>
      rcases assigned found with before | ⟨isKey, rfl⟩
      · exact Or.inl before
      · exact Or.inr ⟨List.mem_singleton_self _, Or.inl isKey⟩
  case h_10 =>
      exact Or.inl (Dict.of_get?_erase found).2
  case h_11 => exact Or.inl (recovered found)
  all_goals exact Or.inl found

end Responses

/-- Everything a step can do to the session. -/
theorem step_cases {event : SessionEvent} (stepTo : session.step pg settings userId event = some after) :
    (∃ op, session.commit pg settings userId op = some after) ∨
    (∃ index frame, session.inFlight[index]? = some frame ∧ after = { session with
      inFlight := session.inFlight.eraseIdx index
      zones := ZoneEditor.applyEvent session.zones frame
      handled := session.handled ++ (ZoneEditor.shown frame).toList }) ∨
    (∃ id call, after = { session with calls := session.calls.set id (.sent call) }) ∨
    (∃ id call now newId quota middle,
      (middle = session ∧ call.op userId now newId quota = none ∨
        ∃ op, call.op userId now newId quota = some op ∧
          session.commit pg settings userId op = some middle) ∧
      after = { middle with
        calls := middle.calls.set id (.answered call
          (call.respond userId now newId quota session.db) middle.handled.length) }) ∨
    (∃ id call, after = { session with
      calls := session.calls.set id (.answered call (.error 0) session.handled.length) }) ∨
    (∃ id call response before, event = .handle id ∧
      session.calls.get? id = some (.answered call response before) ∧
      after = { session with
        zones := (ZoneEditor.handle session.zones call response).1
        handled := session.handled ++ response.carried
        calls := match (ZoneEditor.handle session.zones call response).2 with
          | some follow => session.calls.set id (.sent follow)
          | none => session.calls.erase id }) := by
  cases event with
  | commit op => exact Or.inl ⟨op, stepTo⟩
  | frame index =>
      obtain ⟨frame, listed, rfl⟩ := Option.map_eq_some_iff.mp stepTo
      exact Or.inr (Or.inl ⟨index, frame, listed, rfl⟩)
  | issue id call =>
      simp only [step] at stepTo
      split at stepTo
      case isTrue => exact Or.inr (Or.inr (Or.inl ⟨id, call, (Option.some.inj stepTo).symm⟩))
      case isFalse => cases stepTo
  | answer id now newId quota =>
      simp only [step] at stepTo
      split at stepTo
      case h_1 call found =>
          split at stepTo
          case h_1 readsOnly =>
              exact Or.inr (Or.inr (Or.inr (Or.inl ⟨id, call, now, newId, quota, session,
                Or.inl ⟨rfl, readsOnly⟩, (Option.some.inj stepTo).symm⟩)))
          case h_2 op runs =>
              obtain ⟨middle, committed, rfl⟩ := Option.map_eq_some_iff.mp stepTo
              obtain ⟨-, unchanged⟩ := commit_eq_some committed
              refine Or.inr (Or.inr (Or.inr (Or.inl ⟨id, call, now, newId, quota, middle,
                Or.inr ⟨op, runs, committed⟩, ?_⟩)))
              rw [unchanged]
      case h_2 => cases stepTo
  | lose id =>
      simp only [step] at stepTo
      split at stepTo
      case h_1 call found =>
          exact Or.inr (Or.inr (Or.inr (Or.inr (Or.inl ⟨id, call,
            (Option.some.inj stepTo).symm⟩))))
      case h_2 call _ _ found =>
          exact Or.inr (Or.inr (Or.inr (Or.inr (Or.inl ⟨id, call,
            (Option.some.inj stepTo).symm⟩))))
      case h_3 => cases stepTo
  | handle id =>
      simp only [step] at stepTo
      split at stepTo
      case h_1 call response before found =>
          exact Or.inr (Or.inr (Or.inr (Or.inr (Or.inr ⟨id, call, response, before, rfl, found,
            (Option.some.inj stepTo).symm⟩))))
      case h_2 => cases stepTo

theorem known_of_entry {frame : ZoneFrame} {id : Uuid} {zone : GeozoneOut}
    (found : (ZoneEditor.applyEvent session.zones frame).get? id = some zone) :
    session.zones.get? id = some zone ∨ zone.id = id ∧ ZoneEditor.shown frame = some zone := by
  rw [ZoneEditor.get?_applyEvent] at found
  split at found
  case isTrue same =>
      cases frame with
      | created item | updated item =>
          simp only [ZoneEditor.applyToEntry] at found
          split at found
          case h_1 known held =>
              split at found
              case isTrue => exact Or.inl (held.trans found)
              case isFalse =>
                  obtain rfl := Option.some.inj found
                  exact Or.inr ⟨same.symm, rfl⟩
          case h_2 =>
              obtain rfl := Option.some.inj found
              exact Or.inr ⟨same.symm, rfl⟩
      | deleted zoneId => cases found
  case isFalse => exact Or.inl found

theorem UpToDate.step {event : SessionEvent} (upToDate : UpToDate userId session)
    (stepTo : session.step pg settings userId event = some after) : UpToDate userId after := by
  rcases step_cases stepTo with ⟨op, committed⟩ | ⟨index, frame, listed, rfl⟩ |
    ⟨id, call, rfl⟩ | ⟨id, call, now, newId, quota, middle, served, rfl⟩ | ⟨id, call, rfl⟩ |
    ⟨id, call, response, before, rfl, found, rfl⟩
  · exact upToDate.commit committed
  · have onItsWay := List.mem_of_getElem? listed
    refine upToDate.store rfl rfl rfl ?_ ?_ ?_
    · exact fun other remaining => List.mem_of_mem_eraseIdx remaining
    · exact fun _ _ _ _ sameCall => sameCall
    · intro id zone inMap
      refine (known_of_entry inMap).imp_right fun ⟨isKey, shows⟩ => ⟨isKey, ?_, ?_⟩
      · simp [shows]
      · exact Or.inr (Or.inl ⟨frame, onItsWay, shows⟩)
  · refine upToDate.store rfl rfl (List.append_nil _).symm ?_ ?_ ?_
    · exact fun _ listed => listed
    · intro other answeredCall response before found
      rw [Dict.get?_set] at found
      split at found
      case isTrue => cases found
      case isFalse => exact found
    · exact fun _ _ inMap => Or.inl inMap
  · rcases served with ⟨rfl, readsOnly⟩ | ⟨op, runs, committed⟩
    · apply upToDate.answer
      · intro zone carried
        simpa [readsOnly] using current_of_respond pg settings carried
      · rintro zoneId changes version zone rfl response
        exact id_of_patch_response response
    · apply (upToDate.commit committed).answer
      · intro zone carried
        obtain ⟨-, unchanged⟩ := commit_eq_some committed
        rw [unchanged]
        simpa [runs] using current_of_respond pg settings carried
      · rintro zoneId changes version zone rfl response
        exact id_of_patch_response response
  · apply upToDate.answer
    · intro zone carried
      cases carried
    · intro zoneId changes version zone _ impossible
      cases impossible
  · refine upToDate.store rfl rfl rfl ?_ ?_ ?_
    · exact fun _ listed => listed
    · intro other answeredCall otherResponse mark stillAnswered
      dsimp only at stillAnswered
      split at stillAnswered
      case h_1 =>
          rw [Dict.get?_set] at stillAnswered
          split at stillAnswered
          case isTrue => cases stillAnswered
          case isFalse => exact stillAnswered
      case h_2 =>
          exact (Dict.of_get?_erase stillAnswered).2
    · intro zoneId zone inMap
      refine (entry_of_handle inMap).imp_right fun ⟨carried, key⟩ => ⟨?_, carried, ?_⟩
      · rcases key with isKey | ⟨changes, version, rfl, rfl⟩
        · exact isKey
        · exact upToDate.patched id zoneId changes version zone before found
      · exact Or.inr (Or.inr ⟨id, call, response, before, found, carried⟩)

/-- A response that was not overtaken keeps versions from going back, and a
frame always does. -/
theorem version_step {event : SessionEvent} (upToDate : UpToDate userId session)
    (timely : session.NotOvertaken event)
    (stepTo : session.step pg settings userId event = some after) {id : Uuid}
    {old new : GeozoneOut} (inMap : session.zones.get? id = some old)
    (still : after.zones.get? id = some new) : old.version ≤ new.version := by
  have unchanged (same : after.zones = session.zones) : old.version ≤ new.version := by
    rw [same, inMap] at still
    rw [Option.some.inj still]
  rcases step_cases stepTo with ⟨op, committed⟩ | ⟨index, frame, listed, rfl⟩ |
    ⟨callId, call, rfl⟩ | ⟨callId, call, now, newId, quota, middle, served, rfl⟩ |
    ⟨callId, call, rfl⟩ | ⟨callId, call, response, before, rfl, found, rfl⟩
  · obtain ⟨-, rfl⟩ := commit_eq_some committed
    exact unchanged rfl
  · change (ZoneEditor.applyEvent session.zones frame).get? id = some new at still
    rw [ZoneEditor.get?_applyEvent, inMap] at still
    split at still
    case isTrue =>
        cases frame with
        | created item | updated item =>
            simp only [ZoneEditor.applyToEntry] at still
            split at still
            case isTrue => rw [Option.some.inj still]
            case isFalse notNewer =>
                obtain rfl := Option.some.inj still
                omega
        | deleted zoneId => cases still
    case isFalse => rw [Option.some.inj still]
  · exact unchanged rfl
  · rcases served with ⟨rfl, -⟩ | ⟨op, -, committed⟩
    · exact unchanged rfl
    · obtain ⟨-, rfl⟩ := commit_eq_some committed
      exact unchanged rfl
  · exact unchanged rfl
  · rcases entry_of_handle still with same | ⟨carried, key⟩
    · rw [inMap] at same
      rw [Option.some.inj same]
    · have isKey : new.id = id := by
        rcases key with isKey | ⟨changes, version, rfl, rfl⟩
        · exact isKey
        · exact upToDate.patched callId id changes version new before found
      have bound := upToDate.answered callId call response before found new carried old
        (by rw [isKey]; exact inMap)
      rcases bound with behind | handledSince
      · exact behind
      · rw [NotOvertaken, found] at timely
        exact timely new carried old handledSince (by rw [isKey]; exact inMap)

end Invariant

end ZoneSession

/-- The zone is in the map throughout a part of a run. -/
def StaysInMap (pg : Postgis) (settings : StorageSettings) (userId : Uuid) (id : Uuid)
    (middle : ZoneSession) (events : List SessionEvent) : Prop :=
  ∀ earlier later session, events = earlier ++ later →
    Run (ZoneSession.step pg settings userId) ZoneSession.NotOvertaken middle earlier session →
    id ∈ session.zones

/-- As long as no response is overtaken, the stored version of a zone never
goes back while the zone stays in the map. -/
theorem zone_versions_grow (pg : Postgis) (settings : StorageSettings) (userId : Uuid) (db : Db)
    {events more : List SessionEvent} {middle final : ZoneSession}
    (run : Run (ZoneSession.step pg settings userId) ZoneSession.NotOvertaken
      (ZoneSession.start db) events middle)
    (continued : Run (ZoneSession.step pg settings userId) ZoneSession.NotOvertaken
      middle more final)
    {id : Uuid} (stays : StaysInMap pg settings userId id middle more)
    {old new : GeozoneOut} (before : middle.zones.get? id = some old)
    (after : final.zones.get? id = some new) : old.version ≤ new.version := by
  induction continued generalizing new with
  | nil =>
      rw [before] at after
      rw [Option.some.inj after]
  | @snoc shorter previous last event ran timely stepTo ih =>
      have staysEarlier : StaysInMap pg settings userId id middle shorter := by
        rintro earlier later session rfl reached
        exact stays earlier (later ++ [event]) session (by simp) reached
      obtain ⟨between, found⟩ :=
        Dict.mem_iff_exists.mp (stays shorter [event] previous rfl ran)
      have upToDate : previous.UpToDate userId :=
        (run.append ran).invariant (ZoneSession.upToDate_start userId db)
          fun _ _ _ holds _ stepped => holds.step stepped
      exact le_trans (ih staysEarlier found)
        (ZoneSession.version_step upToDate timely stepTo found after)

/-- Staying in the map is checked by executing every part of the run. -/
theorem staysInMap_of_exec {pg : Postgis} {settings : StorageSettings} {userId id : Uuid}
    {middle : ZoneSession} {events : List SessionEvent}
    (checked : ∀ count ≤ events.length,
      (exec (ZoneSession.step pg settings userId) ZoneSession.NotOvertaken middle
        (events.take count)).all (fun session => decide (id ∈ session.zones)) = true) :
    StaysInMap pg settings userId id middle events := by
  rintro earlier later session rfl reached
  have there := checked earlier.length (by simp)
  rw [List.take_left, exec_of_run reached] at there
  simpa using there

/-- A session that has seen a zone being created. -/
def seenCreated : List SessionEvent :=
  [.commit (.create 10 7 1 ⟨"yard", 0, 0, 100, none, true, true, none⟩ 5), .frame 0]

/-- It reloads while another session replaces the zone; the frame comes
last. -/
def timelyReload : List SessionEvent :=
  [.issue 0 .load, .answer 0 0 0 0,
    .commit (.replace 11 7 1 ⟨"gate", 0, 0, 50, none, true, true, none⟩ none), .handle 0, .frame 0]

theorem zone_versions_grow_timelyReload :
    ∃ middle final old new,
      Run (ZoneSession.step .tangentPlane ⟨30, 60⟩ 1) ZoneSession.NotOvertaken
        (ZoneSession.start (Db.fresh (KeySet.add ∅ 1))) seenCreated middle ∧
      Run (ZoneSession.step .tangentPlane ⟨30, 60⟩ 1) ZoneSession.NotOvertaken middle
        timelyReload final ∧
      middle.zones.get? 7 = some old ∧ final.zones.get? 7 = some new ∧ new.version = 2 ∧
      old.version ≤ new.version := by
  obtain ⟨middle, executed, stays, known, continues⟩ : ∃ middle,
      exec (ZoneSession.step .tangentPlane ⟨30, 60⟩ 1) ZoneSession.NotOvertaken
        (ZoneSession.start (Db.fresh (KeySet.add ∅ 1))) seenCreated = some middle ∧
      (∀ count ≤ timelyReload.length,
        (exec (ZoneSession.step .tangentPlane ⟨30, 60⟩ 1) ZoneSession.NotOvertaken middle
          (timelyReload.take count)).all (fun session => decide (7 ∈ session.zones)) = true) ∧
      (middle.zones.get? 7).isSome = true ∧
      (exec (ZoneSession.step .tangentPlane ⟨30, 60⟩ 1) ZoneSession.NotOvertaken middle
        timelyReload).any (fun final => decide ((final.zones.get? 7).any
          (fun zone => zone.version = 2) = true)) = true := by
    apply exists_of_exec
    decide +kernel
  obtain ⟨final, executedLater, found⟩ := exists_of_exec continues
  obtain ⟨old, before⟩ := Option.isSome_iff_exists.mp known
  obtain ⟨new, after, second⟩ := (Option.any_eq_true _ _).mp found
  exact ⟨middle, final, old, new, run_of_exec executed, run_of_exec executedLater, before, after,
    by simpa using second, zone_versions_grow .tangentPlane ⟨30, 60⟩ 1 _ (run_of_exec executed)
      (run_of_exec executedLater) (staysInMap_of_exec stays) before after⟩

/-- The frame of the replacement is handled before the older page. -/
theorem zone_version_goes_back :
    ∃ middle final old new,
      Run (ZoneSession.step .tangentPlane ⟨30, 60⟩ 1) Anything
        (ZoneSession.start (Db.fresh (KeySet.add ∅ 1)))
        (seenCreated ++ [.issue 0 .load, .answer 0 0 0 0,
          .commit (.replace 11 7 1 ⟨"gate", 0, 0, 50, none, true, true, none⟩ none), .frame 0])
        middle ∧
      middle.step .tangentPlane ⟨30, 60⟩ 1 (.handle 0) = some final ∧
      middle.zones.get? 7 = some old ∧ final.zones.get? 7 = some new ∧
      new.version < old.version := by
  obtain ⟨middle, executed, undone⟩ : ∃ middle,
      exec (ZoneSession.step .tangentPlane ⟨30, 60⟩ 1) Anything
        (ZoneSession.start (Db.fresh (KeySet.add ∅ 1)))
        (seenCreated ++ [.issue 0 .load, .answer 0 0 0 0,
          .commit (.replace 11 7 1 ⟨"gate", 0, 0, 50, none, true, true, none⟩ none), .frame 0]) =
        some middle ∧
      ((middle.step .tangentPlane ⟨30, 60⟩ 1 (.handle 0)).any fun final =>
        (middle.zones.get? 7).any fun old => (final.zones.get? 7).any fun new =>
          new.version < old.version) = true := by
    apply exists_of_exec
    decide +kernel
  obtain ⟨final, stepTo, later⟩ := (Option.any_eq_true _ _).mp undone
  obtain ⟨old, before, behind⟩ := (Option.any_eq_true _ _).mp later
  obtain ⟨new, after, older⟩ := (Option.any_eq_true _ _).mp behind
  exact ⟨middle, final, old, new, run_of_exec executed, stepTo, before, after,
    by simpa using older⟩

end GeoTrack
