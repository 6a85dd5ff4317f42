import GeoTrack.AlertBackfill
import GeoTrack.LivePresence
import GeoTrack.ZoneSession

/-!
# A dashboard with its socket open

A dashboard keeps the zones on its map, the pairs of its presence tracker and the
highlighted devices apart.  Alert frames move the pairs and the highlights, zone
frames and the answers to its own removals move the map.  The frames reach it in
the order in which the server produced them; an answer may be handled before or
after any of them.

The highlighted devices are always those of the tracker, whatever is on the map.
-/

namespace GeoTrack

open LabelledRuns

/-- `get deviceIds()`. -/
def PresenceTracker.deviceIds (tracker : PresenceTracker) : KeySet DeviceId :=
  tracker.byDevice.filterMap fun _ _ => some ()

inductive LiveFrame where
  | alert (alert : AlertOut)
  | zone (frame : ZoneFrame)
deriving DecidableEq

/-- The zone a frame is about. -/
def LiveFrame.zoneId : LiveFrame → Option Uuid
  | .alert item => item.zone.id
  | .zone change => some change.zoneId

/-- The parts of the dashboard that alerts and zone frames write. -/
structure Dashboard where
  zones : Dict Uuid GeozoneOut
  presence : PresenceTracker
  highlighted : KeySet DeviceId
  log : AlertLog

namespace Dashboard

def onAlert (dashboard : Dashboard) (alert : AlertOut) : Dashboard :=
  let (log, added) := dashboard.log.add alert
  if added then
    let (presence, changed) := dashboard.presence.applyAlert alert
    { dashboard with
      log := log
      presence := presence
      highlighted := if changed then presence.deviceIds else dashboard.highlighted }
  else
    dashboard

def onZone (dashboard : Dashboard) (frame : ZoneFrame) : Dashboard :=
  { dashboard with zones := ZoneEditor.applyEvent dashboard.zones frame }

def handle (dashboard : Dashboard) : LiveFrame → Dashboard
  | .alert item => dashboard.onAlert item
  | .zone change => dashboard.onZone change

/-- `loadInitialState`: the zones, the presence and the alerts the log misses. -/
def load (pg : Postgis) (db : Db) (userId : Uuid) (dashboard : Dashboard) : Dashboard :=
  let items := Geozones.listForUser db userId zonePageLimit 0
  let snapshot := presenceForUser pg db userId presenceDeviceLimit
  let page := alertPage db userId ⟨none, dashboard.log.lastId, none, none⟩ AlertSession.pageLimit
  let presence := (dashboard.presence.setSnapshot snapshot).backfillAlerts page
  { zones := Dict.setAll ∅ (items.map fun zone => (zone.id, zone))
    presence := presence
    highlighted := presence.deviceIds
    log := (dashboard.log.addMany page.items).1 }

/-- Every linked zone is on the map, and the highlighted devices are those that
are linked to a zone of the map. -/
structure ShowsExisting (dashboard : Dashboard) : Prop where
  linked : ∀ zoneId deviceId,
    deviceId ∈ dashboard.presence.devicesIn zoneId ∨ zoneId ∈ dashboard.presence.zonesOf deviceId →
      zoneId ∈ dashboard.zones
  highlighted : ∀ deviceId, deviceId ∈ dashboard.highlighted ↔
    ∃ zoneId ∈ dashboard.zones, zoneId ∈ dashboard.presence.zonesOf deviceId

end Dashboard

/-- A removal the user asked for, by the step it waits for. -/
inductive Removal where
  | sent (zoneId : Uuid)
  | answered (zoneId : Uuid) (response : ZoneResponse)

/-- The tables, the frames on their way to one dashboard in the order of the
server, the dashboard and its removals in progress. -/
structure LiveSession where
  db : Db
  handedOut : List Uuid
  inbox : List LiveFrame
  dashboard : Dashboard
  removals : Dict CallId Removal

inductive LiveEvent where
  /-- Somebody changes the tables. -/
  | commit (op : Op)
  /-- The next frame is handled. -/
  | frame
  | remove (id : CallId) (zoneId : Uuid)
  | answer (id : CallId)
  /-- The request or its answer is lost. -/
  | lose (id : CallId)
  /-- The answer to a removal is handled. -/
  | settle (id : CallId)

namespace LiveSession

section Steps

variable (pg : Postgis) (settings : StorageSettings) (userId : Uuid)

/-- A dashboard right after its load. -/
def start (db : Db) (dashboard : Dashboard) : LiveSession where
  db := db
  handedOut := db.geozones.keys
  inbox := []
  dashboard := dashboard.load pg db userId
  removals := ∅

/-- What an operation pushes to the sessions of the user. -/
def pushed (db : Db) (op : Op) : List LiveFrame :=
  match op with
  | .batch batch => (batch.told pg settings db userId).map .alert
  | _ => (announced userId db op).toList.map .zone

/-- An operation commits and its frames are pushed. -/
def commit (session : LiveSession) (op : Op) : Option LiveSession :=
  if ∀ newId ∈ op.newZoneId, newId ∉ session.handedOut then
    some { session with
      db := GeoTrack.step pg settings session.db op
      handedOut := session.handedOut ++ op.newZoneId.toList
      inbox := session.inbox ++ pushed pg settings userId session.db op }
  else
    none

def step (session : LiveSession) : LiveEvent → Option LiveSession
  | .commit op => session.commit pg settings userId op
  | .frame =>
      match session.inbox with
      | [] => none
      | frame :: rest =>
          some { session with inbox := rest, dashboard := session.dashboard.handle frame }
  | .remove id zoneId =>
      -- a row of the zone panel, which may be out of date
      if id ∉ session.removals ∧ zoneId ∈ session.handedOut then
        some { session with removals := session.removals.set id (.sent zoneId) }
      else
        none
  | .answer id =>
      match session.removals.get? id with
      | some (.sent zoneId) =>
          -- the clock, the new id and the quota are for creations
          let response := ZoneEditorCall.respond userId 0 0 0 session.db (.remove zoneId)
          (session.commit pg settings userId (.delete zoneId userId none)).map fun after =>
            { after with removals := session.removals.set id (.answered zoneId response) }
      | _ => none
  | .lose id =>
      match session.removals.get? id with
      | some (.sent zoneId) | some (.answered zoneId _) =>
          some { session with removals := session.removals.set id (.answered zoneId (.error 0)) }
      | none => none
  | .settle id =>
      match session.removals.get? id with
      | some (.answered zoneId response) =>
          -- a removal names no version, so no other call follows its answer
          let zones := (ZoneEditor.handle session.dashboard.zones (.remove zoneId) response).1
          some { session with
            dashboard := { session.dashboard with zones := zones }
            removals := session.removals.erase id }
      | _ => none

end Steps

/-- Everything the server sent is handled. -/
def Settled (session : LiveSession) : Prop :=
  session.inbox = [] ∧ session.removals.size = 0

instance (session : LiveSession) : Decidable session.Settled :=
  inferInstanceAs (Decidable (_ ∧ _))

/-- No zone is deleted from the map while a device is linked to it. -/
def LeavesNobody (session : LiveSession) : LiveEvent → Prop
  | .frame =>
      match session.inbox with
      | .zone (.deleted zoneId) :: _ => (session.dashboard.presence.devicesIn zoneId).size = 0
      | _ => True
  | _ => True

instance (session : LiveSession) (event : LiveEvent) : Decidable (session.LeavesNobody event) :=
  match event with
  | .frame =>
      match inbox : session.inbox with
      | .zone (.deleted zoneId) :: _ =>
          decidable_of_iff ((session.dashboard.presence.devicesIn zoneId).size = 0)
            (by rw [LeavesNobody, inbox])
      | [] | .alert _ :: _ | .zone (.created _) :: _ | .zone (.updated _) :: _ =>
          isTrue (by rw [LeavesNobody, inbox]; trivial)
  | .commit _ | .remove _ _ | .answer _ | .lose _ | .settle _ => isTrue trivial

end LiveSession

namespace PresenceTracker

variable {tracker : PresenceTracker}

@[simp]
theorem mem_deviceIds {deviceId : DeviceId} :
    deviceId ∈ tracker.deviceIds ↔ deviceId ∈ tracker.byDevice := by
  rw [deviceIds, Dict.mem_def, Dict.get?_filterMap, Dict.mem_def]
  cases tracker.byDevice.get? deviceId <;> simp

/-- The indexes agree, and only linked devices are listed. -/
structure Tidy (tracker : PresenceTracker) : Prop where
  agree : ∀ zoneId deviceId,
    deviceId ∈ tracker.devicesIn zoneId ↔ zoneId ∈ tracker.zonesOf deviceId
  inhabited : ∀ deviceId ∈ tracker.byDevice, ∃ zoneId, zoneId ∈ tracker.zonesOf deviceId

theorem Tidy.mem_byDevice_iff (tidy : tracker.Tidy) {deviceId : DeviceId} :
    deviceId ∈ tracker.byDevice ↔ ∃ zoneId, zoneId ∈ tracker.zonesOf deviceId := by
  refine ⟨tidy.inhabited deviceId, ?_⟩
  rintro ⟨zoneId, linked⟩
  by_contra unknown
  rw [zonesOf, Dict.not_mem_iff.mp unknown] at linked
  exact KeySet.not_mem_empty zoneId linked

theorem Tidy.links (tidy : tracker.Tidy) :
    tracker.Links fun zoneId deviceId => zoneId ∈ tracker.zonesOf deviceId := by
  intro zoneId deviceId
  exact ⟨tidy.agree zoneId deviceId, Iff.rfl⟩

theorem Links.agree {pairs : Uuid → DeviceId → Prop} (links : tracker.Links pairs)
    (zoneId : Uuid) (deviceId : DeviceId) :
    deviceId ∈ tracker.devicesIn zoneId ↔ zoneId ∈ tracker.zonesOf deviceId :=
  (links zoneId deviceId).1.trans (links zoneId deviceId).2.symm

theorem tidy_clear : tracker.clear.Tidy where
  agree := by simp [clear, devicesIn, zonesOf]
  inhabited := by simp [clear, Dict.mem_def]

theorem mem_byDevice_link (zoneId : Uuid) (deviceId other : DeviceId) :
    other ∈ (tracker.link zoneId deviceId).1.byDevice ↔
      other = deviceId ∨ other ∈ tracker.byDevice := by
  unfold link
  cases tracker.byDevice.get? deviceId <;> exact Dict.mem_set

theorem Tidy.link (tidy : tracker.Tidy) (zoneId : Uuid) (deviceId : DeviceId) :
    (tracker.link zoneId deviceId).1.Tidy where
  agree := (tidy.links.link zoneId deviceId).agree
  inhabited := by
    intro other listed
    rcases (mem_byDevice_link zoneId deviceId other).mp listed with rfl | known
    · exact ⟨zoneId, (mem_zonesOf_link ..).mpr (Or.inl ⟨rfl, rfl⟩)⟩
    · obtain ⟨zone, linked⟩ := tidy.inhabited other known
      exact ⟨zone, (mem_zonesOf_link ..).mpr (Or.inr linked)⟩

/-- What `unlink` does to the index by device: nothing, one zone less of several,
or the device goes with its last zone. -/
theorem unlink_cases (zoneId : Uuid) (deviceId : DeviceId) :
    ((tracker.unlink zoneId deviceId).1.byDevice = tracker.byDevice ∧
        (tracker.unlink zoneId deviceId).2 = false) ∨
      (∃ zones, tracker.byDevice.get? deviceId = some zones ∧
        (∃ zone, zone ∈ zones.discard zoneId) ∧
        (tracker.unlink zoneId deviceId).1.byDevice =
          tracker.byDevice.set deviceId (zones.discard zoneId) ∧
        (tracker.unlink zoneId deviceId).2 = false) ∨
      (deviceId ∈ tracker.byDevice ∧
        (tracker.unlink zoneId deviceId).1.byDevice = tracker.byDevice.erase deviceId ∧
        (tracker.unlink zoneId deviceId).2 = true) := by
  unfold unlink
  cases known : tracker.byDevice.get? deviceId with
  | none => exact Or.inl ⟨rfl, rfl⟩
  | some zones =>
      by_cases listed : zoneId ∈ zones
      · by_cases last : (zones.discard zoneId).entries = []
        · refine Or.inr (Or.inr ⟨Dict.mem_iff_exists.mpr ⟨zones, known⟩, ?_⟩)
          simp [listed, last]
        · obtain ⟨entry, isEntry⟩ := List.exists_mem_of_ne_nil _ last
          have remains : entry.1 ∈ zones.discard zoneId :=
            Dict.mem_keys_iff.mp (List.mem_map_of_mem isEntry)
          refine Or.inr (Or.inl ⟨zones, rfl, ⟨entry.1, remains⟩, ?_⟩)
          simp [listed, last]
      · simp [listed]

theorem Tidy.unlink (tidy : tracker.Tidy) (zoneId : Uuid) (deviceId : DeviceId) :
    (tracker.unlink zoneId deviceId).1.Tidy where
  agree := (tidy.links.unlink zoneId deviceId).agree
  inhabited := by
    intro other listed
    rcases tracker.unlink_cases zoneId deviceId with
      ⟨same, -⟩ | ⟨zones, known, ⟨zone, remains⟩, smaller, -⟩ | ⟨-, gone, -⟩
    · rw [same] at listed
      simpa only [zonesOf, same] using tidy.inhabited other listed
    · by_cases isDevice : other = deviceId
      · exact ⟨zone, by simpa [zonesOf, smaller, isDevice] using remains⟩
      · rw [smaller, Dict.mem_set] at listed
        simpa [zonesOf, smaller, isDevice] using
          tidy.inhabited other (listed.resolve_left isDevice)
    · rw [gone, Dict.mem_erase] at listed
      simpa [zonesOf, gone, listed.1] using tidy.inhabited other listed.2

theorem Tidy.applyAlert (tidy : tracker.Tidy) (alert : AlertOut) :
    (tracker.applyAlert alert).1.Tidy := by
  unfold PresenceTracker.applyAlert
  split
  · exact tidy
  · split
    · exact tidy.unlink _ _
    · exact tidy.link _ _

/-- A device goes from the list exactly when `unlink` says so. -/
theorem mem_byDevice_unlink (zoneId : Uuid) (deviceId other : DeviceId) :
    other ∈ (tracker.unlink zoneId deviceId).1.byDevice ↔
      other ∈ tracker.byDevice ∧
        ¬ (other = deviceId ∧ (tracker.unlink zoneId deviceId).2 = true) := by
  rcases tracker.unlink_cases zoneId deviceId with
    ⟨same, stays⟩ | ⟨zones, known, -, smaller, stays⟩ | ⟨-, gone, goes⟩
  · rw [same, stays]
    simp
  · rw [smaller, stays, Dict.mem_set, or_iff_right_of_imp]
    · simp
    · rintro rfl
      exact Dict.mem_iff_exists.mpr ⟨zones, known⟩
  · rw [gone, goes, Dict.mem_erase]
    simp [and_comm]

theorem mem_byDevice_of_unlink {zoneId : Uuid} {deviceId : DeviceId}
    (goes : (tracker.unlink zoneId deviceId).2 = true) : deviceId ∈ tracker.byDevice := by
  rcases tracker.unlink_cases zoneId deviceId with ⟨-, stays⟩ | ⟨-, -, -, -, stays⟩ | ⟨known, -⟩
  · rw [stays] at goes
    cases goes
  · rw [stays] at goes
    cases goes
  · exact known

/-- `link` says whether the device was not on the list. -/
theorem link_snd_iff (zoneId : Uuid) (deviceId : DeviceId) :
    (tracker.link zoneId deviceId).2 = true ↔ deviceId ∉ tracker.byDevice := by
  unfold link
  cases known : tracker.byDevice.get? deviceId with
  | none => simp [Dict.not_mem_iff, known]
  | some zones => simp [Dict.not_mem_iff, known]

/-- `applyAlert` says whether the listed devices changed. -/
theorem applyAlert_snd_iff (alert : AlertOut) :
    (tracker.applyAlert alert).2 = true ↔
      ¬ ∀ deviceId, deviceId ∈ (tracker.applyAlert alert).1.byDevice ↔
        deviceId ∈ tracker.byDevice := by
  unfold PresenceTracker.applyAlert
  cases alert.zone.id with
  | none => simp
  | some zoneId =>
      by_cases leaves : alert.kind = .exit
      · simp only [if_pos leaves, mem_byDevice_unlink]
        constructor
        · intro goes same
          exact ((same alert.deviceId).mpr (mem_byDevice_of_unlink goes)).2 ⟨rfl, goes⟩
        · intro changed
          by_contra stays
          exact changed fun deviceId => and_iff_left fun gone => stays gone.2
      · simp only [if_neg leaves, mem_byDevice_link, link_snd_iff]
        constructor
        · intro new same
          exact new ((same alert.deviceId).mp (Or.inl rfl))
        · intro changed known
          exact changed fun deviceId => or_iff_right_of_imp fun same => same ▸ known

/-- Unless `applyAlert` says so, the listed devices stay the same. -/
theorem mem_byDevice_applyAlert {alert : AlertOut}
    (unchanged : (tracker.applyAlert alert).2 = false) (deviceId : DeviceId) :
    deviceId ∈ (tracker.applyAlert alert).1.byDevice ↔ deviceId ∈ tracker.byDevice := by
  have same := (applyAlert_snd_iff alert).not.mp (Bool.eq_false_iff.mp unchanged)
  exact not_not.mp same deviceId

theorem tidy_setSnapshot (tracker : PresenceTracker) (zones : List (Uuid × List DeviceId)) :
    (tracker.setSnapshot zones).Tidy := by
  apply List.foldlRecOn (motive := Tidy)
  · exact tidy_clear
  · intro current tidy zone _
    apply List.foldlRecOn (motive := Tidy)
    · exact tidy
    · intro inner innerTidy deviceId _
      exact innerTidy.link zone.1 deviceId

theorem Tidy.backfillAlerts (tidy : tracker.Tidy) (page : AlertPage) :
    (tracker.backfillAlerts page).Tidy := by
  apply List.foldlRecOn (motive := Tidy)
  · exact tidy
  · intro current currentTidy alert _
    exact currentTidy.applyAlert alert

end PresenceTracker

namespace Dashboard

variable {dashboard : Dashboard} {alert : AlertOut} {zoneId : Uuid}

/-- Some device is linked to the zone. -/
def Linked (dashboard : Dashboard) (zoneId : Uuid) : Prop :=
  ∃ deviceId, zoneId ∈ dashboard.presence.zonesOf deviceId

/-- The highlighted devices are those of the tracker. -/
structure Lit (dashboard : Dashboard) : Prop where
  tidy : dashboard.presence.Tidy
  same : ∀ deviceId,
    deviceId ∈ dashboard.highlighted ↔ deviceId ∈ dashboard.presence.byDevice

theorem Lit.showsExisting_iff (lit : dashboard.Lit) :
    dashboard.ShowsExisting ↔ ∀ zoneId, dashboard.Linked zoneId → zoneId ∈ dashboard.zones := by
  constructor
  · rintro shows zoneId ⟨deviceId, linked⟩
    exact shows.linked zoneId deviceId (Or.inr linked)
  · intro onMap
    constructor
    · rintro zoneId deviceId (linked | linked)
      · exact onMap zoneId ⟨deviceId, (lit.tidy.agree zoneId deviceId).mp linked⟩
      · exact onMap zoneId ⟨deviceId, linked⟩
    · intro deviceId
      rw [lit.same, lit.tidy.mem_byDevice_iff]
      constructor
      · rintro ⟨zoneId, linked⟩
        exact ⟨zoneId, onMap zoneId ⟨deviceId, linked⟩, linked⟩
      · rintro ⟨zoneId, -, linked⟩
        exact ⟨zoneId, linked⟩

theorem Lit.linked_iff (lit : dashboard.Lit) :
    dashboard.Linked zoneId ↔ (dashboard.presence.devicesIn zoneId).size ≠ 0 := by
  rw [← Dict.length_keys, Ne, List.length_eq_zero_iff, List.eq_nil_iff_forall_not_mem, not_forall]
  apply exists_congr
  intro deviceId
  rw [not_not, Dict.mem_keys_iff, lit.tidy.agree]

/-- An alert is ignored or moves the tracker and, where needed, the highlights. -/
theorem onAlert_cases (dashboard : Dashboard) (alert : AlertOut) :
    dashboard.onAlert alert = dashboard ∨
      dashboard.onAlert alert =
        { dashboard with
          log := (dashboard.log.add alert).1
          presence := (dashboard.presence.applyAlert alert).1
          highlighted := if (dashboard.presence.applyAlert alert).2 then
              (dashboard.presence.applyAlert alert).1.deviceIds
            else dashboard.highlighted } := by
  unfold onAlert
  cases added : (dashboard.log.add alert).2 with
  | false => exact Or.inl (if_neg (Bool.eq_false_iff.mp added))
  | true => exact Or.inr (if_pos added)

@[simp]
theorem zones_onAlert : (dashboard.onAlert alert).zones = dashboard.zones := by
  rcases dashboard.onAlert_cases alert with same | moved
  · rw [same]
  · rw [moved]

theorem Lit.onAlert (lit : dashboard.Lit) : (dashboard.onAlert alert).Lit := by
  rcases dashboard.onAlert_cases alert with same | moved
  · rw [same]
    exact lit
  · rw [moved]
    refine ⟨lit.tidy.applyAlert alert, ?_⟩
    intro deviceId
    dsimp only
    cases changed : (dashboard.presence.applyAlert alert).2 with
    | false =>
        rw [PresenceTracker.mem_byDevice_applyAlert changed, ← lit.same]
        rfl
    | true => exact PresenceTracker.mem_deviceIds

/-- An alert about another zone leaves the links of this one. -/
theorem Lit.linked_onAlert (lit : dashboard.Lit) (other : alert.zone.id ≠ some zoneId) :
    (dashboard.onAlert alert).Linked zoneId ↔ dashboard.Linked zoneId := by
  rcases dashboard.onAlert_cases alert with same | moved
  · rw [same]
  · rw [moved]
    apply exists_congr
    intro deviceId
    have links := (lit.tidy.links.applyAlert alert zoneId deviceId).2
    simpa only [other, false_and, if_false] using links

/-- What a frame does to the map. -/
theorem mem_onZone {frame : ZoneFrame} :
    zoneId ∈ (dashboard.onZone frame).zones ↔
      if zoneId = frame.zoneId then frame ≠ .deleted zoneId else zoneId ∈ dashboard.zones := by
  rw [onZone, Dict.mem_def, ZoneEditor.get?_applyEvent]
  by_cases same : zoneId = frame.zoneId
  · rw [if_pos same, if_pos same]
    cases frame with
    | created zone | updated zone =>
        simp only [ZoneEditor.applyToEntry]
        split
        · split <;> simp
        · simp
    | deleted gone =>
        obtain rfl : zoneId = gone := same
        simp [ZoneEditor.applyToEntry]
  · rw [if_neg same, if_neg same, ← Dict.mem_def]

theorem Lit.handle (lit : dashboard.Lit) (frame : LiveFrame) : (dashboard.handle frame).Lit := by
  cases frame with
  | alert item => exact lit.onAlert
  | zone change => exact ⟨lit.tidy, lit.same⟩

/-- A frame about another zone leaves this one on or off the map. -/
theorem mem_handle_of_ne {frame : LiveFrame} (other : frame.zoneId ≠ some zoneId) :
    zoneId ∈ (dashboard.handle frame).zones ↔ zoneId ∈ dashboard.zones := by
  cases frame with
  | alert item => rw [handle, zones_onAlert]
  | zone change =>
      have different : zoneId ≠ change.zoneId := fun same => other (congrArg some same.symm)
      rw [handle, mem_onZone, if_neg different]

theorem Lit.linked_handle_of_ne (lit : dashboard.Lit) {frame : LiveFrame}
    (other : frame.zoneId ≠ some zoneId) :
    (dashboard.handle frame).Linked zoneId ↔ dashboard.Linked zoneId := by
  cases frame with
  | alert item => exact lit.linked_onAlert other
  | zone change => rfl

end Dashboard

end GeoTrack
