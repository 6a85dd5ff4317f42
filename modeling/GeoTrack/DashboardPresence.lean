import GeoTrack.AlertHistory

/-!
# Presence on the dashboard

The dashboard seeds its presence from the server's table and then applies a page
of alerts to it.  The page comes newest first and is applied in that order, so
what stands in the end for a pair of zone and device is the oldest alert of the
page about it.
-/

namespace GeoTrack

structure AlertZoneRef where
  id : Option Uuid
  name : String
deriving DecidableEq

structure AlertOut where
  id : ℕ
  kind : AlertKind
  zone : AlertZoneRef
  deviceId : DeviceId
  latitude : ℚ
  longitude : ℚ
  occurredAt : ℤ
  createdAt : ℤ
deriving DecidableEq

structure AlertPage where
  items : List AlertOut
  nextBeforeId : Option ℕ
deriving DecidableEq

/-- The optional filters of the alert feed. -/
structure AlertFilter where
  beforeId : Option ℕ
  afterId : Option ℕ
  zoneId : Option Uuid
  deviceId : Option DeviceId

def AlertFilter.admits (filter : AlertFilter) (alert : AlertRow) : Bool :=
  filter.beforeId.all (fun id => alert.id < id) && filter.afterId.all (fun id => id < alert.id) &&
    filter.zoneId.all (fun id => alert.zoneId = some id) &&
    filter.deviceId.all (fun id => alert.deviceId = id)

def AlertRow.out (alert : AlertRow) : AlertOut where
  id := alert.id
  kind := alert.kind
  zone := ⟨alert.zoneId, alert.zoneName⟩
  deviceId := alert.deviceId
  latitude := alert.position.latitude
  longitude := alert.position.longitude
  occurredAt := alert.occurredAt
  createdAt := alert.createdAt

/-- One page of the alert feed, newest first. -/
def alertPage (db : Db) (userId : Uuid) (filter : AlertFilter) (limit : ℕ) : AlertPage :=
  let rows := ((db.alerts.filter fun alert => alert.userId = userId && filter.admits alert)
    |>.insertionSort fun first second => second.id ≤ first.id).take limit
  let items := rows.map AlertRow.out
  { items := items
    nextBeforeId := if items.length = limit then items.getLast?.map AlertOut.id else none }

/-- Every zone of the user with the devices inside it, capped as a whole. -/
def presenceForUser (pg : Postgis) (db : Db) (userId : Uuid) (maxDevices : ℕ) :
    List (Uuid × List DeviceId) :=
  let owned := (db.geozones.entries.filter fun entry => entry.2.userId = userId).map Prod.fst
  let inside := ((db.zonePresence.keys.filter fun key => key.1 ∈ owned).insertionSort
    fun first second => first.1 < second.1 ∨
      first.1 = second.1 ∧ pg.deviceOrder first.2 second.2 = true).take maxDevices
  (owned.insertionSort (· ≤ ·)).map fun zoneId =>
    (zoneId, (inside.filter fun key => key.1 = zoneId).map Prod.snd)

/-- Which devices are inside which zones, by zone and by device. -/
structure PresenceTracker where
  byZone : Dict Uuid (KeySet DeviceId)
  byDevice : Dict DeviceId (KeySet Uuid)

namespace PresenceTracker

def clear (_ : PresenceTracker) : PresenceTracker := ⟨∅, ∅⟩

def devicesIn (tracker : PresenceTracker) (zoneId : Uuid) : KeySet DeviceId :=
  (tracker.byZone.get? zoneId).getD ∅

def zonesOf (tracker : PresenceTracker) (deviceId : DeviceId) : KeySet Uuid :=
  (tracker.byDevice.get? deviceId).getD ∅

/-- Also says whether the set of highlighted devices changed: only the first
zone a device enters does that. -/
def link (tracker : PresenceTracker) (zoneId : Uuid) (deviceId : DeviceId) :
    PresenceTracker × Bool :=
  let byZone := tracker.byZone.set zoneId ((tracker.devicesIn zoneId).add deviceId)
  match tracker.byDevice.get? deviceId with
  | some zones => (⟨byZone, tracker.byDevice.set deviceId (zones.add zoneId)⟩, false)
  | none => (⟨byZone, tracker.byDevice.set deviceId (KeySet.add ∅ zoneId)⟩, true)

/-- `#byZone.get(zoneId)?.delete(deviceId)`. -/
def leaveZone (tracker : PresenceTracker) (zoneId : Uuid) (deviceId : DeviceId) :
    Dict Uuid (KeySet DeviceId) :=
  match tracker.byZone.get? zoneId with
  | some devices => tracker.byZone.set zoneId (devices.discard deviceId)
  | none => tracker.byZone

def unlink (tracker : PresenceTracker) (zoneId : Uuid) (deviceId : DeviceId) :
    PresenceTracker × Bool :=
  match tracker.byDevice.get? deviceId with
  | none => (⟨tracker.leaveZone zoneId deviceId, tracker.byDevice⟩, false)
  | some zones =>
      if zoneId ∉ zones then
        (⟨tracker.leaveZone zoneId deviceId, tracker.byDevice⟩, false)
      else if (zones.discard zoneId).entries ≠ [] then
        (⟨tracker.leaveZone zoneId deviceId,
          tracker.byDevice.set deviceId (zones.discard zoneId)⟩, false)
      else
        (⟨tracker.leaveZone zoneId deviceId, tracker.byDevice.erase deviceId⟩, true)

def setSnapshot (tracker : PresenceTracker) (zones : List (Uuid × List DeviceId)) :
    PresenceTracker :=
  zones.foldl (fun current zone =>
    zone.2.foldl (fun inner deviceId => (inner.link zone.1 deviceId).1) current) tracker.clear

def applyAlert (tracker : PresenceTracker) (alert : AlertOut) : PresenceTracker × Bool :=
  match alert.zone.id with
  | none => (tracker, false)
  | some zoneId =>
      if alert.kind = .exit then tracker.unlink zoneId alert.deviceId
      else tracker.link zoneId alert.deviceId

/-- Apply a page of alerts in the order of the page. -/
def backfillAlerts (tracker : PresenceTracker) (page : AlertPage) : PresenceTracker :=
  page.items.foldl (fun current alert => (current.applyAlert alert).1) tracker

/-- Both indexes hold exactly these pairs. -/
def Links (tracker : PresenceTracker) (pairs : Uuid → DeviceId → Prop) : Prop :=
  ∀ zoneId deviceId,
    (deviceId ∈ tracker.devicesIn zoneId ↔ pairs zoneId deviceId) ∧
      (zoneId ∈ tracker.zonesOf deviceId ↔ pairs zoneId deviceId)

variable {tracker : PresenceTracker} {pairs others : Uuid → DeviceId → Prop}

theorem Links.iff_forall (links : tracker.Links pairs) :
    tracker.Links others ↔ ∀ zoneId deviceId, pairs zoneId deviceId ↔ others zoneId deviceId := by
  constructor
  · intro too zoneId deviceId
    rw [← (links zoneId deviceId).1, (too zoneId deviceId).1]
  · intro same zoneId deviceId
    rw [(links zoneId deviceId).1, (links zoneId deviceId).2, same zoneId deviceId]
    exact ⟨Iff.rfl, Iff.rfl⟩

theorem mem_devicesIn_link (zoneId other : Uuid) (deviceId device : DeviceId) :
    device ∈ (tracker.link zoneId deviceId).1.devicesIn other ↔
      other = zoneId ∧ device = deviceId ∨ device ∈ tracker.devicesIn other := by
  have byZone : (tracker.link zoneId deviceId).1.byZone =
      tracker.byZone.set zoneId ((tracker.devicesIn zoneId).add deviceId) := by
    unfold link
    split <;> rfl
  rw [devicesIn, byZone, Dict.get?_set]
  by_cases same : other = zoneId
  · subst same
    simp [devicesIn]
  · simp [same, devicesIn]

theorem mem_zonesOf_link (zoneId zone : Uuid) (deviceId other : DeviceId) :
    zone ∈ (tracker.link zoneId deviceId).1.zonesOf other ↔
      zone = zoneId ∧ other = deviceId ∨ zone ∈ tracker.zonesOf other := by
  unfold link zonesOf
  cases known : tracker.byDevice.get? deviceId with
  | none =>
      by_cases same : other = deviceId
      · subst same
        simp [known]
      · simp [same]
  | some zones =>
      by_cases same : other = deviceId
      · subst same
        simp [known]
      · simp [same]

theorem mem_devicesIn_unlink (zoneId other : Uuid) (deviceId device : DeviceId) :
    device ∈ (tracker.unlink zoneId deviceId).1.devicesIn other ↔
      ¬ (other = zoneId ∧ device = deviceId) ∧ device ∈ tracker.devicesIn other := by
  have byZone : (tracker.unlink zoneId deviceId).1.byZone = tracker.leaveZone zoneId deviceId := by
    unfold unlink
    split
    · rfl
    · split
      · rfl
      · split <;> rfl
  rw [devicesIn, byZone, devicesIn, leaveZone]
  cases known : tracker.byZone.get? zoneId with
  | none =>
      by_cases same : other = zoneId
      · subst same
        simp [known]
      · simp [same]
  | some devices =>
      by_cases same : other = zoneId
      · subst same
        simp [known]
      · simp [same]

theorem mem_zonesOf_unlink (zoneId zone : Uuid) (deviceId other : DeviceId) :
    zone ∈ (tracker.unlink zoneId deviceId).1.zonesOf other ↔
      ¬ (zone = zoneId ∧ other = deviceId) ∧ zone ∈ tracker.zonesOf other := by
  unfold unlink zonesOf
  cases known : tracker.byDevice.get? deviceId with
  | none =>
      by_cases same : other = deviceId
      · subst same
        simp [known]
      · simp [same]
  | some zones =>
      by_cases same : other = deviceId
      · subst same
        by_cases listed : zoneId ∈ zones
        · by_cases last : (zones.discard zoneId).entries = []
          · have nobody : ∀ zone, zone ∉ zones.discard zoneId := by
              intro zone isMember
              rw [← Dict.mem_keys_iff, Dict.keys, last] at isMember
              cases isMember
            have onlyOne : ∀ zone ∈ zones, zone = zoneId := by
              intro zone isMember
              by_contra different
              exact nobody zone (KeySet.mem_discard.mpr ⟨different, isMember⟩)
            simp [listed, last, known, KeySet.not_mem_empty]
            exact fun different isMember => different (onlyOne zone isMember)
          · simp [listed, last, known]
        · simp [listed, known]
          rintro isMember rfl
          exact listed isMember
      · by_cases listed : zoneId ∈ zones
        · by_cases last : (zones.discard zoneId).entries = []
          · simp [listed, last, same]
          · simp [listed, last, same]
        · simp [listed, same]

theorem Links.link (links : tracker.Links pairs) (zoneId : Uuid) (deviceId : DeviceId) :
    (tracker.link zoneId deviceId).1.Links fun zone device =>
      zone = zoneId ∧ device = deviceId ∨ pairs zone device := by
  intro zone device
  rw [mem_devicesIn_link, mem_zonesOf_link, (links zone device).1, (links zone device).2]
  exact ⟨Iff.rfl, Iff.rfl⟩

theorem Links.unlink (links : tracker.Links pairs) (zoneId : Uuid) (deviceId : DeviceId) :
    (tracker.unlink zoneId deviceId).1.Links fun zone device =>
      ¬ (zone = zoneId ∧ device = deviceId) ∧ pairs zone device := by
  intro zone device
  rw [mem_devicesIn_unlink, mem_zonesOf_unlink, (links zone device).1, (links zone device).2]
  exact ⟨Iff.rfl, Iff.rfl⟩

theorem Links.congr (links : tracker.Links pairs)
    (same : ∀ zoneId deviceId, pairs zoneId deviceId ↔ others zoneId deviceId) :
    tracker.Links others :=
  links.iff_forall.mpr same

theorem Links.linkAll (links : tracker.Links pairs) (zoneId : Uuid) (devices : List DeviceId) :
    (devices.foldl (fun inner deviceId => (inner.link zoneId deviceId).1) tracker).Links
      fun zone device => zone = zoneId ∧ device ∈ devices ∨ pairs zone device := by
  induction devices generalizing tracker pairs with
  | nil => exact links.congr (by simp)
  | cons first rest ih =>
      refine (ih (links.link zoneId first)).congr ?_
      intro zone device
      rw [List.mem_cons]
      tauto

theorem Links.linkZones (links : tracker.Links pairs) (zones : List (Uuid × List DeviceId)) :
    (zones.foldl (fun current zone =>
      zone.2.foldl (fun inner deviceId => (inner.link zone.1 deviceId).1) current) tracker).Links
      fun zoneId deviceId =>
        (∃ devices, (zoneId, devices) ∈ zones ∧ deviceId ∈ devices) ∨ pairs zoneId deviceId := by
  induction zones generalizing tracker pairs with
  | nil => exact links.congr (by simp)
  | cons first rest ih =>
      refine (ih (links.linkAll first.1 first.2)).congr ?_
      intro zoneId deviceId
      constructor
      · rintro (⟨devices, listed, inside⟩ | ⟨rfl, inside⟩ | before)
        · exact Or.inl ⟨devices, List.mem_cons_of_mem _ listed, inside⟩
        · exact Or.inl ⟨first.2, List.mem_cons_self .., inside⟩
        · exact Or.inr before
      · rintro (⟨devices, listed, inside⟩ | before)
        · rcases List.mem_cons.mp listed with rfl | later
          · exact Or.inr (Or.inl ⟨rfl, inside⟩)
          · exact Or.inl ⟨devices, later, inside⟩
        · exact Or.inr (Or.inr before)

theorem links_setSnapshot (tracker : PresenceTracker) (zones : List (Uuid × List DeviceId)) :
    (tracker.setSnapshot zones).Links
      fun zoneId deviceId => ∃ devices, (zoneId, devices) ∈ zones ∧ deviceId ∈ devices := by
  have cleared : tracker.clear.Links fun _ _ => False := by
    intro zoneId deviceId
    simp [clear, devicesIn, zonesOf]
  refine (cleared.linkZones zones).congr ?_
  simp

end PresenceTracker

/-- The alerts of a page about one zone and device, in the order of the page. -/
def AlertPage.about (page : AlertPage) (zoneId : Uuid) (deviceId : DeviceId) : List AlertOut :=
  page.items.filter fun alert => alert.zone.id = some zoneId ∧ alert.deviceId = deviceId

namespace PresenceTracker

variable {tracker : PresenceTracker} {pairs : Uuid → DeviceId → Prop}

/-- What the last of some alerts about a pair says of it, if there is one. -/
def Verdict (alerts : List AlertOut) (before : Prop) : Prop :=
  match alerts.getLast? with
  | some alert => alert.kind ≠ .exit
  | none => before

theorem Links.applyAlert (links : tracker.Links pairs) (alert : AlertOut) :
    (tracker.applyAlert alert).1.Links fun zoneId deviceId =>
      if alert.zone.id = some zoneId ∧ alert.deviceId = deviceId then alert.kind ≠ .exit
      else pairs zoneId deviceId := by
  unfold PresenceTracker.applyAlert
  cases about : alert.zone.id with
  | none => simpa using links
  | some subject =>
      simp only [Option.some.injEq]
      by_cases leaves : alert.kind = .exit
      · rw [if_pos leaves]
        refine (links.unlink subject alert.deviceId).congr ?_
        intro zoneId deviceId
        by_cases same : subject = zoneId ∧ alert.deviceId = deviceId
        · simp [same.1, same.2, leaves]
        · have different : ¬ (zoneId = subject ∧ deviceId = alert.deviceId) := fun equal =>
            same ⟨equal.1.symm, equal.2.symm⟩
          simp [same, different]
      · rw [if_neg leaves]
        refine (links.link subject alert.deviceId).congr ?_
        intro zoneId deviceId
        by_cases same : subject = zoneId ∧ alert.deviceId = deviceId
        · simp [same.1, same.2, leaves]
        · have different : ¬ (zoneId = subject ∧ deviceId = alert.deviceId) := fun equal =>
            same ⟨equal.1.symm, equal.2.symm⟩
          simp [same, different]

/-- The last alert about a pair in the order of the page has the last word. -/
theorem Links.backfillAlerts (links : tracker.Links pairs) (page : AlertPage) :
    (tracker.backfillAlerts page).Links fun zoneId deviceId =>
      Verdict (page.about zoneId deviceId) (pairs zoneId deviceId) := by
  obtain ⟨items, nextBeforeId⟩ := page
  simp only [PresenceTracker.backfillAlerts, AlertPage.about]
  induction items using List.reverseRecOn with
  | nil => simpa [Verdict] using links
  | append_singleton items alert ih =>
      rw [List.foldl_concat]
      refine (ih.applyAlert alert).congr ?_
      intro zoneId deviceId
      by_cases about : alert.zone.id = some zoneId ∧ alert.deviceId = deviceId
      · simp [Verdict, about]
      · simp [Verdict, about]

end PresenceTracker

/-- After the load or the reload the tracker links exactly the pairs of the
snapshot, when and only when the last alert of the page about each pair, which
is the oldest one, agrees with the snapshot. -/
theorem reload_links_snapshot_iff (pg : Postgis) (presenceDb alertDb : Db) (userId : Uuid)
    (maxDevices : ℕ) (lastId : Option ℕ) (tracker : PresenceTracker) :
    let zones := presenceForUser pg presenceDb userId maxDevices
    let page := alertPage alertDb userId ⟨none, lastId, none, none⟩ 200
    let inSnapshot := fun zoneId deviceId =>
      ∃ devices, (zoneId, devices) ∈ zones ∧ deviceId ∈ devices
    ((tracker.setSnapshot zones).backfillAlerts page).Links inSnapshot ↔
      ∀ zoneId deviceId, ∀ oldest ∈ (page.about zoneId deviceId).getLast?,
        (oldest.kind = .exit ↔ ¬ inSnapshot zoneId deviceId) := by
  intro zones page inSnapshot
  have links := (PresenceTracker.links_setSnapshot tracker zones).backfillAlerts page
  rw [links.iff_forall]
  apply forall_congr'
  intro zoneId
  apply forall_congr'
  intro deviceId
  change (PresenceTracker.Verdict (page.about zoneId deviceId) (inSnapshot zoneId deviceId) ↔
    inSnapshot zoneId deviceId) ↔ _
  unfold PresenceTracker.Verdict
  cases (page.about zoneId deviceId).getLast? with
  | none => simp
  | some oldest =>
      simp only [Option.mem_def, Option.some.injEq, forall_eq']
      exact not_iff_comm.trans iff_comm

/-- A truck that came and went is linked again by the reload. -/
theorem reload_revives_visit :
    let db := run .tangentPlane ⟨30, 60⟩ (Db.fresh (KeySet.add ∅ 1)) roundTrip
    let zones := presenceForUser .tangentPlane db 1 10000
    let page := alertPage db 1 ⟨none, none, none, none⟩ 200
    let tracker := (PresenceTracker.setSnapshot ⟨∅, ∅⟩ zones).backfillAlerts page
    zones = [(7, [])] ∧ page.items.map AlertOut.kind = [.exit, .dwell, .enter] ∧
      "truck" ∈ tracker.devicesIn 7 ∧
      ¬ tracker.Links fun zoneId deviceId =>
        ∃ devices, (zoneId, devices) ∈ zones ∧ deviceId ∈ devices := by
  intro db zones page tracker
  have empty : zones = [(7, [])] := by decide +kernel
  have linked : "truck" ∈ tracker.devicesIn 7 := by decide +kernel
  refine ⟨empty, by decide +kernel, linked, ?_⟩
  intro links
  obtain ⟨devices, listed, inside⟩ := (links 7 "truck").1.mp linked
  rw [empty, List.mem_singleton, Prod.mk.injEq] at listed
  rw [listed.2] at inside
  cases inside

end GeoTrack
