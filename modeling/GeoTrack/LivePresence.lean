import GeoTrack.DashboardPresence
import GeoTrack.LabelledRuns

/-!
# Presence kept current by alerts

The dashboard loads the presence of the user's zones once and from then on
moves its pairs by the alerts that are pushed to it.  The server's table moves
with every accepted report, but an alert is only raised where the zone's owner
asked for one, so a crossing that nobody asked to hear about moves the table and
not the dashboard.
-/

namespace GeoTrack

open LabelledRuns

/-- `PRESENCE_DEVICE_LIMIT`. -/
def presenceDeviceLimit : ℕ := 20000

namespace Db

/-- The device is listed in a zone of this user. -/
def InsideOwned (db : Db) (userId zoneId : Uuid) (deviceId : DeviceId) : Prop :=
  (zoneId, deviceId) ∈ db.zonePresence ∧
    ∃ zone, db.geozones.get? zoneId = some zone ∧ zone.userId = userId

/-- The presence rows of a user's zones. -/
def ownedPairs (db : Db) (userId : Uuid) : List (Uuid × DeviceId) :=
  db.zonePresence.keys.filter fun key =>
    key.1 ∈ (db.geozones.entries.filter fun entry => entry.2.userId = userId).map Prod.fst

/-- The user's alerts with numbers from `first` on, in the order of their
numbers. -/
def alertsSince (db : Db) (userId : Uuid) (first : ℕ) : List AlertRow :=
  (db.alerts.filter fun alert => alert.userId = userId ∧ first ≤ alert.id).insertionSort
    fun one other => one.id ≤ other.id

end Db

namespace PresenceTracker

/-- What `onAlert` does to the tracker, frame after frame. -/
def applyAlerts (tracker : PresenceTracker) (alerts : List AlertOut) : PresenceTracker :=
  alerts.foldl (fun current alert => (current.applyAlert alert).1) tracker

theorem applyAlerts_append (tracker : PresenceTracker) (first second : List AlertOut) :
    tracker.applyAlerts (first ++ second) = (tracker.applyAlerts first).applyAlerts second :=
  List.foldl_append

end PresenceTracker

namespace Batch

variable (pg : Postgis) (settings : StorageSettings) (db : Db) (userId : Uuid)

/-- The batch takes the device across the border of a zone of the user, and the
zone is not set to report this kind of crossing. -/
def CrossesSilently (batch : Batch) (zoneId : Uuid) (device : DeviceId) : Prop :=
  ∃ record zone, batch.heard settings db device = some record ∧
    db.geozones.get? zoneId = some zone ∧ zone.userId = userId ∧
      ((zoneId, device) ∉ db.zonePresence ∧
          pg.dWithin zone.center zone.radiusM record.position = true ∧ zone.alertOnEnter = false ∨
        (zoneId, device) ∈ db.zonePresence ∧
          pg.dWithin zone.center zone.radiusM record.position = false ∧ zone.alertOnExit = false)

/-- The alerts of the batch as they are pushed to one user. -/
def told (batch : Batch) : List AlertOut :=
  ((batch.raised settings pg db).filter fun alert => alert.userId = userId).map AlertRow.out

end Batch

section Snapshot

variable {pg : Postgis} {db : Db} {userId : Uuid}

theorem mem_ownedPairs {zoneId : Uuid} {deviceId : DeviceId} :
    (zoneId, deviceId) ∈ db.ownedPairs userId ↔ db.InsideOwned userId zoneId deviceId := by
  rw [Db.ownedPairs, List.mem_filter, Dict.mem_keys_iff, Db.InsideOwned]
  refine and_congr_right fun _ => ?_
  rw [decide_eq_true_eq, List.mem_map]
  constructor
  · rintro ⟨⟨listedId, zone⟩, listed, rfl⟩
    obtain ⟨stored, owned⟩ := List.mem_filter.mp listed
    exact ⟨zone, Dict.mem_entries_iff.mp stored, of_decide_eq_true owned⟩
  · rintro ⟨zone, stored, owned⟩
    exact ⟨(zoneId, zone),
      List.mem_filter.mpr ⟨Dict.mem_entries_iff.mpr stored, decide_eq_true owned⟩, rfl⟩

theorem nodup_ownedPairs : (db.ownedPairs userId).Nodup :=
  List.Nodup.filter _ db.zonePresence.nodup

/-- The rows of `inside`, before the cap. -/
def sortedPairs (pg : Postgis) (db : Db) (userId : Uuid) : List (Uuid × DeviceId) :=
  (db.ownedPairs userId).insertionSort fun first second => first.1 < second.1 ∨
    first.1 = second.1 ∧ pg.deviceOrder first.2 second.2 = true

theorem mem_presenceForUser {maxDevices : ℕ} {zoneId : Uuid} {deviceId : DeviceId} :
    (∃ devices, (zoneId, devices) ∈ presenceForUser pg db userId maxDevices ∧
        deviceId ∈ devices) ↔
      (zoneId, deviceId) ∈ (sortedPairs pg db userId).take maxDevices := by
  constructor
  · rintro ⟨devices, listed, inside⟩
    obtain ⟨owned, _, same⟩ := List.mem_map.mp listed
    obtain ⟨rfl, rfl⟩ := Prod.mk.inj same
    obtain ⟨⟨listedId, listedDevice⟩, kept, rfl⟩ := List.mem_map.mp inside
    obtain ⟨taken, sameZone⟩ := List.mem_filter.mp kept
    obtain rfl : listedId = owned := of_decide_eq_true sameZone
    exact taken
  · intro taken
    have paired := (List.mem_insertionSort _).mp (List.mem_of_mem_take taken)
    have owned := of_decide_eq_true (List.mem_filter.mp paired).2
    refine ⟨_, List.mem_map.mpr ⟨zoneId, (List.mem_insertionSort _).mpr owned, rfl⟩, ?_⟩
    exact List.mem_map.mpr ⟨(zoneId, deviceId),
      List.mem_filter.mpr ⟨taken, decide_eq_true rfl⟩, rfl⟩

/-- The snapshot is the server's presence unless the cap cuts it. -/
theorem snapshot_links_iff (tracker : PresenceTracker) (maxDevices : ℕ) :
    (tracker.setSnapshot (presenceForUser pg db userId maxDevices)).Links
        (db.InsideOwned userId) ↔
      (db.ownedPairs userId).length ≤ maxDevices := by
  have sameLength : (sortedPairs pg db userId).length = (db.ownedPairs userId).length :=
    List.length_insertionSort _ _
  have everyPair : ∀ zoneId deviceId, db.InsideOwned userId zoneId deviceId ↔
      (zoneId, deviceId) ∈ sortedPairs pg db userId := by
    intro zoneId deviceId
    rw [sortedPairs, List.mem_insertionSort, mem_ownedPairs]
  rw [(PresenceTracker.links_setSnapshot _ _).iff_forall, ← sameLength]
  constructor
  · intro complete
    have distinct : (sortedPairs pg db userId).Nodup :=
      (List.perm_insertionSort _ _).nodup_iff.mpr nodup_ownedPairs
    have taken : sortedPairs pg db userId ⊆ (sortedPairs pg db userId).take maxDevices := by
      rintro ⟨zoneId, deviceId⟩ listed
      rw [← mem_presenceForUser, complete, everyPair]
      exact listed
    have counted := (List.subperm_of_subset distinct taken).length_le
    rw [List.length_take] at counted
    omega
  · intro short zoneId deviceId
    rw [mem_presenceForUser, List.take_of_length_le short, everyPair]

end Snapshot

section Step

variable {pg : Postgis} {settings : StorageSettings} {db : Db} {userId : Uuid} {batch : Batch}

theorem Batch.owner_of_raised {alert : AlertRow} (listed : alert ∈ batch.raised settings pg db) :
    ∃ zoneId zone, db.geozones.get? zoneId = some zone ∧ alert.zoneId = some zoneId ∧
      alert.userId = zone.userId := by
  obtain ⟨transition, isTransition, kind, body⟩ := Batch.mem_raised listed
  obtain ⟨record, _, zoneId, zone, stored, decided⟩ :=
    (mem_transitions pg Batch.nodup_reports).mp isTransition
  obtain ⟨rfl, rfl, rfl⟩ := transitionOf_key pg decided
  exact ⟨_, _, stored, congrArg AlertBody.zoneId body, congrArg AlertBody.userId body⟩

/-- The user hears about the crossings of his own zones only. -/
theorem Batch.told_about_foreign {zoneId : Uuid} {device : DeviceId}
    (foreign : ¬ ∃ zone, db.geozones.get? zoneId = some zone ∧ zone.userId = userId) :
    (batch.told pg settings db userId).filter
      (fun alert => alert.zone.id = some zoneId ∧ alert.deviceId = device) = [] := by
  rw [List.filter_eq_nil_iff]
  intro item listed about
  obtain ⟨alert, kept, rfl⟩ := List.mem_map.mp listed
  obtain ⟨raised, mine⟩ := List.mem_filter.mp kept
  obtain ⟨_, zone, stored, named, owner⟩ := Batch.owner_of_raised raised
  obtain rfl := Option.some.inj (named.symm.trans (of_decide_eq_true about).1)
  exact foreign ⟨zone, stored, owner.symm.trans (of_decide_eq_true mine)⟩

/-- The user hears what the transition of the pair says. -/
theorem Batch.told_about_owned {zoneId : Uuid} {zone : ZoneRow} {device : DeviceId}
    (stored : db.geozones.get? zoneId = some zone) (owned : zone.userId = userId) :
    ((batch.told pg settings db userId).filter fun alert =>
        alert.zone.id = some zoneId ∧ alert.deviceId = device).map AlertOut.kind =
      ((batch.decided pg settings db zoneId zone device).bind Transition.kind).toList := by
  have allMine : (batch.raisedAbout pg settings db zoneId device).filter
      (fun alert => alert.userId = userId) = batch.raisedAbout pg settings db zoneId device := by
    rw [List.filter_eq_self]
    intro alert listed
    obtain ⟨raised, about⟩ := List.mem_filter.mp listed
    obtain ⟨_, other, otherStored, named, owner⟩ := Batch.owner_of_raised raised
    obtain rfl := Option.some.inj (named.symm.trans (of_decide_eq_true about).1)
    obtain rfl := Option.some.inj (otherStored.symm.trans stored)
    exact decide_eq_true (owner.trans owned)
  rw [← Batch.map_kind_raisedAbout stored, ← allMine, Batch.raisedAbout, List.filter_comm,
    Batch.told, List.filter_map, List.map_map]
  rfl

theorem Batch.crossesSilently_iff {zoneId : Uuid} {zone : ZoneRow} {device : DeviceId}
    (stored : db.geozones.get? zoneId = some zone) (owned : zone.userId = userId) :
    batch.CrossesSilently pg settings db userId zoneId device ↔
      ∃ transition, batch.decided pg settings db zoneId zone device = some transition ∧
        transition.state ≠ .stay ∧ transition.kind = none := by
  have record_ : batch.CrossesSilently pg settings db userId zoneId device ↔
      ∃ record, batch.heard settings db device = some record ∧
        ((zoneId, device) ∉ db.zonePresence ∧
            pg.dWithin zone.center zone.radiusM record.position = true ∧
              zone.alertOnEnter = false ∨
          (zoneId, device) ∈ db.zonePresence ∧
            pg.dWithin zone.center zone.radiusM record.position = false ∧
              zone.alertOnExit = false) := by
    simp [Batch.CrossesSilently, stored, owned]
  rw [record_, Batch.decided]
  cases isHeard : batch.heard settings db device with
  | none => simp
  | some record =>
      obtain ⟨_, rfl⟩ := Batch.mem_of_heard isHeard
      simp only [Option.some.injEq, exists_eq_left', Option.bind_some, transitionOf]
      cases within : pg.dWithin zone.center zone.radiusM record.position with
      | true =>
          cases known : db.zonePresence.get? (zoneId, record.deviceId) with
          | none => simp [insideTransition, Transition.kind, known, Dict.mem_def]
          | some row => simp [insideTransition, known, Dict.mem_def]
      | false =>
          cases known : db.zonePresence.get? (zoneId, record.deviceId) with
          | none => simp [known, Dict.mem_def]
          | some row => simp [Transition.kind, known, Dict.mem_def]

namespace PresenceTracker

theorem verdict_iff_kinds {alerts : List AlertOut} {before : Prop} :
    Verdict alerts before ↔
      match (alerts.map AlertOut.kind).getLast? with
      | some kind => kind ≠ .exit
      | none => before := by
  rw [Verdict, List.getLast?_map]
  cases alerts.getLast? <;> rfl

theorem Links.applyAlerts {tracker : PresenceTracker} {pairs : Uuid → DeviceId → Prop}
    (links : tracker.Links pairs) (alerts : List AlertOut) :
    (tracker.applyAlerts alerts).Links fun zoneId deviceId =>
      Verdict (alerts.filter fun alert => alert.zone.id = some zoneId ∧ alert.deviceId = deviceId)
        (pairs zoneId deviceId) :=
  links.backfillAlerts ⟨alerts, none⟩

end PresenceTracker

/-- What the user is told about a pair moves it as the table moved, unless the
crossing was silent. -/
theorem Batch.told_moves_iff (zoneId : Uuid) (device : DeviceId) :
    (PresenceTracker.Verdict ((batch.told pg settings db userId).filter fun alert =>
        alert.zone.id = some zoneId ∧ alert.deviceId = device)
        (db.InsideOwned userId zoneId device) ↔
      (batch.outcome settings pg db).InsideOwned userId zoneId device) ↔
      ¬ batch.CrossesSilently pg settings db userId zoneId device := by
  by_cases mine : ∃ zone, db.geozones.get? zoneId = some zone ∧ zone.userId = userId
  · obtain ⟨zone, stored, owned⟩ := mine
    have before : db.InsideOwned userId zoneId device ↔ (zoneId, device) ∈ db.zonePresence :=
      and_iff_left ⟨zone, stored, owned⟩
    have after : (batch.outcome settings pg db).InsideOwned userId zoneId device ↔
        (zoneId, device) ∈ (batch.outcome settings pg db).zonePresence :=
      and_iff_left ⟨zone, stored, owned⟩
    have table := @Batch.presence_decided pg settings db batch zoneId zone device stored
    rw [PresenceTracker.verdict_iff_kinds, Batch.told_about_owned stored owned, before, after,
      Batch.crossesSilently_iff stored owned]
    cases decided : batch.decided pg settings db zoneId zone device with
    | none =>
        rw [decided] at table
        simpa using table.symm
    | some transition =>
        rw [decided] at table
        rw [table.1, table.2]
        simp only [Option.bind_some, Option.some.injEq, exists_eq_left']
        cases kind : transition.kind with
        | none => cases state : transition.state <;> simp
        | some kind =>
            cases state : transition.state <;> simp [Transition.kind, state] at kind ⊢ <;> simp [← kind]
  · have none_ : ¬ batch.CrossesSilently pg settings db userId zoneId device := by
      rintro ⟨_, zone, _, stored, owned, _⟩
      exact mine ⟨zone, stored, owned⟩
    have before : ¬ db.InsideOwned userId zoneId device := fun inside => mine inside.2
    have after : ¬ (batch.outcome settings pg db).InsideOwned userId zoneId device :=
      fun inside => mine inside.2
    rw [Batch.told_about_foreign mine]
    simp [PresenceTracker.Verdict, before, after, none_]

/-- One batch: the tracker follows the table when and only when no crossing is
silent. -/
theorem PresenceTracker.Links.told_iff {tracker : PresenceTracker}
    (links : tracker.Links (db.InsideOwned userId)) :
    (tracker.applyAlerts (batch.told pg settings db userId)).Links
        ((batch.outcome settings pg db).InsideOwned userId) ↔
      ∀ zoneId device, ¬ batch.CrossesSilently pg settings db userId zoneId device := by
  rw [(links.applyAlerts _).iff_forall]
  apply forall_congr'
  intro zoneId
  apply forall_congr'
  intro device
  exact Batch.told_moves_iff zoneId device

/-- The rows are already in the order of their numbers. -/
theorem alertsSince_eq_filter (kept : Kept db) (first : ℕ) :
    db.alertsSince userId first =
      db.alerts.filter fun alert => alert.userId = userId ∧ first ≤ alert.id := by
  apply List.Pairwise.insertionSort_eq
  apply List.Pairwise.filter
  exact (List.pairwise_map.mp kept.increasing).imp fun smaller => le_of_lt smaller

theorem Batch.id_of_raised {alert : AlertRow} (listed : alert ∈ batch.raised settings pg db) :
    db.nextAlertId ≤ alert.id := by
  have numbered := List.mem_map_of_mem (f := AlertRow.id) listed
  rw [Batch.raised, map_id_numberAlerts] at numbered
  exact (List.mem_range'_1.mp numbered).1

/-- A batch adds what it tells the user to the end of what he was told. -/
theorem Batch.alertsSince_outcome (kept : Kept db) {first : ℕ} (since : first ≤ db.nextAlertId) :
    ((batch.outcome settings pg db).alertsSince userId first).map AlertRow.out =
      (db.alertsSince userId first).map AlertRow.out ++ batch.told pg settings db userId := by
  have allNew : (batch.raised settings pg db).filter
        (fun alert => alert.userId = userId ∧ first ≤ alert.id) =
      (batch.raised settings pg db).filter fun alert => alert.userId = userId := by
    apply List.filter_congr
    intro alert listed
    have new := le_trans since (Batch.id_of_raised listed)
    simp [new]
  rw [alertsSince_eq_filter kept.outcome, alertsSince_eq_filter kept, Batch.alerts_outcome,
    List.filter_append, List.map_append, allNew]
  rfl

end Step

section Run

variable (pg : Postgis) (settings : StorageSettings)

/-- The tracker after a run of batches: the snapshot, and every alert raised
since in the order of the numbers. -/
def trackedSince (loaded db : Db) (userId : Uuid) (tracker : PresenceTracker) : PresenceTracker :=
  (tracker.setSnapshot (presenceForUser pg loaded userId presenceDeviceLimit)).applyAlerts
    ((db.alertsSince userId loaded.nextAlertId).map AlertRow.out)

variable {pg settings} {loaded db : Db} {userId : Uuid} {tracker : PresenceTracker}

theorem trackedSince_loaded (kept : Kept loaded) :
    trackedSince pg loaded loaded userId tracker =
      tracker.setSnapshot (presenceForUser pg loaded userId presenceDeviceLimit) := by
  have nothing : loaded.alertsSince userId loaded.nextAlertId = [] := by
    rw [alertsSince_eq_filter kept, List.filter_eq_nil_iff]
    intro alert listed
    have drawn := kept.drawn alert listed
    simp only [decide_eq_true_eq]
    omega
  rw [trackedSince, nothing]
  rfl

theorem trackedSince_outcome (kept : Kept db) (since : loaded.nextAlertId ≤ db.nextAlertId)
    (batch : Batch) :
    trackedSince pg loaded (batch.outcome settings pg db) userId tracker =
      (trackedSince pg loaded db userId tracker).applyAlerts
        (batch.told pg settings db userId) := by
  rw [trackedSince, Batch.alertsSince_outcome kept since, PresenceTracker.applyAlerts_append]
  rfl

theorem nextAlertId_run_batches (batches : List Batch) :
    loaded.nextAlertId ≤ (run pg settings loaded (batches.map Op.batch)).nextAlertId := by
  induction batches using List.reverseRecOn with
  | nil => exact le_rfl
  | append_singleton batches batch ih =>
      rw [List.map_append, List.map_singleton, run_snoc, step_batch, Batch.nextAlertId_outcome]
      omega

variable (pg settings)

/-- From the load of a snapshot on, the dashboard shows the server's presence
after every batch when and only when the snapshot was not cut and no batch takes
a device across a border in silence. -/
theorem live_presence_iff (users : KeySet Uuid) (before : List Op) (batches : List Batch)
    (userId : Uuid) (tracker : PresenceTracker) :
    let loaded := run pg settings (Db.fresh users) before
    let after := fun first : List Batch => run pg settings loaded (first.map Op.batch)
    (∀ first rest, batches = first ++ rest →
      (trackedSince pg loaded (after first) userId tracker).Links
        ((after first).InsideOwned userId)) ↔
      (loaded.ownedPairs userId).length ≤ presenceDeviceLimit ∧
        ∀ first batch rest, batches = first ++ batch :: rest → ∀ zoneId device,
          ¬ batch.CrossesSilently pg settings (after first) userId zoneId device := by
  intro loaded after
  have kept : ∀ first, Kept (after first) := by
    intro first
    change Kept (run pg settings loaded (first.map Op.batch))
    rw [← run_append]
    exact kept_run users _
  have atLoad : (trackedSince pg loaded (after []) userId tracker).Links
      ((after []).InsideOwned userId) ↔
        (loaded.ownedPairs userId).length ≤ presenceDeviceLimit := by
    change (trackedSince pg loaded loaded userId tracker).Links (loaded.InsideOwned userId) ↔ _
    rw [trackedSince_loaded (kept_run users before), snapshot_links_iff]
  rw [← atLoad]
  apply forall_prefix_iff
  intro first batch links
  have grown : after (first ++ [batch]) = batch.outcome settings pg (after first) := by
    change run pg settings loaded ((first ++ [batch]).map Op.batch) = _
    rw [List.map_append, List.map_singleton, run_snoc, step_batch]
  rw [grown, trackedSince_outcome (kept first) (nextAlertId_run_batches first)]
  exact links.told_iff

end Run

/-- A yard that reports departures only. -/
def quietYard : List Op :=
  [.create 0 7 1 ⟨"yard", 0, 0, 500, none, false, true, none⟩ 10]

/-- A truck drives into the yard: the table lists it, the dashboard does not. -/
theorem live_presence_misses_entry :
    let loaded := run .tangentPlane ⟨30, 60⟩ (Db.fresh (KeySet.add ∅ 1)) quietYard
    let db := run .tangentPlane ⟨30, 60⟩ loaded [.batch ⟨0, 0, [⟨"truck", 0, 0, 0, 0⟩]⟩]
    let tracker := trackedSince .tangentPlane loaded db 1 ⟨∅, ∅⟩
    db.geozones = loaded.geozones ∧ (7, "truck") ∈ db.zonePresence ∧
      ¬ tracker.Links (db.InsideOwned 1) := by
  intro loaded db tracker
  have present : (7, "truck") ∈ db.zonePresence := by decide +kernel
  have unlinked : "truck" ∉ tracker.devicesIn 7 := by decide +kernel
  have mine : ∃ zone, db.geozones.get? 7 = some zone ∧ zone.userId = 1 := by
    refine ⟨_, rfl, ?_⟩
    decide +kernel
  refine ⟨rfl, present, ?_⟩
  intro links
  exact unlinked ((links 7 "truck").1.mpr ⟨present, mine⟩)

end GeoTrack
