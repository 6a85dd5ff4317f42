import GeoTrack.ApplyBatch

/-!
# What one batch does to one pair

The statement computes its transitions by joins over whole tables.  Seen from
a single pair of zone and device it is a case split: the device was heard or
not, it is inside or not, it was known to be inside or not.
-/

namespace GeoTrack

/-- With distinct devices the upsert never meets a row twice, and accepts the
reports that are newer than what is stored. -/
theorem accepted_of_nodup {positions : Dict DeviceId PositionRow} {touched : List DeviceId}
    {input : List LocationRecord} (distinct : (input.map LocationRecord.deviceId).Nodup)
    (untouched : ∀ record ∈ input, record.deviceId ∉ touched) :
    accepted positions touched input = .ok (input.filter (supersedes positions)) := by
  induction input generalizing touched with
  | nil => rfl
  | cons record rest ih =>
      rw [List.map_cons, List.nodup_cons] at distinct
      rw [List.forall_mem_cons] at untouched
      rw [accepted, if_neg untouched.1]
      by_cases newer : supersedes positions record = true
      · have restUntouched : ∀ other ∈ rest, other.deviceId ∉ record.deviceId :: touched := by
          intro other listed
          rw [List.mem_cons, not_or]
          refine ⟨fun equal => distinct.1 ?_, untouched.2 other listed⟩
          exact equal ▸ List.mem_map_of_mem listed
        rw [if_pos newer, ih distinct.2 restUntouched, List.filter_cons_of_pos newer]
        rfl
      · rw [if_neg newer, ih distinct.2 untouched.2, List.filter_cons_of_neg newer]

theorem applyBatch_of_nodup (pg : Postgis) (now : ℤ) (db : Db) {input : List LocationRecord}
    (distinct : (input.map LocationRecord.deviceId).Nodup) :
    applyBatch pg now db input =
      let reports := input.filter (supersedes db.devicePositions)
      let writes := batchWrites pg now db reports
      let numbered := numberAlerts db.nextAlertId writes.alerts
      .ok ((db.commitWrites writes numbered).drawAlertIds writes.alerts.length,
        { accepted := reports.map LocationRecord.acceptedItem
          alerts := numbered }) := by
  rw [applyBatch, accepted_of_nodup distinct (by simp)]
  rfl

section Pairs

variable (pg : Postgis)

/-- The search area only filters candidates: the distance test decides. -/
theorem zoneHit_eq_dWithin (zone : ZoneRow) (record : LocationRecord) :
    zoneHit pg zone record = pg.dWithin zone.center zone.radiusM record.position := by
  unfold zoneHit
  cases within : pg.dWithin zone.center zone.radiusM record.position with
  | false => simp
  | true => simp [pg.searchAreaMeets_of_dWithin _ _ _ within]

/-- The transition of one zone and the device of one accepted report. -/
def transitionOf (presence : Dict (Uuid × DeviceId) PresenceRow) (record : LocationRecord)
    (zoneId : Uuid) (zone : ZoneRow) : Option Transition :=
  if pg.dWithin zone.center zone.radiusM record.position then
    some (insideTransition presence ⟨record, zoneId, zone⟩)
  else
    (presence.get? (zoneId, record.deviceId)).map fun row =>
      { zoneId := zoneId
        zone := zone
        record := record
        lastAlertAt := some row.lastAlertAt
        state := .exit }

theorem transitionOf_key {presence : Dict (Uuid × DeviceId) PresenceRow}
    {record : LocationRecord} {zoneId : Uuid} {zone : ZoneRow} {transition : Transition}
    (isTransition : transitionOf pg presence record zoneId zone = some transition) :
    transition.zoneId = zoneId ∧ transition.zone = zone ∧ transition.record = record := by
  unfold transitionOf at isTransition
  split at isTransition
  · obtain rfl := Option.some.inj isTransition
    exact ⟨rfl, rfl, rfl⟩
  · obtain ⟨row, _, rfl⟩ := Option.map_eq_some_iff.mp isTransition
    exact ⟨rfl, rfl, rfl⟩

theorem mem_hits {geozones : Dict Uuid ZoneRow} {reports : List LocationRecord} {hit : Hit} :
    hit ∈ hits pg geozones reports ↔
      hit.record ∈ reports ∧ geozones.get? hit.zoneId = some hit.zone ∧
        pg.dWithin hit.zone.center hit.zone.radiusM hit.record.position = true := by
  simp only [hits, List.mem_flatMap, List.mem_map, List.mem_filter, zoneHit_eq_dWithin]
  constructor
  · rintro ⟨record, listed, ⟨zoneId, zone⟩, ⟨stored, within⟩, rfl⟩
    exact ⟨listed, Dict.mem_entries_iff.mp stored, within⟩
  · rintro ⟨listed, stored, within⟩
    exact ⟨hit.record, listed, (hit.zoneId, hit.zone),
      ⟨Dict.mem_entries_iff.mpr stored, within⟩, rfl⟩

/-- Reports of one batch are told apart by their devices. -/
theorem record_eq_of_deviceId {reports : List LocationRecord}
    (distinct : (reports.map LocationRecord.deviceId).Nodup) {first second : LocationRecord}
    (firstListed : first ∈ reports) (secondListed : second ∈ reports)
    (same : first.deviceId = second.deviceId) : first = second :=
  List.inj_on_of_nodup_map distinct firstListed secondListed same

theorem exitTransition_eq_some {db : Db} {found : List Hit} {record : LocationRecord}
    {entry : (Uuid × DeviceId) × PresenceRow} {transition : Transition}
    (isExit : exitTransition db found record entry = some transition) :
    entry.1.2 = record.deviceId ∧
      (∀ hit ∈ found, (hit.zoneId, hit.record.deviceId) ≠ entry.1) ∧
      ∃ zone, db.geozones.get? entry.1.1 = some zone ∧
        transition =
          { zoneId := entry.1.1
            zone := zone
            record := record
            lastAlertAt := some entry.2.lastAlertAt
            state := .exit } := by
  unfold exitTransition at isExit
  split at isExit
  next leaves =>
    obtain ⟨zone, stored, rfl⟩ := Option.map_eq_some_iff.mp isExit
    refine ⟨leaves.1, ?_, zone, stored, rfl⟩
    intro hit listed sameKey
    apply leaves.2
    rw [List.any_eq_true]
    exact ⟨hit, listed, by simp [← sameKey]⟩
  next => simp at isExit

theorem exitTransition_key {db : Db} {found : List Hit} {record : LocationRecord}
    {entry : (Uuid × DeviceId) × PresenceRow} {transition : Transition}
    (isExit : exitTransition db found record entry = some transition) :
    transition.key = entry.1 := by
  obtain ⟨sameDevice, _, zone, _, rfl⟩ := exitTransition_eq_some isExit
  exact Prod.ext rfl sameDevice.symm

/-- The joins find exactly the transitions of the single pairs. -/
theorem mem_transitions {db : Db} {reports : List LocationRecord}
    (distinct : (reports.map LocationRecord.deviceId).Nodup) {transition : Transition} :
    transition ∈ transitions pg db reports ↔
      ∃ record ∈ reports, ∃ zoneId zone, db.geozones.get? zoneId = some zone ∧
        transitionOf pg db.zonePresence record zoneId zone = some transition := by
  simp only [transitions, List.mem_append, List.mem_map, exitTransitions, List.mem_flatMap,
    List.mem_filterMap]
  constructor
  · rintro (⟨hit, isHit, rfl⟩ | ⟨record, listed, ⟨⟨zoneId, device⟩, row⟩, known, isExit⟩)
    · obtain ⟨listed, stored, within⟩ := (mem_hits pg).mp isHit
      exact ⟨hit.record, listed, hit.zoneId, hit.zone, stored, if_pos within⟩
    · obtain ⟨rfl, noHit, zone, stored, rfl⟩ := exitTransition_eq_some isExit
      have outside : ¬ pg.dWithin zone.center zone.radiusM record.position = true :=
        fun within => noHit ⟨record, zoneId, zone⟩
          ((mem_hits pg).mpr ⟨listed, stored, within⟩) rfl
      have present := Dict.mem_entries_iff.mp known
      refine ⟨record, listed, zoneId, zone, stored, ?_⟩
      rw [transitionOf, if_neg outside, present]
      rfl
  · rintro ⟨record, listed, zoneId, zone, stored, isTransition⟩
    unfold transitionOf at isTransition
    split at isTransition
    next within =>
      left
      exact ⟨⟨record, zoneId, zone⟩, (mem_hits pg).mpr ⟨listed, stored, within⟩,
        Option.some.inj isTransition⟩
    next outside =>
      right
      obtain ⟨row, present, rfl⟩ := Option.map_eq_some_iff.mp isTransition
      refine ⟨record, listed, ((zoneId, record.deviceId), row),
        Dict.mem_entries_iff.mpr present, ?_⟩
      have noHit : ¬ ((hits pg db.geozones reports).any fun hit =>
          hit.zoneId = zoneId ∧ hit.record.deviceId = record.deviceId) = true := by
        intro someHit
        obtain ⟨hit, isHit, sameKey⟩ := List.any_eq_true.mp someHit
        obtain ⟨hitListed, hitStored, within⟩ := (mem_hits pg).mp isHit
        obtain ⟨sameZone, sameDevice⟩ := of_decide_eq_true sameKey
        have sameRecord := record_eq_of_deviceId distinct hitListed listed sameDevice
        rw [sameZone, stored] at hitStored
        rw [sameRecord, ← Option.some.inj hitStored] at within
        exact outside within
      rw [exitTransition, if_pos ⟨rfl, noHit⟩, stored]
      rfl

/-- What is found for one device at a time, each pair once, is found once. -/
theorem nodup_flatMap_of_device {α : Type} {key : α → Uuid × DeviceId}
    {findings : LocationRecord → List α} {reports : List LocationRecord}
    (distinct : (reports.map LocationRecord.deviceId).Nodup)
    (once : ∀ record, ((findings record).map key).Nodup)
    (ofDevice : ∀ record, ∀ finding ∈ findings record, (key finding).2 = record.deviceId) :
    ((reports.flatMap findings).map key).Nodup := by
  rw [List.map_flatMap, List.nodup_flatMap]
  constructor
  · exact fun record _ => once record
  · rw [List.Nodup, List.pairwise_map] at distinct
    apply distinct.imp
    intro first second different
    rw [Function.onFun_apply, List.disjoint_left]
    intro pair inFirst inSecond
    obtain ⟨finding, isFirst, rfl⟩ := List.mem_map.mp inFirst
    obtain ⟨other, isSecond, sameKey⟩ := List.mem_map.mp inSecond
    rw [← ofDevice first finding isFirst, ← ofDevice second other isSecond, sameKey] at different
    exact different rfl

theorem nodup_hits (geozones : Dict Uuid ZoneRow) {reports : List LocationRecord}
    (distinct : (reports.map LocationRecord.deviceId).Nodup) :
    ((hits pg geozones reports).map fun hit => (hit.zoneId, hit.record.deviceId)).Nodup := by
  apply nodup_flatMap_of_device distinct
  · intro record
    rw [List.map_map]
    have zoneKeys : ((geozones.entries.filter fun entry => zoneHit pg entry.2 record).map
        Prod.fst).Nodup :=
      geozones.nodup.sublist (List.filter_sublist.map Prod.fst)
    have paired := zoneKeys.map (Prod.mk_left_injective record.deviceId)
    rwa [List.map_map] at paired
  · intro record hit found
    obtain ⟨entry, -, rfl⟩ := List.mem_map.mp found
    rfl

theorem nodup_exitTransitions (db : Db) (found : List Hit) {reports : List LocationRecord}
    (distinct : (reports.map LocationRecord.deviceId).Nodup) :
    ((exitTransitions db found reports).map Transition.key).Nodup := by
  apply nodup_flatMap_of_device distinct
  · intro record
    exact db.zonePresence.nodup.sublist
      (Dict.filterMap_map_sublist (fun _ _ isExit => exitTransition_key isExit) _)
  · intro record transition listed
    obtain ⟨entry, -, isExit⟩ := List.mem_filterMap.mp listed
    obtain ⟨_, _, _, _, rfl⟩ := exitTransition_eq_some isExit
    rfl

/-- A batch has at most one thing to say about each pair. -/
theorem nodup_transitions (db : Db) {reports : List LocationRecord}
    (distinct : (reports.map LocationRecord.deviceId).Nodup) :
    ((transitions pg db reports).map Transition.key).Nodup := by
  have insideKeys : ((hits pg db.geozones reports).map (insideTransition db.zonePresence)).map
      Transition.key =
        (hits pg db.geozones reports).map fun hit => (hit.zoneId, hit.record.deviceId) := by
    rw [List.map_map]
    rfl
  rw [transitions, List.map_append, List.nodup_append, insideKeys]
  refine ⟨nodup_hits pg db.geozones distinct, nodup_exitTransitions db _ distinct, ?_⟩
  rintro _ isHit _ isExit rfl
  obtain ⟨hit, hitListed, sameKey⟩ := List.mem_map.mp isHit
  obtain ⟨transition, exitListed, rfl⟩ := List.mem_map.mp isExit
  obtain ⟨record, _, exitOfRecord⟩ := List.mem_flatMap.mp exitListed
  obtain ⟨entry, _, isExit⟩ := List.mem_filterMap.mp exitOfRecord
  rw [exitTransition_key isExit] at sameKey
  exact (exitTransition_eq_some isExit).2.1 hit hitListed sameKey

theorem filter_transitions_of_absent (db : Db) {reports : List LocationRecord}
    (distinct : (reports.map LocationRecord.deviceId).Nodup) {device : DeviceId}
    (absent : ∀ record ∈ reports, record.deviceId ≠ device) (zoneId : Uuid) :
    (transitions pg db reports).filter (fun transition => transition.key = (zoneId, device)) =
      [] := by
  rw [List.filter_eq_nil_iff]
  intro transition listed
  obtain ⟨record, inBatch, zoneId, zone, _, isTransition⟩ :=
    (mem_transitions pg distinct).mp listed
  have different : transition.key.2 ≠ device := by
    rw [Transition.key, (transitionOf_key pg isTransition).2.2]
    exact absent record inBatch
  rw [decide_eq_true_eq]
  intro sameKey
  exact different (congrArg Prod.snd sameKey)

/-- The transitions of one pair, for a zone that exists and a device that was
heard. -/
theorem filter_transitions_of_mem {db : Db} {reports : List LocationRecord}
    (distinct : (reports.map LocationRecord.deviceId).Nodup) {record : LocationRecord}
    (listed : record ∈ reports) {zoneId : Uuid} {zone : ZoneRow}
    (stored : db.geozones.get? zoneId = some zone) :
    (transitions pg db reports).filter
        (fun transition => transition.key = (zoneId, record.deviceId)) =
      (transitionOf pg db.zonePresence record zoneId zone).toList := by
  cases decided : transitionOf pg db.zonePresence record zoneId zone with
  | some transition =>
      obtain ⟨sameZone, _, sameRecord⟩ := transitionOf_key pg decided
      have sameKey : transition.key = (zoneId, record.deviceId) := by
        rw [Transition.key, sameZone, sameRecord]
      rw [← sameKey]
      exact Dict.filter_key_eq_singleton (nodup_transitions pg db distinct)
        ((mem_transitions pg distinct).mpr ⟨record, listed, zoneId, zone, stored, decided⟩)
  | none =>
      rw [Option.toList_none, List.filter_eq_nil_iff]
      intro transition isTransition
      rw [decide_eq_true_eq]
      intro sameKey
      obtain ⟨other, otherListed, otherZoneId, otherZone, otherStored, otherDecided⟩ :=
        (mem_transitions pg distinct).mp isTransition
      obtain ⟨rfl, rfl, rfl⟩ := transitionOf_key pg otherDecided
      have sameZone : transition.zoneId = zoneId := congrArg Prod.fst sameKey
      have sameRecord : transition.record = record :=
        record_eq_of_deviceId distinct otherListed listed (congrArg Prod.snd sameKey)
      rw [sameZone, stored] at otherStored
      rw [sameZone, sameRecord, ← Option.some.inj otherStored, decided] at otherDecided
      simp at otherDecided

section Effects

variable (now : ℤ) (db : Db) {reports : List LocationRecord} (numbered : List AlertRow)

theorem lookup_presenceUpserts (key : Uuid × DeviceId) :
    Dict.lookupKey key (batchWrites pg now db reports).presenceUpserts =
      ((((transitions pg db reports).filter fun transition => transition.key = key).filter
        fun transition => transition.state ≠ .exit).head?).map (presenceRow db) := by
  simp only [batchWrites]
  rw [Dict.lookupKey_map, List.filter_comm]

theorem mem_presenceDeletes (key : Uuid × DeviceId) :
    key ∈ (batchWrites pg now db reports).presenceDeletes ↔
      ∃ transition ∈ (transitions pg db reports).filter fun transition => transition.key = key,
        transition.state = .exit := by
  simp only [batchWrites, List.mem_map, List.mem_filter, decide_eq_true_eq]
  constructor
  · rintro ⟨transition, ⟨listed, isExit⟩, sameKey⟩
    exact ⟨transition, ⟨listed, sameKey⟩, isExit⟩
  · rintro ⟨transition, ⟨listed, sameKey⟩, isExit⟩
    exact ⟨transition, ⟨listed, isExit⟩, sameKey⟩

theorem nodup_presenceUpserts (distinct : (reports.map LocationRecord.deviceId).Nodup) :
    ((batchWrites pg now db reports).presenceUpserts.map Prod.fst).Nodup := by
  rw [batchWrites, List.map_map]
  exact (nodup_transitions pg db distinct).sublist (List.filter_sublist.map Transition.key)

theorem get?_presence_commitWrites (distinct : (reports.map LocationRecord.deviceId).Nodup)
    (key : Uuid × DeviceId) :
    (db.commitWrites (batchWrites pg now db reports) numbered).zonePresence.get? key =
      (Dict.lookupKey key (batchWrites pg now db reports).presenceUpserts).or
        (if key ∈ (batchWrites pg now db reports).presenceDeletes then none
          else db.zonePresence.get? key) := by
  rw [Db.commitWrites, Dict.get?_setAll _ _ (nodup_presenceUpserts pg now db distinct),
    Dict.get?_eraseAll]
  by_cases deleted : key ∈ (batchWrites pg now db reports).presenceDeletes <;> simp [deleted]

/-- A pair without a transition keeps its presence row. -/
theorem presence_of_no_transition (distinct : (reports.map LocationRecord.deviceId).Nodup)
    {key : Uuid × DeviceId}
    (nothing : (transitions pg db reports).filter (fun transition => transition.key = key) = []) :
    (db.commitWrites (batchWrites pg now db reports) numbered).zonePresence.get? key =
      db.zonePresence.get? key := by
  have kept : key ∉ (batchWrites pg now db reports).presenceDeletes := by
    rw [mem_presenceDeletes, nothing]
    simp
  rw [get?_presence_commitWrites pg now db numbered distinct, lookup_presenceUpserts, nothing,
    if_neg kept]
  rfl

/-- A device that was not heard keeps its presence rows. -/
theorem presence_of_absent (distinct : (reports.map LocationRecord.deviceId).Nodup)
    {device : DeviceId} (absent : ∀ record ∈ reports, record.deviceId ≠ device)
    (zoneId : Uuid) :
    (db.commitWrites (batchWrites pg now db reports) numbered).zonePresence.get?
        (zoneId, device) = db.zonePresence.get? (zoneId, device) :=
  presence_of_no_transition pg now db numbered distinct
    (filter_transitions_of_absent pg db distinct absent zoneId)

/-- A device that was heard is present in exactly the zones it is inside of. -/
theorem presence_of_mem (distinct : (reports.map LocationRecord.deviceId).Nodup)
    {record : LocationRecord} (listed : record ∈ reports) {zoneId : Uuid} {zone : ZoneRow}
    (stored : db.geozones.get? zoneId = some zone) :
    (db.commitWrites (batchWrites pg now db reports) numbered).zonePresence.get?
        (zoneId, record.deviceId) =
      if pg.dWithin zone.center zone.radiusM record.position then
        some (presenceRow db (insideTransition db.zonePresence ⟨record, zoneId, zone⟩))
      else none := by
  have only := filter_transitions_of_mem pg distinct listed stored
  rw [get?_presence_commitWrites pg now db numbered distinct, lookup_presenceUpserts, only]
  by_cases within : pg.dWithin zone.center zone.radiusM record.position = true
  · have notExit : (insideTransition db.zonePresence ⟨record, zoneId, zone⟩).state ≠ .exit := by
      simp only [insideTransition]
      split <;> simp
    simp [transitionOf, within, notExit]
  · have deletes := @mem_presenceDeletes pg now db reports (zoneId, record.deviceId)
    rw [only, transitionOf, if_neg within] at deletes
    rw [transitionOf, if_neg within]
    cases known : db.zonePresence.get? (zoneId, record.deviceId) with
    | none => simp [within]
    | some row =>
        rw [known] at deletes
        simp [within, deletes]

/-- A zone that does not exist takes no part in a batch. -/
theorem presence_of_no_zone (distinct : (reports.map LocationRecord.deviceId).Nodup)
    {zoneId : Uuid} (device : DeviceId) (unstored : db.geozones.get? zoneId = none) :
    (db.commitWrites (batchWrites pg now db reports) numbered).zonePresence.get?
        (zoneId, device) = db.zonePresence.get? (zoneId, device) := by
  apply presence_of_no_transition pg now db numbered distinct
  rw [List.filter_eq_nil_iff]
  intro transition listed
  obtain ⟨_, _, otherId, zone, stored, isTransition⟩ := (mem_transitions pg distinct).mp listed
  rw [decide_eq_true_eq]
  intro sameKey
  have sameZone : transition.zoneId = zoneId := congrArg Prod.fst sameKey
  rw [← (transitionOf_key pg isTransition).1, sameZone, unstored] at stored
  simp at stored

theorem position_of_absent (distinct : (reports.map LocationRecord.deviceId).Nodup)
    {device : DeviceId} (absent : ∀ record ∈ reports, record.deviceId ≠ device) :
    (db.commitWrites (batchWrites pg now db reports) numbered).devicePositions.get? device =
      db.devicePositions.get? device := by
  have unlisted : device ∉ reports.map LocationRecord.deviceId := by
    rw [List.mem_map]
    rintro ⟨record, listed, rfl⟩
    exact absent record listed rfl
  have keys : (reports.map fun record => (record.deviceId, record.positionRow now)).map Prod.fst =
      reports.map LocationRecord.deviceId := by
    rw [List.map_map]
    rfl
  rw [Db.commitWrites, batchWrites, Dict.get?_setAll _ _ (keys ▸ distinct),
    Dict.lookupKey_eq_none_iff.mpr (keys ▸ unlisted)]
  rfl

theorem position_of_mem (distinct : (reports.map LocationRecord.deviceId).Nodup)
    {record : LocationRecord} (listed : record ∈ reports) :
    (db.commitWrites (batchWrites pg now db reports) numbered).devicePositions.get?
        record.deviceId = some (record.positionRow now) := by
  have keys : (reports.map fun record => (record.deviceId, record.positionRow now)).map Prod.fst =
      reports.map LocationRecord.deviceId := by
    rw [List.map_map]
    rfl
  have found : Dict.lookupKey record.deviceId
      (reports.map fun record => (record.deviceId, record.positionRow now)) =
        some (record.positionRow now) := by
    rw [Dict.lookupKey_eq_some_iff (keys ▸ distinct)]
    exact List.mem_map_of_mem listed
  rw [Db.commitWrites, batchWrites, Dict.get?_setAll _ _ (keys ▸ distinct), found]
  rfl

end Effects

/-- The alert is about this zone and this device. -/
def AlertBody.About (zoneId : Uuid) (device : DeviceId) (alert : AlertBody) : Prop :=
  alert.zoneId = some zoneId ∧ alert.deviceId = device

instance (zoneId : Uuid) (device : DeviceId) (alert : AlertBody) :
    Decidable (alert.About zoneId device) :=
  inferInstanceAs (Decidable (_ ∧ _))

/-- The alerts a batch raises about one pair come from the transition of that
pair alone. -/
theorem filter_newAlerts (now : ℤ) {events : List Transition} {zoneId : Uuid}
    {device : DeviceId} {decided : Option Transition}
    (only : events.filter (fun transition => transition.key = (zoneId, device)) =
      decided.toList) :
    (newAlerts pg now events).filter (fun alert => alert.About zoneId device) =
      (decided.bind fun transition => transition.kind.map (transition.alertBody now)).toList := by
  have sorted := (List.perm_insertionSort (alertOrder pg) (events.filterMap fun transition =>
    transition.kind.map (transition.alertBody now))).filter
      fun alert => alert.About zoneId device
  have keyed : (events.filterMap fun transition =>
      transition.kind.map (transition.alertBody now)).filter
        (fun alert => alert.About zoneId device) =
      (events.filter (fun transition => transition.key = (zoneId, device))).filterMap
        fun transition => transition.kind.map (transition.alertBody now) := by
    rw [List.filter_filterMap, List.filterMap_filter]
    apply List.filterMap_congr
    intro transition _
    cases kind : transition.kind with
    | none => simp
    | some kind =>
        simp only [Option.map_some, Option.filter_some, AlertBody.About, Transition.alertBody,
          Transition.key, Option.some.injEq, Prod.mk.injEq]
  rw [keyed, only] at sorted
  rw [newAlerts]
  cases decided with
  | none => exact List.perm_nil.mp sorted
  | some transition =>
      cases raised : transition.kind with
      | none =>
          simp only [Option.toList_some, List.filterMap_cons, raised, Option.map_none,
            List.filterMap_nil] at sorted
          simpa [raised] using List.perm_nil.mp sorted
      | some kind =>
          simp only [Option.toList_some, List.filterMap_cons, raised, Option.map_some,
            List.filterMap_nil] at sorted
          simpa [raised] using List.perm_singleton.mp sorted

end Pairs

end GeoTrack
