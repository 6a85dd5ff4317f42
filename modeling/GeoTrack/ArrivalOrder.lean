import GeoTrack.PresenceInvariant
import GeoTrack.ReplayedBatches

/-!
# Arrival order and batching

With the zones fixed, the tables are a picture of the set of reports applied
so far: the newest report of each device, one history row per report, and
presence where the newest report is inside.  Two runs over the same reports
therefore end with the same picture, in whatever order and company the reports
arrived.
-/

namespace GeoTrack

/-- The tables after exactly these reports have been applied. -/
structure Pictures (pg : Postgis) (zones : Dict Uuid ZoneRow) (reported : LocationRecord → Prop)
    (db : Db) : Prop where
  zoned : db.geozones = zones
  positioned : ∀ device row, db.devicePositions.get? device = some row →
    ∃ record, reported record ∧ record.deviceId = device ∧ record.position = row.position ∧
      record.reportedMs = row.reportedAt
  archived : ∀ key row, db.locationHistory.get? key = some row →
    ∃ record, reported record ∧ record.historyEntry = (key, row)
  covered : ∀ record, reported record → Covered db record
  present : ∀ zoneId device, (zoneId, device) ∈ db.zonePresence ↔
    ∃ zone row, zones.get? zoneId = some zone ∧ db.devicePositions.get? device = some row ∧
      pg.dWithin zone.center zone.radiusM row.position = true

section Pictures

variable {pg : Postgis} {settings : StorageSettings} {zones : Dict Uuid ZoneRow}
  {reported : LocationRecord → Prop} {db : Db}

theorem pictures_fresh (users : KeySet Uuid) :
    Pictures pg zones (fun _ => False) { Db.fresh users with geozones := zones } where
  zoned := rfl
  positioned := by
    intro device row stored
    simp [Db.fresh] at stored
  archived := by
    intro key row stored
    simp [Db.fresh] at stored
  covered := fun _ absurdity => absurdity.elim
  present := by
    intro zoneId device
    simp [Db.fresh, Dict.mem_def]

/-- A report that was accepted is one of those applied. -/
theorem Pictures.positioned_outcome (pictured : Pictures pg zones reported db) (batch : Batch)
    {device : DeviceId} {row : PositionRow}
    (stored : (batch.outcome settings pg db).devicePositions.get? device = some row) :
    ∃ record, (reported record ∨ record ∈ batch.storable settings) ∧ record.deviceId = device ∧
      record.position = row.position ∧ record.reportedMs = row.reportedAt := by
  cases isHeard : batch.heard settings db device with
  | none =>
      rw [Batch.position_of_not_heard isHeard] at stored
      obtain ⟨record, applied, same⟩ := pictured.positioned device row stored
      exact ⟨record, Or.inl applied, same⟩
  | some record =>
      rw [Batch.position_of_heard isHeard] at stored
      obtain rfl := Option.some.inj stored
      exact ⟨record, Or.inr (Batch.mem_storable_of_heard isHeard),
        (Batch.mem_of_heard isHeard).2, rfl, rfl⟩

theorem Pictures.archived_outcome (pictured : Pictures pg zones reported db) (batch : Batch)
    {key : DeviceId × ℤ} {row : HistoryRow}
    (stored : (batch.outcome settings pg db).locationHistory.get? key = some row) :
    ∃ record, (reported record ∨ record ∈ batch.storable settings) ∧
      record.historyEntry = (key, row) := by
  rw [Batch.history_outcome, Option.or_eq_some_iff] at stored
  rcases stored with early | ⟨_, late⟩
  · obtain ⟨record, applied, same⟩ := pictured.archived key row early
    exact ⟨record, Or.inl applied, same⟩
  · obtain ⟨record, listed, same⟩ := List.mem_map.mp (Dict.mem_of_lookupKey late)
    exact ⟨record, Or.inr listed, same⟩

theorem Pictures.present_outcome (pictured : Pictures pg zones reported db) (batch : Batch)
    (zoneId : Uuid) (device : DeviceId) :
    (zoneId, device) ∈ (batch.outcome settings pg db).zonePresence ↔
      ∃ zone row, zones.get? zoneId = some zone ∧
        (batch.outcome settings pg db).devicePositions.get? device = some row ∧
        pg.dWithin zone.center zone.radiusM row.position = true := by
  cases isHeard : batch.heard settings db device with
  | none =>
      rw [Dict.mem_def, Batch.presence_of_not_heard isHeard, ← Dict.mem_def, pictured.present,
        Batch.position_of_not_heard isHeard]
  | some record =>
      rw [Batch.position_of_heard isHeard]
      cases stored : zones.get? zoneId with
      | none =>
          have unstored : db.geozones.get? zoneId = none := pictured.zoned ▸ stored
          rw [Dict.mem_def, Batch.presence_of_unstored device unstored, ← Dict.mem_def,
            pictured.present, stored]
          simp
      | some zone =>
          have zoneStored : db.geozones.get? zoneId = some zone := pictured.zoned ▸ stored
          rw [Batch.mem_presence_of_heard isHeard zoneStored]
          constructor
          · intro within
            exact ⟨zone, record.positionRow batch.now, rfl, rfl, within⟩
          · rintro ⟨_, _, sameZone, sameRow, within⟩
            obtain rfl := Option.some.inj sameZone
            obtain rfl := Option.some.inj sameRow
            exact within

theorem Pictures.outcome (pictured : Pictures pg zones reported db) (batch : Batch) :
    Pictures pg zones (fun record => reported record ∨ record ∈ batch.storable settings)
      (batch.outcome settings pg db) where
  zoned := pictured.zoned
  positioned _ _ stored := pictured.positioned_outcome batch stored
  archived _ _ stored := pictured.archived_outcome batch stored
  covered := by
    rintro record (early | late)
    · exact (pictured.covered record early).outcome batch
    · exact covered_of_storable late
  present := pictured.present_outcome batch

/-- A run of batches pictures the reports it was given. -/
theorem Pictures.run (pictured : Pictures pg zones reported db) (batches : List Batch) :
    Pictures pg zones
      (fun record => reported record ∨ ∃ batch ∈ batches, record ∈ batch.storable settings)
      (GeoTrack.run pg settings db (batches.map Op.batch)) := by
  induction batches generalizing reported db with
  | nil => simpa using pictured
  | cons batch rest ih =>
      rw [List.map_cons, run_cons, step_batch]
      have continued := ih (@Pictures.outcome pg settings zones reported db pictured batch)
      simpa [or_assoc] using continued

variable {other : Db}

/-- Reports are told apart by their device and time. -/
def Distinct (reported : LocationRecord → Prop) : Prop :=
  ∀ first second, reported first → reported second → first.deviceId = second.deviceId →
    first.reportedMs = second.reportedMs → first = second

theorem Pictures.position_le (pictured : Pictures pg zones reported db) {device : DeviceId}
    {row : PositionRow} (stored : db.devicePositions.get? device = some row)
    {record : LocationRecord} (applied : reported record) (sameDevice : record.deviceId = device) :
    record.reportedMs ≤ row.reportedAt := by
  obtain ⟨found, foundStored, bound⟩ := (pictured.covered record applied).positioned
  rw [sameDevice, stored] at foundStored
  obtain rfl := Option.some.inj foundStored
  exact bound

theorem Pictures.position_of_stored (pictured : Pictures pg zones reported db)
    (otherPictured : Pictures pg zones reported other) (distinct : Distinct reported)
    {device : DeviceId} {row : PositionRow} (stored : db.devicePositions.get? device = some row) :
    ∃ otherRow, other.devicePositions.get? device = some otherRow ∧
      otherRow.position = row.position ∧ otherRow.reportedAt = row.reportedAt := by
  obtain ⟨record, applied, rfl, samePosition, sameTime⟩ := pictured.positioned device row stored
  obtain ⟨otherRow, otherStored, bound⟩ := (otherPictured.covered record applied).positioned
  obtain ⟨newest, newestApplied, sameDevice, newestPosition, newestTime⟩ :=
    otherPictured.positioned record.deviceId otherRow otherStored
  have noNewer : newest.reportedMs ≤ row.reportedAt :=
    pictured.position_le stored newestApplied sameDevice
  have sameReport : newest = record :=
    distinct newest record newestApplied applied sameDevice (by omega)
  subst sameReport
  exact ⟨otherRow, otherStored, newestPosition.symm.trans samePosition, by omega⟩

theorem Pictures.history_of_stored (pictured : Pictures pg zones reported db)
    (otherPictured : Pictures pg zones reported other) (distinct : Distinct reported)
    {key : DeviceId × ℤ} {row : HistoryRow} (stored : db.locationHistory.get? key = some row) :
    other.locationHistory.get? key = some row := by
  obtain ⟨record, applied, entry⟩ := pictured.archived key row stored
  obtain ⟨rfl, rfl⟩ := Prod.mk.inj entry
  obtain ⟨otherRow, otherStored⟩ :=
    Dict.mem_iff_exists.mp (otherPictured.covered record applied).archived
  obtain ⟨twin, twinApplied, twinEntry⟩ := otherPictured.archived _ otherRow otherStored
  obtain ⟨sameKey, sameRow⟩ := Prod.mk.inj twinEntry
  obtain ⟨sameDevice, sameTime⟩ := Prod.mk.inj sameKey
  have sameReport : twin = record := distinct twin record twinApplied applied sameDevice sameTime
  subst sameReport
  rw [otherStored, ← sameRow]

theorem Pictures.present_of_present (pictured : Pictures pg zones reported db)
    (otherPictured : Pictures pg zones reported other) (distinct : Distinct reported)
    {zoneId : Uuid} {device : DeviceId} (isPresent : (zoneId, device) ∈ db.zonePresence) :
    (zoneId, device) ∈ other.zonePresence := by
  obtain ⟨zone, row, zoneStored, stored, within⟩ := (pictured.present zoneId device).mp isPresent
  obtain ⟨otherRow, otherStored, samePosition, _⟩ :=
    pictured.position_of_stored otherPictured distinct stored
  rw [← samePosition] at within
  exact (otherPictured.present zoneId device).mpr ⟨zone, otherRow, zoneStored, otherStored, within⟩

/-- The visible part of a position row. -/
def PositionRow.fix (row : PositionRow) : Point × ℤ := (row.position, row.reportedAt)

theorem Pictures.fix_eq (pictured : Pictures pg zones reported db)
    (otherPictured : Pictures pg zones reported other) (distinct : Distinct reported)
    (device : DeviceId) :
    (db.devicePositions.get? device).map PositionRow.fix =
      (other.devicePositions.get? device).map PositionRow.fix := by
  cases stored : db.devicePositions.get? device with
  | some row =>
      obtain ⟨otherRow, otherStored, samePosition, sameTime⟩ :=
        pictured.position_of_stored otherPictured distinct stored
      rw [otherStored, Option.map_some, Option.map_some, PositionRow.fix, PositionRow.fix,
        samePosition, sameTime]
  | none =>
      cases otherStored : other.devicePositions.get? device with
      | none => rfl
      | some otherRow =>
          obtain ⟨row, impossible, _⟩ :=
            otherPictured.position_of_stored pictured distinct otherStored
          rw [stored] at impossible
          cases impossible

end Pictures

/-- Two runs that apply the same storable reports, in any order, batching and
repetition, end with the same positions, history and presence. -/
theorem final_tables_eq (pg : Postgis) (settings : StorageSettings) (users : KeySet Uuid)
    (zones : Dict Uuid ZoneRow) (first second : List Batch)
    (firstStorable : ∀ batch ∈ first, ∀ record ∈ batch.records,
      Storable settings batch.clockMs record)
    (secondStorable : ∀ batch ∈ second, ∀ record ∈ batch.records,
      Storable settings batch.clockMs record)
    (sameReports : ∀ record,
      (∃ batch ∈ first, record ∈ batch.records) ↔ ∃ batch ∈ second, record ∈ batch.records)
    (distinct : Distinct fun record => ∃ batch ∈ first, record ∈ batch.records) :
    let start : Db := { Db.fresh users with geozones := zones }
    let one := run pg settings start (first.map Op.batch)
    let two := run pg settings start (second.map Op.batch)
    (∀ device, (one.devicePositions.get? device).map PositionRow.fix =
        (two.devicePositions.get? device).map PositionRow.fix) ∧
      (∀ key, one.locationHistory.get? key = two.locationHistory.get? key) ∧
      ∀ pair, pair ∈ one.zonePresence ↔ pair ∈ two.zonePresence := by
  intro start one two
  have reportedBy : ∀ batches : List Batch,
      (∀ batch ∈ batches, ∀ record ∈ batch.records, Storable settings batch.clockMs record) →
      Pictures pg zones (fun record => ∃ batch ∈ batches, record ∈ batch.records)
        (run pg settings start (batches.map Op.batch)) := by
    intro batches allStorable
    have empty : Pictures pg zones (fun _ => False) start := pictures_fresh users
    have pictured := @Pictures.run pg settings zones _ start empty batches
    have sameSet : (fun record => False ∨ ∃ batch ∈ batches, record ∈ batch.storable settings) =
        fun record => ∃ batch ∈ batches, record ∈ batch.records := by
      funext record
      simp only [false_or]
      apply propext
      constructor
      · rintro ⟨batch, listed, storable⟩
        exact ⟨batch, listed, (mem_splitStorable_fst.mp storable).1⟩
      · rintro ⟨batch, listed, given⟩
        exact ⟨batch, listed,
          mem_splitStorable_fst.mpr ⟨given, allStorable batch listed record given⟩⟩
    rw [sameSet] at pictured
    exact pictured
  have onePictured := reportedBy first firstStorable
  have twoPictured := reportedBy second secondStorable
  rw [← funext fun record => propext (sameReports record)] at twoPictured
  refine ⟨onePictured.fix_eq twoPictured distinct, ?_, ?_⟩
  · intro key
    apply Option.ext
    intro row
    exact ⟨onePictured.history_of_stored twoPictured distinct,
      twoPictured.history_of_stored onePictured distinct⟩
  · rintro ⟨zoneId, device⟩
    exact ⟨onePictured.present_of_present twoPictured distinct,
      twoPictured.present_of_present onePictured distinct⟩

theorem final_tables_eq_reversed :
    let zones : Dict Uuid ZoneRow :=
      Dict.set ∅ 7 ⟨1, "depot", "#3fb1ff", ⟨0, 0⟩, 500, true, true, none, 1, 0, 0⟩
    let start : Db := { Db.fresh (KeySet.add ∅ 1) with geozones := zones }
    let early : LocationRecord := ⟨"truck", 3, 3, 5, 5⟩
    let late : LocationRecord := ⟨"truck", 0, 0, 9, 9⟩
    ∀ pair,
      pair ∈ (run .tangentPlane ⟨30, 60⟩ start [.batch ⟨0, 0, [early, late]⟩]).zonePresence ↔
        pair ∈ (run .tangentPlane ⟨30, 60⟩ start
          [.batch ⟨10, 10, [late]⟩, .batch ⟨20, 20, [early, late]⟩]).zonePresence := by
  intro zones start early late
  refine (final_tables_eq .tangentPlane ⟨30, 60⟩ (KeySet.add ∅ 1) zones
    [⟨0, 0, [early, late]⟩] [⟨10, 10, [late]⟩, ⟨20, 20, [early, late]⟩]
    (by decide +kernel) (by decide +kernel) ?_ ?_).2.2
  · intro record
    simp only [List.mem_cons, List.not_mem_nil, or_false, exists_eq_left, exists_eq_or_imp]
    tauto
  · intro first second firstGiven secondGiven _ sameTime
    simp only [List.mem_cons, List.not_mem_nil, or_false, exists_eq_left] at firstGiven secondGiven
    rcases firstGiven with rfl | rfl <;> rcases secondGiven with rfl | rfl
    · rfl
    · exact absurd sameTime (by decide)
    · exact absurd sameTime (by decide)
    · rfl

end GeoTrack
