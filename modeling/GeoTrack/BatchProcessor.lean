import GeoTrack.BatchTransitions
import GeoTrack.Geozones

/-!
# Applying batches to the database

`apply` is one call of the batch processor: split, thin out, then one
transaction that archives every storable report and runs the batch statement.
A run interleaves such calls with the zone operations of the API.

For a fixed device a batch is one of two things: the device was heard, and the
accepted report decides everything about it, or nothing about it changes.
-/

namespace GeoTrack

structure BatchResult where
  accepted : List PositionItem
  alerts : List AlertRow
  stale : ℤ
  rejected : List RejectedRecord
deriving DecidableEq

/-- The statements of `_apply_once` that touch the tables, in one transaction. -/
def applyOnce (pg : Postgis) (now : ℤ) (db : Db) (storable deduped : List LocationRecord) :
    Except SqlError (Db × BatchRows) :=
  applyBatch pg now (insertHistory db storable) deduped

/-- One call of `BatchProcessor.apply`, at time `clockMs` on the processor's
clock and time `now` on the server's. -/
structure Batch where
  clockMs : ℤ
  now : ℤ
  records : List LocationRecord

namespace Batch

variable (settings : StorageSettings)

def storable (batch : Batch) : List LocationRecord :=
  (splitStorable settings batch.clockMs batch.records).1

def rejected (batch : Batch) : List RejectedRecord :=
  (splitStorable settings batch.clockMs batch.records).2

def deduped (batch : Batch) : List LocationRecord :=
  latestPerDevice (batch.storable settings)

def apply (pg : Postgis) (db : Db) (batch : Batch) : Except SqlError (Db × BatchResult) :=
  if batch.storable settings = [] then
    .ok (db, { accepted := [], alerts := [], stale := 0, rejected := batch.rejected settings })
  else
    (applyOnce pg batch.now db (batch.storable settings) (batch.deduped settings)).map
      fun outcome =>
        (outcome.1,
          { accepted := outcome.2.accepted
            alerts := outcome.2.alerts
            stale := (batch.storable settings).length - outcome.2.accepted.length
            rejected := batch.rejected settings })

/-- The reports of the batch that are newer than the stored ones. -/
def reports (db : Db) (batch : Batch) : List LocationRecord :=
  (batch.deduped settings).filter (supersedes db.devicePositions)

/-- The report accepted for one device. -/
def heard (db : Db) (batch : Batch) (device : DeviceId) : Option LocationRecord :=
  (batch.reports settings db).find? fun record => record.deviceId = device

/-- The database after the batch. -/
def outcome (pg : Postgis) (db : Db) (batch : Batch) : Db :=
  let writes := batchWrites pg batch.now db (batch.reports settings db)
  ((insertHistory db (batch.storable settings)).commitWrites writes
    (numberAlerts db.nextAlertId writes.alerts)).drawAlertIds writes.alerts.length

/-- The alerts the batch raises. -/
def raised (pg : Postgis) (db : Db) (batch : Batch) : List AlertRow :=
  numberAlerts db.nextAlertId (batchWrites pg batch.now db (batch.reports settings db)).alerts

end Batch

section Outcome

variable {settings : StorageSettings} {pg : Postgis} {db : Db} {batch : Batch}

theorem Batch.nodup_reports :
    ((batch.reports settings db).map LocationRecord.deviceId).Nodup :=
  (nodup_latestPerDevice _).sublist (List.filter_sublist.map LocationRecord.deviceId)

/-- Without an accepted report the statement writes nothing. -/
theorem commitWrites_nil (now : ℤ) (other : Db) :
    db.commitWrites (batchWrites pg now other []) [] = db := by
  simp [Db.commitWrites, batchWrites, transitions, hits, exitTransitions, Dict.setAll,
    Dict.eraseAll, Dict.filter]

theorem newAlerts_nil (now : ℤ) (other : Db) :
    (batchWrites pg now other []).alerts = [] := by
  simp [batchWrites, transitions, hits, exitTransitions, newAlerts]

/-- The statement never fails for want of distinct devices. -/
theorem Batch.applyOnce_eq :
    applyOnce pg batch.now db (batch.storable settings) (batch.deduped settings) =
      .ok (batch.outcome settings pg db,
        { accepted := (batch.reports settings db).map LocationRecord.acceptedItem
          alerts := batch.raised settings pg db }) := by
  rw [applyOnce, Batch.deduped, applyBatch_of_nodup _ _ _ (nodup_latestPerDevice _)]
  rfl

theorem Batch.apply_eq :
    batch.apply settings pg db =
      .ok (batch.outcome settings pg db,
        { accepted := (batch.reports settings db).map LocationRecord.acceptedItem
          alerts := batch.raised settings pg db
          stale := (batch.storable settings).length - (batch.reports settings db).length
          rejected := batch.rejected settings }) := by
  unfold Batch.apply
  by_cases nothing : batch.storable settings = []
  · have noReports : batch.reports settings db = [] := by
      rw [Batch.reports, Batch.deduped, nothing]
      rfl
    have unchanged : batch.outcome settings pg db = db := by
      rw [Batch.outcome, noReports, newAlerts_nil, nothing]
      change db.commitWrites (batchWrites pg batch.now db []) [] = db
      exact commitWrites_nil batch.now db
    have silent : batch.raised settings pg db = [] := by
      rw [Batch.raised, noReports, newAlerts_nil]
      rfl
    rw [if_pos nothing, unchanged, silent, noReports, nothing]
    rfl
  · rw [if_neg nothing, Batch.applyOnce_eq]
    simp only [Except.map, List.length_map]

theorem Batch.mem_of_heard {device : DeviceId} {record : LocationRecord}
    (isHeard : batch.heard settings db device = some record) :
    record ∈ batch.reports settings db ∧ record.deviceId = device :=
  ⟨List.mem_of_find?_eq_some isHeard, by simpa using List.find?_some isHeard⟩

theorem Batch.heard_of_mem {record : LocationRecord}
    (listed : record ∈ batch.reports settings db) :
    batch.heard settings db record.deviceId = some record := by
  rw [Batch.heard, ← List.head?_filter, Dict.filter_key_eq_singleton Batch.nodup_reports listed]
  rfl

theorem Batch.absent_of_not_heard {device : DeviceId}
    (notHeard : batch.heard settings db device = none) :
    ∀ record ∈ batch.reports settings db, record.deviceId ≠ device := by
  intro record listed
  simpa using List.find?_eq_none.mp notHeard record listed

theorem Batch.mem_storable_of_heard {device : DeviceId} {record : LocationRecord}
    (isHeard : batch.heard settings db device = some record) :
    record ∈ batch.storable settings :=
  latestPerDevice_subset (List.mem_filter.mp (Batch.mem_of_heard isHeard).1).1

/-- An accepted report is newer than the stored one. -/
theorem Batch.newer_of_heard {device : DeviceId} {record : LocationRecord}
    (isHeard : batch.heard settings db device = some record) {row : PositionRow}
    (stored : db.devicePositions.get? device = some row) :
    row.reportedAt < record.reportedMs := by
  obtain ⟨listed, rfl⟩ := Batch.mem_of_heard isHeard
  have newer := (List.mem_filter.mp listed).2
  rw [supersedes, stored] at newer
  exact of_decide_eq_true newer

theorem Batch.position_of_not_heard {device : DeviceId}
    (notHeard : batch.heard settings db device = none) :
    (batch.outcome settings pg db).devicePositions.get? device =
      db.devicePositions.get? device :=
  position_of_absent pg batch.now db [] Batch.nodup_reports (Batch.absent_of_not_heard notHeard)

theorem Batch.position_of_heard {device : DeviceId} {record : LocationRecord}
    (isHeard : batch.heard settings db device = some record) :
    (batch.outcome settings pg db).devicePositions.get? device =
      some (record.positionRow batch.now) := by
  obtain ⟨listed, rfl⟩ := Batch.mem_of_heard isHeard
  exact position_of_mem pg batch.now db [] Batch.nodup_reports listed

theorem Batch.presence_of_not_heard {device : DeviceId}
    (notHeard : batch.heard settings db device = none) (zoneId : Uuid) :
    (batch.outcome settings pg db).zonePresence.get? (zoneId, device) =
      db.zonePresence.get? (zoneId, device) :=
  presence_of_absent pg batch.now db [] Batch.nodup_reports
    (Batch.absent_of_not_heard notHeard) zoneId

theorem Batch.presence_of_heard {device : DeviceId} {record : LocationRecord}
    (isHeard : batch.heard settings db device = some record) {zoneId : Uuid} {zone : ZoneRow}
    (stored : db.geozones.get? zoneId = some zone) :
    (batch.outcome settings pg db).zonePresence.get? (zoneId, device) =
      if pg.dWithin zone.center zone.radiusM record.position then
        some (presenceRow db (insideTransition db.zonePresence ⟨record, zoneId, zone⟩))
      else none := by
  obtain ⟨listed, rfl⟩ := Batch.mem_of_heard isHeard
  exact presence_of_mem pg batch.now db [] Batch.nodup_reports listed stored

theorem Batch.mem_presence_of_heard {device : DeviceId} {record : LocationRecord}
    (isHeard : batch.heard settings db device = some record) {zoneId : Uuid} {zone : ZoneRow}
    (stored : db.geozones.get? zoneId = some zone) :
    (zoneId, device) ∈ (batch.outcome settings pg db).zonePresence ↔
      pg.dWithin zone.center zone.radiusM record.position = true := by
  rw [Dict.mem_def, Batch.presence_of_heard isHeard stored]
  split
  case isTrue within => simp [within]
  case isFalse outside => simp [outside]

theorem Batch.presence_of_unstored {zoneId : Uuid} (device : DeviceId)
    (unstored : db.geozones.get? zoneId = none) :
    (batch.outcome settings pg db).zonePresence.get? (zoneId, device) =
      db.zonePresence.get? (zoneId, device) :=
  presence_of_no_zone pg batch.now db [] Batch.nodup_reports device unstored

/-- No batch moves a device back in time. -/
theorem Batch.position_grows {device : DeviceId} {row : PositionRow}
    (stored : db.devicePositions.get? device = some row) :
    ∃ later, (batch.outcome settings pg db).devicePositions.get? device = some later ∧
      row.reportedAt ≤ later.reportedAt := by
  cases isHeard : batch.heard settings db device with
  | none => exact ⟨row, (Batch.position_of_not_heard isHeard).trans stored, le_rfl⟩
  | some record =>
      have newer : row.reportedAt < record.reportedMs := Batch.newer_of_heard isHeard stored
      exact ⟨record.positionRow batch.now, Batch.position_of_heard isHeard, le_of_lt newer⟩

/-- After a batch the stored position is at least as new as every report in it. -/
theorem Batch.position_covers {record : LocationRecord}
    (listed : record ∈ batch.storable settings) :
    ∃ row, (batch.outcome settings pg db).devicePositions.get? record.deviceId = some row ∧
      record.reportedMs ≤ row.reportedAt := by
  obtain ⟨kept, isKept, sameDevice, bound⟩ := exists_latestPerDevice listed
  rw [← sameDevice]
  by_cases supersedes_ : supersedes db.devicePositions kept = true
  · have inReports : kept ∈ batch.reports settings db :=
      List.mem_filter.mpr ⟨isKept, supersedes_⟩
    exact ⟨kept.positionRow batch.now,
      Batch.position_of_heard (Batch.heard_of_mem inReports), bound⟩
  · obtain ⟨row, stored, recent⟩ : ∃ row, db.devicePositions.get? kept.deviceId = some row ∧
        kept.reportedMs ≤ row.reportedAt := by
      unfold supersedes at supersedes_
      cases stored : db.devicePositions.get? kept.deviceId with
      | none => simp [stored] at supersedes_
      | some row => exact ⟨row, rfl, by simpa [stored] using supersedes_⟩
    obtain ⟨later, storedLater, grows⟩ :=
      @Batch.position_grows settings pg db batch _ _ stored
    exact ⟨later, storedLater, le_trans bound (le_trans recent grows)⟩

theorem Batch.alerts_outcome :
    (batch.outcome settings pg db).alerts = db.alerts ++ batch.raised settings pg db :=
  rfl

theorem Batch.nextAlertId_outcome :
    (batch.outcome settings pg db).nextAlertId =
      db.nextAlertId + (batch.raised settings pg db).length := by
  rw [Batch.raised, numberAlerts, List.length_map, List.length_zipIdx]
  rfl

theorem Batch.history_outcome (key : DeviceId × ℤ) :
    (batch.outcome settings pg db).locationHistory.get? key =
      (db.locationHistory.get? key).or
        (Dict.lookupKey key ((batch.storable settings).map LocationRecord.historyEntry)) :=
  Dict.get?_addAllNew db.locationHistory _ key

end Outcome

/-- What can happen to the tables: a batch, or a zone operation of the API. -/
inductive Op where
  | batch (batch : Batch)
  | create (now : ℤ) (newId userId : Uuid) (payload : GeozoneCreate) (quota : ℕ)
  | replace (now : ℤ) (zoneId userId : Uuid) (payload : GeozoneCreate) (expected : Option ℤ)
  | patch (now : ℤ) (zoneId userId : Uuid) (changes : GeozonePatch) (expected : Option ℤ)
  | delete (zoneId userId : Uuid) (expected : Option ℤ)

/-- The tables after a transaction; one that fails is rolled back. -/
def committed {ε ρ : Type} (db : Db) (outcome : Except ε (Db × ρ)) : Db :=
  match outcome with
  | .ok (after, _) => after
  | .error _ => db

section Runs

variable (pg : Postgis) (settings : StorageSettings)

def step (db : Db) : Op → Db
  | .batch batch => committed db (batch.apply settings pg db)
  | .create now newId userId payload quota =>
      committed db (Geozones.create now db newId userId payload quota)
  | .replace now zoneId userId payload expected =>
      committed db (Geozones.replace now db zoneId userId payload expected)
  | .patch now zoneId userId changes expected =>
      committed db (Geozones.patch now db zoneId userId changes expected)
  | .delete zoneId userId expected => committed db (Geozones.delete db zoneId userId expected)

def run (db : Db) (ops : List Op) : Db := ops.foldl (step pg settings) db

/-- The operation is a batch that accepts a report of this device. -/
def Accepts (db : Db) (op : Op) (device : DeviceId) : Prop :=
  match op with
  | .batch batch =>
      ∃ after result, batch.apply settings pg db = .ok (after, result) ∧
        ∃ item ∈ result.accepted, item.deviceId = device
  | _ => False

@[simp]
theorem step_batch (db : Db) (batch : Batch) :
    step pg settings db (.batch batch) = batch.outcome settings pg db := by
  rw [step, Batch.apply_eq]
  rfl

@[simp]
theorem run_nil (db : Db) : run pg settings db [] = db :=
  rfl

theorem run_cons (db : Db) (op : Op) (rest : List Op) :
    run pg settings db (op :: rest) = run pg settings (step pg settings db op) rest :=
  rfl

@[simp]
theorem run_append (db : Db) (first second : List Op) :
    run pg settings db (first ++ second) = run pg settings (run pg settings db first) second :=
  List.foldl_append

theorem run_snoc (db : Db) (ops : List Op) (op : Op) :
    run pg settings db (ops ++ [op]) = step pg settings (run pg settings db ops) op := by
  rw [run_append]
  rfl

theorem accepts_batch_iff (db : Db) (batch : Batch) (device : DeviceId) :
    Accepts pg settings db (.batch batch) device ↔
      (batch.heard settings db device).isSome = true := by
  simp only [Accepts, Batch.apply_eq, Except.ok.injEq, Prod.mk.injEq]
  constructor
  · rintro ⟨_, _, ⟨_, rfl⟩, item, listed, rfl⟩
    obtain ⟨record, inReports, rfl⟩ := List.mem_map.mp listed
    exact Option.isSome_of_mem (Batch.heard_of_mem inReports)
  · intro isHeard
    obtain ⟨record, found⟩ := Option.isSome_iff_exists.mp isHeard
    obtain ⟨inReports, rfl⟩ := Batch.mem_of_heard found
    exact ⟨_, _, ⟨rfl, rfl⟩, record.acceptedItem, List.mem_map_of_mem inReports, rfl⟩

instance decidableAccepts (db : Db) (op : Op) (device : DeviceId) :
    Decidable (Accepts pg settings db op device) :=
  match op with
  | .batch batch => decidable_of_iff _ (accepts_batch_iff pg settings db batch device).symm
  | .create .. => isFalse id
  | .replace .. => isFalse id
  | .patch .. => isFalse id
  | .delete .. => isFalse id

/-- A zone operation does nothing, writes one zone row, or drops one zone. -/
inductive ZoneEffect (db : Db) : Db → Prop where
  | unchanged : ZoneEffect db db
  | written (zoneId : Uuid) (zone : ZoneRow) :
      ZoneEffect db { db with geozones := db.geozones.set zoneId zone }
  | dropped (zoneId : Uuid) : ZoneEffect db (Geozones.dropZone db zoneId)

theorem updateWhere_effect (db : Db) (zoneId userId : Uuid) (expected : Option ℤ)
    (assign : ZoneRow → ZoneRow) :
    ZoneEffect db (committed db (Geozones.updateWhere db zoneId userId expected assign)) := by
  unfold Geozones.updateWhere Geozones.explainMissingRow
  cases Geozones.writable db zoneId userId expected with
  | some zone => exact .written zoneId (assign zone)
  | none => cases Geozones.getForUser db zoneId userId <;> exact .unchanged

/-- Every operation is a batch or has the effect of a zone operation. -/
theorem step_cases (db : Db) (op : Op) :
    (∃ batch, op = .batch batch) ∨
      (∀ batch, op ≠ .batch batch) ∧ ZoneEffect db (step pg settings db op) := by
  cases op with
  | batch batch => exact Or.inl ⟨batch, rfl⟩
  | create now newId userId payload quota =>
      refine Or.inr ⟨nofun, ?_⟩
      simp only [step, Geozones.create]
      split
      · exact .unchanged
      · split
        · exact .unchanged
        · split
          · exact .unchanged
          · exact .written _ _
  | replace now zoneId userId payload expected =>
      exact Or.inr ⟨nofun, updateWhere_effect db zoneId userId expected _⟩
  | patch now zoneId userId changes expected =>
      refine Or.inr ⟨nofun, ?_⟩
      simp only [step, Geozones.patch]
      split
      · exact .unchanged
      · exact updateWhere_effect db zoneId userId expected _
  | delete zoneId userId expected =>
      refine Or.inr ⟨nofun, ?_⟩
      simp only [step, Geozones.delete, Geozones.explainMissingRow]
      cases Geozones.writable db zoneId userId expected with
      | some zone => exact .dropped zoneId
      | none => cases Geozones.getForUser db zoneId userId <;> exact .unchanged

end Runs

end GeoTrack
