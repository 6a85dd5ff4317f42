import GeoTrack.BatchProcessor
import Mathlib.Data.List.Induction

/-!
# Replayed reports

Delivery is at least once, so reports that were stored before come back: alone
or in other company, out of order, repeated, from another owner of the shard,
after zones have changed.  A stored report has left a history row under its
key and a position at least as new, and no later operation takes either away.
That is enough to stop every path of the batch statement.
-/

namespace GeoTrack

section ReplayedBatches

variable (settings : StorageSettings)

/-- The reports that the transactions of a run were given. -/
def appliedReports : List Op → List LocationRecord
  | [] => []
  | .batch batch :: rest => batch.storable settings ++ appliedReports rest
  | _ :: rest => appliedReports rest

theorem appliedReports_append (first second : List Op) :
    appliedReports settings (first ++ second) =
      appliedReports settings first ++ appliedReports settings second := by
  induction first with
  | nil => rfl
  | cons op rest ih => cases op <;> simp [appliedReports, ih]

/-- The tables know this report or a newer one. -/
structure Covered (db : Db) (record : LocationRecord) : Prop where
  archived : (record.deviceId, record.reportedMs) ∈ db.locationHistory
  positioned : ∃ row, db.devicePositions.get? record.deviceId = some row ∧
    record.reportedMs ≤ row.reportedAt

variable {settings} {pg : Postgis}

theorem Covered.outcome {db : Db} {record : LocationRecord} (covered : Covered db record)
    (batch : Batch) : Covered (batch.outcome settings pg db) record := by
  obtain ⟨archived, row, stored, bound⟩ := covered
  obtain ⟨entry, found⟩ := Dict.mem_iff_exists.mp archived
  obtain ⟨later, storedLater, grows⟩ := @Batch.position_grows settings pg db batch _ _ stored
  constructor
  · rw [Dict.mem_def, Batch.history_outcome, found]
    rfl
  · exact ⟨later, storedLater, le_trans bound grows⟩

theorem Covered.zoneEffect {db after : Db} {record : LocationRecord}
    (covered : Covered db record) (effect : ZoneEffect db after) : Covered after record := by
  cases effect <;> exact ⟨covered.archived, covered.positioned⟩

theorem covered_of_storable {db : Db} {batch : Batch} {record : LocationRecord}
    (listed : record ∈ batch.storable settings) :
    Covered (batch.outcome settings pg db) record := by
  constructor
  · have keyListed : (record.deviceId, record.reportedMs) ∈
        ((batch.storable settings).map LocationRecord.historyEntry).map Prod.fst := by
      rw [List.map_map]
      exact List.mem_map_of_mem (f := Prod.fst ∘ LocationRecord.historyEntry) listed
    have found := mt Dict.lookupKey_eq_none_iff.mp (not_not.mpr keyListed)
    rw [Dict.mem_def, Batch.history_outcome, Option.isSome_or, Bool.or_eq_true]
    exact Or.inr (Option.isSome_iff_ne_none.mpr found)
  · exact Batch.position_covers listed

/-- Whatever a run has applied stays covered. -/
theorem covered_of_applied (db : Db) (ops : List Op) {record : LocationRecord}
    (applied : record ∈ appliedReports settings ops) :
    Covered (run pg settings db ops) record := by
  induction ops using List.reverseRecOn with
  | nil => simp [appliedReports] at applied
  | append_singleton ops op ih =>
      rw [appliedReports_append, List.mem_append] at applied
      rw [run_snoc]
      rcases step_cases pg settings (run pg settings db ops) op with
        ⟨batch, rfl⟩ | ⟨noBatch, effect⟩
      · rw [step_batch]
        rcases applied with earlier | now
        · exact (ih earlier).outcome batch
        · exact covered_of_storable (by simpa [appliedReports] using now)
      · have earlier : record ∈ appliedReports settings ops := by
          rcases applied with earlier | now
          · exact earlier
          · cases op with
            | batch batch => exact absurd rfl (noBatch batch)
            | create => simp [appliedReports] at now
            | replace => simp [appliedReports] at now
            | patch => simp [appliedReports] at now
            | delete => simp [appliedReports] at now
        exact (ih earlier).zoneEffect effect

/-- A batch of covered reports accepts nothing. -/
theorem reports_eq_nil {db : Db} {batch : Batch}
    (covered : ∀ record ∈ batch.storable settings, Covered db record) :
    batch.reports settings db = [] := by
  apply List.filter_eq_nil_iff.mpr
  intro record kept
  obtain ⟨row, stored, bound⟩ := (covered record (latestPerDevice_subset kept)).positioned
  rw [supersedes, stored]
  simpa using bound

theorem outcome_of_covered {db : Db} {batch : Batch}
    (covered : ∀ record ∈ batch.storable settings, Covered db record) :
    batch.outcome settings pg db = db := by
  have archived : insertHistory db (batch.storable settings) = db := by
    rw [insertHistory, Dict.addAllNew_of_forall_mem]
    intro entry listed
    obtain ⟨record, inBatch, rfl⟩ := List.mem_map.mp listed
    exact (covered record inBatch).archived
  rw [Batch.outcome, reports_eq_nil covered, archived, newAlerts_nil]
  change db.commitWrites (batchWrites pg batch.now db []) [] = db
  exact commitWrites_nil batch.now db

theorem run_of_covered {db : Db} {replay : List Batch}
    (covered : ∀ batch ∈ replay, ∀ record ∈ batch.storable settings, Covered db record) :
    run pg settings db (replay.map Op.batch) = db := by
  induction replay with
  | nil => rfl
  | cons batch rest ih =>
      have first : batch.outcome settings pg db = db :=
        outcome_of_covered (covered batch (List.mem_cons_self ..))
      rw [List.map_cons, run_cons, step_batch, first]
      exact ih fun other listed => covered other (List.mem_cons_of_mem _ listed)

/-- Whatever batches are cut from reports that a run has applied, each of them
leaves the tables as they are and has nothing to report. -/
theorem replay_unchanged (pg : Postgis) (settings : StorageSettings) (users : KeySet Uuid)
    (ops : List Op) (replay : List Batch)
    (applied : ∀ batch ∈ replay, ∀ record ∈ batch.records,
      record ∈ appliedReports settings ops) :
    run pg settings (run pg settings (Db.fresh users) ops) (replay.map Op.batch) =
        run pg settings (Db.fresh users) ops ∧
      ∀ earlier batch later, replay = earlier ++ batch :: later →
        ∃ result,
          batch.apply settings pg
              (run pg settings (run pg settings (Db.fresh users) ops) (earlier.map Op.batch)) =
            .ok (run pg settings (Db.fresh users) ops, result) ∧
          result.accepted = [] ∧ result.alerts = [] := by
  have covered : ∀ batch ∈ replay, ∀ record ∈ batch.storable settings,
      Covered (run pg settings (Db.fresh users) ops) record := by
    intro batch listed record storable
    have given : record ∈ batch.records := (mem_splitStorable_fst.mp storable).1
    exact covered_of_applied _ ops (applied batch listed record given)
  constructor
  · exact run_of_covered covered
  · rintro earlier batch later rfl
    have batchCovered := covered batch (by simp)
    rw [run_of_covered fun other listed => covered other (List.mem_append_left _ listed),
      Batch.apply_eq, outcome_of_covered batchCovered]
    refine ⟨_, rfl, ?_, ?_⟩
    · rw [reports_eq_nil batchCovered]
      rfl
    · rw [Batch.raised, reports_eq_nil batchCovered, newAlerts_nil]
      rfl

/-- The older of two reports of one batch, replayed later on its own. -/
theorem replay_unchanged_older :
    run .tangentPlane ⟨30, 60⟩ (run .tangentPlane ⟨30, 60⟩ (Db.fresh ∅)
        [.batch ⟨0, 0, [⟨"truck", 1, 1, 5, 5⟩, ⟨"truck", 2, 2, 9, 9⟩]⟩])
        [.batch ⟨20, 20, [⟨"truck", 1, 1, 5, 5⟩]⟩] =
      run .tangentPlane ⟨30, 60⟩ (Db.fresh ∅)
        [.batch ⟨0, 0, [⟨"truck", 1, 1, 5, 5⟩, ⟨"truck", 2, 2, 9, 9⟩]⟩] :=
  (replay_unchanged .tangentPlane ⟨30, 60⟩ ∅
    [.batch ⟨0, 0, [⟨"truck", 1, 1, 5, 5⟩, ⟨"truck", 2, 2, 9, 9⟩]⟩]
    [⟨20, 20, [⟨"truck", 1, 1, 5, 5⟩]⟩] (by decide +kernel)).1

end ReplayedBatches

end GeoTrack
