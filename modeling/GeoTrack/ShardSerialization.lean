import GeoTrack.AlertHistory
import GeoTrack.ReplayedBatches
import GeoTrack.ShardTransactions

/-!
# Two owners of one shard behave as one

The lock is granted before the history statement starts, so a transaction that
is past the grant has seen every commit of the others, and nobody commits
until it is done.  Its statements therefore compute on the committed tables
what they would compute if the transaction ran alone.

What the lock does not order is the sequence: numbers drawn by a transaction
that rolls back leave a gap that a serial run does not have.
-/

namespace GeoTrack

/-- The same tables, apart from the numbers of the alerts. -/
structure Agree (actual expected : Db) : Prop where
  users : actual.users = expected.users
  geozones : actual.geozones = expected.geozones
  devicePositions : actual.devicePositions = expected.devicePositions
  zonePresence : actual.zonePresence = expected.zonePresence
  locationHistory : actual.locationHistory = expected.locationHistory
  alerts : actual.alerts.map AlertRow.toAlertBody = expected.alerts.map AlertRow.toAlertBody

namespace Agree

variable {actual expected : Db}

theorem refl (db : Db) : Agree db db := ⟨rfl, rfl, rfl, rfl, rfl, rfl⟩

theorem drawAlertIds (agree : Agree actual expected) (count : ℕ) :
    Agree (actual.drawAlertIds count) expected :=
  ⟨agree.users, agree.geozones, agree.devicePositions, agree.zonePresence,
    agree.locationHistory, agree.alerts⟩

theorem reports (agree : Agree actual expected) (settings : StorageSettings) (batch : Batch) :
    batch.reports settings actual = batch.reports settings expected := by
  rw [Batch.reports, Batch.reports, agree.devicePositions]

theorem batchWrites (agree : Agree actual expected) (pg : Postgis) (now : ℤ)
    (reports : List LocationRecord) :
    GeoTrack.batchWrites pg now actual reports = GeoTrack.batchWrites pg now expected reports := by
  have sameTransitions : transitions pg actual reports = transitions pg expected reports := by
    unfold transitions exitTransitions exitTransition
    rw [agree.geozones, agree.zonePresence]
  have sameRow : presenceRow actual = presenceRow expected := by
    funext transition
    rw [presenceRow, presenceRow, agree.zonePresence]
  rw [GeoTrack.batchWrites, GeoTrack.batchWrites, sameTransitions, sameRow]

end Agree

section Serialization

variable {pg : Postgis} {settings : StorageSettings} {jobs : TxId → Batch} {start : Db}

/-- What the statements of an open transaction have computed is what they
would compute on the committed tables as they are now.  With `exact` the
sequence has no gaps. -/
def StageSound (pg : Postgis) (settings : StorageSettings) (exact : Prop) (db expected : Db)
    (job : Batch) : TxStage → Prop
  | .archiving snapshot => snapshot = db
  | .archived entries => entries = historyInserts db (job.storable settings)
  | .applying entries snapshot =>
      entries = historyInserts db (job.storable settings) ∧ snapshot = db
  | .applied entries writes rows =>
      entries = historyInserts db (job.storable settings) ∧
        writes = batchWrites pg job.now db (job.reports settings db) ∧
        rows.accepted = (job.reports settings db).map LocationRecord.acceptedItem ∧
        ∃ first, rows.alerts = numberAlerts first writes.alerts ∧
          (∀ alert ∈ db.alerts, alert.id < first) ∧
          first + writes.alerts.length ≤ db.nextAlertId ∧
          (exact → first = expected.nextAlertId ∧
            first + writes.alerts.length = db.nextAlertId)
  | _ => True

/-- A transaction returned what it would have returned in its place of the
serial order. -/
def Returned (pg : Postgis) (settings : StorageSettings) (exact : Prop) (expected : Db)
    (job : Batch) (rows : BatchRows) : Prop :=
  rows.accepted = (job.reports settings expected).map LocationRecord.acceptedItem ∧
    rows.alerts.map AlertRow.toAlertBody =
      (job.raised settings pg expected).map AlertRow.toAlertBody ∧
    (exact → rows.alerts = job.raised settings pg expected)

/-- The invariant of a shard. -/
structure Serializes (pg : Postgis) (settings : StorageSettings) (jobs : TxId → Batch)
    (start : Db) (exact : Prop) (shard : ShardDb) : Prop where
  agrees : Agree shard.db (ShardDb.serial pg settings jobs start shard.log)
  increasing : (shard.db.alerts.map AlertRow.id).Pairwise (· < ·)
  drawn : ∀ alert ∈ shard.db.alerts, alert.id < shard.db.nextAlertId
  locking : ∀ tx, (shard.stages tx).holdsLock = true ↔ shard.lock = some tx
  running : ∀ tx, shard.lock = some tx → StageSound pg settings exact shard.db
    (ShardDb.serial pg settings jobs start shard.log) (jobs tx) (shard.stages tx)
  returned : ∀ earlier entry later, shard.log = earlier ++ entry :: later →
    Returned pg settings exact (ShardDb.serial pg settings jobs start earlier) (jobs entry.1)
      entry.2
  exactAlerts : exact →
    shard.db.alerts = (ShardDb.serial pg settings jobs start shard.log).alerts
  exactNext : exact → (∀ tx entries writes rows,
      shard.stages tx ≠ .applied entries writes rows) →
    shard.db.nextAlertId = (ShardDb.serial pg settings jobs start shard.log).nextAlertId

namespace Serializes

variable {exact : Prop} {shard : ShardDb} {tx : TxId}

theorem atStart (increasing : (start.alerts.map AlertRow.id).Pairwise (· < ·))
    (drawn : ∀ alert ∈ start.alerts, alert.id < start.nextAlertId) :
    Serializes pg settings jobs start exact (ShardDb.start start) where
  agrees := Agree.refl start
  increasing := increasing
  drawn := drawn
  locking := by simp [ShardDb.start, TxStage.holdsLock]
  running := by simp [ShardDb.start]
  returned := by simp [ShardDb.start]
  exactAlerts _ := rfl
  exactNext _ _ := rfl

theorem stage_of_unlocked (inv : Serializes pg settings jobs start exact shard)
    (unlocked : shard.lock ≠ some tx) : (shard.stages tx).holdsLock = false := by
  rw [← Bool.not_eq_true, inv.locking]
  exact unlocked

theorem noneApplied_of_setStage {stage : TxStage}
    (unapplied : ∀ entries writes rows, shard.stages tx ≠ .applied entries writes rows)
    (noneApplied : ∀ other entries writes rows,
      (shard.setStage tx stage).stages other ≠ .applied entries writes rows) :
    ∀ other entries writes rows, shard.stages other ≠ .applied entries writes rows := by
  intro other entries writes rows
  by_cases same : other = tx
  · exact same ▸ unapplied entries writes rows
  · have still := noneApplied other entries writes rows
    rwa [ShardDb.stages_setStage_of_ne _ same] at still

/-- A step that computes something without ending the transaction. -/
theorem setStage (inv : Serializes pg settings jobs start exact shard) {stage : TxStage}
    (sameLock : stage.holdsLock = (shard.stages tx).holdsLock)
    (sound : StageSound pg settings exact shard.db
      (ShardDb.serial pg settings jobs start shard.log) (jobs tx) stage)
    (unapplied : ∀ entries writes rows, shard.stages tx ≠ .applied entries writes rows) :
    Serializes pg settings jobs start exact (shard.setStage tx stage) where
  agrees := inv.agrees
  increasing := inv.increasing
  drawn := inv.drawn
  locking := by
    intro other
    by_cases same : other = tx
    · subst same
      rw [ShardDb.stages_setStage_self, sameLock]
      exact inv.locking other
    · rw [ShardDb.stages_setStage_of_ne _ same]
      exact inv.locking other
  running := by
    intro other holds
    by_cases same : other = tx
    · subst same
      rw [ShardDb.stages_setStage_self]
      exact sound
    · rw [ShardDb.stages_setStage_of_ne _ same]
      exact inv.running other holds
  returned := inv.returned
  exactAlerts := inv.exactAlerts
  exactNext := by
    intro isExact noneApplied
    exact inv.exactNext isExact (noneApplied_of_setStage unapplied noneApplied)

theorem acquire (inv : Serializes pg settings jobs start exact shard) (free : shard.lock = none) :
    Serializes pg settings jobs start exact
      { shard.setStage tx .locked with lock := some tx } where
  agrees := inv.agrees
  increasing := inv.increasing
  drawn := inv.drawn
  locking := by
    intro other
    by_cases same : other = tx
    · subst same
      simp [TxStage.holdsLock]
    · have idle : (shard.stages other).holdsLock = false :=
        inv.stage_of_unlocked (by rw [free]; exact nofun)
      simp [same, idle, Ne.symm same]
  running := by
    intro other holds
    obtain rfl : tx = other := Option.some.inj holds
    simp [StageSound]
  returned := inv.returned
  exactAlerts := inv.exactAlerts
  exactNext := by
    intro isExact _
    apply inv.exactNext isExact
    intro other entries writes rows applied
    have idle : (shard.stages other).holdsLock = false :=
      inv.stage_of_unlocked (by rw [free]; exact nofun)
    rw [applied] at idle
    cases idle

/-- The end of a transaction frees its lock and nobody else's. -/
theorem locking_close (inv : Serializes pg settings jobs start exact shard) {stage : TxStage}
    (ended : stage.holdsLock = false) (other : TxId) :
    ((shard.close tx stage).stages other).holdsLock = true ↔
      (shard.close tx stage).lock = some other := by
  have known := inv.locking other
  by_cases same : other = tx
  · subst same
    by_cases held : shard.lock = some other <;> simp [ShardDb.close, ended, held]
  · by_cases held : shard.lock = some tx
    · simp [ShardDb.close, same, held, known, Ne.symm same]
    · simp [ShardDb.close, same, held, known]

/-- Ids that are drawn and not used change no alert. -/
theorem increasing_drawAlertIds (inv : Serializes pg settings jobs start exact shard) (count : ℕ) :
    ((shard.db.drawAlertIds count).alerts.map AlertRow.id).Pairwise (· < ·) :=
  inv.increasing

theorem drawn_drawAlertIds (inv : Serializes pg settings jobs start exact shard) (count : ℕ) :
    ∀ alert ∈ (shard.db.drawAlertIds count).alerts,
      alert.id < (shard.db.drawAlertIds count).nextAlertId :=
  fun alert listed => Nat.lt_of_lt_of_le (inv.drawn alert listed) (Nat.le_add_right _ _)

theorem rollback (inv : Serializes pg settings jobs start exact shard) (count : ℕ)
    (quiet : shard.lock ≠ some tx → count = 0)
    (harmless : exact → count = 0 ∧
      ∀ entries writes rows, shard.stages tx ≠ .applied entries writes rows) :
    Serializes pg settings jobs start exact
      { shard.close tx .rolledBack with db := shard.db.drawAlertIds count } where
  agrees := inv.agrees.drawAlertIds count
  increasing := inv.increasing_drawAlertIds count
  drawn := inv.drawn_drawAlertIds count
  locking := inv.locking_close rfl
  running := by
    intro other holds
    change (if shard.lock = some tx then none else shard.lock) = some other at holds
    split at holds
    case isTrue => cases holds
    case isFalse unlocked =>
        have different : other ≠ tx := by
          rintro rfl
          exact unlocked holds
        obtain rfl := quiet unlocked
        have running := inv.running other holds
        rw [← ShardDb.stages_setStage_of_ne shard different .rolledBack] at running
        exact running
  returned := inv.returned
  exactAlerts := inv.exactAlerts
  exactNext := by
    intro isExact noneApplied
    obtain ⟨rfl, unapplied⟩ := harmless isExact
    exact inv.exactNext isExact (noneApplied_of_setStage unapplied noneApplied)

theorem finish (inv : Serializes pg settings jobs start exact shard)
    {entries : List ((DeviceId × ℤ) × HistoryRow)} {snapshot : Db}
    (stage : shard.stages tx = .applying entries snapshot) :
    let writes := GeoTrack.batchWrites pg (jobs tx).now shard.db
      ((jobs tx).reports settings shard.db)
    let rows : BatchRows :=
      { accepted := ((jobs tx).reports settings shard.db).map LocationRecord.acceptedItem
        alerts := numberAlerts shard.db.nextAlertId writes.alerts }
    Serializes pg settings jobs start exact
      { shard.setStage tx (.applied entries writes rows) with
        db := shard.db.drawAlertIds writes.alerts.length } := by
  intro writes rows
  have holds : shard.lock = some tx := by
    rw [← inv.locking, stage]
    rfl
  have sound := inv.running tx holds
  rw [stage] at sound
  obtain ⟨sameEntries, _⟩ := sound
  constructor
  case agrees => exact inv.agrees.drawAlertIds writes.alerts.length
  case increasing => exact inv.increasing_drawAlertIds writes.alerts.length
  case drawn => exact inv.drawn_drawAlertIds writes.alerts.length
  case locking =>
    intro other
    by_cases same : other = tx
    · subst same
      rw [ShardDb.stages_setStage_self]
      exact iff_of_true rfl holds
    · have known := inv.locking other
      rw [← ShardDb.stages_setStage_of_ne shard same (.applied entries writes rows)] at known
      exact known
  case running =>
    intro other holdsOther
    obtain rfl : tx = other := Option.some.inj (holds.symm.trans holdsOther)
    rw [ShardDb.stages_setStage_self]
    refine ⟨sameEntries, rfl, rfl, shard.db.nextAlertId, rfl, inv.drawn, le_rfl, ?_⟩
    intro isExact
    refine ⟨inv.exactNext isExact ?_, rfl⟩
    intro other otherEntries otherWrites otherRows applied
    have holdsToo := (inv.locking other).mp (by rw [applied]; rfl)
    obtain rfl : tx = other := Option.some.inj (holds.symm.trans holdsToo)
    rw [stage] at applied
    cases applied
  case returned => exact inv.returned
  case exactAlerts => exact inv.exactAlerts
  case exactNext =>
    intro _ noneApplied
    exact absurd (ShardDb.stages_setStage_self shard tx _) (noneApplied tx entries writes rows)

theorem serial_snoc (log : List (TxId × BatchRows)) (entry : TxId × BatchRows) :
    ShardDb.serial pg settings jobs start (log ++ [entry]) =
      (jobs entry.1).outcome settings pg (ShardDb.serial pg settings jobs start log) := by
  rw [ShardDb.serial, List.map_append]
  exact (run_snoc pg settings start _ _).trans (step_batch pg settings _ _)

/-- Committing what was computed on agreeing tables keeps them in agreement. -/
theorem agree_commit {db expected : Db} (agree : Agree db expected) (batch : Batch) (first : ℕ) :
    let writes := GeoTrack.batchWrites pg batch.now db (batch.reports settings db)
    let archived : Db :=
      { db with
        locationHistory :=
          db.locationHistory.addAllNew (historyInserts db (batch.storable settings)) }
    Agree (archived.commitWrites writes (numberAlerts first writes.alerts))
      (batch.outcome settings pg expected) := by
  intro writes archived
  have sameWrites : writes =
      GeoTrack.batchWrites pg batch.now expected (batch.reports settings expected) := by
    rw [← agree.reports settings batch]
    exact agree.batchWrites pg batch.now _
  rw [sameWrites]
  constructor
  case users => exact agree.users
  case geozones => exact agree.geozones
  case devicePositions =>
    change db.devicePositions.setAll _ = expected.devicePositions.setAll _
    rw [agree.devicePositions]
  case zonePresence =>
    change (db.zonePresence.eraseAll _).setAll _ = (expected.zonePresence.eraseAll _).setAll _
    rw [agree.zonePresence]
  case locationHistory =>
    change db.locationHistory.addAllNew _ = expected.locationHistory.addAllNew _
    rw [historyInserts, Dict.addAllNew_filter _ _ _ fun _ known => known, agree.locationHistory]
  case alerts =>
    change (db.alerts ++ numberAlerts first _).map AlertRow.toAlertBody =
      (expected.alerts ++ numberAlerts _ _).map AlertRow.toAlertBody
    rw [List.map_append, List.map_append, map_body_numberAlerts, map_body_numberAlerts,
      agree.alerts]

theorem returned_commit {expected : Db} {db : Db} (agree : Agree db expected) {job : Batch}
    {rows : BatchRows} {first : ℕ}
    (acceptedRows : rows.accepted = (job.reports settings db).map LocationRecord.acceptedItem)
    (alertRows : rows.alerts = numberAlerts first
      (GeoTrack.batchWrites pg job.now db (job.reports settings db)).alerts)
    (exactFirst : exact → first = expected.nextAlertId) :
    Returned pg settings exact expected job rows := by
  rw [agree.reports settings job, agree.batchWrites] at alertRows
  rw [agree.reports settings job] at acceptedRows
  refine ⟨acceptedRows, ?_, ?_⟩
  · rw [alertRows, Batch.raised, map_body_numberAlerts, map_body_numberAlerts]
  · intro isExact
    rw [alertRows, exactFirst isExact]
    rfl

theorem commit (inv : Serializes pg settings jobs start exact shard)
    {entries : List ((DeviceId × ℤ) × HistoryRow)} {writes : BatchWrites} {rows : BatchRows}
    (stage : shard.stages tx = .applied entries writes rows) :
    let archived : Db :=
      { shard.db with locationHistory := shard.db.locationHistory.addAllNew entries }
    Serializes pg settings jobs start exact
      { shard.close tx .committed with
        db := archived.commitWrites writes rows.alerts
        log := shard.log ++ [(tx, rows)] } := by
  intro archived
  have holds : shard.lock = some tx := by
    rw [← inv.locking, stage]
    rfl
  have sound := inv.running tx holds
  rw [stage] at sound
  obtain ⟨rfl, rfl, acceptedRows, first, alertRows, fresh, bounded, exactly⟩ := sound
  have alertCount : rows.alerts.length = (GeoTrack.batchWrites pg (jobs tx).now shard.db
      ((jobs tx).reports settings shard.db)).alerts.length := by
    rw [alertRows, numberAlerts, List.length_map, List.length_zipIdx]
  have ids : rows.alerts.map AlertRow.id = List.range' first rows.alerts.length := by
    rw [alertCount, alertRows, map_id_numberAlerts]
  constructor
  case agrees =>
    rw [serial_snoc, alertRows]
    exact agree_commit inv.agrees (jobs tx) first
  case increasing =>
    change ((shard.db.alerts ++ rows.alerts).map AlertRow.id).Pairwise (· < ·)
    rw [List.map_append, List.pairwise_append, ids]
    refine ⟨inv.increasing, List.pairwise_lt_range', ?_⟩
    intro old oldListed new newListed
    obtain ⟨alert, listed, rfl⟩ := List.mem_map.mp oldListed
    have earlier := fresh alert listed
    have later := (List.mem_range'_1.mp newListed).1
    omega
  case drawn =>
    intro alert listed
    change alert.id < shard.db.nextAlertId
    rcases List.mem_append.mp listed with old | new
    · exact inv.drawn alert old
    · have numbered := List.mem_map_of_mem (f := AlertRow.id) new
      rw [ids] at numbered
      have below := (List.mem_range'_1.mp numbered).2
      omega
  case locking => exact inv.locking_close rfl
  case running =>
    intro other holdsOther
    change (if shard.lock = some tx then none else shard.lock) = some other at holdsOther
    rw [if_pos holds] at holdsOther
    cases holdsOther
  case returned =>
    intro earlier entry later cut
    rcases List.eq_nil_or_concat' later with rfl | ⟨init, last, rfl⟩
    · obtain ⟨rfl, rfl⟩ : shard.log = earlier ∧ (tx, rows) = entry := by
        have parts := List.append_inj' cut rfl
        exact ⟨parts.1, (List.cons.inj parts.2).1⟩
      exact returned_commit inv.agrees acceptedRows alertRows fun isExact => (exactly isExact).1
    · have parts := List.append_inj' (cut.trans (by simp : earlier ++ entry :: (init ++ [last]) =
        (earlier ++ entry :: init) ++ [last])) rfl
      exact inv.returned earlier entry init parts.1
  case exactAlerts =>
    intro isExact
    have same := returned_commit inv.agrees acceptedRows alertRows
      fun isExact => (exactly isExact).1
    rw [serial_snoc, Batch.alerts_outcome, ← inv.exactAlerts isExact, ← same.2.2 isExact]
    rfl
  case exactNext =>
    intro isExact _
    have same := returned_commit inv.agrees acceptedRows alertRows
      fun isExact => (exactly isExact).1
    obtain ⟨sameFirst, sameNext⟩ := exactly isExact
    rw [serial_snoc, Batch.nextAlertId_outcome, ← same.2.2 isExact]
    change shard.db.nextAlertId = _
    omega

end Serializes

theorem batchStatement_eq (batch : Batch) (db : Db) :
    batchStatement pg settings batch db =
      .ok (batch.reports settings db,
        batchWrites pg batch.now db (batch.reports settings db)) := by
  rw [batchStatement, Batch.deduped, accepted_of_nodup (nodup_latestPerDevice _) (by simp)]
  rfl

/-- No transaction is rolled back once its batch statement has started. -/
def Harmless (shard : ShardDb) (event : TxEvent) : Prop :=
  match event.action, shard.stages event.tx with
  | .rollback _, .applying _ _ => False
  | .rollback _, .applied _ _ _ => False
  | _, _ => True

theorem Serializes.step {exact : Prop} {shard after : ShardDb} {event : TxEvent}
    (inv : Serializes pg settings jobs start exact shard)
    (allowed : exact → Harmless shard event)
    (stepTo : ShardDb.step pg settings jobs shard event = some after) :
    Serializes pg settings jobs start exact after := by
  obtain ⟨tx, action⟩ := event
  have soundOf : ∀ stage, shard.stages tx = stage → stage.holdsLock = true →
      StageSound pg settings exact shard.db
        (ShardDb.serial pg settings jobs start shard.log) (jobs tx) stage := by
    rintro stage rfl held
    exact inv.running tx ((inv.locking tx).mp held)
  cases action <;> cases stage : shard.stages tx <;>
    simp only [ShardDb.step, stage, reduceCtorEq, Option.some.injEq] at stepTo
  case begin.idle =>
    subst stepTo
    exact inv.setStage (by rw [stage]; rfl) trivial (by simp [stage])
  case beginLockWait.begun =>
    subst stepTo
    exact inv.setStage (by rw [stage]; rfl) trivial (by simp [stage])
  case requestLock.budgeted =>
    subst stepTo
    exact inv.setStage (by rw [stage]; rfl) trivial (by simp [stage])
  case acquireLock.waiting =>
    split at stepTo
    case isTrue free =>
      obtain rfl := Option.some.inj stepTo
      exact inv.acquire free
    case isFalse => cases stepTo
  case endLockWait.locked =>
    subst stepTo
    exact inv.setStage (by rw [stage]; rfl) trivial (by simp [stage])
  case startHistory.restored =>
    subst stepTo
    exact inv.setStage (by rw [stage]; rfl) rfl (by simp [stage])
  case finishHistory.archiving snapshot =>
    subst stepTo
    obtain rfl : snapshot = shard.db := soundOf _ stage rfl
    exact inv.setStage (by rw [stage]; rfl) rfl (by simp [stage])
  case startBatch.archived entries =>
    subst stepTo
    exact inv.setStage (by rw [stage]; rfl) ⟨soundOf _ stage rfl, rfl⟩ (by simp [stage])
  case finishBatch.applying entries snapshot =>
    obtain ⟨_, rfl⟩ := soundOf _ stage rfl
    rw [batchStatement_eq] at stepTo
    obtain rfl := Option.some.inj stepTo
    exact inv.finish stage
  case commit.applied entries writes rows =>
    subst stepTo
    exact inv.commit stage
  case rollback.applying count entries snapshot =>
    subst stepTo
    have holds := (inv.locking tx).mp (by rw [stage]; rfl)
    refine inv.rollback count (fun unlocked => absurd holds unlocked) ?_
    intro isExact
    have impossible := allowed isExact
    simp [Harmless, stage] at impossible
  case rollback.applied count entries writes rows =>
    obtain rfl := Option.some.inj stepTo
    refine inv.rollback 0 (fun _ => rfl) ?_
    intro isExact
    have impossible := allowed isExact
    simp [Harmless, stage] at impossible
  -- before its batch statement a transaction has drawn nothing
  all_goals
    split at stepTo
    · obtain rfl := Option.some.inj stepTo
      exact inv.rollback 0 (fun _ => rfl) fun _ => ⟨rfl, by simp [stage]⟩
    · cases stepTo

theorem serializes_run {users : KeySet Uuid} {ops : List Op} {exact : Prop}
    {events : List TxEvent} {shard : ShardDb}
    (reached : LabelledRuns.Run (ShardDb.step pg settings jobs)
      (fun shard event => exact → Harmless shard event)
      (ShardDb.start (run pg settings (Db.fresh users) ops)) events shard) :
    Serializes pg settings jobs (run pg settings (Db.fresh users) ops) exact shard := by
  have kept : Kept (run pg settings (Db.fresh users) ops) := kept_run users ops
  apply reached.invariant (Serializes.atStart kept.increasing kept.drawn)
  intro before event after inv allowed stepTo
  exact inv.step allowed stepTo

/-- A transaction whose reports were all part of an earlier one returns nothing. -/
theorem Serializes.repeated {exact : Prop} {shard : ShardDb}
    (inv : Serializes pg settings jobs start exact shard)
    {earlier middle later : List (TxId × BatchRows)} {first second : TxId × BatchRows}
    (cut : shard.log = earlier ++ first :: (middle ++ second :: later))
    (repeats : ∀ record ∈ (jobs second.1).storable settings,
      record ∈ (jobs first.1).storable settings) :
    second.2.accepted = [] ∧ second.2.alerts = [] := by
  have returned := inv.returned (earlier ++ first :: middle) second later (by rw [cut]; simp)
  have covered : ∀ record ∈ (jobs second.1).storable settings,
      Covered (ShardDb.serial pg settings jobs start (earlier ++ first :: middle)) record := by
    intro record listed
    apply covered_of_applied
    rw [List.map_append, List.map_cons, appliedReports_append]
    exact List.mem_append_right _ (List.mem_append_left _ (repeats record listed))
  have nothing := reports_eq_nil covered
  refine ⟨?_, ?_⟩
  · rw [returned.1, nothing]
    rfl
  · have bodies := returned.2.1
    rw [Batch.raised, nothing, newAlerts_nil] at bodies
    exact List.map_eq_nil_iff.mp bodies

end Serialization

/-- Whatever the interleaving, the tables and the rows returned are those of the
committed transactions run one after the other in commit order, apart from the
numbers of alerts; the numbers increase in the same order, and they are the
same too if no transaction is rolled back once its batch statement has started.
A transaction that repeats an earlier one returns nothing. -/
theorem shard_serializable (pg : Postgis) (settings : StorageSettings) (users : KeySet Uuid)
    (ops : List Op) (jobs : TxId → Batch) (events : List TxEvent) (shard : ShardDb)
    (reached : LabelledRuns.Run (ShardDb.step pg settings jobs) LabelledRuns.Anything
      (ShardDb.start (run pg settings (Db.fresh users) ops)) events shard) :
    let start := run pg settings (Db.fresh users) ops
    let serial := ShardDb.serial pg settings jobs start
    (shard.db.devicePositions = (serial shard.log).devicePositions ∧
        shard.db.zonePresence = (serial shard.log).zonePresence ∧
        shard.db.locationHistory = (serial shard.log).locationHistory ∧
        shard.db.alerts.map AlertRow.toAlertBody =
          (serial shard.log).alerts.map AlertRow.toAlertBody ∧
        (shard.db.alerts.map AlertRow.id).Pairwise (· < ·)) ∧
      (∀ earlier entry later, shard.log = earlier ++ entry :: later →
        ∃ after rows,
          applyOnce pg (jobs entry.1).now (serial earlier) ((jobs entry.1).storable settings)
              ((jobs entry.1).deduped settings) = .ok (after, rows) ∧
            entry.2.accepted = rows.accepted ∧
            entry.2.alerts.map AlertRow.toAlertBody = rows.alerts.map AlertRow.toAlertBody) ∧
      (LabelledRuns.Run (ShardDb.step pg settings jobs) Harmless (ShardDb.start start) events
          shard →
        shard.db.alerts = (serial shard.log).alerts ∧
        ∀ earlier entry later, shard.log = earlier ++ entry :: later →
          ∃ after,
            applyOnce pg (jobs entry.1).now (serial earlier) ((jobs entry.1).storable settings)
              ((jobs entry.1).deduped settings) = .ok (after, entry.2)) ∧
      ∀ earlier first middle second later,
        shard.log = earlier ++ first :: (middle ++ second :: later) →
        (∀ record ∈ (jobs second.1).storable settings,
          record ∈ (jobs first.1).storable settings) →
        second.2.accepted = [] ∧ second.2.alerts = [] := by
  intro start serial
  have inv : Serializes pg settings jobs start False shard :=
    serializes_run (reached.mono fun _ _ _ => False.elim)
  refine ⟨⟨inv.agrees.devicePositions, inv.agrees.zonePresence, inv.agrees.locationHistory,
    inv.agrees.alerts, inv.increasing⟩, ?_, ?_, ?_⟩
  · intro earlier entry later cut
    obtain ⟨sameAccepted, sameAlerts, _⟩ := inv.returned earlier entry later cut
    exact ⟨_, _, Batch.applyOnce_eq, sameAccepted, sameAlerts⟩
  · intro harmless
    have exactInv : Serializes pg settings jobs start True shard :=
      serializes_run (harmless.mono fun _ _ allowed _ => allowed)
    refine ⟨exactInv.exactAlerts trivial, ?_⟩
    intro earlier entry later cut
    obtain ⟨sameAccepted, _, sameAlerts⟩ := exactInv.returned earlier entry later cut
    refine ⟨(jobs entry.1).outcome settings pg (serial earlier), ?_⟩
    rw [Batch.applyOnce_eq, ← sameAccepted, ← sameAlerts trivial]
  · intro earlier first middle second later cut repeats
    exact inv.repeated cut repeats

/-- The statements of one transaction up to the end of its batch statement. -/
def upToBatch (tx : TxId) : List TxEvent :=
  [.begin, .beginLockWait, .requestLock, .acquireLock, .endLockWait, .startHistory,
    .finishHistory, .startBatch, .finishBatch].map (TxEvent.mk tx)

/-- Two owners carry the same report from inside a zone. -/
def handoverJobs : TxId → Batch := fun _ => ⟨0, 0, [⟨"truck", 0, 0, 0, 0⟩]⟩

def depot : List Op := [.create 0 7 1 ⟨"depot", 0, 0, 500, none, true, true, none⟩ 10]

theorem shard_serializable_handover :
    ∃ shard, LabelledRuns.Run (ShardDb.step .tangentPlane ⟨30, 60⟩ handoverJobs)
        LabelledRuns.Anything
        (ShardDb.start (run .tangentPlane ⟨30, 60⟩ (Db.fresh (KeySet.add ∅ 1)) depot))
        (upToBatch 0 ++ [⟨0, .commit⟩] ++ upToBatch 1 ++ [⟨1, .commit⟩]) shard ∧
      shard.log.map (fun entry => entry.2.alerts.length) = [1, 0] ∧
      (shard.db.alerts.map AlertRow.id).Pairwise (· < ·) := by
  obtain ⟨shard, executed, alertCounts⟩ : ∃ shard,
      LabelledRuns.exec (ShardDb.step .tangentPlane ⟨30, 60⟩ handoverJobs)
        LabelledRuns.Anything
        (ShardDb.start (run .tangentPlane ⟨30, 60⟩ (Db.fresh (KeySet.add ∅ 1)) depot))
        (upToBatch 0 ++ [⟨0, .commit⟩] ++ upToBatch 1 ++ [⟨1, .commit⟩]) = some shard ∧
      shard.log.map (fun entry => entry.2.alerts.length) = [1, 0] := by
    apply LabelledRuns.exists_of_exec
    decide +kernel
  have reached := LabelledRuns.run_of_exec executed
  exact ⟨shard, reached, alertCounts,
    (shard_serializable .tangentPlane ⟨30, 60⟩ (KeySet.add ∅ 1) depot handoverJobs _ shard
      reached).1.2.2.2.2⟩

/-- A transaction that is rolled back after its batch statement costs a number:
the alert of the next one is not numbered as in a serial run. -/
theorem gap_after_rollback :
    ∃ shard, LabelledRuns.Run (ShardDb.step .tangentPlane ⟨30, 60⟩ handoverJobs)
        LabelledRuns.Anything
        (ShardDb.start (run .tangentPlane ⟨30, 60⟩ (Db.fresh (KeySet.add ∅ 1)) depot))
        (upToBatch 0 ++ [⟨0, .rollback 0⟩] ++ upToBatch 1 ++ [⟨1, .commit⟩]) shard ∧
      shard.db.alerts ≠ (ShardDb.serial .tangentPlane ⟨30, 60⟩ handoverJobs
        (run .tangentPlane ⟨30, 60⟩ (Db.fresh (KeySet.add ∅ 1)) depot) shard.log).alerts := by
  obtain ⟨shard, executed, different⟩ : ∃ shard,
      LabelledRuns.exec (ShardDb.step .tangentPlane ⟨30, 60⟩ handoverJobs)
        LabelledRuns.Anything
        (ShardDb.start (run .tangentPlane ⟨30, 60⟩ (Db.fresh (KeySet.add ∅ 1)) depot))
        (upToBatch 0 ++ [⟨0, .rollback 0⟩] ++ upToBatch 1 ++ [⟨1, .commit⟩]) = some shard ∧
      shard.db.alerts ≠ (ShardDb.serial .tangentPlane ⟨30, 60⟩ handoverJobs
        (run .tangentPlane ⟨30, 60⟩ (Db.fresh (KeySet.add ∅ 1)) depot) shard.log).alerts := by
    apply LabelledRuns.exists_of_exec
    decide +kernel
  exact ⟨shard, LabelledRuns.run_of_exec executed, different⟩

end GeoTrack
