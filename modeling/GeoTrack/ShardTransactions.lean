import GeoTrack.BatchProcessor
import GeoTrack.LabelledRuns
import Mathlib.Logic.Function.Basic

/-!
# Transactions of one shard

Any number of transactions of the batch processor run on one shard, statement
by statement under READ COMMITTED.  A statement reads the tables as they were
committed when it started, whatever it writes stays with its transaction until
the commit, and the advisory lock is held from the moment it is granted until
the transaction ends.

Numbers for alerts come from a sequence.  A sequence takes no part in
transactions: a number once drawn is gone, also when its transaction rolls
back.
-/

namespace GeoTrack

abbrev TxId := ℕ

/-- How far a transaction has come. -/
inductive TxStage where
  | idle
  | begun
  /-- `BEGIN_LOCK_WAIT_SQL` has set the budget. -/
  | budgeted
  /-- `LOCK_SHARD_SQL` waits for its turn. -/
  | waiting
  | locked
  /-- `END_LOCK_WAIT_SQL` has handed the budget back. -/
  | restored
  /-- `INSERT_HISTORY_SQL` runs on its snapshot. -/
  | archiving (snapshot : Db)
  | archived (entries : List ((DeviceId × ℤ) × HistoryRow))
  /-- `APPLY_BATCH_SQL` runs on its snapshot. -/
  | applying (entries : List ((DeviceId × ℤ) × HistoryRow)) (snapshot : Db)
  | applied (entries : List ((DeviceId × ℤ) × HistoryRow)) (writes : BatchWrites)
      (rows : BatchRows)
  | committed
  | rolledBack

namespace TxStage

/-- Between the grant of the lock and the end of the transaction. -/
def holdsLock : TxStage → Bool
  | .locked => true
  | .restored => true
  | .archiving _ => true
  | .archived _ => true
  | .applying _ _ => true
  | .applied _ _ _ => true
  | _ => false

/-- The transaction is open. -/
def live : TxStage → Bool
  | .begun => true
  | .budgeted => true
  | .waiting => true
  | stage => stage.holdsLock

end TxStage

/-- The shard as its transactions see it: what is committed, who holds the
lock, how far each transaction is, and what the committed ones returned. -/
structure ShardDb where
  db : Db
  lock : Option TxId
  stages : TxId → TxStage
  log : List (TxId × BatchRows)

inductive TxAction where
  | begin
  | beginLockWait
  | requestLock
  | acquireLock
  | endLockWait
  | startHistory
  | finishHistory
  | startBatch
  | finishBatch
  | commit
  /-- The transaction ends without a commit, for any reason.  A statement that
  is cut short may have drawn some of its numbers. -/
  | rollback (drawn : ℕ)

structure TxEvent where
  tx : TxId
  action : TxAction

section Statements

/-- The rows `INSERT_HISTORY_SQL` inserts, given what its snapshot shows. -/
def historyInserts (snapshot : Db) (records : List LocationRecord) :
    List ((DeviceId × ℤ) × HistoryRow) :=
  (records.map LocationRecord.historyEntry).filter fun entry =>
    decide (entry.1 ∉ snapshot.locationHistory)

variable (pg : Postgis) (settings : StorageSettings)

/-- The writes and the accepted reports of `APPLY_BATCH_SQL` on its snapshot. -/
def batchStatement (batch : Batch) (snapshot : Db) :
    Except SqlError (List LocationRecord × BatchWrites) :=
  (accepted snapshot.devicePositions [] (batch.deduped settings)).map fun reports =>
    (reports, batchWrites pg batch.now snapshot reports)

end Statements

namespace ShardDb

def start (db : Db) : ShardDb where
  db := db
  lock := none
  stages := fun _ => .idle
  log := []

def setStage (shard : ShardDb) (tx : TxId) (stage : TxStage) : ShardDb :=
  { shard with stages := Function.update shard.stages tx stage }

/-- End a transaction, which frees its lock. -/
def close (shard : ShardDb) (tx : TxId) (stage : TxStage) : ShardDb :=
  { shard.setStage tx stage with lock := if shard.lock = some tx then none else shard.lock }

@[simp]
theorem stages_setStage_self (shard : ShardDb) (tx : TxId) (stage : TxStage) :
    (shard.setStage tx stage).stages tx = stage :=
  Function.update_self ..

@[simp]
theorem stages_setStage_of_ne (shard : ShardDb) {tx other : TxId} (different : other ≠ tx)
    (stage : TxStage) : (shard.setStage tx stage).stages other = shard.stages other :=
  Function.update_of_ne different ..

@[simp]
theorem stages_close (shard : ShardDb) (tx : TxId) (stage : TxStage) :
    (shard.close tx stage).stages = (shard.setStage tx stage).stages :=
  rfl

variable (pg : Postgis) (settings : StorageSettings) (jobs : TxId → Batch)

/-- One statement boundary of one transaction. -/
def step (shard : ShardDb) (event : TxEvent) : Option ShardDb :=
  let tx := event.tx
  match event.action, shard.stages tx with
  | .begin, .idle => some (shard.setStage tx .begun)
  | .beginLockWait, .begun => some (shard.setStage tx .budgeted)
  | .requestLock, .budgeted => some (shard.setStage tx .waiting)
  | .acquireLock, .waiting =>
      if shard.lock = none then some { shard.setStage tx .locked with lock := some tx } else none
  | .endLockWait, .locked => some (shard.setStage tx .restored)
  | .startHistory, .restored => some (shard.setStage tx (.archiving shard.db))
  | .finishHistory, .archiving snapshot =>
      some (shard.setStage tx
        (.archived (historyInserts snapshot ((jobs tx).storable settings))))
  | .startBatch, .archived entries => some (shard.setStage tx (.applying entries shard.db))
  | .finishBatch, .applying entries snapshot =>
      match batchStatement pg settings (jobs tx) snapshot with
      | .error _ => some (shard.close tx .rolledBack)
      | .ok (reports, writes) =>
          let numbered := numberAlerts shard.db.nextAlertId writes.alerts
          let rows : BatchRows :=
            { accepted := reports.map LocationRecord.acceptedItem, alerts := numbered }
          some { shard.setStage tx (.applied entries writes rows) with
            db := shard.db.drawAlertIds writes.alerts.length }
  | .commit, .applied entries writes rows =>
      let archived : Db :=
        { shard.db with locationHistory := shard.db.locationHistory.addAllNew entries }
      some { shard.close tx .committed with
        db := archived.commitWrites writes rows.alerts
        log := shard.log ++ [(tx, rows)] }
  | .rollback drawn, stage =>
      match stage with
      | .applying _ _ =>
          some { shard.close tx .rolledBack with db := shard.db.drawAlertIds drawn }
      | _ => if stage.live then some (shard.close tx .rolledBack) else none
  | _, _ => none

/-- The committed transactions, run one after the other in commit order. -/
def serial (start : Db) (log : List (TxId × BatchRows)) : Db :=
  run pg settings start (log.map fun entry => .batch (jobs entry.1))

end ShardDb

end GeoTrack
