import GeoTrack.DashboardPresence
import GeoTrack.LabelledRuns

/-!
# Reading the alerts after a cursor

Alerts are numbered when they are inserted and become visible when their
transaction commits, and the shards commit independently of each other.  A
client that was away asks for the alerts after the highest number it has seen
and follows the pages to their end; commits go on between the pages.

The number of an alert that is inserted later is always higher, so what such a
reading can miss are the alerts of transactions that were open, with lower
numbers, when the client took its cursor.
-/

namespace GeoTrack

open LabelledRuns

section Pages

variable {db : Db} {userId : Uuid} {filter : AlertFilter} {limit : ℕ}

/-- The rows a page is cut from, newest first. -/
def matchingAlerts (db : Db) (userId : Uuid) (filter : AlertFilter) : List AlertRow :=
  (db.alerts.filter fun alert => alert.userId = userId && filter.admits alert).insertionSort
    fun first second => second.id ≤ first.id

theorem alertPage_items :
    (alertPage db userId filter limit).items =
      ((matchingAlerts db userId filter).take limit).map AlertRow.out :=
  rfl

theorem mem_matchingAlerts {alert : AlertRow} :
    alert ∈ matchingAlerts db userId filter ↔
      alert ∈ db.alerts ∧ alert.userId = userId ∧ filter.admits alert = true := by
  rw [matchingAlerts, List.mem_insertionSort, List.mem_filter, Bool.and_eq_true, decide_eq_true_iff]

/-- With distinct numbers, the rows come in strictly falling order. -/
theorem matchingAlerts_strict (distinct : (db.alerts.map AlertRow.id).Nodup) :
    (matchingAlerts db userId filter).Pairwise fun first second => second.id < first.id := by
  have sorted : (matchingAlerts db userId filter).Pairwise
      fun first second => second.id ≤ first.id := by
    have total : Std.Total fun first second : AlertRow => second.id ≤ first.id :=
      ⟨fun first second => le_total second.id first.id⟩
    have trans : IsTrans AlertRow fun first second => second.id ≤ first.id :=
      ⟨fun _ _ _ firstSecond secondThird => le_trans secondThird firstSecond⟩
    exact List.pairwise_insertionSort _ _
  have apart : (matchingAlerts db userId filter).Pairwise
      fun first second => first.id ≠ second.id := by
    apply List.pairwise_map.mp
    have sameRows := (List.perm_insertionSort (fun first second : AlertRow =>
      second.id ≤ first.id) (db.alerts.filter
        fun alert => alert.userId = userId && filter.admits alert)).map AlertRow.id
    exact sameRows.nodup_iff.mpr (distinct.sublist (List.filter_sublist.map AlertRow.id))
  exact (sorted.and apart).imp fun both => lt_of_le_of_ne both.1 (Ne.symm both.2)

/-- A matching alert is on the page, or the page hands out a cursor above it. -/
theorem mem_alertPage_or_below (distinct : (db.alerts.map AlertRow.id).Nodup)
    (positive : 0 < limit) {alert : AlertRow}
    (matching : alert ∈ matchingAlerts db userId filter) :
    alert.id ∈ (alertPage db userId filter limit).items.map AlertOut.id ∨
      ∃ cursor, (alertPage db userId filter limit).nextBeforeId = some cursor ∧
        alert.id < cursor := by
  have strict := @matchingAlerts_strict db userId filter distinct
  generalize rows : matchingAlerts db userId filter = sorted at *
  rw [← List.take_append_drop limit sorted, List.mem_append] at matching
  rcases matching with onPage | later
  · left
    rw [alertPage_items, rows, List.map_map]
    exact List.mem_map_of_mem onPage
  · right
    have full : (sorted.take limit).length = limit := by
      have longer := List.length_pos_of_mem later
      rw [List.length_drop] at longer
      rw [List.length_take]
      omega
    have nonempty : sorted.take limit ≠ [] := by
      rw [ne_eq, ← List.length_eq_zero_iff, full]
      omega
    refine ⟨((sorted.take limit).getLast nonempty).id, ?_, ?_⟩
    · have fullPage : ((alertPage db userId filter limit).items).length = limit := by
        rw [alertPage_items, rows, List.length_map, full]
      change (if (alertPage db userId filter limit).items.length = limit then
        (alertPage db userId filter limit).items.getLast?.map AlertOut.id else none) = _
      rw [if_pos fullPage, alertPage_items, rows, List.getLast?_map,
        List.getLast?_eq_some_getLast nonempty]
      rfl
    · rw [← List.take_append_drop limit sorted, List.pairwise_append] at strict
      exact strict.2.2 _ (List.getLast_mem nonempty) alert later

/-- Everything on a page passes the filter. -/
theorem exists_of_mem_alertPage {id : ℕ}
    (listed : id ∈ (alertPage db userId filter limit).items.map AlertOut.id) :
    ∃ alert ∈ db.alerts, alert.id = id ∧ alert.userId = userId ∧ filter.admits alert = true := by
  rw [alertPage_items, List.map_map, List.mem_map] at listed
  obtain ⟨alert, onPage, rfl⟩ := listed
  obtain ⟨stored, owned, admitted⟩ := mem_matchingAlerts.mp (List.mem_of_mem_take onPage)
  exact ⟨alert, stored, rfl, owned, admitted⟩

/-- The cursor is the number of an alert on the page. -/
theorem nextBeforeId_mem {cursor : ℕ}
    (handedOut : (alertPage db userId filter limit).nextBeforeId = some cursor) :
    cursor ∈ (alertPage db userId filter limit).items.map AlertOut.id := by
  change (if (alertPage db userId filter limit).items.length = limit then
    (alertPage db userId filter limit).items.getLast?.map AlertOut.id else none) = _ at handedOut
  split at handedOut
  case isTrue =>
      obtain ⟨last, isLast, rfl⟩ := Option.map_eq_some_iff.mp handedOut
      exact List.mem_map_of_mem (List.mem_of_getLast? isLast)
  case isFalse => cases handedOut

end Pages

/-- Names a shard transaction while it is open. -/
abbrev BatchTx := ℕ

/-- A transaction of one shard that has run its statements and not committed;
its alerts are numbered. -/
structure OpenBatch where
  storable : List LocationRecord
  writes : BatchWrites
  alerts : List AlertRow

/-- The committed tables and the open transactions of all shards. -/
structure AlertServer where
  db : Db
  openBatches : Dict BatchTx OpenBatch

inductive AlertEvent where
  | execute (tx : BatchTx) (batch : Batch)
  | commit (tx : BatchTx)
  | rollback (tx : BatchTx)
  | zone (op : Op)

namespace AlertServer

def idle (db : Db) : AlertServer := ⟨db, ∅⟩

variable (pg : Postgis) (settings : StorageSettings)

def step (server : AlertServer) : AlertEvent → Option AlertServer
  | .execute tx batch =>
      if tx ∈ server.openBatches ∨ batch.storable settings = [] then
        none
      else
        let writes := batchWrites pg batch.now server.db (batch.reports settings server.db)
        let numbered := numberAlerts server.db.nextAlertId writes.alerts
        -- identity values are drawn at once, whatever becomes of the transaction
        some
          { db := server.db.drawAlertIds writes.alerts.length
            openBatches := server.openBatches.set tx ⟨batch.storable settings, writes, numbered⟩ }
  | .commit tx =>
      (server.openBatches.get? tx).map fun batch =>
        { db := (insertHistory server.db batch.storable).commitWrites batch.writes batch.alerts
          openBatches := server.openBatches.erase tx }
  | .rollback tx =>
      (server.openBatches.get? tx).map fun _ =>
        { server with openBatches := server.openBatches.erase tx }
  | .zone op =>
      match op with
      | .batch _ => none
      | _ => some { server with db := GeoTrack.step pg settings server.db op }

end AlertServer

/-- A transaction that commits at once is one call of the batch processor. -/
theorem commit_execute_eq_outcome (pg : Postgis) (settings : StorageSettings) (db : Db) (tx : BatchTx)
    (batch : Batch) (something : batch.storable settings ≠ []) :
    ((AlertServer.idle db).step pg settings (.execute tx batch)).bind
        (fun server => (server.step pg settings (.commit tx)).map AlertServer.db) =
      some (batch.outcome settings pg db) := by
  have unused : ¬ (tx ∈ (AlertServer.idle db).openBatches ∨ batch.storable settings = []) := by
    rintro (known | nothing)
    · cases known
    · exact something nothing
  simp only [AlertServer.step, if_neg unused, Option.bind_some, Dict.get?_set, if_true,
    Option.map_some]
  rfl

/-- The numbers of one user's alerts. -/
def idsOf (userId : Uuid) (alerts : List AlertRow) : List ℕ :=
  (alerts.filter fun alert => alert.userId = userId).map AlertRow.id

theorem mem_idsOf {userId : Uuid} {alerts : List AlertRow} {id : ℕ} :
    id ∈ idsOf userId alerts ↔ ∃ alert ∈ alerts, alert.userId = userId ∧ alert.id = id := by
  simp [idsOf, and_assoc]

theorem idsOf_append (userId : Uuid) (first second : List AlertRow) :
    idsOf userId (first ++ second) = idsOf userId first ++ idsOf userId second := by
  simp [idsOf]

theorem idsOf_subset {userId : Uuid} {alerts : List AlertRow} {id : ℕ}
    (listed : id ∈ idsOf userId alerts) : id ∈ alerts.map AlertRow.id := by
  obtain ⟨alert, stored, -, rfl⟩ := mem_idsOf.mp listed
  exact List.mem_map_of_mem stored

/-- The transaction commits in this part of a run, before anything else closes
it. -/
def Commits (tx : BatchTx) (events : List AlertEvent) : Prop :=
  ∃ early late, events = early ++ .commit tx :: late ∧
    AlertEvent.commit tx ∉ early ∧ AlertEvent.rollback tx ∉ early

/-- The transaction stays open throughout this part of a run. -/
def StaysOpen (tx : BatchTx) (events : List AlertEvent) : Prop :=
  AlertEvent.commit tx ∉ events ∧ AlertEvent.rollback tx ∉ events

theorem commits_snoc_iff {tx : BatchTx} {events : List AlertEvent} {event : AlertEvent} :
    Commits tx (events ++ [event]) ↔
      Commits tx events ∨ event = .commit tx ∧ StaysOpen tx events := by
  constructor
  · rintro ⟨early, late, split, notCommitted, notRolledBack⟩
    rcases List.eq_nil_or_concat late with rfl | ⟨middle, final, rfl⟩
    · obtain ⟨rfl, same⟩ := List.append_inj' split rfl
      exact Or.inr ⟨(List.cons_eq_cons.mp same).1, notCommitted, notRolledBack⟩
    · rw [List.concat_eq_append, ← List.cons_append, ← List.append_assoc] at split
      obtain ⟨rfl, -⟩ := List.append_inj' split rfl
      exact Or.inl ⟨early, middle, rfl, notCommitted, notRolledBack⟩
  · rintro (⟨early, late, rfl, stays⟩ | ⟨rfl, stays⟩)
    · exact ⟨early, late ++ [event], by simp, stays⟩
    · exact ⟨events, [], rfl, stays⟩

theorem staysOpen_snoc_iff {tx : BatchTx} {events : List AlertEvent} {event : AlertEvent} :
    StaysOpen tx (events ++ [event]) ↔
      StaysOpen tx events ∧ event ≠ .commit tx ∧ event ≠ .rollback tx := by
  simp only [StaysOpen, List.mem_append, List.mem_singleton, not_or]
  constructor
  · rintro ⟨⟨notCommitted, differs⟩, notRolledBack, differs'⟩
    exact ⟨⟨notCommitted, notRolledBack⟩, Ne.symm differs, Ne.symm differs'⟩
  · rintro ⟨⟨notCommitted, notRolledBack⟩, differs, differs'⟩
    exact ⟨⟨notCommitted, Ne.symm differs⟩, notRolledBack, Ne.symm differs'⟩

section Numbers

variable {pg : Postgis} {settings : StorageSettings} {server after : AlertServer}
  {event : AlertEvent}

/-- What a step does to the alerts: nothing, draw numbers for a transaction,
make a transaction's alerts visible, or forget a transaction. -/
inductive AlertStep (server after : AlertServer) : AlertEvent → Prop where
  | drawn (tx : BatchTx) (batch : Batch) (opened : OpenBatch)
      (unused : server.openBatches.get? tx = none)
      (numbers : opened.alerts.map AlertRow.id =
        List.range' server.db.nextAlertId opened.alerts.length)
      (alerts : after.db.alerts = server.db.alerts)
      (next : after.db.nextAlertId = server.db.nextAlertId + opened.alerts.length)
      (batches : after.openBatches = server.openBatches.set tx opened) :
      AlertStep server after (.execute tx batch)
  | committed (tx : BatchTx) (opened : OpenBatch)
      (found : server.openBatches.get? tx = some opened)
      (alerts : after.db.alerts = server.db.alerts ++ opened.alerts)
      (next : after.db.nextAlertId = server.db.nextAlertId)
      (batches : after.openBatches = server.openBatches.erase tx) :
      AlertStep server after (.commit tx)
  | forgotten (tx : BatchTx) (alerts : after.db.alerts = server.db.alerts)
      (next : after.db.nextAlertId = server.db.nextAlertId)
      (batches : after.openBatches = server.openBatches.erase tx) :
      AlertStep server after (.rollback tx)
  | elsewhere (op : Op)
      (ids : after.db.alerts.map AlertRow.id = server.db.alerts.map AlertRow.id)
      (idsOfUser : ∀ userId, idsOf userId after.db.alerts = idsOf userId server.db.alerts)
      (next : after.db.nextAlertId = server.db.nextAlertId)
      (batches : after.openBatches = server.openBatches) :
      AlertStep server after (.zone op)

theorem idsOf_dropZone (db : Db) (zoneId userId : Uuid) :
    idsOf userId (Geozones.dropZone db zoneId).alerts = idsOf userId db.alerts := by
  have sameId : ∀ alert : AlertRow,
      (if alert.zoneId = some zoneId then { alert with zoneId := none } else alert).id =
        alert.id := by
    intro alert
    split <;> rfl
  have sameUser : ∀ alert : AlertRow,
      (if alert.zoneId = some zoneId then { alert with zoneId := none } else alert).userId =
        alert.userId := by
    intro alert
    split <;> rfl
  simp only [idsOf, Geozones.dropZone, List.filter_map, List.map_map]
  simp only [Function.comp_def, sameId, sameUser]

theorem ids_dropZone (db : Db) (zoneId : Uuid) :
    (Geozones.dropZone db zoneId).alerts.map AlertRow.id = db.alerts.map AlertRow.id := by
  simp only [Geozones.dropZone, List.map_map]
  apply List.map_congr_left
  intro alert _
  simp only [Function.comp_apply]
  split <;> rfl

theorem alertStep_of_step (stepTo : server.step pg settings event = some after) :
    AlertStep server after event := by
  cases event with
  | execute tx batch =>
      simp only [AlertServer.step] at stepTo
      split at stepTo
      case isTrue => cases stepTo
      case isFalse fresh =>
          obtain rfl := Option.some.inj stepTo
          refine .drawn tx batch _ (Dict.not_mem_iff.mp fun known => fresh (Or.inl known)) ?_ rfl ?_
            rfl
          · rw [map_id_numberAlerts]
            simp [numberAlerts]
          · simp [Db.drawAlertIds, numberAlerts]
  | commit tx =>
      obtain ⟨opened, found, rfl⟩ := Option.map_eq_some_iff.mp stepTo
      exact .committed tx opened found rfl rfl rfl
  | rollback tx =>
      obtain ⟨opened, found, rfl⟩ := Option.map_eq_some_iff.mp stepTo
      exact .forgotten tx rfl rfl rfl
  | zone op =>
      have changed : (∀ batch, op ≠ .batch batch) ∧
          after = { server with db := GeoTrack.step pg settings server.db op } := by
        cases op with
        | batch batch => cases stepTo
        | _ =>
            refine ⟨?_, (Option.some.inj stepTo).symm⟩
            intro batch same
            cases same
      obtain ⟨notBatch, rfl⟩ := changed
      rcases step_cases pg settings server.db op with ⟨batch, rfl⟩ | ⟨-, effect⟩
      · exact absurd rfl (notBatch batch)
      · generalize GeoTrack.step pg settings server.db op = db at effect
        cases effect with
        | unchanged => exact .elsewhere op rfl (fun _ => rfl) rfl rfl
        | written zoneId zone => exact .elsewhere op rfl (fun _ => rfl) rfl rfl
        | dropped zoneId =>
            exact .elsewhere op (ids_dropZone _ _) (idsOf_dropZone _ _) rfl rfl

/-- Every number was drawn, and none was given to two alerts, visible or not. -/
structure Numbered (server : AlertServer) : Prop where
  distinct : (server.db.alerts.map AlertRow.id).Nodup
  below : ∀ id ∈ server.db.alerts.map AlertRow.id, id < server.db.nextAlertId
  openDistinct : ∀ tx opened, server.openBatches.get? tx = some opened →
    (opened.alerts.map AlertRow.id).Nodup
  openBelow : ∀ tx opened, server.openBatches.get? tx = some opened →
    ∀ id ∈ opened.alerts.map AlertRow.id, id < server.db.nextAlertId
  apart : ∀ tx opened, server.openBatches.get? tx = some opened →
    ∀ id ∈ opened.alerts.map AlertRow.id, id ∉ server.db.alerts.map AlertRow.id
  disjoint : ∀ tx other opened another, server.openBatches.get? tx = some opened →
    server.openBatches.get? other = some another → tx ≠ other →
    ∀ id ∈ opened.alerts.map AlertRow.id, id ∉ another.alerts.map AlertRow.id

theorem numbered_idle (users : KeySet Uuid) : Numbered (AlertServer.idle (Db.fresh users)) := by
  refine ⟨List.nodup_nil, ?_, ?_, ?_, ?_, ?_⟩
  · intro id listed
    cases listed
  all_goals
    intro tx
    intros
    contradiction

/-- No number changes hands when transactions only go away. -/
theorem Numbered.fewer (numbered : Numbered server)
    (ids : after.db.alerts.map AlertRow.id = server.db.alerts.map AlertRow.id)
    (next : after.db.nextAlertId = server.db.nextAlertId)
    (earlier : ∀ tx opened, after.openBatches.get? tx = some opened →
      server.openBatches.get? tx = some opened) : Numbered after := by
  refine ⟨by rw [ids]; exact numbered.distinct, by rw [ids, next]; exact numbered.below,
    fun tx opened found => numbered.openDistinct tx opened (earlier tx opened found), ?_, ?_, ?_⟩
  · intro tx opened found
    rw [next]
    exact numbered.openBelow tx opened (earlier tx opened found)
  · intro tx opened found
    rw [ids]
    exact numbered.apart tx opened (earlier tx opened found)
  · intro tx other opened another found foundOther
    exact numbered.disjoint tx other opened another (earlier tx opened found)
      (earlier other another foundOther)

theorem Numbered.step (numbered : Numbered server) (moved : AlertStep server after event) :
    Numbered after := by
  cases moved with
  | drawn tx batch opened unused numbers alerts next batches =>
      have drawn : ∀ id ∈ opened.alerts.map AlertRow.id, server.db.nextAlertId ≤ id ∧
          id < server.db.nextAlertId + opened.alerts.length := by
        intro id listed
        rw [numbers, List.mem_range'_1] at listed
        exact listed
      have cases_ : ∀ other another, after.openBatches.get? other = some another →
          other = tx ∧ another = opened ∨
            other ≠ tx ∧ server.openBatches.get? other = some another := by
        intro other another found
        rw [batches] at found
        exact Dict.get?_set_cases found
      refine ⟨by rw [alerts]; exact numbered.distinct, ?_, ?_, ?_, ?_, ?_⟩
      · intro id listed
        rw [alerts] at listed
        have bound := numbered.below id listed
        omega
      · intro other another found
        rcases cases_ other another found with ⟨-, rfl⟩ | ⟨-, earlier⟩
        · rw [numbers]
          exact List.nodup_range'
        · exact numbered.openDistinct other another earlier
      · intro other another found id listed
        rcases cases_ other another found with ⟨-, rfl⟩ | ⟨-, earlier⟩
        · rw [next]
          exact (drawn id listed).2
        · have bound := numbered.openBelow other another earlier id listed
          omega
      · intro other another found id listed stored
        rw [alerts] at stored
        rcases cases_ other another found with ⟨-, rfl⟩ | ⟨-, earlier⟩
        · have low := numbered.below id stored
          have high := (drawn id listed).1
          omega
        · exact numbered.apart other another earlier id listed stored
      · intro first second one two foundFirst foundSecond differs id listed alsoListed
        rcases cases_ first one foundFirst with ⟨rfl, rfl⟩ | ⟨-, earlierFirst⟩
        · rcases cases_ second two foundSecond with ⟨rfl, -⟩ | ⟨-, earlierSecond⟩
          · exact differs rfl
          · have low := numbered.openBelow second two earlierSecond id alsoListed
            have high := (drawn id listed).1
            omega
        · rcases cases_ second two foundSecond with ⟨-, rfl⟩ | ⟨-, earlierSecond⟩
          · have low := numbered.openBelow first one earlierFirst id listed
            have high := (drawn id alsoListed).1
            omega
          · exact numbered.disjoint first second one two earlierFirst earlierSecond differs id
              listed alsoListed
  | committed tx opened found alerts next batches =>
      refine ⟨?_, ?_, ?_, ?_, ?_, ?_⟩
      · rw [alerts, List.map_append, List.nodup_append]
        refine ⟨numbered.distinct, numbered.openDistinct tx opened found, ?_⟩
        rintro id stored _ listed rfl
        exact numbered.apart tx opened found id listed stored
      · intro id listed
        rw [next]
        rw [alerts, List.map_append, List.mem_append] at listed
        rcases listed with stored | committed
        · exact numbered.below id stored
        · exact numbered.openBelow tx opened found id committed
      · intro other another stillOpen
        rw [batches] at stillOpen
        exact numbered.openDistinct other another (Dict.of_get?_erase stillOpen).2
      · intro other another stillOpen
        rw [batches] at stillOpen
        rw [next]
        exact numbered.openBelow other another (Dict.of_get?_erase stillOpen).2
      · intro other another stillOpen id listed
        rw [batches] at stillOpen
        obtain ⟨differs, earlier⟩ := Dict.of_get?_erase stillOpen
        rw [alerts, List.map_append, List.mem_append, not_or]
        exact ⟨numbered.apart other another earlier id listed,
          numbered.disjoint other tx another opened earlier found differs id listed⟩
      · intro first second one two foundFirst foundSecond
        rw [batches] at foundFirst foundSecond
        exact numbered.disjoint first second one two (Dict.of_get?_erase foundFirst).2
          (Dict.of_get?_erase foundSecond).2
  | forgotten tx alerts next batches =>
      refine numbered.fewer (by rw [alerts]) next fun other another stillOpen => ?_
      rw [batches] at stillOpen
      exact (Dict.of_get?_erase stillOpen).2
  | elsewhere op ids _ next batches =>
      refine numbered.fewer ids next fun other another stillOpen => ?_
      rw [batches] at stillOpen
      exact stillOpen

theorem numbered_run {users : KeySet Uuid} {events : List AlertEvent}
    (run : Run (AlertServer.step pg settings) Anything (AlertServer.idle (Db.fresh users)) events
      server) : Numbered server :=
  run.invariant (numbered_idle users) fun _ _ _ numbered _ stepTo =>
    numbered.step (alertStep_of_step stepTo)

/-- What a part of a run does to the alerts of one user, seen from the state it
starts in: they stay, new ones come from transactions that were open and commit,
or have new numbers. -/
structure Since (userId : Uuid) (first last : AlertServer) (events : List AlertEvent) : Prop where
  kept : ∀ id ∈ idsOf userId first.db.alerts, id ∈ idsOf userId last.db.alerts
  next : first.db.nextAlertId ≤ last.db.nextAlertId
  origin : ∀ id ∈ idsOf userId last.db.alerts, id ∈ idsOf userId first.db.alerts ∨
    (∃ tx opened, first.openBatches.get? tx = some opened ∧ Commits tx events ∧
      id ∈ idsOf userId opened.alerts) ∨ first.db.nextAlertId ≤ id
  stillOpen : ∀ tx opened, last.openBatches.get? tx = some opened →
    first.openBatches.get? tx = some opened ∧ StaysOpen tx events ∨
      ∀ id ∈ opened.alerts.map AlertRow.id, first.db.nextAlertId ≤ id
  remains : ∀ tx opened, first.openBatches.get? tx = some opened → StaysOpen tx events →
    last.openBatches.get? tx = some opened
  published : ∀ tx opened, first.openBatches.get? tx = some opened → Commits tx events →
    ∀ id ∈ idsOf userId opened.alerts, id ∈ idsOf userId last.db.alerts

theorem since_nil (userId : Uuid) (server : AlertServer) : Since userId server server [] where
  kept := fun _ listed => listed
  next := le_rfl
  origin := fun _ listed => Or.inl listed
  stillOpen := fun tx opened found => Or.inl ⟨found, by simp [StaysOpen]⟩
  remains := fun _ _ found _ => found
  published := by
    rintro tx opened - ⟨early, late, split, -⟩
    simp at split

theorem Since.origin_snoc {userId : Uuid} {first : AlertServer} {events : List AlertEvent}
    (since : Since userId first server events) (event : AlertEvent) {id : ℕ}
    (listed : id ∈ idsOf userId server.db.alerts) :
    id ∈ idsOf userId first.db.alerts ∨
      (∃ tx opened, first.openBatches.get? tx = some opened ∧ Commits tx (events ++ [event]) ∧
        id ∈ idsOf userId opened.alerts) ∨ first.db.nextAlertId ≤ id := by
  rcases since.origin id listed with before | ⟨tx, opened, was, commits, fromBatch⟩ | new
  · exact Or.inl before
  · exact Or.inr (Or.inl ⟨tx, opened, was, commits_snoc_iff.mpr (Or.inl commits), fromBatch⟩)
  · exact Or.inr (Or.inr new)

theorem Since.published_snoc {userId : Uuid} {first : AlertServer} {events : List AlertEvent}
    (since : Since userId first server events) {tx : BatchTx} {opened : OpenBatch}
    (was : first.openBatches.get? tx = some opened) (commits : Commits tx (events ++ [event]))
    (differs : event ≠ .commit tx) :
    ∀ id ∈ idsOf userId opened.alerts, id ∈ idsOf userId server.db.alerts := by
  rcases commits_snoc_iff.mp commits with earlier | ⟨same, -⟩
  · exact since.published tx opened was earlier
  · exact absurd same differs

/-- A step that publishes nothing: only what it opens and rolls back matters. -/
theorem Since.snoc_of_same_ids {userId : Uuid} {first : AlertServer} {events : List AlertEvent}
    (since : Since userId first server events)
    (ids : idsOf userId after.db.alerts = idsOf userId server.db.alerts)
    (next : server.db.nextAlertId ≤ after.db.nextAlertId)
    (notCommit : ∀ tx, event ≠ .commit tx)
    (opens : ∀ tx opened, after.openBatches.get? tx = some opened →
      server.openBatches.get? tx = some opened ∧ event ≠ .rollback tx ∨
        ∀ id ∈ opened.alerts.map AlertRow.id, server.db.nextAlertId ≤ id)
    (keeps : ∀ tx opened, server.openBatches.get? tx = some opened → event ≠ .rollback tx →
      after.openBatches.get? tx = some opened) :
    Since userId first after (events ++ [event]) := by
  refine ⟨by rw [ids]; exact since.kept, le_trans since.next next, ?_, ?_, ?_, ?_⟩
  · intro id listed
    rw [ids] at listed
    exact since.origin_snoc _ listed
  · intro tx opened found
    rcases opens tx opened found with ⟨earlier, notRolledBack⟩ | new
    · refine (since.stillOpen tx opened earlier).imp_left fun ⟨before, stays⟩ => ⟨before, ?_⟩
      exact staysOpen_snoc_iff.mpr ⟨stays, notCommit tx, notRolledBack⟩
    · exact Or.inr fun id listed => le_trans since.next (new id listed)
  · intro tx opened was stays
    obtain ⟨earlier, -, notRolledBack⟩ := staysOpen_snoc_iff.mp stays
    exact keeps tx opened (since.remains tx opened was earlier) notRolledBack
  · intro tx opened was commits id listed
    rw [ids]
    exact since.published_snoc was commits (notCommit tx) id listed

theorem Since.snoc {userId : Uuid} {first : AlertServer} {events : List AlertEvent}
    (since : Since userId first server events) (moved : AlertStep server after event) :
    Since userId first after (events ++ [event]) := by
  cases moved with
  | drawn tx batch opened unused numbers alerts next batches =>
      refine since.snoc_of_same_ids (by rw [alerts]) (by omega) (by simp) ?_ ?_
      · intro other another found
        rw [batches, Dict.get?_set] at found
        split at found
        case isTrue =>
            right
            obtain rfl := Option.some.inj found
            intro id listed
            rw [numbers, List.mem_range'_1] at listed
            exact listed.1
        case isFalse => exact Or.inl ⟨found, by simp⟩
      · intro other another earlier _
        rw [batches, Dict.get?_set, if_neg]
        · exact earlier
        · rintro rfl
          rw [unused] at earlier
          cases earlier
  | committed tx opened found alerts next batches =>
      refine ⟨?_, by rw [next]; exact since.next, ?_, ?_, ?_, ?_⟩
      · intro id listed
        rw [alerts, idsOf_append, List.mem_append]
        exact Or.inl (since.kept id listed)
      · intro id listed
        rw [alerts, idsOf_append, List.mem_append] at listed
        rcases listed with stored | published
        · exact since.origin_snoc _ stored
        · rcases since.stillOpen tx opened found with ⟨before, stays⟩ | new
          · exact Or.inr (Or.inl ⟨tx, opened, before, commits_snoc_iff.mpr (Or.inr ⟨rfl, stays⟩),
              published⟩)
          · exact Or.inr (Or.inr (new id (idsOf_subset published)))
      · intro other another stillOpen
        rw [batches] at stillOpen
        obtain ⟨differs, earlier⟩ := Dict.of_get?_erase stillOpen
        refine (since.stillOpen other another earlier).imp_left fun ⟨before, stays⟩ => ⟨before, ?_⟩
        exact staysOpen_snoc_iff.mpr ⟨stays, by simpa using Ne.symm differs, by simp⟩
      · intro other another was stays
        obtain ⟨earlier, differs, -⟩ := staysOpen_snoc_iff.mp stays
        rw [batches, Dict.get?_erase, if_neg]
        · exact since.remains other another was earlier
        · rintro rfl
          exact differs rfl
      · intro other another was commits id listed
        rw [alerts, idsOf_append, List.mem_append]
        rcases commits_snoc_iff.mp commits with earlier | ⟨same, stays⟩
        · exact Or.inl (since.published other another was earlier id listed)
        · obtain rfl := AlertEvent.commit.inj same
          have current := since.remains tx another was stays
          rw [found] at current
          rw [Option.some.inj current]
          exact Or.inr listed
  | forgotten tx alerts next batches =>
      refine since.snoc_of_same_ids (by rw [alerts]) next.ge (by simp) ?_ ?_
      · intro other another stillOpen
        rw [batches] at stillOpen
        obtain ⟨differs, earlier⟩ := Dict.of_get?_erase stillOpen
        exact Or.inl ⟨earlier, by simpa using Ne.symm differs⟩
      · intro other another earlier notRolledBack
        rw [batches, Dict.get?_erase, if_neg]
        · exact earlier
        · rintro rfl
          exact notRolledBack rfl
  | elsewhere op _ ids next batches =>
      refine since.snoc_of_same_ids (ids userId) next.ge (by simp) ?_ ?_
      · intro other another found
        rw [batches] at found
        exact Or.inl ⟨found, by simp⟩
      · intro other another earlier _
        rw [batches]
        exact earlier

theorem since_run (userId : Uuid) {first last : AlertServer} {events : List AlertEvent}
    (run : Run (AlertServer.step pg settings) Anything first events last) :
    Since userId first last events := by
  induction run with
  | nil => exact since_nil userId first
  | snoc _ _ stepTo ih => exact ih.snoc (alertStep_of_step stepTo)

end Numbers

section Reading

variable (pg : Postgis) (settings : StorageSettings) (userId : Uuid) (afterId limit : ℕ)

/-- The filter of one page of the reading. -/
def readingFilter (beforeId : Option ℕ) : AlertFilter := ⟨beforeId, some afterId, none, none⟩

/-- Follow the cursor from page to page until none is handed out, with anything
happening between two pages. -/
inductive Reading : AlertServer → Option ℕ → List AlertOut → Prop where
  | last {server : AlertServer} {beforeId : Option ℕ}
      (done : (alertPage server.db userId (readingFilter afterId beforeId) limit).nextBeforeId =
        none) :
      Reading server beforeId
        (alertPage server.db userId (readingFilter afterId beforeId) limit).items
  | next {server later : AlertServer} {beforeId : Option ℕ} {cursor : ℕ}
      {events : List AlertEvent} {rest : List AlertOut}
      (more : (alertPage server.db userId (readingFilter afterId beforeId) limit).nextBeforeId =
        some cursor)
      (meanwhile : Run (AlertServer.step pg settings) Anything server events later)
      (following : Reading later (some cursor) rest) :
      Reading server beforeId
        ((alertPage server.db userId (readingFilter afterId beforeId) limit).items ++ rest)

variable {pg settings userId afterId limit}

theorem admits_readingFilter {beforeId : Option ℕ} {alert : AlertRow} :
    (readingFilter afterId beforeId).admits alert = true ↔
      afterId < alert.id ∧ ∀ cursor, beforeId = some cursor → alert.id < cursor := by
  cases beforeId <;> simp [readingFilter, AlertFilter.admits, and_comm]

/-- A cursor leads strictly downwards, so the reading comes to an end. -/
theorem exists_reading_below (server : AlertServer) (cursor : ℕ) :
    ∃ items, Reading pg settings userId afterId limit server (some cursor) items := by
  induction cursor using Nat.strong_induction_on with
  | _ cursor below =>
      cases handedOut : (alertPage server.db userId (readingFilter afterId (some cursor))
          limit).nextBeforeId with
      | none => exact ⟨_, Reading.last handedOut⟩
      | some lower =>
          obtain ⟨alert, -, rfl, -, admitted⟩ :=
            exists_of_mem_alertPage (nextBeforeId_mem handedOut)
          have smaller := (admits_readingFilter.mp admitted).2 cursor rfl
          obtain ⟨rest, following⟩ := below alert.id smaller
          exact ⟨_, Reading.next handedOut Run.nil following⟩

theorem exists_reading (server : AlertServer) :
    ∃ items, Reading pg settings userId afterId limit server none items := by
  cases handedOut : (alertPage server.db userId (readingFilter afterId none)
      limit).nextBeforeId with
  | none => exact ⟨_, Reading.last handedOut⟩
  | some cursor =>
      obtain ⟨rest, following⟩ := exists_reading_below server cursor
      exact ⟨_, Reading.next handedOut Run.nil following⟩

/-- A reading returns only alerts after its lower cursor. -/
theorem Reading.above {server : AlertServer} {beforeId : Option ℕ} {items : List AlertOut}
    (reading : Reading pg settings userId afterId limit server beforeId items) :
    ∀ id ∈ items.map AlertOut.id, afterId < id := by
  have onPage {server : AlertServer} {beforeId : Option ℕ} : ∀ id ∈
      (alertPage server.db userId (readingFilter afterId beforeId) limit).items.map AlertOut.id,
      afterId < id := by
    intro id listed
    obtain ⟨alert, -, rfl, -, admitted⟩ := exists_of_mem_alertPage listed
    exact (admits_readingFilter.mp admitted).1
  induction reading with
  | last done => exact onPage
  | next more meanwhile following ih =>
      intro id listed
      rw [List.map_append, List.mem_append] at listed
      exact listed.elim (onPage id) (ih id)

/-- A reading returns every alert in its range that is visible when it
starts. -/
theorem Reading.complete (positive : 0 < limit) {server : AlertServer} {beforeId : Option ℕ}
    {items : List AlertOut}
    (reading : Reading pg settings userId afterId limit server beforeId items)
    (numbered : Numbered server) {id : ℕ} (visible : id ∈ idsOf userId server.db.alerts)
    (above : afterId < id) (below : ∀ cursor, beforeId = some cursor → id < cursor) :
    id ∈ items.map AlertOut.id := by
  have covered {server : AlertServer} (numbered : Numbered server) {beforeId : Option ℕ}
      (visible : id ∈ idsOf userId server.db.alerts)
      (below : ∀ cursor, beforeId = some cursor → id < cursor) :
      id ∈ (alertPage server.db userId (readingFilter afterId beforeId) limit).items.map
          AlertOut.id ∨
        ∃ cursor, (alertPage server.db userId (readingFilter afterId beforeId)
          limit).nextBeforeId = some cursor ∧ id < cursor := by
    obtain ⟨alert, stored, owned, rfl⟩ := mem_idsOf.mp visible
    exact mem_alertPage_or_below numbered.distinct positive
      (mem_matchingAlerts.mpr ⟨stored, owned, admits_readingFilter.mpr ⟨above, below⟩⟩)
  induction reading with
  | last done =>
      rcases covered numbered visible below with onPage | ⟨cursor, handedOut, -⟩
      · exact onPage
      · rw [done] at handedOut
        cases handedOut
  | next more meanwhile following ih =>
      rw [List.map_append, List.mem_append]
      rcases covered numbered visible below with onPage | ⟨cursor, handedOut, lower⟩
      · exact Or.inl onPage
      · right
        rw [more] at handedOut
        obtain rfl := Option.some.inj handedOut
        apply ih
        · exact meanwhile.invariant numbered fun _ _ _ holds _ stepTo =>
            holds.step (alertStep_of_step stepTo)
        · exact (since_run userId meanwhile).kept id visible
        · intro cursor same
          exact Option.some.inj same ▸ lower

end Reading

/-- A client that has seen some alerts of the user takes the number of one of
them, such as the highest, for its cursor and later reads everything after it.
Every alert visible by then was seen or is returned exactly if, when the client
took the cursor, it had seen all visible alerts up to it, and no transaction
that was open at that time with a number below the cursor commits before the
reading. -/
theorem after_id_complete_iff (pg : Postgis) (settings : StorageSettings) (users : KeySet Uuid)
    {events more : List AlertEvent} {taken read : AlertServer}
    (run : Run (AlertServer.step pg settings) Anything (AlertServer.idle (Db.fresh users)) events
      taken)
    (continued : Run (AlertServer.step pg settings) Anything taken more read)
    (userId : Uuid) (seen : Set ℕ) (cursor limit : ℕ) (positive : 0 < limit)
    (visible : ∀ id ∈ seen, id ∈ idsOf userId taken.db.alerts)
    (isSeen : cursor ∈ seen)
    {items : List AlertOut} (reading : Reading pg settings userId cursor limit read none items) :
    (∀ id ∈ idsOf userId read.db.alerts, id ∈ seen ∨ id ∈ items.map AlertOut.id) ↔
      (∀ id ∈ idsOf userId taken.db.alerts, id ≤ cursor → id ∈ seen) ∧
        ∀ tx opened, taken.openBatches.get? tx = some opened → Commits tx more →
          ∀ id ∈ idsOf userId opened.alerts, cursor < id := by
  have numbered := numbered_run run
  have since := since_run userId continued
  have drawn : cursor < taken.db.nextAlertId :=
    numbered.below cursor (idsOf_subset (visible cursor isSeen))
  constructor
  · intro complete
    refine ⟨fun id before notAbove => ?_, fun tx opened found commits id listed => ?_⟩
    · rcases complete id (since.kept id before) with isKnown | returned
      · exact isKnown
      · exact absurd (reading.above id returned) (by omega)
    · rcases complete id (since.published tx opened found commits id listed) with
        isKnown | returned
      · exact absurd (idsOf_subset (visible id isKnown))
          (numbered.apart tx opened found id (idsOf_subset listed))
      · exact reading.above id returned
  · rintro ⟨caughtUp, nothingLate⟩ id listed
    have returned (above : cursor < id) : id ∈ items.map AlertOut.id := by
      apply reading.complete positive _ listed above (by simp)
      exact continued.invariant numbered fun _ _ _ holds _ stepTo =>
        holds.step (alertStep_of_step stepTo)
    rcases since.origin id listed with before | ⟨tx, opened, found, commits, fromBatch⟩ | new
    · by_cases notAbove : id ≤ cursor
      · exact Or.inl (caughtUp id before notAbove)
      · exact Or.inr (returned (by omega))
    · exact Or.inr (returned (nothingLate tx opened found commits id fromBatch))
    · exact Or.inr (returned (by omega))

/-- Two shards each see a truck enter the same zone, at the same time. -/
def twoShards : List AlertEvent :=
  [.zone (.create 0 7 1 ⟨"yard", 0, 0, 100, none, true, true, none⟩ 5),
    .execute 0 ⟨1000, 1000, [⟨"north", 0, 0, 1000, 1000⟩]⟩,
    .execute 1 ⟨1000, 1000, [⟨"south", 0, 0, 1000, 1000⟩]⟩]

theorem after_id_complete_iff_inOrder :
    ∃ taken read items,
      Run (AlertServer.step .tangentPlane ⟨30, 60⟩) Anything
        (AlertServer.idle (Db.fresh (KeySet.add ∅ 1))) (twoShards ++ [.commit 0]) taken ∧
      Run (AlertServer.step .tangentPlane ⟨30, 60⟩) Anything taken [.commit 1] read ∧
      idsOf 1 taken.db.alerts = [1] ∧ idsOf 1 read.db.alerts = [1, 2] ∧
      Reading .tangentPlane ⟨30, 60⟩ 1 1 200 read none items ∧
      ∀ id ∈ idsOf 1 read.db.alerts, id ∈ ({1} : Set ℕ) ∨ id ∈ items.map AlertOut.id := by
  obtain ⟨taken, executed, before, openThen, continues⟩ : ∃ taken,
      exec (AlertServer.step .tangentPlane ⟨30, 60⟩) Anything
        (AlertServer.idle (Db.fresh (KeySet.add ∅ 1))) (twoShards ++ [.commit 0]) = some taken ∧
      idsOf 1 taken.db.alerts = [1] ∧
      (∀ entry ∈ taken.openBatches.entries, idsOf 1 entry.2.alerts = [2]) ∧
      (exec (AlertServer.step .tangentPlane ⟨30, 60⟩) Anything taken [.commit 1]).any
        (fun read => decide (idsOf 1 read.db.alerts = [1, 2])) = true := by
    apply exists_of_exec
    decide +kernel
  obtain ⟨read, executedLater, after⟩ := exists_of_exec continues
  obtain ⟨items, reading⟩ :=
    @exists_reading .tangentPlane ⟨30, 60⟩ 1 1 200 read
  refine ⟨taken, read, items, run_of_exec executed, run_of_exec executedLater, before, after,
    reading, ?_⟩
  refine (after_id_complete_iff .tangentPlane ⟨30, 60⟩ _ (run_of_exec executed)
    (run_of_exec executedLater) 1 {1} 1 200 (by decide) (by simp [before]) rfl reading).mpr ?_
  refine ⟨by simp [before], fun tx opened found _ id listed => ?_⟩
  rw [openThen (tx, opened) (Dict.mem_entries_iff.mpr found), List.mem_singleton] at listed
  omega

/-- The shard with the higher number commits first, the client sees it, and the
other alert is never returned. -/
theorem after_id_skips_alert :
    ∃ taken read items,
      Run (AlertServer.step .tangentPlane ⟨30, 60⟩) Anything
        (AlertServer.idle (Db.fresh (KeySet.add ∅ 1))) (twoShards ++ [.commit 1]) taken ∧
      Run (AlertServer.step .tangentPlane ⟨30, 60⟩) Anything taken [.commit 0] read ∧
      idsOf 1 taken.db.alerts = [2] ∧
      Reading .tangentPlane ⟨30, 60⟩ 1 2 200 read none items ∧
      1 ∈ idsOf 1 read.db.alerts ∧ 1 ∉ ({2} : Set ℕ) ∧ 1 ∉ items.map AlertOut.id := by
  obtain ⟨taken, executed, before, continues⟩ : ∃ taken,
      exec (AlertServer.step .tangentPlane ⟨30, 60⟩) Anything
        (AlertServer.idle (Db.fresh (KeySet.add ∅ 1))) (twoShards ++ [.commit 1]) = some taken ∧
      idsOf 1 taken.db.alerts = [2] ∧
      (exec (AlertServer.step .tangentPlane ⟨30, 60⟩) Anything taken [.commit 0]).any
        (fun read => decide (1 ∈ idsOf 1 read.db.alerts)) = true := by
    apply exists_of_exec
    decide +kernel
  obtain ⟨read, executedLater, after⟩ := exists_of_exec continues
  obtain ⟨items, reading⟩ := @exists_reading .tangentPlane ⟨30, 60⟩ 1 2 200 read
  refine ⟨taken, read, items, run_of_exec executed, run_of_exec executedLater, before, reading,
    after, by simp, fun returned => ?_⟩
  exact absurd (reading.above 1 returned) (by omega)

end GeoTrack
