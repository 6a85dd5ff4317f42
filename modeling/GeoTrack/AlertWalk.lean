import GeoTrack.AlertCursor

/-!
# Walking the alert history

A client reads its history by asking for a page without a cursor and passing on
the cursor of each page until none is handed out.  The table grows while it
does.  The pages after the first lie below an alert that was there at the
start, so they are cut from the rows of the start, each one where the page
before it ended.
-/

namespace GeoTrack

section Walk

variable (dbs : ℕ → Db) (userId : Uuid) (afterId : Option ℕ) (zoneId : Option Uuid)
  (deviceId : Option DeviceId) (limit : ℕ)

/-- Follow the cursors from a request on, in at most `requests` requests; the
table has its own state at each of them. -/
def walkHistory : ℕ → ℕ → Option ℕ → Option (List AlertOut)
  | 0, _, _ => none
  | requests + 1, request, beforeId =>
      let page := alertPage (dbs request) userId ⟨beforeId, afterId, zoneId, deviceId⟩ limit
      match page.nextBeforeId with
      | none => some page.items
      | some cursor => (walkHistory requests (request + 1) (some cursor)).map (page.items ++ ·)

/-- The rows of the walk that are visible at one moment, newest first. -/
def historyRows (db : Db) : List AlertRow :=
  matchingAlerts db userId ⟨none, afterId, zoneId, deviceId⟩

/-- A later state of a table that kept the rows of the walk as they were, with
other rows only above them. -/
structure GrownAbove (first later : Db) : Prop where
  distinct : (later.alerts.map AlertRow.id).Nodup
  kept : ∀ alert ∈ historyRows userId afterId zoneId deviceId first, alert ∈ later.alerts
  above : ∀ alert ∈ historyRows userId afterId zoneId deviceId later,
    alert ∈ first.alerts ∨
      ∀ old ∈ historyRows userId afterId zoneId deviceId first, old.id < alert.id

end Walk

variable {dbs : ℕ → Db} {userId : Uuid} {afterId : Option ℕ} {zoneId : Option Uuid}
  {deviceId : Option DeviceId} {limit : ℕ}

theorem mem_historyRows {db : Db} {alert : AlertRow} :
    alert ∈ historyRows userId afterId zoneId deviceId db ↔
      alert ∈ db.alerts ∧ alert.userId = userId ∧
        AlertFilter.admits ⟨none, afterId, zoneId, deviceId⟩ alert = true :=
  mem_matchingAlerts

theorem admits_below {cursor : ℕ} {alert : AlertRow} :
    AlertFilter.admits ⟨some cursor, afterId, zoneId, deviceId⟩ alert = true ↔
      alert.id < cursor ∧ AlertFilter.admits ⟨none, afterId, zoneId, deviceId⟩ alert = true := by
  simp [AlertFilter.admits, and_assoc]

/-- Two lists of rows in strictly falling order are the same when they have the
same rows. -/
theorem falling_ext {first second : List AlertRow}
    (firstFalls : first.Pairwise fun newer older => older.id < newer.id)
    (secondFalls : second.Pairwise fun newer older => older.id < newer.id)
    (sameRows : ∀ alert, alert ∈ first ↔ alert ∈ second) : first = second := by
  have irreflexive : Std.Irrefl fun newer older : AlertRow => older.id < newer.id :=
    ⟨fun alert => lt_irrefl alert.id⟩
  have asymmetric : Std.Asymm fun newer older : AlertRow => older.id < newer.id :=
    ⟨fun _ _ => lt_asymm⟩
  exact firstFalls.eq_of_mem_iff secondFalls (fun {alert} => sameRows alert)

/-- Below a row of the start, the table has the rows of the start. -/
theorem matchingAlerts_below {first later : Db}
    (distinct : (first.alerts.map AlertRow.id).Nodup)
    (grown : GrownAbove userId afterId zoneId deviceId first later) {row : AlertRow}
    (isRow : row ∈ historyRows userId afterId zoneId deviceId first) :
    matchingAlerts later userId ⟨some row.id, afterId, zoneId, deviceId⟩ =
      (historyRows userId afterId zoneId deviceId first).filter fun alert => alert.id < row.id := by
  refine falling_ext (matchingAlerts_strict grown.distinct)
    ((matchingAlerts_strict distinct).filter _) fun alert => ?_
  rw [mem_matchingAlerts, admits_below, List.mem_filter, decide_eq_true_eq]
  constructor
  · rintro ⟨stored, owned, below, admitted⟩
    have visible := mem_historyRows.mpr ⟨stored, owned, admitted⟩
    obtain old | newer := grown.above alert visible
    · exact ⟨mem_historyRows.mpr ⟨old, owned, admitted⟩, below⟩
    · exact absurd (newer row isRow) below.asymm
  · rintro ⟨visible, below⟩
    obtain ⟨-, owned, admitted⟩ := mem_historyRows.mp visible
    exact ⟨grown.kept alert visible, owned, below, admitted⟩

/-- What lies below the last row of a beginning is what comes after it. -/
theorem filter_below_last {front rest : List AlertRow} {last : AlertRow}
    (falling : (front ++ rest).Pairwise fun newer older => older.id < newer.id)
    (isLast : front.getLast? = some last) :
    (front ++ rest).filter (fun alert => alert.id < last.id) = rest := by
  obtain ⟨start, rfl⟩ := List.getLast?_eq_some_iff.mp isLast
  obtain ⟨frontFalls, -, above⟩ := List.pairwise_append.mp falling
  obtain ⟨-, -, aboveLast⟩ := List.pairwise_append.mp frontFalls
  rw [List.filter_append, List.filter_eq_nil_iff.mpr, List.nil_append, List.filter_eq_self.mpr]
  · intro alert later
    simpa using above last (by simp) alert later
  · intro alert listed
    rw [List.mem_append, List.mem_singleton] at listed
    obtain earlier | rfl := listed
    · have := aboveLast alert earlier last (by simp)
      simp only [decide_eq_true_eq]
      omega
    · simp

/-- A page is a beginning of the rows, with the last number of a full one for
a cursor. -/
theorem alertPage_eq {db : Db} {filter : AlertFilter} {rows : List AlertRow}
    (isRows : matchingAlerts db userId filter = rows) :
    alertPage db userId filter limit =
      ⟨(rows.take limit).map AlertRow.out,
        if (rows.take limit).length = limit then (rows.take limit).getLast?.map AlertRow.id
        else none⟩ := by
  subst isRows
  change AlertPage.mk (((matchingAlerts db userId filter).take limit).map AlertRow.out)
    (if (((matchingAlerts db userId filter).take limit).map AlertRow.out).length = limit then
      (((matchingAlerts db userId filter).take limit).map AlertRow.out).getLast?.map AlertOut.id
    else none) = _
  rw [List.length_map, List.getLast?_map, Option.map_map]
  rfl

/-- The walk returns the rows it starts with: a page of them, and by induction
those that the cursor leaves. -/
theorem walkHistory_of_rows (positive : 0 < limit)
    (distinct : ((dbs 0).alerts.map AlertRow.id).Nodup)
    (grown : ∀ request, GrownAbove userId afterId zoneId deviceId (dbs 0) (dbs request))
    {requests request : ℕ} {beforeId : Option ℕ} {front rows : List AlertRow}
    (whole : front ++ rows = historyRows userId afterId zoneId deviceId (dbs 0))
    (left : matchingAlerts (dbs request) userId ⟨beforeId, afterId, zoneId, deviceId⟩ = rows)
    (enough : rows.length < requests) :
    walkHistory dbs userId afterId zoneId deviceId limit requests request beforeId =
      some (rows.map AlertRow.out) := by
  induction requests generalizing request beforeId front rows with
  | zero => omega
  | succ requests ih =>
      have rowsFall : (front ++ rows).Pairwise fun newer older => older.id < newer.id :=
        whole ▸ matchingAlerts_strict distinct
      rw [walkHistory, alertPage_eq left]
      by_cases full : limit ≤ rows.length
      · have length : (rows.take limit).length = limit := by
          rw [List.length_take, min_eq_left full]
        obtain ⟨last, isLast⟩ : ∃ last, (rows.take limit).getLast? = some last := by
          rw [← Option.ne_none_iff_exists', ne_eq, List.getLast?_eq_none_iff]
          rintro empty
          rw [empty] at length
          exact positive.ne length
        have wholeNext : (front ++ rows.take limit) ++ rows.drop limit =
            historyRows userId afterId zoneId deviceId (dbs 0) := by
          rw [List.append_assoc, List.take_append_drop, whole]
        have isLastNext : (front ++ rows.take limit).getLast? = some last := by
          rw [List.getLast?_append, isLast, Option.some_or]
        have isRow : last ∈ historyRows userId afterId zoneId deviceId (dbs 0) :=
          wholeNext ▸ List.mem_append_left _ (List.mem_of_getLast? isLastNext)
        have leftNext : matchingAlerts (dbs (request + 1)) userId
            ⟨some last.id, afterId, zoneId, deviceId⟩ = rows.drop limit := by
          rw [matchingAlerts_below distinct (grown (request + 1)) isRow, ← wholeNext]
          apply filter_below_last _ isLastNext
          rwa [List.append_assoc, List.take_append_drop]
        have enoughNext : (rows.drop limit).length < requests := by
          rw [List.length_drop]
          omega
        simp only [length, isLast, if_true, Option.map_some,
          ih wholeNext leftNext enoughNext, ← List.map_append, List.take_append_drop]
      · have short : rows.length ≠ limit := (not_le.mp full).ne
        simp only [List.take_of_length_le (not_le.mp full).le, if_neg short]

/-- Walking the history comes to an end and returns what was visible at the
start, each alert once and the newest first. -/
theorem walkHistory_complete (dbs : ℕ → Db) (userId : Uuid) (afterId : Option ℕ)
    (zoneId : Option Uuid) (deviceId : Option DeviceId) (limit : ℕ) (positive : 1 ≤ limit)
    (grown : ∀ request, GrownAbove userId afterId zoneId deviceId (dbs 0) (dbs request)) :
    ∃ items rounds,
      (∀ requests, rounds ≤ requests →
        walkHistory dbs userId afterId zoneId deviceId limit requests 0 none = some items) ∧
      items.Pairwise (fun newer older => older.id < newer.id) ∧
      ∀ item, item ∈ items ↔
        ∃ alert ∈ (dbs 0).alerts, alert.userId = userId ∧
          AlertFilter.admits ⟨none, afterId, zoneId, deviceId⟩ alert = true ∧
          alert.out = item := by
  have distinct : ((dbs 0).alerts.map AlertRow.id).Nodup := (grown 0).distinct
  refine ⟨(historyRows userId afterId zoneId deviceId (dbs 0)).map AlertRow.out,
    (historyRows userId afterId zoneId deviceId (dbs 0)).length + 1, ?_, ?_, ?_⟩
  · intro requests enough
    exact walkHistory_of_rows positive distinct grown (List.nil_append _) rfl enough
  · exact List.pairwise_map.mpr (matchingAlerts_strict distinct)
  · intro item
    simp only [List.mem_map, mem_historyRows, and_assoc]

/-- The alert of a bus at one of its stops. -/
def stopAlert (stop : ℕ) : AlertRow where
  userId := 1
  zoneId := none
  zoneName := "stop"
  deviceId := "bus-1"
  kind := .enter
  position := ⟨0, 0⟩
  occurredAt := stop
  createdAt := stop
  id := stop + 1

/-- Three alerts at first, and one more at every request. -/
def busyTable (request : ℕ) : Db :=
  { Db.fresh ∅ with
    alerts := (List.range (request + 3)).map stopAlert
    nextAlertId := request + 4 }

theorem busyTable_grownAbove (request : ℕ) :
    GrownAbove 1 none none none (busyTable 0) (busyTable request) where
  distinct := by
    simp only [busyTable, List.map_map]
    exact List.nodup_range.map fun first second same => by simpa [stopAlert] using same
  kept alert visible := by
    obtain ⟨stored, -⟩ := mem_historyRows.mp visible
    obtain ⟨stop, isStop, rfl⟩ := List.mem_map.mp stored
    rw [List.mem_range] at isStop
    exact List.mem_map_of_mem (List.mem_range.mpr (by omega))
  above alert visible := by
    obtain ⟨stored, -⟩ := mem_historyRows.mp visible
    obtain ⟨stop, -, rfl⟩ := List.mem_map.mp stored
    by_cases old : stop < 3
    · exact Or.inl (List.mem_map_of_mem (List.mem_range.mpr old))
    · right
      intro earlier isEarlier
      obtain ⟨storedEarlier, -⟩ := mem_historyRows.mp isEarlier
      obtain ⟨earlierStop, isStop, rfl⟩ := List.mem_map.mp storedEarlier
      rw [List.mem_range] at isStop
      change earlierStop + 1 < stop + 1
      omega

theorem walkHistory_complete_busyTable :
    ∃ items rounds,
      (∀ requests, rounds ≤ requests →
        walkHistory busyTable 1 none none none 2 requests 0 none = some items) ∧
      items.Pairwise (fun newer older => older.id < newer.id) ∧
      ∀ item, item ∈ items ↔
        ∃ alert ∈ (busyTable 0).alerts, alert.userId = 1 ∧
          AlertFilter.admits ⟨none, none, none, none⟩ alert = true ∧ alert.out = item :=
  walkHistory_complete busyTable 1 none none none 2 (by decide) busyTable_grownAbove

end GeoTrack
