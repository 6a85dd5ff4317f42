import GeoTrack.AlertCursor
import GeoTrack.ZoneSession
import GeoTrack.Unwinding

/-!
# What one user is told

The answers of the API to the requests of one user: the outcomes of his zone
operations, his zones, the devices inside them, and the pages of his alerts.

Alerts of all users are numbered from one sequence, so their numbers say how
many alerts there were.  Here they are replaced by the place of the alert in the
history of its owner, in the answers as well as in the cursors a user sends.
-/

namespace GeoTrack

namespace Geozones

/-- Devices whose latest position is inside a circle. -/
def devicesInside (pg : Postgis) (db : Db) (latitude longitude radiusM : ℚ) (limit : ℕ) :
    List DevicePositionOut :=
  (((db.devicePositions.entries.filter fun entry =>
      pg.dWithin ⟨latitude, longitude⟩ radiusM entry.2.position).insertionSort
    fun first second => pg.deviceOrder first.1 second.1 = true).take limit).map
    fun entry =>
      { deviceId := entry.1
        latitude := entry.2.position.latitude
        longitude := entry.2.position.longitude
        reportedAt := entry.2.reportedAt
        receivedAt := entry.2.receivedAt }

end Geozones

namespace Db

/-- The rows of one owner. -/
def zonesOf (db : Db) (userId : Uuid) : Dict Uuid ZoneRow :=
  db.geozones.filter fun _ zone => zone.userId = userId

/-- The alerts of one owner, oldest first. -/
def historyOf (db : Db) (userId : Uuid) : List AlertRow :=
  db.alerts.filter fun alert => alert.userId = userId

/-- The number of the alert at one place of the history. -/
def idAt (db : Db) (userId : Uuid) (place : ℕ) : Option ℕ :=
  ((db.historyOf userId).map AlertRow.id)[place]?

/-- The place of the alert with one number. -/
def placeOf (db : Db) (userId : Uuid) (id : ℕ) : ℕ :=
  ((db.historyOf userId).map AlertRow.id).idxOf id

end Db

/-- Replace the numbers of a page. -/
def AlertPage.renumber (page : AlertPage) (rename : ℕ → ℕ) : AlertPage where
  items := page.items.map fun alert => { alert with id := rename alert.id }
  nextBeforeId := page.nextBeforeId.map rename

/-- The requests of a user that read.  The cursors of the alert feed are numbers
of alerts he was shown; they are given by their places. -/
inductive ZoneQuery where
  | zone (zoneId : Uuid)
  | page (limit offset : ℕ)
  | presence (maxDevices : ℕ)
  | devices (zoneId : Uuid) (limit : ℕ)
  | alerts (zoneId : Option Uuid) (deviceId : Option DeviceId) (before after : Option ℕ)
      (limit : ℕ)

inductive ZoneReply where
  | created (outcome : Except ZoneError ZoneRow)
  | updated (outcome : Except ZoneError (Option ZoneRow))
  | deleted (outcome : Except ZoneError Bool)
  | zone (zone : Option GeozoneOut)
  | page (items : List GeozoneOut) (total : ℕ)
  | presence (zones : List (Uuid × List DeviceId))
  | devices (items : Option (List DevicePositionOut))
  | alerts (page : AlertPage)

def ZoneQuery.reply (pg : Postgis) (db : Db) (userId : Uuid) : ZoneQuery → ZoneReply
  | .zone zoneId => .zone (zoneTable db userId zoneId)
  | .page limit offset =>
      .page (Geozones.listForUser db userId limit offset) (Geozones.countForUser db userId)
  | .presence maxDevices => .presence (presenceForUser pg db userId maxDevices)
  | .devices zoneId limit =>
      .devices ((zoneTable db userId zoneId).map fun zone =>
        Geozones.devicesInside pg db zone.latitude zone.longitude zone.radiusM limit)
  | .alerts zoneId deviceId before after limit =>
      let filter := ⟨before.bind (db.idAt userId), after.bind (db.idAt userId), zoneId, deviceId⟩
      .alerts ((alertPage db userId filter limit).renumber (db.placeOf userId))

/-- The outcome of an operation for the one who asked for it. -/
def Op.reply (db : Db) : Op → Option ZoneReply
  | .batch _ => none
  | .create now newId userId payload quota =>
      some (.created ((Geozones.create now db newId userId payload quota).map Prod.snd))
  | .replace now zoneId userId payload expected =>
      some (.updated ((Geozones.replace now db zoneId userId payload expected).map Prod.snd))
  | .patch now zoneId userId changes expected =>
      some (.updated ((Geozones.patch now db zoneId userId changes expected).map Prod.snd))
  | .delete zoneId userId expected =>
      some (.deleted ((Geozones.delete db zoneId userId expected).map Prod.snd))

def Op.requester : Op → Option Uuid
  | .batch _ => none
  | .create _ _ userId _ _ | .replace _ _ userId _ _ | .patch _ _ userId _ _ => some userId
  | .delete _ userId _ => some userId

/-- Something that happens to the tables, or a request that reads them. -/
inductive Happening where
  | write (op : Op)
  | ask (userId : Uuid) (query : ZoneQuery)

namespace Happening

/-- The batches and the requests of one user. -/
def concerns (userId : Uuid) : Happening → Bool
  | .write (.batch _) => true
  | .write op => op.requester = some userId
  | .ask asker _ => asker = userId

/-- The account and the new id of a create. -/
def drawn : Happening → Option (Uuid × Uuid)
  | .write (.create _ newId userId _ _) => some (userId, newId)
  | _ => none

end Happening

/-- The tables, with what one user takes part in and is told. -/
def tablesFor (pg : Postgis) (settings : StorageSettings) (userId : Uuid) :
    Unwinding.System Db Happening ZoneReply where
  step db
    | .write op => step pg settings db op
    | .ask _ _ => db
  answer db
    | .write op => op.reply db
    | .ask asker query => some (query.reply pg db asker)
  visible := Happening.concerns userId

/-- The collation of the database is deterministic: it orders device ids
linearly. -/
structure Postgis.Collates (pg : Postgis) : Prop where
  total : ∀ first second,
    pg.deviceOrder first second = true ∨ pg.deviceOrder second first = true
  trans : ∀ first second third, pg.deviceOrder first second = true →
    pg.deviceOrder second third = true → pg.deviceOrder first third = true
  antisymm : ∀ first second, pg.deviceOrder first second = true →
    pg.deviceOrder second first = true → first = second

theorem Postgis.collates_tangentPlane : Postgis.tangentPlane.Collates where
  total first second := by
    simp only [Postgis.tangentPlane, decide_eq_true_eq]
    exact String.le_total first second
  trans first second third := by
    simp only [Postgis.tangentPlane, decide_eq_true_eq]
    exact String.le_trans
  antisymm first second := by
    simp only [Postgis.tangentPlane, decide_eq_true_eq]
    exact String.le_antisymm

section Places

variable {db : Db} {userId : Uuid}

theorem historyOf_strict (userId : Uuid)
    (increasing : (db.alerts.map AlertRow.id).Pairwise (· < ·)) :
    ((db.historyOf userId).map AlertRow.id).Pairwise (· < ·) :=
  increasing.sublist (List.filter_sublist.map AlertRow.id)

/-- The body and the place of an alert, and what they make of a cursor. -/
theorem placed {alert : AlertRow} {place : ℕ}
    (increasing : (db.alerts.map AlertRow.id).Pairwise (· < ·))
    (listed : (alert, place) ∈ (db.historyOf userId).zipIdx) :
    db.placeOf userId alert.id = place ∧
      ∀ cursor, ∀ id ∈ db.idAt userId cursor,
        (alert.id < id ↔ place < cursor) ∧ (id < alert.id ↔ cursor < place) := by
  have strict := (historyOf_strict userId increasing).sortedLT
  have found : ((db.historyOf userId).map AlertRow.id)[place]? = some alert.id := by
    rw [List.getElem?_map, List.mem_zipIdx_iff_getElem?.mp listed]
    rfl
  obtain ⟨short, isAlert⟩ := List.getElem?_eq_some_iff.mp found
  constructor
  · rw [Db.placeOf, ← isAlert]
    exact strict.nodup.idxOf_getElem place short
  · intro cursor id isId
    obtain ⟨cursorShort, rfl⟩ := List.getElem?_eq_some_iff.mp isId
    rw [← isAlert]
    exact ⟨strict.getElem_lt_getElem_iff, strict.getElem_lt_getElem_iff⟩

/-- What the filters of a query admit, from the body and the place of an alert
in a history of this length. -/
def placeAdmits (length : ℕ) (zoneId : Option Uuid) (deviceId : Option DeviceId)
    (before after : Option ℕ) (entry : AlertBody × ℕ) : Bool :=
  (before.filter fun cursor => cursor < length).all (fun cursor => entry.2 < cursor) &&
    (after.filter fun cursor => cursor < length).all (fun cursor => cursor < entry.2) &&
      zoneId.all (fun id => entry.1.zoneId = some id) &&
        deviceId.all (fun id => entry.1.deviceId = id)

/-- A page of the feed, from the history with places for numbers. -/
def placedPage (bodies : List AlertBody) (zoneId : Option Uuid) (deviceId : Option DeviceId)
    (before after : Option ℕ) (limit : ℕ) : AlertPage :=
  let admitted := bodies.zipIdx.filter (placeAdmits bodies.length zoneId deviceId before after)
  let items := (admitted.reverse.take limit).map fun entry => (AlertRow.mk entry.1 entry.2).out
  { items := items
    nextBeforeId := if items.length = limit then items.getLast?.map AlertOut.id else none }

/-- Rows that are in order are read backwards. -/
theorem matchingAlerts_eq_reverse (increasing : (db.alerts.map AlertRow.id).Pairwise (· < ·))
    (filter : AlertFilter) :
    matchingAlerts db userId filter = ((db.historyOf userId).filter filter.admits).reverse := by
  have sameRows : (db.historyOf userId).filter filter.admits =
      db.alerts.filter fun alert => alert.userId = userId && filter.admits alert := by
    rw [Db.historyOf, List.filter_filter]
    apply List.filter_congr
    intro alert _
    exact Bool.and_comm _ _
  have falling : ((db.historyOf userId).filter filter.admits).reverse.Pairwise
      fun first second => second.id < first.id := by
    rw [List.pairwise_reverse]
    exact (List.pairwise_map.mp (historyOf_strict userId increasing)).filter _
  have permuted : (matchingAlerts db userId filter).Perm
      ((db.historyOf userId).filter filter.admits).reverse := by
    rw [sameRows]
    exact (List.perm_insertionSort _ _).trans (List.reverse_perm _).symm
  apply permuted.eq_of_pairwise _ (matchingAlerts_strict (increasing.imp ne_of_lt)) falling
  intro first second _ _ below above
  exact absurd below (lt_asymm above)

/-- What a cursor admits, by numbers and by places. -/
theorem all_idAt (db : Db) (userId : Uuid) (test placeTest : ℕ → Bool) (cursor : Option ℕ)
    (agree : ∀ place, ∀ id ∈ db.idAt userId place, test id = placeTest place) :
    (cursor.bind (db.idAt userId)).all test =
      (cursor.filter fun place => place < (db.historyOf userId).length).all placeTest := by
  cases cursor with
  | none => rfl
  | some place =>
      rw [Option.bind_some]
      by_cases known : place < (db.historyOf userId).length
      · obtain ⟨id, isId⟩ : ∃ id, db.idAt userId place = some id := by
          rw [← Option.isSome_iff_exists]
          simpa [Db.idAt] using known
        rw [isId, Option.filter_some_pos (by simpa using known)]
        simpa using agree place id isId
      · have unknown : db.idAt userId place = none := by
          simpa [Db.idAt] using known
        rw [unknown, Option.filter_some_neg (by simpa using known)]
        rfl

section Pages

variable (zoneId : Option Uuid) (deviceId : Option DeviceId) (before after : Option ℕ)

theorem admits_eq_placeAdmits (increasing : (db.alerts.map AlertRow.id).Pairwise (· < ·))
    {alert : AlertRow} {place : ℕ} (listed : (alert, place) ∈ (db.historyOf userId).zipIdx) :
    AlertFilter.admits
        ⟨before.bind (db.idAt userId), after.bind (db.idAt userId), zoneId, deviceId⟩ alert =
      placeAdmits (db.historyOf userId).length zoneId deviceId before after
        (alert.toAlertBody, place) := by
  have cursors := (placed increasing listed).2
  have below := all_idAt db userId (fun id => alert.id < id) (fun cursor => place < cursor) before
    fun cursor id isId => decide_eq_decide.mpr (cursors cursor id isId).1
  have above := all_idAt db userId (fun id => id < alert.id) (fun cursor => cursor < place) after
    fun cursor id isId => decide_eq_decide.mpr (cursors cursor id isId).2
  rw [AlertFilter.admits, below, above]
  rfl

/-- By places, the items of a page depend on the bodies of the history alone. -/
theorem items_renumber (userId : Uuid)
    (increasing : (db.alerts.map AlertRow.id).Pairwise (· < ·)) (limit : ℕ) :
    ((alertPage db userId
        ⟨before.bind (db.idAt userId), after.bind (db.idAt userId), zoneId, deviceId⟩
        limit).renumber (db.placeOf userId)).items =
      (placedPage ((db.historyOf userId).map AlertRow.toAlertBody) zoneId deviceId before after
        limit).items := by
  set filter : AlertFilter :=
    ⟨before.bind (db.idAt userId), after.bind (db.idAt userId), zoneId, deviceId⟩
  set test := placeAdmits (db.historyOf userId).length zoneId deviceId before after
  let entries := (db.historyOf userId).zipIdx.filter fun entry =>
    test (Prod.map AlertRow.toAlertBody id entry)
  have admitted : (db.historyOf userId).filter filter.admits = entries.map Prod.fst := by
    conv_lhs => rw [← List.zipIdx_map_fst 0 (db.historyOf userId), List.filter_map]
    congr 1
    apply List.filter_congr
    rintro ⟨alert, place⟩ listed
    exact admits_eq_placeAdmits zoneId deviceId before after increasing listed
  have placedEntries : ((db.historyOf userId).map AlertRow.toAlertBody).zipIdx.filter test =
      entries.map (Prod.map AlertRow.toAlertBody id) := by
    rw [List.zipIdx_map, List.filter_map]
    rfl
  rw [AlertPage.renumber, alertPage_items, matchingAlerts_eq_reverse increasing, admitted,
    placedPage, List.length_map, placedEntries, ← List.map_reverse, ← List.map_reverse,
    ← List.map_take, ← List.map_take, List.map_map, List.map_map, List.map_map]
  apply List.map_congr_left
  rintro ⟨alert, place⟩ listed
  have inHistory : (alert, place) ∈ (db.historyOf userId).zipIdx :=
    (List.mem_filter.mp (List.mem_reverse.mp (List.mem_of_mem_take listed))).1
  have isPlace := (placed increasing inHistory).1
  simp [AlertRow.out, isPlace]

theorem alertPage_renumber (increasing : (db.alerts.map AlertRow.id).Pairwise (· < ·))
    (limit : ℕ) :
    (alertPage db userId
        ⟨before.bind (db.idAt userId), after.bind (db.idAt userId), zoneId, deviceId⟩
        limit).renumber (db.placeOf userId) =
      placedPage ((db.historyOf userId).map AlertRow.toAlertBody) zoneId deviceId before after
        limit := by
  have sameItems := items_renumber zoneId deviceId before after userId increasing limit
  set page := alertPage db userId
    ⟨before.bind (db.idAt userId), after.bind (db.idAt userId), zoneId, deviceId⟩ limit
  set placed := placedPage ((db.historyOf userId).map AlertRow.toAlertBody) zoneId deviceId before
    after limit
  have sameCursor : (page.renumber (db.placeOf userId)).nextBeforeId = placed.nextBeforeId := by
    change page.nextBeforeId.map (db.placeOf userId) =
      if placed.items.length = limit then placed.items.getLast?.map AlertOut.id else none
    rw [← sameItems, AlertPage.renumber, List.length_map, List.getLast?_map, Option.map_map]
    change (if page.items.length = limit then page.items.getLast?.map AlertOut.id else none).map
      (db.placeOf userId) = _
    split
    · rw [Option.map_map]
      rfl
    · rfl
  calc page.renumber (db.placeOf userId)
      = ⟨(page.renumber (db.placeOf userId)).items,
          (page.renumber (db.placeOf userId)).nextBeforeId⟩ := rfl
    _ = placed := by rw [sameItems, sameCursor]

end Pages

end Places

end GeoTrack
