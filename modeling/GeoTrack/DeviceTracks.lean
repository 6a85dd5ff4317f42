import GeoTrack.BatchProcessor
import GeoTrack.Clock
import GeoTrack.IfMatch
import GeoTrack.TopRanked
import GeoTrack.ViewportBoxes

/-!
# Tracks of devices

The latest position of a device and its track are read from two tables that one
transaction writes: the archive takes every report once, the positions only what
is newer.  In every state the position of a device is its newest archived
report, so a track that reaches up to now ends where the map shows the device.
-/

namespace GeoTrack

structure TrackPoint where
  latitude : ℚ
  longitude : ℚ
  reportedAt : ℤ
deriving DecidableEq

def HistoryRow.point (row : HistoryRow) (reportedAt : ℤ) : TrackPoint :=
  ⟨row.position.latitude, row.position.longitude, reportedAt⟩

namespace Devices

/-- The latest position of one device. -/
def get (db : Db) (deviceId : DeviceId) : Option DevicePositionOut :=
  (db.devicePositions.get? deviceId).map fun row => row.out deviceId

/-- The archived reports of a device in a half-open window, in microseconds. -/
def windowRows (db : Db) (deviceId : DeviceId) (sinceUs untilUs : ℤ) : List TrackPoint :=
  (db.locationHistory.entries.filter fun entry =>
    entry.1.1 = deviceId ∧ sinceUs ≤ entry.1.2 * 1000 ∧ entry.1.2 * 1000 < untilUs).map
    fun entry => entry.2.point entry.1.2

/-- History points for one device, oldest first.  The inner query walks
backwards, so a truncated result is the most recent part of the track. -/
def track (db : Db) (deviceId : DeviceId) (sinceUs untilUs : ℤ) (limit : ℕ) : List TrackPoint :=
  let recent := TopRanked.top
    (fun first second : TrackPoint => second.reportedAt ≤ first.reportedAt) limit
    (windowRows db deviceId sinceUs untilUs)
  recent.insertionSort fun first second => first.reportedAt ≤ second.reportedAt

end Devices

/-- A moment as a query gives it, with the offset from UTC if it has one. -/
structure QueryMoment where
  reading : DateTime
  offsetUs : Option ℤ
deriving DecidableEq

/-- A bound without a zone is read as UTC; nothing when the date overflows. -/
def asUtc (moment : QueryMoment) : Option DateTime :=
  match moment.offsetUs with
  | none => some moment.reading
  | some offset => moment.reading.add (-offset)

structure TrackRequest where
  deviceId : DeviceId
  since : Option QueryMoment
  until_ : Option QueryMoment
  limit : ℕ

inductive TrackFailure where
  | problem (error : ProblemError)
  | overflowError
deriving DecidableEq

/-- One hour. -/
def defaultTrackWindowUs : ℤ := 3600000000

def emptyWindow : ProblemError where
  status := 422
  title := "Request validation failed"
  code := "validation_error"
  detail := "'until' must be later than 'since', and within the retention window."
  headers := []
  extra := []

def noStoredPosition (deviceId : DeviceId) : ProblemError where
  status := 404
  title := "Not found"
  code := "not_found"
  detail := "Device '" ++ deviceId ++ "' has no stored position."
  headers := []
  extra := []

def getDevice (db : Db) (deviceId : DeviceId) : Except ProblemError DevicePositionOut :=
  match Devices.get db deviceId with
  | some position => .ok position
  | none => .error (noStoredPosition deviceId)

def orOverflow : Option DateTime → Except TrackFailure DateTime
  | some moment => .ok moment
  | none => .error .overflowError

/-- The two bounds of a track: an hour up to now unless they are given, and no
longer ago than reports are kept. -/
def trackWindow (retentionDays : ℕ) (now : DateTime) (request : TrackRequest) :
    Except TrackFailure (DateTime × DateTime) := do
  let windowEnd ← orOverflow ((request.until_.map asUtc).getD (some now))
  let windowStart ← orOverflow
    ((request.since.map asUtc).getD (windowEnd.add (-defaultTrackWindowUs)))
  let oldest ← orOverflow (now.add (-(retentionDays * 86400000000)))
  let windowStart := if windowStart.us < oldest.us then oldest else windowStart
  if windowEnd.us ≤ windowStart.us then .error (.problem emptyWindow)
  else return (windowStart, windowEnd)

def getDeviceTrack (db : Db) (retentionDays : ℕ) (now : DateTime) (request : TrackRequest) :
    Except TrackFailure (List TrackPoint) := do
  let (windowStart, windowEnd) ← trackWindow retentionDays now request
  return Devices.track db request.deviceId windowStart.us windowEnd.us request.limit

/-- The position of a device is the newest of its archived reports, and no
device is archived without one. -/
structure NewestArchived (db : Db) : Prop where
  archived : ∀ deviceId row, db.devicePositions.get? deviceId = some row →
    db.locationHistory.get? (deviceId, row.reportedAt) = some ⟨row.position, row.receivedAt⟩
  newest : ∀ deviceId reportedAt row, db.locationHistory.get? (deviceId, reportedAt) = some row →
    ∃ position, db.devicePositions.get? deviceId = some position ∧
      reportedAt ≤ position.reportedAt

section Tables

variable {pg : Postgis} {settings : StorageSettings} {db : Db}

/-- The first report of a batch with a device and a time is what the archive takes. -/
theorem lookup_historyEntry {records : List LocationRecord} {record : LocationRecord}
    (first : FirstNewest records record) :
    Dict.lookupKey (record.deviceId, record.reportedMs)
      (records.map LocationRecord.historyEntry) = some ⟨record.position, record.receivedMs⟩ := by
  obtain ⟨before, after, rfl, older, -⟩ := first
  induction before with
  | nil => simp [Dict.lookupKey, LocationRecord.historyEntry]
  | cons other rest ih =>
      have differs : (record.deviceId, record.reportedMs) ≠ (other.deviceId, other.reportedMs) := by
        intro same
        rw [Prod.mk.injEq] at same
        have earlier := older other (List.mem_cons_self ..) same.1.symm
        omega
      rw [List.cons_append, List.map_cons, Dict.lookupKey, LocationRecord.historyEntry, if_neg differs]
      exact ih fun record listed => older record (List.mem_cons_of_mem _ listed)

theorem NewestArchived.outcome (archived : NewestArchived db) (batch : Batch) :
    NewestArchived (batch.outcome settings pg db) := by
  constructor
  · intro deviceId row stored
    rw [Batch.history_outcome]
    cases isHeard : batch.heard settings db deviceId with
    | none =>
        rw [Batch.position_of_not_heard isHeard] at stored
        rw [archived.archived deviceId row stored, Option.some_or]
    | some record =>
        rw [Batch.position_of_heard isHeard] at stored
        obtain rfl := Option.some.inj stored
        obtain ⟨inReports, rfl⟩ := Batch.mem_of_heard isHeard
        have unarchived : db.locationHistory.get? (record.deviceId, record.reportedMs) = none := by
          rw [Option.eq_none_iff_forall_not_mem]
          intro row isRow
          obtain ⟨position, isPosition, bound⟩ := archived.newest _ _ row isRow
          exact absurd (Batch.newer_of_heard isHeard isPosition) (not_lt.mpr bound)
        have kept := (List.mem_filter.mp inReports).1
        change (db.locationHistory.get? (record.deviceId, record.reportedMs)).or _ = _
        rw [unarchived, Option.none_or]
        exact lookup_historyEntry (mem_latestPerDevice_iff_firstNewest.mp kept)
  · intro deviceId reportedAt row isRow
    rw [Batch.history_outcome, Option.or_eq_some_iff] at isRow
    rcases isRow with old | ⟨-, new⟩
    · obtain ⟨position, isPosition, bound⟩ := archived.newest deviceId reportedAt row old
      obtain ⟨later, isLater, grows⟩ :=
        @Batch.position_grows settings pg db batch _ _ isPosition
      exact ⟨later, isLater, bound.trans grows⟩
    · obtain ⟨record, listed, same⟩ := List.mem_map.mp (Dict.mem_of_lookupKey new)
      obtain ⟨rfl, rfl, rfl⟩ : record.deviceId = deviceId ∧ record.reportedMs = reportedAt ∧
          ⟨record.position, record.receivedMs⟩ = row := by
        simpa [LocationRecord.historyEntry, and_assoc] using same
      exact Batch.position_covers listed

theorem newestArchived_run (users : KeySet Uuid) (ops : List Op) :
    NewestArchived (run pg settings (Db.fresh users) ops) := by
  induction ops using List.reverseRecOn with
  | nil => exact ⟨fun _ _ stored => (by cases stored), fun _ _ _ stored => (by cases stored)⟩
  | append_singleton ops op ih =>
      rw [run_snoc]
      generalize run pg settings (Db.fresh users) ops = db at ih ⊢
      rcases step_cases pg settings db op with ⟨batch, rfl⟩ | ⟨_, effect⟩
      · rw [step_batch]
        exact ih.outcome batch
      · generalize step pg settings db op = after at effect
        cases effect <;> exact ⟨ih.archived, ih.newest⟩

end Tables

section Tracks

variable {db : Db} {deviceId : DeviceId} {sinceUs untilUs : ℤ} {limit : ℕ}

theorem mem_windowRows {point : TrackPoint} :
    point ∈ Devices.windowRows db deviceId sinceUs untilUs ↔
      ∃ row, db.locationHistory.get? (deviceId, point.reportedAt) = some row ∧
        point = row.point point.reportedAt ∧ sinceUs ≤ point.reportedAt * 1000 ∧
        point.reportedAt * 1000 < untilUs := by
  simp only [Devices.windowRows, List.mem_map, List.mem_filter, decide_eq_true_eq]
  constructor
  · rintro ⟨⟨⟨device, reportedAt⟩, row⟩, ⟨listed, rfl, low, high⟩, rfl⟩
    exact ⟨row, Dict.mem_entries_iff.mp listed, rfl, low, high⟩
  · rintro ⟨row, stored, same, low, high⟩
    exact ⟨((deviceId, point.reportedAt), row), ⟨Dict.mem_entries_iff.mpr stored, rfl, low, high⟩,
      same.symm⟩

/-- The rows of a device have times of their own. -/
theorem nodup_windowRows :
    ((Devices.windowRows db deviceId sinceUs untilUs).map TrackPoint.reportedAt).Nodup := by
  rw [Devices.windowRows, List.map_map]
  refine List.Nodup.map_on ?_ (db.locationHistory.nodup.of_map.filter _)
  rintro ⟨⟨device, reportedAt⟩, row⟩ first ⟨⟨device', reportedAt'⟩, row'⟩ second same
  simp only [List.mem_filter, decide_eq_true_eq] at first second
  obtain ⟨listed, rfl, -⟩ := first
  obtain ⟨listed', rfl, -⟩ := second
  obtain rfl : reportedAt = reportedAt' := same
  have rows := (Dict.mem_entries_iff.mp listed).symm.trans (Dict.mem_entries_iff.mp listed')
  rw [Option.some.inj rows]

/-- The rows of the window, newest first. -/
def newestFirst (db : Db) (deviceId : DeviceId) (sinceUs untilUs : ℤ) : List TrackPoint :=
  (Devices.windowRows db deviceId sinceUs untilUs).insertionSort
    fun first second => second.reportedAt ≤ first.reportedAt

theorem newestFirst_falls :
    (newestFirst db deviceId sinceUs untilUs).Pairwise fun first second =>
      second.reportedAt < first.reportedAt := by
  have sorted : (newestFirst db deviceId sinceUs untilUs).Pairwise fun first second =>
      second.reportedAt ≤ first.reportedAt := by
    have transitive : IsTrans TrackPoint fun first second => second.reportedAt ≤ first.reportedAt :=
      ⟨fun _ _ _ one two => two.trans one⟩
    have total : Std.Total fun first second : TrackPoint => second.reportedAt ≤ first.reportedAt :=
      ⟨fun _ _ => le_total _ _⟩
    exact List.pairwise_insertionSort _ _
  have distinct : ((newestFirst db deviceId sinceUs untilUs).map TrackPoint.reportedAt).Nodup :=
    ((List.perm_insertionSort _ _).map _).nodup_iff.mpr nodup_windowRows
  refine (sorted.and (List.pairwise_map.mp distinct)).imp ?_
  rintro first second ⟨order, differs⟩
  exact lt_of_le_of_ne order (Ne.symm differs)

theorem mem_newestFirst {point : TrackPoint} :
    point ∈ newestFirst db deviceId sinceUs untilUs ↔
      point ∈ Devices.windowRows db deviceId sinceUs untilUs :=
  (List.perm_insertionSort _ _).mem_iff

/-- A track is the newest rows of the window, turned around. -/
theorem track_eq : Devices.track db deviceId sinceUs untilUs limit =
    ((newestFirst db deviceId sinceUs untilUs).take limit).reverse := by
  have rising : ((newestFirst db deviceId sinceUs untilUs).take limit).reverse.Pairwise
      fun first second : TrackPoint => first.reportedAt ≤ second.reportedAt := by
    rw [List.pairwise_reverse]
    exact (newestFirst_falls.imp le_of_lt).sublist (List.take_sublist _ _)
  have arranged := List.reverse_perm ((newestFirst db deviceId sinceUs untilUs).take limit)
  have transitive : IsTrans TrackPoint fun first second => first.reportedAt ≤ second.reportedAt :=
    ⟨fun _ _ _ one two => one.trans two⟩
  have total : Std.Total fun first second : TrackPoint => first.reportedAt ≤ second.reportedAt :=
    ⟨fun _ _ => le_total _ _⟩
  refine ((List.perm_insertionSort _ _).trans arranged.symm).eq_of_pairwise ?_
    (List.pairwise_insertionSort _ _) rising
  intro first second isFirst isSecond one two
  have firstRow := mem_newestFirst.mp (List.mem_of_mem_take ((List.perm_insertionSort _ _).mem_iff.mp isFirst))
  have secondRow := mem_newestFirst.mp (List.mem_of_mem_take (List.mem_reverse.mp isSecond))
  obtain ⟨row, stored, same, -⟩ := mem_windowRows.mp firstRow
  obtain ⟨other, alsoStored, alsoSame, -⟩ := mem_windowRows.mp secondRow
  have time : first.reportedAt = second.reportedAt := le_antisymm one two
  rw [← time] at alsoStored alsoSame
  obtain rfl := Option.some.inj (stored.symm.trans alsoStored)
  exact same.trans alsoSame.symm

theorem track_rises :
    (Devices.track db deviceId sinceUs untilUs limit).Pairwise fun first second =>
      first.reportedAt < second.reportedAt := by
  rw [track_eq, List.pairwise_reverse]
  exact newestFirst_falls.sublist (List.take_sublist _ _)

theorem getLast?_of_newest {points : List TrackPoint} {last : TrackPoint}
    (rises : points.Pairwise fun first second => first.reportedAt < second.reportedAt)
    (listed : last ∈ points) (atMost : ∀ point ∈ points, point.reportedAt ≤ last.reportedAt) :
    points.getLast? = some last := by
  obtain ⟨before, after, rfl⟩ := List.append_of_mem listed
  cases after with
  | nil => exact List.getLast?_concat
  | cons next rest =>
      have above := (List.pairwise_cons.mp (List.pairwise_append.mp rises).2.1).1 next (by simp)
      exact absurd above (not_lt.mpr (atMost next (by simp)))

theorem mem_windowRows_of_mem_track {point : TrackPoint}
    (listed : point ∈ Devices.track db deviceId sinceUs untilUs limit) :
    point ∈ Devices.windowRows db deviceId sinceUs untilUs := by
  rw [track_eq, List.mem_reverse] at listed
  exact mem_newestFirst.mp (List.mem_of_mem_take listed)

/-- Only newer points keep a point of the window out of the track. -/
theorem newer_of_not_mem_track {point : TrackPoint}
    (inWindow : point ∈ Devices.windowRows db deviceId sinceUs untilUs)
    (left : point ∉ Devices.track db deviceId sinceUs untilUs limit) :
    (Devices.track db deviceId sinceUs untilUs limit).length = limit ∧
      ∀ shown ∈ Devices.track db deviceId sinceUs untilUs limit,
        point.reportedAt < shown.reportedAt := by
  simp only [track_eq, List.mem_reverse, List.length_reverse] at left ⊢
  have falls := @newestFirst_falls db deviceId sinceUs untilUs
  have listed : point ∈ newestFirst db deviceId sinceUs untilUs := mem_newestFirst.mpr inWindow
  generalize newestFirst db deviceId sinceUs untilUs = rows at left falls listed
  have later : point ∈ rows.drop limit := by
    rw [← List.take_append_drop limit rows, List.mem_append] at listed
    exact listed.resolve_left left
  constructor
  · rw [List.length_take, min_eq_left]
    by_contra short
    rw [List.drop_eq_nil_of_le (by omega)] at later
    cases later
  · intro shown isShown
    rw [← List.take_append_drop limit rows, List.pairwise_append] at falls
    exact falls.2.2 shown isShown point later

theorem getDevice_eq_ok_iff {position : DevicePositionOut} :
    getDevice db deviceId = .ok position ↔
      ∃ row, db.devicePositions.get? deviceId = some row ∧ row.out deviceId = position := by
  rw [getDevice, Devices.get]
  cases db.devicePositions.get? deviceId <;> simp

end Tracks

/-- In every state that transactions lead to, a track rises in time, shows
archived reports of its window and leaves older ones out only when it is full;
and if it shows anything, the device has a position, which nothing of the track
is newer than and which is the end of the track when it lies in the window. -/
theorem track_ends_at_position {pg : Postgis} {settings : StorageSettings} {users : KeySet Uuid}
    {ops : List Op} {db : Db} (reached : run pg settings (Db.fresh users) ops = db)
    {retentionDays : ℕ} {now : DateTime} {request : TrackRequest} (positive : 1 ≤ request.limit)
    {windowStart windowEnd : DateTime}
    (bounds : trackWindow retentionDays now request = .ok (windowStart, windowEnd)) :
    ∃ points, getDeviceTrack db retentionDays now request = .ok points ∧
      points.Pairwise (fun first second => first.reportedAt < second.reportedAt) ∧
      (∀ point ∈ points,
        point ∈ Devices.windowRows db request.deviceId windowStart.us windowEnd.us) ∧
      (∀ point ∈ Devices.windowRows db request.deviceId windowStart.us windowEnd.us,
        point ∈ points ∨
          points.length = request.limit ∧ ∀ shown ∈ points, point.reportedAt < shown.reportedAt) ∧
      (∀ point ∈ points, ∃ position, getDevice db request.deviceId = .ok position ∧
        point.reportedAt ≤ position.reportedAt) ∧
      ∀ position, getDevice db request.deviceId = .ok position →
        windowStart.us ≤ position.reportedAt * 1000 → position.reportedAt * 1000 < windowEnd.us →
        points.getLast? = some ⟨position.latitude, position.longitude, position.reportedAt⟩ := by
  have archived : NewestArchived db := reached ▸ newestArchived_run users ops
  have newest : ∀ point ∈ Devices.windowRows db request.deviceId windowStart.us windowEnd.us,
      ∃ position, getDevice db request.deviceId = .ok position ∧
        point.reportedAt ≤ position.reportedAt := by
    intro point inWindow
    obtain ⟨row, stored, -⟩ := mem_windowRows.mp inWindow
    obtain ⟨position, isPosition, bound⟩ := archived.newest _ _ row stored
    exact ⟨position.out request.deviceId, getDevice_eq_ok_iff.mpr ⟨position, isPosition, rfl⟩, bound⟩
  refine ⟨Devices.track db request.deviceId windowStart.us windowEnd.us request.limit, ?_,
    track_rises, fun point => mem_windowRows_of_mem_track, ?_, ?_, ?_⟩
  · rw [getDeviceTrack, bounds]
    rfl
  · intro point inWindow
    by_cases listed : point ∈ Devices.track db request.deviceId windowStart.us windowEnd.us request.limit
    · exact Or.inl listed
    · exact Or.inr (newer_of_not_mem_track inWindow listed)
  · exact fun point listed => newest point (mem_windowRows_of_mem_track listed)
  · intro position answered low high
    obtain ⟨row, stored, rfl⟩ := getDevice_eq_ok_iff.mp answered
    have inWindow : (⟨row.position.latitude, row.position.longitude, row.reportedAt⟩ : TrackPoint) ∈
        Devices.windowRows db request.deviceId windowStart.us windowEnd.us :=
      mem_windowRows.mpr ⟨_, archived.archived _ row stored, rfl, low, high⟩
    have atMost : ∀ point ∈ Devices.track db request.deviceId windowStart.us windowEnd.us
        request.limit, point.reportedAt ≤ row.reportedAt := by
      intro point listed
      obtain ⟨other, alsoAnswered, bound⟩ := newest point (mem_windowRows_of_mem_track listed)
      obtain rfl := Except.ok.inj (answered.symm.trans alsoAnswered)
      exact bound
    -- what is newest of all cannot have been left out
    have listed : (⟨row.position.latitude, row.position.longitude, row.reportedAt⟩ : TrackPoint) ∈
        Devices.track db request.deviceId windowStart.us windowEnd.us request.limit := by
      by_contra left
      obtain ⟨full, newer⟩ := newer_of_not_mem_track inWindow left
      obtain ⟨shown, isShown⟩ := List.exists_mem_of_length_pos (full ▸ positive)
      exact absurd (newer shown isShown) (not_lt.mpr (atMost shown isShown))
    exact getLast?_of_newest track_rises listed atMost

/-- Two reports of a bus, and one from between them that comes late. -/
def lateReport : List Op :=
  [.batch ⟨9000, 9000, [⟨"bus", 52, 13, 1000, 1500⟩, ⟨"bus", 54, 13, 3000, 3500⟩]⟩,
    .batch ⟨9500, 9500, [⟨"bus", 53, 13, 2000, 9400⟩]⟩]

/-- Ten seconds after the epoch. -/
def tenSeconds : DateTime := ⟨10000000, by decide, by decide⟩

theorem track_ends_at_position_late :
    ∃ points, getDeviceTrack (run .tangentPlane ⟨7, 30⟩ (Db.fresh ∅) lateReport) 7 tenSeconds
        ⟨"bus", none, none, 2⟩ = .ok points ∧ points.getLast? = some ⟨54, 13, 3000⟩ := by
  obtain ⟨points, answered, -, -, -, -, last⟩ := @track_ends_at_position .tangentPlane ⟨7, 30⟩ ∅
    lateReport _ rfl 7 tenSeconds ⟨"bus", none, none, 2⟩ (by decide)
    ⟨-3590000000, by decide, by decide⟩ tenSeconds rfl
  have position : getDevice (run .tangentPlane ⟨7, 30⟩ (Db.fresh ∅) lateReport) "bus" =
      .ok ⟨"bus", 54, 13, 3000, 3500⟩ := by
    rw [getDevice_eq_ok_iff]
    exact ⟨⟨⟨54, 13⟩, 3000, 3500, 9000⟩, by decide +kernel, rfl⟩
  exact ⟨points, answered, last _ position (by decide) (by decide)⟩

end GeoTrack
