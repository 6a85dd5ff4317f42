import GeoTrack.IngestReports

/-!
# From the edge to the processor

The edge and the processor both check a report's age, each on its own clock and
in its own type: dates with microseconds at the edge, truncated milliseconds in
the processor.  Between the two checks the report waits in its stream for any
length of time, and its age grows while the bounds stay.
-/

namespace GeoTrack

/-- The values the JSON library gives back as they were: strings, finite doubles
and 64-bit integers. -/
def Json.Plain : Json → Prop
  | .str _ => True
  | .float (.finite value) => Binary64.IsDouble value
  | .int value => -2 ^ 63 ≤ value ∧ value < 2 ^ 63
  | _ => False

/-- The library reads back an array of plain values that it has written. -/
def Orjson.RoundTrips (orjson : Orjson) (items : List Json) : Prop :=
  (∀ item ∈ items, item.Plain) → orjson.loads (orjson.dumps (.arr items)) = .ok (.arr items)

/-- The five elements of an entry. -/
def LocationRecord.items (record : LocationRecord) : List Json :=
  [.str record.deviceId, .float (.finite record.lat), .float (.finite record.lon),
    .int record.reportedMs, .int record.receivedMs]

section Edge

/-- The window check passes every report or none. -/
theorem checkReports_eq_ok_iff {window : ℕ × ℕ} {oldest newest : DateTime} {index : ℕ}
    {reports : List LocationReport} :
    checkReports window oldest newest index reports = .ok () ↔
      ∀ report ∈ reports, oldest.us ≤ report.timestamp.us ∧ report.timestamp.us ≤ newest.us := by
  induction reports generalizing index with
  | nil => simp [checkReports]
  | cons report rest ih =>
      rw [checkReports, List.forall_mem_cons]
      split
      case isTrue old => simp [not_le.mpr old]
      case isFalse recent =>
          split
          case isTrue ahead => simp [not_le.mpr ahead]
          case isFalse near => simp [ih, not_lt.mp recent, not_lt.mp near]

theorem inWindow_of_checkReportWindow {reports : List LocationReport} {now : DateTime}
    {window : ℕ × ℕ} (passed : checkReportWindow reports now window = .ok ())
    {report : LocationReport} (listed : report ∈ reports) :
    now.us - window.1 * 1000000 ≤ report.timestamp.us ∧
      report.timestamp.us ≤ now.us + window.2 * 1000000 := by
  unfold checkReportWindow at passed
  split at passed
  case h_2 => cases passed
  case h_1 oldest newest atOldest atNewest =>
      have bounds := checkReports_eq_ok_iff.mp passed report listed
      rw [DateTime.us_add atOldest, DateTime.us_add atNewest] at bounds
      omega

/-- Every report gets its own entry. -/
theorem entry_of_submit {orjson : Orjson} {shards : ℕ} {gate : BacklogGate} {time : ClockTime}
    {reports : List LocationReport} {entries : List (ℕ × Bytes)}
    (submitted : submit orjson shards gate time reports = .ok entries) {index : ℕ}
    {report : LocationReport} (listed : reports[index]? = some report) {entry : ℕ × Bytes}
    (appended : entries[index]? = some entry) :
    entry.2 = encodeRecord orjson (report.record (nowMs time.ns)) := by
  unfold submit at submitted
  split at submitted
  case isTrue empty => simp [empty] at listed
  case isFalse =>
      split at submitted
      case isTrue => cases submitted
      case isFalse =>
          obtain rfl := Except.ok.inj submitted
          rw [List.getElem?_map, listed] at appended
          exact (congrArg Prod.snd (Option.some.inj appended)).symm

end Edge

section Entry

variable {orjson : Orjson} {report : LocationReport}

theorem plain_items (receivedMs : ℤ) (fits : -2 ^ 63 ≤ receivedMs ∧ receivedMs < 2 ^ 63) :
    ∀ item ∈ (report.record receivedMs).items, item.Plain := by
  intro item listed
  simp only [LocationRecord.items, List.mem_cons, List.not_mem_nil, or_false] at listed
  rcases listed with rfl | rfl | rfl | rfl | rfl
  · trivial
  · exact report.latitudeDouble
  · exact report.longitudeDouble
  · exact toEpochMs_int64 report.timestamp
  · exact fits

theorem nowMs_int64 (time : ClockTime) : -2 ^ 63 ≤ nowMs time.ns ∧ nowMs time.ns < 2 ^ 63 := by
  have lower := time.lower
  have upper := time.upper
  unfold nowMs
  omega

/-- The processor reads the record that the edge wrote. -/
theorem decodeRecord_entry {time : ClockTime}
    (roundTrips : orjson.RoundTrips (report.record (nowMs time.ns)).items) :
    decodeRecord orjson (encodeRecord orjson (report.record (nowMs time.ns))) =
      .ok (report.record (nowMs time.ns)) := by
  have loaded := roundTrips (plain_items _ (nowMs_int64 time))
  have nonempty : report.deviceId ≠ "" := by
    intro empty
    have named := report.named
    rw [empty] at named
    exact absurd named (by decide)
  have inRange : ¬ (¬ (-90 ≤ report.latitude ∧ report.latitude ≤ 90) ∨
      ¬ (-180 ≤ report.longitude ∧ report.longitude ≤ 180)) := by
    rintro (wrong | wrong)
    · exact wrong report.latitudeRange
    · exact wrong report.longitudeRange
  have checked : checkRecord (.str report.deviceId) (.float (.finite report.latitude))
      (.float (.finite report.longitude)) (.int (toEpochMs report.timestamp))
        (.int (nowMs time.ns)) = .ok (report.record (nowMs time.ns)) := by
    simp only [checkRecord, Json.asNumber, Json.asInt, if_neg nonempty, if_neg inRange]
    rfl
  have written : encodeRecord orjson (report.record (nowMs time.ns)) =
      orjson.dumps (.arr (report.record (nowMs time.ns)).items) := rfl
  rw [decodeRecord, written, loaded]
  exact checked

end Entry

/-- What was promised for a report: its entry decodes to the device and the place
of the report, and the processor keeps it at its time. -/
def Delivered (orjson : Orjson) (settings : StorageSettings) (processedAt : ClockTime)
    (report : LocationReport) (entry : Bytes) : Prop :=
  ∃ record, decodeRecord orjson entry = .ok record ∧ record.deviceId = report.deviceId ∧
    record.lat = report.latitude ∧ record.lon = report.longitude ∧
    record ∈ (splitStorable settings (nowMs processedAt.ns) [record]).1

section Delivery

variable {orjson : Orjson} {settings : StorageSettings} {report : LocationReport}
  {submittedAt processedAt : ClockTime}

/-- Only the age of the report can be held against it. -/
theorem storable_record_iff {receivedMs now : ℤ} :
    Storable settings now (report.record receivedMs) ↔
      now ≤ toEpochMs report.timestamp + settings.historyRetentionDays * 86400000 ∧
        toEpochMs report.timestamp ≤ now + settings.ingestMaxFutureSkewS * 1000 := by
  have named : deviceIdMatches (report.record receivedMs).deviceId = true := report.named
  rw [storable_iff, and_iff_right named]
  simp only [oldestStorable, newestStorable, LocationReport.record]
  omega

theorem delivered_iff
    (roundTrips : orjson.RoundTrips (report.record (nowMs submittedAt.ns)).items) :
    Delivered orjson settings processedAt report
        (encodeRecord orjson (report.record (nowMs submittedAt.ns))) ↔
      nowMs processedAt.ns ≤
          toEpochMs report.timestamp + settings.historyRetentionDays * 86400000 ∧
        toEpochMs report.timestamp ≤
          nowMs processedAt.ns + settings.ingestMaxFutureSkewS * 1000 := by
  have decoded := decodeRecord_entry roundTrips
  rw [← @storable_record_iff settings report (nowMs submittedAt.ns)]
  constructor
  · rintro ⟨record, same, -, -, -, kept⟩
    obtain rfl := Except.ok.inj (decoded.symm.trans same)
    exact (mem_splitStorable_fst.mp kept).2
  · intro kept
    exact ⟨_, decoded, rfl, rfl, rfl,
      mem_splitStorable_fst.mpr ⟨List.mem_singleton.mpr rfl, kept⟩⟩

/-- What passed the window of the edge is never too far ahead later on. -/
theorem not_ahead_of_checked {reports : List LocationReport} {checkedAt : ClockTime}
    (passed : checkReportWindow reports (utcNow checkedAt) (reportWindow settings) = .ok ())
    (listed : report ∈ reports) (later : checkedAt.ns ≤ processedAt.ns)
    (sinceEpoch : 0 ≤ report.timestamp.us)
    (before2106 : report.timestamp.us < 2 ^ 32 * 1000000) :
    toEpochMs report.timestamp ≤
      nowMs processedAt.ns + settings.ingestMaxFutureSkewS * 1000 := by
  have truncated := toEpochMs_le sinceEpoch before2106
  have bound := (inWindow_of_checkReportWindow passed listed).2
  simp only [reportWindow, utcNow] at bound
  unfold nowMs
  omega

end Delivery

/-- A report that the edge accepted is stored when and only when it is processed
inside the window of the processor, in whole milliseconds.  Until 2106 only its age
at that time can keep it out. -/
theorem accepted_report_stored_iff (pydantic : Pydantic) (orjson : Orjson)
    (settings : StorageSettings) (maxItems shards : ℕ) (gate : BacklogGate)
    (checkedAt submittedAt processedAt : ClockTime) (raw : Bytes)
    (reports : List LocationReport) (entries : List (ℕ × Bytes))
    (accepted : acceptPayload pydantic orjson settings maxItems shards gate checkedAt submittedAt
      raw = .ok (reports, entries))
    (later : checkedAt.ns ≤ processedAt.ns) (index : ℕ) (report : LocationReport)
    (listed : reports[index]? = some report) (entry : ℕ × Bytes)
    (appended : entries[index]? = some entry)
    (roundTrips : orjson.RoundTrips (report.record (nowMs submittedAt.ns)).items) :
    (Delivered orjson settings processedAt report entry.2 ↔
      nowMs processedAt.ns ≤
          toEpochMs report.timestamp + settings.historyRetentionDays * 86400000 ∧
        toEpochMs report.timestamp ≤
          nowMs processedAt.ns + settings.ingestMaxFutureSkewS * 1000) ∧
    (0 ≤ report.timestamp.us → report.timestamp.us < 2 ^ 32 * 1000000 →
      (Delivered orjson settings processedAt report entry.2 ↔
        nowMs processedAt.ns ≤
          toEpochMs report.timestamp + settings.historyRetentionDays * 86400000)) := by
  obtain ⟨passed, submitted⟩ := acceptPayload_eq_ok accepted
  rw [entry_of_submit submitted listed appended, delivered_iff roundTrips]
  refine ⟨Iff.rfl, ?_⟩
  intro sinceEpoch before2106
  exact and_iff_left (not_ahead_of_checked passed (List.mem_of_getElem? listed) later sinceEpoch
    before2106)

/-- The bytes of a report of device `a` from the origin at the epoch. -/
def epochPayload : Bytes :=
  -- {"device_id":"a","latitude":0,"longitude":0,"timestamp":0}
  [123, 34, 100, 101, 118, 105, 99, 101, 95, 105, 100, 34, 58, 34, 97, 34, 44, 34, 108, 97, 116,
    105, 116, 117, 100, 101, 34, 58, 48, 44, 34, 108, 111, 110, 103, 105, 116, 117, 100, 101, 34,
    58, 48, 44, 34, 116, 105, 109, 101, 115, 116, 97, 109, 112, 34, 58, 48, 125]

def epochReport : LocationReport where
  deviceId := "a"
  latitude := 0
  longitude := 0
  timestamp := ⟨0, by decide, by decide⟩
  named := by decide
  latitudeRange := by decide +kernel
  longitudeRange := by decide +kernel
  latitudeDouble := by decide +kernel
  longitudeDouble := by decide +kernel

/-- A validator that knows this one payload. -/
def epochPydantic : Pydantic where
  items _ _ := .error ⟨[⟨"list_type", none⟩]⟩
  envelope _ _ := .error ⟨[⟨"missing", none⟩]⟩
  report raw := if raw = epochPayload then .ok epochReport else .error ⟨[⟨"missing", none⟩]⟩

/-- The bytes of `["a",0.0,0.0,0,86400000]`. -/
def dayOldEntry : Bytes :=
  [91, 34, 97, 34, 44, 48, 46, 48, 44, 48, 46, 48, 44, 48, 44, 56, 54, 52, 48, 48, 48, 48, 48, 93]

def dayOldOrjson : Orjson :=
  .knowing dayOldEntry
    (.arr [.str "a", .float (.finite 0), .float (.finite 0), .int 0, .int 86400000])

/-- One day after the epoch. -/
def dayLater : ClockTime := ⟨86400000000000, by decide, by decide⟩

/-- One day and a millisecond after the epoch. -/
def dayAndMillisecondLater : ClockTime := ⟨86400001000000, by decide, by decide⟩

theorem dayOld_accepted :
    acceptPayload epochPydantic dayOldOrjson ⟨1, 300⟩ 1000 8 ⟨false, 1000⟩ dayLater dayLater
      epochPayload = .ok ([epochReport], [(shardFor "a" 8, dayOldEntry)]) := by
  have parsed : parseIngestPayload epochPydantic 1000 epochPayload = .ok (none, [epochReport]) := by
    rfl
  have checked : checkReportWindow [epochReport] (utcNow dayLater) (reportWindow ⟨1, 300⟩) =
      .ok () := by
    decide +kernel
  have appended : submit dayOldOrjson 8 ⟨false, 1000⟩ dayLater [epochReport] =
      .ok [(shardFor "a" 8, dayOldEntry)] := rfl
  rw [acceptPayload, parsed]
  simp only [Except.mapError, bind, Except.bind, checked, appended]
  rfl

theorem dayOld_roundTrips :
    dayOldOrjson.RoundTrips (epochReport.record (nowMs dayLater.ns)).items := by
  intro _
  have reported : toEpochMs epochReport.timestamp = 0 := by decide +kernel
  simp only [LocationRecord.items, LocationReport.record, reported]
  rfl

/-- Processed at once, the report is just young enough. -/
theorem accepted_report_stored_iff_punctual :
    Delivered dayOldOrjson ⟨1, 300⟩ dayLater epochReport dayOldEntry :=
  (accepted_report_stored_iff epochPydantic dayOldOrjson ⟨1, 300⟩ 1000 8 ⟨false, 1000⟩ dayLater
    dayLater dayLater epochPayload [epochReport] [(shardFor "a" 8, dayOldEntry)] dayOld_accepted
    le_rfl 0 epochReport rfl (shardFor "a" 8, dayOldEntry) rfl dayOld_roundTrips).1.mpr
    (by decide +kernel)

/-- Processed a millisecond later, the accepted report is dropped. -/
theorem accepted_report_expires :
    acceptPayload epochPydantic dayOldOrjson ⟨1, 300⟩ 1000 8 ⟨false, 1000⟩ dayLater dayLater
        epochPayload = .ok ([epochReport], [(shardFor "a" 8, dayOldEntry)]) ∧
      dayLater.ns ≤ dayAndMillisecondLater.ns ∧
      ¬ Delivered dayOldOrjson ⟨1, 300⟩ dayAndMillisecondLater epochReport dayOldEntry := by
  refine ⟨dayOld_accepted, by decide, ?_⟩
  intro delivered
  have young := (delivered_iff dayOld_roundTrips).mp delivered
  exact absurd young (by decide +kernel)

end GeoTrack
