import GeoTrack.Clock
import GeoTrack.StorableReports

/-!
# Acceptance of device reports

The edge parses a payload, checks that the timestamps lie in the window the
storage can hold, stamps the time of arrival and appends one entry per report to
the stream of the device's shard.

Payloads are validated by a library outside the repository, taken here as the
parameter `Pydantic`.  What its schema promises of a report is part of the type
`LocationReport`.
-/

namespace GeoTrack

/-- A validated report. -/
structure LocationReport where
  deviceId : DeviceId
  latitude : ℚ
  longitude : ℚ
  /-- In UTC, whatever zone it was sent in. -/
  timestamp : DateTime
  named : deviceIdMatches deviceId = true
  latitudeRange : -90 ≤ latitude ∧ latitude ≤ 90
  longitudeRange : -180 ≤ longitude ∧ longitude ≤ 180
  latitudeDouble : Binary64.IsDouble latitude
  longitudeDouble : Binary64.IsDouble longitude
deriving DecidableEq

/-- One error of a failed validation, with the length a list really had. -/
structure ErrorDetails where
  kind : String
  actualLength : Option ℕ

structure ValidationError where
  errors : List ErrorDetails

/-- The validators of the three shapes of a payload. -/
structure Pydantic where
  items : (maxItems : ℕ) → Bytes → Except ValidationError (List LocationReport)
  envelope : (maxItems : ℕ) → Bytes → Except ValidationError (Option ℤ × List LocationReport)
  report : Bytes → Except ValidationError LocationReport

inductive PayloadError where
  | value (message : String)
  | batchTooLarge (offered limit : ℕ)
  | validation (error : ValidationError)

/-- Translate the length error of the library into one a device can act on. -/
def batchLimitError (error : ValidationError) (limit : ℕ) : Option PayloadError :=
  (error.errors.find? fun details => details.kind = "too_long").map fun details =>
    .batchTooLarge (details.actualLength.getD (limit + 1)) limit

/-- `bytes.lstrip`. -/
def lstrip (raw : Bytes) : Bytes :=
  raw.dropWhile fun byte => byte ∈ [32, 9, 10, 13, 11, 12]

/-- The bytes of `"items"`, with the quotes. -/
def itemsKey : Bytes := [34, 105, 116, 101, 109, 115, 34]

/-- Accept a single report, an array of reports, or an envelope. -/
def parseIngestPayload (pydantic : Pydantic) (maxItems : ℕ) (raw : Bytes) :
    Except PayloadError (Option ℤ × List LocationReport) :=
  let stripped := lstrip raw
  if stripped = [] then
    .error (.value "empty payload")
  else
    let parsed :=
      if stripped.head? = some 91 then
        (pydantic.items maxItems raw).map fun items => (none, items)
      else if itemsKey <:+: stripped then
        pydantic.envelope maxItems raw
      else
        (pydantic.report raw).map fun report => (none, [report])
    match parsed with
    | .error error => .error ((batchLimitError error maxItems).getD (.validation error))
    | .ok (seq, items) =>
        if items = [] then .error (.value "payload contains no reports")
        else .ok (seq, items)

def padTwo (number : ℕ) : String :=
  if number < 10 then "0" ++ toString number else toString number

/-- `str` of a duration of whole seconds. -/
def timedeltaText (seconds : ℕ) : String :=
  let days := seconds / 86400
  let ofDay := seconds % 86400
  let clock := toString (ofDay / 3600) ++ ":" ++ padTwo (ofDay / 60 % 60) ++ ":" ++
    padTwo (ofDay % 60)
  if days = 0 then clock
  else toString days ++ (if days = 1 then " day, " else " days, ") ++ clock

example : timedeltaText (30 * 86400) = "30 days, 0:00:00" ∧ timedeltaText 300 = "0:05:00" := by
  decide +kernel

/-- A report's timestamp is outside the window, or the window is outside the
calendar. -/
inductive WindowError where
  | report (index : ℕ) (reason : String)
  | overflow
deriving DecidableEq

/-- What the device is told. -/
def WindowError.message : WindowError → Option String
  | .report index reason => some ("items[" ++ toString index ++ "]: " ++ reason)
  | .overflow => none

/-- `max_age` and `max_future`, in seconds. -/
def reportWindow (settings : StorageSettings) : ℕ × ℕ :=
  (settings.historyRetentionDays * 86400, settings.ingestMaxFutureSkewS)

/-- The loop over the reports, from one index on. -/
def checkReports (window : ℕ × ℕ) (oldest newest : DateTime) :
    ℕ → List LocationReport → Except WindowError Unit
  | _, [] => .ok ()
  | index, report :: rest =>
      if report.timestamp.us < oldest.us then
        .error (.report index ("timestamp is older than " ++ timedeltaText window.1))
      else if newest.us < report.timestamp.us then
        .error (.report index
          ("timestamp is more than " ++ timedeltaText window.2 ++ " in the future"))
      else
        checkReports window oldest newest (index + 1) rest

/-- Reject timestamps the storage layer cannot hold. -/
def checkReportWindow (reports : List LocationReport) (now : DateTime) (window : ℕ × ℕ) :
    Except WindowError Unit :=
  match now.add (-(window.1 * 1000000)), now.add (window.2 * 1000000) with
  | some oldest, some newest => checkReports window oldest newest 0 reports
  | _, _ => .error .overflow

/-- One byte of the checksum of the zip format. -/
def crc32Byte (crc : UInt32) (byte : UInt8) : UInt32 :=
  (List.range 8).foldl
    (fun current _ =>
      if current &&& 1 = 1 then (current >>> 1) ^^^ 0xEDB88320 else current >>> 1)
    (crc ^^^ byte.toUInt32)

def crc32 (bytes : Bytes) : UInt32 := bytes.foldl crc32Byte 0xFFFFFFFF ^^^ 0xFFFFFFFF

def shardFor (deviceId : DeviceId) (shards : ℕ) : ℕ :=
  (crc32 deviceId.toUTF8.toList).toNat % shards

/-- What a request sees of the backlog monitor. -/
structure BacklogGate where
  throttled : Bool
  retryAfterMs : ℕ

structure BackpressureError where
  retryAfterMs : ℕ
deriving DecidableEq

/-- The record of a report that arrives at a moment. -/
def LocationReport.record (report : LocationReport) (receivedMs : ℤ) : LocationRecord where
  deviceId := report.deviceId
  lat := report.latitude
  lon := report.longitude
  reportedMs := toEpochMs report.timestamp
  receivedMs := receivedMs

/-- Append a validated batch to its shard streams: the shard and the entry of each
report. -/
def submit (orjson : Orjson) (shards : ℕ) (gate : BacklogGate) (time : ClockTime)
    (reports : List LocationReport) : Except BackpressureError (List (ℕ × Bytes)) :=
  if reports = [] then
    .ok []
  else if gate.throttled then
    .error ⟨gate.retryAfterMs⟩
  else
    .ok (reports.map fun report =>
      (shardFor report.deviceId shards, encodeRecord orjson (report.record (nowMs time.ns))))

inductive IngestError where
  | payload (error : PayloadError)
  | window (error : WindowError)
  | backpressure (error : BackpressureError)

/-- What both transports do with a payload: parse it, check its window, submit its
reports. -/
def acceptPayload (pydantic : Pydantic) (orjson : Orjson) (settings : StorageSettings)
    (maxItems shards : ℕ) (gate : BacklogGate) (checkedAt submittedAt : ClockTime) (raw : Bytes) :
    Except IngestError (List LocationReport × List (ℕ × Bytes)) := do
  let (_, reports) ← (parseIngestPayload pydantic maxItems raw).mapError .payload
  _ ← (checkReportWindow reports (utcNow checkedAt) (reportWindow settings)).mapError .window
  let entries ← (submit orjson shards gate submittedAt reports).mapError .backpressure
  pure (reports, entries)

theorem acceptPayload_eq_ok {pydantic : Pydantic} {orjson : Orjson} {settings : StorageSettings}
    {maxItems shards : ℕ} {gate : BacklogGate} {checkedAt submittedAt : ClockTime} {raw : Bytes}
    {reports : List LocationReport} {entries : List (ℕ × Bytes)}
    (accepted : acceptPayload pydantic orjson settings maxItems shards gate checkedAt submittedAt
      raw = .ok (reports, entries)) :
    checkReportWindow reports (utcNow checkedAt) (reportWindow settings) = .ok () ∧
      submit orjson shards gate submittedAt reports = .ok entries := by
  unfold acceptPayload at accepted
  cases parsed : parseIngestPayload pydantic maxItems raw with
  | error => simp [parsed, Except.mapError, bind, Except.bind] at accepted
  | ok payload =>
      obtain ⟨seq, parsedReports⟩ := payload
      cases checked : checkReportWindow parsedReports (utcNow checkedAt)
          (reportWindow settings) with
      | error => simp [parsed, checked, Except.mapError, bind, Except.bind] at accepted
      | ok =>
          cases appended : submit orjson shards gate submittedAt parsedReports with
          | error => simp [parsed, checked, appended, Except.mapError, bind, Except.bind] at accepted
          | ok parsedEntries =>
              simp only [parsed, checked, appended, Except.mapError, bind, Except.bind, pure,
                Except.pure, Except.ok.injEq, Prod.mk.injEq] at accepted
              obtain ⟨rfl, rfl⟩ := accepted
              exact ⟨checked, appended⟩

end GeoTrack
