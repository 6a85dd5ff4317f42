import GeoTrack.AlertHistory
import GeoTrack.Clock

/-!
# The parameters of the batch statements

Both statements of a batch take one array per column.  A value that does not
fit its type is refused before anything is written, and the statement fails for
the whole batch, also when a thousand other reports are in it.  None of these
errors is one that is worth repeating, so such a report fails every batch it is
in for as long as it is kept.

The rows that the batch statement returns are made into dates before anything is
committed.  The server knows later years than Python does, so a report from such
a year fails every batch that would accept it.

The split of a batch into storable and rejected reports looks at the device and
compares the time of the report with the clock.  Nothing looks at the time of
its arrival.
-/

namespace GeoTrack

section Checks

variable {ε α β : Type}

theorem isOk_bind_const (first : Except ε α) (second : Except ε β) :
    (first >>= fun _ => second).isOk = (first.isOk && second.isOk) := by
  cases first <;> rfl

theorem isOk_iff {outcome : Except ε α} : outcome.isOk = true ↔ ∃ value, outcome = .ok value := by
  cases outcome with
  | error => exact ⟨fun isOk => (by cases isOk), fun ⟨_, same⟩ => (by cases same)⟩
  | ok value => exact ⟨fun _ => ⟨value, rfl⟩, fun _ => rfl⟩

theorem isOk_bind_iff {first : Except ε α} {next : α → Except ε β} :
    (first >>= next).isOk = true ↔ ∃ value, first = .ok value ∧ (next value).isOk = true := by
  cases first with
  | error => exact ⟨fun isOk => (by cases isOk), fun ⟨_, same, _⟩ => (by cases same)⟩
  | ok value =>
      refine ⟨fun isOk => ⟨value, rfl, isOk⟩, ?_⟩
      rintro ⟨_, same, isOk⟩
      obtain rfl := Except.ok.inj same
      exact isOk

theorem isOk_mapM (check : α → Except ε β) (items : List α) :
    (items.mapM check).isOk = items.all fun item => (check item).isOk := by
  induction items with
  | nil => rfl
  | cons item rest ih =>
      rw [List.mapM_cons, List.all_cons, ← ih]
      cases check item with
      | error => rfl
      | ok => cases rest.mapM check <;> rfl

end Checks

def minBigint : ℤ := -2 ^ 63

def maxBigint : ℤ := 2 ^ 63 - 1

/-- 24 November 4714 BC in the Gregorian calendar, the first day of the Julian
period. -/
def minTimestampMs : ℤ := -210866803200000

/-- The first moment of the year 294277. -/
def endTimestampMs : ℤ := 9224318016000000

/-- The moment is in the documented range of `timestamptz`. -/
def InTimestampRange (ms : ℤ) : Prop := minTimestampMs ≤ ms ∧ ms < endTimestampMs

instance (ms : ℤ) : Decidable (InTimestampRange ms) :=
  inferInstanceAs (Decidable (_ ∧ _))

/-- The moment is in the years 1 to 9999. -/
def InDatetimeRange (ms : ℤ) : Prop := -62135596800000 ≤ ms ∧ ms < 253402300800000

instance (ms : ℤ) : Decidable (InDatetimeRange ms) :=
  inferInstanceAs (Decidable (_ ∧ _))

theorem InDatetimeRange.inTimestampRange {ms : ℤ} (date : InDatetimeRange ms) :
    InTimestampRange ms := by
  unfold InDatetimeRange at date
  unfold InTimestampRange minTimestampMs endTimestampMs
  omega

/-- The conversions of the server that the statements use, and what is
documented of them. -/
structure PgConversions where
  /-- `ST_SetSRID(ST_MakePoint(lon, lat), 4326)::geography`. -/
  makePoint : (lon lat : ℚ) → Option Point
  /-- `to_timestamp(ms / 1000.0)`, in microseconds. -/
  toTimestamp : ℤ → Option ℤ
  makePoint_of_inRange : ∀ lon lat, -180 ≤ lon → lon ≤ 180 → -90 ≤ lat → lat ≤ 90 →
    makePoint lon lat = some ⟨lat, lon⟩
  toTimestamp_isSome : ∀ ms, (toTimestamp ms).isSome = true ↔ InTimestampRange ms
  /-- The conversion does not lead over the turn of the years 1 and 10000. -/
  toTimestamp_year : ∀ ms us, toTimestamp ms = some us →
    (minDatetimeUs ≤ us ∧ us ≤ maxDatetimeUs ↔ InDatetimeRange ms)

/-- Conversions that refuse exactly what is outside the documented ranges. -/
def PgConversions.strict : PgConversions where
  makePoint lon lat :=
    if -180 ≤ lon ∧ lon ≤ 180 ∧ -90 ≤ lat ∧ lat ≤ 90 then some ⟨lat, lon⟩ else none
  toTimestamp ms := if InTimestampRange ms then some (ms * 1000) else none
  makePoint_of_inRange := by
    intro lon lat west east south north
    exact if_pos ⟨west, east, south, north⟩
  toTimestamp_isSome := by
    intro ms
    by_cases inRange : InTimestampRange ms <;> simp [inRange]
  toTimestamp_year := by
    intro ms us converted
    split at converted
    case isTrue =>
        obtain rfl := Option.some.inj converted
        unfold minDatetimeUs maxDatetimeUs InDatetimeRange
        omega
    case isFalse => cases converted

/-- Why a statement of a batch fails. -/
inductive StatementError where
  /-- The driver cannot encode a value as `bigint`, a `DataError`. -/
  | bigintOutOfRange
  /-- A zero byte in a text. -/
  | characterNotInRepertoire
  | invalidCoordinates
  | datetimeFieldOverflow
  | checkViolation (constraint : String)
  | cardinalityViolation
  /-- The driver cannot make a `datetime` of a returned moment. -/
  | dateOverflow
deriving DecidableEq

namespace StatementError

/-- `sqlstate_of`.  An `OverflowError` is no error of the database, and `apply` does
not catch it. -/
def sqlstate : StatementError → Option String
  | bigintOutOfRange => some "22000"
  | characterNotInRepertoire => some "22021"
  | invalidCoordinates => some "XX000"
  | datetimeFieldOverflow => some "22008"
  | checkViolation _ => some "23514"
  | cardinalityViolation => some "21000"
  | dateOverflow => none

def ofSqlError : SqlError → StatementError
  | .cardinalityViolation => .cardinalityViolation

end StatementError

/-- Serialization failure, deadlock, foreign key violation and a lock that was
not available. -/
def batchRetryableSqlstates : List String := ["40001", "40P01", "23503", "55P03"]

def shouldRetry (sqlstate : Option String) (attempt maxAttempts : ℕ) : Bool :=
  sqlstate.any (· ∈ batchRetryableSqlstates) && attempt < maxAttempts

/-- A row of `input`. -/
structure InputRow where
  deviceId : DeviceId
  position : Point
  reportedAt : ℤ
  receivedAt : ℤ
deriving DecidableEq

def asBigint (value : ℤ) : Except StatementError ℤ :=
  if minBigint ≤ value ∧ value ≤ maxBigint then .ok value else .error .bigintOutOfRange

def asText (value : String) : Except StatementError String :=
  if value.toList.all fun character => character.toNat ≠ 0 then .ok value else .error .characterNotInRepertoire

/-- The arrays of `statement_params` on their way to the server: the driver
encodes the numbers, the server checks the texts. -/
def bindParams (records : List LocationRecord) : Except StatementError Unit := do
  _ ← records.mapM fun record => asBigint record.reportedMs
  _ ← records.mapM fun record => asBigint record.receivedMs
  _ ← records.mapM fun record => asText record.deviceId
  pure ()

section Rows

variable (types : PgConversions)

def inputRow (record : LocationRecord) : Except StatementError InputRow :=
  match types.makePoint record.lon record.lat with
  | none => .error .invalidCoordinates
  | some position =>
      match types.toTimestamp record.reportedMs, types.toTimestamp record.receivedMs with
      | some reportedAt, some receivedAt => .ok ⟨record.deviceId, position, reportedAt, receivedAt⟩
      | _, _ => .error .datetimeFieldOverflow

/-- `ck_device_positions_device_id_length`. -/
def checkDeviceIdLength (row : InputRow) : Except StatementError InputRow :=
  if 1 ≤ row.deviceId.toList.length ∧ row.deviceId.toList.length ≤ 64 then .ok row
  else .error (.checkViolation "ck_device_positions_device_id_length")

/-- What `INSERT_HISTORY_SQL` makes of its parameters.  The archive has no
constraint on the rows beside their types. -/
def insertHistoryRows (records : List LocationRecord) : Except StatementError (List InputRow) := do
  _ ← bindParams records
  records.mapM (inputRow types)

/-- What `APPLY_BATCH_SQL` makes of its parameters. -/
def applyBatchRows (records : List LocationRecord) : Except StatementError (List InputRow) := do
  _ ← bindParams records
  records.mapM fun record => inputRow types record >>= checkDeviceIdLength

/-- The driver reads a moment of a returned row. -/
def readMoment (ms : ℤ) : Except StatementError Unit :=
  match types.toTimestamp ms with
  | none => .error .datetimeFieldOverflow
  | some us => if minDatetimeUs ≤ us ∧ us ≤ maxDatetimeUs then .ok () else .error .dateOverflow

/-- The moments in the rows of `APPLY_BATCH_SQL`: those of the accepted reports, and
two in every alert. -/
def readRows (reports : List LocationRecord) (alerts : List AlertRow) :
    Except StatementError Unit := do
  _ ← reports.mapM fun record => readMoment types record.reportedMs
  _ ← alerts.mapM fun alert => readMoment types alert.occurredAt
  _ ← alerts.mapM fun alert => readMoment types alert.createdAt
  pure ()

/-- The statements of `_apply_once` with their parameters and the rows that come back,
all inside the transaction. -/
def applyOnceBound (pg : Postgis) (now : ℤ) (db : Db) (storable deduped : List LocationRecord) :
    Except StatementError (Db × BatchRows) := do
  _ ← insertHistoryRows types storable
  _ ← applyBatchRows types deduped
  let outcome ← (applyOnce pg now db storable deduped).mapError StatementError.ofSqlError
  let reports ← (accepted db.devicePositions [] deduped).mapError StatementError.ofSqlError
  _ ← readRows types reports outcome.2.alerts
  pure outcome

end Rows

/-- The loop of `BatchProcessor.apply` around its attempts. -/
def retrying {α : Type} (once : ℕ → Except StatementError α) (maxAttempts attempt : ℕ) :
    Except StatementError α :=
  match once attempt with
  | .ok outcome => .ok outcome
  | .error error =>
      if shouldRetry error.sqlstate (attempt + 1) maxAttempts then
        retrying once maxAttempts (attempt + 1)
      else
        .error error
termination_by maxAttempts - attempt
decreasing_by
  rename_i again
  simp only [shouldRetry, Bool.and_eq_true, decide_eq_true_eq] at again
  omega

/-- `BatchProcessor.apply` with the parameters of its statements.  Attempt `n`
finds the tables `tables n` at time `times n`. -/
def Batch.applyBound (types : PgConversions) (settings : StorageSettings) (pg : Postgis)
    (maxAttempts : ℕ) (tables : ℕ → Db) (times : ℕ → ℤ) (batch : Batch) :
    Except StatementError (Db × BatchResult) :=
  if batch.storable settings = [] then
    .ok (tables 0,
      { accepted := [], alerts := [], stale := 0, rejected := batch.rejected settings })
  else
    (retrying (fun attempt => applyOnceBound types pg (times attempt) (tables attempt)
      (batch.storable settings) (batch.deduped settings)) maxAttempts 0).map
      fun outcome =>
        (outcome.1,
          { accepted := outcome.2.accepted
            alerts := outcome.2.alerts
            stale := (batch.storable settings).length - outcome.2.accepted.length
            rejected := batch.rejected settings })

/-- What decoding and the split guarantee of a report. -/
structure WellFormed (record : LocationRecord) : Prop where
  latitude : -90 ≤ record.lat ∧ record.lat ≤ 90
  longitude : -180 ≤ record.lon ∧ record.lon ≤ 180
  device : deviceIdMatches record.deviceId = true

/-- Both times of the report are dates for the server. -/
def Datable (record : LocationRecord) : Prop :=
  InTimestampRange record.reportedMs ∧ InTimestampRange record.receivedMs

/-- The time of the report is a date for the driver as well. -/
def Returnable (record : LocationRecord) : Prop :=
  InDatetimeRange record.reportedMs ∧ InTimestampRange record.receivedMs

theorem Returnable.datable {record : LocationRecord} (returnable : Returnable record) :
    Datable record :=
  ⟨returnable.1.inTimestampRange, returnable.2⟩

section WellFormed

theorem coordinates_of_checkRecord {deviceId lat lon reportedMs receivedMs : Json}
    {record : LocationRecord}
    (checked : checkRecord deviceId lat lon reportedMs receivedMs = .ok record) :
    (-90 ≤ record.lat ∧ record.lat ≤ 90) ∧ -180 ≤ record.lon ∧ record.lon ≤ 180 := by
  unfold checkRecord at checked
  split at checked
  case h_2 => cases checked
  case h_1 =>
      split at checked
      case isTrue => cases checked
      case isFalse =>
          split at checked
          case h_2 => cases checked
          case h_3 => cases checked
          case h_1 =>
              split at checked
              case isTrue => cases checked
              case isFalse inRange =>
                  split at checked
                  case h_2 => cases checked
                  case h_1 =>
                      obtain rfl := Except.ok.inj checked
                      simpa [not_or] using inRange

theorem coordinates_of_decodeRecord {orjson : Orjson} {raw : Bytes} {record : LocationRecord}
    (decoded : decodeRecord orjson raw = .ok record) :
    (-90 ≤ record.lat ∧ record.lat ≤ 90) ∧ -180 ≤ record.lon ∧ record.lon ≤ 180 := by
  unfold decodeRecord at decoded
  split at decoded
  case h_1 => cases decoded
  case h_2 => exact coordinates_of_checkRecord decoded
  case h_3 => cases decoded

theorem isOk_asText {deviceId : DeviceId} (matches_ : deviceIdMatches deviceId = true) :
    (asText deviceId).isOk = true := by
  have printable : deviceId.toList.all (fun character => character.toNat ≠ 0) = true := by
    simp only [deviceIdMatches, Bool.and_eq_true] at matches_
    rw [List.all_eq_true] at matches_ ⊢
    intro character listed
    have allowed := matches_.2 character listed
    simp only [deviceIdChar, Bool.or_eq_true, Bool.and_eq_true, decide_eq_true_eq] at allowed
    rw [decide_eq_true_eq]
    omega
  rw [asText, if_pos printable]
  rfl

theorem isOk_checkDeviceIdLength {row : InputRow}
    (matches_ : deviceIdMatches row.deviceId = true) :
    checkDeviceIdLength row = .ok row := by
  simp only [deviceIdMatches, Bool.and_eq_true, decide_eq_true_eq] at matches_
  exact if_pos matches_.1

end WellFormed

section Acceptance

variable {types : PgConversions} {record : LocationRecord} {records : List LocationRecord}

theorem isOk_asBigint {ms : ℤ} (inRange : InTimestampRange ms) : (asBigint ms).isOk = true := by
  have fits : minBigint ≤ ms ∧ ms ≤ maxBigint := by
    unfold InTimestampRange minTimestampMs endTimestampMs at inRange
    unfold minBigint maxBigint
    omega
  rw [asBigint, if_pos fits]
  rfl

/-- A row can only be made of dates. -/
theorem datable_of_isOk_inputRow (made : (inputRow types record).isOk = true) :
    Datable record := by
  unfold inputRow at made
  split at made
  case h_1 => cases made
  case h_2 =>
      split at made
      case h_2 => cases made
      case h_1 reported received =>
          exact ⟨(types.toTimestamp_isSome _).mp (by rw [reported]; rfl),
            (types.toTimestamp_isSome _).mp (by rw [received]; rfl)⟩

theorem exists_inputRow (wellFormed : WellFormed record) (datable : Datable record) :
    ∃ row, inputRow types record = .ok row ∧ row.deviceId = record.deviceId := by
  obtain ⟨reportedAt, reported⟩ :=
    Option.isSome_iff_exists.mp ((types.toTimestamp_isSome _).mpr datable.1)
  obtain ⟨receivedAt, received⟩ :=
    Option.isSome_iff_exists.mp ((types.toTimestamp_isSome _).mpr datable.2)
  refine ⟨⟨record.deviceId, ⟨record.lat, record.lon⟩, reportedAt, receivedAt⟩, ?_, rfl⟩
  rw [inputRow, types.makePoint_of_inRange _ _ wellFormed.longitude.1 wellFormed.longitude.2
    wellFormed.latitude.1 wellFormed.latitude.2, reported, received]

theorem isOk_bindParams (wellFormed : ∀ record ∈ records, WellFormed record)
    (datable : ∀ record ∈ records, Datable record) : (bindParams records).isOk = true := by
  simp only [bindParams, isOk_bind_const, isOk_mapM, Bool.and_eq_true, List.all_eq_true]
  refine ⟨fun record listed => isOk_asBigint (datable record listed).1,
    fun record listed => isOk_asBigint (datable record listed).2,
    fun record listed => isOk_asText (wellFormed record listed).device, rfl⟩

theorem isOk_insertHistoryRows (wellFormed : ∀ record ∈ records, WellFormed record) :
    (insertHistoryRows types records).isOk = true ↔ ∀ record ∈ records, Datable record := by
  rw [insertHistoryRows, isOk_bind_const, isOk_mapM, Bool.and_eq_true, List.all_eq_true]
  constructor
  · rintro ⟨_, made⟩ record listed
    exact datable_of_isOk_inputRow (made record listed)
  · intro datable
    refine ⟨isOk_bindParams wellFormed datable, ?_⟩
    intro record listed
    obtain ⟨row, made, -⟩ := @exists_inputRow types _ (wellFormed record listed)
      (datable record listed)
    rw [made]
    rfl

theorem isOk_applyBatchRows (wellFormed : ∀ record ∈ records, WellFormed record) :
    (applyBatchRows types records).isOk = true ↔ ∀ record ∈ records, Datable record := by
  rw [applyBatchRows, isOk_bind_const, isOk_mapM, Bool.and_eq_true, List.all_eq_true]
  constructor
  · rintro ⟨_, made⟩ record listed
    apply @datable_of_isOk_inputRow types
    have passed := made record listed
    cases row : inputRow types record with
    | error => simp [row, bind, Except.bind, Except.isOk, Except.toBool] at passed
    | ok => rfl
  · intro datable
    refine ⟨isOk_bindParams wellFormed datable, ?_⟩
    intro record listed
    obtain ⟨row, made, sameDevice⟩ := @exists_inputRow types _ (wellFormed record listed)
      (datable record listed)
    have checked : checkDeviceIdLength row = .ok row :=
      isOk_checkDeviceIdLength (sameDevice ▸ (wellFormed record listed).device)
    simp only [made, bind, Except.bind, checked]
    rfl

end Acceptance

section Retries

/-- None of these errors is repeated. -/
theorem shouldRetry_eq_false (error : StatementError) (attempt maxAttempts : ℕ) :
    shouldRetry error.sqlstate attempt maxAttempts = false := by
  have fatal : error.sqlstate.any (· ∈ batchRetryableSqlstates) = false := by
    cases error <;> rfl
  rw [shouldRetry, fatal, Bool.false_and]

theorem retrying_eq {α : Type} (once : ℕ → Except StatementError α) (maxAttempts attempt : ℕ) :
    retrying once maxAttempts attempt = once attempt := by
  rw [retrying]
  cases once attempt with
  | ok => rfl
  | error error =>
      simp only [shouldRetry_eq_false]
      rfl

end Retries

section Returned

variable {types : PgConversions}

/-- The driver reads the moments of the years 1 to 9999. -/
theorem isOk_readMoment {ms : ℤ} : (readMoment types ms).isOk = true ↔ InDatetimeRange ms := by
  unfold readMoment
  split
  case h_1 unconverted =>
      refine ⟨fun read => (by cases read), fun date => ?_⟩
      have converted := (types.toTimestamp_isSome ms).mpr date.inTimestampRange
      rw [unconverted] at converted
      cases converted
  case h_2 us converted =>
      rw [← types.toTimestamp_year ms us converted]
      split
      case isTrue inRange => exact ⟨fun _ => inRange, fun _ => rfl⟩
      case isFalse outside => exact ⟨fun read => (by cases read), fun inRange => (outside inRange).elim⟩

theorem isOk_readRows {reports : List LocationRecord} {alerts : List AlertRow} :
    (readRows types reports alerts).isOk = true ↔
      (∀ record ∈ reports, InDatetimeRange record.reportedMs) ∧
        ∀ alert ∈ alerts, InDatetimeRange alert.occurredAt ∧ InDatetimeRange alert.createdAt := by
  simp only [readRows, isOk_bind_const, isOk_mapM, Bool.and_eq_true, List.all_eq_true,
    isOk_readMoment]
  constructor
  · rintro ⟨dates, occurred, created, _⟩
    exact ⟨dates, fun alert listed => ⟨occurred alert listed, created alert listed⟩⟩
  · rintro ⟨dates, both⟩
    exact ⟨dates, fun alert listed => (both alert listed).1, fun alert listed =>
      (both alert listed).2, rfl⟩

variable {settings : StorageSettings} {pg : Postgis} {maxAttempts : ℕ} {tables : ℕ → Db}
  {times : ℕ → ℤ} {batch : Batch} {db : Db}

/-- What the statement accepts of a batch. -/
theorem Batch.accepted_eq :
    accepted db.devicePositions [] (batch.deduped settings) = .ok (batch.reports settings db) :=
  accepted_of_nodup (nodup_latestPerDevice _) fun _ _ => List.not_mem_nil

/-- The alerts of a batch have the time of an accepted report, and the server's. -/
theorem Batch.isOk_readRows (clock : InDatetimeRange batch.now)
    (dates : ∀ record ∈ batch.reports settings db, InDatetimeRange record.reportedMs) :
    (readRows types (batch.reports settings db) (batch.raised settings pg db)).isOk = true := by
  refine GeoTrack.isOk_readRows.mpr ⟨dates, fun alert listed => ⟨?_, ?_⟩⟩
  · obtain ⟨record, _, heard, _, _, _, occurred⟩ := Batch.raised_from listed
    rw [occurred]
    exact dates record (Batch.mem_of_heard heard).1
  · obtain ⟨_, _, _, body⟩ := Batch.mem_raised listed
    rw [body]
    exact clock

/-- With dates only, neither the parameters nor the rows stand in the way. -/
theorem Batch.applyOnceBound_of_returnable
    (wellFormed : ∀ record ∈ batch.storable settings, WellFormed record)
    (returnable : ∀ record ∈ batch.storable settings, Returnable record)
    (clock : InDatetimeRange batch.now) :
    applyOnceBound types pg batch.now db (batch.storable settings) (batch.deduped settings) =
      (applyOnce pg batch.now db (batch.storable settings) (batch.deduped settings)).mapError
        StatementError.ofSqlError := by
  have datable := fun record listed => (returnable record listed).datable
  have kept {record : LocationRecord} (listed : record ∈ batch.deduped settings) :
      record ∈ batch.storable settings := latestPerDevice_subset listed
  obtain ⟨_, archived⟩ := isOk_iff.mp ((@isOk_insertHistoryRows types _ wellFormed).mpr datable)
  obtain ⟨_, bound⟩ := isOk_iff.mp ((@isOk_applyBatchRows types (batch.deduped settings)
    fun record listed => wellFormed record (kept listed)).mpr
      fun record listed => datable record (kept listed))
  obtain ⟨_, read⟩ := isOk_iff.mp (@Batch.isOk_readRows types settings pg batch db clock
    fun record listed => (returnable record (kept (List.mem_filter.mp listed).1)).1)
  rw [applyOnceBound, archived, bound, Batch.applyOnce_eq, Batch.accepted_eq]
  change (readRows types (batch.reports settings db) (batch.raised settings pg db) >>= _) = _
  rw [read]
  rfl

theorem Batch.applyBound_of_returnable
    (wellFormed : ∀ record ∈ batch.storable settings, WellFormed record)
    (returnable : ∀ record ∈ batch.storable settings, Returnable record)
    (clock : InDatetimeRange (times 0)) :
    batch.applyBound types settings pg maxAttempts tables times =
      (({ batch with now := times 0 } : Batch).apply settings pg (tables 0)).mapError
        StatementError.ofSqlError := by
  have once := @Batch.applyOnceBound_of_returnable types settings pg
    { batch with now := times 0 } (tables 0) wellFormed returnable clock
  have sameStorable : ({ batch with now := times 0 } : Batch).storable settings =
      batch.storable settings := rfl
  have sameDeduped : ({ batch with now := times 0 } : Batch).deduped settings =
      batch.deduped settings := rfl
  rw [sameStorable, sameDeduped] at once
  rw [Batch.applyBound, Batch.apply, sameStorable, sameDeduped, retrying_eq, once]
  split
  case isTrue => rfl
  case isFalse =>
      cases applyOnce pg (times 0) (tables 0) (batch.storable settings) (batch.deduped settings) <;>
        rfl

/-- One report that is kept and has no date fails its batch, whatever else is in
it and whatever the tables hold. -/
theorem Batch.applyBound_of_not_datable {record : LocationRecord} (listed : record ∈ batch.records)
    (kept : Storable settings batch.clockMs record) (undated : ¬ Datable record) :
    (batch.applyBound types settings pg maxAttempts tables times).isOk = false := by
  have storable : record ∈ batch.storable settings := mem_splitStorable_fst.mpr ⟨listed, kept⟩
  have refused : (insertHistoryRows types (batch.storable settings)).isOk = false := by
    rw [insertHistoryRows, isOk_bind_const, isOk_mapM, Bool.and_eq_false_iff]
    right
    rw [List.all_eq_false]
    exact ⟨record, storable, fun made => undated (datable_of_isOk_inputRow made)⟩
  rw [Batch.applyBound, if_neg (List.ne_nil_of_mem storable), retrying_eq, applyOnceBound]
  cases archived : insertHistoryRows types (batch.storable settings) with
  | ok => simp [archived, Except.isOk, Except.toBool] at refused
  | error => rfl

/-- One report that the driver cannot read back fails every batch that would accept
it. -/
theorem Batch.applyBound_of_not_returnable {record : LocationRecord}
    (newest : record ∈ batch.deduped settings)
    (newer : supersedes (tables 0).devicePositions record = true)
    (undated : ¬ InDatetimeRange record.reportedMs) :
    (batch.applyBound types settings pg maxAttempts tables times).isOk = false := by
  have storable : record ∈ batch.storable settings := latestPerDevice_subset newest
  rw [Batch.applyBound, if_neg (List.ne_nil_of_mem storable), retrying_eq, Bool.eq_false_iff]
  intro applied
  have once : (applyOnceBound types pg (times 0) (tables 0) (batch.storable settings)
      (batch.deduped settings)).isOk = true := by
    generalize applyOnceBound types pg (times 0) (tables 0) (batch.storable settings)
      (batch.deduped settings) = outcome at applied
    cases outcome with
    | error => cases applied
    | ok => rfl
  obtain ⟨_, _, afterHistory⟩ := isOk_bind_iff.mp once
  obtain ⟨_, _, afterBound⟩ := isOk_bind_iff.mp afterHistory
  obtain ⟨_, _, afterApply⟩ := isOk_bind_iff.mp afterBound
  rw [Batch.accepted_eq] at afterApply
  obtain ⟨_, same, afterAccepted⟩ := isOk_bind_iff.mp afterApply
  obtain rfl := Except.ok.inj same
  obtain ⟨_, read, _⟩ := isOk_bind_iff.mp afterAccepted
  have dates := (GeoTrack.isOk_readRows.mp (isOk_iff.mpr ⟨_, read⟩)).1
  exact undated (dates record (List.mem_filter.mpr ⟨newest, newer⟩))

end Returned

/-- For an entry that decodes and is kept: both statements take its parameters, and a
batch with it alone is applied whatever the tables hold, when and only when the server
and the driver have dates for its times.  An entry without dates for the server fails
every batch that keeps it, and one without a date for the driver fails every batch that
would accept it, at every attempt; dates do no harm to any batch. -/
theorem statements_accept_iff (types : PgConversions) (orjson : Orjson)
    (settings : StorageSettings) (now : ℤ) (raw : Bytes) (record : LocationRecord)
    (decoded : decodeRecord orjson raw = .ok record)
    (kept : record ∈ (splitStorable settings now [record]).1) :
    ((insertHistoryRows types [record]).isOk = true ∧
        (applyBatchRows types [record]).isOk = true ∧
        (∀ pg maxAttempts tables times, (∀ attempt, InDatetimeRange (times attempt)) →
          (Batch.applyBound types settings pg maxAttempts tables times
            ⟨now, times 0, [record]⟩).isOk = true) ↔
      InDatetimeRange record.reportedMs ∧ InTimestampRange record.receivedMs) ∧
    (¬ (InTimestampRange record.reportedMs ∧ InTimestampRange record.receivedMs) →
      ∀ pg maxAttempts tables times, ∀ batch : Batch, record ∈ batch.records →
        Storable settings batch.clockMs record →
        (batch.applyBound types settings pg maxAttempts tables times).isOk = false) ∧
    (¬ InDatetimeRange record.reportedMs →
      ∀ pg maxAttempts tables times, ∀ batch : Batch, record ∈ batch.deduped settings →
        supersedes (tables 0).devicePositions record = true →
        (batch.applyBound types settings pg maxAttempts tables times).isOk = false) := by
  have storable := (mem_splitStorable_fst.mp kept).2
  obtain ⟨latitude, longitude⟩ := coordinates_of_decodeRecord decoded
  have wellFormed : ∀ other ∈ [record], WellFormed other := by
    intro other listed
    rw [List.mem_singleton.mp listed]
    exact ⟨latitude, longitude, (storable_iff.mp storable).1⟩
  have alone (time : ℤ) : Batch.storable settings ⟨now, time, [record]⟩ = [record] := by
    refine List.filter_eq_self.mpr fun other listed => ?_
    rw [List.mem_singleton.mp listed]
    exact (List.mem_filter.mp kept).2
  refine ⟨⟨?necessary, ?sufficient⟩, ?_, ?_⟩
  case necessary =>
      rintro ⟨history, _, applied⟩
      have datable := (isOk_insertHistoryRows wellFormed).mp history record
        (List.mem_singleton.mpr rfl)
      refine ⟨by_contra fun undated => ?_, datable.2⟩
      have ok := applied .tangentPlane 1 (fun _ => Db.fresh ∅) (fun _ => 0) fun _ => by decide
      rw [Batch.applyBound_of_not_returnable ?_ ?_ undated] at ok
      · cases ok
      · rw [Batch.deduped, alone]
        exact List.mem_singleton_self record
      · rfl
  case sufficient =>
      rintro ⟨reported, received⟩
      have returnable : ∀ other ∈ [record], Returnable other := by
        intro other listed
        rw [List.mem_singleton.mp listed]
        exact ⟨reported, received⟩
      have datable := fun other listed => (returnable other listed).datable
      refine ⟨(isOk_insertHistoryRows wellFormed).mpr datable,
        (isOk_applyBatchRows wellFormed).mpr datable, ?_⟩
      intro pg maxAttempts tables times clock
      rw [Batch.applyBound_of_returnable, Batch.apply_eq]
      · rfl
      · exact fun other listed => wellFormed other (alone _ ▸ listed)
      · exact fun other listed => returnable other (alone _ ▸ listed)
      · exact clock 0
  · intro undated pg maxAttempts tables times batch listed stillKept
    exact Batch.applyBound_of_not_datable listed stillKept undated
  · intro undated pg maxAttempts tables times batch newest newer
    exact Batch.applyBound_of_not_returnable newest newer undated

/-- A report of device `a` from the origin at the epoch, as it arrives. -/
def arrivalJson (receivedMs : ℤ) : Json :=
  .arr [.str "a", .float (.finite 0), .float (.finite 0), .int 0, .int receivedMs]

/-- The bytes of `["a",0.0,0.0,0,7]`. -/
def datedPayload : Bytes := [91, 34, 97, 34, 44, 48, 46, 48, 44, 48, 46, 48, 44, 48, 44, 55, 93]

theorem statements_accept_iff_dated :
    (insertHistoryRows .strict [⟨"a", 0, 0, 0, 7⟩]).isOk = true ∧
      (applyBatchRows .strict [⟨"a", 0, 0, 0, 7⟩]).isOk = true ∧
      (Batch.applyBound .strict ⟨30, 60⟩ .tangentPlane 5 (fun _ => Db.fresh ∅) (fun _ => 0)
        ⟨0, 0, [⟨"a", 0, 0, 0, 7⟩]⟩).isOk = true := by
  obtain ⟨history, positions, applied⟩ := (statements_accept_iff .strict
    (.knowing datedPayload (arrivalJson 7)) ⟨30, 60⟩ 0 datedPayload ⟨"a", 0, 0, 0, 7⟩ (by rfl)
    (by decide +kernel)).1.mpr (by decide +kernel)
  exact ⟨history, positions, applied .tangentPlane 5 _ _ fun _ => by decide⟩

/-- The bytes of `["a",0.0,0.0,0,9223372036854775808]`. -/
def undatedPayload : Bytes :=
  [91, 34, 97, 34, 44, 48, 46, 48, 44, 48, 46, 48, 44, 48, 44, 57, 50, 50, 51, 51, 55, 50, 48, 51,
    54, 56, 53, 52, 55, 55, 53, 56, 48, 56, 93]

/-- The entry is decoded and kept, no statement takes it, and the batch with it
fails on any tables. -/
theorem undated_entry_fails_every_batch :
    decodeRecord (.knowing undatedPayload (arrivalJson (2 ^ 63))) undatedPayload =
        .ok ⟨"a", 0, 0, 0, 2 ^ 63⟩ ∧
      (splitStorable ⟨30, 60⟩ 0 [⟨"a", 0, 0, 0, 2 ^ 63⟩]).1 = [⟨"a", 0, 0, 0, 2 ^ 63⟩] ∧
      (∀ types, insertHistoryRows types [⟨"a", 0, 0, 0, 2 ^ 63⟩] = .error .bigintOutOfRange ∧
        applyBatchRows types [⟨"a", 0, 0, 0, 2 ^ 63⟩] = .error .bigintOutOfRange) ∧
      ∀ types pg maxAttempts tables times,
        (Batch.applyBound types ⟨30, 60⟩ pg maxAttempts tables times
          ⟨0, 0, [⟨"a", 0, 0, 0, 2 ^ 63⟩]⟩).isOk = false := by
  refine ⟨rfl, by decide +kernel, fun types => ⟨rfl, rfl⟩, ?_⟩
  intro types pg maxAttempts tables times
  apply Batch.applyBound_of_not_datable (List.mem_singleton.mpr rfl)
  · decide +kernel
  · rintro ⟨_, _, early⟩
    exact absurd early (by decide)

end GeoTrack
