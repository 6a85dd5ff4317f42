import GeoTrack.Codec
import GeoTrack.NewestPerKey

/-!
# What a batch can store

Before a batch reaches the database it is split in two: reports the schema can
hold, and reports no retry could ever store, which are handed back with their
place in the input.  The storable reports are then thinned to the newest one
per device, because the upsert of the batch statement refuses to touch one row
twice.
-/

namespace GeoTrack

/-- The settings that bound what is stored. -/
structure StorageSettings where
  historyRetentionDays : ℕ
  ingestMaxFutureSkewS : ℕ

/-- A report the schema cannot hold, with its position in the input batch. -/
structure RejectedRecord where
  index : ℕ
  record : LocationRecord
  reason : String
deriving DecidableEq

def minDeviceIdLength : ℕ := 1

def maxDeviceIdLength : ℕ := 64

/-- The character class `[A-Za-z0-9._:-]`. -/
def deviceIdChar (character : Char) : Bool :=
  let code := character.toNat
  (65 ≤ code && code ≤ 90) || (97 ≤ code && code ≤ 122) || (48 ≤ code && code ≤ 57) ||
    code = 46 || code = 95 || code = 58 || code = 45

/-- `DEVICE_ID_RE.fullmatch`. -/
def deviceIdMatches (deviceId : DeviceId) : Bool :=
  let characters := deviceId.toList
  minDeviceIdLength ≤ characters.length && characters.length ≤ maxDeviceIdLength &&
    characters.all deviceIdChar

/-- Why this report cannot be kept, or `none` when it can. -/
def unstorableReason (record : LocationRecord) (oldest newest : ℤ) : Option String :=
  if ¬ deviceIdMatches record.deviceId then
    some ("device_id must be between " ++ toString minDeviceIdLength ++ " and " ++
      toString maxDeviceIdLength ++ " characters long and made of A-Z a-z 0-9 . _ : -")
  else if record.reportedMs < oldest then
    some "report timestamp is older than the history retention window"
  else if record.reportedMs > newest then
    some "report timestamp is too far in the future"
  else
    none

/-- The earliest timestamp kept at time `now`. -/
def oldestStorable (settings : StorageSettings) (now : ℤ) : ℤ :=
  now - settings.historyRetentionDays * 86400 * 1000

/-- The latest timestamp kept at time `now`. -/
def newestStorable (settings : StorageSettings) (now : ℤ) : ℤ :=
  now + settings.ingestMaxFutureSkewS * 1000

/-- The verdict on one report at time `now`. -/
def rejection (settings : StorageSettings) (now : ℤ) (record : LocationRecord) : Option String :=
  unstorableReason record (oldestStorable settings now) (newestStorable settings now)

/-- The report can be stored at time `now`. -/
def Storable (settings : StorageSettings) (now : ℤ) (record : LocationRecord) : Prop :=
  rejection settings now record = none

instance (settings : StorageSettings) (now : ℤ) (record : LocationRecord) :
    Decidable (Storable settings now record) :=
  inferInstanceAs (Decidable (rejection settings now record = none))

theorem storable_iff {settings : StorageSettings} {now : ℤ} {record : LocationRecord} :
    Storable settings now record ↔
      deviceIdMatches record.deviceId = true ∧ oldestStorable settings now ≤ record.reportedMs ∧
        record.reportedMs ≤ newestStorable settings now := by
  unfold Storable rejection unstorableReason
  split
  case isTrue malformed => simp [malformed]
  case isFalse wellFormed =>
      split
      case isTrue old => simp [not_le.mpr old]
      case isFalse recent =>
          split
          case isTrue ahead => simp [not_le.mpr ahead]
          case isFalse near => simp [not_not.mp wellFormed, not_lt.mp recent, not_lt.mp near]

/-- Separate reports the schema can hold from ones it cannot. -/
def splitStorable (settings : StorageSettings) (now : ℤ) (records : List LocationRecord) :
    List LocationRecord × List RejectedRecord :=
  (records.filter fun record => (rejection settings now record).isNone,
    records.zipIdx.filterMap fun entry =>
      (rejection settings now entry.1).map fun reason => ⟨entry.2, entry.1, reason⟩)

theorem mem_splitStorable_fst {settings : StorageSettings} {now : ℤ}
    {records : List LocationRecord} {record : LocationRecord} :
    record ∈ (splitStorable settings now records).1 ↔
      record ∈ records ∧ Storable settings now record := by
  simp [splitStorable, Storable, List.mem_filter]

/-- What one report does to the newest report of its device so far. -/
def newer (current : Option LocationRecord) (record : LocationRecord) : Option LocationRecord :=
  match current with
  | none => some record
  | some known => if record.reportedMs > known.reportedMs then some record else some known

/-- One turn of the loop over the batch. -/
def keepNewest (newest : Dict DeviceId LocationRecord) (record : LocationRecord) :
    Dict DeviceId LocationRecord :=
  match newest.get? record.deviceId with
  | none => newest.set record.deviceId record
  | some current =>
      if record.reportedMs > current.reportedMs then newest.set record.deviceId record
      else newest

/-- Keep the newest report per device, in first-appearance order. -/
def latestPerDevice (records : List LocationRecord) : List LocationRecord :=
  (records.foldl keepNewest ∅).values

/-- The newest report of one device, the first of them when several tie. -/
def newestOf (device : DeviceId) (records : List LocationRecord) : Option LocationRecord :=
  (records.filter fun record => record.deviceId = device).foldl newer none

/-- The loop is the fold that keeps the newest item of each key. -/
theorem keepNewest_eq :
    keepNewest = NewestPerKey.keep LocationRecord.deviceId LocationRecord.reportedMs := by
  funext newest record
  unfold keepNewest NewestPerKey.keep
  cases newest.get? record.deviceId with
  | none => rfl
  | some current => simp only [gt_iff_lt]

theorem latestPerDevice_eq (records : List LocationRecord) :
    latestPerDevice records = (NewestPerKey.keepAll LocationRecord.deviceId
      LocationRecord.reportedMs ∅ records).values := by
  rw [latestPerDevice, keepNewest_eq, NewestPerKey.keepAll]

theorem newestOf_eq_newest (device : DeviceId) (records : List LocationRecord) :
    newestOf device records = NewestPerKey.newest LocationRecord.reportedMs
      (records.filter fun record => record.deviceId = device) := by
  have step : newer = List.argAux fun record current : LocationRecord =>
      current.reportedMs < record.reportedMs := by
    funext current record
    cases current with
    | none => rfl
    | some known => simp only [newer, List.argAux, gt_iff_lt]
  rw [newestOf, step, NewestPerKey.newest, List.argmax]

theorem newestOf_deviceId {device : DeviceId} {records : List LocationRecord}
    {kept : LocationRecord} (isKept : newestOf device records = some kept) :
    kept.deviceId = device := by
  rw [newestOf_eq_newest, NewestPerKey.newest] at isKept
  simpa using (List.mem_filter.mp (List.argmax_mem isKept)).2

/-- The result lists exactly the newest report of each device that reported. -/
theorem mem_latestPerDevice {records : List LocationRecord} {record : LocationRecord} :
    record ∈ latestPerDevice records ↔ newestOf record.deviceId records = some record := by
  rw [latestPerDevice_eq, newestOf_eq_newest, ← NewestPerKey.get?_keepAll, Dict.values,
    List.mem_map]
  constructor
  · rintro ⟨⟨device, kept⟩, listed, rfl⟩
    have ownKey : kept.deviceId = device :=
      NewestPerKey.keyed_empty.keepAll records (device, kept) listed
    rw [ownKey]
    exact Dict.mem_entries_iff.mp listed
  · intro isNewest
    exact ⟨(record.deviceId, record), Dict.mem_entries_iff.mpr isNewest, rfl⟩

/-- The devices stand in order of first appearance. -/
theorem deviceIds_latestPerDevice (records : List LocationRecord) :
    (latestPerDevice records).map LocationRecord.deviceId =
      (records.map LocationRecord.deviceId).eraseDups := by
  rw [latestPerDevice_eq, (NewestPerKey.keyed_empty.keepAll records).map_values,
    NewestPerKey.keys_keepAll]

/-- No device occurs twice, which is what the upsert needs. -/
theorem nodup_latestPerDevice (records : List LocationRecord) :
    ((latestPerDevice records).map LocationRecord.deviceId).Nodup := by
  rw [latestPerDevice_eq, (NewestPerKey.keyed_empty.keepAll records).map_values]
  exact Dict.nodup_keys _

theorem latestPerDevice_subset {records : List LocationRecord} {record : LocationRecord}
    (kept : record ∈ latestPerDevice records) : record ∈ records := by
  rw [mem_latestPerDevice, newestOf_eq_newest, NewestPerKey.newest] at kept
  exact List.mem_of_mem_filter (List.argmax_mem kept)

/-- Every report of the batch is covered by the one kept for its device. -/
theorem exists_latestPerDevice {records : List LocationRecord} {record : LocationRecord}
    (listed : record ∈ records) :
    ∃ kept ∈ latestPerDevice records,
      kept.deviceId = record.deviceId ∧ record.reportedMs ≤ kept.reportedMs := by
  have ofDevice : record ∈ records.filter fun other => other.deviceId = record.deviceId :=
    List.mem_filter.mpr ⟨listed, by simp⟩
  obtain ⟨kept, isNewest⟩ : ∃ kept, newestOf record.deviceId records = some kept := by
    rw [newestOf_eq_newest, ← Option.ne_none_iff_exists']
    exact fun none_ => List.ne_nil_of_mem ofDevice (List.argmax_eq_none.mp none_)
  have device : kept.deviceId = record.deviceId := newestOf_deviceId isNewest
  have isKept := isNewest
  rw [newestOf_eq_newest] at isKept
  refine ⟨kept, ?_, device, List.le_of_mem_argmax ofDevice isKept⟩
  rw [mem_latestPerDevice, device]
  exact isNewest

/-- A report of the batch is the first of the newest ones of its device. -/
def FirstNewest (records : List LocationRecord) (kept : LocationRecord) : Prop :=
  ∃ before after, records = before ++ kept :: after ∧
    (∀ record ∈ before, record.deviceId = kept.deviceId →
      record.reportedMs < kept.reportedMs) ∧
    ∀ record ∈ after, record.deviceId = kept.deviceId → record.reportedMs ≤ kept.reportedMs

theorem mem_latestPerDevice_iff_firstNewest {records : List LocationRecord}
    {kept : LocationRecord} : kept ∈ latestPerDevice records ↔ FirstNewest records kept := by
  rw [mem_latestPerDevice, newestOf_eq_newest, NewestPerKey.newest, NewestPerKey.argmax_filter_eq_some_iff]
  simp [FirstNewest]

/-- A batch may be thinned in parts. -/
theorem latestPerDevice_append (earlier later : List LocationRecord) :
    latestPerDevice (earlier ++ later) = latestPerDevice (latestPerDevice earlier ++ later) := by
  have keyed : NewestPerKey.Keyed LocationRecord.deviceId (NewestPerKey.keepAll
      LocationRecord.deviceId LocationRecord.reportedMs ∅ earlier) :=
    NewestPerKey.keyed_empty.keepAll earlier
  rw [latestPerDevice_eq, latestPerDevice_eq (latestPerDevice earlier ++ later),
    NewestPerKey.keepAll_append, NewestPerKey.keepAll_append, latestPerDevice_eq earlier,
    keyed.keepAll_values]

/-- The thinned batch is what the upsert needs: one report per device of the
batch, the first of its newest ones, in order of first appearance. -/
theorem latestPerDevice_fit_for_upsert (records : List LocationRecord) :
    ((latestPerDevice records).map LocationRecord.deviceId).Nodup ∧
      (∀ record ∈ records, ∃ kept, FirstNewest records kept ∧
        (latestPerDevice records).filter (fun other => other.deviceId = record.deviceId) =
          [kept]) ∧
      (∀ kept, kept ∈ latestPerDevice records ↔ FirstNewest records kept) ∧
      (latestPerDevice records).map LocationRecord.deviceId =
        (records.map LocationRecord.deviceId).eraseDups ∧
      ∀ later, latestPerDevice (records ++ later) =
        latestPerDevice (latestPerDevice records ++ later) := by
  have distinct := nodup_latestPerDevice records
  refine ⟨distinct, fun record listed => ?_, fun kept => mem_latestPerDevice_iff_firstNewest,
    deviceIds_latestPerDevice records, latestPerDevice_append records⟩
  obtain ⟨kept, isKept, device, -⟩ := exists_latestPerDevice listed
  refine ⟨kept, mem_latestPerDevice_iff_firstNewest.mp isKept, ?_⟩
  rw [← device]
  exact Dict.filter_key_eq_singleton distinct isKept

end GeoTrack
