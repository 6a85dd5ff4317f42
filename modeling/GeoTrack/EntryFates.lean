import GeoTrack.ReportAdmission
import GeoTrack.ShardConsumer
import Mathlib.Data.List.Induction
import Mathlib.Data.Rat.Encodable
import Mathlib.Logic.Equiv.List

/-!
# What becomes of an entry

A batch of entries is sifted twice: what does not decode is dead-lettered, and
so is what decodes to a record the schema cannot hold.  The second sieve only
knows places among the decoded records, and finds the entries through the list
of their ids that decoding keeps alongside.

Taken together the two sieves treat every entry by itself: its record is
applied, or one letter with its id is written.
-/

namespace GeoTrack

inductive Fate where
  | applied (record : LocationRecord)
  | dead (letter : DeadLetter)

def Fate.record? : Fate → Option LocationRecord
  | .applied record => some record
  | .dead _ => none

def Fate.letter? : Fate → Option DeadLetter
  | .applied _ => none
  | .dead letter => some letter

section Sieves

variable (orjson : Orjson) (settings : StorageSettings) (clockMs : ℤ)

/-- What becomes of one entry. -/
def fate (entry : StreamEntry) : Fate :=
  match decodeRecord orjson entry.2 with
  | .error error => .dead ⟨entry.1, entry.2, error.message⟩
  | .ok record =>
      match rejection settings clockMs record with
      | none => .applied record
      | some reason => .dead ⟨entry.1, encodeRecord orjson record, reason⟩

/-- The id and the record of an entry that decodes. -/
def decodedPair (entry : StreamEntry) : Option (EntryId × LocationRecord) :=
  match decodeRecord orjson entry.2 with
  | .error _ => none
  | .ok record => some (entry.1, record)

/-- The letter for an entry that does not decode. -/
def undecodable (entry : StreamEntry) : Option DeadLetter :=
  match decodeRecord orjson entry.2 with
  | .error error => some ⟨entry.1, entry.2, error.message⟩
  | .ok _ => none

/-- The letter for a record the schema cannot hold. -/
def unstorable (pair : EntryId × LocationRecord) : Option DeadLetter :=
  (rejection settings clockMs pair.2).map fun reason =>
    ⟨pair.1, encodeRecord orjson pair.2, reason⟩

/-- Decoding keeps the ids and the records of what decodes in step. -/
theorem decode_eq (entries : List StreamEntry) :
    decode orjson entries =
      ⟨(entries.filterMap (decodedPair orjson)).map Prod.snd,
        (entries.filterMap (decodedPair orjson)).map Prod.fst,
        entries.filterMap (undecodable orjson)⟩ := by
  induction entries using List.reverseRecOn with
  | nil => rfl
  | append_singleton entries entry ih =>
      rw [decode, List.foldl_concat, ← decode, ih, decodeEntry]
      simp only [List.filterMap_append, List.filterMap_cons, List.filterMap_nil, decodedPair,
        undecodable]
      cases decodeRecord orjson entry.2 with
      | error error => simp
      | ok record => simp

/-- A rejected record finds its own id by its place. -/
theorem letters_eq_filterMap (pairs : List (EntryId × LocationRecord)) :
    (splitStorable settings clockMs (pairs.map Prod.snd)).2.map (fun rejected =>
      (⟨(pairs.map Prod.fst).getD rejected.index 0, encodeRecord orjson rejected.record,
        rejected.reason⟩ : DeadLetter)) =
      pairs.filterMap (unstorable orjson settings clockMs) := by
  have numbered : pairs.filterMap (unstorable orjson settings clockMs) =
      pairs.zipIdx.filterMap (unstorable orjson settings clockMs ∘ Prod.fst) := by
    rw [← List.filterMap_map, List.zipIdx_map_fst]
  rw [numbered, splitStorable, List.zipIdx_map, List.filterMap_map, List.map_filterMap]
  apply List.filterMap_congr
  rintro ⟨pair, index⟩ listed
  have place : (pairs.map Prod.fst).getD index 0 = pair.1 := by
    rw [List.getD_eq_getElem?_getD, List.getElem?_map, List.mem_zipIdx_iff_getElem?.mp listed]
    rfl
  simp only [Function.comp_apply, unstorable, Prod.map_apply, id_eq, Option.map_map]
  cases rejection settings clockMs pair.2 with
  | none => rfl
  | some reason => simp only [Option.map_some, Function.comp_apply, place]

/-- The storable records are those of the entries that are applied. -/
theorem work_storable (entries : List StreamEntry) :
    (work orjson settings clockMs entries).storable =
      entries.filterMap fun entry => (fate orjson settings clockMs entry).record? := by
  rw [work, decode_eq]
  simp only [splitStorable]
  induction entries with
  | nil => rfl
  | cons entry rest ih =>
      rw [List.filterMap_cons, List.filterMap_cons]
      unfold decodedPair fate at ih ⊢
      cases decodeRecord orjson entry.2 with
      | error error => exact ih
      | ok record =>
          cases verdict : rejection settings clockMs record with
          | none => simpa [verdict, Fate.record?] using ih
          | some reason => simpa [verdict, Fate.record?] using ih

/-- The letters are those of the entries that are not. -/
theorem work_letters (entries : List StreamEntry) :
    (work orjson settings clockMs entries).letters.Perm
      (entries.filterMap fun entry => (fate orjson settings clockMs entry).letter?) := by
  rw [work, decode_eq]
  simp only [letters_eq_filterMap]
  induction entries with
  | nil => exact List.Perm.refl _
  | cons entry rest ih =>
      rw [List.filterMap_cons, List.filterMap_cons, List.filterMap_cons]
      unfold decodedPair undecodable fate at ih ⊢
      cases decodeRecord orjson entry.2 with
      | error error => exact ih.cons _
      | ok record =>
          cases verdict : rejection settings clockMs record with
          | none => simpa [verdict, unstorable, Fate.letter?] using ih
          | some reason =>
              simp only [List.filterMap_cons, unstorable, verdict, Option.map_some, Fate.letter?]
              exact List.perm_middle.trans (ih.cons _)

end Sieves

/-! ## Encoding a record again -/

/-- The values the JSON library gives back as they were, over the whole range of
its integers. -/
def Json.Kept : Json → Prop
  | .str _ => True
  | .float (.finite value) => Binary64.IsDouble value
  | .int value => -2 ^ 63 ≤ value ∧ value < 2 ^ 64
  | _ => False

/-- What is relied on of the JSON library: a number it reads is a finite double
or an integer it can write, and it reads back a record it has written. -/
structure Orjson.Faithful (orjson : Orjson) : Prop where
  loadsInt : ∀ raw items number, orjson.loads raw = .ok (.arr items) → .int number ∈ items →
    (Json.int number).Kept
  loadsFloat : ∀ raw items number, orjson.loads raw = .ok (.arr items) →
    .float (.finite number) ∈ items → (Json.float (.finite number)).Kept
  roundTrips : ∀ record : LocationRecord, (∀ item ∈ record.items, item.Kept) →
    orjson.loads (encodeRecord orjson record) = .ok (.arr record.items)

section Encoding

variable {orjson : Orjson} {record : LocationRecord}

/-- What a record has to be for its elements to pass. -/
theorem checkRecord_eq_ok_iff {deviceId lat lon reportedMs receivedMs : Json} :
    checkRecord deviceId lat lon reportedMs receivedMs = .ok record ↔
      (deviceId = .str record.deviceId ∧ record.deviceId ≠ "") ∧
        (lat.asNumber = some (.finite record.lat) ∧ -90 ≤ record.lat ∧ record.lat ≤ 90) ∧
        (lon.asNumber = some (.finite record.lon) ∧ -180 ≤ record.lon ∧ record.lon ≤ 180) ∧
        reportedMs.asInt = some record.reportedMs ∧ receivedMs.asInt = some record.receivedMs := by
  constructor
  · intro passed
    unfold checkRecord at passed
    split at passed
    case h_2 => cases passed
    case h_1 device =>
        split at passed
        case isTrue => cases passed
        case isFalse named =>
            split at passed
            case h_2 => cases passed
            case h_3 => cases passed
            case h_1 latitude longitude isLat isLon =>
                split at passed
                case isTrue => cases passed
                case isFalse inRange =>
                    rw [not_or, not_not, not_not] at inRange
                    split at passed
                    case h_2 => cases passed
                    case h_1 reported received isReported isReceived =>
                        cases passed
                        exact ⟨⟨rfl, named⟩, ⟨isLat, inRange.1⟩, ⟨isLon, inRange.2⟩, isReported,
                          isReceived⟩
  · rintro ⟨⟨rfl, named⟩, ⟨isLat, latRange⟩, ⟨isLon, lonRange⟩, isReported, isReceived⟩
    simp only [checkRecord, if_neg named, isLat, isLon, isReported, isReceived]
    rw [if_neg]
    rintro (wrong | wrong)
    · exact wrong latRange
    · exact wrong lonRange

theorem exists_items_of_decoded {raw : Bytes} (decoded : decodeRecord orjson raw = .ok record) :
    ∃ deviceId lat lon reportedMs receivedMs,
      orjson.loads raw = .ok (.arr [deviceId, lat, lon, reportedMs, receivedMs]) ∧
        checkRecord deviceId lat lon reportedMs receivedMs = .ok record := by
  unfold decodeRecord at decoded
  split at decoded
  case h_1 => cases decoded
  case h_2 deviceId lat lon reportedMs receivedMs loaded =>
      exact ⟨deviceId, lat, lon, reportedMs, receivedMs, loaded, decoded⟩
  case h_3 => cases decoded

theorem kept_float {items : List Json} {raw : Bytes} (faithful : orjson.Faithful)
    (loaded : orjson.loads raw = .ok (.arr items)) {item : Json} (listed : item ∈ items)
    {value : ℚ} (number : item.asNumber = some (.finite value))
    (small : -180 ≤ value ∧ value ≤ 180) : (Json.float (.finite value)).Kept := by
  have whole (count : ℤ) (same : (count : ℚ) = value) : Binary64.IsDouble value := by
    subst same
    have bounds : -180 ≤ count ∧ count ≤ 180 := by exact_mod_cast small
    exact Binary64.isDouble_intCast (abs_lt.mpr (by omega))
  cases item with
  | float number' =>
      obtain rfl := Option.some.inj number
      exact faithful.loadsFloat raw items value loaded listed
  | int count => exact whole count (by simpa [Json.asNumber, Json.asInt] using number)
  | bool flag => exact whole flag.toInt (by simpa [Json.asNumber, Json.asInt] using number)
  | null | str | arr | obj => simp [Json.asNumber, Json.asInt] at number

theorem kept_int {items : List Json} {raw : Bytes} (faithful : orjson.Faithful)
    (loaded : orjson.loads raw = .ok (.arr items)) {item : Json} (listed : item ∈ items)
    {value : ℤ} (number : item.asInt = some value) : (Json.int value).Kept := by
  cases item with
  | int count =>
      obtain rfl := Option.some.inj number
      exact faithful.loadsInt raw items count loaded listed
  | bool flag =>
      obtain rfl := Option.some.inj number
      cases flag <;> exact ⟨by decide, by decide⟩
  | null | float | str | arr | obj => simp [Json.asInt] at number

/-- A record that was decoded can be encoded and decoded again. -/
theorem decodeRecord_encodeRecord (faithful : orjson.Faithful) {raw : Bytes}
    (decoded : decodeRecord orjson raw = .ok record) :
    decodeRecord orjson (encodeRecord orjson record) = .ok record := by
  obtain ⟨deviceId, lat, lon, reportedMs, receivedMs, loaded, checked⟩ :=
    exists_items_of_decoded decoded
  obtain ⟨named, ⟨isLat, latRange⟩, ⟨isLon, lonRange⟩, isReported, isReceived⟩ :=
    checkRecord_eq_ok_iff.mp checked
  have kept : ∀ item ∈ record.items, item.Kept := by
    intro item listed
    simp only [LocationRecord.items, List.mem_cons, List.not_mem_nil, or_false] at listed
    rcases listed with rfl | rfl | rfl | rfl | rfl
    · trivial
    · exact kept_float faithful loaded (by simp) isLat ⟨by linarith, by linarith⟩
    · exact kept_float faithful loaded (by simp) isLon lonRange
    · exact kept_int faithful loaded (by simp) isReported
    · exact kept_int faithful loaded (by simp) isReceived
  rw [decodeRecord, faithful.roundTrips record kept]
  exact checkRecord_eq_ok_iff.mpr ⟨⟨rfl, named.2⟩, ⟨rfl, latRange⟩, ⟨rfl, lonRange⟩, rfl, rfl⟩

end Encoding

/-! ## The whole batch -/

/-- What `_handle` does with a batch whose transaction succeeds. -/
structure Handled where
  applied : List LocationRecord
  deadLettered : List DeadLetter
  acknowledged : List EntryId

def handle (orjson : Orjson) (settings : StorageSettings) (clockMs : ℤ)
    (entries : List StreamEntry) : Handled :=
  let batch := work orjson settings clockMs entries
  ⟨batch.storable, batch.letters, Shard.ids batch.entries⟩

/-- The letters with the id of an entry. -/
def Handled.lettersOf (handled : Handled) (entry : StreamEntry) : List DeadLetter :=
  handled.deadLettered.filter fun letter => letter.entryId = entry.1

/-- The record of an entry is among those applied. -/
def Handled.Applies (orjson : Orjson) (handled : Handled) (entry : StreamEntry) : Prop :=
  ∃ record ∈ handled.applied, decodeRecord orjson entry.2 = .ok record

/-- The letter names the entry and carries its payload: the bytes as they came
if they do not decode, and the record encoded again if it cannot be stored. -/
def DeadLetter.Carries (orjson : Orjson) (settings : StorageSettings) (clockMs : ℤ)
    (letter : DeadLetter) (entry : StreamEntry) : Prop :=
  letter.entryId = entry.1 ∧
    ((∃ error, decodeRecord orjson entry.2 = .error error ∧ letter.raw = entry.2 ∧
        letter.error = error.message) ∨
      ∃ record, decodeRecord orjson entry.2 = .ok record ∧
        letter.raw = encodeRecord orjson record ∧
        decodeRecord orjson letter.raw = .ok record ∧
        rejection settings clockMs record = some letter.error)

section Handling

variable {orjson : Orjson} {settings : StorageSettings} {clockMs : ℤ} {entry : StreamEntry}
  {entries : List StreamEntry}

theorem record?_fate_eq_some_iff {record : LocationRecord} :
    (fate orjson settings clockMs entry).record? = some record ↔
      decodeRecord orjson entry.2 = .ok record ∧ Storable settings clockMs record := by
  unfold fate Storable
  cases decodeRecord orjson entry.2 with
  | error error => simp [Fate.record?]
  | ok decoded =>
      cases verdict : rejection settings clockMs decoded with
      | none =>
          simp only [verdict, Fate.record?, Option.some.injEq, Except.ok.injEq]
          exact (and_iff_left_of_imp fun same => same ▸ verdict).symm
      | some reason =>
          simp only [verdict, Fate.record?, Except.ok.injEq]
          refine iff_of_false nofun ?_
          rintro ⟨rfl, storable⟩
          rw [verdict] at storable
          cases storable

theorem letter?_fate_eq_none_iff :
    (fate orjson settings clockMs entry).letter? = none ↔
      (fate orjson settings clockMs entry).record?.isSome = true := by
  cases fate orjson settings clockMs entry <;> simp [Fate.letter?, Fate.record?]

theorem entryId_of_letter? {letter : DeadLetter}
    (written : (fate orjson settings clockMs entry).letter? = some letter) :
    letter.entryId = entry.1 := by
  unfold fate at written
  split at written
  · obtain rfl := Option.some.inj written
    rfl
  · split at written
    · cases written
    · obtain rfl := Option.some.inj written
      rfl

theorem carries_of_letter? (faithful : orjson.Faithful) {letter : DeadLetter}
    (written : (fate orjson settings clockMs entry).letter? = some letter) :
    letter.Carries orjson settings clockMs entry := by
  refine ⟨entryId_of_letter? written, ?_⟩
  unfold fate at written
  split at written
  case h_1 error undecoded =>
      obtain rfl := Option.some.inj written
      exact Or.inl ⟨error, undecoded, rfl, rfl⟩
  case h_2 record decoded =>
      split at written
      case h_1 => cases written
      case h_2 reason rejected =>
          obtain rfl := Option.some.inj written
          exact Or.inr ⟨record, decoded, rfl, decodeRecord_encodeRecord faithful decoded, rejected⟩

/-- Among entries with distinct ids, the letters with the id of one of them are
those written for it. -/
theorem lettersOf_eq (distinct : (Shard.ids entries).Nodup) (listed : entry ∈ entries) :
    (handle orjson settings clockMs entries).lettersOf entry =
      (fate orjson settings clockMs entry).letter?.toList := by
  have own : (entries.filterMap fun other => (fate orjson settings clockMs other).letter?).filter
      (fun letter => letter.entryId = entry.1) =
      (fate orjson settings clockMs entry).letter?.toList := by
    have mine (other : StreamEntry) :
        ((fate orjson settings clockMs other).letter?).filter
            (fun letter => letter.entryId = entry.1) =
          if other.1 = entry.1 then (fate orjson settings clockMs other).letter? else none := by
      cases written : (fate orjson settings clockMs other).letter? with
      | none => simp
      | some letter => simp [Option.filter_some, entryId_of_letter? written]
    have alone : (fate orjson settings clockMs entry).letter?.toList =
        [entry].filterMap fun other => (fate orjson settings clockMs other).letter? := by
      cases written : (fate orjson settings clockMs entry).letter? <;> simp [written]
    rw [List.filter_filterMap, alone, ← Dict.filter_key_eq_singleton distinct listed,
      List.filterMap_filter]
    simp only [mine, decide_eq_true_eq]
  have arranged := (work_letters orjson settings clockMs entries).filter
    fun letter => letter.entryId = entry.1
  rw [own] at arranged
  change (work orjson settings clockMs entries).letters.filter _ = _
  cases written : (fate orjson settings clockMs entry).letter? with
  | none =>
      rw [written] at arranged
      exact arranged.eq_nil
  | some letter =>
      rw [written] at arranged
      exact arranged.eq_singleton

/-- Every entry of a batch has one fate, and no other: exactly one letter with
its id is written, which carries its payload, or its record is among those
applied.  Every letter carries the payload of the entry it names, the records
are applied in the order of their entries, and all entries are acknowledged. -/
theorem every_entry_has_one_fate (orjson : Orjson) (faithful : orjson.Faithful)
    (settings : StorageSettings) (clockMs : ℤ) (entries : List StreamEntry)
    (distinct : (Shard.ids entries).Nodup) :
    (∀ entry ∈ entries,
      (∃ letter, (handle orjson settings clockMs entries).lettersOf entry = [letter] ∧
          letter.Carries orjson settings clockMs entry ∧
          ¬ (handle orjson settings clockMs entries).Applies orjson entry) ∨
        (handle orjson settings clockMs entries).lettersOf entry = [] ∧
          (handle orjson settings clockMs entries).Applies orjson entry) ∧
      (∀ letter ∈ (handle orjson settings clockMs entries).deadLettered,
        ∃ entry ∈ entries, letter.Carries orjson settings clockMs entry) ∧
      (handle orjson settings clockMs entries).applied =
        entries.filterMap (fun entry => (fate orjson settings clockMs entry).record?) ∧
      (handle orjson settings clockMs entries).acknowledged = Shard.ids entries := by
  have storable : (handle orjson settings clockMs entries).applied =
      entries.filterMap fun entry => (fate orjson settings clockMs entry).record? :=
    work_storable orjson settings clockMs entries
  have applies_iff {entry : StreamEntry} (listed : entry ∈ entries) :
      (handle orjson settings clockMs entries).Applies orjson entry ↔
        (fate orjson settings clockMs entry).letter? = none := by
    rw [letter?_fate_eq_none_iff, Option.isSome_iff_exists, Handled.Applies, storable]
    constructor
    · rintro ⟨record, applied, decoded⟩
      obtain ⟨other, -, recorded⟩ := List.mem_filterMap.mp applied
      exact ⟨record, record?_fate_eq_some_iff.mpr
        ⟨decoded, (record?_fate_eq_some_iff.mp recorded).2⟩⟩
    · rintro ⟨record, recorded⟩
      exact ⟨record, List.mem_filterMap.mpr ⟨entry, listed, recorded⟩,
        (record?_fate_eq_some_iff.mp recorded).1⟩
  refine ⟨fun entry listed => ?_, fun letter written => ?_, storable, rfl⟩
  · rw [lettersOf_eq distinct listed, applies_iff listed]
    cases written : (fate orjson settings clockMs entry).letter? with
    | none => exact Or.inr ⟨rfl, rfl⟩
    | some letter => exact Or.inl ⟨letter, rfl, carries_of_letter? faithful written, nofun⟩
  · have listed := (work_letters orjson settings clockMs entries).mem_iff.mp written
    obtain ⟨entry, isEntry, isLetter⟩ := List.mem_filterMap.mp listed
    exact ⟨entry, isEntry, carries_of_letter? faithful isLetter⟩

end Handling

section Ledger

/-- A report from the origin at the epoch. -/
def promptRecord : LocationRecord := ⟨"a", 0, 0, 0, 0⟩

/-- A report from a clock that is two minutes ahead. -/
def earlyRecord : LocationRecord := ⟨"a", 0, 0, 120000, 0⟩

/-- The bytes of `["a",0.0,0.0,0,0]`. -/
def promptEntry : Bytes :=
  [91, 34, 97, 34, 44, 48, 46, 48, 44, 48, 46, 48, 44, 48, 44, 48, 93]

/-- The bytes of `["a",0.0,0.0,120000,0]`. -/
def earlyEntry : Bytes :=
  [91, 34, 97, 34, 44, 48, 46, 48, 44, 48, 46, 48, 44, 49, 50, 48, 48, 48, 48, 44, 48, 93]

/-- Records can be numbered. -/
noncomputable instance : Encodable LocationRecord :=
  Encodable.ofInj (fun record =>
    (record.deviceId.toList.map Char.toNat, record.lat, record.lon, record.reportedMs,
      record.receivedMs)) (by
    rintro ⟨device, lat, lon, reportedMs, receivedMs⟩
      ⟨device', lat', lon', reportedMs', receivedMs'⟩ same
    simp only [Prod.mk.injEq] at same
    obtain ⟨sameChars, rfl, rfl, rfl, rfl⟩ := same
    have charsApart : Function.Injective Char.toNat :=
      Function.LeftInverse.injective Char.ofNat_toNat
    have sameDevice : device = device' :=
      String.toList_injective (List.map_injective_iff.mpr charsApart sameChars)
    rw [sameDevice])

/-- The bytes of an array: two records are spelled out, any other is told by a
number of zero bytes. -/
noncomputable def ledgerDumps : Json → Bytes
  | .arr [.str deviceId, .float (.finite lat), .float (.finite lon), .int reportedMs,
      .int receivedMs] =>
      let record : LocationRecord := ⟨deviceId, lat, lon, reportedMs, receivedMs⟩
      if record = promptRecord then promptEntry
      else if record = earlyRecord then earlyEntry
      else 0 :: List.replicate (Encodable.encode record) 0
  | _ => []

open scoped Classical in
noncomputable def ledgerLoads (raw : Bytes) : Except String Json :=
  if raw = [] then
    .error "Input is a zero-length, empty document: line 1 column 1 (char 0)"
  else if raw = promptEntry then .ok (.arr promptRecord.items)
  else if raw = earlyEntry then .ok (.arr earlyRecord.items)
  else
    match (Encodable.decode (raw.length - 1) : Option LocationRecord) with
    | none => .error "unexpected character: line 1 column 1 (char 0)"
    | some record =>
        if ∀ item ∈ record.items, item.Kept then .ok (.arr record.items)
        else .error "unexpected character: line 1 column 1 (char 0)"

/-- A library that tells records apart by all their elements. -/
noncomputable def ledger : Orjson := ⟨ledgerLoads, ledgerDumps⟩

theorem kept_of_ledgerLoads {raw : Bytes} {items : List Json}
    (loaded : ledgerLoads raw = .ok (.arr items)) : ∀ item ∈ items, item.Kept := by
  have spelled (reportedMs : ℤ) (fits : -2 ^ 63 ≤ reportedMs ∧ reportedMs < 2 ^ 64) :
      ∀ item ∈ LocationRecord.items ⟨"a", 0, 0, reportedMs, 0⟩, item.Kept := by
    have zero : Binary64.IsDouble 0 := by decide +kernel
    intro item listed
    simp only [LocationRecord.items, List.mem_cons, List.not_mem_nil, or_false] at listed
    rcases listed with rfl | rfl | rfl | rfl | rfl
    · trivial
    · exact zero
    · exact zero
    · exact fits
    · exact ⟨by decide, by decide⟩
  unfold ledgerLoads at loaded
  split_ifs at loaded
  · cases loaded
    exact spelled 0 (by decide)
  · cases loaded
    exact spelled 120000 (by decide)
  · split at loaded
    case h_1 => cases loaded
    case h_2 record _ =>
        split_ifs at loaded with kept
        cases loaded
        exact kept

theorem ledger_faithful : ledger.Faithful where
  loadsInt := fun _ _ _ loaded listed => kept_of_ledgerLoads loaded _ listed
  loadsFloat := fun _ _ _ loaded listed => kept_of_ledgerLoads loaded _ listed
  roundTrips := by
    intro record kept
    change ledgerLoads (ledgerDumps (.arr record.items)) = _
    have dumped : ledgerDumps (.arr record.items) =
        if record = promptRecord then promptEntry
        else if record = earlyRecord then earlyEntry
        else 0 :: List.replicate (Encodable.encode record) 0 := rfl
    rw [dumped]
    split_ifs with isPrompt isEarly
    · rw [isPrompt, ledgerLoads, if_neg (by decide), if_pos rfl]
    · rw [isEarly, ledgerLoads, if_neg (by decide), if_neg (by decide), if_pos rfl]
    · have numbered : (Encodable.decode ((0 :: List.replicate (Encodable.encode record)
          (0 : UInt8)).length - 1) : Option LocationRecord) = some record := by
        rw [List.length_cons, List.length_replicate, Nat.add_sub_cancel, Encodable.encodek]
      rw [ledgerLoads, if_neg (by simp), if_neg (by simp [promptEntry]),
        if_neg (by simp [earlyEntry]), numbered]
      exact if_pos kept

/-- An entry without its field, one that can be stored and one that cannot. -/
def mixedBatch : List StreamEntry := [(4, []), (5, promptEntry), (7, earlyEntry)]

theorem every_entry_has_one_fate_mixed :
    (∀ entry ∈ mixedBatch,
      (∃ letter, (handle ledger ⟨30, 60⟩ 0 mixedBatch).lettersOf entry = [letter] ∧
          letter.Carries ledger ⟨30, 60⟩ 0 entry ∧
          ¬ (handle ledger ⟨30, 60⟩ 0 mixedBatch).Applies ledger entry) ∨
        (handle ledger ⟨30, 60⟩ 0 mixedBatch).lettersOf entry = [] ∧
          (handle ledger ⟨30, 60⟩ 0 mixedBatch).Applies ledger entry) ∧
      (∀ letter ∈ (handle ledger ⟨30, 60⟩ 0 mixedBatch).deadLettered,
        ∃ entry ∈ mixedBatch, letter.Carries ledger ⟨30, 60⟩ 0 entry) ∧
      (handle ledger ⟨30, 60⟩ 0 mixedBatch).applied =
        mixedBatch.filterMap (fun entry => (fate ledger ⟨30, 60⟩ 0 entry).record?) ∧
      (handle ledger ⟨30, 60⟩ 0 mixedBatch).acknowledged = Shard.ids mixedBatch :=
  every_entry_has_one_fate ledger ledger_faithful ⟨30, 60⟩ 0 mixedBatch (by decide)

end Ledger

end GeoTrack
