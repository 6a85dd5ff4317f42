import GeoTrack.DeviceStore
import GeoTrack.JsonText

/-!
# The hub's frames on the wire

A `positions` frame is put together from chunks of bytes that were serialised
earlier, some of them ticks ago.  It is a JSON text only if no chunk is empty,
and it shows the present only if every chunk that is reused is still current.
Both follow from what the hub maintains about its five maps, whatever calls it
has been through.

How numbers and strings are spelled is between the JSON library that writes
them and the one that reads them, both outside the repository.
-/

namespace GeoTrack

open JsonText

/-- How a JSON library interprets numbers, and strings without their quotes. -/
structure TokenReader where
  number : Bytes → Option ℚ
  string : Bytes → Option String

section Encoding

variable (orjson : Orjson)

def PositionItem.json (item : PositionItem) : Json :=
  .arr [.str item.deviceId, .float (.finite item.latitude), .float (.finite item.longitude),
    .int item.reportedMs]

/-- One device's latest position. -/
def encodePositionItem (item : PositionItem) : Bytes := orjson.dumps item.json

/-- A chunk as it is kept and sent. -/
def chunkBytes (chunk : Chunk) : Bytes := joined (chunk.map (encodePositionItem orjson))

def positionsFrameBytes (full : Bool) (tMs : ℤ) (itemChunks : List Bytes)
    (removed : List DeviceId) : Bytes :=
  let body := joined itemChunks
  [ascii "\x7b\"type\":\"positions\",\"full\":",
    if full then ascii "true" else ascii "false",
    ascii ",\"t\":",
    ascii (toString tMs),
    ascii ",\"items\":[",
    body,
    ascii "],\"removed\":",
    orjson.dumps (.arr (removed.map .str)),
    ascii "\x7d"].flatten

end Encoding

section Decoding

variable (reader : TokenReader)

def readInteger (token : Bytes) : Option ℤ :=
  (reader.number token).bind fun value => if value.den = 1 then some value.num else none

def readItem : Value → Option PositionItem
  | .array [.string deviceId, .number latitude, .number longitude, .number reportedMs] => do
      let deviceId ← reader.string deviceId
      let latitude ← reader.number latitude
      let longitude ← reader.number longitude
      let reportedMs ← readInteger reader reportedMs
      some ⟨deviceId, latitude, longitude, reportedMs⟩
  | _ => none

def readDevice : Value → Option DeviceId
  | .string deviceId => reader.string deviceId
  | _ => none

/-- The member of an object with this name. -/
def member (members : List (List UInt8 × Value)) (name : String) : Option Value :=
  (members.find? fun entry => reader.string entry.1 = some name).map Prod.snd

/-- A value as a `positions` frame. -/
def readFrame : Value → Option PositionsFrame
  | .object members =>
      match member reader members "type", member reader members "full",
        member reader members "t", member reader members "items",
        member reader members "removed" with
      | some (.string kind), some (.bool full), some (.number t), some (.array items),
        some (.array removed) => do
          let kind ← reader.string kind
          let tMs ← readInteger reader t
          let items ← items.mapM (readItem reader)
          let removed ← removed.mapM (readDevice reader)
          if kind = "positions" then some ⟨full, tMs, items, removed⟩ else none
      | _, _, _, _, _ => none
  | _ => none

def decodeFrame (bytes : Bytes) : Option PositionsFrame :=
  (parse bytes).bind (readFrame reader)

end Decoding

/-- The reader takes plain words for what they are. -/
def TokenReader.ReadsNames (reader : TokenReader) : Prop :=
  ∀ name ∈ ["type", "positions", "full", "t", "items", "removed"],
    reader.string (ascii name) = some name

/-- A text that is a number token, and the number it stands for. -/
def TokenReader.ReadsNumber (reader : TokenReader) (token : Bytes) (value : ℚ) : Prop :=
  token ≠ [] ∧ (∀ byte ∈ token, isNumberByte byte = true) ∧ reader.number token = some value

/-- A text that is a quoted string, and the string it stands for. -/
def TokenReader.ReadsString (reader : TokenReader) (text : Bytes) (value : String) : Prop :=
  ∃ content, text = quoted content ∧ Spelled content ∧ reader.string content = some value

/-- The library writes the item as a JSON array of a string and three numbers
that are read back as they were. -/
structure Orjson.Writes (orjson : Orjson) (reader : TokenReader) (item : PositionItem) : Prop where
  compact : orjson.dumps item.json = arrayText
    [orjson.dumps (.str item.deviceId), orjson.dumps (.float (.finite item.latitude)),
      orjson.dumps (.float (.finite item.longitude)), orjson.dumps (.int item.reportedMs)]
  deviceId : reader.ReadsString (orjson.dumps (.str item.deviceId)) item.deviceId
  latitude : reader.ReadsNumber (orjson.dumps (.float (.finite item.latitude))) item.latitude
  longitude : reader.ReadsNumber (orjson.dumps (.float (.finite item.longitude))) item.longitude
  reportedMs : reader.ReadsNumber (orjson.dumps (.int item.reportedMs)) item.reportedMs

/-- The library writes the names as a JSON array of strings. -/
structure Orjson.WritesNames (orjson : Orjson) (reader : TokenReader) (names : List DeviceId) :
    Prop where
  compact : orjson.dumps (.arr (names.map .str)) =
    arrayText (names.map fun name => orjson.dumps (.str name))
  each : ∀ name ∈ names, reader.ReadsString (orjson.dumps (.str name)) name

section RoundTrip

variable {orjson : Orjson} {reader : TokenReader}

theorem readInteger_of_number {token : Bytes} {value : ℤ}
    (read : reader.number token = some (value : ℚ)) : readInteger reader token = some value := by
  simp [readInteger, read]

theorem TokenReader.ReadsNumber.reads {token : Bytes} {value : ℚ}
    (number : reader.ReadsNumber token value) : Reads token (.number token) :=
  reads_number number.1 number.2.1

theorem Orjson.Writes.reads {item : PositionItem} (writes : orjson.Writes reader item) :
    ∃ value, Reads (encodePositionItem orjson item) value ∧ readItem reader value = some item := by
  obtain ⟨content, text, spelled, deviceId⟩ := writes.deviceId
  have elements := reads_array (.cons (reads_quoted spelled) (.cons writes.latitude.reads
    (.cons writes.longitude.reads (.cons writes.reportedMs.reads .nil))))
  rw [← text, ← writes.compact] at elements
  refine ⟨_, elements, ?_⟩
  simp [readItem, deviceId, writes.latitude.2.2, writes.longitude.2.2,
    readInteger_of_number writes.reportedMs.2.2]

theorem reads_items {items : List PositionItem}
    (written : ∀ item ∈ items, orjson.Writes reader item) :
    ∃ values, List.Forall₂ Reads (items.map (encodePositionItem orjson)) values ∧
      values.mapM (readItem reader) = some items := by
  induction items with
  | nil => exact ⟨[], .nil, rfl⟩
  | cons item rest ih =>
      obtain ⟨value, reads, isItem⟩ := (written item (List.mem_cons_self ..)).reads
      obtain ⟨values, others, areItems⟩ := ih fun other listed =>
        written other (List.mem_cons_of_mem _ listed)
      exact ⟨value :: values, .cons reads others, by simp [isItem, areItems]⟩

theorem reads_names {names : List DeviceId}
    (each : ∀ name ∈ names, reader.ReadsString (orjson.dumps (.str name)) name) :
    ∃ values, List.Forall₂ Reads (names.map fun name => orjson.dumps (.str name)) values ∧
      values.mapM (readDevice reader) = some names := by
  induction names with
  | nil => exact ⟨[], .nil, rfl⟩
  | cons name rest ih =>
      obtain ⟨content, text, spelled, isName⟩ := each name (List.mem_cons_self ..)
      obtain ⟨values, others, areNames⟩ := ih fun other listed =>
        each other (List.mem_cons_of_mem _ listed)
      have reads := reads_quoted spelled
      rw [← text] at reads
      exact ⟨.string content :: values, .cons reads others, by simp [readDevice, isName, areNames]⟩

theorem joined_chunkBytes {chunks : List Chunk} (inhabited : ∀ chunk ∈ chunks, chunk ≠ []) :
    joined (chunks.map (chunkBytes orjson)) =
      joined (chunks.flatten.map (encodePositionItem orjson)) := by
  have groups : chunks.map (chunkBytes orjson) =
      (chunks.map fun chunk => chunk.map (encodePositionItem orjson)).map joined := by
    rw [List.map_map]
    rfl
  rw [groups, joined_map_joined, List.map_flatten]
  intro group listed
  obtain ⟨chunk, isChunk, rfl⟩ := List.mem_map.mp listed
  simpa using inhabited chunk isChunk

theorem isNumberByte_of_isDigit {character : Char} (digit : character.isDigit = true) :
    isNumberByte (UInt8.ofNat character.toNat) = true := by
  have within : 48 ≤ character.toNat ∧ character.toNat ≤ 57 := Char.isDigit_iff_toNat.mp digit
  have listed : character.toNat ∈ List.range' 48 10 := by
    rw [List.mem_range'_1]
    omega
  have all : ∀ code ∈ List.range' 48 10, isNumberByte (UInt8.ofNat code) = true := by decide
  exact all _ listed

theorem numeric_toString (value : ℤ) :
    ascii (toString value) ≠ [] ∧
      ∀ byte ∈ ascii (toString value), isNumberByte byte = true := by
  have digits (number : ℕ) : ascii (toString number) ≠ [] ∧
      ∀ byte ∈ ascii (toString number), isNumberByte byte = true := by
    constructor
    · simp [ascii]
    · intro byte listed
      obtain ⟨character, isDigit, rfl⟩ := List.mem_map.mp listed
      have inDigits : character ∈ Nat.toDigits 10 number := by simpa using isDigit
      exact isNumberByte_of_isDigit (Nat.isDigit_of_mem_toDigits (by decide) (by decide) inDigits)
  cases value with
  | ofNat number => exact digits number
  | negSucc number =>
      have signed : ascii (toString (Int.negSucc number)) =
          45 :: ascii (toString (number + 1)) := by
        change ascii ("-" ++ toString (number + 1)) = _
        simp [ascii]
      rw [signed]
      refine ⟨List.cons_ne_nil _ _, ?_⟩
      intro byte listed
      rcases List.mem_cons.mp listed with rfl | later
      · decide
      · exact (digits (number + 1)).2 byte later

theorem positionsFrameBytes_eq (full : Bool) (tMs : ℤ) (itemChunks : List Bytes)
    (removed : List DeviceId) :
    positionsFrameBytes orjson full tMs itemChunks removed = objectText
      [memberText (ascii "type") (quoted (ascii "positions")),
        memberText (ascii "full") (if full then ascii "true" else ascii "false"),
        memberText (ascii "t") (ascii (toString tMs)),
        memberText (ascii "items") (openBracket :: (joined itemChunks ++ [closeBracket])),
        memberText (ascii "removed") (orjson.dumps (.arr (removed.map .str)))] := by
  have beforeFull : ascii "\x7b\"type\":\"positions\",\"full\":" = openBrace ::
      (memberText (ascii "type") (quoted (ascii "positions")) ++
        comma :: (quoted (ascii "full") ++ [colon])) := by
    decide +kernel
  have beforeT : ascii ",\"t\":" = comma :: (quoted (ascii "t") ++ [colon]) := by decide +kernel
  have beforeItems : ascii ",\"items\":[" =
      comma :: (quoted (ascii "items") ++ [colon, openBracket]) := by
    decide +kernel
  have beforeRemoved : ascii "],\"removed\":" =
      closeBracket :: comma :: (quoted (ascii "removed") ++ [colon]) := by
    decide +kernel
  have atEnd : ascii "\x7d" = [closeBrace] := by decide +kernel
  unfold positionsFrameBytes
  rw [beforeFull, beforeT, beforeItems, beforeRemoved, atEnd]
  simp [objectText, joined, memberText]

/-- A frame made of chunks that are not empty reads back as what it was made
of. -/
theorem decodeFrame_positionsFrameBytes {full : Bool} {tMs : ℤ} {chunks : List Chunk}
    {removed : List DeviceId} (names : reader.ReadsNames)
    (time : reader.number (ascii (toString tMs)) = some (tMs : ℚ))
    (inhabited : ∀ chunk ∈ chunks, chunk ≠ [])
    (written : ∀ item ∈ chunks.flatten, orjson.Writes reader item)
    (gone : orjson.WritesNames reader removed) :
    decodeFrame reader (positionsFrameBytes orjson full tMs (chunks.map (chunkBytes orjson))
      removed) = some (positionsFrame full tMs chunks removed) := by
  obtain ⟨items, readsItems, areItems⟩ := reads_items written
  obtain ⟨devices, readsDevices, areDevices⟩ := reads_names gone.each
  have readsRemoved := reads_array readsDevices
  rw [← gone.compact] at readsRemoved
  have plain (name : String) (listed : name ∈ ["type", "positions", "full", "t", "items",
      "removed"]) : Spelled (ascii name) := by
    apply spelled_of_plain
    revert name
    decide +kernel
  have members : List.Forall₂ ReadsMember
      [memberText (ascii "type") (quoted (ascii "positions")),
        memberText (ascii "full") (if full then ascii "true" else ascii "false"),
        memberText (ascii "t") (ascii (toString tMs)),
        memberText (ascii "items")
          (arrayText (chunks.flatten.map (encodePositionItem orjson))),
        memberText (ascii "removed") (orjson.dumps (.arr (removed.map .str)))]
      [(ascii "type", .string (ascii "positions")), (ascii "full", .bool full),
        (ascii "t", .number (ascii (toString tMs))), (ascii "items", .array items),
        (ascii "removed", .array devices)] :=
    .cons ⟨_, rfl, plain _ (by simp), reads_quoted (plain _ (by simp))⟩
      (.cons ⟨_, rfl, plain _ (by simp), reads_bool full⟩
        (.cons ⟨_, rfl, plain _ (by simp),
            reads_number (numeric_toString tMs).1 (numeric_toString tMs).2⟩
          (.cons ⟨_, rfl, plain _ (by simp), reads_array readsItems⟩
            (.cons ⟨_, rfl, plain _ (by simp), readsRemoved⟩ .nil))))
  have whole := (reads_object members).parse
  have text : positionsFrameBytes orjson full tMs (chunks.map (chunkBytes orjson)) removed = _ :=
    positionsFrameBytes_eq full tMs _ removed
  rw [joined_chunkBytes inhabited] at text
  have isType := names "type" (by simp)
  have isPositions := names "positions" (by simp)
  have isFull := names "full" (by simp)
  have isT := names "t" (by simp)
  have isItems := names "items" (by simp)
  have isRemoved := names "removed" (by simp)
  have atTime : readInteger reader (ascii tMs.repr) = some tMs := readInteger_of_number time
  have frame : readFrame reader (.object
      [(ascii "type", .string (ascii "positions")), (ascii "full", .bool full),
        (ascii "t", .number (ascii (toString tMs))), (ascii "items", .array items),
        (ascii "removed", .array devices)]) = some (positionsFrame full tMs chunks removed) := by
    simp [readFrame, member, isType, isPositions, isFull, isT, isItems, isRemoved,
      atTime, areItems, areDevices, positionsFrame]
  rw [decodeFrame, text]
  exact (congrArg (fun value => value.bind (readFrame reader)) whole).trans frame

end RoundTrip

namespace PositionHub

variable {hub : PositionHub}

/-- `self._latest.pop(device)` and leaving its cell, `none` for a `KeyError`. -/
def forget? (hub : PositionHub) (deviceId : DeviceId) : Option PositionHub :=
  (hub.latest.get? deviceId).map fun entry =>
    { hub with latest := hub.latest.erase deviceId }.leave entry.cell deviceId none

/-- The devices that `sweep` is about to forget. -/
def stale (hub : PositionHub) (now : ℤ) : List DeviceId :=
  (hub.latest.entries.filter fun entry => entry.2.item.reportedMs < now - hub.staleAfterMs).map
    Prod.fst

def sweep? (hub : PositionHub) (now : ℤ) : Option PositionHub :=
  (hub.stale now).foldlM forget? hub

theorem latest_forget (hub : PositionHub) (deviceId : DeviceId) :
    (hub.forget deviceId).latest = hub.latest.erase deviceId ∨ deviceId ∉ hub.latest := by
  unfold forget
  cases known : hub.latest.get? deviceId with
  | none => exact Or.inr (Dict.not_mem_iff.mpr known)
  | some entry => exact Or.inl rfl

/-- A device that is known is popped without an error. -/
theorem forget?_eq {deviceId : DeviceId} (known : deviceId ∈ hub.latest) :
    hub.forget? deviceId = some (hub.forget deviceId) := by
  obtain ⟨entry, found⟩ := Dict.mem_iff_exists.mp known
  simp [forget?, forget, found]

theorem foldlM_forget? (devices : List DeviceId) (distinct : devices.Nodup)
    (known : ∀ deviceId ∈ devices, deviceId ∈ hub.latest) :
    devices.foldlM forget? hub = some (devices.foldl forget hub) := by
  induction devices generalizing hub with
  | nil => rfl
  | cons deviceId rest ih =>
      rw [List.nodup_cons] at distinct
      have isKnown := known deviceId (List.mem_cons_self ..)
      rw [List.foldlM_cons, forget?_eq isKnown, List.foldl_cons]
      apply ih distinct.2
      intro other listed
      have differs : other ≠ deviceId := by
        rintro rfl
        exact distinct.1 listed
      have erased := (latest_forget hub deviceId).resolve_right (not_not.mpr isKnown)
      rw [erased, Dict.mem_erase]
      exact ⟨differs, known other (List.mem_cons_of_mem _ listed)⟩

/-- Sweeping never pops a device that is not there. -/
theorem sweep?_eq (hub : PositionHub) (now : ℤ) : hub.sweep? now = some (hub.sweep now) := by
  apply foldlM_forget?
  · exact hub.latest.nodup.sublist (List.filter_sublist.map Prod.fst)
  · intro deviceId listed
    obtain ⟨entry, isStale, rfl⟩ := List.mem_map.mp listed
    exact Dict.mem_keys_iff.mp (List.mem_map_of_mem (List.mem_of_mem_filter isStale))

end PositionHub

/-- A call on the hub, a snapshot being consumed to its end. -/
inductive HubCall where
  | apply (items : List PositionItem)
  | sweep (now : ℤ)
  | drain (tMs : ℤ)
  | discardPending
  | snapshotChunks (rects : List CellRect)

namespace HubCall

def perform (hub : PositionHub) : HubCall → Option PositionHub
  | .apply items => some (hub.apply items)
  | .sweep now => hub.sweep? now
  | .drain tMs => (hub.drain tMs).map Prod.snd
  | .discardPending => some hub.discardPending
  | .snapshotChunks rects => (hub.snapshotChunks rects).map Prod.snd

/-- The calls one after the other, `none` if one of them raises. -/
def performAll (hub : PositionHub) (calls : List HubCall) : Option PositionHub :=
  calls.foldlM perform hub

/-- The items a call brings in. -/
def items : HubCall → List PositionItem
  | .apply items => items
  | _ => []

end HubCall

/-- What holds of the hub's maps between any two calls. -/
structure PositionHub.Represents (hub : PositionHub) : Prop where
  listed_iff : ∀ deviceId entry, hub.latest.get? deviceId = some entry → ∀ cell,
    (∃ devices, hub.cells.get? cell = some devices ∧ deviceId ∈ devices) ↔
      cell = hub.cellOfItem entry.item
  known : ∀ cell devices deviceId, hub.cells.get? cell = some devices → deviceId ∈ devices →
    deviceId ∈ hub.latest
  inhabited : ∀ cell devices, hub.cells.get? cell = some devices → devices.entries ≠ []
  changed : ∀ cell devices deviceId, hub.pending.changed.get? cell = some devices →
    deviceId ∈ devices → ∃ held, hub.cells.get? cell = some held ∧ deviceId ∈ held
  cached : ∀ cell chunk, hub.snapshots.get? cell = some chunk →
    ∃ devices, hub.cells.get? cell = some devices ∧
      chunk.map PositionItem.deviceId = devices.keys ∧ hub.Current chunk

namespace PositionHub

variable {hub : PositionHub}

theorem mem_getD_iff {cell : Cell} {deviceId : DeviceId} {cells : Dict Cell (KeySet DeviceId)} :
    deviceId ∈ (cells.get? cell).getD ∅ ↔
      ∃ devices, cells.get? cell = some devices ∧ deviceId ∈ devices := by
  cases cells.get? cell <;> simp

/-- A chunk names its devices in order. -/
theorem Sound.deviceIds_chunkOf (sound : hub.Sound) {devices : KeySet DeviceId} {chunk : Chunk}
    (made : hub.chunkOf devices = some chunk) :
    chunk.map PositionItem.deviceId = devices.keys := by
  obtain ⟨entries, looked, rfl⟩ := Option.map_eq_some_iff.mp made
  rw [Dict.getAll?_eq_some_iff] at looked
  clear made
  generalize devices.keys = keys at looked
  induction keys generalizing entries with
  | nil =>
      obtain rfl := List.map_eq_nil_iff.mp looked.symm
      rfl
  | cons deviceId rest ih =>
      cases entries with
      | nil => cases looked
      | cons entry others =>
          simp only [List.map_cons, List.cons.injEq] at looked
          have named := ((sound.devices deviceId).located entry looked.1).1
          simp only [List.map_cons, named, ih others looked.2]

theorem Sound.represents (sound : hub.Sound) : hub.Represents where
  listed_iff := by
    intro deviceId entry known cell
    rw [← mem_getD_iff]
    change (hub.view deviceId).held cell ↔ _
    have located := ((sound.devices deviceId).located entry known).2
    rw [(sound.devices deviceId).held_iff, DeviceView.cell?, view_latest, known, Option.map_some,
      Option.some.injEq, located]
    exact eq_comm
  known := fun cell devices deviceId listed isMember =>
    mem_latest_of_cell? (sound.mem_cells listed isMember)
  inhabited := sound.inhabited
  changed := by
    intro cell devices deviceId listed isMember
    rw [← mem_getD_iff]
    exact ((sound.devices deviceId).held_iff cell).mpr (sound.mem_changed listed isMember)
  cached := by
    intro cell chunk isCached
    obtain ⟨devices, listed, made⟩ := sound.cached cell chunk isCached
    refine ⟨devices, listed, sound.deviceIds_chunkOf made, ?_⟩
    intro item isMember
    obtain ⟨deviceId, -, entry, known, rfl⟩ := (mem_chunkOf made).mp isMember
    rw [((sound.devices deviceId).located entry known).1]
    exact ⟨entry, known, rfl⟩

/-- Every position the hub holds satisfies a condition. -/
def Holds (hub : PositionHub) (condition : PositionItem → Prop) : Prop :=
  ∀ deviceId entry, hub.latest.get? deviceId = some entry → condition entry.item

variable {condition : PositionItem → Prop}

theorem Holds.place (holds : hub.Holds condition) {item : PositionItem} (meets : condition item) :
    (hub.place item).Holds condition := by
  intro deviceId entry known
  have latest : (hub.place item).latest = hub.latest.set item.deviceId ⟨item, hub.cellOfItem item⟩ := by
    simp [PositionHub.place, touch]
  rw [latest, Dict.get?_set] at known
  split at known
  case isTrue =>
      obtain rfl := Option.some.inj known
      exact meets
  case isFalse => exact holds deviceId entry known

theorem Holds.forget (holds : hub.Holds condition) (gone : DeviceId) :
    (hub.forget gone).Holds condition := by
  intro deviceId entry known
  rcases latest_forget hub gone with erased | unknown
  · rw [erased, Dict.get?_erase] at known
    split at known
    case isTrue => cases known
    case isFalse => exact holds deviceId entry known
  · have same : hub.forget gone = hub := by
      rw [PositionHub.forget, Dict.not_mem_iff.mp unknown]
    rw [same] at known
    exact holds deviceId entry known

theorem accepted_subset (items : List PositionItem) :
    ∀ item ∈ hub.accepted items, item ∈ items := by
  induction items generalizing hub with
  | nil => exact fun item listed => listed
  | cons first rest ih =>
      intro item listed
      rw [accepted] at listed
      split at listed
      case isTrue =>
          rcases List.mem_cons.mp listed with rfl | later
          · exact List.mem_cons_self ..
          · exact List.mem_cons_of_mem _ (ih item later)
      case isFalse => exact List.mem_cons_of_mem _ (ih item listed)

theorem Holds.apply (holds : hub.Holds condition) {items : List PositionItem}
    (meets : ∀ item ∈ items, condition item) : (hub.apply items).Holds condition := by
  have kept : (∀ item ∈ [] ++ hub.accepted items, condition item) →
      (hub.apply items).Holds condition := by
    apply @apply_induction hub (fun current done => (∀ item ∈ done, condition item) →
      current.Holds condition) items []
    · exact fun _ => holds
    · intro current done item _ before all
      have earlier := before fun other listed => all other (List.mem_append_left _ listed)
      exact earlier.place (all item (by simp))
    · exact fun _ _ _ before => before
  exact kept fun item listed => meets item (accepted_subset items item listed)

theorem Holds.sweep (holds : hub.Holds condition) (now : ℤ) : (hub.sweep now).Holds condition :=
  @sweep_induction hub (fun current => current.Holds condition) now holds
    fun _ deviceId before => before.forget deviceId

end PositionHub

/-- A call on a sound hub raises nothing and leaves it sound. -/
theorem HubCall.perform_spec {hub : PositionHub} (sound : hub.Sound)
    {condition : PositionItem → Prop} (holds : hub.Holds condition) (call : HubCall)
    (meets : ∀ item ∈ call.items, condition item) :
    ∃ after, call.perform hub = some after ∧ after.Sound ∧ after.Holds condition := by
  cases call with
  | apply items => exact ⟨_, rfl, sound.apply items, holds.apply meets⟩
  | sweep now => exact ⟨_, PositionHub.sweep?_eq hub now, sound.sweep now, holds.sweep now⟩
  | drain tMs =>
      obtain ⟨delta, drained, -⟩ := sound.drain tMs
      exact ⟨hub.discardPending, by simp [perform, drained], sound.discardPending, holds⟩
  | discardPending => exact ⟨_, rfl, sound.discardPending, holds⟩
  | snapshotChunks rects =>
      obtain ⟨chunks, snapshots, taken, after, -⟩ := sound.snapshotChunks rects
      exact ⟨_, by simp [perform, taken], after, holds⟩

theorem HubCall.sound_perform {hub after : PositionHub} (sound : hub.Sound) {call : HubCall}
    (performed : call.perform hub = some after) : after.Sound := by
  have anything : hub.Holds fun _ => True := fun _ _ _ => trivial
  obtain ⟨_, alsoPerformed, soundAfter, -⟩ := call.perform_spec sound anything fun _ _ => trivial
  obtain rfl := Option.some.inj (performed.symm.trans alsoPerformed)
  exact soundAfter

theorem HubCall.performAll_spec {hub : PositionHub} (sound : hub.Sound)
    {condition : PositionItem → Prop} (holds : hub.Holds condition) (calls : List HubCall)
    (meet : ∀ call ∈ calls, ∀ item ∈ call.items, condition item) :
    ∃ after, performAll hub calls = some after ∧ after.Sound ∧ after.Holds condition := by
  induction calls generalizing hub with
  | nil => exact ⟨hub, rfl, sound, holds⟩
  | cons call rest ih =>
      obtain ⟨next, performed, soundNext, holdsNext⟩ := perform_spec sound holds call
        (meet call (List.mem_cons_self ..))
      obtain ⟨after, others, spec⟩ := ih soundNext holdsNext fun other listed =>
        meet other (List.mem_cons_of_mem _ listed)
      refine ⟨after, ?_, spec⟩
      rw [performAll, List.foldlM_cons, performed]
      exact others

namespace PositionHub

variable {hub : PositionHub}

/-- Chunks of different cells have no device in common. -/
theorem nodup_flatten_of_cells {groups : List (Cell × Chunk)}
    (cells : (groups.map Prod.fst).Nodup)
    (each : ∀ group ∈ groups, (group.2.map PositionItem.deviceId).Nodup ∧
      ∀ item ∈ group.2, (hub.view item.deviceId).cell? = some group.1) :
    ((groups.map Prod.snd).flatten.map PositionItem.deviceId).Nodup := by
  induction groups with
  | nil => simp
  | cons group rest ih =>
      rw [List.map_cons, List.nodup_cons] at cells
      obtain ⟨distinct, here⟩ := each group (List.mem_cons_self ..)
      have later := ih cells.2 fun other listed => each other (List.mem_cons_of_mem _ listed)
      rw [List.map_cons, List.flatten_cons, List.map_append, List.nodup_append]
      refine ⟨distinct, later, ?_⟩
      intro first isFirst second isSecond same
      obtain ⟨item, inGroup, rfl⟩ := List.mem_map.mp isFirst
      obtain ⟨other, inRest, rfl⟩ := List.mem_map.mp isSecond
      obtain ⟨chunk, isChunk, inChunk⟩ := List.mem_flatten.mp inRest
      obtain ⟨elsewhere, listed, rfl⟩ := List.mem_map.mp isChunk
      have there := (each elsewhere (List.mem_cons_of_mem _ listed)).2 other inChunk
      rw [← same, here item inGroup] at there
      exact cells.1 (Option.some.inj there ▸ List.mem_map_of_mem listed)

/-- The devices of a chunk are all different and in one cell. -/
theorem Sound.chunk_spec (sound : hub.Sound) {devices : KeySet DeviceId} {chunk : Chunk}
    {cell : Cell} (made : hub.chunkOf devices = some chunk)
    (there : ∀ deviceId ∈ devices, (hub.view deviceId).cell? = some cell) :
    (chunk.map PositionItem.deviceId).Nodup ∧
      ∀ item ∈ chunk, (hub.view item.deviceId).cell? = some cell := by
  have named := sound.deviceIds_chunkOf made
  constructor
  · rw [named]
    exact devices.nodup
  · intro item isMember
    apply there
    rw [← Dict.mem_keys_iff, ← named]
    exact List.mem_map_of_mem isMember

theorem chunks_of_drain {tMs : ℤ} {delta : TickDelta} {after : PositionHub}
    (drained : hub.drain tMs = some (delta, after)) {cell : Cell} {chunk : Chunk} :
    delta.chunks.get? cell = some chunk ↔
      ∃ devices, hub.pending.changed.get? cell = some devices ∧ devices.entries ≠ [] ∧
        hub.chunkOf devices = some chunk := by
  rw [PositionHub.drain] at drained
  split at drained
  case isTrue =>
      obtain ⟨rfl, -⟩ := Prod.mk.inj (Option.some.inj drained)
      exact changedChunk_iff
  case isFalse => cases drained

/-- What is picked from a tick's delta for different cells shows each device at
most once. -/
theorem Sound.nodup_drained (sound : hub.Sound) {tMs : ℤ} {delta : TickDelta}
    {after : PositionHub} (drained : hub.drain tMs = some (delta, after)) {cells : List Cell}
    (distinct : cells.Nodup) :
    ((cells.filterMap delta.chunks.get?).flatten.map PositionItem.deviceId).Nodup := by
  have groups : cells.filterMap delta.chunks.get? =
      (cells.filterMap fun cell => (delta.chunks.get? cell).map fun chunk => (cell, chunk)).map
        Prod.snd := by
    rw [List.map_filterMap]
    simp
  rw [groups]
  apply @nodup_flatten_of_cells hub
  · have inOrder : ((cells.filterMap fun cell =>
        (delta.chunks.get? cell).map fun chunk => (cell, chunk)).map Prod.fst).Sublist
        (cells.map id) :=
      Dict.filterMap_map_sublist (by simp) cells
    rw [List.map_id] at inOrder
    exact List.Nodup.sublist inOrder distinct
  · intro group listed
    obtain ⟨cell, -, picked⟩ := List.mem_filterMap.mp listed
    obtain ⟨chunk, found, rfl⟩ := Option.map_eq_some_iff.mp picked
    obtain ⟨devices, changed, -, made⟩ := (chunks_of_drain drained).mp found
    exact sound.chunk_spec made fun deviceId isMember => sound.mem_changed changed isMember

/-- The covered cells among these with the items they hold. -/
def coveredGroups (hub : PositionHub) (rects : List CellRect)
    (entries : List (Cell × KeySet DeviceId)) : List (Cell × Chunk) :=
  entries.filterMap fun entry =>
    if covers rects entry.1 then (hub.chunkOf entry.2).map fun chunk => (entry.1, chunk) else none

theorem snapshotLoop_groups (rects : List CellRect) (sound : hub.Sound)
    (entries : List (Cell × KeySet DeviceId))
    (current : ∀ entry ∈ entries, entry ∈ hub.cells.entries) {chunks : List Chunk}
    {after : PositionHub} (looped : snapshotLoop rects hub entries = some (chunks, after)) :
    chunks = (hub.coveredGroups rects entries).map Prod.snd := by
  induction entries generalizing hub chunks with
  | nil =>
      obtain ⟨rfl, -⟩ := Prod.mk.inj (Option.some.inj looped)
      rfl
  | cons entry rest ih =>
      obtain ⟨cell, devices⟩ := entry
      have listed : hub.cells.get? cell = some devices :=
        Dict.mem_entries_iff.mp (current _ (List.mem_cons_self ..))
      have others : ∀ entry ∈ rest, entry ∈ hub.cells.entries := fun entry isMember =>
        current entry (List.mem_cons_of_mem _ isMember)
      rw [snapshotLoop] at looped
      by_cases covered : covers rects cell = true
      · rw [if_pos covered] at looped
        cases known : hub.snapshots.get? cell with
        | some chunk =>
            obtain ⟨_, sameDevices, made⟩ := sound.cached cell chunk known
            rw [listed] at sameDevices
            obtain rfl := Option.some.inj sameDevices
            simp only [known] at looped
            obtain ⟨⟨later, last⟩, loopedLater, result⟩ := Option.map_eq_some_iff.mp looped
            obtain ⟨rfl, rfl⟩ := Prod.mk.inj result
            simp [coveredGroups, covered, made, ih sound others loopedLater]
        | none =>
            simp only [known] at looped
            obtain ⟨chunk, made, loopedMade⟩ := Option.bind_eq_some_iff.mp looped
            obtain ⟨⟨later, last⟩, loopedLater, result⟩ := Option.map_eq_some_iff.mp loopedMade
            obtain ⟨rfl, rfl⟩ := Prod.mk.inj result
            have same : later = (hub.coveredGroups rects rest).map Prod.snd :=
              ih (sound.cache listed made) others loopedLater
            simp [coveredGroups, covered, made, same]
      · rw [if_neg covered] at looped
        simpa [coveredGroups, covered] using ih sound others looped

/-- A snapshot shows each device once and has no empty chunk. -/
theorem Sound.snapshot_spec (sound : hub.Sound) {rects : List CellRect} {chunks : List Chunk}
    {after : PositionHub} (taken : hub.snapshotChunks rects = some (chunks, after)) :
    (chunks.flatten.map PositionItem.deviceId).Nodup ∧ ∀ chunk ∈ chunks, chunk ≠ [] := by
  have groups := snapshotLoop_groups rects sound hub.cells.entries (fun _ listed => listed) taken
  have group_spec : ∀ group ∈ hub.coveredGroups rects hub.cells.entries, ∃ devices,
      hub.cells.get? group.1 = some devices ∧ hub.chunkOf devices = some group.2 := by
    intro group listed
    obtain ⟨⟨cell, devices⟩, isEntry, selected⟩ := List.mem_filterMap.mp listed
    split at selected
    case isTrue =>
        obtain ⟨chunk, made, rfl⟩ := Option.map_eq_some_iff.mp selected
        exact ⟨devices, Dict.mem_entries_iff.mp isEntry, made⟩
    case isFalse => cases selected
  rw [groups]
  constructor
  · apply @nodup_flatten_of_cells hub
    · have inOrder : ((hub.coveredGroups rects hub.cells.entries).map Prod.fst).Sublist
          (hub.cells.entries.map Prod.fst) := by
        apply Dict.filterMap_map_sublist
        intro entry group selected
        split at selected
        case isTrue =>
            obtain ⟨chunk, -, rfl⟩ := Option.map_eq_some_iff.mp selected
            rfl
        case isFalse => cases selected
      exact List.Nodup.sublist inOrder hub.cells.nodup
    · intro group listed
      obtain ⟨devices, there, made⟩ := group_spec group listed
      exact sound.chunk_spec made fun deviceId isMember => sound.mem_cells there isMember
  · intro chunk listed
    obtain ⟨group, isGroup, rfl⟩ := List.mem_map.mp listed
    obtain ⟨devices, there, made⟩ := group_spec group isGroup
    exact chunkOf_ne_nil (sound.inhabited group.1 devices there) made

end PositionHub

/-- The bytes are a `positions` frame that shows these items and no others,
each device once. -/
def FrameShows (reader : TokenReader) (bytes : Bytes) (shown : PositionItem → Prop) : Prop :=
  ∃ frame, decodeFrame reader bytes = some frame ∧
    (frame.items.map PositionItem.deviceId).Nodup ∧ ∀ item, item ∈ frame.items ↔ shown item

/-- The item is the latest of its device, which is marked as changed in one of
these cells. -/
def PositionHub.ChangedIn (hub : PositionHub) (cells : List Cell) (item : PositionItem) : Prop :=
  ∃ entry, hub.latest.get? item.deviceId = some entry ∧ entry.item = item ∧
    ∃ cell ∈ cells, ∃ devices, hub.pending.changed.get? cell = some devices ∧
      item.deviceId ∈ devices

/-- The item is the latest of its device, which is in a covered cell. -/
def PositionHub.CoveredBy (hub : PositionHub) (rects : List CellRect) (item : PositionItem) :
    Prop :=
  ∃ entry, hub.latest.get? item.deviceId = some entry ∧ entry.item = item ∧
    covers rects (hub.cellOfItem item) = true

section Frames

variable {orjson : Orjson} {reader : TokenReader} {hub : PositionHub}

theorem drained_frame (names : reader.ReadsNames) (sound : hub.Sound)
    (holds : hub.Holds (orjson.Writes reader)) {tMs : ℤ} {delta : TickDelta}
    {after : PositionHub} (drained : hub.drain tMs = some (delta, after))
    (time : reader.number (ascii (toString tMs)) = some (tMs : ℚ)) {cells : List Cell}
    (distinct : cells.Nodup) {removed : List DeviceId} (gone : orjson.WritesNames reader removed)
    (full : Bool) :
    FrameShows reader (positionsFrameBytes orjson full tMs
      ((cells.filterMap delta.chunks.get?).map (chunkBytes orjson)) removed)
      (hub.ChangedIn cells) := by
  have shown : ∀ item, item ∈ (cells.filterMap delta.chunks.get?).flatten ↔
      hub.ChangedIn cells item := by
    intro item
    simp only [List.mem_flatten, List.mem_filterMap, PositionHub.chunks_of_drain drained]
    constructor
    · rintro ⟨chunk, ⟨cell, listed, devices, changed, inhabited, made⟩, isMember⟩
      obtain ⟨entry, known, same, -⟩ := (sound.mem_changedChunk cell item).mp
        ⟨devices, changed, inhabited, chunk, made, isMember⟩
      obtain ⟨deviceId, inDevices, other, knownOther, rfl⟩ :=
        (PositionHub.mem_chunkOf made).mp isMember
      have named := ((sound.devices deviceId).located other knownOther).1
      exact ⟨entry, known, same, cell, listed, devices, changed, named ▸ inDevices⟩
    · rintro ⟨entry, known, same, cell, listed, devices, changed, inDevices⟩
      have marked : (hub.view item.deviceId).changed cell :=
        PositionHub.mem_getD_iff.mpr ⟨devices, changed, inDevices⟩
      obtain ⟨_, alsoChanged, inhabited, chunk, made, isMember⟩ :=
        (sound.mem_changedChunk cell item).mpr ⟨entry, known, same, marked⟩
      exact ⟨chunk, ⟨cell, listed, _, alsoChanged, inhabited, made⟩, isMember⟩
  refine ⟨_, decodeFrame_positionsFrameBytes names time ?_ ?_ gone,
    sound.nodup_drained drained distinct, shown⟩
  · intro chunk listed
    obtain ⟨cell, -, found⟩ := List.mem_filterMap.mp listed
    obtain ⟨devices, -, inhabited, made⟩ := (PositionHub.chunks_of_drain drained).mp found
    exact PositionHub.chunkOf_ne_nil inhabited made
  · intro item listed
    obtain ⟨entry, known, same, -⟩ := (shown item).mp listed
    exact same ▸ holds item.deviceId entry known

theorem snapshot_frame (names : reader.ReadsNames) (sound : hub.Sound)
    (holds : hub.Holds (orjson.Writes reader)) {rects : List CellRect} {chunks : List Chunk}
    {after : PositionHub} (taken : hub.snapshotChunks rects = some (chunks, after)) {tMs : ℤ}
    (time : reader.number (ascii (toString tMs)) = some (tMs : ℚ)) {removed : List DeviceId}
    (gone : orjson.WritesNames reader removed) (full : Bool) :
    FrameShows reader (positionsFrameBytes orjson full tMs (chunks.map (chunkBytes orjson))
      removed) (hub.CoveredBy rects) := by
  obtain ⟨distinct, inhabited⟩ := sound.snapshot_spec taken
  obtain ⟨_, _, takenToo, -, snapshot⟩ := sound.snapshotChunks rects
  obtain ⟨rfl, -⟩ := Prod.mk.inj (Option.some.inj (taken.symm.trans takenToo))
  have shown : ∀ item, item ∈ chunks.flatten ↔ hub.CoveredBy rects item := by
    intro item
    rw [snapshot item]
    apply exists_congr
    intro entry
    constructor
    · rintro ⟨known, rfl, covered⟩
      have located : entry.cell = hub.cellOfItem entry.item :=
        ((sound.devices _).located entry known).2
      rw [located] at covered
      exact ⟨known, rfl, covered⟩
    · rintro ⟨known, rfl, covered⟩
      have located : entry.cell = hub.cellOfItem entry.item :=
        ((sound.devices _).located entry known).2
      rw [← located] at covered
      exact ⟨known, rfl, covered⟩
  refine ⟨_, decodeFrame_positionsFrameBytes names time inhabited ?_ gone, distinct, shown⟩
  intro item listed
  obtain ⟨entry, known, same, -⟩ := (shown item).mp listed
  exact same ▸ holds item.deviceId entry known

end Frames

/-- Whatever calls the hub has been through, none of them raises, its maps
agree with each other, and the frames built from its next delta or snapshot
show exactly the current items they are about. -/
theorem hub_represents_positions (orjson : Orjson) (reader : TokenReader)
    (names : reader.ReadsNames) (grid : Grid) (staleAfterS : ℕ) (calls : List HubCall)
    (written : ∀ call ∈ calls, ∀ item ∈ call.items, orjson.Writes reader item) :
    ∃ hub, HubCall.performAll (PositionHub.fresh grid staleAfterS) calls = some hub ∧
      hub.Represents ∧
      ∀ tMs : ℤ, reader.number (ascii (toString tMs)) = some (tMs : ℚ) →
      ∀ full removed, orjson.WritesNames reader removed →
        (∃ delta after, hub.drain tMs = some (delta, after) ∧
          ∀ cells : List Cell, cells.Nodup →
            FrameShows reader (positionsFrameBytes orjson full delta.tMs
              ((cells.filterMap delta.chunks.get?).map (chunkBytes orjson)) removed)
              (hub.ChangedIn cells)) ∧
        ∀ rects, ∃ chunks after, hub.snapshotChunks rects = some (chunks, after) ∧
          FrameShows reader (positionsFrameBytes orjson full tMs
            (chunks.map (chunkBytes orjson)) removed) (hub.CoveredBy rects) := by
  have nothing : (PositionHub.fresh grid staleAfterS).Holds (orjson.Writes reader) :=
    fun _ _ known => by cases known
  obtain ⟨hub, performed, sound, holds⟩ := HubCall.performAll_spec
    (PositionHub.sound_fresh grid staleAfterS) nothing calls written
  refine ⟨hub, performed, sound.represents, ?_⟩
  intro tMs time full removed gone
  constructor
  · obtain ⟨delta, drained, -⟩ := sound.drain tMs
    have sameTime : delta.tMs = tMs := by
      rw [PositionHub.drain] at drained
      split at drained
      case isTrue =>
          obtain ⟨rfl, -⟩ := Prod.mk.inj (Option.some.inj drained)
          rfl
      case isFalse => cases drained
    refine ⟨delta, _, drained, fun cells distinct => ?_⟩
    rw [sameTime]
    exact drained_frame names sound holds drained time distinct gone full
  · intro rects
    obtain ⟨chunks, snapshots, taken, -, -⟩ := sound.snapshotChunks rects
    exact ⟨chunks, _, taken, snapshot_frame names sound holds taken time gone full⟩

/-- How a library writes plain names and whole numbers. -/
def wholeNumberText : Json → Bytes
  | .str text => quoted (ascii text)
  | .int value => ascii (toString value)
  | .float (.finite value) => ascii (toString value.num ++ ".0")
  | _ => ascii "null"

def wholeNumberOrjson : Orjson where
  loads _ := .error "unexpected end of data: line 1 column 1 (char 0)"
  dumps
    | .arr items => arrayText (items.map wholeNumberText)
    | value => wholeNumberText value

/-- How a library reads plain names and whole numbers. -/
def wholeNumberReader : TokenReader where
  number token := some ((token.takeWhile fun byte => byte ≠ 46).foldl
    (fun value digit => 10 * value + (digit.toNat - 48)) (0 : ℕ))
  string content := some (String.ofList (content.map fun byte => Char.ofNat byte.toNat))

/-- A bus is reported and shown, drives into another cell, and is reported once
more. -/
def busCalls : List HubCall :=
  [.apply [⟨"bus", 50, 8, 7⟩], .snapshotChunks [⟨0, 100, 0, 100⟩], .drain 8,
    .apply [⟨"bus", 51, 8, 9⟩, ⟨"bus", 50, 8, 8⟩], .sweep 10, .snapshotChunks []]

theorem hub_represents_positions_bus :
    ∃ hub delta after, HubCall.performAll (PositionHub.fresh .standard 60) busCalls = some hub ∧
      hub.Represents ∧ hub.drain 10 = some (delta, after) ∧
      FrameShows wholeNumberReader (positionsFrameBytes wholeNumberOrjson false delta.tMs
        ((delta.chunks.keys.filterMap delta.chunks.get?).map (chunkBytes wholeNumberOrjson)) [])
        (hub.ChangedIn delta.chunks.keys) := by
  have names : wholeNumberReader.ReadsNames := by
    unfold TokenReader.ReadsNames
    decide +kernel
  have text (name : String) (plain : ∀ byte ∈ ascii name,
      ¬ byte < 32 ∧ byte ≠ quote ∧ byte ≠ backslash)
      (read : wholeNumberReader.string (ascii name) = some name) :
      wholeNumberReader.ReadsString (wholeNumberOrjson.dumps (.str name)) name :=
    ⟨ascii name, rfl, spelled_of_plain plain, read⟩
  have written : ∀ item ∈ [⟨"bus", 50, 8, 7⟩, ⟨"bus", 51, 8, 9⟩, (⟨"bus", 50, 8, 8⟩ : PositionItem)],
      wholeNumberOrjson.Writes wholeNumberReader item := by
    intro item listed
    have numbers : wholeNumberReader.ReadsNumber
          (wholeNumberOrjson.dumps (.float (.finite item.latitude))) item.latitude ∧
        wholeNumberReader.ReadsNumber
          (wholeNumberOrjson.dumps (.float (.finite item.longitude))) item.longitude ∧
        wholeNumberReader.ReadsNumber (wholeNumberOrjson.dumps (.int item.reportedMs))
          item.reportedMs ∧ item.deviceId = "bus" := by
      revert item
      unfold TokenReader.ReadsNumber
      decide +kernel
    obtain ⟨latitude, longitude, reportedMs, isBus⟩ := numbers
    refine ⟨rfl, ?_, latitude, longitude, reportedMs⟩
    rw [isBus]
    exact text "bus" (by decide +kernel) (by decide +kernel)
  have all : ∀ call ∈ busCalls, ∀ item ∈ call.items,
      wholeNumberOrjson.Writes wholeNumberReader item := by
    intro call listed item isItem
    apply written
    simp only [busCalls, List.mem_cons, List.not_mem_nil, or_false] at listed
    rcases listed with rfl | rfl | rfl | rfl | rfl | rfl <;>
      simp only [HubCall.items, List.mem_cons, List.not_mem_nil, or_false] at isItem <;>
      simp [isItem]
  obtain ⟨hub, performed, represents, frames⟩ :=
    hub_represents_positions wholeNumberOrjson wholeNumberReader names .standard 60 busCalls all
  obtain ⟨⟨delta, after, drained, shows_⟩, -⟩ := frames 10 (by decide +kernel) false []
    ⟨rfl, by simp⟩
  exact ⟨hub, delta, after, performed, represents, drained, shows_ _ delta.chunks.nodup⟩

end GeoTrack
