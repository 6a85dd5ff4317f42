import GeoTrack.EntryFates
import GeoTrack.LabelledRuns
import GeoTrack.PositionMessages

/-!
# A replica's picture of the fleet

A gateway loads the recent positions from the table once and then lives on the
messages of the processors, which may be lost, overtake each other, or say what
the replica knows already.  Two facts carry its picture through all of that: the
table takes a report only if it is newer, so a position that was ever broadcast
is the row of its device or a row that this one replaced; and the hub takes a
position only if it is newer, so nothing it is told later undoes what it has.

Both the broadcast and the warm start read the time of a row through a double,
which loses a millisecond of some.  Of two rows that are a millisecond apart and
are sent with one time, the hub keeps the one it hears of first.
-/

open LabelledRuns

namespace GeoTrack

/-- A row as it is sent. -/
def PositionRow.item (row : PositionRow) (deviceId : DeviceId) : PositionItem :=
  ⟨deviceId, row.position.latitude, row.position.longitude, msThroughFloat row.reportedAt⟩

/-- The tables, what was put on the positions channel, and a gateway.  The rows
that batches wrote, what the gateway has been told and the cutoffs of its sweeps
are kept for the record. -/
structure ReplicaPicture where
  db : Db
  rows : List (DeviceId × PositionRow)
  channel : List Bytes
  /-- The rows of the warm start that are still to be applied. -/
  loading : List PositionItem
  intake : Intake
  told : List PositionItem
  cutoffs : List ℤ

inductive PictureEvent where
  /-- A transaction of a processor or of the API, and how many messages its
  fan-out gets through. -/
  | transaction (op : Op) (sent : ℕ)
  /-- The gateway runs the statement of the warm start, and the rows in the order
  in which they come. -/
  | query (nowMs : ℤ) (rows : List PositionItem)
  /-- The next rows are applied. -/
  | load (count : ℕ)
  /-- The warm start is over. -/
  | loaded
  | message (raw : Bytes)
  | call (call : HubCall)

namespace ReplicaPicture

/-- The rows of the warm start. -/
def recent (db : Db) (cutoff : DateTime) : List PositionItem :=
  (db.devicePositions.entries.filter fun entry => cutoff.us ≤ entry.2.reportedAt * 1000).map
    fun entry => entry.2.item entry.1

/-- The position rows that a transaction writes. -/
def written (settings : StorageSettings) (db : Db) : Op → List (DeviceId × PositionRow)
  | .batch batch =>
      (batch.reports settings db).map fun record =>
        (record.deviceId, record.positionRow batch.now)
  | _ => []

/-- What the fan-out of a transaction sends on the positions channel. -/
def broadcast (orjson : Orjson) (pg : Postgis) (settings : StorageSettings) (db : Db) :
    Op → ℕ → List Bytes
  | .batch batch, sent =>
      match batch.apply settings pg db with
      | .ok (_, result) => payloads ((publish orjson result).flatten.take sent)
      | .error _ => []
  | _, _ => []

/-- The positions of a message. -/
def itemsOf : Except PyException (List DecodedPosition) → List PositionItem
  | .ok decoded => decoded.filterMap DecodedPosition.item?
  | .error _ => []

def step (orjson : Orjson) (numerals : PyNumerals) (pg : Postgis) (settings : StorageSettings)
    (picture : ReplicaPicture) : PictureEvent → Option ReplicaPicture
  | .transaction op sent =>
      some { picture with
        db := GeoTrack.step pg settings picture.db op
        rows := picture.rows ++ written settings picture.db op
        channel := picture.channel ++ broadcast orjson pg settings picture.db op sent }
  | .query nowMs rows =>
      match fromEpochMs (nowMs - picture.intake.hub.staleAfterMs) with
      | none => none
      | some cutoff =>
          if rows.Perm (recent picture.db cutoff) then some { picture with loading := rows }
          else none
  | .load count =>
      let rows := picture.loading.take count
      some { picture with
        loading := picture.loading.drop count
        intake := { picture.intake with hub := picture.intake.hub.apply rows }
        told := picture.told ++ rows }
  | .loaded =>
      some { picture with
        intake := { picture.intake with hub := picture.intake.hub.discardPending } }
  | .message raw =>
      some { picture with
        intake := picture.intake.deliver orjson numerals raw
        told := picture.told ++ itemsOf (decodePositions orjson numerals raw) }
  | .call (.apply _) => none
  | .call (.sweep now) =>
      (picture.intake.hub.sweep? now).map fun hub =>
        { picture with
          intake := { picture.intake with hub := hub }
          cutoffs := (now - picture.intake.hub.staleAfterMs) :: picture.cutoffs }
  | .call call =>
      (call.perform picture.intake.hub).map fun hub =>
        { picture with intake := { picture.intake with hub := hub } }

/-- A system without reports, and a gateway that has heard nothing. -/
def fresh (users : KeySet Uuid) (grid : Grid) (staleAfterS : ℕ) : ReplicaPicture where
  db := Db.fresh users
  rows := []
  channel := []
  loading := []
  intake := ⟨PositionHub.fresh grid staleAfterS, 0⟩
  told := []
  cutoffs := []

end ReplicaPicture

/-- Records carry numbers that the JSON library can write, and a message on the
channel is one that was put there or one that does not decode. -/
def Plausible (orjson : Orjson) (numerals : PyNumerals) (picture : ReplicaPicture) :
    PictureEvent → Prop
  | .transaction (.batch batch) _ => ∀ record ∈ batch.records, record.acceptedItem.Writable
  | .message raw => raw ∈ picture.channel ∨ (decodePositions orjson numerals raw).isOk = false
  | _ => True

/-- The position is that of the row of its device, or of a row that this one
replaced. -/
def Version (rows : List (DeviceId × PositionRow)) (db : Db) (item : PositionItem) : Prop :=
  ∃ row held, db.devicePositions.get? item.deviceId = some row ∧ (item.deviceId, held) ∈ rows ∧
    item = held.item item.deviceId ∧ (held = row ∨ held.reportedAt < row.reportedAt)

section Tables

variable {pg : Postgis} {settings : StorageSettings} {db : Db}
  {rows : List (DeviceId × PositionRow)}

/-- A batch keeps versions versions. -/
theorem Version.outcome {item : PositionItem} (version : Version rows db item) (batch : Batch)
    (more : List (DeviceId × PositionRow)) :
    Version (rows ++ more) (batch.outcome settings pg db) item := by
  obtain ⟨row, held, stored, listed, isItem, older⟩ := version
  have stillListed := List.mem_append_left more listed
  cases isHeard : batch.heard settings db item.deviceId with
  | none =>
      exact ⟨row, held, (Batch.position_of_not_heard isHeard).trans stored, stillListed, isItem,
        older⟩
  | some record =>
      have newer := Batch.newer_of_heard isHeard stored
      have bound : held.reportedAt ≤ row.reportedAt := by
        rcases older with same | before
        · rw [same]
        · exact before.le
      exact ⟨record.positionRow batch.now, held, Batch.position_of_heard isHeard, stillListed,
        isItem, Or.inr (bound.trans_lt newer)⟩

theorem Version.committed {item : PositionItem} (version : Version rows db item) (op : Op) :
    Version (rows ++ ReplicaPicture.written settings db op) (step pg settings db op) item := by
  rcases step_cases pg settings db op with ⟨batch, rfl⟩ | ⟨noBatch, effect⟩
  · rw [step_batch]
    exact version.outcome batch _
  · have nothing : ReplicaPicture.written settings db op = [] := by
      cases op with
      | batch batch => exact absurd rfl (noBatch batch)
      | create | replace | patch | delete => rfl
    rw [nothing, List.append_nil]
    generalize step pg settings db op = after at effect
    cases effect <;> exact version

/-- The rows of the table are rows that batches wrote. -/
def WrittenRows (rows : List (DeviceId × PositionRow)) (db : Db) : Prop :=
  ∀ deviceId row, db.devicePositions.get? deviceId = some row → (deviceId, row) ∈ rows

theorem WrittenRows.committed (recorded : WrittenRows rows db) (op : Op) :
    WrittenRows (rows ++ ReplicaPicture.written settings db op) (step pg settings db op) := by
  intro deviceId row stored
  rw [List.mem_append]
  rcases step_cases pg settings db op with ⟨batch, rfl⟩ | ⟨_, effect⟩
  · rw [step_batch] at stored
    cases isHeard : batch.heard settings db deviceId with
    | none =>
        rw [Batch.position_of_not_heard isHeard] at stored
        exact Or.inl (recorded deviceId row stored)
    | some record =>
        obtain ⟨inReports, rfl⟩ := Batch.mem_of_heard isHeard
        rw [Batch.position_of_heard isHeard] at stored
        obtain rfl := Option.some.inj stored
        exact Or.inr (List.mem_map_of_mem inReports)
  · left
    generalize step pg settings db op = after at effect stored
    cases effect <;> exact recorded deviceId row stored

/-- What a batch accepts is the row of its device after the batch. -/
theorem version_of_accepted {batch : Batch} {item : PositionItem}
    (listed : item ∈ (batch.reports settings db).map LocationRecord.acceptedItem) :
    Version (rows ++ ReplicaPicture.written settings db (.batch batch))
      (batch.outcome settings pg db) item := by
  obtain ⟨record, inReports, rfl⟩ := List.mem_map.mp listed
  have isWritten : (record.deviceId, record.positionRow batch.now) ∈
      ReplicaPicture.written settings db (.batch batch) :=
    List.mem_map_of_mem inReports
  exact ⟨_, record.positionRow batch.now, Batch.position_of_heard (Batch.heard_of_mem inReports),
    List.mem_append_right _ isWritten, rfl, Or.inl rfl⟩

theorem version_of_recent (recorded : WrittenRows rows db) {cutoff : DateTime} {item : PositionItem}
    (listed : item ∈ ReplicaPicture.recent db cutoff) : Version rows db item := by
  obtain ⟨entry, kept, rfl⟩ := List.mem_map.mp listed
  have stored := Dict.mem_entries_iff.mp (List.mem_of_mem_filter kept)
  exact ⟨entry.2, entry.2, stored, recorded _ _ stored, rfl, Or.inl rfl⟩

/-- What a transaction puts on the channel, if anything, is what its batch
accepted. -/
theorem broadcast_cases {orjson : Orjson} {op : Op} {sent : ℕ} {raw : Bytes}
    (listed : raw ∈ ReplicaPicture.broadcast orjson pg settings db op sent) :
    ∃ batch, op = .batch batch ∧ raw = encodePositions orjson
      ((batch.reports settings db).map LocationRecord.acceptedItem) := by
  cases op with
  | batch batch =>
      rw [ReplicaPicture.broadcast, Batch.apply_eq] at listed
      exact ⟨batch, rfl, payloads_take_publish _ _ _ raw listed⟩
  | create | replace | patch | delete => cases listed

end Tables

namespace PositionHub

/-- The hub knows a position of the device that is no older than a time. -/
def AtLeast (hub : PositionHub) (deviceId : DeviceId) (stamp : ℤ) : Prop :=
  ∃ entry, hub.latest.get? deviceId = some entry ∧ stamp ≤ entry.item.reportedMs

theorem latest_place (hub : PositionHub) (item : PositionItem) :
    (hub.place item).latest = hub.latest.set item.deviceId ⟨item, hub.cellOfItem item⟩ := by
  simp [place, touch]

section Knowledge

variable {hub : PositionHub} {deviceId : DeviceId} {stamp : ℤ}

theorem accepts_iff (item : PositionItem) :
    hub.accepts item = true ↔ ∀ entry, hub.latest.get? item.deviceId = some entry →
      entry.item.reportedMs < item.reportedMs := by
  unfold accepts
  cases hub.latest.get? item.deviceId <;> simp

/-- One round of the loop of `apply`. -/
theorem AtLeast.taken (known : hub.AtLeast deviceId stamp) (item : PositionItem) :
    (if hub.accepts item then hub.place item else hub).AtLeast deviceId stamp := by
  split
  case isFalse => exact known
  case isTrue accepts =>
      obtain ⟨entry, found, recent⟩ := known
      rw [AtLeast, latest_place, Dict.get?_set]
      split
      case isTrue same =>
          have newer := (accepts_iff item).mp accepts entry (same ▸ found)
          exact ⟨_, rfl, recent.trans newer.le⟩
      case isFalse => exact ⟨entry, found, recent⟩

theorem atLeast_taken (item : PositionItem) :
    (if hub.accepts item then hub.place item else hub).AtLeast item.deviceId item.reportedMs := by
  split
  case isTrue =>
      rw [AtLeast, latest_place, Dict.get?_set, if_pos rfl]
      exact ⟨_, rfl, le_rfl⟩
  case isFalse refuses =>
      rw [accepts_iff] at refuses
      push Not at refuses
      exact refuses

/-- What the hub knows, it knows at least as well after a message. -/
theorem AtLeast.apply (known : hub.AtLeast deviceId stamp) (items : List PositionItem) :
    (hub.apply items).AtLeast deviceId stamp := by
  unfold PositionHub.apply
  change (items.foldl (fun current item => if current.accepts item then current.place item
    else current) hub).AtLeast deviceId stamp
  induction items generalizing hub with
  | nil => exact known
  | cons item rest ih => exact ih (known.taken item)

theorem atLeast_apply {items : List PositionItem} {item : PositionItem} (listed : item ∈ items) :
    (hub.apply items).AtLeast item.deviceId item.reportedMs := by
  induction items generalizing hub with
  | nil => cases listed
  | cons first rest ih =>
      rcases List.mem_cons.mp listed with rfl | later
      · exact (atLeast_taken item).apply rest
      · exact ih later

/-- A sweep forgets nothing that is newer than its cutoff. -/
theorem AtLeast.sweep (known : hub.AtLeast deviceId stamp) {now : ℤ}
    (young : now - hub.staleAfterMs ≤ stamp) : (hub.sweep now).AtLeast deviceId stamp := by
  obtain ⟨entry, found, recent⟩ := known
  have spared : ∀ (gone : List DeviceId) (hub : PositionHub), deviceId ∉ gone →
      hub.latest.get? deviceId = some entry →
      (gone.foldl forget hub).latest.get? deviceId = some entry := by
    intro gone
    induction gone with
    | nil => exact fun _ _ found => found
    | cons other rest ih =>
        intro hub absent found
        rw [List.mem_cons, not_or] at absent
        refine ih _ absent.2 ?_
        unfold forget
        split
        case h_1 => exact (Dict.get?_erase ..).trans ((if_neg absent.1).trans found)
        case h_2 => exact found
  refine ⟨entry, spared _ hub ?_ found, recent⟩
  intro listed
  obtain ⟨stale, kept, same⟩ := List.mem_map.mp listed
  obtain ⟨there, old⟩ := List.mem_filter.mp kept
  have isEntry : hub.latest.get? deviceId = some stale.2 := by
    rw [← same]
    exact Dict.mem_entries_iff.mp there
  obtain rfl := Option.some.inj (found.symm.trans isEntry)
  rw [decide_eq_true_eq] at old
  omega

end Knowledge

end PositionHub

namespace ReplicaPicture

theorem itemsOf_decoded (items : List PositionItem) :
    itemsOf (.ok (items.map PositionItem.decoded)) = items := by
  rw [itemsOf, List.filterMap_map]
  exact List.filterMap_some

/-- The channel and the hub carry versions of the table's rows, and the hub has
what it was told and has not swept. -/
structure Sound (orjson : Orjson) (picture : ReplicaPicture) : Prop where
  recorded : WrittenRows picture.rows picture.db
  hub : picture.intake.hub.Sound
  holds : picture.intake.hub.Holds (Version picture.rows picture.db)
  channel : ∀ raw ∈ picture.channel, ∃ items, raw = encodePositions orjson items ∧
    ∀ item ∈ items, item.Writable ∧ Version picture.rows picture.db item
  loading : ∀ item ∈ picture.loading, Version picture.rows picture.db item
  told : ∀ item ∈ picture.told, (∀ cutoff ∈ picture.cutoffs, cutoff ≤ item.reportedMs) →
    picture.intake.hub.AtLeast item.deviceId item.reportedMs

section Steps

variable {orjson : Orjson} {numerals : PyNumerals} {pg : Postgis} {settings : StorageSettings}
  {picture : ReplicaPicture}

theorem Sound.transaction (sound : picture.Sound orjson) (op : Op) (sent : ℕ)
    (credible : Plausible orjson numerals picture (.transaction op sent)) :
    ({ picture with
        db := GeoTrack.step pg settings picture.db op
        rows := picture.rows ++ written settings picture.db op
        channel := picture.channel ++ broadcast orjson pg settings picture.db op sent } :
      ReplicaPicture).Sound orjson := by
  refine ⟨sound.recorded.committed op, sound.hub, ?holds, ?channel, ?loading, sound.told⟩
  case holds =>
      exact fun deviceId entry known => (sound.holds deviceId entry known).committed op
  case channel =>
      intro raw listed
      rcases List.mem_append.mp listed with before | now
      · obtain ⟨items, same, all⟩ := sound.channel raw before
        exact ⟨items, same, fun item isItem => ⟨(all item isItem).1, (all item isItem).2.committed op⟩⟩
      · obtain ⟨batch, rfl, same⟩ := broadcast_cases now
        refine ⟨_, same, fun item isItem => ⟨?_, ?_⟩⟩
        · obtain ⟨record, inReports, rfl⟩ := List.mem_map.mp isItem
          have storable := latestPerDevice_subset (List.mem_filter.mp inReports).1
          exact credible record (mem_splitStorable_fst.mp storable).1
        · dsimp only
          rw [step_batch]
          exact version_of_accepted isItem
  case loading => exact fun item listed => (sound.loading item listed).committed op

/-- The hub applies positions that are versions. -/
theorem Sound.applies (sound : picture.Sound orjson) {items : List PositionItem} (dropped : ℕ)
    {loading : List PositionItem}
    (versions : ∀ item ∈ items, Version picture.rows picture.db item)
    (rest : ∀ item ∈ loading, Version picture.rows picture.db item) :
    ({ picture with
        loading := loading
        intake := ⟨picture.intake.hub.apply items, dropped⟩
        told := picture.told ++ items } : ReplicaPicture).Sound orjson := by
  refine ⟨sound.recorded, sound.hub.apply items, sound.holds.apply versions, sound.channel, rest,
    ?_⟩
  intro item listed young
  rcases List.mem_append.mp listed with before | now
  · exact (sound.told item before young).apply items
  · exact PositionHub.atLeast_apply now

/-- A call that is no news to the hub leaves what it knows alone. -/
theorem Sound.calls (sound : picture.Sound orjson) {hub : PositionHub} (soundAfter : hub.Sound)
    (same : hub.latest = picture.intake.hub.latest) :
    ({ picture with intake := { picture.intake with hub := hub } } : ReplicaPicture).Sound
      orjson := by
  refine ⟨sound.recorded, soundAfter, ?holds, sound.channel, sound.loading, ?told⟩
  case holds =>
      intro deviceId entry known
      rw [same] at known
      exact sound.holds deviceId entry known
  case told =>
      intro item listed young
      obtain ⟨entry, found, recent⟩ := sound.told item listed young
      exact ⟨entry, same ▸ found, recent⟩

theorem Sound.sweep (sound : picture.Sound orjson) (now : ℤ) :
    ({ picture with
        intake := { picture.intake with hub := picture.intake.hub.sweep now }
        cutoffs := (now - picture.intake.hub.staleAfterMs) :: picture.cutoffs } :
      ReplicaPicture).Sound orjson := by
  refine ⟨sound.recorded, sound.hub.sweep now, sound.holds.sweep now, sound.channel,
    sound.loading, ?_⟩
  intro item listed young
  have known := sound.told item listed fun cutoff isCutoff =>
    young cutoff (List.mem_cons_of_mem _ isCutoff)
  exact known.sweep (young _ (List.mem_cons_self ..))

/-- Serving the clients leaves the picture as it is. -/
theorem latest_of_perform {hub after : PositionHub} (sound : hub.Sound) {call : HubCall}
    (performed : call.perform hub = some after) (serving : call.items = [])
    (noSweep : ∀ now, call ≠ .sweep now) : after.latest = hub.latest := by
  cases call with
  | apply items =>
      obtain rfl : items = [] := serving
      obtain rfl := Option.some.inj performed
      rfl
  | sweep now => exact absurd rfl (noSweep now)
  | drain tMs =>
      obtain ⟨delta, drained, -⟩ := sound.drain tMs
      have performed : (hub.drain tMs).map Prod.snd = some after := performed
      rw [drained] at performed
      obtain rfl := Option.some.inj performed
      rfl
  | discardPending =>
      obtain rfl := Option.some.inj performed
      rfl
  | snapshotChunks rects =>
      obtain ⟨chunks, snapshots, taken, -⟩ := sound.snapshotChunks rects
      have performed : (hub.snapshotChunks rects).map Prod.snd = some after := performed
      rw [taken] at performed
      obtain rfl := Option.some.inj performed
      rfl

theorem Sound.step (reads : orjson.ReadsPositions) (sound : picture.Sound orjson)
    {event : PictureEvent} {after : ReplicaPicture}
    (credible : Plausible orjson numerals picture event)
    (stepTo : picture.step orjson numerals pg settings event = some after) :
    after.Sound orjson := by
  cases event with
  | transaction op sent =>
      obtain rfl := Option.some.inj stepTo
      exact sound.transaction op sent credible
  | query nowMs rows =>
      unfold ReplicaPicture.step at stepTo
      dsimp only at stepTo
      split at stepTo
      case h_1 => cases stepTo
      case h_2 cutoff _ =>
          rw [Option.ite_none_right_eq_some] at stepTo
          obtain ⟨perm, same⟩ := stepTo
          obtain rfl := Option.some.inj same
          exact ⟨sound.recorded, sound.hub, sound.holds, sound.channel,
            fun item listed => version_of_recent sound.recorded (perm.mem_iff.mp listed),
            sound.told⟩
  | load count =>
      obtain rfl := Option.some.inj stepTo
      exact sound.applies _ (fun item listed => sound.loading item (List.mem_of_mem_take listed))
        fun item listed => sound.loading item (List.mem_of_mem_drop listed)
  | loaded =>
      obtain rfl := Option.some.inj stepTo
      exact sound.calls sound.hub.discardPending rfl
  | message raw =>
      obtain rfl := Option.some.inj stepTo
      rcases credible with listed | garbage
      · obtain ⟨items, rfl, all⟩ := sound.channel raw listed
        have writable := fun item isItem => (all item isItem).1
        rw [Intake.deliver_encodePositions reads _ writable,
          decodePositions_encodePositions reads writable, itemsOf_decoded]
        exact sound.applies _ (fun item isItem => (all item isItem).2) sound.loading
      · unfold Intake.deliver
        cases decoded : decodePositions orjson numerals raw with
        | ok items => simp [decoded, Except.isOk, Except.toBool] at garbage
        | error raised =>
            rw [itemsOf, List.append_nil]
            exact ⟨sound.recorded, sound.hub, sound.holds, sound.channel, sound.loading,
              sound.told⟩
  | call call =>
      cases call with
      | apply => cases stepTo
      | sweep now =>
          rw [ReplicaPicture.step, PositionHub.sweep?_eq] at stepTo
          obtain rfl := Option.some.inj stepTo
          exact sound.sweep now
      | drain | discardPending | snapshotChunks =>
          unfold ReplicaPicture.step at stepTo
          obtain ⟨hub, performed, rfl⟩ := Option.map_eq_some_iff.mp stepTo
          exact sound.calls (HubCall.sound_perform sound.hub performed)
            (latest_of_perform sound.hub performed rfl nofun)

theorem sound_fresh (users : KeySet Uuid) (grid : Grid) (staleAfterS : ℕ) :
    (fresh users grid staleAfterS).Sound orjson :=
  ⟨fun _ _ stored => (by cases stored), PositionHub.sound_fresh grid staleAfterS,
    fun _ _ known => (by cases known), fun _ listed => (by cases listed),
    fun _ listed => (by cases listed), fun _ listed => (by cases listed)⟩

end Steps

end ReplicaPicture

/-- Whatever is lost, repeated, garbled or overtaken, and whenever the replica
starts: what it shows of a device is the row of the table or a row that this one
replaced.  As soon as the replica has been told the row of the table, by the warm
start or by a message, and no sweep has found it too old, it shows this row, or the
one of the millisecond before where both are sent with the same time. -/
theorem replica_mirrors_table {orjson : Orjson} (reads : orjson.ReadsPositions)
    {numerals : PyNumerals} {pg : Postgis} {settings : StorageSettings} {users : KeySet Uuid}
    {grid : Grid} {staleAfterS : ℕ} {events : List PictureEvent} {picture : ReplicaPicture}
    (run : Run (ReplicaPicture.step orjson numerals pg settings) (Plausible orjson numerals)
      (ReplicaPicture.fresh users grid staleAfterS) events picture) :
    (∀ deviceId entry, picture.intake.hub.latest.get? deviceId = some entry →
      ∃ row held, picture.db.devicePositions.get? deviceId = some row ∧
        (deviceId, held) ∈ picture.rows ∧ entry.item = held.item deviceId ∧
        (held = row ∨ held.reportedAt < row.reportedAt)) ∧
      ∀ deviceId row, picture.db.devicePositions.get? deviceId = some row →
        row.item deviceId ∈ picture.told →
        (∀ cutoff ∈ picture.cutoffs, cutoff ≤ msThroughFloat row.reportedAt) →
        ∃ entry held, picture.intake.hub.latest.get? deviceId = some entry ∧
          (deviceId, held) ∈ picture.rows ∧ entry.item = held.item deviceId ∧
          (held = row ∨ held.reportedAt + 1 = row.reportedAt ∧
            msThroughFloat held.reportedAt = msThroughFloat row.reportedAt) := by
  have sound : picture.Sound orjson :=
    run.invariant (ReplicaPicture.sound_fresh users grid staleAfterS)
      fun _ _ _ before credible stepTo => before.step reads credible stepTo
  have shown : ∀ deviceId entry, picture.intake.hub.latest.get? deviceId = some entry →
      ∃ row held, picture.db.devicePositions.get? deviceId = some row ∧
        (deviceId, held) ∈ picture.rows ∧ entry.item = held.item deviceId ∧
        (held = row ∨ held.reportedAt < row.reportedAt) := by
    intro deviceId entry known
    obtain ⟨rfl, -⟩ := (sound.hub.devices deviceId).located entry known
    exact sound.holds _ entry known
  refine ⟨shown, ?_⟩
  intro deviceId row stored told young
  obtain ⟨entry, known, recent⟩ := sound.told _ told young
  obtain ⟨current, held, isCurrent, listed, isItem, older⟩ := shown deviceId entry known
  obtain rfl := Option.some.inj (stored.symm.trans isCurrent)
  refine ⟨entry, held, known, listed, isItem, older.imp_right fun before => ?_⟩
  -- The hub has the time the row is sent with, and an older row is sent with no later one.
  rw [isItem] at recent
  have alike : msThroughFloat held.reportedAt = msThroughFloat row.reportedAt :=
    le_antisymm (msThroughFloat_le_msThroughFloat before.le) recent
  exact ⟨(eq_add_one_of_msThroughFloat_eq before alike).symm, alike⟩

section Relay

/-- Positions can be numbered. -/
noncomputable instance : Encodable PositionItem :=
  Encodable.ofInj (fun item => (⟨item.deviceId, item.latitude, item.longitude, item.reportedMs, 0⟩ :
    LocationRecord)) (by
      rintro ⟨device, latitude, longitude, reportedMs⟩ ⟨device', latitude', longitude', reportedMs'⟩ same
      simpa using same)

def busRecord : LocationRecord := ⟨"bus", 52, 13, 1000, 1000⟩

/-- The bytes of `{"items":[["bus",52.0,13.0,1000]]}`, with the braces. -/
def busMessage : Bytes :=
  [123, 34, 105, 116, 101, 109, 115, 34, 58, 91, 91, 34, 98, 117, 115, 34, 44, 53, 50, 46, 48, 44,
    49, 51, 46, 48, 44, 49, 48, 48, 48, 93, 93, 125]

def itemOf : Json → Option PositionItem
  | .arr [.str deviceId, .float (.finite latitude), .float (.finite longitude), .int reportedMs] =>
      some ⟨deviceId, latitude, longitude, reportedMs⟩
  | _ => none

/-- A library that spells one message out and numbers the others. -/
noncomputable def relay : Orjson where
  dumps
    | .obj [("items", .arr items)] =>
        match items.mapM itemOf with
        | some items =>
            if items = [busRecord.acceptedItem] then busMessage
            else List.replicate (Encodable.encode items) 0
        | none => []
    | _ => []
  loads raw :=
    if raw = busMessage then .ok (positionsDocument [busRecord.acceptedItem])
    else
      match (Encodable.decode raw.length : Option (List PositionItem)) with
      | some items => .ok (positionsDocument items)
      | none => .error "unexpected character: line 1 column 1 (char 0)"

theorem mapM_itemOf (items : List PositionItem) :
    (items.map PositionItem.json).mapM itemOf = some items := by
  induction items with
  | nil => rfl
  | cons item rest ih =>
      rw [List.map_cons, List.mapM_cons, ih]
      rfl

theorem relay_readsPositions : relay.ReadsPositions := by
  intro items _
  have dumped : encodePositions relay items =
      if items = [busRecord.acceptedItem] then busMessage
      else List.replicate (Encodable.encode items) 0 := by
    simp only [encodePositions, positionsDocument, relay, mapM_itemOf]
  rw [dumped]
  by_cases bus : items = [busRecord.acceptedItem]
  · rw [if_pos bus, bus]
    simp only [relay, if_true]
  · rw [if_neg bus]
    have other : List.replicate (Encodable.encode items) (0 : UInt8) ≠ busMessage := by
      intro same
      have first : (123 : UInt8) ∈ List.replicate (Encodable.encode items) (0 : UInt8) := by
        rw [same]
        exact List.mem_cons_self ..
      exact absurd (List.eq_of_mem_replicate first) (by decide)
    simp only [relay, if_neg other, List.length_replicate, Encodable.encodek]

/-- Numerals that are no texts. -/
def noNumerals : PyNumerals := ⟨fun _ => none, fun _ => none⟩

/-- A report of the bus is stored and broadcast, and a gateway hears of it. -/
theorem replica_mirrors_table_bus :
    ∃ picture : ReplicaPicture,
      Run (ReplicaPicture.step relay noNumerals .tangentPlane ⟨7, 30⟩) (Plausible relay noNumerals)
        (ReplicaPicture.fresh ∅ .standard 60)
        [.transaction (.batch ⟨1000, 1000, [busRecord]⟩) 1, .message busMessage] picture ∧
      ∃ entry, picture.intake.hub.latest.get? "bus" = some entry ∧
        entry.item = busRecord.acceptedItem := by
  have accepted : Batch.reports ⟨7, 30⟩ (Db.fresh ∅) ⟨1000, 1000, [busRecord]⟩ = [busRecord] := by
    decide +kernel
  have writable : busRecord.acceptedItem.Writable :=
    ⟨by decide +kernel, by decide +kernel, by decide +kernel⟩
  have dumped : encodePositions relay [busRecord.acceptedItem] = busMessage := by
    simp only [encodePositions, positionsDocument, relay, mapM_itemOf, if_true]
  have sent : ReplicaPicture.broadcast relay .tangentPlane ⟨7, 30⟩ (Db.fresh ∅)
      (.batch ⟨1000, 1000, [busRecord]⟩) 1 = [busMessage] := by
    simp [ReplicaPicture.broadcast, Batch.apply_eq, accepted, flatten_publish, payloads, dumped]
  have first : Run (ReplicaPicture.step relay noNumerals .tangentPlane ⟨7, 30⟩)
      (Plausible relay noNumerals) (ReplicaPicture.fresh ∅ .standard 60)
      [.transaction (.batch ⟨1000, 1000, [busRecord]⟩) 1] _ :=
    Run.nil.snoc (by simpa [Plausible] using writable) rfl
  have heard : busMessage ∈ [] ++ ReplicaPicture.broadcast relay .tangentPlane ⟨7, 30⟩
      (Db.fresh ∅) (.batch ⟨1000, 1000, [busRecord]⟩) 1 := by
    rw [sent]
    exact List.mem_singleton_self _
  have second : Run (ReplicaPicture.step relay noNumerals .tangentPlane ⟨7, 30⟩)
      (Plausible relay noNumerals) (ReplicaPicture.fresh ∅ .standard 60)
      [.transaction (.batch ⟨1000, 1000, [busRecord]⟩) 1, .message busMessage] _ :=
    first.snoc (Or.inl heard) rfl
  have stored : (step .tangentPlane ⟨7, 30⟩ (Db.fresh ∅)
      (.batch ⟨1000, 1000, [busRecord]⟩)).devicePositions.get? "bus" =
      some (busRecord.positionRow 1000) := by
    decide +kernel
  have told : busRecord.acceptedItem ∈ [] ++
      ReplicaPicture.itemsOf (decodePositions relay noNumerals busMessage) := by
    rw [← dumped, decodePositions_encodePositions relay_readsPositions (by simpa using writable),
      ReplicaPicture.itemsOf_decoded]
    exact List.mem_singleton_self _
  obtain ⟨entry, held, known, -, isItem, sameRow | ⟨before, alike⟩⟩ :=
    (replica_mirrors_table relay_readsPositions second).2 "bus" (busRecord.positionRow 1000) stored
      told (fun _ listed => by cases listed)
  · exact ⟨_, second, entry, known, by rw [isItem, sameRow]; rfl⟩
  · obtain earlier : held.reportedAt = 999 := by
      have before : held.reportedAt + 1 = 1000 := before
      omega
    rw [earlier] at alike
    exact absurd alike (by decide +kernel)

end Relay

end GeoTrack
