import GeoTrack.AlertHistory
import GeoTrack.IngestReports

/-!
# Batches of different shards commute

A batch reads and writes rows of its own devices only: the reports it accepts
depend on their stored positions, a transition on the presence row of its own
pair, and the zones are left alone.  Two batches without a common device
therefore give the same tables in either order.

Two things do depend on the order and are left out of the comparison: the
numbers of the alerts, and the columns filled from the server's clock.
-/

namespace GeoTrack

/-- A position row without the time of its last update. -/
def PositionRow.report (row : PositionRow) : Point × ℤ × ℤ :=
  (row.position, row.reportedAt, row.receivedAt)

/-- An alert without the time of its insertion. -/
def AlertBody.event (alert : AlertBody) : AlertBody := { alert with createdAt := 0 }

/-- The alerts of a database without numbers and insertion times. -/
def Db.alertEvents (db : Db) : List AlertBody := db.alerts.map fun alert => alert.event

/-- The same rows in every table that batches write, apart from alert numbers
and the server's clock. -/
structure SameRows (one two : Db) : Prop where
  positions : ∀ device, (one.devicePositions.get? device).map PositionRow.report =
    (two.devicePositions.get? device).map PositionRow.report
  presence : ∀ pair, one.zonePresence.get? pair = two.zonePresence.get? pair
  history : ∀ key, one.locationHistory.get? key = two.locationHistory.get? key
  alerts : one.alertEvents.Perm two.alertEvents

namespace Batch

/-- The batch carries a report of the device. -/
def Mentions (batch : Batch) (device : DeviceId) : Prop :=
  ∃ record ∈ batch.records, record.deviceId = device

/-- The same batch in a transaction that starts at another time. -/
def startedAt (batch : Batch) (now : ℤ) : Batch := { batch with now := now }

end Batch

/-- All a batch over these devices gets to see is the same. -/
structure AgreeOn (devices : DeviceId → Prop) (one two : Db) : Prop where
  geozones : one.geozones = two.geozones
  positions : ∀ device, devices device → (one.devicePositions.get? device).map PositionRow.report =
    (two.devicePositions.get? device).map PositionRow.report
  presence : ∀ zoneId device, devices device →
    one.zonePresence.get? (zoneId, device) = two.zonePresence.get? (zoneId, device)

section Locality

variable {pg : Postgis} {settings : StorageSettings} {db one two : Db} {batch : Batch}

theorem Batch.mentions_of_mem {record : LocationRecord}
    (listed : record ∈ batch.storable settings) : batch.Mentions record.deviceId :=
  ⟨record, (mem_splitStorable_fst.mp listed).1, rfl⟩

theorem Batch.mentions_of_report {record : LocationRecord}
    (listed : record ∈ batch.reports settings db) : batch.Mentions record.deviceId :=
  Batch.mentions_of_mem (latestPerDevice_subset (List.mem_filter.mp listed).1)

theorem Batch.not_heard {device : DeviceId} (unmentioned : ¬ batch.Mentions device) :
    batch.heard settings db device = none := by
  cases isHeard : batch.heard settings db device with
  | none => rfl
  | some record =>
      obtain ⟨listed, rfl⟩ := Batch.mem_of_heard isHeard
      exact absurd (Batch.mentions_of_report listed) unmentioned

/-- A batch leaves the rows of all other devices alone. -/
theorem Batch.agreeOn_outcome :
    AgreeOn (fun device => ¬ batch.Mentions device) db (batch.outcome settings pg db) where
  geozones := rfl
  positions _ unmentioned := by rw [Batch.position_of_not_heard (Batch.not_heard unmentioned)]
  presence zoneId _ unmentioned :=
    (Batch.presence_of_not_heard (Batch.not_heard unmentioned) zoneId).symm

theorem AgreeOn.mono {devices fewer : DeviceId → Prop} (agree : AgreeOn devices one two)
    (within : ∀ device, fewer device → devices device) : AgreeOn fewer one two where
  geozones := agree.geozones
  positions device isOne := agree.positions device (within device isOne)
  presence zoneId device isOne := agree.presence zoneId device (within device isOne)

theorem AgreeOn.supersedes_eq {devices : DeviceId → Prop} (agree : AgreeOn devices one two)
    {record : LocationRecord} (isOne : devices record.deviceId) :
    supersedes one.devicePositions record = supersedes two.devicePositions record := by
  have same := agree.positions record.deviceId isOne
  unfold supersedes
  cases first : one.devicePositions.get? record.deviceId <;>
    cases second : two.devicePositions.get? record.deviceId <;>
    simp_all [PositionRow.report]

variable (agree : AgreeOn batch.Mentions one two)

include agree

theorem AgreeOn.reports_eq : batch.reports settings one = batch.reports settings two := by
  apply List.filter_congr
  intro record listed
  exact agree.supersedes_eq (Batch.mentions_of_mem (latestPerDevice_subset listed))

theorem AgreeOn.heard_eq (device : DeviceId) :
    batch.heard settings one device = batch.heard settings two device := by
  rw [Batch.heard, Batch.heard, agree.reports_eq]

theorem AgreeOn.transitionOf_eq {record : LocationRecord}
    (mentioned : batch.Mentions record.deviceId) (zoneId : Uuid) (zone : ZoneRow) :
    transitionOf pg one.zonePresence record zoneId zone =
      transitionOf pg two.zonePresence record zoneId zone := by
  unfold transitionOf insideTransition
  rw [agree.presence zoneId record.deviceId mentioned]

/-- The joins run over other rows too, but find the same transitions. -/
theorem AgreeOn.transitions_perm :
    (transitions pg one (batch.reports settings one)).Perm
      (transitions pg two (batch.reports settings two)) := by
  have distinct := @Batch.nodup_reports settings one batch
  rw [← agree.reports_eq]
  rw [List.perm_ext_iff_of_nodup (nodup_transitions pg one distinct).of_map
    (nodup_transitions pg two distinct).of_map]
  intro transition
  rw [mem_transitions pg distinct, mem_transitions pg distinct, agree.geozones]
  apply exists_congr
  intro record
  rw [and_congr_right_iff]
  intro listed
  simp only [agree.transitionOf_eq (Batch.mentions_of_report listed)]

/-- The batch raises the same alerts, whenever it runs. -/
theorem AgreeOn.raised_perm (now : ℤ) :
    ((batch.raised settings pg one).map fun alert => alert.event).Perm
      (((batch.startedAt now).raised settings pg two).map fun alert => alert.event) := by
  have events : ∀ (start : ℤ) (db : Db),
      (((batch.startedAt start).raised settings pg db).map fun alert => alert.event).Perm
        ((transitions pg db (batch.reports settings db)).filterMap fun transition =>
          transition.kind.map (transition.alertBody 0)) := by
    intro start db
    have bodies := map_body_numberAlerts db.nextAlertId
      (batchWrites pg start db (batch.reports settings db)).alerts
    have sorted := (List.perm_insertionSort (alertOrder pg)
      ((transitions pg db (batch.reports settings db)).filterMap fun transition =>
        transition.kind.map (transition.alertBody start))).map AlertBody.event
    rw [List.map_filterMap] at sorted
    have same : ((batch.startedAt start).raised settings pg db).map (fun alert => alert.event) =
        (batchWrites pg start db (batch.reports settings db)).alerts.map AlertBody.event := by
      rw [← bodies, List.map_map]
      rfl
    rw [same]
    refine sorted.trans (List.Perm.of_eq ?_)
    apply List.filterMap_congr
    intro transition _
    cases transition.kind <;> rfl
  have here := events batch.now one
  have there := events now two
  exact here.trans ((agree.transitions_perm.filterMap _).trans there.symm)

theorem AgreeOn.position_outcome (now : ℤ) {device : DeviceId}
    (mentioned : batch.Mentions device) :
    ((batch.outcome settings pg one).devicePositions.get? device).map PositionRow.report =
      (((batch.startedAt now).outcome settings pg two).devicePositions.get? device).map
        PositionRow.report := by
  have same : (batch.startedAt now).heard settings two device =
      batch.heard settings one device := (agree.heard_eq device).symm
  cases isHeard : batch.heard settings one device with
  | none =>
      rw [isHeard] at same
      rw [Batch.position_of_not_heard isHeard, Batch.position_of_not_heard same]
      exact agree.positions device mentioned
  | some record =>
      rw [isHeard] at same
      rw [Batch.position_of_heard isHeard, Batch.position_of_heard same]
      rfl

theorem AgreeOn.presence_outcome (now : ℤ) (zoneId : Uuid) {device : DeviceId}
    (mentioned : batch.Mentions device) :
    (batch.outcome settings pg one).zonePresence.get? (zoneId, device) =
      ((batch.startedAt now).outcome settings pg two).zonePresence.get? (zoneId, device) := by
  have same : (batch.startedAt now).heard settings two device =
      batch.heard settings one device := (agree.heard_eq device).symm
  have known := agree.presence zoneId device mentioned
  cases isHeard : batch.heard settings one device with
  | none =>
      rw [isHeard] at same
      rw [Batch.presence_of_not_heard isHeard, Batch.presence_of_not_heard same]
      exact known
  | some record =>
      rw [isHeard] at same
      cases stored : one.geozones.get? zoneId with
      | none =>
          rw [Batch.presence_of_unstored device stored,
            Batch.presence_of_unstored device (agree.geozones ▸ stored)]
          exact known
      | some zone =>
          rw [Batch.presence_of_heard isHeard stored,
            Batch.presence_of_heard same (agree.geozones ▸ stored)]
          obtain ⟨_, rfl⟩ := Batch.mem_of_heard isHeard
          simp only [presenceRow, insideTransition, Transition.key, known]

end Locality

section Diamond

variable {pg : Postgis} {settings : StorageSettings} {db : Db} {first second : Batch}

/-- What a device gets from the two batches comes from the one that mentions
it, so nothing that belongs to one device depends on the order. -/
theorem commutes_of_local {α : Type} (view : Db → α) (device : DeviceId)
    (kept : ∀ (db : Db) (batch : Batch), ¬ batch.Mentions device →
      view (batch.outcome settings pg db) = view db)
    (decided : ∀ (one two : Db) (batch : Batch) (now : ℤ), AgreeOn batch.Mentions one two →
      batch.Mentions device →
      view (batch.outcome settings pg one) = view ((batch.startedAt now).outcome settings pg two))
    (firstLater secondEarlier : ℤ)
    (disjoint : ∀ device, first.Mentions device → ¬ second.Mentions device) :
    view (second.outcome settings pg (first.outcome settings pg db)) =
      view ((first.startedAt firstLater).outcome settings pg
        ((second.startedAt secondEarlier).outcome settings pg db)) := by
  by_cases mentioned : first.Mentions device
  · have agree : AgreeOn first.Mentions db
        ((second.startedAt secondEarlier).outcome settings pg db) :=
      Batch.agreeOn_outcome.mono disjoint
    calc
      view (second.outcome settings pg (first.outcome settings pg db)) =
          view (first.outcome settings pg db) := kept _ second (disjoint device mentioned)
      _ = view ((first.startedAt firstLater).outcome settings pg
            ((second.startedAt secondEarlier).outcome settings pg db)) :=
          decided _ _ first firstLater agree mentioned
  · rw [kept _ (first.startedAt firstLater) mentioned]
    by_cases mentionedToo : second.Mentions device
    · have agree : AgreeOn (second.startedAt secondEarlier).Mentions db
          (first.outcome settings pg db) :=
        Batch.agreeOn_outcome.mono fun other isSecond isFirst => disjoint other isFirst isSecond
      exact (decided _ _ (second.startedAt secondEarlier) second.now agree mentionedToo).symm
    · rw [kept _ second mentionedToo, kept _ first mentioned,
        kept _ (second.startedAt secondEarlier) mentionedToo]

theorem position_commutes (firstLater secondEarlier : ℤ)
    (disjoint : ∀ device, first.Mentions device → ¬ second.Mentions device) (device : DeviceId) :
    ((second.outcome settings pg (first.outcome settings pg db)).devicePositions.get? device).map
        PositionRow.report =
      (((first.startedAt firstLater).outcome settings pg
        ((second.startedAt secondEarlier).outcome settings pg db)).devicePositions.get? device).map
        PositionRow.report := by
  refine commutes_of_local (fun db => (db.devicePositions.get? device).map PositionRow.report)
    device ?_ ?_ firstLater secondEarlier disjoint
  · intro db batch unmentioned
    rw [Batch.position_of_not_heard (Batch.not_heard unmentioned)]
  · intro one two batch now agree mentioned
    exact agree.position_outcome now mentioned

theorem presence_commutes (firstLater secondEarlier : ℤ)
    (disjoint : ∀ device, first.Mentions device → ¬ second.Mentions device)
    (pair : Uuid × DeviceId) :
    (second.outcome settings pg (first.outcome settings pg db)).zonePresence.get? pair =
      ((first.startedAt firstLater).outcome settings pg
        ((second.startedAt secondEarlier).outcome settings pg db)).zonePresence.get? pair := by
  obtain ⟨zoneId, device⟩ := pair
  refine commutes_of_local (fun db => db.zonePresence.get? (zoneId, device)) device ?_ ?_
    firstLater secondEarlier disjoint
  · intro db batch unmentioned
    exact Batch.presence_of_not_heard (Batch.not_heard unmentioned) zoneId
  · intro one two batch now agree mentioned
    exact agree.presence_outcome now zoneId mentioned

theorem history_commutes (firstLater secondEarlier : ℤ)
    (disjoint : ∀ device, first.Mentions device → ¬ second.Mentions device)
    (key : DeviceId × ℤ) :
    (second.outcome settings pg (first.outcome settings pg db)).locationHistory.get? key =
      ((first.startedAt firstLater).outcome settings pg
        ((second.startedAt secondEarlier).outcome settings pg db)).locationHistory.get? key := by
  have archives : ∀ (batch : Batch) (row : HistoryRow),
      Dict.lookupKey key ((batch.storable settings).map LocationRecord.historyEntry) = some row →
      batch.Mentions key.1 := by
    intro batch row found
    obtain ⟨record, listed, entry⟩ := List.mem_map.mp (Dict.mem_of_lookupKey found)
    have sameDevice : record.deviceId = key.1 := congrArg (fun pair => pair.1.1) entry
    exact sameDevice ▸ Batch.mentions_of_mem listed
  simp only [Batch.history_outcome]
  change ((db.locationHistory.get? key).or (Dict.lookupKey key
      ((first.storable settings).map LocationRecord.historyEntry))).or (Dict.lookupKey key
      ((second.storable settings).map LocationRecord.historyEntry)) =
    ((db.locationHistory.get? key).or (Dict.lookupKey key
      ((second.storable settings).map LocationRecord.historyEntry))).or (Dict.lookupKey key
      ((first.storable settings).map LocationRecord.historyEntry))
  cases mine : Dict.lookupKey key ((first.storable settings).map LocationRecord.historyEntry) with
  | none => simp
  | some row =>
      cases theirs : Dict.lookupKey key
          ((second.storable settings).map LocationRecord.historyEntry) with
      | none => simp
      | some other =>
          exact absurd (archives second other theirs) (disjoint _ (archives first row mine))

theorem alertEvents_outcome (batch : Batch) :
    (batch.outcome settings pg db).alertEvents =
      db.alertEvents ++ (batch.raised settings pg db).map fun alert => alert.event := by
  rw [Db.alertEvents, Batch.alerts_outcome, List.map_append]
  rfl

theorem alerts_commute (firstLater secondEarlier : ℤ)
    (disjoint : ∀ device, first.Mentions device → ¬ second.Mentions device) :
    (second.outcome settings pg (first.outcome settings pg db)).alertEvents.Perm
      ((first.startedAt firstLater).outcome settings pg
        ((second.startedAt secondEarlier).outcome settings pg db)).alertEvents := by
  have behindFirst : AgreeOn (second.startedAt secondEarlier).Mentions db
      (first.outcome settings pg db) :=
    Batch.agreeOn_outcome.mono fun device isSecond isFirst => disjoint device isFirst isSecond
  have behindSecond : AgreeOn first.Mentions db
      ((second.startedAt secondEarlier).outcome settings pg db) :=
    Batch.agreeOn_outcome.mono disjoint
  have ofFirst := @AgreeOn.raised_perm pg settings _ _ first behindSecond firstLater
  have ofSecond := @AgreeOn.raised_perm pg settings _ _ _ behindFirst second.now
  simp only [alertEvents_outcome, List.append_assoc]
  apply List.Perm.append_left
  exact (ofFirst.append ofSecond.symm).trans List.perm_append_comm

/-- Batches read from the streams of different shards have no common device. -/
theorem disjoint_of_shards {shards firstShard secondShard : ℕ} (different : firstShard ≠ secondShard)
    (ofFirst : ∀ record ∈ first.records, shardFor record.deviceId shards = firstShard)
    (ofSecond : ∀ record ∈ second.records, shardFor record.deviceId shards = secondShard) :
    ∀ device, first.Mentions device → ¬ second.Mentions device := by
  rintro _ ⟨record, listed, rfl⟩ ⟨other, otherListed, sameDevice⟩
  apply different
  rw [← ofFirst record listed, ← ofSecond other otherListed, sameDevice]

end Diamond

/-- Two batches without a common device can be applied in either order, each at
whatever time its transaction starts: both succeed, accept the same positions
and leave the same rows behind. -/
theorem disjoint_batches_commute (pg : Postgis) (settings : StorageSettings) (db : Db)
    (first second : Batch) (firstLater secondEarlier : ℤ)
    (disjoint : ∀ device, first.Mentions device → ¬ second.Mentions device) :
    ∃ afterFirst afterBoth firstResult secondResult,
      first.apply settings pg db = .ok (afterFirst, firstResult) ∧
      second.apply settings pg afterFirst = .ok (afterBoth, secondResult) ∧
    ∃ afterSecond afterAll secondEarlierResult firstLaterResult,
      (second.startedAt secondEarlier).apply settings pg db =
        .ok (afterSecond, secondEarlierResult) ∧
      (first.startedAt firstLater).apply settings pg afterSecond =
        .ok (afterAll, firstLaterResult) ∧
      SameRows afterBoth afterAll ∧
      firstResult.accepted = firstLaterResult.accepted ∧
      secondResult.accepted = secondEarlierResult.accepted := by
  refine ⟨_, _, _, _, Batch.apply_eq, Batch.apply_eq, _, _, _, _, Batch.apply_eq, Batch.apply_eq,
    ?_, ?_, ?_⟩
  · exact ⟨position_commutes firstLater secondEarlier disjoint,
      presence_commutes firstLater secondEarlier disjoint,
      history_commutes firstLater secondEarlier disjoint,
      alerts_commute firstLater secondEarlier disjoint⟩
  · have agree : AgreeOn first.Mentions db
        ((second.startedAt secondEarlier).outcome settings pg db) :=
      Batch.agreeOn_outcome.mono disjoint
    exact congrArg (List.map LocationRecord.acceptedItem) agree.reports_eq
  · have agree : AgreeOn (second.startedAt secondEarlier).Mentions db
        (first.outcome settings pg db) :=
      Batch.agreeOn_outcome.mono fun device isSecond isFirst => disjoint device isFirst isSecond
    exact (congrArg (List.map LocationRecord.acceptedItem) agree.reports_eq).symm

/-- A truck enters a zone that a bus leaves, each reported by a batch of its
own. -/
theorem disjoint_batches_commute_depot :
    let zones : Dict Uuid ZoneRow :=
      Dict.set ∅ 7 ⟨1, "depot", "#3fb1ff", ⟨0, 0⟩, 500, true, true, none, 1, 0, 0⟩
    let db : Db := run .tangentPlane ⟨30, 60⟩ { Db.fresh (KeySet.add ∅ 1) with geozones := zones }
      [.batch ⟨0, 0, [⟨"bus", 0, 0, 0, 0⟩]⟩]
    let arrival : Batch := ⟨5, 5, [⟨"truck", 0, 0, 5, 5⟩]⟩
    let leaving : Batch := ⟨6, 6, [⟨"bus", 3, 3, 6, 6⟩]⟩
    (∀ device, arrival.Mentions device → ¬ leaving.Mentions device) ∧
      (arrival.outcome ⟨30, 60⟩ .tangentPlane
        (leaving.outcome ⟨30, 60⟩ .tangentPlane db)).alerts.length = 3 ∧
    ∃ one two, SameRows one two ∧ one.alerts.length = 3 := by
  intro zones db arrival leaving
  have disjoint : ∀ device, arrival.Mentions device → ¬ leaving.Mentions device := by
    rintro device ⟨record, isArrival, rfl⟩ ⟨other, isLeaving, sameDevice⟩
    obtain rfl := List.mem_singleton.mp isArrival
    obtain rfl := List.mem_singleton.mp isLeaving
    exact absurd sameDevice (by decide)
  refine ⟨disjoint, by decide +kernel, ?_⟩
  obtain ⟨_, both, _, _, arrived, left, _, all, _, _, _, _, same, _⟩ :=
    disjoint_batches_commute .tangentPlane ⟨30, 60⟩ db arrival leaving 9 8 disjoint
  refine ⟨both, all, same, ?_⟩
  rw [Batch.apply_eq] at arrived
  obtain rfl := congrArg Prod.fst (Except.ok.inj arrived)
  rw [Batch.apply_eq] at left
  obtain rfl := congrArg Prod.fst (Except.ok.inj left)
  decide +kernel

end GeoTrack
