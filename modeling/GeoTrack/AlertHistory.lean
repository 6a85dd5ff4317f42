import GeoTrack.PresenceInvariant
import Mathlib.Data.List.Chain

/-!
# The alerts of a zone tell one story

For one zone and one device the alerts are the moves of a two-state machine:
outside, an enter alert leads inside; inside, dwell alerts stay and an exit
alert leads outside.  While the zone exists and both of its switches are on,
the presence table is the state of that machine.

The machine comes first, then what every reachable database keeps true of its
alerts, and last the simulation of the machine by the tables.
-/

namespace GeoTrack

section Visits

/-- The move an alert makes, refused in the wrong state. -/
def visit (inside : Bool) : AlertKind → Option Bool
  | .enter => if inside then none else some true
  | .dwell => if inside then some true else none
  | .exit => if inside then some false else none

def visits (kinds : List AlertKind) : Option Bool := kinds.foldlM visit false

/-- The alerts that cross the boundary. -/
def crossings (kinds : List AlertKind) : List AlertKind :=
  kinds.filter fun kind => kind ≠ .dwell

theorem visits_snoc (kinds : List AlertKind) (kind : AlertKind) :
    visits (kinds ++ [kind]) = (visits kinds).bind fun inside => visit inside kind := by
  rw [visits, List.foldlM_append]
  change ((visits kinds).bind fun inside => (visit inside kind).bind some) = _
  simp

theorem crossings_snoc (kinds : List AlertKind) (kind : AlertKind) :
    crossings (kinds ++ [kind]) =
      crossings kinds ++ if kind = .dwell then [] else [kind] := by
  rw [crossings, List.filter_append]
  cases kind <;> rfl

/-- The machine is inside exactly after an enter alert. -/
theorem last_crossing {kinds : List AlertKind} {inside : Bool}
    (story : visits kinds = some inside) :
    (crossings kinds).getLast? = some .enter ↔ inside = true := by
  induction kinds using List.reverseRecOn generalizing inside with
  | nil =>
      obtain rfl := Option.some.inj story
      simp [crossings]
  | append_singleton kinds kind ih =>
      rw [visits_snoc] at story
      obtain ⟨before, earlier, move⟩ := Option.bind_eq_some_iff.mp story
      rw [crossings_snoc]
      cases kind with
      | enter =>
          have entered : inside = true := by
            cases before <;> simp [visit] at move
            exact move
          simp [entered]
      | exit =>
          have left : inside = false := by
            cases before <;> simp [visit] at move
            exact move
          simp [left]
      | dwell =>
          have stayed : before = inside := by
            cases before <;> simp [visit] at move
            exact move.symm
          rw [if_pos rfl, List.append_nil, ← stayed]
          exact ih earlier

theorem crossings_alternate {kinds : List AlertKind} {inside : Bool}
    (story : visits kinds = some inside) : (crossings kinds).IsChain (· ≠ ·) := by
  induction kinds using List.reverseRecOn generalizing inside with
  | nil => exact List.isChain_nil
  | append_singleton kinds kind ih =>
      rw [visits_snoc] at story
      obtain ⟨before, earlier, move⟩ := Option.bind_eq_some_iff.mp story
      have last := last_crossing earlier
      rw [crossings_snoc, List.isChain_append]
      cases kind with
      | enter =>
          have wasOutside : before = false := by
            cases before <;> simp [visit] at move ⊢
          rw [wasOutside] at last
          refine ⟨ih earlier, List.isChain_singleton _, ?_⟩
          rintro previous isLast next isHead same
          obtain rfl : AlertKind.enter = next := by simpa using isHead
          exact Bool.false_ne_true (last.mp (same ▸ isLast))
      | exit =>
          have wasInside : before = true := by
            cases before <;> simp [visit] at move ⊢
          have entered := last.mpr wasInside
          refine ⟨ih earlier, List.isChain_singleton _, ?_⟩
          rintro previous isLast next isHead same
          obtain rfl : AlertKind.exit = next := by simpa using isHead
          rw [same, Option.mem_def, entered] at isLast
          simp at isLast
      | dwell => exact ⟨ih earlier, List.isChain_nil, by simp⟩

theorem first_crossing {kinds : List AlertKind} {inside : Bool}
    (story : visits kinds = some inside) :
    ∀ kind ∈ (crossings kinds).head?, kind = .enter := by
  induction kinds using List.reverseRecOn generalizing inside with
  | nil => simp [crossings]
  | append_singleton kinds kind ih =>
      rw [visits_snoc] at story
      obtain ⟨before, earlier, move⟩ := Option.bind_eq_some_iff.mp story
      intro first isHead
      rw [crossings_snoc, List.head?_append, Option.mem_def, Option.or_eq_some_iff] at isHead
      rcases isHead with isHead | ⟨none_, isHead⟩
      · exact ih earlier first isHead
      · have noneYet : crossings kinds = [] := List.head?_eq_none_iff.mp none_
        have last := last_crossing earlier
        rw [noneYet] at last
        have wasOutside : before = false := by simpa using last
        subst wasOutside
        cases kind <;> simp [visit] at move isHead
        exact isHead.symm

/-- A dwell alert is only raised inside. -/
theorem dwell_inside {earlier later : List AlertKind} {inside : Bool}
    (story : visits (earlier ++ .dwell :: later) = some inside) :
    (crossings earlier).getLast? = some .enter := by
  rw [visits, List.foldlM_append] at story
  obtain ⟨before, first, rest⟩ := Option.bind_eq_some_iff.mp story
  rw [List.foldlM_cons] at rest
  obtain ⟨_, move, _⟩ := Option.bind_eq_some_iff.mp rest
  apply (last_crossing first).mpr
  cases before with
  | false => simp [visit] at move
  | true => rfl

end Visits

section Numbering

theorem pairwise_of_length_le {α : Type} {relation : α → α → Prop} {items : List α}
    (short : items.length ≤ 1) : items.Pairwise relation := by
  rcases items with _ | ⟨only, _ | ⟨second, more⟩⟩
  · exact List.Pairwise.nil
  · exact List.pairwise_singleton _ _
  · simp at short

theorem map_body_numberAlerts (first : ℕ) (bodies : List AlertBody) :
    (numberAlerts first bodies).map AlertRow.toAlertBody = bodies := by
  rw [numberAlerts, List.map_map]
  exact List.zipIdx_map_fst first bodies

theorem map_id_numberAlerts (first : ℕ) (bodies : List AlertBody) :
    (numberAlerts first bodies).map AlertRow.id = List.range' first bodies.length := by
  rw [numberAlerts, List.map_map]
  exact List.zipIdx_map_snd first bodies

theorem filter_numberAlerts (first : ℕ) (bodies : List AlertBody) (test : AlertBody → Bool) :
    ((numberAlerts first bodies).filter fun alert => test alert.toAlertBody).map
        AlertRow.toAlertBody = bodies.filter test := by
  have mapped := List.filter_map (f := AlertRow.toAlertBody) (p := test)
    (l := numberAlerts first bodies)
  rw [map_body_numberAlerts] at mapped
  exact mapped.symm

end Numbering

/-- What every reachable database keeps true of its presence rows and alerts. -/
structure Kept (db : Db) : Prop where
  presenceZone : ∀ zoneId device, (zoneId, device) ∈ db.zonePresence → zoneId ∈ db.geozones
  alertZone : ∀ alert ∈ db.alerts, ∀ zoneId, alert.zoneId = some zoneId → zoneId ∈ db.geozones
  increasing : (db.alerts.map AlertRow.id).Pairwise (· < ·)
  drawn : ∀ alert ∈ db.alerts, alert.id < db.nextAlertId
  dated : ∀ alert ∈ db.alerts, ∃ row,
    db.devicePositions.get? alert.deviceId = some row ∧ alert.occurredAt ≤ row.reportedAt

section Kept

variable {pg : Postgis} {settings : StorageSettings} {db : Db} {batch : Batch}

theorem Batch.mem_raised {alert : AlertRow} (listed : alert ∈ batch.raised settings pg db) :
    ∃ transition ∈ transitions pg db (batch.reports settings db), ∃ kind,
      alert.toAlertBody = transition.alertBody batch.now kind := by
  have body : alert.toAlertBody ∈
      (batchWrites pg batch.now db (batch.reports settings db)).alerts := by
    rw [← map_body_numberAlerts db.nextAlertId
      (batchWrites pg batch.now db (batch.reports settings db)).alerts]
    exact List.mem_map_of_mem listed
  rw [batchWrites, newAlerts, List.mem_insertionSort, List.mem_filterMap] at body
  obtain ⟨transition, isTransition, raised⟩ := body
  obtain ⟨kind, _, same⟩ := Option.map_eq_some_iff.mp raised
  exact ⟨transition, isTransition, kind, same.symm⟩

/-- An alert is about a stored zone and carries the time of an accepted report. -/
theorem Batch.raised_from {alert : AlertRow} (listed : alert ∈ batch.raised settings pg db) :
    ∃ record zoneId, batch.heard settings db record.deviceId = some record ∧
      zoneId ∈ db.geozones ∧ alert.zoneId = some zoneId ∧ alert.deviceId = record.deviceId ∧
      alert.occurredAt = record.reportedMs := by
  obtain ⟨transition, isTransition, kind, body⟩ := Batch.mem_raised listed
  obtain ⟨record, inReports, zoneId, zone, stored, decided⟩ :=
    (mem_transitions pg Batch.nodup_reports).mp isTransition
  obtain ⟨rfl, rfl, rfl⟩ := transitionOf_key pg decided
  refine ⟨transition.record, transition.zoneId, Batch.heard_of_mem inReports,
    Dict.mem_iff_exists.mpr ⟨_, stored⟩, ?_, ?_, ?_⟩
  · exact congrArg AlertBody.zoneId body
  · exact congrArg AlertBody.deviceId body
  · exact congrArg AlertBody.occurredAt body

theorem kept_fresh (users : KeySet Uuid) : Kept (Db.fresh users) where
  presenceZone := by simp [Db.fresh, Dict.mem_def]
  alertZone := by simp [Db.fresh]
  increasing := List.Pairwise.nil
  drawn := by simp [Db.fresh]
  dated := by simp [Db.fresh]

theorem Kept.outcome (kept : Kept db) : Kept (batch.outcome settings pg db) where
  presenceZone := by
    intro zoneId device isPresent
    by_contra gone
    have unstored : db.geozones.get? zoneId = none := Dict.not_mem_iff.mp gone
    rw [Dict.mem_def, Batch.presence_of_unstored device unstored, ← Dict.mem_def] at isPresent
    exact gone (kept.presenceZone zoneId device isPresent)
  alertZone := by
    intro alert listed zoneId about
    rcases List.mem_append.mp listed with old | new
    · exact kept.alertZone alert old zoneId about
    · obtain ⟨_, other, _, stored, otherAbout, _⟩ := Batch.raised_from new
      rw [about] at otherAbout
      exact Option.some.inj otherAbout ▸ stored
  increasing := by
    change ((db.alerts ++ batch.raised settings pg db).map AlertRow.id).Pairwise (· < ·)
    rw [List.map_append, List.pairwise_append, Batch.raised, map_id_numberAlerts]
    refine ⟨kept.increasing, List.pairwise_lt_range', ?_⟩
    intro old oldListed new newListed
    obtain ⟨alert, listed, rfl⟩ := List.mem_map.mp oldListed
    have drawn := kept.drawn alert listed
    have later := (List.mem_range'_1.mp newListed).1
    omega
  drawn := by
    intro alert listed
    change alert.id < db.nextAlertId + _
    rcases List.mem_append.mp listed with old | new
    · have drawn := kept.drawn alert old
      omega
    · have numbered := List.mem_map_of_mem (f := AlertRow.id) new
      rw [map_id_numberAlerts] at numbered
      exact (List.mem_range'_1.mp numbered).2
  dated := by
    intro alert listed
    rcases List.mem_append.mp listed with old | new
    · obtain ⟨row, stored, bound⟩ := kept.dated alert old
      obtain ⟨later, storedLater, grows⟩ := @Batch.position_grows settings pg db batch _ _ stored
      exact ⟨later, storedLater, le_trans bound grows⟩
    · obtain ⟨record, _, isHeard, _, _, sameDevice, sameTime⟩ := Batch.raised_from new
      rw [sameDevice, sameTime]
      exact ⟨record.positionRow batch.now, Batch.position_of_heard isHeard, le_rfl⟩

theorem mem_alerts_dropZone {dropped : Uuid} {alert : AlertRow}
    (listed : alert ∈ (Geozones.dropZone db dropped).alerts) :
    ∃ old ∈ db.alerts, old.id = alert.id ∧ old.deviceId = alert.deviceId ∧
      old.occurredAt = alert.occurredAt ∧
      ∀ zoneId, alert.zoneId = some zoneId → zoneId ≠ dropped ∧ old.zoneId = some zoneId := by
  obtain ⟨old, oldListed, rfl⟩ := List.mem_map.mp listed
  by_cases about : old.zoneId = some dropped
  · rw [if_pos about]
    exact ⟨old, oldListed, rfl, rfl, rfl, by simp⟩
  · rw [if_neg about]
    refine ⟨old, oldListed, rfl, rfl, rfl, ?_⟩
    intro zoneId kept
    exact ⟨fun same => about (same ▸ kept), kept⟩

theorem map_id_dropZone (dropped : Uuid) :
    (Geozones.dropZone db dropped).alerts.map AlertRow.id = db.alerts.map AlertRow.id := by
  rw [Geozones.dropZone, List.map_map]
  apply List.map_congr_left
  intro alert _
  change (if alert.zoneId = some dropped then _ else alert : AlertRow).id = alert.id
  split <;> rfl

theorem Kept.zoneEffect {after : Db} (kept : Kept db) (effect : ZoneEffect db after) :
    Kept after := by
  cases effect with
  | unchanged => exact kept
  | written zoneId zone =>
      refine ⟨?_, ?_, kept.increasing, kept.drawn, kept.dated⟩
      · intro other device isPresent
        exact Dict.mem_set.mpr (Or.inr (kept.presenceZone other device isPresent))
      · intro alert listed other about
        exact Dict.mem_set.mpr (Or.inr (kept.alertZone alert listed other about))
  | dropped zoneId =>
      constructor
      · intro other device isPresent
        rw [Dict.mem_def, Geozones.dropZone, Dict.get?_filter] at isPresent
        obtain ⟨row, found⟩ := Option.isSome_iff_exists.mp isPresent
        obtain ⟨stored, different⟩ := Option.filter_eq_some_iff.mp found
        have known := kept.presenceZone other device (Dict.mem_iff_exists.mpr ⟨row, stored⟩)
        exact Dict.mem_erase.mpr ⟨by simpa using different, known⟩
      · intro alert listed other about
        obtain ⟨old, oldListed, _, _, _, aboutOld⟩ := mem_alerts_dropZone listed
        obtain ⟨different, oldAbout⟩ := aboutOld other about
        exact Dict.mem_erase.mpr ⟨different, kept.alertZone old oldListed other oldAbout⟩
      · rw [map_id_dropZone]
        exact kept.increasing
      · intro alert listed
        obtain ⟨old, oldListed, sameId, _⟩ := mem_alerts_dropZone listed
        exact sameId ▸ kept.drawn old oldListed
      · intro alert listed
        obtain ⟨old, oldListed, _, sameDevice, sameTime, _⟩ := mem_alerts_dropZone listed
        rw [← sameDevice, ← sameTime]
        exact kept.dated old oldListed

theorem Kept.step (kept : Kept db) (op : Op) : Kept (GeoTrack.step pg settings db op) := by
  rcases step_cases pg settings db op with ⟨batch, rfl⟩ | ⟨_, effect⟩
  · rw [step_batch]
    exact kept.outcome
  · exact kept.zoneEffect effect

theorem kept_run (users : KeySet Uuid) (ops : List Op) :
    Kept (run pg settings (Db.fresh users) ops) := by
  induction ops using List.reverseRecOn with
  | nil => exact kept_fresh users
  | append_singleton ops op ih =>
      rw [run_snoc]
      exact ih.step op

end Kept

section Story

variable {pg : Postgis} {settings : StorageSettings} {db : Db} {batch : Batch}

/-- The kinds of the alerts of one pair, oldest first. -/
def Db.kindsOf (db : Db) (zoneId : Uuid) (device : DeviceId) : List AlertKind :=
  (db.alertsOf zoneId device).map fun alert => alert.kind

theorem ZoneEffect.alertsOf {after : Db} (effect : ZoneEffect db after) {zoneId : Uuid}
    (exists_ : zoneId ∈ after.geozones) (device : DeviceId) :
    after.alertsOf zoneId device = db.alertsOf zoneId device := by
  cases effect with
  | unchanged => rfl
  | written other zone => rfl
  | dropped other =>
      have different : zoneId ≠ other := (Dict.mem_erase.mp exists_).1
      rw [Db.alertsOf, Db.alertsOf, Geozones.dropZone, List.filter_map]
      -- the alerts that lost their zone were never about this one
      have untouched : ∀ alert : AlertRow, (alert.zoneId = some zoneId ∧ alert.deviceId = device) ↔
          (if alert.zoneId = some other then { alert with zoneId := none } else alert :
              AlertRow).zoneId = some zoneId ∧
            (if alert.zoneId = some other then { alert with zoneId := none } else alert :
              AlertRow).deviceId = device := by
        intro alert
        split
        case isTrue about => simp [about, different.symm]
        case isFalse => rfl
      simp only [Function.comp_def, ← untouched]
      conv_rhs => rw [← List.map_id (db.alerts.filter _)]
      apply List.map_congr_left
      intro alert listed
      have about := (of_decide_eq_true (List.mem_filter.mp listed).2).1
      rw [if_neg (by simpa [about] using different), id]

/-- The transition a batch makes for one pair. -/
def Batch.decided (pg : Postgis) (settings : StorageSettings) (db : Db) (batch : Batch)
    (zoneId : Uuid) (zone : ZoneRow) (device : DeviceId) : Option Transition :=
  (batch.heard settings db device).bind fun record =>
    transitionOf pg db.zonePresence record zoneId zone

/-- The alerts a batch raises about one pair. -/
def Batch.raisedAbout (pg : Postgis) (settings : StorageSettings) (db : Db) (batch : Batch)
    (zoneId : Uuid) (device : DeviceId) : List AlertRow :=
  (batch.raised settings pg db).filter fun alert =>
    alert.zoneId = some zoneId ∧ alert.deviceId = device

theorem Batch.alertsOf_outcome (zoneId : Uuid) (device : DeviceId) :
    (batch.outcome settings pg db).alertsOf zoneId device =
      db.alertsOf zoneId device ++ batch.raisedAbout pg settings db zoneId device :=
  List.filter_append ..

theorem Batch.map_body_raisedAbout {zoneId : Uuid} {zone : ZoneRow}
    (stored : db.geozones.get? zoneId = some zone) (device : DeviceId) :
    (batch.raisedAbout pg settings db zoneId device).map AlertRow.toAlertBody =
      ((batch.decided pg settings db zoneId zone device).bind fun transition =>
        transition.kind.map (transition.alertBody batch.now)).toList := by
  have only : (transitions pg db (batch.reports settings db)).filter
      (fun transition => transition.key = (zoneId, device)) =
        (batch.decided pg settings db zoneId zone device).toList := by
    unfold Batch.decided
    cases isHeard : batch.heard settings db device with
    | none =>
        exact filter_transitions_of_absent pg db Batch.nodup_reports
          (Batch.absent_of_not_heard isHeard) zoneId
    | some record =>
        obtain ⟨listed, rfl⟩ := Batch.mem_of_heard isHeard
        exact filter_transitions_of_mem pg Batch.nodup_reports listed stored
  rw [← filter_newAlerts pg batch.now only]
  exact filter_numberAlerts _ _ fun alert => alert.About zoneId device

theorem Batch.length_raisedAbout_le {zoneId : Uuid} {zone : ZoneRow}
    (stored : db.geozones.get? zoneId = some zone) (device : DeviceId) :
    (batch.raisedAbout pg settings db zoneId device).length ≤ 1 := by
  have counted := congrArg List.length
    (@Batch.map_body_raisedAbout pg settings db batch _ _ stored device)
  rw [List.length_map] at counted
  rw [counted]
  exact Option.length_toList_le

theorem Batch.map_kind_raisedAbout {zoneId : Uuid} {zone : ZoneRow}
    (stored : db.geozones.get? zoneId = some zone) (device : DeviceId) :
    (batch.raisedAbout pg settings db zoneId device).map (fun alert => alert.kind) =
      ((batch.decided pg settings db zoneId zone device).bind Transition.kind).toList := by
  have bodies := congrArg (List.map AlertBody.kind)
    (@Batch.map_body_raisedAbout pg settings db batch _ _ stored device)
  rw [List.map_map] at bodies
  refine Eq.trans bodies ?_
  cases batch.decided pg settings db zoneId zone device with
  | none => rfl
  | some transition =>
      rw [Option.bind_some, Option.bind_some]
      cases transition.kind <;> rfl

/-- The table lists a pair after the batch as the transition of the pair says. -/
theorem Batch.presence_decided {zoneId : Uuid} {zone : ZoneRow} {device : DeviceId}
    (stored : db.geozones.get? zoneId = some zone) :
    match batch.decided pg settings db zoneId zone device with
    | none => (zoneId, device) ∈ (batch.outcome settings pg db).zonePresence ↔
        (zoneId, device) ∈ db.zonePresence
    | some transition =>
        ((zoneId, device) ∈ (batch.outcome settings pg db).zonePresence ↔
          transition.state ≠ .exit) ∧
        ((zoneId, device) ∈ db.zonePresence ↔ transition.state ≠ .enter) := by
  unfold Batch.decided
  cases isHeard : batch.heard settings db device with
  | none =>
      have same := @Batch.presence_of_not_heard settings pg db batch _ isHeard zoneId
      simp [Dict.mem_def, same]
  | some record =>
      obtain ⟨_, rfl⟩ := Batch.mem_of_heard isHeard
      have present := @Batch.mem_presence_of_heard settings pg db batch _ _ isHeard _ _ stored
      rw [Option.bind_some, transitionOf, present]
      by_cases within : pg.dWithin zone.center zone.radiusM record.position = true
      · rw [if_pos within]
        cases known : db.zonePresence.get? (zoneId, record.deviceId) with
        | none => simp [insideTransition, known, within, Dict.mem_def]
        | some row => simp [insideTransition, known, within, Dict.mem_def]
      · rw [if_neg within]
        cases known : db.zonePresence.get? (zoneId, record.deviceId) with
        | none => simp [known, within, Dict.mem_def]
        | some row => simp [known, within, Dict.mem_def]

theorem Batch.zone_of_decided {zoneId : Uuid} {zone : ZoneRow} {device : DeviceId}
    {transition : Transition}
    (decided : batch.decided pg settings db zoneId zone device = some transition) :
    transition.zone = zone := by
  obtain ⟨record, _, isTransition⟩ := Option.bind_eq_some_iff.mp decided
  exact (transitionOf_key pg isTransition).2.1

/-- What a batch raises about a pair is the move from the presence before it to
the presence after it. -/
theorem Batch.decided_moves {zoneId : Uuid} {zone : ZoneRow}
    (stored : db.geozones.get? zoneId = some zone) (enterOn : zone.alertOnEnter = true)
    (exitOn : zone.alertOnExit = true) (device : DeviceId) :
    match (batch.decided pg settings db zoneId zone device).bind Transition.kind with
    | none => (zoneId, device) ∈ (batch.outcome settings pg db).zonePresence ↔
        (zoneId, device) ∈ db.zonePresence
    | some kind => visit (decide ((zoneId, device) ∈ db.zonePresence)) kind =
        some (decide ((zoneId, device) ∈ (batch.outcome settings pg db).zonePresence)) := by
  have table := @Batch.presence_decided pg settings db batch zoneId zone device stored
  cases decided : batch.decided pg settings db zoneId zone device with
  | none =>
      rw [decided] at table
      exact table
  | some transition =>
      rw [decided] at table
      have sameZone := Batch.zone_of_decided decided
      rw [Option.bind_some, Transition.kind, sameZone]
      cases state : transition.state with
      | enter => simp_all [visit]
      | exit => simp_all [visit]
      | stay =>
          by_cases due : transition.dwellDue = true
          · simp_all [visit]
          · simp_all

/-- The tables follow the machine through a batch. -/
theorem Batch.story_outcome {zoneId : Uuid} {zone : ZoneRow}
    (stored : db.geozones.get? zoneId = some zone) (enterOn : zone.alertOnEnter = true)
    (exitOn : zone.alertOnExit = true) {device : DeviceId}
    (story : visits (db.kindsOf zoneId device) =
      some (decide ((zoneId, device) ∈ db.zonePresence))) :
    visits ((batch.outcome settings pg db).kindsOf zoneId device) =
      some (decide ((zoneId, device) ∈ (batch.outcome settings pg db).zonePresence)) := by
  have kinds : (batch.outcome settings pg db).kindsOf zoneId device =
      db.kindsOf zoneId device ++
        ((batch.decided pg settings db zoneId zone device).bind Transition.kind).toList := by
    rw [Db.kindsOf, Batch.alertsOf_outcome, List.map_append, Batch.map_kind_raisedAbout stored]
    rfl
  have moves := @Batch.decided_moves pg settings db batch _ _ stored enterOn exitOn device
  rw [kinds]
  cases raised : (batch.decided pg settings db zoneId zone device).bind Transition.kind with
  | none =>
      rw [raised] at moves
      simpa [moves] using story
  | some kind =>
      rw [raised] at moves
      rw [Option.toList_some, visits_snoc, story]
      exact moves

theorem Batch.dates_outcome (kept : Kept db) {zoneId : Uuid} {zone : ZoneRow}
    (stored : db.geozones.get? zoneId = some zone) {device : DeviceId}
    (dates : ((db.alertsOf zoneId device).map fun alert => alert.occurredAt).Pairwise (· < ·)) :
    (((batch.outcome settings pg db).alertsOf zoneId device).map
      fun alert => alert.occurredAt).Pairwise (· < ·) := by
  have atMostOne : (batch.raisedAbout pg settings db zoneId device).length ≤ 1 :=
    Batch.length_raisedAbout_le stored device
  rw [Batch.alertsOf_outcome, List.map_append, List.pairwise_append]
  refine ⟨dates, ?_, ?_⟩
  · apply pairwise_of_length_le
    rw [List.length_map]
    exact atMostOne
  · intro old oldListed date dateListed
    obtain ⟨before, beforeListed, rfl⟩ := List.mem_map.mp oldListed
    obtain ⟨alert, alertListed, rfl⟩ := List.mem_map.mp dateListed
    obtain ⟨beforeKnown, beforeAbout⟩ := List.mem_filter.mp beforeListed
    obtain ⟨alertRaised, alertAbout⟩ := List.mem_filter.mp alertListed
    have beforeDevice : before.deviceId = device := (of_decide_eq_true beforeAbout).2
    have alertDevice : alert.deviceId = device := (of_decide_eq_true alertAbout).2
    obtain ⟨row, position, bound⟩ := kept.dated before beforeKnown
    obtain ⟨record, _, isHeard, _, _, sameDevice, sameTime⟩ := Batch.raised_from alertRaised
    rw [beforeDevice, ← alertDevice, sameDevice] at position
    have newer : row.reportedAt < record.reportedMs := Batch.newer_of_heard isHeard position
    omega

/-- The alerts of a pair are moves of the machine, in order of time. -/
structure TellsStory (db : Db) (zoneId : Uuid) (device : DeviceId) : Prop where
  moves : visits (db.kindsOf zoneId device) = some (decide ((zoneId, device) ∈ db.zonePresence))
  dates : ((db.alertsOf zoneId device).map fun alert => alert.occurredAt).Pairwise (· < ·)

theorem tellsStory_of_unborn (kept : Kept db) {zoneId : Uuid} (unborn : zoneId ∉ db.geozones)
    (device : DeviceId) : TellsStory db zoneId device := by
  have noAlerts : db.alertsOf zoneId device = [] := by
    apply List.filter_eq_nil_iff.mpr
    intro alert listed about
    exact unborn (kept.alertZone alert listed zoneId (of_decide_eq_true about).1)
  have absent : (zoneId, device) ∉ db.zonePresence :=
    fun isPresent => unborn (kept.presenceZone zoneId device isPresent)
  constructor
  · rw [Db.kindsOf, noAlerts]
    simp [visits, absent]
  · rw [noAlerts]
    exact List.Pairwise.nil

/-- The zone exists and reports both crossings. -/
def Watched (db : Db) (zoneId : Uuid) : Prop :=
  ∃ zone, db.geozones.get? zoneId = some zone ∧ zone.alertOnEnter = true ∧
    zone.alertOnExit = true

instance (db : Db) (zoneId : Uuid) : Decidable (Watched db zoneId) :=
  decidable_of_iff
    ((db.geozones.get? zoneId).any (fun zone => zone.alertOnEnter && zone.alertOnExit) = true)
    (by simp [Watched, Option.any_eq_true])

theorem TellsStory.step (kept : Kept db) {zoneId : Uuid} {device : DeviceId}
    (story : TellsStory db zoneId device) (op : Op)
    (watched : Watched (GeoTrack.step pg settings db op) zoneId) :
    TellsStory (GeoTrack.step pg settings db op) zoneId device := by
  obtain ⟨zone, stored, enterOn, exitOn⟩ := watched
  rcases step_cases pg settings db op with ⟨batch, rfl⟩ | ⟨_, effect⟩
  · rw [step_batch] at stored ⊢
    have storedBefore : db.geozones.get? zoneId = some zone := stored
    exact ⟨Batch.story_outcome storedBefore enterOn exitOn story.moves,
      Batch.dates_outcome kept storedBefore story.dates⟩
  · have exists_ := Dict.mem_iff_exists.mpr ⟨zone, stored⟩
    have sameAlerts := effect.alertsOf exists_ device
    have samePresence := effect.presence exists_ device
    constructor
    · rw [Db.kindsOf, sameAlerts]
      simpa [Db.kindsOf, Dict.mem_def, samePresence] using story.moves
    · rw [sameAlerts]
      exact story.dates

theorem tellsStory_run (users : KeySet Uuid) (before after : List Op) {zoneId : Uuid}
    (unborn : zoneId ∉ (run pg settings (Db.fresh users) before).geozones)
    (watched : ∀ first rest, after = first ++ rest → first ≠ [] →
      Watched (run pg settings (Db.fresh users) (before ++ first)) zoneId) (device : DeviceId) :
    TellsStory (run pg settings (Db.fresh users) (before ++ after)) zoneId device := by
  induction after using List.reverseRecOn with
  | nil =>
      rw [List.append_nil]
      exact tellsStory_of_unborn (kept_run users before) unborn device
  | append_singleton after op ih =>
      have watchedNow := watched (after ++ [op]) [] (by simp) (by simp)
      rw [← List.append_assoc, run_snoc] at watchedNow ⊢
      apply TellsStory.step (kept_run users _) _ op watchedNow
      apply ih
      intro first rest cut nonempty
      exact watched first (rest ++ [op]) (by rw [cut, List.append_assoc]) nonempty

/-- While a zone exists with both switches on, from its creation on, its alerts
about a device are numbered and dated in order, alternate between entering and
leaving with dwells in between, and agree with the presence table. -/
theorem alerts_consistent (pg : Postgis) (settings : StorageSettings) (users : KeySet Uuid)
    (before after : List Op) (zoneId : Uuid) (device : DeviceId)
    (unborn : zoneId ∉ (run pg settings (Db.fresh users) before).geozones)
    (watched : ∀ first rest, after = first ++ rest → first ≠ [] →
      Watched (run pg settings (Db.fresh users) (before ++ first)) zoneId) :
    ∀ first rest, after = first ++ rest →
      let db := run pg settings (Db.fresh users) (before ++ first)
      ((db.alertsOf zoneId device).map AlertRow.id).Pairwise (· < ·) ∧
        ((db.alertsOf zoneId device).map fun alert => alert.occurredAt).Pairwise (· < ·) ∧
        (crossings (db.kindsOf zoneId device)).IsChain (· ≠ ·) ∧
        (∀ kind ∈ (crossings (db.kindsOf zoneId device)).head?, kind = .enter) ∧
        (∀ earlier later, db.kindsOf zoneId device = earlier ++ .dwell :: later →
          (crossings earlier).getLast? = some .enter) ∧
        ((zoneId, device) ∈ db.zonePresence ↔
          (crossings (db.kindsOf zoneId device)).getLast? = some .enter) := by
  intro first rest cut db
  have kept : Kept db := kept_run users _
  have story : TellsStory db zoneId device := by
    apply tellsStory_run users before first unborn
    intro part more partCut nonempty
    exact watched part (more ++ rest) (by rw [cut, partCut, List.append_assoc]) nonempty
  refine ⟨?_, story.dates, crossings_alternate story.moves, first_crossing story.moves, ?_, ?_⟩
  · exact kept.increasing.sublist (List.filter_sublist.map AlertRow.id)
  · intro earlier later kinds
    have moves := story.moves
    rw [kinds] at moves
    exact dwell_inside moves
  · rw [last_crossing story.moves, decide_eq_true_iff]

end Story

/-- A truck enters a zone, stays past the dwell interval and leaves. -/
def roundTrip : List Op :=
  [.create 0 7 1 ⟨"depot", 0, 0, 500, none, true, true, some 60⟩ 10,
    .batch ⟨0, 0, [⟨"truck", 0, 0, 0, 0⟩]⟩,
    .batch ⟨90000, 90000, [⟨"truck", 0, 0, 90000, 90000⟩]⟩,
    .batch ⟨95000, 95000, [⟨"truck", 3, 3, 95000, 95000⟩]⟩]

theorem alerts_consistent_roundTrip :
    crossings ((run .tangentPlane ⟨30, 60⟩ (Db.fresh (KeySet.add ∅ 1)) roundTrip).kindsOf
        7 "truck") = [.enter, .exit] ∧
      (crossings ((run .tangentPlane ⟨30, 60⟩ (Db.fresh (KeySet.add ∅ 1)) roundTrip).kindsOf
        7 "truck")).IsChain (· ≠ ·) := by
  refine ⟨by decide +kernel, ?_⟩
  refine (alerts_consistent .tangentPlane ⟨30, 60⟩ (KeySet.add ∅ 1) [] roundTrip 7 "truck"
    (by decide +kernel) ?_ roundTrip [] (by simp)).2.2.1
  have throughout : ∀ count < 5, count ≠ 0 → Watched (run .tangentPlane ⟨30, 60⟩
      (Db.fresh (KeySet.add ∅ 1)) (roundTrip.take count)) 7 := by
    decide +kernel
  intro first rest cut nonempty
  have taken : roundTrip.take first.length = first := by rw [cut, List.take_left]
  have short : first.length ≤ roundTrip.length := by rw [cut, List.length_append]; omega
  rw [List.nil_append, ← taken]
  exact throughout first.length (Nat.lt_succ_of_le short)
    (fun none_ => nonempty (List.eq_nil_of_length_eq_zero none_))

end GeoTrack
