import GeoTrack.AlertHistory

/-!
# The pace of dwell alerts

The dwell clock of a presence row starts on entering, survives every further
report from inside, and restarts with each dwell alert.  It therefore lies
between the entry and the latest report, whatever has happened to the zone in
the meantime, and a dwell alert is raised only once the zone's interval has
passed since.
-/

namespace GeoTrack

/-- What a presence row says about its device in every reachable database. -/
structure Paced (db : Db) : Prop where
  ordered : ∀ zoneId device row, db.zonePresence.get? (zoneId, device) = some row →
    row.enteredAt ≤ row.lastAlertAt ∧ row.lastAlertAt ≤ row.lastSeenAt
  seen : ∀ zoneId device row, db.zonePresence.get? (zoneId, device) = some row →
    ∃ position, db.devicePositions.get? device = some position ∧
      row.lastSeenAt = position.reportedAt

/-- A dwell alert, with the interval its zone asks for when it is raised. -/
structure Reminder where
  alert : AlertRow
  intervalS : Option ℤ

/-- The interval has passed since the given time. -/
def Reminder.DueSince (clock : ℤ) (reminder : Reminder) : Prop :=
  ∃ interval, reminder.intervalS = some interval ∧
    clock + interval * 1000 ≤ reminder.alert.occurredAt

theorem Reminder.DueSince.earlier {clock before : ℤ} {reminder : Reminder}
    (due : reminder.DueSince clock) (earlier : before ≤ clock) : reminder.DueSince before := by
  obtain ⟨interval, inForce, passed⟩ := due
  exact ⟨interval, inForce, by omega⟩

section Pacing

variable (pg : Postgis) (settings : StorageSettings) (zoneId : Uuid) (device : DeviceId)

/-- The dwell alerts an operation raises about one pair. -/
def reminders (db : Db) : Op → List Reminder
  | .batch batch =>
      ((batch.raisedAbout pg settings db zoneId device).filter fun alert =>
        alert.kind = .dwell).map fun alert =>
          ⟨alert, (db.geozones.get? zoneId).bind ZoneRow.dwellAlertIntervalS⟩
  | _ => []

/-- The dwell alerts of a list of operations, oldest first. -/
def remindersDuring : Db → List Op → List Reminder
  | _, [] => []
  | db, op :: rest =>
      reminders pg settings zoneId device db op ++
        remindersDuring (step pg settings db op) rest

/-- The device enters with the first operation and is inside from then on. -/
structure Stay (db : Db) (entering : Op) (during : List Op) : Prop where
  outside : (zoneId, device) ∉ db.zonePresence
  inside : ∀ first rest, during = first ++ rest →
    (zoneId, device) ∈ (run pg settings (step pg settings db entering) first).zonePresence

end Pacing

section Paced

variable {pg : Postgis} {settings : StorageSettings} {db : Db} {batch : Batch} {zoneId : Uuid}
  {device : DeviceId}

/-- A dwell alert is due for a device that was and is inside. -/
theorem Transition.due_of_kind {transition : Transition} (raised : transition.kind = some .dwell) :
    transition.state = .stay ∧ ∃ interval last,
      transition.zone.dwellAlertIntervalS = some interval ∧
      transition.lastAlertAt = some last ∧
      last + interval * 1000 ≤ transition.record.reportedMs := by
  rw [Transition.kind] at raised
  cases state : transition.state with
  | enter => simp [state] at raised
  | exit => simp [state] at raised
  | stay =>
      have due : transition.dwellDue = true := by simpa [state] using raised
      rw [Transition.dwellDue] at due
      cases inForce : transition.zone.dwellAlertIntervalS with
      | none => simp [inForce] at due
      | some interval =>
          cases clock : transition.lastAlertAt with
          | none => simp [inForce, clock] at due
          | some last =>
              exact ⟨rfl, interval, last, rfl, rfl, by simpa [inForce, clock] using due⟩

/-- The row that a report from inside leaves behind. -/
theorem Batch.presence_after {record : LocationRecord}
    (isHeard : batch.heard settings db device = some record) {zone : ZoneRow}
    (stored : db.geozones.get? zoneId = some zone) {after : PresenceRow}
    (present : (batch.outcome settings pg db).zonePresence.get? (zoneId, device) = some after) :
    pg.dWithin zone.center zone.radiusM record.position = true ∧
      after = presenceRow db (insideTransition db.zonePresence ⟨record, zoneId, zone⟩) := by
  rw [Batch.presence_of_heard isHeard stored] at present
  by_cases within : pg.dWithin zone.center zone.radiusM record.position = true
  · rw [if_pos within] at present
    exact ⟨within, (Option.some.inj present).symm⟩
  · rw [if_neg within] at present
    simp at present

/-- Entering starts the clock. -/
theorem presenceRow_of_unknown {record : LocationRecord} {zone : ZoneRow}
    (unknown : db.zonePresence.get? (zoneId, record.deviceId) = none) :
    presenceRow db (insideTransition db.zonePresence ⟨record, zoneId, zone⟩) =
      ⟨record.reportedMs, record.reportedMs, record.reportedMs⟩ := by
  have noClock : (insideTransition db.zonePresence ⟨record, zoneId, zone⟩).lastAlertAt = none := by
    simp [insideTransition, unknown]
  have entry : db.zonePresence.get?
      (insideTransition db.zonePresence ⟨record, zoneId, zone⟩).key = none := unknown
  rw [presenceRow, entry, Transition.dwellClock, noClock, Option.getD_none, ite_self]
  rfl

/-- A further report keeps the entry and never turns the clock back. -/
theorem presenceRow_of_known {record : LocationRecord} (zone : ZoneRow) {row : PresenceRow}
    (known : db.zonePresence.get? (zoneId, record.deviceId) = some row)
    (newer : row.lastAlertAt ≤ record.reportedMs) :
    (presenceRow db (insideTransition db.zonePresence ⟨record, zoneId, zone⟩)).enteredAt =
        row.enteredAt ∧
      row.lastAlertAt ≤
        (presenceRow db (insideTransition db.zonePresence ⟨record, zoneId, zone⟩)).lastAlertAt ∧
      (presenceRow db (insideTransition db.zonePresence ⟨record, zoneId, zone⟩)).lastAlertAt ≤
        record.reportedMs := by
  have clock : (insideTransition db.zonePresence ⟨record, zoneId, zone⟩).lastAlertAt =
      some row.lastAlertAt := by
    simp [insideTransition, known]
  have entry : db.zonePresence.get?
      (insideTransition db.zonePresence ⟨record, zoneId, zone⟩).key = some row := known
  rw [presenceRow, entry, Transition.dwellClock, clock]
  refine ⟨rfl, ?_⟩
  change row.lastAlertAt ≤ (if _ then record.reportedMs else row.lastAlertAt) ∧
    (if _ then record.reportedMs else row.lastAlertAt) ≤ record.reportedMs
  split
  · exact ⟨newer, le_rfl⟩
  · exact ⟨le_rfl, newer⟩

theorem Paced.clock_le {record : LocationRecord} (paced : Paced db)
    (isHeard : batch.heard settings db device = some record) {row : PresenceRow}
    (known : db.zonePresence.get? (zoneId, device) = some row) :
    row.enteredAt ≤ row.lastAlertAt ∧ row.lastAlertAt ≤ record.reportedMs := by
  obtain ⟨entered, clock⟩ := paced.ordered zoneId device row known
  obtain ⟨position, stored, sameTime⟩ := paced.seen zoneId device row known
  have newer := Batch.newer_of_heard isHeard stored
  exact ⟨entered, by omega⟩

/-- A row after a report from inside, against what was stored before. -/
theorem Paced.row_after (paced : Paced db) {record : LocationRecord}
    (isHeard : batch.heard settings db device = some record) {zone : ZoneRow}
    (stored : db.geozones.get? zoneId = some zone) {after : PresenceRow}
    (present : (batch.outcome settings pg db).zonePresence.get? (zoneId, device) = some after) :
    after.lastSeenAt = record.reportedMs ∧ after.enteredAt ≤ after.lastAlertAt ∧
      after.lastAlertAt ≤ record.reportedMs ∧
      (∀ row, db.zonePresence.get? (zoneId, device) = some row →
        after.enteredAt = row.enteredAt ∧ row.lastAlertAt ≤ after.lastAlertAt) ∧
      (db.zonePresence.get? (zoneId, device) = none →
        after = ⟨record.reportedMs, record.reportedMs, record.reportedMs⟩) := by
  obtain ⟨_, rfl⟩ := Batch.presence_after isHeard stored present
  obtain ⟨_, rfl⟩ := Batch.mem_of_heard isHeard
  cases known : db.zonePresence.get? (zoneId, record.deviceId) with
  | none =>
      rw [presenceRow_of_unknown known]
      exact ⟨rfl, le_rfl, le_rfl, by simp, fun _ => rfl⟩
  | some row =>
      obtain ⟨entered, newer⟩ := paced.clock_le isHeard known
      obtain ⟨sameEntry, grows, bounded⟩ := presenceRow_of_known zone known newer
      refine ⟨rfl, ?_, bounded, ?_, by simp⟩
      · rw [sameEntry]
        exact le_trans entered grows
      · intro other same
        obtain rfl := Option.some.inj same
        exact ⟨sameEntry, grows⟩

theorem paced_fresh (users : KeySet Uuid) : Paced (Db.fresh users) where
  ordered := by simp [Db.fresh]
  seen := by simp [Db.fresh]

theorem stored_of_present (kept : Kept db) {row : PresenceRow}
    (present : db.zonePresence.get? (zoneId, device) = some row) :
    ∃ zone, db.geozones.get? zoneId = some zone :=
  Dict.mem_iff_exists.mp
    (kept.presenceZone zoneId device (Dict.mem_iff_exists.mpr ⟨row, present⟩))

theorem Paced.outcome (kept : Kept db) (paced : Paced db) :
    Paced (batch.outcome settings pg db) := by
  have rows : ∀ zoneId device after,
      (batch.outcome settings pg db).zonePresence.get? (zoneId, device) = some after →
        (after.enteredAt ≤ after.lastAlertAt ∧ after.lastAlertAt ≤ after.lastSeenAt) ∧
        ∃ position, (batch.outcome settings pg db).devicePositions.get? device = some position ∧
          after.lastSeenAt = position.reportedAt := by
    intro zoneId device after present
    cases isHeard : batch.heard settings db device with
    | none =>
        rw [Batch.presence_of_not_heard isHeard] at present
        rw [Batch.position_of_not_heard isHeard]
        exact ⟨paced.ordered zoneId device after present, paced.seen zoneId device after present⟩
    | some record =>
        have keptAfter : Kept (batch.outcome settings pg db) := kept.outcome
        obtain ⟨zone, stored⟩ := stored_of_present keptAfter present
        obtain ⟨seen, entered, bounded, _⟩ := paced.row_after isHeard stored present
        rw [seen, Batch.position_of_heard isHeard]
        exact ⟨⟨entered, bounded⟩, _, rfl, rfl⟩
  exact ⟨fun zoneId device after present => (rows zoneId device after present).1,
    fun zoneId device after present => (rows zoneId device after present).2⟩

/-- A zone operation keeps the rows of the zones that remain. -/
theorem ZoneEffect.presence_of_some {after : Db} (kept : Kept db) (effect : ZoneEffect db after)
    {row : PresenceRow} (present : after.zonePresence.get? (zoneId, device) = some row) :
    db.zonePresence.get? (zoneId, device) = some row := by
  obtain ⟨zone, stored⟩ := stored_of_present (kept.zoneEffect effect) present
  rw [← effect.presence (Dict.mem_iff_exists.mpr ⟨zone, stored⟩)]
  exact present

theorem Paced.step (kept : Kept db) (paced : Paced db) (op : Op) :
    Paced (GeoTrack.step pg settings db op) := by
  rcases step_cases pg settings db op with ⟨batch, rfl⟩ | ⟨_, effect⟩
  · rw [step_batch]
    exact paced.outcome kept
  · constructor
    · intro zoneId device row present
      exact paced.ordered zoneId device row (effect.presence_of_some kept present)
    · intro zoneId device row present
      rw [effect.positions]
      exact paced.seen zoneId device row (effect.presence_of_some kept present)

theorem paced_run (users : KeySet Uuid) (ops : List Op) :
    Paced (run pg settings (Db.fresh users) ops) := by
  induction ops using List.reverseRecOn with
  | nil => exact paced_fresh users
  | append_singleton ops op ih =>
      rw [run_snoc]
      exact ih.step (kept_run users ops) op

end Paced

section Stays

variable {pg : Postgis} {settings : StorageSettings} {db : Db} {batch : Batch} {zoneId : Uuid}
  {device : DeviceId}

/-- A dwell alert comes from the presence row that was there before. -/
theorem Batch.dwell_from {alert : AlertRow}
    (listed : alert ∈ batch.raisedAbout pg settings db zoneId device)
    (isDwell : alert.kind = .dwell) {zone : ZoneRow}
    (stored : db.geozones.get? zoneId = some zone) :
    ∃ record row interval, batch.heard settings db device = some record ∧
      db.zonePresence.get? (zoneId, device) = some row ∧
      zone.dwellAlertIntervalS = some interval ∧
      row.lastAlertAt + interval * 1000 ≤ record.reportedMs ∧
      alert.occurredAt = record.reportedMs ∧
      (batch.outcome settings pg db).zonePresence.get? (zoneId, device) =
        some ⟨row.enteredAt, record.reportedMs, record.reportedMs⟩ := by
  have body := List.mem_map_of_mem (f := AlertRow.toAlertBody) listed
  rw [Batch.map_body_raisedAbout stored, Option.mem_toList,
    Option.bind_eq_some_iff] at body
  obtain ⟨transition, decided, raised⟩ := body
  obtain ⟨kind, isKind, same⟩ := Option.map_eq_some_iff.mp raised
  obtain rfl : kind = .dwell := (congrArg AlertBody.kind same).trans isDwell
  obtain ⟨staying, interval, last, inForce, clock, due⟩ := Transition.due_of_kind isKind
  obtain ⟨record, isHeard, isTransition⟩ := Option.bind_eq_some_iff.mp decided
  obtain ⟨_, rfl⟩ := Batch.mem_of_heard isHeard
  unfold transitionOf at isTransition
  by_cases within : pg.dWithin zone.center zone.radiusM record.position = true
  · rw [if_pos within] at isTransition
    obtain rfl := Option.some.inj isTransition
    cases known : db.zonePresence.get? (zoneId, record.deviceId) with
    | none => simp [insideTransition, known] at staying
    | some row =>
        have sameClock : row.lastAlertAt = last := by
          simpa [insideTransition, known] using clock
        refine ⟨record, row, interval, isHeard, rfl, inForce, sameClock ▸ due,
          (congrArg AlertBody.occurredAt same).symm, ?_⟩
        have entry : db.zonePresence.get?
            (insideTransition db.zonePresence ⟨record, zoneId, zone⟩).key = some row := known
        rw [Batch.presence_of_heard isHeard stored, if_pos within, presenceRow, entry,
          Transition.dwellClock, if_pos isKind]
        rfl
  · rw [if_neg within] at isTransition
    obtain ⟨row, _, rfl⟩ := Option.map_eq_some_iff.mp isTransition
    simp at staying

theorem length_reminders_le (db : Db) (op : Op) :
    (reminders pg settings zoneId device db op).length ≤ 1 := by
  cases op with
  | batch batch =>
      rw [reminders, List.length_map]
      refine le_trans (List.length_filter_le _ _) ?_
      cases stored : db.geozones.get? zoneId with
      | some zone => exact Batch.length_raisedAbout_le stored device
      | none =>
          have silent : batch.raisedAbout pg settings db zoneId device = [] := by
            apply List.filter_eq_nil_iff.mpr
            intro alert listed about
            obtain ⟨_, other, _, exists_, aboutOther, _⟩ := Batch.raised_from listed
            rw [(of_decide_eq_true about).1] at aboutOther
            exact Dict.not_mem_iff.mpr stored (Option.some.inj aboutOther ▸ exists_)
          simp [silent]
  | create | replace | patch | delete => simp [reminders]

theorem mem_reminders {op : Op} {reminder : Reminder}
    (listed : reminder ∈ reminders pg settings zoneId device db op) :
    ∃ batch, op = .batch batch ∧
      reminder.alert ∈ batch.raisedAbout pg settings db zoneId device ∧
      reminder.alert.kind = .dwell ∧
      reminder.intervalS = (db.geozones.get? zoneId).bind ZoneRow.dwellAlertIntervalS := by
  cases op with
  | batch batch =>
      obtain ⟨alert, isDwell, rfl⟩ := List.mem_map.mp listed
      obtain ⟨raised, kind⟩ := List.mem_filter.mp isDwell
      exact ⟨batch, rfl, raised, of_decide_eq_true kind, rfl⟩
  | create | replace | patch | delete => simp [reminders] at listed

/-- A dwell alert is due by the clock before it, and sets the clock. -/
theorem reminder_due {op : Op} {reminder : Reminder}
    (listed : reminder ∈ reminders pg settings zoneId device db op) :
    ∃ row, db.zonePresence.get? (zoneId, device) = some row ∧
      reminder.DueSince row.lastAlertAt ∧
      ∀ after, (step pg settings db op).zonePresence.get? (zoneId, device) = some after →
        reminder.alert.occurredAt = after.lastAlertAt := by
  obtain ⟨batch, rfl, raised, isDwell, inForce⟩ := mem_reminders listed
  obtain ⟨known, about⟩ := List.mem_filter.mp raised
  obtain ⟨_, other, _, exists_, aboutOther, _⟩ := Batch.raised_from known
  rw [(of_decide_eq_true about).1] at aboutOther
  obtain rfl := Option.some.inj aboutOther
  obtain ⟨zone, stored⟩ := Dict.mem_iff_exists.mp exists_
  obtain ⟨record, row, interval, _, present, asked, due, sameTime, presentAfter⟩ :=
    Batch.dwell_from raised isDwell stored
  refine ⟨row, present, ⟨interval, ?_, sameTime ▸ due⟩, ?_⟩
  · rw [inForce, stored]
    exact asked
  · intro after found
    rw [step_batch, presentAfter] at found
    obtain rfl := Option.some.inj found
    exact sameTime

/-- While a device stays, its entry is kept and its clock only moves on. -/
theorem Paced.step_inside (kept : Kept db) (paced : Paced db) (op : Op) {row after : PresenceRow}
    (before : db.zonePresence.get? (zoneId, device) = some row)
    (present : (GeoTrack.step pg settings db op).zonePresence.get? (zoneId, device) =
      some after) :
    after.enteredAt = row.enteredAt ∧ row.lastAlertAt ≤ after.lastAlertAt := by
  rcases step_cases pg settings db op with ⟨batch, rfl⟩ | ⟨_, effect⟩
  · rw [step_batch] at present
    cases isHeard : batch.heard settings db device with
    | none =>
        rw [Batch.presence_of_not_heard isHeard, before] at present
        obtain rfl := Option.some.inj present
        exact ⟨rfl, le_rfl⟩
    | some record =>
        obtain ⟨zone, stored⟩ := stored_of_present kept before
        exact (paced.row_after isHeard stored present).2.2.2.1 row before
  · have same := effect.presence_of_some kept present
    rw [before] at same
    obtain rfl := Option.some.inj same
    exact ⟨rfl, le_rfl⟩

/-- A device enters with an accepted report, which starts the clock. -/
theorem Paced.step_enters (kept : Kept db) (paced : Paced db) {op : Op} {after : PresenceRow}
    (outside : (zoneId, device) ∉ db.zonePresence)
    (present : (GeoTrack.step pg settings db op).zonePresence.get? (zoneId, device) =
      some after) :
    ∃ batch record, op = .batch batch ∧ batch.heard settings db device = some record ∧
      after = ⟨record.reportedMs, record.reportedMs, record.reportedMs⟩ := by
  have unknown := Dict.not_mem_iff.mp outside
  rcases step_cases pg settings db op with ⟨batch, rfl⟩ | ⟨_, effect⟩
  · rw [step_batch] at present
    cases isHeard : batch.heard settings db device with
    | none =>
        rw [Batch.presence_of_not_heard isHeard, unknown] at present
        simp at present
    | some record =>
        have keptAfter : Kept (batch.outcome settings pg db) := kept.outcome
        obtain ⟨zone, stored⟩ := stored_of_present keptAfter present
        exact ⟨batch, record, rfl, isHeard,
          (paced.row_after isHeard stored present).2.2.2.2 unknown⟩
  · have same := effect.presence_of_some kept present
    rw [unknown] at same
    simp at same

/-- During a stay every dwell alert waits for its interval after the alert
before it. -/
theorem stay_paces (kept : Kept db) (paced : Paced db) (during : List Op) {row : PresenceRow}
    (present : db.zonePresence.get? (zoneId, device) = some row)
    (inside : ∀ first rest, during = first ++ rest →
      (zoneId, device) ∈ (run pg settings db first).zonePresence) :
    (∀ reminder ∈ remindersDuring pg settings zoneId device db during,
        reminder.DueSince row.lastAlertAt) ∧
      (remindersDuring pg settings zoneId device db during).Pairwise
        (fun earlier later => later.DueSince earlier.alert.occurredAt) ∧
      ∃ last, (run pg settings db during).zonePresence.get? (zoneId, device) = some last ∧
        last.enteredAt = row.enteredAt := by
  induction during generalizing db row with
  | nil => exact ⟨by simp [remindersDuring], List.Pairwise.nil, row, present, rfl⟩
  | cons op rest ih =>
      obtain ⟨after, presentAfter⟩ := Dict.mem_iff_exists.mp (inside [op] rest rfl)
      obtain ⟨sameEntry, clockMoves⟩ := paced.step_inside kept op present presentAfter
      obtain ⟨laterDue, paired, last, presentLast, sameLast⟩ :=
        ih (kept.step op) (paced.step kept op) presentAfter (by
          intro first more cut
          exact inside (op :: first) more (by rw [cut, List.cons_append]))
      have now : ∀ reminder ∈ reminders pg settings zoneId device db op,
          reminder.DueSince row.lastAlertAt ∧
            reminder.alert.occurredAt = after.lastAlertAt := by
        intro reminder listed
        obtain ⟨known, stored, due, sets⟩ := reminder_due listed
        rw [present] at stored
        obtain rfl := Option.some.inj stored
        exact ⟨due, sets after presentAfter⟩
      refine ⟨?_, ?_, last, presentLast, sameLast.trans sameEntry⟩
      · intro reminder listed
        rcases List.mem_append.mp listed with ofNow | ofRest
        · exact (now reminder ofNow).1
        · exact (laterDue reminder ofRest).earlier clockMoves
      · rw [remindersDuring, List.pairwise_append]
        refine ⟨?_, paired, ?_⟩
        · exact pairwise_of_length_le (length_reminders_le db op)
        · intro earlier ofNow later ofRest
          rw [(now earlier ofNow).2]
          exact laterDue later ofRest

/-- In every reachable state an entry is not after the dwell clock and the
clock not after the latest report; and during every stay a dwell alert waits
for the interval in force, counted from the entry and from each earlier one. -/
theorem dwell_pacing (pg : Postgis) (settings : StorageSettings) (users : KeySet Uuid)
    (ops : List Op) (zoneId : Uuid) (device : DeviceId) :
    (∀ row, (run pg settings (Db.fresh users) ops).zonePresence.get? (zoneId, device) =
        some row →
      row.enteredAt ≤ row.lastAlertAt ∧ row.lastAlertAt ≤ row.lastSeenAt ∧
        ∃ position, (run pg settings (Db.fresh users) ops).devicePositions.get? device =
          some position ∧ row.lastSeenAt = position.reportedAt) ∧
      ∀ entering during, Stay pg settings zoneId device (run pg settings (Db.fresh users) ops)
          entering during →
        ∃ batch record, entering = .batch batch ∧
          batch.heard settings (run pg settings (Db.fresh users) ops) device = some record ∧
          (∀ reminder ∈ remindersDuring pg settings zoneId device
              (run pg settings (Db.fresh users) ops) (entering :: during),
            reminder.DueSince record.reportedMs) ∧
          (remindersDuring pg settings zoneId device (run pg settings (Db.fresh users) ops)
              (entering :: during)).Pairwise
            (fun earlier later => later.DueSince earlier.alert.occurredAt) ∧
          ∃ last, (run pg settings (Db.fresh users)
              (ops ++ entering :: during)).zonePresence.get? (zoneId, device) = some last ∧
            last.enteredAt = record.reportedMs := by
  have kept : Kept (run pg settings (Db.fresh users) ops) := kept_run users ops
  have paced : Paced (run pg settings (Db.fresh users) ops) := paced_run users ops
  constructor
  · intro row present
    obtain ⟨entered, clock⟩ := paced.ordered zoneId device row present
    exact ⟨entered, clock, paced.seen zoneId device row present⟩
  · intro entering during stay
    obtain ⟨after, present⟩ := Dict.mem_iff_exists.mp (stay.inside [] during rfl)
    rw [run_nil] at present
    obtain ⟨batch, record, rfl, isHeard, rfl⟩ := paced.step_enters kept stay.outside present
    have silent : reminders pg settings zoneId device (run pg settings (Db.fresh users) ops)
        (.batch batch) = [] := by
      apply List.eq_nil_iff_forall_not_mem.mpr
      intro reminder listed
      obtain ⟨row, known, _⟩ := reminder_due listed
      exact stay.outside (Dict.mem_iff_exists.mpr ⟨row, known⟩)
    obtain ⟨due, paired, last, presentLast, sameEntry⟩ :=
      stay_paces (kept.step _) (paced.step kept _) during present stay.inside
    refine ⟨batch, record, rfl, isHeard, ?_⟩
    rw [remindersDuring, silent, List.nil_append, run_append, run_cons]
    exact ⟨due, paired, last, presentLast, sameEntry⟩

end Stays

/-- A truck that entered stays, while the owner mutes the zone and shortens the
interval from a minute to half of one. -/
def waiting : List Op :=
  [.batch ⟨90000, 90000, [⟨"truck", 0, 0, 90000, 90000⟩]⟩,
    .patch 91000 7 1 ⟨none, none, none, none, none, some false, some false, some (some 30)⟩ none,
    .batch ⟨110000, 110000, [⟨"truck", 0, 0, 110000, 110000⟩]⟩,
    .batch ⟨125000, 125000, [⟨"truck", 0, 0, 125000, 125000⟩]⟩]

theorem dwell_pacing_waiting :
    (remindersDuring .tangentPlane ⟨30, 60⟩ 7 "truck"
        (run .tangentPlane ⟨30, 60⟩ (Db.fresh (KeySet.add ∅ 1)) (roundTrip.take 1))
        (.batch ⟨0, 0, [⟨"truck", 0, 0, 0, 0⟩]⟩ :: waiting)).map
          (fun reminder => (reminder.alert.occurredAt, reminder.intervalS)) =
        [(90000, some 60), (125000, some 30)] ∧
      (remindersDuring .tangentPlane ⟨30, 60⟩ 7 "truck"
        (run .tangentPlane ⟨30, 60⟩ (Db.fresh (KeySet.add ∅ 1)) (roundTrip.take 1))
        (.batch ⟨0, 0, [⟨"truck", 0, 0, 0, 0⟩]⟩ :: waiting)).Pairwise
          (fun earlier later => later.DueSince earlier.alert.occurredAt) := by
  have stay : Stay .tangentPlane ⟨30, 60⟩ 7 "truck"
      (run .tangentPlane ⟨30, 60⟩ (Db.fresh (KeySet.add ∅ 1)) (roundTrip.take 1))
      (.batch ⟨0, 0, [⟨"truck", 0, 0, 0, 0⟩]⟩) waiting := by
    have throughout : ∀ count < 5, (7, "truck") ∈ (run .tangentPlane ⟨30, 60⟩
        (Db.fresh (KeySet.add ∅ 1)) (roundTrip.take 2 ++ waiting.take count)).zonePresence := by
      decide +kernel
    refine ⟨by decide +kernel, ?_⟩
    intro first rest cut
    have taken : waiting.take first.length = first := by rw [cut, List.take_left]
    have short : first.length ≤ waiting.length := by rw [cut, List.length_append]; omega
    rw [← taken]
    exact throughout first.length (Nat.lt_succ_of_le short)
  refine ⟨by decide +kernel, ?_⟩
  obtain ⟨_, _, _, _, _, paired, _⟩ := (dwell_pacing .tangentPlane ⟨30, 60⟩ (KeySet.add ∅ 1)
    (roundTrip.take 1) 7 "truck").2 _ _ stay
  exact paired

end GeoTrack
