import GeoTrack.MaintenanceRounds

/-!
# What the rounds leave for the reports

While replicas tick, rounds end in time and none of them fails, some round was
carried through within a tick, a lease and the length of a round.  Whoever finds
the lead taken finds the promise of a replica that keeps it.  The partitions of
that round are there for every report that may be stored.
-/

open LabelledRuns

namespace GeoTrack

/-- A transaction that is still open is no older than rounds are long. -/
def LeadStage.InTime (roundMs : ℕ) (clock : ℤ) : LeadStage → Prop
  | .working since => clock ≤ since + roundMs
  | .givingBack _ => True

instance (roundMs : ℕ) (clock : ℤ) (stage : LeadStage) :
    Decidable (stage.InTime roundMs clock) := by
  cases stage <;> unfold LeadStage.InTime <;> infer_instance

/-- The event takes a lead from the replica that should use it. -/
def MaintenanceEvent.Lapse : MaintenanceEvent → Prop
  | .takeUnanswered _ _ => True
  | .commitUnheard _ _ _ => True
  | .fail _ _ => True
  | .vanish _ _ => True
  | _ => False

instance (event : MaintenanceEvent) : Decidable event.Lapse := by
  cases event <;> unfold MaintenanceEvent.Lapse <;> infer_instance

/-- No round fails, rounds end in time, and some replica ticks at least once in
a period. -/
def Calm (periodMs roundMs : ℕ) (before : MaintenanceFleet) (event : MaintenanceEvent) : Prop :=
  ¬ event.Lapse ∧ event.clock ≤ before.lastTick + periodMs ∧
    ∀ entry ∈ before.leads.entries, entry.2.InTime roundMs event.clock

instance (periodMs roundMs : ℕ) (before : MaintenanceFleet) (event : MaintenanceEvent) :
    Decidable (Calm periodMs roundMs before event) :=
  inferInstanceAs (Decidable (_ ∧ _ ∧ _))

namespace MaintenanceFleet

/-- Unless the calm began later than a time, a round that took the lead since
then was carried through. -/
def Since (calmFrom : ℤ) (fleet : MaintenanceFleet) (time : ℤ) : Prop :=
  time ≤ calmFrom ∨ ∃ done ∈ fleet.completed, time ≤ done.since

theorem Since.mono {calmFrom time earlier : ℤ} {fleet after : MaintenanceFleet}
    (since : fleet.Since calmFrom time) (order : earlier ≤ time)
    (more : ∀ done ∈ fleet.completed, done ∈ after.completed) : after.Since calmFrom earlier := by
  rcases since with before | ⟨done, listed, recent⟩
  · exact Or.inl (order.trans before)
  · exact Or.inr ⟨done, more done listed, order.trans recent⟩

/-- What is known of the leads while all is calm. -/
structure Kept (ttlMs periodMs : ℕ) (calmFrom : ℤ) (fleet : MaintenanceFleet) : Prop where
  /-- A lease that was taken in the calm belongs to a round that is done or
  being done. -/
  lease : ∀ lease, fleet.lease = some lease → lease.expiresAt - ttlMs ≤ calmFrom ∨
    (∃ leader since, fleet.leads.get? leader = some (.working since) ∧
      since = lease.expiresAt - ttlMs) ∨
    ∃ done ∈ fleet.completed, done.since = lease.expiresAt - ttlMs
  /-- When a round began, the one before was not long ago. -/
  working : ∀ leader since, fleet.leads.get? leader = some (.working since) →
    fleet.Since calmFrom (since - periodMs - ttlMs)
  /-- At the last tick, a round was done or being done. -/
  tick : fleet.Since calmFrom (fleet.lastTick - ttlMs) ∨
    ∃ leader since, fleet.leads.get? leader = some (.working since) ∧
      fleet.lastTick - ttlMs ≤ since

section Steps

variable {ttlMs periodMs roundMs retentionDays : ℕ} {calmFrom : ℤ}
  {fleet after : MaintenanceFleet} {event : MaintenanceEvent}

theorem inTime_of_calm (calm : Calm periodMs roundMs fleet event) {leader : String} {since : ℤ}
    (working : fleet.leads.get? leader = some (.working since)) :
    event.clock ≤ since + roundMs :=
  calm.2.2 (leader, .working since) (Dict.mem_entries_iff.mpr working)

theorem Kept.refused (kept : fleet.Kept ttlMs periodMs calmFrom) {clock : ℤ} {lease : LeadLease}
    (held : fleet.lease = some lease) (present : clock ≤ lease.expiresAt) :
    ({ fleet with clock := clock, lastTick := clock } : MaintenanceFleet).Kept
      ttlMs periodMs calmFrom := by
  refine ⟨kept.lease, kept.working, ?_⟩
  change fleet.Since calmFrom (clock - ttlMs) ∨ ∃ leader since,
    fleet.leads.get? leader = some (.working since) ∧ clock - ttlMs ≤ since
  rcases kept.lease lease held with early | ⟨leader, since, working, same⟩ | ⟨done, listed, same⟩
  · exact Or.inl (Or.inl (by omega))
  · exact Or.inr ⟨leader, since, working, by omega⟩
  · exact Or.inl (Or.inr ⟨done, listed, by omega⟩)

theorem Kept.granted (quick : roundMs ≤ ttlMs) (sound : fleet.Sound ttlMs)
    (kept : fleet.Kept ttlMs periodMs calmFrom) {clock : ℤ} {replica : String}
    (later : fleet.clock ≤ clock) (free : fleet.Free clock) (idle : replica ∉ fleet.leads)
    (calm : Calm periodMs roundMs fleet (.take clock replica)) :
    ({ fleet with
        clock := clock
        lease := some ⟨replica, clock + ttlMs⟩
        leads := fleet.leads.set replica (.working clock)
        lastTick := clock } : MaintenanceFleet).Kept ttlMs periodMs calmFrom := by
  have recentTick : clock ≤ fleet.lastTick + periodMs := calm.2.1
  have mine : (fleet.leads.set replica (.working clock)).get? replica = some (.working clock) := by
    rw [Dict.get?_set, if_pos rfl]
  -- the round of the last tick cannot be open any more, or its lease would stand
  have ready : fleet.Since calmFrom (clock - periodMs - ttlMs) := by
    rcases kept.tick with known | ⟨leader, since, working, recent⟩
    · exact known.mono (by omega) fun _ listed => listed
    · have expired := sound.run_out later free (Or.inl ⟨_, working, rfl⟩)
      have open_ := inTime_of_calm calm working
      change since + ttlMs < clock at expired
      change clock ≤ since + roundMs at open_
      omega
  refine ⟨?lease, ?working, ?tick⟩
  case lease =>
      rintro lease same
      obtain rfl := Option.some.inj same
      exact Or.inr (Or.inl ⟨replica, clock, mine, by dsimp only; omega⟩)
  case working =>
      intro leader since found
      rcases Dict.get?_set_cases found with ⟨rfl, same⟩ | ⟨_, before⟩
      · obtain rfl := LeadStage.working.inj same
        exact ready
      · exact kept.working leader since before
  case tick => exact Or.inr ⟨replica, clock, mine, by dsimp only; omega⟩

theorem Kept.commit (kept : fleet.Kept ttlMs periodMs calmFrom) {clock since : ℤ}
    {replica : String} {round : Round} (partitions : Partitions)
    (working : fleet.leads.get? replica = some (.working since)) :
    ({ fleet with
        clock := clock
        leads := fleet.leads.erase replica
        partitions := partitions
        completed := ⟨replica, since, round⟩ :: fleet.completed } : MaintenanceFleet).Kept
      ttlMs periodMs calmFrom := by
  have more : ∀ done ∈ fleet.completed, done ∈ (⟨replica, since, round⟩ : LedRound) :: fleet.completed :=
    fun done listed => List.mem_cons_of_mem _ listed
  -- a round that was being done is still being done, or it is this one
  have survives : ∀ leader other, fleet.leads.get? leader = some (.working other) →
      (fleet.leads.erase replica).get? leader = some (.working other) ∨ other = since := by
    intro leader other found
    by_cases same : leader = replica
    · right
      rw [same, working] at found
      exact (LeadStage.working.inj (Option.some.inj found)).symm
    · left
      rw [Dict.get?_erase, if_neg same]
      exact found
  refine ⟨?lease, ?working, ?tick⟩
  case lease =>
      intro lease held
      rcases kept.lease lease held with early | ⟨leader, other, found, same⟩ | ⟨done, listed, same⟩
      · exact Or.inl early
      · rcases survives leader other found with still | rfl
        · exact Or.inr (Or.inl ⟨leader, other, still, same⟩)
        · exact Or.inr (Or.inr ⟨_, List.mem_cons_self .., same⟩)
      · exact Or.inr (Or.inr ⟨done, more done listed, same⟩)
  case working =>
      intro leader other found
      exact (kept.working leader other (Dict.of_get?_erase found).2).mono le_rfl more
  case tick =>
      rcases kept.tick with known | ⟨leader, other, found, recent⟩
      · exact Or.inl (known.mono le_rfl more)
      · rcases survives leader other found with still | rfl
        · exact Or.inr ⟨leader, other, still, recent⟩
        · exact Or.inl (Or.inr ⟨_, List.mem_cons_self .., recent⟩)

/-- What was handed back was no round that is being done. -/
theorem Kept.release (kept : fleet.Kept ttlMs periodMs calmFrom) {clock since : ℤ}
    {replica : String} {lease : Option LeadLease}
    (leaving : fleet.leads.get? replica = some (.givingBack since))
    (nothingNew : ∀ other, lease = some other → fleet.lease = some other) :
    ({ fleet with clock := clock, lease := lease, leads := fleet.leads.erase replica } :
      MaintenanceFleet).Kept ttlMs periodMs calmFrom := by
  have survives : ∀ leader other, fleet.leads.get? leader = some (.working other) →
      (fleet.leads.erase replica).get? leader = some (.working other) := by
    intro leader other found
    have differs : leader ≠ replica := by
      rintro rfl
      cases leaving.symm.trans found
    rw [Dict.get?_erase, if_neg differs]
    exact found
  refine ⟨?lease, ?working, ?tick⟩
  case lease =>
      intro other remains
      rcases kept.lease other (nothingNew other remains) with
        early | ⟨leader, time, found, same⟩ | done
      · exact Or.inl early
      · exact Or.inr (Or.inl ⟨leader, time, survives leader time found, same⟩)
      · exact Or.inr (Or.inr done)
  case working =>
      intro leader other found
      exact kept.working leader other (Dict.of_get?_erase found).2
  case tick =>
      rcases kept.tick with known | ⟨leader, time, found, recent⟩
      · exact Or.inl known
      · exact Or.inr ⟨leader, time, survives leader time found, recent⟩

theorem Kept.step (quick : roundMs ≤ ttlMs) (sound : fleet.Sound ttlMs)
    (kept : fleet.Kept ttlMs periodMs calmFrom) (later : fleet.clock ≤ event.clock)
    (calm : Calm periodMs roundMs fleet event)
    (moved : fleet.Moved ttlMs retentionDays event after) :
    after.Kept ttlMs periodMs calmFrom := by
  cases moved with
  | refused _ held present => exact kept.refused held present
  | granted idle free => exact kept.granted quick sound later free idle calm
  | commit working => exact kept.commit _ working
  | release leaving _ nothingNew => exact kept.release leaving nothingNew
  | wait => exact ⟨kept.lease, kept.working, kept.tick⟩
  | takeUnanswered => exact absurd trivial calm.1
  | commitUnheard => exact absurd trivial calm.1
  | fail => exact absurd trivial calm.1
  | vanish => exact absurd trivial calm.1

/-- Neither the lease nor the last tick is from the future. -/
structure Dated (ttlMs : ℕ) (fleet : MaintenanceFleet) : Prop where
  lease : ∀ lease, fleet.lease = some lease → lease.expiresAt - ttlMs ≤ fleet.clock
  tick : fleet.lastTick ≤ fleet.clock

theorem Dated.step (dated : fleet.Dated ttlMs) (later : fleet.clock ≤ event.clock)
    (moved : fleet.Moved ttlMs retentionDays event after) : after.Dated ttlMs := by
  have lease : ∀ lease, fleet.lease = some lease → lease.expiresAt - ttlMs ≤ event.clock :=
    fun lease held => (dated.lease lease held).trans later
  have tick := dated.tick.trans later
  cases moved with
  | refused => exact ⟨lease, le_rfl⟩
  | granted =>
      refine ⟨fun other same => ?_, le_rfl⟩
      obtain rfl := Option.some.inj same
      dsimp only
      omega
  | @takeUnanswered clock replica kept idle fromServer =>
      refine ⟨fun other held => ?_, tick⟩
      rcases fromServer with same | ⟨_, same⟩
      · exact lease other (same.trans held)
      · obtain rfl := Option.some.inj (same.symm.trans held)
        change clock + ttlMs - ttlMs ≤ clock
        omega
  | commit => exact ⟨lease, tick⟩
  | commitUnheard => exact ⟨lease, tick⟩
  | fail => exact ⟨lease, tick⟩
  | release _ _ nothingNew => exact ⟨fun other held => lease other (nothingNew other held), tick⟩
  | vanish => exact ⟨lease, tick⟩
  | wait => exact ⟨lease, tick⟩

/-- Nothing that happened before the calm is held against it. -/
theorem kept_at_start (sound : fleet.Sound ttlMs) (dated : fleet.Dated ttlMs) :
    fleet.Kept ttlMs periodMs fleet.clock := by
  refine ⟨fun lease held => Or.inl (dated.lease lease held), ?_, ?_⟩
  · intro leader since working
    have past := sound.past leader since (Or.inl ⟨_, working, rfl⟩)
    exact Or.inl (by omega)
  · have tick := dated.tick
    exact Or.inl (Or.inl (by omega))

/-- The last tick is no longer ago than a period, and no round is overdue. -/
structure Timely (periodMs roundMs : ℕ) (fleet : MaintenanceFleet) : Prop where
  tick : fleet.clock ≤ fleet.lastTick + periodMs
  working : ∀ leader since, fleet.leads.get? leader = some (.working since) →
    fleet.clock ≤ since + roundMs

theorem timely_of_calm (calm : Calm periodMs roundMs fleet event)
    (moved : fleet.Moved ttlMs retentionDays event after) : after.Timely periodMs roundMs := by
  have tick := calm.2.1
  have working : ∀ leader since, fleet.leads.get? leader = some (.working since) →
      event.clock ≤ since + roundMs := fun leader since found => inTime_of_calm calm found
  have erased : ∀ replica leader since,
      (fleet.leads.erase replica).get? leader = some (.working since) →
      event.clock ≤ since + roundMs :=
    fun _ leader since found => working leader since (Dict.of_get?_erase found).2
  cases moved with
  | @refused clock => exact ⟨(by dsimp only; omega), working⟩
  | @granted clock replica =>
      refine ⟨(by dsimp only; omega), fun leader since found => ?_⟩
      rcases Dict.get?_set_cases found with ⟨_, same⟩ | ⟨_, before⟩
      · obtain rfl := LeadStage.working.inj same
        dsimp only
        omega
      · exact working leader since before
  | commit => exact ⟨tick, erased _⟩
  | release => exact ⟨tick, erased _⟩
  | wait => exact ⟨tick, working⟩
  | takeUnanswered => exact absurd trivial calm.1
  | commitUnheard => exact absurd trivial calm.1
  | fail => exact absurd trivial calm.1
  | vanish => exact absurd trivial calm.1

/-- In the calm, the last round that was carried through is not older than a
tick, a lease and the length of a round. -/
theorem Kept.recent (kept : fleet.Kept ttlMs periodMs calmFrom)
    (timely : fleet.Timely periodMs roundMs) :
    fleet.Since calmFrom (fleet.clock - periodMs - ttlMs - roundMs) := by
  have tick := timely.tick
  rcases kept.tick with known | ⟨leader, since, working, _⟩
  · exact known.mono (by omega) fun _ listed => listed
  · have inTime := timely.working leader since working
    exact (kept.working leader since working).mono (by omega) fun _ listed => listed

/-- The days that a round has seen to are there until they leave the window. -/
def Provided (retentionDays : ℕ) (fleet : MaintenanceFleet) : Prop :=
  ∀ done ∈ fleet.completed, done.since ≤ nowMs done.round.now ∧
    ∀ day, fleet.clock / dayMs - retentionDays ≤ day → day ≤ utcDate done.round.now + daysAhead →
      day ∈ fleet.partitions

theorem Provided.step (provided : fleet.Provided retentionDays) (later : fleet.clock ≤ event.clock)
    (moved : fleet.Moved ttlMs retentionDays event after) : after.Provided retentionDays := by
  have monotone : ∀ clock, fleet.clock ≤ clock → fleet.clock / dayMs ≤ clock / dayMs :=
    fun clock order => Int.ediv_le_ediv (by decide) order
  have unchanged : ∀ clock, fleet.clock ≤ clock → ∀ done ∈ fleet.completed,
      done.since ≤ nowMs done.round.now ∧ ∀ day, clock / dayMs - retentionDays ≤ day →
        day ≤ utcDate done.round.now + daysAhead → day ∈ fleet.partitions := by
    intro clock order done listed
    refine ⟨(provided done listed).1, fun day inWindow ahead => ?_⟩
    have date := monotone clock order
    exact (provided done listed).2 day (by omega) ahead
  have member : ∀ now day, day ∈ (runOnce fleet.partitions ⟨now, retentionDays, true, true⟩).1 ↔
      utcDate now - retentionDays ≤ day ∧ (day ∈ fleet.partitions ∨ day ≤ utcDate now + daysAhead) :=
    fun now day => mem_runOnce ⟨rfl, rfl⟩
  have today : ∀ clock now, nowMs now ≤ clock → utcDate now ≤ clock / dayMs := by
    intro clock now past
    rw [utcDate_eq]
    exact Int.ediv_le_ediv (by decide) past
  -- what a round drops had left the window
  have rolled : ∀ clock now, fleet.clock ≤ clock → nowMs now ≤ clock → ∀ done ∈ fleet.completed,
      done.since ≤ nowMs done.round.now ∧ ∀ day, clock / dayMs - retentionDays ≤ day →
        day ≤ utcDate done.round.now + daysAhead →
        day ∈ (runOnce fleet.partitions ⟨now, retentionDays, true, true⟩).1 := by
    intro clock now order past done listed
    obtain ⟨began, there⟩ := unchanged clock order done listed
    refine ⟨began, fun day inWindow ahead => (member now day).mpr ⟨?_, Or.inl ?_⟩⟩
    · have date := today clock now past
      omega
    · exact there day inWindow ahead
  cases moved with
  | refused => exact unchanged _ later
  | granted => exact unchanged _ later
  | takeUnanswered => exact unchanged _ later
  | fail => exact unchanged _ later
  | release => exact unchanged _ later
  | vanish => exact unchanged _ later
  | wait => exact unchanged _ later
  | @commit clock replica now since working began past =>
      intro done listed
      rcases List.mem_cons.mp listed with rfl | earlier
      · refine ⟨began, fun day inWindow ahead => (member now day).mpr ⟨?_, Or.inr ahead⟩⟩
        have date := today clock now past
        dsimp only at inWindow
        omega
      · exact rolled clock now later past done earlier
  | commitUnheard _ past => exact rolled _ _ later past

end Steps

end MaintenanceFleet

open MaintenanceFleet in
/-- After a calm that is longer than a tick, a lease and a round, with anything
before it, every report that may be stored finds its partition, as long as
reports may not be further ahead than two days less that time. -/
theorem storable_report_covered {ttlMs retentionDays periodMs roundMs : ℕ} (quick : roundMs ≤ ttlMs)
    {start : ℤ} {partitions : Partitions} {events calmEvents : List MaintenanceEvent}
    {before fleet : MaintenanceFleet}
    (run : Run (step ttlMs retentionDays) Anything (fresh start partitions) events before)
    (calm : Run (step ttlMs retentionDays) (Calm periodMs roundMs) before calmEvents fleet)
    (lasting : before.clock + periodMs + ttlMs + roundMs < fleet.clock)
    (settings : StorageSettings) (sameRetention : settings.historyRetentionDays = retentionDays)
    (near : settings.ingestMaxFutureSkewS * 1000 + periodMs + ttlMs + roundMs ≤ 2 * dayMs)
    (record : LocationRecord) (storable : Storable settings fleet.clock record) :
    Covers fleet.partitions record.reportedMs := by
  have soundBefore := sound_of_run (sound_fresh ttlMs start partitions) run
  have providedBefore : before.Provided retentionDays := by
    refine run.invariant (fun done listed => by cases listed) ?_
    intro state event after provided _ stepTo
    obtain ⟨later, moved⟩ := moved_of_step stepTo
    exact provided.step later moved
  have datedBefore : before.Dated ttlMs := by
    refine run.invariant ⟨fun lease held => (by cases held), le_rfl⟩ ?_
    intro state event after dated _ stepTo
    obtain ⟨later, moved⟩ := moved_of_step stepTo
    exact dated.step later moved
  have throughout : (fleet.Sound ttlMs ∧ fleet.Kept ttlMs periodMs before.clock ∧
      fleet.Provided retentionDays) ∧ (fleet.clock ≤ before.clock ∨ fleet.Timely periodMs roundMs) := by
    refine @Run.invariant _ _ _ _ _ (fun state => (state.Sound ttlMs ∧
      state.Kept ttlMs periodMs before.clock ∧ state.Provided retentionDays) ∧
      (state.clock ≤ before.clock ∨ state.Timely periodMs roundMs)) _ _ calm
      ⟨⟨soundBefore, kept_at_start soundBefore datedBefore, providedBefore⟩, Or.inl le_rfl⟩ ?_
    rintro state event after ⟨⟨sound, kept, provided⟩, _⟩ permitted stepTo
    obtain ⟨later, moved⟩ := moved_of_step stepTo
    exact ⟨⟨sound.step later moved, kept.step quick sound later permitted moved,
      provided.step later moved⟩, Or.inr (timely_of_calm permitted moved)⟩
  obtain ⟨⟨_, kept, provided⟩, timely⟩ := throughout
  have timely := timely.resolve_left (by omega)
  obtain ⟨done, listed, recent⟩ : ∃ done ∈ fleet.completed,
      fleet.clock - periodMs - ttlMs - roundMs ≤ done.since :=
    (kept.recent timely).resolve_left (by omega)
  obtain ⟨began, there⟩ := provided done listed
  obtain ⟨_, notOld, notAhead⟩ := storable_iff.mp storable
  unfold oldestStorable at notOld
  unfold newestStorable at notAhead
  rw [covers_iff_mem]
  refine there _ ?_ ?_
  · rw [sameRetention] at notOld
    unfold dayMs
    omega
  · rw [utcDate_eq]
    unfold dayMs daysAhead at *
    omega

/-- The first leader dies with the lead. -/
def diesLeading : List MaintenanceEvent := [.take 0 "first", .vanish 10 "first"]

/-- The others find it taken for one round, and then carry on. -/
def carriesOn : List MaintenanceEvent :=
  [.take 500000 "second", .take 600000 "third", .commit 600300 "third" 600100000000,
    .take 1200000 "second", .commit 1200200 "second" 1200100000000, .wait 1300000]

open MaintenanceFleet in
theorem storable_report_covered_carriesOn :
    ∃ before fleet : MaintenanceFleet,
      Run (step leaseTtlMs 7) Anything (fresh 0 ∅) diesLeading before ∧
      Run (step leaseTtlMs 7) (Calm 620000 20000) before carriesOn fleet ∧
      Covers fleet.partitions 1300000 := by
  obtain ⟨before, executed, atClock, there⟩ := @exists_of_exec _ _ (step leaseTtlMs 7) Anything
    (fresh 0 ∅) _ (fun before => before.clock = 10 ∧
      (exec (step leaseTtlMs 7) (Calm 620000 20000) before carriesOn).any
        (fun fleet => decide (fleet.clock = 1300000)) = true) _ diesLeading (by decide +kernel)
  obtain ⟨fleet, calm, atEnd⟩ := exists_of_exec there
  refine ⟨before, fleet, run_of_exec executed, run_of_exec calm, ?_⟩
  have storable : Storable ⟨7, 30⟩ fleet.clock ⟨"truck", 0, 0, 1300000, 0⟩ := by
    rw [atEnd]
    decide +kernel
  exact storable_report_covered (by decide) (run_of_exec executed) (run_of_exec calm)
    (by rw [atClock, atEnd]; decide) ⟨7, 30⟩ rfl (by decide) _ storable

end GeoTrack
