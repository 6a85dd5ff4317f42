import GeoTrack.MaintenanceLease

/-!
# Rounds of the partition maintenance

A lead that was taken is a promise to do the round, and to hear that it is done.
The lease of a promise stands until it runs out, unless the leader itself hands it
back, so two rounds that are carried through never begin within one lease of each
other.

The promises also reach far enough.  While replicas tick, rounds end in time and
none of them fails, some round was carried through within an interval, a lease
and the length of a round, and the partitions it left are enough for every
report that may be stored.
-/

open LabelledRuns

namespace GeoTrack

/-- Two leads were taken further apart than a lease is long. -/
def Apart (ttlMs : ℕ) (one other : ℤ) : Prop := one + ttlMs < other ∨ other + ttlMs < one

namespace MaintenanceFleet

/-- A replica took the lead at a time and has not handed it back. -/
def Promised (fleet : MaintenanceFleet) (leader : String) (since : ℤ) : Prop :=
  (∃ stage, fleet.leads.get? leader = some stage ∧ stage.since = since) ∨
    ∃ done ∈ fleet.completed, done.leader = leader ∧ done.since = since

/-- How the promises stand to the lease and to each other. -/
structure Sound (ttlMs : ℕ) (fleet : MaintenanceFleet) : Prop where
  past : ∀ leader since, fleet.Promised leader since → since ≤ fleet.clock
  leased : ∀ leader since, fleet.Promised leader since →
    since + ttlMs < fleet.clock ∨ fleet.lease = some ⟨leader, since + ttlMs⟩
  apart : ∀ leader stage other another, leader ≠ other → fleet.leads.get? leader = some stage →
    fleet.leads.get? other = some another → Apart ttlMs stage.since another.since
  own : ∀ leader stage, fleet.leads.get? leader = some stage → ∀ done ∈ fleet.completed,
    done.leader = leader → done.since + ttlMs < stage.since
  others : ∀ leader stage, fleet.leads.get? leader = some stage → ∀ done ∈ fleet.completed,
    Apart ttlMs stage.since done.since
  completed : fleet.completed.Pairwise fun one other => Apart ttlMs one.since other.since

section Steps

variable {ttlMs retentionDays : ℕ} {fleet after : MaintenanceFleet} {event : MaintenanceEvent}

/-- Where no lease stands in the way, every promise has run out. -/
theorem Sound.run_out (sound : fleet.Sound ttlMs) {clock : ℤ} (later : fleet.clock ≤ clock)
    (free : fleet.Free clock) {leader : String} {since : ℤ}
    (promised : fleet.Promised leader since) : since + ttlMs < clock := by
  rcases sound.leased leader since promised with expired | held
  · exact expired.trans_le later
  · exact free _ held

/-- Steps that begin no round and finish none. -/
theorem Sound.narrow (sound : fleet.Sound ttlMs) (later : fleet.clock ≤ after.clock)
    (fewer : ∀ leader stage, after.leads.get? leader = some stage →
      ∃ held, fleet.leads.get? leader = some held ∧ held.since = stage.since)
    (same : after.completed = fleet.completed)
    (lease : ∀ leader since, after.Promised leader since →
      fleet.lease = some ⟨leader, since + ttlMs⟩ →
      since + ttlMs < after.clock ∨ after.lease = some ⟨leader, since + ttlMs⟩) :
    after.Sound ttlMs := by
  have known : ∀ leader since, after.Promised leader since → fleet.Promised leader since := by
    rintro leader since (⟨stage, found, rfl⟩ | done)
    · obtain ⟨held, before, equal⟩ := fewer leader stage found
      exact Or.inl ⟨held, before, equal⟩
    · rw [same] at done
      exact Or.inr done
  refine ⟨?past, ?leased, ?apart, ?own, ?others, ?completed⟩
  case past =>
      intro leader since promised
      exact (sound.past leader since (known leader since promised)).trans later
  case leased =>
      intro leader since promised
      rcases sound.leased leader since (known leader since promised) with expired | held
      · exact Or.inl (expired.trans_le later)
      · exact lease leader since promised held
  case apart =>
      intro leader stage other another differs found foundOther
      obtain ⟨held, before, equal⟩ := fewer leader stage found
      obtain ⟨heldOther, beforeOther, equalOther⟩ := fewer other another foundOther
      rw [← equal, ← equalOther]
      exact sound.apart leader held other heldOther differs before beforeOther
  case own =>
      intro leader stage found done listed mine
      obtain ⟨held, before, equal⟩ := fewer leader stage found
      rw [← equal]
      exact sound.own leader held before done (same ▸ listed) mine
  case others =>
      intro leader stage found done listed
      obtain ⟨held, before, equal⟩ := fewer leader stage found
      rw [← equal]
      exact sound.others leader held before done (same ▸ listed)
  case completed =>
      rw [same]
      exact sound.completed

theorem Sound.granted (sound : fleet.Sound ttlMs) {clock : ℤ} {replica : String}
    (later : fleet.clock ≤ clock) (idle : replica ∉ fleet.leads) (free : fleet.Free clock) :
    ({ fleet with
        clock := clock
        lease := some ⟨replica, clock + ttlMs⟩
        leads := fleet.leads.set replica (.working clock)
        lastTick := clock } : MaintenanceFleet).Sound ttlMs := by
  have expired : ∀ leader stage, fleet.leads.get? leader = some stage →
      stage.since + ttlMs < clock := fun leader stage found =>
    sound.run_out later free (Or.inl ⟨stage, found, rfl⟩)
  have done : ∀ done ∈ fleet.completed, done.since + ttlMs < clock := fun done listed =>
    sound.run_out later free (Or.inr ⟨done, listed, rfl, rfl⟩)
  refine ⟨?past, ?leased, ?apart, ?own, ?others, sound.completed⟩
  case past =>
      rintro leader since (⟨stage, found, rfl⟩ | ⟨round, listed, _, rfl⟩)
      · rcases Dict.get?_set_cases found with ⟨_, rfl⟩ | ⟨_, before⟩
        · exact le_refl clock
        · exact (sound.past leader _ (Or.inl ⟨stage, before, rfl⟩)).trans later
      · exact (sound.past _ _ (Or.inr ⟨round, listed, rfl, rfl⟩)).trans later
  case leased =>
      rintro leader since (⟨stage, found, rfl⟩ | ⟨round, listed, _, rfl⟩)
      · rcases Dict.get?_set_cases found with ⟨rfl, rfl⟩ | ⟨_, before⟩
        · exact Or.inr rfl
        · exact Or.inl (expired leader stage before)
      · exact Or.inl (done round listed)
  case apart =>
      intro leader stage other another differs found foundOther
      rcases Dict.get?_set_cases found with ⟨rfl, rfl⟩ | ⟨_, before⟩
      · rcases Dict.get?_set_cases foundOther with ⟨rfl, _⟩ | ⟨_, beforeOther⟩
        · exact absurd rfl differs
        · exact Or.inr (expired other another beforeOther)
      · rcases Dict.get?_set_cases foundOther with ⟨rfl, rfl⟩ | ⟨_, beforeOther⟩
        · exact Or.inl (expired leader stage before)
        · exact sound.apart leader stage other another differs before beforeOther
  case own =>
      intro leader stage found round listed mine
      rcases Dict.get?_set_cases found with ⟨rfl, rfl⟩ | ⟨_, before⟩
      · exact done round listed
      · exact sound.own leader stage before round listed mine
  case others =>
      intro leader stage found round listed
      rcases Dict.get?_set_cases found with ⟨rfl, rfl⟩ | ⟨_, before⟩
      · exact Or.inr (done round listed)
      · exact sound.others leader stage before round listed

theorem Sound.commit (sound : fleet.Sound ttlMs) {clock since now : ℤ} {replica : String}
    (later : fleet.clock ≤ clock) (working : fleet.leads.get? replica = some (.working since))
    (partitions : Partitions) :
    ({ fleet with
        clock := clock
        leads := fleet.leads.erase replica
        partitions := partitions
        completed := ⟨replica, since, now, retentionDays, true, true⟩ :: fleet.completed } :
      MaintenanceFleet).Sound ttlMs := by
  have known : ∀ leader since',
      (({ fleet with
          clock := clock
          leads := fleet.leads.erase replica
          partitions := partitions
          completed := ⟨replica, since, now, retentionDays, true, true⟩ :: fleet.completed } :
        MaintenanceFleet).Promised leader since') → fleet.Promised leader since' := by
    rintro leader since' (⟨stage, found, rfl⟩ | ⟨round, listed, rfl, rfl⟩)
    · exact Or.inl ⟨stage, (Dict.of_get?_erase found).2, rfl⟩
    · rcases List.mem_cons.mp listed with rfl | before
      · exact Or.inl ⟨_, working, rfl⟩
      · exact Or.inr ⟨round, before, rfl, rfl⟩
  refine ⟨?past, ?leased, ?apart, ?own, ?others, ?completed⟩
  case past =>
      intro leader since' promised
      exact (sound.past leader since' (known leader since' promised)).trans later
  case leased =>
      intro leader since' promised
      rcases sound.leased leader since' (known leader since' promised) with expired | held
      · exact Or.inl (expired.trans_le later)
      · exact Or.inr held
  case apart =>
      intro leader stage other another differs found foundOther
      exact sound.apart leader stage other another differs (Dict.of_get?_erase found).2
        (Dict.of_get?_erase foundOther).2
  case own =>
      intro leader stage found round listed mine
      obtain ⟨differs, before⟩ := Dict.of_get?_erase found
      rcases List.mem_cons.mp listed with rfl | earlier
      · exact absurd mine.symm differs
      · exact sound.own leader stage before round earlier mine
  case others =>
      intro leader stage found round listed
      obtain ⟨differs, before⟩ := Dict.of_get?_erase found
      rcases List.mem_cons.mp listed with rfl | earlier
      · exact sound.apart leader stage replica _ differs before working
      · exact sound.others leader stage before round earlier
  case completed =>
      refine List.pairwise_cons.mpr ⟨?_, sound.completed⟩
      exact fun round listed => sound.others replica _ working round listed

/-- A step keeps the promises. -/
theorem Sound.step (sound : fleet.Sound ttlMs) (later : fleet.clock ≤ event.clock)
    (moved : fleet.Moved ttlMs retentionDays event after) : after.Sound ttlMs := by
  cases moved with
  | refused =>
      exact sound.narrow later (fun _ stage found => ⟨stage, found, rfl⟩) rfl
        fun _ _ _ held => Or.inr held
  | granted idle free => exact sound.granted later idle free
  | takeUnanswered idle fromServer =>
      refine sound.narrow later (fun _ stage found => ⟨stage, found, rfl⟩) rfl ?_
      intro leader since promised held
      rcases fromServer with same | ⟨free, _⟩
      · exact Or.inr (same.symm.trans held)
      · exact Or.inl (free _ held)
  | commit working => exact sound.commit later working _
  | commitUnheard working | fail working =>
      refine sound.narrow later ?_ rfl fun _ _ _ held => Or.inr held
      intro leader stage found
      rcases Dict.get?_set_cases found with ⟨rfl, rfl⟩ | ⟨_, before⟩
      · exact ⟨_, working, rfl⟩
      · exact ⟨stage, before, rfl⟩
  | @release clock replica since lease leaving kept _ =>
      refine sound.narrow later
        (fun _ stage found => ⟨stage, (Dict.of_get?_erase found).2, rfl⟩) rfl ?_
      intro leader promisedAt promised held
      by_cases mine : leader = replica
      · -- what the replica has promised besides is a round of an earlier lease
        have began := sound.past replica since (Or.inl ⟨_, leaving, rfl⟩)
        rcases promised with ⟨stage, found, _⟩ | ⟨done, listed, isLeader, rfl⟩
        · exact absurd mine (Dict.of_get?_erase found).1
        · have before := sound.own replica _ leaving done listed (isLeader.trans mine)
          exact Or.inl (before.trans_le (began.trans later))
      · exact (kept _ held mine).symm
  | vanish =>
      exact sound.narrow later (fun _ stage found => ⟨stage, (Dict.of_get?_erase found).2, rfl⟩) rfl
        fun _ _ _ held => Or.inr held
  | wait =>
      exact sound.narrow later (fun _ stage found => ⟨stage, found, rfl⟩) rfl
        fun _ _ _ held => Or.inr held

end Steps

theorem sound_fresh (ttlMs : ℕ) (clock : ℤ) (partitions : Partitions) :
    (fresh clock partitions).Sound ttlMs := by
  have nothing : ∀ leader since, ¬ (fresh clock partitions).Promised leader since := by
    rintro leader since (⟨stage, found, _⟩ | ⟨done, listed, _⟩)
    · cases found
    · cases listed
  have nobody : ∀ leader stage, (fresh clock partitions).leads.get? leader ≠ some stage := by
    intro leader stage found
    cases found
  exact ⟨fun leader since promised => absurd promised (nothing leader since),
    fun leader since promised => absurd promised (nothing leader since),
    fun leader stage _ _ _ found => absurd found (nobody leader stage),
    fun leader stage found => absurd found (nobody leader stage),
    fun leader stage found => absurd found (nobody leader stage), List.Pairwise.nil⟩

theorem sound_of_run {ttlMs retentionDays : ℕ} {allowed : MaintenanceFleet → MaintenanceEvent → Prop}
    {start fleet : MaintenanceFleet} {events : List MaintenanceEvent} (sound : start.Sound ttlMs)
    (run : Run (step ttlMs retentionDays) allowed start events fleet) : fleet.Sound ttlMs := by
  refine run.invariant sound ?_
  intro before event after soundBefore _ stepTo
  obtain ⟨later, moved⟩ := moved_of_step stepTo
  exact soundBefore.step later moved

end MaintenanceFleet

/-- Whatever fails, answers late or dies: the rounds that are carried through
begin further apart than a lease is long, the lease of such a round is left to
run out, and no two replicas are inside rounds younger than a lease. -/
theorem maintenance_rounds_apart {ttlMs retentionDays : ℕ} {start : ℤ} {partitions : Partitions}
    {events : List MaintenanceEvent} {fleet : MaintenanceFleet}
    (run : Run (MaintenanceFleet.step ttlMs retentionDays) Anything
      (MaintenanceFleet.fresh start partitions) events fleet) :
    (fleet.completed.Pairwise fun one other => Apart ttlMs one.since other.since) ∧
      (∀ done ∈ fleet.completed, fleet.clock ≤ done.since + ttlMs →
        fleet.lease = some ⟨done.leader, done.since + ttlMs⟩) ∧
      ∀ one other stage another, fleet.leads.get? one = some stage →
        fleet.leads.get? other = some another → fleet.clock ≤ stage.since + ttlMs →
        fleet.clock ≤ another.since + ttlMs → one = other := by
  have sound := MaintenanceFleet.sound_of_run (MaintenanceFleet.sound_fresh ttlMs start partitions) run
  refine ⟨sound.completed, ?_, ?_⟩
  · intro done listed young
    rcases sound.leased _ _ (Or.inr ⟨done, listed, rfl, rfl⟩) with expired | held
    · exact absurd young (not_le.mpr expired)
    · exact held
  · intro one other stage another found foundOther young youngOther
    rcases sound.leased one _ (Or.inl ⟨stage, found, rfl⟩) with expired | held
    · exact absurd young (not_le.mpr expired)
    · rcases sound.leased other _ (Or.inl ⟨another, foundOther, rfl⟩) with expired | heldOther
      · exact absurd youngOther (not_le.mpr expired)
      · exact congrArg LeadLease.owner (Option.some.inj (held.symm.trans heldOther))

/-- The first leader does not hear that its transaction is committed and hands the
lead back, the second carries a round through, and the first finds it taken until
the lease has run out. -/
def takesOver : List MaintenanceEvent :=
  [.take 0 "first", .commitUnheard 40 "first" 20000000, .release 41 "first", .take 300000 "second",
    .commit 300020 "second" 300010000000, .take 600000 "first", .take 899001 "first",
    .commit 899030 "first" 899010000000]

theorem maintenance_rounds_apart_takesOver :
    ∃ fleet : MaintenanceFleet, fleet.completed.length = 2 ∧
      fleet.completed.Pairwise fun one other => Apart 599000 one.since other.since := by
  obtain ⟨fleet, executed, twice⟩ := @exists_of_exec _ _ (MaintenanceFleet.step 599000 7) Anything
    (MaintenanceFleet.fresh 0 ∅) _ (fun fleet => fleet.completed.length = 2) _ takesOver
    (by decide +kernel)
  exact ⟨fleet, twice, (maintenance_rounds_apart (run_of_exec executed)).1⟩

end GeoTrack
