import GeoTrack.HistoryPartitions
import GeoTrack.LabelledRuns
import GeoTrack.OrderedDict

/-!
# The lead of the partition maintenance

Every processor tries a round of the maintenance once in an interval.  A lease
as long as the interval less a second decides which of them does the round: it
is taken if it is free, it is left to run out after a round that was carried
through, and it is handed back after one that failed, or that its replica did not
hear the end of.  Handing back compares the owner, so a round that has since moved
on is left alone.
-/

open LabelledRuns

namespace GeoTrack

/-- One round of the maintenance, in milliseconds. -/
def intervalMs : ℕ := 600000

def leaseTtlMs : ℕ := intervalMs - 1000

structure LeadLease where
  owner : String
  expiresAt : ℤ
deriving DecidableEq

/-- A replica inside `run_once`, with the time at which it took the lead. -/
inductive LeadStage where
  /-- Its transaction has not ended. -/
  | working (since : ℤ)
  /-- Its round failed, and it is about to give up the lead. -/
  | givingBack (since : ℤ)
deriving DecidableEq

def LeadStage.since : LeadStage → ℤ
  | .working since => since
  | .givingBack since => since

/-- A round that was carried through. -/
structure LedRound where
  leader : String
  since : ℤ
  round : Round

/-- The lease on the server, the replicas inside `run_once`, and the partitions
of the history.  The rounds carried through and the last tick of any replica are
kept for the record. -/
structure MaintenanceFleet where
  clock : ℤ
  lease : Option LeadLease
  leads : Dict String LeadStage
  partitions : Partitions
  completed : List LedRound
  lastTick : ℤ

/-- What happens at a time. -/
inductive MaintenanceEvent where
  /-- A replica tries to take the lead and hears whether it has it. -/
  | take (clock : ℤ) (replica : String)
  /-- The server executes the command, the answer is lost, and the call raises. -/
  | takeUnanswered (clock : ℤ) (replica : String)
  /-- The transaction commits, with the timestamp it took when it began. -/
  | commit (clock : ℤ) (replica : String) (now : ℤ)
  /-- The transaction commits, and its replica gets an exception. -/
  | commitUnheard (clock : ℤ) (replica : String) (now : ℤ)
  /-- The transaction raises. -/
  | fail (clock : ℤ) (replica : String)
  /-- The script that gives up the lead is executed. -/
  | release (clock : ℤ) (replica : String)
  /-- The replica is gone, or its script never reached the server. -/
  | vanish (clock : ℤ) (replica : String)
  | wait (clock : ℤ)
deriving DecidableEq

def MaintenanceEvent.clock : MaintenanceEvent → ℤ
  | .take clock _ => clock
  | .takeUnanswered clock _ => clock
  | .commit clock _ _ => clock
  | .commitUnheard clock _ _ => clock
  | .fail clock _ => clock
  | .release clock _ => clock
  | .vanish clock _ => clock
  | .wait clock => clock

namespace MaintenanceFleet

/-- The lease a command finds: a key past its time to live is gone. -/
def visible (fleet : MaintenanceFleet) (clock : ℤ) : Option LeadLease :=
  fleet.lease.filter fun lease => clock ≤ lease.expiresAt

/-- `SET` with `NX` and `PX`: the lease after it, and whether it was taken. -/
def setLease (ttlMs : ℕ) (fleet : MaintenanceFleet) (clock : ℤ) (replica : String) :
    Option LeadLease × Bool :=
  match fleet.visible clock with
  | some lease => (some lease, false)
  | none => (some ⟨replica, clock + ttlMs⟩, true)

/-- The release script: the key goes if its value is the replica's own id. -/
def releaseLease (fleet : MaintenanceFleet) (clock : ℤ) (replica : String) : Option LeadLease :=
  (fleet.visible clock).filter fun lease => lease.owner ≠ replica

def step (ttlMs retentionDays : ℕ) (fleet : MaintenanceFleet) (event : MaintenanceEvent) :
    Option MaintenanceFleet :=
  if fleet.clock ≤ event.clock then
    match event with
    | .take clock replica =>
        if replica ∈ fleet.leads then none
        else
          let (lease, taken) := fleet.setLease ttlMs clock replica
          some { fleet with
            clock := clock
            lease := lease
            leads := if taken then fleet.leads.set replica (.working clock) else fleet.leads
            lastTick := clock }
    | .takeUnanswered clock replica =>
        if replica ∈ fleet.leads then none
        else some { fleet with clock := clock, lease := (fleet.setLease ttlMs clock replica).1 }
    | .commit clock replica now =>
        match fleet.leads.get? replica with
        | some (.working since) =>
            if since ≤ nowMs now ∧ nowMs now ≤ clock then
              let round : Round := ⟨now, retentionDays, true, true⟩
              some { fleet with
                clock := clock
                leads := fleet.leads.erase replica
                partitions := (runOnce fleet.partitions round).1
                completed := ⟨replica, since, round⟩ :: fleet.completed }
            else none
        | _ => none
    | .commitUnheard clock replica now =>
        match fleet.leads.get? replica with
        | some (.working since) =>
            if since ≤ nowMs now ∧ nowMs now ≤ clock then
              some { fleet with
                clock := clock
                leads := fleet.leads.set replica (.givingBack since)
                partitions := (runOnce fleet.partitions ⟨now, retentionDays, true, true⟩).1 }
            else none
        | _ => none
    | .fail clock replica =>
        match fleet.leads.get? replica with
        | some (.working since) =>
            some { fleet with
              clock := clock
              leads := fleet.leads.set replica (.givingBack since) }
        | _ => none
    | .release clock replica =>
        match fleet.leads.get? replica with
        | some (.givingBack _) =>
            some { fleet with
              clock := clock
              lease := fleet.releaseLease clock replica
              leads := fleet.leads.erase replica }
        | _ => none
    | .vanish clock replica =>
        some { fleet with clock := clock, leads := fleet.leads.erase replica }
    | .wait clock => some { fleet with clock := clock }
  else none

/-- A fleet that has not begun, over the partitions it finds. -/
def fresh (clock : ℤ) (partitions : Partitions) : MaintenanceFleet :=
  ⟨clock, none, ∅, partitions, [], clock⟩

/-- No lease stands in the way of a replica that tries at a time. -/
def Free (fleet : MaintenanceFleet) (clock : ℤ) : Prop :=
  ∀ lease, fleet.lease = some lease → lease.expiresAt < clock

theorem visible_eq_none_iff {fleet : MaintenanceFleet} {clock : ℤ} :
    fleet.visible clock = none ↔ fleet.Free clock := by
  simp only [visible, Option.filter_eq_none_iff, decide_eq_true_eq, not_le, Free]

theorem visible_eq_some_iff {fleet : MaintenanceFleet} {clock : ℤ} {lease : LeadLease} :
    fleet.visible clock = some lease ↔ fleet.lease = some lease ∧ clock ≤ lease.expiresAt := by
  simp only [visible, Option.filter_eq_some_iff, decide_eq_true_eq]

/-- All that a step can do, with what it found. -/
inductive Moved (ttlMs retentionDays : ℕ) (fleet : MaintenanceFleet) :
    MaintenanceEvent → MaintenanceFleet → Prop where
  | refused {clock : ℤ} {replica : String} {lease : LeadLease}
      (idle : replica ∉ fleet.leads) (held : fleet.lease = some lease)
      (present : clock ≤ lease.expiresAt) :
      Moved ttlMs retentionDays fleet (.take clock replica)
        { fleet with clock := clock, lastTick := clock }
  | granted {clock : ℤ} {replica : String} (idle : replica ∉ fleet.leads)
      (free : fleet.Free clock) :
      Moved ttlMs retentionDays fleet (.take clock replica)
        { fleet with
          clock := clock
          lease := some ⟨replica, clock + ttlMs⟩
          leads := fleet.leads.set replica (.working clock)
          lastTick := clock }
  | takeUnanswered {clock : ℤ} {replica : String} {lease : Option LeadLease}
      (idle : replica ∉ fleet.leads)
      (fromServer : fleet.lease = lease ∨
        fleet.Free clock ∧ lease = some ⟨replica, clock + ttlMs⟩) :
      Moved ttlMs retentionDays fleet (.takeUnanswered clock replica)
        { fleet with clock := clock, lease := lease }
  | commit {clock : ℤ} {replica : String} {now since : ℤ}
      (working : fleet.leads.get? replica = some (.working since))
      (began : since ≤ nowMs now) (past : nowMs now ≤ clock) :
      Moved ttlMs retentionDays fleet (.commit clock replica now)
        { fleet with
          clock := clock
          leads := fleet.leads.erase replica
          partitions := (runOnce fleet.partitions ⟨now, retentionDays, true, true⟩).1
          completed := ⟨replica, since, now, retentionDays, true, true⟩ :: fleet.completed }
  | commitUnheard {clock : ℤ} {replica : String} {now since : ℤ}
      (working : fleet.leads.get? replica = some (.working since)) (past : nowMs now ≤ clock) :
      Moved ttlMs retentionDays fleet (.commitUnheard clock replica now)
        { fleet with
          clock := clock
          leads := fleet.leads.set replica (.givingBack since)
          partitions := (runOnce fleet.partitions ⟨now, retentionDays, true, true⟩).1 }
  | fail {clock : ℤ} {replica : String} {since : ℤ}
      (working : fleet.leads.get? replica = some (.working since)) :
      Moved ttlMs retentionDays fleet (.fail clock replica)
        { fleet with clock := clock, leads := fleet.leads.set replica (.givingBack since) }
  | release {clock : ℤ} {replica : String} {since : ℤ} {lease : Option LeadLease}
      (leaving : fleet.leads.get? replica = some (.givingBack since))
      (kept : ∀ other, fleet.lease = some other → other.owner ≠ replica →
        lease = some other ∨ other.expiresAt < clock)
      (nothingNew : ∀ other, lease = some other → fleet.lease = some other) :
      Moved ttlMs retentionDays fleet (.release clock replica)
        { fleet with clock := clock, lease := lease, leads := fleet.leads.erase replica }
  | vanish {clock : ℤ} {replica : String} :
      Moved ttlMs retentionDays fleet (.vanish clock replica)
        { fleet with clock := clock, leads := fleet.leads.erase replica }
  | wait {clock : ℤ} :
      Moved ttlMs retentionDays fleet (.wait clock) { fleet with clock := clock }

theorem moved_of_step {ttlMs retentionDays : ℕ} {fleet after : MaintenanceFleet}
    {event : MaintenanceEvent} (stepTo : fleet.step ttlMs retentionDays event = some after) :
    fleet.clock ≤ event.clock ∧ fleet.Moved ttlMs retentionDays event after := by
  unfold step at stepTo
  rw [Option.ite_none_right_eq_some] at stepTo
  obtain ⟨later, stepTo⟩ := stepTo
  refine ⟨later, ?_⟩
  cases event with
  | take clock replica =>
      dsimp only at stepTo
      rw [Option.ite_none_left_eq_some] at stepTo
      obtain ⟨idle, same⟩ := stepTo
      obtain rfl := Option.some.inj same
      unfold setLease
      split
      case h_1 lease found =>
          obtain ⟨held, present⟩ := visible_eq_some_iff.mp found
          have unchanged : ({ fleet with clock := clock, lease := some lease, lastTick := clock } :
              MaintenanceFleet) = { fleet with clock := clock, lastTick := clock } := by rw [held]
          exact unchanged ▸ Moved.refused idle held present
      case h_2 nothing => exact Moved.granted idle (visible_eq_none_iff.mp nothing)
  | takeUnanswered clock replica =>
      dsimp only at stepTo
      rw [Option.ite_none_left_eq_some] at stepTo
      obtain ⟨idle, same⟩ := stepTo
      obtain rfl := Option.some.inj same
      unfold setLease
      split
      case h_1 lease found =>
          exact Moved.takeUnanswered idle (Or.inl (visible_eq_some_iff.mp found).1)
      case h_2 nothing =>
          exact Moved.takeUnanswered idle (Or.inr ⟨visible_eq_none_iff.mp nothing, rfl⟩)
  | commit clock replica now =>
      dsimp only at stepTo
      split at stepTo
      case h_1 since working =>
          rw [Option.ite_none_right_eq_some] at stepTo
          obtain ⟨⟨began, past⟩, same⟩ := stepTo
          obtain rfl := Option.some.inj same
          exact Moved.commit working began past
      case h_2 => cases stepTo
  | commitUnheard clock replica now =>
      dsimp only at stepTo
      split at stepTo
      case h_1 since working =>
          rw [Option.ite_none_right_eq_some] at stepTo
          obtain ⟨⟨_, past⟩, same⟩ := stepTo
          obtain rfl := Option.some.inj same
          exact Moved.commitUnheard working past
      case h_2 => cases stepTo
  | fail clock replica =>
      dsimp only at stepTo
      split at stepTo
      case h_1 since working =>
          obtain rfl := Option.some.inj stepTo
          exact Moved.fail working
      case h_2 => cases stepTo
  | release clock replica =>
      dsimp only at stepTo
      split at stepTo
      case h_1 since leaving =>
          obtain rfl := Option.some.inj stepTo
          refine Moved.release leaving ?_ ?_
          · intro other held differs
            rcases le_or_gt clock other.expiresAt with present | expired
            · left
              simp [releaseLease, visible, held, present, differs]
            · exact Or.inr expired
          · intro other remains
            obtain ⟨found, _⟩ := Option.filter_eq_some_iff.mp remains
            exact (visible_eq_some_iff.mp found).1
      case h_2 => cases stepTo
  | vanish clock replica =>
      obtain rfl := Option.some.inj stepTo
      exact Moved.vanish
  | wait clock =>
      obtain rfl := Option.some.inj stepTo
      exact Moved.wait

end MaintenanceFleet

end GeoTrack
