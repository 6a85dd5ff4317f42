import GeoTrack.ProcessorService

/-!
# The leases of a replica

A lease names this instance only after one of its own `SET NX` commands took
effect.  Two places act on what they learned of the leases earlier: the renew
loop lets go of the shards whose renewal failed, and `stop` releases the shards
it finds in the two dictionaries.  Both can be wrong when such a command takes
effect in between.  A drain has no record any more when it releases its shard, so
`stop` does not see it, and does not wait for it either.
-/

namespace GeoTrack

open LabelledRuns

namespace ShardRecords

/-- The shard is read here or winds down here. -/
def Holds (records : ShardRecords) (shard : ℕ) : Prop :=
  shard ∈ records.consumers ∨ shard ∈ records.draining

instance (records : ShardRecords) (shard : ℕ) : Decidable (records.Holds shard) :=
  inferInstanceAs (Decidable (_ ∨ _))

/-- A drain is about to release the shard. -/
def GivesBack (records : ShardRecords) (shard : ℕ) : Prop :=
  ∃ entry ∈ records.drains.entries, entry.2.shard = shard ∧ entry.2.stage = .releasing

instance (records : ShardRecords) (shard : ℕ) : Decidable (records.GivesBack shard) :=
  inferInstanceAs (Decidable (∃ entry ∈ records.drains.entries, _))

section Holds

variable {records : ShardRecords} {shard other : ℕ}

theorem holds_beginDrain {release : Bool} (holds : (records.beginDrain release shard).Holds other) :
    records.Holds other := by
  unfold beginDrain at holds
  split at holds
  case h_1 => exact holds
  case h_2 reader isRead =>
      rcases holds with stillRead | isDraining
      · exact Or.inl (Dict.mem_erase.mp stillRead).2
      · rcases Dict.mem_set.mp isDraining with rfl | earlier
        · exact Or.inl (Dict.mem_iff_exists.mpr ⟨reader, isRead⟩)
        · exact Or.inr earlier

theorem holds_loseLease (holds : (records.loseLease shard).Holds other) : records.Holds other := by
  unfold loseLease at holds
  split at holds
  case h_1 record isDraining =>
      refine holds.imp_right fun drains => ?_
      rcases Dict.mem_set.mp drains with rfl | earlier
      · exact Dict.mem_iff_exists.mpr ⟨record, isDraining⟩
      · exact earlier
  case h_2 => exact holds_beginDrain holds

theorem holds_foldl {change : ShardRecords → ℕ → ShardRecords}
    (each : ∀ {records : ShardRecords} {shard : ℕ}, (change records shard).Holds other →
      records.Holds other) {changed : List ℕ}
    (holds : (changed.foldl change records).Holds other) : records.Holds other := by
  induction changed generalizing records with
  | nil => exact holds
  | cons shard rest ih => exact each (ih holds)

end Holds

/-- The drains are numbered, and the one that a record names waits for its reader. -/
structure Linked (records : ShardRecords) : Prop where
  numbered : ∀ drain task, records.drains.get? drain = some task → drain < records.nextDrain
  waits : ∀ shard record, records.draining.get? shard = some record →
    ∃ task, records.drains.get? record.drain = some task ∧ task.shard = shard ∧
      (task.stage = .waiting ∨ task.stage = .grace)

/-- The drains go on, and those at their release are still there. -/
structure Keeps (records after : ShardRecords) : Prop where
  linked : records.Linked → after.Linked
  givesBack : records.Linked → ∀ shard, records.GivesBack shard → after.GivesBack shard

section Drains

variable {records : ShardRecords} {shard : ℕ}

theorem givesBack_iff : records.GivesBack shard ↔
    ∃ drain task, records.drains.get? drain = some task ∧ task.shard = shard ∧
      task.stage = .releasing := by
  constructor
  · rintro ⟨⟨drain, task⟩, listed, isShard, isReleasing⟩
    exact ⟨drain, task, Dict.mem_entries_iff.mp listed, isShard, isReleasing⟩
  · rintro ⟨drain, task, found, isShard, isReleasing⟩
    exact ⟨(drain, task), Dict.mem_entries_iff.mpr found, isShard, isReleasing⟩

theorem Keeps.refl (records : ShardRecords) : records.Keeps records :=
  ⟨id, fun _ _ givesBack => givesBack⟩

theorem Keeps.trans {middle after : ShardRecords} (first : records.Keeps middle)
    (second : middle.Keeps after) : records.Keeps after :=
  ⟨fun linked => second.linked (first.linked linked), fun linked shard givesBack =>
    second.givesBack (first.linked linked) shard (first.givesBack linked shard givesBack)⟩

theorem keeps_beginDrain (release : Bool) (records : ShardRecords) (shard : ℕ) :
    records.Keeps (records.beginDrain release shard) := by
  unfold beginDrain
  split
  case h_1 => exact Keeps.refl records
  case h_2 reader isRead =>
      have unused {drain : ℕ} {task : DrainTask} (linked : records.Linked)
          (found : records.drains.get? drain = some task) : drain ≠ records.nextDrain :=
        ne_of_lt (linked.numbered drain task found)
      refine ⟨fun linked => ⟨?_, ?_⟩, fun linked other givesBack => ?_⟩
      · intro drain task found
        rcases Dict.get?_set_cases found with ⟨rfl, -⟩ | ⟨-, earlier⟩
        · exact Nat.lt_succ_self _
        · exact Nat.lt_succ_of_lt (linked.numbered drain task earlier)
      · intro other record isDraining
        rcases Dict.get?_set_cases isDraining with ⟨rfl, rfl⟩ | ⟨-, earlier⟩
        · exact ⟨_, by rw [Dict.get?_set, if_pos rfl], rfl, Or.inl rfl⟩
        · obtain ⟨task, found, waits⟩ := linked.waits other record earlier
          exact ⟨task, by rw [Dict.get?_set, if_neg (unused linked found), found], waits⟩
      · obtain ⟨drain, task, found, atRelease⟩ := givesBack_iff.mp givesBack
        refine givesBack_iff.mpr ⟨drain, task, ?_, atRelease⟩
        rw [Dict.get?_set, if_neg (unused linked found), found]

theorem keeps_loseLease (records : ShardRecords) (shard : ℕ) :
    records.Keeps (records.loseLease shard) := by
  unfold loseLease
  split
  case h_1 lost isDraining =>
      refine ⟨fun linked => ⟨linked.numbered, ?_⟩, fun _ _ givesBack => givesBack⟩
      intro other record moved
      rcases Dict.get?_set_cases moved with ⟨rfl, rfl⟩ | ⟨-, earlier⟩
      · exact linked.waits other lost isDraining
      · exact linked.waits other record earlier
  case h_2 => exact keeps_beginDrain false records shard

theorem keeps_foldl {change : ShardRecords → ℕ → ShardRecords}
    (keeps : ∀ records shard, ShardRecords.Keeps records (change records shard))
    (changed : List ℕ) (records : ShardRecords) : records.Keeps (changed.foldl change records) := by
  induction changed generalizing records with
  | nil => exact Keeps.refl records
  | cons shard rest ih => exact (keeps records shard).trans (ih _)

variable {drain : ℕ} {task : DrainTask}

theorem linked_drainTo (linked : records.Linked) (known : records.drains.get? drain = some task)
    {stage : DrainStage}
    (moves : stage = .grace ∨ task.stage = .releasing ∨ task.stage = .returning) :
    (records.drainTo drain task stage).Linked := by
  refine ⟨?_, ?_⟩
  · intro other moved found
    rcases Dict.get?_set_cases found with ⟨rfl, -⟩ | ⟨-, earlier⟩
    · exact linked.numbered other task known
    · exact linked.numbered other moved earlier
  · intro shard record isDraining
    obtain ⟨named, found, isShard, waits⟩ := linked.waits shard record isDraining
    by_cases isDrain : record.drain = drain
    · rw [isDrain, known] at found
      obtain rfl := Option.some.inj found
      rcases moves with rfl | releases
      · exact ⟨{ task with stage := .grace }, by rw [drainTo, Dict.get?_set, if_pos isDrain],
          isShard, Or.inr rfl⟩
      · rcases waits with isWaiting | isGrace <;> simp_all
    · exact ⟨named, by rw [drainTo, Dict.get?_set, if_neg isDrain, found], isShard, waits⟩

theorem givesBack_set (known : records.drains.get? drain = some task) {after : ShardRecords}
    {moved : DrainTask} (sets : after.drains = records.drains.set drain moved)
    (kept : task.stage = .releasing → shard ≠ task.shard) (givesBack : records.GivesBack shard) :
    after.GivesBack shard := by
  obtain ⟨other, named, found, isShard, isReleasing⟩ := givesBack_iff.mp givesBack
  refine givesBack_iff.mpr ⟨other, named, ?_, isShard, isReleasing⟩
  rw [sets, Dict.get?_set, if_neg, found]
  rintro rfl
  obtain rfl := Option.some.inj (known.symm.trans found)
  exact kept isReleasing isShard.symm

theorem keeps_dropRecord (known : records.drains.get? drain = some task)
    (waited : task.stage = .waiting ∨ task.stage = .grace) :
    records.Keeps (records.dropRecord drain task) := by
  refine ⟨fun linked => ⟨?_, ?_⟩, fun _ shard => givesBack_set known rfl ?_⟩
  · intro other moved found
    rcases Dict.get?_set_cases found with ⟨rfl, -⟩ | ⟨-, earlier⟩
    · exact linked.numbered other task known
    · exact linked.numbered other moved earlier
  · intro shard record isDraining
    obtain ⟨differs, earlier⟩ := Dict.of_get?_erase isDraining
    obtain ⟨named, found, isShard, waits⟩ := linked.waits shard record earlier
    refine ⟨named, ?_, isShard, waits⟩
    rw [dropRecord, Dict.get?_set, if_neg, found]
    intro isDrain
    rw [isDrain, known] at found
    obtain rfl := Option.some.inj found
    exact differs isShard.symm
  · intro isReleasing
    rcases waited with isWaiting | isGrace <;> simp_all

end Drains

end ShardRecords

namespace ProcessorService

/-- Redis names this instance as the owner of the shard. -/
def Owns (service : ProcessorService) (shard : ℕ) : Prop := service.leases.get? shard = some true

instance (service : ProcessorService) (shard : ℕ) : Decidable (service.Owns shard) :=
  inferInstanceAs (Decidable (_ = _))

/-- The shard whose lease a command of this instance takes at this step. -/
def takes (service : ProcessorService) : ServiceEvent → Option ℕ
  | .setExecutes =>
      match service.control with
      | .acquiring shard none _ _ => if shard ∈ service.leases then none else some shard
      | _ => none
  | .lateSet shard => if shard ∈ service.inFlight ∧ shard ∉ service.leases then some shard else none
  | _ => none

/-- What the renewal in progress has heard about the shard. -/
def verdict (service : ProcessorService) (shard : ℕ) : Option Bool :=
  match service.renewal with
  | .renewing _ verdicts => verdicts.get? shard
  | .sleeping | .cancelled => none

/-- The shard for which the control loop starts a reader at this step. -/
def starts (service : ProcessorService) : ServiceEvent → Option ℕ
  | .answered =>
      match service.control with
      | .acquiring shard (some true) _ _ => some shard
      | _ => none
  | _ => none

/-- A shard of which the renewal in progress has heard that its lease is lost is
not taken again while it is held here, and no reader is started for it once it has
been taken again. -/
def Unjudged (service : ProcessorService) (event : ServiceEvent) : Prop :=
  (∀ shard ∈ service.takes event, service.verdict shard = some false →
    ¬ service.records.Holds shard) ∧
  ∀ shard ∈ service.starts event, service.verdict shard = some false → ¬ service.Owns shard

instance (service : ProcessorService) (event : ServiceEvent) : Decidable (service.Unjudged event) :=
  inferInstanceAs (Decidable ((∀ shard ∈ service.takes event, _) ∧
    ∀ shard ∈ service.starts event, _))

/-- The shards `stop` has yet to release, once it has collected them. -/
def remaining : ShutdownStage → Option (List ℕ)
  | .running | .cancelling => none
  | .awaiting held _ | .gathering held _ => some held
  | .releasing rest => some rest
  | .stopped => some []

/-- The lease of the shard is to be released before `stop` returns, by `stop` or by
a drain. -/
def Pending (service : ProcessorService) (shard : ℕ) : Prop :=
  match remaining service.shutdown with
  | none => service.records.Holds shard ∨ service.records.GivesBack shard
  | some rest =>
      shard ∈ rest ∨ service.shutdown ≠ .stopped ∧ service.records.GivesBack shard

instance (service : ProcessorService) (shard : ℕ) : Decidable (service.Pending shard) :=
  match collected : remaining service.shutdown with
  | none => decidable_of_iff (service.records.Holds shard ∨ service.records.GivesBack shard)
      (by rw [Pending, collected])
  | some rest => decidable_of_iff
      (shard ∈ rest ∨ service.shutdown ≠ .stopped ∧ service.records.GivesBack shard)
      (by rw [Pending, collected])

/-- The shard whose release by a drain fails at this step. -/
def fails (service : ProcessorService) : ServiceEvent → Option ℕ
  | .releaseReturns drain =>
      (service.records.drains.get? drain).bind fun task =>
        if task.stage = .releasing then some task.shard else none
  | _ => none

/-- When `stop` collects the shards, every lease of this instance is to be released
by `stop` or by a drain.  After that none is taken that is not, the drains do
release theirs, and they do so before `stop` returns. -/
def Recorded (service : ProcessorService) (event : ServiceEvent) : Prop :=
  (event = .collect → ∀ entry ∈ service.leases.entries, entry.2 = true →
    service.Pending entry.1) ∧
  (remaining service.shutdown ≠ none → ∀ shard ∈ service.takes event, service.Pending shard) ∧
  (∀ rest ∈ remaining service.shutdown, ∀ shard ∈ service.fails event, service.Owns shard →
    shard ∈ rest) ∧
  (event = .stopReleases → service.shutdown = .releasing [] →
    ∀ entry ∈ service.leases.entries, entry.2 = true → ¬ service.records.GivesBack entry.1)

instance (service : ProcessorService) (event : ServiceEvent) : Decidable (service.Recorded event) :=
  inferInstanceAs (Decidable ((_ → ∀ entry ∈ service.leases.entries, _ → _) ∧
    (_ → ∀ shard ∈ service.takes event, _) ∧
    (∀ rest ∈ remaining service.shutdown, ∀ shard ∈ service.fails event, _ → _) ∧
    (_ → _ → ∀ entry ∈ service.leases.entries, _ → _)))

section Ownership

variable {shards offset : ℕ} {service after : ProcessorService} {event : ServiceEvent}

theorem owns_released {leases : Dict ℕ Bool} {shard other : ℕ}
    (found : (released leases shard).get? other = some true) :
    leases.get? other = some true ∧ other ≠ shard := by
  unfold released at found
  split at found
  case isTrue =>
      exact (Dict.of_get?_erase found).symm
  case isFalse unowned =>
      refine ⟨found, ?_⟩
      rintro rfl
      exact unowned found

/-- A lease comes to this instance only by its own command. -/
theorem owns_of_effect (effect : Effect shards offset service event after) {shard : ℕ}
    (owns : after.Owns shard) : service.Owns shard ∨ service.takes event = some shard := by
  cases effect with
  | tookLease other rest target isAcquiring free =>
      rcases Dict.get?_set_cases owns with ⟨rfl, -⟩ | ⟨-, earlier⟩
      · exact Or.inr (by simp only [takes, isAcquiring, if_neg free])
      · exact Or.inl earlier
  | lateTook other isInFlight free =>
      rcases Dict.get?_set_cases owns with ⟨rfl, -⟩ | ⟨-, earlier⟩
      · exact Or.inr (if_pos ⟨isInFlight, free⟩)
      · exact Or.inl earlier
  | expired other => exact Or.inl (Dict.of_get?_erase owns).2
  | given other => exact Or.inl (Dict.of_get?_erase owns).2
  | taken other free =>
      rcases Dict.get?_set_cases owns with ⟨-, mine⟩ | ⟨-, earlier⟩
      · cases mine
      · exact Or.inl earlier
  | releaseExecuted => exact Or.inl (owns_released owns).1
  | stopReleased => exact Or.inl (owns_released owns).1
  | reconciled | planned | missedLease | started | passedOver | gaveUp | lateMissed | beganRenewal
  | nothingToRenew | heard | renewed | renewalFailed | finished | cancelledReader | dropped
  | releaseReturned | stopping | collected | cut | gathered | stopped => exact Or.inl owns

/-- A shard comes to be held only by a reader that is started for it. -/
theorem holds_of_effect (effect : Effect shards offset service event after) {shard : ℕ}
    (holds : after.records.Holds shard) :
    service.records.Holds shard ∨ service.starts event = some shard := by
  cases effect with
  | reconciled => exact Or.inl (ShardRecords.holds_foldl ShardRecords.holds_beginDrain holds)
  | planned live owned isPlanning records lets =>
      subst lets
      exact Or.inl (ShardRecords.holds_foldl ShardRecords.holds_beginDrain holds)
  | collected isCancelling shutdown records lets =>
      subst lets
      exact Or.inl (ShardRecords.holds_foldl ShardRecords.holds_beginDrain holds)
  | renewed => exact Or.inl (ShardRecords.holds_foldl ShardRecords.holds_loseLease holds)
  | started other rest target isAcquiring =>
      rcases holds with isRead | isDraining
      · rcases Dict.mem_set.mp isRead with rfl | earlier
        · exact Or.inr (by simp only [starts, isAcquiring])
        · exact Or.inl (Or.inl earlier)
      · exact Or.inl (Or.inr isDraining)
  | dropped _ drain task =>
      exact Or.inl (holds.imp_right fun isDraining => (Dict.mem_erase.mp isDraining).2)
  | cut =>
      rcases holds with isRead | isDraining
      · exact Or.inl (Or.inl isRead)
      · cases isDraining
  | tookLease | missedLease | passedOver | gaveUp | lateMissed | lateTook | beganRenewal
  | nothingToRenew | heard | renewalFailed | expired | taken | given | finished | cancelledReader
  | releaseExecuted | releaseReturned | stopping | gathered | stopReleased | stopped =>
      exact Or.inl holds

/-- A step that takes a lease starts no reader, and no release fails at it. -/
theorem starts_of_takes {shard : ℕ} (takes : service.takes event = some shard) :
    service.starts event = none ∧ service.fails event = none := by
  cases event with
  | setExecutes | lateSet => exact ⟨rfl, rfl⟩
  | _ => cases takes

/-- A shard whose renewal was heard to fail is lost, or not held here. -/
theorem unheld_of_verdict {events : List ServiceEvent}
    (run : Run (step shards offset) Unjudged fresh events service) {shard : ℕ}
    (isLost : service.verdict shard = some false) (owns : service.Owns shard) :
    ¬ service.records.Holds shard := by
  revert shard
  apply run.invariant
  · intro shard isLost
    cases isLost
  · intro before event later unheld unjudged stepTo shard isLost owns holds
    have effect := effect_of_step stepTo
    have earlier : before.verdict shard = some false → False := by
      intro wasLost
      rcases owns_of_effect effect owns with owned | takes
      · rcases holds_of_effect effect holds with held | starts
        · exact unheld wasLost owned held
        · exact unjudged.2 shard starts wasLost owned
      · rcases holds_of_effect effect holds with held | starts
        · exact unjudged.1 shard takes wasLost held
        · rw [(starts_of_takes takes).1] at starts
          cases starts
    cases effect with
    | heard other asked verdicts isRenewing =>
        have hears : (verdicts.set other (before.leases.get? other = some true)).get? shard =
            some false := isLost
        rw [Dict.get?_set] at hears
        split at hears
        case isTrue same =>
            subst same
            exact of_decide_eq_false (Option.some.inj hears) owns
        case isFalse =>
            apply earlier
            rw [verdict, isRenewing]
            exact hears
    | beganRenewal | nothingToRenew | renewed | renewalFailed | stopping => cases isLost
    | reconciled | planned | missedLease | tookLease | started | passedOver | gaveUp | lateMissed
    | lateTook | expired | taken | given | finished | cancelledReader | dropped | releaseExecuted
    | releaseReturned | collected | cut | gathered | stopReleased | stopped => exact earlier isLost

theorem draining_loseLease {records : ShardRecords} {shard other : ℕ} (differs : other ≠ shard) :
    (records.loseLease shard).draining.get? other = records.draining.get? other := by
  unfold ShardRecords.loseLease
  split
  case h_1 => rw [Dict.get?_set, if_neg differs]
  case h_2 =>
      unfold ShardRecords.beginDrain
      split
      case h_1 => rfl
      case h_2 => rw [Dict.get?_set, if_neg differs]

theorem draining_loseLeases {gone : List ℕ} {other : ℕ} (absent : other ∉ gone)
    (records : ShardRecords) :
    (gone.foldl ShardRecords.loseLease records).draining.get? other =
      records.draining.get? other := by
  induction gone generalizing records with
  | nil => rfl
  | cons shard rest ih =>
      obtain ⟨differs, later⟩ := not_or.mp (mt List.mem_cons.mpr absent)
      rw [List.foldl_cons, ih later, draining_loseLease differs]

theorem get?_cutShort (cut : List Draining) (drains : Dict ℕ DrainTask) (other : ℕ) :
    (other ∉ cut.map Draining.drain → (cut.foldl (fun drains record =>
      match drains.get? record.drain with
      | some task => drains.set record.drain { task with stage := .ended }
      | none => drains) drains).get? other = drains.get? other) ∧
    ∀ task, (cut.foldl (fun drains record =>
      match drains.get? record.drain with
      | some task => drains.set record.drain { task with stage := .ended }
      | none => drains) drains).get? other = some task → other ∈ drains := by
  induction cut generalizing drains with
  | nil => exact ⟨fun _ => rfl, fun task found => Dict.mem_iff_exists.mpr ⟨task, found⟩⟩
  | cons record rest ih =>
      rw [List.foldl_cons]
      cases found : drains.get? record.drain with
      | none =>
          obtain ⟨same, known⟩ := ih drains
          exact ⟨fun absent => same fun later => absent (List.mem_cons_of_mem _ later), known⟩
      | some task =>
          obtain ⟨same, known⟩ := ih (drains.set record.drain { task with stage := .ended })
          refine ⟨fun absent => ?_, fun moved later => ?_⟩
          · rw [List.map_cons, List.mem_cons, not_or] at absent
            rw [same absent.2, Dict.get?_set, if_neg absent.1]
          · rcases Dict.mem_set.mp (known moved later) with rfl | earlier
            · exact Dict.mem_iff_exists.mpr ⟨task, found⟩
            · exact earlier

/-- What is cut short waits for a reader, so no release is. -/
theorem keeps_cutShort (records : ShardRecords) : records.Keeps (cutShort records) := by
  refine ⟨fun linked => ⟨?_, ?_⟩, fun linked shard givesBack => ?_⟩
  · intro drain task found
    have known := (get?_cutShort records.draining.values records.drains drain).2 task found
    obtain ⟨earlier, wasThere⟩ := Dict.mem_iff_exists.mp known
    exact linked.numbered drain earlier wasThere
  · intro shard record isDraining
    cases isDraining
  · obtain ⟨drain, task, found, isShard, isReleasing⟩ := ShardRecords.givesBack_iff.mp givesBack
    refine ShardRecords.givesBack_iff.mpr ⟨drain, task, ?_, isShard, isReleasing⟩
    rw [← found]
    apply (get?_cutShort records.draining.values records.drains drain).1
    rw [List.mem_map]
    rintro ⟨record, listed, rfl⟩
    obtain ⟨⟨other, _⟩, inDict, rfl⟩ := List.mem_map.mp listed
    obtain ⟨waiting, alsoFound, -, waits⟩ := linked.waits other _ (Dict.mem_entries_iff.mp inDict)
    obtain rfl := Option.some.inj (found.symm.trans alsoFound)
    rcases waits with isWaiting | isGrace <;> simp_all

/-- A release is still to be made, has been made or has failed. -/
theorem givesBack_of_effect (effect : Effect shards offset service event after)
    (linked : service.records.Linked) : after.records.Linked ∧
      ∀ shard, service.records.GivesBack shard →
        after.records.GivesBack shard ∨ ¬ after.Owns shard ∨ service.fails event = some shard := by
  have of_keeps {records : ShardRecords} (keeps : service.records.Keeps records) :
      records.Linked ∧ ∀ shard, service.records.GivesBack shard →
        records.GivesBack shard ∨ ¬ after.Owns shard ∨ service.fails event = some shard :=
    ⟨keeps.linked linked, fun shard givesBack => Or.inl (keeps.givesBack linked shard givesBack)⟩
  cases effect with
  | reconciled => exact of_keeps (ShardRecords.keeps_foldl (ShardRecords.keeps_beginDrain true) _ _)
  | planned live owned isPlanning records lets =>
      subst lets
      exact of_keeps (ShardRecords.keeps_foldl (ShardRecords.keeps_beginDrain true) _ _)
  | collected isCancelling shutdown records lets =>
      subst lets
      exact of_keeps (ShardRecords.keeps_foldl (ShardRecords.keeps_beginDrain true) _ _)
  | renewed => exact of_keeps (ShardRecords.keeps_foldl ShardRecords.keeps_loseLease _ _)
  | cancelledReader drain task known isWaiting =>
      refine ⟨ShardRecords.linked_drainTo linked known (Or.inl rfl), fun shard givesBack => Or.inl ?_⟩
      refine ShardRecords.givesBack_set known rfl (fun isReleasing => ?_) givesBack
      cases isWaiting.symm.trans isReleasing
  | dropped _ drain task known ends =>
      apply of_keeps
      apply ShardRecords.keeps_dropRecord known
      exact ends.imp (fun waits => waits.2.1) And.right
  | cut => exact of_keeps (keeps_cutShort service.records)
  | releaseExecuted drain task known isReleasing =>
      refine ⟨ShardRecords.linked_drainTo linked known (Or.inr (Or.inl isReleasing)),
        fun shard givesBack => ?_⟩
      by_cases isShard : shard = task.shard
      · subst isShard
        exact Or.inr (Or.inl fun owns => (owns_released owns).2 rfl)
      · exact Or.inl (ShardRecords.givesBack_set known rfl (fun _ => isShard) givesBack)
  | releaseReturned drain task known isReleasing =>
      refine ⟨ShardRecords.linked_drainTo linked known (Or.inr isReleasing),
        fun shard givesBack => ?_⟩
      by_cases failed : task.stage = .releasing ∧ shard = task.shard
      · obtain ⟨atRelease, rfl⟩ := failed
        refine Or.inr (Or.inr ?_)
        simp only [fails, known, Option.bind_some, if_pos atRelease]
      · exact Or.inl (ShardRecords.givesBack_set known rfl
          (fun atRelease isShard => failed ⟨atRelease, isShard⟩) givesBack)
  | started | finished =>
      exact of_keeps ⟨fun linked => ⟨linked.numbered, linked.waits⟩, fun _ _ givesBack => givesBack⟩
  | tookLease | missedLease | passedOver | gaveUp | lateMissed | lateTook | beganRenewal
  | nothingToRenew | heard | renewalFailed | expired | taken | given | stopping | gathered
  | stopReleased | stopped => exact of_keeps (ShardRecords.Keeps.refl service.records)

/-- Once `stop` has collected the shards, every lease of this instance is to be
released by it or by a drain. -/
structure Accounted (service : ProcessorService) : Prop where
  linked : service.records.Linked
  pending : remaining service.shutdown ≠ none → ∀ shard, service.Owns shard →
    service.Pending shard

theorem accounted_fresh : fresh.Accounted := by
  refine ⟨⟨fun _ _ found => ?_, fun _ _ found => ?_⟩, fun collected => absurd rfl collected⟩
  · cases found
  · cases found

/-- What is pending stays so while `stop` keeps its list. -/
theorem Accounted.stays (accounted : service.Accounted) (recorded : service.Recorded event)
    (effect : Effect shards offset service event after) {shard : ℕ} (owns : after.Owns shard)
    {rest : List ℕ} (was : remaining service.shutdown = some rest)
    (now : remaining after.shutdown = some rest)
    (goesOn : service.shutdown ≠ .stopped → after.shutdown ≠ .stopped) : after.Pending shard := by
  have collected : remaining service.shutdown ≠ none := by simp [was]
  have wasPending : service.Pending shard := by
    rcases owns_of_effect effect owns with owned | takes
    · exact accounted.pending collected shard owned
    · exact recorded.2.1 collected shard takes
  rw [Pending, was] at wasPending
  rw [Pending, now]
  rcases wasPending with listed | ⟨unstopped, atRelease⟩
  · exact Or.inl listed
  rcases (givesBack_of_effect effect accounted.linked).2 shard atRelease with
    stillAtRelease | unowned | failed
  · exact Or.inr ⟨goesOn unstopped, stillAtRelease⟩
  · exact absurd owns unowned
  · rcases owns_of_effect effect owns with owned | takes
    · exact Or.inl (recorded.2.2.1 rest was shard failed owned)
    · rw [(starts_of_takes takes).2] at failed
      cases failed

/-- `stop` lists the shards that are held; the others are at their release. -/
theorem Accounted.collect (accounted : service.Accounted) (recorded : service.Recorded .collect)
    (effect : Effect shards offset service .collect after)
    (isCancelling : service.shutdown = .cancelling)
    (listed : remaining after.shutdown =
      some (service.records.consumers.keys ++ service.records.draining.keys).dedup)
    (unstopped : after.shutdown ≠ .stopped) {shard : ℕ} (owned : service.Owns shard)
    (owns : after.Owns shard) : after.Pending shard := by
  have wasPending := recorded.1 rfl _ (Dict.mem_entries_iff.mpr owned) rfl
  rw [Pending, isCancelling] at wasPending
  rw [Pending, listed]
  rcases wasPending with holds | atRelease
  · left
    rw [List.mem_dedup, List.mem_append, Dict.mem_keys_iff, Dict.mem_keys_iff]
    exact holds
  · rcases (givesBack_of_effect effect accounted.linked).2 shard atRelease with
      stillAtRelease | unowned | failed
    · exact Or.inr ⟨unstopped, stillAtRelease⟩
    · exact absurd owns unowned
    · cases failed

theorem Accounted.step (accounted : service.Accounted) (recorded : service.Recorded event)
    (stepTo : step shards offset service event = some after) : after.Accounted := by
  have effect := effect_of_step stepTo
  refine ⟨(givesBack_of_effect effect accounted.linked).1, fun collected shard owns => ?_⟩
  have stays {rest : List ℕ} (was : remaining service.shutdown = some rest)
      (now : remaining after.shutdown = some rest)
      (goesOn : service.shutdown ≠ .stopped → after.shutdown ≠ .stopped) : after.Pending shard :=
    accounted.stays recorded effect owns was now goesOn
  have same (unchanged : after.shutdown = service.shutdown) : after.Pending shard := by
    obtain ⟨rest, now⟩ := Option.ne_none_iff_exists'.mp collected
    exact stays (by rw [← unchanged, now]) now fun unstopped => by rwa [unchanged]
  cases effect with
  | stopping => exact absurd rfl collected
  | collected isCancelling shutdown records lets awaits =>
      obtain ⟨held, rfl, stage⟩ := awaits
      refine accounted.collect recorded (effect_of_step stepTo) isCancelling ?_ ?_ owns owns
      · rcases stage with rfl | ⟨drains, rfl⟩
        · rfl
        · rfl
      · rcases stage with rfl | ⟨drains, rfl⟩
        · nofun
        · nofun
  | cut held drains isAwaiting => exact stays (by rw [isAwaiting]; rfl) rfl fun _ => nofun
  | gathered held drains isGathering => exact stays (by rw [isGathering]; rfl) rfl fun _ => nofun
  | stopReleased other rest isReleasing =>
      obtain ⟨owned, differs⟩ := owns_released owns
      have wasPending := accounted.pending (by rw [isReleasing]; nofun) shard owned
      rw [Pending, isReleasing] at wasPending
      refine wasPending.imp (fun listed => ?_) fun atRelease => ⟨nofun, atRelease.2⟩
      exact (List.mem_cons.mp listed).resolve_left differs
  | stopped isReleasing =>
      have wasPending := accounted.pending (by rw [isReleasing]; nofun) shard owns
      rw [Pending, isReleasing] at wasPending
      rcases wasPending with listed | atRelease
      · cases listed
      · exact absurd atRelease.2
          (recorded.2.2.2 rfl isReleasing _ (Dict.mem_entries_iff.mpr owns) rfl)
  | reconciled | planned | missedLease | tookLease | started | passedOver | gaveUp | lateMissed
  | lateTook | beganRenewal | nothingToRenew | heard | renewed | renewalFailed | expired | taken
  | given | finished | cancelledReader | dropped | releaseExecuted | releaseReturned => exact same rfl

theorem accounted_of_run {events : List ServiceEvent}
    (run : Run (ProcessorService.step shards offset) Recorded fresh events service) :
    service.Accounted :=
  run.invariant accounted_fresh fun _ _ _ accounted recorded stepTo =>
    accounted.step recorded stepTo

end Ownership

end ProcessorService

open ProcessorService

/-- When the renew loop gives a shard up as lost, Redis does not name this
instance, unless the replica took the lease again after the renewal had looked
at it, and held the shard then or started to read it. -/
theorem abandoned_is_unowned {shards offset : ℕ} {events : List ServiceEvent}
    {service after : ProcessorService}
    (run : Run (ProcessorService.step shards offset) Unjudged ProcessorService.fresh events service)
    (stepTo : ProcessorService.step shards offset service .renewed = some after) {shard : ℕ}
    {record : Draining} (abandoned : after.records.draining.get? shard = some record)
    (kept : record.release = false)
    (before : ∀ earlier ∈ service.records.draining.get? shard, earlier.release = true) :
    ¬ service.Owns shard ∧ ¬ after.Owns shard := by
  have held : service.records.Holds shard := by
    have drains : after.records.Holds shard := Or.inr (Dict.mem_iff_exists.mpr ⟨record, abandoned⟩)
    rcases holds_of_effect (effect_of_step stepTo) drains with held | starts
    · exact held
    · cases starts
  have unowned : ¬ service.Owns shard := by
    cases effect_of_step stepTo with
    | renewed asked verdicts isRenewing =>
        have isLost : shard ∈ lost asked verdicts := by
          by_contra absent
          rw [draining_loseLeases absent] at abandoned
          have released := before record abandoned
          rw [kept] at released
          cases released
        have heard := of_decide_eq_true (List.mem_filter.mp isLost).2
        intro owns
        refine unheld_of_verdict run ?_ owns held
        rw [verdict, isRenewing]
        exact heard
    | dropped _ _ _ _ ends =>
        rcases ends with ⟨same, -⟩ | ⟨same, -⟩
        · cases same
        · cases same
  refine ⟨unowned, fun owns => ?_⟩
  rcases owns_of_effect (effect_of_step stepTo) owns with owned | takes
  · exact unowned owned
  · cases takes

/-- A replica of one shard acquires it. -/
def acquiresFirst : List ServiceEvent := [.reconcile, .planned 1, .setExecutes, .answered]

/-- The lease expires and another replica takes it before the renewal. -/
theorem abandoned_is_unowned_expired :
    ∃ service after, Run (ProcessorService.step 1 0) Unjudged ProcessorService.fresh
        (acquiresFirst ++ [.renew, .expire 0, .taken 0, .renewExecutes 0]) service ∧
      ProcessorService.step 1 0 service .renewed = some after ∧
      after.records.draining.get? 0 = some ⟨0, 0, false⟩ ∧
      ¬ service.Owns 0 ∧ ¬ after.Owns 0 := by
  obtain ⟨service, executed, renews⟩ := @exists_of_exec _ _ (ProcessorService.step 1 0) Unjudged
    ProcessorService.fresh _ (fun service => (ProcessorService.step 1 0 service .renewed).any
      (fun after => decide (after.records.draining.get? 0 = some ⟨0, 0, false⟩ ∧
        service.records.draining.get? 0 = none)) = true) _
    (acquiresFirst ++ [.renew, .expire 0, .taken 0, .renewExecutes 0]) (by decide)
  obtain ⟨after, stepTo, abandons⟩ := (Option.any_eq_true _ _).mp renews
  obtain ⟨abandoned, undrained⟩ := of_decide_eq_true abandons
  have run := run_of_exec executed
  refine ⟨service, after, run, stepTo, abandoned, ?_⟩
  refine abandoned_is_unowned run stepTo abandoned rfl ?_
  rw [undrained]
  intro earlier isEarlier
  cases isEarlier

/-- A shard is handed back and taken again while a renewal is under way that found
its lease gone in between: the renewal gives up a shard this instance owns. -/
def reacquired : List ServiceEvent :=
  [.reconcile, .planned 1, .setExecutes, .answered, .setExecutes, .answered,
    .reconcile, .planned 2, .renew, .finish 1, .waitEnds 0, .releaseExecutes 0, .renewExecutes 1,
    .reconcile, .planned 1, .setExecutes, .answered, .renewExecutes 0]

theorem renewal_abandons_owned :
    ∃ service after, Run (ProcessorService.step 2 0) Anything ProcessorService.fresh reacquired
        service ∧
      ProcessorService.step 2 0 service .renewed = some after ∧
      service.records.draining.get? 1 = none ∧
      after.records.draining.get? 1 = some ⟨2, 1, false⟩ ∧ service.Owns 1 := by
  obtain ⟨service, executed, renews⟩ := @exists_of_exec _ _ (ProcessorService.step 2 0) Anything
    ProcessorService.fresh _ (fun service => (ProcessorService.step 2 0 service .renewed).any
      (fun after => decide (service.records.draining.get? 1 = none ∧
        after.records.draining.get? 1 = some ⟨2, 1, false⟩ ∧ service.Owns 1)) = true) _
    reacquired (by decide)
  obtain ⟨after, stepTo, abandons⟩ := (Option.any_eq_true _ _).mp renews
  exact ⟨service, after, run_of_exec executed, stepTo, of_decide_eq_true abandons⟩

/-- A stopped replica holds no lease, if `stop` or a drain was to release every
lease of its own when `stop` collected them, no command that was still on its way
took another one after that, and the drains released theirs in time. -/
theorem stopped_owns_nothing {shards offset : ℕ} {events : List ServiceEvent}
    {service : ProcessorService}
    (run : Run (ProcessorService.step shards offset) Recorded ProcessorService.fresh events service)
    (stopped : service.shutdown = .stopped) (shard : ℕ) : ¬ service.Owns shard := by
  intro owns
  have pending := (accounted_of_run run).pending (by rw [stopped]; nofun) shard owns
  rw [Pending, stopped] at pending
  rcases pending with listed | ⟨unstopped, -⟩
  · cases listed
  · exact unstopped rfl

/-- The replica is stopped while it reads one shard and a drain is about to release
another; the release takes effect after `stop` has collected the shards. -/
def stopsReading : List ServiceEvent :=
  [.reconcile, .planned 1, .setExecutes, .answered, .setExecutes, .answered,
    .reconcile, .planned 2, .finish 1, .waitEnds 0, .stop, .collect, .releaseExecutes 0,
    .releaseReturns 0, .finish 0, .waitEnds 1, .releaseExecutes 1, .releaseReturns 1,
    .drainsWaited, .gathered, .stopReleases, .stopReleases]

theorem stopped_owns_nothing_stopsReading :
    ∃ service, Run (ProcessorService.step 2 0) Recorded ProcessorService.fresh stopsReading service ∧
      service.shutdown = .stopped ∧ ¬ service.Owns 0 ∧ ¬ service.Owns 1 := by
  obtain ⟨service, executed, stopped⟩ := @exists_of_exec _ _ (ProcessorService.step 2 0) Recorded
    ProcessorService.fresh _ (fun service => service.shutdown = .stopped) _ stopsReading (by decide)
  have run := run_of_exec executed
  exact ⟨service, run, stopped, stopped_owns_nothing run stopped 0,
    stopped_owns_nothing run stopped 1⟩

/-- The replica is stopped when its command has taken a lease and the answer is
still on its way: nothing on record says so. -/
theorem stopped_keeps_unrecorded :
    ∃ service, Run (ProcessorService.step 1 0) Anything ProcessorService.fresh
        [.reconcile, .planned 1, .setExecutes, .stop, .collect, .stopReleases] service ∧
      service.shutdown = .stopped ∧ service.Owns 0 := by
  obtain ⟨service, executed, stopped⟩ := @exists_of_exec _ _ (ProcessorService.step 1 0) Anything
    ProcessorService.fresh _ (fun service => service.shutdown = .stopped ∧ service.Owns 0) _
    [.reconcile, .planned 1, .setExecutes, .stop, .collect, .stopReleases] (by decide)
  exact ⟨service, run_of_exec executed, stopped⟩

end GeoTrack
