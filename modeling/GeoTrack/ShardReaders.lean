import GeoTrack.ProcessorService

/-!
# The readers of a shard

A replica starts a reader for a shard that it neither reads nor winds down, and
a reader that has not finished is on record as one or the other.  The record of a
shard that winds down is dropped when the waits for its reader are over, and the
second of them may be over before the reader is.
-/

namespace GeoTrack

open LabelledRuns

namespace ShardRecords

/-- No shard has two readers that have not finished. -/
def Unique (records : ShardRecords) : Prop :=
  ∀ first second one two, records.tasks.get? first = some one →
    records.tasks.get? second = some two → one.finished = false → two.finished = false →
    one.shard = two.shard → first = second

/-- Every reader that has not finished is on record, and so is every drain that
waits for one. -/
structure Sound (records : ShardRecords) : Prop where
  taskIds : ∀ task reader, records.tasks.get? task = some reader → task < records.nextTask
  drainIds : ∀ drain task, records.drains.get? drain = some task → drain < records.nextDrain
  apart : ∀ shard, shard ∈ records.consumers → shard ∉ records.draining
  tracked : ∀ task reader, records.tasks.get? task = some reader → reader.finished = false →
    records.consumers.get? reader.shard = some task ∨
      ∃ record, records.draining.get? reader.shard = some record ∧ record.reader = task
  placed : ∀ drain task, records.drains.get? drain = some task →
    (task.stage = .waiting ∨ task.stage = .grace) →
    ∃ record, records.draining.get? task.shard = some record ∧ record.drain = drain ∧
      record.reader = task.reader

section Records

variable {records : ShardRecords}

theorem Sound.unique (sound : records.Sound) : records.Unique := by
  intro first second one two foundOne foundTwo isOne isTwo same
  have trackedOne := sound.tracked first one foundOne isOne
  have trackedTwo := sound.tracked second two foundTwo isTwo
  rw [← same] at trackedTwo
  rcases trackedOne with readsOne | ⟨record, drainsOne, isReader⟩
  · rcases trackedTwo with readsTwo | ⟨record, drainsTwo, -⟩
    · exact Option.some.inj (readsOne.symm.trans readsTwo)
    · exact absurd (Dict.mem_iff_exists.mpr ⟨record, drainsTwo⟩)
        (sound.apart _ (Dict.mem_iff_exists.mpr ⟨first, readsOne⟩))
  · rcases trackedTwo with readsTwo | ⟨other, drainsTwo, alsoReader⟩
    · exact absurd (Dict.mem_iff_exists.mpr ⟨record, drainsOne⟩)
        (sound.apart _ (Dict.mem_iff_exists.mpr ⟨second, readsTwo⟩))
    · obtain rfl := Option.some.inj (drainsOne.symm.trans drainsTwo)
      exact isReader.symm.trans alsoReader

/-- The replica may have let go of shards, and has started none. -/
structure Follows (records after : ShardRecords) : Prop where
  sound : records.Sound → after.Sound
  unique : records.Unique → after.Unique
  fewer : ∀ shard ∈ after.consumers, shard ∈ records.consumers
  drained : records.Sound → ∀ shard ∈ after.draining,
    shard ∈ records.draining ∨ shard ∈ records.consumers

theorem Follows.refl (records : ShardRecords) : records.Follows records :=
  ⟨id, id, fun _ found => found, fun _ _ found => Or.inl found⟩

theorem Follows.trans {middle after : ShardRecords} (first : records.Follows middle)
    (second : middle.Follows after) : records.Follows after := by
  refine ⟨fun sound => second.sound (first.sound sound),
    fun unique => second.unique (first.unique unique), ?_, ?_⟩
  · exact fun shard found => first.fewer shard (second.fewer shard found)
  · intro sound shard found
    rcases second.drained (first.sound sound) shard found with isDraining | isRead
    · exact first.drained sound shard isDraining
    · exact Or.inr (first.fewer shard isRead)

theorem follows_foldl {change : ShardRecords → ℕ → ShardRecords}
    (follows : ∀ records shard, ShardRecords.Follows records (change records shard))
    (gone : List ℕ) (records : ShardRecords) : records.Follows (gone.foldl change records) := by
  induction gone generalizing records with
  | nil => exact Follows.refl records
  | cons shard rest ih => exact (follows records shard).trans (ih _)

theorem follows_beginDrain (release : Bool) (records : ShardRecords) (shard : ℕ) :
    records.Follows (records.beginDrain release shard) := by
  unfold beginDrain
  split
  case h_1 => exact Follows.refl records
  case h_2 reader isRead =>
      have read : shard ∈ records.consumers := Dict.mem_iff_exists.mpr ⟨reader, isRead⟩
      refine ⟨fun sound => ⟨sound.taskIds, ?_, ?_, ?_, ?_⟩, id, ?_, ?_⟩
      · intro drain task found
        rcases Dict.get?_set_cases found with ⟨same, -⟩ | ⟨-, earlier⟩
        · dsimp only
          omega
        · exact Nat.lt_succ_of_lt (sound.drainIds drain task earlier)
      · intro other isOther
        obtain ⟨differs, earlier⟩ := Dict.mem_erase.mp isOther
        rw [Dict.mem_set]
        rintro (same | isDraining)
        · exact differs same
        · exact sound.apart other earlier isDraining
      · intro task other found unfinished
        by_cases same : other.shard = shard
        · right
          refine ⟨_, by rw [Dict.get?_set, if_pos same], ?_⟩
          rcases sound.tracked task other found unfinished with reads | ⟨record, isDraining, -⟩
          · rw [same, isRead] at reads
            exact Option.some.inj reads
          · rw [same] at isDraining
            exact absurd (Dict.mem_iff_exists.mpr ⟨record, isDraining⟩) (sound.apart shard read)
        · simpa only [Dict.get?_erase, Dict.get?_set, if_neg same] using
            sound.tracked task other found unfinished
      · intro drain task found waits
        rw [Dict.get?_set] at found
        split at found
        case isTrue isNew =>
            obtain rfl := Option.some.inj found
            exact ⟨_, by rw [Dict.get?_set, if_pos rfl], isNew.symm, rfl⟩
        case isFalse =>
            obtain ⟨record, isDraining, isOwn⟩ := sound.placed drain task found waits
            refine ⟨record, ?_, isOwn⟩
            rw [Dict.get?_set, if_neg, isDraining]
            rintro rfl
            exact sound.apart _ read (Dict.mem_iff_exists.mpr ⟨record, isDraining⟩)
      · intro other isOther
        exact (Dict.mem_erase.mp isOther).2
      · intro _ other isOther
        rcases Dict.mem_set.mp isOther with rfl | earlier
        · exact Or.inr read
        · exact Or.inl earlier

theorem follows_loseLease (records : ShardRecords) (shard : ℕ) :
    records.Follows (records.loseLease shard) := by
  unfold loseLease
  split
  case h_2 => exact follows_beginDrain false records shard
  case h_1 lost isDraining =>
      have known : shard ∈ records.draining := Dict.mem_iff_exists.mpr ⟨lost, isDraining⟩
      -- the record keeps its reader and its drain
      have moved {other : ℕ} {record : Draining} (found : records.draining.get? other = some record) :
          ∃ same, (records.draining.set shard { lost with release := false }).get? other =
            some same ∧ same.drain = record.drain ∧ same.reader = record.reader := by
        rw [Dict.get?_set]
        split
        case isTrue isShard =>
            rw [isShard, isDraining] at found
            obtain rfl := Option.some.inj found
            exact ⟨_, rfl, rfl, rfl⟩
        case isFalse => exact ⟨record, found, rfl, rfl⟩
      have members {other : ℕ} (found : other ∈ records.draining.set shard
          { lost with release := false }) : other ∈ records.draining := by
        rcases Dict.mem_set.mp found with rfl | earlier
        · exact known
        · exact earlier
      refine ⟨fun sound => ⟨sound.taskIds, sound.drainIds, ?_, ?_, ?_⟩, id, fun _ found => found, ?_⟩
      · exact fun other isRead found => sound.apart other isRead (members found)
      · intro task reader found unfinished
        rcases sound.tracked task reader found unfinished with reads | ⟨record, drains, isReader⟩
        · exact Or.inl reads
        · obtain ⟨same, isSame, -, sameReader⟩ := moved drains
          exact Or.inr ⟨same, isSame, sameReader.trans isReader⟩
      · intro drain task found waits
        obtain ⟨record, drains, isDrain, isReader⟩ := sound.placed drain task found waits
        obtain ⟨same, isSame, sameDrain, sameReader⟩ := moved drains
        exact ⟨same, isSame, sameDrain.trans isDrain, sameReader.trans isReader⟩
      · exact fun _ other found => Or.inl (members found)

theorem follows_finish {task : ℕ} {reader : ReaderTask}
    (known : records.tasks.get? task = some reader) :
    records.Follows { records with tasks := records.tasks.set task { reader with finished := true } } := by
  have earlier {other : ℕ} {another : ReaderTask}
      (found : (records.tasks.set task { reader with finished := true }).get? other = some another)
      (unfinished : another.finished = false) : records.tasks.get? other = some another := by
    rcases Dict.get?_set_cases found with ⟨-, rfl⟩ | ⟨-, before⟩
    · cases unfinished
    · exact before
  refine ⟨fun sound => ⟨?_, sound.drainIds, sound.apart, ?_, sound.placed⟩, ?_,
    fun _ found => found, fun _ _ found => Or.inl found⟩
  · intro other another found
    rcases Dict.get?_set_cases found with ⟨rfl, -⟩ | ⟨-, before⟩
    · exact sound.taskIds other reader known
    · exact sound.taskIds other another before
  · intro other another found unfinished
    exact sound.tracked other another (earlier found unfinished) unfinished
  · intro unique first second one two foundOne foundTwo isOne isTwo
    exact unique first second one two (earlier foundOne isOne) (earlier foundTwo isTwo) isOne isTwo

theorem follows_drainTo {drain : ℕ} {task : DrainTask} {stage : DrainStage}
    (known : records.drains.get? drain = some task)
    (onward : stage = .grace → task.stage = .waiting) (fresh : stage ≠ .waiting) :
    records.Follows (records.drainTo drain task stage) := by
  refine ⟨fun sound => ⟨sound.taskIds, ?_, sound.apart, sound.tracked, ?_⟩, id,
    fun _ found => found, fun _ _ found => Or.inl found⟩
  · intro other another found
    rcases Dict.get?_set_cases found with ⟨rfl, -⟩ | ⟨-, before⟩
    · exact sound.drainIds other task known
    · exact sound.drainIds other another before
  · intro other another found waits
    rcases Dict.get?_set_cases found with ⟨rfl, rfl⟩ | ⟨-, before⟩
    · exact sound.placed other task known (Or.inl (onward (waits.resolve_left fresh)))
    · exact sound.placed other another before waits

theorem finished_of_isDone {task : ℕ} {reader : ReaderTask}
    (known : records.tasks.get? task = some reader) (done : records.isDone task = true) :
    reader.finished = true := by
  rw [isDone, known] at done
  exact done

theorem follows_dropRecord {drain : ℕ} {task : DrainTask}
    (known : records.drains.get? drain = some task)
    (waits : task.stage = .waiting ∨ task.stage = .grace)
    (done : records.isDone task.reader = true) :
    records.Follows (records.dropRecord drain task) := by
  have ended (stage : DrainStage) (isEnd : stage = if (records.draining.get? task.shard).any
      Draining.release then .releasing else .ended) : ¬ (stage = .waiting ∨ stage = .grace) := by
    rw [isEnd]
    split
    case isTrue => decide
    case isFalse => decide
  refine ⟨fun sound => ⟨sound.taskIds, ?_, ?_, ?_, ?_⟩, id, fun _ found => found, ?_⟩
  · intro other another found
    rcases Dict.get?_set_cases found with ⟨rfl, -⟩ | ⟨-, before⟩
    · exact sound.drainIds other task known
    · exact sound.drainIds other another before
  · exact fun shard isRead found => sound.apart shard isRead (Dict.mem_erase.mp found).2
  · intro other reader found unfinished
    rcases sound.tracked other reader found unfinished with reads | ⟨record, drains, isReader⟩
    · exact Or.inl reads
    · refine Or.inr ⟨record, ?_, isReader⟩
      simp only [dropRecord]
      rw [Dict.get?_erase, if_neg, drains]
      -- the record that goes is that of a reader that has finished
      intro same
      obtain ⟨own, isOwn, -, ownReader⟩ := sound.placed drain task known waits
      rw [same] at drains
      obtain rfl := Option.some.inj (drains.symm.trans isOwn)
      rw [← ownReader, isReader] at done
      rw [finished_of_isDone found done] at unfinished
      cases unfinished
  · intro other another found stillWaits
    simp only [dropRecord, Dict.get?_set] at found
    split at found
    case isTrue =>
        obtain rfl := Option.some.inj found
        exact absurd stillWaits (ended _ rfl)
    case isFalse differs =>
        obtain ⟨record, drains, isDrain, isReader⟩ := sound.placed other another found stillWaits
        refine ⟨record, ?_, isDrain, isReader⟩
        simp only [dropRecord]
        rw [Dict.get?_erase, if_neg, drains]
        intro same
        obtain ⟨own, isOwn, ownDrain, -⟩ := sound.placed drain task known waits
        rw [same] at drains
        obtain rfl := Option.some.inj (drains.symm.trans isOwn)
        exact differs (isDrain.symm.trans ownDrain)
  · exact fun _ shard found => Or.inl (Dict.mem_erase.mp found).2

theorem Sound.startConsumer (sound : records.Sound) {shard : ℕ}
    (unread : shard ∉ records.consumers) (undrained : shard ∉ records.draining) :
    (records.startConsumer shard).Sound := by
  refine ⟨?_, sound.drainIds, ?_, ?_, sound.placed⟩
  · intro task reader found
    simp only [ShardRecords.startConsumer, Dict.get?_set] at found ⊢
    split at found
    case isTrue same => omega
    case isFalse => exact Nat.lt_succ_of_lt (sound.taskIds task reader found)
  · intro other isRead
    rcases Dict.mem_set.mp isRead with rfl | earlier
    · exact undrained
    · exact sound.apart other earlier
  · intro task reader found unfinished
    simp only [ShardRecords.startConsumer, Dict.get?_set] at found ⊢
    split at found
    case isTrue isNew =>
        obtain rfl := Option.some.inj found
        rw [if_pos rfl, isNew]
        exact Or.inl rfl
    case isFalse =>
        rcases sound.tracked task reader found unfinished with reads | drains
        · rw [if_neg]
          · exact Or.inl reads
          · intro same
            rw [same] at reads
            exact unread (Dict.mem_iff_exists.mpr ⟨task, reads⟩)
        · exact Or.inr drains

end Records

end ShardRecords

namespace ProcessorService

/-- While the control loop runs, a drain drops its record only when its reader has
finished. -/
def Patient (service : ProcessorService) : ServiceEvent → Prop
  | .graceEnds drain =>
      service.control = .cancelled ∨ ∀ task ∈ service.records.drains.get? drain,
        service.records.isDone task.reader = true
  | _ => True

instance (service : ProcessorService) (event : ServiceEvent) : Decidable (service.Patient event) :=
  match event with
  | .graceEnds drain =>
      inferInstanceAs (Decidable (_ ∨ ∀ task ∈ service.records.drains.get? drain, _))
  | .reconcile | .planned _ | .setExecutes | .answered | .reconcileFails | .lateSet _ | .renew
  | .renewExecutes _ | .renewed | .renewFails | .expire _ | .taken _ | .given _ | .finish _
  | .waitEnds _ | .releaseExecutes _ | .releaseReturns _ | .stop | .collect | .drainsWaited
  | .gathered | .stopReleases => isTrue trivial

/-- The shards the control loop may still start are neither read nor, for the next
of them, wound down. -/
def Ready (records : ShardRecords) : ControlStage → Prop
  | .planning owned => ∀ shard ∈ records.consumers, shard ∈ owned
  | .acquiring shard _ rest _ => shard ∉ records.consumers ∧ shard ∉ records.draining ∧
      (shard :: rest).Nodup ∧ ∀ other ∈ rest, other ∉ records.consumers
  | .sleeping | .cancelled => True

/-- As long as the control loop runs the records are sound; after that no reader
starts. -/
structure Supervised (service : ProcessorService) : Prop where
  unique : service.records.Unique
  sound : service.control ≠ .cancelled →
    service.records.Sound ∧ Ready service.records service.control
  stopping : service.shutdown ≠ .running → service.control = .cancelled

section Readers

variable {shards offset : ℕ} {service after : ProcessorService} {event : ServiceEvent}
  {records : ShardRecords}

theorem Ready.follows {later : ShardRecords} {control : ControlStage}
    (ready : Ready records control) (sound : records.Sound) (follows : records.Follows later) :
    Ready later control := by
  cases control with
  | sleeping | cancelled => trivial
  | planning owned => exact fun shard found => ready shard (follows.fewer shard found)
  | acquiring shard answer rest target =>
      obtain ⟨unread, undrained, distinct, others⟩ := ready
      refine ⟨fun found => unread (follows.fewer shard found), ?_, distinct,
        fun other listed found => others other listed (follows.fewer other found)⟩
      intro found
      rcases follows.drained sound shard found with earlier | wasRead
      · exact undrained earlier
      · exact unread wasRead

theorem ready_nextCandidate {target : ℕ} {candidates : List ℕ} (distinct : candidates.Nodup)
    (unread : ∀ shard ∈ candidates, shard ∉ records.consumers) :
    Ready records (nextCandidate records target candidates) := by
  induction candidates with
  | nil => trivial
  | cons shard rest ih =>
      unfold nextCandidate
      split
      case isTrue => trivial
      case isFalse =>
          split
          case isTrue =>
              exact ih distinct.of_cons fun other listed =>
                unread other (List.mem_cons_of_mem _ listed)
          case isFalse undrained =>
              exact ⟨unread shard (List.mem_cons_self ..), undrained, distinct,
                fun other listed => unread other (List.mem_cons_of_mem _ listed)⟩

/-- The records follow, and the control loop is where it was. -/
theorem Supervised.follows (supervised : service.Supervised)
    (follows : service.records.Follows after.records) (control : after.control = service.control)
    (shutdown : after.shutdown = service.shutdown) : after.Supervised := by
  refine ⟨follows.unique supervised.unique, ?_, ?_⟩
  · rw [control]
    intro runs
    obtain ⟨sound, ready⟩ := supervised.sound runs
    exact ⟨follows.sound sound, ready.follows sound follows⟩
  · rw [control, shutdown]
    exact supervised.stopping

/-- The control loop takes a step of its own. -/
theorem Supervised.runs (supervised : service.Supervised) (runs : service.control ≠ .cancelled)
    {leases : Dict ℕ Bool} {inFlight : List ℕ} {control : ControlStage} (sound : records.Sound)
    (ready : Ready records control) :
    Supervised { service with
      leases := leases
      records := records
      control := control
      inFlight := inFlight } := by
  refine ⟨sound.unique, fun _ => ⟨sound, ready⟩, ?_⟩
  intro stopping
  exact absurd (supervised.stopping stopping) runs

/-- The control loop is gone. -/
theorem supervised_of_cancelled (unique : after.records.Unique)
    (cancelled : after.control = .cancelled) : after.Supervised :=
  ⟨unique, fun runs => absurd cancelled runs, fun _ => cancelled⟩

theorem Supervised.step (supervised : service.Supervised) (patient : service.Patient event)
    (effect : Effect shards offset service event after) : after.Supervised := by
  have running {stage : ControlStage} (isStage : service.control = stage)
      (other : stage ≠ .cancelled) : service.control ≠ .cancelled := by
    rw [isStage]
    exact other
  have halted {stage : ShutdownStage} (isStage : service.shutdown = stage)
      (other : stage ≠ .running) : service.control = .cancelled := by
    apply supervised.stopping
    rw [isStage]
    exact other
  cases effect with
  | reconciled isSleeping =>
      have runs := running isSleeping (by decide)
      have follows := ShardRecords.follows_foldl (ShardRecords.follows_beginDrain true)
        ((service.records.consumers.entries.filter fun entry =>
          service.records.isDone entry.2).map Prod.fst) service.records
      refine supervised.runs runs (follows.sound (supervised.sound runs).1) ?_
      exact fun shard found => Dict.mem_keys_iff.mpr found
  | planned live owned isPlanning records lets =>
      have runs := running isPlanning (by intro same; cases same)
      obtain ⟨sound, ready⟩ := supervised.sound runs
      rw [isPlanning] at ready
      have follows : service.records.Follows records := by
        rw [lets]
        exact ShardRecords.follows_foldl (ShardRecords.follows_beginDrain true) _ _
      refine supervised.runs runs (follows.sound sound) (ready_nextCandidate nodup_candidates ?_)
      intro shard candidate isRead
      exact (mem_candidates.mp candidate).2.2 (ready shard (follows.fewer shard isRead))
  | tookLease shard rest target isAcquiring free =>
      have runs := running isAcquiring (by intro same; cases same)
      obtain ⟨sound, ready⟩ := supervised.sound runs
      rw [isAcquiring] at ready
      exact supervised.runs runs sound ready
  | missedLease shard rest target isAcquiring =>
      have runs := running isAcquiring (by intro same; cases same)
      obtain ⟨sound, ready⟩ := supervised.sound runs
      rw [isAcquiring] at ready
      exact supervised.runs runs sound ready
  | started shard rest target isAcquiring =>
      have runs := running isAcquiring (by intro same; cases same)
      obtain ⟨sound, ready⟩ := supervised.sound runs
      rw [isAcquiring] at ready
      obtain ⟨unread, undrained, distinct, others⟩ := ready
      obtain ⟨fresh, distinctRest⟩ := List.nodup_cons.mp distinct
      refine supervised.runs runs (sound.startConsumer unread undrained)
        (ready_nextCandidate distinctRest ?_)
      intro other listed isRead
      rcases Dict.mem_set.mp isRead with rfl | earlier
      · exact fresh listed
      · exact others other listed earlier
  | passedOver shard rest target isAcquiring =>
      have runs := running isAcquiring (by intro same; cases same)
      obtain ⟨sound, ready⟩ := supervised.sound runs
      rw [isAcquiring] at ready
      exact supervised.runs runs sound (ready_nextCandidate ready.2.2.1.of_cons ready.2.2.2)
  | gaveUp inFlight unstopped =>
      exact supervised.runs unstopped (supervised.sound unstopped).1 trivial
  | renewed asked verdicts isRenewing =>
      exact supervised.follows (ShardRecords.follows_foldl ShardRecords.follows_loseLease _ _) rfl rfl
  | finished task reader known => exact supervised.follows (ShardRecords.follows_finish known) rfl rfl
  | cancelledReader drain task known isWaiting =>
      exact supervised.follows (ShardRecords.follows_drainTo known (fun _ => isWaiting) (by decide))
        rfl rfl
  | dropped event drain task known ends =>
      by_cases cancelled : service.control = .cancelled
      · exact supervised_of_cancelled supervised.unique cancelled
      · refine supervised.follows (ShardRecords.follows_dropRecord known ?_ ?_) rfl rfl
        · rcases ends with ⟨-, isWaiting, -⟩ | ⟨-, isGrace⟩
          · exact Or.inl isWaiting
          · exact Or.inr isGrace
        · rcases ends with ⟨-, -, done⟩ | ⟨rfl, -⟩
          · exact done
          · exact patient.resolve_left cancelled task known
  | releaseExecuted drain task known isReleasing =>
      exact supervised.follows (ShardRecords.follows_drainTo known (by intro same; cases same)
        (by decide)) rfl rfl
  | releaseReturned drain task known isReleasing =>
      exact supervised.follows (ShardRecords.follows_drainTo known (by intro same; cases same)
        (by decide)) rfl rfl
  | stopping isRunning inFlight => exact supervised_of_cancelled supervised.unique rfl
  | collected isCancelling shutdown records lets awaits =>
      have follows : service.records.Follows records := by
        rw [lets]
        exact ShardRecords.follows_foldl (ShardRecords.follows_beginDrain true) _ _
      exact supervised_of_cancelled (follows.unique supervised.unique)
        (halted isCancelling (by decide))
  | cut held drains isAwaiting =>
      exact supervised_of_cancelled supervised.unique (halted isAwaiting (by intro same; cases same))
  | gathered held drains isGathering =>
      exact supervised_of_cancelled supervised.unique (halted isGathering (by intro same; cases same))
  | stopReleased shard rest isReleasing =>
      exact supervised_of_cancelled supervised.unique (halted isReleasing (by intro same; cases same))
  | stopped isReleasing =>
      exact supervised_of_cancelled supervised.unique (halted isReleasing (by intro same; cases same))
  | lateTook | lateMissed | beganRenewal | nothingToRenew | heard | renewalFailed | expired | taken
  | given => exact supervised.follows (ShardRecords.Follows.refl _) rfl rfl

theorem supervised_fresh : fresh.Supervised := by
  have sound : fresh.records.Sound := by
    refine ⟨?_, ?_, ?_, ?_, ?_⟩
    all_goals
      intros
      contradiction
  exact ⟨sound.unique, fun _ => ⟨sound, trivial⟩, fun stopping => absurd rfl stopping⟩

end Readers

end ProcessorService

open ProcessorService

/-- At most one reader of a shard has not finished, unless a drain drops the record
of its reader before that has finished. -/
theorem one_reader_per_shard {shards offset : ℕ} {events : List ServiceEvent}
    {service : ProcessorService}
    (run : Run (ProcessorService.step shards offset) Patient ProcessorService.fresh events service)
    (first second : ℕ) (one two : ReaderTask)
    (foundOne : service.records.tasks.get? first = some one)
    (foundTwo : service.records.tasks.get? second = some two)
    (reads : one.finished = false) (alsoReads : two.finished = false)
    (same : one.shard = two.shard) : first = second := by
  have supervised : service.Supervised := by
    apply run.invariant
    · exact supervised_fresh
    · intro before event later supervised patient stepTo
      exact supervised.step patient (effect_of_step stepTo)
  exact supervised.unique first second one two foundOne foundTwo reads alsoReads same

/-- A replica of one shard loses its lease and takes it again; the first reader is
told to stop and cancelled. -/
def takesAgain (stops : List ServiceEvent) : List ServiceEvent :=
  [.reconcile, .planned 1, .setExecutes, .answered, .renew, .expire 0, .renewExecutes 0, .renewed,
    .waitEnds 0] ++ stops ++
    [.graceEnds 0, .reconcile, .planned 1, .setExecutes, .answered]

theorem one_reader_per_shard_takesAgain :
    ∃ service, Run (ProcessorService.step 1 0) Patient ProcessorService.fresh
        (takesAgain [.finish 0]) service ∧
      service.records.tasks.get? 1 = some ⟨0, false⟩ ∧
      ∀ first one, service.records.tasks.get? first = some one → one.finished = false →
        one.shard = 0 → first = 1 := by
  obtain ⟨service, executed, reads⟩ := @exists_of_exec _ _ (ProcessorService.step 1 0) Patient
    ProcessorService.fresh _ (fun service => service.records.tasks.get? 1 = some ⟨0, false⟩) _
    (takesAgain [.finish 0]) (by decide)
  have run := run_of_exec executed
  refine ⟨service, run, reads, ?_⟩
  intro first one found unfinished isZero
  exact one_reader_per_shard run first 1 one _ found reads unfinished rfl isZero

/-- The grace period ends before the first reader does: the second one starts
beside it. -/
theorem two_readers_after_grace :
    ∃ service, Run (ProcessorService.step 1 0) Anything ProcessorService.fresh (takesAgain []) service ∧
      service.records.tasks.get? 0 = some ⟨0, false⟩ ∧
      service.records.tasks.get? 1 = some ⟨0, false⟩ := by
  obtain ⟨service, executed, both⟩ := @exists_of_exec _ _ (ProcessorService.step 1 0) Anything
    ProcessorService.fresh _ (fun service => service.records.tasks.get? 0 = some ⟨0, false⟩ ∧
      service.records.tasks.get? 1 = some ⟨0, false⟩) _ (takesAgain []) (by decide)
  exact ⟨service, run_of_exec executed, both⟩

end GeoTrack
