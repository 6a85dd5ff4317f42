import GeoTrack.EntryFates

/-!
# No entry leaves the stream unsettled

An entry may leave the stream only when nothing is owed to it: its record is in
a committed transaction, or a dead letter names it.  The order of the calls in
a batch (commit, publish, dead-letter, acknowledge) makes that an invariant of
each consumer by itself, so it survives a failure or a cancellation between any
two of them and any number of owners with the same entries in hand.
-/

namespace GeoTrack

/-- The record of the entry is in a committed transaction, or a dead letter
names the entry. -/
def Settled (env : ConsumerEnv) (shard : Shard) (entry : StreamEntry) : Prop :=
  (∃ record, decodeRecord env.orjson entry.2 = .ok record ∧
    ∃ storable ∈ shard.commits, record ∈ storable) ∨
  ∃ letter ∈ shard.deadLetters, letter.entryId = entry.1

section Durability

variable {env : ConsumerEnv}

/-- Every entry of the batch is going to be stored or dead-lettered. -/
def Prepared (env : ConsumerEnv) (batch : Work) : Prop :=
  ∀ entry ∈ batch.entries,
    (∃ record ∈ batch.storable, decodeRecord env.orjson entry.2 = .ok record) ∨
    ∃ letter ∈ batch.letters, letter.entryId = entry.1

theorem prepared_work (clockMs : ℤ) (entries : List StreamEntry) :
    Prepared env (work env.orjson env.storage clockMs entries) := by
  intro entry listed
  cases written : (fate env.orjson env.storage clockMs entry).letter? with
  | none =>
      obtain ⟨record, recorded⟩ :=
        Option.isSome_iff_exists.mp (letter?_fate_eq_none_iff.mp written)
      refine Or.inl ⟨record, ?_, (record?_fate_eq_some_iff.mp recorded).1⟩
      rw [work_storable]
      exact List.mem_filterMap.mpr ⟨entry, listed, recorded⟩
  | some letter =>
      refine Or.inr ⟨letter, ?_, entryId_of_letter? written⟩
      exact (work_letters ..).mem_iff.mpr (List.mem_filterMap.mpr ⟨entry, listed, written⟩)

/-- A batch in hand shows the payloads that are in the stream. -/
def Genuine (shard : Shard) (entries : List StreamEntry) : Prop :=
  ∀ entry ∈ entries, entry.1 < shard.nextId ∧
    ∀ payload, (entry.1, payload) ∈ shard.stream → payload = entry.2

/-- The promise of the batch has been committed. -/
def Stored (shard : Shard) (batch : Work) : Prop :=
  batch.storable = [] ∨ batch.storable ∈ shard.commits

/-- What a consumer owes to the entries in its hands. -/
def PhaseSound (env : ConsumerEnv) (shard : Shard) : Phase → Prop
  | .answered entries => Genuine shard entries
  | .measuring entries => Genuine shard entries
  | .renewing entries => Genuine shard entries
  | .renewed entries _ => Genuine shard entries
  | .applying batch _ committed =>
      Genuine shard batch.entries ∧ Prepared env batch ∧ (committed = true → Stored shard batch)
  | .publishing batch =>
      Genuine shard batch.entries ∧ Prepared env batch ∧ Stored shard batch
  | .deadLettering batch remaining =>
      Genuine shard batch.entries ∧ Prepared env batch ∧ Stored shard batch ∧
        ∀ letter ∈ batch.letters, letter ∈ remaining ∨ letter ∈ shard.deadLetters
  | .acknowledging entries =>
      Genuine shard entries ∧ ∀ entry ∈ entries, Settled env shard entry
  | .acking entries _ => Genuine shard entries ∧ ∀ entry ∈ entries, Settled env shard entry
  | _ => True

structure Durable (env : ConsumerEnv) (shard : Shard) : Prop where
  distinct : (Shard.ids shard.stream).Nodup
  issued : ∀ entry ∈ shard.stream, entry.1 < shard.nextId
  pendingIssued : ∀ id ∈ shard.pending, id < shard.nextId
  sound : ∀ replica, PhaseSound env shard (shard.consumers replica).phase

/-- Entries come only under new ids; commits and dead letters stay. -/
structure Extends (shard changed : Shard) : Prop where
  nextId : shard.nextId ≤ changed.nextId
  stream : ∀ entry ∈ changed.stream, entry ∈ shard.stream ∨ shard.nextId ≤ entry.1
  commits : shard.commits ⊆ changed.commits
  deadLetters : shard.deadLetters ⊆ changed.deadLetters

namespace Extends

variable {shard changed : Shard}

theorem settled (grown : Extends shard changed) {entry : StreamEntry}
    (settled : Settled env shard entry) : Settled env changed entry := by
  rcases settled with ⟨record, decoded, storable, committed, listed⟩ | ⟨letter, written, names⟩
  · exact Or.inl ⟨record, decoded, storable, grown.commits committed, listed⟩
  · exact Or.inr ⟨letter, grown.deadLetters written, names⟩

theorem genuine (grown : Extends shard changed) {entries : List StreamEntry}
    (genuine : Genuine shard entries) : Genuine changed entries := by
  intro entry listed
  obtain ⟨issued, payloads⟩ := genuine entry listed
  refine ⟨Nat.lt_of_lt_of_le issued grown.nextId, ?_⟩
  intro payload inStream
  rcases grown.stream _ inStream with old | new
  · exact payloads payload old
  · exact absurd issued (Nat.not_lt_of_le new)

theorem stored (grown : Extends shard changed) {batch : Work} (stored : Stored shard batch) :
    Stored changed batch :=
  stored.imp_right fun committed => grown.commits committed

theorem phaseSound (grown : Extends shard changed) {phase : Phase}
    (sound : PhaseSound env shard phase) : PhaseSound env changed phase := by
  cases phase with
  | answered entries => exact grown.genuine sound
  | measuring entries => exact grown.genuine sound
  | renewing entries => exact grown.genuine sound
  | renewed entries held => exact grown.genuine sound
  | applying batch attempt committed =>
      exact ⟨grown.genuine sound.1, sound.2.1, fun done => grown.stored (sound.2.2 done)⟩
  | publishing batch => exact ⟨grown.genuine sound.1, sound.2.1, grown.stored sound.2.2⟩
  | deadLettering batch remaining =>
      obtain ⟨genuine, prepared, stored, letters⟩ := sound
      refine ⟨grown.genuine genuine, prepared, grown.stored stored, ?_⟩
      intro letter listed
      exact (letters letter listed).imp_right fun written => grown.deadLetters written
  | acknowledging entries =>
      exact ⟨grown.genuine sound.1, fun entry listed => grown.settled (sound.2 entry listed)⟩
  | acking entries acked =>
      exact ⟨grown.genuine sound.1, fun entry listed => grown.settled (sound.2 entry listed)⟩
  | _ => trivial

end Extends

theorem settled_of_handled {shard : Shard} {batch : Work} (prepared : Prepared env batch)
    (stored : Stored shard batch) (written : ∀ letter ∈ batch.letters, letter ∈ shard.deadLetters) :
    ∀ entry ∈ batch.entries, Settled env shard entry := by
  intro entry listed
  rcases prepared entry listed with ⟨record, storable, decoded⟩ | ⟨letter, isLetter, names⟩
  · rcases stored with nothing | committed
    · rw [nothing] at storable
      cases storable
    · exact Or.inl ⟨record, decoded, batch.storable, committed, storable⟩
  · exact Or.inr ⟨letter, written letter isLetter, names⟩

theorem phaseSound_loopHead {shard : Shard} {consumer : Consumer} :
    PhaseSound env shard consumer.loopHead.phase := by
  unfold Consumer.loopHead
  cases consumer.stopping <;> exact trivial

theorem phaseSound_acknowledge {shard : Shard} {consumer : Consumer} {entries : List StreamEntry}
    (genuine : Genuine shard entries) (settled : ∀ entry ∈ entries, Settled env shard entry) :
    PhaseSound env shard (consumer.acknowledge entries).phase := by
  unfold Consumer.acknowledge
  cases consumer.supportsXackdel <;> exact ⟨genuine, settled⟩

/-- Seeing an answer never promises more than has been done. -/
theorem phaseSound_reply {shard : Shard} {consumer after : Consumer} {clockMs : ℤ}
    (sound : PhaseSound env shard consumer.phase)
    (replied : Shard.reply env consumer clockMs = some after) :
    PhaseSound env shard after.phase := by
  cases Shard.replied_of_reply replied with
  | looped _ => exact phaseSound_loopHead
  | answered entries phase =>
      rw [phase] at sound
      exact sound
  | scanned _ => exact phaseSound_loopHead
  | measured first rest phase =>
      rw [phase] at sound
      exact sound
  | lost _ _ => exact trivial
  | unstorable entries phase nothing =>
      rw [phase] at sound
      exact ⟨sound, @prepared_work env clockMs entries, Or.inl nothing⟩
  | decoded entries phase =>
      rw [phase] at sound
      exact ⟨sound, @prepared_work env clockMs entries, nofun⟩
  | committed batch attempt phase =>
      rw [phase] at sound
      exact ⟨sound.1, sound.2.1, sound.2.2 rfl⟩
  | published batch phase noLetters =>
      rw [phase] at sound
      obtain ⟨genuine, prepared, stored⟩ := sound
      exact phaseSound_acknowledge genuine
        (settled_of_handled prepared stored (by simp [noLetters]))
  | lettering batch phase =>
      rw [phase] at sound
      obtain ⟨genuine, prepared, stored⟩ := sound
      exact ⟨genuine, prepared, stored, fun letter listed => Or.inl listed⟩
  | lettered batch phase =>
      rw [phase] at sound
      obtain ⟨genuine, prepared, stored, letters⟩ := sound
      apply phaseSound_acknowledge genuine
      apply settled_of_handled prepared stored
      intro letter listed
      exact (letters letter listed).resolve_left (by simp)
  | unsupported entries phase =>
      rw [phase] at sound
      exact sound
  | waited _ => cases consumer.stopping <;> exact trivial

theorem phaseSound_fail {shard : Shard} {consumer after : Consumer}
    (failed : Shard.fail consumer = some after) : PhaseSound env shard after.phase := by
  obtain ⟨phase, cursor, stopping, supportsXackdel⟩ := consumer
  cases phase with
  | waiting resume => cases failed
  | stopped => cases failed
  | _ =>
      obtain rfl := Option.some.inj failed
      exact trivial

theorem phaseSound_reject {shard : Shard} {consumer after : Consumer}
    (rejected : Shard.reject consumer = some after) : PhaseSound env shard after.phase := by
  have toCreating : PhaseSound env shard consumer.rejected.phase := by
    unfold Consumer.rejected
    cases consumer.stopping <;> exact trivial
  unfold Shard.reject at rejected
  split at rejected
  · exact Option.some.inj rejected ▸ toCreating
  · exact Option.some.inj rejected ▸ toCreating
  · cases rejected

theorem phaseSound_retry {shard : Shard} {consumer after : Consumer}
    (sound : PhaseSound env shard consumer.phase)
    (retried : Shard.retry consumer = some after) : PhaseSound env shard after.phase := by
  unfold Shard.retry at retried
  split at retried
  case h_1 batch attempt committed phase =>
      rw [phase] at sound
      split at retried
      · obtain rfl := Option.some.inj retried
        exact ⟨sound.1, sound.2.1, nofun⟩
      · cases retried
  case h_2 => cases retried

namespace Durable

variable {shard changed : Shard} {replica : ReplicaId} {after : Consumer}

/-- One consumer moves and the shard only grows. -/
theorem setConsumer (inv : Durable env shard) (grown : Extends shard changed)
    (distinct : (Shard.ids changed.stream).Nodup)
    (issued : ∀ entry ∈ changed.stream, entry.1 < changed.nextId)
    (pendingIssued : ∀ id ∈ changed.pending, id < changed.nextId)
    (consumers : changed.consumers = (shard.setConsumer replica after).consumers)
    (sound : PhaseSound env changed after.phase) : Durable env changed where
  distinct := distinct
  issued := issued
  pendingIssued := pendingIssued
  sound := by
    intro other
    rw [consumers]
    by_cases same : other = replica
    · subst same
      rw [Shard.consumers_setConsumer_self]
      exact sound
    · rw [Shard.consumers_setConsumer_of_ne _ same]
      exact grown.phaseSound (inv.sound other)

/-- A consumer moves by itself. -/
theorem goto (inv : Durable env shard) (sound : PhaseSound env shard after.phase) :
    Durable env (shard.setConsumer replica after) := by
  have unchanged : Extends shard (shard.setConsumer replica after) :=
    ⟨le_rfl, fun _ listed => Or.inl listed, List.Subset.refl _, List.Subset.refl _⟩
  exact inv.setConsumer unchanged inv.distinct inv.issued inv.pendingIssued rfl
    (unchanged.phaseSound sound)

theorem genuine_readPending (inv : Durable env shard) {group : Group}
    (found : shard.group = some group) : Genuine shard (Shard.readPending env shard group) := by
  intro entry listed
  obtain ⟨id, taken, rfl⟩ := List.mem_map.mp listed
  have isPending : id ∈ shard.pending := by
    rw [Shard.pending, found]
    exact List.mem_of_mem_take taken
  refine ⟨inv.pendingIssued id isPending, ?_⟩
  intro payload inStream
  cases looked : shard.stream.find? fun entry => entry.1 = id with
  | none => simpa using List.find?_eq_none.mp looked _ inStream
  | some entry =>
      have sameId : entry.1 = id := by simpa using List.find?_some looked
      have sameEntry := List.inj_on_of_nodup_map inv.distinct
        (List.mem_of_find?_eq_some looked) inStream sameId
      simp [sameEntry]

theorem genuine_of_subset (inv : Durable env shard) {entries : List StreamEntry}
    (listed : entries ⊆ shard.stream) : Genuine shard entries := by
  intro entry isEntry
  refine ⟨inv.issued entry (listed isEntry), ?_⟩
  intro payload inStream
  have same := List.inj_on_of_nodup_map inv.distinct inStream (listed isEntry) rfl
  rw [← same]

theorem readNew_subset (group : Group) : Shard.readNew env shard group ⊆ shard.stream := by
  intro entry listed
  exact (List.mem_filter.mp (List.mem_of_mem_take listed)).1

theorem extends_del (shard : Shard) (entries : List StreamEntry) :
    Extends shard (shard.del entries) where
  nextId := le_rfl
  stream _ listed := Or.inl (List.mem_filter.mp listed).1
  commits := List.Subset.refl _
  deadLetters := List.Subset.refl _

theorem del (inv : Durable env shard) (entries : List StreamEntry) :
    Durable env (shard.del entries) where
  distinct := inv.distinct.sublist (List.filter_sublist.map Prod.fst)
  issued entry listed := inv.issued entry (List.mem_filter.mp listed).1
  pendingIssued := inv.pendingIssued
  sound replica := (extends_del shard entries).phaseSound (inv.sound replica)

theorem ack (inv : Durable env shard) (entries : List StreamEntry) :
    Durable env (shard.ack entries) where
  distinct := inv.distinct
  issued := inv.issued
  pendingIssued := by
    intro id listed
    apply inv.pendingIssued id
    cases found : shard.group with
    | none => simp [Shard.pending, Shard.ack, found] at listed
    | some group =>
        simp only [Shard.pending, Shard.ack, found, Option.map_some, Option.getD_some,
          List.mem_filter] at listed ⊢
        exact listed.1
  sound replica :=
    Extends.phaseSound ⟨le_rfl, fun _ listed => Or.inl listed, List.Subset.refl _,
      List.Subset.refl _⟩ (inv.sound replica)

theorem serve (inv : Durable env shard) (served : Shard.Served env shard replica changed) :
    Durable env changed := by
  have sound := inv.sound replica
  cases served with
  | created phase =>
      refine inv.setConsumer ⟨le_rfl, fun _ listed => Or.inl listed, List.Subset.refl _,
        List.Subset.refl _⟩ inv.distinct inv.issued ?_ rfl trivial
      intro id listed
      apply inv.pendingIssued id
      cases found : shard.group with
      | none => simp [Shard.pending, found] at listed
      | some group => simpa [Shard.pending, found] using listed
  | scanned group phase cursor found => exact inv.goto (inv.genuine_readPending found)
  | delivered group phase cursor found =>
      have grown : Extends shard { shard.setConsumer replica ((shard.consumers replica).goto
          (.answered (Shard.readNew env shard group))) with
          group := some (Shard.Group.deliver group (Shard.readNew env shard group)) } :=
        ⟨le_rfl, fun _ listed => Or.inl listed, List.Subset.refl _, List.Subset.refl _⟩
      refine inv.setConsumer grown inv.distinct inv.issued ?_ rfl
        (grown.genuine (inv.genuine_of_subset (readNew_subset group)))
      intro id listed
      rcases List.mem_append.mp listed with old | new
      · apply inv.pendingIssued id
        rw [Shard.pending, found]
        exact old
      · obtain ⟨entry, isNew, rfl⟩ := List.mem_map.mp new
        exact inv.issued entry (readNew_subset group isNew)
  | renewed entries phase =>
      rw [phase] at sound
      exact inv.goto sound
  | committed batch attempt phase =>
      rw [phase] at sound
      have grown : Extends shard { shard.setConsumer replica ((shard.consumers replica).goto
          (.applying batch attempt true)) with commits := shard.commits ++ [batch.storable] } :=
        ⟨le_rfl, fun _ listed => Or.inl listed, List.subset_append_left _ _,
          List.Subset.refl _⟩
      refine inv.setConsumer grown inv.distinct inv.issued inv.pendingIssued rfl
        ⟨grown.genuine sound.1, sound.2.1, fun _ => Or.inr ?_⟩
      exact List.mem_append_right _ (List.mem_singleton_self _)
  | lettered batch letter rest phase =>
      rw [phase] at sound
      obtain ⟨genuine, prepared, stored, letters⟩ := sound
      have grown : Extends shard { shard.setConsumer replica ((shard.consumers replica).goto
          (.deadLettering batch rest)) with deadLetters := shard.deadLetters ++ [letter] } :=
        ⟨le_rfl, fun _ listed => Or.inl listed, List.Subset.refl _,
          List.subset_append_left _ _⟩
      refine inv.setConsumer grown inv.distinct inv.issued inv.pendingIssued rfl
        ⟨grown.genuine genuine, prepared, grown.stored stored, ?_⟩
      intro other listed
      rcases letters other listed with waits | written
      · rcases List.mem_cons.mp waits with rfl | later
        · exact Or.inr (List.mem_append_right _ (List.mem_singleton_self _))
        · exact Or.inl later
      · exact Or.inr (List.mem_append_left _ written)
  | ackedAndDeleted entries phase =>
      have moved : Durable env
          (shard.setConsumer replica ((shard.consumers replica).goto .acknowledged)) :=
        inv.goto trivial
      exact (moved.ack entries).del entries
  | acked entries phase =>
      rw [phase] at sound
      exact (inv.goto sound).ack entries
  | deleted entries phase =>
      have moved : Durable env
          (shard.setConsumer replica ((shard.consumers replica).goto .acknowledged)) :=
        inv.goto trivial
      exact moved.del entries

theorem extends_add (shard : Shard) (payload : Bytes) :
    Extends shard { shard with
      stream := shard.stream ++ [(shard.nextId, payload)]
      nextId := shard.nextId + 1 } where
  nextId := Nat.le_succ _
  stream := by
    intro entry listed
    rcases List.mem_append.mp listed with old | new
    · exact Or.inl old
    · obtain rfl := List.mem_singleton.mp new
      exact Or.inr le_rfl
  commits := List.Subset.refl _
  deadLetters := List.Subset.refl _

theorem add (inv : Durable env shard) (payload : Bytes) :
    Durable env { shard with
      stream := shard.stream ++ [(shard.nextId, payload)]
      nextId := shard.nextId + 1 } where
  distinct := by
    rw [Shard.ids, List.map_append, List.nodup_append]
    refine ⟨inv.distinct, List.nodup_singleton _, ?_⟩
    rintro id old _ new rfl
    obtain ⟨entry, listed, rfl⟩ := List.mem_map.mp old
    have same : entry.1 = shard.nextId := by simpa using new
    exact absurd same (Nat.ne_of_lt (inv.issued entry listed))
  issued := by
    intro entry listed
    rcases List.mem_append.mp listed with old | new
    · exact Nat.lt_succ_of_lt (inv.issued entry old)
    · obtain rfl := List.mem_singleton.mp new
      exact Nat.lt_succ_self _
  pendingIssued id listed := Nat.lt_succ_of_lt (inv.pendingIssued id listed)
  sound replica := (extends_add shard payload).phaseSound (inv.sound replica)

theorem setLease (inv : Durable env shard) (lease : Option ReplicaId) :
    Durable env { shard with lease := lease } :=
  ⟨inv.distinct, inv.issued, inv.pendingIssued, fun replica =>
    Extends.phaseSound ⟨le_rfl, fun _ listed => Or.inl listed, List.Subset.refl _,
      List.Subset.refl _⟩ (inv.sound replica)⟩

theorem step (inv : Durable env shard) {event : ShardEvent}
    (stepTo : Shard.step env shard event = some changed) : Durable env changed := by
  cases event with
  | add payload =>
      obtain rfl := Option.some.inj stepTo
      exact inv.add payload
  | expireLease =>
      obtain rfl := Option.some.inj stepTo
      exact inv.setLease none
  | acquire replica answered =>
      simp only [Shard.step] at stepTo
      split at stepTo
      · obtain rfl := Option.some.inj stepTo
        cases answered with
        | true => exact (inv.setLease (some replica)).goto trivial
        | false => exact inv.setLease (some replica)
      · cases stepTo
  | release replica =>
      obtain rfl := Option.some.inj stepTo
      exact inv.setLease _
  | requestStop replica =>
      obtain rfl := Option.some.inj stepTo
      exact inv.goto (inv.sound replica)
  | cancel replica =>
      obtain rfl := Option.some.inj stepTo
      have moved : Durable env
          (shard.setConsumer replica ((shard.consumers replica).goto .stopped)) :=
        inv.goto trivial
      exact moved
  | serve replica => exact inv.serve (Shard.served_of_serve stepTo)
  | reply replica clockMs =>
      obtain ⟨after, replied, rfl⟩ := Option.map_eq_some_iff.mp stepTo
      exact inv.goto (phaseSound_reply (inv.sound replica) replied)
  | fail replica =>
      obtain ⟨after, failed, rfl⟩ := Option.map_eq_some_iff.mp stepTo
      exact inv.goto (phaseSound_fail failed)
  | reject replica =>
      obtain ⟨after, rejected, rfl⟩ := Option.map_eq_some_iff.mp stepTo
      exact inv.goto (phaseSound_reject rejected)
  | retry replica =>
      obtain ⟨after, retried, rfl⟩ := Option.map_eq_some_iff.mp stepTo
      exact inv.goto (phaseSound_retry (inv.sound replica) retried)

theorem atStart : Durable env Shard.start :=
  ⟨List.nodup_nil, nofun, nofun, fun _ => trivial⟩

end Durable

/-- What a deletion removes was in the hands of the one who deletes. -/
theorem settled_of_del {shard : Shard} {entries : List StreamEntry}
    (genuine : Genuine shard entries) (settled : ∀ entry ∈ entries, Settled env shard entry)
    {entry : StreamEntry} (listed : entry ∈ shard.stream)
    (gone : entry ∉ (shard.del entries).stream) : Settled env shard entry := by
  have named : entry.1 ∈ Shard.ids entries := by
    by_contra unnamed
    exact gone (List.mem_filter.mpr ⟨listed, by simpa using unnamed⟩)
  obtain ⟨read, inBatch, sameId⟩ := List.mem_map.mp named
  have samePayload := (genuine read inBatch).2 entry.2 (by rw [sameId]; exact listed)
  have same : read = entry := Prod.ext sameId samePayload.symm
  exact same ▸ settled read inBatch

end Durability

/-- Whatever the consumers of a shard go through, an entry that leaves the
stream has its record in a committed transaction or is named by a dead letter. -/
theorem removed_entry_settled (env : ConsumerEnv) (events : List ShardEvent)
    (before after : Shard) (event : ShardEvent) (entry : StreamEntry)
    (reached : LabelledRuns.Run (Shard.step env) LabelledRuns.Anything Shard.start events before)
    (stepTo : Shard.step env before event = some after)
    (listed : entry ∈ before.stream) (gone : entry ∉ after.stream) :
    Settled env after entry := by
  have inv : Durable env before :=
    reached.invariant Durable.atStart fun _ _ _ inv _ stepTo => inv.step stepTo
  cases event with
  | add payload =>
      obtain rfl := Option.some.inj stepTo
      exact absurd (List.mem_append_left _ listed) gone
  | serve replica =>
      have sound := inv.sound replica
      cases Shard.served_of_serve stepTo with
      | ackedAndDeleted entries phase =>
          rw [phase] at sound
          exact settled_of_del sound.1 sound.2 listed gone
      | deleted entries phase =>
          rw [phase] at sound
          exact settled_of_del sound.1 sound.2 listed gone
      | _ => exact absurd listed gone
  | expireLease =>
      obtain rfl := Option.some.inj stepTo
      exact absurd listed gone
  | acquire replica answered =>
      simp only [Shard.step] at stepTo
      split at stepTo
      · obtain rfl := Option.some.inj stepTo
        cases answered <;> exact absurd listed gone
      · cases stepTo
  | release replica =>
      obtain rfl := Option.some.inj stepTo
      exact absurd listed gone
  | requestStop replica =>
      obtain rfl := Option.some.inj stepTo
      exact absurd listed gone
  | cancel replica =>
      obtain rfl := Option.some.inj stepTo
      exact absurd listed gone
  | reply replica clockMs =>
      obtain ⟨_, _, rfl⟩ := Option.map_eq_some_iff.mp stepTo
      exact absurd listed gone
  | fail replica =>
      obtain ⟨_, _, rfl⟩ := Option.map_eq_some_iff.mp stepTo
      exact absurd listed gone
  | reject replica =>
      obtain ⟨_, _, rfl⟩ := Option.map_eq_some_iff.mp stepTo
      exact absurd listed gone
  | retry replica =>
      obtain ⟨_, _, rfl⟩ := Option.map_eq_some_iff.mp stepTo
      exact absurd listed gone

/-- The bytes of `["a",0.0,0.0,0,0]`. -/
def reportPayload : Bytes := [91, 34, 97, 34, 44, 48, 46, 48, 44, 48, 46, 48, 44, 48, 44, 48, 93]

/-- A parser that knows this one document. -/
def oneDocument : Orjson where
  loads raw :=
    if raw = reportPayload then
      .ok (.arr [.str "a", .float (.finite 0), .float (.finite 0), .int 0, .int 0])
    else
      .error "unexpected content after document: line 1 column 1 (char 0)"
  dumps _ := reportPayload

/-- The first owner commits the report and dies; the second finds it pending,
applies it again and is about to acknowledge it. -/
def secondOwner : List ShardEvent :=
  [.acquire 0 true, .serve 0, .reply 0 0, .serve 0, .reply 0 0, .reply 0 0, .add reportPayload,
    .serve 0, .reply 0 0, .reply 0 0, .serve 0, .reply 0 0, .serve 0, .cancel 0, .expireLease,
    .acquire 1 true, .serve 1, .reply 1 0, .serve 1, .reply 1 0, .reply 1 0, .serve 1,
    .reply 1 0, .serve 1, .reply 1 0, .reply 1 0]

theorem removed_entry_settled_secondOwner :
    ∃ before after,
      LabelledRuns.Run (Shard.step ⟨oneDocument, ⟨30, 60⟩, 10, by decide, true⟩)
        LabelledRuns.Anything Shard.start secondOwner before ∧
      Shard.step ⟨oneDocument, ⟨30, 60⟩, 10, by decide, true⟩ before (.serve 1) = some after ∧
      Settled ⟨oneDocument, ⟨30, 60⟩, 10, by decide, true⟩ after (1, reportPayload) := by
  obtain ⟨before, executed, next⟩ : ∃ before,
      LabelledRuns.exec (Shard.step ⟨oneDocument, ⟨30, 60⟩, 10, by decide, true⟩)
        LabelledRuns.Anything Shard.start secondOwner = some before ∧
      (Shard.step ⟨oneDocument, ⟨30, 60⟩, 10, by decide, true⟩ before (.serve 1)).any
        (fun after => decide ((1, reportPayload) ∈ before.stream ∧
          (1, reportPayload) ∉ after.stream)) = true := by
    apply LabelledRuns.exists_of_exec
    decide +kernel
  have reached := LabelledRuns.run_of_exec executed
  obtain ⟨after, stepTo, removed⟩ := (Option.any_eq_true _ _).mp next
  obtain ⟨listed, gone⟩ := of_decide_eq_true removed
  exact ⟨before, after, reached, stepTo, removed_entry_settled _ secondOwner before after _ _
    reached stepTo listed gone⟩

end GeoTrack
