import GeoTrack.ConsumerHandover

/-!
# What the length of a stream counts

The ingest gate is opened and closed by stream lengths, so an entry that is
counted should still have work ahead of it: the group has not delivered it yet,
or it is pending.  On a server without `XACKDEL` an entry is acknowledged by one
command and deleted by the next.  Between the two it is neither, and if the
pipeline is cut there it stays in the stream for good: reads return pending
entries and undelivered ones, and it is not among them.
-/

namespace GeoTrack

open LabelledRuns

/-- The entries a consumer may still acknowledge or delete. -/
def Phase.held : Phase → List EntryId
  | .acking entries _ => Shard.ids entries
  | phase => Shard.ids phase.inFlight

/-- The entries whose `XACK` has been carried out and whose `XDEL` has not. -/
def Phase.deleting : Phase → List EntryId
  | .acking entries true => Shard.ids entries
  | _ => []

namespace Shard

/-- The group has not delivered this entry to anyone. -/
def Undelivered (shard : Shard) (id : EntryId) : Prop :=
  ∀ group ∈ shard.group, group.lastDelivered < id

instance (shard : Shard) (id : EntryId) : Decidable (shard.Undelivered id) :=
  inferInstanceAs (Decidable (∀ group ∈ shard.group, _))

/-- Every entry that `XLEN` counts has still to be delivered or is pending. -/
def LengthIsBacklog (shard : Shard) : Prop :=
  ∀ entry ∈ shard.stream, shard.Undelivered entry.1 ∨ entry.1 ∈ shard.pending

instance (shard : Shard) : Decidable shard.LengthIsBacklog :=
  inferInstanceAs (Decidable (∀ entry ∈ shard.stream, _))

end Shard

/-- The replica whose call raises or whose task ends with this event. -/
def ShardEvent.interrupted : ShardEvent → Option ReplicaId
  | .fail replica => some replica
  | .cancel replica => some replica
  | _ => none

/-- No pipeline is cut between its two commands while an entry it has
acknowledged is still in the stream. -/
def Uncut (shard : Shard) (event : ShardEvent) : Prop :=
  ∀ replica ∈ event.interrupted, ∀ entry ∈ shard.stream,
    entry.1 ∉ (shard.consumers replica).phase.deleting

instance (shard : Shard) (event : ShardEvent) : Decidable (Uncut shard event) :=
  inferInstanceAs (Decidable (∀ replica ∈ event.interrupted, ∀ entry ∈ shard.stream, _))

section Held

variable {env : ConsumerEnv} {consumer after : Consumer}

theorem deleting_subset_held (phase : Phase) : phase.deleting ⊆ phase.held := by
  cases phase with
  | acking entries acked => cases acked <;> simp [Phase.deleting, Phase.held]
  | _ => exact List.nil_subset _

/-- What a consumer may do without the server: it picks nothing up, and it is
neither before nor behind an `XDEL` that is due. -/
structure Idles (before after : Consumer) : Prop where
  held : after.phase.held ⊆ before.phase.held
  before_deleting : before.phase.deleting = []
  after_deleting : after.phase.deleting = []

theorem Idles.of_phase {phase : Phase} (current : consumer.phase = phase)
    (held : after.phase.held ⊆ phase.held) (settled : phase.deleting = [])
    (settledAfter : after.phase.deleting = []) : Idles consumer after := by
  subst current
  exact ⟨held, settled, settledAfter⟩

theorem held_loopHead (consumer : Consumer) :
    consumer.loopHead.phase.held = [] ∧ consumer.loopHead.phase.deleting = [] := by
  unfold Consumer.loopHead
  cases consumer.stopping <;> exact ⟨rfl, rfl⟩

theorem idles_acknowledge {entries : List StreamEntry}
    (inHand : Shard.ids entries ⊆ consumer.phase.held) (settled : consumer.phase.deleting = []) :
    Idles consumer (consumer.acknowledge entries) := by
  unfold Consumer.acknowledge
  cases consumer.supportsXackdel <;> exact ⟨inHand, settled, rfl⟩

theorem idles_reply {clockMs : ℤ} (replied : Shard.reply env consumer clockMs = some after) :
    Idles consumer after := by
  cases Shard.replied_of_reply replied with
  | looped phase =>
      obtain ⟨nothing, settled⟩ := held_loopHead consumer
      refine ⟨nothing ▸ List.nil_subset _, ?_, settled⟩
      rcases phase with phase | phase | phase <;> rw [phase] <;> rfl
  | scanned phase =>
      obtain ⟨nothing, settled⟩ := held_loopHead { consumer with cursor := .new }
      exact .of_phase phase (nothing ▸ List.nil_subset _) rfl settled
  | published work phase _ =>
      exact idles_acknowledge (by rw [phase]; exact List.Subset.refl _) (by rw [phase]; rfl)
  | lettered work phase =>
      exact idles_acknowledge (by rw [phase]; exact List.Subset.refl _) (by rw [phase]; rfl)
  | waited phase =>
      refine .of_phase phase ?_ rfl ?_ <;> cases consumer.stopping
      · exact List.nil_subset _
      · exact List.nil_subset _
      · rfl
      · rfl
  | lost entries phase => exact .of_phase phase (List.nil_subset _) rfl rfl
  | answered entries phase => exact .of_phase phase (List.Subset.refl _) rfl rfl
  | measured first rest phase => exact .of_phase phase (List.Subset.refl _) rfl rfl
  | unstorable entries phase _ => exact .of_phase phase (List.Subset.refl _) rfl rfl
  | decoded entries phase => exact .of_phase phase (List.Subset.refl _) rfl rfl
  | committed work attempt phase => exact .of_phase phase (List.Subset.refl _) rfl rfl
  | lettering work phase => exact .of_phase phase (List.Subset.refl _) rfl rfl
  | unsupported entries phase => exact .of_phase phase (List.Subset.refl _) rfl rfl

theorem held_fail (failed : Shard.fail consumer = some after) : after.phase.held = [] := by
  obtain ⟨phase, cursor, stopping, supportsXackdel⟩ := consumer
  cases phase with
  | waiting resume => cases failed
  | stopped => cases failed
  | _ =>
      obtain rfl := Option.some.inj failed
      rfl

theorem idles_reject (rejected : Shard.reject consumer = some after) : Idles consumer after := by
  have nothing : consumer.rejected.phase.held = [] ∧ consumer.rejected.phase.deleting = [] := by
    unfold Consumer.rejected
    cases consumer.stopping <;> exact ⟨rfl, rfl⟩
  unfold Shard.reject at rejected
  split at rejected
  case h_1 phase =>
      obtain rfl := Option.some.inj rejected
      exact .of_phase phase (nothing.1 ▸ List.nil_subset _) rfl nothing.2
  case h_2 phase =>
      obtain rfl := Option.some.inj rejected
      exact .of_phase phase (nothing.1 ▸ List.nil_subset _) rfl nothing.2
  case h_3 => cases rejected

theorem idles_retry (retried : Shard.retry consumer = some after) : Idles consumer after := by
  unfold Shard.retry at retried
  split at retried
  case h_1 work attempt committed phase =>
      split at retried
      · obtain rfl := Option.some.inj retried
        exact .of_phase phase (List.Subset.refl _) rfl rfl
      · cases retried
  case h_2 => cases retried

end Held

/-- The stream is in order, and what is pending or in somebody's hands has been
delivered.  An entry whose deletion is due is not pending any more. -/
structure Tallied (shard : Shard) : Prop where
  positive : 0 < shard.nextId
  next : shard.Undelivered shard.nextId
  ordered : (Shard.ids shard.stream).Pairwise (· < ·)
  issued : ∀ entry ∈ shard.stream, 0 < entry.1 ∧ entry.1 < shard.nextId
  pending : ∀ id ∈ shard.pending, ¬ shard.Undelivered id
  held : ∀ replica, ∀ id ∈ (shard.consumers replica).phase.held, ¬ shard.Undelivered id
  deleting : ∀ replica, ∀ id ∈ (shard.consumers replica).phase.deleting, id ∉ shard.pending

/-- Every entry of the stream has work ahead of it, or its deletion is due. -/
def Counted (shard : Shard) : Prop :=
  ∀ entry ∈ shard.stream, shard.Undelivered entry.1 ∨ entry.1 ∈ shard.pending ∨
    ∃ replica, entry.1 ∈ (shard.consumers replica).phase.deleting

section Backlog

variable {env : ConsumerEnv} {shard changed : Shard} {replica : ReplicaId} {after : Consumer}

theorem not_undelivered_iff {id : EntryId} :
    ¬ shard.Undelivered id ↔ ∃ group ∈ shard.group, id ≤ group.lastDelivered := by
  simp [Shard.Undelivered]

/-- How the group's view of the entries changes when a consumer moves:
delivered entries stay delivered, and only undelivered ones become pending. -/
structure Delivers (shard changed : Shard) : Prop where
  next : changed.Undelivered shard.nextId
  stays : ∀ id, changed.Undelivered id → shard.Undelivered id
  pending : ∀ id ∈ changed.pending, ¬ changed.Undelivered id
  fresh : ∀ id ∈ changed.pending, id ∈ shard.pending ∨ shard.Undelivered id

theorem Tallied.sameGroup (inv : Tallied shard) (group : changed.group = shard.group) :
    Delivers shard changed := by
  have same : ∀ id, changed.Undelivered id ↔ shard.Undelivered id := by
    simp [Shard.Undelivered, group]
  have samePending : changed.pending = shard.pending := by
    rw [Shard.pending, Shard.pending, group]
  refine ⟨(same _).mpr inv.next, fun id => (same id).mp, ?_, ?_⟩
  · intro id listed undelivered
    exact inv.pending id (samePending ▸ listed) ((same id).mp undelivered)
  · intro id listed
    exact Or.inl (samePending ▸ listed)

theorem undelivered_ack (shard : Shard) (entries : List StreamEntry) (id : EntryId) :
    (shard.ack entries).Undelivered id ↔ shard.Undelivered id := by
  simp [Shard.Undelivered, Shard.ack]

theorem Tallied.acks (inv : Tallied shard) {entries : List StreamEntry}
    (group : changed.group = (shard.ack entries).group) : Delivers shard changed := by
  have same : ∀ id, changed.Undelivered id ↔ shard.Undelivered id := by
    intro id
    rw [← undelivered_ack shard entries id, Shard.Undelivered, Shard.Undelivered, group]
  have smaller : changed.pending ⊆ shard.pending := by
    have acked : changed.pending = (shard.ack entries).pending := by
      rw [Shard.pending, Shard.pending, group]
    rw [acked]
    exact pending_ack_subset shard entries
  refine ⟨(same _).mpr inv.next, fun id => (same id).mp, ?_, ?_⟩
  · intro id listed undelivered
    exact inv.pending id (smaller listed) ((same id).mp undelivered)
  · intro id listed
    exact Or.inl (smaller listed)

/-- One consumer moves, and entries may leave the stream. -/
theorem Tallied.setConsumer (inv : Tallied shard) (delivers : Delivers shard changed)
    (consumers : changed.consumers = (shard.setConsumer replica after).consumers)
    (stream : changed.stream.Sublist shard.stream) (nextId : changed.nextId = shard.nextId)
    (held : ∀ id ∈ after.phase.held, ¬ changed.Undelivered id)
    (deleting : ∀ id ∈ after.phase.deleting, id ∉ changed.pending) : Tallied changed where
  positive := nextId ▸ inv.positive
  next := nextId ▸ delivers.next
  ordered := inv.ordered.sublist (stream.map Prod.fst)
  issued entry listed := nextId ▸ inv.issued entry (stream.subset listed)
  pending := delivers.pending
  held := by
    intro other
    rw [consumers]
    by_cases same : other = replica
    · subst same
      rw [Shard.consumers_setConsumer_self]
      exact held
    · rw [Shard.consumers_setConsumer_of_ne _ same]
      exact fun id inHand undelivered => inv.held other id inHand (delivers.stays id undelivered)
  deleting := by
    intro other
    rw [consumers]
    by_cases same : other = replica
    · subst same
      rw [Shard.consumers_setConsumer_self]
      exact deleting
    · rw [Shard.consumers_setConsumer_of_ne _ same]
      intro id due listed
      rcases delivers.fresh id listed with old | undelivered
      · exact inv.deleting other id due old
      · exact inv.held other id (deleting_subset_held _ due) undelivered

/-- A consumer moves by itself and picks nothing up. -/
theorem Tallied.goto (inv : Tallied shard)
    (consumers : changed.consumers = (shard.setConsumer replica after).consumers)
    (group : changed.group = shard.group) (stream : changed.stream.Sublist shard.stream)
    (nextId : changed.nextId = shard.nextId)
    (held : after.phase.held ⊆ (shard.consumers replica).phase.held)
    (deleting : after.phase.deleting ⊆ (shard.consumers replica).phase.deleting) :
    Tallied changed := by
  have delivers := inv.sameGroup group
  refine inv.setConsumer delivers consumers stream nextId ?_ ?_
  · intro id inHand undelivered
    exact inv.held replica id (held inHand) (delivers.stays id undelivered)
  · intro id due listed
    rcases delivers.fresh id listed with old | undelivered
    · exact inv.deleting replica id (deleting due) old
    · exact inv.held replica id (deleting_subset_held _ (deleting due)) undelivered

/-- Everything up to the last of some ordered ids. -/
theorem le_getLastD {ids : List EntryId} (ordered : ids.Pairwise (· < ·)) (start : EntryId) :
    ∀ id ∈ ids, id ≤ ids.getLastD start := by
  intro id listed
  rcases List.eq_nil_or_concat ids with rfl | ⟨earlier, last, rfl⟩
  · simp at listed
  · rw [List.concat_eq_append] at ordered listed ⊢
    rw [List.getLastD_concat]
    rcases List.mem_append.mp listed with before | isLast
    · exact le_of_lt ((List.pairwise_append.mp ordered).2.2 id before last (by simp))
    · exact le_of_eq (List.mem_singleton.mp isLast)

theorem getLastD_lt {ids : List EntryId} {start id : EntryId} (above : start < id)
    (before : ∀ other ∈ ids, other < id) : ids.getLastD start < id := by
  rcases List.eq_nil_or_concat ids with rfl | ⟨earlier, last, rfl⟩
  · exact above
  · rw [List.concat_eq_append] at before ⊢
    rw [List.getLastD_concat]
    exact before last (by simp)

/-- A read of new entries takes them from the front: what it leaves out comes
after everything it returns. -/
theorem Tallied.mem_readNew_or (inv : Tallied shard) (group : Group) {entry : StreamEntry}
    (listed : entry ∈ shard.stream) (above : group.lastDelivered < entry.1) :
    entry ∈ Shard.readNew env shard group ∨
      ∀ id ∈ Shard.ids (Shard.readNew env shard group), id < entry.1 := by
  let later := shard.stream.filter fun entry => group.lastDelivered < entry.1
  have ordered : later.Pairwise fun first second => first.1 < second.1 :=
    (List.pairwise_map.mp inv.ordered).sublist List.filter_sublist
  have isLater : entry ∈ later := List.mem_filter.mpr ⟨listed, by simpa using above⟩
  rw [← List.take_append_drop env.batchSize later] at ordered isLater
  rcases List.mem_append.mp isLater with read | left
  · exact Or.inl read
  · right
    intro id taken
    obtain ⟨other, isTaken, rfl⟩ := List.mem_map.mp taken
    exact (List.pairwise_append.mp ordered).2.2 other isTaken entry left

theorem Tallied.ordered_readNew (inv : Tallied shard) (group : Group) :
    (Shard.ids (Shard.readNew env shard group)).Pairwise (· < ·) :=
  inv.ordered.sublist
    (((List.take_sublist _ _).trans List.filter_sublist).map Prod.fst)

theorem lastDelivered_le (group : Group) :
    group.lastDelivered ≤
      (Shard.Group.deliver group (Shard.readNew env shard group)).lastDelivered := by
  rw [Shard.Group.deliver]
  rcases List.eq_nil_or_concat (Shard.ids (Shard.readNew env shard group)) with
    nothing | ⟨earlier, last, cut⟩
  · rw [nothing]
    exact le_rfl
  · have listed : last ∈ Shard.ids (Shard.readNew env shard group) := by
      rw [cut]
      simp
    rw [cut, List.concat_eq_append, List.getLastD_concat]
    obtain ⟨entry, isNew, rfl⟩ := List.mem_map.mp listed
    have above := (List.mem_filter.mp (List.mem_of_mem_take isNew)).2
    exact le_of_lt (of_decide_eq_true above)

/-- Handing out new entries marks exactly them as delivered and pending. -/
theorem Tallied.delivers (inv : Tallied shard) {group : Group} (found : shard.group = some group)
    (handed : changed.group =
      some (Shard.Group.deliver group (Shard.readNew env shard group))) :
    Delivers shard changed := by
  have pending : changed.pending =
      shard.pending ++ Shard.ids (Shard.readNew env shard group) := by
    rw [Shard.pending, Shard.pending, handed, found]
    rfl
  have grows := @lastDelivered_le env shard group
  constructor
  · rintro other isGroup
    obtain rfl := Option.some.inj (handed.symm.trans isGroup)
    apply getLastD_lt (inv.next group found)
    intro id new
    obtain ⟨entry, isNew, rfl⟩ := List.mem_map.mp new
    exact (inv.issued entry (List.mem_filter.mp (List.mem_of_mem_take isNew)).1).2
  · intro id undelivered other isGroup
    obtain rfl := Option.some.inj (found.symm.trans isGroup)
    exact lt_of_le_of_lt grows (undelivered _ handed)
  · intro id listed
    rw [not_undelivered_iff]
    refine ⟨_, handed, ?_⟩
    rw [pending] at listed
    rcases List.mem_append.mp listed with old | new
    · obtain ⟨other, isGroup, bound⟩ := not_undelivered_iff.mp (inv.pending id old)
      obtain rfl := Option.some.inj (found.symm.trans isGroup)
      exact le_trans bound grows
    · exact le_getLastD (inv.ordered_readNew group) _ id new
  · intro id listed
    rw [pending] at listed
    rcases List.mem_append.mp listed with old | new
    · exact Or.inl old
    · right
      obtain ⟨entry, isNew, rfl⟩ := List.mem_map.mp new
      rintro other isGroup
      obtain rfl := Option.some.inj (found.symm.trans isGroup)
      exact of_decide_eq_true (List.mem_filter.mp (List.mem_of_mem_take isNew)).2

theorem ids_readPending (group : Group) :
    Shard.ids (Shard.readPending env shard group) ⊆ group.pending := by
  intro id listed
  obtain ⟨entry, read, rfl⟩ := List.mem_map.mp listed
  obtain ⟨pending, taken, rfl⟩ := List.mem_map.mp read
  exact List.mem_of_mem_take taken

theorem Tallied.created (inv : Tallied shard)
    (made : changed.group = some (shard.group.getD ⟨0, []⟩)) : Delivers shard changed := by
  cases found : shard.group with
  | some group => exact inv.sameGroup (by rw [made, found]; rfl)
  | none =>
      have nothing : changed.pending = [] := by
        rw [Shard.pending, made, found]
        rfl
      refine ⟨?_, ?_, ?_, ?_⟩
      · simpa [Shard.Undelivered, made, found] using inv.positive
      · simp [Shard.Undelivered, found]
      · simp [nothing]
      · simp [nothing]

theorem Tallied.serve (inv : Tallied shard) (served : Shard.Served env shard replica changed) :
    Tallied changed := by
  cases served with
  | created phase =>
      exact inv.setConsumer (inv.created rfl) rfl (List.Sublist.refl _) rfl
        (fun _ read => absurd read List.not_mem_nil) fun _ due => absurd due List.not_mem_nil
  | scanned group phase cursor found =>
      refine inv.setConsumer (inv.sameGroup rfl) rfl (List.Sublist.refl _) rfl ?_
        fun _ due => absurd due List.not_mem_nil
      intro id read undelivered
      have listed : id ∈ shard.pending := by
        rw [Shard.pending, found]
        exact ids_readPending group read
      exact inv.pending id listed undelivered
  | delivered group phase cursor found =>
      refine inv.setConsumer (inv.delivers found rfl) rfl (List.Sublist.refl _) rfl ?_
        fun _ due => absurd due List.not_mem_nil
      intro id read
      exact (inv.delivers found rfl).pending id (List.mem_append_right _ read)
  | renewed entries phase =>
      exact inv.goto rfl rfl (List.Sublist.refl _) rfl (by rw [phase]; exact List.Subset.refl _)
        (List.nil_subset _)
  | committed work attempt phase =>
      exact inv.goto rfl rfl (List.Sublist.refl _) rfl (by rw [phase]; exact List.Subset.refl _)
        (List.nil_subset _)
  | lettered work letter rest phase =>
      exact inv.goto rfl rfl (List.Sublist.refl _) rfl (by rw [phase]; exact List.Subset.refl _)
        (List.nil_subset _)
  | ackedAndDeleted entries phase =>
      exact inv.setConsumer (inv.acks rfl) rfl List.filter_sublist rfl
        (fun _ read => absurd read List.not_mem_nil) fun _ due => absurd due List.not_mem_nil
  | acked entries phase =>
      refine inv.setConsumer (inv.acks rfl) rfl (List.Sublist.refl _) rfl ?_ ?_
      · intro id inHand undelivered
        exact inv.held replica id (by rw [phase]; exact inHand)
          ((inv.acks rfl).stays id undelivered)
      · intro id due listed
        rw [pending_ack] at listed
        exact of_decide_eq_true (List.mem_filter.mp listed).2 due
  | deleted entries phase =>
      exact inv.goto rfl rfl List.filter_sublist rfl (List.nil_subset _) (List.nil_subset _)

theorem Tallied.setLease (inv : Tallied shard) (lease : Option ReplicaId) :
    Tallied { shard with lease := lease } :=
  ⟨inv.positive, inv.next, inv.ordered, inv.issued, inv.pending, inv.held, inv.deleting⟩

theorem Tallied.step (inv : Tallied shard) {event : ShardEvent}
    (stepTo : Shard.step env shard event = some changed) : Tallied changed := by
  cases event with
  | add payload =>
      obtain rfl := Option.some.inj stepTo
      refine ⟨Nat.succ_pos _, fun group found => Nat.lt_succ_of_lt (inv.next group found), ?_, ?_,
        inv.pending, inv.held, inv.deleting⟩
      · rw [Shard.ids, List.map_append, List.pairwise_append]
        refine ⟨inv.ordered, by simp, ?_⟩
        intro id old last isLast
        obtain ⟨entry, listed, rfl⟩ := List.mem_map.mp old
        rw [List.mem_singleton.mp isLast]
        exact (inv.issued entry listed).2
      · intro entry listed
        rcases List.mem_append.mp listed with old | new
        · exact ⟨(inv.issued entry old).1, Nat.lt_succ_of_lt (inv.issued entry old).2⟩
        · obtain rfl := List.mem_singleton.mp new
          exact ⟨inv.positive, Nat.lt_succ_self _⟩
  | expireLease =>
      obtain rfl := Option.some.inj stepTo
      exact inv.setLease _
  | acquire replica answered =>
      simp only [Shard.step] at stepTo
      split at stepTo
      case isTrue possible =>
          obtain rfl := Option.some.inj stepTo
          cases answered with
          | true =>
              exact inv.goto rfl rfl (List.Sublist.refl _) rfl (List.nil_subset _)
                (List.nil_subset _)
          | false => exact inv.setLease _
      case isFalse => cases stepTo
  | release replica =>
      obtain rfl := Option.some.inj stepTo
      exact inv.setLease _
  | requestStop replica =>
      obtain rfl := Option.some.inj stepTo
      exact inv.goto rfl rfl (List.Sublist.refl _) rfl (List.Subset.refl _) (List.Subset.refl _)
  | cancel replica =>
      obtain rfl := Option.some.inj stepTo
      exact inv.goto rfl rfl (List.Sublist.refl _) rfl (List.nil_subset _) (List.nil_subset _)
  | serve replica => exact inv.serve (Shard.served_of_serve stepTo)
  | reply replica clockMs =>
      obtain ⟨after, replied, rfl⟩ := Option.map_eq_some_iff.mp stepTo
      have idles := idles_reply replied
      exact inv.goto rfl rfl (List.Sublist.refl _) rfl idles.held
        (idles.after_deleting ▸ List.nil_subset _)
  | fail replica =>
      obtain ⟨after, failed, rfl⟩ := Option.map_eq_some_iff.mp stepTo
      have nothing := held_fail failed
      exact inv.goto rfl rfl (List.Sublist.refl _) rfl (nothing ▸ List.nil_subset _)
        (List.Subset.trans (nothing ▸ deleting_subset_held after.phase) (List.nil_subset _))
  | reject replica =>
      obtain ⟨after, rejected, rfl⟩ := Option.map_eq_some_iff.mp stepTo
      have idles := idles_reject rejected
      exact inv.goto rfl rfl (List.Sublist.refl _) rfl idles.held
        (idles.after_deleting ▸ List.nil_subset _)
  | retry replica =>
      obtain ⟨after, retried, rfl⟩ := Option.map_eq_some_iff.mp stepTo
      have idles := idles_retry retried
      exact inv.goto rfl rfl (List.Sublist.refl _) rfl idles.held
        (idles.after_deleting ▸ List.nil_subset _)

theorem tallied_start : Tallied Shard.start :=
  ⟨Nat.one_pos, nofun, List.Pairwise.nil, nofun, nofun, nofun, nofun⟩

/-- One consumer moves, and no entry that stays in the stream falls between
being delivered, pending and due for deletion. -/
theorem Counted.setConsumer (counted : Counted shard)
    (consumers : changed.consumers = (shard.setConsumer replica after).consumers)
    (stream : changed.stream ⊆ shard.stream)
    (undelivered : ∀ entry ∈ changed.stream, shard.Undelivered entry.1 →
      changed.Undelivered entry.1 ∨ entry.1 ∈ changed.pending)
    (pending : ∀ entry ∈ changed.stream, entry.1 ∈ shard.pending →
      entry.1 ∈ changed.pending ∨ entry.1 ∈ after.phase.deleting)
    (deleting : ∀ entry ∈ changed.stream, entry.1 ∈ (shard.consumers replica).phase.deleting →
      entry.1 ∈ after.phase.deleting) : Counted changed := by
  intro entry listed
  rw [consumers]
  have mover : entry.1 ∈ after.phase.deleting →
      ∃ other, entry.1 ∈ ((shard.setConsumer replica after).consumers other).phase.deleting :=
    fun due => ⟨replica, by rwa [Shard.consumers_setConsumer_self]⟩
  rcases counted entry (stream listed) with ahead | isPending | ⟨other, due⟩
  · exact (undelivered entry listed ahead).imp_right Or.inl
  · exact Or.inr ((pending entry listed isPending).imp_right mover)
  · by_cases same : other = replica
    · subst same
      exact Or.inr (Or.inr (mover (deleting entry listed due)))
    · exact Or.inr (Or.inr ⟨other, by rwa [Shard.consumers_setConsumer_of_ne _ same]⟩)

/-- A consumer moves by itself and leaves no deletion behind. -/
theorem Counted.goto (counted : Counted shard)
    (consumers : changed.consumers = (shard.setConsumer replica after).consumers)
    (group : changed.group = shard.group) (stream : changed.stream ⊆ shard.stream)
    (deleting : ∀ entry ∈ changed.stream, entry.1 ∈ (shard.consumers replica).phase.deleting →
      entry.1 ∈ after.phase.deleting) : Counted changed := by
  refine counted.setConsumer consumers stream ?_ ?_ deleting
  · intro entry _ ahead
    exact Or.inl (by simpa [Shard.Undelivered, group] using ahead)
  · intro entry _ isPending
    rw [Shard.pending, group]
    exact Or.inl isPending

theorem Counted.serve (inv : Tallied shard) (counted : Counted shard)
    (served : Shard.Served env shard replica changed) : Counted changed := by
  cases served with
  | created phase =>
      refine counted.setConsumer rfl (List.Subset.refl _) ?_ ?_ (by simp [phase, Phase.deleting])
      · intro entry listed ahead
        left
        rintro group isGroup
        obtain rfl := Option.some.inj isGroup
        cases found : shard.group with
        | none => exact (inv.issued entry listed).1
        | some group => exact ahead group found
      · intro entry _ isPending
        left
        cases found : shard.group with
        | none => simp [Shard.pending, found] at isPending
        | some group => simpa [Shard.pending, found] using isPending
  | scanned group phase cursor found =>
      exact counted.goto rfl rfl (List.Subset.refl _) (by simp [phase, Phase.deleting])
  | delivered group phase cursor found =>
      refine counted.setConsumer rfl (List.Subset.refl _) ?_ ?_ (by simp [phase, Phase.deleting])
      · intro entry listed ahead
        rcases inv.mem_readNew_or group listed (ahead group found) with read | behind
        · exact Or.inr (List.mem_append_right _ (List.mem_map_of_mem read))
        · left
          rintro other isGroup
          obtain rfl := Option.some.inj isGroup
          exact getLastD_lt (ahead group found) behind
      · intro entry _ isPending
        rw [Shard.pending, found] at isPending
        exact Or.inl (List.mem_append_left _ isPending)
  | renewed entries phase =>
      exact counted.goto rfl rfl (List.Subset.refl _) (by simp [phase, Phase.deleting])
  | committed work attempt phase =>
      exact counted.goto rfl rfl (List.Subset.refl _) (by simp [phase, Phase.deleting])
  | lettered work letter rest phase =>
      exact counted.goto rfl rfl (List.Subset.refl _) (by simp [phase, Phase.deleting])
  | ackedAndDeleted entries phase =>
      refine counted.setConsumer rfl (List.filter_subset_self _) ?_ ?_
        (by simp [phase, Phase.deleting])
      · intro entry _ ahead
        exact Or.inl ((undelivered_ack shard entries entry.1).mpr ahead)
      · intro entry listed isPending
        left
        have kept := (List.mem_filter.mp listed).2
        have stays : entry.1 ∈ (shard.ack entries).pending := by
          rw [pending_ack]
          exact List.mem_filter.mpr ⟨isPending, kept⟩
        exact stays
  | acked entries phase =>
      refine counted.setConsumer rfl (List.Subset.refl _) ?_ ?_ (by simp [phase, Phase.deleting])
      · intro entry _ ahead
        exact Or.inl ((undelivered_ack shard entries entry.1).mpr ahead)
      · intro entry _ isPending
        by_cases named : entry.1 ∈ Shard.ids entries
        · exact Or.inr named
        · left
          rw [pending_ack]
          exact List.mem_filter.mpr ⟨isPending, by simpa using named⟩
  | deleted entries phase =>
      refine counted.goto rfl rfl (List.filter_subset_self _) ?_
      intro entry listed due
      rw [phase] at due
      exact absurd due (of_decide_eq_true (List.mem_filter.mp listed).2)

theorem Counted.step (inv : Tallied shard) (counted : Counted shard) {event : ShardEvent}
    (allowed : Uncut shard event) (stepTo : Shard.step env shard event = some changed) :
    Counted changed := by
  cases event with
  | add payload =>
      obtain rfl := Option.some.inj stepTo
      intro entry listed
      rcases List.mem_append.mp listed with old | new
      · exact counted entry old
      · obtain rfl := List.mem_singleton.mp new
        exact Or.inl inv.next
  | expireLease =>
      obtain rfl := Option.some.inj stepTo
      exact counted
  | acquire replica answered =>
      simp only [Shard.step] at stepTo
      split at stepTo
      case isTrue possible =>
          obtain rfl := Option.some.inj stepTo
          cases answered with
          | true =>
              exact counted.goto rfl rfl (List.Subset.refl _)
                (by simp [possible.2, Phase.deleting])
          | false => exact counted
      case isFalse => cases stepTo
  | release replica =>
      obtain rfl := Option.some.inj stepTo
      exact counted
  | requestStop replica =>
      obtain rfl := Option.some.inj stepTo
      exact counted.goto rfl rfl (List.Subset.refl _) fun _ _ due => due
  | cancel replica =>
      obtain rfl := Option.some.inj stepTo
      exact counted.goto rfl rfl (List.Subset.refl _)
        fun entry listed due => absurd due (allowed replica rfl entry listed)
  | serve replica => exact counted.serve inv (Shard.served_of_serve stepTo)
  | reply replica clockMs =>
      obtain ⟨after, replied, rfl⟩ := Option.map_eq_some_iff.mp stepTo
      exact counted.goto rfl rfl (List.Subset.refl _)
        (by simp [(idles_reply replied).before_deleting])
  | fail replica =>
      obtain ⟨after, failed, rfl⟩ := Option.map_eq_some_iff.mp stepTo
      exact counted.goto rfl rfl (List.Subset.refl _)
        fun entry listed due => absurd due (allowed replica rfl entry listed)
  | reject replica =>
      obtain ⟨after, rejected, rfl⟩ := Option.map_eq_some_iff.mp stepTo
      exact counted.goto rfl rfl (List.Subset.refl _)
        (by simp [(idles_reject rejected).before_deleting])
  | retry replica =>
      obtain ⟨after, retried, rfl⟩ := Option.map_eq_some_iff.mp stepTo
      exact counted.goto rfl rfl (List.Subset.refl _)
        (by simp [(idles_retry retried).before_deleting])

/-- The tally is right and complete. -/
structure Accounted (shard : Shard) : Prop where
  tallied : Tallied shard
  counted : Counted shard

theorem Accounted.step (inv : Accounted shard) {event : ShardEvent}
    (allowed : Uncut shard event) (stepTo : Shard.step env shard event = some changed) :
    Accounted changed :=
  ⟨inv.tallied.step stepTo, inv.counted.step inv.tallied allowed stepTo⟩

/-- The condition is as weak as it can be: any step that breaks it leaves an
entry in the stream that no read will return. -/
theorem Tallied.not_backlog_of_cut (inv : Tallied shard) {event : ShardEvent}
    (cut : ¬ Uncut shard event) (stepTo : Shard.step env shard event = some changed) :
    ¬ changed.LengthIsBacklog := by
  have ends : ∀ replica ∈ event.interrupted,
      changed.stream = shard.stream ∧ changed.group = shard.group := by
    intro replica isMover
    cases event with
    | fail other =>
        obtain ⟨after, _, rfl⟩ := Option.map_eq_some_iff.mp stepTo
        exact ⟨rfl, rfl⟩
    | cancel other =>
        obtain rfl := Option.some.inj stepTo
        exact ⟨rfl, rfl⟩
    | _ => cases isMover
  simp only [Uncut, not_forall, not_not] at cut
  obtain ⟨replica, isMover, entry, listed, due⟩ := cut
  obtain ⟨stream, group⟩ := ends replica isMover
  intro backlog
  rcases backlog entry (stream ▸ listed) with ahead | isPending
  · have undelivered : shard.Undelivered entry.1 := by
      rw [Shard.Undelivered, ← group]
      exact ahead
    exact inv.held replica entry.1 (deleting_subset_held _ due) undelivered
  · rw [Shard.pending, group] at isPending
    exact inv.deleting replica entry.1 due isPending

end Backlog

/-- In every run that cuts no pipeline between its two commands, a stream's
length is its backlog, except for what an `XDEL` that is due will remove. -/
theorem length_is_backlog_iff (env : ConsumerEnv) (events : List ShardEvent) (shard : Shard)
    (reached : Run (Shard.step env) Uncut Shard.start events shard) :
    shard.LengthIsBacklog ↔ ∀ entry ∈ shard.stream, ∀ replica,
      entry.1 ∉ (shard.consumers replica).phase.deleting := by
  obtain ⟨inv, counted⟩ : Accounted shard :=
    reached.invariant ⟨tallied_start, nofun⟩ fun _ _ _ inv allowed stepTo =>
      inv.step allowed stepTo
  constructor
  · intro backlog entry listed replica due
    rcases backlog entry listed with ahead | isPending
    · exact inv.held replica entry.1 (deleting_subset_held _ due) ahead
    · exact inv.deleting replica entry.1 due isPending
  · intro none_ entry listed
    rcases counted entry listed with ahead | isPending | ⟨replica, due⟩
    · exact Or.inl ahead
    · exact Or.inr isPending
    · exact absurd due (none_ entry listed replica)

/-- A server that does not know `XACKDEL`. -/
def oldServer : ConsumerEnv := { smallEnv with hasXackdel := false }

/-- An owner reads an entry, dead-letters it, learns that there is no `XACKDEL`
and has its `XACK` carried out. -/
def acknowledging : List ShardEvent :=
  takeOver 0 ++ [.add [], .serve 0, .reply 0 0, .reply 0 0, .serve 0, .reply 0 0, .reply 0 0,
    .serve 0, .reply 0 0, .reply 0 0, .serve 0]

/-- The pipeline goes through, and another entry arrives. -/
def pipelined : List ShardEvent := acknowledging ++ [.serve 0, .reply 0 0, .add []]

theorem length_is_backlog_iff_pipelined :
    ∃ shard, Run (Shard.step oldServer) Uncut Shard.start pipelined shard ∧
      shard.stream = [(2, [])] ∧ shard.LengthIsBacklog := by
  obtain ⟨shard, executed, stream, done⟩ : ∃ shard,
      exec (Shard.step oldServer) Uncut Shard.start pipelined = some shard ∧
        shard.stream = [(2, [])] ∧ (shard.consumers 0).phase.deleting = [] := by
    apply exists_of_exec
    decide +kernel
  have reached := run_of_exec executed
  refine ⟨shard, reached, stream, (length_is_backlog_iff _ _ shard reached).mpr ?_⟩
  intro entry listed replica
  by_cases same : replica = 0
  · simp [same, done]
  · rw [Shard.consumers_of_unmoved reached]
    · exact List.not_mem_nil
    · simpa [pipelined, acknowledging, takeOver, ShardEvent.mover] using Ne.symm same

/-- The connection is lost behind the `XACK`; the owner backs off, finds nothing
pending and waits for new entries. -/
def cutPipeline : List ShardEvent :=
  acknowledging ++ [.fail 0, .reply 0 0, .serve 0, .reply 0 0, .reply 0 0]

theorem acknowledged_entry_counted :
    ∃ shard, Run (Shard.step oldServer) Anything Shard.start cutPipeline shard ∧
      (shard.consumers 0).phase = .reading ∧ (shard.consumers 0).cursor = .new ∧
      shard.pending = [] ∧ shard.stream = [(1, [])] ∧ ¬ shard.LengthIsBacklog := by
  obtain ⟨shard, executed, stuck⟩ : ∃ shard,
      exec (Shard.step oldServer) Anything Shard.start cutPipeline = some shard ∧
        (shard.consumers 0).phase = .reading ∧ (shard.consumers 0).cursor = .new ∧
        shard.pending = [] ∧ shard.stream = [(1, [])] ∧ ¬ shard.LengthIsBacklog := by
    apply exists_of_exec
    decide +kernel
  exact ⟨shard, run_of_exec executed, stuck⟩

end GeoTrack
