import GeoTrack.ShardConsumer

/-!
# Pending entries across a handover

A consumer starts on the pending list and turns to new entries once that list
has come back empty; from then on it trusts that whatever is pending is in its
own hands.  The trust is justified as long as nobody else is handed new entries
after that scan: a former owner whose read is still blocked is handed them under
the shared consumer name, finds its lease gone and drops them.
-/

namespace GeoTrack

namespace Consumer

/-- The consumer has seen its scan of the pending list come back empty. -/
def pastScan (consumer : Consumer) : Bool :=
  match consumer.phase with
  | .stopped => false
  | .answered [] => true
  | .measuring [] => true
  | _ => consumer.cursor = .new

/-- Away from the scan itself it is the cursor that tells. -/
theorem pastScan_of_cursor {consumer : Consumer} (new : consumer.cursor = .new)
    (running : consumer.phase ≠ .stopped) : consumer.pastScan = true := by
  obtain ⟨phase, cursor, stopping, supportsXackdel⟩ := consumer
  obtain rfl : cursor = .new := new
  cases phase with
  | stopped => exact absurd rfl running
  | answered entries => cases entries <;> rfl
  | measuring entries => cases entries <;> rfl
  | _ => rfl

/-- What a consumer may do by itself: it gains no confidence and drops nothing
it stays confident about. -/
structure Keeps (before after : Consumer) : Prop where
  pastScan : after.pastScan = true → before.pastScan = true
  inFlight : after.pastScan = true → before.phase.inFlight ⊆ after.phase.inFlight
  held : ∀ entries, after.phase ≠ .renewed entries false

namespace Keeps

variable {before after : Consumer}

theorem of_not_pastScan (unsure : after.pastScan = false)
    (held : ∀ entries, after.phase ≠ .renewed entries false) : Keeps before after where
  pastScan sure := by
    rw [unsure] at sure
    cases sure
  inFlight sure := by
    rw [unsure] at sure
    cases sure
  held := held

theorem goto {consumer : Consumer} {phase : Phase} (same : phase.inFlight = consumer.phase.inFlight)
    (sure : (consumer.goto phase).pastScan = true → consumer.pastScan = true)
    (held : ∀ entries, phase ≠ .renewed entries false) : Keeps consumer (consumer.goto phase) where
  pastScan := sure
  inFlight _ := same ▸ List.Subset.refl _
  held := held

/-- Moving on with the same entries in hand. -/
theorem advance {consumer : Consumer} {phase : Phase}
    (same : phase.inFlight = consumer.phase.inFlight) (running : consumer.phase ≠ .stopped)
    (byCursor : (consumer.goto phase).pastScan = decide (consumer.cursor = .new))
    (held : ∀ entries, phase ≠ .renewed entries false) : Keeps consumer (consumer.goto phase) := by
  refine goto same ?_ held
  intro past
  rw [byCursor] at past
  exact pastScan_of_cursor (of_decide_eq_true past) running

theorem loopHead {consumer : Consumer} (empty : consumer.phase.inFlight = [])
    (sure : consumer.cursor = .new → consumer.pastScan = true) :
    Keeps consumer consumer.loopHead := by
  unfold Consumer.loopHead
  cases stopping : consumer.stopping with
  | true => exact of_not_pastScan rfl (by simp [Consumer.goto])
  | false =>
      refine goto empty.symm ?_ (by simp)
      intro past
      exact sure (of_decide_eq_true past)

end Keeps

end Consumer

section Handover

variable {env : ConsumerEnv} {consumer after : Consumer}

theorem keeps_acknowledge {entries : List StreamEntry}
    (same : consumer.phase.inFlight = entries)
    (sure : consumer.cursor = .new → consumer.pastScan = true) :
    Consumer.Keeps consumer (consumer.acknowledge entries) := by
  unfold Consumer.acknowledge
  cases consumer.supportsXackdel with
  | true => exact .goto same.symm (fun past => sure (of_decide_eq_true past)) (by simp)
  | false => exact .goto same.symm (fun past => sure (of_decide_eq_true past)) (by simp)

theorem keeps_reply {clockMs : ℤ} (replied : Shard.reply env consumer clockMs = some after) :
    Consumer.Keeps consumer after := by
  have running : consumer.phase ≠ .stopped → consumer.cursor = .new → consumer.pastScan = true :=
    fun isRunning new => Consumer.pastScan_of_cursor new isRunning
  cases Shard.replied_of_reply replied with
  | looped phase =>
      rcases phase with phase | phase | phase
      all_goals exact .loopHead (by rw [phase]; rfl) (running (by simp [phase]))
  | answered entries phase =>
      refine .goto (by rw [phase]; rfl) ?_ (by simp)
      cases entries with
      | nil => exact fun _ => by simp [Consumer.pastScan, phase]
      | cons first rest => exact fun past => running (by simp [phase]) (of_decide_eq_true past)
  | scanned phase =>
      cases consumer.stopping with
      | true => exact .of_not_pastScan rfl (by simp [Consumer.loopHead, Consumer.goto])
      | false =>
          refine ⟨fun _ => by simp [Consumer.pastScan, phase], ?_, ?_⟩
          · intro _
            rw [phase]
            exact List.nil_subset _
          · simp [Consumer.loopHead, Consumer.goto]
  | measured first rest phase =>
      exact .advance (by rw [phase]; rfl) (by simp [phase]) rfl (by simp)
  | lost _ _ => exact .of_not_pastScan rfl (by simp)
  | unstorable entries phase _ =>
      exact .advance (by rw [phase]; rfl) (by simp [phase]) rfl (by simp)
  | decoded entries phase =>
      exact .advance (by rw [phase]; rfl) (by simp [phase]) rfl (by simp)
  | committed work attempt phase =>
      exact .advance (by rw [phase]; rfl) (by simp [phase]) rfl (by simp)
  | published work phase _ =>
      exact keeps_acknowledge (by rw [phase]; rfl) (running (by simp [phase]))
  | lettering work phase =>
      exact .advance (by rw [phase]; rfl) (by simp [phase]) rfl (by simp)
  | lettered work phase =>
      exact keeps_acknowledge (by rw [phase]; rfl) (running (by simp [phase]))
  | unsupported entries phase =>
      refine ⟨?_, ?_, by simp⟩
      · exact fun past => running (by simp [phase]) (of_decide_eq_true past)
      · intro _
        rw [phase]
        exact List.Subset.refl _
  | waited phase =>
      cases consumer.stopping with
      | true => exact .of_not_pastScan rfl (by simp [Consumer.goto])
      | false =>
          exact .advance (by rw [phase]; rfl) (by simp [phase]) rfl (by simp)

theorem keeps_failed : Consumer.Keeps consumer consumer.failed :=
  .of_not_pastScan rfl (by simp [Consumer.failed])

theorem keeps_fail (failed : Shard.fail consumer = some after) :
    Consumer.Keeps consumer after := by
  obtain ⟨phase, cursor, stopping, supportsXackdel⟩ := consumer
  cases phase with
  | creating served =>
      obtain rfl := Option.some.inj failed
      exact .goto rfl id (by simp)
  | waiting resume => cases failed
  | stopped => cases failed
  | _ =>
      obtain rfl := Option.some.inj failed
      exact keeps_failed

theorem keeps_rejected : Consumer.Keeps consumer consumer.rejected := by
  unfold Consumer.rejected
  cases consumer.stopping with
  | true => exact .of_not_pastScan rfl (by simp)
  | false => exact .of_not_pastScan rfl (by simp)

theorem keeps_reject (rejected : Shard.reject consumer = some after) :
    Consumer.Keeps consumer after := by
  obtain ⟨phase, cursor, stopping, supportsXackdel⟩ := consumer
  cases phase with
  | reading =>
      obtain rfl := Option.some.inj rejected
      exact keeps_rejected
  | measuring entries =>
      obtain rfl := Option.some.inj rejected
      exact keeps_rejected
  | _ => cases rejected

theorem keeps_retry (retried : Shard.retry consumer = some after) :
    Consumer.Keeps consumer after := by
  obtain ⟨phase, cursor, stopping, supportsXackdel⟩ := consumer
  cases phase with
  | applying work attempt committed =>
      simp only [Shard.retry] at retried
      split at retried
      · obtain rfl := Option.some.inj retried
        exact .goto rfl id (by simp)
      · cases retried
  | _ => cases retried

/-- The replica whose call is carried out. -/
def ShardEvent.served : ShardEvent → Option ReplicaId
  | .serve replica => some replica
  | _ => none

/-- Serving the call of this replica would hand it new entries. -/
def WouldDeliver (env : ConsumerEnv) (shard : Shard) (replica : ReplicaId) : Prop :=
  (shard.consumers replica).phase = .reading ∧ (shard.consumers replica).cursor = .new ∧
    (shard.group.map (Shard.readNew env shard)).getD [] ≠ []

instance (shard : Shard) (replica : ReplicaId) : Decidable (WouldDeliver env shard replica) :=
  inferInstanceAs (Decidable (_ ∧ _ ∧ _))

/-- No replica is handed new entries while another one holds the lease and has
already seen its scan of the pending list come back empty. -/
def NoLateDelivery (env : ConsumerEnv) (shard : Shard) (event : ShardEvent) : Prop :=
  ∀ replica ∈ event.served, ∀ holder ∈ shard.lease, holder ≠ replica →
    WouldDeliver env shard replica → (shard.consumers holder).pastScan = false

instance (shard : Shard) (event : ShardEvent) : Decidable (NoLateDelivery env shard event) :=
  inferInstanceAs (Decidable (∀ replica ∈ event.served, ∀ holder ∈ shard.lease, _))

/-- Whoever holds the lease and is past its scan has all pending entries in its
own hands; whoever was told that the lease is gone does not hold it. -/
structure Scanned (shard : Shard) : Prop where
  covered : ∀ replica, shard.lease = some replica →
    (shard.consumers replica).pastScan = true →
    shard.pending ⊆ Shard.ids (shard.consumers replica).phase.inFlight
  refused : ∀ replica entries, (shard.consumers replica).phase = .renewed entries false →
    shard.lease ≠ some replica

theorem pending_ack (shard : Shard) (entries : List StreamEntry) :
    (shard.ack entries).pending = shard.pending.filter fun id => id ∉ Shard.ids entries := by
  cases group : shard.group <;> simp [Shard.pending, Shard.ack, group]

theorem pending_ack_subset (shard : Shard) (entries : List StreamEntry) :
    (shard.ack entries).pending ⊆ shard.pending := by
  rw [pending_ack]
  exact List.filter_subset_self _

theorem pending_ack_eq_nil {shard : Shard} {entries : List StreamEntry}
    (within : shard.pending ⊆ Shard.ids entries) : (shard.ack entries).pending = [] := by
  rw [pending_ack, List.filter_eq_nil_iff]
  intro id listed
  simpa using within listed

/-- An empty answer to the scan means an empty pending list. -/
theorem pending_of_empty_scan {shard : Shard} {group : Group}
    (empty : Shard.readPending env shard group = []) : group.pending = [] := by
  have nothing : group.pending.take env.batchSize = [] := List.map_eq_nil_iff.mp empty
  rcases List.take_eq_nil_iff.mp nothing with zero | none_
  · exact absurd zero (Nat.ne_of_gt env.batchSize_pos)
  · exact none_

namespace Scanned

variable {shard changed : Shard} {replica : ReplicaId}

/-- One consumer moves; the pending list does not grow. -/
theorem setConsumer (inv : Scanned shard)
    (lease : changed.lease = shard.lease) (pending : changed.pending ⊆ shard.pending)
    (consumers : changed.consumers = (shard.setConsumer replica after).consumers)
    (covers : shard.lease = some replica → after.pastScan = true →
      changed.pending ⊆ Shard.ids after.phase.inFlight)
    (held : ∀ entries, after.phase = .renewed entries false → shard.lease ≠ some replica) :
    Scanned changed where
  covered := by
    intro other holds sure
    rw [lease] at holds
    rw [consumers] at sure ⊢
    by_cases same : other = replica
    · subst same
      rw [Shard.consumers_setConsumer_self] at sure ⊢
      exact covers holds sure
    · rw [Shard.consumers_setConsumer_of_ne _ same] at sure ⊢
      exact List.Subset.trans pending (inv.covered other holds sure)
  refused := by
    intro other entries phase
    rw [lease]
    rw [consumers] at phase
    by_cases same : other = replica
    · subst same
      rw [Shard.consumers_setConsumer_self] at phase
      exact held entries phase
    · rw [Shard.consumers_setConsumer_of_ne _ same] at phase
      exact inv.refused other entries phase

theorem keeps (inv : Scanned shard)
    (lease : changed.lease = shard.lease) (pending : changed.pending ⊆ shard.pending)
    (consumers : changed.consumers = (shard.setConsumer replica after).consumers)
    (keeps : Consumer.Keeps (shard.consumers replica) after) : Scanned changed := by
  apply inv.setConsumer lease pending consumers
  · intro holds sure
    apply List.Subset.trans pending
    apply List.Subset.trans (inv.covered replica holds (keeps.pastScan sure))
    exact List.map_subset Prod.fst (keeps.inFlight sure)
  · intro entries phase
    exact absurd phase (keeps.held entries)

theorem setLease (inv : Scanned shard) {lease : Option ReplicaId}
    (smaller : ∀ holder, lease = some holder → shard.lease = some holder) :
    Scanned { shard with lease := lease } where
  covered holder holds := inv.covered holder (smaller holder holds)
  refused holder entries phase holds := inv.refused holder entries phase (smaller holder holds)

/-- A new lease holder has no consumer yet, or one that is only starting. -/
theorem acquire (isStopped : (shard.consumers replica).phase = .stopped) (answered : Bool) :
    Scanned (if answered then
      { shard with lease := some replica : Shard }.setConsumer replica .started
      else { shard with lease := some replica }) := by
  have taken : Scanned { shard with lease := some replica } := by
    constructor
    · intro holder holds sure
      obtain rfl := Option.some.inj holds
      simp [Consumer.pastScan, isStopped] at sure
    · intro holder entries phase holds
      obtain rfl := Option.some.inj holds
      rw [isStopped] at phase
      cases phase
  cases answered with
  | false => exact taken
  | true => exact taken.keeps rfl (List.Subset.refl _) rfl (.of_not_pastScan rfl nofun)

theorem deliver (inv : Scanned shard) (allowed : NoLateDelivery env shard (.serve replica))
    (phase : (shard.consumers replica).phase = .reading)
    (cursor : (shard.consumers replica).cursor = .new)
    {group : Group} (found : shard.group = some group) :
    let entries := Shard.readNew env shard group
    Scanned { shard.setConsumer replica ((shard.consumers replica).goto (.answered entries)) with
      group := some (Shard.Group.deliver group entries) } := by
  intro entries
  have before : shard.pending = group.pending := by
    rw [Shard.pending, found]
    rfl
  constructor
  · intro holder holds sure
    change group.pending ++ Shard.ids entries ⊆ _
    by_cases same : holder = replica
    · subst same
      have within := inv.covered holder holds
        (Consumer.pastScan_of_cursor cursor (by simp [phase]))
      rw [phase] at within
      have none_ : group.pending = [] := before ▸ List.subset_nil.mp within
      rw [none_, Shard.consumers_setConsumer_self]
      exact List.Subset.refl _
    · rw [Shard.consumers_setConsumer_of_ne _ same] at sure ⊢
      by_cases delivers : entries = []
      · rw [delivers, ← before, Shard.ids, List.map_nil, List.append_nil]
        exact inv.covered holder holds sure
      · change shard.lease = some holder at holds
        have unsure : (shard.consumers holder).pastScan = false :=
          allowed replica rfl holder holds same ⟨phase, cursor, by rw [found]; exact delivers⟩
        rw [unsure] at sure
        cases sure
  · intro holder listed refused
    by_cases same : holder = replica
    · subst same
      rw [Shard.consumers_setConsumer_self] at refused
      cases refused
    · rw [Shard.consumers_setConsumer_of_ne _ same] at refused
      exact inv.refused holder listed refused

theorem scan (inv : Scanned shard) {group : Group}
    (cursor : (shard.consumers replica).cursor = .pending) (found : shard.group = some group) :
    Scanned (shard.setConsumer replica
      ((shard.consumers replica).goto (.answered (Shard.readPending env shard group)))) := by
  refine inv.setConsumer rfl (List.Subset.refl _) rfl ?_ (by simp [Consumer.goto])
  intro _ sure
  have empty : Shard.readPending env shard group = [] := by
    generalize Shard.readPending env shard group = entries at sure
    cases entries with
    | nil => rfl
    | cons first rest =>
        have new : (shard.consumers replica).cursor = .new := of_decide_eq_true sure
        rw [cursor] at new
        cases new
  have none_ : shard.pending = [] := by
    rw [Shard.pending, found]
    exact pending_of_empty_scan empty
  change shard.pending ⊆ _
  rw [none_]
  exact List.nil_subset _

/-- Acknowledging one's own batch leaves nothing pending. -/
theorem acknowledge (inv : Scanned shard) {entries : List StreamEntry} {phase : Phase}
    (inFlight : (shard.consumers replica).phase.inFlight = entries)
    (running : (shard.consumers replica).phase ≠ .stopped)
    (sure : ((shard.consumers replica).goto phase).pastScan = true →
      (shard.consumers replica).cursor = .new)
    (held : ∀ listed, phase ≠ .renewed listed false)
    (lease : changed.lease = shard.lease)
    (pending : changed.pending = (shard.ack entries).pending)
    (consumers : changed.consumers =
      (shard.setConsumer replica ((shard.consumers replica).goto phase)).consumers) :
    Scanned changed := by
  refine inv.setConsumer lease (pending ▸ pending_ack_subset shard entries) consumers ?_ ?_
  · intro holds past
    have within := inv.covered replica holds (Consumer.pastScan_of_cursor (sure past) running)
    rw [inFlight] at within
    rw [pending, pending_ack_eq_nil within]
    exact List.nil_subset _
  · intro listed refused
    exact absurd refused (held listed)

theorem serve (inv : Scanned shard) (allowed : NoLateDelivery env shard (.serve replica))
    (served : Shard.Served env shard replica changed) : Scanned changed := by
  cases served with
  | created phase =>
      refine inv.keeps rfl ?_ rfl (.goto (by rw [phase]; rfl) ?_ (by simp))
      · cases group : shard.group <;> simp [Shard.pending, group]
      · exact fun sure => Consumer.pastScan_of_cursor (of_decide_eq_true sure) (by simp [phase])
  | scanned group phase cursor found => exact inv.scan cursor found
  | delivered group phase cursor found => exact inv.deliver allowed phase cursor found
  | renewed entries phase =>
      refine inv.setConsumer rfl (List.Subset.refl _) rfl ?_ ?_
      · intro holds sure
        have before := inv.covered replica holds
          (Consumer.pastScan_of_cursor (of_decide_eq_true sure) (by simp [phase]))
        rw [phase] at before
        exact before
      · intro listed refused
        have notHeld := (Phase.renewed.inj refused).2
        simpa using notHeld
  | committed work attempt phase =>
      refine inv.keeps rfl (List.Subset.refl _) rfl (.goto (by rw [phase]; rfl) ?_ (by simp))
      exact fun sure => Consumer.pastScan_of_cursor (of_decide_eq_true sure) (by simp [phase])
  | lettered work letter rest phase =>
      refine inv.keeps rfl (List.Subset.refl _) rfl (.goto (by rw [phase]; rfl) ?_ (by simp))
      exact fun sure => Consumer.pastScan_of_cursor (of_decide_eq_true sure) (by simp [phase])
  | ackedAndDeleted entries phase =>
      exact inv.acknowledge (by rw [phase]; rfl) (by simp [phase]) of_decide_eq_true (by simp)
        rfl rfl rfl
  | acked entries phase =>
      exact inv.acknowledge (by rw [phase]; rfl) (by simp [phase]) of_decide_eq_true (by simp)
        rfl rfl rfl
  | deleted entries phase =>
      refine inv.keeps rfl (List.Subset.refl _) rfl (.goto (by rw [phase]; rfl) ?_ (by simp))
      exact fun sure => Consumer.pastScan_of_cursor (of_decide_eq_true sure) (by simp [phase])

theorem step (inv : Scanned shard) {event : ShardEvent}
    (allowed : NoLateDelivery env shard event)
    (stepTo : Shard.step env shard event = some changed) : Scanned changed := by
  cases event with
  | add payload =>
      obtain rfl := Option.some.inj stepTo
      exact ⟨inv.covered, inv.refused⟩
  | expireLease =>
      obtain rfl := Option.some.inj stepTo
      exact inv.setLease nofun
  | acquire replica answered =>
      simp only [Shard.step] at stepTo
      split at stepTo
      case isTrue possible =>
        obtain rfl := Option.some.inj stepTo
        exact acquire possible.2 answered
      case isFalse => cases stepTo
  | release replica =>
      obtain rfl := Option.some.inj stepTo
      apply inv.setLease
      intro holder holds
      split at holds
      · cases holds
      · exact holds
  | requestStop replica =>
      obtain rfl := Option.some.inj stepTo
      refine inv.setConsumer rfl (List.Subset.refl _) rfl ?_ ?_
      · exact inv.covered replica
      · exact inv.refused replica
  | cancel replica =>
      obtain rfl := Option.some.inj stepTo
      exact inv.keeps rfl (List.Subset.refl _) rfl
        (.of_not_pastScan rfl (by simp [Consumer.goto]))
  | serve replica => exact inv.serve allowed (Shard.served_of_serve stepTo)
  | reply replica clockMs =>
      obtain ⟨after, replied, rfl⟩ := Option.map_eq_some_iff.mp stepTo
      exact inv.keeps rfl (List.Subset.refl _) rfl (keeps_reply replied)
  | fail replica =>
      obtain ⟨after, failed, rfl⟩ := Option.map_eq_some_iff.mp stepTo
      exact inv.keeps rfl (List.Subset.refl _) rfl (keeps_fail failed)
  | reject replica =>
      obtain ⟨after, rejected, rfl⟩ := Option.map_eq_some_iff.mp stepTo
      exact inv.keeps rfl (List.Subset.refl _) rfl (keeps_reject rejected)
  | retry replica =>
      obtain ⟨after, retried, rfl⟩ := Option.map_eq_some_iff.mp stepTo
      exact inv.keeps rfl (List.Subset.refl _) rfl (keeps_retry retried)

theorem atStart : Scanned Shard.start := ⟨nofun, nofun⟩

end Scanned

end Handover

/-- As long as no replica is handed new entries behind the back of a lease
holder that is past its scan, nothing is pending when that holder waits for new
entries and nobody has a batch in hand. -/
theorem no_stranded_entries (env : ConsumerEnv) (events : List ShardEvent) (shard : Shard)
    (reached : LabelledRuns.Run (Shard.step env) (NoLateDelivery env) Shard.start events shard)
    (replica : ReplicaId) (holds : shard.lease = some replica)
    (reading : (shard.consumers replica).phase = .reading)
    (cursor : (shard.consumers replica).cursor = .new)
    (idle : ∀ other, (shard.consumers other).phase.inFlight = []) : shard.pending = [] := by
  have inv : Scanned shard :=
    reached.invariant Scanned.atStart fun _ _ _ inv allowed stepTo => inv.step allowed stepTo
  have within := inv.covered replica holds
    (Consumer.pastScan_of_cursor cursor (by simp [reading]))
  rw [idle replica] at within
  exact List.subset_nil.mp within

/-- A parser asked only to read the empty document. -/
def emptyDocument : Orjson where
  loads _ := .error "Input is a zero-length, empty document: line 1 column 1 (char 0)"
  dumps _ := []

def smallEnv : ConsumerEnv := ⟨emptyDocument, ⟨30, 60⟩, 10, by decide, true⟩

/-- Replicas that no event moves have nothing in hand. -/
theorem idle_of_reached {allowed : Shard → ShardEvent → Prop} {events : List ShardEvent}
    {shard : Shard}
    (reached : LabelledRuns.Run (Shard.step smallEnv) allowed Shard.start events shard)
    (idle : ∀ other < 2, (shard.consumers other).phase.inFlight = [])
    (two : ∀ event ∈ events, ∀ other ∈ event.mover, other < 2) (other : ReplicaId) :
    (shard.consumers other).phase.inFlight = [] := by
  by_cases mentioned : other < 2
  · exact idle other mentioned
  · rw [Shard.consumers_of_unmoved reached]
    · rfl
    · intro event listed moves
      exact mentioned (two event listed other moves)

/-- A replica takes the lease, finds nothing pending and waits for new entries. -/
def takeOver (replica : ReplicaId) : List ShardEvent :=
  [.acquire replica true, .serve replica, .reply replica 0, .serve replica, .reply replica 0,
    .reply replica 0]

/-- The owner is handed an entry as its lease moves on, and drops it when the renewal
is refused. -/
def dropped : List ShardEvent :=
  takeOver 0 ++ [.add [], .serve 0, .expireLease, .acquire 1 true, .reply 0 0, .reply 0 0,
    .serve 0, .reply 0 0]

/-- The new owner finds the entry in its scan, dead-letters and acknowledges it, and
goes on to new entries. -/
def handover : List ShardEvent :=
  dropped ++ [.serve 1, .reply 1 0, .serve 1, .reply 1 0, .reply 1 0, .serve 1, .reply 1 0,
    .reply 1 0, .serve 1, .reply 1 0, .serve 1, .reply 1 0, .serve 1, .reply 1 0, .reply 1 0]

theorem no_stranded_entries_handover :
    (LabelledRuns.exec (Shard.step smallEnv) (NoLateDelivery smallEnv) Shard.start dropped).any
        (fun shard => shard.pending = [1]) = true ∧
      ∃ shard, LabelledRuns.Run (Shard.step smallEnv) (NoLateDelivery smallEnv) Shard.start
          handover shard ∧ shard.lease = some 1 ∧ shard.deadLetters.length = 1 ∧
        shard.pending = [] := by
  obtain ⟨shard, executed, written, holds, reading, cursor, idle⟩ : ∃ shard,
      LabelledRuns.exec (Shard.step smallEnv) (NoLateDelivery smallEnv) Shard.start handover =
        some shard ∧ shard.deadLetters.length = 1 ∧ shard.lease = some 1 ∧
      (shard.consumers 1).phase = .reading ∧ (shard.consumers 1).cursor = .new ∧
      ∀ other < 2, (shard.consumers other).phase.inFlight = [] := by
    apply LabelledRuns.exists_of_exec
    decide +kernel
  have reached := LabelledRuns.run_of_exec executed
  refine ⟨by decide +kernel, shard, reached, holds, written,
    no_stranded_entries smallEnv handover shard reached 1 holds reading cursor ?_⟩
  exact idle_of_reached reached idle (by simp [handover, dropped, takeOver, ShardEvent.mover])

/-- The lease moves on while the former owner is blocked waiting for new
entries; the new owner scans and waits too; an entry arrives, is handed to the
former owner, and is dropped when the renewal fails. -/
def blockedOwner : List ShardEvent :=
  takeOver 0 ++ [.expireLease] ++ takeOver 1 ++
    [.add [], .serve 0, .reply 0 0, .reply 0 0, .serve 0, .reply 0 0]

theorem stranded_entry :
    ∃ shard, LabelledRuns.Run (Shard.step smallEnv) LabelledRuns.Anything Shard.start
        blockedOwner shard ∧ shard.lease = some 1 ∧ (shard.consumers 1).phase = .reading ∧
      (shard.consumers 1).cursor = .new ∧
      (∀ other, (shard.consumers other).phase.inFlight = []) ∧ shard.pending = [1] := by
  obtain ⟨shard, executed, holds, reading, cursor, idle, stranded⟩ : ∃ shard,
      LabelledRuns.exec (Shard.step smallEnv) LabelledRuns.Anything Shard.start blockedOwner =
        some shard ∧ shard.lease = some 1 ∧ (shard.consumers 1).phase = .reading ∧
      (shard.consumers 1).cursor = .new ∧
      (∀ other < 2, (shard.consumers other).phase.inFlight = []) ∧ shard.pending = [1] := by
    apply LabelledRuns.exists_of_exec
    decide +kernel
  have reached := LabelledRuns.run_of_exec executed
  refine ⟨shard, reached, holds, reading, cursor, ?_, stranded⟩
  exact idle_of_reached reached idle (by simp [blockedOwner, takeOver, ShardEvent.mover])

end GeoTrack
