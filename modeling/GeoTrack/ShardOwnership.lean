import GeoTrack.FairShare
import GeoTrack.LabelledRuns
import GeoTrack.OrderedDict
import Mathlib.Algebra.BigOperators.Fin
import Mathlib.Algebra.Order.BigOperators.Group.Finset

/-!
# Ownership of the shards

Replicas that agree on their number share the shards through leases.  A round
of one replica plans from its own shards, lets go of the surplus and tries its
candidates one by one; a shard that is let go of keeps its lease until its
consumer has finished.  The rounds of different replicas interleave at every
call.

Only a replica that starts above its share ever hands a shard back, and it does
so once.  The surplus, the shards that wind down and the free shards together
are a measure that every change of the assignment lowers.
-/

namespace GeoTrack

open LabelledRuns

/-- The part of a round that is still to be done. -/
structure OpenRound where
  target : ℕ
  candidates : List ℕ

structure Replica where
  consumers : KeySet ℕ
  /-- The shards that are let go of and not yet handed back. -/
  draining : KeySet ℕ
  round : Option OpenRound

structure Fleet (count : ℕ) where
  /-- Who holds the lease of a shard. -/
  owner : ℕ → Option (Fin count)
  replica : Fin count → Replica

inductive FleetEvent (count : ℕ) where
  /-- A round begins: the plan, and the shards it hands back. -/
  | plan (id : Fin count)
  /-- The round tries its next candidate, or ends. -/
  | attempt (id : Fin count)
  /-- The consumer of a shard has finished, and its lease is released. -/
  | drained (id : Fin count) (shard : ℕ)

def FleetEvent.replica {count : ℕ} : FleetEvent count → Fin count
  | .plan id | .attempt id | .drained id _ => id

def Replica.beginDrain (me : Replica) (shard : ℕ) : Replica :=
  if shard ∈ me.consumers then
    { me with consumers := me.consumers.discard shard, draining := me.draining.add shard }
  else
    me

namespace Fleet

variable {count : ℕ}

def put (fleet : Fleet count) (id : Fin count) (me : Replica) : Fleet count :=
  { fleet with replica := Function.update fleet.replica id me }

/-- `SET NX` on the lease, and the consumer that follows. -/
def acquire (fleet : Fleet count) (id : Fin count) (shard : ℕ) (rest : OpenRound) : Fleet count :=
  let me := fleet.replica id
  match fleet.owner shard with
  | none =>
      { fleet.put id { me with consumers := me.consumers.add shard, round := some rest } with
        owner := Function.update fleet.owner shard (some id) }
  | some _ => fleet.put id { me with round := some rest }

variable (shards : ℕ) (offset : Fin count → ℕ)

def step (fleet : Fleet count) : FleetEvent count → Option (Fleet count)
  | .plan id =>
      let me := fleet.replica id
      match me.round with
      | some _ => none
      | none =>
          let plan := fairSharePlan shards me.consumers.keys count (offset id)
          some (fleet.put id
            { plan.release.foldl Replica.beginDrain me with
              round := some ⟨plan.target, plan.candidates⟩ })
  | .attempt id =>
      let me := fleet.replica id
      match me.round with
      | none => none
      | some ⟨_, []⟩ => some (fleet.put id { me with round := none })
      | some ⟨target, shard :: rest⟩ =>
          if me.consumers.size ≥ target then
            some (fleet.put id { me with round := none })
          else if shard ∈ me.draining then
            some (fleet.put id { me with round := some ⟨target, rest⟩ })
          else
            some (fleet.acquire id shard ⟨target, rest⟩)
  | .drained id shard =>
      let me := fleet.replica id
      if shard ∈ me.draining then
        some { fleet.put id { me with draining := me.draining.discard shard } with
          owner := if fleet.owner shard = some id then Function.update fleet.owner shard none
            else fleet.owner }
      else
        none

/-- Each of the shards is owned by at most one replica or free, and no round has
begun. -/
def assigned (owner : ℕ → Option (Fin count)) : Fleet count where
  owner shard := if shard < shards then owner shard else none
  replica id :=
    { consumers := ((List.range shards).filter fun shard => owner shard = some id).foldl
        KeySet.add ∅
      draining := ∅
      round := none }

/-- The replica changes no lease, however far it goes with its rounds. -/
def Quiet (fleet : Fleet count) (id : Fin count) : Prop :=
  ∀ (events : List (FleetEvent count)) (after : Fleet count),
    (∀ event ∈ events, event.replica = id) → Run (step shards offset) Anything fleet events after →
    after.owner = fleet.owner

/-- No round of any replica would change the assignment. -/
def Settled (fleet : Fleet count) : Prop := ∀ id, fleet.Quiet shards offset id

/-- The leases are those of the shards each replica reads or winds down. -/
structure Sound (fleet : Fleet count) : Prop where
  held : ∀ shard id, fleet.owner shard = some id ↔
    shard ∈ (fleet.replica id).consumers ∨ shard ∈ (fleet.replica id).draining
  apart : ∀ shard id, shard ∈ (fleet.replica id).consumers → shard ∉ (fleet.replica id).draining
  inRange : ∀ shard id, fleet.owner shard = some id → shard < shards
  rounds : ∀ id round, (fleet.replica id).round = some round →
    round.target = fairShare shards count ∧ ∀ shard ∈ round.candidates, shard < shards

/-- What a step can do. -/
inductive Step (fleet : Fleet count) : Fleet count → Prop where
  | planned (id : Fin count) (round : OpenRound)
      (isRound : round.target = fairShare shards count ∧ ∀ shard ∈ round.candidates, shard < shards)
      (release : List ℕ) (distinct : release.Nodup)
      (surplus : release.length = (fleet.replica id).consumers.size - fairShare shards count)
      (own : ∀ shard ∈ release, shard ∈ (fleet.replica id).consumers) :
      Step fleet (fleet.put id { release.foldl Replica.beginDrain (fleet.replica id) with
        round := some round })
  | ended (id : Fin count) : Step fleet (fleet.put id { fleet.replica id with round := none })
  | skipped (id : Fin count) (target shard : ℕ) (rest : List ℕ)
      (isOpen : (fleet.replica id).round = some ⟨target, shard :: rest⟩) :
      Step fleet (fleet.put id { fleet.replica id with round := some ⟨target, rest⟩ })
  | taken (id : Fin count) (target shard : ℕ) (rest : List ℕ)
      (isOpen : (fleet.replica id).round = some ⟨target, shard :: rest⟩)
      (deficit : (fleet.replica id).consumers.size < target) (free : fleet.owner shard = none) :
      Step fleet { fleet.put id { fleet.replica id with
          consumers := (fleet.replica id).consumers.add shard
          round := some ⟨target, rest⟩ } with
        owner := Function.update fleet.owner shard (some id) }
  | released (id : Fin count) (shard : ℕ) (winding : shard ∈ (fleet.replica id).draining) :
      Step fleet { fleet.put id { fleet.replica id with
          draining := (fleet.replica id).draining.discard shard } with
        owner := if fleet.owner shard = some id then Function.update fleet.owner shard none
          else fleet.owner }

variable {shards offset} {fleet after : Fleet count}

theorem max_count (id : Fin count) : max count 1 = count := by
  have positive := id.isLt
  omega

theorem moved_of_step {event : FleetEvent count}
    (stepTo : fleet.step shards offset event = some after) :
    Step shards fleet after := by
  cases event with
  | plan id =>
      simp only [step] at stepTo
      split at stepTo
      case h_1 => cases stepTo
      case h_2 idle =>
          obtain rfl := Option.some.inj stepTo
          obtain ⟨nodup, surplus, own⟩ :=
            @fairSharePlan_release shards count (offset id) _ (fleet.replica id).consumers.nodup_keys
          refine .planned id _ ⟨?_, ?_⟩ _ nodup ?_ ?_
          · rw [fairSharePlan_target, max_count id]
          · intro shard listed
            exact (mem_candidates.mp listed).2.1
          · rw [max_count id, Dict.length_keys] at surplus
            exact surplus
          · intro shard listed
            exact Dict.mem_keys_iff.mp (own shard listed)
  | attempt id =>
      simp only [step] at stepTo
      split at stepTo
      case h_1 => cases stepTo
      case h_2 =>
          obtain rfl := Option.some.inj stepTo
          exact .ended id
      case h_3 target shard rest isOpen =>
          split at stepTo
          case isTrue =>
              obtain rfl := Option.some.inj stepTo
              exact .ended id
          case isFalse deficit =>
              split at stepTo
              case isTrue =>
                  obtain rfl := Option.some.inj stepTo
                  exact .skipped id target shard rest isOpen
              case isFalse =>
                  obtain rfl := Option.some.inj stepTo
                  unfold acquire
                  dsimp only
                  split
                  case h_1 free => exact .taken id target shard rest isOpen (by omega) free
                  case h_2 => exact .skipped id target shard rest isOpen
  | drained id shard =>
      simp only [step] at stepTo
      split at stepTo
      case isTrue winding =>
          obtain rfl := Option.some.inj stepTo
          exact .released id shard winding
      case isFalse => cases stepTo

/-- What letting go of some of its shards does to a replica. -/
theorem foldl_beginDrain {release : List ℕ} (distinct : release.Nodup) (me : Replica)
    (own : ∀ shard ∈ release, shard ∈ me.consumers)
    (apart : ∀ shard, shard ∈ me.consumers → shard ∉ me.draining) :
    (∀ shard, shard ∈ (release.foldl Replica.beginDrain me).consumers ↔
      shard ∈ me.consumers ∧ shard ∉ release) ∧
    (∀ shard, shard ∈ (release.foldl Replica.beginDrain me).draining ↔
      shard ∈ release ∨ shard ∈ me.draining) ∧
    (release.foldl Replica.beginDrain me).consumers.size + release.length = me.consumers.size ∧
    (release.foldl Replica.beginDrain me).draining.size = me.draining.size + release.length := by
  induction release generalizing me with
  | nil => simp
  | cons first rest ih =>
      rw [List.nodup_cons] at distinct
      have isOwn := own first (List.mem_cons_self ..)
      have fresh := apart first isOwn
      have drained : me.beginDrain first = { me with
          consumers := me.consumers.discard first, draining := me.draining.add first } := by
        rw [Replica.beginDrain, if_pos isOwn]
      have shrunk : (me.consumers.discard first).size + 1 = me.consumers.size :=
        Dict.size_erase_of_mem isOwn
      have grown : (me.draining.add first).size = me.draining.size + 1 :=
        Dict.size_set_of_not_mem fresh ()
      obtain ⟨consumers, draining, fewer, more⟩ := ih distinct.2 (me.beginDrain first)
        (by
          intro shard listed
          rw [drained, KeySet.mem_discard]
          refine ⟨?_, own shard (List.mem_cons_of_mem _ listed)⟩
          rintro rfl
          exact distinct.1 listed)
        (by
          intro shard
          rw [drained, KeySet.mem_discard, KeySet.mem_add]
          rintro ⟨differs, still⟩
          exact not_or.mpr ⟨differs, apart shard still⟩)
      rw [List.foldl_cons]
      refine ⟨?_, ?_, ?_, ?_⟩
      · intro shard
        rw [consumers, drained, KeySet.mem_discard, List.mem_cons, not_or]
        tauto
      · intro shard
        rw [draining, drained, KeySet.mem_add, List.mem_cons]
        tauto
      · rw [drained] at fewer ⊢
        rw [List.length_cons]
        dsimp only at fewer ⊢
        omega
      · rw [drained] at more ⊢
        rw [List.length_cons]
        dsimp only at more ⊢
        omega

@[simp]
theorem put_self (fleet : Fleet count) (id : Fin count) (me : Replica) :
    (fleet.put id me).replica id = me :=
  Function.update_self ..

theorem put_of_ne (fleet : Fleet count) {id other : Fin count} (differs : other ≠ id) (me : Replica) :
    (fleet.put id me).replica other = fleet.replica other :=
  Function.update_of_ne differs ..

@[simp]
theorem put_owner (fleet : Fleet count) (id : Fin count) (me : Replica) :
    (fleet.put id me).owner = fleet.owner :=
  rfl

/-- One replica moves and the leases of the others stay. -/
theorem Sound.move (sound : fleet.Sound shards) (id : Fin count) (me : Replica)
    (owner : ℕ → Option (Fin count))
    (held : ∀ shard, owner shard = some id ↔ shard ∈ me.consumers ∨ shard ∈ me.draining)
    (others : ∀ shard other, other ≠ id → (owner shard = some other ↔ fleet.owner shard = some other))
    (apart : ∀ shard, shard ∈ me.consumers → shard ∉ me.draining)
    (inRange : ∀ shard, owner shard = some id → shard < shards)
    (rounds : ∀ round, me.round = some round →
      round.target = fairShare shards count ∧ ∀ shard ∈ round.candidates, shard < shards) :
    Sound shards { fleet.put id me with owner := owner } := by
  refine ⟨?_, ?_, ?_, ?_⟩
  · intro shard other
    by_cases same : other = id
    · subst same
      simpa using held shard
    · dsimp only
      rw [put_of_ne fleet same, others shard other same]
      exact sound.held shard other
  · intro shard other
    by_cases same : other = id
    · subst same
      simpa using apart shard
    · dsimp only
      rw [put_of_ne fleet same]
      exact sound.apart shard other
  · intro shard other owned
    by_cases same : other = id
    · subst same
      exact inRange shard owned
    · exact sound.inRange shard other ((others shard other same).mp owned)
  · intro other round
    by_cases same : other = id
    · subst same
      simpa using rounds round
    · dsimp only
      rw [put_of_ne fleet same]
      exact sound.rounds other round

theorem Sound.step (sound : fleet.Sound shards) (moved : Step shards fleet after) :
    after.Sound shards := by
  have range (id : Fin count) (shard : ℕ) := sound.inRange shard id
  cases moved with
  | planned id round isRound release distinct surplus own =>
      obtain ⟨consumers, draining, -, -⟩ :=
        foldl_beginDrain distinct (fleet.replica id) own (fun shard => sound.apart shard id)
      refine sound.move id _ _ ?_ (fun _ _ _ => Iff.rfl) ?_ (range id) ?_
      · intro shard
        rw [sound.held, consumers, draining]
        have isOwn := own shard
        tauto
      · intro shard reads
        rw [draining, not_or]
        rw [consumers] at reads
        exact ⟨reads.2, sound.apart shard id reads.1⟩
      · rintro _ ⟨rfl⟩
        exact isRound
  | ended id =>
      refine sound.move id _ _ (fun shard => sound.held shard id) (fun _ _ _ => Iff.rfl)
        (fun shard => sound.apart shard id) (range id) ?_
      rintro _ ⟨⟩
  | skipped id target shard rest isOpen =>
      refine sound.move id _ _ (fun shard => sound.held shard id) (fun _ _ _ => Iff.rfl)
        (fun shard => sound.apart shard id) (range id) ?_
      rintro _ ⟨rfl⟩
      obtain ⟨isTarget, listed⟩ := sound.rounds id _ isOpen
      exact ⟨isTarget, fun other among => listed other (List.mem_cons_of_mem _ among)⟩
  | taken id target shard rest isOpen deficit free =>
      obtain ⟨isTarget, listed⟩ := sound.rounds id _ isOpen
      have unread : shard ∉ (fleet.replica id).draining := by
        intro winding
        have owned := (sound.held shard id).mpr (Or.inr winding)
        rw [free] at owned
        cases owned
      refine sound.move id _ _ ?_ ?_ ?_ ?_ ?_
      · intro other
        rw [KeySet.mem_add]
        by_cases same : other = shard
        · simp [same]
        · simp only [Function.update_of_ne same, same, false_or]
          exact sound.held other id
      · intro other third differs
        by_cases same : other = shard
        · subst same
          simp [free, differs.symm]
        · rw [Function.update_of_ne same]
      · intro other
        rw [KeySet.mem_add]
        rintro (rfl | reads)
        · exact unread
        · exact sound.apart other id reads
      · intro other owned
        by_cases same : other = shard
        · subst same
          exact listed other (List.mem_cons_self ..)
        · rw [Function.update_of_ne same] at owned
          exact sound.inRange other id owned
      · rintro _ ⟨rfl⟩
        exact ⟨isTarget, fun other among => listed other (List.mem_cons_of_mem _ among)⟩
  | released id shard winding =>
      have owned := (sound.held shard id).mpr (Or.inr winding)
      rw [if_pos owned]
      refine sound.move id _ _ ?_ ?_ ?_ ?_ (sound.rounds id)
      · intro other
        rw [KeySet.mem_discard]
        by_cases same : other = shard
        · subst same
          simpa using fun reads => sound.apart other id reads winding
        · simp only [Function.update_of_ne same, ne_eq, same, not_false_eq_true, true_and]
          exact sound.held other id
      · intro other third differs
        by_cases same : other = shard
        · subst same
          simp [owned, differs.symm]
        · rw [Function.update_of_ne same]
      · intro other reads
        rw [KeySet.mem_discard, not_and]
        intro _
        exact sound.apart other id reads
      · intro other isOwned
        by_cases same : other = shard
        · simp [same] at isOwned
        · rw [Function.update_of_ne same] at isOwned
          exact sound.inRange other id isOwned

theorem mem_foldl_add {shard : ℕ} (listed : List ℕ) (elements : KeySet ℕ) :
    shard ∈ listed.foldl KeySet.add elements ↔ shard ∈ listed ∨ shard ∈ elements := by
  induction listed generalizing elements with
  | nil => simp
  | cons first rest ih =>
      rw [List.foldl_cons, ih, KeySet.mem_add, List.mem_cons]
      tauto

theorem sound_assigned (owner : ℕ → Option (Fin count)) : (assigned shards owner).Sound shards := by
  refine ⟨?_, by simp [assigned], ?_, by simp [assigned]⟩
  · intro shard id
    simp only [assigned, mem_foldl_add, List.mem_filter, List.mem_range, decide_eq_true_eq]
    by_cases inRange : shard < shards <;> simp [inRange]
  · intro shard id owned
    simp only [assigned] at owned
    split at owned
    case isTrue inRange => exact inRange
    case isFalse => cases owned

theorem sound_run {owner : ℕ → Option (Fin count)} {events : List (FleetEvent count)}
    (run : Run (Fleet.step shards offset) Anything (assigned shards owner) events fleet) :
    fleet.Sound shards :=
  run.invariant (sound_assigned owner) fun _ _ _ sound _ stepTo => sound.step (moved_of_step stepTo)

variable (shards) in
def free (fleet : Fleet count) : Finset ℕ :=
  (Finset.range shards).filter fun shard => fleet.owner shard = none

/-- A surplus shard has three changes ahead of it: it winds down, becomes free
and is taken. -/
def weight (share : ℕ) (me : Replica) : ℕ :=
  3 * (me.consumers.size - share) + 2 * me.draining.size

variable (shards) in
/-- The changes that are still ahead. -/
def pending (fleet : Fleet count) : ℕ :=
  ∑ id, weight (fairShare shards count) (fleet.replica id) + (fleet.free shards).card

variable (shards) in
/-- What is ahead after one replica has moved. -/
theorem pending_move (fleet : Fleet count) (id : Fin count) (me : Replica)
    (owner : ℕ → Option (Fin count)) :
    pending shards { fleet.put id me with owner := owner } +
        weight (fairShare shards count) (fleet.replica id) + (fleet.free shards).card =
      fleet.pending shards + weight (fairShare shards count) me +
        (free shards { fleet.put id me with owner := owner }).card := by
  have after := Finset.add_sum_erase Finset.univ
    (fun other => weight (fairShare shards count) ((fleet.put id me).replica other))
    (Finset.mem_univ id)
  have before := Finset.add_sum_erase Finset.univ
    (fun other => weight (fairShare shards count) (fleet.replica other)) (Finset.mem_univ id)
  have others : ∑ other ∈ Finset.univ.erase id,
      weight (fairShare shards count) ((fleet.put id me).replica other) =
      ∑ other ∈ Finset.univ.erase id, weight (fairShare shards count) (fleet.replica other) := by
    refine Finset.sum_congr rfl fun other isOther => ?_
    rw [put_of_ne fleet (Finset.ne_of_mem_erase isOther)]
  rw [put_self] at after
  simp only [pending] at *
  omega

theorem card_free_taken {shard : ℕ} (inRange : shard < shards) (isFree : fleet.owner shard = none)
    (id : Fin count) (replica : Fin count → Replica) :
    (free shards ⟨Function.update fleet.owner shard (some id), replica⟩).card + 1 =
      (fleet.free shards).card := by
  have fewer : free shards ⟨Function.update fleet.owner shard (some id), replica⟩ =
      (fleet.free shards).erase shard := by
    ext other
    by_cases same : other = shard <;> simp [free, same]
  rw [fewer]
  exact Finset.card_erase_add_one (by simp [free, inRange, isFree])

theorem card_free_released {shard : ℕ} {id : Fin count} (inRange : shard < shards)
    (owned : fleet.owner shard = some id) (replica : Fin count → Replica) :
    (free shards ⟨Function.update fleet.owner shard none, replica⟩).card =
      (fleet.free shards).card + 1 := by
  have more : free shards ⟨Function.update fleet.owner shard none, replica⟩ =
      insert shard (fleet.free shards) := by
    ext other
    by_cases same : other = shard <;> simp [free, same, inRange]
  rw [more]
  exact Finset.card_insert_of_notMem (by simp [free, owned])

/-- A round on its own changes no lease. -/
theorem pending_put_le (fleet : Fleet count) (id : Fin count) {me : Replica}
    (lighter : weight (fairShare shards count) me ≤
      weight (fairShare shards count) (fleet.replica id)) :
    (fleet.put id me).pending shards ≤ fleet.pending shards := by
  have moved := pending_move shards fleet id me fleet.owner
  change (fleet.put id me).pending shards + _ + _ = _ + _ + (fleet.free shards).card at moved
  omega

/-- Every step either leaves the assignment as it is or brings the end nearer. -/
theorem pending_step (sound : fleet.Sound shards) (moved : Step shards fleet after) :
    after.pending shards ≤ fleet.pending shards ∧
      (after.owner ≠ fleet.owner → after.pending shards < fleet.pending shards) := by
  cases moved with
  | planned id round isRound release distinct surplus own =>
      obtain ⟨-, -, fewer, more⟩ :=
        foldl_beginDrain distinct (fleet.replica id) own (fun shard => sound.apart shard id)
      refine ⟨pending_put_le fleet id ?_, fun changed => absurd rfl changed⟩
      simp only [weight]
      omega
  | ended id => exact ⟨pending_put_le fleet id le_rfl, fun changed => absurd rfl changed⟩
  | skipped id target shard rest isOpen =>
      exact ⟨pending_put_le fleet id le_rfl, fun changed => absurd rfl changed⟩
  | taken id target shard rest isOpen deficit isFree =>
      obtain ⟨isTarget, listed⟩ := sound.rounds id _ isOpen
      have unread : shard ∉ (fleet.replica id).consumers := by
        intro reads
        have owned := (sound.held shard id).mpr (Or.inl reads)
        rw [isFree] at owned
        cases owned
      have grown : ((fleet.replica id).consumers.add shard).size =
          (fleet.replica id).consumers.size + 1 := Dict.size_set_of_not_mem unread ()
      have total := pending_move shards fleet id { fleet.replica id with
          consumers := (fleet.replica id).consumers.add shard
          round := some ⟨target, rest⟩ } (Function.update fleet.owner shard (some id))
      have fewer := card_free_taken (listed shard (List.mem_cons_self ..)) isFree id
        (fleet.put id { fleet.replica id with
          consumers := (fleet.replica id).consumers.add shard
          round := some ⟨target, rest⟩ }).replica
      dsimp only at isTarget fewer
      simp only [weight, grown] at total
      dsimp only
      constructor <;> omega
  | released id shard winding =>
      have owned := (sound.held shard id).mpr (Or.inr winding)
      have shrunk : ((fleet.replica id).draining.discard shard).size + 1 =
          (fleet.replica id).draining.size := Dict.size_erase_of_mem winding
      have total := pending_move shards fleet id { fleet.replica id with
          draining := (fleet.replica id).draining.discard shard }
        (Function.update fleet.owner shard none)
      have more := card_free_released (sound.inRange shard id owned) owned
        (fleet.put id { fleet.replica id with
          draining := (fleet.replica id).draining.discard shard }).replica
      rw [if_pos owned]
      dsimp only at more
      simp only [weight] at total
      dsimp only
      constructor <;> omega

section Settling

variable {id : Fin count}

theorem Quiet.step {event : FleetEvent count} (quiet : fleet.Quiet shards offset id)
    (own : event.replica = id) (stepTo : fleet.step shards offset event = some after) :
    after.Quiet shards offset id ∧ after.owner = fleet.owner := by
  have first : Run (Fleet.step shards offset) Anything fleet [event] after :=
    Run.nil.snoc trivial stepTo
  have same : after.owner = fleet.owner := quiet [event] after (by simpa using own) first
  refine ⟨?_, same⟩
  intro events later solo run
  rw [same]
  refine quiet (event :: events) later ?_ (first.append run)
  rintro other (_ | ⟨_, listed⟩)
  · exact own
  · exact solo other listed

theorem Quiet.not_draining (quiet : fleet.Quiet shards offset id) (sound : fleet.Sound shards)
    (shard : ℕ) : shard ∉ (fleet.replica id).draining := by
  intro winding
  have owned := (sound.held shard id).mpr (Or.inr winding)
  have stepTo : fleet.step shards offset (.drained id shard) = some { fleet.put id
      { fleet.replica id with draining := (fleet.replica id).draining.discard shard } with
      owner := Function.update fleet.owner shard none } := by
    simp [Fleet.step, winding, owned]
  have same := congrFun (quiet.step rfl stepTo).2 shard
  simp [owned] at same

/-- A candidate that is tried in vain is somebody's. -/
theorem Quiet.attempt (quiet : fleet.Quiet shards offset id) (sound : fleet.Sound shards)
    {target shard : ℕ} {rest : List ℕ}
    (isOpen : (fleet.replica id).round = some ⟨target, shard :: rest⟩)
    (deficit : (fleet.replica id).consumers.size < target) :
    fleet.owner shard ≠ none ∧ fleet.step shards offset (.attempt id) =
      some (fleet.put id { fleet.replica id with round := some ⟨target, rest⟩ }) := by
  have going : ¬ (fleet.replica id).consumers.size ≥ target := by omega
  have stepTo : fleet.step shards offset (.attempt id) =
      some (fleet.acquire id shard ⟨target, rest⟩) := by
    simp only [Fleet.step, isOpen, if_neg going, if_neg (quiet.not_draining sound shard)]
  have same := congrFun (quiet.step rfl stepTo).2 shard
  cases owned : fleet.owner shard with
  | none =>
      -- taking it would have changed its lease
      simp [acquire, owned] at same
  | some other =>
      refine ⟨by simp, ?_⟩
      rw [stepTo]
      simp only [acquire, owned]

/-- A replica below its share is offered no free shard. -/
theorem Quiet.not_offered (quiet : fleet.Quiet shards offset id) (sound : fleet.Sound shards)
    {target : ℕ} {candidates : List ℕ}
    (isOpen : (fleet.replica id).round = some ⟨target, candidates⟩)
    (deficit : (fleet.replica id).consumers.size < target) {shard : ℕ}
    (isFree : fleet.owner shard = none) : shard ∉ candidates := by
  induction candidates generalizing fleet with
  | nil => exact List.not_mem_nil
  | cons first rest ih =>
      obtain ⟨owned, stepTo⟩ := quiet.attempt sound isOpen deficit
      have later := ih (quiet.step rfl stepTo).1 (sound.step (moved_of_step stepTo)) (by simp)
        (by simpa using deficit) (by simpa using isFree)
      rw [List.mem_cons, not_or]
      refine ⟨?_, later⟩
      rintro rfl
      exact owned isFree

/-- A round that changes nothing comes to its end. -/
theorem Quiet.exists_idle (quiet : fleet.Quiet shards offset id) (sound : fleet.Sound shards) :
    ∃ idle : Fleet count, idle.Quiet shards offset id ∧ idle.Sound shards ∧
      idle.owner = fleet.owner ∧ (idle.replica id).consumers = (fleet.replica id).consumers ∧
      (idle.replica id).round = none := by
  have ended (stepTo : fleet.step shards offset (.attempt id) =
      some (fleet.put id { fleet.replica id with round := none })) :
      ∃ idle : Fleet count, idle.Quiet shards offset id ∧ idle.Sound shards ∧
        idle.owner = fleet.owner ∧ (idle.replica id).consumers = (fleet.replica id).consumers ∧
        (idle.replica id).round = none :=
    ⟨_, (quiet.step rfl stepTo).1, sound.step (moved_of_step stepTo), rfl, by simp, by simp⟩
  cases isOpen : (fleet.replica id).round with
  | none => exact ⟨fleet, quiet, sound, rfl, rfl, isOpen⟩
  | some round =>
      obtain ⟨target, candidates⟩ := round
      induction candidates generalizing fleet with
      | nil => exact ended (by simp only [Fleet.step, isOpen])
      | cons first rest ih =>
          by_cases full : (fleet.replica id).consumers.size ≥ target
          · exact ended (by simp only [Fleet.step, isOpen, if_pos full])
          · obtain ⟨-, stepTo⟩ := quiet.attempt sound isOpen (not_le.mp full)
            have still := (quiet.step rfl stepTo).1
            have soundStill := sound.step (moved_of_step stepTo)
            obtain ⟨idle, quietIdle, soundIdle, owner, consumers, isIdle⟩ :=
              ih still soundStill
                (fun last => ⟨_, (still.step rfl last).1, soundStill.step (moved_of_step last), rfl,
                  by simp, by simp⟩)
                (by simp)
            refine ⟨idle, quietIdle, soundIdle, owner, ?_, isIdle⟩
            rw [consumers, put_self]

/-- The plan of an idle replica. -/
theorem step_plan (idle : (fleet.replica id).round = none) :
    fleet.step shards offset (.plan id) = some (fleet.put id
      { (fairSharePlan shards (fleet.replica id).consumers.keys count (offset id)).release.foldl
          Replica.beginDrain (fleet.replica id) with
        round := some
          ⟨(fairSharePlan shards (fleet.replica id).consumers.keys count (offset id)).target,
            (fairSharePlan shards (fleet.replica id).consumers.keys count (offset id)).candidates⟩ }) := by
  simp only [Fleet.step, idle]

theorem Quiet.size_le (quiet : fleet.Quiet shards offset id) (sound : fleet.Sound shards) :
    (fleet.replica id).consumers.size ≤ fairShare shards count := by
  obtain ⟨idle, quietIdle, soundIdle, -, sameConsumers, isIdle⟩ := quiet.exists_idle sound
  rw [← sameConsumers]
  obtain ⟨nodup, surplus, own⟩ :=
    @fairSharePlan_release shards count (offset id) _ (idle.replica id).consumers.nodup_keys
  rw [max_count id, Dict.length_keys] at surplus
  have stepTo := @step_plan count shards offset idle id isIdle
  have planned := (quietIdle.step rfl stepTo).1
  have nothing : (fairSharePlan shards (idle.replica id).consumers.keys count
      (offset id)).release = [] := by
    apply List.eq_nil_iff_forall_not_mem.mpr
    intro shard listed
    obtain ⟨-, draining, -, -⟩ := foldl_beginDrain nodup (idle.replica id)
      (fun other among => Dict.mem_keys_iff.mp (own other among))
      (fun other => soundIdle.apart other id)
    refine planned.not_draining (soundIdle.step (moved_of_step stepTo)) shard ?_
    rw [put_self]
    exact (draining shard).mpr (Or.inl listed)
  rw [nothing, List.length_nil] at surplus
  omega

theorem Quiet.full_of_free (quiet : fleet.Quiet shards offset id) (sound : fleet.Sound shards)
    {shard : ℕ} (inRange : shard < shards) (isFree : fleet.owner shard = none) :
    fairShare shards count ≤ (fleet.replica id).consumers.size := by
  by_contra deficit
  rw [not_le] at deficit
  obtain ⟨idle, quietIdle, soundIdle, sameOwner, sameConsumers, isIdle⟩ := quiet.exists_idle sound
  rw [← sameConsumers] at deficit
  rw [← sameOwner] at isFree
  have stepTo := @step_plan count shards offset idle id isIdle
  have notRead : shard ∉ (idle.replica id).consumers.keys := by
    rw [Dict.mem_keys_iff]
    intro reads
    have owned := (soundIdle.held shard id).mpr (Or.inl reads)
    rw [isFree] at owned
    cases owned
  have below : (idle.replica id).consumers.keys.length < fairShare shards (max count 1) := by
    rwa [max_count id, Dict.length_keys]
  have kept : (fairSharePlan shards (idle.replica id).consumers.keys count
      (offset id)).release = [] := by
    have surplus := (@fairSharePlan_release shards count (offset id) _
      (idle.replica id).consumers.nodup_keys).2.1
    rw [List.eq_nil_iff_length_eq_zero]
    omega
  have offered : shard ∈ (fairSharePlan shards (idle.replica id).consumers.keys count
      (offset id)).candidates := mem_candidates.mpr ⟨below, inRange, notRead⟩
  rw [kept] at stepTo
  refine (quietIdle.step rfl stepTo).1.not_offered (soundIdle.step (moved_of_step stepTo))
    (congrArg Replica.round (put_self ..)) ?_ (by simpa using isFree) offered
  rw [fairSharePlan_target, max_count id, put_self]
  exact deficit

/-- No two replicas read the same shard, and none reads a free one. -/
theorem sum_size_lt (sound : fleet.Sound shards) {shard : ℕ} (inRange : shard < shards)
    (isFree : fleet.owner shard = none) :
    ∑ id, (fleet.replica id).consumers.size < shards := by
  have apart : ∀ first ∈ Finset.univ, ∀ second ∈ Finset.univ, first ≠ second →
      Disjoint (fleet.replica first).consumers.support (fleet.replica second).consumers.support := by
    intro first _ second _ differ
    rw [Finset.disjoint_left]
    intro other reads alsoReads
    rw [Dict.mem_support] at reads alsoReads
    have owned := (sound.held other first).mpr (Or.inl reads)
    have alsoOwned := (sound.held other second).mpr (Or.inl alsoReads)
    rw [owned] at alsoOwned
    exact differ (Option.some.inj alsoOwned)
  have total := Finset.card_biUnion apart
  have within : Finset.univ.biUnion (fun id => (fleet.replica id).consumers.support) ⊆
      (Finset.range shards).erase shard := by
    intro other listed
    obtain ⟨id, -, reads⟩ := Finset.mem_biUnion.mp listed
    have owned := (sound.held other id).mpr (Or.inl (Dict.mem_support.mp reads))
    rw [Finset.mem_erase, Finset.mem_range]
    refine ⟨?_, sound.inRange other id owned⟩
    rintro rfl
    rw [isFree] at owned
    cases owned
  have bound := Finset.card_le_card within
  rw [Finset.card_erase_of_mem (Finset.mem_range.mpr inRange), Finset.card_range, total] at bound
  simp only [Dict.card_support] at bound
  omega

theorem Settled.owned (settled : fleet.Settled shards offset) (sound : fleet.Sound shards)
    (positive : 0 < count) {shard : ℕ} (inRange : shard < shards) : fleet.owner shard ≠ none := by
  intro isFree
  have few := sum_size_lt sound inRange isFree
  have full : count * fairShare shards count ≤ ∑ id, (fleet.replica id).consumers.size := by
    have each := Finset.card_nsmul_le_sum Finset.univ
      (fun id => (fleet.replica id).consumers.size) (fairShare shards count)
      fun id _ => (settled id).full_of_free sound inRange isFree
    simpa using each
  have enough := le_mul_fairShare shards positive
  omega

/-- Where nothing is ahead, nothing changes. -/
theorem settled_of_pending (sound : fleet.Sound shards) (nothing : fleet.pending shards = 0) :
    fleet.Settled shards offset := by
  intro id events after _ run
  have kept : after.Sound shards ∧ after.pending shards = 0 ∧ after.owner = fleet.owner := by
    apply run.invariant
    · exact ⟨sound, nothing, rfl⟩
    rintro before event reached ⟨soundBefore, nothingBefore, same⟩ - stepTo
    have moved := moved_of_step stepTo
    obtain ⟨never, drops⟩ := pending_step soundBefore moved
    refine ⟨soundBefore.step moved, by omega, ?_⟩
    by_contra changed
    rw [← same] at changed
    have lower := drops changed
    omega
  exact kept.2.2

end Settling

end Fleet

/-- In every infinite interleaving of rounds the assignment changes only finitely
often, and where no round would change it, every shard has one reader and no
replica more than its share. -/
theorem shards_converge (shards count : ℕ) (positive : 0 < count) (offset : Fin count → ℕ)
    (owner : ℕ → Option (Fin count)) :
    (∀ (fleets : ℕ → Fleet count) (events : ℕ → FleetEvent count),
      fleets 0 = Fleet.assigned shards owner →
      (∀ index, (fleets index).step shards offset (events index) = some (fleets (index + 1))) →
      {index | (fleets (index + 1)).owner ≠ (fleets index).owner}.Finite) ∧
    (∀ (events : List (FleetEvent count)) (fleet : Fleet count),
      Run (Fleet.step shards offset) Anything (Fleet.assigned shards owner) events fleet →
      fleet.Settled shards offset →
      (∀ shard, shard < shards → ∃ id, fleet.owner shard = some id ∧
        ∀ other, shard ∈ (fleet.replica other).consumers ↔ other = id) ∧
      ∀ id, (fleet.replica id).consumers.size ≤ fairShare shards count) := by
  constructor
  · intro fleets events begins steps
    have sound : ∀ index, (fleets index).Sound shards := by
      intro index
      induction index with
      | zero =>
          rw [begins]
          exact Fleet.sound_assigned owner
      | succ index ih => exact ih.step (Fleet.moved_of_step (steps index))
    exact @finite_of_drops (fun index => (fleets index).pending shards) _
      (fun index => (Fleet.pending_step (sound index) (Fleet.moved_of_step (steps index))).1)
      (fun index => (Fleet.pending_step (sound index) (Fleet.moved_of_step (steps index))).2)
  · intro events fleet run settled
    have sound := Fleet.sound_run run
    refine ⟨?_, fun id => (settled id).size_le sound⟩
    intro shard inRange
    obtain ⟨id, owned⟩ := Option.ne_none_iff_exists'.mp (settled.owned sound positive inRange)
    refine ⟨id, owned, fun other => ⟨fun reads => ?_, ?_⟩⟩
    · have alsoOwned := (sound.held shard other).mpr (Or.inl reads)
      rw [owned] at alsoOwned
      exact (Option.some.inj alsoOwned).symm
    · rintro rfl
      rcases (sound.held shard other).mp owned with reads | winding
      · exact reads
      · exact absurd winding ((settled other).not_draining sound shard)

theorem shards_converge_secondReplica :
    0 < 2 ∧ ∃ fleet, Run (Fleet.step 3 fun _ => 0) Anything (Fleet.assigned 3 fun _ => some 0)
        [.plan 0, .drained 0 2, .attempt 0, .plan 1, .attempt 1, .attempt 1, .attempt 1] fleet ∧
      fleet.Settled 3 (fun _ => 0) ∧
      (∀ shard, shard < 3 → ∃ id : Fin 2, fleet.owner shard = some id ∧
        ∀ other, shard ∈ (fleet.replica other).consumers ↔ other = id) ∧
      ∀ id, (fleet.replica id).consumers.size ≤ fairShare 3 2 := by
  obtain ⟨fleet, executed, nothing⟩ := @exists_of_exec _ _ (Fleet.step 3 fun _ => 0) Anything
    (Fleet.assigned 3 fun _ => some (0 : Fin 2)) _ (fun fleet => fleet.pending 3 = 0) _
    [.plan 0, .drained 0 2, .attempt 0, .plan 1, .attempt 1, .attempt 1, .attempt 1]
    (by decide)
  have run := run_of_exec executed
  have settled : fleet.Settled 3 fun _ => 0 :=
    Fleet.settled_of_pending (Fleet.sound_run run) nothing
  have ownership := (shards_converge 3 2 (by decide) (fun _ => 0) fun _ => some 0).2 _ fleet run settled
  exact ⟨by decide, fleet, run, settled, ownership⟩

end GeoTrack
