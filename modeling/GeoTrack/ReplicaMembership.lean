import GeoTrack.FairShare
import GeoTrack.LabelledRuns
import GeoTrack.OrderedDict
import Mathlib.Algebra.Order.Group.Unbundled.Int
import Mathlib.Algebra.Order.Ring.Int
import Mathlib.Tactic.Linarith

/-!
# Counting the live processors

Every replica writes the reading of its own clock into one sorted set, and in
the same transaction removes what is older than the membership's time to live
and counts what is left.  The share of the shards it takes follows from that
count, so what is counted has to be the replicas that are really there, although
each of them stamps and prunes by a clock of its own.
-/

open LabelledRuns

namespace GeoTrack

/-- The set of processors, as the server holds it. -/
structure Membership where
  clock : ℤ
  scores : Dict String ℤ
  expiresAt : ℤ

/-- A command of a replica, with the time at which the server executes it. -/
inductive MembershipEvent where
  /-- `now` is what the replica's own clock read. -/
  | heartbeat (clock : ℤ) (replica : String) (now : ℤ)
  | deregister (clock : ℤ) (replica : String)
deriving DecidableEq

namespace Membership

def empty (clock : ℤ) : Membership := ⟨clock, ∅, clock⟩

/-- The scores a command finds: a key past its time to live is gone. -/
def visible (keys : Membership) (clock : ℤ) : Dict String ℤ :=
  if keys.expiresAt < clock then ∅ else keys.scores

/-- The transaction of `heartbeat`, and the count it returns. -/
def heartbeat (ttlMs : ℕ) (keys : Membership) (clock : ℤ) (replica : String) (now : ℤ) :
    Membership × ℕ :=
  let announced := (keys.visible clock).set replica now
  let live := announced.filter fun _ score => now - ttlMs < score
  ({ clock := clock
     scores := live
     expiresAt := clock + ttlMs * 10 }, max live.size 1)

/-- A replica that stops in order takes its name out of the set. -/
def deregister (keys : Membership) (clock : ℤ) (replica : String) : Membership :=
  { keys with clock := clock, scores := (keys.visible clock).erase replica }

/-- Announce a replica, then plan its ownership against the count. -/
def rebalance (shards ttlMs : ℕ) (keys : Membership) (clock : ℤ) (replica : String) (now : ℤ)
    (owned : List ℕ) (offset : ℕ) : Membership × RebalancePlan :=
  let (after, live) := keys.heartbeat ttlMs clock replica now
  (after, fairSharePlan shards owned live offset)

/-- The server executes one command after another, at times that do not go
back. -/
def step (ttlMs : ℕ) (keys : Membership) : MembershipEvent → Option Membership
  | .heartbeat clock replica now =>
      if keys.clock ≤ clock then some (keys.heartbeat ttlMs clock replica now).1 else none
  | .deregister clock replica =>
      if keys.clock ≤ clock then some (keys.deregister clock replica) else none

end Membership

/-- The readings that a heartbeat carries to the server are at most `skew` away
from the time at which they get there. -/
def WithinSkew (skew : ℤ) (_ : Membership) : MembershipEvent → Prop
  | .heartbeat clock _ now => |now - clock| ≤ skew
  | .deregister _ _ => True

instance (skew : ℤ) (keys : Membership) (event : MembershipEvent) :
    Decidable (WithinSkew skew keys event) := by
  cases event <;> unfold WithinSkew <;> infer_instance

/-- What a command leaves of the time of a replica's last announcement. -/
def MembershipEvent.noted (replica : String) (seen : Option ℤ) : MembershipEvent → Option ℤ
  | .heartbeat clock other _ => if replica = other then some clock else seen
  | .deregister _ other => if replica = other then none else seen

/-- When the server last heard from a replica that has not deregistered since. -/
def lastSeen (events : List MembershipEvent) (replica : String) : Option ℤ :=
  events.foldl (MembershipEvent.noted replica) none

theorem lastSeen_snoc (events : List MembershipEvent) (event : MembershipEvent)
    (replica : String) :
    lastSeen (events ++ [event]) replica = event.noted replica (lastSeen events replica) := by
  rw [lastSeen, List.foldl_append, List.foldl_cons, List.foldl_nil, lastSeen]

namespace Membership

theorem get?_visible {keys : Membership} {clock : ℤ} {replica : String} {score : ℤ} :
    (keys.visible clock).get? replica = some score ↔
      clock ≤ keys.expiresAt ∧ keys.scores.get? replica = some score := by
  unfold visible
  split
  case isTrue gone => simp [gone]
  case isFalse present => simp [not_lt.mp present]

/-- Whom a heartbeat leaves in the set: its sender, and the others it found with
a score that is young enough by the sender's clock. -/
theorem get?_heartbeat {ttlMs : ℕ} (positive : 0 < ttlMs) {keys : Membership} {clock now : ℤ}
    {replica other : String} {score : ℤ} :
    (keys.heartbeat ttlMs clock replica now).1.scores.get? other = some score ↔
      if other = replica then score = now
      else clock ≤ keys.expiresAt ∧ keys.scores.get? other = some score ∧ now - ttlMs < score := by
  simp only [heartbeat, Dict.get?_filter, Dict.get?_set, Option.filter_eq_some_iff, decide_eq_true_eq]
  split
  case isTrue =>
      rw [Option.some_inj]
      constructor
      · exact fun found => found.1.symm
      · rintro rfl
        exact ⟨rfl, by omega⟩
  case isFalse => rw [get?_visible, and_assoc]

theorem get?_deregister {keys : Membership} {clock : ℤ} {replica other : String} {score : ℤ} :
    (keys.deregister clock replica).scores.get? other = some score ↔
      other ≠ replica ∧ clock ≤ keys.expiresAt ∧ keys.scores.get? other = some score := by
  simp only [deregister, Dict.get?_erase]
  split
  case isTrue same => simp [same]
  case isFalse differs => rw [get?_visible]; simp [differs]

/-- How the set stands to what the server has heard.  A score is a reading of its
replica's clock at the last announcement; whoever was heard from recently is in
the set, and the key outlives the announcement. -/
structure Tracks (ttlMs : ℕ) (skew : ℤ) (keys : Membership) (seen : String → Option ℤ) : Prop where
  close : ∀ replica score, keys.scores.get? replica = some score →
    ∃ heard, seen replica = some heard ∧ |score - heard| ≤ skew
  kept : ∀ replica heard, seen replica = some heard →
    keys.clock - heard < ttlMs - 2 * skew → replica ∈ keys.scores
  past : ∀ replica heard, seen replica = some heard → heard ≤ keys.clock
  alive : ∀ replica heard, seen replica = some heard → heard + ttlMs * 10 ≤ keys.expiresAt

section Steps

variable {ttlMs : ℕ} {skew clock now : ℤ} {replica : String} {keys : Membership}
  {seen : String → Option ℤ}

theorem Tracks.heartbeat (positive : 0 < ttlMs) (tracks : keys.Tracks ttlMs skew seen)
    (later : keys.clock ≤ clock) (within : |now - clock| ≤ skew) :
    (keys.heartbeat ttlMs clock replica now).1.Tracks ttlMs skew
      fun other => if other = replica then some clock else seen other := by
  have onTime := abs_le.mp within
  refine ⟨?close, ?kept, ?past, ?alive⟩
  case close =>
      intro other score found
      rw [get?_heartbeat positive] at found
      split at found
      case isTrue same =>
          obtain rfl := found
          exact ⟨clock, if_pos same, within⟩
      case isFalse differs =>
          obtain ⟨heard, isSeen, near⟩ := tracks.close other score found.2.1
          exact ⟨heard, (if_neg differs).trans isSeen, near⟩
  case kept =>
      intro other heard isSeen recent
      split at isSeen
      case isTrue same =>
          exact Dict.mem_iff_exists.mpr ⟨now, (get?_heartbeat positive).mpr (by rw [if_pos same])⟩
      case isFalse differs =>
          have younger : clock - heard < ttlMs - 2 * skew := recent
          have member := tracks.kept other heard isSeen (by omega)
          obtain ⟨score, found⟩ := Dict.mem_iff_exists.mp member
          obtain ⟨again, isHeard, near⟩ := tracks.close other score found
          obtain rfl := Option.some.inj (isSeen.symm.trans isHeard)
          have bounds := abs_le.mp near
          have alive := tracks.alive other heard isSeen
          refine Dict.mem_iff_exists.mpr ⟨score, (get?_heartbeat positive).mpr ?_⟩
          rw [if_neg differs]
          exact ⟨by omega, found, by omega⟩
  case past =>
      intro other heard isSeen
      split at isSeen
      case isTrue => exact (Option.some.inj isSeen).ge
      case isFalse => exact (tracks.past other heard isSeen).trans later
  case alive =>
      intro other heard isSeen
      have newer : heard ≤ clock := by
        split at isSeen
        case isTrue => exact (Option.some.inj isSeen).ge
        case isFalse => exact (tracks.past other heard isSeen).trans later
      exact Int.add_le_add_right newer _

theorem Tracks.deregister (nonneg : 0 ≤ skew) (tracks : keys.Tracks ttlMs skew seen)
    (later : keys.clock ≤ clock) :
    (keys.deregister clock replica).Tracks ttlMs skew
      fun other => if other = replica then none else seen other := by
  refine ⟨?close, ?kept, ?past, ?alive⟩
  case close =>
      intro other score found
      obtain ⟨differs, _, held⟩ := get?_deregister.mp found
      obtain ⟨heard, isSeen, near⟩ := tracks.close other score held
      exact ⟨heard, (if_neg differs).trans isSeen, near⟩
  case kept =>
      intro other heard isSeen recent
      split at isSeen
      case isTrue => cases isSeen
      case isFalse differs =>
          have younger : clock - heard < ttlMs - 2 * skew := recent
          have member := tracks.kept other heard isSeen (by omega)
          obtain ⟨score, found⟩ := Dict.mem_iff_exists.mp member
          have alive := tracks.alive other heard isSeen
          exact Dict.mem_iff_exists.mpr
            ⟨score, get?_deregister.mpr ⟨differs, by omega, found⟩⟩
  case past =>
      intro other heard isSeen
      split at isSeen
      case isTrue => cases isSeen
      case isFalse => exact (tracks.past other heard isSeen).trans later
  case alive =>
      intro other heard isSeen
      split at isSeen
      case isTrue => cases isSeen
      case isFalse => exact tracks.alive other heard isSeen

end Steps

/-- Every run keeps the set in step with what the server has heard. -/
theorem tracks_of_run {ttlMs : ℕ} (positive : 0 < ttlMs) {skew : ℤ} (nonneg : 0 ≤ skew) {start : ℤ}
    {events : List MembershipEvent} {keys : Membership}
    (run : Run (step ttlMs) (WithinSkew skew) (empty start) events keys) :
    keys.Tracks ttlMs skew (lastSeen events) := by
  induction run with
  | nil => exact ⟨by simp [empty], by simp [lastSeen], by simp [lastSeen], by simp [lastSeen]⟩
  | snoc run permitted stepTo ih =>
      rename_i before after event
      rw [funext (lastSeen_snoc _ event)]
      cases event with
      | heartbeat clock replica now =>
          rw [step, Option.ite_none_right_eq_some] at stepTo
          obtain ⟨later, same⟩ := stepTo
          obtain rfl := Option.some.inj same
          exact ih.heartbeat positive later permitted
      | deregister clock replica =>
          rw [step, Option.ite_none_right_eq_some] at stepTo
          obtain ⟨later, same⟩ := stepTo
          obtain rfl := Option.some.inj same
          exact ih.deregister nonneg later

end Membership

/-- A replica plans with a set of live replicas that it is in itself.  Of the
others it misses nobody who was heard from more than two skews within the time
to live, and it counts nobody whose last announcement is older than the time to
live by two skews, or who has deregistered since. -/
theorem rebalance_counts_live {ttlMs : ℕ} (positive : 0 < ttlMs) {skew : ℤ} {start : ℤ}
    {events : List MembershipEvent} {keys : Membership}
    (run : Run (Membership.step ttlMs) (WithinSkew skew) (Membership.empty start) events keys)
    {clock now : ℤ} (later : keys.clock ≤ clock) (within : |now - clock| ≤ skew)
    (shards offset : ℕ) (replica : String) (owned : List ℕ) :
    ∃ live : Finset String, replica ∈ live ∧
      (keys.rebalance shards ttlMs clock replica now owned offset).2 =
        fairSharePlan shards owned live.card offset ∧
      ∀ other ≠ replica,
        (∀ seen, lastSeen events other = some seen → clock - seen < ttlMs - 2 * skew →
          other ∈ live) ∧
        (other ∈ live → ∃ seen, lastSeen events other = some seen ∧
          clock - seen < ttlMs + 2 * skew) := by
  have onTime := abs_le.mp within
  have tracks := Membership.tracks_of_run positive (by omega) run
  have after := @Membership.Tracks.heartbeat _ _ _ _ replica _ _ positive tracks later within
  have present : replica ∈ (keys.heartbeat ttlMs clock replica now).1.scores :=
    Dict.mem_iff_exists.mpr ⟨now, (Membership.get?_heartbeat positive).mpr (by rw [if_pos rfl])⟩
  refine ⟨(keys.heartbeat ttlMs clock replica now).1.scores.support, Dict.mem_support.mpr present,
    ?_, ?_⟩
  · have counted : 0 < (keys.heartbeat ttlMs clock replica now).1.scores.support.card :=
      Finset.card_pos.mpr ⟨replica, Dict.mem_support.mpr present⟩
    have size : (keys.heartbeat ttlMs clock replica now).2 =
        (keys.heartbeat ttlMs clock replica now).1.scores.support.card := by
      rw [Dict.card_support] at counted ⊢
      exact max_eq_left counted
    exact congrArg (fun live => fairSharePlan shards owned live offset) size
  · intro other differs
    constructor
    · intro seen isSeen recent
      exact Dict.mem_support.mpr (after.kept other seen (by rwa [if_neg differs]) recent)
    · intro listed
      obtain ⟨score, found⟩ := Dict.mem_iff_exists.mp (Dict.mem_support.mp listed)
      rw [Membership.get?_heartbeat positive, if_neg differs] at found
      obtain ⟨_, held, young⟩ := found
      obtain ⟨seen, isSeen, near⟩ := tracks.close other score held
      have bounds := abs_le.mp near
      exact ⟨seen, isSeen, by omega⟩

/-- Of two replicas that plan beside a third, one leaves in order and one falls
silent for nine seconds. -/
def twoLeave : List MembershipEvent :=
  [.heartbeat 0 "silent" 3, .heartbeat 100 "stays" 98, .heartbeat 200 "leaves" 201,
    .heartbeat 7000 "stays" 7001, .deregister 7100 "leaves"]

theorem rebalance_counts_live_twoLeave :
    ∃ live : Finset String, "stays" ∈ live ∧ "silent" ∉ live ∧ "leaves" ∉ live := by
  obtain ⟨keys, executed, atClock⟩ := @exists_of_exec _ _ (Membership.step 8000) (WithinSkew 5)
    (Membership.empty 0) _ (fun keys => keys.clock = 7100) _ twoLeave (by decide +kernel)
  obtain ⟨live, me, _, others⟩ := rebalance_counts_live (by decide : 0 < 8000)
    (run_of_exec executed) (by omega : keys.clock ≤ 9000) (by decide : |(9002 : ℤ) - 9000| ≤ 5)
    12 0 "stays" []
  refine ⟨live, me, ?_, ?_⟩
  · intro listed
    obtain ⟨seen, isSeen, recent⟩ := (others "silent" (by decide)).2 listed
    have silentSince : lastSeen twoLeave "silent" = some 0 := by decide
    obtain rfl := Option.some.inj (silentSince.symm.trans isSeen)
    omega
  · intro listed
    obtain ⟨seen, isSeen, _⟩ := (others "leaves" (by decide)).2 listed
    have gone : lastSeen twoLeave "leaves" = none := by decide
    rw [gone] at isSeen
    cases isSeen

end GeoTrack
