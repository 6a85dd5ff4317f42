import Mathlib.Data.List.Induction
import Mathlib.Order.Lattice

/-!
# Sliding windows

A limiter notes the moments of events in a queue and drops from its front those
that are too old.  What counts as too old is a relation between a reading of the
clock and a noted moment; it may only grow, as the clock goes on and towards
older moments, which holds for differences of rounded numbers too.

As long as the clock does not go back, the queue holds exactly the events that
are not too old, in order, wherever the pruning stands in a round.  So a bound
on the queue is a bound on the events of every window.
-/

namespace SlidingWindow

variable {τ : Type} [LinearOrder τ]

/-- When an event is too old to count: first the older ones, and for good. -/
structure Expiry (τ : Type) [LinearOrder τ] where
  expired : (now event : τ) → Bool
  older : ∀ {now event earlier : τ}, earlier ≤ event → expired now event = true →
    expired now earlier = true
  later : ∀ {now next event : τ}, now ≤ next → expired now event = true →
    expired next event = true

/-- Events in the order of their moments. -/
def Ordered (events : List τ) : Prop := events.Pairwise (· ≤ ·)

instance (events : List τ) : Decidable (Ordered events) :=
  inferInstanceAs (Decidable (events.Pairwise (· ≤ ·)))

namespace Expiry

variable (expiry : Expiry τ)

/-- Drop what is too old from the front. -/
def prune (now : τ) (events : List τ) : List τ := events.dropWhile (expiry.expired now)

/-- The events that still count. -/
def recent (now : τ) (events : List τ) : List τ :=
  events.filter fun event => !expiry.expired now event

variable {expiry} {now next : τ} {events : List τ}

theorem prune_eq_recent (ordered : Ordered events) :
    expiry.prune now events = expiry.recent now events := by
  induction events with
  | nil => rfl
  | cons event rest ih =>
      obtain ⟨first, orderedRest⟩ := List.pairwise_cons.mp ordered
      cases old : expiry.expired now event with
      | true =>
          have dropped := ih orderedRest
          simpa [prune, recent, old] using dropped
      | false =>
          have allFresh : ∀ other ∈ event :: rest, expiry.expired now other = false := by
            intro other listed
            rcases List.mem_cons.mp listed with rfl | behind
            · exact old
            · rw [← Bool.not_eq_true]
              intro tooOld
              rw [expiry.older (first other behind) tooOld] at old
              cases old
          rw [prune, List.dropWhile_cons_of_neg (by simp [old]), recent, List.filter_eq_self.mpr]
          intro other listed
          simp [allFresh other listed]

/-- What counts later counted before. -/
theorem recent_recent (forward : now ≤ next) :
    expiry.recent next (expiry.recent now events) = expiry.recent next events := by
  rw [recent, recent, List.filter_filter]
  apply List.filter_congr
  intro event _
  cases old : expiry.expired now event with
  | true => simp [expiry.later forward old]
  | false => simp

theorem recent_append (first second : List τ) :
    expiry.recent now (first ++ second) =
      expiry.recent now first ++ expiry.recent now second :=
  List.filter_append ..

theorem ordered_recent (ordered : Ordered events) : Ordered (expiry.recent now events) :=
  List.Pairwise.sublist List.filter_sublist ordered

theorem ordered_snoc (ordered : Ordered events) (forward : ∀ event ∈ events, event ≤ now) :
    Ordered (events ++ [now]) :=
  List.pairwise_append.mpr ⟨ordered, List.pairwise_singleton _ _, fun event listed _ same =>
    List.mem_singleton.mp same ▸ forward event listed⟩

/-- Noting an event and then pruning. -/
theorem prune_snoc (ordered : Ordered events) (forward : ∀ event ∈ events, event ≤ next)
    (before : now ≤ next) :
    expiry.prune next (expiry.recent now events ++ [next]) =
      expiry.recent next (events ++ [next]) := by
  have kept : Ordered (expiry.recent now events ++ [next]) :=
    ordered_snoc (ordered_recent ordered) fun event listed =>
      forward event (List.mem_filter.mp listed).1
  rw [prune_eq_recent kept, recent_append, recent_recent before, ← recent_append]

/-- Pruning and then noting an event. -/
theorem prune_append (ordered : Ordered events) (before : now ≤ next)
    (fresh : expiry.expired next next = false) :
    expiry.prune next (expiry.recent now events) ++ [next] =
      expiry.recent next (events ++ [next]) := by
  rw [prune_eq_recent (ordered_recent ordered), recent_recent before, recent_append]
  simp [recent, fresh]

/-- Whichever moment is looked at, at most `limit` of the events up to it count. -/
def WithinLimit (expiry : Expiry τ) (limit : ℕ) (events : List τ) : Prop :=
  ∀ moment : τ, ((expiry.recent moment events).filter fun event => event ≤ moment).length ≤ limit

theorem withinLimit_nil (limit : ℕ) : expiry.WithinLimit limit [] := fun _ => Nat.zero_le _

/-- An event is let through only while the queue is within the limit. -/
theorem WithinLimit.snoc {admitted : List τ} {limit : ℕ} (within : expiry.WithinLimit limit admitted)
    (chosen : admitted.Sublist events)
    (room : (expiry.recent now (events ++ [now])).length ≤ limit) :
    expiry.WithinLimit limit (admitted ++ [now]) := by
  intro moment
  by_cases reached : now ≤ moment
  · -- what counts at `moment` counted at `now`, where the queue was within the limit
    have all : (expiry.recent moment (admitted ++ [now])).Sublist
        (expiry.recent now (events ++ [now])) := by
      rw [← recent_recent reached]
      exact List.filter_sublist.trans ((chosen.append_right _).filter _)
    exact Nat.le_trans (List.filter_sublist.trans all).length_le room
  · have later : ((expiry.recent moment [now]).filter fun event => event ≤ moment) = [] := by
      rw [List.filter_eq_nil_iff]
      intro event listed
      have same : event = now := List.mem_singleton.mp (List.mem_filter.mp listed).1
      simpa [same] using reached
    rw [recent_append, List.filter_append, later, List.append_nil]
    exact within moment

end Expiry

end SlidingWindow
