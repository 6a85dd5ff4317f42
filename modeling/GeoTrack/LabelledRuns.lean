import Mathlib.Data.List.Induction
import Mathlib.Data.Set.Finite.Basic
import Mathlib.Order.WellFounded

/-!
# Runs of labelled transition systems

A system is a partial step function on states and events.  All nondeterminism
is in the events: which party moves, which call fails, what a clock reads.
A run records the events that led to a state, and every event in it satisfies
a condition on the state before the step.

Invariants are proved by `Run.invariant`; a concrete run is checked by
evaluating `exec`.
-/

namespace LabelledRuns

variable {σ ε : Type}

/-- The event list `events` leads from `start` to a state, each step allowed
in the state before it. -/
inductive Run (step : σ → ε → Option σ) (allowed : σ → ε → Prop) (start : σ) :
    List ε → σ → Prop where
  | nil : Run step allowed start [] start
  | snoc {events : List ε} {before after : σ} {event : ε}
      (run : Run step allowed start events before)
      (permitted : allowed before event)
      (stepTo : step before event = some after) :
      Run step allowed start (events ++ [event]) after

/-- The condition that permits every step. -/
def Anything : σ → ε → Prop := fun _ _ => True

instance (state : σ) (event : ε) : Decidable (Anything state event) := isTrue trivial

/-- Execute a list of events, stopping at the first that is not allowed or not
enabled. -/
def exec (step : σ → ε → Option σ) (allowed : σ → ε → Prop)
    [∀ state event, Decidable (allowed state event)] : σ → List ε → Option σ
  | state, [] => some state
  | state, event :: rest =>
      if allowed state event then
        (step state event).bind fun next => exec step allowed next rest
      else
        none

variable {step : σ → ε → Option σ} {allowed : σ → ε → Prop} {start : σ}

/-- What holds at the start and survives every allowed step holds throughout. -/
theorem Run.invariant {invariant : σ → Prop} {events : List ε} {state : σ}
    (run : Run step allowed start events state)
    (atStart : invariant start)
    (preserved : ∀ before event after, invariant before → allowed before event →
      step before event = some after → invariant after) :
    invariant state := by
  induction run with
  | nil => exact atStart
  | snoc _ permitted stepTo ih => exact preserved _ _ _ ih permitted stepTo

theorem Run.mono {permissive : σ → ε → Prop} {events : List ε} {state : σ}
    (run : Run step allowed start events state)
    (weaker : ∀ before event, allowed before event → permissive before event) :
    Run step permissive start events state := by
  induction run with
  | nil => exact Run.nil
  | snoc _ permitted stepTo ih => exact ih.snoc (weaker _ _ permitted) stepTo

theorem Run.append {events more : List ε} {middle final : σ}
    (run : Run step allowed start events middle)
    (continued : Run step allowed middle more final) :
    Run step allowed start (events ++ more) final := by
  induction continued with
  | nil => simpa using run
  | snoc _ permitted stepTo ih =>
      rw [← List.append_assoc]
      exact ih.snoc permitted stepTo

theorem run_snoc_iff {events : List ε} {event : ε} {state : σ} :
    Run step allowed start (events ++ [event]) state ↔
      ∃ before, Run step allowed start events before ∧ allowed before event ∧
        step before event = some state := by
  constructor
  · intro run
    generalize longer : events ++ [event] = all at run
    cases run with
    | nil => simp at longer
    | snoc run permitted stepTo =>
        obtain ⟨rfl, same⟩ := List.append_inj' longer rfl
        obtain rfl := List.cons_eq_cons.mp same |>.1
        exact ⟨_, run, permitted, stepTo⟩
  · rintro ⟨before, run, permitted, stepTo⟩
    exact run.snoc permitted stepTo

theorem Run.eq_of_nil {state : σ} (run : Run step allowed start [] state) : state = start := by
  generalize nothing : ([] : List ε) = events at run
  cases run with
  | nil => rfl
  | snoc => simp at nothing

theorem run_cons_iff {events : List ε} {event : ε} {state : σ} :
    Run step allowed start (event :: events) state ↔
      ∃ next, allowed start event ∧ step start event = some next ∧
        Run step allowed next events state := by
  constructor
  · intro run
    induction events using List.reverseRecOn generalizing state with
    | nil =>
        have single : Run step allowed start ([] ++ [event]) state := run
        obtain ⟨before, first, permitted, stepTo⟩ := run_snoc_iff.mp single
        obtain rfl := first.eq_of_nil
        exact ⟨state, permitted, stepTo, Run.nil⟩
    | append_singleton earlier last ih =>
        rw [← List.cons_append] at run
        obtain ⟨before, shorter, permitted, stepTo⟩ := run_snoc_iff.mp run
        obtain ⟨next, first, firstTo, rest⟩ := ih shorter
        exact ⟨next, first, firstTo, rest.snoc permitted stepTo⟩
  · rintro ⟨next, permitted, stepTo, rest⟩
    have first : Run step allowed start [event] next := Run.nil.snoc permitted stepTo
    exact first.append rest

/-- What every event of a run satisfies may be added to its condition. -/
theorem Run.restrict {keep : ε → Prop} {events : List ε} {state : σ}
    (run : Run step allowed start events state) (all : ∀ event ∈ events, keep event) :
    Run step (fun before event => allowed before event ∧ keep event) start events state := by
  induction run with
  | nil => exact Run.nil
  | snoc _ permitted stepTo ih =>
      have last := all _ (List.mem_append_right _ (List.mem_singleton_self _))
      exact (ih fun event listed => all event (List.mem_append_left _ listed)).snoc
        ⟨permitted, last⟩ stepTo

/-- The events determine the state. -/
theorem Run.unique {events : List ε} {first second : σ}
    (run : Run step allowed start events first)
    (other : Run step allowed start events second) : first = second := by
  induction run generalizing second with
  | nil => exact other.eq_of_nil.symm
  | snoc _ _ stepTo ih =>
      obtain ⟨before, earlier, _, otherStep⟩ := run_snoc_iff.mp other
      obtain rfl := ih earlier
      exact Option.some.inj (stepTo.symm.trans otherStep)

/-- The run passes through `before` and takes `event` there. -/
def Moment (step : σ → ε → Option σ) (allowed : σ → ε → Prop) (start : σ) (events : List ε)
    (event : ε) (before : σ) : Prop :=
  ∃ earlier later, events = earlier ++ event :: later ∧ Run step allowed start earlier before

theorem not_moment_nil {event : ε} {before : σ} :
    ¬ Moment step allowed start [] event before := by
  rintro ⟨earlier, later, split, -⟩
  simp at split

/-- The moments of a longer run are those of the shorter one and its last
step. -/
theorem Run.moment_snoc_iff {events : List ε} {state before : σ} {last event : ε}
    (run : Run step allowed start events state) :
    Moment step allowed start (events ++ [last]) event before ↔
      Moment step allowed start events event before ∨ event = last ∧ before = state := by
  constructor
  · rintro ⟨earlier, later, split, reached⟩
    rcases List.eq_nil_or_concat later with rfl | ⟨middle, final, rfl⟩
    · obtain ⟨rfl, same⟩ := List.append_inj' split rfl
      obtain rfl := List.cons_eq_cons.mp same |>.1
      exact Or.inr ⟨rfl, reached.unique run⟩
    · rw [List.concat_eq_append, ← List.cons_append, ← List.append_assoc] at split
      obtain ⟨shorter, -⟩ := List.append_inj' split rfl
      exact Or.inl ⟨earlier, middle, shorter, reached⟩
  · rintro (⟨earlier, later, rfl, reached⟩ | ⟨rfl, rfl⟩)
    · exact ⟨earlier, later ++ [last], by simp, reached⟩
    · exact ⟨events, [], rfl, run⟩

variable [∀ state event, Decidable (allowed state event)]

/-- A property of the state an execution ends in, found by evaluating it. -/
theorem exists_of_exec {property : σ → Prop} [DecidablePred property] {events : List ε}
    (evaluated : (exec step allowed start events).any
      (fun state => decide (property state)) = true) :
    ∃ state, exec step allowed start events = some state ∧ property state := by
  obtain ⟨state, executed, holds⟩ := (Option.any_eq_true _ _).mp evaluated
  exact ⟨state, executed, of_decide_eq_true holds⟩

/-- Every execution is a run. -/
theorem run_of_exec {events : List ε} {final : σ}
    (executed : exec step allowed start events = some final) :
    Run step allowed start events final := by
  induction events generalizing start with
  | nil =>
      obtain rfl := Option.some.inj executed
      exact Run.nil
  | cons event rest ih =>
      rw [exec] at executed
      split at executed
      case isTrue permitted =>
          obtain ⟨next, stepTo, remaining⟩ := Option.bind_eq_some_iff.mp executed
          have first : Run step allowed start [event] next := Run.nil.snoc permitted stepTo
          exact first.append (ih remaining)
      case isFalse => cases executed

/-- Every run is the execution of its events. -/
theorem exec_of_run {events : List ε} {final : σ}
    (run : Run step allowed start events final) :
    exec step allowed start events = some final := by
  have continued {state next : σ} {event : ε} (permitted : allowed state event)
      (stepTo : step state event = some next) :
      ∀ earlier first, exec step allowed first earlier = some state →
        exec step allowed first (earlier ++ [event]) = some next := by
    intro earlier
    induction earlier with
    | nil =>
        rintro first executed
        obtain rfl := Option.some.inj executed
        simp [exec, permitted, stepTo]
    | cons head rest ih =>
        intro first executed
        rw [List.cons_append, exec] at *
        split at executed
        case isTrue allowedHead =>
            rw [if_pos allowedHead]
            obtain ⟨second, headTo, remaining⟩ := Option.bind_eq_some_iff.mp executed
            rw [headTo]
            exact ih second remaining
        case isFalse => cases executed
  induction run with
  | nil => rfl
  | snoc _ permitted stepTo ih => exact continued permitted stepTo _ _ ih

/-- What one step decides after each prefix decides the property of all
prefixes. -/
theorem forall_prefix_iff {holds : List ε → Prop} {harmless : List ε → ε → Prop} {events : List ε}
    (decides : ∀ earlier event, holds earlier →
      (holds (earlier ++ [event]) ↔ harmless earlier event)) :
    (∀ earlier later, events = earlier ++ later → holds earlier) ↔
      holds [] ∧ ∀ earlier event later, events = earlier ++ event :: later →
        harmless earlier event := by
  constructor
  · intro throughout
    refine ⟨throughout [] events rfl, ?_⟩
    intro earlier event later cut
    have longer := throughout (earlier ++ [event]) later (by simpa using cut)
    exact (decides earlier event (throughout earlier _ cut)).mp longer
  · rintro ⟨atStart, never⟩ earlier
    induction earlier using List.reverseRecOn with
    | nil => exact fun _ _ => atStart
    | append_singleton earlier event ih =>
        intro later cut
        have split : events = earlier ++ event :: later := by simpa using cut
        exact (decides earlier event (ih _ split)).mpr (never earlier event later split)

/-- What lowers a measure that never grows happens only finitely often. -/
theorem finite_of_drops {measure : ℕ → ℕ} {happens : ℕ → Prop}
    (never : ∀ index, measure (index + 1) ≤ measure index)
    (drops : ∀ index, happens index → measure (index + 1) < measure index) :
    {index | happens index}.Finite := by
  obtain ⟨_, ⟨last, rfl⟩, least⟩ := wellFounded_lt.has_min (Set.range measure) ⟨_, 0, rfl⟩
  refine (Set.finite_lt_nat last).subset ?_
  intro index occurs
  by_contra late
  have below : measure index ≤ measure last := antitone_nat_of_succ_le never (not_lt.mp late)
  have lower := drops index occurs
  exact least _ ⟨index + 1, rfl⟩ (lt_of_lt_of_le lower below)

end LabelledRuns
