import Mathlib.Data.List.Basic

/-!
# Runs that one observer cannot tell apart

An observer takes part in some of the events of a system and is told something
at each of them.  The other events are hidden from it.

The observer learns nothing about the hidden events if there is a relation
between states with three properties: a hidden event leads to a related state,
an event of the observer keeps related states related, and in related states it
is answered alike.  Taking the hidden events out of a run then changes nothing
for the observer, so two runs that are the same to it to begin with end in
related states after the same answers.
-/

namespace Unwinding

/-- A system with the part of its events that an observer takes part in. -/
structure System (σ ε ω : Type) where
  step : σ → ε → σ
  answer : σ → ε → Option ω
  visible : ε → Bool

variable {σ ε ω : Type}

namespace System

variable (system : System σ ε ω)

def run (state : σ) (events : List ε) : σ := events.foldl system.step state

/-- What the observer takes part in. -/
def view (events : List ε) : List ε := events.filter system.visible

/-- What the observer is told, in order. -/
def answers : σ → List ε → List ω
  | _, [] => []
  | state, event :: rest =>
      if system.visible event then
        (system.answer state event).toList ++ answers (system.step state event) rest
      else
        answers (system.step state event) rest

variable {system}

theorem run_cons (state : σ) (event : ε) (rest : List ε) :
    system.run state (event :: rest) = system.run (system.step state event) rest :=
  rfl

theorem view_cons_of_visible {event : ε} (seen : system.visible event = true) (rest : List ε) :
    system.view (event :: rest) = event :: system.view rest :=
  List.filter_cons_of_pos seen

theorem view_cons_of_hidden {event : ε} (hidden : ¬ system.visible event = true)
    (rest : List ε) : system.view (event :: rest) = system.view rest :=
  List.filter_cons_of_neg hidden

end System

/-- Related states are the same to the observer, whatever possible events
follow. -/
structure Unwinds (system : System σ ε ω) (possible : ε → Prop) (related : σ → σ → Prop) :
    Prop where
  symm : ∀ one two, related one two → related two one
  trans : ∀ one two three, related one two → related two three → related one three
  hidden : ∀ one two event, possible event → ¬ system.visible event = true →
    related one two → related (system.step one event) two
  visible : ∀ one two event, possible event → system.visible event = true →
    related one two → related (system.step one event) (system.step two event)
  answer : ∀ one two event, possible event → system.visible event = true →
    related one two → system.answer one event = system.answer two event

section Purge

variable {system : System σ ε ω} {possible : ε → Prop} {related : σ → σ → Prop}

/-- Taking the hidden events out of a run changes nothing for the observer. -/
theorem Unwinds.purge (unwinds : Unwinds system possible related) {events : List ε}
    (allPossible : ∀ event ∈ events, possible event) {one two : σ} (start : related one two) :
    related (system.run one events) (system.run two (system.view events)) ∧
      system.answers one events = system.answers two (system.view events) := by
  induction events generalizing one two with
  | nil => exact ⟨start, rfl⟩
  | cons event rest ih =>
      rw [List.forall_mem_cons] at allPossible
      by_cases seen : system.visible event = true
      · have stillRelated := unwinds.visible one two event allPossible.1 seen start
        obtain ⟨ends, told⟩ := ih allPossible.2 stillRelated
        have sameAnswer := unwinds.answer one two event allPossible.1 seen start
        rw [System.view_cons_of_visible seen, System.run_cons, System.run_cons]
        refine ⟨ends, ?_⟩
        rw [System.answers, System.answers, if_pos seen, if_pos seen, sameAnswer, told]
      · have stillRelated := unwinds.hidden one two event allPossible.1 seen start
        obtain ⟨ends, told⟩ := ih allPossible.2 stillRelated
        rw [System.view_cons_of_hidden seen, System.run_cons]
        refine ⟨ends, ?_⟩
        rw [System.answers, if_neg seen, told]

/-- Two runs with the same view end in related states, after the same answers. -/
theorem Unwinds.sameView (unwinds : Unwinds system possible related) {first second : List ε}
    (firstPossible : ∀ event ∈ first, possible event)
    (secondPossible : ∀ event ∈ second, possible event)
    (sameView : system.view first = system.view second) {one two : σ} (start : related one two) :
    related (system.run one first) (system.run two second) ∧
      system.answers one first = system.answers two second := by
  -- both runs are compared with the purged run from the second state
  have reflexive : related two two :=
    unwinds.trans two one two (unwinds.symm one two start) start
  obtain ⟨firstEnds, firstTold⟩ := unwinds.purge firstPossible start
  obtain ⟨secondEnds, secondTold⟩ := unwinds.purge secondPossible reflexive
  rw [sameView] at firstEnds firstTold
  exact ⟨unwinds.trans _ _ _ firstEnds (unwinds.symm _ _ secondEnds),
    firstTold.trans secondTold.symm⟩

end Purge

end Unwinding
