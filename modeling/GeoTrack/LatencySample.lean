import GeoTrack.AlgorithmR

/-!
# The sample of ack latencies

The load generator counts every latency it measures and keeps a bounded sample of
them for its percentiles.

The numbers a run draws are dealt from a list here, each below the count it is
drawn for.  Over all lists every set of as many measurements as the sample holds
is kept equally often.
-/

namespace GeoTrack

variable {α σ : Type} (randrange : ℕ → σ → ℕ × σ)

structure Reservoir (α σ : Type) where
  capacity : ℕ
  count : ℕ
  values : List α
  rng : σ

namespace Reservoir

def empty (capacity : ℕ) (rng : σ) : Reservoir α σ where
  capacity := capacity
  count := 0
  values := []
  rng := rng

def add (reservoir : Reservoir α σ) (value : α) : Reservoir α σ :=
  let counted := { reservoir with count := reservoir.count + 1 }
  if reservoir.values.length < reservoir.capacity then
    { counted with values := reservoir.values ++ [value] }
  else
    let (index, rng) := randrange counted.count reservoir.rng
    { counted with
      rng := rng
      values :=
        if index < reservoir.capacity then reservoir.values.set index value
        else reservoir.values }

def observe (reservoir : Reservoir α σ) (observed : List α) : Reservoir α σ :=
  observed.foldl (add randrange) reservoir

end Reservoir

/-- `randrange` with the numbers of a list. -/
def dealt (bound : ℕ) : List ℕ → ℕ × List ℕ
  | [] => (0, [])
  | draw :: draws => (draw % bound, draws)

namespace Reservoir

open AlgorithmR

theorem observe_append (reservoir : Reservoir α σ) (first second : List α) :
    reservoir.observe randrange (first ++ second) =
      (reservoir.observe randrange first).observe randrange second :=
  List.foldl_append

/-- While there is room every measurement is kept, and no number is drawn. -/
theorem observe_filling (reservoir : Reservoir α σ) {observed : List α}
    (room : reservoir.values.length + observed.length ≤ reservoir.capacity) :
    reservoir.observe randrange observed =
      { reservoir with
        count := reservoir.count + observed.length
        values := reservoir.values ++ observed } := by
  induction observed generalizing reservoir with
  | nil => simp [observe]
  | cons value rest ih =>
      rw [List.length_cons] at room
      have isRoom : reservoir.values.length < reservoir.capacity := by omega
      change (reservoir.add randrange value).observe randrange rest = _
      rw [ih]
      · simp only [add, if_pos isRoom, List.length_cons, List.append_assoc, List.singleton_append]
        rw [Nat.add_assoc, Nat.add_comm 1]
      · simp only [add, if_pos isRoom, List.length_append, List.length_singleton]
        omega

/-- A full sample goes through the draws of the algorithm. -/
theorem observe_full (reservoir : Reservoir α (List ℕ)) {observed : List α} {draws : List ℕ}
    (full : reservoir.values.length = reservoir.capacity)
    (dealing : reservoir.rng = draws) (enough : draws.length = observed.length)
    (fair : ∀ place (inside : place < draws.length), draws[place] < reservoir.count + place + 1) :
    (reservoir.observe dealt observed).values =
      resample reservoir.values (observed.zip draws) := by
  induction observed generalizing reservoir draws with
  | nil => rfl
  | cons value rest ih =>
      obtain ⟨draw, others, rfl⟩ := List.exists_cons_of_length_eq_add_one enough
      have first : draw < reservoir.count + 1 := fair 0 (Nat.succ_pos _)
      have noRoom : ¬ reservoir.values.length < reservoir.capacity := by omega
      have after : (reservoir.add dealt value) =
          { reservoir with
            count := reservoir.count + 1
            rng := others
            values := reservoir.values.set draw value } := by
        simp only [add, if_neg noRoom, dealing, dealt, Nat.mod_eq_of_lt first]
        split
        case isTrue inside => rfl
        case isFalse outside => rw [List.set_eq_of_length_le (by omega)]
      change ((reservoir.add dealt value).observe dealt rest).values = _
      rw [after, @ih _ others]
      · rfl
      · simpa using full
      · rfl
      · simpa using enough
      · intro place inside
        have next := fair (place + 1) (Nat.succ_lt_succ inside)
        rw [List.getElem_cons_succ] at next
        change others[place] < reservoir.count + 1 + place + 1
        omega

theorem observe_count (reservoir : Reservoir α σ) (observed : List α) :
    (reservoir.observe randrange observed).count = reservoir.count + observed.length := by
  induction observed generalizing reservoir with
  | nil => rfl
  | cons value rest ih =>
      refine (ih (reservoir.add randrange value)).trans ?_
      rw [List.length_cons, Nat.add_comm rest.length, ← Nat.add_assoc]
      congr 1
      unfold add
      split <;> rfl

def map {β : Type} (f : α → β) (reservoir : Reservoir α σ) : Reservoir β σ :=
  { reservoir with values := reservoir.values.map f }

/-- What is kept depends on the places of the measurements, not on their values. -/
theorem observe_map {β : Type} (f : α → β) (reservoir : Reservoir α σ) (observed : List α) :
    (reservoir.map f).observe randrange (observed.map f) =
      (reservoir.observe randrange observed).map f := by
  induction observed generalizing reservoir with
  | nil => rfl
  | cons value rest ih =>
      have turn : (reservoir.map f).add randrange (f value) =
          (reservoir.add randrange value).map f := by
        simp only [add, map, List.length_map]
        split
        case isTrue room => simp
        case isFalse noRoom =>
            by_cases inside : (randrange (reservoir.count + 1) reservoir.rng).1 < reservoir.capacity
            · simp [inside]
            · simp [inside]
      change ((reservoir.map f).add randrange (f value)).observe randrange (rest.map f) = _
      rw [turn, ih]
      rfl

/-- The numbers of the measurements that are kept. -/
def kept (capacity count : ℕ) (draws : List ℕ) : List ℕ :=
  ((empty capacity draws).observe dealt (List.range count)).values

theorem kept_eq_positions {capacity later : ℕ} {draws : List ℕ}
    (listed : draws ∈ allDraws capacity later) :
    kept capacity (capacity + later) draws = positions capacity draws := by
  have drawn := length_of_mem_allDraws listed
  have filled := @observe_filling _ _ dealt (empty capacity draws) (List.range capacity)
    (by simp [empty])
  rw [kept, List.range_eq_range', ← List.range'_append_1, observe_append, Nat.zero_add,
    ← List.range_eq_range', filled, @observe_full _ _ _ draws]
  · simp [positions, empty, drawn]
  · simp [empty]
  · rfl
  · simp [drawn]
  · intro place inside
    simpa [empty] using lt_of_mem_allDraws listed place inside

end Reservoir

open AlgorithmR Reservoir in
/-- All measurements are counted, and all are kept while they fit.  From then on every
set of as many as the sample holds is the sample for the same share of all numbers
that can be drawn. -/
theorem latencies_sampled_uniformly (observed : List α) (capacity : ℕ) :
    (∀ draws,
      ((empty capacity draws).observe dealt observed).count = observed.length ∧
      ((empty capacity draws).observe dealt observed).values.map some =
        (kept capacity observed.length draws).map (observed[·]?)) ∧
    (observed.length ≤ capacity →
      ∀ draws, ((empty capacity draws).observe dealt observed).values = observed) ∧
    ∀ later, observed.length = capacity + later →
      ∀ chosen ⊆ Finset.range observed.length, chosen.card = capacity →
        (allDraws capacity later).countP
            (fun draws => decide ((kept capacity observed.length draws).toFinset = chosen)) *
          observed.length.choose capacity = (allDraws capacity later).length := by
  refine ⟨fun draws => ⟨?_, ?_⟩, fun fits draws => ?_, fun later long chosen measured card => ?_⟩
  · exact (observe_count dealt _ observed).trans (Nat.zero_add _)
  · have marked : observed.map some = (List.range observed.length).map (observed[·]?) := by
      refine List.ext_getElem (by simp) fun place inside _ => ?_
      rw [List.length_map] at inside
      simp [inside]
    have direct := observe_map dealt some (empty capacity draws) observed
    have byNumber := observe_map dealt (observed[·]?) (empty capacity draws)
      (List.range observed.length)
    rw [marked] at direct
    exact congrArg values (direct.symm.trans byNumber)
  · rw [observe_filling dealt (empty capacity draws) (by simpa [empty] using fits)]
    rfl
  · rw [long] at measured ⊢
    rw [← countP_mul_choose measured card]
    congr 1
    refine List.countP_congr fun draws listed => ?_
    rw [kept_eq_positions listed]

open AlgorithmR Reservoir in
theorem latencies_sampled_uniformly_ofThree :
    (∀ draws, ((empty 3 draws).observe dealt [12, 8, 31]).values = [12, 8, 31]) ∧
    (∀ draws,
      ((empty 2 draws).observe dealt [12, 8, 31]).count = 3 ∧
      ((empty 2 draws).observe dealt [12, 8, 31]).values.map some =
        (kept 2 3 draws).map ([12, 8, 31][·]?)) ∧
    (allDraws 2 1).countP (fun draws => decide ((kept 2 3 draws).toFinset = {0, 2})) *
      (3).choose 2 = (allDraws 2 1).length := by
  obtain ⟨known, -, uniform⟩ := latencies_sampled_uniformly [12, 8, 31] 2
  exact ⟨(latencies_sampled_uniformly [12, 8, 31] 3).2.1 (by decide), known,
    uniform 1 rfl {0, 2} (by decide) rfl⟩

end GeoTrack
