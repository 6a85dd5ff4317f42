import Mathlib.Algebra.Order.Floor.Ring
import Mathlib.Tactic.Linarith
import Mathlib.Tactic.Ring

/-!
# Bins on a line and intervals on a circle

A line cut into bins of one width: the bins that a closed interval meets are
those from the bin of its lower end to the bin of its upper end.

A circle cut open into a window one period long: an interval of the line folds
to two ends inside the window, which stand in order when the interval does not
pass the cut, and out of order when it does.
-/

namespace CircularBins

variable {K : Type*} [Field K] [LinearOrder K] [IsStrictOrderedRing K]

section Bins

variable [FloorRing K] {size low high value : K} {index : ℤ}

theorem le_bin_iff (positive : 0 < size) :
    index ≤ ⌊value / size⌋ ↔ index * size ≤ value := by
  rw [Int.le_floor, le_div_iff₀ positive]

theorem bin_lt_iff (positive : 0 < size) :
    ⌊value / size⌋ < index ↔ value < index * size := by
  rw [Int.floor_lt, div_lt_iff₀ positive]

theorem bin_mono (positive : 0 < size) (ordered : low ≤ high) :
    ⌊low / size⌋ ≤ ⌊high / size⌋ :=
  Int.floor_mono (div_le_div_of_nonneg_right ordered positive.le)

/-- A bin between those of the ends is met at its own lower boundary, or at
the lower end when that lies inside it. -/
theorem bin_max (positive : 0 < size) (above : ⌊low / size⌋ ≤ index) :
    ⌊max low (index * size) / size⌋ = index := by
  apply le_antisymm
  · rw [← Int.lt_add_one_iff, bin_lt_iff positive]
    refine max_lt ((bin_lt_iff positive).mp (by omega)) ?_
    push_cast
    linarith
  · exact (le_bin_iff positive).mpr (le_max_right _ _)

/-- The bins that an interval meets. -/
theorem exists_bin_eq_iff (positive : 0 < size) (ordered : low ≤ high) :
    (∃ value, (low ≤ value ∧ value ≤ high) ∧ ⌊value / size⌋ = index) ↔
      ⌊low / size⌋ ≤ index ∧ index ≤ ⌊high / size⌋ := by
  constructor
  · rintro ⟨value, ⟨above, below⟩, rfl⟩
    exact ⟨bin_mono positive above, bin_mono positive below⟩
  · rintro ⟨above, below⟩
    have boundary : index * size ≤ high := (le_bin_iff positive).mp below
    exact ⟨max low (index * size), ⟨le_max_left _ _, max_le ordered boundary⟩,
      bin_max positive above⟩

end Bins

section Intervals

/-- Membership in an interval of the circle, read off its ends in the window:
ends out of order stand for an interval that passes the cut. -/
def Between {K : Type*} [LinearOrder K] (low high value : K) : Prop :=
  if high < low then low ≤ value ∨ value ≤ high else low ≤ value ∧ value ≤ high

variable {period start low high value foldedLow foldedHigh : K} {turns lowTurns highTurns : ℤ}

/-- A whole number of periods that is shorter than one period is none. -/
theorem turns_lt_one (positive : 0 < period) (short : turns * period < period) : turns < 1 := by
  by_contra many
  have atLeast : (1 : K) ≤ turns := by exact_mod_cast not_lt.mp many
  have long : 1 * period ≤ turns * period := mul_le_mul_of_nonneg_right atLeast positive.le
  linarith

theorem turns_eq_zero (positive : 0 < period) (above : -period < turns * period)
    (below : turns * period < period) : turns = 0 := by
  have most : turns < 1 := turns_lt_one positive below
  have least : -turns < 1 := by
    apply turns_lt_one positive
    push_cast
    linarith
  omega

/-- Where the ends of a short interval fold to: in order they were moved by
the same number of turns, out of order the upper end by one turn less. -/
structure Folded (period start low high foldedLow foldedHigh : K) (lowTurns highTurns : ℤ) :
    Prop where
  positive : 0 < period
  ordered : low ≤ high
  short : high - low < period
  low_eq : foldedLow = low + lowTurns * period
  high_eq : foldedHigh = high + highTurns * period
  low_mem : start ≤ foldedLow ∧ foldedLow ≤ start + period
  high_mem : start ≤ foldedHigh ∧ foldedHigh ≤ start + period
  point : low = high → foldedLow = foldedHigh

namespace Folded

theorem turns_of_le (folded : Folded period start low high foldedLow foldedHigh lowTurns highTurns)
    (inOrder : foldedLow ≤ foldedHigh) : highTurns = lowTurns := by
  obtain ⟨positive, ordered, short, rfl, rfl, lowIn, highIn, point⟩ := folded
  suffices none : highTurns - lowTurns = 0 by omega
  apply turns_eq_zero positive
  · push_cast
    linarith
  · push_cast
    obtain same | apart := eq_or_lt_of_le ordered
    · -- both ends are one point, so they fold to one point
      linarith [point same]
    · linarith

theorem turns_of_lt (folded : Folded period start low high foldedLow foldedHigh lowTurns highTurns)
    (crossing : foldedHigh < foldedLow) : highTurns = lowTurns - 1 := by
  obtain ⟨positive, ordered, short, rfl, rfl, lowIn, highIn, point⟩ := folded
  suffices none : highTurns - lowTurns + 1 = 0 by omega
  apply turns_eq_zero positive
  · push_cast
    linarith
  · push_cast
    linarith

/-- Folding reproduces membership: a value inside the window lies between the
folded ends when a whole number of turns takes it into the interval. -/
theorem between_iff (folded : Folded period start low high foldedLow foldedHigh lowTurns highTurns)
    (inside : start < value ∧ value < start + period) :
    Between foldedLow foldedHigh value ↔
      ∃ turns : ℤ, low ≤ value + turns * period ∧ value + turns * period ≤ high := by
  obtain inOrder | crossing := le_or_gt foldedLow foldedHigh
  · have turnsEq : highTurns = lowTurns := folded.turns_of_le inOrder
    obtain ⟨positive, ordered, short, rfl, rfl, lowIn, highIn, point⟩ := folded
    subst turnsEq
    rw [Between, if_neg inOrder.not_gt]
    constructor
    · rintro ⟨above, below⟩
      refine ⟨-highTurns, ?_, ?_⟩ <;> push_cast <;> linarith
    · rintro ⟨turns, above, below⟩
      have total : turns + highTurns = 0 := by
        apply turns_eq_zero positive <;> push_cast <;> linarith
      obtain rfl : turns = -highTurns := by omega
      push_cast at above below
      constructor <;> linarith
  · have turnsEq : highTurns = lowTurns - 1 := folded.turns_of_lt crossing
    obtain ⟨positive, ordered, short, rfl, rfl, lowIn, highIn, point⟩ := folded
    subst turnsEq
    rw [Between, if_pos crossing]
    push_cast at highIn ⊢
    constructor
    · rintro (above | below)
      · refine ⟨-lowTurns, ?_, ?_⟩ <;> push_cast <;> linarith
      · refine ⟨1 - lowTurns, ?_, ?_⟩ <;> push_cast <;> linarith
    · rintro ⟨turns, above, below⟩
      by_contra outside
      obtain ⟨beforeLow, afterHigh⟩ := not_or.mp outside
      rw [not_le] at beforeLow afterHigh
      -- more than no turn, and less than one
      have least : -(turns + lowTurns) < 1 := by
        apply turns_lt_one positive
        push_cast
        linarith
      have most : turns + lowTurns < 1 := by
        apply turns_lt_one positive
        push_cast
        linarith
      have total : turns + lowTurns = 0 := by omega
      obtain rfl : turns = -lowTurns := by omega
      push_cast at above
      linarith

end Folded

end Intervals

end CircularBins
