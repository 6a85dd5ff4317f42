import Mathlib.Algebra.Order.Group.Abs
import Mathlib.Data.List.Induction

/-!
# Switches with two watermarks

A switch is shut by a level at or above the high watermark and opened by one at
or below the low watermark; between the two it stays as it is.

What a run of levels leaves behind is decided by the last of them outside the
band.  To go over, the level has to cross the band, so a level that moves slowly
cannot make the switch flap.
-/

namespace Hysteresis

variable {α : Type} [LinearOrder α]

/-- Two watermarks, the low one below. -/
structure Watermarks (α : Type) [LinearOrder α] where
  low : α
  high : α
  below : low < high

namespace Watermarks

/-- The verdict after one more level. -/
def next (marks : Watermarks α) (shut : Bool) (level : α) : Bool :=
  if marks.high ≤ level ∧ shut = false then true
  else if level ≤ marks.low ∧ shut = true then false
  else shut

/-- The level is outside the band. -/
def Decides (marks : Watermarks α) (level : α) : Prop := marks.high ≤ level ∨ level ≤ marks.low

instance (marks : Watermarks α) (level : α) : Decidable (marks.Decides level) :=
  inferInstanceAs (Decidable (_ ∨ _))

variable {marks : Watermarks α} {shut : Bool} {level : α}

theorem next_of_high (high : marks.high ≤ level) : marks.next shut level = true := by
  have above : ¬ level ≤ marks.low := not_le.mpr (marks.below.trans_le high)
  cases shut <;> simp [next, high, above]

theorem next_of_low (low : level ≤ marks.low) : marks.next shut level = false := by
  have under : ¬ marks.high ≤ level := not_le.mpr (low.trans_lt marks.below)
  cases shut <;> simp [next, low, under]

theorem next_of_between (between : ¬ marks.Decides level) : marks.next shut level = shut := by
  obtain ⟨under, above⟩ := not_or.mp between
  simp [next, under, above]

theorem next_of_decides (decides : marks.Decides level) :
    marks.next shut level = decide (marks.high ≤ level) := by
  rcases decides with high | low
  · rw [next_of_high high, decide_eq_true high]
  · rw [next_of_low low, decide_eq_false (not_le.mpr (low.trans_lt marks.below))]

/-- The last level outside the band has the say. -/
theorem foldl_next (marks : Watermarks α) (shut : Bool) (levels : List α) :
    levels.foldl marks.next shut =
      ((levels.filter fun level => marks.Decides level).getLast?.map
        fun level => decide (marks.high ≤ level)).getD shut := by
  induction levels using List.reverseRecOn with
  | nil => rfl
  | append_singleton earlier level ih =>
      rw [List.foldl_append, List.foldl_cons, List.foldl_nil, List.filter_append]
      by_cases decides : marks.Decides level
      · simp [next_of_decides decides, decides]
      · rw [next_of_between decides, ih]
        simp [decides]

/-- Going over means the level is on the other side of the band. -/
theorem low_of_opened (opened : marks.next true level = false) : level ≤ marks.low := by
  by_contra above
  have stays : marks.next true level = true := by simp [next, above]
  rw [stays] at opened
  cases opened

theorem high_of_shut (closed : marks.next false level = true) : marks.high ≤ level := by
  by_contra under
  have stays : marks.next false level = false := by simp [next, under]
  rw [stays] at closed
  cases closed

end Watermarks

section Drift

variable [AddCommGroup α] [IsOrderedAddMonoid α]

/-- From one level to the next the change is at most `drift`. -/
def Drifts (drift : α) (levels : List α) : Prop :=
  levels.IsChain fun earlier later => |later - earlier| ≤ drift

/-- So many steps move the level by at most so many drifts. -/
theorem abs_sub_le_of_drifts {drift : α} {first last : α} {between : List α}
    (drifts : Drifts drift (first :: (between ++ [last]))) :
    |last - first| ≤ (between.length + 1) • drift := by
  induction between generalizing first with
  | nil =>
      have single : |last - first| ≤ drift := by simpa [Drifts] using drifts
      exact single.trans_eq (one_nsmul drift).symm
  | cons middle rest ih =>
      obtain ⟨firstStep, later⟩ := List.isChain_cons_cons.mp drifts
      have remaining : |last - middle| ≤ (rest.length + 1) • drift := ih later
      calc |last - first| = |(last - middle) + (middle - first)| := by rw [sub_add_sub_cancel]
        _ ≤ |last - middle| + |middle - first| := abs_add_le _ _
        _ ≤ (rest.length + 1) • drift + drift := add_le_add remaining firstStep
        _ = ((middle :: rest).length + 1) • drift := by
          rw [List.length_cons, succ_nsmul (drift) (rest.length + 1)]

end Drift

end Hysteresis
