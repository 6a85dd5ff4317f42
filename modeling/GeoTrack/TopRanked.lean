import Mathlib.Data.List.Sort

/-!
# The first items of a ranking

A list kept in the order of a relation and cut to a number of items after
every insertion holds the first items of everything that was ever inserted:
what the cut removes cannot come back, because whatever pushed it out stays
before it.
-/

namespace TopRanked

variable {α : Type*} (r : α → α → Prop) [DecidableRel r]

/-- The first `count` items in the order of `r`. -/
def top (count : ℕ) (items : List α) : List α := (items.insertionSort r).take count

variable {r}

theorem top_of_pairwise {count : ℕ} {items : List α} (sorted : items.Pairwise r) :
    top r count items = items.take count := by
  rw [top, sorted.insertionSort_eq]

/-- Cutting before an insertion changes nothing that the cut after it leaves. -/
theorem take_orderedInsert_take (item : α) (items : List α) (count : ℕ) :
    ((items.take count).orderedInsert r item).take count =
      (items.orderedInsert r item).take count := by
  induction items generalizing count with
  | nil => simp
  | cons other rest ih =>
      cases count with
      | zero => rfl
      | succ count =>
          rw [List.take_succ_cons, List.orderedInsert_cons, List.orderedInsert_cons]
          split
          case isTrue => cases count <;> simp [List.take_take]
          case isFalse => rw [List.take_succ_cons, List.take_succ_cons, ih]

/-- An insertion behind a full list changes nothing that the cut leaves. -/
theorem take_orderedInsert_of_before {item : α} {items : List α} {count : ℕ}
    (before : ∀ other ∈ items.take count, ¬r item other) (full : count ≤ items.length) :
    (items.orderedInsert r item).take count = items.take count := by
  induction items generalizing count with
  | nil =>
      obtain rfl : count = 0 := Nat.le_zero.mp full
      rfl
  | cons other rest ih =>
      cases count with
      | zero => rfl
      | succ count =>
          rw [List.take_succ_cons, List.forall_mem_cons] at before
          rw [List.orderedInsert_of_not_le r _ before.1, List.take_succ_cons,
            List.take_succ_cons, ih before.2 (Nat.le_of_succ_le_succ full)]

theorem top_cons (item : α) (items : List α) (count : ℕ) :
    top r count (item :: items) = ((top r count items).orderedInsert r item).take count :=
  (take_orderedInsert_take item (items.insertionSort r) count).symm

/-- Items before two lists with the same first items. -/
theorem top_append_congr {count : ℕ} {items others : List α}
    (same : top r count items = top r count others) (front : List α) :
    top r count (front ++ items) = top r count (front ++ others) := by
  induction front with
  | nil => exact same
  | cons item rest ih => rw [List.cons_append, List.cons_append, top_cons, top_cons, ih]

/-- Sorting what was already cut loses nothing more. -/
theorem top_take {count : ℕ} {items : List α} (sorted : items.Pairwise r) :
    top r count (items.take count) = items.take count := by
  rw [top_of_pairwise (sorted.sublist (List.take_sublist _ _)), List.take_take, min_self]

/-- An insertion at the place where the order changes sides. -/
theorem orderedInsert_append {item : α} {first second : List α}
    (before : ∀ other ∈ first, ¬r item other) (after : ∀ other ∈ second, r item other) :
    (first ++ second).orderedInsert r item = first ++ item :: second := by
  induction first with
  | nil =>
      cases second with
      | nil => rfl
      | cons other rest => exact List.orderedInsert_cons_of_le r rest (after other (by simp))
  | cons other rest ih =>
      rw [List.forall_mem_cons] at before
      rw [List.cons_append, List.orderedInsert_of_not_le r _ before.1, ih before.2]
      rfl

/-- A sorted list whose items the order tells apart is what sorting any
arrangement of it gives. -/
theorem top_of_perm [IsTrans α r] [Std.Total r] {count : ℕ} {items sorted : List α}
    (arranged : items.Perm sorted) (inOrder : sorted.Pairwise r)
    (apart : ∀ first ∈ sorted, ∀ second ∈ sorted, r first second → r second first →
      first = second) :
    top r count items = sorted.take count := by
  have sameItems : (items.insertionSort r).Perm sorted :=
    (List.perm_insertionSort r items).trans arranged
  have same : items.insertionSort r = sorted := by
    refine sameItems.eq_of_pairwise ?_ (List.pairwise_insertionSort r items) inOrder
    intro first second isFirst isSecond
    exact apart first (sameItems.mem_iff.mp isFirst) second isSecond
  rw [top, same]

end TopRanked
