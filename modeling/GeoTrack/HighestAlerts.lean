import GeoTrack.BoundedAlertLog
import Mathlib.Data.Finset.Sort

/-!
# The alerts with the highest numbers

A log is added to one alert at a time or several at once, in any order of the
numbers and with any repetitions, and is cleared now and then.  Since it was
cleared last it has kept the alerts with the highest numbers of those added,
as many as fit: an evicted alert that is offered again goes to the very end
and is evicted at once.
-/

namespace GeoTrack

namespace AlertLog

/-- Forget everything. -/
def clear (log : AlertLog) : AlertLog :=
  { log with items := [], ids := ∅, lastId := none }

/-- A call on a log. -/
inductive Call where
  | add (alert : AlertOut)
  | addMany (alerts : List AlertOut)
  | clear

/-- What a call does to a log of some capacity. -/
def perform (capacity : ℕ) (log : AlertLog) : Call → AlertLog
  | .add alert => (log.addWithin capacity alert).1
  | .addMany alerts => (log.addManyWithin capacity alerts).1
  | .clear => log.clear

/-- What has been offered since the log was cleared, after one more call. -/
def offer (offered : List AlertOut) : Call → List AlertOut
  | .add alert => offered ++ [alert]
  | .addMany alerts => offered ++ alerts
  | .clear => []

/-- The log after a series of calls on an empty one. -/
def performAll (capacity : ℕ) (calls : List Call) : AlertLog :=
  calls.foldl (perform capacity) empty

/-- The alerts offered by a series of calls since the log was cleared last. -/
def offeredSinceClear (calls : List Call) : List AlertOut :=
  calls.foldl offer []

/-- The highest numbers of a set in falling order, as many as fit. -/
def highest (capacity : ℕ) (ids : Finset ℕ) : List ℕ :=
  (ids.sort (· ≥ ·)).take capacity

section Numbers

variable {capacity id : ℕ} {ids : Finset ℕ}

theorem sort_insert_eq_orderedInsert (new : id ∉ ids) :
    (insert id ids).sort (· ≥ ·) = (ids.sort (· ≥ ·)).orderedInsert (· ≥ ·) id := by
  have sorted : ((ids.sort (· ≥ ·)).orderedInsert (· ≥ ·) id).Pairwise (· ≥ ·) :=
    (ids.pairwise_sort (· ≥ ·)).orderedInsert id _
  refine List.Perm.eq_of_pairwise (fun first second _ _ => ge_antisymm)
    (Finset.pairwise_sort _ _) sorted ?_
  refine (List.perm_ext_iff_of_nodup (Finset.sort_nodup _ _) ?_).mpr fun other => ?_
  · rw [(List.perm_orderedInsert _ _ _).nodup_iff, List.nodup_cons, Finset.mem_sort]
    exact ⟨new, Finset.sort_nodup _ _⟩
  · rw [Finset.mem_sort, Finset.mem_insert, List.mem_orderedInsert, Finset.mem_sort]

/-- A number that is not among the highest is put into its place and cut off
again, or was not in the set. -/
theorem highest_insert (missing : id ∉ highest capacity ids) :
    highest capacity (insert id ids) =
      ((highest capacity ids).orderedInsert (· ≥ ·) id).take capacity := by
  rw [highest, highest, TopRanked.take_orderedInsert_take]
  by_cases new : id ∈ ids
  · have whole := List.take_append_drop capacity (ids.sort (· ≥ ·))
    have dropped : id ∈ (ids.sort (· ≥ ·)).drop capacity := by
      have listed : id ∈ ids.sort (· ≥ ·) := (Finset.mem_sort _).mpr new
      rw [← whole] at listed
      exact (List.mem_append.mp listed).resolve_left missing
    have falling : (ids.sort (· ≥ ·)).Pairwise (· > ·) := ids.sortedGT_sort.pairwise
    rw [← whole, List.pairwise_append] at falling
    have above : ∀ other ∈ (ids.sort (· ≥ ·)).take capacity, ¬ id ≥ other :=
      fun other listed => not_le.mpr (falling.2.2 other listed id dropped)
    have full : capacity ≤ (ids.sort (· ≥ ·)).length := by
      by_contra short
      rw [List.drop_of_length_le (by omega)] at dropped
      exact List.not_mem_nil dropped
    rw [Finset.insert_eq_of_mem new, TopRanked.take_orderedInsert_of_before above full]
  · rw [sort_insert_eq_orderedInsert new]

theorem raiseLastId_max? (ids : List ℕ) (id : ℕ) :
    raiseLastId ids.max? id = (ids ++ [id]).max? := by
  cases greatest : ids.max? with
  | none =>
      obtain rfl := List.max?_eq_none_iff.mp greatest
      rfl
  | some known =>
      obtain ⟨listed, atMost⟩ := List.max?_eq_some_iff.mp greatest
      symm
      change _ = if id > known then some id else some known
      split
      case isTrue higher =>
          refine List.max?_eq_some_iff.mpr ⟨by simp, fun other member => ?_⟩
          rcases List.mem_append.mp member with old | new
          · exact (atMost other old).trans higher.le
          · exact (List.mem_singleton.mp new).le
      case isFalse notHigher =>
          refine List.max?_eq_some_iff.mpr ⟨List.mem_append_left _ listed, fun other member => ?_⟩
          rcases List.mem_append.mp member with old | new
          · exact atMost other old
          · rw [List.mem_singleton.mp new]
            exact not_lt.mp notHigher

theorem max?_concat_of_mem {ids : List ℕ} (known : id ∈ ids) : (ids ++ [id]).max? = ids.max? := by
  apply Option.ext
  intro greatest
  rw [List.max?_eq_some_iff, List.max?_eq_some_iff]
  have sameMembers : ∀ other, other ∈ ids ++ [id] ↔ other ∈ ids := by
    intro other
    rw [List.mem_append, List.mem_singleton, or_iff_left_iff_imp]
    rintro rfl
    exact known
  simp only [sameMembers]

end Numbers

/-- The log holds the highest numbers of the alerts offered, each with the
alert that was offered first under it. -/
structure HoldsHighest (capacity : ℕ) (offered : List AlertOut) (log : AlertLog) : Prop where
  bounded : Bounded capacity log
  numbers : log.items.map AlertOut.id = highest capacity (offered.map AlertOut.id).toFinset
  firsts : ∀ item ∈ log.items, offered.find? (fun alert => alert.id = item.id) = some item
  last : log.lastId = (offered.map AlertOut.id).max?

section Calls

variable {capacity : ℕ} {offered : List AlertOut} {log : AlertLog}

theorem holdsHighest_empty (capacity : ℕ) : HoldsHighest capacity [] empty where
  bounded := bounded_empty capacity
  numbers := by simp [empty, highest]
  firsts := fun item listed => by simp [empty] at listed
  last := rfl

theorem toFinset_concat (offered : List AlertOut) (alert : AlertOut) :
    ((offered ++ [alert]).map AlertOut.id).toFinset =
      insert alert.id (offered.map AlertOut.id).toFinset := by
  ext id
  simp

theorem map_id_orderedInsert (items : List AlertOut) (alert : AlertOut) :
    (items.orderedInsert NewerFirst alert).map AlertOut.id =
      (items.map AlertOut.id).orderedInsert (· ≥ ·) alert.id :=
  List.map_orderedInsert _ _ AlertOut.id items alert (fun _ _ => Iff.rfl) fun _ _ => Iff.rfl

theorem HoldsHighest.add (holds : HoldsHighest capacity offered log) (alert : AlertOut) :
    HoldsHighest capacity (offered ++ [alert]) (log.addWithin capacity alert).1 := by
  obtain ⟨bounded, numbers, firsts, last⟩ := holds
  by_cases held : alert.id ∈ log.ids
  · rw [addWithin_held held]
    have known : alert.id ∈ offered.map AlertOut.id := by
      have listed := (bounded.ids _).mp held
      rw [numbers] at listed
      exact List.mem_toFinset.mp ((Finset.mem_sort _).mp (List.mem_of_mem_take listed))
    refine ⟨bounded, ?_, fun item listed => ?_, ?_⟩
    · rw [toFinset_concat, Finset.insert_eq_of_mem (List.mem_toFinset.mpr known), numbers]
    · rw [List.find?_append, firsts item listed, Option.some_or]
    · rw [List.map_append, List.map_singleton, max?_concat_of_mem known, last]
  · obtain ⟨stillBounded, items⟩ := bounded.addWithin_new held
    have missing : alert.id ∉ highest capacity (offered.map AlertOut.id).toFinset := by
      rw [← numbers, ← bounded.ids]
      exact held
    have nextNumbers : (log.addWithin capacity alert).1.items.map AlertOut.id =
        highest capacity ((offered ++ [alert]).map AlertOut.id).toFinset := by
      rw [toFinset_concat, highest_insert missing, ← numbers, items, List.map_take,
        map_id_orderedInsert]
    refine ⟨stillBounded, nextNumbers, fun item listed => ?_, ?_⟩
    · have placed := listed
      rw [items] at placed
      rcases (List.mem_orderedInsert _).mp (List.mem_of_mem_take placed) with rfl | old
      · -- An alert that was offered before is among the highest only if it was held.
        have new : item.id ∉ offered.map AlertOut.id := by
          intro known
          apply missing
          rw [toFinset_concat, Finset.insert_eq_of_mem (List.mem_toFinset.mpr known)] at nextNumbers
          rw [← nextNumbers]
          exact List.mem_map_of_mem listed
        have unseen : offered.find? (fun alert => alert.id = item.id) = none := by
          rw [List.find?_eq_none]
          intro other known same
          exact new (List.mem_map.mpr ⟨other, known, by simpa using same⟩)
        simp [List.find?_append, unseen]
      · rw [List.find?_append, firsts item old, Option.some_or]
    · rw [addWithin_lastId held, last, raiseLastId_max?, List.map_append, List.map_singleton]

theorem HoldsHighest.addMany (holds : HoldsHighest capacity offered log)
    (alerts : List AlertOut) :
    HoldsHighest capacity (offered ++ alerts) (log.addManyWithin capacity alerts).1 := by
  induction alerts generalizing offered log with
  | nil => rwa [List.append_nil]
  | cons alert rest ih =>
      rw [addManyWithin_cons, List.append_cons]
      exact ih (holds.add alert)

theorem HoldsHighest.perform (holds : HoldsHighest capacity offered log) (call : Call) :
    HoldsHighest capacity (offer offered call) (log.perform capacity call) := by
  cases call with
  | add alert => exact holds.add alert
  | addMany alerts => exact holds.addMany alerts
  | clear => exact holdsHighest_empty capacity

theorem HoldsHighest.performAll (holds : HoldsHighest capacity offered log) (calls : List Call) :
    HoldsHighest capacity (calls.foldl offer offered)
      (calls.foldl (AlertLog.perform capacity) log) := by
  induction calls generalizing offered log with
  | nil => exact holds
  | cons call rest ih => exact ih (holds.perform call)

/-- After any series of calls the log holds the highest numbers offered since
it was cleared last: newest first, as many as fit, each with the alert that was
offered first under it, and it knows the highest number of all. -/
theorem performAll_holds_highest (capacity : ℕ) (calls : List Call) :
    (performAll capacity calls).items.map AlertOut.id =
        highest capacity ((offeredSinceClear calls).map AlertOut.id).toFinset ∧
      Falling (performAll capacity calls).items ∧
      (∀ item ∈ (performAll capacity calls).items,
        (offeredSinceClear calls).find? (fun alert => alert.id = item.id) = some item) ∧
      (∀ id, id ∈ (performAll capacity calls).ids ↔
        id ∈ (performAll capacity calls).items.map AlertOut.id) ∧
      (performAll capacity calls).lastId = ((offeredSinceClear calls).map AlertOut.id).max? := by
  obtain ⟨bounded, numbers, firsts, last⟩ := (holdsHighest_empty capacity).performAll calls
  exact ⟨numbers, bounded.falling, firsts, bounded.ids, last⟩

end Calls

end AlertLog

end GeoTrack
