import Mathlib.Data.List.Sort
import Mathlib.Data.Nat.ModEq

/-!
# The fair share of a replica

A replica plans from its own shards and the number of live replicas alone.
Above its share it hands back its highest shards; below, it offers every shard
it does not hold, in an order of its own.
-/

namespace GeoTrack

/-- What a replica should do about its ownership. -/
structure RebalancePlan where
  live : ℕ
  target : ℕ
  /-- In the order in which to try them. -/
  candidates : List ℕ
  release : List ℕ
deriving DecidableEq

/-- The share of each of `live` replicas, rounded up.  The settings allow at
most 256 shards, for which `math.ceil` of the quotient is exact. -/
def fairShare (shards live : ℕ) : ℕ := (shards + live - 1) / live

/-- All shards, starting from the rotation. -/
def rotated (shards offset : ℕ) : List ℕ :=
  (List.range shards).map fun step => (offset % shards + step) % shards

def fairSharePlan (shards : ℕ) (owned : List ℕ) (live offset : ℕ) : RebalancePlan :=
  let live := max live 1
  let target := fairShare shards live
  if owned.length > target then
    { live := live
      target := target
      candidates := []
      release := (owned.insertionSort (· ≥ ·)).take (owned.length - target) }
  else
    { live := live
      target := target
      candidates := if owned.length < target then
          (rotated shards offset).filter fun shard => shard ∉ owned
        else
          []
      release := [] }

theorem le_mul_fairShare (shards : ℕ) {live : ℕ} (positive : 0 < live) :
    shards ≤ live * fairShare shards live := by
  have division := Nat.div_add_mod (shards + live - 1) live
  have remainder := Nat.mod_lt (shards + live - 1) positive
  rw [fairShare]
  omega

theorem nodup_rotated (shards offset : ℕ) : (rotated shards offset).Nodup := by
  refine List.Nodup.map_on ?_ List.nodup_range
  intro first isFirst second isSecond same
  rw [List.mem_range] at isFirst isSecond
  have congruent : first ≡ second [MOD shards] := Nat.ModEq.add_left_cancel' _ same
  exact congruent.eq_of_lt_of_lt isFirst isSecond

theorem mem_rotated {shards offset shard : ℕ} :
    shard ∈ rotated shards offset ↔ shard < shards := by
  have inRange : rotated shards offset ⊆ List.range shards := by
    intro other listed
    obtain ⟨step, isStep, rfl⟩ := List.mem_map.mp listed
    rw [List.mem_range] at isStep ⊢
    exact Nat.mod_lt _ (by omega)
  have sameLength : (List.range shards).length ≤ (rotated shards offset).length := by
    simp [rotated]
  have perm :=
    (List.subperm_of_subset (nodup_rotated shards offset) inRange).perm_of_length_le sameLength
  rw [perm.mem_iff, List.mem_range]

section Plans

variable {shards live offset : ℕ} {owned : List ℕ}

theorem fairSharePlan_target :
    (fairSharePlan shards owned live offset).target = fairShare shards (max live 1) := by
  unfold fairSharePlan
  dsimp only
  split <;> rfl

/-- A plan hands back as many of the replica's shards as it has too many. -/
theorem fairSharePlan_release (distinct : owned.Nodup) :
    (fairSharePlan shards owned live offset).release.Nodup ∧
      (fairSharePlan shards owned live offset).release.length =
        owned.length - fairShare shards (max live 1) ∧
      ∀ shard ∈ (fairSharePlan shards owned live offset).release, shard ∈ owned := by
  unfold fairSharePlan
  dsimp only
  split
  case isTrue surplus =>
      have sorted := List.perm_insertionSort (· ≥ ·) owned
      refine ⟨(List.take_sublist _ _).nodup (sorted.nodup_iff.mpr distinct), ?_, ?_⟩
      · rw [List.length_take, sorted.length_eq]
        omega
      · intro shard listed
        exact sorted.mem_iff.mp (List.mem_of_mem_take listed)
  case isFalse noSurplus =>
      refine ⟨List.nodup_nil, ?_, by simp⟩
      rw [List.length_nil]
      omega

theorem nodup_candidates : (fairSharePlan shards owned live offset).candidates.Nodup := by
  unfold fairSharePlan
  dsimp only
  split
  case isTrue => exact List.nodup_nil
  case isFalse =>
      split
      case isTrue => exact (nodup_rotated shards offset).filter _
      case isFalse => exact List.nodup_nil

/-- As long as the share is not full, a plan offers every shard the replica does
not hold. -/
theorem mem_candidates {shard : ℕ} :
    shard ∈ (fairSharePlan shards owned live offset).candidates ↔
      owned.length < fairShare shards (max live 1) ∧ shard < shards ∧ shard ∉ owned := by
  unfold fairSharePlan
  dsimp only
  split
  case isTrue surplus =>
      simp only [List.not_mem_nil, false_iff, not_and]
      omega
  case isFalse =>
      split
      case isTrue deficit => simp [mem_rotated, deficit]
      case isFalse enough => simp [enough]

end Plans

example : (fairSharePlan 8 [1, 2, 5, 7] 4 0).release = [7, 5] := by decide

end GeoTrack
