import Mathlib.Algebra.BigOperators.Ring.Finset
import Mathlib.Algebra.Order.BigOperators.Group.Finset
import Mathlib.Data.Finset.Card
import Mathlib.Data.Nat.Choose.Basic
import Mathlib.Tactic.Ring

/-!
# Uniform samples of a stream

The first items fill a sample.  Of every later item a number below the count of
the items so far is drawn, and the item takes that place of the sample if the
sample has it.

Every subset of the items that is as large as the sample comes from the same
number of draws.  The proof adds one item at a time: a subset without the new
item is kept by the draws behind the sample, a subset with it comes from each of
the samples that miss one other item, by the draw of that item's place.
-/

namespace AlgorithmR

variable {α β : Type*}

/-- The sample after more items, each with the number drawn for it. -/
def resample (sample : List α) (turns : List (α × ℕ)) : List α :=
  turns.foldl (fun current turn => current.set turn.2 turn.1) sample

@[simp]
theorem length_resample (sample : List α) (turns : List (α × ℕ)) :
    (resample sample turns).length = sample.length := by
  induction turns generalizing sample with
  | nil => rfl
  | cons turn rest ih => exact (ih _).trans (List.length_set ..)

/-- All draws for `later` items behind the first `size`. -/
def allDraws (size : ℕ) : ℕ → List (List ℕ)
  | 0 => [[]]
  | later + 1 => (allDraws size later).flatMap fun draws =>
      (List.range (size + later + 1)).map fun draw => draws ++ [draw]

/-- The numbers of the items that are in the sample after some draws. -/
def positions (size : ℕ) (draws : List ℕ) : List ℕ :=
  resample (List.range size) ((List.range' size draws.length).zip draws)

theorem positions_snoc (size : ℕ) (draws : List ℕ) (draw : ℕ) :
    positions size (draws ++ [draw]) = (positions size draws).set draw (size + draws.length) := by
  rw [positions, List.length_append, List.length_singleton, List.range'_concat, Nat.one_mul,
    List.zip_append (by simp), resample, List.foldl_append]
  rfl

section Samples

variable {size later : ℕ}

theorem length_of_mem_allDraws {draws : List ℕ} (listed : draws ∈ allDraws size later) :
    draws.length = later := by
  induction later generalizing draws with
  | zero => rw [List.mem_singleton.mp listed, List.length_nil]
  | succ later ih =>
      obtain ⟨earlier, isEarlier, inner⟩ := List.mem_flatMap.mp listed
      obtain ⟨draw, _, rfl⟩ := List.mem_map.mp inner
      rw [List.length_append, ih isEarlier, List.length_singleton]

theorem lt_of_mem_allDraws {draws : List ℕ} (listed : draws ∈ allDraws size later) (place : ℕ)
    (inside : place < draws.length) : draws[place] < size + place + 1 := by
  induction later generalizing draws with
  | zero =>
      rw [List.mem_singleton.mp listed] at inside
      exact absurd inside (Nat.not_lt_zero _)
  | succ later ih =>
      obtain ⟨earlier, isEarlier, inner⟩ := List.mem_flatMap.mp listed
      obtain ⟨draw, isDraw, rfl⟩ := List.mem_map.mp inner
      rw [List.getElem_append]
      split
      case isTrue early => exact ih isEarlier early
      case isFalse last =>
          have below := List.mem_range.mp isDraw
          rw [length_of_mem_allDraws isEarlier] at last
          rw [List.getElem_singleton]
          omega

/-- How many draws there are. -/
theorem length_allDraws : (allDraws size later).length = (size + 1).ascFactorial later := by
  induction later with
  | zero => rfl
  | succ later ih =>
      rw [allDraws, List.length_flatMap, Nat.ascFactorial_succ, ← ih]
      simp [Nat.mul_comm, Nat.add_right_comm]

theorem length_positions (draws : List ℕ) : (positions size draws).length = size := by
  rw [positions, length_resample, List.length_range]

theorem lt_of_mem_positions {draws : List ℕ} {item : ℕ} (listed : item ∈ positions size draws) :
    item < size + draws.length := by
  induction draws using List.reverseRecOn with
  | nil => simpa [positions, resample] using listed
  | append_singleton draws draw ih =>
      rw [positions_snoc] at listed
      rw [List.length_append, List.length_singleton]
      rcases List.mem_or_eq_of_mem_set listed with old | rfl
      · have := ih old
        omega
      · omega

/-- No item is in a sample twice. -/
theorem nodup_positions (draws : List ℕ) : (positions size draws).Nodup := by
  induction draws using List.reverseRecOn with
  | nil => simpa [positions, resample] using List.nodup_range
  | append_singleton draws draw ih =>
      rw [positions_snoc]
      refine ih.set fun again => ?_
      exact absurd (lt_of_mem_positions again) (lt_irrefl _)

/-- The items of a sample in which one place was taken. -/
theorem toFinset_set {sample : List ℕ} (distinct : sample.Nodup) {item draw : ℕ}
    (inside : draw < sample.length) :
    (sample.set draw item).toFinset = insert item (sample.toFinset.erase sample[draw]) := by
  rw [List.set_eq_take_cons_drop item inside]
  have whole : sample = sample.take draw ++ sample[draw] :: sample.drop (draw + 1) := by
    rw [← List.drop_eq_getElem_cons inside, List.take_append_drop]
  generalize sample[draw] = gone at whole
  generalize sample.take draw = front at whole ⊢
  generalize sample.drop (draw + 1) = back at whole ⊢
  subst whole
  have apart := (List.nodup_middle.mp distinct).notMem
  rw [List.mem_append, not_or] at apart
  ext other
  simp only [List.toFinset_append, List.toFinset_cons, Finset.mem_union, Finset.mem_insert,
    Finset.mem_erase, List.mem_toFinset]
  constructor
  · rintro (early | rfl | late)
    · exact Or.inr ⟨fun same => apart.1 (same ▸ early), Or.inl early⟩
    · exact Or.inl rfl
    · exact Or.inr ⟨fun same => apart.2 (same ▸ late), Or.inr (Or.inr late)⟩
  · rintro (rfl | ⟨differs, early | rfl | late⟩)
    · exact Or.inr (Or.inl rfl)
    · exact Or.inl early
    · exact absurd rfl differs
    · exact Or.inr (Or.inr late)

theorem sum_map_ite (samples : List β) (chosen : β → Prop) [DecidablePred chosen] (count : ℕ) :
    (samples.map fun sample => if chosen sample then count else 0).sum =
      count * samples.countP fun sample => decide (chosen sample) := by
  induction samples with
  | nil => rfl
  | cons sample samples ih =>
      rw [List.map_cons, List.sum_cons, ih, List.countP_cons]
      by_cases isChosen : chosen sample
      · simp [isChosen, Nat.mul_add, Nat.add_comm]
      · simp [isChosen]

/-- The draws that keep a sample which does not take the new item. -/
theorem countP_keeping {sample : List ℕ} {count item : ℕ} {subset : Finset ℕ}
    (absent : item ∉ subset) (bound : sample.length ≤ count) :
    (List.range count).countP (fun draw => decide ((sample.set draw item).toFinset = subset)) =
      if sample.toFinset = subset then count - sample.length else 0 := by
  have keeps : ∀ draw, (sample.set draw item).toFinset = subset ↔
      sample.length ≤ draw ∧ sample.toFinset = subset := by
    intro draw
    rcases lt_or_ge draw sample.length with inside | outside
    · have taken : item ∈ (sample.set draw item).toFinset :=
        List.mem_toFinset.mpr (List.mem_set inside item)
      constructor
      · rintro rfl
        exact absurd taken absent
      · rintro ⟨behind, _⟩
        omega
    · rw [List.set_eq_of_length_le outside]
      exact ⟨fun same => ⟨outside, same⟩, And.right⟩
  simp only [keeps]
  split
  case isTrue same =>
      have split := @List.range'_append_1 0 sample.length (count - sample.length)
      rw [Nat.zero_add, Nat.add_sub_cancel' bound, ← List.range_eq_range',
        ← List.range_eq_range'] at split
      rw [← split, List.countP_append, List.countP_eq_zero.mpr, List.countP_eq_length.mpr,
        List.length_range', Nat.zero_add]
      · intro draw listed
        rw [List.mem_range'_1] at listed
        simp [listed.1, same]
      · intro draw listed
        rw [List.mem_range] at listed
        simp [not_le.mpr listed]
  case isFalse differs => simp [differs]

/-- The draws that make a sample one with the new item: if the rest of the subset
is there, the place of the one other item. -/
theorem countP_taking {sample : List ℕ} {count item : ℕ} {subset : Finset ℕ}
    (distinct : sample.Nodup) (new : item ∉ sample) (bound : sample.length ≤ count)
    (member : item ∈ subset) (card : subset.card = sample.length) :
    (List.range count).countP (fun draw => decide ((sample.set draw item).toFinset = subset)) =
      if subset.erase item ⊆ sample.toFinset then 1 else 0 := by
  have newSet : item ∉ sample.toFinset := fun listed => new (List.mem_toFinset.mp listed)
  have size : sample.toFinset.card = sample.length := List.toFinset_card_of_nodup distinct
  have rest : (subset.erase item).card + 1 = sample.toFinset.card := by
    rw [Finset.card_erase_add_one member, card, size]
  have takes : ∀ draw (inside : draw < sample.length),
      (sample.set draw item).toFinset = subset ↔
        sample.toFinset.erase sample[draw] = subset.erase item := by
    intro draw inside
    rw [toFinset_set distinct inside]
    constructor
    · rintro rfl
      rw [Finset.erase_insert fun again => newSet (Finset.mem_of_mem_erase again)]
    · intro same
      rw [same, Finset.insert_erase member]
  have misses : ∀ draw, sample.length ≤ draw → (sample.set draw item).toFinset ≠ subset := by
    rintro draw outside rfl
    rw [List.set_eq_of_length_le outside] at member
    exact newSet member
  split
  case isTrue inside =>
      obtain ⟨other, missing⟩ : ∃ other, sample.toFinset \ subset.erase item = {other} := by
        rw [← Finset.card_eq_one, Finset.card_sdiff_of_subset inside]
        omega
      have isOther : other ∈ sample.toFinset \ subset.erase item := by
        rw [missing]
        exact Finset.mem_singleton_self other
      obtain ⟨there, notIn⟩ := Finset.mem_sdiff.mp isOther
      obtain ⟨place, isPlace, atPlace⟩ := List.getElem_of_mem (List.mem_toFinset.mp there)
      have only : ∀ draw ∈ List.range count,
          decide ((sample.set draw item).toFinset = subset) = true ↔ (draw == place) = true := by
        intro draw _
        rw [decide_eq_true_eq, beq_iff_eq]
        constructor
        · intro same
          have inner : draw < sample.length := by
            by_contra behind
            exact misses draw (not_lt.mp behind) same
          have gone : sample[draw] ∈ sample.toFinset \ subset.erase item := by
            rw [← (takes draw inner).mp same]
            simp
          rw [missing, Finset.mem_singleton, ← atPlace] at gone
          exact distinct.getElem_inj_iff.mp gone
        · rintro rfl
          rw [takes draw isPlace, atPlace, Finset.erase_eq, ← missing,
            Finset.sdiff_sdiff_eq_self inside]
      rw [List.countP_congr only]
      exact List.count_eq_one_of_mem List.nodup_range (List.mem_range.mpr (by omega))
  case isFalse outside =>
      rw [List.countP_eq_zero]
      intro draw _
      rw [decide_eq_true_eq]
      rcases lt_or_ge draw sample.length with isPlace | behind
      · rw [takes draw isPlace]
        intro same
        exact outside (same ▸ Finset.erase_subset _ _)
      · exact misses draw behind

/-- A sample covers all but one place of a subset when it is one of the samples
with one more item. -/
theorem countP_covering {samples : List β} {items : β → Finset ℕ} {count : ℕ} {rest : Finset ℕ}
    (known : ∀ sample ∈ samples, items sample ⊆ Finset.range count)
    (larger : ∀ sample ∈ samples, (items sample).card = rest.card + 1) :
    samples.countP (fun sample => decide (rest ⊆ items sample)) =
      ∑ other ∈ Finset.range count \ rest,
        samples.countP fun sample => decide (items sample = insert other rest) := by
  induction samples with
  | nil => simp
  | cons sample samples ih =>
      simp only [List.countP_cons, Finset.sum_add_distrib]
      rw [ih (fun other listed => known other (List.mem_cons_of_mem _ listed))
        fun other listed => larger other (List.mem_cons_of_mem _ listed)]
      congr 1
      have inside := known sample List.mem_cons_self
      have size := larger sample List.mem_cons_self
      simp only [decide_eq_true_eq]
      split
      case isTrue covered =>
          obtain ⟨other, missing⟩ : ∃ other, items sample \ rest = {other} := by
            rw [← Finset.card_eq_one, Finset.card_sdiff_of_subset covered]
            omega
          have isOther : other ∈ items sample \ rest := by
            rw [missing]
            exact Finset.mem_singleton_self other
          obtain ⟨there, notIn⟩ := Finset.mem_sdiff.mp isOther
          have made : items sample = insert other rest := by
            rw [Finset.insert_eq, ← missing, Finset.sdiff_union_of_subset covered]
          rw [Finset.sum_eq_single other, if_pos made]
          · intro third _ differs
            rw [if_neg]
            intro same
            have shared : third ∈ insert other rest := by
              rw [← made, same]
              exact Finset.mem_insert_self third rest
            rcases Finset.mem_insert.mp shared with same' | old
            · exact differs same'
            · rw [same, Finset.insert_eq_of_mem old] at size
              omega
          · intro outside
            exact absurd (Finset.mem_sdiff.mpr ⟨inside there, notIn⟩) outside
      case isFalse uncovered =>
          symm
          refine Finset.sum_eq_zero fun other _ => if_neg fun same => uncovered ?_
          rw [same]
          exact Finset.subset_insert other rest

/-- The draws of a subset, by the sample before the last item. -/
theorem countP_allDraws_succ (subset : Finset ℕ) :
    (allDraws size (later + 1)).countP
        (fun draws => decide ((positions size draws).toFinset = subset)) =
      ((allDraws size later).map fun draws => (List.range (size + later + 1)).countP fun draw =>
        decide (((positions size draws).set draw (size + later)).toFinset = subset)).sum := by
  rw [allDraws, List.countP_flatMap]
  congr 1
  refine List.map_congr_left fun draws listed => ?_
  rw [Function.comp_apply, List.countP_map]
  refine List.countP_congr fun draw _ => ?_
  rw [Function.comp_apply, positions_snoc, length_of_mem_allDraws listed]

theorem toFinset_positions_subset {draws : List ℕ} (listed : draws ∈ allDraws size later) :
    (positions size draws).toFinset ⊆ Finset.range (size + later) := by
  intro item member
  have below := lt_of_mem_positions (List.mem_toFinset.mp member)
  rw [length_of_mem_allDraws listed] at below
  exact Finset.mem_range.mpr below

theorem card_positions (draws : List ℕ) : (positions size draws).toFinset.card = size := by
  rw [List.toFinset_card_of_nodup (nodup_positions draws), length_positions]

/-- Every subset of the items that is as large as the sample comes from as many
draws as every other. -/
theorem countP_positions {subset : Finset ℕ} (known : subset ⊆ Finset.range (size + later))
    (card : subset.card = size) :
    (allDraws size later).countP (fun draws =>
      decide ((positions size draws).toFinset = subset)) = later.factorial := by
  induction later generalizing subset with
  | zero =>
      have all : subset = Finset.range size := by
        refine Finset.eq_of_subset_of_card_le known ?_
        rw [card, Finset.card_range]
      have first : (List.range size).toFinset = Finset.range size := by
        ext item
        rw [List.mem_toFinset, List.mem_range, Finset.mem_range]
      simp [allDraws, positions, resample, all, first]
  | succ later ih =>
      rw [countP_allDraws_succ]
      have short : ∀ draws, (positions size draws).length ≤ size + later + 1 := by
        intro draws
        rw [length_positions]
        omega
      by_cases member : size + later ∈ subset
      case pos =>
          -- A sample that lacks one other item becomes the subset by one draw.
          have restCard : (subset.erase (size + later)).card + 1 = size := by
            rw [Finset.card_erase_add_one member, card]
          have restKnown : subset.erase (size + later) ⊆ Finset.range (size + later) := by
            intro item listed
            obtain ⟨differs, old⟩ := Finset.mem_erase.mp listed
            have below := Finset.mem_range.mp (known old)
            rw [Finset.mem_range]
            omega
          have one : ∀ draws ∈ allDraws size later,
              (List.range (size + later + 1)).countP (fun draw =>
                  decide (((positions size draws).set draw (size + later)).toFinset = subset)) =
                if subset.erase (size + later) ⊆ (positions size draws).toFinset
                  then 1 else 0 := by
            intro draws listed
            refine countP_taking (nodup_positions draws) ?_ (short draws) member ?_
            · intro again
              have below := toFinset_positions_subset listed (List.mem_toFinset.mpr again)
              exact absurd (Finset.mem_range.mp below) (lt_irrefl _)
            · rw [card, length_positions]
          rw [List.map_congr_left one, sum_map_ite, Nat.one_mul,
            countP_covering (fun draws listed => toFinset_positions_subset listed)
              fun draws _ => (card_positions draws).trans restCard.symm,
            Finset.sum_congr rfl fun other listed => ?_]
          · rw [Finset.sum_const, Finset.card_sdiff_of_subset restKnown, Finset.card_range,
              nsmul_eq_mul, Nat.cast_id, Nat.factorial_succ]
            congr 1
            omega
          · obtain ⟨isKnown, outside⟩ := Finset.mem_sdiff.mp listed
            refine ih (Finset.insert_subset isKnown restKnown) ?_
            rw [Finset.card_insert_of_notMem outside, restCard]
      case neg =>
          -- A sample stays the subset by every draw behind it.
          have stay : ∀ draws ∈ allDraws size later,
              (List.range (size + later + 1)).countP (fun draw =>
                  decide (((positions size draws).set draw (size + later)).toFinset = subset)) =
                if (positions size draws).toFinset = subset then later + 1 else 0 := by
            intro draws _
            rw [countP_keeping member (short draws), length_positions]
            congr 1
            omega
          rw [List.map_congr_left stay, sum_map_ite, ih ?_ card, Nat.factorial_succ]
          intro item listed
          have below := Finset.mem_range.mp (known listed)
          have differs : item ≠ size + later := fun same => member (same ▸ listed)
          rw [Finset.mem_range]
          omega

/-- As many as there are subsets of that size, each from as many draws. -/
theorem countP_mul_choose {subset : Finset ℕ} (known : subset ⊆ Finset.range (size + later))
    (card : subset.card = size) :
    (allDraws size later).countP (fun draws => decide ((positions size draws).toFinset = subset)) *
      (size + later).choose size = (allDraws size later).length := by
  rw [countP_positions known card, length_allDraws]
  have each := Nat.add_choose_mul_factorial_mul_factorial size later
  have every := Nat.factorial_mul_ascFactorial size later
  refine Nat.eq_of_mul_eq_mul_left (Nat.factorial_pos size) ?_
  rw [every, ← each, Nat.choose_symm_add]
  ring

end Samples

end AlgorithmR
