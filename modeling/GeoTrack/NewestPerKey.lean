import GeoTrack.OrderedDict
import Mathlib.Data.List.MinMax
import Mathlib.Data.List.Induction

/-!
# The newest item of each key

A list of stamped items is folded into a dictionary that holds one item per
key: an item replaces the one held only when its stamp is strictly greater.
The dictionary then holds, for each key, the first of the items with the
greatest stamp, its keys stand in order of first appearance, and folding its
values again gives the dictionary back.
-/

namespace NewestPerKey

variable {α κ τ : Type} [LinearOrder τ]

section Greatest

variable {stamp : α → τ}

theorem exists_split_of_argmax {items : List α} {kept : α}
    (chosen : items.argmax stamp = some kept) :
    ∃ before after, items = before ++ kept :: after ∧
      (∀ item ∈ before, stamp item < stamp kept) ∧ ∀ item ∈ after, stamp item ≤ stamp kept := by
  induction items using List.reverseRecOn generalizing kept with
  | nil => simp at chosen
  | append_singleton items last ih =>
      rw [List.argmax_concat] at chosen
      cases greatest : items.argmax stamp with
      | none =>
          obtain rfl := List.argmax_eq_none.mp greatest
          obtain rfl := Option.some.inj chosen
          exact ⟨[], [], rfl, by simp, by simp⟩
      | some current =>
          simp only [greatest] at chosen
          split at chosen
          case isTrue later =>
              obtain rfl := Option.some.inj chosen
              exact ⟨items, [], rfl, fun item listed =>
                (List.le_of_mem_argmax listed greatest).trans_lt later, by simp⟩
          case isFalse notLater =>
              obtain rfl := Option.some.inj chosen
              obtain ⟨before, after, rfl, below, atMost⟩ := ih greatest
              refine ⟨before, after ++ [last], by simp, below, fun item listed => ?_⟩
              rcases List.mem_append.mp listed with known | isLast
              · exact atMost item known
              · rw [List.mem_singleton.mp isLast]
                exact not_lt.mp notLater

theorem argmax_of_split {before after : List α} {kept : α}
    (below : ∀ item ∈ before, stamp item < stamp kept)
    (atMost : ∀ item ∈ after, stamp item ≤ stamp kept) :
    (before ++ kept :: after).argmax stamp = some kept := by
  induction after using List.reverseRecOn with
  | nil =>
      rw [List.argmax_concat]
      cases greatest : before.argmax stamp with
      | none => rfl
      | some current => exact if_pos (below current (List.argmax_mem greatest))
  | append_singleton after last ih =>
      have known := ih fun item listed => atMost item (List.mem_append_left _ listed)
      rw [← List.cons_append, ← List.append_assoc, List.argmax_concat, known]
      exact if_neg (not_lt.mpr (atMost last (by simp)))

/-- The greatest of the items that pass a test, the first of them when several
tie, splits the whole list into smaller ones and ones that are not greater. -/
theorem argmax_filter_eq_some_iff {test : α → Bool} {items : List α} {kept : α} :
    (items.filter test).argmax stamp = some kept ↔
      test kept = true ∧ ∃ before after, items = before ++ kept :: after ∧
        (∀ item ∈ before, test item = true → stamp item < stamp kept) ∧
        ∀ item ∈ after, test item = true → stamp item ≤ stamp kept := by
  constructor
  · intro chosen
    have passes : test kept = true := (List.mem_filter.mp (List.argmax_mem chosen)).2
    obtain ⟨before, after, split, below, atMost⟩ := exists_split_of_argmax chosen
    obtain ⟨left, right, rfl, rfl, others⟩ := List.filter_eq_append_iff.mp split
    obtain ⟨skipped, rest, rfl, fails, -, rfl⟩ := List.filter_eq_cons_iff.mp others
    refine ⟨passes, left ++ skipped, rest, by simp, fun item listed passed => ?_,
      fun item listed passed => atMost item (List.mem_filter.mpr ⟨listed, passed⟩)⟩
    rcases List.mem_append.mp listed with early | skippedItem
    · exact below item (List.mem_filter.mpr ⟨early, passed⟩)
    · exact absurd passed (fails item skippedItem)
  · rintro ⟨passes, before, after, rfl, below, atMost⟩
    rw [List.filter_append, List.filter_cons_of_pos passes]
    apply argmax_of_split
    · intro item listed
      exact below item (List.mem_of_mem_filter listed) (List.mem_filter.mp listed).2
    · intro item listed
      exact atMost item (List.mem_of_mem_filter listed) (List.mem_filter.mp listed).2

/-- The first of the items with the greatest stamp. -/
def newest (stamp : α → τ) (items : List α) : Option α := items.argmax stamp

end Greatest

variable [DecidableEq κ] (key : α → κ) (stamp : α → τ)

/-- An item replaces the one held under its key only when it is newer. -/
def keep (newest : Dict κ α) (item : α) : Dict κ α :=
  match newest.get? (key item) with
  | none => newest.set (key item) item
  | some current =>
      if stamp current < stamp item then newest.set (key item) item else newest

/-- Fold a list of items into a dictionary. -/
def keepAll (newest : Dict κ α) (items : List α) : Dict κ α :=
  items.foldl (keep key stamp) newest

variable {key stamp}

/-- Every item is held under its own key. -/
def Keyed (key : α → κ) (newest : Dict κ α) : Prop :=
  ∀ entry ∈ newest.entries, key entry.2 = entry.1

omit [DecidableEq κ] in
theorem keyed_empty : Keyed key ∅ := by
  intro entry listed
  exact absurd listed List.not_mem_nil

theorem Keyed.set {newest : Dict κ α} (keyed : Keyed key newest) (item : α) :
    Keyed key (newest.set (key item) item) := by
  rintro ⟨other, held⟩ listed
  rcases Dict.get?_set_cases (Dict.mem_entries_iff.mp listed) with ⟨rfl, rfl⟩ | ⟨-, known⟩
  · rfl
  · exact keyed (other, held) (Dict.mem_entries_iff.mpr known)

theorem Keyed.keep {newest : Dict κ α} (keyed : Keyed key newest) (item : α) :
    Keyed key (keep key stamp newest item) := by
  unfold NewestPerKey.keep
  split
  · exact keyed.set item
  · split
    · exact keyed.set item
    · exact keyed

theorem Keyed.keepAll {newest : Dict κ α} (keyed : Keyed key newest) (items : List α) :
    Keyed key (keepAll key stamp newest items) := by
  induction items generalizing newest with
  | nil => exact keyed
  | cons item rest ih => exact ih (keyed.keep item)

omit [DecidableEq κ] in
theorem Keyed.map_values {newest : Dict κ α} (keyed : Keyed key newest) :
    newest.values.map key = newest.keys := by
  rw [Dict.values, Dict.keys, List.map_map]
  exact List.map_congr_left keyed

theorem keepAll_append (newest : Dict κ α) (items later : List α) :
    keepAll key stamp newest (items ++ later) =
      keepAll key stamp (keepAll key stamp newest items) later :=
  List.foldl_append ..

theorem keepAll_concat (newest : Dict κ α) (items : List α) (last : α) :
    keepAll key stamp newest (items ++ [last]) =
      keep key stamp (keepAll key stamp newest items) last :=
  keepAll_append newest items [last]

theorem get?_keep (newest : Dict κ α) (item : α) (wanted : κ) :
    (keep key stamp newest item).get? wanted =
      if key item = wanted then
        Option.casesOn (newest.get? wanted) (some item) fun current =>
          if stamp current < stamp item then some item else some current
      else newest.get? wanted := by
  unfold keep
  by_cases same : key item = wanted
  · subst same
    cases known : newest.get? (key item) with
    | none => simp
    | some current => by_cases later : stamp current < stamp item <;> simp [later, known]
  · have different : wanted ≠ key item := fun equal => same equal.symm
    cases newest.get? (key item) with
    | none => simp [same, different]
    | some current => by_cases later : stamp current < stamp item <;> simp [later, same, different]

/-- The dictionary holds the first of the newest items of each key. -/
theorem get?_keepAll (items : List α) (wanted : κ) :
    (keepAll key stamp ∅ items).get? wanted =
      newest stamp (items.filter fun item => key item = wanted) := by
  unfold newest
  induction items using List.reverseRecOn with
  | nil => rfl
  | append_singleton items last ih =>
      rw [keepAll_concat, get?_keep, ih, List.filter_append]
      by_cases same : key last = wanted
      · rw [if_pos same, List.filter_cons_of_pos (by simpa using same), List.filter_nil,
          List.argmax_concat]
      · rw [if_neg same, List.filter_cons_of_neg (by simpa using same), List.filter_nil,
          List.append_nil]

theorem keys_keep (newest : Dict κ α) (item : α) :
    (keep key stamp newest item).keys =
      if key item ∈ newest.keys then newest.keys else newest.keys ++ [key item] := by
  unfold keep
  cases known : newest.get? (key item) with
  | none => exact newest.keys_set (key item) item
  | some current =>
      have listed : key item ∈ newest.keys :=
        Dict.mem_keys_iff.mpr (Dict.mem_iff_exists.mpr ⟨current, known⟩)
      by_cases later : stamp current < stamp item
      · simp only [if_pos later]
        exact newest.keys_set (key item) item
      · simp only [if_neg later, if_pos listed]

/-- The keys stand in order of first appearance. -/
theorem keys_keepAll (items : List α) :
    (keepAll key stamp ∅ items).keys = (items.map key).eraseDups := by
  induction items using List.reverseRecOn with
  | nil => rfl
  | append_singleton items last ih =>
      rw [keepAll_concat, keys_keep, ih, List.map_append, List.map_singleton,
        List.eraseDups_append]
      by_cases known : key last ∈ items.map key
      · have left : [key last].removeAll (items.map key) = [] := by
          rw [List.removeAll, List.filter_cons_of_neg (by simpa using known), List.filter_nil]
        rw [if_pos (List.mem_eraseDups.mpr known), left]
        simp
      · have left : [key last].removeAll (items.map key) = [key last] := by
          rw [List.removeAll, List.filter_cons_of_pos (by simpa using known), List.filter_nil]
        rw [if_neg fun listed => known (List.mem_eraseDups.mp listed), left,
          List.eraseDups_cons, List.filter_nil, List.eraseDups_nil]

theorem keep_of_not_mem {newest : Dict κ α} {item : α} (fresh : key item ∉ newest.keys) :
    (keep key stamp newest item).entries = newest.entries ++ [(key item, item)] := by
  have absent : newest.get? (key item) = none :=
    Dict.not_mem_iff.mp fun known => fresh (Dict.mem_keys_iff.mpr known)
  unfold keep
  rw [absent]
  exact Dict.entries_set_of_not_mem fresh item

/-- Items with distinct keys are all held, in their order. -/
theorem entries_keepAll_of_nodup {items : List α} (distinct : (items.map key).Nodup) :
    (keepAll key stamp ∅ items).entries = items.map fun item => (key item, item) := by
  induction items using List.reverseRecOn with
  | nil => rfl
  | append_singleton items last ih =>
      rw [List.map_append, List.map_singleton, List.nodup_append] at distinct
      obtain ⟨distinctInit, -, apart⟩ := distinct
      have held := ih distinctInit
      have fresh : key last ∉ (keepAll key stamp ∅ items).keys := by
        rw [Dict.keys, held, List.map_map]
        exact fun known => apart _ known _ (List.mem_singleton_self _) rfl
      rw [keepAll_concat, keep_of_not_mem fresh, held, List.map_append, List.map_singleton]

/-- Folding the values of a dictionary again gives the dictionary back. -/
theorem Keyed.keepAll_values {newest : Dict κ α} (keyed : Keyed key newest) :
    NewestPerKey.keepAll key stamp ∅ newest.values = newest := by
  apply Dict.ext_entries
  have distinct : (newest.values.map key).Nodup := by
    rw [keyed.map_values]
    exact newest.nodup_keys
  have same : ∀ entry ∈ newest.entries, ((fun item => (key item, item)) ∘ Prod.snd) entry = entry :=
    fun entry listed => Prod.ext (keyed entry listed) rfl
  rw [entries_keepAll_of_nodup distinct, Dict.values, List.map_map, List.map_congr_left same,
    List.map_id']

end NewestPerKey
