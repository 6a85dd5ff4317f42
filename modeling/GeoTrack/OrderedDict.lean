import Mathlib.Data.Finset.Card
import Mathlib.Data.List.Nodup

/-!
# Insertion-ordered dictionaries

A dictionary keeps its entries in the order in which the keys first arrived:
assigning to a known key replaces the value where it stands, a new key goes
to the end, and deleting a key forgets its place.  The entry list carries the
proof that no key occurs twice.

Two dictionaries are compared here through `get?`, which is all that a lookup
can see; the order is only visible through `keys`, `values` and `entries`.
-/

/-- A finite map from keys to values, with its entries in insertion order. -/
structure Dict (κ υ : Type) where
  entries : List (κ × υ)
  nodup : (entries.map Prod.fst).Nodup
deriving DecidableEq, Repr

namespace Dict

variable {κ υ : Type} [DecidableEq κ]

/-- The value of the first entry with a given key. -/
def lookupKey (key : κ) : List (κ × υ) → Option υ
  | [] => none
  | entry :: rest => if key = entry.1 then some entry.2 else lookupKey key rest

theorem lookupKey_eq_none_iff {entries : List (κ × υ)} {key : κ} :
    lookupKey key entries = none ↔ key ∉ entries.map Prod.fst := by
  induction entries with
  | nil => simp [lookupKey]
  | cons entry rest ih =>
      rw [lookupKey, List.map_cons, List.mem_cons, not_or]
      by_cases same : key = entry.1
      · simp [same]
      · rw [if_neg same, ih]
        simp [same]

theorem mem_of_lookupKey {entries : List (κ × υ)} {key : κ} {value : υ}
    (found : lookupKey key entries = some value) : (key, value) ∈ entries := by
  induction entries with
  | nil => simp [lookupKey] at found
  | cons entry rest ih =>
      rw [lookupKey] at found
      split at found
      case isTrue same =>
          obtain rfl := Option.some.inj found
          rw [same]
          exact List.mem_cons_self ..
      case isFalse => exact List.mem_cons_of_mem _ (ih found)

/-- Replace the value of a known key in place, or append a new entry. -/
def setEntries (key : κ) (value : υ) : List (κ × υ) → List (κ × υ)
  | [] => [(key, value)]
  | entry :: rest =>
      if entry.1 = key then (key, value) :: rest
      else entry :: setEntries key value rest

theorem mem_keys_setEntries (key other : κ) (value : υ) (entries : List (κ × υ)) :
    other ∈ (setEntries key value entries).map Prod.fst ↔
      other = key ∨ other ∈ entries.map Prod.fst := by
  induction entries with
  | nil => simp [setEntries]
  | cons entry rest ih =>
      by_cases same : entry.1 = key
      · rw [setEntries, if_pos same, List.map_cons, List.map_cons, List.mem_cons,
          List.mem_cons, same]
        tauto
      · simp only [setEntries, if_neg same, List.map_cons, List.mem_cons, ih]
        tauto

theorem nodup_setEntries (key : κ) (value : υ) {entries : List (κ × υ)}
    (distinct : (entries.map Prod.fst).Nodup) :
    ((setEntries key value entries).map Prod.fst).Nodup := by
  induction entries with
  | nil => simp [setEntries]
  | cons entry rest ih =>
      rw [List.map_cons, List.nodup_cons] at distinct
      by_cases same : entry.1 = key
      · rw [setEntries, if_pos same, List.map_cons, List.nodup_cons, ← same]
        exact distinct
      · simp only [setEntries, if_neg same, List.map_cons, List.nodup_cons]
        refine ⟨?_, ih distinct.2⟩
        rw [mem_keys_setEntries]
        exact not_or.mpr ⟨same, distinct.1⟩

/-- The dictionary with no entries. -/
def empty : Dict κ υ := ⟨[], List.nodup_nil⟩

instance : EmptyCollection (Dict κ υ) := ⟨empty⟩

instance : Inhabited (Dict κ υ) := ⟨empty⟩

/-- Look a key up. -/
def get? (dict : Dict κ υ) (key : κ) : Option υ := lookupKey key dict.entries

/-- Assign to a key. -/
def set (dict : Dict κ υ) (key : κ) (value : υ) : Dict κ υ :=
  ⟨setEntries key value dict.entries, nodup_setEntries key value dict.nodup⟩

/-- Keep the entries that satisfy a test. -/
def filter (dict : Dict κ υ) (test : κ → υ → Bool) : Dict κ υ :=
  ⟨dict.entries.filter fun entry => test entry.1 entry.2,
    dict.nodup.sublist (List.filter_sublist.map Prod.fst)⟩

/-- Delete a key, if it is there. -/
def erase (dict : Dict κ υ) (key : κ) : Dict κ υ :=
  dict.filter fun other _ => decide (other ≠ key)

/-- The keys in insertion order. -/
def keys (dict : Dict κ υ) : List κ := dict.entries.map Prod.fst

/-- The values in insertion order of their keys. -/
def values (dict : Dict κ υ) : List υ := dict.entries.map Prod.snd

/-- Assign a list of entries from left to right. -/
def setAll (dict : Dict κ υ) (entries : List (κ × υ)) : Dict κ υ :=
  entries.foldl (fun current entry => current.set entry.1 entry.2) dict

/-- Add an entry unless its key is taken. -/
def addNew (dict : Dict κ υ) (key : κ) (value : υ) : Dict κ υ :=
  if (dict.get? key).isSome then dict else dict.set key value

/-- Add a list of entries from left to right, keeping whatever is there. -/
def addAllNew (dict : Dict κ υ) (entries : List (κ × υ)) : Dict κ υ :=
  entries.foldl (fun current entry => current.addNew entry.1 entry.2) dict

/-- Delete a list of keys. -/
def eraseAll (dict : Dict κ υ) (gone : List κ) : Dict κ υ :=
  dict.filter fun key _ => decide (key ∉ gone)

instance : Membership κ (Dict κ υ) := ⟨fun dict key => (dict.get? key).isSome = true⟩

instance (key : κ) (dict : Dict κ υ) : Decidable (key ∈ dict) :=
  inferInstanceAs (Decidable ((dict.get? key).isSome = true))

theorem mem_def {dict : Dict κ υ} {key : κ} :
    key ∈ dict ↔ (dict.get? key).isSome = true :=
  Iff.rfl

theorem mem_iff_exists {dict : Dict κ υ} {key : κ} :
    key ∈ dict ↔ ∃ value, dict.get? key = some value := by
  rw [mem_def, Option.isSome_iff_exists]

theorem not_mem_iff {dict : Dict κ υ} {key : κ} :
    key ∉ dict ↔ dict.get? key = none := by
  rw [mem_def, Bool.not_eq_true, Option.isSome_eq_false_iff, Option.isNone_iff_eq_none]

@[simp]
theorem get?_empty (key : κ) : (∅ : Dict κ υ).get? key = none :=
  rfl

theorem lookupKey_setEntries (key other : κ) (value : υ) (entries : List (κ × υ)) :
    lookupKey other (setEntries key value entries) =
      if other = key then some value else lookupKey other entries := by
  induction entries with
  | nil => simp [setEntries, lookupKey]
  | cons entry rest ih =>
      by_cases same : entry.1 = key
      · rw [setEntries, if_pos same, lookupKey, lookupKey, same]
        by_cases found : other = key
        · rw [if_pos found, if_pos found]
        · rw [if_neg found, if_neg found, if_neg found]
      · rw [setEntries, if_neg same, lookupKey, lookupKey, ih]
        by_cases found : other = entry.1
        · have different : other ≠ key := fun equal => same (found.symm.trans equal)
          rw [if_pos found, if_neg different, if_pos found]
        · rw [if_neg found, if_neg found]

@[simp]
theorem get?_set (dict : Dict κ υ) (key other : κ) (value : υ) :
    (dict.set key value).get? other = if other = key then some value else dict.get? other :=
  lookupKey_setEntries key other value dict.entries

/-- The second of two assignments to a key is the one that counts. -/
theorem set_set (dict : Dict κ υ) (key : κ) (value later : υ) :
    (dict.set key value).set key later = dict.set key later := by
  have same : ∀ entries : List (κ × υ),
      setEntries key later (setEntries key value entries) = setEntries key later entries := by
    intro entries
    induction entries with
    | nil => simp [setEntries]
    | cons entry rest ih =>
        by_cases known : entry.1 = key
        · simp [setEntries, known]
        · simp [setEntries, known, ih]
  simp only [set, same]

/-- An entry is listed exactly when looking its key up finds its value. -/
theorem mem_entries_iff {dict : Dict κ υ} {key : κ} {value : υ} :
    (key, value) ∈ dict.entries ↔ dict.get? key = some value := by
  obtain ⟨entries, distinct⟩ := dict
  simp only [get?]
  induction entries with
  | nil => simp [lookupKey]
  | cons entry rest ih =>
      rw [List.map_cons, List.nodup_cons] at distinct
      rw [lookupKey, List.mem_cons]
      by_cases same : key = entry.1
      · have absent : (key, value) ∉ rest := fun member =>
          distinct.1 (same ▸ List.mem_map_of_mem (f := Prod.fst) member)
        rw [if_pos same, Option.some.injEq]
        constructor
        · rintro (equal | member)
          · rw [← equal]
          · exact absurd member absent
        · intro equal
          exact Or.inl (Prod.ext same equal.symm)
      · have notHead : (key, value) ≠ entry := fun equal => same (congrArg Prod.fst equal)
        rw [if_neg same, ← ih distinct.2]
        simp [notHead]

/-- In a list with distinct keys, a lookup finds exactly what is listed. -/
theorem lookupKey_eq_some_iff {entries : List (κ × υ)}
    (distinct : (entries.map Prod.fst).Nodup) {key : κ} {value : υ} :
    lookupKey key entries = some value ↔ (key, value) ∈ entries :=
  (@mem_entries_iff κ υ _ ⟨entries, distinct⟩ key value).symm

theorem mem_keys_iff {dict : Dict κ υ} {key : κ} : key ∈ dict.keys ↔ key ∈ dict := by
  rw [mem_iff_exists, keys, List.mem_map]
  constructor
  · rintro ⟨entry, listed, rfl⟩
    exact ⟨entry.2, mem_entries_iff.mp listed⟩
  · rintro ⟨value, found⟩
    exact ⟨(key, value), mem_entries_iff.mpr found, rfl⟩

@[simp]
theorem get?_filter (dict : Dict κ υ) (test : κ → υ → Bool) (key : κ) :
    (dict.filter test).get? key = (dict.get? key).filter (test key) := by
  apply Option.ext
  intro value
  rw [Option.filter_eq_some_iff, ← mem_entries_iff, ← mem_entries_iff]
  simp [filter]

@[simp]
theorem get?_erase (dict : Dict κ υ) (key other : κ) :
    (dict.erase key).get? other = if other = key then none else dict.get? other := by
  rw [erase, get?_filter]
  by_cases same : other = key <;> cases dict.get? other <;> simp [same]

/-- What is found after one assignment is what was assigned or was there. -/
theorem get?_set_cases {dict : Dict κ υ} {key other : κ} {value held : υ}
    (found : (dict.set key value).get? other = some held) :
    other = key ∧ held = value ∨ other ≠ key ∧ dict.get? other = some held := by
  rw [get?_set] at found
  split at found
  case isTrue same => exact Or.inl ⟨same, (Option.some.inj found).symm⟩
  case isFalse differs => exact Or.inr ⟨differs, found⟩

theorem of_get?_erase {dict : Dict κ υ} {key other : κ} {held : υ}
    (found : (dict.erase key).get? other = some held) :
    other ≠ key ∧ dict.get? other = some held := by
  rw [get?_erase] at found
  split at found
  case isTrue => cases found
  case isFalse differs => exact ⟨differs, found⟩

@[simp]
theorem get?_eraseAll (dict : Dict κ υ) (gone : List κ) (key : κ) :
    (dict.eraseAll gone).get? key = if key ∈ gone then none else dict.get? key := by
  rw [eraseAll, get?_filter]
  by_cases listed : key ∈ gone <;> cases dict.get? key <;> simp [listed]

@[simp]
theorem mem_set {dict : Dict κ υ} {key other : κ} {value : υ} :
    other ∈ dict.set key value ↔ other = key ∨ other ∈ dict := by
  rw [mem_def, get?_set, mem_def]
  by_cases same : other = key <;> simp [same]

@[simp]
theorem mem_erase {dict : Dict κ υ} {key other : κ} :
    other ∈ dict.erase key ↔ other ≠ key ∧ other ∈ dict := by
  rw [mem_def, get?_erase, mem_def]
  by_cases same : other = key <;> simp [same]

/-- The number of entries. -/
def size (dict : Dict κ υ) : ℕ := dict.entries.length

omit [DecidableEq κ] in
theorem nodup_keys (dict : Dict κ υ) : dict.keys.Nodup := dict.nodup

omit [DecidableEq κ] in
theorem length_keys (dict : Dict κ υ) : dict.keys.length = dict.size := List.length_map _

/-- The keys as a finite set. -/
def support (dict : Dict κ υ) : Finset κ := dict.keys.toFinset

@[simp]
theorem mem_support {dict : Dict κ υ} {key : κ} : key ∈ dict.support ↔ key ∈ dict := by
  rw [support, List.mem_toFinset, mem_keys_iff]

theorem card_support (dict : Dict κ υ) : dict.support.card = dict.size := by
  rw [support, List.toFinset_card_of_nodup dict.nodup_keys, length_keys]

theorem size_set_of_not_mem {dict : Dict κ υ} {key : κ} (fresh : key ∉ dict) (value : υ) :
    (dict.set key value).size = dict.size + 1 := by
  have grown : (dict.set key value).support = insert key dict.support := by
    ext other
    simp
  rw [← card_support, grown, Finset.card_insert_of_notMem (by simpa using fresh), card_support]

theorem size_set_le (dict : Dict κ υ) (key : κ) (value : υ) :
    (dict.set key value).size ≤ dict.size + 1 := by
  have grown : (dict.set key value).support = insert key dict.support := by
    ext other
    simp
  rw [← card_support, grown, ← card_support]
  exact Finset.card_insert_le _ _

theorem size_erase_le (dict : Dict κ υ) (key : κ) : (dict.erase key).size ≤ dict.size :=
  List.length_filter_le _ _

theorem size_erase_of_mem {dict : Dict κ υ} {key : κ} (known : key ∈ dict) :
    (dict.erase key).size + 1 = dict.size := by
  have shrunk : (dict.erase key).support = dict.support.erase key := by
    ext other
    simp
  rw [← card_support, shrunk, ← card_support]
  exact Finset.card_erase_add_one (by simpa using known)

@[simp]
theorem mem_filter {dict : Dict κ υ} {test : κ → υ → Bool} {key : κ} :
    key ∈ dict.filter test ↔ ∃ value, dict.get? key = some value ∧ test key value = true := by
  simp [mem_iff_exists, Option.filter_eq_some_iff]

/-- How many entries pass a test after one is added. -/
theorem size_filter_set {dict : Dict κ υ} {key : κ} (fresh : key ∉ dict) (value : υ)
    (test : κ → υ → Bool) :
    ((dict.set key value).filter test).size =
      (dict.filter test).size + if test key value then 1 else 0 := by
  have absent : key ∉ dict.filter test := by
    rw [not_mem_iff] at fresh
    simp [fresh]
  rw [← card_support, ← card_support]
  by_cases passes : test key value = true
  · have grown : ((dict.set key value).filter test).support =
        insert key (dict.filter test).support := by
      ext other
      by_cases same : other = key <;> simp [same, passes]
    rw [grown, Finset.card_insert_of_notMem (by simpa using absent), if_pos passes]
  · have kept : ((dict.set key value).filter test).support = (dict.filter test).support := by
      ext other
      by_cases same : other = key
      · simpa [same, passes] using absent
      · simp [same]
    rw [kept, if_neg passes, Nat.add_zero]

/-- How many pass after one is replaced by another that passes as well. -/
theorem size_filter_replace {dict : Dict κ υ} {key : κ} {old : υ} (known : dict.get? key = some old)
    {value : υ} {test : κ → υ → Bool} (alike : test key value = test key old) :
    ((dict.set key value).filter test).size = (dict.filter test).size := by
  have kept : ((dict.set key value).filter test).support = (dict.filter test).support := by
    ext other
    by_cases same : other = key <;> simp [same, alike, known]
  rw [← card_support, kept, card_support]

/-- How many pass after one is deleted. -/
theorem size_filter_erase {dict : Dict κ υ} {key : κ} {old : υ} (known : dict.get? key = some old)
    (test : κ → υ → Bool) :
    ((dict.erase key).filter test).size + (if test key old then 1 else 0) =
      (dict.filter test).size := by
  rw [← card_support, ← card_support]
  by_cases passes : test key old = true
  · have shrunk : ((dict.erase key).filter test).support = (dict.filter test).support.erase key := by
      ext other
      by_cases same : other = key <;> simp [same]
    rw [shrunk, if_pos passes]
    exact Finset.card_erase_add_one (by simpa [known] using passes)
  · have kept : ((dict.erase key).filter test).support = (dict.filter test).support := by
      ext other
      by_cases same : other = key <;> simp [same, known, passes]
    rw [kept, if_neg passes, Nat.add_zero]

omit [DecidableEq κ] in
theorem ext_entries {one two : Dict κ υ} (same : one.entries = two.entries) : one = two := by
  cases one
  cases two
  cases same
  rfl

/-- There is nothing to remove of a key that is not there. -/
theorem erase_of_not_mem {dict : Dict κ υ} {key : κ} (absent : key ∉ dict) :
    dict.erase key = dict := by
  apply ext_entries
  refine List.filter_eq_self.mpr fun entry listed => ?_
  have apart : entry.1 ≠ key := fun same =>
    absent (mem_iff_exists.mpr ⟨entry.2, mem_entries_iff.mp (same ▸ listed)⟩)
  exact decide_eq_true apart

omit [DecidableEq κ] in
theorem filter_comm (dict : Dict κ υ) (one two : κ → υ → Bool) :
    (dict.filter one).filter two = (dict.filter two).filter one :=
  ext_entries (List.filter_comm _ _ _)

theorem setEntries_of_not_mem {entries : List (κ × υ)} {key : κ}
    (fresh : key ∉ entries.map Prod.fst) (value : υ) :
    setEntries key value entries = entries ++ [(key, value)] := by
  induction entries with
  | nil => rfl
  | cons entry rest ih =>
      rw [List.map_cons, List.mem_cons, not_or] at fresh
      rw [setEntries, if_neg fun same => fresh.1 same.symm, ih fresh.2, List.cons_append]

theorem keys_setEntries_of_mem {entries : List (κ × υ)} {key : κ}
    (known : key ∈ entries.map Prod.fst) (value : υ) :
    (setEntries key value entries).map Prod.fst = entries.map Prod.fst := by
  induction entries with
  | nil => simp at known
  | cons entry rest ih =>
      by_cases same : entry.1 = key
      · rw [setEntries, if_pos same, List.map_cons, List.map_cons, same]
      · have later : key ∈ rest.map Prod.fst :=
          (List.mem_cons.mp known).resolve_left fun equal => same equal.symm
        rw [setEntries, if_neg same, List.map_cons, List.map_cons, ih later]

/-- A new key goes to the end. -/
theorem entries_set_of_not_mem {dict : Dict κ υ} {key : κ} (fresh : key ∉ dict.keys) (value : υ) :
    (dict.set key value).entries = dict.entries ++ [(key, value)] :=
  setEntries_of_not_mem fresh value

/-- A known key keeps its place. -/
theorem keys_set (dict : Dict κ υ) (key : κ) (value : υ) :
    (dict.set key value).keys = if key ∈ dict.keys then dict.keys else dict.keys ++ [key] := by
  split
  case isTrue known => exact keys_setEntries_of_mem known value
  case isFalse fresh =>
      rw [keys, entries_set_of_not_mem fresh value, List.map_append]
      rfl

/-- A filter sees the assignment of an entry that passes. -/
theorem filter_set_of_pos {dict : Dict κ υ} {test : κ → υ → Bool} {key : κ} {value : υ}
    (passes : test key value = true) (passed : ∀ old, dict.get? key = some old → test key old = true) :
    (dict.set key value).filter test = (dict.filter test).set key value := by
  apply ext_entries
  have allPassed : ∀ old, (key, old) ∈ dict.entries → test key old = true :=
    fun old listed => passed old (mem_entries_iff.mp listed)
  simp only [set, filter]
  generalize dict.entries = entries at allPassed
  induction entries with
  | nil => simp [setEntries, passes]
  | cons entry rest ih =>
      have restPassed := ih fun old listed => allPassed old (List.mem_cons_of_mem _ listed)
      by_cases same : entry.1 = key
      · have entryPasses : test entry.1 entry.2 = true := by
          rw [same]
          exact allPassed entry.2 (same ▸ List.mem_cons_self)
        rw [setEntries, if_pos same, List.filter_cons, List.filter_cons, if_pos passes,
          if_pos entryPasses, setEntries, if_pos same]
      · rw [setEntries, if_neg same, List.filter_cons, List.filter_cons]
        split
        · rw [restPassed, setEntries, if_neg same]
        · exact restPassed

/-- A filter does not see the assignment of an entry that fails, where nothing
passed before. -/
theorem filter_set_of_neg {dict : Dict κ υ} {test : κ → υ → Bool} {key : κ} {value : υ}
    (fails : ¬ test key value = true)
    (failed : ∀ old, dict.get? key = some old → ¬ test key old = true) :
    (dict.set key value).filter test = dict.filter test := by
  apply ext_entries
  have allFailed : ∀ old, (key, old) ∈ dict.entries → ¬ test key old = true :=
    fun old listed => failed old (mem_entries_iff.mp listed)
  simp only [set, filter]
  generalize dict.entries = entries at allFailed
  induction entries with
  | nil => simp [setEntries, fails]
  | cons entry rest ih =>
      have restFailed := ih fun old listed => allFailed old (List.mem_cons_of_mem _ listed)
      by_cases same : entry.1 = key
      · have entryFails : ¬ test entry.1 entry.2 = true := by
          rw [same]
          exact allFailed entry.2 (same ▸ List.mem_cons_self)
        rw [setEntries, if_pos same, List.filter_cons, List.filter_cons, if_neg fails,
          if_neg entryFails]
      · rw [setEntries, if_neg same, List.filter_cons, List.filter_cons, restFailed]

/-- Looking up after a run of assignments with distinct keys. -/
theorem get?_setAll (dict : Dict κ υ) (entries : List (κ × υ))
    (distinct : (entries.map Prod.fst).Nodup) (key : κ) :
    (dict.setAll entries).get? key = (lookupKey key entries).or (dict.get? key) := by
  induction entries generalizing dict with
  | nil => simp [setAll, lookupKey]
  | cons entry rest ih =>
      rw [List.map_cons, List.nodup_cons] at distinct
      have later := ih (dict.set entry.1 entry.2) distinct.2
      simp only [setAll, List.foldl_cons] at later ⊢
      rw [later, get?_set, lookupKey]
      by_cases same : key = entry.1
      · have absent : lookupKey key rest = none :=
          lookupKey_eq_none_iff.mpr (same ▸ distinct.1)
        rw [if_pos same, if_pos same, absent]
        rfl
      · rw [if_neg same, if_neg same]

/-- What a run of assignments leaves behind was assigned or was there. -/
theorem mem_of_get?_setAll {dict : Dict κ υ} {entries : List (κ × υ)} {key : κ} {value : υ}
    (found : (dict.setAll entries).get? key = some value) :
    (key, value) ∈ entries ∨ dict.get? key = some value := by
  induction entries generalizing dict with
  | nil => exact Or.inr found
  | cons entry rest ih =>
      rcases @ih (dict.set entry.1 entry.2) found with later | now
      · exact Or.inl (List.mem_cons_of_mem _ later)
      · rw [get?_set] at now
        split at now
        case isTrue same =>
            obtain rfl := Option.some.inj now
            exact Or.inl (by rw [same]; exact List.mem_cons_self ..)
        case isFalse => exact Or.inr now

/-- A run of assignments decides exactly the keys it names. -/
theorem get?_setAll_cases (dict : Dict κ υ) (entries : List (κ × υ)) (key : κ) :
    (∃ value, (key, value) ∈ entries ∧ (dict.setAll entries).get? key = some value) ∨
      key ∉ entries.map Prod.fst ∧ (dict.setAll entries).get? key = dict.get? key := by
  induction entries generalizing dict with
  | nil => exact Or.inr ⟨List.not_mem_nil, rfl⟩
  | cons entry rest ih =>
      rcases ih (dict.set entry.1 entry.2) with ⟨value, listed, found⟩ | ⟨absent, kept⟩
      · exact Or.inl ⟨value, List.mem_cons_of_mem _ listed, found⟩
      · rw [get?_set] at kept
        by_cases same : key = entry.1
        · rw [if_pos same] at kept
          exact Or.inl ⟨entry.2, by rw [same]; exact List.mem_cons_self .., kept⟩
        · rw [if_neg same] at kept
          refine Or.inr ⟨?_, kept⟩
          rw [List.map_cons, List.mem_cons]
          rintro (first | later)
          · exact same first
          · exact absent later

theorem get?_addNew (dict : Dict κ υ) (key other : κ) (value : υ) :
    (dict.addNew key value).get? other =
      if other = key then (dict.get? key).or (some value) else dict.get? other := by
  unfold addNew
  by_cases same : other = key
  · cases found : dict.get? key <;> simp [same, found]
  · cases found : dict.get? key <;> simp [same]

/-- Looking up after a run of additions: what was there first stays. -/
theorem get?_addAllNew (dict : Dict κ υ) (entries : List (κ × υ)) (key : κ) :
    (dict.addAllNew entries).get? key = (dict.get? key).or (lookupKey key entries) := by
  induction entries generalizing dict with
  | nil => simp [addAllNew, lookupKey]
  | cons entry rest ih =>
      have later := ih (dict.addNew entry.1 entry.2)
      simp only [addAllNew, List.foldl_cons] at later ⊢
      rw [later, get?_addNew, lookupKey]
      by_cases same : key = entry.1
      · cases found : dict.get? entry.1 <;> simp [same, found]
      · rw [if_neg same, if_neg same]

/-- Additions whose keys are all taken change nothing at all. -/
theorem addAllNew_of_forall_mem (dict : Dict κ υ) (entries : List (κ × υ))
    (taken : ∀ entry ∈ entries, entry.1 ∈ dict) : dict.addAllNew entries = dict := by
  induction entries with
  | nil => rfl
  | cons entry rest ih =>
      have first : dict.addNew entry.1 entry.2 = dict :=
        if_pos (taken entry (List.mem_cons_self ..))
      rw [addAllNew, List.foldl_cons, first]
      exact ih fun other listed => taken other (List.mem_cons_of_mem _ listed)

theorem mem_addNew {dict : Dict κ υ} {key other : κ} {value : υ} (known : other ∈ dict) :
    other ∈ dict.addNew key value := by
  rw [mem_def, get?_addNew]
  split
  case isTrue same =>
      rw [same, mem_def] at known
      rw [Option.isSome_or, known]
      rfl
  case isFalse => exact known

/-- Leaving out keys that are already there changes nothing. -/
theorem addAllNew_filter (dict known : Dict κ υ) (entries : List (κ × υ))
    (grown : ∀ key ∈ known, key ∈ dict) :
    dict.addAllNew (entries.filter fun entry => decide (entry.1 ∉ known)) =
      dict.addAllNew entries := by
  induction entries generalizing dict with
  | nil => rfl
  | cons entry rest ih =>
      by_cases isKnown : entry.1 ∈ known
      · have noop : dict.addNew entry.1 entry.2 = dict := if_pos (grown entry.1 isKnown)
        have later := ih dict grown
        rw [List.filter_cons_of_neg (by simpa using isKnown), later, addAllNew, addAllNew,
          List.foldl_cons, noop]
      · rw [List.filter_cons_of_pos (by simpa using isKnown)]
        exact ih (dict.addNew entry.1 entry.2) fun key listed => mem_addNew (grown key listed)

theorem get?_eq_none_of_empty {dict : Dict κ υ} (none_ : dict.entries = []) (key : κ) :
    dict.get? key = none := by
  rw [get?, none_]
  rfl

/-- Look all of these keys up, failing at the first that is unknown. -/
def getAll? (dict : Dict κ υ) : List κ → Option (List υ)
  | [] => some []
  | key :: rest =>
      (dict.get? key).bind fun value => (dict.getAll? rest).map fun values => value :: values

theorem getAll?_eq_some_iff {dict : Dict κ υ} {keys : List κ} {values : List υ} :
    dict.getAll? keys = some values ↔ keys.map dict.get? = values.map some := by
  induction keys generalizing values with
  | nil => cases values <;> simp [getAll?]
  | cons key rest ih =>
      cases values with
      | nil => simp [getAll?, Option.bind_eq_some_iff]
      | cons value values =>
          simp only [getAll?, Option.bind_eq_some_iff, Option.map_eq_some_iff, List.map_cons,
            List.cons.injEq, ← ih]
          constructor
          · rintro ⟨_, known, _, others, rfl, rfl⟩
            exact ⟨known, others⟩
          · rintro ⟨known, others⟩
            exact ⟨value, known, values, others, rfl, rfl⟩

theorem exists_getAll?_iff {dict : Dict κ υ} {keys : List κ} :
    (∃ values, dict.getAll? keys = some values) ↔ ∀ key ∈ keys, key ∈ dict := by
  induction keys with
  | nil => simp [getAll?]
  | cons key rest ih =>
      rw [List.forall_mem_cons, ← ih, mem_iff_exists]
      simp [getAll?, Option.bind_eq_some_iff]

theorem getAll?_congr {dict other : Dict κ υ} {keys : List κ}
    (same : ∀ key ∈ keys, dict.get? key = other.get? key) :
    dict.getAll? keys = other.getAll? keys := by
  apply Option.ext
  intro values
  rw [getAll?_eq_some_iff, getAll?_eq_some_iff, List.map_congr_left same]

theorem mem_getAll?_iff {dict : Dict κ υ} {keys : List κ} {values : List υ}
    (found : dict.getAll? keys = some values) {value : υ} :
    value ∈ values ↔ ∃ key ∈ keys, dict.get? key = some value := by
  rw [getAll?_eq_some_iff] at found
  have lifted : some value ∈ values.map some ↔ value ∈ values := by simp
  rw [← lifted, ← found, List.mem_map]

section KeyedLists

variable {α : Type}

theorem filter_key_eq_singleton {key : α → κ} {items : List α}
    (distinct : (items.map key).Nodup) {item : α} (listed : item ∈ items) :
    items.filter (fun other => key other = key item) = [item] := by
  induction items with
  | nil => simp at listed
  | cons first rest ih =>
      rw [List.map_cons, List.nodup_cons] at distinct
      rcases List.mem_cons.mp listed with rfl | later
      · rw [List.filter_cons_of_pos (by simp), List.filter_eq_nil_iff.mpr]
        intro other member
        have different : key other ≠ key item := fun equal =>
          distinct.1 (equal ▸ List.mem_map_of_mem member)
        simpa using different
      · have different : key first ≠ key item := fun equal =>
          distinct.1 (equal ▸ List.mem_map_of_mem later)
        rw [List.filter_cons_of_neg (by simpa using different)]
        exact ih distinct.2 later

/-- Looking up in a list of keyed values is a search by key. -/
theorem lookupKey_map (key : α → κ) (value : α → υ) (items : List α) (wanted : κ) :
    lookupKey wanted (items.map fun item => (key item, value item)) =
      ((items.filter fun item => key item = wanted).head?).map value := by
  induction items with
  | nil => rfl
  | cons item rest ih =>
      rw [List.map_cons, lookupKey]
      by_cases same : key item = wanted
      · rw [if_pos same.symm, List.filter_cons_of_pos (by simpa using same)]
        rfl
      · rw [if_neg (fun equal => same equal.symm),
          List.filter_cons_of_neg (by simpa using same)]
        exact ih

omit [DecidableEq κ] in
theorem filterMap_map_sublist {β : Type} {select : α → Option β} {key : α → κ} {newKey : β → κ}
    (keeps : ∀ item result, select item = some result → newKey result = key item)
    (items : List α) :
    ((items.filterMap select).map newKey).Sublist (items.map key) := by
  induction items with
  | nil => simp
  | cons item rest ih =>
      cases selected : select item with
      | none =>
          rw [List.filterMap_cons_none selected, List.map_cons]
          exact ih.cons _
      | some result =>
          rw [List.filterMap_cons_some selected, List.map_cons, List.map_cons,
            keeps item result selected]
          exact ih.cons_cons _

end KeyedLists

section FilterMap

variable {ω : Type}

/-- Compute a new value for each entry, dropping those that have none. -/
def filterMap (dict : Dict κ υ) (select : κ → υ → Option ω) : Dict κ ω :=
  ⟨dict.entries.filterMap fun entry => (select entry.1 entry.2).map fun value => (entry.1, value),
    dict.nodup.sublist (filterMap_map_sublist (by simp) dict.entries)⟩

@[simp]
theorem get?_filterMap (dict : Dict κ υ) (select : κ → υ → Option ω) (key : κ) :
    (dict.filterMap select).get? key = (dict.get? key).bind (select key) := by
  apply Option.ext
  intro value
  rw [← mem_entries_iff, Option.bind_eq_some_iff]
  simp only [filterMap, List.mem_filterMap, Option.map_eq_some_iff, Prod.mk.injEq]
  constructor
  · rintro ⟨⟨_, old⟩, listed, _, selected, rfl, rfl⟩
    exact ⟨old, mem_entries_iff.mp listed, selected⟩
  · rintro ⟨old, found, selected⟩
    exact ⟨(key, old), mem_entries_iff.mpr found, value, selected, rfl, rfl⟩

end FilterMap

section Lookups

/-- Looking keys up one after the other finds, in some order, the values of
the entries with those keys. -/
theorem filterMap_get?_perm (dict : Dict κ υ) {wanted : List κ} (distinct : wanted.Nodup)
    {test : κ → Bool} (tested : ∀ key, key ∈ wanted ↔ test key = true) :
    (wanted.filterMap dict.get?).Perm
      ((dict.entries.filter fun entry => test entry.1).map Prod.snd) := by
  have found : wanted.filterMap dict.get? =
      (wanted.filterMap fun key => (dict.get? key).map fun value => (key, value)).map Prod.snd := by
    rw [List.map_filterMap]
    congr 1
    funext key
    cases dict.get? key <;> rfl
  rw [found]
  apply List.Perm.map
  refine (List.perm_ext_iff_of_nodup ?_ (dict.nodup.of_map.filter _)).mpr ?_
  · refine distinct.filterMap fun first second entry isFirst isSecond => ?_
    simp only [Option.mem_def, Option.map_eq_some_iff] at isFirst isSecond
    obtain ⟨_, _, rfl⟩ := isFirst
    obtain ⟨_, _, same⟩ := isSecond
    exact (congrArg Prod.fst same).symm
  · rintro ⟨key, value⟩
    rw [List.mem_filterMap, List.mem_filter, mem_entries_iff, ← tested]
    constructor
    · rintro ⟨other, isWanted, located⟩
      obtain ⟨held, isHeld, same⟩ := Option.map_eq_some_iff.mp located
      obtain ⟨rfl, rfl⟩ := Prod.mk.inj same
      exact ⟨isHeld, isWanted⟩
    · rintro ⟨isHeld, isWanted⟩
      exact ⟨key, isWanted, Option.map_eq_some_iff.mpr ⟨value, isHeld, rfl⟩⟩

end Lookups

end Dict

/-- A finite set with its elements in insertion order. -/
abbrev KeySet (κ : Type) := Dict κ Unit

namespace KeySet

variable {κ : Type} [DecidableEq κ]

/-- Add an element. -/
def add (elements : KeySet κ) (element : κ) : KeySet κ := Dict.set elements element ()

/-- Remove an element, if it is there. -/
def discard (elements : KeySet κ) (element : κ) : KeySet κ := Dict.erase elements element

@[simp]
theorem mem_add {elements : KeySet κ} {element other : κ} :
    other ∈ elements.add element ↔ other = element ∨ other ∈ elements :=
  Dict.mem_set

@[simp]
theorem mem_discard {elements : KeySet κ} {element other : κ} :
    other ∈ elements.discard element ↔ other ≠ element ∧ other ∈ elements :=
  Dict.mem_erase

@[simp]
theorem not_mem_empty (element : κ) : element ∉ (∅ : KeySet κ) :=
  Bool.false_ne_true

end KeySet
