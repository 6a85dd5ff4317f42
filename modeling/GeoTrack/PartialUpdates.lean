import Mathlib.Data.Set.Defs

/-!
# Partial updates of records

A record is a function on its fields and a partial update is a value for some
of them.  Merging an update into a record touches the fields of the update
only, so updates of different fields can be merged in any order.
-/

namespace GeoTrack

namespace PartialUpdates

variable {ι : Type*} {υ : ι → Type*}

/-- The record with the fields of the update overridden. -/
def merge (update : ∀ field, Option (υ field)) (record : ∀ field, υ field) : ∀ field, υ field :=
  fun field => (update field).getD (record field)

/-- The fields an update has a value for. -/
def support (update : ∀ field, Option (υ field)) : Set ι :=
  {field | (update field).isSome = true}

@[simp]
theorem mem_support {update : ∀ field, Option (υ field)} {field : ι} :
    field ∈ support update ↔ (update field).isSome = true :=
  Iff.rfl

/-- A field outside the update is untouched. -/
theorem merge_of_not_mem {update : ∀ field, Option (υ field)} {field : ι}
    (absent : field ∉ support update) (record : ∀ field, υ field) :
    merge update record field = record field := by
  have nothing : update field = none := by simpa using absent
  rw [merge, nothing, Option.getD_none]

/-- A field of the update does not depend on the record. -/
theorem merge_of_mem {update : ∀ field, Option (υ field)} {field : ι}
    (present : field ∈ support update) (first second : ∀ field, υ field) :
    merge update first field = merge update second field := by
  obtain ⟨value, written⟩ := Option.isSome_iff_exists.mp present
  rw [merge, merge, written, Option.getD_some, Option.getD_some]

/-- Updates of different fields commute. -/
theorem merge_comm {first second : ∀ field, Option (υ field)}
    (disjoint : ∀ field ∈ support first, field ∉ support second) (record : ∀ field, υ field) :
    merge first (merge second record) = merge second (merge first record) := by
  funext field
  by_cases inFirst : field ∈ support first
  · rw [merge_of_not_mem (disjoint field inFirst)]
    exact merge_of_mem inFirst _ _
  · rw [merge_of_not_mem inFirst]
    by_cases inSecond : field ∈ support second
    · exact merge_of_mem inSecond _ _
    · rw [merge_of_not_mem inSecond, merge_of_not_mem inSecond, merge_of_not_mem inFirst]

end PartialUpdates

end GeoTrack
