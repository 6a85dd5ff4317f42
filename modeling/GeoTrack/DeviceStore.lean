import Mathlib.Data.List.Induction
import GeoTrack.PositionHub

/-!
# The devices on the dashboard

The dashboard keeps the newest position it was told of for each device.  A
`positions` frame is merged in and then drops the devices it lists as removed;
a full frame also drops every device that is absent from it.
-/

namespace GeoTrack

/-- A `positions` frame, with the items its chunks are made of. -/
structure PositionsFrame where
  full : Bool
  tMs : ℤ
  items : List PositionItem
  removed : List DeviceId
deriving DecidableEq

def positionsFrame (full : Bool) (tMs : ℤ) (itemChunks : List Chunk) (removed : List DeviceId) :
    PositionsFrame :=
  ⟨full, tMs, itemChunks.flatten, removed⟩

structure Marker where
  latitude : ℚ
  longitude : ℚ
  reportedMs : ℤ
deriving DecidableEq

def PositionItem.marker (item : PositionItem) : Marker :=
  ⟨item.latitude, item.longitude, item.reportedMs⟩

/-- The entries of the store, which are all that a frame changes besides how
they are drawn. -/
structure DeviceStore where
  entries : Dict DeviceId Marker

namespace DeviceStore

def empty : DeviceStore := ⟨∅⟩

def get (store : DeviceStore) (deviceId : DeviceId) : Option Marker := store.entries.get? deviceId

def remove (store : DeviceStore) (deviceIds : List DeviceId) : DeviceStore :=
  ⟨deviceIds.foldl (fun entries deviceId => entries.erase deviceId) store.entries⟩

def merge (store : DeviceStore) (item : PositionItem) : DeviceStore :=
  if (store.get item.deviceId).any fun known => item.reportedMs ≤ known.reportedMs then store
  else ⟨store.entries.set item.deviceId item.marker⟩

def apply (store : DeviceStore) (items : List PositionItem) (full : Bool) : DeviceStore :=
  let merged := items.foldl merge store
  if full then
    merged.remove (merged.entries.keys.filter fun deviceId =>
      deviceId ∉ items.map PositionItem.deviceId)
  else
    merged

/-- What the dashboard does to the store for a frame. -/
def onPositions (store : DeviceStore) (frame : PositionsFrame) : DeviceStore :=
  let applied := store.apply frame.items frame.full
  if frame.removed ≠ [] then applied.remove frame.removed else applied

theorem get_remove (store : DeviceStore) (deviceIds : List DeviceId) (deviceId : DeviceId) :
    (store.remove deviceIds).get deviceId =
      if deviceId ∈ deviceIds then none else store.get deviceId := by
  obtain ⟨entries⟩ := store
  simp only [remove, get]
  induction deviceIds generalizing entries with
  | nil => simp
  | cons first rest ih =>
      rw [List.foldl_cons, ih, Dict.get?_erase]
      by_cases later : deviceId ∈ rest
      · simp [later]
      · simp [later]

theorem get_merge_of_ne {store : DeviceStore} {item : PositionItem} {deviceId : DeviceId}
    (other : deviceId ≠ item.deviceId) : (store.merge item).get deviceId = store.get deviceId := by
  unfold merge
  split
  · rfl
  · simp [get, other]

theorem get_merge_self (store : DeviceStore) (item : PositionItem) :
    ∃ marker, (store.merge item).get item.deviceId = some marker ∧
      item.reportedMs ≤ marker.reportedMs ∧
      (marker = item.marker ∨ store.get item.deviceId = some marker) := by
  unfold merge
  split
  case isTrue newer =>
      obtain ⟨known, found, later⟩ := (Option.any_eq_true _ _).mp newer
      exact ⟨known, found, of_decide_eq_true later, Or.inr found⟩
  case isFalse =>
      exact ⟨item.marker, by simp [get], le_refl _, Or.inl rfl⟩

theorem isSome_get_merge_iff (store : DeviceStore) (item : PositionItem) (deviceId : DeviceId) :
    ((store.merge item).get deviceId).isSome = true ↔
      deviceId = item.deviceId ∨ (store.get deviceId).isSome = true := by
  by_cases about : deviceId = item.deviceId
  · obtain ⟨marker, found, -⟩ := get_merge_self store item
    simp [about, found]
  · rw [get_merge_of_ne about]
    simp [about]

/-- Merging shows the devices of the items, and hides none. -/
theorem isSome_get_foldl_merge_iff (store : DeviceStore) (items : List PositionItem)
    (deviceId : DeviceId) :
    ((items.foldl merge store).get deviceId).isSome = true ↔
      deviceId ∈ items.map PositionItem.deviceId ∨ (store.get deviceId).isSome = true := by
  induction items generalizing store with
  | nil => simp
  | cons item rest ih =>
      rw [List.foldl_cons, ih, isSome_get_merge_iff, List.map_cons, List.mem_cons, or_left_comm,
        or_assoc]

/-- What a run of items leaves of a device none of them is about. -/
theorem get_foldl_merge_of_absent {items : List PositionItem} {deviceId : DeviceId}
    (absent : deviceId ∉ items.map PositionItem.deviceId) (store : DeviceStore) :
    (items.foldl merge store).get deviceId = store.get deviceId := by
  induction items generalizing store with
  | nil => rfl
  | cons item rest ih =>
      rw [List.map_cons, List.mem_cons, not_or] at absent
      rw [List.foldl_cons, ih absent.2, get_merge_of_ne absent.1]

/-- What it leaves of a device all of whose items are the same. -/
theorem get_foldl_merge_of_present {items : List PositionItem} {item : PositionItem}
    (listed : item ∈ items) (only : ∀ other ∈ items, other.deviceId = item.deviceId → other = item)
    (store : DeviceStore) :
    ∃ marker, (items.foldl merge store).get item.deviceId = some marker ∧
      item.reportedMs ≤ marker.reportedMs ∧
      (marker = item.marker ∨ store.get item.deviceId = some marker) := by
  induction items using List.reverseRecOn with
  | nil => cases listed
  | append_singleton items last ih =>
      rw [List.foldl_concat]
      have onlyBefore : ∀ other ∈ items, other.deviceId = item.deviceId → other = item :=
        fun other isMember => only other (List.mem_append_left _ isMember)
      by_cases about : item.deviceId = last.deviceId
      · obtain rfl := only last (List.mem_append_right _ (List.mem_singleton_self _)) about.symm
        obtain ⟨marker, found, later, origin⟩ := get_merge_self (items.foldl merge store) last
        refine ⟨marker, found, later, ?_⟩
        rcases origin with fromItem | fromBefore
        · exact Or.inl fromItem
        · by_cases earlier : last ∈ items
          · obtain ⟨_, known, -, origin⟩ := ih earlier onlyBefore
            rw [known] at fromBefore
            obtain rfl := Option.some.inj fromBefore
            exact origin
          · have absent : last.deviceId ∉ items.map PositionItem.deviceId := by
              rintro isMember
              obtain ⟨other, isItem, same⟩ := List.mem_map.mp isMember
              exact earlier (onlyBefore other isItem same ▸ isItem)
            rw [get_foldl_merge_of_absent absent] at fromBefore
            exact Or.inr fromBefore
      · have earlier : item ∈ items := by
          rcases List.mem_append.mp listed with isMember | isLast
          · exact isMember
          · exact absurd (congrArg PositionItem.deviceId (List.mem_singleton.mp isLast)) about
        rw [get_merge_of_ne about]
        exact ih earlier onlyBefore

theorem get_apply_full (store : DeviceStore) (items : List PositionItem) (deviceId : DeviceId) :
    (store.apply items true).get deviceId =
      if deviceId ∈ items.map PositionItem.deviceId then (items.foldl merge store).get deviceId
      else none := by
  simp only [apply, if_true, get_remove]
  by_cases listed : deviceId ∈ items.map PositionItem.deviceId
  · simp only [List.mem_filter, listed, not_true_eq_false, decide_false, Bool.false_eq_true,
      and_false, if_false, if_true]
  · simp only [List.mem_filter, listed, not_false_eq_true, decide_true, and_true, if_false]
    split
    case isTrue => rfl
    case isFalse unknown =>
        exact Dict.not_mem_iff.mp fun known => unknown (Dict.mem_keys_iff.mpr known)

theorem get_onPositions (store : DeviceStore) (frame : PositionsFrame) (deviceId : DeviceId) :
    (store.onPositions frame).get deviceId =
      if deviceId ∈ frame.removed then none
      else (store.apply frame.items frame.full).get deviceId := by
  unfold onPositions
  by_cases nothing : frame.removed = []
  · simp [nothing]
  · simp [nothing, get_remove]

theorem get_onDelta (store : DeviceStore) (tMs : ℤ) (chunks : List Chunk)
    (removed : List DeviceId) (deviceId : DeviceId) :
    (store.onPositions (positionsFrame false tMs chunks removed)).get deviceId =
      if deviceId ∈ removed then none else (chunks.flatten.foldl merge store).get deviceId :=
  get_onPositions ..

theorem get_onSnapshot (store : DeviceStore) (tMs : ℤ) (chunks : List Chunk)
    (deviceId : DeviceId) :
    (store.onPositions (positionsFrame true tMs chunks [])).get deviceId =
      if deviceId ∈ chunks.flatten.map PositionItem.deviceId then
        (chunks.flatten.foldl merge store).get deviceId
      else none :=
  get_apply_full ..

theorem origin_foldl_merge {store : DeviceStore} {items : List PositionItem}
    {deviceId : DeviceId} {marker : Marker}
    (found : (items.foldl merge store).get deviceId = some marker) :
    store.get deviceId = some marker ∨
      ∃ item ∈ items, item.deviceId = deviceId ∧ item.marker = marker := by
  induction items using List.reverseRecOn with
  | nil => exact Or.inl found
  | append_singleton items last ih =>
      rw [List.foldl_concat] at found
      have earlier : (items.foldl merge store).get deviceId = some marker →
          store.get deviceId = some marker ∨
            ∃ item ∈ items ++ [last], item.deviceId = deviceId ∧ item.marker = marker := by
        intro known
        rcases ih known with fromStore | ⟨item, listed, facts⟩
        · exact Or.inl fromStore
        · exact Or.inr ⟨item, List.mem_append_left _ listed, facts⟩
      by_cases about : deviceId = last.deviceId
      · subst about
        obtain ⟨_, known, -, origin⟩ := get_merge_self (items.foldl merge store) last
        rw [known] at found
        obtain rfl := Option.some.inj found
        rcases origin with fromItem | fromBefore
        · exact Or.inr ⟨last, List.mem_append_right _ (List.mem_singleton_self _), rfl,
            fromItem.symm⟩
        · exact earlier fromBefore
      · rw [get_merge_of_ne about] at found
        exact earlier found

/-- Every marker was there before the frame or comes from one of its items. -/
theorem origin_onPositions {store : DeviceStore} {frame : PositionsFrame} {deviceId : DeviceId}
    {marker : Marker} (found : (store.onPositions frame).get deviceId = some marker) :
    store.get deviceId = some marker ∨
      ∃ item ∈ frame.items, item.deviceId = deviceId ∧ item.marker = marker := by
  rw [get_onPositions] at found
  split at found
  case isTrue => cases found
  case isFalse =>
      cases full : frame.full with
      | true =>
          rw [full, get_apply_full] at found
          split at found
          · exact origin_foldl_merge found
          · cases found
      | false =>
          rw [full] at found
          exact origin_foldl_merge found

end DeviceStore

end GeoTrack
