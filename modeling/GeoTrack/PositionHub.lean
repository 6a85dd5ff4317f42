import GeoTrack.OrderedDict
import GeoTrack.Codec
import GeoTrack.ViewportGrid

/-!
# The hub of current positions

The gateway's picture of where every device is, with what changed since the
last tick.  A chunk is kept as the list of its items rather than as the bytes
they are written in, and a `KeyError` is `none`.

Every operation moves one device at a time.  Seen from a single device the hub
is a small machine, its `DeviceView`, and the hub is sound when each of these
machines is and the cached chunks are current.
-/

namespace GeoTrack

abbrev Chunk := List PositionItem

/-- A device that left a cell, and where it went, `none` if it is gone. -/
structure Departure where
  deviceId : DeviceId
  movedTo : Option Cell
deriving DecidableEq

structure TickDelta where
  tMs : ℤ
  chunks : Dict Cell Chunk
  departures : Dict Cell (List Departure)

def TickDelta.isEmpty (delta : TickDelta) : Bool :=
  delta.chunks.entries.isEmpty && delta.departures.entries.isEmpty

structure HubEntry where
  item : PositionItem
  cell : Cell
deriving DecidableEq

structure Pending where
  changed : Dict Cell (KeySet DeviceId)
  departed : Dict Cell (Dict DeviceId (Option Cell))

def Pending.clear (_ : Pending) : Pending := ⟨∅, ∅⟩

structure PositionHub where
  grid : Grid
  staleAfterMs : ℤ
  latest : Dict DeviceId HubEntry
  cells : Dict Cell (KeySet DeviceId)
  pending : Pending
  snapshots : Dict Cell Chunk
  updates : ℕ

namespace PositionHub

def fresh (grid : Grid) (staleAfterS : ℕ) : PositionHub where
  grid := grid
  staleAfterMs := staleAfterS * 1000
  latest := ∅
  cells := ∅
  pending := ⟨∅, ∅⟩
  snapshots := ∅
  updates := 0

def cellOfItem (hub : PositionHub) (item : PositionItem) : Cell :=
  hub.grid.cellOf item.latitude item.longitude

def touch (hub : PositionHub) (cell : Cell) (deviceId : DeviceId) : PositionHub :=
  { hub with
    pending :=
      { changed := hub.pending.changed.set cell
          (((hub.pending.changed.get? cell).getD ∅).add deviceId)
        -- a device that came back within the same tick is not a departure
        departed := match hub.pending.departed.get? cell with
          | some moves => hub.pending.departed.set cell (moves.erase deviceId)
          | none => hub.pending.departed }
    snapshots := hub.snapshots.erase cell }

def leave (hub : PositionHub) (cell : Cell) (deviceId : DeviceId) (movedTo : Option Cell) :
    PositionHub :=
  { hub with
    cells := match hub.cells.get? cell with
      | some devices =>
          if (devices.discard deviceId).entries = [] then hub.cells.erase cell
          else hub.cells.set cell (devices.discard deviceId)
      | none => hub.cells
    pending :=
      { changed := match hub.pending.changed.get? cell with
          | some changed => hub.pending.changed.set cell (changed.discard deviceId)
          | none => hub.pending.changed
        departed := hub.pending.departed.set cell
          (((hub.pending.departed.get? cell).getD ∅).set deviceId movedTo) }
    snapshots := hub.snapshots.erase cell }

/-- The newest report wins. -/
def accepts (hub : PositionHub) (item : PositionItem) : Bool :=
  (hub.latest.get? item.deviceId).all fun entry => entry.item.reportedMs < item.reportedMs

/-- Leave the cell the device was in, if that is another one. -/
def vacate (hub : PositionHub) (item : PositionItem) : PositionHub :=
  match hub.latest.get? item.deviceId with
  | some entry =>
      if entry.cell ≠ hub.cellOfItem item then
        hub.leave entry.cell item.deviceId (some (hub.cellOfItem item))
      else hub
  | none => hub

/-- The body of the loop in `apply` for an item that is not skipped. -/
def place (hub : PositionHub) (item : PositionItem) : PositionHub :=
  let cell := hub.cellOfItem item
  let vacated := hub.vacate item
  { vacated with
    latest := vacated.latest.set item.deviceId ⟨item, cell⟩
    cells := vacated.cells.set cell
      (((vacated.cells.get? cell).getD ∅).add item.deviceId) }.touch cell item.deviceId

/-- The items of a batch that are not skipped. -/
def accepted (hub : PositionHub) : List PositionItem → List PositionItem
  | [] => []
  | item :: rest =>
      if hub.accepts item then item :: (hub.place item).accepted rest else hub.accepted rest

def apply (hub : PositionHub) (items : List PositionItem) : PositionHub :=
  { items.foldl (fun current item => if current.accepts item then current.place item else current)
      hub with
    updates := hub.updates + (hub.accepted items).length }

/-- The latest items of some devices. -/
def chunkOf (hub : PositionHub) (devices : KeySet DeviceId) : Option Chunk :=
  (hub.latest.getAll? devices.keys).map fun entries => entries.map HubEntry.item

def drain (hub : PositionHub) (tMs : ℤ) : Option (TickDelta × PositionHub) :=
  if hub.pending.changed.values.all fun devices => (hub.chunkOf devices).isSome then
    some
      ({ tMs := tMs
         chunks := hub.pending.changed.filterMap fun _ devices =>
           if devices.entries = [] then none else hub.chunkOf devices
         departures := hub.pending.departed.filterMap fun _ moves =>
           if moves.entries = [] then none
           else some (moves.entries.map fun move => ⟨move.1, move.2⟩) },
        { hub with pending := hub.pending.clear })
  else
    none

def discardPending (hub : PositionHub) : PositionHub :=
  { hub with pending := hub.pending.clear }

/-- The loop of `snapshot_chunks` over the cells that are left. -/
def snapshotLoop (rects : List CellRect) :
    PositionHub → List (Cell × KeySet DeviceId) → Option (List Chunk × PositionHub)
  | hub, [] => some ([], hub)
  | hub, (cell, devices) :: rest =>
      if covers rects cell then
        match hub.snapshots.get? cell with
        | some chunk =>
            (snapshotLoop rects hub rest).map fun result => (chunk :: result.1, result.2)
        | none =>
            (hub.chunkOf devices).bind fun chunk =>
              (snapshotLoop rects { hub with snapshots := hub.snapshots.set cell chunk } rest).map
                fun result => (chunk :: result.1, result.2)
      else
        snapshotLoop rects hub rest

/-- The current contents of every visible cell, read through the cache. -/
def snapshotChunks (hub : PositionHub) (rects : List CellRect) :
    Option (List Chunk × PositionHub) :=
  snapshotLoop rects hub hub.cells.entries

def forget (hub : PositionHub) (deviceId : DeviceId) : PositionHub :=
  match hub.latest.get? deviceId with
  | some entry => { hub with latest := hub.latest.erase deviceId }.leave entry.cell deviceId none
  | none => hub

/-- Forget the devices that stopped reporting. -/
def sweep (hub : PositionHub) (now : ℤ) : PositionHub :=
  let cutoff := now - hub.staleAfterMs
  let stale := (hub.latest.entries.filter fun entry => entry.2.item.reportedMs < cutoff).map
    Prod.fst
  stale.foldl forget hub

end PositionHub

/-- What the hub holds about one device: its entry, the cells that list it, the
cells in which it is marked as changed, and where it went from which cell. -/
@[ext]
structure DeviceView where
  latest : Option HubEntry
  held : Cell → Prop
  changed : Cell → Prop
  departed : Cell → Option (Option Cell)

namespace DeviceView

def touch (view : DeviceView) (cell : Cell) : DeviceView :=
  { view with
    changed := fun other => other = cell ∨ view.changed other
    departed := fun other => if other = cell then none else view.departed other }

def leave (view : DeviceView) (cell : Cell) (movedTo : Option Cell) : DeviceView :=
  { view with
    held := fun other => other ≠ cell ∧ view.held other
    changed := fun other => other ≠ cell ∧ view.changed other
    departed := fun other => if other = cell then some movedTo else view.departed other }

def vacate (view : DeviceView) (cell : Cell) : DeviceView :=
  match view.latest with
  | some entry => if entry.cell ≠ cell then view.leave entry.cell (some cell) else view
  | none => view

def place (view : DeviceView) (item : PositionItem) (cell : Cell) : DeviceView :=
  { view.vacate cell with
    latest := some ⟨item, cell⟩
    held := fun other => other = cell ∨ (view.vacate cell).held other }.touch cell

def forget (view : DeviceView) : DeviceView :=
  match view.latest with
  | some entry => { view with latest := none }.leave entry.cell none
  | none => view

def settle (view : DeviceView) : DeviceView :=
  { view with
    changed := fun _ => False
    departed := fun _ => none }

end DeviceView

namespace PositionHub

def view (hub : PositionHub) (deviceId : DeviceId) : DeviceView where
  latest := hub.latest.get? deviceId
  held := fun cell => deviceId ∈ (hub.cells.get? cell).getD ∅
  changed := fun cell => deviceId ∈ (hub.pending.changed.get? cell).getD ∅
  departed := fun cell => (hub.pending.departed.get? cell).bind fun moves => moves.get? deviceId

variable {hub : PositionHub}

@[simp]
theorem view_latest (hub : PositionHub) (deviceId : DeviceId) :
    (hub.view deviceId).latest = hub.latest.get? deviceId :=
  rfl

theorem view_touch (hub : PositionHub) (cell : Cell) (deviceId other : DeviceId) :
    (hub.touch cell deviceId).view other =
      if other = deviceId then (hub.view other).touch cell else hub.view other := by
  by_cases same : other = deviceId
  · subst same
    rw [if_pos rfl]
    refine DeviceView.ext rfl rfl ?_ ?_ <;> funext place
    · by_cases here : place = cell <;>
        simp [view, touch, DeviceView.touch, here]
    · cases known : hub.pending.departed.get? cell <;> by_cases here : place = cell <;>
        simp [view, touch, DeviceView.touch, here, known]
  · rw [if_neg same]
    refine DeviceView.ext rfl rfl ?_ ?_ <;> funext place
    · by_cases here : place = cell <;> simp [view, touch, here, same]
    · cases known : hub.pending.departed.get? cell <;> by_cases here : place = cell <;>
        simp [view, touch, here, known, same]

theorem mem_cells_leave (hub : PositionHub) (cell place : Cell) (deviceId other : DeviceId)
    (movedTo : Option Cell) :
    other ∈ ((hub.leave cell deviceId movedTo).cells.get? place).getD ∅ ↔
      ¬ (place = cell ∧ other = deviceId) ∧ other ∈ (hub.cells.get? place).getD ∅ := by
  unfold leave
  cases known : hub.cells.get? cell with
  | none =>
      by_cases here : place = cell <;> simp [here, known]
  | some devices =>
      by_cases here : place = cell
      · subst here
        by_cases last : (devices.discard deviceId).entries = []
        · have gone : other ∉ devices.discard deviceId := by
            rw [Dict.not_mem_iff]
            exact Dict.get?_eq_none_of_empty last other
          rw [KeySet.mem_discard] at gone
          simpa [last, known] using gone
        · simp [last, known]
      · by_cases last : (devices.discard deviceId).entries = [] <;> simp [last, here]

theorem view_leave (hub : PositionHub) (cell : Cell) (deviceId other : DeviceId)
    (movedTo : Option Cell) :
    (hub.leave cell deviceId movedTo).view other =
      if other = deviceId then (hub.view other).leave cell movedTo else hub.view other := by
  by_cases same : other = deviceId
  · subst same
    rw [if_pos rfl]
    refine DeviceView.ext rfl ?_ ?_ ?_ <;> funext place
    · simp [view, mem_cells_leave, DeviceView.leave]
    · cases known : hub.pending.changed.get? cell <;> by_cases here : place = cell <;>
        simp [view, leave, DeviceView.leave, here, known]
    · by_cases here : place = cell <;> simp [view, leave, DeviceView.leave, here]
  · rw [if_neg same]
    refine DeviceView.ext rfl ?_ ?_ ?_ <;> funext place
    · simp [view, mem_cells_leave, same]
    · cases known : hub.pending.changed.get? cell <;> by_cases here : place = cell <;>
        simp [view, leave, here, known, same]
    · cases known : hub.pending.departed.get? cell <;> by_cases here : place = cell <;>
        simp [view, leave, here, known, same]

theorem view_vacate (hub : PositionHub) (item : PositionItem) (other : DeviceId) :
    (hub.vacate item).view other =
      if other = item.deviceId then (hub.view other).vacate (hub.cellOfItem item)
      else hub.view other := by
  by_cases same : other = item.deviceId
  · subst same
    simp only [if_true, vacate, DeviceView.vacate, view_latest]
    cases known : hub.latest.get? item.deviceId with
    | none => rfl
    | some entry =>
        by_cases moved : entry.cell ≠ hub.cellOfItem item
        · simp [moved, view_leave]
        · simp [moved]
  · rw [if_neg same, vacate]
    cases hub.latest.get? item.deviceId with
    | none => rfl
    | some entry =>
        by_cases moved : entry.cell ≠ hub.cellOfItem item <;> simp [moved, view_leave, same]

@[simp]
theorem vacate_latest (hub : PositionHub) (item : PositionItem) :
    (hub.vacate item).latest = hub.latest := by
  unfold vacate
  split
  · split <;> rfl
  · rfl

theorem view_place (hub : PositionHub) (item : PositionItem) (other : DeviceId) :
    (hub.place item).view other =
      if other = item.deviceId then (hub.view other).place item (hub.cellOfItem item)
      else hub.view other := by
  have vacated := view_vacate hub item other
  unfold place
  rw [view_touch]
  by_cases same : other = item.deviceId
  · subst same
    rw [if_pos rfl] at vacated
    rw [if_pos rfl, if_pos rfl, DeviceView.place, ← vacated]
    congr 1
    refine DeviceView.ext (by simp [view]) ?_ rfl rfl
    funext cell
    by_cases here : cell = hub.cellOfItem item <;> simp [view, here]
  · rw [if_neg same] at vacated
    rw [if_neg same, if_neg same, ← vacated]
    refine DeviceView.ext (by simp [view, same]) ?_ rfl rfl
    funext cell
    by_cases here : cell = hub.cellOfItem item <;> simp [view, here, same]

theorem view_forget (hub : PositionHub) (deviceId other : DeviceId) :
    (hub.forget deviceId).view other =
      if other = deviceId then (hub.view other).forget else hub.view other := by
  unfold forget
  by_cases same : other = deviceId
  · subst same
    simp only [if_true, DeviceView.forget, view_latest]
    cases hub.latest.get? other with
    | none => rfl
    | some entry =>
        simp only [view_leave, if_true]
        congr 1
        exact DeviceView.ext (by simp [view]) rfl rfl rfl
  · rw [if_neg same]
    cases hub.latest.get? deviceId with
    | none => rfl
    | some entry =>
        simp only [view_leave, if_neg same]
        exact DeviceView.ext (by simp [view, same]) rfl rfl rfl

theorem view_discardPending (hub : PositionHub) (deviceId : DeviceId) :
    hub.discardPending.view deviceId = (hub.view deviceId).settle := by
  refine DeviceView.ext rfl rfl ?_ ?_
  · funext cell
    simp [view, discardPending, Pending.clear, DeviceView.settle]
  · funext cell
    simp [view, discardPending, Pending.clear, DeviceView.settle]

end PositionHub

namespace DeviceView

def cell? (view : DeviceView) : Option Cell := view.latest.map HubEntry.cell

/-- A device is listed in its cell and nowhere else, changes are recorded in
the cell it is in, and that is the cell of its item. -/
structure Sound (view : DeviceView) (grid : Grid) (deviceId : DeviceId) : Prop where
  held_iff : ∀ cell, view.held cell ↔ view.cell? = some cell
  changed_here : ∀ cell, view.changed cell → view.cell? = some cell
  located : ∀ entry, view.latest = some entry → entry.item.deviceId = deviceId ∧
    entry.cell = grid.cellOf entry.item.latitude entry.item.longitude

variable {view : DeviceView} {grid : Grid} {deviceId : DeviceId}

theorem held_vacate (sound : view.Sound grid deviceId) (cell other : Cell) :
    (view.vacate cell).held other → other = cell := by
  unfold vacate
  cases known : view.latest with
  | none =>
      intro held
      rw [sound.held_iff, cell?, known] at held
      cases held
  | some entry =>
      by_cases moved : entry.cell ≠ cell
      · simp only [if_pos moved, leave]
        rintro ⟨different, held⟩
        rw [sound.held_iff, cell?, known] at held
        exact absurd (Option.some.inj held).symm different
      · simp only [if_neg moved]
        intro held
        rw [sound.held_iff, cell?, known] at held
        rw [← Option.some.inj held]
        exact not_not.mp moved

theorem changed_vacate (sound : view.Sound grid deviceId) (cell other : Cell) :
    (view.vacate cell).changed other → other = cell := by
  intro changed
  apply held_vacate sound
  revert changed
  unfold vacate
  cases known : view.latest with
  | none => exact fun changed => (sound.held_iff other).mpr (sound.changed_here other changed)
  | some entry =>
      by_cases moved : entry.cell ≠ cell
      · simp only [if_pos moved, leave]
        rintro ⟨different, changed⟩
        exact ⟨different, (sound.held_iff other).mpr (sound.changed_here other changed)⟩
      · simp only [if_neg moved]
        exact fun changed => (sound.held_iff other).mpr (sound.changed_here other changed)

theorem Sound.place (sound : view.Sound grid deviceId) {item : PositionItem}
    (about : item.deviceId = deviceId) :
    (view.place item (grid.cellOf item.latitude item.longitude)).Sound grid deviceId where
  held_iff cell := by
    simp only [DeviceView.place, touch, cell?, Option.map_some, Option.some.injEq]
    constructor
    · rintro (rfl | held)
      · rfl
      · exact (held_vacate sound _ cell held).symm
    · exact fun same => Or.inl same.symm
  changed_here cell := by
    simp only [DeviceView.place, touch, cell?, Option.map_some, Option.some.injEq]
    rintro (rfl | changed)
    · rfl
    · exact (changed_vacate sound _ cell changed).symm
  located entry := by
    simp only [DeviceView.place, touch, Option.some.injEq]
    rintro rfl
    exact ⟨about, rfl⟩

theorem Sound.forget (sound : view.Sound grid deviceId) : view.forget.Sound grid deviceId := by
  unfold DeviceView.forget
  cases known : view.latest with
  | none => exact sound
  | some entry =>
      have where_ : view.cell? = some entry.cell := by rw [cell?, known]; rfl
      refine ⟨?_, ?_, ?_⟩
      · intro cell
        simp only [leave, cell?, Option.map_none]
        constructor
        · rintro ⟨different, held⟩
          rw [sound.held_iff, where_] at held
          exact absurd (Option.some.inj held).symm different
        · intro impossible
          cases impossible
      · rintro cell ⟨different, changed⟩
        have there := sound.changed_here cell changed
        rw [where_] at there
        exact absurd (Option.some.inj there).symm different
      · intro other impossible
        cases impossible

theorem Sound.settle (sound : view.Sound grid deviceId) : view.settle.Sound grid deviceId where
  held_iff := sound.held_iff
  changed_here _ impossible := impossible.elim
  located := sound.located

end DeviceView

namespace PositionHub

variable {hub : PositionHub}

/-- Every device is sound, no cell is listed without devices, and what the
cache holds for a cell is what the cell holds. -/
structure Sound (hub : PositionHub) : Prop where
  devices : ∀ deviceId, (hub.view deviceId).Sound hub.grid deviceId
  inhabited : ∀ cell devices, hub.cells.get? cell = some devices → devices.entries ≠ []
  cached : ∀ cell chunk, hub.snapshots.get? cell = some chunk →
    ∃ devices, hub.cells.get? cell = some devices ∧ hub.chunkOf devices = some chunk

theorem chunkOf_congr {other : PositionHub} {devices : KeySet DeviceId}
    (same : ∀ deviceId ∈ devices, hub.latest.get? deviceId = other.latest.get? deviceId) :
    hub.chunkOf devices = other.chunkOf devices := by
  unfold chunkOf
  rw [Dict.getAll?_congr fun deviceId listed => same deviceId (Dict.mem_keys_iff.mp listed)]

theorem exists_chunkOf {devices : KeySet DeviceId}
    (known : ∀ deviceId ∈ devices, deviceId ∈ hub.latest) :
    ∃ chunk, hub.chunkOf devices = some chunk := by
  obtain ⟨entries, found⟩ := Dict.exists_getAll?_iff.mpr fun deviceId listed =>
    known deviceId (Dict.mem_keys_iff.mp listed)
  exact ⟨_, by rw [chunkOf, found]; rfl⟩

theorem mem_chunkOf {devices : KeySet DeviceId} {chunk : Chunk}
    (found : hub.chunkOf devices = some chunk) {item : PositionItem} :
    item ∈ chunk ↔ ∃ deviceId ∈ devices, ∃ entry,
      hub.latest.get? deviceId = some entry ∧ entry.item = item := by
  obtain ⟨entries, looked, rfl⟩ := Option.map_eq_some_iff.mp found
  rw [List.mem_map]
  constructor
  · rintro ⟨entry, listed, rfl⟩
    obtain ⟨deviceId, isKey, known⟩ := (Dict.mem_getAll?_iff looked).mp listed
    exact ⟨deviceId, Dict.mem_keys_iff.mp isKey, entry, known, rfl⟩
  · rintro ⟨deviceId, isMember, entry, known, rfl⟩
    exact ⟨entry, (Dict.mem_getAll?_iff looked).mpr
      ⟨deviceId, Dict.mem_keys_iff.mpr isMember, known⟩, rfl⟩

theorem Sound.mem_cells (sound : hub.Sound) {deviceId : DeviceId} {cell : Cell}
    {devices : KeySet DeviceId} (listed : hub.cells.get? cell = some devices)
    (isMember : deviceId ∈ devices) : (hub.view deviceId).cell? = some cell := by
  rw [← (sound.devices deviceId).held_iff]
  change deviceId ∈ (hub.cells.get? cell).getD ∅
  rw [listed]
  exact isMember

/-- The cache survives a step that drops every cached cell the device was in or
is listed in now. -/
theorem cached_of_unheld {after : PositionHub} (sound : hub.Sound) (deviceId : DeviceId)
    (others : ∀ other, other ≠ deviceId → after.latest.get? other = hub.latest.get? other)
    (kept : ∀ cell chunk, after.snapshots.get? cell = some chunk →
      hub.snapshots.get? cell = some chunk ∧ after.cells.get? cell = hub.cells.get? cell ∧
        (hub.view deviceId).cell? ≠ some cell) :
    ∀ cell chunk, after.snapshots.get? cell = some chunk →
      ∃ devices, after.cells.get? cell = some devices ∧ after.chunkOf devices = some chunk := by
  intro cell chunk isCached
  obtain ⟨wasCached, sameCell, elsewhere⟩ := kept cell chunk isCached
  obtain ⟨devices, listed, current⟩ := sound.cached cell chunk wasCached
  refine ⟨devices, sameCell.trans listed, ?_⟩
  rw [← current]
  apply chunkOf_congr
  intro other isMember
  apply others
  rintro rfl
  exact elsewhere (sound.mem_cells listed isMember)

theorem cells_leave_of_ne {cell place : Cell} (deviceId : DeviceId) (movedTo : Option Cell)
    (different : place ≠ cell) :
    (hub.leave cell deviceId movedTo).cells.get? place = hub.cells.get? place := by
  unfold leave
  cases hub.cells.get? cell with
  | none => rfl
  | some devices =>
      by_cases last : (devices.discard deviceId).entries = [] <;> simp [last, different]

theorem inhabited_leave (cell : Cell) (deviceId : DeviceId) (movedTo : Option Cell)
    (inhabited : ∀ cell devices, hub.cells.get? cell = some devices → devices.entries ≠ []) :
    ∀ place devices, (hub.leave cell deviceId movedTo).cells.get? place = some devices →
      devices.entries ≠ [] := by
  intro place devices listed
  by_cases here : place = cell
  · subst here
    unfold leave at listed
    cases known : hub.cells.get? place with
    | none => simp [known] at listed
    | some before =>
        by_cases last : (before.discard deviceId).entries = []
        · simp [known, last] at listed
        · simp only [known, if_neg last, Dict.get?_set, if_true, Option.some.injEq] at listed
          exact listed ▸ last
  · rw [cells_leave_of_ne deviceId movedTo here] at listed
    exact inhabited place devices listed

/-- What is still cached after the device has left its cell. -/
theorem vacate_elsewhere {item : PositionItem} {cell : Cell} {chunk : Chunk}
    (different : cell ≠ hub.cellOfItem item)
    (isCached : (hub.vacate item).snapshots.get? cell = some chunk) :
    hub.snapshots.get? cell = some chunk ∧
      (hub.vacate item).cells.get? cell = hub.cells.get? cell ∧
      (hub.view item.deviceId).cell? ≠ some cell := by
  unfold vacate at isCached ⊢
  rw [DeviceView.cell?, view_latest]
  cases known : hub.latest.get? item.deviceId with
  | none =>
      simp only [known] at isCached
      exact ⟨isCached, rfl, by simp⟩
  | some entry =>
      by_cases moved : entry.cell ≠ hub.cellOfItem item
      · simp only [known, if_pos moved] at isCached ⊢
        have stays : cell ≠ entry.cell := by
          rintro rfl
          simp [leave] at isCached
        refine ⟨by simpa [leave, stays] using isCached,
          cells_leave_of_ne item.deviceId _ stays, ?_⟩
        simpa using stays.symm
      · simp only [known, if_neg moved] at isCached ⊢
        refine ⟨isCached, by simp, ?_⟩
        simp only [Option.map_some, ne_eq, Option.some.injEq]
        rintro rfl
        exact moved different

@[simp]
theorem vacate_grid (hub : PositionHub) (item : PositionItem) :
    (hub.vacate item).grid = hub.grid := by
  unfold vacate
  split
  · split <;> rfl
  · rfl

@[simp]
theorem place_grid (hub : PositionHub) (item : PositionItem) :
    (hub.place item).grid = hub.grid :=
  vacate_grid hub item

@[simp]
theorem forget_grid (hub : PositionHub) (deviceId : DeviceId) :
    (hub.forget deviceId).grid = hub.grid := by
  unfold forget
  split <;> rfl

theorem Sound.place (sound : hub.Sound) (item : PositionItem) : (hub.place item).Sound where
  devices deviceId := by
    rw [view_place, place_grid]
    split
    case isTrue same =>
        exact (sound.devices deviceId).place same.symm
    case isFalse => exact sound.devices deviceId
  inhabited cell devices listed := by
    simp only [PositionHub.place, touch, Dict.get?_set] at listed
    split at listed
    case isTrue =>
        intro nobody
        have isMember : item.deviceId ∈ devices := by
          rw [← Option.some.inj listed]
          simp
        rw [Dict.mem_def, Dict.get?_eq_none_of_empty nobody] at isMember
        cases isMember
    case isFalse different =>
        revert listed
        unfold vacate
        split
        · split
          · exact inhabited_leave _ _ _ sound.inhabited cell devices
          · exact sound.inhabited cell devices
        · exact sound.inhabited cell devices
  cached := by
    refine cached_of_unheld sound item.deviceId ?_ ?_
    · intro other different
      simp [PositionHub.place, touch, different]
    · intro cell chunk isCached
      have different : cell ≠ hub.cellOfItem item := by
        rintro rfl
        simp [PositionHub.place, touch] at isCached
      simp only [PositionHub.place, touch, Dict.get?_erase, if_neg different] at isCached
      have elsewhere := vacate_elsewhere different isCached
      refine ⟨elsewhere.1, ?_, elsewhere.2.2⟩
      rw [← elsewhere.2.1]
      simp [PositionHub.place, touch, different]

theorem Sound.forget (sound : hub.Sound) (deviceId : DeviceId) : (hub.forget deviceId).Sound where
  devices other := by
    rw [view_forget, forget_grid]
    split
    · exact (sound.devices other).forget
    · exact sound.devices other
  inhabited := by
    unfold PositionHub.forget
    split
    · exact inhabited_leave _ _ _ sound.inhabited
    · exact sound.inhabited
  cached := by
    cases known : hub.latest.get? deviceId with
    | none =>
        have unchanged : hub.forget deviceId = hub := by rw [PositionHub.forget, known]
        rw [unchanged]
        exact sound.cached
    | some entry =>
        refine cached_of_unheld sound deviceId ?_ ?_
        · intro other different
          simp [PositionHub.forget, known, leave, different]
        · intro cell chunk isCached
          simp only [PositionHub.forget, known] at isCached ⊢
          have stays : cell ≠ entry.cell := by
            rintro rfl
            simp [leave] at isCached
          refine ⟨by simpa [leave, stays] using isCached, cells_leave_of_ne deviceId _ stays, ?_⟩
          rw [DeviceView.cell?, view_latest, known]
          simpa using stays.symm

theorem Sound.discardPending (sound : hub.Sound) : hub.discardPending.Sound where
  devices deviceId := by
    rw [view_discardPending]
    exact (sound.devices deviceId).settle
  inhabited := sound.inhabited
  cached := sound.cached

theorem sound_fresh (grid : Grid) (staleAfterS : ℕ) : (fresh grid staleAfterS).Sound where
  devices deviceId := by
    refine ⟨?_, ?_, ?_⟩ <;> simp [view, fresh, DeviceView.cell?]
  inhabited := by simp [fresh]
  cached := by simp [fresh]

/-- What holds of a hub before a batch and survives every accepted item, the
list of accepted items growing along, holds after the batch. -/
theorem apply_induction {motive : PositionHub → List PositionItem → Prop}
    (items log : List PositionItem) (start : motive hub log)
    (accept : ∀ current done item, current.accepts item = true → motive current done →
      motive (current.place item) (done ++ [item]))
    (count : ∀ current done updates, motive current done →
      motive { current with updates := updates } done) :
    motive (hub.apply items) (log ++ hub.accepted items) := by
  unfold apply
  apply count
  induction items generalizing hub log with
  | nil => simpa [accepted] using start
  | cons item rest ih =>
      rw [List.foldl_cons, accepted]
      by_cases accepts : hub.accepts item = true
      · rw [if_pos accepts, if_pos accepts, List.append_cons]
        exact ih _ (accept hub log item accepts start)
      · rw [if_neg accepts, if_neg accepts]
        exact ih log start

theorem sweep_induction {motive : PositionHub → Prop} (now : ℤ) (start : motive hub)
    (forget : ∀ current deviceId, motive current → motive (current.forget deviceId)) :
    motive (hub.sweep now) := by
  have each : ∀ stale : List DeviceId, motive (stale.foldl PositionHub.forget hub) := by
    intro stale
    induction stale generalizing hub with
    | nil => exact start
    | cons deviceId rest ih => exact ih (forget hub deviceId start)
  exact each _

theorem Sound.apply (sound : hub.Sound) (items : List PositionItem) : (hub.apply items).Sound :=
  @apply_induction hub (fun current _ => current.Sound) items [] sound
    (fun _ _ item _ before => before.place item)
    (fun _ _ _ before => ⟨before.devices, before.inhabited, before.cached⟩)

theorem Sound.sweep (sound : hub.Sound) (now : ℤ) : (hub.sweep now).Sound :=
  sweep_induction now sound fun _ deviceId before => before.forget deviceId

theorem mem_latest_of_cell? {deviceId : DeviceId} {cell : Cell}
    (there : (hub.view deviceId).cell? = some cell) : deviceId ∈ hub.latest := by
  obtain ⟨entry, known, -⟩ := Option.map_eq_some_iff.mp there
  exact Dict.mem_iff_exists.mpr ⟨entry, known⟩

theorem Sound.mem_changed (sound : hub.Sound) {deviceId : DeviceId} {cell : Cell}
    {devices : KeySet DeviceId} (listed : hub.pending.changed.get? cell = some devices)
    (isMember : deviceId ∈ devices) : (hub.view deviceId).cell? = some cell := by
  apply (sound.devices deviceId).changed_here
  change deviceId ∈ (hub.pending.changed.get? cell).getD ∅
  rw [listed]
  exact isMember

/-- A tick's delta holds the items of the devices marked as changed and the
departures of those that left. -/
structure Delta (hub : PositionHub) (delta : TickDelta) : Prop where
  chunk_nonempty : ∀ cell chunk, delta.chunks.get? cell = some chunk → chunk ≠ []
  mem_chunk : ∀ cell item, (∃ chunk, delta.chunks.get? cell = some chunk ∧ item ∈ chunk) ↔
    ∃ entry, hub.latest.get? item.deviceId = some entry ∧ entry.item = item ∧
      (hub.view item.deviceId).changed cell
  mem_departures : ∀ cell departure,
    (∃ departures, delta.departures.get? cell = some departures ∧ departure ∈ departures) ↔
      (hub.view departure.deviceId).departed cell = some departure.movedTo

theorem Sound.chunkOf_changed (sound : hub.Sound) {cell : Cell} {devices : KeySet DeviceId}
    (listed : hub.pending.changed.get? cell = some devices) :
    ∃ chunk, hub.chunkOf devices = some chunk :=
  exists_chunkOf fun _ isMember => mem_latest_of_cell? (sound.mem_changed listed isMember)

theorem chunkOf_ne_nil {devices : KeySet DeviceId} {chunk : Chunk}
    (inhabited : devices.entries ≠ []) (made : hub.chunkOf devices = some chunk) : chunk ≠ [] := by
  obtain ⟨entries, looked, rfl⟩ := Option.map_eq_some_iff.mp made
  rw [Dict.getAll?_eq_some_iff] at looked
  intro nothing
  apply inhabited
  rw [List.map_eq_nil_iff] at nothing
  rw [nothing, List.map_nil, List.map_eq_nil_iff, Dict.keys, List.map_eq_nil_iff] at looked
  exact looked

theorem changedChunk_iff {cell : Cell} {chunk : Chunk} :
    (hub.pending.changed.filterMap fun _ devices =>
        if devices.entries = [] then none else hub.chunkOf devices).get? cell = some chunk ↔
      ∃ devices, hub.pending.changed.get? cell = some devices ∧ devices.entries ≠ [] ∧
        hub.chunkOf devices = some chunk := by
  rw [Dict.get?_filterMap, Option.bind_eq_some_iff]
  apply exists_congr
  intro devices
  by_cases nobody : devices.entries = [] <;> simp [nobody]

theorem Sound.mem_changedChunk (sound : hub.Sound) (cell : Cell) (item : PositionItem) :
    (∃ devices, hub.pending.changed.get? cell = some devices ∧ devices.entries ≠ [] ∧
        ∃ chunk, hub.chunkOf devices = some chunk ∧ item ∈ chunk) ↔
      ∃ entry, hub.latest.get? item.deviceId = some entry ∧ entry.item = item ∧
        (hub.view item.deviceId).changed cell := by
  constructor
  · rintro ⟨devices, listed, -, chunk, made, isMember⟩
    obtain ⟨deviceId, inDevices, entry, known, rfl⟩ := (mem_chunkOf made).mp isMember
    obtain ⟨named, -⟩ := (sound.devices deviceId).located entry known
    rw [named]
    refine ⟨entry, known, rfl, ?_⟩
    change deviceId ∈ (hub.pending.changed.get? cell).getD ∅
    rw [listed]
    exact inDevices
  · rintro ⟨entry, known, rfl, changed⟩
    change entry.item.deviceId ∈ (hub.pending.changed.get? cell).getD ∅ at changed
    cases listed : hub.pending.changed.get? cell with
    | none => simp [listed] at changed
    | some devices =>
        rw [listed, Option.getD_some] at changed
        have inhabited : devices.entries ≠ [] := by
          intro nobody
          rw [Dict.mem_def, Dict.get?_eq_none_of_empty nobody] at changed
          cases changed
        obtain ⟨chunk, made⟩ := sound.chunkOf_changed listed
        exact ⟨devices, rfl, inhabited, chunk, made,
          (mem_chunkOf made).mpr ⟨_, changed, entry, known, rfl⟩⟩

theorem mem_departures_iff (cell : Cell) (departure : Departure) :
    (∃ departures, (hub.pending.departed.filterMap fun _ moves =>
        if moves.entries = [] then none
        else some (moves.entries.map fun move => (⟨move.1, move.2⟩ : Departure))).get? cell =
          some departures ∧ departure ∈ departures) ↔
      (hub.view departure.deviceId).departed cell = some departure.movedTo := by
  obtain ⟨deviceId, movedTo⟩ := departure
  simp only [Dict.get?_filterMap, Option.bind_eq_some_iff, view]
  constructor
  · rintro ⟨departures, ⟨moves, listed, made⟩, isMember⟩
    split at made
    case isTrue => cases made
    case isFalse =>
        obtain rfl := Option.some.inj made
        obtain ⟨⟨_, _⟩, isEntry, same⟩ := List.mem_map.mp isMember
        obtain ⟨rfl, rfl⟩ := Departure.mk.inj same
        exact ⟨moves, listed, Dict.mem_entries_iff.mp isEntry⟩
  · rintro ⟨moves, listed, found⟩
    have isEntry := Dict.mem_entries_iff.mpr found
    have inhabited : moves.entries ≠ [] := List.ne_nil_of_mem isEntry
    exact ⟨_, ⟨moves, listed, if_neg inhabited⟩, List.mem_map.mpr ⟨_, isEntry, rfl⟩⟩

/-- Draining a sound hub raises no error. -/
theorem Sound.drain (sound : hub.Sound) (tMs : ℤ) :
    ∃ delta, hub.drain tMs = some (delta, hub.discardPending) ∧ hub.Delta delta := by
  have succeeds : hub.pending.changed.values.all (fun devices => (hub.chunkOf devices).isSome) =
      true := by
    rw [List.all_eq_true]
    intro devices listed
    obtain ⟨⟨cell, _⟩, isEntry, rfl⟩ := List.mem_map.mp listed
    obtain ⟨chunk, found⟩ := sound.chunkOf_changed (Dict.mem_entries_iff.mp isEntry)
    rw [found]
    rfl
  rw [PositionHub.drain, if_pos succeeds]
  refine ⟨_, rfl, ?_, ?_, mem_departures_iff⟩
  · intro cell chunk found
    obtain ⟨devices, -, inhabited, made⟩ := changedChunk_iff.mp found
    exact chunkOf_ne_nil inhabited made
  · intro cell item
    rw [← sound.mem_changedChunk]
    constructor
    · rintro ⟨chunk, found, isMember⟩
      obtain ⟨devices, listed, inhabited, made⟩ := changedChunk_iff.mp found
      exact ⟨devices, listed, inhabited, chunk, made, isMember⟩
    · rintro ⟨devices, listed, inhabited, chunk, made, isMember⟩
      exact ⟨chunk, changedChunk_iff.mpr ⟨devices, listed, inhabited, made⟩, isMember⟩

theorem Sound.cache (sound : hub.Sound) {cell : Cell} {devices : KeySet DeviceId} {chunk : Chunk}
    (listed : hub.cells.get? cell = some devices) (made : hub.chunkOf devices = some chunk) :
    PositionHub.Sound { hub with snapshots := hub.snapshots.set cell chunk } := by
  refine ⟨sound.devices, sound.inhabited, ?_⟩
  intro other content isCached
  rw [Dict.get?_set] at isCached
  split at isCached
  case isTrue same =>
      obtain rfl := Option.some.inj isCached
      exact ⟨devices, same ▸ listed, made⟩
  case isFalse => exact sound.cached other content isCached

theorem snapshotLoop_spec (rects : List CellRect) (sound : hub.Sound)
    (entries : List (Cell × KeySet DeviceId))
    (current : ∀ entry ∈ entries, entry ∈ hub.cells.entries) :
    ∃ chunks snapshots, snapshotLoop rects hub entries =
        some (chunks, { hub with snapshots := snapshots }) ∧
      PositionHub.Sound { hub with snapshots := snapshots } ∧
      ∀ item, item ∈ chunks.flatten ↔ ∃ entry ∈ entries, covers rects entry.1 = true ∧
        ∃ chunk, hub.chunkOf entry.2 = some chunk ∧ item ∈ chunk := by
  induction entries generalizing hub with
  | nil => exact ⟨[], hub.snapshots, rfl, sound, by simp⟩
  | cons entry rest ih =>
      obtain ⟨cell, devices⟩ := entry
      have listed : hub.cells.get? cell = some devices :=
        Dict.mem_entries_iff.mp (current _ (List.mem_cons_self ..))
      have others : ∀ entry ∈ rest, entry ∈ hub.cells.entries := fun entry isMember =>
        current entry (List.mem_cons_of_mem _ isMember)
      rw [snapshotLoop]
      by_cases covered : covers rects cell = true
      · rw [if_pos covered]
        cases known : hub.snapshots.get? cell with
        | some chunk =>
            obtain ⟨chunks, snapshots, looped, after, items⟩ := ih sound others
            obtain ⟨_, sameDevices, made⟩ := sound.cached cell chunk known
            rw [listed] at sameDevices
            obtain rfl := Option.some.inj sameDevices
            refine ⟨chunk :: chunks, snapshots, by simp [looped], after, ?_⟩
            intro item
            simp [items, covered, made]
        | none =>
            obtain ⟨chunk, made⟩ := exists_chunkOf fun _ isMember =>
              mem_latest_of_cell? (sound.mem_cells listed isMember)
            obtain ⟨chunks, snapshots, looped, after, items⟩ := ih (sound.cache listed made) others
            refine ⟨chunk :: chunks, snapshots, by simp [made, looped], after, ?_⟩
            intro item
            have later := items item
            simp only [List.flatten_cons, List.mem_append, List.exists_mem_cons_iff, covered, made]
            rw [later]
            simp [chunkOf]
      · rw [if_neg covered]
        obtain ⟨chunks, snapshots, looped, after, items⟩ := ih sound others
        refine ⟨chunks, snapshots, looped, after, ?_⟩
        intro item
        simp [items, covered]

/-- The items are the latest the hub holds of their devices. -/
def Current (hub : PositionHub) (items : List PositionItem) : Prop :=
  ∀ item ∈ items, ∃ entry, hub.latest.get? item.deviceId = some entry ∧ entry.item = item

theorem Current.unique {items : List PositionItem} (current : hub.Current items)
    {first second : PositionItem} (isFirst : first ∈ items) (isSecond : second ∈ items)
    (same : first.deviceId = second.deviceId) : first = second := by
  obtain ⟨entry, known, rfl⟩ := current first isFirst
  obtain ⟨_, knownToo, rfl⟩ := current second isSecond
  rw [← same, known] at knownToo
  rw [Option.some.inj knownToo]

/-- These chunks hold the items of the devices in covered cells. -/
def Snapshot (hub : PositionHub) (rects : List CellRect) (chunks : List Chunk) : Prop :=
  ∀ item, item ∈ chunks.flatten ↔ ∃ entry, hub.latest.get? item.deviceId = some entry ∧
    entry.item = item ∧ covers rects entry.cell = true

theorem Snapshot.current {rects : List CellRect} {chunks : List Chunk}
    (snapshot : hub.Snapshot rects chunks) : hub.Current chunks.flatten := by
  intro item isMember
  obtain ⟨entry, known, same, -⟩ := (snapshot item).mp isMember
  exact ⟨entry, known, same⟩

/-- Taking a snapshot of a sound hub raises no error and changes the cache at
most. -/
theorem Sound.snapshotChunks (sound : hub.Sound) (rects : List CellRect) :
    ∃ chunks snapshots, hub.snapshotChunks rects =
        some (chunks, { hub with snapshots := snapshots }) ∧
      PositionHub.Sound { hub with snapshots := snapshots } ∧ hub.Snapshot rects chunks := by
  obtain ⟨chunks, snapshots, looped, after, items⟩ :=
    snapshotLoop_spec rects sound hub.cells.entries fun _ isMember => isMember
  refine ⟨chunks, snapshots, looped, after, ?_⟩
  intro item
  rw [items]
  constructor
  · rintro ⟨⟨cell, devices⟩, isEntry, covered, chunk, made, isMember⟩
    obtain ⟨deviceId, inDevices, entry, known, rfl⟩ := (mem_chunkOf made).mp isMember
    have located := (sound.devices deviceId).located entry known
    rw [located.1]
    refine ⟨entry, known, rfl, ?_⟩
    have there := sound.mem_cells (Dict.mem_entries_iff.mp isEntry) inDevices
    rw [DeviceView.cell?, view_latest, known] at there
    rw [Option.some.inj there]
    exact covered
  · rintro ⟨entry, known, rfl, covered⟩
    have held : (hub.view entry.item.deviceId).held entry.cell := by
      rw [(sound.devices _).held_iff, DeviceView.cell?, view_latest, known]
      rfl
    change entry.item.deviceId ∈ (hub.cells.get? entry.cell).getD ∅ at held
    cases listed : hub.cells.get? entry.cell with
    | none => simp [listed] at held
    | some devices =>
        rw [listed, Option.getD_some] at held
        obtain ⟨chunk, made⟩ := exists_chunkOf fun _ isMember =>
          mem_latest_of_cell? (sound.mem_cells listed isMember)
        exact ⟨(entry.cell, devices), Dict.mem_entries_iff.mpr listed, covered, chunk, made,
          (mem_chunkOf made).mpr ⟨_, held, entry, known, rfl⟩⟩

end PositionHub

end GeoTrack
