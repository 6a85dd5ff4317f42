import GeoTrack.DeviceAppearances
import Mathlib.Analysis.Convex.Hull

/-!
# The way of a marker from one report to the next

Between two reports a marker is drawn on the straight line from where it was when
the newer one came to where that one says.  A device that is on screen starts
from where it is drawn, and one that has just appeared starts where it is, so a
marker never leaves the convex hull of what its device reported since it
appeared, and no report makes it jump.

The buffers hold this way in three rows of a slot and the time it began.  Seen
from one device they are a small machine that knows nothing of slots.  The numbers
are exact here: the products and sums of the way are not rounded.
-/

namespace GeoTrack

/-- A place on the map, longitude first. -/
def PositionItem.place (item : PositionItem) : ℚ × ℚ := (item.longitude, item.latitude)

def Marker.place (marker : Marker) : ℚ × ℚ := (marker.longitude, marker.latitude)

namespace DeviceBuffers.Glide

/-- How much of the way is behind a marker, one or more where it has arrived. -/
def progress (nowMs durationMs : ℤ) (glide : Glide) : ℚ :=
  if 0 < durationMs then ((nowMs - glide.since : ℤ) : ℚ) / durationMs else 1

def Arrived (nowMs durationMs : ℤ) (glide : Glide) : Prop := 1 ≤ glide.progress nowMs durationMs

instance (nowMs durationMs : ℤ) (glide : Glide) : Decidable (glide.Arrived nowMs durationMs) :=
  inferInstanceAs (Decidable (1 ≤ _))

/-- A share of the way from one number to another, in exact arithmetic. -/
def along (share start finish : ℚ) : ℚ := start + (finish - start) * share

/-- Where a frame draws the marker. -/
def position (nowMs durationMs : ℤ) (glide : Glide) : ℚ × ℚ :=
  if glide.Arrived nowMs durationMs then glide.target
  else
    let share := if 0 < glide.progress nowMs durationMs then glide.progress nowMs durationMs else 0
    (along share glide.origin.1 glide.target.1, along share glide.origin.2 glide.target.2)

def drawnAt (place : ℚ × ℚ) (glide : Glide) : Glide := { glide with drawn := place }

/-- The next way begins where the marker is drawn, or at the report. -/
def report (place : ℚ × ℚ) (nowMs : ℤ) : Option Glide → Glide
  | some glide => ⟨glide.drawn, glide.drawn, place, nowMs⟩
  | none => ⟨place, place, place, nowMs⟩

/-- All of the way is in a set. -/
structure Inside (area : Set (ℚ × ℚ)) (glide : Glide) : Prop where
  drawn : glide.drawn ∈ area
  origin : glide.origin ∈ area
  target : glide.target ∈ area

variable {area : Set (ℚ × ℚ)} {glide : Glide}

theorem Inside.position_mem (inside : glide.Inside area) (convex : Convex ℚ area)
    (nowMs durationMs : ℤ) : glide.position nowMs durationMs ∈ area := by
  unfold position
  split
  case isTrue => exact inside.target
  case isFalse short =>
      dsimp only
      generalize isShare : (if 0 < glide.progress nowMs durationMs then
        glide.progress nowMs durationMs else 0) = share
      have proper : share ∈ Set.Icc (0 : ℚ) 1 := by
        rw [← isShare]
        split
        case isTrue positive => exact ⟨positive.le, (not_le.mp short).le⟩
        case isFalse => exact ⟨le_refl 0, zero_le_one⟩
      have onTheWay := convex.add_smul_sub_mem inside.origin inside.target proper
      have same : glide.origin + share • (glide.target - glide.origin) =
          (along share glide.origin.1 glide.target.1,
            along share glide.origin.2 glide.target.2) := by
        simp [Prod.ext_iff, along, mul_comm]
      rwa [same] at onTheWay

theorem Inside.drawnAt (inside : glide.Inside area) {place : ℚ × ℚ} (within : place ∈ area) :
    (glide.drawnAt place).Inside area :=
  ⟨within, inside.origin, inside.target⟩

theorem inside_report {place : ℚ × ℚ} (within : place ∈ area) {known : Option Glide}
    (inside : ∀ glide ∈ known, Inside area glide) (nowMs : ℤ) :
    (report place nowMs known).Inside area := by
  cases known with
  | none => exact ⟨within, within, within⟩
  | some glide =>
      have drawn := (inside glide rfl).drawn
      exact ⟨drawn, drawn, within⟩

theorem arrived_of_le {nowMs durationMs : ℤ} (late : glide.since + durationMs ≤ nowMs) :
    glide.Arrived nowMs durationMs := by
  unfold Arrived progress
  split
  case isFalse => exact le_refl 1
  case isTrue positive =>
      rw [le_div_iff₀ (by exact_mod_cast positive), one_mul]
      exact_mod_cast (by omega : durationMs ≤ nowMs - glide.since)

end DeviceBuffers.Glide

namespace DeviceBuffers

section Rows

/-- Advance every marker; the first component says whether one is on its way. -/
def interpolate (nowMs durationMs : ℤ) (buffers : DeviceBuffers) : Bool × DeviceBuffers :=
  ((List.range buffers.slotIds.length).any fun slot =>
      !decide ((buffers.glide slot).Arrived nowMs durationMs),
    buffers.draw fun slot => (buffers.glide slot).position nowMs durationMs)

def snap (buffers : DeviceBuffers) : DeviceBuffers :=
  buffers.draw fun slot => (buffers.glide slot).target

open StridedBuffer

variable {buffers : DeviceBuffers} {slot : ℕ}

theorem glide_place (within : slot < buffers.capacity) (isNew : Bool) (nowMs : ℤ)
    (item : PositionItem) :
    (buffers.place isNew slot nowMs item).glide = Function.update buffers.glide slot
      (Glide.report item.place nowMs (if isNew then none else some (buffers.glide slot))) := by
  funext other
  by_cases same : other = slot
  · subst same
    cases isNew with
    | true => simp [glide, place, read_write within, Glide.report, PositionItem.place]
    | false => simp [glide, place, read_write within, Glide.report, PositionItem.place]
  · cases isNew with
    | true => simp [glide, place, read_write_of_ne same, Function.update_of_ne same]
    | false => simp [glide, place, read_write_of_ne same, Function.update_of_ne same]

theorem glide_makeRoom (buffers : DeviceBuffers) : buffers.makeRoom.glide = buffers.glide := by
  have longer : buffers.capacity ≤ buffers.capacity * 2 := Nat.le_mul_of_pos_right _ two_pos
  unfold makeRoom
  split
  case isTrue =>
      funext slot
      simp [glide, grow, read_grown longer]
  case isFalse => rfl

/-- Drawing moves what is drawn in the slots in use and nothing else. -/
theorem glide_draw (fits : buffers.slotIds.length ≤ buffers.capacity) (positions : ℕ → ℚ × ℚ)
    (used : slot < buffers.slotIds.length) :
    (buffers.draw positions).glide slot = (buffers.glide slot).drawnAt (positions slot) := by
  have drawing : ∀ count, count ≤ buffers.capacity → ∀ column : Fin 2,
      ((List.range count).foldl (fun drawn slot =>
        (StridedBuffer.write drawn slot 0 (positions slot).1).write slot 1 (positions slot).2)
          buffers.drawn).read slot column =
        if slot < count then (if column = 0 then (positions slot).1 else (positions slot).2)
        else buffers.drawn.read slot column := by
    intro count
    induction count with
    | zero => simp
    | succ count ih =>
        intro within column
        rw [List.range_succ, List.foldl_concat]
        by_cases last : slot = count
        · subst last
          rw [read_write within, read_write within]
          fin_cases column <;> simp
        · rw [read_write_of_ne last, read_write_of_ne last, ih (by omega)]
          have same : slot < count + 1 ↔ slot < count := by omega
          simp only [same]
  have first := drawing _ fits 0
  have second := drawing _ fits 1
  rw [if_pos used] at first second
  simp only [glide, draw, Glide.drawnAt, first, second]
  rfl

end Rows

section Devices

/-- The way of a device on the map. -/
def glideOf (buffers : DeviceBuffers) (deviceId : DeviceId) : Option Glide :=
  if deviceId ∈ buffers.entries then (buffers.slotOf deviceId).map buffers.glide else none

/-- Everything that merging an item can do. -/
inductive Merges (buffers : DeviceBuffers) (nowMs : ℤ) (item : PositionItem) :
    DeviceBuffers → Prop where
  | ignored {known : Marker} (reported : buffers.entries.get? item.deviceId = some known)
      (older : item.reportedMs ≤ known.reportedMs) : Merges buffers nowMs item buffers
  | moves {slot : ℕ} (reported : item.deviceId ∈ buffers.entries)
      (own : buffers.slotOf item.deviceId = some slot) :
      Merges buffers nowMs item ((buffers.place false slot nowMs item).report item)
  | returns {slot : ℕ} (unreported : item.deviceId ∉ buffers.entries)
      (own : buffers.slotOf item.deviceId = some slot) :
      Merges buffers nowMs item
        (((buffers.reveal slot item.deviceId).place true slot nowMs item).report item)
  | appears (unreported : item.deviceId ∉ buffers.entries)
      (unknown : buffers.slotOf item.deviceId = none) :
      Merges buffers nowMs item
        ((((buffers.assign item.deviceId).reveal buffers.slotIds.length item.deviceId).place true
          buffers.slotIds.length nowMs item).report item)

variable {buffers before after : DeviceBuffers} {deviceId other : DeviceId} {slot : ℕ}
  {nowMs : ℤ} {item : PositionItem}

theorem merges_merge (sound : buffers.Sound) (nowMs : ℤ) (item : PositionItem) :
    buffers.Merges nowMs item (buffers.merge nowMs item) := by
  unfold merge
  dsimp only
  split
  case isTrue older =>
      obtain ⟨known, reported, notNewer⟩ := (Option.any_eq_true _ _).mp older
      exact .ignored reported (of_decide_eq_true notNewer)
  case isFalse =>
      cases reported : buffers.entries.get? item.deviceId with
      | some known =>
          have listed : item.deviceId ∈ buffers.entries := Dict.mem_iff_exists.mpr ⟨_, reported⟩
          obtain ⟨slot, own⟩ := sound.placed item.deviceId listed
          simp only [Option.isNone_some, Bool.false_eq_true, if_false, own]
          exact .moves listed own
      | none =>
          have unlisted : item.deviceId ∉ buffers.entries := Dict.not_mem_iff.mpr reported
          simp only [Option.isNone_none, if_true]
          unfold admitDevice
          split
          case h_1 slot own => exact .returns unlisted own
          case h_2 unknown => exact .appears unlisted unknown

/-- What changes the way of one slot leaves the ways of the other devices. -/
theorem glideOf_of_update {changed : Glide} (slotted : before.Slotted)
    (own : before.slotOf deviceId = some slot) (sameSlots : after.slots = before.slots)
    (glides : after.glide = Function.update before.glide slot changed)
    (entries : ∃ marker, after.entries = before.entries.set deviceId marker) :
    after.glideOf deviceId = some changed ∧
      ∀ other, other ≠ deviceId → after.glideOf other = before.glideOf other := by
  obtain ⟨marker, entries⟩ := entries
  have sameSlot (other : DeviceId) : after.slotOf other = before.slotOf other := by
    rw [slotOf, sameSlots, slotOf]
  constructor
  · have listed : deviceId ∈ after.entries := by
      rw [entries, Dict.mem_iff_exists]
      exact ⟨marker, by rw [Dict.get?_set, if_pos rfl]⟩
    rw [glideOf, if_pos listed, sameSlot, own, Option.map_some, glides, Function.update_self]
  · intro other differs
    have sameListed : other ∈ after.entries ↔ other ∈ before.entries := by
      rw [Dict.mem_def, Dict.mem_def, entries, Dict.get?_set, if_neg differs]
    rw [glideOf, glideOf, sameSlot, glides]
    by_cases listed : other ∈ before.entries
    case neg => rw [if_neg listed, if_neg (sameListed.not.mpr listed)]
    case pos =>
        rw [if_pos listed, if_pos (sameListed.mpr listed)]
        cases ofOther : before.slotOf other with
        | none => rfl
        | some otherSlot =>
            have apart : otherSlot ≠ slot := fun equal =>
              differs (slotted.eq_of_slotOf ofOther (equal ▸ own))
            rw [Option.map_some, Option.map_some, Function.update_of_ne apart]

/-- Giving a slot to a device that is not reported yet concerns no other. -/
theorem glideOf_assign (unreported : deviceId ∉ buffers.entries) (other : DeviceId) :
    (buffers.assign deviceId).glideOf other = buffers.glideOf other := by
  have sameEntries : (buffers.assign deviceId).entries = buffers.entries :=
    buffers.entries_makeRoom
  have sameGlide : (buffers.assign deviceId).glide = buffers.glide := buffers.glide_makeRoom
  rw [glideOf, glideOf, sameEntries, sameGlide, slotOf_assign]
  by_cases same : other = deviceId
  · rw [same, if_neg unreported, if_neg unreported]
  · rw [if_neg same]

/-- An item either changes nothing or begins the next way of its device. -/
theorem glideOf_merge (sound : buffers.Sound) (nowMs : ℤ) (item : PositionItem)
    (deviceId : DeviceId) :
    (buffers.merge nowMs item).glideOf deviceId = buffers.glideOf deviceId ∨
      deviceId = item.deviceId ∧ (buffers.merge nowMs item).glideOf deviceId =
        some (Glide.report item.place nowMs (buffers.glideOf deviceId)) := by
  have updated {before after : DeviceBuffers} {changed : Glide}
      (changes : after.glideOf item.deviceId = some changed ∧
        ∀ other, other ≠ item.deviceId → after.glideOf other = before.glideOf other)
      (unchanged : before.glideOf deviceId = buffers.glideOf deviceId)
      (begins : changed = Glide.report item.place nowMs (buffers.glideOf item.deviceId)) :
      after.glideOf deviceId = buffers.glideOf deviceId ∨
        deviceId = item.deviceId ∧ after.glideOf deviceId =
          some (Glide.report item.place nowMs (buffers.glideOf deviceId)) := by
    by_cases same : deviceId = item.deviceId
    · subst same
      exact .inr ⟨rfl, changes.1.trans (congrArg some begins)⟩
    · exact .inl ((changes.2 deviceId same).trans unchanged)
  have merges := merges_merge sound nowMs item
  generalize buffers.merge nowMs item = merged at merges ⊢
  cases merges with
  | ignored reported older => exact .inl rfl
  | moves reported own =>
      refine updated (glideOf_of_update sound.toSlotted own rfl
        (glide_place (sound.within own) false nowMs item) ⟨_, rfl⟩) rfl ?_
      rw [glideOf, if_pos reported, own]
      rfl
  | @returns slot unreported own =>
      have within : slot < (buffers.reveal slot item.deviceId).capacity := sound.within own
      refine updated (glideOf_of_update sound.toSlotted own rfl
        (glide_place within true nowMs item) ⟨_, rfl⟩) rfl ?_
      rw [glideOf, if_neg unreported]
      rfl
  | appears unreported unknown =>
      have slotted := sound.toSlotted.assign unknown
      have own := buffers.slotOf_assign item.deviceId item.deviceId
      rw [if_pos rfl] at own
      have within : buffers.slotIds.length < ((buffers.assign item.deviceId).reveal
        buffers.slotIds.length item.deviceId).capacity := slotted.within own
      have sameEntries : (buffers.assign item.deviceId).entries = buffers.entries :=
        buffers.entries_makeRoom
      refine updated (glideOf_of_update slotted own rfl (glide_place within true nowMs item)
        ⟨_, rfl⟩) (glideOf_assign unreported deviceId) ?_
      rw [glideOf, if_neg unreported]
      rfl

/-- A device is taken off the map and no other device moves. -/
theorem glideOf_removeOne (buffers : DeviceBuffers) (deviceId other : DeviceId) :
    (buffers.removeOne deviceId).glideOf other =
      if other = deviceId then none else buffers.glideOf other := by
  unfold removeOne
  split
  case isFalse unlisted =>
      by_cases same : other = deviceId
      · rw [if_pos same, same, glideOf, if_neg unlisted]
      · rw [if_neg same]
  case isTrue =>
      have erased : ∀ hidden : DeviceBuffers, hidden.entries = buffers.entries.erase deviceId →
          hidden.slots = buffers.slots → hidden.glide = buffers.glide →
          hidden.glideOf other = if other = deviceId then none else buffers.glideOf other := by
        intro hidden entries slots glides
        have listed : other ∈ hidden.entries ↔ other ≠ deviceId ∧ other ∈ buffers.entries := by
          rw [entries, Dict.mem_def, Dict.mem_def, Dict.get?_erase]
          by_cases same : other = deviceId
          · simp [same]
          · simp [same]
        have sameSlot : hidden.slotOf other = buffers.slotOf other := by
          rw [slotOf, slots, slotOf]
        simp only [glideOf, listed, sameSlot, glides]
        by_cases same : other = deviceId
        · simp [same]
        · simp [same]
      dsimp only
      split
      · exact erased _ rfl rfl rfl
      · exact erased _ rfl rfl rfl

theorem glideOf_remove (deviceIds : List DeviceId) (buffers : DeviceBuffers)
    (deviceId : DeviceId) :
    (buffers.remove deviceIds).glideOf deviceId =
      if deviceId ∈ deviceIds then none else buffers.glideOf deviceId := by
  unfold remove
  induction deviceIds generalizing buffers with
  | nil => simp
  | cons first rest ih =>
      rw [List.foldl_cons, ih, glideOf_removeOne]
      by_cases later : deviceId ∈ rest
      · simp [later]
      · by_cases same : deviceId = first
        · simp [same]
        · simp [later, same]

theorem glideOf_paint (color : MarkerColor) (buffers : DeviceBuffers) (deviceId other : DeviceId) :
    (buffers.paint color deviceId).glideOf other = buffers.glideOf other := by
  unfold paint
  split
  · split
    · rfl
    · rfl
  · rfl

theorem glideOf_setHighlighted (next : KeySet DeviceId) (buffers : DeviceBuffers)
    (deviceId : DeviceId) :
    (buffers.setHighlighted next).glideOf deviceId = buffers.glideOf deviceId := by
  have painted (color : MarkerColor) (deviceIds : List DeviceId) (buffers : DeviceBuffers) :
      (deviceIds.foldl (paint color) buffers).glideOf deviceId = buffers.glideOf deviceId := by
    induction deviceIds generalizing buffers with
    | nil => rfl
    | cons first rest ih => exact (ih _).trans (glideOf_paint color buffers first deviceId)
  exact (painted buffers.highlightColor _ _).trans (painted buffers.plainColor _ _)

theorem glideOf_draw (slotted : buffers.Slotted) (positions : ℕ → ℚ × ℚ) (deviceId : DeviceId) :
    (buffers.draw positions).glideOf deviceId =
      (if deviceId ∈ buffers.entries then buffers.slotOf deviceId else none).map fun slot =>
        (buffers.glide slot).drawnAt (positions slot) := by
  have sameListed : deviceId ∈ (buffers.draw positions).entries ↔ deviceId ∈ buffers.entries :=
    Iff.rfl
  have sameSlot : (buffers.draw positions).slotOf deviceId = buffers.slotOf deviceId := rfl
  rw [glideOf, sameSlot]
  simp only [sameListed]
  split
  case isFalse => rfl
  case isTrue =>
      cases own : buffers.slotOf deviceId with
      | none => rfl
      | some slot =>
          rw [Option.map_some, Option.map_some, glide_draw slotted.fits _ (slotted.lt own)]

theorem glideOf_interpolate (slotted : buffers.Slotted) (nowMs durationMs : ℤ)
    (deviceId : DeviceId) :
    (buffers.interpolate nowMs durationMs).2.glideOf deviceId =
      (buffers.glideOf deviceId).map fun glide =>
        glide.drawnAt (glide.position nowMs durationMs) := by
  rw [interpolate, glideOf_draw slotted, glideOf]
  split
  case isTrue => rw [Option.map_map]; rfl
  case isFalse => rfl

theorem glideOf_snap (slotted : buffers.Slotted) (deviceId : DeviceId) :
    buffers.snap.glideOf deviceId =
      (buffers.glideOf deviceId).map fun glide => glide.drawnAt glide.target := by
  rw [snap, glideOf_draw slotted, glideOf]
  split
  case isTrue => rw [Option.map_map]; rfl
  case isFalse => rfl

/-- A marker goes where the newest report of its device says. -/
theorem Sound.target_eq (sound : buffers.Sound) {marker : Marker}
    (reported : buffers.entries.get? deviceId = some marker) :
    ∃ glide, buffers.glideOf deviceId = some glide ∧ glide.target = marker.place := by
  have listed : deviceId ∈ buffers.entries := Dict.mem_iff_exists.mpr ⟨_, reported⟩
  obtain ⟨slot, own⟩ := sound.placed deviceId listed
  have looks := sound.looks deviceId slot own
  rw [reported] at looks
  refine ⟨buffers.glide slot, by rw [glideOf, if_pos listed, own]; rfl, ?_⟩
  exact congrArg Appearance.target looks

end Devices

end DeviceBuffers

open DeviceBuffers

/-- The map with its devices.  The layer is given the buffers themselves, so what
they held at each call of `#render`, newest first, is kept for the record. -/
structure MapView where
  animate : Bool
  tickMs : ℤ
  store : DeviceBuffers
  dirty : Bool
  renders : List (List (ℚ × ℚ))

/-- What happens on the page to the devices and the map. -/
inductive MapEvent where
  | positions (items : List PositionItem) (full : Bool) (removed : List DeviceId) (nowMs : ℤ)
  | sweep (nowMs : ℤ)
  | highlight (deviceIds : KeySet DeviceId)
  | invalidate
  | frame (nowMs : ℤ)

namespace MapView

def fresh (animate : Bool) (tickMs : ℤ) (options : DeviceStoreOptions) : MapView where
  animate := animate
  tickMs := tickMs
  store := .fresh options
  dirty := true
  renders := []

/-- The positions of `layerData`. -/
def layerPositions (store : DeviceBuffers) : List (ℚ × ℚ) :=
  (List.range store.slotIds.length).map fun slot => (store.glide slot).drawn

/-- The markers move, and whether one is still on its way. -/
def advance (nowMs : ℤ) (view : MapView) : Bool × DeviceBuffers :=
  if view.animate then view.store.interpolate nowMs view.tickMs else (false, view.store.snap)

/-- The layer is rendered only if something changed. -/
def frame (nowMs : ℤ) (view : MapView) : MapView :=
  let (moving, store) := view.advance nowMs
  if !view.dirty && !moving then { view with store := store }
  else
    { view with store := store, dirty := false, renders := layerPositions store :: view.renders }

def onPositions (items : List PositionItem) (full : Bool) (removed : List DeviceId) (nowMs : ℤ)
    (view : MapView) : MapView :=
  { view with store := (view.store.apply items full nowMs).remove removed, dirty := true }

def sweep (nowMs : ℤ) (view : MapView) : MapView :=
  let (dropped, store) := view.store.sweep nowMs
  { view with store := store, dirty := view.dirty || !dropped.isEmpty }

def handle (view : MapView) : MapEvent → MapView
  | .positions items full removed nowMs => view.onPositions items full removed nowMs
  | .sweep nowMs => view.sweep nowMs
  | .highlight deviceIds => { view with store := view.store.setHighlighted deviceIds }
  | .invalidate => { view with dirty := true }
  | .frame nowMs => view.frame nowMs

variable {view : MapView} {deviceId : DeviceId} {marker : Marker}

section Steps

theorem store_frame (nowMs : ℤ) (view : MapView) :
    (view.frame nowMs).store = (view.advance nowMs).2 := by
  unfold frame
  dsimp only
  split
  · rfl
  · rfl

theorem sound_advance (sound : view.store.Sound) (nowMs : ℤ) : (view.advance nowMs).2.Sound := by
  unfold advance
  split
  · exact sound.draw _
  · exact sound.draw _

theorem sound_handle (sound : view.store.Sound) (event : MapEvent) :
    (view.handle event).store.Sound := by
  cases event with
  | positions items full removed nowMs => exact (sound.apply items full nowMs).remove removed
  | sweep nowMs => exact sound.remove _
  | highlight deviceIds => exact sound.setHighlighted deviceIds
  | invalidate => exact sound
  | frame nowMs =>
      rw [handle, store_frame]
      exact sound_advance sound nowMs

theorem sound_foldl (sound : view.store.Sound) (events : List MapEvent) :
    (events.foldl handle view).store.Sound := by
  induction events generalizing view with
  | nil => exact sound
  | cons event rest ih => exact ih (sound_handle sound event)

theorem sound_run (animate : Bool) (tickMs : ℤ) (options : DeviceStoreOptions)
    (events : List MapEvent) : (events.foldl handle (fresh animate tickMs options)).store.Sound :=
  @sound_foldl (fresh animate tickMs options) (painted_fresh _ options) events

/-- Where a frame draws a marker. -/
def drawsAt (view : MapView) (nowMs : ℤ) (glide : Glide) : ℚ × ℚ :=
  if view.animate then glide.position nowMs view.tickMs else glide.target

theorem glideOf_frame (sound : view.store.Sound) (nowMs : ℤ) (deviceId : DeviceId) :
    (view.frame nowMs).store.glideOf deviceId =
      (view.store.glideOf deviceId).map fun glide => glide.drawnAt (view.drawsAt nowMs glide) := by
  rw [store_frame]
  unfold advance drawsAt
  split
  · exact glideOf_interpolate sound.toSlotted ..
  · exact glideOf_snap sound.toSlotted _

end Steps

section Ways

variable {holds : Glide → Prop}

/-- What every report of a device establishes, merging keeps. -/
theorem glideOf_foldl_merge {store : DeviceBuffers} (sound : store.Sound) (nowMs : ℤ)
    {items : List PositionItem}
    (reports : ∀ item ∈ items, item.deviceId = deviceId → ∀ known : Option Glide,
      (∀ glide ∈ known, holds glide) → holds (Glide.report item.place nowMs known))
    (start : ∀ glide ∈ store.glideOf deviceId, holds glide) :
    ∀ glide ∈ (items.foldl (DeviceBuffers.merge nowMs) store).glideOf deviceId, holds glide := by
  induction items generalizing store with
  | nil => exact start
  | cons item rest ih =>
      refine ih (sound.merge nowMs item) (fun other later => reports other (.tail _ later)) ?_
      rcases glideOf_merge sound nowMs item deviceId with same | ⟨own, begins⟩
      · rw [same]
        exact start
      · rw [begins]
        intro glide isNew
        obtain rfl := Option.some.inj isNew
        exact reports item List.mem_cons_self own.symm _ start

/-- Being taken off the map establishes everything. -/
theorem holds_of_remove {store : DeviceBuffers} {deviceIds : List DeviceId}
    (start : ∀ glide ∈ store.glideOf deviceId, holds glide) :
    ∀ glide ∈ (store.remove deviceIds).glideOf deviceId, holds glide := by
  rw [glideOf_remove]
  split
  · exact nofun
  · exact start

/-- What the reports of a device establish and frames keep holds while it is on
the map. -/
theorem holds_of_events
    (frames : ∀ glide, holds glide → ∀ nowMs, holds (glide.drawnAt (view.drawsAt nowMs glide)))
    {events : List MapEvent}
    (reports : ∀ items full removed nowMs, MapEvent.positions items full removed nowMs ∈ events →
      ∀ item ∈ items, item.deviceId = deviceId → ∀ known : Option Glide,
        (∀ glide ∈ known, holds glide) → holds (Glide.report item.place nowMs known))
    (sound : view.store.Sound) (start : ∀ glide ∈ view.store.glideOf deviceId, holds glide) :
    ∀ glide ∈ (events.foldl handle view).store.glideOf deviceId, holds glide := by
  induction events generalizing view with
  | nil => exact start
  | cons event rest ih =>
      have later := fun items full removed nowMs listed =>
        reports items full removed nowMs (.tail _ listed)
      have same : (view.handle event).drawsAt = view.drawsAt := by
        cases event with
        | frame nowMs =>
            simp only [handle, frame]
            split
            · rfl
            · rfl
        | _ => rfl
      refine ih (by rw [same]; exact frames) later (sound_handle sound event) ?_
      cases event with
      | positions items full removed nowMs =>
          have merged := glideOf_foldl_merge sound nowMs
            (reports items full removed nowMs List.mem_cons_self) start
          refine holds_of_remove ?_
          unfold DeviceBuffers.apply
          dsimp only
          split
          · exact holds_of_remove merged
          · exact merged
      | sweep nowMs => exact holds_of_remove start
      | highlight deviceIds =>
          rw [handle, glideOf_setHighlighted]
          exact start
      | invalidate => exact start
      | frame nowMs =>
          rw [handle, glideOf_frame sound]
          intro glide drawn
          obtain ⟨known, onMap, rfl⟩ := Option.map_eq_some_iff.mp drawn
          exact frames known (start known onMap) nowMs

/-- Merging leaves a marker where it is drawn. -/
theorem drawn_foldl_merge {store : DeviceBuffers} (sound : store.Sound) (nowMs : ℤ)
    (items : List PositionItem) {glide : Glide} (onMap : store.glideOf deviceId = some glide) :
    ∃ next, (items.foldl (DeviceBuffers.merge nowMs) store).glideOf deviceId = some next ∧
      next.drawn = glide.drawn := by
  induction items generalizing store glide with
  | nil => exact ⟨glide, onMap, rfl⟩
  | cons item rest ih =>
      rcases glideOf_merge sound nowMs item deviceId with same | ⟨own, begins⟩
      · exact ih (sound.merge nowMs item) (same.trans onMap)
      · rw [onMap] at begins
        obtain ⟨next, still, drawn⟩ := ih (sound.merge nowMs item) begins
        exact ⟨next, still, drawn⟩

theorem drawn_of_remove {store : DeviceBuffers} {deviceIds : List DeviceId} {glide next : Glide}
    (onMap : store.glideOf deviceId = some glide)
    (still : (store.remove deviceIds).glideOf deviceId = some next) : next = glide := by
  rw [glideOf_remove] at still
  split at still
  case isTrue => cases still
  case isFalse => exact Option.some.inj (still.symm.trans onMap)

/-- Only frames move a marker. -/
theorem drawn_of_handle (sound : view.store.Sound) {glide next : Glide} {event : MapEvent}
    (onMap : view.store.glideOf deviceId = some glide) (notFrame : ∀ nowMs, event ≠ .frame nowMs)
    (still : (view.handle event).store.glideOf deviceId = some next) :
    next.drawn = glide.drawn := by
  cases event with
  | positions items full removed nowMs =>
      obtain ⟨merged, onMerged, drawn⟩ := drawn_foldl_merge sound nowMs items onMap
      simp only [handle, onPositions, DeviceBuffers.apply] at still
      split at still
      case isFalse => rw [drawn_of_remove onMerged still, drawn]
      case isTrue =>
          cases onApplied : ((items.foldl (DeviceBuffers.merge nowMs) view.store).remove
              ((items.foldl (DeviceBuffers.merge nowMs) view.store).entries.keys.filter
                fun deviceId => deviceId ∉ items.map PositionItem.deviceId)).glideOf deviceId with
          | none =>
              rw [glideOf_remove, onApplied, ite_self] at still
              cases still
          | some applied => rw [drawn_of_remove onApplied still, drawn_of_remove onMerged onApplied,
              drawn]
  | sweep nowMs => rw [drawn_of_remove onMap still]
  | highlight deviceIds =>
      rw [handle, glideOf_setHighlighted, onMap] at still
      rw [Option.some.inj still]
  | invalidate => rw [Option.some.inj (still.symm.trans onMap)]
  | frame nowMs => exact absurd rfl (notFrame nowMs)

end Ways

section Runs

/-- The places that a device reports in a list of events. -/
def reportedPlaces (deviceId : DeviceId) (events : List MapEvent) : Set (ℚ × ℚ) :=
  {place | ∃ items full removed nowMs, MapEvent.positions items full removed nowMs ∈ events ∧
    ∃ item ∈ items, item.deviceId = deviceId ∧ item.place = place}

theorem inside_of_events (sound : view.store.Sound) (absent : deviceId ∉ view.store.entries)
    (events : List MapEvent) :
    ∀ glide ∈ (events.foldl handle view).store.glideOf deviceId,
      glide.Inside (convexHull ℚ (reportedPlaces deviceId events)) := by
  apply holds_of_events
  · intro glide inside nowMs
    refine inside.drawnAt ?_
    unfold drawsAt
    split
    · exact inside.position_mem (convex_convexHull ..) nowMs _
    · exact inside.target
  · intro items full removed nowMs listed item carried own known inside
    have reported : item.place ∈ reportedPlaces deviceId events :=
      ⟨items, full, removed, nowMs, listed, item, carried, own, rfl⟩
    exact Glide.inside_report (subset_convexHull _ _ reported) inside nowMs
  · exact sound
  · rw [glideOf, if_neg absent]
    exact nofun

/-- The way of a marker began with one of the frames that came. -/
theorem since_of_events (sound : view.store.Sound) (absent : deviceId ∉ view.store.entries)
    {events : List MapEvent} {latest : ℤ}
    (came : ∀ items full removed nowMs, MapEvent.positions items full removed nowMs ∈ events →
      nowMs ≤ latest) :
    ∀ glide ∈ (events.foldl handle view).store.glideOf deviceId, glide.since ≤ latest := by
  apply holds_of_events
  · exact fun glide before nowMs => before
  · intro items full removed nowMs listed item carried own known before
    cases known with
    | none => exact came items full removed nowMs listed
    | some glide => exact came items full removed nowMs listed
  · exact sound
  · rw [glideOf, if_neg absent]
    exact nofun

theorem tickMs_foldl (events : List MapEvent) (view : MapView) :
    (events.foldl handle view).tickMs = view.tickMs ∧
      (events.foldl handle view).animate = view.animate := by
  induction events generalizing view with
  | nil => exact ⟨rfl, rfl⟩
  | cons event rest ih =>
      obtain ⟨tickMs, animate⟩ := ih (view.handle event)
      rw [List.foldl_cons, tickMs, animate]
      cases event with
      | frame nowMs =>
          simp only [handle, frame]
          split
          · exact ⟨rfl, rfl⟩
          · exact ⟨rfl, rfl⟩
      | _ => exact ⟨rfl, rfl⟩

/-- In exact arithmetic, since a device appeared its marker is drawn in the convex
hull of what was reported, only frames move it, and it is where the newest report
says once the last one is a tick old. -/
theorem markers_glide (animate : Bool) (tickMs : ℤ) (options : DeviceStoreOptions)
    (earlier later : List MapEvent)
    (absent : deviceId ∉ (earlier.foldl handle (fresh animate tickMs options)).store.entries)
    (reported : ((earlier ++ later).foldl handle
      (fresh animate tickMs options)).store.entries.get? deviceId = some marker) :
    ∃ glide, ((earlier ++ later).foldl handle
        (fresh animate tickMs options)).store.glideOf deviceId = some glide ∧
      glide.target = marker.place ∧
      glide.drawn ∈ convexHull ℚ (reportedPlaces deviceId later) ∧
      (∀ event, (∀ nowMs, event ≠ .frame nowMs) →
        ∀ next ∈ (((earlier ++ later).foldl handle (fresh animate tickMs options)).handle
          event).store.glideOf deviceId, next.drawn = glide.drawn) ∧
      ∀ nowMs, (∀ items full removed cameMs,
          MapEvent.positions items full removed cameMs ∈ later → cameMs + tickMs ≤ nowMs) →
        ∃ next, (((earlier ++ later).foldl handle (fresh animate tickMs options)).frame
          nowMs).store.glideOf deviceId = some next ∧ next.drawn = marker.place := by
  have before := sound_run animate tickMs options earlier
  have sound := sound_run animate tickMs options (earlier ++ later)
  obtain ⟨glide, onMap, target⟩ := sound.target_eq reported
  have ticks := (tickMs_foldl (earlier ++ later) (fresh animate tickMs options)).1
  refine ⟨glide, onMap, target, ?hull, ?steady, ?arrival⟩
  case hull =>
      have inside := inside_of_events before absent later
      rw [← List.foldl_append] at inside
      exact (inside glide onMap).drawn
  case steady =>
      intro event notFrame next still
      exact drawn_of_handle sound onMap notFrame still
  case arrival =>
      intro nowMs came
      have early (items : List PositionItem) (full : Bool) (removed : List DeviceId) (cameMs : ℤ)
          (listed : MapEvent.positions items full removed cameMs ∈ later) :
          cameMs ≤ nowMs - tickMs := by
        have := came items full removed cameMs listed
        omega
      have since := since_of_events before absent early
      rw [← List.foldl_append] at since
      have late := since glide onMap
      have arrived : glide.Arrived nowMs (fresh animate tickMs options).tickMs := by
        refine Glide.arrived_of_le ?_
        change glide.since + tickMs ≤ nowMs
        omega
      refine ⟨_, by rw [glideOf_frame sound, onMap]; rfl, ?_⟩
      change drawsAt _ nowMs glide = marker.place
      rw [drawsAt, ticks, Glide.position, if_pos arrived, ite_self, target]

/-- A device comes, moves on, is seen half way, and moves on again. -/
def journey : List MapEvent :=
  [.positions [⟨"a", 50, 30, 1000⟩] true [] 0, .positions [⟨"a", 51, 32, 2000⟩] false [] 1000,
    .frame 1125, .positions [⟨"a", 60, 30, 3000⟩] false [] 1125]

theorem markers_glide_journey :
    ∃ glide, (([] ++ journey).foldl handle (fresh true 250 {})).store.glideOf "a" = some glide ∧
      glide.target = Marker.place ⟨60, 30, 3000⟩ ∧
      glide.drawn ∈ convexHull ℚ (reportedPlaces "a" journey) ∧
      (∀ event, (∀ nowMs, event ≠ .frame nowMs) →
        ∀ next ∈ ((([] ++ journey).foldl handle (fresh true 250 {})).handle event).store.glideOf
          "a", next.drawn = glide.drawn) ∧
      ∀ nowMs, (∀ items full removed cameMs,
          MapEvent.positions items full removed cameMs ∈ journey → cameMs + 250 ≤ nowMs) →
        ∃ next, ((([] ++ journey).foldl handle (fresh true 250 {})).frame nowMs).store.glideOf
          "a" = some next ∧ next.drawn = Marker.place ⟨60, 30, 3000⟩ :=
  markers_glide true 250 {} [] journey (by decide) (by decide +kernel)

end Runs

section Renders

/-- Nothing is left to move at a time. -/
def Still (nowMs : ℤ) (view : MapView) : Prop := (view.advance nowMs).1 = false

instance (nowMs : ℤ) (view : MapView) : Decidable (view.Still nowMs) :=
  inferInstanceAs (Decidable (_ = false))

/-- Nothing is rendered by a frame that finds nothing to do. -/
theorem renders_frame_of_still {nowMs : ℤ} (clean : view.dirty = false) (still : view.Still nowMs) :
    (view.frame nowMs).renders = view.renders ∧ (view.frame nowMs).dirty = false := by
  unfold Still at still
  simp [frame, clean, still]

/-- A frame that has something to do renders what it draws. -/
theorem renders_frame_of_moving {nowMs : ℤ} (changed : view.dirty = true ∨ ¬view.Still nowMs) :
    (view.frame nowMs).renders = layerPositions (view.advance nowMs).2 :: view.renders ∧
      (view.frame nowMs).dirty = false := by
  have renders : (!view.dirty && !(view.advance nowMs).1) = false := by
    rcases changed with dirty | moving
    · simp [dirty]
    · simp [Bool.eq_true_of_not_eq_false moving]
  simp [frame, renders]

variable {slot : ℕ}

theorem glide_advance (fits : view.store.slotIds.length ≤ view.store.capacity) (nowMs : ℤ)
    (used : slot < view.store.slotIds.length) :
    (view.advance nowMs).2.glide slot =
      (view.store.glide slot).drawnAt (view.drawsAt nowMs (view.store.glide slot)) := by
  unfold advance drawsAt
  split
  · exact glide_draw fits _ used
  · exact glide_draw fits _ used

theorem slots_frame (nowMs : ℤ) (view : MapView) :
    (view.frame nowMs).store.slotIds = view.store.slotIds ∧
      (view.frame nowMs).store.capacity = view.store.capacity := by
  rw [store_frame]
  unfold advance
  split
  · exact ⟨rfl, rfl⟩
  · exact ⟨rfl, rfl⟩

theorem glide_frame (fits : view.store.slotIds.length ≤ view.store.capacity) (nowMs : ℤ)
    (used : slot < view.store.slotIds.length) :
    (view.frame nowMs).store.glide slot =
      (view.store.glide slot).drawnAt (view.drawsAt nowMs (view.store.glide slot)) := by
  rw [store_frame]
  exact glide_advance fits nowMs used

theorem still_iff {nowMs : ℤ} : view.Still nowMs ↔ view.animate = true →
    ∀ slot, slot < view.store.slotIds.length →
      (view.store.glide slot).Arrived nowMs view.tickMs := by
  unfold Still advance
  cases view.animate with
  | true => simp [interpolate]
  | false => simp

/-- A frame changes neither where markers go nor when they set out. -/
theorem still_frame (fits : view.store.slotIds.length ≤ view.store.capacity) {nowMs : ℤ}
    (still : view.Still nowMs) (seenMs : ℤ) : (view.frame seenMs).Still nowMs := by
  have kept := tickMs_foldl [.frame seenMs] view
  change (view.frame seenMs).tickMs = view.tickMs ∧
    (view.frame seenMs).animate = view.animate at kept
  rw [still_iff] at still ⊢
  rw [kept.1, kept.2, (slots_frame seenMs view).1]
  intro animated slot used
  rw [glide_frame fits seenMs used]
  exact still animated slot used

theorem along_eq_finish {share : ℚ} (short : share < 1) {start finish : ℚ} :
    Glide.along share start finish = finish ↔ start = finish := by
  unfold Glide.along
  constructor
  · intro same
    have product : (finish - start) * (1 - share) = 0 := by linarith
    rcases mul_eq_zero.mp product with equal | arrived
    · linarith
    · linarith
  · rintro rfl
    ring

/-- A marker on its way is drawn at its end only if it need not move. -/
theorem position_eq_target {glide : Glide} {nowMs durationMs : ℤ} :
    glide.position nowMs durationMs = glide.target ↔
      glide.Arrived nowMs durationMs ∨ glide.origin = glide.target := by
  unfold Glide.position
  split
  case isTrue arrived => exact iff_of_true rfl (.inl arrived)
  case isFalse moving =>
      have less := not_le.mp moving
      have short : (if 0 < glide.progress nowMs durationMs then glide.progress nowMs durationMs
          else 0) < 1 := by
        split
        · exact less
        · exact zero_lt_one
      dsimp only
      rw [or_iff_right moving, Prod.ext_iff, Prod.ext_iff]
      exact and_congr (along_eq_finish short) (along_eq_finish short)

/-- The store after frames that found nothing to move: every marker has arrived,
but nothing was rendered. -/
theorem frames_of_still (fits : view.store.slotIds.length ≤ view.store.capacity)
    (clean : view.dirty = false) (used : slot < view.store.slotIds.length) {later : List ℤ}
    (still : ∀ nowMs ∈ later, view.Still nowMs) :
    (later.foldl (fun view nowMs => view.frame nowMs) view).renders = view.renders ∧
      (later ≠ [] → ((later.foldl (fun view nowMs => view.frame nowMs) view).store.glide
        slot).drawn = (view.store.glide slot).target) := by
  induction later generalizing view with
  | nil => exact ⟨rfl, fun nonempty => absurd rfl nonempty⟩
  | cons nowMs rest ih =>
      have now := still nowMs List.mem_cons_self
      obtain ⟨sameRenders, stillClean⟩ := renders_frame_of_still clean now
      obtain ⟨slots, capacity⟩ := slots_frame nowMs view
      have later := @ih (view.frame nowMs) (by rw [slots, capacity]; exact fits) stillClean
        (by rw [slots]; exact used)
        fun otherMs listed => still_frame fits (still otherMs (.tail _ listed)) nowMs
      rw [glide_frame fits nowMs used, sameRenders] at later
      refine ⟨later.1, fun _ => ?_⟩
      cases rest with
      | nil =>
          change ((view.frame nowMs).store.glide slot).drawn = _
          rw [glide_frame fits nowMs used]
          change view.drawsAt nowMs (view.store.glide slot) = _
          unfold drawsAt
          split
          case isTrue animated =>
              exact position_eq_target.mpr (.inl (still_iff.mp now animated slot used))
          case isFalse => rfl
      | cons => exact later.2 nofun

/-- In exact arithmetic, the frame in which the last marker arrives does not render.
After it the store has every marker where its report says; when the layer was
rendered last, the store had one there just where that frame found it arrived, or it
had no way to go. -/
theorem arrival_not_rendered {animate : Bool} {tickMs : ℤ} {options : DeviceStoreOptions}
    {events : List MapEvent} (reached : events.foldl handle (fresh animate tickMs options) = view)
    {seenMs : ℤ} (rendered : view.dirty = true ∨ ¬view.Still seenMs) {later : List ℤ}
    (nonempty : later ≠ []) (still : ∀ nowMs ∈ later, view.Still nowMs)
    (own : view.store.slotOf deviceId = some slot)
    (reported : view.store.entries.get? deviceId = some marker) {settled : MapView}
    (settles : later.foldl (fun view nowMs => view.frame nowMs) (view.frame seenMs) = settled) :
    (settled.store.glide slot).drawn = marker.place ∧
      ∃ last, settled.renders = last :: view.renders ∧
        (last[slot]? = some marker.place ↔
          animate = false ∨ (view.store.glide slot).Arrived seenMs tickMs ∨
            (view.store.glide slot).origin = marker.place) := by
  subst settles
  have sound : view.store.Sound := reached ▸ sound_run animate tickMs options events
  have used := sound.lt own
  have kept := tickMs_foldl events (fresh animate tickMs options)
  rw [reached] at kept
  obtain ⟨renders, clean⟩ := renders_frame_of_moving rendered
  obtain ⟨slots, capacity⟩ := slots_frame seenMs view
  have frames := @frames_of_still (view.frame seenMs) slot
    (by rw [slots, capacity]; exact sound.fits) clean (by rw [slots]; exact used) later
    fun nowMs listed => still_frame sound.fits (still nowMs listed) seenMs
  obtain ⟨glide, onMap, target⟩ := sound.target_eq reported
  rw [glideOf, if_pos (Dict.mem_iff_exists.mpr ⟨_, reported⟩), own] at onMap
  obtain rfl := Option.some.inj onMap
  rw [glide_frame sound.fits seenMs used, renders] at frames
  refine ⟨(frames.2 nonempty).trans target, _, frames.1, ?_⟩
  have seen : (layerPositions (view.advance seenMs).2)[slot]? =
      some (view.drawsAt seenMs (view.store.glide slot)) := by
    have sameSlots : (view.advance seenMs).2.slotIds = view.store.slotIds := by
      rw [← store_frame, slots]
    rw [layerPositions, sameSlots, List.getElem?_map, List.getElem?_range used, Option.map_some,
      glide_advance sound.fits seenMs used]
    rfl
  rw [seen, Option.some.injEq, ← target]
  unfold drawsAt
  rw [kept.1, kept.2]
  change (if animate = true then Glide.position seenMs tickMs _ else _) = _ ↔ _
  cases animate with
  | true => simpa using position_eq_target
  | false => simp

/-- A device has set out for where it was reported last. -/
def underway : MapView := (journey.take 2).foldl handle (fresh true 250 {})

theorem arrival_not_rendered_underway :
    ∃ settled last, [1300].foldl (fun view nowMs => view.frame nowMs) (underway.frame 1125) =
        settled ∧
      (settled.store.glide 0).drawn = (32, 51) ∧ settled.renders = last :: underway.renders ∧
      last[0]? ≠ some (32, 51) := by
  have reached : (journey.take 2).foldl handle (fresh true 250 {}) = underway := rfl
  have reported : underway.store.entries.get? "a" = some ⟨51, 32, 2000⟩ := by decide +kernel
  obtain ⟨arrived, last, renders, shown⟩ := @arrival_not_rendered _ "a" _ 0 _ _ _ _ reached 1125
    (.inl rfl) [1300] (List.cons_ne_nil _ _) (by decide +kernel) (by decide +kernel) reported _ rfl
  refine ⟨_, last, rfl, arrived, renders, fun same => ?_⟩
  exact absurd (shown.mp same) (by decide +kernel)

end Renders

end MapView

end GeoTrack
