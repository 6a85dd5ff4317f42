import GeoTrack.DeviceStore
import GeoTrack.StridedBuffers

/-!
# The buffers behind the markers

The map draws devices from flat buffers with one row for each device that was ever
reported: where its marker is drawn, where it comes from and goes to, and its
colour and radius.  Devices that are not reported any more are hidden in place, and
only what changes is painted again.

A row belongs to one device for good: a slot is the place of its device in the order
in which the devices came.  What a call changes in the buffers it changes in the row
of one device.
-/

namespace GeoTrack

structure MarkerColor where
  red : UInt8
  green : UInt8
  blue : UInt8
  alpha : UInt8
deriving DecidableEq

def plainColor : MarkerColor := ⟨110, 168, 255, 220⟩

def highlightColor : MarkerColor := ⟨255, 208, 92, 255⟩

/-- The single precision number next to 3.4. -/
def markerRadiusPx : ℚ := 7130317 / 2097152

theorem markerRadiusPx_ne_zero : markerRadiusPx ≠ 0 := by decide +kernel

structure DeviceStoreOptions where
  capacity : ℕ := 4096
  staleMs : ℤ := 300000
  plainColor : MarkerColor := GeoTrack.plainColor
  highlightColor : MarkerColor := GeoTrack.highlightColor

/-- The whole state of the store of devices. -/
structure DeviceBuffers where
  capacity : ℕ
  staleMs : ℤ
  drawn : StridedBuffer ℚ 2 capacity
  origin : StridedBuffer ℚ 2 capacity
  target : StridedBuffer ℚ 2 capacity
  since : StridedBuffer ℤ 1 capacity
  colors : StridedBuffer UInt8 4 capacity
  radii : StridedBuffer ℚ 1 capacity
  slotIds : List DeviceId
  slots : Dict DeviceId ℕ
  entries : Dict DeviceId Marker
  highlighted : KeySet DeviceId
  plainColor : MarkerColor
  highlightColor : MarkerColor
  capacity_pos : 0 < capacity

namespace DeviceBuffers

def fresh (options : DeviceStoreOptions) : DeviceBuffers where
  capacity := max 1 options.capacity
  staleMs := options.staleMs
  drawn := .zeroed _ _
  origin := .zeroed _ _
  target := .zeroed _ _
  since := .zeroed _ _
  colors := .zeroed _ _
  radii := .zeroed _ _
  slotIds := []
  slots := ∅
  entries := ∅
  highlighted := ∅
  plainColor := options.plainColor
  highlightColor := options.highlightColor
  capacity_pos := by omega

/-- The entries of the store. -/
def toStore (buffers : DeviceBuffers) : DeviceStore := ⟨buffers.entries⟩

def slotOf (buffers : DeviceBuffers) (deviceId : DeviceId) : Option ℕ :=
  buffers.slots.get? deviceId

/-- What decides the colours. -/
structure Palette where
  highlighted : KeySet DeviceId
  plainColor : MarkerColor
  highlightColor : MarkerColor

/-- The colour a device has while it is shown. -/
def Palette.colorOf (palette : Palette) (deviceId : DeviceId) : MarkerColor :=
  if deviceId ∈ palette.highlighted then palette.highlightColor else palette.plainColor

def palette (buffers : DeviceBuffers) : Palette :=
  ⟨buffers.highlighted, buffers.plainColor, buffers.highlightColor⟩

def write (slot : ℕ) (color : MarkerColor) (buffers : DeviceBuffers) : DeviceBuffers :=
  { buffers with
    colors := (((buffers.colors.write slot 0 color.red).write slot 1 color.green).write slot 2
      color.blue).write slot 3 color.alpha }

/-- `#show`. -/
def reveal (slot : ℕ) (deviceId : DeviceId) (buffers : DeviceBuffers) : DeviceBuffers :=
  { buffers with radii := buffers.radii.write slot 0 markerRadiusPx }.write slot
    (buffers.palette.colorOf deviceId)

def hide (slot : ℕ) (buffers : DeviceBuffers) : DeviceBuffers :=
  { buffers with
    radii := buffers.radii.write slot 0 0
    colors := buffers.colors.write slot 3 0 }

def grow (buffers : DeviceBuffers) : DeviceBuffers :=
  { buffers with
    capacity := buffers.capacity * 2
    drawn := buffers.drawn.grown _
    origin := buffers.origin.grown _
    target := buffers.target.grown _
    since := buffers.since.grown _
    colors := buffers.colors.grown _
    radii := buffers.radii.grown _
    capacity_pos := Nat.mul_pos buffers.capacity_pos two_pos }

def makeRoom (buffers : DeviceBuffers) : DeviceBuffers :=
  if buffers.capacity ≤ buffers.slotIds.length then buffers.grow else buffers

/-- Give a device a slot of its own. -/
def assign (deviceId : DeviceId) (buffers : DeviceBuffers) : DeviceBuffers :=
  let roomy := buffers.makeRoom
  { roomy with
    slotIds := roomy.slotIds ++ [deviceId]
    slots := roomy.slots.set deviceId roomy.slotIds.length }

def admitDevice (deviceId : DeviceId) (buffers : DeviceBuffers) : ℕ × DeviceBuffers :=
  match buffers.slotOf deviceId with
  | some known => (known, buffers.reveal known deviceId)
  | none =>
      (buffers.slotIds.length, (buffers.assign deviceId).reveal buffers.slotIds.length deviceId)

/-- A device that is on screen glides from where it is drawn; one that has just
appeared starts where it is. -/
def place (isNew : Bool) (slot : ℕ) (nowMs : ℤ) (item : PositionItem) (buffers : DeviceBuffers) :
    DeviceBuffers :=
  { buffers with
    origin := (buffers.origin.write slot 0
      (if isNew then item.longitude else buffers.drawn.read slot 0)).write slot 1
        (if isNew then item.latitude else buffers.drawn.read slot 1)
    target := (buffers.target.write slot 0 item.longitude).write slot 1 item.latitude
    since := buffers.since.write slot 0 nowMs
    drawn :=
      if isNew then (buffers.drawn.write slot 0 item.longitude).write slot 1 item.latitude
      else buffers.drawn }

/-- Note the report of a device. -/
def report (item : PositionItem) (buffers : DeviceBuffers) : DeviceBuffers :=
  { buffers with entries := buffers.entries.set item.deviceId item.marker }

def merge (nowMs : ℤ) (buffers : DeviceBuffers) (item : PositionItem) : DeviceBuffers :=
  let known := buffers.entries.get? item.deviceId
  if known.any fun known => item.reportedMs ≤ known.reportedMs then buffers
  else
    let placed :=
      if known.isNone then
        let (slot, admitted) := buffers.admitDevice item.deviceId
        admitted.place true slot nowMs item
      else
        match buffers.slotOf item.deviceId with
        | some slot => buffers.place false slot nowMs item
        | none => buffers
    placed.report item

def removeOne (buffers : DeviceBuffers) (deviceId : DeviceId) : DeviceBuffers :=
  if deviceId ∈ buffers.entries then
    let deleted := { buffers with entries := buffers.entries.erase deviceId }
    match deleted.slotOf deviceId with
    | some slot => deleted.hide slot
    | none => deleted
  else
    buffers

def remove (deviceIds : List DeviceId) (buffers : DeviceBuffers) : DeviceBuffers :=
  deviceIds.foldl removeOne buffers

def apply (items : List PositionItem) (full : Bool) (nowMs : ℤ) (buffers : DeviceBuffers) :
    DeviceBuffers :=
  let merged := items.foldl (merge nowMs) buffers
  if full then
    merged.remove (merged.entries.keys.filter fun deviceId =>
      deviceId ∉ items.map PositionItem.deviceId)
  else
    merged

/-- The devices whose last report is too old, and the store without them. -/
def sweep (nowMs : ℤ) (buffers : DeviceBuffers) : List DeviceId × DeviceBuffers :=
  let dropped := (buffers.entries.entries.filter fun entry =>
    buffers.staleMs < nowMs - entry.2.reportedMs).map Prod.fst
  (dropped, buffers.remove dropped)

/-- A device that is not reported stays invisible. -/
def paint (color : MarkerColor) (buffers : DeviceBuffers) (deviceId : DeviceId) : DeviceBuffers :=
  if deviceId ∈ buffers.entries then
    match buffers.slotOf deviceId with
    | some slot => buffers.write slot color
    | none => buffers
  else
    buffers

def setHighlighted (next : KeySet DeviceId) (buffers : DeviceBuffers) : DeviceBuffers :=
  let plained := (buffers.highlighted.keys.filter fun deviceId => deviceId ∉ next).foldl
    (paint buffers.plainColor) buffers
  let painted := (next.keys.filter fun deviceId => deviceId ∉ plained.highlighted).foldl
    (paint buffers.highlightColor) plained
  { painted with highlighted := next }

/-- Markers are drawn elsewhere, as `interpolate` and `snap` do. -/
def draw (positions : ℕ → ℚ × ℚ) (buffers : DeviceBuffers) : DeviceBuffers :=
  { buffers with
    drawn := (List.range buffers.slotIds.length).foldl (fun drawn slot =>
      (drawn.write slot 0 (positions slot).1).write slot 1 (positions slot).2) buffers.drawn }

/-- What the page does to the store. -/
inductive Call where
  | apply (items : List PositionItem) (full : Bool) (nowMs : ℤ)
  | remove (deviceIds : List DeviceId)
  | sweep (nowMs : ℤ)
  | setHighlighted (deviceIds : KeySet DeviceId)
  | draw (positions : ℕ → ℚ × ℚ)

def perform (buffers : DeviceBuffers) : Call → DeviceBuffers
  | .apply items full nowMs => buffers.apply items full nowMs
  | .remove deviceIds => buffers.remove deviceIds
  | .sweep nowMs => (buffers.sweep nowMs).2
  | .setHighlighted deviceIds => buffers.setHighlighted deviceIds
  | .draw positions => buffers.draw positions

/-- The store after a list of calls. -/
def performAll (options : DeviceStoreOptions) (calls : List Call) : DeviceBuffers :=
  calls.foldl perform (fresh options)

section Appearances

/-- How a slot looks, and where its marker goes. -/
structure Appearance where
  radius : ℚ
  color : MarkerColor
  target : ℚ × ℚ

/-- Too small to be seen, and transparent. -/
def Appearance.Hidden (appearance : Appearance) : Prop :=
  appearance.radius = 0 ∧ appearance.color.alpha = 0

/-- A device with its marker on the map. -/
def shown (color : MarkerColor) (marker : Marker) : Appearance :=
  ⟨markerRadiusPx, color, (marker.longitude, marker.latitude)⟩

/-- A device that is reported is shown, and any other is hidden. -/
def Looks (color : MarkerColor) : Option Marker → Appearance → Prop
  | some marker, appearance => appearance = shown color marker
  | none, appearance => appearance.Hidden

def appearance (buffers : DeviceBuffers) (slot : ℕ) : Appearance where
  radius := buffers.radii.read slot 0
  color := ⟨buffers.colors.read slot 0, buffers.colors.read slot 1, buffers.colors.read slot 2,
    buffers.colors.read slot 3⟩
  target := (buffers.target.read slot 0, buffers.target.read slot 1)

/-- Where the marker of a slot is drawn, and its way. -/
structure Glide where
  drawn : ℚ × ℚ
  origin : ℚ × ℚ
  target : ℚ × ℚ
  since : ℤ

def glide (buffers : DeviceBuffers) (slot : ℕ) : Glide where
  drawn := (buffers.drawn.read slot 0, buffers.drawn.read slot 1)
  origin := (buffers.origin.read slot 0, buffers.origin.read slot 1)
  target := (buffers.target.read slot 0, buffers.target.read slot 1)
  since := buffers.since.read slot 0

variable {buffers : DeviceBuffers} {slot : ℕ}

open StridedBuffer

theorem appearance_write (within : slot < buffers.capacity) (color : MarkerColor) :
    (buffers.write slot color).appearance =
      Function.update buffers.appearance slot { buffers.appearance slot with color := color } := by
  funext other
  by_cases same : other = slot
  · subst same
    simp [appearance, write, read_write within]
  · simp [appearance, write, read_write_of_ne same, Function.update_of_ne same]

theorem appearance_reveal (within : slot < buffers.capacity) (deviceId : DeviceId) :
    (buffers.reveal slot deviceId).appearance =
      Function.update buffers.appearance slot
        { buffers.appearance slot with
          radius := markerRadiusPx
          color := buffers.palette.colorOf deviceId } := by
  funext other
  by_cases same : other = slot
  · subst same
    simp [appearance, reveal, write, read_write within]
  · simp [appearance, reveal, write, read_write_of_ne same, Function.update_of_ne same]

theorem appearance_hide (within : slot < buffers.capacity) :
    (buffers.hide slot).appearance =
      Function.update buffers.appearance slot
        { buffers.appearance slot with
          radius := 0
          color := { (buffers.appearance slot).color with alpha := 0 } } := by
  funext other
  by_cases same : other = slot
  · subst same
    simp [appearance, hide, read_write within]
  · simp [appearance, hide, read_write_of_ne same, Function.update_of_ne same]

theorem appearance_place (within : slot < buffers.capacity) (isNew : Bool) (nowMs : ℤ)
    (item : PositionItem) :
    (buffers.place isNew slot nowMs item).appearance =
      Function.update buffers.appearance slot
        { buffers.appearance slot with target := (item.longitude, item.latitude) } := by
  funext other
  by_cases same : other = slot
  · subst same
    simp [appearance, place, read_write within]
  · simp [appearance, place, read_write_of_ne same, Function.update_of_ne same]

theorem appearance_grow (buffers : DeviceBuffers) :
    buffers.grow.appearance = buffers.appearance := by
  have longer : buffers.capacity ≤ buffers.capacity * 2 := Nat.le_mul_of_pos_right _ two_pos
  funext slot
  simp [appearance, grow, read_grown longer]

theorem appearance_makeRoom (buffers : DeviceBuffers) :
    buffers.makeRoom.appearance = buffers.appearance := by
  unfold makeRoom
  split
  case isTrue => exact buffers.appearance_grow
  case isFalse => rfl

theorem appearance_fresh (options : DeviceStoreOptions) (slot : ℕ) :
    (fresh options).appearance slot = ⟨0, ⟨0, 0, 0, 0⟩, (0, 0)⟩ := by
  simp [appearance, fresh]

end Appearances

section Slots

/-- The slots are the places of the devices in the order they came, and every
slot has a row. -/
structure Slotted (buffers : DeviceBuffers) : Prop where
  owned : ∀ deviceId slot, buffers.slotOf deviceId = some slot ↔
    buffers.slotIds[slot]? = some deviceId
  fits : buffers.slotIds.length ≤ buffers.capacity

variable {buffers after : DeviceBuffers} {deviceId other : DeviceId} {slot : ℕ}

theorem Slotted.lt (slotted : buffers.Slotted) (owned : buffers.slotOf deviceId = some slot) :
    slot < buffers.slotIds.length :=
  (List.getElem?_eq_some_iff.mp ((slotted.owned deviceId slot).mp owned)).1

theorem Slotted.within (slotted : buffers.Slotted) (owned : buffers.slotOf deviceId = some slot) :
    slot < buffers.capacity :=
  (slotted.lt owned).trans_le slotted.fits

theorem Slotted.eq_of_slotOf (slotted : buffers.Slotted) (one : buffers.slotOf deviceId = some slot)
    (two : buffers.slotOf other = some slot) : deviceId = other := by
  have first := (slotted.owned deviceId slot).mp one
  rw [(slotted.owned other slot).mp two] at first
  exact (Option.some.inj first).symm

/-- A device keeps its slot when more devices come. -/
theorem Slotted.slotOf_of_prefix (slotted : buffers.Slotted) (later : after.Slotted)
    (longer : buffers.slotIds <+: after.slotIds) (owned : buffers.slotOf deviceId = some slot) :
    after.slotOf deviceId = some slot := by
  obtain ⟨more, same⟩ := longer
  rw [later.owned, ← same, List.getElem?_append_left (slotted.lt owned)]
  exact (slotted.owned deviceId slot).mp owned

theorem slotted_fresh (options : DeviceStoreOptions) : (fresh options).Slotted where
  owned := by simp [slotOf, fresh]
  fits := Nat.zero_le _

/-- Room is made in the buffers only. -/
theorem makeRoom_eq (buffers : DeviceBuffers) :
    buffers.makeRoom.slotIds = buffers.slotIds ∧ buffers.makeRoom.slots = buffers.slots ∧
      buffers.makeRoom.entries = buffers.entries ∧ buffers.makeRoom.palette = buffers.palette := by
  unfold makeRoom
  split <;> exact ⟨rfl, rfl, rfl, rfl⟩

theorem slotIds_assign (buffers : DeviceBuffers) (deviceId : DeviceId) :
    (buffers.assign deviceId).slotIds = buffers.slotIds ++ [deviceId] :=
  congrArg (· ++ [deviceId]) buffers.makeRoom_eq.1

theorem slotOf_assign (buffers : DeviceBuffers) (deviceId other : DeviceId) :
    (buffers.assign deviceId).slotOf other =
      if other = deviceId then some buffers.slotIds.length else buffers.slotOf other := by
  obtain ⟨slotIds, slots, -⟩ := buffers.makeRoom_eq
  rw [slotOf, assign, slotIds, slots, Dict.get?_set, slotOf]

/-- One doubling makes room for one more device. -/
theorem Slotted.assign (slotted : buffers.Slotted) (unknown : buffers.slotOf deviceId = none) :
    (buffers.assign deviceId).Slotted := by
  constructor
  · intro other slot
    rw [slotOf_assign, slotIds_assign]
    rcases lt_trichotomy slot buffers.slotIds.length with old | rfl | beyond
    · rw [List.getElem?_append_left old, ← slotted.owned other slot]
      split
      case isTrue same =>
          rw [same, unknown]
          exact iff_of_false (fun last => old.ne' (Option.some.inj last)) nofun
      case isFalse => rfl
    · rw [List.getElem?_concat_length]
      split
      case isTrue same => simp [same]
      case isFalse differs =>
          exact iff_of_false (fun owned => absurd (slotted.lt owned) (lt_irrefl _))
            fun same => differs (Option.some.inj same).symm
    · have outside : (buffers.slotIds ++ [deviceId])[slot]? = none :=
        List.getElem?_eq_none (by simpa using Nat.succ_le_of_lt beyond)
      rw [outside]
      split
      case isTrue => exact iff_of_false (fun last => beyond.ne (Option.some.inj last)) nofun
      case isFalse =>
          exact iff_of_false (fun owned => absurd (slotted.lt owned) (not_lt.mpr beyond.le)) nofun
  · rw [slotIds_assign, List.length_append, List.length_singleton]
    have fits := slotted.fits
    have positive := buffers.capacity_pos
    change buffers.slotIds.length + 1 ≤ buffers.makeRoom.capacity
    unfold makeRoom
    split
    case isTrue full =>
        simp only [grow]
        omega
    case isFalse room => exact not_le.mp room

end Slots

end DeviceBuffers

end GeoTrack
