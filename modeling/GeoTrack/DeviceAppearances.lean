import GeoTrack.DeviceBuffers

/-!
# How the devices look

The rows of the buffers are kept in step with the entries by painting only what
changes.  At any time a row's colour, radius and target say whether its device is
reported, whether it is highlighted, and where it is, whatever happened in between:
a device that is highlighted while it is hidden comes back in its colour.
-/

namespace GeoTrack

namespace DeviceBuffers

section Painting

/-- Every device looks as its entry and a colouring say, and the slots that no
device has are hidden. -/
structure Painted (colors : DeviceId → MarkerColor) (buffers : DeviceBuffers) : Prop
    extends Slotted buffers where
  placed : ∀ deviceId ∈ buffers.entries, ∃ slot, buffers.slotOf deviceId = some slot
  looks : ∀ deviceId slot, buffers.slotOf deviceId = some slot →
    Looks (colors deviceId) (buffers.entries.get? deviceId) (buffers.appearance slot)
  blank : ∀ slot, buffers.slotIds.length ≤ slot → (buffers.appearance slot).Hidden

variable {colors recolored : DeviceId → MarkerColor} {buffers after : DeviceBuffers}
  {deviceId : DeviceId} {slot : ℕ}

theorem painted_fresh (colors : DeviceId → MarkerColor) (options : DeviceStoreOptions) :
    (fresh options).Painted colors where
  toSlotted := slotted_fresh options
  placed := fun _ known => absurd known Bool.false_ne_true
  looks := by simp [slotOf, fresh]
  blank := fun slot _ => by rw [appearance_fresh]; exact ⟨rfl, rfl⟩

/-- A device that is new to the store is hidden at first. -/
theorem Painted.assign (painted : buffers.Painted colors)
    (unknown : buffers.slotOf deviceId = none) : (buffers.assign deviceId).Painted colors := by
  obtain ⟨-, -, entries, -⟩ := buffers.makeRoom_eq
  have sameEntries : (buffers.assign deviceId).entries = buffers.entries := entries
  have same : (buffers.assign deviceId).appearance = buffers.appearance :=
    buffers.appearance_makeRoom
  constructor
  · exact painted.toSlotted.assign unknown
  · intro other known
    rw [sameEntries] at known
    obtain ⟨slot, owned⟩ := painted.placed other known
    rw [slotOf_assign]
    split
    · exact ⟨_, rfl⟩
    · exact ⟨slot, owned⟩
  · intro other slot owned
    rw [slotOf_assign] at owned
    rw [same, sameEntries]
    split at owned
    case isTrue isNew =>
        have unreported : buffers.entries.get? other = none := by
          refine Dict.not_mem_iff.mp fun known => ?_
          obtain ⟨slot, known⟩ := painted.placed other known
          rw [isNew, unknown] at known
          cases known
        rw [unreported]
        exact painted.blank slot (Option.some.inj owned).le
    case isFalse => exact painted.looks other slot owned
  · intro slot beyond
    rw [slotIds_assign, List.length_append] at beyond
    rw [same]
    exact painted.blank slot (Nat.le_of_add_right_le beyond)

/-- What happens at the slot of one device leaves the others as they look. -/
theorem Painted.update {appearance : Appearance} (painted : buffers.Painted colors)
    (own : buffers.slotOf deviceId = some slot) (sameIds : after.slotIds = buffers.slotIds)
    (sameSlots : after.slots = buffers.slots) (sameCapacity : after.capacity = buffers.capacity)
    (appears : after.appearance = Function.update buffers.appearance slot appearance)
    (others : ∀ other, other ≠ deviceId → recolored other = colors other ∧
      after.entries.get? other = buffers.entries.get? other)
    (looks : Looks (recolored deviceId) (after.entries.get? deviceId) appearance) :
    after.Painted recolored := by
  have sameSlot (other : DeviceId) : after.slotOf other = buffers.slotOf other := by
    rw [slotOf, sameSlots, slotOf]
  constructor
  · constructor
    · intro other slot
      rw [sameSlot, sameIds]
      exact painted.owned other slot
    · rw [sameIds, sameCapacity]
      exact painted.fits
  · intro other known
    rw [sameSlot]
    by_cases same : other = deviceId
    · exact ⟨slot, same ▸ own⟩
    · rw [Dict.mem_def, (others other same).2] at known
      exact painted.placed other known
  · intro other otherSlot owned
    rw [sameSlot] at owned
    rw [appears]
    by_cases same : other = deviceId
    · subst same
      obtain rfl := Option.some.inj (owned.symm.trans own)
      rw [Function.update_self]
      exact looks
    · have apart : otherSlot ≠ slot := fun equal =>
        same (painted.eq_of_slotOf owned (equal ▸ own))
      rw [Function.update_of_ne apart, (others other same).1, (others other same).2]
      exact painted.looks other otherSlot owned
  · intro free beyond
    rw [sameIds] at beyond
    have apart : free ≠ slot := ((painted.lt own).trans_le beyond).ne'
    rw [appears, Function.update_of_ne apart]
    exact painted.blank free beyond

/-- Once a device looks as its report says, the report is noted. -/
theorem Painted.report {placed : DeviceBuffers} {item : PositionItem}
    (painted : buffers.Painted colors) (own : buffers.slotOf item.deviceId = some slot)
    (sameIds : placed.slotIds = buffers.slotIds) (sameSlots : placed.slots = buffers.slots)
    (sameCapacity : placed.capacity = buffers.capacity) (same : placed.entries = buffers.entries)
    (appears : placed.appearance = Function.update buffers.appearance slot
      (shown (colors item.deviceId) item.marker)) : (placed.report item).Painted colors := by
  refine painted.update own sameIds sameSlots sameCapacity appears (fun other differs => ?_) ?_
  · refine ⟨rfl, ?_⟩
    rw [DeviceBuffers.report, Dict.get?_set, if_neg differs, same]
  · rw [DeviceBuffers.report, Dict.get?_set, if_pos rfl]
    rfl

/-- A device that was not reported is shown where it starts. -/
theorem Painted.appear (painted : buffers.Painted buffers.palette.colorOf) {item : PositionItem}
    (own : buffers.slotOf item.deviceId = some slot) (nowMs : ℤ) :
    (((buffers.reveal slot item.deviceId).place true slot nowMs item).report item).Painted
      buffers.palette.colorOf := by
  have within := painted.within own
  have revealedWithin : slot < (buffers.reveal slot item.deviceId).capacity := within
  refine painted.report own rfl rfl rfl rfl ?_
  rw [appearance_place revealedWithin, appearance_reveal within, Function.update_idem,
    Function.update_self]
  rfl

/-- A device that was reported keeps its colour and moves on. -/
theorem Painted.glide (painted : buffers.Painted colors) {item : PositionItem} {known : Marker}
    (reported : buffers.entries.get? item.deviceId = some known)
    (own : buffers.slotOf item.deviceId = some slot) (nowMs : ℤ) :
    ((buffers.place false slot nowMs item).report item).Painted colors := by
  refine painted.report own rfl rfl rfl rfl ?_
  have looks := painted.looks item.deviceId slot own
  rw [reported] at looks
  rw [appearance_place (painted.within own), looks]
  rfl

/-- A device that is removed is hidden. -/
theorem Painted.removeOne (painted : buffers.Painted colors) (deviceId : DeviceId) :
    (buffers.removeOne deviceId).Painted colors := by
  unfold DeviceBuffers.removeOne
  split
  case isFalse => exact painted
  case isTrue known =>
      obtain ⟨slot, own⟩ := painted.placed deviceId known
      have deletedOwn : slotOf { buffers with entries := buffers.entries.erase deviceId } deviceId =
          some slot := own
      simp only [deletedOwn]
      refine painted.update own rfl rfl rfl (appearance_hide (painted.within own))
        (fun other differs => ⟨rfl, ?_⟩) ?_
      · exact (Dict.get?_erase _ _ _).trans (if_neg differs)
      · have gone : (buffers.entries.erase deviceId).get? deviceId = none := by simp
        simp only [hide, gone]
        exact ⟨rfl, rfl⟩

/-- A device takes the colour, or will take it when it is shown. -/
theorem Painted.paint (painted : buffers.Painted colors) (color : MarkerColor)
    (deviceId : DeviceId) :
    (buffers.paint color deviceId).Painted (Function.update colors deviceId color) := by
  have others (other : DeviceId) (differs : other ≠ deviceId) :
      Function.update colors deviceId color other = colors other :=
    Function.update_of_ne differs _ _
  unfold DeviceBuffers.paint
  split
  case isTrue known =>
      obtain ⟨slot, own⟩ := painted.placed deviceId known
      obtain ⟨marker, reported⟩ := Dict.mem_iff_exists.mp known
      have looks := painted.looks deviceId slot own
      rw [reported] at looks
      simp only [own]
      refine painted.update own rfl rfl rfl (appearance_write (painted.within own) color)
        (fun other differs => ⟨others other differs, rfl⟩) ?_
      rw [looks, Function.update_self]
      simp only [write, reported]
      rfl
  case isFalse unknown =>
      refine ⟨painted.toSlotted, painted.placed, fun other slot owned => ?_, painted.blank⟩
      by_cases same : other = deviceId
      · have looks := painted.looks other slot owned
        rw [same, Dict.not_mem_iff.mp unknown] at looks ⊢
        exact looks
      · rw [others other same]
        exact painted.looks other slot owned

theorem Painted.foldl_paint (painted : buffers.Painted colors) (color : MarkerColor)
    (deviceIds : List DeviceId) :
    (deviceIds.foldl (DeviceBuffers.paint color) buffers).Painted fun deviceId =>
      if deviceId ∈ deviceIds then color else colors deviceId := by
  induction deviceIds generalizing buffers colors with
  | nil => simpa using painted
  | cons first rest ih =>
      have after := ih (painted.paint color first)
      have same : (fun deviceId => if deviceId ∈ rest then color
          else Function.update colors first color deviceId) =
          fun deviceId => if deviceId ∈ first :: rest then color else colors deviceId := by
        funext deviceId
        by_cases isFirst : deviceId = first
        · simp [isFirst]
        · simp [isFirst]
      rw [same] at after
      exact after

end Painting

section Calls

/-- Every device has the colour that the palette gives it. -/
def Sound (buffers : DeviceBuffers) : Prop := buffers.Painted buffers.palette.colorOf

/-- The slots and the colours that were given stay. -/
structure Keeps (buffers after : DeviceBuffers) : Prop where
  slotIds : buffers.slotIds <+: after.slotIds
  palette : after.palette = buffers.palette

variable {buffers after : DeviceBuffers} {deviceId : DeviceId}

theorem Keeps.refl (buffers : DeviceBuffers) : Keeps buffers buffers := ⟨List.prefix_rfl, rfl⟩

theorem Keeps.trans {middle : DeviceBuffers} (first : Keeps buffers middle)
    (second : Keeps middle after) : Keeps buffers after :=
  ⟨first.slotIds.trans second.slotIds, second.palette.trans first.palette⟩

/-- What every step of a loop keeps, the loop keeps. -/
theorem keeps_foldl {ι : Type} {step : DeviceBuffers → ι → DeviceBuffers}
    (keeps : ∀ (buffers : DeviceBuffers) (item : ι), buffers.Keeps (step buffers item))
    (items : List ι) (buffers : DeviceBuffers) : buffers.Keeps (items.foldl step buffers) := by
  induction items generalizing buffers with
  | nil => exact Keeps.refl buffers
  | cons item rest ih => exact (keeps buffers item).trans (ih _)

theorem keeps_admitDevice (buffers : DeviceBuffers) (deviceId : DeviceId) :
    buffers.Keeps (buffers.admitDevice deviceId).2 := by
  unfold admitDevice
  split
  · exact ⟨List.prefix_rfl, rfl⟩
  · obtain ⟨-, -, -, samePalette⟩ := buffers.makeRoom_eq
    refine ⟨?_, samePalette⟩
    change buffers.slotIds <+: (buffers.assign deviceId).slotIds
    rw [slotIds_assign]
    exact List.prefix_append _ _

theorem keeps_merge (nowMs : ℤ) (buffers : DeviceBuffers) (item : PositionItem) :
    buffers.Keeps (buffers.merge nowMs item) := by
  unfold merge
  dsimp only
  split
  case isTrue => exact Keeps.refl buffers
  case isFalse =>
      split
      case isTrue =>
          obtain ⟨slotIds, palette⟩ := keeps_admitDevice buffers item.deviceId
          exact ⟨slotIds, palette⟩
      case isFalse =>
          split
          · exact ⟨List.prefix_rfl, rfl⟩
          · exact ⟨List.prefix_rfl, rfl⟩

theorem keeps_removeOne (buffers : DeviceBuffers) (deviceId : DeviceId) :
    buffers.Keeps (buffers.removeOne deviceId) := by
  unfold removeOne
  split
  · dsimp only
    split
    · exact ⟨List.prefix_rfl, rfl⟩
    · exact ⟨List.prefix_rfl, rfl⟩
  · exact Keeps.refl buffers

theorem keeps_paint (color : MarkerColor) (buffers : DeviceBuffers) (deviceId : DeviceId) :
    buffers.Keeps (buffers.paint color deviceId) := by
  unfold paint
  split
  · split
    · exact ⟨List.prefix_rfl, rfl⟩
    · exact Keeps.refl buffers
  · exact Keeps.refl buffers

/-- A reported device is shown where its newest report says. -/
theorem Sound.merge (sound : buffers.Sound) (nowMs : ℤ) (item : PositionItem) :
    (buffers.merge nowMs item).Sound := by
  rw [Sound, (keeps_merge nowMs buffers item).palette]
  unfold DeviceBuffers.merge
  dsimp only
  split
  case isTrue => exact sound
  case isFalse =>
      cases reported : buffers.entries.get? item.deviceId with
      | some known =>
          obtain ⟨slot, own⟩ := sound.placed item.deviceId (Dict.mem_iff_exists.mpr ⟨_, reported⟩)
          simp only [Option.isNone_some, Bool.false_eq_true, if_false, own]
          exact sound.glide reported own nowMs
      | none =>
          simp only [Option.isNone_none, if_true]
          unfold admitDevice
          split
          case h_1 slot own => exact sound.appear own nowMs
          case h_2 unknown =>
              obtain ⟨-, -, -, same⟩ := buffers.makeRoom_eq
              have samePalette : (buffers.assign item.deviceId).palette = buffers.palette := same
              have own := buffers.slotOf_assign item.deviceId item.deviceId
              rw [if_pos rfl] at own
              have assigned := sound.assign unknown
              rw [← samePalette] at assigned ⊢
              exact assigned.appear own nowMs

theorem Sound.foldl_merge (sound : buffers.Sound) (nowMs : ℤ) (items : List PositionItem) :
    (items.foldl (DeviceBuffers.merge nowMs) buffers).Sound := by
  induction items generalizing buffers with
  | nil => exact sound
  | cons item rest ih => exact ih (sound.merge nowMs item)

theorem Sound.remove (sound : buffers.Sound) (deviceIds : List DeviceId) :
    (buffers.remove deviceIds).Sound := by
  unfold DeviceBuffers.remove
  induction deviceIds generalizing buffers with
  | nil => exact sound
  | cons first rest ih =>
      apply ih
      rw [Sound, (keeps_removeOne buffers first).palette]
      exact sound.removeOne first

theorem keeps_remove (buffers : DeviceBuffers) (deviceIds : List DeviceId) :
    buffers.Keeps (buffers.remove deviceIds) :=
  keeps_foldl keeps_removeOne deviceIds buffers

theorem keeps_apply (buffers : DeviceBuffers) (items : List PositionItem) (full : Bool)
    (nowMs : ℤ) : buffers.Keeps (buffers.apply items full nowMs) := by
  have merged := keeps_foldl (keeps_merge nowMs) items buffers
  unfold apply
  dsimp only
  split
  · exact merged.trans (keeps_remove _ _)
  · exact merged

theorem Sound.apply (sound : buffers.Sound) (items : List PositionItem) (full : Bool)
    (nowMs : ℤ) : (buffers.apply items full nowMs).Sound := by
  have merged := sound.foldl_merge nowMs items
  unfold DeviceBuffers.apply
  dsimp only
  split
  · exact merged.remove _
  · exact merged

theorem palette_setHighlighted (buffers : DeviceBuffers) (next : KeySet DeviceId) :
    (buffers.setHighlighted next).palette = { buffers.palette with highlighted := next } ∧
      buffers.slotIds <+: (buffers.setHighlighted next).slotIds := by
  have plained := keeps_foldl (keeps_paint buffers.plainColor)
    (buffers.highlighted.keys.filter fun deviceId => deviceId ∉ next) buffers
  obtain ⟨slotIds, palette⟩ := plained.trans (keeps_foldl (keeps_paint buffers.highlightColor) _ _)
  exact ⟨congrArg (fun palette : Palette => { palette with highlighted := next }) palette, slotIds⟩

/-- Only the devices that enter or leave the set are painted, and that is enough. -/
theorem Sound.setHighlighted (sound : buffers.Sound) (next : KeySet DeviceId) :
    (buffers.setHighlighted next).Sound := by
  have plained := sound.foldl_paint buffers.plainColor
    (buffers.highlighted.keys.filter fun deviceId => deviceId ∉ next)
  have kept := keeps_foldl (keeps_paint buffers.plainColor)
    (buffers.highlighted.keys.filter fun deviceId => deviceId ∉ next) buffers
  have sameSet := congrArg Palette.highlighted kept.palette
  have painted := plained.foldl_paint buffers.highlightColor
    (next.keys.filter fun deviceId => deviceId ∉ buffers.highlighted)
  rw [Sound, (palette_setHighlighted buffers next).1]
  have recolored : Palette.colorOf { buffers.palette with highlighted := next } = fun deviceId =>
      if deviceId ∈ next.keys.filter fun deviceId => deviceId ∉ buffers.highlighted then
        buffers.highlightColor
      else if deviceId ∈ buffers.highlighted.keys.filter fun deviceId => deviceId ∉ next then
        buffers.plainColor
      else buffers.palette.colorOf deviceId := by
    funext deviceId
    simp only [Palette.colorOf, palette, List.mem_filter, Dict.mem_keys_iff, decide_eq_true_eq]
    by_cases before : deviceId ∈ buffers.highlighted <;> by_cases after : deviceId ∈ next <;>
      simp [before, after]
  rw [recolored]
  unfold DeviceBuffers.setHighlighted
  dsimp only
  change Palette.highlighted _ = Palette.highlighted _ at sameSet
  simp only [palette] at sameSet
  rw [sameSet]
  exact ⟨⟨painted.owned, painted.fits⟩, painted.placed, painted.looks, painted.blank⟩

theorem Sound.draw (sound : buffers.Sound) (positions : ℕ → ℚ × ℚ) :
    (buffers.draw positions).Sound :=
  ⟨⟨sound.owned, sound.fits⟩, sound.placed, sound.looks, sound.blank⟩

/-- The set that a call highlights. -/
def Call.highlights : Call → Option (KeySet DeviceId)
  | .setHighlighted deviceIds => some deviceIds
  | _ => none

theorem Sound.perform (sound : buffers.Sound) (call : Call) : (buffers.perform call).Sound := by
  cases call with
  | apply items full nowMs => exact sound.apply items full nowMs
  | remove deviceIds => exact sound.remove deviceIds
  | sweep nowMs => exact sound.remove _
  | setHighlighted deviceIds => exact sound.setHighlighted deviceIds
  | draw positions => exact sound.draw positions

/-- Slots are only added, and only the set of highlighted devices changes. -/
theorem perform_spec (buffers : DeviceBuffers) (call : Call) :
    buffers.slotIds <+: (buffers.perform call).slotIds ∧
      (buffers.perform call).palette =
        { buffers.palette with highlighted := call.highlights.getD buffers.highlighted } := by
  cases call with
  | apply items full nowMs =>
      obtain ⟨slotIds, palette⟩ := keeps_apply buffers items full nowMs
      exact ⟨slotIds, palette⟩
  | remove deviceIds =>
      obtain ⟨slotIds, palette⟩ := keeps_remove buffers deviceIds
      exact ⟨slotIds, palette⟩
  | sweep nowMs =>
      obtain ⟨slotIds, palette⟩ := keeps_remove buffers (buffers.sweep nowMs).1
      exact ⟨slotIds, palette⟩
  | setHighlighted deviceIds =>
      obtain ⟨palette, slotIds⟩ := palette_setHighlighted buffers deviceIds
      exact ⟨slotIds, palette⟩
  | draw positions => exact ⟨List.prefix_rfl, rfl⟩

end Calls

section Entries

variable (buffers : DeviceBuffers)

theorem entries_makeRoom : buffers.makeRoom.entries = buffers.entries := buffers.makeRoom_eq.2.2.1

/-- The buffers have no say in which reports are kept. -/
theorem toStore_merge (nowMs : ℤ) (item : PositionItem) :
    (buffers.merge nowMs item).toStore = buffers.toStore.merge item := by
  have same : buffers.toStore.get item.deviceId = buffers.entries.get? item.deviceId := rfl
  rw [DeviceStore.merge, same]
  unfold merge
  dsimp only
  split
  case isTrue => rfl
  case isFalse =>
      have admitted : (buffers.admitDevice item.deviceId).2.entries = buffers.entries := by
        unfold admitDevice
        split
        · rfl
        · exact buffers.entries_makeRoom
      split
      case isTrue => exact congrArg (fun entries => DeviceStore.mk (Dict.set entries _ _)) admitted
      case isFalse => split <;> rfl

theorem toStore_foldl_merge (nowMs : ℤ) (items : List PositionItem) :
    (items.foldl (merge nowMs) buffers).toStore =
      items.foldl DeviceStore.merge buffers.toStore := by
  induction items generalizing buffers with
  | nil => rfl
  | cons item rest ih => rw [List.foldl_cons, ih, toStore_merge, List.foldl_cons]

theorem toStore_removeOne (deviceId : DeviceId) :
    (buffers.removeOne deviceId).toStore = ⟨buffers.entries.erase deviceId⟩ := by
  unfold removeOne
  split
  case isTrue =>
      dsimp only
      split <;> rfl
  case isFalse unknown => rw [Dict.erase_of_not_mem unknown, toStore]

theorem toStore_remove (deviceIds : List DeviceId) :
    (buffers.remove deviceIds).toStore = buffers.toStore.remove deviceIds := by
  unfold remove DeviceStore.remove
  induction deviceIds generalizing buffers with
  | nil => rfl
  | cons first rest ih =>
      have removed : (buffers.removeOne first).entries = buffers.entries.erase first :=
        congrArg DeviceStore.entries (buffers.toStore_removeOne first)
      rw [List.foldl_cons, ih, List.foldl_cons, toStore, removed, toStore]

/-- The entries are those of the store without its buffers. -/
theorem toStore_apply (items : List PositionItem) (full : Bool) (nowMs : ℤ) :
    (buffers.apply items full nowMs).toStore = buffers.toStore.apply items full := by
  have merged := buffers.toStore_foldl_merge nowMs items
  have sameEntries : (items.foldl (merge nowMs) buffers).entries =
      (items.foldl DeviceStore.merge buffers.toStore).entries :=
    congrArg DeviceStore.entries merged
  unfold apply DeviceStore.apply
  dsimp only
  rw [← sameEntries, ← merged]
  split
  · exact toStore_remove _ _
  · rfl

end Entries

section Runs

/-- The set that was highlighted last. -/
def lastHighlighted (calls : List Call) : KeySet DeviceId :=
  (calls.filterMap Call.highlights).getLastD ∅

theorem performAll_concat (options : DeviceStoreOptions) (calls : List Call) (call : Call) :
    performAll options (calls ++ [call]) = (performAll options calls).perform call :=
  List.foldl_concat ..

theorem sound_performAll (options : DeviceStoreOptions) (calls : List Call) :
    (performAll options calls).Sound ∧
      (performAll options calls).palette =
        ⟨lastHighlighted calls, options.plainColor, options.highlightColor⟩ := by
  induction calls using List.reverseRecOn with
  | nil => exact ⟨painted_fresh _ options, rfl⟩
  | append_singleton calls call ih =>
      obtain ⟨sound, palette⟩ := ih
      rw [performAll_concat]
      refine ⟨sound.perform call, ?_⟩
      have highlighted : (performAll options calls).highlighted = lastHighlighted calls :=
        congrArg Palette.highlighted palette
      rw [(perform_spec _ call).2, palette, highlighted, lastHighlighted, lastHighlighted,
        List.filterMap_append]
      cases isSet : call.highlights with
      | none => simp [isSet]
      | some next => simp [isSet]

theorem slotIds_performAll_append (options : DeviceStoreOptions) (earlier later : List Call) :
    (performAll options earlier).slotIds <+: (performAll options (earlier ++ later)).slotIds := by
  induction later using List.reverseRecOn with
  | nil => rw [List.append_nil]
  | append_singleton later call ih =>
      rw [← List.append_assoc, performAll_concat]
      exact ih.trans (perform_spec _ call).1

/-- What the buffers say of the devices: a row is visible while its device is
reported, in the colour of the set it is in, and goes where the entry says. -/
structure Represents (options : DeviceStoreOptions) (highlighted : KeySet DeviceId)
    (buffers : DeviceBuffers) : Prop where
  placed : ∀ deviceId ∈ buffers.entries, ∃ slot, buffers.slotOf deviceId = some slot
  apart : ∀ deviceId other slot, buffers.slotOf deviceId = some slot →
    buffers.slotOf other = some slot → deviceId = other
  within : ∀ deviceId slot, buffers.slotOf deviceId = some slot → slot < buffers.capacity
  radius : ∀ slot, (buffers.appearance slot).radius ≠ 0 ↔
    ∃ deviceId ∈ buffers.entries, buffers.slotOf deviceId = some slot
  alpha : ∀ slot, (buffers.appearance slot).color.alpha ≠ 0 ↔
    ∃ deviceId ∈ buffers.entries, buffers.slotOf deviceId = some slot
  highlight : ∀ deviceId slot, buffers.slotOf deviceId = some slot →
    ((buffers.appearance slot).color = options.highlightColor ↔
      deviceId ∈ buffers.entries ∧ deviceId ∈ highlighted)
  plain : ∀ deviceId slot, buffers.slotOf deviceId = some slot →
    ((buffers.appearance slot).color = options.plainColor ↔
      deviceId ∈ buffers.entries ∧ deviceId ∉ highlighted)
  target : ∀ deviceId slot marker, buffers.slotOf deviceId = some slot →
    buffers.entries.get? deviceId = some marker →
      (buffers.appearance slot).target = (marker.longitude, marker.latitude)

variable {options : DeviceStoreOptions} {highlighted : KeySet DeviceId} {buffers : DeviceBuffers}
  {deviceId : DeviceId} {slot : ℕ}

/-- A slot is visible while the device it belongs to is reported. -/
theorem Sound.visible_iff (sound : buffers.Sound) (visible : Appearance → Prop)
    (whenShown : ∀ deviceId marker, visible (shown (buffers.palette.colorOf deviceId) marker))
    (whenHidden : ∀ appearance : Appearance, appearance.Hidden → ¬ visible appearance) (slot : ℕ) :
    visible (buffers.appearance slot) ↔
      ∃ deviceId ∈ buffers.entries, buffers.slotOf deviceId = some slot := by
  constructor
  · intro seen
    by_contra nobody
    rcases lt_or_ge slot buffers.slotIds.length with old | beyond
    · have own := (sound.owned _ slot).mpr (List.getElem?_eq_getElem old)
      have unreported : buffers.slotIds[slot] ∉ buffers.entries := fun known =>
        nobody ⟨_, known, own⟩
      have looks := sound.looks _ slot own
      rw [Dict.not_mem_iff.mp unreported] at looks
      exact whenHidden _ looks seen
    · exact whenHidden _ (sound.blank slot beyond) seen
  · rintro ⟨deviceId, known, own⟩
    obtain ⟨marker, reported⟩ := Dict.mem_iff_exists.mp known
    have looks := sound.looks deviceId slot own
    rw [reported] at looks
    rw [looks]
    exact whenShown deviceId marker

theorem Sound.represents (sound : buffers.Sound)
    (palette : buffers.palette = ⟨highlighted, options.plainColor, options.highlightColor⟩)
    (distinct : options.plainColor ≠ options.highlightColor)
    (plainSeen : options.plainColor.alpha ≠ 0) (highlightSeen : options.highlightColor.alpha ≠ 0) :
    buffers.Represents options highlighted := by
  have alphaSeen (deviceId : DeviceId) : (buffers.palette.colorOf deviceId).alpha ≠ 0 := by
    rw [palette, Palette.colorOf]
    split
    · exact highlightSeen
    · exact plainSeen
  have colored {deviceId : DeviceId} {slot : ℕ} {color : MarkerColor} (seen : color.alpha ≠ 0)
      (own : buffers.slotOf deviceId = some slot) : (buffers.appearance slot).color = color ↔
        deviceId ∈ buffers.entries ∧ buffers.palette.colorOf deviceId = color := by
    have looks := sound.looks deviceId slot own
    cases reported : buffers.entries.get? deviceId with
    | none =>
        rw [reported] at looks
        have unknown : deviceId ∉ buffers.entries := Dict.not_mem_iff.mpr reported
        refine iff_of_false (fun same => seen ?_) fun known => unknown known.1
        rw [← same]
        exact looks.2
    | some marker =>
        rw [reported] at looks
        rw [looks]
        exact (and_iff_right (Dict.mem_iff_exists.mpr ⟨marker, reported⟩)).symm
  constructor
  · exact sound.placed
  · exact fun _ _ _ one two => sound.eq_of_slotOf one two
  · exact fun _ _ own => sound.within own
  · refine sound.visible_iff (fun seen => seen.radius ≠ 0) (fun _ _ => ?_)
      fun _ hidden seen => seen hidden.1
    exact markerRadiusPx_ne_zero
  · exact sound.visible_iff (fun seen => seen.color.alpha ≠ 0)
      (fun deviceId _ => alphaSeen deviceId) fun _ hidden seen => seen hidden.2
  · intro deviceId slot own
    rw [colored highlightSeen own, palette, Palette.colorOf]
    refine and_congr_right fun _ => ?_
    split
    case isTrue listed => exact iff_of_true rfl listed
    case isFalse unlisted => exact iff_of_false distinct unlisted
  · intro deviceId slot own
    rw [colored plainSeen own, palette, Palette.colorOf]
    refine and_congr_right fun _ => ?_
    split
    case isTrue listed => exact iff_of_false distinct.symm fun unlisted => unlisted listed
    case isFalse unlisted => exact iff_of_true rfl unlisted
  · intro deviceId slot marker own reported
    have looks := sound.looks deviceId slot own
    rw [reported] at looks
    rw [looks]
    rfl

/-- After a full frame the devices on the map are those of the frame. -/
theorem mem_entries_apply_full (buffers : DeviceBuffers) (items : List PositionItem) (nowMs : ℤ)
    (deviceId : DeviceId) :
    deviceId ∈ (buffers.apply items true nowMs).entries ↔
      deviceId ∈ items.map PositionItem.deviceId := by
  have entries := congrArg DeviceStore.entries (buffers.toStore_apply items true nowMs)
  have same : (buffers.apply items true nowMs).entries.get? deviceId =
      (buffers.toStore.apply items true).get deviceId := by
    rw [DeviceStore.get, ← entries, toStore]
  rw [Dict.mem_def, same, DeviceStore.get_apply_full]
  split
  case isTrue listed =>
      exact iff_of_true ((DeviceStore.isSome_get_foldl_merge_iff _ _ _).mpr (Or.inl listed)) listed
  case isFalse unlisted => exact iff_of_false Bool.false_ne_true unlisted

/-- The buffers represent the devices after every list of calls, every slot that a
device has had is still its own, and a full frame leaves its own devices. -/
theorem buffers_represent_devices (options : DeviceStoreOptions)
    (distinct : options.plainColor ≠ options.highlightColor)
    (plainSeen : options.plainColor.alpha ≠ 0) (highlightSeen : options.highlightColor.alpha ≠ 0)
    (calls : List Call) :
    (performAll options calls).Represents options (lastHighlighted calls) ∧
      (∀ earlier later, calls = earlier ++ later → ∀ deviceId slot,
        (performAll options earlier).slotOf deviceId = some slot →
          ∀ other, (performAll options calls).slotOf other = some slot ↔ other = deviceId) ∧
      ∀ earlier items nowMs, calls = earlier ++ [.apply items true nowMs] → ∀ deviceId,
        deviceId ∈ (performAll options calls).entries ↔
          deviceId ∈ items.map PositionItem.deviceId := by
  obtain ⟨sound, palette⟩ := sound_performAll options calls
  refine ⟨sound.represents palette distinct plainSeen highlightSeen, ?_, ?_⟩
  · rintro earlier later rfl deviceId slot own other
    have before := (sound_performAll options earlier).1
    have still := before.slotOf_of_prefix sound.toSlotted
      (slotIds_performAll_append options earlier later) own
    constructor
    · exact fun taken => sound.eq_of_slotOf taken still
    · rintro rfl
      exact still
  · rintro earlier items nowMs rfl deviceId
    rw [performAll_concat]
    exact mem_entries_apply_full _ items nowMs deviceId

/-- Two devices come in a buffer for one, one of them is highlighted while it is
hidden, and comes back with a full frame. -/
def growingCalls : List Call :=
  [.apply [⟨"a", 50, 30, 1000⟩, ⟨"b", 51, 31, 1000⟩] false 0, .remove ["a"],
    .setHighlighted (KeySet.add ∅ "a"), .sweep 2000, .apply [⟨"a", 52, 32, 2000⟩] true 3000]

theorem buffers_represent_devices_growing :
    (performAll { capacity := 1 } growingCalls).Represents { capacity := 1 }
        (lastHighlighted growingCalls) ∧
      (∀ earlier later, growingCalls = earlier ++ later → ∀ deviceId slot,
        (performAll { capacity := 1 } earlier).slotOf deviceId = some slot →
          ∀ other, (performAll { capacity := 1 } growingCalls).slotOf other = some slot ↔
            other = deviceId) ∧
      ∀ earlier items nowMs, growingCalls = earlier ++ [.apply items true nowMs] → ∀ deviceId,
        deviceId ∈ (performAll { capacity := 1 } growingCalls).entries ↔
          deviceId ∈ items.map PositionItem.deviceId :=
  buffers_represent_devices { capacity := 1 } (by decide) (by decide) (by decide) growingCalls

end Runs

end DeviceBuffers

end GeoTrack
