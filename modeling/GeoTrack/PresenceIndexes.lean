import GeoTrack.LiveDashboard

/-!
# The two indexes of the presence tracker

The tracker finds the devices of a zone in one index and the zones of a device
in another.  Whatever calls it has seen, the indexes are inverse to each other
and list no device without a zone, and a call that may change the highlighted
devices says whether it did.
-/

namespace GeoTrack

namespace PresenceTracker

/-- Unlink devices from a zone one by one; also says whether one of them was in
no other zone. -/
def unlinkAll (tracker : PresenceTracker) (zoneId : Uuid) (devices : List DeviceId) :
    PresenceTracker × Bool :=
  devices.foldl (fun state deviceId =>
    let (next, gone) := state.1.unlink zoneId deviceId
    (next, gone || state.2)) (tracker, false)

def removeZone (tracker : PresenceTracker) (zoneId : Uuid) : PresenceTracker × Bool :=
  match tracker.byZone.get? zoneId with
  | none => (tracker, false)
  | some devices =>
      let (unlinked, changed) := tracker.unlinkAll zoneId devices.keys
      ({ unlinked with byZone := unlinked.byZone.erase zoneId }, changed)

/-- A call on a tracker. -/
inductive Call where
  | setSnapshot (zones : List (Uuid × List DeviceId))
  | applyAlert (alert : AlertOut)
  | removeZone (zoneId : Uuid)
  | clear

def perform (tracker : PresenceTracker) : Call → PresenceTracker
  | .setSnapshot zones => tracker.setSnapshot zones
  | .applyAlert alert => (tracker.applyAlert alert).1
  | .removeZone zoneId => (tracker.removeZone zoneId).1
  | .clear => tracker.clear

/-- The tracker after a series of calls on a new one. -/
def performAll (calls : List Call) : PresenceTracker :=
  calls.foldl perform ⟨∅, ∅⟩

/-- Both trackers list the same devices. -/
def SameDevices (tracker other : PresenceTracker) : Prop :=
  ∀ deviceId, deviceId ∈ tracker.deviceIds ↔ deviceId ∈ other.deviceIds

variable {tracker other : PresenceTracker}

theorem sameDevices_iff :
    tracker.SameDevices other ↔
      ∀ deviceId, deviceId ∈ other.byDevice ↔ deviceId ∈ tracker.byDevice := by
  simp only [SameDevices, mem_deviceIds]
  exact forall_congr' fun _ => iff_comm

/-! ## Removing a zone -/

section RemoveZone

variable {zoneId : Uuid}

theorem unlinkAll_nil (tracker : PresenceTracker) (zoneId : Uuid) :
    tracker.unlinkAll zoneId [] = (tracker, false) :=
  rfl

theorem unlinkAll_concat (tracker : PresenceTracker) (zoneId : Uuid) (devices : List DeviceId)
    (last : DeviceId) :
    tracker.unlinkAll zoneId (devices ++ [last]) =
      (((tracker.unlinkAll zoneId devices).1.unlink zoneId last).1,
        ((tracker.unlinkAll zoneId devices).1.unlink zoneId last).2 ||
          (tracker.unlinkAll zoneId devices).2) := by
  rw [unlinkAll, List.foldl_concat]
  rfl

theorem Tidy.unlinkAll (tidy : tracker.Tidy) (zoneId : Uuid) (devices : List DeviceId) :
    (tracker.unlinkAll zoneId devices).1.Tidy := by
  induction devices using List.reverseRecOn with
  | nil => exact tidy
  | append_singleton devices last ih =>
      rw [unlinkAll_concat]
      exact ih.unlink zoneId last

theorem Links.unlinkAll {pairs : Uuid → DeviceId → Prop} (links : tracker.Links pairs)
    (zoneId : Uuid) (devices : List DeviceId) :
    (tracker.unlinkAll zoneId devices).1.Links fun zone device =>
      ¬ (zone = zoneId ∧ device ∈ devices) ∧ pairs zone device := by
  induction devices using List.reverseRecOn with
  | nil => exact links.congr (by simp)
  | append_singleton devices last ih =>
      rw [unlinkAll_concat]
      refine (ih.unlink zoneId last).congr fun zone device => ?_
      rw [List.mem_append, List.mem_singleton]
      tauto

/-- The listed devices only get fewer, and the call says whether they did. -/
theorem unlinkAll_spec (tracker : PresenceTracker) (zoneId : Uuid) (devices : List DeviceId) :
    (∀ deviceId ∈ (tracker.unlinkAll zoneId devices).1.byDevice, deviceId ∈ tracker.byDevice) ∧
      ((tracker.unlinkAll zoneId devices).2 = true ↔
        ∃ deviceId ∈ tracker.byDevice,
          deviceId ∉ (tracker.unlinkAll zoneId devices).1.byDevice) := by
  induction devices using List.reverseRecOn with
  | nil =>
      rw [unlinkAll_nil]
      exact ⟨fun _ => id, by simp⟩
  | append_singleton devices last ih =>
      obtain ⟨fewer, said⟩ := ih
      rw [unlinkAll_concat, Bool.or_eq_true, said]
      simp only [mem_byDevice_unlink]
      refine ⟨fun deviceId listed => fewer deviceId listed.1, ?_⟩
      constructor
      · rintro (goes | ⟨deviceId, known, gone⟩)
        · exact ⟨last, fewer last (mem_byDevice_of_unlink goes), fun stays => stays.2 ⟨rfl, goes⟩⟩
        · exact ⟨deviceId, known, fun stays => gone stays.1⟩
      · rintro ⟨deviceId, known, gone⟩
        by_cases left : deviceId ∈ (tracker.unlinkAll zoneId devices).1.byDevice
        · exact Or.inl (by_contra fun stays => gone ⟨left, fun both => stays both.2⟩)
        · exact Or.inr ⟨deviceId, known, left⟩

theorem Tidy.removeZone (tidy : tracker.Tidy) (zoneId : Uuid) :
    (tracker.removeZone zoneId).1.Tidy := by
  unfold PresenceTracker.removeZone
  cases known : tracker.byZone.get? zoneId with
  | none => exact tidy
  | some devices =>
      have unlinked := tidy.unlinkAll zoneId devices.keys
      have links := tidy.links.unlinkAll zoneId devices.keys
      refine ⟨fun zone device => ?_, unlinked.inhabited⟩
      by_cases removed : zone = zoneId
      · subst removed
        have nobody : zone ∉ (tracker.unlinkAll zone devices.keys).1.zonesOf device := by
          rw [(links zone device).2]
          rintro ⟨stays, linked⟩
          rw [← tidy.agree, devicesIn, known, Option.getD_some] at linked
          exact stays ⟨rfl, Dict.mem_keys_iff.mpr linked⟩
        have none_ : device ∉ devicesIn
            { (tracker.unlinkAll zone devices.keys).1 with
              byZone := (tracker.unlinkAll zone devices.keys).1.byZone.erase zone } zone := by
          simp [devicesIn]
        exact iff_of_false none_ nobody
      · have same : devicesIn
            { (tracker.unlinkAll zoneId devices.keys).1 with
              byZone := (tracker.unlinkAll zoneId devices.keys).1.byZone.erase zoneId } zone =
            (tracker.unlinkAll zoneId devices.keys).1.devicesIn zone := by
          simp [devicesIn, removed]
        rw [same]
        exact unlinked.agree zone device

/-- `removeZone` says whether the listed devices changed. -/
theorem removeZone_snd_iff (tracker : PresenceTracker) (zoneId : Uuid) :
    (tracker.removeZone zoneId).2 = true ↔
      ¬ ∀ deviceId, deviceId ∈ (tracker.removeZone zoneId).1.byDevice ↔
        deviceId ∈ tracker.byDevice := by
  unfold removeZone
  cases tracker.byZone.get? zoneId with
  | none => simp
  | some devices =>
      obtain ⟨fewer, said⟩ := tracker.unlinkAll_spec zoneId devices.keys
      refine said.trans ?_
      rw [not_forall]
      refine exists_congr fun deviceId => ?_
      have onlyFewer := fewer deviceId
      tauto

end RemoveZone

/-! ## Every series of calls -/

theorem Tidy.perform (tidy : tracker.Tidy) (call : Call) : (tracker.perform call).Tidy := by
  cases call with
  | setSnapshot zones => exact tidy_setSnapshot tracker zones
  | applyAlert alert => exact tidy.applyAlert alert
  | removeZone zoneId => exact tidy.removeZone zoneId
  | clear => exact @tidy_clear tracker

theorem tidy_performAll (calls : List Call) : (performAll calls).Tidy := by
  apply List.foldlRecOn (motive := Tidy)
  · exact @tidy_clear ⟨∅, ∅⟩
  · intro current tidy call _
    exact tidy.perform call

/-- After any series of calls the indexes are inverse and list no device
without a zone, and the next call says whether it changes the highlights. -/
theorem performAll_indexes_inverse (calls : List Call) :
    (∀ zoneId deviceId, deviceId ∈ (performAll calls).devicesIn zoneId ↔
        zoneId ∈ (performAll calls).zonesOf deviceId) ∧
      (∀ deviceId zones, (performAll calls).byDevice.get? deviceId = some zones →
        zones.size ≠ 0) ∧
      (∀ alert, ((performAll calls).applyAlert alert).2 = true ↔
        ¬ (performAll calls).SameDevices ((performAll calls).applyAlert alert).1) ∧
      ∀ zoneId, ((performAll calls).removeZone zoneId).2 = true ↔
        ¬ (performAll calls).SameDevices ((performAll calls).removeZone zoneId).1 := by
  have tidy := tidy_performAll calls
  refine ⟨tidy.agree, fun deviceId zones known => ?_, fun alert => ?_, fun zoneId => ?_⟩
  · obtain ⟨zoneId, linked⟩ := tidy.inhabited deviceId (Dict.mem_iff_exists.mpr ⟨zones, known⟩)
    rw [zonesOf, known, Option.getD_some] at linked
    rw [← Dict.length_keys]
    exact (List.length_pos_of_mem (Dict.mem_keys_iff.mpr linked)).ne'
  · rw [sameDevices_iff]
    exact applyAlert_snd_iff alert
  · rw [sameDevices_iff]
    exact removeZone_snd_iff _ zoneId

end PresenceTracker

end GeoTrack
