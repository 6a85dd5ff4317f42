import GeoTrack.BatchProcessor
import Mathlib.Data.List.Induction

/-!
# Presence follows the stored positions

A presence row is written by the batch that accepted a report, so it can only
be as current as the zone was then.  Moving a zone leaves its rows behind until
the devices report again; apart from that, the presence table is a function of
positions and geometry.
-/

namespace GeoTrack

section PresenceInvariant

variable (pg : Postgis) (settings : StorageSettings)

/-- Some operation of the list accepts a report of the device. -/
def acceptedDuring (device : DeviceId) : Db → List Op → Prop
  | _, [] => False
  | db, op :: rest =>
      Accepts pg settings db op device ∨ acceptedDuring device (step pg settings db op) rest

instance decidableAcceptedDuring (device : DeviceId) :
    (db : Db) → (ops : List Op) → Decidable (acceptedDuring pg settings device db ops)
  | _, [] => isFalse id
  | db, op :: rest =>
      have := decidableAcceptedDuring device (step pg settings db op) rest
      inferInstanceAs (Decidable (_ ∨ _))

theorem acceptedDuring_append (device : DeviceId) (db : Db) (first second : List Op) :
    acceptedDuring pg settings device db (first ++ second) ↔
      acceptedDuring pg settings device db first ∨
        acceptedDuring pg settings device (run pg settings db first) second := by
  induction first generalizing db with
  | nil => simp [acceptedDuring]
  | cons op rest ih =>
      rw [List.cons_append, acceptedDuring, acceptedDuring, ih, or_assoc]
      rfl

variable {pg settings}

theorem Batch.geometry_outcome (db : Db) (batch : Batch) (zoneId : Uuid) :
    (batch.outcome settings pg db).geometry zoneId = db.geometry zoneId :=
  rfl

/-- A zone operation moves no device. -/
theorem ZoneEffect.positions {db after : Db} (effect : ZoneEffect db after) :
    after.devicePositions = db.devicePositions := by
  cases effect <;> rfl

/-- A zone operation touches presence only by dropping the zone. -/
theorem ZoneEffect.presence {db after : Db} (effect : ZoneEffect db after) {zoneId : Uuid}
    (exists_ : zoneId ∈ after.geozones) (device : DeviceId) :
    after.zonePresence.get? (zoneId, device) = db.zonePresence.get? (zoneId, device) := by
  cases effect with
  | unchanged => rfl
  | written other zone => rfl
  | dropped other =>
      have different : zoneId ≠ other := (Dict.mem_erase.mp exists_).1
      rw [Geozones.dropZone, Dict.get?_filter]
      cases db.zonePresence.get? (zoneId, device) <;> simp [different]

theorem mem_of_geometry {db : Db} {zoneId : Uuid} {shape : Point × ℚ}
    (placed : db.geometry zoneId = some shape) : zoneId ∈ db.geozones := by
  obtain ⟨zone, stored, _⟩ := Option.map_eq_some_iff.mp placed
  exact Dict.mem_iff_exists.mpr ⟨zone, stored⟩

/-- Without an accepted report of the device, position and presence stay. -/
theorem step_of_not_accepted {db : Db} {op : Op} {device : DeviceId}
    (quiet : ¬ Accepts pg settings db op device) :
    (step pg settings db op).devicePositions.get? device = db.devicePositions.get? device ∧
      ∀ zoneId ∈ (step pg settings db op).geozones,
        (step pg settings db op).zonePresence.get? (zoneId, device) =
          db.zonePresence.get? (zoneId, device) := by
  rcases step_cases pg settings db op with ⟨batch, rfl⟩ | ⟨_, effect⟩
  · rw [accepts_batch_iff, Bool.not_eq_true, Option.isSome_eq_false_iff,
      Option.isNone_iff_eq_none] at quiet
    rw [step_batch]
    exact ⟨Batch.position_of_not_heard quiet,
      fun zoneId _ => Batch.presence_of_not_heard quiet zoneId⟩
  · exact ⟨by rw [effect.positions], fun zoneId exists_ => effect.presence exists_ device⟩

/-- An accepted report decides position and presence at once. -/
theorem step_of_accepted {db : Db} {op : Op} {device : DeviceId}
    (accepts : Accepts pg settings db op device) {row : PositionRow}
    (stored : (step pg settings db op).devicePositions.get? device = some row)
    {zoneId : Uuid} {center : Point} {radius : ℚ}
    (placed : (step pg settings db op).geometry zoneId = some (center, radius)) :
    (zoneId, device) ∈ (step pg settings db op).zonePresence ↔
      pg.dWithin center radius row.position = true := by
  cases op with
  | batch batch =>
      obtain ⟨record, isHeard⟩ :=
        Option.isSome_iff_exists.mp ((accepts_batch_iff pg settings db batch device).mp accepts)
      rw [step_batch] at stored placed ⊢
      rw [Batch.geometry_outcome] at placed
      obtain ⟨zone, zoneStored, shape⟩ := Option.map_eq_some_iff.mp placed
      obtain ⟨rfl, rfl⟩ := Prod.mk.inj shape
      rw [Batch.position_of_heard isHeard] at stored
      obtain rfl := Option.some.inj stored
      exact Batch.mem_presence_of_heard isHeard zoneStored
  | create => exact accepts.elim
  | replace => exact accepts.elim
  | patch => exact accepts.elim
  | delete => exact accepts.elim

variable (pg settings)

/-- After any run from empty tables, a device is listed as present in a zone
exactly if its stored position is inside, as long as the zone has stood where
it stands since the last accepted report of the device. -/
theorem presence_iff_inside (users : KeySet Uuid) (ops : List Op) (device : DeviceId)
    (row : PositionRow) (zoneId : Uuid) (center : Point) (radius : ℚ)
    (stored : (run pg settings (Db.fresh users) ops).devicePositions.get? device = some row)
    (unmoved : ∀ before after, ops = before ++ after →
      ¬ acceptedDuring pg settings device (run pg settings (Db.fresh users) before) after →
      (run pg settings (Db.fresh users) before).geometry zoneId = some (center, radius)) :
    (zoneId, device) ∈ (run pg settings (Db.fresh users) ops).zonePresence ↔
      pg.dWithin center radius row.position = true := by
  induction ops using List.reverseRecOn with
  | nil => simp [Db.fresh] at stored
  | append_singleton ops op ih =>
      have placed := unmoved (ops ++ [op]) [] (by simp) id
      rw [run_snoc] at stored placed ⊢
      by_cases accepts : Accepts pg settings (run pg settings (Db.fresh users) ops) op device
      · exact step_of_accepted accepts stored placed
      · obtain ⟨samePosition, samePresence⟩ := step_of_not_accepted accepts
        rw [samePosition] at stored
        rw [Dict.mem_def, samePresence zoneId (mem_of_geometry placed), ← Dict.mem_def]
        apply ih stored
        intro before after split quiet
        apply unmoved before (after ++ [op])
        · rw [split, List.append_assoc]
        · rw [acceptedDuring_append, ← run_append, ← split]
          simpa [acceptedDuring, quiet] using accepts

end PresenceInvariant

/-- A truck comes into a zone, leaves it after the zone has grown around it, and the
zone is renamed. -/
def visitOps : List Op :=
  [.create 0 7 1 ⟨"depot", 0, 0, 500, none, true, true, none⟩ 10,
    .batch ⟨0, 0, [⟨"truck", 0, 0, 0, 0⟩]⟩,
    .replace 1 7 1 ⟨"depot", 0, 0, 900, none, true, true, none⟩ none,
    .batch ⟨2, 2, [⟨"truck", 1, 1, 2, 2⟩]⟩,
    .replace 3 7 1 ⟨"yard", 0, 0, 900, none, true, true, none⟩ none]

theorem presence_iff_inside_visit :
    (7, "truck") ∈
        (run .tangentPlane ⟨30, 60⟩ (Db.fresh (KeySet.add ∅ 1)) (visitOps.take 3)).zonePresence ∧
      ((7, "truck") ∈
          (run .tangentPlane ⟨30, 60⟩ (Db.fresh (KeySet.add ∅ 1)) visitOps).zonePresence ↔
        Postgis.tangentPlane.dWithin ⟨0, 0⟩ 900 ⟨1, 1⟩ = true) := by
  refine ⟨by decide +kernel, ?_⟩
  apply presence_iff_inside .tangentPlane ⟨30, 60⟩ (KeySet.add ∅ 1) visitOps "truck"
    ⟨⟨1, 1⟩, 2, 2, 2⟩ 7 ⟨0, 0⟩ 900 (by decide +kernel)
  intro before after cut quiet
  have cuts : ∀ length < 6,
      ¬ acceptedDuring .tangentPlane ⟨30, 60⟩ "truck"
        (run .tangentPlane ⟨30, 60⟩ (Db.fresh (KeySet.add ∅ 1)) (visitOps.take length))
        (visitOps.drop length) →
      (run .tangentPlane ⟨30, 60⟩ (Db.fresh (KeySet.add ∅ 1))
        (visitOps.take length)).geometry 7 = some (⟨0, 0⟩, 900) := by
    decide +kernel
  have short : before.length + after.length = 5 := by
    rw [← List.length_append, ← cut]
    rfl
  have standing := cuts before.length (by omega)
  rw [cut, List.take_left, List.drop_left] at standing
  exact standing quiet

end GeoTrack
