import GeoTrack.BatchProcessor
import GeoTrack.ConditionalWrites

/-!
# Zone frames

Every committed change of a zone is announced to the sessions of its owner.
Seen by one owner, the frames about one zone tell its life in order: created at
version one, updated one version at a time, deleted at most once and last.

Frames may overtake each other on their way.  What a session holds for a zone
in the end is a fold over the frames about it in the order of arrival.
-/

namespace GeoTrack

/-- A zone as the API shows it. -/
structure GeozoneOut where
  id : Uuid
  name : String
  color : String
  latitude : ℚ
  longitude : ℚ
  radiusM : ℚ
  alertOnEnter : Bool
  alertOnExit : Bool
  dwellAlertIntervalS : Option ℤ
  version : ℤ
  createdAt : ℤ
  updatedAt : ℤ
deriving DecidableEq

def ZoneRow.out (id : Uuid) (zone : ZoneRow) : GeozoneOut where
  id := id
  name := zone.name
  color := zone.color
  latitude := zone.center.latitude
  longitude := zone.center.longitude
  radiusM := zone.radiusM
  alertOnEnter := zone.alertOnEnter
  alertOnExit := zone.alertOnExit
  dwellAlertIntervalS := zone.dwellAlertIntervalS
  version := zone.version
  createdAt := zone.createdAt
  updatedAt := zone.updatedAt

inductive ZoneFrame where
  | created (zone : GeozoneOut)
  | updated (zone : GeozoneOut)
  | deleted (zoneId : Uuid)
deriving DecidableEq

def ZoneFrame.zoneId : ZoneFrame → Uuid
  | .created zone | .updated zone => zone.id
  | .deleted zoneId => zoneId

/-- The zones of one user as the API shows them. -/
def zoneTable (db : Db) (userId id : Uuid) : Option GeozoneOut :=
  (Geozones.getForUser db id userId).map (ZoneRow.out id)

/-- The frame an update announces, if it hit a row. -/
def updatedFrame (zoneId : Uuid) (outcome : Except ZoneError (Db × Option ZoneRow)) :
    Option ZoneFrame :=
  match outcome with
  | .ok (_, some zone) => some (.updated (zone.out zoneId))
  | _ => none

/-- What an operation publishes on the channel of one user. -/
def announced (userId : Uuid) (db : Db) : Op → Option ZoneFrame
  | .batch _ => none
  | .create now newId owner payload quota =>
      if owner = userId then
        match Geozones.create now db newId owner payload quota with
        | .ok (_, zone) => some (.created (zone.out newId))
        | .error _ => none
      else
        none
  | .replace now zoneId owner payload expected =>
      if owner = userId then
        updatedFrame zoneId (Geozones.replace now db zoneId owner payload expected)
      else
        none
  | .patch now zoneId owner changes expected =>
      -- with nothing to write the handler answers from a read and stays silent
      if owner = userId ∧ Geozones.patchIsEmpty changes = false then
        updatedFrame zoneId (Geozones.patch now db zoneId owner changes expected)
      else
        none
  | .delete zoneId owner expected =>
      if owner = userId then
        match Geozones.delete db zoneId owner expected with
        | .ok (_, true) => some (.deleted zoneId)
        | _ => none
      else
        none

section Announcements

variable (pg : Postgis) (settings : StorageSettings) (userId : Uuid)

/-- The frames of a run in the order of their commits. -/
def announcements : Db → List Op → List ZoneFrame
  | _, [] => []
  | db, op :: rest =>
      (announced userId db op).toList ++ announcements (step pg settings db op) rest

theorem announcements_snoc (db : Db) (ops : List Op) (op : Op) :
    announcements pg settings userId db (ops ++ [op]) =
      announcements pg settings userId db ops ++
        (announced userId (run pg settings db ops) op).toList := by
  induction ops generalizing db with
  | nil => simp [announcements]
  | cons first rest ih =>
      rw [List.cons_append, announcements, announcements, ih, run_cons, List.append_assoc]

end Announcements

/-- What a frame says about the change of the owner's zones. -/
inductive Announces (userId : Uuid) (before after : Db) : Option ZoneFrame → Prop where
  | nothing (same : ∀ id, zoneTable after userId id = zoneTable before userId id) :
      Announces userId before after none
  | created (zone : GeozoneOut) (fresh : zone.id ∉ before.geozones)
      (table : ∀ id, zoneTable after userId id =
        if id = zone.id then some zone else zoneTable before userId id) :
      Announces userId before after (some (.created zone))
  | updated (zone old : GeozoneOut) (known : zoneTable before userId zone.id = some old)
      (next : zone.version = old.version + 1)
      (table : ∀ id, zoneTable after userId id =
        if id = zone.id then some zone else zoneTable before userId id) :
      Announces userId before after (some (.updated zone))
  | deleted (zoneId : Uuid) (old : GeozoneOut) (known : zoneTable before userId zoneId = some old)
      (table : ∀ id, zoneTable after userId id =
        if id = zoneId then none else zoneTable before userId id) :
      Announces userId before after (some (.deleted zoneId))

section OneStep

variable {userId owner zoneId : Uuid} {db : Db}

theorem zoneTable_eq_some {id : Uuid} {zone : ZoneRow}
    (found : db.geozones.get? id = some zone) (owned : zone.userId = userId) :
    zoneTable db userId id = some (zone.out id) := by
  rw [zoneTable, getForUser_eq_some_iff.mpr ⟨found, owned⟩]
  rfl

theorem zoneTable_eq_none {id : Uuid}
    (foreign : ∀ zone, db.geozones.get? id = some zone → zone.userId ≠ userId) :
    zoneTable db userId id = none := by
  rw [zoneTable, Option.map_eq_none_iff, Geozones.getForUser, Option.filter_eq_none_iff]
  intro zone found
  simpa using foreign zone found

theorem zoneTable_congr {other : Db} {id : Uuid}
    (same : other.geozones.get? id = db.geozones.get? id) :
    zoneTable other userId id = zoneTable db userId id := by
  rw [zoneTable, zoneTable, Geozones.getForUser, Geozones.getForUser, same]

/-- A row of the owner is written: the owner's table shows it. -/
theorem zoneTable_set {zone : ZoneRow} (owned : zone.userId = userId) (id : Uuid) :
    zoneTable { db with geozones := db.geozones.set zoneId zone } userId id =
      if id = zoneId then some (zone.out zoneId) else zoneTable db userId id := by
  by_cases same : id = zoneId
  · subst same
    rw [if_pos rfl]
    exact zoneTable_eq_some (by simp) owned
  · rw [if_neg same]
    exact zoneTable_congr (by simp [same])

/-- A row of somebody else is written where none of the owner's was. -/
theorem zoneTable_set_foreign {zone : ZoneRow} (foreign : zone.userId ≠ userId)
    (hidden : zoneTable db userId zoneId = none) (id : Uuid) :
    zoneTable { db with geozones := db.geozones.set zoneId zone } userId id =
      zoneTable db userId id := by
  by_cases same : id = zoneId
  · subst same
    rw [hidden]
    apply zoneTable_eq_none
    simp [foreign]
  · exact zoneTable_congr (by simp [same])

theorem zoneTable_dropZone (id : Uuid) :
    zoneTable (Geozones.dropZone db zoneId) userId id =
      if id = zoneId then none else zoneTable db userId id := by
  by_cases same : id = zoneId
  · rw [if_pos same]
    apply zoneTable_eq_none
    simp [Geozones.dropZone, same]
  · rw [if_neg same]
    exact zoneTable_congr (by simp [Geozones.dropZone, same])

/-- A guarded update hits the owner's row or changes nothing. -/
theorem announces_updateWhere {expected : Option ℤ} {assign : ZoneRow → ZoneRow}
    (keepsOwner : ∀ zone, (assign zone).userId = zone.userId)
    (bumps : ∀ zone, (assign zone).version = zone.version + 1) :
    Announces userId db (committed db (Geozones.updateWhere db zoneId owner expected assign))
      (if owner = userId then
        updatedFrame zoneId (Geozones.updateWhere db zoneId owner expected assign)
      else none) := by
  unfold Geozones.updateWhere
  cases picked : Geozones.writable db zoneId owner expected with
  | none =>
      have unchanged : Announces userId db db none := .nothing fun _ => rfl
      unfold Geozones.explainMissingRow
      cases Geozones.getForUser db zoneId owner <;> simpa [committed, updatedFrame, Except.map]
  | some zone =>
      obtain ⟨found, owned, -⟩ := writable_eq_some_iff.mp picked
      dsimp only [committed, updatedFrame]
      by_cases same : owner = userId
      · subst same
        rw [if_pos rfl]
        refine .updated _ (zone.out zoneId) (zoneTable_eq_some found owned) (bumps zone) ?_
        exact zoneTable_set ((keepsOwner zone).trans owned)
      · rw [if_neg same]
        refine .nothing (zoneTable_set_foreign ?_ ?_)
        · rw [keepsOwner zone, owned]
          exact same
        · apply zoneTable_eq_none
          intro other alsoFound
          rw [found] at alsoFound
          rw [← Option.some.inj alsoFound, owned]
          exact same

theorem announces_create {now : ℤ} {newId : Uuid} {payload : GeozoneCreate} {quota : ℕ} :
    Announces userId db (committed db (Geozones.create now db newId owner payload quota))
      (if owner = userId then
        match Geozones.create now db newId owner payload quota with
        | .ok (_, zone) => some (.created (zone.out newId))
        | .error _ => none
      else none) := by
  unfold Geozones.create
  have unchanged : Announces userId db db none := .nothing fun _ => rfl
  split
  · simpa [committed]
  · split
    · simpa [committed]
    · split
      · simpa [committed]
      · rename_i fresh
        dsimp only [committed]
        by_cases same : owner = userId
        · subst same
          rw [if_pos rfl]
          exact .created _ fresh (zoneTable_set rfl)
        · rw [if_neg same]
          refine .nothing (zoneTable_set_foreign same ?_)
          apply zoneTable_eq_none
          intro zone found
          exact absurd (Dict.mem_iff_exists.mpr ⟨zone, found⟩) fresh

theorem announces_delete {expected : Option ℤ} :
    Announces userId db (committed db (Geozones.delete db zoneId owner expected))
      (if owner = userId then
        match Geozones.delete db zoneId owner expected with
        | .ok (_, true) => some (.deleted zoneId)
        | _ => none
      else none) := by
  unfold Geozones.delete
  cases picked : Geozones.writable db zoneId owner expected with
  | none =>
      have unchanged : Announces userId db db none := .nothing fun _ => rfl
      unfold Geozones.explainMissingRow
      cases Geozones.getForUser db zoneId owner <;> simpa [committed, Except.map]
  | some zone =>
      obtain ⟨found, owned, -⟩ := writable_eq_some_iff.mp picked
      dsimp only [committed]
      by_cases same : owner = userId
      · subst same
        rw [if_pos rfl]
        exact .deleted zoneId (zone.out zoneId) (zoneTable_eq_some found owned)
          zoneTable_dropZone
      · rw [if_neg same]
        refine .nothing fun id => ?_
        rw [zoneTable_dropZone]
        split
        case isTrue isZone =>
            symm
            apply zoneTable_eq_none
            intro other alsoFound
            rw [isZone, found] at alsoFound
            rw [← Option.some.inj alsoFound, owned]
            exact same
        case isFalse => rfl

/-- The frame of an operation says exactly what it did to the owner's zones. -/
theorem announces_step (pg : Postgis) (settings : StorageSettings) (userId : Uuid) (db : Db)
    (op : Op) : Announces userId db (step pg settings db op) (announced userId db op) := by
  cases op with
  | batch batch =>
      rw [step_batch]
      exact .nothing fun id => zoneTable_congr rfl
  | create now newId owner payload quota => exact announces_create
  | replace now zoneId owner payload expected =>
      exact announces_updateWhere (fun _ => rfl) (fun _ => rfl)
  | patch now zoneId owner changes expected =>
      simp only [step, announced, Geozones.patch]
      by_cases nothing : Geozones.patchIsEmpty changes = true
      · simp only [nothing, if_true]
        simpa [committed] using Announces.nothing fun _ => rfl
      · have something : Geozones.patchIsEmpty changes = false := by simpa using nothing
        simp only [something, Bool.false_eq_true, if_false, and_true]
        exact announces_updateWhere (fun _ => rfl) (fun _ => rfl)
  | delete zoneId owner expected => exact announces_delete

end OneStep

/-- The life of one zone: the frames about it and what the table shows after
them. -/
inductive Lifecycle (id : Uuid) : List ZoneFrame → Option GeozoneOut → Prop where
  | unborn : Lifecycle id [] none
  | created (zone : GeozoneOut) (isZone : zone.id = id) : Lifecycle id [.created zone] (some zone)
  | updated {frames : List ZoneFrame} {old : GeozoneOut} (zone : GeozoneOut)
      (earlier : Lifecycle id frames (some old)) (isZone : zone.id = id)
      (next : zone.version = old.version + 1) :
      Lifecycle id (frames ++ [.updated zone]) (some zone)
  | deleted {frames : List ZoneFrame} {old : GeozoneOut}
      (earlier : Lifecycle id frames (some old)) : Lifecycle id (frames ++ [.deleted id]) none

/-- The frames about one zone. -/
def framesOf (id : Uuid) (frames : List ZoneFrame) : List ZoneFrame :=
  frames.filter fun frame => frame.zoneId = id

theorem framesOf_append (id : Uuid) (first second : List ZoneFrame) :
    framesOf id (first ++ second) = framesOf id first ++ framesOf id second :=
  List.filter_append ..

/-- The id an operation would give to a new zone. -/
def Op.newZoneId : Op → Option Uuid
  | .create _ newId _ _ _ => some newId
  | _ => none

/-- The ids that the operations of a run gave to new zones. -/
def newZoneIds (ops : List Op) : List Uuid := ops.filterMap Op.newZoneId

section Lives

variable (pg : Postgis) (settings : StorageSettings) (userId : Uuid) (users : KeySet Uuid)

theorem newZoneId_of_created {db : Db} {op : Op} {zone : GeozoneOut}
    (announces : announced userId db op = some (.created zone)) : op.newZoneId = some zone.id := by
  cases op with
  | batch batch => cases announces
  | create now newId owner payload quota =>
      simp only [announced] at announces
      split at announces
      case isTrue =>
          split at announces
          case h_1 row _ =>
              obtain rfl := ZoneFrame.created.inj (Option.some.inj announces)
              rfl
          case h_2 => cases announces
      case isFalse => cases announces
  | replace now zoneId owner payload expected | patch now zoneId owner changes expected =>
      simp only [announced, updatedFrame] at announces
      split at announces
      case isTrue => split at announces <;> cases announces
      case isFalse => cases announces
  | delete zoneId owner expected =>
      simp only [announced] at announces
      split at announces
      case isTrue => split at announces <;> cases announces
      case isFalse => cases announces

theorem Lifecycle.frames_ne_nil {id : Uuid} {frames : List ZoneFrame} {zone : GeozoneOut}
    (life : Lifecycle id frames (some zone)) : frames ≠ [] := by
  cases life <;> simp

/-- The life of a zone goes on with the frame of one operation. -/
theorem Lifecycle.extend {before after : Db} {frame : Option ZoneFrame} {id : Uuid}
    {frames : List ZoneFrame} (announces : Announces userId before after frame)
    (unborn : ∀ zone, frame = some (.created zone) → zone.id = id → frames = [])
    (life : Lifecycle id frames (zoneTable before userId id)) :
    Lifecycle id (frames ++ framesOf id frame.toList) (zoneTable after userId id) := by
  cases announces with
  | nothing same =>
      rw [same id]
      simpa [framesOf] using life
  | created zone fresh table =>
      rw [table id]
      by_cases isZone : zone.id = id
      · obtain rfl := unborn zone rfl isZone
        simpa [framesOf, ZoneFrame.zoneId, isZone] using Lifecycle.created zone isZone
      · rw [if_neg (Ne.symm isZone)]
        simpa [framesOf, ZoneFrame.zoneId, isZone] using life
  | updated zone old known next table =>
      rw [table id]
      by_cases isZone : zone.id = id
      · rw [isZone] at known
        rw [known] at life
        simpa [framesOf, ZoneFrame.zoneId, isZone] using Lifecycle.updated zone life isZone next
      · rw [if_neg (Ne.symm isZone)]
        simpa [framesOf, ZoneFrame.zoneId, isZone] using life
  | deleted zoneId old known table =>
      rw [table id]
      by_cases isZone : zoneId = id
      · subst isZone
        rw [known] at life
        simpa [framesOf, ZoneFrame.zoneId] using Lifecycle.deleted life
      · rw [if_neg (Ne.symm isZone)]
        simpa [framesOf, ZoneFrame.zoneId, isZone] using life

/-- Along a run that never reuses an id, every zone of a user has a life, and
only ids that were handed out have frames. -/
theorem lifecycle_run (ops : List Op) (distinct : (newZoneIds ops).Nodup) (id : Uuid) :
    Lifecycle id (framesOf id (announcements pg settings userId (Db.fresh users) ops))
        (zoneTable (run pg settings (Db.fresh users) ops) userId id) ∧
      (framesOf id (announcements pg settings userId (Db.fresh users) ops) ≠ [] →
        id ∈ newZoneIds ops) := by
  induction ops using List.reverseRecOn with
  | nil =>
      have empty : zoneTable (run pg settings (Db.fresh users) []) userId id = none := rfl
      rw [empty]
      exact ⟨Lifecycle.unborn, fun frames => absurd rfl frames⟩
  | append_singleton ops op ih =>
      rw [newZoneIds, List.filterMap_append, List.nodup_append] at distinct
      obtain ⟨distinctBefore, -, disjoint⟩ := distinct
      obtain ⟨life, handedOut⟩ := ih distinctBefore
      rw [announcements_snoc, framesOf_append, run_snoc]
      have announces := announces_step pg settings userId (run pg settings (Db.fresh users) ops) op
      have unborn : ∀ zone,
          announced userId (run pg settings (Db.fresh users) ops) op = some (.created zone) →
          zone.id = id →
          framesOf id (announcements pg settings userId (Db.fresh users) ops) = [] := by
        intro zone created isZone
        by_contra frames
        have reused := newZoneId_of_created userId created
        exact disjoint id (handedOut frames) id (by simp [reused, isZone]) rfl
      refine ⟨life.extend userId announces unborn, fun frames => ?_⟩
      rw [newZoneIds, List.filterMap_append, List.mem_append]
      by_cases early : framesOf id (announcements pg settings userId (Db.fresh users) ops) = []
      · -- the first frame about a zone is the one that creates it
        right
        rw [early, List.nil_append] at frames
        generalize frame : announced userId (run pg settings (Db.fresh users) ops) op = sent at *
        cases announces with
        | nothing => simp [framesOf] at frames
        | created zone =>
            have isZone : zone.id = id := by
              by_contra differs
              exact frames (by simp [framesOf, ZoneFrame.zoneId, differs])
            simp [newZoneId_of_created userId frame, isZone]
        | updated zone old known =>
            have isZone : zone.id = id := by
              by_contra differs
              exact frames (by simp [framesOf, ZoneFrame.zoneId, differs])
            rw [isZone] at known
            rw [known] at life
            exact absurd early life.frames_ne_nil
        | deleted zoneId old known =>
            have isZone : zoneId = id := by
              by_contra differs
              exact frames (by simp [framesOf, ZoneFrame.zoneId, differs])
            rw [isZone] at known
            rw [known] at life
            exact absurd early life.frames_ne_nil
      · exact Or.inl (handedOut early)

end Lives

end GeoTrack
