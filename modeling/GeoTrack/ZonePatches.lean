import GeoTrack.PartialUpdates
import GeoTrack.ZoneRequests

/-!
# Partial updates of zones

The statement of a partial update is put together from one fragment for each
field that the request carries, except that the two coordinates share a column
and an untouched one is read back from the row.  Read as a record of fields,
the row it leaves is the old one merged with the request.
-/

namespace GeoTrack

open PartialUpdates

/-- The fields a partial update may carry. -/
inductive PatchField where
  | name
  | latitude
  | longitude
  | radiusM
  | color
  | alertOnEnter
  | alertOnExit
  | dwellAlertIntervalS
deriving DecidableEq

/-- The columns a partial update may write. -/
inductive ZoneColumn where
  | name
  | color
  | center
  | radiusM
  | alertOnEnter
  | alertOnExit
  | dwellAlertIntervalS
deriving DecidableEq

namespace PatchField

/-- `_PATCH_FRAGMENTS`: the column of a field with a fragment of its own. -/
def fragment : PatchField → Option ZoneColumn
  | .name => some .name
  | .color => some .color
  | .radiusM => some .radiusM
  | .alertOnEnter => some .alertOnEnter
  | .alertOnExit => some .alertOnExit
  | .dwellAlertIntervalS => some .dwellAlertIntervalS
  | .latitude => none
  | .longitude => none

/-- What a zone holds in a field. -/
def Value : PatchField → Type
  | .name => String
  | .color => String
  | .latitude => ℚ
  | .longitude => ℚ
  | .radiusM => ℚ
  | .alertOnEnter => Bool
  | .alertOnExit => Bool
  | .dwellAlertIntervalS => Option ℤ

end PatchField

/-- `model_fields_set`: the field is present in the request, null or not. -/
def GeozonePatchBody.carries (body : GeozonePatchBody) : PatchField → Bool
  | .name => body.name.isSome
  | .color => body.color.isSome
  | .latitude => body.latitude.isSome
  | .longitude => body.longitude.isSome
  | .radiusM => body.radiusM.isSome
  | .alertOnEnter => body.alertOnEnter.isSome
  | .alertOnExit => body.alertOnExit.isSome
  | .dwellAlertIntervalS => body.dwellAlertIntervalS.isSome

/-- The value the request has for a field. -/
def GeozonePatchBody.value (body : GeozonePatchBody) : (field : PatchField) → Option field.Value
  | .name => body.name.join
  | .color => body.color.join
  | .latitude => body.latitude.join
  | .longitude => body.longitude.join
  | .radiusM => body.radiusM.join
  | .alertOnEnter => body.alertOnEnter.join
  | .alertOnExit => body.alertOnExit.join
  | .dwellAlertIntervalS => body.dwellAlertIntervalS

/-- A zone as a record of the fields that a partial update may carry. -/
def ZoneRow.read (zone : ZoneRow) : (field : PatchField) → field.Value
  | .name => zone.name
  | .color => zone.color
  | .latitude => zone.center.latitude
  | .longitude => zone.center.longitude
  | .radiusM => zone.radiusM
  | .alertOnEnter => zone.alertOnEnter
  | .alertOnExit => zone.alertOnExit
  | .dwellAlertIntervalS => zone.dwellAlertIntervalS

/-- The keys of `changes`, in whatever order the set of fields yields them. -/
def GeozonePatchBody.Lists (body : GeozonePatchBody) (changes : List PatchField) : Prop :=
  ∀ field, field ∈ changes ↔ body.carries field = true

/-- A request with something to change and no null among the required fields,
as the handler passes it on. -/
structure ValidPatch where
  body : GeozonePatchBody
  changes : List PatchField
  lists : body.Lists changes
  nonempty : changes ≠ []
  required : body.blanked = []

/-- A zone's current fields as a full replacement. -/
def ZoneRow.asReplacement (zone : ZoneRow) : GeozoneCreate where
  name := zone.name
  latitude := zone.center.latitude
  longitude := zone.center.longitude
  radiusM := zone.radiusM
  color := some zone.color
  alertOnEnter := zone.alertOnEnter
  alertOnExit := zone.alertOnExit
  dwellAlertIntervalS := zone.dwellAlertIntervalS

/-- A replacement with the fields overridden that the partial update carries. -/
def GeozoneCreate.overriddenBy (payload : GeozoneCreate) (body : GeozonePatchBody) :
    GeozoneCreate where
  name := body.name.join.getD payload.name
  latitude := body.latitude.join.getD payload.latitude
  longitude := body.longitude.join.getD payload.longitude
  radiusM := body.radiusM.join.getD payload.radiusM
  color := body.color.join.or payload.color
  alertOnEnter := body.alertOnEnter.join.getD payload.alertOnEnter
  alertOnExit := body.alertOnExit.join.getD payload.alertOnExit
  dwellAlertIntervalS := body.dwellAlertIntervalS.getD payload.dwellAlertIntervalS

/-- How a partial update can fail: as any guarded write, or because the server
refuses a null in one of the columns that cannot hold one. -/
inductive PatchFailure where
  | refused (error : ZoneError)
  | notNullViolation
deriving DecidableEq

namespace Geozones

/-- The assignments of the statement: one for each field with a fragment, and
one for the centre if either coordinate is there. -/
def assignments (changes : List PatchField) : List ZoneColumn :=
  changes.filterMap PatchField.fragment ++
    if .latitude ∈ changes ∨ .longitude ∈ changes then [.center] else []

/-- The value of a column that cannot be null after the statement. -/
def assigned {α : Type} (columns : List ZoneColumn) (column : ZoneColumn) (bound : Option α)
    (current : α) : Option α :=
  if column ∈ columns then bound else some current

/-- `_PATCH_CENTER`: a coordinate that is not bound is the one in the row. -/
def patchCenter (body : GeozonePatchBody) (center : Point) : Point where
  latitude := body.latitude.join.getD center.latitude
  longitude := body.longitude.join.getD center.longitude

/-- The row after an `UPDATE` that assigns these columns, every right-hand side
read from the row before it; `none` if a null would end up in the wrong place. -/
def assignColumns (now : ℤ) (body : GeozonePatchBody) (columns : List ZoneColumn)
    (zone : ZoneRow) : Option ZoneRow := do
  let name ← assigned columns .name body.name.join zone.name
  let color ← assigned columns .color body.color.join zone.color
  let center ← assigned columns .center (some (patchCenter body zone.center)) zone.center
  let radiusM ← assigned columns .radiusM body.radiusM.join zone.radiusM
  let alertOnEnter ← assigned columns .alertOnEnter body.alertOnEnter.join zone.alertOnEnter
  let alertOnExit ← assigned columns .alertOnExit body.alertOnExit.join zone.alertOnExit
  let dwellAlertIntervalS ← assigned columns .dwellAlertIntervalS
    (some body.dwellAlertIntervalS.join) zone.dwellAlertIntervalS
  return { zone with
    name, color, center, radiusM, alertOnEnter, alertOnExit, dwellAlertIntervalS
    version := zone.version + 1
    updatedAt := now }

/-- `patch`, on the fields of the request as they come. -/
def patchChanges (now : ℤ) (db : Db) (zoneId userId : Uuid) (body : GeozonePatchBody)
    (changes : List PatchField) (expected : Option ℤ) :
    Except PatchFailure (Db × Option ZoneRow) :=
  if assignments changes = [] then
    .ok (db, getForUser db zoneId userId)
  else
    match writable db zoneId userId expected with
    | some zone =>
        match assignColumns now body (assignments changes) zone with
        | some row => .ok ({ db with geozones := db.geozones.set zoneId row }, some row)
        | none => .error .notNullViolation
    | none => ((explainMissingRow db zoneId userId).map fun _ => (db, none)).mapError .refused

section Statement

variable {changes : List PatchField} {body : GeozonePatchBody}

theorem mem_assignments {field : PatchField} {column : ZoneColumn}
    (own : field.fragment = some column) : column ∈ assignments changes ↔ field ∈ changes := by
  have notCenter : column ≠ .center := by
    rintro rfl
    cases field <;> simp [PatchField.fragment] at own
  have injective : ∀ other : PatchField, other.fragment = some column → other = field := by
    intro other same
    rw [← own] at same
    cases other <;> cases field <;> first | rfl | simp [PatchField.fragment] at own same
  rw [assignments, List.mem_append, List.mem_filterMap]
  constructor
  · rintro (⟨other, listed, same⟩ | isCenter)
    · exact injective other same ▸ listed
    · split at isCenter <;> simp [notCenter] at isCenter
  · intro listed
    exact Or.inl ⟨field, listed, own⟩

theorem center_mem_assignments :
    .center ∈ assignments changes ↔ .latitude ∈ changes ∨ .longitude ∈ changes := by
  have noFragment : ∀ field : PatchField, field.fragment ≠ some .center := by
    intro field
    cases field <;> simp [PatchField.fragment]
  rw [assignments, List.mem_append, List.mem_filterMap]
  constructor
  · rintro (⟨field, _, isCenter⟩ | isCenter)
    · exact absurd isCenter (noFragment field)
    · split at isCenter
      case isTrue moves => exact moves
      case isFalse => simp at isCenter
  · intro moves
    rw [if_pos moves]
    exact Or.inr (List.mem_singleton_self _)

/-- Every field is written somewhere. -/
theorem assignments_eq_nil_iff : assignments changes = [] ↔ changes = [] := by
  constructor
  · intro nothing
    apply List.eq_nil_iff_forall_not_mem.mpr
    intro field listed
    cases own : field.fragment with
    | some column =>
        have written := (mem_assignments own).mpr listed
        simp [nothing] at written
    | none =>
        have moves : .latitude ∈ changes ∨ .longitude ∈ changes := by
          cases field <;> simp [PatchField.fragment] at own
          · exact Or.inl listed
          · exact Or.inr listed
        have written := center_mem_assignments.mpr moves
        simp [nothing] at written
  · rintro rfl
    rfl

/-- A column that is assigned exactly when its field is there, and not null
then, holds the field or what it held before. -/
theorem assigned_eq {α : Type} {columns : List ZoneColumn} {column : ZoneColumn}
    {present : Option (Option α)} (listed : column ∈ columns ↔ present.isSome = true)
    (notNull : GeozonePatchBody.isNull present = false) (current : α) :
    assigned columns column present.join current = some (present.join.getD current) := by
  unfold assigned
  rcases present with _ | _ | value
  · simp [listed]
  · simp [GeozonePatchBody.isNull] at notNull
  · simp [listed]

theorem assigned_nullable {α : Type} {columns : List ZoneColumn} {column : ZoneColumn}
    {present : Option (Option α)} (listed : column ∈ columns ↔ present.isSome = true)
    (current : Option α) :
    assigned columns column (some present.join) current = some (present.getD current) := by
  unfold assigned
  rcases present with _ | _ | value <;> simp [listed]

theorem assigned_center (lists : body.Lists changes) (center : Point) :
    assigned (assignments changes) .center (some (patchCenter body center)) center =
      some (patchCenter body center) := by
  unfold assigned
  split
  case isTrue => rfl
  case isFalse unmoved =>
    rw [center_mem_assignments, lists, lists, not_or] at unmoved
    have noLatitude : body.latitude = none := by
      simpa [GeozonePatchBody.carries] using unmoved.1
    have noLongitude : body.longitude = none := by
      simpa [GeozonePatchBody.carries] using unmoved.2
    simp [patchCenter, noLatitude, noLongitude]

/-- Without nulls in the wrong place the columns hold what the fields say,
however the fields are ordered. -/
theorem assignColumns_eq (lists : body.Lists changes) (required : body.blanked = []) (now : ℤ)
    (zone : ZoneRow) :
    assignColumns now body (assignments changes) zone =
      some (assignChanges now body.changes zone) := by
  have notNull : ∀ entry ∈ [("name", GeozonePatchBody.isNull body.name),
      ("color", GeozonePatchBody.isNull body.color),
      ("latitude", GeozonePatchBody.isNull body.latitude),
      ("longitude", GeozonePatchBody.isNull body.longitude),
      ("radius_m", GeozonePatchBody.isNull body.radiusM),
      ("alert_on_enter", GeozonePatchBody.isNull body.alertOnEnter),
      ("alert_on_exit", GeozonePatchBody.isNull body.alertOnExit)], ¬ entry.2 = true :=
    List.filter_eq_nil_iff.mp (List.map_eq_nil_iff.mp required)
  simp only [List.forall_mem_cons, Bool.not_eq_true] at notNull
  obtain ⟨name, color, _, _, radiusM, alertOnEnter, alertOnExit, _⟩ := notNull
  have listed : ∀ field column, PatchField.fragment field = some column →
      (column ∈ assignments changes ↔ body.carries field = true) :=
    fun field _ own => (mem_assignments own).trans (lists field)
  rw [assignColumns, assigned_eq (listed .name _ rfl) name,
    assigned_eq (listed .color _ rfl) color, assigned_center lists,
    assigned_eq (listed .radiusM _ rfl) radiusM,
    assigned_eq (listed .alertOnEnter _ rfl) alertOnEnter,
    assigned_eq (listed .alertOnExit _ rfl) alertOnExit,
    assigned_nullable (listed .dwellAlertIntervalS _ rfl)]
  rfl

end Statement

section Merges

variable {db : Db} {zoneId userId : Uuid} {zone : ZoneRow} {expected : Option ℤ}

theorem updateWhere_congr {assign other : ZoneRow → ZoneRow}
    (stored : getForUser db zoneId userId = some zone) (same : assign zone = other zone) :
    updateWhere db zoneId userId expected assign = updateWhere db zoneId userId expected other := by
  unfold updateWhere
  cases hit : writable db zoneId userId expected with
  | none => rfl
  | some row =>
      rw [writable, stored] at hit
      obtain ⟨sameRow, _⟩ := Option.filter_eq_some_iff.mp hit
      obtain rfl := Option.some.inj sameRow
      simp only [same]

/-- Replacing a zone by its own fields, some of them overridden, assigns the
overriding ones. -/
theorem assignAll_overridden (now : ℤ) (body : GeozonePatchBody) (zone : ZoneRow) :
    assignAll now (zone.asReplacement.overriddenBy body) zone =
      assignChanges now body.changes zone := by
  have color : (body.color.join.or (some zone.color)).getD zone.color =
      body.color.join.getD zone.color := by
    cases body.color.join <;> rfl
  simp only [assignAll, assignChanges, GeozoneCreate.overriddenBy, ZoneRow.asReplacement,
    GeozonePatchBody.changes, color]

/-- A partial update merges the request into the record of fields. -/
theorem read_assignChanges (now : ℤ) (body : GeozonePatchBody) (zone : ZoneRow) :
    (assignChanges now body.changes zone).read = merge body.value zone.read := by
  funext field
  cases field <;> rfl

/-- Apart from its fields a row has an owner, a version and two dates. -/
theorem eq_of_read {first second : ZoneRow} (fields : first.read = second.read)
    (owner : first.userId = second.userId) (version : first.version = second.version)
    (created : first.createdAt = second.createdAt)
    (updated : first.updatedAt = second.updatedAt) : first = second := by
  obtain ⟨_, _, _, ⟨_, _⟩, _⟩ := first
  obtain ⟨_, _, _, ⟨_, _⟩, _⟩ := second
  have sameField := fun field => congrFun fields field
  have name := sameField .name
  have color := sameField .color
  have latitude := sameField .latitude
  have longitude := sameField .longitude
  have radiusM := sameField .radiusM
  have alertOnEnter := sameField .alertOnEnter
  have alertOnExit := sameField .alertOnExit
  have dwellAlertIntervalS := sameField .dwellAlertIntervalS
  simp only [ZoneRow.read] at *
  subst_vars
  rfl

theorem carries_of_value {body : GeozonePatchBody} {field : PatchField}
    (written : field ∈ support body.value) : body.carries field = true := by
  have present : ∀ {α : Type} (nested : Option (Option α)), nested.join.isSome = true →
      nested.isSome = true := by
    rintro _ (_ | _ | value) <;> simp
  rw [mem_support] at written
  cases field with
  | dwellAlertIntervalS => exact written
  | name => exact present body.name written
  | latitude => exact present body.latitude written
  | longitude => exact present body.longitude written
  | radiusM => exact present body.radiusM written
  | color => exact present body.color written
  | alertOnEnter => exact present body.alertOnEnter written
  | alertOnExit => exact present body.alertOnExit written

/-- Partial updates of different fields leave the same zone in either order. -/
theorem assignChanges_comm {first second : GeozonePatchBody}
    (disjoint : ∀ field, first.carries field = true → second.carries field = false)
    (earlier later : ℤ) (zone : ZoneRow) :
    assignChanges later second.changes (assignChanges earlier first.changes zone) =
      assignChanges later first.changes (assignChanges earlier second.changes zone) := by
  have apart : ∀ field ∈ support first.value, field ∉ support second.value := by
    intro field inFirst inSecond
    have absent := disjoint field (carries_of_value inFirst)
    rw [carries_of_value inSecond] at absent
    exact Bool.noConfusion absent
  apply eq_of_read
  · simp only [read_assignChanges]
    exact (merge_comm apart zone.read).symm
  · rfl
  · rfl
  · rfl
  · rfl

/-- The statement of a valid request assigns its changes to the row. -/
theorem patchChanges_eq (now : ℤ) (request : ValidPatch) :
    patchChanges now db zoneId userId request.body request.changes expected =
      (updateWhere db zoneId userId expected (assignChanges now request.body.changes)).mapError
        .refused := by
  have something : assignments request.changes ≠ [] :=
    fun nothing => request.nonempty (assignments_eq_nil_iff.mp nothing)
  rw [patchChanges, if_neg something, updateWhere]
  cases writable db zoneId userId expected with
  | some row => simp only [assignColumns_eq request.lists request.required]; rfl
  | none => rfl

/-- A statement without a condition hits the stored zone. -/
theorem patchChanges_unconditional (now : ℤ) (request : ValidPatch)
    (stored : getForUser db zoneId userId = some zone) :
    patchChanges now db zoneId userId request.body request.changes none =
      .ok ({ db with
          geozones := db.geozones.set zoneId (assignChanges now request.body.changes zone) },
        some (assignChanges now request.body.changes zone)) := by
  have hit : writable db zoneId userId none = some zone := by
    rw [writable, stored]
    rfl
  rw [patchChanges_eq, updateWhere, hit]
  rfl

theorem getForUser_set (stored : getForUser db zoneId userId = some zone) (row : ZoneRow)
    (sameOwner : row.userId = zone.userId) :
    getForUser { db with geozones := db.geozones.set zoneId row } zoneId userId = some row := by
  obtain ⟨_, owned⟩ := Option.filter_eq_some_iff.mp stored
  rw [getForUser, Dict.get?_set, if_pos rfl, Option.filter_some, sameOwner, if_pos owned]

/-- Two requests without a condition, one after the other. -/
def patchTwice (earlier later : ℤ) (db : Db) (zoneId userId : Uuid) (first second : ValidPatch) :
    Except PatchFailure (Db × Option ZoneRow) :=
  (patchChanges earlier db zoneId userId first.body first.changes none).bind fun outcome =>
    patchChanges later outcome.1 zoneId userId second.body second.changes none

theorem patchTwice_eq (earlier later : ℤ) (first second : ValidPatch)
    (stored : getForUser db zoneId userId = some zone) :
    let row := assignChanges later second.body.changes
      (assignChanges earlier first.body.changes zone)
    patchTwice earlier later db zoneId userId first second =
      .ok ({ db with geozones := db.geozones.set zoneId row }, some row) := by
  intro row
  have storedNext := getForUser_set stored (assignChanges earlier first.body.changes zone) rfl
  rw [patchTwice, patchChanges_unconditional earlier first stored]
  refine (patchChanges_unconditional later second storedNext).trans ?_
  simp only [Dict.set_set, row]

end Merges

/-- A partial update is the replacement of the zone by its own fields with those
of the request in their place; and two of them that share no field leave the
same zone, two versions on, in whichever order and whenever they come. -/
theorem partial_updates_merge (db : Db) (zoneId userId : Uuid) (zone : ZoneRow)
    (stored : getForUser db zoneId userId = some zone) :
    (∀ (request : ValidPatch) (now : ℤ) (expected : Option ℤ),
      patchChanges now db zoneId userId request.body request.changes expected =
          (replace now db zoneId userId (zone.asReplacement.overriddenBy request.body)
            expected).mapError .refused ∧
        ∀ after row, patchChanges now db zoneId userId request.body request.changes expected =
          .ok (after, some row) →
            row.version = zone.version + 1 ∧
              row.read = merge request.body.value zone.read) ∧
      ∀ first second : ValidPatch,
        (∀ field, first.body.carries field = true → second.body.carries field = false) →
        ∃ merged : ZoneRow, merged.version = zone.version + 2 ∧
          ∀ earlier later : ℤ,
            let row := { merged with updatedAt := later }
            patchTwice earlier later db zoneId userId first second =
                .ok ({ db with geozones := db.geozones.set zoneId row }, some row) ∧
              patchTwice earlier later db zoneId userId second first =
                .ok ({ db with geozones := db.geozones.set zoneId row }, some row) := by
  constructor
  · intro request now expected
    constructor
    · rw [patchChanges_eq, replace, updateWhere_congr stored
        (assignAll_overridden now request.body zone)]
    · intro after row written
      rw [patchChanges_eq, updateWhere] at written
      cases hit : writable db zoneId userId expected with
      | none =>
          rw [hit, explainMissingRow, stored] at written
          simp [Except.map, Except.mapError] at written
      | some current =>
          rw [hit] at written
          obtain ⟨_, rfl⟩ : _ ∧ assignChanges now request.body.changes current = row := by
            simpa [Except.mapError] using written
          rw [writable, stored] at hit
          obtain ⟨sameRow, _⟩ := Option.filter_eq_some_iff.mp hit
          obtain rfl := Option.some.inj sameRow
          exact ⟨rfl, read_assignChanges now request.body zone⟩
  · intro first second disjoint
    refine ⟨assignChanges 0 second.body.changes (assignChanges 0 first.body.changes zone), ?_, ?_⟩
    · change zone.version + 1 + 1 = zone.version + 2
      omega
    · intro earlier later row
      constructor
      · exact patchTwice_eq earlier later first second stored
      · rw [patchTwice_eq earlier later second first stored,
          ← assignChanges_comm disjoint earlier later zone]
        rfl

/-- One request moves a zone to the north and mutes its entries. -/
def northwards : ValidPatch where
  body := ⟨none, none, some (some 48), none, none, some (some false), none, none⟩
  changes := [.alertOnEnter, .latitude]
  lists := by intro field; cases field <;> decide
  nonempty := by decide
  required := by decide

/-- Another moves it to the east and switches its dwell alerts off. -/
def eastwards : ValidPatch where
  body := ⟨none, none, none, some (some 24), none, none, none, some none⟩
  changes := [.longitude, .dwellAlertIntervalS]
  lists := by intro field; cases field <;> decide
  nonempty := by decide
  required := by decide

/-- A zone at the origin that nobody has visited. -/
def quietDepot : Db where
  users := KeySet.add ∅ 1
  geozones := (∅ : Dict Uuid ZoneRow).set 7
    ⟨1, "depot", "#3fb1ff", ⟨0, 0⟩, 500, true, true, some 60, 1, 10, 10⟩
  devicePositions := ∅
  zonePresence := ∅
  locationHistory := ∅
  alerts := []
  nextAlertId := 1

theorem partial_updates_merge_quietDepot :
    ∃ merged : ZoneRow, merged.version = 3 ∧ ∀ earlier later : ℤ,
      let row := { merged with updatedAt := later }
      patchTwice earlier later quietDepot 7 1 northwards eastwards =
          .ok ({ quietDepot with geozones := quietDepot.geozones.set 7 row }, some row) ∧
        patchTwice earlier later quietDepot 7 1 eastwards northwards =
          .ok ({ quietDepot with geozones := quietDepot.geozones.set 7 row }, some row) :=
  (partial_updates_merge quietDepot 7 1 _ rfl).2 northwards eastwards
    (by intro field; cases field <;> decide)

end Geozones

end GeoTrack
