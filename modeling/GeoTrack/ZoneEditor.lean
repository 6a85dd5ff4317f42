import GeoTrack.ZoneFrames

/-!
# The zone map of a session

A session keeps the owner's zones in a map and applies each zone frame as it
arrives.  A frame with an older version than the stored one is skipped, so the
newest version wins in any order of arrival.  A deletion leaves no trace in the
map, and a frame that arrives after it brings the zone back.
-/

namespace GeoTrack

namespace ZoneEditor

/-- A frame that carries the zone itself. -/
def offer (zones : Dict Uuid GeozoneOut) (zone : GeozoneOut) : Dict Uuid GeozoneOut :=
  match zones.get? zone.id with
  | some known => if known.version > zone.version then zones else zones.set zone.id zone
  | none => zones.set zone.id zone

def applyEvent (zones : Dict Uuid GeozoneOut) : ZoneFrame → Dict Uuid GeozoneOut
  | .created zone | .updated zone => offer zones zone
  | .deleted zoneId => zones.erase zoneId

/-- What one frame does to the entry of the zone it is about. -/
def applyToEntry (entry : Option GeozoneOut) : ZoneFrame → Option GeozoneOut
  | .created zone | .updated zone =>
      match entry with
      | some known => if known.version > zone.version then some known else some zone
      | none => some zone
  | .deleted _ => none

theorem get?_offer (zones : Dict Uuid GeozoneOut) (zone : GeozoneOut) (id : Uuid) :
    (offer zones zone).get? id =
      if id = zone.id then applyToEntry (zones.get? id) (.updated zone) else zones.get? id := by
  unfold offer applyToEntry
  by_cases same : id = zone.id
  · subst same
    cases found : zones.get? zone.id with
    | none => simp
    | some known => by_cases newer : known.version > zone.version <;> simp [newer, found]
  · cases found : zones.get? zone.id with
    | none => simp [same]
    | some known => by_cases newer : known.version > zone.version <;> simp [newer, same]

theorem get?_applyEvent (zones : Dict Uuid GeozoneOut) (frame : ZoneFrame) (id : Uuid) :
    (applyEvent zones frame).get? id =
      if id = frame.zoneId then applyToEntry (zones.get? id) frame else zones.get? id := by
  cases frame with
  | created zone => exact get?_offer zones zone id
  | updated zone => exact get?_offer zones zone id
  | deleted zoneId =>
      by_cases same : id = zoneId <;> simp [applyEvent, applyToEntry, ZoneFrame.zoneId, same]

/-- The entry of a zone depends only on the frames about it. -/
theorem get?_foldl_applyEvent (frames : List ZoneFrame) (zones : Dict Uuid GeozoneOut)
    (id : Uuid) :
    (frames.foldl applyEvent zones).get? id =
      (framesOf id frames).foldl applyToEntry (zones.get? id) := by
  induction frames generalizing zones with
  | nil => rfl
  | cons frame rest ih =>
      rw [List.foldl_cons, ih, get?_applyEvent, framesOf, framesOf, List.filter_cons]
      by_cases same : id = frame.zoneId
      · simp [same]
      · have differs : frame.zoneId ≠ id := fun equal => same equal.symm
        simp [same, differs]

/-- The frame carries the zone. -/
def shown : ZoneFrame → Option GeozoneOut
  | .created zone | .updated zone => some zone
  | .deleted _ => none

theorem applyToEntry_of_shown {frame : ZoneFrame} {zone : GeozoneOut}
    (shows : shown frame = some zone) (entry : Option GeozoneOut) :
    applyToEntry entry frame =
      match entry with
      | some known => if known.version > zone.version then some known else some zone
      | none => some zone := by
  cases frame with
  | created carried | updated carried =>
      obtain rfl := Option.some.inj shows
      rfl
  | deleted zoneId => cases shows

/-- After frames that all carry the zone, the entry is the newest of them. -/
theorem foldl_applyToEntry_newest {newest : GeozoneOut} (frames : List ZoneFrame)
    (bounded : ∀ frame ∈ frames, ∃ zone, shown frame = some zone ∧
      (zone.version < newest.version ∨ zone = newest)) :
    (∀ frame ∈ frames, shown frame ≠ some newest) ∧
        (∀ known ∈ frames.foldl applyToEntry none, known.version < newest.version) ∨
      frames.foldl applyToEntry none = some newest := by
  induction frames using List.reverseRecOn with
  | nil => exact Or.inl (by simp)
  | append_singleton frames frame ih =>
      rw [List.foldl_append, List.foldl_cons, List.foldl_nil]
      obtain ⟨zone, shows, atMost⟩ := bounded frame (by simp)
      rw [applyToEntry_of_shown shows]
      rcases ih fun earlier listed => bounded earlier (by simp [listed]) with
        ⟨absent, older⟩ | reached
      · rcases atMost with below | rfl
        · left
          constructor
          · intro other listed isNewest
            rw [List.mem_append, List.mem_singleton] at listed
            rcases listed with early | rfl
            · exact absent other early isNewest
            · rw [shows] at isNewest
              exact absurd below (by rw [Option.some.inj isNewest]; exact lt_irrefl _)
          · intro known isKnown
            split at isKnown
            case h_1 entry held =>
                split at isKnown
                case isTrue => exact older known (by rw [held]; exact isKnown)
                case isFalse => exact Option.some.inj isKnown ▸ below
            case h_2 => exact Option.some.inj isKnown ▸ below
        · right
          split
          case h_1 entry held =>
              have behind := older entry (by rw [held]; rfl)
              rw [if_neg (by omega)]
          case h_2 => rfl
      · right
        rw [reached]
        dsimp only
        rcases atMost with below | rfl
        · rw [if_pos (by omega)]
        · rw [if_neg (by omega)]

/-- Only a deletion leaves no entry behind. -/
theorem foldl_applyToEntry_eq_none_iff (frames : List ZoneFrame) :
    frames.foldl applyToEntry none = none ↔
      ∀ last ∈ frames.getLast?, shown last = none := by
  induction frames using List.reverseRecOn with
  | nil => simp
  | append_singleton frames frame _ =>
      rw [List.foldl_append, List.foldl_cons, List.foldl_nil, List.getLast?_concat]
      cases frame with
      | created zone | updated zone =>
          simp only [applyToEntry, shown]
          split
          · split <;> simp
          · simp
      | deleted zoneId => simp [applyToEntry, shown]

end ZoneEditor

/-- No other frame about a zone arrives after the frame that says it is
deleted. -/
def DeletesLast (arrival : List ZoneFrame) : Prop :=
  arrival.Pairwise fun early late => early ≠ .deleted late.zoneId

instance (arrival : List ZoneFrame) : Decidable (DeletesLast arrival) :=
  inferInstanceAs (Decidable (List.Pairwise _ arrival))

section Lives

open ZoneEditor

variable {id : Uuid} {frames : List ZoneFrame}

/-- While a zone lives, its frames all carry it and the newest is the one in
the table. -/
theorem Lifecycle.newest {zone : GeozoneOut} (life : Lifecycle id frames (some zone)) :
    (∃ frame ∈ frames, shown frame = some zone) ∧
      ∀ frame ∈ frames, ∃ other, shown frame = some other ∧
        (other.version < zone.version ∨ other = zone) := by
  generalize isRow : some zone = row at life
  induction life generalizing zone with
  | unborn => cases isRow
  | created made =>
      obtain rfl := Option.some.inj isRow
      simp [shown]
  | @updated earlier old current earlierLife isZone next ih =>
      obtain rfl := Option.some.inj isRow
      refine ⟨⟨.updated zone, by simp, rfl⟩, fun frame listed => ?_⟩
      rw [List.mem_append, List.mem_singleton] at listed
      rcases listed with before | rfl
      · obtain ⟨other, shows, atMost⟩ := (ih rfl).2 frame before
        refine ⟨other, shows, Or.inl ?_⟩
        rcases atMost with below | rfl <;> omega
      · exact ⟨zone, rfl, Or.inr rfl⟩
  | deleted => cases isRow

/-- A zone that is gone was never there or was deleted once. -/
theorem Lifecycle.gone (life : Lifecycle id frames none) :
    frames = [] ∨ ∃ earlier, frames = earlier ++ [.deleted id] ∧
      ∀ frame ∈ earlier, ∃ zone, shown frame = some zone := by
  cases life with
  | unborn => exact Or.inl rfl
  | deleted earlierLife =>
      refine Or.inr ⟨_, rfl, fun frame listed => ?_⟩
      obtain ⟨zone, shows, -⟩ := earlierLife.newest.2 frame listed
      exact ⟨zone, shows⟩

end Lives

section Convergence

open ZoneEditor

variable {id : Uuid} {frames arrival : List ZoneFrame}

/-- A living zone ends up as in the table, in whatever order its frames come. -/
theorem entry_of_living {zone : GeozoneOut} (life : Lifecycle id frames (some zone))
    (perm : arrival.Perm frames) : arrival.foldl applyToEntry none = some zone := by
  obtain ⟨⟨frame, listed, shows⟩, bounded⟩ := life.newest
  have newest := foldl_applyToEntry_newest arrival fun other among =>
    bounded other (perm.mem_iff.mp among)
  rcases newest with ⟨absent, -⟩ | reached
  · exact absurd shows (absent frame (perm.mem_iff.mpr listed))
  · exact reached

theorem not_living_of_deleted {zone : GeozoneOut} (life : Lifecycle id frames (some zone)) :
    ∀ zoneId, ZoneFrame.deleted zoneId ∉ frames := by
  intro zoneId listed
  obtain ⟨other, shows, -⟩ := life.newest.2 _ listed
  cases shows

/-- A zone that is gone ends up absent exactly when its deletion comes last. -/
theorem entry_of_gone_iff (life : Lifecycle id frames none) (perm : arrival.Perm frames) :
    arrival.foldl applyToEntry none = none ↔
      ∀ early late, arrival = early ++ .deleted id :: late → late = [] := by
  rw [foldl_applyToEntry_eq_none_iff]
  rcases life.gone with rfl | ⟨earlier, rfl, carried⟩
  · obtain rfl := perm.eq_nil
    simp
  · have deletedOnce : ∀ early late, arrival = early ++ .deleted id :: late →
        (early ++ late).Perm earlier := by
      rintro early late rfl
      have moved : (ZoneFrame.deleted id :: (early ++ late)).Perm (.deleted id :: earlier) :=
        (List.perm_middle.symm.trans perm).trans (List.perm_append_singleton _ _)
      exact moved.cons_inv
    constructor
    · rintro deletionLast early late rfl
      rcases List.eq_nil_or_concat late with rfl | ⟨middle, final, rfl⟩
      · rfl
      · have among : final ∈ early ++ middle.concat final := by simp
        obtain ⟨zone, shows⟩ :=
          carried final ((deletedOnce early _ rfl).mem_iff.mp among)
        have silent := deletionLast final (by simp [List.getLast?_append, List.getLast?_cons])
        rw [shows] at silent
        cases silent
    · intro nothingLater last isLast
      have listed : ZoneFrame.deleted id ∈ arrival := perm.mem_iff.mpr (by simp)
      obtain ⟨early, late, rfl⟩ := List.append_of_mem listed
      obtain rfl := nothingLater early late rfl
      simp only [List.getLast?_append, List.getLast?_singleton] at isLast
      cases isLast
      rfl

theorem deletesLast_iff :
    DeletesLast arrival ↔
      ∀ id early late, framesOf id arrival = early ++ .deleted id :: late → late = [] := by
  constructor
  · intro deletesLast id early late split
    have ofZone := List.Pairwise.filter (fun frame => decide (frame.zoneId = id)) deletesLast
    change List.Pairwise _ (framesOf id arrival) at ofZone
    rw [split, List.pairwise_append] at ofZone
    have notDeleted := (List.pairwise_cons.mp ofZone.2.1).1
    rw [List.eq_nil_iff_forall_not_mem]
    intro frame listed
    have aboutZone : frame ∈ framesOf id arrival := by simp [split, listed]
    have isZone : frame.zoneId = id := by simpa using (List.mem_filter.mp aboutZone).2
    exact notDeleted frame listed (by rw [isZone])
  · intro nothingLater
    rw [DeletesLast, List.pairwise_iff_forall_sublist]
    rintro early late inOrder rfl
    have ofZone := inOrder.filter fun frame => frame.zoneId = late.zoneId
    have bothKept : [ZoneFrame.deleted late.zoneId, late].filter
        (fun frame => frame.zoneId = late.zoneId) = [.deleted late.zoneId, late] := by
      simp [ZoneFrame.zoneId]
    rw [bothKept, List.cons_sublist_iff] at ofZone
    obtain ⟨first, second, split, deletion, follows⟩ := ofZone
    obtain ⟨before, between, rfl⟩ := List.append_of_mem deletion
    have nothing := nothingLater late.zoneId before (between ++ second) (by
      rw [framesOf, split]
      simp)
    rw [List.append_eq_nil_iff] at nothing
    rw [nothing.2] at follows
    cases follows

end Convergence

/-- After all frames of a run have arrived, in any order, the map is the
owner's table exactly when no frame about a zone came after its deletion. -/
theorem zone_view_converges_iff (pg : Postgis) (settings : StorageSettings) (userId : Uuid)
    (users : KeySet Uuid) (ops : List Op) (distinct : (newZoneIds ops).Nodup)
    (arrival : List ZoneFrame)
    (perm : arrival.Perm (announcements pg settings userId (Db.fresh users) ops)) :
    (∀ id, (arrival.foldl ZoneEditor.applyEvent ∅).get? id =
        zoneTable (run pg settings (Db.fresh users) ops) userId id) ↔
      DeletesLast arrival := by
  rw [deletesLast_iff]
  apply forall_congr'
  intro id
  have life := (lifecycle_run pg settings userId users ops distinct id).1
  have permOf : (framesOf id arrival).Perm
      (framesOf id (announcements pg settings userId (Db.fresh users) ops)) := perm.filter _
  rw [ZoneEditor.get?_foldl_applyEvent]
  change (framesOf id arrival).foldl ZoneEditor.applyToEntry none = _ ↔ _
  cases table : zoneTable (run pg settings (Db.fresh users) ops) userId id with
  | none =>
      rw [table] at life
      exact entry_of_gone_iff life permOf
  | some zone =>
      rw [table] at life
      constructor
      · intro _ early late split
        have listed : ZoneFrame.deleted id ∈ framesOf id arrival := by simp [split]
        exact absurd (permOf.mem_iff.mp listed) (not_living_of_deleted life id)
      · exact fun _ => entry_of_living life permOf

/-- A zone that is created, replaced and deleted. -/
def shortLife : List Op :=
  [.create 10 7 1 ⟨"yard", 0, 0, 100, none, true, true, none⟩ 5,
    .replace 11 7 1 ⟨"gate", 0, 0, 50, none, true, true, none⟩ none,
    .delete 7 1 none]

/-- Its frames, with the update overtaking the creation. -/
def overtakingFrames : List ZoneFrame :=
  [.updated ⟨7, "gate", "#3fb1ff", 0, 0, 50, true, true, none, 2, 10, 11⟩,
    .created ⟨7, "yard", "#3fb1ff", 0, 0, 100, true, true, none, 1, 10, 10⟩, .deleted 7]

theorem zone_view_converges_iff_overtaking :
    (newZoneIds shortLife).Nodup ∧
      overtakingFrames.Perm
        (announcements .tangentPlane ⟨30, 60⟩ 1 (Db.fresh (KeySet.add ∅ 1)) shortLife) ∧
      (overtakingFrames.foldl ZoneEditor.applyEvent ∅).get? 7 =
        zoneTable (run .tangentPlane ⟨30, 60⟩ (Db.fresh (KeySet.add ∅ 1)) shortLife) 1 7 := by
  refine ⟨by decide +kernel, by decide +kernel, ?_⟩
  refine (zone_view_converges_iff .tangentPlane ⟨30, 60⟩ 1 (KeySet.add ∅ 1) shortLife
    (by decide +kernel) overtakingFrames ?_).mpr ?_ 7
  · decide +kernel
  · decide +kernel

/-- The update arrives after the deletion that followed it and brings the zone
back. -/
theorem zone_view_resurrected :
    let arrival : List ZoneFrame :=
      [.created ⟨7, "yard", "#3fb1ff", 0, 0, 100, true, true, none, 1, 10, 10⟩, .deleted 7,
        .updated ⟨7, "gate", "#3fb1ff", 0, 0, 50, true, true, none, 2, 10, 11⟩]
    (newZoneIds shortLife).Nodup ∧
      arrival.Perm (announcements .tangentPlane ⟨30, 60⟩ 1 (Db.fresh (KeySet.add ∅ 1)) shortLife) ∧
      ¬ ∀ id, (arrival.foldl ZoneEditor.applyEvent ∅).get? id =
        zoneTable (run .tangentPlane ⟨30, 60⟩ (Db.fresh (KeySet.add ∅ 1)) shortLife) 1 id := by
  refine ⟨by decide +kernel, by decide +kernel, fun converges => ?_⟩
  have gone : zoneTable (run .tangentPlane ⟨30, 60⟩ (Db.fresh (KeySet.add ∅ 1)) shortLife) 1 7 =
      none := by decide +kernel
  have back := converges 7
  rw [gone] at back
  revert back
  decide +kernel

end GeoTrack
