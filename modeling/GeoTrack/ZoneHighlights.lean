import GeoTrack.ZoneLanes

/-!
# Highlighted devices and the zones they are in

No handler of the dashboard takes the pairs of a zone away when the zone goes.  A
device that is linked when the deletion of its zone is handled stays linked and
highlighted, and since nothing is sent about a zone after its deletion, no later
frame changes that.  There is no other way to a linked zone that is not on the map.
-/

namespace GeoTrack

open LabelledRuns

namespace LiveSession

variable {pg : Postgis} {settings : StorageSettings} {userId zoneId : Uuid}
  {session after : LiveSession}

/-- A device is linked to a zone that is not on the map, and no frame about the
zone is on its way. -/
structure Orphaned (session : LiveSession) (zoneId : Uuid) : Prop where
  linked : session.dashboard.Linked zoneId
  off : zoneId ∉ session.dashboard.zones
  quiet : LiveFrame.about zoneId session.inbox = []

theorem orphaned_congr (sameDashboard : after.dashboard = session.dashboard)
    (sameInbox : after.inbox = session.inbox) :
    after.Orphaned zoneId ↔ session.Orphaned zoneId := by
  constructor
  · rintro ⟨linked, off, quiet⟩
    exact ⟨sameDashboard ▸ linked, sameDashboard ▸ off, sameInbox ▸ quiet⟩
  · rintro ⟨linked, off, quiet⟩
    exact ⟨sameDashboard.symm ▸ linked, sameDashboard.symm ▸ off, sameInbox.symm ▸ quiet⟩

/-- With no frame about a zone on its way, the dashboard has seen its whole life. -/
theorem Lane.seen_eq {seen now : ZoneLife} (lane : Lane userId session zoneId seen now)
    (quiet : LiveFrame.about zoneId session.inbox = []) : now = seen := by
  have pending := lane.pending
  rw [quiet] at pending
  exact Run.eq_of_nil pending

theorem Followed.gone_of_orphaned (followed : Followed userId session)
    (orphaned : session.Orphaned zoneId) : Stands userId session zoneId .gone := by
  obtain ⟨seen, now, lane⟩ := followed.lanes zoneId
  obtain rfl := lane.seen_eq orphaned.quiet
  cases now with
  | unborn => exact absurd orphaned.linked (lane.unlinked rfl)
  | alive =>
      rcases lane.shown rfl with onMap | impossible
      · exact absurd onMap orphaned.off
      · cases impossible
  | gone => exact lane.stands

theorem Followed.orphaned_commit_iff {op : Op} (followed : Followed userId session)
    (committed : session.commit pg settings userId op = some after) :
    after.Orphaned zoneId ↔ session.Orphaned zoneId := by
  have shape := (commit_cases committed).2
  constructor
  · intro orphaned
    rw [shape] at orphaned
    refine ⟨orphaned.linked, orphaned.off, ?_⟩
    have quiet := orphaned.quiet
    rw [LiveFrame.about, List.filter_append, List.append_eq_nil_iff] at quiet
    exact quiet.1
  · intro orphaned
    have nothing := ((followed.gone_of_orphaned orphaned).gone_commit committed).1
    rw [shape]
    refine ⟨orphaned.linked, orphaned.off, ?_⟩
    rw [LiveFrame.about, List.filter_append, List.append_eq_nil_iff]
    exact ⟨orphaned.quiet, nothing⟩

/-- Handling a frame about another zone makes and saves no orphan of this one. -/
theorem Followed.orphaned_frame_iff_of_ne {frame : LiveFrame} {rest : List LiveFrame}
    (followed : Followed userId session) (inbox : session.inbox = frame :: rest)
    (other : frame.zoneId ≠ some zoneId) :
    Orphaned { session with inbox := rest, dashboard := session.dashboard.handle frame } zoneId ↔
      session.Orphaned zoneId := by
  have sameLane : LiveFrame.about zoneId session.inbox = LiveFrame.about zoneId rest := by
    rw [inbox, LiveFrame.about, List.filter_cons_of_neg (by simp [other])]
    rfl
  constructor
  · intro orphaned
    exact ⟨(followed.lit.linked_handle_of_ne other).mp orphaned.linked,
      fun onMap => orphaned.off ((Dashboard.mem_handle_of_ne other).mpr onMap),
      sameLane.trans orphaned.quiet⟩
  · intro orphaned
    exact ⟨(followed.lit.linked_handle_of_ne other).mpr orphaned.linked,
      fun onMap => orphaned.off ((Dashboard.mem_handle_of_ne other).mp onMap),
      sameLane.symm.trans orphaned.quiet⟩

/-- Handling a frame about the zone makes it an orphan exactly when the frame says
that the zone is deleted and a device is linked to it. -/
theorem Followed.orphaned_frame_iff {frame : LiveFrame} {rest : List LiveFrame}
    (followed : Followed userId session) (inbox : session.inbox = frame :: rest)
    (about : frame.zoneId = some zoneId) :
    Orphaned { session with inbox := rest, dashboard := session.dashboard.handle frame } zoneId ↔
      frame = .zone (.deleted zoneId) ∧ session.dashboard.Linked zoneId := by
  obtain ⟨seen, now, lane⟩ := followed.lanes zoneId
  obtain ⟨later, goesOn, leads⟩ := lane.head inbox about
  constructor
  · intro orphaned
    have isGone : zoneTable session.db userId zoneId = none :=
      ((followed.frame inbox).gone_of_orphaned orphaned).1
    have quiet : LiveFrame.about zoneId rest = [] := orphaned.quiet
    rw [quiet] at leads
    obtain rfl := Run.eq_of_nil leads
    unfold ZoneLife.next at goesOn
    split at goesOn
    case h_1 | h_2 | h_3 =>
        obtain rfl := Option.some.inj goesOn
        exact absurd isGone lane.stands.1
    case h_4 gone =>
        obtain rfl : gone = zoneId := Option.some.inj about
        exact ⟨rfl, orphaned.linked⟩
    case h_5 => cases goesOn
  · rintro ⟨rfl, linked⟩
    have wasAlive : later = .gone := by
      cases seen with
      | alive => exact (Option.some.inj goesOn).symm
      | unborn | gone => cases goesOn
    rw [wasAlive] at leads
    refine ⟨linked, ?_, leads.of_gone.1⟩
    rw [Dashboard.handle, Dashboard.mem_onZone]
    simp [ZoneFrame.zoneId]

/-- The answer to a removal makes and saves no orphan. -/
theorem Followed.orphaned_settle_iff {id : CallId} {removed : Uuid} {response : ZoneResponse}
    {removals : Dict CallId Removal} (followed : Followed userId session)
    (answered : session.removals.get? id = some (.answered removed response)) :
    Orphaned { session with
      dashboard := { session.dashboard with
        zones := (ZoneEditor.handle session.dashboard.zones (.remove removed) response).1 }
      removals := removals } zoneId ↔ session.Orphaned zoneId := by
  rcases handle_remove session.dashboard.zones removed response with same | ⟨ends, erased⟩
  · rw [same]
    exact orphaned_congr rfl rfl
  · rw [erased]
    constructor
    · intro orphaned
      refine ⟨orphaned.linked, ?_, orphaned.quiet⟩
      intro onMap
      obtain rfl : zoneId = removed := by
        by_contra other
        exact orphaned.off (Dict.mem_erase.mpr ⟨other, onMap⟩)
      -- a zone on the map with nothing on its way is alive, and this one is gone
      obtain ⟨seen, now, lane⟩ := followed.lanes zoneId
      obtain rfl := lane.seen_eq orphaned.quiet
      have isGone := followed.answered id zoneId response answered ends
      have isAlive : now = .alive := by
        by_contra notAlive
        exact lane.hidden notAlive onMap
      rw [isAlive] at lane
      exact lane.stands.1 isGone.1
    · intro orphaned
      exact ⟨orphaned.linked, fun onMap => orphaned.off (Dict.mem_erase.mp onMap).2, orphaned.quiet⟩

theorem not_leavesNobody_iff {frame : LiveFrame} {rest : List LiveFrame}
    (lit : session.dashboard.Lit) (inbox : session.inbox = frame :: rest) :
    ¬ session.LeavesNobody .frame ↔
      ∃ zoneId, frame = .zone (.deleted zoneId) ∧ session.dashboard.Linked zoneId := by
  simp only [LeavesNobody, inbox, lit.linked_iff]
  split
  case h_1 zoneId _ head =>
      obtain ⟨rfl, -⟩ := List.cons_eq_cons.mp head
      simp
  case h_2 other =>
      simp only [not_true_eq_false, false_iff]
      rintro ⟨zoneId, rfl, -⟩
      exact other zoneId rest rfl

/-- A step makes an orphan exactly when it deletes a zone with a linked device, and
no step saves one. -/
theorem Followed.orphaned_step_iff {event : LiveEvent} (followed : Followed userId session)
    (effect : Effect pg settings userId session event after) :
    (∃ zoneId, after.Orphaned zoneId) ↔
      (∃ zoneId, session.Orphaned zoneId) ∨ ¬ session.LeavesNobody event := by
  have sameOrphans : (∀ zoneId, after.Orphaned zoneId ↔ session.Orphaned zoneId) →
      session.LeavesNobody event → ((∃ zoneId, after.Orphaned zoneId) ↔
        (∃ zoneId, session.Orphaned zoneId) ∨ ¬ session.LeavesNobody event) := by
    intro same harmless
    rw [exists_congr same, or_iff_left (not_not.mpr harmless)]
  cases effect with
  | commit committed => exact sameOrphans (fun _ => followed.orphaned_commit_iff committed) trivial
  | @frame frame rest inbox =>
      rw [not_leavesNobody_iff followed.lit inbox]
      constructor
      · rintro ⟨zoneId, orphaned⟩
        by_cases about : frame.zoneId = some zoneId
        · exact Or.inr ⟨zoneId, (followed.orphaned_frame_iff inbox about).mp orphaned⟩
        · exact Or.inl ⟨zoneId, (followed.orphaned_frame_iff_of_ne inbox about).mp orphaned⟩
      · rintro (⟨zoneId, orphaned⟩ | ⟨zoneId, deleted⟩)
        · have other : frame.zoneId ≠ some zoneId := by
            have quiet := orphaned.quiet
            rw [inbox, LiveFrame.about, List.filter_eq_nil_iff] at quiet
            simpa using quiet frame (List.mem_cons_self ..)
          exact ⟨zoneId, (followed.orphaned_frame_iff_of_ne inbox other).mpr orphaned⟩
        · have about : frame.zoneId = some zoneId := by
            rw [deleted.1]
            rfl
          exact ⟨zoneId, (followed.orphaned_frame_iff inbox about).mpr deleted⟩
  | remove | lose =>
      exact sameOrphans (fun _ => orphaned_congr rfl rfl) trivial
  | @answer _ _ middle _ committed =>
      refine sameOrphans (fun zoneId => ?_) trivial
      rw [← followed.orphaned_commit_iff committed]
      exact orphaned_congr rfl rfl
  | settle answered => exact sameOrphans (fun _ => followed.orphaned_settle_iff answered) trivial

end LiveSession

section Load

variable {pg : Postgis} {settings : StorageSettings} {db : Db} {userId zoneId : Uuid}

/-- An alert that names a zone is its owner's. -/
def Db.AlertsOwned (db : Db) : Prop :=
  ∀ alert ∈ db.alerts, ∀ zoneId, alert.zoneId = some zoneId →
    zoneTable db alert.userId zoneId ≠ none

theorem owner_unique {other : Uuid} (mine : zoneTable db userId zoneId ≠ none)
    (theirs : zoneTable db other zoneId ≠ none) : userId = other := by
  obtain ⟨one, shownOne⟩ := Option.ne_none_iff_exists'.mp mine
  obtain ⟨two, shownTwo⟩ := Option.ne_none_iff_exists'.mp theirs
  obtain ⟨row, found, -⟩ := Option.map_eq_some_iff.mp shownOne
  obtain ⟨_, alsoFound, -⟩ := Option.map_eq_some_iff.mp shownTwo
  obtain ⟨stored, owned⟩ := getForUser_eq_some_iff.mp found
  obtain ⟨alsoStored, alsoOwned⟩ := getForUser_eq_some_iff.mp alsoFound
  obtain rfl := Option.some.inj (stored.symm.trans alsoStored)
  exact owned.symm.trans alsoOwned

/-- A zone has been its owner's since it was created. -/
theorem Announces.owned_before {after : Db} {frame : Option ZoneFrame}
    (announces : Announces userId db after frame) (shown : zoneTable after userId zoneId ≠ none)
    (known : zoneId ∈ db.geozones) : zoneTable db userId zoneId ≠ none := by
  cases announces with
  | nothing same => exact same zoneId ▸ shown
  | created zone fresh table =>
      rw [table] at shown
      split at shown
      case isTrue same => exact absurd known (same ▸ fresh)
      case isFalse => exact shown
  | updated zone old before next table =>
      rw [table] at shown
      split at shown
      case isTrue same =>
          rw [same, before]
          exact Option.some_ne_none _
      case isFalse => exact shown
  | deleted gone old before table =>
      rw [table] at shown
      split at shown
      case isTrue => exact absurd rfl shown
      case isFalse => exact shown

/-- A zone that stays in the table stays its owner's. -/
theorem owned_step {op : Op} (mine : zoneTable db userId zoneId ≠ none)
    (stays : zoneId ∈ (step pg settings db op).geozones) :
    zoneTable (step pg settings db op) userId zoneId ≠ none := by
  obtain ⟨row, stored⟩ := Dict.mem_iff_exists.mp stays
  have theirs : zoneTable (step pg settings db op) row.userId zoneId ≠ none := by
    rw [zoneTable_eq_some stored rfl]
    exact Option.some_ne_none _
  obtain ⟨zone, shown⟩ := Option.ne_none_iff_exists'.mp mine
  have before := (announces_step pg settings row.userId db op).owned_before theirs
    (ZoneSession.mem_geozones_of_zoneTable shown)
  rw [owner_unique mine before]
  exact theirs

theorem alertsOwned_run (users : KeySet Uuid) (ops : List Op) :
    (run pg settings (Db.fresh users) ops).AlertsOwned := by
  induction ops using List.reverseRecOn with
  | nil => simp [Db.AlertsOwned, Db.fresh]
  | append_singleton ops op ih =>
      have kept := @kept_run pg settings users (ops ++ [op])
      rw [run_snoc] at kept ⊢
      generalize run pg settings (Db.fresh users) ops = db at *
      intro alert listed zoneId about
      have stays := kept.alertZone alert listed zoneId about
      suffices before : zoneTable db alert.userId zoneId ≠ none from owned_step before stays
      rcases step_cases pg settings db op with ⟨batch, rfl⟩ | ⟨_, effect⟩
      · rw [step_batch] at listed
        rcases List.mem_append.mp listed with old | new
        · exact ih alert old zoneId about
        · obtain ⟨_, zone, stored, named, owner⟩ := Batch.owner_of_raised new
          obtain rfl := Option.some.inj (named.symm.trans about)
          rw [zoneTable_eq_some stored owner.symm]
          exact Option.some_ne_none _
      · generalize step pg settings db op = after at listed effect
        cases effect with
        | unchanged => exact ih alert listed zoneId about
        | written => exact ih alert listed zoneId about
        | dropped gone =>
            obtain ⟨old, oldListed, rfl⟩ := List.mem_map.mp listed
            split at about
            case isTrue => cases about
            case isFalse different =>
                rw [if_neg different]
                exact ih old oldListed zoneId about

/-- The map after a load shows the zones of the page. -/
theorem Dashboard.mem_load (dashboard : Dashboard)
    (onePage : Geozones.countForUser db userId ≤ zonePageLimit) :
    zoneId ∈ (dashboard.load pg db userId).zones ↔ zoneTable db userId zoneId ≠ none := by
  have listed : (∃ zone ∈ Geozones.listForUser db userId zonePageLimit 0, zone.id = zoneId) ↔
      zoneTable db userId zoneId ≠ none := by
    constructor
    · rintro ⟨zone, onPage, rfl⟩
      rw [ZoneSession.current_of_listForUser onPage]
      exact Option.some_ne_none _
    · intro shown
      obtain ⟨zone, isZone⟩ := Option.ne_none_iff_exists'.mp shown
      obtain ⟨row, found, rfl⟩ := Option.map_eq_some_iff.mp isZone
      obtain ⟨stored, owned⟩ := getForUser_eq_some_iff.mp found
      refine ⟨row.out zoneId, ?_, rfl⟩
      have short : (db.geozones.entries.filter fun entry => entry.2.userId = userId).length ≤
          zonePageLimit := by
        rw [Geozones.countForUser, Dict.values, List.filter_map, List.length_map] at onePage
        exact onePage
      rw [Geozones.listForUser, List.drop_zero, List.take_of_length_le (by simpa using short)]
      refine List.mem_map.mpr ⟨(zoneId, row), ?_, rfl⟩
      rw [List.mem_insertionSort, List.mem_filter]
      exact ⟨Dict.mem_entries_iff.mpr stored, decide_eq_true owned⟩
  rw [← listed, load]
  rcases Dict.get?_setAll_cases ∅ ((Geozones.listForUser db userId zonePageLimit 0).map
    fun zone => (zone.id, zone)) zoneId with ⟨value, isListed, found⟩ | ⟨absent, found⟩
  · obtain ⟨zone, onPage, same⟩ := List.mem_map.mp isListed
    exact ⟨fun _ => ⟨zone, onPage, congrArg Prod.fst same⟩,
      fun _ => Dict.mem_iff_exists.mpr ⟨value, found⟩⟩
  · constructor
    · intro onMap
      rw [Dict.mem_def, found] at onMap
      cases onMap
    · rintro ⟨zone, onPage, rfl⟩
      exact absurd (List.mem_map_of_mem (List.mem_map_of_mem onPage)) absent

/-- A load links devices to zones of the user only. -/
theorem Dashboard.owned_of_linked_load (dashboard : Dashboard) (owned : db.AlertsOwned)
    (linked : (dashboard.load pg db userId).Linked zoneId) : zoneTable db userId zoneId ≠ none := by
  obtain ⟨deviceId, isLinked⟩ := linked
  have links := (PresenceTracker.links_setSnapshot dashboard.presence
    (presenceForUser pg db userId presenceDeviceLimit)).backfillAlerts
      (alertPage db userId ⟨none, dashboard.log.lastId, none, none⟩ AlertSession.pageLimit)
  have verdict := (links zoneId deviceId).2.mp isLinked
  simp only [PresenceTracker.Verdict] at verdict
  split at verdict
  case h_1 alert isLast =>
      obtain ⟨onPage, about⟩ := List.mem_filter.mp (List.mem_of_getLast? isLast)
      obtain ⟨row, stored, mine, rfl⟩ := AlertSession.recorded_of_backfillPage onPage
      rw [← mine]
      exact owned row stored zoneId (of_decide_eq_true about).1
  case h_2 =>
      have inside := List.mem_of_mem_take (mem_presenceForUser.mp verdict)
      rw [sortedPairs, List.mem_insertionSort, mem_ownedPairs] at inside
      obtain ⟨-, zone, stored, mine⟩ := inside
      rw [zoneTable_eq_some stored mine]
      exact Option.some_ne_none _

theorem LiveSession.followed_start (dashboard : Dashboard) (owned : db.AlertsOwned)
    (onePage : Geozones.countForUser db userId ≤ zonePageLimit) :
    LiveSession.Followed userId (LiveSession.start pg userId db dashboard) := by
  refine ⟨⟨?_, fun deviceId => PresenceTracker.mem_deviceIds⟩, ?_, ?_, ?_⟩
  · exact (PresenceTracker.tidy_setSnapshot _ _).backfillAlerts _
  · intro zoneId
    have onMap := @Dashboard.mem_load pg db userId zoneId dashboard onePage
    by_cases shown : zoneTable db userId zoneId = none
    · refine ⟨.unborn, .unborn, .refl, shown, by simp, ?_, ?_⟩
      · exact fun _ isListed => onMap.mp isListed shown
      · exact fun _ linked => dashboard.owned_of_linked_load owned linked shown
    · obtain ⟨zone, isZone⟩ := Option.ne_none_iff_exists'.mp shown
      have stored := Dict.mem_keys_iff.mpr (ZoneSession.mem_geozones_of_zoneTable isZone)
      exact ⟨.alive, .alive, .refl, ⟨shown, stored⟩, fun _ => Or.inl (onMap.mpr shown), by simp,
        by simp⟩
  · intro id zoneId isSent
    cases isSent
  · intro id zoneId response isAnswered
    cases isAnswered

end Load

open LiveSession

section Runs

variable {pg : Postgis} {settings : StorageSettings} {userId : Uuid} {first session : LiveSession}
  {events : List LiveEvent}

/-- A run leaves no orphan behind exactly when no step of it deletes a zone with a
linked device. -/
theorem LiveSession.Followed.run (followed : Followed userId first)
    (nobody : ¬ ∃ zoneId, first.Orphaned zoneId)
    (reached : Run (LiveSession.step pg settings userId) Anything first events session) :
    Followed userId session ∧ ((¬ ∃ zoneId, session.Orphaned zoneId) ↔
      Run (LiveSession.step pg settings userId) LeavesNobody first events session) := by
  induction reached with
  | nil => exact ⟨followed, iff_of_true nobody Run.nil⟩
  | @snoc events before after event earlier _ stepTo ih =>
      obtain ⟨followedBefore, decides⟩ := ih
      have effect := effect_of_step stepTo
      refine ⟨followedBefore.step effect, ?_⟩
      rw [followedBefore.orphaned_step_iff effect, not_or, not_not, decides, run_snoc_iff]
      constructor
      · rintro ⟨harmless, leaves⟩
        exact ⟨before, harmless, leaves, stepTo⟩
      · rintro ⟨other, harmless, leaves, -⟩
        obtain rfl := (harmless.mono fun _ _ _ => trivial).unique earlier
        exact ⟨harmless, leaves⟩

theorem LiveSession.Followed.showsExisting_iff (followed : Followed userId session)
    (settled : session.Settled) :
    session.dashboard.ShowsExisting ↔ ¬ ∃ zoneId, session.Orphaned zoneId := by
  rw [followed.lit.showsExisting_iff, not_exists]
  apply forall_congr'
  intro zoneId
  constructor
  · exact fun onMap orphaned => orphaned.off (onMap orphaned.linked)
  · intro notOrphaned linked
    by_contra off
    refine notOrphaned ⟨linked, off, ?_⟩
    rw [settled.1]
    rfl

end Runs

/-- From a load of all the user's zones on, the dashboard shows existing zones only
whenever everything sent is handled, if and only if no zone was deleted while a
device was linked to it. -/
theorem highlights_existing_iff (pg : Postgis) (settings : StorageSettings) (users : KeySet Uuid)
    (before : List Op) (userId : Uuid) (dashboard : Dashboard)
    (onePage : Geozones.countForUser (run pg settings (Db.fresh users) before) userId ≤
      zonePageLimit)
    {events : List LiveEvent} {session : LiveSession}
    (reached : Run (LiveSession.step pg settings userId) Anything
      (start pg userId (run pg settings (Db.fresh users) before) dashboard) events session)
    (settled : session.Settled) :
    session.dashboard.ShowsExisting ↔
      Run (LiveSession.step pg settings userId) LeavesNobody
        (start pg userId (run pg settings (Db.fresh users) before) dashboard) events session := by
  have owned := @alertsOwned_run pg settings users before
  have nobody : ¬ ∃ zoneId, Orphaned
      (start pg userId (run pg settings (Db.fresh users) before) dashboard) zoneId := by
    rintro ⟨zoneId, orphaned⟩
    have shown := dashboard.owned_of_linked_load owned orphaned.linked
    exact orphaned.off ((dashboard.mem_load onePage).mpr shown)
  obtain ⟨followed, decides⟩ := (followed_start dashboard owned onePage).run nobody reached
  rw [followed.showsExisting_iff settled, decides]

/-- The dashboard of a user with one zone, right after the first load. -/
def yardDashboard : LiveSession :=
  start .tangentPlane 1 (run .tangentPlane ⟨30, 60⟩ (Db.fresh (KeySet.add ∅ 1))
    [.create 0 7 1 ⟨"yard", 0, 0, 500, none, true, true, none⟩ 10]) ⟨∅, ⟨∅, ∅⟩, ∅, .empty⟩

/-- A truck drives into the yard. -/
def truckArrives : List LiveEvent := [.commit (.batch ⟨0, 0, [⟨"truck", 0, 0, 0, 0⟩]⟩), .frame]

def truckLeaves : List LiveEvent :=
  [.commit (.batch ⟨1000, 1000, [⟨"truck", 1, 0, 1000, 1000⟩]⟩), .frame]

/-- The user removes the yard; the frame about it comes before the answer. -/
def yardRemoved : List LiveEvent := [.remove 0 7, .answer 0, .frame, .settle 0]

theorem highlights_existing_iff_truckLeaves :
    ∃ session, Run (LiveSession.step .tangentPlane ⟨30, 60⟩ 1) LeavesNobody yardDashboard
        (truckArrives ++ truckLeaves ++ yardRemoved) session ∧
      session.Settled ∧ 7 ∉ session.dashboard.zones ∧ session.dashboard.ShowsExisting := by
  obtain ⟨session, executed, settled, off⟩ := @exists_of_exec _ _
    (LiveSession.step .tangentPlane ⟨30, 60⟩ 1) LeavesNobody yardDashboard _
    (fun session => session.Settled ∧ 7 ∉ session.dashboard.zones) _
    (truckArrives ++ truckLeaves ++ yardRemoved) (by decide +kernel)
  have harmless := run_of_exec executed
  refine ⟨session, harmless, settled, off, ?_⟩
  refine (highlights_existing_iff .tangentPlane ⟨30, 60⟩ (KeySet.add ∅ 1) _ 1 _ ?_
    (harmless.mono fun _ _ _ => trivial) settled).mpr harmless
  decide +kernel

/-- The yard is removed with the truck inside: the truck stays linked to it and
highlighted. -/
theorem removed_zone_stays_highlighted :
    ∃ session, Run (LiveSession.step .tangentPlane ⟨30, 60⟩ 1) Anything yardDashboard
        (truckArrives ++ yardRemoved) session ∧
      session.Settled ∧ 7 ∉ session.dashboard.zones ∧
      "truck" ∈ session.dashboard.presence.devicesIn 7 ∧
      "truck" ∈ session.dashboard.highlighted ∧ ¬ session.dashboard.ShowsExisting := by
  obtain ⟨session, executed, settled, off, linked, highlighted⟩ := @exists_of_exec _ _
    (LiveSession.step .tangentPlane ⟨30, 60⟩ 1) Anything yardDashboard _
    (fun session => session.Settled ∧ 7 ∉ session.dashboard.zones ∧
      "truck" ∈ session.dashboard.presence.devicesIn 7 ∧
      "truck" ∈ session.dashboard.highlighted) _
    (truckArrives ++ yardRemoved) (by decide +kernel)
  refine ⟨session, run_of_exec executed, settled, off, linked, highlighted, ?_⟩
  intro shows
  exact off (shows.linked 7 "truck" (Or.inl linked))

end GeoTrack
