import GeoTrack.AlertToasts

/-!
# The timer of the alert feed

The timer that hands alerts to the feed and announces the swallowed ones starts once
the views are built, which waits for the map, and stops when the user signs out.  The
map outlives the session, so no later session builds the views again: once they are
built, from the next sign-out on alerts pile up in front of the feed, and those above
the toast threshold are never announced.
-/

namespace GeoTrack

open LabelledRuns

namespace AlertDesk

/-- The views were built, and nobody has signed out since. -/
def Ticking (events : List DeskEvent) : Prop :=
  ∃ earlier later, events = earlier ++ .viewsBuilt :: later ∧ .signedOut ∉ later

theorem ticking_snoc_iff (events : List DeskEvent) (event : DeskEvent) :
    Ticking (events ++ [event]) ↔
      event = .viewsBuilt ∨ (Ticking events ∧ event ≠ .signedOut) := by
  constructor
  · rintro ⟨earlier, later, split, stays⟩
    obtain rfl | ⟨init, last, rfl⟩ := List.eq_nil_or_concat later
    · obtain ⟨rfl, same⟩ := List.append_inj' split rfl
      exact Or.inl (List.cons_eq_cons.mp same).1
    · rw [List.concat_eq_append] at split stays
      rw [← List.cons_append, ← List.append_assoc] at split
      obtain ⟨rfl, same⟩ := List.append_inj' split rfl
      obtain rfl := (List.cons_eq_cons.mp same).1
      rw [List.mem_append, List.mem_singleton, not_or] at stays
      exact Or.inr ⟨⟨earlier, init, rfl, stays.1⟩, Ne.symm stays.2⟩
  · rintro (rfl | ⟨⟨earlier, later, rfl, stays⟩, other⟩)
    · exact ⟨events, [], rfl, List.not_mem_nil⟩
    · refine ⟨earlier, later ++ [event], by simp, ?_⟩
      rw [List.mem_append, List.mem_singleton, not_or]
      exact ⟨stays, Ne.symm other⟩

variable {windowMs threshold ceiling : ℕ} {desk before after : AlertDesk} {now : ℤ}

/-- Alerts and toasts leave the views and their timer as they are. -/
structure SameViews (desk after : AlertDesk) : Prop where
  mapView : after.mapView = desk.mapView
  building : after.building = desk.building
  feedTimer : after.feedTimer = desk.feedTimer

theorem sameViews_announce {toast : Option Announcement}
    (stepTo : desk.announce now toast = some after) : desk.SameViews after := by
  cases toast with
  | none => exact Option.some.inj stepTo ▸ ⟨rfl, rfl, rfl⟩
  | some announcement =>
      obtain ⟨toaster, _, rfl⟩ := Option.map_eq_some_iff.mp stepTo
      exact ⟨rfl, rfl, rfl⟩

theorem sameViews_onAlert {alert : AlertOut} (stepTo : desk.onAlert alert now = some after) :
    desk.SameViews after := by
  simp only [onAlert] at stepTo
  split at stepTo
  case isTrue =>
      obtain ⟨mapView, building, feedTimer⟩ := sameViews_announce stepTo
      exact ⟨mapView, building, feedTimer⟩
  case isFalse => exact Option.some.inj stepTo ▸ ⟨rfl, rfl, rfl⟩

theorem sameViews_flushAlerts (stepTo : desk.flushAlerts now = some after) :
    desk.SameViews after := by
  obtain ⟨announced, said, rfl⟩ := Option.map_eq_some_iff.mp stepTo
  obtain ⟨mapView, building, feedTimer⟩ := sameViews_announce said
  exact ⟨mapView, building, feedTimer⟩

/-- The views are built once, beside a map, and then the timer ticks until a sign-out. -/
structure Timed (events : List DeskEvent) (desk : AlertDesk) : Prop where
  begun : desk.building = true → desk.mapView = true
  built : .viewsBuilt ∈ events → desk.mapView = true ∧ desk.building = false
  ticks : desk.feedTimer = true ↔ Ticking events

theorem Timed.pass {events : List DeskEvent} (timed : Timed events before) {event : DeskEvent}
    (same : before.SameViews after) (other : event ≠ .viewsBuilt) (stays : event ≠ .signedOut) :
    Timed (events ++ [event]) after where
  begun := by
    rw [same.mapView, same.building]
    exact timed.begun
  built := by
    rw [same.mapView, same.building, List.mem_append, List.mem_singleton,
      or_iff_left (Ne.symm other)]
    exact timed.built
  ticks := by
    rw [same.feedTimer, ticking_snoc_iff, or_iff_right other, and_iff_left stays]
    exact timed.ticks

theorem Timed.step {events : List DeskEvent} (timed : Timed events before) {event : DeskEvent}
    (stepTo : before.step event = some after) : Timed (events ++ [event]) after := by
  have stillBuilt (other : event ≠ .viewsBuilt) (listed : .viewsBuilt ∈ events ++ [event]) :
      before.mapView = true ∧ before.building = false := by
    rw [List.mem_append, List.mem_singleton, or_iff_left (Ne.symm other)] at listed
    exact timed.built listed
  cases event with
  | started mapped =>
      obtain rfl := Option.some.inj stepTo
      unfold buildWorkspace
      split
      case isTrue => exact timed.pass ⟨rfl, rfl, rfl⟩ nofun nofun
      case isFalse noMap =>
          refine ⟨id, fun listed => absurd (stillBuilt nofun listed).1 noMap, ?_⟩
          rw [ticking_snoc_iff, or_iff_right nofun, and_iff_left nofun]
          exact timed.ticks
  | viewsBuilt =>
      obtain ⟨building, same⟩ := Option.ite_none_right_eq_some.mp stepTo
      obtain rfl := Option.some.inj same
      refine ⟨nofun, fun _ => ⟨timed.begun building, rfl⟩, iff_of_true rfl ?_⟩
      exact (ticking_snoc_iff ..).mpr (.inl rfl)
  | viewsFailed =>
      obtain ⟨building, same⟩ := Option.ite_none_right_eq_some.mp stepTo
      obtain rfl := Option.some.inj same
      refine ⟨nofun, fun listed => ⟨(stillBuilt nofun listed).1, rfl⟩, ?_⟩
      rw [ticking_snoc_iff, or_iff_right nofun, and_iff_left nofun]
      exact timed.ticks
  | alert alert now => exact timed.pass (sameViews_onAlert stepTo) nofun nofun
  | flushTimer now =>
      obtain ⟨_, flushed⟩ := Option.ite_none_right_eq_some.mp stepTo
      exact timed.pass (sameViews_flushAlerts flushed) nofun nofun
  | backfilled page =>
      obtain rfl := Option.some.inj stepTo
      exact timed.pass ⟨rfl, rfl, rfl⟩ nofun nofun
  | signedOut =>
      obtain rfl := Option.some.inj stepTo
      refine ⟨timed.begun, stillBuilt nofun, iff_of_false nofun ?_⟩
      rw [ticking_snoc_iff]
      rintro (nothing | ⟨_, apart⟩)
      · cases nothing
      · exact apart rfl
  | toast event =>
      obtain ⟨toaster, _, rfl⟩ := Option.map_eq_some_iff.mp stepTo
      exact timed.pass ⟨rfl, rfl, rfl⟩ nofun nofun

/-- Since `desk` nothing went to the feed.  What came waits for it, announced by itself
or counted. -/
structure Stalled (desk after : AlertDesk) : Prop where
  mapped : after.mapView = true
  built : after.building = false
  stopped : after.feedTimer = false
  fed : after.fed = desk.fed
  waits : ∃ waiting said, after.pendingAlerts = desk.pendingAlerts ++ waiting ∧
    after.arrivals.length = desk.arrivals.length + waiting.length ∧
    after.announced = desk.announced ++ said ∧ (∀ one ∈ said, one.2.isSingle = true) ∧
    said.length + after.toastPolicy.suppressed = desk.toastPolicy.suppressed + waiting.length

/-- An offer is announced by itself or counted. -/
theorem offer_said (policy : ToastAggregator) (alert : AlertOut) (now : ℤ) :
    (∀ one ∈ (policy.offer alert now).2, one.isSingle = true) ∧
      (policy.offer alert now).2.toList.length + (policy.offer alert now).1.suppressed =
        policy.suppressed + 1 := by
  simp only [ToastAggregator.offer]
  split
  · exact ⟨by simp, Nat.zero_add _⟩
  · exact ⟨by simp [Announcement.isSingle], Nat.add_comm _ _⟩

theorem Stalled.onAlert (stalled : desk.Stalled before) (sound : before.toaster.Sound)
    {alert : AlertOut} (stepTo : before.onAlert alert now = some after) : desk.Stalled after := by
  by_cases known : alert.id ∈ before.log.ids
  · rw [onAlert_of_known known] at stepTo
    exact Option.some.inj stepTo ▸ stalled
  · obtain ⟨toaster, _, done⟩ := exists_onAlert sound known now
    obtain rfl := Option.some.inj (done.symm.trans stepTo)
    obtain ⟨waiting, said, pending, arrived, announced, single, even⟩ := stalled.waits
    obtain ⟨oneByOne, counted⟩ := offer_said before.toastPolicy alert now
    refine ⟨stalled.mapped, stalled.built, stalled.stopped, stalled.fed, waiting ++ [alert],
      said ++ (before.toastPolicy.offer alert now).2.toList.map fun one => (now, one), ?_⟩
    refine ⟨by simp [pending], by simp [arrived, Nat.add_assoc], by simp [announced], ?_, ?_⟩
    · intro one listed
      obtain earlier | later := List.mem_append.mp listed
      · exact single one earlier
      · obtain ⟨fresh, offered, rfl⟩ := List.mem_map.mp later
        exact oneByOne fresh (Option.mem_toList.mp offered)
    · rw [List.length_append, List.length_append, List.length_map, List.length_singleton]
      dsimp only
      omega

theorem Stalled.step (stalled : desk.Stalled before) (sound : before.toaster.Sound)
    {event : DeskEvent} (stepTo : before.step event = some after) : desk.Stalled after := by
  cases event with
  | started mapped =>
      obtain rfl := Option.some.inj stepTo
      rw [buildWorkspace, if_pos stalled.mapped]
      exact stalled
  | viewsBuilt | viewsFailed =>
      obtain ⟨building, _⟩ := Option.ite_none_right_eq_some.mp stepTo
      exact absurd (stalled.built.symm.trans building) Bool.false_ne_true
  | alert alert now => exact stalled.onAlert sound stepTo
  | flushTimer now =>
      rw [AlertDesk.step, stalled.stopped] at stepTo
      cases stepTo
  | backfilled page =>
      obtain rfl := Option.some.inj stepTo
      exact ⟨stalled.mapped, stalled.built, stalled.stopped, stalled.fed, stalled.waits⟩
  | signedOut =>
      obtain rfl := Option.some.inj stepTo
      exact ⟨stalled.mapped, stalled.built, rfl, stalled.fed, stalled.waits⟩
  | toast event =>
      obtain ⟨toaster, _, rfl⟩ := Option.map_eq_some_iff.mp stepTo
      exact ⟨stalled.mapped, stalled.built, stalled.stopped, stalled.fed, stalled.waits⟩

end AlertDesk

end GeoTrack
