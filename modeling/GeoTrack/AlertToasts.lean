import GeoTrack.HighestAlerts
import GeoTrack.SlidingWindow
import GeoTrack.ToastStack
import Mathlib.Algebra.GroupWithZero.Nat
import Mathlib.Data.Finset.Order

/-!
# What is announced of the alerts

A live alert that the log did not hold goes to the feed with the next flush of a
timer, and is announced at once unless too many came lately.  The flush announces
how many were swallowed.

Whatever order frames, flushes, pages and sign-outs come in, every alert of the feed
is announced once, by itself or in a count.  As long as the clock does not go back,
no window of its length holds more single announcements than the threshold.
-/

namespace GeoTrack

open LabelledRuns SlidingWindow

structure ToastAggregator where
  windowMs : ℕ
  threshold : ℕ
  recent : List ℤ
  suppressed : ℕ

/-- What the policy decides to show. -/
inductive Announcement where
  | single (alert : AlertOut)
  | aggregate (count : ℕ)
deriving DecidableEq

namespace Announcement

/-- How many alerts it announces. -/
def alerts : Announcement → ℕ
  | .single _ => 1
  | .aggregate count => count

def isSingle : Announcement → Bool
  | .single _ => true
  | .aggregate _ => false

end Announcement

namespace ToastAggregator

def prune (now : ℤ) (policy : ToastAggregator) : ToastAggregator :=
  { policy with recent := policy.recent.dropWhile fun moment => moment ≤ now - policy.windowMs }

def offer (alert : AlertOut) (now : ℤ) (policy : ToastAggregator) :
    ToastAggregator × Option Announcement :=
  let pruned := policy.prune now
  let noted := { pruned with recent := pruned.recent ++ [now] }
  if policy.threshold < noted.recent.length then
    ({ noted with suppressed := noted.suppressed + 1 }, none)
  else
    (noted, some (.single alert))

def flush (now : ℤ) (policy : ToastAggregator) : ToastAggregator × Option Announcement :=
  let pruned := policy.prune now
  if pruned.suppressed = 0 then (pruned, none)
  else ({ pruned with suppressed := 0 }, some (.aggregate pruned.suppressed))

/-- A moment is too old when it is a window back. -/
def expiry (windowMs : ℕ) : Expiry ℤ where
  expired now event := decide (event ≤ now - windowMs)
  older := by
    intro now event earlier before old
    rw [decide_eq_true_eq] at old ⊢
    exact before.trans old
  later := by
    intro now next event forward old
    rw [decide_eq_true_eq] at old ⊢
    omega

@[simp]
theorem windowMs_offer (policy : ToastAggregator) (alert : AlertOut) (now : ℤ) :
    (policy.offer alert now).1.windowMs = policy.windowMs := by
  simp only [offer]
  split <;> rfl

@[simp]
theorem threshold_offer (policy : ToastAggregator) (alert : AlertOut) (now : ℤ) :
    (policy.offer alert now).1.threshold = policy.threshold := by
  simp only [offer]
  split <;> rfl

@[simp]
theorem windowMs_flush (policy : ToastAggregator) (now : ℤ) :
    (policy.flush now).1.windowMs = policy.windowMs := by
  simp only [flush]
  split <;> rfl

@[simp]
theorem threshold_flush (policy : ToastAggregator) (now : ℤ) :
    (policy.flush now).1.threshold = policy.threshold := by
  simp only [flush]
  split <;> rfl

theorem recent_flush (policy : ToastAggregator) (now : ℤ) :
    (policy.flush now).1.recent = (policy.prune now).recent ∧
      (policy.flush now).2.any Announcement.isSingle = false := by
  simp only [flush]
  split <;> exact ⟨rfl, rfl⟩

theorem recent_prune (now : ℤ) (policy : ToastAggregator) :
    (policy.prune now).recent = (expiry policy.windowMs).prune now policy.recent :=
  rfl

end ToastAggregator

def AlertKind.text : AlertKind → String
  | .enter => "enter"
  | .exit => "exit"
  | .dwell => "dwell"

def alertTitle : AlertKind → String
  | .enter => "Device entered a zone"
  | .exit => "Device left a zone"
  | .dwell => "Device still inside"

def toneFor : AlertKind → String
  | .enter => "success"
  | .exit => "warning"
  | .dwell => "info"

/-- What the announcer says. -/
def Announcement.spoken : Announcement → String
  | .single alert => s!"{alert.kind.text} · {alert.deviceId} · {alert.zone.name}"
  | .aggregate count => s!"{count} more alerts"

/-- The toast of an announcement. -/
def Announcement.toast : Announcement → ToastMessage
  | .single alert =>
      { title := alertTitle alert.kind
        detail := (Announcement.single alert).spoken
        tone := toneFor alert.kind }
  | .aggregate count => { title := s!"{count} more alerts", tone := "info", timeoutMs := 3000 }

/-- What the page holds of the alerts, with what it has done: announcements with
their moments, the alerts handed to the feed and the moments of the new ones. -/
structure AlertDesk where
  mapView : Bool
  /-- `buildWorkspace` waits for the map or for the zone editor. -/
  building : Bool
  feedTimer : Bool
  log : AlertLog
  pendingAlerts : List AlertOut
  toastPolicy : ToastAggregator
  toaster : Toaster
  announced : List (ℤ × Announcement)
  fed : List AlertOut
  arrivals : List ℤ

/-- Starting a session sets up the map, if it is not there, and waits for it before
the views are built and the timers started. -/
inductive DeskEvent where
  /-- `buildWorkspace` is called, where the map can be set up or throws. -/
  | started (mapped : Bool)
  /-- The views are built and the timers started. -/
  | viewsBuilt
  /-- An exception ends `buildWorkspace` before. -/
  | viewsFailed
  | alert (alert : AlertOut) (now : ℤ)
  | flushTimer (now : ℤ)
  | backfilled (page : List AlertOut)
  | signedOut
  | toast (event : ToastEvent)
deriving DecidableEq

/-- The moment of an event that reads the clock. -/
def DeskEvent.moment? : DeskEvent → Option ℤ
  | .alert _ now | .flushTimer now => some now
  | _ => none

namespace AlertDesk

def fresh (windowMs threshold ceiling : ℕ) : AlertDesk where
  mapView := false
  building := false
  feedTimer := false
  log := AlertLog.empty
  pendingAlerts := []
  toastPolicy := ⟨windowMs, threshold, [], 0⟩
  toaster := .fresh ceiling
  announced := []
  fed := []
  arrivals := []

/-- A toast is shown and the announcer speaks. -/
def announce (now : ℤ) (desk : AlertDesk) : Option Announcement → Option AlertDesk
  | none => some desk
  | some announcement =>
      (desk.toaster.display announcement.toast).map fun toaster =>
        { desk with
          toaster := toaster
          announced := desk.announced ++ [(now, announcement)] }

/-- `buildWorkspace` up to where it waits; a map that is there is not waited for. -/
def buildWorkspace (mapped : Bool) (desk : AlertDesk) : AlertDesk :=
  if desk.mapView then desk else { desk with mapView := mapped, building := mapped }

def onAlert (alert : AlertOut) (now : ℤ) (desk : AlertDesk) : Option AlertDesk :=
  let (log, added) := desk.log.add alert
  if added then
    let (policy, toast) := desk.toastPolicy.offer alert now
    announce now
      { desk with
        log := log
        pendingAlerts := desk.pendingAlerts ++ [alert]
        toastPolicy := policy
        arrivals := desk.arrivals ++ [now] } toast
  else
    some desk

def flushAlerts (now : ℤ) (desk : AlertDesk) : Option AlertDesk :=
  let (policy, burst) := desk.toastPolicy.flush now
  (announce now { desk with toastPolicy := policy } burst).map fun announced =>
    { announced with
      fed := announced.fed ++ announced.pendingAlerts
      pendingAlerts := [] }

def step (desk : AlertDesk) : DeskEvent → Option AlertDesk
  | .started mapped => some (desk.buildWorkspace mapped)
  | .viewsBuilt =>
      if desk.building then some { desk with building := false, feedTimer := true } else none
  | .viewsFailed => if desk.building then some { desk with building := false } else none
  | .alert alert now => desk.onAlert alert now
  | .flushTimer now => if desk.feedTimer then desk.flushAlerts now else none
  | .backfilled page => some { desk with log := (desk.log.addMany page).1 }
  | .signedOut => some { desk with log := desk.log.clear, feedTimer := false }
  | .toast event => (desk.toaster.step event).map fun toaster => { desk with toaster := toaster }

/-- Alerts announced so far, by themselves or in a count. -/
def announcedAlerts (desk : AlertDesk) : ℕ := (desk.announced.map fun said => said.2.alerts).sum

/-- The moments of the announcements of single alerts. -/
def singles (desk : AlertDesk) : List ℤ :=
  (desk.announced.filter fun said => said.2.isSingle).map Prod.fst

/-- A ceiling leaves room for one toast at least. -/
def Sensible : AlertDesk → DeskEvent → Prop
  | desk, .toast event => Toaster.Roomy desk.toaster event
  | _, _ => True

instance (desk : AlertDesk) (event : DeskEvent) : Decidable (Sensible desk event) := by
  cases event <;> unfold Sensible <;> infer_instance

/-- What is announced and what is swallowed so far is what went to the feed or will. -/
structure Balanced (desk : AlertDesk) : Prop where
  sound : desk.toaster.Sound
  even : desk.announcedAlerts + desk.toastPolicy.suppressed =
    desk.fed.length + desk.pendingAlerts.length
  counted : desk.arrivals.length = desk.fed.length + desk.pendingAlerts.length

variable {windowMs threshold : ℕ} {desk after : AlertDesk} {now : ℤ}

/-- A toast is always shown. -/
theorem exists_announce (sound : desk.toaster.Sound) (now : ℤ) (toast : Option Announcement) :
    ∃ toaster : Toaster, toaster.Sound ∧ desk.announce now toast = some
      { desk with
        toaster := toaster
        announced := desk.announced ++ toast.toList.map fun said => (now, said) } := by
  cases toast with
  | none => exact ⟨desk.toaster, sound, by simp [announce]⟩
  | some announcement =>
      obtain ⟨toaster, displayed, yielded⟩ :=
        Toaster.display_spec sound.kept sound.roomy announcement.toast
      exact ⟨toaster, yielded.sound sound.roomy, by simp [announce, displayed]⟩

/-- A new alert comes: it waits for the feed, and is announced or swallowed. -/
theorem exists_onAlert (sound : desk.toaster.Sound) {alert : AlertOut}
    (new : alert.id ∉ desk.log.ids) (now : ℤ) :
    ∃ toaster : Toaster, toaster.Sound ∧ desk.onAlert alert now = some
      { desk with
        log := (desk.log.add alert).1
        pendingAlerts := desk.pendingAlerts ++ [alert]
        toastPolicy := (desk.toastPolicy.offer alert now).1
        arrivals := desk.arrivals ++ [now]
        toaster := toaster
        announced := desk.announced ++
          (desk.toastPolicy.offer alert now).2.toList.map fun said => (now, said) } := by
  have added : (desk.log.add alert).2 = true := by simp [AlertLog.add, new]
  obtain ⟨toaster, isSound, announced⟩ := @exists_announce
    { desk with
      log := (desk.log.add alert).1
      pendingAlerts := desk.pendingAlerts ++ [alert]
      toastPolicy := (desk.toastPolicy.offer alert now).1
      arrivals := desk.arrivals ++ [now] } sound now (desk.toastPolicy.offer alert now).2
  exact ⟨toaster, isSound, (if_pos added).trans announced⟩

theorem onAlert_of_known {alert : AlertOut} (known : alert.id ∈ desk.log.ids) (now : ℤ) :
    desk.onAlert alert now = some desk := by
  simp [onAlert, AlertLog.add, known]

theorem exists_flushAlerts (sound : desk.toaster.Sound) (now : ℤ) :
    ∃ toaster : Toaster, toaster.Sound ∧ desk.flushAlerts now = some
      { desk with
        toastPolicy := (desk.toastPolicy.flush now).1
        toaster := toaster
        announced := desk.announced ++
          (desk.toastPolicy.flush now).2.toList.map fun said => (now, said)
        fed := desk.fed ++ desk.pendingAlerts
        pendingAlerts := [] } := by
  obtain ⟨toaster, isSound, announced⟩ := @exists_announce
    { desk with toastPolicy := (desk.toastPolicy.flush now).1 } sound now
    (desk.toastPolicy.flush now).2
  exact ⟨toaster, isSound, congrArg (Option.map _) announced⟩

/-- What an announcement adds to those already made. -/
theorem sum_alerts_append (announced : List (ℤ × Announcement)) (toast : Option Announcement) :
    ((announced ++ toast.toList.map fun said => (now, said)).map fun said => said.2.alerts).sum =
      (announced.map fun said => said.2.alerts).sum + (toast.map Announcement.alerts).getD 0 := by
  cases toast <;> simp

theorem singles_append (announced : List (ℤ × Announcement)) (toast : Option Announcement) :
    ((announced ++ toast.toList.map fun said => (now, said)).filter
        fun said => said.2.isSingle).map Prod.fst =
      (announced.filter fun said => said.2.isSingle).map Prod.fst ++
        if toast.any Announcement.isSingle then [now] else [] := by
  cases toast with
  | none => simp
  | some announcement => cases single : announcement.isSingle <;> simp [single]

/-- An offer is announced or counted. -/
theorem suppressed_offer (policy : ToastAggregator) (alert : AlertOut) (now : ℤ) :
    ((policy.offer alert now).2.map Announcement.alerts).getD 0 +
      (policy.offer alert now).1.suppressed = policy.suppressed + 1 := by
  simp only [ToastAggregator.offer]
  split
  · exact Nat.zero_add _
  · exact Nat.add_comm _ _

theorem suppressed_flush (policy : ToastAggregator) (now : ℤ) :
    ((policy.flush now).2.map Announcement.alerts).getD 0 = policy.suppressed ∧
      (policy.flush now).1.suppressed = 0 := by
  simp only [ToastAggregator.flush]
  split
  case isTrue none_ => exact ⟨none_.symm, none_⟩
  case isFalse some_ => exact ⟨rfl, rfl⟩

theorem Balanced.onAlert (balanced : desk.Balanced) {alert : AlertOut}
    (stepTo : desk.onAlert alert now = some after) : after.Balanced := by
  by_cases known : alert.id ∈ desk.log.ids
  · rw [onAlert_of_known known] at stepTo
    exact Option.some.inj stepTo ▸ balanced
  · obtain ⟨toaster, sound, done⟩ := exists_onAlert balanced.sound known now
    obtain rfl := Option.some.inj (done.symm.trans stepTo)
    refine ⟨sound, ?_, ?_⟩
    · have even := balanced.even
      have offered := suppressed_offer desk.toastPolicy alert now
      simp only [announcedAlerts, sum_alerts_append, List.length_append, List.length_singleton]
        at even ⊢
      omega
    · have counted := balanced.counted
      simp only [List.length_append, List.length_singleton]
      omega

theorem Balanced.flushAlerts (balanced : desk.Balanced)
    (stepTo : desk.flushAlerts now = some after) :
    after.Balanced ∧ after.fed = desk.fed ++ desk.pendingAlerts ∧
      after.announcedAlerts = after.fed.length := by
  obtain ⟨toaster, sound, done⟩ := exists_flushAlerts balanced.sound now
  obtain rfl := Option.some.inj (done.symm.trans stepTo)
  have even := balanced.even
  have counted := balanced.counted
  obtain ⟨flushed, nothing⟩ := suppressed_flush desk.toastPolicy now
  have all : (desk.announced.map fun said => said.2.alerts).sum + desk.toastPolicy.suppressed =
      (desk.fed ++ desk.pendingAlerts).length := by
    rw [List.length_append]
    exact even
  refine ⟨⟨sound, ?_, ?_⟩, rfl, ?_⟩
  · simp only [announcedAlerts, sum_alerts_append, flushed, nothing, all, List.length_nil]
  · simp only [List.length_append, List.length_nil]
    omega
  · simp only [announcedAlerts, sum_alerts_append, flushed, all]

theorem Balanced.step (balanced : desk.Balanced) {event : DeskEvent}
    (sensible : Sensible desk event) (stepTo : desk.step event = some after) :
    after.Balanced := by
  cases event with
  | started mapped =>
      obtain rfl := Option.some.inj stepTo
      unfold buildWorkspace
      split
      · exact balanced
      · exact ⟨balanced.sound, balanced.even, balanced.counted⟩
  | viewsBuilt | viewsFailed =>
      obtain ⟨_, same⟩ := Option.ite_none_right_eq_some.mp stepTo
      obtain rfl := Option.some.inj same
      exact ⟨balanced.sound, balanced.even, balanced.counted⟩
  | alert alert now => exact balanced.onAlert stepTo
  | flushTimer now =>
      rw [AlertDesk.step] at stepTo
      split at stepTo
      case isTrue => exact (balanced.flushAlerts stepTo).1
      case isFalse => cases stepTo
  | backfilled page =>
      obtain rfl := Option.some.inj stepTo
      exact ⟨balanced.sound, balanced.even, balanced.counted⟩
  | signedOut =>
      obtain rfl := Option.some.inj stepTo
      exact ⟨balanced.sound, balanced.even, balanced.counted⟩
  | toast event =>
      obtain ⟨toaster, moved, rfl⟩ := Option.map_eq_some_iff.mp stepTo
      exact ⟨Toaster.sound_step balanced.sound sensible moved, balanced.even, balanced.counted⟩

/-- The policy notes the arrivals of the last window as of `now`, and announced none
that were too many. -/
structure Paced (windowMs threshold : ℕ) (now : ℤ) (desk : AlertDesk) : Prop where
  window : desk.toastPolicy.windowMs = windowMs
  limit : desk.toastPolicy.threshold = threshold
  past : ∀ moment ∈ desk.arrivals, moment ≤ now
  ordered : Ordered desk.arrivals
  noted : ∃ before ≤ now, desk.toastPolicy.recent =
    (ToastAggregator.expiry windowMs).recent before desk.arrivals
  chosen : desk.singles.Sublist desk.arrivals
  within : (ToastAggregator.expiry windowMs).WithinLimit threshold desk.singles

theorem paced_fresh (windowMs threshold ceiling : ℕ) (now : ℤ) :
    (fresh windowMs threshold ceiling).Paced windowMs threshold now where
  window := rfl
  limit := rfl
  past := fun _ listed => absurd listed List.not_mem_nil
  ordered := List.Pairwise.nil
  noted := ⟨now, le_rfl, rfl⟩
  chosen := List.Sublist.refl _
  within := Expiry.withinLimit_nil _

theorem Paced.mono {before : ℤ} (paced : desk.Paced windowMs threshold before)
    (forward : before ≤ now) : desk.Paced windowMs threshold now where
  window := paced.window
  limit := paced.limit
  past := fun moment listed => (paced.past moment listed).trans forward
  ordered := paced.ordered
  noted :=
    have ⟨noted, early, recent⟩ := paced.noted
    ⟨noted, early.trans forward, recent⟩
  chosen := paced.chosen
  within := paced.within

/-- What the policy notes after an offer are the arrivals of the last window. -/
theorem Paced.noted_offer {before : ℤ} (paced : desk.Paced windowMs threshold before)
    (positive : 0 < windowMs) (forward : before ≤ now) (alert : AlertOut) :
    (desk.toastPolicy.offer alert now).1.recent =
        (ToastAggregator.expiry windowMs).recent now (desk.arrivals ++ [now]) ∧
      (desk.toastPolicy.offer alert now).2 =
        if threshold < ((ToastAggregator.expiry windowMs).recent now
          (desk.arrivals ++ [now])).length then none else some (.single alert) := by
  obtain ⟨noted, early, recent⟩ := paced.noted
  have fresh : (ToastAggregator.expiry windowMs).expired now now = false := by
    simp only [ToastAggregator.expiry, decide_eq_false_iff_not]
    omega
  have pruned : (desk.toastPolicy.prune now).recent ++ [now] =
      (ToastAggregator.expiry windowMs).recent now (desk.arrivals ++ [now]) := by
    rw [ToastAggregator.recent_prune, paced.window, recent,
      Expiry.prune_append paced.ordered (early.trans forward) fresh]
  simp only [ToastAggregator.offer, pruned]
  rw [paced.limit]
  split
  · exact ⟨rfl, rfl⟩
  · exact ⟨rfl, rfl⟩

theorem Paced.onAlert {before : ℤ} (paced : desk.Paced windowMs threshold before)
    (sound : desk.toaster.Sound) (positive : 0 < windowMs) (forward : before ≤ now)
    {alert : AlertOut} (stepTo : desk.onAlert alert now = some after) :
    after.Paced windowMs threshold now := by
  by_cases known : alert.id ∈ desk.log.ids
  · rw [onAlert_of_known known] at stepTo
    obtain rfl := Option.some.inj stepTo
    exact paced.mono forward
  · obtain ⟨toaster, _, done⟩ := exists_onAlert sound known now
    obtain rfl := Option.some.inj (done.symm.trans stepTo)
    obtain ⟨recent, offered⟩ := paced.noted_offer positive forward alert
    have earlier : ∀ moment ∈ desk.arrivals, moment ≤ now :=
      fun moment listed => (paced.past moment listed).trans forward
    have names : singles { desk with
        log := (desk.log.add alert).1
        pendingAlerts := desk.pendingAlerts ++ [alert]
        toastPolicy := (desk.toastPolicy.offer alert now).1
        arrivals := desk.arrivals ++ [now]
        toaster := toaster
        announced := desk.announced ++
          (desk.toastPolicy.offer alert now).2.toList.map fun said => (now, said) } =
        desk.singles ++ if (desk.toastPolicy.offer alert now).2.any Announcement.isSingle
          then [now] else [] := singles_append _ _
    refine ⟨?_, ?_, ?_, Expiry.ordered_snoc paced.ordered earlier, ⟨now, le_rfl, recent⟩, ?_, ?_⟩
    · exact (desk.toastPolicy.windowMs_offer alert now).trans paced.window
    · exact (desk.toastPolicy.threshold_offer alert now).trans paced.limit
    · intro moment listed
      rcases List.mem_append.mp listed with old | new
      · exact earlier moment old
      · exact (List.mem_singleton.mp new).le
    · rw [names]
      split
      · exact paced.chosen.append_right _
      · rw [List.append_nil]
        exact paced.chosen.trans (List.sublist_append_left ..)
    · rw [names, offered]
      split
      case isTrue crowded =>
          simp only [Option.any_none, Bool.false_eq_true, if_false, List.append_nil]
          exact paced.within
      case isFalse room =>
          exact Expiry.WithinLimit.snoc paced.within paced.chosen (not_lt.mp room)

theorem Paced.flushAlerts {before : ℤ} (paced : desk.Paced windowMs threshold before)
    (sound : desk.toaster.Sound) (forward : before ≤ now)
    (stepTo : desk.flushAlerts now = some after) : after.Paced windowMs threshold now := by
  obtain ⟨toaster, _, done⟩ := exists_flushAlerts sound now
  obtain rfl := Option.some.inj (done.symm.trans stepTo)
  obtain ⟨noted, early, recent⟩ := paced.noted
  obtain ⟨kept, noSingle⟩ := desk.toastPolicy.recent_flush now
  have names : singles { desk with
      toastPolicy := (desk.toastPolicy.flush now).1
      toaster := toaster
      announced := desk.announced ++
        (desk.toastPolicy.flush now).2.toList.map fun said => (now, said)
      fed := desk.fed ++ desk.pendingAlerts
      pendingAlerts := [] } = desk.singles := by
    rw [singles, singles_append, noSingle]
    exact List.append_nil _
  refine ⟨?_, ?_, fun moment listed => (paced.past moment listed).trans forward, paced.ordered,
    ⟨now, le_rfl, ?_⟩, ?_, ?_⟩
  · exact (desk.toastPolicy.windowMs_flush now).trans paced.window
  · exact (desk.toastPolicy.threshold_flush now).trans paced.limit
  · rw [kept, ToastAggregator.recent_prune, paced.window, recent,
      Expiry.prune_eq_recent (Expiry.ordered_recent paced.ordered),
      Expiry.recent_recent (early.trans forward)]
  · rw [names]
    exact paced.chosen
  · rw [names]
    exact paced.within

theorem Paced.step {before : ℤ} (paced : desk.Paced windowMs threshold before)
    (sound : desk.toaster.Sound) (positive : 0 < windowMs) {event : DeskEvent}
    (forward : ∀ moment, event.moment? = some moment → before ≤ moment)
    (stepTo : desk.step event = some after) :
    after.Paced windowMs threshold (event.moment?.getD before) := by
  cases event with
  | started mapped =>
      obtain rfl := Option.some.inj stepTo
      unfold buildWorkspace
      split
      · exact paced
      · exact ⟨paced.window, paced.limit, paced.past, paced.ordered, paced.noted, paced.chosen,
          paced.within⟩
  | viewsBuilt | viewsFailed =>
      obtain ⟨_, same⟩ := Option.ite_none_right_eq_some.mp stepTo
      obtain rfl := Option.some.inj same
      exact ⟨paced.window, paced.limit, paced.past, paced.ordered, paced.noted, paced.chosen,
        paced.within⟩
  | alert alert now => exact paced.onAlert sound positive (forward now rfl) stepTo
  | flushTimer now =>
      rw [AlertDesk.step] at stepTo
      split at stepTo
      case isTrue => exact paced.flushAlerts sound (forward now rfl) stepTo
      case isFalse => cases stepTo
  | backfilled page =>
      obtain rfl := Option.some.inj stepTo
      exact ⟨paced.window, paced.limit, paced.past, paced.ordered, paced.noted, paced.chosen,
        paced.within⟩
  | signedOut =>
      obtain rfl := Option.some.inj stepTo
      exact ⟨paced.window, paced.limit, paced.past, paced.ordered, paced.noted, paced.chosen,
        paced.within⟩
  | toast event =>
      obtain ⟨toaster, _, rfl⟩ := Option.map_eq_some_iff.mp stepTo
      exact ⟨paced.window, paced.limit, paced.past, paced.ordered, paced.noted, paced.chosen,
        paced.within⟩

/-- The moments the clock was read at. -/
def moments (events : List DeskEvent) : List ℤ := events.filterMap DeskEvent.moment?

end AlertDesk

def burstAlert (id : ℕ) : AlertOut := ⟨id, .enter, ⟨none, "Depot"⟩, "van-1", 0, 0, 0, 0⟩

/-- Three alerts within a second where two may be announced, one of them twice. -/
def burst : List DeskEvent :=
  [.started true, .viewsBuilt, .alert (burstAlert 1) 0, .alert (burstAlert 1) 100,
    .alert (burstAlert 2) 300, .alert (burstAlert 3) 900]

end GeoTrack
