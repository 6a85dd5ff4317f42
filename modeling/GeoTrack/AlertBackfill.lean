import GeoTrack.AlertCursor

/-!
# Recovering missed alerts after a reconnect

A dashboard keeps the alerts it knows in a log.  Alerts reach it through the
socket while that is up, and through a page of the alert feed after the initial
load and after each reconnect; the page is asked for from the highest number in
the log at that moment, and every call and every frame is a step of its own.

An alert is left behind in two ways: nothing asks for what was missed before the
first hello, and a live alert that is handled moves the highest number past those
below it that no load has asked for yet.
-/

namespace GeoTrack

open LabelledRuns

/-- The client's alerts, newest first, with the highest number ever seen. -/
structure AlertLog where
  items : List AlertOut
  ids : KeySet ℕ
  lastId : Option ℕ

namespace AlertLog

def defaultCapacity : ℕ := 300

def empty : AlertLog := ⟨[], ∅, none⟩

/-- Bisection between `low` and `high`, in at most `rounds` rounds. -/
def bisect (items : List AlertOut) (id : ℕ) : ℕ → ℕ → ℕ → ℕ
  | 0, low, _ => low
  | rounds + 1, low, high =>
      if low < high then
        let middle := (low + high) / 2
        if ((items[middle]?).map AlertOut.id).any (fun other => other > id) then
          bisect items id rounds (middle + 1) high
        else
          bisect items id rounds low middle
      else
        low

def insertionIndex (items : List AlertOut) (id : ℕ) : ℕ :=
  bisect items id items.length 0 items.length

/-- Evict the oldest alert. -/
def pop (log : AlertLog) : AlertLog :=
  match log.items.getLast? with
  | some last => { log with items := log.items.dropLast, ids := log.ids.discard last.id }
  | none => log

def raiseLastId (lastId : Option ℕ) (id : ℕ) : Option ℕ :=
  match lastId with
  | some last => if id > last then some id else some last
  | none => some id

/-- Add an alert unless its number is held already. -/
def add (log : AlertLog) (alert : AlertOut) : AlertLog × Bool :=
  if alert.id ∈ log.ids then
    (log, false)
  else
    let index := insertionIndex log.items alert.id
    let items := log.items.take index ++ alert :: log.items.drop index
    (pop^[items.length - defaultCapacity]
      { items := items
        ids := log.ids.add alert.id
        lastId := raiseLastId log.lastId alert.id }, true)

/-- Add alerts one by one, returning those that were new. -/
def addMany (log : AlertLog) (alerts : List AlertOut) : AlertLog × List AlertOut :=
  alerts.foldl (fun state alert =>
    let (next, added) := state.1.add alert
    (next, if added then state.2 ++ [alert] else state.2)) (log, [])

end AlertLog

/-- The number is higher than the cursor, if there is one. -/
def Below (cursor : Option ℕ) (id : ℕ) : Prop := ∀ last, cursor = some last → last < id

instance (cursor : Option ℕ) (id : ℕ) : Decidable (Below cursor id) :=
  match cursor with
  | none => isTrue (by simp [Below])
  | some last => decidable_of_iff (last < id) (by simp [Below])

/-- One load of zones, presence and alerts, by the call it waits for. -/
inductive LoadStage where
  | zones
  | presence
  | asking (afterId : Option ℕ)
  | answered (afterId : Option ℕ) (page : List AlertOut)
deriving DecidableEq

inductive SocketFrame where
  | hello
  | alert (alert : AlertOut)
deriving DecidableEq

def SocketFrame.alertId : SocketFrame → Option ℕ
  | .hello => none
  | .alert item => some item.id

/-- The tables and one dashboard: its socket, with the frames not handled yet,
and its loads in progress. -/
structure AlertSession where
  db : Db
  live : Bool
  inbox : List SocketFrame
  everConnected : Bool
  loads : Dict ℕ LoadStage
  nextLoad : ℕ
  log : AlertLog

inductive FeedEvent where
  | commit (body : AlertBody)
  | connect
  | disconnect
  /-- The next frame is handled. -/
  | handle
  /-- The first or second call of a load returns. -/
  | proceed (load : ℕ)
  /-- The server answers the request for alerts. -/
  | answer (load : ℕ)
  /-- The page of alerts arrives. -/
  | finish (load : ℕ)

namespace AlertSession

/-- The load that `startSession` waits for before it opens the socket. -/
def initialLoad : ℕ := 0

def pageLimit : ℕ := 200

def start (db : Db) : AlertSession where
  db := db
  live := false
  inbox := []
  everConnected := false
  loads := Dict.set ∅ initialLoad .zones
  nextLoad := initialLoad + 1
  log := .empty

/-- Insert an alert under the next number and make it visible. -/
def insertAlert (db : Db) (body : AlertBody) : Db :=
  { db with
    alerts := db.alerts ++ [{ toAlertBody := body, id := db.nextAlertId }]
    nextAlertId := db.nextAlertId + 1 }

section Steps

variable (userId : Uuid)

def backfillPage (db : Db) (afterId : Option ℕ) : List AlertOut :=
  (alertPage db userId ⟨none, afterId, none, none⟩ pageLimit).items

def step (session : AlertSession) : FeedEvent → Option AlertSession
  | .commit body =>
      let alert : AlertRow := { toAlertBody := body, id := session.db.nextAlertId }
      some { session with
        db := insertAlert session.db body
        inbox := if session.live ∧ body.userId = userId then
            session.inbox ++ [.alert alert.out]
          else
            session.inbox }
  | .connect =>
      if session.live = false ∧ initialLoad ∉ session.loads then
        some { session with live := true, inbox := [.hello] }
      else
        none
  | .disconnect =>
      if session.live then some { session with live := false, inbox := [] } else none
  | .handle =>
      match session.inbox with
      | [] => none
      | .hello :: rest =>
          -- only a resumed session reloads
          some { session with
            inbox := rest
            everConnected := true
            loads := if session.everConnected then session.loads.set session.nextLoad .zones
              else session.loads
            nextLoad := session.nextLoad + 1 }
      | .alert alert :: rest =>
          some { session with inbox := rest, log := (session.log.add alert).1 }
  | .proceed load =>
      match session.loads.get? load with
      | some .zones => some { session with loads := session.loads.set load .presence }
      | some .presence =>
          some { session with loads := session.loads.set load (.asking session.log.lastId) }
      | _ => none
  | .answer load =>
      match session.loads.get? load with
      | some (.asking afterId) =>
          some { session with
            loads := session.loads.set load
              (.answered afterId (backfillPage userId session.db afterId)) }
      | _ => none
  | .finish load =>
      match session.loads.get? load with
      | some (.answered _ page) =>
          some { session with
            log := (session.log.addMany page).1
            loads := session.loads.erase load }
      | _ => none

end Steps

/-- Some load has not asked for its page yet. -/
def Waiting (session : AlertSession) : Prop :=
  ∃ load, session.loads.get? load = some .zones ∨ session.loads.get? load = some .presence

/-- The user's alerts fit on one page. -/
def FitsOnePage (userId : Uuid) (session : AlertSession) : FeedEvent → Prop
  | .commit body =>
      body.userId = userId → (idsOf userId session.db.alerts).length < pageLimit
  | _ => True

instance (userId : Uuid) (session : AlertSession) (event : FeedEvent) :
    Decidable (session.FitsOnePage userId event) :=
  match event with
  | .commit _ => inferInstanceAs (Decidable (_ → _))
  | .connect | .disconnect | .handle | .proceed _ | .answer _ | .finish _ => isTrue trivial

/-- A load is asking for the alert or brings it on its page. -/
def Fetching (session : AlertSession) (id : ℕ) : Prop :=
  ∃ entry ∈ session.loads.entries,
    match entry.2 with
    | .asking afterId => Below afterId id
    | .answered _ page => id ∈ page.map AlertOut.id
    | .zones | .presence => False

instance (session : AlertSession) (id : ℕ) : Decidable (session.Fetching id) :=
  @List.decidableBEx _ _ (fun entry =>
    match entry.2 with
    | .asking afterId => inferInstanceAs (Decidable (Below afterId id))
    | .answered _ page => inferInstanceAs (Decidable (id ∈ page.map AlertOut.id))
    | .zones | .presence => instDecidableFalse) session.loads.entries

/-- The steps that leave no alert behind. -/
def NoBlindSpot (userId : Uuid) (session : AlertSession) : FeedEvent → Prop
  | .handle =>
      match session.inbox with
      | [.hello] =>
          -- a first hello starts no load, so nothing was missed before it
          session.everConnected = false → ∀ id ∈ idsOf userId session.db.alerts,
            ¬ Below session.log.lastId id
      | .alert alert :: _ =>
          -- the cursor moves past the alerts below this one
          ∀ id ∈ idsOf userId session.db.alerts, Below session.log.lastId id → id < alert.id →
            session.Fetching id
      | _ => True
  | _ => True

instance (userId : Uuid) (session : AlertSession) (event : FeedEvent) :
    Decidable (session.NoBlindSpot userId event) :=
  match event with
  | .handle =>
      match inbox : session.inbox with
      | [.hello] =>
          decidable_of_iff (session.everConnected = false → ∀ id ∈ idsOf userId session.db.alerts,
            ¬ Below session.log.lastId id) (by rw [NoBlindSpot, inbox])
      | .alert alert :: _ =>
          decidable_of_iff (∀ id ∈ idsOf userId session.db.alerts, Below session.log.lastId id →
            id < alert.id → session.Fetching id) (by rw [NoBlindSpot, inbox])
      | [] | .hello :: _ :: _ => isTrue (by rw [NoBlindSpot, inbox]; trivial)
  | .commit _ | .connect | .disconnect | .proceed _ | .answer _ | .finish _ => isTrue trivial

end AlertSession

theorem below_none (id : ℕ) : Below none id := fun _ impossible => by cases impossible

theorem below_some {last id : ℕ} : Below (some last) id ↔ last < id := by
  simp [Below]

namespace AlertLog

variable {log : AlertLog} {alert : AlertOut}

/-- The set of numbers is the one of the items, and no number occurs twice. -/
structure Consistent (log : AlertLog) : Prop where
  ids : ∀ id, id ∈ log.ids ↔ id ∈ log.items.map AlertOut.id
  distinct : (log.items.map AlertOut.id).Nodup

theorem consistent_empty : Consistent empty where
  ids := fun id => by simp [empty]
  distinct := List.nodup_nil

theorem below_raiseLastId {lastId : Option ℕ} {added id : ℕ} :
    Below (raiseLastId lastId added) id ↔ Below lastId id ∧ added < id := by
  unfold raiseLastId
  split
  case h_1 last =>
      split
      case isTrue higher =>
          simp only [below_some]
          omega
      case isFalse notHigher =>
          simp only [below_some]
          omega
  case h_2 => simp [below_some, below_none]

/-- A new alert, as long as there is room for it. -/
theorem add_new (new : alert.id ∉ log.ids) (room : log.items.length < defaultCapacity) :
    ∃ first second, log.items = first ++ second ∧
      (log.add alert).1 = ⟨first ++ alert :: second, log.ids.add alert.id,
        raiseLastId log.lastId alert.id⟩ := by
  refine ⟨log.items.take (insertionIndex log.items alert.id),
    log.items.drop (insertionIndex log.items alert.id), (List.take_append_drop _ _).symm, ?_⟩
  have length : (log.items.take (insertionIndex log.items alert.id) ++
      alert :: log.items.drop (insertionIndex log.items alert.id)).length =
      log.items.length + 1 := by
    rw [List.length_append, List.length_cons, List.length_take, List.length_drop]
    omega
  have nothingToEvict : log.items.length + 1 - defaultCapacity = 0 := by omega
  rw [add, if_neg new]
  simp only [length, nothingToEvict, Function.iterate_zero, id_eq]

/-- What adding does, as long as there is room. -/
theorem add_spec (consistent : log.Consistent) (room : log.items.length < defaultCapacity) :
    (log.add alert).1.Consistent ∧
      (∀ id, id ∈ (log.add alert).1.items.map AlertOut.id ↔
        id = alert.id ∨ id ∈ log.items.map AlertOut.id) ∧
      (∀ item ∈ (log.add alert).1.items, item = alert ∨ item ∈ log.items) ∧
      (∀ id, Below (log.add alert).1.lastId id → Below log.lastId id) ∧
      ∀ id, Below log.lastId id → alert.id < id → Below (log.add alert).1.lastId id := by
  by_cases held : alert.id ∈ log.ids
  · have unchanged : (log.add alert).1 = log := by rw [add, if_pos held]
    rw [unchanged]
    refine ⟨consistent, fun id => ⟨Or.inr, ?_⟩, fun _ => Or.inr, fun _ below => below,
      fun _ below _ => below⟩
    rintro (rfl | listed)
    · exact (consistent.ids alert.id).mp held
    · exact listed
  · obtain ⟨first, second, split, result⟩ := add_new held room
    have fresh : alert.id ∉ log.items.map AlertOut.id := fun listed =>
      held ((consistent.ids alert.id).mpr listed)
    have ids : ∀ id, id ∈ (first ++ alert :: second).map AlertOut.id ↔
        id = alert.id ∨ id ∈ log.items.map AlertOut.id := by
      intro id
      rw [split]
      simp only [List.map_append, List.map_cons, List.mem_append, List.mem_cons]
      tauto
    rw [result]
    refine ⟨⟨fun id => ?_, ?_⟩, ids, fun item listed => ?_,
      fun id below => (below_raiseLastId.mp below).1,
      fun id below higher => below_raiseLastId.mpr ⟨below, higher⟩⟩
    · rw [KeySet.mem_add, ids, consistent.ids]
    · have moved : ((first ++ alert :: second).map AlertOut.id).Perm
          (alert.id :: log.items.map AlertOut.id) := by
        rw [split]
        exact List.perm_middle.map AlertOut.id
      exact moved.nodup_iff.mpr (List.nodup_cons.mpr ⟨fresh, consistent.distinct⟩)
    · rw [split, List.mem_append]
      rw [List.mem_append, List.mem_cons] at listed
      tauto

theorem addMany_cons (log : AlertLog) (alert : AlertOut) (rest : List AlertOut) :
    (log.addMany (alert :: rest)).1 = ((log.add alert).1.addMany rest).1 := by
  have firstComponent (alerts : List AlertOut) : ∀ log added other,
      (alerts.foldl (fun (state : AlertLog × List AlertOut) alert =>
        ((state.1.add alert).1, if (state.1.add alert).2 then state.2 ++ [alert] else state.2))
        (log, added)).1 =
      (alerts.foldl (fun (state : AlertLog × List AlertOut) alert =>
        ((state.1.add alert).1, if (state.1.add alert).2 then state.2 ++ [alert] else state.2))
        (log, other)).1 := by
    induction alerts with
    | nil => intros; rfl
    | cons _ _ ih => intro log added other; exact ih _ _ _
  exact firstComponent rest _ _ _

/-- What adding a page does, as long as all of it fits. -/
theorem addMany_spec (alerts : List AlertOut) {log : AlertLog} (consistent : log.Consistent)
    {known : List ℕ} (small : known.length < defaultCapacity)
    (logKnown : ∀ id ∈ log.items.map AlertOut.id, id ∈ known)
    (alertsKnown : ∀ alert ∈ alerts, alert.id ∈ known) :
    (log.addMany alerts).1.Consistent ∧
      (∀ id, id ∈ (log.addMany alerts).1.items.map AlertOut.id ↔
        id ∈ alerts.map AlertOut.id ∨ id ∈ log.items.map AlertOut.id) ∧
      (∀ item ∈ (log.addMany alerts).1.items, item ∈ alerts ∨ item ∈ log.items) ∧
      (∀ id, Below (log.addMany alerts).1.lastId id → Below log.lastId id) ∧
      ∀ id, Below log.lastId id → (∀ alert ∈ alerts, alert.id < id) →
        Below (log.addMany alerts).1.lastId id := by
  induction alerts generalizing log with
  | nil => simpa [addMany] using consistent
  | cons alert rest ih =>
      have room : log.items.length < defaultCapacity := by
        have fits := (List.subperm_of_subset consistent.distinct logKnown).length_le
        rw [List.length_map] at fits
        omega
      obtain ⟨nextConsistent, nextIds, nextItems, nextLower, nextUpper⟩ :=
        @add_spec log alert consistent room
      have nextKnown : ∀ id ∈ (log.add alert).1.items.map AlertOut.id, id ∈ known := by
        intro id listed
        rcases (nextIds id).mp listed with rfl | before
        · exact alertsKnown alert (List.mem_cons_self ..)
        · exact logKnown id before
      obtain ⟨lastConsistent, lastIds, lastItems, lastLower, lastUpper⟩ :=
        ih nextConsistent nextKnown fun other listed =>
          alertsKnown other (List.mem_cons_of_mem _ listed)
      rw [addMany_cons]
      refine ⟨lastConsistent, fun id => ?_, fun item listed => ?_,
        fun id below => nextLower id (lastLower id below), fun id below higher => ?_⟩
      · rw [lastIds, nextIds, List.map_cons, List.mem_cons]
        tauto
      · rw [List.mem_cons]
        rcases lastItems item listed with later | before
        · exact Or.inl (Or.inr later)
        · rcases nextItems item before with isNew | held
          · exact Or.inl (Or.inl isNew)
          · exact Or.inr held
      · rw [List.forall_mem_cons] at higher
        exact lastUpper id (nextUpper id below higher.1) higher.2

end AlertLog

/-- The alert is one of the user's rows. -/
def Recorded (userId : Uuid) (db : Db) (item : AlertOut) : Prop :=
  ∃ alert ∈ db.alerts, alert.userId = userId ∧ alert.out = item

theorem Recorded.mem_idsOf {userId : Uuid} {db : Db} {item : AlertOut}
    (recorded : Recorded userId db item) : item.id ∈ idsOf userId db.alerts := by
  obtain ⟨alert, stored, owned, rfl⟩ := recorded
  exact GeoTrack.mem_idsOf.mpr ⟨alert, stored, owned, rfl⟩

namespace AlertSession

section Pages

variable {userId : Uuid} {db : Db} {afterId : Option ℕ}

theorem admits_afterId {alert : AlertRow} :
    AlertFilter.admits ⟨none, afterId, none, none⟩ alert = true ↔ Below afterId alert.id := by
  cases afterId <;> simp [AlertFilter.admits, below_none, below_some]

theorem recorded_of_backfillPage {item : AlertOut} (listed : item ∈ backfillPage userId db afterId) :
    Recorded userId db item := by
  rw [backfillPage, alertPage_items, List.mem_map] at listed
  obtain ⟨alert, onPage, rfl⟩ := listed
  obtain ⟨stored, owned, -⟩ := mem_matchingAlerts.mp (List.mem_of_mem_take onPage)
  exact ⟨alert, stored, owned, rfl⟩

/-- The page holds all alerts after the cursor if the user has no more than a
page of them. -/
theorem mem_backfillPage (fits : (idsOf userId db.alerts).length ≤ pageLimit) {id : ℕ}
    (visible : id ∈ idsOf userId db.alerts) (above : Below afterId id) :
    id ∈ (backfillPage userId db afterId).map AlertOut.id := by
  obtain ⟨alert, stored, owned, rfl⟩ := mem_idsOf.mp visible
  have small : (matchingAlerts db userId ⟨none, afterId, none, none⟩).length ≤ pageLimit := by
    rw [matchingAlerts, List.length_insertionSort]
    refine le_trans ?_ fits
    rw [idsOf, List.length_map]
    apply List.Sublist.length_le
    apply List.monotone_filter_right
    intro other
    simp only [Bool.and_eq_true]
    exact fun both => both.1
  rw [backfillPage, alertPage_items, List.take_of_length_le small, List.map_map]
  exact List.mem_map_of_mem (mem_matchingAlerts.mpr ⟨stored, owned, admits_afterId.mpr above⟩)

end Pages

section Invariant

variable {userId : Uuid} {session after : AlertSession}

/-- The alert will still be delivered or asked for, or something newer waits that
cannot be handled before. -/
def Expected (session : AlertSession) (id : ℕ) : Prop :=
  (∃ other ∈ session.inbox.filterMap SocketFrame.alertId, id ≤ other) ∨ session.Waiting ∨
    .hello ∈ session.inbox ∨ session.live = false

/-- The alert is in the log, on its way in a page, or still above the cursor
and expected. -/
def Covered (session : AlertSession) (id : ℕ) : Prop :=
  id ∈ session.log.items.map AlertOut.id ∨
    (∃ load afterId, session.loads.get? load = some (.asking afterId) ∧ Below afterId id) ∨
    (∃ load afterId page, session.loads.get? load = some (.answered afterId page) ∧
      id ∈ page.map AlertOut.id) ∨
    Below session.log.lastId id ∧ session.Expected id

theorem covered_of_held {id : ℕ} (held : id ∈ session.log.items.map AlertOut.id) :
    session.Covered id :=
  Or.inl held

theorem covered_of_asking {id load : ℕ} {afterId : Option ℕ}
    (found : session.loads.get? load = some (.asking afterId)) (above : Below afterId id) :
    session.Covered id :=
  Or.inr (Or.inl ⟨load, afterId, found, above⟩)

theorem covered_of_page {id load : ℕ} {afterId : Option ℕ} {page : List AlertOut}
    (found : session.loads.get? load = some (.answered afterId page))
    (onPage : id ∈ page.map AlertOut.id) : session.Covered id :=
  Or.inr (Or.inr (Or.inl ⟨load, afterId, page, found, onPage⟩))

theorem covered_of_fetching {id : ℕ} (fetching : session.Fetching id) : session.Covered id := by
  obtain ⟨⟨load, stage⟩, listed, brings⟩ := fetching
  have found := Dict.mem_entries_iff.mp listed
  cases stage with
  | zones => cases brings
  | presence => cases brings
  | asking afterId => exact covered_of_asking found brings
  | answered afterId page => exact covered_of_page found brings

theorem covered_of_expected {id : ℕ} (above : Below session.log.lastId id)
    (expected : session.Expected id) : session.Covered id :=
  Or.inr (Or.inr (Or.inr ⟨above, expected⟩))

theorem expected_of_inbox {id other : ℕ} (notAbove : id ≤ other)
    (pushed : other ∈ session.inbox.filterMap SocketFrame.alertId) : session.Expected id :=
  Or.inl ⟨other, pushed, notAbove⟩

theorem expected_of_waiting {id : ℕ} (waiting : session.Waiting) : session.Expected id :=
  Or.inr (Or.inl waiting)

theorem expected_of_reconnect {id : ℕ}
    (reconnects : .hello ∈ session.inbox ∨ session.live = false) : session.Expected id :=
  Or.inr (Or.inr reconnects)

/-- Nothing covered is lost while the log stays as it is and every load goes on. -/
theorem Covered.keep {id : ℕ} (covered : session.Covered id) (sameLog : after.log = session.log)
    (kept : ∀ load stage, session.loads.get? load = some stage →
      after.loads.get? load = some stage)
    (expects : session.Expected id → after.Expected id) : after.Covered id := by
  rcases covered with held | ⟨load, afterId, found, above⟩ |
    ⟨load, afterId, page, found, onPage⟩ | ⟨above, expected⟩
  · exact covered_of_held (sameLog ▸ held)
  · exact covered_of_asking (kept load _ found) above
  · exact covered_of_page (kept load _ found) onPage
  · exact covered_of_expected (sameLog ▸ above) (expects expected)

structure Tracked (userId : Uuid) (session : AlertSession) : Prop where
  increasing : (session.db.alerts.map AlertRow.id).Pairwise (· < ·)
  drawn : ∀ id ∈ session.db.alerts.map AlertRow.id, id < session.db.nextAlertId
  fits : (idsOf userId session.db.alerts).length ≤ pageLimit
  log : session.log.Consistent
  logRecorded : ∀ item ∈ session.log.items, Recorded userId session.db item
  lastDrawn : Below session.log.lastId session.db.nextAlertId
  inboxRecorded : ∀ item, .alert item ∈ session.inbox → Recorded userId session.db item
  inboxOrder : (session.inbox.filterMap SocketFrame.alertId).Pairwise (· < ·)
  /-- A live socket is pushed everything that is committed. -/
  inboxWhole : ∀ pushed ∈ session.inbox.filterMap SocketFrame.alertId,
    ∀ id ∈ idsOf userId session.db.alerts, pushed < id →
      id ∈ session.inbox.filterMap SocketFrame.alertId
  helloFirst : .hello ∉ session.inbox.tail
  quiet : session.live = false → session.inbox = []
  loadIds : ∀ load, load ∈ session.loads → load < session.nextLoad
  asking : ∀ load afterId, session.loads.get? load = some (.asking afterId) →
    ∀ id, Below session.log.lastId id → Below afterId id
  /-- An alert is on an answered page, below its cursor, or came later. -/
  answered : ∀ load afterId page, session.loads.get? load = some (.answered afterId page) →
    (∀ id, Below session.log.lastId id → Below afterId id) ∧
    (∀ item ∈ page, Recorded userId session.db item) ∧
    ∀ id ∈ idsOf userId session.db.alerts, id ∈ page.map AlertOut.id ∨ ¬ Below afterId id ∨
      ∀ item ∈ page, item.id < id
  covered : ∀ id ∈ idsOf userId session.db.alerts, session.Covered id

theorem tracked_start (userId : Uuid) (users : KeySet Uuid) :
    Tracked userId (start (Db.fresh users)) := by
  have onlyZones : ∀ load stage, (start (Db.fresh users)).loads.get? load = some stage →
      load = initialLoad ∧ stage = .zones := by
    intro load stage found
    change (Dict.set ∅ initialLoad LoadStage.zones).get? load = some stage at found
    rw [Dict.get?_set] at found
    split at found
    case isTrue same => exact ⟨same, (Option.some.inj found).symm⟩
    case isFalse => cases found
  refine ⟨List.Pairwise.nil, by simp [start, Db.fresh], by simp [start, Db.fresh, idsOf],
    AlertLog.consistent_empty, by simp [start, AlertLog.empty], below_none _, by simp [start],
    List.Pairwise.nil, by simp [start], by simp [start], fun _ => rfl, ?_, ?_, ?_,
    by simp [start, Db.fresh, idsOf]⟩
  · intro load listed
    obtain ⟨stage, found⟩ := Dict.mem_iff_exists.mp listed
    rw [(onlyZones load stage found).1]
    exact Nat.lt_succ_self _
  · intro load afterId found
    cases (onlyZones load _ found).2
  · intro load afterId page found
    cases (onlyZones load _ found).2

/-- The room the log needs for any alert of the user. -/
theorem Tracked.known (tracked : Tracked userId session) :
    (idsOf userId session.db.alerts).length < AlertLog.defaultCapacity ∧
      ∀ id ∈ session.log.items.map AlertOut.id, id ∈ idsOf userId session.db.alerts := by
  constructor
  · have fits := tracked.fits
    simp only [pageLimit] at fits
    simp only [AlertLog.defaultCapacity]
    omega
  · intro id listed
    obtain ⟨item, held, rfl⟩ := List.mem_map.mp listed
    exact (tracked.logRecorded item held).mem_idsOf

theorem Tracked.room (tracked : Tracked userId session) :
    session.log.items.length < AlertLog.defaultCapacity := by
  obtain ⟨small, known⟩ := tracked.known
  have fits := (List.subperm_of_subset tracked.log.distinct known).length_le
  rw [List.length_map] at fits
  omega

theorem Tracked.live_of_frame (tracked : Tracked userId session) {frame : SocketFrame}
    {rest : List SocketFrame} (inbox : session.inbox = frame :: rest) : session.live = true := by
  by_contra notLive
  have nothing := tracked.quiet (by simpa using notLive)
  rw [inbox] at nothing
  cases nothing

theorem Tracked.recorded_drawn (tracked : Tracked userId session) {item : AlertOut}
    (recorded : Recorded userId session.db item) : item.id < session.db.nextAlertId :=
  tracked.drawn _ (idsOf_subset recorded.mem_idsOf)

theorem Tracked.inbox_drawn (tracked : Tracked userId session) {id : ℕ}
    (listed : id ∈ session.inbox.filterMap SocketFrame.alertId) : id < session.db.nextAlertId := by
  obtain ⟨frame, inInbox, isAlert⟩ := List.mem_filterMap.mp listed
  cases frame with
  | hello => cases isAlert
  | alert item =>
      obtain rfl := Option.some.inj isAlert
      exact tracked.recorded_drawn (tracked.inboxRecorded item inInbox)

theorem filterMap_alert (item : AlertOut) (rest : List SocketFrame) :
    (SocketFrame.alert item :: rest).filterMap SocketFrame.alertId =
      item.id :: rest.filterMap SocketFrame.alertId := rfl

/-- The frames behind the one that is handled. -/
theorem Tracked.behind (tracked : Tracked userId session) {frame : SocketFrame}
    {rest : List SocketFrame} (inbox : session.inbox = frame :: rest) :
    (∀ item, .alert item ∈ rest → Recorded userId session.db item) ∧
      (rest.filterMap SocketFrame.alertId).Pairwise (· < ·) ∧
      (∀ pushed ∈ rest.filterMap SocketFrame.alertId,
        ∀ id ∈ idsOf userId session.db.alerts, pushed < id →
          id ∈ rest.filterMap SocketFrame.alertId) ∧
      .hello ∉ rest ∧ session.live ≠ false := by
  refine ⟨fun item listed => tracked.inboxRecorded item (by simp [inbox, listed]), ?_, ?_, ?_, ?_⟩
  · apply List.Pairwise.sublist _ tracked.inboxOrder
    rw [inbox]
    exact (List.sublist_cons_self frame rest).filterMap _
  · intro other listed id visible above
    have order := tracked.inboxOrder
    have whole := tracked.inboxWhole other
    cases frame with
    | hello =>
        rw [inbox, List.filterMap_cons_none rfl] at whole
        exact whole listed id visible above
    | alert item =>
        rw [inbox, filterMap_alert] at order whole
        rcases List.mem_cons.mp (whole (List.mem_cons_of_mem _ listed) id visible above) with
          rfl | later
        · exact absurd ((List.pairwise_cons.mp order).1 other listed) (by omega)
        · exact later
  · have noHello := tracked.helloFirst
    rwa [inbox, List.tail_cons] at noHello
  · simp [tracked.live_of_frame inbox]

theorem recorded_insertAlert {db : Db} {item : AlertOut} (body : AlertBody)
    (recorded : Recorded userId db item) : Recorded userId (insertAlert db body) item := by
  obtain ⟨alert, stored, owned, shown⟩ := recorded
  exact ⟨alert, List.mem_append_left _ stored, owned, shown⟩

theorem idsOf_insertAlert (userId : Uuid) (db : Db) (body : AlertBody) :
    idsOf userId (insertAlert db body).alerts =
      idsOf userId db.alerts ++ if body.userId = userId then [db.nextAlertId] else [] := by
  rw [AlertSession.insertAlert, idsOf_append]
  by_cases owned : body.userId = userId <;> simp [idsOf, owned]

/-- A new alert is pushed to the live socket, or the next one brings it. -/
theorem covered_of_commit (tracked : Tracked userId session) {body : AlertBody}
    {inbox : List SocketFrame}
    (pushed : session.live = true → session.db.nextAlertId ∈ inbox.filterMap SocketFrame.alertId) :
    Covered { session with db := insertAlert session.db body, inbox := inbox }
      session.db.nextAlertId := by
  refine covered_of_expected tracked.lastDrawn ?_
  by_cases live : session.live = true
  · exact expected_of_inbox le_rfl (pushed live)
  · exact expected_of_reconnect (Or.inr (by simpa using live))

/-- A commit pushes the alert to the user's live socket. -/
theorem commit_cases {body : AlertBody}
    (stepTo : session.step userId (.commit body) = some after) :
    ∃ inbox, after = { session with db := insertAlert session.db body, inbox := inbox } ∧
      (session.live = true ∧ body.userId = userId ∧ inbox = session.inbox ++
          [.alert (AlertRow.out { toAlertBody := body, id := session.db.nextAlertId })] ∨
        ¬ (session.live = true ∧ body.userId = userId) ∧ inbox = session.inbox) := by
  obtain rfl := Option.some.inj stepTo
  refine ⟨_, rfl, ?_⟩
  split
  case isTrue pushed => exact Or.inl ⟨pushed.1, pushed.2, rfl⟩
  case isFalse notPushed => exact Or.inr ⟨notPushed, rfl⟩

/-- The frames of a socket to which a new alert was pushed. -/
theorem Tracked.push (tracked : Tracked userId session) {body : AlertBody}
    (owned : body.userId = userId) {inbox : List SocketFrame}
    (pushed : inbox = session.inbox ++
      [.alert (AlertRow.out { toAlertBody := body, id := session.db.nextAlertId })]) :
    (∀ item, .alert item ∈ inbox → Recorded userId (insertAlert session.db body) item) ∧
      (inbox.filterMap SocketFrame.alertId).Pairwise (· < ·) ∧ .hello ∉ inbox.tail := by
  subst pushed
  refine ⟨?_, ?_, ?_⟩
  · intro item listed
    rw [List.mem_append, List.mem_singleton] at listed
    rcases listed with before | isNew
    · exact recorded_insertAlert body (tracked.inboxRecorded item before)
    · obtain rfl := SocketFrame.alert.inj isNew
      exact ⟨_, List.mem_append_right _ (List.mem_singleton_self _), owned, rfl⟩
  · rw [List.filterMap_append, List.pairwise_append]
    refine ⟨tracked.inboxOrder, List.pairwise_singleton _ _, fun id listed other isNew => ?_⟩
    have isLast : other = session.db.nextAlertId := by
      simpa [SocketFrame.alertId, AlertRow.out] using isNew
    rw [isLast]
    exact tracked.inbox_drawn listed
  · intro listed
    have first := tracked.helloFirst
    cases inbox : session.inbox with
    | nil => simp [inbox] at listed
    | cons frame rest =>
        rw [inbox] at listed first
        simp only [List.cons_append, List.tail_cons, List.mem_append, List.mem_singleton,
          reduceCtorEq, or_false] at listed first
        exact first listed

/-- What was covered before a commit stays so, and what it adds is. -/
theorem Tracked.covered_commit (tracked : Tracked userId session) {body : AlertBody}
    {inbox : List SocketFrame} (grows : session.inbox ⊆ inbox)
    (pushed : body.userId = userId → session.live = true →
      session.db.nextAlertId ∈ inbox.filterMap SocketFrame.alertId) :
    ∀ id ∈ idsOf userId (insertAlert session.db body).alerts,
      Covered { session with db := insertAlert session.db body, inbox := inbox } id := by
  intro id listed
  rw [idsOf_insertAlert, List.mem_append] at listed
  rcases listed with before | isNew
  · refine (tracked.covered id before).keep rfl (fun _ _ found => found) fun expected => ?_
    rcases expected with ⟨other, inInbox, notAbove⟩ | waiting | greeting | down
    · exact expected_of_inbox notAbove (List.filterMap_subset _ grows inInbox)
    · exact expected_of_waiting waiting
    · exact expected_of_reconnect (Or.inl (grows greeting))
    · exact expected_of_reconnect (Or.inr down)
  · split at isNew
    case isFalse => cases isNew
    case isTrue owned =>
        rw [List.mem_singleton.mp isNew]
        exact covered_of_commit tracked (pushed owned)

theorem Tracked.commit (tracked : Tracked userId session) {body : AlertBody}
    (fitting : session.FitsOnePage userId (.commit body))
    (stepTo : session.step userId (.commit body) = some after) : Tracked userId after := by
  obtain ⟨inbox, rfl, frames⟩ := commit_cases stepTo
  obtain ⟨recorded, order, helloFirst⟩ :
      (∀ item, .alert item ∈ inbox → Recorded userId (insertAlert session.db body) item) ∧
        (inbox.filterMap SocketFrame.alertId).Pairwise (· < ·) ∧ .hello ∉ inbox.tail := by
    rcases frames with ⟨-, owned, pushed⟩ | ⟨-, rfl⟩
    · exact tracked.push owned pushed
    · exact ⟨fun item listed => recorded_insertAlert body (tracked.inboxRecorded item listed),
        tracked.inboxOrder, tracked.helloFirst⟩
  have ids : (insertAlert session.db body).alerts.map AlertRow.id =
      session.db.alerts.map AlertRow.id ++ [session.db.nextAlertId] := by
    simp [AlertSession.insertAlert]
  exact { tracked with
    increasing := by
      rw [ids, List.pairwise_append]
      refine ⟨tracked.increasing, List.pairwise_singleton _ _, fun id listed other isNew => ?_⟩
      rw [List.mem_singleton.mp isNew]
      exact tracked.drawn id listed
    drawn := by
      intro id listed
      rw [ids, List.mem_append, List.mem_singleton] at listed
      change id < session.db.nextAlertId + 1
      rcases listed with before | rfl
      · exact Nat.lt_succ_of_lt (tracked.drawn id before)
      · exact Nat.lt_succ_self _
    fits := by
      rw [idsOf_insertAlert]
      have bound := tracked.fits
      by_cases owned : body.userId = userId
      · have space := fitting owned
        simp only [owned, if_true, List.length_append, List.length_singleton]
        omega
      · simpa [owned] using bound
    logRecorded := fun item held => recorded_insertAlert body (tracked.logRecorded item held)
    lastDrawn := fun last isLast => Nat.lt_succ_of_lt (tracked.lastDrawn last isLast)
    inboxRecorded := recorded
    inboxOrder := order
    inboxWhole := by
      intro other listed id visible above
      rw [idsOf_insertAlert, List.mem_append] at visible
      rcases frames with ⟨-, owned, rfl⟩ | ⟨notPushed, rfl⟩
      · rw [List.filterMap_append, List.mem_append] at listed ⊢
        rcases visible with before | isNew
        · rcases listed with earlier | isLast
          · exact Or.inl (tracked.inboxWhole other earlier id before above)
          · obtain rfl : other = session.db.nextAlertId := by
              simpa [SocketFrame.alertId, AlertRow.out] using isLast
            exact absurd (tracked.drawn id (idsOf_subset before)) (by omega)
        · rw [if_pos owned, List.mem_singleton] at isNew
          exact Or.inr (by simp [isNew, SocketFrame.alertId, AlertRow.out])
      · rcases visible with before | isNew
        · exact tracked.inboxWhole other listed id before above
        · -- a frame in the inbox means that the socket is up
          by_cases live : session.live = true
          · rw [if_neg fun owned => notPushed ⟨live, owned⟩] at isNew
            cases isNew
          · rw [tracked.quiet (by simpa using live)] at listed
            cases listed
    helloFirst := helloFirst
    quiet := by
      intro down
      rcases frames with ⟨live, -⟩ | ⟨-, same⟩
      · exact absurd (live.symm.trans down) (by simp)
      · exact same.trans (tracked.quiet down)
    answered := by
      intro load afterId page found
      obtain ⟨cursor, pageRecorded, complete⟩ := tracked.answered load afterId page found
      refine ⟨cursor, fun item listed => recorded_insertAlert body (pageRecorded item listed), ?_⟩
      intro id listed
      rw [idsOf_insertAlert, List.mem_append] at listed
      rcases listed with before | isNew
      · exact complete id before
      · refine Or.inr (Or.inr fun item onPage => ?_)
        split at isNew
        case isTrue =>
            rw [List.mem_singleton.mp isNew]
            exact tracked.recorded_drawn (pageRecorded item onPage)
        case isFalse => cases isNew
    covered := by
      apply tracked.covered_commit
      · rcases frames with ⟨-, -, rfl⟩ | ⟨-, rfl⟩
        · exact List.subset_append_left _ _
        · exact List.Subset.refl _
      · intro owned live
        rcases frames with ⟨-, -, rfl⟩ | ⟨notPushed, -⟩
        · simp [SocketFrame.alertId, AlertRow.out]
        · exact absurd ⟨live, owned⟩ notPushed }

theorem Tracked.connect (tracked : Tracked userId session)
    (stepTo : session.step userId .connect = some after) : Tracked userId after := by
  simp only [step] at stepTo
  split at stepTo
  case isFalse => cases stepTo
  case isTrue =>
      obtain rfl := Option.some.inj stepTo
      exact { tracked with
        inboxRecorded := by simp
        inboxOrder := List.Pairwise.nil
        inboxWhole := by simp [SocketFrame.alertId]
        helloFirst := by simp
        quiet := by simp
        covered := by
          intro id listed
          refine (tracked.covered id listed).keep rfl (fun _ _ found => found) fun expected => ?_
          exact expected_of_reconnect (Or.inl (List.mem_singleton_self _)) }

theorem Tracked.disconnect (tracked : Tracked userId session)
    (stepTo : session.step userId .disconnect = some after) : Tracked userId after := by
  simp only [step] at stepTo
  split at stepTo
  case isFalse => cases stepTo
  case isTrue =>
      obtain rfl := Option.some.inj stepTo
      exact { tracked with
        inboxRecorded := by simp
        inboxOrder := List.Pairwise.nil
        inboxWhole := by simp [SocketFrame.alertId]
        helloFirst := by simp
        quiet := fun _ => rfl
        covered := by
          intro id listed
          refine (tracked.covered id listed).keep rfl (fun _ _ found => found) fun expected => ?_
          -- the frames are lost; the next hello will be a resumed one
          exact expected_of_reconnect (Or.inr rfl) }

/-- What is above the cursor when the first hello is handled is in a frame behind
it, or below one. -/
theorem Tracked.behindFirst (tracked : Tracked userId session) {rest : List SocketFrame}
    (inbox : session.inbox = .hello :: rest) (seen : session.NoBlindSpot userId .handle)
    (first : session.everConnected = false) {id : ℕ}
    (visible : id ∈ idsOf userId session.db.alerts) (above : Below session.log.lastId id) :
    ∃ other ∈ rest.filterMap SocketFrame.alertId, id ≤ other := by
  obtain ⟨-, -, whole, noHello, -⟩ := tracked.behind inbox
  cases rest with
  | nil =>
      rw [NoBlindSpot, inbox] at seen
      exact absurd above (seen first id visible)
  | cons frame later =>
      cases frame with
      | hello => exact absurd (List.mem_cons_self ..) noHello
      | alert item =>
          have pushed : item.id ∈ (SocketFrame.alert item :: later).filterMap
              SocketFrame.alertId := by
            simp [SocketFrame.alertId]
          rcases le_or_gt id item.id with notAbove | higher
          · exact ⟨item.id, pushed, notAbove⟩
          · exact ⟨id, whole item.id pushed id visible higher, le_rfl⟩

/-- The hello of a resumed session starts a load. -/
theorem Tracked.hello (tracked : Tracked userId session) {rest : List SocketFrame}
    (inbox : session.inbox = .hello :: rest) (seen : session.NoBlindSpot userId .handle) :
    Tracked userId { session with
      inbox := rest
      everConnected := true
      loads := if session.everConnected then session.loads.set session.nextLoad .zones
        else session.loads
      nextLoad := session.nextLoad + 1 } := by
  have unused : session.loads.get? session.nextLoad = none := by
    cases found : session.loads.get? session.nextLoad with
    | none => rfl
    | some stage =>
        exact absurd (tracked.loadIds _ (Dict.mem_iff_exists.mpr ⟨stage, found⟩)) (lt_irrefl _)
  have stages : ∀ load stage, (if session.everConnected then
      session.loads.set session.nextLoad .zones else session.loads).get? load = some stage →
      stage = .zones ∧ load = session.nextLoad ∨ session.loads.get? load = some stage := by
    intro load stage found
    split at found
    case isTrue =>
        rw [Dict.get?_set] at found
        split at found
        case isTrue same => exact Or.inl ⟨(Option.some.inj found).symm, same⟩
        case isFalse => exact Or.inr found
    case isFalse => exact Or.inr found
  have keeps : ∀ load stage, session.loads.get? load = some stage →
      (if session.everConnected then session.loads.set session.nextLoad .zones
        else session.loads).get? load = some stage := by
    intro load stage found
    split
    case isTrue =>
        rw [Dict.get?_set, if_neg]
        · exact found
        · rintro rfl
          rw [unused] at found
          cases found
    case isFalse => exact found
  obtain ⟨recorded, order, whole, noHello, live⟩ := tracked.behind inbox
  exact { tracked with
    inboxRecorded := recorded
    inboxOrder := order
    inboxWhole := whole
    helloFirst := fun listed => noHello (List.mem_of_mem_tail listed)
    quiet := fun down => absurd down live
    loadIds := by
      intro load listed
      obtain ⟨stage, found⟩ := Dict.mem_iff_exists.mp listed
      rcases stages load stage found with ⟨-, rfl⟩ | before
      · exact Nat.lt_succ_self _
      · exact Nat.lt_succ_of_lt (tracked.loadIds load (Dict.mem_iff_exists.mpr ⟨stage, before⟩))
    asking := by
      intro load afterId found
      rcases stages load _ found with ⟨impossible, -⟩ | before
      · cases impossible
      · exact tracked.asking load afterId before
    answered := by
      intro load afterId page found
      rcases stages load _ found with ⟨impossible, -⟩ | before
      · cases impossible
      · exact tracked.answered load afterId page before
    covered := by
      intro id listed
      rcases tracked.covered id listed with held | ⟨load, afterId, found, above⟩ |
        ⟨load, afterId, page, found, onPage⟩ | ⟨above, -⟩
      · exact covered_of_held held
      · exact covered_of_asking (keeps load _ found) above
      · exact covered_of_page (keeps load _ found) onPage
      · refine covered_of_expected above ?_
        by_cases everConnected : session.everConnected = true
        · refine expected_of_waiting ⟨session.nextLoad, Or.inl ?_⟩
          simp [everConnected]
        · obtain ⟨other, inRest, notAbove⟩ :=
            tracked.behindFirst inbox seen (by simpa using everConnected) listed above
          exact expected_of_inbox notAbove inRest }

/-- A live alert enters the log; what is missing below it is being asked for. -/
theorem Tracked.alert (tracked : Tracked userId session) {item : AlertOut}
    {rest : List SocketFrame} (inbox : session.inbox = .alert item :: rest)
    (seen : session.NoBlindSpot userId .handle) :
    Tracked userId { session with inbox := rest, log := (session.log.add item).1 } := by
  obtain ⟨consistent, ids, items, lower, upper⟩ :=
    @AlertLog.add_spec session.log item tracked.log tracked.room
  have recorded : Recorded userId session.db item := tracked.inboxRecorded item (by simp [inbox])
  obtain ⟨laterRecorded, laterOrder, whole, noHello, live⟩ := tracked.behind inbox
  exact { tracked with
    log := consistent
    logRecorded := by
      intro other held
      rcases items other held with rfl | before
      · exact recorded
      · exact tracked.logRecorded other before
    lastDrawn := upper _ tracked.lastDrawn (tracked.recorded_drawn recorded)
    inboxRecorded := laterRecorded
    inboxOrder := laterOrder
    inboxWhole := whole
    helloFirst := fun listed => noHello (List.mem_of_mem_tail listed)
    quiet := fun down => absurd down live
    asking := fun load afterId found id below =>
      tracked.asking load afterId found id (lower id below)
    answered := by
      intro load afterId page found
      obtain ⟨cursor, pageRecorded, complete⟩ := tracked.answered load afterId page found
      exact ⟨fun id below => cursor id (lower id below), pageRecorded, complete⟩
    covered := by
      intro id listed
      rcases tracked.covered id listed with held | ⟨_, _, asked, below⟩ | ⟨_, _, _, paged, onPage⟩ |
        ⟨above, -⟩
      · exact covered_of_held ((ids id).mpr (Or.inr held))
      · exact covered_of_asking asked below
      · exact covered_of_page paged onPage
      · rcases lt_trichotomy id item.id with earlier | rfl | later
        · rw [NoBlindSpot, inbox] at seen
          exact covered_of_fetching (seen id listed above earlier)
        · exact covered_of_held ((ids _).mpr (Or.inl rfl))
        · refine covered_of_expected (upper id above later) (expected_of_inbox le_rfl ?_)
          have inInbox := tracked.inboxWhole item.id
          rw [inbox, filterMap_alert] at inInbox
          rcases List.mem_cons.mp (inInbox (List.mem_cons_self ..) id listed later) with
            same | behind
          · exact absurd same (ne_of_gt later)
          · exact behind }

/-- A load moves on to its next call. -/
theorem Tracked.moveLoad (tracked : Tracked userId session) {load : ℕ} {old new : LoadStage}
    (found : session.loads.get? load = some old)
    (asks : ∀ afterId, new = .asking afterId →
      ∀ id, Below session.log.lastId id → Below afterId id)
    (answers : ∀ afterId page, new = .answered afterId page →
      (∀ id, Below session.log.lastId id → Below afterId id) ∧
      (∀ item ∈ page, Recorded userId session.db item) ∧
      ∀ id ∈ idsOf userId session.db.alerts, id ∈ page.map AlertOut.id ∨ ¬ Below afterId id ∨
        ∀ item ∈ page, item.id < id)
    (covers : ∀ id ∈ idsOf userId session.db.alerts,
      (∀ afterId, old = .asking afterId → Below afterId id →
        Covered { session with loads := session.loads.set load new } id) ∧
      (∀ afterId page, old = .answered afterId page → id ∈ page.map AlertOut.id →
        Covered { session with loads := session.loads.set load new } id) ∧
      (old = .zones ∨ old = .presence → Below session.log.lastId id →
        Covered { session with loads := session.loads.set load new } id)) :
    Tracked userId { session with loads := session.loads.set load new } := by
  have stages : ∀ other stage, (session.loads.set load new).get? other = some stage →
      stage = new ∨ session.loads.get? other = some stage := by
    intro other stage moved
    exact (Dict.get?_set_cases moved).imp And.right And.right
  have keeps : ∀ other stage, session.loads.get? other = some stage →
      stage = old ∨ (session.loads.set load new).get? other = some stage := by
    intro other stage before
    by_cases same : other = load
    · rw [same, found] at before
      exact Or.inl (Option.some.inj before).symm
    · rw [Dict.get?_set, if_neg same]
      exact Or.inr before
  exact { tracked with
    loadIds := by
      intro other listed
      rw [Dict.mem_set] at listed
      rcases listed with rfl | before
      · exact tracked.loadIds _ (Dict.mem_iff_exists.mpr ⟨old, found⟩)
      · exact tracked.loadIds other before
    asking := by
      intro other afterId moved
      rcases stages other _ moved with isNew | before
      · exact asks afterId isNew.symm
      · exact tracked.asking other afterId before
    answered := by
      intro other afterId page moved
      rcases stages other _ moved with isNew | before
      · exact answers afterId page isNew.symm
      · exact tracked.answered other afterId page before
    covered := by
      intro id listed
      obtain ⟨ifAsking, ifAnswered, ifWaiting⟩ := covers id listed
      rcases tracked.covered id listed with held | ⟨other, afterId, before, above⟩ |
        ⟨other, afterId, page, before, onPage⟩ | ⟨above, expected⟩
      · exact covered_of_held held
      · rcases keeps other _ before with wasOld | still
        · exact ifAsking afterId wasOld.symm above
        · exact covered_of_asking still above
      · rcases keeps other _ before with wasOld | still
        · exact ifAnswered afterId page wasOld.symm onPage
        · exact covered_of_page still onPage
      · rcases expected with ⟨pushed, inInbox, notAbove⟩ | ⟨other, before⟩ | reconnects
        · exact covered_of_expected above (expected_of_inbox notAbove inInbox)
        · rcases before with before | before
          · rcases keeps other _ before with wasOld | still
            · exact ifWaiting (Or.inl wasOld.symm) above
            · exact covered_of_expected above (expected_of_waiting ⟨other, Or.inl still⟩)
          · rcases keeps other _ before with wasOld | still
            · exact ifWaiting (Or.inr wasOld.symm) above
            · exact covered_of_expected above (expected_of_waiting ⟨other, Or.inr still⟩)
        · exact covered_of_expected above (expected_of_reconnect reconnects) }

theorem Tracked.proceed (tracked : Tracked userId session) {load : ℕ}
    (stepTo : session.step userId (.proceed load) = some after) : Tracked userId after := by
  simp only [step] at stepTo
  split at stepTo
  case h_1 found =>
      obtain rfl := Option.some.inj stepTo
      refine tracked.moveLoad found nofun nofun fun id listed => ⟨nofun, nofun, fun _ above => ?_⟩
      exact covered_of_expected above (expected_of_waiting ⟨load, Or.inr (by simp)⟩)
  case h_2 found =>
      obtain rfl := Option.some.inj stepTo
      refine tracked.moveLoad found ?_ nofun fun id listed => ⟨nofun, nofun, fun _ above => ?_⟩
      · rintro afterId same id below
        obtain rfl := LoadStage.asking.inj same
        exact below
      · have asks := session.loads.get?_set load load (.asking session.log.lastId)
        rw [if_pos rfl] at asks
        exact covered_of_asking asks above
  case h_3 => cases stepTo

theorem Tracked.answer (tracked : Tracked userId session) {load : ℕ}
    (stepTo : session.step userId (.answer load) = some after) : Tracked userId after := by
  simp only [step] at stepTo
  split at stepTo
  case h_1 cursor found =>
      obtain rfl := Option.some.inj stepTo
      refine tracked.moveLoad found nofun ?_ fun id listed =>
        ⟨fun afterId same above => ?_, nofun, ?_⟩
      · rintro afterId page same
        obtain ⟨rfl, rfl⟩ := LoadStage.answered.inj same
        refine ⟨tracked.asking load cursor found, fun item => recorded_of_backfillPage, ?_⟩
        intro id listed
        by_cases above : Below cursor id
        · exact Or.inl (mem_backfillPage tracked.fits listed above)
        · exact Or.inr (Or.inl above)
      · obtain rfl := LoadStage.asking.inj same
        have answers := session.loads.get?_set load load
          (.answered cursor (backfillPage userId session.db cursor))
        rw [if_pos rfl] at answers
        exact covered_of_page answers (mem_backfillPage tracked.fits listed above)
      · rintro (impossible | impossible) <;> cases impossible
  case h_2 => cases stepTo

/-- The page enters the log; what is not on it came after it was answered. -/
theorem Tracked.finish (tracked : Tracked userId session) {load : ℕ}
    (stepTo : session.step userId (.finish load) = some after) : Tracked userId after := by
  simp only [step] at stepTo
  split at stepTo
  case h_2 => cases stepTo
  case h_1 cursor page found =>
      obtain rfl := Option.some.inj stepTo
      obtain ⟨cursorBelow, pageRecorded, complete⟩ := tracked.answered load cursor page found
      obtain ⟨small, known⟩ := tracked.known
      obtain ⟨consistent, ids, items, lower, upper⟩ := AlertLog.addMany_spec page tracked.log small
        known fun item listed => (pageRecorded item listed).mem_idsOf
      have earlier : ∀ other stage, (session.loads.erase load).get? other = some stage →
          session.loads.get? other = some stage := by
        intro other stage still
        exact (Dict.of_get?_erase still).2
      have keeps : ∀ other stage, session.loads.get? other = some stage →
          stage = .answered cursor page ∨ (session.loads.erase load).get? other = some stage := by
        intro other stage before
        by_cases same : other = load
        · rw [same, found] at before
          exact Or.inl (Option.some.inj before).symm
        · rw [Dict.get?_erase, if_neg same]
          exact Or.inr before
      exact { tracked with
        log := consistent
        logRecorded := by
          intro item held
          rcases items item held with onPage | before
          · exact pageRecorded item onPage
          · exact tracked.logRecorded item before
        lastDrawn := upper _ tracked.lastDrawn fun item onPage =>
          tracked.recorded_drawn (pageRecorded item onPage)
        loadIds := by
          intro other listed
          obtain ⟨stage, still⟩ := Dict.mem_iff_exists.mp listed
          exact tracked.loadIds other (Dict.mem_iff_exists.mpr ⟨stage, earlier other stage still⟩)
        asking := fun other afterId still id below =>
          tracked.asking other afterId (earlier other _ still) id (lower id below)
        answered := by
          intro other afterId otherPage still
          obtain ⟨otherCursor, otherRecorded, otherComplete⟩ :=
            tracked.answered other afterId otherPage (earlier other _ still)
          exact ⟨fun id below => otherCursor id (lower id below), otherRecorded, otherComplete⟩
        covered := by
          intro id listed
          by_cases onPage : id ∈ page.map AlertOut.id
          · exact covered_of_held ((ids id).mpr (Or.inl onPage))
          rcases tracked.covered id listed with held | ⟨other, afterId, before, above⟩ |
            ⟨other, afterId, otherPage, before, onOther⟩ | ⟨above, expected⟩
          · exact covered_of_held ((ids id).mpr (Or.inr held))
          · rcases keeps other _ before with impossible | still
            · cases impossible
            · exact covered_of_asking still above
          · rcases keeps other _ before with same | still
            · obtain ⟨-, rfl⟩ := LoadStage.answered.inj same
              exact absurd onOther onPage
            · exact covered_of_page still onOther
          · have later : ∀ item ∈ page, item.id < id := by
              rcases complete id listed with listedOnPage | notAbove | later
              · exact absurd listedOnPage onPage
              · exact absurd (cursorBelow id above) notAbove
              · exact later
            apply covered_of_expected (upper id above later)
            rcases expected with ⟨pushed, inInbox, notAbove⟩ | ⟨other, before⟩ | reconnects
            · exact expected_of_inbox notAbove inInbox
            · refine expected_of_waiting ⟨other, before.imp (fun was => ?_) fun was => ?_⟩
              · exact (keeps other _ was).resolve_left nofun
              · exact (keeps other _ was).resolve_left nofun
            · exact expected_of_reconnect reconnects }

theorem Tracked.step (tracked : Tracked userId session) {event : FeedEvent}
    (fitting : session.FitsOnePage userId event) (seen : session.NoBlindSpot userId event)
    (stepTo : session.step userId event = some after) : Tracked userId after := by
  cases event with
  | commit body => exact tracked.commit fitting stepTo
  | connect => exact tracked.connect stepTo
  | disconnect => exact tracked.disconnect stepTo
  | handle =>
      simp only [AlertSession.step] at stepTo
      split at stepTo
      case h_1 => cases stepTo
      case h_2 rest inbox =>
          obtain rfl := Option.some.inj stepTo
          exact tracked.hello inbox seen
      case h_3 item rest inbox =>
          obtain rfl := Option.some.inj stepTo
          exact tracked.alert inbox seen
  | proceed load => exact tracked.proceed stepTo
  | answer load => exact tracked.answer stepTo
  | finish load => exact tracked.finish stepTo

end Invariant

end AlertSession

/-- However frames, calls and disconnects interleave, if no step opens a blind
spot then a session whose socket is up, with no load in progress and no frame
left to handle, holds every alert committed for its user. -/
theorem backfill_loses_no_alert (userId : Uuid) (users : KeySet Uuid) {events : List FeedEvent}
    {session : AlertSession}
    (run : Run (AlertSession.step userId)
      (fun before event => before.FitsOnePage userId event ∧ before.NoBlindSpot userId event)
      (AlertSession.start (Db.fresh users)) events session)
    (live : session.live = true) (handled : session.inbox = [])
    (completed : session.loads.entries = []) :
    ∀ alert ∈ session.db.alerts, alert.userId = userId → alert.out ∈ session.log.items := by
  have tracked : session.Tracked userId :=
    run.invariant (AlertSession.tracked_start userId users)
      fun _ _ _ holds permitted stepTo => holds.step permitted.1 permitted.2 stepTo
  intro alert stored owned
  have noLoad := Dict.get?_eq_none_of_empty completed
  have inLog : alert.id ∈ session.log.items.map AlertOut.id := by
    rcases tracked.covered alert.id (mem_idsOf.mpr ⟨alert, stored, owned, rfl⟩) with
      held | ⟨load, afterId, found, -⟩ | ⟨load, afterId, page, found, -⟩ | ⟨-, expected⟩
    · exact held
    · rw [noLoad load] at found
      cases found
    · rw [noLoad load] at found
      cases found
    · rcases expected with ⟨pushed, inInbox, -⟩ | ⟨load, found⟩ | greeting | down
      · simp [handled] at inInbox
      · rw [noLoad load] at found
        simp at found
      · simp [handled] at greeting
      · rw [live] at down
        cases down
  -- numbers are distinct, so the item with this number is this alert
  obtain ⟨item, held, sameId⟩ := List.mem_map.mp inLog
  obtain ⟨other, alsoStored, -, rfl⟩ := tracked.logRecorded item held
  have distinct : (session.db.alerts.map AlertRow.id).Nodup :=
    tracked.increasing.imp fun less => ne_of_lt less
  have same : other = alert := List.inj_on_of_nodup_map distinct alsoStored stored sameId
  exact same ▸ held

/-- An alert for the user, as a batch would raise it. -/
def yardAlert (device : DeviceId) : AlertBody := ⟨1, some 7, "yard", device, .enter, ⟨0, 0⟩, 0, 0⟩

/-- A session that loads, connects, sees one alert and loses its socket; an
alert is raised while it is down. -/
def droppedOnce : List FeedEvent :=
  [.commit (yardAlert "a"), .proceed 0, .proceed 0, .answer 0, .finish 0, .connect, .handle,
    .commit (yardAlert "b"), .handle, .disconnect, .commit (yardAlert "c"), .connect, .handle]

theorem backfill_loses_no_alert_reconnect :
    ∃ session, Run (AlertSession.step 1)
        (fun before event => before.FitsOnePage 1 event ∧ before.NoBlindSpot 1 event)
        (AlertSession.start (Db.fresh (KeySet.add ∅ 1)))
        (droppedOnce ++ [.proceed 2, .proceed 2, .commit (yardAlert "d"), .handle, .answer 2,
          .finish 2]) session ∧
      session.db.alerts.length = 4 ∧
      ∀ alert ∈ session.db.alerts, alert.userId = 1 → alert.out ∈ session.log.items := by
  obtain ⟨session, executed, count, live, handled, completed⟩ : ∃ session,
      exec (AlertSession.step 1)
        (fun before event => before.FitsOnePage 1 event ∧ before.NoBlindSpot 1 event)
        (AlertSession.start (Db.fresh (KeySet.add ∅ 1)))
        (droppedOnce ++ [.proceed 2, .proceed 2, .commit (yardAlert "d"), .handle, .answer 2,
          .finish 2]) = some session ∧
      session.db.alerts.length = 4 ∧ session.live = true ∧ session.inbox = [] ∧
      session.loads.entries = [] := by
    apply exists_of_exec
    decide +kernel
  exact ⟨session, run_of_exec executed, count,
    backfill_loses_no_alert 1 (KeySet.add ∅ 1) (run_of_exec executed) live handled completed⟩

/-- A live alert is handled before the reload reads its cursor, and the alert
raised while the socket was down is never asked for. -/
theorem backfill_skips_gap :
    ∃ session, Run (AlertSession.step 1) (fun before event => before.FitsOnePage 1 event)
        (AlertSession.start (Db.fresh (KeySet.add ∅ 1)))
        (droppedOnce ++ [.commit (yardAlert "d"), .handle, .proceed 2, .proceed 2, .answer 2,
          .finish 2]) session ∧
      session.live = true ∧ session.inbox = [] ∧ session.loads.entries = [] ∧
      ¬ ∀ alert ∈ session.db.alerts, alert.userId = 1 → alert.out ∈ session.log.items := by
  obtain ⟨session, executed, lost⟩ : ∃ session,
      exec (AlertSession.step 1) (fun before event => before.FitsOnePage 1 event)
        (AlertSession.start (Db.fresh (KeySet.add ∅ 1)))
        (droppedOnce ++ [.commit (yardAlert "d"), .handle, .proceed 2, .proceed 2, .answer 2,
          .finish 2]) = some session ∧
      session.live = true ∧ session.inbox = [] ∧ session.loads.entries = [] ∧
      ¬ ∀ alert ∈ session.db.alerts, alert.userId = 1 → alert.out ∈ session.log.items := by
    apply exists_of_exec
    decide +kernel
  exact ⟨session, run_of_exec executed, lost⟩

end GeoTrack
