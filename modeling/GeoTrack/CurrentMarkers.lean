import GeoTrack.PositionGateway

/-!
# No ghosts and no stale markers

A dashboard at rest shows only devices the hub holds in its window, each where
the hub has it.  On the way there a marker may be out of date, but then the
next delta removes it or replaces it; and since the reports of a device grow
newer, whatever the hub holds of it beats every marker that was ever sent.
-/

namespace GeoTrack

open LabelledRuns

namespace Gateway

/-- The items an event adds to the picture. -/
def acceptedBy (gateway : Gateway) : GatewayEvent → List PositionItem
  | .apply items => gateway.hub.accepted items
  | _ => []

/-- The items ever applied along a list of events, in order. -/
def applied : Gateway → List GatewayEvent → List PositionItem
  | _, [] => []
  | gateway, event :: rest =>
      gateway.acceptedBy event ++
        match gateway.step event with
        | some next => next.applied rest
        | none => []

theorem applied_append {start gateway : Gateway} {events : List GatewayEvent}
    (run : Run step Anything start events gateway) (more : List GatewayEvent) :
    start.applied (events ++ more) = start.applied events ++ gateway.applied more := by
  induction run generalizing more with
  | nil => rfl
  | snoc _ _ stepTo ih =>
      rw [List.append_assoc, ih, ih, List.singleton_append, applied, applied, stepTo]
      simp [applied]

end Gateway

/-- The reports of each device grow newer. -/
def Increasing (log : List PositionItem) : Prop :=
  log.Pairwise fun earlier later =>
    earlier.deviceId = later.deviceId → earlier.reportedMs < later.reportedMs

instance (log : List PositionItem) : Decidable (Increasing log) :=
  inferInstanceAs (Decidable (log.Pairwise _))

theorem Increasing.init {log more : List PositionItem} (increasing : Increasing (log ++ more)) :
    Increasing log :=
  (List.pairwise_append.mp increasing).1

theorem Increasing.last {log : List PositionItem} {item : PositionItem}
    (increasing : Increasing (log ++ [item])) {earlier : PositionItem} (isMember : earlier ∈ log)
    (same : earlier.deviceId = item.deviceId) : earlier.reportedMs < item.reportedMs :=
  (List.pairwise_append.mp increasing).2.2 earlier isMember item (List.mem_singleton_self _) same

theorem Increasing.unique {log : List PositionItem} (increasing : Increasing log)
    {first second : PositionItem} (isFirst : first ∈ log) (isSecond : second ∈ log)
    (same : first.deviceId = second.deviceId) (together : first.reportedMs = second.reportedMs) :
    first = second := by
  have distinct : ∀ one other : PositionItem,
      (one.deviceId = other.deviceId → one.reportedMs < other.reportedMs) →
      one.deviceId = other.deviceId → one.reportedMs ≠ other.reportedMs :=
    fun _ _ ordered sameDevice => (ordered sameDevice).ne
  refine List.Pairwise.forall_of_forall_of_flip
    (R := fun one other => one.deviceId = other.deviceId →
      one.reportedMs = other.reportedMs → one = other)
    (fun _ _ _ _ => rfl) (increasing.imp ?_) (increasing.imp ?_) isFirst isSecond same together
  · intro one other ordered sameDevice sameTime
    exact absurd sameTime (distinct one other ordered sameDevice)
  · intro one other ordered sameDevice sameTime
    exact absurd sameTime.symm (distinct one other ordered sameDevice.symm)

namespace PositionHub

variable {hub : PositionHub} {log : List PositionItem}

/-- What the hub holds of a device is the newest of its items. -/
def Newest (hub : PositionHub) (log : List PositionItem) : Prop :=
  ∀ deviceId entry, hub.latest.get? deviceId = some entry →
    entry.item ∈ log ∧ ∀ item ∈ log, item.deviceId = deviceId →
      item.reportedMs ≤ entry.item.reportedMs

theorem Newest.place (newest : hub.Newest log) {item : PositionItem}
    (increasing : Increasing (log ++ [item])) : (hub.place item).Newest (log ++ [item]) := by
  intro deviceId entry known
  have isLast : item ∈ log ++ [item] := List.mem_append_right _ (List.mem_singleton_self _)
  rw [← view_latest, view_place] at known
  split at known
  case isTrue same =>
      obtain rfl := Option.some.inj known
      refine ⟨isLast, ?_⟩
      intro other isMember about
      rcases List.mem_append.mp isMember with earlier | latest
      · exact (increasing.last earlier (about.trans same)).le
      · rw [List.mem_singleton.mp latest]
  case isFalse different =>
      obtain ⟨listed, upper⟩ := newest deviceId entry known
      refine ⟨List.mem_append_left _ listed, ?_⟩
      intro other isMember about
      rcases List.mem_append.mp isMember with earlier | latest
      · exact upper other earlier about
      · rw [List.mem_singleton.mp latest] at about
        exact absurd about.symm different

theorem Newest.forget (newest : hub.Newest log) (gone : DeviceId) :
    (hub.forget gone).Newest log := by
  intro deviceId entry known
  rw [← view_latest, view_forget] at known
  split at known
  case isTrue =>
      unfold DeviceView.forget at known
      split at known
      case h_1 => cases known
      case h_2 => exact newest deviceId entry known
  case isFalse => exact newest deviceId entry known

theorem Newest.mem_of_current (newest : hub.Newest log) {items : List PositionItem}
    (current : hub.Current items) {item : PositionItem} (isMember : item ∈ items) : item ∈ log := by
  obtain ⟨entry, known, rfl⟩ := current item isMember
  exact (newest _ entry known).1

end PositionHub

namespace DeviceView

variable {view : DeviceView} {viewport : List CellRect} {marker : Marker}

/-- A marker is accounted for: the next delta removes it, or the device is in
the window and the marker is current or will be replaced. -/
def Accounts (view : DeviceView) (viewport : List CellRect) (marker : Marker) : Prop :=
  view.Leaving viewport ∨ ∃ entry, view.latest = some entry ∧ covers viewport entry.cell = true ∧
    (marker = entry.item.marker ∨ view.changed entry.cell)

theorem leaving_leave {view : DeviceView} {cell : Cell} {movedTo : Option Cell}
    (outside : ∀ target ∈ movedTo, covers viewport target = false)
    (before : view.Leaving viewport ∨ covers viewport cell = true) :
    (view.leave cell movedTo).Leaving viewport := by
  by_cases covered : covers viewport cell = true
  · exact ⟨cell, movedTo, covered, if_pos rfl, outside⟩
  · obtain ⟨origin, target, wasInside, departed, away⟩ := before.resolve_right covered
    have different : origin ≠ cell := by
      rintro rfl
      exact covered wasInside
    exact ⟨origin, target, wasInside, (if_neg different).trans departed, away⟩

theorem leaving_vacate {cell : Cell} (uncovered : covers viewport cell = false)
    (before : view.Leaving viewport ∨
      ∃ entry, view.latest = some entry ∧ covers viewport entry.cell = true) :
    (view.vacate cell).Leaving viewport := by
  unfold vacate
  cases known : view.latest with
  | none =>
      apply before.resolve_right
      rintro ⟨entry, impossible, -⟩
      rw [known] at impossible
      cases impossible
  | some entry =>
      have inWindow : view.Leaving viewport ∨ covers viewport entry.cell = true := by
        rcases before with leaving | ⟨_, same, covered⟩
        · exact Or.inl leaving
        · rw [known] at same
          exact Or.inr (Option.some.inj same ▸ covered)
      by_cases moved : entry.cell ≠ cell
      · simp only [if_pos moved]
        apply leaving_leave _ inWindow
        intro target isTarget
        rw [← Option.mem_some_iff.mp isTarget]
        exact uncovered
      · simp only [if_neg moved]
        apply inWindow.resolve_right
        rw [not_not.mp moved, uncovered]
        exact Bool.noConfusion

theorem Accounts.place (accounts : view.Accounts viewport marker) (item : PositionItem)
    (cell : Cell) : (view.place item cell).Accounts viewport marker := by
  by_cases covered : covers viewport cell = true
  · exact Or.inr ⟨⟨item, cell⟩, rfl, covered, Or.inr (Or.inl rfl)⟩
  · rw [Bool.not_eq_true] at covered
    left
    have before : view.Leaving viewport ∨
        ∃ entry, view.latest = some entry ∧ covers viewport entry.cell = true := by
      rcases accounts with leaving | ⟨entry, known, inWindow, -⟩
      · exact Or.inl leaving
      · exact Or.inr ⟨entry, known, inWindow⟩
    obtain ⟨origin, target, wasInside, departed, away⟩ := leaving_vacate covered before
    have different : origin ≠ cell := by
      rintro rfl
      rw [covered] at wasInside
      cases wasInside
    exact ⟨origin, target, wasInside, (if_neg different).trans departed, away⟩

theorem Accounts.forget (accounts : view.Accounts viewport marker) :
    view.forget.Accounts viewport marker := by
  unfold DeviceView.forget
  cases known : view.latest with
  | none => exact accounts
  | some entry =>
      left
      apply leaving_leave
      · intro _ impossible
        cases impossible
      · rcases accounts with leaving | ⟨_, same, covered, -⟩
        · exact Or.inl leaving
        · rw [known] at same
          exact Or.inr (Option.some.inj same ▸ covered)

end DeviceView

namespace Session

variable {session after : Session} {hub : PositionHub} {log : List PositionItem}

/-- Whatever the dashboard shows or is about to be told was applied once. -/
def Told (session : Session) (log : List PositionItem) : Prop :=
  (∀ deviceId marker, session.store.get deviceId = some marker →
    ∃ item ∈ log, item.deviceId = deviceId ∧ item.marker = marker) ∧
  ∀ frame ∈ session.queue, ∀ item ∈ frame.items, item ∈ log

theorem told_fresh (grid : Grid) (controlMax : ℕ) (log : List PositionItem) :
    (fresh grid controlMax).Told log := by
  refine ⟨?_, ?_⟩
  · intro _ _ impossible
    cases impossible
  · intro _ impossible
    cases impossible

theorem told_receive {store : DeviceStore} {frame : WireFrame}
    (shown : ∀ deviceId marker, store.get deviceId = some marker →
      ∃ item ∈ log, item.deviceId = deviceId ∧ item.marker = marker)
    (items : ∀ item ∈ frame.items, item ∈ log) :
    ∀ deviceId marker, (store.receive frame).get deviceId = some marker →
      ∃ item ∈ log, item.deviceId = deviceId ∧ item.marker = marker := by
  intro deviceId marker found
  cases frame with
  | control _ => exact shown deviceId marker found
  | positions frame =>
      rcases DeviceStore.origin_onPositions found with before | ⟨item, isMember, facts⟩
      · exact shown deviceId marker before
      · exact ⟨item, items item isMember, facts⟩

theorem Told.settled (told : session.Told log) :
    ∀ deviceId marker, session.settled.get deviceId = some marker →
      ∃ item ∈ log, item.deviceId = deviceId ∧ item.marker = marker := by
  obtain ⟨shown, items⟩ := told
  unfold Session.settled
  generalize session.store = store at shown ⊢
  generalize session.queue = frames at items ⊢
  induction frames generalizing store with
  | nil => exact shown
  | cons frame rest ih =>
      rw [List.foldl_cons]
      refine ih _ (told_receive shown (items frame (List.mem_cons_self ..))) ?_
      exact fun other isMember => items other (List.mem_cons_of_mem _ isMember)

theorem Told.mono (told : session.Told log) (more : List PositionItem) :
    session.Told (log ++ more) := by
  refine ⟨?_, ?_⟩
  · intro deviceId marker found
    obtain ⟨item, isMember, facts⟩ := told.1 deviceId marker found
    exact ⟨item, List.mem_append_left _ isMember, facts⟩
  · intro frame isFrame item isItem
    exact List.mem_append_left _ (told.2 frame isFrame item isItem)

theorem Told.act (told : session.Told log) (newest : hub.Newest log)
    (acted : session.Acted hub after) : after.Told log := by
  refine ⟨?_, ?_⟩
  · rcases acted.store with same | ⟨frame, isMember, received⟩
    · rw [same]
      exact told.1
    · rw [received]
      exact told_receive told.1 (told.2 frame isMember)
  · intro frame isFrame
    rcases acted.frames frame isFrame with before | current
    · exact told.2 frame before
    · exact fun item isItem => newest.mem_of_current current isItem

theorem Told.offer (told : session.Told log) (sound : hub.Sound) (newest : hub.Newest log)
    {delta : TickDelta} (changes : hub.Delta delta) : (session.offer delta).Told log := by
  refine ⟨told.1, ?_⟩
  have queued : ∀ frame ∈ (session.offer delta).queue,
      frame ∈ session.queue ∨ hub.Current frame.items := by
    unfold Session.offer ClientConnection.offerPositions
    cases session.connection.viewport with
    | none => exact fun _ => Or.inl
    | some viewport =>
        simp only
        split
        · exact fun _ => Or.inl
        · split
          · exact fun _ => Or.inl
          · cases session.connection.pendingDelta with
            | some _ =>
                intro frame isMember
                simp only [queue, Option.toList_none, List.map_nil, List.append_nil] at isMember
                exact Or.inl (mem_queue_of_inFlight isMember)
            | none =>
                intro frame isMember
                rcases List.mem_append.mp isMember with onTheWay | isDelta
                · exact Or.inl (mem_queue_of_inFlight onTheWay)
                · obtain rfl := List.mem_singleton.mp isDelta
                  exact Or.inr (changes.current sound session.connection viewport)
  intro frame isFrame
  rcases queued frame isFrame with before | current
  · exact told.2 frame before
  · exact fun item isItem => newest.mem_of_current current isItem

/-- Every marker on the dashboard, once the frames on their way have arrived,
is accounted for. -/
def Faithful (session : Session) (hub : PositionHub) : Prop :=
  ∀ viewport, session.Watching viewport → ∀ deviceId marker,
    session.settled.get deviceId = some marker →
      (hub.view deviceId).Accounts viewport marker

theorem Faithful.place (faithful : session.Faithful hub) (item : PositionItem) :
    session.Faithful (hub.place item) := by
  intro viewport watching deviceId marker found
  have before := faithful viewport watching deviceId marker found
  rw [PositionHub.view_place]
  split
  · exact before.place item _
  · exact before

theorem Faithful.forget (faithful : session.Faithful hub) (gone : DeviceId) :
    session.Faithful (hub.forget gone) := by
  intro viewport watching deviceId marker found
  have before := faithful viewport watching deviceId marker found
  rw [PositionHub.view_forget]
  split
  · exact before.forget
  · exact before

/-- Merging the hub's items leaves no older marker of theirs. -/
theorem marker_of_merge (told : session.Told log) (newest : hub.Newest log)
    (increasing : Increasing log) {items : List PositionItem} (current : hub.Current items)
    {item : PositionItem} (isMember : item ∈ items) {marker : Marker}
    (found : (items.foldl DeviceStore.merge session.settled).get item.deviceId = some marker) :
    marker = item.marker := by
  obtain ⟨_, merged, later, origin⟩ := DeviceStore.get_foldl_merge_of_present isMember
    (fun other isOther same => current.unique isOther isMember same) session.settled
  rw [found] at merged
  obtain rfl := Option.some.inj merged
  rcases origin with fromItem | wasThere
  · exact fromItem
  · obtain ⟨old, isOld, about, rfl⟩ := told.settled _ _ wasThere
    obtain ⟨entry, known, rfl⟩ := current item isMember
    obtain ⟨isApplied, upper⟩ := newest _ entry known
    have together : old.reportedMs = entry.item.reportedMs :=
      le_antisymm (upper old isOld about) later
    rw [increasing.unique isOld isApplied about together]

theorem Faithful.offer (faithful : session.Faithful hub) (sound : hub.Sound)
    (told : session.Told log) (newest : hub.Newest log) (increasing : Increasing log)
    {delta : TickDelta} (changes : hub.Delta delta) :
    (session.offer delta).Faithful hub.discardPending := by
  intro viewport watchingAfter deviceId marker found
  obtain ⟨watching, settled, -⟩ := offer_settled watchingAfter
  rw [settled, DeviceStore.get_onDelta] at found
  split at found
  case isTrue => cases found
  case isFalse stays =>
      rw [changes.mem_removedFrom] at stays
      right
      rw [PositionHub.view_discardPending]
      by_cases listed : deviceId ∈
          (session.connection.visibleChunks delta viewport).flatten.map PositionItem.deviceId
      · obtain ⟨item, isMember, rfl⟩ := List.mem_map.mp listed
        have exact_ := marker_of_merge told newest increasing
          (changes.current sound session.connection viewport) isMember found
        obtain ⟨entry, known, rfl, covered, -⟩ := (changes.mem_visibleChunks sound).mp isMember
        exact ⟨entry, known, covered, Or.inl exact_⟩
      · rw [DeviceStore.get_foldl_merge_of_absent listed] at found
        obtain ⟨entry, known, covered, current | changed⟩ :=
          (faithful viewport watching deviceId marker found).resolve_left stays
        · exact ⟨entry, known, covered, Or.inl current⟩
        · obtain ⟨named, -⟩ := (sound.devices deviceId).located entry known
          refine absurd (List.mem_map.mpr ⟨entry.item, ?_, named⟩) listed
          rw [changes.mem_visibleChunks sound, named]
          exact ⟨entry, known, rfl, covered, changed⟩

theorem Faithful.act (faithful : session.Faithful hub) (told : session.Told log)
    (newest : hub.Newest log) (increasing : Increasing log) (acted : session.Acted hub after) :
    after.Faithful hub := by
  intro viewport watchingAfter deviceId marker found
  rcases acted.shown viewport watchingAfter with ⟨watching, settled⟩ | snapshot
  · rw [settled] at found
    exact faithful viewport watching deviceId marker found
  · obtain ⟨nowMs, chunks, taken, settled⟩ := snapshot
    rw [settled, DeviceStore.get_onSnapshot] at found
    split at found
    case isFalse => cases found
    case isTrue listed =>
        obtain ⟨item, isMember, rfl⟩ := List.mem_map.mp listed
        have exact_ := marker_of_merge told newest increasing taken.current isMember found
        obtain ⟨entry, known, rfl, covered⟩ := (taken item).mp isMember
        exact Or.inr ⟨entry, known, covered, Or.inl exact_⟩

end Session

namespace Gateway

variable {gateway after : Gateway} {log : List PositionItem}

structure Honest (log : List PositionItem) (gateway : Gateway) : Prop where
  orderly : gateway.Orderly
  newest : gateway.hub.Newest log
  told : ∀ session ∈ gateway.sessions, session.Told log
  faithful : ∀ session ∈ gateway.sessions, session.Faithful gateway.hub

theorem honest_fresh (grid : Grid) (staleAfterS controlMax : ℕ) :
    (fresh grid staleAfterS controlMax).Honest [] where
  orderly := orderly_fresh grid staleAfterS controlMax
  newest _ _ known := by cases known
  told := by simp [fresh]
  faithful := by simp [fresh]

theorem honest_apply (honest : gateway.Honest log) (items : List PositionItem)
    (increasing : Increasing (log ++ gateway.hub.accepted items)) :
    (gateway.hub.apply items).Newest (log ++ gateway.hub.accepted items) ∧
      ∀ session ∈ gateway.sessions, session.Faithful (gateway.hub.apply items) := by
  revert increasing
  refine @PositionHub.apply_induction gateway.hub
    (fun hub done => Increasing done →
      hub.Newest done ∧ ∀ session ∈ gateway.sessions, session.Faithful hub) items log ?_ ?_ ?_
  · exact fun _ => ⟨honest.newest, honest.faithful⟩
  · intro hub done item _ before increasing
    obtain ⟨newest, faithful⟩ := before increasing.init
    exact ⟨newest.place increasing, fun session isMember => (faithful session isMember).place item⟩
  · exact fun _ _ _ before => before

theorem honest_step {event : GatewayEvent} (honest : gateway.Honest log)
    (increasing : Increasing (log ++ gateway.acceptedBy event))
    (stepTo : gateway.step event = some after) :
    after.Honest (log ++ gateway.acceptedBy event) := by
  have orderly := orderly_step honest.orderly stepTo
  have sound := honest.orderly.1
  cases event with
  | apply items =>
      obtain rfl := Option.some.inj stepTo
      obtain ⟨newest, faithful⟩ := honest_apply honest items increasing
      refine ⟨orderly, newest, ?_, faithful⟩
      exact fun session isMember => (honest.told session isMember).mono _
  | sweep now =>
      obtain rfl := Option.some.inj stepTo
      simp only [acceptedBy, List.append_nil] at *
      refine ⟨orderly, ?_, honest.told, ?_⟩
      · exact @PositionHub.sweep_induction gateway.hub (fun hub => hub.Newest log) now
          honest.newest fun _ deviceId before => before.forget deviceId
      · intro session isMember
        exact PositionHub.sweep_induction now (honest.faithful session isMember)
          fun _ deviceId before => before.forget deviceId
  | tick tMs =>
      obtain rfl := Option.some.inj stepTo
      simp only [acceptedBy, List.append_nil] at *
      obtain ⟨delta, changes, ticked⟩ := gateway.tick_eq sound tMs
      rw [ticked] at orderly ⊢
      refine ⟨orderly, honest.newest, List.forall_mem_map.mpr ?_, List.forall_mem_map.mpr ?_⟩
      · intro session isMember
        exact (honest.told session isMember).offer sound honest.newest changes
      · intro session isMember
        exact (honest.faithful session isMember).offer sound (honest.told session isMember)
          honest.newest increasing changes
  | connect =>
      obtain rfl := Option.some.inj stepTo
      simp only [acceptedBy, List.append_nil] at *
      refine ⟨orderly, honest.newest, forall_connected honest.told ?_,
        forall_connected honest.faithful ?_⟩
      · exact Session.told_fresh ..
      · intro _ watching
        cases watching.1
  | client index action =>
      simp only [acceptedBy, List.append_nil] at *
      obtain ⟨session, _, _, isMember, -, acted, hubAfter, others⟩ :=
        client_cases honest.orderly stepTo
      have told := honest.told session isMember
      refine ⟨orderly, hubAfter ▸ honest.newest, ?_, ?_⟩
      · exact others _ honest.told (told.act honest.newest acted)
      · rw [hubAfter]
        exact others _ honest.faithful
          ((honest.faithful session isMember).act told honest.newest increasing acted)

theorem honest_run {start : Gateway} (fromStart : start.Honest []) {events : List GatewayEvent}
    (run : Run step Anything start events gateway)
    (increasing : Increasing (start.applied events)) : gateway.Honest (start.applied events) := by
  induction run with
  | nil => exact fromStart
  | @snoc events before _ event earlier _ stepTo ih =>
      have appended : start.applied (events ++ [event]) =
          start.applied events ++ before.acceptedBy event := by
        rw [applied_append earlier]
        simp [applied, stepTo]
      rw [appended] at increasing ⊢
      exact honest_step (ih increasing.init) increasing stepTo

/-- Whatever a client at rest shows is in the hub, in its window, and shown as
the hub has it. -/
theorem shown_devices_current (grid : Grid) (staleAfterS controlMax : ℕ)
    (events : List GatewayEvent) (gateway : Gateway)
    (run : Run step Anything (fresh grid staleAfterS controlMax) events gateway)
    (increasing : Increasing ((fresh grid staleAfterS controlMax).applied events)) :
    ∀ session ∈ gateway.sessions, ∀ viewport, gateway.Quiescent session viewport →
      ∀ deviceId marker, session.store.get deviceId = some marker →
        ∃ entry, gateway.hub.latest.get? deviceId = some entry ∧
          covers viewport entry.cell = true ∧ marker = entry.item.marker := by
  have honest := honest_run (honest_fresh grid staleAfterS controlMax) run increasing
  intro session isMember viewport quiescent deviceId marker shown
  rw [← quiescent.settled_eq] at shown
  have accounts :=
    honest.faithful session isMember viewport quiescent.watching deviceId marker shown
  obtain ⟨entry, known, covered, current | changed⟩ :=
    accounts.resolve_left (quiescent.not_leaving deviceId viewport)
  · exact ⟨entry, known, covered, current⟩
  · exact absurd changed (quiescent.not_changed deviceId entry.cell)

/-- A ferry crosses the window and leaves it, a second one is swept, and a
third stays. -/
def regatta : List GatewayEvent :=
  [.connect, .client 0 (.setViewport .harbour), .client 0 (.send 0), .client 0 .deliver,
    .apply [⟨"anna", 1 / 100, 1 / 100, 1⟩, ⟨"bodo", 1 / 100, 1 / 100, 2⟩,
      ⟨"carl", 1 / 100, 1 / 100, 500000⟩],
    .tick 1, .client 0 (.send 1), .client 0 .deliver,
    .apply [⟨"anna", 6 / 100, 6 / 100, 400000⟩, ⟨"anna", 1, 1, 400001⟩,
      ⟨"carl", 6 / 100, 6 / 100, 500001⟩],
    .sweep 500001, .tick 2, .client 0 (.send 2), .client 0 .deliver]

theorem shown_devices_current_regatta :
    ∃ gateway, Run step Anything (fresh .standard 300 1000) regatta gateway ∧
      ∃ session ∈ gateway.sessions, session.store.entries.keys = ["carl"] ∧
        ∃ entry, gateway.hub.latest.get? "carl" = some entry ∧
          session.store.get "carl" = some entry.item.marker := by
  obtain ⟨gateway, executed, session, isMember, viewport, isWindow, quiescent, shown, known⟩ :
      ∃ gateway, exec step Anything (fresh .standard 300 1000) regatta = some gateway ∧
        ∃ session ∈ gateway.sessions, ∃ viewport ∈ session.connection.viewport,
          gateway.Quiescent session viewport ∧ session.store.entries.keys = ["carl"] ∧
            (session.store.get "carl").isSome = true := by
    apply exists_of_exec
    decide +kernel
  have reached := run_of_exec executed
  obtain ⟨marker, found⟩ := Option.isSome_iff_exists.mp known
  obtain ⟨entry, latest, -, rfl⟩ := shown_devices_current .standard 300 1000 regatta gateway
    reached (by decide +kernel) session isMember viewport quiescent "carl" marker found
  exact ⟨gateway, reached, session, isMember, shown, entry, latest, found⟩

end Gateway

end GeoTrack
