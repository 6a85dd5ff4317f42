import GeoTrack.ClientConnection
import GeoTrack.LabelledRuns

/-!
# The gateway and its dashboards

One hub, any number of connected clients, and for each of them the frames on
their way to a dashboard and the devices the dashboard shows.  Reports, sweeps,
ticks and everything a client or its sender does are interleaved at will; a
socket delivers its frames in order.
-/

namespace GeoTrack

open LabelledRuns

/-- Hand one tick's changes to every client that has somewhere to put them. -/
def fanOut (hub : PositionHub) (connections : List ClientConnection) (tMs : ℤ) :
    Option (PositionHub × List ClientConnection) :=
  if connections.any ClientConnection.wantsPositions then
    (hub.drain tMs).map fun drained =>
      if drained.1.isEmpty then (drained.2, connections)
      else
        (drained.2, connections.map fun connection =>
          if connection.wantsPositions then connection.offerPositions drained.1 else connection)
  else
    some (hub.discardPending, connections)

/-- A connection, the frames in flight and the dashboard at the other end. -/
structure Session where
  connection : ClientConnection
  inFlight : List WireFrame
  store : DeviceStore

/-- What a client, its socket or its sender can do. -/
inductive ClientAction where
  | setViewport (bbox : BBox)
  | sendControl (frame : Bytes)
  | requestClose (code : ℕ) (reason : String)
  | send (nowMs : ℤ)
  | deliver

namespace DeviceStore

/-- Frames other than positions leave the devices alone. -/
def receive (store : DeviceStore) : WireFrame → DeviceStore
  | .control _ => store
  | .positions frame => store.onPositions frame

end DeviceStore

namespace Session

def fresh (grid : Grid) (controlMax : ℕ) : Session :=
  ⟨.fresh grid controlMax, [], .empty⟩

def act (session : Session) (hub : PositionHub) : ClientAction → Option (Session × PositionHub)
  | .setViewport bbox =>
      some ({ session with connection := session.connection.setViewport bbox }, hub)
  | .sendControl frame =>
      some ({ session with connection := session.connection.sendControl frame }, hub)
  | .requestClose code reason =>
      some ({ session with connection := session.connection.requestClose code reason }, hub)
  | .send nowMs =>
      -- the sender stops once the connection is closing
      if session.connection.closing then none
      else
        (session.connection.nextFrame hub nowMs).bind fun next =>
          next.1.map fun frame =>
            ({ session with
               connection := next.2.1
               inFlight := session.inFlight ++ [frame] }, next.2.2)
  | .deliver =>
      match session.inFlight with
      | [] => none
      | frame :: rest =>
          some ({ session with inFlight := rest, store := session.store.receive frame }, hub)

end Session

structure Gateway where
  hub : PositionHub
  controlMax : ℕ
  sessions : List Session

inductive GatewayEvent where
  | apply (items : List PositionItem)
  | sweep (now : ℤ)
  | tick (tMs : ℤ)
  | connect
  | client (session : ℕ) (action : ClientAction)

namespace Gateway

def fresh (grid : Grid) (staleAfterS controlMax : ℕ) : Gateway :=
  ⟨.fresh grid staleAfterS, controlMax, []⟩

/-- The tick loop swallows an error, so a failed tick changes nothing. -/
def tick (gateway : Gateway) (tMs : ℤ) : Gateway :=
  match fanOut gateway.hub (gateway.sessions.map Session.connection) tMs with
  | some (hub, connections) =>
      { gateway with
        hub := hub
        sessions := gateway.sessions.zipWith
          (fun session connection => { session with connection := connection }) connections }
  | none => gateway

def step (gateway : Gateway) : GatewayEvent → Option Gateway
  | .apply items => some { gateway with hub := gateway.hub.apply items }
  | .sweep now => some { gateway with hub := gateway.hub.sweep now }
  | .tick tMs => some (gateway.tick tMs)
  | .connect =>
      some { gateway with
        sessions := gateway.sessions ++ [.fresh gateway.hub.grid gateway.controlMax] }
  | .client index action =>
      gateway.sessions[index]?.bind fun session =>
        (session.act gateway.hub action).map fun moved =>
          { gateway with
            hub := moved.2
            sessions := gateway.sessions.set index moved.1 }

end Gateway

namespace ClientConnection

variable {connection : ClientConnection} {delta : TickDelta}

theorem offerPositions_of_idle (idle : connection.wantsPositions = false) :
    connection.offerPositions delta = connection := by
  unfold offerPositions
  cases window : connection.viewport with
  | none => rfl
  | some viewport =>
      rw [wantsPositions, window, Option.isSome_some, Bool.true_and, Bool.not_eq_eq_eq_not,
        Bool.not_false] at idle
      simp [idle]

theorem offerPositions_of_empty (empty : delta.isEmpty = true) :
    connection.offerPositions delta = connection := by
  rw [TickDelta.isEmpty, Bool.and_eq_true, List.isEmpty_iff, List.isEmpty_iff] at empty
  unfold offerPositions
  cases connection.viewport with
  | none => rfl
  | some viewport =>
      have noChunks : connection.visibleChunks delta viewport = [] := by
        rw [List.eq_nil_iff_forall_not_mem]
        intro chunk isMember
        obtain ⟨cell, -, found⟩ := mem_visibleChunks.mp isMember
        rw [Dict.get?_eq_none_of_empty empty.1] at found
        cases found
      have noneRemoved : removedFrom delta viewport = [] := by simp [removedFrom, empty.2]
      simp [noChunks, noneRemoved]

end ClientConnection

theorem DeviceStore.onPositions_nothing (store : DeviceStore) (tMs : ℤ) :
    store.onPositions (positionsFrame false tMs [] []) = store := by
  simp [onPositions, positionsFrame, apply]

namespace Session

variable {session after : Session} {hub : PositionHub}

/-- The connection is open and up to date with its window except for what is
on its way. -/
def Watching (session : Session) (viewport : List CellRect) : Prop :=
  session.connection.viewport = some viewport ∧ session.connection.closing = false ∧
    session.connection.needsSnapshot = false

/-- The frames on their way, with the delta the sender will take. -/
def queue (session : Session) : List WireFrame :=
  session.inFlight ++ session.connection.pendingDelta.toList.map .positions

/-- The devices on the dashboard once every frame on its way has arrived. -/
def settled (session : Session) : DeviceStore :=
  session.queue.foldl DeviceStore.receive session.store

def Tidy (session : Session) : Prop :=
  session.connection.needsSnapshot = true → session.connection.pendingDelta = none

def offer (session : Session) (delta : TickDelta) : Session :=
  { session with connection := session.connection.offerPositions delta }

theorem offer_tidy (tidy : session.Tidy) (delta : TickDelta) : (session.offer delta).Tidy := by
  unfold Tidy offer ClientConnection.offerPositions at *
  cases session.connection.viewport with
  | none => exact tidy
  | some viewport =>
      simp only
      split
      · exact tidy
      · rename_i quiet
        split
        · exact tidy
        · cases session.connection.pendingDelta with
          | none =>
              simp only [Bool.or_eq_true, not_or] at quiet
              exact fun needs => absurd needs quiet.2
          | some _ => exact fun _ => rfl

/-- A client that keeps its window through a tick is sent the visible part of
the delta. -/
theorem offer_settled {delta : TickDelta} {viewport : List CellRect}
    (watching : (session.offer delta).Watching viewport) :
    session.Watching viewport ∧
      (session.offer delta).settled = session.settled.onPositions
        (positionsFrame false delta.tMs (session.connection.visibleChunks delta viewport)
          (ClientConnection.removedFrom delta viewport)) ∧
      (session.connection.pendingDelta = none ∨
        ClientConnection.removedFrom delta viewport = []) := by
  obtain ⟨connection, inFlight, store⟩ := session
  unfold offer ClientConnection.offerPositions at *
  cases window : connection.viewport with
  | none =>
      simp only [window] at watching
      exact absurd (window.symm.trans watching.1) (by simp)
  | some rects =>
      simp only [window] at watching ⊢
      by_cases still : (connection.closing || connection.needsSnapshot) = true
      · rw [if_pos still] at watching
        rw [Bool.or_eq_true] at still
        rcases still with closing | needs
        · exact absurd (closing.symm.trans watching.2.1) (by simp)
        · exact absurd (needs.symm.trans watching.2.2) (by simp)
      · rw [if_neg still] at watching ⊢
        by_cases nothing : connection.visibleChunks delta rects = [] ∧
            ClientConnection.removedFrom delta rects = []
        · rw [if_pos nothing] at watching ⊢
          obtain rfl := Option.some.inj (window.symm.trans watching.1)
          refine ⟨watching, ?_, Or.inr nothing.2⟩
          rw [nothing.1, nothing.2, DeviceStore.onPositions_nothing]
        · rw [if_neg nothing] at watching ⊢
          cases waiting : connection.pendingDelta with
          | some frame =>
              simp only [waiting] at watching
              exact absurd watching.2.2 (by simp)
          | none =>
              simp only [waiting] at watching ⊢
              obtain rfl : rects = viewport := Option.some.inj watching.1
              refine ⟨⟨window, watching.2⟩, ?_, Or.inl trivial⟩
              simp [settled, queue, waiting, DeviceStore.receive]

/-- A client with no delta waiting keeps its window through a tick. -/
theorem offer_watching {viewport : List CellRect} (watching : session.Watching viewport)
    (noDelta : session.connection.pendingDelta = none) (delta : TickDelta) :
    (session.offer delta).Watching viewport := by
  have awake : (session.connection.closing || session.connection.needsSnapshot) = false := by
    rw [watching.2.1, watching.2.2]
    rfl
  unfold offer ClientConnection.offerPositions
  simp only [watching.1, awake, Bool.false_eq_true, if_false, noDelta]
  split
  · exact watching
  · exact ⟨rfl, watching.2⟩

theorem foldl_receive_control (frames : List WireFrame) (bytes : Bytes) (rest : List WireFrame)
    (store : DeviceStore) :
    (frames ++ .control bytes :: rest).foldl DeviceStore.receive store =
      (frames ++ rest).foldl DeviceStore.receive store := by
  rw [List.foldl_append, List.foldl_cons, List.foldl_append]
  rfl

/-- What one action of a client does: it keeps the window and what the
dashboard will show, or it puts a snapshot of the window on the way. -/
structure Acted (hub : PositionHub) (session after : Session) : Prop where
  tidy : after.Tidy
  shown : ∀ viewport, after.Watching viewport →
    (session.Watching viewport ∧ after.settled = session.settled) ∨
      ∃ nowMs chunks, hub.Snapshot viewport chunks ∧
        after.settled = session.settled.onPositions (positionsFrame true nowMs chunks [])
  frames : ∀ frame ∈ after.queue, frame ∈ session.queue ∨ hub.Current frame.items
  store : after.store = session.store ∨
    ∃ frame ∈ session.queue, after.store = session.store.receive frame

theorem Acted.refl (tidy : session.Tidy) : session.Acted hub session where
  tidy := tidy
  shown _ watching := Or.inl ⟨watching, rfl⟩
  frames _ isMember := Or.inl isMember
  store := Or.inl rfl

theorem mem_queue_of_inFlight {frame : WireFrame} (onTheWay : frame ∈ session.inFlight) :
    frame ∈ session.queue :=
  List.mem_append_left _ onTheWay

theorem acted_requestClose (tidy : session.Tidy) (code : ℕ) (reason : String) :
    session.Acted hub
      { session with connection := session.connection.requestClose code reason } := by
  unfold ClientConnection.requestClose
  split
  case isTrue => exact Acted.refl tidy
  case isFalse =>
      refine ⟨fun _ => rfl, ?_, ?_, Or.inl rfl⟩
      · exact fun _ watching => absurd watching.2.1 Bool.noConfusion
      · intro frame isMember
        rw [queue, Option.toList_none, List.map_nil, List.append_nil] at isMember
        exact Or.inl (mem_queue_of_inFlight isMember)

theorem acted_sendControl (tidy : session.Tidy) (frame : Bytes) :
    session.Acted hub { session with connection := session.connection.sendControl frame } := by
  unfold ClientConnection.sendControl
  split
  case isTrue => exact Acted.refl tidy
  case isFalse =>
      split
      · exact acted_requestClose tidy _ _
      · exact ⟨tidy, fun _ watching => Or.inl ⟨watching, rfl⟩, fun _ => Or.inl, Or.inl rfl⟩

theorem acted_setViewport (bbox : BBox) :
    session.Acted hub { session with connection := session.connection.setViewport bbox } := by
  refine ⟨fun _ => rfl, ?_, ?_, Or.inl rfl⟩
  · exact fun _ watching => absurd watching.2.2 Bool.noConfusion
  · intro frame isMember
    rw [queue, ClientConnection.setViewport, Option.toList_none, List.map_nil,
      List.append_nil] at isMember
    exact Or.inl (mem_queue_of_inFlight isMember)

theorem acted_deliver (tidy : session.Tidy) {frame : WireFrame} {rest : List WireFrame}
    (first : session.inFlight = frame :: rest) :
    session.Acted hub
      { session with inFlight := rest, store := session.store.receive frame } := by
  have queued : session.queue =
      frame :: (rest ++ session.connection.pendingDelta.toList.map .positions) := by
    rw [queue, first, List.cons_append]
  refine ⟨tidy, ?_, ?_, ?_⟩
  · intro _ watching
    refine Or.inl ⟨watching, ?_⟩
    rw [settled, settled, queued]
    rfl
  · intro other isMember
    rw [queued]
    exact Or.inl (List.mem_cons_of_mem _ isMember)
  · exact Or.inr ⟨frame, queued ▸ List.mem_cons_self .., rfl⟩

/-- The sender never fails on a sound hub, and changes its cache at most. -/
theorem acted_send (sound : hub.Sound) (tidy : session.Tidy) (nowMs : ℤ) :
    ∃ frame connection snapshots,
      session.connection.nextFrame hub nowMs =
        some (frame, connection, { hub with snapshots := snapshots }) ∧
      PositionHub.Sound { hub with snapshots := snapshots } ∧
      ∀ written ∈ frame, session.Acted hub
        { session with
          connection := connection
          inFlight := session.inFlight ++ [written] } := by
  unfold ClientConnection.nextFrame
  cases queued : session.connection.control with
  | cons bytes rest =>
      refine ⟨_, _, hub.snapshots, rfl, sound, ?_⟩
      intro _ written
      obtain rfl := Option.mem_some_iff.mp written
      refine ⟨tidy, ?_, ?_, Or.inl rfl⟩
      · intro _ watching
        refine Or.inl ⟨watching, ?_⟩
        simp only [settled, queue, List.append_assoc, List.singleton_append]
        exact foldl_receive_control _ bytes _ _
      · intro frame isMember
        simp only [queue, List.append_assoc, List.singleton_append, List.mem_append,
          List.mem_cons] at isMember ⊢
        rcases isMember with earlier | rfl | later
        · exact Or.inl (Or.inl earlier)
        · exact Or.inr fun _ impossible => absurd impossible List.not_mem_nil
        · exact Or.inl (Or.inr later)
  | nil =>
      simp only
      split
      case h_1 viewport needs window =>
          obtain ⟨chunks, snapshots, taken, soundAfter, items⟩ := sound.snapshotChunks viewport
          rw [taken]
          refine ⟨_, _, snapshots, rfl, soundAfter, ?_⟩
          intro _ written
          obtain rfl := Option.mem_some_iff.mp written
          refine ⟨Bool.noConfusion, ?_, ?_, Or.inl rfl⟩
          · rintro rects ⟨sameWindow, -, -⟩
            obtain rfl := Option.some.inj (window.symm.trans sameWindow)
            refine Or.inr ⟨nowMs, chunks, items, ?_⟩
            simp [settled, queue, tidy needs, DeviceStore.receive]
          · intro frame isMember
            simp only [queue, tidy needs, Option.toList_none, List.map_nil, List.append_nil,
              List.mem_append, List.mem_singleton] at isMember ⊢
            rcases isMember with earlier | rfl
            · exact Or.inl earlier
            · exact Or.inr items.current
      case h_2 =>
          refine ⟨_, _, hub.snapshots, rfl, sound, ?_⟩
          intro written taken
          obtain ⟨frame, waiting, rfl⟩ := Option.map_eq_some_iff.mp taken
          refine ⟨fun _ => rfl, ?_, ?_, Or.inl rfl⟩
          · intro _ watching
            refine Or.inl ⟨watching, ?_⟩
            simp [settled, queue, waiting]
          · intro other isMember
            simp only [queue, Option.toList_none, List.map_nil, List.append_nil] at isMember
            left
            simpa [queue, waiting] using isMember

theorem act_spec (sound : hub.Sound) (tidy : session.Tidy) {action : ClientAction}
    {hubAfter : PositionHub} (moved : session.act hub action = some (after, hubAfter)) :
    (∃ snapshots, hubAfter = { hub with snapshots := snapshots }) ∧ hubAfter.Sound ∧
      session.Acted hub after := by
  cases action with
  | setViewport bbox =>
      obtain ⟨rfl, rfl⟩ := Prod.mk.inj (Option.some.inj moved)
      exact ⟨⟨hub.snapshots, rfl⟩, sound, acted_setViewport bbox⟩
  | sendControl frame =>
      obtain ⟨rfl, rfl⟩ := Prod.mk.inj (Option.some.inj moved)
      exact ⟨⟨hub.snapshots, rfl⟩, sound, acted_sendControl tidy frame⟩
  | requestClose code reason =>
      obtain ⟨rfl, rfl⟩ := Prod.mk.inj (Option.some.inj moved)
      exact ⟨⟨hub.snapshots, rfl⟩, sound, acted_requestClose tidy code reason⟩
  | send nowMs =>
      obtain ⟨frame, connection, snapshots, next, soundAfter, acted⟩ := acted_send sound tidy nowMs
      simp only [act, next] at moved
      split at moved
      case isTrue => cases moved
      case isFalse =>
          rw [Option.bind_some, Option.map_eq_some_iff] at moved
          obtain ⟨written, taken, result⟩ := moved
          obtain ⟨rfl, rfl⟩ := Prod.mk.inj result
          exact ⟨⟨snapshots, rfl⟩, soundAfter, acted written taken⟩
  | deliver =>
      simp only [act] at moved
      split at moved
      case h_1 => cases moved
      case h_2 frame rest first =>
          obtain ⟨rfl, rfl⟩ := Prod.mk.inj (Option.some.inj moved)
          exact ⟨⟨hub.snapshots, rfl⟩, sound, acted_deliver tidy first⟩

end Session

namespace Gateway

/-- Whether the hub is drained or its changes are thrown away, a tick offers
its delta to everyone. -/
theorem tick_eq (gateway : Gateway) (sound : gateway.hub.Sound) (tMs : ℤ) :
    ∃ delta, gateway.hub.Delta delta ∧
      gateway.tick tMs = { gateway with
        hub := gateway.hub.discardPending
        sessions := gateway.sessions.map fun session => session.offer delta } := by
  obtain ⟨delta, drained, changes⟩ := sound.drain tMs
  refine ⟨delta, changes, ?_⟩
  unfold tick fanOut
  by_cases anyone : (gateway.sessions.map Session.connection).any
      ClientConnection.wantsPositions = true
  · rw [if_pos anyone, drained]
    by_cases empty : delta.isEmpty = true
    · simp [empty, List.zipWith_map_right, List.zipWith_self, Session.offer,
        ClientConnection.offerPositions_of_empty empty]
    · have same : ∀ connection : ClientConnection,
          (if connection.wantsPositions then connection.offerPositions delta else connection) =
            connection.offerPositions delta := by
        intro connection
        split
        · rfl
        · rename_i idle
          exact (ClientConnection.offerPositions_of_idle (Bool.not_eq_true _ ▸ idle)).symm
      simp [empty, List.zipWith_map_right, List.zipWith_self, Session.offer, same]
  · rw [if_neg anyone]
    have idle : ∀ session ∈ gateway.sessions, session.offer delta = session := by
      intro session isMember
      rw [List.any_eq_true, not_exists] at anyone
      have notWanting := anyone session.connection
      rw [not_and, Bool.not_eq_true] at notWanting
      rw [Session.offer, ClientConnection.offerPositions_of_idle
        (notWanting (List.mem_map_of_mem isMember))]
    rw [List.map_congr_left idle]
    simp [List.zipWith_map_right, List.zipWith_self]

/-- The hub is sound and no session waits for a snapshot with a delta queued. -/
def Orderly (gateway : Gateway) : Prop :=
  gateway.hub.Sound ∧ ∀ session ∈ gateway.sessions, session.Tidy

theorem orderly_fresh (grid : Grid) (staleAfterS controlMax : ℕ) :
    (fresh grid staleAfterS controlMax).Orderly :=
  ⟨PositionHub.sound_fresh grid staleAfterS, by simp [fresh]⟩

/-- A client's action, seen from the gateway: the hub changes in its cache at
most, and one session moves. -/
theorem client_cases {gateway after : Gateway} (orderly : gateway.Orderly) {index : ℕ}
    {action : ClientAction} (stepTo : gateway.step (.client index action) = some after) :
    ∃ session moved snapshots, session ∈ gateway.sessions ∧
      PositionHub.Sound { gateway.hub with snapshots := snapshots } ∧
      session.Acted gateway.hub moved ∧
      after.hub = { gateway.hub with snapshots := snapshots } ∧
      ∀ holds : Session → Prop, (∀ other ∈ gateway.sessions, holds other) → holds moved →
        ∀ other ∈ after.sessions, holds other := by
  obtain ⟨session, found, acted⟩ := Option.bind_eq_some_iff.mp stepTo
  obtain ⟨⟨moved, hubAfter⟩, happened, rfl⟩ := Option.map_eq_some_iff.mp acted
  have isMember : session ∈ gateway.sessions := List.mem_of_getElem? found
  obtain ⟨⟨snapshots, rfl⟩, sound, result⟩ :=
    Session.act_spec orderly.1 (orderly.2 session isMember) happened
  refine ⟨session, moved, snapshots, isMember, sound, result, rfl, ?_⟩
  intro holds before ofMoved other listed
  rcases List.mem_or_eq_of_mem_set listed with wasThere | rfl
  · exact before other wasThere
  · exact ofMoved

/-- What holds of every session and of a new one holds after a connect. -/
theorem forall_connected {sessions : List Session} {holds : Session → Prop} {new : Session}
    (before : ∀ session ∈ sessions, holds session) (atStart : holds new) :
    ∀ session ∈ sessions ++ [new], holds session :=
  List.forall_mem_append.mpr ⟨before, List.forall_mem_singleton.mpr atStart⟩

theorem orderly_step {gateway after : Gateway} {event : GatewayEvent} (orderly : gateway.Orderly)
    (stepTo : gateway.step event = some after) : after.Orderly := by
  cases event with
  | apply items =>
      obtain rfl := Option.some.inj stepTo
      exact ⟨orderly.1.apply items, orderly.2⟩
  | sweep now =>
      obtain rfl := Option.some.inj stepTo
      exact ⟨orderly.1.sweep now, orderly.2⟩
  | tick tMs =>
      obtain rfl := Option.some.inj stepTo
      obtain ⟨delta, -, ticked⟩ := gateway.tick_eq orderly.1 tMs
      rw [ticked]
      refine ⟨orderly.1.discardPending, List.forall_mem_map.mpr ?_⟩
      intro session isMember
      exact Session.offer_tidy (orderly.2 session isMember) delta
  | connect =>
      obtain rfl := Option.some.inj stepTo
      exact ⟨orderly.1, forall_connected orderly.2 Bool.noConfusion⟩
  | client index action =>
      obtain ⟨_, _, _, -, sound, acted, hubAfter, others⟩ := client_cases orderly stepTo
      exact ⟨hubAfter ▸ sound, others _ orderly.2 acted.tidy⟩

end Gateway

namespace DeviceView

/-- The device is in a cell of the window. -/
def Visible (view : DeviceView) (viewport : List CellRect) : Prop :=
  ∃ entry, view.latest = some entry ∧ covers viewport entry.cell = true

/-- The next delta holds the device's item. -/
def Dirty (view : DeviceView) : Prop :=
  ∃ entry, view.latest = some entry ∧ view.changed entry.cell

/-- The next delta removes the device from the window. -/
def Leaving (view : DeviceView) (viewport : List CellRect) : Prop :=
  ∃ cell movedTo, covers viewport cell = true ∧ view.departed cell = some movedTo ∧
    ∀ target ∈ movedTo, covers viewport target = false

end DeviceView

namespace PositionHub

variable {hub : PositionHub} {delta : TickDelta}

theorem Delta.mem_removedFrom (changes : hub.Delta delta) {viewport : List CellRect}
    {deviceId : DeviceId} :
    deviceId ∈ ClientConnection.removedFrom delta viewport ↔
      (hub.view deviceId).Leaving viewport := by
  rw [ClientConnection.mem_removedFrom]
  simp only [changes.mem_departures]
  rfl

theorem Delta.mem_visibleChunks (changes : hub.Delta delta) (sound : hub.Sound)
    {connection : ClientConnection} {viewport : List CellRect} {item : PositionItem} :
    item ∈ (connection.visibleChunks delta viewport).flatten ↔
      ∃ entry, hub.latest.get? item.deviceId = some entry ∧ entry.item = item ∧
        covers viewport entry.cell = true ∧ (hub.view item.deviceId).changed entry.cell := by
  rw [List.mem_flatten]
  constructor
  · rintro ⟨chunk, isChunk, isMember⟩
    obtain ⟨cell, covered, found⟩ := ClientConnection.mem_visibleChunks.mp isChunk
    obtain ⟨entry, known, same, changed⟩ :=
      (changes.mem_chunk cell item).mp ⟨chunk, found, isMember⟩
    have there := (sound.devices item.deviceId).changed_here cell changed
    rw [DeviceView.cell?, view_latest, known] at there
    obtain rfl := Option.some.inj there
    exact ⟨entry, known, same, covered, changed⟩
  · rintro ⟨entry, known, same, covered, changed⟩
    obtain ⟨chunk, found, isMember⟩ :=
      (changes.mem_chunk entry.cell item).mpr ⟨entry, known, same, changed⟩
    exact ⟨chunk, ClientConnection.mem_visibleChunks.mpr ⟨entry.cell, covered, found⟩, isMember⟩

theorem Delta.current (changes : hub.Delta delta) (sound : hub.Sound)
    (connection : ClientConnection) (viewport : List CellRect) :
    hub.Current (connection.visibleChunks delta viewport).flatten := by
  intro item isMember
  obtain ⟨entry, known, same, -⟩ := (changes.mem_visibleChunks sound).mp isMember
  exact ⟨entry, known, same⟩

end PositionHub

/-- A client that is open, has a window, and for which nothing is on its way or
pending. -/
structure Gateway.Quiescent (gateway : Gateway) (session : Session) (viewport : List CellRect) :
    Prop where
  nothingChanged : ∀ devices ∈ gateway.hub.pending.changed.values, devices.entries = []
  nobodyDeparted : ∀ moves ∈ gateway.hub.pending.departed.values, moves.entries = []
  noDelta : session.connection.pendingDelta = none
  noSnapshot : session.connection.needsSnapshot = false
  noFrame : session.inFlight = []
  window : session.connection.viewport = some viewport
  isOpen : session.connection.closing = false

instance (gateway : Gateway) (session : Session) (viewport : List CellRect) :
    Decidable (gateway.Quiescent session viewport) :=
  decidable_of_iff
    ((∀ devices ∈ gateway.hub.pending.changed.values, devices.entries = []) ∧
      (∀ moves ∈ gateway.hub.pending.departed.values, moves.entries = []) ∧
      session.connection.pendingDelta = none ∧ session.connection.needsSnapshot = false ∧
      session.inFlight = [] ∧ session.connection.viewport = some viewport ∧
      session.connection.closing = false)
    ⟨fun ⟨changed, departed, delta, snapshot, frame, window, isOpen⟩ =>
        ⟨changed, departed, delta, snapshot, frame, window, isOpen⟩,
      fun ⟨changed, departed, delta, snapshot, frame, window, isOpen⟩ =>
        ⟨changed, departed, delta, snapshot, frame, window, isOpen⟩⟩

namespace Gateway.Quiescent

variable {gateway : Gateway} {session : Session} {viewport : List CellRect}

theorem watching (quiescent : gateway.Quiescent session viewport) : session.Watching viewport :=
  ⟨quiescent.window, quiescent.isOpen, quiescent.noSnapshot⟩

theorem settled_eq (quiescent : gateway.Quiescent session viewport) :
    session.settled = session.store := by
  simp [Session.settled, Session.queue, quiescent.noFrame, quiescent.noDelta]

theorem not_changed (quiescent : gateway.Quiescent session viewport) (deviceId : DeviceId)
    (cell : Cell) : ¬ (gateway.hub.view deviceId).changed cell := by
  intro changed
  change deviceId ∈ (gateway.hub.pending.changed.get? cell).getD ∅ at changed
  cases listed : gateway.hub.pending.changed.get? cell with
  | none => simp [listed] at changed
  | some devices =>
      have nobody := quiescent.nothingChanged devices
        (List.mem_map_of_mem (f := Prod.snd) (Dict.mem_entries_iff.mpr listed))
      rw [listed, Option.getD_some, Dict.mem_def, Dict.get?_eq_none_of_empty nobody] at changed
      cases changed

theorem not_leaving (quiescent : gateway.Quiescent session viewport) (deviceId : DeviceId)
    (rects : List CellRect) : ¬ (gateway.hub.view deviceId).Leaving rects := by
  rintro ⟨cell, movedTo, -, departed, -⟩
  obtain ⟨moves, listed, found⟩ := Option.bind_eq_some_iff.mp departed
  have nobody := quiescent.nobodyDeparted moves
    (List.mem_map_of_mem (f := Prod.snd) (Dict.mem_entries_iff.mpr listed))
  rw [Dict.get?_eq_none_of_empty nobody] at found
  cases found

end Gateway.Quiescent

end GeoTrack
