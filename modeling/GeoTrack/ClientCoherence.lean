import GeoTrack.RealtimeClient

/-!
# What the realtime client keeps together

Between any two statements the client's handles are exactly the timers that
run, and every socket it has let go of is closed or was asked to close.  That
much survives a `close` by a listener at any point.

Between events the state says in addition which of the three the client
holds: a socket while connecting and live, a retry timer while reconnecting, a
ping timer while live.  An event keeps this unless a listener closes the
client in the middle of a transition, whose second half then runs on a client
that is closed.
-/

namespace GeoTrack

namespace RealtimeClient

variable {client after : RealtimeClient}

/-- The handles are the timers that run, and only the current socket is in
use. -/
structure Tidy (client : RealtimeClient) : Prop where
  timeouts : ∀ timer, timer ∈ client.timeouts ↔ client.retryHandle = some timer
  intervals : ∀ timer, timer ∈ client.intervals ↔ client.pingHandle = some timer
  current : ∀ id, client.socket = some id → ∃ socket, client.sockets.get? id = some socket ∧
    socket.handlers = true ∧ socket.askedToClose = false ∧ socket.readyState ≠ .closed
  others : ∀ id socket, client.sockets.get? id = some socket → client.socket ≠ some id →
    socket.readyState = .closed ∨ socket.askedToClose = true ∧ socket.handlers = false
  numbered : ∀ id socket, client.sockets.get? id = some socket → id < client.nextSocket

/-- The socket was sent the viewport, unless it cannot be written to. -/
def Synced (client : RealtimeClient) : Prop :=
  ∀ id socket, client.socket = some id → client.sockets.get? id = some socket →
    socket.readyState = .connected → socket.sendFailed = false →
    client.sentViewport = client.viewport

/-- The state says what the client holds, and a live client has sent what it
shows. -/
structure Coherent (client : RealtimeClient) : Prop extends Tidy client where
  holdsSocket : (∃ id, client.socket = some id) ↔
    client.state = .connecting ∨ client.state = .live
  retries : (∃ timer, client.retryHandle = some timer) ↔ client.state = .reconnecting
  pings : (∃ timer, client.pingHandle = some timer) ↔ client.state = .live
  opened : client.state = .live → ∀ id socket, client.socket = some id →
    client.sockets.get? id = some socket → socket.readyState ≠ .connecting
  lastSent : ∀ id socket, client.socket = some id → client.sockets.get? id = some socket →
    socket.lastViewport = client.sentViewport
  synced : client.state = .live → client.Synced
  unset : client.viewport = none → client.sentViewport = none
  shut : client.shutDown = true → client.state = .closed

/-- Nothing is left of the client but its past. -/
structure Down (client : RealtimeClient) : Prop where
  socket : client.socket = none
  retryHandle : client.retryHandle = none
  pingHandle : client.pingHandle = none
  timeouts : ∀ timer, timer ∉ client.timeouts
  intervals : ∀ timer, timer ∉ client.intervals
  state : client.state = .closed

theorem Coherent.down (coherent : client.Coherent) (closed : client.state = .closed) :
    client.Down := by
  have noSocket : client.socket = none := by
    by_contra some_
    have holds := coherent.holdsSocket.mp (Option.ne_none_iff_exists'.mp some_)
    rw [closed] at holds
    simp at holds
  have noRetry : client.retryHandle = none := by
    by_contra some_
    have retries := coherent.retries.mp (Option.ne_none_iff_exists'.mp some_)
    rw [closed] at retries
    cases retries
  have noPing : client.pingHandle = none := by
    by_contra some_
    have pings := coherent.pings.mp (Option.ne_none_iff_exists'.mp some_)
    rw [closed] at pings
    cases pings
  refine ⟨noSocket, noRetry, noPing, ?_, ?_, closed⟩
  · intro timer
    simp [coherent.timeouts, noRetry]
  · intro timer
    simp [coherent.intervals, noPing]

theorem coherent_fresh : fresh.Coherent where
  timeouts := by simp [fresh]
  intervals := by simp [fresh]
  current := nofun
  others := by simp [fresh]
  numbered := by simp [fresh]
  holdsSocket := by simp [fresh]
  retries := by simp [fresh]
  pings := by simp [fresh]
  opened := nofun
  lastSent := nofun
  synced := nofun
  unset := fun _ => rfl
  shut := nofun

/-- A client that holds nothing, in whatever state. -/
structure Bare (client : RealtimeClient) : Prop extends Tidy client where
  noSocket : client.socket = none
  noRetry : client.retryHandle = none
  noPing : client.pingHandle = none
  unsent : client.sentViewport = none

theorem Bare.coherent (bare : client.Bare) (closed : client.state = .closed) :
    client.Coherent where
  toTidy := bare.toTidy
  holdsSocket := by simp [bare.noSocket, closed]
  retries := by simp [bare.noRetry, closed]
  pings := by simp [bare.noPing, closed]
  opened := by simp [closed]
  lastSent := by simp [bare.noSocket]
  synced := by simp [closed]
  unset := fun _ => bare.unsent
  shut := fun _ => closed

/-- Some fields are nobody's business. -/
theorem Coherent.update (coherent : client.Coherent) (pending : Option (ℤ × ℤ)) (ever : Bool) :
    { client with pendingPing := pending, everConnected := ever }.Coherent where
  timeouts := coherent.timeouts
  intervals := coherent.intervals
  current := coherent.current
  others := coherent.others
  numbered := coherent.numbered
  holdsSocket := coherent.holdsSocket
  retries := coherent.retries
  pings := coherent.pings
  opened := coherent.opened
  lastSent := coherent.lastSent
  synced := coherent.synced
  unset := coherent.unset
  shut := coherent.shut

section Closing

theorem Tidy.clearRetry (tidy : client.Tidy) :
    client.clearRetry.Tidy ∧ client.clearRetry.retryHandle = none := by
  unfold RealtimeClient.clearRetry
  cases handle : client.retryHandle with
  | none => exact ⟨tidy, handle⟩
  | some timer =>
      refine ⟨⟨?_, tidy.intervals, tidy.current, tidy.others, tidy.numbered⟩, rfl⟩
      intro other
      have running := tidy.timeouts other
      rw [handle, Option.some.injEq] at running
      rw [KeySet.mem_discard, running]
      simp [eq_comm]

theorem Tidy.stopPing (tidy : client.Tidy) :
    client.stopPing.Tidy ∧ client.stopPing.pingHandle = none := by
  unfold RealtimeClient.stopPing
  cases handle : client.pingHandle with
  | none =>
      simp only [and_true]
      exact ⟨tidy.timeouts, fun other => by rw [tidy.intervals other, handle], tidy.current,
        tidy.others, tidy.numbered⟩
  | some timer =>
      refine ⟨⟨tidy.timeouts, ?_, tidy.current, tidy.others, tidy.numbered⟩, rfl⟩
      intro other
      have running := tidy.intervals other
      rw [handle, Option.some.injEq] at running
      rw [KeySet.mem_discard, running]
      simp [eq_comm]

theorem Tidy.dropSocket (tidy : client.Tidy) :
    client.dropSocket.Tidy ∧ client.dropSocket.socket = none := by
  unfold RealtimeClient.dropSocket
  cases held : client.socket with
  | none =>
      simp only [Option.bind_none, and_true]
      refine ⟨tidy.timeouts, tidy.intervals, by simp, ?_, tidy.numbered⟩
      intro id socket found _
      exact tidy.others id socket found (by simp [held])
  | some id =>
      obtain ⟨socket, found, -, -, alive⟩ := tidy.current id held
      simp only [Option.bind_some, found, Option.map_some, and_true]
      refine ⟨tidy.timeouts, tidy.intervals, by simp, ?_, ?_⟩
      · intro other another there _
        rw [Dict.get?_set] at there
        split at there
        case isTrue =>
            obtain rfl := Option.some.inj there
            exact Or.inr (by simp [Socket.drop, alive])
        case isFalse differs =>
            apply tidy.others other another there
            rw [held, ne_eq, Option.some.injEq]
            exact Ne.symm differs
      · intro other another there
        rw [Dict.get?_set] at there
        split at there
        case isTrue same => exact same ▸ tidy.numbered id socket found
        case isFalse => exact tidy.numbered other another there

theorem clearRetry_eq (client : RealtimeClient) : client.clearRetry = { client with
    timeouts := client.clearRetry.timeouts
    retryHandle := none } := by
  unfold clearRetry
  cases handle : client.retryHandle with
  | none => simp only [← handle]
  | some timer => rfl

theorem stopPing_eq (client : RealtimeClient) : client.stopPing = { client with
    intervals := client.stopPing.intervals
    pingHandle := none
    pendingPing := none } := by
  unfold stopPing
  cases handle : client.pingHandle with
  | none => simp only [← handle]
  | some timer => rfl

theorem dropSocket_eq (client : RealtimeClient) : client.dropSocket = { client with
    sockets := client.dropSocket.sockets
    socket := none
    sentViewport := none
    sessionId := none } := by
  unfold dropSocket
  simp only
  split <;> rfl

/-- What `close` resets; everything else stays. -/
theorem closeDown_eq (client : RealtimeClient) : client.closeDown = { client with
    timeouts := client.closeDown.timeouts
    retryHandle := none
    intervals := client.closeDown.intervals
    pingHandle := none
    pendingPing := none
    sockets := client.closeDown.sockets
    socket := none
    sentViewport := none
    sessionId := none
    state := .closed
    shutDown := true } := by
  unfold closeDown
  rw [dropSocket_eq, stopPing_eq, clearRetry_eq]

/-- `close` cleans up after whatever was going on. -/
theorem Tidy.closeDown (tidy : client.Tidy) :
    client.closeDown.Coherent ∧ client.closeDown.shutDown = true ∧
      client.closeDown.state = .closed := by
  obtain ⟨cleared, -⟩ := tidy.clearRetry
  obtain ⟨stopped, -⟩ := cleared.stopPing
  obtain ⟨dropped, -⟩ := stopped.dropSocket
  have tidyDown : client.closeDown.Tidy :=
    ⟨dropped.timeouts, dropped.intervals, dropped.current, dropped.others, dropped.numbered⟩
  have bare : client.closeDown.Bare := by
    rw [closeDown_eq] at tidyDown ⊢
    exact ⟨tidyDown, rfl, rfl, rfl, rfl⟩
  exact ⟨bare.coherent rfl, rfl, rfl⟩

/-- A coherent client that was shut down. -/
structure Settled (client : RealtimeClient) : Prop where
  coherent : client.Coherent
  shutDown : client.shutDown = true

theorem Settled.state (settled : client.Settled) : client.state = .closed :=
  settled.coherent.shut settled.shutDown

theorem Settled.react (settled : client.Settled) (reaction : Reaction) :
    (client.react reaction).Settled := by
  induction reaction generalizing client with
  | done => exact settled
  | close nested more nestedIh moreIh =>
      obtain ⟨coherent, shutDown, -⟩ := settled.coherent.toTidy.closeDown
      exact moreIh (nestedIh ⟨coherent, shutDown⟩)

/-- Listeners that do not just listen leave a tidy client settled. -/
theorem Tidy.react (tidy : client.Tidy) {reaction : Reaction} (closes : reaction ≠ .done) :
    (client.react reaction).Settled := by
  cases reaction with
  | done => exact absurd rfl closes
  | close nested more =>
      obtain ⟨coherent, shutDown, -⟩ := tidy.closeDown
      have settled : client.closeDown.Settled := ⟨coherent, shutDown⟩
      exact (settled.react nested).react more

theorem emit_of_done {listeners : Listeners} {emission : Emission}
    (silent : listeners emission = .done) : client.emit listeners emission = client := by
  rw [emit, silent, react]

theorem setState_of_done {listeners : Listeners} {state : ClientState}
    (silent : listeners (.status state client.attempt
      (if state = .reconnecting then client.retryInMs else 0)) = .done) :
    client.setState listeners state = { client with state := state } :=
  emit_of_done silent

theorem Coherent.emit (coherent : client.Coherent) (listeners : Listeners)
    (emission : Emission) : (client.emit listeners emission).Coherent := by
  by_cases silent : listeners emission = .done
  · rw [emit_of_done silent]
    exact coherent
  · exact (coherent.toTidy.react silent).coherent

end Closing

section Sockets

/-- The browser changes the current socket. -/
theorem Tidy.putCurrent (tidy : client.Tidy) {id : SocketId} {socket : Socket}
    (held : client.socket = some id) (handled : socket.handlers = true)
    (kept : socket.askedToClose = false) (alive : socket.readyState ≠ .closed) :
    (client.putSocket id socket).Tidy where
  timeouts := tidy.timeouts
  intervals := tidy.intervals
  current := by
    intro other still
    obtain rfl := Option.some.inj (held.symm.trans still)
    refine ⟨socket, ?_, handled, kept, alive⟩
    rw [putSocket, Dict.get?_set, if_pos rfl]
  others := by
    intro other another found notHeld
    rw [putSocket, Dict.get?_set] at found
    split at found
    case isTrue same => exact absurd (same ▸ held) notHeld
    case isFalse => exact tidy.others other another found notHeld
  numbered := by
    intro other another found
    rw [putSocket, Dict.get?_set] at found
    split at found
    case isTrue same =>
        obtain ⟨known, there, -⟩ := tidy.current id held
        exact same ▸ tidy.numbered id known there
    case isFalse => exact tidy.numbered other another found

/-- The browser changes a socket the client has let go of. -/
theorem Coherent.putOther (coherent : client.Coherent) {id : SocketId} {old socket : Socket}
    (known : client.sockets.get? id = some old) (notHeld : client.socket ≠ some id)
    (gone : socket.readyState = .closed ∨ socket.askedToClose = true ∧ socket.handlers = false) :
    (client.putSocket id socket).Coherent := by
  have current {other : SocketId} (held : client.socket = some other) :
      (client.putSocket id socket).sockets.get? other = client.sockets.get? other := by
    rw [putSocket, Dict.get?_set, if_neg]
    rintro rfl
    exact notHeld held
  exact {
    timeouts := coherent.timeouts
    intervals := coherent.intervals
    current := by
      intro other held
      rw [current held]
      exact coherent.current other held
    others := by
      intro other another found differs
      rw [putSocket, Dict.get?_set] at found
      split at found
      case isTrue => exact Option.some.inj found ▸ gone
      case isFalse => exact coherent.others other another found differs
    numbered := by
      intro other another found
      rw [putSocket, Dict.get?_set] at found
      split at found
      case isTrue same => exact same ▸ coherent.numbered id old known
      case isFalse => exact coherent.numbered other another found
    holdsSocket := coherent.holdsSocket
    retries := coherent.retries
    pings := coherent.pings
    opened := fun live other another held found =>
      coherent.opened live other another held (current held ▸ found)
    lastSent := fun other another held found =>
      coherent.lastSent other another held (current held ▸ found)
    synced := fun live other another held found =>
      coherent.synced live other another held (current held ▸ found)
    unset := coherent.unset
    shut := coherent.shut }

/-- The socket opens, or its peer begins to close it. -/
theorem Coherent.moveSocket (coherent : client.Coherent) {id : SocketId} {socket : Socket}
    (known : client.sockets.get? id = some socket) (reached : ReadyState)
    (before : socket.readyState ≠ .closed) (after : reached ≠ .closed)
    (forward : reached = .closing ∨ socket.readyState = .connecting ∧ reached = .connected) :
    (client.putSocket id { socket with readyState := reached }).Coherent := by
  by_cases held : client.socket = some id
  case neg =>
      apply coherent.putOther known held
      exact Or.inr ((coherent.others id socket known held).resolve_left before)
  obtain ⟨current, there, handled, kept, -⟩ := coherent.current id held
  obtain rfl := Option.some.inj (known.symm.trans there)
  have moved {other : SocketId} {another : Socket} (still : client.socket = some other)
      (found : (client.putSocket id { socket with readyState := reached }).sockets.get? other =
        some another) : another = { socket with readyState := reached } := by
    obtain rfl := Option.some.inj (held.symm.trans still)
    rw [putSocket, Dict.get?_set, if_pos rfl] at found
    exact (Option.some.inj found).symm
  exact {
    toTidy := coherent.toTidy.putCurrent held handled kept after
    holdsSocket := coherent.holdsSocket
    retries := coherent.retries
    pings := coherent.pings
    opened := by
      intro live other another still found
      obtain rfl := moved still found
      rcases forward with rfl | ⟨-, rfl⟩ <;> nofun
    lastSent := by
      intro other another still found
      obtain rfl := moved still found
      exact coherent.lastSent id socket held known
    synced := by
      intro live other another still found connected _
      obtain rfl := moved still found
      rcases forward with rfl | ⟨opening, -⟩
      · cases connected
      · exact absurd opening (coherent.opened live id socket held known)
    unset := coherent.unset
    shut := coherent.shut }

end Sockets

end RealtimeClient

end GeoTrack
