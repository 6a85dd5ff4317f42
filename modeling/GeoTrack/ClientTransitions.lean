import GeoTrack.ClientCoherence

/-!
# The transitions of the realtime client

One lemma for each event says what it leaves: a coherent client, or, where a
listener closed the client in the middle of a transition that goes on
regardless, a client that was shut down and holds something all the same.

Opening a socket and scheduling a retry first tell the listeners and then
store the handle.  A hello starts the ping timer after the status has been
told, and only a listener of the hello itself can still undo that.
-/

namespace GeoTrack

namespace RealtimeClient

variable {client after : RealtimeClient}

/-- An event leaves a coherent client, or one that was closed midway and holds
something all the same. -/
structure Outcome (midway : Prop) (after : RealtimeClient) : Prop where
  calm : ¬ midway → after.Coherent
  cut : midway → after.shutDown = true ∧ ¬ after.Down

theorem Coherent.outcome (coherent : client.Coherent) {midway : Prop} (never : ¬ midway) :
    Outcome midway client :=
  ⟨fun _ => coherent, fun happens => absurd happens never⟩

section Opening

theorem clearRetry_of_none (none_ : client.retryHandle = none) : client.clearRetry = client := by
  rw [clearRetry, none_]

theorem Tidy.newSocket (tidy : client.Tidy) (noSocket : client.socket = none) :
    client.newSocket.Tidy where
  timeouts := tidy.timeouts
  intervals := tidy.intervals
  current := by
    intro id held
    obtain rfl := Option.some.inj held
    refine ⟨.fresh, ?_, rfl, rfl, nofun⟩
    rw [RealtimeClient.newSocket, Dict.get?_set, if_pos rfl]
  others := by
    intro id socket found other
    rw [RealtimeClient.newSocket, Dict.get?_set] at found
    split at found
    case isTrue same => exact absurd (congrArg some same.symm) other
    case isFalse => exact tidy.others id socket found (by simp [noSocket])
  numbered := by
    intro id socket found
    rw [RealtimeClient.newSocket, Dict.get?_set] at found
    split at found
    case isTrue same => exact same ▸ Nat.lt_succ_self _
    case isFalse => exact Nat.lt_succ_of_lt (tidy.numbered id socket found)

theorem Tidy.openSocket (tidy : client.Tidy) (noSocket : client.socket = none)
    (noRetry : client.retryHandle = none) (noPing : client.pingHandle = none)
    (running : client.shutDown = false) (listeners : Listeners) :
    Outcome (listeners (.status .connecting client.attempt 0) ≠ .done)
      (client.openSocket listeners) := by
  rw [RealtimeClient.openSocket, clearRetry_of_none noRetry]
  have connecting :
      { client with sentViewport := none, state := ClientState.connecting }.Bare :=
    { timeouts := tidy.timeouts
      intervals := tidy.intervals
      current := tidy.current
      others := tidy.others
      numbered := tidy.numbered
      noSocket := noSocket
      noRetry := noRetry
      noPing := noPing
      unsent := rfl }
  constructor
  · intro listening
    have quiet : { client with sentViewport := none }.setState listeners .connecting =
        { client with sentViewport := none, state := ClientState.connecting } :=
      setState_of_done (not_not.mp listening)
    rw [quiet]
    exact {
      toTidy := connecting.toTidy.newSocket noSocket
      holdsSocket := iff_of_true ⟨_, rfl⟩ (Or.inl rfl)
      retries := by simp [RealtimeClient.newSocket, noRetry]
      pings := by simp [RealtimeClient.newSocket, noPing]
      opened := nofun
      lastSent := by
        intro id socket held found
        obtain rfl := Option.some.inj held
        rw [RealtimeClient.newSocket, Dict.get?_set, if_pos rfl, Option.some.injEq] at found
        rw [← found]
        rfl
      synced := nofun
      unset := fun _ => rfl
      shut := by simp [RealtimeClient.newSocket, running] }
  · intro closes
    have settled := connecting.toTidy.react closes
    refine ⟨settled.shutDown, fun down => ?_⟩
    exact nomatch down.socket

/-- `connect` does nothing while the client has a socket or a retry timer. -/
theorem Coherent.connect (coherent : client.Coherent) (listeners : Listeners) :
    Outcome (client.socket = none ∧ client.retryHandle = none ∧
        listeners (.status .connecting client.attempt 0) ≠ .done)
      (client.connect listeners) := by
  have resumed : { client with shutDown := false }.Coherent :=
    { toTidy := ⟨coherent.timeouts, coherent.intervals, coherent.current, coherent.others,
        coherent.numbered⟩
      holdsSocket := coherent.holdsSocket
      retries := coherent.retries
      pings := coherent.pings
      opened := coherent.opened
      lastSent := coherent.lastSent
      synced := coherent.synced
      unset := coherent.unset
      shut := nofun }
  unfold RealtimeClient.connect
  split
  case isTrue busy =>
      apply resumed.outcome
      rintro ⟨noSocket, noRetry, -⟩
      simp [noSocket, noRetry] at busy
  case isFalse free =>
      simp only [Bool.or_eq_true, Option.isSome_iff_ne_none, not_or, not_not] at free
      obtain ⟨noSocket, noRetry⟩ := free
      have noPing : client.pingHandle = none := by
        by_contra some_
        have live := coherent.pings.mp (Option.ne_none_iff_exists'.mp some_)
        obtain ⟨id, held⟩ := coherent.holdsSocket.mpr (Or.inr live)
        rw [noSocket] at held
        cases held
      obtain ⟨calm, cut⟩ := resumed.toTidy.openSocket noSocket noRetry noPing rfl listeners
      constructor
      · intro listening
        exact calm fun closes => listening ⟨noSocket, noRetry, closes⟩
      · rintro ⟨-, -, closes⟩
        exact cut closes

/-- The retry timer fires. -/
theorem Coherent.retryFires (coherent : client.Coherent) {timer : TimerId}
    (runs : timer ∈ client.timeouts) (listeners : Listeners) :
    Outcome (listeners (.status .connecting client.attempt 0) ≠ .done)
      ({ client with
        timeouts := client.timeouts.discard timer
        retryHandle := none }.openSocket listeners) := by
  have handle := (coherent.timeouts timer).mp runs
  have reconnecting := coherent.retries.mp ⟨timer, handle⟩
  have noSocket : client.socket = none := by
    by_contra some_
    have holds := coherent.holdsSocket.mp (Option.ne_none_iff_exists'.mp some_)
    simp [reconnecting] at holds
  have noPing : client.pingHandle = none := by
    by_contra some_
    have live := coherent.pings.mp (Option.ne_none_iff_exists'.mp some_)
    simp [reconnecting] at live
  have running : client.shutDown = false := by
    by_contra shut
    have closed := coherent.shut (Bool.not_eq_false _ ▸ shut)
    simp [reconnecting] at closed
  obtain ⟨cleared, -⟩ := coherent.toTidy.clearRetry
  rw [RealtimeClient.clearRetry, handle] at cleared
  exact cleared.openSocket noSocket rfl noPing running listeners

end Opening

section Live

/-- A live client but for its ping timer and the viewport it has to send. -/
structure Connected (client : RealtimeClient) : Prop extends Tidy client where
  held : ∃ id, client.socket = some id
  live : client.state = .live
  noRetry : client.retryHandle = none
  opened : ∀ id socket, client.socket = some id → client.sockets.get? id = some socket →
    socket.readyState ≠ .connecting
  lastSent : ∀ id socket, client.socket = some id → client.sockets.get? id = some socket →
    socket.lastViewport = client.sentViewport
  unset : client.viewport = none → client.sentViewport = none
  running : client.shutDown = false

theorem Coherent.noRetry (coherent : client.Coherent) {id : SocketId}
    (held : client.socket = some id) : client.retryHandle = none := by
  by_contra some_
  have reconnecting := coherent.retries.mp (Option.ne_none_iff_exists'.mp some_)
  have holds := coherent.holdsSocket.mp ⟨id, held⟩
  simp [reconnecting] at holds

theorem Coherent.running (coherent : client.Coherent) {id : SocketId}
    (held : client.socket = some id) : client.shutDown = false := by
  by_contra shut
  have closed := coherent.shut (Bool.not_eq_false _ ▸ shut)
  have holds := coherent.holdsSocket.mp ⟨id, held⟩
  simp [closed] at holds

theorem Coherent.connected (coherent : client.Coherent) (live : client.state = .live) :
    client.Connected := by
  obtain ⟨id, held⟩ := coherent.holdsSocket.mpr (Or.inr live)
  exact {
    toTidy := coherent.toTidy
    held := ⟨id, held⟩
    live := live
    noRetry := coherent.noRetry held
    opened := coherent.opened live
    lastSent := coherent.lastSent
    unset := coherent.unset
    running := coherent.running held }

theorem Connected.coherent (connected : client.Connected) (synced : client.Synced)
    (pings : ∃ timer, client.pingHandle = some timer) : client.Coherent where
  toTidy := connected.toTidy
  holdsSocket := iff_of_true connected.held (Or.inr connected.live)
  retries := by simp [connected.noRetry, connected.live]
  pings := iff_of_true pings connected.live
  opened := fun _ => connected.opened
  lastSent := connected.lastSent
  synced := fun _ => synced
  unset := connected.unset
  shut := by simp [connected.running]

theorem writable_eq_some_iff {id : SocketId} {socket : Socket} :
    client.writable = some (id, socket) ↔ client.socket = some id ∧
      client.sockets.get? id = some socket ∧ socket.readyState = .connected := by
  simp only [writable, Option.filter_eq_some_iff, Option.bind_eq_some_iff, Option.map_eq_some_iff,
    Prod.mk.injEq, decide_eq_true_eq]
  constructor
  · rintro ⟨⟨_, held, _, found, rfl, rfl⟩, connected⟩
    exact ⟨held, found, connected⟩
  · rintro ⟨held, found, connected⟩
    exact ⟨⟨id, held, socket, found, rfl, rfl⟩, connected⟩

/-- What becomes of a live client when something is written on its socket. -/
theorem Connected.write (connected : client.Connected) {id : SocketId} {socket : Socket}
    (writes : client.writable = some (id, socket)) (written : Socket)
    (open_ : written.readyState = .connected)
    (handled : written.handlers = socket.handlers)
    (kept : written.askedToClose = socket.askedToClose) {box : Option Box}
    (last : written.lastViewport = box) (unset : client.viewport = none → box = none) :
    { client.putSocket id written with sentViewport := box }.Connected := by
  obtain ⟨held, found, -⟩ := writable_eq_some_iff.mp writes
  obtain ⟨current, there, isHandled, isKept, -⟩ := connected.current id held
  obtain rfl := Option.some.inj (found.symm.trans there)
  have tidy : (client.putSocket id written).Tidy :=
    connected.toTidy.putCurrent held (handled.trans isHandled) (kept.trans isKept)
      (by simp [open_])
  have only {other : SocketId} {another : Socket} (still : client.socket = some other)
      (lookup : (client.putSocket id written).sockets.get? other = some another) :
      another = written := by
    obtain rfl := Option.some.inj (held.symm.trans still)
    rw [putSocket, Dict.get?_set, if_pos rfl] at lookup
    exact (Option.some.inj lookup).symm
  exact {
    timeouts := tidy.timeouts
    intervals := tidy.intervals
    current := tidy.current
    others := tidy.others
    numbered := tidy.numbered
    held := connected.held
    live := connected.live
    noRetry := connected.noRetry
    opened := by
      intro other another still lookup
      obtain rfl := only still lookup
      simp [open_]
    lastSent := by
      intro other another still lookup
      obtain rfl := only still lookup
      exact last
    unset := unset
    running := connected.running }

@[simp]
theorem lastViewport_append_viewport (sent : List ClientMessage) (bbox : Box)
    (state : ReadyState) (handlers asked failed : Bool) :
    Socket.lastViewport ⟨state, handlers, asked, sent ++ [.viewport bbox], failed⟩ = some bbox := by
  simp [Socket.lastViewport]

@[simp]
theorem lastViewport_append_ping (sent : List ClientMessage) (t : ℤ)
    (state : ReadyState) (handlers asked failed : Bool) :
    Socket.lastViewport ⟨state, handlers, asked, sent ++ [.ping t], failed⟩ =
      Socket.lastViewport ⟨state, handlers, asked, sent, failed⟩ := by
  simp [Socket.lastViewport]

/-- A write that the browser refuses leaves the socket marked, so nothing is
promised about it any more. -/
theorem Connected.refused (connected : client.Connected) {id : SocketId} {socket : Socket}
    (writes : client.writable = some (id, socket)) :
    (client.putSocket id { socket with sendFailed := true }).Connected ∧
      (client.putSocket id { socket with sendFailed := true }).Synced := by
  obtain ⟨held, found, open_⟩ := writable_eq_some_iff.mp writes
  have marked : { client.putSocket id { socket with sendFailed := true } with
      sentViewport := client.sentViewport }.Connected :=
    connected.write writes { socket with sendFailed := true } open_ rfl rfl
      (connected.lastSent id socket held found) connected.unset
  refine ⟨marked, ?_⟩
  intro other another still lookup _ sends
  obtain rfl := Option.some.inj (held.symm.trans still)
  rw [putSocket, Dict.get?_set, if_pos rfl] at lookup
  obtain rfl := Option.some.inj lookup
  cases sends

theorem sameBox_iff {first second : Box} : sameBox first second = true ↔ first = second := by
  simp only [sameBox, Bool.and_eq_true, decide_eq_true_eq, List.all_eq_true]
  constructor
  · rintro ⟨length, pointwise⟩
    apply List.ext_getElem length
    intro index inFirst inSecond
    have inZip : index < (first.zip second).length := by simp [inFirst, inSecond]
    have same := pointwise _ (List.getElem_mem inZip)
    rwa [List.getElem_zip] at same
  · rintro rfl
    refine ⟨rfl, ?_⟩
    intro pair both
    obtain ⟨index, bound, rfl⟩ := List.getElem_of_mem both
    rw [List.getElem_zip]

/-- The viewport reaches the socket of a live client. -/
theorem Connected.flushViewport (connected : client.Connected) (works : Bool) :
    (client.flushViewport works).Connected ∧ (client.flushViewport works).Synced := by
  unfold RealtimeClient.flushViewport
  cases shown : client.viewport with
  | none =>
      refine ⟨connected, ?_⟩
      intro id socket _ _ _ _
      rw [shown, connected.unset shown]
  | some bbox =>
      simp only [connected.live, ne_eq, not_true_eq_false, if_false]
      split
      case isTrue repeated =>
          obtain ⟨sent, isSent, same⟩ := (Option.any_eq_true _ _).mp repeated
          obtain rfl := sameBox_iff.mp same
          refine ⟨connected, ?_⟩
          intro id socket _ _ _ _
          rw [isSent, shown]
      case isFalse =>
          unfold send
          cases writes : client.writable with
          | none =>
              refine ⟨connected, ?_⟩
              intro id socket held found open_
              rw [writable_eq_some_iff.mpr ⟨held, found, open_⟩] at writes
              cases writes
          | some entry =>
              obtain ⟨id, socket⟩ := entry
              obtain ⟨-, -, open_⟩ := writable_eq_some_iff.mp writes
              cases works with
              | false => exact connected.refused writes
              | true =>
                  have written := connected.write writes
                    { socket with sent := socket.sent ++ [.viewport bbox] } open_ rfl rfl
                    (lastViewport_append_viewport ..) (by simp [shown])
                  exact ⟨written, fun _ _ _ _ _ _ => shown.symm⟩

theorem flushViewport_of_not_live (works : Bool) (idle : client.state ≠ .live) :
    client.flushViewport works = client := by
  unfold RealtimeClient.flushViewport
  cases client.viewport with
  | none => rfl
  | some bbox => simp only [ne_eq, idle, not_false_eq_true, if_true]

theorem send_cases (works : Bool) (client : RealtimeClient) (message : ClientMessage) :
    (client.send works message).2 = client ∨
      ∃ id socket, client.writable = some (id, socket) ∧
        ((client.send works message).2 =
            client.putSocket id { socket with sent := socket.sent ++ [message] } ∨
          (client.send works message).2 = client.putSocket id { socket with sendFailed := true }) := by
  unfold send
  cases writes : client.writable with
  | none => exact Or.inl rfl
  | some entry =>
      refine Or.inr ⟨entry.1, entry.2, rfl, ?_⟩
      cases works with
      | true => exact Or.inl rfl
      | false => exact Or.inr rfl

@[simp]
theorem send_pingHandle (works : Bool) (client : RealtimeClient) (message : ClientMessage) :
    (client.send works message).2.pingHandle = client.pingHandle := by
  rcases send_cases works client message with same | ⟨_, _, _, same | same⟩ <;> rw [same] <;> rfl

@[simp]
theorem flushViewport_pingHandle (works : Bool) (client : RealtimeClient) :
    (client.flushViewport works).pingHandle = client.pingHandle := by
  unfold RealtimeClient.flushViewport
  cases client.viewport with
  | none => rfl
  | some bbox =>
      simp only
      split
      · rfl
      split
      · rfl
      have kept := send_pingHandle works client (.viewport bbox)
      split
      case h_1 sent => rwa [sent] at kept
      case h_2 sent => rwa [sent] at kept

theorem Coherent.setViewport (coherent : client.Coherent) (works : Bool) (bbox : Box) :
    (client.setViewport works bbox).Coherent := by
  unfold RealtimeClient.setViewport
  by_cases live : client.state = .live
  case pos =>
      have connected := coherent.connected live
      have shown : { client with viewport := some bbox }.Connected :=
        { timeouts := connected.timeouts
          intervals := connected.intervals
          current := connected.current
          others := connected.others
          numbered := connected.numbered
          held := connected.held
          live := live
          noRetry := connected.noRetry
          opened := connected.opened
          lastSent := connected.lastSent
          unset := nofun
          running := connected.running }
      obtain ⟨flushed, synced⟩ := shown.flushViewport works
      apply flushed.coherent synced
      rw [flushViewport_pingHandle]
      exact coherent.pings.mpr live
  case neg =>
      have same : { client with viewport := some bbox }.flushViewport works =
          { client with viewport := some bbox } := flushViewport_of_not_live works live
      rw [same]
      exact {
        timeouts := coherent.timeouts
        intervals := coherent.intervals
        current := coherent.current
        others := coherent.others
        numbered := coherent.numbered
        holdsSocket := coherent.holdsSocket
        retries := coherent.retries
        pings := coherent.pings
        opened := coherent.opened
        lastSent := coherent.lastSent
        synced := fun isLive => absurd isLive live
        unset := nofun
        shut := coherent.shut }

/-- The ping timer fires. -/
theorem Coherent.pingFires (coherent : client.Coherent) {timer : TimerId}
    (runs : timer ∈ client.intervals) (works : Bool) (pending : Option (ℤ × ℤ)) (t : ℤ) :
    ({ client with pendingPing := pending }.send works (.ping t)).2.Coherent := by
  have handle := (coherent.intervals timer).mp runs
  have live := coherent.pings.mp ⟨timer, handle⟩
  have pinged : { client with pendingPing := pending }.Coherent :=
    coherent.update pending client.everConnected
  have connected := pinged.connected live
  rcases send_cases works { client with pendingPing := pending } (.ping t) with
    same | ⟨id, socket, writes, same | same⟩
  · rw [same]
    exact pinged
  · obtain ⟨held, found, open_⟩ := writable_eq_some_iff.mp writes
    have last := (lastViewport_append_ping _ t ..).trans (connected.lastSent id socket held found)
    have written := connected.write writes { socket with sent := socket.sent ++ [.ping t] } open_
      rfl rfl last connected.unset
    rw [same]
    apply Connected.coherent written
    · intro other another still lookup _ sends
      obtain rfl := Option.some.inj (held.symm.trans still)
      rw [putSocket, Dict.get?_set, if_pos rfl] at lookup
      obtain rfl := Option.some.inj lookup
      exact pinged.synced live id socket held found open_ sends
    · exact ⟨timer, handle⟩
  · obtain ⟨marked, synced⟩ := connected.refused writes
    rw [same]
    exact marked.coherent synced ⟨timer, handle⟩

theorem startPing_eq (client : RealtimeClient) : client.startPing = { client with
    intervals := client.startPing.intervals
    pingHandle := some client.nextTimer
    pendingPing := none
    nextTimer := client.nextTimer + 1 } := by
  unfold startPing
  rw [stopPing_eq]

theorem Tidy.startPing (tidy : client.Tidy) : client.startPing.Tidy := by
  obtain ⟨stopped, noPing⟩ := tidy.stopPing
  exact {
    timeouts := stopped.timeouts
    intervals := by
      intro timer
      have running := stopped.intervals timer
      rw [noPing] at running
      rw [RealtimeClient.startPing, KeySet.mem_add, running]
      simp [eq_comm]
    current := stopped.current
    others := stopped.others
    numbered := stopped.numbered }

theorem Connected.startPing (connected : client.Connected) (synced : client.Synced) :
    client.startPing.Coherent := by
  have tidy := connected.toTidy.startPing
  rw [startPing_eq] at tidy ⊢
  have pinging : { client with
      intervals := client.startPing.intervals
      pingHandle := some client.nextTimer
      pendingPing := none
      nextTimer := client.nextTimer + 1 }.Connected :=
    { toTidy := tidy
      held := connected.held
      live := connected.live
      noRetry := connected.noRetry
      opened := connected.opened
      lastSent := connected.lastSent
      unset := connected.unset
      running := connected.running }
  exact pinging.coherent synced ⟨_, rfl⟩

/-- What no `close` changes. -/
theorem react_kept (client : RealtimeClient) (reaction : Reaction) :
    (client.react reaction).everConnected = client.everConnected ∧
      (client.react reaction).viewport = client.viewport := by
  induction reaction generalizing client with
  | done => exact ⟨rfl, rfl⟩
  | close nested more nestedIh moreIh =>
      obtain ⟨nestedEver, nestedViewport⟩ := nestedIh client.closeDown
      obtain ⟨moreEver, moreViewport⟩ := moreIh (client.closeDown.react nested)
      rw [react, moreEver, nestedEver, moreViewport, nestedViewport, closeDown_eq]
      exact ⟨rfl, rfl⟩

/-- A hello ends with the ping timer running, unless a listener closes the
client after it has been started. -/
theorem Coherent.onHello (coherent : client.Coherent) {id : SocketId} {socket : Socket}
    (held : client.socket = some id) (found : client.sockets.get? id = some socket)
    (open_ : socket.readyState ≠ .connecting) (listeners : Listeners) (works : Bool)
    (frame : Json) :
    Outcome (listeners (.status .live 0 0) ≠ .done ∧
        listeners (.hello frame client.everConnected) = .done)
      (client.onHello listeners works frame) := by
  let welcome := { client with
    sessionId := frame.field "session_id", attempt := 0, retryInMs := 0, state := .live }
  have connected : welcome.Connected :=
    { timeouts := coherent.timeouts
      intervals := coherent.intervals
      current := coherent.current
      others := coherent.others
      numbered := coherent.numbered
      held := ⟨id, held⟩
      live := rfl
      noRetry := coherent.noRetry held
      opened := by
        intro other another still lookup
        obtain rfl := Option.some.inj (held.symm.trans still)
        obtain rfl := Option.some.inj (found.symm.trans lookup)
        exact open_
      lastSent := coherent.lastSent
      unset := coherent.unset
      running := coherent.running held }
  have unfolded : client.onHello listeners works frame =
      { (((welcome.react (listeners (.status .live 0 0))).flushViewport works).startPing.emit
          listeners (.hello frame
            ((welcome.react (listeners (.status .live 0 0))).flushViewport works).startPing.everConnected))
        with everConnected := true } := rfl
  rw [unfolded]
  by_cases silent : listeners (.status .live 0 0) = .done
  case pos =>
      obtain ⟨flushed, synced⟩ := connected.flushViewport works
      have pinging := flushed.startPing synced
      apply Coherent.outcome
      · rw [silent, react]
        exact (pinging.emit ..).update _ true
      · exact fun midway => midway.1 silent
  case neg =>
      have settled := connected.toTidy.react silent
      obtain ⟨everKept, -⟩ := react_kept welcome (listeners (.status .live 0 0))
      generalize welcome.react (listeners (.status .live 0 0)) = closed at settled everKept
      rw [flushViewport_of_not_live works (by simp [settled.state])]
      have ever : closed.startPing.everConnected = client.everConnected := by
        rw [startPing_eq, everKept]
      rw [ever]
      constructor
      · intro noted
        rw [not_and] at noted
        have closes := noted silent
        exact (settled.coherent.toTidy.startPing.react closes).coherent.update _ true
      · rintro ⟨-, listening⟩
        rw [emit_of_done listening]
        rw [startPing_eq]
        exact ⟨settled.shutDown, fun down => Option.some_ne_none _ down.pingHandle⟩

end Live

section Losing

theorem react_shutDown (client : RealtimeClient) (shut : client.shutDown = true) (reaction : Reaction) :
    (client.react reaction).shutDown = true := by
  induction reaction generalizing client with
  | done => exact shut
  | close nested more nestedIh moreIh =>
      rw [react]
      apply moreIh
      apply nestedIh
      rw [closeDown_eq]

/-- The client waits for its next attempt. -/
theorem Bare.scheduleRetry (bare : client.Bare) (running : client.shutDown = false)
    (settings : ClientSettings) (listeners : Listeners) (random : ℚ) :
    Outcome (listeners (.status .reconnecting (client.attempt + 1)
        (settings.backoff.retryInMs client.attempt random)) ≠ .done)
      (client.scheduleRetry settings listeners random) := by
  let waiting := { client with
    attempt := client.attempt + 1
    retryInMs := settings.backoff.retryInMs client.attempt random }
  constructor
  · intro listening
    have quiet : waiting.setState listeners .reconnecting = { waiting with state := .reconnecting } :=
      setState_of_done (not_not.mp listening)
    unfold RealtimeClient.scheduleRetry
    rw [quiet]
    exact {
      timeouts := by
        intro timer
        have none_ := bare.timeouts timer
        rw [bare.noRetry] at none_
        simp only [KeySet.mem_add, Option.some.injEq]
        constructor
        · rintro (rfl | runs)
          · rfl
          · cases none_.mp runs
        · rintro rfl
          exact Or.inl rfl
      intervals := bare.intervals
      current := bare.current
      others := bare.others
      numbered := bare.numbered
      holdsSocket := by simp [waiting, bare.noSocket]
      retries := iff_of_true ⟨_, rfl⟩ rfl
      pings := by simp [waiting, bare.noPing]
      opened := nofun
      lastSent := by simp [waiting, bare.noSocket]
      synced := nofun
      unset := fun _ => bare.unsent
      shut := by simp [waiting, running] }
  · intro closes
    have tidy : { waiting with state := ClientState.reconnecting }.Tidy :=
      ⟨bare.timeouts, bare.intervals, bare.current, bare.others, bare.numbered⟩
    exact ⟨(tidy.react closes).shutDown, fun down => Option.some_ne_none _ down.retryHandle⟩

/-- A client that was closed before the retry is scheduled gets its timer all
the same. -/
theorem haunted_of_shutDown (shut : client.shutDown = true) (settings : ClientSettings)
    (listeners : Listeners) (random : ℚ) :
    (client.scheduleRetry settings listeners random).shutDown = true ∧
      ¬ (client.scheduleRetry settings listeners random).Down :=
  ⟨react_shutDown { client with
      attempt := client.attempt + 1
      retryInMs := settings.backoff.retryInMs client.attempt random
      state := .reconnecting } shut _, fun down => nomatch down.retryHandle⟩

/-- The current socket is closed and let go of. -/
theorem Coherent.forgetSocket (coherent : client.Coherent) {id : SocketId} {socket : Socket}
    (held : client.socket = some id) (found : client.sockets.get? id = some socket) :
    (client.putSocket id { socket with readyState := .closed }).forgetSocket.Bare := by
  let gone := client.putSocket id { socket with readyState := .closed }
  have tidy : { gone with socket := none }.Tidy :=
    { timeouts := coherent.timeouts
      intervals := coherent.intervals
      current := nofun
      others := by
        intro other another lookup _
        change (gone.sockets).get? other = some another at lookup
        rw [show gone.sockets = client.sockets.set id _ from rfl, Dict.get?_set] at lookup
        split at lookup
        case isTrue => exact Or.inl (by rw [← Option.some.inj lookup])
        case isFalse differs =>
            apply coherent.others other another lookup
            rw [held]
            exact fun same => differs (Option.some.inj same).symm
      numbered := by
        intro other another lookup
        change (gone.sockets).get? other = some another at lookup
        rw [show gone.sockets = client.sockets.set id _ from rfl, Dict.get?_set] at lookup
        split at lookup
        case isTrue same => exact same ▸ coherent.numbered id socket found
        case isFalse => exact coherent.numbered other another lookup }
  obtain ⟨stopped, -⟩ := tidy.stopPing
  unfold RealtimeClient.forgetSocket
  rw [stopPing_eq] at stopped ⊢
  exact {
    timeouts := stopped.timeouts
    intervals := stopped.intervals
    current := stopped.current
    others := stopped.others
    numbered := stopped.numbered
    noSocket := rfl
    noRetry := coherent.noRetry held
    noPing := rfl
    unsent := rfl }

@[simp]
theorem forgetSocket_shutDown (client : RealtimeClient) :
    client.forgetSocket.shutDown = client.shutDown := by
  rw [forgetSocket, stopPing_eq]

@[simp]
theorem forgetSocket_attempt (client : RealtimeClient) :
    client.forgetSocket.attempt = client.attempt := by
  rw [forgetSocket, stopPing_eq]

/-- A client that gives up on its server. -/
theorem Bare.giveUp (bare : client.Bare) (listeners : Listeners) (emission : Emission) :
    ((client.setState listeners .closed).emit listeners emission).Coherent := by
  have closed : { client with state := ClientState.closed }.Bare :=
    { timeouts := bare.timeouts
      intervals := bare.intervals
      current := bare.current
      others := bare.others
      numbered := bare.numbered
      noSocket := bare.noSocket
      noRetry := bare.noRetry
      noPing := bare.noPing
      unsent := bare.unsent }
  exact ((closed.coherent rfl).emit ..).emit ..

/-- The listeners close the client before its retry is scheduled. -/
def ClosesOnLoss (settings : ClientSettings) (client : RealtimeClient) (listeners : Listeners)
    (random : ℚ) (code : ℕ) (reason : String) : Prop :=
  code ≠ closeUnauthorized ∧ code ≠ closeTooManySessions ∧
    (code = 1013 ∧ listeners (.slowConsumer reason) ≠ .done ∨
      listeners (.status .reconnecting (client.attempt + 1)
        (settings.backoff.retryInMs client.attempt random)) ≠ .done)

theorem Bare.onClose {id : SocketId} (bare : client.forgetSocket.Bare)
    (held : client.socket = some id) (running : client.shutDown = false)
    (settings : ClientSettings) (listeners : Listeners) (random : ℚ) (code : ℕ)
    (reason : String) :
    Outcome (client.ClosesOnLoss settings listeners random code reason)
      (client.onClose settings listeners random id code reason) := by
  rw [← forgetSocket_shutDown] at running
  unfold RealtimeClient.onClose ClosesOnLoss
  rw [if_neg (not_not.mpr held), ← forgetSocket_attempt]
  simp only
  split_ifs with unauthorized tooMany slow
  · exact (bare.giveUp ..).outcome fun midway => midway.1 unauthorized
  · exact (bare.giveUp ..).outcome fun midway => midway.2.1 tooMany
  · by_cases silent : listeners (.slowConsumer reason) = .done
    case pos =>
        have waits := bare.scheduleRetry running settings listeners random
        rw [emit_of_done silent]
        simpa [slow, silent, closeUnauthorized, closeTooManySessions] using waits
    case neg =>
        have settled := bare.toTidy.react silent
        constructor
        · intro noted
          exact absurd ⟨unauthorized, tooMany, Or.inl ⟨slow, silent⟩⟩ noted
        · intro _
          exact haunted_of_shutDown settled.shutDown settings listeners random
  · have waits := bare.scheduleRetry running settings listeners random
    simpa [unauthorized, tooMany, slow] using waits

theorem Coherent.onClose (coherent : client.Coherent) {id : SocketId} {socket : Socket}
    (held : client.socket = some id) (found : client.sockets.get? id = some socket)
    (settings : ClientSettings) (listeners : Listeners) (random : ℚ) (code : ℕ)
    (reason : String) :
    Outcome (client.ClosesOnLoss settings listeners random code reason)
      ((client.putSocket id { socket with readyState := .closed }).onClose settings listeners
        random id code reason) :=
  (coherent.forgetSocket held found).onClose held (coherent.running held) settings listeners
    random code reason

end Losing

section Events

/-- Only the current socket has its handlers on and is not closed. -/
theorem Tidy.current_of_handlers (tidy : client.Tidy) {id : SocketId} {socket : Socket}
    (found : client.sockets.get? id = some socket) (handled : socket.handlers = true)
    (alive : socket.readyState ≠ .closed) : client.socket = some id := by
  by_contra differs
  rcases tidy.others id socket found differs with closed | ⟨-, dropped⟩
  · exact alive closed
  · rw [handled] at dropped
    cases dropped

theorem Tidy.not_current_of_unhandled (tidy : client.Tidy) {id : SocketId} {socket : Socket}
    (found : client.sockets.get? id = some socket) (unhandled : ¬ socket.handlers = true) :
    client.socket ≠ some id := by
  intro held
  obtain ⟨current, there, handled, -⟩ := tidy.current id held
  obtain rfl := Option.some.inj (found.symm.trans there)
  exact unhandled handled

/-- Everything a step can do. -/
inductive Moves (settings : ClientSettings) (client : RealtimeClient) (listeners : Listeners)
    (works : Bool) (nowMs : ℤ) (random : ℚ) : ClientEvent → RealtimeClient → Prop where
  | connect : Moves settings client listeners works nowMs random .connect
      (client.connect listeners)
  | setViewport (bbox : Box) : Moves settings client listeners works nowMs random
      (.setViewport bbox) (client.setViewport works bbox)
  | close : Moves settings client listeners works nowMs random .close (client.close listeners)
  | opened {id : SocketId} {socket : Socket} (found : client.sockets.get? id = some socket)
      (connecting : socket.readyState = .connecting) :
      Moves settings client listeners works nowMs random (.socketOpen id)
        (if socket.handlers then
          (client.putSocket id { socket with readyState := .connected }).emit listeners .opened
        else client.putSocket id { socket with readyState := .connected })
  | message {id : SocketId} {socket : Socket} (data : MessageData)
      (found : client.sockets.get? id = some socket) (connected : socket.readyState ≠ .connecting)
      (alive : socket.readyState ≠ .closed) (handled : socket.handlers = true) :
      Moves settings client listeners works nowMs random (.socketMessage id data)
        (client.dispatch settings listeners works nowMs (data.decode settings))
  | unheardMessage {id : SocketId} {socket : Socket} (data : MessageData)
      (found : client.sockets.get? id = some socket) (unhandled : ¬ socket.handlers = true) :
      Moves settings client listeners works nowMs random (.socketMessage id data) client
  | closing {id : SocketId} {socket : Socket} (found : client.sockets.get? id = some socket)
      (alive : socket.readyState ≠ .closed) :
      Moves settings client listeners works nowMs random (.socketClosing id)
        (client.putSocket id { socket with readyState := .closing })
  | closed {id : SocketId} {socket : Socket} (code : ℕ) (reason : String)
      (found : client.sockets.get? id = some socket) (alive : socket.readyState ≠ .closed)
      (handled : socket.handlers = true) :
      Moves settings client listeners works nowMs random (.socketClose id code reason)
        ((client.putSocket id { socket with readyState := .closed }).onClose settings listeners
          random id code reason)
  | unheardClose {id : SocketId} {socket : Socket} (code : ℕ) (reason : String)
      (found : client.sockets.get? id = some socket) (unhandled : ¬ socket.handlers = true) :
      Moves settings client listeners works nowMs random (.socketClose id code reason)
        (client.putSocket id { socket with readyState := .closed })
  | retryFires {timer : TimerId} (runs : timer ∈ client.timeouts) :
      Moves settings client listeners works nowMs random (.retryFires timer)
        ({ client with
          timeouts := client.timeouts.discard timer
          retryHandle := none }.openSocket listeners)
  | pingFires {timer : TimerId} (runs : timer ∈ client.intervals) :
      Moves settings client listeners works nowMs random (.pingFires timer)
        ({ client with pendingPing := some (nowMs, nowMs) }.send works (.ping nowMs)).2

theorem moves_of_step {settings : ClientSettings} {event : ClientEvent} {listeners : Listeners}
    {works : Bool} {nowMs : ℤ} {random : ℚ}
    (stepTo : client.step settings ⟨event, listeners, works, nowMs, random⟩ = some after) :
    Moves settings client listeners works nowMs random event after := by
  cases event with
  | connect =>
      obtain rfl := Option.some.inj stepTo
      exact .connect
  | setViewport bbox =>
      obtain rfl := Option.some.inj stepTo
      exact .setViewport bbox
  | close =>
      obtain rfl := Option.some.inj stepTo
      exact .close
  | socketOpen id =>
      simp only [RealtimeClient.step] at stepTo
      split at stepTo
      case h_2 => cases stepTo
      case h_1 socket found =>
          split at stepTo
          case isFalse => cases stepTo
          case isTrue connecting =>
              obtain rfl := Option.some.inj stepTo
              exact .opened found connecting
  | socketMessage id data =>
      simp only [RealtimeClient.step] at stepTo
      split at stepTo
      case h_2 => cases stepTo
      case h_1 socket found =>
          split at stepTo
          case isFalse => cases stepTo
          case isTrue open_ =>
              obtain rfl := Option.some.inj stepTo
              have connected : socket.readyState ≠ .connecting := by
                rcases open_ with is | is <;> simp [is]
              have alive : socket.readyState ≠ .closed := by
                rcases open_ with is | is <;> simp [is]
              split
              case isTrue handled => exact .message data found connected alive handled
              case isFalse unhandled => exact .unheardMessage data found unhandled
  | socketClosing id =>
      simp only [RealtimeClient.step] at stepTo
      split at stepTo
      case h_2 => cases stepTo
      case h_1 socket found =>
          split at stepTo
          case isFalse => cases stepTo
          case isTrue open_ =>
              obtain rfl := Option.some.inj stepTo
              exact .closing found (by rcases open_ with is | is <;> simp [is])
  | socketClose id code reason =>
      simp only [RealtimeClient.step] at stepTo
      split at stepTo
      case h_2 => cases stepTo
      case h_1 socket found =>
          split at stepTo
          case isFalse => cases stepTo
          case isTrue alive =>
              obtain rfl := Option.some.inj stepTo
              split
              case isTrue handled => exact .closed code reason found alive handled
              case isFalse unhandled => exact .unheardClose code reason found unhandled
  | retryFires timer =>
      simp only [RealtimeClient.step] at stepTo
      split at stepTo
      case isFalse => cases stepTo
      case isTrue runs =>
          obtain rfl := Option.some.inj stepTo
          exact .retryFires runs
  | pingFires timer =>
      simp only [RealtimeClient.step] at stepTo
      split at stepTo
      case isFalse => cases stepTo
      case isTrue runs =>
          obtain rfl := Option.some.inj stepTo
          exact .pingFires runs

/-- The listeners close the client when it is welcomed, and not again when its
ping timer has been started. -/
def ClosesOnHello (settings : ClientSettings) (client : RealtimeClient) (listeners : Listeners)
    (text : String) : Prop :=
  ∃ frame, settings.parse text = some frame ∧ frame.field "type" = some (.str "hello") ∧
    listeners (.status .live 0 0) ≠ .done ∧
    listeners (.hello frame client.everConnected) = .done

theorem Coherent.dispatch (coherent : client.Coherent) {id : SocketId} {socket : Socket}
    (held : client.socket = some id) (found : client.sockets.get? id = some socket)
    (open_ : socket.readyState ≠ .connecting) (settings : ClientSettings)
    (listeners : Listeners) (works : Bool) (nowMs : ℤ) (text : String) :
    Outcome (client.ClosesOnHello settings listeners text)
      (client.dispatch settings listeners works nowMs text) := by
  have calmly {after : RealtimeClient} (kept : after.Coherent)
      (other : ∀ frame, settings.parse text = some frame →
        frame.field "type" ≠ some (.str "hello")) :
      Outcome (client.ClosesOnHello settings listeners text) after := by
    apply kept.outcome
    rintro ⟨frame, parsed, hello, -⟩
    exact other frame parsed hello
  unfold RealtimeClient.dispatch
  cases parsed : settings.parse text with
  | none => exact calmly (coherent.emit ..) (by simp [parsed])
  | some frame =>
      simp only
      split
      case h_1 kind typed =>
          split
          case isTrue hello =>
              have welcomed := coherent.onHello held found open_ listeners works frame
              simpa [ClosesOnHello, parsed, typed, hello] using welcomed
          case isFalse notHello =>
              refine calmly ?_ (by simp [parsed, typed, notHello])
              split_ifs
              · exact coherent.emit ..
              · unfold onPong
                cases pending : client.pendingPing with
                | none => exact coherent
                | some ping =>
                    simp only
                    split
                    · exact (coherent.update none client.everConnected).emit ..
                    · exact coherent
              · exact coherent.emit ..
              · exact coherent
      case h_2 untyped =>
          apply calmly coherent
          intro other same
          obtain rfl := Option.some.inj (parsed.symm.trans same)
          exact untyped "hello"

/-- The listeners of this step close the client in the middle of a transition
that goes on regardless. -/
def ClosesMidway (settings : ClientSettings) (client : RealtimeClient) (taken : ClientStep) :
    Prop :=
  match taken.event with
  | .connect =>
      client.socket = none ∧ client.retryHandle = none ∧
        taken.listeners (.status .connecting client.attempt 0) ≠ .done
  | .retryFires _ => taken.listeners (.status .connecting client.attempt 0) ≠ .done
  | .socketMessage id data =>
      client.socket = some id ∧
        client.ClosesOnHello settings taken.listeners (data.decode settings)
  | .socketClose id code reason =>
      client.socket = some id ∧
        client.ClosesOnLoss settings taken.listeners taken.random code reason
  | _ => False

theorem Coherent.step (coherent : client.Coherent) {settings : ClientSettings}
    {taken : ClientStep} (stepTo : client.step settings taken = some after) :
    Outcome (client.ClosesMidway settings taken) after := by
  obtain ⟨event, listeners, works, nowMs, random⟩ := taken
  cases moves_of_step stepTo with
  | connect => exact coherent.connect listeners
  | setViewport bbox => exact (coherent.setViewport works bbox).outcome fun midway => midway
  | close =>
      obtain ⟨down, -⟩ := coherent.toTidy.closeDown
      exact (down.emit ..).outcome fun midway => midway
  | opened found connecting =>
      have opened := coherent.moveSocket found .connected (by simp [connecting])
        (by simp) (Or.inr ⟨connecting, rfl⟩)
      apply Coherent.outcome _ fun midway => midway
      split
      · exact opened.emit ..
      · exact opened
  | message data found connected alive handled =>
      have held := coherent.toTidy.current_of_handlers found handled alive
      have dispatched := coherent.dispatch held found connected settings listeners works
        nowMs (data.decode settings)
      simpa [ClosesMidway, held] using dispatched
  | unheardMessage data found unhandled =>
      have notHeld := coherent.toTidy.not_current_of_unhandled found unhandled
      exact coherent.outcome fun midway => notHeld midway.1
  | closing found alive =>
      have moved := coherent.moveSocket found .closing alive (by simp) (Or.inl rfl)
      exact moved.outcome fun midway => midway
  | closed code reason found alive handled =>
      have held := coherent.toTidy.current_of_handlers found handled alive
      have lost := coherent.onClose held found settings listeners random code reason
      simpa [ClosesMidway, held] using lost
  | unheardClose code reason found unhandled =>
      have notHeld := coherent.toTidy.not_current_of_unhandled found unhandled
      exact (coherent.putOther found notHeld (Or.inl rfl)).outcome fun midway => notHeld midway.1
  | retryFires runs => exact coherent.retryFires runs listeners
  | pingFires runs => exact (coherent.pingFires runs works _ nowMs).outcome fun midway => midway

end Events

end RealtimeClient

end GeoTrack
