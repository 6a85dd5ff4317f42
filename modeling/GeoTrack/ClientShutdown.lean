import GeoTrack.ClientTransitions

/-!
# Runs of the realtime client

A client that was closed stays down until it is told to connect exactly as
long as no listener closes it in the middle of a transition.

Where listeners only listen, the client is coherent throughout: it waits for a
retry or has a socket but never both, it pings while it is live, it does not
come back after the server has refused it, and the server knows what the user
looks at.
-/

namespace GeoTrack

open LabelledRuns

namespace RealtimeClient

variable {settings : ClientSettings} {steps : List ClientStep} {client after : RealtimeClient}

section Shutdown

/-- Moments of an earlier part of the run. -/
theorem moment_of_append {earlier later : List ClientStep} {taken : ClientStep}
    {before : RealtimeClient} (cut : steps = earlier ++ later)
    (moment : Moment (step settings) Anything fresh earlier taken before) :
    Moment (step settings) Anything fresh steps taken before := by
  obtain ⟨first, rest, split, reached⟩ := moment
  exact ⟨first, rest ++ later, by rw [cut, split, List.append_assoc, List.cons_append], reached⟩

theorem coherent_of_calm (run : Run (step settings) Anything fresh steps client)
    (calm : ∀ taken before, Moment (step settings) Anything fresh steps taken before →
      ¬ before.ClosesMidway settings taken) : client.Coherent := by
  induction run with
  | nil => exact coherent_fresh
  | snoc earlier _ stepTo ih =>
      have before := ih fun taken state moment =>
        calm taken state (earlier.moment_snoc_iff.mpr (Or.inl moment))
      have last := calm _ _ (earlier.moment_snoc_iff.mpr (Or.inr ⟨rfl, rfl⟩))
      exact (before.step stepTo).calm last

/-- Closing the client is final in every state of a run iff no step of it
closes the client midway. -/
theorem close_final_iff (run : Run (step settings) Anything fresh steps client) :
    (∀ earlier later state, steps = earlier ++ later →
      Run (step settings) Anything fresh earlier state → state.shutDown = true → state.Down) ↔
      ∀ taken before, Moment (step settings) Anything fresh steps taken before →
        ¬ before.ClosesMidway settings taken := by
  constructor
  · intro final
    induction run with
    | nil => exact fun _ _ moment => absurd moment not_moment_nil
    | snoc earlier permitted stepTo ih =>
        have calm := ih fun first rest state cut =>
          final first (rest ++ [_]) state (by rw [cut, List.append_assoc])
        have coherent := coherent_of_calm earlier calm
        intro taken before moment midway
        rcases earlier.moment_snoc_iff.mp moment with before_ | ⟨rfl, rfl⟩
        · exact calm taken before before_ midway
        · obtain ⟨shut, notDown⟩ := (coherent.step stepTo).cut midway
          exact notDown (final _ [] _ (by simp) (earlier.snoc permitted stepTo) shut)
  · intro calm earlier later state cut reached shut
    have coherent := coherent_of_calm reached fun taken before moment =>
      calm taken before (moment_of_append cut moment)
    exact coherent.down (coherent.shut shut)

def silent : Listeners := fun _ => .done

/-- The page closes the client when it is told that it is too slow. -/
def closesWhenSlow : Listeners
  | .slowConsumer _ => .close .done .done
  | _ => .done

def welcomeText : String := "\x7b\"type\":\"hello\"\x7d"

def welcomeSettings : ClientSettings where
  backoff := .default
  parse := fun text =>
    if text = welcomeText then some (.obj [("type", .str "hello")]) else none
  textDecode := fun _ => ""

def slowRun : List ClientStep :=
  [⟨.connect, silent, true, 0, 0⟩, ⟨.socketOpen 0, silent, true, 1, 0⟩,
    ⟨.socketClose 0 1013 "slow consumer", closesWhenSlow, true, 2, 0⟩]

/-- The retry of a client that was closed. -/
theorem retry_after_close :
    ¬ ∀ settings steps client, Run (step settings) Anything fresh steps client →
      client.shutDown = true → client.Down := by
  intro final
  obtain ⟨client, executed, shut, retries⟩ : ∃ client,
      exec (step welcomeSettings) Anything fresh slowRun = some client ∧
        client.shutDown = true ∧ client.retryHandle = some 0 := by
    apply exists_of_exec
    decide +kernel
  have down := final welcomeSettings slowRun client (run_of_exec executed) shut
  rw [down.retryHandle] at retries
  cases retries

def closedRun : List ClientStep :=
  [⟨.connect, silent, true, 0, 0⟩, ⟨.socketOpen 0, silent, true, 1, 0⟩,
    ⟨.socketMessage 0 (.text welcomeText), silent, true, 2, 0⟩,
    ⟨.close, silent, true, 3, 0⟩]

theorem close_final_iff_welcomed :
    ∃ client, Run (step welcomeSettings) Anything fresh closedRun client ∧
      client.everConnected = true ∧ client.shutDown = true ∧
      ((∀ earlier later state, closedRun = earlier ++ later →
        Run (step welcomeSettings) Anything fresh earlier state → state.shutDown = true →
          state.Down) ↔
        ∀ taken before, Moment (step welcomeSettings) Anything fresh closedRun taken before →
          ¬ before.ClosesMidway welcomeSettings taken) := by
  obtain ⟨client, executed, welcomed, shut⟩ : ∃ client,
      exec (step welcomeSettings) Anything fresh closedRun = some client ∧
        client.everConnected = true ∧ client.shutDown = true := by
    apply exists_of_exec
    decide +kernel
  have run := run_of_exec executed
  exact ⟨client, run, welcomed, shut, close_final_iff run⟩

end Shutdown

section Viewport

/-- The viewport that a step sets. -/
def shown (taken : ClientStep) : Option Box :=
  match taken.event with
  | .setViewport bbox => some bbox
  | _ => none

/-- The last viewport set. -/
def lastShown (steps : List ClientStep) : Option Box := (steps.filterMap shown).getLast?

@[simp]
theorem emit_viewport (listeners : Listeners) (client : RealtimeClient) (emission : Emission) :
    (client.emit listeners emission).viewport = client.viewport :=
  (react_kept client (listeners emission)).2

@[simp]
theorem setState_viewport (listeners : Listeners) (client : RealtimeClient)
    (state : ClientState) : (client.setState listeners state).viewport = client.viewport :=
  emit_viewport listeners ..

@[simp]
theorem openSocket_viewport (listeners : Listeners) (client : RealtimeClient) :
    (client.openSocket listeners).viewport = client.viewport := by
  rw [openSocket, newSocket, setState_viewport, clearRetry_eq]

@[simp]
theorem send_viewport (works : Bool) (client : RealtimeClient) (message : ClientMessage) :
    (client.send works message).2.viewport = client.viewport := by
  rcases send_cases works client message with same | ⟨_, _, _, same | same⟩ <;> rw [same] <;> rfl

@[simp]
theorem flushViewport_viewport (works : Bool) (client : RealtimeClient) :
    (client.flushViewport works).viewport = client.viewport := by
  unfold flushViewport
  cases shown : client.viewport with
  | none => exact shown
  | some bbox =>
      simp only
      split
      · exact shown
      split
      · exact shown
      have kept := send_viewport works client (.viewport bbox)
      split
      case h_1 sent => rwa [sent, shown] at kept
      case h_2 sent => rwa [sent, shown] at kept

@[simp]
theorem onHello_viewport (listeners : Listeners) (works : Bool) (client : RealtimeClient)
    (frame : Json) : (client.onHello listeners works frame).viewport = client.viewport := by
  rw [onHello, emit_viewport, startPing_eq]
  simp

@[simp]
theorem dispatch_viewport (listeners : Listeners) (works : Bool) (nowMs : ℤ)
    (client : RealtimeClient) (text : String) :
    (client.dispatch settings listeners works nowMs text).viewport = client.viewport := by
  unfold dispatch onPong
  split
  · simp
  split
  · split_ifs
    · simp
    · simp
    · split
      · rfl
      · split <;> simp
    · simp
    · rfl
  · rfl

@[simp]
theorem scheduleRetry_viewport (listeners : Listeners) (random : ℚ) (client : RealtimeClient) :
    (client.scheduleRetry settings listeners random).viewport = client.viewport := by
  simp [scheduleRetry]

@[simp]
theorem onClose_viewport (listeners : Listeners) (random : ℚ) (client : RealtimeClient)
    (id : SocketId) (code : ℕ) (reason : String) :
    (client.onClose settings listeners random id code reason).viewport = client.viewport := by
  unfold onClose forgetSocket
  rw [stopPing_eq]
  simp only
  split_ifs <;> simp

theorem step_viewport {taken : ClientStep} (stepTo : client.step settings taken = some after) :
    after.viewport = (shown taken).or client.viewport := by
  obtain ⟨event, listeners, works, nowMs, random⟩ := taken
  cases moves_of_step stepTo with
  | connect =>
      rw [connect]
      split <;> simp [shown]
  | setViewport bbox => simp [setViewport, shown]
  | close =>
      rw [close, emit_viewport, closeDown_eq]
      rfl
  | opened found connecting => split <;> simp [shown, putSocket]
  | message data found connected alive handled => simp [shown]
  | unheardMessage data found unhandled => simp [shown]
  | closing found alive => simp [shown, putSocket]
  | closed code reason found alive handled => simp [shown, putSocket]
  | unheardClose code reason found unhandled => simp [shown, putSocket]
  | retryFires runs => simp [shown]
  | pingFires runs => simp [shown]

theorem viewport_eq_lastShown {allowed : RealtimeClient → ClientStep → Prop}
    (run : Run (step settings) allowed fresh steps client) :
    client.viewport = lastShown steps := by
  induction run with
  | nil => rfl
  | @snoc earlier before next taken _ _ stepTo ih =>
      rw [step_viewport stepTo, ih, lastShown, lastShown, List.filterMap_append]
      cases set_ : shown taken with
      | none => simp [set_]
      | some bbox => simp [set_]

end Viewport

section Listening

/-- No listener calls the client. -/
def Listening (taken : ClientStep) : Prop := ∀ emission, taken.listeners emission = .done

theorem Listening.calm {taken : ClientStep} (listening : Listening taken) :
    ¬ client.ClosesMidway settings taken := by
  obtain ⟨event, listeners, works, nowMs, random⟩ := taken
  cases event with
  | connect => exact fun midway => midway.2.2 (listening _)
  | retryFires timer => exact fun midway => midway (listening _)
  | socketMessage id data =>
      rintro ⟨-, frame, -, -, closes, -⟩
      exact closes (listening _)
  | socketClose id code reason =>
      rintro ⟨-, -, -, ⟨-, closes⟩ | closes⟩
      · exact closes (listening _)
      · exact closes (listening _)
  | _ => exact id

theorem coherent_of_listening (run : Run (step settings) Anything fresh steps client)
    (listening : ∀ taken ∈ steps, Listening taken) : client.Coherent := by
  apply coherent_of_calm run
  rintro taken before ⟨earlier, later, rfl, -⟩
  exact (listening taken (List.mem_append_right _ (List.mem_cons_self ..))).calm

/-- A closed client that is not told to connect stays closed and opens no
socket. -/
theorem Coherent.closed_step (coherent : client.Coherent) (closed : client.state = .closed)
    {taken : ClientStep} (listening : Listening taken) (notConnect : taken.event ≠ .connect)
    (stepTo : client.step settings taken = some after) :
    after.state = .closed ∧ after.nextSocket = client.nextSocket := by
  have down := coherent.down closed
  obtain ⟨event, listeners, works, nowMs, random⟩ := taken
  cases moves_of_step stepTo with
  | connect => exact absurd rfl notConnect
  | setViewport bbox =>
      have same : { client with viewport := some bbox }.flushViewport works =
          { client with viewport := some bbox } :=
        flushViewport_of_not_live works (by simp [closed])
      rw [RealtimeClient.setViewport, same]
      exact ⟨closed, rfl⟩
  | close =>
      rw [close, emit_of_done (listening _), closeDown_eq]
      exact ⟨rfl, rfl⟩
  | opened found connecting =>
      rw [emit_of_done (listening _), ite_self]
      exact ⟨closed, rfl⟩
  | message data found connected alive handled =>
      have held := coherent.toTidy.current_of_handlers found handled alive
      rw [down.socket] at held
      cases held
  | unheardMessage data found unhandled => exact ⟨closed, rfl⟩
  | closing found alive => exact ⟨closed, rfl⟩
  | closed code reason found alive handled =>
      have held := coherent.toTidy.current_of_handlers found handled alive
      rw [down.socket] at held
      cases held
  | unheardClose code reason found unhandled => exact ⟨closed, rfl⟩
  | retryFires runs => exact absurd runs (down.timeouts _)
  | pingFires runs => exact absurd runs (down.intervals _)

/-- The server refuses the client. -/
def Refusal (client : RealtimeClient) (taken : ClientStep) : Prop :=
  ∃ id code reason, taken.event = .socketClose id code reason ∧ client.socket = some id ∧
    (code = closeUnauthorized ∨ code = closeTooManySessions)

theorem onClose_of_refused {id : SocketId} {code : ℕ} (held : client.socket = some id)
    (refused : code = closeUnauthorized ∨ code = closeTooManySessions) {listeners : Listeners}
    (listening : ∀ emission, listeners emission = .done) (random : ℚ) (reason : String) :
    client.onClose settings listeners random id code reason =
      { client.forgetSocket with state := .closed } := by
  have closes {emission : Emission} :
      (client.forgetSocket.setState listeners .closed).emit listeners emission =
        { client.forgetSocket with state := .closed } := by
    rw [emit_of_done (listening _), setState_of_done (listening _)]
  rw [onClose, if_neg (not_not.mpr held)]
  rcases refused with rfl | rfl
  · exact closes
  · exact closes

theorem Coherent.refused (coherent : client.Coherent) {taken : ClientStep}
    (listening : Listening taken) (refusal : client.Refusal taken)
    (stepTo : client.step settings taken = some after) :
    after.state = .closed ∧ after.nextSocket = client.nextSocket := by
  obtain ⟨event, listeners, works, nowMs, random⟩ := taken
  obtain ⟨id, code, reason, rfl, held, refused⟩ := refusal
  obtain ⟨socket, found, handled, -, alive⟩ := coherent.current id held
  have stillHeld :
      (client.putSocket id { socket with readyState := .closed }).socket = some id := held
  simp only [RealtimeClient.step, found, if_pos alive, if_pos handled, Option.some.injEq] at stepTo
  rw [onClose_of_refused stillHeld refused listening, RealtimeClient.forgetSocket,
    stopPing_eq] at stepTo
  rw [← stepTo]
  exact ⟨rfl, rfl⟩

/-- After a refusal no attempt is made until the client is told to connect. -/
theorem no_attempt_after_refusal {earlier later : List ClientStep} {taken : ClientStep}
    {before : RealtimeClient}
    (run : Run (step settings) Anything fresh (earlier ++ taken :: later) client)
    (listening : ∀ taken_ ∈ earlier ++ taken :: later, Listening taken_)
    (reached : Run (step settings) Anything fresh earlier before) (refusal : before.Refusal taken)
    (notTold : ∀ next ∈ later, next.event ≠ .connect) :
    client.state = .closed ∧ client.nextSocket = before.nextSocket := by
  induction later using List.reverseRecOn generalizing client with
  | nil =>
      obtain ⟨state, shorter, -, stepTo⟩ := run_snoc_iff.mp run
      obtain rfl := shorter.unique reached
      have coherent := coherent_of_listening reached fun taken_ listed =>
        listening taken_ (List.mem_append_left _ listed)
      exact coherent.refused (listening taken (by simp)) refusal stepTo
  | append_singleton middle last ih =>
      rw [← List.cons_append, ← List.append_assoc] at run listening
      obtain ⟨state, shorter, -, stepTo⟩ := run_snoc_iff.mp run
      have early : ∀ taken_ ∈ earlier ++ taken :: middle, Listening taken_ := fun taken_ listed =>
        listening taken_ (List.mem_append_left _ listed)
      obtain ⟨closed, sameSockets⟩ := ih shorter early fun next listed =>
        notTold next (List.mem_append_left _ listed)
      obtain ⟨stillClosed, noneNew⟩ := (coherent_of_listening shorter early).closed_step closed
        (listening last (by simp)) (notTold last (by simp)) stepTo
      exact ⟨stillClosed, noneNew.trans sameSockets⟩

/-- A socket is in use while it is neither closed nor asked to close. -/
theorem Tidy.one_in_use (tidy : client.Tidy) {first second : SocketId} {one two : Socket}
    (firstFound : client.sockets.get? first = some one) (oneOpen : one.readyState ≠ .closed)
    (oneKept : one.askedToClose = false)
    (secondFound : client.sockets.get? second = some two) (twoOpen : two.readyState ≠ .closed)
    (twoKept : two.askedToClose = false) : first = second := by
  have current {id : SocketId} {socket : Socket} (found : client.sockets.get? id = some socket)
      (open_ : socket.readyState ≠ .closed) (kept : socket.askedToClose = false) :
      client.socket = some id := by
    by_contra differs
    rcases tidy.others id socket found differs with closed | ⟨asked, -⟩
    · exact open_ closed
    · rw [kept] at asked
      cases asked
  have held := current firstFound oneOpen oneKept
  rw [current secondFound twoOpen twoKept, Option.some.injEq] at held
  exact held.symm

/-- What holds in every state of a run whose listeners only listen. -/
theorem client_state_machine (run : Run (step settings) Anything fresh steps client)
    (listening : ∀ taken ∈ steps, Listening taken) :
    (client.socket ≠ none → client.retryHandle = none ∧ ∀ timer, timer ∉ client.timeouts) ∧
    (∀ first second one two, client.sockets.get? first = some one → one.readyState ≠ .closed →
      one.askedToClose = false → client.sockets.get? second = some two →
      two.readyState ≠ .closed → two.askedToClose = false → first = second) ∧
    ((∃ timer, timer ∈ client.intervals) ↔ client.state = .live) ∧
    (∀ first second, first ∈ client.intervals → second ∈ client.intervals → first = second) ∧
    (∀ earlier taken later before, steps = earlier ++ taken :: later →
      Run (step settings) Anything fresh earlier before → before.Refusal taken →
      (∀ next ∈ later, next.event ≠ .connect) → client.nextSocket = before.nextSocket) ∧
    (client.state = .live → ∀ id socket, client.socket = some id →
      client.sockets.get? id = some socket → socket.readyState = .connected →
      socket.sendFailed = false → socket.lastViewport = lastShown steps) := by
  have coherent := coherent_of_listening run listening
  refine ⟨?_, ?_, ?_, ?_, ?_, ?_⟩
  · intro held
    obtain ⟨id, held⟩ := Option.ne_none_iff_exists'.mp held
    have noRetry := coherent.noRetry held
    refine ⟨noRetry, ?_⟩
    intro timer
    simp [coherent.timeouts, noRetry]
  · intro first second one two firstFound oneOpen oneKept secondFound twoOpen twoKept
    exact coherent.toTidy.one_in_use firstFound oneOpen oneKept secondFound twoOpen twoKept
  · simp only [coherent.intervals]
    exact coherent.pings
  · intro first second firstRuns secondRuns
    have handle := (coherent.intervals first).mp firstRuns
    rw [(coherent.intervals second).mp secondRuns, Option.some.injEq] at handle
    exact handle.symm
  · rintro earlier taken later before rfl reached refusal notTold
    exact (no_attempt_after_refusal run listening reached refusal notTold).2
  · intro live id socket held found open_ sends
    rw [coherent.lastSent id socket held found, coherent.synced live id socket held found open_ sends]
    exact viewport_eq_lastShown run

def europe : Box := [-10, 35, 30, 60]

/-- The client loses its socket and comes back. -/
def reconnectRun : List ClientStep :=
  [⟨.connect, silent, true, 0, 0⟩, ⟨.setViewport europe, silent, true, 0, 0⟩,
    ⟨.socketOpen 0, silent, true, 1, 0⟩, ⟨.socketClose 0 1006 "", silent, true, 2, 0⟩,
    ⟨.retryFires 0, silent, true, 500, 0⟩, ⟨.socketOpen 1, silent, true, 501, 0⟩,
    ⟨.socketMessage 1 (.text welcomeText), silent, true, 502, 0⟩]

theorem client_state_machine_reconnected :
    ∃ client socket, Run (step welcomeSettings) Anything fresh reconnectRun client ∧
      client.socket = some 1 ∧ client.state = .live ∧ client.sockets.get? 1 = some socket ∧
      socket.lastViewport = lastShown reconnectRun := by
  obtain ⟨client, executed, held, live, found⟩ : ∃ client,
      exec (step welcomeSettings) Anything fresh reconnectRun = some client ∧
        client.socket = some 1 ∧ client.state = .live ∧
        client.sockets.get? 1 = some ⟨.connected, true, false, [.viewport europe], false⟩ := by
    apply exists_of_exec
    decide +kernel
  have run := run_of_exec executed
  have listening : ∀ taken ∈ reconnectRun, Listening taken := by
    simp [reconnectRun, Listening, silent]
  have machine := client_state_machine run listening
  exact ⟨client, _, run, held, live, found, machine.2.2.2.2.2 live 1 _ held found rfl rfl⟩

end Listening

end RealtimeClient

end GeoTrack
