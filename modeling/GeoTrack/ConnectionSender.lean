import GeoTrack.ClientConnection
import GeoTrack.HubFrames
import GeoTrack.LabelledRuns

/-!
# The sender of a connection

One task writes to the socket.  It sleeps on the wake event, clears it, and
then takes frames from the queues until they are empty; it gives way to the
producers only while it sleeps and while a write is under way.  A frame that
was taken is either written or lost together with the connection.

What the producers leave behind is told to the sender by the wake event alone,
so the invariant that matters is that a sleeping sender whose event is cleared
has nothing to send.
-/

namespace GeoTrack

open LabelledRuns JsonText

/-- The bytes of a frame as they are handed to `_write`. -/
def WireFrame.bytes (orjson : Orjson) : WireFrame → Bytes
  | .control bytes => bytes
  | .positions frame => positionsFrameBytes orjson frame.full frame.tMs
      (frame.items.map (encodePositionItem orjson)) frame.removed

section FrameType

def frameTypePrefix : Bytes := ascii "\x7b\"type\":\""

def frameTypes : List String :=
  ["hello", "positions", "alert", "zone", "sessions", "stats", "pong", "error", "ack", "throttle"]

/-- The frame's type read off a parsed payload, `none` when the membership test
raises because the value cannot be hashed. -/
def parsedFrameType (orjson : Orjson) (frame : Bytes) : Option String :=
  match orjson.loads frame with
  | .ok (.obj fields) =>
      match fields.lookup "type" with
      | some (.str kind) => some (if kind ∈ frameTypes then kind else "unknown")
      | some (.arr _) => none
      | some (.obj _) => none
      | _ => some "unknown"
  | _ => some "unknown"

/-- The bytes up to the next quote, if there is one. -/
def untilQuote (bytes : Bytes) : Option Bytes :=
  if quote ∈ bytes then some (bytes.takeWhile fun byte => byte ≠ quote) else none

/-- The frame's `type`, read off the wire bytes where they have the usual
shape. -/
def frameType (orjson : Orjson) (frame : Bytes) : Option String :=
  if frameTypePrefix.isPrefixOf frame then
    -- decoding with replacement gives a known type only for its own bytes
    match (untilQuote (frame.drop frameTypePrefix.length)).bind fun content =>
        frameTypes.find? fun kind => ascii kind = content with
    | some kind => some kind
    | none => parsedFrameType orjson frame
  else
    parsedFrameType orjson frame

/-- `frame.decode()`, `none` for a `UnicodeDecodeError`. -/
def decodeText (frame : Bytes) : Option String := String.fromUTF8? ⟨frame.toArray⟩

end FrameType

/-- What the socket is given. -/
inductive Payload where
  | binary (data : Bytes)
  | text (data : String)
deriving DecidableEq

def Payload.bytes : Payload → Bytes
  | .binary data => data
  | .text data => data.toUTF8.data.toList

/-- What `_write` does before it reaches the socket. -/
inductive Preparation where
  | send (payload : Payload)
  /-- The frame is not text: it is dropped, the connection stays. -/
  | drop
  | raise
deriving DecidableEq

def prepare (orjson : Orjson) (frame : Bytes) : Preparation :=
  match frameType orjson frame with
  | none => .raise
  | some kind =>
      if kind = "positions" then .send (.binary frame)
      else
        match decodeText frame with
        | some text => .send (.text text)
        | none => .drop

/-- Where the sender task is. -/
inductive SenderStage where
  /-- Suspended in `wake.wait()`. -/
  | waiting
  /-- In the inner loop, without an await: nothing else runs. -/
  | looping
  /-- Suspended in the socket's send. -/
  | writing (frame : WireFrame) (payload : Payload)
  | ended
deriving DecidableEq

/-- What the other tasks do with a connection. -/
inductive ProducerCall where
  | sendControl (frame : Bytes)
  | offerPositions (delta : TickDelta)
  | setViewport (bbox : BBox)
  | requestClose (code : ℕ) (reason : String)

namespace ClientConnection

def perform (connection : ClientConnection) : ProducerCall → ClientConnection
  | .sendControl frame => connection.sendControl frame
  | .offerPositions delta => connection.offerPositions delta
  | .setViewport bbox => connection.setViewport bbox
  | .requestClose code reason => connection.requestClose code reason

/-- The control frames that a call adds to the queue. -/
def accepts (connection : ClientConnection) : ProducerCall → List Bytes
  | .sendControl frame =>
      if connection.closing then []
      else if connection.controlMax ≤ connection.control.length then []
      else [frame]
  | _ => []

end ClientConnection

/-- A connection with its sender and the hub it reads, and what has happened so
far: the control frames accepted, the frames taken from the queues, and what
the socket was given. -/
structure SendingConnection where
  connection : ClientConnection
  hub : PositionHub
  stage : SenderStage
  writable : Bool
  accepted : List Bytes
  taken : List WireFrame
  written : List (WireFrame × Payload)

inductive SenderEvent where
  | produce (call : ProducerCall)
  | hub (call : HubCall)
  /-- `aclose` sets its flags before it awaits the socket. -/
  | aclose
  /-- The sender runs on: it wakes up, or goes through its inner loop once. -/
  | run (nowMs : ℤ)
  | sent
  /-- The write does not succeed in time, or the peer is gone; the frame may
  have reached it all the same. -/
  | timeout (reached : Bool)
  | peerGone (reached : Bool)
  | cancel (reached : Bool)

namespace SendingConnection

def fresh (grid : Grid) (staleAfterS controlMax : ℕ) : SendingConnection where
  connection := .fresh grid controlMax
  hub := .fresh grid staleAfterS
  stage := .waiting
  writable := true
  accepted := []
  taken := []
  written := []

/-- Another task may run: the sender is suspended or gone. -/
def suspended (state : SendingConnection) : Bool := state.stage ≠ .looping

/-- The sender is over; a write that was under way may have reached the peer. -/
def endSender (state : SendingConnection) (reached : Bool) : SendingConnection :=
  { state with
    stage := .ended
    written := match state.stage with
      | .writing frame payload =>
          if reached then state.written ++ [(frame, payload)] else state.written
      | _ => state.written }

/-- A write that failed for good. -/
def fail (state : SendingConnection) (reached : Bool) (code : ℕ) (reason : String) :
    SendingConnection :=
  { state.endSender reached with
    writable := false
    connection := state.connection.requestClose code reason }

/-- The inner loop once, on a connection that is not closing. -/
def takeNext (orjson : Orjson) (state : SendingConnection) (nowMs : ℤ) : SendingConnection :=
  match state.connection.nextFrame state.hub nowMs with
  | none => { state with stage := .ended }
  | some (none, connection, hub) =>
      { state with connection := connection, hub := hub, stage := .waiting }
  | some (some frame, connection, hub) =>
      { state with
        connection := connection
        hub := hub
        taken := state.taken ++ [frame]
        stage :=
          if state.writable then
            match prepare orjson (frame.bytes orjson) with
            | .send payload => .writing frame payload
            | .drop => .looping
            | .raise => .ended
          else
            .ended }

def step (orjson : Orjson) (state : SendingConnection) : SenderEvent → Option SendingConnection
  | .produce call =>
      if state.suspended then
        some { state with
          connection := state.connection.perform call
          accepted := state.accepted ++ state.connection.accepts call }
      else
        none
  | .hub call =>
      if state.suspended then (call.perform state.hub).map fun hub => { state with hub := hub }
      else none
  | .aclose =>
      if state.suspended then
        some { state with
          connection := { state.connection with closing := true }
          writable := false }
      else
        none
  | .run nowMs =>
      match state.stage with
      | .waiting =>
          if state.connection.wake then
            some { state with
              connection := { state.connection with wake := false }
              stage := .looping }
          else
            none
      | .looping =>
          -- both loops test `closing` before anything is taken
          if state.connection.closing then some { state with stage := .ended }
          else some (state.takeNext orjson nowMs)
      | _ => none
  | .sent =>
      match state.stage with
      | .writing frame payload =>
          some { state with stage := .looping, written := state.written ++ [(frame, payload)] }
      | _ => none
  | .timeout reached =>
      match state.stage with
      | .writing _ _ =>
          some (state.fail reached ClientConnection.closeSlowConsumer "write timed out")
      | _ => none
  | .peerGone reached =>
      match state.stage with
      | .writing _ _ => some (state.fail reached 1000 "peer disconnected")
      | _ => none
  | .cancel reached => if state.suspended then some (state.endSender reached) else none

end SendingConnection

namespace ClientConnection

variable {connection : ClientConnection}

/-- Nothing is left to send. -/
def Idle (connection : ClientConnection) : Prop :=
  connection.control = [] ∧ connection.pendingDelta = none ∧ connection.needsSnapshot = false

/-- The queues are within their bounds. -/
structure Orderly (connection : ClientConnection) : Prop where
  bounded : connection.control.length ≤ connection.controlMax
  exclusive : connection.pendingDelta ≠ none → connection.needsSnapshot = false
  windowed : connection.needsSnapshot = true → connection.viewport ≠ none

theorem orderly_fresh (grid : Grid) (controlMax : ℕ) : (fresh grid controlMax).Orderly :=
  ⟨Nat.zero_le _, fun _ => rfl, fun impossible => by cases impossible⟩

@[simp]
theorem closing_requestClose (connection : ClientConnection) (code : ℕ) (reason : String) :
    (connection.requestClose code reason).closing = true := by
  unfold requestClose
  split
  case isTrue closing => exact closing
  case isFalse => rfl

theorem Orderly.requestClose (orderly : connection.Orderly) (code : ℕ) (reason : String) :
    (connection.requestClose code reason).Orderly := by
  unfold ClientConnection.requestClose
  split
  case isTrue => exact orderly
  case isFalse => exact ⟨Nat.zero_le _, fun _ => rfl, fun impossible => by cases impossible⟩

theorem Orderly.offerPositions (orderly : connection.Orderly) (delta : TickDelta) :
    (connection.offerPositions delta).Orderly := by
  unfold ClientConnection.offerPositions
  split
  case h_1 => exact orderly
  case h_2 viewport window =>
      split
      case isTrue => exact orderly
      case isFalse open_ =>
          have wanted : connection.needsSnapshot = false := by simp_all
          simp only
          split
          case isTrue => exact orderly
          case isFalse =>
              split
              · exact ⟨orderly.bounded, fun _ => wanted, orderly.windowed⟩
              · exact ⟨orderly.bounded, fun some_ => absurd rfl some_, fun _ => by simp [window]⟩

/-- Everything `offer_positions` can do: nothing, or leave a delta or the wish
for a snapshot with the sender woken. -/
theorem offerPositions_cases (connection : ClientConnection) (delta : TickDelta) :
    connection.offerPositions delta = connection ∨
      (connection.offerPositions delta).wake = true ∧
      (connection.offerPositions delta).control = connection.control ∧
      (connection.offerPositions delta).closing = connection.closing := by
  unfold offerPositions
  split
  case h_1 => exact Or.inl rfl
  case h_2 =>
      split
      case isTrue => exact Or.inl rfl
      case isFalse =>
          simp only
          split
          case isTrue => exact Or.inl rfl
          case isFalse =>
              split
              · exact Or.inr ⟨rfl, rfl, rfl⟩
              · exact Or.inr ⟨rfl, rfl, rfl⟩

theorem Orderly.sendControl (orderly : connection.Orderly) (frame : Bytes) :
    (connection.sendControl frame).Orderly := by
  unfold ClientConnection.sendControl
  split
  case isTrue => exact orderly
  case isFalse =>
      split
      case isTrue => exact orderly.requestClose _ _
      case isFalse room =>
          refine ⟨?_, orderly.exclusive, orderly.windowed⟩
          simp only [List.length_append, List.length_singleton]
          omega

theorem Orderly.control_rest (orderly : connection.Orderly) {frame : Bytes} {rest : List Bytes}
    (queue : connection.control = frame :: rest) :
    { connection with control := rest : ClientConnection }.Orderly := by
  have bounded := orderly.bounded
  rw [queue, List.length_cons] at bounded
  exact ⟨Nat.le_of_succ_le bounded, orderly.exclusive, orderly.windowed⟩

theorem Orderly.no_delta (orderly : connection.Orderly)
    (wanted : connection.needsSnapshot = true) : connection.pendingDelta = none := by
  by_contra delta
  rw [orderly.exclusive delta] at wanted
  cases wanted

theorem Orderly.perform (orderly : connection.Orderly) (call : ProducerCall) :
    (connection.perform call).Orderly := by
  cases call with
  | sendControl frame => exact orderly.sendControl frame
  | offerPositions delta => exact orderly.offerPositions delta
  | setViewport bbox =>
      exact ⟨orderly.bounded, fun some_ => absurd rfl some_, fun _ => Option.some_ne_none _⟩
  | requestClose code reason => exact orderly.requestClose code reason

theorem controlMax_perform (connection : ClientConnection) (call : ProducerCall) :
    (connection.perform call).controlMax = connection.controlMax := by
  have closes (code : ℕ) (reason : String) :
      (connection.requestClose code reason).controlMax = connection.controlMax := by
    unfold requestClose
    split <;> rfl
  cases call with
  | sendControl frame =>
      simp only [perform, sendControl]
      split
      case isTrue => rfl
      case isFalse =>
          split
          case isTrue => exact closes _ _
          case isFalse => rfl
  | offerPositions delta =>
      simp only [perform, offerPositions]
      split
      case h_1 => rfl
      case h_2 =>
          split
          case isTrue => rfl
          case isFalse =>
              split
              case isTrue => rfl
              case isFalse => split <;> rfl
  | setViewport bbox => rfl
  | requestClose code reason => exact closes code reason

/-- A call leaves the connection as it is, or wakes the sender. -/
theorem perform_eq_or_wake (connection : ClientConnection) (call : ProducerCall) :
    connection.perform call = connection ∨ (connection.perform call).wake = true := by
  cases call with
  | sendControl frame =>
      simp only [perform, sendControl]
      split
      case isTrue => exact Or.inl rfl
      case isFalse open_ =>
          split
          case isTrue => exact Or.inr (by simp [requestClose, open_])
          case isFalse => exact Or.inr rfl
  | offerPositions delta => exact (offerPositions_cases connection delta).imp id fun woken => woken.1
  | setViewport bbox => exact Or.inr rfl
  | requestClose code reason =>
      simp only [perform, requestClose]
      split
      case isTrue => exact Or.inl rfl
      case isFalse => exact Or.inr rfl

/-- A call that does not wake the sender leaves it nothing to send. -/
theorem idle_perform (awake : connection.wake = false → connection.Idle) (call : ProducerCall)
    (quiet : (connection.perform call).wake = false) : (connection.perform call).Idle := by
  rcases perform_eq_or_wake connection call with same | woken
  · rw [same] at quiet ⊢
    exact awake quiet
  · exact absurd (woken.symm.trans quiet) (by simp)

/-- A call on a closing connection adds nothing and leaves it closing. -/
theorem perform_of_closing (closing : connection.closing = true) (call : ProducerCall) :
    (connection.perform call).closing = true ∧ connection.accepts call = [] := by
  cases call with
  | sendControl frame => simp [perform, sendControl, accepts, closing]
  | offerPositions delta =>
      refine ⟨?_, rfl⟩
      rcases offerPositions_cases connection delta with same | ⟨-, -, same⟩
      · rw [perform, same, closing]
      · rw [perform, same, closing]
  | setViewport bbox => exact ⟨closing, rfl⟩
  | requestClose code reason => exact ⟨closing_requestClose _ _ _, rfl⟩

/-- A call after which the connection is open adds what it accepts to the end of
the queue. -/
theorem control_perform (call : ProducerCall)
    (open_ : (connection.perform call).closing = false) :
    connection.closing = false ∧
      (connection.perform call).control = connection.control ++ connection.accepts call := by
  have wasOpen : connection.closing = false := by
    by_contra closing
    have stays := (perform_of_closing (by simpa using closing) call).1
    rw [open_] at stays
    cases stays
  refine ⟨wasOpen, ?_⟩
  cases call with
  | sendControl frame =>
      simp only [perform, sendControl, accepts, wasOpen, Bool.false_eq_true, if_false] at open_ ⊢
      split
      case isTrue full =>
          rw [if_pos full, closing_requestClose] at open_
          cases open_
      case isFalse => rfl
  | offerPositions delta =>
      have nothing : connection.accepts (.offerPositions delta) = [] := rfl
      rcases offerPositions_cases connection delta with same | ⟨-, same, -⟩
      · rw [perform, same, nothing, List.append_nil]
      · rw [perform, same, nothing, List.append_nil]
  | setViewport bbox => exact (List.append_nil _).symm
  | requestClose code reason =>
      rw [perform, closing_requestClose] at open_
      cases open_

theorem eq_sendControl_of_mem_accepts {call : ProducerCall} {frame : Bytes}
    (accepted : frame ∈ connection.accepts call) : call = .sendControl frame := by
  cases call with
  | sendControl other =>
      simp only [accepts] at accepted
      split at accepted
      case isTrue => cases accepted
      case isFalse =>
          split at accepted
          case isTrue => cases accepted
          case isFalse => rw [List.mem_singleton.mp accepted]
  | offerPositions | setViewport | requestClose => cases accepted

/-- What is queued after a call was queued before or is accepted by it. -/
theorem mem_control_perform {call : ProducerCall} {frame : Bytes}
    (queued : frame ∈ (connection.perform call).control) :
    frame ∈ connection.control ∨ frame ∈ connection.accepts call := by
  by_cases closes : (connection.perform call).closing = true
  · left
    cases call with
    | sendControl other =>
        simp only [perform, sendControl, requestClose] at queued closes
        split at queued
        case isTrue => exact queued
        case isFalse open_ =>
            split at queued
            case isTrue => simp at queued
            case isFalse room => simp [open_, room] at closes
    | offerPositions delta =>
        rcases offerPositions_cases connection delta with same | ⟨-, same, -⟩
        · rwa [perform, same] at queued
        · rwa [perform, same] at queued
    | setViewport bbox => exact queued
    | requestClose code reason =>
        simp only [perform, requestClose] at queued
        split at queued
        case isTrue => exact queued
        case isFalse => simp at queued
  · obtain ⟨-, queue⟩ := control_perform call (by simpa using closes)
    rw [queue, List.mem_append] at queued
    exact queued

/-- Everything `_next_frame` can do. -/
theorem nextFrame_cases (connection : ClientConnection) (hub : PositionHub) (nowMs : ℤ) :
    (∃ bytes rest, connection.control = bytes :: rest ∧
      connection.nextFrame hub nowMs =
        some (some (.control bytes), { connection with control := rest }, hub)) ∨
    (∃ viewport, connection.control = [] ∧ connection.needsSnapshot = true ∧
      connection.nextFrame hub nowMs = (hub.snapshotChunks viewport).map fun result =>
        (some (.positions (positionsFrame true nowMs result.1 [])),
          { connection with needsSnapshot := false }, result.2)) ∨
    (connection.control = [] ∧
      (connection.viewport ≠ none → connection.needsSnapshot = false) ∧
      connection.nextFrame hub nowMs = some (connection.pendingDelta.map .positions,
        { connection with pendingDelta := none }, hub)) := by
  unfold nextFrame
  cases queue : connection.control with
  | cons bytes rest => exact Or.inl ⟨bytes, rest, rfl, rfl⟩
  | nil =>
      cases wanted : connection.needsSnapshot with
      | false => exact Or.inr (Or.inr ⟨rfl, fun _ => rfl, rfl⟩)
      | true =>
          cases window : connection.viewport with
          | none => exact Or.inr (Or.inr ⟨rfl, fun some_ => absurd rfl some_, rfl⟩)
          | some viewport => exact Or.inr (Or.inl ⟨viewport, rfl, rfl, rfl⟩)

end ClientConnection

section Preparing

variable {orjson : Orjson} {frame : Bytes}

/-- UTF-8 that loads to a JSON object whose type is a string. -/
def isControlFrame (orjson : Orjson) (frame : Bytes) : Bool :=
  (decodeText frame).isSome &&
    match orjson.loads frame with
    | .ok (.obj fields) =>
        match fields.lookup "type" with
        | some (.str _) => true
        | _ => false
    | _ => false

/-- The type of such a frame can be told. -/
theorem exists_parsedFrameType (wellFormed : isControlFrame orjson frame = true) :
    ∃ kind, parsedFrameType orjson frame = some kind := by
  rw [isControlFrame, Bool.and_eq_true] at wellFormed
  replace wellFormed := wellFormed.2
  unfold parsedFrameType
  split at wellFormed
  case h_1 fields loaded =>
      split at wellFormed
      case h_1 kind found => exact ⟨_, by simp only [found]; rfl⟩
      case h_2 => cases wellFormed
  case h_2 => cases wellFormed

theorem exists_frameType (wellFormed : isControlFrame orjson frame = true) :
    ∃ kind, frameType orjson frame = some kind := by
  unfold frameType
  split
  case isTrue =>
      split
      · exact ⟨_, rfl⟩
      · exact exists_parsedFrameType wellFormed
  case isFalse => exact exists_parsedFrameType wellFormed

theorem bytes_of_decodeText {text : String} (decoded : decodeText frame = some text) :
    (Payload.text text).bytes = frame := by
  unfold decodeText String.fromUTF8? at decoded
  split at decoded
  case isTrue valid =>
      obtain rfl := Option.some.inj decoded
      rfl
  case isFalse => cases decoded

/-- Such a frame is written, byte for byte. -/
theorem prepare_control (wellFormed : isControlFrame orjson frame = true) :
    ∃ payload, prepare orjson frame = .send payload ∧ payload.bytes = frame := by
  obtain ⟨kind, typed⟩ := exists_frameType wellFormed
  unfold prepare
  rw [typed]
  simp only
  split
  case isTrue => exact ⟨_, rfl, rfl⟩
  case isFalse =>
      rw [isControlFrame, Bool.and_eq_true] at wellFormed
      obtain ⟨text, decoded⟩ := Option.isSome_iff_exists.mp wellFormed.1
      rw [decoded]
      exact ⟨_, rfl, bytes_of_decodeText decoded⟩

/-- The type of a position frame is read off its first bytes. -/
theorem frameType_positionsFrameBytes (full : Bool) (tMs : ℤ) (itemChunks : List Bytes)
    (removed : List DeviceId) :
    frameType orjson (positionsFrameBytes orjson full tMs itemChunks removed) =
      some "positions" := by
  obtain ⟨rest, text⟩ : ∃ rest, positionsFrameBytes orjson full tMs itemChunks removed =
      frameTypePrefix ++ (ascii "positions" ++ quote :: rest) := by
    have start : ascii "\x7b\"type\":\"positions\",\"full\":" =
        frameTypePrefix ++ (ascii "positions" ++ quote :: ascii ",\"full\":") := by
      decide +kernel
    simp only [positionsFrameBytes, List.flatten_cons, start, List.append_assoc,
      List.cons_append]
    exact ⟨_, rfl⟩
  have content : untilQuote (ascii "positions" ++ quote :: rest) = some (ascii "positions") := by
    have plain : ∀ byte ∈ ascii "positions", decide (byte ≠ quote) = true := by decide +kernel
    rw [untilQuote, if_pos (by simp), List.takeWhile_append_of_pos plain]
    simp
  have found : (frameTypes.find? fun kind => ascii kind = ascii "positions") =
      some "positions" := by
    decide +kernel
  rw [text, frameType, if_pos (by simp), List.drop_left, content, Option.bind_some, found]

theorem prepare_positions (frame : PositionsFrame) :
    prepare orjson ((WireFrame.positions frame).bytes orjson) =
      .send (.binary ((WireFrame.positions frame).bytes orjson)) := by
  have typed : frameType orjson ((WireFrame.positions frame).bytes orjson) = some "positions" :=
    frameType_positionsFrameBytes _ _ _ _
  rw [prepare, typed]
  rfl

end Preparing

def WireFrame.control? : WireFrame → Option Bytes
  | .control bytes => some bytes
  | .positions _ => none

/-- The control frames among those written, oldest first. -/
def controlFrames (written : List (WireFrame × Payload)) : List Bytes :=
  written.filterMap fun entry => entry.1.control?

theorem controlFrames_snoc (written : List (WireFrame × Payload)) (frame : WireFrame)
    (payload : Payload) : controlFrames (written ++ [(frame, payload)]) =
      controlFrames written ++ frame.control?.toList := by
  cases frame with
  | control bytes => simp [controlFrames, WireFrame.control?]
  | positions frame => simp [controlFrames, WireFrame.control?]

/-- The frame that is being written. -/
def SenderStage.inFlight : SenderStage → List (WireFrame × Payload)
  | .writing frame payload => [(frame, payload)]
  | _ => []

namespace SendingConnection

/-- What holds between any two steps. -/
structure Disciplined (orjson : Orjson) (state : SendingConnection) : Prop where
  orderly : state.connection.Orderly
  hub : state.hub.Sound
  awake : state.stage = .waiting → state.connection.wake = false → state.connection.Idle
  wellFormed : ∀ frame ∈ state.connection.control, isControlFrame orjson frame = true
  closed : state.writable = false → state.connection.closing = true ∨ state.stage = .ended
  ledger : state.connection.closing = false → state.stage ≠ .ended →
    state.accepted = controlFrames (state.written ++ state.stage.inFlight) ++
      state.connection.control
  inOrder : controlFrames (state.written ++ state.stage.inFlight) <+: state.accepted
  faithful : ∀ entry ∈ state.written ++ state.stage.inFlight,
    entry.2.bytes = entry.1.bytes orjson

end SendingConnection

/-- Producers only queue control frames that are UTF-8 JSON objects with a
string type. -/
def ControlFramesOnly (orjson : Orjson) (_ : SendingConnection) : SenderEvent → Prop
  | .produce (.sendControl frame) => isControlFrame orjson frame = true
  | _ => True

instance (orjson : Orjson) (state : SendingConnection) (event : SenderEvent) :
    Decidable (ControlFramesOnly orjson state event) := by
  unfold ControlFramesOnly
  split <;> infer_instance

namespace SendingConnection

variable {orjson : Orjson} {state after : SendingConnection}

theorem disciplined_fresh (orjson : Orjson) (grid : Grid) (staleAfterS controlMax : ℕ) :
    (fresh grid staleAfterS controlMax).Disciplined orjson where
  orderly := ClientConnection.orderly_fresh grid controlMax
  hub := PositionHub.sound_fresh grid staleAfterS
  awake := fun _ _ => ⟨rfl, rfl, rfl⟩
  wellFormed := by simp [fresh, ClientConnection.fresh]
  closed := by simp [fresh]
  ledger := fun _ _ => rfl
  inOrder := List.prefix_refl _
  faithful := by simp [fresh, SenderStage.inFlight]

theorem Disciplined.produce (disciplined : state.Disciplined orjson) (call : ProducerCall)
    (allowed : ControlFramesOnly orjson state (.produce call)) :
    ({ state with
      connection := state.connection.perform call
      accepted := state.accepted ++ state.connection.accepts call }).Disciplined orjson where
  orderly := disciplined.orderly.perform call
  hub := disciplined.hub
  awake := by
    intro waiting
    exact ClientConnection.idle_perform (disciplined.awake waiting) call
  wellFormed := by
    intro frame queued
    rcases ClientConnection.mem_control_perform queued with before | isNew
    · exact disciplined.wellFormed frame before
    · rw [ClientConnection.eq_sendControl_of_mem_accepts isNew] at allowed
      exact allowed
  closed := by
    intro lost
    exact (disciplined.closed lost).imp
      (fun closing => (ClientConnection.perform_of_closing closing call).1) id
  ledger := by
    intro open_ running
    obtain ⟨wasOpen, queue⟩ := ClientConnection.control_perform call open_
    have before := disciplined.ledger wasOpen running
    change state.accepted ++ _ = _ ++ (state.connection.perform call).control
    rw [queue, before, List.append_assoc]
  inOrder := disciplined.inOrder.trans (List.prefix_append _ _)
  faithful := disciplined.faithful

/-- The sender wakes up and clears the event. -/
theorem Disciplined.wakeUp (disciplined : state.Disciplined orjson)
    (waiting : state.stage = .waiting) :
    ({ state with
      connection := { state.connection with wake := false }
      stage := .looping }).Disciplined orjson := by
  have running : state.stage ≠ .ended := by simp [waiting]
  obtain ⟨orderly, hub, -, wellFormed, closed, ledger, inOrder, faithful⟩ := disciplined
  rw [waiting] at ledger inOrder faithful closed
  exact ⟨⟨orderly.bounded, orderly.exclusive, orderly.windowed⟩, hub, nofun, wellFormed,
    fun lost => (closed lost).imp id nofun, fun open_ _ => ledger open_ (by simp), inOrder,
    faithful⟩

/-- What was being written may have been written when the sender ends. -/
theorem written_endSender (state : SendingConnection) (reached : Bool) :
    (state.endSender reached).written <+: state.written ++ state.stage.inFlight := by
  unfold SendingConnection.endSender
  cases state.stage with
  | writing frame payload =>
      cases reached with
      | true => exact List.prefix_refl _
      | false => exact List.prefix_append _ _
  | waiting => exact List.prefix_append _ _
  | looping => exact List.prefix_append _ _
  | ended => exact List.prefix_append _ _

theorem Disciplined.endSender (disciplined : state.Disciplined orjson) (reached : Bool) :
    (state.endSender reached).Disciplined orjson where
  orderly := disciplined.orderly
  hub := disciplined.hub
  awake := fun elsewhere => by cases elsewhere
  wellFormed := disciplined.wellFormed
  closed := fun _ => Or.inr rfl
  ledger := fun _ running => absurd rfl running
  inOrder := by
    have shorter := written_endSender state reached
    change controlFrames ((state.endSender reached).written ++ []) <+: state.accepted
    rw [List.append_nil]
    exact (shorter.filterMap _).trans disciplined.inOrder
  faithful := by
    intro entry listed
    change entry ∈ (state.endSender reached).written ++ [] at listed
    rw [List.append_nil] at listed
    exact disciplined.faithful entry ((written_endSender state reached).subset listed)

theorem Disciplined.fail (disciplined : state.Disciplined orjson) (reached : Bool) (code : ℕ)
    (reason : String) : (state.fail reached code reason).Disciplined orjson where
  orderly := disciplined.orderly.requestClose code reason
  hub := disciplined.hub
  awake := fun elsewhere => by cases elsewhere
  wellFormed := by
    intro frame queued
    have performed : frame ∈ (state.connection.perform (.requestClose code reason)).control :=
      queued
    rcases ClientConnection.mem_control_perform performed with before | isNew
    · exact disciplined.wellFormed frame before
    · cases isNew
  closed := fun _ => Or.inr rfl
  ledger := fun _ running => absurd rfl running
  inOrder := (disciplined.endSender reached).inOrder
  faithful := (disciplined.endSender reached).faithful

/-- A write is through. -/
theorem Disciplined.sent (disciplined : state.Disciplined orjson) {frame : WireFrame}
    {payload : Payload} (writing : state.stage = .writing frame payload) :
    ({ state with
      stage := .looping
      written := state.written ++ [(frame, payload)] }).Disciplined orjson := by
  obtain ⟨orderly, hub, -, wellFormed, closed, ledger, inOrder, faithful⟩ := disciplined
  rw [writing] at ledger inOrder faithful closed
  refine ⟨orderly, hub, nofun, wellFormed, fun lost => (closed lost).imp id nofun, ?_, ?_, ?_⟩
  · intro open_ _
    have before := ledger open_ (by simp)
    simpa [SenderStage.inFlight] using before
  · simpa [SenderStage.inFlight] using inOrder
  · simpa [SenderStage.inFlight] using faithful

/-- A sender in its loop on an open connection can still write, and has nothing
under way. -/
theorem Disciplined.looping (disciplined : state.Disciplined orjson)
    (looping : state.stage = .looping) (open_ : state.connection.closing = false) :
    state.writable = true ∧
      state.accepted = controlFrames state.written ++ state.connection.control := by
  constructor
  · by_contra lost
    rcases disciplined.closed (by simpa using lost) with closing | ended
    · rw [open_] at closing
      cases closing
    · rw [looping] at ended
      cases ended
  · have ledger := disciplined.ledger open_ (by simp [looping])
    rw [looping] at ledger
    simpa [SenderStage.inFlight] using ledger

/-- The state in which a frame that was taken is being written. -/
def startWriting (state : SendingConnection) (connection : ClientConnection) (hub : PositionHub)
    (frame : WireFrame) (payload : Payload) : SendingConnection :=
  { state with
    connection := connection
    hub := hub
    taken := state.taken ++ [frame]
    stage := .writing frame payload }

theorem takeNext_eq {nowMs : ℤ} {connection : ClientConnection} {hub : PositionHub}
    {frame : WireFrame} {payload : Payload} (writable : state.writable = true)
    (next : state.connection.nextFrame state.hub nowMs = some (some frame, connection, hub))
    (prepared : prepare orjson (frame.bytes orjson) = .send payload) :
    state.takeNext orjson nowMs = state.startWriting connection hub frame payload := by
  simp [takeNext, startWriting, next, writable, prepared]

/-- A frame that was taken is on its way out. -/
theorem Disciplined.take (disciplined : state.Disciplined orjson)
    (looping : state.stage = .looping) (open_ : state.connection.closing = false)
    {frame : WireFrame} {payload : Payload} {connection : ClientConnection} {hub : PositionHub}
    (orderly : connection.Orderly) (sound : hub.Sound)
    (same : payload.bytes = frame.bytes orjson)
    (queue : state.connection.control = frame.control?.toList ++ connection.control) :
    (state.startWriting connection hub frame payload).Disciplined orjson := by
  obtain ⟨writable, ledger⟩ := disciplined.looping looping open_
  have accepted : state.accepted =
      controlFrames (state.written ++ [(frame, payload)]) ++ connection.control := by
    rw [controlFrames_snoc, ledger, queue, List.append_assoc]
  refine ⟨orderly, sound, nofun, ?_, ?_, fun _ _ => accepted, ?_, ?_⟩
  · intro other queued
    apply disciplined.wellFormed
    rw [queue]
    exact List.mem_append_right _ queued
  · intro lost
    exact absurd (writable.symm.trans lost) (by simp)
  · exact accepted ▸ List.prefix_append _ _
  · intro entry listed
    rcases List.mem_append.mp listed with before | now
    · exact disciplined.faithful entry (List.mem_append_left _ before)
    · obtain rfl := List.mem_singleton.mp now
      exact same

/-- The inner loop once, on an open connection. -/
theorem Disciplined.takeNext (disciplined : state.Disciplined orjson)
    (looping : state.stage = .looping) (open_ : state.connection.closing = false) (nowMs : ℤ) :
    (state.takeNext orjson nowMs).Disciplined orjson := by
  obtain ⟨writable, ledger⟩ := disciplined.looping looping open_
  have orderly := disciplined.orderly
  rcases state.connection.nextFrame_cases state.hub nowMs with
    ⟨bytes, rest, queue, next⟩ | ⟨viewport, queue, wanted, next⟩ | ⟨queue, unwanted, next⟩
  · obtain ⟨payload, prepared, same⟩ :=
      prepare_control (disciplined.wellFormed bytes (by simp [queue]))
    rw [takeNext_eq writable next prepared]
    exact disciplined.take looping open_ (orderly.control_rest queue) disciplined.hub same queue
  · obtain ⟨chunks, snapshots, taken, sound, -⟩ := disciplined.hub.snapshotChunks viewport
    have noDelta := orderly.no_delta wanted
    rw [taken, Option.map_some] at next
    rw [takeNext_eq writable next (prepare_positions _)]
    exact disciplined.take looping open_
      ⟨orderly.bounded, fun delta => absurd noDelta delta, nofun⟩ sound rfl rfl
  · cases delta : state.connection.pendingDelta with
    | some frame =>
        rw [delta, Option.map_some] at next
        rw [takeNext_eq writable next (prepare_positions frame)]
        exact disciplined.take looping open_
          ⟨orderly.bounded, fun some_ => absurd rfl some_, orderly.windowed⟩ disciplined.hub rfl
          rfl
    | none =>
        have satisfied : state.connection.needsSnapshot = false := by
          by_contra wanted
          have window := orderly.windowed (by simpa using wanted)
          exact wanted (unwanted window)
        rw [delta, Option.map_none] at next
        simp only [SendingConnection.takeNext, next]
        refine ⟨⟨orderly.bounded, fun some_ => absurd rfl some_, orderly.windowed⟩,
          disciplined.hub, fun _ _ => ⟨queue, rfl, satisfied⟩, disciplined.wellFormed, ?_, ?_, ?_, ?_⟩
        · intro lost
          exact absurd (writable.symm.trans lost) (by simp)
        · intro _ _
          simpa [SenderStage.inFlight] using ledger
        · have inOrder := disciplined.inOrder
          rw [looping] at inOrder
          exact inOrder
        · have faithful := disciplined.faithful
          rw [looping] at faithful
          exact faithful

variable {event : SenderEvent}

/-- Everything a step can do. -/
inductive Moves (orjson : Orjson) (state : SendingConnection) :
    SenderEvent → SendingConnection → Prop where
  | produce (call : ProducerCall) : Moves orjson state (.produce call)
      { state with
        connection := state.connection.perform call
        accepted := state.accepted ++ state.connection.accepts call }
  | hub {call : HubCall} {hub : PositionHub} (performed : call.perform state.hub = some hub) :
      Moves orjson state (.hub call) { state with hub := hub }
  | aclose : Moves orjson state .aclose
      { state with connection := { state.connection with closing := true }, writable := false }
  | wakeUp (nowMs : ℤ) (waiting : state.stage = .waiting) : Moves orjson state (.run nowMs)
      { state with connection := { state.connection with wake := false }, stage := .looping }
  | stop (nowMs : ℤ) : Moves orjson state (.run nowMs) (state.endSender false)
  | takeNext (nowMs : ℤ) (looping : state.stage = .looping)
      (open_ : state.connection.closing = false) :
      Moves orjson state (.run nowMs) (state.takeNext orjson nowMs)
  | sent {frame : WireFrame} {payload : Payload} (writing : state.stage = .writing frame payload) :
      Moves orjson state .sent
        { state with stage := .looping, written := state.written ++ [(frame, payload)] }
  | fail (event : SenderEvent) (reached : Bool) (code : ℕ) (reason : String) :
      Moves orjson state event (state.fail reached code reason)
  | cancel (reached : Bool) : Moves orjson state (.cancel reached) (state.endSender reached)

theorem moves_of_step (stepTo : state.step orjson event = some after) :
    Moves orjson state event after := by
  unfold step at stepTo
  split at stepTo
  case h_1 call =>
      split at stepTo
      case isTrue =>
          obtain rfl := Option.some.inj stepTo
          exact .produce call
      case isFalse => cases stepTo
  case h_2 call =>
      split at stepTo
      case isTrue =>
          obtain ⟨hub, performed, rfl⟩ := Option.map_eq_some_iff.mp stepTo
          exact .hub performed
      case isFalse => cases stepTo
  case h_3 =>
      split at stepTo
      case isTrue =>
          obtain rfl := Option.some.inj stepTo
          exact .aclose
      case isFalse => cases stepTo
  case h_4 nowMs =>
      split at stepTo
      case h_1 waiting =>
          split at stepTo
          case isTrue =>
              obtain rfl := Option.some.inj stepTo
              exact .wakeUp nowMs waiting
          case isFalse => cases stepTo
      case h_2 looping =>
          split at stepTo
          case isTrue =>
              obtain rfl := Option.some.inj stepTo
              have stops : Moves orjson state (.run nowMs) (state.endSender false) := .stop nowMs
              rwa [endSender, looping] at stops
          case isFalse open_ =>
              obtain rfl := Option.some.inj stepTo
              exact .takeNext nowMs looping (by simpa using open_)
      case h_3 => cases stepTo
  case h_5 =>
      split at stepTo
      case h_1 frame payload writing =>
          obtain rfl := Option.some.inj stepTo
          exact .sent writing
      case h_2 => cases stepTo
  case h_6 reached =>
      split at stepTo
      case h_1 =>
          obtain rfl := Option.some.inj stepTo
          exact .fail _ _ _ _
      case h_2 => cases stepTo
  case h_7 reached =>
      split at stepTo
      case h_1 =>
          obtain rfl := Option.some.inj stepTo
          exact .fail _ _ _ _
      case h_2 => cases stepTo
  case h_8 reached =>
      split at stepTo
      case isTrue =>
          obtain rfl := Option.some.inj stepTo
          exact .cancel reached
      case isFalse => cases stepTo

theorem Disciplined.step (disciplined : state.Disciplined orjson)
    (allowed : ControlFramesOnly orjson state event)
    (stepTo : state.step orjson event = some after) : after.Disciplined orjson := by
  cases moves_of_step stepTo with
  | produce call => exact disciplined.produce call allowed
  | @hub call hub performed =>
      have sound := HubCall.sound_perform disciplined.hub performed
      exact ⟨disciplined.orderly, sound, disciplined.awake, disciplined.wellFormed,
        disciplined.closed, disciplined.ledger, disciplined.inOrder, disciplined.faithful⟩
  | aclose =>
      have orderly := disciplined.orderly
      exact ⟨⟨orderly.bounded, orderly.exclusive, orderly.windowed⟩, disciplined.hub,
        disciplined.awake, disciplined.wellFormed, fun _ => Or.inl rfl, nofun,
        disciplined.inOrder, disciplined.faithful⟩
  | wakeUp nowMs waiting => exact disciplined.wakeUp waiting
  | stop nowMs => exact disciplined.endSender false
  | takeNext nowMs looping open_ => exact disciplined.takeNext looping open_ nowMs
  | sent writing => exact disciplined.sent writing
  | fail event reached code reason => exact disciplined.fail reached code reason
  | cancel reached => exact disciplined.endSender reached

theorem controlMax_takeNext (state : SendingConnection) (nowMs : ℤ) :
    (state.takeNext orjson nowMs).connection.controlMax = state.connection.controlMax := by
  unfold takeNext
  rcases state.connection.nextFrame_cases state.hub nowMs with
    ⟨bytes, rest, queue, next⟩ | ⟨viewport, queue, wanted, next⟩ | ⟨queue, unwanted, next⟩
  · simp only [next]
  · rw [next]
    cases state.hub.snapshotChunks viewport <;> rfl
  · rw [next]
    cases state.connection.pendingDelta <;> rfl

/-- The bound of the queue is the one the connection was made with. -/
theorem controlMax_step (stepTo : state.step orjson event = some after) :
    after.connection.controlMax = state.connection.controlMax := by
  cases moves_of_step stepTo with
  | produce call => exact ClientConnection.controlMax_perform state.connection call
  | takeNext nowMs looping open_ => exact controlMax_takeNext state nowMs
  | fail event reached code reason =>
      exact ClientConnection.controlMax_perform state.connection (.requestClose code reason)
  | hub | aclose | wakeUp | stop | sent | cancel => rfl

/-- On a closing connection nothing is taken from the queues any more. -/
theorem taken_step_of_closing (closing : state.connection.closing = true)
    (stepTo : state.step orjson event = some after) :
    after.taken = state.taken ∧ after.connection.closing = true := by
  cases moves_of_step stepTo with
  | produce call => exact ⟨rfl, (ClientConnection.perform_of_closing closing call).1⟩
  | aclose => exact ⟨rfl, rfl⟩
  | takeNext nowMs looping open_ =>
      rw [closing] at open_
      cases open_
  | fail event reached code reason => exact ⟨rfl, ClientConnection.closing_requestClose _ _ _⟩
  | hub | wakeUp | stop | sent | cancel => exact ⟨rfl, closing⟩

end SendingConnection

/-- All interleavings of a connection's producers with its sender. -/
abbrev SenderRun (orjson : Orjson) (start : SendingConnection) :
    List SenderEvent → SendingConnection → Prop :=
  Run (SendingConnection.step orjson) (ControlFramesOnly orjson) start

section Runs

variable {orjson : Orjson} {start state : SendingConnection} {events : List SenderEvent}

theorem disciplined_run (atStart : start.Disciplined orjson)
    (run : SenderRun orjson start events state) : state.Disciplined orjson :=
  run.invariant atStart fun _ _ _ disciplined allowed stepTo => disciplined.step allowed stepTo

theorem controlMax_run (run : SenderRun orjson start events state) :
    state.connection.controlMax = start.connection.controlMax := by
  induction run with
  | nil => rfl
  | snoc _ _ stepTo ih => exact (SendingConnection.controlMax_step stepTo).trans ih

theorem taken_run_of_closing (closing : start.connection.closing = true)
    (run : SenderRun orjson start events state) :
    state.taken = start.taken ∧ state.connection.closing = true := by
  induction run with
  | nil => exact ⟨rfl, closing⟩
  | snoc _ _ stepTo ih =>
      obtain ⟨same, stays⟩ := SendingConnection.taken_step_of_closing ih.2 stepTo
      exact ⟨same.trans ih.1, stays⟩

end Runs

/-- Whatever the producers do between the awaits of the sender: the queue stays
within its bound, a delta and a snapshot are never both due, control frames
are written in the order in which they were accepted and none is lost while
the connection lives, nothing is taken once it is closing, and a sender that
sleeps unwoken has nothing to send. -/
theorem connection_queue_discipline (orjson : Orjson) (grid : Grid) (staleAfterS controlMax : ℕ)
    (events : List SenderEvent) (state : SendingConnection)
    (run : SenderRun orjson (.fresh grid staleAfterS controlMax) events state) :
    state.connection.control.length ≤ controlMax ∧
    ¬ (state.connection.pendingDelta ≠ none ∧ state.connection.needsSnapshot = true) ∧
    controlFrames state.written <+: state.accepted ∧
    (∀ entry ∈ state.written, entry.2.bytes = entry.1.bytes orjson) ∧
    (state.connection.closing = false → state.stage ≠ .ended →
      state.accepted = controlFrames (state.written ++ state.stage.inFlight) ++
        state.connection.control) ∧
    (state.connection.closing = true → ∀ later final, SenderRun orjson state later final →
      final.taken = state.taken) ∧
    (state.stage = .waiting → state.connection.wake = false → state.connection.Idle) := by
  have disciplined := disciplined_run
    (SendingConnection.disciplined_fresh orjson grid staleAfterS controlMax) run
  have sameMax : state.connection.controlMax = controlMax := controlMax_run run
  refine ⟨?_, ?_, ?_, ?_, disciplined.ledger, ?_, disciplined.awake⟩
  · exact sameMax ▸ disciplined.orderly.bounded
  · rintro ⟨delta, wanted⟩
    exact delta (disciplined.orderly.no_delta wanted)
  · have started : controlFrames state.written <+:
        controlFrames (state.written ++ state.stage.inFlight) :=
      (List.prefix_append _ _).filterMap _
    exact started.trans disciplined.inOrder
  · exact fun entry listed => disciplined.faithful entry (List.mem_append_left _ listed)
  · exact fun closing later final continued => (taken_run_of_closing closing continued).1

def pongFrame : Bytes := ascii "\x7b\"type\":\"pong\"\x7d"

def pongOrjson : Orjson := .knowing pongFrame (.obj [("type", .str "pong")])

/-- Two pongs are queued around a window, the second while the first is being
written. -/
def pongRun : List SenderEvent :=
  [.produce (.setViewport ⟨0, 0, 1, 1, by norm_num, by norm_num, by norm_num⟩),
    .produce (.sendControl pongFrame), .run 5, .run 5, .produce (.sendControl pongFrame), .sent,
    .run 6, .sent, .run 6, .sent, .run 7]

theorem connection_queue_discipline_pong :
    ∃ state, SenderRun pongOrjson (.fresh .standard 60 1) pongRun state ∧
      state.accepted = [pongFrame, pongFrame] ∧
      controlFrames state.written = [pongFrame, pongFrame] ∧ state.stage = .waiting ∧
      controlFrames state.written <+: state.accepted := by
  obtain ⟨state, executed, accepted, written, waiting⟩ : ∃ state,
      exec (SendingConnection.step pongOrjson) (ControlFramesOnly pongOrjson)
        (.fresh .standard 60 1) pongRun = some state ∧
      state.accepted = [pongFrame, pongFrame] ∧
      controlFrames state.written = [pongFrame, pongFrame] ∧ state.stage = .waiting := by
    apply exists_of_exec
    decide +kernel
  have run := run_of_exec executed
  obtain ⟨-, -, inOrder, -⟩ := connection_queue_discipline _ _ _ _ _ state run
  exact ⟨state, run, accepted, written, waiting, inOrder⟩

end GeoTrack
