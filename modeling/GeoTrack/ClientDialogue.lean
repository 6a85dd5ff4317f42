import GeoTrack.ClientMessages
import GeoTrack.ClientShutdown

/-!
# The dashboard and its gateway

What the realtime client writes on a socket are windows it was shown and pings.
Across reconnects, retries and anything its listeners do, every message of it is one
the gateway understands as it was meant, so a dashboard never spends the budget for
bad messages, and the gateway looks where the dashboard looked last.
-/

namespace GeoTrack

open LabelledRuns

namespace RealtimeClient

variable {said : ClientMessage → Prop} {settings : ClientSettings} {client after : RealtimeClient}

/-- Everything written on a socket is one of some messages. -/
def Speaks (said : ClientMessage → Prop) (client : RealtimeClient) : Prop :=
  ∀ id socket, client.sockets.get? id = some socket → ∀ message ∈ socket.sent, said message

theorem speaks_fresh : fresh.Speaks said := by
  intro id socket found
  cases found

theorem Speaks.putSocket (speaks : client.Speaks said) (id : SocketId) {socket : Socket}
    (new : ∀ message ∈ socket.sent, said message) : (client.putSocket id socket).Speaks said := by
  intro other another found
  rcases Dict.get?_set_cases found with ⟨_, rfl⟩ | ⟨_, old⟩
  · exact new
  · exact speaks other another old

/-- The browser moves a socket on; what was written on it stays. -/
theorem Speaks.moveSocket (speaks : client.Speaks said) {id : SocketId} {socket : Socket}
    (found : client.sockets.get? id = some socket) (readyState : ReadyState) :
    (client.putSocket id { socket with readyState := readyState }).Speaks said :=
  speaks.putSocket id (speaks id socket found)

theorem sent_drop (socket : Socket) : socket.drop.sent = socket.sent := by
  unfold Socket.drop
  split <;> rfl

theorem Speaks.dropSocket (speaks : client.Speaks said) : client.dropSocket.Speaks said := by
  unfold RealtimeClient.dropSocket
  cases held : client.socket.bind fun id =>
      (client.sockets.get? id).map fun socket => (id, socket) with
  | none => exact speaks
  | some entry =>
      obtain ⟨id, _, found⟩ := Option.bind_eq_some_iff.mp held
      obtain ⟨socket, isSocket, rfl⟩ := Option.map_eq_some_iff.mp found
      refine @Speaks.putSocket _ client speaks id socket.drop ?_
      rw [sent_drop]
      exact speaks id socket isSocket

theorem Speaks.closeDown (speaks : client.Speaks said) : client.closeDown.Speaks said := by
  have stopped : client.clearRetry.stopPing.Speaks said := by
    rw [stopPing_eq, clearRetry_eq]
    exact speaks
  exact stopped.dropSocket

theorem Speaks.emit (speaks : client.Speaks said) (listeners : Listeners) (emission : Emission) :
    (client.emit listeners emission).Speaks said := by
  unfold RealtimeClient.emit
  induction listeners emission generalizing client with
  | done => exact speaks
  | close nested more nestedIh moreIh => exact moreIh (nestedIh speaks.closeDown)

theorem Speaks.setState (speaks : client.Speaks said) (listeners : Listeners)
    (state : ClientState) : (client.setState listeners state).Speaks said :=
  @Speaks.emit said { client with state := state } speaks listeners _

theorem Speaks.openSocket (speaks : client.Speaks said) (listeners : Listeners) :
    (client.openSocket listeners).Speaks said := by
  have cleared : Speaks said { client.clearRetry with sentViewport := none } := by
    rw [clearRetry_eq]
    exact speaks
  refine (cleared.setState listeners .connecting).putSocket _ ?_
  intro message listed
  cases listed

theorem Speaks.send (speaks : client.Speaks said) (works : Bool) {message : ClientMessage}
    (new : said message) : (client.send works message).2.Speaks said := by
  rcases send_cases works client message with same | ⟨id, socket, writes, same | same⟩
  · rwa [same]
  · obtain ⟨_, found, _⟩ := writable_eq_some_iff.mp writes
    rw [same]
    refine speaks.putSocket id fun other listed => ?_
    rcases List.mem_append.mp listed with old | isNew
    · exact speaks id socket found other old
    · exact List.mem_singleton.mp isNew ▸ new
  · obtain ⟨_, found, _⟩ := writable_eq_some_iff.mp writes
    rw [same]
    exact speaks.putSocket id (speaks id socket found)

theorem Speaks.flushViewport (speaks : client.Speaks said) (works : Bool)
    (looks : ∀ bbox, client.viewport = some bbox → said (.viewport bbox)) :
    (client.flushViewport works).Speaks said := by
  unfold RealtimeClient.flushViewport
  cases shown : client.viewport with
  | none => exact speaks
  | some bbox =>
      dsimp only
      split
      case isTrue => exact speaks
      case isFalse =>
          split
          case isTrue => exact speaks
          case isFalse =>
              have written := speaks.send works (looks bbox shown)
              split
              case h_1 _ sent => rwa [sent] at written
              case h_2 _ sent => rwa [sent] at written

theorem Speaks.onHello (speaks : client.Speaks said) (listeners : Listeners) (works : Bool)
    (frame : Json) (looks : ∀ bbox, client.viewport = some bbox → said (.viewport bbox)) :
    (client.onHello listeners works frame).Speaks said := by
  have welcomed : (({ client with
      sessionId := frame.field "session_id"
      attempt := 0
      retryInMs := 0 } : RealtimeClient).setState listeners .live).Speaks said :=
    @Speaks.setState said { client with
      sessionId := frame.field "session_id"
      attempt := 0
      retryInMs := 0 } speaks listeners .live
  have flushed := welcomed.flushViewport works fun bbox shown => looks bbox (by simpa using shown)
  unfold RealtimeClient.onHello
  refine Speaks.emit ?_ listeners _
  rw [startPing_eq]
  exact flushed

theorem Speaks.dispatch (speaks : client.Speaks said) (listeners : Listeners) (works : Bool)
    (nowMs : ℤ) (text : String)
    (looks : ∀ bbox, client.viewport = some bbox → said (.viewport bbox)) :
    (client.dispatch settings listeners works nowMs text).Speaks said := by
  unfold RealtimeClient.dispatch
  split
  case h_1 => exact speaks.emit listeners _
  case h_2 frame _ =>
      split
      case h_2 => exact speaks
      case h_1 kind _ =>
          split_ifs
          · exact speaks.onHello listeners works frame looks
          · exact speaks.emit listeners _
          · unfold onPong
            split
            case h_1 => exact speaks
            case h_2 t sentAt _ =>
                split
                case isTrue =>
                    exact @Speaks.emit said { client with pendingPing := none } speaks
                      listeners _
                case isFalse => exact speaks
          · exact speaks.emit listeners _
          · exact speaks

theorem Speaks.scheduleRetry (speaks : client.Speaks said) (listeners : Listeners) (random : ℚ) :
    (client.scheduleRetry settings listeners random).Speaks said :=
  @Speaks.setState said { client with
    attempt := client.attempt + 1
    retryInMs := settings.backoff.retryInMs client.attempt random } speaks listeners .reconnecting

theorem Speaks.onClose (speaks : client.Speaks said) (listeners : Listeners) (random : ℚ)
    (id : SocketId) (code : ℕ) (reason : String) :
    (client.onClose settings listeners random id code reason).Speaks said := by
  unfold RealtimeClient.onClose
  split
  case isTrue => exact speaks
  case isFalse =>
      have lost : client.forgetSocket.Speaks said := by
        unfold forgetSocket
        rw [stopPing_eq]
        exact speaks
      dsimp only
      split_ifs
      · exact (lost.setState listeners .closed).emit listeners _
      · exact (lost.setState listeners .closed).emit listeners _
      · exact (lost.emit listeners _).scheduleRetry listeners random
      · exact lost.scheduleRetry listeners random

/-- A step says nothing but the window it looks at and the time. -/
theorem Speaks.step (speaks : client.Speaks said) {taken : ClientStep}
    (stepTo : client.step settings taken = some after) (ticks : said (.ping taken.nowMs))
    (looks : ∀ bbox, client.viewport = some bbox → said (.viewport bbox))
    (looksNext : ∀ bbox, shown taken = some bbox → said (.viewport bbox)) :
    after.Speaks said := by
  obtain ⟨event, listeners, works, nowMs, random⟩ := taken
  cases moves_of_step stepTo with
  | connect =>
      unfold RealtimeClient.connect
      split
      · exact speaks
      · exact @Speaks.openSocket said { client with shutDown := false } speaks listeners
  | setViewport bbox =>
      refine @Speaks.flushViewport said { client with viewport := some bbox } speaks works ?_
      intro other same
      exact looksNext other same
  | close => exact speaks.closeDown.emit listeners _
  | opened found connecting =>
      have moved := speaks.moveSocket found .connected
      split
      · exact moved.emit listeners _
      · exact moved
  | message data found connected alive handled =>
      exact speaks.dispatch listeners works nowMs _ looks
  | unheardMessage data found unhandled => exact speaks
  | closing found alive => exact speaks.moveSocket found .closing
  | closed code reason found alive handled =>
      exact (speaks.moveSocket found .closed).onClose listeners random _ code reason
  | unheardClose code reason found unhandled => exact speaks.moveSocket found .closed
  | retryFires runs =>
      exact @Speaks.openSocket said { client with
        timeouts := client.timeouts.discard _
        retryHandle := none } speaks listeners
  | pingFires runs =>
      exact @Speaks.send said { client with pendingPing := some (nowMs, nowMs) } speaks works _
        ticks

/-- The client was told to look there, or read the clock for a ping. -/
def Said (steps : List ClientStep) : ClientMessage → Prop
  | .viewport bbox => ∃ taken ∈ steps, shown taken = some bbox
  | .ping t => ∃ taken ∈ steps, taken.nowMs = t

theorem Said.append {steps : List ClientStep} {message : ClientMessage}
    (said : Said steps message) (more : List ClientStep) : Said (steps ++ more) message := by
  cases message with
  | viewport bbox =>
      obtain ⟨taken, listed, shows⟩ := said
      exact ⟨taken, List.mem_append_left _ listed, shows⟩
  | ping t =>
      obtain ⟨taken, listed, reads⟩ := said
      exact ⟨taken, List.mem_append_left _ listed, reads⟩

theorem speaks_of_run {steps : List ClientStep}
    (run : Run (step settings) Anything fresh steps client) : client.Speaks (Said steps) := by
  induction run with
  | nil => exact speaks_fresh
  | @snoc steps before after taken run permitted stepTo ih =>
      have last : taken ∈ steps ++ [taken] := List.mem_append_right _ (List.mem_singleton_self _)
      have earlier : before.Speaks (Said (steps ++ [taken])) :=
        fun id socket found message listed => (ih id socket found message listed).append [taken]
      refine earlier.step stepTo ⟨taken, last, rfl⟩ ?_ fun bbox shows => ⟨taken, last, shows⟩
      intro bbox looks
      rw [viewport_eq_lastShown run] at looks
      obtain ⟨shower, listed, shows⟩ := List.mem_filterMap.mp (List.mem_of_getLast? looks)
      exact ⟨shower, List.mem_append_left _ listed, shows⟩

end RealtimeClient

/-- A number as the browser writes it. -/
def jsonNumber (value : ℚ) : Json :=
  if value.den = 1 then .int value.num else .float (.finite value)

/-- What the client hands to `JSON.stringify`. -/
def ClientMessage.document : ClientMessage → Json
  | .viewport bbox => .obj [("type", .str "viewport"), ("bbox", .arr (bbox.map jsonNumber))]
  | .ping t => .obj [("type", .str "ping"), ("t", .int t)]

/-- A box in the order of the message. -/
def BBoxValues.toBox (values : BBoxValues) : Box :=
  [values.west, values.south, values.east, values.north]

/-- A window of four doubles that make a box, or a moment that a double holds. -/
def ClientMessage.Sensible : ClientMessage → Prop
  | .viewport bbox => ∃ values : BBoxValues, values.Valid ∧ bbox = values.toBox ∧
      ∀ number ∈ bbox, Binary64.IsDouble number
  | .ping t => |t| < 2 ^ 53

/-- What is relied on of JSON on both sides: the gateway reads what the browser has
written, in no more bytes than a message may have. -/
structure Orjson.Reads (orjson : Orjson) (stringify : Json → Bytes) (message : ClientMessage) :
    Prop where
  loads : orjson.loads (stringify message.document) = .ok message.document
  short : (stringify message.document).length ≤ maxClientMessageBytes

/-- What a message is to be understood as. -/
def ClientMessage.Means : ClientMessage → ProtocolMessage → Prop
  | .viewport bbox, .viewport parsed =>
      bbox = [parsed.west, parsed.south, parsed.east, parsed.north]
  | .ping t, .ping parsed => parsed = .int t
  | _, _ => False

section Understanding

variable {orjson : Orjson} {numerals : PyNumerals} {texts : PyTexts} {stringify : Json → Bytes}

theorem floatOrText_jsonNumber {value : ℚ} (small : |value| ≤ 180) :
    floatOrText numerals texts (jsonNumber value) = .ok (.finite value) := by
  unfold jsonNumber
  split
  case isTrue whole =>
      have isInt : (value.num : ℚ) = value := Rat.coe_int_num_of_den_eq_one whole
      have bound : |value.num| < 2 ^ 53 := by
        rw [← isInt] at small
        have whole180 : |value.num| ≤ 180 := by exact_mod_cast small
        omega
      have exact_ : Binary64.round value.num = value :=
        (Binary64.isDouble_intCast bound).trans isInt
      simp [floatOrText, PyNumerals.toFloat, exact_]
  case isFalse => rfl

theorem parseBBox_toBox {values : BBoxValues} (valid : values.Valid) :
    parseBBox numerals texts (jsonNumber values.west) (jsonNumber values.south)
      (jsonNumber values.east) (jsonNumber values.north) = values.validate := by
  obtain ⟨⟨west, east⟩, ⟨south, north⟩, _⟩ := valid
  rw [parseBBox, floatOrText_jsonNumber (abs_le.mpr west),
    floatOrText_jsonNumber (abs_le.mpr ⟨by linarith [south.1], by linarith [south.2]⟩),
    floatOrText_jsonNumber (abs_le.mpr east),
    floatOrText_jsonNumber (abs_le.mpr ⟨by linarith [north.1], by linarith [north.2]⟩)]
  rfl

theorem parse_document {message : ClientMessage} (sensible : message.Sensible)
    (reads : orjson.Reads stringify message) :
    ∃ parsed, parseClientMessage orjson numerals texts (stringify message.document) = .ok parsed ∧
      message.Means parsed := by
  have read := reads.loads
  cases message with
  | ping t =>
      refine ⟨.ping (.int t), ?_, rfl⟩
      unfold parseClientMessage
      rw [read]
      rfl
  | viewport bbox =>
      obtain ⟨values, valid, rfl, _⟩ := sensible
      refine ⟨.viewport ⟨values.west, values.south, values.east, values.north,
        valid.longitudes, valid.latitudes, valid.ordered⟩, ?_, rfl⟩
      unfold parseClientMessage
      rw [read]
      have parsed := @parseBBox_toBox numerals texts _ valid
      rw [valid.validate_eq] at parsed
      simp [ClientMessage.document, BBoxValues.toBox, List.lookup_cons, parsed]

/-- The four numbers determine a box. -/
theorem eq_of_numbers {one other : BBox} (same : [one.west, one.south, one.east, one.north] =
    [other.west, other.south, other.east, other.north]) : one = other := by
  obtain ⟨west, south, east, north, _, _, _⟩ := one
  obtain ⟨otherWest, otherSouth, otherEast, otherNorth, _, _, _⟩ := other
  simp only [List.cons.injEq, and_true] at same
  obtain ⟨rfl, rfl, rfl, rfl⟩ := same
  rfl

/-- A call of another task leaves the window alone. -/
theorem apply_kept (connection : ClientConnection) (call : ConnectionCall) :
    (call.apply connection).grid = connection.grid ∧
      (call.apply connection).viewport = connection.viewport := by
  cases call with
  | sendControl frame =>
      simp only [ConnectionCall.apply, ClientConnection.sendControl, ClientConnection.requestClose]
      split_ifs <;> exact ⟨rfl, rfl⟩
  | offerPositions delta =>
      simp only [ConnectionCall.apply, ClientConnection.offerPositions]
      split
      · exact ⟨rfl, rfl⟩
      · split_ifs
        · exact ⟨rfl, rfl⟩
        · exact ⟨rfl, rfl⟩
        · split <;> exact ⟨rfl, rfl⟩
  | requestClose code reason =>
      simp only [ConnectionCall.apply, ClientConnection.requestClose]
      split <;> exact ⟨rfl, rfl⟩
  | nextFrame hub nowMs =>
      simp only [ConnectionCall.apply, ClientConnection.nextFrame]
      split
      · exact ⟨rfl, rfl⟩
      · split
        · cases hub.snapshotChunks _ <;> exact ⟨rfl, rfl⟩
        · exact ⟨rfl, rfl⟩

/-- What a run has received, with the clock of the server. -/
def ReaderEvent.heard? : ReaderEvent → Option (Option Bytes × ℤ)
  | .received payload _ serverT => some (payload, serverT)
  | _ => none

/-- A message with the clock of the server when it is handled. -/
abbrev Turn := ClientMessage × ℤ

/-- The answers to messages: one pong for each ping, with its number. -/
def pongs (orjson : Orjson) (turns : List Turn) : List Bytes :=
  turns.filterMap fun turn =>
    match turn.1 with
    | .ping t => some (Protocol.pongFrame orjson (.int t) turn.2)
    | .viewport _ => none

def lastWindow (turns : List Turn) : Option Box :=
  (turns.filterMap fun turn =>
    match turn.1 with
    | .viewport bbox => some bbox
    | .ping _ => none).getLast?

/-- The reader has understood some messages. -/
structure InStep (orjson : Orjson) (grid : Grid) (turns : List Turn) (reader : ClientReader) :
    Prop where
  clean : reader.violations = []
  answered : reader.answers = pongs orjson turns
  sameGrid : reader.connection.grid = grid
  looks : ∀ rects, reader.connection.viewport = some rects ↔ ∃ bbox : BBox,
    lastWindow turns = some [bbox.west, bbox.south, bbox.east, bbox.north] ∧
      rects = grid.rectsFor bbox

theorem inStep_fresh (orjson : Orjson) (grid : Grid) (controlMax : ℕ) :
    InStep orjson grid [] (.fresh (.fresh grid controlMax)) where
  clean := rfl
  answered := rfl
  sameGrid := rfl
  looks := by
    intro rects
    constructor
    · intro isSet
      cases isSet
    · rintro ⟨_, isLast, _⟩
      cases isLast

theorem InStep.receive {grid : Grid} {turns : List Turn} {reader : ClientReader}
    (inStep : InStep orjson grid turns reader) {message : ClientMessage}
    (sensible : message.Sensible) (reads : orjson.Reads stringify message) (at_ : ℚ) (serverT : ℤ) :
    InStep orjson grid (turns ++ [(message, serverT)])
        (reader.receive orjson numerals texts (some (stringify message.document)) at_ serverT) ∧
      (reader.receive orjson numerals texts (some (stringify message.document)) at_
        serverT).running = reader.running := by
  obtain ⟨parsed, isParsed, means⟩ := @parse_document orjson numerals texts _ _ sensible reads
  have fits := not_lt.mpr reads.short
  simp only [ClientReader.receive, if_neg fits, isParsed]
  cases message with
  | ping t =>
      cases parsed with
      | viewport bbox => cases means
      | ping number =>
          obtain rfl : number = .int t := means
          obtain ⟨keptGrid, keptViewport⟩ := apply_kept reader.connection
            (.sendControl (Protocol.pongFrame orjson (.int t) serverT))
          refine ⟨⟨inStep.clean, ?_, keptGrid.trans inStep.sameGrid, ?_⟩, rfl⟩
          · simp [ClientReader.answer, inStep.answered, pongs]
          · intro rects
            have window : lastWindow (turns ++ [(.ping t, serverT)]) = lastWindow turns := by
              simp [lastWindow]
            rw [window, ← inStep.looks]
            exact Eq.congr_left keptViewport
  | viewport bbox =>
      cases parsed with
      | ping number => cases means
      | viewport box =>
          obtain rfl : bbox = [box.west, box.south, box.east, box.north] := means
          refine ⟨⟨inStep.clean, ?_, inStep.sameGrid, ?_⟩, rfl⟩
          · simp [inStep.answered, pongs]
          · intro rects
            have window : lastWindow (turns ++
                [(.viewport [box.west, box.south, box.east, box.north], serverT)]) =
                some [box.west, box.south, box.east, box.north] := by
              simp [lastWindow]
            rw [window]
            change some (reader.connection.grid.rectsFor box) = some rects ↔ _
            rw [inStep.sameGrid, Option.some.injEq]
            constructor
            · rintro rfl
              exact ⟨box, rfl, rfl⟩
            · rintro ⟨other, same, rfl⟩
              rw [eq_of_numbers (Option.some.inj same)]

theorem InStep.elsewhere {grid : Grid} {turns : List Turn} {reader : ClientReader}
    (inStep : InStep orjson grid turns reader) (call : ConnectionCall) :
    InStep orjson grid turns
      { reader with connection := call.apply reader.connection } where
  clean := inStep.clean
  answered := inStep.answered
  sameGrid := (apply_kept reader.connection call).1.trans inStep.sameGrid
  looks := fun rects => by
    rw [← inStep.looks]
    exact Eq.congr_left (apply_kept reader.connection call).2

/-- A reader that hears only sensible messages understands them all. -/
theorem inStep_of_run {grid : Grid} {controlMax : ℕ} {events : List ReaderEvent}
    {reader : ClientReader} (run : Run (ClientReader.step orjson numerals texts) Anything
      (.fresh (.fresh grid controlMax)) events reader)
    {turns : List Turn}
    (sensible : ∀ turn ∈ turns, turn.1.Sensible ∧ orjson.Reads stringify turn.1)
    (heard : events.filterMap ReaderEvent.heard? =
      turns.map fun turn => (some (stringify turn.1.document), turn.2)) :
    InStep orjson grid turns reader ∧
      (reader.running = true ∨ ReaderEvent.disconnected ∈ events) := by
  induction run generalizing turns with
  | nil =>
      obtain rfl : turns = [] := List.map_eq_nil_iff.mp heard.symm
      exact ⟨inStep_fresh orjson grid controlMax, Or.inl rfl⟩
  | @snoc events before after event run permitted stepTo ih =>
      rw [List.filterMap_append] at heard
      cases event with
      | received payload at_ serverT =>
          obtain ⟨earlier, last, rfl, heardEarlier, heardLast⟩ :=
            List.map_eq_append_iff.mp heard.symm
          obtain ⟨⟨message, clock⟩, rfl, heardIt⟩ := List.map_eq_singleton_iff.mp heardLast
          obtain ⟨rfl, rfl⟩ := Prod.mk.injEq .. ▸ heardIt
          obtain ⟨inStep, running⟩ := ih
            (fun turn listed => sensible turn (List.mem_append_left _ listed)) heardEarlier.symm
          rw [ClientReader.step] at stepTo
          split at stepTo
          case isFalse => cases stepTo
          case isTrue isRunning =>
              obtain rfl := Option.some.inj stepTo
              obtain ⟨isSensible, reads⟩ := sensible (message, clock) (by simp)
              obtain ⟨next, kept⟩ := inStep.receive isSensible reads at_ clock
              exact ⟨next, Or.inl (kept.trans isRunning)⟩
      | disconnected =>
          obtain ⟨inStep, _⟩ := ih sensible ((List.append_nil _).symm.trans heard)
          rw [ClientReader.step] at stepTo
          split at stepTo
          case isFalse => cases stepTo
          case isTrue =>
              obtain rfl := Option.some.inj stepTo
              exact ⟨⟨inStep.clean, inStep.answered, inStep.sameGrid, inStep.looks⟩,
                Or.inr (List.mem_append_right _ (List.mem_singleton_self _))⟩
      | elsewhere call =>
          obtain rfl := Option.some.inj stepTo
          obtain ⟨inStep, running⟩ := ih sensible ((List.append_nil _).symm.trans heard)
          refine ⟨inStep.elsewhere call, ?_⟩
          rcases running with isRunning | left
          · exact Or.inl isRunning
          · exact Or.inr (List.mem_append_left _ left)

end Understanding

open RealtimeClient in
/-- In any run of the realtime client that is shown the bounds of its map, and of the
gateway that reads what the client has written on one of its sockets, the gateway finds
nothing to object to, answers every ping with its number, and looks at the last window
it was told. -/
theorem dashboard_understood {orjson : Orjson} {numerals : PyNumerals} {texts : PyTexts}
    {stringify : Json → Bytes} {settings : ClientSettings} {steps : List ClientStep}
    {client : RealtimeClient} (run : Run (RealtimeClient.step settings) Anything fresh steps client)
    (looks : ∀ taken ∈ steps, ∀ bbox, shown taken = some bbox →
      ∃ bounds, bbox = (boundsToBBox bounds).toBox ∧ ∀ number ∈ bbox, Binary64.IsDouble number)
    (clock : ∀ taken ∈ steps, |taken.nowMs| < 2 ^ 53) {id : SocketId} {socket : Socket}
    (found : client.sockets.get? id = some socket)
    (reads : ∀ message ∈ socket.sent, message.Sensible → orjson.Reads stringify message)
    {grid : Grid} {controlMax : ℕ} {events : List ReaderEvent} {reader : ClientReader}
    (served : Run (ClientReader.step orjson numerals texts) Anything
      (.fresh (.fresh grid controlMax)) events reader)
    {turns : List Turn} (inOrder : turns.map Prod.fst <+: socket.sent)
    (heard : events.filterMap ReaderEvent.heard? =
      turns.map fun turn => (some (stringify turn.1.document), turn.2)) :
    reader.violations = [] ∧ (reader.running = true ∨ ReaderEvent.disconnected ∈ events) ∧
      reader.answers = pongs orjson turns ∧
      ∀ rects, reader.connection.viewport = some rects ↔ ∃ bbox : BBox,
        lastWindow turns = some [bbox.west, bbox.south, bbox.east, bbox.north] ∧
          rects = grid.rectsFor bbox := by
  have sensible : ∀ turn ∈ turns, turn.1.Sensible ∧ orjson.Reads stringify turn.1 := by
    intro turn listed
    have sent : turn.1 ∈ socket.sent := inOrder.subset (List.mem_map_of_mem listed)
    have said := speaks_of_run run id socket found turn.1 sent
    have isSensible : turn.1.Sensible := by
      cases isMessage : turn.1 with
      | viewport bbox =>
          rw [isMessage] at said
          obtain ⟨taken, isStep, shows⟩ := said
          obtain ⟨bounds, same, doubles⟩ := looks taken isStep bbox shows
          exact ⟨boundsToBBox bounds, boundsToBBox_valid bounds, same, doubles⟩
      | ping t =>
          rw [isMessage] at said
          obtain ⟨taken, isStep, same⟩ := said
          exact same ▸ clock taken isStep
    exact ⟨isSensible, reads turn.1 sent isSensible⟩
  obtain ⟨inStep, running⟩ := inStep_of_run served sensible heard
  exact ⟨inStep.clean, running, inStep.answered, inStep.looks⟩

section Witness

open RealtimeClient

/-- The client is welcomed, tells what it looks at and pings. -/
def welcomedSteps : List ClientStep :=
  [⟨.connect, silent, true, 0, 0⟩, ⟨.setViewport europe, silent, true, 0, 0⟩,
    ⟨.socketOpen 0, silent, true, 1, 0⟩,
    ⟨.socketMessage 0 (.text welcomeText), silent, true, 2, 0⟩,
    ⟨.pingFires 0, silent, true, 1700, 0⟩]

/-- JSON as far as the two messages need it. -/
def twoTexts : Json → Bytes
  | .obj (("type", .str "ping") :: _) => [1]
  | _ => [0]

def twoDocuments : Orjson where
  loads raw :=
    if raw = [0] then .ok (ClientMessage.viewport europe).document
    else if raw = [1] then .ok (ClientMessage.ping 1700).document
    else .error "unexpected end of data"
  dumps _ := [2]

/-- The gateway reads both while it sends something else. -/
def bothHeard : List ReaderEvent :=
  [.received (some [0]) 5 2, .elsewhere (.sendControl [3]), .received (some [1]) 7 1701]

theorem dashboard_understood_europe :
    ∃ reader, Run (ClientReader.step twoDocuments ⟨fun _ => none, fun _ => none⟩
        ⟨fun _ => "", fun _ => ""⟩) Anything (.fresh (.fresh .standard 8)) bothHeard reader ∧
      reader.violations = [] ∧ reader.answers = [[2]] := by
  obtain ⟨client, executed, found⟩ : ∃ client,
      exec (RealtimeClient.step welcomeSettings) Anything RealtimeClient.fresh welcomedSteps =
          some client ∧
        client.sockets.get? 0 =
          some ⟨.connected, true, false, [.viewport europe, .ping 1700], false⟩ := by
    apply exists_of_exec
    decide +kernel
  obtain ⟨reader, served, _⟩ := @exists_of_exec _ _ (ClientReader.step twoDocuments
    ⟨fun _ => none, fun _ => none⟩ ⟨fun _ => "", fun _ => ""⟩) Anything
    (.fresh (.fresh .standard 8)) _ (fun reader => reader.running = true) _ bothHeard
    (by decide +kernel)
  have looks : ∀ taken ∈ welcomedSteps, ∀ bbox, shown taken = some bbox →
      ∃ bounds, bbox = (boundsToBBox bounds).toBox ∧
        ∀ number ∈ bbox, Binary64.IsDouble number := by
    have only : ∀ bbox ∈ welcomedSteps.filterMap shown, bbox = europe := by decide +kernel
    intro taken listed bbox shows
    rw [only bbox (List.mem_filterMap.mpr ⟨taken, listed, shows⟩)]
    exact ⟨⟨.finite (-10), .finite 35, .finite 30, .finite 60⟩, by decide +kernel,
      by decide +kernel⟩
  have reads : ∀ message ∈ [ClientMessage.viewport europe, .ping 1700], message.Sensible →
      twoDocuments.Reads twoTexts message := by
    intro message listed _
    rcases List.mem_cons.mp listed with rfl | last
    · exact ⟨rfl, by decide⟩
    · rw [List.mem_singleton.mp last]
      exact ⟨rfl, by decide⟩
  have heard : bothHeard.filterMap ReaderEvent.heard? =
      [((.viewport europe : ClientMessage), (2 : ℤ)), (.ping 1700, 1701)].map
        fun turn => (some (twoTexts turn.1.document), turn.2) := rfl
  have understood := dashboard_understood (run_of_exec executed) looks (by decide +kernel) found
    reads (run_of_exec served) (List.prefix_refl _) heard
  exact ⟨reader, run_of_exec served, understood.1, understood.2.2.1⟩

end Witness

end GeoTrack
