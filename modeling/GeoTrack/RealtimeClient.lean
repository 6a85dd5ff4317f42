import GeoTrack.Codec
import GeoTrack.LabelledRuns
import GeoTrack.OrderedDict
import Mathlib.Data.Rat.Floor

/-!
# The dashboard's realtime client

The client holds at most one socket, one retry timer and one ping timer.
Sockets and timers live in the browser, which delivers their events as long
as they exist, whether or not the client still refers to them.

Listeners run in the middle of the client's transitions.  All that matters
here of what they do is whether they call `close`, which itself emits a
status: a listener's reaction is the tree of the calls it leads to.
-/

namespace GeoTrack

abbrev SocketId := ℕ
abbrev TimerId := ℕ

abbrev Box := List ℚ

inductive ReadyState where
  | connecting
  | connected
  | closing
  | closed
deriving DecidableEq

inductive ClientMessage where
  | viewport (bbox : Box)
  | ping (t : ℤ)
deriving DecidableEq

/-- A socket in the browser: whether the client's handlers are set on it,
whether it was asked to close, what was sent on it and whether a send has
thrown. -/
structure Socket where
  readyState : ReadyState
  handlers : Bool
  askedToClose : Bool
  sent : List ClientMessage
  sendFailed : Bool
deriving DecidableEq

namespace Socket

def fresh : Socket := ⟨.connecting, true, false, [], false⟩

/-- Handlers off, and `close()` unless it is closed. -/
def drop (socket : Socket) : Socket :=
  if socket.readyState = .closed then { socket with handlers := false }
  else { socket with handlers := false, askedToClose := true, readyState := .closing }

def lastViewport (socket : Socket) : Option Box :=
  (socket.sent.filterMap fun message =>
    match message with
    | .viewport bbox => some bbox
    | .ping _ => none).getLast?

end Socket

inductive ClientState where
  | idle
  | connecting
  | live
  | reconnecting
  | closed
deriving DecidableEq

/-- What listeners are told. -/
inductive Emission where
  | status (state : ClientState) (attempt : ℕ) (retryInMs : ℤ)
  | opened
  | frame (kind : String) (frame : Json)
  | frameError (text : String)
  | serverError (frame : Json)
  | hello (frame : Json) (resumed : Bool)
  | rtt (rttMs : ℤ) (serverT : Option Json)
  | unauthorized (reason : String)
  | sessionLimit (reason : String)
  | slowConsumer (reason : String)

/-- The calls of `close` that the listeners of one emission make, each with
what the listeners of its own status emission do. -/
inductive Reaction where
  | done
  | close (nested more : Reaction)
deriving DecidableEq

abbrev Listeners := Emission → Reaction

structure Backoff where
  baseMs : ℚ
  factor : ℚ
  maxMs : ℚ
  jitter : ℚ

def Backoff.default : Backoff := ⟨500, 9 / 5, 20000, 1 / 4⟩

/-- The wait before a retry, in exact numbers. -/
def Backoff.retryInMs (backoff : Backoff) (attempt : ℕ) (random : ℚ) : ℤ :=
  let plain := min backoff.maxMs (backoff.baseMs * backoff.factor ^ attempt)
  ⌊plain * (1 + backoff.jitter * (2 * random - 1)) + 1 / 2⌋

/-- The backoff, and the browser's JSON parser and text decoder. -/
structure ClientSettings where
  backoff : Backoff
  parse : String → Option Json
  textDecode : Bytes → String

def closeUnauthorized : ℕ := 4401
def closeTooManySessions : ℕ := 4429

/-- A property of a parsed value, `none` for `undefined`. -/
def Json.field (name : String) : Json → Option Json
  | .obj fields => fields.lookup name
  | _ => none

/-- The value is this number. -/
def Json.isNumber (number : ℤ) : Json → Bool
  | .int value => value = number
  | .float (.finite value) => value = number
  | _ => false

def sameBox (first second : Box) : Bool :=
  first.length = second.length && (first.zip second).all fun pair => pair.1 = pair.2

/-- The client with the sockets and timers of its page.  `shutDown` records that
`close` was called and `connect` has not been called since. -/
structure RealtimeClient where
  socket : Option SocketId
  state : ClientState
  attempt : ℕ
  retryHandle : Option TimerId
  retryInMs : ℤ
  pingHandle : Option TimerId
  pendingPing : Option (ℤ × ℤ)
  viewport : Option Box
  sentViewport : Option Box
  sessionId : Option Json
  everConnected : Bool
  sockets : Dict SocketId Socket
  nextSocket : SocketId
  timeouts : KeySet TimerId
  intervals : KeySet TimerId
  nextTimer : TimerId
  shutDown : Bool

namespace RealtimeClient

def fresh : RealtimeClient where
  socket := none
  state := .idle
  attempt := 0
  retryHandle := none
  retryInMs := 0
  pingHandle := none
  pendingPing := none
  viewport := none
  sentViewport := none
  sessionId := none
  everConnected := false
  sockets := ∅
  nextSocket := 0
  timeouts := ∅
  intervals := ∅
  nextTimer := 0
  shutDown := false

def clearRetry (client : RealtimeClient) : RealtimeClient :=
  match client.retryHandle with
  | some timer =>
      { client with timeouts := client.timeouts.discard timer, retryHandle := none }
  | none => client

def stopPing (client : RealtimeClient) : RealtimeClient :=
  match client.pingHandle with
  | some timer =>
      { client with
        intervals := client.intervals.discard timer
        pingHandle := none
        pendingPing := none }
  | none => { client with pendingPing := none }

def dropSocket (client : RealtimeClient) : RealtimeClient :=
  let dropped := { client with socket := none, sentViewport := none, sessionId := none }
  match client.socket.bind fun id => (client.sockets.get? id).map fun socket => (id, socket) with
  | some (id, socket) => { dropped with sockets := client.sockets.set id socket.drop }
  | none => dropped

/-- `close` up to its status emission. -/
def closeDown (client : RealtimeClient) : RealtimeClient :=
  { client.clearRetry.stopPing.dropSocket with state := .closed, shutDown := true }

def react : RealtimeClient → Reaction → RealtimeClient
  | client, .done => client
  | client, .close nested more => (client.closeDown.react nested).react more

def emit (listeners : Listeners) (client : RealtimeClient) (emission : Emission) :
    RealtimeClient :=
  client.react (listeners emission)

def setState (listeners : Listeners) (client : RealtimeClient) (state : ClientState) :
    RealtimeClient :=
  { client with state := state }.emit listeners
    (.status state client.attempt (if state = ClientState.reconnecting then client.retryInMs else 0))

def close (listeners : Listeners) (client : RealtimeClient) : RealtimeClient :=
  client.closeDown.emit listeners (.status .closed client.attempt 0)

/-- `new WebSocket(…)` with its handlers set. -/
def newSocket (client : RealtimeClient) : RealtimeClient :=
  { client with
    sockets := client.sockets.set client.nextSocket .fresh
    nextSocket := client.nextSocket + 1
    socket := some client.nextSocket }

def openSocket (listeners : Listeners) (client : RealtimeClient) : RealtimeClient :=
  ({ client.clearRetry with sentViewport := none }.setState listeners .connecting).newSocket

def connect (listeners : Listeners) (client : RealtimeClient) : RealtimeClient :=
  if client.socket.isSome || client.retryHandle.isSome then { client with shutDown := false }
  else { client with shutDown := false }.openSocket listeners

/-- The socket to write to, if it is open. -/
def writable (client : RealtimeClient) : Option (SocketId × Socket) :=
  (client.socket.bind fun id => (client.sockets.get? id).map fun socket => (id, socket)).filter
    fun entry => entry.2.readyState = .connected

/-- Send a message; the flag says whether the browser's `send` returns. -/
def send (works : Bool) (client : RealtimeClient) (message : ClientMessage) :
    Bool × RealtimeClient :=
  match client.writable with
  | none => (false, client)
  | some (id, socket) =>
      if works then
        (true, { client with
          sockets := client.sockets.set id { socket with sent := socket.sent ++ [message] } })
      else
        (false, { client with
          sockets := client.sockets.set id { socket with sendFailed := true } })

def flushViewport (works : Bool) (client : RealtimeClient) : RealtimeClient :=
  match client.viewport with
  | none => client
  | some viewport =>
      if client.state ≠ .live then client
      else if client.sentViewport.any fun sent => sameBox sent viewport then client
      else
        match client.send works (.viewport viewport) with
        | (true, written) => { written with sentViewport := some viewport }
        | (false, written) => written

def setViewport (works : Bool) (client : RealtimeClient) (bbox : Box) : RealtimeClient :=
  { client with viewport := some bbox }.flushViewport works

def startPing (client : RealtimeClient) : RealtimeClient :=
  let stopped := client.stopPing
  { stopped with
    intervals := stopped.intervals.add stopped.nextTimer
    pingHandle := some stopped.nextTimer
    nextTimer := stopped.nextTimer + 1 }

def onHello (listeners : Listeners) (works : Bool) (client : RealtimeClient) (frame : Json) :
    RealtimeClient :=
  let welcomed := { client with
    sessionId := frame.field "session_id"
    attempt := 0
    retryInMs := 0 }.setState listeners .live
  let pinging := (welcomed.flushViewport works).startPing
  { pinging.emit listeners (.hello frame pinging.everConnected) with everConnected := true }

def onPong (listeners : Listeners) (nowMs : ℤ) (client : RealtimeClient) (frame : Json) :
    RealtimeClient :=
  match client.pendingPing with
  | none => client
  | some (t, sentAt) =>
      if (frame.field "t").any fun value => value.isNumber t then
        { client with pendingPing := none }.emit listeners
          (.rtt (nowMs - sentAt) (frame.field "server_t"))
      else
        client

def viewFrames : List String := ["positions", "alert", "zone", "sessions", "stats"]

def dispatch (settings : ClientSettings) (listeners : Listeners) (works : Bool) (nowMs : ℤ)
    (client : RealtimeClient) (text : String) : RealtimeClient :=
  match settings.parse text with
  | none => client.emit listeners (.frameError text)
  | some frame =>
      -- reading the type of `null` raises, which changes nothing either
      match frame.field "type" with
      | some (.str kind) =>
          if kind = "hello" then client.onHello listeners works frame
          else if kind ∈ viewFrames then client.emit listeners (.frame kind frame)
          else if kind = "pong" then client.onPong listeners nowMs frame
          else if kind = "error" then client.emit listeners (.serverError frame)
          else client
      | _ => client

def scheduleRetry (settings : ClientSettings) (listeners : Listeners) (random : ℚ)
    (client : RealtimeClient) : RealtimeClient :=
  let waiting := { client with
    attempt := client.attempt + 1
    retryInMs := settings.backoff.retryInMs client.attempt random }.setState listeners
      .reconnecting
  { waiting with
    timeouts := waiting.timeouts.add waiting.nextTimer
    retryHandle := some waiting.nextTimer
    nextTimer := waiting.nextTimer + 1 }

/-- What `onClose` resets before it looks at the code. -/
def forgetSocket (client : RealtimeClient) : RealtimeClient :=
  { { client with socket := none }.stopPing with sessionId := none, sentViewport := none }

def onClose (settings : ClientSettings) (listeners : Listeners) (random : ℚ)
    (client : RealtimeClient) (id : SocketId) (code : ℕ) (reason : String) : RealtimeClient :=
  if client.socket ≠ some id then client
  else
    let lost := client.forgetSocket
    if code = closeUnauthorized then
      (lost.setState listeners .closed).emit listeners (.unauthorized reason)
    else if code = closeTooManySessions then
      (lost.setState listeners .closed).emit listeners (.sessionLimit reason)
    else if code = 1013 then
      (lost.emit listeners (.slowConsumer reason)).scheduleRetry settings listeners random
    else
      lost.scheduleRetry settings listeners random

end RealtimeClient

/-- The data of a message event. -/
inductive MessageData where
  | text (text : String)
  | binary (bytes : Bytes)

def MessageData.decode (settings : ClientSettings) : MessageData → String
  | .text content => content
  | .binary content => settings.textDecode content

inductive ClientEvent where
  | connect
  | setViewport (bbox : Box)
  | close
  | socketOpen (id : SocketId)
  | socketMessage (id : SocketId) (data : MessageData)
  /-- The peer has begun to close; no handler is called. -/
  | socketClosing (id : SocketId)
  | socketClose (id : SocketId) (code : ℕ) (reason : String)
  | retryFires (timer : TimerId)
  | pingFires (timer : TimerId)

/-- An event with what the listeners do during it, whether a send returns, and
what the clock and the random source give. -/
structure ClientStep where
  event : ClientEvent
  listeners : Listeners
  sendWorks : Bool
  nowMs : ℤ
  random : ℚ

namespace RealtimeClient

/-- The browser moves a socket on. -/
def putSocket (client : RealtimeClient) (id : SocketId) (socket : Socket) : RealtimeClient :=
  { client with sockets := client.sockets.set id socket }

/-- One event, processed to its end. -/
def step (settings : ClientSettings) (client : RealtimeClient) (taken : ClientStep) :
    Option RealtimeClient :=
  let listeners := taken.listeners
  match taken.event with
  | .connect => some (client.connect listeners)
  | .setViewport bbox => some (client.setViewport taken.sendWorks bbox)
  | .close => some (client.close listeners)
  | .socketOpen id =>
      match client.sockets.get? id with
      | some socket =>
          if socket.readyState = .connecting then
            let opened := client.putSocket id { socket with readyState := .connected }
            some (if socket.handlers then opened.emit listeners .opened else opened)
          else
            none
      | none => none
  | .socketMessage id data =>
      match client.sockets.get? id with
      | some socket =>
          if socket.readyState = .connected ∨ socket.readyState = .closing then
            some (if socket.handlers then
              client.dispatch settings listeners taken.sendWorks taken.nowMs (data.decode settings)
              else client)
          else
            none
      | none => none
  | .socketClosing id =>
      match client.sockets.get? id with
      | some socket =>
          if socket.readyState = .connecting ∨ socket.readyState = .connected then
            some (client.putSocket id { socket with readyState := .closing })
          else
            none
      | none => none
  | .socketClose id code reason =>
      match client.sockets.get? id with
      | some socket =>
          if socket.readyState ≠ .closed then
            let closed := client.putSocket id { socket with readyState := .closed }
            some (if socket.handlers then
              closed.onClose settings listeners taken.random id code reason
              else closed)
          else
            none
      | none => none
  | .retryFires timer =>
      if timer ∈ client.timeouts then
        some ({ client with
          timeouts := client.timeouts.discard timer
          retryHandle := none }.openSocket listeners)
      else
        none
  | .pingFires timer =>
      if timer ∈ client.intervals then
        some ({ client with pendingPing := some (taken.nowMs, taken.nowMs) }.send taken.sendWorks
          (.ping taken.nowMs)).2
      else
        none

end RealtimeClient

end GeoTrack
