import GeoTrack.BacklogMonitor
import GeoTrack.LabelledRuns
import GeoTrack.SlidingWindow

/-!
# A device on its socket

The socket is drained at all times and the load is shed above it: while the gate
is shut a frame is dropped unparsed, and the device is asked to hold off, at most
once in each window it was given.  A frame that cannot be used is answered and
counted against a budget; a device that spends it is hung up on.

One event is a frame with everything its handling reads: the gate, the clocks,
and how Redis and the socket behave.  Moments of the monotonic clock are doubles,
and their sums and differences are rounded.
-/

namespace GeoTrack

open LabelledRuns SlidingWindow

/-- One error of a failed validation: where it is and what it says. -/
structure ReadableError where
  loc : List String
  msg : String

/-- What the edge is configured with, and the libraries it calls. -/
structure IngestEdge where
  pydantic : Pydantic
  orjson : Orjson
  readableErrors : ValidationError → List ReadableError
  settings : StorageSettings
  maxBatch : ℕ
  shards : ℕ
  retryAfterMs : ℕ

def maxReportBytes : ℕ := 256

def minPayloadBytes : ℕ := 8 * 1024

/-- The largest body or frame that could still be a batch within the limit. -/
def maxPayloadBytes (maxItems : ℕ) : ℕ := max minPayloadBytes (maxItems * maxReportBytes)

/-- One line a device can log. -/
def describeErrors (errors : List ReadableError) : String :=
  "; ".intercalate (errors.map fun error =>
    let location := ".".intercalate error.loc
    if location = "" then error.msg else location ++ ": " ++ error.msg)

/-- `str` of a `BatchTooLargeError`. -/
def batchTooLargeText (offered limit : ℕ) : String :=
  "payload contains " ++ toString offered ++ " reports, the limit is " ++ toString limit

/-- Reports taken and refused, by reason. -/
structure IngestCounts where
  accepted : ℕ
  validation : ℕ
  window : ℕ
  backpressure : ℕ
deriving DecidableEq

namespace IngestCounts

def zero : IngestCounts := ⟨0, 0, 0, 0⟩

def add (first second : IngestCounts) : IngestCounts :=
  ⟨first.accepted + second.accepted, first.validation + second.validation,
    first.window + second.window, first.backpressure + second.backpressure⟩

end IngestCounts

/-- What becomes of the commands of a pipeline. -/
inductive QueueReply where
  | executed
  /-- The call fails.  Without a transaction any of its commands may have taken
  effect. -/
  | failed (effective : ℕ → Bool)

/-- What the effective commands of a pipeline append. -/
def landed (effective : ℕ → Bool) (entries : List (ℕ × Bytes)) : List (ℕ × Bytes) :=
  (entries.zipIdx.filter fun entry => effective entry.2).map Prod.fst

theorem landed_sublist (effective : ℕ → Bool) (entries : List (ℕ × Bytes)) :
    (landed effective entries).Sublist entries := by
  have kept := (List.filter_sublist (p := fun entry : (ℕ × Bytes) × ℕ => effective entry.2)
    (l := entries.zipIdx)).map Prod.fst
  rwa [List.zipIdx_map_fst] at kept

inductive SubmitError where
  | backpressure (error : BackpressureError)
  | redis

/-- A call of `IngestService.submit`: what it returns, the entries it appended and
what it counted. -/
structure Submission where
  outcome : Except SubmitError ℕ
  appended : List (ℕ × Bytes)
  counts : IngestCounts

namespace IngestEdge

/-- `IngestService.submit`. -/
def submit (edge : IngestEdge) (throttled : Bool) (time : ClockTime) (queue : QueueReply)
    (reports : List LocationReport) : Submission :=
  if reports = [] then
    ⟨.ok 0, [], .zero⟩
  else
    match GeoTrack.submit edge.orjson edge.shards ⟨throttled, edge.retryAfterMs⟩ time reports with
    | .error refused =>
        ⟨.error (.backpressure refused), [], { IngestCounts.zero with
          backpressure := reports.length }⟩
    | .ok entries =>
        match queue with
        | .executed =>
            ⟨.ok reports.length, entries, { IngestCounts.zero with accepted := reports.length }⟩
        | .failed effective => ⟨.error .redis, landed effective entries, .zero⟩

def maxFrame (edge : IngestEdge) : ℕ := maxPayloadBytes edge.maxBatch

/-- What a frame says, if it can be used. -/
def read (edge : IngestEdge) (raw : Bytes) : Option (Option ℤ × List LocationReport) :=
  if edge.maxFrame < raw.length then none
  else (parseIngestPayload edge.pydantic edge.maxBatch raw).toOption

end IngestEdge

/-- Allows a few bad frames in a window of time. -/
structure MalformedBudget where
  limit : ℕ
  windowS : ℚ
  events : List ℚ

namespace MalformedBudget

def malformedLimit : ℕ := 20

def malformedWindowS : ℚ := 60

def fresh : MalformedBudget := ⟨malformedLimit, malformedWindowS, []⟩

/-- Note one bad frame; `false` once the budget is spent. -/
def record (now : ℚ) (budget : MalformedBudget) : Bool × MalformedBudget :=
  let events := (budget.events ++ [now]).dropWhile fun event =>
    budget.windowS < Binary64.round (now - event)
  (events.length ≤ budget.limit, { budget with events := events })

end MalformedBudget

/-- The control frames of the session, before they are encoded. -/
inductive SessionFrame where
  | ack (seq : ℤ) (accepted : ℕ)
  | error (code detail : String) (seq : Option ℤ)
  | throttle (retryAfterMs : ℕ)
deriving DecidableEq

structure DeviceSession where
  budget : MalformedBudget
  quietUntil : ℚ

/-- How the handler goes on after a frame. -/
inductive AfterFrame where
  | goOn
  /-- The socket is closed for a protocol error. -/
  | hangUp
  /-- An exception leaves the handler. -/
  | crash
deriving DecidableEq

/-- What the handling of one frame amounts to. -/
structure Handling where
  session : DeviceSession
  sent : Option SessionFrame
  appended : List (ℕ × Bytes)
  counts : IngestCounts
  after : AfterFrame

/-- A message of the transport. -/
inductive Message where
  | disconnect
  | text (content : String)
  | bytes (content : Bytes)
  | empty

/-- Raw bytes of a client frame, or nothing once the peer has gone. -/
def payloadOf : Message → Option Bytes
  | .disconnect => none
  | .text content => some content.toUTF8.toList
  | .bytes content => some content
  | .empty => some []

/-- A message with what its handling reads: the gate when the frame is read and when
its reports are submitted, the monotonic clock, the wall clock when the window is
checked and when the reports are stamped, and whether a frame gets through to the
device. -/
structure Arrival where
  message : Message
  throttled : Bool
  throttledLater : Bool
  now : ℚ
  checkedAt : ClockTime
  submittedAt : ClockTime
  queue : QueueReply
  delivered : Bool

namespace DeviceSession

def fresh : DeviceSession := ⟨.fresh, 0⟩

/-- The end of the window given at some moment. -/
def quietDeadline (retryAfterMs : ℕ) (now : ℚ) : ℚ :=
  Binary64.round (now + Binary64.round ((retryAfterMs : ℚ) / 1000))

/-- Ask the device to hold off. -/
def notifyThrottled (session : DeviceSession) (retryAfterMs : ℕ) (now : ℚ) (force : Bool) :
    DeviceSession × Option SessionFrame :=
  if now < session.quietUntil ∧ force = false then
    (session, none)
  else
    ({ session with quietUntil := quietDeadline retryAfterMs now },
      some (.throttle retryAfterMs))

/-- Answer one unusable frame and count the reports it tried to carry. -/
def reject (session : DeviceSession) (now : ℚ) (code detail : String) (reports : ℕ) : Handling :=
  let (tolerated, budget) := session.budget.record now
  { session := { session with budget := budget }
    sent := some (.error code detail none)
    appended := []
    counts := { IngestCounts.zero with validation := reports }
    after := if tolerated then .goOn else .hangUp }

/-- The reports of a frame are submitted. -/
def enqueue (edge : IngestEdge) (session : DeviceSession) (arrival : Arrival) (seq : Option ℤ)
    (reports : List LocationReport) : Handling :=
  let submission := edge.submit arrival.throttledLater arrival.submittedAt arrival.queue reports
  match submission.outcome with
  | .error (.backpressure _) =>
      let (notified, frame) := session.notifyThrottled edge.retryAfterMs arrival.now true
      ⟨notified, frame, submission.appended, submission.counts, .goOn⟩
  | .error .redis =>
      ⟨session,
        some (.error "ingest_unavailable" "The ingestion queue is not reachable." seq),
        submission.appended, submission.counts, .goOn⟩
  | .ok accepted =>
      ⟨session, seq.map fun number => .ack number accepted, submission.appended,
        submission.counts, .goOn⟩

/-- Process one frame. -/
def handle (edge : IngestEdge) (session : DeviceSession) (arrival : Arrival) (raw : Bytes) :
    Handling :=
  if edge.maxFrame < raw.length then
    session.reject arrival.now "payload_too_large"
      ("Frame exceeds " ++ toString edge.maxFrame ++ " bytes; send smaller batches.") 1
  else
    match parseIngestPayload edge.pydantic edge.maxBatch raw with
    | .error (.batchTooLarge offered limit) =>
        session.reject arrival.now "payload_too_large" (batchTooLargeText offered limit) offered
    | .error (.validation error) =>
        session.reject arrival.now "validation_error" (describeErrors (edge.readableErrors error)) 1
    | .error (.value message) => session.reject arrival.now "validation_error" message 1
    | .ok (seq, reports) =>
        match checkReportWindow reports (utcNow arrival.checkedAt)
            (reportWindow edge.settings) with
        | .error error =>
            match error.message with
            | some detail =>
                ⟨session, some (.error "out_of_window" detail seq), [],
                  { IngestCounts.zero with window := reports.length }, .goOn⟩
            | none => ⟨session, none, [], .zero, .crash⟩
        | .ok () => session.enqueue edge arrival seq reports

/-- One turn of the loop: a frame is dropped unparsed while the gate is shut. -/
def receive (edge : IngestEdge) (session : DeviceSession) (arrival : Arrival) (raw : Bytes) :
    Handling :=
  if arrival.throttled then
    let (notified, frame) := session.notifyThrottled edge.retryAfterMs arrival.now false
    ⟨notified, frame, [], .zero, .goOn⟩
  else
    session.handle edge arrival raw

end DeviceSession

/-- Where the handler of a connection is. -/
inductive SessionStage where
  | reading
  | hungUp
  | ended
deriving DecidableEq

/-- A frame and how it was handled. -/
structure Exchange where
  arrival : Arrival
  raw : Bytes
  handling : Handling

namespace Exchange

def now (exchange : Exchange) : ℚ := exchange.arrival.now

/-- The frame was dropped unparsed. -/
def shed (exchange : Exchange) : Bool := exchange.arrival.throttled

/-- The frame was looked at, and nothing could be read from it. -/
def Unusable (edge : IngestEdge) (exchange : Exchange) : Prop :=
  exchange.shed = false ∧ edge.read exchange.raw = none

instance (edge : IngestEdge) (exchange : Exchange) : Decidable (exchange.Unusable edge) :=
  inferInstanceAs (Decidable (_ ∧ _))

/-- The device was asked to hold off. -/
def notified (exchange : Exchange) : Bool :=
  match exchange.handling.sent with
  | some (.throttle _) => true
  | _ => false

end Exchange

/-- A connection with what happened on it: the moment of the greeting if the
device was asked to hold off at once, and the frames received.  The clock is the
last reading of the monotonic clock. -/
structure DeviceLine where
  session : DeviceSession
  stage : SessionStage
  clock : ℚ
  greeted : List ℚ
  history : List Exchange

namespace DeviceLine

/-- A device that arrives during a throttle window is told before it sends
anything. -/
def opened (edge : IngestEdge) (throttled : Bool) (now : ℚ) : DeviceLine :=
  if throttled then
    let (session, frame) := DeviceSession.fresh.notifyThrottled edge.retryAfterMs now false
    ⟨session, .reading, now, if frame.isSome then [now] else [], []⟩
  else
    ⟨.fresh, .reading, now, [], []⟩

/-- A frame that does not get through ends the handler, as an exception does. -/
def stageAfter (arrival : Arrival) (handling : Handling) : SessionStage :=
  if handling.sent.isSome ∧ arrival.delivered = false then .ended
  else
    match handling.after with
    | .goOn => .reading
    | .hangUp => .hungUp
    | .crash => .ended

/-- The line after a frame was handled. -/
def after (line : DeviceLine) (exchange : Exchange) : DeviceLine :=
  { session := exchange.handling.session
    stage := stageAfter exchange.arrival exchange.handling
    clock := exchange.now
    greeted := line.greeted
    history := line.history ++ [exchange] }

def step (edge : IngestEdge) (line : DeviceLine) (arrival : Arrival) : Option DeviceLine :=
  if line.stage = .reading then
    match payloadOf arrival.message with
    | none => some { line with stage := .ended }
    | some raw => some (line.after ⟨arrival, raw, line.session.receive edge arrival raw⟩)
  else
    none

/-- The clock does not go back. -/
def Forward (line : DeviceLine) (arrival : Arrival) : Prop := line.clock ≤ arrival.now

instance (line : DeviceLine) (arrival : Arrival) : Decidable (line.Forward arrival) :=
  inferInstanceAs (Decidable (line.clock ≤ arrival.now))

end DeviceLine

end GeoTrack
