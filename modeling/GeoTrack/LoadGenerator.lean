import GeoTrack.FleetMotion
import GeoTrack.LabelledRuns
import GeoTrack.OrderedDict
import Mathlib.Algebra.Order.Ring.Unbundled.Rat

/-!
# The load generator

Over websockets every worker drives a slice of the fleet and puts its reports
on its own socket.  Over HTTP one producer drives the whole fleet and batches
the reports into a bounded queue, from which a pool of senders posts them.

A step is what one task does from one await to the next, where nothing raises:
failures, crashes and the final cancellation arrive at the awaits.  Clocks,
outcomes and the order of the tasks are free.
-/

namespace GeoTrack

open FloatMath

variable {ν σ : Type} [FloatMath ν]

/-- The counters of a run. -/
structure LoadStats where
  produced : ℕ
  sent : ℕ
  accepted : ℤ
  rejected : ℕ
  dropped : ℕ
  failures : ℕ
  reconnects : ℕ
  throttles : ℕ
  inFlight : ℤ
  queued : ℕ
deriving DecidableEq

def LoadStats.zero : LoadStats := ⟨0, 0, 0, 0, 0, 0, 0, 0, 0, 0⟩

inductive LoadTransport where
  | ws
  | http
deriving DecidableEq

/-- What `parse_config` lets through. -/
structure LoadConfig (ν : Type) extends FleetSettings ν where
  transport : LoadTransport
  devices : ℕ
  connections : ℕ
  batchSize : ℕ
  batchWindowS : ν
  maxBatch : ℕ
  rampUp : ν
  devicePrefix : String
  connections_pos : 0 < connections
  batchSize_pos : 0 < batchSize
  maxBatch_pos : 0 < maxBatch

def httpAttempts : ℕ := 3
def queueDepthFactor : ℕ := 4
def pendingAcksMax : ℕ := 1024

section Websocket

/-- `reports[start : start + size]` for every `start` in `range(0, len(reports), size)`. -/
def chunked {ρ : Type} (reports : List ρ) (size : ℕ) : List (List ρ) :=
  (List.range ((reports.length + size - 1) / size)).map fun index =>
    (reports.drop (index * size)).take size

/-- Where the task of a worker is. -/
inductive WorkerStage (ν : Type) where
  /-- Before its first start or after a crash. -/
  | waiting
  /-- Connecting, or pausing before the next attempt. -/
  | connecting
  /-- Connected, with nothing to send. -/
  | idle
  /-- In `socket.send` with one frame, and with more to follow. -/
  | sending (undelivered : ℕ) (chunk : List (Report ν)) (more : List (List (Report ν)))
  | cancelled

structure WebsocketWorker (ν σ : Type) where
  count : ℕ
  devices : Devices ν σ count
  stage : WorkerStage ν
  pending : Dict ℤ (ν × ℕ)
  pauseUntil : ν
  seq : ℤ
  connectedOnce : Bool

/-- A frame of the server, with its fields where they are numbers. -/
inductive IngestFrame (ν : Type) where
  | undecodable
  | ack (seq accepted : Option ℤ)
  | throttle (retryAfterMs : Option ν)
  | error (seq : Option ℤ)
  | other

inductive WorkerEvent (ν : Type) where
  | start (now : ν)
  | connected
  | connectFails
  | wake (now : ν) (moment : ℤ)
  | sendReturns (now : ν)
  | sendFails
  | receive (now : ν) (frame : IngestFrame ν)
  | crash
  | cancel

namespace WebsocketWorker

variable (source : RandomSource ν σ) (config : LoadConfig ν)

def fresh (index : ℕ) (states : List (DeviceState ν)) : WebsocketWorker ν σ where
  count := states.length
  devices := .init source config.toFleetSettings states
    (source.seeded (toString config.seed ++ ":ws:" ++ toString index))
  stage := .waiting
  pending := ∅
  pauseUntil := literal 0
  seq := 0
  connectedOnce := false

/-- Note a frame as outstanding, and give up the oldest where there are too
many. -/
def remember (now : ν) (size : ℕ) (worker : WebsocketWorker ν σ) : WebsocketWorker ν σ :=
  let seq := worker.seq + 1
  let pending := worker.pending.set seq (now, size)
  let stale := (pending.keys.mergeSort (· ≤ ·)).take (pending.size - pendingAcksMax)
  { worker with seq := seq, pending := pending.eraseAll stale }

def forget (seq : ℤ) (worker : WebsocketWorker ν σ) : ℕ × WebsocketWorker ν σ :=
  (((worker.pending.get? seq).map Prod.snd).getD 0,
    { worker with pending := worker.pending.erase seq })

/-- `_send` up to its next await. -/
def sendNext (now : ν) (worker : WebsocketWorker ν σ) (undelivered : ℕ) :
    List (List (Report ν)) → WebsocketWorker ν σ
  | [] => { worker with stage := .idle }
  | chunk :: more =>
      { worker.remember now chunk.length with stage := .sending undelivered chunk more }

/-- `_send_forever` once. -/
def wake (now : ν) (moment : ℤ) (stats : LoadStats) (worker : WebsocketWorker ν σ) :
    LoadStats × WebsocketWorker ν σ :=
  let settings := config.toFleetSettings
  let (due, devices) := worker.devices.popDue now
  let pause := worker.pauseUntil - now
  if due = [] then (stats, { worker with devices := devices })
  else if lt (literal 0) pause then
    (stats, { worker with devices := due.foldl (.defer source settings (now + pause)) devices })
  else
    let (reports, stepped) := devices.stepAll source settings moment due
    let rescheduled := due.foldl (.reschedule source settings now) stepped
    ({ stats with produced := stats.produced + reports.length },
      { worker with devices := rescheduled }.sendNext now reports.length
        (chunked reports config.maxBatch))

def handle (now : ν) (stats : LoadStats) (worker : WebsocketWorker ν σ) :
    IngestFrame ν → LoadStats × WebsocketWorker ν σ
  | .undecodable => ({ stats with failures := stats.failures + 1 }, worker)
  | .ack seq accepted =>
      ({ stats with accepted := stats.accepted + accepted.getD 0 },
        match seq with
        | some seq => (worker.forget seq).2
        | none => worker)
  | .throttle retryAfterMs =>
      let retryS := retryAfterMs.getD (literal 1000) / literal 1000
      let pause := pyMin retryS (literal 30)
      ({ stats with throttles := stats.throttles + 1 },
        { worker with pauseUntil := pyMax worker.pauseUntil (now + pause) })
  | .error seq =>
      let (size, forgotten) := worker.forget (seq.getD worker.seq)
      ({ stats with rejected := stats.rejected + size }, forgotten)
  | .other => (stats, worker)

/-- The session ends: what was not delivered is dropped. -/
def endSession (stats : LoadStats) (worker : WebsocketWorker ν σ) : LoadStats :=
  match worker.stage with
  | .idle => { stats with inFlight := stats.inFlight - 1 }
  | .sending undelivered _ _ =>
      { stats with dropped := stats.dropped + undelivered, inFlight := stats.inFlight - 1 }
  | _ => stats

/-- The pause before the next attempt draws from the stream of the slice. -/
def pauseBeforeRetry (worker : WebsocketWorker ν σ) : WebsocketWorker ν σ :=
  { worker with
    devices := { worker.devices with rng := (source.random worker.devices.rng).2 }
    stage := .connecting }

def step (stats : LoadStats) (worker : WebsocketWorker ν σ) :
    WorkerEvent ν → Option (LoadStats × WebsocketWorker ν σ)
  | .start now =>
      match worker.stage with
      | .waiting =>
          match worker.devices.claim source config.toFleetSettings now (literal 0) with
          | some armed => some (stats, { worker with devices := armed, stage := .connecting })
          | none => some ({ stats with failures := stats.failures + 1 }, worker)
      | _ => none
  | .connected =>
      match worker.stage with
      | .connecting =>
          some ({ stats with
            reconnects := stats.reconnects + (if worker.connectedOnce then 1 else 0)
            inFlight := stats.inFlight + 1 },
            { worker with connectedOnce := true, stage := .idle })
      | _ => none
  | .connectFails =>
      match worker.stage with
      | .connecting =>
          some ({ stats with failures := stats.failures + 1 }, worker.pauseBeforeRetry source)
      | _ => none
  | .wake now moment =>
      match worker.stage with
      | .idle => some (worker.wake source config now moment stats)
      | _ => none
  | .sendReturns now =>
      match worker.stage with
      | .sending undelivered chunk more =>
          some ({ stats with sent := stats.sent + chunk.length },
            worker.sendNext now (undelivered - chunk.length) more)
      | _ => none
  | .sendFails =>
      match worker.stage with
      | .sending _ _ _ =>
          some ({ worker.endSession stats with failures := stats.failures + 1 },
            worker.pauseBeforeRetry source)
      | _ => none
  | .receive now frame =>
      match worker.stage with
      | .idle => some (worker.handle now stats frame)
      | .sending _ _ _ => some (worker.handle now stats frame)
      | _ => none
  | .crash =>
      match worker.stage with
      | .cancelled => none
      | _ =>
          some ({ worker.endSession stats with failures := stats.failures + 1 },
            { worker with devices := worker.devices.release, stage := .waiting })
  | .cancel =>
      match worker.stage with
      | .cancelled => none
      | _ =>
          some (worker.endSession stats,
            { worker with devices := worker.devices.release, stage := .cancelled })

/-- Everything a step of a worker can do. -/
inductive Moves (source : RandomSource ν σ) (config : LoadConfig ν) (stats : LoadStats)
    (worker : WebsocketWorker ν σ) :
    WorkerEvent ν → LoadStats → WebsocketWorker ν σ → Prop where
  | started {now : ν} {armed : Devices ν σ worker.count} (waiting : worker.stage = .waiting)
      (claimed : worker.devices.claim source config.toFleetSettings now (literal 0) = some armed) :
      Moves source config stats worker (.start now) stats
        { worker with devices := armed, stage := .connecting }
  | unclaimed {now : ν} (waiting : worker.stage = .waiting) :
      Moves source config stats worker (.start now)
        { stats with failures := stats.failures + 1 } worker
  | connected (connecting : worker.stage = .connecting) :
      Moves source config stats worker .connected
        { stats with
          reconnects := stats.reconnects + (if worker.connectedOnce then 1 else 0)
          inFlight := stats.inFlight + 1 }
        { worker with connectedOnce := true, stage := .idle }
  | connectFails (connecting : worker.stage = .connecting) :
      Moves source config stats worker .connectFails
        { stats with failures := stats.failures + 1 } (worker.pauseBeforeRetry source)
  | woken {now : ν} {moment : ℤ} (idle : worker.stage = .idle) :
      Moves source config stats worker (.wake now moment)
        (worker.wake source config now moment stats).1
        (worker.wake source config now moment stats).2
  | sent {now : ν} {undelivered : ℕ} {chunk : List (Report ν)} {more : List (List (Report ν))}
      (sending : worker.stage = .sending undelivered chunk more) :
      Moves source config stats worker (.sendReturns now)
        { stats with sent := stats.sent + chunk.length }
        (worker.sendNext now (undelivered - chunk.length) more)
  | sendFails {undelivered : ℕ} {chunk : List (Report ν)} {more : List (List (Report ν))}
      (sending : worker.stage = .sending undelivered chunk more) :
      Moves source config stats worker .sendFails
        { worker.endSession stats with failures := stats.failures + 1 }
        (worker.pauseBeforeRetry source)
  | received {now : ν} {frame : IngestFrame ν}
      (online : worker.stage = .idle ∨
        ∃ undelivered chunk more, worker.stage = .sending undelivered chunk more) :
      Moves source config stats worker (.receive now frame) (worker.handle now stats frame).1
        (worker.handle now stats frame).2
  | crashed (running : worker.stage ≠ .cancelled) :
      Moves source config stats worker .crash
        { worker.endSession stats with failures := stats.failures + 1 }
        { worker with devices := worker.devices.release, stage := .waiting }
  | cancelled (running : worker.stage ≠ .cancelled) :
      Moves source config stats worker .cancel (worker.endSession stats)
        { worker with devices := worker.devices.release, stage := .cancelled }

theorem moves_of_step {source : RandomSource ν σ} {config : LoadConfig ν}
    {stats counted : LoadStats} {worker moved : WebsocketWorker ν σ} {event : WorkerEvent ν}
    (stepTo : worker.step source config stats event = some (counted, moved)) :
    worker.Moves source config stats event counted moved := by
  cases event with
  | start now =>
      simp only [step] at stepTo
      split at stepTo
      case h_2 => cases stepTo
      case h_1 waiting =>
          split at stepTo
          case h_1 armed claimed =>
              cases stepTo
              exact .started waiting claimed
          case h_2 =>
              cases stepTo
              exact .unclaimed waiting
  | connected =>
      simp only [step] at stepTo
      split at stepTo
      case h_2 => cases stepTo
      case h_1 connecting =>
          cases stepTo
          exact .connected connecting
  | connectFails =>
      simp only [step] at stepTo
      split at stepTo
      case h_2 => cases stepTo
      case h_1 connecting =>
          cases stepTo
          exact .connectFails connecting
  | wake now moment =>
      simp only [step] at stepTo
      split at stepTo
      case h_2 => cases stepTo
      case h_1 idle =>
          obtain ⟨rfl, rfl⟩ := Prod.mk.inj (Option.some.inj stepTo)
          exact .woken idle
  | sendReturns now =>
      simp only [step] at stepTo
      split at stepTo
      case h_2 => cases stepTo
      case h_1 undelivered chunk more sending =>
          cases stepTo
          exact .sent sending
  | sendFails =>
      simp only [step] at stepTo
      split at stepTo
      case h_2 => cases stepTo
      case h_1 undelivered chunk more sending =>
          cases stepTo
          exact .sendFails sending
  | receive now frame =>
      simp only [step] at stepTo
      split at stepTo
      case h_1 idle =>
          obtain ⟨rfl, rfl⟩ := Prod.mk.inj (Option.some.inj stepTo)
          exact .received (Or.inl idle)
      case h_2 undelivered chunk more sending =>
          obtain ⟨rfl, rfl⟩ := Prod.mk.inj (Option.some.inj stepTo)
          exact .received (Or.inr ⟨undelivered, chunk, more, sending⟩)
      case h_3 => cases stepTo
  | crash =>
      simp only [step] at stepTo
      split at stepTo
      case h_1 => cases stepTo
      case h_2 running =>
          cases stepTo
          exact .crashed running
  | cancel =>
      simp only [step] at stepTo
      split at stepTo
      case h_1 => cases stepTo
      case h_2 running =>
          cases stepTo
          exact .cancelled running

end WebsocketWorker

end Websocket

section Http

/-- Groups reports into one request each. -/
structure Batcher (ν : Type) where
  size : ℕ
  window : ν
  oldestAt : ν
  reports : List (Report ν)

namespace Batcher

def add (now : ν) (batcher : Batcher ν) (report : Report ν) : Batcher ν :=
  { batcher with
    oldestAt := if batcher.reports = [] then now else batcher.oldestAt
    reports := batcher.reports ++ [report] }

/-- The time until the batch has to leave, `none` while it is empty. -/
def remaining (now : ν) (batcher : Batcher ν) : Option ν :=
  if batcher.reports = [] then none
  else some (pyMax (batcher.oldestAt + batcher.window - now) (literal 0))

def ready (now : ν) (batcher : Batcher ν) : Bool :=
  match batcher.remaining now with
  | none => false
  | some remaining => batcher.size ≤ batcher.reports.length || le remaining (literal 0)

def take (batcher : Batcher ν) : List (Report ν) × Batcher ν :=
  if batcher.reports.length ≤ batcher.size then (batcher.reports, { batcher with reports := [] })
  else
    (batcher.reports.take batcher.size,
      { batcher with reports := batcher.reports.drop batcher.size })

omit [FloatMath ν] in
/-- A batch is the front of what was held. -/
theorem take_append (batcher : Batcher ν) :
    batcher.take.1 ++ batcher.take.2.reports = batcher.reports := by
  unfold take
  split
  · exact List.append_nil _
  · exact List.take_append_drop _ _

end Batcher

inductive ProducerStage (ν : Type) where
  | waiting
  /-- Asleep between two rounds, with a batch under way. -/
  | driving (batcher : Batcher ν)
  | cancelled

inductive PostStage (ν : Type) where
  /-- In `queue.get()`. -/
  | getting
  | requesting (attempt : ℕ) (batch : List (Report ν))
  | pausing (attempt : ℕ) (batch : List (Report ν))
  | restarting
  | cancelled

structure HttpRunner (ν σ : Type) where
  count : ℕ
  devices : Devices ν σ count
  queue : List (List (Report ν))
  producer : ProducerStage ν
  senders : List (PostStage ν)

/-- What comes of a request: a transport error, or a response with the number
it reports as accepted. -/
inductive PostReply where
  | failed
  | status (code : ℕ) (accepted : Option ℤ)

inductive ProducerEvent (ν : Type) where
  | start (now : ν)
  | wake (now : ν) (moment : ℤ)
  | crash
  | cancel

inductive PostEvent where
  | take
  | reply (reply : PostReply)
  | wake
  | crash
  | restart
  | cancel

namespace HttpRunner

variable (source : RandomSource ν σ) (config : LoadConfig ν)

def queueMax : ℕ := config.connections * queueDepthFactor

def fresh (states : List (DeviceState ν)) : HttpRunner ν σ where
  count := states.length
  devices := .init source config.toFleetSettings states
    (source.seeded (toString config.seed ++ ":http"))
  queue := []
  producer := .waiting
  senders := List.replicate config.connections .getting

/-- `put_nowait`, `none` for a full queue. -/
def putNowait (queue : List (List (Report ν))) (batch : List (Report ν)) :
    Option (List (List (Report ν))) :=
  if queue.length < queueMax config then some (queue ++ [batch]) else none

/-- Queue a batch; a full queue sheds its oldest one. -/
def offer (stats : LoadStats) (queue : List (List (Report ν))) (batch : List (Report ν)) :
    LoadStats × List (List (Report ν)) :=
  let (shedding, offered) :=
    match putNowait config queue batch with
    | some longer => (stats, longer)
    | none =>
        let (shed, shorter) :=
          match queue with
          | [] => (stats, [])
          | oldest :: rest => ({ stats with dropped := stats.dropped + oldest.length }, rest)
        (shed, (putNowait config shorter batch).getD shorter)
  ({ shedding with queued := offered.length }, offered)

/-- `while batcher.ready(now)`: every round takes a report at least, so there
are no more rounds than reports. -/
def drain (now : ν) : ℕ → LoadStats → List (List (Report ν)) → Batcher ν →
    LoadStats × List (List (Report ν)) × Batcher ν
  | 0, stats, queue, batcher => (stats, queue, batcher)
  | rounds + 1, stats, queue, batcher =>
      if batcher.ready now then
        let (batch, left) := batcher.take
        let (counted, offered) := offer config stats queue batch
        drain now rounds counted offered left
      else
        (stats, queue, batcher)

/-- Step and reschedule the devices that are due, and batch their reports. -/
def produceDue (now : ν) (moment : ℤ) {count : ℕ} : List (Fin count) → Devices ν σ count →
    Batcher ν → Devices ν σ count × Batcher ν
  | [], devices, batcher => (devices, batcher)
  | index :: rest, devices, batcher =>
      let (report, moved) := devices.step source config.toFleetSettings moment index
      produceDue now moment rest (moved.reschedule source config.toFleetSettings now index)
        (batcher.add now report)

/-- `_produce` once. -/
def produce (now : ν) (moment : ℤ) (stats : LoadStats) (runner : HttpRunner ν σ)
    (batcher : Batcher ν) : LoadStats × HttpRunner ν σ :=
  let (due, popped) := runner.devices.popDue now
  let (devices, filled) := produceDue source config now moment due popped batcher
  let counted := { stats with produced := stats.produced + due.length }
  let (offered, queue, left) := drain config now filled.reports.length counted runner.queue filled
  (offered, { runner with devices := devices, queue := queue, producer := .driving left })

def stepProducer (stats : LoadStats) (runner : HttpRunner ν σ) :
    ProducerEvent ν → Option (LoadStats × HttpRunner ν σ)
  | .start now =>
      match runner.producer with
      | .waiting =>
          match runner.devices.claim source config.toFleetSettings now config.rampUp with
          | some armed =>
              some (stats, { runner with
                devices := armed
                producer := .driving ⟨config.batchSize, config.batchWindowS, literal 0, []⟩ })
          | none => some ({ stats with failures := stats.failures + 1 }, runner)
      | _ => none
  | .wake now moment =>
      match runner.producer with
      | .driving batcher => some (runner.produce source config now moment stats batcher)
      | _ => none
  | .crash =>
      match runner.producer with
      | .cancelled => none
      | _ =>
          some ({ stats with failures := stats.failures + 1 },
            { runner with devices := runner.devices.release, producer := .waiting })
  | .cancel =>
      match runner.producer with
      | .cancelled => none
      | _ => some (stats, { runner with devices := runner.devices.release, producer := .cancelled })

/-- Everything a step of the producer can do. -/
inductive ProducerMoves (source : RandomSource ν σ) (config : LoadConfig ν) (stats : LoadStats)
    (runner : HttpRunner ν σ) : ProducerEvent ν → LoadStats → HttpRunner ν σ → Prop where
  | started {now : ν} {armed : Devices ν σ runner.count} (waiting : runner.producer = .waiting)
      (claimed : runner.devices.claim source config.toFleetSettings now config.rampUp =
        some armed) :
      ProducerMoves source config stats runner (.start now) stats
        { runner with
          devices := armed
          producer := .driving ⟨config.batchSize, config.batchWindowS, literal 0, []⟩ }
  | unclaimed {now : ν} (waiting : runner.producer = .waiting) :
      ProducerMoves source config stats runner (.start now)
        { stats with failures := stats.failures + 1 } runner
  | woken {now : ν} {moment : ℤ} {batcher : Batcher ν}
      (driving : runner.producer = .driving batcher) :
      ProducerMoves source config stats runner (.wake now moment)
        (runner.produce source config now moment stats batcher).1
        (runner.produce source config now moment stats batcher).2
  | crashed (running : runner.producer ≠ .cancelled) :
      ProducerMoves source config stats runner .crash
        { stats with failures := stats.failures + 1 }
        { runner with devices := runner.devices.release, producer := .waiting }
  | cancelled (running : runner.producer ≠ .cancelled) :
      ProducerMoves source config stats runner .cancel stats
        { runner with devices := runner.devices.release, producer := .cancelled }

theorem moves_of_stepProducer {source : RandomSource ν σ} {config : LoadConfig ν}
    {stats counted : LoadStats} {runner moved : HttpRunner ν σ} {event : ProducerEvent ν}
    (stepTo : runner.stepProducer source config stats event = some (counted, moved)) :
    runner.ProducerMoves source config stats event counted moved := by
  cases event with
  | start now =>
      simp only [stepProducer] at stepTo
      split at stepTo
      case h_2 => cases stepTo
      case h_1 waiting =>
          split at stepTo
          case h_1 armed claimed =>
              cases stepTo
              exact .started waiting claimed
          case h_2 =>
              cases stepTo
              exact .unclaimed waiting
  | wake now moment =>
      simp only [stepProducer] at stepTo
      split at stepTo
      case h_2 => cases stepTo
      case h_1 batcher driving =>
          obtain ⟨rfl, rfl⟩ := Prod.mk.inj (Option.some.inj stepTo)
          exact .woken driving
  | crash =>
      simp only [stepProducer] at stepTo
      split at stepTo
      case h_1 => cases stepTo
      case h_2 running =>
          cases stepTo
          exact .crashed running
  | cancel =>
      simp only [stepProducer] at stepTo
      split at stepTo
      case h_1 => cases stepTo
      case h_2 running =>
          cases stepTo
          exact .cancelled running

/-- What `_post` does with the outcome of a request. -/
def settle (stats : LoadStats) (attempt : ℕ) (batch : List (Report ν)) :
    PostReply → LoadStats × PostStage ν
  | .failed => ({ stats with failures := stats.failures + 1 }, .pausing attempt batch)
  | .status code accepted =>
      if code < 300 then
        ({ stats with
          sent := stats.sent + batch.length
          accepted := stats.accepted + accepted.getD batch.length }, .getting)
      else if code = 429 ∨ code = 503 then
        ({ stats with throttles := stats.throttles + 1 }, .pausing attempt batch)
      else
        ({ stats with
          sent := stats.sent + batch.length
          rejected := stats.rejected + batch.length }, .getting)

/-- The next attempt, if there is one left. -/
def retry (stats : LoadStats) (attempt : ℕ) (batch : List (Report ν)) : LoadStats × PostStage ν :=
  if attempt + 1 < httpAttempts then
    ({ stats with inFlight := stats.inFlight + 1 }, .requesting (attempt + 1) batch)
  else
    ({ stats with dropped := stats.dropped + batch.length }, .getting)

/-- One sender, which may take a batch from the queue. -/
def stepSender (stats : LoadStats) (queue : List (List (Report ν))) (stage : PostStage ν) :
    PostEvent → Option (LoadStats × List (List (Report ν)) × PostStage ν)
  | .take =>
      match stage, queue with
      | .getting, batch :: rest =>
          some ({ stats with queued := rest.length, inFlight := stats.inFlight + 1 }, rest,
            .requesting 0 batch)
      | _, _ => none
  | .reply reply =>
      match stage with
      | .requesting attempt batch =>
          let (settled, next) :=
            settle { stats with inFlight := stats.inFlight - 1 } attempt batch reply
          some (settled, queue, next)
      | _ => none
  | .wake =>
      match stage with
      | .pausing attempt batch =>
          let (retried, next) := retry stats attempt batch
          some (retried, queue, next)
      | _ => none
  | .crash =>
      match stage with
      | .cancelled => none
      | .restarting => none
      | .requesting _ _ =>
          some ({ stats with failures := stats.failures + 1, inFlight := stats.inFlight - 1 },
            queue, .restarting)
      | _ => some ({ stats with failures := stats.failures + 1 }, queue, .restarting)
  | .restart =>
      match stage with
      | .restarting => some (stats, queue, .getting)
      | _ => none
  | .cancel =>
      match stage with
      | .cancelled => none
      | .requesting _ _ => some ({ stats with inFlight := stats.inFlight - 1 }, queue, .cancelled)
      | _ => some (stats, queue, .cancelled)

end HttpRunner

end Http

section Run

inductive Workload (ν σ : Type) where
  | ws (workers : List (WebsocketWorker ν σ))
  | http (runner : HttpRunner ν σ)

/-- A run of the generator; `summary` is what it returns. -/
structure LoadGenerator (ν σ : Type) where
  stats : LoadStats
  workload : Workload ν σ
  summary : Option LoadStats

inductive LoadEvent (ν : Type) where
  | worker (index : ℕ) (event : WorkerEvent ν)
  | producer (event : ProducerEvent ν)
  | sender (index : ℕ) (event : PostEvent)
  /-- Every task has ended and the summary is taken. -/
  | finish

namespace LoadGenerator

variable (source : RandomSource ν σ) (config : LoadConfig ν)

/-- `fleet[index :: connections]`. -/
def slice (fleet : List (DeviceState ν)) (index : ℕ) : List (DeviceState ν) :=
  (List.range fleet.length).filterMap fun place =>
    if place % config.connections = index then fleet[place]? else none

def fresh : LoadGenerator ν σ where
  stats := .zero
  workload :=
    let fleet := buildFleet source config.devices config.devicePrefix config.area config.seed
    match config.transport with
    | .ws => .ws ((List.range config.connections).map fun index =>
        .fresh source config index (slice config fleet index))
    | .http => .http (.fresh source config fleet)
  summary := none

/-- Every task has been cancelled. -/
def allDone (generator : LoadGenerator ν σ) : Bool :=
  match generator.workload with
  | .ws workers => workers.all fun worker =>
      match worker.stage with
      | .cancelled => true
      | _ => false
  | .http runner =>
      (match runner.producer with
        | .cancelled => true
        | _ => false) &&
        runner.senders.all fun stage =>
          match stage with
          | .cancelled => true
          | _ => false

def step (generator : LoadGenerator ν σ) (event : LoadEvent ν) : Option (LoadGenerator ν σ) :=
  if generator.summary.isSome then none
  else
    match event, generator.workload with
    | .worker index event, .ws workers =>
        match workers[index]? with
        | some worker =>
            (worker.step source config generator.stats event).map fun (stats, after) =>
              { generator with stats := stats, workload := .ws (workers.set index after) }
        | none => none
    | .producer event, .http runner =>
        (runner.stepProducer source config generator.stats event).map fun (stats, after) =>
          { generator with stats := stats, workload := .http after }
    | .sender index event, .http runner =>
        match runner.senders[index]? with
        | some stage =>
            (HttpRunner.stepSender generator.stats runner.queue stage event).map
              fun (stats, queue, after) =>
                { generator with
                  stats := stats
                  workload := .http { runner with
                    queue := queue
                    senders := runner.senders.set index after } }
        | none => none
    | .finish, _ => if generator.allDone then some { generator with summary := some generator.stats }
        else none
    | _, _ => none

variable {source config} {generator after : LoadGenerator ν σ} {event : LoadEvent ν}

/-- Everything a step can do: one task moves, or the run returns. -/
inductive Moves (source : RandomSource ν σ) (config : LoadConfig ν) (stats : LoadStats) :
    Workload ν σ → LoadEvent ν → LoadGenerator ν σ → Prop where
  | worker {workers : List (WebsocketWorker ν σ)} {index : ℕ} {event : WorkerEvent ν}
      {worker moved : WebsocketWorker ν σ} {counted : LoadStats}
      (found : workers[index]? = some worker)
      (workerTo : worker.step source config stats event = some (counted, moved)) :
      Moves source config stats (.ws workers) (.worker index event)
        ⟨counted, .ws (workers.set index moved), none⟩
  | producer {runner moved : HttpRunner ν σ} {event : ProducerEvent ν} {counted : LoadStats}
      (producerTo : runner.stepProducer source config stats event = some (counted, moved)) :
      Moves source config stats (.http runner) (.producer event) ⟨counted, .http moved, none⟩
  | sender {runner : HttpRunner ν σ} {index : ℕ} {event : PostEvent} {stage moved : PostStage ν}
      {counted : LoadStats} {queue : List (List (Report ν))}
      (found : runner.senders[index]? = some stage)
      (senderTo : HttpRunner.stepSender stats runner.queue stage event =
        some (counted, queue, moved)) :
      Moves source config stats (.http runner) (.sender index event)
        ⟨counted, .http { runner with
          queue := queue
          senders := runner.senders.set index moved }, none⟩
  | finish {workload : Workload ν σ}
      (allDone : LoadGenerator.allDone ⟨stats, workload, none⟩ = true) :
      Moves source config stats workload .finish ⟨stats, workload, some stats⟩

theorem moves_of_step (stepTo : generator.step source config event = some after) :
    generator.summary = none ∧
      Moves source config generator.stats generator.workload event after := by
  obtain ⟨stats, workload, summary⟩ := generator
  unfold step at stepTo
  split at stepTo
  case isTrue => cases stepTo
  case isFalse running =>
      obtain rfl : summary = none := by simpa using running
      refine ⟨rfl, ?_⟩
      dsimp only at stepTo
      split at stepTo
      case h_1 index event workers =>
          split at stepTo
          case h_2 => cases stepTo
          case h_1 worker found =>
              obtain ⟨⟨counted, moved⟩, workerTo, rfl⟩ := Option.map_eq_some_iff.mp stepTo
              exact .worker found workerTo
      case h_2 event runner =>
          obtain ⟨⟨counted, moved⟩, producerTo, rfl⟩ := Option.map_eq_some_iff.mp stepTo
          exact .producer producerTo
      case h_3 index event runner =>
          split at stepTo
          case h_2 => cases stepTo
          case h_1 stage found =>
              obtain ⟨⟨counted, queue, moved⟩, senderTo, rfl⟩ := Option.map_eq_some_iff.mp stepTo
              exact .sender found senderTo
      case h_4 =>
          split at stepTo
          case isFalse => cases stepTo
          case isTrue allDone =>
              obtain rfl := Option.some.inj stepTo
              exact .finish allDone
      case h_5 => cases stepTo

end LoadGenerator

end Run

section Exact

/-- Exact numbers, on a straight line. -/
structure Exact where
  value : ℚ
deriving DecidableEq

instance : FloatMath Exact where
  add first second := ⟨first.value + second.value⟩
  sub first second := ⟨first.value - second.value⟩
  mul first second := ⟨first.value * second.value⟩
  div first second := ⟨first.value / second.value⟩
  mod first second := ⟨first.value - second.value * (first.value / second.value).floor⟩
  literal value := ⟨value⟩
  lt first second := first.value < second.value
  le first second := first.value ≤ second.value
  sqrt value := value
  sin _ := ⟨0⟩
  cos _ := ⟨1⟩
  radians value := value
  degrees value := value
  atan2 _ _ := ⟨0⟩
  hypot east north := ⟨max east.value (-east.value) + max north.value (-north.value)⟩
  round value _ := value
  pi := ⟨22 / 7⟩

/-- Always in the middle. -/
def middle : RandomSource Exact Unit where
  seeded _ := ()
  random _ := (⟨1 / 2⟩, ())
  uniform low high _ := (⟨(low.value + high.value) / 2⟩, ())
  gauss mean _ _ := (mean, ())

def kyiv (transport : LoadTransport) (connections : ℕ) (positive : 0 < connections) :
    LoadConfig Exact where
  interval := ⟨3⟩
  area := ⟨⟨50⟩, ⟨30⟩, ⟨25000⟩⟩
  seed := 1
  transport := transport
  devices := 2
  connections := connections
  batchSize := 100
  batchWindowS := ⟨1 / 10⟩
  maxBatch := 1000
  rampUp := ⟨30⟩
  devicePrefix := "dev-"
  connections_pos := positive
  batchSize_pos := by decide
  maxBatch_pos := by decide

def overSockets : LoadConfig Exact := kyiv .ws 2 (by decide)

def overHttp : LoadConfig Exact := kyiv .http 1 (by decide)

end Exact

end GeoTrack
