import GeoTrack.LoadGenerator
import Mathlib.Algebra.GroupWithZero.Nat

/-!
# The books of the load generator

Every report that was produced is sent, dropped, held by some task or lost with
one.  A worker that is interrupted drops what it has not delivered, so over
websockets nothing is ever lost.  Over HTTP a task that is interrupted forgets
the reports it holds, and so does the run that ends with batches in its queue:
the summary balances exactly when no step forgets a report.
-/

namespace GeoTrack

open LabelledRuns

variable {ν σ : Type} [FloatMath ν] {source : RandomSource ν σ} {config : LoadConfig ν}
  {stats counted : LoadStats}

/-- The reports of which the counters do not say what has become. -/
def LoadStats.unsettled (stats : LoadStats) : ℤ := stats.produced - (stats.sent + stats.dropped)

section Holding

def WorkerStage.held : WorkerStage ν → ℕ
  | .sending undelivered _ _ => undelivered
  | _ => 0

/-- What is undelivered is the frame that is being sent and those to follow. -/
def WorkerStage.Whole : WorkerStage ν → Prop
  | .sending undelivered chunk more => undelivered = chunk.length + more.flatten.length
  | _ => True

def ProducerStage.batched : ProducerStage ν → List (Report ν)
  | .driving batcher => batcher.reports
  | _ => []

def PostStage.batch : PostStage ν → List (Report ν)
  | .requesting _ batch => batch
  | .pausing _ batch => batch
  | _ => []

end Holding

section Workers

/-- The frames of one tick carry each of its reports once. -/
theorem flatten_chunked {ρ : Type} (reports : List ρ) {size : ℕ} (positive : 0 < size) :
    (chunked reports size).flatten = reports := by
  have taken (frames : ℕ) : ((List.range frames).map fun index =>
      (reports.drop (index * size)).take size).flatten = reports.take (frames * size) := by
    induction frames with
    | zero => simp
    | succ frames ih =>
        rw [List.range_succ, List.map_append, List.flatten_append, ih, Nat.succ_mul,
          List.take_add]
        simp
  have enough : reports.length ≤ (reports.length + size - 1) / size * size := by
    have upper := Nat.lt_div_mul_add positive (a := reports.length + size - 1)
    omega
  rw [chunked, taken, List.take_of_length_le enough]

omit [FloatMath ν] in
theorem sendNext_held (worker : WebsocketWorker ν σ) (now : ν) (chunks : List (List (Report ν))) :
    (worker.sendNext now chunks.flatten.length chunks).stage.held = chunks.flatten.length ∧
      (worker.sendNext now chunks.flatten.length chunks).stage.Whole := by
  cases chunks with
  | nil => exact ⟨rfl, trivial⟩
  | cons chunk more =>
      refine ⟨rfl, ?_⟩
      rw [List.flatten_cons, List.length_append]
      rfl

omit [FloatMath ν] in
/-- A session that ends drops what it holds. -/
theorem endSession_unsettled (stats : LoadStats) (worker : WebsocketWorker ν σ) :
    (worker.endSession stats).unsettled = stats.unsettled - worker.stage.held := by
  unfold WebsocketWorker.endSession
  cases worker.stage with
  | sending undelivered chunk more =>
      simp only [LoadStats.unsettled, WorkerStage.held]
      omega
  | _ => simp [LoadStats.unsettled, WorkerStage.held]

theorem handle_unsettled (stats : LoadStats) (worker : WebsocketWorker ν σ) (now : ν)
    (frame : IngestFrame ν) :
    (worker.handle now stats frame).1.unsettled = stats.unsettled ∧
      (worker.handle now stats frame).2.stage = worker.stage := by
  cases frame with
  | ack seq accepted =>
      cases seq with
      | none => exact ⟨rfl, rfl⟩
      | some seq => exact ⟨rfl, rfl⟩
  | _ => exact ⟨rfl, rfl⟩

/-- What a worker produces it holds until it is sent. -/
theorem wake_unsettled (source : RandomSource ν σ) (config : LoadConfig ν) (stats : LoadStats)
    {worker : WebsocketWorker ν σ} (idle : worker.stage = .idle) (now : ν) (moment : ℤ) :
    (worker.wake source config now moment stats).1.unsettled -
        (worker.wake source config now moment stats).2.stage.held = stats.unsettled ∧
      (worker.wake source config now moment stats).2.stage.Whole := by
  unfold WebsocketWorker.wake
  simp only
  split
  · simp [idle, WorkerStage.held, WorkerStage.Whole]
  split
  · simp [idle, WorkerStage.held, WorkerStage.Whole]
  generalize (Devices.stepAll source config.toFleetSettings moment
    (worker.devices.popDue now).1 (worker.devices.popDue now).2) = reported
  have whole := flatten_chunked reported.1 config.maxBatch_pos
  have sending := sendNext_held { worker with
    devices := (worker.devices.popDue now).1.foldl
      (.reschedule source config.toFleetSettings now) reported.2 } now
    (chunked reported.1 config.maxBatch)
  rw [whole] at sending
  obtain ⟨holds, keeps⟩ := sending
  refine ⟨?_, keeps⟩
  rw [holds]
  simp only [LoadStats.unsettled]
  omega

theorem worker_unsettled {worker after : WebsocketWorker ν σ} {event : WorkerEvent ν}
    (whole : worker.stage.Whole)
    (stepTo : worker.step source config stats event = some (counted, after)) :
    counted.unsettled - after.stage.held = stats.unsettled - worker.stage.held ∧
      after.stage.Whole := by
  cases WebsocketWorker.moves_of_step stepTo with
  | started waiting => exact ⟨by rw [waiting]; rfl, trivial⟩
  | unclaimed => exact ⟨rfl, whole⟩
  | connected connecting => exact ⟨by rw [connecting]; rfl, trivial⟩
  | connectFails connecting => exact ⟨by rw [connecting]; rfl, trivial⟩
  | woken idle =>
      obtain ⟨balanced, keeps⟩ := wake_unsettled source config stats idle _ _
      rw [balanced, idle]
      exact ⟨(sub_zero _).symm, keeps⟩
  | @sent now undelivered chunk more sending =>
      rw [sending] at whole ⊢
      change undelivered = _ at whole
      have left : undelivered - chunk.length = more.flatten.length := by omega
      rw [left]
      obtain ⟨holds, keeps⟩ := sendNext_held worker now more
      refine ⟨?_, keeps⟩
      rw [holds, whole]
      simp only [LoadStats.unsettled, WorkerStage.held]
      omega
  | received =>
      obtain ⟨same, stage⟩ := handle_unsettled stats worker _ _
      rw [same, stage]
      exact ⟨rfl, whole⟩
  | sendFails | crashed | cancelled =>
      exact ⟨(sub_zero _).trans (endSession_unsettled stats worker), trivial⟩

end Workers

section Senders

variable {queue : List (List (Report ν))}

open HttpRunner

omit [FloatMath ν] in
/-- A batch that is offered is queued, at the cost of the oldest one where the
queue is full. -/
theorem offer_unsettled (stats : LoadStats) (bounded : queue.length ≤ queueMax config)
    (batch : List (Report ν)) :
    (offer config stats queue batch).1.unsettled -
        (offer config stats queue batch).2.flatten.length =
      stats.unsettled - queue.flatten.length - batch.length ∧
      (offer config stats queue batch).2.length ≤ queueMax config := by
  have positive : 0 < queueMax config := Nat.mul_pos config.connections_pos (by decide)
  unfold offer putNowait
  by_cases room : queue.length < queueMax config
  case pos =>
      rw [if_pos room]
      simp only [LoadStats.unsettled, List.flatten_append, List.length_append,
        List.flatten_singleton, List.length_singleton]
      omega
  case neg =>
      rw [if_neg room]
      cases queue with
      | nil => exact absurd positive room
      | cons oldest rest =>
          have roomAgain : rest.length < queueMax config := by
            rw [List.length_cons] at bounded
            omega
          simp only [if_pos roomAgain, Option.getD_some, LoadStats.unsettled,
            List.flatten_append, List.flatten_cons, List.flatten_nil, List.append_nil,
            List.length_append, List.length_singleton]
          omega

omit [FloatMath ν] in
theorem take_length (batcher : Batcher ν) :
    batcher.take.1.length + batcher.take.2.reports.length = batcher.reports.length := by
  rw [← List.length_append, Batcher.take_append]

theorem drain_unsettled (stats : LoadStats) (now : ν) (rounds : ℕ)
    (bounded : queue.length ≤ queueMax config) (batcher : Batcher ν) :
    (drain config now rounds stats queue batcher).1.unsettled -
        (drain config now rounds stats queue batcher).2.1.flatten.length -
        (drain config now rounds stats queue batcher).2.2.reports.length =
      stats.unsettled - queue.flatten.length - batcher.reports.length ∧
      (drain config now rounds stats queue batcher).2.1.length ≤ queueMax config := by
  induction rounds generalizing stats queue batcher with
  | zero => exact ⟨rfl, bounded⟩
  | succ rounds ih =>
      rw [drain]
      split
      case isFalse => exact ⟨rfl, bounded⟩
      case isTrue =>
          obtain ⟨offered, stillBounded⟩ := offer_unsettled stats bounded batcher.take.1
          obtain ⟨drained, endBounded⟩ := ih (offer config stats queue batcher.take.1).1
            stillBounded batcher.take.2
          have parts := take_length batcher
          refine ⟨?_, endBounded⟩
          simp only
          omega

theorem produceDue_length (source : RandomSource ν σ) (config : LoadConfig ν) (now : ν)
    (moment : ℤ) {count : ℕ} (due : List (Fin count)) (devices : Devices ν σ count)
    (batcher : Batcher ν) :
    (produceDue source config now moment due devices batcher).2.reports.length =
      batcher.reports.length + due.length := by
  induction due generalizing devices batcher with
  | nil => rfl
  | cons index rest ih =>
      rw [produceDue, ih]
      simp only [Batcher.add, List.length_append, List.length_cons, List.length_nil]
      omega

/-- What a round produces is batched, queued or shed. -/
theorem produce_unsettled (source : RandomSource ν σ) (stats : LoadStats)
    {runner : HttpRunner ν σ} (bounded : runner.queue.length ≤ queueMax config)
    (now : ν) (moment : ℤ) (batcher : Batcher ν) :
    (runner.produce source config now moment stats batcher).1.unsettled -
        (runner.produce source config now moment stats batcher).2.queue.flatten.length -
        (runner.produce source config now moment stats batcher).2.producer.batched.length =
      stats.unsettled - runner.queue.flatten.length - batcher.reports.length ∧
      (runner.produce source config now moment stats batcher).2.queue.length ≤ queueMax config ∧
      (runner.produce source config now moment stats batcher).2.senders = runner.senders := by
  unfold produce
  generalize runner.devices.popDue now = round
  obtain ⟨due, popped⟩ := round
  have filled := produceDue_length source config now moment due popped batcher
  simp only
  generalize produceDue source config now moment due popped batcher = produced at filled ⊢
  obtain ⟨drained, stillBounded⟩ := drain_unsettled
    { stats with produced := stats.produced + due.length } now produced.2.reports.length bounded
    produced.2
  have counts : { stats with produced := stats.produced + due.length }.unsettled =
      stats.unsettled + due.length := by
    simp only [LoadStats.unsettled]
    omega
  have balanced : stats.unsettled + due.length - runner.queue.flatten.length -
      (produced.2.reports.length : ℤ) =
        stats.unsettled - runner.queue.flatten.length - batcher.reports.length := by
    omega
  rw [counts] at drained
  exact ⟨drained.trans balanced, stillBounded, trivial⟩

/-- What the producer forgets when it is interrupted. -/
def ProducerEvent.forgets (stage : ProducerStage ν) : ProducerEvent ν → List (Report ν)
  | .crash => stage.batched
  | .cancel => stage.batched
  | _ => []

/-- What a sender forgets when it is interrupted. -/
def PostEvent.forgets (stage : PostStage ν) : PostEvent → List (Report ν)
  | .crash => stage.batch
  | .cancel => stage.batch
  | _ => []

theorem producer_unsettled {runner after : HttpRunner ν σ} {event : ProducerEvent ν}
    (bounded : runner.queue.length ≤ queueMax config)
    (stepTo : runner.stepProducer source config stats event = some (counted, after)) :
    counted.unsettled - after.queue.flatten.length - after.producer.batched.length =
        stats.unsettled - runner.queue.flatten.length - runner.producer.batched.length +
          (event.forgets runner.producer).length ∧
      after.queue.length ≤ queueMax config ∧ after.senders = runner.senders := by
  cases moves_of_stepProducer stepTo with
  | started waiting =>
      refine ⟨?_, bounded, rfl⟩
      rw [waiting]
      simp [ProducerStage.batched, ProducerEvent.forgets]
  | unclaimed =>
      refine ⟨?_, bounded, rfl⟩
      simp [ProducerEvent.forgets, LoadStats.unsettled]
  | @woken now moment batcher driving =>
      obtain ⟨unsettled, rest⟩ := produce_unsettled source stats bounded now moment batcher
      rw [driving]
      exact ⟨unsettled.trans (add_zero _).symm, rest⟩
  | crashed | cancelled =>
      refine ⟨?_, bounded, rfl⟩
      simp only [ProducerEvent.forgets, LoadStats.unsettled, ProducerStage.batched,
        List.length_nil]
      omega

omit [FloatMath ν] in
theorem settle_unsettled (stats : LoadStats) (attempt : ℕ) (batch : List (Report ν))
    (reply : PostReply) :
    (settle stats attempt batch reply).1.unsettled -
        (settle stats attempt batch reply).2.batch.length =
      stats.unsettled - batch.length := by
  cases reply with
  | failed => rfl
  | status code accepted =>
      rw [settle]
      split_ifs with accepted later
      · simp only [LoadStats.unsettled, PostStage.batch, List.length_nil]
        omega
      · rfl
      · simp only [LoadStats.unsettled, PostStage.batch, List.length_nil]
        omega

omit [FloatMath ν] in
theorem retry_unsettled (attempt : ℕ) (batch : List (Report ν)) :
    (retry stats attempt batch).1.unsettled - (retry stats attempt batch).2.batch.length =
      stats.unsettled - batch.length := by
  unfold retry
  split
  · rfl
  · simp only [LoadStats.unsettled, PostStage.batch, List.length_nil]
    omega

omit [FloatMath ν] in
theorem sender_unsettled {left : List (List (Report ν))} {stage after : PostStage ν}
    {event : PostEvent} (bounded : queue.length ≤ queueMax config)
    (stepTo : stepSender stats queue stage event = some (counted, left, after)) :
    counted.unsettled - left.flatten.length - after.batch.length =
        stats.unsettled - queue.flatten.length - stage.batch.length +
          (event.forgets stage).length ∧
      left.length ≤ queueMax config := by
  cases event with
  | take =>
      simp only [stepSender] at stepTo
      split at stepTo
      case h_2 => cases stepTo
      case h_1 batch rest =>
          cases stepTo
          rw [List.length_cons] at bounded
          refine ⟨?_, by omega⟩
          simp only [PostEvent.forgets, LoadStats.unsettled, PostStage.batch, List.length_nil,
            List.flatten_cons, List.length_append]
          omega
  | reply reply =>
      cases stage with
      | requesting attempt batch =>
          have settled :=
            settle_unsettled { stats with inFlight := stats.inFlight - 1 } attempt batch reply
          simp only [stepSender, Option.some.injEq, Prod.mk.injEq] at stepTo
          obtain ⟨rfl, rfl, rfl⟩ := stepTo
          refine ⟨?_, bounded⟩
          change _ = stats.unsettled - (batch.length : ℤ) at settled
          change _ = stats.unsettled - _ - (batch.length : ℤ) + (0 : ℕ)
          omega
      | _ => cases stepTo
  | wake =>
      cases stage with
      | pausing attempt batch =>
          have retried := @retry_unsettled _ stats attempt batch
          simp only [stepSender, Option.some.injEq, Prod.mk.injEq] at stepTo
          obtain ⟨rfl, rfl, rfl⟩ := stepTo
          refine ⟨?_, bounded⟩
          change _ = stats.unsettled - _ - (batch.length : ℤ) + (0 : ℕ)
          omega
      | _ => cases stepTo
  | crash =>
      cases stage
      all_goals
        cases stepTo
        try refine ⟨?_, bounded⟩
        try simp only [PostEvent.forgets, LoadStats.unsettled, PostStage.batch, List.length_nil]
        try omega
  | restart =>
      cases stage with
      | restarting =>
          cases stepTo
          exact ⟨(add_zero _).symm, bounded⟩
      | _ => cases stepTo
  | cancel =>
      cases stage
      all_goals
        cases stepTo
        try refine ⟨?_, bounded⟩
        try simp only [PostEvent.forgets, LoadStats.unsettled, PostStage.batch, List.length_nil]
        try omega

end Senders

/-- Replacing an entry changes a sum by the difference. -/
theorem sum_map_set {α : Type} (held : α → ℕ) {items : List α} {index : ℕ} {old : α}
    (found : items[index]? = some old) (new : α) :
    ((items.set index new).map held).sum + held old = (items.map held).sum + held new := by
  induction items generalizing index with
  | nil => cases found
  | cons head rest ih =>
      cases index with
      | zero =>
          obtain rfl := Option.some.inj found
          simp only [List.set_cons_zero, List.map_cons, List.sum_cons]
          omega
      | succ index =>
          have shorter := ih found
          simp only [List.set_cons_succ, List.map_cons, List.sum_cons]
          omega

namespace LoadGenerator

variable {generator after : LoadGenerator ν σ}

/-- The reports that tasks and the queue hold; a run that has returned holds
none. -/
def held (generator : LoadGenerator ν σ) : ℕ :=
  if generator.summary.isSome then 0
  else
    match generator.workload with
    | .ws workers => (workers.map fun worker => worker.stage.held).sum
    | .http runner =>
        runner.queue.flatten.length + runner.producer.batched.length +
          (runner.senders.map fun stage => stage.batch.length).sum

/-- The reports that a step forgets. -/
def forgets (generator : LoadGenerator ν σ) (event : LoadEvent ν) : List (Report ν) :=
  match event, generator.workload with
  | .producer event, .http runner => event.forgets runner.producer
  | .sender index event, .http runner =>
      match runner.senders[index]? with
      | some stage => event.forgets stage
      | none => []
  | .finish, .http runner => runner.queue.flatten
  | _, _ => []

structure Sound (config : LoadConfig ν) (generator : LoadGenerator ν σ) : Prop where
  workload : match generator.workload with
    | .ws workers => ∀ worker ∈ workers, worker.stage.Whole
    | .http runner => runner.queue.length ≤ HttpRunner.queueMax config
  summary : ∀ summary, generator.summary = some summary → summary = generator.stats

theorem fresh_sound (source : RandomSource ν σ) (config : LoadConfig ν) :
    (fresh source config).Sound config ∧ (fresh source config).held = 0 ∧
      (fresh source config).stats.unsettled = 0 := by
  refine ⟨⟨?_, nofun⟩, ?_, rfl⟩
  · unfold fresh
    cases config.transport with
    | ws =>
        intro worker listed
        obtain ⟨index, -, rfl⟩ := List.mem_map.mp listed
        trivial
    | http => exact Nat.zero_le _
  · unfold fresh held
    cases config.transport with
    | ws => simp [WebsocketWorker.fresh, WorkerStage.held, List.map_map, Function.comp_def]
    | http => simp [HttpRunner.fresh, ProducerStage.batched, PostStage.batch]

theorem sum_map_eq_zero {α : Type} {held : α → ℕ} {items : List α}
    (nothing : ∀ item ∈ items, held item = 0) : (items.map held).sum = 0 := by
  apply List.sum_eq_zero
  intro amount listed
  obtain ⟨item, inItems, rfl⟩ := List.mem_map.mp listed
  exact nothing item inItems

omit [FloatMath ν] in
/-- Tasks that have been cancelled hold nothing; what is left is in the
queue. -/
theorem held_of_allDone (allDone : generator.allDone = true) (running : generator.summary = none) :
    generator.held = (generator.forgets .finish).length := by
  obtain ⟨stats, workload, summary⟩ := generator
  cases running
  unfold LoadGenerator.allDone at allDone
  cases workload with
  | ws workers =>
      apply sum_map_eq_zero
      intro worker listed
      have ended := List.all_eq_true.mp allDone worker listed
      cases stage : worker.stage with
      | cancelled => rfl
      | _ => simp [stage] at ended
  | http runner =>
      simp only [Bool.and_eq_true, List.all_eq_true] at allDone
      obtain ⟨producerOver, sendersOver⟩ := allDone
      have batched : runner.producer.batched = [] := by
        cases stage : runner.producer with
        | cancelled => rfl
        | _ => simp [stage] at producerOver
      have posted : (runner.senders.map fun stage => stage.batch.length).sum = 0 := by
        apply sum_map_eq_zero
        intro stage listed
        have ended := sendersOver stage listed
        cases stage with
        | cancelled => rfl
        | _ => cases ended
      simp only [held, forgets, batched, posted, Option.isSome_none, Bool.false_eq_true, if_false,
        List.length_nil, Nat.add_zero]

omit [FloatMath ν] in
theorem Sound.finish (sound : generator.Sound config) (allDone : generator.allDone = true)
    (running : generator.summary = none) :
    { generator with summary := some generator.stats }.Sound config ∧
      generator.stats.unsettled -
          { generator with summary := some generator.stats }.held =
        generator.stats.unsettled - generator.held + (generator.forgets .finish).length := by
  refine ⟨⟨sound.workload, ?_⟩, ?_⟩
  · intro summary returned
    exact (Option.some.inj returned).symm
  · have left := held_of_allDone allDone running
    simp only [held, Option.isSome_some, if_true] at left ⊢
    omega

/-- The books of one step: what is neither settled nor held was forgotten. -/
theorem Sound.step (sound : generator.Sound config) {event : LoadEvent ν}
    (stepTo : generator.step source config event = some after) :
    after.Sound config ∧ after.stats.unsettled - after.held =
      generator.stats.unsettled - generator.held + (generator.forgets event).length := by
  obtain ⟨stats, workload, summary⟩ := generator
  obtain ⟨running, moves⟩ := moves_of_step stepTo
  cases running
  dsimp only at moves
  cases moves with
  | @worker workers index event worker moved counted found workerTo =>
      have listed := List.mem_of_getElem? found
      obtain ⟨unsettled, whole⟩ := worker_unsettled (sound.workload worker listed) workerTo
      refine ⟨⟨?_, by simp⟩, ?_⟩
      · intro other inSet
        rcases List.mem_or_eq_of_mem_set inSet with unmoved | rfl
        · exact sound.workload other unmoved
        · exact whole
      · have sums := sum_map_set (fun worker => worker.stage.held) found moved
        simp only [held, forgets, Option.isSome_none, Bool.false_eq_true, if_false, List.length_nil]
        omega
  | producer producerTo =>
      obtain ⟨unsettled, bounded, senders⟩ := producer_unsettled sound.workload producerTo
      refine ⟨⟨bounded, by simp⟩, ?_⟩
      simp only [held, forgets, Option.isSome_none, Bool.false_eq_true, if_false, senders]
      omega
  | @sender runner index event stage moved counted queue found senderTo =>
      obtain ⟨unsettled, bounded⟩ := sender_unsettled sound.workload senderTo
      have sums := sum_map_set (fun stage => stage.batch.length) found moved
      refine ⟨⟨bounded, by simp⟩, ?_⟩
      simp only [held, forgets, Option.isSome_none, Bool.false_eq_true, if_false, found]
      omega
  | finish allDone => exact sound.finish allDone rfl

/-- Nothing was forgotten so far iff every report is settled or held. -/
theorem balance_of_run {events : List (LoadEvent ν)}
    (run : Run (step source config) Anything (fresh source config) events generator) :
    generator.Sound config ∧ (generator.held : ℤ) ≤ generator.stats.unsettled ∧
      (generator.stats.unsettled = generator.held ↔
        ∀ taken before, Moment (step source config) Anything (fresh source config) events taken
          before → before.forgets taken = []) := by
  induction run with
  | nil =>
      obtain ⟨sound, nothing, settled⟩ := fresh_sound source config
      rw [nothing, settled]
      exact ⟨sound, le_refl _, iff_of_true rfl fun _ _ moment => absurd moment not_moment_nil⟩
  | @snoc earlier before next event run permitted stepTo ih =>
      obtain ⟨sound, atLeast, exactly⟩ := ih
      obtain ⟨stillSound, books⟩ := sound.step stepTo
      refine ⟨stillSound, by omega, ?_⟩
      constructor
      · intro balanced taken state moment
        rcases run.moment_snoc_iff.mp moment with early | ⟨rfl, rfl⟩
        · exact exactly.mp (by omega) taken state early
        · exact List.length_eq_zero_iff.mp (by omega)
      · intro nothing
        have last := nothing event before (run.moment_snoc_iff.mpr (Or.inr ⟨rfl, rfl⟩))
        have balanced := exactly.mpr fun taken state early =>
          nothing taken state (run.moment_snoc_iff.mpr (Or.inl early))
        rw [last, List.length_nil] at books
        omega

omit [FloatMath ν] in
/-- Over websockets nothing is ever forgotten. -/
theorem forgets_ws {workers : List (WebsocketWorker ν σ)} (sockets : generator.workload = .ws workers)
    (event : LoadEvent ν) : generator.forgets event = [] := by
  unfold forgets
  rw [sockets]
  cases event <;> rfl

/-- A run over websockets is one of workers throughout. -/
theorem sockets_of_run (sockets : config.transport = .ws) {events : List (LoadEvent ν)}
    (run : Run (step source config) Anything (fresh source config) events generator) :
    ∃ workers, generator.workload = .ws workers := by
  refine @Run.invariant _ _ _ _ _ (fun generator : LoadGenerator ν σ =>
    ∃ workers, generator.workload = .ws workers) _ _ run ?_ ?_
  · simp only [fresh, sockets]
    exact ⟨_, rfl⟩
  · rintro ⟨stats, workload, summary⟩ event after ⟨workers, isWorkers⟩ _ stepTo
    obtain ⟨-, moves⟩ := moves_of_step stepTo
    dsimp only at isWorkers moves
    subst isWorkers
    cases moves with
    | worker => exact ⟨_, rfl⟩
    | finish => exact ⟨workers, rfl⟩

/-- The summary balances iff no step of the run forgets a report, and over
websockets always. -/
theorem books_balance_iff {events : List (LoadEvent ν)} {summary : LoadStats}
    (run : Run (step source config) Anything (fresh source config) events generator)
    (returned : generator.summary = some summary) :
    (summary.produced = summary.sent + summary.dropped ↔
      ∀ taken before, Moment (step source config) Anything (fresh source config) events taken
        before → before.forgets taken = []) ∧
      (config.transport = .ws → summary.produced = summary.sent + summary.dropped) := by
  obtain ⟨sound, -, exactly⟩ := balance_of_run run
  have none_ : generator.held = 0 := by rw [held, returned, Option.isSome_some, if_pos rfl]
  have balances : summary.produced = summary.sent + summary.dropped ↔
      generator.stats.unsettled = generator.held := by
    rw [sound.summary summary returned, none_]
    simp only [LoadStats.unsettled]
    omega
  refine ⟨balances.trans exactly, fun sockets => balances.mpr (exactly.mpr ?_)⟩
  rintro taken before ⟨earlier, later, -, reached⟩
  obtain ⟨workers, isWorkers⟩ := sockets_of_run sockets reached
  exact forgets_ws isWorkers taken

section Summaries

/-- The run is stopped within the batch window. -/
def stoppedRun : List (LoadEvent Exact) :=
  [.producer (.start ⟨0⟩), .producer (.wake ⟨40⟩ 0), .producer .cancel, .sender 0 .cancel, .finish]

/-- Two reports of which the summary knows nothing. -/
theorem forgotten_reports :
    ¬ ∀ events generator summary,
      Run (step middle overHttp) Anything (fresh middle overHttp) events generator →
        generator.summary = some summary → summary.produced = summary.sent + summary.dropped := by
  intro balances
  obtain ⟨generator, executed, returned⟩ : ∃ generator,
      exec (step middle overHttp) Anything (fresh middle overHttp) stoppedRun = some generator ∧
        generator.summary = some ⟨2, 0, 0, 0, 0, 0, 0, 0, 0, 0⟩ := by
    apply exists_of_exec
    decide +kernel
  have balanced := balances stoppedRun generator _ (run_of_exec executed) returned
  exact absurd balanced (by decide)

/-- The batch leaves when its window closes, and is accepted. -/
def deliveredRun : List (LoadEvent Exact) :=
  [.producer (.start ⟨0⟩), .producer (.wake ⟨40⟩ 0), .producer (.wake ⟨41⟩ 1),
    .sender 0 .take, .sender 0 (.reply (.status 503 none)), .sender 0 .wake,
    .sender 0 (.reply (.status 202 (some 2))), .sender 0 .cancel, .producer .cancel, .finish]

theorem books_balance_iff_delivered :
    ∃ generator, Run (step middle overHttp) Anything (fresh middle overHttp) deliveredRun
        generator ∧
      generator.summary = some ⟨2, 2, 2, 0, 0, 0, 0, 1, 0, 0⟩ ∧
      ((2 : ℕ) = 2 + 0 ↔ ∀ taken before,
        Moment (step middle overHttp) Anything (fresh middle overHttp) deliveredRun taken before →
          before.forgets taken = []) := by
  obtain ⟨generator, executed, returned⟩ : ∃ generator,
      exec (step middle overHttp) Anything (fresh middle overHttp) deliveredRun = some generator ∧
        generator.summary = some ⟨2, 2, 2, 0, 0, 0, 0, 1, 0, 0⟩ := by
    apply exists_of_exec
    decide +kernel
  have run := run_of_exec executed
  exact ⟨generator, run, returned, (books_balance_iff run returned).1⟩

end Summaries

end LoadGenerator

end GeoTrack
