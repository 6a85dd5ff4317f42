import GeoTrack.LoadGenerator

/-!
# A seed fixes every trajectory

The private streams of a device are used exactly once for each of its reports,
so after `n` reports it stands where its course stands after `n` steps, and the
course is a function of the seed, the device, the area and the interval.

What makes this true is that the schedule holds no device twice: whatever is
due together is due once, and a device is rescheduled before it can come due
again.
-/

namespace GeoTrack

open FloatMath LabelledRuns

variable {ν σ : Type} [FloatMath ν] {source : RandomSource ν σ} {settings : FleetSettings ν}
  {count : ℕ}

namespace Driven

variable (source settings)

/-- The device after its next move. -/
def moved (driven : Driven ν σ) : Driven ν σ :=
  { driven with
    state := (advance source driven.dt settings.area driven.state driven.rng).1
    rng := (advance source driven.dt settings.area driven.state driven.rng).2 }

/-- The course of a device: where it is, with its streams, after every number of
reports. -/
def course (deviceId : String) : ℕ → Driven ν σ
  | 0 => .fresh source settings (placeDevice source settings.area settings.seed deviceId)
  | reports + 1 => ((course deviceId reports).moved source settings).redraw source settings

/-- The device is on its course, and so was every report. -/
structure Follows (deviceId : String) (driven : Driven ν σ) : Prop where
  standing : { driven with reported := [] } = course source settings deviceId driven.reported.length
  reports : ∀ n report, driven.reported[n]? = some report →
    report.latitude = round (course source settings deviceId (n + 1)).state.lat 7 ∧
      report.longitude = round (course source settings deviceId (n + 1)).state.lon 7

variable {source settings}

theorem step_eq (moment : ℤ) (driven : Driven ν σ) :
    driven.step source settings moment = { driven.moved source settings with
      reported := driven.reported ++
        [(driven.moved source settings).state.reportPayload moment] } := rfl

theorem redraw_eq (driven : Driven ν σ) : driven.redraw source settings = { driven with
    clock := (jitteredInterval source settings.interval driven.clock).2
    dt := (jitteredInterval source settings.interval driven.clock).1 } := rfl

/-- A report takes the device one step further on its course. -/
theorem Follows.report {deviceId : String} {driven : Driven ν σ}
    (follows : driven.Follows source settings deviceId) (moment : ℤ) :
    ((driven.step source settings moment).redraw source settings).Follows source settings
      deviceId := by
  have next : { (driven.step source settings moment).redraw source settings with
      reported := [] } = course source settings deviceId (driven.reported.length + 1) := by
    rw [course, ← follows.standing]
    rfl
  constructor
  · rw [next, redraw_eq, step_eq]
    simp
  · intro n report nth
    rw [redraw_eq, step_eq] at nth
    change (driven.reported ++ [_])[n]? = some report at nth
    rcases Nat.lt_trichotomy n driven.reported.length with earlier | rfl | later
    · rw [List.getElem?_append_left earlier] at nth
      exact follows.reports n report nth
    · rw [List.getElem?_concat_length, Option.some.injEq] at nth
      rw [← next, ← nth]
      exact ⟨rfl, rfl⟩
    · rw [List.getElem?_eq_none (by simp; omega)] at nth
      cases nth

@[simp]
theorem advance_deviceId (dt : ν) (area : Area ν) (state : DeviceState ν) (rng : σ) :
    (advance source dt area state rng).1.deviceId = state.deviceId := rfl

theorem course_deviceId (deviceId : String) (reports : ℕ) :
    (course source settings deviceId reports).state.deviceId = deviceId := by
  induction reports with
  | zero => rfl
  | succ reports ih => exact ih

theorem Follows.deviceId {deviceId : String} {driven : Driven ν σ}
    (follows : driven.Follows source settings deviceId) : driven.state.deviceId = deviceId := by
  have same := congrArg (fun standing => standing.state.deviceId) follows.standing
  exact same.trans (course_deviceId deviceId _)

end Driven

section Heap

namespace Schedule

theorem insertEntry_perm (entry : ν × Fin count) (heap : List (ν × Fin count)) :
    (insertEntry entry heap).Perm (entry :: heap) := by
  induction heap with
  | nil => exact List.Perm.refl _
  | cons head rest ih =>
      rw [insertEntry]
      split
      · exact (ih.cons head).trans (List.Perm.swap entry head rest)
      · exact List.Perm.refl _

/-- The devices that have a deadline. -/
def indices (schedule : Schedule ν count) : List (Fin count) := schedule.heap.map Prod.snd

theorem indices_push (schedule : Schedule ν count) (index : Fin count) (due : ν) :
    (schedule.push index due).indices.Perm (index :: schedule.indices) :=
  (insertEntry_perm (due, index) schedule.heap).map Prod.snd

theorem indices_popDue (schedule : Schedule ν count) (now : ν) :
    (schedule.popDue now).1 ++ (schedule.popDue now).2.indices = schedule.indices := by
  rw [popDue, indices, ← List.map_append, List.takeWhile_append_dropWhile, indices]

end Schedule

end Heap

namespace Devices

variable {devices : Devices ν σ count} {due : List (Fin count)}

/-- The devices are on their courses and none is scheduled twice. -/
structure OnCourse (source : RandomSource ν σ) (settings : FleetSettings ν)
    (devices : Devices ν σ count) : Prop where
  scheduled : devices.schedule.indices.Nodup
  courses : ∀ index, ∃ deviceId, (devices.fleet index).Follows source settings deviceId

section Folds

omit [FloatMath ν]

variable (act : Devices ν σ count → Fin count → Devices ν σ count)

/-- Giving a deadline to one device after another. -/
theorem indices_foldl (pushes : ∀ devices index, (act devices index).schedule.indices.Perm
      (index :: devices.schedule.indices)) (due : List (Fin count))
    (devices : Devices ν σ count) :
    (due.foldl act devices).schedule.indices.Perm (due ++ devices.schedule.indices) := by
  induction due generalizing devices with
  | nil => exact List.Perm.refl _
  | cons index rest ih =>
      have pushed := (pushes devices index).append_left rest
      exact (ih (act devices index)).trans (pushed.trans List.perm_middle)

/-- What acting on one device leaves alone, acting on all of them does. -/
theorem keeps_foldl {β : Type} (field : Devices ν σ count → β)
    (keeps : ∀ devices index, field (act devices index) = field devices)
    (due : List (Fin count)) (devices : Devices ν σ count) :
    field (due.foldl act devices) = field devices := by
  induction due generalizing devices with
  | nil => rfl
  | cons index rest ih => exact (ih (act devices index)).trans (keeps devices index)

/-- Changing one device after another, each of them once. -/
theorem fleet_foldl_update (change : Driven ν σ → Driven ν σ)
    (updates : ∀ devices index, (act devices index).fleet =
      Function.update devices.fleet index (change (devices.fleet index)))
    {due : List (Fin count)} (once : due.Nodup) (devices : Devices ν σ count)
    (index : Fin count) :
    (due.foldl act devices).fleet index =
      if index ∈ due then change (devices.fleet index) else devices.fleet index := by
  induction due generalizing devices with
  | nil => rfl
  | cons first rest ih =>
      obtain ⟨notRest, restOnce⟩ := List.nodup_cons.mp once
      rw [List.foldl_cons, ih restOnce, updates]
      by_cases same : index = first
      · obtain rfl := same
        simp [notRest]
      · simp [same]

end Folds

section Operations

theorem OnCourse.popDue (onCourse : devices.OnCourse source settings) (now : ν) :
    ((devices.popDue now).1 ++ (devices.popDue now).2.schedule.indices).Nodup := by
  have split := devices.schedule.indices_popDue now
  rw [Devices.popDue, split]
  exact onCourse.scheduled

/-- The start gives every device one deadline. -/
theorem indices_start (devices : Devices ν σ count) (now spread : ν) :
    (devices.start source settings now spread).schedule.indices.Perm (List.finRange count) := by
  have armed := indices_foldl (arm source settings now spread)
    (fun devices index => devices.schedule.indices_push index _) (List.finRange count)
    { devices with schedule := ⟨[]⟩ }
  simpa [Devices.start, Schedule.indices] using armed

/-- What is popped and pushed back has the deadlines it had. -/
theorem indices_popDue_foldl {act : Devices ν σ count → Fin count → Devices ν σ count}
    (pushes : ∀ devices index, (act devices index).schedule.indices.Perm
      (index :: devices.schedule.indices))
    (devices : Devices ν σ count) (now : ν) {popped : Devices ν σ count}
    (same : popped.schedule = (devices.popDue now).2.schedule) :
    ((devices.popDue now).1.foldl act popped).schedule.indices.Perm devices.schedule.indices := by
  have pushed := indices_foldl act pushes (devices.popDue now).1 popped
  rw [same] at pushed
  rw [← devices.schedule.indices_popDue now]
  exact pushed

theorem indices_deferAll (devices : Devices ν σ count) (now until_ : ν) :
    ((devices.popDue now).1.foldl (defer source settings until_)
      (devices.popDue now).2).schedule.indices.Perm devices.schedule.indices :=
  indices_popDue_foldl (fun devices index => devices.schedule.indices_push index _) devices now rfl

theorem OnCourse.start (onCourse : devices.OnCourse source settings) (now spread : ν) :
    (devices.start source settings now spread).OnCourse source settings where
  scheduled := by
    rw [(devices.indices_start now spread).nodup_iff]
    exact List.nodup_finRange count
  courses := by
    have kept := keeps_foldl (arm source settings now spread) Devices.fleet (fun _ _ => rfl)
      (List.finRange count) { devices with schedule := ⟨[]⟩ }
    rw [Devices.start, kept]
    exact onCourse.courses

/-- Devices that are held back stay where they are. -/
theorem OnCourse.deferAll (onCourse : devices.OnCourse source settings) (now until_ : ν) :
    ((devices.popDue now).1.foldl (defer source settings until_) (devices.popDue now).2).OnCourse
      source settings where
  scheduled := by
    rw [(devices.indices_deferAll now until_).nodup_iff]
    exact onCourse.scheduled
  courses := by
    have kept := keeps_foldl (defer source settings until_) Devices.fleet (fun _ _ => rfl)
      (devices.popDue now).1 (devices.popDue now).2
    rw [kept]
    exact onCourse.courses

theorem stepAll_snd (moment : ℤ) (due : List (Fin count)) (devices : Devices ν σ count) :
    (devices.stepAll source settings moment due).2 =
      due.foldl (fun devices index => (devices.step source settings moment index).2) devices := by
  induction due generalizing devices with
  | nil => rfl
  | cons index rest ih => exact ih _

/-- What is due reports and draws its next interval; nothing else does. -/
theorem OnCourse.of_reports (onCourse : devices.OnCourse source settings) (now : ν)
    (moment : ℤ) {after : Devices ν σ count}
    (scheduled : after.schedule.indices.Perm devices.schedule.indices)
    (moved : ∀ index, after.fleet index =
      if index ∈ (devices.popDue now).1 then
        ((devices.fleet index).step source settings moment).redraw source settings
      else devices.fleet index) :
    after.OnCourse source settings where
  scheduled := scheduled.nodup_iff.mpr onCourse.scheduled
  courses := by
    intro index
    obtain ⟨deviceId, follows⟩ := onCourse.courses index
    refine ⟨deviceId, ?_⟩
    rw [moved]
    split
    · exact follows.report moment
    · exact follows

theorem indices_reportAll (devices : Devices ν σ count) (now : ν) (moment : ℤ) :
    ((devices.popDue now).1.foldl (reschedule source settings now)
      ((devices.popDue now).2.stepAll source settings moment
        (devices.popDue now).1).2).schedule.indices.Perm devices.schedule.indices := by
  refine indices_popDue_foldl (fun devices index => devices.schedule.indices_push index _)
    devices now ?_
  rw [stepAll_snd]
  exact keeps_foldl (fun devices index => (Devices.step source settings moment devices index).2)
    Devices.schedule (fun _ _ => rfl) _ _

/-- A worker steps all devices that are due and then reschedules them. -/
theorem OnCourse.reportAll (onCourse : devices.OnCourse source settings) (now : ν) (moment : ℤ) :
    ((devices.popDue now).1.foldl (reschedule source settings now)
      ((devices.popDue now).2.stepAll source settings moment (devices.popDue now).1).2).OnCourse
      source settings := by
  have once := (onCourse.popDue now).of_append_left
  apply onCourse.of_reports now moment
  · exact devices.indices_reportAll now moment
  · intro index
    rw [stepAll_snd, fleet_foldl_update _ (Driven.redraw source settings) (fun _ _ => rfl) once,
      fleet_foldl_update _ (Driven.step source settings moment) (fun _ _ => rfl) once]
    split <;> rfl

/-- The producer reschedules each device as soon as it has reported. -/
theorem produceDue_fst (config : LoadConfig ν) (now : ν) (moment : ℤ) (due : List (Fin count))
    (devices : Devices ν σ count) (batcher : Batcher ν) :
    (HttpRunner.produceDue source config now moment due devices batcher).1 =
      due.foldl (fun devices index =>
        (devices.step source config.toFleetSettings moment index).2.reschedule source
          config.toFleetSettings now index) devices := by
  induction due generalizing devices batcher with
  | nil => rfl
  | cons index rest ih => exact ih ..

theorem indices_produceDue (config : LoadConfig ν) (devices : Devices ν σ count) (now : ν)
    (moment : ℤ) (batcher : Batcher ν) :
    (HttpRunner.produceDue source config now moment (devices.popDue now).1
      (devices.popDue now).2 batcher).1.schedule.indices.Perm devices.schedule.indices := by
  rw [produceDue_fst]
  exact indices_popDue_foldl (fun devices index => devices.schedule.indices_push index _)
    devices now rfl

theorem OnCourse.produceDue {config : LoadConfig ν}
    (onCourse : devices.OnCourse source config.toFleetSettings) (now : ν) (moment : ℤ)
    (batcher : Batcher ν) :
    (HttpRunner.produceDue source config now moment (devices.popDue now).1
      (devices.popDue now).2 batcher).1.OnCourse source config.toFleetSettings := by
  have once := (onCourse.popDue now).of_append_left
  apply onCourse.of_reports now moment
  · exact devices.indices_produceDue config now moment batcher
  · intro index
    rw [produceDue_fst, fleet_foldl_update _ (fun driven =>
      (driven.step source config.toFleetSettings moment).redraw source config.toFleetSettings)
      ?_ once]
    · rfl
    · intro devices index
      simp [Devices.step, Devices.reschedule]

theorem init_onCourse {states : List (DeviceState ν)}
    (placed : ∀ state ∈ states, ∃ deviceId,
      state = placeDevice source settings.area settings.seed deviceId) (rng : σ) :
    (init source settings states rng).OnCourse source settings where
  scheduled := List.nodup_nil
  courses := by
    intro index
    obtain ⟨deviceId, isPlaced⟩ := placed _ (states.get_mem index)
    refine ⟨deviceId, ?_, nofun⟩
    simp only [init, isPlaced]
    rfl

end Operations

end Devices

section Tasks

variable {config : LoadConfig ν} {stats counted : LoadStats}

theorem sendNext_onCourse {worker : WebsocketWorker ν σ}
    (onCourse : worker.devices.OnCourse source settings) (now : ν) (undelivered : ℕ)
    (chunks : List (List (Report ν))) :
    (worker.sendNext now undelivered chunks).devices.OnCourse source settings := by
  cases chunks with
  | nil => exact onCourse
  | cons chunk more => exact onCourse

theorem wake_onCourse (stats : LoadStats) {worker : WebsocketWorker ν σ}
    (onCourse : worker.devices.OnCourse source config.toFleetSettings) (now : ν) (moment : ℤ) :
    (worker.wake source config now moment stats).2.devices.OnCourse source
      config.toFleetSettings := by
  unfold WebsocketWorker.wake
  have popped := onCourse.popDue now
  simp only
  by_cases nothing : (worker.devices.popDue now).1 = []
  case pos =>
      rw [nothing, List.nil_append] at popped
      rw [if_pos nothing]
      exact ⟨popped, onCourse.courses⟩
  case neg =>
      rw [if_neg nothing]
      by_cases throttled : lt (literal 0) (worker.pauseUntil - now) = true
      case pos =>
          rw [if_pos throttled]
          exact onCourse.deferAll now _
      case neg =>
          rw [if_neg throttled]
          apply sendNext_onCourse
          exact onCourse.reportAll now moment

theorem handle_onCourse (stats : LoadStats) {worker : WebsocketWorker ν σ}
    (onCourse : worker.devices.OnCourse source settings) (now : ν) (frame : IngestFrame ν) :
    (worker.handle now stats frame).2.devices.OnCourse source settings := by
  cases frame with
  | ack seq accepted =>
      cases seq with
      | none => exact onCourse
      | some seq => exact onCourse
  | _ => exact onCourse

theorem claim_onCourse {devices armed : Devices ν σ count}
    (onCourse : devices.OnCourse source settings) {now spread : ν}
    (claimed : devices.claim source settings now spread = some armed) :
    armed.OnCourse source settings := by
  unfold Devices.claim at claimed
  split at claimed
  case isTrue => cases claimed
  case isFalse =>
      obtain rfl := Option.some.inj claimed
      have driving : { devices with driving := true }.OnCourse source settings :=
        ⟨onCourse.scheduled, onCourse.courses⟩
      exact driving.start now spread

theorem worker_onCourse {worker after : WebsocketWorker ν σ} {event : WorkerEvent ν}
    (onCourse : worker.devices.OnCourse source config.toFleetSettings)
    (stepTo : worker.step source config stats event = some (counted, after)) :
    after.devices.OnCourse source config.toFleetSettings := by
  cases WebsocketWorker.moves_of_step stepTo with
  | started waiting claimed => exact claim_onCourse onCourse claimed
  | unclaimed => exact onCourse
  | woken idle => exact wake_onCourse stats onCourse _ _
  | sent sending => exact sendNext_onCourse onCourse ..
  | received online => exact handle_onCourse stats onCourse _ _
  | connected | connectFails | sendFails | crashed | cancelled =>
      exact ⟨onCourse.scheduled, onCourse.courses⟩

theorem producer_onCourse {runner after : HttpRunner ν σ} {event : ProducerEvent ν}
    (onCourse : runner.devices.OnCourse source config.toFleetSettings)
    (stepTo : runner.stepProducer source config stats event = some (counted, after)) :
    after.devices.OnCourse source config.toFleetSettings := by
  cases HttpRunner.moves_of_stepProducer stepTo with
  | started waiting claimed => exact claim_onCourse onCourse claimed
  | unclaimed => exact onCourse
  | @woken now moment batcher driving => exact onCourse.produceDue now moment batcher
  | crashed | cancelled => exact ⟨onCourse.scheduled, onCourse.courses⟩

end Tasks

namespace LoadGenerator

variable {config : LoadConfig ν} {generator after : LoadGenerator ν σ}

/-- Every slice of the fleet is on its course. -/
def OnCourse (source : RandomSource ν σ) (config : LoadConfig ν) (generator : LoadGenerator ν σ) :
    Prop :=
  match generator.workload with
  | .ws workers => ∀ worker ∈ workers, worker.devices.OnCourse source config.toFleetSettings
  | .http runner => runner.devices.OnCourse source config.toFleetSettings

theorem placed_of_mem_buildFleet {number : ℕ} {devicePrefix : String} {area : Area ν} {seed : ℤ}
    {state : DeviceState ν} (listed : state ∈ buildFleet source number devicePrefix area seed) :
    ∃ deviceId, state = placeDevice source area seed deviceId := by
  obtain ⟨index, -, rfl⟩ := List.mem_map.mp listed
  exact ⟨_, rfl⟩

theorem fresh_onCourse (source : RandomSource ν σ) (config : LoadConfig ν) :
    (fresh source config).OnCourse source config := by
  unfold OnCourse fresh
  cases config.transport with
  | ws =>
      intro worker listed
      obtain ⟨index, -, rfl⟩ := List.mem_map.mp listed
      apply Devices.init_onCourse
      intro state inSlice
      obtain ⟨place, -, chosen⟩ := List.mem_filterMap.mp inSlice
      split at chosen
      case isFalse => cases chosen
      case isTrue => exact placed_of_mem_buildFleet (List.mem_of_getElem? chosen)
  | http => exact Devices.init_onCourse (fun _ listed => placed_of_mem_buildFleet listed) _

theorem OnCourse.step (onCourse : generator.OnCourse source config) {event : LoadEvent ν}
    (stepTo : generator.step source config event = some after) :
    after.OnCourse source config := by
  obtain ⟨stats, workload, summary⟩ := generator
  obtain ⟨running, moves⟩ := moves_of_step stepTo
  cases running
  cases moves with
  | @worker workers index event worker moved counted found workerTo =>
      intro other listed
      rcases List.mem_or_eq_of_mem_set listed with unmoved | rfl
      · exact onCourse other unmoved
      · exact worker_onCourse (onCourse worker (List.mem_of_getElem? found)) workerTo
  | producer producerTo => exact producer_onCourse onCourse producerTo
  | sender found senderTo => exact onCourse
  | finish allDone => exact onCourse

/-- The run has this device, with its reports so far. -/
def Drives (generator : LoadGenerator ν σ) (driven : Driven ν σ) : Prop :=
  match generator.workload with
  | .ws workers => ∃ worker ∈ workers, ∃ index, worker.devices.fleet index = driven
  | .http runner => ∃ index, runner.devices.fleet index = driven

theorem OnCourse.follows (onCourse : generator.OnCourse source config) {driven : Driven ν σ}
    (drives : generator.Drives driven) :
    driven.Follows source config.toFleetSettings driven.state.deviceId := by
  have some_ : ∃ deviceId, driven.Follows source config.toFleetSettings deviceId := by
    obtain ⟨stats, workload, summary⟩ := generator
    cases workload with
    | ws workers =>
        obtain ⟨worker, listed, index, rfl⟩ := drives
        exact (onCourse worker listed).courses index
    | http runner =>
        obtain ⟨index, rfl⟩ := drives
        exact onCourse.courses index
  obtain ⟨deviceId, follows⟩ := some_
  exact follows.deviceId ▸ follows

theorem onCourse_of_run {events : List (LoadEvent ν)}
    (run : Run (step source config) Anything (fresh source config) events generator) :
    generator.OnCourse source config := by
  induction run with
  | nil => exact fresh_onCourse source config
  | snoc _ _ stepTo ih => exact ih.step stepTo

/-- Two runs with one seed, area and interval report the same coordinates of the
same device. -/
theorem seed_fixes_trajectories {first second : LoadConfig ν}
    (sameSettings : first.toFleetSettings = second.toFleetSettings)
    {firstEvents secondEvents : List (LoadEvent ν)} {one two : LoadGenerator ν σ}
    (firstRun : Run (step source first) Anything (fresh source first) firstEvents one)
    (secondRun : Run (step source second) Anything (fresh source second) secondEvents two)
    {driven other : Driven ν σ} (drives : one.Drives driven) (otherDrives : two.Drives other)
    (sameDevice : driven.state.deviceId = other.state.deviceId) {n : ℕ}
    {report otherReport : Report ν} (nth : driven.reported[n]? = some report)
    (otherNth : other.reported[n]? = some otherReport) :
    report.latitude = otherReport.latitude ∧ report.longitude = otherReport.longitude := by
  have follows := (onCourse_of_run firstRun).follows drives
  have otherFollows := (onCourse_of_run secondRun).follows otherDrives
  obtain ⟨lat, lon⟩ := follows.reports n report nth
  obtain ⟨otherLat, otherLon⟩ := otherFollows.reports n otherReport otherNth
  rw [lat, lon, otherLat, otherLon, sameSettings, sameDevice]
  exact ⟨rfl, rfl⟩

section Transports

/-- The first device of the run. -/
def firstDevice (generator : LoadGenerator ν σ) : Option (Driven ν σ) :=
  match generator.workload with
  | .ws workers => workers.head?.bind fun worker =>
      (List.finRange worker.count).head?.map worker.devices.fleet
  | .http runner => (List.finRange runner.count).head?.map runner.devices.fleet

omit [FloatMath ν] in
theorem drives_of_firstDevice {driven : Driven ν σ}
    (first : generator.firstDevice = some driven) : generator.Drives driven := by
  obtain ⟨stats, workload, summary⟩ := generator
  cases workload with
  | ws workers =>
      obtain ⟨worker, head, found⟩ := Option.bind_eq_some_iff.mp first
      obtain ⟨index, -, same⟩ := Option.map_eq_some_iff.mp found
      exact ⟨worker, List.mem_of_head? head, index, same⟩
  | http runner =>
      obtain ⟨index, -, same⟩ := Option.map_eq_some_iff.mp first
      exact ⟨index, same⟩

/-- A worker that is throttled, loses its connection and is restarted. -/
def restartedRun : List (LoadEvent Exact) :=
  [.worker 0 (.start ⟨0⟩), .worker 0 .connected, .worker 0 (.wake ⟨10⟩ 0),
    .worker 0 (.receive ⟨10⟩ (.throttle (some ⟨5000⟩))), .worker 0 .sendFails,
    .worker 0 .connected, .worker 0 (.wake ⟨14⟩ 1), .worker 0 .crash, .worker 0 (.start ⟨20⟩),
    .worker 0 .connected, .worker 0 (.wake ⟨30⟩ 2)]

def batchedRun : List (LoadEvent Exact) :=
  [.producer (.start ⟨0⟩), .producer (.wake ⟨40⟩ 7), .producer (.wake ⟨50⟩ 8)]

theorem seed_fixes_trajectories_transports :
    ∃ one two driven other report otherReport,
      Run (step middle overSockets) Anything (fresh middle overSockets) restartedRun one ∧
      Run (step middle overHttp) Anything (fresh middle overHttp) batchedRun two ∧
      one.Drives driven ∧ two.Drives other ∧ driven.reported[1]? = some report ∧
      other.reported[1]? = some otherReport ∧ report.latitude = otherReport.latitude ∧
      report.longitude = otherReport.longitude := by
  obtain ⟨one, executed, drives⟩ : ∃ one,
      exec (step middle overSockets) Anything (fresh middle overSockets) restartedRun =
        some one ∧ (one.firstDevice.any fun driven =>
          driven.state.deviceId = "dev-00000" && driven.reported.length = 2) = true := by
    apply exists_of_exec
    decide +kernel
  obtain ⟨two, otherExecuted, otherDrives⟩ : ∃ two,
      exec (step middle overHttp) Anything (fresh middle overHttp) batchedRun =
        some two ∧ (two.firstDevice.any fun driven =>
          driven.state.deviceId = "dev-00000" && driven.reported.length = 2) = true := by
    apply exists_of_exec
    decide +kernel
  obtain ⟨driven, first, reported⟩ := (Option.any_eq_true _ _).mp drives
  obtain ⟨other, otherFirst, otherReported⟩ := (Option.any_eq_true _ _).mp otherDrives
  simp only [Bool.and_eq_true, decide_eq_true_eq] at reported otherReported
  have nth := List.getElem?_eq_getElem (l := driven.reported) (i := 1) (by omega)
  have otherNth := List.getElem?_eq_getElem (l := other.reported) (i := 1) (by omega)
  have run := run_of_exec executed
  have otherRun := run_of_exec otherExecuted
  have drives := drives_of_firstDevice first
  have otherDrives := drives_of_firstDevice otherFirst
  have sameSettings : overSockets.toFleetSettings = overHttp.toFleetSettings := rfl
  have same := seed_fixes_trajectories sameSettings run otherRun drives otherDrives
    (reported.1.trans otherReported.1.symm) nth otherNth
  exact ⟨one, two, driven, other, _, _, run, otherRun, drives, otherDrives, nth,
    otherNth, same⟩

end Transports

end LoadGenerator

end GeoTrack
