import GeoTrack.SeededTrajectories

/-!
# One deadline for each device

While a task drives a slice of the fleet, each device of the slice stands in
the schedule exactly once.  A round takes the devices that are due out of the
schedule and puts each of them back before the task awaits anything, whether it
has reported or is held back, and a task that comes back lays the schedule out
anew.
-/

namespace GeoTrack

open FloatMath LabelledRuns

variable {ν σ : Type} [FloatMath ν] {source : RandomSource ν σ} {config : LoadConfig ν}
  {stats counted : LoadStats} {count : ℕ}

/-- The worker has claimed its slice. -/
def WorkerStage.drives : WorkerStage ν → Bool
  | .waiting => false
  | .connecting => true
  | .idle => true
  | .sending _ _ _ => true
  | .cancelled => false

/-- The producer has claimed the fleet. -/
def ProducerStage.drives : ProducerStage ν → Bool
  | .waiting => false
  | .driving _ => true
  | .cancelled => false

namespace Devices

/-- The fleet knows whether a task drives it; while one does, each device has
one deadline and no other device has any. -/
structure Punctual (devices : Devices ν σ count) (driven : Bool) : Prop where
  owner : devices.driving = driven
  deadlines : driven = true → devices.schedule.indices.Perm (List.finRange count)

variable {devices after : Devices ν σ count} {driven : Bool}

/-- What is due at any time is due once. -/
theorem Punctual.due_once (punctual : devices.Punctual true) (now : ν) :
    (devices.popDue now).1.Nodup := by
  have split := devices.schedule.indices_popDue now
  have once : devices.schedule.indices.Nodup :=
    (punctual.deadlines rfl).nodup_iff.mpr (List.nodup_finRange count)
  rw [← split] at once
  exact once.of_append_left

omit [FloatMath ν] in
theorem Punctual.rearrange (punctual : devices.Punctual driven)
    (sameOwner : after.driving = devices.driving)
    (rearranged : after.schedule.indices.Perm devices.schedule.indices) :
    after.Punctual driven where
  owner := sameOwner.trans punctual.owner
  deadlines := fun isDriven => rearranged.trans (punctual.deadlines isDriven)

omit [FloatMath ν] in
theorem punctual_release (devices : Devices ν σ count) : devices.release.Punctual false where
  owner := rfl
  deadlines := nofun

omit [FloatMath ν] in
theorem punctual_init (states : List (DeviceState ν)) (rng : σ) :
    (init source config.toFleetSettings states rng).Punctual false where
  owner := rfl
  deadlines := nofun

theorem punctual_claim {now spread : ν}
    (claimed : devices.claim source config.toFleetSettings now spread = some after) :
    after.Punctual true := by
  unfold claim at claimed
  split at claimed
  case isTrue => cases claimed
  case isFalse =>
      obtain rfl := Option.some.inj claimed
      refine ⟨?_, fun _ => indices_start _ now spread⟩
      exact keeps_foldl (arm source config.toFleetSettings now spread) Devices.driving
        (fun _ _ => rfl) _ _

section Rounds

variable (punctual : devices.Punctual driven) (now : ν)
include punctual

theorem Punctual.popNone (nothing : (devices.popDue now).1 = []) :
    (devices.popDue now).2.Punctual driven := by
  refine punctual.rearrange rfl ?_
  have split := devices.schedule.indices_popDue now
  rw [popDue] at nothing
  rw [nothing, List.nil_append] at split
  exact List.Perm.of_eq split

theorem Punctual.deferAll (until_ : ν) :
    ((devices.popDue now).1.foldl (defer source config.toFleetSettings until_)
      (devices.popDue now).2).Punctual driven :=
  punctual.rearrange (keeps_foldl (defer source config.toFleetSettings until_) Devices.driving
    (fun _ _ => rfl) _ _) (devices.indices_deferAll now until_)

theorem Punctual.reportAll (moment : ℤ) :
    ((devices.popDue now).1.foldl (reschedule source config.toFleetSettings now)
      ((devices.popDue now).2.stepAll source config.toFleetSettings moment
        (devices.popDue now).1).2).Punctual driven := by
  refine punctual.rearrange ?_ (devices.indices_reportAll now moment)
  rw [stepAll_snd, keeps_foldl (reschedule source config.toFleetSettings now) Devices.driving
    (fun _ _ => rfl)]
  exact keeps_foldl
    (fun devices index => (step source config.toFleetSettings moment devices index).2)
    Devices.driving (fun _ _ => rfl) _ _

theorem Punctual.produceDue (source : RandomSource ν σ) (config : LoadConfig ν) (moment : ℤ)
    (batcher : Batcher ν) :
    (HttpRunner.produceDue source config now moment (devices.popDue now).1
      (devices.popDue now).2 batcher).1.Punctual driven := by
  refine punctual.rearrange ?_ (devices.indices_produceDue config now moment batcher)
  rw [produceDue_fst]
  exact keeps_foldl (fun devices index =>
    (devices.step source config.toFleetSettings moment index).2.reschedule source
      config.toFleetSettings now index) Devices.driving (fun _ _ => rfl) _ _

end Rounds

end Devices

section Tasks

omit [FloatMath ν] in
theorem sendNext_punctual {worker : WebsocketWorker ν σ} (punctual : worker.devices.Punctual true)
    (now : ν) (undelivered : ℕ) (chunks : List (List (Report ν))) :
    (worker.sendNext now undelivered chunks).devices.Punctual
      (worker.sendNext now undelivered chunks).stage.drives := by
  cases chunks with
  | nil => exact punctual
  | cons chunk more => exact punctual

theorem wake_punctual (source : RandomSource ν σ) (config : LoadConfig ν) (stats : LoadStats)
    {worker : WebsocketWorker ν σ}
    (punctual : worker.devices.Punctual true) (idle : worker.stage.drives = true) (now : ν)
    (moment : ℤ) :
    (worker.wake source config now moment stats).2.devices.Punctual
      (worker.wake source config now moment stats).2.stage.drives := by
  unfold WebsocketWorker.wake
  simp only
  by_cases nothing : (worker.devices.popDue now).1 = []
  case pos =>
      rw [if_pos nothing, idle]
      exact punctual.popNone now nothing
  case neg =>
      rw [if_neg nothing]
      by_cases throttled : lt (literal 0) (worker.pauseUntil - now) = true
      case pos =>
          rw [if_pos throttled, idle]
          exact punctual.deferAll now _
      case neg =>
          rw [if_neg throttled]
          exact sendNext_punctual (punctual.reportAll now moment) ..

theorem handle_punctual (stats : LoadStats) {worker : WebsocketWorker ν σ}
    (punctual : worker.devices.Punctual worker.stage.drives) (now : ν) (frame : IngestFrame ν) :
    (worker.handle now stats frame).2.devices.Punctual
      (worker.handle now stats frame).2.stage.drives := by
  cases frame with
  | ack seq accepted =>
      cases seq with
      | none => exact punctual
      | some seq => exact punctual
  | _ => exact punctual

theorem worker_punctual {worker after : WebsocketWorker ν σ} {event : WorkerEvent ν}
    (punctual : worker.devices.Punctual worker.stage.drives)
    (stepTo : worker.step source config stats event = some (counted, after)) :
    after.devices.Punctual after.stage.drives := by
  cases WebsocketWorker.moves_of_step stepTo with
  | started waiting claimed => exact Devices.punctual_claim claimed
  | unclaimed => exact punctual
  | woken idle =>
      have drives : worker.stage.drives = true := by rw [idle]; rfl
      rw [drives] at punctual
      exact wake_punctual source config stats punctual drives _ _
  | sent sending =>
      rw [sending] at punctual
      exact sendNext_punctual punctual ..
  | received online => exact handle_punctual stats punctual _ _
  | connected stage | connectFails stage | sendFails stage =>
      rw [stage] at punctual
      exact punctual.rearrange rfl (List.Perm.refl _)
  | crashed | cancelled => exact Devices.punctual_release _

theorem producer_punctual {runner after : HttpRunner ν σ} {event : ProducerEvent ν}
    (punctual : runner.devices.Punctual runner.producer.drives)
    (stepTo : runner.stepProducer source config stats event = some (counted, after)) :
    after.devices.Punctual after.producer.drives := by
  cases HttpRunner.moves_of_stepProducer stepTo with
  | started waiting claimed => exact Devices.punctual_claim claimed
  | unclaimed => exact punctual
  | @woken now moment batcher driving =>
      rw [driving] at punctual
      exact punctual.produceDue now source config moment batcher
  | crashed | cancelled => exact Devices.punctual_release _

end Tasks

namespace LoadGenerator

variable {generator after : LoadGenerator ν σ}

/-- Every fleet of the run is punctual. -/
def Punctual (generator : LoadGenerator ν σ) : Prop :=
  match generator.workload with
  | .ws workers => ∀ worker ∈ workers, worker.devices.Punctual worker.stage.drives
  | .http runner => runner.devices.Punctual runner.producer.drives

theorem fresh_punctual (source : RandomSource ν σ) (config : LoadConfig ν) :
    (fresh source config).Punctual := by
  unfold Punctual fresh
  cases config.transport with
  | ws =>
      intro worker listed
      obtain ⟨index, -, rfl⟩ := List.mem_map.mp listed
      exact Devices.punctual_init _ _
  | http => exact Devices.punctual_init _ _

theorem Punctual.step (punctual : generator.Punctual) {event : LoadEvent ν}
    (stepTo : generator.step source config event = some after) : after.Punctual := by
  obtain ⟨stats, workload, summary⟩ := generator
  obtain ⟨running, moves⟩ := moves_of_step stepTo
  cases running
  cases moves with
  | @worker workers index event worker moved counted found workerTo =>
      intro other listed
      rcases List.mem_or_eq_of_mem_set listed with unmoved | rfl
      · exact punctual other unmoved
      · exact worker_punctual (punctual worker (List.mem_of_getElem? found)) workerTo
  | producer producerTo => exact producer_punctual punctual producerTo
  | sender found senderTo => exact punctual
  | finish allDone => exact punctual

theorem punctual_of_run {events : List (LoadEvent ν)}
    (run : Run (step source config) Anything (fresh source config) events generator) :
    generator.Punctual :=
  run.invariant (fresh_punctual source config) fun _ _ _ punctual _ stepTo => punctual.step stepTo

/-- The fleets of a run, each with whether the task that owns it drives it. -/
def fleets (generator : LoadGenerator ν σ) : List (Σ count, Devices ν σ count × Bool) :=
  match generator.workload with
  | .ws workers => workers.map fun worker => ⟨worker.count, worker.devices, worker.stage.drives⟩
  | .http runner => [⟨runner.count, runner.devices, runner.producer.drives⟩]

/-- Wherever a run has got to, a fleet knows whether it is driven; while it is,
its schedule holds one entry for each device and no other, so that whatever is
due at some time is due once. -/
theorem driven_fleets_have_one_deadline_each {events : List (LoadEvent ν)}
    (run : Run (step source config) Anything (fresh source config) events generator)
    {count : ℕ} {devices : Devices ν σ count} {driven : Bool}
    (listed : ⟨count, devices, driven⟩ ∈ generator.fleets) :
    devices.driving = driven ∧
      (devices.driving = true →
        devices.schedule.indices.Perm (List.finRange count) ∧
          ∀ now, (devices.popDue now).1.Nodup) := by
  have punctual : devices.Punctual driven := by
    have all := punctual_of_run run
    obtain ⟨stats, workload, summary⟩ := generator
    cases workload with
    | ws workers =>
        obtain ⟨worker, isWorker, same⟩ := List.mem_map.mp listed
        cases same
        exact all worker isWorker
    | http runner =>
        cases List.mem_singleton.mp listed
        exact all
  refine ⟨punctual.owner, fun isDriven => ?_⟩
  obtain rfl : driven = true := punctual.owner.symm.trans isDriven
  exact ⟨punctual.deadlines rfl, punctual.due_once⟩

/-- A worker that was throttled and lost its connection comes back after a
crash. -/
theorem driven_fleets_have_one_deadline_each_restarted :
    ∃ generator, Run (step middle overSockets) Anything (fresh middle overSockets) restartedRun
        generator ∧
      ∃ count, ∃ devices : Devices Exact Unit count, ⟨count, devices, true⟩ ∈ generator.fleets ∧
        devices.driving = true ∧
          (devices.driving = true →
            devices.schedule.indices.Perm (List.finRange count) ∧
              ∀ now, (devices.popDue now).1.Nodup) := by
  obtain ⟨generator, executed, drives⟩ : ∃ generator,
      exec (step middle overSockets) Anything (fresh middle overSockets) restartedRun =
        some generator ∧ (generator.fleets.any fun fleet => fleet.2.2) = true := by
    apply exists_of_exec
    decide +kernel
  obtain ⟨⟨count, devices, driven⟩, listed, isDriven⟩ := List.any_eq_true.mp drives
  obtain rfl : driven = true := isDriven
  have run := run_of_exec executed
  exact ⟨generator, run, count, devices, listed, driven_fleets_have_one_deadline_each run listed⟩

end LoadGenerator

end GeoTrack
