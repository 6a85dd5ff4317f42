import GeoTrack.FairShare
import GeoTrack.LabelledRuns
import GeoTrack.OrderedDict

/-!
# The service of a processor replica

One replica runs a control loop that decides which shards to hold, a loop that
renews the leases, a reader for each shard it holds and a drain for each shard it
has let go of.  All of them share two dictionaries: the shards that are read and
the shards that wind down.  Redis is apart: a command takes effect when it
executes there, and its caller learns of it later, or never.

Time does not appear.  A wait with a limit may end at any moment, a lease may
expire at any moment, and other replicas take and give back what they like.
-/

namespace GeoTrack

open LabelledRuns

/-- A `ShardConsumer.run` task. -/
structure ReaderTask where
  shard : ℕ
  finished : Bool
deriving DecidableEq

/-- The record of a shard that winds down. -/
structure Draining where
  reader : ℕ
  drain : ℕ
  /-- Whether the lease is ours to give back. -/
  release : Bool
deriving DecidableEq

/-- Where a `_drain` task is suspended. -/
inductive DrainStage where
  | waiting
  /-- After cancelling the reader. -/
  | grace
  /-- The release is on its way; then its answer is. -/
  | releasing
  | returning
  | ended
deriving DecidableEq

structure DrainTask where
  shard : ℕ
  reader : ℕ
  stage : DrainStage
deriving DecidableEq

/-- The tasks of the replica and the two dictionaries over them. -/
structure ShardRecords where
  tasks : Dict ℕ ReaderTask
  nextTask : ℕ
  consumers : Dict ℕ ℕ
  draining : Dict ℕ Draining
  drains : Dict ℕ DrainTask
  nextDrain : ℕ

namespace ShardRecords

def isDone (records : ShardRecords) (task : ℕ) : Bool :=
  (records.tasks.get? task).all ReaderTask.finished

def startConsumer (records : ShardRecords) (shard : ℕ) : ShardRecords :=
  { records with
    tasks := records.tasks.set records.nextTask ⟨shard, false⟩
    nextTask := records.nextTask + 1
    consumers := records.consumers.set shard records.nextTask }

def beginDrain (release : Bool) (records : ShardRecords) (shard : ℕ) : ShardRecords :=
  match records.consumers.get? shard with
  | none => records
  | some reader =>
      { records with
        consumers := records.consumers.erase shard
        draining := records.draining.set shard ⟨reader, records.nextDrain, release⟩
        drains := records.drains.set records.nextDrain ⟨shard, reader, .waiting⟩
        nextDrain := records.nextDrain + 1 }

/-- `_reap_finished_consumers`. -/
def reapFinishedConsumers (records : ShardRecords) : ShardRecords :=
  ((records.consumers.entries.filter fun entry => records.isDone entry.2).map Prod.fst).foldl
    (beginDrain true) records

/-- What `renew_leases` does about a shard whose lease was not renewed. -/
def loseLease (records : ShardRecords) (shard : ℕ) : ShardRecords :=
  match records.draining.get? shard with
  | some record =>
      { records with draining := records.draining.set shard { record with release := false } }
  | none => records.beginDrain false shard

/-- The end of `_drain` up to its release. -/
def dropRecord (records : ShardRecords) (drain : ℕ) (task : DrainTask) : ShardRecords :=
  { records with
    draining := records.draining.erase task.shard
    drains := records.drains.set drain { task with
      stage := if (records.draining.get? task.shard).any Draining.release then .releasing
        else .ended } }

def drainTo (records : ShardRecords) (drain : ℕ) (task : DrainTask) (stage : DrainStage) :
    ShardRecords :=
  { records with drains := records.drains.set drain { task with stage := stage } }

end ShardRecords

/-- Where the control loop is suspended. -/
inductive ControlStage where
  | sleeping
  /-- In the heartbeat, with the shards owned when it began. -/
  | planning (owned : List ℕ)
  /-- In `acquire`, with what Redis has answered, the candidates after this one
  and the number of shards to stop at. -/
  | acquiring (shard : ℕ) (answer : Option Bool) (rest : List ℕ) (target : ℕ)
  | cancelled
deriving DecidableEq

/-- Where the renew loop is suspended. -/
inductive RenewStage where
  | sleeping
  /-- In `gather`, with what Redis has answered so far. -/
  | renewing (shards : List ℕ) (verdicts : Dict ℕ Bool)
  | cancelled

/-- Where `stop` is suspended. -/
inductive ShutdownStage where
  | running
  /-- The loops are cancelled. -/
  | cancelling
  /-- In `_await_drains`, with the shards to release after it. -/
  | awaiting (held drains : List ℕ)
  | gathering (held drains : List ℕ)
  | releasing (rest : List ℕ)
  | stopped
deriving DecidableEq

structure ProcessorService where
  /-- The shards with a lease, and whether it names this instance. -/
  leases : Dict ℕ Bool
  records : ShardRecords
  control : ControlStage
  renewal : RenewStage
  shutdown : ShutdownStage
  /-- Commands to take a lease whose caller is gone. -/
  inFlight : List ℕ

inductive ServiceEvent where
  /-- A round of the control loop begins, and its heartbeat is answered. -/
  | reconcile
  | planned (live : ℕ)
  /-- The `SET NX` of the round executes, and its answer arrives. -/
  | setExecutes
  | answered
  /-- The heartbeat or the `SET NX` fails for the caller. -/
  | reconcileFails
  /-- A `SET NX` executes whose caller is gone. -/
  | lateSet (shard : ℕ)
  /-- `renew_leases` begins, a renewal executes, all of them are answered. -/
  | renew
  | renewExecutes (shard : ℕ)
  | renewed
  | renewFails
  | expire (shard : ℕ)
  /-- Another replica takes a free lease, or gives one back. -/
  | taken (shard : ℕ)
  | given (shard : ℕ)
  | finish (task : ℕ)
  /-- The first wait of a drain ends, and the one after the cancellation. -/
  | waitEnds (drain : ℕ)
  | graceEnds (drain : ℕ)
  | releaseExecutes (drain : ℕ)
  | releaseReturns (drain : ℕ)
  /-- `stop` is called, its loops are gone, its wait for the drains is over, the
  drains are gone, and its next release executes. -/
  | stop
  | collect
  | drainsWaited
  | gathered
  | stopReleases
deriving DecidableEq

namespace ProcessorService

def fresh : ProcessorService where
  leases := ∅
  records := ⟨∅, 0, ∅, ∅, ∅, 0⟩
  control := .sleeping
  renewal := .sleeping
  shutdown := .running
  inFlight := []

/-- The loop over the candidates, up to the next `acquire`. -/
def nextCandidate (records : ShardRecords) (target : ℕ) : List ℕ → ControlStage
  | [] => .sleeping
  | shard :: rest =>
      if records.consumers.size ≥ target then .sleeping
      else if shard ∈ records.draining then nextCandidate records target rest
      else .acquiring shard none rest target

/-- `RELEASE_SCRIPT`. -/
def released (leases : Dict ℕ Bool) (shard : ℕ) : Dict ℕ Bool :=
  if leases.get? shard = some true then leases.erase shard else leases

def renewable (records : ShardRecords) : List ℕ :=
  records.consumers.keys ++
    (records.draining.entries.filter fun entry => entry.2.release).map Prod.fst

/-- The shards whose renewal found the lease gone. -/
def lost (shards : List ℕ) (verdicts : Dict ℕ Bool) : List ℕ :=
  shards.filter fun shard => verdicts.get? shard = some false

variable (shards offset : ℕ)

/-- The control loop. -/
def stepControl (service : ProcessorService) : ServiceEvent → Option ProcessorService
  | .reconcile =>
      match service.control with
      | .sleeping =>
          some { service with
            records := service.records.reapFinishedConsumers
            control := .planning service.records.reapFinishedConsumers.consumers.keys }
      | _ => none
  | .planned live =>
      match service.control with
      | .planning owned =>
          let plan := fairSharePlan shards owned live offset
          let records := plan.release.foldl (ShardRecords.beginDrain true) service.records
          some { service with
            records := records
            control := nextCandidate records plan.target plan.candidates }
      | _ => none
  | .setExecutes =>
      match service.control with
      | .acquiring shard none rest target =>
          if shard ∈ service.leases then
            some { service with control := .acquiring shard (some false) rest target }
          else
            some { service with
              leases := service.leases.set shard true
              control := .acquiring shard (some true) rest target }
      | _ => none
  | .answered =>
      match service.control with
      | .acquiring shard (some taken) rest target =>
          let records := if taken then service.records.startConsumer shard else service.records
          some { service with
            records := records
            control := nextCandidate records target rest }
      | _ => none
  | .reconcileFails =>
      match service.control with
      | .planning _ | .acquiring _ (some _) _ _ => some { service with control := .sleeping }
      | .acquiring shard none _ _ =>
          some { service with control := .sleeping, inFlight := shard :: service.inFlight }
      | _ => none
  | _ => none

/-- The renew loop. -/
def stepRenewal (service : ProcessorService) : ServiceEvent → Option ProcessorService
  | .renew =>
      match service.renewal with
      | .sleeping =>
          some { service with
            renewal := if renewable service.records = [] then .sleeping
              else .renewing (renewable service.records) ∅ }
      | _ => none
  | .renewExecutes shard =>
      match service.renewal with
      | .renewing shards verdicts =>
          if shard ∈ shards ∧ shard ∉ verdicts then
            some { service with
              renewal := .renewing shards
                (verdicts.set shard (service.leases.get? shard = some true)) }
          else
            none
      | _ => none
  | .renewed =>
      match service.renewal with
      | .renewing shards verdicts =>
          if ∀ shard ∈ shards, shard ∈ verdicts then
            some { service with
              records := (lost shards verdicts).foldl ShardRecords.loseLease service.records
              renewal := .sleeping }
          else
            none
      | _ => none
  | .renewFails =>
      match service.renewal with
      | .renewing _ _ => some { service with renewal := .sleeping }
      | _ => none
  | _ => none

/-- Redis on its own, and the other replicas. -/
def stepLeases (service : ProcessorService) : ServiceEvent → Option ProcessorService
  | .lateSet shard =>
      if shard ∈ service.inFlight then
        some { service with
          leases := if shard ∈ service.leases then service.leases else service.leases.set shard true
          inFlight := service.inFlight.erase shard }
      else
        none
  | .expire shard => some { service with leases := service.leases.erase shard }
  | .taken shard =>
      if shard ∈ service.leases then none
      else some { service with leases := service.leases.set shard false }
  | .given shard =>
      if service.leases.get? shard = some false then
        some { service with leases := service.leases.erase shard }
      else
        none
  | _ => none

/-- The readers and the drains. -/
def stepDrains (service : ProcessorService) : ServiceEvent → Option ProcessorService
  | .finish task =>
      (service.records.tasks.get? task).map fun reader =>
        { service with records.tasks := service.records.tasks.set task { reader with finished := true } }
  | .waitEnds drain =>
      (service.records.drains.get? drain).bind fun task =>
        if task.stage = .waiting then
          some { service with
            records := if service.records.isDone task.reader then
                service.records.dropRecord drain task
              else
                service.records.drainTo drain task .grace }
        else
          none
  | .graceEnds drain =>
      (service.records.drains.get? drain).bind fun task =>
        if task.stage = .grace then
          some { service with records := service.records.dropRecord drain task }
        else
          none
  | .releaseExecutes drain =>
      (service.records.drains.get? drain).bind fun task =>
        if task.stage = .releasing then
          some { service with
            leases := released service.leases task.shard
            records := service.records.drainTo drain task .returning }
        else
          none
  | .releaseReturns drain =>
      (service.records.drains.get? drain).bind fun task =>
        if task.stage = .releasing ∨ task.stage = .returning then
          some { service with records := service.records.drainTo drain task .ended }
        else
          none
  | _ => none

/-- The drains that are cut short end without a release. -/
def cutShort (records : ShardRecords) : ShardRecords :=
  { records with
    draining := ∅
    drains := records.draining.values.foldl (fun drains record =>
      match drains.get? record.drain with
      | some task => drains.set record.drain { task with stage := .ended }
      | none => drains) records.drains }

def stepShutdown (service : ProcessorService) : ServiceEvent → Option ProcessorService
  | .stop =>
      if service.shutdown = .running then
        some { service with
          control := .cancelled
          renewal := .cancelled
          shutdown := .cancelling
          inFlight := match service.control with
            | .acquiring shard none _ _ => shard :: service.inFlight
            | _ => service.inFlight }
      else
        none
  | .collect =>
      if service.shutdown = .cancelling then
        let held := (service.records.consumers.keys ++ service.records.draining.keys).dedup
        let records := service.records.consumers.keys.foldl (ShardRecords.beginDrain true)
          service.records
        some { service with
          records := records
          shutdown := if records.draining.entries = [] then .releasing held
            else .awaiting held (records.draining.values.map Draining.drain) }
      else
        none
  | .drainsWaited =>
      match service.shutdown with
      | .awaiting held drains =>
          some { service with
            records := cutShort service.records
            shutdown := .gathering held drains }
      | _ => none
  | .gathered =>
      match service.shutdown with
      | .gathering held drains =>
          if ∀ drain ∈ drains, (service.records.drains.get? drain).all
              (fun task => task.stage = .ended) = true then
            some { service with shutdown := .releasing held }
          else
            none
      | _ => none
  | .stopReleases =>
      match service.shutdown with
      | .releasing (shard :: rest) =>
          some { service with
            leases := released service.leases shard
            shutdown := .releasing rest }
      | .releasing [] => some { service with shutdown := .stopped }
      | _ => none
  | _ => none

def step (service : ProcessorService) (event : ServiceEvent) : Option ProcessorService :=
  match event with
  | .reconcile | .planned _ | .setExecutes | .answered | .reconcileFails =>
      stepControl shards offset service event
  | .renew | .renewExecutes _ | .renewed | .renewFails => stepRenewal service event
  | .lateSet _ | .expire _ | .taken _ | .given _ => stepLeases service event
  | .finish _ | .waitEnds _ | .graceEnds _ | .releaseExecutes _ | .releaseReturns _ =>
      stepDrains service event
  | .stop | .collect | .drainsWaited | .gathered | .stopReleases => stepShutdown service event

/-- What a step can do. -/
inductive Effect (service : ProcessorService) : ServiceEvent → ProcessorService → Prop where
  | reconciled (isSleeping : service.control = .sleeping) :
      Effect service .reconcile { service with
        records := service.records.reapFinishedConsumers
        control := .planning service.records.reapFinishedConsumers.consumers.keys }
  | planned (live : ℕ) (owned : List ℕ) (isPlanning : service.control = .planning owned)
      (records : ShardRecords)
      (lets : records = (fairSharePlan shards owned live offset).release.foldl
        (ShardRecords.beginDrain true) service.records) :
      Effect service (.planned live) { service with
        records := records
        control := nextCandidate records (fairSharePlan shards owned live offset).target
          (fairSharePlan shards owned live offset).candidates }
  | tookLease (shard : ℕ) (rest : List ℕ) (target : ℕ)
      (isAcquiring : service.control = .acquiring shard none rest target)
      (free : shard ∉ service.leases) :
      Effect service .setExecutes { service with
        leases := service.leases.set shard true
        control := .acquiring shard (some true) rest target }
  | missedLease (shard : ℕ) (rest : List ℕ) (target : ℕ)
      (isAcquiring : service.control = .acquiring shard none rest target) :
      Effect service .setExecutes { service with control := .acquiring shard (some false) rest target }
  | started (shard : ℕ) (rest : List ℕ) (target : ℕ)
      (isAcquiring : service.control = .acquiring shard (some true) rest target) :
      Effect service .answered { service with
        records := service.records.startConsumer shard
        control := nextCandidate (service.records.startConsumer shard) target rest }
  | passedOver (shard : ℕ) (rest : List ℕ) (target : ℕ)
      (isAcquiring : service.control = .acquiring shard (some false) rest target) :
      Effect service .answered { service with
        control := nextCandidate service.records target rest }
  | gaveUp (inFlight : List ℕ) (unstopped : service.control ≠ .cancelled) :
      Effect service .reconcileFails { service with control := .sleeping, inFlight := inFlight }
  | lateTook (shard : ℕ) (isInFlight : shard ∈ service.inFlight) (free : shard ∉ service.leases) :
      Effect service (.lateSet shard) { service with
        leases := service.leases.set shard true
        inFlight := service.inFlight.erase shard }
  | lateMissed (shard : ℕ) :
      Effect service (.lateSet shard) { service with inFlight := service.inFlight.erase shard }
  | beganRenewal : Effect service .renew { service with
      renewal := .renewing (renewable service.records) ∅ }
  | nothingToRenew (isSleeping : service.renewal = .sleeping) :
      Effect service .renew { service with renewal := .sleeping }
  | heard (shard : ℕ) (asked : List ℕ) (verdicts : Dict ℕ Bool)
      (isRenewing : service.renewal = .renewing asked verdicts) :
      Effect service (.renewExecutes shard) { service with
        renewal := .renewing asked
          (verdicts.set shard (service.leases.get? shard = some true)) }
  | renewed (asked : List ℕ) (verdicts : Dict ℕ Bool)
      (isRenewing : service.renewal = .renewing asked verdicts) :
      Effect service .renewed { service with
        records := (lost asked verdicts).foldl ShardRecords.loseLease service.records
        renewal := .sleeping }
  | renewalFailed : Effect service .renewFails { service with renewal := .sleeping }
  | expired (shard : ℕ) :
      Effect service (.expire shard) { service with leases := service.leases.erase shard }
  | taken (shard : ℕ) (free : shard ∉ service.leases) :
      Effect service (.taken shard) { service with leases := service.leases.set shard false }
  | given (shard : ℕ) :
      Effect service (.given shard) { service with leases := service.leases.erase shard }
  | finished (task : ℕ) (reader : ReaderTask) (known : service.records.tasks.get? task = some reader) :
      Effect service (.finish task) { service with
        records.tasks := service.records.tasks.set task { reader with finished := true } }
  | cancelledReader (drain : ℕ) (task : DrainTask)
      (known : service.records.drains.get? drain = some task) (isWaiting : task.stage = .waiting) :
      Effect service (.waitEnds drain) { service with
        records := service.records.drainTo drain task .grace }
  | dropped (event : ServiceEvent) (drain : ℕ) (task : DrainTask)
      (known : service.records.drains.get? drain = some task)
      (ends : event = .waitEnds drain ∧ task.stage = .waiting ∧
          service.records.isDone task.reader = true ∨
        event = .graceEnds drain ∧ task.stage = .grace) :
      Effect service event { service with records := service.records.dropRecord drain task }
  | releaseExecuted (drain : ℕ) (task : DrainTask)
      (known : service.records.drains.get? drain = some task)
      (isReleasing : task.stage = .releasing) :
      Effect service (.releaseExecutes drain) { service with
        leases := released service.leases task.shard
        records := service.records.drainTo drain task .returning }
  | releaseReturned (drain : ℕ) (task : DrainTask)
      (known : service.records.drains.get? drain = some task)
      (isReleasing : task.stage = .releasing ∨ task.stage = .returning) :
      Effect service (.releaseReturns drain) { service with
        records := service.records.drainTo drain task .ended }
  | stopping (isRunning : service.shutdown = .running) (inFlight : List ℕ) :
      Effect service .stop { service with
        control := .cancelled
        renewal := .cancelled
        shutdown := .cancelling
        inFlight := inFlight }
  | collected (isCancelling : service.shutdown = .cancelling) (shutdown : ShutdownStage)
      (records : ShardRecords)
      (lets : records = service.records.consumers.keys.foldl (ShardRecords.beginDrain true)
        service.records)
      (awaits : ∃ held, held = (service.records.consumers.keys ++
          service.records.draining.keys).dedup ∧
        (shutdown = .releasing held ∨ ∃ drains, shutdown = .awaiting held drains)) :
      Effect service .collect { service with records := records, shutdown := shutdown }
  | cut (held drains : List ℕ) (isAwaiting : service.shutdown = .awaiting held drains) :
      Effect service .drainsWaited { service with
        records := cutShort service.records
        shutdown := .gathering held drains }
  | gathered (held drains : List ℕ) (isGathering : service.shutdown = .gathering held drains) :
      Effect service .gathered { service with shutdown := .releasing held }
  | stopReleased (shard : ℕ) (rest : List ℕ)
      (isReleasing : service.shutdown = .releasing (shard :: rest)) :
      Effect service .stopReleases { service with
        leases := released service.leases shard
        shutdown := .releasing rest }
  | stopped (isReleasing : service.shutdown = .releasing []) :
      Effect service .stopReleases { service with shutdown := .stopped }

section Steps

variable {shards offset} {service after : ProcessorService} {event : ServiceEvent}

theorem effect_of_stepControl (stepTo : stepControl shards offset service event = some after) :
    Effect shards offset service event after := by
  cases event with
  | reconcile =>
      simp only [stepControl] at stepTo
      split at stepTo
      case h_1 isSleeping =>
          obtain rfl := Option.some.inj stepTo
          exact .reconciled isSleeping
      case h_2 => cases stepTo
  | planned live =>
      simp only [stepControl] at stepTo
      split at stepTo
      case h_1 owned isPlanning =>
          obtain rfl := Option.some.inj stepTo
          exact .planned live owned isPlanning _ rfl
      case h_2 => cases stepTo
  | setExecutes =>
      simp only [stepControl] at stepTo
      split at stepTo
      case h_1 shard rest target isAcquiring =>
          split at stepTo
          case isTrue =>
              obtain rfl := Option.some.inj stepTo
              exact .missedLease shard rest target isAcquiring
          case isFalse free =>
              obtain rfl := Option.some.inj stepTo
              exact .tookLease shard rest target isAcquiring free
      case h_2 => cases stepTo
  | answered =>
      simp only [stepControl] at stepTo
      split at stepTo
      case h_1 shard taken rest target isAcquiring =>
          obtain rfl := Option.some.inj stepTo
          cases taken with
          | true => exact .started shard rest target isAcquiring
          | false => exact .passedOver shard rest target isAcquiring
      case h_2 => cases stepTo
  | reconcileFails =>
      have unstopped {stage : ControlStage} (isStage : service.control = stage)
          (other : stage ≠ .cancelled) : service.control ≠ .cancelled := by
        rw [isStage]
        exact other
      simp only [stepControl] at stepTo
      split at stepTo
      case h_1 isPlanning =>
          obtain rfl := Option.some.inj stepTo
          exact .gaveUp service.inFlight (unstopped isPlanning (by intro same; cases same))
      case h_2 isAcquiring =>
          obtain rfl := Option.some.inj stepTo
          exact .gaveUp service.inFlight (unstopped isAcquiring (by intro same; cases same))
      case h_3 isAcquiring =>
          obtain rfl := Option.some.inj stepTo
          exact .gaveUp _ (unstopped isAcquiring (by intro same; cases same))
      case h_4 => cases stepTo
  | _ => cases stepTo

theorem effect_of_stepRenewal (stepTo : stepRenewal service event = some after) :
    Effect shards offset service event after := by
  cases event with
  | renew =>
      simp only [stepRenewal] at stepTo
      split at stepTo
      case h_1 isSleeping =>
          obtain rfl := Option.some.inj stepTo
          split
          case isTrue => exact .nothingToRenew isSleeping
          case isFalse => exact .beganRenewal
      case h_2 => cases stepTo
  | renewExecutes shard =>
      simp only [stepRenewal] at stepTo
      split at stepTo
      case h_1 asked verdicts isRenewing =>
          obtain ⟨-, same⟩ := Option.ite_none_right_eq_some.mp stepTo
          obtain rfl := Option.some.inj same
          exact .heard shard asked verdicts isRenewing
      case h_2 => cases stepTo
  | renewed =>
      simp only [stepRenewal] at stepTo
      split at stepTo
      case h_1 asked verdicts isRenewing =>
          obtain ⟨-, same⟩ := Option.ite_none_right_eq_some.mp stepTo
          obtain rfl := Option.some.inj same
          exact .renewed asked verdicts isRenewing
      case h_2 => cases stepTo
  | renewFails =>
      simp only [stepRenewal] at stepTo
      split at stepTo
      case h_1 =>
          obtain rfl := Option.some.inj stepTo
          exact .renewalFailed
      case h_2 => cases stepTo
  | _ => cases stepTo

theorem effect_of_stepLeases (stepTo : stepLeases service event = some after) :
    Effect shards offset service event after := by
  cases event with
  | lateSet shard =>
      obtain ⟨isInFlight, same⟩ := Option.ite_none_right_eq_some.mp stepTo
      obtain rfl := Option.some.inj same
      split
      case isTrue => exact .lateMissed shard
      case isFalse free => exact .lateTook shard isInFlight free
  | expire shard =>
      obtain rfl := Option.some.inj stepTo
      exact .expired shard
  | taken shard =>
      obtain ⟨free, same⟩ := Option.ite_none_left_eq_some.mp stepTo
      obtain rfl := Option.some.inj same
      exact .taken shard free
  | given shard =>
      obtain ⟨-, same⟩ := Option.ite_none_right_eq_some.mp stepTo
      obtain rfl := Option.some.inj same
      exact .given shard
  | _ => cases stepTo

theorem effect_of_stepDrains (stepTo : stepDrains service event = some after) :
    Effect shards offset service event after := by
  cases event with
  | finish task =>
      obtain ⟨reader, known, rfl⟩ := Option.map_eq_some_iff.mp stepTo
      exact .finished task reader known
  | waitEnds drain =>
      obtain ⟨task, known, ends⟩ := Option.bind_eq_some_iff.mp stepTo
      obtain ⟨isWaiting, same⟩ := Option.ite_none_right_eq_some.mp ends
      obtain rfl := Option.some.inj same
      split
      case isTrue isDone => exact .dropped _ drain task known (Or.inl ⟨rfl, isWaiting, isDone⟩)
      case isFalse => exact .cancelledReader drain task known isWaiting
  | graceEnds drain =>
      obtain ⟨task, known, ends⟩ := Option.bind_eq_some_iff.mp stepTo
      obtain ⟨isGrace, same⟩ := Option.ite_none_right_eq_some.mp ends
      obtain rfl := Option.some.inj same
      exact .dropped _ drain task known (Or.inr ⟨rfl, isGrace⟩)
  | releaseExecutes drain =>
      obtain ⟨task, known, ends⟩ := Option.bind_eq_some_iff.mp stepTo
      obtain ⟨isReleasing, same⟩ := Option.ite_none_right_eq_some.mp ends
      obtain rfl := Option.some.inj same
      exact .releaseExecuted drain task known isReleasing
  | releaseReturns drain =>
      obtain ⟨task, known, ends⟩ := Option.bind_eq_some_iff.mp stepTo
      obtain ⟨isReleasing, same⟩ := Option.ite_none_right_eq_some.mp ends
      obtain rfl := Option.some.inj same
      exact .releaseReturned drain task known isReleasing
  | _ => cases stepTo

theorem effect_of_stepShutdown (stepTo : stepShutdown service event = some after) :
    Effect shards offset service event after := by
  cases event with
  | stop =>
      obtain ⟨isRunning, same⟩ := Option.ite_none_right_eq_some.mp stepTo
      obtain rfl := Option.some.inj same
      exact .stopping isRunning _
  | collect =>
      obtain ⟨isCancelling, same⟩ := Option.ite_none_right_eq_some.mp stepTo
      obtain rfl := Option.some.inj same
      refine .collected isCancelling _ _ rfl ⟨_, rfl, ?_⟩
      split
      case isTrue => exact Or.inl rfl
      case isFalse => exact Or.inr ⟨_, rfl⟩
  | drainsWaited =>
      simp only [stepShutdown] at stepTo
      split at stepTo
      case h_1 held drains isAwaiting =>
          obtain rfl := Option.some.inj stepTo
          exact .cut held drains isAwaiting
      case h_2 => cases stepTo
  | gathered =>
      simp only [stepShutdown] at stepTo
      split at stepTo
      case h_1 held drains isGathering =>
          obtain ⟨-, same⟩ := Option.ite_none_right_eq_some.mp stepTo
          obtain rfl := Option.some.inj same
          exact .gathered held drains isGathering
      case h_2 => cases stepTo
  | stopReleases =>
      simp only [stepShutdown] at stepTo
      split at stepTo
      case h_1 shard rest isReleasing =>
          obtain rfl := Option.some.inj stepTo
          exact .stopReleased shard rest isReleasing
      case h_2 isReleasing =>
          obtain rfl := Option.some.inj stepTo
          exact .stopped isReleasing
      case h_3 => cases stepTo
  | _ => cases stepTo

theorem effect_of_step (stepTo : step shards offset service event = some after) :
    Effect shards offset service event after := by
  cases event with
  | reconcile | planned | setExecutes | answered | reconcileFails =>
      exact effect_of_stepControl stepTo
  | renew | renewExecutes | renewed | renewFails => exact effect_of_stepRenewal stepTo
  | lateSet | expire | taken | given => exact effect_of_stepLeases stepTo
  | finish | waitEnds | graceEnds | releaseExecutes | releaseReturns =>
      exact effect_of_stepDrains stepTo
  | stop | collect | drainsWaited | gathered | stopReleases => exact effect_of_stepShutdown stepTo

end Steps

end ProcessorService

end GeoTrack
