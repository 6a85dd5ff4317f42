import GeoTrack.LabelledRuns
import GeoTrack.StorableReports
import Mathlib.Logic.Function.Basic

/-!
# The consumers of one shard

Replicas take turns at a shard under a lease, and whoever runs a consumer reads
the stream under one and the same consumer name.  A consumer is a loop with an
await at every call; a phase says which call it is waiting for.

Each call is two events: the server carries it out, and the consumer sees the
answer.  A call can fail before or after it has taken effect, a consumer can be
cancelled at any await, and the lease can run out at any time.
-/

namespace GeoTrack

abbrev EntryId := ℕ

abbrev ReplicaId := ℕ

/-- An entry as the consumer reads it: its id and the bytes of its one field. -/
abbrev StreamEntry := EntryId × Bytes

structure DeadLetter where
  entryId : EntryId
  raw : Bytes
  error : String
deriving DecidableEq

/-- Read the pending entries of the consumer name, or entries nobody has. -/
inductive Cursor where
  | pending
  | new
deriving DecidableEq

/-- The consumer group: how far it has delivered, and what it has delivered
without seeing an acknowledgement. -/
structure Group where
  lastDelivered : EntryId
  pending : List EntryId
deriving DecidableEq

section Handle

variable (orjson : Orjson)

structure Decoded where
  records : List LocationRecord
  sources : List EntryId
  dead : List DeadLetter

def decodeEntry (decoded : Decoded) (entry : StreamEntry) : Decoded :=
  match decodeRecord orjson entry.2 with
  | .error error =>
      { decoded with dead := decoded.dead ++ [⟨entry.1, entry.2, error.message⟩] }
  | .ok record =>
      { decoded with
        records := decoded.records ++ [record]
        sources := decoded.sources ++ [entry.1] }

def decode (entries : List StreamEntry) : Decoded :=
  entries.foldl (decodeEntry orjson) ⟨[], [], []⟩

/-- A batch on its way through `_handle`. -/
structure Work where
  entries : List StreamEntry
  storable : List LocationRecord
  letters : List DeadLetter
deriving DecidableEq

/-- What a batch read at time `clockMs` consists of.  A rejected record finds
its entry through its place among the records. -/
def work (settings : StorageSettings) (clockMs : ℤ) (entries : List StreamEntry) : Work :=
  let decoded := decode orjson entries
  let split := splitStorable settings clockMs decoded.records
  { entries := entries
    storable := split.1
    letters := decoded.dead ++ split.2.map fun rejected =>
      ⟨decoded.sources.getD rejected.index 0, encodeRecord orjson rejected.record,
        rejected.reason⟩ }

end Handle

/-- Where a backoff leads back to. -/
inductive Resume where
  | createGroup
  | loop
deriving DecidableEq

/-- The await a consumer is at. -/
inductive Phase where
  | creating (served : Bool)
  | reading
  | answered (entries : List StreamEntry)
  | measuring (entries : List StreamEntry)
  | renewing (entries : List StreamEntry)
  | renewed (entries : List StreamEntry) (held : Bool)
  | applying (work : Work) (attempt : ℕ) (committed : Bool)
  | publishing (work : Work)
  | deadLettering (work : Work) (remaining : List DeadLetter)
  /-- `XACKDEL` is under way. -/
  | acknowledging (entries : List StreamEntry)
  /-- The pipeline of `XACK` and `XDEL`, before and after the first of them. -/
  | acking (entries : List StreamEntry) (acked : Bool)
  | acknowledged
  | waiting (resume : Resume)
  | stopped
deriving DecidableEq

/-- The entries a consumer has read and not yet acknowledged. -/
def Phase.inFlight : Phase → List StreamEntry
  | .answered entries => entries
  | .measuring entries => entries
  | .renewing entries => entries
  | .renewed entries _ => entries
  | .applying work _ _ => work.entries
  | .publishing work => work.entries
  | .deadLettering work _ => work.entries
  | .acknowledging entries => entries
  | .acking entries false => entries
  | _ => []

structure Consumer where
  phase : Phase
  cursor : Cursor
  stopping : Bool
  supportsXackdel : Bool
deriving DecidableEq

namespace Consumer

/-- A consumer that has just been started. -/
def started : Consumer := ⟨.creating false, .pending, false, true⟩

/-- No consumer. -/
def absent : Consumer := ⟨.stopped, .pending, true, true⟩

def goto (consumer : Consumer) (phase : Phase) : Consumer := { consumer with phase := phase }

/-- The head of the loop, where a stop request is seen. -/
def loopHead (consumer : Consumer) : Consumer :=
  consumer.goto (if consumer.stopping then .stopped else .reading)

/-- The exits through an exception: entries stay pending and are read again. -/
def failed (consumer : Consumer) : Consumer :=
  { consumer with phase := .waiting .loop, cursor := .pending }

/-- The exit through a rejected read: the group is created again first. -/
def rejected (consumer : Consumer) : Consumer :=
  { consumer with
    phase := if consumer.stopping then .stopped else .creating false
    cursor := .pending }

def acknowledge (consumer : Consumer) (entries : List StreamEntry) : Consumer :=
  consumer.goto (if consumer.supportsXackdel then .acknowledging entries else .acking entries false)

end Consumer

/-- What a consumer is configured with, and whether its server knows `XACKDEL`. -/
structure ConsumerEnv where
  orjson : Orjson
  storage : StorageSettings
  batchSize : ℕ
  batchSize_pos : 0 < batchSize
  hasXackdel : Bool

/-- A shard: its stream and group, its lease, its consumers, and what has been
committed and dead-lettered so far. -/
structure Shard where
  stream : List StreamEntry
  nextId : EntryId
  group : Option Group
  lease : Option ReplicaId
  consumers : ReplicaId → Consumer
  commits : List (List LocationRecord)
  deadLetters : List DeadLetter

inductive ShardEvent where
  /-- A report is accepted into the stream. -/
  | add (payload : Bytes)
  | expireLease
  /-- A replica takes the free lease; the answer may get lost. -/
  | acquire (replica : ReplicaId) (answered : Bool)
  | release (replica : ReplicaId)
  | requestStop (replica : ReplicaId)
  /-- A crash, or a cancellation at the current await. -/
  | cancel (replica : ReplicaId)
  /-- The server carries out the call the consumer is waiting for. -/
  | serve (replica : ReplicaId)
  /-- The consumer sees the answer, with its clock at `clockMs`. -/
  | reply (replica : ReplicaId) (clockMs : ℤ)
  /-- The call raises. -/
  | fail (replica : ReplicaId)
  /-- The server rejects a read, as it does without a group. -/
  | reject (replica : ReplicaId)
  /-- The database asks to repeat the transaction. -/
  | retry (replica : ReplicaId)

def maxAttempts : ℕ := 5

namespace Shard

def start : Shard where
  stream := []
  nextId := 1
  group := none
  lease := none
  consumers := fun _ => .absent
  commits := []
  deadLetters := []

def setConsumer (shard : Shard) (replica : ReplicaId) (consumer : Consumer) : Shard :=
  { shard with consumers := Function.update shard.consumers replica consumer }

@[simp]
theorem consumers_setConsumer_self (shard : Shard) (replica : ReplicaId) (consumer : Consumer) :
    (shard.setConsumer replica consumer).consumers replica = consumer :=
  Function.update_self ..

@[simp]
theorem consumers_setConsumer_of_ne (shard : Shard) {replica other : ReplicaId}
    (different : other ≠ replica) (consumer : Consumer) :
    (shard.setConsumer replica consumer).consumers other = shard.consumers other :=
  Function.update_of_ne different ..

def ids (entries : List StreamEntry) : List EntryId := entries.map Prod.fst

/-- The pending list of the consumer name. -/
def pending (shard : Shard) : List EntryId := (shard.group.map Group.pending).getD []

/-- `XREADGROUP` with id `0`.  An entry that has been deleted meanwhile comes
back without its field. -/
def readPending (env : ConsumerEnv) (shard : Shard) (group : Group) : List StreamEntry :=
  (group.pending.take env.batchSize).map fun id =>
    (id, ((shard.stream.find? fun entry => entry.1 = id).map Prod.snd).getD [])

/-- `XREADGROUP` with id `>`. -/
def readNew (env : ConsumerEnv) (shard : Shard) (group : Group) : List StreamEntry :=
  (shard.stream.filter fun entry => group.lastDelivered < entry.1).take env.batchSize

def Group.deliver (group : Group) (entries : List StreamEntry) : Group where
  lastDelivered := (ids entries).getLastD group.lastDelivered
  pending := group.pending ++ ids entries

def ack (shard : Shard) (entries : List StreamEntry) : Shard :=
  { shard with
    group := shard.group.map fun group =>
      { group with pending := group.pending.filter fun id => id ∉ ids entries } }

def del (shard : Shard) (entries : List StreamEntry) : Shard :=
  { shard with stream := shard.stream.filter fun entry => entry.1 ∉ ids entries }

/-- The server's side of a call. -/
def serve (env : ConsumerEnv) (shard : Shard) (replica : ReplicaId) : Option Shard :=
  let consumer := shard.consumers replica
  match consumer.phase with
  | .creating false =>
      some { shard.setConsumer replica (consumer.goto (.creating true)) with
        group := some (shard.group.getD ⟨0, []⟩) }
  | .reading =>
      shard.group.map fun group =>
        match consumer.cursor with
        | .pending =>
            shard.setConsumer replica (consumer.goto (.answered (readPending env shard group)))
        | .new =>
            let entries := readNew env shard group
            { shard.setConsumer replica (consumer.goto (.answered entries)) with
              group := some (Group.deliver group entries) }
  | .renewing entries =>
      some (shard.setConsumer replica
        (consumer.goto (.renewed entries (decide (shard.lease = some replica)))))
  | .applying work attempt false =>
      some { shard.setConsumer replica (consumer.goto (.applying work attempt true)) with
        commits := shard.commits ++ [work.storable] }
  | .deadLettering work (letter :: rest) =>
      some { shard.setConsumer replica (consumer.goto (.deadLettering work rest)) with
        deadLetters := shard.deadLetters ++ [letter] }
  | .acknowledging entries =>
      if env.hasXackdel then
        some (((shard.setConsumer replica (consumer.goto .acknowledged)).ack entries).del entries)
      else
        none
  | .acking entries false =>
      some ((shard.setConsumer replica (consumer.goto (.acking entries true))).ack entries)
  | .acking entries true =>
      some ((shard.setConsumer replica (consumer.goto .acknowledged)).del entries)
  | _ => none

/-- The consumer's side of a call that has been answered. -/
def reply (env : ConsumerEnv) (consumer : Consumer) (clockMs : ℤ) : Option Consumer :=
  match consumer.phase with
  | .creating true => some consumer.loopHead
  | .answered entries => some (consumer.goto (.measuring entries))
  | .measuring entries =>
      if entries = [] then
        some { consumer with cursor := .new }.loopHead
      else
        some (consumer.goto (.renewing entries))
  | .renewed entries held =>
      if held then
        let batch := work env.orjson env.storage clockMs entries
        -- without storable records there is no transaction
        some (consumer.goto
          (if batch.storable = [] then .publishing batch else .applying batch 0 false))
      else
        some { consumer with stopping := true, phase := .stopped }
  | .applying work _ true => some (consumer.goto (.publishing work))
  | .publishing work =>
      some (if work.letters = [] then consumer.acknowledge work.entries
        else consumer.goto (.deadLettering work work.letters))
  | .deadLettering work [] => some (consumer.acknowledge work.entries)
  | .acknowledging entries =>
      -- the one answer that means the command will never work on this server
      if env.hasXackdel then none
      else some { consumer with supportsXackdel := false, phase := .acking entries false }
  | .acknowledged => some consumer.loopHead
  | .waiting .createGroup =>
      some (consumer.goto (if consumer.stopping then .stopped else .creating false))
  | .waiting .loop => some consumer.loopHead
  | _ => none

/-- A call that raises. -/
def fail (consumer : Consumer) : Option Consumer :=
  match consumer.phase with
  | .creating _ => some (consumer.goto (.waiting .createGroup))
  | .waiting _ => none
  | .stopped => none
  | _ => some consumer.failed

/-- A read, or the measuring of the stream after it, that the server rejects. -/
def reject (consumer : Consumer) : Option Consumer :=
  match consumer.phase with
  | .reading => some consumer.rejected
  | .measuring _ => some consumer.rejected
  | _ => none

def retry (consumer : Consumer) : Option Consumer :=
  match consumer.phase with
  | .applying work attempt _ =>
      if attempt + 1 < maxAttempts then
        some (consumer.goto (.applying work (attempt + 1) false))
      else
        none
  | _ => none

def step (env : ConsumerEnv) (shard : Shard) : ShardEvent → Option Shard
  | .add payload =>
      some { shard with
        stream := shard.stream ++ [(shard.nextId, payload)]
        nextId := shard.nextId + 1 }
  | .expireLease => some { shard with lease := none }
  | .acquire replica answered =>
      if shard.lease = none ∧ (shard.consumers replica).phase = .stopped then
        let taken := { shard with lease := some replica }
        some (if answered then taken.setConsumer replica .started else taken)
      else
        none
  | .release replica =>
      some { shard with lease := if shard.lease = some replica then none else shard.lease }
  | .requestStop replica =>
      some (shard.setConsumer replica { shard.consumers replica with stopping := true })
  | .cancel replica =>
      some (shard.setConsumer replica ((shard.consumers replica).goto .stopped))
  | .serve replica => serve env shard replica
  | .reply replica clockMs =>
      (reply env (shard.consumers replica) clockMs).map (shard.setConsumer replica)
  | .fail replica => (fail (shard.consumers replica)).map (shard.setConsumer replica)
  | .reject replica => (reject (shard.consumers replica)).map (shard.setConsumer replica)
  | .retry replica => (retry (shard.consumers replica)).map (shard.setConsumer replica)

end Shard

/-- The replica whose consumer an event moves. -/
def ShardEvent.mover : ShardEvent → Option ReplicaId
  | .add _ => none
  | .expireLease => none
  | .acquire replica _ => some replica
  | .release _ => none
  | .requestStop replica => some replica
  | .cancel replica => some replica
  | .serve replica => some replica
  | .reply replica _ => some replica
  | .fail replica => some replica
  | .reject replica => some replica
  | .retry replica => some replica

namespace Shard

variable {env : ConsumerEnv} {shard after : Shard}

/-- Everything the server can do for a consumer, with the phase it is done in. -/
inductive Served (env : ConsumerEnv) (shard : Shard) (replica : ReplicaId) : Shard → Prop where
  | created (phase : (shard.consumers replica).phase = .creating false) :
      Served env shard replica
        { shard.setConsumer replica ((shard.consumers replica).goto (.creating true)) with
          group := some (shard.group.getD ⟨0, []⟩) }
  | scanned (group : Group) (phase : (shard.consumers replica).phase = .reading)
      (cursor : (shard.consumers replica).cursor = .pending) (found : shard.group = some group) :
      Served env shard replica (shard.setConsumer replica
        ((shard.consumers replica).goto (.answered (readPending env shard group))))
  | delivered (group : Group) (phase : (shard.consumers replica).phase = .reading)
      (cursor : (shard.consumers replica).cursor = .new) (found : shard.group = some group) :
      Served env shard replica
        { shard.setConsumer replica
            ((shard.consumers replica).goto (.answered (readNew env shard group))) with
          group := some (Group.deliver group (readNew env shard group)) }
  | renewed (entries : List StreamEntry)
      (phase : (shard.consumers replica).phase = .renewing entries) :
      Served env shard replica (shard.setConsumer replica ((shard.consumers replica).goto
        (.renewed entries (decide (shard.lease = some replica)))))
  | committed (work : Work) (attempt : ℕ)
      (phase : (shard.consumers replica).phase = .applying work attempt false) :
      Served env shard replica
        { shard.setConsumer replica
            ((shard.consumers replica).goto (.applying work attempt true)) with
          commits := shard.commits ++ [work.storable] }
  | lettered (work : Work) (letter : DeadLetter) (rest : List DeadLetter)
      (phase : (shard.consumers replica).phase = .deadLettering work (letter :: rest)) :
      Served env shard replica
        { shard.setConsumer replica
            ((shard.consumers replica).goto (.deadLettering work rest)) with
          deadLetters := shard.deadLetters ++ [letter] }
  | ackedAndDeleted (entries : List StreamEntry)
      (phase : (shard.consumers replica).phase = .acknowledging entries) :
      Served env shard replica
        (((shard.setConsumer replica ((shard.consumers replica).goto .acknowledged)).ack
          entries).del entries)
  | acked (entries : List StreamEntry)
      (phase : (shard.consumers replica).phase = .acking entries false) :
      Served env shard replica ((shard.setConsumer replica
        ((shard.consumers replica).goto (.acking entries true))).ack entries)
  | deleted (entries : List StreamEntry)
      (phase : (shard.consumers replica).phase = .acking entries true) :
      Served env shard replica ((shard.setConsumer replica
        ((shard.consumers replica).goto .acknowledged)).del entries)

theorem served_of_serve {replica : ReplicaId} (served : serve env shard replica = some after) :
    Served env shard replica after := by
  unfold serve at served
  cases phase : (shard.consumers replica).phase with
  | creating done =>
      cases done with
      | true => simp [phase] at served
      | false =>
          simp only [phase, Option.some.injEq] at served
          exact served ▸ .created phase
  | reading =>
      simp only [phase] at served
      obtain ⟨group, found, rfl⟩ := Option.map_eq_some_iff.mp served
      cases cursor : (shard.consumers replica).cursor with
      | pending => exact .scanned group phase cursor found
      | new => exact .delivered group phase cursor found
  | renewing entries =>
      simp only [phase, Option.some.injEq] at served
      exact served ▸ .renewed entries phase
  | applying work attempt done =>
      cases done with
      | true => simp [phase] at served
      | false =>
          simp only [phase, Option.some.injEq] at served
          exact served ▸ .committed work attempt phase
  | deadLettering work remaining =>
      cases remaining with
      | nil => simp [phase] at served
      | cons letter rest =>
          simp only [phase, Option.some.injEq] at served
          exact served ▸ .lettered work letter rest phase
  | acknowledging entries =>
      simp only [phase] at served
      split at served
      · exact Option.some.inj served ▸ .ackedAndDeleted entries phase
      · cases served
  | acking entries done =>
      cases done with
      | false =>
          simp only [phase, Option.some.injEq] at served
          exact served ▸ .acked entries phase
      | true =>
          simp only [phase, Option.some.injEq] at served
          exact served ▸ .deleted entries phase
  | _ => simp [phase] at served

/-- Everything a consumer does on an answer, with the phase it is in. -/
inductive Replied (env : ConsumerEnv) (consumer : Consumer) (clockMs : ℤ) : Consumer → Prop where
  | looped (phase : consumer.phase = .creating true ∨ consumer.phase = .acknowledged ∨
        consumer.phase = .waiting .loop) :
      Replied env consumer clockMs consumer.loopHead
  | answered (entries : List StreamEntry) (phase : consumer.phase = .answered entries) :
      Replied env consumer clockMs (consumer.goto (.measuring entries))
  | scanned (phase : consumer.phase = .measuring []) :
      Replied env consumer clockMs { consumer with cursor := .new }.loopHead
  | measured (first : StreamEntry) (rest : List StreamEntry)
      (phase : consumer.phase = .measuring (first :: rest)) :
      Replied env consumer clockMs (consumer.goto (.renewing (first :: rest)))
  | lost (entries : List StreamEntry) (phase : consumer.phase = .renewed entries false) :
      Replied env consumer clockMs { consumer with stopping := true, phase := .stopped }
  | unstorable (entries : List StreamEntry) (phase : consumer.phase = .renewed entries true)
      (nothing : (work env.orjson env.storage clockMs entries).storable = []) :
      Replied env consumer clockMs
        (consumer.goto (.publishing (work env.orjson env.storage clockMs entries)))
  | decoded (entries : List StreamEntry) (phase : consumer.phase = .renewed entries true) :
      Replied env consumer clockMs
        (consumer.goto (.applying (work env.orjson env.storage clockMs entries) 0 false))
  | committed (work : Work) (attempt : ℕ) (phase : consumer.phase = .applying work attempt true) :
      Replied env consumer clockMs (consumer.goto (.publishing work))
  | published (work : Work) (phase : consumer.phase = .publishing work)
      (noLetters : work.letters = []) :
      Replied env consumer clockMs (consumer.acknowledge work.entries)
  | lettering (work : Work) (phase : consumer.phase = .publishing work) :
      Replied env consumer clockMs (consumer.goto (.deadLettering work work.letters))
  | lettered (work : Work) (phase : consumer.phase = .deadLettering work []) :
      Replied env consumer clockMs (consumer.acknowledge work.entries)
  | unsupported (entries : List StreamEntry) (phase : consumer.phase = .acknowledging entries) :
      Replied env consumer clockMs
        { consumer with supportsXackdel := false, phase := .acking entries false }
  | waited (phase : consumer.phase = .waiting .createGroup) :
      Replied env consumer clockMs
        (consumer.goto (if consumer.stopping then .stopped else .creating false))

theorem replied_of_reply {consumer next : Consumer} {clockMs : ℤ}
    (replied : reply env consumer clockMs = some next) : Replied env consumer clockMs next := by
  unfold reply at replied
  cases phase : consumer.phase with
  | creating done =>
      cases done with
      | false => simp [phase] at replied
      | true =>
          simp only [phase, Option.some.injEq] at replied
          exact replied ▸ .looped (Or.inl phase)
  | answered entries =>
      simp only [phase, Option.some.injEq] at replied
      exact replied ▸ .answered entries phase
  | measuring entries =>
      cases entries with
      | nil =>
          simp only [phase, if_true, Option.some.injEq] at replied
          exact replied ▸ .scanned phase
      | cons first rest =>
          simp only [phase, reduceCtorEq, if_false, Option.some.injEq] at replied
          exact replied ▸ .measured first rest phase
  | renewed entries held =>
      cases held with
      | false =>
          simp only [phase, Bool.false_eq_true, if_false, Option.some.injEq] at replied
          exact replied ▸ .lost entries phase
      | true =>
          simp only [phase, if_true, Option.some.injEq] at replied
          subst replied
          split
          case isTrue nothing => exact .unstorable entries phase nothing
          case isFalse => exact .decoded entries phase
  | applying work attempt done =>
      cases done with
      | false => simp [phase] at replied
      | true =>
          simp only [phase, Option.some.injEq] at replied
          exact replied ▸ .committed work attempt phase
  | publishing work =>
      simp only [phase, Option.some.injEq] at replied
      subst replied
      split
      case isTrue noLetters => exact .published work phase noLetters
      case isFalse => exact .lettering work phase
  | deadLettering work remaining =>
      cases remaining with
      | nil =>
          simp only [phase, Option.some.injEq] at replied
          exact replied ▸ .lettered work phase
      | cons letter rest => simp [phase] at replied
  | acknowledging entries =>
      simp only [phase] at replied
      split at replied
      · cases replied
      · exact Option.some.inj replied ▸ .unsupported entries phase
  | acknowledged =>
      simp only [phase, Option.some.injEq] at replied
      exact replied ▸ .looped (Or.inr (Or.inl phase))
  | waiting resume =>
      cases resume with
      | createGroup =>
          simp only [phase, Option.some.injEq] at replied
          exact replied ▸ .waited phase
      | loop =>
          simp only [phase, Option.some.injEq] at replied
          exact replied ▸ .looped (Or.inr (Or.inr phase))
  | _ => simp [phase] at replied

/-- An event leaves the consumers of all other replicas alone. -/
theorem step_consumers {event : ShardEvent} {other : ReplicaId}
    (unmoved : event.mover ≠ some other) (stepTo : step env shard event = some after) :
    after.consumers other = shard.consumers other := by
  cases event with
  | add payload => exact Option.some.inj stepTo ▸ rfl
  | expireLease => exact Option.some.inj stepTo ▸ rfl
  | release replica => exact Option.some.inj stepTo ▸ rfl
  | acquire replica answered =>
      have different : other ≠ replica := fun same => unmoved (congrArg some same.symm)
      simp only [step] at stepTo
      split at stepTo
      · obtain rfl := Option.some.inj stepTo
        cases answered with
        | true => exact consumers_setConsumer_of_ne _ different _
        | false => rfl
      · cases stepTo
  | serve replica =>
      have different : other ≠ replica := fun same => unmoved (congrArg some same.symm)
      cases served_of_serve stepTo <;> exact consumers_setConsumer_of_ne shard different _
  | requestStop replica =>
      obtain rfl := Option.some.inj stepTo
      exact consumers_setConsumer_of_ne _ (fun same => unmoved (congrArg some same.symm)) _
  | cancel replica =>
      obtain rfl := Option.some.inj stepTo
      exact consumers_setConsumer_of_ne _ (fun same => unmoved (congrArg some same.symm)) _
  | reply replica clockMs =>
      obtain ⟨consumer, _, rfl⟩ := Option.map_eq_some_iff.mp stepTo
      exact consumers_setConsumer_of_ne _ (fun same => unmoved (congrArg some same.symm)) _
  | fail replica =>
      obtain ⟨consumer, _, rfl⟩ := Option.map_eq_some_iff.mp stepTo
      exact consumers_setConsumer_of_ne _ (fun same => unmoved (congrArg some same.symm)) _
  | reject replica =>
      obtain ⟨consumer, _, rfl⟩ := Option.map_eq_some_iff.mp stepTo
      exact consumers_setConsumer_of_ne _ (fun same => unmoved (congrArg some same.symm)) _
  | retry replica =>
      obtain ⟨consumer, _, rfl⟩ := Option.map_eq_some_iff.mp stepTo
      exact consumers_setConsumer_of_ne _ (fun same => unmoved (congrArg some same.symm)) _

/-- A replica that took no part in a run has no consumer. -/
theorem consumers_of_unmoved {allowed : Shard → ShardEvent → Prop} {events : List ShardEvent}
    {other : ReplicaId} (reached : LabelledRuns.Run (step env) allowed start events after)
    (unmoved : ∀ event ∈ events, event.mover ≠ some other) :
    after.consumers other = .absent := by
  induction reached with
  | nil => rfl
  | snoc _ _ stepTo ih =>
      rw [step_consumers (unmoved _ (by simp)) stepTo]
      exact ih fun event listed => unmoved event (List.mem_append_left _ listed)

end Shard

end GeoTrack
