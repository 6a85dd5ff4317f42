import GeoTrack.FairShare
import GeoTrack.IfMatch
import GeoTrack.IngestReports
import GeoTrack.LabelledRuns
import GeoTrack.OrderedDict

/-!
# One partitioning of the queue

The number of shards is configured for each process, and the streams of two
processes that disagree on it are different streams.  It is recorded by the first
process that runs, and every other one is held against the record: the API in
one command that claims the key or tells what it holds, comparing texts, and the
processors in two commands, comparing numbers.

The record may be changed by hand, once nothing runs and the streams are drained.
-/

open LabelledRuns

namespace GeoTrack

/-- The configured number of shards, within the bounds of the settings. -/
structure ShardSetting where
  count : ℕ
  positive : 1 ≤ count
  atMost : count ≤ 256
deriving DecidableEq

/-- A start that is refused by the API. -/
structure ShardCountMismatchError where
  configured : ℕ
  recorded : String
deriving DecidableEq

/-- `verify_shard_count` of the API: what the key holds afterwards. -/
def verifyShardCount (shards : ShardSetting) (recorded : Option String) :
    Except ShardCountMismatchError String :=
  match recorded with
  | none => .ok (toString shards.count)
  | some previous =>
      if previous ≠ toString shards.count then .error ⟨shards.count, previous⟩ else .ok previous

/-- The first command of `_verify_shard_count` of a processor. -/
def claimShardCount (shards : ShardSetting) (recorded : Option String) : String :=
  recorded.getD (toString shards.count)

/-- The white space that `int` skips in `bytes`. -/
def isByteSpace (character : Char) : Bool :=
  let code := character.toNat
  (9 ≤ code && code ≤ 13) || code = 32

/-- `int(data)`, for the text of some `bytes`. -/
def readByteInt (text : List Char) : Option ℤ := readSigned (strip isByteSpace text)

/-- The second command and the comparison; a text that is no number raises as
well. -/
def confirmShardCount (shards : ShardSetting) (recorded : Option String) : Bool :=
  match recorded with
  | none => true
  | some text => readByteInt text.toList = some (shards.count : ℤ)

/-- A process that has begun to start. -/
inductive ShardProcess where
  | edge (shards : ShardSetting)
  /-- A processor between its two commands. -/
  | claiming (shards : ShardSetting)
  | processor (shards : ShardSetting)
deriving DecidableEq

/-- The key, the processes, and the entries that nobody has acknowledged, each
with the number of its stream. -/
structure ShardCluster where
  recorded : Option String
  processes : Dict ℕ ShardProcess
  entries : List (ℕ × DeviceId)

inductive ClusterEvent where
  | startEdge (id : ℕ) (shards : ShardSetting)
  | claim (id : ℕ) (shards : ShardSetting)
  | confirm (id : ℕ)
  /-- A process ends, for whatever reason. -/
  | stop (id : ℕ)
  | report (id : ℕ) (deviceId : DeviceId)
  | acknowledge (id : ℕ) (entry : ℕ × DeviceId)
  /-- The key is changed by hand. -/
  | overwrite (recorded : Option String)

namespace ShardCluster

def fresh : ShardCluster := ⟨none, ∅, []⟩

def put (cluster : ShardCluster) (id : ℕ) (process : ShardProcess) : ShardCluster :=
  { cluster with processes := cluster.processes.set id process }

def step (cluster : ShardCluster) : ClusterEvent → Option ShardCluster
  | .startEdge id shards =>
      if id ∈ cluster.processes then none
      else
        match verifyShardCount shards cluster.recorded with
        | .ok recorded => some ({ cluster with recorded := some recorded }.put id (.edge shards))
        | .error _ => some cluster
  | .claim id shards =>
      if id ∈ cluster.processes then none
      else
        some ({ cluster with recorded := some (claimShardCount shards cluster.recorded) }.put id
          (.claiming shards))
  | .confirm id =>
      match cluster.processes.get? id with
      | some (.claiming shards) =>
          if confirmShardCount shards cluster.recorded then
            some (cluster.put id (.processor shards))
          else
            some { cluster with processes := cluster.processes.erase id }
      | _ => none
  | .stop id => some { cluster with processes := cluster.processes.erase id }
  | .report id deviceId =>
      match cluster.processes.get? id with
      | some (.edge shards) =>
          some { cluster with
            entries := cluster.entries ++ [(shardFor deviceId shards.count, deviceId)] }
      | _ => none
  | .acknowledge id entry =>
      match cluster.processes.get? id with
      | some (.processor shards) =>
          if entry.1 < shards.count then
            some { cluster with entries := cluster.entries.erase entry }
          else
            none
      | _ => none
  | .overwrite recorded => some { cluster with recorded := recorded }

/-- The record is only changed by hand when nothing runs and nothing is queued. -/
def Drained (cluster : ShardCluster) : ClusterEvent → Prop
  | .overwrite _ => cluster.processes.keys = [] ∧ cluster.entries = []
  | _ => True

instance (cluster : ShardCluster) : ∀ event, Decidable (cluster.Drained event)
  | .overwrite _ => inferInstanceAs (Decidable (_ ∧ _))
  | .startEdge .. | .claim .. | .confirm _ | .stop _ | .report .. | .acknowledge .. =>
      isTrue trivial

/-- A replica of the API that takes reports, or a processor that reads streams. -/
def Serves (cluster : ShardCluster) (id : ℕ) (shards : ShardSetting) : Prop :=
  cluster.processes.get? id = some (.edge shards) ∨
    cluster.processes.get? id = some (.processor shards)

section Records

/-- The key holds a text that both kinds of process take for this number. -/
def Reads (recorded : Option String) (count : ℕ) : Prop :=
  ∃ text, recorded = some text ∧ readByteInt text.toList = some (count : ℤ)

theorem Reads.unique {recorded : Option String} {count other : ℕ} (reads : Reads recorded count)
    (also : Reads recorded other) : count = other := by
  obtain ⟨text, rfl, first⟩ := reads
  obtain ⟨same, isSame, second⟩ := also
  obtain rfl := Option.some.inj isSame
  rw [first] at second
  exact_mod_cast Option.some.inj second

/-- The text of every number that can be configured is read back as it. -/
theorem readByteInt_toString (shards : ShardSetting) :
    readByteInt (toString shards.count).toList = some (shards.count : ℤ) := by
  have all : ∀ count : ℕ, count < 257 → readByteInt (toString count).toList = some (count : ℤ) := by
    decide +kernel
  exact all shards.count (Nat.lt_succ_of_le shards.atMost)

theorem reads_toString (shards : ShardSetting) :
    Reads (some (toString shards.count)) shards.count :=
  ⟨_, rfl, readByteInt_toString shards⟩

/-- An API that starts leaves a record of its own number, and one that was there
as it was. -/
theorem reads_of_verify {shards : ShardSetting} {recorded : Option String} {text : String}
    (verified : verifyShardCount shards recorded = .ok text) :
    Reads (some text) shards.count ∧ (recorded = none ∨ recorded = some text) := by
  unfold verifyShardCount at verified
  split at verified
  case h_1 =>
      obtain rfl := Except.ok.inj verified
      exact ⟨reads_toString shards, .inl rfl⟩
  case h_2 previous =>
      split at verified
      case isTrue => cases verified
      case isFalse same =>
          obtain rfl := Except.ok.inj verified
          rw [not_not.mp same]
          exact ⟨reads_toString shards, .inr rfl⟩

theorem claim_spec (shards : ShardSetting) (recorded : Option String) :
    recorded = none ∨ recorded = some (claimShardCount shards recorded) := by
  cases recorded with
  | none => exact .inl rfl
  | some text => exact .inr rfl

theorem reads_of_confirm {shards : ShardSetting} {recorded : Option String}
    (isSome : recorded.isSome = true) (confirmed : confirmShardCount shards recorded = true) :
    Reads recorded shards.count := by
  obtain ⟨text, rfl⟩ := Option.isSome_iff_exists.mp isSome
  exact ⟨text, rfl, of_decide_eq_true confirmed⟩

end Records

section Agreement

/-- Whoever serves is configured as the record says, and every entry is where that
number puts its device. -/
structure Agreed (cluster : ShardCluster) : Prop where
  serves : ∀ id shards, cluster.Serves id shards → Reads cluster.recorded shards.count
  claiming : ∀ id shards, cluster.processes.get? id = some (.claiming shards) →
    cluster.recorded.isSome = true
  entries : ∀ entry ∈ cluster.entries, ∃ count, 0 < count ∧ Reads cluster.recorded count ∧
    entry.1 = shardFor entry.2 count

variable {cluster after : ShardCluster} {id : ℕ} {shards : ShardSetting} {event : ClusterEvent}

/-- Where nothing runs and nothing is queued, any record will do. -/
theorem agreed_of_drained (nobody : cluster.processes.keys = []) (nothing : cluster.entries = []) :
    cluster.Agreed := by
  have absent (id : ℕ) : cluster.processes.get? id = none := by
    refine Dict.not_mem_iff.mp fun runs => ?_
    rw [← Dict.mem_keys_iff, nobody] at runs
    cases runs
  constructor
  · rintro id shards (edge | processor)
    · cases (absent id).symm.trans edge
    · cases (absent id).symm.trans processor
  · intro id shards claims
    cases (absent id).symm.trans claims
  · intro entry queued
    rw [nothing] at queued
    cases queued

theorem agreed_fresh : fresh.Agreed := agreed_of_drained rfl rfl

/-- A record that is made where there was none leaves everything agreed. -/
theorem Agreed.record (agreed : cluster.Agreed) {text : String}
    (keeps : cluster.recorded = none ∨ cluster.recorded = some text) :
    { cluster with recorded := some text }.Agreed := by
  have still {count : ℕ} (reads : Reads cluster.recorded count) : Reads (some text) count := by
    rcases keeps with none_ | same
    · obtain ⟨other, isSome, -⟩ := reads
      rw [none_] at isSome
      cases isSome
    · exact same ▸ reads
  constructor
  · exact fun id shards serves => still (agreed.serves id shards serves)
  · exact fun _ _ _ => rfl
  · intro entry queued
    obtain ⟨count, positive, reads, placed⟩ := agreed.entries entry queued
    exact ⟨count, positive, still reads, placed⟩

/-- A process that agrees with the record joins. -/
theorem Agreed.put (agreed : cluster.Agreed) {process : ShardProcess}
    (serves : ∀ shards, process = .edge shards ∨ process = .processor shards →
      Reads cluster.recorded shards.count)
    (claiming : ∀ shards, process = .claiming shards → cluster.recorded.isSome = true) :
    (cluster.put id process).Agreed := by
  have joined (other : ℕ) : (cluster.put id process).processes.get? other =
      if other = id then some process else cluster.processes.get? other := Dict.get?_set ..
  constructor
  · intro other shards runs
    rw [Serves, joined] at runs
    split at runs
    · exact serves shards (runs.imp Option.some.inj Option.some.inj)
    · exact agreed.serves other shards runs
  · intro other shards claims
    rw [joined] at claims
    split at claims
    · exact claiming shards (Option.some.inj claims)
    · exact agreed.claiming other shards claims
  · exact agreed.entries

theorem Agreed.erase (agreed : cluster.Agreed) (id : ℕ) :
    { cluster with processes := cluster.processes.erase id }.Agreed := by
  have left {other : ℕ} {process : ShardProcess}
      (runs : (cluster.processes.erase id).get? other = some process) :
      cluster.processes.get? other = some process := by
    rw [Dict.get?_erase] at runs
    split at runs
    · cases runs
    · exact runs
  constructor
  · exact fun other shards runs => agreed.serves other shards (runs.imp left left)
  · exact fun other shards claims => agreed.claiming other shards (left claims)
  · exact agreed.entries

theorem Agreed.step (agreed : cluster.Agreed) (drained : cluster.Drained event)
    (stepTo : cluster.step event = some after) : after.Agreed := by
  cases event with
  | startEdge id shards =>
      simp only [ShardCluster.step] at stepTo
      split at stepTo
      · cases stepTo
      split at stepTo
      case h_1 text verified =>
          obtain rfl := Option.some.inj stepTo
          obtain ⟨reads, keeps⟩ := reads_of_verify verified
          refine (agreed.record keeps).put (fun other own => ?_) fun _ _ => rfl
          rcases own with edge | processor
          · rw [← ShardProcess.edge.inj edge]
            exact reads
          · cases processor
      case h_2 =>
          obtain rfl := Option.some.inj stepTo
          exact agreed
  | claim id shards =>
      simp only [ShardCluster.step] at stepTo
      split at stepTo
      · cases stepTo
      obtain rfl := Option.some.inj stepTo
      refine (agreed.record (claim_spec shards _)).put (fun other own => ?_) fun _ _ => rfl
      rcases own with edge | processor
      · cases edge
      · cases processor
  | confirm id =>
      simp only [ShardCluster.step] at stepTo
      split at stepTo
      case h_2 => cases stepTo
      case h_1 shards claims =>
          have recorded := agreed.claiming id shards claims
          split at stepTo
          case isTrue confirmed =>
              obtain rfl := Option.some.inj stepTo
              refine agreed.put (fun other own => ?_) fun _ _ => recorded
              rcases own with edge | processor
              · cases edge
              · rw [← ShardProcess.processor.inj processor]
                exact reads_of_confirm recorded confirmed
          case isFalse =>
              obtain rfl := Option.some.inj stepTo
              exact agreed.erase id
  | stop id =>
      obtain rfl := Option.some.inj stepTo
      exact agreed.erase id
  | report id deviceId =>
      simp only [ShardCluster.step] at stepTo
      split at stepTo
      case h_2 => cases stepTo
      case h_1 shards runs =>
          obtain rfl := Option.some.inj stepTo
          refine ⟨agreed.serves, agreed.claiming, fun entry queued => ?_⟩
          rcases List.mem_append.mp queued with before | last
          · exact agreed.entries entry before
          · obtain rfl := List.mem_singleton.mp last
            exact ⟨shards.count, shards.positive, agreed.serves id shards (.inl runs), rfl⟩
  | acknowledge id entry =>
      simp only [ShardCluster.step] at stepTo
      split at stepTo
      case h_2 => cases stepTo
      case h_1 shards runs =>
          split at stepTo
          case isFalse => cases stepTo
          case isTrue =>
              obtain rfl := Option.some.inj stepTo
              exact ⟨agreed.serves, agreed.claiming, fun other queued =>
                agreed.entries other (List.mem_of_mem_erase queued)⟩
  | overwrite recorded =>
      obtain rfl := Option.some.inj stepTo
      exact agreed_of_drained drained.1 drained.2

/-- Whatever starts, stops and is refused: the processes that serve agree on the
number of shards, and every entry is on the one stream of its device, which is a
stream that the processors read. -/
theorem one_partitioning {events : List ClusterEvent}
    (run : Run ShardCluster.step Drained fresh events cluster) :
    (∀ id other shards others, cluster.Serves id shards → cluster.Serves other others →
      shards = others) ∧
      ∀ id shards, cluster.Serves id shards → ∀ entry ∈ cluster.entries,
        entry.1 = shardFor entry.2 shards.count ∧
          ∀ offset, entry.1 ∈ rotated shards.count offset := by
  have agreed : cluster.Agreed :=
    run.invariant agreed_fresh fun _ _ _ before drained stepTo => before.step drained stepTo
  constructor
  · rintro id other ⟨count, _, _⟩ ⟨otherCount, _, _⟩ serves also
    obtain rfl := (agreed.serves id _ serves).unique (agreed.serves other _ also)
    rfl
  · intro id shards serves entry queued
    obtain ⟨count, positive, reads, placed⟩ := agreed.entries entry queued
    obtain rfl := reads.unique (agreed.serves id shards serves)
    refine ⟨placed, fun offset => ?_⟩
    rw [mem_rotated, placed]
    exact Nat.mod_lt _ positive

/-- Two processors start at once beside the API, and one of them and a second API
are configured for another number. -/
def redeployment : List ClusterEvent :=
  [.claim 1 ⟨8, by decide, by decide⟩, .claim 2 ⟨4, by decide, by decide⟩, .confirm 2,
    .startEdge 3 ⟨8, by decide, by decide⟩, .report 3 "dev-1", .confirm 1,
    .startEdge 4 ⟨4, by decide, by decide⟩]

theorem one_partitioning_redeployment :
    ∃ cluster, Run ShardCluster.step Drained fresh redeployment cluster ∧
      cluster.processes.keys = [1, 3] ∧
      ∀ offset, (shardFor "dev-1" 8, "dev-1") ∈ cluster.entries ∧
        shardFor "dev-1" 8 ∈ rotated 8 offset := by
  obtain ⟨cluster, executed, running, queued, keys⟩ := @exists_of_exec _ _ ShardCluster.step Drained
    fresh _ (fun cluster => cluster.processes.get? 1 = some (.processor ⟨8, by decide, by decide⟩) ∧
      cluster.entries = [(shardFor "dev-1" 8, "dev-1")] ∧ cluster.processes.keys = [1, 3])
    _ redeployment (by decide +kernel)
  have run := run_of_exec executed
  have listed : (shardFor "dev-1" 8, "dev-1") ∈ cluster.entries := by
    rw [queued]
    exact List.mem_singleton_self _
  have agreed := (one_partitioning run).2 1 _ (.inr running) _ listed
  exact ⟨cluster, run, keys, fun offset => ⟨listed, agreed.2 offset⟩⟩

end Agreement

end ShardCluster

end GeoTrack
