import GeoTrack.LabelledRuns
import GeoTrack.Tables
import Mathlib.Data.List.Chain

/-!
# The connections of a replica

Membership is decided in one piece, under a lock that is never held across an
await.  The subscription follows outside it: every call that changed the
membership of a user waits for that user's lock and then runs the hooks until
the subscription matches the membership it reads after each of them.  The lock
lives in a record that the calls of one user share and the last of them drops.

A call is suspended where it waits for the lock and where it runs a hook; the
steps of different calls interleave there in any order.
-/

namespace GeoTrack

open LabelledRuns

/-- A connection, by the identity of its object. -/
structure ConnectionRef where
  serial : ℕ
  userId : Uuid
deriving DecidableEq

inductive UserHook where
  | onFirst
  | onLast
deriving DecidableEq

inductive RegistryOp where
  | add
  | remove
deriving DecidableEq

inductive SyncStage where
  /-- For the lock of the user. -/
  | waiting
  | hooking (hook : UserHook)
deriving DecidableEq

/-- A call in `_sync_user`, with the record it took there. -/
structure RegistryCall where
  kind : RegistryOp
  connection : ConnectionRef
  sync : ℕ
  stage : SyncStage
deriving DecidableEq

def RegistryCall.userId (call : RegistryCall) : Uuid := call.connection.userId

structure Sync where
  locked : Bool
  callers : ℕ
deriving DecidableEq

/-- The calls in progress and the records they share.  A record is an object of
its own: a call keeps the one it took, whatever the dictionary says later. -/
structure SyncTable where
  syncs : Dict Uuid ℕ
  objects : Dict ℕ Sync
  nextSync : ℕ
  calls : Dict ℕ RegistryCall

namespace SyncTable

def object (table : SyncTable) (sync : ℕ) : Sync := (table.objects.get? sync).getD ⟨false, 0⟩

/-- Take the record of the user, or make one, and begin to wait for its lock. -/
def join (table : SyncTable) (task : ℕ) (kind : RegistryOp) (connection : ConnectionRef) : SyncTable :=
  match table.syncs.get? connection.userId with
  | some sync =>
      { table with
        objects := table.objects.set sync
          { table.object sync with callers := (table.object sync).callers + 1 }
        calls := table.calls.set task ⟨kind, connection, sync, .waiting⟩ }
  | none =>
      { syncs := table.syncs.set connection.userId table.nextSync
        objects := table.objects.set table.nextSync ⟨false, 1⟩
        nextSync := table.nextSync + 1
        calls := table.calls.set task ⟨kind, connection, table.nextSync, .waiting⟩ }

/-- Start a hook under the lock. -/
def enter (table : SyncTable) (task : ℕ) (call : RegistryCall) (hook : UserHook) : SyncTable :=
  { table with
    objects := table.objects.set call.sync { table.object call.sync with locked := true }
    calls := table.calls.set task { call with stage := .hooking hook } }

/-- Give the lock back, if the call has it, and drop the record with the last
caller. -/
def leave (table : SyncTable) (task : ℕ) (call : RegistryCall) : SyncTable :=
  let callers := (table.object call.sync).callers - 1
  { table with
    objects := table.objects.set call.sync
      { locked := if call.stage = .waiting then (table.object call.sync).locked else false
        callers := callers }
    syncs := if callers = 0 then table.syncs.erase call.userId else table.syncs
    calls := table.calls.erase task }

/-- Every call holds the record in the dictionary, which counts them, and at most
one of them is under its lock. -/
structure Counted (table : SyncTable) : Prop where
  registered : ∀ task call, table.calls.get? task = some call →
    table.syncs.get? call.userId = some call.sync
  counted : ∀ userId sync, table.syncs.get? userId = some sync →
    (table.object sync).callers = (table.calls.filter fun _ call => call.sync = sync).size ∧
      0 < (table.object sync).callers
  injective : ∀ userId other sync, table.syncs.get? userId = some sync →
    table.syncs.get? other = some sync → userId = other
  allocated : ∀ userId sync, table.syncs.get? userId = some sync → sync < table.nextSync
  locked : ∀ task call hook, table.calls.get? task = some call → call.stage = .hooking hook →
    (table.object call.sync).locked = true
  exclusive : ∀ task other call another hook otherHook, table.calls.get? task = some call →
    table.calls.get? other = some another → call.stage = .hooking hook →
    another.stage = .hooking otherHook → call.sync = another.sync → task = other

variable {table : SyncTable} {task : ℕ} {call : RegistryCall}

@[simp]
theorem object_set (sync other : ℕ) (object : Sync) (syncs : Dict Uuid ℕ) (nextSync : ℕ)
    (calls : Dict ℕ RegistryCall) :
    SyncTable.object ⟨syncs, table.objects.set sync object, nextSync, calls⟩ other =
      if other = sync then object else table.object other := by
  by_cases same : other = sync <;> simp [SyncTable.object, same]

theorem get?_enter_self (table : SyncTable) (task : ℕ) (call : RegistryCall) (hook : UserHook) :
    (table.enter task call hook).calls.get? task = some { call with stage := .hooking hook } := by
  simp [SyncTable.enter]

theorem counted_fresh : Counted ⟨∅, ∅, 0, ∅⟩ := by
  refine ⟨?_, ?_, ?_, ?_, ?_, ?_⟩
  all_goals
    intros
    contradiction

/-- Calls of different users never share a record. -/
theorem Counted.sync_eq_iff (counted : table.Counted) {other : ℕ} {another : RegistryCall}
    (known : table.calls.get? task = some call) (alsoKnown : table.calls.get? other = some another) :
    call.sync = another.sync ↔ call.userId = another.userId := by
  have first := counted.registered task call known
  have second := counted.registered other another alsoKnown
  constructor
  · intro same
    rw [same] at first
    exact counted.injective _ _ _ first second
  · intro same
    rw [same, second] at first
    exact (Option.some.inj first).symm

theorem Counted.enter (counted : table.Counted) (known : table.calls.get? task = some call)
    (alone : ∀ other another hook, table.calls.get? other = some another →
      another.stage = .hooking hook → call.sync = another.sync → other = task) (hook : UserHook) :
    (table.enter task call hook).Counted := by
  refine ⟨?_, ?_, counted.injective, counted.allocated, ?_, ?_⟩
  · intro other another found
    rcases Dict.get?_set_cases found with ⟨-, rfl⟩ | ⟨-, earlier⟩
    · exact counted.registered task call known
    · exact counted.registered other another earlier
  · intro userId sync found
    obtain ⟨same, positive⟩ := counted.counted userId sync found
    have callers : ((table.enter task call hook).object sync).callers =
        (table.object sync).callers := by
      simp only [SyncTable.enter, object_set]
      split
      case isTrue same => rw [same]
      case isFalse => rfl
    rw [callers]
    refine ⟨?_, positive⟩
    rw [same]
    refine (Dict.size_filter_replace known ?_).symm
    rfl
  · intro other another otherHook found isHooking
    rcases Dict.get?_set_cases found with ⟨-, rfl⟩ | ⟨-, earlier⟩
    · simp [SyncTable.enter]
    · have locked := counted.locked other another otherHook earlier isHooking
      simp only [SyncTable.enter, object_set]
      split
      case isTrue => rfl
      case isFalse => exact locked
  · intro first second one two hookOne hookTwo foundOne foundTwo isOne isTwo same
    rcases Dict.get?_set_cases foundOne with ⟨rfl, rfl⟩ | ⟨-, earlierOne⟩
    · rcases Dict.get?_set_cases foundTwo with ⟨rfl, -⟩ | ⟨-, earlierTwo⟩
      · rfl
      · exact (alone second two hookTwo earlierTwo isTwo same).symm
    · rcases Dict.get?_set_cases foundTwo with ⟨rfl, rfl⟩ | ⟨-, earlierTwo⟩
      · exact alone first one hookOne earlierOne isOne same.symm
      · exact counted.exclusive first second one two hookOne hookTwo earlierOne earlierTwo isOne
          isTwo same

/-- A call that waits is not in a hook. -/
theorem Counted.exclusive_wait (counted : table.Counted)
    (waits : ∀ hook, call.stage ≠ .hooking hook) :
    ∀ first second one two hookOne hookTwo, (table.calls.set task call).get? first = some one →
      (table.calls.set task call).get? second = some two → one.stage = .hooking hookOne →
      two.stage = .hooking hookTwo → one.sync = two.sync → first = second := by
  intro first second one two hookOne hookTwo foundOne foundTwo isOne isTwo same
  rcases Dict.get?_set_cases foundOne with ⟨-, rfl⟩ | ⟨-, earlierOne⟩
  · exact absurd isOne (waits hookOne)
  · rcases Dict.get?_set_cases foundTwo with ⟨-, rfl⟩ | ⟨-, earlierTwo⟩
    · exact absurd isTwo (waits hookTwo)
    · exact counted.exclusive first second one two hookOne hookTwo earlierOne earlierTwo isOne
        isTwo same

theorem Counted.joinKnown (counted : table.Counted) (free : task ∉ table.calls) (kind : RegistryOp)
    (connection : ConnectionRef) {sync : ℕ}
    (known : table.syncs.get? connection.userId = some sync) :
    Counted { table with
      objects := table.objects.set sync
        { table.object sync with callers := (table.object sync).callers + 1 }
      calls := table.calls.set task ⟨kind, connection, sync, .waiting⟩ } := by
  refine ⟨?_, ?_, counted.injective, counted.allocated, ?_, ?_⟩
  · intro other another found
    rcases Dict.get?_set_cases found with ⟨-, rfl⟩ | ⟨-, earlier⟩
    · exact known
    · exact counted.registered other another earlier
  · intro userId other found
    obtain ⟨same, positive⟩ := counted.counted userId other found
    rw [object_set, Dict.size_filter_set free]
    by_cases about : other = sync
    · subst about
      simp [same]
    · have differs : sync ≠ other := fun equal => about equal.symm
      simp only [about, if_false, differs, decide_false, Bool.false_eq_true, Nat.add_zero]
      exact ⟨same, positive⟩
  · intro other another hook found isHooking
    rcases Dict.get?_set_cases found with ⟨-, rfl⟩ | ⟨-, earlier⟩
    · cases isHooking
    · have locked := counted.locked other another hook earlier isHooking
      rw [object_set]
      split
      case isTrue same => rwa [← same]
      case isFalse => exact locked
  · exact counted.exclusive_wait (fun hook => by simp)

/-- No call can hold a record that was never made. -/
theorem Counted.none_with_next (counted : table.Counted) :
    (table.calls.filter fun _ call => call.sync = table.nextSync).size = 0 := by
  rw [← Dict.card_support, Finset.card_eq_zero, Finset.eq_empty_iff_forall_notMem]
  intro other listed
  rw [Dict.mem_support, Dict.mem_filter] at listed
  obtain ⟨another, found, isNext⟩ := listed
  have below := counted.allocated _ _ (counted.registered other another found)
  rw [of_decide_eq_true isNext] at below
  exact lt_irrefl _ below

theorem Counted.joinNew (counted : table.Counted) (free : task ∉ table.calls) (kind : RegistryOp)
    (connection : ConnectionRef) (unknown : table.syncs.get? connection.userId = none) :
    Counted {
      syncs := table.syncs.set connection.userId table.nextSync
      objects := table.objects.set table.nextSync ⟨false, 1⟩
      nextSync := table.nextSync + 1
      calls := table.calls.set task ⟨kind, connection, table.nextSync, .waiting⟩ } := by
  have syncs : ∀ userId sync,
      (table.syncs.set connection.userId table.nextSync).get? userId = some sync →
      userId = connection.userId ∧ sync = table.nextSync ∨
        table.syncs.get? userId = some sync ∧ sync < table.nextSync := by
    intro userId sync found
    refine (Dict.get?_set_cases found).imp_right ?_
    rintro ⟨-, earlier⟩
    exact ⟨earlier, counted.allocated userId sync earlier⟩
  refine ⟨?_, ?_, ?_, ?_, ?_, ?_⟩
  · intro other another found
    rcases Dict.get?_set_cases found with ⟨-, rfl⟩ | ⟨-, earlier⟩
    · simp [RegistryCall.userId]
    · have registered := counted.registered other another earlier
      rw [Dict.get?_set, if_neg]
      · exact registered
      · intro same
        rw [same, unknown] at registered
        cases registered
  · intro userId sync found
    rw [object_set, Dict.size_filter_set free]
    rcases syncs userId sync found with ⟨-, rfl⟩ | ⟨earlier, below⟩
    · simp [counted.none_with_next]
    · obtain ⟨same, positive⟩ := counted.counted userId sync earlier
      have differs : sync ≠ table.nextSync := by omega
      simp only [differs, differs.symm, if_false, decide_false, Bool.false_eq_true, Nat.add_zero]
      exact ⟨same, positive⟩
  · intro userId other sync found foundOther
    rcases syncs userId sync found with ⟨rfl, rfl⟩ | ⟨earlier, below⟩
    · rcases syncs other _ foundOther with ⟨rfl, -⟩ | ⟨-, below⟩
      · rfl
      · exact absurd below (lt_irrefl _)
    · rcases syncs other sync foundOther with ⟨-, rfl⟩ | ⟨earlierOther, -⟩
      · exact absurd below (lt_irrefl _)
      · exact counted.injective userId other sync earlier earlierOther
  · intro userId sync found
    dsimp only
    rcases syncs userId sync found with ⟨-, rfl⟩ | ⟨-, below⟩ <;> omega
  · intro other another hook found isHooking
    rcases Dict.get?_set_cases found with ⟨-, rfl⟩ | ⟨-, earlier⟩
    · cases isHooking
    · have below := counted.allocated _ _ (counted.registered other another earlier)
      rw [object_set, if_neg (by omega)]
      exact counted.locked other another hook earlier isHooking
  · exact counted.exclusive_wait (fun hook => by simp)

theorem Counted.join (counted : table.Counted) (free : task ∉ table.calls) (kind : RegistryOp)
    (connection : ConnectionRef) : (table.join task kind connection).Counted := by
  unfold SyncTable.join
  split
  case h_1 sync known => exact counted.joinKnown free kind connection known
  case h_2 unknown => exact counted.joinNew free kind connection unknown

theorem Counted.leave (counted : table.Counted) (known : table.calls.get? task = some call) :
    (table.leave task call).Counted := by
  have isKnown := counted.registered task call known
  obtain ⟨size, positive⟩ := counted.counted _ _ isKnown
  have fewer := Dict.size_filter_erase known fun _ other => decide (other.sync = call.sync)
  simp only [decide_true, if_true] at fewer
  have syncs : ∀ userId sync, (table.leave task call).syncs.get? userId = some sync →
      table.syncs.get? userId = some sync ∧
        (sync = call.sync → (table.object call.sync).callers - 1 ≠ 0) := by
    intro userId sync found
    simp only [SyncTable.leave] at found
    split at found
    case isTrue last =>
        obtain ⟨differs, earlier⟩ := Dict.of_get?_erase found
        refine ⟨earlier, ?_⟩
        rintro rfl
        exact absurd (counted.injective _ _ _ earlier isKnown) differs
    case isFalse more => exact ⟨found, fun _ => more⟩
  refine ⟨?_, ?_, ?_, ?_, ?_, ?_⟩
  · intro other another found
    obtain ⟨differs, earlier⟩ := Dict.of_get?_erase found
    have registered := counted.registered other another earlier
    simp only [SyncTable.leave]
    split
    case isFalse => exact registered
    case isTrue last =>
        rw [Dict.get?_erase, if_neg]
        · exact registered
        · -- the other call of the user is counted as well
          intro same
          have shared := (counted.sync_eq_iff earlier known).mpr same
          have listed : other ∈ (table.calls.erase task).filter
              fun _ third => decide (third.sync = call.sync) := by
            rw [Dict.mem_filter]
            exact ⟨another, by rw [Dict.get?_erase, if_neg differs]; exact earlier, by simp [shared]⟩
          have some_ := Finset.card_pos.mpr ⟨other, Dict.mem_support.mpr listed⟩
          rw [Dict.card_support] at some_
          omega
  · intro userId sync found
    obtain ⟨earlier, more⟩ := syncs userId sync found
    obtain ⟨same, positiveHere⟩ := counted.counted userId sync earlier
    simp only [SyncTable.leave, object_set]
    by_cases about : sync = call.sync
    · subst about
      have remaining := more rfl
      simp only [if_true]
      omega
    · have differs : call.sync ≠ sync := fun equal => about equal.symm
      have others := Dict.size_filter_erase known fun _ other => decide (other.sync = sync)
      simp only [differs, decide_false, Bool.false_eq_true, if_false] at others
      simp only [about, if_false]
      exact ⟨by omega, positiveHere⟩
  · intro userId other sync found foundOther
    exact counted.injective userId other sync (syncs userId sync found).1
      (syncs other sync foundOther).1
  · intro userId sync found
    exact counted.allocated userId sync (syncs userId sync found).1
  · intro other another hook found isHooking
    obtain ⟨differs, earlier⟩ := Dict.of_get?_erase found
    have locked := counted.locked other another hook earlier isHooking
    simp only [SyncTable.leave, object_set]
    split
    case isFalse => exact locked
    case isTrue same =>
        cases stage : call.stage with
        | waiting => simpa [← same] using locked
        | hooking own =>
            exact absurd (counted.exclusive other task another call hook own earlier known isHooking
              stage same) differs
  · intro first second one two hookOne hookTwo foundOne foundTwo isOne isTwo same
    exact counted.exclusive first second one two hookOne hookTwo (Dict.of_get?_erase foundOne).2
      (Dict.of_get?_erase foundTwo).2 isOne isTwo same

end SyncTable

structure ConnectionRegistry where
  byUser : Dict Uuid (KeySet ConnectionRef)
  subscribed : KeySet Uuid
  table : SyncTable
  /-- The hooks that ran to completion. -/
  completed : List (Uuid × UserHook)

inductive RegistryEvent where
  | add (task : ℕ) (connection : ConnectionRef) (limit : ℕ)
  | remove (task : ℕ) (connection : ConnectionRef)
  /-- A waiting call gets the lock. -/
  | acquire (task : ℕ)
  | hookDone (task : ℕ)
  /-- An exception or a cancellation reaches a call where it is suspended. -/
  | raise (task : ℕ)
deriving DecidableEq

namespace ConnectionRegistry

def fresh : ConnectionRegistry where
  byUser := ∅
  subscribed := ∅
  table := ⟨∅, ∅, 0, ∅⟩
  completed := []

def forUser (registry : ConnectionRegistry) (userId : Uuid) : KeySet ConnectionRef :=
  (registry.byUser.get? userId).getD ∅

/-- The test of the loop, under the lock: run a hook or be done. -/
def settle (registry : ConnectionRegistry) (task : ℕ) (call : RegistryCall) : ConnectionRegistry :=
  if call.userId ∈ registry.byUser ↔ call.userId ∈ registry.subscribed then
    { registry with table := registry.table.leave task call }
  else
    { registry with
      table := registry.table.enter task call
        (if call.userId ∈ registry.byUser then .onFirst else .onLast) }

/-- What `add` and `remove` do under the admission lock; `none` when they return
from there. -/
def addConnection (registry : ConnectionRegistry) (connection : ConnectionRef) (limit : ℕ) :
    Option (Dict Uuid (KeySet ConnectionRef)) :=
  let connections := registry.forUser connection.userId
  if connections.size ≥ limit then none
  else some (registry.byUser.set connection.userId (connections.add connection))

def dismiss (registry : ConnectionRegistry) (connection : ConnectionRef) :
    Option (Dict Uuid (KeySet ConnectionRef)) :=
  match registry.byUser.get? connection.userId with
  | none => none
  | some connections =>
      if connection ∉ connections then none
      else if (connections.discard connection).size = 0 then
        some (registry.byUser.erase connection.userId)
      else
        some (registry.byUser.set connection.userId (connections.discard connection))

/-- The hook has returned. -/
def complete (registry : ConnectionRegistry) (userId : Uuid) (hook : UserHook) :
    ConnectionRegistry :=
  { registry with
    subscribed := match hook with
      | .onFirst => registry.subscribed.add userId
      | .onLast => registry.subscribed.discard userId
    completed := registry.completed ++ [(userId, hook)] }

def step (registry : ConnectionRegistry) : RegistryEvent → Option ConnectionRegistry
  | .add task connection limit =>
      if task ∈ registry.table.calls then none
      else
        match registry.addConnection connection limit with
        | none => some registry
        | some byUser =>
            some { registry with
              byUser := byUser
              table := registry.table.join task .add connection }
  | .remove task connection =>
      if task ∈ registry.table.calls then none
      else
        match registry.dismiss connection with
        | none => some registry
        | some byUser =>
            some { registry with
              byUser := byUser
              table := registry.table.join task .remove connection }
  | .acquire task =>
      match registry.table.calls.get? task with
      | some call =>
          if call.stage = .waiting ∧ (registry.table.object call.sync).locked = false then
            some (registry.settle task call)
          else
            none
      | none => none
  | .hookDone task =>
      match registry.table.calls.get? task with
      | some call =>
          match call.stage with
          | .hooking hook => some ((registry.complete call.userId hook).settle task call)
          | .waiting => none
      | none => none
  | .raise task =>
      match registry.table.calls.get? task with
      | some call => some { registry with table := registry.table.leave task call }
      | none => none

/-- The hooks complete normally and nothing is cancelled. -/
def Normally (_ : ConnectionRegistry) (event : RegistryEvent) : Prop := ∀ task, event ≠ .raise task

instance (registry : ConnectionRegistry) (event : RegistryEvent) :
    Decidable (registry.Normally event) :=
  match event with
  | .add .. | .remove .. | .acquire _ | .hookDone _ => isTrue (by intro task same; cases same)
  | .raise task => isFalse fun normally => normally task rfl

/-- What a step can do. -/
inductive Effect (registry : ConnectionRegistry) : RegistryEvent → ConnectionRegistry → Prop where
  | refused (task : ℕ) (connection : ConnectionRef) (limit : ℕ)
      (full : (registry.forUser connection.userId).size ≥ limit) :
      Effect registry (.add task connection limit) registry
  | admitted (task : ℕ) (connection : ConnectionRef) (limit : ℕ)
      (free : task ∉ registry.table.calls)
      (room : (registry.forUser connection.userId).size < limit) :
      Effect registry (.add task connection limit) { registry with
        byUser := registry.byUser.set connection.userId
          ((registry.forUser connection.userId).add connection)
        table := registry.table.join task .add connection }
  | unknown (task : ℕ) (connection : ConnectionRef)
      (absent : connection ∉ registry.forUser connection.userId) :
      Effect registry (.remove task connection) registry
  | dismissed (task : ℕ) (connection : ConnectionRef) (byUser : Dict Uuid (KeySet ConnectionRef))
      (free : task ∉ registry.table.calls)
      (fewer : ∀ userId, byUser.get? userId = if userId = connection.userId then
          some ((registry.forUser userId).discard connection) |>.filter fun kept => kept.size ≠ 0
        else registry.byUser.get? userId) :
      Effect registry (.remove task connection) { registry with
        byUser := byUser
        table := registry.table.join task .remove connection }
  | acquired (task : ℕ) (call : RegistryCall) (known : registry.table.calls.get? task = some call)
      (unlocked : (registry.table.object call.sync).locked = false) :
      Effect registry (.acquire task) (registry.settle task call)
  | completed (task : ℕ) (call : RegistryCall) (hook : UserHook)
      (known : registry.table.calls.get? task = some call) (isHooking : call.stage = .hooking hook) :
      Effect registry (.hookDone task) ((registry.complete call.userId hook).settle task call)
  | raised (task : ℕ) (call : RegistryCall) (known : registry.table.calls.get? task = some call) :
      Effect registry (.raise task) { registry with table := registry.table.leave task call }

section Steps

variable {registry after : ConnectionRegistry}

/-- The connection leaves the set of its user, and an empty set is not kept. -/
theorem dismiss_spec (registry : ConnectionRegistry) (connection : ConnectionRef) :
    match registry.dismiss connection with
    | none => connection ∉ registry.forUser connection.userId
    | some byUser => ∀ userId, byUser.get? userId = if userId = connection.userId then
          some ((registry.forUser userId).discard connection) |>.filter fun kept => kept.size ≠ 0
        else registry.byUser.get? userId := by
  unfold dismiss
  cases found : registry.byUser.get? connection.userId with
  | none => simp [forUser, found]
  | some connections =>
      have held : registry.forUser connection.userId = connections := by simp [forUser, found]
      dsimp only
      by_cases absent : connection ∉ connections
      · rw [if_pos absent]
        dsimp only
        rw [held]
        exact absent
      · rw [if_neg absent]
        by_cases empty : (connections.discard connection).size = 0
        · rw [if_pos empty]
          intro userId
          by_cases about : userId = connection.userId
          · subst about
            simp [held, Option.filter, empty]
          · simp [about]
        · rw [if_neg empty]
          intro userId
          by_cases about : userId = connection.userId
          · subst about
            simp [held, Option.filter, empty]
          · simp [about]

theorem effect_of_step {event : RegistryEvent} (stepTo : registry.step event = some after) :
    registry.Effect event after := by
  cases event with
  | add task connection limit =>
      simp only [step, addConnection] at stepTo
      split at stepTo
      case isTrue => cases stepTo
      case isFalse free =>
          by_cases full : (registry.forUser connection.userId).size ≥ limit
          · rw [if_pos full] at stepTo
            obtain rfl := Option.some.inj stepTo
            exact .refused task connection limit full
          · rw [if_neg full] at stepTo
            obtain rfl := Option.some.inj stepTo
            exact .admitted task connection limit free (not_le.mp full)
  | remove task connection =>
      simp only [step] at stepTo
      split at stepTo
      case isTrue => cases stepTo
      case isFalse free =>
          have spec := dismiss_spec registry connection
          cases outcome : registry.dismiss connection with
          | none =>
              rw [outcome] at stepTo spec
              obtain rfl := Option.some.inj stepTo
              exact .unknown task connection spec
          | some byUser =>
              rw [outcome] at stepTo spec
              obtain rfl := Option.some.inj stepTo
              exact .dismissed task connection byUser free spec
  | acquire task =>
      simp only [step] at stepTo
      split at stepTo
      case h_2 => cases stepTo
      case h_1 call known =>
          split at stepTo
          case isFalse => cases stepTo
          case isTrue ready =>
              obtain rfl := Option.some.inj stepTo
              exact .acquired task call known ready.2
  | hookDone task =>
      simp only [step] at stepTo
      split at stepTo
      case h_2 => cases stepTo
      case h_1 call known =>
          split at stepTo
          case h_2 => cases stepTo
          case h_1 hook isHooking =>
              obtain rfl := Option.some.inj stepTo
              exact .completed task call hook known isHooking
  | raise task =>
      simp only [step] at stepTo
      split at stepTo
      case h_2 => cases stepTo
      case h_1 call known =>
          obtain rfl := Option.some.inj stepTo
          exact .raised task call known

@[simp]
theorem settle_byUser (registry : ConnectionRegistry) (task : ℕ) (call : RegistryCall) :
    (registry.settle task call).byUser = registry.byUser := by
  unfold settle
  split <;> rfl

@[simp]
theorem settle_subscribed (registry : ConnectionRegistry) (task : ℕ) (call : RegistryCall) :
    (registry.settle task call).subscribed = registry.subscribed := by
  unfold settle
  split <;> rfl

/-- A call ends where the subscription matches. -/
theorem matches_of_settle {task : ℕ} {call : RegistryCall}
    (ended : task ∉ (registry.settle task call).table.calls) :
    call.userId ∈ registry.byUser ↔ call.userId ∈ registry.subscribed := by
  unfold settle at ended
  split at ended
  case isTrue same => exact same
  case isFalse =>
      exact absurd (Dict.mem_iff_exists.mpr ⟨_, SyncTable.get?_enter_self ..⟩) ended

theorem settle_calls_of_ne {task other : ℕ} (differs : other ≠ task) (call : RegistryCall) :
    (registry.settle task call).table.calls.get? other = registry.table.calls.get? other := by
  unfold settle
  split
  · simp [SyncTable.leave, differs]
  · simp [SyncTable.enter, differs]

theorem calls_join (table : SyncTable) (task : ℕ) (kind : RegistryOp) (connection : ConnectionRef) :
    ∃ sync, (table.join task kind connection).calls =
      table.calls.set task ⟨kind, connection, sync, .waiting⟩ := by
  unfold SyncTable.join
  split
  case h_1 sync _ => exact ⟨sync, rfl⟩
  case h_2 => exact ⟨table.nextSync, rfl⟩

/-- Only an `add` brings a connection into the registry. -/
theorem mem_forUser_of_effect {event : RegistryEvent} (effect : registry.Effect event after)
    {userId : Uuid} {connection : ConnectionRef} (found : connection ∈ after.forUser userId) :
    connection ∈ registry.forUser userId ∨ ∃ task limit, event = .add task connection limit := by
  cases effect with
  | refused | unknown | raised => exact Or.inl found
  | admitted task other limit free room =>
      simp only [forUser, Dict.get?_set] at found ⊢
      split at found
      case isTrue same =>
          rcases KeySet.mem_add.mp found with rfl | earlier
          · exact Or.inr ⟨task, limit, rfl⟩
          · rw [same]
            exact Or.inl earlier
      case isFalse => exact Or.inl found
  | dismissed task other byUser free fewer =>
      rw [forUser, fewer] at found
      split at found
      case isTrue =>
          left
          by_cases empty : ((registry.forUser userId).discard other).size = 0
          · simp [Option.filter, empty] at found
          · simp only [Option.filter, empty, ne_eq, not_false_eq_true, decide_true, if_true,
              Option.getD_some] at found
            exact (KeySet.mem_discard.mp found).2
      case isFalse => exact Or.inl found
  | acquired task call known unlocked =>
      rw [forUser, settle_byUser] at found
      exact Or.inl found
  | completed task call hook known isHooking =>
      rw [forUser, settle_byUser] at found
      exact Or.inl found

end Steps

/-- The completed hooks of one user. -/
def hooksOf (registry : ConnectionRegistry) (userId : Uuid) : List UserHook :=
  registry.completed.filterMap fun entry => if entry.1 = userId then some entry.2 else none

/-- They alternate, starting with `onFirst`. -/
def Alternates (hooks : List UserHook) : Prop :=
  (∀ hook ∈ hooks.head?, hook = .onFirst) ∧ hooks.IsChain (· ≠ ·)

/-- The registry between two steps; `exempt` is the call in the middle of its own. -/
structure Agrees (registry : ConnectionRegistry) (exempt : ℕ → Prop) : Prop where
  table : registry.table.Counted
  inhabited : ∀ userId connections, registry.byUser.get? userId = some connections →
    ∃ connection, connection ∈ connections
  covered : ∀ userId, (userId ∈ registry.byUser ↔ userId ∈ registry.subscribed) ∨
    ∃ task call, registry.table.calls.get? task = some call ∧ call.userId = userId
  /-- A running hook is the one that would change the subscription. -/
  needed : ∀ task call hook, ¬ exempt task → registry.table.calls.get? task = some call →
    call.stage = .hooking hook → (hook = .onFirst ↔ call.userId ∉ registry.subscribed)
  alternates : ∀ userId, Alternates (registry.hooksOf userId) ∧
    (userId ∈ registry.subscribed ↔ (registry.hooksOf userId).getLast? = some .onFirst)

variable {registry after : ConnectionRegistry} {task : ℕ} {call : RegistryCall}

theorem agrees_fresh : fresh.Agrees fun _ => False := by
  refine ⟨SyncTable.counted_fresh, ?_, ?_, ?_, ?_⟩
  · intro userId connections found
    cases found
  · exact fun userId => Or.inl Iff.rfl
  · intro task call hook _ found
    cases found
  · intro userId
    refine ⟨⟨by simp [hooksOf, fresh], List.IsChain.nil⟩, ?_⟩
    simp [hooksOf, fresh]

/-- The loop of a call that has the lock. -/
theorem Agrees.settle (agrees : registry.Agrees fun other => other = task)
    (known : registry.table.calls.get? task = some call)
    (alone : ∀ other another hook, registry.table.calls.get? other = some another →
      another.stage = .hooking hook → call.sync = another.sync → other = task) :
    (registry.settle task call).Agrees fun _ => False := by
  unfold ConnectionRegistry.settle
  split
  case isTrue matches_ =>
      refine ⟨agrees.table.leave known, agrees.inhabited, ?_, ?_, agrees.alternates⟩
      · intro userId
        by_cases about : userId = call.userId
        · subst about
          exact Or.inl matches_
        · rcases agrees.covered userId with same | ⟨other, another, found, isUser⟩
          · exact Or.inl same
          · refine Or.inr ⟨other, another, ?_, isUser⟩
            simp only [SyncTable.leave]
            rw [Dict.get?_erase, if_neg]
            · exact found
            · rintro rfl
              rw [known] at found
              exact about (by rw [← isUser, Option.some.inj found])
      · intro other another hook _ found isHooking
        obtain ⟨differs, earlier⟩ := Dict.of_get?_erase found
        exact agrees.needed other another hook differs earlier isHooking
  case isFalse differ =>
      refine ⟨agrees.table.enter known alone _, agrees.inhabited, ?_, ?_, agrees.alternates⟩
      · intro userId
        rcases agrees.covered userId with same | ⟨other, another, found, isUser⟩
        · exact Or.inl same
        · right
          by_cases same : other = task
          · subst same
            rw [known] at found
            obtain rfl := Option.some.inj found
            exact ⟨other, _, SyncTable.get?_enter_self .., isUser⟩
          · exact ⟨other, another, by simpa [SyncTable.enter, same] using found, isUser⟩
      · intro other another hook _ found isHooking
        rcases Dict.get?_set_cases found with ⟨rfl, rfl⟩ | ⟨other_ne, earlier⟩
        · obtain rfl := SyncStage.hooking.inj isHooking
          change _ ↔ call.userId ∉ registry.subscribed
          by_cases member : call.userId ∈ registry.byUser
          · simp only [member, if_true, true_iff] at differ ⊢
            exact differ
          · simp only [member, if_false, false_iff, not_not] at differ ⊢
            simpa using differ
        · exact agrees.needed other another hook other_ne earlier isHooking

theorem Agrees.acquired (agrees : registry.Agrees fun _ => False)
    (known : registry.table.calls.get? task = some call)
    (unlocked : (registry.table.object call.sync).locked = false) :
    (registry.settle task call).Agrees fun _ => False := by
  have exempted : registry.Agrees fun other => other = task :=
    { agrees with needed := fun other another hook _ => agrees.needed other another hook id }
  refine exempted.settle known ?_
  intro other another hook found isHooking same
  have locked := agrees.table.locked other another hook found isHooking
  rw [← same, unlocked] at locked
  cases locked

theorem hooksOf_complete (userId other : Uuid) (hook : UserHook) :
    (registry.complete userId hook).hooksOf other =
      registry.hooksOf other ++ if other = userId then [hook] else [] := by
  by_cases same : other = userId
  · simp [hooksOf, ConnectionRegistry.complete, same]
  · have differs : userId ≠ other := fun equal => same equal.symm
    simp [hooksOf, ConnectionRegistry.complete, same, differs]

theorem mem_subscribed_complete (userId other : Uuid) (hook : UserHook) :
    other ∈ (registry.complete userId hook).subscribed ↔
      if other = userId then hook = .onFirst else other ∈ registry.subscribed := by
  cases hook <;> by_cases same : other = userId <;> simp [ConnectionRegistry.complete, same]

/-- A hook that was needed continues the alternation. -/
theorem alternates_complete {hooks : List UserHook} {hook : UserHook} (alternates : Alternates hooks)
    (needed : hook = .onFirst ↔ hooks.getLast? ≠ some .onFirst) : Alternates (hooks ++ [hook]) := by
  cases last : hooks.getLast? with
  | none =>
      rw [List.getLast?_eq_none_iff] at last
      subst last
      refine ⟨?_, List.IsChain.singleton _⟩
      intro first isFirst
      obtain rfl := Option.some.inj isFirst
      exact needed.mpr (by simp)
  | some previous =>
      refine ⟨?_, ?_⟩
      · intro first isFirst
        apply alternates.1
        cases hooks with
        | nil => simp at last
        | cons head rest => simpa using isFirst
      · rw [List.isChain_append]
        refine ⟨alternates.2, List.IsChain.singleton _, ?_⟩
        intro before isBefore after isAfter
        obtain rfl : previous = before := by rw [last] at isBefore; exact Option.some.inj isBefore
        obtain rfl : hook = after := by simpa using isAfter
        rintro rfl
        rw [last] at needed
        cases previous <;> simp at needed

theorem Agrees.completed {hook : UserHook} (agrees : registry.Agrees fun _ => False)
    (known : registry.table.calls.get? task = some call) (isHooking : call.stage = .hooking hook) :
    ((registry.complete call.userId hook).settle task call).Agrees fun _ => False := by
  have needed := agrees.needed task call hook id known isHooking
  have others : ∀ other another otherHook, registry.table.calls.get? other = some another →
      another.stage = .hooking otherHook → call.sync = another.sync → other = task :=
    fun other another otherHook found isOther same =>
      (agrees.table.exclusive task other call another hook otherHook known found isHooking
        isOther same).symm
  have completed : (registry.complete call.userId hook).Agrees fun other => other = task := by
    refine ⟨agrees.table, agrees.inhabited, ?_, ?_, ?_⟩
    · intro userId
      by_cases about : userId = call.userId
      · exact Or.inr ⟨task, call, known, about.symm⟩
      · rcases agrees.covered userId with same | inProgress
        · left
          rw [mem_subscribed_complete, if_neg about]
          exact same
        · exact Or.inr inProgress
    · intro other another otherHook differs found isOther
      have about : another.userId ≠ call.userId := by
        intro same
        exact differs (others other another otherHook found isOther
          ((agrees.table.sync_eq_iff known found).mpr same.symm))
      rw [mem_subscribed_complete, if_neg about]
      exact agrees.needed other another otherHook id found isOther
    · intro userId
      obtain ⟨alternates, subscribed⟩ := agrees.alternates userId
      rw [mem_subscribed_complete, hooksOf_complete]
      by_cases about : userId = call.userId
      · subst about
        simp only [if_true, List.getLast?_concat, Option.some.injEq, and_true]
        rw [subscribed] at needed
        exact alternates_complete alternates needed
      · simpa [about] using ⟨alternates, subscribed⟩
  exact completed.settle known others

/-- A call that changes the membership of one user. -/
theorem Agrees.join (agrees : registry.Agrees fun _ => False) (free : task ∉ registry.table.calls)
    (kind : RegistryOp) (connection : ConnectionRef) {byUser : Dict Uuid (KeySet ConnectionRef)}
    (others : ∀ userId, userId ≠ connection.userId →
      byUser.get? userId = registry.byUser.get? userId)
    (inhabited : ∀ connections, byUser.get? connection.userId = some connections →
      ∃ member, member ∈ connections) :
    Agrees { registry with byUser := byUser, table := registry.table.join task kind connection }
      fun _ => False := by
  obtain ⟨sync, calls⟩ := calls_join registry.table task kind connection
  refine ⟨agrees.table.join free kind connection, ?_, ?_, ?_, agrees.alternates⟩
  · intro userId connections found
    by_cases about : userId = connection.userId
    · subst about
      exact inhabited connections found
    · rw [others userId about] at found
      exact agrees.inhabited userId connections found
  · intro userId
    dsimp only
    rw [calls]
    by_cases about : userId = connection.userId
    · exact Or.inr ⟨task, ⟨kind, connection, sync, .waiting⟩, by simp, about.symm⟩
    · rcases agrees.covered userId with same | ⟨other, call, found, isUser⟩
      · left
        rw [Dict.mem_def, others userId about, ← Dict.mem_def]
        exact same
      · refine Or.inr ⟨other, call, ?_, isUser⟩
        rw [Dict.get?_set, if_neg]
        · exact found
        · rintro rfl
          exact free (Dict.mem_iff_exists.mpr ⟨call, found⟩)
  · intro other another hook _ found isHooking
    dsimp only at found
    rw [calls] at found
    rcases Dict.get?_set_cases found with ⟨-, rfl⟩ | ⟨-, earlier⟩
    · cases isHooking
    · exact agrees.needed other another hook id earlier isHooking

theorem exists_mem_of_size_ne_zero {connections : KeySet ConnectionRef} (some_ : connections.size ≠ 0) :
    ∃ connection, connection ∈ connections := by
  rw [← Dict.card_support, Finset.card_ne_zero] at some_
  obtain ⟨connection, listed⟩ := some_
  exact ⟨connection, Dict.mem_support.mp listed⟩

theorem Agrees.step {event : RegistryEvent} (agrees : registry.Agrees fun _ => False)
    (normally : registry.Normally event) (effect : registry.Effect event after) :
    after.Agrees fun _ => False := by
  cases effect with
  | refused => exact agrees
  | admitted task connection limit free room =>
      refine agrees.join free .add connection ?_ ?_
      · intro userId differs
        simp [differs]
      · intro connections found
        rw [Dict.get?_set, if_pos rfl] at found
        obtain rfl := Option.some.inj found
        exact ⟨connection, by simp⟩
  | unknown => exact agrees
  | dismissed task connection byUser free fewer =>
      refine agrees.join free .remove connection ?_ ?_
      · intro userId differs
        rw [fewer, if_neg differs]
      · intro connections found
        rw [fewer, if_pos rfl, Option.filter_eq_some_iff] at found
        exact exists_mem_of_size_ne_zero (by simpa using found.2)
  | acquired task call known unlocked => exact agrees.acquired known unlocked
  | completed task call hook known isHooking => exact agrees.completed known isHooking
  | raised task => exact absurd rfl (normally task)

/-- The connections of a user stay in bounds: every `add` checks its own limit. -/
theorem size_step {event : RegistryEvent} {userId : Uuid} {bound : ℕ}
    (effect : registry.Effect event after) (below : (registry.forUser userId).size ≤ bound)
    (limited : ∀ task connection limit, event = .add task connection limit →
      connection.userId = userId → limit ≤ bound) :
    (after.forUser userId).size ≤ bound := by
  cases effect with
  | refused => exact below
  | admitted task connection limit free room =>
      by_cases about : userId = connection.userId
      · subst about
        have most := limited task connection limit rfl rfl
        have grown := Dict.size_set_le (registry.forUser connection.userId) connection ()
        simp only [forUser, Dict.get?_set, if_true, Option.getD_some] at grown room ⊢
        exact le_trans grown (by omega)
      · simpa [forUser, about] using below
  | unknown => exact below
  | dismissed task connection byUser free fewer =>
      simp only [forUser, fewer]
      by_cases about : userId = connection.userId
      · subst about
        have smaller := Dict.size_erase_le (registry.forUser connection.userId) connection
        rw [if_pos rfl, Option.filter]
        split
        case isTrue => exact le_trans smaller below
        case isFalse => exact Nat.zero_le _
      · rw [if_neg about]
        exact below
  | acquired task call known unlocked => simpa [forUser] using below
  | completed task call hook known isHooking => simpa [forUser, complete] using below
  | raised task call known => exact below

/-- A call that ends returns to a user whose subscription is as it should be. -/
theorem subscribed_of_ended {event : RegistryEvent} (normally : registry.Normally event)
    (effect : registry.Effect event after) (known : registry.table.calls.get? task = some call)
    (ended : task ∉ after.table.calls) :
    call.userId ∈ after.byUser ↔ call.userId ∈ after.subscribed := by
  have isCall := Dict.mem_iff_exists.mpr ⟨call, known⟩
  have joined (kind : RegistryOp) (connection : ConnectionRef) (other : ℕ) :
      task ∈ (registry.table.join other kind connection).calls := by
    obtain ⟨sync, calls⟩ := calls_join registry.table other kind connection
    rw [calls, Dict.mem_set]
    exact Or.inr isCall
  have isOwn {other : ℕ} {own : RegistryCall} {ready : ConnectionRegistry}
      (table : ready.table = registry.table) (found : registry.table.calls.get? other = some own)
      (gone : task ∉ (ready.settle other own).table.calls) :
      call.userId ∈ ready.byUser ↔ call.userId ∈ ready.subscribed := by
    by_cases same : task = other
    · subst same
      rw [known] at found
      obtain rfl := Option.some.inj found
      exact matches_of_settle gone
    · rw [Dict.not_mem_iff, settle_calls_of_ne same, table, known] at gone
      cases gone
  cases effect with
  | refused => exact absurd isCall ended
  | admitted other connection limit free room => exact absurd (joined .add connection other) ended
  | unknown => exact absurd isCall ended
  | dismissed other connection byUser free fewer =>
      exact absurd (joined .remove connection other) ended
  | acquired other own found unlocked => simpa using isOwn rfl found ended
  | completed other own hook found isHooking =>
      simpa using @isOwn other own (registry.complete own.userId hook) rfl found ended
  | raised other => exact absurd rfl (normally other)

theorem mem_byUser_iff (agrees : registry.Agrees fun _ => False) (userId : Uuid) :
    userId ∈ registry.byUser ↔ ∃ connection, connection ∈ registry.forUser userId := by
  rw [Dict.mem_iff_exists, forUser]
  cases found : registry.byUser.get? userId with
  | none => simp
  | some connections => simpa using agrees.inhabited userId connections found

end ConnectionRegistry

open ConnectionRegistry

/-- Whatever the interleaving: a user's connections stay within the limits
passed to `add`, its hooks run one at a time and alternate, `add` returns to a
subscribed user, and when every call has returned the subscriptions are those of
the users with a connection and no lock record is left. -/
theorem registry_consistent {events : List RegistryEvent} {registry : ConnectionRegistry}
    (run : Run ConnectionRegistry.step Normally ConnectionRegistry.fresh events registry) :
    (∀ userId bound, (∀ task connection limit, .add task connection limit ∈ events →
        connection.userId = userId → limit ≤ bound) → (registry.forUser userId).size ≤ bound) ∧
    (∀ first second one two hook other, registry.table.calls.get? first = some one →
      registry.table.calls.get? second = some two → one.stage = .hooking hook →
      two.stage = .hooking other → one.userId = two.userId → first = second) ∧
    (∀ userId, Alternates (registry.hooksOf userId)) ∧
    (∀ event after task call, registry.Normally event → registry.step event = some after →
      registry.table.calls.get? task = some call → call.kind = .add → task ∉ after.table.calls →
      call.connection ∈ after.forUser call.userId → call.userId ∈ after.subscribed) ∧
    ((∀ task, task ∉ registry.table.calls) → ∀ userId,
      (userId ∈ registry.subscribed ↔ ∃ connection, connection ∈ registry.forUser userId) ∧
        userId ∉ registry.table.syncs) := by
  have agrees : registry.Agrees fun _ => False := by
    apply run.invariant
    · exact agrees_fresh
    · intro before event reached holds normally stepTo
      exact holds.step normally (effect_of_step stepTo)
  refine ⟨?_, ?_, fun userId => (agrees.alternates userId).1, ?_, ?_⟩
  · intro userId bound limited
    clear agrees
    induction run with
    | nil => exact Nat.zero_le _
    | snoc _ _ stepTo ih =>
        refine size_step (effect_of_step stepTo) (ih fun task connection limit listed => ?_) ?_
        · exact limited task connection limit (List.mem_append_left _ listed)
        · rintro task connection limit rfl
          exact limited task connection limit (List.mem_append_right _ (List.mem_singleton_self _))
  · intro first second one two hook other foundOne foundTwo isOne isTwo same
    exact agrees.table.exclusive first second one two hook other foundOne foundTwo isOne isTwo
      ((agrees.table.sync_eq_iff foundOne foundTwo).mpr same)
  · intro event after task call normally stepTo known _ ended held
    have effect := effect_of_step stepTo
    have still := agrees.step normally effect
    rw [← subscribed_of_ended normally effect known ended, mem_byUser_iff still]
    exact ⟨call.connection, held⟩
  · intro idle userId
    constructor
    · rw [← mem_byUser_iff agrees]
      rcases agrees.covered userId with same | ⟨task, call, found, -⟩
      · exact same.symm
      · exact absurd (Dict.mem_iff_exists.mpr ⟨call, found⟩) (idle task)
    · intro listed
      obtain ⟨sync, found⟩ := Dict.mem_iff_exists.mp listed
      obtain ⟨counted, positive⟩ := agrees.table.counted userId sync found
      rw [counted, ← Dict.card_support, Finset.card_pos] at positive
      obtain ⟨task, counts⟩ := positive
      rw [Dict.mem_support, Dict.mem_filter] at counts
      obtain ⟨call, known, -⟩ := counts
      exact idle task (Dict.mem_iff_exists.mpr ⟨call, known⟩)

/-- The only connection of a user leaves while its subscription is being made. -/
def leavesEarly : List RegistryEvent :=
  [.add 0 ⟨0, 1⟩ 2, .acquire 0, .remove 1 ⟨0, 1⟩, .hookDone 0, .hookDone 0, .acquire 1]

theorem registry_consistent_leavesEarly :
    ∃ registry, Run ConnectionRegistry.step Normally ConnectionRegistry.fresh leavesEarly registry ∧
      registry.completed = [(1, .onFirst), (1, .onLast)] ∧
      ∀ userId, (userId ∈ registry.subscribed ↔
        ∃ connection, connection ∈ registry.forUser userId) ∧ userId ∉ registry.table.syncs := by
  obtain ⟨registry, executed, ran, idle⟩ := @exists_of_exec _ _ ConnectionRegistry.step Normally
    ConnectionRegistry.fresh _ (fun registry => registry.completed = [(1, .onFirst), (1, .onLast)] ∧
      registry.table.calls.entries = []) _ leavesEarly (by decide)
  have run := run_of_exec executed
  refine ⟨registry, run, ran, (registry_consistent run).2.2.2.2 ?_⟩
  intro task
  rw [Dict.not_mem_iff]
  exact Dict.get?_eq_none_of_empty idle task

end GeoTrack
