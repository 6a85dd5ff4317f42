import GeoTrack.LabelledRuns
import GeoTrack.Tables
import Mathlib.Data.Finset.Basic

/-!
# The subscriptions of a replica

The bridge keeps two sets of channels, the ones this replica needs and the ones
it believes Redis holds for its connection; Redis has the third.  Changes are
serialised by a lock, but a command can take effect and still be reported as
failed, and the reader can find the connection gone while a change waits for
its answer.

Where the belief differs from the truth, the invariant is that it differs from
the wish as well: such a channel is still in the gap that the reader keeps
closing, and the next command about it repairs both.
-/

namespace GeoTrack

open LabelledRuns

inductive Channel where
  | positions
  | user (userId : Uuid)
deriving DecidableEq

/-- Who takes the lock. -/
inductive BridgeCall where
  | subscribeUser (userId : Uuid)
  | unsubscribeUser (userId : Uuid)
  | sync
deriving DecidableEq

/-- The command `_apply` waits for.  An UNSUBSCRIBE is followed by the SUBSCRIBE
computed together with it. -/
inductive Command where
  | unsubscribe (stale missing : Finset Channel)
  | subscribe (missing : Finset Channel)
deriving DecidableEq

structure InFlight where
  call : BridgeCall
  command : Command
  /-- It has taken effect on the server. -/
  landed : Bool
deriving DecidableEq

inductive ReaderStage where
  | reading
  /-- It has called `_sync` and not come back. -/
  | syncing
deriving DecidableEq

structure RedisBridge where
  wanted : Finset Channel
  held : Finset Channel
  reader : ReaderStage
  /-- The lock is taken as long as there is one. -/
  inFlight : Option InFlight
  /-- What Redis holds for the connection. -/
  subscribed : Finset Channel
deriving DecidableEq

inductive BridgeEvent where
  /-- A call gets the lock and runs up to its first command. -/
  | call (call : BridgeCall)
  /-- The command takes effect on the server. -/
  | land
  | succeed
  /-- The command fails without having taken effect. -/
  | fail
  /-- The command took effect and its answer did not come in time. -/
  | timeOut
  /-- The read fails, and the connection is gone with its subscriptions. -/
  | readerFails
  /-- The reader sees the gap and calls `_sync`. -/
  | repair
deriving DecidableEq

namespace RedisBridge

/-- The state in which `start` calls `_sync`. -/
def fresh : RedisBridge where
  wanted := {.positions}
  held := ∅
  reader := .syncing
  inFlight := none
  subscribed := ∅

def inSync (bridge : RedisBridge) : Prop := bridge.held = bridge.wanted

instance (bridge : RedisBridge) : Decidable bridge.inSync :=
  inferInstanceAs (Decidable (_ = _))

/-- Give the lock back. -/
def finish (bridge : RedisBridge) (call : BridgeCall) : RedisBridge :=
  { bridge with
    inFlight := none
    reader := if call = .sync then .reading else bridge.reader }

def apply (bridge : RedisBridge) (call : BridgeCall) : RedisBridge :=
  let stale := bridge.held \ bridge.wanted
  let missing := bridge.wanted \ bridge.held
  if stale = ∅ ∧ missing = ∅ then
    bridge.finish call
  else if stale ≠ ∅ then
    { bridge with inFlight := some ⟨call, .unsubscribe stale missing, false⟩ }
  else
    { bridge with inFlight := some ⟨call, .subscribe missing, false⟩ }

def subscribeUser (bridge : RedisBridge) (userId : Uuid) : RedisBridge :=
  apply { bridge with wanted := insert (.user userId) bridge.wanted } (.subscribeUser userId)

def unsubscribeUser (bridge : RedisBridge) (userId : Uuid) : RedisBridge :=
  apply { bridge with wanted := bridge.wanted.erase (.user userId) } (.unsubscribeUser userId)

/-- What the command does on the server. -/
def landOn (subscribed : Finset Channel) : Command → Finset Channel
  | .unsubscribe stale _ => subscribed \ stale
  | .subscribe missing => subscribed ∪ missing

/-- `_apply` after the answer to its command. -/
def resume (bridge : RedisBridge) (call : BridgeCall) : Command → RedisBridge
  | .unsubscribe stale missing =>
      let told := { bridge with held := bridge.held \ stale }
      if missing = ∅ then told.finish call
      else { told with inFlight := some ⟨call, .subscribe missing, false⟩ }
  | .subscribe missing => finish { bridge with held := bridge.held ∪ missing } call

def step (bridge : RedisBridge) : BridgeEvent → Option RedisBridge
  | .call call =>
      if bridge.inFlight = none then
        match call with
        | .subscribeUser userId => some (bridge.subscribeUser userId)
        | .unsubscribeUser userId => some (bridge.unsubscribeUser userId)
        | .sync => if bridge.reader = .syncing then some (bridge.apply .sync) else none
      else
        none
  | .land =>
      match bridge.inFlight with
      | some ⟨call, command, false⟩ =>
          some
            { bridge with
              inFlight := some ⟨call, command, true⟩
              subscribed := landOn bridge.subscribed command }
      | _ => none
  | .succeed =>
      match bridge.inFlight with
      | some ⟨call, command, true⟩ => some (bridge.resume call command)
      | _ => none
  | .fail =>
      match bridge.inFlight with
      | some ⟨call, _, false⟩ => some (bridge.finish call)
      | _ => none
  | .timeOut =>
      match bridge.inFlight with
      | some ⟨call, _, true⟩ => some (bridge.finish call)
      | _ => none
  | .readerFails =>
      if bridge.reader = .reading then
        some { bridge with held := ∅, subscribed := ∅, reader := .syncing }
      else
        none
  | .repair =>
      if bridge.reader = .reading ∧ ¬ bridge.inSync then
        some { bridge with reader := .syncing }
      else
        none

/-- No call takes back a channel about which the last command took effect
unnoticed, and no SUBSCRIBE is reported as done on a connection that is gone. -/
def Unambiguous (bridge : RedisBridge) : BridgeEvent → Prop
  | .call (.subscribeUser userId) =>
      .user userId ∈ bridge.held → .user userId ∈ bridge.subscribed
  | .call (.unsubscribeUser userId) =>
      .user userId ∈ bridge.subscribed → .user userId ∈ bridge.held
  | .succeed =>
      ∀ flight ∈ bridge.inFlight, ∀ missing, flight.command = .subscribe missing →
        missing ⊆ bridge.subscribed
  | _ => True

/-- What is known of a command that waits for its answer. -/
def Fits (bridge : RedisBridge) (flight : InFlight) : Prop :=
  match flight.command with
  | .unsubscribe stale missing =>
      (∀ channel ∈ stale, channel ∉ bridge.wanted) ∧ missing ⊆ bridge.wanted ∧
        (flight.landed = true → ∀ channel ∈ stale, channel ∉ bridge.subscribed)
  | .subscribe missing => missing ⊆ bridge.wanted

/-- A channel that Redis does not hold as believed is held as needed. -/
structure Truthful (bridge : RedisBridge) : Prop where
  repairable : ∀ channel, (channel ∈ bridge.subscribed ↔ channel ∈ bridge.held) ∨
    (channel ∈ bridge.subscribed ↔ channel ∈ bridge.wanted)
  fits : ∀ flight ∈ bridge.inFlight, bridge.Fits flight

theorem Truthful.subscribed_eq {bridge : RedisBridge} (truthful : bridge.Truthful)
    (inSync : bridge.inSync) : bridge.subscribed = bridge.wanted := by
  ext channel
  rcases truthful.repairable channel with believed | needed
  · rw [believed, inSync]
  · exact needed

theorem truthful_fresh : fresh.Truthful where
  repairable := by simp [fresh]
  fits := by simp [fresh]

section Steps

variable {bridge : RedisBridge}

theorem Truthful.finish (truthful : bridge.Truthful) (call : BridgeCall) :
    (bridge.finish call).Truthful where
  repairable := truthful.repairable
  fits := by simp [RedisBridge.finish]

theorem Truthful.apply (truthful : bridge.Truthful) (call : BridgeCall) :
    (bridge.apply call).Truthful := by
  simp only [RedisBridge.apply]
  split
  case isTrue => exact truthful.finish call
  case isFalse =>
      have missing : bridge.wanted \ bridge.held ⊆ bridge.wanted := Finset.sdiff_subset
      split
      case isTrue =>
          refine ⟨truthful.repairable, ?_⟩
          rintro flight ⟨rfl⟩
          exact ⟨fun channel isStale => (Finset.mem_sdiff.mp isStale).2, missing, nofun⟩
      case isFalse =>
          refine ⟨truthful.repairable, ?_⟩
          rintro flight ⟨rfl⟩
          exact missing

theorem Truthful.subscribeUser (truthful : bridge.Truthful) (idle : bridge.inFlight = none)
    {userId : Uuid} (clear : .user userId ∈ bridge.held → .user userId ∈ bridge.subscribed) :
    (bridge.subscribeUser userId).Truthful := by
  apply Truthful.apply
  refine ⟨?_, by simp [idle]⟩
  intro channel
  have before := truthful.repairable channel
  by_cases asked : channel = .user userId
  · subst asked
    simp only [Finset.mem_insert_self, iff_true]
    tauto
  · simpa [Finset.mem_insert, asked] using before

theorem Truthful.unsubscribeUser (truthful : bridge.Truthful) (idle : bridge.inFlight = none)
    {userId : Uuid} (clear : .user userId ∈ bridge.subscribed → .user userId ∈ bridge.held) :
    (bridge.unsubscribeUser userId).Truthful := by
  apply Truthful.apply
  refine ⟨?_, by simp [idle]⟩
  intro channel
  have before := truthful.repairable channel
  by_cases asked : channel = .user userId
  · subst asked
    simp only [Finset.notMem_erase, iff_false]
    tauto
  · simpa [Finset.mem_erase, asked] using before

theorem Truthful.land (truthful : bridge.Truthful) {call : BridgeCall} {command : Command}
    (waits : bridge.inFlight = some ⟨call, command, false⟩) :
    Truthful
      { bridge with
        inFlight := some ⟨call, command, true⟩
        subscribed := landOn bridge.subscribed command } := by
  have fits := truthful.fits _ waits
  cases command with
  | unsubscribe stale missing =>
      obtain ⟨unwanted, needed, -⟩ := fits
      constructor
      · intro channel
        have before := truthful.repairable channel
        have dropped := unwanted channel
        simp only [landOn, Finset.mem_sdiff]
        tauto
      · rintro flight ⟨rfl⟩
        exact ⟨unwanted, needed, fun _ channel isStale => by simp [landOn, isStale]⟩
  | subscribe missing =>
      constructor
      · intro channel
        have before := truthful.repairable channel
        have added := @fits channel
        simp only [landOn, Finset.mem_union]
        tauto
      · rintro flight ⟨rfl⟩
        exact fits

theorem Truthful.resume (truthful : bridge.Truthful) {call : BridgeCall} {command : Command}
    (landed : bridge.inFlight = some ⟨call, command, true⟩)
    (standing : ∀ missing, command = .subscribe missing → missing ⊆ bridge.subscribed) :
    (bridge.resume call command).Truthful := by
  have fits := truthful.fits _ landed
  cases command with
  | unsubscribe stale missing =>
      obtain ⟨unwanted, needed, gone⟩ := fits
      have told : ∀ channel,
          (channel ∈ bridge.subscribed ↔ channel ∈ bridge.held \ stale) ∨
            (channel ∈ bridge.subscribed ↔ channel ∈ bridge.wanted) := by
        intro channel
        have before := truthful.repairable channel
        have dropped := unwanted channel
        have away := gone rfl channel
        rw [Finset.mem_sdiff]
        tauto
      simp only [RedisBridge.resume]
      split
      case isTrue => exact ⟨told, by simp [RedisBridge.finish]⟩
      case isFalse =>
          refine ⟨told, ?_⟩
          rintro flight ⟨rfl⟩
          exact needed
  | subscribe missing =>
      refine ⟨?_, by simp [RedisBridge.resume, RedisBridge.finish]⟩
      intro channel
      have before := truthful.repairable channel
      have added := @standing missing rfl channel
      simp only [RedisBridge.resume, RedisBridge.finish, Finset.mem_union]
      tauto

/-- A lost connection leaves nothing to disagree about. -/
theorem Truthful.readerFails (truthful : bridge.Truthful) (stage : ReaderStage) :
    Truthful { bridge with held := ∅, subscribed := ∅, reader := stage } where
  repairable := by simp
  fits := by
    intro flight waits
    have fits := truthful.fits flight waits
    unfold Fits at fits ⊢
    split at fits
    case h_1 => exact ⟨fits.1, fits.2.1, by simp⟩
    case h_2 => exact fits

end Steps

theorem Truthful.step {bridge after : RedisBridge} {event : BridgeEvent}
    (truthful : bridge.Truthful) (unambiguous : bridge.Unambiguous event)
    (stepTo : bridge.step event = some after) : after.Truthful := by
  cases event with
  | call call =>
      simp only [RedisBridge.step] at stepTo
      split at stepTo
      case isFalse => cases stepTo
      case isTrue idle =>
          cases call with
          | subscribeUser userId =>
              obtain rfl := Option.some.inj stepTo
              exact truthful.subscribeUser idle unambiguous
          | unsubscribeUser userId =>
              obtain rfl := Option.some.inj stepTo
              exact truthful.unsubscribeUser idle unambiguous
          | sync =>
              obtain ⟨-, ⟨⟩⟩ := Option.ite_none_right_eq_some.mp stepTo
              exact truthful.apply .sync
  | land =>
      simp only [RedisBridge.step] at stepTo
      split at stepTo
      case h_1 waits =>
          obtain rfl := Option.some.inj stepTo
          exact truthful.land waits
      case h_2 => cases stepTo
  | succeed =>
      simp only [RedisBridge.step] at stepTo
      split at stepTo
      case h_1 landed =>
          obtain rfl := Option.some.inj stepTo
          exact truthful.resume landed (unambiguous _ landed)
      case h_2 => cases stepTo
  | fail =>
      simp only [RedisBridge.step] at stepTo
      split at stepTo
      case h_1 =>
          obtain rfl := Option.some.inj stepTo
          exact truthful.finish _
      case h_2 => cases stepTo
  | timeOut =>
      simp only [RedisBridge.step] at stepTo
      split at stepTo
      case h_1 =>
          obtain rfl := Option.some.inj stepTo
          exact truthful.finish _
      case h_2 => cases stepTo
  | readerFails =>
      simp only [RedisBridge.step] at stepTo
      obtain ⟨-, ⟨⟩⟩ := Option.ite_none_right_eq_some.mp stepTo
      exact truthful.readerFails .syncing
  | repair =>
      simp only [RedisBridge.step] at stepTo
      obtain ⟨-, ⟨⟩⟩ := Option.ite_none_right_eq_some.mp stepTo
      exact ⟨truthful.repairable, truthful.fits⟩

@[simp]
theorem apply_wanted (bridge : RedisBridge) (call : BridgeCall) :
    (bridge.apply call).wanted = bridge.wanted := by
  simp only [apply]
  split <;> [rfl; split <;> rfl]

@[simp]
theorem apply_held (bridge : RedisBridge) (call : BridgeCall) :
    (bridge.apply call).held = bridge.held := by
  simp only [apply]
  split <;> [rfl; split <;> rfl]

@[simp]
theorem apply_subscribed (bridge : RedisBridge) (call : BridgeCall) :
    (bridge.apply call).subscribed = bridge.subscribed := by
  simp only [apply]
  split <;> [rfl; split <;> rfl]

/-- The condition is exact: an ambiguous step leaves a channel outside the gap
that Redis does not hold as believed. -/
theorem Truthful.unambiguous {bridge after : RedisBridge} {event : BridgeEvent}
    (truthful : bridge.Truthful) (stepTo : bridge.step event = some after)
    (still : after.Truthful) : bridge.Unambiguous event := by
  cases event with
  | call call =>
      simp only [RedisBridge.step] at stepTo
      split at stepTo
      case isFalse => cases stepTo
      case isTrue =>
          cases call with
          | subscribeUser userId =>
              obtain rfl := Option.some.inj stepTo
              have channel := still.repairable (.user userId)
              simp only [RedisBridge.subscribeUser, apply_subscribed, apply_held, apply_wanted,
                Finset.mem_insert_self, iff_true] at channel
              intro believed
              tauto
          | unsubscribeUser userId =>
              obtain rfl := Option.some.inj stepTo
              have channel := still.repairable (.user userId)
              simp only [RedisBridge.unsubscribeUser, apply_subscribed, apply_held, apply_wanted,
                Finset.notMem_erase, iff_false] at channel
              intro held
              tauto
          | sync => trivial
  | succeed =>
      rintro ⟨call, command, landed⟩ waits missing rfl
      simp only [RedisBridge.step, Option.mem_def.mp waits] at stepTo
      cases landed with
      | false => cases stepTo
      | true =>
          obtain rfl := Option.some.inj stepTo
          intro channel isMissing
          have needed : channel ∈ bridge.wanted := truthful.fits _ waits isMissing
          have after := still.repairable channel
          simp only [RedisBridge.resume, RedisBridge.finish, Finset.mem_union, isMissing, needed,
            or_true, iff_true, or_self] at after
          exact after
  | land => trivial
  | fail => trivial
  | timeOut => trivial
  | readerFails => trivial
  | repair => trivial

/-- In every run without an ambiguous step, whenever the bridge believes to be
in sync, Redis holds exactly the channels this replica needs. -/
theorem in_sync_truthful {events : List BridgeEvent} {bridge : RedisBridge}
    (run : Run step Unambiguous fresh events bridge) (inSync : bridge.inSync) :
    bridge.subscribed = bridge.wanted := by
  have truthful : bridge.Truthful :=
    run.invariant truthful_fresh fun _ _ _ before permitted stepTo => before.step permitted stepTo
  exact truthful.subscribed_eq inSync

instance (bridge : RedisBridge) (event : BridgeEvent) : Decidable (bridge.Unambiguous event) :=
  match event with
  | .call (.subscribeUser userId) =>
      inferInstanceAs (Decidable (.user userId ∈ bridge.held → .user userId ∈ bridge.subscribed))
  | .call (.unsubscribeUser userId) =>
      inferInstanceAs (Decidable (.user userId ∈ bridge.subscribed → .user userId ∈ bridge.held))
  | .call .sync => isTrue trivial
  | .succeed =>
      match waits : bridge.inFlight with
      | some ⟨_, .subscribe missing, _⟩ =>
          decidable_of_iff (missing ⊆ bridge.subscribed) (by simp [Unambiguous, waits])
      | some ⟨_, .unsubscribe _ _, _⟩ => isTrue (by simp [Unambiguous, waits])
      | none => isTrue (by simp [Unambiguous, waits])
  | .land => isTrue trivial
  | .fail => isTrue trivial
  | .timeOut => isTrue trivial
  | .readerFails => isTrue trivial
  | .repair => isTrue trivial

/-- The replica starts, and one user connects and leaves; the UNSUBSCRIBE takes
effect and times out. -/
def departure : List BridgeEvent :=
  [.call .sync, .land, .succeed, .call (.subscribeUser 1), .land, .succeed,
    .call (.unsubscribeUser 1), .land, .timeOut]

/-- The reader repairs the gap before the user comes back. -/
theorem in_sync_truthful_repaired :
    ∃ bridge, Run step Unambiguous fresh (departure ++ [.repair, .call .sync, .land, .succeed,
        .call (.subscribeUser 1), .land, .succeed]) bridge ∧
      bridge.inSync ∧ .user 1 ∈ bridge.wanted ∧ bridge.subscribed = bridge.wanted := by
  have reached : ∃ bridge, exec step Unambiguous fresh (departure ++ [.repair, .call .sync, .land,
      .succeed, .call (.subscribeUser 1), .land, .succeed]) = some bridge ∧
        (bridge.inSync ∧ .user 1 ∈ bridge.wanted) := by
    apply exists_of_exec
    decide +kernel
  obtain ⟨bridge, executed, inSync, wanted⟩ := reached
  have run := run_of_exec executed
  exact ⟨bridge, run, inSync, wanted, in_sync_truthful run inSync⟩

/-- The user comes back before the repair: nothing is in flight, nothing is left
to repair, and his alerts do not arrive. -/
theorem in_sync_without_alerts :
    ∃ bridge, Run step Anything fresh (departure ++ [.call (.subscribeUser 1)]) bridge ∧
      bridge.inFlight = none ∧ bridge.inSync ∧ .user 1 ∈ bridge.wanted ∧
      .user 1 ∉ bridge.subscribed ∧ bridge.subscribed ≠ bridge.wanted := by
  have reached : ∃ bridge, exec step Anything fresh (departure ++ [.call (.subscribeUser 1)]) =
      some bridge ∧ (bridge.inFlight = none ∧ bridge.inSync ∧ .user 1 ∈ bridge.wanted ∧
        .user 1 ∉ bridge.subscribed ∧ bridge.subscribed ≠ bridge.wanted) := by
    apply exists_of_exec
    decide +kernel
  obtain ⟨bridge, executed, silent⟩ := reached
  exact ⟨bridge, run_of_exec executed, silent⟩

end RedisBridge

end GeoTrack
