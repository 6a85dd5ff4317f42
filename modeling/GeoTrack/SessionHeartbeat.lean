import GeoTrack.GatewayServe
import GeoTrack.ListedSessions

/-!
# The heartbeat of a replica

A replica renews the leases of its sessions in rounds.  A round begins with a
snapshot of the registry and then refreshes one user after the other, with a
listing after each refresh; sockets come and go in the meantime.  A session that
leaves is removed from the registry first and from the directory after that, so
the round may still hold it when both are done.
-/

namespace GeoTrack

open LabelledRuns

/-- What `new_uuid`, the user agent and the clock gave for the sockets of a
replica. -/
structure ReplicaSessions where
  session : ℕ → OpenSession
  distinct : Function.Injective fun task => (session task).id
  isOwn : Uuid → Bool
  own : ∀ task, isOwn (session task).id = true

namespace ConnectionRegistry

def all (registry : ConnectionRegistry) : List ConnectionRef :=
  registry.byUser.values.flatMap Dict.keys

/-- `_by_user`. -/
def grouped (registry : ConnectionRegistry) : Dict Uuid (List ConnectionRef) :=
  registry.all.foldl (fun groups connection =>
    groups.set connection.userId
      ((groups.get? connection.userId).getD [] ++ [connection])) ∅

/-- The groups hold connections of the registry, each under its own user. -/
theorem grouped_spec {registry : ConnectionRegistry} {userId : Uuid}
    {connections : List ConnectionRef} {connection : ConnectionRef}
    (listed : (userId, connections) ∈ registry.grouped.entries)
    (isMember : connection ∈ connections) :
    connection.userId = userId ∧ ∃ owner, connection ∈ registry.forUser owner := by
  have inAll : ∀ (items : List ConnectionRef) (groups : Dict Uuid (List ConnectionRef)),
      (∀ userId connections, groups.get? userId = some connections → ∀ connection ∈ connections,
        connection.userId = userId ∧ connection ∈ registry.all) →
      (∀ item ∈ items, item ∈ registry.all) →
      ∀ userId connections, (items.foldl (fun groups connection =>
        groups.set connection.userId ((groups.get? connection.userId).getD [] ++ [connection]))
          groups).get? userId = some connections → ∀ connection ∈ connections,
            connection.userId = userId ∧ connection ∈ registry.all := by
    intro items
    induction items with
    | nil => exact fun _ holds _ => holds
    | cons item rest ih =>
        intro groups holds all
        refine ih _ ?_ fun other listed => all other (List.mem_cons_of_mem _ listed)
        intro userId connections found connection isMember
        rw [Dict.get?_set] at found
        split at found
        case isTrue same =>
            obtain rfl := Option.some.inj found
            rcases List.mem_append.mp isMember with earlier | last
            · cases old : groups.get? item.userId with
              | none => simp [old] at earlier
              | some members =>
                  rw [old, Option.getD_some] at earlier
                  rw [same]
                  exact holds item.userId members old connection earlier
            · obtain rfl := List.mem_singleton.mp last
              exact ⟨same.symm, all connection (List.mem_cons_self ..)⟩
        case isFalse => exact holds userId connections found connection isMember
  have empty : ∀ userId connections, (∅ : Dict Uuid (List ConnectionRef)).get? userId =
      some connections → ∀ connection ∈ connections,
        connection.userId = userId ∧ connection ∈ registry.all := by
    intro userId connections found
    cases found
  obtain ⟨own, isListed⟩ := inAll registry.all ∅ empty (fun _ listed => listed) userId connections
    (Dict.mem_entries_iff.mp listed) connection isMember
  refine ⟨own, ?_⟩
  obtain ⟨members, isValue, isKey⟩ := List.mem_flatMap.mp isListed
  obtain ⟨⟨owner, _⟩, isEntry, rfl⟩ := List.mem_map.mp isValue
  refine ⟨owner, ?_⟩
  rw [forUser, Dict.mem_entries_iff.mp isEntry, Option.getD_some]
  exact Dict.mem_keys_iff.mp isKey

end ConnectionRegistry

/-- The users still to be served in this round; whether the first of them has
been refreshed and its list is being read. -/
inductive Heartbeat where
  | sleeping
  | round (rest : List (Uuid × List ConnectionRef)) (refreshed : Bool)
deriving DecidableEq

/-- The connections of the user whose turn it is. -/
def Heartbeat.due : Heartbeat → List ConnectionRef
  | .round ((_, connections) :: _) _ => connections
  | .round [] _ | .sleeping => []

structure SessionReplica where
  gateway : ServingGateway
  server : DirectoryServer
  heartbeat : Heartbeat
  /-- The calls of `serve` whose registration, and whose removal, has executed. -/
  registered : KeySet ℕ
  removed : KeySet ℕ

inductive ReplicaEvent where
  | gateway (event : ServeEvent)
  /-- The pipeline of `register`, or of `remove`, executes. -/
  | register (task : ℕ) (now : ℤ)
  | remove (task : ℕ)
  /-- The heartbeat wakes up. -/
  | wake
  /-- The pipeline of its next refresh executes. -/
  | beat (now : ℤ)
  /-- It goes on to the next user: the list was read, or a command failed. -/
  | next
  /-- Time passes, somebody lists sessions, another replica announces its own. -/
  | elsewhere (event : DirectoryEvent)

namespace SessionReplica

/-- Other replicas write their own sessions only. -/
def foreign (sessions : ReplicaSessions) : DirectoryEvent → Bool
  | .refresh _ named _ => named.all fun session => !sessions.isOwn session.id
  | .remove _ sessionId => !sessions.isOwn sessionId
  | .elapse _ | .read .. | .prune _ | .fetch _ => true

def fresh (clock : ℤ) : SessionReplica :=
  ⟨ServingGateway.fresh, DirectoryServer.empty clock, .sleeping, ∅, ∅⟩

def step (sessions : ReplicaSessions) (limit ttlMs : ℕ) (replica : SessionReplica) :
    ReplicaEvent → Option SessionReplica
  | .gateway event =>
      (replica.gateway.step limit event).map fun gateway => { replica with gateway := gateway }
  | .register task now =>
      (replica.gateway.serves.get? task).bind fun serve =>
        if serve.stage = .joining ∧ task ∉ replica.registered then
          (replica.server.step ttlMs
            (.refresh serve.connection.userId [sessions.session task] now)).map fun server =>
              { replica with server := server, registered := replica.registered.add task }
        else
          none
  | .remove task =>
      (replica.gateway.serves.get? task).bind fun serve =>
        if serve.stage = .departing ∧ task ∉ replica.removed then
          (replica.server.step ttlMs
            (.remove serve.connection.userId (sessions.session task).id)).map fun server =>
              { replica with server := server, removed := replica.removed.add task }
        else
          none
  | .wake =>
      match replica.heartbeat with
      | .sleeping =>
          some { replica with heartbeat := .round replica.gateway.registry.grouped.entries false }
      | .round .. => none
  | .beat now =>
      match replica.heartbeat with
      | .round ((userId, connections) :: rest) false =>
          (replica.server.step ttlMs (.refresh userId
            (connections.map fun connection => sessions.session connection.serial) now)).map
              fun server =>
                { replica with
                  server := server
                  heartbeat := .round ((userId, connections) :: rest) true }
      | _ => none
  | .next =>
      match replica.heartbeat with
      | .round (_ :: rest) _ => some { replica with heartbeat := .round rest false }
      | .round [] _ => some { replica with heartbeat := .sleeping }
      | .sleeping => none
  | .elsewhere event =>
      if foreign sessions event then
        (replica.server.step ttlMs event).map fun server => { replica with server := server }
      else
        none

/-- The heartbeat does not refresh a session that was removed since its
snapshot. -/
def Timely (replica : SessionReplica) : ReplicaEvent → Prop
  | .beat _ => ∀ connection ∈ replica.heartbeat.due, connection.serial ∉ replica.removed
  | .gateway _ | .register .. | .remove _ | .wake | .next | .elsewhere _ => True

instance (replica : SessionReplica) (event : ReplicaEvent) : Decidable (replica.Timely event) :=
  match event with
  | .beat _ => inferInstanceAs (Decidable (∀ connection ∈ replica.heartbeat.due, _))
  | .gateway _ | .register .. | .remove _ | .wake | .next | .elsewhere _ => isTrue trivial

/-- What a step can do. -/
inductive Effect (sessions : ReplicaSessions) (limit ttlMs : ℕ) (replica : SessionReplica) :
    ReplicaEvent → SessionReplica → Prop where
  | gateway (event : ServeEvent) (gateway : ServingGateway)
      (stepTo : replica.gateway.step limit event = some gateway) :
      Effect sessions limit ttlMs replica (.gateway event) { replica with gateway := gateway }
  | registered (task : ℕ) (now : ℤ) (serve : ServeCall) (server : DirectoryServer)
      (known : replica.gateway.serves.get? task = some serve) (isJoining : serve.stage = .joining)
      (stepTo : replica.server.step ttlMs
        (.refresh serve.connection.userId [sessions.session task] now) = some server) :
      Effect sessions limit ttlMs replica (.register task now)
        { replica with server := server, registered := replica.registered.add task }
  | removed (task : ℕ) (serve : ServeCall) (server : DirectoryServer)
      (known : replica.gateway.serves.get? task = some serve) (isDeparting : serve.stage = .departing)
      (stepTo : replica.server.step ttlMs
        (.remove serve.connection.userId (sessions.session task).id) = some server) :
      Effect sessions limit ttlMs replica (.remove task)
        { replica with server := server, removed := replica.removed.add task }
  | woke : Effect sessions limit ttlMs replica .wake
      { replica with heartbeat := .round replica.gateway.registry.grouped.entries false }
  | beaten (now : ℤ) (userId : Uuid) (connections : List ConnectionRef)
      (rest : List (Uuid × List ConnectionRef)) (server : DirectoryServer)
      (turn : replica.heartbeat = .round ((userId, connections) :: rest) false)
      (stepTo : replica.server.step ttlMs (.refresh userId
        (connections.map fun connection => sessions.session connection.serial) now) = some server) :
      Effect sessions limit ttlMs replica (.beat now) { replica with
        server := server
        heartbeat := .round ((userId, connections) :: rest) true }
  | advanced (user : Uuid × List ConnectionRef) (rest : List (Uuid × List ConnectionRef))
      (refreshed : Bool) (turn : replica.heartbeat = .round (user :: rest) refreshed) :
      Effect sessions limit ttlMs replica .next { replica with heartbeat := .round rest false }
  | rested : Effect sessions limit ttlMs replica .next { replica with heartbeat := .sleeping }
  | elsewhere (event : DirectoryEvent) (server : DirectoryServer)
      (isForeign : foreign sessions event = true)
      (stepTo : replica.server.step ttlMs event = some server) :
      Effect sessions limit ttlMs replica (.elsewhere event) { replica with server := server }

section Steps

variable {sessions : ReplicaSessions} {limit ttlMs : ℕ} {replica after : SessionReplica}
  {event : ReplicaEvent}

theorem effect_of_step (stepTo : replica.step sessions limit ttlMs event = some after) :
    replica.Effect sessions limit ttlMs event after := by
  cases event with
  | gateway event =>
      obtain ⟨gateway, gatewayTo, rfl⟩ := Option.map_eq_some_iff.mp stepTo
      exact .gateway event gateway gatewayTo
  | register task now =>
      obtain ⟨serve, known, ready⟩ := Option.bind_eq_some_iff.mp stepTo
      obtain ⟨⟨isJoining, -⟩, executes⟩ := Option.ite_none_right_eq_some.mp ready
      obtain ⟨server, serverTo, rfl⟩ := Option.map_eq_some_iff.mp executes
      exact .registered task now serve server known isJoining serverTo
  | remove task =>
      obtain ⟨serve, known, ready⟩ := Option.bind_eq_some_iff.mp stepTo
      obtain ⟨⟨isDeparting, -⟩, executes⟩ := Option.ite_none_right_eq_some.mp ready
      obtain ⟨server, serverTo, rfl⟩ := Option.map_eq_some_iff.mp executes
      exact .removed task serve server known isDeparting serverTo
  | wake =>
      simp only [step] at stepTo
      split at stepTo
      case h_1 =>
          obtain rfl := Option.some.inj stepTo
          exact .woke
      case h_2 => cases stepTo
  | beat now =>
      simp only [step] at stepTo
      split at stepTo
      case h_1 userId connections rest turn =>
          obtain ⟨server, serverTo, rfl⟩ := Option.map_eq_some_iff.mp stepTo
          exact .beaten now userId connections rest server turn serverTo
      case h_2 => cases stepTo
  | next =>
      simp only [step] at stepTo
      split at stepTo
      case h_1 user rest refreshed turn =>
          obtain rfl := Option.some.inj stepTo
          exact .advanced user rest refreshed turn
      case h_2 =>
          obtain rfl := Option.some.inj stepTo
          exact .rested
      case h_3 => cases stepTo
  | elsewhere event =>
      obtain ⟨isForeign, executes⟩ := Option.ite_none_right_eq_some.mp stepTo
      obtain ⟨server, serverTo, rfl⟩ := Option.map_eq_some_iff.mp executes
      exact .elsewhere event server isForeign serverTo

end Steps

/-- The sessions in the directory are those of known connections, and a removed
session is not in it. -/
structure Vanished (sessions : ReplicaSessions) (replica : SessionReplica) : Prop where
  listed : ∀ userId connection, connection ∈ replica.gateway.registry.forUser userId →
    replica.gateway.Known connection
  due : ∀ rest refreshed, replica.heartbeat = .round rest refreshed → ∀ user ∈ rest,
    ∀ connection ∈ user.2, connection.userId = user.1 ∧ replica.gateway.Known connection
  housed : ∀ task userId, (sessions.session task).id ∈ (replica.server.keys userId).zset →
    ∃ serve, replica.gateway.serves.get? task = some serve ∧ serve.connection.userId = userId
  ended : ∀ task ∈ replica.removed, ∃ serve,
    replica.gateway.serves.get? task = some serve ∧ ServingGateway.guarded serve.stage = false
  gone : ∀ task ∈ replica.removed, ∀ userId,
    (sessions.session task).id ∉ (replica.server.keys userId).zset

section Gone

variable {sessions : ReplicaSessions} {limit ttlMs : ℕ} {replica after : SessionReplica}
  {event : ReplicaEvent}

theorem Vanished.gateway (vanished : replica.Vanished sessions) {event : ServeEvent}
    {gateway : ServingGateway} (stepTo : replica.gateway.step limit event = some gateway) :
    Vanished sessions { replica with gateway := gateway } := by
  have effect := ServingGateway.effect_of_step stepTo
  have known {connection : ConnectionRef} (before : replica.gateway.Known connection) :
      gateway.Known connection := by
    obtain ⟨serve, found, rfl⟩ := before
    obtain ⟨moved, isMoved, same, -⟩ := effect.keeps found
    exact ⟨moved, isMoved, same⟩
  refine ⟨?_, ?_, ?_, ?_, vanished.gone⟩
  · intro userId connection found
    rcases ServingGateway.mem_forUser_of_step stepTo found with earlier | new
    · exact known (vanished.listed userId connection earlier)
    · exact new
  · intro rest refreshed turn user isUser connection isMember
    obtain ⟨own, isKnown⟩ := vanished.due rest refreshed turn user isUser connection isMember
    exact ⟨own, known isKnown⟩
  · intro task userId found
    obtain ⟨serve, isKnown, rfl⟩ := vanished.housed task userId found
    obtain ⟨moved, isMoved, same, -⟩ := effect.keeps isKnown
    exact ⟨moved, isMoved, by rw [same]⟩
  · intro task isRemoved
    obtain ⟨serve, isKnown, past⟩ := vanished.ended task isRemoved
    obtain ⟨moved, isMoved, -, stays⟩ := effect.keeps isKnown
    exact ⟨moved, isMoved, stays past⟩

/-- A write of the directory that names none of the removed sessions and only
known ones. -/
theorem Vanished.write (vanished : replica.Vanished sessions) {write : DirectoryEvent}
    {server : DirectoryServer} (effect : replica.server.Effect ttlMs write server)
    (named : ∀ task userId named now, write = .refresh userId named now →
      (∃ session ∈ named, session.id = (sessions.session task).id) → task ∉ replica.removed ∧
        ∃ serve, replica.gateway.serves.get? task = some serve ∧ serve.connection.userId = userId) :
    Vanished sessions { replica with server := server } := by
  refine ⟨vanished.listed, vanished.due, ?_, vanished.ended, ?_⟩
  · intro task userId found
    rcases DirectoryServer.mem_zset_of_effect effect found with earlier | ⟨_, now, rfl, mentions⟩
    · exact vanished.housed task userId earlier
    · exact (named task userId _ now rfl mentions).2
  · intro task isRemoved userId found
    rcases DirectoryServer.mem_zset_of_effect effect found with earlier | ⟨_, now, rfl, mentions⟩
    · exact vanished.gone task isRemoved userId earlier
    · exact (named task userId _ now rfl mentions).1 isRemoved

theorem Vanished.step (vanished : replica.Vanished sessions) (timely : replica.Timely event)
    (effect : replica.Effect sessions limit ttlMs event after) : after.Vanished sessions := by
  cases effect with
  | gateway event gateway stepTo => exact vanished.gateway stepTo
  | registered task now serve server known isJoining stepTo =>
      have wrote := vanished.write (DirectoryServer.effect_of_step stepTo) ?_
      · exact ⟨wrote.listed, wrote.due, wrote.housed, wrote.ended, wrote.gone⟩
      · rintro other userId named _ ⟨⟩ ⟨session, isNamed, same⟩
        obtain rfl := List.mem_singleton.mp isNamed
        obtain rfl := sessions.distinct same
        refine ⟨?_, serve, known, rfl⟩
        intro isRemoved
        obtain ⟨ended, alsoKnown, past⟩ := vanished.ended task isRemoved
        obtain rfl := Option.some.inj (known.symm.trans alsoKnown)
        rw [isJoining] at past
        cases past
  | removed task serve server known isDeparting stepTo =>
      have serverEffect := DirectoryServer.effect_of_step stepTo
      have wrote := vanished.write serverEffect (by rintro _ _ _ _ ⟨⟩)
      refine ⟨wrote.listed, wrote.due, wrote.housed, ?_, ?_⟩
      · intro other isRemoved
        rcases KeySet.mem_add.mp isRemoved with rfl | earlier
        · exact ⟨serve, known, by rw [isDeparting]; rfl⟩
        · exact wrote.ended other earlier
      · intro other isRemoved userId found
        rcases KeySet.mem_add.mp isRemoved with rfl | earlier
        · obtain ⟨housing, alsoKnown, rfl⟩ := wrote.housed other userId found
          obtain rfl := Option.some.inj (known.symm.trans alsoKnown)
          exact DirectoryServer.not_mem_zset_of_removed serverEffect found
        · exact wrote.gone other earlier userId found
  | woke =>
      refine ⟨vanished.listed, ?_, vanished.housed, vanished.ended, vanished.gone⟩
      rintro _ _ ⟨⟩ ⟨userId, connections⟩ isUser connection isMember
      obtain ⟨own, owner, found⟩ := ConnectionRegistry.grouped_spec isUser isMember
      exact ⟨own, vanished.listed owner connection found⟩
  | beaten now userId connections rest server turn stepTo =>
      have wrote := vanished.write (DirectoryServer.effect_of_step stepTo) ?_
      · refine ⟨wrote.listed, ?_, wrote.housed, wrote.ended, wrote.gone⟩
        rintro _ _ ⟨⟩
        exact vanished.due _ _ turn
      · rintro task _ _ _ ⟨⟩ ⟨session, isNamed, same⟩
        obtain ⟨connection, isMember, rfl⟩ := List.mem_map.mp isNamed
        obtain rfl := sessions.distinct same
        have isDue : connection ∈ replica.heartbeat.due := by
          rw [turn]
          exact isMember
        obtain ⟨own, serve, known, isConnection⟩ := vanished.due _ _ turn _ (List.mem_cons_self ..)
          connection isMember
        exact ⟨timely connection isDue, serve, known, by rw [isConnection, own]⟩
  | advanced user rest refreshed turn =>
      refine ⟨vanished.listed, ?_, vanished.housed, vanished.ended, vanished.gone⟩
      rintro _ _ ⟨⟩ other isUser
      exact vanished.due _ _ turn other (List.mem_cons_of_mem _ isUser)
  | rested =>
      refine ⟨vanished.listed, ?_, vanished.housed, vanished.ended, vanished.gone⟩
      rintro _ _ ⟨⟩
  | elsewhere event server isForeign stepTo =>
      refine vanished.write (DirectoryServer.effect_of_step stepTo) ?_
      rintro task userId named now rfl ⟨session, isNamed, same⟩
      have unowned := List.all_eq_true.mp isForeign session isNamed
      rw [same, sessions.own task] at unowned
      cases unowned

theorem vanished_fresh (clock : ℤ) : (fresh clock).Vanished sessions := by
  refine ⟨?_, ?_, ?_, ?_, ?_⟩
  · intro userId connection found
    cases found
  · intro rest refreshed turn
    cases turn
  · intro task userId found
    cases found
  · intro task isRemoved
    cases isRemoved
  · intro task isRemoved
    cases isRemoved

/-- The listing did not read the session, and does not return it. -/
def Omits (call : ℕ) (sessionId : Uuid) (server : DirectoryServer) : Prop :=
  ∃ listing, server.calls.get? call = some listing ∧ sessionId ∉ listing.live ∧
    ∀ result, listing.stage = .returned result → ∀ entry ∈ result, entry.id ≠ sessionId

theorem nil_of_onward {live : List Uuid} {result : List SessionInfo}
    (returned : ListStage.onward live = .returned result) : result = [] := by
  unfold ListStage.onward at returned
  split at returned
  case isTrue => exact (ListStage.returned.inj returned).symm
  case isFalse => cases returned

theorem Omits.step {call : ℕ} {sessionId : Uuid} {server next : DirectoryServer}
    {write : DirectoryEvent} (omits : Omits call sessionId server)
    (effect : server.Effect ttlMs write next) : Omits call sessionId next := by
  obtain ⟨listing, known, absent, returns⟩ := omits
  obtain ⟨stage, moved, sameStage | onward | ⟨-, fetched⟩⟩ :=
    DirectoryServer.stage_of_effect effect known
  · refine ⟨_, moved, absent, ?_⟩
    rw [sameStage]
    exact returns
  · refine ⟨_, moved, absent, ?_⟩
    intro result returned entry listed
    obtain rfl := nil_of_onward (onward.symm.trans returned)
    cases listed
  · refine ⟨_, moved, absent, ?_⟩
    intro result returned entry listed
    rw [fetched] at returned
    obtain rfl := ListStage.returned.inj returned
    rintro rfl
    exact absent (SessionKeys.mem_listed.mp listed).1

theorem omits_of_read {call : ℕ} {userId sessionId : Uuid} {now : ℤ}
    {server next : DirectoryServer} (absent : sessionId ∉ (server.keys userId).zset)
    (effect : server.Effect ttlMs (.read call userId now) next) : Omits call sessionId next := by
  cases effect with
  | didRead _ _ _ new past =>
      have notLive : sessionId ∉ (server.keys userId).live server.clock now := by
        intro isLive
        obtain ⟨score, found, -⟩ := SessionKeys.mem_live.mp isLive
        exact absent (SessionKeys.mem_visible (Dict.mem_iff_exists.mpr ⟨score, found⟩)).1
      refine ⟨_, DirectoryServer.get?_goto_self .., notLive, ?_⟩
      intro result returned entry listed
      split at returned
      case isTrue =>
          obtain rfl := nil_of_onward returned
          cases listed
      case isFalse => cases returned

theorem server_of_effect (effect : replica.Effect sessions limit ttlMs event after) :
    after.server = replica.server ∨ ∃ write, replica.server.Effect ttlMs write after.server := by
  cases effect with
  | gateway | woke | advanced | rested => exact Or.inl rfl
  | registered _ _ _ _ _ _ stepTo => exact Or.inr ⟨_, DirectoryServer.effect_of_step stepTo⟩
  | removed _ _ _ _ _ stepTo => exact Or.inr ⟨_, DirectoryServer.effect_of_step stepTo⟩
  | beaten _ _ _ _ _ _ stepTo => exact Or.inr ⟨_, DirectoryServer.effect_of_step stepTo⟩
  | elsewhere _ _ _ stepTo => exact Or.inr ⟨_, DirectoryServer.effect_of_step stepTo⟩

end Gone

end SessionReplica

open SessionReplica

/-- Once the removal of a session has executed, no listing that reads after it
returns the session, unless the heartbeat refreshes it from an older
snapshot. -/
theorem removed_stays_gone {sessions : ReplicaSessions} {limit ttlMs : ℕ} {clock now : ℤ}
    {earlier later : List ReplicaEvent} {before final : SessionReplica} {task call : ℕ}
    {userId : Uuid} {listing : ListCall} {result : List SessionInfo}
    (reached : Run (SessionReplica.step sessions limit ttlMs) Timely (SessionReplica.fresh clock)
      earlier before)
    (removed : task ∈ before.removed)
    (read : Run (SessionReplica.step sessions limit ttlMs) Timely before
      (.elsewhere (.read call userId now) :: later) final)
    (known : final.server.calls.get? call = some listing)
    (returned : listing.stage = .returned result) :
    ∀ entry ∈ result, entry.id ≠ (sessions.session task).id := by
  have vanished : before.Vanished sessions := by
    apply reached.invariant
    · exact vanished_fresh clock
    · intro replica event after vanished timely stepTo
      exact vanished.step timely (effect_of_step stepTo)
  obtain ⟨afterRead, -, readTo, rest⟩ := run_cons_iff.mp read
  have omits : Omits call (sessions.session task).id final.server := by
    apply rest.invariant
    · cases effect_of_step readTo with
      | elsewhere _ server _ stepTo =>
          exact omits_of_read (vanished.gone task removed userId)
            (DirectoryServer.effect_of_step stepTo)
    · intro replica event after omits timely stepTo
      rcases server_of_effect (effect_of_step stepTo) with same | ⟨write, effect⟩
      · rw [same]
        exact omits
      · exact omits.step effect
  obtain ⟨same, alsoKnown, -, returns⟩ := omits
  obtain rfl := Option.some.inj (known.symm.trans alsoKnown)
  exact returns result returned

/-- Sockets whose sessions have even ids. -/
def evenSessions : ReplicaSessions where
  session task := ⟨2 * task, "Chrome on macOS", ⟨1700000200000000000, by decide, by decide⟩⟩
  distinct := by
    intro first second same
    exact Nat.eq_of_mul_eq_mul_left (by decide) same
  isOwn id := id % 2 = 0
  own task := by simp

/-- A socket is admitted, registers its session, and is on its way out when the
heartbeat takes its snapshot. -/
def connectedOnce : List ReplicaEvent :=
  [.gateway (.serve 0 7), .gateway (.acquire 0), .gateway (.hookDone 0), .register 0 0,
    .gateway (.proceed 0 true), .gateway (.proceed 0 true)]

def departed : List ReplicaEvent :=
  [.gateway (.proceed 0 true), .gateway (.acquire 0), .gateway (.hookDone 0),
    .gateway (.proceed 0 true), .remove 0]

theorem removed_stays_gone_departed :
    ∃ before final, Run (SessionReplica.step evenSessions 2 30000) Timely (SessionReplica.fresh 0)
        (connectedOnce ++ [.wake, .beat 0, .next] ++ departed) before ∧
      Run (SessionReplica.step evenSessions 2 30000) Timely before
        [.elsewhere (.read 0 7 0), .next] final ∧
      ∃ listing result, final.server.calls.get? 0 = some listing ∧
        listing.stage = .returned result ∧
          ∀ entry ∈ result, entry.id ≠ (evenSessions.session 0).id := by
  obtain ⟨before, executed, isRemoved, continued⟩ := @exists_of_exec _ _
    (SessionReplica.step evenSessions 2 30000) Timely (SessionReplica.fresh 0) _
    (fun before => 0 ∈ before.removed ∧
      (exec (SessionReplica.step evenSessions 2 30000) Timely before
        [.elsewhere (.read 0 7 0), .next]).any (fun final =>
          decide (final.server.returns 0 [] = true)) = true) _
    (connectedOnce ++ [.wake, .beat 0, .next] ++ departed) (by decide +kernel)
  obtain ⟨final, read, returns⟩ := exists_of_exec continued
  obtain ⟨listing, result, known, returned, -⟩ := DirectoryServer.exists_of_returns returns
  have reached := run_of_exec executed
  have calm := run_of_exec read
  exact ⟨before, final, reached, calm, listing, result, known, returned,
    removed_stays_gone reached isRemoved calm known returned⟩

/-- The heartbeat refreshes a session it took from the registry before the session
left: it is listed again after its removal. -/
theorem heartbeat_revives_removed :
    ∃ before final, Run (SessionReplica.step evenSessions 2 30000) Anything (SessionReplica.fresh 0)
        (connectedOnce ++ [.wake] ++ departed) before ∧ 0 ∈ before.removed ∧
      Run (SessionReplica.step evenSessions 2 30000) Anything before
        [.beat 0, .elsewhere (.read 0 7 0), .elsewhere (.fetch 0)] final ∧
      ∃ listing result, final.server.calls.get? 0 = some listing ∧
        listing.stage = .returned result ∧
          ∃ entry ∈ result, entry.id = (evenSessions.session 0).id := by
  obtain ⟨before, executed, isRemoved, continued⟩ := @exists_of_exec _ _
    (SessionReplica.step evenSessions 2 30000) Anything (SessionReplica.fresh 0) _
    (fun before => 0 ∈ before.removed ∧
      (exec (SessionReplica.step evenSessions 2 30000) Anything before
        [.beat 0, .elsewhere (.read 0 7 0), .elsewhere (.fetch 0)]).any (fun final =>
          decide (final.server.returns 0 [0] = true)) = true) _
    (connectedOnce ++ [.wake] ++ departed) (by decide +kernel)
  obtain ⟨final, read, returns⟩ := exists_of_exec continued
  obtain ⟨listing, result, known, returned, ids⟩ := DirectoryServer.exists_of_returns returns
  obtain ⟨entry, rfl, isZero⟩ := List.map_eq_singleton_iff.mp ids
  exact ⟨before, final, run_of_exec executed, isRemoved, run_of_exec read, listing, [entry], known,
    returned, entry, List.mem_singleton_self _, isZero⟩

end GeoTrack
