import GeoTrack.Clock
import GeoTrack.LabelledRuns
import GeoTrack.Tables
import Mathlib.Data.List.Sort

/-!
# The session directory

The sessions of a user live in two keys of Redis that every replica shares: a
sorted set with the end of each session's lease as its score, and a hash with
the label and the connect time.  A refresh writes both and renews their time to
live; a listing takes up to three round trips, one to read the sorted set, one
to drop the members whose lease is over, and one to fetch the rest of what it
read.

The round trips are atomic, and everything else happens between them.
-/

namespace GeoTrack

open LabelledRuns

structure SessionInfo where
  id : Uuid
  label : String
  connectedAt : DateTime
deriving DecidableEq

/-- A session as `serve` makes it, with the reading of the clock it took. -/
structure OpenSession where
  id : Uuid
  label : String
  opened : ClockTime

def OpenSession.info (session : OpenSession) : SessionInfo :=
  ⟨session.id, session.label, utcNow session.opened⟩

/-- What the hash keeps of a session. -/
structure SessionMeta where
  label : String
  connectedAt : ℤ
deriving DecidableEq

def SessionInfo.dumped (session : SessionInfo) : SessionMeta :=
  ⟨session.label, toEpochMs session.connectedAt⟩

/-- `_parse`. -/
def parseSession (member : Uuid) (payload : Option SessionMeta) : Option SessionInfo :=
  payload.bind fun stored =>
    (fromEpochMs stored.connectedAt).map fun connectedAt => ⟨member, stored.label, connectedAt⟩

theorem id_of_parseSession {member : Uuid} {payload : Option SessionMeta} {session : SessionInfo}
    (parsed : parseSession member payload = some session) : session.id = member := by
  obtain ⟨_, -, restored⟩ := Option.bind_eq_some_iff.mp parsed
  obtain ⟨_, -, rfl⟩ := Option.map_eq_some_iff.mp restored
  rfl

/-- The session as the directory gives it back. -/
def OpenSession.listedInfo (session : OpenSession) : SessionInfo :=
  ⟨session.id, session.label,
    (fromEpochMs (toEpochMs (utcNow session.opened))).get (isSome_fromEpochMs_utcNow session.opened)⟩

theorem parseSession_dumped (session : OpenSession) :
    parseSession session.id (some session.info.dumped) = some session.listedInfo := by
  simp only [parseSession, SessionInfo.dumped, OpenSession.info, OpenSession.listedInfo,
    Option.bind_some, Option.map_eq_some_iff]
  exact ⟨_, (Option.some_get _).symm, rfl⟩

/-- The two keys of a user.  They are renewed together, so they expire together. -/
structure SessionKeys where
  zset : Dict Uuid ℤ
  metadata : Dict Uuid SessionMeta
  expiresAt : ℤ

namespace SessionKeys

/-- What a command finds: a key past its time to live is gone. -/
def visible (keys : SessionKeys) (clock : ℤ) : SessionKeys :=
  if keys.expiresAt < clock then { keys with zset := ∅, metadata := ∅ } else keys

theorem visible_of_le {keys : SessionKeys} {clock : ℤ} (present : clock ≤ keys.expiresAt) :
    keys.visible clock = keys := if_neg (not_lt.mpr present)

theorem mem_visible {keys : SessionKeys} {clock : ℤ} {member : Uuid}
    (found : member ∈ (keys.visible clock).zset) : member ∈ keys.zset ∧ clock ≤ keys.expiresAt := by
  unfold visible at found
  split at found
  case isTrue => cases found
  case isFalse present => exact ⟨found, not_lt.mp present⟩

/-- The pipeline of `refresh`, with the reading of the clock it was made from. -/
def refresh (keys : SessionKeys) (ttlMs : ℕ) (clock now : ℤ) (sessions : List SessionInfo) :
    SessionKeys :=
  if sessions = [] then keys
  else
    { zset := (keys.visible clock).zset.setAll
        (sessions.map fun session => (session.id, now + ttlMs))
      metadata := (keys.visible clock).metadata.setAll
        (sessions.map fun session => (session.id, session.dumped))
      expiresAt := clock + ttlMs * 3 }

def remove (keys : SessionKeys) (clock : ℤ) (sessionId : Uuid) : SessionKeys :=
  { keys.visible clock with
    zset := (keys.visible clock).zset.erase sessionId
    metadata := (keys.visible clock).metadata.erase sessionId }

/-- The second pipeline of `list_for`. -/
def prune (keys : SessionKeys) (clock : ℤ) (expired : List Uuid) : SessionKeys :=
  { keys.visible clock with
    zset := (keys.visible clock).zset.eraseAll expired
    metadata := (keys.visible clock).metadata.eraseAll expired }

/-- `ZRANGEBYSCORE`: by score, and members of one score by their names. -/
def ranged (keys : SessionKeys) (clock : ℤ) (within : ℤ → Bool) : List Uuid :=
  (((keys.visible clock).zset.entries.filter fun entry => within entry.2).insertionSort
    fun first second => first.2 < second.2 ∨ first.2 = second.2 ∧ first.1 ≤ second.1).map Prod.fst

def expired (keys : SessionKeys) (clock now : ℤ) : List Uuid :=
  keys.ranged clock fun score => score ≤ now

def live (keys : SessionKeys) (clock now : ℤ) : List Uuid :=
  keys.ranged clock fun score => now < score

/-- The last round trip of `list_for` and what it makes of the answer. -/
def listed (keys : SessionKeys) (clock : ℤ) (members : List Uuid) : List SessionInfo :=
  (members.filterMap fun member =>
    parseSession member ((keys.visible clock).metadata.get? member)).insertionSort
    fun first second => first.connectedAt.us ≤ second.connectedAt.us

theorem mem_ranged {keys : SessionKeys} {clock : ℤ} {within : ℤ → Bool} {member : Uuid} :
    member ∈ keys.ranged clock within ↔
      ∃ score, (keys.visible clock).zset.get? member = some score ∧ within score = true := by
  simp only [ranged, List.mem_map, List.mem_insertionSort, List.mem_filter]
  constructor
  · rintro ⟨⟨_, score⟩, ⟨listed, passes⟩, rfl⟩
    exact ⟨score, Dict.mem_entries_iff.mp listed, passes⟩
  · rintro ⟨score, found, passes⟩
    exact ⟨(member, score), ⟨Dict.mem_entries_iff.mpr found, passes⟩, rfl⟩

theorem mem_live {keys : SessionKeys} {clock now : ℤ} {member : Uuid} :
    member ∈ keys.live clock now ↔
      ∃ score, (keys.visible clock).zset.get? member = some score ∧ now < score := by
  simp [live, mem_ranged]

theorem mem_listed {keys : SessionKeys} {clock : ℤ} {members : List Uuid} {session : SessionInfo} :
    session ∈ keys.listed clock members ↔ session.id ∈ members ∧
      parseSession session.id ((keys.visible clock).metadata.get? session.id) = some session := by
  rw [listed, List.mem_insertionSort, List.mem_filterMap]
  constructor
  · rintro ⟨member, isMember, parsed⟩
    obtain rfl := id_of_parseSession parsed
    exact ⟨isMember, parsed⟩
  · rintro ⟨isMember, parsed⟩
    exact ⟨session.id, isMember, parsed⟩

/-- A refresh writes the sessions it names and leaves the others as it finds
them. -/
theorem refresh_cases (keys : SessionKeys) (ttlMs : ℕ) (clock now : ℤ) {sessions : List SessionInfo}
    (named : sessions ≠ []) (member : Uuid) :
    (∃ session ∈ sessions, session.id = member ∧
      (keys.refresh ttlMs clock now sessions).zset.get? member = some (now + ttlMs) ∧
      (keys.refresh ttlMs clock now sessions).metadata.get? member = some session.dumped) ∨
    (∀ session ∈ sessions, session.id ≠ member) ∧
      (keys.refresh ttlMs clock now sessions).zset.get? member =
        (keys.visible clock).zset.get? member ∧
      (keys.refresh ttlMs clock now sessions).metadata.get? member =
        (keys.visible clock).metadata.get? member := by
  simp only [refresh, if_neg named]
  rcases Dict.get?_setAll_cases (keys.visible clock).metadata
      (sessions.map fun session => (session.id, session.dumped)) member with
    ⟨stored, written, found⟩ | ⟨unnamed, kept⟩
  · obtain ⟨session, listed, same⟩ := List.mem_map.mp written
    obtain ⟨rfl, rfl⟩ := Prod.mk.inj same
    refine Or.inl ⟨session, listed, rfl, ?_, found⟩
    rcases Dict.get?_setAll_cases (keys.visible clock).zset
        (sessions.map fun session => (session.id, now + ttlMs)) session.id with
      ⟨score, scored, foundScore⟩ | ⟨unnamed, -⟩
    · obtain ⟨_, -, alike⟩ := List.mem_map.mp scored
      rw [foundScore, ← (Prod.mk.inj alike).2]
    · exact absurd (List.mem_map_of_mem (List.mem_map_of_mem listed)) unnamed
  · have others : ∀ session ∈ sessions, session.id ≠ member := by
      rintro session listed rfl
      exact unnamed (List.mem_map_of_mem (List.mem_map_of_mem listed))
    refine Or.inr ⟨others, ?_, kept⟩
    rcases Dict.get?_setAll_cases (keys.visible clock).zset
        (sessions.map fun session => (session.id, now + ttlMs)) member with
      ⟨score, scored, -⟩ | ⟨-, keptScore⟩
    · obtain ⟨session, listed, alike⟩ := List.mem_map.mp scored
      exact absurd (Prod.mk.inj alike).1 (others session listed)
    · exact keptScore

@[simp]
theorem expiresAt_visible (keys : SessionKeys) (clock : ℤ) :
    (keys.visible clock).expiresAt = keys.expiresAt := by
  unfold visible
  split <;> rfl

@[simp]
theorem expiresAt_remove (keys : SessionKeys) (clock : ℤ) (sessionId : Uuid) :
    (keys.remove clock sessionId).expiresAt = keys.expiresAt := expiresAt_visible keys clock

@[simp]
theorem expiresAt_prune (keys : SessionKeys) (clock : ℤ) (expired : List Uuid) :
    (keys.prune clock expired).expiresAt = keys.expiresAt := expiresAt_visible keys clock

/-- A session is in the sorted set exactly when it is in the hash, and everything
in the hash can be read back. -/
def Paired (keys : SessionKeys) : Prop :=
  ∀ member, (member ∈ keys.zset ↔ member ∈ keys.metadata) ∧
    ∀ stored, keys.metadata.get? member = some stored →
      (parseSession member (some stored)).isSome

section Paired

variable {keys : SessionKeys}

theorem paired_empty (expiresAt : ℤ) : Paired ⟨∅, ∅, expiresAt⟩ := by
  intro member
  refine ⟨Iff.rfl, ?_⟩
  intro stored found
  cases found

theorem Paired.visible (paired : keys.Paired) (clock : ℤ) : (keys.visible clock).Paired := by
  unfold SessionKeys.visible
  split
  case isTrue => exact paired_empty _
  case isFalse => exact paired

theorem Paired.eraseAll (paired : keys.Paired) (gone : List Uuid) (expiresAt : ℤ) :
    Paired ⟨keys.zset.eraseAll gone, keys.metadata.eraseAll gone, expiresAt⟩ := by
  intro member
  simp only [Dict.mem_def, Dict.get?_eraseAll]
  by_cases isGone : member ∈ gone
  · simp [isGone]
  · simpa [isGone, Dict.mem_def] using paired member

theorem Paired.remove (paired : keys.Paired) (clock : ℤ) (sessionId : Uuid) :
    (keys.remove clock sessionId).Paired := by
  intro member
  have before := paired.visible clock member
  simp only [SessionKeys.remove, Dict.mem_def, Dict.get?_erase]
  by_cases isGone : member = sessionId
  · simp [isGone]
  · simpa [isGone, Dict.mem_def] using before

theorem Paired.refresh (paired : keys.Paired) (ttlMs : ℕ) (clock now : ℤ)
    (sessions : List OpenSession) :
    (keys.refresh ttlMs clock now (sessions.map OpenSession.info)).Paired := by
  by_cases named : sessions.map OpenSession.info = []
  · rw [SessionKeys.refresh, if_pos named]
    exact paired
  · intro member
    rw [Dict.mem_def, Dict.mem_def]
    rcases refresh_cases keys ttlMs clock now named member with
      ⟨_, listed, isMember, score, stored⟩ | ⟨-, score, stored⟩
    · obtain ⟨session, -, rfl⟩ := List.mem_map.mp listed
      rw [score, stored]
      refine ⟨Iff.rfl, ?_⟩
      intro kept same
      obtain rfl := Option.some.inj same
      rw [← isMember]
      exact Option.isSome_iff_exists.mpr ⟨_, parseSession_dumped session⟩
    · rw [score, stored]
      exact paired.visible clock member

end Paired

end SessionKeys

inductive ListStage where
  | pruning
  | fetching
  | returned (sessions : List SessionInfo)
deriving DecidableEq

/-- A call of `list_for`, with what its first round trip read. -/
structure ListCall where
  userId : Uuid
  expired : List Uuid
  live : List Uuid
  stage : ListStage
deriving DecidableEq

/-- After the prune, if there is one: without live members there is nothing to
fetch. -/
def ListStage.onward (live : List Uuid) : ListStage :=
  if live = [] then .returned [] else .fetching

/-- The session keys of all users, and the calls of `list_for` of any replica.
The clocks of the replicas and of Redis agree. -/
structure DirectoryServer where
  clock : ℤ
  keys : Uuid → SessionKeys
  calls : Dict ℕ ListCall

inductive DirectoryEvent where
  | elapse (ms : ℕ)
  /-- The pipeline of a `refresh` that read the clock at `now`. -/
  | refresh (userId : Uuid) (sessions : List OpenSession) (now : ℤ)
  | remove (userId sessionId : Uuid)
  /-- The first round trip of a `list_for` that read the clock at `now`. -/
  | read (call : ℕ) (userId : Uuid) (now : ℤ)
  | prune (call : ℕ)
  | fetch (call : ℕ)

namespace DirectoryServer

def empty (clock : ℤ) : DirectoryServer := ⟨clock, fun _ => ⟨∅, ∅, clock⟩, ∅⟩

def alter (server : DirectoryServer) (userId : Uuid) (keys : SessionKeys) : DirectoryServer :=
  { server with keys := Function.update server.keys userId keys }

def goto (server : DirectoryServer) (call : ℕ) (listing : ListCall) (stage : ListStage) :
    DirectoryServer :=
  { server with calls := server.calls.set call { listing with stage := stage } }

@[simp]
theorem get?_goto_self (server : DirectoryServer) (call : ℕ) (listing : ListCall)
    (stage : ListStage) :
    (server.goto call listing stage).calls.get? call = some { listing with stage := stage } := by
  simp [goto]

def step (ttlMs : ℕ) (server : DirectoryServer) : DirectoryEvent → Option DirectoryServer
  | .elapse ms => some { server with clock := server.clock + ms }
  | .refresh userId sessions now =>
      if now ≤ server.clock then
        some (server.alter userId
          ((server.keys userId).refresh ttlMs server.clock now (sessions.map OpenSession.info)))
      else
        none
  | .remove userId sessionId =>
      some (server.alter userId ((server.keys userId).remove server.clock sessionId))
  | .read call userId now =>
      if call ∈ server.calls ∨ server.clock < now then none
      else
        let expired := (server.keys userId).expired server.clock now
        let live := (server.keys userId).live server.clock now
        some (server.goto call ⟨userId, expired, live, .pruning⟩
          (if expired = [] then .onward live else .pruning))
  | .prune call =>
      (server.calls.get? call).bind fun listing =>
        if listing.stage = .pruning then
          some ((server.alter listing.userId
            ((server.keys listing.userId).prune server.clock listing.expired)).goto call listing
              (.onward listing.live))
        else
          none
  | .fetch call =>
      (server.calls.get? call).bind fun listing =>
        if listing.stage = .fetching then
          some (server.goto call listing
            (.returned ((server.keys listing.userId).listed server.clock listing.live)))
        else
          none

/-- What a step can do. -/
inductive Effect (ttlMs : ℕ) (server : DirectoryServer) : DirectoryEvent → DirectoryServer → Prop where
  | elapsed (ms : ℕ) : Effect ttlMs server (.elapse ms) { server with clock := server.clock + ms }
  | refreshed (userId : Uuid) (sessions : List OpenSession) (now : ℤ) (past : now ≤ server.clock) :
      Effect ttlMs server (.refresh userId sessions now) (server.alter userId
        ((server.keys userId).refresh ttlMs server.clock now (sessions.map OpenSession.info)))
  | removed (userId sessionId : Uuid) :
      Effect ttlMs server (.remove userId sessionId)
        (server.alter userId ((server.keys userId).remove server.clock sessionId))
  | didRead (call : ℕ) (userId : Uuid) (now : ℤ) (new : call ∉ server.calls)
      (past : now ≤ server.clock) :
      Effect ttlMs server (.read call userId now) (server.goto call
        ⟨userId, (server.keys userId).expired server.clock now,
          (server.keys userId).live server.clock now, .pruning⟩
        (if (server.keys userId).expired server.clock now = [] then
          .onward ((server.keys userId).live server.clock now)
        else .pruning))
  | pruned (call : ℕ) (listing : ListCall) (known : server.calls.get? call = some listing)
      (isPruning : listing.stage = .pruning) :
      Effect ttlMs server (.prune call) ((server.alter listing.userId
        ((server.keys listing.userId).prune server.clock listing.expired)).goto call listing
          (.onward listing.live))
  | fetched (call : ℕ) (listing : ListCall) (known : server.calls.get? call = some listing)
      (isFetching : listing.stage = .fetching) :
      Effect ttlMs server (.fetch call) (server.goto call listing
        (.returned ((server.keys listing.userId).listed server.clock listing.live)))

theorem effect_of_step {ttlMs : ℕ} {server after : DirectoryServer} {event : DirectoryEvent}
    (stepTo : server.step ttlMs event = some after) : server.Effect ttlMs event after := by
  cases event with
  | elapse ms =>
      obtain rfl := Option.some.inj stepTo
      exact .elapsed ms
  | refresh userId sessions now =>
      obtain ⟨past, same⟩ := Option.ite_none_right_eq_some.mp stepTo
      obtain rfl := Option.some.inj same
      exact .refreshed userId sessions now past
  | remove userId sessionId =>
      obtain rfl := Option.some.inj stepTo
      exact .removed userId sessionId
  | read call userId now =>
      obtain ⟨fresh, same⟩ := Option.ite_none_left_eq_some.mp stepTo
      obtain rfl := Option.some.inj same
      obtain ⟨new, past⟩ := not_or.mp fresh
      exact .didRead call userId now new (not_lt.mp past)
  | prune call =>
      obtain ⟨listing, known, pruned⟩ := Option.bind_eq_some_iff.mp stepTo
      obtain ⟨isPruning, same⟩ := Option.ite_none_right_eq_some.mp pruned
      obtain rfl := Option.some.inj same
      exact .pruned call listing known isPruning
  | fetch call =>
      obtain ⟨listing, known, fetched⟩ := Option.bind_eq_some_iff.mp stepTo
      obtain ⟨isFetching, same⟩ := Option.ite_none_right_eq_some.mp fetched
      obtain rfl := Option.some.inj same
      exact .fetched call listing known isFetching

@[simp]
theorem keys_alter (server : DirectoryServer) (userId other : Uuid) (keys : SessionKeys) :
    (server.alter userId keys).keys other = if other = userId then keys else server.keys other := by
  simp [alter, Function.update_apply]

section Effects

variable {ttlMs : ℕ} {server after : DirectoryServer} {event : DirectoryEvent}

/-- A listing keeps what it read, and its stage moves only by its own round
trips. -/
theorem stage_of_effect (effect : server.Effect ttlMs event after) {call : ℕ} {listing : ListCall}
    (known : server.calls.get? call = some listing) :
    ∃ stage, after.calls.get? call = some { listing with stage := stage } ∧
      (stage = listing.stage ∨ stage = .onward listing.live ∨ listing.stage = .fetching ∧
        stage = .returned ((server.keys listing.userId).listed server.clock listing.live)) := by
  have others {other : ℕ} {another : ListCall} {keys : Uuid → SessionKeys} {stage : ListStage}
      (differs : call ≠ other) :
      (goto { server with keys := keys } other another stage).calls.get? call = some listing := by
    simp only [goto, Dict.get?_set, if_neg differs, known]
  cases effect with
  | elapsed | refreshed | removed => exact ⟨listing.stage, known, Or.inl rfl⟩
  | didRead other userId now new =>
      refine ⟨listing.stage, others ?_, Or.inl rfl⟩
      rintro rfl
      exact new (Dict.mem_iff_exists.mpr ⟨listing, known⟩)
  | pruned other another alsoKnown isPruning =>
      by_cases same : call = other
      · subst same
        obtain rfl := Option.some.inj (known.symm.trans alsoKnown)
        exact ⟨_, get?_goto_self .., Or.inr (Or.inl rfl)⟩
      · exact ⟨listing.stage, others same, Or.inl rfl⟩
  | fetched other another alsoKnown isFetching =>
      by_cases same : call = other
      · subst same
        obtain rfl := Option.some.inj (known.symm.trans alsoKnown)
        exact ⟨_, get?_goto_self .., Or.inr (Or.inr ⟨isFetching, rfl⟩)⟩
      · exact ⟨listing.stage, others same, Or.inl rfl⟩

/-- Only a refresh brings a session into the directory. -/
theorem mem_zset_of_effect (effect : server.Effect ttlMs event after) {userId member : Uuid}
    (found : member ∈ (after.keys userId).zset) :
    member ∈ (server.keys userId).zset ∨ ∃ sessions now, event = .refresh userId sessions now ∧
      ∃ session ∈ sessions, session.id = member := by
  have elsewhere {other : Uuid} {keys : SessionKeys}
      (altered : member ∈ ((server.alter other keys).keys userId).zset)
      (inside : other = userId → member ∈ keys.zset → member ∈ (server.keys userId).zset) :
      member ∈ (server.keys userId).zset := by
    rw [keys_alter] at altered
    split at altered
    case isTrue same => exact inside same.symm altered
    case isFalse => exact altered
  cases effect with
  | elapsed | didRead | fetched => exact Or.inl found
  | refreshed other sessions now past =>
      by_cases same : userId = other
      · subst same
        rw [keys_alter, if_pos rfl] at found
        by_cases named : sessions.map OpenSession.info = []
        · rw [SessionKeys.refresh, if_pos named] at found
          exact Or.inl found
        · rcases SessionKeys.refresh_cases (server.keys userId) ttlMs server.clock now named member
            with ⟨_, listed, isMember, -⟩ | ⟨-, score, -⟩
          · obtain ⟨session, isListed, rfl⟩ := List.mem_map.mp listed
            exact Or.inr ⟨sessions, now, rfl, session, isListed, isMember⟩
          · rw [Dict.mem_def, score] at found
            exact Or.inl (SessionKeys.mem_visible found).1
      · rw [keys_alter, if_neg same] at found
        exact Or.inl found
  | removed other gone =>
      refine Or.inl (elsewhere found ?_)
      rintro rfl kept
      exact (SessionKeys.mem_visible (Dict.mem_erase.mp kept).2).1
  | pruned call listing known isPruning =>
      refine Or.inl (elsewhere found ?_)
      rintro rfl kept
      rw [SessionKeys.prune, Dict.mem_def, Dict.get?_eraseAll] at kept
      split at kept
      case isTrue => cases kept
      case isFalse => exact (SessionKeys.mem_visible kept).1

theorem not_mem_zset_of_removed {userId sessionId : Uuid}
    (effect : server.Effect ttlMs (.remove userId sessionId) after) :
    sessionId ∉ (after.keys userId).zset := by
  cases effect
  rw [keys_alter, if_pos rfl, SessionKeys.remove, Dict.mem_erase]
  exact fun kept => kept.1 rfl

end Effects

end DirectoryServer

end GeoTrack
