import GeoTrack.ListedSessions
import Mathlib.Data.Finset.Max
import Mathlib.Data.Prod.Lex

/-!
# The session cap of the fleet

A replica admits a socket when the user is below the cap there.  Across
replicas the directory decides: a session registers, reads the list, and goes
on when fewer sessions than the cap are older than itself.  Older means an
earlier connect time, by the clock of the replica that accepted the socket, and
the order in which sessions register may be another one.
-/

namespace GeoTrack

open LabelledRuns

/-- The order of `(connected_at, id)`. -/
def SessionInfo.key (session : SessionInfo) : ℤ ×ₗ ℕ := toLex (session.connectedAt.us, session.id)

/-- `_rank_of`. -/
def rankOf (sessionId : Uuid) (sessions : List SessionInfo) : ℕ :=
  match sessions.find? fun entry => entry.id = sessionId with
  | none => 0
  | some mine => sessions.countP fun entry => entry.key < mine.key

/-- Where a call of `serve` is. -/
inductive CapStage where
  /-- Has its connect time and is not in the registry yet. -/
  | stamped
  | turnedAway
  /-- In the registry of its replica, about to register in the directory. -/
  | admitted
  | registered
  /-- In `list_for`, after the first round trip. -/
  | listing
  | joined
  | overCap
  /-- Out of the registry, about to be removed from the directory. -/
  | leaving (passed : Bool)
  | left
deriving DecidableEq

namespace CapStage

/-- Has passed `_session_joined` and not left. -/
def passed : CapStage → Bool
  | .joined | .leaving true => true
  | .stamped | .turnedAway | .admitted | .registered | .listing | .overCap | .leaving false | .left =>
      false

/-- Has an entry in the directory that only its own removal takes out. -/
def entered : CapStage → Bool
  | .registered | .listing | .joined | .leaving true => true
  | .stamped | .turnedAway | .admitted | .overCap | .leaving false | .left => false

/-- Counts for the registry of the replica. -/
def connected : CapStage → Bool
  | .admitted | .registered | .listing | .joined | .overCap => true
  | .stamped | .turnedAway | .leaving _ | .left => false

end CapStage

structure CapSession where
  replica : ℕ
  session : OpenSession
  stage : CapStage

/-- The sessions of one user on all replicas, by their ids. -/
structure CappedFleet where
  server : DirectoryServer
  sessions : Dict Uuid CapSession

inductive CapEvent where
  | elapse (ms : ℕ)
  | stamp (replica : ℕ) (session : OpenSession)
  | add (sessionId : Uuid)
  | register (sessionId : Uuid) (now : ℤ)
  | read (sessionId : Uuid) (now : ℤ)
  | prune (sessionId : Uuid)
  | fetch (sessionId : Uuid)
  | depart (sessionId : Uuid)
  | remove (sessionId : Uuid)

namespace CappedFleet

def fresh (clock : ℤ) : CappedFleet := ⟨DirectoryServer.empty clock, ∅⟩

def goto (fleet : CappedFleet) (sessionId : Uuid) (own : CapSession) (stage : CapStage) :
    CappedFleet :=
  { fleet with sessions := fleet.sessions.set sessionId { own with stage := stage } }

/-- The connections the registry of a replica holds for the user. -/
def heldBy (fleet : CappedFleet) (replica : ℕ) : ℕ :=
  (fleet.sessions.filter fun _ own => own.replica = replica ∧ own.stage.connected = true).size

/-- When `list_for` has returned, the rank decides. -/
def verdict (cap : ℕ) (sessionId : Uuid) : ListStage → CapStage
  | .returned result => if rankOf sessionId result ≥ cap then .overCap else .joined
  | .pruning | .fetching => .listing

/-- A round trip of the session's own `list_for`. -/
def lists (ttlMs cap : ℕ) (fleet : CappedFleet) (sessionId : Uuid) (own : CapSession)
    (event : DirectoryEvent) : Option CappedFleet :=
  (fleet.server.step ttlMs event).bind fun server =>
    (server.calls.get? sessionId).map fun listing =>
      goto { fleet with server := server } sessionId own (verdict cap sessionId listing.stage)

def step (userId : Uuid) (cap ttlMs : ℕ) (fleet : CappedFleet) : CapEvent → Option CappedFleet
  | .elapse ms =>
      (fleet.server.step ttlMs (.elapse ms)).map fun server => { fleet with server := server }
  | .stamp replica session =>
      if session.id ∈ fleet.sessions then none
      else
        some { fleet with
          sessions := fleet.sessions.set session.id ⟨replica, session, .stamped⟩ }
  | .add sessionId =>
      (fleet.sessions.get? sessionId).bind fun own =>
        if own.stage = .stamped then
          some (fleet.goto sessionId own
            (if fleet.heldBy own.replica ≥ cap then .turnedAway else .admitted))
        else
          none
  | .register sessionId now =>
      (fleet.sessions.get? sessionId).bind fun own =>
        if own.stage = .admitted then
          (fleet.server.step ttlMs (.refresh userId [own.session] now)).map fun server =>
            goto { fleet with server := server } sessionId own .registered
        else
          none
  | .read sessionId now =>
      (fleet.sessions.get? sessionId).bind fun own =>
        if own.stage = .registered then
          fleet.lists ttlMs cap sessionId own (.read sessionId userId now)
        else
          none
  | .prune sessionId =>
      (fleet.sessions.get? sessionId).bind fun own =>
        if own.stage = .listing then fleet.lists ttlMs cap sessionId own (.prune sessionId) else none
  | .fetch sessionId =>
      (fleet.sessions.get? sessionId).bind fun own =>
        if own.stage = .listing then fleet.lists ttlMs cap sessionId own (.fetch sessionId) else none
  | .depart sessionId =>
      (fleet.sessions.get? sessionId).bind fun own =>
        if own.stage.connected then
          some (fleet.goto sessionId own (.leaving own.stage.passed))
        else
          none
  | .remove sessionId =>
      (fleet.sessions.get? sessionId).bind fun own =>
        match own.stage with
        | .leaving _ =>
            (fleet.server.step ttlMs (.remove userId sessionId)).map fun server =>
              goto { fleet with server := server } sessionId own .left
        | _ => none

/-- The sessions that have passed and are older than this one. -/
def older (fleet : CappedFleet) (info : SessionInfo) : Finset Uuid :=
  (fleet.sessions.filter fun _ own =>
    own.stage.passed = true ∧ own.session.listedInfo.key < info.key).support

/-- No entry of the directory is past its lease. -/
def Unexpired (userId : Uuid) (fleet : CappedFleet) : Prop :=
  ∀ entry ∈ (fleet.server.keys userId).zset.entries, fleet.server.clock < entry.2 ∧
    fleet.server.clock ≤ (fleet.server.keys userId).expiresAt

instance (userId : Uuid) (fleet : CappedFleet) : Decidable (fleet.Unexpired userId) :=
  inferInstanceAs (Decidable (∀ entry ∈ (fleet.server.keys userId).zset.entries, _))

/-- When its list arrives, a session has read every older one that has passed, and
no newer one has passed before it, unless there is room for it. -/
def InOrder (cap : ℕ) (fleet : CappedFleet) : CapEvent → Prop
  | .fetch sessionId =>
      ∀ own ∈ fleet.sessions.get? sessionId,
        (∀ listing ∈ fleet.server.calls.get? sessionId,
          (∀ other ∈ fleet.older own.session.listedInfo, other ∈ listing.live) ∨
            (fleet.older own.session.listedInfo).card < cap) ∧
        ∀ newer ∈ fleet.sessions.values, newer.stage.passed = true →
          own.session.listedInfo.key < newer.session.listedInfo.key →
            (fleet.older newer.session.listedInfo).card + 1 < cap
  | .elapse _ | .stamp .. | .add _ | .register .. | .read .. | .prune _ | .depart _ | .remove _ =>
      True

instance (cap : ℕ) (fleet : CappedFleet) (event : CapEvent) :
    Decidable (fleet.InOrder cap event) :=
  match event with
  | .fetch sessionId =>
      inferInstanceAs (Decidable (∀ own ∈ fleet.sessions.get? sessionId,
        (∀ listing ∈ fleet.server.calls.get? sessionId, _ ∨ _) ∧
          ∀ newer ∈ fleet.sessions.values, _ → _ → _))
  | .elapse _ | .stamp .. | .add _ | .register .. | .read .. | .prune _ | .depart _ | .remove _ =>
      isTrue trivial

/-- What the sessions that are still there know of each other. -/
structure Ranked (userId : Uuid) (cap : ℕ) (fleet : CappedFleet) : Prop where
  own : ∀ sessionId own, fleet.sessions.get? sessionId = some own → own.session.id = sessionId
  stored : ∀ sessionId ∈ (fleet.server.keys userId).zset, ∃ own,
    fleet.sessions.get? sessionId = some own ∧
      (fleet.server.keys userId).metadata.get? sessionId = some own.session.info.dumped
  present : ∀ sessionId own, fleet.sessions.get? sessionId = some own →
    own.stage.entered = true → sessionId ∈ (fleet.server.keys userId).zset
  reading : ∀ sessionId own, fleet.sessions.get? sessionId = some own → own.stage = .listing →
    ∃ listing, fleet.server.calls.get? sessionId = some listing ∧ listing.userId = userId ∧
      listing.stage = .fetching ∧ sessionId ∈ listing.live
  passed : ∀ sessionId own, fleet.sessions.get? sessionId = some own → own.stage.passed = true →
    (fleet.older own.session.listedInfo).card < cap

section Ranks

variable {userId : Uuid} {cap ttlMs : ℕ} {fleet after : CappedFleet}

theorem entered_of_passed {stage : CapStage} (isPassed : stage.passed = true) :
    stage.entered = true := by
  cases stage with
  | joined => rfl
  | leaving passed =>
      cases passed with
      | true => rfl
      | false => cases isPassed
  | stamped | turnedAway | admitted | registered | listing | overCap | left => cases isPassed

theorem mem_older {info : SessionInfo} {other : Uuid} :
    other ∈ fleet.older info ↔ ∃ own, fleet.sessions.get? other = some own ∧
      own.stage.passed = true ∧ own.session.listedInfo.key < info.key := by
  rw [older, Dict.mem_support, Dict.mem_filter]
  simp

theorem visible_of_unexpired (unexpired : fleet.Unexpired userId) {sessionId : Uuid}
    (present : sessionId ∈ (fleet.server.keys userId).zset) :
    (fleet.server.keys userId).visible fleet.server.clock = fleet.server.keys userId := by
  obtain ⟨score, found⟩ := Dict.mem_iff_exists.mp present
  exact SessionKeys.visible_of_le (unexpired _ (Dict.mem_entries_iff.mpr found)).2

/-- While nothing expires, a listing reads the whole directory. -/
theorem read_unexpired (unexpired : fleet.Unexpired userId) {now : ℤ}
    (past : now ≤ fleet.server.clock) :
    (fleet.server.keys userId).expired fleet.server.clock now = [] ∧
      ∀ sessionId ∈ (fleet.server.keys userId).zset,
        sessionId ∈ (fleet.server.keys userId).live fleet.server.clock now := by
  constructor
  · rw [List.eq_nil_iff_forall_not_mem]
    intro sessionId isExpired
    obtain ⟨score, found, isPast⟩ := SessionKeys.mem_ranged.mp isExpired
    have present := (SessionKeys.mem_visible (Dict.mem_iff_exists.mpr ⟨score, found⟩)).1
    rw [visible_of_unexpired unexpired present] at found
    have later := (unexpired _ (Dict.mem_entries_iff.mpr found)).1
    have isOver := of_decide_eq_true isPast
    dsimp only at later
    omega
  · intro sessionId present
    obtain ⟨score, found⟩ := Dict.mem_iff_exists.mp present
    have later := (unexpired _ (Dict.mem_entries_iff.mpr found)).1
    rw [SessionKeys.mem_live, visible_of_unexpired unexpired present]
    exact ⟨score, found, lt_of_le_of_lt past later⟩

/-- The rank counts every older entry that was read. -/
theorem Ranked.card_older_le_rank (ranked : fleet.Ranked userId cap) {sessionId : Uuid}
    {own : CapSession} (known : fleet.sessions.get? sessionId = some own)
    (present : sessionId ∈ (fleet.server.keys userId).zset)
    (unexpired : fleet.Unexpired userId) {live : List Uuid} (isLive : sessionId ∈ live)
    (read : ∀ other ∈ fleet.older own.session.listedInfo, other ∈ live) :
    (fleet.older own.session.listedInfo).card ≤
      rankOf sessionId ((fleet.server.keys userId).listed fleet.server.clock live) := by
  generalize isResult : (fleet.server.keys userId).listed fleet.server.clock live = result
  have mem_result {other : Uuid} {another : CapSession}
      (isKnown : fleet.sessions.get? other = some another)
      (isPresent : other ∈ (fleet.server.keys userId).zset) (isRead : other ∈ live) :
      another.session.listedInfo ∈ result := by
    obtain ⟨same, alsoKnown, stored⟩ := ranked.stored other isPresent
    obtain rfl := Option.some.inj (isKnown.symm.trans alsoKnown)
    obtain rfl := ranked.own other another isKnown
    rw [← isResult, SessionKeys.mem_listed, visible_of_unexpired unexpired isPresent]
    refine ⟨isRead, ?_⟩
    exact (congrArg _ stored).trans (parseSession_dumped another.session)
  obtain rfl := ranked.own sessionId own known
  have mine : ∀ entry ∈ result, entry.id = own.session.id → entry = own.session.listedInfo := by
    intro entry listed same
    obtain ⟨also, alsoKnown, stored⟩ := ranked.stored own.session.id present
    obtain rfl := Option.some.inj (known.symm.trans alsoKnown)
    rw [← isResult, SessionKeys.mem_listed, visible_of_unexpired unexpired present, same, stored,
      parseSession_dumped] at listed
    exact (Option.some.inj listed.2).symm
  have rank : rankOf own.session.id result =
      result.countP fun entry => entry.key < own.session.listedInfo.key := by
    unfold rankOf
    cases search : result.find? fun entry => entry.id = own.session.id with
    | none =>
        have absent := List.find?_eq_none.mp search _ (mem_result known present isLive)
        exact absurd (decide_eq_true rfl) absent
    | some entry =>
        have same : entry.id = own.session.id := by simpa using List.find?_some search
        obtain rfl := mine entry (List.mem_of_find?_eq_some search) same
        rfl
  rw [rank, List.countP_eq_length_filter]
  have covered : fleet.older own.session.listedInfo ⊆
      ((result.filter fun entry => entry.key < own.session.listedInfo.key).map
        SessionInfo.id).toFinset := by
    intro other isOlder
    obtain ⟨another, isKnown, isPassed, before⟩ := mem_older.mp isOlder
    have isPresent := ranked.present other another isKnown (entered_of_passed isPassed)
    rw [List.mem_toFinset, List.mem_map]
    refine ⟨another.session.listedInfo, ?_, ranked.own other another isKnown⟩
    rw [List.mem_filter]
    exact ⟨mem_result isKnown isPresent (read other isOlder), decide_eq_true before⟩
  calc (fleet.older own.session.listedInfo).card
      ≤ ((result.filter fun entry => entry.key < own.session.listedInfo.key).map
          SessionInfo.id).toFinset.card := Finset.card_le_card covered
    _ ≤ ((result.filter fun entry => entry.key < own.session.listedInfo.key).map
          SessionInfo.id).length := List.toFinset_card_le _
    _ = (result.filter fun entry => entry.key < own.session.listedInfo.key).length :=
        List.length_map _

theorem session_goto {sessionId : Uuid} {own : CapSession} {server : DirectoryServer}
    {stage : CapStage} {other : Uuid} {another : CapSession}
    (found : (goto { fleet with server := server } sessionId own stage).sessions.get? other =
      some another) :
    other = sessionId ∧ another = { own with stage := stage } ∨
      other ≠ sessionId ∧ fleet.sessions.get? other = some another :=
  Dict.get?_set_cases found

/-- Only the session that moves on may be new among the older ones. -/
theorem older_goto_subset {sessionId : Uuid} {own : CapSession}
    (known : fleet.sessions.get? sessionId = some own) {server : DirectoryServer}
    {stage : CapStage} (info : SessionInfo) :
    (goto { fleet with server := server } sessionId own stage).older info ⊆
      insert sessionId (fleet.older info) ∧
    ((stage.passed = true → own.session.listedInfo.key < info.key → own.stage.passed = true) →
      (goto { fleet with server := server } sessionId own stage).older info ⊆ fleet.older info) := by
  constructor
  · intro other isOlder
    obtain ⟨another, found, isPassed, before⟩ := mem_older.mp isOlder
    rw [Finset.mem_insert]
    rcases session_goto found with ⟨isOwn, -⟩ | ⟨-, earlier⟩
    · exact Or.inl isOwn
    · exact Or.inr (mem_older.mpr ⟨another, earlier, isPassed, before⟩)
  · intro wasPassed other isOlder
    obtain ⟨another, found, isPassed, before⟩ := mem_older.mp isOlder
    rcases session_goto found with ⟨rfl, rfl⟩ | ⟨-, earlier⟩
    · exact mem_older.mpr ⟨own, known, wasPassed isPassed before, before⟩
    · exact mem_older.mpr ⟨another, earlier, isPassed, before⟩

/-- There is room for a session to pass: before itself, and before the newer ones
that have passed. -/
def Room (cap : ℕ) (fleet : CappedFleet) (own : CapSession) : Prop :=
  (fleet.older own.session.listedInfo).card < cap ∧
    ∀ other newer, fleet.sessions.get? other = some newer → newer.stage.passed = true →
      own.session.listedInfo.key < newer.session.listedInfo.key →
        (fleet.older newer.session.listedInfo).card + 1 < cap

/-- One session moves on, and no entry of another session changes. -/
theorem Ranked.move (ranked : fleet.Ranked userId cap) {sessionId : Uuid} {own : CapSession}
    (known : fleet.sessions.get? sessionId = some own) (server : DirectoryServer) (stage : CapStage)
    (entries : ∀ other ∈ (server.keys userId).zset,
      other ∈ (fleet.server.keys userId).zset ∧ (server.keys userId).metadata.get? other =
          (fleet.server.keys userId).metadata.get? other ∨
        other = sessionId ∧
          (server.keys userId).metadata.get? other = some own.session.info.dumped)
    (kept : ∀ other, other ≠ sessionId → other ∈ (fleet.server.keys userId).zset →
      other ∈ (server.keys userId).zset)
    (calls : ∀ other, other ≠ sessionId → server.calls.get? other = fleet.server.calls.get? other)
    (entered : stage.entered = true → sessionId ∈ (server.keys userId).zset)
    (reading : stage = .listing → ∃ listing, server.calls.get? sessionId = some listing ∧
      listing.userId = userId ∧ listing.stage = .fetching ∧ sessionId ∈ listing.live)
    (passed : stage.passed = true → own.stage.passed = true ∨ fleet.Room cap own) :
    (goto { fleet with server := server } sessionId own stage).Ranked userId cap := by
  have older (info : SessionInfo) := @older_goto_subset fleet sessionId own known server stage info
  refine ⟨?_, ?_, ?_, ?_, ?_⟩
  · intro other another found
    rcases session_goto found with ⟨rfl, rfl⟩ | ⟨-, earlier⟩
    · exact ranked.own other own known
    · exact ranked.own other another earlier
  · intro other present
    rcases entries other present with ⟨earlier, same⟩ | ⟨rfl, written⟩
    · obtain ⟨another, found, stored⟩ := ranked.stored other earlier
      by_cases isOwn : other = sessionId
      · subst isOwn
        obtain rfl := Option.some.inj (known.symm.trans found)
        exact ⟨{ own with stage := stage }, by simp [goto], same.trans stored⟩
      · exact ⟨another, by simp [goto, isOwn, found], same.trans stored⟩
    · exact ⟨{ own with stage := stage }, by simp [goto], written⟩
  · intro other another found isEntered
    rcases session_goto found with ⟨rfl, rfl⟩ | ⟨differs, earlier⟩
    · exact entered isEntered
    · exact kept other differs (ranked.present other another earlier isEntered)
  · intro other another found isListing
    rcases session_goto found with ⟨rfl, rfl⟩ | ⟨differs, earlier⟩
    · exact reading isListing
    · obtain ⟨listing, isCall, itsReading⟩ := ranked.reading other another earlier isListing
      exact ⟨listing, (calls other differs).trans isCall, itsReading⟩
  · intro other another found isPassed
    rcases session_goto found with ⟨rfl, rfl⟩ | ⟨-, earlier⟩
    · have few : (fleet.older own.session.listedInfo).card < cap := by
        rcases passed isPassed with already | room
        · exact ranked.passed other own known already
        · exact room.1
      have noOlder := (older own.session.listedInfo).2 fun _ before => absurd before (lt_irrefl _)
      exact lt_of_le_of_lt (Finset.card_le_card noOlder) few
    · have few := ranked.passed other another earlier isPassed
      by_cases wasPassed : stage.passed = true →
          own.session.listedInfo.key < another.session.listedInfo.key → own.stage.passed = true
      · exact lt_of_le_of_lt (Finset.card_le_card ((older _).2 wasPassed)) few
      · push Not at wasPassed
        obtain ⟨nowPassed, isNewer, notBefore⟩ := wasPassed
        have room := (passed nowPassed).resolve_left notBefore
        have enough := room.2 other another earlier isPassed isNewer
        have more := (Finset.card_le_card (older another.session.listedInfo).1).trans
          (Finset.card_insert_le _ _)
        omega

section Register

variable {session : OpenSession} {now : ℤ} {server : DirectoryServer}

/-- A registration adds the entry of its session only. -/
theorem mem_zset_of_register
    (effect : fleet.server.Effect ttlMs (.refresh userId [session] now) server) {other : Uuid}
    (found : other ∈ (server.keys userId).zset) :
    other = session.id ∨ other ∈ (fleet.server.keys userId).zset := by
  rcases DirectoryServer.mem_zset_of_effect effect found with
    earlier | ⟨_, _, ⟨⟩, named, listed, same⟩
  · exact Or.inr earlier
  · rw [List.mem_singleton.mp listed] at same
    exact Or.inl same.symm

/-- It writes the entry of its session and keeps those of the others. -/
theorem register_cases (unexpired : fleet.Unexpired userId)
    (effect : fleet.server.Effect ttlMs (.refresh userId [session] now) server) (other : Uuid) :
    other = session.id ∧ other ∈ (server.keys userId).zset ∧
        (server.keys userId).metadata.get? other = some session.info.dumped ∨
      other ≠ session.id ∧ (other ∈ (fleet.server.keys userId).zset →
        other ∈ (server.keys userId).zset ∧ (server.keys userId).metadata.get? other =
          (fleet.server.keys userId).metadata.get? other) := by
  cases effect
  rw [DirectoryServer.keys_alter, if_pos rfl]
  rcases SessionKeys.refresh_cases (fleet.server.keys userId) ttlMs fleet.server.clock now
      (List.cons_ne_nil session.info []) other with
    ⟨_, named, rfl, score, stored⟩ | ⟨unnamed, score, stored⟩
  · obtain rfl := List.mem_singleton.mp named
    exact Or.inl ⟨rfl, Dict.mem_iff_exists.mpr ⟨_, score⟩, stored⟩
  · refine Or.inr ⟨fun same => unnamed _ (List.mem_singleton_self _) same.symm, fun present => ?_⟩
    rw [visible_of_unexpired unexpired present] at score stored
    refine ⟨?_, stored⟩
    rw [Dict.mem_def]
    exact (congrArg (·.isSome = true) score).mpr present

end Register

theorem Ranked.register (ranked : fleet.Ranked userId cap) (unexpired : fleet.Unexpired userId)
    {sessionId : Uuid} {own : CapSession} (known : fleet.sessions.get? sessionId = some own)
    {now : ℤ} (server : DirectoryServer)
    (effect : fleet.server.Effect ttlMs (.refresh userId [own.session] now) server) :
    (goto { fleet with server := server } sessionId own .registered).Ranked userId cap := by
  obtain rfl := ranked.own sessionId own known
  have writes := register_cases unexpired effect
  have calls : server.calls = fleet.server.calls := by
    cases effect
    rfl
  refine ranked.move known server _ ?_ ?_ (fun other _ => by rw [calls]) ?_ ?_ ?_
  · intro other present
    rcases writes other with ⟨isOwn, -, stored⟩ | ⟨differs, keeps⟩
    · exact Or.inr ⟨isOwn, stored⟩
    · have earlier := (mem_zset_of_register effect present).resolve_left differs
      exact Or.inl ⟨earlier, (keeps earlier).2⟩
  · intro other differs present
    rcases writes other with ⟨isOwn, -⟩ | ⟨-, keeps⟩
    · exact absurd isOwn differs
    · exact (keeps present).1
  · intro _
    rcases writes own.session.id with ⟨-, present, -⟩ | ⟨differs, -⟩
    · exact present
    · exact absurd rfl differs
  all_goals
    intro isStage
    cases isStage

theorem Ranked.read (ranked : fleet.Ranked userId cap) (unexpired : fleet.Unexpired userId)
    {sessionId : Uuid} {own : CapSession} (known : fleet.sessions.get? sessionId = some own)
    (isRegistered : own.stage = .registered) {now : ℤ}
    (lists : fleet.lists ttlMs cap sessionId own (.read sessionId userId now) = some after) :
    after.Ranked userId cap := by
  obtain ⟨server, stepTo, answered⟩ := Option.bind_eq_some_iff.mp lists
  obtain ⟨listing, isCall, rfl⟩ := Option.map_eq_some_iff.mp answered
  have present := ranked.present sessionId own known (by rw [isRegistered]; rfl)
  cases DirectoryServer.effect_of_step stepTo with
  | didRead _ _ _ new past =>
      obtain ⟨nothing, everything⟩ := read_unexpired unexpired past
      have isLive := everything sessionId present
      rw [DirectoryServer.get?_goto_self, if_pos nothing,
        DirectoryServer.onward_of_mem isLive] at isCall
      obtain rfl := Option.some.inj isCall
      have others (other : Uuid) (differs : other ≠ sessionId) (moved : ListCall)
          (stage : ListStage) : (fleet.server.goto sessionId moved stage).calls.get? other =
            fleet.server.calls.get? other := by
        simp only [DirectoryServer.goto, Dict.get?_set, if_neg differs]
      refine ranked.move known _ _ (fun other found => Or.inl ⟨found, rfl⟩)
        (fun _ _ found => found) (fun other differs => others other differs _ _)
        (fun _ => present) ?_ ?_
      · intro _
        refine ⟨_, DirectoryServer.get?_goto_self .., rfl, ?_, isLive⟩
        rw [if_pos nothing, DirectoryServer.onward_of_mem isLive]
      · intro isPassed
        cases isPassed

theorem Ranked.fetch (ranked : fleet.Ranked userId cap) (unexpired : fleet.Unexpired userId)
    {sessionId : Uuid} {own : CapSession} (known : fleet.sessions.get? sessionId = some own)
    (isListing : own.stage = .listing) (inOrder : fleet.InOrder cap (.fetch sessionId))
    (lists : fleet.lists ttlMs cap sessionId own (.fetch sessionId) = some after) :
    after.Ranked userId cap := by
  obtain ⟨server, stepTo, answered⟩ := Option.bind_eq_some_iff.mp lists
  obtain ⟨listing, isCall, rfl⟩ := Option.map_eq_some_iff.mp answered
  have present := ranked.present sessionId own known (by rw [isListing]; rfl)
  obtain ⟨reading, isReading, rfl, -, isLive⟩ := ranked.reading sessionId own known isListing
  obtain ⟨before, newest⟩ := inOrder own known
  cases DirectoryServer.effect_of_step stepTo with
  | fetched _ another alsoReading isFetching =>
      obtain rfl := Option.some.inj (isReading.symm.trans alsoReading)
      rw [DirectoryServer.get?_goto_self] at isCall
      obtain rfl := Option.some.inj isCall
      have others (other : Uuid) (differs : other ≠ sessionId) (stage : ListStage) :
          (fleet.server.goto sessionId reading stage).calls.get? other =
            fleet.server.calls.get? other := by
        simp only [DirectoryServer.goto, Dict.get?_set, if_neg differs]
      refine ranked.move known _ _ (fun other found => Or.inl ⟨found, rfl⟩)
        (fun _ _ found => found) (fun other differs => others other differs _)
        (fun _ => present) ?_ ?_
      · simp only [verdict]
        split
        case isTrue =>
            intro isListing
            cases isListing
        case isFalse =>
            intro isListing
            cases isListing
      · simp only [verdict]
        split
        case isTrue =>
            intro isPassed
            cases isPassed
        case isFalse below =>
            refine fun _ => Or.inr ⟨?_, fun other newer found => ?_⟩
            · rcases before reading isReading with covers | few
              · have counted := ranked.card_older_le_rank known present unexpired isLive covers
                omega
              · exact few
            · exact newest newer (List.mem_map_of_mem (Dict.mem_entries_iff.mpr found))

theorem Ranked.prune (ranked : fleet.Ranked userId cap) {sessionId : Uuid} {own : CapSession}
    (known : fleet.sessions.get? sessionId = some own) (isListing : own.stage = .listing)
    (lists : fleet.lists ttlMs cap sessionId own (.prune sessionId) = some after) :
    after.Ranked userId cap := by
  -- the read found nothing expired, so there is no such round trip
  obtain ⟨server, stepTo, -⟩ := Option.bind_eq_some_iff.mp lists
  obtain ⟨reading, isReading, -, isFetching, -⟩ := ranked.reading sessionId own known isListing
  cases DirectoryServer.effect_of_step stepTo with
  | pruned _ another alsoReading isPruning =>
      obtain rfl := Option.some.inj (isReading.symm.trans alsoReading)
      cases isPruning.symm.trans isFetching

theorem Ranked.stamp (ranked : fleet.Ranked userId cap) {session : OpenSession}
    (new : session.id ∉ fleet.sessions) (replica : ℕ) :
    Ranked userId cap { fleet with
      sessions := fleet.sessions.set session.id ⟨replica, session, .stamped⟩ } := by
  have unentered : session.id ∉ (fleet.server.keys userId).zset := by
    intro present
    obtain ⟨own, known, -⟩ := ranked.stored session.id present
    exact new (Dict.mem_iff_exists.mpr ⟨own, known⟩)
  have shrinks (info : SessionInfo) : older { fleet with
      sessions := fleet.sessions.set session.id ⟨replica, session, .stamped⟩ } info ⊆
        fleet.older info := by
    intro other isOlder
    obtain ⟨another, found, isPassed, before⟩ := mem_older.mp isOlder
    rcases Dict.get?_set_cases found with ⟨-, rfl⟩ | ⟨-, earlier⟩
    · cases isPassed
    · exact mem_older.mpr ⟨another, earlier, isPassed, before⟩
  refine ⟨?_, ?_, ?_, ?_, ?_⟩
  · intro other another found
    rcases Dict.get?_set_cases found with ⟨rfl, rfl⟩ | ⟨-, earlier⟩
    · rfl
    · exact ranked.own other another earlier
  · intro other present
    obtain ⟨another, found, stored⟩ := ranked.stored other present
    refine ⟨another, ?_, stored⟩
    rw [Dict.get?_set, if_neg, found]
    rintro rfl
    exact unentered present
  · intro other another found isEntered
    rcases Dict.get?_set_cases found with ⟨-, rfl⟩ | ⟨-, earlier⟩
    · cases isEntered
    · exact ranked.present other another earlier isEntered
  · intro other another found isListing
    rcases Dict.get?_set_cases found with ⟨-, rfl⟩ | ⟨-, earlier⟩
    · cases isListing
    · exact ranked.reading other another earlier isListing
  · intro other another found isPassed
    rcases Dict.get?_set_cases found with ⟨-, rfl⟩ | ⟨-, earlier⟩
    · cases isPassed
    · exact lt_of_le_of_lt (Finset.card_le_card (shrinks _))
        (ranked.passed other another earlier isPassed)

theorem Ranked.remove (ranked : fleet.Ranked userId cap) (unexpired : fleet.Unexpired userId)
    {sessionId : Uuid} {own : CapSession} (known : fleet.sessions.get? sessionId = some own)
    (server : DirectoryServer)
    (effect : fleet.server.Effect ttlMs (.remove userId sessionId) server) :
    (goto { fleet with server := server } sessionId own .left).Ranked userId cap := by
  cases effect
  refine ranked.move known _ _ ?_ ?_ (fun _ _ => rfl) ?_ ?_ ?_
  · intro other found
    rw [DirectoryServer.keys_alter, if_pos rfl] at found ⊢
    obtain ⟨differs, isVisible⟩ := Dict.mem_erase.mp found
    have present := (SessionKeys.mem_visible isVisible).1
    refine Or.inl ⟨present, ?_⟩
    rw [SessionKeys.remove, visible_of_unexpired unexpired present, Dict.get?_erase,
      if_neg differs]
  · intro other differs present
    rw [DirectoryServer.keys_alter, if_pos rfl, SessionKeys.remove,
      visible_of_unexpired unexpired present]
    exact Dict.mem_erase.mpr ⟨differs, present⟩
  all_goals
    intro isStage
    cases isStage

theorem Ranked.step {event : CapEvent} (ranked : fleet.Ranked userId cap)
    (unexpired : fleet.Unexpired userId) (inOrder : fleet.InOrder cap event)
    (stepTo : fleet.step userId cap ttlMs event = some after) : after.Ranked userId cap := by
  cases event with
  | elapse ms =>
      obtain rfl := Option.some.inj stepTo
      exact ⟨ranked.own, ranked.stored, ranked.present, ranked.reading, ranked.passed⟩
  | stamp replica session =>
      obtain ⟨new, same⟩ := Option.ite_none_left_eq_some.mp stepTo
      obtain rfl := Option.some.inj same
      exact ranked.stamp new replica
  | add sessionId =>
      obtain ⟨own, known, ready⟩ := Option.bind_eq_some_iff.mp stepTo
      obtain ⟨-, same⟩ := Option.ite_none_right_eq_some.mp ready
      obtain rfl := Option.some.inj same
      refine ranked.move known fleet.server _ (fun _ found => Or.inl ⟨found, rfl⟩)
        (fun _ _ found => found) (fun _ _ => rfl) ?_ ?_ ?_
      all_goals
        split
        case isTrue =>
            intro isStage
            cases isStage
        case isFalse =>
            intro isStage
            cases isStage
  | register sessionId now =>
      obtain ⟨own, known, ready⟩ := Option.bind_eq_some_iff.mp stepTo
      obtain ⟨-, registers⟩ := Option.ite_none_right_eq_some.mp ready
      obtain ⟨server, serverTo, rfl⟩ := Option.map_eq_some_iff.mp registers
      exact ranked.register unexpired known server (DirectoryServer.effect_of_step serverTo)
  | read sessionId now =>
      obtain ⟨own, known, ready⟩ := Option.bind_eq_some_iff.mp stepTo
      obtain ⟨isRegistered, lists⟩ := Option.ite_none_right_eq_some.mp ready
      exact ranked.read unexpired known isRegistered lists
  | prune sessionId =>
      obtain ⟨own, known, ready⟩ := Option.bind_eq_some_iff.mp stepTo
      obtain ⟨isListing, lists⟩ := Option.ite_none_right_eq_some.mp ready
      exact ranked.prune known isListing lists
  | fetch sessionId =>
      obtain ⟨own, known, ready⟩ := Option.bind_eq_some_iff.mp stepTo
      obtain ⟨isListing, lists⟩ := Option.ite_none_right_eq_some.mp ready
      exact ranked.fetch unexpired known isListing inOrder lists
  | depart sessionId =>
      obtain ⟨own, known, ready⟩ := Option.bind_eq_some_iff.mp stepTo
      obtain ⟨isConnected, same⟩ := Option.ite_none_right_eq_some.mp ready
      obtain rfl := Option.some.inj same
      have wasPassed (isPassed : (CapStage.leaving own.stage.passed).passed = true) :
          own.stage.passed = true := by
        cases passed : own.stage.passed with
        | true => rfl
        | false =>
            rw [passed] at isPassed
            cases isPassed
      have wasEntered (isEntered : (CapStage.leaving own.stage.passed).entered = true) :
          own.stage.entered = true := by
        cases stage : own.stage with
        | joined => rfl
        | leaving passed =>
            rw [stage] at isConnected
            cases isConnected
        | stamped | turnedAway | admitted | registered | listing | overCap | left =>
            rw [stage] at isEntered
            cases isEntered
      refine ranked.move known fleet.server _ (fun _ found => Or.inl ⟨found, rfl⟩)
        (fun _ _ found => found) (fun _ _ => rfl) ?_ ?_ ?_
      · exact fun isEntered => ranked.present sessionId own known (wasEntered isEntered)
      · intro isListing
        cases isListing
      · exact fun isPassed => Or.inl (wasPassed isPassed)
  | remove sessionId =>
      obtain ⟨own, known, ready⟩ := Option.bind_eq_some_iff.mp stepTo
      split at ready
      case h_1 =>
          obtain ⟨server, serverTo, rfl⟩ := Option.map_eq_some_iff.mp ready
          exact ranked.remove unexpired known server (DirectoryServer.effect_of_step serverTo)
      case h_2 => cases ready

theorem ranked_fresh (clock : ℤ) : (fresh clock).Ranked userId cap := by
  refine ⟨?_, ?_, ?_, ?_, ?_⟩
  all_goals
    intros
    contradiction

/-- The sessions that have passed and not left are no more than the cap: all but
the newest of them are older than that one. -/
theorem Ranked.passed_le (ranked : fleet.Ranked userId cap) :
    (fleet.sessions.filter fun _ own => own.stage.passed).size ≤ cap := by
  rw [← Dict.card_support]
  generalize isPassed : (fleet.sessions.filter fun _ own => own.stage.passed).support = passed
  have passed_iff {sessionId : Uuid} : sessionId ∈ passed ↔
      ∃ own, fleet.sessions.get? sessionId = some own ∧ own.stage.passed = true := by
    rw [← isPassed, Dict.mem_support, Dict.mem_filter]
  rcases passed.eq_empty_or_nonempty with rfl | some_
  · exact Nat.zero_le cap
  · obtain ⟨newest, isNewest, latest⟩ := passed.exists_max_image
      (fun sessionId => ((fleet.sessions.get? sessionId).map fun own =>
        own.session.listedInfo.key).getD (toLex (0, 0))) some_
    obtain ⟨own, known, hasPassed⟩ := passed_iff.mp isNewest
    have others : passed.erase newest ⊆ fleet.older own.session.listedInfo := by
      intro other isOther
      obtain ⟨differs, alsoPassed⟩ := Finset.mem_erase.mp isOther
      obtain ⟨another, alsoKnown, otherPassed⟩ := passed_iff.mp alsoPassed
      have notLater := latest other alsoPassed
      simp only [known, alsoKnown, Option.map_some, Option.getD_some] at notLater
      refine mem_older.mpr ⟨another, alsoKnown, otherPassed, lt_of_le_of_ne notLater ?_⟩
      intro same
      apply differs
      rw [← ranked.own other another alsoKnown, ← ranked.own newest own known]
      exact congrArg (fun key => (ofLex key).2) same
    have few := ranked.passed newest own known hasPassed
    have fewer := Finset.card_le_card others
    have one := Finset.card_erase_add_one isNewest
    omega

end Ranks

end CappedFleet

open CappedFleet

/-- While nothing expires, the sessions of a user that have joined and not left
never exceed the cap, as long as whoever gets its list has read the older ones that
have joined and no newer one has joined before it, or there is room for it. -/
theorem joined_le_cap {userId : Uuid} {cap ttlMs : ℕ} {clock : ℤ} {events : List CapEvent}
    {fleet : CappedFleet}
    (run : Run (CappedFleet.step userId cap ttlMs)
      (fun before event => before.Unexpired userId ∧ before.InOrder cap event)
      (CappedFleet.fresh clock) events fleet) :
    (fleet.sessions.filter fun _ own => own.stage.passed).size ≤ cap := by
  have ranked : fleet.Ranked userId cap := by
    apply run.invariant
    · exact ranked_fresh clock
    · intro before event after ranked permitted stepTo
      exact ranked.step permitted.1 permitted.2 stepTo
  exact ranked.passed_le

/-- Two sessions of a user, the second connected a second after the first. -/
def firstTab : OpenSession := ⟨1, "Firefox on Linux", ⟨1700000100000000000, by decide, by decide⟩⟩

def secondTab : OpenSession := ⟨2, "Safari on iOS", ⟨1700000101000000000, by decide, by decide⟩⟩

/-- They connect to different replicas, and the second one is refused. -/
theorem joined_le_cap_refused :
    ∃ fleet, Run (CappedFleet.step 7 1 30000)
        (fun before event => before.Unexpired 7 ∧ before.InOrder 1 event) (CappedFleet.fresh 0)
        [.stamp 0 firstTab, .add 1, .stamp 1 secondTab, .add 2, .register 1 0, .register 2 0,
          .read 2 0, .read 1 0, .fetch 2, .fetch 1] fleet ∧
      (fleet.sessions.get? 2).map CapSession.stage = some .overCap ∧
      (fleet.sessions.filter fun _ own => own.stage.passed).size ≤ 1 := by
  obtain ⟨fleet, executed, refused⟩ := @exists_of_exec _ _ (CappedFleet.step 7 1 30000)
    (fun before event => before.Unexpired 7 ∧ before.InOrder 1 event) (CappedFleet.fresh 0) _
    (fun fleet => (fleet.sessions.get? 2).map CapSession.stage = some .overCap) _
    [.stamp 0 firstTab, .add 1, .stamp 1 secondTab, .add 2, .register 1 0, .register 2 0,
      .read 2 0, .read 1 0, .fetch 2, .fetch 1] (by decide +kernel)
  have run := run_of_exec executed
  exact ⟨fleet, run, refused, joined_le_cap run⟩

/-- The second session registers, reads and joins before the first one registers:
both are the oldest on the list they read, and both join. -/
theorem joined_exceeds_cap :
    ∃ fleet, Run (CappedFleet.step 7 1 30000) (fun before _ => before.Unexpired 7)
        (CappedFleet.fresh 0)
        [.stamp 0 firstTab, .add 1, .stamp 1 secondTab, .add 2, .register 2 0, .read 2 0, .fetch 2,
          .register 1 0, .read 1 0, .fetch 1] fleet ∧
      (fleet.sessions.filter fun _ own => own.stage.passed).size = 2 := by
  obtain ⟨fleet, executed, both⟩ := @exists_of_exec _ _ (CappedFleet.step 7 1 30000)
    (fun before _ => before.Unexpired 7) (CappedFleet.fresh 0) _
    (fun fleet => (fleet.sessions.filter fun _ own => own.stage.passed).size = 2) _
    [.stamp 0 firstTab, .add 1, .stamp 1 secondTab, .add 2, .register 2 0, .read 2 0, .fetch 2,
      .register 1 0, .read 1 0, .fetch 1] (by decide +kernel)
  exact ⟨fleet, run_of_exec executed, both⟩

end GeoTrack
