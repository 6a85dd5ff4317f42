import GeoTrack.SessionDirectory

/-!
# Who is listed

A session is on the list of its user from a refresh until its lease ends, as
long as no listing that read an older state of the sorted set comes in between:
the members a listing drops are those that were over when it read, and the
metadata it fetches is what is left of it by then.
-/

namespace GeoTrack

open LabelledRuns

namespace DirectoryServer

/-- A listing has read the session as live and has not fetched it yet. -/
def Awaited (server : DirectoryServer) (userId sessionId : Uuid) : Prop :=
  ∃ entry ∈ server.calls.entries, entry.2.userId = userId ∧ sessionId ∈ entry.2.live ∧
    (entry.2.stage = .pruning ∨ entry.2.stage = .fetching)

instance (server : DirectoryServer) (userId sessionId : Uuid) :
    Decidable (server.Awaited userId sessionId) :=
  inferInstanceAs (Decidable (∃ entry ∈ server.calls.entries, _))

/-- No step falls between the round trips of another call to the disadvantage of
the session: a prune drops it only when its lease is over and nobody is about to
fetch it, the keys do not expire under a listing, and no refresh leads back to an
earlier lease than the one from a time. -/
def Undisturbed (userId sessionId : Uuid) (since : ℤ) (server : DirectoryServer) :
    DirectoryEvent → Prop
  | .elapse ms =>
      server.Awaited userId sessionId → server.clock + ms ≤ (server.keys userId).expiresAt
  | .refresh other sessions now =>
      other = userId → (∃ session ∈ sessions, session.id = sessionId) → since ≤ now
  | .prune call =>
      ∀ listing ∈ server.calls.get? call, listing.userId = userId → sessionId ∈ listing.expired →
        (∀ score ∈ (server.keys userId).zset.get? sessionId, score ≤ server.clock) ∧
          ¬ server.Awaited userId sessionId
  | .remove .. | .read .. | .fetch _ => True

instance (userId sessionId : Uuid) (since : ℤ) (server : DirectoryServer)
    (event : DirectoryEvent) : Decidable (Undisturbed userId sessionId since server event) :=
  match event with
  | .elapse _ => inferInstanceAs (Decidable (_ → _))
  | .refresh _ sessions _ =>
      inferInstanceAs (Decidable (_ → (∃ session ∈ sessions, session.id = sessionId) → _))
  | .prune call => inferInstanceAs (Decidable (∀ listing ∈ server.calls.get? call, _))
  | .remove .. | .read .. | .fetch _ => isTrue trivial

section Leases

variable {ttlMs : ℕ} {userId sessionId : Uuid} {server after : DirectoryServer}
  {event : DirectoryEvent}

theorem awaited_iff : server.Awaited userId sessionId ↔
    ∃ call listing, server.calls.get? call = some listing ∧ listing.userId = userId ∧
      sessionId ∈ listing.live ∧ (listing.stage = .pruning ∨ listing.stage = .fetching) := by
  constructor
  · rintro ⟨⟨call, listing⟩, listed, about⟩
    exact ⟨call, listing, Dict.mem_entries_iff.mp listed, about⟩
  · rintro ⟨call, listing, known, about⟩
    exact ⟨(call, listing), Dict.mem_entries_iff.mpr known, about⟩

theorem paired_step (paired : ∀ userId, (server.keys userId).Paired)
    (effect : server.Effect ttlMs event after) (userId : Uuid) : (after.keys userId).Paired := by
  have altered {other : Uuid} {keys : SessionKeys} (isPaired : keys.Paired) :
      ((server.alter other keys).keys userId).Paired := by
    rw [keys_alter]
    split
    case isTrue => exact isPaired
    case isFalse => exact paired userId
  cases effect with
  | elapsed => exact paired userId
  | refreshed other sessions now past =>
      exact altered ((paired other).refresh ttlMs server.clock now sessions)
  | removed other sessionId => exact altered ((paired other).remove server.clock sessionId)
  | didRead => exact paired userId
  | pruned call listing =>
      exact altered (((paired listing.userId).visible server.clock).eraseAll listing.expired _)
  | fetched => exact paired userId

theorem paired_of_run {clock : ℤ} {events : List DirectoryEvent}
    (run : Run (step ttlMs) Anything (empty clock) events server) (userId : Uuid) :
    (server.keys userId).Paired := by
  revert userId
  apply run.invariant
  · exact fun _ => SessionKeys.paired_empty clock
  · intro before event reached paired _ stepTo
    exact paired_step paired (effect_of_step stepTo)

/-- The session was refreshed at a time and not removed since. -/
structure Leased (ttlMs : ℕ) (userId sessionId : Uuid) (since : ℤ) (server : DirectoryServer) :
    Prop where
  paired : (server.keys userId).Paired
  later : since ≤ server.clock
  renewed : since + ttlMs ≤ (server.keys userId).expiresAt
  scored : server.clock < since + ttlMs → ∃ score,
    (server.keys userId).zset.get? sessionId = some score ∧ since + ttlMs ≤ score
  fetchable : server.Awaited userId sessionId →
    sessionId ∈ (server.keys userId).zset ∧ server.clock ≤ (server.keys userId).expiresAt

theorem awaited_goto {call : ℕ} {listing : ListCall} {stage : ListStage}
    (awaited : (server.goto call listing stage).Awaited userId sessionId) :
    server.Awaited userId sessionId ∨ listing.userId = userId ∧ sessionId ∈ listing.live ∧
      (stage = .pruning ∨ stage = .fetching) := by
  obtain ⟨other, another, known, about⟩ := awaited_iff.mp awaited
  simp only [goto, Dict.get?_set] at known
  split at known
  case isTrue =>
      obtain rfl := Option.some.inj known
      exact Or.inr about
  case isFalse => exact Or.inl (awaited_iff.mpr ⟨other, another, known, about⟩)

variable {since : ℤ}

theorem Leased.frame (leased : server.Leased ttlMs userId sessionId since)
    (clock : after.clock = server.clock) (keys : after.keys userId = server.keys userId)
    (fetchable : after.Awaited userId sessionId → server.Awaited userId sessionId ∨
      sessionId ∈ (server.keys userId).zset ∧ server.clock ≤ (server.keys userId).expiresAt) :
    after.Leased ttlMs userId sessionId since := by
  refine ⟨?_, ?_, ?_, ?_, ?_⟩
  · rw [keys]
    exact leased.paired
  · rw [clock]
    exact leased.later
  · rw [keys]
    exact leased.renewed
  · rw [keys, clock]
    exact leased.scored
  · rw [keys, clock]
    intro awaited
    rcases fetchable awaited with earlier | present
    · exact leased.fetchable earlier
    · exact present

/-- While the session is on lease or about to be fetched, its keys are there. -/
theorem Leased.visible_eq (leased : server.Leased ttlMs userId sessionId since)
    (needed : server.clock < since + ttlMs ∨ server.Awaited userId sessionId) :
    (server.keys userId).visible server.clock = server.keys userId := by
  apply SessionKeys.visible_of_le
  rcases needed with early | awaited
  · exact le_of_lt (lt_of_lt_of_le early leased.renewed)
  · exact (leased.fetchable awaited).2

/-- The keys of the user change and those of the session do not. -/
theorem Leased.alter {keys : SessionKeys} (leased : server.Leased ttlMs userId sessionId since)
    (paired : keys.Paired) (renewed : since + ttlMs ≤ keys.expiresAt)
    (present : server.Awaited userId sessionId → server.clock ≤ keys.expiresAt)
    (same : (server.clock < since + ttlMs ∨ server.Awaited userId sessionId) →
      keys.zset.get? sessionId = (server.keys userId).zset.get? sessionId) :
    (server.alter userId keys).Leased ttlMs userId sessionId since := by
  refine ⟨?_, leased.later, ?_, ?_, ?_⟩
  · simpa using paired
  · simpa using renewed
  · intro early
    obtain ⟨score, found, isLater⟩ := leased.scored early
    refine ⟨score, ?_, isLater⟩
    rw [keys_alter, if_pos rfl, same (Or.inl early), found]
  · intro awaited
    rw [keys_alter, if_pos rfl]
    refine ⟨?_, present awaited⟩
    rw [Dict.mem_def, same (Or.inr awaited)]
    exact (leased.fetchable awaited).1

theorem Leased.mono {earlier : ℤ} (leased : server.Leased ttlMs userId sessionId since)
    (older : earlier ≤ since) : server.Leased ttlMs userId sessionId earlier := by
  refine ⟨leased.paired, older.trans leased.later, ?_, ?_, leased.fetchable⟩
  · have renewed := leased.renewed
    omega
  · intro early
    obtain ⟨score, found, isLater⟩ := leased.scored (by omega)
    exact ⟨score, found, by omega⟩

theorem expiresAt_refresh {keys : SessionKeys} {clock now : ℤ} {sessions : List SessionInfo}
    (named : sessions ≠ []) :
    (keys.refresh ttlMs clock now sessions).expiresAt = clock + ttlMs * 3 := by
  rw [SessionKeys.refresh, if_neg named]

/-- A refresh starts a lease at the time it read. -/
theorem leased_of_refresh (paired : (server.keys userId).Paired) {sessions : List OpenSession}
    {session : OpenSession} (listed : session ∈ sessions) {now : ℤ} (past : now ≤ server.clock) :
    (server.alter userId ((server.keys userId).refresh ttlMs server.clock now
      (sessions.map OpenSession.info))).Leased ttlMs userId session.id now := by
  have isNamed : session.info ∈ sessions.map OpenSession.info := List.mem_map_of_mem listed
  have named : sessions.map OpenSession.info ≠ [] := List.ne_nil_of_mem isNamed
  have score : ((server.keys userId).refresh ttlMs server.clock now
      (sessions.map OpenSession.info)).zset.get? session.id = some (now + ttlMs) := by
    rcases SessionKeys.refresh_cases (server.keys userId) ttlMs server.clock now named
        session.id with ⟨_, -, -, score, -⟩ | ⟨others, -⟩
    · exact score
    · exact absurd rfl (others session.info isNamed)
  refine ⟨?_, past, ?_, ?_, ?_⟩
  · simpa using paired.refresh ttlMs server.clock now sessions
  · rw [keys_alter, if_pos rfl, expiresAt_refresh named]
    omega
  · intro _
    refine ⟨now + ttlMs, ?_, le_refl _⟩
    rw [keys_alter, if_pos rfl, score]
  · intro _
    rw [keys_alter, if_pos rfl, expiresAt_refresh named, Dict.mem_def, score]
    refine ⟨rfl, ?_⟩
    dsimp only [DirectoryServer.alter]
    omega

theorem Leased.refreshed (leased : server.Leased ttlMs userId sessionId since)
    (sessions : List OpenSession) {now : ℤ} (past : now ≤ server.clock)
    (newer : (∃ session ∈ sessions, session.id = sessionId) → since ≤ now) :
    (server.alter userId ((server.keys userId).refresh ttlMs server.clock now
      (sessions.map OpenSession.info))).Leased ttlMs userId sessionId since := by
  have later := leased.later
  by_cases mentioned : ∃ session ∈ sessions, session.id = sessionId
  · have notOlder := newer mentioned
    obtain ⟨session, listed, rfl⟩ := mentioned
    exact (leased_of_refresh leased.paired listed past).mono notOlder
  · by_cases named : sessions.map OpenSession.info = []
    · rw [SessionKeys.refresh, if_pos named]
      exact leased.alter leased.paired leased.renewed (fun awaited => (leased.fetchable awaited).2)
        fun _ => rfl
    · rcases SessionKeys.refresh_cases (server.keys userId) ttlMs server.clock now named sessionId with
        ⟨_, listed, isSession, -⟩ | ⟨-, score, -⟩
      · obtain ⟨session, isListed, rfl⟩ := List.mem_map.mp listed
        exact absurd ⟨session, isListed, isSession⟩ mentioned
      · refine leased.alter (leased.paired.refresh ttlMs server.clock now sessions) ?_ ?_ ?_
        · rw [expiresAt_refresh named]
          omega
        · intro _
          rw [expiresAt_refresh named]
          omega
        · intro needed
          rw [score, leased.visible_eq needed]

theorem Leased.step (leased : server.Leased ttlMs userId sessionId since)
    (calm : server.Undisturbed userId sessionId since event) (kept : event ≠ .remove userId sessionId)
    (effect : server.Effect ttlMs event after) : after.Leased ttlMs userId sessionId since := by
  have elsewhere {other : Uuid} (differs : userId ≠ other) (keys : SessionKeys) :
      (server.alter other keys).Leased ttlMs userId sessionId since :=
    leased.frame rfl (by rw [keys_alter, if_neg differs]) Or.inl
  cases effect with
  | elapsed ms =>
      refine ⟨leased.paired, ?_, leased.renewed, ?_, ?_⟩
      · have later := leased.later
        dsimp only
        omega
      · intro early
        exact leased.scored (by dsimp only at early; omega)
      · intro awaited
        exact ⟨(leased.fetchable awaited).1, calm awaited⟩
  | refreshed other sessions now past =>
      by_cases same : userId = other
      · subst same
        exact leased.refreshed sessions past (calm rfl)
      · exact elsewhere same _
  | removed other gone =>
      by_cases same : userId = other
      · subst same
        have differs : sessionId ≠ gone := by
          rintro rfl
          exact kept rfl
        refine leased.alter (leased.paired.remove server.clock gone) ?_ ?_ ?_
        · rw [SessionKeys.expiresAt_remove]
          exact leased.renewed
        · rw [SessionKeys.expiresAt_remove]
          exact fun awaited => (leased.fetchable awaited).2
        · intro needed
          rw [SessionKeys.remove, leased.visible_eq needed, Dict.get?_erase, if_neg differs]
      · exact elsewhere same _
  | didRead call other now new past =>
      refine leased.frame rfl rfl fun awaited => ?_
      rcases awaited_goto awaited with earlier | ⟨rfl, isLive, -⟩
      · exact Or.inl earlier
      · obtain ⟨score, found, -⟩ := SessionKeys.mem_live.mp isLive
        exact Or.inr (SessionKeys.mem_visible (Dict.mem_iff_exists.mpr ⟨score, found⟩))
  | pruned call listing known isPruning =>
      have dropped : (server.alter listing.userId ((server.keys listing.userId).prune server.clock
          listing.expired)).Leased ttlMs userId sessionId since := by
        by_cases same : userId = listing.userId
        · subst same
          refine leased.alter ((leased.paired.visible server.clock).eraseAll listing.expired _) ?_ ?_ ?_
          · rw [SessionKeys.expiresAt_prune]
            exact leased.renewed
          · rw [SessionKeys.expiresAt_prune]
            exact fun awaited => (leased.fetchable awaited).2
          · intro needed
            rw [SessionKeys.prune, leased.visible_eq needed, Dict.get?_eraseAll, if_neg]
            intro isExpired
            obtain ⟨ended, unawaited⟩ := calm listing known rfl isExpired
            rcases needed with early | awaited
            · obtain ⟨score, found, isLater⟩ := leased.scored early
              have past := ended score found
              omega
            · exact unawaited awaited
        · exact elsewhere same _
      refine dropped.frame rfl rfl fun awaited => ?_
      rcases awaited_goto awaited with earlier | ⟨about, isLive, -⟩
      · exact Or.inl earlier
      · exact Or.inl (awaited_iff.mpr ⟨call, listing, known, about, isLive, Or.inl isPruning⟩)
  | fetched call listing known isFetching =>
      refine leased.frame rfl rfl fun awaited => ?_
      rcases awaited_goto awaited with earlier | ⟨-, -, isPruning | isFetching⟩
      · exact Or.inl earlier
      · cases isPruning
      · cases isFetching

/-- The listing has read the session as live, and returns it if it returns. -/
def Answers (call : ℕ) (userId sessionId : Uuid) (server : DirectoryServer) : Prop :=
  ∃ listing, server.calls.get? call = some listing ∧ listing.userId = userId ∧
    sessionId ∈ listing.live ∧
      ∀ result, listing.stage = .returned result → ∃ entry ∈ result, entry.id = sessionId

theorem onward_of_mem {live : List Uuid} (isLive : sessionId ∈ live) :
    ListStage.onward live = .fetching := if_neg (List.ne_nil_of_mem isLive)

theorem Leased.answers_of_read (leased : server.Leased ttlMs userId sessionId since)
    (early : server.clock < since + ttlMs) {call : ℕ} {now : ℤ}
    (effect : server.Effect ttlMs (.read call userId now) after) :
    after.Answers call userId sessionId := by
  cases effect with
  | didRead _ _ _ new past =>
      obtain ⟨score, found, isLater⟩ := leased.scored early
      have isLive : sessionId ∈ (server.keys userId).live server.clock now := by
        rw [SessionKeys.mem_live, leased.visible_eq (Or.inl early)]
        exact ⟨score, found, by omega⟩
      refine ⟨_, get?_goto_self .., rfl, isLive, ?_⟩
      intro result returned
      rw [onward_of_mem isLive] at returned
      split at returned
      case isTrue => cases returned
      case isFalse => cases returned

theorem Leased.answers_step (leased : server.Leased ttlMs userId sessionId since) {call : ℕ}
    (answers : server.Answers call userId sessionId) (effect : server.Effect ttlMs event after) :
    after.Answers call userId sessionId := by
  obtain ⟨listing, known, rfl, isLive, returns⟩ := answers
  obtain ⟨stage, moved, sameStage | onward | ⟨isFetching, fetched⟩⟩ := stage_of_effect effect known
  · refine ⟨_, moved, rfl, isLive, ?_⟩
    rw [sameStage]
    exact returns
  · refine ⟨_, moved, rfl, isLive, ?_⟩
    intro result returned
    rw [onward, onward_of_mem isLive] at returned
    cases returned
  · refine ⟨_, moved, rfl, isLive, ?_⟩
    intro result returned
    rw [fetched] at returned
    obtain rfl := ListStage.returned.inj returned
    -- the hash still has the payload of every member of the sorted set
    have awaited := awaited_iff.mpr ⟨call, listing, known, rfl, isLive, Or.inr isFetching⟩
    have present := (leased.fetchable awaited).1
    obtain ⟨paired, readable⟩ := leased.paired sessionId
    obtain ⟨stored, found⟩ := Dict.mem_iff_exists.mp (paired.mp present)
    obtain ⟨entry, parsed⟩ := Option.isSome_iff_exists.mp (readable stored found)
    obtain rfl := id_of_parseSession parsed
    refine ⟨entry, SessionKeys.mem_listed.mpr ⟨isLive, ?_⟩, rfl⟩
    rw [leased.visible_eq (Or.inr awaited), found]
    exact parsed

end Leases

end DirectoryServer

open DirectoryServer

/-- A session that is refreshed at the time `now` and that nobody removes is returned
by every listing that reads before this lease ends, unless a step between the round
trips of a call disturbs it. -/
theorem refreshed_stays_listed {ttlMs : ℕ} {clock now readNow : ℤ} {userId : Uuid}
    {session : OpenSession} {sessions : List OpenSession} {earlier middle later : List DirectoryEvent}
    {before atRead final : DirectoryServer} {call : ℕ} {listing : ListCall}
    {result : List SessionInfo}
    (reached : Run (DirectoryServer.step ttlMs) Anything (DirectoryServer.empty clock) earlier before)
    (named : session ∈ sessions)
    (refreshed : Run (DirectoryServer.step ttlMs) (Undisturbed userId session.id now) before
      (.refresh userId sessions now :: middle) atRead)
    (read : Run (DirectoryServer.step ttlMs) (Undisturbed userId session.id now) atRead
      (.read call userId readNow :: later) final)
    (inTime : atRead.clock < now + ttlMs)
    (kept : ∀ event ∈ middle ++ later, event ≠ .remove userId session.id)
    (known : final.calls.get? call = some listing) (returned : listing.stage = .returned result) :
    ∃ entry ∈ result, entry.id = session.id := by
  obtain ⟨afterRefresh, -, refreshTo, between⟩ := run_cons_iff.mp refreshed
  have started : afterRefresh.Leased ttlMs userId session.id now := by
    cases effect_of_step refreshTo with
    | refreshed _ _ _ past => exact leased_of_refresh (paired_of_run reached userId) named past
  have leased : atRead.Leased ttlMs userId session.id now := by
    apply (between.restrict fun event listed => kept event (List.mem_append_left _ listed)).invariant
    · exact started
    · intro server event after leased permitted stepTo
      exact leased.step permitted.1 permitted.2 (effect_of_step stepTo)
  obtain ⟨afterRead, calm, readTo, rest⟩ := run_cons_iff.mp read
  have answers : final.Leased ttlMs userId session.id now ∧
      final.Answers call userId session.id := by
    apply (rest.restrict fun event listed => kept event (List.mem_append_right _ listed)).invariant
    · have effect := effect_of_step readTo
      refine ⟨leased.step calm ?_ effect, leased.answers_of_read inTime effect⟩
      intro same
      cases same
    · rintro server event after ⟨stillLeased, answers⟩ permitted stepTo
      have effect := effect_of_step stepTo
      exact ⟨stillLeased.step permitted.1 permitted.2 effect, stillLeased.answers_step answers effect⟩
  obtain ⟨same, alsoKnown, -, -, returns⟩ := answers.2
  obtain rfl := Option.some.inj (known.symm.trans alsoKnown)
  exact returns result returned

/-- A session of a user, and its lease of half a minute. -/
def laptop : OpenSession := ⟨11, "Firefox on Linux", ⟨1700000000000000000, by decide, by decide⟩⟩

/-- The listing has returned the sessions with these ids. -/
def DirectoryServer.returns (server : DirectoryServer) (call : ℕ) (ids : List Uuid) : Bool :=
  match server.calls.get? call with
  | some ⟨_, _, _, .returned result⟩ => result.map SessionInfo.id = ids
  | _ => false

theorem DirectoryServer.exists_of_returns {server : DirectoryServer} {call : ℕ} {ids : List Uuid}
    (returns : server.returns call ids = true) :
    ∃ listing result, server.calls.get? call = some listing ∧ listing.stage = .returned result ∧
      result.map SessionInfo.id = ids := by
  unfold DirectoryServer.returns at returns
  split at returns
  case h_1 userId expired live result known =>
      exact ⟨_, result, known, rfl, of_decide_eq_true returns⟩
  case h_2 => cases returns

/-- The heartbeat renews the lease while two listings read it, the second time with a
clock reading that is a second old. -/
theorem refreshed_stays_listed_heartbeat :
    ∃ before atRead final, Run (DirectoryServer.step 30000) Anything (DirectoryServer.empty 0)
        [.refresh 7 [laptop] 0, .elapse 10000, .read 0 7 10000] before ∧
      Run (DirectoryServer.step 30000) (Undisturbed 7 laptop.id 10000) before
        [.refresh 7 [laptop] 10000, .elapse 15000, .refresh 7 [laptop] 24000, .elapse 14999,
          .fetch 0] atRead ∧
      Run (DirectoryServer.step 30000) (Undisturbed 7 laptop.id 10000) atRead
        [.read 1 7 39999, .elapse 100, .fetch 1] final ∧
      ∃ listing result, final.calls.get? 1 = some listing ∧ listing.stage = .returned result ∧
        ∃ entry ∈ result, entry.id = laptop.id := by
  obtain ⟨before, executed, continued⟩ := @exists_of_exec _ _ (DirectoryServer.step 30000)
    Anything (DirectoryServer.empty 0) _ (fun before =>
      (exec (DirectoryServer.step 30000) (Undisturbed 7 laptop.id 10000) before
        [.refresh 7 [laptop] 10000, .elapse 15000, .refresh 7 [laptop] 24000, .elapse 14999,
          .fetch 0]).any (fun atRead =>
          decide (atRead.clock = 39999 ∧
            (exec (DirectoryServer.step 30000) (Undisturbed 7 laptop.id 10000) atRead
              [.read 1 7 39999, .elapse 100, .fetch 1]).any (fun final =>
                decide (final.returns 1 [laptop.id] = true)) = true)) = true) _
    [.refresh 7 [laptop] 0, .elapse 10000, .read 0 7 10000] (by decide +kernel)
  obtain ⟨atRead, refreshed, atForty, listed⟩ := exists_of_exec continued
  obtain ⟨final, read, returns⟩ := exists_of_exec listed
  obtain ⟨listing, result, known, returned, -⟩ := exists_of_returns returns
  have reached := run_of_exec executed
  have calm := run_of_exec refreshed
  have calmAfter := run_of_exec read
  refine ⟨before, atRead, final, reached, calm, calmAfter, listing, result, known, returned, ?_⟩
  refine refreshed_stays_listed reached (List.mem_singleton_self _) calm calmAfter ?_ ?_ known
    returned
  · rw [atForty]
    decide
  · simp

/-- The lease is over when a listing reads it, the session is refreshed, and the
listing drops it: the next listing does not return it. -/
theorem pruned_after_refresh :
    ∃ before atRead final, Run (DirectoryServer.step 30000) Anything (DirectoryServer.empty 0)
        [.refresh 7 [laptop] 0, .elapse 30000, .read 0 7 30000] before ∧ before.clock = 30000 ∧
      Run (DirectoryServer.step 30000) Anything before
        [.refresh 7 [laptop] 30000, .prune 0] atRead ∧ atRead.clock < before.clock + 30000 ∧
      Run (DirectoryServer.step 30000) Anything atRead [.read 1 7 30000] final ∧
      ∃ listing, final.calls.get? 1 = some listing ∧ listing.stage = .returned [] := by
  obtain ⟨before, executed, atThirty, continued⟩ := @exists_of_exec _ _ (DirectoryServer.step 30000)
    Anything (DirectoryServer.empty 0) _ (fun before => before.clock = 30000 ∧
      (exec (DirectoryServer.step 30000) Anything before
        [.refresh 7 [laptop] 30000, .prune 0]).any (fun atRead =>
          decide (atRead.clock = 30000 ∧
            (exec (DirectoryServer.step 30000) Anything atRead [.read 1 7 30000]).any (fun final =>
              decide (final.returns 1 [] = true)) = true)) = true) _
    [.refresh 7 [laptop] 0, .elapse 30000, .read 0 7 30000] (by decide +kernel)
  obtain ⟨atRead, refreshed, stillThirty, listed⟩ := exists_of_exec continued
  obtain ⟨final, read, returns⟩ := exists_of_exec listed
  obtain ⟨listing, result, known, returned, nothing⟩ := exists_of_returns returns
  obtain rfl := List.map_eq_nil_iff.mp nothing
  refine ⟨before, atRead, final, run_of_exec executed, atThirty, run_of_exec refreshed, ?_,
    run_of_exec read, listing, known, returned⟩
  rw [atThirty, stillThirty]
  decide

end GeoTrack
