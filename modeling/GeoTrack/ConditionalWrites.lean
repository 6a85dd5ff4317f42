import GeoTrack.ZoneRequests

/-!
# Conditional writes are not lost

Each request's statement runs at one moment of the run.  Whether the request
is carried out is decided by the committed tables at that moment alone: the
row it picked stays locked, and therefore unchanged, until the commit.  A
request that missed never touches a row, and its answer follows from the
tables at its second look.
-/

namespace GeoTrack

open LabelledRuns

/-- All interleavings of requests on a database. -/
abbrev ZoneRun (start : Db) : List ZoneEvent → ZoneServer → Prop :=
  Run ZoneServer.step Anything (ZoneServer.idle start)

/-- The run takes this step in this state. -/
abbrev ZoneMoment (start : Db) : List ZoneEvent → ZoneEvent → ZoneServer → Prop :=
  Moment ZoneServer.step Anything (ZoneServer.idle start)

/-- The zone exists for the requester, at the version the request expects. -/
def ZoneRequest.Matches (request : ZoneRequest) (expected : Option ℤ) (db : Db) : Prop :=
  ∃ zone, db.geozones.get? request.zoneId = some zone ∧ zone.userId = request.userId ∧
    ∀ version, expected = some version → zone.version = version

/-- The zone exists for the requester. -/
def ZoneRequest.Exists (request : ZoneRequest) (db : Db) : Prop :=
  ∃ zone, db.geozones.get? request.zoneId = some zone ∧ zone.userId = request.userId

section Guards

variable {db : Db} {zoneId userId : Uuid} {expected : Option ℤ} {zone : ZoneRow}

theorem getForUser_eq_some_iff :
    Geozones.getForUser db zoneId userId = some zone ↔
      db.geozones.get? zoneId = some zone ∧ zone.userId = userId := by
  simp [Geozones.getForUser, Option.filter_eq_some_iff]

theorem versionGuard_iff :
    Geozones.versionGuard expected zone = true ↔
      ∀ version, expected = some version → zone.version = version := by
  cases expected <;> simp [Geozones.versionGuard]

theorem writable_eq_some_iff :
    Geozones.writable db zoneId userId expected = some zone ↔
      db.geozones.get? zoneId = some zone ∧ zone.userId = userId ∧
        ∀ version, expected = some version → zone.version = version := by
  rw [Geozones.writable, Option.filter_eq_some_iff, getForUser_eq_some_iff, versionGuard_iff,
    and_assoc]

theorem exists_writable_iff {request : ZoneRequest} :
    (∃ zone, Geozones.writable db request.zoneId request.userId expected = some zone) ↔
      request.Matches expected db := by
  simp only [writable_eq_some_iff, ZoneRequest.Matches]

theorem bindable_of_receive {request : ZoneRequest}
    (received : request.receive = .ready expected) : bindable expected = true := by
  unfold ZoneRequest.receive at received
  split at received
  case h_1 => cases received
  case h_2 read parsed =>
      split at received
      case isFalse => cases received
      case isTrue =>
          obtain rfl := RequestStage.ready.inj received
          cases read with
          | none => rfl
          | some version =>
              simpa [bindable] using parseIfMatch_inVersionRange parsed

theorem get?_commitRow (row : Option ZoneRow) (other : Uuid) :
    (commitRow db zoneId row).geozones.get? other =
      if other = zoneId then row else db.geozones.get? other := by
  cases row with
  | some changed => simp [commitRow]
  | none => simp [commitRow, Geozones.dropZone]

end Guards

section Answers

variable {db : Db} {request : ZoneRequest} {expected : Option ℤ}

theorem not_exists_of_getForUser_eq_none
    (missing : Geozones.getForUser db request.zoneId request.userId = none) :
    ¬ request.Exists db := by
  rintro ⟨zone, found⟩
  rw [getForUser_eq_some_iff.mpr found] at missing
  cases missing

/-- The read of an empty partial update gives the conditional answer. -/
theorem readAnswer_spec (db : Db) (request : ZoneRequest) (expected : Option ℤ) :
    ((request.readAnswer db expected).Succeeds ↔ request.Matches expected db) ∧
      (¬ (request.readAnswer db expected).Succeeds →
        (request.Exists db → (request.readAnswer db expected).status = 412) ∧
        (¬ request.Exists db → (request.readAnswer db expected).status = 404)) := by
  unfold ZoneRequest.readAnswer
  cases read : Geozones.getForUser db request.zoneId request.userId with
  | none =>
      have missing := not_exists_of_getForUser_eq_none read
      refine ⟨⟨fun succeeds => succeeds.elim, ?_⟩, fun _ => ⟨fun found => absurd found missing,
        fun _ => rfl⟩⟩
      rintro ⟨zone, found, owned, -⟩
      exact missing ⟨zone, found, owned⟩
  | some zone =>
      have found := getForUser_eq_some_iff.mp read
      have matches_iff : request.Matches expected db ↔
          ∀ version, expected = some version → zone.version = version := by
        constructor
        · rintro ⟨other, alsoFound, -, guard⟩
          rw [found.1] at alsoFound
          exact Option.some.inj alsoFound ▸ guard
        · exact fun guard => ⟨zone, found.1, found.2, guard⟩
      rw [matches_iff]
      cases expected with
      | none => simp [Answer.tag, Answer.Succeeds]
      | some version =>
          by_cases same : version = zone.version
          · simp [same, Answer.tag, Answer.Succeeds]
          · have differs : zone.version ≠ version := fun equal => same equal.symm
            have there : request.Exists db := ⟨zone, found⟩
            simp [same, differs, there, Answer.Succeeds, Answer.status, ProblemError.stale]

/-- The second look tells a version that moved on from a zone that is not
there. -/
theorem explain_spec (db : Db) (request : ZoneRequest) :
    ¬ (request.explain db).Succeeds ∧
      (request.Exists db → (request.explain db).status = 412) ∧
      (¬ request.Exists db → (request.explain db).status = 404) := by
  unfold ZoneRequest.explain Geozones.explainMissingRow
  cases read : Geozones.getForUser db request.zoneId request.userId with
  | none =>
      exact ⟨fun succeeds => succeeds, fun found =>
        absurd found (not_exists_of_getForUser_eq_none read), fun _ => rfl⟩
  | some zone =>
      exact ⟨fun succeeds => succeeds, fun _ => rfl, fun missing =>
        absurd ⟨zone, getForUser_eq_some_iff.mp read⟩ missing⟩

end Answers

section Stories

variable (start : Db) (events : List ZoneEvent) (id : RequestId)

/-- The request's statement ran exactly once, in this state. -/
def ExecutedIn (before : ZoneServer) : Prop :=
  ∀ other, ZoneMoment start events (.execute id) other ↔ other = before

/-- The request committed exactly once, in this state. -/
def CommittedIn (before : ZoneServer) : Prop :=
  ∀ other, ZoneMoment start events (.commit id) other ↔ other = before

/-- No step of the request changed any table. -/
def LeavesTables : Prop :=
  ∀ event before after, event.requestId = some id → ZoneMoment start events event before →
    before.step event = some after → after.db = before.db

/-- The commit of a request whose statement picked a row: the row is still the
one it picked, it is rewritten with the next version or removed, and no other
zone changes. -/
def TakesEffect (request : ZoneRequest) (atWrite : ZoneServer) : Prop :=
  ∃ before after zone, CommittedIn start events id before ∧
    before.step (.commit id) = some after ∧
    atWrite.db.geozones.get? request.zoneId = some zone ∧
    before.db.geozones.get? request.zoneId = some zone ∧
    after.db.geozones.get? request.zoneId = request.call.rewrite request.now zone ∧
    (∀ row, request.call.rewrite request.now zone = some row → row.version = zone.version + 1) ∧
    ∀ other, other ≠ request.zoneId →
      after.db.geozones.get? other = before.db.geozones.get? other

/-- The state in which the request found out why its statement changed nothing:
the second look, or the read of an empty partial update itself. -/
def LookedIn (request : ZoneRequest) (before : ZoneServer) : Prop :=
  if request.call.writes then ZoneMoment start events (.look id) before
  else ZoneMoment start events (.execute id) before

/-- What an answered request did and was told. -/
structure Resolved (request : ZoneRequest) (expected : Option ℤ) (answer : Answer) : Prop where
  decided : ∃ atWrite, ExecutedIn start events id atWrite ∧
    (answer.Succeeds ↔ request.Matches expected atWrite.db) ∧
    (answer.Succeeds → request.call.writes = true →
      TakesEffect start events id request atWrite)
  untouched : ¬ (answer.Succeeds ∧ request.call.writes = true) → LeavesTables start events id
  refused : ¬ answer.Succeeds → ∃ atLook, LookedIn start events id request atLook ∧
    (request.Exists atLook.db → answer.status = 412) ∧
    (¬ request.Exists atLook.db → answer.status = 404)

/-- What is known about a request by the stage it has reached. -/
def Story (db : Db) (request : ZoneRequest) : RequestStage → Prop
  | .ready expected | .waiting expected =>
      request.receive = .ready expected ∧ LeavesTables start events id ∧
        (∀ before, ¬ ZoneMoment start events (.execute id) before) ∧
        ∀ before, ¬ ZoneMoment start events (.commit id) before
  | .written zone =>
      request.call.writes = true ∧ LeavesTables start events id ∧
        (∀ before, ¬ ZoneMoment start events (.commit id) before) ∧
        db.geozones.get? request.zoneId = some zone ∧
        ∃ expected atWrite, request.receive = .ready expected ∧
          ExecutedIn start events id atWrite ∧
          Geozones.writable atWrite.db request.zoneId request.userId expected = some zone
  | .missed =>
      request.call.writes = true ∧ LeavesTables start events id ∧
        ∃ expected atWrite, request.receive = .ready expected ∧
          ExecutedIn start events id atWrite ∧
          Geozones.writable atWrite.db request.zoneId request.userId expected = none
  | .answered answer =>
      ∀ expected, request.receive = .ready expected →
        Resolved start events id request expected answer

end Stories

section Frame

variable {start : Db} {events more : List ZoneEvent} {id : RequestId} {request : ZoneRequest}

/-- The request has taken the same steps in both runs. -/
def SameMoments (start : Db) (events more : List ZoneEvent) (id : RequestId) : Prop :=
  ∀ event before, event.requestId = some id →
    (ZoneMoment start more event before ↔ ZoneMoment start events event before)

theorem SameMoments.leavesTables (same : SameMoments start events more id)
    (leavesTables : LeavesTables start events id) : LeavesTables start more id := by
  intro event before after own moment stepTo
  exact leavesTables event before after own ((same event before own).mp moment) stepTo

theorem SameMoments.executedIn (same : SameMoments start events more id) {before : ZoneServer}
    (executed : ExecutedIn start events id before) : ExecutedIn start more id before := by
  intro other
  rw [same (.execute id) other rfl]
  exact executed other

theorem SameMoments.committedIn (same : SameMoments start events more id) {before : ZoneServer}
    (committed : CommittedIn start events id before) : CommittedIn start more id before := by
  intro other
  rw [same (.commit id) other rfl]
  exact committed other

theorem SameMoments.resolved (same : SameMoments start events more id) {expected : Option ℤ}
    {answer : Answer} (resolved : Resolved start events id request expected answer) :
    Resolved start more id request expected answer where
  decided := by
    obtain ⟨atWrite, executed, succeeds, effect⟩ := resolved.decided
    refine ⟨atWrite, same.executedIn executed, succeeds, fun succeeded writes => ?_⟩
    obtain ⟨before, after, zone, committed, rest⟩ := effect succeeded writes
    exact ⟨before, after, zone, same.committedIn committed, rest⟩
  untouched := fun nothing => same.leavesTables (resolved.untouched nothing)
  refused := by
    intro failed
    obtain ⟨atLook, looked, status⟩ := resolved.refused failed
    refine ⟨atLook, ?_, status⟩
    unfold LookedIn at looked ⊢
    rw [same (.look id) atLook rfl, same (.execute id) atLook rfl]
    exact looked

/-- A request's story does not depend on what others do, as long as the row it
has locked stays. -/
theorem SameMoments.story (same : SameMoments start events more id) {db later : Db}
    {stage : RequestStage}
    (held : ∀ zone, stage = .written zone →
      later.geozones.get? request.zoneId = db.geozones.get? request.zoneId)
    (story : Story start events id db request stage) :
    Story start more id later request stage := by
  cases stage with
  | ready expected | waiting expected =>
      obtain ⟨received, leavesTables, unexecuted, uncommitted⟩ := story
      refine ⟨received, same.leavesTables leavesTables, fun before => ?_, fun before => ?_⟩
      · rw [same (.execute id) before rfl]
        exact unexecuted before
      · rw [same (.commit id) before rfl]
        exact uncommitted before
  | written zone =>
      obtain ⟨writes, leavesTables, uncommitted, row, expected, atWrite, received, executed, picked⟩ :=
        story
      refine ⟨writes, same.leavesTables leavesTables, fun before => ?_, (held zone rfl).trans row, expected,
        atWrite, received, same.executedIn executed, picked⟩
      rw [same (.commit id) before rfl]
      exact uncommitted before
  | missed =>
      obtain ⟨writes, leavesTables, expected, atWrite, received, executed, picked⟩ := story
      exact ⟨writes, same.leavesTables leavesTables, expected, atWrite, received,
        same.executedIn executed, picked⟩
  | answered answer =>
      intro expected received
      exact same.resolved (story expected received)

end Frame

section Steps

variable {start : Db} {events : List ZoneEvent} {server after : ZoneServer} {event : ZoneEvent}
  {id : RequestId} {request : ZoneRequest}

theorem zoneMoment_snoc_iff (run : ZoneRun start events server) {earlier : ZoneEvent}
    {before : ZoneServer} :
    ZoneMoment start (events ++ [event]) earlier before ↔
      ZoneMoment start events earlier before ∨ earlier = event ∧ before = server :=
  run.moment_snoc_iff

theorem moment_snoc_of_ne (run : ZoneRun start events server) {earlier : ZoneEvent}
    (differs : earlier ≠ event) (before : ZoneServer) :
    ZoneMoment start (events ++ [event]) earlier before ↔
      ZoneMoment start events earlier before := by
  rw [zoneMoment_snoc_iff run]
  exact ⟨fun moment => moment.resolve_right fun last => differs last.1, Or.inl⟩

theorem sameMoments_of_other (run : ZoneRun start events server)
    (foreign : event.requestId ≠ some id) :
    SameMoments start events (events ++ [event]) id := by
  intro earlier before own
  apply moment_snoc_of_ne run
  rintro rfl
  exact foreign own

theorem LeavesTables.snoc (run : ZoneRun start events server) (leavesTables : LeavesTables start events id)
    (stepTo : server.step event = some after) (kept : after.db = server.db) :
    LeavesTables start (events ++ [event]) id := by
  intro earlier before next own moment stepNext
  rcases (zoneMoment_snoc_iff run).mp moment with known | ⟨rfl, rfl⟩
  · exact leavesTables earlier before next own known stepNext
  · rw [stepTo] at stepNext
    exact Option.some.inj stepNext ▸ kept

theorem ExecutedIn.snoc (run : ZoneRun start events server) {before : ZoneServer}
    (executed : ExecutedIn start events id before) (differs : ZoneEvent.execute id ≠ event) :
    ExecutedIn start (events ++ [event]) id before := by
  intro other
  rw [moment_snoc_of_ne run differs]
  exact executed other

theorem executedIn_last (run : ZoneRun start events server)
    (unexecuted : ∀ before, ¬ ZoneMoment start events (.execute id) before) :
    ExecutedIn start (events ++ [.execute id]) id server := by
  intro other
  rw [zoneMoment_snoc_iff run]
  exact ⟨fun moment => (moment.resolve_left (unexecuted other)).2, fun same => Or.inr ⟨rfl, same⟩⟩

theorem committedIn_last (run : ZoneRun start events server)
    (uncommitted : ∀ before, ¬ ZoneMoment start events (.commit id) before) :
    CommittedIn start (events ++ [.commit id]) id server := by
  intro other
  rw [zoneMoment_snoc_iff run]
  exact ⟨fun moment => (moment.resolve_left (uncommitted other)).2,
    fun same => Or.inr ⟨rfl, same⟩⟩

theorem story_arrive (run : ZoneRun start events server)
    (unheard : ∀ earlier before, earlier.requestId = some id →
      ¬ ZoneMoment start events earlier before)
    (stepTo : server.step (.arrive id request) = some after) (kept : after.db = server.db) :
    Story start (events ++ [.arrive id request]) id server.db request request.receive := by
  have leavesTables : LeavesTables start events id := fun earlier before _ own moment _ =>
    absurd moment (unheard earlier before own)
  cases received : request.receive with
  | ready expected =>
      refine ⟨received, leavesTables.snoc run stepTo kept, fun before moment => ?_,
        fun before moment => ?_⟩
      · rw [moment_snoc_of_ne run (by simp)] at moment
        exact unheard _ before rfl moment
      · rw [moment_snoc_of_ne run (by simp)] at moment
        exact unheard _ before rfl moment
  | answered answer =>
      intro expected ready
      rw [received] at ready
      cases ready
  | waiting _ | written _ | missed =>
      unfold ZoneRequest.receive at received
      split at received
      case h_1 => cases received
      case h_2 => split at received <;> cases received

theorem story_wait (run : ZoneRun start events server) {expected : Option ℤ}
    (story : Story start events id server.db request (.ready expected))
    (stepTo : server.step (.wait id) = some after) (kept : after.db = server.db) :
    Story start (events ++ [.wait id]) id server.db request (.waiting expected) := by
  obtain ⟨received, leavesTables, unexecuted, uncommitted⟩ := story
  refine ⟨received, leavesTables.snoc run stepTo kept, fun before => ?_, fun before => ?_⟩
  · rw [moment_snoc_of_ne run (by simp)]
    exact unexecuted before
  · rw [moment_snoc_of_ne run (by simp)]
    exact uncommitted before

/-- The statement decides everything about the request from the committed
tables. -/
theorem story_execute (run : ZoneRun start events server) {expected : Option ℤ}
    (story : Story start events id server.db request (.ready expected))
    (stepTo : server.step (.execute id) = some after) (kept : after.db = server.db) :
    Story start (events ++ [.execute id]) id server.db request
      (request.statement server.db expected) := by
  obtain ⟨received, leavesTables, unexecuted, uncommitted⟩ := story
  have stillLeavesTables := leavesTables.snoc run stepTo kept
  have executed := executedIn_last run unexecuted
  have notCommitted : ∀ before,
      ¬ ZoneMoment start (events ++ [.execute id]) (.commit id) before := by
    intro before
    rw [moment_snoc_of_ne run (by simp)]
    exact uncommitted before
  unfold ZoneRequest.statement
  by_cases writes : request.call.writes = true
  · rw [if_neg (by simpa using writes), if_neg (by simpa using bindable_of_receive received)]
    cases picked : Geozones.writable server.db request.zoneId request.userId expected with
    | some zone =>
        exact ⟨writes, stillLeavesTables, notCommitted, (writable_eq_some_iff.mp picked).1, expected,
          server, received, executed, picked⟩
    | none => exact ⟨writes, stillLeavesTables, expected, server, received, executed, picked⟩
  · rw [if_pos (by simpa using writes)]
    intro other alsoReceived
    obtain rfl : expected = other := RequestStage.ready.inj (received.symm.trans alsoReceived)
    obtain ⟨succeeds, refused⟩ := readAnswer_spec server.db request expected
    refine ⟨⟨server, executed, succeeds, fun _ impossible => absurd impossible writes⟩,
      fun _ => stillLeavesTables, fun failed => ⟨server, ?_, refused failed⟩⟩
    rw [LookedIn, if_neg writes]
    exact (executed server).mpr rfl

theorem version_rewrite {call : ZoneCall} {now : ℤ} {zone row : ZoneRow}
    (rewritten : call.rewrite now zone = some row) : row.version = zone.version + 1 := by
  cases call with
  | replace payload =>
      obtain rfl := Option.some.inj rewritten
      rfl
  | patch body =>
      obtain rfl := Option.some.inj rewritten
      rfl
  | delete => cases rewritten

theorem succeeds_ofRow (row : Option ZoneRow) : (Answer.ofRow row).Succeeds := by
  cases row <;> trivial

/-- Committing publishes exactly the change of the row that was picked. -/
theorem story_commit (run : ZoneRun start events server) {zone : ZoneRow}
    (story : Story start events id server.db request (.written zone))
    (stepTo : server.step (.commit id) = some after)
    (written : after.db = commitRow server.db request.zoneId
      (request.call.rewrite request.now zone)) :
    Story start (events ++ [.commit id]) id after.db request
      (.answered (.ofRow (request.call.rewrite request.now zone))) := by
  obtain ⟨writes, -, uncommitted, row, expected, atWrite, received, executed, picked⟩ := story
  intro other alsoReceived
  obtain rfl : expected = other := RequestStage.ready.inj (received.symm.trans alsoReceived)
  have succeeded := succeeds_ofRow (request.call.rewrite request.now zone)
  refine ⟨⟨atWrite, executed.snoc run (by simp), ?_, fun _ _ => ?_⟩,
    fun nothing => absurd ⟨succeeded, writes⟩ nothing, fun failed => absurd succeeded failed⟩
  · rw [← exists_writable_iff]
    exact ⟨fun _ => ⟨zone, picked⟩, fun _ => succeeded⟩
  · refine ⟨server, after, zone, committedIn_last run uncommitted, stepTo,
      (writable_eq_some_iff.mp picked).1, row, ?_, fun _ => version_rewrite, fun elsewhere differs => ?_⟩
    · rw [written, get?_commitRow, if_pos rfl]
    · rw [written, get?_commitRow, if_neg differs]

theorem story_look (run : ZoneRun start events server)
    (story : Story start events id server.db request .missed)
    (stepTo : server.step (.look id) = some after) (kept : after.db = server.db) :
    Story start (events ++ [.look id]) id server.db request
      (.answered (request.explain server.db)) := by
  obtain ⟨writes, leavesTables, expected, atWrite, received, executed, picked⟩ := story
  intro other alsoReceived
  obtain rfl : expected = other := RequestStage.ready.inj (received.symm.trans alsoReceived)
  obtain ⟨failed, status⟩ := explain_spec server.db request
  refine ⟨⟨atWrite, executed.snoc run (by simp), ?_, fun succeeded => absurd succeeded failed⟩,
    fun _ => leavesTables.snoc run stepTo kept, fun _ => ⟨server, ?_, status⟩⟩
  · rw [← exists_writable_iff]
    constructor
    · exact fun succeeded => absurd succeeded failed
    · rintro ⟨zone, found⟩
      rw [picked] at found
      cases found
  · rw [LookedIn, if_pos writes, zoneMoment_snoc_iff run]
    exact Or.inr ⟨rfl, rfl⟩

end Steps

/-- Every request has a story, nothing has happened for requests that did not
arrive, and no row is locked twice. -/
structure Consistent (start : Db) (events : List ZoneEvent) (server : ZoneServer) : Prop where
  story : ∀ id request stage, server.requests.get? id = some (request, stage) →
    Story start events id server.db request stage
  unheard : ∀ id, server.requests.get? id = none → ∀ event before,
    event.requestId = some id → ¬ ZoneMoment start events event before
  exclusive : ∀ id other request another zone held,
    server.requests.get? id = some (request, .written zone) →
    server.requests.get? other = some (another, .written held) →
    request.zoneId = another.zoneId → id = other

theorem consistent_idle (start : Db) : Consistent start [] (ZoneServer.idle start) where
  story := by
    intro id request stage found
    cases found
  unheard := fun _ _ _ _ _ => not_moment_nil
  exclusive := by
    intro id other request another zone held found
    cases found

section Preservation

variable {start : Db} {events : List ZoneEvent} {server : ZoneServer} {event : ZoneEvent}
  {id : RequestId} {request : ZoneRequest} {stage : RequestStage} {db : Db}

/-- No row is locked twice if a request locks only what nobody else has. -/
theorem exclusive_set {requests : Dict RequestId (ZoneRequest × RequestStage)}
    (exclusive : ∀ id other request another zone held,
      requests.get? id = some (request, .written zone) →
      requests.get? other = some (another, .written held) →
      request.zoneId = another.zoneId → id = other)
    (alone : ∀ zone, stage = .written zone → ∀ other another locked, other ≠ id →
      requests.get? other = some (another, .written locked) → another.zoneId ≠ request.zoneId) :
    ∀ first second one two zone held,
      (requests.set id (request, stage)).get? first = some (one, .written zone) →
      (requests.set id (request, stage)).get? second = some (two, .written held) →
      one.zoneId = two.zoneId → first = second := by
  intro first second one two zone held foundFirst foundSecond same
  rcases Dict.get?_set_cases foundFirst with ⟨rfl, isFirst⟩ | ⟨notFirst, earlierFirst⟩
  · rcases Dict.get?_set_cases foundSecond with ⟨rfl, -⟩ | ⟨notSecond, earlierSecond⟩
    · rfl
    · obtain ⟨rfl, rfl⟩ := Prod.mk.inj isFirst
      exact absurd same.symm (alone zone rfl second two held notSecond earlierSecond)
  · rcases Dict.get?_set_cases foundSecond with ⟨rfl, isSecond⟩ | ⟨-, earlierSecond⟩
    · obtain ⟨rfl, rfl⟩ := Prod.mk.inj isSecond
      exact absurd same (alone held rfl first one zone notFirst earlierFirst)
    · exact exclusive first second one two zone held earlierFirst earlierSecond same

/-- One request moves on; the rows the others have locked stay. -/
theorem Consistent.advance (consistent : Consistent start events server)
    (run : ZoneRun start events server) (own : event.requestId = some id)
    (story : Story start (events ++ [event]) id db request stage)
    (held : ∀ other another zone, other ≠ id →
      server.requests.get? other = some (another, .written zone) →
      db.geozones.get? another.zoneId = server.db.geozones.get? another.zoneId)
    (alone : ∀ zone, stage = .written zone → ∀ other another locked, other ≠ id →
      server.requests.get? other = some (another, .written locked) →
      another.zoneId ≠ request.zoneId) :
    Consistent start (events ++ [event])
      (ZoneServer.mk db (server.requests.set id (request, stage))) where
  story := by
    intro other another reached found
    rw [Dict.get?_set] at found
    split at found
    case isTrue same =>
        obtain ⟨rfl, rfl⟩ := Prod.mk.inj (Option.some.inj found)
        exact same ▸ story
    case isFalse differs =>
        have foreign : event.requestId ≠ some other := by
          rw [own]
          exact fun same => differs (Option.some.inj same).symm
        apply (sameMoments_of_other run foreign).story _ (consistent.story other another reached found)
        rintro zone rfl
        exact held other another zone differs found
  unheard := by
    intro other missing earlier before ofOther moment
    rw [Dict.get?_set] at missing
    split at missing
    case isTrue => cases missing
    case isFalse differs =>
        rcases (zoneMoment_snoc_iff run).mp moment with known | ⟨rfl, -⟩
        · exact consistent.unheard other missing earlier before ofOther known
        · exact differs (Option.some.inj (ofOther.symm.trans own))
  exclusive := exclusive_set consistent.exclusive alone

/-- The row a statement picks is not locked by another request. -/
theorem unlocked_of_statement {expected : Option ℤ} {zone : ZoneRow}
    (enabled : server.blocked request expected = false ∨ server.locked request.zoneId = false)
    (picked : request.statement server.db expected = .written zone) :
    server.locked request.zoneId = false := by
  rcases enabled with free | free
  · unfold ZoneRequest.statement at picked
    split at picked
    case isTrue => cases picked
    case isFalse writes =>
        split at picked
        case isTrue => cases picked
        case isFalse bound =>
            split at picked
            case h_1 row found =>
                simp only [not_not] at writes bound
                simpa [ZoneServer.blocked, writes, bound, found] using free
            case h_2 => cases picked
  · exact free

theorem geozones_create {now : ℤ} {newId userId : Uuid} {payload : GeozoneCreate} {quota : ℕ}
    {before after : Db} {zone : ZoneRow}
    (created : Geozones.create now before newId userId payload quota = .ok (after, zone)) :
    newId ∉ before.geozones ∧ after.geozones = before.geozones.set newId zone := by
  unfold Geozones.create at created
  split at created
  case isTrue => cases created
  case isFalse =>
      split at created
      case isTrue => cases created
      case isFalse =>
          split at created
          case isTrue => cases created
          case isFalse fresh =>
              obtain ⟨rfl, rfl⟩ := Prod.mk.inj (Except.ok.inj created)
              exact ⟨fresh, rfl⟩

theorem Consistent.create (consistent : Consistent start events server)
    (run : ZoneRun start events server) (foreign : event.requestId = none) {newId : Uuid}
    {zone : ZoneRow} (fresh : newId ∉ server.db.geozones)
    (inserted : db.geozones = server.db.geozones.set newId zone) :
    Consistent start (events ++ [event]) { server with db := db } := by
  have same (id : RequestId) : SameMoments start events (events ++ [event]) id :=
    sameMoments_of_other run (by simp [foreign])
  refine ⟨fun other another reached found => ?_, fun other missing earlier before ofOther => ?_,
    consistent.exclusive⟩
  · have story := consistent.story other another reached found
    apply (same other).story _ story
    rintro row rfl
    -- the new id is not the one of a locked row, which exists
    have known : server.db.geozones.get? another.zoneId = some row := story.2.2.2.1
    have differs : another.zoneId ≠ newId := by
      rintro rfl
      exact fresh (Dict.mem_iff_exists.mpr ⟨row, known⟩)
    simp [inserted, differs]
  · rw [same other earlier before ofOther]
    exact consistent.unheard other missing earlier before ofOther

theorem consistent_step {after : ZoneServer} (consistent : Consistent start events server)
    (run : ZoneRun start events server) (stepTo : server.step event = some after) :
    Consistent start (events ++ [event]) after := by
  have unmoved : ∀ (id other : RequestId) (another : ZoneRequest) (zone : ZoneRow), other ≠ id →
      server.requests.get? other = some (another, .written zone) →
      server.db.geozones.get? another.zoneId = server.db.geozones.get? another.zoneId :=
    fun _ _ _ _ _ _ => rfl
  rcases ZoneServer.step_cases stepTo with
    ⟨id, request, rfl, missing, rfl⟩ | ⟨id, request, expected, rfl, found, -, rfl⟩ |
    ⟨id, request, expected, rfl, enabled, rfl⟩ | ⟨id, request, zone, rfl, found, rfl⟩ |
    ⟨id, request, rfl, found, rfl⟩ |
    ⟨now, newId, userId, payload, quota, db, zone, rfl, created, rfl⟩
  · apply consistent.advance run rfl (story_arrive run (consistent.unheard id missing) stepTo rfl)
      (unmoved id)
    intro zone received
    unfold ZoneRequest.receive at received
    split at received
    case h_1 => cases received
    case h_2 => split at received <;> cases received
  · exact consistent.advance run rfl
      (story_wait run (consistent.story id request _ found) stepTo rfl) (unmoved id)
      (fun zone waiting => by cases waiting)
  · have story : Story start events id server.db request (.ready expected) := by
      rcases enabled with ⟨found, -⟩ | ⟨found, -⟩
      · exact consistent.story id request _ found
      · have waited := consistent.story id request _ found
        exact waited
    apply consistent.advance run rfl (story_execute run story stepTo rfl) (unmoved id)
    intro zone picked other another locked _ found
    have free := unlocked_of_statement
      (enabled.imp (fun ready => ready.2) (fun waiting => waiting.2)) picked
    exact ZoneServer.not_written_of_unlocked free found
  · have committed := story_commit run (consistent.story id request _ found) stepTo rfl
    apply consistent.advance run rfl committed
    · intro other another held differs alsoFound
      rw [ZoneServer.db_setStage, get?_commitRow, if_neg]
      intro same
      exact differs (consistent.exclusive other id another request held zone alsoFound found same)
    · intro held impossible
      cases impossible
  · exact consistent.advance run rfl
      (story_look run (consistent.story id request _ found) stepTo rfl) (unmoved id)
      (fun zone answered => by cases answered)
  · obtain ⟨fresh, inserted⟩ := geozones_create created
    exact consistent.create run rfl fresh inserted

theorem consistent_run (run : ZoneRun start events server) : Consistent start events server := by
  induction run with
  | nil => exact consistent_idle start
  | snoc earlier _ stepTo ih => exact consistent_step ih earlier stepTo

end Preservation

/-- However requests interleave, one whose header and body are well-formed is
carried out exactly if the zone matched when its statement ran; its effect is
one new version of that row, and a request that is refused has changed nothing
and is told why by the state of its second look. -/
theorem conditional_writes_not_lost {start : Db} {events : List ZoneEvent} {server : ZoneServer}
    (run : ZoneRun start events server) {id : RequestId} {request : ZoneRequest}
    {expected : Option ℤ} {answer : Answer}
    (parsed : parseIfMatch request.ifMatch = .ok expected)
    (wellFormed : request.call.blanked = [])
    (answered : server.requests.get? id = some (request, .answered answer)) :
    Resolved start events id request expected answer := by
  apply (consistent_run run).story id request _ answered
  rw [ZoneRequest.receive, parsed]
  simp [wellFormed]

/-- The zone is moved and then deleted while another update waits for its
row. -/
def overtakenUpdate : ZoneRequest where
  userId := 1
  zoneId := 7
  ifMatch := some "\"1\""
  call := .replace ⟨"gate", 0, 0, 50, none, true, true, none⟩
  now := 12

def overtakenRun : List ZoneEvent :=
  [.create 10 7 1 ⟨"yard", 0, 0, 100, none, true, true, none⟩ 5,
    .arrive 0 ⟨1, 7, some "W/\"1\"", .patch ⟨none, none, some (some 2), none, none, none, none,
      some none⟩, 11⟩,
    .arrive 1 overtakenUpdate, .execute 0, .wait 1, .commit 0, .execute 1,
    .arrive 2 ⟨1, 7, some "*", .delete, 13⟩, .execute 2, .commit 2, .look 1]

theorem conditional_writes_not_lost_overtaken :
    ∃ server, ZoneRun (Db.fresh (KeySet.add ∅ 1)) overtakenRun server ∧
      server.requests.get? 1 = some (overtakenUpdate, .answered (.problem (.notFound 7))) ∧
      Resolved (Db.fresh (KeySet.add ∅ 1)) overtakenRun 1 overtakenUpdate (some 1)
        (.problem (.notFound 7)) := by
  obtain ⟨server, executed, answered⟩ : ∃ server,
      exec ZoneServer.step Anything (ZoneServer.idle (Db.fresh (KeySet.add ∅ 1))) overtakenRun =
        some server ∧
      server.requests.get? 1 = some (overtakenUpdate, .answered (.problem (.notFound 7))) := by
    apply exists_of_exec
    decide +kernel
  have reached := run_of_exec executed
  exact ⟨server, reached, answered,
    conditional_writes_not_lost reached (by decide +kernel) rfl answered⟩

end GeoTrack
