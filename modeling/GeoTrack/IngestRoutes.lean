import GeoTrack.IfMatch
import GeoTrack.ReportAdmission
import GeoTrack.SessionPacing

/-!
# HTTP ingestion

The gate is read before the body is touched, and the body is given up the moment
it passes the ceiling, however it is cut into chunks.  What happens to a payload
after that does not depend on the transport that carried it: the same entries are
appended and the same reports are counted as for a frame of a socket.
-/

namespace GeoTrack

/-- A request as it arrives: its declared length, the chunks of its body, and
whether the client stays until the whole body is there. -/
structure IngestRequest where
  contentLength : Option String
  chunks : List Bytes
  complete : Bool

/-- The answer to a request; an exception that nothing catches is a crash. -/
inductive IngestResponse where
  | accepted (count : ℕ)
  | problem (error : ProblemError) (errors : List ReadableError)
  | crash

/-- What a request comes to. -/
structure Posting where
  response : IngestResponse
  appended : List (ℕ × Bytes)
  counts : IngestCounts

namespace IngestEdge

variable (edge : IngestEdge)

def tooLarge : ProblemError where
  status := 413
  title := "Payload too large"
  code := "payload_too_large"
  detail := "Bodies above " ++ toString edge.maxFrame ++
    " bytes are refused; a request carries at most " ++ toString edge.maxBatch ++ " reports."
  headers := []
  extra := []

def badContentLength : ProblemError where
  status := 400
  title := "Bad request"
  code := "bad_request"
  detail := "Content-Length is not a number."
  headers := []
  extra := []

def clientDisconnected : ProblemError where
  status := 408
  title := "Request incomplete"
  code := "client_disconnected"
  detail := "The connection closed before the whole body arrived."
  headers := []
  extra := []

def throttledProblem : ProblemError where
  status := 503
  title := "Service unavailable"
  code := "ingest_throttled"
  detail := "The ingestion backlog is above its high watermark. Retry shortly."
  headers := [("Retry-After",
    toString (max 1 (Binary64.roundEven (Binary64.round ((edge.retryAfterMs : ℚ) / 1000)))))]
  extra := [("retry_after_ms", edge.retryAfterMs)]

def queueUnavailable : ProblemError where
  status := 503
  title := "Service unavailable"
  code := "ingest_unavailable"
  detail := "The ingestion queue is not reachable. Retry shortly."
  headers := [("Retry-After", "1")]
  extra := []

def validationProblem (detail : String) : ProblemError where
  status := 422
  title := "Request validation failed"
  code := "validation_error"
  detail := detail
  headers := []
  extra := []

def checkDeclaredLength (declared : Option String) : Except ProblemError Unit :=
  match declared with
  | none => .ok ()
  | some text =>
      match readInt text.toList with
      | none => .error badContentLength
      | some length => if (edge.maxFrame : ℤ) < length then .error edge.tooLarge else .ok ()

/-- The loop over the chunks, with the body so far. -/
def readChunks (complete : Bool) : (body : Bytes) → List Bytes → Except ProblemError Bytes
  | body, [] => if complete then .ok body else .error clientDisconnected
  | body, chunk :: rest =>
      if edge.maxFrame < (body ++ chunk).length then .error edge.tooLarge
      else readChunks complete (body ++ chunk) rest

/-- Read the body, giving up the moment it passes the ceiling. -/
def readBoundedBody (request : IngestRequest) : Except ProblemError Bytes := do
  edge.checkDeclaredLength request.contentLength
  edge.readChunks request.complete [] request.chunks

/-- The reports of a body are submitted. -/
def postReports (arrival : Arrival) (reports : List LocationReport) : Posting :=
  let submission := edge.submit arrival.throttledLater arrival.submittedAt arrival.queue reports
  { response :=
      match submission.outcome with
      | .ok accepted => .accepted accepted
      | .error (.backpressure _) => .problem edge.throttledProblem []
      | .error .redis => .problem queueUnavailable []
    appended := submission.appended
    counts := submission.counts }

/-- A body that was read to its end. -/
def postPayload (arrival : Arrival) (raw : Bytes) : Posting :=
  match parseIngestPayload edge.pydantic edge.maxBatch raw with
  | .error (.batchTooLarge offered limit) =>
      ⟨.problem (validationProblem (batchTooLargeText offered limit)) [], [],
        { IngestCounts.zero with validation := offered }⟩
  | .error (.validation error) =>
      ⟨.problem (validationProblem "One or more reports did not pass validation.")
          (edge.readableErrors error), [],
        { IngestCounts.zero with validation := 1 }⟩
  | .error (.value message) =>
      ⟨.problem (validationProblem message) [], [], { IngestCounts.zero with validation := 1 }⟩
  | .ok (_, reports) =>
      match checkReportWindow reports (utcNow arrival.checkedAt) (reportWindow edge.settings) with
      | .error error =>
          match error.message with
          | some detail =>
              ⟨.problem (validationProblem detail) [], [],
                { IngestCounts.zero with window := reports.length }⟩
          | none => ⟨.crash, [], .zero⟩
      | .ok () => edge.postReports arrival reports

/-- `ingest_locations`, with what its handling reads in `arrival`. -/
def ingestLocations (arrival : Arrival) (request : IngestRequest) : Posting :=
  if arrival.throttled then
    ⟨.problem edge.throttledProblem [], [], .zero⟩
  else
    match edge.readBoundedBody request with
    | .error error => ⟨.problem error [], [], .zero⟩
    | .ok raw => edge.postPayload arrival raw

variable {edge}

/-- Only the length of the whole matters. -/
theorem readChunks_eq (complete : Bool) {body : Bytes} (fits : body.length ≤ edge.maxFrame)
    (chunks : List Bytes) :
    edge.readChunks complete body chunks =
      if edge.maxFrame < (body ++ chunks.flatten).length then .error edge.tooLarge
      else if complete then .ok (body ++ chunks.flatten) else .error clientDisconnected := by
  induction chunks generalizing body with
  | nil => simp [readChunks, not_lt.mpr fits]
  | cons chunk rest ih =>
      rw [readChunks]
      by_cases passed : edge.maxFrame < (body ++ chunk).length
      · have longer : edge.maxFrame < (body ++ (chunk :: rest).flatten).length := by
          simp only [List.flatten_cons, List.length_append] at passed ⊢
          omega
        rw [if_pos passed, if_pos longer]
      · rw [if_neg passed, ih (not_lt.mp passed), List.flatten_cons, List.append_assoc]

end IngestEdge

/-- The client stays, and the length it declares, if any, is that of the body. -/
structure IngestRequest.Carries (request : IngestRequest) (raw : Bytes) : Prop where
  complete : request.complete = true
  body : request.chunks.flatten = raw
  declared : ∀ text ∈ request.contentLength, readInt text.toList = some (raw.length : ℤ)

section Agreement

variable {edge : IngestEdge} {session : DeviceSession} {arrival : Arrival} {raw : Bytes}
  {request : IngestRequest}

/-- The declaration is believed when it is too large, and otherwise says nothing. -/
theorem checkDeclaredLength_cases (carries : request.Carries raw) :
    edge.checkDeclaredLength request.contentLength = .ok () ∨
      edge.maxFrame < raw.length ∧
        edge.checkDeclaredLength request.contentLength = .error edge.tooLarge := by
  unfold IngestEdge.checkDeclaredLength
  cases declared : request.contentLength with
  | none => exact Or.inl rfl
  | some text =>
      dsimp only
      rw [carries.declared text declared]
      by_cases passed : edge.maxFrame < raw.length
      · exact Or.inr ⟨passed, if_pos (by exact_mod_cast passed)⟩
      · exact Or.inl (if_neg (by exact_mod_cast passed))

theorem readBoundedBody_eq (carries : request.Carries raw) :
    edge.readBoundedBody request =
      if edge.maxFrame < raw.length then .error edge.tooLarge else .ok raw := by
  have empty : ([] : Bytes).length ≤ edge.maxFrame := Nat.zero_le _
  have chunked := IngestEdge.readChunks_eq request.complete empty request.chunks
  rw [carries.body, carries.complete, if_pos rfl, List.nil_append] at chunked
  unfold IngestEdge.readBoundedBody
  rw [carries.complete]
  rcases @checkDeclaredLength_cases edge _ _ carries with passes | ⟨passed, refused⟩
  · rw [passes]
    exact chunked
  · rw [refused, if_pos passed]
    rfl

/-- What a posting and the handling of a frame have in common. -/
structure SameIntake (posted : Posting) (handled : Handling) : Prop where
  appended : posted.appended = handled.appended
  counts : posted.counts = handled.counts
  accepted : ∀ count, posted.response = .accepted count ↔
    0 < count ∧ handled.counts.accepted = count
  acknowledged : ∀ seq count, handled.sent = some (.ack seq count) →
    posted.response = .accepted count

/-- Nothing is taken on either transport. -/
theorem sameIntake_of_refused {posted : Posting} {handled : Handling}
    (appended : posted.appended = handled.appended) (counts : posted.counts = handled.counts)
    (refused : ∀ count, posted.response ≠ .accepted count)
    (none_taken : handled.counts.accepted = 0)
    (silent : ∀ seq count, handled.sent ≠ some (.ack seq count)) : SameIntake posted handled where
  appended := appended
  counts := counts
  accepted count := iff_of_false (refused count) (by rintro ⟨some_taken, same⟩; omega)
  acknowledged seq count sent := absurd sent (silent seq count)

theorem problem_ne_accepted {error : ProblemError} {errors : List ReadableError} (count : ℕ) :
    IngestResponse.problem error errors ≠ .accepted count := nofun

theorem crash_ne_accepted (count : ℕ) : IngestResponse.crash ≠ .accepted count := nofun

theorem error_ne_ack {code detail : String} {number : Option ℤ} (seq : ℤ) (count : ℕ) :
    some (SessionFrame.error code detail number) ≠ some (.ack seq count) := nofun

theorem throttle_ne_ack {retryAfterMs : ℕ} (seq : ℤ) (count : ℕ) :
    some (SessionFrame.throttle retryAfterMs) ≠ some (.ack seq count) := nofun

theorem silence_ne_ack (seq : ℤ) (count : ℕ) :
    (none : Option SessionFrame) ≠ some (.ack seq count) := nofun

theorem sameIntake_reports {seq : Option ℤ} {reports : List LocationReport}
    (nonempty : reports ≠ []) :
    SameIntake (edge.postReports arrival reports) (session.enqueue edge arrival seq reports) := by
  unfold IngestEdge.postReports DeviceSession.enqueue
  cases shut : arrival.throttledLater with
  | true =>
      rw [IngestEdge.submit_of_throttled nonempty]
      simp only [DeviceSession.notifyThrottled, Bool.true_eq_false, and_false, if_false]
      exact sameIntake_of_refused rfl rfl problem_ne_accepted rfl throttle_ne_ack
  | false =>
      rw [IngestEdge.submit_of_open nonempty]
      cases arrival.queue with
      | failed => exact sameIntake_of_refused rfl rfl problem_ne_accepted rfl error_ne_ack
      | executed =>
          refine ⟨rfl, rfl, ?_, ?_⟩
          · intro count
            have some_taken : 0 < reports.length := List.length_pos_iff.mpr nonempty
            change IngestResponse.accepted reports.length = .accepted count ↔
              0 < count ∧ reports.length = count
            rw [IngestResponse.accepted.injEq]
            omega
          · intro number count sent
            cases seq with
            | none => cases sent
            | some =>
                obtain ⟨-, rfl⟩ := SessionFrame.ack.inj (Option.some.inj sent)
                rfl

theorem sameIntake_payload (fits : ¬ edge.maxFrame < raw.length) :
    SameIntake (edge.postPayload arrival raw) (session.handle edge arrival raw) := by
  unfold IngestEdge.postPayload DeviceSession.handle
  rw [if_neg fits]
  cases parsed : parseIngestPayload edge.pydantic edge.maxBatch raw with
  | error error => cases error <;> exact sameIntake_of_refused rfl rfl problem_ne_accepted rfl error_ne_ack
  | ok frame =>
      obtain ⟨seq, reports⟩ := frame
      have isRead : edge.read raw = some (seq, reports) := by
        rw [IngestEdge.read, if_neg fits, parsed]
        rfl
      dsimp only
      cases checkReportWindow reports (utcNow arrival.checkedAt) (reportWindow edge.settings) with
      | ok => exact sameIntake_reports (IngestEdge.reports_ne_nil isRead)
      | error error =>
          cases error with
          | report => exact sameIntake_of_refused rfl rfl problem_ne_accepted rfl error_ne_ack
          | overflow => exact sameIntake_of_refused rfl rfl crash_ne_accepted rfl silence_ne_ack

end Agreement

/-- A payload has the same fate on both transports: however its body is cut into
chunks, the request appends the entries the frame appends, answers with the number
of reports the frame is acknowledged with, and counts the same reports; only an
oversized payload is counted on the socket alone. -/
theorem transports_agree (edge : IngestEdge) (session : DeviceSession) (arrival : Arrival)
    (request : IngestRequest) (raw : Bytes) (carries : request.Carries raw) :
    let posted := edge.ingestLocations arrival request
    let handled := session.receive edge arrival raw
    posted.appended = handled.appended ∧
      (∀ count, posted.response = .accepted count ↔
        0 < count ∧ handled.counts.accepted = count) ∧
      (∀ seq count, handled.sent = some (.ack seq count) → posted.response = .accepted count) ∧
      handled.counts =
        if arrival.throttled = false ∧ edge.maxFrame < raw.length then
          { posted.counts with validation := 1 }
        else posted.counts := by
  intro posted handled
  cases shut : arrival.throttled with
  | true =>
      have refused : posted = ⟨.problem edge.throttledProblem [], [], .zero⟩ := if_pos shut
      have shed : handled.appended = [] ∧ handled.counts = .zero ∧
          ∀ seq count, handled.sent ≠ some (.ack seq count) := by
        simp only [handled, DeviceSession.receive, shut, if_true, DeviceSession.notifyThrottled]
        split
        · exact ⟨trivial, trivial, silence_ne_ack⟩
        · exact ⟨trivial, trivial, throttle_ne_ack⟩
      have same : SameIntake posted handled := by
        rw [refused]
        exact sameIntake_of_refused shed.1.symm shed.2.1.symm problem_ne_accepted
          (by rw [shed.2.1]; rfl) shed.2.2
      exact ⟨same.appended, same.accepted, same.acknowledged, by simp [same.counts]⟩
  | false =>
      have open_ : ¬ arrival.throttled = true := by simp [shut]
      have looked : handled = session.handle edge arrival raw := if_neg open_
      have posting : posted = match edge.readBoundedBody request with
          | .error error => ⟨.problem error [], [], .zero⟩
          | .ok raw => edge.postPayload arrival raw := if_neg open_
      rw [readBoundedBody_eq carries] at posting
      by_cases passed : edge.maxFrame < raw.length
      · rw [if_pos passed] at posting
        rw [DeviceSession.handle, if_pos passed] at looked
        rw [posting, looked]
        refine ⟨rfl, fun count => iff_of_false (problem_ne_accepted count) ?_,
          fun seq count sent => absurd sent (error_ne_ack seq count), ?_⟩
        · rintro ⟨some_taken, same⟩
          exact absurd same (Nat.ne_of_lt some_taken)
        · rw [if_pos ⟨rfl, passed⟩]
          rfl
      · rw [if_neg passed] at posting
        have same : SameIntake posted handled := by
          rw [posting, looked]
          exact sameIntake_payload passed
        exact ⟨same.appended, same.accepted, same.acknowledged, by simp [passed, same.counts]⟩

/-- An edge that takes the report from the origin. -/
def epochEdge : IngestEdge where
  pydantic := epochPydantic
  orjson := dayOldOrjson
  readableErrors _ := []
  settings := ⟨1, 300⟩
  maxBatch := 1000
  shards := 8
  retryAfterMs := 1000

/-- Its payload on a socket, at the epoch. -/
def epochArrival : Arrival := { blankFrame false 0 with message := .bytes epochPayload }

/-- Its payload as a body in two chunks. -/
def epochRequest : IngestRequest where
  contentLength := some "58"
  chunks := [epochPayload.take 20, epochPayload.drop 20]
  complete := true

theorem transports_agree_epoch :
    epochRequest.Carries epochPayload ∧
      (epochEdge.ingestLocations epochArrival epochRequest).response = .accepted 1 := by
  have carries : epochRequest.Carries epochPayload :=
    ⟨rfl, by decide, by decide +kernel⟩
  have taken : (DeviceSession.fresh.receive epochEdge epochArrival epochPayload).counts.accepted =
      1 := by
    decide +kernel
  exact ⟨carries, ((transports_agree epochEdge .fresh epochArrival epochRequest epochPayload
    carries).2.1 1).mpr ⟨one_pos, taken⟩⟩

end GeoTrack
