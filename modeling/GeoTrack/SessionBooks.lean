import GeoTrack.IngestRoutes

/-!
# The books of a device session

Every report of a frame that could be read is counted once: as taken, as outside
the window or as refused for backpressure.  Only where the queue fails, or an
exception ends the session, is a report counted nowhere.  The streams hold the
entries of the reports counted as taken, and some of those that the queue failed
under, but no others.  An acknowledgement is never given for less than the whole
frame on the streams.
-/

namespace GeoTrack

open LabelledRuns

namespace IngestCounts

/-- The reports that were read and counted. -/
def counted (counts : IngestCounts) : ℕ := counts.accepted + counts.window + counts.backpressure

theorem counted_add (first second : IngestCounts) :
    (first.add second).counted = first.counted + second.counted := by
  simp only [counted, add]
  omega

end IngestCounts

namespace Exchange

/-- The entries of the reports of the frame, if it was looked at and could be read. -/
def offered (edge : IngestEdge) (exchange : Exchange) : List (ℕ × Bytes) :=
  if exchange.shed then []
  else
    match edge.read exchange.raw with
    | some frame => edge.entries exchange.arrival.submittedAt frame.2
    | none => []

/-- The queue failed under the frame. -/
def queueFailed (exchange : Exchange) : Bool :=
  match exchange.handling.sent with
  | some (.error "ingest_unavailable" _ _) => true
  | _ => false

/-- The entries of a frame whose reports were counted as taken. -/
def taken (edge : IngestEdge) (exchange : Exchange) : List (ℕ × Bytes) :=
  if exchange.handling.counts.accepted = 0 then [] else exchange.offered edge

/-- The entries of a frame that the queue failed under. -/
def lost (edge : IngestEdge) (exchange : Exchange) : List (ℕ × Bytes) :=
  if exchange.queueFailed then exchange.offered edge else []

/-- The entries of a frame under which an exception ended the session. -/
def abandoned (edge : IngestEdge) (exchange : Exchange) : List (ℕ × Bytes) :=
  if exchange.handling.after = .crash then exchange.offered edge else []

/-- The reports acknowledged to the device. -/
def acknowledged (exchange : Exchange) : ℕ :=
  match exchange.handling.sent with
  | some (.ack _ accepted) => accepted
  | _ => 0

end Exchange

/-- The counters after the frames of a history. -/
def countsOf (history : List Exchange) : IngestCounts :=
  history.foldl (fun counts exchange => counts.add exchange.handling.counts) .zero

/-- The entries on the streams from the frames of a history. -/
def appendedBy (history : List Exchange) : List (ℕ × Bytes) :=
  history.flatMap fun exchange => exchange.handling.appended

/-- Everything a run of a session leaves to account for. -/
structure Totals where
  offered : List (ℕ × Bytes)
  taken : List (ℕ × Bytes)
  lost : List (ℕ × Bytes)
  abandoned : List (ℕ × Bytes)
  acknowledged : ℕ
deriving DecidableEq

def totalsOf (edge : IngestEdge) (history : List Exchange) : Totals where
  offered := history.flatMap (Exchange.offered edge)
  taken := history.flatMap (Exchange.taken edge)
  lost := history.flatMap (Exchange.lost edge)
  abandoned := history.flatMap (Exchange.abandoned edge)
  acknowledged := (history.map Exchange.acknowledged).sum

section Books

variable {edge : IngestEdge} {history : List Exchange} {exchange : Exchange}

/-- The account of one frame. -/
structure Booked (edge : IngestEdge) (exchange : Exchange) : Prop where
  counted : (exchange.offered edge).length =
    exchange.handling.counts.counted + (exchange.lost edge).length +
      (exchange.abandoned edge).length
  taken : (exchange.taken edge).length = exchange.handling.counts.accepted
  acknowledged : exchange.acknowledged ≤ exchange.handling.counts.accepted
  kept : ∃ remains, remains.Sublist (exchange.lost edge) ∧
    exchange.handling.appended = exchange.taken edge ++ remains
  whole : ∀ seq accepted, exchange.handling.sent = some (.ack seq accepted) →
    ∃ reports, edge.read exchange.raw = some (some seq, reports) ∧ accepted = reports.length ∧
      exchange.handling.appended = edge.entries exchange.arrival.submittedAt reports

/-- A frame that is counted and leaves nothing on the streams. -/
theorem booked_of_counted
    (counted : (exchange.offered edge).length =
      exchange.handling.counts.counted + (exchange.abandoned edge).length)
    (untaken : exchange.handling.counts.accepted = 0) (unlost : exchange.lost edge = [])
    (nothing : exchange.handling.appended = [])
    (silent : ∀ seq accepted, exchange.handling.sent ≠ some (.ack seq accepted)) :
    Booked edge exchange := by
  have untakenEntries : exchange.taken edge = [] := if_pos untaken
  have unacknowledged : exchange.acknowledged = 0 := by
    unfold Exchange.acknowledged
    split
    case h_1 seq accepted sent => exact absurd sent (silent seq accepted)
    case h_2 => rfl
  refine ⟨?_, ?_, ?_, ⟨[], List.nil_sublist _, ?_⟩, fun seq accepted sent =>
    absurd sent (silent seq accepted)⟩
  · rw [counted, unlost, List.length_nil, Nat.add_zero]
  · rw [untakenEntries, untaken, List.length_nil]
  · rw [unacknowledged]
    exact Nat.zero_le _
  · rw [nothing, untakenEntries]
    rfl

/-- The entries of a frame that was read. -/
theorem offered_of_read {arrival : Arrival} {raw : Bytes} {seq : Option ℤ}
    {reports : List LocationReport} (looked : arrival.throttled = false)
    (isRead : edge.read raw = some (seq, reports)) (handling : Handling) :
    Exchange.offered edge ⟨arrival, raw, handling⟩ =
      edge.entries arrival.submittedAt reports := by
  simp [Exchange.offered, Exchange.shed, looked, isRead]

theorem booked_of_received {session : DeviceSession} {arrival : Arrival} {raw : Bytes}
    {handling : Handling} (received : Received edge session arrival raw handling) :
    Booked edge ⟨arrival, raw, handling⟩ := by
  cases received with
  | shedQuietly shut | shedAloud shut =>
      refine booked_of_counted ?_ rfl rfl rfl nofun
      simp [Exchange.offered, Exchange.abandoned, Exchange.shed, shut, IngestCounts.counted,
        IngestCounts.zero]
  | unusable looked unread =>
      have nothing : ∀ handling, Exchange.offered edge ⟨arrival, raw, handling⟩ = [] := by
        intro handling
        simp [Exchange.offered, Exchange.shed, looked, unread]
      refine booked_of_counted ?_ rfl ?_ rfl nofun
      · simp [nothing, Exchange.abandoned, IngestCounts.counted, IngestCounts.zero,
          DeviceSession.reject]
      · simp [Exchange.lost, nothing]
  | outOfWindow read isRead =>
      refine booked_of_counted ?_ rfl rfl rfl nofun
      rw [offered_of_read read isRead]
      simp [Exchange.abandoned, IngestCounts.counted, IngestCounts.zero]
  | crashed read isRead =>
      refine booked_of_counted ?_ rfl rfl rfl nofun
      simp [Exchange.abandoned, offered_of_read read isRead, IngestCounts.counted,
        IngestCounts.zero]
  | backpressured read isRead =>
      refine booked_of_counted ?_ rfl rfl rfl nofun
      rw [offered_of_read read isRead]
      simp [Exchange.abandoned, IngestCounts.counted, IngestCounts.zero]
  | @unavailable seq reports read isRead effective =>
      have lost : Exchange.lost edge ⟨arrival, raw, ⟨session,
          some (.error "ingest_unavailable" "The ingestion queue is not reachable." seq),
          landed effective (edge.entries arrival.submittedAt reports), .zero, .goOn⟩⟩ =
            edge.entries arrival.submittedAt reports :=
        offered_of_read read isRead _
      refine ⟨?_, rfl, le_rfl, ⟨_, ?_, rfl⟩, nofun⟩
      · rw [lost, offered_of_read read isRead]
        simp [Exchange.abandoned, IngestCounts.counted, IngestCounts.zero]
      · rw [lost]
        exact landed_sublist ..
  | @accepted seq reports read isRead =>
      have nonempty : reports.length ≠ 0 := by
        rw [Ne, List.length_eq_zero_iff]
        exact IngestEdge.reports_ne_nil isRead
      have works : ∀ entries counts, Exchange.lost edge ⟨arrival, raw,
          ⟨session, seq.map fun number => .ack number reports.length, entries, counts, .goOn⟩⟩ =
            [] := by
        intro entries counts
        cases seq <;> rfl
      refine ⟨?_, ?_, ?_, ⟨[], List.nil_sublist _, ?_⟩, ?_⟩
      · rw [works, offered_of_read read isRead]
        simp [Exchange.abandoned, IngestCounts.counted, IngestCounts.zero]
      · rw [Exchange.taken, if_neg nonempty, offered_of_read read isRead]
        exact IngestEdge.length_entries ..
      · cases seq <;> simp [Exchange.acknowledged]
      · rw [Exchange.taken, if_neg nonempty, offered_of_read read isRead, List.append_nil]
      · intro number count sent
        cases seq with
        | none => cases sent
        | some =>
            obtain ⟨rfl, rfl⟩ := SessionFrame.ack.inj (Option.some.inj sent)
            exact ⟨reports, isRead, rfl, rfl⟩

theorem countsOf_snoc :
    countsOf (history ++ [exchange]) = (countsOf history).add exchange.handling.counts :=
  List.foldl_append

theorem appendedBy_snoc :
    appendedBy (history ++ [exchange]) = appendedBy history ++ exchange.handling.appended := by
  simp [appendedBy]

theorem totalsOf_snoc :
    totalsOf edge (history ++ [exchange]) =
      ⟨(totalsOf edge history).offered ++ exchange.offered edge,
        (totalsOf edge history).taken ++ exchange.taken edge,
        (totalsOf edge history).lost ++ exchange.lost edge,
        (totalsOf edge history).abandoned ++ exchange.abandoned edge,
        (totalsOf edge history).acknowledged + exchange.acknowledged⟩ := by
  simp [totalsOf]

/-- The account of a session. -/
structure Balanced (edge : IngestEdge) (history : List Exchange) : Prop where
  counted : (totalsOf edge history).offered.length = (countsOf history).counted +
    (totalsOf edge history).lost.length + (totalsOf edge history).abandoned.length
  taken : (totalsOf edge history).taken.length = (countsOf history).accepted
  acknowledged : (totalsOf edge history).acknowledged ≤ (countsOf history).accepted
  kept : ∃ remains, remains.Sublist (totalsOf edge history).lost ∧
    (appendedBy history).Perm ((totalsOf edge history).taken ++ remains)
  whole : ∀ exchange ∈ history, ∀ seq accepted,
    exchange.handling.sent = some (.ack seq accepted) →
    ∃ reports, edge.read exchange.raw = some (some seq, reports) ∧ accepted = reports.length ∧
      exchange.handling.appended = edge.entries exchange.arrival.submittedAt reports

theorem Balanced.snoc (balanced : Balanced edge history) (booked : Booked edge exchange) :
    Balanced edge (history ++ [exchange]) where
  counted := by
    rw [totalsOf_snoc, countsOf_snoc, IngestCounts.counted_add]
    have before := balanced.counted
    have now := booked.counted
    simp only [List.length_append]
    omega
  taken := by
    rw [totalsOf_snoc, countsOf_snoc, List.length_append, balanced.taken, booked.taken]
    rfl
  acknowledged := by
    rw [totalsOf_snoc, countsOf_snoc]
    exact Nat.add_le_add balanced.acknowledged booked.acknowledged
  kept := by
    obtain ⟨remains, fromLost, before⟩ := balanced.kept
    obtain ⟨more, alsoLost, now⟩ := booked.kept
    rw [totalsOf_snoc, appendedBy_snoc, now]
    refine ⟨remains ++ more, fromLost.append alsoLost, ?_⟩
    have swapped : ((totalsOf edge history).taken ++ remains ++ (exchange.taken edge ++ more)).Perm
        ((totalsOf edge history).taken ++ exchange.taken edge ++ (remains ++ more)) := by
      rw [List.append_assoc, List.append_assoc]
      refine List.Perm.append_left _ ?_
      rw [← List.append_assoc, ← List.append_assoc]
      exact List.perm_append_comm.append_right more
    exact (before.append_right _).trans swapped
  whole := by
    intro other listed
    rcases List.mem_append.mp listed with old | new
    · exact balanced.whole other old
    · rw [List.mem_singleton.mp new]
      exact booked.whole

end Books

/-- In every run of a session each report it could read is counted once, as taken,
as outside the window or as refused for backpressure, or it was lost with the queue
or abandoned by an exception; the streams hold the entries of the reports counted as
taken, and beyond these only entries that were lost with the queue; and every
acknowledged frame is on the streams whole. -/
theorem session_balanced (edge : IngestEdge) (throttled : Bool) (now : ℚ)
    {arrivals : List Arrival} {line : DeviceLine}
    (run : Run (DeviceLine.step edge) DeviceLine.Forward (.opened edge throttled now) arrivals
      line) :
    Balanced edge line.history := by
  refine @Run.invariant _ _ _ _ _ (fun line => Balanced edge line.history) _ _ run ?_ ?_
  · have nothing : (DeviceLine.opened edge throttled now).history = [] := by
      cases throttled <;> rfl
    rw [nothing]
    exact ⟨rfl, rfl, le_rfl, ⟨[], List.nil_sublist _, List.Perm.nil⟩, by simp⟩
  · intro before arrival after balanced _ stepTo
    unfold DeviceLine.step at stepTo
    split at stepTo
    case isFalse => cases stepTo
    case isTrue =>
        split at stepTo
        case h_1 =>
            obtain rfl := Option.some.inj stepTo
            exact balanced
        case h_2 raw _ =>
            obtain rfl := Option.some.inj stepTo
            exact balanced.snoc (booked_of_received received_receive)

/-- The report of `epochPayload` from device `b`. -/
def otherPayload : Bytes := epochPayload.set 14 98

def otherReport : LocationReport := { epochReport with deviceId := "b", named := by decide }

/-- Both reports in an envelope. -/
def pairPayload : Bytes :=
  -- {"seq":7,"items":[ , ]}
  [123, 34, 115, 101, 113, 34, 58, 55, 44, 34, 105, 116, 101, 109, 115, 34, 58, 91] ++
    epochPayload ++ [44] ++ otherPayload ++ [93, 125]

/-- The bytes of `["a",0.0,0.0,0,0]`. -/
def epochEntry : Bytes :=
  [91, 34, 97, 34, 44, 48, 46, 48, 44, 48, 46, 48, 44, 48, 44, 48, 93]

/-- The bytes of `["b",0.0,0.0,0,0]`. -/
def otherEntry : Bytes := epochEntry.set 2 98

def pairEdge : IngestEdge :=
  { epochEdge with
    pydantic :=
      { epochPydantic with
        envelope := fun _ raw =>
          if raw = pairPayload then .ok (some 7, [epochReport, otherReport])
          else .error ⟨[⟨"missing", none⟩]⟩ }
    orjson :=
      { Orjson.knowing epochEntry (.arr (epochReport.record 0).items) with
        dumps := fun
          | .arr (.str "b" :: _) => otherEntry
          | _ => epochEntry } }

/-- Both reports in one frame, with the queue as it is then. -/
def pairArrival (queue : QueueReply) : Arrival :=
  { blankFrame false 0 with message := .bytes pairPayload, queue := queue }

/-- The queue takes one frame and fails under the next, whose second entry it has
taken; a frame comes too late and another meets a shut gate. -/
def pairArrivals : List Arrival :=
  [pairArrival .executed, pairArrival (.failed fun index => index = 1),
    { pairArrival .executed with checkedAt := dayAndMillisecondLater },
    { pairArrival .executed with throttledLater := true }]

/-- Two reports are acknowledged, and one more is on the streams uncounted. -/
theorem session_balanced_pair :
    ∃ line, Run (DeviceLine.step pairEdge) DeviceLine.Forward (.opened pairEdge false 0)
        pairArrivals line ∧
      (countsOf line.history = ⟨2, 0, 2, 2⟩ ∧
        (appendedBy line.history).map Prod.snd = [epochEntry, otherEntry, otherEntry] ∧
        (totalsOf pairEdge line.history).acknowledged = 2) ∧
      Balanced pairEdge line.history := by
  obtain ⟨line, executed, totals⟩ := @LabelledRuns.exists_of_exec _ _ (DeviceLine.step pairEdge)
    DeviceLine.Forward (.opened pairEdge false 0) _
    (fun line => countsOf line.history = ⟨2, 0, 2, 2⟩ ∧
      (appendedBy line.history).map Prod.snd = [epochEntry, otherEntry, otherEntry] ∧
      (totalsOf pairEdge line.history).acknowledged = 2) _ pairArrivals (by decide +kernel)
  have run := run_of_exec executed
  exact ⟨line, run, totals, session_balanced pairEdge false 0 run⟩

end GeoTrack
