import GeoTrack.DeviceSession

/-!
# What a device hears

A dropped frame is never silent: the device has been asked to hold off within the
window that is still running, and is asked again only when that window is over.
The socket is closed at the first unusable frame that is one too many for the
window behind it.

Both follow from one inversion lemma: what the handling of a frame can be.
-/

namespace GeoTrack

open LabelledRuns SlidingWindow

namespace IngestEdge

variable {edge : IngestEdge} {raw : Bytes}

/-- The shard and the entry of each report. -/
def entries (edge : IngestEdge) (time : ClockTime) (reports : List LocationReport) :
    List (ℕ × Bytes) :=
  reports.map fun report =>
    (shardFor report.deviceId edge.shards, encodeRecord edge.orjson (report.record (nowMs time.ns)))

@[simp]
theorem length_entries (time : ClockTime) (reports : List LocationReport) :
    (edge.entries time reports).length = reports.length :=
  List.length_map _

/-- A payload without reports is refused. -/
theorem reports_ne_nil {seq : Option ℤ} {reports : List LocationReport}
    (isRead : edge.read raw = some (seq, reports)) : reports ≠ [] := by
  unfold read at isRead
  split at isRead
  case isTrue => cases isRead
  case isFalse =>
      unfold parseIngestPayload at isRead
      dsimp only at isRead
      split at isRead
      · cases isRead
      · split at isRead
        case h_1 => cases isRead
        case h_2 =>
            split at isRead
            case isTrue => cases isRead
            case isFalse nonempty =>
                obtain ⟨-, rfl⟩ := Prod.mk.inj (Option.some.inj isRead)
                exact nonempty

variable {time : ClockTime} {queue : QueueReply} {reports : List LocationReport}

theorem submit_of_throttled (nonempty : reports ≠ []) :
    edge.submit true time queue reports =
      ⟨.error (.backpressure ⟨edge.retryAfterMs⟩), [],
        { IngestCounts.zero with backpressure := reports.length }⟩ := by
  simp [submit, GeoTrack.submit, nonempty]

theorem submit_of_open (nonempty : reports ≠ []) :
    edge.submit false time queue reports =
      match queue with
      | .executed => ⟨.ok reports.length, edge.entries time reports,
          { IngestCounts.zero with accepted := reports.length }⟩
      | .failed effective =>
          ⟨.error .redis, landed effective (edge.entries time reports), .zero⟩ := by
  simp only [submit, GeoTrack.submit, nonempty, if_false, Bool.false_eq_true]
  cases queue <;> rfl

end IngestEdge

/-- What becomes of a frame, one case for each way through the handler. -/
inductive Received (edge : IngestEdge) (session : DeviceSession) (arrival : Arrival) (raw : Bytes) :
    Handling → Prop where
  | shedQuietly (shut : arrival.throttled = true) (running : arrival.now < session.quietUntil) :
      Received edge session arrival raw ⟨session, none, [], .zero, .goOn⟩
  | shedAloud (shut : arrival.throttled = true) (over_ : session.quietUntil ≤ arrival.now) :
      Received edge session arrival raw
        ⟨{ session with
            quietUntil := DeviceSession.quietDeadline edge.retryAfterMs arrival.now },
          some (.throttle edge.retryAfterMs), [], .zero, .goOn⟩
  | unusable (read : arrival.throttled = false) (unread : edge.read raw = none)
      (code detail : String) (reports : ℕ) :
      Received edge session arrival raw (session.reject arrival.now code detail reports)
  | outOfWindow {seq : Option ℤ} {reports : List LocationReport} (read : arrival.throttled = false)
      (isRead : edge.read raw = some (seq, reports)) (detail : String) :
      Received edge session arrival raw
        ⟨session, some (.error "out_of_window" detail seq), [],
          { IngestCounts.zero with window := reports.length }, .goOn⟩
  | crashed {seq : Option ℤ} {reports : List LocationReport} (read : arrival.throttled = false)
      (isRead : edge.read raw = some (seq, reports)) :
      Received edge session arrival raw ⟨session, none, [], .zero, .crash⟩
  | backpressured {seq : Option ℤ} {reports : List LocationReport}
      (read : arrival.throttled = false) (isRead : edge.read raw = some (seq, reports))
      (shut : arrival.throttledLater = true) :
      Received edge session arrival raw
        ⟨{ session with
            quietUntil := DeviceSession.quietDeadline edge.retryAfterMs arrival.now },
          some (.throttle edge.retryAfterMs), [],
          { IngestCounts.zero with backpressure := reports.length }, .goOn⟩
  | unavailable {seq : Option ℤ} {reports : List LocationReport} (read : arrival.throttled = false)
      (isRead : edge.read raw = some (seq, reports)) (effective : ℕ → Bool)
      (failed : arrival.queue = .failed effective) :
      Received edge session arrival raw
        ⟨session,
          some (.error "ingest_unavailable" "The ingestion queue is not reachable." seq),
          landed effective (edge.entries arrival.submittedAt reports), .zero, .goOn⟩
  | accepted {seq : Option ℤ} {reports : List LocationReport} (read : arrival.throttled = false)
      (isRead : edge.read raw = some (seq, reports))
      (timely : checkReportWindow reports (utcNow arrival.checkedAt)
        (reportWindow edge.settings) = .ok ())
      (executed : arrival.queue = .executed) :
      Received edge session arrival raw
        ⟨session, seq.map fun number => .ack number reports.length,
          edge.entries arrival.submittedAt reports,
          { IngestCounts.zero with accepted := reports.length }, .goOn⟩

section Inversion

variable {edge : IngestEdge} {session : DeviceSession} {arrival : Arrival} {raw : Bytes}

theorem received_enqueue {seq : Option ℤ} {reports : List LocationReport}
    (read : arrival.throttled = false) (isRead : edge.read raw = some (seq, reports))
    (timely : checkReportWindow reports (utcNow arrival.checkedAt)
      (reportWindow edge.settings) = .ok ()) :
    Received edge session arrival raw (session.enqueue edge arrival seq reports) := by
  have nonempty := IngestEdge.reports_ne_nil isRead
  unfold DeviceSession.enqueue
  cases shut : arrival.throttledLater with
  | true =>
      rw [IngestEdge.submit_of_throttled nonempty]
      simp only [DeviceSession.notifyThrottled, Bool.true_eq_false, and_false, if_false]
      exact .backpressured read isRead shut
  | false =>
      rw [IngestEdge.submit_of_open nonempty]
      cases queue : arrival.queue with
      | executed => exact .accepted read isRead timely queue
      | failed effective => exact .unavailable read isRead effective queue

theorem received_handle (read : arrival.throttled = false) :
    Received edge session arrival raw (session.handle edge arrival raw) := by
  unfold DeviceSession.handle
  by_cases tooLong : edge.maxFrame < raw.length
  · rw [if_pos tooLong]
    exact .unusable read (if_pos tooLong) _ _ _
  rw [if_neg tooLong]
  cases parsed : parseIngestPayload edge.pydantic edge.maxBatch raw with
  | error error =>
      have unread : edge.read raw = none := by
        rw [IngestEdge.read, if_neg tooLong, parsed]
        rfl
      cases error <;> exact .unusable read unread _ _ _
  | ok frame =>
      obtain ⟨seq, reports⟩ := frame
      have isRead : edge.read raw = some (seq, reports) := by
        rw [IngestEdge.read, if_neg tooLong, parsed]
        rfl
      dsimp only
      cases checked : checkReportWindow reports (utcNow arrival.checkedAt)
          (reportWindow edge.settings) with
      | ok => exact received_enqueue read isRead checked
      | error error =>
          cases error with
          | report index reason => exact .outOfWindow read isRead _
          | overflow => exact .crashed read isRead

theorem received_receive :
    Received edge session arrival raw (session.receive edge arrival raw) := by
  unfold DeviceSession.receive
  cases shut : arrival.throttled with
  | false => exact received_handle shut
  | true =>
      unfold DeviceSession.notifyThrottled
      by_cases running : arrival.now < session.quietUntil
      · simp only [running, and_self, if_true]
        exact .shedQuietly shut running
      · simp only [running, false_and, if_false, if_true]
        exact .shedAloud shut (not_lt.mp running)

end Inversion

/-! ## The budget -/

namespace MalformedBudget

/-- A bad frame is forgotten when the rounded time since it exceeds the window. -/
def expiry (windowS : ℚ) : Expiry ℚ where
  expired now event := windowS < Binary64.round (now - event)
  older earlier tooOld := by
    refine decide_eq_true (lt_of_lt_of_le (of_decide_eq_true tooOld) ?_)
    exact Binary64.round_le_round (sub_le_sub_left earlier _)
  later forward tooOld := by
    refine decide_eq_true (lt_of_lt_of_le (of_decide_eq_true tooOld) ?_)
    exact Binary64.round_le_round (sub_le_sub_right forward _)

theorem record_eq (now : ℚ) (budget : MalformedBudget) :
    budget.record now =
      let events := (expiry budget.windowS).prune now (budget.events ++ [now])
      (decide (events.length ≤ budget.limit), { budget with events := events }) :=
  rfl

/-- The budget after bad frames at these moments. -/
def Holds (budget : MalformedBudget) (clock : ℚ) (moments : List ℚ) : Prop :=
  Ordered moments ∧ (∀ moment ∈ moments, moment ≤ clock) ∧
    ∃ last ≤ clock, budget = ⟨malformedLimit, malformedWindowS,
      (expiry malformedWindowS).recent last moments⟩

variable {budget : MalformedBudget} {clock now : ℚ} {moments : List ℚ}

theorem Holds.mono (holds : budget.Holds clock moments) (forward : clock ≤ now) :
    budget.Holds now moments := by
  obtain ⟨ordered, past, last, early, isBudget⟩ := holds
  exact ⟨ordered, fun moment listed => (past moment listed).trans forward, last,
    early.trans forward, isBudget⟩

theorem Holds.events_record (holds : budget.Holds now moments) :
    (budget.record now).2 = ⟨malformedLimit, malformedWindowS,
      (expiry malformedWindowS).recent now (moments ++ [now])⟩ := by
  obtain ⟨ordered, past, last, early, rfl⟩ := holds
  rw [record_eq]
  simp only [Expiry.prune_snoc ordered past early]

theorem Holds.record (holds : budget.Holds now moments) :
    (budget.record now).2.Holds now (moments ++ [now]) := by
  refine ⟨Expiry.ordered_snoc holds.1 holds.2.1, ?_, now, le_rfl, holds.events_record⟩
  intro moment listed
  rcases List.mem_append.mp listed with old | new
  · exact holds.2.1 moment old
  · exact (List.mem_singleton.mp new).le

/-- The budget is spent when more bad frames than allowed are recent. -/
theorem Holds.tolerated_iff (holds : budget.Holds now moments) :
    (budget.record now).1 = true ↔
      ((expiry malformedWindowS).recent now (moments ++ [now])).length ≤ malformedLimit := by
  obtain ⟨ordered, past, last, early, rfl⟩ := holds
  rw [record_eq]
  simp only [Expiry.prune_snoc ordered past early, decide_eq_true_eq]

end MalformedBudget

/-- The moments of the unusable frames. -/
def unusableMoments (edge : IngestEdge) (history : List Exchange) : List ℚ :=
  (history.filter fun exchange => exchange.Unusable edge).map Exchange.now

/-- One bad frame too many at a moment. -/
def BudgetSpent (edge : IngestEdge) (history : List Exchange) (now : ℚ) : Prop :=
  MalformedBudget.malformedLimit <
    ((unusableMoments edge history).filter fun moment =>
      Binary64.round (now - moment) ≤ MalformedBudget.malformedWindowS).length

section Budget

variable {edge : IngestEdge} {history : List Exchange} {exchange : Exchange}

theorem unusableMoments_snoc :
    unusableMoments edge (history ++ [exchange]) =
      unusableMoments edge history ++ if exchange.Unusable edge then [exchange.now] else [] := by
  rw [unusableMoments, List.filter_append, List.map_append]
  by_cases unusable : exchange.Unusable edge <;> simp [unusable, unusableMoments]

theorem recent_malformed_eq_filter (now : ℚ) (moments : List ℚ) :
    (MalformedBudget.expiry MalformedBudget.malformedWindowS).recent now moments =
      moments.filter fun moment =>
        Binary64.round (now - moment) ≤ MalformedBudget.malformedWindowS := by
  apply List.filter_congr
  intro moment _
  rw [MalformedBudget.expiry, ← decide_not]
  exact decide_eq_decide.mpr not_lt

/-- A frame changes the budget only when nothing can be read from it, and the
socket is closed when that is one too many. -/
structure Budgeted (edge : IngestEdge) (session : DeviceSession) (exchange : Exchange) : Prop where
  budget : exchange.handling.session.budget =
    if exchange.Unusable edge then (session.budget.record exchange.now).2 else session.budget
  hangUp : exchange.handling.after = .hangUp ↔
    exchange.Unusable edge ∧ (session.budget.record exchange.now).1 = false
  answered : exchange.Unusable edge → exchange.handling.sent.isSome = true

theorem budgetSpent_iff (history : List Exchange) (now : ℚ) :
    BudgetSpent edge history now ↔ MalformedBudget.malformedLimit <
      ((MalformedBudget.expiry MalformedBudget.malformedWindowS).recent now
        (unusableMoments edge history)).length := by
  rw [recent_malformed_eq_filter]
  rfl

/-- The socket is closed for its last frame, or not at all. -/
structure BudgetSound (edge : IngestEdge) (line : DeviceLine) : Prop where
  holds : line.session.budget.Holds line.clock (unusableMoments edge line.history)
  hungUp : line.stage = .hungUp ↔ ∃ last ∈ line.history.getLast?, last.Unusable edge ∧
    last.arrival.delivered = true ∧ BudgetSpent edge line.history last.now

theorem BudgetSound.after {line : DeviceLine} (sound : BudgetSound edge line)
    (budgeted : Budgeted edge line.session exchange) (forward : line.clock ≤ exchange.now) :
    BudgetSound edge (line.after exchange) := by
  have holds := sound.holds.mono forward
  constructor
  · simp only [DeviceLine.after]
    rw [budgeted.budget, unusableMoments_snoc]
    by_cases unusable : exchange.Unusable edge
    · rw [if_pos unusable, if_pos unusable]
      exact holds.record
    · rw [if_neg unusable, if_neg unusable, List.append_nil]
      exact holds
  · simp only [DeviceLine.after, List.getLast?_concat, Option.mem_def, Option.some.injEq,
      exists_eq_left', DeviceLine.stageAfter]
    by_cases unusable : exchange.Unusable edge
    · have spent : BudgetSpent edge (line.history ++ [exchange]) exchange.now ↔
          (line.session.budget.record exchange.now).1 = false := by
        rw [budgetSpent_iff, unusableMoments_snoc, if_pos unusable, ← not_le,
          ← holds.tolerated_iff, Bool.not_eq_true]
      rw [spent]
      have hangUp := budgeted.hangUp
      simp only [unusable, true_and] at hangUp ⊢
      rw [← hangUp, budgeted.answered unusable]
      cases exchange.arrival.delivered <;> cases exchange.handling.after <;> simp
    · have stays : exchange.handling.after ≠ .hangUp := fun hangs =>
        unusable (budgeted.hangUp.mp hangs).1
      simp only [unusable, false_and, iff_false]
      split
      · nofun
      · cases after : exchange.handling.after <;> simp_all

end Budget

/-- An edge whose validators refuse everything. -/
def strictEdge : IngestEdge where
  pydantic := ⟨fun _ _ => .error ⟨[]⟩, fun _ _ => .error ⟨[]⟩, fun _ => .error ⟨[]⟩⟩
  orjson := ⟨fun _ => .error "unexpected end of data", fun _ => []⟩
  readableErrors _ := []
  settings := ⟨7, 300⟩
  maxBatch := 1000
  shards := 8
  retryAfterMs := 1000

/-- A message without content at a moment, with the gate open or shut. -/
def blankFrame (throttled : Bool) (now : ℚ) : Arrival where
  message := .empty
  throttled := throttled
  throttledLater := throttled
  now := now
  checkedAt := ⟨0, by decide, by decide⟩
  submittedAt := ⟨0, by decide, by decide⟩
  queue := .executed
  delivered := true

/-- The moments at which a device was asked to hold off. -/
def noticesIn (greeted : List ℚ) (history : List Exchange) : List ℚ :=
  greeted ++ (history.filter Exchange.notified).map Exchange.now

section Notices

variable {edge : IngestEdge} {session : DeviceSession} {exchange : Exchange}
  {greeted : List ℚ} {history : List Exchange}

theorem noticesIn_snoc :
    noticesIn greeted (history ++ [exchange]) =
      noticesIn greeted history ++ if exchange.notified then [exchange.now] else [] := by
  rw [noticesIn, List.filter_append, List.map_append, ← List.append_assoc]
  cases notified : exchange.notified <;> simp [notified, noticesIn]

theorem quietDeadline_mono {retryAfterMs : ℕ} {first second : ℚ} (ordered : first ≤ second) :
    DeviceSession.quietDeadline retryAfterMs first ≤
      DeviceSession.quietDeadline retryAfterMs second :=
  Binary64.round_le_round (add_le_add_left ordered _)

/-- What a frame does to the window of a session: a notice starts a new one, and a
dropped frame brings a notice exactly when the window is over. -/
structure Asked (edge : IngestEdge) (session : DeviceSession) (exchange : Exchange) : Prop where
  quietUntil : exchange.handling.session.quietUntil =
    if exchange.notified then DeviceSession.quietDeadline edge.retryAfterMs exchange.now
    else session.quietUntil
  shed : exchange.shed = true →
    (exchange.notified = true ↔ session.quietUntil ≤ exchange.now)

theorem asked_of_received {arrival : Arrival} {raw : Bytes} {handling : Handling}
    (received : Received edge session arrival raw handling) :
    Asked edge session ⟨arrival, raw, handling⟩ := by
  have looked (read : arrival.throttled = false) {handling : Handling}
      (shed : Exchange.shed ⟨arrival, raw, handling⟩ = true) (claim : Prop) : claim := by
    cases read.symm.trans shed
  cases received with
  | shedQuietly _ running => exact ⟨rfl, fun _ => iff_of_false nofun (not_le.mpr running)⟩
  | shedAloud _ over_ => exact ⟨rfl, fun _ => iff_of_true rfl over_⟩
  | unusable read | outOfWindow read | crashed read | backpressured read | unavailable read =>
      exact ⟨rfl, fun shed => looked read shed _⟩
  | @accepted seq reports read => cases seq <;> exact ⟨rfl, fun shed => looked read shed _⟩

/-- The window that is running is that of the latest notice. -/
structure PacedLine (edge : IngestEdge) (line : DeviceLine) : Prop where
  nonneg : 0 ≤ line.clock
  past : ∀ notice ∈ noticesIn line.greeted line.history, notice ≤ line.clock
  window : line.session.quietUntil = 0 ∨
    ∃ notice ∈ noticesIn line.greeted line.history,
      line.session.quietUntil = DeviceSession.quietDeadline edge.retryAfterMs notice
  latest : ∀ notice ∈ noticesIn line.greeted line.history,
    DeviceSession.quietDeadline edge.retryAfterMs notice ≤ line.session.quietUntil
  heard : ∀ exchange ∈ line.history, exchange.shed = true →
    ∃ notice ∈ noticesIn line.greeted line.history, notice ≤ exchange.now ∧
      (notice = exchange.now ∨
        exchange.now < DeviceSession.quietDeadline edge.retryAfterMs notice)
  spaced : ∀ before exchange later, line.history = before ++ exchange :: later →
    exchange.shed = true → exchange.notified = true → ∀ notice ∈ noticesIn line.greeted before,
      DeviceSession.quietDeadline edge.retryAfterMs notice ≤ exchange.now

theorem paced_opened (edge : IngestEdge) (throttled : Bool) {now : ℚ} (nonneg : 0 ≤ now) :
    PacedLine edge (.opened edge throttled now) := by
  have silent : PacedLine edge ⟨.fresh, .reading, now, [], []⟩ :=
    ⟨nonneg, by simp [noticesIn], Or.inl rfl, by simp [noticesIn], by simp, by simp⟩
  cases throttled with
  | false => exact silent
  | true =>
      have due : ¬ (now < DeviceSession.fresh.quietUntil ∧ false = false) := by
        rintro ⟨early, -⟩
        exact absurd early (not_lt.mpr nonneg)
      rw [DeviceLine.opened, if_pos rfl, DeviceSession.notifyThrottled, if_neg due]
      exact ⟨nonneg, by simp [noticesIn], Or.inr ⟨now, by simp [noticesIn], rfl⟩,
        by simp [noticesIn], by simp, by simp⟩

variable {line : DeviceLine}

theorem PacedLine.heard_after (paced : PacedLine edge line)
    (asked : Asked edge line.session exchange)
    (forward : line.clock ≤ exchange.now) (shed : exchange.shed = true) :
    ∃ notice ∈ noticesIn line.greeted (line.history ++ [exchange]), notice ≤ exchange.now ∧
      (notice = exchange.now ∨
        exchange.now < DeviceSession.quietDeadline edge.retryAfterMs notice) := by
  rw [noticesIn_snoc]
  cases notified : exchange.notified with
  | true => exact ⟨exchange.now, by simp, le_rfl, Or.inl rfl⟩
  | false =>
      have running : exchange.now < line.session.quietUntil := by
        rw [← not_le, ← asked.shed shed, notified]
        exact Bool.false_ne_true
      rcases paced.window with none_yet | ⟨notice, listed, same⟩
      · rw [none_yet] at running
        exact absurd running (not_lt.mpr (paced.nonneg.trans forward))
      · exact ⟨notice, by simpa using listed, (paced.past notice listed).trans forward,
          Or.inr (same ▸ running)⟩

theorem PacedLine.after (paced : PacedLine edge line) (asked : Asked edge line.session exchange)
    (forward : line.clock ≤ exchange.now) : PacedLine edge (line.after exchange) where
  nonneg := paced.nonneg.trans forward
  past := by
    intro notice listed
    simp only [DeviceLine.after, noticesIn_snoc, List.mem_append] at listed
    rcases listed with old | new
    · exact (paced.past notice old).trans forward
    · cases notified : exchange.notified <;> simp [notified] at new
      exact new.le
  window := by
    simp only [DeviceLine.after, noticesIn_snoc, asked.quietUntil]
    cases exchange.notified with
    | true => exact Or.inr ⟨exchange.now, by simp, rfl⟩
    | false => simpa using paced.window
  latest := by
    intro notice listed
    simp only [DeviceLine.after, noticesIn_snoc, List.mem_append, asked.quietUntil] at listed ⊢
    cases notified : exchange.notified with
    | false =>
        simp only [notified, Bool.false_eq_true, if_false, List.not_mem_nil, or_false] at listed
        exact paced.latest notice listed
    | true =>
        simp only [notified, if_true, List.mem_singleton] at listed
        rcases listed with old | rfl
        · exact quietDeadline_mono ((paced.past notice old).trans forward)
        · exact le_rfl
  heard := by
    intro other listed shed
    simp only [DeviceLine.after, List.mem_append, List.mem_singleton] at listed
    rcases listed with old | rfl
    · obtain ⟨notice, among, early, close⟩ := paced.heard other old shed
      refine ⟨notice, ?_, early, close⟩
      simp only [DeviceLine.after, noticesIn_snoc, List.mem_append]
      exact Or.inl among
    · exact paced.heard_after asked forward shed
  spaced := by
    intro before other later split shed notified notice among
    rcases List.eq_nil_or_concat later with rfl | ⟨middle, final, rfl⟩
    · obtain ⟨rfl, same⟩ := List.append_inj' split rfl
      obtain rfl := List.cons_eq_cons.mp same |>.1
      exact (paced.latest notice among).trans ((asked.shed shed).mp notified)
    · rw [List.concat_eq_append, ← List.cons_append, ← List.append_assoc] at split
      obtain ⟨shorter, -⟩ := List.append_inj' split rfl
      exact paced.spaced before other middle shorter shed notified notice among

end Notices

/-- Whenever a frame is dropped because the gate is shut, the device has been asked
to hold off, at that moment or within the window of that request; and a dropped
frame brings such a request only when the windows of all earlier ones are over. -/
theorem shed_frames_announced (edge : IngestEdge) (throttled : Bool) (now : ℚ) (nonneg : 0 ≤ now)
    {arrivals : List Arrival} {line : DeviceLine}
    (run : Run (DeviceLine.step edge) DeviceLine.Forward (.opened edge throttled now) arrivals
      line) :
    (∀ exchange ∈ line.history, exchange.shed = true →
      ∃ notice ∈ noticesIn line.greeted line.history, notice ≤ exchange.now ∧
        (notice = exchange.now ∨
          exchange.now < DeviceSession.quietDeadline edge.retryAfterMs notice)) ∧
    ∀ before exchange later, line.history = before ++ exchange :: later →
      exchange.shed = true → exchange.notified = true →
      ∀ notice ∈ noticesIn line.greeted before,
        DeviceSession.quietDeadline edge.retryAfterMs notice ≤ exchange.now := by
  have paced : PacedLine edge line := by
    refine run.invariant (paced_opened edge throttled nonneg) ?_
    intro before arrival after paced forward stepTo
    unfold DeviceLine.step at stepTo
    split at stepTo
    case isFalse => cases stepTo
    case isTrue =>
        split at stepTo
        case h_1 =>
            obtain rfl := Option.some.inj stepTo
            exact ⟨paced.nonneg, paced.past, paced.window, paced.latest, paced.heard, paced.spaced⟩
        case h_2 raw _ =>
            obtain rfl := Option.some.inj stepTo
            exact paced.after (asked_of_received received_receive) forward
  exact ⟨paced.heard, paced.spaced⟩

/-- The device is told at once, not again after half a second, and again when the
second it was given is over. -/
theorem shed_frames_announced_thrice :
    ∃ line, Run (DeviceLine.step strictEdge) DeviceLine.Forward (.opened strictEdge false 1)
        [blankFrame true 1, blankFrame true (3 / 2), blankFrame true 2] line ∧
      noticesIn line.greeted line.history = [1, 2] ∧
      ∀ exchange ∈ line.history, exchange.shed = true →
        ∃ notice ∈ noticesIn line.greeted line.history, notice ≤ exchange.now ∧
          (notice = exchange.now ∨ exchange.now <
            DeviceSession.quietDeadline strictEdge.retryAfterMs notice) := by
  obtain ⟨line, executed, twice⟩ := @exists_of_exec _ _ (DeviceLine.step strictEdge)
    DeviceLine.Forward (.opened strictEdge false 1) _
    (fun line => noticesIn line.greeted line.history = [1, 2]) _
    [blankFrame true 1, blankFrame true (3 / 2), blankFrame true 2] (by decide +kernel)
  have run := run_of_exec executed
  exact ⟨line, run, twice, (shed_frames_announced strictEdge false 1 (by decide) run).1⟩

end GeoTrack
