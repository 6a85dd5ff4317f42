import GeoTrack.Binary64
import GeoTrack.Hysteresis
import GeoTrack.IngestReports

/-!
# Queue-depth backpressure

The monitor samples how many entries sit on the ingest streams and opens or
shuts the gate the requests look at.  A sample that cannot be taken leaves the
verdict as it is.
-/

namespace GeoTrack

open Hysteresis

/-- The watermarks are ordered: the constructor refuses any others. -/
structure BacklogMonitor where
  marks : Watermarks ℕ
  pollMs : ℕ
  throttled : Bool
  backlog : ℕ

/-- A round of the poller: what the streams hold, and whether Redis answers. -/
structure Poll where
  lengths : List ℕ
  answered : Bool

/-- Entries on all streams. -/
def Poll.total (poll : Poll) : ℕ := poll.lengths.sum

namespace BacklogMonitor

def fresh (marks : Watermarks ℕ) (pollMs : ℕ) : BacklogMonitor := ⟨marks, pollMs, false, 0⟩

/-- `max(1_000, int(self._poll_s * 2_000))`. -/
def retryAfterMs (monitor : BacklogMonitor) : ℕ :=
  max 1000 (Binary64.truncate
    (Binary64.round (Binary64.round ((monitor.pollMs : ℚ) / 1000) * 2000))).toNat

/-- What a request sees. -/
def gate (monitor : BacklogMonitor) : BacklogGate := ⟨monitor.throttled, monitor.retryAfterMs⟩

def refresh (monitor : BacklogMonitor) (lengths : List ℕ) : BacklogMonitor :=
  { monitor with
    backlog := lengths.sum
    throttled :=
      if monitor.marks.high ≤ lengths.sum ∧ monitor.throttled = false then true
      else if lengths.sum ≤ monitor.marks.low ∧ monitor.throttled = true then false
      else monitor.throttled }

/-- One iteration of the loop; the first sample of `start` is one too. -/
def poll (monitor : BacklogMonitor) (round : Poll) : BacklogMonitor :=
  if round.answered then monitor.refresh round.lengths else monitor

def pollAll (monitor : BacklogMonitor) (rounds : List Poll) : BacklogMonitor :=
  rounds.foldl poll monitor

variable {monitor : BacklogMonitor} {rounds : List Poll} {round : Poll}

@[simp]
theorem marks_refresh (monitor : BacklogMonitor) (lengths : List ℕ) :
    (monitor.refresh lengths).marks = monitor.marks :=
  rfl

theorem throttled_refresh (monitor : BacklogMonitor) (lengths : List ℕ) :
    (monitor.refresh lengths).throttled = monitor.marks.next monitor.throttled lengths.sum :=
  rfl

@[simp]
theorem marks_poll : (monitor.poll round).marks = monitor.marks := by
  unfold poll
  split <;> rfl

@[simp]
theorem marks_pollAll : (monitor.pollAll rounds).marks = monitor.marks := by
  induction rounds using List.reverseRecOn with
  | nil => rfl
  | append_singleton earlier round ih =>
      rw [pollAll, List.foldl_append]
      exact marks_poll.trans ih

theorem pollAll_snoc (monitor : BacklogMonitor) (rounds : List Poll) (round : Poll) :
    monitor.pollAll (rounds ++ [round]) = (monitor.pollAll rounds).poll round :=
  List.foldl_append

theorem throttled_pollAll (monitor : BacklogMonitor) (rounds : List Poll) :
    (monitor.pollAll rounds).throttled =
      ((rounds.filter Poll.answered).map Poll.total).foldl monitor.marks.next
        monitor.throttled := by
  induction rounds using List.reverseRecOn with
  | nil => rfl
  | append_singleton earlier round ih =>
      rw [pollAll_snoc, List.filter_append, List.map_append, List.foldl_append, ← ih, poll]
      cases answered : round.answered with
      | true => simp [answered, throttled_refresh, Poll.total]
      | false => simp [answered]

/-- A round that changes the verdict was answered, and its level is on the other
side of the band. -/
theorem level_of_switch
    (switched : (monitor.poll round).throttled ≠ monitor.throttled) :
    if monitor.throttled then round.total ≤ monitor.marks.low
    else monitor.marks.high ≤ round.total := by
  unfold poll at switched
  split at switched
  case isFalse => exact absurd rfl switched
  case isTrue =>
      rw [throttled_refresh] at switched
      cases before : monitor.throttled with
      | true =>
          rw [before] at switched
          exact Watermarks.low_of_opened (Bool.eq_false_iff.mpr switched)
      | false =>
          rw [before] at switched
          exact Watermarks.high_of_shut (Bool.eq_true_of_not_eq_false switched)

/-- The levels of two opposite switches are apart by the whole band. -/
theorem band_le_of_switches {earlier : BacklogMonitor} {first second : Poll}
    (sameMarks : earlier.marks = monitor.marks)
    (firstSwitch : (earlier.poll first).throttled ≠ earlier.throttled)
    (secondSwitch : (monitor.poll second).throttled ≠ monitor.throttled)
    (opposite : monitor.throttled ≠ earlier.throttled) :
    (monitor.marks.high : ℤ) - monitor.marks.low ≤ |(second.total : ℤ) - first.total| := by
  have firstLevel := level_of_switch firstSwitch
  have secondLevel := level_of_switch secondSwitch
  rw [sameMarks] at firstLevel
  cases before : earlier.throttled <;> cases after : monitor.throttled <;>
    simp only [before, after, Bool.false_eq_true, if_true, if_false, ne_eq, not_true_eq_false]
      at firstLevel secondLevel opposite
  · rw [abs_sub_comm]
    exact le_trans (by omega) (le_abs_self _)
  · exact le_trans (by omega) (le_abs_self _)

end BacklogMonitor

/-- The gate is shut when the last answered round outside the band was at or above
the high watermark.  While the backlog moves by at most `drift` from round to
round, answered or not, a switch and the next one the other way are as many rounds
apart as it takes to cross the band. -/
theorem gate_follows_backlog (marks : Watermarks ℕ) (pollMs : ℕ) :
    (∀ rounds : List Poll, ((BacklogMonitor.fresh marks pollMs).pollAll rounds).throttled =
      ((((rounds.filter Poll.answered).map Poll.total).filter
        fun total => marks.Decides total).getLast?.map
          fun total => decide (marks.high ≤ total)).getD false) ∧
    ∀ (drift : ℕ) (before between : List Poll) (first second : Poll),
      Drifts (drift : ℤ) ((first :: (between ++ [second])).map fun round => (round.total : ℤ)) →
      let monitor := (BacklogMonitor.fresh marks pollMs).pollAll before
      let later := (monitor.poll first).pollAll between
      (monitor.poll first).throttled ≠ monitor.throttled →
      (later.poll second).throttled ≠ later.throttled →
      later.throttled ≠ monitor.throttled →
      marks.high - marks.low ≤ (between.length + 1) * drift := by
  constructor
  · intro rounds
    rw [BacklogMonitor.throttled_pollAll]
    exact marks.foldl_next false _
  · intro drift before between first second drifts monitor later firstSwitch secondSwitch opposite
    have sameMarks : later.marks = marks := by simp [later, monitor, BacklogMonitor.fresh]
    have earlierMarks : monitor.marks = later.marks := by simp [later]
    have band := BacklogMonitor.band_le_of_switches earlierMarks firstSwitch secondSwitch opposite
    rw [sameMarks] at band
    have moved : |(second.total : ℤ) - first.total| ≤ (between.length + 1) • (drift : ℤ) := by
      have chained := drifts
      rw [List.map_cons, List.map_append, List.map_singleton] at chained
      simpa using abs_sub_le_of_drifts chained
    have reach := band.trans moved
    rw [nsmul_eq_mul] at reach
    have wide : (marks.high : ℤ) ≤ ((between.length + 1) * drift : ℕ) + marks.low := by
      push_cast at reach ⊢
      linarith
    omega

def narrowBand : Watermarks ℕ := ⟨10, 20, by decide⟩

/-- A backlog of twenty shuts the gate, and five a round take two rounds to open it. -/
theorem gate_follows_backlog_drains : 20 - 10 ≤ (1 + 1) * 5 :=
  (gate_follows_backlog narrowBand 500).2 5 [] [⟨[9, 6], true⟩] ⟨[12, 8], true⟩ ⟨[10, 0], true⟩
    (by simp [Drifts, Poll.total]) (by decide) (by decide) (by decide)

end GeoTrack
