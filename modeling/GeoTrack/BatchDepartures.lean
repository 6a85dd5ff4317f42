import GeoTrack.Binary64
import GeoTrack.LoadGenerator

/-!
# When batches leave

The producer adds reports to a batch as they come, and then takes batches while
one is ready.  What it has taken and what it still holds is, in order, what was
added.  The reports held share one deadline; after an oversized batch has left
the rest keep the deadline of the batch that left, so a report never waits
longer than its own arrival would allow.

Only three facts about floats are used: they are ordered, and adding the window
keeps the order.
-/

namespace GeoTrack

open FloatMath LabelledRuns

variable {ν σ : Type} [FloatMath ν]

namespace Batcher

/-- Add the reports of one round. -/
def addAll (now : ν) (reports : List (Report ν)) (batcher : Batcher ν) : Batcher ν :=
  reports.foldl (add now) batcher

/-- The batches taken while one is ready, and the batcher without them. -/
def takeWhileReady (now : ν) : ℕ → Batcher ν → List (List (Report ν)) × Batcher ν
  | 0, batcher => ([], batcher)
  | rounds + 1, batcher =>
      if batcher.ready now then
        let (batch, left) := batcher.take
        let (batches, rest) := takeWhileReady now rounds left
        (batch :: batches, rest)
      else
        ([], batcher)

/-- Take until no batch is ready: every batch has a report at least. -/
def drained (now : ν) (batcher : Batcher ν) : List (List (Report ν)) × Batcher ν :=
  batcher.takeWhileReady now batcher.reports.length

end Batcher

/-- A batcher with what was added to it, and when, and what was taken from it.
The clock is the last reading. -/
structure Departures (ν : Type) where
  batcher : Batcher ν
  added : List (Report ν × ν)
  taken : List (List (Report ν))
  clock : ν

inductive BatchEvent (ν : Type) where
  | add (now : ν) (report : Report ν)
  | take (now : ν)

def BatchEvent.now : BatchEvent ν → ν
  | .add now _ => now
  | .take now => now

namespace Departures

def fresh (size : ℕ) (window start : ν) : Departures ν :=
  ⟨⟨size, window, literal 0, []⟩, [], [], start⟩

/-- Reports are added at any time; a batch is taken when it is ready. -/
def step (departures : Departures ν) : BatchEvent ν → Option (Departures ν)
  | .add now report =>
      some { departures with
        batcher := departures.batcher.add now report
        added := departures.added ++ [(report, now)]
        clock := now }
  | .take now =>
      if departures.batcher.ready now then
        some { departures with
          batcher := departures.batcher.take.2
          taken := departures.taken ++ [departures.batcher.take.1]
          clock := now }
      else
        none

/-- The clock does not go back. -/
def Forward (departures : Departures ν) (event : BatchEvent ν) : Prop :=
  le departures.clock event.now = true

instance (departures : Departures ν) (event : BatchEvent ν) :
    Decidable (departures.Forward event) :=
  inferInstanceAs (Decidable (le departures.clock event.now = true))

/-- The reports held, with their arrivals. -/
def held (departures : Departures ν) : List (Report ν × ν) :=
  departures.added.drop departures.taken.flatten.length

end Departures

/-- What the deadlines need of the floats: times are ordered, and adding the
window to two of them keeps their order. -/
structure OrderedSums (window : ν) : Prop where
  refl_right : ∀ first second : ν, le first second = true → le second second = true
  trans : ∀ first second third : ν, le first second = true → le second third = true →
    le first third = true
  add_window : ∀ first second : ν, le first second = true →
    le (first + window) (second + window) = true

/-! ## One batch -/

namespace Batcher

variable {batcher : Batcher ν} {now : ν}

omit [FloatMath ν] in
theorem take_keeps (batcher : Batcher ν) :
    batcher.take.2 = { batcher with reports := batcher.take.2.reports } := by
  unfold Batcher.take
  split <;> rfl

omit [FloatMath ν] in
theorem length_take_fst (batcher : Batcher ν) :
    batcher.take.1.length = min batcher.reports.length batcher.size := by
  unfold Batcher.take
  split
  case isTrue small => exact (min_eq_left small).symm
  case isFalse => rw [List.length_take, min_comm]

theorem ready_iff :
    batcher.ready now = true ↔
      batcher.reports ≠ [] ∧ (batcher.size ≤ batcher.reports.length ∨
        le (pyMax (batcher.oldestAt + batcher.window - now) (literal 0)) (literal 0) = true) := by
  unfold Batcher.ready Batcher.remaining
  by_cases empty : batcher.reports = []
  · simp [empty]
  · simp [empty]

/-- A batch that leaves has a report at least, and no more than fit. -/
theorem length_taken (positive : 1 ≤ batcher.size) (ready : batcher.ready now = true) :
    1 ≤ batcher.take.1.length ∧ batcher.take.1.length ≤ batcher.size := by
  have some_ := List.length_pos_iff.mpr (ready_iff.mp ready).1
  rw [length_take_fst]
  omega

theorem length_lt_of_not_ready (positive : 1 ≤ batcher.size) (waits : batcher.ready now = false) :
    batcher.reports.length < batcher.size := by
  by_contra full
  have some_ : batcher.reports ≠ [] := by
    rintro empty
    rw [empty, List.length_nil] at full
    omega
  have ready : batcher.ready now = true := ready_iff.mpr ⟨some_, Or.inl (not_lt.mp full)⟩
  rw [waits] at ready
  cases ready

/-- The inner loop ends where no batch is ready. -/
theorem takeWhileReady_ends (positive : 1 ≤ batcher.size) {rounds : ℕ}
    (enough : batcher.reports.length ≤ rounds) :
    (batcher.takeWhileReady now rounds).2.ready now = false ∧
      (batcher.takeWhileReady now rounds).2.size = batcher.size := by
  induction rounds generalizing batcher with
  | zero =>
      refine ⟨?_, rfl⟩
      have empty : batcher.reports = [] := List.length_eq_zero_iff.mp (Nat.le_zero.mp enough)
      rw [Batcher.takeWhileReady, ← Bool.not_eq_true, ready_iff]
      exact fun ready => ready.1 empty
  | succ rounds ih =>
      rw [Batcher.takeWhileReady]
      split
      case isTrue ready =>
          have parts := congrArg List.length (take_append batcher)
          rw [List.length_append] at parts
          have sameSize : batcher.take.2.size = batcher.size := by rw [take_keeps]
          have progress := (length_taken positive ready).1
          obtain ⟨ends, size⟩ := @ih batcher.take.2 (sameSize ▸ positive) (by omega)
          exact ⟨ends, size.trans sameSize⟩
      case isFalse waits => exact ⟨Bool.not_eq_true _ ▸ waits, rfl⟩

end Batcher

/-! ## Every run -/

namespace Departures

variable {departures after : Departures ν} {size : ℕ} {window start : ν}

/-- What a run keeps: nothing is lost or reordered, and the oldest time is that
of the first report held or an earlier one. -/
structure Sound (size : ℕ) (window : ν) (departures : Departures ν) : Prop where
  sameSize : departures.batcher.size = size
  sameWindow : departures.batcher.window = window
  whole : departures.taken.flatten ++ departures.batcher.reports =
    departures.added.map Prod.fst
  batches : ∀ batch ∈ departures.taken, 1 ≤ batch.length ∧ batch.length ≤ size
  oldest : ∀ entry ∈ departures.held, le departures.batcher.oldestAt entry.2 = true
  arrived : ∀ entry ∈ departures.held, le entry.2 departures.clock = true

theorem fresh_sound (size : ℕ) (window start : ν) :
    (fresh size window start).Sound size window where
  sameSize := rfl
  sameWindow := rfl
  whole := rfl
  batches := fun _ listed => absurd listed List.not_mem_nil
  oldest := fun _ listed => absurd listed List.not_mem_nil
  arrived := fun _ listed => absurd listed List.not_mem_nil

omit [FloatMath ν] in
theorem map_held (whole : departures.taken.flatten ++ departures.batcher.reports =
      departures.added.map Prod.fst) :
    departures.held.map Prod.fst = departures.batcher.reports := by
  rw [held, List.map_drop, ← whole, List.drop_left]

theorem Sound.add (sound : departures.Sound size window) (sums : OrderedSums window) {now : ν}
    (forward : le departures.clock now = true) (report : Report ν) :
    Sound size window { departures with
      batcher := departures.batcher.add now report
      added := departures.added ++ [(report, now)]
      clock := now } := by
  have within : departures.taken.flatten.length ≤ departures.added.length := by
    have parts := congrArg List.length sound.whole
    rw [List.length_append, List.length_map] at parts
    omega
  have grown : held { departures with
      batcher := departures.batcher.add now report
      added := departures.added ++ [(report, now)]
      clock := now } = departures.held ++ [(report, now)] :=
    List.drop_append_of_le_length within
  have self : le now now = true := sums.refl_right _ _ forward
  refine ⟨sound.sameSize, sound.sameWindow, ?_, sound.batches, ?_, ?_⟩
  · simp only [Batcher.add, ← List.append_assoc, sound.whole, List.map_append, List.map_cons,
      List.map_nil]
  · rw [grown]
    intro entry listed
    by_cases empty : departures.batcher.reports = []
    · -- The first report of a batch sets the time.
      have none_ : departures.held = [] := by
        rw [← List.map_eq_nil_iff, map_held sound.whole, empty]
      rw [none_, List.nil_append, List.mem_singleton] at listed
      rw [listed, Batcher.add, if_pos empty]
      exact self
    · rw [Batcher.add, if_neg empty]
      rcases List.mem_append.mp listed with known | isNew
      · exact sound.oldest entry known
      · -- Some report is held already, and it arrived before the new one.
        have some_ : departures.held ≠ [] := by
          rwa [Ne, ← List.map_eq_nil_iff, map_held sound.whole]
        obtain ⟨first, isHeld⟩ := List.exists_mem_of_ne_nil _ some_
        rw [List.mem_singleton.mp isNew]
        exact sums.trans _ _ _ (sound.oldest first isHeld)
          (sums.trans _ _ _ (sound.arrived first isHeld) forward)
  · rw [grown]
    intro entry listed
    rcases List.mem_append.mp listed with known | isNew
    · exact sums.trans _ _ _ (sound.arrived entry known) forward
    · rw [List.mem_singleton.mp isNew]
      exact self

theorem Sound.take (sound : departures.Sound size window) (sums : OrderedSums window)
    (positive : 1 ≤ size) {now : ν} (forward : le departures.clock now = true)
    (ready : departures.batcher.ready now = true) :
    Sound size window { departures with
      batcher := departures.batcher.take.2
      taken := departures.taken ++ [departures.batcher.take.1]
      clock := now } := by
  have fewer : held { departures with
      batcher := departures.batcher.take.2
      taken := departures.taken ++ [departures.batcher.take.1]
      clock := now } = departures.held.drop departures.batcher.take.1.length := by
    simp only [held, List.flatten_append, List.flatten_singleton, List.length_append,
      List.drop_drop]
  have kept := Batcher.take_keeps departures.batcher
  refine ⟨?_, ?_, ?_, ?_, ?_, ?_⟩
  · rw [kept]
    exact sound.sameSize
  · rw [kept]
    exact sound.sameWindow
  · rw [List.flatten_append, List.flatten_singleton, List.append_assoc, Batcher.take_append]
    exact sound.whole
  · intro batch listed
    rcases List.mem_append.mp listed with earlier | isNew
    · exact sound.batches batch earlier
    · rw [List.mem_singleton.mp isNew]
      have taken := Batcher.length_taken (sound.sameSize ▸ positive) ready
      rwa [sound.sameSize] at taken
  · rw [fewer, kept]
    exact fun entry listed => sound.oldest entry (List.mem_of_mem_drop listed)
  · rw [fewer]
    exact fun entry listed =>
      sums.trans _ _ _ (sound.arrived entry (List.mem_of_mem_drop listed)) forward

theorem Sound.step (sound : departures.Sound size window) (sums : OrderedSums window)
    (positive : 1 ≤ size) {event : BatchEvent ν} (forward : departures.Forward event)
    (stepTo : departures.step event = some after) : after.Sound size window := by
  cases event with
  | add now report =>
      obtain rfl := Option.some.inj stepTo
      exact sound.add sums forward report
  | take now =>
      simp only [Departures.step] at stepTo
      split at stepTo
      case isFalse => cases stepTo
      case isTrue ready =>
          obtain rfl := Option.some.inj stepTo
          exact sound.take sums positive forward ready

/-- Whatever is added and taken, the batches taken and then the reports held are
what was added, every batch has a report and no more than fit, the loop that
takes batches ends with less than a full batch, and the deadline of the reports
held is not later than that of any of them. -/
theorem departures_of_run (positive : 1 ≤ size) (sums : OrderedSums window)
    {events : List (BatchEvent ν)}
    (run : Run Departures.step Forward (fresh size window start) events departures) :
    departures.taken.flatten ++ departures.batcher.reports = departures.added.map Prod.fst ∧
      (∀ batch ∈ departures.taken, 1 ≤ batch.length ∧ batch.length ≤ size) ∧
      (∀ now, (departures.batcher.drained now).2.ready now = false ∧
        (departures.batcher.drained now).2.reports.length < size) ∧
      ∀ entry ∈ departures.held,
        le (departures.batcher.oldestAt + departures.batcher.window) (entry.2 + window) = true := by
  have sound : departures.Sound size window :=
    run.invariant (fresh_sound size window start) fun _ _ _ before forward stepTo =>
      before.step sums positive forward stepTo
  refine ⟨sound.whole, sound.batches, fun now => ?_, fun entry listed => ?_⟩
  · obtain ⟨ends, sameSize⟩ := @Batcher.takeWhileReady_ends ν _ departures.batcher now
      (sound.sameSize ▸ positive) _ le_rfl
    refine ⟨ends, ?_⟩
    have short := Batcher.length_lt_of_not_ready (sameSize ▸ sound.sameSize ▸ positive) ends
    rwa [sameSize, sound.sameSize] at short
  · rw [sound.sameWindow]
    exact sums.add_window _ _ (sound.oldest entry listed)

/-! ## The producer -/

section Producer

variable (sums : OrderedSums window) {now : ν}
include sums

/-- The reports of one round are added one by one. -/
theorem exists_run_addAll (forward : le departures.clock now = true) (reports : List (Report ν)) :
    ∃ events after, Run Departures.step Forward departures events after ∧
      after.batcher = departures.batcher.addAll now reports ∧
      after.added = departures.added ++ reports.map (fun report => (report, now)) ∧
      after.taken = departures.taken ∧ le after.clock now = true := by
  induction reports generalizing departures with
  | nil => exact ⟨[], departures, Run.nil, rfl, (List.append_nil _).symm, rfl, forward⟩
  | cons report rest ih =>
      obtain ⟨events, after, run, batcher, added, taken, clock⟩ := @ih { departures with
        batcher := departures.batcher.add now report
        added := departures.added ++ [(report, now)]
        clock := now } (sums.refl_right _ _ forward)
      refine ⟨.add now report :: events, after, run_cons_iff.mpr ⟨_, forward, rfl, run⟩, batcher,
        ?_, taken, clock⟩
      rw [added, List.append_assoc]
      rfl

/-- The batches of one round are taken one by one. -/
theorem exists_run_takeWhileReady (forward : le departures.clock now = true) (rounds : ℕ) :
    ∃ events after, Run Departures.step Forward departures events after ∧
      after.batcher = (departures.batcher.takeWhileReady now rounds).2 ∧
      after.added = departures.added ∧
      after.taken = departures.taken ++ (departures.batcher.takeWhileReady now rounds).1 ∧
      le after.clock now = true := by
  induction rounds generalizing departures with
  | zero => exact ⟨[], departures, Run.nil, rfl, rfl, (List.append_nil _).symm, forward⟩
  | succ rounds ih =>
      rw [Batcher.takeWhileReady]
      split
      case isTrue ready =>
          obtain ⟨events, after, run, batcher, added, taken, clock⟩ := @ih { departures with
            batcher := departures.batcher.take.2
            taken := departures.taken ++ [departures.batcher.take.1]
            clock := now } (sums.refl_right _ _ forward)
          refine ⟨.take now :: events, after,
            run_cons_iff.mpr ⟨_, forward, if_pos ready, run⟩, batcher, added, ?_, clock⟩
          rw [taken, List.append_assoc]
          rfl
      case isFalse =>
          exact ⟨[], departures, Run.nil, rfl, rfl, (List.append_nil _).symm, forward⟩

end Producer

end Departures

namespace HttpRunner

variable {source : RandomSource ν σ} {config : LoadConfig ν}

theorem drain_eq (now : ν) (rounds : ℕ) (stats : LoadStats) (queue : List (List (Report ν)))
    (batcher : Batcher ν) :
    drain config now rounds stats queue batcher =
      (((batcher.takeWhileReady now rounds).1.foldl
          (fun state batch => offer config state.1 state.2 batch) (stats, queue)).1,
        ((batcher.takeWhileReady now rounds).1.foldl
          (fun state batch => offer config state.1 state.2 batch) (stats, queue)).2,
        (batcher.takeWhileReady now rounds).2) := by
  induction rounds generalizing stats queue batcher with
  | zero => rfl
  | succ rounds ih =>
      rw [drain, Batcher.takeWhileReady]
      split
      case isTrue => exact ih ..
      case isFalse => rfl

theorem exists_reports_produceDue (source : RandomSource ν σ) (config : LoadConfig ν) (now : ν)
    (moment : ℤ) {count : ℕ} (due : List (Fin count)) (devices : Devices ν σ count)
    (batcher : Batcher ν) :
    ∃ reports, reports.length = due.length ∧
      (produceDue source config now moment due devices batcher).2 = batcher.addAll now reports := by
  induction due generalizing devices batcher with
  | nil => exact ⟨[], rfl, rfl⟩
  | cons index rest ih =>
      rw [produceDue]
      obtain ⟨reports, length, added⟩ := ih
        ((devices.step source config.toFleetSettings moment index).2.reschedule source
          config.toFleetSettings now index)
        (batcher.add now (devices.step source config.toFleetSettings moment index).1)
      exact ⟨_ :: reports, congrArg Nat.succ length, added⟩

/-- A round of the producer adds the reports of the devices that are due and
takes batches while one is ready, all of which it offers to the queue. -/
theorem produce_departs (sums : OrderedSums config.batchWindowS) {now : ν} (moment : ℤ)
    (stats : LoadStats) (runner : HttpRunner ν σ) {departures : Departures ν}
    (forward : le departures.clock now = true) :
    ∃ events after batches, ∃ reports : List (Report ν),
      Run Departures.step Departures.Forward departures events after ∧
      reports.length = (runner.devices.popDue now).1.length ∧
      after.added = departures.added ++ reports.map (fun report => (report, now)) ∧
      after.taken = departures.taken ++ batches ∧
      (runner.produce source config now moment stats departures.batcher).2.producer =
        .driving after.batcher ∧
      (runner.produce source config now moment stats departures.batcher).2.queue =
        (batches.foldl (fun state batch => offer config state.1 state.2 batch)
          ({ stats with produced := stats.produced + (runner.devices.popDue now).1.length },
            runner.queue)).2 := by
  obtain ⟨reports, length, filled⟩ := exists_reports_produceDue source config now moment
    (runner.devices.popDue now).1 (runner.devices.popDue now).2 departures.batcher
  obtain ⟨adds, loaded, addRun, addBatcher, addAdded, addTaken, addClock⟩ :=
    Departures.exists_run_addAll sums forward reports
  obtain ⟨takes, after, takeRun, takeBatcher, takeAdded, takeTaken, -⟩ :=
    Departures.exists_run_takeWhileReady sums addClock loaded.batcher.reports.length
  rw [← addBatcher] at filled
  refine ⟨adds ++ takes, after,
    (loaded.batcher.takeWhileReady now loaded.batcher.reports.length).1, reports,
    addRun.append takeRun, length, takeAdded.trans addAdded, takeTaken.trans (by rw [addTaken]), ?_, ?_⟩
  · simp only [produce, filled, drain_eq, takeBatcher]
  · simp only [produce, filled, drain_eq]

end HttpRunner

section Rounded

/-- Doubles, on a straight line. -/
structure Rounded where
  value : ℚ
deriving DecidableEq

instance : FloatMath Rounded where
  add first second := ⟨Binary64.round (first.value + second.value)⟩
  sub first second := ⟨Binary64.round (first.value - second.value)⟩
  mul first second := ⟨Binary64.round (first.value * second.value)⟩
  div first second := ⟨Binary64.round (first.value / second.value)⟩
  mod first second := ⟨first.value - second.value * (first.value / second.value).floor⟩
  literal value := ⟨Binary64.round value⟩
  lt first second := first.value < second.value
  le first second := first.value ≤ second.value
  sqrt value := value
  sin _ := ⟨0⟩
  cos _ := ⟨1⟩
  radians value := value
  degrees value := value
  atan2 _ _ := ⟨0⟩
  hypot east north := ⟨Binary64.round (max east.value (-east.value) + max north.value (-north.value))⟩
  round value _ := value
  pi := ⟨22 / 7⟩

theorem Rounded.le_iff {first second : Rounded} :
    le first second = true ↔ first.value ≤ second.value :=
  decide_eq_true_iff

/-- Doubles are ordered, and adding rounds to keep the order. -/
theorem orderedSums_rounded (window : Rounded) : OrderedSums window where
  refl_right := fun _ second _ => Rounded.le_iff.mpr (le_refl second.value)
  trans := fun _ _ _ firstSecond secondThird =>
    Rounded.le_iff.mpr ((Rounded.le_iff.mp firstSecond).trans (Rounded.le_iff.mp secondThird))
  add_window := fun _ _ ordered =>
    Rounded.le_iff.mpr (Binary64.round_le_round (by simpa using Rounded.le_iff.mp ordered))

def atSecond (moment : ℚ) : Rounded := literal moment

/-- Three reports come at once, two leave, and one more comes. -/
def oversizedBatch : List (BatchEvent Rounded) :=
  let report : Report Rounded := ⟨"dev-00000", atSecond 50, atSecond 30, 0⟩
  [.add (atSecond 40) report, .add (atSecond 40) report, .add (atSecond 40) report,
    .take (atSecond 40), .add (atSecond (401 / 10)) report]

/-- The report left behind and the one that came later share a deadline. -/
theorem departures_of_run_oversized :
    ∃ departures, Run Departures.step Departures.Forward
        (Departures.fresh 2 (atSecond (1 / 10)) (atSecond 0)) oversizedBatch departures ∧
      departures.held.map Prod.snd = [atSecond 40, atSecond (401 / 10)] ∧
      departures.taken.flatten ++ departures.batcher.reports = departures.added.map Prod.fst ∧
      (∀ batch ∈ departures.taken, 1 ≤ batch.length ∧ batch.length ≤ 2) ∧
      (∀ now, (departures.batcher.drained now).2.ready now = false ∧
        (departures.batcher.drained now).2.reports.length < 2) ∧
      ∀ entry ∈ departures.held,
        le (departures.batcher.oldestAt + departures.batcher.window)
          (entry.2 + atSecond (1 / 10)) = true := by
  obtain ⟨departures, executed, arrivals⟩ : ∃ departures,
      exec Departures.step Departures.Forward
        (Departures.fresh 2 (atSecond (1 / 10)) (atSecond 0)) oversizedBatch = some departures ∧
        departures.held.map Prod.snd = [atSecond 40, atSecond (401 / 10)] := by
    apply exists_of_exec
    decide +kernel
  have run := run_of_exec executed
  exact ⟨departures, run, arrivals,
    Departures.departures_of_run (by decide) (orderedSums_rounded _) run⟩

end Rounded

end GeoTrack
