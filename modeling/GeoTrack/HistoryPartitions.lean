import GeoTrack.Clock
import GeoTrack.StorableReports
import Mathlib.Data.Finset.Card

/-!
# Daily partitions of the history

The archive is split by UTC days.  A round of the maintenance creates the
partitions from the start of the retention window up to two days ahead of the
server's date and drops the ones before the window; a report is stored only if
the partition of its day is there.

The lower ends of the windows nest whatever the time of day.  At the upper end a
round looks two days ahead, while the reports that are kept may be ahead by any
skew that is configured.
-/

namespace GeoTrack

/-- A partition is told by its UTC day, counted from 1970-01-01. -/
abbrev Partitions := Finset ℤ

def dayMs : ℤ := 86400000

/-- `(now() AT TIME ZONE 'UTC')::date` of a time in nanoseconds; the server's
clock counts microseconds. -/
def utcDate (timeNs : ℤ) : ℤ := timeNs / 1000 / 86400000000

/-- The report falls into a day that has a partition. -/
def Covers (partitions : Partitions) (reportedMs : ℤ) : Prop :=
  ∃ day ∈ partitions, day * dayMs ≤ reportedMs ∧ reportedMs < (day + 1) * dayMs

/-- The loop over the days of `geotrack_ensure_history_partitions`, with `count`
days to go. -/
def ensureDays : ℕ → ℤ → Partitions → ℕ → Partitions × ℕ
  | 0, _, partitions, created => (partitions, created)
  | count + 1, day, partitions, created =>
      if day ∈ partitions then
        ensureDays count (day + 1) partitions created
      else
        ensureDays count (day + 1) (insert day partitions) (created + 1)

/-- Fails when the range is empty. -/
def ensureHistoryPartitions (first last : ℤ) (partitions : Partitions) :
    Option (Partitions × ℕ) :=
  if last < first then none
  else some (ensureDays (last + 1 - first).toNat first partitions 0)

def dropHistoryPartitions (before : ℤ) (partitions : Partitions) : Partitions × ℕ :=
  (partitions.filter fun day => before ≤ day, (partitions.filter fun day => day < before).card)

def daysAhead : ℤ := 2

structure MaintenanceOutcome where
  led : Bool
  created : ℕ
  dropped : ℕ
deriving DecidableEq

/-- One call of `run_once`: whether it got the lease, and whether its
transaction committed. -/
structure Round where
  now : ℤ
  retentionDays : ℕ
  led : Bool
  commits : Bool

def Round.Successful (round : Round) : Prop := round.led = true ∧ round.commits = true

/-- The partitions after the call and what it returns, nothing when it raises. -/
def runOnce (partitions : Partitions) (round : Round) :
    Partitions × Option MaintenanceOutcome :=
  if round.led then
    if round.commits then
      match ensureHistoryPartitions (utcDate round.now - round.retentionDays)
          (utcDate round.now + daysAhead) partitions with
      | none => (partitions, none)
      | some (ensured, created) =>
          let (kept, dropped) :=
            dropHistoryPartitions (utcDate round.now - round.retentionDays) ensured
          (kept, some ⟨true, created, dropped⟩)
    else
      (partitions, none)
  else
    (partitions, some ⟨false, 0, 0⟩)

/-- The partitions the migration leaves behind. -/
def migratedPartitions (now : ℤ) : Partitions :=
  ((ensureHistoryPartitions (utcDate now - 7) (utcDate now + 2) ∅).map Prod.fst).getD ∅

/-- The partitions after the migration and some rounds. -/
def partitionsAfter (migratedAt : ℤ) (rounds : List Round) : Partitions :=
  rounds.foldl (fun partitions round => (runOnce partitions round).1)
    (migratedPartitions migratedAt)

section Days

theorem mem_ensureDays {count : ℕ} {day : ℤ} {partitions : Partitions} {created : ℕ} {other : ℤ} :
    other ∈ (ensureDays count day partitions created).1 ↔
      other ∈ partitions ∨ day ≤ other ∧ other < day + count := by
  induction count generalizing day partitions created with
  | zero =>
      have nothing : ¬ (day ≤ other ∧ other < day + (0 : ℕ)) := by omega
      rw [ensureDays, or_iff_left nothing]
  | succ count ih =>
      rw [ensureDays]
      split
      case isTrue there =>
          rw [ih]
          have same : other = day → other ∈ partitions := fun equal => equal ▸ there
          push_cast
          constructor
          · rintro (old | ⟨low, high⟩)
            · exact Or.inl old
            · exact Or.inr (by omega)
          · rintro (old | ⟨low, high⟩)
            · exact Or.inl old
            · rcases eq_or_lt_of_le low with equal | later
              · exact Or.inl (same equal.symm)
              · exact Or.inr (by omega)
      case isFalse =>
          rw [ih, Finset.mem_insert]
          push_cast
          constructor
          · rintro ((rfl | old) | ⟨low, high⟩)
            · exact Or.inr (by omega)
            · exact Or.inl old
            · exact Or.inr (by omega)
          · rintro (old | ⟨low, high⟩)
            · exact Or.inl (Or.inr old)
            · rcases eq_or_lt_of_le low with equal | later
              · exact Or.inl (Or.inl equal.symm)
              · exact Or.inr (by omega)

theorem ensureHistoryPartitions_eq {first last : ℤ} (nonempty : first ≤ last)
    (partitions : Partitions) :
    ∃ ensured created,
      ensureHistoryPartitions first last partitions = some (ensured, created) ∧
        ∀ day, day ∈ ensured ↔ day ∈ partitions ∨ first ≤ day ∧ day ≤ last := by
  refine ⟨_, _, if_neg (not_lt.mpr nonempty), ?_⟩
  intro day
  rw [mem_ensureDays]
  refine or_congr Iff.rfl ?_
  omega

theorem mem_migratedPartitions {now day : ℤ} :
    day ∈ migratedPartitions now ↔ utcDate now - 7 ≤ day ∧ day ≤ utcDate now + 2 := by
  obtain ⟨ensured, created, done, mem⟩ :=
    ensureHistoryPartitions_eq (by omega : utcDate now - 7 ≤ utcDate now + 2) ∅
  rw [migratedPartitions, done]
  simp [mem]

/-- What a successful round leaves: its own window, and what was there beyond it. -/
theorem mem_runOnce {partitions : Partitions} {round : Round} (successful : round.Successful)
    {day : ℤ} :
    day ∈ (runOnce partitions round).1 ↔
      utcDate round.now - round.retentionDays ≤ day ∧
        (day ∈ partitions ∨ day ≤ utcDate round.now + daysAhead) := by
  have nonempty : utcDate round.now - round.retentionDays ≤ utcDate round.now + daysAhead := by
    unfold daysAhead
    omega
  obtain ⟨ensured, created, done, mem⟩ := ensureHistoryPartitions_eq nonempty partitions
  simp only [runOnce, successful.1, successful.2, if_true, done, dropHistoryPartitions,
    Finset.mem_filter, mem]
  tauto

theorem runOnce_of_unsuccessful {partitions : Partitions} {round : Round}
    (unsuccessful : ¬ round.Successful) : (runOnce partitions round).1 = partitions := by
  unfold runOnce
  split
  case isFalse => rfl
  case isTrue led =>
      split
      case isFalse => rfl
      case isTrue commits => exact absurd ⟨led, commits⟩ unsuccessful

end Days

section Windows

/-- The window of a day in milliseconds. -/
theorem covers_iff_mem {partitions : Partitions} {reportedMs : ℤ} :
    Covers partitions reportedMs ↔ reportedMs / dayMs ∈ partitions := by
  unfold Covers dayMs
  constructor
  · rintro ⟨day, there, low, high⟩
    have same : reportedMs / 86400000 = day := by omega
    rw [same]
    exact there
  · intro there
    exact ⟨_, there, by omega, by omega⟩

/-- The server's date and the date of the milliseconds agree. -/
theorem utcDate_eq (timeNs : ℤ) : utcDate timeNs = nowMs timeNs / dayMs := by
  unfold utcDate nowMs dayMs
  omega

variable {migratedAt : ℤ} {earlier later : List Round} {last : Round}

/-- No partition is further ahead than the latest round looked. -/
theorem partitions_ahead {latest : ℤ} (migrated : migratedAt ≤ latest) {rounds : List Round}
    (before : ∀ round ∈ rounds, round.now ≤ latest) {day : ℤ}
    (there : day ∈ partitionsAfter migratedAt rounds) : day ≤ utcDate latest + daysAhead := by
  have monotone : ∀ time ≤ latest, utcDate time ≤ utcDate latest := by
    intro time order
    unfold utcDate
    omega
  induction rounds using List.reverseRecOn with
  | nil =>
      have bound := (mem_migratedPartitions.mp there).2
      have order := monotone migratedAt migrated
      unfold daysAhead
      omega
  | append_singleton rounds round ih =>
      rw [partitionsAfter, List.foldl_concat] at there
      have known := ih fun other listed => before other (List.mem_append_left _ listed)
      by_cases successful : round.Successful
      · rcases ((mem_runOnce successful).mp there).2 with old | ahead
        · exact known old
        · have order := monotone round.now (before round (by simp))
          omega
      · rw [runOnce_of_unsuccessful successful] at there
        exact known there

/-- After its last success the maintenance has covered its window, and nothing
further ahead. -/
theorem mem_partitionsAfter (migrated : migratedAt ≤ last.now)
    (before : ∀ round ∈ earlier, round.now ≤ last.now) (successful : last.Successful)
    (idle : ∀ round ∈ later, ¬ round.Successful) {day : ℤ}
    (inWindow : utcDate last.now - last.retentionDays ≤ day) :
    day ∈ partitionsAfter migratedAt (earlier ++ last :: later) ↔
      day ≤ utcDate last.now + daysAhead := by
  have unchanged : partitionsAfter migratedAt (earlier ++ last :: later) =
      (runOnce (partitionsAfter migratedAt earlier) last).1 := by
    rw [partitionsAfter, List.foldl_append, List.foldl_cons]
    induction later using List.reverseRecOn with
    | nil => rfl
    | append_singleton later round ih =>
        rw [List.foldl_concat, runOnce_of_unsuccessful (idle round (by simp))]
        exact ih fun other listed => idle other (List.mem_append_left _ listed)
  rw [unchanged, mem_runOnce successful]
  constructor
  · rintro ⟨-, old | ahead⟩
    · exact partitions_ahead migrated before old
    · exact ahead
  · exact fun ahead => ⟨inWindow, Or.inr ahead⟩

end Windows

/-- Every report that is kept within ten minutes of a successful round has a
partition, when and only when the reports may be ahead by no more than two days
less these ten minutes. -/
theorem partition_exists_iff (settings : StorageSettings) :
    (∀ (migratedAt : ℤ) (earlier : List Round) (last : Round) (later : List Round) (time : ℤ)
      (record : LocationRecord),
      migratedAt ≤ last.now → (∀ round ∈ earlier, round.now ≤ last.now) → last.Successful →
      last.retentionDays = settings.historyRetentionDays →
      (∀ round ∈ later, ¬ round.Successful) →
      time - 600 * 1000000000 ≤ last.now → last.now ≤ time →
      Storable settings (nowMs time) record →
      Covers (partitionsAfter migratedAt (earlier ++ last :: later)) record.reportedMs) ↔
      settings.ingestMaxFutureSkewS ≤ 172200 := by
  constructor
  · intro everyReport
    by_contra far
    -- the last round runs just before midnight, the report comes ten minutes later
    let last : Round := ⟨86400 * 1000000000 - 1, settings.historyRetentionDays, true, true⟩
    let time : ℤ := last.now + 600 * 1000000000
    let record : LocationRecord := ⟨"a", 0, 0, newestStorable settings (nowMs time), 0⟩
    have kept : Storable settings (nowMs time) record := by
      have named : deviceIdMatches "a" = true := by decide
      refine storable_iff.mpr ⟨named, ?_, le_rfl⟩
      change oldestStorable settings (nowMs time) ≤ newestStorable settings (nowMs time)
      unfold oldestStorable newestStorable
      omega
    have covered := everyReport last.now [] last [] time record le_rfl (by simp) ⟨rfl, rfl⟩ rfl
      (by simp) (by omega) (by omega) kept
    have late : record.reportedMs = 86999999 + settings.ingestMaxFutureSkewS * 1000 := rfl
    rw [covers_iff_mem, mem_partitionsAfter le_rfl (by simp) ⟨rfl, rfl⟩ (by simp), late] at covered
    · have today : utcDate last.now = 0 := rfl
      rw [today] at covered
      unfold dayMs daysAhead at covered
      omega
    · have today : utcDate last.now = 0 := rfl
      rw [today, late]
      unfold dayMs
      omega
  · intro near migratedAt earlier last later time record migrated before successful sameSettings
      idle recent order kept
    obtain ⟨-, notOld, notAhead⟩ := storable_iff.mp kept
    unfold oldestStorable nowMs at notOld
    unfold newestStorable nowMs at notAhead
    have inWindow : utcDate last.now - last.retentionDays ≤ record.reportedMs / dayMs := by
      rw [utcDate_eq, sameSettings]
      unfold nowMs dayMs
      omega
    rw [covers_iff_mem, mem_partitionsAfter migrated before successful idle inWindow, utcDate_eq]
    unfold nowMs dayMs daysAhead
    omega

/-- With a skew of three days, a report from three days ahead is kept and finds
no partition right after the maintenance. -/
theorem report_without_partition :
    let settings : StorageSettings := ⟨7, 259200⟩
    let record : LocationRecord := ⟨"truck", 0, 0, 259200000, 0⟩
    Storable settings (nowMs 0) record ∧
      ¬ Covers (partitionsAfter 0 [⟨0, 7, true, true⟩]) record.reportedMs := by
  intro settings record
  refine ⟨by decide +kernel, ?_⟩
  rw [covers_iff_mem]
  decide +kernel

end GeoTrack
