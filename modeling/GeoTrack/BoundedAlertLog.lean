import GeoTrack.AlertBackfill
import GeoTrack.TopRanked

/-!
# The alert log as a bounded set

A log of any capacity holds its alerts newest first.  An alert is put at the
place that a bisection finds, and the oldest ones are evicted while there are
too many, so the log holds the alerts with the highest numbers of those added.

After a reconnect the client asks for one page of the alerts after the highest
number it has seen.  That completes the log exactly when the page holds all of
them, or as many as the log has room for.
-/

namespace GeoTrack

namespace AlertLog

/-- Add an alert to a log of some capacity. -/
def addWithin (capacity : ℕ) (log : AlertLog) (alert : AlertOut) : AlertLog × Bool :=
  if alert.id ∈ log.ids then
    (log, false)
  else
    let index := insertionIndex log.items alert.id
    let items := log.items.take index ++ alert :: log.items.drop index
    (pop^[items.length - capacity]
      { items := items
        ids := log.ids.add alert.id
        lastId := raiseLastId log.lastId alert.id }, true)

/-- Add alerts one by one, keeping those that were new. -/
def addManyWithin (capacity : ℕ) (log : AlertLog) (alerts : List AlertOut) :
    AlertLog × List AlertOut :=
  alerts.foldl (fun state alert =>
    let (next, added) := state.1.addWithin capacity alert
    (next, if added then state.2 ++ [alert] else state.2)) (log, [])

theorem add_eq_addWithin (log : AlertLog) (alert : AlertOut) :
    log.add alert = log.addWithin defaultCapacity alert :=
  rfl

theorem addMany_eq_addManyWithin (log : AlertLog) (alerts : List AlertOut) :
    log.addMany alerts = log.addManyWithin defaultCapacity alerts :=
  rfl

/-- The alert with the higher number comes first. -/
abbrev NewerFirst (first second : AlertOut) : Prop := second.id ≤ first.id

instance : Std.Total NewerFirst := ⟨fun first second => le_total second.id first.id⟩

instance : IsTrans AlertOut NewerFirst :=
  ⟨fun _ _ _ firstSecond secondThird => le_trans secondThird firstSecond⟩

/-- The newest alerts of a list, as many as fit. -/
def newest (capacity : ℕ) (alerts : List AlertOut) : List AlertOut :=
  TopRanked.top NewerFirst capacity alerts

/-! ## Insertion -/

section Insertion

variable {items : List AlertOut} {id : ℕ}

/-- Newest first, and no number twice. -/
abbrev Falling (items : List AlertOut) : Prop :=
  items.Pairwise fun first second => second.id < first.id

theorem falling_split (falling : Falling items) {index : ℕ} (within : index < items.length) :
    (∀ item ∈ items.take (index + 1), items[index].id ≤ item.id) ∧
      ∀ item ∈ items.drop index, item.id ≤ items[index].id := by
  have split_ : items.take index ++ items[index] :: items.drop (index + 1) = items := by
    rw [List.getElem_cons_drop, List.take_append_drop]
  rw [Falling, ← split_, List.pairwise_append, List.pairwise_cons] at falling
  obtain ⟨-, ⟨after, -⟩, before⟩ := falling
  constructor
  · intro item listed
    rw [List.take_succ_eq_append_getElem within, List.mem_append, List.mem_singleton] at listed
    obtain earlier | rfl := listed
    · exact (before item earlier _ (List.mem_cons_self ..)).le
    · exact le_rfl
  · intro item listed
    rw [← List.getElem_cons_drop within, List.mem_cons] at listed
    obtain rfl | later := listed
    · exact le_rfl
    · exact (after item later).le

/-- The alerts before one place are newer, those from another place on are not. -/
structure Cut (items : List AlertOut) (id low high : ℕ) : Prop where
  ordered : low ≤ high
  within : high ≤ items.length
  newer : ∀ item ∈ items.take low, id < item.id
  older : ∀ item ∈ items.drop high, item.id ≤ id

/-- The bisection ends at the one place where an alert can be put. -/
theorem bisect_cut (falling : Falling items) {rounds low high : ℕ} (cut : Cut items id low high)
    (enough : high ≤ low + rounds) :
    Cut items id (bisect items id rounds low high) (bisect items id rounds low high) := by
  induction rounds generalizing low high with
  | zero =>
      obtain rfl : low = high := le_antisymm cut.ordered (by omega)
      exact cut
  | succ rounds ih =>
      obtain ⟨ordered, within, newer, older⟩ := cut
      rw [bisect]
      split
      case isTrue apart =>
          have inside : (low + high) / 2 < items.length := by omega
          obtain ⟨before, after⟩ := falling_split falling inside
          dsimp only
          rw [List.getElem?_eq_getElem inside, Option.map_some, Option.any_some]
          split
          case isTrue higher =>
              rw [decide_eq_true_eq] at higher
              refine ih ⟨by omega, within, fun item listed => ?_, older⟩ (by omega)
              exact higher.trans_le (before item listed)
          case isFalse notHigher =>
              rw [decide_eq_true_eq, gt_iff_lt, not_lt] at notHigher
              refine ih ⟨by omega, inside.le, newer, fun item listed => ?_⟩ (by omega)
              exact (after item listed).trans notHigher
      case isFalse together =>
          obtain rfl : low = high := le_antisymm ordered (by omega)
          exact ⟨le_rfl, within, newer, older⟩

/-- Bisecting puts an alert where sorting would. -/
theorem insert_eq_orderedInsert (falling : Falling items) (alert : AlertOut) :
    items.take (insertionIndex items alert.id) ++
        alert :: items.drop (insertionIndex items alert.id) =
      items.orderedInsert NewerFirst alert := by
  have whole : Cut items alert.id 0 items.length :=
    ⟨Nat.zero_le _, le_rfl, by simp, by simp⟩
  obtain ⟨-, -, newer, older⟩ := bisect_cut falling whole (Nat.le_add_left _ _)
  have inserted := TopRanked.orderedInsert_append (r := NewerFirst)
    (fun item listed => not_le.mpr (newer item listed)) older
  rw [List.take_append_drop] at inserted
  exact inserted.symm

end Insertion

/-! ## Eviction -/

section Eviction

variable {log : AlertLog} {capacity : ℕ} {alert : AlertOut}

theorem pop_lastId (log : AlertLog) : log.pop.lastId = log.lastId := by
  unfold pop
  split <;> rfl

theorem pop_spec (consistent : log.Consistent) :
    log.pop.Consistent ∧ log.pop.items = log.items.dropLast := by
  unfold pop
  split
  case h_1 last isLast =>
      obtain ⟨front, whole⟩ := List.getLast?_eq_some_iff.mp isLast
      obtain ⟨ids, distinct⟩ := consistent
      refine ⟨⟨fun id => ?_, ?_⟩, rfl⟩
      · rw [KeySet.mem_discard, ids, whole, List.dropLast_concat, List.map_append, List.mem_append]
        rw [whole, List.map_append, List.nodup_append] at distinct
        have apart : id ∈ front.map AlertOut.id → id ≠ last.id := fun earlier =>
          distinct.2.2 id earlier last.id (by simp)
        simp only [List.map_cons, List.map_nil, List.mem_singleton]
        tauto
      · exact distinct.sublist ((List.dropLast_sublist _).map AlertOut.id)
  case h_2 isEmpty =>
      rw [List.getLast?_eq_none_iff] at isEmpty
      exact ⟨consistent, by rw [isEmpty]; rfl⟩

theorem pop_iterate_spec (consistent : log.Consistent) (count : ℕ) :
    (pop^[count] log).Consistent ∧
      (pop^[count] log).items = log.items.take (log.items.length - count) := by
  induction count with
  | zero => exact ⟨consistent, by simp⟩
  | succ count ih =>
      obtain ⟨stillConsistent, items⟩ := ih
      obtain ⟨popped, shorter⟩ := pop_spec stillConsistent
      rw [Function.iterate_succ_apply']
      refine ⟨popped, ?_⟩
      rw [shorter, items, List.dropLast_eq_take, List.take_take, List.length_take]
      congr 1
      omega

theorem pop_iterate_lastId (log : AlertLog) (count : ℕ) :
    (pop^[count] log).lastId = log.lastId := by
  induction count with
  | zero => rfl
  | succ count ih =>
      rw [Function.iterate_succ_apply', pop_lastId, ih]

/-- What a log of some capacity keeps: its alerts newest first, no more than
fit, and none beyond the highest number seen. -/
structure Bounded (capacity : ℕ) (log : AlertLog) : Prop where
  falling : Falling log.items
  ids : ∀ id, id ∈ log.ids ↔ id ∈ log.items.map AlertOut.id
  fits : log.items.length ≤ capacity
  last : ∀ id, Below log.lastId id → ∀ item ∈ log.items, item.id < id

theorem bounded_empty (capacity : ℕ) : Bounded capacity empty where
  falling := List.Pairwise.nil
  ids := fun id => by simp [empty]
  fits := Nat.zero_le _
  last := fun id _ item listed => by simp [empty] at listed

theorem Falling.nodup {items : List AlertOut} (falling : Falling items) :
    (items.map AlertOut.id).Nodup :=
  List.pairwise_map.mpr (falling.imp fun newer => newer.ne')

theorem falling_of_nodup {items : List AlertOut} (sorted : items.Pairwise NewerFirst)
    (distinct : (items.map AlertOut.id).Nodup) : Falling items :=
  (sorted.and (List.pairwise_map.mp distinct)).imp fun both => lt_of_le_of_ne both.1 both.2.symm

theorem Falling.sorted {items : List AlertOut} (falling : Falling items) :
    items.Pairwise NewerFirst :=
  falling.imp fun newer => newer.le

/-- The log with a new alert in its place, before anything is evicted. -/
def inserted (log : AlertLog) (alert : AlertOut) : AlertLog where
  items := log.items.orderedInsert NewerFirst alert
  ids := log.ids.add alert.id
  lastId := raiseLastId log.lastId alert.id

theorem Bounded.inserted_consistent (bounded : Bounded capacity log)
    (new : alert.id ∉ log.ids) : (log.inserted alert).Consistent := by
  have rearranged : ((log.items.orderedInsert NewerFirst alert).map AlertOut.id).Perm
      (alert.id :: log.items.map AlertOut.id) :=
    (List.perm_orderedInsert NewerFirst alert log.items).map AlertOut.id
  constructor
  · intro id
    rw [inserted, KeySet.mem_add, rearranged.mem_iff, List.mem_cons, bounded.ids]
  · rw [inserted, rearranged.nodup_iff, List.nodup_cons]
    exact ⟨fun listed => new ((bounded.ids _).mpr listed), bounded.falling.nodup⟩

theorem addWithin_lastId (new : alert.id ∉ log.ids) :
    (log.addWithin capacity alert).1.lastId = raiseLastId log.lastId alert.id := by
  rw [addWithin, if_neg new]
  exact pop_iterate_lastId _ _

/-- A new alert is put in its place, and what no longer fits is evicted. -/
theorem Bounded.addWithin_new (bounded : Bounded capacity log) (new : alert.id ∉ log.ids) :
    Bounded capacity (log.addWithin capacity alert).1 ∧
      (log.addWithin capacity alert).1.items =
        (log.items.orderedInsert NewerFirst alert).take capacity := by
  obtain ⟨consistent, items⟩ := pop_iterate_spec (bounded.inserted_consistent new)
    ((log.inserted alert).items.length - capacity)
  have added : (log.addWithin capacity alert).1 =
      pop^[(log.inserted alert).items.length - capacity] (log.inserted alert) := by
    rw [addWithin, if_neg new]
    simp only [insert_eq_orderedInsert bounded.falling]
    rfl
  have cut : (log.addWithin capacity alert).1.items =
      (log.items.orderedInsert NewerFirst alert).take capacity := by
    change _ = (log.inserted alert).items.take capacity
    rw [added, items, List.take_eq_take_iff]
    omega
  have sorted : (log.items.orderedInsert NewerFirst alert).Pairwise NewerFirst :=
    bounded.falling.sorted.orderedInsert alert _
  have falling : Falling (log.items.orderedInsert NewerFirst alert) :=
    falling_of_nodup sorted (bounded.inserted_consistent new).distinct
  refine ⟨⟨?_, ?_, ?_, fun id below item listed => ?_⟩, cut⟩
  · rw [cut]
    exact falling.sublist (List.take_sublist _ _)
  · rw [added]
    exact consistent.ids
  · rw [cut]
    exact List.length_take_le _ _
  · rw [addWithin_lastId new, below_raiseLastId] at below
    rw [cut] at listed
    obtain rfl | held := (List.mem_orderedInsert _).mp (List.mem_of_mem_take listed)
    · exact below.2
    · exact bounded.last id below.1 item held

theorem addWithin_held (held : alert.id ∈ log.ids) : log.addWithin capacity alert = (log, false) :=
  if_pos held

theorem Bounded.addWithin (bounded : Bounded capacity log) (alert : AlertOut) :
    Bounded capacity (log.addWithin capacity alert).1 := by
  by_cases held : alert.id ∈ log.ids
  · rw [addWithin_held held]
    exact bounded
  · exact (bounded.addWithin_new held).1

end Eviction

section Series

variable {log : AlertLog} {capacity : ℕ}

theorem addManyWithin_fst (log : AlertLog) (alerts : List AlertOut) :
    (log.addManyWithin capacity alerts).1 =
      alerts.foldl (fun current alert => (current.addWithin capacity alert).1) log :=
  (List.foldl_hom Prod.fst fun _ _ => rfl).symm

theorem addManyWithin_cons (log : AlertLog) (alert : AlertOut) (rest : List AlertOut) :
    (log.addManyWithin capacity (alert :: rest)).1 =
      ((log.addWithin capacity alert).1.addManyWithin capacity rest).1 := by
  rw [addManyWithin_fst, addManyWithin_fst, List.foldl_cons]

theorem Bounded.addManyWithin (bounded : Bounded capacity log) (alerts : List AlertOut) :
    Bounded capacity (log.addManyWithin capacity alerts).1 := by
  induction alerts generalizing log with
  | nil => exact bounded
  | cons alert rest ih =>
      rw [addManyWithin_cons]
      exact ih (bounded.addWithin alert)

/-- Adding new alerts leaves the newest of all. -/
theorem Bounded.addManyWithin_items (bounded : Bounded capacity log) {alerts : List AlertOut}
    (new : ∀ alert ∈ alerts, alert.id ∉ log.items.map AlertOut.id)
    (distinct : (alerts.map AlertOut.id).Nodup) :
    (log.addManyWithin capacity alerts).1.items = newest capacity (alerts.reverse ++ log.items) := by
  induction alerts generalizing log with
  | nil =>
      rw [List.reverse_nil, List.nil_append, newest,
        TopRanked.top_of_pairwise bounded.falling.sorted, List.take_of_length_le bounded.fits]
      rfl
  | cons alert rest ih =>
      rw [List.forall_mem_cons] at new
      rw [List.map_cons, List.nodup_cons] at distinct
      obtain ⟨nextBounded, nextItems⟩ := bounded.addWithin_new fun held =>
        new.1 ((bounded.ids _).mp held)
      have later : ∀ other ∈ rest,
          other.id ∉ (log.addWithin capacity alert).1.items.map AlertOut.id := by
        intro other listed held
        obtain ⟨item, isHeld, same⟩ := List.mem_map.mp held
        rw [nextItems] at isHeld
        obtain rfl | old := (List.mem_orderedInsert _).mp (List.mem_of_mem_take isHeld)
        · exact distinct.1 (List.mem_map.mpr ⟨other, listed, same.symm⟩)
        · exact new.2 other listed (List.mem_map.mpr ⟨item, old, same⟩)
      have sorted : (log.items.orderedInsert NewerFirst alert).Pairwise NewerFirst :=
        bounded.falling.sorted.orderedInsert alert _
      have sameTop : newest capacity (log.addWithin capacity alert).1.items =
          newest capacity (alert :: log.items) := by
        rw [nextItems, newest, TopRanked.top_take sorted, newest, TopRanked.top,
          List.insertionSort_cons, bounded.falling.sorted.insertionSort_eq]
      rw [addManyWithin_cons, ih nextBounded later distinct.2, List.reverse_cons,
        List.append_assoc]
      exact TopRanked.top_append_congr sameTop rest.reverse

end Series

/-! ## Backfilling -/

/-- Cutting the first of two lists shows behind its place in a prefix of both,
unless the cut is beyond the end of the list or of the prefix. -/
theorem take_append_take_eq_iff {α : Type} {first second : List α}
    (apart : ∀ item ∈ first, item ∉ second) (limit capacity : ℕ) :
    (first.take limit ++ second).take capacity = (first ++ second).take capacity ↔
      first.length ≤ limit ∨ capacity ≤ limit := by
  constructor
  · intro same
    by_contra beyond
    rw [not_or, not_le, not_le] at beyond
    have atLimit := congrArg (fun items => items[limit]?) same
    have cutLength : (first.take limit).length = limit := by
      rw [List.length_take, min_eq_left beyond.1.le]
    simp only [List.getElem?_take, beyond.2, if_true] at atLimit
    rw [List.getElem?_append_left beyond.1, List.getElem?_append_right cutLength.le,
      List.getElem?_eq_getElem beyond.1] at atLimit
    exact apart _ (List.getElem_mem beyond.1) (List.mem_of_getElem? atLimit)
  · rintro (short | small)
    · rw [List.take_of_length_le short]
    · obtain short | long := le_total first.length limit
      · rw [List.take_of_length_le short]
      · have cutLength : (first.take limit).length = limit := by
          rw [List.length_take, min_eq_left long]
        rw [List.take_append_of_le_length (by omega), List.take_append_of_le_length (by omega),
          List.take_take, min_eq_left small]

/-- The user's alerts after the highest number a log has seen, newest first. -/
def missed (userId : Uuid) (db : Db) (log : AlertLog) : List AlertOut :=
  (matchingAlerts db userId ⟨none, log.lastId, none, none⟩).map AlertRow.out

/-- What backfilling does to the log: one page of alerts is asked for and
added. -/
def backfillAlerts (userId : Uuid) (capacity : ℕ) (db : Db) (log : AlertLog) : AlertLog :=
  (log.addManyWithin capacity (AlertSession.backfillPage userId db log.lastId)).1

section Backfill

variable {log : AlertLog} {capacity : ℕ} {userId : Uuid} {db : Db}

theorem backfillPage_eq_take :
    AlertSession.backfillPage userId db log.lastId =
      (missed userId db log).take AlertSession.pageLimit := by
  rw [AlertSession.backfillPage, alertPage_items, missed, List.map_take]

/-- The missed alerts are all newer than those in the log. -/
theorem Bounded.falling_missed (bounded : Bounded capacity log)
    (distinct : (db.alerts.map AlertRow.id).Nodup) :
    Falling (missed userId db log ++ log.items) := by
  rw [Falling, List.pairwise_append]
  refine ⟨List.pairwise_map.mpr (matchingAlerts_strict distinct), bounded.falling, ?_⟩
  intro alert isMissed item held
  obtain ⟨row, matching, rfl⟩ := List.mem_map.mp isMissed
  exact bounded.last _ (AlertSession.admits_afterId.mp (mem_matchingAlerts.mp matching).2.2) item
    held

/-- The newest of any arrangement of alerts are the first of them in order. -/
theorem newest_of_perm {alerts falling : List AlertOut} (arranged : alerts.Perm falling)
    (inOrder : Falling falling) : newest capacity alerts = falling.take capacity :=
  TopRanked.top_of_perm arranged inOrder.sorted fun _ isFirst _ isSecond newer older =>
    List.inj_on_of_nodup_map inOrder.nodup isFirst isSecond (le_antisymm older newer)

/-- One page completes a log exactly when it holds everything that was missed,
or as much as the log has room for. -/
theorem Bounded.backfill_complete_iff (bounded : Bounded capacity log)
    (distinct : (db.alerts.map AlertRow.id).Nodup) :
    (backfillAlerts userId capacity db log).items =
        newest capacity (log.items ++ missed userId db log) ↔
      (missed userId db log).length ≤ AlertSession.pageLimit ∨
        capacity ≤ AlertSession.pageLimit := by
  have falling : Falling (missed userId db log ++ log.items) := bounded.falling_missed distinct
  have all : newest capacity (log.items ++ missed userId db log) =
      (missed userId db log ++ log.items).take capacity :=
    newest_of_perm List.perm_append_comm falling
  have pageFalling : Falling ((missed userId db log).take AlertSession.pageLimit ++ log.items) :=
    falling.sublist ((List.take_sublist _ _).append_right _)
  obtain ⟨-, -, above⟩ := List.pairwise_append.mp pageFalling
  have new : ∀ alert ∈ (missed userId db log).take AlertSession.pageLimit,
      alert.id ∉ log.items.map AlertOut.id := by
    intro alert onPage held
    obtain ⟨item, isHeld, same⟩ := List.mem_map.mp held
    exact (above alert onPage item isHeld).ne same
  have pageDistinct :
      (((missed userId db log).take AlertSession.pageLimit).map AlertOut.id).Nodup :=
    Falling.nodup (List.pairwise_append.mp pageFalling).1
  have filled : (backfillAlerts userId capacity db log).items =
      ((missed userId db log).take AlertSession.pageLimit ++ log.items).take capacity := by
    rw [backfillAlerts, backfillPage_eq_take, bounded.addManyWithin_items new pageDistinct]
    exact newest_of_perm ((List.reverse_perm _).append_right _) pageFalling
  rw [all, filled]
  exact take_append_take_eq_iff (List.disjoint_of_nodup_append falling.nodup.of_map) _ _

/-- One page completes the log of any history of alerts exactly when it holds
everything that was missed, or as much as the log has room for. -/
theorem backfillAlerts_complete_iff (userId : Uuid) (capacity : ℕ) (history : List AlertOut)
    (db : Db) (distinct : (db.alerts.map AlertRow.id).Nodup) (log : AlertLog)
    (reached : (empty.addManyWithin capacity history).1 = log) :
    (backfillAlerts userId capacity db log).items =
        newest capacity (log.items ++ missed userId db log) ↔
      (missed userId db log).length ≤ AlertSession.pageLimit ∨
        capacity ≤ AlertSession.pageLimit := by
  subst reached
  exact ((bounded_empty capacity).addManyWithin history).backfill_complete_iff distinct

end Backfill

/-- One alert more than a page holds, after a log that holds none. -/
def longGap : Db :=
  { Db.fresh ∅ with
    alerts := (List.range 201).map fun index =>
      { userId := 7, zoneId := none, zoneName := "depot", deviceId := "bus-1", kind := .enter,
        position := ⟨0, 0⟩, occurredAt := 0, createdAt := 0, id := index + 1 }
    nextAlertId := 202 }

theorem longGap_distinct : (longGap.alerts.map AlertRow.id).Nodup := by
  simp only [longGap, List.map_map]
  exact List.nodup_range.map fun first second same => by simpa using same

theorem length_missed_longGap : (missed 7 longGap empty).length = 201 := by
  rw [missed, List.length_map, matchingAlerts, List.length_insertionSort, List.filter_eq_self.mpr]
  · simp [longGap]
  · simp [longGap, empty, AlertFilter.admits]

theorem longGap_not_complete :
    (longGap.alerts.map AlertRow.id).Nodup ∧
      (empty.addManyWithin defaultCapacity []).1 = empty ∧
      (backfillAlerts 7 defaultCapacity longGap empty).items ≠
        newest defaultCapacity (empty.items ++ missed 7 longGap empty) := by
  refine ⟨longGap_distinct, rfl, fun complete => ?_⟩
  have enough := ((bounded_empty defaultCapacity).backfill_complete_iff longGap_distinct).mp
    complete
  rw [length_missed_longGap] at enough
  revert enough
  decide

/-- Four alerts of a user after the two that a log has heard of, and one of
another user. -/
def shortGap : Db :=
  { Db.fresh ∅ with
    alerts := ([(1, 7), (2, 7), (3, 7), (4, 7), (5, 8), (6, 7), (7, 7)] : List (ℕ × Uuid)).map
      fun (id, owner) =>
        { userId := owner, zoneId := none, zoneName := "depot", deviceId := "bus-1",
          kind := .enter, position := ⟨0, 0⟩, occurredAt := 0, createdAt := 0, id := id }
    nextAlertId := 8 }

/-- The first two alerts, each told twice and the newer one first. -/
def shortHistory : List AlertOut :=
  ((shortGap.alerts.take 2).map AlertRow.out).reverse ++
    ((shortGap.alerts.take 2).map AlertRow.out).reverse

/-- A log of five alerts that holds two and has missed four. -/
theorem backfillAlerts_complete_of_short_gap :
    ((empty.addManyWithin 5 shortHistory).1.items.map AlertOut.id = [2, 1] ∧
        (missed 7 shortGap (empty.addManyWithin 5 shortHistory).1).map AlertOut.id =
          [7, 6, 4, 3]) ∧
      (backfillAlerts 7 5 shortGap (empty.addManyWithin 5 shortHistory).1).items =
        newest 5 ((empty.addManyWithin 5 shortHistory).1.items ++
          missed 7 shortGap (empty.addManyWithin 5 shortHistory).1) := by
  have four : (missed 7 shortGap (empty.addManyWithin 5 shortHistory).1).map AlertOut.id =
      [7, 6, 4, 3] := by
    decide +kernel
  have few : (missed 7 shortGap (empty.addManyWithin 5 shortHistory).1).length ≤
      AlertSession.pageLimit := by
    rw [← List.length_map AlertOut.id, four]
    decide
  exact ⟨⟨by decide +kernel, four⟩, (backfillAlerts_complete_iff 7 5 shortHistory shortGap
    (by decide) _ rfl).mpr (.inl few)⟩

end AlertLog

end GeoTrack
