import GeoTrack.LabelledRuns
import GeoTrack.OrderedDict

/-!
# The stack of toasts

The dashboard shows its messages in a bounded stack.  A message with a timeout goes
away by itself; one without stays until it is dismissed, and when room is needed it
is the last to go.

Every toast that expires has exactly one running timer, whatever the order of
timers, clicks and evictions, and no toast is evicted while one that is older or
more disposable stays.
-/

namespace GeoTrack

open LabelledRuns

structure ToastMessage where
  title : String
  detail : String := ""
  tone : String := "info"
  timeoutMs : ℤ := 5000
deriving DecidableEq

structure LiveToast where
  id : ℕ
  sticky : Bool
deriving DecidableEq

/-- What the stack keeps of a message. -/
def ToastMessage.entry (message : ToastMessage) (id : ℕ) : LiveToast :=
  ⟨id, decide (message.timeoutMs ≤ 0)⟩

@[simp]
theorem ToastMessage.id_entry (message : ToastMessage) (id : ℕ) : (message.entry id).id = id :=
  rfl

/-- The stack, its cards on the page, and the timers the browser runs for it. -/
structure Toaster where
  maxVisible : ℕ
  expiry : Dict ℕ ℕ
  live : List LiveToast
  nextId : ℕ
  cards : List (ℕ × ToastMessage)
  timers : Dict ℕ ℕ
  nextTimer : ℕ

inductive ToastEvent where
  | shown (message : ToastMessage)
  | clicked (id : ℕ)
  | fired (timer : ℕ)
  | resized (maxVisible : ℕ)
deriving DecidableEq

namespace Toaster

def fresh (maxVisible : ℕ) : Toaster := ⟨maxVisible, ∅, [], 1, [], ∅, 1⟩

def dismiss (id : ℕ) (toaster : Toaster) : Toaster :=
  { toaster with
    timers :=
      match toaster.expiry.get? id with
      | some timer => toaster.timers.erase timer
      | none => toaster.timers
    expiry := toaster.expiry.erase id
    live := toaster.live.filter fun entry => entry.id != id
    cards := toaster.cards.eraseP fun card => card.1 == id }

/-- The oldest toast that is not sticky, or the oldest of all. -/
def oldest? (live : List LiveToast) : Option LiveToast :=
  (live.find? fun entry => !entry.sticky).or live[0]?

/-- Without any toast there is no `oldest.id` to read, and the call throws. -/
def evictOldest (toaster : Toaster) : Option Toaster :=
  (oldest? toaster.live).map fun oldest => toaster.dismiss oldest.id

/-- `while (this.#live.length > bound) this.#evictOldest();` -/
def evictDownTo (bound : ℤ) : ℕ → Toaster → Option Toaster
  | 0, toaster => some toaster
  | rounds + 1, toaster =>
      if bound < toaster.live.length then toaster.evictOldest.bind (evictDownTo bound rounds)
      else some toaster

def setMaxVisible (maxVisible : ℕ) (toaster : Toaster) : Option Toaster :=
  evictDownTo maxVisible (toaster.live.length + 1) { toaster with maxVisible := maxVisible }

/-- Room for one more toast. -/
def makeRoom (toaster : Toaster) : Option Toaster :=
  evictDownTo (toaster.maxVisible - 1) (toaster.live.length + 1) toaster

/-- The toast goes on the page, and to the end of the stack. -/
def push (id : ℕ) (message : ToastMessage) (toaster : Toaster) : Toaster :=
  let pushed :=
    { toaster with
      cards := toaster.cards ++ [(id, message)]
      live := toaster.live ++ [message.entry id] }
  if 0 < message.timeoutMs then
    { pushed with
      expiry := pushed.expiry.set id pushed.nextTimer
      timers := pushed.timers.set pushed.nextTimer id
      nextTimer := pushed.nextTimer + 1 }
  else
    pushed

/-- `show`. -/
def display (message : ToastMessage) (toaster : Toaster) : Option Toaster :=
  { toaster with nextId := toaster.nextId + 1 }.makeRoom.map (push toaster.nextId message)

def step (toaster : Toaster) : ToastEvent → Option Toaster
  | .shown message => toaster.display message
  | .clicked id => if id ∈ toaster.cards.map Prod.fst then some (toaster.dismiss id) else none
  | .fired timer =>
      (toaster.timers.get? timer).map fun id =>
        { toaster with timers := toaster.timers.erase timer }.dismiss id
  | .resized maxVisible => toaster.setMaxVisible maxVisible

/-- There is room for one toast at least. -/
def Roomy : Toaster → ToastEvent → Prop
  | _, .resized maxVisible => 0 < maxVisible
  | _, _ => True

instance (toaster : Toaster) (event : ToastEvent) : Decidable (Roomy toaster event) := by
  cases event <;> unfold Roomy <;> infer_instance

/-- One toast goes before another: disposable before sticky, then the older one. -/
def GoesBefore (first second : LiveToast) : Prop :=
  first.sticky = false ∧ second.sticky = true ∨
    first.sticky = second.sticky ∧ first.id < second.id

/-- Of the toasts of a stack, those that went all go before those that stayed. -/
def Yields (before after : List LiveToast) : Prop :=
  ∀ gone ∈ before, gone ∉ after → ∀ kept ∈ after, kept ∈ before → GoesBefore gone kept

/-- The page and the timers follow the stack. -/
structure Kept (toaster : Toaster) : Prop where
  ordered : toaster.live.Pairwise fun older newer => older.id < newer.id
  numbered : ∀ entry ∈ toaster.live, entry.id < toaster.nextId
  onPage : toaster.cards.map Prod.fst = toaster.live.map LiveToast.id
  timed : ∀ id, id ∈ toaster.expiry ↔ ∃ entry ∈ toaster.live, entry.id = id ∧ entry.sticky = false
  running : ∀ timer id, toaster.timers.get? timer = some id ↔ toaster.expiry.get? id = some timer
  started : ∀ timer ∈ toaster.timers, timer < toaster.nextTimer

variable {toaster after : Toaster} {id : ℕ}

theorem kept_fresh (maxVisible : ℕ) : (fresh maxVisible).Kept where
  ordered := List.Pairwise.nil
  numbered := fun _ listed => absurd listed List.not_mem_nil
  onPage := rfl
  timed := fun id => by simp [fresh, Dict.mem_def]
  running := fun timer id => by simp [fresh]
  started := fun timer listed => by simp [fresh, Dict.mem_def] at listed

theorem Kept.distinct (kept : toaster.Kept) : (toaster.live.map LiveToast.id).Nodup :=
  List.pairwise_map.mpr (kept.ordered.imp Nat.ne_of_lt)

theorem Kept.eq_of_id (kept : toaster.Kept) {one other : LiveToast} (isLive : one ∈ toaster.live)
    (otherLive : other ∈ toaster.live) (same : one.id = other.id) : one = other :=
  List.inj_on_of_nodup_map kept.distinct isLive otherLive same

/-- The timer of a dismissed toast is stopped, and no other. -/
theorem get?_timers_dismiss (kept : toaster.Kept) (timer other : ℕ) :
    (toaster.dismiss id).timers.get? timer = some other ↔
      other ≠ id ∧ toaster.timers.get? timer = some other := by
  simp only [dismiss]
  cases found : toaster.expiry.get? id with
  | none =>
      constructor
      · intro isRunning
        refine ⟨?_, isRunning⟩
        rintro rfl
        rw [kept.running, found] at isRunning
        cases isRunning
      · exact And.right
  | some stopped =>
      rw [Dict.get?_erase]
      split
      case isTrue same =>
          subst same
          rw [(kept.running timer id).mpr found]
          constructor
          · rintro ⟨⟩
          · rintro ⟨differs, same⟩
            exact absurd (Option.some.inj same).symm differs
      case isFalse differs =>
          constructor
          · intro isRunning
            refine ⟨?_, isRunning⟩
            rintro rfl
            rw [kept.running, found] at isRunning
            exact differs (Option.some.inj isRunning).symm
          · exact And.right

theorem map_fst_eraseP (cards : List (ℕ × ToastMessage)) (distinct : (cards.map Prod.fst).Nodup) :
    (cards.eraseP fun card => card.1 == id).map Prod.fst =
      (cards.map Prod.fst).filter fun other => other != id := by
  have mapped : (cards.eraseP fun card => card.1 == id).map Prod.fst =
      (cards.map Prod.fst).erase id := by
    rw [List.erase_eq_eraseP', List.eraseP_map]
    rfl
  rw [mapped, distinct.erase_eq_filter]

theorem Kept.dismiss (kept : toaster.Kept) (id : ℕ) : (toaster.dismiss id).Kept where
  ordered := kept.ordered.filter _
  numbered := fun entry listed => kept.numbered entry (List.mem_filter.mp listed).1
  onPage := by
    change (toaster.cards.eraseP fun card => card.1 == id).map Prod.fst = _
    rw [map_fst_eraseP _ (by rw [kept.onPage]; exact kept.distinct), kept.onPage,
      List.filter_map]
    rfl
  timed := by
    intro other
    change other ∈ toaster.expiry.erase id ↔ _
    rw [Dict.mem_erase, kept.timed]
    constructor
    · rintro ⟨differs, entry, listed, rfl, expires⟩
      exact ⟨entry, List.mem_filter.mpr ⟨listed, bne_iff_ne.mpr differs⟩, rfl, expires⟩
    · rintro ⟨entry, listed, rfl, expires⟩
      obtain ⟨isLive, differs⟩ := List.mem_filter.mp listed
      exact ⟨bne_iff_ne.mp differs, entry, isLive, rfl, expires⟩
  running := by
    intro timer other
    rw [get?_timers_dismiss kept, kept.running]
    change _ ↔ (toaster.expiry.erase id).get? other = some timer
    rw [Dict.get?_erase]
    split
    case isTrue same => simp [same]
    case isFalse differs => simp [differs]
  started := by
    intro timer listed
    apply kept.started
    simp only [Toaster.dismiss] at listed
    split at listed
    case h_1 => exact (Dict.mem_erase.mp listed).2
    case h_2 => exact listed

theorem Kept.live_dismiss (kept : toaster.Kept) {entry : LiveToast}
    (isLive : entry ∈ toaster.live) :
    (toaster.dismiss entry.id).live = toaster.live.erase entry := by
  rw [(kept.distinct.of_map _).erase_eq_filter]
  refine List.filter_congr fun other listed => ?_
  by_cases same : other = entry
  · rw [same, bne_self_eq_false, bne_self_eq_false]
  · have differs : other.id ≠ entry.id := fun sameId => same (kept.eq_of_id listed isLive sameId)
    rw [bne_iff_ne.mpr differs, bne_iff_ne.mpr same]

/-- The toast to evict goes before every other. -/
theorem goesBefore_of_oldest {live : List LiveToast}
    (ordered : live.Pairwise fun older newer => older.id < newer.id) {oldest : LiveToast}
    (found : oldest? live = some oldest) :
    oldest ∈ live ∧ ∀ other ∈ live, other.id ≠ oldest.id → GoesBefore oldest other := by
  rw [oldest?] at found
  cases disposable : live.find? fun entry => !entry.sticky with
  | some entry =>
      rw [disposable] at found
      obtain rfl := Option.some.inj found
      obtain ⟨expires, before, behind, rfl, allSticky⟩ :=
        List.find?_eq_some_iff_append.mp disposable
      refine ⟨by simp, fun other listed differs => ?_⟩
      rw [Bool.not_eq_true'] at expires
      rcases List.mem_append.mp listed with early | late
      · exact Or.inl ⟨expires, by simpa using allSticky other early⟩
      · rcases List.mem_cons.mp late with rfl | newer
        · exact absurd rfl differs
        · cases isSticky : other.sticky with
          | true => exact Or.inl ⟨expires, isSticky⟩
          | false =>
              have increasing := (List.pairwise_append.mp ordered).2.1
              exact Or.inr ⟨expires.trans isSticky.symm,
                (List.pairwise_cons.mp increasing).1 other newer⟩
  | none =>
      rw [disposable] at found
      have allSticky : ∀ entry ∈ live, entry.sticky = true := by
        simpa using List.find?_eq_none.mp disposable
      cases live with
      | nil => cases found
      | cons first rest =>
          obtain rfl : first = oldest := Option.some.inj found
          refine ⟨List.mem_cons_self, fun other listed differs => Or.inr ⟨?_, ?_⟩⟩
          · rw [allSticky first List.mem_cons_self, allSticky other listed]
          · rcases List.mem_cons.mp listed with rfl | newer
            · exact absurd rfl differs
            · exact (List.pairwise_cons.mp ordered).1 other newer

theorem exists_oldest {live : List LiveToast} (some_ : live ≠ []) :
    ∃ oldest, oldest? live = some oldest := by
  cases live with
  | nil => exact absurd rfl some_
  | cons first rest =>
      rw [oldest?]
      cases (first :: rest).find? fun entry => !entry.sticky with
      | some entry => exact ⟨entry, rfl⟩
      | none => exact ⟨first, rfl⟩

/-- Toasts were evicted until the stack was no longer than `bound`. -/
structure Thinned (bound : ℕ) (toaster after : Toaster) : Prop where
  kept : after.Kept
  fits : after.live.length = min toaster.live.length bound
  shorter : after.live.Sublist toaster.live
  yields : Yields toaster.live after.live
  maxVisible : after.maxVisible = toaster.maxVisible
  nextId : after.nextId = toaster.nextId

theorem thinned_evictDownTo (kept : toaster.Kept) {bound rounds : ℕ}
    (enough : toaster.live.length ≤ bound + rounds) :
    ∃ after, evictDownTo bound rounds toaster = some after ∧ toaster.Thinned bound after := by
  induction rounds generalizing toaster with
  | zero =>
      refine ⟨toaster, rfl, kept, by omega, List.Sublist.refl _, ?_, rfl, rfl⟩
      exact fun gone listed absent => absurd listed absent
  | succ rounds ih =>
      rw [evictDownTo]
      split
      case isFalse fits =>
          refine ⟨toaster, rfl, kept, by omega, List.Sublist.refl _, ?_, rfl, rfl⟩
          exact fun gone listed absent => absurd listed absent
      case isTrue long =>
          have some_ : toaster.live ≠ [] := by
            intro none_
            rw [none_, List.length_nil] at long
            omega
          obtain ⟨oldest, found⟩ := exists_oldest some_
          obtain ⟨isLive, first⟩ := goesBefore_of_oldest kept.ordered found
          have length : (toaster.dismiss oldest.id).live.length + 1 = toaster.live.length := by
            rw [kept.live_dismiss isLive, List.length_erase_add_one isLive]
          obtain ⟨after, evicted, thinned⟩ := ih (kept.dismiss oldest.id) (by omega)
          refine ⟨after, ?_, thinned.kept, ?_, ?_, ?_, thinned.maxVisible, thinned.nextId⟩
          · rw [evictOldest, found]
            exact evicted
          · rw [thinned.fits]
            omega
          · exact thinned.shorter.trans List.filter_sublist
          · intro gone listed absent stays stayed was
            have left := List.mem_filter.mp (thinned.shorter.subset stayed)
            by_cases isOldest : gone.id = oldest.id
            · rw [kept.eq_of_id listed isLive isOldest]
              exact first stays was (bne_iff_ne.mp left.2)
            · have later : gone ∈ (toaster.dismiss oldest.id).live :=
                List.mem_filter.mpr ⟨listed, bne_iff_ne.mpr isOldest⟩
              exact thinned.yields gone later absent stays stayed (List.mem_filter.mpr left)

@[simp]
theorem live_push (message : ToastMessage) :
    (toaster.push id message).live = toaster.live ++ [message.entry id] := by
  unfold push
  split <;> rfl

@[simp]
theorem maxVisible_push (message : ToastMessage) :
    (toaster.push id message).maxVisible = toaster.maxVisible := by
  unfold push
  split <;> rfl

/-- A new toast goes on top. -/
theorem Kept.push (kept : toaster.Kept) (message : ToastMessage) (numbered : id < toaster.nextId)
    (new : ∀ entry ∈ toaster.live, entry.id < id) : (toaster.push id message).Kept := by
  have unknown : ∀ timer, toaster.expiry.get? id ≠ some timer := by
    intro timer found
    obtain ⟨entry, isLive, rfl, _⟩ := (kept.timed id).mp (Dict.mem_iff_exists.mpr ⟨timer, found⟩)
    exact lt_irrefl _ (new entry isLive)
  have unused : ∀ other, toaster.expiry.get? other ≠ some toaster.nextTimer := by
    intro other found
    have isRunning := (kept.running _ _).mpr found
    exact lt_irrefl _ (kept.started _ (Dict.mem_iff_exists.mpr ⟨other, isRunning⟩))
  have ordered : (toaster.live ++ [message.entry id]).Pairwise
      fun older newer => older.id < newer.id := by
    refine List.pairwise_append.mpr ⟨kept.ordered, List.pairwise_singleton _ _, ?_⟩
    intro entry isLive other isNew
    rw [List.mem_singleton.mp isNew]
    exact new entry isLive
  have allNumbered : ∀ entry ∈ toaster.live ++ [message.entry id],
      entry.id < toaster.nextId := by
    intro entry listed
    rcases List.mem_append.mp listed with isLive | isNew
    · exact kept.numbered entry isLive
    · rw [List.mem_singleton.mp isNew]
      exact numbered
  unfold Toaster.push
  split
  case isTrue expires =>
      refine ⟨ordered, allNumbered, by simp [kept.onPage], ?_, ?_, ?_⟩
      · intro other
        have notSticky : (message.entry id).sticky = false := decide_eq_false (not_le.mpr expires)
        rw [Dict.mem_set, kept.timed]
        constructor
        · rintro (rfl | ⟨entry, isLive, same, isDisposable⟩)
          · exact ⟨_, by simp, rfl, notSticky⟩
          · exact ⟨entry, List.mem_append_left _ isLive, same, isDisposable⟩
        · rintro ⟨entry, listed, rfl, isDisposable⟩
          rcases List.mem_append.mp listed with isLive | isNew
          · exact Or.inr ⟨entry, isLive, rfl, isDisposable⟩
          · rw [List.mem_singleton.mp isNew]
            exact Or.inl rfl
      · intro timer other
        rw [Dict.get?_set, Dict.get?_set]
        by_cases isNewTimer : timer = toaster.nextTimer <;> by_cases isNew : other = id
        · simp [isNewTimer, isNew]
        · have differs : id ≠ other := fun same => isNew same.symm
          simp [isNewTimer, isNew, differs, unused other]
        · have differs : toaster.nextTimer ≠ timer := fun same => isNewTimer same.symm
          simp [isNewTimer, isNew, differs, kept.running, unknown timer]
        · simp [isNewTimer, isNew, kept.running]
      · intro timer listed
        rcases Dict.mem_set.mp listed with rfl | earlier
        · exact Nat.lt_succ_self _
        · exact Nat.lt_succ_of_lt (kept.started timer earlier)
  case isFalse stays =>
      refine ⟨ordered, allNumbered, by simp [kept.onPage], ?_, kept.running, kept.started⟩
      intro other
      have isSticky : (message.entry id).sticky = true := decide_eq_true (not_lt.mp stays)
      rw [kept.timed]
      constructor
      · rintro ⟨entry, isLive, same, isDisposable⟩
        exact ⟨entry, List.mem_append_left _ isLive, same, isDisposable⟩
      · rintro ⟨entry, listed, same, isDisposable⟩
        rcases List.mem_append.mp listed with isLive | isNew
        · exact ⟨entry, isLive, same, isDisposable⟩
        · rw [List.mem_singleton.mp isNew, isSticky] at isDisposable
          cases isDisposable

/-- A stack after a message, or after its ceiling has moved. -/
structure Yielded (ceiling : ℕ) (toaster after : Toaster) (shown : List LiveToast) : Prop where
  kept : after.Kept
  filled : after.live.length = min (toaster.live.length + shown.length) ceiling
  onTop : shown.Sublist after.live
  sublist : after.live.Sublist (toaster.live ++ shown)
  yields : Yields toaster.live after.live
  maxVisible : after.maxVisible = ceiling

theorem display_spec (kept : toaster.Kept) (roomy : 0 < toaster.maxVisible)
    (message : ToastMessage) :
    ∃ after, toaster.display message = some after ∧
      toaster.Yielded toaster.maxVisible after [message.entry toaster.nextId] := by
  have counted : Kept { toaster with nextId := toaster.nextId + 1 } :=
    ⟨kept.ordered, fun entry isLive => Nat.lt_succ_of_lt (kept.numbered entry isLive),
      kept.onPage, kept.timed, kept.running, kept.started⟩
  obtain ⟨room, evicted, thinned⟩ :=
    @thinned_evictDownTo _ counted (toaster.maxVisible - 1) (toaster.live.length + 1)
      (by dsimp only; omega)
  have bound : ((toaster.maxVisible - 1 : ℕ) : ℤ) = toaster.maxVisible - 1 := by omega
  have length := thinned.fits
  refine ⟨room.push toaster.nextId message, ?_, ?_, ?_, ?_, ?_, ?_, ?_⟩
  · rw [bound] at evicted
    rw [display, makeRoom, evicted]
    rfl
  · refine thinned.kept.push message ?_ fun entry isLive => ?_
    · rw [thinned.nextId]
      exact Nat.lt_succ_self _
    · exact kept.numbered entry (thinned.shorter.subset isLive)
  · rw [live_push, List.length_append]
    simp only [List.length_singleton] at length ⊢
    omega
  · rw [live_push]
    exact List.sublist_append_right ..
  · rw [live_push]
    exact thinned.shorter.append_right _
  · intro gone wasLive absent stays stayed was
    rw [live_push] at absent stayed
    rcases List.mem_append.mp stayed with isLive | isNew
    · exact thinned.yields gone wasLive (fun listed => absent (List.mem_append_left _ listed))
        stays isLive was
    · have number := kept.numbered stays was
      rw [List.mem_singleton.mp isNew] at number
      exact absurd number (lt_irrefl _)
  · rw [maxVisible_push, thinned.maxVisible]

theorem setMaxVisible_spec (kept : toaster.Kept) (ceiling : ℕ) :
    ∃ after, toaster.setMaxVisible ceiling = some after ∧ toaster.Yielded ceiling after [] := by
  have moved : Kept { toaster with maxVisible := ceiling } :=
    ⟨kept.ordered, kept.numbered, kept.onPage, kept.timed, kept.running, kept.started⟩
  obtain ⟨after, evicted, thinned⟩ :=
    @thinned_evictDownTo _ moved ceiling (toaster.live.length + 1) (by dsimp only; omega)
  exact ⟨after, evicted, thinned.kept, thinned.fits, List.nil_sublist _,
    thinned.shorter.trans (List.sublist_append_left ..), thinned.yields, thinned.maxVisible⟩

/-- The timer that fired is not running any more, so there is none to stop. -/
theorem dismiss_fired (kept : toaster.Kept) {timer : ℕ}
    (found : toaster.timers.get? timer = some id) :
    { toaster with timers := toaster.timers.erase timer }.dismiss id = toaster.dismiss id := by
  have own := (kept.running timer id).mp found
  have stopped : timer ∉ toaster.timers.erase timer := fun listed =>
    (Dict.mem_erase.mp listed).1 rfl
  simp only [dismiss, own, Dict.erase_of_not_mem stopped]

/-- The stack is kept and within its ceiling, and there is a ceiling. -/
structure Sound (toaster : Toaster) : Prop where
  kept : toaster.Kept
  within : toaster.live.length ≤ toaster.maxVisible
  roomy : 0 < toaster.maxVisible

theorem Sound.dismiss (sound : toaster.Sound) (id : ℕ) : (toaster.dismiss id).Sound where
  kept := sound.kept.dismiss id
  within := (List.length_filter_le ..).trans sound.within
  roomy := sound.roomy

theorem Yielded.sound {ceiling : ℕ} {shown : List LiveToast}
    (yielded : toaster.Yielded ceiling after shown) (roomy : 0 < ceiling) : after.Sound where
  kept := yielded.kept
  within := by
    rw [yielded.filled, yielded.maxVisible]
    exact Nat.min_le_right ..
  roomy := by
    rw [yielded.maxVisible]
    exact roomy

theorem sound_step (sound : toaster.Sound) {event : ToastEvent} (roomy : Roomy toaster event)
    (stepTo : toaster.step event = some after) : after.Sound := by
  cases event with
  | shown message =>
      obtain ⟨next, displayed, yielded⟩ := display_spec sound.kept sound.roomy message
      obtain rfl : next = after := Option.some.inj (displayed.symm.trans stepTo)
      exact yielded.sound sound.roomy
  | clicked id =>
      rw [step] at stepTo
      split at stepTo
      case isTrue => exact Option.some.inj stepTo ▸ sound.dismiss id
      case isFalse => cases stepTo
  | fired timer =>
      rw [step] at stepTo
      obtain ⟨id, found, rfl⟩ := Option.map_eq_some_iff.mp stepTo
      rw [dismiss_fired sound.kept found]
      exact sound.dismiss id
  | resized ceiling =>
      obtain ⟨next, moved, yielded⟩ := setMaxVisible_spec sound.kept ceiling
      obtain rfl : next = after := Option.some.inj (moved.symm.trans stepTo)
      exact yielded.sound roomy

end Toaster

open Toaster in
/-- After any run the page and the timers follow the stack and the stack is within
its ceiling; a message is always shown, and what makes room for it, or for a lower
ceiling, are as few toasts as possible, the disposable and old ones. -/
theorem toasts_make_room {ceiling : ℕ} (roomy : 0 < ceiling) {events : List ToastEvent}
    {toaster : Toaster} (run : Run Toaster.step Roomy (fresh ceiling) events toaster) :
    toaster.Kept ∧ toaster.live.length ≤ toaster.maxVisible ∧
    (∀ message, ∃ after, toaster.step (.shown message) = some after ∧
      toaster.Yielded toaster.maxVisible after [message.entry toaster.nextId]) ∧
    ∀ lower, ∃ after, toaster.step (.resized lower) = some after ∧
      toaster.Yielded lower after [] := by
  have sound : toaster.Sound := by
    refine run.invariant ⟨Toaster.kept_fresh ceiling, Nat.zero_le _, roomy⟩ ?_
    intro before event after sound permitted stepTo
    exact sound_step sound permitted stepTo
  exact ⟨sound.kept, sound.within, display_spec sound.kept sound.roomy,
    setMaxVisible_spec sound.kept⟩

/-- A notice that waits for the user, and alerts that come and go. -/
def crowdedStack : List ToastEvent :=
  [.shown ⟨"Too many sessions", "", "warning", 0⟩, .shown ⟨"Alert", "", "info", 5000⟩,
    .shown ⟨"Alert", "", "info", 5000⟩, .fired 2, .shown ⟨"Alert", "", "info", 5000⟩]

theorem toasts_make_room_crowded :
    ∃ toaster after, toaster.live = [⟨1, true⟩, ⟨4, false⟩] ∧
      Toaster.step toaster (.resized 1) = some after ∧ ⟨1, true⟩ ∈ after.live := by
  obtain ⟨toaster, executed, holds⟩ := @exists_of_exec _ _ Toaster.step Toaster.Roomy
    (Toaster.fresh 2) _ (fun toaster => toaster.live = [⟨1, true⟩, ⟨4, false⟩]) _ crowdedStack
    (by decide +kernel)
  obtain ⟨_, _, _, lowered⟩ := toasts_make_room (by decide) (run_of_exec executed)
  obtain ⟨after, moved, yielded⟩ := lowered 1
  refine ⟨toaster, after, holds, moved, ?_⟩
  have one := yielded.filled
  rw [holds] at one
  obtain ⟨stays, alone⟩ := List.length_eq_one_iff.mp one
  have isLive : stays ∈ toaster.live := by
    simpa using yielded.sublist.subset (alone ▸ List.mem_singleton_self stays)
  by_contra gone
  have goesBefore := yielded.yields ⟨1, true⟩ (by rw [holds]; decide) gone stays
    (alone ▸ List.mem_singleton_self stays) isLive
  rw [holds] at isLive
  rw [alone, List.mem_singleton] at gone
  rcases List.mem_cons.mp isLive with rfl | other
  · exact gone rfl
  · obtain rfl := List.mem_singleton.mp other
    rcases goesBefore with ⟨disposable, _⟩ | ⟨same, _⟩
    · cases disposable
    · cases same

end GeoTrack
