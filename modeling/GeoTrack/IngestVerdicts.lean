import GeoTrack.LoadAccounting
import Mathlib.Algebra.Order.BigOperators.Group.List
import Mathlib.Tactic.Ring

/-!
# Verdicts on frames

The server answers the frames of a socket in the order they were sent, however
late.  An acknowledgement counts the reports it names, and an error counts those
noted for its frame.  An error without a number is booked on the frame that was
sent last, which takes the place of the refused one: from then on it answers for
no more reports than that one did.

So verdicts stay within what was sent unless a frame is acknowledged that took
the place of a smaller one, or a send is broken off whose frame has been
answered or has taken such a place.
-/

namespace GeoTrack

open LabelledRuns

variable {ν σ : Type} [FloatMath ν]

section Model

/-- A frame that was put on the wire and has no answer yet.  The allowance is
the number of reports that may still be counted on its account. -/
structure AwaitedFrame where
  seq : ℤ
  size : ℕ
  allowance : ℕ

inductive Verdict (ν : Type) where
  | accepted
  /-- Out of the window, or the queue is not reachable. -/
  | refused
  /-- Refused before its number was read. -/
  | unreadable
  /-- Shed, with a pause to keep. -/
  | shed (retryAfterMs : ν)

def Verdict.frame (answered : AwaitedFrame) : Verdict ν → IngestFrame ν
  | .accepted => .ack (some answered.seq) (some answered.size)
  | .refused => .error (some answered.seq)
  | .unreadable => .error none
  | .shed retryAfterMs => .throttle (some retryAfterMs)

/-- What the server may send without being asked. -/
def IngestFrame.unasked : IngestFrame ν → Bool
  | .ack _ _ => false
  | .error _ => false
  | _ => true

/-- Everything but an answer. -/
def WorkerEvent.unasked : WorkerEvent ν → Bool
  | .receive _ frame => frame.unasked
  | _ => true

/-- A send under way does not return. -/
def WorkerEvent.breaksOff : WorkerEvent ν → Bool
  | .sendFails => true
  | .crash => true
  | .cancel => true
  | _ => false

def WorkerStage.Sending : WorkerStage ν → Prop
  | .sending _ _ _ => True
  | _ => False

instance (stage : WorkerStage ν) : Decidable stage.Sending :=
  match stage with
  | .sending _ _ _ => isTrue trivial
  | .waiting => isFalse not_false
  | .connecting => isFalse not_false
  | .idle => isFalse not_false
  | .cancelled => isFalse not_false

/-- A worker with the frames on its wire, the oldest first. -/
structure IngestLine (ν σ : Type) where
  worker : WebsocketWorker ν σ
  wire : List AwaitedFrame

inductive LineEvent (ν : Type) where
  | task (event : WorkerEvent ν)
  /-- The answer to the oldest frame arrives. -/
  | answer (now : ν) (verdict : Verdict ν)

namespace IngestLine

variable (source : RandomSource ν σ) (config : LoadConfig ν)

/-- A new number is a new frame on the wire; with the session its frames are
gone. -/
def follow (line : IngestLine ν σ) (moved : WebsocketWorker ν σ) : IngestLine ν σ :=
  match moved.stage with
  | .idle => { line with worker := moved }
  | .sending _ chunk _ =>
      if moved.seq = line.worker.seq then { line with worker := moved }
      else ⟨moved, line.wire ++ [⟨moved.seq, chunk.length, chunk.length⟩]⟩
  | _ => ⟨moved, []⟩

/-- A frame is taken for the one that was refused. -/
def takePlace (refused : AwaitedFrame) (seq : ℤ) (wire : List AwaitedFrame) : List AwaitedFrame :=
  wire.map fun frame =>
    if frame.seq = seq then { frame with allowance := refused.allowance } else frame

/-- The frames that are left after an answer. -/
def answered (worker : WebsocketWorker ν σ) (oldest : AwaitedFrame) (rest : List AwaitedFrame) :
    Verdict ν → List AwaitedFrame
  | .unreadable =>
      match worker.pending.get? worker.seq with
      | some _ => takePlace oldest worker.seq rest
      | none => rest
  | _ => rest

def step (stats : LoadStats) (line : IngestLine ν σ) :
    LineEvent ν → Option (LoadStats × IngestLine ν σ)
  | .task event =>
      if event.unasked then
        (line.worker.step source config stats event).map fun (counted, moved) =>
          (counted, line.follow moved)
      else
        none
  | .answer now verdict =>
      match line.wire with
      | [] => none
      | oldest :: rest =>
          (line.worker.step source config stats (.receive now (verdict.frame oldest))).map
            fun (counted, moved) => (counted, ⟨moved, answered line.worker oldest rest verdict⟩)

/-- No reports are counted twice: what is acknowledged is allowed for, and so is
what a send under way would have counted. -/
def CountsOnce (line : IngestLine ν σ) : LineEvent ν → Prop
  | .answer _ .accepted => ∀ frame ∈ line.wire.head?, frame.size ≤ frame.allowance
  | .task event =>
      event.breaksOff = true → line.worker.stage.Sending →
        ∃ frame ∈ line.wire, frame.seq = line.worker.seq ∧ frame.size ≤ frame.allowance
  | _ => True

instance (line : IngestLine ν σ) (event : LineEvent ν) : Decidable (line.CountsOnce event) :=
  match event with
  | .answer _ .accepted =>
      inferInstanceAs (Decidable (∀ frame ∈ line.wire.head?, frame.size ≤ frame.allowance))
  | .answer _ .refused => isTrue trivial
  | .answer _ .unreadable => isTrue trivial
  | .answer _ (.shed _) => isTrue trivial
  | .task event => inferInstanceAs (Decidable (event.breaksOff = true →
      line.worker.stage.Sending → ∃ frame ∈ line.wire, frame.seq = line.worker.seq ∧
        frame.size ≤ frame.allowance))

end IngestLine

/-- The workers of a run share its counters. -/
structure IngestExchange (ν σ : Type) where
  stats : LoadStats
  lines : List (IngestLine ν σ)

namespace IngestExchange

variable (source : RandomSource ν σ) (config : LoadConfig ν)

/-- Every worker has its own slice of the fleet. -/
def fresh (slices : List (List (DeviceState ν))) : IngestExchange ν σ where
  stats := .zero
  lines := slices.mapIdx fun index states => ⟨.fresh source config index states, []⟩

def step (exchange : IngestExchange ν σ) (event : ℕ × LineEvent ν) :
    Option (IngestExchange ν σ) :=
  match exchange.lines[event.1]? with
  | some line =>
      (line.step source config exchange.stats event.2).map fun (counted, after) =>
        ⟨counted, exchange.lines.set event.1 after⟩
  | none => none

def CountsOnce (exchange : IngestExchange ν σ) (event : ℕ × LineEvent ν) : Prop :=
  ∀ line ∈ exchange.lines[event.1]?, line.CountsOnce event.2

instance (exchange : IngestExchange ν σ) (event : ℕ × LineEvent ν) :
    Decidable (exchange.CountsOnce event) :=
  inferInstanceAs (Decidable (∀ line ∈ exchange.lines[event.1]?, line.CountsOnce event.2))

/-- Every `socket.send` has returned. -/
def AllReturned (exchange : IngestExchange ν σ) : Prop :=
  ∀ line ∈ exchange.lines, ¬ line.worker.stage.Sending

instance (exchange : IngestExchange ν σ) : Decidable exchange.AllReturned :=
  inferInstanceAs (Decidable (∀ line ∈ exchange.lines, ¬ line.worker.stage.Sending))

end IngestExchange

end Model

section Tasks

def WorkerStage.departing : WorkerStage ν → ℕ
  | .sending _ chunk _ => chunk.length
  | _ => 0

/-- The verdicts in excess of what was sent. -/
def LoadStats.excess (stats : LoadStats) : ℤ := stats.accepted + stats.rejected - stats.sent

variable {source : RandomSource ν σ} {config : LoadConfig ν} {stats counted : LoadStats}
  {worker moved : WebsocketWorker ν σ} {event : WorkerEvent ν}

omit [FloatMath ν] in
theorem departing_eq_zero {stage : WorkerStage ν} (returned : ¬ stage.Sending) :
    stage.departing = 0 := by
  cases stage with
  | sending => exact absurd trivial returned
  | _ => rfl

/-- What a step of the worker's own does to its socket: the session is over, no
frame is put on the wire, or one is. -/
inductive SocketEffect (stats : LoadStats) (worker : WebsocketWorker ν σ)
    (event : WorkerEvent ν) : LoadStats → WebsocketWorker ν σ → Prop where
  | ends {counted : LoadStats} {moved : WebsocketWorker ν σ}
      (offline : ∀ line : IngestLine ν σ, line.follow moved = ⟨moved, []⟩)
      (ended : moved.stage.departing = 0)
      (brokenOff : worker.stage.Sending → event.breaksOff = true)
      (same : counted.excess = stats.excess) : SocketEffect stats worker event counted moved
  | quiet {counted : LoadStats} {moved : WebsocketWorker ν σ}
      (seq : moved.seq = worker.seq)
      (pending : moved.pending = worker.pending)
      (stage : moved.stage = .idle ∨ moved.stage = worker.stage ∧ worker.stage.Sending)
      (balanced : counted.excess + worker.stage.departing = stats.excess + moved.stage.departing) :
      SocketEffect stats worker event counted moved
  | sends {counted : LoadStats} {moved : WebsocketWorker ν σ} {undelivered : ℕ}
      {more : List (List (Report ν))} (now : ν) (chunk : List (Report ν))
      (seq : moved.seq = worker.seq + 1)
      (pending : moved.pending = (worker.remember now chunk.length).pending)
      (stage : moved.stage = .sending undelivered chunk more)
      (balanced : counted.excess + worker.stage.departing = stats.excess) :
      SocketEffect stats worker event counted moved

omit [FloatMath ν] in
/-- The rest of a tick is put on the wire frame by frame. -/
theorem sendNext_effect {before : WebsocketWorker ν σ} (now : ν) (undelivered : ℕ)
    (chunks : List (List (Report ν))) (seq : worker.seq = before.seq)
    (pending : worker.pending = before.pending)
    (balanced : counted.excess + before.stage.departing = stats.excess) :
    SocketEffect stats before event counted (worker.sendNext now undelivered chunks) := by
  cases chunks with
  | nil =>
      refine .quiet seq pending (Or.inl rfl) ?_
      rw [balanced]
      exact (add_zero _).symm
  | cons chunk more =>
      refine .sends now chunk (congrArg (· + 1) seq) ?_ rfl balanced
      simp only [WebsocketWorker.sendNext, WebsocketWorker.remember, seq, pending]

theorem wake_effect (source : RandomSource ν σ) (config : LoadConfig ν) (stats : LoadStats)
    (idle : worker.stage = .idle) (now : ν) (moment : ℤ) :
    SocketEffect stats worker (.wake now moment) (worker.wake source config now moment stats).1
      (worker.wake source config now moment stats).2 := by
  unfold WebsocketWorker.wake
  simp only
  split
  · exact .quiet rfl rfl (Or.inl idle) rfl
  split
  · exact .quiet rfl rfl (Or.inl idle) rfl
  · refine sendNext_effect now _ _ rfl rfl ?_
    rw [idle]
    exact add_zero _

/-- What the server sends unasked touches neither the frames nor the verdicts. -/
theorem handle_effect (stats : LoadStats) (online : worker.stage = .idle ∨ worker.stage.Sending) (now : ν)
    {frame : IngestFrame ν} (unasked : frame.unasked = true) :
    SocketEffect stats worker (.receive now frame) (worker.handle now stats frame).1
      (worker.handle now stats frame).2 := by
  have stays : worker.stage = .idle ∨ worker.stage = worker.stage ∧ worker.stage.Sending :=
    online.imp_right fun sending => ⟨rfl, sending⟩
  cases frame with
  | ack | error => cases unasked
  | undecodable | throttle | other => exact .quiet rfl rfl stays rfl

omit [FloatMath ν] in
theorem endSession_excess (stats : LoadStats) (worker : WebsocketWorker ν σ) :
    (worker.endSession stats).excess = stats.excess := by
  unfold WebsocketWorker.endSession
  cases worker.stage <;> rfl

theorem socketEffect_of_step (unasked : event.unasked = true)
    (stepTo : worker.step source config stats event = some (counted, moved)) :
    SocketEffect stats worker event counted moved := by
  have offline {stage : WorkerStage ν} (isStage : worker.stage = stage) (idle : ¬ stage.Sending) :
      worker.stage.Sending → event.breaksOff = true := fun sending =>
    absurd (isStage ▸ sending) idle
  cases WebsocketWorker.moves_of_step stepTo with
  | started waiting => exact .ends (fun _ => rfl) rfl (offline waiting not_false) rfl
  | unclaimed waiting =>
      exact .ends (fun _ => by rw [IngestLine.follow, waiting]) (by rw [waiting]; rfl)
        (offline waiting not_false) rfl
  | connected connecting => exact .quiet rfl rfl (Or.inl rfl) (by rw [connecting]; rfl)
  | connectFails connecting =>
      exact .ends (fun _ => rfl) rfl (offline connecting not_false) rfl
  | woken idle => exact wake_effect source config stats idle _ _
  | sent sending =>
      refine sendNext_effect _ _ _ rfl rfl ?_
      rw [sending]
      simp only [LoadStats.excess, WorkerStage.departing]
      omega
  | received online =>
      refine handle_effect stats (online.imp_right ?_) _ unasked
      rintro ⟨undelivered, chunk, more, sending⟩
      rw [sending]
      trivial
  | sendFails | crashed | cancelled =>
      exact .ends (fun _ => rfl) rfl (fun _ => rfl) (endSession_excess stats worker)

end Tasks

namespace IngestLine

/-- The reports that may still be counted for the frames on the wire. -/
def owed (line : IngestLine ν σ) : ℕ := (line.wire.map AwaitedFrame.allowance).sum

/-- The wire ends with the frame that was sent last, and a frame is allowed for
in full as long as it is noted. -/
structure Sound (line : IngestLine ν σ) : Prop where
  increasing : (line.wire.map AwaitedFrame.seq).Pairwise (· < ·)
  numbered : ∀ frame ∈ line.wire, frame.seq ≤ line.worker.seq
  newest : line.wire ≠ [] → line.worker.seq ∈ line.wire.map AwaitedFrame.seq
  noted : ∀ frame ∈ line.wire, ∀ entry, line.worker.pending.get? frame.seq = some entry →
    entry.2 = frame.size ∧ frame.allowance = frame.size
  departing : line.worker.stage.Sending → ∀ frame ∈ line.wire, frame.seq = line.worker.seq →
    frame.size = line.worker.stage.departing

variable {source : RandomSource ν σ} {config : LoadConfig ν} {stats counted : LoadStats}
  {line after : IngestLine ν σ} {worker moved : WebsocketWorker ν σ} {oldest : AwaitedFrame}
  {rest wire : List AwaitedFrame} {seq : ℤ}

omit [FloatMath ν] in
theorem sound_nil (worker : WebsocketWorker ν σ) : Sound ⟨worker, []⟩ :=
  ⟨List.Pairwise.nil, nofun, fun some => absurd rfl some, nofun, fun _ => nofun⟩

theorem seqs_takePlace (refused : AwaitedFrame) (seq : ℤ) (wire : List AwaitedFrame) :
    (takePlace refused seq wire).map AwaitedFrame.seq = wire.map AwaitedFrame.seq := by
  rw [takePlace, List.map_map]
  apply List.map_congr_left
  intro frame _
  simp only [Function.comp_apply]
  split <;> rfl

theorem takePlace_cons_self (refused : AwaitedFrame) (seq : ℤ) (wire : List AwaitedFrame) :
    takePlace refused seq (refused :: wire) = refused :: takePlace refused seq wire := by
  rw [takePlace, List.map_cons, ← takePlace]
  split <;> rfl

/-- The frame that takes the place of another leaves its own. -/
theorem owed_takePlace (refused : AwaitedFrame) {guessed : AwaitedFrame}
    (distinct : (wire.map AwaitedFrame.seq).Nodup) (listed : guessed ∈ wire) :
    ((takePlace refused guessed.seq wire).map AwaitedFrame.allowance).sum + guessed.allowance =
      (wire.map AwaitedFrame.allowance).sum + refused.allowance := by
  induction wire with
  | nil => cases listed
  | cons head tail ih =>
      rw [List.map_cons, List.nodup_cons] at distinct
      obtain ⟨notLater, laterDistinct⟩ := distinct
      rcases List.mem_cons.mp listed with rfl | later
      · have untouched : takePlace refused guessed.seq tail = tail := by
          refine (List.map_congr_left fun frame inTail => if_neg ?_).trans (List.map_id tail)
          exact fun same => notLater (same ▸ List.mem_map_of_mem inTail)
        rw [takePlace, List.map_cons, if_pos rfl, ← takePlace, untouched]
        simp only [List.map_cons, List.sum_cons]
        omega
      · have differs : head.seq ≠ guessed.seq :=
          fun same => notLater (same ▸ List.mem_map_of_mem later)
        have shorter := ih laterDistinct later
        rw [takePlace, List.map_cons, if_neg differs, ← takePlace]
        simp only [List.map_cons, List.sum_cons]
        omega

omit [FloatMath ν] in
/-- With the oldest frame gone the others keep their numbers, whatever becomes
of their allowances once they are not noted any more. -/
theorem Sound.answer (sound : Sound ⟨worker, oldest :: rest⟩)
    (seqs : wire.map AwaitedFrame.seq = rest.map AwaitedFrame.seq)
    (seq : moved.seq = worker.seq) (stage : moved.stage = worker.stage)
    (frames : ∀ frame ∈ wire, frame ∈ rest ∨ moved.pending.get? frame.seq = none ∧
      ∃ own ∈ rest, own.seq = frame.seq ∧ own.size = frame.size)
    (forgets : ∀ key entry, moved.pending.get? key = some entry →
      worker.pending.get? key = some entry) : Sound ⟨moved, wire⟩ := by
  have increasing := sound.increasing
  rw [List.map_cons, List.pairwise_cons] at increasing
  have own (frame : AwaitedFrame) (listed : frame ∈ wire) :
      ∃ own ∈ rest, own.seq = frame.seq ∧ own.size = frame.size := by
    rcases frames frame listed with kept | ⟨-, own⟩
    · exact ⟨frame, kept, rfl, rfl⟩
    · exact own
  constructor
  · exact seqs ▸ increasing.2
  · intro frame listed
    obtain ⟨kept, inRest, same, -⟩ := own frame listed
    rw [seq, ← same]
    exact sound.numbered kept (List.mem_cons_of_mem _ inRest)
  · intro some
    rw [seq, seqs]
    obtain ⟨frame, listed⟩ := List.exists_mem_of_ne_nil _ some
    obtain ⟨kept, inRest, -⟩ := own frame listed
    have newest := sound.newest (List.cons_ne_nil _ _)
    rw [List.map_cons, List.mem_cons] at newest
    have older := increasing.1 _ (List.mem_map_of_mem inRest)
    have bounded := sound.numbered kept (List.mem_cons_of_mem _ inRest)
    exact newest.resolve_left fun same => by
      change kept.seq ≤ worker.seq at bounded
      rw [same] at bounded
      exact absurd older (not_lt.mpr bounded)
  · intro frame listed entry found
    rcases frames frame listed with kept | ⟨gone, -⟩
    · exact sound.noted frame (List.mem_cons_of_mem _ kept) entry (forgets _ _ found)
    · rw [gone] at found
      cases found
  · intro sending frame listed newest
    obtain ⟨kept, inRest, same, size⟩ := own frame listed
    rw [stage] at sending ⊢
    rw [← size]
    exact sound.departing sending kept (List.mem_cons_of_mem _ inRest) (by rw [same, newest, seq])

omit [FloatMath ν] in
theorem Sound.quiet (sound : line.Sound) (seq : moved.seq = line.worker.seq)
    (pending : moved.pending = line.worker.pending)
    (stage : moved.stage = .idle ∨ moved.stage = line.worker.stage ∧ line.worker.stage.Sending) :
    Sound ⟨moved, line.wire⟩ where
  increasing := sound.increasing
  numbered := by simpa only [seq] using sound.numbered
  newest := by simpa only [seq] using sound.newest
  noted := by simpa only [pending] using sound.noted
  departing := by
    intro sending frame listed newest
    rcases stage with idle | ⟨same, -⟩
    · rw [idle] at sending
      exact sending.elim
    · rw [same] at sending ⊢
      exact sound.departing sending frame listed (newest.trans seq)

omit [FloatMath ν] in
/-- What is noted after a frame is that frame, or was noted before. -/
theorem get?_remember {now : ν} {size : ℕ} {worker : WebsocketWorker ν σ} {entry : ν × ℕ}
    (found : (worker.remember now size).pending.get? seq = some entry) :
    seq = worker.seq + 1 ∧ entry = (now, size) ∨
      seq ≠ worker.seq + 1 ∧ worker.pending.get? seq = some entry := by
  simp only [WebsocketWorker.remember, Dict.get?_eraseAll] at found
  split at found
  case isTrue => cases found
  case isFalse => exact Dict.get?_set_cases found

omit [FloatMath ν] in
theorem Sound.sends (sound : line.Sound) {now : ν} {undelivered : ℕ} {chunk : List (Report ν)}
    {more : List (List (Report ν))} (seq : moved.seq = line.worker.seq + 1)
    (pending : moved.pending = (line.worker.remember now chunk.length).pending)
    (stage : moved.stage = .sending undelivered chunk more) :
    Sound ⟨moved, line.wire ++ [⟨moved.seq, chunk.length, chunk.length⟩]⟩ := by
  have earlier (frame : AwaitedFrame) (listed : frame ∈ line.wire) : frame.seq < moved.seq := by
    have bounded := sound.numbered frame listed
    omega
  constructor
  · rw [List.map_append, List.pairwise_append]
    refine ⟨sound.increasing, List.pairwise_singleton _ _, ?_⟩
    intro older isOlder newer isNewer
    obtain ⟨frame, listed, rfl⟩ := List.mem_map.mp isOlder
    obtain rfl := List.mem_singleton.mp isNewer
    exact earlier frame listed
  · intro frame listed
    rcases List.mem_append.mp listed with old | new
    · exact (earlier frame old).le
    · obtain rfl := List.mem_singleton.mp new
      exact le_rfl
  · intro _
    rw [List.map_append]
    exact List.mem_append_right _ (List.mem_singleton_self _)
  · intro frame listed entry found
    rw [pending] at found
    rcases List.mem_append.mp listed with old | new
    · rcases get?_remember found with ⟨same, -⟩ | ⟨-, before⟩
      · exact absurd (same.trans seq.symm) (earlier frame old).ne
      · exact sound.noted frame old entry before
    · obtain rfl := List.mem_singleton.mp new
      rcases get?_remember found with ⟨-, rfl⟩ | ⟨differs, -⟩
      · exact ⟨rfl, rfl⟩
      · exact absurd seq differs
  · intro _ frame listed newest
    rw [stage]
    rcases List.mem_append.mp listed with old | new
    · exact absurd newest (earlier frame old).ne
    · obtain rfl := List.mem_singleton.mp new
      rfl

/-- A step of the worker's own keeps the wire sound, and counts no more than is
owed. -/
theorem task_spec {event : WorkerEvent ν} (sound : line.Sound)
    (once : line.CountsOnce (.task event)) (unasked : event.unasked = true)
    (stepTo : line.worker.step source config stats event = some (counted, moved)) :
    (line.follow moved).Sound ∧
      counted.excess + (line.follow moved).owed + line.worker.stage.departing ≤
        stats.excess + line.owed + moved.stage.departing := by
  cases socketEffect_of_step unasked stepTo with
  | ends offline ended brokenOff same =>
      rw [offline]
      refine ⟨sound_nil moved, ?_⟩
      rw [same, ended]
      have covered : line.worker.stage.departing ≤ line.owed := by
        by_cases sending : line.worker.stage.Sending
        case neg => rw [departing_eq_zero sending]; exact Nat.zero_le _
        case pos =>
            obtain ⟨frame, listed, newest, allowed⟩ := once (brokenOff sending) sending
            rw [← sound.departing sending frame listed newest]
            exact allowed.trans (List.le_sum_of_mem (List.mem_map_of_mem listed))
      simp only [owed, List.map_nil, List.sum_nil] at covered ⊢
      omega
  | quiet seq pending stage balanced =>
      have follows : line.follow moved = ⟨moved, line.wire⟩ := by
        rcases stage with idle | ⟨same, sending⟩
        · simp only [follow, idle]
        · cases flying : line.worker.stage with
          | sending undelivered chunk more =>
              simp only [follow, same.trans flying, if_pos seq]
          | _ =>
              rw [flying] at sending
              exact sending.elim
      rw [follows]
      refine ⟨sound.quiet seq pending stage, ?_⟩
      simp only [owed]
      omega
  | sends now chunk seq pending stage balanced =>
      have follows : line.follow moved =
          ⟨moved, line.wire ++ [⟨moved.seq, chunk.length, chunk.length⟩]⟩ := by
        simp only [follow, stage]
        exact if_neg (by omega)
      rw [follows]
      refine ⟨sound.sends seq pending stage, ?_⟩
      have departs : moved.stage.departing = chunk.length := by
        rw [stage]
        rfl
      rw [departs]
      simp only [owed, List.map_append, List.map_singleton, List.sum_append, List.sum_singleton]
      omega

/-- An answer keeps the wire sound, and counts no more than was allowed for. -/
theorem answer_spec (stats : LoadStats) (now : ν) {verdict : Verdict ν} (front : line.wire = oldest :: rest)
    (sound : line.Sound) (once : line.CountsOnce (.answer now verdict)) :
    Sound ⟨(line.worker.handle now stats (verdict.frame oldest)).2,
        answered line.worker oldest rest verdict⟩ ∧
      (line.worker.handle now stats (verdict.frame oldest)).1.excess +
          ((answered line.worker oldest rest verdict).map AwaitedFrame.allowance).sum ≤
        stats.excess + line.owed := by
  obtain ⟨worker, wire⟩ := line
  obtain rfl : wire = oldest :: rest := front
  have dropped {moved : WebsocketWorker ν σ} (seq : moved.seq = worker.seq)
      (stage : moved.stage = worker.stage)
      (forgets : ∀ key entry, moved.pending.get? key = some entry →
        worker.pending.get? key = some entry) : Sound ⟨moved, rest⟩ :=
    sound.answer rfl seq stage (fun _ listed => Or.inl listed) forgets
  have forgotten (key : ℤ) : ∀ other entry, (worker.forget key).2.pending.get? other = some entry →
      worker.pending.get? other = some entry :=
    fun _ _ found => (Dict.of_get?_erase found).2
  have amount : owed ⟨worker, oldest :: rest⟩ =
      oldest.allowance + (rest.map AwaitedFrame.allowance).sum := by
    simp only [owed, List.map_cons, List.sum_cons]
  rw [amount]
  cases verdict with
  | accepted =>
      have allowed : oldest.size ≤ oldest.allowance := once oldest rfl
      refine ⟨dropped rfl rfl (forgotten oldest.seq), ?_⟩
      simp only [WebsocketWorker.handle, Verdict.frame, answered, LoadStats.excess,
        Option.getD_some]
      omega
  | shed retryAfterMs =>
      refine ⟨dropped rfl rfl fun _ _ found => found, ?_⟩
      simp only [WebsocketWorker.handle, Verdict.frame, answered, LoadStats.excess]
      omega
  | refused =>
      refine ⟨dropped rfl rfl (forgotten oldest.seq), ?_⟩
      have allowed : (worker.forget oldest.seq).1 ≤ oldest.allowance := by
        unfold WebsocketWorker.forget
        cases found : worker.pending.get? oldest.seq with
        | none => exact Nat.zero_le _
        | some entry =>
            obtain ⟨size, full⟩ := sound.noted oldest (List.mem_cons_self ..) entry found
            exact (size.trans full.symm).le
      simp only [WebsocketWorker.handle, Verdict.frame, answered, LoadStats.excess,
        Option.getD_some]
      omega
  | unreadable =>
      simp only [WebsocketWorker.handle, Verdict.frame, answered, Option.getD_none]
      cases found : worker.pending.get? worker.seq with
      | none =>
          refine ⟨dropped rfl rfl (forgotten worker.seq), ?_⟩
          simp only [WebsocketWorker.forget, found, LoadStats.excess, Option.map_none,
            Option.getD_none]
          omega
      | some entry =>
          obtain ⟨guessed, listed, newest⟩ :=
            List.mem_map.mp (sound.newest (List.cons_ne_nil _ _))
          change guessed.seq = worker.seq at newest
          rw [← newest] at found ⊢
          obtain ⟨size, full⟩ := sound.noted guessed listed entry found
          have traded := owed_takePlace oldest (sound.increasing.imp ne_of_lt) listed
          rw [takePlace_cons_self] at traded
          refine ⟨sound.answer (seqs_takePlace _ _ _) rfl rfl ?_
            (forgotten guessed.seq), ?_⟩
          · intro frame placed
            obtain ⟨own, inRest, rfl⟩ := List.mem_map.mp placed
            split
            case isTrue same =>
                refine Or.inr ⟨?_, own, inRest, rfl, rfl⟩
                exact (Dict.get?_erase _ _ _).trans (if_pos same)
            case isFalse => exact Or.inl inRest
          · simp only [WebsocketWorker.forget, found, LoadStats.excess, Option.map_some,
              Option.getD_some]
            simp only [List.map_cons, List.sum_cons] at traded
            omega

omit [FloatMath ν] in
theorem follow_worker (line : IngestLine ν σ) (moved : WebsocketWorker ν σ) :
    (line.follow moved).worker = moved := by
  unfold follow
  split
  · rfl
  · split <;> rfl
  · rfl

/-- Everything a step of a line can do: the worker moves by itself, or the oldest
frame is answered. -/
inductive Moves (source : RandomSource ν σ) (config : LoadConfig ν) (stats : LoadStats)
    (line : IngestLine ν σ) : LineEvent ν → LoadStats → IngestLine ν σ → Prop where
  | task {own : WorkerEvent ν} {counted : LoadStats} {moved : WebsocketWorker ν σ}
      (unasked : own.unasked = true)
      (workerTo : line.worker.step source config stats own = some (counted, moved)) :
      Moves source config stats line (.task own) counted (line.follow moved)
  | answer {now : ν} {verdict : Verdict ν} {oldest : AwaitedFrame} {rest : List AwaitedFrame}
      {counted : LoadStats} {moved : WebsocketWorker ν σ} (front : line.wire = oldest :: rest)
      (workerTo : line.worker.step source config stats (.receive now (verdict.frame oldest)) =
        some (counted, moved)) :
      Moves source config stats line (.answer now verdict) counted
        ⟨moved, answered line.worker oldest rest verdict⟩

theorem moves_of_step {event : LineEvent ν}
    (stepTo : line.step source config stats event = some (counted, after)) :
    line.Moves source config stats event counted after := by
  cases event with
  | task event =>
      simp only [step] at stepTo
      split at stepTo
      case isFalse => cases stepTo
      case isTrue unasked =>
          obtain ⟨⟨counted, moved⟩, workerTo, same⟩ := Option.map_eq_some_iff.mp stepTo
          obtain ⟨rfl, rfl⟩ := Prod.mk.inj same
          exact .task unasked workerTo
  | answer now verdict =>
      simp only [step] at stepTo
      split at stepTo
      case h_1 => cases stepTo
      case h_2 oldest rest front =>
          obtain ⟨⟨counted, moved⟩, workerTo, same⟩ := Option.map_eq_some_iff.mp stepTo
          obtain ⟨rfl, rfl⟩ := Prod.mk.inj same
          exact .answer front workerTo

/-- The worker of a line takes one step of its own. -/
theorem worker_step {event : LineEvent ν}
    (stepTo : line.step source config stats event = some (counted, after)) :
    ∃ own, line.worker.step source config stats own = some (counted, after.worker) := by
  cases moves_of_step stepTo with
  | task unasked workerTo => exact ⟨_, by rw [workerTo, follow_worker]⟩
  | answer front workerTo => exact ⟨_, workerTo⟩

/-- One step of a socket counts no more than its frames are owed. -/
theorem step_spec {event : LineEvent ν} (sound : line.Sound) (once : line.CountsOnce event)
    (stepTo : line.step source config stats event = some (counted, after)) :
    after.Sound ∧ counted.excess + after.owed + line.worker.stage.departing ≤
      stats.excess + line.owed + after.worker.stage.departing := by
  cases moves_of_step stepTo with
  | task unasked workerTo =>
      rw [follow_worker]
      exact task_spec sound once unasked workerTo
  | @answer now verdict oldest rest _ _ front workerTo =>
      obtain ⟨answeredSound, balanced⟩ := answer_spec stats now front sound once
      have stage := (handle_unsettled stats line.worker now (verdict.frame oldest)).2
      cases WebsocketWorker.moves_of_step workerTo
      refine ⟨answeredSound, ?_⟩
      rw [stage]
      exact add_le_add_left balanced _

end IngestLine

namespace IngestExchange

variable {source : RandomSource ν σ} {config : LoadConfig ν} {exchange after : IngestExchange ν σ}
  {event : ℕ × LineEvent ν}

def owed (exchange : IngestExchange ν σ) : ℕ := (exchange.lines.map IngestLine.owed).sum

def departing (exchange : IngestExchange ν σ) : ℕ :=
  (exchange.lines.map fun line => line.worker.stage.departing).sum

/-- What is counted and what is owed is covered by what was sent and what is
being sent. -/
structure Sound (exchange : IngestExchange ν σ) : Prop where
  lines : ∀ line ∈ exchange.lines, line.Sound
  covered : exchange.stats.excess + exchange.owed ≤ exchange.departing

theorem fresh_sound (source : RandomSource ν σ) (config : LoadConfig ν)
    (slices : List (List (DeviceState ν))) : (fresh source config slices).Sound := by
  have untouched (line : IngestLine ν σ) (listed : line ∈ (fresh source config slices).lines) :
      ∃ worker, line = ⟨worker, []⟩ := by
    obtain ⟨index, bound, rfl⟩ := List.mem_mapIdx.mp listed
    exact ⟨_, rfl⟩
  constructor
  · intro line listed
    obtain ⟨worker, rfl⟩ := untouched line listed
    exact IngestLine.sound_nil worker
  · have nothing : (fresh source config slices).owed = 0 := by
      apply LoadGenerator.sum_map_eq_zero
      intro line listed
      obtain ⟨worker, rfl⟩ := untouched line listed
      rfl
    rw [nothing]
    exact Int.natCast_nonneg _

theorem step_sound (sound : exchange.Sound) (once : exchange.CountsOnce event)
    (stepTo : exchange.step source config event = some after) : after.Sound := by
  obtain ⟨index, event⟩ := event
  unfold step at stepTo
  split at stepTo
  case h_2 => cases stepTo
  case h_1 line found =>
      obtain ⟨⟨counted, moved⟩, lineTo, rfl⟩ := Option.map_eq_some_iff.mp stepTo
      change exchange.lines[index]? = some line at found
      have listed := List.mem_of_getElem? found
      obtain ⟨movedSound, balanced⟩ :=
        IngestLine.step_spec (sound.lines line listed) (once line found) lineTo
      constructor
      · intro other isOther
        rcases List.mem_or_eq_of_mem_set isOther with old | rfl
        · exact sound.lines other old
        · exact movedSound
      · have covered := sound.covered
        have owes := sum_map_set IngestLine.owed found moved
        have departs := sum_map_set (fun line : IngestLine ν σ => line.worker.stage.departing) found
          moved
        simp only [owed, departing] at covered departs ⊢
        omega

/-- In a run that never counts a report twice the verdicts stay within what was
sent, whenever no send is under way. -/
theorem verdicts_within_sent {slices : List (List (DeviceState ν))}
    {events : List (ℕ × LineEvent ν)}
    (run : Run (step source config) CountsOnce (fresh source config slices) events exchange)
    (returned : exchange.AllReturned) :
    exchange.stats.accepted + exchange.stats.rejected ≤ exchange.stats.sent := by
  have sound : exchange.Sound := run.invariant (fresh_sound source config slices)
    fun _ _ _ sound once stepTo => step_sound sound once stepTo
  have nothing : exchange.departing = 0 := by
    apply LoadGenerator.sum_map_eq_zero
    intro line listed
    exact departing_eq_zero (returned line listed)
  have covered := sound.covered
  rw [nothing, LoadStats.excess] at covered
  omega

/-- The workers of an exchange move as those of a run of the generator do. -/
theorem generator_step (stepTo : exchange.step source config event = some after) :
    ∃ own, LoadGenerator.step source config
        ⟨exchange.stats, .ws (exchange.lines.map IngestLine.worker), none⟩ (.worker event.1 own) =
      some ⟨after.stats, .ws (after.lines.map IngestLine.worker), none⟩ := by
  obtain ⟨index, event⟩ := event
  unfold step at stepTo
  split at stepTo
  case h_2 => cases stepTo
  case h_1 line found =>
      obtain ⟨⟨counted, moved⟩, lineTo, rfl⟩ := Option.map_eq_some_iff.mp stepTo
      obtain ⟨own, workerTo⟩ := IngestLine.worker_step lineTo
      refine ⟨own, ?_⟩
      have foundWorker : (exchange.lines.map IngestLine.worker)[index]? = some line.worker := by
        rw [List.getElem?_map, found]
        rfl
      simp only [LoadGenerator.step, foundWorker, workerTo, Option.map_some, List.map_set]
      rfl

section Runs

/-- Frames of two reports at most, on one socket. -/
def pairedSocket : LoadConfig Exact :=
  { kyiv .ws 1 Nat.one_pos with
    maxBatch := 2
    maxBatch_pos := Nat.two_pos }

def threeDevices : List (DeviceState Exact) :=
  buildFleet middle 3 pairedSocket.devicePrefix pairedSocket.area pairedSocket.seed

/-- Frames of two, one and two reports are sent; the second is refused without a
number, and the others are acknowledged. -/
def mistakenRun : List (ℕ × LineEvent Exact) :=
  [(0, .task (.start ⟨0⟩)), (0, .task .connected), (0, .task (.wake ⟨2⟩ 0)),
    (0, .task (.sendReturns ⟨2⟩)), (0, .task (.sendReturns ⟨2⟩)), (0, .answer ⟨3⟩ .accepted),
    (0, .task (.wake ⟨8⟩ 1)), (0, .answer ⟨8⟩ .unreadable), (0, .task (.sendReturns ⟨9⟩)),
    (0, .answer ⟨9⟩ .accepted), (0, .task (.sendReturns ⟨9⟩)), (0, .answer ⟨10⟩ .unreadable)]

/-- Verdicts on seven reports, of which six were sent. -/
theorem mistaken_verdicts :
    ¬ ∀ slices events exchange,
      Run (step middle pairedSocket) Anything (fresh middle pairedSocket slices) events exchange →
        exchange.AllReturned →
          exchange.stats.accepted + exchange.stats.rejected ≤ exchange.stats.sent := by
  intro within
  obtain ⟨exchange, executed, returned, accepted, rejected, sent⟩ : ∃ exchange,
      exec (step middle pairedSocket) Anything (fresh middle pairedSocket [threeDevices])
          mistakenRun = some exchange ∧
        exchange.AllReturned ∧ exchange.stats.accepted = 4 ∧ exchange.stats.rejected = 3 ∧
          exchange.stats.sent = 6 := by
    apply exists_of_exec
    decide +kernel
  have bounded := within _ _ exchange (run_of_exec executed) returned
  rw [accepted, rejected, sent] at bounded
  exact absurd bounded (by decide)

/-- A frame of two reports is refused without a number while one of a single
report is under way, which is then acknowledged. -/
def replacedRun : List (ℕ × LineEvent Exact) :=
  [(0, .task (.start ⟨0⟩)), (0, .task .connected), (0, .task (.wake ⟨2⟩ 0)),
    (0, .task (.sendReturns ⟨2⟩)), (0, .answer ⟨2⟩ .unreadable), (0, .task (.sendReturns ⟨2⟩)),
    (0, .answer ⟨3⟩ .accepted)]

theorem verdicts_within_sent_replaced :
    ∃ exchange, Run (step middle pairedSocket) CountsOnce
        (fresh middle pairedSocket [threeDevices]) replacedRun exchange ∧
      exchange.AllReturned ∧
        exchange.stats.accepted + exchange.stats.rejected ≤ exchange.stats.sent := by
  obtain ⟨exchange, executed, returned⟩ : ∃ exchange,
      exec (step middle pairedSocket) CountsOnce (fresh middle pairedSocket [threeDevices])
          replacedRun = some exchange ∧ exchange.AllReturned := by
    apply exists_of_exec
    decide +kernel
  have run := run_of_exec executed
  exact ⟨exchange, run, returned, verdicts_within_sent run returned⟩

end Runs

end IngestExchange

end GeoTrack
