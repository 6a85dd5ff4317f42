import GeoTrack.ConnectionSender

/-!
# Frames from another process

Control frames are relayed as they come, so the sender has to cope with any
bytes.  A frame that is not text is dropped on its own.  The type of a frame is
read off its first bytes, or else off the parsed payload, where it is looked up
in a set of strings: a type that is an array or an object cannot be looked up,
the exception ends the sender, and the frames queued behind are never written:
the gateway takes the end of the sender for the end of the session.
-/

namespace GeoTrack

open LabelledRuns JsonText

/-- The frame begins with the type key and a type of the service, in quotes. -/
def StartsWithKnownType (frame : Bytes) : Prop :=
  ∃ kind ∈ frameTypes, frameTypePrefix ++ ascii kind ++ [quote] <+: frame

/-- The frame is parsed, and is an object whose type is an array or an
object. -/
def UnhashableType (orjson : Orjson) (frame : Bytes) : Prop :=
  ¬StartsWithKnownType frame ∧
    ∃ fields, orjson.loads frame = .ok (.obj fields) ∧
      ((∃ items, fields.lookup "type" = some (.arr items)) ∨
        ∃ members, fields.lookup "type" = some (.obj members))

section Types

variable {orjson : Orjson} {frame : Bytes}

theorem parsedFrameType_eq_none_iff :
    parsedFrameType orjson frame = none ↔
      ∃ fields, orjson.loads frame = .ok (.obj fields) ∧
        ((∃ items, fields.lookup "type" = some (.arr items)) ∨
          ∃ members, fields.lookup "type" = some (.obj members)) := by
  unfold parsedFrameType
  split
  case h_1 fields loaded =>
      simp only [loaded, Except.ok.injEq, Json.obj.injEq, exists_eq_left']
      split <;> simp_all
  case h_2 notObject =>
      constructor
      · rintro ⟨⟩
      · rintro ⟨fields, loaded, -⟩
        exact absurd loaded (notObject fields)

theorem untilQuote_append {content rest : Bytes} (plain : quote ∉ content) :
    untilQuote (content ++ quote :: rest) = some content := by
  have passes : ∀ byte ∈ content, decide (byte ≠ quote) = true := by
    intro byte listed
    rw [decide_eq_true_eq]
    rintro rfl
    exact plain listed
  rw [untilQuote, if_pos (by simp), List.takeWhile_append_of_pos passes]
  simp

theorem untilQuote_eq_some_iff {bytes content : Bytes} :
    untilQuote bytes = some content ↔ quote ∉ content ∧ content ++ [quote] <+: bytes := by
  constructor
  · intro found
    have closed : quote ∈ bytes := by
      by_contra absent
      rw [untilQuote, if_neg absent] at found
      cases found
    obtain ⟨before, after, rfl, plain⟩ := List.eq_append_cons_of_mem closed
    rw [untilQuote_append plain] at found
    obtain rfl := Option.some.inj found
    exact ⟨plain, after, by simp⟩
  · rintro ⟨plain, rest, rfl⟩
    rw [List.append_assoc, List.singleton_append]
    exact untilQuote_append plain

theorem frameTypes_plain : ∀ kind ∈ frameTypes, quote ∉ ascii kind := by
  decide +kernel

theorem ascii_frameTypes_injective :
    ∀ kind ∈ frameTypes, ∀ other ∈ frameTypes, ascii kind = ascii other → kind = other := by
  decide +kernel

/-- The type that is read off the first bytes, if one is. -/
theorem find_frameTypes_eq_some_iff {content : Bytes} {kind : String} :
    (frameTypes.find? fun kind => ascii kind = content) = some kind ↔
      kind ∈ frameTypes ∧ ascii kind = content := by
  constructor
  · intro found
    exact ⟨List.mem_of_find?_eq_some found, by simpa using List.find?_some found⟩
  · rintro ⟨known, rfl⟩
    obtain ⟨other, found⟩ : ∃ other, (frameTypes.find? fun other => ascii other = ascii kind) =
        some other := by
      rw [← Option.isSome_iff_exists, List.find?_isSome]
      exact ⟨kind, known, by simp⟩
    have same : ascii other = ascii kind := by simpa using List.find?_some found
    rw [found, ascii_frameTypes_injective other (List.mem_of_find?_eq_some found) kind known same]

/-- A frame that begins with a known type has that type; any other is parsed. -/
theorem frameType_cases (orjson : Orjson) (frame : Bytes) :
    (StartsWithKnownType frame ∧ ∃ kind ∈ frameTypes, frameType orjson frame = some kind) ∨
      ¬StartsWithKnownType frame ∧ frameType orjson frame = parsedFrameType orjson frame := by
  by_cases known : StartsWithKnownType frame
  · left
    refine ⟨known, ?_⟩
    obtain ⟨kind, isKind, rest, rfl⟩ := known
    refine ⟨kind, isKind, ?_⟩
    have content : untilQuote (ascii kind ++ ([quote] ++ rest)) = some (ascii kind) :=
      untilQuote_append (frameTypes_plain kind isKind)
    rw [frameType, List.append_assoc, List.append_assoc, if_pos (by simp), List.drop_left,
      content, Option.bind_some, find_frameTypes_eq_some_iff.mpr ⟨isKind, rfl⟩]
  · right
    refine ⟨known, ?_⟩
    unfold frameType
    split
    case isTrue starts =>
        split
        case h_1 kind found =>
            exfalso
            obtain ⟨content, isContent, isKind⟩ := Option.bind_eq_some_iff.mp found
            obtain ⟨listed, rfl⟩ := find_frameTypes_eq_some_iff.mp isKind
            obtain ⟨-, rest, continued⟩ := untilQuote_eq_some_iff.mp isContent
            obtain ⟨tail, rfl⟩ := List.isPrefixOf_iff_prefix.mp starts
            rw [List.drop_left] at continued
            exact known ⟨kind, listed, rest, by rw [← continued]; simp⟩
        case h_2 => rfl
    case isFalse => rfl

/-- Telling the type raises for exactly the unhashable ones. -/
theorem frameType_eq_none_iff :
    frameType orjson frame = none ↔ UnhashableType orjson frame := by
  rw [UnhashableType, ← parsedFrameType_eq_none_iff]
  obtain ⟨known, kind, -, typed⟩ | ⟨unknown, parsed⟩ := frameType_cases orjson frame
  · simp [typed, known]
  · rw [parsed, and_iff_right unknown]

end Types

/-- The frame reaches the socket, unless the connection is lost first. -/
def sendable (orjson : Orjson) (frame : Bytes) : Bool :=
  match prepare orjson frame with
  | .send _ => true
  | _ => false

section Preparing

variable {orjson : Orjson} {frame : Bytes}

/-- A frame whose type can be told is sent as it is, or dropped. -/
theorem prepare_cases (hashable : ¬UnhashableType orjson frame) :
    (∃ payload, prepare orjson frame = .send payload ∧ payload.bytes = frame) ∨
      prepare orjson frame = .drop := by
  cases typed : frameType orjson frame with
  | none => exact absurd (frameType_eq_none_iff.mp typed) hashable
  | some kind =>
      rw [prepare, typed]
      dsimp only
      split
      case isTrue => exact Or.inl ⟨_, rfl, rfl⟩
      case isFalse =>
          cases decoded : decodeText frame with
          | some text => exact Or.inl ⟨_, rfl, bytes_of_decodeText decoded⟩
          | none => exact Or.inr rfl

theorem sendable_of_prepare {payload : Payload} (prepared : prepare orjson frame = .send payload) :
    sendable orjson frame = true := by
  rw [sendable, prepared]

theorem not_sendable_of_drop (dropped : prepare orjson frame = .drop) :
    sendable orjson frame = false := by
  rw [sendable, dropped]

end Preparing

namespace SendingConnection

variable {orjson : Orjson} {state after : SendingConnection}

/-- What holds between any two steps while no type fails to be told: an open
connection has a sender that can write, and has written all it accepted and
could send, but for what is on its way. -/
structure Resilient (orjson : Orjson) (state : SendingConnection) : Prop where
  orderly : state.connection.Orderly
  hub : state.hub.Sound
  awake : state.stage = .waiting → state.connection.wake = false → state.connection.Idle
  hashable : ∀ frame ∈ state.connection.control, ¬UnhashableType orjson frame
  running : state.connection.closing = false → state.writable = true ∧ state.stage ≠ .ended
  ledger : state.connection.closing = false → state.accepted.filter (sendable orjson) =
    controlFrames (state.written ++ state.stage.inFlight) ++
      state.connection.control.filter (sendable orjson)
  faithful : ∀ entry ∈ state.written ++ state.stage.inFlight,
    entry.2.bytes = entry.1.bytes orjson

theorem resilient_fresh (orjson : Orjson) (grid : Grid) (staleAfterS controlMax : ℕ) :
    (fresh grid staleAfterS controlMax).Resilient orjson where
  orderly := ClientConnection.orderly_fresh grid controlMax
  hub := PositionHub.sound_fresh grid staleAfterS
  awake := fun _ _ => ⟨rfl, rfl, rfl⟩
  hashable := by simp [fresh, ClientConnection.fresh]
  running := fun _ => ⟨rfl, by simp [fresh]⟩
  ledger := fun _ => rfl
  faithful := by simp [fresh, SenderStage.inFlight]

/-- Nothing is promised once the connection is closing. -/
theorem Resilient.of_closing (resilient : state.Resilient orjson)
    (orderly : after.connection.Orderly) (hub : after.hub.Sound)
    (closing : after.connection.closing = true) (elsewhere : after.stage ≠ .waiting)
    (control : ∀ frame ∈ after.connection.control, frame ∈ state.connection.control)
    (written : ∀ entry ∈ after.written ++ after.stage.inFlight,
      entry ∈ state.written ++ state.stage.inFlight) : after.Resilient orjson where
  orderly := orderly
  hub := hub
  awake := fun waiting => absurd waiting elsewhere
  hashable := fun frame queued => resilient.hashable frame (control frame queued)
  running := fun open_ => absurd (closing.symm.trans open_) (by simp)
  ledger := fun open_ => absurd (closing.symm.trans open_) (by simp)
  faithful := fun entry listed => resilient.faithful entry (written entry listed)

/-- The control frame of a call, if it has one, is not unhashable. -/
def CallHashable (orjson : Orjson) : ProducerCall → Prop
  | .sendControl frame => ¬UnhashableType orjson frame
  | _ => True

theorem Resilient.produce (resilient : state.Resilient orjson) (call : ProducerCall)
    (allowed : CallHashable orjson call) :
    ({ state with
      connection := state.connection.perform call
      accepted := state.accepted ++ state.connection.accepts call }).Resilient orjson where
  orderly := resilient.orderly.perform call
  hub := resilient.hub
  awake := by
    intro waiting
    exact ClientConnection.idle_perform (resilient.awake waiting) call
  hashable := by
    intro frame queued
    obtain before | isNew := ClientConnection.mem_control_perform queued
    · exact resilient.hashable frame before
    · rw [ClientConnection.eq_sendControl_of_mem_accepts isNew] at allowed
      exact allowed
  running := fun open_ => resilient.running (ClientConnection.control_perform call open_).1
  ledger := by
    intro open_
    obtain ⟨wasOpen, queue⟩ := ClientConnection.control_perform call open_
    have before := resilient.ledger wasOpen
    change (state.accepted ++ _).filter _ = _ ++ (state.connection.perform call).control.filter _
    rw [queue, List.filter_append, List.filter_append, before, List.append_assoc]
  faithful := resilient.faithful

/-- What the sender does when it runs on. -/
theorem run_cases {nowMs : ℤ} (stepTo : state.step orjson (.run nowMs) = some after) :
    (state.stage = .waiting ∧ after = { state with
        connection := { state.connection with wake := false }
        stage := .looping }) ∨
      (state.stage = .looping ∧ state.connection.closing = true ∧
        after = { state with stage := .ended }) ∨
      (state.stage = .looping ∧ state.connection.closing = false ∧
        after = state.takeNext orjson nowMs) := by
  simp only [step] at stepTo
  split at stepTo
  case h_1 waiting =>
      split at stepTo
      case isTrue => exact Or.inl ⟨waiting, (Option.some.inj stepTo).symm⟩
      case isFalse => cases stepTo
  case h_2 looping =>
      split at stepTo
      case isTrue closing => exact Or.inr (Or.inl ⟨looping, closing, (Option.some.inj stepTo).symm⟩)
      case isFalse open_ =>
          exact Or.inr (Or.inr ⟨looping, by simpa using open_, (Option.some.inj stepTo).symm⟩)
  case h_3 => cases stepTo

/-- A frame that was taken is on its way out. -/
theorem Resilient.startWriting (resilient : state.Resilient orjson)
    (looping : state.stage = .looping) (open_ : state.connection.closing = false)
    {frame : WireFrame} {payload : Payload} {connection : ClientConnection} {hub : PositionHub}
    (orderly : connection.Orderly) (sound : hub.Sound)
    (same : payload.bytes = frame.bytes orjson)
    (goesOut : ∀ bytes ∈ frame.control?.toList, sendable orjson bytes = true)
    (queue : state.connection.control = frame.control?.toList ++ connection.control) :
    (state.startWriting connection hub frame payload).Resilient orjson where
  orderly := orderly
  hub := sound
  awake := by simp [SendingConnection.startWriting]
  hashable := by
    intro other queued
    apply resilient.hashable
    rw [queue]
    exact List.mem_append_right _ queued
  running := fun _ => ⟨(resilient.running open_).1, by simp [SendingConnection.startWriting]⟩
  ledger := by
    intro _
    have before := resilient.ledger open_
    rw [looping, queue, List.filter_append, List.filter_eq_self.mpr goesOut] at before
    simp only [SenderStage.inFlight, List.append_nil] at before
    change state.accepted.filter _ = controlFrames (state.written ++ [(frame, payload)]) ++
      connection.control.filter _
    rw [before, controlFrames_snoc, List.append_assoc]
  faithful := by
    intro entry listed
    obtain before | now := List.mem_append.mp listed
    · exact resilient.faithful entry (List.mem_append_left _ before)
    · obtain rfl := List.mem_singleton.mp now
      exact same

/-- The state in which a control frame that is not text was dropped. -/
def dropFrame (state : SendingConnection) (frame : Bytes) (rest : List Bytes) :
    SendingConnection :=
  { state with
    connection := { state.connection with control := rest }
    taken := state.taken ++ [.control frame]
    stage := .looping }

theorem takeNext_drop {nowMs : ℤ} {frame : Bytes} {rest : List Bytes}
    (writable : state.writable = true) (queue : state.connection.control = frame :: rest)
    (dropped : prepare orjson frame = .drop) :
    state.takeNext orjson nowMs = state.dropFrame frame rest := by
  simp [takeNext, dropFrame, ClientConnection.nextFrame, queue, writable, WireFrame.bytes, dropped]

theorem takeNext_send {nowMs : ℤ} {frame : Bytes} {rest : List Bytes} {payload : Payload}
    (writable : state.writable = true) (queue : state.connection.control = frame :: rest)
    (prepared : prepare orjson frame = .send payload) :
    state.takeNext orjson nowMs = state.startWriting { state.connection with control := rest }
      state.hub (.control frame) payload := by
  simp [takeNext, startWriting, ClientConnection.nextFrame, queue, writable, WireFrame.bytes,
    prepared]

/-- A frame that is dropped costs nothing but itself. -/
theorem Resilient.dropFrame (resilient : state.Resilient orjson)
    (looping : state.stage = .looping) (open_ : state.connection.closing = false)
    {frame : Bytes} {rest : List Bytes} (queue : state.connection.control = frame :: rest)
    (dropped : prepare orjson frame = .drop) : (state.dropFrame frame rest).Resilient orjson where
  orderly := resilient.orderly.control_rest queue
  hub := resilient.hub
  awake := by simp [SendingConnection.dropFrame]
  hashable := by
    intro other queued
    apply resilient.hashable
    rw [queue]
    exact List.mem_cons_of_mem _ queued
  running := fun _ => ⟨(resilient.running open_).1, by simp [SendingConnection.dropFrame]⟩
  ledger := by
    intro _
    have before := resilient.ledger open_
    rw [looping, queue, List.filter_cons_of_neg (by simp [not_sendable_of_drop dropped])] at before
    exact before
  faithful := by
    have before := resilient.faithful
    rw [looping] at before
    exact before

/-- The inner loop once, on an open connection. -/
theorem Resilient.takeNext (resilient : state.Resilient orjson)
    (looping : state.stage = .looping) (open_ : state.connection.closing = false) (nowMs : ℤ) :
    (state.takeNext orjson nowMs).Resilient orjson := by
  have writable := (resilient.running open_).1
  have orderly := resilient.orderly
  obtain ⟨bytes, rest, queue, next⟩ | ⟨viewport, queue, wanted, next⟩ | ⟨queue, unwanted, next⟩ :=
    state.connection.nextFrame_cases state.hub nowMs
  · obtain ⟨payload, prepared, same⟩ | dropped :=
      prepare_cases (resilient.hashable bytes (by simp [queue]))
    · rw [takeNext_send writable queue prepared]
      refine resilient.startWriting looping open_ (orderly.control_rest queue) resilient.hub same
        ?_ queue
      simpa [WireFrame.control?] using sendable_of_prepare prepared
    · rw [takeNext_drop writable queue dropped]
      exact resilient.dropFrame looping open_ queue dropped
  · obtain ⟨chunks, snapshots, taken, sound, -⟩ := resilient.hub.snapshotChunks viewport
    have noDelta := orderly.no_delta wanted
    rw [taken, Option.map_some] at next
    rw [takeNext_eq writable next (prepare_positions _)]
    exact resilient.startWriting looping open_
      ⟨orderly.bounded, fun delta => absurd noDelta delta, by simp⟩ sound rfl
      (by simp [WireFrame.control?]) rfl
  · cases delta : state.connection.pendingDelta with
    | some frame =>
        rw [delta, Option.map_some] at next
        rw [takeNext_eq writable next (prepare_positions frame)]
        exact resilient.startWriting looping open_
          ⟨orderly.bounded, fun some_ => absurd rfl some_, orderly.windowed⟩ resilient.hub rfl
          (by simp [WireFrame.control?]) rfl
    | none =>
        have satisfied : state.connection.needsSnapshot = false := by
          by_contra wanted
          exact wanted (unwanted (orderly.windowed (by simpa using wanted)))
        rw [delta, Option.map_none] at next
        have before := resilient.ledger open_
        have faithful := resilient.faithful
        rw [looping] at before faithful
        simp only [SendingConnection.takeNext, next]
        exact ⟨⟨orderly.bounded, fun some_ => absurd rfl some_, orderly.windowed⟩, resilient.hub,
          fun _ _ => ⟨queue, rfl, satisfied⟩, resilient.hashable,
          fun _ => ⟨writable, by simp⟩, fun _ => before, faithful⟩

theorem Resilient.run (resilient : state.Resilient orjson) {nowMs : ℤ}
    (stepTo : state.step orjson (.run nowMs) = some after) : after.Resilient orjson := by
  obtain ⟨waiting, rfl⟩ | ⟨looping, closing, rfl⟩ | ⟨looping, open_, rfl⟩ := run_cases stepTo
  · obtain ⟨orderly, hub, -, hashable, running, ledger, faithful⟩ := resilient
    rw [waiting] at ledger faithful
    exact ⟨⟨orderly.bounded, orderly.exclusive, orderly.windowed⟩, hub, by simp, hashable,
      fun open_ => ⟨(running open_).1, by simp⟩, ledger, faithful⟩
  · refine resilient.of_closing resilient.orderly resilient.hub closing (by simp)
      (fun _ => id) fun entry listed => ?_
    rw [looping]
    exact listed
  · exact resilient.takeNext looping open_ nowMs

theorem Resilient.sent (resilient : state.Resilient orjson) {frame : WireFrame}
    {payload : Payload} (writing : state.stage = .writing frame payload) :
    ({ state with
      stage := .looping
      written := state.written ++ [(frame, payload)] }).Resilient orjson := by
  obtain ⟨orderly, hub, -, hashable, running, ledger, faithful⟩ := resilient
  rw [writing] at ledger faithful
  refine ⟨orderly, hub, by simp, hashable, fun open_ => ⟨(running open_).1, by simp⟩, ?_, ?_⟩
  · simpa [SenderStage.inFlight] using ledger
  · simpa [SenderStage.inFlight] using faithful

/-- What another task may do here: relay control frames whose type can be told,
and anything else but cancel the sender. -/
def Unharmed (orjson : Orjson) : SenderEvent → Prop
  | .produce call => CallHashable orjson call
  | .cancel _ => False
  | _ => True

theorem Resilient.step (resilient : state.Resilient orjson) {event : SenderEvent}
    (allowed : Unharmed orjson event) (stepTo : state.step orjson event = some after) :
    after.Resilient orjson := by
  cases moves_of_step stepTo with
  | produce call => exact resilient.produce call allowed
  | @hub call hub performed =>
      have sound := HubCall.sound_perform resilient.hub performed
      exact ⟨resilient.orderly, sound, resilient.awake, resilient.hashable, resilient.running,
        resilient.ledger, resilient.faithful⟩
  | aclose =>
      have orderly := resilient.orderly
      exact ⟨⟨orderly.bounded, orderly.exclusive, orderly.windowed⟩, resilient.hub,
        resilient.awake, resilient.hashable, by simp, by simp, resilient.faithful⟩
  | wakeUp nowMs waiting => exact resilient.run stepTo
  | stop nowMs => exact resilient.run stepTo
  | takeNext nowMs looping open_ => exact resilient.run stepTo
  | sent writing => exact resilient.sent writing
  | fail event reached code reason =>
      refine resilient.of_closing (resilient.orderly.requestClose code reason) resilient.hub
        (ClientConnection.closing_requestClose _ _ _) (by simp [fail, endSender]) ?_ ?_
      · intro frame queued
        have performed : frame ∈
            (state.connection.perform (.requestClose code reason)).control := queued
        exact (ClientConnection.mem_control_perform performed).resolve_right (by
          simp [ClientConnection.accepts])
      · intro entry listed
        change entry ∈ (state.endSender reached).written ++ [] at listed
        rw [List.append_nil] at listed
        exact (written_endSender state reached).subset listed
  | cancel reached => exact allowed.elim

/-! ## Draining the queue -/

/-- Steps of the sender and the socket alone lead from one state to another. -/
def Reaches (orjson : Orjson) (nowMs : ℤ) (state after : SendingConnection) : Prop :=
  ∃ later, (∀ event ∈ later, event = .sent ∨ event = .run nowMs) ∧
    Run (SendingConnection.step orjson) Anything state later after

/-- The queue is empty and nothing is under way. -/
structure Drained (accepted : List Bytes) (after : SendingConnection) : Prop where
  accepted : after.accepted = accepted
  open_ : after.connection.closing = false
  control : after.connection.control = []
  settled : after.stage.inFlight = []

variable {nowMs : ℤ}

theorem Reaches.refl (state : SendingConnection) : Reaches orjson nowMs state state :=
  ⟨[], by simp, Run.nil⟩

theorem Reaches.head {middle : SendingConnection} {event : SenderEvent}
    (ofSender : event = .sent ∨ event = .run nowMs) (stepTo : state.step orjson event = some middle)
    (following : Reaches orjson nowMs middle after) : Reaches orjson nowMs state after := by
  obtain ⟨later, alone, run⟩ := following
  refine ⟨event :: later, ?_, run_cons_iff.mpr ⟨middle, trivial, stepTo, run⟩⟩
  rw [List.forall_mem_cons]
  exact ⟨ofSender, alone⟩

theorem step_run_looping (looping : state.stage = .looping)
    (open_ : state.connection.closing = false) :
    state.step orjson (.run nowMs) = some (state.takeNext orjson nowMs) := by
  simp [step, looping, open_]

/-- In its loop the sender gets through the queue frame by frame. -/
theorem Resilient.drains_of_looping (nowMs : ℤ) {queue : List Bytes}
    (resilient : state.Resilient orjson) (looping : state.stage = .looping)
    (open_ : state.connection.closing = false) (queued : state.connection.control = queue) :
    ∃ after, Reaches orjson nowMs state after ∧ after.Resilient orjson ∧
      Drained state.accepted after := by
  induction queue generalizing state with
  | nil =>
      exact ⟨state, .refl state, resilient, rfl, open_, queued, by rw [looping]; rfl⟩
  | cons frame rest ih =>
      have writable := (resilient.running open_).1
      have next := resilient.takeNext looping open_ nowMs
      have taken : state.step orjson (.run nowMs) = some (state.takeNext orjson nowMs) :=
        step_run_looping looping open_
      obtain ⟨payload, prepared, -⟩ | dropped :=
        prepare_cases (resilient.hashable frame (by simp [queued]))
      · rw [takeNext_send writable queued prepared] at next taken
        obtain ⟨after, reaches, drained⟩ := ih (next.sent rfl) rfl open_ rfl
        exact ⟨after, .head (Or.inr rfl) taken (.head (Or.inl rfl) rfl reaches), drained⟩
      · rw [takeNext_drop writable queued dropped] at next taken
        obtain ⟨after, reaches, drained⟩ := ih next rfl open_ rfl
        exact ⟨after, .head (Or.inr rfl) taken reaches, drained⟩

/-- Wherever the sender is on an open connection, it goes on until the queue is
empty. -/
theorem Resilient.drains (resilient : state.Resilient orjson)
    (open_ : state.connection.closing = false) (nowMs : ℤ) :
    ∃ after, Reaches orjson nowMs state after ∧ after.Resilient orjson ∧
      Drained state.accepted after := by
  cases stage : state.stage with
  | waiting =>
      cases woken : state.connection.wake with
      | false =>
          have idle := resilient.awake stage woken
          exact ⟨state, .refl state, resilient, rfl, open_, idle.1, by rw [stage]; rfl⟩
      | true =>
          have stepTo : state.step orjson (.run nowMs) = some { state with
              connection := { state.connection with wake := false }
              stage := .looping } := by
            simp [SendingConnection.step, stage, woken]
          obtain ⟨after, reaches, drained⟩ :=
            (resilient.run stepTo).drains_of_looping nowMs rfl open_ rfl
          exact ⟨after, .head (Or.inr rfl) stepTo reaches, drained⟩
  | looping => exact resilient.drains_of_looping nowMs stage open_ rfl
  | writing frame payload =>
      have stepTo : state.step orjson .sent = some { state with
          stage := .looping
          written := state.written ++ [(frame, payload)] } := by
        simp [SendingConnection.step, stage]
      obtain ⟨after, reaches, drained⟩ :=
        (resilient.sent stage).drains_of_looping nowMs rfl open_ rfl
      exact ⟨after, .head (Or.inl rfl) stepTo reaches, drained⟩
  | ended => exact absurd stage (resilient.running open_).2

theorem Resilient.written_of_drained {accepted : List Bytes} (resilient : after.Resilient orjson)
    (drained : Drained accepted after) :
    controlFrames after.written = accepted.filter (sendable orjson) := by
  have ledger := resilient.ledger drained.open_
  rw [drained.accepted, drained.settled, drained.control] at ledger
  simpa using ledger.symm

end SendingConnection

/-! ## One bad frame -/

/-- The producers relay the frame and others whose type can be told, and the
sender is not cancelled. -/
def BadFrameOnly (orjson : Orjson) (frame : Bytes) (_ : SendingConnection) : SenderEvent → Prop
  | .produce (.sendControl other) => other = frame ∨ ¬UnhashableType orjson other
  | .cancel _ => False
  | _ => True

/-- The frame's type is told without raising, and whenever the frame is relayed
the sender of an open connection lives, has written in order what it took and
could send, and goes on until it has written all that was accepted. -/
structure CostsOnlyItself (orjson : Orjson) (frame : Bytes) : Prop where
  typed : ∃ kind, frameType orjson frame = some kind
  survives : ∀ grid staleAfterS controlMax events state,
    Run (SendingConnection.step orjson) (BadFrameOnly orjson frame)
      (.fresh grid staleAfterS controlMax) events state →
    state.connection.closing = false →
    state.stage ≠ .ended ∧
      state.accepted.filter (sendable orjson) =
        controlFrames (state.written ++ state.stage.inFlight) ++
          state.connection.control.filter (sendable orjson) ∧
      (∀ entry ∈ state.written ++ state.stage.inFlight, entry.2.bytes = entry.1.bytes orjson) ∧
      ∀ nowMs, ∃ after, SendingConnection.Reaches orjson nowMs state after ∧
        controlFrames after.written = state.accepted.filter (sendable orjson)

/-- A relayed frame costs only itself exactly when its type is not an array or
an object. -/
theorem costsOnlyItself_iff (orjson : Orjson) (frame : Bytes) :
    CostsOnlyItself orjson frame ↔ ¬UnhashableType orjson frame := by
  constructor
  · rintro ⟨⟨kind, typed⟩, -⟩ unhashable
    rw [frameType_eq_none_iff.mpr unhashable] at typed
    cases typed
  · intro hashable
    refine ⟨Option.ne_none_iff_exists'.mp fun untyped =>
      hashable (frameType_eq_none_iff.mp untyped), ?_⟩
    intro grid staleAfterS controlMax events state run open_
    have resilient : state.Resilient orjson := by
      refine run.invariant (SendingConnection.resilient_fresh orjson grid staleAfterS controlMax)
        fun before event after holds permitted stepTo => holds.step ?_ stepTo
      cases event with
      | produce call =>
          cases call with
          | sendControl other =>
              obtain rfl | told := permitted
              · exact hashable
              · exact told
          | _ => trivial
      | cancel reached => exact permitted
      | _ => trivial
    refine ⟨(resilient.running open_).2, resilient.ledger open_, resilient.faithful, ?_⟩
    intro nowMs
    obtain ⟨after, reaches, drainedResilient, drained⟩ := resilient.drains open_ nowMs
    exact ⟨after, reaches, drainedResilient.written_of_drained drained⟩

/-- A frame whose type is an empty list. -/
def listTypeFrame : Bytes := ascii "\x7b\"type\":[]\x7d"

def listTypeOrjson : Orjson := .knowing listTypeFrame (.obj [("type", .arr [])])

/-- The frame is relayed with a pong behind it, and the sender wakes up. -/
def listTypeRun : List SenderEvent :=
  [.produce (.sendControl listTypeFrame), .produce (.sendControl pongFrame), .run 0, .run 0]

theorem listTypeFrame_ends_sender :
    frameType listTypeOrjson listTypeFrame = none ∧
      ∃ state, Run (SendingConnection.step listTypeOrjson) Anything (.fresh .standard 60 1000)
          listTypeRun state ∧
        state.connection.closing = false ∧ state.stage = .ended ∧ state.written = [] ∧
        state.connection.control = [pongFrame] ∧
        sendable listTypeOrjson pongFrame = true := by
  refine ⟨by decide +kernel, ?_⟩
  obtain ⟨state, executed, ended⟩ : ∃ state,
      exec (SendingConnection.step listTypeOrjson) Anything (.fresh .standard 60 1000)
        listTypeRun = some state ∧
      state.connection.closing = false ∧ state.stage = .ended ∧ state.written = [] ∧
      state.connection.control = [pongFrame] ∧ sendable listTypeOrjson pongFrame = true := by
    apply exists_of_exec
    decide +kernel
  exact ⟨state, run_of_exec executed, ended⟩

end GeoTrack
