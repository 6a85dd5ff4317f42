import GeoTrack.DeviceStore

/-!
# A connected client

What a client should receive next.  Producers only leave work behind: a
bounded queue of control frames, one position delta, or the wish for a
snapshot.  The sender takes control frames first, then the snapshot, then the
delta.
-/

namespace GeoTrack

/-- A frame as the sender writes it; a control frame is relayed as it came. -/
inductive WireFrame where
  | control (bytes : Bytes)
  | positions (frame : PositionsFrame)
deriving DecidableEq

def WireFrame.items : WireFrame → List PositionItem
  | .control _ => []
  | .positions frame => frame.items

structure ClientConnection where
  grid : Grid
  controlMax : ℕ
  control : List Bytes
  wake : Bool
  viewport : Option (List CellRect)
  viewportCells : ℤ
  pendingDelta : Option PositionsFrame
  needsSnapshot : Bool
  closing : Bool
  closeCode : ℕ
  closeReason : String

namespace ClientConnection

def closeSlowConsumer : ℕ := 1013

def fresh (grid : Grid) (controlMax : ℕ) : ClientConnection where
  grid := grid
  controlMax := controlMax
  control := []
  wake := false
  viewport := none
  viewportCells := 0
  pendingDelta := none
  needsSnapshot := false
  closing := false
  closeCode := 1000
  closeReason := ""

def wantsPositions (connection : ClientConnection) : Bool :=
  connection.viewport.isSome && !connection.closing

def setViewport (connection : ClientConnection) (bbox : BBox) : ClientConnection :=
  let viewport := connection.grid.rectsFor bbox
  { connection with
    viewport := some viewport
    viewportCells := (viewport.map fun rect =>
      (rect.maxX - rect.minX + 1) * (rect.maxY - rect.minY + 1)).sum
    -- a delta built for the previous window is worthless now
    pendingDelta := none
    needsSnapshot := true
    wake := true }

/-- The chunks of a delta in the window, from whichever side of the join is
smaller. -/
def visibleChunks (connection : ClientConnection) (delta : TickDelta) (viewport : List CellRect) :
    List Chunk :=
  if connection.viewportCells ≤ delta.chunks.entries.length then
    viewport.flatMap fun rect =>
      (inclusiveRange rect.minX rect.maxX).flatMap fun x =>
        (inclusiveRange rect.minY rect.maxY).filterMap fun y => delta.chunks.get? (x, y)
  else
    (delta.chunks.entries.filter fun entry => covers viewport entry.1).map Prod.snd

/-- The devices that left the window in a delta: from a cell in it, to nowhere
or to a cell outside it. -/
def removedFrom (delta : TickDelta) (viewport : List CellRect) : List DeviceId :=
  (delta.departures.entries.filter fun entry => covers viewport entry.1).flatMap fun entry =>
    (entry.2.filter fun departure =>
      departure.movedTo.all fun cell => !covers viewport cell).map Departure.deviceId

def offerPositions (connection : ClientConnection) (delta : TickDelta) : ClientConnection :=
  match connection.viewport with
  | none => connection
  | some viewport =>
      if connection.closing || connection.needsSnapshot then connection
      else
        let chunks := connection.visibleChunks delta viewport
        let removed := removedFrom delta viewport
        if chunks = [] ∧ removed = [] then connection
        else
          match connection.pendingDelta with
          | none =>
              { connection with
                pendingDelta := some (positionsFrame false delta.tMs chunks removed)
                wake := true }
          | some _ =>
              -- the client has not drained the previous frame: replace it by a snapshot
              { connection with
                pendingDelta := none
                needsSnapshot := true
                wake := true }

def requestClose (connection : ClientConnection) (code : ℕ) (reason : String) :
    ClientConnection :=
  if connection.closing then connection
  else
    { connection with
      closing := true
      closeCode := code
      closeReason := reason
      control := []
      pendingDelta := none
      needsSnapshot := false
      wake := true }

def sendControl (connection : ClientConnection) (frame : Bytes) : ClientConnection :=
  if connection.closing then connection
  else if connection.controlMax ≤ connection.control.length then
    connection.requestClose closeSlowConsumer "client is not keeping up"
  else
    { connection with control := connection.control ++ [frame], wake := true }

/-- The next frame to write, `none` inside when there is nothing to send, and
`none` outside when reading the hub raises. -/
def nextFrame (connection : ClientConnection) (hub : PositionHub) (nowMs : ℤ) :
    Option (Option WireFrame × ClientConnection × PositionHub) :=
  match connection.control with
  | frame :: rest => some (some (.control frame), { connection with control := rest }, hub)
  | [] =>
      match connection.needsSnapshot, connection.viewport with
      | true, some viewport =>
          (hub.snapshotChunks viewport).map fun result =>
            (some (.positions (positionsFrame true nowMs result.1 [])),
              { connection with needsSnapshot := false }, result.2)
      | _, _ =>
          some (connection.pendingDelta.map .positions,
            { connection with pendingDelta := none }, hub)

theorem mem_visibleChunks {connection : ClientConnection} {delta : TickDelta}
    {viewport : List CellRect} {chunk : Chunk} :
    chunk ∈ connection.visibleChunks delta viewport ↔
      ∃ cell, covers viewport cell = true ∧ delta.chunks.get? cell = some chunk := by
  unfold visibleChunks
  split
  case isTrue =>
      simp only [List.mem_flatMap, List.mem_filterMap]
      constructor
      · rintro ⟨rect, isRect, x, inColumns, y, inRows, found⟩
        exact ⟨(x, y), covers_iff.mpr
          ⟨rect, isRect, CellRect.contains_iff.mpr ⟨inColumns, inRows⟩⟩, found⟩
      · rintro ⟨⟨x, y⟩, covered, found⟩
        obtain ⟨rect, isRect, inside⟩ := covers_iff.mp covered
        obtain ⟨inColumns, inRows⟩ := CellRect.contains_iff.mp inside
        exact ⟨rect, isRect, x, inColumns, y, inRows, found⟩
  case isFalse =>
      simp only [List.mem_map, List.mem_filter]
      constructor
      · rintro ⟨⟨cell, _⟩, ⟨listed, covered⟩, rfl⟩
        exact ⟨cell, covered, Dict.mem_entries_iff.mp listed⟩
      · rintro ⟨cell, covered, found⟩
        exact ⟨(cell, chunk), ⟨Dict.mem_entries_iff.mpr found, covered⟩, rfl⟩

theorem mem_removedFrom {delta : TickDelta} {viewport : List CellRect} {deviceId : DeviceId} :
    deviceId ∈ removedFrom delta viewport ↔ ∃ cell movedTo, covers viewport cell = true ∧
      (∃ departures, delta.departures.get? cell = some departures ∧
        ⟨deviceId, movedTo⟩ ∈ departures) ∧
      ∀ target ∈ movedTo, covers viewport target = false := by
  simp only [removedFrom, List.mem_flatMap, List.mem_map, List.mem_filter]
  constructor
  · rintro ⟨⟨cell, departures⟩, ⟨listed, covered⟩, ⟨_, movedTo⟩, ⟨isMember, outside⟩, rfl⟩
    refine ⟨cell, movedTo, covered, ⟨departures, Dict.mem_entries_iff.mp listed, isMember⟩, ?_⟩
    rintro target rfl
    simpa using outside
  · rintro ⟨cell, movedTo, covered, ⟨departures, found, isMember⟩, outside⟩
    refine ⟨(cell, departures), ⟨Dict.mem_entries_iff.mpr found, covered⟩,
      ⟨deviceId, movedTo⟩, ⟨isMember, ?_⟩, rfl⟩
    cases movedTo with
    | none => rfl
    | some target => simpa using outside target rfl

end ClientConnection

end GeoTrack
