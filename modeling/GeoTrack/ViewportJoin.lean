import GeoTrack.ClientConnection
import GeoTrack.ViewportBoxes
import Mathlib.Data.List.ProdSigma

/-!
# The two sides of the viewport join

The chunks of a delta in a window are found from whichever side is smaller:
by looking up every cell of every rectangle of the window, or by testing every
changed cell against the window.  The first way lists a chunk once for each
rectangle its cell is in.  The two rectangles of a box that crosses the
antimeridian have a cell in common when both edges fall in one column, and a
chunk of such a cell is listed twice.
-/

namespace GeoTrack

section Lists

variable {α β γ : Type}

theorem filterMap_product (first : List α) (second : List β) (select : α × β → Option γ) :
    (first ×ˢ second).filterMap select =
      first.flatMap fun x => second.filterMap fun y => select (x, y) := by
  induction first with
  | nil => rfl
  | cons x rest ih =>
      rw [List.product_cons, List.filterMap_append, List.filterMap_map, List.flatMap_cons, ih]
      rfl

theorem length_filter_add_length_filter (first second : α → Bool) (items : List α) :
    (items.filter first).length + (items.filter second).length =
      (items.filter fun item => first item || second item).length +
        (items.filter fun item => first item && second item).length := by
  induction items with
  | nil => rfl
  | cons item rest ih =>
      cases isFirst : first item <;> cases isSecond : second item <;>
        simp [isFirst, isSecond] <;> omega

/-- Selecting by two tests one after the other lists what selecting by either
does, up to order, when nothing passes both. -/
theorem filter_append_filter_perm_iff (first second : α → Bool) (value : α → β)
    (items : List α) :
    ((items.filter first).map value ++ (items.filter second).map value).Perm
        ((items.filter fun item => first item || second item).map value) ↔
      ∀ item ∈ items, (first item && second item) = false := by
  constructor
  · intro sameChunks
    have sameLength := sameChunks.length_eq
    rw [List.length_append, List.length_map, List.length_map, List.length_map,
      length_filter_add_length_filter] at sameLength
    have none : (items.filter fun item => first item && second item).length = 0 := by omega
    simpa using List.filter_eq_nil_iff.mp (List.length_eq_zero_iff.mp none)
  · intro apart
    rw [← List.map_append]
    apply List.Perm.map
    have fromFirst : items.filter first =
        (items.filter fun item => first item || second item).filter first := by
      rw [List.filter_filter]
      refine List.filter_congr fun item _ => ?_
      cases first item <;> rfl
    have fromSecond : items.filter second =
        (items.filter fun item => first item || second item).filter fun item => !first item := by
      rw [List.filter_filter]
      refine List.filter_congr fun item listed => ?_
      have notBoth := apart item listed
      cases isFirst : first item <;> simp_all
    rw [fromFirst, fromSecond]
    exact List.filter_append_perm first _

end Lists

/-- The cells of a rectangle, column by column. -/
def CellRect.cells (rect : CellRect) : List Cell :=
  inclusiveRange rect.minX rect.maxX ×ˢ inclusiveRange rect.minY rect.maxY

theorem nodup_inclusiveRange (first last : ℤ) : (inclusiveRange first last).Nodup := by
  refine List.nodup_range.map fun offset other same => ?_
  simpa using same

theorem CellRect.nodup_cells (rect : CellRect) : rect.cells.Nodup :=
  (nodup_inclusiveRange _ _).product (nodup_inclusiveRange _ _)

theorem CellRect.mem_cells_iff {rect : CellRect} {cell : Cell} :
    cell ∈ rect.cells ↔ rect.contains cell = true := by
  rw [CellRect.contains_iff, CellRect.cells, List.mem_product]

/-- The chunks of a delta found by looking up the cells of a window. -/
def chunksByWindow (delta : TickDelta) (viewport : List CellRect) : List Chunk :=
  viewport.flatMap fun rect =>
    (inclusiveRange rect.minX rect.maxX).flatMap fun x =>
      (inclusiveRange rect.minY rect.maxY).filterMap fun y => delta.chunks.get? (x, y)

/-- The chunks of a delta found by testing its cells against a window. -/
def chunksByDelta (delta : TickDelta) (viewport : List CellRect) : List Chunk :=
  (delta.chunks.entries.filter fun entry => covers viewport entry.1).map Prod.snd

theorem ClientConnection.visibleChunks_eq (connection : ClientConnection) (delta : TickDelta)
    (viewport : List CellRect) :
    connection.visibleChunks delta viewport =
      if connection.viewportCells ≤ delta.chunks.entries.length then
        chunksByWindow delta viewport
      else
        chunksByDelta delta viewport :=
  rfl

/-- The chunks whose cells are in one rectangle. -/
def chunksIn (delta : TickDelta) (rect : CellRect) : List Chunk :=
  (delta.chunks.entries.filter fun entry => rect.contains entry.1).map Prod.snd

/-- Looking cells up lists the chunks of each rectangle. -/
theorem chunksByWindow_perm (delta : TickDelta) (viewport : List CellRect) :
    (chunksByWindow delta viewport).Perm (viewport.flatMap (chunksIn delta)) := by
  refine List.Perm.flatMap_left _ fun rect isRect => ?_
  have lookups : ((inclusiveRange rect.minX rect.maxX).flatMap fun x =>
      (inclusiveRange rect.minY rect.maxY).filterMap fun y => delta.chunks.get? (x, y)) =
      rect.cells.filterMap delta.chunks.get? := by
    rw [CellRect.cells, filterMap_product]
  rw [lookups]
  exact delta.chunks.filterMap_get?_perm rect.nodup_cells fun _ => CellRect.mem_cells_iff

/-- A cell that is in both parts of a box that crosses the antimeridian. -/
def Grid.InBothParts (grid : Grid) (bbox : BBox) (cell : Cell) : Prop :=
  bbox.crossesAntimeridian = true ∧
    (grid.columnOf bbox.west ≤ cell.1 ∧ cell.1 ≤ grid.columnOf 180) ∧
    (grid.columnOf (-180) ≤ cell.1 ∧ cell.1 ≤ grid.columnOf bbox.east) ∧
    (grid.rowOf bbox.south ≤ cell.2 ∧ cell.2 ≤ grid.rowOf bbox.north)

theorem Grid.inBothParts_iff {grid : Grid} {bbox : BBox}
    (crossing : bbox.crossesAntimeridian = true) {cell : Cell} :
    grid.InBothParts bbox cell ↔
      ((bbox.parts.map grid.rect).all fun rect => rect.contains cell) = true := by
  simp [InBothParts, BBox.parts, crossing, CellRect.contains, rect]
  tauto

/-- Both sides of the join list the same chunks, each as often, exactly when no
chunk of the delta belongs to a cell of both parts of the box. -/
theorem chunksByWindow_perm_chunksByDelta_iff (connection : ClientConnection) (bbox : BBox)
    (delta : TickDelta) :
    (∀ viewport, (connection.setViewport bbox).viewport = some viewport →
        (chunksByWindow delta viewport).Perm (chunksByDelta delta viewport)) ↔
      ∀ cell ∈ delta.chunks.keys, ¬connection.grid.InBothParts bbox cell := by
  have set : (connection.setViewport bbox).viewport = some (connection.grid.rectsFor bbox) := rfl
  simp only [set, Option.some.injEq, forall_eq']
  rw [List.Perm.congr_left (chunksByWindow_perm delta _), chunksByDelta, Grid.rectsFor]
  cases crossing : bbox.crossesAntimeridian with
  | false =>
      simp [BBox.parts, crossing, chunksIn, covers, Grid.InBothParts]
  | true =>
      simp only [BBox.parts, crossing, if_true, List.map_cons, List.map_nil, List.flatMap_cons,
        List.flatMap_nil, List.append_nil, covers, List.any_cons, List.any_nil, Bool.or_false]
      rw [chunksIn, chunksIn, filter_append_filter_perm_iff, Dict.keys, List.forall_mem_map]
      refine forall₂_congr fun entry _ => ?_
      rw [Grid.inBothParts_iff crossing, Bool.not_eq_true]
      simp [BBox.parts, crossing]

/-- Cells of ten degrees, the largest that the settings allow. -/
def Grid.coarse : Grid where
  sizeDeg := 10
  eastEdge := 180 - 1 / 2 ^ 45
  sizeDeg_pos := by norm_num
  eastEdge_lt := Grid.standard.eastEdge_lt

/-- A box all around the world, from 14 degrees east to 11 degrees east. -/
def BBox.aroundTheWorld : BBox where
  west := 14
  south := 0
  east := 11
  north := 5
  longitudes := by norm_num
  latitudes := by norm_num
  ordered := by norm_num

/-- A tick in which one device moved in each column along the equator, and one
more further north. -/
def equatorDelta : TickDelta where
  tMs := 0
  chunks := (Dict.empty.setAll ((List.range 36).map fun column =>
    (((column : ℤ) - 18, 0), [⟨toString column, 5, 10 * ((column : ℚ) - 18) + 5, 0⟩]))).set
      (0, 1) [⟨"north", 15, 5, 0⟩]
  departures := Dict.empty

/-- The busy tick is looked up cell by cell, which lists the chunk of the
column of both edges twice. -/
theorem equatorDelta_chunk_listed_twice :
    ∃ connection viewport,
      (ClientConnection.fresh .coarse 256).setViewport .aroundTheWorld = connection ∧
        connection.viewport = some viewport ∧
        connection.visibleChunks equatorDelta viewport = chunksByWindow equatorDelta viewport ∧
        ¬(chunksByWindow equatorDelta viewport).Perm (chunksByDelta equatorDelta viewport) := by
  refine ⟨_, Grid.coarse.rectsFor .aroundTheWorld, rfl, rfl, ?_, ?_⟩
  · rw [ClientConnection.visibleChunks_eq]
    exact if_pos (by decide +kernel)
  · intro sameChunks
    have lengths : (chunksByWindow equatorDelta (Grid.coarse.rectsFor .aroundTheWorld)).length ≠
        (chunksByDelta equatorDelta (Grid.coarse.rectsFor .aroundTheWorld)).length := by
      decide +kernel
    exact lengths sameChunks.length_eq

end GeoTrack
