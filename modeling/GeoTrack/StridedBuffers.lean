import Mathlib.Data.UInt
import Mathlib.Tactic.Ring

/-!
# Flat buffers of rows

A buffer of fixed length holds rows of equal length one after the other.  What is
written outside is ignored, and what is read there is zero.  Growing a buffer keeps
its cells and fills the rest with zeros, so that no reading tells it apart from the
shorter one.
-/

/-- `rows` rows of `stride` cells each. -/
structure StridedBuffer (α : Type*) (stride rows : ℕ) where
  cells : Vector α (rows * stride)

namespace StridedBuffer

variable {α : Type*} {stride rows : ℕ}

/-- Where a cell is. -/
def place (row : ℕ) (column : Fin stride) : ℕ := row * stride + column

@[irreducible]
def write (buffer : StridedBuffer α stride rows) (row : ℕ) (column : Fin stride) (value : α) :
    StridedBuffer α stride rows :=
  ⟨buffer.cells.setIfInBounds (place row column) value⟩

section Zeros

variable [Zero α]

def zeroed (stride rows : ℕ) : StridedBuffer α stride rows := ⟨Vector.replicate _ 0⟩

def read (buffer : StridedBuffer α stride rows) (row : ℕ) (column : Fin stride) : α :=
  buffer.cells[place row column]?.getD 0

/-- A longer buffer that starts with the cells of this one. -/
@[irreducible]
def grown (more : ℕ) (buffer : StridedBuffer α stride rows) : StridedBuffer α stride more :=
  ⟨Vector.ofFn fun index => buffer.cells[index.val]?.getD 0⟩

end Zeros

/-- Cells of rows and columns that differ are apart. -/
theorem place_inj {row other : ℕ} {column also : Fin stride} :
    place row column = place other also ↔ row = other ∧ column = also := by
  constructor
  · intro same
    have positive : 0 < stride := Fin.pos column
    have rowOf (row : ℕ) (column : Fin stride) : place row column / stride = row := by
      rw [place, Nat.mul_comm, Nat.mul_add_div positive, Nat.div_eq_of_lt column.isLt, add_zero]
    have columnOf (row : ℕ) (column : Fin stride) : place row column % stride = column := by
      rw [place, Nat.mul_comm, Nat.mul_add_mod, Nat.mod_eq_of_lt column.isLt]
    refine ⟨?_, Fin.ext ?_⟩
    · rw [← rowOf row column, same, rowOf]
    · rw [← columnOf row column, same, columnOf]
  · rintro ⟨rfl, rfl⟩
    rfl

theorem place_lt {row : ℕ} (within : row < rows) (column : Fin stride) :
    place row column < rows * stride := by
  calc
    place row column < row * stride + stride := Nat.add_lt_add_left column.isLt _
    _ = (row + 1) * stride := by ring
    _ ≤ rows * stride := Nat.mul_le_mul_right stride within

section Reading

variable [Zero α] {buffer : StridedBuffer α stride rows} {row other : ℕ} {column also : Fin stride}

@[simp]
theorem read_zeroed (row : ℕ) (column : Fin stride) :
    (zeroed stride rows : StridedBuffer α stride rows).read row column = 0 := by
  simp only [read, zeroed, Vector.getElem?_replicate]
  split <;> rfl

theorem read_write (within : row < rows) (column : Fin stride) (value : α) :
    (buffer.write row column value).read other also =
      if other = row ∧ also = column then value else buffer.read other also := by
  simp only [read, write, Vector.getElem?_setIfInBounds]
  by_cases same : other = row ∧ also = column
  · obtain ⟨rfl, rfl⟩ := same
    simp [place_lt within]
  · have apart : place row column ≠ place other also := fun equal =>
      same ((place_inj.mp equal).imp Eq.symm Eq.symm)
    rw [if_neg apart, if_neg same]

/-- The other rows are left as they were. -/
theorem read_write_of_ne (differs : other ≠ row) (value : α) :
    (buffer.write row column value).read other also = buffer.read other also := by
  have apart : place row column ≠ place other also := fun equal =>
    differs (place_inj.mp equal).1.symm
  simp only [read, write, Vector.getElem?_setIfInBounds, if_neg apart]

@[simp]
theorem read_grown {more : ℕ} (longer : rows ≤ more) :
    (buffer.grown more).read row column = buffer.read row column := by
  simp only [read, grown, Vector.getElem?_ofFn]
  split
  case isTrue => rfl
  case isFalse beyond =>
      have outside : rows * stride ≤ place row column :=
        (Nat.mul_le_mul_right stride longer).trans (not_lt.mp beyond)
      rw [Vector.getElem?_eq_none outside]

end Reading

end StridedBuffer
