import Gridbook.Coord

/-!
# Rectangles of cells

An area is given by its upper left and its lower right cell; the type says that
they are in this order. Any two opposite corners span the same area, and the
cells of an area are listed row by row.
-/
namespace Gridbook

structure Area where
  first : Coord
  last : Coord
  row_le : first.row ≤ last.row
  col_le : first.col ≤ last.col
  deriving DecidableEq

namespace Area

/-- The smallest area that holds both cells. -/
def spanning (a b : Coord) : Area where
  first := ⟨min a.row b.row, min a.col b.col⟩
  last := ⟨max a.row b.row, max a.col b.col⟩
  row_le := Nat.le_trans (Nat.min_le_left ..) (Nat.le_max_left ..)
  col_le := Nat.le_trans (Nat.min_le_left ..) (Nat.le_max_left ..)

/-- The smallest area that holds the area and the cell. -/
def including (r : Area) (c : Coord) : Area where
  first := ⟨min r.first.row c.row, min r.first.col c.col⟩
  last := ⟨max r.last.row c.row, max r.last.col c.col⟩
  row_le := Nat.le_trans (Nat.min_le_right ..) (Nat.le_max_right ..)
  col_le := Nat.le_trans (Nat.min_le_right ..) (Nat.le_max_right ..)

def contains (r : Area) (c : Coord) : Bool :=
  r.first.row ≤ c.row && c.row ≤ r.last.row && r.first.col ≤ c.col && c.col ≤ r.last.col

def height (r : Area) : Nat := r.last.row - r.first.row + 1

def width (r : Area) : Nat := r.last.col - r.first.col + 1

def size (r : Area) : Nat := r.height * r.width

def isSingle (r : Area) : Bool := r.first == r.last

/-- The cells of the area, row by row. -/
def cells (r : Area) : List Coord :=
  (List.range' r.first.row r.height).flatMap fun row =>
    (List.range' r.first.col r.width).map fun col => ⟨row, col⟩

/-- One name for a single cell, else the two corners joined by a colon. -/
def label (r : Area) : String :=
  if r.isSingle then r.first.label else r.first.label ++ ":" ++ r.last.label

/--
The two ends written in a range, without the blanks around them. A text without
a colon is both ends.
-/
def endsOf (range : List Char) : List Char × List Char :=
  match range.span (· ≠ ':') with
  | (first, _ :: last) => (Text.trim first, Text.trim last)
  | (single, []) => (Text.trim single, Text.trim single)

def ofChars? (range : List Char) : Option Area :=
  match Coord.ofChars? (endsOf range).1, Coord.ofChars? (endsOf range).2 with
  | some a, some b => some (spanning a b)
  | _, _ => none

@[simp] theorem contains_iff {r : Area} {c : Coord} :
    r.contains c = true ↔ r.first.row ≤ c.row ∧ c.row ≤ r.last.row ∧
      r.first.col ≤ c.col ∧ c.col ≤ r.last.col := by
  simp [contains, and_assoc]

@[simp] theorem mem_cells {r : Area} {c : Coord} : c ∈ r.cells ↔ r.contains c = true := by
  have h₁ := r.row_le
  have h₂ := r.col_le
  obtain ⟨row, col⟩ := c
  simp only [cells, List.mem_flatMap, List.mem_map, List.mem_range'_1, height, width,
    Coord.mk.injEq, contains_iff]
  constructor
  · rintro ⟨a, ha, b, hb, rfl, rfl⟩
    omega
  · intro h
    exact ⟨row, by omega, col, by omega, rfl, rfl⟩

end Area

end Gridbook
