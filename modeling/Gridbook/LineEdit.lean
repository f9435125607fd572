import Gridbook.Coord

/-!
# Inserting and deleting lines

A line edit puts an empty row or column after one line or removes a line. It
moves cells: those beyond the line by one, and no cell of a removed line stays.
-/
namespace Gridbook

inductive LineEdit where
  /-- A new row below the row of that index. -/
  | insertRow (index : Nat)
  | deleteRow (index : Nat)
  /-- A new column to the right of the column of that index. -/
  | insertCol (index : Nat)
  | deleteCol (index : Nat)
  deriving DecidableEq, Repr

namespace LineEdit

/-- Where a cell goes; none if it is removed. -/
def target : LineEdit → Coord → Option Coord
  | insertRow index, c => some (if index < c.row then ⟨c.row + 1, c.col⟩ else c)
  | deleteRow index, c =>
    if c.row = index then none else some (if index < c.row then ⟨c.row - 1, c.col⟩ else c)
  | insertCol index, c => some (if index < c.col then ⟨c.row, c.col + 1⟩ else c)
  | deleteCol index, c =>
    if c.col = index then none else some (if index < c.col then ⟨c.row, c.col - 1⟩ else c)

def description : LineEdit → String
  | insertRow _ => "Insert row"
  | deleteRow _ => "Delete row"
  | insertCol _ => "Insert column"
  | deleteCol _ => "Delete column"

/-- No two cells go to the same place. -/
theorem target_injective {e : LineEdit} {a b c : Coord} (ha : e.target a = some c)
    (hb : e.target b = some c) : a = b := by
  obtain ⟨ra, ca⟩ := a
  obtain ⟨rb, cb⟩ := b
  obtain ⟨rc, cc⟩ := c
  cases e <;> simp only [target] at ha hb <;> grind

end LineEdit

end Gridbook
