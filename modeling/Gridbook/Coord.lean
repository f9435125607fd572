import Gridbook.Text.Blank

/-!
# Cell coordinates and their names

A cell is a row and a column, both counted from zero and not bounded by any
grid. Only the first 26 columns have a letter, so only their cells have a name:
the letter followed by the row number counted from one.
-/
namespace Gridbook

structure Coord where
  row : Nat
  col : Nat
  deriving DecidableEq, Repr

namespace Coord

/-- Columns that have a letter, `A` to `Z`. -/
def letters : Nat := 26

/-- The last row number that a name may carry. -/
def lastRow : Nat := 4294967295

/-- Row by row, and in a row from left to right. -/
instance : LT Coord where
  lt a b := a.row < b.row ∨ a.row = b.row ∧ a.col < b.col

instance (a b : Coord) : Decidable (a < b) :=
  inferInstanceAs (Decidable (a.row < b.row ∨ a.row = b.row ∧ a.col < b.col))

theorem lt_iff {a b : Coord} : a < b ↔ a.row < b.row ∨ a.row = b.row ∧ a.col < b.col := Iff.rfl

theorem lt_irrefl (a : Coord) : ¬ a < a := by
  simp [lt_iff]

theorem lt_trans {a b c : Coord} (h : a < b) (h' : b < c) : a < c := by
  simp only [lt_iff] at *; omega

theorem lt_asymm {a b : Coord} (h : a < b) : ¬ b < a := by
  simp only [lt_iff] at *; omega

theorem eq_of_not_lt {a b : Coord} (h : ¬ a < b) (h' : ¬ b < a) : a = b := by
  obtain ⟨r, c⟩ := a
  obtain ⟨r', c'⟩ := b
  simp only [lt_iff, mk.injEq] at *
  omega

/-- The cell lies in a grid of `rows` by `cols`. -/
def Within (rows cols : Nat) (c : Coord) : Prop := c.row < rows ∧ c.col < cols

instance (rows cols : Nat) (c : Coord) : Decidable (c.Within rows cols) :=
  inferInstanceAs (Decidable (_ ∧ _))

/-- The cell that many rows down and columns right, if the grid has it. -/
def offset? (c : Coord) (down right : Int) (rows cols : Nat) : Option Coord :=
  let row := (c.row : Int) + down
  let col := (c.col : Int) + right
  if 0 ≤ row ∧ 0 ≤ col ∧ row < rows ∧ col < cols then some ⟨row.toNat, col.toNat⟩ else none

/-- The letter of a column below `letters`. -/
def letter (col : Nat) : Char := Char.ofNat ('A'.toNat + col)

/-- The characters of a cell's name; a cell past column `Z` has none. -/
def nameChars? (c : Coord) : Option (List Char) :=
  if c.col < letters then some (letter c.col :: Nat.toDigits 10 (c.row + 1)) else none

def name? (c : Coord) : Option String := c.nameChars?.map String.ofList

/-- The name of a cell, or `R1C27` style where it has none. -/
def label (c : Coord) : String :=
  match c.name? with
  | some name => name
  | none => s!"R{c.row + 1}C{c.col + 1}"

/--
The cell that a name denotes. A name is one letter and decimal digits whose
value is a row number; zeros may stand in front of it.
-/
def ofChars? : List Char → Option Coord
  | [] => none
  | letter :: digits =>
    if letter.isUpper && !digits.isEmpty && digits.all Char.isDigit then
      let number := Nat.ofDigitChars 10 digits 0
      if 1 ≤ number ∧ number ≤ lastRow then some ⟨number - 1, letter.toNat - 'A'.toNat⟩
      else none
    else none

def ofName? (name : String) : Option Coord := ofChars? name.toList

end Coord

end Gridbook
