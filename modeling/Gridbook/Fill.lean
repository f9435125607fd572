import Gridbook.Decimal.Numeral
import Gridbook.Sheet.Basic

/-!
# Filling an area from a cell

A fill spreads the content of one cell over the smallest area that holds it and
a target. Digits are counted on along one line of the area, the references of a
formula move with it, anything else is copied. The source stays as it is.
-/
namespace Gridbook

inductive FillPolicy where
  /-- Each cell gets the source's number plus its distance from the source. -/
  | sequence
  /-- Each cell gets the formula with its references moved as far as the cell is. -/
  | formula
  | copy
  deriving DecidableEq, Repr

/-- How a content is spread. -/
def FillPolicy.ofContent (content : List Char) : FillPolicy :=
  if content ≠ [] ∧ content.all Char.isDigit then .sequence
  else if Formula.isFormula content then .formula
  else .copy

structure Fill where
  source : Coord
  target : Area
  deriving DecidableEq

namespace Fill

/-- The largest number that a sequence reaches. -/
def largestNumber : Nat := Nat.pow 2 128 - 1

/-- The whole area, source included. -/
def area (f : Fill) : Area := f.target.including f.source

/-- A sequence runs down a single column, else along the row of its source. -/
def line (f : Fill) : List Coord :=
  if f.area.width = 1 then
    (List.range' f.area.first.row f.area.height).map fun row => ⟨row, f.source.col⟩
  else (List.range' f.area.first.col f.area.width).map fun col => ⟨f.source.row, col⟩

/-- The cells that are written, row by row. -/
def targets (f : Fill) (policy : FillPolicy) : List Coord :=
  (if policy = .sequence then f.line else f.area.cells).filter (· ≠ f.source)

/-- The steps from the source to a cell of its line. -/
def distance (f : Fill) (c : Coord) : Nat :=
  if f.area.width = 1 then (c.row - f.source.row) + (f.source.row - c.row)
  else (c.col - f.source.col) + (f.source.col - c.col)

/-- The digits of the source's number plus the distance; digits beyond the largest are copied. -/
def counted (f : Fill) (digits : List Char) (c : Coord) : List Char :=
  let n := Decimal.valueOf digits + f.distance c
  if n ≤ largestNumber then Nat.toDigits 10 n else digits

/-- The content that a cell gets from a content of the source. -/
def contentAt (f : Fill) (rows cols : Nat) (content : List Char) (c : Coord) : List Char :=
  match FillPolicy.ofContent content with
  | .sequence => f.counted content c
  | .formula =>
    Formula.offsetReferences ((c.row : Int) - f.source.row) ((c.col : Int) - f.source.col)
      rows cols content
  | .copy => content

/-- The cells that a fill of a sheet writes. -/
def affected (f : Fill) (s : Sheet) : List Coord :=
  f.targets (FillPolicy.ofContent (s.content f.source).toList)

/-- Writes one cell; a source without a style leaves the cell its own. -/
def write (f : Fill) (s t : Sheet) (c : Coord) : Sheet :=
  let t := t.setContent c
    (String.ofList (f.contentAt s.rows s.cols (s.content f.source).toList c))
  match s.style? f.source with
  | some style => t.setStyle c style
  | none => t

/-- The sheet with all cells written from the source. -/
def apply (f : Fill) (s : Sheet) : Sheet := (f.affected s).foldl (f.write s) s

/-- The source and the target lie in the grid, and there is a cell to write. -/
def isApplicable (f : Fill) (s : Sheet) : Bool :=
  s.contains f.source && s.contains f.target.first && s.contains f.target.last &&
    !f.area.isSingle

end Fill

end Gridbook
