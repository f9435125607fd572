import Gridbook.Fill
import Gridbook.Import.Basic
import Gridbook.LineEdit

/-!
# Edits of a sheet

An edit says whether it applies to a sheet, which sheet it leads to and which
cells it affects. `apply` runs an edit on any sheet; `run?` asks first.
-/
namespace Gridbook

namespace LineEdit

/-- The line is in the grid, and the grid may grow or shrink by one. -/
def isApplicable (e : LineEdit) (s : Sheet) : Bool :=
  match e with
  | insertRow index => index < s.rows && s.rows < Coord.lastRow
  | deleteRow index => index < s.rows && 1 < s.rows
  | insertCol index => index < s.cols && s.cols < Coord.letters
  | deleteCol index => index < s.cols && 1 < s.cols

/-- The grid after the edit. -/
def resize (e : LineEdit) (s : Sheet) : Sheet :=
  match e with
  | insertRow _ => s.resize (s.rows + 1) s.cols
  | deleteRow _ => s.resize (s.rows - 1) s.cols
  | insertCol _ => s.resize s.rows (s.cols + 1)
  | deleteCol _ => s.resize s.rows (s.cols - 1)

/-- Moves the cells, lets all formulas follow and changes the grid. -/
def apply (e : LineEdit) (s : Sheet) : Sheet :=
  let moved := s.relocate fun c => (e.target c).filter fun d => d.col < Coord.letters
  e.resize (moved.mapFormulas fun formula =>
    some (String.ofList (Formula.shiftReferences e formula.toList)))

end LineEdit

/-- Exchanges two cells and all references to them. -/
def Sheet.exchange (s : Sheet) (a b : Coord) : Sheet :=
  (s.swap a b).mapFormulas fun formula =>
    some (String.ofList (Formula.swapReferences a b formula.toList))

inductive Edit where
  /-- A new content for a cell; the empty text clears it. -/
  | setContent (c : Coord) (text : String)
  | changeStyle (c : Coord) (change : StyleChange)
  | setStyle (c : Coord) (style : Style)
  | line (e : LineEdit)
  /-- Two cells change places. -/
  | exchange (a b : Coord)
  | fill (f : Fill)
  /-- The data replace the sheet, in a grid of at least that size. -/
  | replace (data : Import) (rows cols : Nat)

namespace Edit

def isApplicable (s : Sheet) : Edit → Bool
  | setContent c _ => s.contains c
  | changeStyle c _ => s.contains c
  | setStyle c _ => s.contains c
  | line e => e.isApplicable s
  | exchange a b => a != b && s.contains a && s.contains b
  | fill f => f.isApplicable s
  | replace .. => true

def apply (s : Sheet) : Edit → Sheet
  | setContent c text => s.setContent c text
  | changeStyle c change => s.setStyle c ((s.style c).apply change)
  | setStyle c style => s.setStyle c style
  | line e => e.apply s
  | exchange a b => s.exchange a b
  | fill f => f.apply s
  | replace data rows cols => data.apply rows cols s

/-- The cells that an edit reports. -/
def affected (s : Sheet) : Edit → List Coord
  | setContent c _ => [c]
  | changeStyle c _ => [c]
  | setStyle c _ => [c]
  | line e => (e.apply s).contents.cells
  | exchange a b => [a, b]
  | fill f => f.affected s
  | replace data _ _ => data.contents.map Prod.fst

/-- What a history shows for an edit. -/
def description : Edit → String
  | setContent _ text => if text = "" then "Clear cell" else "Set cell value"
  | changeStyle _ change => change.description
  | setStyle .. => "Set cell format"
  | line e => e.description
  | exchange .. => "Move cell"
  | fill _ => "Fill cells"
  | replace .. => "Import sheet"

/-- The sheet after the edit; none if the edit does not apply. -/
def run? (e : Edit) (s : Sheet) : Option Sheet :=
  if e.isApplicable s then some (e.apply s) else none

end Edit

end Gridbook
