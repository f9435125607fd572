import Gridbook.Json.Normal
import Gridbook.Json.Writer
import Gridbook.Sheet.Basic

/-!
# Imported data

Rows of values and styles by cell names, as they come from a file. An import
empties a sheet and makes room for the data: the grid gets as large as the data,
but not smaller than a given size and not wider than there are column letters.
Then it stores the contents and the styles one by one. Rows are counted in 32
bits; whatever is beyond the last number counts as that row.
-/
namespace Gridbook

/-- Rows of values, and styles under names that are all different. -/
structure Import where
  rows : List (List Json)
  styles : List (String × Style)

namespace Import

/-- Rows of texts without styles. -/
def ofTexts (rows : List (List String)) : Import := ⟨rows.map (·.map Json.text), []⟩

/-- Sets the style under a name. -/
def withStyle (data : Import) (name : String) (style : Style) : Import :=
  { data with styles := data.styles.filter (·.1 ≠ name) ++ [(name, style)] }

def height (data : Import) : Nat := data.rows.length

/-- The length of the longest row. -/
def width (data : Import) : Nat := (data.rows.map List.length).foldl max 0

/-- The content that a value becomes; null and the empty text leave a cell empty. -/
def literal? : Json → Option String
  | .null => none
  | .string s => if s.getD "" = "" then none else s
  | j => some j.normal.write

/-- The contents of a row from a column on. -/
def rowContents (row : Nat) : Nat → List Json → List (Coord × String)
  | _, [] => []
  | col, j :: js =>
    ((literal? j).map fun content => (⟨row, col⟩, content)).toList ++ rowContents row (col + 1) js

/-- A number of rows, as far as rows are counted. -/
def counted (n : Nat) : Nat := min n Coord.lastRow

/-- The contents of all rows from a row on, without columns that have no letter. -/
def contentsFrom : Nat → List (List Json) → List (Coord × String)
  | _, [] => []
  | row, js :: rest =>
    rowContents (counted row) 0 (js.take Coord.letters) ++ contentsFrom (row + 1) rest

/-- The imported cells row by row. -/
def contents (data : Import) : List (Coord × String) := contentsFrom 0 data.rows

/-- Rows for the data, at least the given ones. -/
def gridRows (data : Import) (rows : Nat) : Nat := max rows (counted data.height)

/-- Columns for the data, at least the given ones, as far as there are letters. -/
def gridCols (data : Import) (cols : Nat) : Nat := min (max cols data.width) Coord.letters

/-- Empties a sheet and gives it a grid for the data. -/
def makeRoom (data : Import) (rows cols : Nat) (s : Sheet) : Sheet :=
  s.clear.resize (data.gridRows rows) (data.gridCols cols)

/-- Stores a content at its cell. -/
def placeContent (s : Sheet) (entry : Coord × String) : Sheet := s.setContent entry.1 entry.2

/-- Sets a style at the cell of that name, if the grid has it. -/
def placeStyle (s : Sheet) (entry : String × Style) : Sheet :=
  match Coord.ofName? entry.1 with
  | some c => if s.contains c then s.setStyle c entry.2 else s
  | none => s

/-- Puts the data in the place of all that a sheet holds, in a grid of at least `rows` by `cols`. -/
def apply (data : Import) (rows cols : Nat) (s : Sheet) : Sheet :=
  let filled := data.contents.foldl placeContent (data.makeRoom rows cols s)
  data.styles.foldl placeStyle filled

end Import

end Gridbook
