import Gridbook.Sheet.Basic
import Gridbook.Style.Json

/-!
# Sheets as JSON

The size of the grid, and contents and styles by the names of their cells, row
by row. Entries whose name denotes no cell are dropped; what is read is stored
as it is.
-/
namespace Gridbook

namespace CellMap

/-- An object with one field a cell, in the order of the cells. -/
def toJson (write : α → Json) (m : CellMap α) : Json :=
  Json.record (m.entries.map fun e => (e.1.label, write e.2))

/-- The entry of a field; none if its name denotes no cell. -/
def readField (read : Json → Option α) (field : Option String × Json) :
    Option (Option (Coord × α)) :=
  match field.1, read field.2 with
  | some name, some a => some ((Coord.ofName? name).map fun c => (c, a))
  | _, _ => none

/-- The entries of an object; of several at one cell the last one counts. -/
def ofJson? (read : Json → Option α) : Json → Option (CellMap α)
  | .object fields => (fields.mapM (readField read)).map fun entries => ofList (entries.filterMap id)
  | _ => none

end CellMap

namespace Sheet

def toJson (s : Sheet) : Json :=
  Json.record [
    ("numRows", Json.nat s.rows), ("numCols", Json.nat s.cols),
    ("cells", s.contents.toJson Json.text), ("styles", s.styles.toJson Style.toJson)]

/-- The largest size of a grid. -/
def largestSize : Nat := 4294967295

def ofJson? (j : Json) : Option Sheet :=
  match j.fields? ["numRows", "numCols", "cells", "styles"] with
  | some [rows, cols, contents, styles] => do
    let rows ← Json.required (Json.nat? largestSize) rows
    let cols ← Json.required (Json.nat? largestSize) cols
    let contents ← Json.orElse .empty (CellMap.ofJson? Json.text?) contents
    let styles ← Json.orElse .empty (CellMap.ofJson? Style.ofJson?) styles
    some ⟨rows, cols, contents, styles⟩
  | _ => none

end Sheet

end Gridbook
