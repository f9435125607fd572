import Gridbook.Formula.Evaluate
import Gridbook.Style.Json

/-!
# Exported data

What a sheet shows, from its first cell to its last used row and column: the
display text and the full style of every cell. Formulas are exported as their
results.
-/
namespace Gridbook

structure ExportedCell where
  text : String
  style : FullStyle
  deriving DecidableEq, Repr

structure Export where
  rows : List (List ExportedCell)
  deriving DecidableEq, Repr

namespace Export

/-- What a cell shows. -/
def cell (s : Sheet) (limit : Nat) (c : Coord) : ExportedCell :=
  ⟨Formula.displayed s limit c, (s.style c).resolve⟩

/-- Nothing where no cell is used. -/
def ofSheet (s : Sheet) (limit : Nat) : Export :=
  match s.usedArea? with
  | none => ⟨[]⟩
  | some area =>
    ⟨(List.range area.height).map fun row =>
      (List.range area.width).map fun col => cell s limit ⟨row, col⟩⟩

/-- The display texts row by row. -/
def texts (e : Export) : List (List String) := e.rows.map (·.map ExportedCell.text)

def toJson (e : Export) : Json :=
  let cell (c : ExportedCell) :=
    Json.record [("value", Json.text c.text), ("style", c.style.toJson)]
  Json.record [("rows", .array (e.rows.map fun row => .array (row.map cell)))]

end Export

end Gridbook
