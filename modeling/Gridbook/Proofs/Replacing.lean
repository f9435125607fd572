import Gridbook.Proofs.Imports
import Gridbook.Proofs.StyleOrder

/-!
# What an import leaves

Where rows are counted one by one, an import is seen in the sheet place by place: the
content of a cell is what its value becomes, its style is the last one under one of its
names, and the reported cells are those that got a content, in the order of reading.
-/
namespace Gridbook

namespace Import

/-- Null and the empty text, which leave a cell empty. -/
def leavesEmpty : Json → Bool
  | .null => true
  | .string s => s.getD "" = ""
  | _ => false

theorem literal?_eq_none_iff {j : Json} : literal? j = none ↔ leavesEmpty j = true := by
  cases j with
  | null => simp [literal?, leavesEmpty]
  | string s =>
    cases s with
    | none => simp [literal?, leavesEmpty]
    | some text => simp [literal?, leavesEmpty]
  | bool _ | number _ | array _ | object _ => simp [literal?, leavesEmpty]

variable {data : Import} {rows cols : Nat} {s : Sheet}

theorem grid_apply (hheight : data.height ≤ Coord.lastRow) (hrows : 1 ≤ rows) (hcols : 1 ≤ cols) :
    (data.apply rows cols s).rows = max rows data.height ∧
      (data.apply rows cols s).cols = min Coord.letters (max cols data.width) := by
  have hletters : 1 ≤ Coord.letters := by decide
  obtain ⟨hrow, hcol⟩ := size_apply data rows cols s
  rw [hrow, hcol]
  simp only [grid, Sheet.ofSize, gridRows, gridCols, counted]
  omega

theorem get?_contents_apply (hheight : data.height ≤ Coord.lastRow) (c : Coord) :
    (data.apply rows cols s).contents.get? c =
      if c.col < Coord.letters then (data.valueAt? c).bind literal? else none := by
  rw [contents_apply, get?_contents (Nat.le_succ_of_le hheight)]

end Import

namespace Edit

open Import

end Edit

end Gridbook
