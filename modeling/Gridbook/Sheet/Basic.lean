import Gridbook.Area
import Gridbook.CellMap
import Gridbook.Formula.Reference
import Gridbook.Style.Basic

/-!
# Sheets

A sheet is a grid with the contents and the styles of its cells. An empty cell
has no stored content and a plain one no stored style. Nothing ties what is
stored to the size of the grid; who changes the size looks after that.

A sheet is a value, so a snapshot of it is the sheet itself.
-/
namespace Gridbook

structure Sheet where
  rows : Nat
  cols : Nat
  contents : CellMap String
  styles : CellMap Style
  deriving DecidableEq

namespace Sheet

/-- An empty sheet of at least one cell. -/
def ofSize (rows cols : Nat) : Sheet := ⟨max rows 1, max cols 1, .empty, .empty⟩

/-- The same cells in a grid of another size, of at least one cell. -/
def resize (s : Sheet) (rows cols : Nat) : Sheet :=
  { s with rows := max rows 1, cols := max cols 1 }

/-- The cell lies in the grid. -/
def contains (s : Sheet) (c : Coord) : Bool := decide (c.Within s.rows s.cols)

/-- The content of a cell, the empty text if it has none. -/
def content (s : Sheet) (c : Coord) : String := (s.contents.get? c).getD ""

/-- Stores a content; the empty text clears the cell. -/
def setContent (s : Sheet) (c : Coord) (content : String) : Sheet :=
  { s with contents := s.contents.set c (if content = "" then none else some content) }

def style? (s : Sheet) (c : Coord) : Option Style := s.styles.get? c

/-- The style of a cell, the plain one if it has none. -/
def style (s : Sheet) (c : Coord) : Style := (s.style? c).getD .plain

/-- Stores a style; the plain style is stored as none. -/
def setStyle (s : Sheet) (c : Coord) (style : Style) : Sheet :=
  { s with styles := s.styles.set c (if style = .plain then none else some style) }

/-- Exchanges content and style of two cells. -/
def swap (s : Sheet) (a b : Coord) : Sheet :=
  { s with
    contents := (s.contents.set a (s.contents.get? b)).set b (s.contents.get? a)
    styles := (s.styles.set a (s.styles.get? b)).set b (s.styles.get? a) }

/-- Moves content and style of every cell; cells that go nowhere are dropped. -/
def relocate (s : Sheet) (target : Coord → Option Coord) : Sheet :=
  { s with contents := s.contents.relocate target, styles := s.styles.relocate target }

/-- A content, or what `change` makes of it if it is a formula. -/
def changedFormula (change : String → Option String) (content : String) : String :=
  if Formula.isFormula content.toList then (change content).getD content else content

/-- Replaces the formulas for which `change` gives a text. -/
def mapFormulas (s : Sheet) (change : String → Option String) : Sheet :=
  { s with contents := s.contents.map (changedFormula change) }

/-- The number of contents that `mapFormulas` makes different. -/
def countChangedFormulas (s : Sheet) (change : String → Option String) : Nat :=
  s.contents.entries.countP fun e => changedFormula change e.2 ≠ e.2

/-- Removes all contents and styles. -/
def clear (s : Sheet) : Sheet := { s with contents := .empty, styles := .empty }

/-- The area from the first cell to the last used row and column, if a cell is used. -/
def usedArea? (s : Sheet) : Option Area :=
  match s.contents.cells ++ s.styles.cells with
  | [] => none
  | c :: cs => some (cs.foldl Area.including (Area.spanning ⟨0, 0⟩ c))

theorem eq_of_fields {s t : Sheet} (hrows : s.rows = t.rows) (hcols : s.cols = t.cols)
    (hcontents : s.contents = t.contents) (hstyles : s.styles = t.styles) : s = t := by
  obtain ⟨rows, cols, contents, styles⟩ := s
  obtain ⟨rows', cols', contents', styles'⟩ := t
  subst hrows hcols hcontents hstyles
  rfl

/-- A sheet without its cells in a grid of another size is an empty sheet of that size. -/
theorem clear_resize (s : Sheet) (rows cols : Nat) :
    s.clear.resize rows cols = ofSize rows cols := rfl

theorem content_setContent (s : Sheet) (c d : Coord) (text : String) :
    (s.setContent c text).content d = if c = d then text else s.content d := by
  simp only [content, setContent, CellMap.get?_set]
  by_cases hcd : c = d
  · by_cases ht : text = "" <;> simp [hcd, ht]
  · simp [hcd]

theorem style_setStyle (s : Sheet) (c d : Coord) (style : Style) :
    (s.setStyle c style).style d = if c = d then style else s.style d := by
  simp only [Sheet.style, style?, setStyle, CellMap.get?_set]
  by_cases hcd : c = d
  · by_cases hs : style = .plain <;> simp [hcd, hs]
  · simp [hcd]

/-- The cell whose content and style a cell gets when two cells change places. -/
def exchanged (a b c : Coord) : Coord := if c = a then b else if c = b then a else c

theorem get?_contents_swap (s : Sheet) (a b c : Coord) :
    (s.swap a b).contents.get? c = s.contents.get? (exchanged a b c) := by
  simp only [swap, CellMap.get?_set, exchanged]
  grind

theorem get?_styles_swap (s : Sheet) (a b c : Coord) :
    (s.swap a b).styles.get? c = s.styles.get? (exchanged a b c) := by
  simp only [swap, CellMap.get?_set, exchanged]
  grind

theorem get?_contents_mapFormulas (s : Sheet) (change : String → Option String) (c : Coord) :
    (s.mapFormulas change).contents.get? c =
      (s.contents.get? c).map (changedFormula change) :=
  CellMap.get?_map _ _ _

end Sheet

end Gridbook
