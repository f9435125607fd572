import Gridbook.Proofs.Crossing

/-!
# What a line edit carries along

A line edit carries content and style of every cell to the new place of the cell, as far
as this place has a letter. No two cells go to one place and nothing comes from elsewhere,
so nothing that is stored gets lost or doubled in the columns `A` to `Z`.
-/
namespace Gridbook

namespace CellMap

variable {α : Type} {m : CellMap α} {f : Coord → Option Coord}

theorem get?_relocate_of_target (hf : Separates f) {c d : Coord} (hc : f c = some d) :
    (m.relocate f).get? d = m.get? c := by
  refine Option.ext fun a => ?_
  rw [get?_relocate_eq_some_iff hf]
  constructor
  · rintro ⟨b, hb, ha⟩
    exact hf b c d hb hc ▸ ha
  · exact fun ha => ⟨c, hc, ha⟩

theorem get?_relocate_eq_none (hf : Separates f) {d : Coord} (hd : ∀ c, f c ≠ some d) :
    (m.relocate f).get? d = none := by
  refine Option.eq_none_iff_forall_ne_some.mpr fun a ha => ?_
  obtain ⟨c, hc, -⟩ := (get?_relocate_eq_some_iff hf).mp ha
  exact hd c hc

end CellMap

namespace LineEdit

variable {e : LineEdit} {s : Sheet}

theorem keeps_eq_some_iff {c d : Coord} :
    e.keeps c = some d ↔ e.target c = some d ∧ d.col < Coord.letters := by
  rw [keeps, Option.filter_eq_some_iff, decide_eq_true_eq]

theorem get?_contents_apply {c d : Coord} (hc : e.keeps c = some d) :
    (e.apply s).contents.get? d = (s.contents.get? c).map e.follow := by
  rw [contents_apply, CellMap.get?_map, CellMap.get?_relocate_of_target (separates_keeps e) hc]

theorem style?_apply_line {c d : Coord} (hc : e.keeps c = some d) :
    (e.apply s).style? d = s.style? c := by
  rw [Sheet.style?, styles_apply, CellMap.get?_relocate_of_target (separates_keeps e) hc,
    Sheet.style?]

theorem apply_empty {d : Coord} (hd : ∀ c, e.keeps c ≠ some d) :
    (e.apply s).contents.get? d = none ∧ (e.apply s).style? d = none := by
  constructor
  · rw [contents_apply, CellMap.get?_map, CellMap.get?_relocate_eq_none (separates_keeps e) hd,
      Option.map_none]
  · rw [Sheet.style?, styles_apply, CellMap.get?_relocate_eq_none (separates_keeps e) hd]

/-- The cell that comes to a place, if one does and the place has a letter. -/
def origin? (e : LineEdit) (c : Coord) : Option Coord :=
  if c.col < Coord.letters then
    match e with
    | insertRow index =>
      if c.row = index + 1 then none else some (if index < c.row then ⟨c.row - 1, c.col⟩ else c)
    | deleteRow index => some (if index ≤ c.row then ⟨c.row + 1, c.col⟩ else c)
    | insertCol index =>
      if c.col = index + 1 then none else some (if index < c.col then ⟨c.row, c.col - 1⟩ else c)
    | deleteCol index => some (if index ≤ c.col then ⟨c.row, c.col + 1⟩ else c)
  else none

theorem origin?_eq_some_iff {c d : Coord} : e.origin? d = some c ↔ e.keeps c = some d := by
  obtain ⟨row, col⟩ := c
  obtain ⟨row', col'⟩ := d
  rw [keeps_eq_some_iff]
  cases e <;> simp only [target, origin?] <;> grind

/-- What stands at a place behind the edit comes from its origin. -/
theorem apply_origin (d : Coord) :
    (e.apply s).contents.get? d = ((e.origin? d).bind s.contents.get?).map e.follow ∧
      (e.apply s).style? d = (e.origin? d).bind s.style? := by
  cases horigin : e.origin? d with
  | some c =>
    have hc := origin?_eq_some_iff.mp horigin
    exact ⟨get?_contents_apply hc, style?_apply_line hc⟩
  | none =>
    refine apply_empty fun c hc => ?_
    rw [origin?_eq_some_iff.mpr hc] at horigin
    cases horigin

/-- An edit of a grid with a row and a column changes the number of the one or of the other by one. -/
theorem grid_apply (hrows : 1 ≤ s.rows) (hcols : 1 ≤ s.cols) (happ : e.isApplicable s = true) :
    if e.onRows then
      (e.apply s).cols = s.cols ∧
        if e.inserts then (e.apply s).rows = s.rows + 1 else (e.apply s).rows + 1 = s.rows
    else
      (e.apply s).rows = s.rows ∧
        if e.inserts then (e.apply s).cols = s.cols + 1 else (e.apply s).cols + 1 = s.cols := by
  rw [rows_apply, cols_apply]
  cases e <;> simp only [isApplicable, onRows, inserts, resize, Sheet.resize, Bool.and_eq_true,
    decide_eq_true_eq, if_true, Bool.false_eq_true, if_false] at happ ⊢ <;> omega

theorem grid_apply_le (hrows : s.rows ≤ Coord.lastRow) (hcols : s.cols ≤ Coord.lastRow)
    (happ : e.isApplicable s = true) :
    (e.apply s).rows ≤ Coord.lastRow ∧ (e.apply s).cols ≤ Coord.lastRow := by
  have hletters : Coord.letters < Coord.lastRow := by decide
  rw [rows_apply, cols_apply]
  cases e <;> simp only [isApplicable, resize, Sheet.resize, Bool.and_eq_true,
    decide_eq_true_eq] at happ ⊢ <;> omega

/-- In a grid of lettered columns every cell that is not removed goes to a lettered column. -/
theorem lettered_target (hcols : s.cols ≤ Coord.letters) (happ : e.isApplicable s = true)
    {c d : Coord} (hc : s.contains c = true) (hd : e.target c = some d) :
    d.col < Coord.letters := by
  rw [Sheet.contains_iff] at hc
  obtain ⟨row, col⟩ := c
  cases e <;> simp only [isApplicable, target, Bool.and_eq_true, decide_eq_true_eq]
    at happ hd hc <;> grind

end LineEdit

namespace Edit

open LineEdit

/--
An edit of lines takes no two cells to one place. Every cell that is not removed takes
content and style to its new place if this is in a lettered column, as all places are in
a grid of lettered columns, and formulas follow. There is nothing stored elsewhere. The
number of the rows or that of the columns changes by one, and all that is stored lies in the
new grid, which has no more rows and columns than can be counted.
-/
theorem line_carries {e : LineEdit} {s : Sheet} (hs : s.StoresWithin)
    (hrows : s.rows ≤ Coord.lastRow) (hcols : s.cols ≤ Coord.lastRow)
    (happ : (line e).isApplicable s = true) :
    let t := (line e).apply s
    (∀ a b d, e.target a = some d → e.target b = some d → a = b) ∧
    (∀ c d, e.target c = some d → d.col < Coord.letters →
      (t.contents.get? d = (s.contents.get? c).map fun text =>
        if Formula.isFormula text.toList then
          String.ofList (Formula.shiftReferences e text.toList)
        else text) ∧
      t.style? d = s.style? c) ∧
    (∀ d, (∀ c, e.target c = some d → Coord.letters ≤ d.col) →
      t.contents.get? d = none ∧ t.style? d = none) ∧
    (s.cols ≤ Coord.letters → ∀ c d, s.contains c = true → e.target c = some d →
      d.col < Coord.letters) ∧
    (1 ≤ s.rows → 1 ≤ s.cols → if e.onRows then
        t.cols = s.cols ∧ if e.inserts then t.rows = s.rows + 1 else t.rows + 1 = s.rows
      else t.rows = s.rows ∧ if e.inserts then t.cols = s.cols + 1 else t.cols + 1 = s.cols) ∧
    t.StoresWithin ∧ t.rows ≤ Coord.lastRow ∧ t.cols ≤ Coord.lastRow := by
  intro t
  refine ⟨fun a b d => target_injective, fun c d hc hd => ?_, fun d hd => ?_,
    fun hletters c d hc hd => lettered_target hletters happ hc hd,
    fun hrow hcol => grid_apply hrow hcol happ, hs.line happ,
    grid_apply_le hrows hcols happ⟩
  · have hkeeps := keeps_eq_some_iff.mpr ⟨hc, hd⟩
    exact ⟨get?_contents_apply hkeeps, style?_apply_line hkeeps⟩
  · refine apply_empty fun c hc => ?_
    obtain ⟨htarget, hcol⟩ := keeps_eq_some_iff.mp hc
    exact absurd (hd c htarget) (Nat.not_le_of_lt hcol)

theorem line_carries_crossroads :
    crossroads.StoresWithin ∧ (line (insertCol 0)).isApplicable crossroads = true ∧
      ((line (insertCol 0)).apply crossroads).contents.get? ⟨1, 2⟩ = some "=A1*D3+)" ∧
      ((line (insertCol 0)).apply crossroads).contents.get? ⟨1, 1⟩ = none ∧
      ((line (insertCol 0)).apply crossroads).cols = 4 := by
  have hs : crossroads.StoresWithin := by decide +kernel
  have happ : (line (insertCol 0)).isApplicable crossroads = true := by decide +kernel
  obtain ⟨-, hcarried, hempty, -, hgrid, -⟩ :=
    line_carries hs (by decide) (by decide) happ
  obtain ⟨hcontent, -⟩ := hcarried ⟨1, 1⟩ ⟨1, 2⟩ rfl (by decide)
  obtain ⟨hnone, -⟩ := hempty ⟨1, 1⟩ fun c hc => absurd hc (opens_iff.mp rfl c)
  obtain ⟨-, hwider⟩ := hgrid (by decide) (by decide)
  exact ⟨hs, happ, hcontent.trans (by decide +kernel), hnone, hwider⟩

/--
A row that is inserted in a grid of 27 columns takes away the content of a cell that it does not
move. In a grid without rows a column that is deleted makes a row.
-/
theorem line_carries_wide :
    (wide.StoresWithin ∧ (line (insertRow 0)).isApplicable wide = true ∧
      wide.contains ⟨0, 26⟩ = true ∧ (insertRow 0).target ⟨0, 26⟩ = some ⟨0, 26⟩ ∧
      wide.contents.get? ⟨0, 26⟩ = some "x" ∧
      ((line (insertRow 0)).apply wide).contents.get? ⟨0, 26⟩ = none) ∧
    ∃ s : Sheet, s.StoresWithin ∧ (line (deleteCol 0)).isApplicable s = true ∧
      ((line (deleteCol 0)).apply s).rows ≠ s.rows ∧
      ((line (deleteCol 0)).apply s).cols ≠ s.cols := by
  refine ⟨⟨by decide +kernel, by decide +kernel, by decide +kernel, rfl, by decide +kernel,
    by decide +kernel⟩, ⟨0, 2, .empty, .empty⟩, by decide +kernel, by decide, by decide, by decide⟩

end Edit

end Gridbook
