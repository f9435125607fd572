import Gridbook.Proofs.Sessions

/-!
# Sheets that can be addressed

The grids of a session have no more rows than are counted and no more columns than there
are letters. An import of more rows than are counted puts the last of them one row below
the grid; that apart, all that is stored has an address.
-/
namespace Gridbook

/--
The rows are counted and the columns have letters; what is stored lies in lettered
columns and at most one row below the grid.
-/
structure Sheet.Bounded (s : Sheet) : Prop where
  rows_le : s.rows ≤ Coord.lastRow
  cols_le : s.cols ≤ Coord.letters
  contents : s.contents.All fun c _ => c.row ≤ s.rows ∧ c.col < Coord.letters
  styles : s.styles.All fun c _ => c.row ≤ s.rows ∧ c.col < Coord.letters

namespace Sheet

theorem bounded_ofSize {rows cols : Nat} (hrows : rows ≤ Coord.lastRow)
    (hcols : cols ≤ Coord.letters) : (ofSize rows cols).Bounded where
  rows_le := Nat.max_le.mpr ⟨hrows, by decide⟩
  cols_le := Nat.max_le.mpr ⟨hcols, by decide⟩
  contents := CellMap.all_empty _
  styles := CellMap.all_empty _

namespace Bounded

variable {s : Sheet} (h : s.Bounded)

include h

theorem of_contains {c : Coord} (hc : s.contains c = true) :
    c.row ≤ s.rows ∧ c.col < Coord.letters := by
  obtain ⟨hrow, hcol⟩ := contains_iff.mp hc
  exact ⟨Nat.le_of_lt hrow, Nat.lt_of_lt_of_le hcol h.cols_le⟩

/-- An edit moves what is stored as far as it moves the end of the grid. -/
theorem line {e : LineEdit} (happ : e.isApplicable s = true) : (e.apply s).Bounded := by
  have hrows : (e.apply s).rows = (e.resize s).rows := by cases e <;> rfl
  have hcols : (e.apply s).cols = (e.resize s).cols := by cases e <;> rfl
  have hgrid : (e.resize s).rows ≤ Coord.lastRow ∧ (e.resize s).cols ≤ Coord.letters := by
    have := h.rows_le
    have := h.cols_le
    have hpos : 1 ≤ Coord.lastRow ∧ 1 ≤ Coord.letters := by decide
    cases e <;> simp only [LineEdit.isApplicable, LineEdit.resize, Sheet.resize, Bool.and_eq_true,
      decide_eq_true_eq] at happ ⊢ <;> omega
  have hplace {c d : Coord} (hc : c.row ≤ s.rows) (hd : e.target c = some d) :
      d.row ≤ (e.apply s).rows := by
    rw [hrows]
    cases e <;> simp only [LineEdit.isApplicable, LineEdit.resize, Sheet.resize, Bool.and_eq_true,
      decide_eq_true_eq, LineEdit.target] at happ hd ⊢ <;> grind
  refine ⟨hrows ▸ hgrid.1, hcols ▸ hgrid.2, fun d content hd => ?_, fun d style hd => ?_⟩
  · obtain ⟨hletters, c, hc, old, hold, -⟩ := LineEdit.get?_apply_eq_some_iff.mp hd
    exact ⟨hplace (h.contents c old hold).1 hc, hletters⟩
  · obtain ⟨hletters, c, hc, hold⟩ := LineEdit.get?_styles_apply_eq_some_iff.mp hd
    exact ⟨hplace (h.styles c style hold).1 hc, hletters⟩

theorem exchange {a b : Coord} (ha : s.contains a = true) (hb : s.contains b = true) :
    (s.exchange a b).Bounded := by
  have hplace {c : Coord} (hc : (exchanged a b c).row ≤ s.rows ∧
      (exchanged a b c).col < Coord.letters) : c.row ≤ s.rows ∧ c.col < Coord.letters := by
    have ha := h.of_contains ha
    have hb := h.of_contains hb
    rw [exchanged] at hc
    split at hc
    · simp_all
    · split at hc <;> simp_all
  refine ⟨h.rows_le, h.cols_le, fun c content hc => ?_, fun c style hc => ?_⟩
  · obtain ⟨old, hold, -⟩ := get?_contents_exchange_eq_some_iff.mp hc
    exact hplace (h.contents _ old hold)
  · rw [get?_styles_exchange] at hc
    exact hplace (h.styles _ style hc)

end Bounded

theorem keptByWrites_bounded : KeptByWrites Bounded where
  setContent h _ hc _ :=
    { h with contents := h.contents.set fun _ _ => h.of_contains hc }
  setStyle h _ hc _ :=
    { h with styles := h.styles.set fun _ _ => h.of_contains hc }

theorem keptByMoves_bounded : KeptByMoves Bounded := ⟨Bounded.line, Bounded.exchange⟩

end Sheet

theorem Import.bounded_apply (data : Import) {rows : Nat} (hrows : rows ≤ Coord.lastRow)
    (cols : Nat) (s : Sheet) : (data.apply rows cols s).Bounded := by
  have hgrid : (data.grid rows cols).Bounded :=
    Sheet.bounded_ofSize (Nat.max_le.mpr ⟨hrows, Nat.min_le_right ..⟩) (Nat.min_le_right ..)
  have hcontents : (data.unstyled rows cols).Bounded :=
    { hgrid with
      contents := CellMap.all_ofList fun e he => by
        obtain ⟨⟨row, hrow, hcounted⟩, hcol, -⟩ := of_mem_contents he
        simp only [unstyled, grid, Sheet.ofSize, gridRows, gridCols, counted] at hcounted ⊢
        omega }
  rw [apply_eq]
  exact keeps_foldl_placeStyle Sheet.keptByWrites_bounded hcontents data.styles

namespace Workbook

theorem settings_perform (w : Workbook) (o : Operation) : (w.perform o).settings = w.settings := by
  have hstep := w.step_perform o
  generalize w.perform o = w' at hstep ⊢
  cases hstep <;> rfl

/-- An import keeps the grid at least as large as the settings say, and asks for no more. -/
theorem rows_eq_of_edit {w : Workbook} {r : Request} {data : Import} {rows cols : Nat}
    (h : w.edit r = .ok (.replace data rows cols)) : rows = w.settings.rows := by
  cases r with
  | setContent name text | clearCell name | changeStyle name change | setStyle name style =>
    obtain ⟨c, -, he⟩ := exists_of_bind_eq_ok h
    cases he
  | editLine e => cases h
  | exchange a b | fill a b =>
    obtain ⟨a, -, h⟩ := exists_of_bind_eq_ok h
    obtain ⟨b, -, he⟩ := exists_of_bind_eq_ok h
    cases he
  | replace data =>
    cases h
    rfl
  | replaceByJson text =>
    rw [edit] at h
    split at h
    · cases h
      rfl
    · cases h

theorem bounded_of_edit {w : Workbook} (hw : w.sheet.Bounded)
    (hrows : w.settings.rows ≤ Coord.lastRow) {r : Request} {e : Edit} (hedit : w.edit r = .ok e)
    (happ : e.isApplicable w.sheet = true) : (e.apply w.sheet).Bounded := by
  refine Edit.keeps_apply Sheet.keptByWrites_bounded Sheet.keptByMoves_bounded hw happ ?_
  rintro data rows cols rfl
  exact data.bounded_apply (rows_eq_of_edit hedit ▸ hrows) cols _

theorem bounded_after {w : Workbook} (hrows : w.settings.rows ≤ Coord.lastRow)
    (hw : w.timeline.All Sheet.Bounded) (operations : List Operation) :
    (w.after operations).settings = w.settings ∧
      (w.after operations).timeline.All Sheet.Bounded := by
  refine after_keeps (P := fun v => v.settings = w.settings ∧ v.timeline.All Sheet.Bounded)
    ⟨rfl, hw⟩ fun v hv o _ => ?_
  obtain ⟨hsettings, hall⟩ := hv
  have hrows : v.settings.rows ≤ Coord.lastRow := hsettings ▸ hrows
  exact ⟨(settings_perform v o).trans hsettings,
    all_perform hall fun _ _ _ hedit happ => bounded_of_edit hall.present hrows hedit happ⟩

theorem rows_eq_of_check {raw s : Settings} (h : raw.check = .ok s) : s.rows = raw.rows := by
  rw [Settings.check] at h
  split at h
  · cases h
  · split at h
    · cases h
    · split at h <;> cases h
      rfl

end Workbook

end Gridbook
