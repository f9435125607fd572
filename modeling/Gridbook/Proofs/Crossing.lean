import Gridbook.Proofs.Following

/-!
# Row edits and column edits

An edit of rows and an edit of columns do not see each other: a cell goes to the same
place in either order, a reference gets the same name or is lost in either order, and
each edit applies after the other one as it did before. Only what stands right of
column `Z` tells the orders apart: an edit of rows drops it, unless an edit of columns
has brought it into a lettered column before.
-/
namespace Gridbook

namespace LineEdit

/-- The edit inserts or deletes a row. -/
def onRows : LineEdit → Bool
  | insertRow _ => true
  | deleteRow _ => true
  | insertCol _ => false
  | deleteCol _ => false

/-- Nothing that is stored right of column `Z` comes into a lettered column. -/
structure BringsNone (e : LineEdit) (s : Sheet) : Prop where
  contents : s.contents.All fun c _ => c.col < Coord.letters ∨ e.keeps c = none
  styles : s.styles.All fun c _ => c.col < Coord.letters ∨ e.keeps c = none

instance (e : LineEdit) (s : Sheet) : Decidable (e.BringsNone s) :=
  decidable_of_iff ((s.contents.All fun c _ => c.col < Coord.letters ∨ e.keeps c = none) ∧
      s.styles.All fun c _ => c.col < Coord.letters ∨ e.keeps c = none)
    ⟨fun h => ⟨h.1, h.2⟩, fun h => ⟨h.contents, h.styles⟩⟩

variable {r k : LineEdit} {s : Sheet}

/-- In a grid of lettered columns nothing stands right of them. -/
theorem bringsNone_of_cols_le (hs : s.SelfContained) (hletters : s.cols ≤ Coord.letters) :
    k.BringsNone s := by
  have hcol : ∀ c, s.contains c = true → c.col < Coord.letters := by
    intro c hc
    exact (Sheet.contains_iff.mp hc).2.trans_le hletters
  exact ⟨fun c a ha => .inl (hcol c (hs.contents c a ha)),
    fun c a ha => .inl (hcol c (hs.styles c a ha))⟩

/-- Where a row or column goes by its index; none if it is removed. -/
def shiftIndex : LineEdit → Nat → Option Nat
  | insertRow index, n => some (if index < n then n + 1 else n)
  | deleteRow index, n => if n = index then none else some (if index < n then n - 1 else n)
  | insertCol index, n => some (if index < n then n + 1 else n)
  | deleteCol index, n => if n = index then none else some (if index < n then n - 1 else n)

section

variable (hr : r.onRows = true)

include hr

theorem rows_pos (happ : r.isApplicable s = true) : 1 ≤ s.rows := by
  cases r <;> simp only [onRows, isApplicable, Bool.and_eq_true, decide_eq_true_eq,
    Bool.false_eq_true] at hr happ <;> omega

/-- An edit of rows moves a cell in its column. -/
theorem target_onRows (c : Coord) :
    r.target c = (r.shiftIndex c.row).map fun row => ⟨row, c.col⟩ := by
  cases r with
  | insertRow index =>
    rw [target, shiftIndex, Option.map_some]
    split <;> rfl
  | deleteRow index =>
    rw [target, shiftIndex]
    split
    · rfl
    · rw [Option.map_some]
      split <;> rfl
  | insertCol index => simp [onRows] at hr
  | deleteCol index => simp [onRows] at hr

theorem keeps_onRows (c : Coord) :
    r.keeps c = if c.col < Coord.letters then (r.shiftIndex c.row).map fun row => ⟨row, c.col⟩
      else none := by
  rw [keeps, target_onRows hr]
  cases r.shiftIndex c.row with
  | none => simp
  | some row => simp [Option.filter_some]

end

section

variable (hk : k.onRows = false)

include hk

theorem cols_pos (happ : k.isApplicable s = true) : 1 ≤ s.cols := by
  cases k <;> simp only [onRows, isApplicable, Bool.and_eq_true, decide_eq_true_eq,
    Bool.true_eq_false] at hk happ <;> omega

/-- An edit of columns moves a cell in its row. -/
theorem target_onCols (c : Coord) :
    k.target c = (k.shiftIndex c.col).map fun col => ⟨c.row, col⟩ := by
  cases k with
  | insertRow index => simp [onRows] at hk
  | deleteRow index => simp [onRows] at hk
  | insertCol index =>
    rw [target, shiftIndex, Option.map_some]
    split <;> rfl
  | deleteCol index =>
    rw [target, shiftIndex]
    split
    · rfl
    · rw [Option.map_some]
      split <;> rfl

theorem keeps_onCols (c : Coord) :
    k.keeps c = ((k.shiftIndex c.col).filter fun col => col < Coord.letters).map
      fun col => ⟨c.row, col⟩ := by
  rw [keeps, target_onCols hk]
  cases k.shiftIndex c.col with
  | none => rfl
  | some col =>
    rw [Option.map_some, Option.filter_some, Option.filter_some]
    split <;> rfl

end

section

variable (hr : r.onRows = true) (hk : k.onRows = false)

include hr hk

/-- A cell goes to the place of its row and its column in either order. -/
theorem target_comm (c : Coord) :
    (r.target c).bind k.target = (k.target c).bind r.target := by
  rw [target_onRows hr, target_onCols hk]
  cases hrow : r.shiftIndex c.row <;> cases hcol : k.shiftIndex c.col <;>
    simp [target_onRows hr, target_onCols hk, hrow, hcol]

theorem keeps_comm {c : Coord} (h : c.col < Coord.letters ∨ k.keeps c = none) :
    (r.keeps c).bind k.keeps = (k.keeps c).bind r.keeps := by
  rw [keeps_onCols hk] at h ⊢
  rw [keeps_onRows hr]
  cases hcol : (k.shiftIndex c.col).filter fun col => col < Coord.letters with
  | none =>
    cases r.shiftIndex c.row <;> split <;> simp [keeps_onCols hk, hcol]
  | some col =>
    have hlettered : col < Coord.letters := by
      simpa using (Option.filter_eq_some_iff.mp hcol).2
    have hc : c.col < Coord.letters := h.resolve_right (by simp [hcol])
    rw [if_pos hc]
    cases hrow : r.shiftIndex c.row <;>
      simp [keeps_onCols hk, keeps_onRows hr, hcol, hrow, hlettered]

theorem shiftedTwice_comm : Formula.shiftedTwice r k = Formula.shiftedTwice k r := by
  funext c
  simp only [Formula.shiftedTwice, target_comm hr hk, and_comm]

/-- Formulas follow both edits in either order. -/
theorem follow_comm (happ : r.isApplicable s = true) (happ' : k.isApplicable s = true)
    {content : String} (h : ∀ x ∈ Formula.references content.toList, s.contains x = true) :
    k.follow (r.follow content) = r.follow (k.follow content) := by
  rw [← String.toList_inj, toList_follow_follow happ h, toList_follow_follow happ' h,
    shiftedTwice_comm hr hk]

/-- The orders lead to one sheet if the edit of columns brings nothing from right of column `Z`. -/
theorem apply_comm (hs : s.SelfContained) (happ : r.isApplicable s = true)
    (happ' : k.isApplicable s = true) (hnone : k.BringsNone s) :
    k.apply (r.apply s) = r.apply (k.apply s) := by
  have hseparates := (separates_keeps r).bind (separates_keeps k)
  have hseparates' := (separates_keeps k).bind (separates_keeps r)
  have hrows := rows_pos hr happ
  have hcols := cols_pos hk happ'
  refine Sheet.eq_of_fields ?_ ?_ ?_ ?_
  · cases r <;> cases k <;> simp only [onRows, Bool.false_eq_true, Bool.true_eq_false] at hr hk <;>
      simp only [rows_apply, resize, Sheet.resize] <;> omega
  · cases r <;> cases k <;> simp only [onRows, Bool.false_eq_true, Bool.true_eq_false] at hr hk <;>
      simp only [cols_apply, resize, Sheet.resize] <;> omega
  · rw [contents_apply_apply, contents_apply_apply,
      CellMap.relocate_congr hseparates hseparates' fun c a ha =>
        keeps_comm hr hk (hnone.contents c a ha)]
    refine CellMap.map_congr fun d content hcontent => ?_
    obtain ⟨c, -, hc⟩ := hs.references.relocate _ d content hcontent
    exact follow_comm hr hk happ happ' hc
  · rw [styles_apply_apply, styles_apply_apply]
    exact CellMap.relocate_congr hseparates hseparates' fun c a ha =>
      keeps_comm hr hk (hnone.styles c a ha)

/-- Neither edit lets the other one apply or keeps it from applying. -/
theorem isApplicable_apply :
    (1 ≤ s.rows → r.isApplicable (k.apply s) = r.isApplicable s) ∧
      (1 ≤ s.cols → k.isApplicable (r.apply s) = k.isApplicable s) := by
  constructor <;> intro hpos <;> cases r <;> cases k <;>
    simp only [onRows, Bool.false_eq_true, Bool.true_eq_false] at hr hk <;>
    simp only [isApplicable, rows_apply, cols_apply, resize, Sheet.resize, Nat.max_eq_left hpos]

end

end LineEdit

namespace Edit

open LineEdit

/-- Formulas and a style around `B2`, and a formula that nobody can read. -/
def crossroads : Sheet :=
  ((((Sheet.ofSize 3 3).setContent ⟨0, 0⟩ "=SUM(A1:B02)&'B2'").setContent ⟨1, 1⟩
    "=A1*C3+)").setContent ⟨2, 2⟩ "=-B2+C1").setStyle ⟨2, 0⟩ { Style.plain with italic := true }

/--
An edit of rows and an edit of columns of a grid with a row and a column at least apply
after each other as they do before. Where both apply they lead to the same sheet in
either order, unless the edit of columns brings into a lettered column what is stored
right of column `Z`; there is nothing right of it in a grid of lettered columns.
-/
theorem run?_comm {s : Sheet} (hs : s.SelfContained) {r k : LineEdit} (hr : r.onRows = true)
    (hk : k.onRows = false) :
    (1 ≤ s.rows → r.isApplicable (k.apply s) = r.isApplicable s) ∧
    (1 ≤ s.cols → k.isApplicable (r.apply s) = k.isApplicable s) ∧
    (r.isApplicable s = true → k.isApplicable s = true → k.BringsNone s →
      ∃ t, ((line r).run? s).bind (line k).run? = some t ∧
        ((line k).run? s).bind (line r).run? = some t) ∧
    (s.cols ≤ Coord.letters → k.BringsNone s) := by
  obtain ⟨hrows, hcols⟩ := isApplicable_apply (s := s) hr hk
  refine ⟨hrows, hcols, fun happ happ' hnone => ?_, bringsNone_of_cols_le hs⟩
  have hr_after := (hrows (rows_pos hr happ)).trans happ
  have hk_after := (hcols (cols_pos hk happ')).trans happ'
  refine ⟨k.apply (r.apply s), ?_, ?_⟩
  · simp [run?, isApplicable, apply, happ, hk_after]
  · simp [run?, isApplicable, apply, happ', hr_after, apply_comm hr hk hs happ happ' hnone]

theorem run?_comm_crossroads : crossroads.SelfContained ∧
    (deleteRow 1).isApplicable crossroads = true ∧ (deleteCol 1).isApplicable crossroads = true ∧
    (deleteCol 1).BringsNone crossroads ∧
    ∃ t, ((line (deleteRow 1)).run? crossroads).bind (line (deleteCol 1)).run? = some t ∧
      ((line (deleteCol 1)).run? crossroads).bind (line (deleteRow 1)).run? = some t :=
  have hs : crossroads.SelfContained := by decide +kernel
  have happ : (deleteRow 1).isApplicable crossroads = true := by decide +kernel
  have happ' : (deleteCol 1).isApplicable crossroads = true := by decide +kernel
  have h := run?_comm hs (r := deleteRow 1) (k := deleteCol 1) rfl rfl
  have hnone := h.2.2.2 (by decide +kernel)
  ⟨hs, happ, happ', hnone, h.2.2.1 happ happ' hnone⟩

/--
Deleting the first column brings a text from right of column `Z` to `Z`, where an
insertion of a row finds it, which drops it if it comes first. In a grid without rows
the deletion makes a row, and only then one can be inserted.
-/
theorem run?_comm_wide : (wide.SelfContained ∧
      ∃ t u, ((line (insertRow 0)).run? wide).bind (line (deleteCol 0)).run? = some t ∧
        ((line (deleteCol 0)).run? wide).bind (line (insertRow 0)).run? = some u ∧ t ≠ u) ∧
    ∃ s t : Sheet, s.SelfContained ∧ (line (deleteCol 0)).run? s = some t ∧
      (insertRow 0).isApplicable s = false ∧ (insertRow 0).isApplicable t = true := by
  refine ⟨⟨by decide +kernel, _, _, rfl, rfl, by decide +kernel⟩,
    ⟨0, 2, .empty, .empty⟩, _, by decide +kernel, rfl, by decide, by decide⟩

end Edit

end Gridbook
