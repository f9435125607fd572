import Gridbook.Proofs.Addressing
import Gridbook.Proofs.Results

/-!
# What an export shows

An export is the rectangle from the first cell to the last used row and the last used
column. It has what the cells of the grid show under their names and their styles with the
defaults filled in, and outside of it they show nothing. Contents and styles are stored for
used cells only, so the rectangle does not reach further than it has to.
-/
namespace Gridbook

namespace Sheet

/-- The cell has a content or a style. -/
def IsUsed (s : Sheet) (c : Coord) : Prop := s.content c ≠ "" ∨ s.style c ≠ .plain

instance (s : Sheet) (c : Coord) : Decidable (s.IsUsed c) := inferInstanceAs (Decidable (_ ∨ _))

/-- Where nothing but proper contents and styles is stored, the cells that are stored for are used. -/
theorem mem_stored_iff {s : Sheet} (hs : s.Proper) {c : Coord} :
    c ∈ s.contents.cells ++ s.styles.cells ↔ s.IsUsed c := by
  have hcontent : (s.contents.get? c).isSome ↔ s.content c ≠ "" := by
    rw [content]
    cases hget : s.contents.get? c with
    | none => simp
    | some text => simpa using hs.contents c text hget
  have hstyle : (s.styles.get? c).isSome ↔ s.style c ≠ .plain := by
    rw [style, style?]
    cases hget : s.styles.get? c with
    | none => simp
    | some style => simpa using hs.styles c style hget
  rw [List.mem_append, CellMap.mem_cells_iff, CellMap.mem_cells_iff, hcontent, hstyle, IsUsed]

end Sheet

theorem Workbook.proper_after {w : Workbook} (hw : w.timeline.All Sheet.Proper)
    (operations : List Operation) : (w.after operations).timeline.All Sheet.Proper :=
  after_keeps (P := fun v => v.timeline.All Sheet.Proper) hw fun _ hv _ _ =>
    all_perform hv fun _ _ _ _ happ => Edit.proper_apply hv.present happ

namespace Area

/-- The area begins with the first cell and ends in the last row and the last column of some cells. -/
structure Frames (area : Area) (cells : List Coord) : Prop where
  first : area.first = ⟨0, 0⟩
  covers : ∀ c ∈ cells, c.row ≤ area.last.row ∧ c.col ≤ area.last.col
  row : ∃ c ∈ cells, c.row = area.last.row
  col : ∃ c ∈ cells, c.col = area.last.col

theorem frames_spanning (c : Coord) : (spanning ⟨0, 0⟩ c).Frames [c] where
  first := by simp [spanning]
  covers := by simp [spanning]
  row := ⟨c, by simp, by simp [spanning]⟩
  col := ⟨c, by simp, by simp [spanning]⟩

theorem Frames.including {area : Area} {cells : List Coord} (h : area.Frames cells) (c : Coord) :
    (area.including c).Frames (cells ++ [c]) where
  first := by simp [Area.including, h.first]
  covers d hd := by
    simp only [Area.including]
    rcases List.mem_append.mp hd with hd | hd
    · have := h.covers d hd
      omega
    · obtain rfl := List.mem_singleton.mp hd
      omega
  row := by
    obtain ⟨d, hd, hrow⟩ := h.row
    rcases Nat.le_total c.row area.last.row with hle | hle
    · exact ⟨d, by simp [hd], by rw [hrow]; exact (Nat.max_eq_left hle).symm⟩
    · exact ⟨c, by simp, (Nat.max_eq_right hle).symm⟩
  col := by
    obtain ⟨d, hd, hcol⟩ := h.col
    rcases Nat.le_total c.col area.last.col with hle | hle
    · exact ⟨d, by simp [hd], by rw [hcol]; exact (Nat.max_eq_left hle).symm⟩
    · exact ⟨c, by simp, (Nat.max_eq_right hle).symm⟩

theorem Frames.foldl_including {area : Area} {seen : List Coord} (h : area.Frames seen)
    (cells : List Coord) : (cells.foldl Area.including area).Frames (seen ++ cells) := by
  induction cells generalizing area seen with
  | nil => rwa [List.append_nil]
  | cons c cells ih => simpa using ih (h.including c)

end Area

namespace Sheet

variable {s : Sheet}

theorem frames_of_usedArea? {area : Area} (h : s.usedArea? = some area) :
    area.Frames (s.contents.cells ++ s.styles.cells) := by
  rw [usedArea?] at h
  split at h
  · cases h
  · rename_i c cells hcells
    rw [hcells, ← Option.some.inj h]
    exact (Area.frames_spanning c).foldl_including cells

theorem usedArea?_eq_none_iff (hs : s.Proper) : s.usedArea? = none ↔ ∀ c, ¬s.IsUsed c := by
  have hnil : s.usedArea? = none ↔ s.contents.cells ++ s.styles.cells = [] := by
    rw [usedArea?]
    split <;> simp_all
  rw [hnil, List.eq_nil_iff_forall_not_mem]
  simp only [mem_stored_iff hs]

end Sheet

/-- The full style has what the style sets, and the default of each field that it leaves open. -/
structure FullStyle.Completes (full : FullStyle) (style : Style) : Prop where
  bold : full.bold = style.bold
  italic : full.italic = style.italic
  strikethrough : full.strikethrough = style.strikethrough
  fontSize : style.fontSize = some full.fontSize ∨ style.fontSize = none ∧ full.fontSize = 14
  fontFamily : style.fontFamily = some full.fontFamily ∨
    style.fontFamily = none ∧ full.fontFamily = "Arial"
  color : style.color = some full.color ∨ style.color = none ∧ full.color = ⟨0, 0, 0, 255⟩
  alignment : full.alignment = style.alignment

/-- There is one full style that completes a style. -/
theorem FullStyle.completes_iff {full : FullStyle} {style : Style} :
    full.Completes style ↔ full = style.resolve := by
  have hfield {α : Type} (given : Option α) (shown usual : α) :
      given = some shown ∨ given = none ∧ shown = usual ↔ shown = given.getD usual := by
    cases given <;> simp [eq_comm]
  obtain ⟨bold, italic, strikethrough, fontSize, fontFamily, color, alignment⟩ := full
  simp only [Style.resolve, FullStyle.mk.injEq, ← hfield, Color.black]
  exact ⟨fun h => ⟨h.bold, h.italic, h.strikethrough, h.fontSize, h.fontFamily, h.color,
    h.alignment⟩, fun ⟨hbold, hitalic, hstrikethrough, hsize, hfamily, hcolor, halignment⟩ =>
    ⟨hbold, hitalic, hstrikethrough, hsize, hfamily, hcolor, halignment⟩⟩

namespace Export

/-- What is exported for a cell; none outside of the exported rectangle. -/
def at? (e : Export) (c : Coord) : Option ExportedCell := e.rows[c.row]?.bind (·[c.col]?)

variable {s : Sheet} {limit : Nat}

theorem rows_ofSheet {area : Area} (h : s.usedArea? = some area) : (ofSheet s limit).rows =
    (List.range area.height).map fun row =>
      (List.range area.width).map fun col => cell s limit ⟨row, col⟩ := by
  rw [ofSheet, h]

theorem rows_ofSheet_eq_nil_iff : (ofSheet s limit).rows = [] ↔ s.usedArea? = none := by
  cases h : s.usedArea? with
  | none => simp [ofSheet, h]
  | some area => simp [rows_ofSheet h, Area.height]

/-- The exported cells are those of the area that the used cells span with the first cell. -/
theorem at?_ofSheet {area : Area} (h : s.usedArea? = some area) (c : Coord) :
    (ofSheet s limit).at? c =
      if c.row ≤ area.last.row ∧ c.col ≤ area.last.col then some (cell s limit c) else none := by
  have hfirst := (Sheet.frames_of_usedArea? h).first
  have hheight : area.height = area.last.row + 1 := by simp [Area.height, hfirst]
  have hwidth : area.width = area.last.col + 1 := by simp [Area.width, hfirst]
  rw [at?, rows_ofSheet h, hheight, hwidth, List.getElem?_map]
  by_cases hrow : c.row ≤ area.last.row
  · rw [List.getElem?_range (Nat.lt_succ_of_le hrow), Option.map_some, Option.bind_some,
      List.getElem?_map]
    by_cases hcol : c.col ≤ area.last.col
    · rw [List.getElem?_range (Nat.lt_succ_of_le hcol), if_pos ⟨hrow, hcol⟩]
      rfl
    · rw [List.getElem?_eq_none (by simp; omega), if_neg fun h => hcol h.2]
      rfl
  · rw [List.getElem?_eq_none (by simp; omega), if_neg fun h => hrow h.1]
    rfl

theorem at?_eq_some_iff {c : Coord} {x : ExportedCell} :
    (ofSheet s limit).at? c = some x ↔ ∃ area, s.usedArea? = some area ∧
      (c.row ≤ area.last.row ∧ c.col ≤ area.last.col) ∧ cell s limit c = x := by
  cases h : s.usedArea? with
  | none => simp [at?, rows_ofSheet_eq_nil_iff.mpr h]
  | some area => simp [at?_ofSheet h]

/-- No used cell is left out. -/
theorem not_isUsed_of_at? (hs : s.Proper) {c : Coord} (h : (ofSheet s limit).at? c = none) :
    ¬s.IsUsed c := by
  intro hused
  cases harea : s.usedArea? with
  | none => exact (Sheet.usedArea?_eq_none_iff hs).mp harea c hused
  | some area =>
    have hcovered := (Sheet.frames_of_usedArea? harea).covers c ((Sheet.mem_stored_iff hs).mpr hused)
    rw [at?_ofSheet harea, if_pos hcovered] at h
    cases h

/-- The rows are of one length, and no fewer rows or shorter ones would hold all used cells. -/
structure EndsAt (e : Export) (s : Sheet) (last : Coord) : Prop where
  height : e.rows.length = last.row + 1
  width : ∀ row ∈ e.rows, row.length = last.col + 1
  row : ∃ c, c.row = last.row ∧ c.col ≤ last.col ∧ s.IsUsed c
  col : ∃ c, c.col = last.col ∧ c.row ≤ last.row ∧ s.IsUsed c

theorem endsAt_ofSheet (hs : s.Proper) {area : Area} (h : s.usedArea? = some area) :
    (ofSheet s limit).EndsAt s area.last := by
  have hframes := Sheet.frames_of_usedArea? h
  have hrows : (ofSheet s limit).rows = _ := rows_ofSheet h
  refine ⟨?_, fun row hrow => ?_, ?_, ?_⟩
  · simp [hrows, Area.height, hframes.first]
  · rw [hrows] at hrow
    obtain ⟨i, -, rfl⟩ := List.mem_map.mp hrow
    simp [Area.width, hframes.first]
  · obtain ⟨c, hc, hrow⟩ := hframes.row
    exact ⟨c, hrow, (hframes.covers c hc).2, (Sheet.mem_stored_iff hs).mp hc⟩
  · obtain ⟨c, hc, hcol⟩ := hframes.col
    exact ⟨c, hcol, (hframes.covers c hc).1, (Sheet.mem_stored_iff hs).mp hc⟩

/-- No cell is exported that is not in the grid, if all that is stored is in it. -/
theorem contains_of_at? (hs : s.StoresWithin) {c : Coord} {x : ExportedCell}
    (h : (ofSheet s limit).at? c = some x) : s.contains c = true := by
  obtain ⟨area, harea, ⟨hrow, hcol⟩, -⟩ := at?_eq_some_iff.mp h
  have hstored := Sheet.of_mem_stored hs.contents hs.styles
  have hframes := Sheet.frames_of_usedArea? harea
  obtain ⟨a, ha, harow⟩ := hframes.row
  obtain ⟨b, hb, hbcol⟩ := hframes.col
  have ha := Sheet.contains_iff.mp (hstored a ha)
  have hb := Sheet.contains_iff.mp (hstored b hb)
  rw [Sheet.contains_iff]
  omega

end Export

namespace Formula

theorem displayed_literal {sheet : Sheet} {c : Coord}
    (h : ∀ text, (sheet.content c).toList ≠ '=' :: text) (limit : Nat) :
    displayed sheet limit c = sheet.content c := by
  rw [displayed, evaluate_eq, result_evaluateIn_literal h]
  rfl

theorem displayed_empty {sheet : Sheet} {c : Coord} (h : sheet.content c = "") (limit : Nat) :
    displayed sheet limit c = "" := by
  rw [displayed_literal _, h]
  intro text htext
  rw [h] at htext
  cases htext

end Formula

namespace Workbook

/-- In a grid that can be addressed, the name of every cell leads to the cell. -/
theorem exists_locate_eq {w : Workbook} (hw : w.sheet.Bounded) {c : Coord}
    (hc : w.sheet.contains c = true) : ∃ name, c.name? = some name ∧ w.locate name = .ok c := by
  obtain ⟨hrow, hcol⟩ := Sheet.contains_iff.mp hc
  have hnamed : c.IsNamed :=
    ⟨Nat.lt_of_lt_of_le hcol hw.cols_le, Nat.lt_of_lt_of_le hrow hw.rows_le⟩
  obtain ⟨letters, hletters, hread⟩ := Coord.exists_nameChars? hnamed
  obtain ⟨-, hword⟩ := Coord.isWord_of_ofChars? hread
  have hcoord : coord? (String.ofList letters) = some c := by
    rw [coord?, String.toList_ofList, Text.trim_of_isWord hword, hread]
  refine ⟨String.ofList letters, ?_, ?_⟩
  · rw [Coord.name?, hletters]
    rfl
  · rw [locate, hcoord]
    exact if_pos hc

/--
In every session an export has what is used and no more. It is empty when no cell is used;
else it is a rectangle from the first cell with a used cell in its last row and one in its
last column. For every cell of the grid it has what the cell's name shows, and the cell's style
with the default of each field that this leaves open; the cells of the grid that it leaves out
show the empty text and are plain. Unless more rows were imported than are counted, it has no
cell outside of the grid.
-/
theorem exported_covers {raw s : Settings} (hs : raw.check = .ok s)
    (hrows : raw.rows ≤ Settings.largestCount) (operations : List Operation) :
    let w := (ofSettings s).after operations
    let e := w.exported
    (e.rows = [] ↔ ∀ c, ¬w.sheet.IsUsed c) ∧
    (e.rows ≠ [] → ∃ last, e.EndsAt w.sheet last) ∧
    (∀ c, w.sheet.contains c = true → ∃ name, c.name? = some name ∧
      (∀ x, e.at? c = some x →
        w.display name = x.text ∧ ∃ style, w.style name = .ok style ∧ x.style.Completes style) ∧
      (e.at? c = none → w.display name = "" ∧ w.style name = .ok .plain)) ∧
    ((∀ o ∈ operations, o.Fits) → ∀ c x, e.at? c = some x → w.sheet.contains c = true) := by
  intro w e
  have hcounted : s.rows ≤ Coord.lastRow := rows_eq_of_check hs ▸ hrows
  have hstart : (ofSettings s).timeline.All Sheet.Bounded :=
    Timeline.all_start _ (Sheet.bounded_ofSize hcounted (cols_le_of_check hs))
  have hbounded : w.sheet.Bounded := (bounded_after hcounted hstart operations).2.present
  have hproper : w.sheet.Proper :=
    (proper_after (Timeline.all_start _ (Sheet.proper_ofSize _ _)) operations).present
  refine ⟨Export.rows_ofSheet_eq_nil_iff.trans (Sheet.usedArea?_eq_none_iff hproper), ?_, ?_, ?_⟩
  · intro hne
    cases harea : w.sheet.usedArea? with
    | none => exact absurd (Export.rows_ofSheet_eq_nil_iff.mpr harea) hne
    | some area => exact ⟨area.last, Export.endsAt_ofSheet hproper harea⟩
  · intro c hc
    obtain ⟨name, hname, hlocate⟩ := exists_locate_eq hbounded hc
    have hdisplay : w.display name = Formula.displayed w.sheet w.settings.maxDepth c := by
      rw [display, hlocate]
    have hstyle : w.style name = .ok (w.sheet.style c) := by
      rw [style, hlocate]
      rfl
    refine ⟨name, hname, fun x hx => ?_, fun hnone => ?_⟩
    · obtain ⟨-, -, -, rfl⟩ := Export.at?_eq_some_iff.mp hx
      exact ⟨hdisplay, _, hstyle, FullStyle.completes_iff.mpr rfl⟩
    · have hunused := Export.not_isUsed_of_at? hproper hnone
      simp only [Sheet.IsUsed, not_or, not_not] at hunused
      rw [hdisplay, hstyle, Formula.displayed_empty hunused.1, hunused.2]
      exact ⟨rfl, rfl⟩
  · intro hfits c x hx
    exact Export.contains_of_at? (tidy_after hs hfits).present.storesWithin hx

/-- A formula that gets moved, and a style that makes the exported rectangle higher. -/
def receipt : List Operation :=
  [.request (.setContent "B1" "=UPPER(\"x\")"), .request (.editLine (.insertCol 0)),
    .request (.setStyle "A3"
      { Style.plain with bold := true, fontSize := some 20, color := some ⟨255, 0, 0, 128⟩ }),
    .request (.setContent "C4" "y"), .undo]

theorem exported_covers_receipt :
    let w := (ofSettings ⟨4, 2, 9, 9⟩).after receipt
    let full : FullStyle := ⟨true, false, false, 20, "Arial", ⟨255, 0, 0, 128⟩, .left⟩
    w.exported.rows.length = 3 ∧
      w.exported.at? ⟨0, 2⟩ =
        some ⟨"X", ⟨false, false, false, 14, "Arial", ⟨0, 0, 0, 255⟩, .left⟩⟩ ∧
      w.display "C1" = "X" ∧ w.exported.at? ⟨2, 0⟩ = some ⟨"", full⟩ ∧ w.display "A3" = "" ∧
      (∃ style, w.style "A3" = .ok style ∧ full.Completes style ∧ style.fontFamily = none) ∧
      w.exported.at? ⟨3, 2⟩ = none ∧ w.display "C4" = "" := by
  intro w full
  have hs : (⟨4, 2, 9, 9⟩ : Settings).check = .ok ⟨4, 2, 9, 9⟩ := rfl
  obtain ⟨-, -, hcells, -⟩ := exported_covers hs (by decide) receipt
  have hlength : w.exported.rows.length = 3 := by decide +kernel
  have hfirst : w.exported.at? ⟨0, 2⟩ =
      some ⟨"X", ⟨false, false, false, 14, "Arial", ⟨0, 0, 0, 255⟩, .left⟩⟩ := by decide +kernel
  have hstyled : w.exported.at? ⟨2, 0⟩ = some ⟨"", full⟩ := by decide +kernel
  have hlast : w.exported.at? ⟨3, 2⟩ = none := by decide +kernel
  obtain ⟨name, hname, hshown, -⟩ := hcells ⟨0, 2⟩ (by decide +kernel)
  obtain rfl : "C1" = name := Option.some.inj (hname ▸ by decide +kernel)
  obtain ⟨name, hname, hshown', -⟩ := hcells ⟨2, 0⟩ (by decide +kernel)
  obtain rfl : "A3" = name := Option.some.inj (hname ▸ by decide +kernel)
  obtain ⟨name, hname, -, hempty⟩ := hcells ⟨3, 2⟩ (by decide +kernel)
  obtain rfl : "C4" = name := Option.some.inj (hname ▸ by decide +kernel)
  obtain ⟨hdisplay, style, hstyle, hfull⟩ := hshown' _ hstyled
  have hopen : style.fontFamily = none := by
    have hgiven : (w.style "A3").toOption.bind Style.fontFamily = none := by decide +kernel
    rwa [hstyle] at hgiven
  exact ⟨hlength, hfirst, (hshown _ hfirst).1, hstyled, hdisplay, ⟨style, hstyle, hfull, hopen⟩,
    hlast, (hempty hlast).1⟩

end Workbook

end Gridbook
