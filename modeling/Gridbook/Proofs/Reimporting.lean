import Gridbook.Proofs.Exporting

/-!
# Exported texts that are imported again

What a sheet shows can be imported into a new workbook. Every text gets back to its
cell, since exported rows and columns are never more than an import keeps apart. A text
that begins with an equals sign is a formula there. Any other text is shown as it is.
-/
namespace Gridbook

namespace Export

/-- The text at a place of the exported rectangle. -/
def text? (e : Export) (c : Coord) : Option String := e.texts[c.row]?.bind (·[c.col]?)

/-- The texts that some rows and columns of a sheet show. -/
def table (s : Sheet) (limit height width : Nat) : List (List String) :=
  (List.range height).map fun row =>
    (List.range width).map fun col => Formula.displayed s limit ⟨row, col⟩

/-- The area begins with the first cell and ends in a counted row and a lettered column. -/
def Addressed (area : Area) : Prop :=
  area.first = ⟨0, 0⟩ ∧ area.last.row ≤ Coord.lastRow ∧ area.last.col < Coord.letters

theorem bounds_of_used {s : Sheet} (hs : s.Bounded) :
    ∀ c ∈ s.contents.cells ++ s.styles.cells, c.row ≤ Coord.lastRow ∧ c.col < Coord.letters :=
  fun c hc => (Sheet.of_mem_stored hs.contents hs.styles c hc).imp_left
    fun hrow => Nat.le_trans hrow hs.rows_le

theorem addressed_of_usedArea? {s : Sheet} (hs : s.Bounded) {area : Area}
    (h : s.usedArea? = some area) : Addressed area := by
  have hframes := Sheet.frames_of_usedArea? h
  obtain ⟨c, hc, hrow⟩ := hframes.row
  obtain ⟨d, hd, hcol⟩ := hframes.col
  exact ⟨hframes.first, hrow ▸ (bounds_of_used hs c hc).1, hcol ▸ (bounds_of_used hs d hd).2⟩

theorem exists_texts_eq_table {s : Sheet} (hs : s.Bounded) (limit : Nat) :
    ∃ height ≤ Coord.lastRow + 1, ∃ width ≤ Coord.letters,
      (ofSheet s limit).texts = table s limit height width := by
  rw [ofSheet]
  cases harea : s.usedArea? with
  | none => exact ⟨0, Nat.zero_le _, 0, Nat.zero_le _, rfl⟩
  | some area =>
    obtain ⟨hfirst, hrow, hcol⟩ := addressed_of_usedArea? hs harea
    refine ⟨area.height, ?_, area.width, ?_, ?_⟩
    · rw [Area.height, hfirst]
      omega
    · rw [Area.width, hfirst]
      omega
    · simp [texts, table, cell, Function.comp_def]

/-- An exported text is what its cell shows. -/
theorem eq_displayed_of_table {s : Sheet} {limit height width : Nat} {c : Coord} {text : String}
    (h : (table s limit height width)[c.row]?.bind (·[c.col]?) = some text) :
    Formula.displayed s limit c = text := by
  obtain ⟨row, hrow, hcol⟩ := Option.bind_eq_some_iff.mp h
  simp only [table, List.getElem?_map, Option.map_eq_some_iff] at hrow
  obtain ⟨i, hi, rfl⟩ := hrow
  simp only [List.getElem?_map, Option.map_eq_some_iff] at hcol
  obtain ⟨j, hj, rfl⟩ := hcol
  obtain ⟨-, rfl⟩ := List.getElem?_eq_some_iff.mp hi
  obtain ⟨-, rfl⟩ := List.getElem?_eq_some_iff.mp hj
  simp

end Export

namespace Import

/-- All places that keep their row are in the grid. -/
theorem contains_apply_ofTexts {texts : List (List String)}
    (hwidth : ∀ row ∈ texts, row.length ≤ Coord.letters) (rows cols : Nat) (s : Sheet)
    {c : Coord} {text : String} (htext : texts[c.row]?.bind (·[c.col]?) = some text)
    (hc : c.row < Coord.lastRow) : ((ofTexts texts).apply rows cols s).contains c = true := by
  obtain ⟨row, hrow, hcol⟩ := Option.bind_eq_some_iff.mp htext
  have hlength := hwidth row (List.mem_of_getElem? hrow)
  have hmem : row.map Json.text ∈ (ofTexts texts).rows :=
    List.mem_map_of_mem (List.mem_of_getElem? hrow)
  have hwide := length_le_width hmem
  obtain ⟨hheight, -⟩ := List.getElem?_eq_some_iff.mp hrow
  obtain ⟨hlt, -⟩ := List.getElem?_eq_some_iff.mp hcol
  rw [List.length_map] at hwide
  rw [contains_apply, Sheet.contains_iff]
  simp only [grid, ofTexts, Sheet.ofSize, gridRows, gridCols, counted, height,
    List.length_map] at hwide ⊢
  omega

theorem content_ofTexts {texts : List (List String)} (hheight : texts.length ≤ Coord.lastRow + 1)
    (hwidth : ∀ row ∈ texts, row.length ≤ Coord.letters) (rows cols : Nat) (s : Sheet) (c : Coord) :
    ((ofTexts texts).apply rows cols s).content c =
      (texts[c.row]?.bind (·[c.col]?)).getD "" := by
  have hrows : (ofTexts texts).height ≤ Coord.lastRow + 1 := by
    simpa [ofTexts, height] using hheight
  have hcontent : ((ofTexts texts).apply rows cols s).content c =
      ((CellMap.ofList (ofTexts texts).contents).get? c).getD "" := by
    rw [Sheet.content, contents_apply]
  have hliteral (text : String) : (literal? (.text text)).getD "" = text := by
    simp only [Json.text, literal?, Option.getD_some]
    split
    · rename_i hempty
      exact hempty.symm
    · rfl
  rw [hcontent, get?_contents hrows, valueAt?, ofTexts, List.getElem?_map]
  cases hrow : texts[c.row]? with
  | none => simp
  | some row =>
    have hlength := hwidth row (List.mem_of_getElem? hrow)
    simp only [Option.map_some, Option.bind_some, List.getElem?_map]
    cases htext : row[c.col]? with
    | none => simp
    | some text =>
      obtain ⟨hcol, -⟩ := List.getElem?_eq_some_iff.mp htext
      rw [if_pos (Nat.lt_of_lt_of_le hcol hlength)]
      exact hliteral text

end Import

namespace Workbook

/--
A new workbook with the settings of a session that imports the texts of its export has
each of them as the content of its cell, and nothing else. Every text that is no formula
is shown there as it was shown in the session.
-/
theorem displayed_reimported {raw s : Settings} (hs : raw.check = .ok s)
    (hrows : raw.rows ≤ Settings.largestCount) (operations : List Operation) :
    let w := (ofSettings s).after operations
    let copy := ((ofSettings s).replace (.ofTexts w.exported.texts)).1
    ∀ c, copy.sheet.content c = (w.exported.text? c).getD "" ∧
      ∀ text ∈ w.exported.text? c,
        Formula.displayed w.sheet w.settings.maxDepth c = text ∧
        (c.row < Coord.lastRow → copy.sheet.contains c = true) ∧
        (Formula.isFormula text.toList = false →
          Formula.displayed copy.sheet copy.settings.maxDepth c = text) := by
  intro w copy c
  have hcounted : s.rows ≤ Coord.lastRow := rows_eq_of_check hs ▸ hrows
  have hstart : (ofSettings s).timeline.All Sheet.Bounded :=
    Timeline.all_start _ (Sheet.bounded_ofSize hcounted (cols_le_of_check hs))
  obtain ⟨-, hbounded⟩ := bounded_after hcounted hstart operations
  obtain ⟨height, hheight, width, hwidth, htexts⟩ :=
    Export.exists_texts_eq_table hbounded.present w.settings.maxDepth
  have hcopy : copy.sheet =
      (Import.ofTexts w.exported.texts).apply s.rows s.cols (ofSettings s).sheet := by
    have happ : (Edit.replace (.ofTexts w.exported.texts) s.rows s.cols).isApplicable
        (ofSettings s).sheet = true := rfl
    exact congrArg (fun result => result.1.sheet) (run_eq happ)
  have hexported : w.exported.texts = Export.table w.sheet w.settings.maxDepth height width := htexts
  have hrowcount : w.exported.texts.length ≤ Coord.lastRow + 1 := by
    simpa [hexported, Export.table] using hheight
  have hcolcount : ∀ row ∈ w.exported.texts, row.length ≤ Coord.letters := by
    rw [hexported]
    intro row hrow
    obtain ⟨i, -, rfl⟩ := List.mem_map.mp hrow
    simpa using hwidth
  have hcontent : copy.sheet.content c = (w.exported.text? c).getD "" := by
    rw [hcopy, Import.content_ofTexts hrowcount hcolcount]
    rfl
  refine ⟨hcontent, fun text htext => ⟨?_, fun hrow => ?_, fun hliteral => ?_⟩⟩
  · have htable : (Export.table w.sheet w.settings.maxDepth height width)[c.row]?.bind (·[c.col]?) =
        some text := by
      rw [← hexported]
      exact htext
    exact Export.eq_displayed_of_table htable
  · rw [hcopy]
    exact Import.contains_apply_ofTexts hcolcount _ _ _ htext hrow
  · rw [htext, Option.getD_some] at hcontent
    rw [Formula.displayed_literal _, hcontent]
    intro formula hformula
    rw [← hcontent, hformula] at hliteral
    cases hliteral

/-- A formula, a reference to it and a style that makes the exported rectangle larger. -/
def invoice : List Operation :=
  [.request (.setContent "A1" "=UPPER(\"x\")"), .request (.setContent "B2" "=A1"),
    .request (.setStyle "C3" { Style.plain with bold := true })]

theorem displayed_reimported_invoice :
    let w := (ofSettings ⟨3, 3, 9, 9⟩).after invoice
    let copy := ((ofSettings ⟨3, 3, 9, 9⟩).replace (.ofTexts w.exported.texts)).1
    w.exported.text? ⟨0, 0⟩ = some "X" ∧ copy.sheet.contains ⟨0, 0⟩ = true ∧
      Formula.displayed copy.sheet copy.settings.maxDepth ⟨0, 0⟩ = "X" := by
  intro w copy
  have hs : (⟨3, 3, 9, 9⟩ : Settings).check = .ok ⟨3, 3, 9, 9⟩ := rfl
  have htext : w.exported.text? ⟨0, 0⟩ = some "X" := by decide +kernel
  obtain ⟨-, hdisplayed⟩ := displayed_reimported hs (by decide) invoice ⟨0, 0⟩
  obtain ⟨-, hcontains, hliteral⟩ := hdisplayed "X" htext
  exact ⟨htext, hcontains (by decide), hliteral (by decide)⟩

/-- A text function that shows a formula: what is exported is evaluated where it is imported. -/
theorem displayed_reimported_equals :
    let s : Settings := ⟨1, 1, 1, 1⟩
    let w := (ofSettings s).after [.request (.setContent "A1" "=LOWER(\"=1+1\")")]
    let copy := ((ofSettings s).replace (.ofTexts w.exported.texts)).1
    s.check = .ok s ∧ w.exported.texts = [["=1+1"]] ∧
      Formula.displayed copy.sheet copy.settings.maxDepth ⟨0, 0⟩ = "2" := by
  refine ⟨rfl, by decide +kernel, by decide +kernel⟩

end Workbook

end Gridbook
