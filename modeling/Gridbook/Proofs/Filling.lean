import Gridbook.Proofs.Composing
import Gridbook.Proofs.StyleOrder
import Gridbook.Proofs.Tidy

/-!
# What a fill writes

A fill goes through its cells one by one, but what it writes into a cell depends on the
sheet before the fill only. So the sheet behind it can be seen cell by cell, and nothing
is left to do for the same fill once more.
-/
namespace Gridbook

/-- What is stored for a content: nothing for the empty text. -/
def storedText (text : String) : Option String := if text = "" then none else some text

theorem Sheet.get?_contents_setContent (s : Sheet) (c d : Coord) (text : String) :
    (s.setContent c text).contents.get? d = if c = d then storedText text else s.contents.get? d :=
  CellMap.get?_set ..

/-- Digits and nothing else, at least one of them. -/
def IsNumeral (content : List Char) : Prop := content ≠ [] ∧ content.all Char.isDigit = true

instance (content : List Char) : Decidable (IsNumeral content) :=
  inferInstanceAs (Decidable (_ ∧ _))

namespace FillPolicy

theorem ofContent_eq (content : List Char) : ofContent content =
    if IsNumeral content then .sequence
    else if Formula.isFormula content then .formula else .copy := rfl

theorem ofContent_eq_sequence_iff {content : List Char} :
    ofContent content = .sequence ↔ IsNumeral content := by
  rw [ofContent_eq]
  split
  · simp [*]
  · split <;> simp [*]

/-- An equals sign is no digit. -/
theorem not_isNumeral_formula (text : List Char) : ¬IsNumeral ('=' :: text) := by
  rintro ⟨-, hdigits⟩
  exact absurd (List.all_eq_true.mp hdigits '=' List.mem_cons_self) (by decide)

end FillPolicy

namespace Fill

variable {f : Fill} {s : Sheet} {c : Coord}

/-- A sequence runs through the cells of the area in the column or in the row of its source. -/
theorem mem_line : c ∈ f.line ↔ f.area.contains c = true ∧
    if f.area.width = 1 then c.col = f.source.col else c.row = f.source.row := by
  have hsource : f.area.first.row ≤ f.source.row ∧ f.source.row ≤ f.area.last.row ∧
      f.area.first.col ≤ f.source.col ∧ f.source.col ≤ f.area.last.col := by
    simp only [area, Area.including]
    omega
  refine ⟨fun hc => ⟨contains_of_mem_line hc, ?_⟩, ?_⟩
  · rw [line] at hc
    split at hc
    · rename_i hwidth
      obtain ⟨row, -, rfl⟩ := List.mem_map.mp hc
      rw [if_pos hwidth]
    · rename_i hwidth
      obtain ⟨col, -, rfl⟩ := List.mem_map.mp hc
      rw [if_neg hwidth]
  · rintro ⟨harea, hline⟩
    rw [Area.contains_iff] at harea
    rw [line]
    split at hline
    · rename_i hwidth
      rw [if_pos hwidth, List.mem_map]
      exact ⟨c.row, List.mem_range'_1.mpr (by rw [Area.height]; omega), by rw [← hline]⟩
    · rename_i hwidth
      rw [if_neg hwidth, List.mem_map]
      exact ⟨c.col, List.mem_range'_1.mpr (by rw [Area.width]; omega), by rw [← hline]⟩

theorem nodup_line : f.line.Nodup := by
  rw [line]
  split
  · exact List.Nodup.map (fun a b h => congrArg Coord.row h) List.nodup_range'
  · exact List.Nodup.map (fun a b h => congrArg Coord.col h) List.nodup_range'

theorem nodup_affected (f : Fill) (s : Sheet) : (f.affected s).Nodup := by
  refine List.Nodup.filter _ ?_
  split
  · exact nodup_line
  · exact Area.nodup_cells _

theorem mem_affected : c ∈ f.affected s ↔ c ≠ f.source ∧ f.area.contains c = true ∧
    (IsNumeral (s.content f.source).toList →
      if f.area.width = 1 then c.col = f.source.col else c.row = f.source.row) := by
  rw [affected, targets, List.mem_filter, decide_eq_true_eq]
  split
  · rename_i hpolicy
    have hnumeral := FillPolicy.ofContent_eq_sequence_iff.mp hpolicy
    rw [mem_line]
    tauto
  · rename_i hpolicy
    have hnumeral : ¬IsNumeral (s.content f.source).toList := fun h =>
      hpolicy (FillPolicy.ofContent_eq_sequence_iff.mpr h)
    rw [Area.mem_cells]
    tauto

/-- The content that a cell gets. -/
def given (f : Fill) (s : Sheet) (c : Coord) : String :=
  String.ofList (f.contentAt s.rows s.cols (s.content f.source).toList c)

/-- What is stored as the style of a written cell, which keeps its own one if the source has none. -/
def givenStyle (f : Fill) (s : Sheet) (own : Option Style) : Option Style :=
  match s.style? f.source with
  | some style => style.stored
  | none => own

theorem givenStyle_givenStyle (f : Fill) (s : Sheet) (own : Option Style) :
    f.givenStyle s (f.givenStyle s own) = f.givenStyle s own := by
  unfold givenStyle
  cases s.style? f.source <;> rfl

theorem write_keeps_grid (f : Fill) (s t : Sheet) (c : Coord) :
    (f.write s t c).rows = t.rows ∧ (f.write s t c).cols = t.cols := by
  rw [write]
  split <;> exact ⟨rfl, rfl⟩

theorem get?_contents_write (f : Fill) (s t : Sheet) (c d : Coord) :
    (f.write s t c).contents.get? d =
      if c = d then storedText (f.given s c) else t.contents.get? d := by
  have hcontent := t.get?_contents_setContent c d (f.given s c)
  rw [write]
  split <;> exact hcontent

theorem style?_write (f : Fill) (s t : Sheet) (c d : Coord) :
    (f.write s t c).style? d = if c = d then f.givenStyle s (t.style? c) else t.style? d := by
  rw [write, givenStyle]
  cases s.style? f.source with
  | some style => exact Sheet.style?_setStyle ..
  | none =>
    by_cases hcd : c = d
    · rw [if_pos hcd, hcd]
      rfl
    · rw [if_neg hcd]
      rfl

theorem foldl_write_keeps_grid (f : Fill) (s t : Sheet) (cells : List Coord) :
    (cells.foldl (f.write s) t).rows = t.rows ∧ (cells.foldl (f.write s) t).cols = t.cols := by
  induction cells generalizing t with
  | nil => exact ⟨rfl, rfl⟩
  | cons c cells ih =>
    obtain ⟨hrows, hcols⟩ := ih (f.write s t c)
    obtain ⟨hrows', hcols'⟩ := write_keeps_grid f s t c
    exact ⟨hrows.trans hrows', hcols.trans hcols'⟩

theorem get?_contents_foldl_write (f : Fill) (s t : Sheet) (cells : List Coord) (d : Coord) :
    (cells.foldl (f.write s) t).contents.get? d =
      if d ∈ cells then storedText (f.given s d) else t.contents.get? d := by
  induction cells generalizing t with
  | nil => simp
  | cons c cells ih =>
    rw [List.foldl_cons, ih, get?_contents_write]
    by_cases hcd : c = d
    · simp [hcd]
    · simp [hcd, Ne.symm hcd]

/-- A cell that is written twice gets its style the first time. -/
theorem style?_foldl_write (f : Fill) (s t : Sheet) (cells : List Coord) (d : Coord) :
    (cells.foldl (f.write s) t).style? d =
      if d ∈ cells then f.givenStyle s (t.style? d) else t.style? d := by
  induction cells generalizing t with
  | nil => simp
  | cons c cells ih =>
    rw [List.foldl_cons, ih, style?_write]
    by_cases hcd : c = d
    · simp [hcd, givenStyle_givenStyle]
    · simp [hcd, Ne.symm hcd]

theorem apply_keeps_grid (f : Fill) (s : Sheet) :
    (f.apply s).rows = s.rows ∧ (f.apply s).cols = s.cols := foldl_write_keeps_grid ..

theorem get?_contents_apply (f : Fill) (s : Sheet) (c : Coord) :
    (f.apply s).contents.get? c =
      if c ∈ f.affected s then storedText (f.given s c) else s.contents.get? c :=
  get?_contents_foldl_write ..

theorem style?_apply_fill (f : Fill) (s : Sheet) (c : Coord) :
    (f.apply s).style? c = if c ∈ f.affected s then f.givenStyle s (s.style? c) else s.style? c :=
  style?_foldl_write ..

theorem content_apply_of_mem (hc : c ∈ f.affected s) : (f.apply s).content c = f.given s c := by
  rw [Sheet.content, get?_contents_apply, if_pos hc, storedText]
  split
  · rename_i hempty
    exact hempty.symm
  · rfl

theorem source_not_mem_affected (f : Fill) (s : Sheet) : f.source ∉ f.affected s :=
  fun h => (mem_affected.mp h).1 rfl

/-- A fill does not change what it goes by: its source and the size of the grid. -/
theorem apply_keeps_source (f : Fill) (s : Sheet) :
    (f.apply s).content f.source = s.content f.source ∧
      (f.apply s).style? f.source = s.style? f.source := by
  constructor
  · rw [Sheet.content, get?_contents_apply, if_neg (source_not_mem_affected f s), Sheet.content]
  · rw [style?_apply_fill, if_neg (source_not_mem_affected f s)]

theorem apply_apply (f : Fill) (s : Sheet) : f.apply (f.apply s) = f.apply s := by
  obtain ⟨hrows, hcols⟩ := apply_keeps_grid f s
  obtain ⟨hcontent, hstyle⟩ := apply_keeps_source f s
  have haffected : f.affected (f.apply s) = f.affected s := by rw [affected, hcontent, affected]
  have hgiven : ∀ c, f.given (f.apply s) c = f.given s c := by
    intro c
    rw [given, hrows, hcols, hcontent, given]
  have hgivenStyle : ∀ own, f.givenStyle (f.apply s) own = f.givenStyle s own := by
    intro own
    rw [givenStyle, hstyle, givenStyle]
  refine Sheet.eq_of_fields (apply_keeps_grid f _).1 (apply_keeps_grid f _).2
    (CellMap.ext_get? fun c => ?_) (CellMap.ext_get? fun c => ?_)
  · rw [get?_contents_apply f (f.apply s), haffected, hgiven, get?_contents_apply f s]
    split <;> rfl
  · change (f.apply (f.apply s)).style? c = (f.apply s).style? c
    rw [style?_apply_fill f (f.apply s), haffected, hgivenStyle, style?_apply_fill f s]
    split
    · exact givenStyle_givenStyle ..
    · rfl

/-- The steps from the source to a cell, down or up and to the right or left. -/
def steps (f : Fill) (c : Coord) : Nat :=
  ((c.row : Int) - f.source.row).natAbs + ((c.col : Int) - f.source.col).natAbs

/-- On the line of a sequence there is one direction to go. -/
theorem distance_eq_steps (hline : if f.area.width = 1 then c.col = f.source.col
    else c.row = f.source.row) : f.distance c = f.steps c := by
  rw [distance, steps]
  split at hline
  · rename_i hwidth
    rw [if_pos hwidth]
    omega
  · rename_i hwidth
    rw [if_neg hwidth]
    omega

theorem given_numeral (hnumeral : IsNumeral (s.content f.source).toList)
    (hc : c ∈ f.affected s) :
    f.given s c =
      if Decimal.valueOf (s.content f.source).toList + f.steps c ≤ largestNumber then
        toString (Decimal.valueOf (s.content f.source).toList + f.steps c)
      else s.content f.source := by
  have hdistance := distance_eq_steps ((mem_affected.mp hc).2.2 hnumeral)
  rw [given, contentAt, FillPolicy.ofContent_eq, if_pos hnumeral]
  simp only [counted, hdistance]
  split
  · rfl
  · exact String.ofList_toList

theorem given_formula (hformula : Formula.isFormula (s.content f.source).toList = true) :
    f.given s c = String.ofList (Formula.offsetReferences ((c.row : Int) - f.source.row)
      ((c.col : Int) - f.source.col) s.rows s.cols (s.content f.source).toList) := by
  obtain ⟨text, htext⟩ := Formula.isFormula_iff.mp hformula
  have hnumeral : ¬IsNumeral (s.content f.source).toList :=
    htext ▸ FillPolicy.not_isNumeral_formula text
  rw [given, contentAt, FillPolicy.ofContent_eq, if_neg hnumeral, if_pos hformula]

theorem given_copy (hnumeral : ¬IsNumeral (s.content f.source).toList)
    (hformula : ¬Formula.isFormula (s.content f.source).toList = true) :
    f.given s c = s.content f.source := by
  rw [given, contentAt, FillPolicy.ofContent_eq, if_neg hnumeral, if_neg hformula]
  exact String.ofList_toList

/--
A fill in the grid writes cells of its area, each of them once and never the source: those in
line with the source if that is a numeral, else all of them. A numeral is counted on by the
steps to the cell as long as there are numbers, the references of a formula move as far as
the cell is away, and anything else is copied, the empty text included. The style of the
source goes along if it has one. All other cells and the grid stay, and filling again
changes nothing.
-/
theorem apply_spreads {f : Fill} {s : Sheet} (happ : (Edit.fill f).isApplicable s = true) :
    let t := (Edit.fill f).apply s
    let written := (Edit.fill f).affected s
    let source := s.content f.source
    let number := Decimal.valueOf source.toList
    (written.Nodup ∧ ∀ c, c ∈ written ↔ c ≠ f.source ∧ f.area.contains c = true ∧
      (IsNumeral source.toList →
        if f.area.width = 1 then c.col = f.source.col else c.row = f.source.row)) ∧
    (∀ c ∈ written, s.contains c = true ∧ t.contents.get? c = storedText (t.content c) ∧
      (IsNumeral source.toList → t.content c =
        if number + f.steps c ≤ largestNumber then toString (number + f.steps c) else source) ∧
      (Formula.isFormula source.toList = true → t.content c =
        String.ofList (Formula.offsetReferences ((c.row : Int) - f.source.row)
          ((c.col : Int) - f.source.col) s.rows s.cols source.toList)) ∧
      (¬IsNumeral source.toList → ¬Formula.isFormula source.toList = true →
        t.content c = source) ∧
      (∀ style, s.style? f.source = some style → t.style? c = style.stored) ∧
      (s.style? f.source = none → t.style? c = s.style? c)) ∧
    (∀ c, c ∉ written → t.contents.get? c = s.contents.get? c ∧ t.style? c = s.style? c) ∧
    (t.rows = s.rows ∧ t.cols = s.cols) ∧
    (Edit.fill f).apply t = t := by
  intro t written source number
  refine ⟨⟨nodup_affected f s, fun c => mem_affected⟩, fun c hc => ?_, fun c hc => ?_,
    apply_keeps_grid f s, apply_apply f s⟩
  · have hcontent : t.content c = f.given s c := content_apply_of_mem hc
    have hget : t.contents.get? c = storedText (f.given s c) :=
      (get?_contents_apply f s c).trans (if_pos hc)
    have hstyle : t.style? c = f.givenStyle s (s.style? c) :=
      (style?_apply_fill f s c).trans (if_pos hc)
    rw [hcontent, hstyle]
    refine ⟨contains_of_mem_targets happ hc, hget, fun hnumeral => given_numeral hnumeral hc,
      given_formula, given_copy, fun style hsource => ?_, fun hsource => ?_⟩
    · rw [givenStyle, hsource]
    · rw [givenStyle, hsource]
  · exact ⟨(get?_contents_apply f s c).trans (if_neg hc),
      (style?_apply_fill f s c).trans (if_neg hc)⟩

/-- A number in the middle of a grid, with a style and with a neighbour that has another one. -/
def seedbed : Sheet :=
  (((Sheet.ofSize 3 3).setContent ⟨1, 1⟩ "09").setStyle ⟨1, 1⟩
    { Style.plain with bold := true }).setStyle ⟨1, 0⟩ { Style.plain with italic := true }

theorem apply_spreads_seedbed :
    let e := Edit.fill ⟨⟨1, 1⟩, .spanning ⟨0, 0⟩ ⟨2, 2⟩⟩
    e.isApplicable seedbed = true ∧ (e.apply seedbed).content ⟨1, 0⟩ = "10" ∧
      (e.apply seedbed).style? ⟨1, 0⟩ = some { Style.plain with bold := true } ∧
      (e.apply seedbed).content ⟨0, 0⟩ = "" ∧
      e.apply (e.apply seedbed) = e.apply seedbed := by
  intro e
  have happ : e.isApplicable seedbed = true := by decide +kernel
  obtain ⟨⟨-, hmem⟩, hwritten, hkept, -, hagain⟩ := apply_spreads happ
  obtain ⟨-, -, hnumber, -, -, hstyle, -⟩ := hwritten ⟨1, 0⟩ ((hmem _).mpr (by decide +kernel))
  obtain ⟨hget, -⟩ := hkept ⟨0, 0⟩ fun h => absurd ((hmem _).mp h) (by decide +kernel)
  have hcontent : (e.apply seedbed).content ⟨0, 0⟩ = "" := by
    rw [Sheet.content, hget]
    rfl
  refine ⟨happ, ?_, hstyle _ rfl, hcontent, hagain⟩
  rw [hnumber (by decide +kernel)]
  decide +kernel

end Fill

end Gridbook
