import Gridbook.Proofs.Exchange
import Gridbook.Proofs.Imports
import Gridbook.Proofs.Lines

/-!
# Tidy sheets

A tidy sheet has a grid of at least one cell and of no more columns than there are
letters, and stores nothing but proper contents and styles of cells in this grid.
Every edit that applies leaves a tidy sheet tidy.
-/
namespace Gridbook

namespace CellMap

variable {α β : Type}

/-- Every stored value satisfies a condition on its cell and itself. -/
def All (p : Coord → α → Prop) (m : CellMap α) : Prop := ∀ c a, m.get? c = some a → p c a

/-- What holds of all values can be seen from the entries. -/
instance {m : CellMap α} (p : Coord → α → Prop) [∀ c a, Decidable (p c a)] : Decidable (m.All p) :=
  decidable_of_iff (∀ e ∈ m.entries, p e.1 e.2)
    ⟨fun h c a ha => h (c, a) (mem_entries_iff.mpr ha),
      fun h e he => h e.1 e.2 (mem_entries_iff.mp he)⟩

theorem all_empty (p : Coord → α → Prop) : (empty : CellMap α).All p := by
  intro c a h
  simp at h

theorem All.set {p : Coord → α → Prop} {m : CellMap α} (h : m.All p) {c : Coord} {a : Option α}
    (hc : ∀ x ∈ a, p c x) : (m.set c a).All p := by
  intro d x hd
  rw [get?_set] at hd
  split at hd
  · rename_i hcd
    exact hcd ▸ hc x hd
  · exact h d x hd

theorem all_ofList {p : Coord → α → Prop} {l : List (Coord × α)} (h : ∀ e ∈ l, p e.1 e.2) :
    (ofList l).All p := by
  intro c a hc
  rw [get?_ofList] at hc
  exact h _ (List.mem_reverse.mp (mem_of_lookup hc))

/-- What is stored after a move was stored at a cell that goes there. -/
theorem All.relocate {p : Coord → α → Prop} {m : CellMap α} (h : m.All p)
    (target : Coord → Option Coord) :
    (m.relocate target).All fun d a => ∃ c, target c = some d ∧ p c a := by
  refine all_ofList fun e he => ?_
  obtain ⟨f, hf, he⟩ := List.mem_filterMap.mp he
  obtain ⟨d, hd, rfl⟩ := Option.map_eq_some_iff.mp he
  exact ⟨f.1, hd, h f.1 f.2 (mem_entries_iff.mp hf)⟩

end CellMap

namespace Sheet

/-- A condition that a sheet still satisfies when a cell of its grid is written. -/
structure KeptByWrites (p : Sheet → Prop) : Prop where
  setContent {s : Sheet} (h : p s) {c : Coord} (hc : s.contains c = true) (text : String) :
    p (s.setContent c text)
  setStyle {s : Sheet} (h : p s) {c : Coord} (hc : s.contains c = true) (style : Style) :
    p (s.setStyle c style)

/-- A condition that a sheet still satisfies when its cells move. -/
structure KeptByMoves (p : Sheet → Prop) : Prop where
  line {s : Sheet} (h : p s) {e : LineEdit} (happ : e.isApplicable s = true) : p (e.apply s)
  exchange {s : Sheet} (h : p s) {a b : Coord} (ha : s.contains a = true)
    (hb : s.contains b = true) : p (s.exchange a b)

/-- What holds of all cells with a content and of all cells with a style. -/
theorem of_mem_stored {s : Sheet} {p : Coord → Prop} (hcontents : s.contents.All fun c _ => p c)
    (hstyles : s.styles.All fun c _ => p c) : ∀ c ∈ s.contents.cells ++ s.styles.cells, p c := by
  intro c hc
  rcases List.mem_append.mp hc with hc | hc
  · obtain ⟨content, hcontent⟩ := Option.isSome_iff_exists.mp (CellMap.mem_cells_iff.mp hc)
    exact hcontents c content hcontent
  · obtain ⟨style, hstyle⟩ := Option.isSome_iff_exists.mp (CellMap.mem_cells_iff.mp hc)
    exact hstyles c style hstyle

/-- All that is stored lies in the grid. -/
structure StoresWithin (s : Sheet) : Prop where
  contents : s.contents.All fun c _ => s.contains c = true
  styles : s.styles.All fun c _ => s.contains c = true

instance (s : Sheet) : Decidable s.StoresWithin :=
  decidable_of_iff ((s.contents.All fun c _ => s.contains c = true) ∧
      s.styles.All fun c _ => s.contains c = true)
    ⟨fun h => ⟨h.1, h.2⟩, fun h => ⟨h.contents, h.styles⟩⟩

theorem keptByWrites_storesWithin : KeptByWrites StoresWithin where
  setContent h _ hc _ := { h with contents := h.contents.set fun _ _ => hc }
  setStyle h _ hc _ := { h with styles := h.styles.set fun _ _ => hc }

/-- What is stored comes from a cell of the old grid, whose place is in the new one. -/
theorem StoresWithin.line {s : Sheet} (h : s.StoresWithin) {e : LineEdit}
    (happ : e.isApplicable s = true) : (e.apply s).StoresWithin := by
  refine ⟨fun d text hd => ?_, fun d style hd => ?_⟩
  · obtain ⟨-, c, hc, old, hold, -⟩ := LineEdit.get?_apply_eq_some_iff.mp hd
    exact LineEdit.contains_target happ (h.contents c old hold) hc
  · obtain ⟨-, c, hc, hold⟩ := LineEdit.get?_styles_apply_eq_some_iff.mp hd
    exact LineEdit.contains_target happ (h.styles c style hold) hc

theorem StoresWithin.exchange {s : Sheet} (h : s.StoresWithin) {a b : Coord}
    (ha : s.contains a = true) (hb : s.contains b = true) : (s.exchange a b).StoresWithin := by
  have hcontains : ∀ c, s.contains (exchanged a b c) = true →
      (s.exchange a b).contains c = true := by
    intro c hc
    rwa [← exchanged_exchanged a b c, contains_exchange ha hb]
  refine ⟨fun c content hc => ?_, fun c style hc => ?_⟩
  · obtain ⟨old, hold, -⟩ := get?_contents_exchange_eq_some_iff.mp hc
    exact hcontains c (h.contents _ old hold)
  · rw [get?_styles_exchange] at hc
    exact hcontains c (h.styles _ style hc)

/-- No empty content and no plain style is stored. -/
structure Proper (s : Sheet) : Prop where
  contents : s.contents.All fun _ content => content ≠ ""
  styles : s.styles.All fun _ style => style ≠ .plain

theorem proper_ofSize (rows cols : Nat) : (ofSize rows cols).Proper :=
  ⟨CellMap.all_empty _, CellMap.all_empty _⟩

/-- A content is stored only if it is not empty. -/
theorem Proper.setContent {s : Sheet} (h : s.Proper) (c : Coord) (text : String) :
    (s.setContent c text).Proper :=
  { h with
    contents := h.contents.set fun x hx => by
      split at hx
      · simp at hx
      · rename_i htext
        obtain rfl := Option.some.inj hx
        exact htext }

/-- A style is stored only if it is not plain. -/
theorem Proper.setStyle {s : Sheet} (h : s.Proper) (c : Coord) (style : Style) :
    (s.setStyle c style).Proper :=
  { h with
    styles := h.styles.set fun x hx => by
      split at hx
      · simp at hx
      · rename_i hstyle
        obtain rfl := Option.some.inj hx
        exact hstyle }

theorem keptByWrites_proper : KeptByWrites Proper :=
  ⟨fun h c _ => h.setContent c, fun h c _ => h.setStyle c⟩

/-- A formula that is rewritten stays one, so no content gets lost. -/
theorem rewritten_ne_empty {rewrite : List Char → List Char} {content : String}
    (hrewrite : ∀ text, rewrite ('=' :: text) ≠ []) (h : content ≠ "") :
    rewritten rewrite content ≠ "" := by
  by_cases hformula : ∃ text, content.toList = '=' :: text
  · obtain ⟨text, htext⟩ := hformula
    intro hempty
    have hlist : (rewritten rewrite content).toList = rewrite ('=' :: text) :=
      toList_rewritten htext
    rw [hempty] at hlist
    exact hrewrite text hlist.symm
  · rwa [rewritten_literal (not_exists.mp hformula)]

theorem substitute_ne_nil (replace : Coord → Option (List Char)) (text : List Char) :
    Formula.substitute replace ('=' :: text) ≠ [] := by
  simp [Formula.substitute_formula]

theorem Proper.line {s : Sheet} (h : s.Proper) (e : LineEdit) : (e.apply s).Proper := by
  refine ⟨fun d content hd => ?_, fun d style hd => ?_⟩
  · obtain ⟨-, c, -, old, hold, rfl⟩ := LineEdit.get?_apply_eq_some_iff.mp hd
    exact rewritten_ne_empty (substitute_ne_nil _) (h.contents c old hold)
  · obtain ⟨-, c, -, hold⟩ := LineEdit.get?_styles_apply_eq_some_iff.mp hd
    exact h.styles c style hold

theorem Proper.exchange {s : Sheet} (h : s.Proper) (a b : Coord) : (s.exchange a b).Proper := by
  refine ⟨fun c content hc => ?_, fun c style hc => ?_⟩
  · obtain ⟨old, hold, rfl⟩ := get?_contents_exchange_eq_some_iff.mp hc
    exact rewritten_ne_empty (substitute_ne_nil _) (h.contents _ old hold)
  · rw [get?_styles_exchange] at hc
    exact h.styles _ style hc

theorem keptByMoves_proper : KeptByMoves Proper :=
  ⟨fun h e _ => h.line e, fun h a b _ _ => h.exchange a b⟩

structure Tidy (s : Sheet) : Prop where
  rows_pos : 1 ≤ s.rows
  cols_pos : 1 ≤ s.cols
  cols_le : s.cols ≤ Coord.letters
  contents : s.contents.All fun c content => s.contains c = true ∧ content ≠ ""
  styles : s.styles.All fun c style => s.contains c = true ∧ style ≠ .plain

theorem tidy_ofSize (rows : Nat) {cols : Nat} (hcols : cols ≤ Coord.letters) :
    (ofSize rows cols).Tidy where
  rows_pos := Nat.le_max_right ..
  cols_pos := Nat.le_max_right ..
  cols_le := Nat.max_le.mpr ⟨hcols, by decide⟩
  contents := CellMap.all_empty _
  styles := CellMap.all_empty _

namespace Tidy

variable {s : Sheet}

/-- What is stored is right in a tidy sheet, and with a right grid that is all. -/
theorem of_stored (hrows : 1 ≤ s.rows) (hcols : 1 ≤ s.cols) (hletters : s.cols ≤ Coord.letters)
    (hwithin : s.StoresWithin) (hproper : s.Proper) : s.Tidy :=
  ⟨hrows, hcols, hletters,
    fun c content h => ⟨hwithin.contents c content h, hproper.contents c content h⟩,
    fun c style h => ⟨hwithin.styles c style h, hproper.styles c style h⟩⟩

variable (h : s.Tidy)

include h

theorem storesWithin : s.StoresWithin :=
  ⟨fun c content hc => (h.contents c content hc).1, fun c style hc => (h.styles c style hc).1⟩

theorem proper : s.Proper :=
  ⟨fun c content hc => (h.contents c content hc).2, fun c style hc => (h.styles c style hc).2⟩

theorem line {e : LineEdit} (happ : e.isApplicable s = true) : (e.apply s).Tidy := by
  have hrows : 1 ≤ (e.apply s).rows := by cases e <;> exact Nat.le_max_right ..
  have hcols : 1 ≤ (e.apply s).cols := by cases e <;> exact Nat.le_max_right ..
  have hletters : (e.apply s).cols ≤ Coord.letters := by
    have hgrid : (e.apply s).cols = (e.resize s).cols := by cases e <;> rfl
    have := h.cols_le
    have := h.cols_pos
    rw [hgrid]
    cases e <;> simp only [LineEdit.isApplicable, LineEdit.resize, Sheet.resize, Bool.and_eq_true,
      decide_eq_true_eq] at happ ⊢ <;> omega
  exact of_stored hrows hcols hletters (h.storesWithin.line happ) (h.proper.line e)

theorem exchange {a b : Coord} (ha : s.contains a = true) (hb : s.contains b = true) :
    (s.exchange a b).Tidy :=
  of_stored h.rows_pos h.cols_pos h.cols_le (h.storesWithin.exchange ha hb) (h.proper.exchange a b)

end Tidy

theorem keptByWrites_tidy : KeptByWrites Tidy where
  setContent h _ hc text := .of_stored h.rows_pos h.cols_pos h.cols_le
    (keptByWrites_storesWithin.setContent h.storesWithin hc text)
    (keptByWrites_proper.setContent h.proper hc text)
  setStyle h _ hc style := .of_stored h.rows_pos h.cols_pos h.cols_le
    (keptByWrites_storesWithin.setStyle h.storesWithin hc style)
    (keptByWrites_proper.setStyle h.proper hc style)

theorem keptByMoves_tidy : KeptByMoves Tidy := ⟨Tidy.line, Tidy.exchange⟩

end Sheet

namespace Fill

/-- The line of a sequence runs through the area. -/
theorem contains_of_mem_line {f : Fill} {c : Coord} (hc : c ∈ f.line) :
    f.area.contains c = true := by
  have hsource : f.area.first.row ≤ f.source.row ∧ f.source.row ≤ f.area.last.row ∧
      f.area.first.col ≤ f.source.col ∧ f.source.col ≤ f.area.last.col := by
    simp only [area, Area.including]
    omega
  have hrows := f.area.row_le
  have hcols := f.area.col_le
  rw [line] at hc
  rw [Area.contains_iff]
  split at hc
  · obtain ⟨row, hrow, rfl⟩ := List.mem_map.mp hc
    rw [List.mem_range'_1, Area.height] at hrow
    simp only
    omega
  · obtain ⟨col, hcol, rfl⟩ := List.mem_map.mp hc
    rw [List.mem_range'_1, Area.width] at hcol
    simp only
    omega

/-- Only cells of the grid are written. -/
theorem contains_of_mem_targets {f : Fill} {s : Sheet} (happ : f.isApplicable s = true)
    {policy : FillPolicy} {c : Coord} (hc : c ∈ f.targets policy) : s.contains c = true := by
  have harea : f.area.contains c = true := by
    have hmem := (List.mem_filter.mp hc).1
    split at hmem
    · exact contains_of_mem_line hmem
    · exact Area.mem_cells.mp hmem
  simp only [isApplicable, Bool.and_eq_true, Sheet.contains_iff] at happ
  obtain ⟨⟨⟨hsource, -⟩, hlast⟩, -⟩ := happ
  rw [Area.contains_iff] at harea
  simp only [area, Area.including] at harea
  rw [Sheet.contains_iff]
  omega

/-- Writing a cell does not change the grid. -/
theorem contains_write (f : Fill) (s t : Sheet) (c d : Coord) :
    (f.write s t c).contains d = t.contains d := by
  rw [write]
  split <;> rfl

section

variable {p : Sheet → Prop} (hp : Sheet.KeptByWrites p) {f : Fill} {s : Sheet}

include hp

theorem keeps_write {t : Sheet} (ht : p t) {c : Coord} (hc : t.contains c = true) :
    p (f.write s t c) := by
  have hcontent := hp.setContent ht hc
    (String.ofList (f.contentAt s.rows s.cols (s.content f.source).toList c))
  rw [write]
  split
  · exact hp.setStyle hcontent hc _
  · exact hcontent

theorem keeps_foldl_write {t : Sheet} (ht : p t) {cells : List Coord}
    (hcells : ∀ c ∈ cells, t.contains c = true) : p (cells.foldl (f.write s) t) := by
  induction cells generalizing t with
  | nil => exact ht
  | cons c cells ih =>
    refine ih (keeps_write hp ht (hcells c (by simp))) fun d hd => ?_
    rw [contains_write]
    exact hcells d (List.mem_cons_of_mem _ hd)

theorem keeps_apply (hs : p s) (happ : f.isApplicable s = true) : p (f.apply s) :=
  keeps_foldl_write hp hs fun _ hc => contains_of_mem_targets happ hc

end

end Fill

namespace Import

theorem keeps_placeStyle {p : Sheet → Prop} (hp : Sheet.KeptByWrites p) {s : Sheet} (hs : p s)
    (entry : String × Style) : p (placeStyle s entry) := by
  rw [placeStyle]
  split
  · split
    · rename_i hc
      exact hp.setStyle hs hc _
    · exact hs
  · exact hs

theorem keeps_foldl_placeStyle {p : Sheet → Prop} (hp : Sheet.KeptByWrites p) {s : Sheet} (hs : p s)
    (entries : List (String × Style)) : p (entries.foldl placeStyle s) := by
  induction entries generalizing s with
  | nil => exact hs
  | cons entry entries ih => exact ih (keeps_placeStyle hp hs entry)

theorem proper_apply (data : Import) (rows cols : Nat) (s : Sheet) :
    (data.apply rows cols s).Proper := by
  have hgrid : (data.grid rows cols).Proper := Sheet.proper_ofSize _ _
  have hcontents : (data.unstyled rows cols).Proper :=
    { hgrid with
      contents := CellMap.all_ofList fun e he => (of_mem_contents he).2.2 }
  rw [apply_eq]
  exact keeps_foldl_placeStyle Sheet.keptByWrites_proper hcontents data.styles

/-- Rows that are counted one by one leave a tidy sheet, whatever the data are. -/
theorem tidy_apply {data : Import} (hrows : data.height ≤ Coord.lastRow) (rows cols : Nat)
    (s : Sheet) : (data.apply rows cols s).Tidy := by
  have hgrid : (data.grid rows cols).Tidy := Sheet.tidy_ofSize _ (Nat.min_le_right ..)
  have hcontents : (data.unstyled rows cols).Tidy :=
    { hgrid with
      contents := CellMap.all_ofList fun e he => by
        obtain ⟨⟨row, hrow, hcounted⟩, hcol, hcontent⟩ := of_mem_contents he
        refine ⟨Sheet.contains_iff.mpr ?_, hcontent⟩
        simp only [unstyled, grid, Sheet.ofSize, gridRows, gridCols, counted] at hcounted ⊢
        omega }
  rw [apply_eq]
  exact keeps_foldl_placeStyle Sheet.keptByWrites_tidy hcontents data.styles

end Import

namespace Edit

/-- Imported data have no more rows than are counted. -/
def Fits : Edit → Prop
  | replace data _ _ => data.height ≤ Coord.lastRow
  | _ => True

instance (e : Edit) : Decidable e.Fits := by
  cases e <;> unfold Fits <;> infer_instance

/-- A condition that writing and moving keep is kept by all edits but those that replace the sheet. -/
theorem keeps_apply {p : Sheet → Prop} (hwrites : Sheet.KeptByWrites p)
    (hmoves : Sheet.KeptByMoves p) {e : Edit} {s : Sheet} (hs : p s)
    (happ : e.isApplicable s = true)
    (hreplace : ∀ data rows cols, e = replace data rows cols → p (data.apply rows cols s)) :
    p (e.apply s) := by
  cases e with
  | setContent c text => exact hwrites.setContent hs happ text
  | changeStyle c change => exact hwrites.setStyle hs happ _
  | setStyle c style => exact hwrites.setStyle hs happ style
  | line e => exact hmoves.line hs happ
  | exchange a b =>
    simp only [isApplicable, Bool.and_eq_true] at happ
    exact hmoves.exchange hs happ.1.2 happ.2
  | fill f => exact Fill.keeps_apply hwrites hs happ
  | replace data rows cols => exact hreplace data rows cols rfl

theorem proper_apply {e : Edit} {s : Sheet} (hs : s.Proper) (happ : e.isApplicable s = true) :
    (e.apply s).Proper :=
  keeps_apply Sheet.keptByWrites_proper Sheet.keptByMoves_proper hs happ
    fun data rows cols _ => data.proper_apply rows cols s

/-- An edit that applies to a tidy sheet leads to a tidy sheet. -/
theorem tidy_apply {e : Edit} {s : Sheet} (hs : s.Tidy) (hfits : e.Fits)
    (happ : e.isApplicable s = true) : (e.apply s).Tidy := by
  refine keeps_apply Sheet.keptByWrites_tidy Sheet.keptByMoves_tidy hs happ ?_
  rintro data rows cols rfl
  exact Import.tidy_apply hfits rows cols s

end Edit

end Gridbook
