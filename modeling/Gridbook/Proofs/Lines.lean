import Gridbook.Edit
import Gridbook.Proofs.Moving
import Gridbook.Proofs.Uses
import Gridbook.Proofs.Walking
import Mathlib.Data.List.Sort
import Mathlib.Order.MinMax

/-!
# Values under line edits

After a line edit every surviving cell has the value that it had before, provided
that no surviving formula used a removed cell. Cells to the right of column `Z`
have no name and do not survive: a line edit empties them.

The area of a range follows the edit as a whole. Its cells before the edit, at
their new places, are its cells after it except for those of an inserted line.
-/
namespace Gridbook

namespace LineEdit

/-- The cell lies in the line that the edit inserts. -/
def opens : LineEdit → Coord → Bool
  | insertRow index, c => c.row == index + 1
  | insertCol index, c => c.col == index + 1
  | deleteRow _, _ => false
  | deleteCol _, _ => false

/-- No cell goes to the inserted line, and every other place gets a cell. -/
theorem opens_iff {e : LineEdit} {d : Coord} : e.opens d = true ↔ ∀ c, e.target c ≠ some d := by
  obtain ⟨row, col⟩ := d
  constructor
  · rintro h ⟨r, c⟩
    cases e <;> simp only [opens, target] at h ⊢ <;> grind
  · intro h
    cases e with
    | insertRow index =>
      have h₁ := h ⟨row, col⟩
      have h₂ := h ⟨row - 1, col⟩
      simp only [target, opens] at h₁ h₂ ⊢
      grind
    | deleteRow index =>
      have h₁ := h ⟨row, col⟩
      have h₂ := h ⟨row + 1, col⟩
      simp only [target, opens] at h₁ h₂ ⊢
      grind
    | insertCol index =>
      have h₁ := h ⟨row, col⟩
      have h₂ := h ⟨row, col - 1⟩
      simp only [target, opens] at h₁ h₂ ⊢
      grind
    | deleteCol index =>
      have h₁ := h ⟨row, col⟩
      have h₂ := h ⟨row, col + 1⟩
      simp only [target, opens] at h₁ h₂ ⊢
      grind

/-- Rows and columns stay in order. -/
theorem target_le_iff {e : LineEdit} {a b c d : Coord} (ha : e.target a = some c)
    (hb : e.target b = some d) :
    (c.row ≤ d.row ↔ a.row ≤ b.row) ∧ (c.col ≤ d.col ↔ a.col ≤ b.col) := by
  obtain ⟨ra, ca⟩ := a
  obtain ⟨rb, cb⟩ := b
  obtain ⟨rc, cc⟩ := c
  obtain ⟨rd, cd⟩ := d
  cases e <;> simp only [target] at ha hb ⊢ <;> grind

theorem target_lt {e : LineEdit} {a b c d : Coord} (ha : e.target a = some c)
    (hb : e.target b = some d) (h : a < b) : c < d := by
  obtain ⟨hrow, hcol⟩ := target_le_iff ha hb
  obtain ⟨hrow', hcol'⟩ := target_le_iff hb ha
  rw [Coord.lt_iff] at h ⊢
  omega

/-- A cell that is kept lies in an area exactly if its place lies in the area of the places. -/
theorem contains_spanning_iff {e : LineEdit} {p q p' q' c d : Coord} (hp : e.target p = some p')
    (hq : e.target q = some q') (hc : e.target c = some d) :
    (Area.spanning p' q').contains d = true ↔ (Area.spanning p q).contains c = true := by
  simp only [Area.contains_iff, Area.spanning, min_le_iff, le_max_iff,
    (target_le_iff hp hc).1, (target_le_iff hp hc).2, (target_le_iff hc hp).1,
    (target_le_iff hc hp).2, (target_le_iff hq hc).1, (target_le_iff hq hc).2,
    (target_le_iff hc hq).1, (target_le_iff hc hq).2]

/-- Where a cell goes, or the cell itself if it is removed. -/
def place (e : LineEdit) (c : Coord) : Coord := (e.target c).getD c

theorem place_eq {e : LineEdit} {c d : Coord} (h : e.target c = some d) : e.place c = d := by
  simp [place, h]

/-- The cells of an area at their new places, in order, are the cells of the area of the places. -/
theorem cells_spanning {e : LineEdit} {p q p' q' : Coord} (hp : e.target p = some p')
    (hq : e.target q = some q') (h : ∀ c ∈ (Area.spanning p q).cells, e.target c ≠ none) :
    (Area.spanning p' q').cells.filter (fun d => !e.opens d) =
      (Area.spanning p q).cells.map e.place := by
  have hplace : ∀ c ∈ (Area.spanning p q).cells, e.target c = some (e.place c) := by
    intro c hc
    obtain ⟨d, hd⟩ := Option.ne_none_iff_exists'.mp (h c hc)
    rw [hd, place_eq hd]
  refine List.Pairwise.eq_of_mem_iff ((Area.pairwise_cells _).filter _) ?_ fun d => ?_
  · rw [List.pairwise_map]
    exact (Area.pairwise_cells _).imp_of_mem fun hc hd hcd => target_lt (hplace _ hc) (hplace _ hd) hcd
  · simp only [List.mem_filter, List.mem_map, Bool.not_eq_true', Bool.eq_false_iff, Ne, opens_iff,
      not_forall, not_not, Area.mem_cells]
    constructor
    · rintro ⟨hd, c, hc⟩
      exact ⟨c, (contains_spanning_iff hp hq hc).mp hd, place_eq hc⟩
    · rintro ⟨c, hc, rfl⟩
      have htarget := hplace c (Area.mem_cells.mpr hc)
      exact ⟨(contains_spanning_iff hp hq htarget).mpr hc, c, htarget⟩

/-- What an edit does to a content. -/
def follow (e : LineEdit) : String → String := Sheet.rewritten (Formula.shiftReferences e)

theorem target_filter_injective {e : LineEdit} {a b c : Coord}
    (ha : ((e.target a).filter fun d => d.col < Coord.letters) = some c)
    (hb : ((e.target b).filter fun d => d.col < Coord.letters) = some c) : a = b :=
  target_injective (Option.filter_eq_some_iff.mp ha).1 (Option.filter_eq_some_iff.mp hb).1

theorem get?_apply_eq_some_iff {e : LineEdit} {s : Sheet} {d : Coord} {content : String} :
    (e.apply s).contents.get? d = some content ↔ d.col < Coord.letters ∧
      ∃ c, e.target c = some d ∧ ∃ old, s.contents.get? c = some old ∧ e.follow old = content := by
  have hcontents : (e.apply s).contents =
      ((s.relocate fun c => (e.target c).filter fun d => d.col < Coord.letters).mapFormulas
        fun formula => some (String.ofList (Formula.shiftReferences e formula.toList))).contents := by
    cases e <;> rfl
  rw [hcontents, Sheet.get?_contents_mapFormulas, Option.map_eq_some_iff]
  simp only [Sheet.relocate,
    CellMap.get?_relocate_eq_some_iff fun a b c => target_filter_injective (a := a) (b := b) (c := c),
    Option.filter_eq_some_iff, decide_eq_true_eq]
  constructor
  · rintro ⟨old, ⟨c, ⟨hc, hd⟩, hold⟩, rfl⟩
    exact ⟨hd, c, hc, old, hold, rfl⟩
  · rintro ⟨hd, c, hc, old, hold, rfl⟩
    exact ⟨old, ⟨c, ⟨hc, hd⟩, hold⟩, rfl⟩

theorem get?_styles_apply_eq_some_iff {e : LineEdit} {s : Sheet} {d : Coord} {style : Style} :
    (e.apply s).styles.get? d = some style ↔ d.col < Coord.letters ∧
      ∃ c, e.target c = some d ∧ s.styles.get? c = some style := by
  have hstyles : (e.apply s).styles =
      s.styles.relocate fun c => (e.target c).filter fun d => d.col < Coord.letters := by
    cases e <;> rfl
  rw [hstyles,
    CellMap.get?_relocate_eq_some_iff fun a b c => target_filter_injective (a := a) (b := b) (c := c)]
  simp only [Option.filter_eq_some_iff, decide_eq_true_eq]
  constructor
  · rintro ⟨c, ⟨hc, hd⟩, hstyle⟩
    exact ⟨hd, c, hc, hstyle⟩
  · rintro ⟨hd, c, hc, hstyle⟩
    exact ⟨c, ⟨hc, hd⟩, hstyle⟩

/-- A cell that goes to a lettered column takes its content along. -/
theorem content_apply {e : LineEdit} {s : Sheet} {c d : Coord} (hc : e.target c = some d)
    (hd : d.col < Coord.letters) : (e.apply s).content d = e.follow (s.content c) := by
  have hget : (e.apply s).contents.get? d = (s.contents.get? c).map e.follow := by
    refine Option.ext fun content => ?_
    rw [get?_apply_eq_some_iff, Option.map_eq_some_iff]
    constructor
    · rintro ⟨-, c', hc', old, hold, rfl⟩
      rw [target_injective hc hc']
      exact ⟨old, hold, rfl⟩
    · rintro ⟨old, hold, rfl⟩
      exact ⟨hd, c, hc, old, hold, rfl⟩
  rw [Sheet.content, Sheet.content, hget]
  cases s.contents.get? c <;> rfl

/-- A place to which no cell goes is empty, and so is every place past column `Z`. -/
theorem content_apply_empty {e : LineEdit} {s : Sheet} {d : Coord}
    (h : (∀ c, e.target c ≠ some d) ∨ Coord.letters ≤ d.col) : (e.apply s).content d = "" := by
  have hget : (e.apply s).contents.get? d = none := by
    refine Option.eq_none_iff_forall_ne_some.mpr fun content hcontent => ?_
    obtain ⟨hd, c, hc, -⟩ := get?_apply_eq_some_iff.mp hcontent
    rcases h with h | h
    · exact h c hc
    · omega
  rw [Sheet.content, hget]
  rfl

section

variable {e : LineEdit} {s : Sheet} (happ : e.isApplicable s = true)

include happ

/-- A cell of the grid goes to a cell of the new grid. -/
theorem contains_target {c d : Coord} (hc : s.contains c = true) (hd : e.target c = some d) :
    (e.apply s).contains d = true := by
  have hgrid : (e.apply s).contains d = (e.resize s).contains d := by cases e <;> rfl
  obtain ⟨row, col⟩ := c
  rw [Sheet.contains_iff] at hc
  rw [hgrid, Sheet.contains_iff]
  cases e <;> simp only [isApplicable, target, resize, Sheet.resize, Bool.and_eq_true,
    decide_eq_true_eq] at happ hd hc ⊢ <;> grind

/-- A named cell of the grid keeps a name. -/
theorem isNamed_target {c d : Coord} (hc : s.contains c = true) (hnamed : c.IsNamed)
    (hd : e.target c = some d) : d.IsNamed := by
  obtain ⟨row, col⟩ := c
  rw [Sheet.contains_iff] at hc
  cases e <;> simp only [isApplicable, target, Coord.IsNamed, Bool.and_eq_true,
    decide_eq_true_eq] at happ hd hc hnamed ⊢ <;> grind

end

/-- A reference to a cell that keeps a name is renamed to its new place. -/
theorem renames_shiftedName {e : LineEdit} {c d : Coord} (hd : e.target c = some d)
    (hnamed : d.IsNamed) : Formula.Renames e.place (Formula.shiftedName e) c := by
  obtain ⟨name, hname, hread⟩ := Coord.exists_nameChars? hnamed
  rw [Formula.Renames, place_eq hd]
  by_cases hdc : d = c
  · exact .inl ⟨by simp [Formula.shiftedName, hd, hdc], hdc⟩
  · exact .inr ⟨name, by simp [Formula.shiftedName, hd, hdc, hname], hread⟩

/-- The cell is in the grid and is neither removed nor pushed past the lettered columns. -/
def Keeps (e : LineEdit) (s : Sheet) (c : Coord) : Prop :=
  s.contains c = true ∧ ∃ d, e.target c = some d ∧ d.col < Coord.letters

/-- No formula that survives the edit uses a cell that does not. -/
def KeepsUses (e : LineEdit) (s : Sheet) : Prop :=
  ∀ c text, (s.content c).toList = '=' :: text → s.contains c = true → e.target c ≠ none →
    ∀ cells, Formula.Uses s text cells → ∀ x ∈ cells, e.target x ≠ none

instance (e : LineEdit) (s : Sheet) : Decidable (e.KeepsUses s) :=
  decidable_of_iff (∀ p ∈ s.contents.entries, ∀ text ∈ Formula.textOf? p.2,
    s.contains p.1 = true → e.target p.1 ≠ none →
      ∀ cells ∈ Formula.used? s text, ∀ x ∈ cells, e.target x ≠ none) <| by
    rw [← Sheet.forall_formula_iff (P := fun c text => s.contains c = true → e.target c ≠ none →
      ∀ cells ∈ Formula.used? s text, ∀ x ∈ cells, e.target x ≠ none)]
    simp only [Option.mem_def, Formula.used?_eq_some_iff, KeepsUses]

section

variable {e : LineEdit} {s : Sheet} (happ : e.isApplicable s = true)

include happ

theorem keeps_of_uses {text : List Char} {cells : List Coord} (h : Formula.Uses s text cells)
    (hcells : ∀ x ∈ cells, e.target x ≠ none) : ∀ x ∈ cells,
      ∃ y, e.target x = some y ∧ y.IsNamed ∧ e.Keeps s x := by
  intro x hx
  obtain ⟨y, hy⟩ := Option.ne_none_iff_exists'.mp (hcells x hx)
  have hcontains := h.contains x hx
  have hnamed := isNamed_target happ hcontains (h.isNamed x hx) hy
  exact ⟨y, hy, hnamed, hcontains, y, hy, hnamed.1⟩

/-- The formula of a cell that survives is the formula of the new sheet, moved. -/
theorem exists_movedFormula {text : List Char} {cells : List Coord} (h : Formula.Uses s text cells)
    (hfound : ∀ tree, Formula.read text = .ok tree →
      Formula.references ('=' :: text) = tree.cells)
    (hcells : ∀ x ∈ cells, e.target x ≠ none) :
    ∃ text', Formula.shiftReferences e ('=' :: text) = '=' :: text' ∧
      Formula.MovedFormula s (e.apply s) (e.Keeps s) e.place text text' := by
  have hkeeps := keeps_of_uses happ h hcells
  have hrenames : ∀ x ∈ cells, Formula.Renames e.place (Formula.shiftedName e) x := by
    intro x hx
    obtain ⟨y, hy, hnamed, -⟩ := hkeeps x hx
    exact renames_shiftedName hy hnamed
  cases h with
  | @arithmetic tree hread hcontains =>
    obtain ⟨text', htext', hnesting, hread'⟩ :=
      Formula.read_substitute hread (hfound tree hread) hrenames
    refine ⟨text', htext', .arithmetic hread hread' hnesting fun x hx => ?_⟩
    obtain ⟨-, -, -, hx⟩ := hkeeps x hx
    exact hx
  | @aggregate call f area hcall hf harea =>
    obtain ⟨p, q, hrange, hp, hq, rfl⟩ := Formula.areaOf_eq_ok_iff.mp harea
    have hpcells : p ∈ (Area.spanning p q).cells := by simp [Area.spanning]
    have hqcells : q ∈ (Area.spanning p q).cells := by simp [Area.spanning]
    obtain ⟨p', hp', -, -⟩ := hkeeps p hpcells
    obtain ⟨q', hq', -, -⟩ := hkeeps q hqcells
    obtain ⟨text', call', htext', hcall', hname, hrange'⟩ := Formula.call?_substitute hcall hf
      (Formula.rangeText_trim_iff.mp hrange) (hrenames p hpcells) (hrenames q hqcells)
    rw [place_eq hp', place_eq hq'] at hrange'
    have hcontains := contains_target happ hp hp'
    have hcontains' := contains_target happ hq hq'
    have harea' : Formula.areaOf (e.apply s) (Text.trim call'.arguments) =
        .ok (Area.spanning p' q') :=
      Formula.areaOf_eq_ok_iff.mpr
        ⟨p', q', Formula.rangeText_trim_iff.mpr hrange', hcontains, hcontains', rfl⟩
    refine ⟨text', htext', .aggregate (fun d => !e.opens d) hcall hcall' hname hf harea harea'
      (fun x hx => ?_) (cells_spanning hp' hq' hcells) fun x hx hopens => ?_⟩
    · obtain ⟨-, -, -, hx⟩ := hkeeps x hx
      exact hx
    · have hopens : e.opens x = true := by simpa using hopens
      exact ⟨Sheet.contains_of_spanning hcontains hcontains' (Area.mem_cells.mp hx),
        content_apply_empty (.inl (opens_iff.mp hopens))⟩

/-- The new sheet is the old one with the surviving cells moved. -/
theorem moved_apply (hs : s.IsPlain) (huses : e.KeepsUses s) :
    Formula.Moved s (e.apply s) (e.Keeps s) e.place where
  injective a b ha hb hab := by
    obtain ⟨-, a', ha', -⟩ := ha
    obtain ⟨-, b', hb', -⟩ := hb
    rw [place_eq ha', place_eq hb'] at hab
    exact target_injective ha' (hab ▸ hb')
  contains c hc := by
    obtain ⟨hcontains, d, hd, -⟩ := hc
    rw [place_eq hd, hcontains, contains_target happ hcontains hd]
  literal c hc hliteral := by
    obtain ⟨-, d, hd, hcol⟩ := hc
    rw [place_eq hd, content_apply hd hcol, follow, Sheet.rewritten_literal hliteral]
  formula c text hc htext := by
    obtain ⟨hcontains, d, hd, hcol⟩ := hc
    obtain ⟨cells, hcells⟩ := hs.uses c text htext hcontains
    have hsurvives := huses c text htext hcontains (by simp [hd]) cells hcells
    obtain ⟨text', hshift, hmoved⟩ := exists_movedFormula happ hcells
      (hs.found c text htext hcontains) hsurvives
    refine ⟨text', ?_, hmoved⟩
    rw [place_eq hd, content_apply hd hcol, follow, Sheet.toList_rewritten htext, hshift]

/-- A cell that the edit keeps has the same value at its new place. -/
theorem evaluate_place (hs : s.IsPlain) (huses : e.KeepsUses s) (limit : Nat) {c d : Coord}
    (hc : s.contains c = true) (hd : e.target c = some d) (hcol : d.col < Coord.letters) :
    Formula.evaluate (e.apply s) limit d = Formula.evaluate s limit c := by
  have h := (moved_apply happ hs huses).evaluate_eq limit (c := c) ⟨hc, d, hd, hcol⟩
  rwa [place_eq hd] at h

end

/-- Past column `Z` there is nothing after a line edit. -/
theorem evaluate_past_letters (e : LineEdit) (s : Sheet) (limit : Nat) {d : Coord}
    (hcol : ¬d.col < Coord.letters) : Formula.evaluate (e.apply s) limit d = .text "" := by
  have hempty : (e.apply s).content d = "" := content_apply_empty (.inr (Nat.le_of_not_lt hcol))
  rw [Formula.evaluate_eq, Formula.result_evaluateIn_literal (by simp [hempty]), hempty]

/-- The edit inserts a line. -/
def inserts : LineEdit → Bool
  | insertRow _ => true
  | deleteRow _ => false
  | insertCol _ => true
  | deleteCol _ => false

theorem exists_target {e : LineEdit} (h : e.inserts = true) (c : Coord) :
    ∃ d, e.target c = some d := by
  cases e with
  | insertRow index => exact ⟨_, rfl⟩
  | deleteRow index => simp [inserts] at h
  | insertCol index => exact ⟨_, rfl⟩
  | deleteCol index => simp [inserts] at h

/-- An insertion pushes no cell past the lettered columns, but past the grid's own last one. -/
theorem col_target_lt_iff {e : LineEdit} {s : Sheet} (hinsert : e.inserts = true)
    (happ : e.isApplicable s = true) {c d : Coord} (hc : s.contains c = true)
    (hd : e.target c = some d) : d.col < Coord.letters ↔ c.col < Coord.letters := by
  obtain ⟨row, col⟩ := c
  rw [Sheet.contains_iff] at hc
  cases e <;> simp only [inserts, isApplicable, target, Bool.and_eq_true, decide_eq_true_eq]
    at hinsert happ hd hc ⊢ <;> grind

/-- A plain sheet: `A1` adds up column `C`, `C1` refers to itself and `A3` and `C2` are used. -/
def tally : Sheet :=
  ((((Sheet.ofSize 3 3).setContent ⟨0, 0⟩ "=SUM(C3:C1)").setContent ⟨0, 2⟩ "=C1+A3*2").setContent
    ⟨1, 2⟩ "4").setContent ⟨2, 0⟩ "=1+C2"

/-- A sheet with a text in the first column that has no letter. -/
def wide : Sheet := (Sheet.ofSize 2 27).setContent ⟨0, 26⟩ "x"

/--
Inserting a line changes the value of no cell in a lettered column. The cells to
the right of these, which have no name, are emptied.
-/
theorem evaluate_insert {e : LineEdit} {s : Sheet} (hinsert : e.inserts = true)
    (happ : e.isApplicable s = true) (hs : s.IsPlain) (limit : Nat) {c : Coord}
    (hc : s.contains c = true) :
    ∃ d, e.target c = some d ∧ Formula.evaluate (e.apply s) limit d =
      if c.col < Coord.letters then Formula.evaluate s limit c else .text "" := by
  obtain ⟨d, hd⟩ := exists_target hinsert c
  have huses : e.KeepsUses s := by
    intro _ _ _ _ _ _ _ x _
    obtain ⟨y, hy⟩ := exists_target hinsert x
    simp [hy]
  have hcol := col_target_lt_iff hinsert happ hc hd
  refine ⟨d, hd, ?_⟩
  split
  · rename_i hc'
    exact evaluate_place happ hs huses limit hc hd (hcol.mpr hc')
  · rename_i hc'
    exact evaluate_past_letters e s limit (fun h => hc' (hcol.mp h))

theorem evaluate_insert_tally : (insertRow 0).isApplicable tally = true ∧ tally.IsPlain ∧
    ∃ d, (insertRow 0).target ⟨2, 0⟩ = some d ∧
      Formula.evaluate ((insertRow 0).apply tally) 9 d =
        if (⟨2, 0⟩ : Coord).col < Coord.letters then Formula.evaluate tally 9 ⟨2, 0⟩
        else .text "" :=
  have happ : (insertRow 0).isApplicable tally = true := by decide +kernel
  have hs : tally.IsPlain := by decide +kernel
  ⟨happ, hs, evaluate_insert rfl happ hs 9 (by decide +kernel)⟩

/-- Where a grid has more columns than there are letters, inserting a row does change a value. -/
theorem evaluate_insert_wide : (insertRow 0).isApplicable wide = true ∧ wide.IsPlain ∧
    (∀ p ∈ wide.contents.entries, wide.contains p.1 = true) ∧ wide.contains ⟨0, 26⟩ = true ∧
    (insertRow 0).target ⟨0, 26⟩ = some ⟨0, 26⟩ ∧
    Formula.evaluate ((insertRow 0).apply wide) 9 ⟨0, 26⟩ ≠ Formula.evaluate wide 9 ⟨0, 26⟩ := by
  refine ⟨by decide +kernel, by decide +kernel, by decide +kernel, by decide +kernel, rfl, ?_⟩
  intro h
  exact absurd (congrArg Value.display h) (by decide +kernel)

/--
Deleting a line leaves the value of every other cell as it was if no formula of
another line uses a cell of the deleted one. Cells whose new place is past column
`Z` are emptied.
-/
theorem evaluate_delete {e : LineEdit} {s : Sheet} (happ : e.isApplicable s = true)
    (hs : s.IsPlain) (huses : e.KeepsUses s) (limit : Nat) {c : Coord} (hc : s.contains c = true)
    (hoff : e.target c ≠ none) :
    ∃ d, e.target c = some d ∧ Formula.evaluate (e.apply s) limit d =
      if d.col < Coord.letters then Formula.evaluate s limit c else .text "" := by
  obtain ⟨d, hd⟩ := Option.ne_none_iff_exists'.mp hoff
  refine ⟨d, hd, ?_⟩
  split
  · rename_i hcol
    exact evaluate_place happ hs huses limit hc hd hcol
  · rename_i hcol
    exact evaluate_past_letters e s limit hcol

theorem evaluate_delete_tally : (deleteCol 1).isApplicable tally = true ∧ tally.IsPlain ∧
    (deleteCol 1).KeepsUses tally ∧ ∃ d, (deleteCol 1).target ⟨0, 2⟩ = some d ∧
      Formula.evaluate ((deleteCol 1).apply tally) 9 d =
        if d.col < Coord.letters then Formula.evaluate tally 9 ⟨0, 2⟩ else .text "" :=
  have happ : (deleteCol 1).isApplicable tally = true := by decide +kernel
  have hs : tally.IsPlain := by decide +kernel
  have huses : (deleteCol 1).KeepsUses tally := by decide +kernel
  ⟨happ, hs, huses, evaluate_delete happ hs huses 9 (by decide +kernel) (by decide +kernel)⟩

/-- Deleting a row empties the cells past column `Z` of all other rows. -/
theorem evaluate_delete_wide : (deleteRow 1).isApplicable wide = true ∧ wide.IsPlain ∧
    (∀ p ∈ wide.contents.entries, wide.contains p.1 = true) ∧ (deleteRow 1).KeepsUses wide ∧
    wide.contains ⟨0, 26⟩ = true ∧ (deleteRow 1).target ⟨0, 26⟩ = some ⟨0, 26⟩ ∧
    Formula.evaluate ((deleteRow 1).apply wide) 9 ⟨0, 26⟩ ≠ Formula.evaluate wide 9 ⟨0, 26⟩ := by
  refine ⟨by decide +kernel, by decide +kernel, by decide +kernel, by decide +kernel,
    by decide +kernel, rfl, ?_⟩
  intro h
  exact absurd (congrArg Value.display h) (by decide +kernel)

end LineEdit

end Gridbook
