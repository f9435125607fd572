import Gridbook.Proofs.Following
import Gridbook.Proofs.Naming

/-!
# Edits that take each other back

An inserted line is taken out again by the deletion of the line behind the index, and
an exchange of two cells by itself. The sheet is then the old one, contents, styles and
grid, if no reference is written with zeros in front of its row number, as they get
lost, and if nothing is stored right of column `Z`, where line edits drop it.
-/
namespace Gridbook

namespace Formula

/-- The word has a zero in front of its digits. -/
def Piece.hasZeros : Piece → Bool
  | .word (_ :: '0' :: _) => true
  | _ => false

/-- No reference of the formula is written with zeros in front of its row number. -/
def WithoutZeros (formula : List Char) : Prop :=
  isFormula formula = true →
    ∀ p ∈ pieces none formula, p.reference? ≠ none → p.hasZeros = false

instance (formula : List Char) : Decidable (WithoutZeros formula) :=
  inferInstanceAs (Decidable (_ → _))

/-- A reference without leading zeros is the name of its cell. -/
theorem nameChars?_of_reference? {p : Piece} {c : Coord} (h : p.reference? = some c)
    (hzeros : p.hasZeros = false) : c.nameChars? = some p.text := by
  cases p with
  | mark c => cases h
  | word w =>
    have hunpadded : Coord.Unpadded w := by
      intro hzero
      match w, hzero with
      | _ :: _ :: _, hzero =>
        obtain rfl := Option.some.inj hzero
        cases hzeros
    exact (Coord.ofChars?_unpadded_iff.mp ⟨h, hunpadded⟩).1

/-- Where references are only replaced by the names of their own cells nothing changes. -/
theorem substitute_own {replace : Coord → Option (List Char)} {formula : List Char}
    (hzeros : WithoutZeros formula)
    (h : ∀ c ∈ references formula, ∀ text, replace c = some text → c.nameChars? = some text) :
    substitute replace formula = formula := by
  cases hformula : isFormula formula with
  | false => exact substitute_literal hformula replace
  | true =>
    simp only [references, hformula, ↓reduceIte] at h
    have hpieces : ∀ p ∈ pieces none formula, p.substitute replace = p.text := by
      intro p hp
      rw [Piece.substitute]
      cases hreference : p.reference? with
      | none => rfl
      | some c =>
        rw [Option.bind_some]
        cases hc : replace c with
        | none => rfl
        | some text =>
          have hname := h c (List.mem_filterMap.mpr ⟨p, hp, hreference⟩) text hc
          rw [nameChars?_of_reference? hreference (hzeros hformula p hp (by simp [hreference]))]
            at hname
          exact (Option.some.inj hname).symm
    simp only [substitute, hformula, ↓reduceIte]
    rw [List.flatMap_def, List.map_congr_left hpieces, ← List.flatMap_def, flatMap_text_pieces]

/-- Behind edits that bring every cell back, references are written as they were. -/
theorem substitute_shiftedTwice {e e' : LineEdit} {formula : List Char}
    (hzeros : WithoutZeros formula) (h : ∀ c, (e.target c).bind e'.target = some c) :
    substitute (shiftedTwice e e') formula = formula := by
  refine substitute_own hzeros fun c hc text htext => ?_
  obtain ⟨name, hname, -⟩ := Coord.exists_nameChars? (isNamed_of_mem_references hc)
  rw [shiftedTwice] at htext
  split at htext
  · cases htext
  · rw [← Option.some.inj htext, h c, written, Option.bind_some, hname, Option.getD_some]

/-- A reference to one of two exchanged cells has its own name when they are exchanged again. -/
theorem chained_swappedName {a b : Coord} (hne : a ≠ b) (ha : a.row < Coord.lastRow)
    (hb : b.row < Coord.lastRow) {c : Coord} (hc : c.IsNamed) {text : List Char}
    (h : chained (Sheet.swappedName a b) (Sheet.swappedName a b) c = some text) :
    c.nameChars? = some text := by
  have first {a b : Coord} (hne : a ≠ b) (hb : b.row < Coord.lastRow) (ha : a.IsNamed)
      (h : chained (Sheet.swappedName a b) (Sheet.swappedName a b) a = some text) :
      a.nameChars? = some text := by
    have hown : Sheet.swappedName a b a = b.nameChars? := if_pos rfl
    have hother : Sheet.swappedName a b b = a.nameChars? := by
      rw [Sheet.swappedName, if_neg hne.symm, if_pos rfl]
    obtain ⟨name, hname, -⟩ := Coord.exists_nameChars? ha
    rw [chained, hown] at h
    cases hb' : b.nameChars? with
    | none => simp [hb'] at h
    | some name' =>
      have hlettered : b.col < Coord.letters := by
        rw [Coord.nameChars?] at hb'
        split at hb'
        · assumption
        · cases hb'
      have hread := Coord.ofChars?_of_nameChars? ⟨hlettered, hb⟩ hb'
      simp only [hb', rewrite_name hread, hother, hname, Option.getD_some] at h
      rw [hname, h]
  have hcomm : Sheet.swappedName a b = Sheet.swappedName b a := by
    funext d
    simp only [Sheet.swappedName]
    grind
  by_cases hca : c = a
  · subst hca
    exact first hne hb hc h
  · by_cases hcb : c = b
    · subst hcb
      rw [hcomm] at h
      exact first hne.symm ha hc h
    · have hkept : Sheet.swappedName a b c = none := by
        rw [Sheet.swappedName, if_neg hca, if_neg hcb]
      simp [chained, hkept] at h

theorem closesQuotes_swappedName (a b : Coord) : ClosesQuotes (Sheet.swappedName a b) := by
  intro c text h
  rw [Sheet.swappedName] at h
  split at h
  · exact openQuote_of_isQuote (isQuote_of_nameChars? h)
  · split at h
    · exact openQuote_of_isQuote (isQuote_of_nameChars? h)
    · cases h

end Formula

namespace Sheet

/-- No formula has a reference that is written with zeros in front of its row number. -/
def WithoutZeros (s : Sheet) : Prop :=
  s.contents.All fun _ content => Formula.WithoutZeros content.toList

instance (s : Sheet) : Decidable s.WithoutZeros := inferInstanceAs (Decidable (CellMap.All _ _))

/-- What line edits leave of a sheet: all but what is stored right of column `Z`. -/
def remaining (s : Sheet) : Sheet :=
  (s.relocate fun c => if c.col < Coord.letters then some c else none).resize s.rows s.cols

theorem separates_lettered :
    CellMap.Separates fun c => if c.col < Coord.letters then some c else none := by
  intro a b c ha hb
  dsimp only at ha hb
  split at ha <;> split at hb <;> simp_all

/-- In a grid of lettered columns all remains. -/
theorem remaining_eq {s : Sheet} (hs : s.SelfContained) (hrows : 1 ≤ s.rows) (hcols : 1 ≤ s.cols)
    (hletters : s.cols ≤ Coord.letters) : s.remaining = s := by
  have hcol : ∀ c, s.contains c = true →
      (if c.col < Coord.letters then some c else none) = some c := by
    intro c hc
    have hc := (contains_iff.mp hc).2
    rw [if_pos (by omega)]
  exact eq_of_fields (Nat.max_eq_left hrows) (Nat.max_eq_left hcols)
    (CellMap.relocate_some separates_lettered fun c a ha => hcol c (hs.contents c a ha))
    (CellMap.relocate_some separates_lettered fun c a ha => hcol c (hs.styles c a ha))

end Sheet

namespace LineEdit

variable {e e' : LineEdit} {s : Sheet}

/-- What an insertion keeps is what stands in the lettered columns. -/
theorem keeps_bind_keeps (hinsert : e.inserts = true) (happ : e.isApplicable s = true)
    (h : ∀ c, (e.target c).bind e'.target = some c) {c : Coord} (hc : s.contains c = true) :
    (e.keeps c).bind e'.keeps = if c.col < Coord.letters then some c else none := by
  obtain ⟨d, hd⟩ := exists_target hinsert c
  have hcol := col_target_lt_iff hinsert happ hc hd
  have hback : e'.target d = some c := by simpa [hd] using h c
  rw [keeps, hd, Option.filter_some]
  split
  · rename_i hlettered
    have hc : c.col < Coord.letters := hcol.mp (by simpa using hlettered)
    rw [Option.bind_some, keeps, hback, Option.filter_some, if_pos (by simpa using hc), if_pos hc]
  · rename_i hlettered
    have hc : ¬c.col < Coord.letters := fun hc => hlettered (by simpa using hcol.mpr hc)
    rw [Option.bind_none, if_neg hc]

/-- Contents and styles are as before when an edit takes an insertion back. -/
theorem apply_apply_of_target (hinsert : e.inserts = true) (happ : e.isApplicable s = true)
    (hs : s.SelfContained) (hzeros : s.WithoutZeros)
    (h : ∀ c, (e.target c).bind e'.target = some c) :
    (e'.apply (e.apply s)).contents = s.remaining.contents ∧
      (e'.apply (e.apply s)).styles = s.remaining.styles := by
  have hseparates := (separates_keeps e).bind (separates_keeps e')
  have hfollow : s.contents.All fun _ content => e'.follow (e.follow content) = content := by
    intro c content hcontent
    rw [← String.toList_inj, toList_follow_follow happ (hs.references c content hcontent)]
    exact Formula.substitute_shiftedTwice (hzeros c content hcontent) h
  constructor
  · rw [contents_apply_apply, CellMap.relocate_congr hseparates Sheet.separates_lettered
      fun c a ha => keeps_bind_keeps hinsert happ h (hs.contents c a ha)]
    exact CellMap.map_id fun d content hcontent => by
      obtain ⟨c, -, hc⟩ := hfollow.relocate _ d content hcontent
      exact hc
  · rw [styles_apply_apply]
    exact CellMap.relocate_congr hseparates Sheet.separates_lettered
      fun c a ha => keeps_bind_keeps hinsert happ h (hs.styles c a ha)

/-- The deletion of the line that an insertion puts in. -/
def removal : LineEdit → LineEdit
  | insertRow index => deleteRow (index + 1)
  | insertCol index => deleteCol (index + 1)
  | e => e

theorem target_removal (hinsert : e.inserts = true) (c : Coord) :
    (e.target c).bind e.removal.target = some c := by
  obtain ⟨row, col⟩ := c
  cases e with
  | insertRow index =>
    simp only [removal, target, Option.bind_some]
    grind
  | insertCol index =>
    simp only [removal, target, Option.bind_some]
    grind
  | deleteRow index => simp [inserts] at hinsert
  | deleteCol index => simp [inserts] at hinsert

/-- The inserted line is in the grid, which has more than one line then. -/
theorem isApplicable_removal (hinsert : e.inserts = true) (happ : e.isApplicable s = true) :
    e.removal.isApplicable (e.apply s) = true := by
  cases e <;> simp only [inserts, removal, isApplicable, Bool.and_eq_true, decide_eq_true_eq,
    Bool.false_eq_true] at hinsert happ ⊢ <;>
    simp only [rows_apply, cols_apply, resize, Sheet.resize] <;> omega

theorem removal_apply (hinsert : e.inserts = true) (happ : e.isApplicable s = true)
    (hs : s.SelfContained) (hzeros : s.WithoutZeros) :
    e.removal.apply (e.apply s) = s.remaining := by
  obtain ⟨hcontents, hstyles⟩ :=
    apply_apply_of_target hinsert happ hs hzeros (target_removal hinsert)
  have hgrid : (e.removal.apply (e.apply s)).rows = max s.rows 1 ∧
      (e.removal.apply (e.apply s)).cols = max s.cols 1 := by
    cases e <;> simp only [inserts, removal, rows_apply, cols_apply, resize, Sheet.resize,
      Bool.false_eq_true] at hinsert ⊢ <;> omega
  exact Sheet.eq_of_fields hgrid.1 hgrid.2 hcontents hstyles

end LineEdit

theorem Sheet.exchange_exchange {s : Sheet} {a b : Coord} (hzeros : s.WithoutZeros)
    (hrows : s.rows ≤ Coord.lastRow) (hne : a ≠ b) (ha : s.contains a = true)
    (hb : s.contains b = true) : (s.exchange a b).exchange a b = s := by
  have ha := (contains_iff.mp ha).1
  have hb := (contains_iff.mp hb).1
  have hcontent : s.contents.All fun _ content =>
      rewritten (Formula.swapReferences a b) (rewritten (Formula.swapReferences a b) content) =
        content := by
    intro c content hcontent
    have hswap : Formula.swapReferences a b = Formula.substitute (swappedName a b) := rfl
    rw [← String.toList_inj, hswap, toList_rewritten_substitute, toList_rewritten_substitute,
      Formula.substitute_chained (Formula.closesQuotes_swappedName a b)]
    exact Formula.substitute_own (hzeros c content hcontent) fun r hr _ htext =>
      Formula.chained_swappedName hne (by omega) (by omega)
        (Formula.isNamed_of_mem_references hr) htext
  have hget (t : Sheet) (c : Coord) : (t.exchange a b).contents.get? c =
      (t.contents.get? (exchanged a b c)).map (rewritten (Formula.swapReferences a b)) := by
    rw [exchange, get?_contents_mapFormulas, get?_contents_swap]
    rfl
  have hstyle (t : Sheet) (c : Coord) : (t.exchange a b).styles.get? c =
      t.styles.get? (exchanged a b c) := t.get?_styles_swap a b c
  refine eq_of_fields rfl rfl (CellMap.ext_get? fun c => ?_) (CellMap.ext_get? fun c => ?_)
  · rw [hget, hget, exchanged_exchanged]
    cases hc : s.contents.get? c with
    | none => rfl
    | some content => exact congrArg some (hcontent c content hc)
  · rw [hstyle, hstyle, exchanged_exchanged]

namespace Edit

open LineEdit

theorem run?_eq_some_iff {e : Edit} {s t : Sheet} :
    e.run? s = some t ↔ e.isApplicable s = true ∧ e.apply s = t := by
  simp [run?]

/-- Formulas of several kinds around `B2`, a text that is no formula, and a style. -/
def lattice : Sheet :=
  (((((Sheet.ofSize 3 3).setContent ⟨0, 0⟩ "=SUM(B2:C3)&'B02'").setContent ⟨1, 1⟩
    "=A1*C3+)").setContent ⟨2, 0⟩ "A01").setContent ⟨2, 2⟩ "=-B2+1.5").setStyle ⟨1, 1⟩
    { Style.plain with bold := true }

/--
An inserted row or column is taken out again by deleting the line behind the index,
and an exchange by itself; all of these edits apply. What line edits leave is the whole
sheet if it has a row and a column at least and no column without a letter. Rows are
counted in 32 bits, so every row of a grid has a number that a name may carry.
-/
theorem run?_taken_back {s : Sheet} (hs : s.SelfContained) (hzeros : s.WithoutZeros)
    (hrows : s.rows ≤ Coord.lastRow) :
    (∀ index, (insertRow index).isApplicable s = true →
      ∃ t, (line (insertRow index)).run? s = some t ∧
        (line (deleteRow (index + 1))).run? t = some s.remaining) ∧
    (∀ index, (insertCol index).isApplicable s = true →
      ∃ t, (line (insertCol index)).run? s = some t ∧
        (line (deleteCol (index + 1))).run? t = some s.remaining) ∧
    (∀ a b, a ≠ b → s.contains a = true → s.contains b = true →
      ∃ t, (exchange a b).run? s = some t ∧ (exchange a b).run? t = some s) ∧
    (1 ≤ s.rows → 1 ≤ s.cols → s.cols ≤ Coord.letters → s.remaining = s) := by
  refine ⟨fun index happ => ?_, fun index happ => ?_, fun a b hne ha hb => ?_,
    Sheet.remaining_eq hs⟩
  · exact ⟨_, run?_eq_some_iff.mpr ⟨happ, rfl⟩, run?_eq_some_iff.mpr
      ⟨isApplicable_removal rfl happ, removal_apply rfl happ hs hzeros⟩⟩
  · exact ⟨_, run?_eq_some_iff.mpr ⟨happ, rfl⟩, run?_eq_some_iff.mpr
      ⟨isApplicable_removal rfl happ, removal_apply rfl happ hs hzeros⟩⟩
  · have happ : (exchange a b).isApplicable s = true := by
      simp [isApplicable, hne, ha, hb]
    exact ⟨_, run?_eq_some_iff.mpr ⟨happ, rfl⟩,
      run?_eq_some_iff.mpr ⟨happ, Sheet.exchange_exchange hzeros hrows hne ha hb⟩⟩

theorem run?_taken_back_lattice : lattice.SelfContained ∧ lattice.WithoutZeros ∧
    (∃ t, (line (insertRow 0)).run? lattice = some t ∧
      (line (deleteRow 1)).run? t = some lattice.remaining) ∧
    (∃ t, (line (insertCol 2)).run? lattice = some t ∧
      (line (deleteCol 3)).run? t = some lattice.remaining) ∧
    (∃ t, (exchange ⟨0, 0⟩ ⟨1, 1⟩).run? lattice = some t ∧
      (exchange ⟨0, 0⟩ ⟨1, 1⟩).run? t = some lattice) ∧ lattice.remaining = lattice :=
  have hs : lattice.SelfContained := by decide +kernel
  have hzeros : lattice.WithoutZeros := by decide +kernel
  have h := run?_taken_back hs hzeros (by decide +kernel)
  ⟨hs, hzeros, h.1 0 (by decide +kernel), h.2.1 2 (by decide +kernel),
    h.2.2.1 ⟨0, 0⟩ ⟨1, 1⟩ (by decide) (by decide +kernel) (by decide +kernel),
    h.2.2.2 (by decide +kernel) (by decide +kernel) (by decide +kernel)⟩

/-- What stands right of column `Z` is not brought back, and a grid without columns gets one. -/
theorem run?_taken_back_wide : (wide.SelfContained ∧ wide.WithoutZeros ∧
      ∃ t u, (line (insertRow 0)).run? wide = some t ∧ (line (deleteRow 1)).run? t = some u ∧
        u ≠ wide) ∧
    ∃ s t u : Sheet, s.SelfContained ∧ s.WithoutZeros ∧ (line (insertRow 0)).run? s = some t ∧
      (line (deleteRow 1)).run? t = some u ∧ u ≠ s := by
  refine ⟨⟨by decide +kernel, by decide +kernel, _, _, rfl, rfl, by decide +kernel⟩,
    ⟨1, 0, .empty, .empty⟩, _, _, by decide +kernel, by decide +kernel, rfl, rfl, by decide +kernel⟩

end Edit

end Gridbook
