import Gridbook.Proofs.Nesting

/-!
# Printed formulas

A tree is printed without gaps, and every part is a token again: numbers are written in
full, cells by their names. So the printed text has the tokens of the tree, and since
the tree binds as usual it is the tree that is read. Printing can only take nesting
away: what is left is the reach of the tree, and every wording of it has that.
-/
namespace Gridbook.Formula

open Decimal (IsSize)
open Text (IsBlank)

theorem exists_wording_render {e : Expr} (hnumbers : ∀ x ∈ e.numbers, IsSize x)
    (hcells : ∀ c ∈ e.cells, c.IsNamed) :
    ∃ w : Wording, w.IsSpelled ∧ w.tree = e ∧ w.text = e.render := by
  induction e with
  | number x =>
    obtain ⟨n, hn, -, htext, hvalue⟩ :=
      Decimal.exists_spelling_plain (hnumbers x (by simp [Expr.numbers]))
    exact ⟨.number [] n, ⟨Wording.isGap_nil, hn⟩, by rw [Wording.tree, hvalue], htext⟩
  | cell c =>
    have hname := Coord.ofChars?_label (hcells c (by simp [Expr.cells]))
    exact ⟨.cell [] c.label.toList c, ⟨Wording.isGap_nil, isName_iff.mpr hname⟩, rfl, rfl⟩
  | binary left op right ihl ihr =>
    obtain ⟨hnumbersl, hnumbersr⟩ := List.forall_mem_append.mp hnumbers
    obtain ⟨hcellsl, hcellsr⟩ := List.forall_mem_append.mp hcells
    obtain ⟨l, hl, rfl, hltext⟩ := ihl hnumbersl hcellsl
    obtain ⟨r, hr, rfl, hrtext⟩ := ihr hnumbersr hcellsr
    exact ⟨.binary l [] op r, ⟨hl, Wording.isGap_nil, hr⟩, rfl, by
      rw [Wording.text, Expr.render, hltext, hrtext, List.nil_append]⟩
  | signed sign operand ih =>
    obtain ⟨w, hw, rfl, htext⟩ := ih hnumbers hcells
    exact ⟨.signed [] sign w, ⟨Wording.isGap_nil, hw⟩, rfl, by
      rw [Wording.text, Expr.render, htext, List.nil_append]⟩
  | group inner ih =>
    obtain ⟨w, hw, rfl, htext⟩ := ih hnumbers hcells
    exact ⟨.group [] w [], ⟨Wording.isGap_nil, hw, Wording.isGap_nil⟩, rfl, by
      rw [Wording.text, Expr.render, htext, List.nil_append, List.nil_append]⟩

/-- The finite numbers of a wording have no sign. -/
theorem isSize_of_isFinite {w : Wording} (h : ∀ x ∈ w.tree.numbers, x.isFinite = true) :
    ∀ x ∈ w.tree.numbers, IsSize x := by
  induction w with
  | number gap spelling =>
    intro x hx
    obtain rfl := List.mem_singleton.mp hx
    have hfinite := h _ hx
    rw [Decimal.Numeral.toFloat_eq] at hfinite ⊢
    exact Decimal.isSize_near hfinite
  | cell gap name place => simp [Wording.tree, Expr.numbers]
  | binary left gap op right ihl ihr =>
    obtain ⟨hl, hr⟩ := List.forall_mem_append.mp h
    exact List.forall_mem_append.mpr ⟨ihl hl, ihr hr⟩
  | signed gap sign operand ih => exact ih h
  | group gap inner closing ih => exact ih h

/-- A printed formula is read as the formula, if it is not nested too deeply. -/
theorem read_printed {e : Expr} (hbinds : e.BindsAsUsual) (hnumbers : ∀ x ∈ e.numbers, IsSize x)
    (hcells : ∀ c ∈ e.cells, c.IsNamed) (hnesting : nesting e.render ≤ deepestNesting) :
    read e.render = .ok e := by
  obtain ⟨w, hw, rfl, htext⟩ := exists_wording_render hnumbers hcells
  have hbody : body w.tree.render = w.text := by
    rw [← htext, ← List.append_nil w.text, body_text (hw.fits hbinds)]
  refine read_eq_ok_of_hasTokens ?_ hbinds ⟨w, [], hw, rfl, by simp [IsBlank], ?_⟩
  · rwa [hbody, htext]
  · rw [hbody, List.append_nil]

/-- A formula whose numbers are finite is read back from its printed text. -/
theorem read_render {text : List Char} {e : Expr} (h : read text = .ok e)
    (hfinite : ∀ x ∈ e.numbers, x.isFinite = true) : read e.render = .ok e := by
  obtain ⟨hnesting, w, b, hw, rfl, hb, htext⟩ := read_eq_ok_iff.mp h
  obtain ⟨-, hbinds, -⟩ := hw.spelled (Nat.zero_le 2)
  have hnumbers := isSize_of_isFinite hfinite
  have hprinted := nesting_render hnumbers (isNamed_of_read h)
  rw [nesting_body] at hnesting
  exact read_printed hbinds hnumbers (isNamed_of_read h)
    (hprinted.trans_le ((reach_le_nesting h).trans hnesting))

theorem read_render_spaced :
    ∃ e, read "= -( 1.50 + A01)*2e-3 ".toList = .ok e ∧ (∀ x ∈ e.numbers, x.isFinite = true) ∧
      read e.render = .ok e := by
  have h : read "= -( 1.50 + A01)*2e-3 ".toList = .ok (.binary
      (.signed .minus (.group (.binary (.number (Decimal.nearest 3 2)) .add (.cell ⟨0, 0⟩))))
      .multiply (.number (Decimal.nearest 1 500))) := by decide +kernel
  have hfinite : (Decimal.nearest 3 2).isFinite = true ∧ (Decimal.nearest 1 500).isFinite = true := by
    decide +kernel
  exact ⟨_, h, by simpa [Expr.numbers] using hfinite,
    read_render h (by simpa [Expr.numbers] using hfinite)⟩

end Gridbook.Formula
