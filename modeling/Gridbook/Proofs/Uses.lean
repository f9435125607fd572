import Gridbook.Proofs.Ranges

/-!
# The cells that formulas use

Arithmetic uses the cells of its tree and an aggregate the cells of its range. A
sheet is plain when all its formulas are of these two kinds, use cells of the grid
only, and are found to refer to the cells that are read in them.
-/
namespace Gridbook

theorem Sheet.contains_iff {s : Sheet} {c : Coord} :
    s.contains c = true ↔ c.row < s.rows ∧ c.col < s.cols := decide_eq_true_iff

/-- An area lies in the grid if two opposite corners do. -/
theorem Sheet.contains_of_spanning {s : Sheet} {p q c : Coord} (hp : s.contains p = true)
    (hq : s.contains q = true) (hc : (Area.spanning p q).contains c = true) :
    s.contains c = true := by
  rw [contains_iff] at hp hq ⊢
  simp only [Area.contains_iff, Area.spanning] at hc
  omega

theorem Coord.IsNamed.of_spanning {p q c : Coord} (hp : p.IsNamed) (hq : q.IsNamed)
    (hc : (Area.spanning p q).contains c = true) : c.IsNamed := by
  simp only [IsNamed, Area.contains_iff, Area.spanning] at *
  omega

namespace Formula

theorem Wording.isNamed_of_mem_cells {level : Nat} {w : Wording} (hw : w.Fits level) :
    ∀ c ∈ w.tree.cells, c.IsNamed := by
  induction w generalizing level with
  | number gap spelling => simp [tree, Expr.cells]
  | cell gap name place =>
    intro c hc
    obtain rfl : c = place := by simpa [tree, Expr.cells] using hc
    exact Coord.isNamed_of_ofChars? hw.2
  | binary left gap op right ihl ihr =>
    intro c hc
    rcases List.mem_append.mp hc with hc | hc
    · exact ihl hw.2.1 c hc
    · exact ihr hw.2.2.2 c hc
  | signed gap sign operand ih => exact ih hw.2
  | group gap inner closing ih => exact ih hw.2.1

theorem isNamed_of_read {text : List Char} {e : Expr} (h : read text = .ok e) :
    ∀ c ∈ e.cells, c.IsNamed := by
  obtain ⟨w, hw, rfl, -⟩ := exists_writes h
  exact Wording.isNamed_of_mem_cells hw

theorem RangeText.isNamed {range : List Char} {p q : Coord} (h : RangeText range p q) :
    p.IsNamed ∧ q.IsNamed := by
  cases h with
  | single hname => exact ⟨Coord.isNamed_of_ofChars? hname, Coord.isNamed_of_ofChars? hname⟩
  | pair hfirst hlast => exact ⟨Coord.isNamed_of_ofChars? hfirst, Coord.isNamed_of_ofChars? hlast⟩

/-- The formula is arithmetic over these cells of the grid, or an aggregate of them. -/
inductive Uses (s : Sheet) (text : List Char) : List Coord → Prop
  | arithmetic {e : Expr} (hread : read text = .ok e)
      (hcells : ∀ c ∈ e.cells, s.contains c = true) : Uses s text e.cells
  | aggregate {call : Call} {f : Aggregate} {area : Area} (hcall : call? text = some call)
      (hf : Aggregate.ofName? call.name = some f)
      (harea : areaOf s (Text.trim call.arguments) = .ok area) : Uses s text area.cells

theorem Uses.contains {s : Sheet} {text : List Char} {cells : List Coord} (h : Uses s text cells) :
    ∀ c ∈ cells, s.contains c = true := by
  cases h with
  | arithmetic hread hcells => exact hcells
  | aggregate hcall hf harea =>
    obtain ⟨p, q, -, hp, hq, rfl⟩ := areaOf_eq_ok_iff.mp harea
    exact fun c hc => Sheet.contains_of_spanning hp hq (Area.mem_cells.mp hc)

theorem Uses.isNamed {s : Sheet} {text : List Char} {cells : List Coord} (h : Uses s text cells) :
    ∀ c ∈ cells, c.IsNamed := by
  cases h with
  | arithmetic hread hcells => exact isNamed_of_read hread
  | aggregate hcall hf harea =>
    obtain ⟨p, q, hrange, -, -, rfl⟩ := areaOf_eq_ok_iff.mp harea
    obtain ⟨hp, hq⟩ := hrange.isNamed
    exact fun c hc => hp.of_spanning hq (Area.mem_cells.mp hc)

/-- The cells that a formula uses, if it is arithmetic or an aggregate over the grid. -/
def used? (s : Sheet) (text : List Char) : Option (List Coord) :=
  match read text, call? text with
  | .ok e, _ => if ∀ c ∈ e.cells, s.contains c = true then some e.cells else none
  | .error _, none => none
  | .error _, some call =>
    match Aggregate.ofName? call.name, areaOf s (Text.trim call.arguments) with
    | some _, .ok area => some area.cells
    | _, _ => none

theorem used?_eq_some_iff {s : Sheet} {text : List Char} {cells : List Coord} :
    used? s text = some cells ↔ Uses s text cells := by
  constructor
  · intro h
    unfold used? at h
    split at h
    · rename_i e _ hread
      split at h
      · rename_i hcells
        obtain rfl := Option.some.inj h
        exact .arithmetic hread hcells
      · simp at h
    · simp at h
    · rename_i call _ hcall
      split at h
      · rename_i f area hf harea
        obtain rfl := Option.some.inj h
        exact .aggregate hcall hf harea
      · simp at h
  · intro h
    cases h with
    | arithmetic hread hcells => simp only [used?, hread, if_pos hcells]
    | aggregate hcall hf harea =>
      cases hread : read text with
      | ok e =>
        rw [call?_of_read hread] at hcall
        simp at hcall
      | error r => simp only [used?, hread, hcall, hf, harea]

theorem mem_toOption_read {text : List Char} {e : Expr} :
    e ∈ (read text).toOption ↔ read text = .ok e := by
  cases read text <;> simp [Except.toOption]

/-- The text behind the equals sign of a formula. -/
def textOf? (content : String) : Option (List Char) :=
  match content.toList with
  | '=' :: text => some text
  | _ => none

theorem textOf?_eq_some_iff {content : String} {text : List Char} :
    textOf? content = some text ↔ content.toList = '=' :: text := by
  unfold textOf?
  split
  · rename_i rest h
    rw [h]
    simp
  · rename_i h
    simp only [reduceCtorEq, false_iff]
    exact h text

end Formula

namespace Sheet

/-- What holds of all formulas can be seen from the cells that have a content. -/
theorem forall_formula_iff {s : Sheet} {P : Coord → List Char → Prop} :
    (∀ c text, (s.content c).toList = '=' :: text → P c text) ↔
      ∀ p ∈ s.contents.entries, ∀ text ∈ Formula.textOf? p.2, P p.1 text := by
  constructor
  · rintro h ⟨c, stored⟩ hp text htext
    have hget := CellMap.mem_entries_iff.mp hp
    refine h c text ?_
    rw [content, hget]
    exact Formula.textOf?_eq_some_iff.mp htext
  · intro h c text htext
    cases hget : s.contents.get? c with
    | none => simp [content, hget] at htext
    | some stored =>
      rw [content, hget] at htext
      exact h (c, stored) (CellMap.mem_entries_iff.mpr hget) text
        (Formula.textOf?_eq_some_iff.mpr htext)

/-- A content in which a formula is rewritten as a text. -/
def rewritten (rewrite : List Char → List Char) (content : String) : String :=
  changedFormula (fun formula => some (String.ofList (rewrite formula.toList))) content

theorem rewritten_literal {rewrite : List Char → List Char} {content : String}
    (h : ∀ text, content.toList ≠ '=' :: text) : rewritten rewrite content = content := by
  have hformula : Formula.isFormula content.toList = false := by
    unfold Formula.isFormula
    split
    · rename_i text htext
      exact absurd htext (h text)
    · rfl
  simp [rewritten, changedFormula, hformula]

theorem toList_rewritten {rewrite : List Char → List Char} {content : String} {text : List Char}
    (h : content.toList = '=' :: text) :
    (rewritten rewrite content).toList = rewrite ('=' :: text) := by
  simp [rewritten, changedFormula, h, Formula.isFormula]

/-- Every formula in the grid uses some cells, and the references found are those that are read. -/
structure IsPlain (s : Sheet) : Prop where
  uses : ∀ c text, (s.content c).toList = '=' :: text → s.contains c = true →
    ∃ cells, Formula.Uses s text cells
  found : ∀ c text, (s.content c).toList = '=' :: text → s.contains c = true →
    ∀ e, Formula.read text = .ok e → Formula.references ('=' :: text) = e.cells

theorem isPlain_iff {s : Sheet} : s.IsPlain ↔ ∀ p ∈ s.contents.entries,
    ∀ text ∈ Formula.textOf? p.2, s.contains p.1 = true → (Formula.used? s text).isSome = true ∧
      ∀ e ∈ (Formula.read text).toOption, Formula.references ('=' :: text) = e.cells := by
  rw [← forall_formula_iff (P := fun c text => s.contains c = true →
    (Formula.used? s text).isSome = true ∧
      ∀ e ∈ (Formula.read text).toOption, Formula.references ('=' :: text) = e.cells)]
  simp only [Option.isSome_iff_exists, Formula.used?_eq_some_iff, Formula.mem_toOption_read]
  exact ⟨fun h c text htext hc => ⟨h.uses c text htext hc, h.found c text htext hc⟩,
    fun h => ⟨fun c text htext hc => (h c text htext hc).1,
      fun c text htext hc => (h c text htext hc).2⟩⟩

instance (s : Sheet) : Decidable s.IsPlain := decidable_of_iff _ isPlain_iff.symm

end Sheet

end Gridbook
