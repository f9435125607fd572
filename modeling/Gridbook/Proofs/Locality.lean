import Gridbook.Proofs.Footprint
import Gridbook.Proofs.Results
import Gridbook.Proofs.Uses

/-!
# What a value depends on

A cell depends on itself and on all that the formulas of cells mention on which it
depends. Two sheets of the same size that agree on these cells give the cell the same
value, whatever formulas there are: evaluation never looks at a cell that following
the references in the texts would miss.
-/
namespace Gridbook

/-- The cell itself, and all that is mentioned by the formulas of cells on which it depends. -/
inductive Sheet.DependsOn (s : Sheet) (c : Coord) : Coord → Prop
  | self : s.DependsOn c c
  | mentioned {d r : Coord} {text : List Char} (hd : s.DependsOn c d)
      (htext : (s.content d).toList = '=' :: text) (hr : r ∈ Formula.mentioned ('=' :: text)) :
      s.DependsOn c r

/-- Cells that mention only each other depend on each other only. -/
theorem Sheet.DependsOn.mem_of_closed {s : Sheet} {c d : Coord} {cells : List Coord}
    (h : s.DependsOn c d) (hc : c ∈ cells)
    (hclosed : ∀ x ∈ cells, ∀ text ∈ Formula.textOf? (s.content x),
      ∀ r ∈ Formula.mentioned ('=' :: text), r ∈ cells) : d ∈ cells := by
  induction h with
  | self => exact hc
  | mentioned hd htext hr ih =>
    exact hclosed _ ih _ (Formula.textOf?_eq_some_iff.mpr htext) _ hr

namespace Formula

section

variable {m : Type → Type} [Monad m] [LawfulMonad m]

theorem Expr.eval_congr {read read' : Coord → m Float} {e : Expr}
    (h : ∀ c ∈ e.cells, read c = read' c) : e.eval read = e.eval read' := by
  rw [eval_eq_compute, eval_eq_compute]
  induction e with
  | number x => rfl
  | cell c => exact h c (by simp [cells])
  | binary left op right ihl ihr =>
    rw [compute, compute, ihl fun c hc => h c (by simp [cells, hc]),
      ihr fun c hc => h c (by simp [cells, hc])]
  | signed sign operand ih => rw [compute, compute, ih h]
  | group inner ih => rw [compute, compute, ih h]

end

section

variable {s s' : Sheet} (hcontains : s'.contains = s.contains) {visit visit' : Coord → Eval Value}
  (origin : Coord)

include hcontains

theorem referenced_congr {c : Coord} (h : visit' c = visit c) :
    referenced s' visit' c = referenced s visit c := by
  rw [referenced, referenced, hcontains, h]

theorem areaOf_congr (range : List Char) : areaOf s' range = areaOf s range := by
  rw [areaOf, areaOf, hcontains]

theorem gather_congr {range : List Char}
    (h : ∀ p q, RangeText range p q → ∀ r, (Area.spanning p q).contains r = true →
      visit' r = visit r) : gather s' visit' origin range = gather s visit origin range := by
  cases harea : areaOf s range with
  | error err =>
    rw [gather, gather, areaOf_congr hcontains, harea]
    rfl
  | ok area =>
    obtain ⟨p, q, hrange, -, -, rfl⟩ := areaOf_eq_ok_iff.mp harea
    rw [gather, gather, areaOf_congr hcontains, harea]
    refine mapM_congr fun r hr => referenced_congr hcontains (h p q hrange r ?_)
    exact Area.mem_cells.mp (List.mem_filter.mp hr).1

theorem argumentValue_congr {argument : List Char}
    (h : ∀ p q, RangeText argument p q → ∀ r, (Area.spanning p q).contains r = true →
      visit' r = visit r) :
    argumentValue s' visit' origin argument = argumentValue s visit origin argument := by
  simp only [argumentValue, gather_congr hcontains origin h]
  cases hname : Coord.ofChars? argument with
  | none => rfl
  | some c =>
    have hrange : RangeText argument c c := by
      refine .single ?_
      rwa [Text.trim_of_isWord (Coord.isWord_of_ofChars? hname).2]
    have hvisit := h c c hrange c (by simp [Area.spanning])
    simp only [referenced_congr hcontains hvisit]

/-- A formula is evaluated with the cells that it mentions, whatever formula it is. -/
theorem evaluateFormula_congr {text : List Char}
    (h : ∀ r ∈ mentioned ('=' :: text), visit' r = visit r) :
    evaluateFormula s' visit' origin text = evaluateFormula s visit origin text := by
  cases hcall : call? text with
  | none =>
    simp only [evaluateFormula, hcall, evaluateArithmetic]
    cases hread : read text with
    | error refusal => rfl
    | ok e =>
      have hnumbers : e.eval (numberAt s' visit' origin) = e.eval (numberAt s visit origin) := by
        refine Expr.eval_congr fun c hc => ?_
        rw [numberAt, numberAt, referenced_congr hcontains (h c (mem_mentioned_of_read hread hc))]
      simp only [hnumbers]
  | some call =>
    have hgather := gather_congr hcontains origin fun p q hrange r hr =>
      h r (mem_mentioned_of_arguments hcall hrange hr)
    have harguments : (cutArguments call.arguments).mapM (argumentValue s' visit' origin) =
        (cutArguments call.arguments).mapM (argumentValue s visit origin) := by
      refine mapM_congr fun argument hargument => ?_
      exact argumentValue_congr hcontains origin fun p q hrange r hr =>
        h r (mem_mentioned_of_argument hcall hargument hrange hr)
    simp only [evaluateFormula, hcall, hgather, harguments]

end

theorem evaluateContent_congr {s s' : Sheet} {c : Coord} (hc : s'.content c = s.content c)
    {formula formula' : List Char → Eval Value}
    (h : ∀ text, (s.content c).toList = '=' :: text → formula' text = formula text) :
    evaluateContent s' c formula' = evaluateContent s c formula := by
  unfold evaluateContent
  rw [hc]
  split
  · rename_i text htext
    rw [h text htext]
  · rfl

/-- Dependencies are evaluated alike, because theirs are dependencies, too. -/
theorem evaluateIn_congr {s s' : Sheet} (hcontains : s'.contains = s.contains) {c : Coord}
    (h : ∀ d, s.DependsOn c d → s'.content d = s.content d) (limit room : Nat) {d : Coord}
    (hd : s.DependsOn c d) : evaluateIn s' limit room d = evaluateIn s limit room d := by
  induction room generalizing d with
  | zero => exact evaluateContent_congr (h d hd) fun _ _ => rfl
  | succ room ih =>
    refine evaluateContent_congr (h d hd) fun text htext => ?_
    rw [evaluateFormula_congr hcontains d fun r hr => ih (hd.mentioned htext hr)]

end Formula

namespace Sheet

open Formula (Eval evaluate evaluateFormula evaluateIn_congr evaluateFormula_congr mentioned)

/--
The value of a cell is determined by the size of the sheet and the contents of the cells
on which it depends. For a single formula: evaluating it asks for cells that are
mentioned, and for no others.
-/
theorem evaluate_eq_of_dependsOn {s s' : Sheet} {c : Coord} (hrows : s'.rows = s.rows)
    (hcols : s'.cols = s.cols) (h : ∀ d, s.DependsOn c d → s'.content d = s.content d) :
    (∀ limit, evaluate s' limit c = evaluate s limit c) ∧
    ∀ (text : List Char) (visit visit' : Coord → Eval Value),
      (∀ r ∈ mentioned ('=' :: text), visit' r = visit r) →
      evaluateFormula s visit' c text = evaluateFormula s visit c text := by
  have hcontains : s'.contains = s.contains := by
    funext d
    rw [contains, contains, hrows, hcols]
  refine ⟨fun limit => ?_, fun text visit visit' hvisit => evaluateFormula_congr rfl c hvisit⟩
  rw [evaluate, evaluate, Formula.evaluateOn, Formula.evaluateOn]
  simp only [evaluateIn_congr hcontains h limit _ .self]

/--
Arithmetic, an aggregate, a text function and a formula that is refused. `E2` is
written in the text function, but only inside quotes.
-/
def terrace : Sheet :=
  (((((ofSize 2 5).setContent ⟨0, 0⟩ "=FIND_AND_REPLACE(B1, 'E2', C1)").setContent
    ⟨0, 1⟩ "=2*C1").setContent ⟨0, 2⟩ "=SUM(D1:D2)").setContent ⟨0, 3⟩ "4").setContent
    ⟨1, 3⟩ "=D1+"

/-- The terrace with another formula in `E2`. -/
def extended : Sheet := terrace.setContent ⟨1, 4⟩ "=A1"

theorem evaluate_eq_of_dependsOn_terrace : extended.content ⟨1, 4⟩ ≠ terrace.content ⟨1, 4⟩ ∧
    (∀ d, terrace.DependsOn ⟨0, 0⟩ d → extended.content d = terrace.content d) ∧
    ∀ limit, evaluate extended limit ⟨0, 0⟩ = evaluate terrace limit ⟨0, 0⟩ := by
  have hrows : extended.rows = terrace.rows := rfl
  have hcols : extended.cols = terrace.cols := rfl
  have hclosed : ∀ x ∈ [⟨0, 0⟩, ⟨0, 1⟩, ⟨0, 2⟩, ⟨0, 3⟩, ⟨1, 3⟩],
      ∀ text ∈ Formula.textOf? (terrace.content x), ∀ r ∈ mentioned ('=' :: text),
        r ∈ [(⟨0, 0⟩ : Coord), ⟨0, 1⟩, ⟨0, 2⟩, ⟨0, 3⟩, ⟨1, 3⟩] := by decide +kernel
  have hagree : ∀ d, terrace.DependsOn ⟨0, 0⟩ d → extended.content d = terrace.content d := by
    intro d hd
    have hmem := hd.mem_of_closed (by decide) hclosed
    rw [extended, content_setContent, if_neg]
    rintro rfl
    exact absurd hmem (by decide)
  exact ⟨by decide +kernel, hagree, (evaluate_eq_of_dependsOn hrows hcols hagree).1⟩

end Sheet

end Gridbook
