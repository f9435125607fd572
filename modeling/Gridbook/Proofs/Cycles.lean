import Gridbook.Proofs.Results
import Gridbook.Proofs.Uses
import Mathlib.Data.List.Chain
import Mathlib.Data.List.Nodup
import Mathlib.Logic.Relation

/-!
# Cycles of references

A cell refers to the cells that its formula uses, but never to itself. On a sheet
whose formulas use cells of the grid only, a cell from which references lead to a
cycle shows an error, and a cell that fails because of a cycle has one in its reach.
Self references and cells that are reached in two ways do no harm.
-/
namespace Gridbook

open Relation (ReflTransGen TransGen)

namespace Sheet

/-- All formulas are arithmetic over cells of the grid or aggregates of areas of the grid. -/
def UsesGrid (s : Sheet) : Prop :=
  ∀ c text, (s.content c).toList = '=' :: text → ∃ cells, Formula.Uses s text cells

/-- The formula of the first cell reads the second one or has it in its range. -/
def Refers (s : Sheet) (c r : Coord) : Prop :=
  ∃ text cells, (s.content c).toList = '=' :: text ∧ Formula.Uses s text cells ∧
    r ∈ cells ∧ r ≠ c

/-- References lead from the cell through other cells, all of them different, and back to it. -/
def OnCycle (s : Sheet) (x : Coord) : Prop :=
  ∃ others, others ≠ [] ∧ (x :: others).Nodup ∧ List.IsChain s.Refers (x :: (others ++ [x]))

/-- A walk of references goes from the first cell to the second, which lies on a cycle. -/
def ReachesCycle (s : Sheet) (c x : Coord) : Prop := ReflTransGen s.Refers c x ∧ s.OnCycle x

theorem usesGrid_iff {s : Sheet} : s.UsesGrid ↔ ∀ p ∈ s.contents.entries,
    ∀ text ∈ Formula.textOf? p.2, (Formula.used? s text).isSome = true := by
  rw [← forall_formula_iff (P := fun _ text => (Formula.used? s text).isSome = true)]
  simp only [Option.isSome_iff_exists, Formula.used?_eq_some_iff, UsesGrid]

instance (s : Sheet) : Decidable s.UsesGrid := decidable_of_iff _ usesGrid_iff.symm

theorem refers_iff {s : Sheet} {c r : Coord} : s.Refers c r ↔
    ∃ text ∈ Formula.textOf? (s.content c), ∃ cells ∈ Formula.used? s text, r ∈ cells ∧ r ≠ c := by
  simp only [Option.mem_def, Formula.textOf?_eq_some_iff, Formula.used?_eq_some_iff, Refers,
    exists_and_left]

instance (s : Sheet) (c r : Coord) : Decidable (s.Refers c r) := decidable_of_iff _ refers_iff.symm

theorem not_refers_self {s : Sheet} {c : Coord} : ¬s.Refers c c :=
  fun ⟨_, _, _, _, _, hne⟩ => hne rfl

/-- A cell on a cycle refers to a cell from which references lead back to it. -/
theorem OnCycle.exists_refers {s : Sheet} {x : Coord} (h : s.OnCycle x) :
    ∃ r, s.Refers x r ∧ ReflTransGen s.Refers r x := by
  obtain ⟨others, hne, -, hchain⟩ := h
  obtain ⟨r, others, rfl⟩ := List.exists_cons_of_ne_nil hne
  rw [List.cons_append, List.isChain_cons_cons] at hchain
  exact ⟨r, hchain.1, List.relationReflTransGen_of_exists_isChain_cons _ hchain.2 (by simp)⟩

/-- From a cell that reaches a cycle references go on to another cell that reaches it. -/
theorem ReachesCycle.exists_refers {s : Sheet} {c x : Coord} (h : s.ReachesCycle c x) :
    ∃ r, s.Refers c r ∧ s.ReachesCycle r x := by
  obtain ⟨hwalk, hcycle⟩ := h
  rcases hwalk.cases_head with rfl | ⟨r, hr, hwalk⟩
  · obtain ⟨r, hr, hback⟩ := hcycle.exists_refers
    exact ⟨r, hr, hback, hcycle⟩
  · exact ⟨r, hr, hwalk, hcycle⟩

/-- A cell that is met again on a trail of references lies on a cycle. -/
theorem onCycle_of_trail {s : Sheet} {x : Coord} {cells : List Coord} (hx : x ∈ cells)
    (hnodup : cells.Nodup) (hchain : List.IsChain (fun a b => s.Refers b a) (x :: cells)) :
    s.OnCycle x := by
  obtain ⟨front, back, rfl⟩ := List.append_of_mem hx
  have hfront : List.IsChain (fun a b => s.Refers b a) (x :: (front ++ [x])) := by
    have htext : x :: (front ++ x :: back) = (x :: (front ++ [x])) ++ back := by simp
    rw [htext] at hchain
    exact hchain.left_of_append
  refine ⟨front.reverse, ?_, ?_, ?_⟩
  · intro hnil
    rw [List.reverse_eq_nil_iff] at hnil
    subst hnil
    exact not_refers_self (List.isChain_cons_cons.mp hfront).1
  · obtain ⟨hfrontNodup, -, hne⟩ := List.nodup_append.mp hnodup
    rw [List.nodup_cons, List.mem_reverse, List.nodup_reverse]
    exact ⟨fun hmem => hne x hmem x (by simp) rfl, hfrontNodup⟩
  · have hback := List.isChain_reverse.mpr hfront
    simpa using hback

end Sheet

namespace Formula

/-- A tree is computed if all its cells are read, and fails with an error of one of them. -/
theorem Expr.compute_cases (g : Coord → Except EvalError Float) (e : Expr) :
    (∃ x, e.compute g = .ok x) ∧ (∀ c ∈ e.cells, ∃ y, g c = .ok y) ∨
      ∃ c ∈ e.cells, ∃ err, g c = .error err ∧ e.compute g = .error err := by
  induction e with
  | number x => exact .inl ⟨⟨x, rfl⟩, by simp [cells]⟩
  | cell c =>
    cases hc : g c with
    | ok y => exact .inl ⟨⟨y, hc⟩, by simp [cells, hc]⟩
    | error err => exact .inr ⟨c, by simp [cells], err, hc, hc⟩
  | binary left op right ihl ihr =>
    rcases ihl with ⟨⟨a, ha⟩, hleft⟩ | ⟨c, hc, err, hg, herr⟩
    · rcases ihr with ⟨⟨b, hb⟩, hright⟩ | ⟨c, hc, err, hg, herr⟩
      · refine .inl ⟨⟨op.apply a b, by rw [compute, ha, hb]; rfl⟩, fun c hc => ?_⟩
        exact (List.mem_append.mp hc).elim (hleft c) (hright c)
      · exact .inr ⟨c, by simp [cells, hc], err, hg, by rw [compute, ha, herr]; rfl⟩
    · exact .inr ⟨c, by simp [cells, hc], err, hg, by rw [compute, herr]; rfl⟩
  | signed sign operand ih =>
    rcases ih with ⟨⟨a, ha⟩, hcells⟩ | ⟨c, hc, err, hg, herr⟩
    · exact .inl ⟨⟨sign.apply a, by rw [compute, ha]; rfl⟩, hcells⟩
    · exact .inr ⟨c, hc, err, hg, by rw [compute, herr]; rfl⟩
  | group inner ih => exact ih

theorem mapM_cases {α β ε : Type} (g : α → Except ε β) (l : List α) :
    (∃ bs, l.mapM g = .ok bs) ∧ (∀ a ∈ l, ∃ b, g a = .ok b) ∨
      ∃ a ∈ l, ∃ err, g a = .error err ∧ l.mapM g = .error err := by
  induction l with
  | nil => exact .inl ⟨⟨[], rfl⟩, by simp⟩
  | cons a l ih =>
    rw [List.mapM_cons]
    cases ha : g a with
    | error err => exact .inr ⟨a, by simp, err, ha, rfl⟩
    | ok b =>
      rcases ih with ⟨⟨bs, hbs⟩, hl⟩ | ⟨c, hc, err, hg, herr⟩
      · refine .inl ⟨⟨b :: bs, by rw [hbs]; rfl⟩, fun c hc => ?_⟩
        rcases List.mem_cons.mp hc with rfl | hc
        · exact ⟨b, ha⟩
        · exact hl c hc
      · exact .inr ⟨c, by simp [hc], err, hg, by rw [herr]; rfl⟩

/--
How a formula ends that uses some cells: it exceeds the budget, or it is worked out
from all cells but its own, or it fails with the error of one of them.
-/
inductive Ending (visited : Nat → Coord → Except EvalError Value) (origin : Coord)
    (cells : List Coord) : Except EvalError Value → Prop
  | tooDeep : Ending visited origin cells (.error (.tooDeep nestingBudget))
  | workedOut {x} (n : Nat) (hcells : ∀ r ∈ cells, r ≠ origin → ∃ v, visited n r = .ok v)
      (hx : ∀ err, x = .error err → err = .notFinite) : Ending visited origin cells x
  | failed {r n err} (hr : r ∈ cells) (hne : r ≠ origin) (herr : visited n r = .error err) :
      Ending visited origin cells (.error err)

section

variable {s : Sheet} {visit : Coord → Eval Value} (hvisit : ∀ c, (visit c).Balanced)
  (origin : Coord)

include hvisit

/-- A cell of the grid is seen if it is evaluated, and fails as it does. -/
theorem referenced_cases {c : Coord} (hc : s.contains c = true) (t : Trail) :
    (∃ v, (visit c).result t = .ok v ∧
      (referenced s visit c).result t = .ok (.text v.display)) ∨
    ∃ err, (visit c).result t = .error err ∧ (referenced s visit c).result t = .error err := by
  rw [result_referenced s hvisit, if_pos hc]
  cases (visit c).result t with
  | ok v => exact .inl ⟨v, rfl, rfl⟩
  | error err => exact .inr ⟨err, rfl, rfl⟩

/-- The number of a cell of the grid is known if the cell is evaluated, and for the own cell. -/
theorem numberAt_cases {c : Coord} (hc : s.contains c = true) (t : Trail) :
    (∃ x, (numberAt s visit origin c).result t = .ok x) ∧
      (c ≠ origin → ∃ v, (visit c).result t = .ok v) ∨
    c ≠ origin ∧ ∃ err, (visit c).result t = .error err ∧
      (numberAt s visit origin c).result t = .error err := by
  rw [result_numberAt s hvisit]
  by_cases hself : c = origin
  · exact .inl ⟨⟨0, if_pos hself⟩, fun hne => absurd hself hne⟩
  · rw [if_neg hself]
    rcases referenced_cases hvisit hc t with ⟨v, hv, hseen⟩ | ⟨err, hv, hseen⟩
    · exact .inl ⟨⟨_, by rw [hseen]; rfl⟩, fun _ => ⟨v, hv⟩⟩
    · exact .inr ⟨hself, err, hv, by rw [hseen]; rfl⟩

theorem ending_compute {e : Expr} (hgrid : ∀ c ∈ e.cells, s.contains c = true) (t : Trail)
    (n : Nat) :
    Ending (fun n r => (visit r).result ⟨t.cells, n⟩) origin e.cells
      (e.compute (fun c => (numberAt s visit origin c).result ⟨t.cells, n⟩) >>= finiteNumber) := by
  rcases e.compute_cases fun c => (numberAt s visit origin c).result ⟨t.cells, n⟩ with
    ⟨⟨x, hx⟩, hread⟩ | ⟨r, hr, err, hg, herr⟩
  · refine .workedOut n (fun r hr hne => ?_) fun err herr => ?_
    · rcases numberAt_cases hvisit origin (hgrid r hr) ⟨t.cells, n⟩ with
        ⟨-, hok⟩ | ⟨-, err, -, herr⟩
      · exact hok hne
      · obtain ⟨y, hy⟩ := hread r hr
        cases hy.symm.trans herr
    · have hfinite : finiteNumber x = .error err := by rwa [hx] at herr
      unfold finiteNumber at hfinite
      split at hfinite
      · cases hfinite
      · exact (Except.error.inj hfinite).symm
  · rcases numberAt_cases hvisit origin (hgrid r hr) ⟨t.cells, n⟩ with
      ⟨⟨y, hy⟩, -⟩ | ⟨hne, e', hv, he'⟩
    · cases hy.symm.trans hg
    · obtain rfl : e' = err := Except.error.inj (he'.symm.trans hg)
      rw [herr]
      exact .failed hr hne hv

theorem ending_numbers {cells : List Coord} (hgrid : ∀ c ∈ cells, s.contains c = true)
    (f : List Float → Value) (t : Trail) :
    Ending (fun n r => (visit r).result ⟨t.cells, n⟩) origin cells
      ((numbers (fun c => (referenced s visit c).result t)
        (cells.filter fun c => c ≠ origin)).map f) := by
  rcases mapM_cases (fun c => (referenced s visit c).result t)
    (cells.filter fun c => c ≠ origin) with ⟨⟨vs, hvs⟩, hseen⟩ | ⟨r, hr, err, hg, herr⟩
  · refine .workedOut t.nesting (fun r hr hne => ?_) fun err herr => ?_
    · rcases referenced_cases hvisit (hgrid r hr) t with ⟨v, hv, -⟩ | ⟨err, -, herr⟩
      · exact ⟨v, hv⟩
      · obtain ⟨w, hw⟩ := hseen r (List.mem_filter.mpr ⟨hr, by simpa using hne⟩)
        cases hw.symm.trans herr
    · rw [numbers, hvs] at herr
      cases herr
  · obtain ⟨hr, hne⟩ := List.mem_filter.mp hr
    rcases referenced_cases hvisit (hgrid r hr) t with ⟨v, -, hseen⟩ | ⟨e', hv, he'⟩
    · cases hseen.symm.trans hg
    · obtain rfl : e' = err := Except.error.inj (he'.symm.trans hg)
      rw [numbers, herr]
      exact .failed hr (by simpa using hne) hv

theorem ending_evaluateFormula {text : List Char} {cells : List Coord} (t : Trail)
    (huses : Uses s text cells) :
    Ending (fun n r => (visit r).result ⟨t.cells, n⟩) origin cells
      ((evaluateFormula s visit origin text).result t) := by
  have hgrid := huses.contains
  cases huses with
  | @arithmetic e hread hcells =>
    have hformula : evaluateFormula s visit origin text =
        evaluateArithmetic s visit origin text := by
      rw [evaluateFormula, call?_of_read hread]
    rw [hformula, result_evaluateArithmetic s hvisit, hread]
    dsimp only
    split
    · exact .tooDeep
    · split
      · exact .tooDeep
      · exact ending_compute hvisit origin hgrid t _
  | @aggregate call f area hcall hf harea =>
    rw [result_evaluateFormula_aggregate s hvisit origin hcall hf, harea]
    exact ending_numbers hvisit origin hgrid _ t

end

section

variable {s : Sheet} (limit room : Nat) {c x : Coord}

/-- Evaluation of a cell from which a cycle is reached fails, wherever it starts. -/
theorem exists_error_of_reachesCycle (h : s.ReachesCycle c x) (t : Trail) :
    ∃ err, (evaluateIn s limit room c).result t = .error err := by
  induction room generalizing c t with
  | zero =>
    obtain ⟨r, ⟨text, cells, htext, -⟩, -⟩ := h.exists_refers
    rw [evaluateIn, result_evaluateContent htext]
    split <;> exact ⟨_, rfl⟩
  | succ room ih =>
    obtain ⟨r, ⟨text, cells, htext, huses, hr, hne⟩, hreach⟩ := h.exists_refers
    rw [result_evaluateIn_succ htext]
    split
    · exact ⟨_, rfl⟩
    · have hending := ending_evaluateFormula (balanced_evaluateIn s limit room) c
        ⟨c :: t.cells, t.nesting⟩ huses
      generalize (evaluateFormula s (evaluateIn s limit room) c text).result _ = y at hending
      cases hending with
      | tooDeep => exact ⟨_, rfl⟩
      | workedOut n hcells _ =>
        obtain ⟨v, hv⟩ := hcells r hr hne
        obtain ⟨err, herr⟩ := ih hreach ⟨c :: t.cells, n⟩
        cases hv.symm.trans herr
      | failed hr hne herr => exact ⟨_, absorb_eq_error_iff.mpr ⟨rfl, isFatal_of_evaluateIn herr⟩⟩

/--
On a trail of references a cell is met again only if it lies on a cycle, which is in
reach of every cell that has the trail in its reach.
-/
theorem reachesCycle_of_circular (hs : s.UsesGrid) {start : Coord} {t : Trail}
    (hstart : ReflTransGen s.Refers start c) (hnodup : t.cells.Nodup)
    (hchain : List.IsChain (fun a b => s.Refers b a) (c :: t.cells))
    (h : (evaluateIn s limit room c).result t = .error (.circular x)) :
    s.ReachesCycle start x := by
  induction room generalizing c t with
  | zero =>
    rcases evaluateIn_eq_error h with ⟨hmem, hx⟩ | ⟨-, hx⟩ | ⟨_, _, hroom, -⟩
    · obtain rfl : x = c := by simpa using hx
      exact ⟨hstart, Sheet.onCycle_of_trail hmem hnodup hchain⟩
    · cases hx
    · cases hroom
  | succ room ih =>
    rcases evaluateIn_eq_error h with ⟨hmem, hx⟩ | ⟨hroom, -⟩ | ⟨_, text, hroom, htext, hnew, h, -⟩
    · obtain rfl : x = c := by simpa using hx
      exact ⟨hstart, Sheet.onCycle_of_trail hmem hnodup hchain⟩
    · cases hroom
    · obtain rfl : room = _ := Nat.succ.inj hroom
      obtain ⟨cells, huses⟩ := hs c text htext
      have hending := ending_evaluateFormula (balanced_evaluateIn s limit room) c
        ⟨c :: t.cells, t.nesting⟩ huses
      rw [h] at hending
      cases hending with
      | workedOut n _ hx => cases hx _ rfl
      | @failed r n _ hr hne herr =>
        have hrefers : s.Refers c r := ⟨text, cells, htext, huses, hr, hne⟩
        have hlonger : List.IsChain (fun a b => s.Refers b a) (r :: c :: t.cells) :=
          .cons_cons hrefers hchain
        exact ih (hstart.tail hrefers) (List.nodup_cons.mpr ⟨hnew, hnodup⟩) hlonger herr

end

end Formula

namespace Sheet

/--
A cell from which references lead to a cycle shows an error, whatever the limit. A
cell that fails with a circular reference reaches a cycle through the cell that is
named, so a sheet without cycles never fails in this way.
-/
theorem detects_cycles {s : Sheet} (hs : s.UsesGrid) (limit : Nat) (c : Coord) :
    ((∃ x, s.ReachesCycle c x) → Formula.evaluate s limit c = .mark .error) ∧
      ∀ x, (Formula.evaluateOn s limit c).result .start = .error (.circular x) →
        s.ReachesCycle c x := by
  refine ⟨fun ⟨x, hx⟩ => ?_, fun x hx => ?_⟩
  · obtain ⟨err, herr⟩ := Formula.exists_error_of_reachesCycle limit limit hx .start
    rw [Formula.evaluate_eq, herr]
    exact congrArg Value.mark (Formula.mark_of_isFatal (Formula.isFatal_of_evaluateIn herr))
  · exact Formula.reachesCycle_of_circular limit limit hs .refl (by simp [Formula.Trail.start])
      (by simp [Formula.Trail.start]) hx

/-- In the first row a self reference and a diamond, in the second one a cycle and a way to it. -/
def tangle : Sheet :=
  (((((((Sheet.ofSize 2 4).setContent ⟨0, 0⟩ "=A1+B1*C1").setContent ⟨0, 1⟩ "=D1+1").setContent
    ⟨0, 2⟩ "=SUM(D1:D1)").setContent ⟨0, 3⟩ "2").setContent ⟨1, 0⟩ "=SUM(B1:B2)").setContent
      ⟨1, 1⟩ "=A2-1").setContent ⟨1, 3⟩ "=1+B2"

theorem detects_cycles_tangle : tangle.UsesGrid ∧ tangle.ReachesCycle ⟨1, 3⟩ ⟨1, 1⟩ ∧
    Formula.evaluate tangle 9 ⟨1, 3⟩ = .mark .error ∧
    (Formula.evaluate tangle 9 ⟨0, 0⟩).display = "6" := by
  have hs : tangle.UsesGrid := by decide +kernel
  have hcycle : tangle.OnCycle ⟨1, 1⟩ :=
    ⟨[⟨1, 0⟩], by decide, by decide, by decide +kernel⟩
  have hreach : tangle.ReachesCycle ⟨1, 3⟩ ⟨1, 1⟩ := ⟨.single (by decide +kernel), hcycle⟩
  exact ⟨hs, hreach, (detects_cycles hs 9 ⟨1, 3⟩).1 ⟨_, hreach⟩, by decide +kernel⟩

end Sheet

end Gridbook
