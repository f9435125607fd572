import Gridbook.Proofs.Ranges
import Gridbook.Proofs.Results

/-!
# Sheets with moved cells

A second sheet holds the cells of a first one at other places, and every formula
names its cells by their new places; the ranges may have taken in empty cells.
Then a cell has the same value in both sheets. Evaluation may stop at another
cell, but with errors that show the same and that end the same chains.
-/
namespace Gridbook.Formula

/-- Related values, or errors that are equally fatal and show the same mark. -/
def Agree (R : α → β → Prop) : Except EvalError α → Except EvalError β → Prop
  | .ok a, .ok b => R a b
  | .error e, .error e' => e.isFatal = e'.isFatal ∧ e.mark = e'.mark
  | _, _ => False

theorem agree_refl (x : Except EvalError α) : Agree Eq x x := by
  cases x with
  | ok a => rfl
  | error e => exact ⟨rfl, rfl⟩

theorem Agree.bind {R : α → β → Prop} {S : γ → δ → Prop} {x : Except EvalError α}
    {y : Except EvalError β} {g : α → Except EvalError γ} {k : β → Except EvalError δ}
    (h : Agree R x y) (hg : ∀ a b, R a b → Agree S (g a) (k b)) : Agree S (x >>= g) (y >>= k) := by
  cases x with
  | ok a =>
    cases y with
    | ok b => exact hg a b h
    | error e => exact h.elim
  | error e =>
    cases y with
    | ok b => exact h.elim
    | error e' => exact h

theorem Agree.map {x y : Except EvalError α} (h : Agree Eq x y) (g : α → β) :
    Agree Eq (x.map g) (y.map g) := by
  cases x with
  | ok a =>
    cases y with
    | ok b => exact congrArg g h
    | error e => exact h.elim
  | error e =>
    cases y with
    | ok b => exact h.elim
    | error e' => exact h

theorem Agree.absorb {x y : Except EvalError Value} (h : Agree Eq x y) :
    Agree Eq (Eval.absorb x) (Eval.absorb y) := by
  cases x with
  | ok a =>
    cases y with
    | ok b => exact h
    | error e => exact h.elim
  | error e =>
    cases y with
    | ok b => exact h.elim
    | error e' =>
      obtain ⟨hfatal, hmark⟩ := h
      simp only [Eval.absorb, ← hfatal, ← hmark]
      split
      · exact ⟨hfatal, hmark⟩
      · rfl

/-- Lists of cells agree if their cells do, one by one. -/
theorem agree_mapM {f : Coord → Coord} {l : List Coord} {g k : Coord → Except EvalError α}
    (h : ∀ c ∈ l, Agree Eq (g c) (k (f c))) : Agree Eq (l.mapM g) ((l.map f).mapM k) := by
  induction l with
  | nil => exact agree_refl _
  | cons c l ih =>
    rw [List.map_cons, List.mapM_cons, List.mapM_cons]
    refine (h c (by simp)).bind fun a b hab => ?_
    refine (ih fun d hd => h d (by simp [hd])).bind fun as bs habs => ?_
    rw [hab, habs]
    exact agree_refl _

theorem agree_compute {f : Coord → Coord} {e : Expr} {g k : Coord → Except EvalError Float}
    (h : ∀ c ∈ e.cells, Agree Eq (g c) (k (f c))) :
    Agree Eq (e.compute g) ((e.relabel f).compute k) := by
  induction e with
  | number x => exact agree_refl _
  | cell c => exact h c (by simp [Expr.cells])
  | binary left op right ihl ihr =>
    have hleft := ihl fun c hc => h c (by simp [Expr.cells, hc])
    have hright := ihr fun c hc => h c (by simp [Expr.cells, hc])
    refine hleft.bind fun a b hab => hright.bind fun a' b' hab' => ?_
    rw [hab, hab']
    exact agree_refl _
  | signed sign operand ih =>
    refine (ih h).bind fun a b hab => ?_
    rw [hab]
    exact agree_refl _
  | group inner ih => exact ih h

/-- The trail through the cells at their new places. -/
def Trail.relabel (f : Coord → Coord) (t : Trail) : Trail := { t with cells := t.cells.map f }

section

variable (s s' : Sheet) (known : Coord → Prop) (f : Coord → Coord)

/--
The second text, in the second sheet, is the formula of the first one after its
cells have moved; the fresh cells of its range are empty.
-/
inductive MovedFormula (text text' : List Char) : Prop
  | arithmetic {e : Expr} (hread : read text = .ok e) (hread' : read text' = .ok (e.relabel f))
      (hnesting : nesting text' = nesting text) (hcells : ∀ c ∈ e.cells, known c)
  | aggregate {call call' : Call} {g : Aggregate} {area area' : Area} (kept : Coord → Bool)
      (hcall : call? text = some call) (hcall' : call? text' = some call')
      (hname : call'.name = call.name) (hg : Aggregate.ofName? call.name = some g)
      (harea : areaOf s (Text.trim call.arguments) = .ok area)
      (harea' : areaOf s' (Text.trim call'.arguments) = .ok area')
      (hcells : ∀ c ∈ area.cells, known c) (hkept : area'.cells.filter kept = area.cells.map f)
      (hfresh : ∀ c ∈ area'.cells, kept c = false → s'.contains c = true ∧ s'.content c = "")

/-- The second sheet has the known cells of the first one at the places that `f` gives. -/
structure Moved : Prop where
  injective : ∀ a b, known a → known b → f a = f b → a = b
  contains : ∀ c, known c → s'.contains (f c) = s.contains c
  literal : ∀ c, known c → (∀ text, (s.content c).toList ≠ '=' :: text) →
    s'.content (f c) = s.content c
  formula : ∀ c text, known c → (s.content c).toList = '=' :: text →
    ∃ text', (s'.content (f c)).toList = '=' :: text' ∧ MovedFormula s s' known f text text'

end

namespace Moved

variable {s s' : Sheet} {known : Coord → Prop} {f : Coord → Coord} (h : Moved s s' known f)

include h

theorem eq_iff {a b : Coord} (ha : known a) (hb : known b) : f a = f b ↔ a = b :=
  ⟨h.injective a b ha hb, congrArg f⟩

theorem mem_map_iff {l : List Coord} {c : Coord} (hl : ∀ x ∈ l, known x) (hc : known c) :
    f c ∈ l.map f ↔ c ∈ l := by
  refine ⟨fun hmem => ?_, List.mem_map_of_mem⟩
  obtain ⟨x, hx, hfx⟩ := List.mem_map.mp hmem
  rwa [← h.injective x c (hl x hx) hc hfx]

section

variable {visit visit' : Coord → Eval Value} (hvisit : ∀ c, (visit c).Balanced)
  (hvisit' : ∀ c, (visit' c).Balanced) {t : Trail}

include hvisit hvisit'

theorem agree_referenced {c : Coord} (hc : known c)
    (hagree : Agree Eq ((visit c).result t) ((visit' (f c)).result (t.relabel f))) :
    Agree Eq ((referenced s visit c).result t) ((referenced s' visit' (f c)).result (t.relabel f)) := by
  rw [result_referenced s hvisit, result_referenced s' hvisit', h.contains c hc]
  split
  · exact hagree.map _
  · exact ⟨rfl, rfl⟩

theorem agree_numberAt {origin c : Coord} (horigin : known origin) (hc : known c)
    (hagree : Agree Eq ((visit c).result t) ((visit' (f c)).result (t.relabel f))) :
    Agree Eq ((numberAt s visit origin c).result t)
      ((numberAt s' visit' (f origin) (f c)).result (t.relabel f)) := by
  simp only [result_numberAt s hvisit, result_numberAt s' hvisit', h.eq_iff hc horigin]
  split
  · rfl
  · exact (h.agree_referenced hvisit hvisit' hc hagree).map _

theorem agree_evaluateArithmetic {origin : Coord} (horigin : known origin) {text text' : List Char}
    {e : Expr} (hread : read text = .ok e) (hread' : read text' = .ok (e.relabel f))
    (hnesting : nesting text' = nesting text) (hcells : ∀ c ∈ e.cells, known c)
    (hagree : ∀ n c, known c → Agree Eq ((visit c).result ⟨t.cells, n⟩)
      ((visit' (f c)).result (Trail.relabel f ⟨t.cells, n⟩))) :
    Agree Eq ((evaluateArithmetic s visit origin text).result t)
      ((evaluateArithmetic s' visit' (f origin) text').result (t.relabel f)) := by
  have hsame : (t.relabel f).nesting = t.nesting := rfl
  rw [result_evaluateArithmetic s hvisit, result_evaluateArithmetic s' hvisit', hread, hread',
    hnesting, hsame]
  dsimp only
  rw [Expr.depth_relabel]
  split
  · exact ⟨rfl, rfl⟩
  · split
    · exact ⟨rfl, rfl⟩
    · refine Agree.bind (R := Eq) (agree_compute fun c hc => ?_) fun x y hxy => ?_
      · exact h.agree_numberAt hvisit hvisit' horigin (hcells c hc) (hagree _ c (hcells c hc))
      · rw [hxy]
        exact agree_refl _

/-- Evaluating the formulas of the same cell gives results that agree if evaluating cells does. -/
theorem agree_evaluateFormula {origin : Coord} (horigin : known origin) {text text' : List Char}
    (hformula : MovedFormula s s' known f text text')
    (hempty : ∀ c t, s'.content c = "" → (visit' c).result t = .ok (.text ""))
    (hagree : ∀ n c, known c → Agree Eq ((visit c).result ⟨t.cells, n⟩)
      ((visit' (f c)).result (Trail.relabel f ⟨t.cells, n⟩))) :
    Agree Eq ((evaluateFormula s visit origin text).result t)
      ((evaluateFormula s' visit' (f origin) text').result (t.relabel f)) := by
  cases hformula with
  | arithmetic hread hread' hnesting hcells =>
    simp only [evaluateFormula, call?_of_read hread, call?_of_read hread']
    exact h.agree_evaluateArithmetic hvisit hvisit' horigin hread hread' hnesting hcells hagree
  | @aggregate call call' g area area' kept hcall hcall' hname hg harea harea' hcells hkept hfresh =>
    have hg' : Aggregate.ofName? call'.name = some g := by rw [hname, hg]
    have hblank : ∀ c ∈ area'.cells.filter (fun c => c ≠ f origin), kept c = false →
        (referenced s' visit' c).result (t.relabel f) = .ok (.text "") := by
      intro c hc hk
      obtain ⟨hcontains, hcontent⟩ := hfresh c (List.mem_filter.mp hc).1 hk
      rw [result_referenced s' hvisit', hcontains, hempty c _ hcontent]
      rfl
    have hcells' : (area'.cells.filter fun c => c ≠ f origin).filter kept =
        (area.cells.filter fun c => c ≠ origin).map f := by
      have hswap : (area'.cells.filter fun c => c ≠ f origin).filter kept =
          (area'.cells.filter kept).filter fun c => c ≠ f origin := by
        simp only [List.filter_filter, Bool.and_comm]
      rw [hswap, hkept, List.filter_map]
      refine congrArg _ (List.filter_congr fun c hc => ?_)
      simp [h.eq_iff (hcells c hc) horigin]
    rw [result_evaluateFormula_aggregate s hvisit origin hcall hg,
      result_evaluateFormula_aggregate s' hvisit' (f origin) hcall' hg', harea, harea']
    change Agree Eq (Except.map _ _) (Except.map _ _)
    rw [numbers_filter hblank, hcells']
    refine Agree.map ?_ _
    refine (agree_mapM fun c hc => ?_).map _
    have hc := hcells c (List.mem_filter.mp hc).1
    exact h.agree_referenced hvisit hvisit' hc (hagree t.nesting c hc)

end

theorem agree_evaluateContent {c : Coord} (hc : known c) {t : Trail}
    (ht : ∀ x ∈ t.cells, known x) {formula formula' : List Char → Eval Value}
    (hformula : ∀ text text', MovedFormula s s' known f text text' →
      Agree Eq ((formula text).result t) ((formula' text').result (t.relabel f))) :
    Agree Eq ((evaluateContent s c formula).result t)
      ((evaluateContent s' (f c) formula').result (t.relabel f)) := by
  by_cases hcontent : ∃ text, (s.content c).toList = '=' :: text
  · obtain ⟨text, htext⟩ := hcontent
    obtain ⟨text', htext', hmoved⟩ := h.formula c text hc htext
    have hmem : f c ∈ (t.relabel f).cells ↔ c ∈ t.cells := h.mem_map_iff ht hc
    rw [result_evaluateContent htext, result_evaluateContent htext']
    simp only [hmem]
    split
    · exact ⟨rfl, rfl⟩
    · exact hformula text text' hmoved
  · rw [not_exists] at hcontent
    have hsame := h.literal c hc hcontent
    rw [evaluateContent_literal hcontent, evaluateContent_literal (by rwa [hsame]), hsame]
    exact agree_refl _

/-- A known cell evaluates alike in both sheets, on trails through known cells. -/
theorem agree_evaluateIn (limit room : Nat) {c : Coord} (hc : known c) {t : Trail}
    (ht : ∀ x ∈ t.cells, known x) :
    Agree Eq ((evaluateIn s limit room c).result t)
      ((evaluateIn s' limit room (f c)).result (t.relabel f)) := by
  induction room generalizing c t with
  | zero => exact h.agree_evaluateContent hc ht fun _ _ _ => ⟨rfl, rfl⟩
  | succ room ih =>
    refine h.agree_evaluateContent hc ht fun text text' hmoved => ?_
    have htrail : ∀ x ∈ c :: t.cells, known x := by
      intro x hx
      rcases List.mem_cons.mp hx with rfl | hx
      · exact hc
      · exact ht x hx
    have hempty : ∀ x t', s'.content x = "" →
        (evaluateIn s' limit room x).result t' = .ok (.text "") := by
      intro x t' hx
      rw [result_evaluateIn_literal (by simp [hx]), hx]
    rw [Eval.result_absorbing, Eval.result_absorbing, Eval.result_inside, Eval.result_inside]
    exact (h.agree_evaluateFormula (balanced_evaluateIn s limit room)
      (balanced_evaluateIn s' limit room) (t := ⟨c :: t.cells, t.nesting⟩) hc hmoved hempty
      fun n x hx => ih hx htrail).absorb

/-- A known cell has the same value in both sheets. -/
theorem evaluate_eq (limit : Nat) {c : Coord} (hc : known c) :
    evaluate s' limit (f c) = evaluate s limit c := by
  have hagree := h.agree_evaluateIn limit limit hc (t := .start) (by simp [Trail.start])
  have hstart : Trail.start.relabel f = .start := rfl
  rw [hstart] at hagree
  rw [Formula.evaluate_eq, Formula.evaluate_eq]
  cases hx : (evaluateIn s limit limit c).result .start with
  | ok v =>
    cases hy : (evaluateIn s' limit limit (f c)).result .start with
    | ok v' =>
      rw [hx, hy] at hagree
      exact hagree.symm
    | error e =>
      rw [hx, hy] at hagree
      exact hagree.elim
  | error e =>
    cases hy : (evaluateIn s' limit limit (f c)).result .start with
    | ok v =>
      rw [hx, hy] at hagree
      exact hagree.elim
    | error e' =>
      rw [hx, hy] at hagree
      exact congrArg Value.mark hagree.2.symm

end Moved

end Gridbook.Formula
