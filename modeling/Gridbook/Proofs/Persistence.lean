import Gridbook.Proofs.Results

/-!
# Values do not depend on who asks

A cell that has a value on a trail has the same value on every trail with fewer cells
and less nesting, and under every higher limit. So what a formula sees of a cell is
what the cell shows, and a higher limit changes nothing but failures for want of room.
-/
namespace Gridbook.Formula

/-- The second result is the first one, unless that is one of these errors. -/
def SameUnless (P : EvalError → Prop) (x y : Except EvalError α) : Prop :=
  x = y ∨ ∃ err, P err ∧ x = .error err

namespace SameUnless

variable {P : EvalError → Prop}

theorem refl (x : Except EvalError α) : SameUnless P x x := .inl rfl

theorem error {err : EvalError} (h : P err) (y : Except EvalError α) :
    SameUnless P (.error err) y := .inr ⟨err, h, rfl⟩

/-- Results that may not fail are the same. -/
theorem eq {x y : Except EvalError α} (h : SameUnless (fun _ => False) x y) : x = y :=
  h.resolve_right fun ⟨_, hfalse, _⟩ => hfalse

theorem bind {x y : Except EvalError α} {f g : α → Except EvalError β} (h : SameUnless P x y)
    (hfg : ∀ a, SameUnless P (f a) (g a)) : SameUnless P (x >>= f) (y >>= g) := by
  rcases h with rfl | ⟨err, herr, rfl⟩
  · cases x with
    | ok a => exact hfg a
    | error err => exact refl _
  · exact error herr _

theorem map {x y : Except EvalError α} (h : SameUnless P x y) (f : α → β) :
    SameUnless P (x.map f) (y.map f) := by
  rcases h with rfl | ⟨err, herr, rfl⟩
  · exact refl _
  · exact error herr _

theorem mapM {l : List α} {f g : α → Except EvalError β} (h : ∀ a ∈ l, SameUnless P (f a) (g a)) :
    SameUnless P (l.mapM f) (l.mapM g) := by
  induction l with
  | nil => exact refl _
  | cons a l ih =>
    rw [List.mapM_cons, List.mapM_cons]
    exact (h a (by simp)).bind fun b => (ih fun c hc => h c (by simp [hc])).bind fun bs => refl _

theorem compute {f g : Coord → Except EvalError Float} (h : ∀ c, SameUnless P (f c) (g c))
    (e : Expr) : SameUnless P (e.compute f) (e.compute g) := by
  induction e with
  | number x => exact refl _
  | cell c => exact h c
  | binary left op right ihl ihr => exact ihl.bind fun a => ihr.bind fun b => refl _
  | signed sign operand ih => exact ih.bind fun a => refl _
  | group inner ih => exact ih

theorem absorb {x y : Except EvalError Value} (hP : ∀ err, P err → err.isFatal = true)
    (h : SameUnless P x y) : SameUnless P (Eval.absorb x) (Eval.absorb y) := by
  rcases h with rfl | ⟨err, herr, rfl⟩
  · exact refl _
  · rw [absorb_eq_error_iff.mpr ⟨rfl, hP err herr⟩]
    exact error herr _

end SameUnless

/--
The second trail stops evaluation only where the first one does, and where it does
not, the first one stops it with one of these errors.
-/
structure Lighter (P : EvalError → Prop) (t t' : Trail) : Prop where
  subset : t'.cells ⊆ t.cells
  circular : ∀ c ∈ t.cells, c ∉ t'.cells → P (.circular c)
  nesting_le : t'.nesting ≤ t.nesting
  tooDeep : t'.nesting < t.nesting → P (.tooDeep nestingBudget)

namespace Lighter

variable {P : EvalError → Prop} {t t' : Trail}

theorem refl (t : Trail) : Lighter P t t where
  subset := List.Subset.refl _
  circular _ hc hnot := absurd hc hnot
  nesting_le := Nat.le_refl _
  tooDeep hlt := absurd hlt (Nat.lt_irrefl _)

theorem inside (h : Lighter P t t') (c : Coord) :
    Lighter P { t with cells := c :: t.cells } { t' with cells := c :: t'.cells } where
  subset := List.cons_subset_cons c h.subset
  circular d hd hnot := by
    rw [List.mem_cons, not_or] at hnot
    exact h.circular d ((List.mem_cons.mp hd).resolve_left hnot.1) hnot.2
  nesting_le := h.nesting_le
  tooDeep := h.tooDeep

theorem nested (h : Lighter P t t') (k : Nat) :
    Lighter P { t with nesting := t.nesting + k } { t' with nesting := t'.nesting + k } where
  subset := h.subset
  circular := h.circular
  nesting_le := Nat.add_le_add_right h.nesting_le k
  tooDeep hlt := h.tooDeep (Nat.lt_of_add_lt_add_right hlt)

/-- What goes on within the budget on the first trail goes on so on the second one. -/
theorem reserve (h : Lighter P t t') (k : Nat) {x y : Except EvalError α}
    (hxy : t.nesting + k ≤ nestingBudget → SameUnless P x y) :
    SameUnless P (if nestingBudget < t.nesting + k then .error (.tooDeep nestingBudget) else x)
      (if nestingBudget < t'.nesting + k then .error (.tooDeep nestingBudget) else y) := by
  have hle := h.nesting_le
  by_cases hspent : nestingBudget < t.nesting + k
  · rw [if_pos hspent]
    by_cases hsame : t'.nesting = t.nesting
    · rw [hsame, if_pos hspent]
      exact .refl _
    · exact .error (h.tooDeep (by omega)) _
  · rw [if_neg hspent, if_neg (by omega)]
    exact hxy (Nat.le_of_not_lt hspent)

end Lighter

/-- The nesting that a formula holds while it looks at cells: its depth, if it is arithmetic. -/
def heldIn (text : List Char) : Nat :=
  match call? text, read text with
  | none, .ok e => e.depth
  | _, _ => 0

theorem heldIn_call {text : List Char} {call : Call} (h : call? text = some call) :
    heldIn text = 0 := by
  simp only [heldIn, h]

theorem heldIn_arithmetic {text : List Char} {e : Expr} (h : call? text = none)
    (hread : read text = .ok e) : heldIn text = e.depth := by
  simp only [heldIn, h, hread]

section

variable {P : EvalError → Prop} (sheet : Sheet) {visit visit' : Coord → Eval Value}
  (hvisit : ∀ c, (visit c).Balanced) (hvisit' : ∀ c, (visit' c).Balanced) (origin : Coord)
  {t t' : Trail}

include hvisit hvisit'

theorem sameUnless_referenced {c : Coord}
    (h : SameUnless P ((visit c).result t) ((visit' c).result t')) :
    SameUnless P ((referenced sheet visit c).result t) ((referenced sheet visit' c).result t') := by
  rw [result_referenced sheet hvisit, result_referenced sheet hvisit']
  split
  · exact h.map _
  · exact .refl _

theorem sameUnless_numberAt {c : Coord}
    (h : SameUnless P ((referenced sheet visit c).result t)
      ((referenced sheet visit' c).result t')) :
    SameUnless P ((numberAt sheet visit origin c).result t)
      ((numberAt sheet visit' origin c).result t') := by
  rw [result_numberAt sheet hvisit, result_numberAt sheet hvisit']
  split
  · exact .refl _
  · exact h.map _

theorem sameUnless_gather (range : List Char)
    (h : ∀ c, SameUnless P ((referenced sheet visit c).result t)
      ((referenced sheet visit' c).result t')) :
    SameUnless P ((gather sheet visit origin range).result t)
      ((gather sheet visit' origin range).result t') := by
  rw [result_gather sheet hvisit, result_gather sheet hvisit']
  exact (SameUnless.refl _).bind fun area => .mapM fun c _ => h c

theorem sameUnless_argumentValue (argument : List Char)
    (h : ∀ c, SameUnless P ((referenced sheet visit c).result t)
      ((referenced sheet visit' c).result t')) :
    SameUnless P ((argumentValue sheet visit origin argument).result t)
      ((argumentValue sheet visit' origin argument).result t') := by
  unfold argumentValue
  split
  · rw [Eval.result_bind (balanced_gather sheet hvisit origin argument),
      Eval.result_bind (balanced_gather sheet hvisit' origin argument)]
    exact (sameUnless_gather sheet hvisit hvisit' origin argument h).bind fun _ => .refl _
  · split
    · split
      · exact .refl _
      · split
        · exact .refl _
        · exact h _
    · exact .refl _

/--
A formula gives the same result if it sees the same of all other cells, up to errors
with which the first evaluation may stop earlier. It looks at them with what it holds set
aside, and if that is arithmetic, then within the budget.
-/
theorem sameUnless_evaluateFormula_held (text : List Char) (htrail : Lighter P t t')
    (h : (call? text = none → t.nesting + heldIn text ≤ nestingBudget) → ∀ c, SameUnless P
      ((referenced sheet visit c).result { t with nesting := t.nesting + heldIn text })
      ((referenced sheet visit' c).result { t' with nesting := t'.nesting + heldIn text })) :
    SameUnless P ((evaluateFormula sheet visit origin text).result t)
      ((evaluateFormula sheet visit' origin text).result t') := by
  cases hcall : call? text with
  | none =>
    simp only [evaluateFormula, hcall]
    rw [result_evaluateArithmetic sheet hvisit, result_evaluateArithmetic sheet hvisit']
    refine htrail.reserve _ fun _ => ?_
    cases hread : read text with
    | error r => exact .refl _
    | ok e =>
      rw [heldIn_arithmetic hcall hread] at h
      refine htrail.reserve _ fun hwithin => ?_
      refine (SameUnless.compute (fun c => ?_) e).bind fun x => .refl _
      exact sameUnless_numberAt sheet hvisit hvisit' origin (h (fun _ => hwithin) c)
  | some call =>
    have hreferenced : ∀ c, SameUnless P ((referenced sheet visit c).result t)
        ((referenced sheet visit' c).result t') := by
      rw [heldIn_call hcall] at h
      exact h fun hnone => absurd (hcall.symm.trans hnone) (Option.some_ne_none call)
    cases haggregate : Aggregate.ofName? call.name with
    | some f =>
      rw [result_evaluateFormula_aggregate sheet hvisit origin hcall haggregate,
        result_evaluateFormula_aggregate sheet hvisit' origin hcall haggregate]
      refine (SameUnless.refl _).bind fun area => ?_
      exact ((SameUnless.mapM fun c _ => hreferenced c).map _).map _
    | none =>
      cases hf : TextFunction.ofName? call.name with
      | some f =>
        rw [result_evaluateFormula_textFunction sheet hvisit origin hcall haggregate hf,
          result_evaluateFormula_textFunction sheet hvisit' origin hcall haggregate hf]
        refine (SameUnless.mapM fun argument _ => ?_).bind fun values => .refl _
        exact sameUnless_argumentValue sheet hvisit hvisit' origin argument hreferenced
      | none =>
        simp only [evaluateFormula, hcall, haggregate, hf]
        exact .refl _

/-- It does not matter how much is set aside if all of them are seen the same with any of it. -/
theorem sameUnless_evaluateFormula (text : List Char) (htrail : Lighter P t t')
    (h : ∀ c k, SameUnless P
      ((referenced sheet visit c).result { t with nesting := t.nesting + k })
      ((referenced sheet visit' c).result { t' with nesting := t'.nesting + k })) :
    SameUnless P ((evaluateFormula sheet visit origin text).result t)
      ((evaluateFormula sheet visit' origin text).result t') :=
  sameUnless_evaluateFormula_held sheet hvisit hvisit' origin text htrail fun _ c => h c _

end

section

variable {P : EvalError → Prop} (sheet : Sheet) {limit : Nat} (limit' : Nat) {room room' : Nat}
  (c : Coord) {t t' : Trail}

/-- Literals need no room, and a cell that is met again fails whatever room there is. -/
theorem sameUnless_of_new (htrail : Lighter P t t')
    (hnew : ∀ text, (sheet.content c).toList = '=' :: text → c ∉ t.cells → c ∉ t'.cells →
      SameUnless P ((evaluateIn sheet limit room c).result t)
        ((evaluateIn sheet limit' room' c).result t')) :
    SameUnless P ((evaluateIn sheet limit room c).result t)
      ((evaluateIn sheet limit' room' c).result t') := by
  by_cases hcontent : ∃ text, (sheet.content c).toList = '=' :: text
  · obtain ⟨text, htext⟩ := hcontent
    by_cases hmem : c ∈ t.cells
    · rw [result_evaluateIn_of_mem htext hmem]
      by_cases hmem' : c ∈ t'.cells
      · rw [result_evaluateIn_of_mem htext hmem']
        exact .refl _
      · exact .error (htrail.circular c hmem hmem') _
    · exact hnew text htext hmem fun hmem' => hmem (htrail.subset hmem')
  · rw [result_evaluateIn_literal (not_exists.mp hcontent),
      result_evaluateIn_literal (not_exists.mp hcontent)]
    exact .refl _

/-- On a lighter trail and with more room a cell evaluates as before, unless it failed before. -/
theorem sameUnless_evaluateIn (hP : ∀ err, P err → err.isFatal = true)
    (hlimit : P (.tooDeep limit)) (hroom : room ≤ room') (htrail : Lighter P t t') :
    SameUnless P ((evaluateIn sheet limit room c).result t)
      ((evaluateIn sheet limit' room' c).result t') := by
  induction room generalizing room' c t t' with
  | zero =>
    refine sameUnless_of_new sheet limit' c htrail fun text htext hmem _ => ?_
    rw [evaluateIn, result_evaluateContent htext, if_neg hmem]
    exact .error hlimit _
  | succ room ih =>
    obtain ⟨more, rfl⟩ : ∃ more, room' = more + 1 := ⟨room' - 1, by omega⟩
    refine sameUnless_of_new sheet limit' c htrail fun text htext hmem hmem' => ?_
    rw [result_evaluateIn_succ htext, if_neg hmem, result_evaluateIn_succ htext, if_neg hmem']
    refine SameUnless.absorb hP ?_
    refine sameUnless_evaluateFormula sheet (balanced_evaluateIn sheet limit room)
      (balanced_evaluateIn sheet limit' more) c text (htrail.inside c) fun d k => ?_
    exact sameUnless_referenced sheet (balanced_evaluateIn sheet limit room)
      (balanced_evaluateIn sheet limit' more) (ih d (by omega) ((htrail.inside c).nested k))

end

/-- A trail with some cells left out and no more nesting is lighter, up to fatal errors. -/
theorem lighter_of_sublist {t t' : Trail} (hcells : t'.cells.Sublist t.cells)
    (hnesting : t'.nesting ≤ t.nesting) : Lighter (fun err => err.isFatal = true) t t' where
  subset := hcells.subset
  circular _ _ _ := rfl
  nesting_le := hnesting
  tooDeep _ := rfl

section

variable (sheet : Sheet) (limit : Nat)

theorem result_evaluateOn (c : Coord) (t : Trail) : (evaluateOn sheet limit c).result t =
    (evaluateIn sheet limit (limit - t.cells.length) c).result t := by
  rw [evaluateOn, Eval.result_bind Eval.balanced_get]
  rfl

theorem balanced_evaluateOn (c : Coord) : (evaluateOn sheet limit c).Balanced :=
  Eval.balanced_get.bind fun _ => balanced_evaluateIn sheet limit _ c

variable {sheet limit}

/-- A value that is found on a trail is found on lighter trails and under higher limits. -/
theorem evaluateOn_of_lighter {limit' : Nat} (hlimit : limit ≤ limit') {c : Coord} {t t' : Trail}
    (hcells : t'.cells.Sublist t.cells) (hnesting : t'.nesting ≤ t.nesting) {v : Value}
    (h : (evaluateOn sheet limit c).result t = .ok v) :
    (evaluateOn sheet limit' c).result t' = .ok v := by
  have hlength := hcells.length_le
  rw [result_evaluateOn] at h ⊢
  have hroom : limit - t.cells.length ≤ limit' - t'.cells.length := by omega
  rcases sameUnless_evaluateIn sheet limit' c (fun _ herr => herr) rfl hroom
    (lighter_of_sublist hcells hnesting) with hsame | ⟨err, -, herr⟩
  · rw [← hsame, h]
  · rw [h] at herr
    cases herr

theorem evaluate_eq_shownValue (c : Coord) :
    evaluate sheet limit c = shownValue ((evaluateOn sheet limit c).result .start) := rfl

/-- Wherever a cell has a value, it is the value that the cell shows. -/
theorem evaluate_of_evaluateOn {c : Coord} {t : Trail} {v : Value}
    (h : (evaluateOn sheet limit c).result t = .ok v) : evaluate sheet limit c = v := by
  have hstart : (evaluateOn sheet limit c).result .start = .ok v :=
    evaluateOn_of_lighter (Nat.le_refl limit) (List.nil_sublist _) (Nat.zero_le _) h
  rw [evaluate_eq_shownValue, hstart]
  rfl

/-- A formula sees of a cell what the cell shows, or fails as the cell does. -/
theorem referenced_eq_ok {r : Coord} {t : Trail} {w : Value}
    (h : (referenced sheet (evaluateOn sheet limit) r).result t = .ok w) :
    w = .text (displayed sheet limit r) := by
  rw [result_referenced sheet (balanced_evaluateOn sheet limit)] at h
  split at h
  · cases hr : (evaluateOn sheet limit r).result t with
    | ok v =>
      rw [hr] at h
      rw [displayed, evaluate_of_evaluateOn hr]
      exact (Except.ok.inj h).symm
    | error err =>
      rw [hr] at h
      cases h
  · cases h

/-- Every cell has the text that it shows as its value. -/
def visitDisplayed (sheet : Sheet) (limit : Nat) (r : Coord) : Eval Value :=
  return .text (displayed sheet limit r)

variable (sheet limit) in
/-- A formula gives what it would give if it saw of every cell what the cell shows. -/
theorem sameUnless_displayed (c : Coord) (text : List Char) (t : Trail) :
    SameUnless (fun err => err.isFatal = true)
      ((evaluateFormula sheet (evaluateOn sheet limit) c text).result t)
      ((evaluateFormula sheet (visitDisplayed sheet limit) c text).result t) := by
  have hshown : ∀ r, (visitDisplayed sheet limit r).Balanced := fun r => Eval.balanced_pure _
  refine sameUnless_evaluateFormula sheet (balanced_evaluateOn sheet limit) hshown c text
    (.refl t) fun r k => ?_
  rw [result_referenced sheet (balanced_evaluateOn sheet limit), result_referenced sheet hshown]
  split
  · cases hr : (evaluateOn sheet limit r).result { t with nesting := t.nesting + k } with
    | ok v =>
      refine .inl ?_
      have hv := evaluate_of_evaluateOn hr
      simp only [visitDisplayed, displayed, hv, Eval.result_pure, Except.map, Value.display]
    | error err =>
      rw [result_evaluateOn] at hr
      exact .error (isFatal_of_evaluateIn hr) _
  · exact .refl _

/-- The formula of a cell is evaluated where the trail has room for the cell and not the cell. -/
theorem result_evaluateOn_formula {c : Coord} {text : List Char} {t : Trail}
    (htext : (sheet.content c).toList = '=' :: text) :
    (evaluateOn sheet limit c).result t =
      if c ∈ t.cells then .error (.circular c)
      else if limit ≤ t.cells.length then .error (.tooDeep limit)
      else Eval.absorb ((evaluateFormula sheet (evaluateOn sheet limit) c text).result
        { t with cells := c :: t.cells }) := by
  rw [result_evaluateOn]
  split
  · rename_i hmem
    exact result_evaluateIn_of_mem htext hmem limit _
  · rename_i hmem
    split
    · rename_i hfull
      rw [Nat.sub_eq_zero_of_le hfull, evaluateIn, result_evaluateContent htext, if_neg hmem]
      rfl
    · rename_i hroom
      obtain ⟨room, hlimit⟩ : ∃ room, limit = t.cells.length + 1 + room :=
        ⟨limit - (t.cells.length + 1), by omega⟩
      have hleft : limit - t.cells.length = room + 1 := by omega
      have hbelow : limit - (c :: t.cells).length = room := by simp; omega
      rw [hleft, result_evaluateIn_succ htext, if_neg hmem]
      refine congrArg _ ?_
      refine (sameUnless_evaluateFormula (P := fun _ => False) sheet
        (balanced_evaluateIn sheet limit room) (balanced_evaluateOn sheet limit) c text
        (.refl _) fun r k => ?_).eq
      refine sameUnless_referenced sheet (balanced_evaluateIn sheet limit room)
        (balanced_evaluateOn sheet limit) (.inl ?_)
      rw [result_evaluateOn, hbelow]

/-- A cell with a value has it from a formula that sees of every cell what the cell shows. -/
theorem exists_displayed_result {c : Coord} {text : List Char} {t : Trail} {v : Value}
    (htext : (sheet.content c).toList = '=' :: text)
    (h : (evaluateOn sheet limit c).result t = .ok v) :
    ∃ x, (evaluateFormula sheet (evaluateOn sheet limit) c text).result
        { t with cells := c :: t.cells } = x ∧
      (evaluateFormula sheet (visitDisplayed sheet limit) c text).result
        { t with cells := c :: t.cells } = x ∧ Eval.absorb x = .ok v := by
  rw [result_evaluateOn_formula htext] at h
  split at h
  · cases h
  · split at h
    · cases h
    · rcases sameUnless_displayed sheet limit c text { t with cells := c :: t.cells } with
        hsame | ⟨err, hfatal, herr⟩
      · exact ⟨_, rfl, hsame.symm, h⟩
      · rw [absorb_eq_error_iff.mpr ⟨herr, hfatal⟩] at h
        cases h

/-- A higher limit makes a difference only where there was no room. -/
theorem tooDeep_of_evaluate_ne {limit' : Nat} (hlimit : limit ≤ limit') {c : Coord}
    (hne : evaluate sheet limit' c ≠ evaluate sheet limit c) :
    (evaluateOn sheet limit c).result .start = .error (.tooDeep limit) ∧
      ∃ v, (evaluateOn sheet limit' c).result .start = .ok v := by
  have hraised : SameUnless (· = .tooDeep limit) ((evaluateOn sheet limit c).result .start)
      ((evaluateOn sheet limit' c).result .start) :=
    sameUnless_evaluateIn sheet limit' c (fun err herr => herr ▸ rfl) rfl hlimit (.refl .start)
  rcases hraised with hsame | ⟨err, rfl, herr⟩
  · exact absurd (congrArg shownValue hsame.symm) hne
  · refine ⟨herr, ?_⟩
    cases hv : (evaluateOn sheet limit' c).result .start with
    | ok v => exact ⟨v, rfl⟩
    | error err =>
      have hmark : err.mark = .error := mark_of_isFatal (isFatal_of_evaluateIn hv)
      refine absurd ?_ hne
      rw [evaluate_eq_shownValue, evaluate_eq_shownValue, hv, herr]
      exact congrArg Value.mark hmark

end

/--
A value does not depend on who asks for it or on how much room is left: it stays the
same on a trail with some cells left out and no more nesting, and under a higher
limit. A formula that does not fail fatally gives what it gives when it sees of every
cell the text that the cell shows, and such a text is all that it ever sees. A higher
limit changes what a cell shows only from a failure for want of room to a value.
-/
theorem evaluateOn_independent {sheet : Sheet} {limit limit' : Nat} (hlimit : limit ≤ limit')
    {t t' : Trail} (hcells : t'.cells.Sublist t.cells) (hnesting : t'.nesting ≤ t.nesting)
    (c : Coord) :
    (∀ v, (evaluateOn sheet limit c).result t = .ok v →
      (evaluateOn sheet limit' c).result t' = .ok v) ∧
    (∀ text v, (sheet.content c).toList = '=' :: text →
      (evaluateOn sheet limit c).result t = .ok v →
      ∃ x, (evaluateFormula sheet (evaluateOn sheet limit) c text).result
          { t with cells := c :: t.cells } = x ∧
        (evaluateFormula sheet (visitDisplayed sheet limit) c text).result
          { t with cells := c :: t.cells } = x ∧ Eval.absorb x = .ok v) ∧
    (∀ w, (referenced sheet (evaluateOn sheet limit) c).result t = .ok w →
      w = .text (displayed sheet limit c)) ∧
    (evaluate sheet limit' c ≠ evaluate sheet limit c →
      (evaluateOn sheet limit c).result .start = .error (.tooDeep limit) ∧
        ∃ v, (evaluateOn sheet limit' c).result .start = .ok v) :=
  ⟨fun _ => evaluateOn_of_lighter hlimit hcells hnesting,
    fun _ _ => exists_displayed_result, fun _ => referenced_eq_ok, tooDeep_of_evaluate_ne hlimit⟩

/-- Three formulas, of which each refers to the next one. -/
def staircase : Sheet :=
  ((((Sheet.ofSize 2 4).setContent ⟨0, 0⟩ "=B1+1").setContent ⟨0, 1⟩ "=(C1)*2").setContent
    ⟨0, 2⟩ "=SUM(D1:D2)").setContent ⟨0, 3⟩ "5"

theorem evaluateOn_independent_staircase : [⟨1, 0⟩].Sublist [(⟨1, 1⟩ : Coord), ⟨1, 0⟩] ∧
    (∃ v, (evaluateOn staircase 5 ⟨0, 0⟩).result ⟨[⟨1, 1⟩, ⟨1, 0⟩], 7⟩ = .ok v ∧
      v.display = "11" ∧ (evaluateOn staircase 9 ⟨0, 0⟩).result ⟨[⟨1, 0⟩], 4⟩ = .ok v) ∧
    evaluate staircase 9 ⟨0, 0⟩ ≠ evaluate staircase 2 ⟨0, 0⟩ ∧
    (evaluateOn staircase 2 ⟨0, 0⟩).result .start = .error (.tooDeep 2) ∧
    ∃ v, (evaluateOn staircase 9 ⟨0, 0⟩).result .start = .ok v := by
  have hcells : [⟨1, 0⟩].Sublist [(⟨1, 1⟩ : Coord), ⟨1, 0⟩] := by simp
  have hne : evaluate staircase 9 ⟨0, 0⟩ ≠ evaluate staircase 2 ⟨0, 0⟩ := fun h =>
    absurd (congrArg Value.display h) (by decide +kernel)
  have hvalue {x : Except EvalError Value} {shown : String}
      (h : x.toOption.map Value.display = some shown) : ∃ v, x = .ok v ∧ v.display = shown := by
    cases x with
    | error err => cases h
    | ok v => exact ⟨v, rfl, Option.some.inj h⟩
  have hshown : ((evaluateOn staircase 5 ⟨0, 0⟩).result ⟨[⟨1, 1⟩, ⟨1, 0⟩], 7⟩).toOption.map
      Value.display = some "11" := by decide +kernel
  obtain ⟨v, hv, hdisplay⟩ := hvalue hshown
  obtain ⟨hkept, -⟩ := @evaluateOn_independent staircase 5 9 (by decide)
    ⟨[⟨1, 1⟩, ⟨1, 0⟩], 7⟩ ⟨[⟨1, 0⟩], 4⟩ hcells (by decide) ⟨0, 0⟩
  obtain ⟨-, -, -, hraised⟩ := @evaluateOn_independent staircase 2 9 (by decide)
    ⟨[⟨1, 1⟩, ⟨1, 0⟩], 7⟩ ⟨[⟨1, 0⟩], 4⟩ hcells (by decide) ⟨0, 0⟩
  exact ⟨hcells, ⟨v, hv, hdisplay, hkept v hv⟩, hne, hraised hne⟩

end Gridbook.Formula
