import Gridbook.Proofs.Balance

/-!
# Results of evaluation

Evaluation is balanced on every sheet, whatever its formulas are, so it is known by
its results. There is one equation for each function of the evaluator; arithmetic
is evaluated there by the plain recursion over the tree.
-/
namespace Gridbook.Formula

theorem mapM_congr {m : Type → Type} [Monad m] [LawfulMonad m] {α β : Type} {l : List α}
    {f g : α → m β} (h : ∀ a ∈ l, f a = g a) : l.mapM f = l.mapM g := by
  induction l with
  | nil => rfl
  | cons a l ih =>
    rw [List.mapM_cons, List.mapM_cons, h a (by simp), ih fun b hb => h b (by simp [hb])]

namespace Expr

section

variable {m : Type → Type} [Monad m]

/-- The plain recursion: the left operand, the right operand and then the operator. -/
def compute (read : Coord → m Float) : Expr → m Float
  | number x => pure x
  | cell c => read c
  | binary l op r => do
    let a ← compute read l
    let b ← compute read r
    return op.apply a b
  | signed s e => do return s.apply (← compute read e)
  | group e => compute read e

variable [LawfulMonad m]

/-- The loop computes the tree and goes on with the operands that are held back. -/
theorem evalWith_eq (read : Coord → m Float) (e : Expr) (held : List (Float → m Float)) :
    evalWith read e held = compute read e >>= resume held := by
  induction e generalizing held with
  | number x => simp [evalWith, compute]
  | cell c => rfl
  | binary l op r ihl ihr =>
    have hright : evalWith read r [] = compute read r := by
      rw [ihr]
      exact bind_pure (compute read r)
    simp [evalWith, ihl, hright, compute, resume]
  | signed s e ih =>
    have he : evalWith read e [] = compute read e := by
      rw [ih]
      exact bind_pure (compute read e)
    simp [evalWith, he, compute]
  | group e ih =>
    have he : evalWith read e [] = compute read e := by
      rw [ih]
      exact bind_pure (compute read e)
    simp [evalWith, he, compute]

/-- The loop over left operands computes what the plain recursion computes. -/
theorem eval_eq_compute (read : Coord → m Float) (e : Expr) : e.eval read = e.compute read := by
  rw [eval, evalWith_eq]
  exact bind_pure (compute read e)

end

theorem balanced_compute {read : Coord → Eval Float} (h : ∀ c, (read c).Balanced) (e : Expr) :
    (e.compute read).Balanced := by
  induction e with
  | number x => exact Eval.balanced_pure x
  | cell c => exact h c
  | binary l op r ihl ihr =>
    exact ihl.bind fun a => ihr.bind fun b => Eval.balanced_pure _
  | signed s e ih => exact ih.bind fun a => Eval.balanced_pure _
  | group e ih => exact ih

theorem result_compute {read : Coord → Eval Float} (h : ∀ c, (read c).Balanced) (e : Expr)
    (t : Trail) : (e.compute read).result t = e.compute fun c => (read c).result t := by
  induction e with
  | number x => rfl
  | cell c => rfl
  | binary l op r ihl ihr =>
    simp only [compute, Eval.result_bind (balanced_compute h l),
      Eval.result_bind (balanced_compute h r), ihl, ihr]
    rfl
  | signed s e ih =>
    simp only [compute, Eval.result_bind (balanced_compute h e), ih]
    rfl
  | group e ih => exact ih

end Expr

/-- What arithmetic makes of the number that a tree computes. -/
def finiteNumber (x : Float) : Except EvalError Value :=
  if x.isFinite then .ok (.number x) else .error .notFinite

/-- The numbers of some cells. -/
def numbers (g : Coord → Except EvalError Value) (l : List Coord) : Except EvalError (List Float) :=
  (l.mapM g).map fun values => values.filterMap Value.number?

theorem numbers_cons (g : Coord → Except EvalError Value) (c : Coord) (l : List Coord) :
    numbers g (c :: l) = g c >>= fun v => (numbers g l).map fun xs => v.number?.toList ++ xs := by
  simp only [numbers, List.mapM_cons]
  cases g c with
  | error e => rfl
  | ok v =>
    cases l.mapM g with
    | error e => rfl
    | ok vs =>
      cases hv : v.number? <;> simp [Except.map, hv, bind, Except.bind, pure, Except.pure]

/-- Empty cells may be left out. -/
theorem numbers_filter {g : Coord → Except EvalError Value} {p : Coord → Bool} {l : List Coord}
    (h : ∀ c ∈ l, p c = false → g c = .ok (.text "")) : numbers g l = numbers g (l.filter p) := by
  induction l with
  | nil => rfl
  | cons c l ih =>
    have ih := ih fun d hd => h d (by simp [hd])
    cases hp : p c with
    | true => rw [List.filter_cons_of_pos hp, numbers_cons, numbers_cons, ih]
    | false =>
      have hnone : (Value.text "").number? = none := rfl
      rw [List.filter_cons_of_neg (by simp [hp]), numbers_cons, h c (by simp) hp, ih]
      cases hrest : numbers g (l.filter p) with
      | error e => rfl
      | ok xs => simp [bind, Except.bind, hnone, Except.map]

section

variable (sheet : Sheet) {visit : Coord → Eval Value} (hvisit : ∀ c, (visit c).Balanced)
  (origin : Coord)

include hvisit

theorem balanced_referenced (c : Coord) : (referenced sheet visit c).Balanced := by
  unfold referenced
  split
  · exact (hvisit c).bind fun v => Eval.balanced_pure _
  · exact Eval.balanced_throw _

theorem result_referenced (c : Coord) (t : Trail) :
    (referenced sheet visit c).result t =
      if sheet.contains c then ((visit c).result t).map fun v => .text v.display
      else .error (.outside c) := by
  unfold referenced
  split
  · rw [Eval.result_bind (hvisit c)]
    cases (visit c).result t <;> rfl
  · rfl

theorem balanced_numberAt (c : Coord) : (numberAt sheet visit origin c).Balanced := by
  unfold numberAt
  split
  · exact Eval.balanced_pure _
  · exact (balanced_referenced sheet hvisit c).bind fun v => Eval.balanced_pure _

theorem result_numberAt (c : Coord) (t : Trail) :
    (numberAt sheet visit origin c).result t =
      if c = origin then .ok 0
      else ((referenced sheet visit c).result t).map fun v => v.number?.getD 0 := by
  unfold numberAt
  split
  · rfl
  · rw [Eval.result_bind (balanced_referenced sheet hvisit c)]
    cases (referenced sheet visit c).result t <;> rfl

theorem balanced_evaluateArithmetic (text : List Char) :
    (evaluateArithmetic sheet visit origin text).Balanced := by
  unfold evaluateArithmetic
  refine Eval.balanced_get.bind fun t => ?_
  change Eval.Balanced (if nestingBudget < t.nesting + nesting text then _ else _)
  split
  · exact fun _ => rfl
  · cases read text with
    | error r => exact Eval.balanced_throw _
    | ok e =>
      simp only [Expr.eval_eq_compute]
      refine Eval.Balanced.bind ?_ fun x => ?_
      · exact (Expr.balanced_compute (balanced_numberAt sheet hvisit origin) e).reserving _
      · split
        · exact Eval.balanced_pure _
        · exact Eval.balanced_throw _

theorem result_evaluateArithmetic (text : List Char) (t : Trail) :
    (evaluateArithmetic sheet visit origin text).result t =
      if nestingBudget < t.nesting + nesting text then .error (.tooDeep nestingBudget)
      else
        match read text with
        | .error r => .error (.refused r)
        | .ok e =>
          if nestingBudget < t.nesting + e.depth then .error (.tooDeep nestingBudget)
          else
            e.compute (fun c =>
              (numberAt sheet visit origin c).result { t with nesting := t.nesting + e.depth })
            >>= finiteNumber := by
  have hnumber := balanced_numberAt sheet hvisit origin
  unfold evaluateArithmetic
  rw [Eval.result_bind Eval.balanced_get, Eval.result_get]
  change Eval.result (if nestingBudget < t.nesting + nesting text then _ else _) t = _
  split
  · rfl
  · cases read text with
    | error r => rfl
    | ok e =>
      have hcompute := Expr.balanced_compute hnumber e
      simp only [Expr.eval_eq_compute]
      rw [Eval.result_bind (hcompute.reserving _), Eval.result_reserving]
      split
      · rfl
      · rw [Expr.result_compute hnumber]
        congr
        funext x
        unfold finiteNumber
        split <;> rfl

theorem balanced_gather (range : List Char) : (gather sheet visit origin range).Balanced :=
  (Eval.balanced_lift _).bind fun _ =>
    Eval.Balanced.mapM fun c _ => balanced_referenced sheet hvisit c

theorem result_gather (range : List Char) (t : Trail) :
    (gather sheet visit origin range).result t = areaOf sheet range >>= fun area =>
      (area.cells.filter fun c => c ≠ origin).mapM fun c =>
        (referenced sheet visit c).result t := by
  rw [gather, Eval.result_bind (Eval.balanced_lift _), Eval.result_lift]
  congr
  funext area
  exact Eval.result_mapM (fun c _ => balanced_referenced sheet hvisit c) t

theorem balanced_argumentValue (text : List Char) :
    (argumentValue sheet visit origin text).Balanced := by
  unfold argumentValue
  split
  · exact (balanced_gather sheet hvisit origin text).bind fun _ => Eval.balanced_pure _
  · split
    · split
      · exact Eval.balanced_throw _
      · split
        · exact Eval.balanced_pure _
        · exact balanced_referenced sheet hvisit _
    · exact Eval.balanced_pure _

theorem balanced_evaluateFormula (text : List Char) :
    (evaluateFormula sheet visit origin text).Balanced := by
  unfold evaluateFormula
  split
  · exact balanced_evaluateArithmetic sheet hvisit origin text
  · split
    · exact (balanced_gather sheet hvisit origin _).bind fun _ => Eval.balanced_pure _
    · split
      · refine Eval.Balanced.bind ?_ fun values => Eval.balanced_lift _
        exact Eval.Balanced.mapM fun c _ => balanced_argumentValue sheet hvisit origin c
      · exact Eval.balanced_throw _

/-- The value of an aggregate is made of the numbers in its range. -/
theorem result_evaluateFormula_aggregate {text : List Char} {call : Call} {f : Aggregate}
    (hcall : call? text = some call) (hf : Aggregate.ofName? call.name = some f) (t : Trail) :
    (evaluateFormula sheet visit origin text).result t =
      areaOf sheet (Text.trim call.arguments) >>= fun area =>
        (numbers (fun c => (referenced sheet visit c).result t)
          (area.cells.filter fun c => c ≠ origin)).map fun xs => .number (f.apply xs) := by
  have h : evaluateFormula sheet visit origin text =
      gather sheet visit origin (Text.trim call.arguments) >>= fun values =>
        pure (.number (f.apply (values.filterMap Value.number?))) := by
    simp only [evaluateFormula, hcall, hf]
  rw [h, Eval.result_bind (balanced_gather sheet hvisit origin _), result_gather sheet hvisit]
  cases areaOf sheet (Text.trim call.arguments) with
  | error e => rfl
  | ok area =>
    simp only [numbers, bind, Except.bind]
    cases (area.cells.filter fun c => c ≠ origin).mapM fun c =>
      (referenced sheet visit c).result t <;> rfl

/-- The value of a text function is made of the values of its arguments. -/
theorem result_evaluateFormula_textFunction {text : List Char} {call : Call} {f : TextFunction}
    (hcall : call? text = some call) (haggregate : Aggregate.ofName? call.name = none)
    (hf : TextFunction.ofName? call.name = some f) (t : Trail) :
    (evaluateFormula sheet visit origin text).result t =
      ((cutArguments call.arguments).mapM fun argument =>
        (argumentValue sheet visit origin argument).result t) >>= f.apply := by
  have hbalanced : ∀ argument ∈ cutArguments call.arguments,
      (argumentValue sheet visit origin argument).Balanced :=
    fun argument _ => balanced_argumentValue sheet hvisit origin argument
  have h : evaluateFormula sheet visit origin text =
      (cutArguments call.arguments).mapM (argumentValue sheet visit origin) >>= fun values =>
        ExceptT.mk (pure (f.apply values)) := by
    simp only [evaluateFormula, hcall, haggregate, hf]
  rw [h, Eval.result_bind (Eval.Balanced.mapM hbalanced), Eval.result_mapM hbalanced]
  rfl

end

theorem evaluateContent_literal {sheet : Sheet} {c : Coord}
    (h : ∀ text, (sheet.content c).toList ≠ '=' :: text) (formula : List Char → Eval Value) :
    evaluateContent sheet c formula = pure (.text (sheet.content c)) := by
  unfold evaluateContent
  split
  · rename_i text htext
    exact absurd htext (h text)
  · rfl

theorem balanced_evaluateContent (sheet : Sheet) (c : Coord) {formula : List Char → Eval Value}
    (h : ∀ text, (formula text).Balanced) : (evaluateContent sheet c formula).Balanced := by
  unfold evaluateContent
  split
  · refine Eval.balanced_get.bind fun t => ?_
    split
    · exact fun _ => rfl
    · exact h _
  · exact Eval.balanced_pure _

/-- The formula of a cell is evaluated where the cell is not on the trail yet. -/
theorem result_evaluateContent {sheet : Sheet} {c : Coord} {text : List Char}
    (h : (sheet.content c).toList = '=' :: text) (formula : List Char → Eval Value) (t : Trail) :
    (evaluateContent sheet c formula).result t =
      if c ∈ t.cells then .error (.circular c) else (formula text).result t := by
  simp only [evaluateContent, h]
  rw [Eval.result_bind Eval.balanced_get, Eval.result_get]
  change Eval.result (if t.cells.contains c = true then _ else _) t = _
  simp only [List.contains_iff_mem]
  split <;> rfl

/-- Evaluation leaves the trail as it was, whether it ends with a value or an error. -/
theorem balanced_evaluateIn (sheet : Sheet) (limit room : Nat) (c : Coord) :
    (evaluateIn sheet limit room c).Balanced := by
  induction room generalizing c with
  | zero => exact balanced_evaluateContent sheet c fun _ => Eval.balanced_throw _
  | succ room ih =>
    refine balanced_evaluateContent sheet c fun text => ?_
    exact ((balanced_evaluateFormula sheet ih c text).inside c).absorbing

/-- What is no formula evaluates to itself on every trail. -/
theorem result_evaluateIn_literal {sheet : Sheet} {limit room : Nat} {c : Coord}
    (h : ∀ text, (sheet.content c).toList ≠ '=' :: text) (t : Trail) :
    (evaluateIn sheet limit room c).result t = .ok (.text (sheet.content c)) := by
  cases room <;> rw [evaluateIn, evaluateContent_literal h, Eval.result_pure]

/-- The formula of a cell is evaluated with the cell on the trail. -/
theorem result_evaluateIn_succ {sheet : Sheet} {c : Coord} {text : List Char}
    (h : (sheet.content c).toList = '=' :: text) (limit room : Nat) (t : Trail) :
    (evaluateIn sheet limit (room + 1) c).result t =
      if c ∈ t.cells then .error (.circular c)
      else Eval.absorb ((evaluateFormula sheet (evaluateIn sheet limit room) c text).result
        { t with cells := c :: t.cells }) := by
  rw [evaluateIn, result_evaluateContent h, Eval.result_absorbing, Eval.result_inside]

/-- A cell with a formula that is on the trail already is met again. -/
theorem result_evaluateIn_of_mem {sheet : Sheet} {c : Coord} {text : List Char}
    (h : (sheet.content c).toList = '=' :: text) {t : Trail} (hmem : c ∈ t.cells)
    (limit room : Nat) :
    (evaluateIn sheet limit room c).result t = .error (.circular c) := by
  cases room <;> rw [evaluateIn, result_evaluateContent h, if_pos hmem]

theorem absorb_eq_error_iff {r : Except EvalError Value} {err : EvalError} :
    Eval.absorb r = .error err ↔ r = .error err ∧ err.isFatal = true := by
  cases r with
  | ok v => simp [Eval.absorb]
  | error e =>
    rw [Eval.absorb]
    split
    · rename_i hfatal
      simp only [Except.error.injEq, iff_self_and]
      rintro rfl
      exact hfatal
    · rename_i hfatal
      simp only [reduceCtorEq, Except.error.injEq, false_iff, not_and]
      rintro rfl
      exact hfatal

/-- Why a cell fails: it is on the trail, there is no room for it, or its formula fails. -/
theorem evaluateIn_eq_error {sheet : Sheet} {limit room : Nat} {c : Coord} {t : Trail}
    {err : EvalError} (h : (evaluateIn sheet limit room c).result t = .error err) :
    c ∈ t.cells ∧ err = .circular c ∨ room = 0 ∧ err = .tooDeep limit ∨
      ∃ below text, room = below + 1 ∧ (sheet.content c).toList = '=' :: text ∧ c ∉ t.cells ∧
        (evaluateFormula sheet (evaluateIn sheet limit below) c text).result
          { t with cells := c :: t.cells } = .error err ∧ err.isFatal = true := by
  by_cases hcontent : ∃ text, (sheet.content c).toList = '=' :: text
  · obtain ⟨text, htext⟩ := hcontent
    by_cases hmem : c ∈ t.cells
    · rw [result_evaluateIn_of_mem htext hmem] at h
      exact .inl ⟨hmem, (Except.error.inj h).symm⟩
    · cases room with
      | zero =>
        rw [evaluateIn, result_evaluateContent htext, if_neg hmem] at h
        exact .inr (.inl ⟨rfl, (Except.error.inj h).symm⟩)
      | succ below =>
        rw [result_evaluateIn_succ htext, if_neg hmem, absorb_eq_error_iff] at h
        exact .inr (.inr ⟨below, text, rfl, htext, hmem, h⟩)
  · rw [result_evaluateIn_literal (not_exists.mp hcontent)] at h
    cases h

theorem mark_of_isFatal {err : EvalError} (h : err.isFatal = true) : err.mark = .error := by
  cases err <;> first | rfl | cases h

/-- Evaluating a cell fails with fatal errors only. -/
theorem isFatal_of_evaluateIn {sheet : Sheet} {limit room : Nat} {c : Coord} {t : Trail}
    {err : EvalError} (h : (evaluateIn sheet limit room c).result t = .error err) :
    err.isFatal = true := by
  rcases evaluateIn_eq_error h with ⟨-, rfl⟩ | ⟨-, rfl⟩ | ⟨-, -, -, -, -, -, hfatal⟩
  · rfl
  · rfl
  · exact hfatal

theorem evaluate_eq (sheet : Sheet) (limit : Nat) (c : Coord) :
    evaluate sheet limit c =
      match (evaluateIn sheet limit limit c).result .start with
      | .ok v => v
      | .error e => .mark e.mark := rfl

/-- The value that a result shows. -/
def shownValue : Except EvalError Value → Value
  | .ok v => v
  | .error e => .mark e.mark

theorem shownValue_absorb (r : Except EvalError Value) :
    shownValue (Eval.absorb r) = shownValue r := by
  cases r with
  | ok v => rfl
  | error e =>
    rw [Eval.absorb]
    split <;> rfl

/-- A cell shows what its formula results in on the trail of the cell alone. -/
theorem evaluate_formula {sheet : Sheet} {limit : Nat} {c : Coord} {text : List Char}
    (hlimit : 0 < limit) (htext : (sheet.content c).toList = '=' :: text) :
    evaluate sheet limit c = shownValue
      ((evaluateFormula sheet (evaluateIn sheet limit (limit - 1)) c text).result ⟨[c], 0⟩) := by
  obtain ⟨room, rfl⟩ := Nat.exists_eq_succ_of_ne_zero (Nat.pos_iff_ne_zero.mp hlimit)
  have hstart : c ∉ Trail.start.cells := by simp [Trail.start]
  have hresult : (evaluateIn sheet (room + 1) (room + 1) c).result .start = Eval.absorb
      ((evaluateFormula sheet (evaluateIn sheet (room + 1) room) c text).result ⟨[c], 0⟩) := by
    rw [result_evaluateIn_succ htext, if_neg hstart]
    rfl
  rw [evaluate_eq, hresult]
  exact shownValue_absorb _

end Gridbook.Formula
