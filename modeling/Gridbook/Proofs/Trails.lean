import Mathlib.Data.List.Nodup
import Gridbook.Proofs.Persistence

/-!
# Trails that are handed down

A formula evaluates the cells that it refers to on the trail of its own cell, with its
cell on it and with the nesting that it holds set aside. So all trails of an evaluation
go on from the first one: no cell is on them twice, they are no longer than the limit and
they stay within the budget. Each is longer than the one before, which is why evaluation
ends on every sheet.
-/
namespace Gridbook.Formula

/-- The nesting that the formula of a cell holds. -/
def heldBy (sheet : Sheet) (c : Coord) : Nat :=
  match (sheet.content c).toList with
  | '=' :: text => heldIn text
  | _ => 0

theorem heldBy_formula {sheet : Sheet} {c : Coord} {text : List Char}
    (h : (sheet.content c).toList = '=' :: text) : heldBy sheet c = heldIn text := by
  simp only [heldBy, h]

/-- The nesting that the formulas of some cells hold together. -/
def heldByAll (sheet : Sheet) (cells : List Coord) : Nat :=
  cells.foldr (fun c held => heldBy sheet c + held) 0

namespace Trail

/-- The cells on the second trail that are not on the first one. -/
def opened (t t' : Trail) : List Coord := t'.cells.take (t'.cells.length - t.cells.length)

/-- The second trail goes on from the first one with distinct cells and with what they hold. -/
structure Continues (sheet : Sheet) (limit : Nat) (t t' : Trail) : Prop where
  cells : t'.cells = t.opened t' ++ t.cells
  distinct : t'.cells.Nodup
  length_le : t'.cells.length ≤ limit
  nesting : t'.nesting = t.nesting + heldByAll sheet (t.opened t')
  within : t'.nesting ≤ nestingBudget

instance (sheet : Sheet) (limit : Nat) (t t' : Trail) : Decidable (t.Continues sheet limit t') :=
  decidable_of_iff
    (t'.cells = t.opened t' ++ t.cells ∧ t'.cells.Nodup ∧ t'.cells.length ≤ limit ∧
      t'.nesting = t.nesting + heldByAll sheet (t.opened t') ∧ t'.nesting ≤ nestingBudget)
    ⟨fun ⟨hcells, hdistinct, hlength, hnesting, hwithin⟩ =>
      ⟨hcells, hdistinct, hlength, hnesting, hwithin⟩,
    fun h => ⟨h.cells, h.distinct, h.length_le, h.nesting, h.within⟩⟩

/-- The trail on which the formula of a cell looks at other cells. -/
def handed (sheet : Sheet) (t : Trail) (c : Coord) : Trail :=
  ⟨c :: t.cells, t.nesting + heldBy sheet c⟩

variable {sheet : Sheet} {limit : Nat} {t t' : Trail}

theorem continues_self (hdistinct : t.cells.Nodup) (hlength : t.cells.length ≤ limit)
    (hwithin : t.nesting ≤ nestingBudget) : t.Continues sheet limit t where
  cells := by simp [opened]
  distinct := hdistinct
  length_le := hlength
  nesting := by simp [opened, heldByAll]
  within := hwithin

theorem opened_handed (h : t.Continues sheet limit t') (c : Coord) :
    t.opened (t'.handed sheet c) = c :: t.opened t' := by
  have hlength := congrArg List.length h.cells
  rw [List.length_append] at hlength
  have hmore : t'.cells.length + 1 - t.cells.length =
      t'.cells.length - t.cells.length + 1 := by omega
  rw [opened, handed, List.length_cons, hmore, List.take_succ_cons, opened]

/-- What a cell on a trail hands down goes on from the first trail, too. -/
theorem Continues.handed (h : t.Continues sheet limit t') {c : Coord} (hc : c ∉ t'.cells)
    (hroom : t'.cells.length < limit) (hwithin : t'.nesting + heldBy sheet c ≤ nestingBudget) :
    t.Continues sheet limit (t'.handed sheet c) where
  cells := by
    rw [opened_handed h, List.cons_append, ← h.cells]
    rfl
  distinct := List.nodup_cons.mpr ⟨hc, h.distinct⟩
  length_le := hroom
  nesting := by
    have hnesting := h.nesting
    rw [opened_handed h]
    simp only [Trail.handed, heldByAll, List.foldr_cons] at hnesting ⊢
    omega
  within := hwithin

end Trail

/-- Calls hold nothing, so that only arithmetic has to ask for the budget. -/
theorem within_of_call {sheet : Sheet} {limit : Nat} {t t' : Trail} {text : List Char}
    (h : t.Continues sheet limit t')
    (hwithin : call? text = none → t'.nesting + heldIn text ≤ nestingBudget) :
    t'.nesting + heldIn text ≤ nestingBudget := by
  cases hcall : call? text with
  | none => exact hwithin hcall
  | some call =>
    rw [heldIn_call hcall]
    exact h.within

/-- The evaluation of a cell, with one call of `visit` for each cell that its formula looks at. -/
def evaluateThrough (sheet : Sheet) (limit : Nat) (visit : Coord → Eval Value) (c : Coord) :
    Eval Value :=
  evaluateContent sheet c fun text => do
    if limit ≤ (← get).cells.length then throw (.tooDeep limit)
    Eval.absorbing (Eval.inside c (evaluateFormula sheet visit c text))

/--
The evaluation of a cell by calls within each other. It fails with the given error where
more than `n` calls are within each other, and where a trail that is handed down does not
go on from the trail `t`.
-/
def evaluateChecked (sheet : Sheet) (limit : Nat) (t : Trail) (err : EvalError) :
    Nat → Coord → Eval Value
  | 0, _ => throw err
  | n + 1, c => do
    if t.Continues sheet limit (← get) then
      evaluateThrough sheet limit (evaluateChecked sheet limit t err n) c
    else throw err

section

variable {sheet : Sheet} {limit : Nat}

theorem balanced_evaluateThrough {visit : Coord → Eval Value} (hvisit : ∀ c, (visit c).Balanced)
    (c : Coord) : (evaluateThrough sheet limit visit c).Balanced := by
  refine balanced_evaluateContent sheet c fun text => Eval.balanced_get.bind fun t => ?_
  split
  · exact fun _ => rfl
  · exact ((balanced_evaluateFormula sheet hvisit c text).inside c).absorbing

theorem result_evaluateThrough {visit : Coord → Eval Value} {c : Coord} {text : List Char}
    (htext : (sheet.content c).toList = '=' :: text) (t : Trail) :
    (evaluateThrough sheet limit visit c).result t =
      if c ∈ t.cells then .error (.circular c)
      else if limit ≤ t.cells.length then .error (.tooDeep limit)
      else Eval.absorb ((evaluateFormula sheet visit c text).result
        { t with cells := c :: t.cells }) := by
  rw [evaluateThrough, result_evaluateContent htext, Eval.result_bind Eval.balanced_get,
    Eval.result_get]
  refine congrArg _ ?_
  change Eval.result (if limit ≤ t.cells.length then _ else _) t = _
  split
  · rfl
  · exact (Eval.result_absorbing _ t).trans (congrArg _ (Eval.result_inside _ c t))

variable (t : Trail) (err : EvalError)

theorem balanced_evaluateChecked (n : Nat) (c : Coord) :
    (evaluateChecked sheet limit t err n c).Balanced := by
  induction n generalizing c with
  | zero => exact Eval.balanced_throw err
  | succ n ih =>
    refine Eval.balanced_get.bind fun t' => ?_
    split
    · exact balanced_evaluateThrough ih c
    · exact Eval.balanced_throw err

theorem result_evaluateChecked_succ {t' : Trail} (h : t.Continues sheet limit t') (n : Nat)
    (c : Coord) : (evaluateChecked sheet limit t err (n + 1) c).result t' =
      (evaluateThrough sheet limit (evaluateChecked sheet limit t err n) c).result t' := by
  rw [evaluateChecked, Eval.result_bind Eval.balanced_get, Eval.result_get]
  change Eval.result (if t.Continues sheet limit t' then _ else _) t' = _
  rw [if_pos h]

/-- No check fails where there is one call for each cell that may still come onto the trail. -/
theorem result_evaluateChecked {n : Nat} {t' : Trail} (h : t.Continues sheet limit t')
    (hn : limit - t'.cells.length < n) (c : Coord) :
    (evaluateChecked sheet limit t err n c).result t' = (evaluateOn sheet limit c).result t' := by
  induction n generalizing c t' with
  | zero => exact absurd hn (Nat.not_lt_zero _)
  | succ n ih =>
    rw [result_evaluateChecked_succ t err h]
    by_cases hcontent : ∃ text, (sheet.content c).toList = '=' :: text
    · obtain ⟨text, htext⟩ := hcontent
      rw [result_evaluateThrough htext, result_evaluateOn_formula htext]
      split
      · rfl
      · rename_i hc
        split
        · rfl
        · rename_i hfull
          have hroom := Nat.lt_of_not_le hfull
          refine congrArg Eval.absorb ?_
          refine (sameUnless_evaluateFormula_held (P := fun _ => False) sheet
            (balanced_evaluateChecked t err n) (balanced_evaluateOn sheet limit) c text
            (.refl _) fun hwithin r => ?_).eq
          refine sameUnless_referenced sheet (balanced_evaluateChecked t err n)
            (balanced_evaluateOn sheet limit) (.inl ?_)
          have hheld := heldBy_formula htext
          have hnext := h.handed hc hroom (hheld ▸ within_of_call h hwithin)
          rw [← hheld]
          refine ih hnext ?_ r
          rw [Trail.handed, List.length_cons]
          omega
    · have hliteral := not_exists.mp hcontent
      rw [evaluateThrough, evaluateContent_literal hliteral, result_evaluateOn,
        result_evaluateIn_literal hliteral]
      rfl

end

/--
Evaluation leaves the trail as it was, with a value and with an error. Every trail that is
handed down on the way goes on from it: checks of that never fail, and neither do calls
run out that are as many as cells may still come onto the trail and one more. Where an
arithmetic formula is opened, its depth is set aside on such a trail, and all of it is
still there when it is given back.
-/
theorem evaluateOn_keeps_trails (sheet : Sheet) {limit : Nat} (c : Coord) {t : Trail}
    (hdistinct : t.cells.Nodup) (hlength : t.cells.length ≤ limit)
    (hwithin : t.nesting ≤ nestingBudget) :
    ((evaluateOn sheet limit c).outcome t).2 = t ∧
    (∀ err n, limit - t.cells.length < n →
      (evaluateChecked sheet limit t err n c).outcome t = (evaluateOn sheet limit c).outcome t) ∧
    ∀ t' d text e room, t.Continues sheet limit t' → (sheet.content d).toList = '=' :: text →
      call? text = none → read text = .ok e → d ∉ t'.cells → t'.cells.length < limit →
      t'.nesting + e.depth ≤ nestingBudget →
      let held : Trail := ⟨d :: t'.cells, t'.nesting + e.depth⟩
      let left := ((e.eval (numberAt sheet (evaluateIn sheet limit room) d)).outcome held).2
      t.Continues sheet limit held ∧ left = held ∧ e.depth ≤ left.nesting := by
  refine ⟨balanced_evaluateOn sheet limit c t, fun err n hn => ?_, ?_⟩
  · rw [Eval.outcome_of_balanced (balanced_evaluateChecked t err n c),
      Eval.outcome_of_balanced (balanced_evaluateOn sheet limit c),
      result_evaluateChecked t err (Trail.continues_self hdistinct hlength hwithin) hn]
  · intro t' d text e room h htext hcall hread hd hroom hbudget held left
    have hdepth : heldBy sheet d = e.depth :=
      (heldBy_formula htext).trans (heldIn_arithmetic hcall hread)
    have hheld : t'.handed sheet d = held := by
      rw [Trail.handed, hdepth]
    have hleft : left = held := by
      have hbalanced := Expr.balanced_compute
        (balanced_numberAt sheet (balanced_evaluateIn sheet limit room) d) e held
      rwa [← Expr.eval_eq_compute] at hbalanced
    refine ⟨hheld ▸ h.handed hd hroom (hdepth ▸ hbudget), hleft, ?_⟩
    rw [hleft]
    exact Nat.le_add_left _ _

/-- A product, a sum over a range and a text function, which refer to each other in a circle. -/
def roundabout : Sheet :=
  (((Sheet.ofSize 2 3).setContent ⟨0, 0⟩ "=-B1*2").setContent ⟨0, 1⟩ "=SUM(C1:C2)").setContent
    ⟨0, 2⟩ "=UPPER(A1)"

theorem evaluateOn_keeps_trails_roundabout :
    let t : Trail := ⟨[⟨1, 0⟩], 7⟩
    t.cells.Nodup ∧ t.cells.length ≤ 4 ∧ t.nesting ≤ nestingBudget ∧
    ((evaluateOn roundabout 4 ⟨0, 0⟩).outcome t).2 = t ∧
    (∀ err, (evaluateChecked roundabout 4 t err 4 ⟨0, 0⟩).outcome t =
      (evaluateOn roundabout 4 ⟨0, 0⟩).outcome t) ∧
    t.Continues roundabout 4 ⟨[⟨0, 0⟩, ⟨1, 0⟩], 8⟩ := by
  have hdistinct : [(⟨1, 0⟩ : Coord)].Nodup := by decide
  have hread : read "-B1*2".toList = .ok (.binary (.signed .minus (.cell ⟨0, 1⟩)) .multiply
      (.number (Decimal.nearest 2 1))) := by decide +kernel
  obtain ⟨hleft, hchecked, hopened⟩ := @evaluateOn_keeps_trails roundabout 4 ⟨0, 0⟩ ⟨[⟨1, 0⟩], 7⟩
    hdistinct (by decide) (by decide)
  have hself : Trail.Continues roundabout 4 ⟨[⟨1, 0⟩], 7⟩ ⟨[⟨1, 0⟩], 7⟩ := by decide
  refine ⟨hdistinct, by decide, by decide, hleft, fun err => hchecked err 4 (by decide), ?_⟩
  exact (hopened _ ⟨0, 0⟩ _ _ 2 hself rfl (by decide) hread (by decide) (by decide) (by decide)).1

/-- Three calls do not get around the circle: the check of their number fails. -/
example : (match (evaluateChecked roundabout 4 ⟨[⟨1, 0⟩], 7⟩ (.tooDeep 0) 3 ⟨0, 0⟩).result
    ⟨[⟨1, 0⟩], 7⟩ with
  | .error err => some err
  | .ok _ => none) = some (.tooDeep 0) := by decide +kernel

end Gridbook.Formula
