import Gridbook.Formula.Evaluate

/-!
# Computations that leave the trail

A computation is balanced when it ends with the trail it began with, whether it
succeeds or fails. Balanced computations only read the trail, so they are known by
their results; here is what each way of putting computations together does to
results.
-/
namespace Gridbook.Formula

namespace Eval

/-- What the computation gives on a trail. -/
def result (x : Eval α) (t : Trail) : Except EvalError α := (x.outcome t).1

/-- The trail that is left is the trail that was given. -/
def Balanced (x : Eval α) : Prop := ∀ t, (x.outcome t).2 = t

theorem outcome_of_balanced {x : Eval α} (hx : x.Balanced) (t : Trail) :
    x.outcome t = (x.result t, t) := Prod.ext rfl (hx t)

theorem balanced_pure (a : α) : Balanced (pure a) := fun _ => rfl

@[simp] theorem result_pure (a : α) (t : Trail) : (pure a : Eval α).result t = .ok a := rfl

theorem balanced_throw (err : EvalError) : Balanced (throw err : Eval α) := fun _ => rfl

theorem balanced_get : Balanced (get : Eval Trail) := fun _ => rfl

@[simp] theorem result_get (t : Trail) : (get : Eval Trail).result t = .ok t := rfl

theorem balanced_lift (r : Except EvalError α) : Balanced (ExceptT.mk (pure r) : Eval α) :=
  fun _ => rfl

@[simp] theorem result_lift (r : Except EvalError α) (t : Trail) :
    Eval.result (ExceptT.mk (pure r)) t = r := rfl

/-- What follows a computation runs with its result on the trail that it leaves. -/
theorem outcome_bind (x : Eval α) (next : α → Eval β) (t : Trail) :
    (x >>= next).outcome t =
      (ExceptT.bindCont next (x.outcome t).1 : StateM Trail (Except EvalError β))
        (x.outcome t).2 := rfl

theorem Balanced.bind {x : Eval α} {next : α → Eval β} (hx : x.Balanced)
    (hnext : ∀ a, (next a).Balanced) : (x >>= next).Balanced := by
  intro t
  rw [outcome_bind, outcome_of_balanced hx]
  cases x.result t with
  | ok a => exact hnext a t
  | error err => rfl

theorem result_bind {x : Eval α} (hx : x.Balanced) (next : α → Eval β) (t : Trail) :
    (x >>= next).result t = x.result t >>= fun a => (next a).result t := by
  rw [result, outcome_bind, outcome_of_balanced hx]
  cases x.result t <;> rfl

theorem Balanced.inside {x : Eval α} (hx : x.Balanced) (c : Coord) : (Eval.inside c x).Balanced := by
  intro t
  have h := outcome_of_balanced hx { t with cells := c :: t.cells }
  change { (x.outcome { t with cells := c :: t.cells }).2 with
    cells := (x.outcome { t with cells := c :: t.cells }).2.cells.tail } = t
  rw [h]
  rfl

@[simp] theorem result_inside (x : Eval α) (c : Coord) (t : Trail) :
    (inside c x).result t = x.result { t with cells := c :: t.cells } := rfl

theorem outcome_reserving (x : Eval α) (amount : Nat) (t : Trail) :
    (Eval.reserving amount x).outcome t =
      if nestingBudget < t.nesting + amount then (.error (.tooDeep nestingBudget), t)
      else
        let (result, left) := x.outcome { t with nesting := t.nesting + amount }
        (result, { left with nesting := left.nesting - amount }) := rfl

theorem Balanced.reserving {x : Eval α} (hx : x.Balanced) (amount : Nat) :
    (Eval.reserving amount x).Balanced := by
  intro t
  rw [outcome_reserving]
  split
  · rfl
  · rw [outcome_of_balanced hx]
    simp

theorem result_reserving (x : Eval α) (amount : Nat) (t : Trail) :
    (reserving amount x).result t =
      if nestingBudget < t.nesting + amount then .error (.tooDeep nestingBudget)
      else x.result { t with nesting := t.nesting + amount } := by
  rw [result, outcome_reserving]
  split <;> rfl

/-- What a cell shows for an error that is not fatal. -/
def absorb : Except EvalError Value → Except EvalError Value
  | .error err => if err.isFatal then .error err else .ok (.mark err.mark)
  | .ok v => .ok v

theorem outcome_absorbing (x : Eval Value) (t : Trail) :
    (absorbing x).outcome t = (absorb (x.outcome t).1, (x.outcome t).2) := by
  rw [outcome, absorbing, ExceptT.run_mk]
  cases x.outcome t with
  | mk r left => cases r <;> rfl

theorem Balanced.absorbing {x : Eval Value} (hx : x.Balanced) : (Eval.absorbing x).Balanced := by
  intro t
  rw [outcome_absorbing]
  exact hx t

@[simp] theorem result_absorbing (x : Eval Value) (t : Trail) :
    (absorbing x).result t = absorb (x.result t) := by
  rw [result, outcome_absorbing]
  rfl

theorem Balanced.mapM {l : List α} {g : α → Eval β} (hg : ∀ a ∈ l, (g a).Balanced) :
    (l.mapM g).Balanced := by
  induction l with
  | nil => exact balanced_pure _
  | cons a l ih =>
    rw [List.mapM_cons]
    refine (hg a (by simp)).bind fun b => (ih fun c hc => hg c (by simp [hc])).bind fun bs => ?_
    exact balanced_pure _

theorem result_mapM {l : List α} {g : α → Eval β} (hg : ∀ a ∈ l, (g a).Balanced) (t : Trail) :
    (l.mapM g).result t = l.mapM fun a => (g a).result t := by
  induction l with
  | nil => rfl
  | cons a l ih =>
    have hl : ∀ c ∈ l, (g c).Balanced := fun c hc => hg c (by simp [hc])
    rw [List.mapM_cons, List.mapM_cons, result_bind (hg a (by simp))]
    congr
    funext b
    rw [result_bind (Balanced.mapM hl), ih hl]
    rfl

end Eval

end Gridbook.Formula
