import Gridbook.Proofs.Results

/-!
# Left operands in a loop

Evaluating and measuring go down the left operands in a loop and hold the right ones
back. That is the plain recursion: the left operand, the right operand, the operator.
Reading a cell may fail and may change the trail, so the order of reading matters; it is
the order in which the cells stand in the tree, up to the first cell that fails.
-/
namespace Gridbook.Formula

namespace Expr

/-- The depth by plain recursion: right operands lie one deeper than their operator, left ones not. -/
def height : Expr → Nat
  | number _ => 0
  | cell _ => 0
  | binary left _ right => max left.height (1 + right.height)
  | signed _ operand => 1 + operand.height
  | group inner => 1 + inner.height

theorem depthWith_eq (deepest : Nat) (e : Expr) : depthWith deepest e = max deepest e.height := by
  induction e generalizing deepest with
  | number x => simp [depthWith, height]
  | cell c => simp [depthWith, height]
  | binary left op right ihl ihr =>
    rw [depthWith, ihl, ihr, height]
    omega
  | signed sign operand ih =>
    rw [depthWith, ih, height]
    omega
  | group inner ih =>
    rw [depthWith, ih, height]
    omega

theorem depth_eq_height (e : Expr) : e.depth = e.height := by
  rw [depth, depthWith_eq, Nat.zero_max]

end Expr

/-- What follows a computation that succeeds runs with its result on the trail that it leaves. -/
theorem Eval.outcome_bind_ok {x : Eval α} {t left : Trail} {a : α}
    (h : x.outcome t = (.ok a, left)) (next : α → Eval β) :
    (x >>= next).outcome t = (next a).outcome left := by
  rw [outcome_bind, h]
  rfl

theorem Eval.outcome_bind_error {x : Eval α} {t left : Trail} {err : EvalError}
    (h : x.outcome t = (.error err, left)) (next : α → Eval β) :
    (x >>= next).outcome t = (.error err, left) := by
  rw [outcome_bind, h]
  rfl

/-- Computations that also note cells, whether they succeed or fail. -/
abbrev Noted := ExceptT EvalError (StateM (Trail × List Coord))

namespace Noted

/-- The outcome, the trail that is left and the cells that are noted. -/
def outcome (x : Noted α) (t : Trail) (seen : List Coord) :
    Except EvalError α × Trail × List Coord := (x.run (t, seen)).run

theorem outcome_bind (x : Noted α) (next : α → Noted β) (t : Trail) (seen : List Coord) :
    (x >>= next).outcome t seen =
      (ExceptT.bindCont next (x.outcome t seen).1 :
        StateM (Trail × List Coord) (Except EvalError β)) (x.outcome t seen).2 := rfl

theorem outcome_bind_ok {x : Noted α} {t left : Trail} {seen seen' : List Coord} {a : α}
    (h : x.outcome t seen = (.ok a, left, seen')) (next : α → Noted β) :
    (x >>= next).outcome t seen = (next a).outcome left seen' := by
  rw [outcome_bind, h]
  rfl

theorem outcome_bind_error {x : Noted α} {t left : Trail} {seen seen' : List Coord}
    {err : EvalError} (h : x.outcome t seen = (.error err, left, seen')) (next : α → Noted β) :
    (x >>= next).outcome t seen = (.error err, left, seen') := by
  rw [outcome_bind, h]
  rfl

end Noted

/-- Reads a cell and notes that it was asked for. -/
def noting (read : Coord → Eval Float) (c : Coord) : Noted Float := ExceptT.mk fun (t, seen) =>
  let (result, left) := (read c).outcome t
  (result, left, seen ++ [c])

theorem outcome_noting (read : Coord → Eval Float) (c : Coord) (t : Trail) (seen : List Coord) :
    (noting read c).outcome t seen =
      (((read c).outcome t).1, ((read c).outcome t).2, seen ++ [c]) := rfl

/--
The second computation does what the first one does. It notes the given cells in their
order: all of them if it succeeds, else those up to the first one whose reading fails,
and that is the error and the trail it ends with.
-/
structure ReadsAlong (read : Coord → Eval Float) (cells : List Coord) (x : Eval α)
    (noted : Noted α) : Prop where
  ok {t left : Trail} {a : α} (h : x.outcome t = (.ok a, left)) (seen : List Coord) :
    noted.outcome t seen = (.ok a, left, seen ++ cells)
  error {t left : Trail} {err : EvalError} (h : x.outcome t = (.error err, left))
    (seen : List Coord) : ∃ front c back before, cells = front ++ c :: back ∧
      (read c).outcome before = (.error err, left) ∧
      noted.outcome t seen = (.error err, left, seen ++ (front ++ [c]))

namespace ReadsAlong

theorem pure (read : Coord → Eval Float) (a : α) :
    ReadsAlong read [] (Pure.pure a) (Pure.pure a) where
  ok h seen := by
    cases h
    rw [List.append_nil]
    rfl
  error h := by cases h

theorem single (read : Coord → Eval Float) (c : Coord) :
    ReadsAlong read [c] (read c) (noting read c) where
  ok h seen := by rw [outcome_noting, h]
  error {t} {_} {_} h seen := ⟨[], c, [], t, rfl, h, by rw [outcome_noting, h]; rfl⟩

/-- What comes second reads its cells behind the others, or none if these fail. -/
theorem bind {read : Coord → Eval Float} {cells cells' : List Coord} {x : Eval α}
    {noted : Noted α} {next : α → Eval β} {next' : α → Noted β} (hx : ReadsAlong read cells x noted)
    (hnext : ∀ a, ReadsAlong read cells' (next a) (next' a)) :
    ReadsAlong read (cells ++ cells') (x >>= next) (noted >>= next') where
  ok {t left b} h seen := by
    cases hfirst : x.outcome t with
    | mk result middle =>
      cases result with
      | ok a =>
        rw [Eval.outcome_bind_ok hfirst] at h
        rw [Noted.outcome_bind_ok (hx.ok hfirst seen), (hnext a).ok h, List.append_assoc]
      | error err =>
        rw [Eval.outcome_bind_error hfirst] at h
        cases h
  error {t left err} h seen := by
    cases hfirst : x.outcome t with
    | mk result middle =>
      cases result with
      | ok a =>
        rw [Eval.outcome_bind_ok hfirst] at h
        obtain ⟨front, c, back, before, rfl, hread, hnoted⟩ := (hnext a).error h (seen ++ cells)
        refine ⟨cells ++ front, c, back, before, (List.append_assoc ..).symm, hread, ?_⟩
        rw [Noted.outcome_bind_ok (hx.ok hfirst seen), hnoted]
        simp only [List.append_assoc]
      | error err' =>
        rw [Eval.outcome_bind_error hfirst] at h
        obtain ⟨rfl, rfl⟩ : err' = err ∧ middle = left := by simpa using h
        obtain ⟨front, c, back, before, rfl, hread, hnoted⟩ := hx.error hfirst seen
        exact ⟨front, c, back ++ cells', before, List.append_assoc .., hread,
          Noted.outcome_bind_error hnoted next'⟩

/-- The plain recursion reads the cells of the tree from left to right. -/
theorem compute (read : Coord → Eval Float) (e : Expr) :
    ReadsAlong read e.cells (e.compute read) (e.compute (noting read)) := by
  induction e with
  | number x => exact pure read x
  | cell c => exact single read c
  | binary left op right ihl ihr =>
    have hright (a : Float) := ihr.bind fun b => pure read (op.apply a b)
    have h := ihl.bind hright
    rwa [List.append_nil] at h
  | signed sign operand ih =>
    have h := ih.bind fun x => pure read (sign.apply x)
    rwa [List.append_nil] at h
  | group inner ih => exact ih

end ReadsAlong

/--
Evaluating a tree in a loop over its left operands is the plain recursion: it ends with
the same number or the same error, asks for the same cells in the same order, and leaves
the same trail. The cells are those of the tree from left to right, up to the first one
that fails. The depth that is set aside is the one of plain recursion, too.
-/
theorem eval_recursive (sheet : Sheet) (limit room : Nat) (origin : Coord) (e : Expr) :
    let read := numberAt sheet (evaluateIn sheet limit room) origin
    (∀ t, (e.eval read).outcome t = (e.compute read).outcome t) ∧
    (∀ t seen, (e.eval (noting read)).outcome t seen = (e.compute (noting read)).outcome t seen) ∧
    ReadsAlong read e.cells (e.eval read) (e.eval (noting read)) ∧
    e.depth = e.height := by
  intro read
  have hread : e.eval read = e.compute read := e.eval_eq_compute read
  have hnoting : e.eval (noting read) = e.compute (noting read) := e.eval_eq_compute (noting read)
  refine ⟨fun t => by rw [hread], fun t seen => by rw [hnoting], ?_, e.depth_eq_height⟩
  rw [hread, hnoting]
  exact ReadsAlong.compute read e

/-- A right operand that is itself a difference lies deeper than a left one. -/
example : Expr.depth (.binary (.binary (.cell ⟨0, 0⟩) .subtract (.cell ⟨0, 1⟩)) .divide
    (.binary (.cell ⟨0, 2⟩) .subtract (.cell ⟨0, 3⟩))) = 2 := rfl

end Gridbook.Formula
