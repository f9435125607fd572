import Mathlib.Order.MinMax
import Gridbook.Proofs.Spines

/-!
# Calls within calls

The evaluator goes down a chain of operators in a loop and calls itself for the operands
of the chain, for the first one too. The depth that is set aside counts a call for every
right operand, but none for the first one. It falls short where no right operand is deep
enough to cover the first one; in chains that begin with chains in parentheses the calls
are twice as many as were set aside, and they are never more than that.
-/
namespace Gridbook.Formula

namespace Expr

/-- The operand with which a chain of operators begins. -/
def first : Expr → Expr
  | binary left _ _ => left.first
  | e => e

/-- The right operands of a chain of operators, from left to right. -/
def rights : Expr → List Expr
  | binary left _ right => left.rights ++ [right]
  | _ => []

/-- The operands of a chain of operators, from left to right. -/
def operands (e : Expr) : List Expr := e.first :: e.rights

def isChain : Expr → Bool
  | binary _ _ _ => true
  | _ => false

theorem operands_binary (left : Expr) (op : Operator) (right : Expr) :
    (binary left op right).operands = left.operands ++ [right] := rfl

/--
The most calls of the evaluator that are open at once inside of the one for the formula. A
chain takes one more than the operand that takes most; the loop goes on with a left operand
that is a chain itself, without a call.
-/
def calls : Expr → Nat
  | number _ => 0
  | cell _ => 0
  | binary left _ right =>
    max (if left.isChain then left.calls else 1 + left.calls) (1 + right.calls)
  | signed _ operand => 1 + operand.calls
  | group inner => 1 + inner.calls

/-- The calls that an operand takes at the left end of a chain. -/
def callsInChain (e : Expr) : Nat := if e.isChain then e.calls else 1 + e.calls

theorem callsInChain_of_isChain {e : Expr} (h : e.isChain = false) :
    e.callsInChain = 1 + e.calls := by
  rw [callsInChain, h, if_neg Bool.false_ne_true]

theorem calls_binary (left : Expr) (op : Operator) (right : Expr) :
    (binary left op right).calls = max left.callsInChain (1 + right.calls) := rfl

/-- In a chain there is one call more than in its operands. -/
theorem callsInChain_le_iff (e : Expr) (n : Nat) :
    e.callsInChain ≤ n ↔ ∀ operand ∈ e.operands, operand.calls < n := by
  induction e with
  | number | cell | signed | group =>
    simp [callsInChain, isChain, operands, first, rights, Nat.lt_iff_add_one_le, Nat.add_comm]
  | binary left op right ihl ihr =>
    rw [callsInChain, isChain, if_pos rfl, calls_binary, Nat.max_le, operands_binary,
      List.forall_mem_append, List.forall_mem_singleton, ihl, Nat.add_comm, Nat.lt_iff_add_one_le]

theorem height_le_calls (e : Expr) : e.height ≤ e.calls := by
  induction e with
  | number | cell => exact Nat.le_refl 0
  | binary left op right ihl ihr =>
    rw [height, calls]
    split <;> omega
  | signed sign operand ih => exact Nat.add_le_add_left ih 1
  | group inner ih => exact Nat.add_le_add_left ih 1

/-- A first operand that is no leaf has a level of its own, which pays for the call it takes. -/
theorem calls_le_height (e : Expr) :
    e.calls ≤ 2 * e.height ∧ e.callsInChain ≤ max 1 (2 * e.height) := by
  induction e with
  | number | cell => exact ⟨Nat.le_refl 0, Nat.le_refl 1⟩
  | binary left op right ihl ihr =>
    have hcalls : (binary left op right).calls ≤ 2 * (binary left op right).height := by
      rw [calls_binary, height]
      omega
    exact ⟨hcalls, Nat.le_trans hcalls (Nat.le_max_right _ _)⟩
  | signed sign operand ih =>
    simp only [callsInChain, isChain, calls, height, Bool.false_eq_true, ↓reduceIte]
    omega
  | group inner ih =>
    simp only [callsInChain, isChain, calls, height, Bool.false_eq_true, ↓reduceIte]
    omega

theorem height_of_mem_rights {e right : Expr} (h : right ∈ e.rights) :
    1 + right.height ≤ e.height := by
  induction e with
  | number | cell | signed | group => cases h
  | binary left op last ihl ihr =>
    rw [height]
    rcases List.mem_append.mp h with hleft | hlast
    · exact Nat.le_trans (ihl hleft) (Nat.le_max_left _ _)
    · obtain rfl := List.mem_singleton.mp hlast
      exact Nat.le_max_right _ _

/-- A chain is as deep as its first operand, or one deeper than one of the others. -/
theorem height_eq (e : Expr) :
    e.height = e.first.height ∨ ∃ right ∈ e.rights, e.height = 1 + right.height := by
  induction e with
  | number | cell | signed | group => exact .inl rfl
  | binary left op right ihl ihr =>
    rw [height, rights]
    rcases Nat.le_total (1 + right.height) left.height with hle | hle
    · rw [Nat.max_eq_left hle]
      rcases ihl with hfirst | ⟨other, hother, heq⟩
      · exact .inl hfirst
      · exact .inr ⟨other, List.mem_append_left _ hother, heq⟩
    · rw [Nat.max_eq_right hle]
      exact .inr ⟨right, by simp, rfl⟩

/--
Inside of the signs and parentheses around it, the formula is a number, a cell or a chain
with a right operand whose depth is at least the calls of each operand of the chain.
-/
inductive Covered : Expr → Prop
  | number (x : Float) : Covered (number x)
  | cell (c : Coord) : Covered (cell c)
  | binary {left : Expr} {op : Operator} {right deepest : Expr}
      (hdeepest : deepest ∈ (binary left op right).rights)
      (hcalls : ∀ operand ∈ (binary left op right).operands, operand.calls ≤ deepest.depth) :
      Covered (binary left op right)
  | signed {sign : Sign} {operand : Expr} (h : Covered operand) : Covered (signed sign operand)
  | group {inner : Expr} (h : Covered inner) : Covered (group inner)

theorem calls_le_depth_iff (e : Expr) : e.calls ≤ e.depth ↔ e.Covered := by
  rw [depth_eq_height]
  induction e with
  | number x => exact iff_of_true (Nat.le_refl 0) (.number x)
  | cell c => exact iff_of_true (Nat.le_refl 0) (.cell c)
  | signed sign operand ih =>
    rw [calls, height, Nat.add_le_add_iff_left, ih]
    exact ⟨.signed, fun h => by cases h; assumption⟩
  | group inner ih =>
    rw [calls, height, Nat.add_le_add_iff_left, ih]
    exact ⟨.group, fun h => by cases h; assumption⟩
  | binary left op right ihl ihr =>
    have hchain (n : Nat) := (binary left op right).callsInChain_le_iff n
    simp only [callsInChain, isChain, if_true] at hchain
    constructor
    · intro h
      have hfirst := (hchain _).mp (Nat.le_refl _) _ List.mem_cons_self
      have hle := (binary left op right).first.height_le_calls
      rcases height_eq (binary left op right) with hsame | ⟨deepest, hdeepest, heq⟩
      · omega
      · refine .binary hdeepest fun operand hoperand => ?_
        rw [depth_eq_height]
        exact Nat.lt_one_add_iff.mp ((hchain _).mp (heq ▸ h) operand hoperand)
    · intro h
      cases h with
      | @binary _ _ _ deepest hdeepest hcalls =>
        rw [depth_eq_height] at hcalls
        have hcalls' := (hchain (1 + deepest.height)).mpr fun operand hoperand =>
          Nat.lt_one_add_iff.mpr (hcalls operand hoperand)
        exact Nat.le_trans hcalls' (height_of_mem_rights hdeepest)

section

variable {m : Type → Type} [Monad m] (note : Nat → m Unit) (read : Coord → m Float)

mutual

/-- A call of the evaluator, which first notes that there are `level` calls around it. -/
def call (level : Nat) (e : Expr) : m Float := do
  note level
  match e with
  | number x => return x
  | cell c => read c
  | binary left op right =>
    descend level left [fun a => do return op.apply a (← call (level + 1) right)]
  | signed sign operand => do return sign.apply (← call (level + 1) operand)
  | group inner => call (level + 1) inner
termination_by (sizeOf e, 0)

/-- The loop of a call: it holds the right operands back and goes on with the left one. -/
def descend (level : Nat) (e : Expr) (held : List (Float → m Float)) : m Float :=
  match e with
  | binary left op right =>
    descend level left ((fun a => do return op.apply a (← call (level + 1) right)) :: held)
  | number x => do resume held (← call (level + 1) (number x))
  | cell c => do resume held (← call (level + 1) (cell c))
  | signed sign operand => do resume held (← call (level + 1) (signed sign operand))
  | group inner => do resume held (← call (level + 1) (group inner))
termination_by (sizeOf e, 1)

end

variable [LawfulMonad m]

/-- The loop has the value of its operand before it goes on with the operands that it holds back. -/
theorem descend_eq (level : Nat) (e : Expr) (held : List (Float → m Float)) :
    descend note read level e held = descend note read level e [] >>= resume held := by
  induction e generalizing held with
  | binary left op right ihl ihr =>
    rw [descend, ihl, descend, ihl [_]]
    simp [resume]
  | number | cell | signed | group => simp [descend, resume]

/-- In a chain the first operand comes first and the last one last. -/
theorem descend_binary (level : Nat) (left : Expr) (op : Operator) (right : Expr) :
    descend note read level (binary left op right) [] = do
      let a ← descend note read level left []
      let b ← call note read (level + 1) right
      return op.apply a b := by
  rw [descend, descend_eq]
  simp [resume]

omit [LawfulMonad m] in
theorem call_binary (level : Nat) (left : Expr) (op : Operator) (right : Expr) :
    call note read level (binary left op right) =
      note level >>= fun _ => descend note read level (binary left op right) [] := by
  rw [call, descend]

theorem descend_of_isChain {e : Expr} (h : e.isChain = false) (level : Nat) :
    descend note read level e [] = call note read (level + 1) e := by
  cases e with
  | binary => cases h
  | number | cell | signed | group => simp [descend, resume]

end

end Expr

/-- Computations that also keep the deepest level that was noted, whether they succeed or fail. -/
abbrev Leveled := ExceptT EvalError (StateM (Trail × Nat))

namespace Leveled

/-- The outcome, the trail that is left and the deepest level. -/
def outcome (x : Leveled α) (t : Trail) (deepest : Nat) : Except EvalError α × Trail × Nat :=
  (x.run (t, deepest)).run

def note (level : Nat) : Leveled Unit := ExceptT.mk fun (t, deepest) =>
  (.ok (), t, max deepest level)

/-- Notes nothing. -/
def lift (x : Eval α) : Leveled α := ExceptT.mk fun (t, deepest) =>
  let (result, left) := x.outcome t
  (result, left, deepest)

theorem outcome_note (level : Nat) (t : Trail) (deepest : Nat) :
    (note level).outcome t deepest = (.ok (), t, max deepest level) := rfl

theorem outcome_lift (x : Eval α) (t : Trail) (deepest : Nat) :
    (lift x).outcome t deepest = ((x.outcome t).1, (x.outcome t).2, deepest) := rfl

theorem outcome_bind (x : Leveled α) (next : α → Leveled β) (t : Trail) (deepest : Nat) :
    (x >>= next).outcome t deepest =
      (ExceptT.bindCont next (x.outcome t deepest).1 :
        StateM (Trail × Nat) (Except EvalError β)) (x.outcome t deepest).2 := rfl

theorem outcome_bind_ok {x : Leveled α} {t left : Trail} {deepest deepest' : Nat} {a : α}
    (h : x.outcome t deepest = (.ok a, left, deepest')) (next : α → Leveled β) :
    (x >>= next).outcome t deepest = (next a).outcome left deepest' := by
  rw [outcome_bind, h]
  rfl

theorem outcome_bind_error {x : Leveled α} {t left : Trail} {deepest deepest' : Nat}
    {err : EvalError} (h : x.outcome t deepest = (.error err, left, deepest'))
    (next : α → Leveled β) :
    (x >>= next).outcome t deepest = (.error err, left, deepest') := by
  rw [outcome_bind, h]
  rfl

end Leveled

/--
The second computation does what the first one does. The deepest level that it notes is
the given one if it succeeds, else that or a lower one.
-/
structure Reaches (level : Nat) (x : Eval α) (leveled : Leveled α) : Prop where
  ok {t left : Trail} {a : α} (h : x.outcome t = (.ok a, left)) (deepest : Nat) :
    leveled.outcome t deepest = (.ok a, left, max deepest level)
  error {t left : Trail} {err : EvalError} (h : x.outcome t = (.error err, left))
    (deepest : Nat) : ∃ lower ≤ level,
      leveled.outcome t deepest = (.error err, left, max deepest lower)

namespace Reaches

theorem pure (a : α) : Reaches 0 (Pure.pure a) (Pure.pure a) where
  ok h deepest := by
    cases h
    rw [Nat.max_zero]
    rfl
  error h := by cases h

theorem lift (x : Eval α) : Reaches 0 x (Leveled.lift x) where
  ok h deepest := by rw [Leveled.outcome_lift, h, Nat.max_zero]
  error h deepest := ⟨0, Nat.le_refl 0, by rw [Leveled.outcome_lift, h, Nat.max_zero]⟩

theorem cast {level level' : Nat} {x : Eval α} {leveled : Leveled α} (hx : Reaches level x leveled)
    (h : level = level') : Reaches level' x leveled := h ▸ hx

/-- What comes second is noted, too, unless the first computation fails. -/
theorem bind {level level' : Nat} {x : Eval α} {leveled : Leveled α} {next : α → Eval β}
    {next' : α → Leveled β} (hx : Reaches level x leveled)
    (hnext : ∀ a, Reaches level' (next a) (next' a)) :
    Reaches (max level level') (x >>= next) (leveled >>= next') where
  ok {t left b} h deepest := by
    cases hfirst : x.outcome t with
    | mk result middle =>
      cases result with
      | ok a =>
        rw [Eval.outcome_bind_ok hfirst] at h
        rw [Leveled.outcome_bind_ok (hx.ok hfirst deepest), (hnext a).ok h, Nat.max_assoc]
      | error err =>
        rw [Eval.outcome_bind_error hfirst] at h
        cases h
  error {t left err} h deepest := by
    cases hfirst : x.outcome t with
    | mk result middle =>
      cases result with
      | ok a =>
        rw [Eval.outcome_bind_ok hfirst] at h
        obtain ⟨lower, hle, hlower⟩ := (hnext a).error h (max deepest level)
        refine ⟨max level lower, by omega, ?_⟩
        rw [Leveled.outcome_bind_ok (hx.ok hfirst deepest), hlower, Nat.max_assoc]
      | error err' =>
        rw [Eval.outcome_bind_error hfirst] at h
        obtain ⟨rfl, rfl⟩ : err' = err ∧ middle = left := by simpa using h
        obtain ⟨lower, hle, hlower⟩ := hx.error hfirst deepest
        exact ⟨lower, by omega, Leveled.outcome_bind_error hlower next'⟩

/-- A level is noted first. -/
theorem note (level : Nat) {level' : Nat} {x : Eval α} {leveled : Leveled α}
    (hx : Reaches level' x leveled) :
    Reaches (max level level') x (Leveled.note level >>= fun _ => leveled) where
  ok {t left a} h deepest := by
    have hnote := Leveled.outcome_note level t deepest
    rw [Leveled.outcome_bind_ok hnote, hx.ok h, Nat.max_assoc]
  error {t left err} h deepest := by
    have hnote := Leveled.outcome_note level t deepest
    obtain ⟨lower, hlower, heq⟩ := hx.error h (max deepest level)
    refine ⟨max level lower, by omega, ?_⟩
    rw [Leveled.outcome_bind_ok hnote, heq, Nat.max_assoc]

end Reaches

section

variable (read : Coord → Eval Float)

/-- What stands at the beginning of a chain is called. -/
theorem reaches_descend {e : Expr} (h : e.isChain = false)
    (hcall : ∀ level, Reaches (level + e.calls) (e.compute read)
      (e.call Leveled.note (fun c => Leveled.lift (read c)) level)) (level : Nat) :
    Reaches (level + e.callsInChain) (e.compute read)
      (e.descend Leveled.note (fun c => Leveled.lift (read c)) level []) := by
  rw [Expr.descend_of_isChain _ _ h, Expr.callsInChain_of_isChain h, ← Nat.add_assoc]
  exact hcall (level + 1)

/-- A call inside of some others gets deeper by the calls of the formula. -/
theorem reaches_call (e : Expr) :
    (∀ level, Reaches (level + e.calls) (e.compute read)
      (e.call Leveled.note (fun c => Leveled.lift (read c)) level)) ∧
    ∀ level, Reaches (level + e.callsInChain) (e.compute read)
      (e.descend Leveled.note (fun c => Leveled.lift (read c)) level []) := by
  induction e with
  | number x =>
    have hcall (level : Nat) : Reaches (level + 0) (Pure.pure x)
        ((Expr.number x).call Leveled.note (fun c => Leveled.lift (read c)) level) := by
      rw [Expr.call]
      exact ((Reaches.pure x).note level).cast (Nat.max_zero level)
    exact ⟨hcall, reaches_descend read rfl hcall⟩
  | cell c =>
    have hcall (level : Nat) : Reaches (level + 0) (read c)
        ((Expr.cell c).call Leveled.note (fun c => Leveled.lift (read c)) level) := by
      rw [Expr.call]
      exact ((Reaches.lift (read c)).note level).cast (Nat.max_zero level)
    exact ⟨hcall, reaches_descend read rfl hcall⟩
  | binary left op right ihl ihr =>
    have hloop (level : Nat) : Reaches (level + (Expr.binary left op right).calls)
        ((Expr.binary left op right).compute read)
        ((Expr.binary left op right).descend Leveled.note (fun c => Leveled.lift (read c)) level
          []) := by
      rw [Expr.descend_binary]
      refine ((ihl.2 level).bind fun a => (ihr.1 (level + 1)).bind fun b =>
        Reaches.pure (op.apply a b)).cast ?_
      rw [Expr.calls_binary]
      omega
    refine ⟨fun level => ?_, hloop⟩
    rw [Expr.call_binary]
    exact ((hloop level).note level).cast (Nat.max_eq_right (Nat.le_add_right _ _))
  | signed sign operand ih =>
    have hcall (level : Nat) : Reaches (level + (1 + operand.calls))
        ((Expr.signed sign operand).compute read)
        ((Expr.signed sign operand).call Leveled.note (fun c => Leveled.lift (read c)) level) := by
      rw [Expr.call]
      exact (((ih.1 (level + 1)).bind fun x => Reaches.pure (sign.apply x)).note level).cast
        (by omega)
    exact ⟨hcall, reaches_descend read rfl hcall⟩
  | group inner ih =>
    have hcall (level : Nat) : Reaches (level + (1 + inner.calls)) (inner.compute read)
        ((Expr.group inner).call Leveled.note (fun c => Leveled.lift (read c)) level) := by
      rw [Expr.call]
      exact ((ih.1 (level + 1)).note level).cast (by omega)
    exact ⟨hcall, reaches_descend read rfl hcall⟩

end

/-- A chain in parentheses at the beginning of a chain, and so on: each takes two calls. -/
def Expr.overhang : Nat → Expr
  | 0 => .number 1
  | n + 1 => .binary (.group (overhang n)) .add (.number 1)

theorem Expr.height_overhang (n : Nat) : (overhang n).height = n := by
  induction n with
  | zero => rfl
  | succ n ih =>
    rw [overhang, height, height, height, ih]
    omega

theorem Expr.calls_overhang (n : Nat) : (overhang n).calls = 2 * n := by
  induction n with
  | zero => rfl
  | succ n ih =>
    rw [overhang, calls_binary, callsInChain_of_isChain rfl, calls, calls, ih]
    omega

/--
With its calls noted the evaluator does what it does without, and gets as deep as the
formula has calls, or less deep if a cell fails. The depth that is set aside covers the
calls just of the formulas that have a right operand deep enough. It is never more than the
calls and never less than half of them, and for every depth there is a formula with twice
as many calls.
-/
theorem calls_of_eval (read : Coord → Eval Float) (e : Expr) :
    (∀ t, ∃ deepest ≤ e.calls,
      (e.call Leveled.note (fun c => Leveled.lift (read c)) 0).outcome t 0 =
        (((e.eval read).outcome t).1, ((e.eval read).outcome t).2, deepest) ∧
      ∀ x, ((e.eval read).outcome t).1 = .ok x → deepest = e.calls) ∧
    (e.calls ≤ e.depth ↔ e.Covered) ∧
    e.depth ≤ e.calls ∧ e.calls ≤ 2 * e.depth ∧
    ∃ e' : Expr, e'.depth = e.depth ∧ e'.calls = 2 * e.depth := by
  refine ⟨fun t => ?_, e.calls_le_depth_iff, ?_, ?_, Expr.overhang e.depth, ?_, ?_⟩
  · rw [Expr.eval_eq_compute]
    have hcall := (reaches_call read e).1 0
    rw [Nat.zero_add] at hcall
    cases houtcome : (e.compute read).outcome t with
    | mk result left =>
      cases result with
      | ok x =>
        refine ⟨e.calls, Nat.le_refl _, ?_, fun _ _ => rfl⟩
        rw [hcall.ok houtcome, Nat.zero_max]
      | error err =>
        obtain ⟨lower, hle, hlower⟩ := hcall.error houtcome 0
        exact ⟨lower, hle, by rw [hlower, Nat.zero_max], fun _ h => by cases h⟩
  · rw [Expr.depth_eq_height]
    exact e.height_le_calls
  · rw [Expr.depth_eq_height]
    exact e.calls_le_height.1
  · rw [Expr.depth_eq_height, Expr.height_overhang]
  · exact Expr.calls_overhang _

/-- The sign at the beginning of the sum is called inside of the sum and calls its operand. -/
theorem calls_of_signed_summand :
    ∃ e, read "-1+2".toList = .ok e ∧ e.depth = 1 ∧ e.calls = 2 := by
  have h : read "-1+2".toList = .ok (.binary (.signed .minus (.number (Decimal.nearest 1 1))) .add
      (.number (Decimal.nearest 2 1))) := by decide +kernel
  exact ⟨_, h, by decide, by decide⟩

end Gridbook.Formula
