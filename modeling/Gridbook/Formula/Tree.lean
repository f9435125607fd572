import Gridbook.Coord
import Gridbook.Decimal.Layout

/-!
# Formula trees

Arithmetic over numbers and cells. Parentheses are kept as nodes of their own,
so that a tree is printed as it was written. Chains of operators lean to the
left; printing, measuring and evaluating walk the left operands in a loop that
holds the right ones back, and recursion is for right operands only.
-/
namespace Gridbook.Formula

inductive Operator where
  | add
  | subtract
  | multiply
  | divide
  deriving DecidableEq, Repr

inductive Sign where
  | minus
  | plus
  deriving DecidableEq, Repr

inductive Expr where
  | number (x : Float)
  | cell (c : Coord)
  | binary (left : Expr) (op : Operator) (right : Expr)
  | signed (sign : Sign) (operand : Expr)
  | group (inner : Expr)
  deriving DecidableEq, Repr

namespace Operator

def apply : Operator → Float → Float → Float
  | add, a, b => a + b
  | subtract, a, b => a - b
  | multiply, a, b => a * b
  | divide, a, b => a / b

def symbol : Operator → Char
  | add => '+'
  | subtract => '-'
  | multiply => '*'
  | divide => '/'

end Operator

namespace Sign

def apply : Sign → Float → Float
  | minus, x => -x
  | plus, x => x

def symbol : Sign → Char
  | minus => '-'
  | plus => '+'

end Sign

namespace Expr

/-- The formula as text, without blanks. -/
def render : Expr → List Char
  | number x => Decimal.plain x
  | cell c => c.label.toList
  | binary l op r => render l ++ op.symbol :: render r
  | signed s e => s.symbol :: render e
  | group e => '(' :: (render e ++ [')'])

/-- The cells that the formula mentions, from left to right. -/
def cells : Expr → List Coord
  | number _ => []
  | cell c => [c]
  | binary l _ r => cells l ++ cells r
  | signed _ e => cells e
  | group e => cells e

/-- The depth of a tree, or `deepest` if right operands that were held back go deeper. -/
def depthWith (deepest : Nat) : Expr → Nat
  | number _ => deepest
  | cell _ => deepest
  | binary l _ r => depthWith (max deepest (1 + depthWith 0 r)) l
  | signed _ e => max deepest (1 + depthWith 0 e)
  | group e => max deepest (1 + depthWith 0 e)

/--
The nesting that an evaluation sets aside for the formula. A flat chain of
operators has depth one, however long it is.
-/
def depth (e : Expr) : Nat := depthWith 0 e

/-- Continues with the operands that were held back, the innermost first. -/
def resume {m : Type → Type} [Monad m] : List (Float → m Float) → Float → m Float
  | [], x => pure x
  | next :: held, x => do resume held (← next x)

/-- Evaluates a tree and then the right operands that were held back on the way to it. -/
def evalWith {m : Type → Type} [Monad m] (read : Coord → m Float) :
    Expr → List (Float → m Float) → m Float
  | number x, held => resume held x
  | cell c, held => do resume held (← read c)
  | binary l op r, held =>
    evalWith read l ((fun a => do return op.apply a (← evalWith read r [])) :: held)
  | signed s e, held => do resume held (s.apply (← evalWith read e []))
  | group e, held => do resume held (← evalWith read e [])

/-- The number that the formula computes, where `read` gives the numbers of cells. -/
def eval {m : Type → Type} [Monad m] (read : Coord → m Float) (e : Expr) : m Float :=
  evalWith read e []

end Expr

end Gridbook.Formula
