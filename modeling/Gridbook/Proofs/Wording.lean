import Gridbook.Proofs.Name
import Gridbook.Proofs.Spelling

/-!
# Formulas as they are written

A wording is a tree together with all that the tree forgets: the gaps, the
spelling of the numbers and the names of the cells. It fits a level of the
grammar when operators stand only where their precedence allows it; a text is a
formula of a tree exactly if it is the text of such a wording.
-/
namespace Gridbook.Formula

open Decimal (Spelling)

/-- A formula with its gaps and the spelling of its leaves. -/
inductive Wording where
  | number (gap : List Char) (spelling : Spelling)
  | cell (gap : List Char) (name : List Char) (place : Coord)
  | binary (left : Wording) (gap : List Char) (op : Operator) (right : Wording)
  | signed (gap : List Char) (sign : Sign) (operand : Wording)
  /-- The second gap stands in front of the closing parenthesis. -/
  | group (gap : List Char) (inner : Wording) (closing : List Char)

/-- The level of the chains that an operator makes: sums have 0, products 1. -/
def Operator.level : Operator → Nat
  | .add => 0
  | .subtract => 0
  | .multiply => 1
  | .divide => 1

theorem Operator.level_le (op : Operator) : op.level ≤ 1 := by cases op <;> decide

namespace Wording

def text : Wording → List Char
  | number gap spelling => gap ++ spelling.text
  | cell gap name _ => gap ++ name
  | binary left gap op right => left.text ++ (gap ++ op.symbol :: right.text)
  | signed gap sign operand => gap ++ sign.symbol :: operand.text
  | group gap inner closing => gap ++ '(' :: (inner.text ++ (closing ++ [')']))

def tree : Wording → Expr
  | number _ spelling => .number spelling.numeral.toFloat
  | cell _ _ place => .cell place
  | binary left _ op right => .binary left.tree op right.tree
  | signed _ sign operand => .signed sign operand.tree
  | group _ inner _ => .group inner.tree

/-- Spaces, tabs and line ends only. -/
def IsGap (gap : List Char) : Prop := ∀ c ∈ gap, isGap c = true

/-- The wording stands for a sum, a product or an operand, which have the levels 0, 1 and 2. -/
def Fits : Nat → Wording → Prop
  | _, number gap spelling => IsGap gap ∧ spelling.Valid
  | _, cell gap name place => IsGap gap ∧ Coord.ofChars? name = some place
  | level, binary left gap op right =>
    level ≤ op.level ∧ left.Fits op.level ∧ IsGap gap ∧ right.Fits (op.level + 1)
  | _, signed gap _ operand => IsGap gap ∧ operand.Fits 2
  | _, group gap inner closing => IsGap gap ∧ inner.Fits 0 ∧ IsGap closing

theorem isGap_append {g h : List Char} (hg : IsGap g) (hh : IsGap h) : IsGap (g ++ h) := by
  intro c hc
  rcases List.mem_append.mp hc with hc | hc
  · exact hg c hc
  · exact hh c hc

theorem isGap_nil : IsGap [] := by simp [IsGap]

/-- An operand is a product, and a product is a sum. -/
theorem Fits.mono {w : Wording} {m n : Nat} (h : w.Fits n) (hm : m ≤ n) : w.Fits m := by
  cases w with
  | number gap spelling => exact h
  | cell gap name place => exact h
  | binary left gap op right => exact ⟨Nat.le_trans hm h.1, h.2⟩
  | signed gap sign operand => exact h
  | group gap inner closing => exact h

end Wording

end Gridbook.Formula
