import Gridbook.Decimal.Round

/-!
# Floating-point numbers as fractions

A finite number is `mantissa * 2 ^ exponent` with a sign. In the other direction
every fraction of natural numbers has a nearest floating-point number; between
two of them the one with the even mantissa counts, and fractions past the
largest one give infinity. All of this is arithmetic on natural numbers.
-/
namespace Gridbook.Decimal

/-- A finite number: `mantissa * 2 ^ exponent`, and its sign. -/
structure Binary where
  negative : Bool
  mantissa : Nat
  exponent : Int
  deriving DecidableEq, Repr

namespace Binary

/-- The exponent of the smallest positive number. -/
def leastExponent : Int := -1074

/-- The bits of positive infinity. -/
def infinityBits : Nat := 2047 * Nat.pow 2 52

/-- The parts of a finite number; infinities and NaN have none. -/
def ofFloat? (x : Float) : Option Binary :=
  let bits := x.toBits.toNat
  let size := bits % Nat.pow 2 63
  let raised := size / Nat.pow 2 52
  let low := size % Nat.pow 2 52
  if raised = 2047 then none
  else if raised = 0 then some ⟨decide (Nat.pow 2 63 ≤ bits), low, leastExponent⟩
  else some ⟨decide (Nat.pow 2 63 ≤ bits), low + Nat.pow 2 52, leastExponent + (raised - 1 : Nat)⟩

/-- The size of the number as numerator and denominator. -/
def ratio (b : Binary) : Nat × Nat :=
  if 0 ≤ b.exponent then (b.mantissa * Nat.pow 2 b.exponent.toNat, 1)
  else (b.mantissa, Nat.pow 2 (-b.exponent).toNat)

/-- No fraction: the number is whole. -/
def isWhole (b : Binary) : Bool := b.ratio.1 % b.ratio.2 == 0

end Binary

/-- The bits of the number nearest to `num / den`. -/
def nearestBits (num den : Nat) : Nat :=
  if num = 0 then 0
  else
    let guess : Int := (Nat.log2 num : Int) - Nat.log2 den
    let reached : Bool :=
      if 0 ≤ guess then den * Nat.pow 2 guess.toNat ≤ num else den ≤ num * Nat.pow 2 (-guess).toNat
    let top := if reached then guess else guess - 1
    let exponent := max (top - 52) Binary.leastExponent
    let mantissa :=
      if 0 ≤ exponent then roundDiv num (den * Nat.pow 2 exponent.toNat)
      else roundDiv (num * Nat.pow 2 (-exponent).toNat) den
    min (mantissa + (exponent - Binary.leastExponent).toNat * Nat.pow 2 52) Binary.infinityBits

def nearest (num den : Nat) : Float := Float.ofBits (UInt64.ofNat (nearestBits num den))

end Gridbook.Decimal
