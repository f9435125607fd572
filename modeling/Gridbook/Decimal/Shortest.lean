import Gridbook.Decimal.Numeral

/-!
# The fewest digits that read back

Of the decimals with one digit, with two, and so on, the first that reads back
as the same floating-point number is taken; of two with equally many digits the
nearer one. Exactly between them the caller's rule decides.
-/
namespace Gridbook.Decimal

/-- A decimal `coefficient * 10 ^ exponent`. -/
structure Scaled where
  coefficient : Nat
  exponent : Int
  deriving DecidableEq, Repr

/-- What is done with a number exactly between two decimals. -/
inductive Tie where
  | up
  | toEven
  deriving DecidableEq, Repr

namespace Scaled

/-- The floating-point number that the decimal reads as. -/
def toFloat (s : Scaled) : Float :=
  if 0 ≤ s.exponent then nearest (s.coefficient * Nat.pow 10 s.exponent.toNat) 1
  else nearest s.coefficient (Nat.pow 10 (-s.exponent).toNat)

/-- The same decimal without zeros at the end of its digits, for at most `n` of them. -/
def dropZeros : Nat → Scaled → Scaled
  | 0, s => s
  | n + 1, s =>
    if s.coefficient % 10 = 0 then dropZeros n ⟨s.coefficient / 10, s.exponent + 1⟩ else s

/-- The exact value of a finite number. -/
def ofBinary (b : Binary) : Scaled :=
  if 0 ≤ b.exponent then ⟨b.mantissa * Nat.pow 2 b.exponent.toNat, 0⟩
  else ⟨b.mantissa * Nat.pow 5 (-b.exponent).toNat, b.exponent⟩

/-- The largest power of ten that is at most `num / den`. -/
def magnitude (num den : Nat) : Int :=
  let guess : Int := ((Nat.toDigits 10 num).length : Int) - (Nat.toDigits 10 den).length
  let reached : Bool :=
    if 0 ≤ guess then den * Nat.pow 10 guess.toNat ≤ num else den ≤ num * Nat.pow 10 (-guess).toNat
  if reached then guess else guess - 1

/-- The two decimals with the given exponent around `num / den`, the better one first. -/
def neighbours (tie : Tie) (num den : Nat) (exponent : Int) : List Scaled :=
  let (n, d) :=
    if 0 ≤ exponent then (num, den * Nat.pow 10 exponent.toNat)
    else (num * Nat.pow 10 (-exponent).toNat, den)
  let below := n / d
  let twice := 2 * (n % d)
  let lowFirst : Bool :=
    if twice = d then tie == .toEven && below % 2 == 0 else twice < d
  let low : Scaled := ⟨below, exponent⟩
  let high : Scaled := ⟨below + 1, exponent⟩
  if lowFirst then [low, high] else [high, low]

/-- The first decimal that reads back, with digits down to `exponent` and then `n` places further. -/
def search (tie : Tie) (x : Float) (num den : Nat) : Nat → Int → Option Scaled
  | 0, _ => none
  | n + 1, exponent =>
    match (neighbours tie num den exponent).find? fun s => s.toFloat.toBits == x.toBits with
    | some s => some s
    | none => search tie x num den n (exponent - 1)

/-- The shortest decimal of a positive finite number; seventeen digits always suffice. -/
def shortest (tie : Tie) (x : Float) (b : Binary) : Scaled :=
  let (num, den) := b.ratio
  let found := (search tie x num den 17 (magnitude num den)).getD (ofBinary b)
  dropZeros 20 found

end Scaled

end Gridbook.Decimal
