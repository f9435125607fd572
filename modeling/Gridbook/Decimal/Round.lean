/-!
# Rounding a quotient

The nearest natural number to `num / den`; exactly between two of them, the
even one.
-/
namespace Gridbook.Decimal

def roundDiv (num den : Nat) : Nat :=
  let below := num / den
  let twice := 2 * (num % den)
  if twice < den then below
  else if den < twice then below + 1
  else if below % 2 = 0 then below else below + 1

/-- A quotient without remainder is its own rounding. -/
theorem roundDiv_mul {den : Nat} (n : Nat) (h : 0 < den) : roundDiv (n * den) den = n := by
  simp [roundDiv, Nat.mul_div_cancel _ h, h]

end Gridbook.Decimal
