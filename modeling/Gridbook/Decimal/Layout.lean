import Gridbook.Decimal.Shortest

/-!
# Writing decimals

Two layouts: all digits in their places, and a fixed number of places.
-/
namespace Gridbook.Decimal

def digits (n : Nat) : List Char := Nat.toDigits 10 n

namespace Scaled

/-- Every digit in its place, with zeros up to the point and no point without a fraction. -/
def positional (s : Scaled) : List Char :=
  let ds := digits s.coefficient
  if 0 ≤ s.exponent then ds ++ List.replicate s.exponent.toNat '0'
  else
    let places := (-s.exponent).toNat
    if places < ds.length then
      ds.take (ds.length - places) ++ '.' :: ds.drop (ds.length - places)
    else '0' :: '.' :: (List.replicate (places - ds.length) '0' ++ ds)

/-- The power of ten of the first digit. -/
def leading (s : Scaled) : Int := ((digits s.coefficient).length : Int) - 1 + s.exponent

end Scaled

/-- `num / den` with exactly `places` digits after the point. -/
def fixed (places : Nat) (num den : Nat) : List Char :=
  let ds := digits (roundDiv (num * Nat.pow 10 places) den)
  let padded := List.replicate (places + 1 - ds.length) '0' ++ ds
  padded.take (padded.length - places) ++ '.' :: padded.drop (padded.length - places)

/--
The number in full, with the fewest digits that read back. Exactly between two
decimals the larger one is written.
-/
def plain (x : Float) : List Char :=
  match Binary.ofFloat? x with
  | none => if x != x then "NaN".toList else if x < 0 then "-inf".toList else "inf".toList
  | some b =>
    let size := if b.mantissa = 0 then ['0'] else (Scaled.shortest .up x.abs b).positional
    if b.negative then '-' :: size else size

end Gridbook.Decimal
