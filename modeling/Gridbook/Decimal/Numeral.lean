import Gridbook.Decimal.Binary

/-!
# Unsigned decimal numerals

Digits with an optional fraction, or a point and digits; then, if digits follow
it, an exponent. The longest numeral at the start of a text is cut off and read
as the nearest floating-point number.
-/
namespace Gridbook.Decimal

structure Numeral where
  whole : List Char
  fraction : List Char
  exponent : Int
  deriving DecidableEq, Repr

/-- The digits at the start of a text, and the rest. -/
def spanDigits (s : List Char) : List Char × List Char := s.span Char.isDigit

def valueOf (digits : List Char) : Nat := Nat.ofDigitChars 10 digits 0

namespace Numeral

/-- The digits, with their point if one is there, at the start of a text. -/
def scanDigits? (s : List Char) : Option ((List Char × List Char) × List Char) :=
  match spanDigits s with
  | ([], '.' :: rest) =>
    match spanDigits rest with
    | ([], _) => none
    | (fraction, rest) => some (([], fraction), rest)
  | ([], _) => none
  | (whole, '.' :: rest) => some ((whole, (spanDigits rest).1), (spanDigits rest).2)
  | (whole, rest) => some ((whole, []), rest)

/-- The exponent at the start of a text; without one, zero and the whole text. -/
def scanExponent (s : List Char) : Int × List Char :=
  match s with
  | mark :: rest =>
    if mark = 'e' ∨ mark = 'E' then
      let (negative, digits) : Bool × List Char :=
        match rest with
        | '-' :: digits => (true, digits)
        | '+' :: digits => (false, digits)
        | digits => (false, digits)
      match spanDigits digits with
      | ([], _) => (0, s)
      | (power, rest) => (if negative then -(valueOf power : Int) else valueOf power, rest)
    else (0, s)
  | [] => (0, s)

/-- The longest numeral at the start of a text, and what follows it. -/
def scan? (s : List Char) : Option (Numeral × List Char) :=
  (scanDigits? s).map fun (⟨whole, fraction⟩, rest) =>
    (⟨whole, fraction, (scanExponent rest).1⟩, (scanExponent rest).2)

/-- The value is `coefficient * 10 ^ scale`. -/
def coefficient (n : Numeral) : Nat := valueOf (n.whole ++ n.fraction)

def scale (n : Numeral) : Int := n.exponent - n.fraction.length

/--
The nearest floating-point number. Numerals far outside its range are decided
by their number of digits, so that no large power is computed for them.
-/
def toFloat (n : Numeral) : Float :=
  let top : Int := (Nat.toDigits 10 n.coefficient).length + n.scale
  if n.coefficient = 0 then nearest 0 1
  else if 310 < top then nearest (Nat.pow 2 1024) 1
  else if top < -330 then nearest 0 1
  else if 0 ≤ n.scale then nearest (n.coefficient * Nat.pow 10 n.scale.toNat) 1
  else nearest n.coefficient (Nat.pow 10 (-n.scale).toNat)

end Numeral

end Gridbook.Decimal
