import Gridbook.Decimal.Layout

/-!
# Numbers in JSON text

A number is kept as it is spelled until somebody asks for its value. A whole
number of 64 bits has that value; every other spelling is read by scaling: its
digits are taken as long as they fit 64 bits, and the floating-point number of
those digits is multiplied or divided once by a power of ten.
-/
namespace Gridbook.Json

open Decimal (digits valueOf)

/-- A number as it is spelled. An empty fraction is no fraction. -/
structure Literal where
  negative : Bool
  whole : List Char
  fraction : List Char
  power : Option (Bool × List Char)
  deriving DecidableEq, Repr

inductive Number where
  | natural (n : Nat)
  | minus (n : Nat)
  | float (x : Float)
  deriving Repr

/-- The largest number of 64 bits. -/
def largestWord : Nat := 18446744073709551615

/-- The largest power of ten that a spelling may name. -/
def largestPower : Nat := 2147483647

/-- Appends digits to a number as long as it fits 64 bits; the other digits are left over. -/
def keepDigits : Nat → List Char → Nat × List Char
  | n, [] => (n, [])
  | n, c :: cs =>
    let next := 10 * n + (c.toNat - '0'.toNat)
    if next ≤ largestWord then keepDigits next cs else (n, c :: cs)

def powerOfTen (n : Nat) : Float := Decimal.nearest (Nat.pow 10 n) 1

/-- Division by a power of ten, at most 308 at a time; three such steps bring 64 bits to zero. -/
def scaleDown : Nat → Float → Nat → Float
  | 0, x, _ => x
  | steps + 1, x, power =>
    if power ≤ 308 then x / powerOfTen power
    else if x == 0 then x
    else scaleDown steps (x / powerOfTen 308) (power - 308)

/-- The number `n * 10 ^ power`; none where it is too large. -/
def scale? (n : Nat) (power : Int) : Option Float :=
  let x := Decimal.nearest n 1
  if power < 0 then some (scaleDown 4 x power.natAbs)
  else if n = 0 then some x
  else if 308 < power then none
  else
    let scaled := x * powerOfTen power.toNat
    if scaled.isFinite then some scaled else none

namespace Literal

/-- The size of a number that is read by scaling. -/
def scaled? (l : Literal) : Option Float :=
  let (kept, dropped) := keepDigits 0 l.whole
  let (kept, unused) := keepDigits kept l.fraction
  let shift : Int := dropped.length - (l.fraction.length - unused.length : Nat)
  match l.power with
  | none => scale? kept shift
  | some (negative, ds) =>
    let power := valueOf ds
    if largestPower < power then
      if kept = 0 ∨ negative then some (Decimal.nearest 0 1) else none
    else scale? kept (if negative then shift - power else shift + power)

/-- The value of a number; none where it is out of range. -/
def number? (l : Literal) : Option Number :=
  let n := valueOf l.whole
  if l.fraction = [] ∧ l.power = none ∧ n ≤ largestWord then
    if !l.negative then some (.natural n)
    else if n = 0 ∨ Nat.pow 2 63 < n then some (.float (-Decimal.nearest n 1))
    else some (.minus n)
  else l.scaled?.map fun x => .float (if l.negative then -x else x)

def ofNat (n : Nat) : Literal := ⟨false, digits n, [], none⟩

/--
The fewest digits that read back, with at least one place. Numbers below
`0.00001` and from `10 ^ 16` on are written with a power of ten.
-/
def ofBinary (x : Float) (b : Decimal.Binary) : Literal :=
  if b.mantissa = 0 then ⟨b.negative, ['0'], ['0'], none⟩
  else
    let s := Decimal.Scaled.shortest .toEven x.abs b
    let lead := s.leading
    if -5 ≤ lead ∧ lead < 16 then
      match s.positional.span (· ≠ '.') with
      | (whole, _ :: fraction) => ⟨b.negative, whole, fraction, none⟩
      | (whole, []) => ⟨b.negative, whole, ['0'], none⟩
    else
      let power := some (decide (lead < 0), digits lead.natAbs)
      match digits s.coefficient with
      | d :: rest => ⟨b.negative, [d], rest, power⟩
      | [] => ⟨b.negative, ['0'], [], power⟩

def write (l : Literal) : List Char :=
  let sign := if l.negative then ['-'] else []
  let places := if l.fraction = [] then [] else '.' :: l.fraction
  let power :=
    match l.power with
    | none => []
    | some (negative, ds) => 'e' :: (if negative then '-' else '+') :: ds
  sign ++ l.whole ++ places ++ power

end Literal

namespace Number

def toFloat : Number → Float
  | natural n => Decimal.nearest n 1
  | minus n => -Decimal.nearest n 1
  | float x => x

end Number

end Gridbook.Json
