/-!
# Aggregate functions

Functions of the numbers in a range. Infinities are passed over. The sum of no
numbers is negative zero, the unit of addition; the other results are zero then.
-/
namespace Gridbook.Formula

inductive Aggregate where
  | sum
  | average
  | max
  | min
  | count
  deriving DecidableEq, Repr

namespace Aggregate

/-- The function of a name in capitals. -/
def ofName? (name : String) : Option Aggregate :=
  match name with
  | "SUM" => some sum
  | "AVERAGE" => some average
  | "MAX" => some max
  | "MIN" => some min
  | "COUNT" => some count
  | _ => none

/-- The better of two numbers by `better`; of equal ones the first. -/
def pick (better : Float → Float → Bool) : List Float → Float
  | [] => 0
  | x :: xs => xs.foldl (fun best x => if better x best then x else best) x

def apply (f : Aggregate) (values : List Float) : Float :=
  let finite := values.filter Float.isFinite
  match f with
  | sum => finite.foldl (· + ·) (-0.0)
  | average =>
    if finite.isEmpty then 0 else finite.foldl (· + ·) 0.0 / Float.ofNat finite.length
  | max => pick (fun x best => best < x) finite
  | min => pick (fun x best => x < best) finite
  | count => Float.ofNat finite.length

end Aggregate

end Gridbook.Formula
