import Gridbook.Text.Blank
import Gridbook.Decimal.Layout

/-!
# Cell values

A cell evaluates to a number, a text or an error mark; a range argument gathers
values into a list. Every value has a display text, and the number at the start
of a display text can be read again.
-/
namespace Gridbook

/-- The marks shown in place of a value. -/
inductive Mark where
  | error
  | unknownFunction
  deriving DecidableEq, Repr

def Mark.text : Mark → String
  | .error => "#ERROR!"
  | .unknownFunction => "#UNKNOWN_FUNCTION"

inductive Value where
  | number (x : Float)
  | text (s : String)
  | list (items : List Value)
  | mark (m : Mark)
  deriving Repr

/-- An odd number of eighths lies exactly between two hundredths. -/
def isOddEighth (b : Decimal.Binary) : Bool :=
  let (num, den) := b.ratio
  (num * 8) % den == 0 && (num * 8 / den) % 2 == 1

/--
Whole numbers are written without a fraction and zero without a sign. Other
numbers have two places: exactly between two hundredths away from zero, else as
the exact value rounds.
-/
def showNumber (x : Float) : List Char :=
  match Decimal.Binary.ofFloat? x with
  | none => Mark.error.text.toList
  | some b =>
    if b.mantissa = 0 then ['0']
    else if b.isWhole then Decimal.plain x
    else
      let shown := if isOddEighth b then (x * 100).round / 100 else x
      match Decimal.Binary.ofFloat? shown with
      | none => "inf".toList
      | some b =>
        let size := Decimal.fixed 2 b.ratio.1 b.ratio.2
        if b.negative then '-' :: size else size

/-- The number at the start of a text, after blanks and with an optional sign. -/
def readNumber? (text : List Char) : Option Float :=
  let (negative, rest) : Bool × List Char :=
    match Text.trimStart text with
    | '-' :: rest => (true, rest)
    | '+' :: rest => (false, rest)
    | rest => (false, rest)
  match Decimal.Numeral.scan? rest with
  | none => none
  | some (n, _) =>
    let x := if negative then -n.toFloat else n.toFloat
    if x.isFinite then some x else none

namespace Value

/-- The empty text, the value of an empty cell. -/
instance : Inhabited Value := ⟨.text ""⟩

mutual

/-- What a cell with this value shows; the items of a list are joined by commas. -/
def display : Value → String
  | .number x => String.ofList (showNumber x)
  | .text s => s
  | .list items => ",".intercalate (displays items)
  | .mark m => m.text

/-- The display texts of several values. -/
def displays : List Value → List String
  | [] => []
  | v :: vs => display v :: displays vs

end

@[simp] theorem displays_eq_map (vs : List Value) : displays vs = vs.map display := by
  induction vs with
  | nil => rfl
  | cons v vs ih => simp [displays, ih]

def number? : Value → Option Float
  | .number x => some x
  | .text s => readNumber? s.toList
  | .list _ => none
  | .mark _ => none

def isMark : Value → Bool
  | .mark _ => true
  | _ => false

end Value

end Gridbook
