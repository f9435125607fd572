import Gridbook.Pattern.Search

/-!
# Replacing matches

In a replacement `$` and a number or name stand for what a group matched; the
name may be in braces, and `$$` is a dollar sign. A dollar sign that names
nothing stands for itself, a group that is not there for the empty text.
-/
namespace Gridbook.Pattern

/-- The text that a group matched. -/
def groupText (text : List Char) (m : Match) (number : Nat) : List Char :=
  match m.slots.get? (2 * number), m.slots.get? (2 * number + 1) with
  | some first, some stop => (text.drop first).take (stop - first)
  | _, _ => []

/-- The largest group number that is read as a number. -/
def largestNumber : Nat := 18446744073709551615

/-- The number of the group that is named, if there is one. -/
def groupNumber? (p : Program) (name : List Char) : Option Nat :=
  let ds :=
    match name with
    | '+' :: ds => ds
    | ds => ds
  if ds ≠ [] ∧ ds.all Char.isDigit ∧ Decimal.valueOf ds ≤ largestNumber then
    some (Decimal.valueOf ds)
  else (p.names.find? fun entry => entry.1 == String.ofList name).map Prod.snd

/-- What a name stands for. -/
def expandName (p : Program) (text : List Char) (m : Match) (name : List Char) : List Char :=
  match groupNumber? p name with
  | some n => groupText text m n
  | none => []

def isReferenceChar (c : Char) : Bool := c.isAlphanum || c == '_'

/-- The replacement for a match; `n` bounds the characters of the replacement. -/
def expand (p : Program) (text : List Char) (m : Match) : Nat → List Char → List Char
  | 0, _ => []
  | _ + 1, [] => []
  | n + 1, '$' :: '$' :: rest => '$' :: expand p text m n rest
  | n + 1, '$' :: '\x7b' :: rest =>
    match rest.span (· ≠ '\x7d') with
    | (_, []) => '$' :: expand p text m n ('\x7b' :: rest)
    | (name, _ :: rest) => expandName p text m name ++ expand p text m n rest
  | n + 1, '$' :: rest =>
    match rest.span isReferenceChar with
    | ([], _) => '$' :: expand p text m n rest
    | (name, rest) => expandName p text m name ++ expand p text m n rest
  | n + 1, c :: rest => c :: expand p text m n rest

/-- The text from a position on with its matches replaced. -/
def splice (p : Program) (text replacement : List Char) : Nat → List Match → List Char
  | position, [] => text.drop position
  | position, m :: rest =>
    (text.drop position).take (m.first - position) ++
      expand p text m (replacement.length + 1) replacement ++
      splice p text replacement m.stop rest

/-- The text with every match replaced. -/
def replaceAll (p : Program) (text replacement : String) : String :=
  let cs := text.toList
  String.ofList (splice p cs replacement.toList 0 (allMatches p cs))

end Gridbook.Pattern
