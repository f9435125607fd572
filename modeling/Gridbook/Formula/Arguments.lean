import Gridbook.Formula.Reference

/-!
# Argument lists

The text between a function's parentheses is cut at the commas that stand
outside of quotes and of further parentheses. A closing parenthesis without an
opening one changes nothing.
-/
namespace Gridbook.Formula

/-- Puts a character in front of the first part. -/
def addToPart (c : Char) : List (List Char) → List (List Char)
  | [] => [[c]]
  | part :: rest => (c :: part) :: rest

/-- The parts of a text that begins inside the given quote, or inside `depth` parentheses. -/
def cutWith : Option Char → Nat → List Char → List (List Char)
  | _, _, [] => [[]]
  | some q, depth, c :: rest => addToPart c (cutWith (if c = q then none else some q) depth rest)
  | none, depth, c :: rest =>
    if isQuote c then addToPart c (cutWith (some c) depth rest)
    else if c = '(' then addToPart c (cutWith none (depth + 1) rest)
    else if c = ')' then addToPart c (cutWith none (depth - 1) rest)
    else if c = ',' ∧ depth = 0 then [] :: cutWith none depth rest
    else addToPart c (cutWith none depth rest)

/-- The arguments without the blanks around them; an empty list is one empty argument. -/
def cutArguments (text : List Char) : List (List Char) := (cutWith none 0 text).map Text.trim

/-- Takes away one quote at the start and one at the end, of either kind. -/
def unquote (text : List Char) : List Char :=
  let opened :=
    match text with
    | c :: rest => if isQuote c then rest else text
    | [] => []
  match opened.getLast? with
  | some c => if isQuote c then opened.dropLast else opened
  | none => []

end Gridbook.Formula
