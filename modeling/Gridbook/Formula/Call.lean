import Gridbook.Area
import Gridbook.Formula.Arguments

/-!
# Function calls and their arguments

A formula that is a name and then, up to its last character, a pair of
parentheses is a call. What the parentheses hold is not looked at here. A call's
argument may be the name of a cell or a range of two names.
-/
namespace Gridbook.Formula

/-- A function's name in capitals and the text between its parentheses. -/
structure Call where
  name : String
  arguments : List Char

def isNameStart (c : Char) : Bool := c.isAlpha || c == '_'

def isNameChar (c : Char) : Bool := c.isAlphanum || c == '_'

def call? (text : List Char) : Option Call :=
  let s := Text.trim text
  if (s.head?.map isNameStart).getD false then
    match Text.trimStart (s.dropWhile isNameChar) with
    | '(' :: rest =>
      if rest.getLast? = some ')' then
        some ⟨String.ofList ((s.takeWhile isNameChar).map Char.toUpper), rest.dropLast⟩
      else none
    | _ => none
  else none

/-- A capital and digits, whether or not there is such a row. -/
def isCellText : List Char → Bool
  | letter :: digits => letter.isUpper && !digits.isEmpty && digits.all Char.isDigit
  | [] => false

/-- Two cell texts with a colon and blanks between them. -/
def isRangeText (text : List Char) : Bool :=
  match text.span (· ≠ ':') with
  | (first, _ :: last) => isCellText (Text.trimEnd first) && isCellText (Text.trimStart last)
  | _ => false

end Gridbook.Formula
