import Gridbook.LineEdit
import Gridbook.Text.Word

/-!
# References in formula text

The text of a formula falls into words, which are as long as possible, and the
single characters between them; every character inside quotes is one of the
latter. A word that is a cell's name is a reference. Substitution replaces
references and copies all else, so that a text can be followed through edits
whether or not anybody can read it as a formula.
-/
namespace Gridbook.Formula

inductive Piece where
  | word (w : List Char)
  | mark (c : Char)
  deriving DecidableEq, Repr

/-- Puts a character in front of the first piece if that is a word. -/
def addToWord (c : Char) : List Piece → List Piece
  | .word w :: rest => .word (c :: w) :: rest
  | pieces => .word [c] :: pieces

def isQuote (c : Char) : Bool := c == '"' || c == '\''

/-- The pieces of a text that begins inside the given quote or outside of quotes. -/
def pieces : Option Char → List Char → List Piece
  | _, [] => []
  | some q, c :: rest => .mark c :: pieces (if c = q then none else some q) rest
  | none, c :: rest =>
    if isQuote c then .mark c :: pieces (some c) rest
    else if Text.isWord c then addToWord c (pieces none rest)
    else .mark c :: pieces none rest

namespace Piece

def text : Piece → List Char
  | word w => w
  | mark c => [c]

/-- The cell that the piece refers to. -/
def reference? : Piece → Option Coord
  | word w => Coord.ofChars? w
  | mark _ => none

/-- The text of a piece, or what `replace` gives for its reference. -/
def substitute (replace : Coord → Option (List Char)) (p : Piece) : List Char :=
  (p.reference?.bind replace).getD p.text

end Piece

@[simp] theorem flatMap_text_addToWord (c : Char) (ps : List Piece) :
    (addToWord c ps).flatMap Piece.text = c :: ps.flatMap Piece.text := by
  cases ps with
  | nil => rfl
  | cons p ps => cases p <;> rfl

/-- Cutting a text into pieces loses nothing. -/
@[simp] theorem flatMap_text_pieces (q : Option Char) (s : List Char) :
    (pieces q s).flatMap Piece.text = s := by
  fun_induction pieces q s <;> simp_all [Piece.text]

/-- Texts that begin with an equals sign are formulas. -/
def isFormula : List Char → Bool
  | '=' :: _ => true
  | _ => false

/-- The references of a formula from left to right. -/
def references (formula : List Char) : List Coord :=
  if isFormula formula then (pieces none formula).filterMap Piece.reference? else []

/-- The formula with its references replaced where `replace` has a text for them. -/
def substitute (replace : Coord → Option (List Char)) (formula : List Char) : List Char :=
  if isFormula formula then (pieces none formula).flatMap (Piece.substitute replace) else formula

/-- Exchanges the references to two cells. -/
def swapReferences (a b : Coord) : List Char → List Char :=
  substitute fun c => if c = a then b.nameChars? else if c = b then a.nameChars? else none

/-- Moves every reference; one that would leave the grid stays as it is. -/
def offsetReferences (down right : Int) (rows cols : Nat) : List Char → List Char :=
  substitute fun c => (c.offset? down right rows cols).bind Coord.nameChars?

/-- What is written for a reference to a cell that is gone. -/
def lostReference : List Char := "#REF!".toList

/-- The new text of a reference after a line edit, if it changes. -/
def shiftedName (e : LineEdit) (c : Coord) : Option (List Char) :=
  match e.target c with
  | none => some lostReference
  | some d => if d = c then none else some (d.nameChars?.getD lostReference)

/-- Follows the references through a line edit. -/
def shiftReferences (e : LineEdit) : List Char → List Char := substitute (shiftedName e)

end Gridbook.Formula
