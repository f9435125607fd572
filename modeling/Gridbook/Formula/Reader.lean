import Gridbook.Formula.Tree

/-!
# Reading formulas

A sum of products of operands, where an operand is a number, a cell, a formula
in parentheses or an operand with a sign. Gaps between the parts are spaces,
tabs and line ends; after the last part any blank may follow. A text nested too
deeply is refused before it is read.

A reader gives the tree and what follows it, or the rest of the text at which it
gave up. An operator whose right operand cannot be read is left in the rest.
-/
namespace Gridbook.Formula

open Decimal (Numeral spanDigits)

/-- Why a text is no formula, and the byte at which this was seen. -/
structure Refusal where
  message : String
  position : Nat
  deriving DecidableEq, Repr

def Refusal.text (r : Refusal) : String :=
  "Parse error at position " ++ toString r.position ++ ": " ++ r.message

/-- The deepest nesting of parentheses and signs that is read. -/
def deepestNesting : Nat := 128

/-- The nesting of a text, given the open parentheses, the signs in a row and the deepest so far. -/
def nestingWith (depth signs deepest : Nat) : List Char → Nat
  | [] => deepest
  | c :: rest =>
    let (depth, signs) : Nat × Nat :=
      if c = '(' then (depth + 1, 0)
      else if c = ')' then (depth - 1, 0)
      else if c = '+' ∨ c = '-' then (depth, signs + 1)
      else if Text.isBlank c then (depth, signs)
      else (depth, 0)
    nestingWith depth signs (max deepest (depth + signs)) rest

/-- The most parentheses that are open at once together with the signs that follow them. -/
def nesting (text : List Char) : Nat := nestingWith 0 0 0 text

def isGap (c : Char) : Bool := c == ' ' || c == '\t' || c == '\r' || c == '\n'

def skipGap (s : List Char) : List Char := s.dropWhile isGap

/-- A tree and what follows it, or the rest at which reading gave up. -/
abbrev Reading := Except (List Char) (Expr × List Char)

/-- A cell's name. -/
def readCell : List Char → Reading
  | [] => .error []
  | c :: rest =>
    if c.isUpper then
      match spanDigits rest with
      | ([], _) => .error rest
      | (ds, after) =>
        match Coord.ofChars? (c :: ds) with
        | some place => .ok (.cell place, after)
        | none => .error (c :: rest)
    else .error (c :: rest)

/-- A number or a cell, and the gap after it. -/
def readLeaf (s : List Char) : Reading :=
  match Numeral.scan? s with
  | some (n, rest) => .ok (.number n.toFloat, skipGap rest)
  | none =>
    match readCell s with
    | .ok (e, rest) => .ok (e, skipGap rest)
    | .error rest => .error rest

def factorOperator? : List Char → Option (Operator × List Char)
  | '*' :: rest => some (.multiply, rest)
  | '/' :: rest => some (.divide, rest)
  | _ => none

def termOperator? : List Char → Option (Operator × List Char)
  | '+' :: rest => some (.add, rest)
  | '-' :: rest => some (.subtract, rest)
  | _ => none

/-- Joins up to `n` further operands to a tree by the operators between them. -/
def readChain (operator? : List Char → Option (Operator × List Char))
    (operand : List Char → Reading) : Nat → Expr → List Char → Expr × List Char
  | 0, e, s => (e, s)
  | n + 1, e, s =>
    match operator? (skipGap s) with
    | none => (e, s)
    | some (op, rest) =>
      match operand rest with
      | .error _ => (e, s)
      | .ok (right, rest) => readChain operator? operand n (.binary e op right) rest

/-- An operand and the chain that follows it; each link takes a character at least. -/
def readJoined (operator? : List Char → Option (Operator × List Char))
    (operand : List Char → Reading) (s : List Char) : Reading :=
  match operand s with
  | .error rest => .error rest
  | .ok (e, rest) => .ok (readChain operator? operand rest.length e rest)

def readSum (operand : List Char → Reading) (s : List Char) : Reading :=
  readJoined termOperator? (readJoined factorOperator? operand) s

/-- An operand in which signs and parentheses stand less than `n` deep. -/
def readOperand : Nat → List Char → Reading
  | 0, s => .error s
  | n + 1, s =>
    match skipGap s with
    | '-' :: rest =>
      match readOperand n rest with
      | .ok (e, after) => .ok (.signed .minus e, after)
      | .error _ => .error ('-' :: rest)
    | '+' :: rest =>
      match readOperand n rest with
      | .ok (e, after) => .ok (.signed .plus e, after)
      | .error _ => .error ('+' :: rest)
    | '(' :: rest =>
      match readSum (readOperand n) rest with
      | .ok (e, ')' :: after) => .ok (.group e, skipGap after)
      | _ => .error ('(' :: rest)
    | s => readLeaf s

/-- The refusal of a text because of what stands in `rest`, a part at its end. -/
def unexpected (text rest : List Char) : Refusal where
  message := "Unexpected input: '" ++ String.ofList (Text.trim rest) ++ "'"
  position := Text.byteLength text - Text.byteLength rest

/-- The tree of a formula's text; one equals sign in front of it is passed over. -/
def read (text : List Char) : Except Refusal Expr :=
  let s :=
    match text with
    | '=' :: rest => rest
    | s => s
  if Text.trim s = [] then .error ⟨"Empty expression", 0⟩
  else if deepestNesting < nesting s then
    .error ⟨"Expression nested deeper than " ++ toString deepestNesting, 0⟩
  else
    match readSum (readOperand (s.length + 1)) s with
    | .error rest => .error (unexpected s rest)
    | .ok (e, rest) =>
      if Text.trim rest = [] then .ok e else .error (unexpected s (Text.trimStart rest))

end Gridbook.Formula
