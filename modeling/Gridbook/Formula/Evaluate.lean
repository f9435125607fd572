import Gridbook.Formula.Aggregate
import Gridbook.Formula.Call
import Gridbook.Formula.TextFunction
import Gridbook.Sheet.Basic

/-!
# Evaluating cells

A cell without a formula has its content as value. A formula is evaluated with
the cells that it refers to, which are evaluated anew each time and seen through
their display texts. The trail holds the cells that are being evaluated and the
nesting that their formulas take; meeting a cell of the trail again, a trail as
long as the limit and a nesting beyond the budget end the evaluation.

Each step into a further cell takes one from the room that is left, which is
what makes evaluation end on every sheet.
-/
namespace Gridbook.Formula

/-- The cells being evaluated, the innermost first, and the nesting that they hold. -/
structure Trail where
  cells : List Coord
  nesting : Nat
  deriving DecidableEq, Repr

def Trail.start : Trail := ⟨[], 0⟩

/-- Computations that may fail and that leave a trail in any case. -/
abbrev Eval := ExceptT EvalError (StateM Trail)

/-- The nesting that all formulas on a trail may take together. -/
def nestingBudget : Nat := 512

namespace Eval

/-- The outcome and the trail that is left. -/
def outcome (e : Eval α) (t : Trail) : Except EvalError α × Trail := (e.run t).run

/-- Runs with a further cell on the trail. -/
def inside (c : Coord) (e : Eval α) : Eval α := ExceptT.mk fun t =>
  let (result, left) := e.outcome { t with cells := c :: t.cells }
  (result, { left with cells := left.cells.tail })

/-- Runs with some nesting set aside, if the budget allows it. -/
def reserving (amount : Nat) (e : Eval α) : Eval α := ExceptT.mk fun t =>
  if nestingBudget < t.nesting + amount then (.error (.tooDeep nestingBudget), t)
  else
    let (result, left) := e.outcome { t with nesting := t.nesting + amount }
    (result, { left with nesting := left.nesting - amount })

/-- Turns an error that is not fatal into the mark that the cell shows. -/
def absorbing (e : Eval Value) : Eval Value := ExceptT.mk fun t =>
  match e.outcome t with
  | (.error err, left) => (if err.isFatal then .error err else .ok (.mark err.mark), left)
  | result => result

end Eval

section

variable (sheet : Sheet) (visit : Coord → Eval Value) (origin : Coord)

/-- What a formula sees of another cell: its display text. -/
def referenced (c : Coord) : Eval Value :=
  if sheet.contains c then do return .text (← visit c).display
  else throw (.outside c)

/-- The number of a cell in arithmetic: zero for the cell itself and for what is no number. -/
def numberAt (c : Coord) : Eval Float :=
  if c = origin then return 0
  else do return (← referenced sheet visit c).number?.getD 0

/-- The value of an arithmetic formula. -/
def evaluateArithmetic (text : List Char) : Eval Value := do
  let t ← get
  if nestingBudget < t.nesting + nesting text then throw (.tooDeep nestingBudget)
  match read text with
  | .error r => throw (.refused r)
  | .ok e =>
    let x ← Eval.reserving e.depth (e.eval (numberAt sheet visit origin))
    if x.isFinite then return .number x else throw .notFinite

/-- The area of a range argument, which has to lie in the grid. -/
def areaOf (range : List Char) : Except EvalError Area :=
  let (first, last) := Area.endsOf range
  match Coord.ofChars? first with
  | none => .error (.invalidAddress (String.ofList first))
  | some a =>
    match Coord.ofChars? last with
    | none => .error (.invalidAddress (String.ofList last))
    | some b =>
      if !sheet.contains a then .error (.outside a)
      else if !sheet.contains b then .error (.outside b)
      else .ok (Area.spanning a b)

/-- The values of all cells of a range but the one that asks. -/
def gather (range : List Char) : Eval (List Value) := do
  let area ← ExceptT.mk (pure (areaOf sheet range))
  (area.cells.filter fun c => c ≠ origin).mapM (referenced sheet visit)

/-- The value of a text function's argument: a range, a cell or a literal. -/
def argumentValue (text : List Char) : Eval Value :=
  if isRangeText text then do return .list (← gather sheet visit origin text)
  else if isCellText text then
    match Coord.ofChars? text with
    | none => throw (.invalidAddress (String.ofList text))
    | some c => if c = origin then return .text "" else referenced sheet visit c
  else return .text (String.ofList (unquote text))

/-- The value of a formula's text, without its equals sign. -/
def evaluateFormula (text : List Char) : Eval Value :=
  match call? text with
  | none => evaluateArithmetic sheet visit origin text
  | some call =>
    match Aggregate.ofName? call.name with
    | some f => do
      let values ← gather sheet visit origin (Text.trim call.arguments)
      return .number (f.apply (values.filterMap Value.number?))
    | none =>
      match TextFunction.ofName? call.name with
      | some f => do
        let values ← (cutArguments call.arguments).mapM (argumentValue sheet visit origin)
        ExceptT.mk (pure (f.apply values))
      | none => throw (.unknownFunction call.name)

end

/-- The value of a cell by its content; `formula` evaluates one that is not being evaluated yet. -/
def evaluateContent (sheet : Sheet) (c : Coord) (formula : List Char → Eval Value) :
    Eval Value :=
  match (sheet.content c).toList with
  | '=' :: text => do
    if (← get).cells.contains c then throw (.circular c)
    formula text
  | _ => return .text (sheet.content c)

/-- The value of a cell as part of a trail, with room for some more cells on it. -/
def evaluateIn (sheet : Sheet) (limit : Nat) : Nat → Coord → Eval Value
  | 0, c => evaluateContent sheet c fun _ => throw (.tooDeep limit)
  | room + 1, c => evaluateContent sheet c fun text =>
    Eval.absorbing (Eval.inside c (evaluateFormula sheet (evaluateIn sheet limit room) c text))

/-- The value of a cell on a given trail, which may grow up to the limit. -/
def evaluateOn (sheet : Sheet) (limit : Nat) (c : Coord) : Eval Value := do
  evaluateIn sheet limit (limit - (← get).cells.length) c

/-- The value of a cell; what fails shows as a mark. -/
def evaluate (sheet : Sheet) (limit : Nat) (c : Coord) : Value :=
  match ((evaluateOn sheet limit c).outcome .start).1 with
  | .ok v => v
  | .error e => .mark e.mark

/-- What a cell shows. -/
def displayed (sheet : Sheet) (limit : Nat) (c : Coord) : String :=
  (evaluate sheet limit c).display

end Gridbook.Formula
