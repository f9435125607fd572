import Gridbook.Formula.Reader
import Gridbook.Value

/-!
# Evaluation errors

Why a formula has no value. Two of the errors concern a whole chain of
references and go through to the cell that was asked for; the others become the
value of the cell in which they arise.
-/
namespace Gridbook.Formula

inductive EvalError where
  | refused (r : Refusal)
  | invalidAddress (text : String)
  | outside (c : Coord)
  | circular (c : Coord)
  | tooDeep (limit : Nat)
  | unknownFunction (name : String)
  | badPattern (pattern : String)
  | missingArgument (function : String)
  | notFinite
  deriving DecidableEq, Repr

namespace EvalError

def message : EvalError → String
  | refused r => r.text
  | invalidAddress text => "invalid cell address '" ++ text ++ "'"
  | outside c => c.label ++ " is outside the grid"
  | circular c => "circular reference through " ++ c.label
  | tooDeep limit => "reference chain deeper than " ++ toString limit
  | unknownFunction name => "unknown function " ++ name
  | badPattern pattern => "invalid pattern: " ++ pattern
  | missingArgument function => function ++ " needs an argument"
  | notFinite => "result is not a finite number"

/-- The error ends every formula on the chain of references. -/
def isFatal : EvalError → Bool
  | circular _ => true
  | tooDeep _ => true
  | _ => false

/-- The mark that a cell shows for the error. -/
def mark : EvalError → Mark
  | unknownFunction _ => .unknownFunction
  | _ => .error

end EvalError

end Gridbook.Formula
