import Gridbook.Formula.Error
import Gridbook.Pattern.Replace

/-!
# Text functions

Functions of argument values. Of a range, the ones that work on a single text
take the first value; the others work on every value.
-/
namespace Gridbook.Formula

inductive TextFunction where
  | trim
  | upper
  | lower
  | removeDuplicates
  | findAndReplace
  deriving DecidableEq, Repr

namespace TextFunction

def name : TextFunction → String
  | trim => "TRIM"
  | upper => "UPPER"
  | lower => "LOWER"
  | removeDuplicates => "REMOVE_DUPLICATES"
  | findAndReplace => "FIND_AND_REPLACE"

/-- The function of a name in capitals. -/
def ofName? (name : String) : Option TextFunction :=
  match name with
  | "TRIM" => some trim
  | "UPPER" => some upper
  | "LOWER" => some lower
  | "REMOVE_DUPLICATES" => some removeDuplicates
  | "FIND_AND_REPLACE" => some findAndReplace
  | _ => none

/-- The display text of the first argument, or of its first item. -/
def firstText (f : TextFunction) : List Value → Except EvalError String
  | .list (v :: _) :: _ => .ok v.display
  | .list [] :: _ => .error (.missingArgument f.name)
  | v :: _ => .ok v.display
  | [] => .error (.missingArgument f.name)

/-- The text by which values are told apart; the items of a row are joined by bars. -/
def rowKey : Value → String
  | .list items => "|".intercalate (items.map Value.display)
  | v => v.display

/-- The values whose keys were not seen before them. -/
def firstOccurrences (seen : List String) : List Value → List Value
  | [] => []
  | v :: vs =>
    if seen.contains (rowKey v) then firstOccurrences seen vs
    else v :: firstOccurrences (rowKey v :: seen) vs

def withoutDuplicates : List Value → Except EvalError Value
  | .list items :: _ => .ok (.list (firstOccurrences [] items))
  | v :: _ => .ok v
  | [] => .error (.missingArgument removeDuplicates.name)

/-- The display text with all matches of the pattern replaced. -/
def replaceIn (p : Pattern.Program) (replacement : String) (v : Value) : Value :=
  .text (Pattern.replaceAll p v.display replacement)

/--
Replaces matches in a value or in every item of a range. An empty pattern or a
value that shows nothing leaves the value as it is.
-/
def replaced (v : Value) (find replacement : String) : Except EvalError Value :=
  if find = "" ∨ v.display = "" then .ok v
  else
    match Pattern.compile? find with
    | none => .error (.badPattern find)
    | some p =>
      match v with
      | .list items => .ok (.list (items.map (replaceIn p replacement)))
      | v => .ok (replaceIn p replacement v)

/-- The display text of an argument that may be missing. -/
def shown (args : List Value) (index : Nat) : String :=
  match args[index]? with
  | some v => v.display
  | none => ""

def apply (f : TextFunction) (args : List Value) : Except EvalError Value :=
  let onText (g : List Char → List Char) :=
    (f.firstText args).map fun s => Value.text (String.ofList (g s.toList))
  match f with
  | trim => onText Text.trim
  | upper => onText Text.toUpper
  | lower => onText Text.toLower
  | removeDuplicates => withoutDuplicates args
  | findAndReplace =>
    match args with
    | [] => .error (.missingArgument f.name)
    | v :: _ => replaced v (shown args 1) (shown args 2)

end TextFunction

end Gridbook.Formula
