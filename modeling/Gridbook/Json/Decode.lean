import Gridbook.Json.Reader

/-!
# Taking values out of JSON trees

A record is an object with named fields or an array of the fields in order; a
field that nobody knows is skipped, one that is given twice is refused. A choice
names its case in one field and holds its content in another, in either order.
-/
namespace Gridbook.Json

def bool? : Json → Option Bool
  | .bool b => some b
  | _ => none

def text? : Json → Option String
  | .string s => s
  | _ => none

/-- A whole number from zero to `largest`. -/
def nat? (largest : Nat) : Json → Option Nat
  | .number l =>
    match l.number? with
    | some (.natural n) => if n ≤ largest then some n else none
    | _ => none
  | _ => none

def float? : Json → Option Float
  | .number l => l.number?.map Number.toFloat
  | _ => none

/-- The name of a case without content: a string, or an object that gives it null. -/
def name? : Json → Option String
  | .string s => s
  | .object [(s, .null)] => s
  | _ => none

/-- Null stands for an absent value. -/
def nullable (read : Json → Option α) : Json → Option (Option α)
  | .null => some none
  | j => (read j).map some

/-- A field that may be missing. -/
def orElse (missing : α) (read : Json → Option α) : Option Json → Option α
  | none => some missing
  | some j => read j

/-- A field that must be there. -/
def required (read : Json → Option α) (field : Option Json) : Option α := field.bind read

/-- The value of the only field with that name, if there is one; two are refused. -/
def single? (name : String) (fields : List (Option String × Json)) : Option (Option Json) :=
  match fields.filter fun f => f.1 == some name with
  | [] => some none
  | [(_, j)] => some (some j)
  | _ => none

/-- The fields of a record in the order of their names. -/
def fields? (names : List String) : Json → Option (List (Option Json))
  | .object fields =>
    if fields.all fun f => f.1.isSome then names.mapM fun name => single? name fields else none
  | .array items =>
    if items.length ≤ names.length then
      some (items.map some ++ List.replicate (names.length - items.length) none)
    else none
  | _ => none

/--
The case and the content of a choice. Content that comes before its case is read
before anybody knows what it is, so all of it has to be readable.
-/
def choice? (room : Nat) (caseField contentField : String) : Json → Option (String × Option Json)
  | .array [case, content] => (name? case).map fun name => (name, some content)
  | .object fields =>
    if fields.all fun f => f.1.isSome then
      match fields.filter fun f => f.1 == some caseField || f.1 == some contentField with
      | [(first, a)] => if first == some caseField then (name? a).map (·, none) else none
      | [(first, a), (second, b)] =>
        if first == second then none
        else if first == some caseField then (name? a).map (·, some b)
        else if Readable (room - 1) a then (name? b).map (·, some a)
        else none
      | _ => none
    else none
  | _ => none

/-- The content of a case that has none: missing or null. -/
def noContent? : Option Json → Option Unit
  | none => some ()
  | some .null => some ()
  | some _ => none

end Gridbook.Json
