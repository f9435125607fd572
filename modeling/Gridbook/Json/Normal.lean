import Gridbook.Json.Tree

/-!
# Normal form of JSON trees

Numbers are spelled by their value and the fields of an object stand in the
order of their names, each name once. Trees that mean the same are written as
the same text.
-/
namespace Gridbook.Json

namespace Number

def toJson : Number → Json
  | natural n => Json.nat n
  | minus n => .number ⟨true, Decimal.digits n, [], none⟩
  | float x => Json.float x

end Number

/-- Puts a field among fields in order; one that has its name already is kept instead. -/
def placeField (name : Option String) (j : Json) :
    List (Option String × Json) → List (Option String × Json)
  | [] => [(name, j)]
  | (m, k) :: rest =>
    if name = m then (m, k) :: rest
    else if name.getD "" < m.getD "" then (name, j) :: (m, k) :: rest
    else (m, k) :: placeField name j rest

mutual

def normal : Json → Json
  | .null => .null
  | .bool b => .bool b
  | .number l =>
    match l.number? with
    | some n => n.toJson
    | none => .number l
  | .string s => .string s
  | .array items => .array (normalItems items)
  | .object fields => .object (normalFields fields)

def normalItems : List Json → List Json
  | [] => []
  | j :: js => normal j :: normalItems js

/-- Of several fields with one name the last one counts. -/
def normalFields : List (Option String × Json) → List (Option String × Json)
  | [] => []
  | (name, j) :: fields => placeField name (normal j) (normalFields fields)

end

end Gridbook.Json
