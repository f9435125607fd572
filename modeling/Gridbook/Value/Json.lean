import Gridbook.Value
import Gridbook.Json.Decode

/-!
# Cell values as JSON

A value names its kind in `type` and holds its content in `value`.
-/
namespace Gridbook

open Json (choice? required)

namespace Mark

def name : Mark → String
  | .error => "Error"
  | .unknownFunction => "UnknownFunction"

def ofJson? (j : Json) : Option Mark :=
  match j.name? with
  | some "Error" => some .error
  | some "UnknownFunction" => some .unknownFunction
  | _ => none

end Mark

namespace Value

/-- The value that a tree stands for, with at most `room` containers inside each other. -/
def ofTree? : Nat → Json → Option Value
  | 0, _ => none
  | room + 1, j =>
    match choice? (room + 1) "type" "value" j with
    | some ("Number", content) => (required Json.float? content).map .number
    | some ("Text", content) => (required Json.text? content).map .text
    | some ("Error", content) => (required Mark.ofJson? content).map .mark
    | some ("List", some (.array items)) =>
      match room with
      | 0 => none
      | room + 1 => (items.mapM (ofTree? room)).map .list
    | _ => none

def ofJson? (j : Json) : Option Value := ofTree? Json.deepest j

/-- A value of one kind. -/
def tagged (kind : String) (content : Json) : Json :=
  Json.record [("type", Json.text kind), ("value", content)]

mutual

def toJson : Value → Json
  | .number x => tagged "Number" (Json.float x)
  | .text s => tagged "Text" (Json.text s)
  | .list items => tagged "List" (.array (toJsons items))
  | .mark m => tagged "Error" (Json.text m.name)

def toJsons : List Value → List Json
  | [] => []
  | v :: vs => toJson v :: toJsons vs

end

end Value

end Gridbook
