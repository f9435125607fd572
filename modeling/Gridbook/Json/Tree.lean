import Gridbook.Json.Number

/-!
# JSON trees

A tree keeps what its text says: object fields in order, repeated names
included. A string whose escapes leave half of a surrogate pair alone is no
text; it is kept as `none`, because such a string may still stand in a place
that nobody reads.
-/
namespace Gridbook

inductive Json where
  | null
  | bool (b : Bool)
  | number (l : Json.Literal)
  | string (s : Option String)
  | array (items : List Json)
  | object (fields : List (Option String × Json))
  deriving Repr

namespace Json

def text (s : String) : Json := .string (some s)

def nat (n : Nat) : Json := .number (.ofNat n)

/-- Infinities and NaN have no number in JSON. -/
def float (x : Float) : Json :=
  match Decimal.Binary.ofFloat? x with
  | none => .null
  | some b => .number (.ofBinary x b)

/-- An object with the given fields. -/
def record (fields : List (String × Json)) : Json :=
  .object (fields.map fun (name, j) => (some name, j))

mutual

/-- Every part is readable: texts, numbers in range, at most `room` containers inside each other. -/
def Readable (room : Nat) : Json → Bool
  | .null => true
  | .bool _ => true
  | .number l => l.number?.isSome
  | .string s => s.isSome
  | .array items =>
    match room with
    | 0 => false
    | room + 1 => ItemsReadable room items
  | .object fields =>
    match room with
    | 0 => false
    | room + 1 => FieldsReadable room fields

def ItemsReadable (room : Nat) : List Json → Bool
  | [] => true
  | j :: js => Readable room j && ItemsReadable room js

def FieldsReadable (room : Nat) : List (Option String × Json) → Bool
  | [] => true
  | (name, j) :: fields => name.isSome && Readable room j && FieldsReadable room fields

end

/-- How many containers may stand inside each other in a part that is read. -/
def deepest : Nat := 127

end Json

end Gridbook
