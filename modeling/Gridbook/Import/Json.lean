import Gridbook.Import.Basic
import Gridbook.Style.Json

/-!
# Imported data as JSON

A record of rows and styles, both of which may be missing. A value in a row may
be anything that is readable in all its parts.
-/
namespace Gridbook.Import

/-- A value inside a row inside the rows of a record, which are three containers. -/
def value? (j : Json) : Option Json := if Json.Readable (Json.deepest - 3) j then some j else none

def row? : Json → Option (List Json)
  | .array items => items.mapM value?
  | _ => none

def rows? : Json → Option (List (List Json))
  | .array items => items.mapM row?
  | _ => none

/-- The entry of a field. -/
def style? (field : Option String × Json) : Option (String × Style) :=
  match field.1, Style.ofJson? field.2 with
  | some name, some style => some (name, style)
  | _, _ => none

/-- The styles of an object; of several under one name the last one counts. -/
def styles? : Json → Option (List (String × Style))
  | .object fields => (fields.mapM style?).map fun entries =>
    (entries.foldl (fun data e => data.withStyle e.1 e.2) (Import.mk [] [])).styles
  | _ => none

def ofJson? (j : Json) : Option Import :=
  match j.fields? ["rows", "styles"] with
  | some [rows, styles] => do
    let rows ← Json.orElse [] rows? rows
    let styles ← Json.orElse [] styles? styles
    some ⟨rows, styles⟩
  | _ => none

end Gridbook.Import
