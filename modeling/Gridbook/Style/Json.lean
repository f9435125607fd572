import Gridbook.Style.Basic

/-!
# Styles as JSON

A style is written without the fields that have their default; a full style is
written and read with every field.
-/
namespace Gridbook

open Json (bool? text? nullable orElse required fields? choice? noContent?)

/-- A number of eight bits. -/
def byte? (j : Json) : Option UInt8 := (j.nat? 255).map UInt8.ofNat

namespace Alignment

def name : Alignment → String
  | .left => "left"
  | .center => "center"
  | .right => "right"

def ofJson? (j : Json) : Option Alignment :=
  match j.name? with
  | some "left" => some .left
  | some "center" => some .center
  | some "right" => some .right
  | _ => none

end Alignment

/-- The fields of a style in their written order. -/
def styleFields : List String :=
  ["bold", "italic", "strikethrough", "fontSize", "fontFamily", "color", "textAlign"]

namespace Style

def toJson (s : Style) : Json :=
  let flag (name : String) (b : Bool) := if b then [(name, Json.bool true)] else []
  let set (name : String) (j : Option Json) := j.toList.map fun j => (name, j)
  Json.record <|
    flag "bold" s.bold ++ flag "italic" s.italic ++ flag "strikethrough" s.strikethrough ++
    set "fontSize" (s.fontSize.map fun n => Json.nat n.toNat) ++
    set "fontFamily" (s.fontFamily.map Json.text) ++
    set "color" (s.color.map Color.toJson) ++
    if s.alignment = .left then [] else [("textAlign", Json.text s.alignment.name)]

def ofJson? (j : Json) : Option Style :=
  match fields? styleFields j with
  | some [bold, italic, strikethrough, fontSize, fontFamily, color, alignment] => do
    let bold ← orElse false bool? bold
    let italic ← orElse false bool? italic
    let strikethrough ← orElse false bool? strikethrough
    let fontSize ← orElse none (nullable byte?) fontSize
    let fontFamily ← orElse none (nullable text?) fontFamily
    let color ← orElse none (nullable Color.ofJson?) color
    let alignment ← orElse .left Alignment.ofJson? alignment
    some ⟨bold, italic, strikethrough, fontSize, fontFamily, color, alignment⟩
  | _ => none

end Style

namespace FullStyle

def toJson (s : FullStyle) : Json :=
  Json.record [
    ("bold", .bool s.bold), ("italic", .bool s.italic), ("strikethrough", .bool s.strikethrough),
    ("fontSize", Json.nat s.fontSize.toNat), ("fontFamily", Json.text s.fontFamily),
    ("color", s.color.toJson), ("textAlign", Json.text s.alignment.name)]

def ofJson? (j : Json) : Option FullStyle :=
  match fields? styleFields j with
  | some [bold, italic, strikethrough, fontSize, fontFamily, color, alignment] => do
    let bold ← required bool? bold
    let italic ← required bool? italic
    let strikethrough ← required bool? strikethrough
    let fontSize ← required byte? fontSize
    let fontFamily ← required text? fontFamily
    let color ← required Color.ofJson? color
    let alignment ← required Alignment.ofJson? alignment
    some ⟨bold, italic, strikethrough, fontSize, fontFamily, color, alignment⟩
  | _ => none

end FullStyle

namespace StyleChange

def toJson (change : StyleChange) : Json :=
  let kind (name : String) := ("kind", Json.text name)
  match change with
  | .toggleBold => Json.record [kind "toggleBold"]
  | .toggleItalic => Json.record [kind "toggleItalic"]
  | .toggleStrikethrough => Json.record [kind "toggleStrikethrough"]
  | .fontSize n => Json.record [kind "fontSize", ("value", Json.nat n.toNat)]
  | .fontFamily s => Json.record [kind "fontFamily", ("value", Json.text s)]
  | .color c => Json.record [kind "color", ("value", c.toJson)]
  | .align a => Json.record [kind "align", ("value", Json.text a.name)]

def ofJson? (j : Json) : Option StyleChange :=
  match choice? Json.deepest "kind" "value" j with
  | some ("toggleBold", content) => (noContent? content).map fun _ => .toggleBold
  | some ("toggleItalic", content) => (noContent? content).map fun _ => .toggleItalic
  | some ("toggleStrikethrough", content) =>
    (noContent? content).map fun _ => .toggleStrikethrough
  | some ("fontSize", content) => (required byte? content).map .fontSize
  | some ("fontFamily", content) => (required text? content).map .fontFamily
  | some ("color", content) => (required Color.ofJson? content).map .color
  | some ("align", content) => (required Alignment.ofJson? content).map .align
  | _ => none

end StyleChange

end Gridbook
