import Gridbook.Style.Color

/-!
# Cell styles

A style sets some fields and leaves the others to their defaults. A full style
has a value for every field. A change edits one field of a style.
-/
namespace Gridbook

inductive Alignment where
  | left
  | center
  | right
  deriving DecidableEq, Repr

structure Style where
  bold : Bool
  italic : Bool
  strikethrough : Bool
  fontSize : Option UInt8
  fontFamily : Option String
  color : Option Color
  alignment : Alignment
  deriving DecidableEq, Repr

/-- A style that leaves no field open. -/
structure FullStyle where
  bold : Bool
  italic : Bool
  strikethrough : Bool
  fontSize : UInt8
  fontFamily : String
  color : Color
  alignment : Alignment
  deriving DecidableEq, Repr

inductive StyleChange where
  | toggleBold
  | toggleItalic
  | toggleStrikethrough
  | fontSize (size : UInt8)
  | fontFamily (family : String)
  | color (c : Color)
  | align (a : Alignment)
  deriving DecidableEq, Repr

namespace Style

/-- The style of a cell that was never styled. -/
def plain : Style := ⟨false, false, false, none, none, none, .left⟩

/-- Every field with the value that is shown. -/
def resolve (s : Style) : FullStyle where
  bold := s.bold
  italic := s.italic
  strikethrough := s.strikethrough
  fontSize := s.fontSize.getD 14
  fontFamily := s.fontFamily.getD "Arial"
  color := s.color.getD Color.black
  alignment := s.alignment

def apply (s : Style) : StyleChange → Style
  | .toggleBold => { s with bold := !s.bold }
  | .toggleItalic => { s with italic := !s.italic }
  | .toggleStrikethrough => { s with strikethrough := !s.strikethrough }
  | .fontSize size => { s with fontSize := some size }
  | .fontFamily family => { s with fontFamily := some family }
  | .color c => { s with color := some c }
  | .align a => { s with alignment := a }

end Style

/-- What a history shows for a change. -/
def StyleChange.description : StyleChange → String
  | .toggleBold => "Toggle bold"
  | .toggleItalic => "Toggle italic"
  | .toggleStrikethrough => "Toggle strikethrough"
  | .fontSize _ => "Set font size"
  | .fontFamily _ => "Set font family"
  | .color _ => "Set text color"
  | .align _ => "Set alignment"

end Gridbook
