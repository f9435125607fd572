import Gridbook.Text.Blank
import Gridbook.Json.Decode

/-!
# Colors

Red, green, blue and opacity, written as `#` and two hexadecimal digits a
channel; full opacity is not written. A channel is read like a number of two
characters, so a plus sign may stand in place of its first digit.
-/
namespace Gridbook

structure Color where
  red : UInt8
  green : UInt8
  blue : UInt8
  opacity : UInt8
  deriving DecidableEq, Repr

namespace Color

def black : Color := ⟨0, 0, 0, 255⟩

/-- Two hexadecimal digits. -/
def channelText (n : UInt8) : List Char :=
  [Text.hexDigit (n.toNat / 16), Text.hexDigit (n.toNat % 16)]

def toHex (c : Color) : String :=
  String.ofList ('#' :: (channelText c.red ++ channelText c.green ++ channelText c.blue ++
    if c.opacity = 255 then [] else channelText c.opacity))

/-- The number that two characters spell. -/
def channel? (a b : Char) : Option UInt8 :=
  match Text.hexDigit? b with
  | none => none
  | some low =>
    if a = '+' then some (UInt8.ofNat low)
    else (Text.hexDigit? a).map fun high => UInt8.ofNat (high * 16 + low)

/-- Six or eight characters, after blanks and any number of `#` in front of them. -/
def ofHex? (hex : String) : Option Color :=
  match (Text.trim hex.toList).dropWhile (· == '#') with
  | [a, b, c, d, e, f] =>
    match channel? a b, channel? c d, channel? e f with
    | some red, some green, some blue => some ⟨red, green, blue, 255⟩
    | _, _, _ => none
  | [a, b, c, d, e, f, g, h] =>
    match channel? a b, channel? c d, channel? e f, channel? g h with
    | some red, some green, some blue, some opacity => some ⟨red, green, blue, opacity⟩
    | _, _, _, _ => none
  | _ => none

def ofJson? (j : Json) : Option Color := j.text?.bind ofHex?

def toJson (c : Color) : Json := Json.text c.toHex

end Color

end Gridbook
