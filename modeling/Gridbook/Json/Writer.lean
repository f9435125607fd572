import Gridbook.Json.Tree
import Gridbook.Text.Hex

/-!
# Writing JSON text

No blanks. In a string only the quote, the backslash and the control characters
below the space are escaped.
-/
namespace Gridbook.Json

open Text (hexDigit)

/-- How a character is written inside a string. -/
def writeChar (c : Char) : List Char :=
  if c = '"' then ['\\', '"']
  else if c = '\\' then ['\\', '\\']
  else if c = '\n' then ['\\', 'n']
  else if c = '\r' then ['\\', 'r']
  else if c = '\t' then ['\\', 't']
  else if c = '\x08' then ['\\', 'b']
  else if c = '\x0c' then ['\\', 'f']
  else if c.toNat < 0x20 then
    ['\\', 'u', '0', '0', hexDigit (c.toNat / 16), hexDigit (c.toNat % 16)]
  else [c]

def writeString (s : String) : List Char := '"' :: (s.toList.flatMap writeChar ++ ['"'])

/-- A string that is no text is written as the empty one. -/
def writeText (s : Option String) : List Char := writeString (s.getD "")

mutual

def writeChars : Json → List Char
  | .null => "null".toList
  | .bool true => "true".toList
  | .bool false => "false".toList
  | .number l => l.write
  | .string s => writeText s
  | .array items => '[' :: (writeItems items ++ [']'])
  | .object fields => '\x7b' :: (writeFields fields ++ ['\x7d'])

def writeItems : List Json → List Char
  | [] => []
  | [j] => writeChars j
  | j :: js => writeChars j ++ ',' :: writeItems js

def writeFields : List (Option String × Json) → List Char
  | [] => []
  | [(name, j)] => writeText name ++ ':' :: writeChars j
  | (name, j) :: fields => writeText name ++ ':' :: (writeChars j ++ ',' :: writeFields fields)

end

def write (j : Json) : String := String.ofList j.writeChars

end Gridbook.Json
