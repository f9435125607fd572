import Gridbook.Json.Tree
import Gridbook.Text.Hex

/-!
# Reading JSON text

One value with blanks around it and nothing else. Texts and numbers are taken
as they are spelled; whether they have a value is asked where they are used.
-/
namespace Gridbook.Json

open Text (hexDigit?)

def isSpace (c : Char) : Bool := c == ' ' || c == '\t' || c == '\n' || c == '\r'

def skip (s : List Char) : List Char := s.dropWhile isSpace

/-- The number that four hexadecimal digits spell. -/
def hexUnit? (a b c d : Char) : Option Nat :=
  match hexDigit? a, hexDigit? b, hexDigit? c, hexDigit? d with
  | some a, some b, some c, some d => some (((a * 16 + b) * 16 + c) * 16 + d)
  | _, _, _, _ => none

/-- A part of a string: a character, or a 16-bit unit written as an escape. -/
inductive Unit16 where
  | char (c : Char)
  | unit (n : Nat)

/-- The character that a letter after a backslash stands for. -/
def escaped? : Char → Option Char
  | '"' => some '"'
  | '\\' => some '\\'
  | '/' => some '/'
  | 'b' => some '\x08'
  | 'f' => some '\x0c'
  | 'n' => some '\n'
  | 'r' => some '\r'
  | 't' => some '\t'
  | _ => none

/-- The parts of a string up to its closing quote, and the rest. -/
def readUnits : List Char → Option (List Unit16 × List Char)
  | [] => none
  | '"' :: rest => some ([], rest)
  | '\\' :: 'u' :: a :: b :: c :: d :: rest =>
    match hexUnit? a b c d, readUnits rest with
    | some n, some (units, rest) => some (.unit n :: units, rest)
    | _, _ => none
  | '\\' :: e :: rest =>
    match escaped? e, readUnits rest with
    | some c, some (units, rest) => some (.char c :: units, rest)
    | _, _ => none
  | c :: rest =>
    if c == '\\' || c.toNat < 0x20 then none
    else (readUnits rest).map fun (units, rest) => (.char c :: units, rest)

/-- The characters of a string; none where half of a surrogate pair stands alone. -/
def joinUnits : List Unit16 → Option (List Char)
  | [] => some []
  | .char c :: rest => (joinUnits rest).map (c :: ·)
  | .unit high :: .unit low :: rest =>
    if 0xD800 ≤ high ∧ high < 0xDC00 then
      if 0xDC00 ≤ low ∧ low < 0xE000 then
        (joinUnits rest).map
          (Char.ofNat (0x10000 + (high - 0xD800) * 0x400 + (low - 0xDC00)) :: ·)
      else none
    else if 0xDC00 ≤ high ∧ high < 0xE000 then none
    else (joinUnits (.unit low :: rest)).map (Char.ofNat high :: ·)
  | .unit n :: rest =>
    if 0xD800 ≤ n ∧ n < 0xE000 then none else (joinUnits rest).map (Char.ofNat n :: ·)

def readString (s : List Char) : Option (Option String × List Char) :=
  (readUnits s).map fun (units, rest) => ((joinUnits units).map String.ofList, rest)

/-- The digits after a point; without a point there are none, after one at least one. -/
def readFraction : List Char → Option (List Char × List Char)
  | '.' :: rest =>
    match Decimal.spanDigits rest with
    | ([], _) => none
    | found => some found
  | s => some ([], s)

/-- The power of ten after an `e`, with its sign. -/
def readPower : List Char → Option (Option (Bool × List Char) × List Char)
  | mark :: rest =>
    if mark == 'e' || mark == 'E' then
      let (negative, rest) : Bool × List Char :=
        match rest with
        | '-' :: rest => (true, rest)
        | '+' :: rest => (false, rest)
        | rest => (false, rest)
      match Decimal.spanDigits rest with
      | ([], _) => none
      | (ds, rest) => some (some (negative, ds), rest)
    else some (none, mark :: rest)
  | [] => some (none, [])

/-- A number: no zero stands in front of other digits. -/
def readLiteral (s : List Char) : Option (Literal × List Char) :=
  let (negative, s) : Bool × List Char :=
    match s with
    | '-' :: rest => (true, rest)
    | rest => (false, rest)
  match Decimal.spanDigits s with
  | ([], _) => none
  | ('0' :: _ :: _, _) => none
  | (whole, rest) =>
    match readFraction rest with
    | none => none
    | some (fraction, rest) =>
      (readPower rest).map fun (power, rest) => (⟨negative, whole, fraction, power⟩, rest)

/-- The items of an array up to its closing bracket; at most `n` of them. -/
def readItems (value : List Char → Option (Json × List Char)) :
    Nat → List Char → Option (List Json × List Char)
  | 0, _ => none
  | n + 1, s =>
    match value s with
    | none => none
    | some (j, rest) =>
      match skip rest with
      | ',' :: rest => (readItems value n rest).map fun (js, rest) => (j :: js, rest)
      | ']' :: rest => some ([j], rest)
      | _ => none

/-- The fields of an object up to its closing brace; at most `n` of them. -/
def readFields (value : List Char → Option (Json × List Char)) :
    Nat → List Char → Option (List (Option String × Json) × List Char)
  | 0, _ => none
  | n + 1, s =>
    match skip s with
    | '"' :: rest =>
      match readString rest with
      | none => none
      | some (name, rest) =>
        match skip rest with
        | ':' :: rest =>
          match value rest with
          | none => none
          | some (j, rest) =>
            match skip rest with
            | ',' :: rest =>
              (readFields value n rest).map fun (fields, rest) => ((name, j) :: fields, rest)
            | '\x7d' :: rest => some ([(name, j)], rest)
            | _ => none
        | _ => none
    | _ => none

/-- A value whose containers stand at most `n` deep inside each other, and the rest. -/
def readValue : Nat → List Char → Option (Json × List Char)
  | 0, _ => none
  | n + 1, s =>
    match skip s with
    | 'n' :: 'u' :: 'l' :: 'l' :: rest => some (.null, rest)
    | 't' :: 'r' :: 'u' :: 'e' :: rest => some (.bool true, rest)
    | 'f' :: 'a' :: 'l' :: 's' :: 'e' :: rest => some (.bool false, rest)
    | '"' :: rest => (readString rest).map fun (s, rest) => (.string s, rest)
    | '[' :: rest =>
      match skip rest with
      | ']' :: rest => some (.array [], rest)
      | rest =>
        (readItems (readValue n) (rest.length + 1) rest).map fun (js, rest) => (.array js, rest)
    | '\x7b' :: rest =>
      match skip rest with
      | '\x7d' :: rest => some (.object [], rest)
      | rest =>
        (readFields (readValue n) (rest.length + 1) rest).map fun (fields, rest) =>
          (.object fields, rest)
    | s => (readLiteral s).map fun (l, rest) => (.number l, rest)

/-- The tree of a JSON text. Each container takes a character, so the bound is never met. -/
def read? (text : String) : Option Json :=
  let s := text.toList
  match readValue (s.length + 1) s with
  | some (j, rest) => if skip rest = [] then some j else none
  | none => none

end Gridbook.Json
