import Gridbook.Text.Age
import Gridbook.Text.Break
import Gridbook.Text.CaseChange
import Gridbook.Text.SharedScript

/-!
# Named sets of characters

The sets that a pattern can name: classes by a letter, bracket names for ASCII,
and properties, categories and scripts of characters. Sets can be widened to all
characters that differ only in case.
-/
namespace Gridbook.Pattern

open Text (CodeSet)

/-- The characters that are folded, each with its folding. -/
def foldPairs : List (Nat × Nat) := Text.folded.map fun n => (n, Text.fold n)

/-- The set with everything that differs from a member only in case. -/
def closeUnicode (s : CodeSet) : CodeSet :=
  let targets := foldPairs.filter fun p => CodeSet.containsIn s.ranges p.1
  let withTargets := CodeSet.ofRanges (s.ranges ++ targets.map fun p => (p.2, p.2))
  let sources := foldPairs.filter fun p => CodeSet.containsIn withTargets.ranges p.2
  CodeSet.ofRanges (withTargets.ranges ++ sources.map fun p => (p.1, p.1))

/-- The same for the letters of ASCII alone. -/
def closeAscii (s : CodeSet) : CodeSet :=
  let letters := (List.range 26).flatMap fun i =>
    (if CodeSet.containsIn s.ranges (0x41 + i) then [(0x61 + i, 0x61 + i)] else []) ++
      if CodeSet.containsIn s.ranges (0x61 + i) then [(0x41 + i, 0x41 + i)] else []
  CodeSet.ofRanges (s.ranges ++ letters)

def asciiDigits : CodeSet := .range 0x30 0x39

def asciiBlanks : CodeSet := ⟨[(0x9, 0xD), (0x20, 0x20)]⟩

def asciiWord : CodeSet := ⟨[(0x30, 0x39), (0x41, 0x5A), (0x5F, 0x5F), (0x61, 0x7A)]⟩

def unicodeDigits : CodeSet := Text.Property.categories ["Nd"]

/-- The class of a letter after a backslash: digits, blanks or word characters. -/
def letterClass? (unicode : Bool) : Char → Option CodeSet
  | 'd' => some (if unicode then unicodeDigits else asciiDigits)
  | 's' => some (if unicode then CodeSet.blank else asciiBlanks)
  | 'w' => some (if unicode then Text.Property.word else asciiWord)
  | _ => none

/-- The class of a name between `[:` and `:]`. -/
def bracketClass? (name : String) : Option CodeSet :=
  match name with
  | "alnum" => some ⟨[(0x30, 0x39), (0x41, 0x5A), (0x61, 0x7A)]⟩
  | "alpha" => some ⟨[(0x41, 0x5A), (0x61, 0x7A)]⟩
  | "ascii" => some (.range 0 0x7F)
  | "blank" => some ⟨[(0x9, 0x9), (0x20, 0x20)]⟩
  | "cntrl" => some ⟨[(0, 0x1F), (0x7F, 0x7F)]⟩
  | "digit" => some asciiDigits
  | "graph" => some (.range 0x21 0x7E)
  | "lower" => some (.range 0x61 0x7A)
  | "print" => some (.range 0x20 0x7E)
  | "punct" => some ⟨[(0x21, 0x2F), (0x3A, 0x40), (0x5B, 0x60), (0x7B, 0x7E)]⟩
  | "space" => some asciiBlanks
  | "upper" => some (.range 0x41 0x5A)
  | "word" => some asciiWord
  | "xdigit" => some ⟨[(0x30, 0x39), (0x41, 0x46), (0x61, 0x66)]⟩
  | _ => none

/-- A name in lower case, without separators and without `is` in front. -/
def plainName (name : List Char) : String :=
  let (prefixed, rest) : Bool × List Char :=
    match name with
    | a :: b :: rest =>
      if (a == 'i' || a == 'I') && (b == 's' || b == 'S') then (true, rest) else (false, name)
    | _ => (false, name)
  let kept := rest.filter fun c => c.toNat < 0x80 && c != ' ' && c != '_' && c != '-'
  let kept := kept.map Char.toLower
  if prefixed && kept == ['c'] then "isc" else String.ofList kept

/-- A category by its short or long name. -/
def category? (name : String) : Option CodeSet :=
  match name with
  | "any" => some CodeSet.all
  | "assigned" => some Text.Category.assigned
  | "ascii" => some (.range 0 0x7F)
  | _ =>
    match Text.Category.longNames.find? fun entry => entry.1 == name with
    | some entry => Text.Category.named? entry.2
    | none =>
      match name.toList with
      | [a] => Text.Category.named? (String.ofList [a.toUpper])
      | [a, b] =>
        let short := if name == "lc" then "LC" else String.ofList [a.toUpper, b]
        Text.Category.named? short
      | _ => none

/-- Names that are taken by properties without a set. -/
def otherProperties : List String :=
  ["age", "blk", "block", "bc", "bidiclass", "ccc", "dt", "ea", "gc", "generalcategory", "gcb",
    "hst", "insc", "jg", "jt", "lb", "na", "nt", "nv", "sb", "scf", "script", "scx", "slc", "stc",
    "suc", "tc", "uc", "wb"]

/-- A property, category or script by name alone. -/
def property? (name : String) : Option CodeSet :=
  let clash := name == "cf" || name == "sc" || name == "lc"
  if !clash && otherProperties.contains name then none
  else
    let property :=
      if clash then none else (Text.Property.named? name).or (Text.CaseChange.named? name)
    property.or ((category? name).or (Text.Script.named? name))

/-- The characters that have a value of a property. -/
def propertyValue? (name value : String) : Option CodeSet :=
  match name with
  | "gc" | "generalcategory" => category? value
  | "sc" | "script" => Text.Script.named? value
  | "scx" | "scriptextensions" => Text.Script.usedIn? value
  | "age" => Text.Age.upTo? value
  | "gcb" | "graphemeclusterbreak" => Text.Break.grapheme? value
  | "wb" | "wordbreak" => Text.Break.word? value
  | "sb" | "sentencebreak" => Text.Break.sentence? value
  | _ => none

end Gridbook.Pattern
