import Gridbook.Text.Blank

/-!
# Sets of characters

A set is a list of ranges of character numbers, in ascending order and without
overlap; ranges that follow one another without a gap are one range. The numbers
from D800 to DFFF stand for no character, and two ranges on both sides of them
stay apart. Tables write a set as hexadecimal ranges, `41-5A` or a single `AA`,
and every second number of a range as `100-12E/2`.
-/
namespace Gridbook.Text

structure CodeSet where
  ranges : List (Nat × Nat)
  deriving DecidableEq, Repr

namespace CodeSet

def empty : CodeSet := ⟨[]⟩

def last : Nat := 0x10FFFF

def all : CodeSet := ⟨[(0, last)]⟩

def single (n : Nat) : CodeSet := ⟨[(n, n)]⟩

def range (a b : Nat) : CodeSet := ⟨[(a, b)]⟩

def containsIn : List (Nat × Nat) → Nat → Bool
  | [], _ => false
  | (a, b) :: rest, n => if n < a then false else n ≤ b || containsIn rest n

def contains (s : CodeSet) (c : Char) : Bool := containsIn s.ranges c.toNat

/-- Joins a range with the ranges after it, which begin no earlier. -/
def joinFrom : Nat × Nat → List (Nat × Nat) → List (Nat × Nat)
  | r, [] => [r]
  | (a, b), (c, d) :: rest =>
    if c ≤ b + 1 then joinFrom (a, max b d) rest else (a, b) :: joinFrom (c, d) rest

/-- The set of all code points in some ranges, which may come in any order. -/
def ofRanges (rs : List (Nat × Nat)) : CodeSet :=
  match rs.mergeSort fun r s => r.1 ≤ s.1 with
  | [] => empty
  | r :: rest => ⟨joinFrom r rest⟩

def unionAll (sets : List CodeSet) : CodeSet := ofRanges (sets.flatMap ranges)

def union (s t : CodeSet) : CodeSet := unionAll [s, t]

/-- The number of the next character. -/
def next (n : Nat) : Nat := if n = 0xD7FF then 0xE000 else n + 1

/-- The number of the character before. -/
def previous (n : Nat) : Nat := if n = 0xE000 then 0xD7FF else n - 1

/--
The gaps after a range that ends with `stop`. Between two ranges that stand on
both sides of the numbers without characters there is nothing; their ends
themselves are taken for the gap.
-/
def gapsAfter (stop : Nat) : List (Nat × Nat) → List (Nat × Nat)
  | [] => if stop < last then [(next stop, last)] else []
  | (a, b) :: rest =>
    (min (next stop) (previous a), max (next stop) (previous a)) :: gapsAfter b rest

def complement (s : CodeSet) : CodeSet :=
  match s.ranges with
  | [] => all
  | (a, b) :: rest => ⟨(if 0 < a then [(0, previous a)] else []) ++ gapsAfter b rest⟩

/-- What two lists of ranges have in common. -/
def common : List (Nat × Nat) → List (Nat × Nat) → List (Nat × Nat)
  | [], _ => []
  | _, [] => []
  | (a, b) :: rs, (c, d) :: ts =>
    let rest := if b < d then common rs ((c, d) :: ts) else common ((a, b) :: rs) ts
    if max a c ≤ min b d then (max a c, min b d) :: rest else rest
  termination_by rs ts => rs.length + ts.length

def inter (s t : CodeSet) : CodeSet := ⟨common s.ranges t.ranges⟩

/-- What is left of the first ranges without the second ones. -/
def without : List (Nat × Nat) → List (Nat × Nat) → List (Nat × Nat)
  | [], _ => []
  | rs, [] => rs
  | (a, b) :: rs, (c, d) :: ts =>
    if d < a then without ((a, b) :: rs) ts
    else if b < c then (a, b) :: without rs ((c, d) :: ts)
    else
      let rest :=
        if d < b then without ((next d, b) :: rs) ts else without rs ((c, d) :: ts)
      if a < c then (a, previous c) :: rest else rest
  termination_by rs ts => rs.length + ts.length

def difference (s t : CodeSet) : CodeSet := ⟨without s.ranges t.ranges⟩

def symmetricDifference (s t : CodeSet) : CodeSet := (s.union t).difference (s.inter t)

def isAscii (s : CodeSet) : Bool := s.ranges.all fun r => r.2 < 0x80

def hexDigit (c : Char) : Nat :=
  if c.isDigit then c.toNat - '0'.toNat else c.toNat - 'A'.toNat + 10

/-- The number that hexadecimal digits in upper case spell. -/
def hexNumber (digits : List Char) : Nat := digits.foldl (fun n c => 16 * n + hexDigit c) 0

/-- The ranges that one entry of a table stands for. -/
def ofEntry (entry : List Char) : List (Nat × Nat) :=
  match entry.span (· ≠ '-') with
  | (single, []) => [(hexNumber single, hexNumber single)]
  | (first, _ :: rest) =>
    match rest.span (· ≠ '/') with
    | (last, []) => [(hexNumber first, hexNumber last)]
    | (last, _) =>
      (List.range ((hexNumber last - hexNumber first) / 2 + 1)).map fun i =>
        (hexNumber first + 2 * i, hexNumber first + 2 * i)

/-- Splits a line at its spaces. -/
def entriesOf (line : List Char) : List (List Char) :=
  line.foldr
    (fun c entries =>
      match entries with
      | [] => if c = ' ' then [[]] else [[c]]
      | entry :: rest => if c = ' ' then [] :: entry :: rest else (c :: entry) :: rest)
    []

def ofLines (lines : List String) : CodeSet :=
  ofRanges (lines.flatMap fun line => (entriesOf line.toList).flatMap ofEntry)

/-- The characters that `isBlank` accepts. -/
def blank : CodeSet :=
  ⟨[(0x9, 0xD), (0x20, 0x20), (0x85, 0x85), (0xA0, 0xA0), (0x1680, 0x1680), (0x2000, 0x200A),
    (0x2028, 0x2029), (0x202F, 0x202F), (0x205F, 0x205F), (0x3000, 0x3000)]⟩

end CodeSet

end Gridbook.Text
