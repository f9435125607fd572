import Gridbook.Text.CodeSet

/-!
# Characters as bytes

In UTF-8 a character takes one to four bytes. A range of characters is cut into
pieces, each of them all characters whose bytes lie, one by one, in given ranges
of bytes.
-/
namespace Gridbook.Text.Utf8

/-- The bytes of the character with that number. -/
def bytes (n : Nat) : List Nat :=
  if n < 0x80 then [n]
  else if n < 0x800 then [0xC0 + n / 0x40, 0x80 + n % 0x40]
  else if n < 0x10000 then [0xE0 + n / 0x1000, 0x80 + n / 0x40 % 0x40, 0x80 + n % 0x40]
  else [0xF0 + n / 0x40000, 0x80 + n / 0x1000 % 0x40, 0x80 + n / 0x40 % 0x40, 0x80 + n % 0x40]

/-- The bytes of a text. -/
def bytesOf (cs : List Char) : List Nat := cs.flatMap fun c => bytes c.toNat

/-- The last characters that take one, two and three bytes. -/
def lastOfLength : List Nat := [0x7F, 0x7FF, 0xFFFF]

/-- How many characters share all bytes but the last one, two or three. -/
def blocks : List Nat := [0x40, 0x1000, 0x40000]

/--
Where a range is cut in two: the end of the first and the start of the second
part. The numbers that stand for no character fall out; both parts take the same
number of bytes; and where the first bytes differ, the last ones take all values.
-/
def cut? (a b : Nat) : Option (Nat × Nat) :=
  if a < 0xE000 ∧ 0xD7FF < b then some (0xD7FF, 0xE000)
  else
    match lastOfLength.find? fun n => a ≤ n && n < b with
    | some n => some (n, n + 1)
    | none =>
      if b ≤ 0x7F then none
      else
        blocks.findSome? fun size =>
          if a / size = b / size then none
          else if a % size ≠ 0 then some ((a / size + 1) * size - 1, (a / size + 1) * size)
          else if b % size ≠ size - 1 then some (b / size * size - 1, b / size * size)
          else none

/-- The pieces of a range in ascending order, each by the ranges of its bytes. -/
def pieces (a b : Nat) : List (List (Nat × Nat)) :=
  if b < a then []
  else
    match cut? a b with
    | none => [(bytes a).zip (bytes b)]
    | some (stop, start) =>
      if stop < b ∧ a < start then pieces a stop ++ pieces start b else []
  termination_by b + 1 - a

/-- The pieces of a set. -/
def piecesOf (s : CodeSet) : List (List (Nat × Nat)) := s.ranges.flatMap fun r => pieces r.1 r.2

end Gridbook.Text.Utf8
