import Gridbook.Pattern.Tree
import Gridbook.Text.Utf8

/-!
# How matches start

The texts that the matches of a pattern can start with, in the order in which the
pattern prefers them, as long as they are few and short. Where all of them are
whole matches, the pattern means these texts and nothing else, and it is looked
up by them whatever its size.
-/
namespace Gridbook.Pattern

open Text (CodeSet)

/-- What a match can start with. -/
inductive Start where
  /-- The text is all of the match. -/
  | whole (text : List Char)
  /-- More may follow these bytes. -/
  | begins (bytes : List Nat)
  deriving DecidableEq, Repr

namespace Start

def bytes : Start → List Nat
  | whole text => Text.Utf8.bytesOf text
  | begins bytes => bytes

def isWhole : Start → Bool
  | whole _ => true
  | begins _ => false

/-- The same bytes with more that may follow. -/
def opened (s : Start) : Start := begins s.bytes

/-- The first `n` bytes; what has no more of them stays as it is. -/
def take (n : Nat) (s : Start) : Start :=
  if n < s.bytes.length then begins (s.bytes.take n) else s

/-- One start after the other; after what is not whole nothing is known to come next. -/
def append : Start → Start → Start
  | whole s, whole t => whole (s ++ t)
  | whole s, begins bs => begins (Text.Utf8.bytesOf s ++ bs)
  | begins bs, _ => begins bs

/-- Of starts in a row with the same bytes one is left; it is whole if all of them are. -/
def mergeEqual (ss : List Start) : List Start :=
  (ss.foldl
    (fun kept s =>
      match kept with
      | last :: more =>
        if last.bytes == s.bytes then (if s.isWhole then last else last.opened) :: more
        else s :: kept
      | [] => [s])
    []).reverse

/-- The starts that do not begin with one that the pattern prefers. -/
def distinct (ss : List Start) : List Start :=
  (ss.foldl
    (fun kept s => if kept.any fun k => k.bytes.isPrefixOf s.bytes then kept else s :: kept)
    []).reverse

/-- What two rows of bytes have in common at their start. -/
def common : List Nat → List Nat → List Nat
  | a :: as, b :: bs => if a = b then a :: common as bs else []
  | _, _ => []

/-- What all starts have in common at their start. -/
def shared : List Start → List Nat
  | [] => []
  | s :: ss => ss.foldl (fun bs t => common bs t.bytes) s.bytes

end Start

/-- The starts of all matches; none if there are too many or nothing is known of them. -/
abbrev Starts := Option (List Start)

namespace Starts

/-- How many starts are followed. -/
def most : Nat := 250

/-- How many bytes of a start are kept. -/
def longest : Nat := 100

/-- How many characters of a set and how many rounds of a repetition are followed. -/
def mostRounds : Nat := 10

/-- The match is the empty text. -/
def nothing : Starts := some [.whole []]

/-- No start is known to be a whole match. -/
def isOpen : Starts → Bool
  | none => true
  | some ss => ss.all fun s => !s.isWhole

def opened (a : Starts) : Starts := a.map fun ss => ss.map Start.opened

/-- The starts of what has `a` and then `b`. -/
def cross (a b : Starts) : Starts :=
  a.bind fun ss =>
    match b.filter fun ts => ss.length * ts.length ≤ most with
    | none => if ss.any fun s => s.bytes.isEmpty then none else some (ss.map Start.opened)
    | some ts =>
      let both := ss.flatMap fun s => if s.isWhole then ts.map s.append else [s]
      some ((Start.mergeEqual both).map (Start.take longest))

/-- How many bytes are kept where two choices have too many starts together. -/
def fewBytes : Nat := 4

/-- The starts of what is either `a` or `b`. -/
def union (a b : Starts) : Starts :=
  match a, b with
  | some ss, some ts =>
    if ss.length + ts.length ≤ most then some (Start.mergeEqual (ss ++ ts))
    else
      let ss := Start.mergeEqual (ss.map (Start.take fewBytes))
      let ts := Start.mergeEqual (ts.map (Start.take fewBytes))
      if ss.length + ts.length ≤ most then some (Start.mergeEqual (ss ++ ts)) else none
  | _, _ => none

/-- The starts of `n` rounds of `a` that follow what is there. -/
def rounds (a : Starts) : Nat → Starts → Starts
  | 0, before => before
  | n + 1, before => if before.isOpen then before else rounds a n (cross before a)

/-- The characters of a set, if they are few. -/
def ofSet (s : CodeSet) : Starts :=
  if s.ranges.foldl (fun n r => n + (r.2 + 1 - r.1)) 0 ≤ mostRounds then
    some (s.ranges.flatMap fun r =>
      (List.range (r.2 + 1 - r.1)).map fun i => .whole [Char.ofNat (r.1 + i)])
  else none

end Starts

namespace Node

mutual

/-- Whether a node has neither places nor groups. -/
def isPlain : Node → Bool
  | .look _ => false
  | .group _ _ => false
  | .repeated _ _ _ body => isPlain body
  | .sequence parts => arePlain parts
  | .choice branches => arePlain branches
  | _ => true

def arePlain : List Node → Bool
  | [] => true
  | n :: ns => isPlain n && arePlain ns

end

mutual

/-- The starts of the matches of a node. -/
def starts : Node → Starts
  | .empty => .nothing
  | .literal cs => some [(Start.whole cs).take Starts.longest]
  | .set s => .ofSet s
  | .look _ => .nothing
  | .repeated 0 most greedy body =>
    let taken := if most = some 1 then starts body else (starts body).opened
    if greedy then .union taken .nothing else .union .nothing taken
  | .repeated least most _ body =>
    let taken := (starts body).rounds (min least Starts.mostRounds) .nothing
    if most = some least ∧ least ≤ Starts.mostRounds then taken else taken.opened
  | .group _ body => starts body
  | .sequence parts => startsAfter .nothing parts
  | .choice branches => startsWith (some []) branches

/-- The starts of parts in a row that follow what is there. -/
def startsAfter : Starts → List Node → Starts
  | before, [] => before
  | before, n :: ns => if before.isOpen then before else startsAfter (.cross before (starts n)) ns

/-- The starts of branches besides those that are there. -/
def startsWith : Starts → List Node → Starts
  | others, [] => others
  | none, _ => none
  | some others, n :: ns => startsWith (.union (some others) (starts n)) ns

end

end Node

namespace Start

/-- The ASCII characters that are frequent in texts. -/
def frequent : List Char := "\n\r (),-./0129:_abcdefghilmnoprstuvxy|".toList

def isFrequent (byte : Nat) : Bool := 0x80 ≤ byte || frequent.any fun c => c.toNat == byte

/--
What is searched for first: one infrequent byte where all starts share it, and
what they share where that is long or where they are many; else the starts as
they are.
-/
def cut (ss : List Start) : List Start :=
  let kept := distinct ss
  let shared := shared kept
  match shared with
  | [] => kept
  | byte :: _ =>
    if 1 < ss.length ∧ shared.length ≤ 3 ∧ !isFrequent byte then kept.map (take 1)
    else if 4 < shared.length ∨ 1 < shared.length ∧ 16 < kept.length then
      kept.map (take shared.length)
    else kept

/-- Keeps fewer bytes of the starts as long as there are more than enough of them. -/
def shorten : List (Nat × Nat) → List Start → List Start
  | [], ss => ss
  | (bytes, enough) :: more, ss =>
    if ss.length ≤ enough then ss else shorten more (distinct (ss.map (take bytes)))

/-- How many bytes are kept in turn, each time unless there are no more starts than this. -/
def shorter : List (Nat × Nat) := [(5, 10), (4, 10), (3, 64), (2, 64), (1, 10)]

/-- Whether starts are better searched for by fewer of their bytes. -/
def areShortened (ss : List Start) : Bool :=
  let short := shorten shorter ss
  !short.all isWhole && short.all (fun s => 2 < s.bytes.length) && short.length ≤ 64

def text? : Start → Option (List Char)
  | whole text => some text
  | begins _ => none

end Start

/--
The texts that a pattern means, in order of preference, where it means a few
texts that are searched for as they are.
-/
def Node.texts? (n : Node) : Option (List (List Char)) :=
  match n.isPlain, n.starts with
  | true, some ss =>
    if ss.isEmpty ∨ ss.any (fun s => s.bytes.isEmpty) ∨ Start.areShortened (Start.cut ss) then none
    else (Start.cut ss).mapM Start.text?
  | _, _ => none

end Gridbook.Pattern
