import Gridbook.Text.Case
import Gridbook.Text.Script
import Gridbook.Text.Word

/-!
# Pattern trees

A pattern matches characters of a set, places between characters, sequences,
choices and repetitions; a group remembers what its body matched. Choices prefer
their earlier branches, repetitions more or fewer rounds as they say.
-/
namespace Gridbook.Pattern

open Text (CodeSet)

/-- Places that a pattern can ask for without taking a character. -/
inductive Look where
  | start
  | stop
  | lineStart (crlf : Bool)
  | lineStop (crlf : Bool)
  | boundary (unicode : Bool)
  | noBoundary (unicode : Bool)
  | wordStart (unicode : Bool)
  | wordStop (unicode : Bool)
  | wordStartHalf (unicode : Bool)
  | wordStopHalf (unicode : Bool)
  deriving DecidableEq, Repr

inductive Node where
  | empty
  /-- One character or more in a row. -/
  | literal (cs : List Char)
  | set (s : CodeSet)
  | look (l : Look)
  | repeated (least : Nat) (most : Option Nat) (greedy : Bool) (body : Node)
  | group (number : Nat) (body : Node)
  | sequence (parts : List Node)
  | choice (branches : List Node)
  deriving Repr

namespace Look

def isWordAt (unicode : Bool) : Option Char → Bool
  | none => false
  | some c => if unicode then Text.isWord c else c.toNat < 0x80 && Text.isWordAscii c

/-- Whether a place is as asked, given the characters before and after it. -/
def holds (before after : Option Char) : Look → Bool
  | start => before.isNone
  | stop => after.isNone
  | lineStart false => before.isNone || before == some '\n'
  | lineStart true =>
    before.isNone || before == some '\n' || (before == some '\r' && after != some '\n')
  | lineStop false => after.isNone || after == some '\n'
  | lineStop true =>
    after.isNone || after == some '\r' || (after == some '\n' && before != some '\r')
  | boundary u => isWordAt u before != isWordAt u after
  | noBoundary u => isWordAt u before == isWordAt u after
  | wordStart u => !isWordAt u before && isWordAt u after
  | wordStop u => isWordAt u before && !isWordAt u after
  | wordStartHalf u => !isWordAt u before
  | wordStopHalf u => !isWordAt u after

end Look

namespace Node

mutual

/-- The fewest characters that a match takes; none where some part can match nothing at all. -/
def leastLength : Node → Option Nat
  | .empty => some 0
  | .literal cs => some cs.length
  | .set s => if s.ranges.isEmpty then none else some 1
  | .look _ => some 0
  | .repeated least _ _ body => (leastLength body).map (least * ·)
  | .group _ body => leastLength body
  | .sequence parts => leastTotal parts
  | .choice branches => leastOf branches

def leastTotal : List Node → Option Nat
  | [] => some 0
  | n :: ns =>
    match leastLength n, leastTotal ns with
    | some a, some b => some (a + b)
    | _, _ => none

def leastOf : List Node → Option Nat
  | [] => none
  | [n] => leastLength n
  | n :: ns =>
    match leastLength n, leastOf ns with
    | some a, some b => some (min a b)
    | _, _ => none

end

mutual

/-- The most characters that a match takes; none where there is no bound or no match. -/
def mostLength : Node → Option Nat
  | .empty => some 0
  | .literal cs => some cs.length
  | .set s => if s.ranges.isEmpty then none else some 1
  | .look _ => some 0
  | .repeated _ most _ body =>
    match mostLength body, most with
    | some n, some k => some (n * k)
    | _, _ => none
  | .group _ body => mostLength body
  | .sequence parts => mostTotal parts
  | .choice branches => mostOf branches

def mostTotal : List Node → Option Nat
  | [] => some 0
  | n :: ns =>
    match mostLength n, mostTotal ns with
    | some a, some b => some (a + b)
    | _, _ => none

def mostOf : List Node → Option Nat
  | [] => none
  | [n] => mostLength n
  | n :: ns =>
    match mostLength n, mostOf ns with
    | some a, some b => some (max a b)
    | _, _ => none

end

/-- Every match takes at least one character. -/
def takesSome (n : Node) : Bool :=
  match n.leastLength with
  | some k => 0 < k
  | none => false

mutual

/-- Whether two nodes are the same. -/
def same : Node → Node → Bool
  | .empty, .empty => true
  | .literal s, .literal t => s == t
  | .set s, .set t => s == t
  | .look l, .look m => l == m
  | .repeated a b g n, .repeated c d h m => a == c && b == d && g == h && same n m
  | .group i n, .group j m => i == j && same n m
  | .sequence ns, .sequence ms => sameAll ns ms
  | .choice ns, .choice ms => sameAll ns ms
  | _, _ => false

def sameAll : List Node → List Node → Bool
  | [], [] => true
  | n :: ns, m :: ms => same n m && sameAll ns ms
  | _, _ => false

end

/-- A set; of one character it is a literal. -/
def ofSet (s : CodeSet) : Node :=
  match s.ranges with
  | [(a, b)] => if a = b then .literal [Char.ofNat a] else .set s
  | _ => .set s

/-- A repetition; what takes no character is matched at most once. -/
def ofRepetition (least : Nat) (most : Option Nat) (greedy : Bool) (body : Node) : Node :=
  let (least, most) :=
    if body.mostLength = some 0 then (min least 1, some (min (most.getD 1) 1)) else (least, most)
  if least = 0 ∧ most = some 0 then .empty
  else if least = 1 ∧ most = some 1 then body
  else .repeated least most greedy body

/-- Puts a node in front of a row of others; two literals in a row become one. -/
def consPart : Node → List Node → List Node
  | .empty, rest => rest
  | .literal s, .literal t :: rest => .literal (s ++ t) :: rest
  | n, rest => n :: rest

/-- The parts of sequences inside of a sequence are its own parts. -/
def flatParts (parts : List Node) : List Node :=
  parts.foldr
    (fun n rest =>
      match n with
      | .sequence inner => inner.foldr consPart rest
      | n => consPart n rest)
    []

def ofParts (parts : List Node) : Node :=
  match flatParts parts with
  | [] => .empty
  | [n] => n
  | ns => .sequence ns

/-- The branches of choices inside of a choice are its own branches. -/
def flatBranches (branches : List Node) : List Node :=
  branches.flatMap fun n =>
    match n with
    | .choice inner => inner
    | n => [n]

/-- The set of a node that takes one character of a set. -/
def asSet? : Node → Option CodeSet
  | .literal [c] => some (.single c.toNat)
  | .set s => some s
  | _ => none

/-- A choice without choices inside; between sets it is a set. -/
def ofFlatBranches : List Node → Node
  | [n] => n
  | branches =>
    match branches.mapM asSet? with
    | some sets => ofSet (CodeSet.unionAll sets)
    | none => .choice branches

/-- How many nodes two lists have in common at their start. -/
def sharedLength : List Node → List Node → Nat
  | n :: ns, m :: ms => if n.same m then sharedLength ns ms + 1 else 0
  | _, _ => 0

def parts? : Node → Option (List Node)
  | .sequence parts => some parts
  | _ => none

/-- How many parts all branches have in common at their start, if all are sequences. -/
def sharedStart (branches : List Node) : Nat :=
  match branches.mapM parts? with
  | some (first :: rest) =>
    rest.foldl (fun n parts => min n (sharedLength first parts)) first.length
  | _ => 0

/-- A choice; what all branches start with is put in front of it. -/
def ofBranches (branches : List Node) : Node :=
  let branches := flatBranches branches
  match branches.mapM parts?, ofFlatBranches branches with
  | some (first :: rest), .choice _ =>
    let n := sharedStart branches
    if n = 0 then .choice branches
    else
      let ends := (first :: rest).map fun parts => ofParts (parts.drop n)
      ofParts (first.take n ++ [ofFlatBranches (flatBranches ends)])
  | _, node => node

end Node

end Gridbook.Pattern
