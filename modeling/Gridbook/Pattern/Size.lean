import Std.Data.HashMap
import Gridbook.Pattern.Tree
import Gridbook.Text.Utf8

/-!
# Sizes of patterns

A pattern may take ten mebibytes, counted as the states of two automata over
bytes: one that reads a text forward and one that reads it backward. Every state
takes 32 bytes, with eight more for each way out of it where these are told
apart by bytes, and four more for each way out of a fork.

The states of a set share what its pieces have in common. They are looked up in
a table with a fixed number of places, where a later entry takes the place of an
earlier one; what has been lost that way is made once more.
-/
namespace Gridbook.Pattern

open Text (CodeSet)

/-- The states made so far and the bytes that they take. -/
structure Extent where
  states : Nat
  bytes : Nat
  deriving DecidableEq, Repr

namespace Extent

def zero : Extent := ⟨0, 0⟩

/-- The bytes that a pattern may take. -/
def largest : Nat := 10 * 1024 * 1024

def fits (e : Extent) : Bool := e.bytes ≤ largest

/-- States that need no more than their place. -/
def plain (n : Nat) (e : Extent) : Extent := ⟨e.states + n, e.bytes + 32 * n⟩

/-- A state with ways that are told apart by bytes. -/
def branching (ways : Nat) (e : Extent) : Extent := ⟨e.states + 1, e.bytes + 32 + 8 * ways⟩

/-- A fork with the ways that it has from the start. -/
def fork (ways : Nat) (e : Extent) : Extent := ⟨e.states + 1, e.bytes + 32 + 4 * ways⟩

/-- One more way out of a fork that is there. -/
def way (e : Extent) : Extent := { e with bytes := e.bytes + 4 }

def add (e d : Extent) : Extent := ⟨e.states + d.states, e.bytes + d.bytes⟩

end Extent

/-- Numbers of states by what they hold; every place of the table has one entry. -/
structure Recall (α : Type) where
  places : Nat
  held : Std.HashMap Nat (α × Nat)

namespace Recall

def empty {α : Type} (places : Nat) : Recall α := ⟨places, ∅⟩

/-- Where numbers are held, by their 64-bit hash. -/
def place {α : Type} (r : Recall α) (ns : List Nat) : Nat :=
  let hash : UInt64 :=
    ns.foldl (fun h n => (h ^^^ UInt64.ofNat n) * 1099511628211) 14695981039346656037
  hash.toNat % r.places

def find? {α : Type} [BEq α] (r : Recall α) (place : Nat) (key : α) : Option Nat :=
  match r.held[place]? with
  | some (held, state) => if held == key then some state else none
  | none => none

def put {α : Type} (r : Recall α) (place : Nat) (key : α) (state : Nat) : Recall α :=
  { r with held := r.held.insert place (key, state) }

end Recall

/-- A way out of a state: the first and last byte for it, and the state it leads to. -/
abbrev Way := Nat × Nat × Nat

/-- A state that is not finished: its ways, the last one first, and the bytes of an open one. -/
structure Unfinished where
  ways : List Way
  next : Option (Nat × Nat)

/-- What has been made for a set that is read forward. -/
structure Forward where
  extent : Extent
  made : Recall (List Way)

namespace Forward

/-- The state with these ways, a new one if the table has none. -/
def stateOf (w : Forward) (ways : List Way) : Nat × Forward :=
  let place := w.made.place (ways.flatMap fun (a, b, state) => [a, b, state])
  match w.made.find? place ways with
  | some state => (state, w)
  | none =>
    (w.extent.states,
      ⟨w.extent.branching ways.length, w.made.put place ways w.extent.states⟩)

/-- The ways of a state whose open way leads to `state`, in their order. -/
def closeWays (u : Unfinished) (state : Nat) : List Way :=
  match u.next with
  | some (a, b) => ((a, b, state) :: u.ways).reverse
  | none => u.ways.reverse

/-- Finishes states in a row, each reached by the one before; the last one leads to `target`. -/
def finish (target : Nat) : List Unfinished → Forward → Nat × Forward
  | [], w => (target, w)
  | u :: deeper, w =>
    let (state, w) := finish target deeper w
    w.stateOf (closeWays u state)

/-- Adds a piece to the states that are open, the first one first. -/
def addPiece (target : Nat) :
    List Unfinished → List (Nat × Nat) → Forward → List Unfinished × Forward
  | u :: deeper, r :: rs, w =>
    if u.next == some r then
      let (deeper, w) := addPiece target deeper rs w
      (u :: deeper, w)
    else
      let (state, w) := finish target deeper w
      (⟨(closeWays u state).reverse, some r⟩ :: rs.map fun r => ⟨[], some r⟩, w)
  | us, _, w => (us, w)

end Forward

/-- How many places the table has for sets that are read forward. -/
def forwardPlaces : Nat := 10000

/-- The states of a set that is read forward; its pieces share what they start with. -/
def forwardSet (s : CodeSet) (e : Extent) : Extent :=
  let target := e.states
  let (us, w) :=
    (Text.Utf8.piecesOf s).foldl (fun (us, w) piece => Forward.addPiece target us piece w)
      (([⟨[], none⟩] : List Unfinished), (⟨e.plain 1, .empty forwardPlaces⟩ : Forward))
  (Forward.finish target us w).2.extent

/-- What has been made for a set that is read backward. -/
structure Backward where
  extent : Extent
  made : Recall Way

/-- The state in front of `w.1` that takes a byte of a range. -/
def Backward.stateOf (w : Nat × Backward) (r : Nat × Nat) : Nat × Backward :=
  let (next, w) := w
  let place := w.made.place [next, r.1, r.2]
  match w.made.find? place (r.1, r.2, next) with
  | some state => (state, w)
  | none =>
    (w.extent.states,
      ⟨w.extent.plain 1, w.made.put place (r.1, r.2, next) w.extent.states⟩)

/-- How many places the table has for sets that are read backward. -/
def backwardPlaces : Nat := 1000

/-- The states of a set that is read backward: a fork with a way for every piece. -/
def backwardSet (s : CodeSet) (e : Extent) : Extent :=
  let stop := e.states + 1
  let w : Backward := ⟨(e.fork 0).plain 1, .empty backwardPlaces⟩
  ((Text.Utf8.piecesOf s).foldl
    (fun w piece =>
      let w := (piece.foldl Backward.stateOf (stop, w)).2
      { w with extent := w.extent.way })
    w).extent

def setExtent (backward : Bool) (s : CodeSet) (e : Extent) : Extent :=
  if s.isAscii then (e.plain 1).branching s.ranges.length
  else if backward then backwardSet s e
  else forwardSet s e

/-- Words in runs that are parted by empty words. -/
def runs (words : List (List Nat)) : List (List (List Nat)) :=
  words.foldr
    (fun word runs =>
      match word, runs with
      | [], runs => [] :: runs
      | word, run :: rest => (word :: run) :: rest
      | word, [] => [[word]])
    [[]]

/-- What follows a byte in the words that start with it. -/
def tails (byte : Nat) (words : List (List Nat)) : List (List Nat) :=
  words.filterMap fun word =>
    match word with
    | b :: rest => if b == byte then some rest else none
    | [] => none

/--
The states of a choice between words, which share what they start with. An
empty word ends what can be shared; at the start one of them counts. `n` bounds
the length of the words.
-/
def wordsExtent : Nat → List (List Nat) → Extent
  | 0, _ => .zero
  | n + 1, words =>
    let runs := runs (words.dropWhile List.isEmpty)
    let ends := (runs.length - 1) + if words.head? == some [] then 1 else 0
    let ways := (runs.filter fun run => !run.isEmpty).map fun run =>
      ((run.filterMap List.head?).eraseDups, run)
    let here := ways.foldl
      (fun e (bytes, _) => if bytes.length = 1 then e.plain 1 else e.branching bytes.length)
      (Extent.zero.fork (ways.length + ends))
    ways.foldl
      (fun e (bytes, run) =>
        bytes.foldl
          (fun e byte =>
            let rest := tails byte run
            if rest.all List.isEmpty then e else e.add (wordsExtent n rest))
          e)
      here

namespace Node

def literal? : Node → Option (List Char)
  | .literal cs => some cs
  | _ => none

/-- An extent, and whether what was made last ends in a fork that still has to lead on. -/
abbrev Laid := Extent × Bool

/-- Leads on from what was made before. -/
def Laid.link (before : Bool) (e : Extent) : Extent := if before then e.way else e

/-- More copies of a part in a row; none where there is no room for them. -/
def copies (lay : Extent → Laid) : Nat → Laid → Laid
  | 0, l => l
  | n + 1, (e, ends) =>
    if e.fits then
      let (e, last) := lay e
      copies lay n (Laid.link ends e, last)
    else (e, ends)

/-- Some number of copies; no copy at all is one state. -/
def exactly (lay : Extent → Laid) : Nat → Extent → Laid
  | 0, e => (e.plain 1, false)
  | n + 1, e => copies lay n (lay e)

/-- Copies that may each be the last, with a fork in front of each. -/
def optional (lay : Extent → Laid) : Nat → Laid → Laid
  | 0, l => l
  | n + 1, (e, ends) =>
    if e.fits then
      let (after, last) := lay (e.fork 2)
      optional lay n (Laid.link ends after, last)
    else (e, ends)

/-- A repetition without an upper bound. -/
def unbounded (lay : Extent → Laid) (takesSome : Bool) : Nat → Extent → Laid
  | 0, e =>
    if takesSome then
      let (e, ends) := lay (e.fork 1)
      (Laid.link ends e, true)
    else
      let (e, ends) := lay e
      ((((Laid.link ends e).fork 2).fork 2).plain 1, false)
  | n + 1, e =>
    let (e, ends) := copies lay n (lay e)
    (((Laid.link ends e).fork 1), true)

mutual

/-- The states of a node after those that are there. -/
def lay (backward : Bool) : Node → Extent → Laid
  | .empty, e => (e.plain 1, false)
  | .literal cs, e => (e.plain (Text.Utf8.bytesOf cs).length, false)
  | .set s, e => (setExtent backward s e, false)
  | .look _, e => (e.plain 1, false)
  | .repeated least none _ body, e =>
    unbounded (lay backward body) body.takesSome least e
  | .repeated least (some most) _ body, e =>
    if least = 0 ∧ most = 1 then
      let (e, ends) := lay backward body (e.fork 2)
      (Laid.link ends (e.plain 1), false)
    else
      let (e, ends) := exactly (lay backward body) least e
      if least = most then (e, ends)
      else
        let (e, ends) := optional (lay backward body) (most - least) (e.plain 1, ends)
        (Laid.link ends e, false)
  | .group _ body, e =>
    if backward then lay backward body e
    else
      let (e, ends) := lay backward body (e.plain 1)
      (Laid.link ends (e.plain 1), false)
  | .sequence parts, e => layAll backward parts e
  | .choice branches, e =>
    match branches.mapM literal? with
    | some words =>
      let words := words.map fun cs =>
        if backward then (Text.Utf8.bytesOf cs).reverse else Text.Utf8.bytesOf cs
      let longest := words.foldl (fun n word => max n word.length) 0
      ((e.plain 1).add (wordsExtent (longest + 1) words), false)
    | none => (layBranches backward branches e, false)

/-- Parts in a row, from the one that is read first. -/
def layAll (backward : Bool) : List Node → Extent → Laid
  | [], e => (e, false)
  | [n], e => lay backward n e
  | n :: ns, e =>
    if backward then
      let (e, ends) := layAll backward ns e
      let (e, last) := lay backward n e
      (Laid.link ends e, last)
    else
      let (e, ends) := lay backward n e
      let (e, last) := layAll backward ns e
      (Laid.link ends e, last)

/-- Branches, of which the first two come before their fork and the place where all meet. -/
def layBranches (backward : Bool) : List Node → Extent → Extent
  | [], e => (e.fork 0).plain 1
  | [n], e =>
    let (e, ends) := lay backward n e
    Laid.link ends ((e.fork 1).plain 1)
  | n :: m :: ns, e =>
    let (e, ends) := lay backward n e
    let (e, ends') := lay backward m e
    layMore backward ns (Laid.link ends (Laid.link ends' ((e.fork 2).plain 1)))

/-- Branches after the second one. -/
def layMore (backward : Bool) : List Node → Extent → Extent
  | [], e => e
  | n :: ns, e =>
    let (e, ends) := lay backward n e
    layMore backward ns (Laid.link ends e.way)

end

mutual

/-- Whether every match asks for a place before, or backward after, it takes a character. -/
def asks (l : Look) (backward : Bool) : Node → Bool
  | .look m => m == l
  | .repeated least _ _ body => 0 < least && asks l backward body
  | .group _ body => asks l backward body
  | .sequence parts => asksFirst l backward parts
  | .choice branches => !branches.isEmpty && allAsk l backward branches
  | _ => false

def asksFirst (l : Look) (backward : Bool) : List Node → Bool
  | [] => false
  | n :: ns =>
    if backward then asksFirst l backward ns || (mostTotal ns == some 0 && asks l backward n)
    else asks l backward n || (n.mostLength == some 0 && asksFirst l backward ns)

def allAsk (l : Look) (backward : Bool) : List Node → Bool
  | [] => true
  | n :: ns => asks l backward n && allAsk l backward ns

end

/--
The automaton that reads forward. A loop over any byte goes first, unless a match
can only start where the text does; two states hold the ends of the match.
-/
def forwardExtent (n : Node) : Extent :=
  let start :=
    if n.asks .start false then Extent.zero.plain 1
    else ((Extent.zero.fork 2).plain 1).branching 1
  let (e, ends) := n.lay false (start.plain 1)
  (Laid.link ends (e.plain 1)).plain 1

/-- The automaton that reads backward, from the ends of matches to their starts. -/
def backwardExtent (n : Node) : Extent :=
  let start :=
    if n.asks .stop true then Extent.zero.plain 1
    else ((Extent.zero.fork 2).plain 1).branching 1
  let (e, ends) := n.lay true start
  Laid.link ends (e.plain 1)

/-- How many words may stand in a choice that is searched without an automaton. -/
def manyWords : Nat := 3000

/-- A long list of words is looked up in another way and may take any size. -/
def isWordList : Node → Bool
  | .choice branches => manyWords ≤ branches.length && (branches.mapM literal?).isSome
  | _ => false

/-- Whether a pattern is not too large. -/
def fits (n : Node) : Bool := n.isWordList || (n.forwardExtent.fits && n.backwardExtent.fits)

end Node

end Gridbook.Pattern
