import Gridbook.Pattern.Meaning
import Gridbook.Pattern.Reader
import Gridbook.Pattern.Size
import Gridbook.Pattern.Start

/-!
# Pattern programs

A program is a list of instructions that name their successors. Code is made
from its end: each part is given the place that follows it and answers with its
own first place. A fork prefers its first branch.

A loop whose body may match nothing is made as an optional loop that runs at
least once; so a round that matches nothing leaves the loop instead of being
tried in place of leaving it.
-/
namespace Gridbook.Pattern

open Text (CodeSet)

inductive Instr where
  | set (s : CodeSet) (next : Nat)
  | look (l : Look) (next : Nat)
  | fork (first second : Nat)
  /-- Remembers the present position under a number. -/
  | save (slot : Nat) (next : Nat)
  | accept
  deriving Repr

/-- Instructions by their places. -/
abbrev Code := Array Instr

/-- Appends an instruction and answers with its place. -/
def Code.push (code : Code) (i : Instr) : Nat × Code := (code.size, Array.push code i)

/-- A fork between a round of a repetition and what follows it. -/
def roundOr (greedy : Bool) (round next : Nat) : Instr :=
  if greedy then .fork round next else .fork next round

/-- Code for `n` copies in a row, made from the last one on. -/
def copies (body : Nat → Code → Nat × Code) : Nat → Nat → Code → Nat × Code
  | 0, next, code => (next, code)
  | n + 1, next, code =>
    let (next, code) := body next code
    copies body n next code

/-- Code for up to `n` rounds after one another, each of which may be the last. -/
def optional (greedy : Bool) (body : Nat → Code → Nat × Code) (next : Nat) :
    Nat → Nat → Code → Nat × Code
  | 0, after, code => (after, code)
  | n + 1, after, code =>
    let (round, code) := body after code
    let (fork, code) := Code.push code (roundOr greedy round next)
    optional greedy body next n fork code

/-- Code for one round or more: the first place of the body, and the place of the fork. -/
def loop (greedy : Bool) (body : Nat → Code → Nat × Code) (next : Nat) (code : Code) :
    Nat × Nat × Code :=
  let (fork, code) := Code.push code .accept
  let (round, code) := body fork code
  (round, fork, code.setIfInBounds fork (roundOr greedy round next))

/-- Code for a repetition without an upper bound. -/
def unbounded (least : Nat) (greedy mayBeEmpty : Bool) (body : Nat → Code → Nat × Code)
    (next : Nat) (code : Code) : Nat × Code :=
  match least with
  | 0 =>
    let (round, fork, code) := loop greedy body next code
    if mayBeEmpty then Code.push code (roundOr greedy round next) else (fork, code)
  | least + 1 =>
    let (round, _, code) := loop greedy body next code
    copies body least round code

mutual

/-- Code for a node in front of the place `next`. -/
def emit : Node → Nat → Code → Nat × Code
  | .empty, next, code => (next, code)
  | .literal cs, next, code =>
    cs.foldr (fun c (next, code) => Code.push code (.set (.single c.toNat) next)) (next, code)
  | .set s, next, code => Code.push code (.set s next)
  | .look l, next, code => Code.push code (.look l next)
  | .repeated least none greedy body, next, code =>
    unbounded least greedy (!body.takesSome) (emit body) next code
  | .repeated least (some most) greedy body, next, code =>
    let (next, code) := optional greedy (emit body) next (most - least) next code
    copies (emit body) least next code
  | .group n body, next, code =>
    let (stop, code) := Code.push code (.save (2 * n + 1) next)
    let (first, code) := emit body stop code
    Code.push code (.save (2 * n) first)
  | .sequence parts, next, code => emitAll parts next code
  | .choice branches, next, code => emitChoice branches next code

/-- Code for parts in a row. -/
def emitAll : List Node → Nat → Code → Nat × Code
  | [], next, code => (next, code)
  | n :: ns, next, code =>
    let (next, code) := emitAll ns next code
    emit n next code

/-- Code for branches, the first one preferred. -/
def emitChoice : List Node → Nat → Code → Nat × Code
  | [], next, code => (next, code)
  | [n], next, code => emit n next code
  | n :: ns, next, code =>
    let (others, code) := emitChoice ns next code
    let (first, code) := emit n next code
    Code.push code (.fork first others)

end

structure Program where
  code : Code
  start : Nat
  /-- The numbers of the named groups. -/
  names : List (String × Nat)

/-- The program of a node; slots 0 and 1 hold the ends of the whole match. -/
def Program.ofNode (node : Node) (names : List (String × Nat)) : Program :=
  let (accept, code) := Code.push #[] .accept
  let (stop, code) := Code.push code (.save 1 accept)
  let (first, code) := emit node stop code
  let (start, code) := Code.push code (.save 0 first)
  ⟨code, start, names⟩

/--
The program of a pattern's text, if it is a pattern and not too large. A pattern
that means a few texts is never too large.
-/
def compile? (text : String) : Option Program :=
  match readPhrase? text.toList with
  | none => none
  | some (phrase, names) =>
    match phrase.meaning? .standard with
    | none => none
    | some (node, _) =>
      if node.fits then some (.ofNode node names)
      else node.texts?.map fun texts => .ofNode (.ofBranches (texts.map .literal)) names

end Gridbook.Pattern
