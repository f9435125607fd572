import Gridbook.Pattern.Program

/-!
# Searching

All ways through a program are followed at once, one character at a time, the
preferred ones first. A way that reaches an instruction after a preferred one
did is dropped, so the work is bounded by the size of the program times the
length of the text. The match found is the leftmost one, and of those the one
that the pattern prefers.
-/
namespace Gridbook.Pattern

/-- Positions by slot; the latest one of a slot stands first. -/
abbrev Slots := List (Nat × Nat)

def Slots.get? (s : Slots) (slot : Nat) : Option Nat :=
  (s.find? fun entry => entry.1 == slot).map Prod.snd

/-- A way through the program: where it stands and what it remembers. -/
abbrev Thread := Nat × Slots

/--
Follows threads through the instructions that take no character. The work list
is in order of preference, and the places seen so far are marked; `found` holds
the threads that wait for a character, the last one first. `fuel` bounds the
steps.
-/
def follow (code : Code) (before after : Option Char) (position : Nat) :
    Nat → List Thread → Array Bool → List Thread → List Thread
  | 0, _, _, found => found.reverse
  | _ + 1, [], _, found => found.reverse
  | fuel + 1, (place, slots) :: rest, seen, found =>
    let (work, found) : List Thread × List Thread :=
      if seen.getD place true then (rest, found)
      else
        match code[place]? with
        | none => (rest, found)
        | some (.fork first second) => ((first, slots) :: (second, slots) :: rest, found)
        | some (.save slot next) => ((next, (slot, position) :: slots) :: rest, found)
        | some (.look l next) =>
          (if l.holds before after then (next, slots) :: rest else rest, found)
        | some (.set _ _) => (rest, (place, slots) :: found)
        | some .accept => (rest, (place, slots) :: found)
    follow code before after position fuel work (seen.setIfInBounds place true) found

/-- Every place is expanded once into at most two others. -/
def closure (code : Code) (before after : Option Char) (position : Nat) (work : List Thread) :
    List Thread :=
  follow code before after position (work.length + 2 * code.size + 1) work
    (Array.replicate code.size false) []

/--
Lets threads take a character: the threads that could, and what was remembered
by the first one that accepts. Threads after that one are dropped; `passed` holds
those that could so far, the last one first.
-/
def advance (code : Code) (next : Option Char) :
    List Thread → List Thread → List Thread × Option Slots
  | [], passed => (passed.reverse, none)
  | (place, slots) :: rest, passed =>
    match code[place]? with
    | some .accept => (passed.reverse, some slots)
    | some (.set s after) =>
      advance code next rest
        (if next.any s.contains then (after, slots) :: passed else passed)
    | _ => advance code next rest passed

/-- Searches from a position on, given the threads that came there and the best match so far. -/
def searchFrom (p : Program) (before : Option Char) (position : Nat) (threads : List Thread)
    (best : Option Slots) (text : List Char) : Option Slots :=
  let work := if best.isNone then threads ++ [(p.start, [])] else threads
  let step := advance p.code text.head? (closure p.code before text.head? position work) []
  let best := step.2.or best
  match text with
  | [] => best
  | c :: rest =>
    if best.isSome && step.1.isEmpty then best
    else searchFrom p (some c) (position + 1) step.1 best rest

/-- A match: the ends of the text that is replaced, and what the groups hold. -/
structure Match where
  first : Nat
  stop : Nat
  slots : Slots

/-- The leftmost match at or after a position. -/
def find? (p : Program) (text : List Char) (position : Nat) : Option Match :=
  let before := if position = 0 then none else text[position - 1]?
  match searchFrom p before position [] none (text.drop position) with
  | none => none
  | some slots =>
    match slots.get? 0, slots.get? 1 with
    | some first, some stop => some ⟨first, stop, slots⟩
    | _, _ => none

/--
The matches one after the other. An empty match right where the last one ended
is passed over for the next one further on.
-/
def matchesFrom (p : Program) (text : List Char) : Nat → Nat → Option Nat → List Match
  | 0, _, _ => []
  | n + 1, position, lastStop =>
    let found :=
      match find? p text position with
      | some m =>
        if m.first = m.stop ∧ some m.stop = lastStop then
          if position < text.length then find? p text (position + 1) else none
        else some m
      | none => none
    match found with
    | none => []
    | some m => m :: matchesFrom p text n m.stop (some m.stop)

/-- All matches that do not overlap; each but the first ends further on than the one before. -/
def allMatches (p : Program) (text : List Char) : List Match :=
  matchesFrom p text (text.length + 2) 0 none

end Gridbook.Pattern
