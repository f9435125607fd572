import Gridbook.Pattern.CharSets
import Gridbook.Pattern.Phrase
import Gridbook.Pattern.Tree

/-!
# What phrases mean

A phrase becomes a tree under flags. A change of flags holds for all that
follows up to the end of the group around it. Without the flag for Unicode,
names of sets mean ASCII characters alone, and a phrase that would match bytes
that are no text has no meaning.
-/
namespace Gridbook.Pattern

open Text (CodeSet)

structure Flags where
  ignoreCase : Bool
  multiLine : Bool
  dotAll : Bool
  swapGreed : Bool
  unicode : Bool
  crlf : Bool
  deriving DecidableEq, Repr

namespace Flags

def standard : Flags := ⟨false, false, false, false, true, false⟩

def set (f : Flags) (value : Bool) : Flag → Flags
  | .ignoreCase => { f with ignoreCase := value }
  | .multiLine => { f with multiLine := value }
  | .dotAll => { f with dotAll := value }
  | .swapGreed => { f with swapGreed := value }
  | .unicode => { f with unicode := value }
  | .crlf => { f with crlf := value }
  | .verbose => f

def after (f : Flags) (change : FlagChange) : Flags :=
  change.foldl (fun f entry => f.set entry.2 entry.1) f

/-- The set with everything that differs only in case, if case is ignored. -/
def closed (f : Flags) (s : CodeSet) : CodeSet :=
  if !f.ignoreCase then s else if f.unicode then closeUnicode s else closeAscii s

/-- The complement of a set; without Unicode there is none. -/
def negated? (f : Flags) (s : CodeSet) : Option CodeSet :=
  if f.unicode then some s.complement else none

/-- A set, or its complement, where both are closed under case. -/
def closedOrNegated? (f : Flags) (negative : Bool) (s : CodeSet) : Option CodeSet :=
  if negative then f.negated? (f.closed s) else some (f.closed s)

end Flags

/-- A letter inside of a set; without Unicode it is an ASCII character. -/
def Letter.inSet? (f : Flags) (l : Letter) : Option Nat :=
  if !f.unicode && 0x80 ≤ l.char.toNat then none else some l.char.toNat

def ClassName.meaning? (f : Flags) : ClassName → Option CodeSet
  | .letter c =>
    match letterClass? f.unicode c.toLower with
    | none => none
    | some s => if c.isUpper then f.negated? s else some s
  | .property negative name value =>
    if !f.unicode then none
    else
      let found :=
        match value with
        | none => property? (plainName name)
        | some value => propertyValue? (plainName name) (plainName value)
      found.bind (f.closedOrNegated? negative)

def SetOperator.apply : SetOperator → CodeSet → CodeSet → CodeSet
  | inter, s, t => s.inter t
  | difference, s, t => s.difference t
  | symmetricDifference, s, t => s.symmetricDifference t

namespace SetPhrase

mutual

/-- The characters that are meant, before case is ignored for the set as a whole. -/
def meaning? (f : Flags) : SetPhrase → Option CodeSet
  | .empty => some .empty
  | .char l => (l.inSet? f).map .single
  | .range first last =>
    match first.inSet? f, last.inSet? f with
    | some a, some b => some (.range a b)
    | _, _ => none
  | .named name => name.meaning? f
  | .bracketName negative name => (bracketClass? name).bind (f.closedOrNegated? negative)
  | .nested negative inside => (meaning? f inside).bind (f.closedOrNegated? negative)
  | .union items => (meanings? f items).map CodeSet.unionAll
  | .combined op left right =>
    match meaning? f left, meaning? f right with
    | some s, some t => some (op.apply (f.closed s) (f.closed t))
    | _, _ => none

def meanings? (f : Flags) : List SetPhrase → Option (List CodeSet)
  | [] => some []
  | s :: rest =>
    match meaning? f s, meanings? f rest with
    | some set, some sets => some (set :: sets)
    | _, _ => none

end

end SetPhrase

/--
A letter, or the set of its cases. Without Unicode only ASCII letters have two
cases, and a byte past ASCII is no character.
-/
def Letter.node? (f : Flags) (l : Letter) : Option Node :=
  if l.isByte && !f.unicode && 0x80 ≤ l.char.toNat then none
  else if !f.ignoreCase || (!f.unicode && 0x80 ≤ l.char.toNat) then some (.literal [l.char])
  else some (.ofSet (f.closed (.single l.char.toNat)))

/-- Any character but a line end; without Unicode there is no such set. -/
def dot? (f : Flags) : Option Node :=
  if !f.unicode then none
  else if f.dotAll then some (.set .all)
  else if f.crlf then some (.set (CodeSet.complement ⟨[(0xA, 0xA), (0xD, 0xD)]⟩))
  else some (.set (CodeSet.single 0xA).complement)

def Mark.look (f : Flags) : Mark → Look
  | caret => if f.multiLine then .lineStart f.crlf else .start
  | dollar => if f.multiLine then .lineStop f.crlf else .stop
  | textStart => .start
  | textStop => .stop
  | boundary => .boundary f.unicode
  | noBoundary => .noBoundary f.unicode
  | wordStart => .wordStart f.unicode
  | wordStop => .wordStop f.unicode
  | wordStartHalf => .wordStartHalf f.unicode
  | wordStopHalf => .wordStopHalf f.unicode

namespace Phrase

mutual

/-- The tree of a phrase, and the flags for what follows. -/
def meaning? (f : Flags) : Phrase → Option (Node × Flags)
  | .flags change => some (.empty, f.after change)
  | .char l => (l.node? f).map (·, f)
  | .dot => (dot? f).map (·, f)
  | .mark m => some (.look (m.look f), f)
  | .named name => (name.meaning? f).map fun s => (.ofSet s, f)
  | .set negative inside =>
    ((inside.meaning? f).bind (f.closedOrNegated? negative)).map fun s => (.ofSet s, f)
  | .repeated least most greedy body =>
    (meaning? f body).map fun (node, f) =>
      (.ofRepetition least most (greedy != f.swapGreed) node, f)
  | .group number change body =>
    (meaning? (f.after change) body).map fun (node, _) =>
      match number with
      | none => (node, f)
      | some n => (.group n node, f)
  | .sequence parts => (meanings? f parts).map fun (nodes, f) => (.ofParts nodes, f)
  | .choice branches => (meanings? f branches).map fun (nodes, f) => (.ofBranches nodes, f)

/-- The trees of phrases in a row, where each takes over the flags of the one before. -/
def meanings? (f : Flags) : List Phrase → Option (List Node × Flags)
  | [] => some ([], f)
  | p :: rest =>
    match meaning? f p with
    | none => none
    | some (node, f) => (meanings? f rest).map fun (nodes, f) => (node :: nodes, f)

end

end Phrase

end Gridbook.Pattern
