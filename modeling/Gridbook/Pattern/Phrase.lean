/-!
# Phrases

A pattern as it is written: the parts of its text, before names of sets are
looked up and before flags have their effect.
-/
namespace Gridbook.Pattern

inductive Flag where
  | ignoreCase
  | multiLine
  | dotAll
  | swapGreed
  | unicode
  | crlf
  /-- Blanks and comments in the pattern are passed over. -/
  | verbose
  deriving DecidableEq, Repr

/-- Flags with their new values; no flag is named twice. -/
abbrev FlagChange := List (Flag × Bool)

/-- The value of a flag after a change. -/
def FlagChange.valueOf (change : FlagChange) (flag : Flag) (before : Bool) : Bool :=
  match change.find? fun entry => entry.1 == flag with
  | some entry => entry.2
  | none => before

/-- A character; `isByte` says that it is written as two hexadecimal digits. -/
structure Letter where
  char : Char
  isByte : Bool
  deriving DecidableEq, Repr

/-- Places between characters, by the signs for them. -/
inductive Mark where
  | caret
  | dollar
  | textStart
  | textStop
  | boundary
  | noBoundary
  | wordStart
  | wordStop
  | wordStartHalf
  | wordStopHalf
  deriving DecidableEq, Repr

/-- Names of sets of characters. -/
inductive ClassName where
  /-- One of `d`, `s` and `w`, in upper case for all other characters. -/
  | letter (c : Char)
  /-- A property, a category or a script; a value may stand after the name. -/
  | property (negative : Bool) (name : List Char) (value : Option (List Char))
  deriving DecidableEq, Repr

inductive SetOperator where
  | inter
  | difference
  | symmetricDifference
  deriving DecidableEq, Repr

/-- What is written between brackets. -/
inductive SetPhrase where
  | empty
  | char (l : Letter)
  | range (first last : Letter)
  | named (name : ClassName)
  /-- A name such as `[:alpha:]`. -/
  | bracketName (negative : Bool) (name : String)
  | nested (negative : Bool) (inside : SetPhrase)
  | union (items : List SetPhrase)
  | combined (op : SetOperator) (left right : SetPhrase)
  deriving Repr

inductive Phrase where
  /-- A change of flags for what follows. -/
  | flags (change : FlagChange)
  | char (l : Letter)
  /-- Any character, within the limits of the flags. -/
  | dot
  | mark (m : Mark)
  | named (name : ClassName)
  | set (negative : Bool) (inside : SetPhrase)
  | repeated (least : Nat) (most : Option Nat) (greedy : Bool) (body : Phrase)
  /-- A group without a number only holds its body together. -/
  | group (number : Option Nat) (change : FlagChange) (body : Phrase)
  | sequence (parts : List Phrase)
  | choice (branches : List Phrase)
  deriving Repr

namespace SetPhrase

/-- One item alone is that item. -/
def ofItems : List SetPhrase → SetPhrase
  | [] => .empty
  | [s] => s
  | items => .union items

mutual

/-- How deep sets, lists of items and operators stand inside each other. -/
def depth : SetPhrase → Nat
  | .empty => 0
  | .char _ => 0
  | .range _ _ => 0
  | .named _ => 0
  | .bracketName _ _ => 0
  | .nested _ inside => depth inside + 1
  | .union items => deepest items + 1
  | .combined _ left right => max (depth left) (depth right) + 1

def deepest : List SetPhrase → Nat
  | [] => 0
  | s :: rest => max (depth s) (deepest rest)

end

end SetPhrase

namespace Phrase

/-- One part alone is that part. -/
def ofParts : List Phrase → Phrase
  | [p] => p
  | parts => .sequence parts

/-- One branch alone is that branch. -/
def ofBranches : List Phrase → Phrase
  | [p] => p
  | branches => .choice branches

mutual

/-- How deep phrases with parts stand inside each other; a sequence of nothing has none. -/
def depth : Phrase → Nat
  | .flags _ => 0
  | .char _ => 0
  | .dot => 0
  | .mark _ => 0
  | .named _ => 0
  | .set _ inside => inside.depth + 1
  | .repeated _ _ _ body => depth body + 1
  | .group _ _ body => depth body + 1
  | .sequence [] => 0
  | .sequence parts => deepest parts + 1
  | .choice branches => deepest branches + 1

def deepest : List Phrase → Nat
  | [] => 0
  | p :: rest => max (depth p) (deepest rest)

end

end Phrase

end Gridbook.Pattern
