import Gridbook.Decimal.Numeral
import Gridbook.Pattern.Phrase
import Gridbook.Text.Hex
import Gridbook.Text.Property

/-!
# Reading patterns

Letters stand for themselves; `. ^ $ | ( ) [ ] * + ?` and braces have their
usual meaning, and a backslash takes it away or names a class or a place. Where
the flag for it is set, blanks and comments may stand between any two signs,
also inside of braces and brackets. A text that is no pattern gives nothing; the
reason is not kept.
-/
namespace Gridbook.Pattern

open Text (CodeSet isBlank hexDigit?)

/-- Passes over blanks and comments; `comment` says that the text begins inside of one. -/
def skipBlanks : Bool → List Char → List Char
  | _, [] => []
  | true, c :: rest => skipBlanks (c != '\n') rest
  | false, c :: rest =>
    if isBlank c then skipBlanks false rest
    else if c == '#' then skipBlanks true rest
    else c :: rest

def skip (verbose : Bool) (s : List Char) : List Char :=
  if verbose then skipBlanks false s else s

/-- What stands before a closing brace, without blanks and comments, and what follows it. -/
def untilBrace (verbose : Bool) : Bool → List Char → Option (List Char × List Char)
  | _, [] => none
  | true, c :: rest => untilBrace verbose (c != '\n') rest
  | false, c :: rest =>
    if c == '\x7d' then some ([], rest)
    else if verbose && isBlank c then untilBrace verbose false rest
    else if verbose && c == '#' then untilBrace verbose true rest
    else (untilBrace verbose false rest).map fun (body, rest) => (c :: body, rest)

/-- The first character that is neither blank nor the first `#`. -/
def firstSolid? : Bool → List Char → Option Char
  | _, [] => none
  | comment, c :: rest =>
    if isBlank c then firstSolid? comment rest
    else if !comment && c == '#' then firstSolid? true rest
    else some c

/--
The character that decides whether a hyphen in a set makes a range. Here a
comment does not end with its line: its first character counts. If nothing but
blanks follows, the very next character is taken.
-/
def peek (verbose : Bool) (s : List Char) : Option Char :=
  if verbose then (firstSolid? false s).or s.head? else s.head?

/-- The character of that number, if it is one. -/
def scalar? (n : Nat) : Option Char :=
  if n.isValidChar then some (Char.ofNat n) else none

def hexValue? (ds : List Char) : Option Nat :=
  ds.foldl (fun n c => n.bind fun n => (hexDigit? c).map fun d => 16 * n + d) (some 0)

/-- A fixed number of hexadecimal digits. -/
def readHexDigits (verbose : Bool) : Nat → List Char → List Char → Option (List Char × List Char)
  | 0, ds, s => some (ds.reverse, s)
  | _ + 1, _, [] => none
  | n + 1, ds, c :: s => readHexDigits verbose n (c :: ds) (skip verbose s)

/-- A character by its number, in braces or with `digits` digits, and the rest. -/
def readHex (verbose : Bool) (digits : Nat) (s : List Char) : Option (Letter × List Char) :=
  match skip verbose s with
  | '\x7b' :: rest =>
    match untilBrace verbose false rest with
    | none => none
    | some (ds, rest) =>
      if ds.isEmpty then none
      else ((hexValue? ds).bind scalar?).map fun c => (⟨c, false⟩, skip verbose rest)
  | s =>
    match readHexDigits verbose digits [] s with
    | none => none
    | some (ds, rest) =>
      ((hexValue? ds).bind scalar?).map fun c => (⟨c, digits == 2⟩, rest)

/-- A name, or a name and a value; `!=` between them means no more than `=` and `:` do. -/
def splitProperty (body : List Char) : List Char × Option (List Char) :=
  let differs :=
    (List.range body.length).find? fun i => body[i]? == some '!' && body[i + 1]? == some '='
  match differs with
  | some i => (body.take i, some (body.drop (i + 2)))
  | none =>
    match (body.findIdx? (· == ':')).or (body.findIdx? (· == '=')) with
    | some i => (body.take i, some (body.drop (i + 1)))
    | none => (body, none)

/-- A property after the letter `p`: in braces, or of one letter. -/
def readProperty (verbose negative : Bool) (s : List Char) : Option (ClassName × List Char) :=
  match skip verbose s with
  | [] => none
  | '\\' :: _ => none
  | '\x7b' :: rest =>
    (untilBrace verbose false rest).map fun (body, rest) =>
      (.property negative (splitProperty body).1 (splitProperty body).2, rest)
  | c :: rest => some (.property negative [c] none, skip verbose rest)

/-- What a backslash and the characters after it stand for. -/
inductive Escape where
  | char (l : Letter)
  | named (name : ClassName)
  | mark (m : Mark)

/-- The places with a name in braces after `\b`. -/
def namedBoundary? (name : List Char) : Option Mark :=
  match String.ofList name with
  | "start" => some .wordStart
  | "end" => some .wordStop
  | "start-half" => some .wordStartHalf
  | "end-half" => some .wordStopHalf
  | _ => none

/-- A word boundary; braces after it name a special one unless they hold a count. -/
def readBoundary (verbose : Bool) (s : List Char) : Option (Escape × List Char) :=
  match s with
  | '\x7b' :: rest =>
    match skip verbose rest with
    | [] => none
    | c :: _ =>
      if c.isAlpha || c == '-' then
        match untilBrace verbose false rest with
        | none => none
        | some (name, rest) => (namedBoundary? name).map fun m => (.mark m, rest)
      else some (.mark .boundary, s)
  | s => some (.mark .boundary, s)

/-- An ASCII character that is neither a letter nor a digit may be escaped. -/
def isEscapable (c : Char) : Bool :=
  c.toNat < 0x80 && !c.isAlphanum && c != '<' && c != '>'

def isClassLetter (c : Char) : Bool := ['d', 's', 'w', 'D', 'S', 'W'].contains c

def readEscape (verbose : Bool) : List Char → Option (Escape × List Char)
  | [] => none
  | 'x' :: rest => (readHex verbose 2 rest).map fun (l, rest) => (.char l, rest)
  | 'u' :: rest => (readHex verbose 4 rest).map fun (l, rest) => (.char l, rest)
  | 'U' :: rest => (readHex verbose 8 rest).map fun (l, rest) => (.char l, rest)
  | 'p' :: rest => (readProperty verbose false rest).map fun (n, rest) => (.named n, rest)
  | 'P' :: rest => (readProperty verbose true rest).map fun (n, rest) => (.named n, rest)
  | 'a' :: rest => some (.char ⟨'\x07', false⟩, rest)
  | 'f' :: rest => some (.char ⟨'\x0c', false⟩, rest)
  | 't' :: rest => some (.char ⟨'\t', false⟩, rest)
  | 'n' :: rest => some (.char ⟨'\n', false⟩, rest)
  | 'r' :: rest => some (.char ⟨'\r', false⟩, rest)
  | 'v' :: rest => some (.char ⟨'\x0b', false⟩, rest)
  | 'A' :: rest => some (.mark .textStart, rest)
  | 'z' :: rest => some (.mark .textStop, rest)
  | 'b' :: rest => readBoundary verbose rest
  | 'B' :: rest => some (.mark .noBoundary, rest)
  | '<' :: rest => some (.mark .wordStart, rest)
  | '>' :: rest => some (.mark .wordStop, rest)
  | c :: rest =>
    if isClassLetter c then some (.named (.letter c), rest)
    else if isEscapable c then some (.char ⟨c, false⟩, rest)
    else none

/-- The names that may stand between `[:` and `:]`. -/
def bracketNames : List String :=
  ["alnum", "alpha", "ascii", "blank", "cntrl", "digit", "graph", "lower", "print", "punct",
    "space", "upper", "word", "xdigit"]

/-- A bracket name such as `[:alpha:]`, after its first bracket. -/
def readBracketName : List Char → Option (SetPhrase × List Char)
  | ':' :: rest =>
    let (negative, body) : Bool × List Char :=
      match rest with
      | '^' :: body => (true, body)
      | body => (false, body)
    match body.span (· ≠ ':') with
    | (name, ':' :: ']' :: rest) =>
      if bracketNames.contains (String.ofList name) then
        some (.bracketName negative (String.ofList name), rest)
      else none
    | _ => none
  | _ => none

/-- One character or one set between brackets. -/
def readSetItem (verbose : Bool) : List Char → Option (Escape × List Char)
  | [] => none
  | '\\' :: rest => readEscape verbose rest
  | c :: rest => some (.char ⟨c, false⟩, rest)

/-- An escape as an item of a set; a place is none. -/
def Escape.item? : Escape → Option SetPhrase
  | .char l => some (.char l)
  | .named name => some (.named name)
  | .mark _ => none

/-- An item or a range of characters, and the rest. -/
def readSetRange (verbose : Bool) (s : List Char) : Option (SetPhrase × List Char) :=
  match readSetItem verbose s with
  | none => none
  | some (first, rest) =>
    let rest := skip verbose rest
    let single := first.item?.map fun item => (item, rest)
    match rest with
    | [] => none
    | '-' :: more =>
      if peek verbose more == some ']' || peek verbose more == some '-' then single
      else
        match first, readSetItem verbose (skip verbose more) with
        | .char a, some (.char b, rest) =>
          if a.char.toNat ≤ b.char.toNat then some (.range a b, rest) else none
        | _, _ => none
    | _ => single

/-- The hyphens at the start of a set stand for themselves. -/
def readHyphens (verbose : Bool) : Nat → List SetPhrase → List Char → List SetPhrase × List Char
  | 0, items, s => (items, s)
  | n + 1, items, s =>
    match s with
    | '-' :: rest => readHyphens verbose n (.char ⟨'-', false⟩ :: items) (skip verbose rest)
    | s => (items, s)

/-- The start of a set: whether it is negated, and the characters that stand for themselves. -/
def openSet (verbose : Bool) (s : List Char) : Bool × List SetPhrase × List Char :=
  let (negative, s) : Bool × List Char :=
    match skip verbose s with
    | '^' :: rest => (true, skip verbose rest)
    | s => (false, s)
  match readHyphens verbose s.length [] s with
  | ([], ']' :: rest) => (negative, [.char ⟨']', false⟩], skip verbose rest)
  | (items, s) => (negative, items, s)

/-- What stands on the left of an operator that waits for its right side. -/
abbrev Pending := Option (SetOperator × SetPhrase)

/-- The items so far, the last one first, with the left side that waited for them. -/
def combine (left : Pending) (items : List SetPhrase) : SetPhrase :=
  match left with
  | none => .ofItems items.reverse
  | some (op, s) => .combined op s (.ofItems items.reverse)

/--
The inside of a set up to its closing bracket: the left side that waits, the
items since then with the last one first, and the text. A set inside is read by
`inner`.
-/
def readSetBody (verbose : Bool) (inner : List Char → Option (SetPhrase × List Char)) :
    Nat → Pending → List SetPhrase → List Char → Option (SetPhrase × List Char)
  | 0, _, _, _ => none
  | n + 1, left, items, s =>
    match skip verbose s with
    | [] => none
    | ']' :: rest => some (combine left items, rest)
    | '[' :: rest =>
      match (readBracketName rest).or (inner rest) with
      | none => none
      | some (item, rest) => readSetBody verbose inner n left (item :: items) rest
    | '&' :: '&' :: rest => readSetBody verbose inner n (some (.inter, combine left items)) [] rest
    | '-' :: '-' :: rest =>
      readSetBody verbose inner n (some (.difference, combine left items)) [] rest
    | '~' :: '~' :: rest =>
      readSetBody verbose inner n (some (.symmetricDifference, combine left items)) [] rest
    | s =>
      match readSetRange verbose s with
      | none => none
      | some (item, rest) => readSetBody verbose inner n left (item :: items) rest

/-- A set after its opening bracket, with sets less than `n` deep inside each other. -/
def readSet (verbose : Bool) : Nat → List Char → Option (SetPhrase × List Char)
  | 0, _ => none
  | n + 1, s =>
    let (negative, items, s) := openSet verbose s
    (readSetBody verbose (readSet verbose n) (s.length + 1) none items s).map
      fun (inside, rest) => (.nested negative inside, rest)

/-- What is left to read, and the groups seen so far with the names of some. -/
structure Progress where
  rest : List Char
  groups : Nat
  names : List (String × Nat)
  verbose : Bool

def flag? : Char → Option Flag
  | 'i' => some .ignoreCase
  | 'm' => some .multiLine
  | 's' => some .dotAll
  | 'U' => some .swapGreed
  | 'u' => some .unicode
  | 'R' => some .crlf
  | 'x' => some .verbose
  | _ => none

/--
Flags up to a colon or a closing parenthesis, which stays in the rest. `value` is
the value for the flags that follow, `seen` holds the signs so far: none of them
may come again, and a hyphen needs a flag after it.
-/
def readFlags (value : Bool) (seen : List Char) (change : FlagChange) :
    List Char → Option (FlagChange × List Char)
  | [] => none
  | c :: rest =>
    if c == ':' || c == ')' then
      if seen.head? == some '-' then none else some (change, c :: rest)
    else if seen.contains c then none
    else if c == '-' then readFlags false ('-' :: seen) change rest
    else
      match flag? c with
      | none => none
      | some flag => readFlags value (c :: seen) ((flag, value) :: change) rest

/-- The largest count of a repetition. -/
def largestCount : Nat := 4294967295

def readCount (text : List Char) : Option Nat :=
  let ds := Text.trim text
  if ds ≠ [] ∧ ds.all Char.isDigit ∧ Decimal.valueOf ds ≤ largestCount then
    some (Decimal.valueOf ds)
  else none

/-- The bounds between braces. -/
def readBounds (body : List Char) : Option (Nat × Option Nat) :=
  match body.span (· ≠ ',') with
  | (exact, []) => (readCount exact).map fun n => (n, some n)
  | (least, _ :: []) => (readCount least).map fun n => (n, none)
  | (least, _ :: most) =>
    match readCount least, readCount most with
    | some a, some b => if a ≤ b then some (a, some b) else none
    | _, _ => none

/-- A question mark after a repetition makes it prefer fewer rounds. -/
def readGreed : List Char → Bool × List Char
  | '?' :: rest => (false, rest)
  | s => (true, s)

/-- A letter of any script. -/
def isLetter (c : Char) : Bool := Text.Property.alphabetic.contains c

def numbers : CodeSet := Text.Property.categories ["N"]

/-- Characters of a group's name. -/
def isNameChar (first : Bool) (c : Char) : Bool :=
  if first then c == '_' || isLetter c
  else
    c == '_' || c == '.' || c == '[' || c == ']' || isLetter c || numbers.contains c

/-- A group's name up to the closing angle bracket. -/
def readName (s : List Char) : Option (String × List Char) :=
  match s.span (· ≠ '>') with
  | (first :: more, _ :: rest) =>
    if isNameChar true first && more.all (isNameChar false) then
      some (String.ofList (first :: more), rest)
    else none
  | _ => none

/-- The start of a group after its parenthesis. -/
inductive Opening where
  /-- Flags for what follows; the parenthesis is closed again. -/
  | flags (change : FlagChange) (rest : List Char)
  | group (number : Option Nat) (change : FlagChange) (inside : Progress)

def openNamed (p : Progress) (s : List Char) : Option Opening :=
  match readName s with
  | none => none
  | some (name, rest) =>
    if p.names.any fun entry => entry.1 == name then none
    else
      let number := p.groups + 1
      some (.group (some number) []
        { p with rest := rest, groups := number, names := (name, number) :: p.names })

def openGroup (p : Progress) (s : List Char) : Option Opening :=
  match skip p.verbose s with
  | '?' :: '=' :: _ => none
  | '?' :: '!' :: _ => none
  | '?' :: '<' :: '=' :: _ => none
  | '?' :: '<' :: '!' :: _ => none
  | '?' :: 'P' :: '<' :: rest => openNamed p rest
  | '?' :: '<' :: rest => openNamed p rest
  | '?' :: rest =>
    match readFlags true [] [] rest with
    | some (change, ')' :: rest) => if change.isEmpty then none else some (.flags change rest)
    | some (change, _ :: rest) =>
      some (.group none change
        { p with rest := rest, verbose := change.valueOf .verbose p.verbose })
    | _ => none
  | rest =>
    some (.group (some (p.groups + 1)) [] { p with rest := rest, groups := p.groups + 1 })

/-- The last part of a sequence, if it can be repeated, and the parts before it. -/
def lastPart? : List Phrase → Option (Phrase × List Phrase)
  | [] => none
  | .flags _ :: _ => none
  | p :: parts => some (p, parts)

/-- An escape as a part of a sequence. -/
def Escape.part : Escape → Phrase
  | .char l => .char l
  | .named name => .named name
  | .mark m => .mark m

/-- All branches with the last one, whose parts are given; the last of each comes first. -/
def joinBranches (branches : List Phrase) (parts : List Phrase) : Phrase :=
  .ofBranches (.ofParts parts.reverse :: branches).reverse

/--
Branches up to the end of the text or to a closing parenthesis, which stays in
the rest. `n` bounds the characters that are taken; of the branches and of the
parts of the present one, the last comes first.
-/
def readBranches : Nat → Progress → List Phrase → List Phrase → Option (Phrase × Progress)
  | 0, _, _, _ => none
  | n + 1, p, branches, parts =>
    let push (part : Phrase) (rest : List Char) :=
      readBranches n { p with rest := rest } branches (part :: parts)
    let again (least : Nat) (most : Option Nat) (rest : List Char) :=
      match lastPart? parts with
      | none => none
      | some (body, parts) =>
        let (greedy, rest) := readGreed rest
        readBranches n { p with rest := rest } branches (.repeated least most greedy body :: parts)
    match skip p.verbose p.rest with
    | [] => some (joinBranches branches parts, { p with rest := [] })
    | ')' :: rest => some (joinBranches branches parts, { p with rest := ')' :: rest })
    | '|' :: rest =>
      readBranches n { p with rest := rest } (.ofParts parts.reverse :: branches) []
    | '(' :: rest =>
      match openGroup p rest with
      | none => none
      | some (.flags change rest) =>
        readBranches n { p with rest := rest, verbose := change.valueOf .verbose p.verbose }
          branches (.flags change :: parts)
      | some (.group number change inside) =>
        match readBranches n inside [] [] with
        | some (body, q) =>
          match q.rest with
          | ')' :: rest =>
            readBranches n { q with rest := rest, verbose := p.verbose } branches
              (.group number change body :: parts)
          | _ => none
        | none => none
    | '[' :: rest =>
      match readSet p.verbose (rest.length + 1) rest with
      | some (.nested negative inside, rest) => push (.set negative inside) rest
      | _ => none
    | '?' :: rest => again 0 (some 1) rest
    | '*' :: rest => again 0 none rest
    | '+' :: rest => again 1 none rest
    | '\x7b' :: rest =>
      match untilBrace p.verbose false rest with
      | none => none
      | some (body, rest) =>
        match readBounds body with
        | none => none
        | some (least, most) => again least most (skip p.verbose rest)
    | '\\' :: rest =>
      match readEscape p.verbose rest with
      | none => none
      | some (e, rest) => push e.part rest
    | '.' :: rest => push .dot rest
    | '^' :: rest => push (.mark .caret) rest
    | '$' :: rest => push (.mark .dollar) rest
    | c :: rest => push (.char ⟨c, false⟩) rest

/-- How deep the parts of a pattern may stand inside each other. -/
def deepestPhrase : Nat := 250

/-- The phrase that a text is, and the numbers of its named groups. -/
def readPhrase? (text : List Char) : Option (Phrase × List (String × Nat)) :=
  match readBranches (text.length + 1) ⟨text, 0, [], false⟩ [] [] with
  | none => none
  | some (phrase, p) =>
    if p.rest = [] ∧ phrase.depth ≤ deepestPhrase then some (phrase, p.names) else none

end Gridbook.Pattern
