import Gridbook.Text.Case

/-!
# Characters that a change of case changes

The properties that say what upper case, lower case, title case and folding do
to a character, each by its names in lower case and without separators.
-/
namespace Gridbook.Text.CaseChange

/-- The characters with these numbers, one or more times each. -/
def ofNumbers (ns : List Nat) : CodeSet := .ofRanges (ns.map fun n => (n, n))

def lowered : CodeSet := ofNumbers (0x130 :: lowerRuns.flatMap runMembers)

/-- Characters whose upper case is more than one character. -/
def expanded : CodeSet := ofNumbers (upperExpansions.map Prod.fst)

def raised : CodeSet := (ofNumbers (upperRuns.flatMap runMembers)).union expanded

/-- Letters in title case, and Georgian letters, which are their own title case. -/
def titles : CodeSet :=
  .ofLines ["1C5 1C8 1CB 1F2 10D0-10FA 10FD-10FF 1F88-1F8F 1F98-1F9F 1FA8-1FAF 1FBC 1FCC 1FFC"]

/-- All that have another upper case but the titles, and the capitals of two letters in one. -/
def titled : CodeSet := (raised.difference titles).union (.ofLines ["1C4 1C7 1CA 1F1"])

/-- Characters that stay as they are when their marks are folded apart from them. -/
def foldedApart : CodeSet :=
  .ofLines [
    "1F0 390 3B0 1E96-1E99 1F50-1F56/2 1FB6 1FBE 1FC6 1FD2-1FD3 1FD6-1FD7 1FE2-1FE4 1FE6-1FE7",
    "1FF6"]

def casefolded : CodeSet :=
  (CodeSet.unionAll [ofNumbers folded, expanded, .single 0x130]).difference foldedApart

def named? : String → Option CodeSet
  | "changeswhenlowercased" | "cwl" => some lowered
  | "changeswhenuppercased" | "cwu" => some raised
  | "changeswhentitlecased" | "cwt" => some titled
  | "changeswhencasefolded" | "cwcf" => some casefolded
  | "changeswhencasemapped" | "cwcm" => some (CodeSet.unionAll [lowered, raised, titled])
  | _ => none

end Gridbook.Text.CaseChange
