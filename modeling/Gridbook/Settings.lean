import Gridbook.Coord
import Gridbook.Text.Blank
import Gridbook.Json.Decode

/-!
# Settings of a workbook

The size of a new sheet, the number of undo levels and the length of a reference
chain. Settings come from JSON or from variables; a check refuses zeros and cuts
the columns and the chain length to what there is.
-/
namespace Gridbook

structure Settings where
  rows : Nat
  cols : Nat
  historyLimit : Nat
  maxDepth : Nat
  deriving DecidableEq, Repr

inductive SettingsError where
  /-- A variable that holds no number. -/
  | notANumber (name value : String)
  /-- A field that has to be at least one. -/
  | zero (field : String)
  deriving DecidableEq, Repr

def SettingsError.message : SettingsError → String
  | .notANumber name value => name ++ " is not a valid number: '" ++ value ++ "'"
  | .zero field => field ++ " must be at least 1"

namespace Settings

/-- The longest chain of references that an evaluation may follow. -/
def deepestChain : Nat := 256

/-- A limit for chains of references: at least one, and no longer than there is. -/
def chainLimit (n : Nat) : Nat := max 1 (min n deepestChain)

def standard : Settings := ⟨50, Coord.letters, 100, deepestChain⟩

def largestCount : Nat := 4294967295

def largestSize : Nat := 18446744073709551615

def check (s : Settings) : Except SettingsError Settings :=
  if s.rows = 0 then .error (.zero "default_rows")
  else if s.cols = 0 then .error (.zero "default_cols")
  else if s.maxDepth = 0 then .error (.zero "max_eval_depth")
  else .ok { s with cols := min s.cols Coord.letters, maxDepth := min s.maxDepth deepestChain }

def ofJson? (j : Json) : Option Settings :=
  match j.fields? ["defaultRows", "defaultCols", "historyLimit", "maxEvalDepth"] with
  | some [rows, cols, historyLimit, maxDepth] => do
    let rows ← Json.orElse standard.rows (Json.nat? largestCount) rows
    let cols ← Json.orElse standard.cols (Json.nat? largestCount) cols
    let historyLimit ← Json.orElse standard.historyLimit (Json.nat? largestSize) historyLimit
    let maxDepth ← Json.orElse standard.maxDepth (Json.nat? largestSize) maxDepth
    some ⟨rows, cols, historyLimit, maxDepth⟩
  | _ => none

/-- Decimal digits, after at most one plus sign, for a number up to `largest`. -/
def readCount? (largest : Nat) (text : List Char) : Option Nat :=
  let ds :=
    match text with
    | '+' :: ds => ds
    | ds => ds
  if ds ≠ [] ∧ ds.all Char.isDigit ∧ Decimal.valueOf ds ≤ largest then some (Decimal.valueOf ds)
  else none

/-- The number in a variable, or the given one where the variable is not set. -/
def readVariable (env : String → Option String) (name : String) (largest missing : Nat) :
    Except SettingsError Nat :=
  match env name with
  | none => .ok missing
  | some value =>
    match readCount? largest (Text.trim value.toList) with
    | some n => .ok n
    | none => .error (.notANumber name value)

/-- Checked settings from variables; the first bad variable is reported. -/
def ofVariables (env : String → Option String) : Except SettingsError Settings := do
  let rows ← readVariable env "SHEETCALC_ROWS" largestCount standard.rows
  let cols ← readVariable env "SHEETCALC_COLS" largestCount standard.cols
  let historyLimit ←
    readVariable env "SHEETCALC_HISTORY_LIMIT" largestSize standard.historyLimit
  let maxDepth ← readVariable env "SHEETCALC_MAX_EVAL_DEPTH" largestSize standard.maxDepth
  check ⟨rows, cols, historyLimit, maxDepth⟩

end Settings

end Gridbook
