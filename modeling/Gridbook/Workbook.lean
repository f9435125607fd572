import Gridbook.Edit
import Gridbook.Export
import Gridbook.Import.Json
import Gridbook.Json.Reader
import Gridbook.Settings
import Gridbook.Timeline

/-!
# Workbooks

A workbook is a sheet with its history and the settings it was made with. Cells
are given by name; every edit goes through the history. An operation that fails
leaves the workbook as it was, since it returns no other one.
-/
namespace Gridbook

structure Workbook where
  settings : Settings
  timeline : Timeline Sheet

inductive WorkbookError where
  /-- A text that names no cell or no range of cells. -/
  | invalidAddress (address : String)
  /-- An address beyond a grid of that size. -/
  | outside (address : String) (rows cols : Nat)
  /-- A text that is no JSON or not of the expected form. -/
  | unreadable
  | settings (e : SettingsError)
  deriving DecidableEq, Repr

def WorkbookError.message : WorkbookError → String
  | .invalidAddress address => "Invalid cell address: " ++ address
  | .outside address rows cols =>
    "Address " ++ address ++ " is outside the " ++ toString rows ++ "x" ++ toString cols ++ " grid"
  | .unreadable => "Serialization error"
  | .settings e => "Configuration error: " ++ e.message

namespace Workbook

/-- A new workbook with an empty sheet. -/
def ofSettings (s : Settings) : Workbook :=
  ⟨s, .start s.historyLimit (.ofSize s.rows s.cols)⟩

/-- A new workbook, if its settings pass their check. -/
def ofSettings? (s : Settings) : Except WorkbookError Workbook :=
  match s.check with
  | .ok s => .ok (ofSettings s)
  | .error e => .error (.settings e)

/-- A new workbook with settings from variables. -/
def ofVariables (env : String → Option String) : Except WorkbookError Workbook :=
  match Settings.ofVariables env with
  | .ok s => .ok (ofSettings s)
  | .error e => .error (.settings e)

def sheet (w : Workbook) : Sheet := w.timeline.present

/-- The cell of a name between blanks, in the grid or not. -/
def coord? (name : String) : Option Coord := Coord.ofChars? (Text.trim name.toList)

/-- The cell of a name, which has to be in the grid. -/
def locate (w : Workbook) (name : String) : Except WorkbookError Coord :=
  match coord? name with
  | none => .error (.invalidAddress name)
  | some c =>
    if w.sheet.contains c then .ok c else .error (.outside name w.sheet.rows w.sheet.cols)

/-- The area of a range, which has to be in the grid. -/
def locateArea (w : Workbook) (range : String) : Except WorkbookError Area :=
  match Area.ofChars? range.toList with
  | none => .error (.invalidAddress range)
  | some area =>
    if w.sheet.contains area.first && w.sheet.contains area.last then .ok area
    else .error (.outside range w.sheet.rows w.sheet.cols)

def content (w : Workbook) (name : String) : Except WorkbookError String :=
  (w.locate name).map w.sheet.content

def style (w : Workbook) (name : String) : Except WorkbookError Style :=
  (w.locate name).map w.sheet.style

/-- The value of a cell before it is made a text. -/
def evaluate (w : Workbook) (name : String) : Except WorkbookError Value :=
  (w.locate name).map (Formula.evaluate w.sheet w.settings.maxDepth)

/-- What a cell shows; an error mark where the grid has no such cell. -/
def display (w : Workbook) (name : String) : String :=
  match w.locate name with
  | .ok c => Formula.displayed w.sheet w.settings.maxDepth c
  | .error _ => Mark.error.text

def exported (w : Workbook) : Export := .ofSheet w.sheet w.settings.maxDepth

/-- The workbook after an edit and the cells the edit reports; none if it does not apply. -/
def run? (w : Workbook) (e : Edit) : Option (Workbook × List Coord) :=
  (w.timeline.run? e.description e.run?).map fun t =>
    ({ w with timeline := t }, e.affected w.sheet)

/-- The workbook after an edit, if it applies, and the cells the edit reports. -/
def run (w : Workbook) (e : Edit) : Workbook × List Coord := (w.run? e).getD (w, [])

/-- The workbook after an edit, if it applies, and whether it does. -/
def attempt (w : Workbook) (e : Edit) : Workbook × Bool :=
  match w.run? e with
  | some (w, _) => (w, true)
  | none => (w, false)

def setContent (w : Workbook) (name text : String) :
    Except WorkbookError (Workbook × List Coord) :=
  (w.locate name).map fun c => w.run (.setContent c text)

def clearCell (w : Workbook) (name : String) : Except WorkbookError (Workbook × List Coord) :=
  w.setContent name ""

def changeStyle (w : Workbook) (name : String) (change : StyleChange) :
    Except WorkbookError Workbook :=
  (w.locate name).map fun c => (w.run (.changeStyle c change)).1

def setStyle (w : Workbook) (name : String) (style : Style) : Except WorkbookError Workbook :=
  (w.locate name).map fun c => (w.run (.setStyle c style)).1

def editLine (w : Workbook) (e : LineEdit) : Workbook × Bool := w.attempt (.line e)

/-- Two cells change places; a cell and itself do not. -/
def exchange (w : Workbook) (a b : String) : Except WorkbookError (Workbook × Bool) := do
  let a ← w.locate a
  let b ← w.locate b
  return w.attempt (.exchange a b)

def fill (w : Workbook) (source target : String) : Except WorkbookError (Workbook × Bool) := do
  let source ← w.locate source
  let target ← w.locateArea target
  return w.attempt (.fill ⟨source, target⟩)

/-- Replaces the sheet; the grid gets no smaller than the settings say. -/
def replace (w : Workbook) (data : Import) : Workbook × List Coord :=
  w.run (.replace data w.settings.rows w.settings.cols)

def replaceByJson (w : Workbook) (text : String) :
    Except WorkbookError (Workbook × List Coord) :=
  match (Json.read? text).bind Import.ofJson? with
  | some data => .ok (w.replace data)
  | none => .error .unreadable

/-- The workbook one edit back; none if there is no edit to undo. -/
def undo? (w : Workbook) : Option Workbook :=
  w.timeline.undo?.map fun t => { w with timeline := t }

/-- The workbook one edit forward; none if no edit was undone. -/
def redo? (w : Workbook) : Option Workbook :=
  w.timeline.redo?.map fun t => { w with timeline := t }

def clearHistory (w : Workbook) : Workbook := { w with timeline := w.timeline.clear }

end Workbook

end Gridbook
