import Gridbook.Proofs.Encoding
import Gridbook.Proofs.Exchange
import Gridbook.Proofs.Exporting
import Gridbook.Proofs.Walking

/-!
# Sessions in numbers of 32 bits

Rows and columns are numbers of 32 bits. What is done in this module follows the operations of
a workbook with sums and differences that have to be such numbers; a definition here gives what
the definition of the same name gives elsewhere, or none if a number is missed on the way. In a
session none is missed: the guards of the line edits and the bound of the row numbers in names
leave room for one line more.
-/
namespace Gridbook.Narrow

/-- The bounds of a session are numbers of 32 bits. -/
theorem bounds_lt : Coord.lastRow < UInt32.size ∧ Coord.letters < UInt32.size := by decide

def ofChars : List Char → Option (Option Coord)
  | [] => return none
  | letter :: digits =>
    if letter.isUpper && !digits.isEmpty && digits.all Char.isDigit then
      let number := Nat.ofDigitChars 10 digits 0
      if 1 ≤ number ∧ number ≤ Coord.lastRow then do
        let row ← sub? number 1
        let col ← sub? letter.toNat 'A'.toNat
        return some ⟨row, col⟩
      else return none
    else return none

/-- Only the label of a cell without a name counts, since a name has longer numbers. -/
def label (c : Coord) : Option String :=
  match c.name? with
  | some name => return name
  | none => do
    let row ← add? c.row 1
    let col ← add? c.col 1
    return s!"R{row}C{col}"

theorem ofChars_eq (w : List Char) : ofChars w = some (Coord.ofChars? w) := by
  cases w with
  | nil => rfl
  | cons letter digits =>
    simp only [ofChars, Coord.ofChars?]
    split
    · rename_i hshape
      simp only [Bool.and_eq_true, Text.isUpper_iff_toNat] at hshape
      split
      · rename_i hnumber
        have hsize : Coord.lastRow < UInt32.size ∧ 90 < UInt32.size := by decide
        have hA : 'A'.toNat = 65 := rfl
        rw [sub?_eq hnumber.1 (by omega), sub?_eq (by omega) (by omega)]
        rfl
      · rfl
    · rfl

theorem label_eq {c : Coord}
    (h : c.col < Coord.letters ∨ c.row + 1 < UInt32.size ∧ c.col + 1 < UInt32.size) :
    label c = some c.label := by
  rw [label, Coord.label]
  cases hname : c.name? with
  | some name => rfl
  | none =>
    have hcol : ¬c.col < Coord.letters := fun hcol => by
      rw [Coord.name?, Coord.nameChars?, if_pos hcol] at hname
      cases hname
    obtain ⟨hrow, hcol⟩ := h.resolve_left hcol
    simp [add?_eq hrow, add?_eq hcol]

def reference : Formula.Piece → Option (Option Coord)
  | .word w => ofChars w
  | .mark _ => return none

def substitutePiece (replace : Coord → Option (Option (List Char))) (p : Formula.Piece) :
    Option (List Char) := do
  match ← reference p with
  | none => return p.text
  | some c => return (← replace c).getD p.text

def substitute (replace : Coord → Option (Option (List Char))) (formula : List Char) :
    Option (List Char) :=
  if Formula.isFormula formula then do
    return (← (Formula.pieces none formula).mapM (substitutePiece replace)).flatten
  else return formula

def target : LineEdit → Coord → Option (Option Coord)
  | .insertRow index, c =>
    if index < c.row then do return some ⟨← add? c.row 1, c.col⟩ else return some c
  | .deleteRow index, c =>
    if c.row = index then return none
    else if index < c.row then do return some ⟨← sub? c.row 1, c.col⟩ else return some c
  | .insertCol index, c =>
    if index < c.col then do return some ⟨c.row, ← add? c.col 1⟩ else return some c
  | .deleteCol index, c =>
    if c.col = index then return none
    else if index < c.col then do return some ⟨c.row, ← sub? c.col 1⟩ else return some c

def shiftedName (e : LineEdit) (c : Coord) : Option (Option (List Char)) := do
  match ← target e c with
  | none => return some Formula.lostReference
  | some d => return if d = c then none else some (d.nameChars?.getD Formula.lostReference)

/-- Replacing references counts nothing but what reading them and replacing them counts. -/
theorem substitute_eq {replace' : Coord → Option (Option (List Char))}
    {replace : Coord → Option (List Char)}
    (h : ∀ c : Coord, c.IsNamed → replace' c = some (replace c)) (formula : List Char) :
    substitute replace' formula = some (Formula.substitute replace formula) := by
  have hpiece (p : Formula.Piece) : substitutePiece replace' p = some (p.substitute replace) := by
    have hreference : reference p = some p.reference? := by
      cases p with
      | word w => exact ofChars_eq w
      | mark c => rfl
    rw [substitutePiece, hreference, Formula.Piece.substitute]
    cases hc : p.reference? with
    | none => rfl
    | some c =>
      have hnamed : c.IsNamed := by
        cases p with
        | word w => exact Coord.isNamed_of_ofChars? hc
        | mark m => cases hc
      simp [h c hnamed]
  rw [substitute, Formula.substitute]
  split
  · rw [mapM_eq_some_map fun p _ => hpiece p]
    simp [List.flatMap_def]
  · rfl

/-- A cell moves by one line at most. -/
theorem target_eq (e : LineEdit) {c : Coord} (hrow : c.row + 1 < UInt32.size)
    (hcol : c.col + 1 < UInt32.size) : target e c = some (e.target c) := by
  cases e with
  | insertRow index =>
    simp only [target, LineEdit.target, add?_eq hrow]
    split <;> rfl
  | insertCol index =>
    simp only [target, LineEdit.target, add?_eq hcol]
    split <;> rfl
  | deleteRow index =>
    simp only [target, LineEdit.target]
    split
    · rfl
    · split
      · rw [sub?_eq (by omega) (by omega)]
        rfl
      · rfl
  | deleteCol index =>
    simp only [target, LineEdit.target]
    split
    · rfl
    · split
      · rw [sub?_eq (by omega) (by omega)]
        rfl
      · rfl

theorem shiftedName_eq (e : LineEdit) {c : Coord} (hc : c.IsNamed) :
    shiftedName e c = some (Formula.shiftedName e c) := by
  have hsize := bounds_lt
  obtain ⟨hcol, hrow⟩ := hc
  rw [shiftedName, target_eq e (by omega) (by omega), Formula.shiftedName]
  cases e.target c with
  | none => rfl
  | some d => rfl

/-- Values changed one by one. -/
def mapValues {α β : Type} (change : α → Option β) (m : CellMap α) : Option (CellMap β) := do
  return .ofList (← m.entries.mapM fun e => (change e.2).map fun b => (e.1, b))

def relocate {α : Type} (target : Coord → Option (Option Coord)) (m : CellMap α) :
    Option (CellMap α) := do
  let moved ← m.entries.mapM fun e => (target e.1).map fun d => d.map fun d => (d, e.2)
  return .ofList (moved.filterMap id)

def mapFormulas (s : Sheet) (change : List Char → Option (List Char)) : Option Sheet := do
  let contents ← mapValues (fun content : String =>
    if Formula.isFormula content.toList then (change content.toList).map String.ofList
    else some content) s.contents
  return { s with contents := contents }

def resize (e : LineEdit) (s : Sheet) : Option Sheet :=
  match e with
  | .insertRow _ => return s.resize (← add? s.rows 1) s.cols
  | .deleteRow _ => return s.resize (← sub? s.rows 1) s.cols
  | .insertCol _ => return s.resize s.rows (← add? s.cols 1)
  | .deleteCol _ => return s.resize s.rows (← sub? s.cols 1)

def applyLine (e : LineEdit) (s : Sheet) : Option Sheet := do
  let place (c : Coord) : Option (Option Coord) :=
    (target e c).map fun d => d.filter fun d => d.col < Coord.letters
  let contents ← relocate place s.contents
  let styles ← relocate place s.styles
  let moved : Sheet := { s with contents := contents, styles := styles }
  resize e (← mapFormulas moved (substitute (shiftedName e)))

def exchange (s : Sheet) (a b : Coord) : Option Sheet :=
  mapFormulas (s.swap a b) (substitute fun c => some (Sheet.swappedName a b c))

theorem mapValues_eq {α β : Type} {change' : α → Option β} {change : α → β}
    (h : ∀ a, change' a = some (change a)) (m : CellMap α) :
    mapValues change' m = some (m.map change) := by
  have hentries : m.entries.mapM (fun e => (change' e.2).map fun b => (e.1, b)) =
      some ((m.map change).entries) :=
    mapM_eq_some_map fun e _ => by rw [h, Option.map_some]
  have hlist : CellMap.ofList (m.map change).entries = m.map change :=
    CellMap.ext_get? fun c => CellMap.get?_ofList_eq (fun c a => CellMap.mem_entries_iff) c
  rw [mapValues, hentries]
  exact congrArg some hlist

theorem relocate_eq {α : Type} {target' : Coord → Option (Option Coord)}
    {target : Coord → Option Coord} {m : CellMap α}
    (h : ∀ c ∈ m.cells, target' c = some (target c)) :
    relocate target' m = some (m.relocate target) := by
  have hentries : m.entries.mapM (fun e => (target' e.1).map fun d => d.map fun d => (d, e.2)) =
      some (m.entries.map fun e => (target e.1).map fun d => (d, e.2)) :=
    mapM_eq_some_map fun e he => by rw [h _ (List.mem_map_of_mem he), Option.map_some]
  rw [relocate, hentries]
  simp [CellMap.relocate, List.filterMap_map]

theorem mapFormulas_eq {change' : List Char → Option (List Char)}
    {change : List Char → List Char} (h : ∀ text, change' text = some (change text)) (s : Sheet) :
    mapFormulas s change' =
      some (s.mapFormulas fun formula => some (String.ofList (change formula.toList))) := by
  have hcontent (content : String) :
      (if Formula.isFormula content.toList then (change' content.toList).map String.ofList
        else some content) = some (Sheet.rewritten change content) := by
    rw [Sheet.rewritten, Sheet.changedFormula, h]
    split <;> rfl
  rw [mapFormulas, mapValues_eq hcontent]
  rfl

theorem exchange_eq (s : Sheet) (a b : Coord) : exchange s a b = some (s.exchange a b) :=
  mapFormulas_eq (substitute_eq fun _ _ => rfl) (s.swap a b)

/-- The rows are counted, the columns have letters and all that is stored is in the grid. -/
structure IsSmall (s : Sheet) : Prop where
  rows_le : s.rows ≤ Coord.lastRow
  cols_le : s.cols ≤ Coord.letters
  within : s.StoresWithin

namespace IsSmall

variable {s : Sheet} (h : IsSmall s)

include h

/-- There is a number for the line behind a cell of the grid. -/
theorem room {c : Coord} (hc : s.contains c = true) :
    c.row + 1 < UInt32.size ∧ c.col + 1 < UInt32.size := by
  have hsize := bounds_lt
  have hrows := h.rows_le
  have hcols := h.cols_le
  rw [Sheet.contains_iff] at hc
  omega

/-- A grid grows only where there is a number for its new size. -/
theorem resize_eq {e : LineEdit} (happ : e.isApplicable s = true) {t : Sheet}
    (hrows : t.rows = s.rows) (hcols : t.cols = s.cols) : resize e t = some (e.resize t) := by
  have hsize := bounds_lt
  have := h.rows_le
  have := h.cols_le
  rw [LineEdit.isApplicable.eq_def] at happ
  cases e <;> simp only [Bool.and_eq_true, decide_eq_true_eq] at happ
  case insertRow =>
    rw [resize, add?_eq (by omega)]
    rfl
  case deleteRow =>
    rw [resize, sub?_eq (by omega) (by omega)]
    rfl
  case insertCol =>
    rw [resize, add?_eq (by omega)]
    rfl
  case deleteCol =>
    rw [resize, sub?_eq (by omega) (by omega)]
    rfl

theorem applyLine_eq {e : LineEdit} (happ : e.isApplicable s = true) :
    applyLine e s = some (e.apply s) := by
  have hplace {c : Coord} (hc : s.contains c = true) :
      ((target e c).map fun d => d.filter fun d => d.col < Coord.letters) =
        some ((e.target c).filter fun d => d.col < Coord.letters) := by
    obtain ⟨hrow, hcol⟩ := h.room hc
    rw [target_eq e hrow hcol, Option.map_some]
  have hstored := Sheet.of_mem_stored h.within.contents h.within.styles
  have hcontents := relocate_eq fun c hc => hplace (hstored c (List.mem_append_left _ hc))
  have hstyles := relocate_eq fun c hc => hplace (hstored c (List.mem_append_right _ hc))
  have hformulas (t : Sheet) := mapFormulas_eq (substitute_eq fun _ hc => shiftedName_eq e hc) t
  simp only [applyLine, hcontents, hstyles, hformulas, Option.bind_eq_bind, Option.bind_some]
  exact h.resize_eq happ rfl rfl

end IsSmall

def absDiff (m n : Nat) : Option Nat := if m < n then sub? n m else sub? m n

def line (f : Fill) : Option (List Coord) := do
  if (← width f.area) = 1 then
    return (List.range' f.area.first.row f.area.height).map fun row => ⟨row, f.source.col⟩
  else return (List.range' f.area.first.col f.area.width).map fun col => ⟨f.source.row, col⟩

def targets (f : Fill) (policy : FillPolicy) : Option (List Coord) := do
  let cells ← if policy = .sequence then line f
    else (Area.Walk.across f.area).collect? (f.area.size + 1)
  return cells.filter (· ≠ f.source)

def distance (f : Fill) (c : Coord) : Option Nat := do
  if (← width f.area) = 1 then absDiff c.row f.source.row else absDiff c.col f.source.col

def contentAt (f : Fill) (rows cols : Nat) (content : List Char) (c : Coord) :
    Option (List Char) :=
  match FillPolicy.ofContent content with
  | .sequence => do
    let n := Decimal.valueOf content + (← distance f c)
    return if n ≤ Fill.largestNumber then Nat.toDigits 10 n else content
  | .formula =>
    let down := (c.row : Int) - f.source.row
    let right := (c.col : Int) - f.source.col
    substitute (fun d => some ((d.offset? down right rows cols).bind Coord.nameChars?)) content
  | .copy => return content

def write (f : Fill) (s t : Sheet) (c : Coord) : Option Sheet := do
  let content ← contentAt f s.rows s.cols (s.content f.source).toList c
  let t := t.setContent c (String.ofList content)
  match s.style? f.source with
  | some style => return t.setStyle c style
  | none => return t

def fill (f : Fill) (s : Sheet) : Option Sheet := do
  let cells ← targets f (FillPolicy.ofContent (s.content f.source).toList)
  cells.foldlM (write f s) s

theorem absDiff_eq {m n : Nat} (hm : m < UInt32.size) (hn : n < UInt32.size) :
    absDiff m n = some ((m - n) + (n - m)) := by
  rw [absDiff]
  split
  · rw [sub?_eq (by omega) hn]
    exact congrArg some (by omega)
  · rw [sub?_eq (by omega) hm]
    exact congrArg some (by omega)

theorem foldlM_eq_some_foldl {α β : Type} {g : β → α → Option β} {f : β → α → β} {l : List α}
    (h : ∀ b, ∀ a ∈ l, g b a = some (f b a)) (b : β) : l.foldlM g b = some (l.foldl f b) := by
  induction l generalizing b with
  | nil => rfl
  | cons a l ih =>
    rw [List.foldlM_cons, h b a (by simp), List.foldl_cons]
    exact ih (fun b c hc => h b c (List.mem_cons_of_mem _ hc)) _

section

variable {f : Fill} {s : Sheet} (h : IsSmall s) (happ : f.isApplicable s = true)

include h happ

theorem room_area : f.area.last.row + 1 < UInt32.size ∧ f.area.last.col + 1 < UInt32.size := by
  refine h.room ?_
  simp only [Fill.isApplicable, Bool.and_eq_true, Sheet.contains_iff] at happ
  simp only [Sheet.contains_iff, Fill.area, Area.including]
  omega

theorem targets_eq (policy : FillPolicy) : targets f policy = some (f.targets policy) := by
  obtain ⟨hrow, hcol⟩ := room_area h happ
  have hlast : f.area.last.IsNarrow := ⟨by omega, by omega⟩
  have hwalk : (Area.Walk.across f.area).collect? (f.area.size + 1) = some f.area.cells :=
    (Area.Walk.visits_across hlast).collect? (by rw [Area.length_cells]; omega)
  have hline : line f = some f.line := by
    rw [line, width_eq hcol, Fill.line]
    exact (apply_ite some _ _ _).symm
  rw [targets, hwalk, hline, Fill.targets]
  split <;> rfl

theorem contentAt_eq (rows cols : Nat) (content : List Char) {c : Coord}
    (hc : s.contains c = true) :
    contentAt f rows cols content c = some (f.contentAt rows cols content c) := by
  have hsource : s.contains f.source = true := by
    simp only [Fill.isApplicable, Bool.and_eq_true] at happ
    exact happ.1.1.1
  obtain ⟨hrow, hcol⟩ := h.room hc
  obtain ⟨hrow', hcol'⟩ := h.room hsource
  have hdistance : distance f c = some (f.distance c) := by
    rw [distance, width_eq (room_area h happ).2, absDiff_eq (by omega) (by omega),
      absDiff_eq (by omega) (by omega), Fill.distance]
    exact (apply_ite some _ _ _).symm
  rw [contentAt, Fill.contentAt]
  cases FillPolicy.ofContent content with
  | sequence =>
    rw [hdistance]
    rfl
  | formula => exact substitute_eq (fun _ _ => rfl) content
  | copy => rfl

theorem fill_eq : fill f s = some (f.apply s) := by
  rw [fill, targets_eq h happ]
  refine foldlM_eq_some_foldl (fun t c hc => ?_) s
  rw [write, contentAt_eq h happ _ _ _ (Fill.contains_of_mem_targets happ hc), Fill.write]
  cases s.style? f.source <;> rfl

end

def placeStyle (s : Sheet) (entry : String × Style) : Option Sheet := do
  match ← ofChars entry.1.toList with
  | some c => return if s.contains c then s.setStyle c entry.2 else s
  | none => return s

def replace (s : Sheet) (data : Import) (rows cols : Nat) : Option Sheet :=
  let filled := data.contents.foldl Import.placeContent (data.makeRoom rows cols s)
  data.styles.foldlM placeStyle filled

def apply (s : Sheet) : Edit → Option Sheet
  | .setContent c text => return s.setContent c text
  | .changeStyle c change => return s.setStyle c ((s.style c).apply change)
  | .setStyle c style => return s.setStyle c style
  | .line e => applyLine e s
  | .exchange a b => exchange s a b
  | .fill f => fill f s
  | .replace data rows cols => replace s data rows cols

theorem replace_eq (s : Sheet) (data : Import) (rows cols : Nat) :
    replace s data rows cols = some (data.apply rows cols s) := by
  refine foldlM_eq_some_foldl (fun t entry _ => ?_) _
  rw [placeStyle, ofChars_eq, Import.placeStyle, Coord.ofName?]
  cases Coord.ofChars? entry.1.toList <;> rfl

/-- No edit that applies to a small sheet misses a number. -/
theorem apply_eq {s : Sheet} (h : IsSmall s) {e : Edit} (happ : e.isApplicable s = true) :
    apply s e = some (e.apply s) := by
  cases e with
  | setContent c text | changeStyle c change | setStyle c style => rfl
  | line e => exact h.applyLine_eq happ
  | exchange a b => exact exchange_eq s a b
  | fill f => exact fill_eq h happ
  | replace data rows cols => exact replace_eq s data rows cols

open Workbook (Request Operation)

def area (range : List Char) : Option (Option Area) := do
  match ← ofChars (Area.endsOf range).1, ← ofChars (Area.endsOf range).2 with
  | some a, some b => return some (.spanning a b)
  | _, _ => return none

def locate (w : Workbook) (name : String) : ExceptT WorkbookError Option Coord := do
  match ← ofChars (Text.trim name.toList) with
  | none => throw (.invalidAddress name)
  | some c =>
    if w.sheet.contains c then return c else throw (.outside name w.sheet.rows w.sheet.cols)

def locateArea (w : Workbook) (range : String) : ExceptT WorkbookError Option Area := do
  match ← area range.toList with
  | none => throw (.invalidAddress range)
  | some area =>
    if w.sheet.contains area.first && w.sheet.contains area.last then return area
    else throw (.outside range w.sheet.rows w.sheet.cols)

def edit (w : Workbook) : Request → ExceptT WorkbookError Option Edit
  | .setContent name text => do return .setContent (← locate w name) text
  | .clearCell name => do return .setContent (← locate w name) ""
  | .changeStyle name change => do return .changeStyle (← locate w name) change
  | .setStyle name style => do return .setStyle (← locate w name) style
  | .editLine e => return .line e
  | .exchange a b => do return .exchange (← locate w a) (← locate w b)
  | .fill source target => do return .fill ⟨← locate w source, ← locateArea w target⟩
  | .replace data => return .replace data w.settings.rows w.settings.cols
  | .replaceByJson text =>
    match (Json.read? text).bind Import.ofJson? with
    | some data => return .replace data w.settings.rows w.settings.cols
    | none => throw .unreadable

def perform (w : Workbook) : Operation → Option Workbook
  | .request r => do
    match ← (edit w r).run with
    | .error _ => return w
    | .ok e =>
      if e.isApplicable w.sheet then
        return { w with timeline := w.timeline.record e.description (← apply w.sheet e) }
      else return w
  | .undo => return w.undo?.getD w
  | .redo => return w.redo?.getD w
  | .clearHistory => return w.clearHistory

theorem area_eq (range : List Char) : area range = some (Area.ofChars? range) := by
  rw [area, ofChars_eq, ofChars_eq, Area.ofChars?]
  cases Coord.ofChars? (Area.endsOf range).1 <;> cases Coord.ofChars? (Area.endsOf range).2 <;> rfl

theorem locate_eq (w : Workbook) (name : String) :
    locate w name = ExceptT.mk (some (w.locate name)) := by
  rw [locate, ofChars_eq, Workbook.locate, Workbook.coord?]
  cases Coord.ofChars? (Text.trim name.toList) with
  | none => rfl
  | some c => exact (apply_ite (fun r => ExceptT.mk (some r)) _ _ _).symm

theorem locateArea_eq (w : Workbook) (range : String) :
    locateArea w range = ExceptT.mk (some (w.locateArea range)) := by
  rw [locateArea, area_eq, Workbook.locateArea]
  cases Area.ofChars? range.toList with
  | none => rfl
  | some area => exact (apply_ite (fun r => ExceptT.mk (some r)) _ _ _).symm

theorem edit_eq (w : Workbook) (r : Request) : (edit w r).run = some (w.edit r) := by
  cases r with
  | setContent name text | clearCell name | changeStyle name change | setStyle name style =>
    rw [edit, locate_eq, Workbook.edit]
    cases w.locate name <;> rfl
  | editLine e | replace data => rfl
  | exchange a b =>
    rw [edit, locate_eq, locate_eq, Workbook.edit]
    cases w.locate a <;> cases w.locate b <;> rfl
  | fill source target =>
    rw [edit, locate_eq, locateArea_eq, Workbook.edit]
    cases w.locate source <;> cases w.locateArea target <;> rfl
  | replaceByJson text =>
    rw [edit, Workbook.edit]
    cases (Json.read? text).bind Import.ofJson? <;> rfl

/-- No operation misses a number while the sheet is small. -/
theorem perform_eq {w : Workbook} (h : IsSmall w.sheet) (o : Operation) :
    perform w o = some (w.perform o) := by
  cases o with
  | undo | redo | clearHistory => rfl
  | request r =>
    rw [perform, edit_eq, Workbook.perform]
    cases w.outcome r with
    | refused e hedit hrequest =>
      rw [hedit, hrequest]
      rfl
    | skipped e hedit happ hrequest =>
      rw [hedit, hrequest]
      simp [happ]
    | ran e answer hedit happ _ hrequest =>
      rw [hedit, hrequest]
      simp [happ, apply_eq h happ, Workbook.recorded]

/-- The present sheet of a session is small, if no more rows are imported than are counted. -/
theorem isSmall_after {raw s : Settings} (hcheck : raw.check = .ok s)
    (hrows : raw.rows ≤ Coord.lastRow) {operations : List Operation}
    (hfits : ∀ o ∈ operations, o.Fits) :
    IsSmall ((Workbook.ofSettings s).after operations).sheet := by
  have hcols := Workbook.cols_le_of_check hcheck
  have hrows : s.rows ≤ Coord.lastRow := Workbook.rows_eq_of_check hcheck ▸ hrows
  have htidy := Workbook.tidy_after_of_tidy
    (w := Workbook.ofSettings s) (Timeline.all_start _ (Sheet.tidy_ofSize s.rows hcols)) hfits
  obtain ⟨-, hbounded⟩ := Workbook.bounded_after (w := Workbook.ofSettings s) hrows
    (Timeline.all_start _ (Sheet.bounded_ofSize hrows hcols)) operations
  exact ⟨hbounded.present.rows_le, hbounded.present.cols_le, htidy.present.storesWithin⟩

/-- The lines of the area are counted and its cells are visited without missing a number. -/
structure IsCounted (r : Area) : Prop where
  height : height r = some r.height
  width : width r = some r.width
  size : r.size < UInt64.size
  visits : (Area.Walk.across r).Visits r.cells

theorem isCounted_of_room {r : Area} (hrow : r.last.row + 1 < UInt32.size)
    (hcol : r.last.col + 1 < UInt32.size) : IsCounted r where
  height := height_eq hrow
  width := width_eq hcol
  size := by
    have hheight : r.height < UInt32.size := by rw [Area.height]; omega
    have hwidth : r.width < UInt32.size := by rw [Area.width]; omega
    exact Nat.mul_lt_mul'' hheight hwidth
  visits := Area.Walk.visits_across ⟨by omega, by omega⟩

/-- The used area ends in the row and in the column of cells that are stored. -/
theorem isCounted_usedArea {s : Sheet} (h : IsSmall s) {r : Area} (hr : s.usedArea? = some r) :
    IsCounted r := by
  obtain ⟨-, -, ⟨c, hc, hrow⟩, ⟨d, hd, hcol⟩⟩ := Sheet.frames_of_usedArea? hr
  have hstored := Sheet.of_mem_stored h.within.contents h.within.styles
  exact isCounted_of_room (hrow ▸ (h.room (hstored c hc)).1) (hcol ▸ (h.room (hstored d hd)).2)

theorem isCounted_of_named {p q : Coord} (hp : p.IsNamed) (hq : q.IsNamed) :
    IsCounted (.spanning p q) := by
  have hsize := bounds_lt
  obtain ⟨hpcol, hprow⟩ := hp
  obtain ⟨hqcol, hqrow⟩ := hq
  refine isCounted_of_room ?_ ?_ <;> simp only [Area.spanning] <;> omega

/--
In numbers of 32 bits every operation does in a session what it does without a bound: no sum
and no difference of rows or columns misses such a number, whether it is made for a stored cell,
for a reference in some formula, for the size of the grid or in a fill. Evaluating and exporting
only read cells from texts and go through areas. All texts are read exactly, and all references
in a text can follow a line edit; the areas of ranges, in the grid and of what is used are counted
and visited cell by cell, and cells get their labels.
-/
theorem perform_eq_after {raw s : Settings} (hcheck : raw.check = .ok s)
    (hrows : raw.rows ≤ Coord.lastRow) {operations : List Operation}
    (hfits : ∀ o ∈ operations, o.Fits) :
    let w := (Workbook.ofSettings s).after operations
    (∀ o, perform w o = some (w.perform o)) ∧
      (∀ text, ofChars text = some (Coord.ofChars? text)) ∧
      (∀ e formula, substitute (shiftedName e) formula =
        some (Formula.shiftReferences e formula)) ∧
      (∀ r : Area, (∃ range, Area.ofChars? range = some r) ∨ w.sheet.usedArea? = some r ∨
        w.sheet.contains r.last = true → IsCounted r) ∧
      ∀ c : Coord, (∃ text, Coord.ofChars? text = some c) ∨ w.sheet.contains c = true ∨
        c ∈ w.sheet.contents.cells ++ w.sheet.styles.cells → label c = some c.label := by
  intro w
  have hsmall : IsSmall w.sheet := isSmall_after hcheck hrows hfits
  refine ⟨perform_eq hsmall, ofChars_eq,
    fun e => substitute_eq fun _ hc => shiftedName_eq e hc, fun r hr => ?_, fun c hc => ?_⟩
  · rcases hr with ⟨range, hrange⟩ | hused | hlast
    · rw [Area.ofChars?] at hrange
      split at hrange
      · rename_i p q hp hq
        obtain rfl := Option.some.inj hrange
        exact isCounted_of_named (Coord.isNamed_of_ofChars? hp) (Coord.isNamed_of_ofChars? hq)
      · cases hrange
    · exact isCounted_usedArea hsmall hused
    · obtain ⟨hrow, hcol⟩ := hsmall.room hlast
      exact isCounted_of_room hrow hcol
  · refine label_eq ?_
    rcases hc with ⟨text, htext⟩ | hgrid | hstored
    · exact .inl (Coord.isNamed_of_ofChars? htext).1
    · exact .inr (hsmall.room hgrid)
    · have hwithin := hsmall.within
      exact .inr (hsmall.room (Sheet.of_mem_stored hwithin.contents hwithin.styles c hstored))

/-- A grid that has room for one row more, and the largest area that a range can name. -/
theorem perform_eq_after_brink :
    let w := (Workbook.ofSettings ⟨4294967294, 2, 3, 9⟩).after Workbook.errand
    perform w (.request (.editLine (.insertRow 0))) =
        some (w.perform (.request (.editLine (.insertRow 0)))) ∧
      IsCounted (.spanning ⟨0, 0⟩ ⟨4294967294, 25⟩) := by
  have hfits : ∀ o ∈ Workbook.errand, o.Fits := by decide +kernel
  obtain ⟨hperform, -, -, hareas, -⟩ :=
    @perform_eq_after ⟨4294967294, 2, 3, 9⟩ ⟨4294967294, 2, 3, 9⟩ rfl (by decide) _ hfits
  exact ⟨hperform _, hareas _ (.inl ⟨"Z4294967295:A1".toList, by decide +kernel⟩)⟩

end Gridbook.Narrow
