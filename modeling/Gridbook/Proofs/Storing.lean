import Gridbook.Proofs.Encoding
import Gridbook.Proofs.Tidy
import Mathlib.Data.List.Induction

/-!
# Neatly stored sheets

A neat sheet has a grid of at least one cell and stores no empty content and no plain
style. A new sheet is neat, and all that is done to a sheet leaves it neat but for one
thing: a rewriting of formulas stores whatever it is given, and so the empty text. What
is read from JSON is stored as it is, neat or not.
-/
namespace Gridbook

namespace CellMap

variable {α β : Type}

/-- The same cells with other values, each made with regard to its cell. -/
def mapAt (f : Coord → α → β) (m : CellMap α) : CellMap β where
  entries := m.entries.map fun e => (e.1, f e.1 e.2)
  ordered := by
    rw [List.pairwise_map]
    exact m.ordered

@[simp] theorem get?_mapAt (f : Coord → α → β) (m : CellMap α) (c : Coord) :
    (m.mapAt f).get? c = (m.get? c).map (f c) := by
  refine Option.ext fun b => ?_
  rw [← mem_entries_iff, mapAt, List.mem_map, Option.map_eq_some_iff]
  constructor
  · rintro ⟨⟨d, a⟩, he, heq⟩
    cases heq
    exact ⟨a, mem_entries_iff.mp he, rfl⟩
  · rintro ⟨a, ha, rfl⟩
    exact ⟨(c, a), mem_entries_iff.mpr ha, rfl⟩

end CellMap

namespace Sheet

/-- There is a grid, and what is stored in it is proper. -/
structure Neat (s : Sheet) : Prop extends s.Proper where
  rows_pos : 1 ≤ s.rows
  cols_pos : 1 ≤ s.cols

theorem neat_ofSize (rows cols : Nat) : (ofSize rows cols).Neat where
  toProper := proper_ofSize rows cols
  rows_pos := Nat.le_max_right ..
  cols_pos := Nat.le_max_right ..

/--
Replaces the formulas for which `change` gives a text. It is asked once for each cell and
need not give the same answer for the same content.
-/
def rewriteFormulas (s : Sheet) (change : Coord → String → Option String) : Sheet :=
  { s with contents := s.contents.mapAt fun c => changedFormula (change c) }

/-- Answers that depend on the content alone are the usual case. -/
theorem rewriteFormulas_const (s : Sheet) (change : String → Option String) :
    s.rewriteFormulas (fun _ => change) = s.mapFormulas change := rfl

/-- The empty text is the answer for a formula that is stored. -/
def Blanked (s : Sheet) (change : Coord → String → Option String) : Prop :=
  ∃ c content, s.contents.get? c = some content ∧ Formula.isFormula content.toList = true ∧
    change c content = some ""

theorem changedFormula_eq_empty_iff {change : String → Option String} {content : String}
    (h : content ≠ "") : changedFormula change content = "" ↔
      Formula.isFormula content.toList = true ∧ change content = some "" := by
  rw [changedFormula]
  split
  · rename_i hformula
    cases hchange : change content <;> simp [hformula, h]
  · rename_i hliteral
    simp [hliteral, h]

theorem Proper.rewriteFormulas_iff {s : Sheet} (h : s.Proper)
    (change : Coord → String → Option String) :
    (s.rewriteFormulas change).Proper ↔ ¬ s.Blanked change := by
  constructor
  · rintro hproper ⟨c, content, hcontent, hformula, hchange⟩
    refine hproper.contents c "" ?_ rfl
    have hempty : changedFormula (change c) content = "" :=
      (changedFormula_eq_empty_iff (h.contents c content hcontent)).mpr ⟨hformula, hchange⟩
    rw [rewriteFormulas, CellMap.get?_mapAt, hcontent, Option.map_some, hempty]
  · intro hblanked
    refine { h with contents := fun c text htext hempty => hblanked ?_ }
    obtain ⟨content, hcontent, hchanged⟩ :=
      Option.map_eq_some_iff.mp ((CellMap.get?_mapAt ..).symm.trans htext)
    obtain ⟨hformula, hchange⟩ :=
      (changedFormula_eq_empty_iff (h.contents c content hcontent)).mp (hchanged.trans hempty)
    exact ⟨c, content, hcontent, hformula, hchange⟩

theorem Proper.swap {s : Sheet} (h : s.Proper) (a b : Coord) : (s.swap a b).Proper where
  contents c content hc := h.contents _ content (get?_contents_swap s a b c ▸ hc)
  styles c style hc := h.styles _ style (get?_styles_swap s a b c ▸ hc)

theorem Proper.relocate {s : Sheet} (h : s.Proper) (target : Coord → Option Coord) :
    (s.relocate target).Proper where
  contents d content hd := by
    obtain ⟨-, -, hcontent⟩ := h.contents.relocate target d content hd
    exact hcontent
  styles d style hd := by
    obtain ⟨-, -, hstyle⟩ := h.styles.relocate target d style hd
    exact hstyle

namespace Neat

variable {s : Sheet} (h : s.Neat)

include h

theorem setContent (c : Coord) (text : String) : (s.setContent c text).Neat :=
  { h with toProper := h.toProper.setContent c text }

theorem setStyle (c : Coord) (style : Style) : (s.setStyle c style).Neat :=
  { h with toProper := h.toProper.setStyle c style }

theorem resize (rows cols : Nat) : (s.resize rows cols).Neat :=
  { h with rows_pos := Nat.le_max_right .., cols_pos := Nat.le_max_right .. }

theorem swap (a b : Coord) : (s.swap a b).Neat := { h with toProper := h.toProper.swap a b }

theorem relocate (target : Coord → Option Coord) : (s.relocate target).Neat :=
  { h with toProper := h.toProper.relocate target }

theorem rewriteFormulas_iff (change : Coord → String → Option String) :
    (s.rewriteFormulas change).Neat ↔ ¬ s.Blanked change :=
  Iff.trans ⟨Neat.toProper, fun hproper => { h with toProper := hproper }⟩
    (h.toProper.rewriteFormulas_iff change)

theorem clear : s.clear.Neat :=
  { h with contents := CellMap.all_empty _, styles := CellMap.all_empty _ }

end Neat

end Sheet

/-- A sheet and the snapshots that may be put back into it. -/
structure Album where
  sheet : Sheet
  kept : List Sheet

namespace Album

/-- What may be done to the sheet. -/
inductive Operation where
  | setContent (c : Coord) (text : String)
  | setStyle (c : Coord) (style : Style)
  | resize (rows cols : Nat)
  | swap (a b : Coord)
  | relocate (e : LineEdit)
  | rewriteFormulas (change : Coord → String → Option String)
  | clear
  | snapshot
  /-- Puts back the snapshot at that place. The sheet that it replaces is kept as one. -/
  | restore (place : Nat)

def perform (a : Album) : Operation → Album
  | .setContent c text => { a with sheet := a.sheet.setContent c text }
  | .setStyle c style => { a with sheet := a.sheet.setStyle c style }
  | .resize rows cols => { a with sheet := a.sheet.resize rows cols }
  | .swap c d => { a with sheet := a.sheet.swap c d }
  | .relocate e => { a with sheet := a.sheet.relocate e.target }
  | .rewriteFormulas change => { a with sheet := a.sheet.rewriteFormulas change }
  | .clear => { a with sheet := a.sheet.clear }
  | .snapshot => { a with kept := a.sheet :: a.kept }
  | .restore place =>
    match a.kept[place]? with
    | some s => ⟨s, a.sheet :: a.kept⟩
    | none => a

def after (a : Album) (operations : List Operation) : Album := operations.foldl perform a

theorem after_concat (a : Album) (operations : List Operation) (o : Operation) :
    a.after (operations ++ [o]) = (a.after operations).perform o := List.foldl_concat ..

/-- The operation stores the empty text for a formula of the sheet. -/
def Blanks (a : Album) (o : Operation) : Prop :=
  ∃ change, o = .rewriteFormulas change ∧ a.sheet.Blanked change

/-- The sheet and all its snapshots are neat. -/
structure Neat (a : Album) : Prop where
  sheet : a.sheet.Neat
  kept : ∀ s ∈ a.kept, s.Neat

/-- Of all that may be done to a neat sheet, only a rewriting with an empty answer spoils it. -/
theorem Neat.perform_iff {a : Album} (h : a.Neat) (o : Operation) :
    (a.perform o).Neat ↔ ¬ a.Blanks o := by
  have hother (ho : ∀ change, o ≠ .rewriteFormulas change) (hneat : (a.perform o).Neat) :
      (a.perform o).Neat ↔ ¬ a.Blanks o :=
    iff_of_true hneat fun ⟨change, heq, _⟩ => ho change heq
  have hkept : ∀ s ∈ a.sheet :: a.kept, s.Neat := List.forall_mem_cons.mpr ⟨h.sheet, h.kept⟩
  cases o with
  | setContent c text => exact hother nofun ⟨h.sheet.setContent c text, h.kept⟩
  | setStyle c style => exact hother nofun ⟨h.sheet.setStyle c style, h.kept⟩
  | resize rows cols => exact hother nofun ⟨h.sheet.resize rows cols, h.kept⟩
  | swap c d => exact hother nofun ⟨h.sheet.swap c d, h.kept⟩
  | relocate e => exact hother nofun ⟨h.sheet.relocate e.target, h.kept⟩
  | rewriteFormulas change =>
    have hblanks : a.Blanks (.rewriteFormulas change) ↔ a.sheet.Blanked change :=
      ⟨fun ⟨_, heq, hblanked⟩ => Operation.rewriteFormulas.inj heq ▸ hblanked,
        fun hblanked => ⟨change, rfl, hblanked⟩⟩
    rw [hblanks, ← h.sheet.rewriteFormulas_iff change]
    exact ⟨Neat.sheet, fun hsheet => ⟨hsheet, h.kept⟩⟩
  | clear => exact hother nofun ⟨h.sheet.clear, h.kept⟩
  | snapshot => exact hother nofun ⟨h.sheet, hkept⟩
  | restore place =>
    refine hother nofun ?_
    rw [perform]
    split
    · rename_i s hs
      exact ⟨h.kept s (List.mem_of_getElem? hs), hkept⟩
    · exact h

theorem neat_throughout_iff (a : Album) (operations : List Operation) :
    (∀ before, before <+: operations → (a.after before).Neat) ↔
      a.Neat ∧ ∀ before o, before ++ [o] <+: operations → ¬ (a.after before).Blanks o := by
  have hbegins {before : List Operation} {o : Operation} (ho : before ++ [o] <+: operations) :
      before <+: operations := (List.prefix_append before [o]).trans ho
  constructor
  · intro h
    refine ⟨h [] List.nil_prefix, fun before o ho => ?_⟩
    have hafter := h _ ho
    rw [after_concat] at hafter
    exact ((h before (hbegins ho)).perform_iff o).mp hafter
  · rintro ⟨hfirst, hblanks⟩ before hbefore
    induction before using List.reverseRecOn with
    | nil => exact hfirst
    | append_singleton before o ih =>
      rw [after_concat]
      exact ((ih (hbegins hbefore)).perform_iff o).mpr (hblanks before o hbefore)

end Album

/-- What comes out of a list is the result of one of its members. -/
theorem exists_mem_of_mapM {α β : Type} {f : α → Option β} {l : List α} {l' : List β}
    (h : l.mapM f = some l') {b : β} (hb : b ∈ l') : ∃ a ∈ l, f a = some b := by
  induction l generalizing l' with
  | nil =>
    obtain rfl : [] = l' := Option.some.inj h
    cases hb
  | cons a l ih =>
    simp only [List.mapM_cons, Option.bind_eq_bind, Option.bind_eq_some_iff, Option.pure_def,
      Option.some.injEq] at h
    obtain ⟨b', hb', rest, hrest, rfl⟩ := h
    rcases List.mem_cons.mp hb with rfl | hb
    · exact ⟨a, by simp, hb'⟩
    · obtain ⟨a', ha', heq⟩ := ih hrest hb
      exact ⟨a', List.mem_cons_of_mem _ ha', heq⟩

theorem Json.le_of_nat? {largest n : Nat} {j : Json} (h : j.nat? largest = some n) :
    n ≤ largest := by
  unfold Json.nat? at h
  split at h
  · split at h
    · split at h
      · rename_i hle
        cases h
        exact hle
      · cases h
    · cases h
  · cases h

/-- Only cells with a name are read. -/
theorem CellMap.isNamed_of_ofJson? {α : Type} {read : Json → Option α} {j : Json} {m : CellMap α}
    (h : ofJson? read j = some m) : m.All fun c _ => c.IsNamed := by
  unfold ofJson? at h
  split at h
  · obtain ⟨entries, hentries, rfl⟩ := Option.map_eq_some_iff.mp h
    refine all_ofList fun e he => ?_
    obtain ⟨entry, hentry, rfl⟩ := List.mem_filterMap.mp he
    obtain ⟨field, -, hfield⟩ := exists_mem_of_mapM hentries hentry
    unfold readField at hfield
    split at hfield
    · obtain ⟨c, hc, rfl⟩ := Option.map_eq_some_iff.mp (Option.some.inj hfield)
      exact Coord.isNamed_of_ofChars? hc
    · cases hfield
  · cases h

namespace Sheet

/-- What is read has a size that can be counted, and its cells have names. -/
theorem bounds_of_ofJson? {j : Json} {s : Sheet} (h : ofJson? j = some s) :
    s.rows ≤ largestSize ∧ s.cols ≤ largestSize ∧
      ∀ c ∈ s.contents.cells ++ s.styles.cells, c.IsNamed := by
  have hsize {field : Option Json} {n : Nat}
      (hn : Json.required (Json.nat? largestSize) field = some n) : n ≤ largestSize := by
    obtain ⟨j, -, hj⟩ := Option.bind_eq_some_iff.mp hn
    exact Json.le_of_nat? hj
  have hnamed {α : Type} {read : Json → Option α} {field : Option Json} {m : CellMap α}
      (hm : Json.orElse .empty (CellMap.ofJson? read) field = some m) :
      m.All fun c _ => c.IsNamed := by
    cases field with
    | none =>
      obtain rfl := Option.some.inj hm
      exact CellMap.all_empty _
    | some j => exact CellMap.isNamed_of_ofJson? hm
  unfold ofJson? at h
  split at h
  · simp only [Option.bind_eq_bind, Option.bind_eq_some_iff, Option.some.injEq] at h
    obtain ⟨rows, hrows, cols, hcols, contents, hcontents, styles, hstyles, rfl⟩ := h
    exact ⟨hsize hrows, hsize hcols, of_mem_stored (hnamed hcontents) (hnamed hstyles)⟩
  · cases h

/-- A text that is read as the sheet is the one it is written as. -/
theorem read_write_of_named {s : Sheet} (hrows : s.rows ≤ largestSize)
    (hcols : s.cols ≤ largestSize) (hnamed : ∀ c ∈ s.contents.cells ++ s.styles.cells, c.IsNamed) :
    (Json.read? s.toJson.write).bind ofJson? = some s := by
  obtain ⟨t, ht, htrows, htcols, hcontents, hstyles⟩ :=
    exists_ofJson?_toJson hrows hcols fun c hc => (hnamed c hc).2
  obtain ⟨hlettered, hlettered'⟩ := List.forall_mem_append.mp fun c hc => (hnamed c hc).1
  have hsame : t = s := eq_of_fields htrows htcols (CellMap.eq_of_lettered hlettered hcontents)
    (CellMap.eq_of_lettered hlettered' hstyles)
  rw [Json.read?_write s.spelled_toJson, Option.bind_some, ht, hsame]

end Sheet

namespace Album

/--
A new sheet is neat. From JSON any sheet is read whose size can be counted and whose cells
have names, be it neat or not. A sheet and its snapshots stay neat through a row of
operations if and only if they are neat at first and no rewriting answers a formula that is
stored at that moment with the empty text.
-/
theorem stored_neatly (a : Album) (operations : List Operation) :
    (∀ rows cols, (Sheet.ofSize rows cols).Neat) ∧
    ((∃ text, (Json.read? text).bind Sheet.ofJson? = some a.sheet) ↔
      a.sheet.rows ≤ Sheet.largestSize ∧ a.sheet.cols ≤ Sheet.largestSize ∧
        ∀ c ∈ a.sheet.contents.cells ++ a.sheet.styles.cells, c.IsNamed) ∧
    ((∀ before, before <+: operations → (a.after before).Neat) ↔
      a.Neat ∧ ∀ before o, before ++ [o] <+: operations → ¬ (a.after before).Blanks o) := by
  refine ⟨Sheet.neat_ofSize, ⟨?_, ?_⟩, neat_throughout_iff a operations⟩
  · rintro ⟨text, h⟩
    obtain ⟨j, -, hj⟩ := Option.bind_eq_some_iff.mp h
    exact Sheet.bounds_of_ofJson? hj
  · rintro ⟨hrows, hcols, hnamed⟩
    exact ⟨_, Sheet.read_write_of_named hrows hcols hnamed⟩

/-- A text with a grid of no cell, an empty content and a plain style. -/
def untidyText : String :=
  "\x7b\"numRows\":0,\"numCols\":0,\"cells\":\x7b\"A1\":\"\"\x7d," ++
    "\"styles\":\x7b\"A1\":\x7b\x7d\x7d\x7d"

/-- Such a text is read as it is, and an empty answer is stored for the formula of a neat sheet. -/
theorem stored_untidily :
    (∃ s, (Json.read? untidyText).bind Sheet.ofJson? = some s ∧ ¬ s.Neat ∧
      s.rows = 0 ∧ s.cols = 0 ∧ s.contents.get? ⟨0, 0⟩ = some "" ∧
      s.styles.get? ⟨0, 0⟩ = some .plain) ∧
    ¬ (after ⟨Sheet.ofSize 1 1, []⟩
      [.setContent ⟨0, 0⟩ "=1", .rewriteFormulas fun _ _ => some ""]).Neat := by
  refine ⟨⟨⟨0, 0, .ofList [(⟨0, 0⟩, "")], .ofList [(⟨0, 0⟩, .plain)]⟩, by decide +kernel,
    fun h => absurd h.rows_pos (by decide), rfl, rfl, rfl, rfl⟩, fun h => ?_⟩
  exact h.sheet.contents ⟨0, 0⟩ "" (by decide) rfl

end Album

end Gridbook
