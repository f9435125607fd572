import Gridbook.Proofs.Mention

/-!
# Other names for the cells of a formula

Replacing the references of a formula by the names of other cells gives a text
that is read as the tree with the other cells, and that is nested as deeply. The
number in `1.E5` is the exception again, so the references have to be the cells
of the tree.
-/
namespace Gridbook.Formula

open Decimal (Spelling)
open Text (IsBlank Stops)

/-- The tree with other cells. -/
def Expr.relabel (f : Coord → Coord) : Expr → Expr
  | number x => .number x
  | cell c => .cell (f c)
  | binary left op right => .binary (left.relabel f) op (right.relabel f)
  | signed sign operand => .signed sign (operand.relabel f)
  | group inner => .group (inner.relabel f)

theorem Expr.depthWith_relabel (f : Coord → Coord) (e : Expr) (deepest : Nat) :
    (e.relabel f).depthWith deepest = e.depthWith deepest := by
  induction e generalizing deepest with
  | number x => rfl
  | cell c => rfl
  | binary left op right ihl ihr => simp only [relabel, depthWith, ihl, ihr]
  | signed sign operand ih => simp only [relabel, depthWith, ih]
  | group inner ih => simp only [relabel, depthWith, ih]

theorem Expr.depth_relabel (f : Coord → Coord) (e : Expr) : (e.relabel f).depth = e.depth :=
  e.depthWith_relabel f 0

/-- A replaced reference is the name of the cell that `f` gives, and a kept one names it already. -/
def Renames (f : Coord → Coord) (replace : Coord → Option (List Char)) (c : Coord) : Prop :=
  (replace c = none ∧ f c = c) ∨ ∃ name, replace c = some name ∧ Coord.ofChars? name = some (f c)

theorem Renames.ofChars? {f : Coord → Coord} {replace : Coord → Option (List Char)} {c : Coord}
    (h : Renames f replace c) {name : List Char} (hname : Coord.ofChars? name = some c) :
    Coord.ofChars? ((replace c).getD name) = some (f c) := by
  rcases h with ⟨hnone, hf⟩ | ⟨name', hsome, hname'⟩
  · rw [hnone, Option.getD_none, hname, hf]
  · rw [hsome, Option.getD_some, hname']

namespace Wording

variable (f : Coord → Coord) (replace : Coord → Option (List Char))

/-- The wording with the replaced names. -/
def rename : Wording → Wording
  | number gap spelling => .number gap spelling
  | cell gap name place => .cell gap ((replace place).getD name) (f place)
  | binary left gap op right => .binary left.rename gap op right.rename
  | signed gap sign operand => .signed gap sign operand.rename
  | group gap inner closing => .group gap inner.rename closing

theorem tree_rename (w : Wording) : (w.rename f replace).tree = w.tree.relabel f := by
  induction w with
  | number gap spelling => rfl
  | cell gap name place => rfl
  | binary left gap op right ihl ihr => simp only [rename, tree, Expr.relabel, ihl, ihr]
  | signed gap sign operand ih => simp only [rename, tree, Expr.relabel, ih]
  | group gap inner closing ih => simp only [rename, tree, Expr.relabel, ih]

variable {f replace}

theorem fits_rename {level : Nat} {w : Wording} (hw : w.Fits level)
    (h : ∀ c ∈ w.tree.cells, Renames f replace c) : (w.rename f replace).Fits level := by
  induction w generalizing level with
  | number gap spelling => exact hw
  | cell gap name place => exact ⟨hw.1, (h place (by simp [tree, Expr.cells])).ofChars? hw.2⟩
  | binary left gap op right ihl ihr =>
    obtain ⟨hlevel, hleft, hgap, hright⟩ := hw
    exact ⟨hlevel, ihl hleft fun c hc => h c (by simp [tree, Expr.cells, hc]), hgap,
      ihr hright fun c hc => h c (by simp [tree, Expr.cells, hc])⟩
  | signed gap sign operand ih => exact ⟨hw.1, ih hw.2 h⟩
  | group gap inner closing ih => exact ⟨hw.1, ih hw.2.1 h, hw.2.2⟩

/-- Replacing in the pieces of a wording replaces the names of its cells. -/
theorem substitute_pieces {level : Nat} {w : Wording} (hw : w.Fits level)
    (h : ∀ n ∈ w.numerals, hiddenReference? n = none) :
    w.pieces.flatMap (Piece.substitute replace) = (w.rename f replace).text := by
  induction w generalizing level with
  | number gap spelling =>
    have hscan : scan spelling.text = [] := by
      rw [scan_spelling hw.2, h spelling (by simp [numerals])]
      rfl
    rw [pieces, List.flatMap_append, flatMap_substitute_marks]
    exact congrArg _ (rewrite_of_scan hscan replace)
  | cell gap name place =>
    rw [pieces, List.flatMap_append, flatMap_substitute_marks, List.flatMap_singleton,
      substitute_word hw.2]
    rfl
  | binary left gap op right ihl ihr =>
    obtain ⟨-, hleft, -, hright⟩ := hw
    have hl := ihl hleft fun n hn => h n (by simp [numerals, hn])
    have hr := ihr hright fun n hn => h n (by simp [numerals, hn])
    rw [pieces, List.flatMap_append, List.flatMap_append, flatMap_substitute_marks,
      List.flatMap_cons, substitute_mark, hl, hr]
    rfl
  | signed gap sign operand ih =>
    rw [pieces, List.flatMap_append, flatMap_substitute_marks, List.flatMap_cons, substitute_mark,
      ih hw.2 h]
    rfl
  | group gap inner closing ih =>
    have hinner := ih hw.2.1 h
    simp only [pieces, List.flatMap_append, flatMap_substitute_marks, List.flatMap_cons,
      substitute_mark, hinner, List.flatMap_nil, List.append_nil]
    rfl

end Wording

/-- Two texts that no nesting in front of them tells apart. -/
def NestedAlike (s t : List Char) : Prop :=
  ∀ depth signs deepest, nestingWith depth signs deepest s = nestingWith depth signs deepest t

theorem NestedAlike.cons {s t : List Char} (h : NestedAlike s t) (c : Char) :
    NestedAlike (c :: s) (c :: t) := by
  intro depth signs deepest
  simp only [nestingWith]
  exact h _ _ _

theorem NestedAlike.append {s t : List Char} (h : NestedAlike s t) (r : List Char) :
    NestedAlike (r ++ s) (r ++ t) := by
  induction r with
  | nil => exact h
  | cons c r ih => exact ih.cons c

/-- Characters that neither open, close, sign nor separate anything. -/
def isQuiet (c : Char) : Bool :=
  !(c == '(' || c == ')' || c == '+' || c == '-' || Text.isBlank c)

theorem isQuiet_of_isWord {c : Char} (h : Text.isWord c = true) : isQuiet c = true := by
  simp only [isQuiet, Bool.not_eq_true', Bool.or_eq_false_iff, beq_eq_false_iff_ne]
  refine ⟨⟨⟨⟨?_, ?_⟩, ?_⟩, ?_⟩, ?_⟩
  · rintro rfl; exact absurd h (by decide)
  · rintro rfl; exact absurd h (by decide)
  · rintro rfl; exact absurd h (by decide)
  · rintro rfl; exact absurd h (by decide)
  · rw [Bool.eq_false_iff]
    intro hblank
    rw [Text.isWord_of_isBlank hblank] at h
    simp at h

/-- A run of such characters only ends a row of signs. -/
theorem nestingWith_quiet {r : List Char} (hne : r ≠ []) (hr : ∀ c ∈ r, isQuiet c = true)
    (s : List Char) (depth signs deepest : Nat) :
    nestingWith depth signs deepest (r ++ s) = nestingWith depth 0 (max deepest depth) s := by
  induction r generalizing signs deepest with
  | nil => exact absurd rfl hne
  | cons c r ih =>
    have hc := hr c (by simp)
    simp only [isQuiet, Bool.not_eq_true', Bool.or_eq_false_iff, beq_eq_false_iff_ne] at hc
    obtain ⟨⟨⟨⟨hopen, hclose⟩, hplus⟩, hminus⟩, hblank⟩ := hc
    simp only [List.cons_append, nestingWith, hopen, hclose, hplus, hminus, hblank, or_self,
      ↓reduceIte, Bool.false_eq_true, Nat.add_zero]
    cases r with
    | nil => rfl
    | cons d r =>
      rw [ih (by simp) fun x hx => hr x (by simp [hx]), Nat.max_assoc, Nat.max_self]

theorem nestingWith_word {r : List Char} (hne : r ≠ []) (hr : ∀ c ∈ r, Text.isWord c = true)
    (s : List Char) (depth signs deepest : Nat) :
    nestingWith depth signs deepest (r ++ s) = nestingWith depth 0 (max deepest depth) s :=
  nestingWith_quiet hne (fun c hc => isQuiet_of_isWord (hr c hc)) s depth signs deepest

theorem nestedAlike_words {r r' s t : List Char} (hne : r ≠ [])
    (hr : ∀ c ∈ r, Text.isWord c = true) (hne' : r' ≠ []) (hr' : ∀ c ∈ r', Text.isWord c = true)
    (h : NestedAlike s t) : NestedAlike (r ++ s) (r' ++ t) := by
  intro depth signs deepest
  rw [nestingWith_word hne hr, nestingWith_word hne' hr', h]

theorem Wording.nestedAlike_rename {f : Coord → Coord} {replace : Coord → Option (List Char)}
    {level : Nat} {w : Wording} (hw : w.Fits level) (h : ∀ c ∈ w.tree.cells, Renames f replace c)
    {s t : List Char} (hst : NestedAlike s t) :
    NestedAlike (w.text ++ s) ((w.rename f replace).text ++ t) := by
  induction w generalizing level s t with
  | number gap spelling => exact hst.append _
  | cell gap name place =>
    obtain ⟨hne, hname⟩ := Coord.isWord_of_ofChars? hw.2
    obtain ⟨hne', hname'⟩ :=
      Coord.isWord_of_ofChars? ((h place (by simp [tree, Expr.cells])).ofChars? hw.2)
    simp only [rename, text, List.append_assoc]
    exact (nestedAlike_words hne hname hne' hname' hst).append gap
  | binary left gap op right ihl ihr =>
    obtain ⟨-, hleft, -, hright⟩ := hw
    have hr := ihr hright (fun c hc => h c (by simp [tree, Expr.cells, hc])) hst
    simp only [rename, text, List.append_assoc, List.cons_append]
    exact ihl hleft (fun c hc => h c (by simp [tree, Expr.cells, hc]))
      ((hr.cons op.symbol).append gap)
  | signed gap sign operand ih =>
    simp only [rename, text, List.append_assoc, List.cons_append]
    exact ((ih hw.2 h hst).cons sign.symbol).append gap
  | group gap inner closing ih =>
    simp only [rename, text, List.append_assoc, List.cons_append, List.nil_append]
    exact ((ih hw.2.1 h ((hst.cons ')').append closing)).cons '(').append gap

/-- An equals sign in front of a text does not nest it. -/
theorem nesting_body (text : List Char) : nesting (body text) = nesting text := by
  unfold body
  split
  · rfl
  · rfl

/-- A formula with its references replaced is read as the tree with the other cells. -/
theorem read_substitute {f : Coord → Coord} {replace : Coord → Option (List Char)}
    {text : List Char} {e : Expr} (hread : read text = .ok e)
    (hreferences : references ('=' :: text) = e.cells) (h : ∀ c ∈ e.cells, Renames f replace c) :
    ∃ text', substitute replace ('=' :: text) = '=' :: text' ∧ nesting text' = nesting text ∧
      read text' = .ok (e.relabel f) := by
  obtain ⟨w, hwrites⟩ := exists_writes hread
  have hmentions := references_of_writes hwrites
  obtain ⟨hw, rfl, b, hb, hbody⟩ := hwrites
  have hhidden := w.mentions_eq_cells_iff.mp (hmentions.symm.trans hreferences)
  have hw' := Wording.fits_rename hw h
  have hmark : isMark '=' = true := by decide
  have hbmarks : ∀ c ∈ b, isMark c = true := fun c hc => isMark_of_isBlank (hb c hc)
  have hpieces : pieces none (body text) = w.pieces ++ b.map .mark := by
    have hblanks := pieces_marks hbmarks []
    rw [List.append_nil] at hblanks
    rw [hbody, Wording.pieces_text hw (stops_of_isBlank hb), hblanks]
    simp [pieces]
  have hrewrite : rewrite replace (body text) = (w.rename f replace).text ++ b := by
    rw [rewrite, hpieces, List.flatMap_append, Wording.substitute_pieces hw hhidden,
      flatMap_substitute_marks]
  have hnesting : nesting (body text) = nesting ((w.rename f replace).text ++ b) := by
    rw [hbody]
    exact Wording.nestedAlike_rename hw h (fun _ _ _ => rfl) 0 0 0
  have hshallow := (read_eq_ok_iff.mp hread).1
  rw [hnesting] at hshallow
  rcases eq_body_or text with htext | htext
  · refine ⟨(w.rename f replace).text ++ b, ?_, ?_, ?_⟩
    · rw [substitute_formula, htext, hrewrite]
    · rw [← hnesting, nesting_body]
    · rw [read_eq_ok_iff, body_text hw']
      exact ⟨hshallow, _, b, hw', w.tree_rename f replace, hb, rfl⟩
  · refine ⟨'=' :: ((w.rename f replace).text ++ b), ?_, ?_, ?_⟩
    · rw [substitute_formula, htext, rewrite_mark hmark, hrewrite]
    · rw [← nesting_body ('=' :: _), ← nesting_body text, hnesting]
      rfl
    · rw [read_eq_ok_iff]
      exact ⟨hshallow, _, b, hw', w.tree_rename f replace, hb, rfl⟩

end Gridbook.Formula
