import Gridbook.Proofs.Scanning

/-!
# Replacing references twice

Names of cells in the place of references leave a text cut as it was: a word takes the
place of a word, so that no pieces join, none falls apart and quotes open and close
where they did. Replacing twice is therefore replacing once. All that stands between
the references is copied, whatever is replaced.
-/
namespace Gridbook.Formula

open Text (Stops)

/-- The answers are names of cells. -/
def Canonical (replace : Coord → Option (List Char)) : Prop :=
  ∀ c name, replace c = some name → ∃ d : Coord, d.IsNamed ∧ d.nameChars? = some name

/-- Answers as the first does and then, for the cell that it names, as the second does. -/
def followedBy (first second : Coord → Option (List Char)) (c : Coord) : Option (List Char) :=
  match first c with
  | none => second c
  | some name => some (((Coord.ofChars? name).bind second).getD name)

/-- The piece with its reference replaced. -/
def Piece.rename (replace : Coord → Option (List Char)) : Piece → Piece
  | word w => .word ((word w).substitute replace)
  | mark c => .mark c

/-- A piece is replaced twice as it is replaced once by both. -/
theorem substitute_rename (first second : Coord → Option (List Char)) (p : Piece) :
    (p.rename first).substitute second = p.substitute (followedBy first second) := by
  cases p with
  | mark c => rfl
  | word w =>
    cases hw : Coord.ofChars? w with
    | none => simp [Piece.rename, Piece.substitute, Piece.reference?, Piece.text, hw]
    | some c =>
      rw [Piece.rename, substitute_word hw, substitute_word hw, followedBy]
      cases hc : first c with
      | none => rw [Option.getD_none, substitute_word hw]
      | some name => rfl

/-- Where no word went on, none goes on after replacing. -/
theorem Cut.stops {s : List Char} {ps : List Piece} (h : Cut none s ps)
    (hs : Stops Text.isWord s) (replace : Coord → Option (List Char)) :
    Stops Text.isWord (ps.flatMap (Piece.substitute replace)) := by
  cases h with
  | nil => trivial
  | mark hc h => exact hc rfl
  | @word w s ps hne hw hstop h =>
    obtain ⟨c, w, rfl⟩ := List.exists_cons_of_ne_nil hne
    have hc : Text.isWord c = false := hs
    rw [hw c (by simp)] at hc
    simp at hc

/-- Where words are replaced by words, the text only stays the same if each piece does. -/
theorem Cut.substitute_eq_text {q : Option Char} {s : List Char} {ps : List Piece}
    (h : Cut q s ps) {replace : Coord → Option (List Char)}
    (hwords : ∀ c name, replace c = some name → ∀ x ∈ name, Text.isWord x = true)
    (hsame : ps.flatMap (Piece.substitute replace) = s) :
    ∀ p ∈ ps, p.substitute replace = p.text := by
  induction h with
  | nil q => simp
  | @mark q c s ps hc h ih =>
    have hrest : ps.flatMap (Piece.substitute replace) = s := (List.cons.inj hsame).2
    intro p hp
    rcases List.mem_cons.mp hp with rfl | hp
    · rfl
    · exact ih hrest p hp
  | @word w s ps hne hw hstop h ih =>
    have hreplaced : ∀ x ∈ (Piece.word w).substitute replace, Text.isWord x = true := by
      rw [Piece.substitute]
      cases hname : (Piece.word w).reference?.bind replace with
      | none => exact hw
      | some name =>
        obtain ⟨c, -, hc⟩ := Option.bind_eq_some_iff.mp hname
        exact hwords c name hc
    have hstop' := h.stops hstop replace
    rw [List.flatMap_cons] at hsame
    have hword := congrArg (List.takeWhile Text.isWord) hsame
    have hrest := congrArg (List.dropWhile Text.isWord) hsame
    rw [Text.takeWhile_run hreplaced hstop', Text.takeWhile_run hw hstop] at hword
    rw [Text.dropWhile_run hreplaced hstop', Text.dropWhile_run hw hstop] at hrest
    intro p hp
    rcases List.mem_cons.mp hp with rfl | hp
    · exact hword
    · exact ih hrest p hp

section

variable {replace : Coord → Option (List Char)} (hreplace : Canonical replace)

include hreplace

theorem isWord_substitute {w : List Char} (hne : w ≠ []) (hw : ∀ c ∈ w, Text.isWord c = true) :
    (Piece.word w).substitute replace ≠ [] ∧
      ∀ c ∈ (Piece.word w).substitute replace, Text.isWord c = true := by
  cases hname : Coord.ofChars? w with
  | none =>
    rw [substitute_of_reference? (p := .word w) hname]
    exact ⟨hne, hw⟩
  | some c =>
    rw [substitute_word hname]
    cases hc : replace c with
    | none => exact ⟨hne, hw⟩
    | some name =>
      obtain ⟨d, hd, hdname⟩ := hreplace c name hc
      exact Coord.isWord_of_ofChars? (Coord.ofChars?_of_nameChars? hd hdname)

/-- A text with its references replaced is cut where the text was cut. -/
theorem Cut.rename {q : Option Char} {s : List Char} {ps : List Piece} (h : Cut q s ps) :
    Cut q (ps.flatMap (Piece.substitute replace)) (ps.map (Piece.rename replace)) := by
  induction h with
  | nil q => exact .nil q
  | mark hc h ih => exact .mark hc ih
  | word hne hw hstop h ih =>
    obtain ⟨hne', hw'⟩ := isWord_substitute hreplace hne hw
    exact .word hne' hw' (h.stops hstop replace) ih

theorem pieces_rewrite (s : List Char) :
    pieces none (rewrite replace s) = (pieces none s).map (Piece.rename replace) :=
  ((cut_pieces none s).rename hreplace).pieces_eq

theorem rewrite_rewrite (next : Coord → Option (List Char)) (s : List Char) :
    rewrite next (rewrite replace s) = rewrite (followedBy replace next) s := by
  rw [rewrite, pieces_rewrite hreplace, List.flatMap_map, rewrite]
  simp only [substitute_rename]

end

/-- A reference as it is written, and the text behind it up to the next one. -/
structure Mention where
  name : List Char
  cell : Coord
  named : Coord.ofChars? name = some cell
  after : List Char

/-- A text with its references marked out. -/
structure Outline where
  before : List Char
  mentions : List Mention

namespace Outline

/-- The text with names in the place of its references. -/
def fill (replace : Coord → Option (List Char)) (o : Outline) : List Char :=
  o.before ++ o.mentions.flatMap fun m => (replace m.cell).getD m.name ++ m.after

/-- The text as it is written. -/
def text (o : Outline) : List Char := o.fill fun _ => none

def cells (o : Outline) : List Coord := o.mentions.map Mention.cell

/-- No reference stands inside quotes, where the text begins inside the given quote. -/
def OutsideQuotes (q : Option Char) (o : Outline) : Prop :=
  ∀ front m back, o.mentions = front ++ m :: back → openQuote q (text ⟨o.before, front⟩) = none

end Outline

/-- A text that is cut has an outline, which tells what becomes of it. -/
theorem Cut.exists_outline {q : Option Char} {s : List Char} {ps : List Piece} (h : Cut q s ps) :
    ∃ o : Outline, o.cells = ps.filterMap Piece.reference? ∧ o.OutsideQuotes q ∧
      ∀ replace, ps.flatMap (Piece.substitute replace) = o.fill replace := by
  induction h with
  | nil q => exact ⟨⟨[], []⟩, rfl, by simp [Outline.OutsideQuotes], fun _ => rfl⟩
  | @mark q c s ps hc h ih =>
    obtain ⟨⟨before, mentions⟩, hcells, hquotes, hfill⟩ := ih
    refine ⟨⟨c :: before, mentions⟩, hcells, hquotes, fun replace => ?_⟩
    rw [List.flatMap_cons, hfill]
    rfl
  | @word w s ps hne hw hstop h ih =>
    have hquote : openQuote none w = none :=
      openQuote_of_isQuote fun c hc => isQuote_of_isWord (hw c hc)
    obtain ⟨⟨before, mentions⟩, hcells, hquotes, hfill⟩ := ih
    cases hname : Coord.ofChars? w with
    | none =>
      have hplain : (Piece.word w).reference? = none := hname
      refine ⟨⟨w ++ before, mentions⟩, ?_, fun front m back hsplit => ?_, fun replace => ?_⟩
      · rw [List.filterMap_cons, hplain, ← hcells]
        rfl
      · have hfront := hquotes front m back hsplit
        simpa [Outline.text, Outline.fill, hquote] using hfront
      · rw [List.flatMap_cons, substitute_of_reference? hplain, hfill]
        simp [Outline.fill, Piece.text]
    | some c =>
      have hreference : (Piece.word w).reference? = some c := hname
      refine ⟨⟨[], ⟨w, c, hname, before⟩ :: mentions⟩, ?_, fun front m back hsplit => ?_,
        fun replace => ?_⟩
      · rw [List.filterMap_cons, hreference, ← hcells]
        rfl
      · cases front with
        | nil => rfl
        | cons m' front =>
          obtain ⟨rfl, hrest⟩ := List.cons.inj hsplit
          have hfront := hquotes front m back hrest
          simpa [Outline.text, Outline.fill, hquote] using hfront
      · rw [List.flatMap_cons, substitute_word hname, hfill]
        simp [Outline.fill]

/-- The outline of a formula, or of a text that is copied as a whole. -/
theorem exists_outline (formula : List Char) :
    ∃ o : Outline, o.cells = references formula ∧ o.OutsideQuotes none ∧
      ∀ replace, substitute replace formula = o.fill replace := by
  cases h : isFormula formula with
  | true =>
    simp only [references, substitute, h, if_true]
    exact (cut_pieces none formula).exists_outline
  | false =>
    refine ⟨⟨formula, []⟩, ?_, by simp [Outline.OutsideQuotes], fun replace => ?_⟩
    · simp [references, h, Outline.cells]
    · simp [substitute, h, Outline.fill]

theorem isFormula_iff {s : List Char} : isFormula s = true ↔ ∃ text, s = '=' :: text := by
  unfold isFormula
  split
  · rename_i text
    simp
  · rename_i hother
    simp only [Bool.false_eq_true, false_iff, not_exists]
    exact hother

theorem substitute_literal {s : List Char} (hs : isFormula s = false)
    (replace : Coord → Option (List Char)) : substitute replace s = s := by
  simp [substitute, hs]

theorem substitute_none (s : List Char) : substitute (fun _ => none) s = s := by
  have hpiece : Piece.substitute (fun _ => none) = Piece.text := by
    funext p
    rw [Piece.substitute, Option.bind_fun_none, Option.getD_none]
  rw [substitute, hpiece, flatMap_text_pieces, ite_self]

/--
Replacing references by names of cells and then replacing again is replacing once.
Nothing is changed if nothing is replaced. What is replaced are the references, which
stand outside of quotes; the text between them is copied in order.
-/
theorem substitute_substitute {first : Coord → Option (List Char)} (hfirst : Canonical first)
    (second : Coord → Option (List Char)) (formula : List Char) :
    substitute second (substitute first formula) = substitute (followedBy first second) formula ∧
    substitute (fun _ => none) formula = formula ∧
    ∃ o : Outline, o.cells = references formula ∧ o.OutsideQuotes none ∧
      ∀ replace, substitute replace formula = o.fill replace := by
  refine ⟨?_, substitute_none formula, exists_outline formula⟩
  cases h : isFormula formula with
  | true =>
    obtain ⟨text, rfl⟩ := isFormula_iff.mp h
    rw [substitute_formula, substitute_formula, rewrite_rewrite hfirst, substitute_formula]
  | false => rw [substitute_literal h, substitute_literal h, substitute_literal h]

/-- Exchanging two cells replaces references by names. -/
theorem canonical_exchange {a b : Coord} (ha : a.IsNamed) (hb : b.IsNamed) :
    Canonical fun c => if c = a then b.nameChars? else if c = b then a.nameChars? else none := by
  intro c name hname
  dsimp only at hname
  split at hname
  · exact ⟨b, hb, hname⟩
  · split at hname
    · exact ⟨a, ha, hname⟩
    · cases hname

/-- Exchanges `A1` and `B2`. -/
def crossing (c : Coord) : Option (List Char) :=
  if c = ⟨0, 0⟩ then Coord.nameChars? ⟨1, 1⟩
  else if c = ⟨1, 1⟩ then Coord.nameChars? ⟨0, 0⟩ else none

/-- Moves references down to row 3 at most. -/
def lowering (c : Coord) : Option (List Char) := (c.offset? 1 0 3 2).bind Coord.nameChars?

theorem substitute_substitute_crossing : Canonical crossing ∧
    substitute lowering (substitute crossing "=A1&'A1'&B2&A3&'B2".toList) =
      substitute (followedBy crossing lowering) "=A1&'A1'&B2&A3&'B2".toList ∧
    substitute (fun _ => none) "=A1&'A1'&B2&A3&'B2".toList = "=A1&'A1'&B2&A3&'B2".toList ∧
    ∃ o : Outline, o.cells = references "=A1&'A1'&B2&A3&'B2".toList ∧ o.OutsideQuotes none ∧
      ∀ replace, substitute replace "=A1&'A1'&B2&A3&'B2".toList = o.fill replace :=
  have hcrossing : Canonical crossing := canonical_exchange (by decide) (by decide)
  ⟨hcrossing, substitute_substitute hcrossing lowering _⟩

example : offsetReferences 1 0 3 2 (swapReferences ⟨0, 0⟩ ⟨1, 1⟩ "=A1&'A1'&B2&A3&'B2".toList) =
    "=B3&'A1'&A2&A3&'B2".toList := by decide

end Gridbook.Formula
