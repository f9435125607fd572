import Gridbook.Proofs.Parsing
import Gridbook.Proofs.Scanning

/-!
# The references of a formula

Looking for references in a text and reading it as a formula find the same cells,
with one exception: where a number has a point without digits behind it and a
capital exponent mark, as in `1.E5`, the exponent looks like the name of a cell
and is taken for a reference.
-/
namespace Gridbook.Formula

open Decimal (Power Spelling)
open Text (IsBlank Stops)
open Wording (IsGap)

/-- The cell that an exponent right behind the point of a number names by accident. -/
def hiddenReference? (n : Spelling) : Option Coord :=
  match n.fraction, n.power with
  | some [], some p => Coord.ofChars? p.text
  | _, _ => none

theorem isMark_sign {p : Power} (hp : p.Valid) {c : Char} (hc : p.sign = some c) :
    isMark c = true := by
  rcases hp.sign with h | h | h <;> rw [hc] at h
  · simp at h
  · obtain rfl := Option.some.inj h
    decide
  · obtain rfl := Option.some.inj h
    decide

theorem isWord_mark {p : Power} (hp : p.Valid) : Text.isWord p.mark = true := by
  rcases hp.mark with h | h <;> rw [h] <;> decide

/-- An exponent without a sign is a word. -/
theorem isWord_unsigned {p : Power} (hp : p.Valid) :
    ∀ c ∈ p.mark :: p.digits, Text.isWord c = true := by
  intro c hc
  rcases List.mem_cons.mp hc with rfl | hc
  · exact isWord_mark hp
  · exact Text.isWord_of_isDigit (hp.digits c hc)

/-- An exponent that goes on with a word has no reference in it. -/
theorem scan_raised (p : Option Power) (hp : ∀ q ∈ p, q.Valid) :
    scan ((Spelling.raised p).dropWhile Text.isWord) = [] := by
  cases p with
  | none => rfl
  | some p =>
    have hp := hp p rfl
    obtain ⟨mark, sign, digits⟩ := p
    have hmark : Text.isWord mark = true := isWord_mark hp
    cases sign with
    | none =>
      have hdrop := Text.dropWhile_run (isWord_unsigned hp) (Text.stops_nil _)
      rw [List.append_nil] at hdrop
      simp only [Spelling.raised, Power.text, Option.toList_none, List.nil_append, hdrop]
      rfl
    | some c =>
      have hc := isMark_sign hp (c := c) rfl
      have hword := (isMark_iff.mp hc).1
      simp only [Spelling.raised, Power.text, Option.toList_some, List.cons_append,
        List.nil_append, List.dropWhile_cons, hmark, hword, ↓reduceIte, Bool.false_eq_true,
        scan_mark hc]
      exact scan_of_digits hp.digits

/-- Behind a point an exponent is a reference if it reads as the name of a cell. -/
theorem scan_power {p : Power} (hp : p.Valid) :
    scan p.text = (Coord.ofChars? p.text).toList := by
  obtain ⟨mark, sign, digits⟩ := p
  have hmark : Text.isWord mark = true := isWord_mark hp
  cases sign with
  | none =>
    have hscan := scan_word (List.cons_ne_nil mark digits) (isWord_unsigned hp) (Text.stops_nil _)
    rw [List.append_nil, scan_nil, List.append_nil] at hscan
    simpa [Power.text] using hscan
  | some c =>
    have hc := isMark_sign hp (c := c) rfl
    have hstop : Stops Text.isWord (c :: digits) := (isMark_iff.mp hc).1
    have hdigit : c.isDigit = false := by
      rcases hp.sign with h | h | h
      · simp at h
      · obtain rfl := Option.some.inj h
        decide
      · obtain rfl := Option.some.inj h
        decide
    have hname : Coord.ofChars? (mark :: c :: digits) = none := by
      simp [Coord.ofChars?, hdigit]
    have hsingle : Coord.ofChars? [mark] = none := by simp [Coord.ofChars?]
    have hword := scan_word (List.cons_ne_nil mark []) (by simpa using hmark) hstop
    simp only [Power.text, Option.toList_some, List.cons_append, List.nil_append] at hword ⊢
    rw [hword, hsingle, hname, scan_mark hc, scan_of_digits hp.digits]
    rfl

theorem scan_spelling {n : Spelling} (hn : n.Valid) :
    scan n.text = (hiddenReference? n).toList := by
  obtain ⟨whole, fraction, power⟩ := n
  obtain ⟨hwhole, hfraction, hne, hpower⟩ := hn
  have hraised := scan_raised power hpower
  cases fraction with
  | none =>
    have hne : whole ≠ [] := hne.resolve_right (by simp)
    simp only [Spelling.text, Spelling.tail, List.append_nil, scan_digits hwhole hne, hraised,
      hiddenReference?]
    rfl
  | some digits =>
    have hpoint : isMark '.' = true := by decide
    have hword : Text.isWord '.' = false := by decide
    have hfront : scan (whole ++ '.' :: (digits ++ Spelling.raised power)) =
        scan (digits ++ Spelling.raised power) := by
      cases whole with
      | nil => exact scan_mark hpoint _
      | cons d whole =>
        rw [scan_digits hwhole (by simp), List.dropWhile_cons]
        simp only [hword, Bool.false_eq_true, ↓reduceIte, scan_mark hpoint]
    simp only [Spelling.text, Spelling.tail, List.append_assoc, List.cons_append, hfront]
    cases digits with
    | cons d digits =>
      have hdigits : ∀ c ∈ d :: digits, c.isDigit = true := hfraction
      rw [scan_digits hdigits (by simp), hraised]
      rfl
    | nil =>
      cases power with
      | none => rfl
      | some p => exact scan_power (hpower p rfl)

/-- Characters of words, blanks, points, operators and parentheses. -/
def isFormulaChar (c : Char) : Bool :=
  Text.isWord c || Text.isBlank c || ['.', '+', '-', '*', '/', '(', ')'].contains c

theorem isFormulaChar_of_isWord {c : Char} (h : Text.isWord c = true) : isFormulaChar c = true := by
  simp [isFormulaChar, h]

theorem isFormulaChar_of_isBlank {c : Char} (h : Text.isBlank c = true) :
    isFormulaChar c = true := by
  simp [isFormulaChar, h]

theorem isQuote_of_isFormulaChar {c : Char} (h : isFormulaChar c = true) : isQuote c = false := by
  simp only [isFormulaChar, Bool.or_eq_true, List.contains_iff_mem] at h
  rcases h with (h | h) | h
  · exact isQuote_of_isWord h
  · exact isQuote_of_isBlank h
  · simp only [List.mem_cons, List.not_mem_nil, or_false] at h
    rcases h with rfl | rfl | rfl | rfl | rfl | rfl | rfl <;> decide

theorem isFormulaChar_spelling {n : Spelling} (hn : n.Valid) :
    ∀ c ∈ n.text, isFormulaChar c = true := by
  have hdigit {c : Char} (hc : c.isDigit = true) : isFormulaChar c = true :=
    isFormulaChar_of_isWord (Text.isWord_of_isDigit hc)
  obtain ⟨whole, fraction, power⟩ := n
  obtain ⟨hwhole, hfraction, -, hpower⟩ := hn
  intro c hc
  simp only [Spelling.text, List.mem_append] at hc
  rcases hc with (hc | hc) | hc
  · exact hdigit (hwhole c hc)
  · cases fraction with
    | none => simp [Spelling.tail] at hc
    | some digits =>
      rcases List.mem_cons.mp hc with rfl | hc
      · decide
      · exact hdigit (hfraction c hc)
  · cases power with
    | none => simp [Spelling.raised] at hc
    | some p =>
      have hp := hpower p rfl
      simp only [Spelling.raised, Power.text, List.mem_cons, List.mem_append,
        Option.mem_toList] at hc
      rcases hc with rfl | hc | hc
      · exact isFormulaChar_of_isWord (isWord_mark hp)
      · rcases hp.sign with h | h | h <;> rw [h] at hc
        · simp at hc
        · obtain rfl := Option.some.inj hc
          decide
        · obtain rfl := Option.some.inj hc
          decide
      · exact hdigit (hp.digits c hc)

theorem isMark_operator (op : Operator) : isMark op.symbol = true := by cases op <;> decide

theorem isMark_signSymbol (sign : Sign) : isMark sign.symbol = true := by cases sign <;> decide

theorem isMark_gap {g : List Char} (hg : IsGap g) : ∀ c ∈ g, isMark c = true :=
  fun c hc => isMark_of_isBlank (isBlank_of_isGap (hg c hc))

/-- A mark behind a gap ends a word in front of the gap. -/
theorem stops_gap {g s : List Char} {c : Char} (hg : IsGap g) (hc : isMark c = true) :
    Stops Text.isWord (g ++ c :: s) := by
  cases g with
  | nil => exact (isMark_iff.mp hc).1
  | cons d g => exact Text.isWord_of_isBlank (isBlank_of_isGap (hg d (by simp)))

theorem isFormulaChar_wording {level : Nat} {w : Wording} (hw : w.Fits level) :
    ∀ c ∈ w.text, isFormulaChar c = true := by
  have hgap {g : List Char} (hg : IsGap g) : ∀ c ∈ g, isFormulaChar c = true :=
    fun c hc => isFormulaChar_of_isBlank (isBlank_of_isGap (hg c hc))
  induction w generalizing level with
  | number gap spelling =>
    intro c hc
    rcases List.mem_append.mp hc with hc | hc
    · exact hgap hw.1 c hc
    · exact isFormulaChar_spelling hw.2 c hc
  | cell gap name place =>
    intro c hc
    rcases List.mem_append.mp hc with hc | hc
    · exact hgap hw.1 c hc
    · exact isFormulaChar_of_isWord ((Coord.isWord_of_ofChars? hw.2).2 c hc)
  | binary left gap op right ihl ihr =>
    have hsymbol : isFormulaChar op.symbol = true := by cases op <;> decide
    intro c hc
    simp only [Wording.text, List.mem_append, List.mem_cons] at hc
    rcases hc with hc | hc | rfl | hc
    · exact ihl hw.2.1 c hc
    · exact hgap hw.2.2.1 c hc
    · exact hsymbol
    · exact ihr hw.2.2.2 c hc
  | signed gap sign operand ih =>
    have hsymbol : isFormulaChar sign.symbol = true := by cases sign <;> decide
    intro c hc
    simp only [Wording.text, List.mem_append, List.mem_cons] at hc
    rcases hc with hc | rfl | hc
    · exact hgap hw.1 c hc
    · exact hsymbol
    · exact ih hw.2 c hc
  | group gap inner closing ih =>
    intro c hc
    simp only [Wording.text, List.mem_append, List.mem_cons, List.not_mem_nil, or_false] at hc
    rcases hc with hc | rfl | hc | hc | rfl
    · exact hgap hw.1 c hc
    · decide
    · exact ih hw.2.1 c hc
    · exact hgap hw.2.2 c hc
    · decide

namespace Wording

/-- The numbers from left to right. -/
def numerals : Wording → List Spelling
  | number _ spelling => [spelling]
  | cell .. => []
  | binary left _ _ right => left.numerals ++ right.numerals
  | signed _ _ operand => operand.numerals
  | group _ inner _ => inner.numerals

/-- The cells from left to right and, among them, those that numbers name by accident. -/
def mentions : Wording → List Coord
  | number _ spelling => (hiddenReference? spelling).toList
  | cell _ _ place => [place]
  | binary left _ _ right => left.mentions ++ right.mentions
  | signed _ _ operand => operand.mentions
  | group _ inner _ => inner.mentions

/-- The pieces of the text, token by token. -/
def pieces : Wording → List Piece
  | number gap spelling => gap.map .mark ++ Formula.pieces none spelling.text
  | cell gap name _ => gap.map .mark ++ [.word name]
  | binary left gap op right =>
    left.pieces ++ (gap.map .mark ++ .mark op.symbol :: right.pieces)
  | signed gap sign operand => gap.map .mark ++ .mark sign.symbol :: operand.pieces
  | group gap inner closing =>
    gap.map .mark ++ .mark '(' :: (inner.pieces ++ (closing.map .mark ++ [.mark ')']))

/-- The wording, with blanks behind it, is a text that is read as the tree. -/
def Writes (w : Wording) (text : List Char) (e : Expr) : Prop :=
  w.Fits 0 ∧ w.tree = e ∧ ∃ b, IsBlank b ∧ body text = w.text ++ b

theorem pieces_text {level : Nat} {w : Wording} (hw : w.Fits level) {rest : List Char}
    (hrest : Stops Text.isWord rest) :
    Formula.pieces none (w.text ++ rest) = w.pieces ++ Formula.pieces none rest := by
  induction w generalizing level rest with
  | number gap spelling =>
    have hquote : openQuote none spelling.text = none :=
      openQuote_of_isQuote fun c hc => isQuote_of_isFormulaChar (isFormulaChar_spelling hw.2 c hc)
    rw [text, List.append_assoc, pieces_marks (isMark_gap hw.1), pieces_append none _ hrest, hquote,
      pieces, List.append_assoc]
  | cell gap name place =>
    obtain ⟨hne, hname⟩ := Coord.isWord_of_ofChars? hw.2
    rw [text, List.append_assoc, pieces_marks (isMark_gap hw.1), pieces_word hne hname hrest,
      pieces, List.append_assoc]
    rfl
  | binary left gap op right ihl ihr =>
    obtain ⟨-, hleft, hgap, hright⟩ := hw
    rw [text, List.append_assoc, List.append_assoc, List.cons_append,
      ihl hleft (stops_gap hgap (isMark_operator op)), pieces_marks (isMark_gap hgap),
      pieces_mark (isMark_operator op), ihr hright hrest]
    simp only [pieces, List.append_assoc, List.cons_append]
  | signed gap sign operand ih =>
    obtain ⟨hgap, hoperand⟩ := hw
    rw [text, List.append_assoc, List.cons_append, pieces_marks (isMark_gap hgap),
      pieces_mark (isMark_signSymbol sign), ih hoperand hrest]
    simp only [pieces, List.append_assoc, List.cons_append]
  | group gap inner closing ih =>
    obtain ⟨hgap, hinner, hclosing⟩ := hw
    have hopen : isMark '(' = true := by decide
    have hclose : isMark ')' = true := by decide
    simp only [text, pieces, List.append_assoc, List.cons_append, List.nil_append]
    rw [pieces_marks (isMark_gap hgap), pieces_mark hopen,
      ih hinner (stops_gap hclosing hclose), pieces_marks (isMark_gap hclosing),
      pieces_mark hclose]

theorem filterMap_reference_pieces {level : Nat} {w : Wording} (hw : w.Fits level) :
    w.pieces.filterMap Piece.reference? = w.mentions := by
  induction w generalizing level with
  | number gap spelling =>
    have h : (Formula.pieces none spelling.text).filterMap Piece.reference? =
        (hiddenReference? spelling).toList := scan_spelling hw.2
    rw [pieces, List.filterMap_append, filterMap_reference_marks, h]
    rfl
  | cell gap name place =>
    have h : (Piece.word name).reference? = some place := hw.2
    rw [pieces, List.filterMap_append, filterMap_reference_marks, List.filterMap_cons, h]
    rfl
  | binary left gap op right ihl ihr =>
    rw [pieces, List.filterMap_append, List.filterMap_append, filterMap_reference_marks,
      List.filterMap_cons, reference?_mark, ihl hw.2.1, ihr hw.2.2.2]
    rfl
  | signed gap sign operand ih =>
    rw [pieces, List.filterMap_append, filterMap_reference_marks, List.filterMap_cons,
      reference?_mark, ih hw.2]
    rfl
  | group gap inner closing ih =>
    simp only [pieces, List.filterMap_append, filterMap_reference_marks, List.filterMap_cons,
      reference?_mark, ih hw.2.1, List.filterMap_nil, List.append_nil, List.nil_append, mentions]

theorem scan_text {level : Nat} {w : Wording} (hw : w.Fits level) {rest : List Char}
    (hrest : Stops Text.isWord rest) : scan (w.text ++ rest) = w.mentions ++ scan rest := by
  rw [scan, pieces_text hw hrest, List.filterMap_append, filterMap_reference_pieces hw, scan]

/-- All cells of the tree are mentioned. -/
theorem mem_mentions {w : Wording} {r : Coord} (h : r ∈ w.tree.cells) : r ∈ w.mentions := by
  induction w with
  | number gap spelling => simp [tree, Expr.cells] at h
  | cell gap name place => exact h
  | binary left gap op right ihl ihr =>
    exact List.mem_append.mpr ((List.mem_append.mp h).imp ihl ihr)
  | signed gap sign operand ih => exact ih h
  | group gap inner closing ih => exact ih h

theorem length_mentions (w : Wording) :
    w.mentions.length = w.tree.cells.length + (w.numerals.filterMap hiddenReference?).length := by
  induction w with
  | number gap spelling =>
    cases h : hiddenReference? spelling <;> simp [mentions, tree, Expr.cells, numerals, h]
  | cell gap name place => rfl
  | binary left gap op right ihl ihr =>
    simp only [mentions, tree, Expr.cells, numerals, List.length_append, List.filterMap_append,
      ihl, ihr]
    omega
  | signed gap sign operand ih => exact ih
  | group gap inner closing ih => exact ih

/-- Without accidents, what is mentioned are the cells of the tree. -/
theorem mentions_eq_cells {w : Wording} (h : ∀ n ∈ w.numerals, hiddenReference? n = none) :
    w.mentions = w.tree.cells := by
  induction w with
  | number gap spelling => simp [mentions, tree, Expr.cells, h spelling (by simp [numerals])]
  | cell gap name place => rfl
  | binary left gap op right ihl ihr =>
    have hleft := ihl fun n hn => h n (by simp [numerals, hn])
    have hright := ihr fun n hn => h n (by simp [numerals, hn])
    simp [mentions, tree, Expr.cells, hleft, hright]
  | signed gap sign operand ih => exact ih h
  | group gap inner closing ih => exact ih h

theorem mentions_eq_cells_iff (w : Wording) :
    w.mentions = w.tree.cells ↔ ∀ n ∈ w.numerals, hiddenReference? n = none := by
  refine ⟨fun h => ?_, mentions_eq_cells⟩
  have hlength := length_mentions w
  rw [h] at hlength
  have hnone : w.numerals.filterMap hiddenReference? = [] :=
    List.eq_nil_of_length_eq_zero (by omega)
  exact List.filterMap_eq_nil_iff.mp hnone

end Wording

theorem exists_writes {text : List Char} {e : Expr} (h : read text = .ok e) :
    ∃ w : Wording, w.Writes text e := by
  obtain ⟨-, w, b, hw, htree, hb, htext⟩ := read_eq_ok_iff.mp h
  exact ⟨w, hw, htree, b, hb, htext⟩

theorem stops_of_isBlank {b : List Char} (hb : IsBlank b) : Stops Text.isWord b := by
  cases b with
  | nil => trivial
  | cons c b => exact Text.isWord_of_isBlank (hb c (by simp))

theorem scan_body (text : List Char) : scan (body text) = scan text := by
  unfold body
  split
  · exact (scan_mark (by decide) _).symm
  · rfl

/-- The references found in a formula are those that its wording mentions. -/
theorem references_of_writes {w : Wording} {text : List Char} {e : Expr} (h : w.Writes text e) :
    references ('=' :: text) = w.mentions := by
  obtain ⟨hw, -, b, hb, htext⟩ := h
  have hmarks := scan_marks (fun c hc => isMark_of_isBlank (hb c hc)) []
  rw [List.append_nil] at hmarks
  rw [references_formula, ← scan_body, htext, Wording.scan_text hw (stops_of_isBlank hb), hmarks,
    scan_nil, List.append_nil]

/--
A formula that is read has a wording, and the references found in its text are
those that the wording mentions: the cells of the tree, and one more for every
number with a capital exponent right behind its point that is a row number.
-/
theorem references_of_read {text : List Char} {e : Expr} (h : read text = .ok e) :
    (∃ w : Wording, w.Writes text e) ∧ ∀ w : Wording, w.Writes text e →
      references ('=' :: text) = w.mentions ∧
      (references ('=' :: text) = e.cells ↔ ∀ n ∈ w.numerals, hiddenReference? n = none) := by
  refine ⟨exists_writes h, fun w hw => ?_⟩
  rw [references_of_writes hw, ← hw.2.1]
  exact ⟨rfl, w.mentions_eq_cells_iff⟩

/-- Of the cells of `A1+1.E5*B2` two are in its tree, and `E5` stands in the number. -/
theorem references_of_pointed_product : ∃ e, read "A1+1.E5*B2".toList = .ok e ∧
    (∃ w : Wording, w.Writes "A1+1.E5*B2".toList e) ∧
    ∀ w : Wording, w.Writes "A1+1.E5*B2".toList e →
      references ('=' :: "A1+1.E5*B2".toList) = w.mentions ∧
      (references ('=' :: "A1+1.E5*B2".toList) = e.cells ↔
        ∀ n ∈ w.numerals, hiddenReference? n = none) :=
  ⟨_, rfl, references_of_read rfl⟩

/-- The number `1.E5` is read without a cell, but `E5` is found in it as a reference. -/
theorem references_of_pointed :
    read ['1', '.', 'E', '5'] = .ok (.number (Decimal.Numeral.toFloat ⟨['1'], [], 5⟩)) ∧
      references ['=', '1', '.', 'E', '5'] = [⟨4, 4⟩] :=
  ⟨rfl, by decide⟩

end Gridbook.Formula
