import Gridbook.Proofs.Name

/-!
# Cutting texts into pieces

Outside of quotes a run of word characters is one piece and every other character
a piece of its own. Two texts are cut apart from each other where the second one
does not go on with a word of the first one; it begins inside the quote that the
first one leaves open.
-/
namespace Gridbook.Formula

open Text (Stops)

theorem isQuote_of_isWord {c : Char} (h : Text.isWord c = true) : isQuote c = false := by
  rw [Bool.eq_false_iff]
  intro hq
  simp only [isQuote, Bool.or_eq_true, beq_iff_eq] at hq
  rcases hq with rfl | rfl <;> exact absurd h (by decide)

theorem isQuote_of_isBlank {c : Char} (h : Text.isBlank c = true) : isQuote c = false := by
  rw [Bool.eq_false_iff]
  intro hq
  simp only [isQuote, Bool.or_eq_true, beq_iff_eq] at hq
  rcases hq with rfl | rfl <;> exact absurd h (by decide)

/-- Characters that make up a piece each: outside of words, and no quotes. -/
def isMark (c : Char) : Bool := !Text.isWord c && !isQuote c

theorem isMark_iff {c : Char} :
    isMark c = true ↔ Text.isWord c = false ∧ isQuote c = false := by
  simp only [isMark, Bool.and_eq_true, Bool.not_eq_true']

theorem isMark_of_isBlank {c : Char} (h : Text.isBlank c = true) : isMark c = true :=
  isMark_iff.mpr ⟨Text.isWord_of_isBlank h, isQuote_of_isBlank h⟩

theorem pieces_mark {c : Char} (hc : isMark c = true) (s : List Char) :
    pieces none (c :: s) = .mark c :: pieces none s := by
  obtain ⟨hword, hquote⟩ := isMark_iff.mp hc
  simp [pieces, hword, hquote]

theorem pieces_marks {g : List Char} (hg : ∀ c ∈ g, isMark c = true) (s : List Char) :
    pieces none (g ++ s) = g.map .mark ++ pieces none s := by
  induction g with
  | nil => rfl
  | cons c g ih =>
    rw [List.cons_append, pieces_mark (hg c (by simp)), ih fun d hd => hg d (by simp [hd])]
    rfl

theorem pieces_wordChar {c : Char} (hc : Text.isWord c = true) (s : List Char) :
    pieces none (c :: s) = addToWord c (pieces none s) := by
  simp [pieces, hc, isQuote_of_isWord hc]

/-- Where no word goes on, a character makes a new word. -/
theorem addToWord_pieces {s : List Char} (hs : Stops Text.isWord s) (c : Char) :
    addToWord c (pieces none s) = .word [c] :: pieces none s := by
  cases s with
  | nil => rfl
  | cons d s =>
    have hd : Text.isWord d = false := hs
    simp only [pieces, hd, Bool.false_eq_true, ↓reduceIte]
    split <;> rfl

theorem pieces_word {r s : List Char} (hne : r ≠ []) (hr : ∀ c ∈ r, Text.isWord c = true)
    (hs : Stops Text.isWord s) : pieces none (r ++ s) = .word r :: pieces none s := by
  induction r with
  | nil => exact absurd rfl hne
  | cons c r ih =>
    rw [List.cons_append, pieces_wordChar (hr c (by simp))]
    cases r with
    | nil => exact addToWord_pieces hs c
    | cons d r =>
      rw [ih (by simp) fun x hx => hr x (by simp [hx])]
      rfl

/-- The quote that is open behind a character. -/
def quoteAfter : Option Char → Char → Option Char
  | some q, c => if c = q then none else some q
  | none, c => if isQuote c then some c else none

/-- The quote that is open behind a text. -/
def openQuote (q : Option Char) (s : List Char) : Option Char := s.foldl quoteAfter q

@[simp] theorem openQuote_nil (q : Option Char) : openQuote q [] = q := rfl

@[simp] theorem openQuote_cons (q : Option Char) (c : Char) (s : List Char) :
    openQuote q (c :: s) = openQuote (quoteAfter q c) s := rfl

@[simp] theorem openQuote_append (q : Option Char) (s t : List Char) :
    openQuote q (s ++ t) = openQuote (openQuote q s) t := List.foldl_append

theorem quoteAfter_of_isQuote {c : Char} (hc : isQuote c = false) : quoteAfter none c = none := by
  simp [quoteAfter, hc]

theorem openQuote_of_isQuote {s : List Char} (hs : ∀ c ∈ s, isQuote c = false) :
    openQuote none s = none := by
  induction s with
  | nil => rfl
  | cons c s ih =>
    rw [openQuote_cons, quoteAfter_of_isQuote (hs c (by simp)), ih fun d hd => hs d (by simp [hd])]

/-- A text that begins inside the given quote, or outside of quotes, and its pieces. -/
inductive Cut : Option Char → List Char → List Piece → Prop
  | nil (q : Option Char) : Cut q [] []
  | mark {q : Option Char} {c : Char} {s : List Char} {ps : List Piece}
      (hc : q = none → Text.isWord c = false) (hs : Cut (quoteAfter q c) s ps) :
      Cut q (c :: s) (.mark c :: ps)
  | word {w s : List Char} {ps : List Piece} (hne : w ≠ [])
      (hw : ∀ c ∈ w, Text.isWord c = true) (hstop : Stops Text.isWord s) (hs : Cut none s ps) :
      Cut none (w ++ s) (.word w :: ps)

namespace Cut

variable {q : Option Char} {s t : List Char} {ps ps' : List Piece}

theorem addToWord {c : Char} (hc : Text.isWord c = true) (h : Cut none s ps) :
    Cut none (c :: s) (addToWord c ps) := by
  have hsingle : ∀ d ∈ [c], Text.isWord d = true := by simpa using hc
  cases h with
  | nil => exact .word (by simp) hsingle (Text.stops_nil _) (.nil none)
  | mark hd hs => exact .word (by simp) hsingle (hd rfl) (.mark hd hs)
  | word hne hw hstop hs =>
    exact .word (by simp) (fun d hd => (List.mem_cons.mp hd).elim (· ▸ hc) (hw d)) hstop hs

theorem pieces_eq (h : Cut q s ps) : pieces q s = ps := by
  induction h with
  | nil q => cases q <;> rfl
  | @mark q c s ps hc hs ih =>
    cases q with
    | some q => rw [pieces, ← ih, quoteAfter]
    | none =>
      cases hquote : isQuote c with
      | true => simp [pieces, ← ih, quoteAfter, hquote]
      | false =>
        have hmark : isMark c = true := isMark_iff.mpr ⟨hc rfl, hquote⟩
        rw [pieces_mark hmark, ← ih, quoteAfter_of_isQuote hquote]
  | word hne hw hstop hs ih => rw [pieces_word hne hw hstop, ih]

theorem append (h : Cut q s ps) (ht : Stops Text.isWord t) (h' : Cut (openQuote q s) t ps') :
    Cut q (s ++ t) (ps ++ ps') := by
  induction h with
  | nil q => exact h'
  | mark hc hs ih => exact .mark hc (ih h')
  | @word w s ps hne hw hstop hs ih =>
    have hquote : openQuote none w = none :=
      openQuote_of_isQuote fun c hc => isQuote_of_isWord (hw c hc)
    rw [openQuote_append, hquote] at h'
    rw [List.append_assoc]
    exact .word hne hw (hstop.append ht) (ih h')

end Cut

theorem cut_pieces (q : Option Char) (s : List Char) : Cut q s (pieces q s) := by
  fun_induction pieces q s with
  | case1 q => exact .nil q
  | case2 q c s ih => exact .mark (by simp) ih
  | case3 c s hquote ih =>
    have hword : Text.isWord c = false := by
      rw [Bool.eq_false_iff]
      intro hword
      rw [isQuote_of_isWord hword] at hquote
      simp at hquote
    exact .mark (fun _ => hword) (by rwa [quoteAfter, if_pos hquote])
  | case4 c s hquote hword ih => exact ih.addToWord hword
  | case5 c s hquote hword ih =>
    exact .mark (by simpa using hword) (by rwa [quoteAfter, if_neg hquote])

/-- A text is cut by itself if no word of it goes on behind it. -/
theorem pieces_append (q : Option Char) (s : List Char) {t : List Char}
    (ht : Stops Text.isWord t) : pieces q (s ++ t) = pieces q s ++ pieces (openQuote q s) t :=
  ((cut_pieces q s).append ht (cut_pieces _ t)).pieces_eq

@[simp] theorem reference?_mark (c : Char) : (Piece.mark c).reference? = none := rfl

@[simp] theorem filterMap_reference_marks (g : List Char) :
    (g.map Piece.mark).filterMap Piece.reference? = [] := by
  simp [List.filterMap_eq_nil_iff]

/-- The references in a text that begins outside of quotes. -/
def scan (s : List Char) : List Coord := (pieces none s).filterMap Piece.reference?

@[simp] theorem scan_nil : scan [] = [] := rfl

theorem scan_mark {c : Char} (hc : isMark c = true) (s : List Char) : scan (c :: s) = scan s := by
  rw [scan, pieces_mark hc]
  rfl

theorem scan_marks {g : List Char} (hg : ∀ c ∈ g, isMark c = true) (s : List Char) :
    scan (g ++ s) = scan s := by
  rw [scan, pieces_marks hg, List.filterMap_append, filterMap_reference_marks, List.nil_append,
    scan]

theorem references_formula (s : List Char) : references ('=' :: s) = scan s := by
  have hmark : isMark '=' = true := by decide
  simp only [references, isFormula, ↓reduceIte]
  exact scan_mark hmark s

theorem scan_word {r s : List Char} (hne : r ≠ []) (hr : ∀ c ∈ r, Text.isWord c = true)
    (hs : Stops Text.isWord s) : scan (r ++ s) = (Coord.ofChars? r).toList ++ scan s := by
  rw [scan, pieces_word hne hr hs, List.filterMap_cons]
  cases h : Coord.ofChars? r <;> simp [Piece.reference?, h, scan]

/-- A word that begins with a digit is no reference. -/
theorem scan_digit {d : Char} (hd : d.isDigit = true) (s : List Char) :
    scan (d :: s) = scan (s.dropWhile Text.isWord) := by
  obtain ⟨r, t, rfl, hr, ht⟩ := Text.exists_run Text.isWord s
  have hword : ∀ c ∈ d :: r, Text.isWord c = true := by
    intro c hc
    rcases List.mem_cons.mp hc with rfl | hc
    · exact Text.isWord_of_isDigit hd
    · exact hr c hc
  rw [← List.cons_append, scan_word (by simp) hword ht, Coord.ofChars?_digit hd,
    Text.dropWhile_run hr ht]
  rfl

theorem scan_digits {ds : List Char} (hd : ∀ c ∈ ds, c.isDigit = true) (hne : ds ≠ [])
    (s : List Char) : scan (ds ++ s) = scan (s.dropWhile Text.isWord) := by
  obtain ⟨d, ds, rfl⟩ := List.exists_cons_of_ne_nil hne
  rw [List.cons_append, scan_digit (hd d (by simp)),
    List.dropWhile_append_of_pos fun c hc => Text.isWord_of_isDigit (hd c (by simp [hc]))]

theorem scan_of_digits {ds : List Char} (hd : ∀ c ∈ ds, c.isDigit = true) : scan ds = [] := by
  cases ds with
  | nil => rfl
  | cons d ds =>
    have h := scan_digits hd (by simp) []
    rwa [List.append_nil] at h

theorem substitute_word {name : List Char} {c : Coord} (hname : Coord.ofChars? name = some c)
    (replace : Coord → Option (List Char)) :
    (Piece.word name).substitute replace = (replace c).getD name := by
  simp [Piece.substitute, Piece.reference?, hname, Piece.text]

theorem substitute_of_reference? {p : Piece} (h : p.reference? = none)
    (replace : Coord → Option (List Char)) : p.substitute replace = p.text := by
  simp [Piece.substitute, h]

@[simp] theorem substitute_mark (replace : Coord → Option (List Char)) (c : Char) :
    (Piece.mark c).substitute replace = [c] := rfl

@[simp] theorem flatMap_substitute_marks (replace : Coord → Option (List Char)) (g : List Char) :
    (g.map Piece.mark).flatMap (Piece.substitute replace) = g := by
  induction g with
  | nil => rfl
  | cons c g ih => rw [List.map_cons, List.flatMap_cons, ih, substitute_mark]; rfl

/-- The text with its references replaced, where it begins outside of quotes. -/
def rewrite (replace : Coord → Option (List Char)) (s : List Char) : List Char :=
  (pieces none s).flatMap (Piece.substitute replace)

theorem rewrite_mark {c : Char} (hc : isMark c = true) (replace : Coord → Option (List Char))
    (s : List Char) : rewrite replace (c :: s) = c :: rewrite replace s := by
  rw [rewrite, pieces_mark hc]
  rfl

theorem rewrite_marks {g : List Char} (hg : ∀ c ∈ g, isMark c = true)
    (replace : Coord → Option (List Char)) (s : List Char) :
    rewrite replace (g ++ s) = g ++ rewrite replace s := by
  rw [rewrite, pieces_marks hg, List.flatMap_append, flatMap_substitute_marks, rewrite]

theorem rewrite_word {r s : List Char} (hne : r ≠ []) (hr : ∀ c ∈ r, Text.isWord c = true)
    (hs : Stops Text.isWord s) (replace : Coord → Option (List Char)) :
    rewrite replace (r ++ s) = (Piece.word r).substitute replace ++ rewrite replace s := by
  rw [rewrite, pieces_word hne hr hs]
  rfl

theorem substitute_formula (replace : Coord → Option (List Char)) (s : List Char) :
    substitute replace ('=' :: s) = '=' :: rewrite replace s := by
  have hmark : isMark '=' = true := by decide
  simp only [substitute, isFormula, ↓reduceIte]
  exact rewrite_mark hmark replace s

/-- Where there are no references nothing is replaced. -/
theorem rewrite_of_scan {s : List Char} (h : scan s = []) (replace : Coord → Option (List Char)) :
    rewrite replace s = s := by
  have hpieces : ∀ p ∈ pieces none s, p.substitute replace = p.text :=
    fun p hp => substitute_of_reference? (List.filterMap_eq_nil_iff.mp h p hp) replace
  rw [rewrite, List.flatMap_def, List.map_congr_left hpieces, ← List.flatMap_def,
    flatMap_text_pieces]

end Gridbook.Formula
