import Gridbook.Proofs.Ranges

/-!
# What a formula mentions

A formula mentions its references and the cells of its ranges, where a range is two
references with a colon and blanks between them. The cells that a formula is evaluated
with are all mentioned: those of a tree are references, and a range or a cell among
the arguments of a call stands outside of quotes and begins and ends with a word.
-/
namespace Gridbook.Formula

open Text (IsBlank Stops)

def Piece.isBlank : Piece → Bool
  | word _ => false
  | mark c => Text.isBlank c

/-- The cell whose name comes next behind a colon. -/
def rangeEnd? (ps : List Piece) : Option Coord :=
  match ps.dropWhile Piece.isBlank with
  | .mark ':' :: rest => (rest.dropWhile Piece.isBlank).head?.bind Piece.reference?
  | _ => none

/-- The areas of the ranges among the pieces. -/
def areasIn : List Piece → List Area
  | [] => []
  | p :: ps =>
    match p.reference?, rangeEnd? ps with
    | some a, some b => .spanning a b :: areasIn ps
    | _, _ => areasIn ps

/-- The references of a formula and the cells of the ranges that are written in it. -/
def mentioned (formula : List Char) : List Coord :=
  references formula ++ (areasIn (pieces none formula)).flatMap Area.cells

theorem dropWhile_isBlank_marks {g : List Char} (hg : IsBlank g) (ps : List Piece) :
    (g.map Piece.mark ++ ps).dropWhile Piece.isBlank = ps.dropWhile Piece.isBlank := by
  refine List.dropWhile_append_of_pos fun p hp => ?_
  obtain ⟨c, hc, rfl⟩ := List.mem_map.mp hp
  exact hg c hc

theorem rangeEnd?_colon {g g' last : List Char} {q : Coord} (hg : IsBlank g) (hg' : IsBlank g')
    (hlast : Coord.ofChars? last = some q) (ps : List Piece) :
    rangeEnd? (g.map .mark ++ .mark ':' :: (g'.map .mark ++ .word last :: ps)) = some q := by
  have hcolon : Piece.isBlank (.mark ':') = false := by decide
  have hword : Piece.isBlank (.word last) = false := rfl
  simp only [rangeEnd?, dropWhile_isBlank_marks hg, dropWhile_isBlank_marks hg',
    List.dropWhile_cons, hcolon, hword, Bool.false_eq_true, ↓reduceIte, List.head?_cons,
    Option.bind_some, Piece.reference?, hlast]

theorem mem_areasIn_append {area : Area} {ps : List Piece} (h : area ∈ areasIn ps)
    (front : List Piece) : area ∈ areasIn (front ++ ps) := by
  induction front with
  | nil => exact h
  | cons p front ih =>
    rw [List.cons_append, areasIn]
    split
    · exact List.mem_cons_of_mem _ ih
    · exact ih

theorem eq_of_contains_spanning {p r : Coord} (h : (Area.spanning p p).contains r = true) :
    r = p := by
  obtain ⟨row, col⟩ := p
  obtain ⟨row', col'⟩ := r
  simp only [Area.contains_iff, Area.spanning, Nat.min_self, Nat.max_self] at h
  simp only [Coord.mk.injEq]
  omega

/-- The part stands outside of quotes behind a mark, and no word goes on behind it. -/
def StandsIn (part text : List Char) : Prop :=
  ∃ front c back, openQuote none front = none ∧ isMark c = true ∧ Stops Text.isWord back ∧
    text = front ++ c :: (part ++ back)

theorem StandsIn.mem_mentioned {range text : List Char} {p q r : Coord} (h : StandsIn range text)
    (hrange : RangeText range p q) (hr : (Area.spanning p q).contains r = true) :
    r ∈ mentioned ('=' :: text) := by
  obtain ⟨front, c, back, hfront, hc, hback, rfl⟩ := h
  have hpieces : pieces none ('=' :: (front ++ c :: (range ++ back))) =
      (.mark '=' :: (pieces none front ++ [.mark c])) ++ pieces none (range ++ back) := by
    have hstop : Stops Text.isWord (c :: (range ++ back)) := (isMark_iff.mp hc).1
    rw [pieces_mark (by decide), pieces_append none front hstop, hfront, pieces_mark hc]
    simp
  rw [mentioned, references, isFormula, if_pos rfl, hpieces, List.mem_append]
  cases hrange with
  | single hname =>
    obtain ⟨a, b, -, -, hsingle⟩ := exists_pieces_name hname hback
    obtain rfl := eq_of_contains_spanning hr
    refine .inl (List.mem_filterMap.mpr ⟨.word (Text.trim range), ?_, hname⟩)
    rw [hsingle]
    simp
  | @pair first last _ _ hfirst hlast =>
    have hstop : Stops Text.isWord (':' :: (last ++ back)) := (by decide : Text.isWord ':' = false)
    obtain ⟨a, b, -, hb, hpair⟩ := exists_pieces_name hfirst hstop
    obtain ⟨a', b', ha', -, hpair'⟩ := exists_pieces_name hlast hback
    refine .inr (List.mem_flatMap.mpr ⟨.spanning p q, ?_, Area.mem_cells.mpr hr⟩)
    have htext : first ++ ':' :: last ++ back = first ++ ':' :: (last ++ back) := by simp
    have hstart : Piece.reference? (.word (Text.trim first)) = some p := hfirst
    rw [htext, hpair, pieces_mark (by decide), hpair']
    refine mem_areasIn_append (mem_areasIn_append ?_ _) _
    rw [areasIn, hstart, rangeEnd?_colon hb ha' hlast]
    exact List.mem_cons_self

/--
The parts of a text that begins inside the given quote: no word goes on behind a
part, and each part but the first one stands behind a comma outside of quotes.
-/
def CutInto (q : Option Char) (s : List Char) (parts : List (List Char)) : Prop :=
  ∃ first rest, parts = first :: rest ∧ (∃ v, Stops Text.isWord v ∧ s = first ++ v) ∧
    ∀ part ∈ rest, ∃ u v, openQuote q u = none ∧ Stops Text.isWord v ∧ s = u ++ ',' :: (part ++ v)

theorem CutInto.addToPart {q : Option Char} {c : Char} {s : List Char} {parts : List (List Char)}
    (h : CutInto (quoteAfter q c) s parts) : CutInto q (c :: s) (addToPart c parts) := by
  obtain ⟨first, rest, rfl, ⟨v, hv, hs⟩, hrest⟩ := h
  refine ⟨c :: first, rest, rfl, ⟨v, hv, by rw [hs]; rfl⟩, fun part hpart => ?_⟩
  obtain ⟨u, v, hu, hv, hs⟩ := hrest part hpart
  exact ⟨c :: u, v, hu, hv, by rw [hs]; rfl⟩

theorem CutInto.comma {s : List Char} {parts : List (List Char)} (h : CutInto none s parts) :
    CutInto none (',' :: s) ([] :: parts) := by
  have hcomma : Text.isWord ',' = false := by decide
  obtain ⟨first, rest, rfl, ⟨v, hv, hs⟩, hrest⟩ := h
  refine ⟨[], first :: rest, rfl, ⟨',' :: s, hcomma, rfl⟩, fun part hpart => ?_⟩
  rcases List.mem_cons.mp hpart with rfl | hpart
  · exact ⟨[], v, rfl, hv, by rw [hs]; rfl⟩
  · obtain ⟨u, v, hu, hv, hs⟩ := hrest part hpart
    exact ⟨',' :: u, v, hu, hv, by rw [hs]; rfl⟩

theorem cutInto_cutWith (q : Option Char) (depth : Nat) (s : List Char) :
    CutInto q s (cutWith q depth s) := by
  fun_induction cutWith q depth s with
  | case1 q depth => exact ⟨[], [], rfl, ⟨[], Text.stops_nil _, rfl⟩, by simp⟩
  | case2 depth q c rest ih => exact .addToPart ih
  | case3 depth c rest hquote ih => exact .addToPart (by rwa [quoteAfter, if_pos hquote])
  | case4 depth rest hquote ih => exact .addToPart ih
  | case5 depth rest hquote hopen ih => exact .addToPart ih
  | case6 depth c rest hquote hopen hclose hcut ih =>
    obtain ⟨rfl, rfl⟩ := hcut
    exact ih.comma
  | case7 depth c rest hquote hopen hclose hcut ih =>
    exact .addToPart (by rwa [quoteAfter, if_neg hquote])

theorem StandsIn.of_mem_cutWith {arguments part text : List Char} (h : StandsIn arguments text)
    (hpart : part ∈ cutWith none 0 arguments) : StandsIn part text := by
  obtain ⟨front, c, back, hfront, hc, hback, rfl⟩ := h
  obtain ⟨first, rest, hparts, ⟨v, hv, hs⟩, hrest⟩ := cutInto_cutWith none 0 arguments
  rw [hparts] at hpart
  rcases List.mem_cons.mp hpart with rfl | hpart
  · exact ⟨front, c, v ++ back, hfront, hc, hv.append hback, by rw [hs, List.append_assoc]⟩
  · obtain ⟨u, v, hu, hv, hs⟩ := hrest part hpart
    refine ⟨front ++ c :: u, ',', v ++ back, ?_, by decide, hv.append hback, ?_⟩
    · rw [openQuote_append, hfront, openQuote_cons, quoteAfter_of_isQuote (isMark_iff.mp hc).2, hu]
    · rw [hs]
      simp only [List.append_assoc, List.cons_append]

/-- The arguments of a call stand behind its parenthesis. -/
theorem standsIn_arguments {text : List Char} {call : Call} (hcall : call? text = some call) :
    StandsIn call.arguments text := by
  obtain ⟨a, word, g, b, ha, hword, hg, hb, -, htext⟩ := exists_callText hcall
  refine ⟨a ++ (word ++ g), '(', ')' :: b, ?_, by decide, (by decide : Text.isWord ')' = false), ?_⟩
  · refine openQuote_of_isQuote fun c hc => ?_
    rcases List.mem_append.mp hc with hc | hc
    · exact isQuote_of_isBlank (ha c hc)
    · rcases List.mem_append.mp hc with hc | hc
      · exact isQuote_of_isWord (isWord_of_isNameChar (hword.chars c hc))
      · exact isQuote_of_isBlank (hg c hc)
  · rw [htext, callText]
    simp only [List.append_assoc]

/-- All cells of a tree are mentioned in its text. -/
theorem mem_mentioned_of_read {text : List Char} {e : Expr} (h : read text = .ok e) {r : Coord}
    (hr : r ∈ e.cells) : r ∈ mentioned ('=' :: text) := by
  obtain ⟨w, hw⟩ := exists_writes h
  rw [mentioned, references_of_writes hw, List.mem_append]
  exact .inl (w.mem_mentions (by rwa [hw.2.1]))

/-- A range that is the argument of an aggregate is mentioned, with all its cells. -/
theorem mem_mentioned_of_arguments {text : List Char} {call : Call} (hcall : call? text = some call)
    {p q r : Coord} (hrange : RangeText (Text.trim call.arguments) p q)
    (hr : (Area.spanning p q).contains r = true) : r ∈ mentioned ('=' :: text) :=
  (standsIn_arguments hcall).mem_mentioned (rangeText_trim_iff.mp hrange) hr

/-- A range that is one of the arguments of a call is mentioned, with all its cells. -/
theorem mem_mentioned_of_argument {text : List Char} {call : Call} (hcall : call? text = some call)
    {argument : List Char} (hargument : argument ∈ cutArguments call.arguments) {p q r : Coord}
    (hrange : RangeText argument p q) (hr : (Area.spanning p q).contains r = true) :
    r ∈ mentioned ('=' :: text) := by
  obtain ⟨part, hpart, rfl⟩ := List.mem_map.mp hargument
  exact ((standsIn_arguments hcall).of_mem_cutWith hpart).mem_mentioned
    (rangeText_trim_iff.mp hrange) hr

end Gridbook.Formula
