import Gridbook.Proofs.Quoting

/-!
# Where arguments are cut

A scan of an argument list knows which quote is open and how many parentheses are. The
list is cut at the commas that the scan meets with neither of them open, and nowhere
else. So every part begins in the scope in which the list begins, and every part but the
last one ends there; blanks at its ends do not matter. That is why the parts can be put
together again and cut once more.
-/
namespace Gridbook.Formula

theorem isQuote_of_quoteAfter {quote : Option Char} (h : ∀ q, quote = some q → isQuote q = true)
    {c q : Char} (hq : quoteAfter quote c = some q) : isQuote q = true := by
  cases quote with
  | none =>
    simp only [quoteAfter, Option.ite_none_right_eq_some, Option.some.injEq] at hq
    exact hq.2 ▸ hq.1
  | some q' =>
    simp only [quoteAfter, Option.ite_none_left_eq_some] at hq
    exact h q hq.2

/-- The quote that is open in a text and the number of parentheses that are. -/
structure Scope where
  quote : Option Char
  depth : Nat
  isQuote_of_open : ∀ q, quote = some q → isQuote q = true
  deriving DecidableEq

namespace Scope

/-- Outside of quotes and parentheses. -/
def outermost : Scope := ⟨none, 0, by simp⟩

/-- Behind a further character. A parenthesis in quotes or one that closes none changes nothing. -/
def after (p : Scope) (c : Char) : Scope where
  quote := quoteAfter p.quote c
  depth :=
    if p.quote.isSome then p.depth
    else if c = '(' then p.depth + 1
    else if c = ')' then p.depth - 1
    else p.depth
  isQuote_of_open _ := isQuote_of_quoteAfter p.isQuote_of_open

/-- Behind a text. -/
def behind (p : Scope) (s : List Char) : Scope := s.foldl after p

@[simp] theorem behind_nil (p : Scope) : p.behind [] = p := rfl

@[simp] theorem behind_cons (p : Scope) (c : Char) (s : List Char) :
    p.behind (c :: s) = (p.after c).behind s := rfl

@[simp] theorem behind_append (p : Scope) (s t : List Char) :
    p.behind (s ++ t) = (p.behind s).behind t := List.foldl_append

theorem after_comma (p : Scope) : p.after ',' = p := by
  obtain ⟨quote, depth, hquote⟩ := p
  cases quote with
  | none => rfl
  | some q =>
    have hq : ',' ≠ q := by
      rintro rfl
      exact absurd (hquote ',' rfl) (by decide)
    simp [after, quoteAfter, hq]

/-- Blanks are neither quotes nor parentheses. -/
theorem after_blank {c : Char} (hc : Text.isBlank c = true) (p : Scope) : p.after c = p := by
  obtain ⟨quote, depth, hquote⟩ := p
  cases quote with
  | none =>
    have hother : c ≠ '(' ∧ c ≠ ')' := by
      constructor <;> rintro rfl <;> exact absurd hc (by decide)
    simp [after, quoteAfter_of_isQuote (isQuote_of_isBlank hc), hother]
  | some q =>
    have hq : c ≠ q := by
      rintro rfl
      exact Bool.false_ne_true ((isQuote_of_isBlank hc).symm.trans (hquote c rfl))
    simp [after, quoteAfter, hq]

theorem behind_blanks {g : List Char} (hg : Text.IsBlank g) (p : Scope) : p.behind g = p := by
  induction g with
  | nil => rfl
  | cons c g ih =>
    rw [behind_cons, after_blank (hg c (by simp)), ih fun d hd => hg d (by simp [hd])]

/-- The positions of the commas that a scan from here meets outside of quotes and parentheses. -/
def commas (p : Scope) (s : List Char) : List Nat :=
  (List.range s.length).filter fun i => s[i]? = some ',' ∧ p.behind (s.take i) = outermost

@[simp] theorem commas_nil (p : Scope) : p.commas [] = [] := rfl

theorem commas_cons (p : Scope) (c : Char) (s : List Char) :
    p.commas (c :: s) =
      (if c = ',' ∧ p = outermost then [0] else []) ++ ((p.after c).commas s).map (· + 1) := by
  have hlater : ((List.range s.length).map Nat.succ).filter
      (fun i => (c :: s)[i]? = some ',' ∧ p.behind ((c :: s).take i) = outermost) =
      ((p.after c).commas s).map Nat.succ := by
    rw [List.filter_map]
    rfl
  rw [commas, List.length_cons, List.range_succ_eq_map, List.filter_cons, hlater]
  split <;> simp_all

theorem commas_append (p : Scope) (s t : List Char) :
    p.commas (s ++ t) = p.commas s ++ ((p.behind s).commas t).map (· + s.length) := by
  induction s generalizing p with
  | nil => simp
  | cons c s ih =>
    rw [List.cons_append, commas_cons, ih, commas_cons]
    simp [Nat.add_assoc, Function.comp_def]

/-- Trimming takes nothing away that a scan counts. -/
theorem commas_trim_eq_nil {p : Scope} {s : List Char} (h : p.commas s = []) :
    p.commas (Text.trim s) = [] := by
  obtain ⟨a, b, ha, -, hs, -⟩ := Text.exists_frame s
  rw [hs, commas_append, behind_blanks ha, List.append_eq_nil_iff, List.map_eq_nil_iff,
    commas_append, List.append_eq_nil_iff] at h
  exact h.2.1

theorem behind_trim (p : Scope) (s : List Char) : p.behind (Text.trim s) = p.behind s := by
  obtain ⟨a, b, ha, hb, hs, -⟩ := Text.exists_frame s
  conv_rhs => rw [hs]
  rw [behind_append, behind_blanks ha, behind_append, behind_blanks hb]

/-- The parts of a text that begins in the scope. -/
def parts (p : Scope) (s : List Char) : List (List Char) := cutWith p.quote p.depth s

@[simp] theorem parts_nil (p : Scope) : p.parts [] = [[]] := by
  rw [parts, cutWith]

theorem parts_cons (p : Scope) (c : Char) (s : List Char) :
    p.parts (c :: s) =
      if c = ',' ∧ p = outermost then [] :: outermost.parts s
      else addToPart c ((p.after c).parts s) := by
  obtain ⟨quote, depth, hquote⟩ := p
  cases quote with
  | some q => simp [parts, cutWith, after, quoteAfter, outermost]
  | none =>
    by_cases hc : isQuote c = true
    · have hmark : c ≠ ',' ∧ c ≠ '(' ∧ c ≠ ')' := by
        refine ⟨?_, ?_, ?_⟩ <;> rintro rfl <;> exact absurd hc (by decide)
      simp [parts, cutWith, after, quoteAfter, hc, hmark]
    · by_cases hopen : c = '('
      · subst hopen
        rfl
      by_cases hclose : c = ')'
      · subst hclose
        rfl
      simp only [parts, cutWith, after, quoteAfter, outermost, hc, hopen, hclose, mk.injEq,
        Option.isSome_none, Bool.false_eq_true, ↓reduceIte, true_and]
      split
      · rename_i hcut
        rw [hcut.2]
      · rfl

/-- The texts between some positions of a text, the first one from `start` on. -/
def between (s : List Char) : Nat → List Nat → List (List Char)
  | start, [] => [s.drop start]
  | start, i :: is => (s.take i).drop start :: between s (i + 1) is

theorem between_cons_succ (c : Char) (s : List Char) (start : Nat) (is : List Nat) :
    between (c :: s) (start + 1) (is.map (· + 1)) = between s start is := by
  induction is generalizing start with
  | nil => rfl
  | cons i is ih =>
    rw [List.map_cons, between, ih, between]
    rfl

theorem length_between (s : List Char) (start : Nat) (is : List Nat) :
    (between s start is).length = is.length + 1 := by
  induction is generalizing start with
  | nil => rfl
  | cons i is ih => rw [between, List.length_cons, ih, List.length_cons]

/-- A text is cut at these commas. -/
theorem parts_eq_between (p : Scope) (s : List Char) : p.parts s = between s 0 (p.commas s) := by
  induction s generalizing p with
  | nil => simp [between]
  | cons c s ih =>
    rw [parts_cons, commas_cons]
    split
    · rename_i hcut
      obtain ⟨rfl, rfl⟩ := hcut
      rw [after_comma, List.singleton_append, between, between_cons_succ, ih]
      rfl
    · rw [List.nil_append, ih]
      cases (p.after c).commas s with
      | nil => rfl
      | cons i is =>
        rw [List.map_cons, between, between, addToPart, between_cons_succ]
        rfl

/-- The texts have no commas of their own, and those before the last one end where they begin. -/
inductive Separate : Scope → List (List Char) → Prop
  | last {p : Scope} {part : List Char} (h : p.commas part = []) : Separate p [part]
  | next {p : Scope} {part : List Char} {others : List (List Char)} (h : p.commas part = [])
      (hend : p.behind part = outermost) (hothers : Separate outermost others) :
      Separate p (part :: others)

namespace Separate

theorem addToPart {p : Scope} {c : Char} (hc : ¬ (c = ',' ∧ p = outermost))
    {texts : List (List Char)} (h : Separate (p.after c) texts) :
    Separate p (Formula.addToPart c texts) := by
  have hcommas (part : List Char) (hpart : (p.after c).commas part = []) :
      p.commas (c :: part) = [] := by
    rw [commas_cons, if_neg hc, hpart]
    rfl
  cases h with
  | last h => exact .last (hcommas _ h)
  | next h hend hothers => exact .next (hcommas _ h) hend hothers

theorem commas_eq_nil {p : Scope} {texts : List (List Char)} (h : Separate p texts)
    (hp : p = outermost) : ∀ part ∈ texts, outermost.commas part = [] := by
  induction h with
  | last h => simpa [hp] using h
  | next h hend hothers ih => exact List.forall_mem_cons.mpr ⟨hp ▸ h, ih rfl⟩

/-- Trimming takes nothing away that a scan counts. -/
theorem map_trim {p : Scope} {texts : List (List Char)} (h : Separate p texts) :
    Separate p (texts.map Text.trim) := by
  induction h with
  | last h => exact .last (commas_trim_eq_nil h)
  | next h hend hothers ih => exact .next (commas_trim_eq_nil h) ((behind_trim _ _).trans hend) ih

end Separate

theorem separate_parts (p : Scope) (s : List Char) : Separate p (p.parts s) := by
  induction s generalizing p with
  | nil => exact parts_nil p ▸ .last (commas_nil p)
  | cons c s ih =>
    rw [parts_cons]
    split
    · rename_i hcut
      exact .next (commas_nil p) hcut.2 (ih outermost)
    · rename_i hkept
      exact (ih (p.after c)).addToPart hkept

/-- Up to the end of a text without such commas nothing is cut. -/
theorem parts_append {p : Scope} {s : List Char} (h : p.commas s = []) (t : List Char) :
    p.parts (s ++ t) = s.foldr addToPart ((p.behind s).parts t) := by
  induction s generalizing p with
  | nil => rfl
  | cons c s ih =>
    rw [commas_cons, List.append_eq_nil_iff, List.map_eq_nil_iff] at h
    have hkept : ¬ (c = ',' ∧ p = outermost) := fun hcut => by simp [hcut] at h
    rw [List.cons_append, parts_cons, if_neg hkept, ih h.2]
    rfl

/-- Separate texts are cut where they are joined. -/
theorem Separate.parts_intercalate {p : Scope} {texts : List (List Char)} (h : Separate p texts) :
    p.parts ([','].intercalate texts) = texts := by
  induction h with
  | @last p part h =>
    have hparts := parts_append h []
    rw [List.append_nil, parts_nil, foldr_addToPart, List.append_nil] at hparts
    rwa [List.intercalate_singleton]
  | @next p part others h hend hothers ih =>
    obtain ⟨first, rest, rfl⟩ : ∃ first rest, others = first :: rest := by
      cases hothers <;> exact ⟨_, _, rfl⟩
    rw [List.intercalate_cons_cons, List.append_assoc, parts_append h, hend, List.singleton_append,
      parts_cons, if_pos ⟨rfl, rfl⟩, ih, foldr_addToPart, List.append_nil]

end Scope

/--
The arguments are cut at the commas that a scan of the text meets outside of quotes and
parentheses: they are what stands between these commas, without the blanks around it. A
scan of an argument alone meets no such comma, and the arguments joined by commas are cut
into the same arguments again.
-/
theorem cutArguments_at_commas (s : List Char) :
    (cutArguments s).length = (Scope.outermost.commas s).length + 1 ∧
    cutArguments s = (Scope.between s 0 (Scope.outermost.commas s)).map Text.trim ∧
    (∀ part ∈ cutArguments s, Scope.outermost.commas part = []) ∧
    cutArguments ([','].intercalate (cutArguments s)) = cutArguments s := by
  have hbetween : cutArguments s =
      (Scope.between s 0 (Scope.outermost.commas s)).map Text.trim :=
    congrArg _ (Scope.outermost.parts_eq_between s)
  have hseparate : Scope.outermost.Separate (cutArguments s) :=
    (Scope.outermost.separate_parts s).map_trim
  have hjoined : cutArguments ([','].intercalate (cutArguments s)) =
      (cutArguments s).map Text.trim := congrArg _ hseparate.parts_intercalate
  refine ⟨?_, hbetween, hseparate.commas_eq_nil rfl, ?_⟩
  · rw [hbetween, List.length_map, Scope.length_between]
  · rw [hjoined, cutArguments, List.map_map]
    exact List.map_congr_left fun part _ => Text.trim_trim part

/-- A comma is kept in a quote, also in one without an end, and between parentheses. -/
example : cutArguments "A1 ,\",\",(b,c)),'d, ".toList =
    ["A1".toList, "\",\"".toList, "(b,c))".toList, "'d,".toList] := by decide

end Gridbook.Formula
