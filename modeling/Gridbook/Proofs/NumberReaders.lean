import Gridbook.Pattern.Replace
import Gridbook.Proofs.LongestNumerals
import Gridbook.Proofs.Parsing
import Gridbook.Value

/-!
# The two readers of numbers

A formula and a displayed text give the same number for the same characters: both take the
longest numeral that stands at the start of the text. In front of it a displayed text may have
blanks and one sign.
-/
namespace Gridbook

open Text (IsBlank Stops isBlank)
open Decimal (Numeral Spelling)
open Pattern (Glyph)

/-- What the scan for numerals takes of a text. -/
def Decimal.Numeral.taken? (t : List Char) : Option (List Char) :=
  (scan? t).map fun r => t.take (t.length - r.2.length)

theorem Decimal.Numeral.taken?_eq_some_iff {t u : List Char} :
    taken? t = some u ↔ ∃ w : Spelling, w.IsLongest t ∧ w.text = u := by
  simp only [taken?, Option.map_eq_some_iff, Prod.exists, scan?_eq_some_iff]
  constructor
  · rintro ⟨n, r, ⟨w, hw, -, ht⟩, rfl⟩
    exact ⟨w, hw, by simp [ht]⟩
  · rintro ⟨w, hw, rfl⟩
    obtain ⟨r, ht⟩ := hw.starts
    exact ⟨w.numeral, r, ⟨w, hw, rfl, ht.symm⟩, by simp [← ht]⟩

namespace Pattern

/-- What the pattern of displayed numbers matches in a text. -/
def matched? (t : List Char) : Option (List Char) :=
  (compile? numberPattern).bind fun p => (find? p t 0).map fun m => groupText t m 0

theorem matched?_eq (t : List Char) :
    matched? t = (Phase.start.rest? t).map fun r => t.take (t.length - r.length) := by
  rw [matched?, compile?_numberPattern, Option.bind_some, Phase.find?_numberProgram, Option.map_map]
  refine Option.map_congr fun r _ => ?_
  simp [groupText, Phase.found, Slots.get?]

theorem matched?_of_stops {t : List Char} (ht : Stops Glyph.sign.holds t) :
    matched? t = Numeral.taken? t := by
  rw [matched?_eq, Phase.rest?_start_of_stops ht, Phase.rest?_signed, Option.map_map,
    Numeral.taken?]
  rfl

theorem matched?_sign {c : Char} (hc : Glyph.sign.holds c = true) (t : List Char) :
    matched? (c :: t) = (Numeral.taken? t).map (c :: ·) := by
  rw [matched?_eq, Phase.rest?_start_sign hc, Phase.rest?_signed, Numeral.taken?, Option.map_map,
    Option.map_map]
  refine Option.map_congr fun r hr => ?_
  obtain ⟨w, -, -, rfl⟩ := Numeral.exists_spelling hr
  simp [Nat.add_right_comm _ r.2.length 1]

end Pattern

/-- A formula's reader takes a number where there is a numeral, and the gap after it. -/
theorem Formula.readLeaf_number_iff {t : List Char} {x : Float} {r : List Char} :
    readLeaf t = .ok (.number x, r) ↔ ∃ w : Spelling,
      w.IsLongest t ∧ w.numeral.toFloat = x ∧ skipGap (t.drop w.text.length) = r := by
  rw [readLeaf]
  cases hscan : Numeral.scan? t with
  | some scanned =>
    obtain ⟨n, s⟩ := scanned
    obtain ⟨w, hw, rfl, rfl⟩ := Numeral.scan?_eq_some_iff.mp hscan
    simp only [Except.ok.injEq, Prod.mk.injEq, Expr.number.injEq]
    constructor
    · rintro ⟨hx, hr⟩
      exact ⟨w, hw, hx, by simpa using hr⟩
    · rintro ⟨v, hv, hx, hr⟩
      rw [hv.text_eq hw] at hr
      rw [Spelling.numeral_eq_of_text_eq hv.valid hw.valid (hv.text_eq hw)] at hx
      exact ⟨hx, by simpa using hr⟩
  | none =>
    have hnone := Numeral.scan?_eq_none_iff.mp hscan
    constructor
    · intro h
      simp only at h
      split at h
      · rename_i e s hcell
        obtain ⟨rfl, -⟩ := Prod.mk.inj (Except.ok.inj h)
        obtain ⟨name, place, -, hcell, -⟩ := readCell_sound hcell
        cases hcell
      · cases h
    · rintro ⟨w, hw, -⟩
      exact absurd ⟨w, hw⟩ hnone

/-- A text as blanks, a sign or none, and what stands behind them. -/
structure Text.Leads (text blanks : List Char) (sign : Option Char) (rest : List Char) : Prop where
  text_eq : text = blanks ++ (sign.toList ++ rest)
  blanks : IsBlank blanks
  stops_blank : Stops isBlank (sign.toList ++ rest)
  isSign : ∀ c ∈ sign, Glyph.sign.holds c = true
  /-- A sign that stands there is not passed over. -/
  stops_sign : sign = none → Stops Glyph.sign.holds rest

theorem Text.exists_leads (text : List Char) :
    ∃ blanks sign rest, Leads text blanks sign rest := by
  obtain ⟨blanks, t, rfl, hblanks, ht⟩ := exists_run isBlank text
  by_cases hsign : Stops Glyph.sign.holds t
  · exact ⟨blanks, none, t, rfl, hblanks, ht, by simp, fun _ => hsign⟩
  · cases t with
    | nil => exact absurd trivial hsign
    | cons c t => exact ⟨blanks, some c, t, rfl, hblanks, ht, by simpa using hsign, by simp⟩

namespace Text.Leads

variable {text blanks : List Char} {sign : Option Char} {rest : List Char}

theorem trimStart_eq (h : Leads text blanks sign rest) :
    trimStart text = sign.toList ++ rest := by
  rw [h.text_eq, trimStart_append h.blanks]
  exact dropWhile_of_stops h.stops_blank

/-- The pattern matches the sign and the longest numeral behind it. -/
theorem matched?_eq_some_iff (h : Leads text blanks sign rest) {u : List Char} :
    Pattern.matched? (trimStart text) = some u ↔
      ∃ w : Spelling, w.IsLongest rest ∧ sign.toList ++ w.text = u := by
  rw [h.trimStart_eq]
  cases sign with
  | none =>
    rw [Option.toList_none, List.nil_append, Pattern.matched?_of_stops (h.stops_sign rfl),
      Numeral.taken?_eq_some_iff]
    rfl
  | some c =>
    rw [Option.toList_some, List.singleton_append, Pattern.matched?_sign (h.isSign c rfl),
      Option.map_eq_some_iff]
    simp only [Numeral.taken?_eq_some_iff]
    constructor
    · rintro ⟨_, ⟨w, hw, rfl⟩, rfl⟩
      exact ⟨w, hw, rfl⟩
    · rintro ⟨w, hw, rfl⟩
      exact ⟨_, ⟨w, hw, rfl⟩, rfl⟩

end Text.Leads

/-- The value of a numeral behind a sign or none. -/
def signedValue (sign : Option Char) (n : Numeral) : Float :=
  if sign = some '-' then -n.toFloat else n.toFloat

theorem readNumber?_eq {text blanks : List Char} {sign : Option Char} {rest : List Char}
    (h : Text.Leads text blanks sign rest) :
    readNumber? text =
      ((Numeral.scan? rest).map fun r => signedValue sign r.1).filter Float.isFinite := by
  rw [readNumber?, h.trimStart_eq]
  cases sign with
  | none =>
    have hstops := h.stops_sign rfl
    rw [Option.toList_none, List.nil_append]
    cases rest with
    | nil => rfl
    | cons c rest =>
      have hc : c ≠ '+' ∧ c ≠ '-' := by simpa [Glyph.holds] using hstops
      simp only [List.cons.injEq, hc.1, hc.2, false_and, false_implies, implies_true]
      cases Numeral.scan? (c :: rest) <;> rfl
  | some c =>
    have hc : c = '+' ∨ c = '-' := by simpa [Glyph.holds] using h.isSign c rfl
    rcases hc with rfl | rfl <;> simp only [Option.toList_some, List.singleton_append] <;>
      cases Numeral.scan? rest <;> rfl

theorem readNumber?_eq_some_iff {text blanks : List Char} {sign : Option Char} {rest : List Char}
    (h : Text.Leads text blanks sign rest) {x : Float} :
    readNumber? text = some x ↔ ∃ w : Spelling,
      w.IsLongest rest ∧ signedValue sign w.numeral = x ∧ x.isFinite = true := by
  rw [readNumber?_eq h, Option.filter_eq_some_iff, Option.map_eq_some_iff]
  constructor
  · rintro ⟨⟨⟨n, r⟩, hscan, rfl⟩, hx⟩
    obtain ⟨w, hw, rfl, -⟩ := Numeral.scan?_eq_some_iff.mp hscan
    exact ⟨w, hw, rfl, hx⟩
  · rintro ⟨w, hw, rfl, hx⟩
    obtain ⟨r, ht⟩ := hw.starts
    exact ⟨⟨(w.numeral, r), Numeral.scan?_eq_some_iff.mpr ⟨w, hw, rfl, ht.symm⟩, rfl⟩, hx⟩

/-- There is no number without a numeral, nor where its value is not finite. -/
theorem readNumber?_eq_none_iff {text blanks : List Char} {sign : Option Char} {rest : List Char}
    (h : Text.Leads text blanks sign rest) :
    readNumber? text = none ↔ (¬∃ w : Spelling, w.IsLongest rest) ∨
      ∃ w : Spelling, w.IsLongest rest ∧ (signedValue sign w.numeral).isFinite = false := by
  rw [Option.eq_none_iff_forall_ne_some]
  constructor
  · intro hnone
    by_cases hw : ∃ w : Spelling, w.IsLongest rest
    · obtain ⟨w, hw⟩ := hw
      refine .inr ⟨w, hw, Bool.eq_false_iff.mpr fun hfinite => ?_⟩
      exact hnone _ ((readNumber?_eq_some_iff h).mpr ⟨w, hw, rfl, hfinite⟩)
    · exact .inl hw
  · rintro hnone x hx
    obtain ⟨w, hw, rfl, hfinite⟩ := (readNumber?_eq_some_iff h).mp hx
    rcases hnone with hnone | ⟨v, hv, hinfinite⟩
    · exact hnone ⟨w, hw⟩
    · rw [Spelling.numeral_eq_of_text_eq hv.valid hw.valid (hv.text_eq hw), hfinite] at hinfinite
      cases hinfinite

/--
Where a text does not begin with a sign the reader of formulas and the pattern of displayed
numbers take the same of it, the longest numeral. A displayed text is read as the sign and the
longest numeral that the pattern matches behind its blanks; it has no number exactly if there
is no numeral or its value is not finite.
-/
theorem number_readers_agree :
    (∀ t, Stops Glyph.sign.holds t →
      Numeral.taken? t = Pattern.matched? t ∧
      (∀ u, Numeral.taken? t = some u ↔ ∃ w : Spelling, w.IsLongest t ∧ w.text = u) ∧
      ∀ x r, Formula.readLeaf t = .ok (.number x, r) ↔ ∃ w : Spelling, w.IsLongest t ∧
        w.numeral.toFloat = x ∧ Formula.skipGap (t.drop w.text.length) = r) ∧
    ∀ text, ∃ blanks sign rest, Text.Leads text blanks sign rest ∧
      (∀ u, Pattern.matched? (Text.trimStart text) = some u ↔
        ∃ w : Spelling, w.IsLongest rest ∧ sign.toList ++ w.text = u) ∧
      (∀ x, readNumber? text = some x ↔ ∃ w : Spelling, w.IsLongest rest ∧
        signedValue sign w.numeral = x ∧ x.isFinite = true) ∧
      (readNumber? text = none ↔ (¬∃ w : Spelling, w.IsLongest rest) ∨
        ∃ w : Spelling, w.IsLongest rest ∧ (signedValue sign w.numeral).isFinite = false) := by
  refine ⟨fun t hsign => ?_, fun text => ?_⟩
  · exact ⟨(Pattern.matched?_of_stops hsign).symm, fun _ => Numeral.taken?_eq_some_iff,
      fun _ _ => Formula.readLeaf_number_iff⟩
  · obtain ⟨blanks, sign, rest, h⟩ := Text.exists_leads text
    exact ⟨blanks, sign, rest, h, fun _ => h.matched?_eq_some_iff,
      fun _ => readNumber?_eq_some_iff h, readNumber?_eq_none_iff h⟩

/-- Both take the point and the exponent of `3.e2x`, and leave the letter. -/
theorem number_readers_agree_exponent :
    Numeral.taken? ['3', '.', 'e', '2', 'x'] = some ['3', '.', 'e', '2'] ∧
      Pattern.matched? ['3', '.', 'e', '2', 'x'] = some ['3', '.', 'e', '2'] := by
  have htaken : Numeral.taken? ['3', '.', 'e', '2', 'x'] = some ['3', '.', 'e', '2'] := rfl
  have hagree := (number_readers_agree.1 ['3', '.', 'e', '2', 'x'] rfl).1
  exact ⟨htaken, hagree ▸ htaken⟩

end Gridbook
