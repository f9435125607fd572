import Gridbook.Proofs.Characters

/-!
# Numerals as they are written

A spelling keeps what a numeral loses: whether there is a point, and how the
exponent is marked and signed. Scanning cuts off one valid spelling, and every
valid spelling is cut off whole where no character follows that could go on
with it.
-/
namespace Gridbook.Decimal

open Text (Stops)

/-- An exponent as it is written. -/
structure Power where
  mark : Char
  sign : Option Char
  digits : List Char

namespace Power

def text (p : Power) : List Char := p.mark :: (p.sign.toList ++ p.digits)

def value (p : Power) : Int :=
  if p.sign = some '-' then -(valueOf p.digits : Int) else valueOf p.digits

structure Valid (p : Power) : Prop where
  mark : p.mark = 'e' ∨ p.mark = 'E'
  sign : p.sign = none ∨ p.sign = some '+' ∨ p.sign = some '-'
  digits : ∀ c ∈ p.digits, c.isDigit = true
  digits_ne_nil : p.digits ≠ []

end Power

/-- A numeral as it is written. -/
structure Spelling where
  whole : List Char
  /-- The digits after the point, if there is a point. -/
  fraction : Option (List Char)
  power : Option Power

namespace Spelling

/-- The point and the digits after it. -/
def tail : Option (List Char) → List Char
  | none => []
  | some digits => '.' :: digits

/-- The exponent, where there is one. -/
def raised : Option Power → List Char
  | none => []
  | some p => p.text

def text (s : Spelling) : List Char := s.whole ++ tail s.fraction ++ raised s.power

def numeral (s : Spelling) : Numeral :=
  ⟨s.whole, s.fraction.getD [], (s.power.map Power.value).getD 0⟩

structure Valid (s : Spelling) : Prop where
  whole : ∀ c ∈ s.whole, c.isDigit = true
  fraction : ∀ c ∈ s.fraction.getD [], c.isDigit = true
  digits : s.whole ≠ [] ∨ s.fraction.getD [] ≠ []
  power : ∀ p ∈ s.power, p.Valid

end Spelling

/-- Characters that can go on with a numeral. -/
def goesOn (c : Char) : Bool := c.isDigit || c == '.' || c == 'e' || c == 'E'

theorem stops_digit_of_goesOn {t : List Char} (h : Stops goesOn t) : Stops Char.isDigit t := by
  cases t with
  | nil => trivial
  | cons c t =>
    simp only [Text.stops_cons, goesOn, Bool.or_eq_false_iff] at h ⊢
    exact h.1.1.1

theorem spanDigits_run {ds t : List Char} (hd : ∀ c ∈ ds, c.isDigit = true)
    (ht : Stops Char.isDigit t) : spanDigits (ds ++ t) = (ds, t) := by
  rw [spanDigits, List.span_eq_takeWhile_dropWhile, Text.takeWhile_run hd ht,
    Text.dropWhile_run hd ht]

namespace Numeral

open Spelling (tail raised)

theorem scanDigits?_run {w : List Char} {f : Option (List Char)} {t : List Char}
    (hw : ∀ c ∈ w, c.isDigit = true) (hf : ∀ c ∈ f.getD [], c.isDigit = true)
    (hne : w ≠ [] ∨ f.getD [] ≠ []) (hd : Stops Char.isDigit t) (hp : Stops (· == '.') t) :
    scanDigits? (w ++ tail f ++ t) = some ((w, f.getD []), t) := by
  cases f with
  | none =>
    have hne : w ≠ [] := hne.resolve_right (by simp)
    obtain ⟨d, w', rfl⟩ := List.exists_cons_of_ne_nil hne
    simp only [tail, List.append_nil, scanDigits?, spanDigits_run hw hd, Option.getD_none]
    cases t with
    | nil => rfl
    | cons c t =>
      have hc : c ≠ '.' := by simpa using hp
      split <;> simp_all
  | some fs =>
    have hstop : Stops Char.isDigit ('.' :: (fs ++ t)) := by
      rw [Text.stops_cons]
      decide
    simp only [tail, List.append_assoc, List.cons_append, scanDigits?, spanDigits_run hw hstop,
      Option.getD_some]
    have hspan : spanDigits (fs ++ t) = (fs, t) := spanDigits_run hf hd
    cases w with
    | nil =>
      have hfs : fs ≠ [] := by simpa using hne
      obtain ⟨d, fs', rfl⟩ := List.exists_cons_of_ne_nil hfs
      simp only [hspan]
    | cons d w => simp only [hspan]

/-- What is cut off as digits with a point is a run of digits, a point or none, and digits. -/
theorem shape_of_scanDigits? {s w f t : List Char} (h : scanDigits? s = some ((w, f), t)) :
    ∃ f' : Option (List Char), f'.getD [] = f ∧ s = w ++ tail f' ++ t ∧
      (∀ c ∈ w, c.isDigit = true) ∧ (∀ c ∈ f, c.isDigit = true) ∧ (w ≠ [] ∨ f ≠ []) := by
  obtain ⟨ds, u, rfl, hds, hu⟩ := Text.exists_run Char.isDigit s
  simp only [scanDigits?, spanDigits_run hds hu] at h
  cases u with
  | nil =>
    cases ds with
    | nil => simp at h
    | cons d ds =>
      simp only [Option.some.injEq, Prod.mk.injEq] at h
      obtain ⟨⟨rfl, rfl⟩, rfl⟩ := h
      exact ⟨none, rfl, by simp [tail], hds, by simp, by simp⟩
  | cons c u =>
    by_cases hc : c = '.'
    · subst hc
      obtain ⟨fs, v, rfl, hfs, hv⟩ := Text.exists_run Char.isDigit u
      cases ds with
      | nil =>
        simp only [spanDigits_run hfs hv] at h
        cases fs with
        | nil => simp at h
        | cons d fs =>
          simp only [Option.some.injEq, Prod.mk.injEq] at h
          obtain ⟨⟨rfl, rfl⟩, rfl⟩ := h
          exact ⟨some (d :: fs), rfl, by simp [tail], by simp, hfs, by simp⟩
      | cons d ds =>
        simp only [spanDigits_run hfs hv, Option.some.injEq, Prod.mk.injEq] at h
        obtain ⟨⟨rfl, rfl⟩, rfl⟩ := h
        exact ⟨some fs, rfl, by simp [tail], hds, hfs, by simp⟩
    · cases ds with
      | nil => simp_all
      | cons d ds =>
        have h' : some ((d :: ds, ([] : List Char)), c :: u) = some ((w, f), t) := by
          rw [← h]
          split <;> simp_all
        simp only [Option.some.injEq, Prod.mk.injEq] at h'
        obtain ⟨⟨rfl, rfl⟩, rfl⟩ := h'
        exact ⟨none, rfl, by simp [tail], hds, by simp, by simp⟩

/-- An exponent without a sign is the run of digits behind its mark. -/
theorem scanExponent_unsigned {mark : Char} {s : List Char} (hmark : mark = 'e' ∨ mark = 'E')
    (hs : Stops (fun c => c == '+' || c == '-') s) :
    scanExponent (mark :: s) =
      match spanDigits s with
      | ([], _) => (0, mark :: s)
      | (power, rest) => (valueOf power, rest) := by
  simp only [scanExponent, hmark, ↓reduceIte]
  cases s with
  | nil => rfl
  | cons c s =>
    simp only [Text.stops_cons, Bool.or_eq_false_iff, beq_eq_false_iff_ne] at hs
    split <;> simp_all

theorem scanExponent_text {p : Power} {t : List Char} (hp : p.Valid)
    (ht : Stops Char.isDigit t) : scanExponent (p.text ++ t) = (p.value, t) := by
  obtain ⟨mark, sign, digits⟩ := p
  obtain ⟨hmark, hsign, hdigits, hne⟩ := hp
  obtain ⟨d, ds, rfl⟩ := List.exists_cons_of_ne_nil hne
  have hspan := spanDigits_run hdigits ht
  simp only at hmark hsign hspan
  rcases hsign with rfl | rfl | rfl
  · have hd : d.isDigit = true := hdigits d (by simp)
    have hunsigned : Stops (fun c => c == '+' || c == '-') (d :: ds ++ t) := by
      rw [List.cons_append, Text.stops_cons, Bool.or_eq_false_iff, beq_eq_false_iff_ne,
        beq_eq_false_iff_ne]
      exact ⟨by rintro rfl; exact absurd hd (by decide), by rintro rfl; exact absurd hd (by decide)⟩
    rw [Power.text, Option.toList_none, List.nil_append, List.cons_append,
      scanExponent_unsigned hmark hunsigned, hspan]
    simp [Power.value]
  · simp only [Power.text, Option.toList_some, List.cons_append, List.nil_append, scanExponent,
      hmark, ↓reduceIte]
    rw [← List.cons_append, hspan]
    simp [Power.value]
  · simp only [Power.text, Option.toList_some, List.cons_append, List.nil_append, scanExponent,
      hmark, ↓reduceIte]
    rw [← List.cons_append, hspan]
    simp [Power.value]

theorem scanExponent_of_stops {t : List Char} (ht : Stops goesOn t) :
    scanExponent t = (0, t) := by
  cases t with
  | nil => rfl
  | cons c t =>
    have hc : ¬(c = 'e' ∨ c = 'E') := by
      rintro (rfl | rfl) <;> simp [goesOn] at ht
    simp only [scanExponent, hc, ↓reduceIte]

theorem scanExponent_raised {p : Option Power} {t : List Char} (hp : ∀ q ∈ p, q.Valid)
    (ht : Stops goesOn t) :
    scanExponent (raised p ++ t) = ((p.map Power.value).getD 0, t) := by
  cases p with
  | none => exact scanExponent_of_stops ht
  | some p => exact scanExponent_text (hp p rfl) (stops_digit_of_goesOn ht)

/-- What is read as an exponent is a valid one, or nothing. -/
theorem shape_of_scanExponent (s : List Char) :
    ∃ p : Option Power, (∀ q ∈ p, q.Valid) ∧ (p.map Power.value).getD 0 = (scanExponent s).1 ∧
      s = raised p ++ (scanExponent s).2 := by
  have absent (h : scanExponent s = (0, s)) :
      ∃ p : Option Power, (∀ q ∈ p, q.Valid) ∧
        (p.map Power.value).getD 0 = (scanExponent s).1 ∧ s = raised p ++ (scanExponent s).2 :=
    ⟨none, by simp, by simp [h], by simp [h, raised]⟩
  cases s with
  | nil => exact absent rfl
  | cons mark s =>
    by_cases hmark : mark = 'e' ∨ mark = 'E'
    · have present (sign : Option Char) (ds u : List Char)
          (hsign : sign = none ∨ sign = some '+' ∨ sign = some '-') (hs : s = sign.toList ++ ds ++ u)
          (hds : ∀ c ∈ ds, c.isDigit = true) (hne : ds ≠ []) (hu : Stops Char.isDigit u) :
          ∃ p : Option Power, (∀ q ∈ p, q.Valid) ∧
            (p.map Power.value).getD 0 = (scanExponent (mark :: s)).1 ∧
            mark :: s = raised p ++ (scanExponent (mark :: s)).2 := by
        have hp : (⟨mark, sign, ds⟩ : Power).Valid := ⟨hmark, hsign, hds, hne⟩
        have hscan := scanExponent_text hp hu
        have htext : mark :: s = (⟨mark, sign, ds⟩ : Power).text ++ u := by simp [Power.text, hs]
        rw [htext, hscan]
        exact ⟨some ⟨mark, sign, ds⟩, by simpa using hp, rfl, rfl⟩
      obtain ⟨sign, v, hsign, rfl, hv⟩ : ∃ (sign : Option Char) (v : List Char),
          (sign = none ∨ sign = some '+' ∨ sign = some '-') ∧ s = sign.toList ++ v ∧
            (sign = none → Stops (fun c => c == '+' || c == '-') v) := by
        cases s with
        | nil => exact ⟨none, [], by simp, rfl, by simp⟩
        | cons c s =>
          by_cases hplus : c = '+'
          · exact ⟨some '+', s, by simp, by simp [hplus], by simp⟩
          · by_cases hminus : c = '-'
            · exact ⟨some '-', s, by simp, by simp [hminus], by simp⟩
            · exact ⟨none, c :: s, by simp, rfl, by simp [hplus, hminus]⟩
      obtain ⟨ds, u, rfl, hds, hu⟩ := Text.exists_run Char.isDigit v
      cases ds with
      | cons d ds =>
        exact present sign (d :: ds) u hsign (by simp) hds (by simp) hu
      | nil =>
        apply absent
        have hspan : spanDigits u = ([], u) := @spanDigits_run [] u (by simp) hu
        rcases hsign with rfl | rfl | rfl
        · have hunsigned : Stops (fun c => c == '+' || c == '-') u := hv rfl
          rw [Option.toList_none, List.nil_append, List.nil_append,
            scanExponent_unsigned hmark hunsigned, hspan]
        · simp [scanExponent, hmark, hspan]
        · simp [scanExponent, hmark, hspan]
    · exact absent (by simp only [scanExponent, hmark, ↓reduceIte])

/-- Scanning cuts off a valid spelling of the numeral that it gives. -/
theorem exists_spelling {s : List Char} {n : Numeral} {t : List Char}
    (h : scan? s = some (n, t)) :
    ∃ w : Spelling, w.Valid ∧ w.numeral = n ∧ s = w.text ++ t := by
  simp only [scan?, Option.map_eq_some_iff] at h
  obtain ⟨⟨⟨whole, fraction⟩, u⟩, hdigits, h⟩ := h
  obtain ⟨f, rfl, rfl, hw, hf, hne⟩ := shape_of_scanDigits? hdigits
  obtain ⟨p, hp, hvalue, hu⟩ := shape_of_scanExponent u
  simp only [Prod.mk.injEq] at h
  obtain ⟨rfl, rfl⟩ := h
  refine ⟨⟨whole, f, p⟩, ⟨hw, hf, hne, hp⟩, ?_, ?_⟩
  · simp [Spelling.numeral, hvalue]
  · rw [Spelling.text, List.append_assoc (whole ++ tail f), ← hu]

/-- A valid spelling is scanned whole where nothing follows that goes on with it. -/
theorem scan?_text {w : Spelling} {t : List Char} (hw : w.Valid) (ht : Stops goesOn t) :
    scan? (w.text ++ t) = some (w.numeral, t) := by
  obtain ⟨whole, fraction, power⟩ := w
  obtain ⟨hwhole, hfraction, hne, hpower⟩ := hw
  have hstop : Stops Char.isDigit (raised power ++ t) ∧ Stops (· == '.') (raised power ++ t) := by
    cases power with
    | none =>
      cases t with
      | nil => exact ⟨trivial, trivial⟩
      | cons c t =>
        simp only [Text.stops_cons, goesOn, Bool.or_eq_false_iff] at ht
        exact ⟨ht.1.1.1, ht.1.1.2⟩
    | some p =>
      have hmark := (hpower p rfl).mark
      refine ⟨?_, ?_⟩ <;> simp only [raised, Power.text, List.cons_append, Text.stops_cons] <;>
        rcases hmark with h | h <;> rw [h] <;> decide
  have hdigits := scanDigits?_run hwhole hfraction hne hstop.1 hstop.2
  simp only [scan?, Spelling.text, List.append_assoc (whole ++ tail fraction), hdigits,
    Option.map_some, scanExponent_raised hpower ht, Spelling.numeral]

end Numeral

end Gridbook.Decimal
