import Gridbook.Proofs.NumberPattern
import Gridbook.Proofs.Spelling

/-!
# The longest numeral

The scan for numerals is the run through the phases of the pattern from behind its sign. A
valid spelling leads to a phase in which a number may end, so what the scan cuts off is the
longest spelling of a numeral that stands at the start of the text.
-/
namespace Gridbook

open Text (Stops)
open Decimal (Numeral Power Spelling spanDigits)

namespace Decimal.Numeral

/-- The scan from a point on, behind which digits must stand. -/
theorem scanDigits?_point {fs u : List Char} (hfs : ∀ c ∈ fs, c.isDigit = true)
    (hu : Stops Char.isDigit u) :
    scanDigits? ('.' :: (fs ++ u)) = if fs = [] then none else some (([], fs), u) := by
  have hnone : spanDigits ('.' :: (fs ++ u)) = ([], '.' :: (fs ++ u)) :=
    @spanDigits_run [] _ (by simp) rfl
  simp only [scanDigits?, hnone, spanDigits_run hfs hu]
  cases fs <;> rfl

/-- The scan of digits and a point, behind which digits may stand. -/
theorem scanDigits?_whole_point {d : Char} {ds fs u : List Char}
    (hds : ∀ c ∈ d :: ds, c.isDigit = true) (hfs : ∀ c ∈ fs, c.isDigit = true)
    (hu : Stops Char.isDigit u) :
    scanDigits? (d :: ds ++ '.' :: (fs ++ u)) = some ((d :: ds, fs), u) := by
  have hpoint : Stops Char.isDigit ('.' :: (fs ++ u)) := rfl
  simp only [scanDigits?, spanDigits_run hds hpoint, spanDigits_run hfs hu]

/-- A text that begins with neither a digit nor a point begins with no numeral. -/
theorem scanDigits?_of_stops {t : List Char} (hdigit : Stops Char.isDigit t)
    (hpoint : Stops (· == '.') t) : scanDigits? t = none := by
  have hnone : spanDigits t = ([], t) := @spanDigits_run [] _ (by simp) hdigit
  cases t with
  | nil => rfl
  | cons c t =>
    have hc : c ≠ '.' := by simpa using hpoint
    simp [scanDigits?, hnone, hc]

end Decimal.Numeral

namespace Pattern

namespace Phase

theorem step?_digit {φ ψ : Phase} (h : φ.next? .digit = some ψ) {c : Char}
    (hc : c.isDigit = true) : φ.step? c = some ψ := by
  have hdigit : Glyph.digit.holds c = true := hc
  rw [step?_eq hdigit, h]

theorem after?_digits {φ : Phase} (h : φ.next? .digit = some φ) {ds : List Char}
    (hds : ∀ c ∈ ds, c.isDigit = true) (t : List Char) : φ.after? (ds ++ t) = φ.after? t := by
  induction ds with
  | nil => rfl
  | cons d ds ih =>
    rw [List.cons_append, after?, step?_digit h (hds d List.mem_cons_self), Option.bind_some,
      ih fun c hc => hds c (List.mem_cons_of_mem d hc)]

/-- Digits of which there is one at least lead to the phase that takes more of them. -/
theorem after?_some_digits {φ : Phase} (ψ : Phase) (h : φ.next? .digit = some ψ)
    (hψ : ψ.next? .digit = some ψ) {ds : List Char} (hds : ∀ c ∈ ds, c.isDigit = true)
    (hne : ds ≠ []) (t : List Char) : φ.after? (ds ++ t) = ψ.after? t := by
  obtain ⟨d, ds, rfl⟩ := List.exists_cons_of_ne_nil hne
  rw [List.cons_append, after?, step?_digit h (hds d List.mem_cons_self), Option.bind_some,
    after?_digits hψ fun c hc => hds c (List.mem_cons_of_mem d hc)]

theorem after?_power {p : Power} (hp : p.Valid) :
    mark.after? (p.sign.toList ++ p.digits) = some power := by
  have hdigits {φ : Phase} (h : φ.next? .digit = some power) : φ.after? p.digits = some power := by
    have hrun := after?_some_digits power h rfl hp.digits hp.digits_ne_nil []
    rwa [List.append_nil] at hrun
  have hsigned {c : Char} (hc : Glyph.sign.holds c = true) :
      mark.after? (c :: p.digits) = some power := by
    rw [after?, step?_eq hc, next?, Option.bind_some, hdigits rfl]
  rcases hp.sign with hsign | hsign | hsign <;> rw [hsign]
  · exact hdigits rfl
  · exact hsigned rfl
  · exact hsigned rfl

/-- An exponent leads from a phase that may end to another one. -/
theorem exists_after?_raised (φ : Phase) (hφ : φ.accepts = true) (hmark : φ.next? .mark = some mark)
    {p : Option Power} (hp : ∀ q ∈ p, q.Valid) :
    ∃ ψ, φ.after? (Spelling.raised p) = some ψ ∧ ψ.accepts = true := by
  cases p with
  | none => exact ⟨φ, rfl, hφ⟩
  | some p =>
    have hholds : Glyph.mark.holds p.mark = true := by
      simpa [Glyph.holds] using (hp p rfl).mark
    have hstep : φ.step? p.mark = some mark := (step?_eq hholds).trans hmark
    refine ⟨power, ?_, rfl⟩
    rw [Spelling.raised, Power.text, after?, hstep, Option.bind_some, after?_power (hp p rfl)]

/-- A number may end after the spelling of a numeral. -/
theorem exists_after?_text {w : Spelling} (hw : w.Valid) :
    ∃ ψ, signed.after? w.text = some ψ ∧ ψ.accepts = true := by
  obtain ⟨ds, f, p⟩ := w
  obtain ⟨hwhole, hfraction, hdigits, hpower⟩ := hw
  simp only at hwhole hfraction hdigits hpower
  simp only [Spelling.text, List.append_assoc]
  by_cases hds : ds = []
  · subst hds
    cases f with
    | none => simp at hdigits
    | some fs =>
      rw [Option.getD_some] at hfraction
      have hstep : signed.step? '.' = some point := rfl
      have hfs : fs ≠ [] := by simpa using hdigits
      rw [List.nil_append, Spelling.tail, List.cons_append, after?, hstep, Option.bind_some,
        after?_some_digits decimals rfl rfl hfraction hfs]
      exact exists_after?_raised decimals rfl rfl hpower
  · rw [after?_some_digits whole rfl rfl hwhole hds]
    cases f with
    | none => exact exists_after?_raised whole rfl rfl hpower
    | some fs =>
      rw [Option.getD_some] at hfraction
      have hstep : whole.step? '.' = some fraction := rfl
      rw [Spelling.tail, List.cons_append, after?, hstep, Option.bind_some,
        after?_digits rfl hfraction]
      exact exists_after?_raised fraction rfl rfl hpower

theorem rest?_digits {φ : Phase} (hφ : φ.accepts = true) (h : φ.next? .digit = some φ)
    {ds : List Char} (hds : ∀ c ∈ ds, c.isDigit = true) (t : List Char) :
    φ.rest? (ds ++ t) = φ.rest? t := by
  induction ds with
  | nil => rfl
  | cons d ds ih =>
    rw [List.cons_append, rest?, step?_digit h (hds d List.mem_cons_self), Option.bind_some,
      ih fun c hc => hds c (List.mem_cons_of_mem d hc), Option.or_of_isSome (isSome_rest? hφ t)]

/-- The first of some digits leads to the phase that takes the others. -/
theorem rest?_some_digits {φ : Phase} (ψ : Phase) (h : φ.next? .digit = some ψ)
    (hψ : ψ.accepts = true) (hloop : ψ.next? .digit = some ψ) {d : Char} {ds : List Char}
    (hds : ∀ c ∈ d :: ds, c.isDigit = true) (t : List Char) :
    φ.rest? (d :: ds ++ t) = ψ.rest? t := by
  rw [List.cons_append, rest?, step?_digit h (hds d List.mem_cons_self), Option.bind_some,
    rest?_digits hψ hloop fun c hc => hds c (List.mem_cons_of_mem d hc),
    Option.or_of_isSome (isSome_rest? hψ t)]

/-- A phase that waits for digits alone ends with them. -/
theorem step?_of_not_digit {φ : Phase} (hsign : φ.next? .sign = none)
    (hpoint : φ.next? .point = none) (hmark : φ.next? .mark = none) {c : Char}
    (hc : c.isDigit = false) : φ.step? c = none := by
  refine step?_eq_none fun g hg => ?_
  cases g with
  | digit => exact absurd (show c.isDigit = true from hg) (by simp [hc])
  | sign => exact hsign
  | point => exact hpoint
  | mark => exact hmark

/-- What follows the digits at the start of a text, if there are any. -/
def digitsRest? (s : List Char) : Option (List Char) :=
  match spanDigits s with
  | ([], _) => none
  | (_, rest) => some rest

/-- Behind the sign of an exponent there must be digits. -/
theorem rest?_powerSign (s : List Char) : powerSign.rest? s = digitsRest? s := by
  obtain ⟨ds, u, rfl, hds, hu⟩ := Text.exists_run Char.isDigit s
  rw [digitsRest?, Decimal.spanDigits_run hds hu]
  cases ds with
  | nil =>
    cases u with
    | nil => rfl
    | cons c u =>
      have hstep : powerSign.step? c = none := step?_of_not_digit rfl rfl rfl hu
      simp [rest?, hstep, accepts]
  | cons d ds =>
    rw [rest?_some_digits power rfl rfl rfl hds]
    cases u with
    | nil => rfl
    | cons c u =>
      have hstep : power.step? c = none := step?_of_not_digit rfl rfl rfl hu
      simp [rest?, hstep, accepts]

/-- Where there is no sign it makes no difference that one might stand there. -/
theorem rest?_of_stops_sign (φ ψ : Phase) (haccepts : φ.accepts = ψ.accepts)
    (hdigit : φ.next? .digit = ψ.next? .digit) (hpoint : φ.next? .point = ψ.next? .point)
    (hmark : φ.next? .mark = ψ.next? .mark) {s : List Char} (hs : Stops Glyph.sign.holds s) :
    φ.rest? s = ψ.rest? s := by
  cases s with
  | nil => rw [rest?, rest?, haccepts]
  | cons c s =>
    have hstep : φ.step? c = ψ.step? c := by
      refine step?_congr fun g hg => ?_
      cases g with
      | digit => exact hdigit
      | sign => exact absurd hg (by simpa using hs)
      | point => exact hpoint
      | mark => exact hmark
    rw [rest?, rest?, haccepts, hstep]

/-- From the mark of an exponent on the run takes the exponent, or nothing if there is none. -/
theorem rest?_exponent {c : Char} (hc : c = 'e' ∨ c = 'E') (s : List Char) :
    (mark.rest? s).or (some (c :: s)) = some (Numeral.scanExponent (c :: s)).2 := by
  by_cases hs : Stops Glyph.sign.holds s
  · have hrun : mark.rest? s = powerSign.rest? s :=
      rest?_of_stops_sign mark powerSign rfl rfl rfl rfl hs
    rw [hrun, rest?_powerSign, Numeral.scanExponent_unsigned hc hs, digitsRest?]
    rcases spanDigits s with ⟨_ | ⟨_, _⟩, _⟩ <;> rfl
  · cases s with
    | nil => exact absurd trivial hs
    | cons d s =>
      have hd : Glyph.sign.holds d = true := by simpa using hs
      have hstep : mark.step? d = some powerSign := step?_eq hd
      have hscan :
          (Numeral.scanExponent (c :: d :: s)).2 = (digitsRest? s).getD (c :: d :: s) := by
        have hd : d = '+' ∨ d = '-' := by simpa [Glyph.holds] using hd
        rcases hd with rfl | rfl <;> simp only [Numeral.scanExponent, hc, if_true, digitsRest?] <;>
          rcases spanDigits s with ⟨_ | ⟨_, _⟩, _⟩ <;> rfl
      rw [hscan, rest?, hstep, Option.bind_some, rest?_powerSign]
      cases digitsRest? s <;> rfl

/-- Behind its digits a number may go on with an exponent. -/
theorem rest?_eq_scanExponent {φ : Phase} (hφ : φ.accepts = true)
    (hmark : φ.next? .mark = some mark) (hsign : φ.next? .sign = none) {s : List Char}
    (hdigit : Stops Char.isDigit s) (hpoint : φ.next? .point = none ∨ Stops (· == '.') s) :
    φ.rest? s = some (Numeral.scanExponent s).2 := by
  cases s with
  | nil => simp [rest?, hφ, Numeral.scanExponent]
  | cons c s =>
    by_cases hc : c = 'e' ∨ c = 'E'
    · have hholds : Glyph.mark.holds c = true := by simpa [Glyph.holds] using hc
      rw [rest?, step?_eq hholds, hmark, Option.bind_some, hφ, if_pos rfl, rest?_exponent hc]
    · have hstep : φ.step? c = none := by
        refine step?_eq_none fun g hg => ?_
        cases g with
        | digit => simp_all [Glyph.holds]
        | sign => exact hsign
        | point => exact hpoint.resolve_right (by simpa [Glyph.holds] using hg)
        | mark => exact absurd (by simpa [Glyph.holds] using hg) hc
      simp [rest?, hstep, hφ, Numeral.scanExponent, hc]

/-- Behind a point without digits in front of it there must be digits. -/
theorem rest?_point {fs u : List Char} (hfs : ∀ c ∈ fs, c.isDigit = true)
    (hu : Stops Char.isDigit u) :
    point.rest? (fs ++ u) = if fs = [] then none else some (Numeral.scanExponent u).2 := by
  cases fs with
  | nil =>
    cases u with
    | nil => rfl
    | cons c u =>
      have hstep : point.step? c = none := step?_of_not_digit rfl rfl rfl hu
      simp [rest?, hstep, accepts]
  | cons d fs =>
    rw [rest?_some_digits decimals rfl rfl rfl hfs,
      rest?_eq_scanExponent rfl rfl rfl hu (.inl rfl), if_neg (List.cons_ne_nil d fs)]

theorem rest?_signed_of_stops {t : List Char} (hdigit : Stops Char.isDigit t)
    (hpoint : Stops (· == '.') t) : signed.rest? t = none := by
  cases t with
  | nil => rfl
  | cons c t =>
    have hstep : signed.step? c = none := by
      refine step?_eq_none fun g hg => ?_
      cases g with
      | digit => simp_all [Glyph.holds]
      | sign => rfl
      | point => simp_all [Glyph.holds]
      | mark => rfl
    simp [rest?, hstep, accepts]

/-- The scan for numerals is a run from the phase behind a sign. -/
theorem rest?_signed (t : List Char) : signed.rest? t = (Numeral.scan? t).map Prod.snd := by
  rw [Numeral.scan?, Option.map_map]
  change _ = (Numeral.scanDigits? t).map fun r => (Numeral.scanExponent r.2).2
  obtain ⟨ds, u, rfl, hds, hu⟩ := Text.exists_run Char.isDigit t
  by_cases hpoint : Stops (· == '.') u
  · cases ds with
    | nil =>
      rw [List.nil_append, rest?_signed_of_stops hu hpoint,
        Numeral.scanDigits?_of_stops hu hpoint]
      rfl
    | cons d ds =>
      have hdigits := Numeral.scanDigits?_run (f := none) hds (by simp) (.inl (by simp)) hu hpoint
      rw [Spelling.tail, List.append_nil] at hdigits
      rw [rest?_some_digits whole rfl rfl rfl hds,
        rest?_eq_scanExponent rfl rfl rfl hu (.inr hpoint), hdigits]
      rfl
  · obtain ⟨v, rfl⟩ : ∃ v, u = '.' :: v := by
      cases u with
      | nil => exact absurd trivial hpoint
      | cons c v => exact ⟨v, by simpa using hpoint⟩
    obtain ⟨fs, w, rfl, hfs, hw⟩ := Text.exists_run Char.isDigit v
    cases ds with
    | nil =>
      have hstep : signed.step? '.' = some point := rfl
      rw [List.nil_append, rest?, hstep, Option.bind_some, rest?_point hfs hw,
        Numeral.scanDigits?_point hfs hw]
      split <;> rfl
    | cons d ds =>
      have hstep : whole.step? '.' = some fraction := rfl
      rw [rest?_some_digits whole rfl rfl rfl hds, rest?, hstep, Option.bind_some,
        rest?_digits rfl rfl hfs, rest?_eq_scanExponent rfl rfl rfl hw (.inl rfl),
        Numeral.scanDigits?_whole_point hds hfs hw]
      rfl

/-- In front of a sign the run goes on behind it. -/
theorem rest?_start_sign {c : Char} (hc : Glyph.sign.holds c = true) (t : List Char) :
    start.rest? (c :: t) = signed.rest? t := by
  have hstep : start.step? c = some signed := step?_eq hc
  rw [rest?, hstep, Option.bind_some]
  exact Option.or_none

theorem rest?_start_of_stops {t : List Char} (ht : Stops Glyph.sign.holds t) :
    start.rest? t = signed.rest? t :=
  rest?_of_stops_sign start signed rfl rfl rfl rfl ht

end Phase

end Pattern

namespace Decimal

/-- The longest numeral at the start of a text, as it is written there. -/
structure Spelling.IsLongest (w : Spelling) (t : List Char) : Prop where
  valid : w.Valid
  starts : w.text <+: t
  longest : ∀ v : Spelling, v.Valid → v.text <+: t → v.text.length ≤ w.text.length

namespace Spelling

/-- What is written tells which numeral it is. -/
theorem numeral_eq_of_text_eq {w v : Spelling} (hw : w.Valid) (hv : v.Valid)
    (h : w.text = v.text) : w.numeral = v.numeral := by
  have hscan := Numeral.scan?_text hw (Text.stops_nil _)
  rw [h, Numeral.scan?_text hv (Text.stops_nil _)] at hscan
  exact (Prod.mk.inj (Option.some.inj hscan)).1.symm

/-- There is one longest text only. -/
theorem IsLongest.text_eq {w v : Spelling} {t : List Char} (hw : w.IsLongest t)
    (hv : v.IsLongest t) : w.text = v.text := by
  have hlength : w.text.length = v.text.length :=
    Nat.le_antisymm (hv.longest w hw.valid hw.starts) (hw.longest v hv.valid hv.starts)
  exact (List.prefix_of_prefix_length_le hw.starts hv.starts hlength.le).eq_of_length hlength

/-- The scan finds a numeral where one is written, and leaves no more than what follows it. -/
theorem Valid.exists_scan? {w : Spelling} (hw : w.Valid) (t : List Char) :
    ∃ n r, Numeral.scan? (w.text ++ t) = some (n, r) ∧ r <:+ t := by
  obtain ⟨ψ, hafter, haccepts⟩ := Pattern.Phase.exists_after?_text hw
  obtain ⟨r, hr, hsuffix⟩ := Pattern.Phase.exists_rest?_of_after? hafter haccepts t
  rw [Pattern.Phase.rest?_signed, Option.map_eq_some_iff] at hr
  obtain ⟨⟨n, r⟩, hscan, rfl⟩ := hr
  exact ⟨n, r, hscan, hsuffix⟩

end Spelling

theorem Numeral.exists_isLongest {t : List Char} {n : Numeral} {r : List Char}
    (h : scan? t = some (n, r)) :
    ∃ w : Spelling, w.IsLongest t ∧ w.numeral = n ∧ t = w.text ++ r := by
  obtain ⟨w, hw, hnumeral, ht⟩ := exists_spelling h
  refine ⟨w, ⟨hw, ⟨r, ht.symm⟩, ?_⟩, hnumeral, ht⟩
  rintro v hv ⟨u, hu⟩
  obtain ⟨m, r', hscan, hsuffix⟩ := hv.exists_scan? u
  rw [hu, h, Option.some.injEq, Prod.mk.injEq] at hscan
  obtain ⟨-, rfl⟩ := hscan
  have hlength : (w.text ++ r).length = (v.text ++ u).length := by rw [← ht, hu]
  have hrest : r.length ≤ u.length := hsuffix.length_le
  simp only [List.length_append] at hlength
  omega

/-- The scan for numerals cuts off the longest one. -/
theorem Numeral.scan?_eq_some_iff {t : List Char} {n : Numeral} {r : List Char} :
    scan? t = some (n, r) ↔ ∃ w : Spelling, w.IsLongest t ∧ w.numeral = n ∧ t = w.text ++ r := by
  refine ⟨exists_isLongest, ?_⟩
  rintro ⟨w, hw, rfl, ht⟩
  obtain ⟨m, r', hscan, -⟩ := hw.valid.exists_scan? r
  rw [← ht] at hscan
  obtain ⟨v, hv, rfl, ht'⟩ := exists_isLongest hscan
  have htext : v.text = w.text := hv.text_eq hw
  have hrest : r' = r := by
    rw [ht, htext] at ht'
    exact (List.append_cancel_left ht').symm
  rw [hscan, hrest, Spelling.numeral_eq_of_text_eq hv.valid hw.valid htext]

theorem Numeral.scan?_eq_none_iff {t : List Char} :
    scan? t = none ↔ ¬∃ w : Spelling, w.IsLongest t := by
  rw [Option.eq_none_iff_forall_not_mem]
  constructor
  · rintro h ⟨w, hw⟩
    obtain ⟨r, ht⟩ := hw.starts
    exact h (w.numeral, r) (scan?_eq_some_iff.mpr ⟨w, hw, rfl, ht.symm⟩)
  · rintro h ⟨n, r⟩ hscan
    obtain ⟨w, hw, -⟩ := scan?_eq_some_iff.mp hscan
    exact h ⟨w, hw⟩

end Decimal

end Gridbook
