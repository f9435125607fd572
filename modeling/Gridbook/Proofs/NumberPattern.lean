import Gridbook.Pattern.Search
import Gridbook.Proofs.Characters
import Mathlib

/-!
# The pattern of displayed numbers

The number at the start of a displayed text can be looked for with a pattern. Its program
stands in one place at a time: the sets of a place have no character in common, so at most
one way goes on. Hence a search is a run through nine phases, and its match ends where the
run was last in a phase in which a number may end.
-/
namespace Gridbook.Pattern

open Text (CodeSet)

/-- A sign or none, digits and a point with one digit at least, and an exponent or none. -/
def numberPattern : String := "^[+-]?(?:[0-9]+(?:\\.[0-9]*)?|\\.[0-9]+)(?:[eE][+-]?[0-9]+)?"

/-- The characters of a number by their use. -/
inductive Glyph where
  | digit
  | sign
  | point
  | mark
  deriving DecidableEq, Repr

namespace Glyph

def holds : Glyph → Char → Bool
  | digit, c => c.isDigit
  | sign, c => c == '+' || c == '-'
  | point, c => c == '.'
  | mark, c => c == 'e' || c == 'E'

def set : Glyph → CodeSet
  | digit => ⟨[(48, 57)]⟩
  | sign => ⟨[(43, 43), (45, 45)]⟩
  | point => ⟨[(46, 46)]⟩
  | mark => ⟨[(69, 69), (101, 101)]⟩

/-- The numbers of the characters of each use; there are none that two of them share. -/
theorem holds_iff_toNat {g : Glyph} {c : Char} : g.holds c = true ↔
    match g with
    | digit => 48 ≤ c.toNat ∧ c.toNat ≤ 57
    | sign => c.toNat = 43 ∨ c.toNat = 45
    | point => c.toNat = 46
    | mark => c.toNat = 69 ∨ c.toNat = 101 := by
  cases g with
  | digit => exact Text.isDigit_iff_toNat
  | sign => simp [holds, ← Char.toNat_inj]
  | point => simp [holds, ← Char.toNat_inj]
  | mark => simp [holds, ← Char.toNat_inj, or_comm]

theorem contains_set (g : Glyph) (c : Char) : g.set.contains c = g.holds c := by
  rw [Bool.eq_iff_iff, holds_iff_toNat]
  cases g <;> simp [set, CodeSet.contains, CodeSet.containsIn] <;> omega

end Glyph

/-- The use of a character in a number. -/
def glyph? (c : Char) : Option Glyph :=
  [Glyph.digit, .sign, .point, .mark].find? (·.holds c)

theorem glyph?_eq_some_iff {c : Char} {g : Glyph} : glyph? c = some g ↔ g.holds c = true := by
  have hdigit := @Glyph.holds_iff_toNat .digit c
  have hsign := @Glyph.holds_iff_toNat .sign c
  have hpoint := @Glyph.holds_iff_toNat .point c
  have hmark := @Glyph.holds_iff_toNat .mark c
  cases g <;> grind [glyph?]

/-- What of a number has been read. -/
inductive Phase where
  | start
  /-- A sign. -/
  | signed
  /-- Digits before a point. -/
  | whole
  /-- Digits, a point and perhaps digits. -/
  | fraction
  /-- A point without digits. -/
  | point
  /-- A point and digits. -/
  | decimals
  /-- The mark of an exponent. -/
  | mark
  /-- The sign of an exponent. -/
  | powerSign
  /-- Digits of an exponent. -/
  | power
  deriving DecidableEq, Repr

namespace Phase

/-- A number may end in the phase. -/
def accepts : Phase → Bool
  | whole | fraction | decimals | power => true
  | _ => false

def next? : Phase → Glyph → Option Phase
  | start, .sign => some signed
  | start, .digit | signed, .digit | whole, .digit => some whole
  | start, .point | signed, .point => some point
  | whole, .point | fraction, .digit => some fraction
  | point, .digit | decimals, .digit => some decimals
  | whole, .mark | fraction, .mark | decimals, .mark => some mark
  | mark, .sign => some powerSign
  | mark, .digit | powerSign, .digit | power, .digit => some power
  | _, _ => none

def step? (φ : Phase) (c : Char) : Option Phase := (glyph? c).bind φ.next?

theorem step?_eq {φ : Phase} {c : Char} {g : Glyph} (hc : g.holds c = true) :
    φ.step? c = φ.next? g := by
  rw [step?, glyph?_eq_some_iff.mpr hc, Option.bind_some]

theorem step?_congr {φ ψ : Phase} {c : Char}
    (h : ∀ g : Glyph, g.holds c = true → φ.next? g = ψ.next? g) : φ.step? c = ψ.step? c := by
  rw [step?, step?]
  cases hglyph : glyph? c with
  | none => rfl
  | some g => exact h g (glyph?_eq_some_iff.mp hglyph)

theorem step?_eq_none {φ : Phase} {c : Char}
    (h : ∀ g : Glyph, g.holds c = true → φ.next? g = none) : φ.step? c = none := by
  rw [step?]
  cases hglyph : glyph? c with
  | none => rfl
  | some g => exact h g (glyph?_eq_some_iff.mp hglyph)

/-- What follows the longest text that leads from the phase to one in which a number may end. -/
def rest? (φ : Phase) : List Char → Option (List Char)
  | [] => if φ.accepts then some [] else none
  | c :: t => ((φ.step? c).bind fun ψ => ψ.rest? t).or (if φ.accepts then some (c :: t) else none)

/-- The phase after a text. -/
def after? (φ : Phase) : List Char → Option Phase
  | [] => some φ
  | c :: t => (φ.step? c).bind fun ψ => ψ.after? t

theorem isSuffix_of_rest? {φ : Phase} {t r : List Char} (h : φ.rest? t = some r) : r <:+ t := by
  induction t generalizing φ with
  | nil =>
    rw [rest?] at h
    split at h <;> simp_all
  | cons c t ih =>
    rw [rest?, Option.or_eq_some_iff] at h
    rcases h with h | ⟨-, h⟩
    · obtain ⟨ψ, -, hr⟩ := Option.bind_eq_some_iff.mp h
      exact (ih hr).trans (List.suffix_cons c t)
    · split at h
      · obtain rfl := Option.some.inj h
        exact List.suffix_refl _
      · cases h

/-- From a phase in which a number may end some rest is found. -/
theorem isSome_rest? {φ : Phase} (h : φ.accepts = true) (t : List Char) :
    (φ.rest? t).isSome = true := by
  cases t <;> simp [rest?, h]

/-- No text that leads to such a phase is longer than the one that is found. -/
theorem exists_rest?_of_after? {φ ψ : Phase} {u : List Char} (h : φ.after? u = some ψ)
    (hψ : ψ.accepts = true) (t : List Char) : ∃ r, φ.rest? (u ++ t) = some r ∧ r <:+ t := by
  induction u generalizing φ with
  | nil =>
    obtain rfl := Option.some.inj h
    obtain ⟨r, hr⟩ := Option.isSome_iff_exists.mp (isSome_rest? hψ t)
    exact ⟨r, hr, isSuffix_of_rest? hr⟩
  | cons c u ih =>
    obtain ⟨χ, hstep, hafter⟩ := Option.bind_eq_some_iff.mp h
    obtain ⟨r, hr, hsuffix⟩ := ih hafter
    exact ⟨r, by simp [rest?, hstep, hr], hsuffix⟩

/-- Where a way through the program stands in the phase, before any character is taken. -/
def place : Phase → Nat
  | start => 19
  | signed => 17
  | whole => 15
  | fraction => 11
  | point => 9
  | decimals => 8
  | mark => 5
  | powerSign => 3
  | power => 2

/-- The places from which the way goes on with a character. -/
def waiting : Phase → List Nat
  | start => [18, 16, 10]
  | signed => [16, 10]
  | whole => [16, 13, 6]
  | fraction => [12, 6]
  | point => [9]
  | decimals => [9, 6]
  | mark => [4, 3]
  | powerSign | power => [3]

end Phase

def numberProgram : Program where
  code := #[
    .accept, .save 1 0,
    .fork 3 1, .set Glyph.digit.set 2, .set Glyph.sign.set 3, .fork 4 3,
    .set Glyph.mark.set 5, .fork 6 1,
    .fork 9 7, .set Glyph.digit.set 8, .set Glyph.point.set 9,
    .fork 12 7, .set Glyph.digit.set 11, .set Glyph.point.set 11, .fork 13 7, .fork 16 14,
    .set Glyph.digit.set 15, .fork 16 10,
    .set Glyph.sign.set 17, .fork 18 17, .look .start 19, .save 0 20]
  start := 21
  names := []

theorem compile?_numberPattern : compile? numberPattern = some numberProgram := by cbv

namespace Phase

/-- The threads that wait in a phase; the last one accepts, if a number may end here. -/
def threads (φ : Phase) (slots accepted : Slots) : List Thread :=
  φ.waiting.map (·, slots) ++ if φ.accepts then [(0, accepted)] else []

/-- In the middle of a text nothing begins, so a new thread from the start has no effect. -/
theorem closure_phase (φ : Phase) (b : Char) (after : Option Char) (position : Nat)
    (slots : Slots) (anew : Bool) :
    closure numberProgram.code (some b) after position
        (if anew then [(φ.place, slots)] ++ [(numberProgram.start, [])] else [(φ.place, slots)]) =
      φ.threads slots ((1, position) :: slots) := by
  cases φ <;> cases anew <;> rfl

theorem closure_late (b : Char) (after : Option Char) (position : Nat) :
    closure numberProgram.code (some b) after position [(numberProgram.start, [])] = [] := rfl

theorem closure_start (after : Option Char) (accepted : Slots) :
    closure numberProgram.code none after 0 [(numberProgram.start, [])] =
      start.threads [(0, 0)] accepted := rfl

/-- At the end of a text no thread goes on. -/
theorem advance_none (φ : Phase) (slots accepted : Slots) :
    advance numberProgram.code none (φ.threads slots accepted) [] =
      ([], if φ.accepts then some accepted else none) := by
  cases φ <;> rfl

theorem advance_set {i after : Nat} {g : Glyph}
    (hi : numberProgram.code[i]? = some (.set g.set after)) (c : Char) (slots : Slots)
    (threads passed : List Thread) :
    advance numberProgram.code (some c) ((i, slots) :: threads) passed =
      advance numberProgram.code (some c) threads
        (if glyph? c = some g then (after, slots) :: passed else passed) := by
  simp [advance, hi, Glyph.contains_set, glyph?_eq_some_iff]

/-- A character leads one thread on at most. -/
theorem advance_some (φ : Phase) (c : Char) (slots accepted : Slots) :
    advance numberProgram.code (some c) (φ.threads slots accepted) [] =
      ((φ.step? c).toList.map fun ψ => (ψ.place, slots),
        if φ.accepts then some accepted else none) := by
  cases φ <;>
    simp only [threads, waiting, accepts, step?, List.map_cons, List.map_nil, List.cons_append,
      List.nil_append, if_true, Bool.false_eq_true, if_false,
      @advance_set 3 2 .digit rfl, @advance_set 4 3 .sign rfl, @advance_set 6 5 .mark rfl,
      @advance_set 9 8 .digit rfl, @advance_set 10 9 .point rfl, @advance_set 12 11 .digit rfl,
      @advance_set 13 11 .point rfl, @advance_set 16 15 .digit rfl,
      @advance_set 18 17 .sign rfl] <;>
    rcases glyph? c with _ | _ | _ | _ | _ <;> rfl

/-- Where no way is left in the middle of a text nothing is found. -/
theorem searchFrom_late (b : Char) (position : Nat) (text : List Char) :
    searchFrom numberProgram (some b) position [] none text = none := by
  induction text generalizing b position with
  | nil => simp [searchFrom, closure_late, advance]
  | cons c text ih => simp [searchFrom, closure_late, advance, ih]

/-- The slots of a match that ends in front of `r`. -/
def found (slots : Slots) (position : Nat) (text r : List Char) : Slots :=
  (1, position + (text.length - r.length)) :: slots

/-- The end of a match is the same when it is counted from one character further on. -/
theorem found_succ (φ : Phase) (slots : Slots) (position : Nat) (c : Char) (text : List Char) :
    (φ.rest? text).map (found slots (position + 1) text) =
      (φ.rest? text).map (found slots position (c :: text)) := by
  refine Option.map_congr fun r hr => ?_
  have hlength := (isSuffix_of_rest? hr).length_le
  simp only [found, List.length_cons]
  congr 2
  omega

/-- One step from a phase on. -/
theorem searchFrom_cons (φ : Phase) (b c : Char) (position : Nat) (slots : Slots)
    (best : Option Slots) (text : List Char) :
    searchFrom numberProgram (some b) position [(φ.place, slots)] best (c :: text) =
      let best := (if φ.accepts then some ((1, position) :: slots) else none).or best
      match φ.step? c with
      | some ψ => searchFrom numberProgram (some c) (position + 1) [(ψ.place, slots)] best text
      | none => best := by
  simp only [searchFrom, List.head?_cons, closure_phase, advance_some]
  cases hstep : φ.step? c with
  | some ψ => simp
  | none =>
    cases (if φ.accepts then some ((1, position) :: slots) else none).or best with
    | none => simp [searchFrom_late]
    | some s => simp

/--
From a phase on the search finds the end of the longest text in front of it that a number may
have here, or keeps the match that it has found before.
-/
theorem searchFrom_phase (φ : Phase) (b : Char) (position : Nat) (slots : Slots)
    (best : Option Slots) (text : List Char) :
    searchFrom numberProgram (some b) position [(φ.place, slots)] best text =
      ((φ.rest? text).map (found slots position text)).or best := by
  induction text generalizing φ b position best with
  | nil =>
    simp only [searchFrom, List.head?_nil, closure_phase, advance_none, rest?]
    cases φ.accepts <;> simp [found]
  | cons c text ih =>
    have haccepted : (if φ.accepts then some ((1, position) :: slots) else none) =
        (if φ.accepts then some (c :: text) else none).map (found slots position (c :: text)) := by
      cases φ.accepts <;> simp [found]
    rw [searchFrom_cons, rest?, Option.map_or, ← haccepted, Option.or_assoc]
    cases hstep : φ.step? c with
    | none => simp
    | some ψ => simp [ih, found_succ ψ slots position c text]

theorem searchFrom_start (text : List Char) :
    searchFrom numberProgram none 0 [] none text =
      (start.rest? text).map (found [(0, 0)] 0 text) := by
  have hclosure (after : Option Char) := closure_start after [(1, 0), (0, 0)]
  cases text with
  | nil =>
    simp only [searchFrom, Option.isNone_none, if_true, List.nil_append, List.head?_nil, hclosure,
      advance_none]
    rfl
  | cons c text =>
    simp only [searchFrom, Option.isNone_none, if_true, List.nil_append, List.head?_cons, hclosure,
      advance_some, rest?]
    cases hstep : start.step? c with
    | none => simp [accepts, searchFrom_late]
    | some ψ => simp [accepts, searchFrom_phase, ← found_succ ψ [(0, 0)] 0 c text]

/-- The match in a text is what the longest run from the first phase takes. -/
theorem find?_numberProgram (text : List Char) :
    find? numberProgram text 0 = (start.rest? text).map fun r =>
      ⟨0, text.length - r.length, found [(0, 0)] 0 text r⟩ := by
  rw [find?, if_pos rfl, List.drop_zero, searchFrom_start]
  cases start.rest? text with
  | none => rfl
  | some r => simp [found, Slots.get?]

end Phase

end Gridbook.Pattern
