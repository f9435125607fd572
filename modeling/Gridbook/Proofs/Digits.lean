import Gridbook.Decimal.Layout
import Gridbook.Proofs.Characters
import Mathlib.Data.List.Induction

/-!
# Digits and their values

A number is the value of its decimal digits, and digits are zeros followed by the decimal
digits of their value.
-/
namespace Gridbook.Decimal

theorem isDigit_of_mem_digits {n : Nat} {c : Char} (h : c ∈ digits n) : c.isDigit = true :=
  Nat.isDigit_of_mem_toDigits (by decide) (by decide) h

theorem isDigit_of_mem_replicate {n : Nat} {c : Char} (h : c ∈ List.replicate n '0') :
    c.isDigit = true := by
  rw [List.eq_of_mem_replicate h]
  rfl

theorem valueOf_digits (n : Nat) : valueOf (digits n) = n := Nat.ofDigitChars_ten_toDigits

/-- Zeros in front of digits do not change their value. -/
theorem valueOf_zeros_append (ds : List Char) (n : Nat) :
    valueOf (List.replicate n '0' ++ ds) = valueOf ds := by
  rw [valueOf, Nat.ofDigitChars_append, Nat.ofDigitChars_replicate_zero, Nat.mul_zero]
  rfl

/-- Digits without a leading zero are the digits of their value. -/
theorem digits_valueOf {ds : List Char} (hne : ds ≠ [])
    (hdigits : ∀ d ∈ ds, d.isDigit = true) (hzero : ds.head? ≠ some '0') :
    digits (valueOf ds) = ds := by
  induction ds using List.reverseRecOn with
  | nil => exact absurd rfl hne
  | append_singleton ds d ih =>
    have hd := Text.isDigit_iff_toNat.mp (hdigits d (by simp))
    have hvalue : valueOf (ds ++ [d]) = 10 * valueOf ds + (d.toNat - 48) := by
      rw [valueOf, Nat.ofDigitChars_append]
      rfl
    have hlast : digits (d.toNat - 48) = [d] := by
      rw [digits, Nat.toDigits_of_lt_base (by omega), List.singleton_inj]
      apply Char.toNat_inj.mp
      rw [Nat.toNat_digitChar_of_lt_ten (by omega)]
      omega
    rw [hvalue]
    cases ds with
    | nil => simpa [valueOf, Nat.ofDigitChars] using hlast
    | cons c ds =>
      have hfront := ih (by simp) (fun x hx => hdigits x (List.mem_append_left _ hx)) hzero
      have hpos : 0 < valueOf (c :: ds) := by
        rcases Nat.eq_zero_or_pos (valueOf (c :: ds)) with heq | hpos
        · rw [heq, digits, Nat.toDigits_zero] at hfront
          rw [← hfront] at hzero
          simp at hzero
        · exact hpos
      have happend : digits (10 * valueOf (c :: ds) + (d.toNat - 48)) =
          digits (valueOf (c :: ds)) ++ digits (d.toNat - 48) :=
        (Nat.toDigits_append_toDigits (by decide) hpos (by omega)).symm
      rw [happend, hfront, hlast]

/-- Digits of a value other than zero are the digits of this value behind some zeros. -/
theorem exists_zeros {ds : List Char} (hdigits : ∀ d ∈ ds, d.isDigit = true)
    (hvalue : valueOf ds ≠ 0) :
    ∃ zeros, ds = List.replicate zeros '0' ++ digits (valueOf ds) := by
  obtain ⟨front, rest, hds, hfront, hrest⟩ := Text.exists_run (· == '0') ds
  obtain ⟨zeros, rfl⟩ : ∃ zeros, front = List.replicate zeros '0' :=
    ⟨front.length, List.eq_replicate_of_mem fun d hd => by simpa using hfront d hd⟩
  have hsame : valueOf ds = valueOf rest := by rw [hds, valueOf_zeros_append]
  have hne : rest ≠ [] := by
    rintro rfl
    exact hvalue hsame
  have hhead : rest.head? ≠ some '0' := by
    obtain ⟨d, rest, rfl⟩ := List.exists_cons_of_ne_nil hne
    simpa using hrest
  refine ⟨zeros, hds.trans ?_⟩
  rw [hsame, digits_valueOf hne (fun d hd => hdigits d (by simp [hds, hd])) hhead]

/-- The digits of a number other than zero do not begin with a zero. -/
theorem head?_digits_ne_zero {n : Nat} (hn : n ≠ 0) : (digits n).head? ≠ some '0' := by
  intro hhead
  obtain ⟨rest, hdigits⟩ := List.head?_eq_some_iff.mp hhead
  have hvalue : valueOf rest = n := by
    have hsame := valueOf_zeros_append rest 1
    rw [List.replicate_one, List.singleton_append, ← hdigits] at hsame
    exact hsame.symm.trans (valueOf_digits n)
  have hall : ∀ d ∈ rest, d.isDigit = true := fun d hd =>
    isDigit_of_mem_digits (n := n) (by rw [hdigits]; exact List.mem_cons_of_mem _ hd)
  obtain ⟨zeros, hrest⟩ := exists_zeros hall (hvalue ▸ hn)
  have hlength := congrArg List.length hrest
  rw [hvalue, hdigits] at hlength
  simp at hlength
  omega

end Gridbook.Decimal
