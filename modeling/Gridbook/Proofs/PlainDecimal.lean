import Gridbook.Proofs.Digits
import Gridbook.Proofs.Nearest
import Gridbook.Proofs.Spelling

/-!
# Numbers written in full

A finite number without a sign is written as digits, with a point and further digits
where it has a fraction. What is written is a numeral without an exponent, and it reads
back as the number: shortening the digits stops at decimals that do, and moving the
point to its place changes no value.
-/
namespace Gridbook.Decimal

theorem decimalValue_shift {coefficient : Nat} (h : coefficient % 10 = 0) (scale : ℤ) :
    decimalValue (coefficient / 10) (scale + 1) = decimalValue coefficient scale := by
  obtain ⟨k, rfl⟩ := Nat.dvd_of_mod_eq_zero h
  rw [decimalValue, decimalValue, Nat.mul_div_cancel_left k (by decide),
    zpow_add_one₀ (by norm_num)]
  push_cast
  ring

namespace Scaled

theorem dropZeros_value (n : Nat) (s : Scaled) :
    decimalValue (dropZeros n s).coefficient (dropZeros n s).exponent =
      decimalValue s.coefficient s.exponent := by
  induction n generalizing s with
  | zero => rfl
  | succ n ih =>
    rw [dropZeros]
    split
    · rename_i h
      exact (ih _).trans (decimalValue_shift h s.exponent)
    · rfl

theorem dropZeros_toFloat (n : Nat) (s : Scaled) : (dropZeros n s).toFloat = s.toFloat := by
  rw [toFloat_eq, toFloat_eq, dropZeros_value]

/-- The exact decimal of a finite number has its value. -/
theorem ofBinary_value (b : Binary) :
    decimalValue (ofBinary b).coefficient (ofBinary b).exponent = b.value := by
  rw [ofBinary, Binary.value, decimalValue]
  split
  · rename_i h
    obtain ⟨n, hn⟩ := Int.eq_ofNat_of_zero_le h
    simp [hn]
  · rename_i h
    obtain ⟨n, hn⟩ := Int.eq_ofNat_of_zero_le (a := -b.exponent) (by omega)
    obtain he : b.exponent = -(n : ℤ) := by omega
    have hten : (10 : ℚ) ^ n = 2 ^ n * 5 ^ n := by rw [← mul_pow]; norm_num
    have htwo : (2 : ℚ) ^ n ≠ 0 := by positivity
    have hfive : (5 : ℚ) ^ n ≠ 0 := by positivity
    simp only [he, neg_neg, Int.toNat_natCast, Nat.pow_eq, Nat.cast_mul, Nat.cast_pow,
      Nat.cast_ofNat, zpow_neg, zpow_natCast, hten]
    field_simp

theorem toFloat_of_search {tie : Tie} {x : Float} {num den n : Nat} {exponent : Int} {s : Scaled}
    (h : search tie x num den n exponent = some s) : s.toFloat = x := by
  induction n generalizing exponent with
  | zero => simp [search] at h
  | succ n ih =>
    rw [search] at h
    split at h
    · rename_i t hfound
      obtain rfl := Option.some.inj h
      have hreads := List.find?_some hfound
      exact eq_of_toBits (eq_of_beq hreads)
    · exact ih h

/-- The shortest decimal of a number reads back as the number. -/
theorem toFloat_shortest (tie : Tie) {x : Float} (hx : IsSize x) {b : Binary}
    (hb : Binary.ofFloat? x = some b) : (shortest tie x b).toFloat = x := by
  rw [shortest, dropZeros_toFloat]
  cases hfound : search tie x b.ratio.1 b.ratio.2 17 (magnitude b.ratio.1 b.ratio.2) with
  | some s => exact toFloat_of_search hfound
  | none => rw [Option.getD_none, toFloat_eq, ofBinary_value, hx.near_value hb]

end Scaled

theorem valueOf_append_zeros (ds : List Char) (n : Nat) :
    valueOf (ds ++ List.replicate n '0') = valueOf ds * 10 ^ n := by
  rw [valueOf, Nat.ofDigitChars_append, Nat.ofDigitChars_replicate_zero, Nat.mul_comm]
  rfl

/-- A numeral without an exponent that has the value. -/
structure IsPlain (w : Spelling) (value : ℚ) : Prop where
  valid : w.Valid
  power : w.power = none
  value : decimalValue w.numeral.coefficient w.numeral.scale = value

theorem isPlain_of_digits (whole : List Char) (fraction : Option (List Char))
    (hwhole : ∀ c ∈ whole, c.isDigit = true) (hne : whole ≠ [])
    (hfraction : ∀ c ∈ fraction.getD [], c.isDigit = true) :
    IsPlain ⟨whole, fraction, none⟩
      (decimalValue (valueOf (whole ++ fraction.getD [])) (-(fraction.getD []).length)) where
  valid := ⟨hwhole, hfraction, .inl hne, by simp⟩
  power := rfl
  value := by simp [Spelling.numeral, Numeral.coefficient, Numeral.scale]

/-- Digits in their places spell the decimal. -/
theorem exists_spelling_positional (s : Scaled) :
    ∃ w : Spelling, IsPlain w (decimalValue s.coefficient s.exponent) ∧ w.text = s.positional := by
  have hdigits : ∀ c ∈ digits s.coefficient, c.isDigit = true := fun c => isDigit_of_mem_digits
  have hne : digits s.coefficient ≠ [] := Nat.toDigits_ne_nil
  rw [Scaled.positional]
  split
  · rename_i hwhole
    have hplain := isPlain_of_digits (digits s.coefficient ++
        List.replicate s.exponent.toNat '0') none
      (fun c hc => (List.mem_append.mp hc).elim (hdigits c) isDigit_of_mem_replicate)
      (by simp [hne]) (by simp)
    obtain ⟨n, hn⟩ := Int.eq_ofNat_of_zero_le hwhole
    refine ⟨_, ⟨hplain.valid, rfl, hplain.value.trans ?_⟩, by
      simp [Spelling.text, Spelling.tail, Spelling.raised]⟩
    simp [valueOf_append_zeros, valueOf_digits, decimalValue, hn]
  · rename_i hfraction
    dsimp only
    split
    · rename_i hplaces
      have htake : (digits s.coefficient).take
          ((digits s.coefficient).length - (-s.exponent).toNat) ≠ [] := by
        rw [Ne, List.take_eq_nil_iff]
        rintro (h | h)
        · omega
        · exact hne h
      have hplain := isPlain_of_digits
        ((digits s.coefficient).take ((digits s.coefficient).length - (-s.exponent).toNat))
        (some ((digits s.coefficient).drop
          ((digits s.coefficient).length - (-s.exponent).toNat)))
        (fun c hc => hdigits c (List.mem_of_mem_take hc)) htake
        (fun c hc => hdigits c (List.mem_of_mem_drop hc))
      have hscale : (-((digits s.coefficient).length -
          ((digits s.coefficient).length - (-s.exponent).toNat) : Nat) : ℤ) = s.exponent := by omega
      refine ⟨_, ⟨hplain.valid, rfl, hplain.value.trans ?_⟩, by
        simp [Spelling.text, Spelling.tail, Spelling.raised]⟩
      rw [Option.getD_some, List.take_append_drop, valueOf_digits, List.length_drop, hscale]
    · rename_i hplaces
      have hplain := isPlain_of_digits ['0'] (some (List.replicate
          ((-s.exponent).toNat - (digits s.coefficient).length) '0' ++ digits s.coefficient))
        (by simp) (by simp)
        (fun c hc => (List.mem_append.mp hc).elim isDigit_of_mem_replicate (hdigits c))
      have hscale : (-((-s.exponent).toNat - (digits s.coefficient).length +
          (digits s.coefficient).length : Nat) : ℤ) = s.exponent := by omega
      refine ⟨_, ⟨hplain.valid, rfl, hplain.value.trans ?_⟩, by
        simp [Spelling.text, Spelling.tail, Spelling.raised]⟩
      rw [Option.getD_some, ← List.append_assoc, List.singleton_append, ← List.replicate_succ,
        valueOf_zeros_append, valueOf_digits, List.length_append, List.length_replicate, hscale]

/-- A finite number without a sign is written as a numeral that reads back as the number. -/
theorem exists_spelling_plain {x : Float} (hx : IsSize x) :
    ∃ w : Spelling, w.Valid ∧ w.power = none ∧ w.text = plain x ∧ w.numeral.toFloat = x := by
  obtain ⟨b, hb, hnegative, -, -⟩ := hx.exists_ofFloat?
  have hnear := hx.near_value hb
  simp only [plain, hb, hnegative, hx.abs_eq, Bool.false_eq_true, ↓reduceIte]
  split
  · rename_i hzero
    refine ⟨⟨['0'], none, none⟩, ⟨by simp, by simp, .inl (by simp), by simp⟩, rfl, rfl, ?_⟩
    rw [Numeral.toFloat_eq, ← hnear, Binary.value, hzero, decimalValue]
    simp [Spelling.numeral, Numeral.coefficient, valueOf, Nat.ofDigitChars]
  · obtain ⟨w, ⟨hvalid, hpower, hvalue⟩, htext⟩ :=
      exists_spelling_positional (Scaled.shortest .up x b)
    refine ⟨w, hvalid, hpower, htext, ?_⟩
    rw [Numeral.toFloat_eq, hvalue, ← Scaled.toFloat_eq, Scaled.toFloat_shortest .up hx hb]

end Gridbook.Decimal
