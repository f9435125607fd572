import Gridbook.Decimal.Shortest
import Gridbook.Proofs.FloatBits
import Mathlib.Algebra.Order.Field.Power
import Mathlib.Data.Int.Log
import Mathlib.Data.Rat.Floor
import Mathlib.Tactic.FieldSimp
import Mathlib.Tactic.Linarith
import Mathlib.Tactic.NormNum
import Mathlib.Tactic.Positivity

/-!
# The number nearest to a fraction

The nearest number is found from a numerator and a denominator, but it depends on
their quotient alone: decimals with the same value are read as the same number. A
fraction that is a number of its own is nearest to itself.
-/
namespace Gridbook.Decimal

theorem roundDiv_mul_right {num den k : Nat} (hk : 0 < k) :
    roundDiv (num * k) (den * k) = roundDiv num den := by
  have hless : 2 * (num % den * k) < den * k ↔ 2 * (num % den) < den := by
    rw [← Nat.mul_assoc, Nat.mul_lt_mul_right hk]
  have hmore : den * k < 2 * (num % den * k) ↔ den < 2 * (num % den) := by
    rw [← Nat.mul_assoc, Nat.mul_lt_mul_right hk]
  simp only [roundDiv, Nat.mul_div_mul_right _ _ hk, Nat.mul_mod_mul_right, hless, hmore]

/-- The natural number nearest to a fraction that is not negative. -/
def roundNear (q : ℚ) : Nat := roundDiv q.num.toNat q.den

theorem cast_toNat_num {q : ℚ} (hq : 0 ≤ q) : ((q.num.toNat : Nat) : ℚ) = (q.num : ℚ) := by
  exact_mod_cast Int.toNat_of_nonneg (Rat.num_nonneg.mpr hq)

theorem roundNear_div (num : Nat) {den : Nat} (h : 0 < den) :
    roundNear (num / den : ℚ) = roundDiv num den := by
  have hq : (0 : ℚ) ≤ num / den := by positivity
  have hcross : ((num / den : ℚ).num.toNat : ℚ) * den = num * (num / den : ℚ).den := by
    have hden : ((num / den : ℚ).den : ℚ) ≠ 0 := by exact_mod_cast (num / den : ℚ).den_nz
    have hsplit := Rat.num_div_den (num / den : ℚ)
    rw [cast_toNat_num hq]
    field_simp at hsplit ⊢
    linarith
  have hcross' : (num / den : ℚ).num.toNat * den = num * (num / den : ℚ).den := by
    exact_mod_cast hcross
  rw [roundNear, ← roundDiv_mul_right h, hcross', Nat.mul_comm (num / den : ℚ).den,
    roundDiv_mul_right (num / den : ℚ).den_pos]

theorem roundNear_natCast (m : Nat) : roundNear (m : ℚ) = m := by
  have h := roundNear_div m Nat.one_pos
  rw [Nat.cast_one, div_one] at h
  rw [h]
  simpa using roundDiv_mul m Nat.one_pos

theorem roundNear_eq_zero {q : ℚ} (hq : 0 ≤ q) (h : q < 1 / 2) : roundNear q = 0 := by
  have hsmall : 2 * q.num.toNat < q.den := by
    have hden : (0 : ℚ) < q.den := by exact_mod_cast q.den_pos
    have hlt : (q.num : ℚ) / q.den < 1 / 2 := by rwa [Rat.num_div_den]
    rw [div_lt_iff₀ hden] at hlt
    have : (2 * q.num.toNat : ℚ) < q.den := by
      rw [cast_toNat_num hq]
      linarith
    exact_mod_cast this
  rw [roundNear, roundDiv, Nat.div_eq_of_lt (by omega), Nat.mod_eq_of_lt (by omega), if_pos hsmall]

theorem le_roundNear {q : ℚ} {k : Nat} (h : (k : ℚ) ≤ q) : k ≤ roundNear q := by
  have hq : 0 ≤ q := le_trans (Nat.cast_nonneg k) h
  have hdiv : k ≤ q.num.toNat / q.den := by
    rw [Nat.le_div_iff_mul_le q.den_pos]
    have hden : (0 : ℚ) < q.den := by exact_mod_cast q.den_pos
    have hle : (k : ℚ) ≤ q.num / q.den := by rwa [Rat.num_div_den]
    rw [le_div_iff₀ hden, ← cast_toNat_num hq] at hle
    exact_mod_cast hle
  rw [roundNear, roundDiv]
  split
  · exact hdiv
  · split
    · omega
    · split <;> omega

/-- A power of the base is moved to the numerator or to the denominator by its sign. -/
theorem div_zpow_eq (base num den : Nat) (e : ℤ) :
    (num / den : ℚ) / (base : ℚ) ^ e =
      if 0 ≤ e then (num : ℚ) / ((den * base ^ e.toNat : Nat) : ℚ)
      else ((num * base ^ (-e).toNat : Nat) : ℚ) / den := by
  split
  · rename_i h
    obtain ⟨n, rfl⟩ := Int.eq_ofNat_of_zero_le h
    simp [div_div]
  · rename_i h
    obtain ⟨n, hn⟩ := Int.eq_ofNat_of_zero_le (a := -e) (by omega)
    obtain rfl : e = -(n : ℤ) := by omega
    simp [div_eq_mul_inv, mul_right_comm]

/-- The bits of the number nearest to a fraction that is not negative. -/
def nearBits (q : ℚ) : Nat :=
  if q = 0 then 0
  else
    let exponent := max (Int.log 2 q - 52) Binary.leastExponent
    min (roundNear (q / (2 : ℚ) ^ exponent) + (exponent - Binary.leastExponent).toNat * 2 ^ 52)
      Binary.infinityBits

/-- The number nearest to a fraction that is not negative. -/
def near (q : ℚ) : Float := Float.ofBits (UInt64.ofNat (nearBits q))

theorem two_pow_le_div_iff (num : Nat) {den : Nat} (hden : 0 < den) (e : ℤ) :
    (2 : ℚ) ^ e ≤ num / den ↔
      if 0 ≤ e then den * 2 ^ e.toNat ≤ num else den ≤ num * 2 ^ (-e).toNat := by
  have hpower : (0 : ℚ) < 2 ^ e := by positivity
  have hshift := div_zpow_eq 2 num den e
  rw [Nat.cast_ofNat] at hshift
  rw [← one_le_div hpower, hshift]
  split
  · have : (0 : ℚ) < ((den * 2 ^ e.toNat : Nat) : ℚ) := by
      exact_mod_cast Nat.mul_pos hden (by positivity)
    rw [one_le_div this, Nat.cast_le]
  · have : (0 : ℚ) < (den : ℚ) := by exact_mod_cast hden
    rw [one_le_div this, Nat.cast_le]

/-- The powers of two around a quotient are known from those around its parts. -/
theorem log_div_bounds {num den : Nat} (hnum : 0 < num) (hden : 0 < den) :
    Int.log 2 (num / den : ℚ) = (num.log2 : ℤ) - den.log2 ∨
      Int.log 2 (num / den : ℚ) = (num.log2 : ℤ) - den.log2 - 1 := by
  have hq : (0 : ℚ) < num / den := by positivity
  have hden' : (0 : ℚ) < den := by exact_mod_cast hden
  have hnum_le : (2 : ℚ) ^ (num.log2 : ℤ) ≤ num := by
    exact_mod_cast Nat.log2_self_le hnum.ne'
  have hnum_lt : (num : ℚ) < 2 ^ ((num.log2 : ℤ) + 1) := by
    exact_mod_cast Nat.lt_log2_self
  have hden_le : (2 : ℚ) ^ (den.log2 : ℤ) ≤ den := by
    exact_mod_cast Nat.log2_self_le hden.ne'
  have hden_lt : (den : ℚ) < 2 ^ ((den.log2 : ℤ) + 1) := by
    exact_mod_cast Nat.lt_log2_self
  have hlow : (num.log2 : ℤ) - den.log2 - 1 ≤ Int.log 2 (num / den : ℚ) := by
    rw [← Int.zpow_le_iff_le_log (by decide) hq, le_div_iff₀ hden']
    calc ((2 : Nat) : ℚ) ^ ((num.log2 : ℤ) - den.log2 - 1) * den
        ≤ 2 ^ ((num.log2 : ℤ) - den.log2 - 1) * 2 ^ ((den.log2 : ℤ) + 1) := by
          rw [Nat.cast_ofNat]
          gcongr
      _ = 2 ^ (num.log2 : ℤ) := by
          rw [← zpow_add₀ (by norm_num)]
          congr 1
          omega
      _ ≤ num := hnum_le
  have hhigh : Int.log 2 (num / den : ℚ) < (num.log2 : ℤ) - den.log2 + 1 := by
    rw [← Int.lt_zpow_iff_log_lt (by decide) hq, div_lt_iff₀ hden']
    calc (num : ℚ) < 2 ^ ((num.log2 : ℤ) + 1) := hnum_lt
      _ = 2 ^ ((num.log2 : ℤ) - den.log2 + 1) * 2 ^ (den.log2 : ℤ) := by
          rw [← zpow_add₀ (by norm_num)]
          congr 1
          omega
      _ ≤ ((2 : Nat) : ℚ) ^ ((num.log2 : ℤ) - den.log2 + 1) * den := by
          rw [Nat.cast_ofNat]
          gcongr
  omega

theorem nearBits_div (num : Nat) {den : Nat} (hden : 0 < den) :
    nearBits (num / den : ℚ) = nearestBits num den := by
  by_cases hnum : num = 0
  · rw [nearBits, nearestBits, if_pos (by simp [hnum]), if_pos hnum]
  · have hpos : 0 < num := Nat.pos_of_ne_zero hnum
    have hq : (0 : ℚ) < num / den := by positivity
    have htop : (if (if 0 ≤ (num.log2 : ℤ) - den.log2
          then decide (den * 2 ^ ((num.log2 : ℤ) - den.log2).toNat ≤ num)
          else decide (den ≤ num * 2 ^ (-((num.log2 : ℤ) - den.log2)).toNat)) = true
        then (num.log2 : ℤ) - den.log2 else (num.log2 : ℤ) - den.log2 - 1) =
        Int.log 2 (num / den : ℚ) := by
      have hreached := two_pow_le_div_iff num hden ((num.log2 : ℤ) - den.log2)
      have hlog := Int.zpow_le_iff_le_log (b := 2) (x := (num.log2 : ℤ) - den.log2) (by decide) hq
      rw [Nat.cast_ofNat, hreached] at hlog
      have hbounds := log_div_bounds hpos hden
      split at hlog <;> simp only [*, ↓reduceIte, decide_eq_true_eq] <;> split <;> omega
    have hmantissa (e : ℤ) : roundNear ((num / den : ℚ) / (2 : ℚ) ^ e) =
        if 0 ≤ e then roundDiv num (den * 2 ^ e.toNat)
        else roundDiv (num * 2 ^ (-e).toNat) den := by
      have hshift := div_zpow_eq 2 num den e
      rw [Nat.cast_ofNat] at hshift
      rw [hshift]
      split
      · exact roundNear_div num (Nat.mul_pos hden (by positivity))
      · exact roundNear_div _ hden
    rw [nearBits, if_neg hq.ne', nearestBits, if_neg hnum]
    simp only [Nat.pow_eq, htop, hmantissa]

theorem near_div (num : Nat) {den : Nat} (hden : 0 < den) :
    near (num / den : ℚ) = nearest num den := by
  rw [near, nearest, nearBits_div num hden]

theorem nearBits_le (q : ℚ) : nearBits q ≤ Binary.infinityBits := by
  rw [nearBits]
  split
  · exact Nat.zero_le _
  · exact Nat.min_le_right _ _

/-- A nearest number is infinity or a finite number without a sign. -/
theorem isSize_near {q : ℚ} (h : (near q).isFinite = true) : IsSize (near q) := by
  rcases Nat.lt_or_eq_of_le (nearBits_le q) with hlt | heq
  · exact (toNat_toBits_ofBits hlt).trans_lt hlt
  · rw [near, heq, isFinite_infinity] at h
    simp at h

theorem nearBits_of_le {q : ℚ} (h : (2 : ℚ) ^ (1024 : ℤ) ≤ q) :
    nearBits q = Binary.infinityBits := by
  have hq : 0 < q := lt_of_lt_of_le (by positivity) h
  have hlog : 1024 ≤ Int.log 2 q := by
    rw [← Int.zpow_le_iff_le_log (by decide) hq]
    exact_mod_cast h
  have hleast : Binary.leastExponent = -1074 := rfl
  have hexponent : max (Int.log 2 q - 52) Binary.leastExponent = Int.log 2 q - 52 := by omega
  have hmantissa : 2 ^ 52 ≤ roundNear (q / (2 : ℚ) ^ (Int.log 2 q - 52)) := by
    apply le_roundNear
    rw [le_div_iff₀ (by positivity)]
    calc ((2 ^ 52 : Nat) : ℚ) * 2 ^ (Int.log 2 q - 52) = 2 ^ (52 : ℤ) * 2 ^ (Int.log 2 q - 52) := by
          norm_num
      _ = 2 ^ Int.log 2 q := by
          rw [← zpow_add₀ (by norm_num)]
          congr 1
          omega
      _ ≤ q := by exact_mod_cast Int.zpow_log_le_self (b := 2) (by decide) hq
  rw [nearBits, if_neg hq.ne']
  simp only [hexponent]
  rw [infinityBits_eq]
  apply Nat.min_eq_right
  have : 2046 ≤ (Int.log 2 q - 52 - Binary.leastExponent).toNat := by omega
  omega

theorem nearBits_of_lt {q : ℚ} (hq : 0 ≤ q) (h : q < 2 ^ (Binary.leastExponent - 1)) :
    nearBits q = 0 := by
  rcases eq_or_lt_of_le hq with rfl | hpos
  · rfl
  · have hlog : Int.log 2 q < Binary.leastExponent - 1 := by
      rw [← Int.lt_zpow_iff_log_lt (by decide) hpos, Nat.cast_ofNat]
      exact h
    have hexponent : max (Int.log 2 q - 52) Binary.leastExponent = Binary.leastExponent := by omega
    have hmantissa : roundNear (q / 2 ^ Binary.leastExponent) = 0 := by
      apply roundNear_eq_zero (by positivity)
      rw [div_lt_iff₀ (by positivity)]
      rw [zpow_sub_one₀ (by norm_num)] at h
      linarith
    rw [nearBits, if_neg hpos.ne']
    simp only [hexponent, hmantissa, Int.sub_self]
    rfl

namespace Binary

/-- The size of the number. -/
def value (b : Binary) : ℚ := b.mantissa * 2 ^ b.exponent

/-- The mantissa has its full length, or the exponent is the least one. -/
structure IsRegular (b : Binary) : Prop where
  mantissa_lt : b.mantissa < 2 ^ 53
  exponent_ge : leastExponent ≤ b.exponent
  filled : b.exponent = leastExponent ∨ 2 ^ 52 ≤ b.mantissa

/-- The bits of the size of the number. -/
def bits (b : Binary) : Nat := b.mantissa + (b.exponent - leastExponent).toNat * 2 ^ 52

theorem IsRegular.nearBits_value {b : Binary} (h : b.IsRegular) (hbits : b.bits < infinityBits) :
    nearBits b.value = b.bits := by
  obtain ⟨hlt, hge, hfilled⟩ := h
  by_cases hzero : b.mantissa = 0
  · have hexponent : b.exponent = leastExponent := hfilled.resolve_right (by omega)
    rw [nearBits, if_pos (by simp [value, hzero]), bits, hzero, hexponent]
    rfl
  · have hpos : 0 < b.value := by
      have : 0 < (b.mantissa : ℚ) := by exact_mod_cast Nat.pos_of_ne_zero hzero
      rw [value]
      positivity
    have hlog_lt : Int.log 2 b.value < b.exponent + 53 := by
      rw [← Int.lt_zpow_iff_log_lt (by decide) hpos, value, Nat.cast_ofNat,
        zpow_add₀ (by norm_num), mul_comm]
      have : (b.mantissa : ℚ) < 2 ^ (53 : ℤ) := by exact_mod_cast hlt
      gcongr
    have hlog_ge : 2 ^ 52 ≤ b.mantissa → b.exponent + 52 ≤ Int.log 2 b.value := by
      intro hfull
      rw [← Int.zpow_le_iff_le_log (by decide) hpos, value, Nat.cast_ofNat,
        zpow_add₀ (by norm_num), mul_comm]
      have : (2 : ℚ) ^ (52 : ℤ) ≤ b.mantissa := by exact_mod_cast hfull
      gcongr
    have hexponent : max (Int.log 2 b.value - 52) leastExponent = b.exponent := by
      rcases hfilled with heq | hfull
      · omega
      · have := hlog_ge hfull
        omega
    have hmantissa : b.value / 2 ^ b.exponent = b.mantissa := by
      rw [value, mul_div_assoc, div_self (by positivity), mul_one]
    rw [nearBits, if_neg hpos.ne']
    simp only [hexponent, hmantissa, roundNear_natCast]
    exact Nat.min_eq_left hbits.le

end Binary

/-- The parts of a number without a sign make up its bits. -/
theorem IsSize.exists_ofFloat? {x : Float} (h : IsSize x) :
    ∃ b, Binary.ofFloat? x = some b ∧ b.negative = false ∧ b.IsRegular ∧
      b.bits = x.toBits.toNat := by
  rw [IsSize, infinityBits_eq] at h
  have hsize : x.toBits.toNat % 2 ^ 63 = x.toBits.toNat := Nat.mod_eq_of_lt (by omega)
  have hsign : ¬2 ^ 63 ≤ x.toBits.toNat := by omega
  simp only [Binary.ofFloat?, Nat.pow_eq, hsize, hsign, decide_false]
  rw [if_neg (by omega)]
  split
  · refine ⟨_, rfl, rfl, ⟨?_, Int.le_refl _, .inl rfl⟩, ?_⟩
    · show x.toBits.toNat % 2 ^ 52 < 2 ^ 53
      omega
    · simp only [Binary.bits, Int.sub_self]
      show x.toBits.toNat % 2 ^ 52 + 0 * 2 ^ 52 = _
      omega
  · refine ⟨_, rfl, rfl, ⟨?_, Int.le_add_of_nonneg_right (Int.natCast_nonneg _),
      .inr (Nat.le_add_left _ _)⟩, ?_⟩
    · show x.toBits.toNat % 2 ^ 52 + 2 ^ 52 < 2 ^ 53
      omega
    · simp only [Binary.bits, add_sub_cancel_left, Int.toNat_natCast]
      omega

theorem IsSize.near_value {x : Float} (h : IsSize x) {b : Binary}
    (hb : Binary.ofFloat? x = some b) : near b.value = x := by
  obtain ⟨b', hb', -, hregular, hbits⟩ := h.exists_ofFloat?
  obtain rfl : b' = b := Option.some.inj (hb'.symm.trans hb)
  have hlt : b'.bits < Binary.infinityBits := hbits.trans_lt h
  apply eq_of_toBits
  rw [← UInt64.toNat_inj, near, hregular.nearBits_value hlt, toNat_toBits_ofBits hlt, hbits]

/-- The value of digits with a power of ten. -/
def decimalValue (coefficient : Nat) (scale : ℤ) : ℚ := coefficient * 10 ^ scale

theorem near_decimalValue (coefficient : Nat) (scale : ℤ) :
    near (decimalValue coefficient scale) =
      if 0 ≤ scale then nearest (coefficient * 10 ^ scale.toNat) 1
      else nearest coefficient (10 ^ (-scale).toNat) := by
  rw [decimalValue]
  split
  · rename_i h
    obtain ⟨n, rfl⟩ := Int.eq_ofNat_of_zero_le h
    rw [← near_div _ Nat.one_pos]
    simp
  · rename_i h
    obtain ⟨n, hn⟩ := Int.eq_ofNat_of_zero_le (a := -scale) (by omega)
    obtain rfl : scale = -(n : ℤ) := by omega
    rw [← near_div _ (Nat.pow_pos (by decide))]
    simp [div_eq_mul_inv]

theorem near_zero : near 0 = nearest 0 1 := by
  rw [← near_div 0 Nat.one_pos]
  simp

theorem Scaled.toFloat_eq (s : Scaled) : s.toFloat = near (decimalValue s.coefficient s.exponent) :=
  (near_decimalValue s.coefficient s.exponent).symm

/-- A decimal lies between the powers of ten before and behind its first digit. -/
theorem decimalValue_bounds {coefficient : Nat} (h : coefficient ≠ 0) (scale : ℤ) :
    (10 : ℚ) ^ ((Nat.toDigits 10 coefficient).length + scale - 1) ≤ decimalValue coefficient scale ∧
      decimalValue coefficient scale < 10 ^ ((Nat.toDigits 10 coefficient).length + scale) := by
  obtain ⟨k, hk⟩ := Nat.exists_eq_succ_of_ne_zero
    (Nat.length_toDigits_pos (b := 10) (n := coefficient)).ne'
  have hlt : coefficient < 10 ^ (k + 1) :=
    (Nat.length_toDigits_le_iff (by decide) k.succ_pos).mp hk.le
  have hle : 10 ^ k ≤ coefficient := by
    rcases Nat.eq_zero_or_pos k with rfl | hpos
    · exact Nat.one_le_iff_ne_zero.mpr h
    · apply Nat.le_of_not_lt
      rw [← Nat.length_toDigits_le_iff (by decide) hpos]
      omega
  have hsplit (n : ℤ) : (10 : ℚ) ^ (n + scale) = 10 ^ n * 10 ^ scale := zpow_add₀ (by norm_num) _ _
  have hbefore : ((Nat.toDigits 10 coefficient).length : ℤ) + scale - 1 = k + scale := by omega
  rw [hbefore, hk, hsplit, hsplit, zpow_natCast, zpow_natCast, decimalValue]
  have hle' : (10 : ℚ) ^ k ≤ coefficient := by exact_mod_cast hle
  have hlt' : (coefficient : ℚ) < 10 ^ (k + 1) := by exact_mod_cast hlt
  exact ⟨by gcongr, by gcongr⟩

theorem cast_natPow (a c : Nat) : ((Nat.pow a c : Nat) : ℚ) = (a : ℚ) ^ (c : ℤ) := by
  rw [Nat.pow_eq, Nat.cast_pow, zpow_natCast]

theorem zpow_le_zpow_of_natPow_le {a b c d : Nat} (h : Nat.pow a c ≤ Nat.pow b d) :
    (a : ℚ) ^ (c : ℤ) ≤ (b : ℚ) ^ (d : ℤ) := by
  rw [← cast_natPow, ← cast_natPow]
  exact_mod_cast h

/-- From this power of two on, the nearest number is infinity. -/
theorem nearest_of_le {n : Nat} (h : (2 : ℚ) ^ (1024 : ℤ) ≤ n) :
    nearest n 1 = Float.ofBits (UInt64.ofNat Binary.infinityBits) := by
  rw [← near_div _ Nat.one_pos, near, nearBits_of_le]
  rwa [Nat.cast_one, div_one]

/-- A numeral is read as the number nearest to its value, also where its digits decide. -/
theorem Numeral.toFloat_eq (n : Numeral) :
    n.toFloat = near (decimalValue n.coefficient n.scale) := by
  have hvalue := near_decimalValue n.coefficient n.scale
  rw [Numeral.toFloat]
  split
  · rename_i hzero
    rw [← near_zero, decimalValue, hzero, Nat.cast_zero, zero_mul]
  · rename_i hne
    obtain ⟨hlow, hhigh⟩ := decimalValue_bounds hne n.scale
    split
    · rename_i hlarge
      have hpower : (2 : ℚ) ^ (1024 : ℤ) ≤ 10 ^ (310 : ℤ) :=
        zpow_le_zpow_of_natPow_le (a := 2) (b := 10) (c := 1024) (d := 310) (by decide +kernel)
      have hle : (2 : ℚ) ^ (1024 : ℤ) ≤ decimalValue n.coefficient n.scale :=
        hpower.trans ((zpow_le_zpow_right₀ (by norm_num) (by omega)).trans hlow)
      rw [near, nearBits_of_le hle, nearest_of_le]
      simp only [cast_natPow, Nat.cast_ofNat, le_refl]
    · split
      · rename_i hsmall
        have hpower : (10 : ℚ) ^ (-330 : ℤ) ≤ 2 ^ (Binary.leastExponent - 1) := by
          have hinverse : (2 : ℚ) ^ (1075 : ℤ) ≤ 10 ^ (330 : ℤ) :=
            zpow_le_zpow_of_natPow_le (a := 2) (b := 10) (c := 1075) (d := 330) (by decide +kernel)
          have hleast : Binary.leastExponent - 1 = -1075 := rfl
          rw [hleast, zpow_neg, zpow_neg]
          exact inv_anti₀ (by positivity) hinverse
        have hnonneg : 0 ≤ decimalValue n.coefficient n.scale := by
          rw [decimalValue]
          positivity
        have hlt : decimalValue n.coefficient n.scale < 2 ^ (Binary.leastExponent - 1) :=
          hhigh.trans_le ((zpow_le_zpow_right₀ (by norm_num) (by omega)).trans hpower)
        rw [← near_zero, near, near, nearBits_of_lt hnonneg hlt]
        rfl
      · exact hvalue.symm

end Gridbook.Decimal
