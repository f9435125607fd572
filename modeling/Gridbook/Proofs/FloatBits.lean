import Gridbook.Decimal.Binary
import Mathlib

/-!
# The bits of floating-point numbers

A number is its bits. The bits below those of infinity are the finite numbers without
a sign: each of them makes a number with these bits, which is its own size.
-/
namespace Gridbook.Decimal

open Float.Model (Format UnpackedFloat)
open Float.Model.UnpackedFloat (Sign packComponents pack unpack unpackSign unpackExponent
  unpackMantissa)

/-- The parts of a word, put together again. -/
theorem packComponents_parts (b : BitVec Format.binary64.numBits) :
    packComponents .binary64 (Sign.ofBitVec (unpackSign b)) (unpackExponent b)
      (unpackMantissa b) = b := by
  have hsign : ∀ v : BitVec 1, (Sign.ofBitVec v).toBitVec = v := by decide
  rw [packComponents, hsign]
  ext i hi
  simp only [unpackSign, unpackExponent, unpackMantissa, BitVec.extractLsb]
  grind

theorem toNat_implicit_append (m : BitVec 52) : (1#1 ++ m).toNat = 2 ^ 52 + m.toNat := by
  rw [BitVec.toNat_append, ← Nat.shiftLeft_add_eq_or_of_lt m.isLt]
  rfl

theorem log2_implicit {m : Nat} (h : m < 2 ^ 52) : (2 ^ 52 + m).log2 = 52 :=
  (Nat.log2_eq_iff (by omega)).mpr ⟨by omega, by omega⟩

theorem log2_lt_of_lt {m k : Nat} (h : m < 2 ^ k) (hk : 0 < k) : m.log2 < k := by
  by_cases hm : m = 0
  · rw [hm]
    exact hk
  · exact (Nat.log2_lt hm).mpr h

/-- A number with the implicit bit is packed as its parts. -/
theorem pack_normal (s : Sign) (e : BitVec 11) (m : BitVec 52) (hlt : e.toNat < 2047)
    (hpos : 0 < (1#1 ++ m).toNat) :
    pack .binary64 (.finite s (1#1 ++ m).toNat ((e.toNat : Int) - (1023 + 52)) hpos) =
      packComponents .binary64 s e m := by
  have hbiased : ((e.toNat : Int) - (1023 + 52) + Format.binary64.exponentBias +
      Format.binary64.mantissaBitsWithoutImplicit).toNat = e.toNat := by
    show ((e.toNat : Int) - (1023 + 52) + 1023 + 52).toNat = e.toNat
    omega
  have hlog : (1#1 ++ m).toNat.log2 + 1 = Format.binary64.mantissaBits := by
    rw [toNat_implicit_append, log2_implicit m.isLt]
    rfl
  have hsmall : ¬2 ^ Format.binary64.exponentBits ≤ e.toNat + 1 := by
    show ¬2048 ≤ e.toNat + 1
    omega
  have hexponent : BitVec.ofNat Format.binary64.exponentBits e.toNat = e := by
    show BitVec.ofNat 11 e.toNat = e
    simp
  have hmantissa :
      BitVec.ofNat Format.binary64.mantissaBitsWithoutImplicit (1#1 ++ m).toNat = m := by
    show BitVec.ofNat 52 (1#1 ++ m).toNat = m
    apply BitVec.eq_of_toNat_eq
    have := m.isLt
    rw [toNat_implicit_append, BitVec.toNat_ofNat]
    omega
  simp only [pack, hbiased, if_neg hsmall, if_pos hlog, hexponent, hmantissa]

/-- A number without the implicit bit is packed with the exponent zero. -/
theorem pack_subnormal (s : Sign) (m : BitVec 52) (hpos : 0 < m.toNat) :
    pack .binary64 (.finite s m.toNat (-1074) hpos) = packComponents .binary64 s 0 m := by
  have hlog : ¬m.toNat.log2 + 1 = Format.binary64.mantissaBits := by
    have := log2_lt_of_lt m.isLt (by decide)
    show ¬m.toNat.log2 + 1 = 53
    omega
  have hmantissa : BitVec.ofNat Format.binary64.mantissaBitsWithoutImplicit m.toNat = m := by
    show BitVec.ofNat 52 m.toNat = m
    simp
  rw [pack]
  simp only [if_neg hlog, hmantissa]
  rfl

/-- Below infinity a word is packed as it was unpacked. -/
theorem pack_unpack {b : BitVec Format.binary64.numBits} (h : unpackExponent b ≠ -1#_) :
    pack .binary64 (unpack .binary64 b) = b := by
  have hexponent : (unpackExponent b).toNat < 2047 := by
    have hlt : (unpackExponent b).toNat < 2 ^ 11 := (unpackExponent b).isLt
    have hne : (unpackExponent b).toNat ≠ 2047 := fun heq => h (BitVec.eq_of_toNat_eq heq)
    omega
  have hparts := packComponents_parts b
  rw [unpack, if_neg h]
  split
  · rename_i hzero
    rw [hzero] at hparts
    split
    · rename_i hempty
      rw [hempty] at hparts
      exact hparts
    · rename_i hfilled
      have hleast : ((unpackExponent b).toNat : Int) - (Format.binary64.exponentBias +
          Format.binary64.mantissaBitsWithoutImplicit) + 1 = -1074 := by
        rw [hzero]
        rfl
      simp only [hleast]
      exact (pack_subnormal _ _ _).trans hparts
  · exact (pack_normal _ _ _ hexponent _).trans hparts

theorem eq_of_toBits {x y : Float} (h : x.toBits = y.toBits) : x = y := by
  obtain ⟨⟨a, ha⟩⟩ := x
  obtain ⟨⟨b, hb⟩⟩ := y
  obtain rfl : a = b := h
  rfl

/-- A finite number without a sign. -/
def IsSize (x : Float) : Prop := x.toBits.toNat < Binary.infinityBits

instance (x : Float) : Decidable (IsSize x) := inferInstanceAs (Decidable (_ < _))

theorem infinityBits_eq : Binary.infinityBits = 2047 * 2 ^ 52 := rfl

theorem unpackExponent_ne {b : BitVec 64} (h : b.toNat < Binary.infinityBits) :
    @unpackExponent .binary64 b ≠ -1#_ := by
  intro heq
  have hvalue : (@unpackExponent .binary64 b).toNat = 2047 := by
    rw [heq]
    rfl
  have hparts : (@unpackExponent .binary64 b).toNat = b.toNat >>> 52 % 2 ^ 11 := rfl
  rw [infinityBits_eq] at h
  rw [hparts, Nat.shiftRight_eq_div_pow] at hvalue
  omega

theorem unpackSign_eq {b : BitVec 64} (h : b.toNat < Binary.infinityBits) :
    @unpackSign .binary64 b = 0#1 := by
  apply BitVec.eq_of_toNat_eq
  have hparts : (@unpackSign .binary64 b).toNat = b.toNat >>> 63 % 2 ^ 1 := rfl
  rw [infinityBits_eq] at h
  rw [hparts, Nat.shiftRight_eq_div_pow]
  show _ = 0
  omega

/-- The bits below those of infinity make a number with these bits. -/
theorem toBits_ofBits {u : UInt64} (h : u.toNat < Binary.infinityBits) :
    (Float.ofBits u).toBits = u :=
  congrArg UInt64.ofBitVec (pack_unpack (unpackExponent_ne h))

theorem toNat_toBits_ofBits {n : Nat} (h : n < Binary.infinityBits) :
    (Float.ofBits (UInt64.ofNat n)).toBits.toNat = n := by
  have hword : (UInt64.ofNat n).toNat = n :=
    UInt64.toNat_ofNat_of_lt' (Nat.lt_trans h (by decide))
  rw [toBits_ofBits (hword.symm ▸ h), hword]

theorem isFinite_infinity :
    (Float.ofBits (UInt64.ofNat Binary.infinityBits)).isFinite = false := by decide +kernel

/-- Without a sign there is nothing that a number's size leaves out. -/
theorem abs_unpack {b : BitVec 64} (h : b.toNat < Binary.infinityBits) :
    (unpack .binary64 b).abs = unpack .binary64 b := by
  have hsign : Sign.ofBitVec (@unpackSign .binary64 b) = .positive := by
    rw [unpackSign_eq h]
    rfl
  rw [unpack, hsign, if_neg (unpackExponent_ne h)]
  split
  · split <;> rfl
  · rfl

theorem IsSize.abs_eq {x : Float} (h : IsSize x) : x.abs = x :=
  eq_of_toBits <| (congrArg (fun y => UInt64.ofBitVec (pack .binary64 y)) (abs_unpack h)).trans
    (congrArg UInt64.ofBitVec (pack_unpack (unpackExponent_ne h)))

end Gridbook.Decimal
