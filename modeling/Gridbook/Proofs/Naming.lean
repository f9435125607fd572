import Gridbook.Proofs.Digits
import Gridbook.Proofs.Grammar

/-!
# Names and the cells that they denote

The digits of a name are zeros and the decimal digits of a row number. So a name is known by
its cell and the number of its zeros, and without zeros it is the name that the cell has.
-/
namespace Gridbook

namespace Coord

/-- A capital is the letter of the column that it gives. -/
theorem letter_of_isUpper {l : Char} (hl : l.isUpper = true) :
    letter (l.toNat - 'A'.toNat) = l := by
  have hl := Text.isUpper_iff_toNat.mp hl
  have hA : 'A'.toNat = 65 := rfl
  rw [letter, Nat.add_sub_cancel' (by omega), Char.ofNat_toNat]

theorem nameChars?_eq {c : Coord} (hc : c.col < letters) :
    c.nameChars? = some (letter c.col :: Nat.toDigits 10 (c.row + 1)) := if_pos hc

/-- The texts that denote a cell. -/
theorem ofChars?_eq_some_iff {w : List Char} {c : Coord} :
    ofChars? w = some c ↔ c.col < letters ∧ c.row + 1 ≤ lastRow ∧
      ∃ zeros, w = letter c.col :: (List.replicate zeros '0' ++ Nat.toDigits 10 (c.row + 1)) := by
  constructor
  · intro h
    obtain ⟨hcol, hrow⟩ := isNamed_of_ofChars? h
    obtain ⟨l, digits, rfl, hl, hletter, -, hdigits, hvalue, -⟩ := Formula.isName_iff.mpr h
    obtain ⟨zeros, hzeros⟩ := Decimal.exists_zeros hdigits (by omega)
    refine ⟨hcol, hrow, zeros, ?_⟩
    rw [hletter, letter_of_isUpper hl, ← hvalue]
    exact congrArg (l :: ·) hzeros
  · rintro ⟨hcol, hrow, zeros, rfl⟩
    obtain ⟨hupper, hletter⟩ := letter_spec hcol
    refine Formula.isName_iff.mp ⟨_, _, rfl, hupper, hletter.symm, ?_, fun d hd => ?_, ?_, hrow⟩
    · simp [Nat.toDigits_ne_nil]
    · rcases List.mem_append.mp hd with hd | hd
      · exact Decimal.isDigit_of_mem_replicate hd
      · exact Decimal.isDigit_of_mem_digits hd
    · rw [Decimal.valueOf_zeros_append]
      exact Decimal.valueOf_digits _

/-- No zero stands behind the letter. -/
def Unpadded (name : List Char) : Prop := name[1]? ≠ some '0'

instance (name : List Char) : Decidable (Unpadded name) := inferInstanceAs (Decidable (_ ≠ _))

theorem unpadded_cons {l : Char} {digits : List Char} :
    Unpadded (l :: digits) ↔ digits.head? ≠ some '0' := by
  rw [Unpadded, List.getElem?_cons_succ, List.head?_eq_getElem?]

/-- The name of a cell has no zero in front of the row number. -/
theorem unpadded_of_nameChars? {c : Coord} {w : List Char} (h : c.nameChars? = some w) :
    Unpadded w := by
  rw [nameChars?] at h
  split at h
  · obtain rfl := Option.some.inj h
    exact unpadded_cons.mpr (Decimal.head?_digits_ne_zero (Nat.succ_ne_zero _))
  · cases h

/-- Without zeros in front of the row number there is one text that denotes a cell, its name. -/
theorem ofChars?_unpadded_iff {w : List Char} {c : Coord} :
    ofChars? w = some c ∧ Unpadded w ↔ c.nameChars? = some w ∧ c.row < lastRow := by
  constructor
  · rintro ⟨h, hw⟩
    obtain ⟨hcol, hrow, zeros, rfl⟩ := ofChars?_eq_some_iff.mp h
    refine ⟨?_, hrow⟩
    cases zeros with
    | zero => exact nameChars?_eq hcol
    | succ zeros => exact absurd rfl (unpadded_cons.mp hw)
  · rintro ⟨h, hrow⟩
    have hcol : c.col < letters := by
      by_contra hcol
      rw [nameChars?, if_neg hcol] at h
      cases h
    exact ⟨ofChars?_of_nameChars? ⟨hcol, hrow⟩ h, unpadded_of_nameChars? h⟩

/--
A text denotes a cell exactly if the column has a letter, the row number is one that names may
carry, and the text is that letter followed by any number of zeros and the decimal digits of the
row number. So every cell of a grid of lettered columns is found by the name that it has,
texts without zeros in front of the row number denote different cells, and among these texts
naming a cell and finding the cell of a name are inverse to each other.
-/
theorem denoted_iff_spelled :
    (∀ (name : String) (c : Coord), ofName? name = some c ↔
      c.col < letters ∧ c.row + 1 ≤ lastRow ∧ ∃ zeros, name.toList =
        letter c.col :: (List.replicate zeros '0' ++ Nat.toDigits 10 (c.row + 1))) ∧
    (∀ rows cols c, rows ≤ lastRow → cols ≤ letters → Within rows cols c →
      ∃ name, c.name? = some name ∧ ofName? name = some c) ∧
    (∀ (m n : String) (c : Coord), Unpadded m.toList → Unpadded n.toList →
      ofName? m = some c → ofName? n = some c → m = n) ∧
    ∀ (name : String) (c : Coord), ofName? name = some c ∧ Unpadded name.toList ↔
      c.name? = some name ∧ c.row < lastRow := by
  have hinverse (name : String) (c : Coord) : ofName? name = some c ∧ Unpadded name.toList ↔
      c.name? = some name ∧ c.row < lastRow := by
    have hname : c.name? = some name ↔ c.nameChars? = some name.toList := by
      rw [name?, Option.map_eq_some_iff]
      constructor
      · rintro ⟨w, hw, rfl⟩
        rw [hw, String.toList_ofList]
      · exact fun hw => ⟨_, hw, String.ofList_toList⟩
    rw [hname]
    exact ofChars?_unpadded_iff
  refine ⟨fun name c => ofChars?_eq_some_iff, fun rows cols c hrows hcols hc => ?_,
    fun m n c hm hn hmc hnc => ?_, hinverse⟩
  · obtain ⟨hrow, hcol⟩ := hc
    have hlettered : c.col < letters := Nat.lt_of_lt_of_le hcol hcols
    have hname : c.name? =
        some (String.ofList (letter c.col :: Nat.toDigits 10 (c.row + 1))) := by
      rw [name?, nameChars?_eq hlettered, Option.map_some]
    exact ⟨_, hname, ((hinverse _ c).mpr ⟨hname, Nat.lt_of_lt_of_le hrow hrows⟩).1⟩
  · obtain ⟨hm, -⟩ := (hinverse m c).mp ⟨hmc, hm⟩
    obtain ⟨hn, -⟩ := (hinverse n c).mp ⟨hnc, hn⟩
    exact Option.some.inj (hm.symm.trans hn)

/-- The last row that has a name, and the one below it, which has a name that denotes nothing. -/
theorem denoted_iff_spelled_last : ofName? "Z004294967295" = some ⟨4294967294, 25⟩ ∧
    ofName? "A4294967296" = none ∧ (mk 4294967295 0).name? = some "A4294967296" ∧
    ∃ name, (mk 4294967294 25).name? = some name ∧ ofName? name = some ⟨4294967294, 25⟩ := by
  obtain ⟨hspelled, hfound, -, -⟩ := denoted_iff_spelled
  refine ⟨(hspelled _ _).mpr ⟨by decide, by decide, 2, by decide +kernel⟩, by decide +kernel,
    by decide +kernel, hfound lastRow letters _ (Nat.le_refl _) (Nat.le_refl _) (by decide)⟩

end Coord

end Gridbook
