import Gridbook.Proofs.Characters

/-!
# Names of cells

A cell has a name when its column has a letter and its row number is one that a
name may carry; then the name is read back as the cell. Every name is a word of a
capital and digits.
-/
namespace Gridbook.Coord

/-- The cell has a name that is read again. -/
def IsNamed (c : Coord) : Prop := c.col < letters ∧ c.row < lastRow

instance (c : Coord) : Decidable c.IsNamed := inferInstanceAs (Decidable (_ ∧ _))

/-- The 26 letters are capitals, and each gives its column. -/
theorem letter_spec {col : Nat} (h : col < letters) :
    (letter col).isUpper = true ∧ (letter col).toNat - 'A'.toNat = col := by
  have all : ∀ n < 26, (letter n).isUpper = true ∧ (letter n).toNat - 'A'.toNat = n := by
    decide
  exact all col h

/-- A text that is read as a cell is a capital with digits after it, and the cell has a name. -/
theorem shape_of_ofChars? {w : List Char} {c : Coord} (h : ofChars? w = some c) :
    ∃ l ds, w = l :: ds ∧ l.isUpper = true ∧ ds ≠ [] ∧ (∀ d ∈ ds, d.isDigit = true) ∧
      c.IsNamed := by
  cases w with
  | nil => simp [ofChars?] at h
  | cons l ds =>
    simp only [ofChars?] at h
    split at h
    · rename_i hl
      simp only [Bool.and_eq_true, Bool.not_eq_true', List.isEmpty_eq_false_iff,
        List.all_eq_true] at hl
      obtain ⟨⟨hl, hne⟩, hds⟩ := hl
      split at h
      · rename_i hrow
        refine ⟨l, ds, rfl, hl, hne, hds, ?_⟩
        obtain rfl := Option.some.inj h
        have hupper := Text.isUpper_iff_toNat.mp hl
        have hcol : l.toNat - 'A'.toNat < 26 := by
          have : 'A'.toNat = 65 := rfl
          omega
        exact ⟨hcol, by simp only; omega⟩
      · simp at h
    · simp at h

theorem isNamed_of_ofChars? {w : List Char} {c : Coord} (h : ofChars? w = some c) :
    c.IsNamed := by
  obtain ⟨_, _, _, _, _, _, hc⟩ := shape_of_ofChars? h
  exact hc

/-- What is read as a cell is a word, and not an empty one. -/
theorem isWord_of_ofChars? {w : List Char} {c : Coord} (h : ofChars? w = some c) :
    w ≠ [] ∧ ∀ x ∈ w, Text.isWord x = true := by
  obtain ⟨l, ds, rfl, hl, _, hds, _⟩ := shape_of_ofChars? h
  refine ⟨by simp, fun x hx => ?_⟩
  rcases List.mem_cons.mp hx with rfl | hx
  · exact Text.isWord_of_isUpper hl
  · exact Text.isWord_of_isDigit (hds x hx)

/-- No name begins with a digit. -/
theorem ofChars?_digit {d : Char} {w : List Char} (h : d.isDigit = true) :
    ofChars? (d :: w) = none := by
  simp [ofChars?, Text.isUpper_of_isDigit h]

/-- The name of a cell is read as the cell. -/
theorem ofChars?_of_nameChars? {c : Coord} {w : List Char} (hc : c.IsNamed)
    (h : c.nameChars? = some w) : ofChars? w = some c := by
  obtain ⟨hcol, hrow⟩ := hc
  have hw : w = letter c.col :: Nat.toDigits 10 (c.row + 1) := by
    simpa [nameChars?, hcol, eq_comm] using h
  obtain ⟨hupper, hletter⟩ := letter_spec hcol
  have hdigits : (Nat.toDigits 10 (c.row + 1)).all Char.isDigit = true :=
    List.all_eq_true.mpr fun _ hd => Nat.isDigit_of_mem_toDigits (by decide) (by decide) hd
  have hne : (Nat.toDigits 10 (c.row + 1)).isEmpty = false := by
    simp [Nat.toDigits_ne_nil]
  have hlast : c.row + 1 ≤ lastRow := hrow
  simp only [hw, ofChars?, hupper, hdigits, hne, Bool.not_false, Bool.and_self, ↓reduceIte,
    Nat.ofDigitChars_ten_toDigits, hletter, Nat.add_sub_cancel, hlast, and_true,
    Nat.le_add_left]

/-- A named cell has a name, which is read as the cell. -/
theorem exists_nameChars? {c : Coord} (hc : c.IsNamed) :
    ∃ w, c.nameChars? = some w ∧ ofChars? w = some c := by
  have h : c.nameChars? = some (letter c.col :: Nat.toDigits 10 (c.row + 1)) := by
    simp [nameChars?, hc.1]
  exact ⟨_, h, ofChars?_of_nameChars? hc h⟩

/-- The label of a named cell is read as the cell. -/
theorem ofChars?_label {c : Coord} (hc : c.IsNamed) : ofChars? c.label.toList = some c := by
  obtain ⟨w, hw, hname⟩ := exists_nameChars? hc
  rw [label, name?, hw]
  simpa using hname

/-- A cell past column `Z` has a label with its column counted. -/
theorem toList_label {c : Coord} (hc : ¬ c.col < letters) :
    c.label.toList = 'R' :: (Nat.toDigits 10 (c.row + 1) ++ 'C' :: Nat.toDigits 10 (c.col + 1)) := by
  have hname : c.name? = none := by
    rw [name?, nameChars?, if_neg hc]
    rfl
  rw [label, hname]
  have hdigits (n : Nat) : (toString n).toList = Nat.toDigits 10 n := by
    simp [Nat.repr]
  simp only [String.toList_append, hdigits, List.append_assoc]
  rfl

/-- The label of a cell past column `Z` is no name. -/
theorem ofChars?_label_of_not_lettered {c : Coord} (hc : ¬ c.col < letters) :
    ofChars? c.label.toList = none := by
  have hall : ((Nat.toDigits 10 (c.row + 1) ++ 'C' :: Nat.toDigits 10 (c.col + 1)).all
      Char.isDigit) = false := by
    simp
  rw [toList_label hc, ofChars?, hall]
  simp

theorem toDigits_injective {m n : Nat} (h : Nat.toDigits 10 m = Nat.toDigits 10 n) : m = n := by
  have hvalue := congrArg (Nat.ofDigitChars 10 · 0) h
  simpa using hvalue

/-- A name is made of the characters of words, whether it is read again or not. -/
theorem isWord_of_nameChars? {c : Coord} {w : List Char} (h : c.nameChars? = some w) :
    ∀ x ∈ w, Text.isWord x = true := by
  rw [nameChars?] at h
  split at h
  · rename_i hcol
    obtain rfl := Option.some.inj h
    intro x hx
    rcases List.mem_cons.mp hx with rfl | hx
    · exact Text.isWord_of_isUpper (letter_spec hcol).1
    · exact Text.isWord_of_isDigit (Nat.isDigit_of_mem_toDigits (by decide) (by decide) hx)
  · cases h

/-- No two cells have the same name. -/
theorem nameChars?_injective {c d : Coord} {w : List Char} (hc : c.nameChars? = some w)
    (hd : d.nameChars? = some w) : c = d := by
  obtain ⟨row, col⟩ := c
  obtain ⟨row', col'⟩ := d
  rw [nameChars?] at hc hd
  split at hc
  · rename_i hcol
    split at hd
    · rename_i hcol'
      obtain ⟨hletter, hdigits⟩ := List.cons.inj (Option.some.inj (hc.trans hd.symm))
      have hcols := congrArg (fun l : Char => l.toNat - 'A'.toNat) hletter
      simp only [(letter_spec hcol).2, (letter_spec hcol').2] at hcols
      have hrows := toDigits_injective hdigits
      simp only at hcols hrows
      rw [mk.injEq]
      omega
    · cases hd
  · cases hc

/-- Cells in counted rows have different labels, whether these are names or not. -/
theorem label_injective {a b : Coord} (ha : a.row < lastRow) (hb : b.row < lastRow)
    (h : a.label = b.label) : a = b := by
  by_cases hacol : a.col < letters
  · have haread := ofChars?_label ⟨hacol, ha⟩
    by_cases hbcol : b.col < letters
    · rw [h, ofChars?_label ⟨hbcol, hb⟩] at haread
      exact (Option.some.inj haread).symm
    · rw [h, ofChars?_label_of_not_lettered hbcol] at haread
      cases haread
  · by_cases hbcol : b.col < letters
    · have hbread := ofChars?_label ⟨hbcol, hb⟩
      rw [← h, ofChars?_label_of_not_lettered hacol] at hbread
      cases hbread
    · have hlabel := congrArg String.toList h
      rw [toList_label hacol, toList_label hbcol] at hlabel
      have hdigits (n : Nat) : ∀ d ∈ Nat.toDigits 10 n, d.isDigit = true :=
        fun _ hd => Nat.isDigit_of_mem_toDigits (by decide) (by decide) hd
      have hstops (s : List Char) : Text.Stops Char.isDigit ('C' :: s) := rfl
      have hrow := congrArg (List.takeWhile Char.isDigit) (List.cons.inj hlabel).2
      have hcol := congrArg (List.dropWhile Char.isDigit) (List.cons.inj hlabel).2
      rw [Text.takeWhile_run (hdigits _) (hstops _), Text.takeWhile_run (hdigits _) (hstops _)]
        at hrow
      rw [Text.dropWhile_run (hdigits _) (hstops _), Text.dropWhile_run (hdigits _) (hstops _)]
        at hcol
      have hrow := toDigits_injective hrow
      have hcol := toDigits_injective (List.cons.inj hcol).2
      obtain ⟨arow, acol⟩ := a
      obtain ⟨brow, bcol⟩ := b
      simp only at hrow hcol
      rw [Coord.mk.injEq]
      omega

end Gridbook.Coord
