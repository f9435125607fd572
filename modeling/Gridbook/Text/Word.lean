import Gridbook.Text.Property

/-!
# Words

Letters, marks, digits and connectors make up words; a word boundary lies where
a character of a word meets one of no word. The ASCII characters and the blanks
are decided without the table.
-/
namespace Gridbook.Text

def isWordAscii (c : Char) : Bool := c.isAlphanum || c == '_'

def isWord (c : Char) : Bool :=
  if c.toNat < 0x80 then isWordAscii c else !isBlank c && Property.word.contains c

theorem isWord_of_isDigit {c : Char} (h : c.isDigit = true) : isWord c = true := by
  have hd := h
  simp only [Char.isDigit, Bool.and_eq_true, decide_eq_true_eq] at h
  have : c.toNat < 0x80 := by
    have := h.2
    simp only [UInt32.le_iff_toNat_le] at this
    exact Nat.lt_of_le_of_lt this (by decide)
  simp [isWord, this, isWordAscii, Char.isAlphanum, hd]

end Gridbook.Text
