import Gridbook.Formula.Reader
import Gridbook.Formula.Reference
import Mathlib.Data.List.TakeDrop
import Mathlib.Data.List.TakeWhile

/-!
# Classes of characters and runs of them

Digits and capitals belong to words; gaps are blanks, and blanks, operators,
parentheses and points belong to no word. A run of a class ends where a text
stops: `Stops p s` says that `s` does not begin with a character of `p`, and then
a run in front of it is cut off as a whole.
-/
namespace Gridbook.Text

/-- The text does not begin with a character of the class. -/
def Stops (p : Char → Bool) : List Char → Prop
  | [] => True
  | c :: _ => p c = false

@[simp] theorem stops_nil (p : Char → Bool) : Stops p [] := trivial
@[simp] theorem stops_cons (p : Char → Bool) (c : Char) (s : List Char) :
    Stops p (c :: s) ↔ p c = false := Iff.rfl

theorem Stops.append {p : Char → Bool} {s t : List Char} (hs : Stops p s) (ht : Stops p t) :
    Stops p (s ++ t) := by
  cases s with
  | nil => exact ht
  | cons c s => exact hs

theorem stops_dropWhile (p : Char → Bool) (s : List Char) : Stops p (s.dropWhile p) := by
  induction s with
  | nil => simp
  | cons c s ih => by_cases h : p c <;> simp [h, ih]

theorem takeWhile_run {p : Char → Bool} {r s : List Char} (hr : ∀ c ∈ r, p c = true)
    (hs : Stops p s) : (r ++ s).takeWhile p = r := by
  rw [List.takeWhile_append_of_pos hr]
  cases s with
  | nil => simp
  | cons c s => simp [(stops_cons p c s).mp hs]

theorem dropWhile_run {p : Char → Bool} {r s : List Char} (hr : ∀ c ∈ r, p c = true)
    (hs : Stops p s) : (r ++ s).dropWhile p = s := by
  rw [List.dropWhile_append_of_pos hr]
  cases s with
  | nil => simp
  | cons c s => simp [(stops_cons p c s).mp hs]

theorem dropWhile_of_stops {p : Char → Bool} {s : List Char} (hs : Stops p s) :
    s.dropWhile p = s := dropWhile_run (r := []) (by simp) hs

/-- Every text is a run of a class and a text that stops it. -/
theorem exists_run (p : Char → Bool) (s : List Char) :
    ∃ r t, s = r ++ t ∧ (∀ c ∈ r, p c = true) ∧ Stops p t :=
  ⟨s.takeWhile p, s.dropWhile p, List.takeWhile_append_dropWhile.symm,
    fun _ hc => List.mem_takeWhile_imp hc, stops_dropWhile p s⟩

theorem isUpper_iff_toNat {c : Char} : c.isUpper = true ↔ 65 ≤ c.toNat ∧ c.toNat ≤ 90 := by
  change decide (c.val ≥ 'A'.val ∧ c.val ≤ 'Z'.val) = true ↔ _
  rw [decide_eq_true_iff]
  exact Iff.rfl

theorem isLower_iff_toNat {c : Char} : c.isLower = true ↔ 97 ≤ c.toNat ∧ c.toNat ≤ 122 := by
  change (decide (c.val ≥ 'a'.val) && decide (c.val ≤ 'z'.val)) = true ↔ _
  rw [Bool.and_eq_true, decide_eq_true_iff, decide_eq_true_iff]
  exact Iff.rfl

theorem isAlpha_eq (c : Char) : c.isAlpha = (c.isUpper || c.isLower) := rfl

theorem isDigit_iff_toNat {c : Char} : c.isDigit = true ↔ 48 ≤ c.toNat ∧ c.toNat ≤ 57 :=
  Char.isDigit_iff_toNat

theorem isUpper_of_isDigit {c : Char} (h : c.isDigit = true) : c.isUpper = false := by
  rw [Bool.eq_false_iff]
  intro hu
  have hd := isDigit_iff_toNat.mp h
  have hu := isUpper_iff_toNat.mp hu
  omega

theorem isWord_of_isUpper {c : Char} (h : c.isUpper = true) : isWord c = true := by
  have hc := isUpper_iff_toNat.mp h
  have : c.toNat < 0x80 := by omega
  simp [isWord, this, isWordAscii, Char.isAlphanum, isAlpha_eq, h]

/-- No blank is a character of a word. -/
theorem isWord_of_isBlank {c : Char} (h : isBlank c = true) : isWord c = false := by
  rw [isWord]
  split
  · rename_i hc
    have hb := h
    simp only [isBlank, Bool.or_eq_true, Bool.and_eq_true, decide_eq_true_eq, beq_iff_eq] at hb
    rw [Bool.eq_false_iff]
    intro hw
    simp only [isWordAscii, Char.isAlphanum, isAlpha_eq, Bool.or_eq_true, beq_iff_eq] at hw
    rcases hw with ((hw | hw) | hw) | rfl
    · have := isUpper_iff_toNat.mp hw
      omega
    · have := isLower_iff_toNat.mp hw
      omega
    · have := isDigit_iff_toNat.mp hw
      omega
    · exact absurd h (by decide)
  · simp [h]

end Gridbook.Text
