import Gridbook.Proofs.Encoding

/-!
# Texts of colors

A hexadecimal color has three or four pairs of hexadecimal digits, one for each channel.
The reader takes more than these: each pair is read like a number of its own, and so a
plus sign may stand in place of its first digit. A text without a plus sign is read exactly
if it is a hexadecimal color.
-/
namespace Gridbook

/-- The digits from `0` to `9`, then the letters from `a` to `f` in either case. -/
def Text.IsHexDigit (c : Char) (n : Nat) : Prop :=
  n < 10 ∧ c.toNat = '0'.toNat + n ∨
    10 ≤ n ∧ n < 16 ∧ (c.toNat = 'a'.toNat + (n - 10) ∨ c.toNat = 'A'.toNat + (n - 10))

theorem Text.hexDigit?_eq_some_iff {c : Char} {n : Nat} :
    hexDigit? c = some n ↔ IsHexDigit c n := by
  have hbounds (a b : Char) : a ≤ c ∧ c ≤ b ↔ a.toNat ≤ c.toNat ∧ c.toNat ≤ b.toNat := Iff.rfl
  have hcodes : '0'.toNat = 48 ∧ '9'.toNat = 57 ∧ 'a'.toNat = 97 ∧ 'f'.toNat = 102 ∧
      'A'.toNat = 65 ∧ 'F'.toNat = 70 := by decide
  simp only [hexDigit?, IsHexDigit, hbounds, hcodes]
  split
  · simp only [Option.some.injEq]
    omega
  · split
    · simp only [Option.some.injEq]
      omega
    · split
      · simp only [Option.some.injEq]
        omega
      · simp only [reduceCtorEq, false_iff]
        omega

/-- A sign is no digit. -/
theorem Text.not_isHexDigit_plus (n : Nat) : ¬ IsHexDigit '+' n := by
  have hplus : hexDigit? '+' = none := by decide
  rw [← hexDigit?_eq_some_iff, hplus]
  simp

namespace Color

open Text (IsHexDigit hexDigit?_eq_some_iff not_isHexDigit_plus)

/-- What is read of a text: no blanks at its ends and no `#` in front. -/
def body (hex : String) : List Char := (Text.trim hex.toList).dropWhile (· == '#')

/--
Pairs of characters with the numbers that they are to the base sixteen. The second one is
a hexadecimal digit, the first one is as asked.
-/
inductive Pairs (first : Char → Nat → Prop) : List Char → List UInt8 → Prop where
  | nil : Pairs first [] []
  | cons {a b : Char} {high low : Nat} {s : List Char} {ns : List UInt8} (ha : first a high)
      (hb : IsHexDigit b low) (h : Pairs first s ns) :
      Pairs first (a :: b :: s) (UInt8.ofNat (high * 16 + low) :: ns)

/-- A color by its channels; one without opacity is fully opaque. -/
def Spells (first : Char → Nat → Prop) (s : List Char) (c : Color) : Prop :=
  Pairs first s [c.red, c.green, c.blue] ∧ c.opacity = 255 ∨
    Pairs first s [c.red, c.green, c.blue, c.opacity]

/-- A hexadecimal digit, or a plus sign in place of a zero. -/
def IsSignOrDigit (c : Char) (n : Nat) : Prop := c = '+' ∧ n = 0 ∨ IsHexDigit c n

theorem channel?_eq_some_iff {a b : Char} {n : UInt8} :
    channel? a b = some n ↔ ∃ high low, IsSignOrDigit a high ∧ IsHexDigit b low ∧
      UInt8.ofNat (high * 16 + low) = n := by
  constructor
  · intro h
    rw [channel?] at h
    split at h
    · cases h
    · rename_i low hlow
      have hlow := hexDigit?_eq_some_iff.mp hlow
      split at h
      · rename_i hplus
        exact ⟨0, low, .inl ⟨hplus, rfl⟩, hlow, by simpa using h⟩
      · obtain ⟨high, hhigh, hn⟩ := Option.map_eq_some_iff.mp h
        exact ⟨high, low, .inr (hexDigit?_eq_some_iff.mp hhigh), hlow, hn⟩
  · rintro ⟨high, low, hhigh, hlow, rfl⟩
    have hlow := hexDigit?_eq_some_iff.mpr hlow
    rcases hhigh with ⟨rfl, rfl⟩ | hhigh
    · simp [channel?, hlow]
    · have hplus : a ≠ '+' := fun heq => not_isHexDigit_plus high (heq ▸ hhigh)
      have hhigh := hexDigit?_eq_some_iff.mpr hhigh
      simp [channel?, hlow, hhigh, hplus]

theorem pairs_cons_iff {s : List Char} {n : UInt8} {ns : List UInt8} :
    Pairs IsSignOrDigit s (n :: ns) ↔
      ∃ a b t, s = a :: b :: t ∧ channel? a b = some n ∧ Pairs IsSignOrDigit t ns := by
  constructor
  · intro h
    cases h with
    | cons ha hb h => exact ⟨_, _, _, rfl, channel?_eq_some_iff.mpr ⟨_, _, ha, hb, rfl⟩, h⟩
  · rintro ⟨a, b, t, rfl, hchannel, h⟩
    obtain ⟨high, low, ha, hb, rfl⟩ := channel?_eq_some_iff.mp hchannel
    exact .cons ha hb h

theorem pairs_nil_iff {first : Char → Nat → Prop} {s : List Char} : Pairs first s [] ↔ s = [] := by
  constructor
  · intro h
    cases h
    rfl
  · rintro rfl
    exact .nil

/-- The reader takes a sign for a digit wherever a pair begins. -/
theorem ofHex?_eq_some_iff {hex : String} {c : Color} :
    ofHex? hex = some c ↔ Spells IsSignOrDigit (body hex) c := by
  simp only [Spells, pairs_cons_iff, pairs_nil_iff]
  constructor
  · intro h
    rw [ofHex?] at h
    split at h
    · rename_i a b d e f g hs
      split at h
      · rename_i red green blue hred hgreen hblue
        obtain rfl := Option.some.inj h
        exact .inl ⟨⟨a, b, _, hs, hred, d, e, _, rfl, hgreen, f, g, _, rfl, hblue, rfl⟩, rfl⟩
      · cases h
    · rename_i a b d e f g i j hs
      split at h
      · rename_i red green blue opacity hred hgreen hblue hopacity
        obtain rfl := Option.some.inj h
        exact .inr ⟨a, b, _, hs, hred, d, e, _, rfl, hgreen, f, g, _, rfl, hblue, i, j, _, rfl,
          hopacity, rfl⟩
      · cases h
    · cases h
  · obtain ⟨red, green, blue, opacity⟩ := c
    rintro (⟨⟨a, b, _, hs, hred, d, e, _, rfl, hgreen, f, g, _, rfl, hblue, rfl⟩, rfl⟩ |
      ⟨a, b, _, hs, hred, d, e, _, rfl, hgreen, f, g, _, rfl, hblue, i, j, _, rfl, hopacity, rfl⟩)
    · rw [body] at hs
      simp only [ofHex?, hs, hred, hgreen, hblue]
    · rw [body] at hs
      simp only [ofHex?, hs, hred, hgreen, hblue, hopacity]

theorem Pairs.mono {first first' : Char → Nat → Prop} (hfirst : ∀ c n, first c n → first' c n)
    {s : List Char} {ns : List UInt8} (h : Pairs first s ns) : Pairs first' s ns := by
  induction h with
  | nil => exact .nil
  | cons ha hb _ ih => exact .cons (hfirst _ _ ha) hb ih

/-- No pair of digits has a sign in it. -/
theorem Pairs.no_sign {s : List Char} {ns : List UInt8} (h : Pairs IsHexDigit s ns) :
    '+' ∉ s := by
  induction h with
  | nil => simp
  | cons ha hb _ ih =>
    simp only [List.mem_cons, not_or]
    exact ⟨fun h => not_isHexDigit_plus _ (h ▸ ha), fun h => not_isHexDigit_plus _ (h ▸ hb), ih⟩

/-- Without a sign all that stands in the pairs are digits. -/
theorem Pairs.of_no_sign {s : List Char} {ns : List UInt8} (h : Pairs IsSignOrDigit s ns)
    (hs : '+' ∉ s) : Pairs IsHexDigit s ns := by
  induction h with
  | nil => exact .nil
  | cons ha hb _ ih =>
    simp only [List.mem_cons, not_or] at hs
    exact .cons (ha.resolve_left fun h => hs.1 h.1.symm) hb (ih hs.2.2)

theorem Spells.signed {s : List Char} {c : Color} (h : Spells IsHexDigit s c) :
    Spells IsSignOrDigit s c :=
  have hfirst (c : Char) (n : Nat) : IsHexDigit c n → IsSignOrDigit c n := .inr
  h.imp (And.imp_left (Pairs.mono hfirst)) (Pairs.mono hfirst)

theorem Spells.no_sign {s : List Char} {c : Color} (h : Spells IsHexDigit s c) : '+' ∉ s :=
  h.elim (fun h => h.1.no_sign) Pairs.no_sign

theorem Spells.of_no_sign {s : List Char} {c : Color} (h : Spells IsSignOrDigit s c)
    (hs : '+' ∉ s) : Spells IsHexDigit s c :=
  h.imp (And.imp_left fun h => h.of_no_sign hs) fun h => h.of_no_sign hs

/--
A text is read exactly if its pairs are a sign or a digit with a digit after it, which are
hexadecimal colors but for the texts that are read in spite of a sign. What is written for
a color is read as that color.
-/
theorem ofHex?_reads (hex : String) :
    (∀ c, ofHex? hex = some c ↔ Spells IsSignOrDigit (body hex) c) ∧
      ((∀ c, ofHex? hex = some c ↔ Spells IsHexDigit (body hex) c) ↔
        ¬ ('+' ∈ body hex ∧ ∃ c, ofHex? hex = some c)) ∧
      ∀ c : Color, ofHex? c.toHex = some c := by
  refine ⟨fun c => ofHex?_eq_some_iff, ⟨?_, ?_⟩, ofHex?_toHex⟩
  · rintro h ⟨hsign, c, hc⟩
    exact ((h c).mp hc).no_sign hsign
  · intro h c
    constructor
    · intro hc
      have hsign : '+' ∉ body hex := fun hsign => h ⟨hsign, c, hc⟩
      exact (ofHex?_eq_some_iff.mp hc).of_no_sign hsign
    · intro hc
      exact ofHex?_eq_some_iff.mpr hc.signed

/-- Three pairs with a sign are read as a color, although none of them is hexadecimal. -/
theorem ofHex?_signs :
    ofHex? "#+f+f+f" = some ⟨15, 15, 15, 255⟩ ∧ ¬ ∃ c, Spells IsHexDigit (body "#+f+f+f") c := by
  refine ⟨by decide, ?_⟩
  rintro ⟨c, hc⟩
  exact hc.no_sign (by decide)

end Color

end Gridbook
