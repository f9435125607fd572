import Gridbook.Proofs.Parsing

/-!
# The grammar and its trees

Which texts are formulas is said by a grammar of texts alone, and which tree a
formula has by its tokens and by what the operators bind. A text is read exactly if
the grammar has it and it is not nested too deeply; the tree that is read has the
tokens of the text, and no other tree that binds as operators do has them.
-/
namespace Gridbook.Formula

open Decimal (Spelling valueOf)
open Text (IsBlank Stops)
open Wording (IsGap)

/-- The text is the capital of a column and the digits of a row number, counted from one. -/
def IsName (name : List Char) (c : Coord) : Prop :=
  ∃ l digits, name = l :: digits ∧ l.isUpper = true ∧ c.col = l.toNat - 'A'.toNat ∧
    digits ≠ [] ∧ (∀ d ∈ digits, d.isDigit = true) ∧
    valueOf digits = c.row + 1 ∧ c.row + 1 ≤ Coord.lastRow

inductive Symbol where
  | sum
  | product
  | operand

/-- The texts that a symbol of the grammar stands for. A gap may stand in front of each token. -/
inductive Derives : Symbol → List Char → Prop
  | product {s : List Char} (hs : Derives .product s) : Derives .sum s
  | term {s g t : List Char} {c : Char} (hs : Derives .sum s) (hg : IsGap g)
      (hc : c = '+' ∨ c = '-') (ht : Derives .product t) : Derives .sum (s ++ (g ++ c :: t))
  | operand {s : List Char} (hs : Derives .operand s) : Derives .product s
  | factor {s g t : List Char} {c : Char} (hs : Derives .product s) (hg : IsGap g)
      (hc : c = '*' ∨ c = '/') (ht : Derives .operand t) : Derives .product (s ++ (g ++ c :: t))
  | signed {g s : List Char} {c : Char} (hg : IsGap g) (hc : c = '-' ∨ c = '+')
      (hs : Derives .operand s) : Derives .operand (g ++ c :: s)
  | group {g s h : List Char} (hg : IsGap g) (hs : Derives .sum s) (hh : IsGap h) :
      Derives .operand (g ++ '(' :: (s ++ (h ++ [')'])))
  | number {g : List Char} {n : Spelling} (hg : IsGap g) (hn : n.Valid) :
      Derives .operand (g ++ n.text)
  | name {g name : List Char} {c : Coord} (hg : IsGap g) (hname : IsName name c) :
      Derives .operand (g ++ name)

/-- How tightly the outermost part of a tree binds: sums 0, products 1, all else 2. -/
def Expr.strength : Expr → Nat
  | binary _ op _ => op.level
  | _ => 2

/--
Operators bind as they do in arithmetic: factors tighter than terms, signs tighter
than both, and chains lean to the left.
-/
def Expr.BindsAsUsual : Expr → Prop
  | number _ => True
  | cell _ => True
  | binary left op right =>
    op.level ≤ left.strength ∧ op.level < right.strength ∧ left.BindsAsUsual ∧ right.BindsAsUsual
  | signed _ operand => operand.strength = 2 ∧ operand.BindsAsUsual
  | group inner => inner.BindsAsUsual

/-- The gaps and leaves of a wording are such; its operators may stand anywhere. -/
def Wording.IsSpelled : Wording → Prop
  | number gap spelling => IsGap gap ∧ spelling.Valid
  | cell gap name place => IsGap gap ∧ IsName name place
  | binary left gap _ right => left.IsSpelled ∧ IsGap gap ∧ right.IsSpelled
  | signed gap _ operand => IsGap gap ∧ operand.IsSpelled
  | group gap inner closing => IsGap gap ∧ inner.IsSpelled ∧ IsGap closing

/--
The formula consists of the tokens of the tree from left to right: its numbers, cells
and operators, and a pair of parentheses for each of its groups.
-/
def HasTokens (e : Expr) (formula : List Char) : Prop :=
  ∃ (w : Wording) (b : List Char), w.IsSpelled ∧ w.tree = e ∧ IsBlank b ∧ formula = w.text ++ b

theorem isName_iff {name : List Char} {c : Coord} :
    IsName name c ↔ Coord.ofChars? name = some c := by
  constructor
  · rintro ⟨l, digits, rfl, hl, hcol, hne, hdigits, hvalue, hrow⟩
    have hempty : digits.isEmpty = false := by simpa using hne
    have hall : digits.all Char.isDigit = true := List.all_eq_true.mpr hdigits
    have hnumber : Nat.ofDigitChars 10 digits 0 = c.row + 1 := hvalue
    simp only [Coord.ofChars?, hl, hempty, hall, Bool.not_false, Bool.and_self, ↓reduceIte,
      hnumber, hrow, Nat.le_add_left, and_self, Nat.add_sub_cancel, ← hcol]
  · intro h
    obtain ⟨l, digits, rfl, hl, hne, hdigits, -, hrow⟩ := Coord.shape_of_ofChars? h
    simp only [Coord.ofChars?] at h
    split at h
    · split at h
      · rename_i hnumber
        obtain rfl := Option.some.inj h
        refine ⟨l, digits, rfl, hl, rfl, hne, hdigits, ?_, hrow⟩
        simp only [valueOf]
        omega
      · simp at h
    · simp at h

theorem Wording.IsSpelled.fits {w : Wording} (h : w.IsSpelled) (hbinds : w.tree.BindsAsUsual) :
    w.Fits w.tree.strength := by
  induction w with
  | number gap spelling => exact h
  | cell gap name place => exact ⟨h.1, isName_iff.mp h.2⟩
  | binary left gap op right ihl ihr =>
    obtain ⟨hleft, hgap, hright⟩ := h
    obtain ⟨hlevel, hlevel', hl, hr⟩ := hbinds
    exact ⟨Nat.le_refl _, (ihl hleft hl).mono hlevel, hgap, (ihr hright hr).mono hlevel'⟩
  | signed gap sign operand ih =>
    obtain ⟨hstrength, hoperand⟩ := hbinds
    exact ⟨h.1, hstrength ▸ ih h.2 hoperand⟩
  | group gap inner closing ih =>
    exact ⟨h.1, (ih h.2.1 hbinds).mono (Nat.zero_le _), h.2.2⟩

theorem Expr.strength_le (e : Expr) : e.strength ≤ 2 := by
  cases e with
  | binary left op right => exact Nat.le_succ_of_le op.level_le
  | number x => exact Nat.le_refl 2
  | cell c => exact Nat.le_refl 2
  | signed sign operand => exact Nat.le_refl 2
  | group inner => exact Nat.le_refl 2

/-- A wording fits its level by its tokens and by what its operators bind. -/
theorem Wording.Fits.spelled {level : Nat} {w : Wording} (hlevel : level ≤ 2) (h : w.Fits level) :
    w.IsSpelled ∧ w.tree.BindsAsUsual ∧ level ≤ w.tree.strength := by
  induction w generalizing level with
  | number gap spelling => exact ⟨h, trivial, hlevel⟩
  | cell gap name place => exact ⟨⟨h.1, isName_iff.mpr h.2⟩, trivial, hlevel⟩
  | binary left gap op right ihl ihr =>
    obtain ⟨hop, hleft, hgap, hright⟩ := h
    have hop' := op.level_le
    obtain ⟨hl, hbinds, hstrength⟩ := ihl (by omega) hleft
    obtain ⟨hr, hbinds', hstrength'⟩ := ihr (by omega) hright
    exact ⟨⟨hl, hgap, hr⟩, ⟨hstrength, hstrength', hbinds, hbinds'⟩, hop⟩
  | signed gap sign operand ih =>
    obtain ⟨hoperand, hbinds, hstrength⟩ := ih (Nat.le_refl 2) h.2
    exact ⟨⟨h.1, hoperand⟩, ⟨Nat.le_antisymm (Expr.strength_le _) hstrength, hbinds⟩, hlevel⟩
  | group gap inner closing ih =>
    obtain ⟨hinner, hbinds, -⟩ := ih (Nat.zero_le 2) h.2.1
    exact ⟨⟨h.1, hinner, h.2.2⟩, hbinds, hlevel⟩

namespace Symbol

/-- The level of the wordings that a symbol derives. -/
def level : Symbol → Nat
  | sum => 0
  | product => 1
  | operand => 2

end Symbol

theorem Derives.of_operand {s : List Char} (h : Derives .operand s) (x : Symbol) : Derives x s := by
  cases x with
  | sum => exact .product (.operand h)
  | product => exact .operand h
  | operand => exact h

theorem derives_of_fits {x : Symbol} {w : Wording} (h : w.Fits x.level) : Derives x w.text := by
  induction w generalizing x with
  | number gap spelling => exact (Derives.number h.1 h.2).of_operand x
  | cell gap name place => exact (Derives.name h.1 (isName_iff.mpr h.2)).of_operand x
  | binary left gap op right ihl ihr =>
    obtain ⟨hlevel, hleft, hgap, hright⟩ := h
    have term (hop : op.level = 0) (hc : op.symbol = '+' ∨ op.symbol = '-') :
        Derives x (left.text ++ (gap ++ op.symbol :: right.text)) := by
      rw [hop] at hlevel hleft hright
      obtain rfl : x = .sum := by cases x <;> first | rfl | exact absurd hlevel (by decide)
      exact .term (ihl (x := .sum) hleft) hgap hc (ihr (x := .product) hright)
    have factor (hop : op.level = 1) (hc : op.symbol = '*' ∨ op.symbol = '/') :
        Derives x (left.text ++ (gap ++ op.symbol :: right.text)) := by
      rw [hop] at hlevel hleft hright
      have hproduct := Derives.factor (ihl (x := .product) hleft) hgap hc
        (ihr (x := .operand) hright)
      cases x with
      | sum => exact .product hproduct
      | product => exact hproduct
      | operand => exact absurd hlevel (by decide)
    cases op with
    | add => exact term rfl (.inl rfl)
    | subtract => exact term rfl (.inr rfl)
    | multiply => exact factor rfl (.inl rfl)
    | divide => exact factor rfl (.inr rfl)
  | signed gap sign operand ih =>
    have hsign : sign.symbol = '-' ∨ sign.symbol = '+' := by
      cases sign with
      | minus => exact .inl rfl
      | plus => exact .inr rfl
    exact (Derives.signed h.1 hsign (ih (x := .operand) h.2)).of_operand x
  | group gap inner closing ih =>
    exact (Derives.group h.1 (ih (x := .sum) h.2.1) h.2.2).of_operand x

theorem exists_fits_of_derives {x : Symbol} {s : List Char} (h : Derives x s) :
    ∃ w : Wording, w.Fits x.level ∧ w.text = s := by
  induction h with
  | product hs ih =>
    obtain ⟨w, hw, htext⟩ := ih
    exact ⟨w, hw.mono (by decide), htext⟩
  | @term s g t c hs hg hc ht ihs iht =>
    obtain ⟨l, hl, rfl⟩ := ihs
    obtain ⟨r, hr, rfl⟩ := iht
    obtain ⟨op, hop, rfl⟩ : ∃ op : Operator, op.level = 0 ∧ c = op.symbol := by
      rcases hc with rfl | rfl
      · exact ⟨.add, rfl, rfl⟩
      · exact ⟨.subtract, rfl, rfl⟩
    exact ⟨.binary l g op r, ⟨hop.ge, hop ▸ hl, hg, hop ▸ hr⟩, rfl⟩
  | operand hs ih =>
    obtain ⟨w, hw, htext⟩ := ih
    exact ⟨w, hw.mono (by decide), htext⟩
  | @factor s g t c hs hg hc ht ihs iht =>
    obtain ⟨l, hl, rfl⟩ := ihs
    obtain ⟨r, hr, rfl⟩ := iht
    obtain ⟨op, hop, rfl⟩ : ∃ op : Operator, op.level = 1 ∧ c = op.symbol := by
      rcases hc with rfl | rfl
      · exact ⟨.multiply, rfl, rfl⟩
      · exact ⟨.divide, rfl, rfl⟩
    have hright : r.Fits (op.level + 1) := by rwa [hop]
    exact ⟨.binary l g op r, ⟨hop.ge, hop ▸ hl, hg, hright⟩, rfl⟩
  | @signed g s c hg hc hs ih =>
    obtain ⟨w, hw, rfl⟩ := ih
    obtain ⟨sign, rfl⟩ : ∃ sign : Sign, c = sign.symbol := by
      rcases hc with rfl | rfl
      · exact ⟨.minus, rfl⟩
      · exact ⟨.plus, rfl⟩
    exact ⟨.signed g sign w, ⟨hg, hw⟩, rfl⟩
  | @group g s h hg hs hh ih =>
    obtain ⟨w, hw, rfl⟩ := ih
    exact ⟨.group g w h, ⟨hg, hw, hh⟩, rfl⟩
  | @number g n hg hn => exact ⟨.number g n, ⟨hg, hn⟩, rfl⟩
  | @name g name c hg hname => exact ⟨.cell g name c, ⟨hg, isName_iff.mp hname⟩, rfl⟩

/-- A tree is read if it has the tokens of the formula and binds as usual. -/
theorem read_eq_ok_of_hasTokens {text : List Char} {e : Expr}
    (hnesting : nesting (body text) ≤ deepestNesting) (hbinds : e.BindsAsUsual)
    (htokens : HasTokens e (body text)) : read text = .ok e := by
  obtain ⟨w, b, hspelled, rfl, hb, htext⟩ := htokens
  exact read_eq_ok_iff.mpr
    ⟨hnesting, w, b, (hspelled.fits hbinds).mono (Nat.zero_le _), rfl, hb, htext⟩

/--
A text is read exactly if it is not nested too deeply and what stands behind its
equals sign is a sum of the grammar with blanks behind it. The tree that is read binds
as usual and has the tokens of the text, and it is the only such tree.
-/
theorem read_iff_derives (text : List Char) :
    ((∃ e, read text = .ok e) ↔ nesting (body text) ≤ deepestNesting ∧
      ∃ s b, Derives .sum s ∧ IsBlank b ∧ body text = s ++ b) ∧
    ∀ e, read text = .ok e → e.BindsAsUsual ∧ HasTokens e (body text) ∧
      ∀ e' : Expr, e'.BindsAsUsual → HasTokens e' (body text) → e' = e := by
  refine ⟨⟨?_, ?_⟩, ?_⟩
  · rintro ⟨e, h⟩
    obtain ⟨hnesting, w, b, hw, -, hb, htext⟩ := read_eq_ok_iff.mp h
    exact ⟨hnesting, w.text, b, derives_of_fits (x := .sum) hw, hb, htext⟩
  · rintro ⟨hnesting, s, b, hs, hb, htext⟩
    obtain ⟨w, hw, rfl⟩ := exists_fits_of_derives hs
    exact ⟨w.tree, read_eq_ok_iff.mpr ⟨hnesting, w, b, hw, rfl, hb, htext⟩⟩
  · intro e h
    obtain ⟨hnesting, w, b, hw, rfl, hb, htext⟩ := read_eq_ok_iff.mp h
    obtain ⟨hspelled, hbinds, -⟩ := hw.spelled (Nat.zero_le 2)
    refine ⟨hbinds, ⟨w, b, hspelled, rfl, hb, htext⟩, fun e' hbinds' htokens' => ?_⟩
    have h' := read_eq_ok_of_hasTokens hnesting hbinds' htokens'
    exact Except.ok.inj (h'.symm.trans h)

theorem read_iff_derives_chain : ∃ e, read "=-( A1+2.5E-1)*B02/3.-4 ".toList = .ok e ∧
    e.BindsAsUsual ∧ HasTokens e (body "=-( A1+2.5E-1)*B02/3.-4 ".toList) ∧
    ∀ e' : Expr, e'.BindsAsUsual → HasTokens e' (body "=-( A1+2.5E-1)*B02/3.-4 ".toList) → e' = e :=
  ⟨_, rfl, (read_iff_derives _).2 _ rfl⟩

end Gridbook.Formula
