import Gridbook.Proofs.Grammar
import Gridbook.Proofs.PlainDecimal
import Gridbook.Proofs.Uses

/-!
# The nesting of a formula

The nesting of a text is found by a scan that counts the open parentheses and the signs
in a row. Of a formula it finds at least the reach: the parentheses around a place with
the signs behind the last of them. Signs in the exponents of numbers may add to that; a
printed formula has none, so its nesting is just its reach.
-/
namespace Gridbook.Formula

open Decimal (IsSize Spelling)
open Wording (IsGap)

/-- The signs that an operator is taken for. -/
def Operator.signs : Operator → Nat
  | add => 1
  | subtract => 1
  | multiply => 0
  | divide => 0

namespace Expr

/-- The numbers of the formula, from left to right. -/
def numbers : Expr → List Float
  | number x => [x]
  | cell _ => []
  | binary left _ right => numbers left ++ numbers right
  | signed _ operand => numbers operand
  | group inner => numbers inner

/--
The most parentheses around a place of the formula together with the signs behind the
last of them, where `signs` signs stand in front of the formula. A plus or a minus
between two operands is a sign in front of the second one.
-/
def reach (signs : Nat) : Expr → Nat
  | number _ => signs
  | cell _ => signs
  | binary left op right => max (left.reach signs) (right.reach op.signs)
  | signed _ operand => operand.reach (signs + 1)
  | group inner => max signs (inner.reach 0 + 1)

theorem reach_mono (e : Expr) {m n : Nat} (h : m ≤ n) : e.reach m ≤ e.reach n := by
  induction e generalizing m n with
  | number | cell => exact h
  | binary left op right ihl ihr => exact max_le_max_right _ (ihl h)
  | signed sign operand ih => exact ih (Nat.succ_le_succ h)
  | group inner ih => exact max_le_max_right _ h

theorem le_reach (e : Expr) (signs : Nat) : signs ≤ e.reach signs := by
  induction e generalizing signs with
  | number | cell => exact Nat.le_refl _
  | binary left op right ihl ihr => exact (ihl signs).trans (Nat.le_max_left _ _)
  | signed sign operand ih => exact (Nat.le_succ signs).trans (ih (signs + 1))
  | group inner ih => exact Nat.le_max_left _ _

end Expr

theorem le_nestingWith (depth signs deepest : Nat) (s : List Char) :
    deepest ≤ nestingWith depth signs deepest s := by
  induction s generalizing depth signs deepest with
  | nil => exact Nat.le_refl _
  | cons c s ih =>
    rw [nestingWith]
    exact (Nat.le_max_left _ _).trans (ih _ _ _)

theorem isQuiet_of_isDigit {c : Char} (h : c.isDigit = true) : isQuiet c = true :=
  isQuiet_of_isWord (Text.isWord_of_isDigit h)

/-- The digits and the point of a numeral. -/
theorem isQuiet_mantissa {n : Spelling} (hn : n.Valid) :
    ∀ c ∈ n.whole ++ Spelling.tail n.fraction, isQuiet c = true := by
  intro c hc
  rcases List.mem_append.mp hc with hc | hc
  · exact isQuiet_of_isDigit (hn.whole c hc)
  · cases hfraction : n.fraction with
    | none => simp [hfraction, Spelling.tail] at hc
    | some digits =>
      rw [hfraction, Spelling.tail] at hc
      rcases List.mem_cons.mp hc with rfl | hc
      · decide
      · exact isQuiet_of_isDigit (hn.fraction c (by simp [hfraction, hc]))

theorem mantissa_ne_nil {n : Spelling} (hn : n.Valid) :
    n.whole ++ Spelling.tail n.fraction ≠ [] := by
  intro h
  obtain ⟨hwhole, htail⟩ := List.append_eq_nil_iff.mp h
  cases hfraction : n.fraction with
  | none => exact hn.digits.elim (fun hne => hne hwhole) fun hne => hne (by simp [hfraction])
  | some digits => simp [hfraction, Spelling.tail] at htail

theorem ne_parenthesis_of_isQuiet {c : Char} (h : isQuiet c = true) : c ≠ '(' ∧ c ≠ ')' := by
  constructor <;> rintro rfl <;> exact absurd h (by decide)

/-- A numeral has no parentheses: behind its digits at most a mark, a sign and digits follow. -/
theorem ne_parenthesis_of_spelling {n : Spelling} (hn : n.Valid) :
    ∀ c ∈ n.text, c ≠ '(' ∧ c ≠ ')' := by
  refine List.forall_mem_append.mpr
    ⟨fun c hc => ne_parenthesis_of_isQuiet (isQuiet_mantissa hn c hc), fun c hc => ?_⟩
  cases hpower : n.power with
  | none => simp [hpower, Spelling.raised] at hc
  | some p =>
    obtain ⟨hmark, hsign, hdigits, -⟩ := hn.power p hpower
    rw [hpower, Spelling.raised, Decimal.Power.text] at hc
    rcases List.mem_cons.mp hc with rfl | hc
    · rcases hmark with hmark | hmark <;> rw [hmark] <;> decide
    rcases List.mem_append.mp hc with hc | hc
    · rcases hsign with hsign | hsign | hsign <;> simp only [hsign, Option.toList_none,
        Option.toList_some, List.not_mem_nil, List.mem_singleton] at hc <;> subst hc <;> decide
    · exact ne_parenthesis_of_isQuiet (isQuiet_of_isDigit (hdigits c hc))

/-- A finite number without a sign is printed as digits and a point at most. -/
theorem isQuiet_plain {x : Float} (hx : IsSize x) :
    Decimal.plain x ≠ [] ∧ ∀ c ∈ Decimal.plain x, isQuiet c = true := by
  obtain ⟨n, hn, hpower, htext, -⟩ := Decimal.exists_spelling_plain hx
  rw [← htext, Spelling.text, hpower, Spelling.raised, List.append_nil]
  exact ⟨mantissa_ne_nil hn, isQuiet_mantissa hn⟩

/--
A scan of the text, begun inside some parentheses and behind some signs, ends inside the
same parentheses and has found a nesting of at least `found`.
-/
def Finds (depth signs deepest : Nat) (s : List Char) (found : Nat) : Prop :=
  ∀ rest, ∃ signs' deepest', depth + signs' ≤ deepest' ∧ max deepest found ≤ deepest' ∧
    nestingWith depth signs deepest (s ++ rest) = nestingWith depth signs' deepest' rest

section

variable {depth signs deepest : Nat} (h : depth + signs ≤ deepest)

include h

/-- A text without parentheses leaves all of them open. -/
theorem finds_flat {s : List Char} (hs : ∀ c ∈ s, c ≠ '(' ∧ c ≠ ')') :
    Finds depth signs deepest s (depth + signs) := by
  induction s generalizing signs deepest with
  | nil => exact fun rest => ⟨signs, deepest, h, max_le (Nat.le_refl _) h, rfl⟩
  | cons c s ih =>
    intro rest
    obtain ⟨hopen, hclose⟩ := hs c (by simp)
    have next (signs₁ : Nat) : ∃ signs' deepest', depth + signs' ≤ deepest' ∧
        max deepest (depth + signs) ≤ deepest' ∧
        nestingWith depth signs₁ (max deepest (depth + signs₁)) (s ++ rest) =
          nestingWith depth signs' deepest' rest := by
      obtain ⟨signs', deepest', hle, hfound, hscan⟩ :=
        ih (Nat.le_max_right deepest (depth + signs₁)) (fun d hd => hs d (by simp [hd])) rest
      exact ⟨signs', deepest', hle, by omega, hscan⟩
    simp only [List.cons_append, nestingWith, hopen, hclose, ↓reduceIte]
    split
    · exact next (signs + 1)
    · split
      · exact next signs
      · exact next 0

/-- A gap changes nothing. -/
theorem nestingWith_gap {g : List Char} (hg : IsGap g) (s : List Char) :
    nestingWith depth signs deepest (g ++ s) = nestingWith depth signs deepest s := by
  induction g with
  | nil => rfl
  | cons c g ih =>
    have hgap := hg c (by simp)
    have hblank := isBlank_of_isGap hgap
    have hother : c ≠ '(' ∧ c ≠ ')' ∧ c ≠ '+' ∧ c ≠ '-' := by
      refine ⟨?_, ?_, ?_, ?_⟩ <;> rintro rfl <;> exact absurd hgap (by decide)
    simp only [List.cons_append, nestingWith, hother, hblank, or_self, ↓reduceIte,
      Nat.max_eq_left h]
    exact ih fun d hd => hg d (by simp [hd])

end

theorem nestingWith_sign (sign : Sign) (depth signs deepest : Nat) (s : List Char) :
    nestingWith depth signs deepest (sign.symbol :: s) =
      nestingWith depth (signs + 1) (max deepest (depth + (signs + 1))) s := by
  cases sign <;> rfl

/-- An operator counts for as many signs as it is taken for, and signs in front of it may count too. -/
theorem exists_nestingWith_operator (op : Operator) (depth signs deepest : Nat) (s : List Char) :
    ∃ signs' deepest', op.signs ≤ signs' ∧ depth + signs' ≤ deepest' ∧ deepest ≤ deepest' ∧
      nestingWith depth signs deepest (op.symbol :: s) = nestingWith depth signs' deepest' s := by
  cases op with
  | add | subtract =>
    exact ⟨signs + 1, _, Nat.le_add_left _ _, Nat.le_max_right _ _, Nat.le_max_left _ _, rfl⟩
  | multiply | divide =>
    exact ⟨0, _, Nat.le_refl _, Nat.le_max_right _ _, Nat.le_max_left _ _, rfl⟩

theorem nestingWith_open (depth signs deepest : Nat) (s : List Char) :
    nestingWith depth signs deepest ('(' :: s) =
      nestingWith (depth + 1) 0 (max deepest (depth + 1)) s := rfl

theorem nestingWith_close (depth signs deepest : Nat) (s : List Char) :
    nestingWith (depth + 1) signs deepest (')' :: s) =
      nestingWith depth 0 (max deepest depth) s := rfl

theorem ne_parenthesis_of_name {name : List Char} {c : Coord}
    (hname : Coord.ofChars? name = some c) : ∀ d ∈ name, d ≠ '(' ∧ d ≠ ')' :=
  fun d hd => ne_parenthesis_of_isQuiet (isQuiet_of_isWord ((Coord.isWord_of_ofChars? hname).2 d hd))

/-- A scan of a formula finds its reach. -/
theorem finds_reach {level : Nat} {w : Wording} (hw : w.Fits level) {depth signs deepest : Nat}
    (h : depth + signs ≤ deepest) :
    Finds depth signs deepest w.text (depth + w.tree.reach signs) := by
  induction w generalizing level depth signs deepest with
  | number gap spelling =>
    obtain ⟨hgap, hvalid⟩ := hw
    intro rest
    rw [Wording.text, List.append_assoc, nestingWith_gap h hgap]
    exact finds_flat h (ne_parenthesis_of_spelling hvalid) rest
  | cell gap name place =>
    obtain ⟨hgap, hname⟩ := hw
    intro rest
    rw [Wording.text, List.append_assoc, nestingWith_gap h hgap]
    exact finds_flat h (ne_parenthesis_of_name hname) rest
  | binary left gap op right ihl ihr =>
    obtain ⟨-, hleft, hgap, hright⟩ := hw
    intro rest
    simp only [Wording.text, List.append_assoc, List.cons_append]
    obtain ⟨signs₁, deepest₁, hle₁, hfound₁, hscan₁⟩ :=
      ihl hleft h (gap ++ op.symbol :: (right.text ++ rest))
    obtain ⟨signs₂, deepest₂, hsigns, hle₂, hfound₂, hscan₂⟩ :=
      exists_nestingWith_operator op depth signs₁ deepest₁ (right.text ++ rest)
    obtain ⟨signs₃, deepest₃, hle₃, hfound₃, hscan₃⟩ := ihr hright hle₂ rest
    refine ⟨signs₃, deepest₃, hle₃, ?_, ?_⟩
    · have hr := right.tree.reach_mono hsigns
      simp only [Wording.tree, Expr.reach]
      omega
    · rw [hscan₁, nestingWith_gap hle₁ hgap, hscan₂, hscan₃]
  | signed gap sign operand ih =>
    obtain ⟨hgap, hoperand⟩ := hw
    intro rest
    rw [Wording.text, List.append_assoc, nestingWith_gap h hgap, List.cons_append, nestingWith_sign]
    obtain ⟨signs', deepest', hle, hfound, hscan⟩ :=
      ih hoperand (Nat.le_max_right deepest (depth + (signs + 1))) rest
    exact ⟨signs', deepest', hle, by simp only [Wording.tree, Expr.reach]; omega, hscan⟩
  | group gap inner closing ih =>
    obtain ⟨hgap, hinner, hclosing⟩ := hw
    intro rest
    simp only [Wording.text, List.append_assoc, List.cons_append, List.nil_append]
    have hopened : depth + 1 + 0 ≤ max deepest (depth + 1) := Nat.le_max_right _ _
    obtain ⟨signs', deepest', hle, hfound, hscan⟩ := ih hinner hopened (closing ++ ')' :: rest)
    rw [nestingWith_gap h hgap, nestingWith_open, hscan, nestingWith_gap hle hclosing,
      nestingWith_close]
    refine ⟨0, max deepest' depth, Nat.le_max_right _ _, ?_, rfl⟩
    simp only [Wording.tree, Expr.reach]
    omega

/-- The nesting of a text is at least the reach of its formula. -/
theorem reach_le_nesting {text : List Char} {e : Expr} (h : read text = .ok e) :
    e.reach 0 ≤ nesting text := by
  obtain ⟨-, w, b, hw, rfl, -, htext⟩ := read_eq_ok_iff.mp h
  have hfinds : Finds 0 0 0 w.text (0 + w.tree.reach 0) := finds_reach hw (Nat.le_refl 0)
  obtain ⟨signs, deepest, -, hfound, hscan⟩ := hfinds b
  calc w.tree.reach 0 ≤ deepest := by omega
    _ ≤ nestingWith 0 signs deepest b := le_nestingWith _ _ _ _
    _ = nesting text := by rw [← hscan, ← htext, ← nesting_body, nesting]

/-- A scan of a printed formula finds its reach and no more. -/
theorem nestingWith_render {e : Expr} (hnumbers : ∀ x ∈ e.numbers, IsSize x)
    (hcells : ∀ c ∈ e.cells, c.IsNamed) {depth signs deepest : Nat} (h : depth + signs ≤ deepest)
    (s : List Char) :
    nestingWith depth signs deepest (e.render ++ s) =
      nestingWith depth 0 (max deepest (depth + e.reach signs)) s := by
  induction e generalizing depth signs deepest s with
  | number x =>
    obtain ⟨hne, hquiet⟩ := isQuiet_plain (hnumbers x (by simp [Expr.numbers]))
    rw [Expr.render, nestingWith_quiet hne hquiet, Expr.reach]
    congr 1
    omega
  | cell c =>
    have hname := Coord.ofChars?_label (hcells c (by simp [Expr.cells]))
    obtain ⟨hne, hword⟩ := Coord.isWord_of_ofChars? hname
    rw [Expr.render, nestingWith_quiet hne fun c hc => isQuiet_of_isWord (hword c hc), Expr.reach]
    congr 1
    omega
  | binary left op right ihl ihr =>
    obtain ⟨hnumbersl, hnumbersr⟩ := List.forall_mem_append.mp hnumbers
    obtain ⟨hcellsl, hcellsr⟩ := List.forall_mem_append.mp hcells
    have hop (deepest : Nat) (s : List Char) :
        nestingWith depth 0 deepest (op.symbol :: s) =
          nestingWith depth op.signs (max deepest (depth + op.signs)) s := by
      cases op <;> rfl
    have hsigns := right.le_reach op.signs
    rw [Expr.render, List.append_assoc, List.cons_append, ihl hnumbersl hcellsl h, hop,
      ihr hnumbersr hcellsr (Nat.le_max_right _ _), Expr.reach]
    congr 1
    omega
  | signed sign operand ih =>
    have hsigns := operand.le_reach (signs + 1)
    rw [Expr.render, List.cons_append, nestingWith_sign,
      ih hnumbers hcells (Nat.le_max_right _ _), Expr.reach]
    congr 1
    omega
  | group inner ih =>
    rw [Expr.render, List.cons_append, List.append_assoc, nestingWith_open,
      ih hnumbers hcells (Nat.le_max_right _ _), List.singleton_append, nestingWith_close,
      Expr.reach]
    congr 1
    omega

/-- The nesting of a printed formula is its reach. -/
theorem nesting_render {e : Expr} (hnumbers : ∀ x ∈ e.numbers, IsSize x)
    (hcells : ∀ c ∈ e.cells, c.IsNamed) : nesting e.render = e.reach 0 := by
  have hstart : 0 + 0 ≤ 0 := Nat.le_refl 0
  have hscan := nestingWith_render hnumbers hcells hstart []
  rw [List.append_nil] at hscan
  rw [nesting, hscan, nestingWith]
  omega

end Gridbook.Formula
