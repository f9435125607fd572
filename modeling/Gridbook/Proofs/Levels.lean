import Gridbook.Proofs.Printing

/-!
# Levels of signs and parentheses

A reader has every sign and every pair of parentheses open that stands around its place
in the text. The nesting of a text, which is found before it is read, counts all open
parentheses, but of the signs only those behind the last of them. So a formula may have
more levels than its nesting says. They are bounded all the same: the deeper a row of
signs stands in parentheses, the shorter it is.
-/
namespace Gridbook.Formula

namespace Expr

/-- The most signs and pairs of parentheses that stand around a number or a cell. -/
def levels : Expr → Nat
  | number _ => 0
  | cell _ => 0
  | binary left _ right => max left.levels right.levels
  | signed _ operand => operand.levels + 1
  | group inner => inner.levels + 1

/--
A row of `n` signs, a pair of parentheses with a row of `n - 1` signs in it, and so on
down to no sign are the most levels that a reach of `n` allows.
-/
theorem levels_le_of_reach_le {e : Expr} (hbinds : e.BindsAsUsual) {signs n : Nat}
    (hsigns : signs = 0 ∨ e.strength = 2) (h : e.reach signs ≤ n) :
    2 * (e.levels + signs) ≤ n * (n + 3) := by
  induction e generalizing signs n with
  | number | cell =>
    have hle : signs ≤ n := h
    simp only [levels]
    nlinarith
  | binary left op right ihl ihr =>
    obtain rfl : signs = 0 := hsigns.resolve_right (Nat.ne_of_lt (Nat.lt_succ_of_le op.level_le))
    obtain ⟨hleft, hright⟩ := max_le_iff.mp h
    obtain ⟨-, -, hbindsl, hbindsr⟩ := hbinds
    have hl := ihl hbindsl (.inl rfl) hleft
    have hr := ihr hbindsr (.inl rfl) ((right.reach_mono (Nat.zero_le _)).trans hright)
    simp only [levels]
    omega
  | signed sign operand ih =>
    have hoperand := ih hbinds.2 (.inr hbinds.1) h
    simp only [levels]
    omega
  | group inner ih =>
    obtain ⟨hle, hinner⟩ := max_le_iff.mp h
    obtain ⟨k, rfl⟩ : ∃ k, n = k + 1 := ⟨n - 1, by omega⟩
    have hlevels := ih hbinds (.inl rfl) (Nat.le_of_succ_le_succ hinner)
    simp only [levels]
    nlinarith

end Expr

/-- The wording behind a row of minus signs. -/
def Wording.negated : Nat → Wording → Wording
  | 0, w => w
  | n + 1, w => .signed [] .minus (negated n w)

/-- A row of `n` signs, a pair of parentheses, a row of `n - 1` signs in it, and so on. -/
def Wording.tower : Nat → Wording
  | 0 => .number [] ⟨['1'], none, none⟩
  | n + 1 => negated (n + 1) (.group [] (tower n) [])

namespace Wording

theorem fits_negated {w : Wording} (hw : w.Fits 2) (n : Nat) : (w.negated n).Fits 2 := by
  induction n with
  | zero => exact hw
  | succ n ih => exact ⟨isGap_nil, ih⟩

theorem valid_one : (⟨['1'], none, none⟩ : Decimal.Spelling).Valid where
  whole c hc := by
    obtain rfl := List.mem_singleton.mp hc
    rfl
  fraction c hc := absurd hc List.not_mem_nil
  digits := .inl (List.cons_ne_nil _ _)
  power p hp := absurd hp (Option.not_mem_none p)

theorem fits_tower (n : Nat) : (tower n).Fits 2 := by
  induction n with
  | zero => exact ⟨isGap_nil, valid_one⟩
  | succ n ih =>
    have hgroup : (group [] (tower n) []).Fits 2 := ⟨isGap_nil, ih.mono (Nat.zero_le 2), isGap_nil⟩
    exact fits_negated hgroup (n + 1)

theorem levels_negated (n : Nat) (w : Wording) :
    (w.negated n).tree.levels = n + w.tree.levels := by
  induction n with
  | zero => rw [negated, Nat.zero_add]
  | succ n ih =>
    rw [negated, tree, Expr.levels, ih]
    omega

theorem levels_tower (n : Nat) : 2 * (tower n).tree.levels = n * (n + 3) := by
  induction n with
  | zero => rfl
  | succ n ih =>
    rw [tower, levels_negated, tree, Expr.levels]
    nlinarith

theorem nestingWith_negated (n : Nat) (w : Wording) {depth signs deepest : Nat}
    (h : depth + signs ≤ deepest) (s : List Char) :
    nestingWith depth signs deepest ((w.negated n).text ++ s) =
      nestingWith depth (signs + n) (max deepest (depth + (signs + n))) (w.text ++ s) := by
  induction n generalizing signs deepest with
  | zero => rw [negated, Nat.add_zero, Nat.max_eq_left h]
  | succ n ih =>
    rw [negated, text, List.nil_append, List.cons_append, nestingWith_sign,
      ih (Nat.le_max_right _ _), Nat.max_assoc, Nat.add_assoc signs 1 n, Nat.add_comm 1 n,
      Nat.max_eq_right (a := depth + (signs + 1)) (by omega)]

/-- Every row of signs of the tower is as long as the first one allows. -/
theorem nestingWith_tower (n : Nat) {depth deepest : Nat} (h : depth ≤ deepest) (s : List Char) :
    nestingWith depth 0 deepest ((tower n).text ++ s) =
      nestingWith depth 0 (max deepest (depth + n)) s := by
  induction n generalizing depth deepest s with
  | zero => rfl
  | succ n ih =>
    rw [tower, nestingWith_negated _ _ h, text]
    simp only [List.append_assoc, List.cons_append, List.nil_append]
    rw [nestingWith_open, ih (Nat.le_max_right _ _), nestingWith_close]
    congr 1
    omega

end Wording

/-- A tower is read, and its nesting is the length of its first row of signs. -/
theorem read_tower {n : Nat} (h : n ≤ deepestNesting) :
    read (Wording.tower n).text = .ok (Wording.tower n).tree ∧ nesting (Wording.tower n).text = n := by
  have hfits := (Wording.fits_tower n).mono (Nat.zero_le 2)
  have hbody : body (Wording.tower n).text = (Wording.tower n).text := by
    simpa using body_text hfits []
  have hnesting : nesting (Wording.tower n).text = n := by
    have hscan := Wording.nestingWith_tower n (Nat.le_refl 0) []
    simpa [nesting, nestingWith] using hscan
  refine ⟨read_eq_ok_iff.mpr ⟨?_, _, [], hfits, rfl, Text.isBlank_nil, ?_⟩, hnesting⟩
  · rwa [hbody, hnesting]
  · rw [hbody, List.append_nil]

/-- For every nesting that is read there is a formula with the most levels that it allows. -/
theorem exists_levels_of_nesting {n : Nat} (hn : n ≤ deepestNesting) :
    ∃ text e, read text = .ok e ∧ nesting text = n ∧ 2 * e.levels = n * (n + 3) := by
  obtain ⟨hread, hnesting⟩ := read_tower hn
  exact ⟨_, _, hread, hnesting, Wording.levels_tower n⟩

/--
A formula that is read has no more levels of signs and parentheses than the nesting of
its text if it has no more than its reach. If it has more, then there is a text of it
whose nesting is too small, the printed one. In any case it has at most `n * (n + 3) / 2`
levels, where `n` is the nesting of its text, and there is a formula with as many.
-/
theorem levels_of_read {text : List Char} {e : Expr} (h : read text = .ok e) :
    (e.levels ≤ e.reach 0 → e.levels ≤ nesting text) ∧
      ((∀ x ∈ e.numbers, x.isFinite = true) → e.reach 0 < e.levels →
        ∃ text', read text' = .ok e ∧ nesting text' < e.levels) ∧
      2 * e.levels ≤ nesting text * (nesting text + 3) ∧
      ∃ text' e', read text' = .ok e' ∧ nesting text' = nesting text ∧
        2 * e'.levels = nesting text * (nesting text + 3) := by
  obtain ⟨hnesting, w, -, hw, rfl, -, -⟩ := read_eq_ok_iff.mp h
  obtain ⟨-, hbinds, -⟩ := hw.spelled (Nat.zero_le 2)
  have hreach := reach_le_nesting h
  rw [nesting_body] at hnesting
  refine ⟨fun hlevels => hlevels.trans hreach, fun hfinite hlevels => ?_,
    Expr.levels_le_of_reach_le hbinds (.inl rfl) hreach, exists_levels_of_nesting hnesting⟩
  have hnumbers := isSize_of_isFinite hfinite
  have hprinted := nesting_render hnumbers (isNamed_of_read h)
  refine ⟨_, read_printed hbinds hnumbers (isNamed_of_read h) ?_, hprinted.trans_lt hlevels⟩
  exact hprinted.trans_le (hreach.trans hnesting)

theorem levels_of_read_signed_groups :
    ∃ e, read "= -(2*-(1))".toList = .ok e ∧ e.reach 0 < e.levels ∧
      (∃ text, read text = .ok e ∧ nesting text < e.levels) ∧ 2 * e.levels ≤ 2 * (2 + 3) := by
  have h : read "= -(2*-(1))".toList = .ok (.signed .minus (.group (.binary
      (.number (Decimal.nearest 2 1)) .multiply
      (.signed .minus (.group (.number (Decimal.nearest 1 1))))))) := by decide +kernel
  have hfinite : (Decimal.nearest 2 1).isFinite = true ∧ (Decimal.nearest 1 1).isFinite = true := by
    decide +kernel
  have hnumbers : ∀ x ∈ [Decimal.nearest 2 1, Decimal.nearest 1 1], x.isFinite = true := by
    simpa using hfinite
  obtain ⟨-, hexceeds, hbound, -⟩ := levels_of_read h
  have hlevels : 2 < 4 := by decide
  exact ⟨_, h, hlevels, hexceeds hnumbers hlevels, hbound⟩

/-- Two signs and two pairs of parentheses stand around the number, and a nesting of two is found. -/
theorem levels_of_signed_groups :
    ∃ e, read "-(-(1))".toList = .ok e ∧ nesting "-(-(1))".toList = 2 ∧ e.levels = 4 := by
  have h : read "-(-(1))".toList =
      .ok (.signed .minus (.group (.signed .minus (.group (.number (Decimal.nearest 1 1)))))) := by
    decide +kernel
  exact ⟨_, h, by decide, rfl⟩

end Gridbook.Formula
