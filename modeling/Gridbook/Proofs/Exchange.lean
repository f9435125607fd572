import Gridbook.Edit
import Gridbook.Proofs.Moving
import Gridbook.Proofs.Uses

/-!
# Values under an exchange of cells

Exchanging two cells and all references to them changes no value: the exchange
maps the sheet with its references onto the new sheet. A cell past column `Z` has
no name that a reference to the other cell could get, so if one of the two is such
a cell, no formula may refer to either.
-/
namespace Gridbook.Sheet

/-- Every formula is arithmetic, and the references found in it are those that are read. -/
def IsArithmetic (s : Sheet) : Prop :=
  ∀ c text, (s.content c).toList = '=' :: text →
    ∃ e, Formula.read text = .ok e ∧ Formula.references ('=' :: text) = e.cells

/-- The two cells have letters if a formula refers to one of them. -/
def NamesExchanged (s : Sheet) (a b : Coord) : Prop :=
  ∀ c text, (s.content c).toList = '=' :: text →
    a ∈ Formula.references ('=' :: text) ∨ b ∈ Formula.references ('=' :: text) →
    a.col < Coord.letters ∧ b.col < Coord.letters

instance (s : Sheet) : Decidable s.IsArithmetic :=
  decidable_of_iff (∀ p ∈ s.contents.entries, ∀ text ∈ Formula.textOf? p.2,
    ∃ e ∈ (Formula.read text).toOption, Formula.references ('=' :: text) = e.cells) <| by
    rw [← forall_formula_iff (P := fun _ text => ∃ e ∈ (Formula.read text).toOption,
      Formula.references ('=' :: text) = e.cells)]
    simp only [Formula.mem_toOption_read, IsArithmetic]

instance (s : Sheet) (a b : Coord) : Decidable (s.NamesExchanged a b) :=
  decidable_of_iff _ (forall_formula_iff (P := fun _ text =>
    a ∈ Formula.references ('=' :: text) ∨ b ∈ Formula.references ('=' :: text) →
    a.col < Coord.letters ∧ b.col < Coord.letters)).symm

theorem exchanged_exchanged (a b c : Coord) : exchanged a b (exchanged a b c) = c := by
  simp only [exchanged]
  grind

theorem content_exchange (s : Sheet) (a b c : Coord) :
    (s.exchange a b).content (exchanged a b c) = rewritten (Formula.swapReferences a b) (s.content c) := by
  have hget : (s.exchange a b).contents.get? (exchanged a b c) =
      (s.contents.get? c).map (rewritten (Formula.swapReferences a b)) := by
    rw [exchange, get?_contents_mapFormulas, get?_contents_swap, exchanged_exchanged]
    rfl
  rw [content, content, hget]
  cases s.contents.get? c <;> rfl

theorem get?_contents_exchange_eq_some_iff {s : Sheet} {a b c : Coord} {content : String} :
    (s.exchange a b).contents.get? c = some content ↔
      ∃ old, s.contents.get? (exchanged a b c) = some old ∧
        rewritten (Formula.swapReferences a b) old = content := by
  rw [exchange, get?_contents_mapFormulas, get?_contents_swap, Option.map_eq_some_iff]
  rfl

theorem get?_styles_exchange (s : Sheet) (a b c : Coord) :
    (s.exchange a b).styles.get? c = s.styles.get? (exchanged a b c) :=
  get?_styles_swap s a b c

theorem contains_exchange {s : Sheet} {a b : Coord} (ha : s.contains a = true)
    (hb : s.contains b = true) (c : Coord) :
    (s.exchange a b).contains (exchanged a b c) = s.contains c := by
  have hgrid : (s.exchange a b).contains (exchanged a b c) = s.contains (exchanged a b c) := rfl
  rw [hgrid, exchanged]
  split
  · rename_i hc
    rw [hc, ha, hb]
  · split
    · rename_i hc
      rw [hc, ha, hb]
    · rfl

/-- The new text of a reference when two cells are exchanged, if it changes. -/
def swappedName (a b c : Coord) : Option (List Char) :=
  if c = a then b.nameChars? else if c = b then a.nameChars? else none

theorem swapReferences_eq (a b : Coord) (formula : List Char) :
    Formula.swapReferences a b formula = Formula.substitute (swappedName a b) formula := rfl

/-- A reference to one of the two cells gets the name of the other one. -/
theorem renames_swappedName {a b c : Coord} (h : c = a ∨ c = b → a.IsNamed ∧ b.IsNamed) :
    Formula.Renames (exchanged a b) (swappedName a b) c := by
  unfold Formula.Renames exchanged swappedName
  by_cases hca : c = a
  · obtain ⟨name, hname, hread⟩ := Coord.exists_nameChars? (h (.inl hca)).2
    exact .inr ⟨name, by simp [hca, hname], by simp [hca, hread]⟩
  · by_cases hcb : c = b
    · obtain ⟨name, hname, hread⟩ := Coord.exists_nameChars? (h (.inr hcb)).1
      exact .inr ⟨name, by rw [if_neg hca, if_pos hcb, hname],
        by rw [if_neg hca, if_pos hcb, hread]⟩
    · exact .inl ⟨by simp [hca, hcb], by simp [hca, hcb]⟩

/-- The exchanged sheet is the sheet with the two cells moved. -/
theorem moved_exchange {s : Sheet} {a b : Coord} (hrows : s.rows ≤ Coord.lastRow)
    (ha : s.contains a = true) (hb : s.contains b = true) (hs : s.IsArithmetic)
    (hnames : s.NamesExchanged a b) :
    Formula.Moved s (s.exchange a b) (fun _ => True) (exchanged a b) where
  injective c d _ _ hcd := by
    rw [← exchanged_exchanged a b c, hcd, exchanged_exchanged]
  contains c _ := contains_exchange ha hb c
  literal c _ hliteral := by rw [content_exchange, rewritten_literal hliteral]
  formula c text _ htext := by
    obtain ⟨e, hread, hreferences⟩ := hs c text htext
    have hrenames : ∀ x ∈ e.cells, Formula.Renames (exchanged a b) (swappedName a b) x := by
      intro x hx
      refine renames_swappedName fun hxab => ?_
      have hlettered := hnames c text htext (by
        rw [hreferences]
        rcases hxab with rfl | rfl
        · exact .inl hx
        · exact .inr hx)
      have ha := contains_iff.mp ha
      have hb := contains_iff.mp hb
      exact ⟨⟨hlettered.1, by omega⟩, ⟨hlettered.2, by omega⟩⟩
    obtain ⟨text', hswap, hnesting, hread'⟩ := Formula.read_substitute hread hreferences hrenames
    refine ⟨text', ?_, .arithmetic hread hread' hnesting fun _ _ => trivial⟩
    rw [content_exchange, toList_rewritten htext, swapReferences_eq, hswap]

/-- A sheet whose formulas refer to both, to themselves and to each other. -/
def ring : Sheet :=
  (((Sheet.ofSize 2 3).setContent ⟨0, 0⟩ "=B1+A1-1").setContent ⟨0, 1⟩ "=(A1)*C2").setContent
    ⟨1, 2⟩ "=-B2+1.5"

/-- A sheet with one column more than there are letters. -/
def broad : Sheet :=
  ((Sheet.ofSize 1 27).setContent ⟨0, 0⟩ "5").setContent ⟨0, 1⟩ "=A1"

/--
Exchanging two cells of the grid changes no value: each of the two has the value
that the other one had, and all other cells have the values that they had. Rows
are counted in 32 bits, so every row of a grid has a number that a name may carry.
-/
theorem evaluate_exchange {s : Sheet} {a b : Coord} (hrows : s.rows ≤ Coord.lastRow)
    (ha : s.contains a = true) (hb : s.contains b = true) (hs : s.IsArithmetic)
    (hnames : s.NamesExchanged a b) (limit : Nat) (c : Coord) :
    Formula.evaluate (s.exchange a b) limit (exchanged a b c) = Formula.evaluate s limit c :=
  (moved_exchange hrows ha hb hs hnames).evaluate_eq limit trivial

theorem evaluate_exchange_ring : ring.IsArithmetic ∧ ring.NamesExchanged ⟨0, 0⟩ ⟨1, 1⟩ ∧
    Formula.evaluate (ring.exchange ⟨0, 0⟩ ⟨1, 1⟩) 9 (exchanged ⟨0, 0⟩ ⟨1, 1⟩ ⟨0, 1⟩) =
      Formula.evaluate ring 9 ⟨0, 1⟩ :=
  have hs : ring.IsArithmetic := by decide +kernel
  have hnames : ring.NamesExchanged ⟨0, 0⟩ ⟨1, 1⟩ := by decide +kernel
  ⟨hs, hnames, evaluate_exchange (by decide +kernel) (by decide +kernel) (by decide +kernel) hs
    hnames 9 ⟨0, 1⟩⟩

/-- A reference to a cell that moves past column `Z` stays behind, and its value changes. -/
theorem evaluate_exchange_broad : broad.IsArithmetic ∧ broad.contains ⟨0, 0⟩ = true ∧
    broad.contains ⟨0, 26⟩ = true ∧
    Formula.evaluate (broad.exchange ⟨0, 0⟩ ⟨0, 26⟩) 9 (exchanged ⟨0, 0⟩ ⟨0, 26⟩ ⟨0, 1⟩) ≠
      Formula.evaluate broad 9 ⟨0, 1⟩ := by
  refine ⟨by decide +kernel, by decide +kernel, by decide +kernel, fun h => ?_⟩
  exact absurd (congrArg Value.display h) (by decide +kernel)

end Gridbook.Sheet
