import Gridbook.Proofs.Carrying
import Gridbook.Proofs.Filling
import Gridbook.Proofs.Naming
import Gridbook.Proofs.Replacing

/-!
# What an edit reports

Edits of single cells and fills report every cell that they change. A line edit and an import
report the cells that have a content behind them. So they leave out the cells into which they
put none, if these had a content or get another style. An exchange reports its two cells, so it
leaves out the formulas that follow them.
-/
namespace Gridbook

namespace Formula

/-- A text is left as it is exactly if there is no other text for any of its references. -/
theorem substitute_eq_self_iff {replace : Coord → Option (List Char)}
    (hwords : ∀ c name, replace c = some name → ∀ x ∈ name, Text.isWord x = true)
    (hother : ∀ c name, replace c = some name → Coord.ofChars? name ≠ some c)
    (formula : List Char) :
    substitute replace formula = formula ↔ ∀ c ∈ references formula, replace c = none := by
  constructor
  · intro hsame c hc
    cases hformula : isFormula formula with
    | false => simp [references, hformula] at hc
    | true =>
      simp only [references, hformula, ↓reduceIte] at hc
      simp only [substitute, hformula, ↓reduceIte] at hsame
      obtain ⟨p, hp, hreference⟩ := List.mem_filterMap.mp hc
      have hkept := (cut_pieces none formula).substitute_eq_text hwords hsame p hp
      cases p with
      | mark x => cases hreference
      | word w =>
        have hname : Coord.ofChars? w = some c := hreference
        rw [substitute_word hname] at hkept
        refine Option.eq_none_iff_forall_ne_some.mpr fun name hreplace => ?_
        rw [hreplace] at hkept
        obtain rfl : name = w := hkept
        exact hother c name hreplace hname
  · intro hnone
    rw [substitute_congr hnone, substitute_none]

end Formula

namespace Sheet

/-- Content or style of the cell is stored otherwise in the second sheet. -/
def Differs (s t : Sheet) (c : Coord) : Prop :=
  s.contents.get? c ≠ t.contents.get? c ∨ s.style? c ≠ t.style? c

instance (s t : Sheet) (c : Coord) : Decidable (s.Differs t c) :=
  inferInstanceAs (Decidable (_ ∨ _))

/-- The cell has a content, or not this style. -/
def Loses (s : Sheet) (c : Coord) (style : Option Style) : Prop :=
  s.contents.get? c ≠ none ∨ s.style? c ≠ style

/-- The formula of the cell refers to one of two cells, and the other one has a letter. -/
def FollowsEither (s : Sheet) (a b c : Coord) : Prop :=
  a ∈ Formula.references (s.content c).toList ∧ b.col < Coord.letters ∨
    b ∈ Formula.references (s.content c).toList ∧ a.col < Coord.letters

variable {s t : Sheet} {c : Coord}

/-- What is left out where the cells with a content are reported. -/
theorem differs_not_mem_cells_iff :
    s.Differs t c ∧ c ∉ t.contents.cells ↔
      t.contents.get? c = none ∧ s.Loses c (t.style? c) := by
  rw [CellMap.mem_cells_iff, Option.not_isSome_iff_eq_none, Differs, Loses, and_comm]
  refine and_congr_right fun hnone => ?_
  rw [hnone]

theorem differs_setContent {d : Coord} {text : String} (h : s.Differs (s.setContent c text) d) :
    d = c := by
  by_contra hne
  have hcontent := s.get?_contents_setContent c d text
  rw [if_neg (Ne.symm hne)] at hcontent
  exact h.elim (fun h => h hcontent.symm) fun h => h rfl

theorem differs_setStyle {d : Coord} {style : Style} (h : s.Differs (s.setStyle c style) d) :
    d = c := by
  by_contra hne
  have hstyle := s.style?_setStyle c d style
  rw [if_neg (Ne.symm hne)] at hstyle
  exact h.elim (fun h => h rfl) fun h => h hstyle.symm

theorem differs_fill {f : Fill} (h : s.Differs (f.apply s) c) : c ∈ f.affected s := by
  by_contra hc
  rw [Differs, Fill.get?_contents_apply, Fill.style?_apply_fill, if_neg hc, if_neg hc] at h
  simp at h

/-- A text is changed by an exchange exactly if one of its references gets another name. -/
theorem swapReferences_eq_self_iff {a b : Coord} (hab : a ≠ b) (formula : List Char) :
    Formula.swapReferences a b formula = formula ↔
      ¬(a ∈ Formula.references formula ∧ b.col < Coord.letters ∨
        b ∈ Formula.references formula ∧ a.col < Coord.letters) := by
  have hname (c : Coord) : c.nameChars? = none ↔ ¬c.col < Coord.letters := by
    rw [Coord.nameChars?]
    split <;> simp_all
  have hswapped {c : Coord} {name : List Char} (h : swappedName a b c = some name) :
      ∃ d, d ≠ c ∧ d.nameChars? = some name := by
    rw [swappedName] at h
    split at h
    · rename_i hca
      exact ⟨b, fun hbc => hab (hca ▸ hbc.symm), h⟩
    · split at h
      · rename_i hcb
        exact ⟨a, fun hac => hab (hcb ▸ hac), h⟩
      · cases h
  rw [swapReferences_eq, Formula.substitute_eq_self_iff]
  · constructor
    · intro hnone
      rintro (⟨ha, hb⟩ | ⟨hb, ha⟩)
      · have h := hnone a ha
        rw [swappedName, if_pos rfl, hname] at h
        exact h hb
      · have h := hnone b hb
        rw [swappedName, if_neg (Ne.symm hab), if_pos rfl, hname] at h
        exact h ha
    · intro hneither c hc
      rw [swappedName]
      split
      · rename_i hca
        exact (hname b).mpr fun hb => hneither (.inl ⟨hca ▸ hc, hb⟩)
      · split
        · rename_i hcb
          exact (hname a).mpr fun ha => hneither (.inr ⟨hcb ▸ hc, ha⟩)
        · rfl
  · intro c name h
    obtain ⟨d, -, hd⟩ := hswapped h
    exact Coord.isWord_of_nameChars? hd
  · intro c name h hread
    obtain ⟨d, hdc, hd⟩ := hswapped h
    obtain ⟨hc, -⟩ := Coord.ofChars?_unpadded_iff.mp ⟨hread, Coord.unpadded_of_nameChars? hd⟩
    exact hdc (Coord.nameChars?_injective hd hc)

/-- An exchange changes a third cell exactly if that has a formula that follows it. -/
theorem differs_exchange_iff {a b : Coord} (hab : a ≠ b) (hca : c ≠ a) (hcb : c ≠ b) :
    s.Differs (s.exchange a b) c ↔ s.FollowsEither a b c := by
  have hplace : exchanged a b c = c := by rw [exchanged, if_neg hca, if_neg hcb]
  have hcontent : (s.exchange a b).contents.get? c =
      (s.contents.get? c).map (rewritten (Formula.swapReferences a b)) := by
    rw [exchange, get?_contents_mapFormulas, get?_contents_swap, hplace]
    rfl
  have hstyle : (s.exchange a b).style? c = s.style? c := by
    rw [style?, get?_styles_exchange, hplace, style?]
  rw [Differs, hcontent, hstyle, FollowsEither, content]
  cases hget : s.contents.get? c with
  | none => simp [Formula.references, Formula.isFormula]
  | some text =>
    have htext : rewritten (Formula.swapReferences a b) text = text ↔
        Formula.swapReferences a b text.toList = text.toList := by
      rw [← String.toList_inj]
      exact Eq.congr (toList_rewritten_substitute _ text) rfl
    simp only [Option.map_some, Option.getD_some, ne_eq, not_true_eq_false, or_false,
      Option.some.injEq, eq_comm (a := text), htext, swapReferences_eq_self_iff hab, not_not]

end Sheet

namespace Import

/-- None of the values that are counted for the cell becomes a content. -/
def Skips (data : Import) (c : Coord) : Prop :=
  c.col < Coord.letters → ∀ row, counted row = c.row →
    ∀ j ∈ data.valueAt? ⟨row, c.col⟩, leavesEmpty j = true

theorem not_mem_contents_iff (data : Import) (c : Coord) :
    c ∉ data.contents.map Prod.fst ↔ data.Skips c := by
  rw [List.mem_map]
  constructor
  · intro hnone hletters row hrow j hj
    by_contra hne
    obtain ⟨content, hcontent⟩ := Option.ne_none_iff_exists'.mp fun h =>
      hne (literal?_eq_none_iff.mp h)
    refine hnone ⟨(c, content), mem_contentsFrom.mpr ⟨hletters, row, ?_, ?_⟩, rfl⟩
    · rw [Nat.zero_add, hrow]
    · exact Option.bind_eq_some_iff.mpr ⟨j, hj, hcontent⟩
  · rintro hskips ⟨⟨_, content⟩, hmem, rfl⟩
    obtain ⟨hletters, row, hrow, hvalue⟩ := mem_contentsFrom.mp hmem
    obtain ⟨j, hj, hcontent⟩ := Option.bind_eq_some_iff.mp hvalue
    rw [Nat.zero_add] at hrow
    have hnone := literal?_eq_none_iff.mpr (hskips hletters row hrow.symm j hj)
    exact Option.some_ne_none content (hcontent.symm.trans hnone)

/-- An import stores a content for the cells that it reports. -/
theorem mem_cells_apply (data : Import) (rows cols : Nat) (s : Sheet) (c : Coord) :
    c ∈ (data.apply rows cols s).contents.cells ↔ c ∈ data.contents.map Prod.fst := by
  rw [CellMap.mem_cells_iff, contents_apply, CellMap.get?_ofList, List.mem_map]
  constructor
  · intro hsome
    obtain ⟨content, hcontent⟩ := Option.isSome_iff_exists.mp hsome
    exact ⟨(c, content), List.mem_reverse.mp (CellMap.mem_of_lookup hcontent), rfl⟩
  · rintro ⟨entry, hentry, rfl⟩
    exact Option.isSome_iff_ne_none.mpr
      (CellMap.lookup_ne_none_of_mem (List.mem_reverse.mpr hentry))

end Import

namespace Edit

/-- The edit applies, changes the cell and does not report it. -/
def Conceals (s : Sheet) (e : Edit) (c : Coord) : Prop :=
  e.isApplicable s = true ∧ s.Differs (e.apply s) c ∧ c ∉ e.affected s

instance (s : Sheet) (e : Edit) (c : Coord) : Decidable (Conceals s e c) :=
  inferInstanceAs (Decidable (_ ∧ _ ∧ _))

/-- The cells that the report of an edit leaves out. -/
def Overlooks (s : Sheet) (e : Edit) (c : Coord) : Prop :=
  match e with
  | setContent .. | changeStyle .. | setStyle .. | fill _ => False
  | exchange a b => c ≠ a ∧ c ≠ b ∧ s.FollowsEither a b c
  | line e =>
    (e.origin? c).bind s.contents.get? = none ∧ s.Loses c ((e.origin? c).bind s.style?)
  | replace data rows cols => data.Skips c ∧ s.Loses c (data.styleAt? rows cols c)

/--
The cells that an edit changes are those that it reports and some that it overlooks. An edit of
a single cell and a fill overlook none. An exchange overlooks the formulas elsewhere that refer
to one of its cells, if the other one has a letter. A line edit overlooks the cells to which no
content is moved, and an import those for which the data have none, if such a cell had a content
or gets another style.
-/
theorem conceals_iff (s : Sheet) (e : Edit) (c : Coord) :
    Conceals s e c ↔ e.isApplicable s = true ∧ Overlooks s e c := by
  refine and_congr_right fun happ => ?_
  cases e with
  | setContent d text =>
    exact iff_of_false (fun h => h.2 (by simp [affected, Sheet.differs_setContent h.1])) id
  | changeStyle d change | setStyle d style =>
    exact iff_of_false (fun h => h.2 (by simp [affected, Sheet.differs_setStyle h.1])) id
  | fill f => exact iff_of_false (fun h => h.2 (Sheet.differs_fill h.1)) id
  | line e =>
    obtain ⟨hcontent, hstyle⟩ := LineEdit.apply_origin c
    rw [affected, apply, Sheet.differs_not_mem_cells_iff, hcontent, hstyle, Option.map_eq_none_iff,
      Overlooks]
  | exchange a b =>
    simp only [isApplicable, Bool.and_eq_true, bne_iff_ne, ne_eq] at happ
    rw [affected, apply, List.mem_pair, not_or, Overlooks, and_comm, and_assoc]
    exact and_congr_right fun hca => and_congr_right fun hcb =>
      Sheet.differs_exchange_iff happ.1.1 hca hcb
  | replace data rows cols =>
    have hreported := data.mem_cells_apply rows cols s c
    have hnone : (data.apply rows cols s).contents.get? c = none ↔ data.Skips c := by
      rw [← data.not_mem_contents_iff, ← hreported, CellMap.mem_cells_iff,
        Option.not_isSome_iff_eq_none]
    rw [affected, apply, ← hreported, Sheet.differs_not_mem_cells_iff, hnone, Import.style?_apply,
      Overlooks]

/-- A cell that another one refers to, and one below it. -/
def noticeboard : Sheet :=
  (((Sheet.ofSize 3 3).setContent ⟨0, 0⟩ "5").setContent ⟨0, 2⟩ "=A1").setContent ⟨1, 0⟩ "x"

/-- The formula that follows an exchange, the cell that a new row empties, a cell without data. -/
theorem conceals_noticeboard :
    Conceals noticeboard (exchange ⟨0, 0⟩ ⟨0, 1⟩) ⟨0, 2⟩ ∧
      Conceals noticeboard (line (.insertRow 0)) ⟨1, 0⟩ ∧
      Conceals noticeboard (replace ⟨[], []⟩ 3 3) ⟨0, 0⟩ := by
  decide +kernel

end Edit

end Gridbook
