import Gridbook.Edit
import Gridbook.Proofs.Imports

/-!
# The order of imported styles

The styles of an import stand under names that are all different, in no order that means
anything. Yet a cell has several names, since zeros may stand in front of its row number,
and the last style that is given to a cell counts. So the order is without effect exactly
if the names of a cell of the grid all carry one style.
-/
namespace Gridbook

/-- What is stored for a style: nothing for the plain one. -/
def Style.stored (style : Style) : Option Style := if style = .plain then none else some style

theorem Style.stored_injective {a b : Style} (h : a.stored = b.stored) : a = b := by
  simp only [stored] at h
  split at h <;> split at h <;> simp_all

theorem Sheet.style?_setStyle (s : Sheet) (c d : Coord) (style : Style) :
    (s.setStyle c style).style? d = if c = d then style.stored else s.style? d :=
  CellMap.get?_set ..

namespace Import

/-- The styles that some entries give to a cell. -/
def stylesFor (c : Coord) (entries : List (String × Style)) : List Style :=
  entries.filterMap fun e => if Coord.ofName? e.1 = some c then some e.2 else none

theorem mem_stylesFor {c : Coord} {entries : List (String × Style)} {style : Style} :
    style ∈ stylesFor c entries ↔ ∃ e ∈ entries, Coord.ofName? e.1 = some c ∧ e.2 = style := by
  simp [stylesFor, List.mem_filterMap]

/-- An entry changes nothing but the style of its cell, and that only in the grid. -/
theorem style?_placeStyle (s : Sheet) (e : String × Style) (c : Coord) :
    (placeStyle s e).style? c =
      if Coord.ofName? e.1 = some c ∧ s.contains c = true then e.2.stored else s.style? c := by
  rw [placeStyle]
  cases hname : Coord.ofName? e.1 with
  | none => simp
  | some d =>
    by_cases hdc : d = c
    · subst hdc
      by_cases hcontains : s.contains d = true
      · simp [hcontains, Sheet.style?_setStyle]
      · simp [hcontains]
    · simp only [Option.some.injEq, hdc, false_and, if_false]
      split
      · rw [Sheet.style?_setStyle, if_neg hdc]
      · rfl

/-- Of the styles that entries give to a cell of the grid the last one is stored. -/
theorem style?_foldl_placeStyle (s : Sheet) (entries : List (String × Style)) (c : Coord) :
    (entries.foldl placeStyle s).style? c =
      if s.contains c then ((stylesFor c entries).getLast?.map Style.stored).getD (s.style? c)
      else s.style? c := by
  induction entries generalizing s with
  | nil => simp [stylesFor]
  | cons e entries ih =>
    have hgrid : (placeStyle s e).contains c = s.contains c := by
      obtain ⟨hrows, hcols, -⟩ := placeStyle_keeps s e
      rw [Sheet.contains, Sheet.contains, hrows, hcols]
    rw [List.foldl_cons, ih, hgrid, style?_placeStyle]
    by_cases hcontains : s.contains c = true
    · by_cases hname : Coord.ofName? e.1 = some c
      · simp only [hcontains, hname, stylesFor, List.filterMap_cons, List.getLast?_cons, and_self,
          if_true, Option.map_some, Option.getD_some]
        cases (List.filterMap _ entries).getLast? <;> rfl
      · simp [hcontains, hname, stylesFor]
    · simp [hcontains]

/-- The style that the data give to a cell of their grid: the last one under one of its names. -/
def styleAt? (data : Import) (rows cols : Nat) (c : Coord) : Option Style :=
  if (data.grid rows cols).contains c then (stylesFor c data.styles).getLast?.bind Style.stored
  else none

/-- Names of one cell of the grid carry one style. -/
def Consistent (data : Import) (rows cols : Nat) : Prop :=
  ∀ e ∈ data.styles, ∀ f ∈ data.styles, ∀ c, Coord.ofName? e.1 = some c →
    Coord.ofName? f.1 = some c → (data.grid rows cols).contains c = true → e.2 = f.2

theorem style?_apply (data : Import) (rows cols : Nat) (s : Sheet) (c : Coord) :
    (data.apply rows cols s).style? c = data.styleAt? rows cols c := by
  have hview := style?_foldl_placeStyle (data.unstyled rows cols) data.styles c
  have hplain : (data.unstyled rows cols).style? c = none := rfl
  have hgrid : (data.unstyled rows cols).contains c = (data.grid rows cols).contains c := rfl
  rw [apply_eq, hview, hplain, hgrid, styleAt?]
  cases (stylesFor c data.styles).getLast? <;> rfl

/-- The sheet depends on the entries only through the styles that they give to each cell. -/
theorem apply_congr {values : List (List Json)} {styles styles' : List (String × Style)}
    {rows cols : Nat} (s : Sheet)
    (h : ∀ c, ((Import.mk values styles).grid rows cols).contains c = true →
      stylesFor c styles = stylesFor c styles') :
    (Import.mk values styles).apply rows cols s = (Import.mk values styles').apply rows cols s := by
  obtain ⟨hrows, hcols⟩ := size_apply (Import.mk values styles) rows cols s
  obtain ⟨hrows', hcols'⟩ := size_apply (Import.mk values styles') rows cols s
  have hcontents : ((Import.mk values styles).apply rows cols s).contents =
      ((Import.mk values styles').apply rows cols s).contents := by
    rw [contents_apply, contents_apply]
    rfl
  refine Sheet.eq_of_fields (hrows.trans hrows'.symm) (hcols.trans hcols'.symm) hcontents
    (CellMap.ext_get? fun c => ?_)
  calc _ = (Import.mk values styles).styleAt? rows cols c := style?_apply ..
    _ = (Import.mk values styles').styleAt? rows cols c := by
      rw [styleAt?, styleAt?]
      split
      · rename_i hcontains
        rw [h c hcontains]
        exact (if_pos hcontains).symm
      · rename_i hcontains
        exact (if_neg hcontains).symm
    _ = _ := (style?_apply ..).symm

/-- An entry at the end of a list decides about its cell. -/
theorem getLast?_stylesFor_concat {c : Coord} {e : String × Style} (entries : List (String × Style))
    (h : Coord.ofName? e.1 = some c) : (stylesFor c (entries ++ [e])).getLast? = some e.2 := by
  simp [stylesFor, h]

/-- Two orders of the same styles are the same list if there is only one style in them. -/
theorem stylesFor_perm {styles styles' : List (String × Style)} (hperm : styles.Perm styles')
    {c : Coord} (h : ∀ a ∈ stylesFor c styles, ∀ b ∈ stylesFor c styles', a = b) :
    stylesFor c styles = stylesFor c styles' := by
  have unordered (l : List Style) : l.Pairwise fun _ _ => True :=
    List.pairwise_of_forall fun _ _ => trivial
  exact (hperm.filterMap _).eq_of_pairwise (fun a b ha hb _ _ => h a ha b hb) (unordered _)
    (unordered _)

/--
An import leaves the same sheet for every order of its styles exactly if no two names of
a cell of the grid carry different styles.
-/
theorem apply_styles_perm_iff (data : Import) (rows cols : Nat) :
    (∀ styles : List (String × Style), styles.Perm data.styles → ∀ s,
      (Edit.replace { data with styles := styles } rows cols).apply s =
        (Edit.replace data rows cols).apply s) ↔
      data.Consistent rows cols := by
  obtain ⟨values, entries⟩ := data
  constructor
  · intro h e he f hf c hec hfc hcontains
    have last (g : String × Style) (hg : g ∈ entries) (hgc : Coord.ofName? g.1 = some c) :
        ((Import.mk values entries).apply rows cols (.ofSize 1 1)).style? c = g.2.stored := by
      have hperm : (entries.erase g ++ [g]).Perm entries :=
        (List.perm_append_singleton ..).trans (List.perm_cons_erase hg).symm
      have hsheet : (Import.mk values (entries.erase g ++ [g])).apply rows cols (.ofSize 1 1) =
          (Import.mk values entries).apply rows cols (.ofSize 1 1) := h _ hperm (.ofSize 1 1)
      have hcontains' : ((Import.mk values (entries.erase g ++ [g])).grid rows cols).contains c =
          true := hcontains
      rw [← hsheet, style?_apply, styleAt?, if_pos hcontains', getLast?_stylesFor_concat _ hgc,
        Option.bind_some]
    exact Style.stored_injective ((last e he hec).symm.trans (last f hf hfc))
  · intro h styles hperm s
    refine apply_congr s fun c hcontains => stylesFor_perm hperm fun a ha b hb => ?_
    obtain ⟨e, he, hec, rfl⟩ := mem_stylesFor.mp ha
    obtain ⟨f, hf, hfc, rfl⟩ := mem_stylesFor.mp hb
    exact h e (hperm.mem_iff.mp he) f hf c hec hfc hcontains

/-- Two names of one cell, one of them with a zero in it, and two styles: the order counts. -/
theorem apply_styles_order_counts :
    let bold : Style := { Style.plain with bold := true }
    let italic : Style := { Style.plain with italic := true }
    let one : Import := ⟨[], [("A1", bold), ("A01", italic)]⟩
    let other : Import := ⟨[], [("A01", italic), ("A1", bold)]⟩
    (one.styles.map Prod.fst).Nodup ∧ other.styles.Perm one.styles ∧
      (Edit.replace other 1 1).apply (.ofSize 1 1) ≠ (Edit.replace one 1 1).apply (.ofSize 1 1) := by
  decide

end Import

end Gridbook
