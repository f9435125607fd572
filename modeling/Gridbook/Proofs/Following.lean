import Gridbook.Proofs.Composing
import Gridbook.Proofs.Tidy

/-!
# One edit after another

Two edits in a row move every cell by both moves, and what the first one writes for a
reference is followed by the second one. For line edits that comes down to the place
where the cell of a reference ends up: the reference becomes the name of that place,
or the mark of a lost reference, or it stays as it is written where neither of the
edits moves the cell.
-/
namespace Gridbook

namespace CellMap

variable {α β γ : Type} {m : CellMap α}

/-- No two cells go to one place. -/
def Separates (target : Coord → Option Coord) : Prop :=
  ∀ a b c, target a = some c → target b = some c → a = b

theorem Separates.bind {f g : Coord → Option Coord} (hf : Separates f) (hg : Separates g) :
    Separates fun c => (f c).bind g := by
  intro a b c ha hb
  obtain ⟨a', ha', hac⟩ := Option.bind_eq_some_iff.mp ha
  obtain ⟨b', hb', hbc⟩ := Option.bind_eq_some_iff.mp hb
  obtain rfl := hg a' b' c hac hbc
  exact hf a b a' ha' hb'

theorem relocate_relocate {f g : Coord → Option Coord} (hf : Separates f) (hg : Separates g) :
    (m.relocate f).relocate g = m.relocate fun c => (f c).bind g := by
  refine ext_get? fun d => Option.ext fun a => ?_
  simp only [get?_relocate_eq_some_iff hg, get?_relocate_eq_some_iff hf,
    get?_relocate_eq_some_iff (hf.bind hg), Option.bind_eq_some_iff]
  constructor
  · rintro ⟨c', hd, c, hc, ha⟩
    exact ⟨c, ⟨c', hc, hd⟩, ha⟩
  · rintro ⟨c, ⟨c', hc, hd⟩, ha⟩
    exact ⟨c', hd, c, hc, ha⟩

theorem relocate_map {f : Coord → Option Coord} (hf : Separates f) (h : α → β) :
    (m.map h).relocate f = (m.relocate f).map h := by
  refine ext_get? fun d => Option.ext fun b => ?_
  simp only [get?_map, get?_relocate_eq_some_iff hf, Option.map_eq_some_iff]
  constructor
  · rintro ⟨c, hc, a, ha, rfl⟩
    exact ⟨a, ⟨c, hc, ha⟩, rfl⟩
  · rintro ⟨a, ⟨c, hc, ha⟩, rfl⟩
    exact ⟨c, hc, a, ha, rfl⟩

theorem map_map (f : α → β) (g : β → γ) : (m.map f).map g = m.map fun a => g (f a) := by
  refine ext_get? fun c => ?_
  simp only [get?_map, Option.map_map]
  rfl

/-- The same cells move to the same places. -/
theorem relocate_congr {f g : Coord → Option Coord} (hf : Separates f) (hg : Separates g)
    (h : m.All fun c _ => f c = g c) : m.relocate f = m.relocate g := by
  refine ext_get? fun d => Option.ext fun a => ?_
  simp only [get?_relocate_eq_some_iff hf, get?_relocate_eq_some_iff hg]
  constructor
  · rintro ⟨c, hc, ha⟩
    exact ⟨c, h c a ha ▸ hc, ha⟩
  · rintro ⟨c, hc, ha⟩
    exact ⟨c, (h c a ha).symm ▸ hc, ha⟩

theorem relocate_some {f : Coord → Option Coord} (hf : Separates f)
    (h : m.All fun c _ => f c = some c) : m.relocate f = m := by
  refine ext_get? fun d => Option.ext fun a => ?_
  rw [get?_relocate_eq_some_iff hf]
  constructor
  · rintro ⟨c, hc, ha⟩
    rw [h c a ha] at hc
    exact Option.some.inj hc ▸ ha
  · intro ha
    exact ⟨d, h d a ha, ha⟩

theorem map_congr {f g : α → β} (h : m.All fun _ a => f a = g a) : m.map f = m.map g := by
  refine ext_get? fun c => ?_
  rw [get?_map, get?_map]
  cases ha : m.get? c with
  | none => rfl
  | some a => exact congrArg some (h c a ha)

theorem map_id {f : α → α} (h : m.All fun _ a => f a = a) : m.map f = m := by
  rw [map_congr (g := id) h]
  refine ext_get? fun c => ?_
  rw [get?_map, Option.map_id, id]

end CellMap

namespace Formula

/-- Answers as the first does and replaces the references in its answers as the second does. -/
def chained (first second : Coord → Option (List Char)) (c : Coord) : Option (List Char) :=
  match first c with
  | none => second c
  | some text => some (rewrite second text)

/-- No answer leaves a quote open. -/
def ClosesQuotes (replace : Coord → Option (List Char)) : Prop :=
  ∀ c text, replace c = some text → openQuote none text = none

/-- The pieces of what stands in the place of a piece. -/
def Piece.expand (replace : Coord → Option (List Char)) : Piece → List Piece
  | word w => pieces none ((word w).substitute replace)
  | mark c => [mark c]

theorem rewrite_single {w : List Char} (hne : w ≠ []) (hw : ∀ c ∈ w, Text.isWord c = true)
    (replace : Coord → Option (List Char)) :
    rewrite replace w = (Piece.word w).substitute replace := by
  have h := rewrite_word hne hw (Text.stops_nil _) replace
  rwa [List.append_nil, rewrite_of_scan scan_nil, List.append_nil] at h

theorem rewrite_name {name : List Char} {c : Coord} (h : Coord.ofChars? name = some c)
    (replace : Coord → Option (List Char)) : rewrite replace name = (replace c).getD name := by
  obtain ⟨hne, hw⟩ := Coord.isWord_of_ofChars? h
  rw [rewrite_single hne hw, substitute_word h]

/-- A word is replaced, and then what stands in its place. -/
theorem rewrite_substitute_word (first second : Coord → Option (List Char)) {w : List Char}
    (hne : w ≠ []) (hw : ∀ c ∈ w, Text.isWord c = true) :
    rewrite second ((Piece.word w).substitute first) =
      (Piece.word w).substitute (chained first second) := by
  have hsingle := rewrite_single hne hw second
  cases hname : Coord.ofChars? w with
  | none =>
    have hplain : (Piece.word w).reference? = none := hname
    rw [substitute_of_reference? hplain, substitute_of_reference? hplain]
    exact hsingle.trans (substitute_of_reference? hplain second)
  | some c =>
    rw [substitute_word hname, substitute_word hname, chained]
    cases first c with
    | none => rw [Option.getD_none, hsingle, substitute_word hname]
    | some text => rfl

theorem Cut.flatMap_expand (first second : Coord → Option (List Char)) {q : Option Char}
    {s : List Char} {ps : List Piece} (h : Cut q s ps) :
    (ps.flatMap (Piece.expand first)).flatMap (Piece.substitute second) =
      ps.flatMap (Piece.substitute (chained first second)) := by
  induction h with
  | nil q => rfl
  | mark hc h ih =>
    rw [List.flatMap_cons, List.flatMap_append, ih, List.flatMap_cons]
    rfl
  | word hne hw hstop h ih =>
    rw [List.flatMap_cons, List.flatMap_append, ih, List.flatMap_cons,
      ← rewrite_substitute_word first second hne hw]
    rfl

theorem Cut.expand {replace : Coord → Option (List Char)} (hreplace : ClosesQuotes replace)
    {q : Option Char} {s : List Char} {ps : List Piece} (h : Cut q s ps) :
    Cut q (ps.flatMap (Piece.substitute replace)) (ps.flatMap (Piece.expand replace)) := by
  induction h with
  | nil q => exact .nil q
  | mark hc h ih => exact .mark hc ih
  | @word w s ps hne hw hstop h ih =>
    have hquote : openQuote none ((Piece.word w).substitute replace) = none := by
      have hword : openQuote none w = none :=
        openQuote_of_isQuote fun c hc => isQuote_of_isWord (hw c hc)
      cases hname : Coord.ofChars? w with
      | none => rwa [substitute_of_reference? (p := .word w) hname]
      | some c =>
        rw [substitute_word hname]
        cases hc : replace c with
        | none => exact hword
        | some text => exact hreplace c text hc
    exact (cut_pieces none _).append (h.stops hstop replace) (hquote.symm ▸ ih)

theorem rewrite_chained {first : Coord → Option (List Char)} (hfirst : ClosesQuotes first)
    (second : Coord → Option (List Char)) (s : List Char) :
    rewrite second (rewrite first s) = rewrite (chained first second) s := by
  have hcut := cut_pieces none s
  rw [rewrite, rewrite, (hcut.expand hfirst).pieces_eq, hcut.flatMap_expand, rewrite]

/-- Replacing references twice is replacing them once. -/
theorem substitute_chained {first : Coord → Option (List Char)} (hfirst : ClosesQuotes first)
    (second : Coord → Option (List Char)) (formula : List Char) :
    substitute second (substitute first formula) = substitute (chained first second) formula := by
  cases h : isFormula formula with
  | true =>
    obtain ⟨text, rfl⟩ := isFormula_iff.mp h
    rw [substitute_formula, substitute_formula, rewrite_chained hfirst, substitute_formula]
  | false => rw [substitute_literal h, substitute_literal h, substitute_literal h]

/-- Only the answers for the references of a formula count. -/
theorem substitute_congr {first second : Coord → Option (List Char)} {formula : List Char}
    (h : ∀ c ∈ references formula, first c = second c) :
    substitute first formula = substitute second formula := by
  cases hformula : isFormula formula with
  | false => rw [substitute_literal hformula, substitute_literal hformula]
  | true =>
    simp only [references, hformula, ↓reduceIte] at h
    simp only [substitute, hformula, ↓reduceIte]
    rw [List.flatMap_def, List.flatMap_def]
    refine congrArg List.flatten (List.map_congr_left fun p hp => ?_)
    rw [Piece.substitute, Piece.substitute]
    cases hreference : p.reference? with
    | none => rfl
    | some c =>
      rw [Option.bind_some, Option.bind_some, h c (List.mem_filterMap.mpr ⟨p, hp, hreference⟩)]

/-- What is written for a cell, if it is still there and has a name. -/
def written (c : Option Coord) : List Char := (c.bind Coord.nameChars?).getD lostReference

theorem shiftedName_eq (e : LineEdit) (c : Coord) :
    shiftedName e c = if e.target c = some c then none else some (written (e.target c)) := by
  rw [shiftedName]
  cases h : e.target c with
  | none => rfl
  | some d => simp [written]

theorem isQuote_of_nameChars? {c : Coord} {name : List Char} (h : c.nameChars? = some name) :
    ∀ x ∈ name, isQuote x = false :=
  fun x hx => isQuote_of_isWord (Coord.isWord_of_nameChars? h x hx)

theorem openQuote_written (c : Option Coord) : openQuote none (written c) = none := by
  cases h : c.bind Coord.nameChars? with
  | none =>
    rw [written, h]
    decide
  | some name =>
    obtain ⟨d, rfl, hname⟩ := Option.bind_eq_some_iff.mp h
    rw [written, h]
    exact openQuote_of_isQuote (isQuote_of_nameChars? hname)

theorem closesQuotes_shiftedName (e : LineEdit) : ClosesQuotes (shiftedName e) := by
  intro c text h
  rw [shiftedName_eq] at h
  split at h
  · cases h
  · exact Option.some.inj h ▸ openQuote_written _

/-- What is written for a reference behind two edits, if one of them moves its cell. -/
def shiftedTwice (e e' : LineEdit) (c : Coord) : Option (List Char) :=
  if e.target c = some c ∧ e'.target c = some c then none
  else some (written ((e.target c).bind e'.target))

/-- The second edit follows the names that the first one writes. -/
theorem chained_shiftedName {e e' : LineEdit} {c : Coord}
    (h : ∀ d, e.target c = some d → d.IsNamed) :
    chained (shiftedName e) (shiftedName e') c = shiftedTwice e e' c := by
  rw [chained, shiftedName_eq e, shiftedTwice]
  cases hd : e.target c with
  | none =>
    have hscan : scan lostReference = [] := by decide
    simp [written, rewrite_of_scan hscan]
  | some d =>
    by_cases hdc : d = c
    · subst hdc
      simp [shiftedName_eq]
    · obtain ⟨name, hname, hread⟩ := Coord.exists_nameChars? (h d hd)
      have hwritten : written (some d) = name := by simp [written, hname]
      simp only [Option.some.injEq, hdc, ↓reduceIte, hwritten, rewrite_name hread, shiftedName_eq,
        Option.bind_some, false_and]
      split
      · rename_i hstays
        rw [hstays, hwritten, Option.getD_none]
      · rfl

/-- Following two line edits is replacing references once. -/
theorem shiftReferences_shiftReferences {e e' : LineEdit} {formula : List Char}
    (h : ∀ c ∈ references formula, ∀ d, e.target c = some d → d.IsNamed) :
    shiftReferences e' (shiftReferences e formula) = substitute (shiftedTwice e e') formula := by
  rw [shiftReferences, shiftReferences, substitute_chained (closesQuotes_shiftedName e)]
  exact substitute_congr fun c hc => chained_shiftedName (h c hc)

end Formula

namespace Sheet

/-- A text in which references are replaced. -/
theorem toList_rewritten_substitute (replace : Coord → Option (List Char)) (content : String) :
    (rewritten (Formula.substitute replace) content).toList =
      Formula.substitute replace content.toList := by
  cases h : Formula.isFormula content.toList with
  | true => simp [rewritten, changedFormula, h]
  | false => simp [rewritten, changedFormula, h, Formula.substitute_literal h]

end Sheet

namespace LineEdit

/-- Where the stored content of a cell goes; what would stand right of column `Z` is dropped. -/
def keeps (e : LineEdit) (c : Coord) : Option Coord :=
  (e.target c).filter fun d => d.col < Coord.letters

theorem separates_keeps (e : LineEdit) : CellMap.Separates e.keeps :=
  fun _ _ _ => target_filter_injective

theorem rows_apply (e : LineEdit) (s : Sheet) : (e.apply s).rows = (e.resize s).rows := by
  cases e <;> rfl

theorem cols_apply (e : LineEdit) (s : Sheet) : (e.apply s).cols = (e.resize s).cols := by
  cases e <;> rfl

theorem contents_apply (e : LineEdit) (s : Sheet) :
    (e.apply s).contents = (s.contents.relocate e.keeps).map e.follow := by cases e <;> rfl

theorem styles_apply (e : LineEdit) (s : Sheet) :
    (e.apply s).styles = s.styles.relocate e.keeps := by cases e <;> rfl

theorem contents_apply_apply (e e' : LineEdit) (s : Sheet) :
    (e'.apply (e.apply s)).contents =
      (s.contents.relocate fun c => (e.keeps c).bind e'.keeps).map fun content =>
        e'.follow (e.follow content) := by
  rw [contents_apply, contents_apply, CellMap.relocate_map (separates_keeps e'), CellMap.map_map,
    CellMap.relocate_relocate (separates_keeps e) (separates_keeps e')]

theorem styles_apply_apply (e e' : LineEdit) (s : Sheet) :
    (e'.apply (e.apply s)).styles = s.styles.relocate fun c => (e.keeps c).bind e'.keeps := by
  rw [styles_apply, styles_apply,
    CellMap.relocate_relocate (separates_keeps e) (separates_keeps e')]

theorem toList_follow (e : LineEdit) (content : String) :
    (e.follow content).toList = Formula.shiftReferences e content.toList :=
  Sheet.toList_rewritten_substitute _ _

end LineEdit

namespace Sheet

/-- All that is stored lies in the grid, and formulas refer to cells of the grid only. -/
structure SelfContained (s : Sheet) : Prop where
  contents : s.contents.All fun c _ => s.contains c = true
  styles : s.styles.All fun c _ => s.contains c = true
  references : s.contents.All fun _ content =>
    ∀ r ∈ Formula.references content.toList, s.contains r = true

instance (s : Sheet) : Decidable s.SelfContained :=
  decidable_of_iff ((s.contents.All fun c content => s.contains c = true ∧
    ∀ r ∈ Formula.references content.toList, s.contains r = true) ∧
      s.styles.All fun c _ => s.contains c = true)
    ⟨fun h => ⟨fun c a ha => (h.1 c a ha).1, h.2, fun c a ha => (h.1 c a ha).2⟩,
      fun h => ⟨fun c a ha => ⟨h.contents c a ha, h.references c a ha⟩, h.styles⟩⟩

end Sheet

namespace Formula

theorem isNamed_of_mem_references {formula : List Char} {c : Coord} (h : c ∈ references formula) :
    c.IsNamed := by
  rw [references] at h
  split at h
  · obtain ⟨p, -, hp⟩ := List.mem_filterMap.mp h
    cases p with
    | word w => exact Coord.isNamed_of_ofChars? hp
    | mark c => cases hp
  · cases h

end Formula

/-- After an edit that applies, two edits are followed at once. -/
theorem LineEdit.toList_follow_follow {e e' : LineEdit} {s : Sheet} {content : String}
    (happ : e.isApplicable s = true)
    (h : ∀ r ∈ Formula.references content.toList, s.contains r = true) :
    (e'.follow (e.follow content)).toList =
      Formula.substitute (Formula.shiftedTwice e e') content.toList := by
  rw [toList_follow, toList_follow]
  exact Formula.shiftReferences_shiftReferences fun r hr d hd =>
    isNamed_target happ (h r hr) (Formula.isNamed_of_mem_references hr) hd

end Gridbook
