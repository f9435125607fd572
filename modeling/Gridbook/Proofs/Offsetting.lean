import Gridbook.Proofs.Undoing

/-!
# References that move as far as their formula

A formula that is filled into another cell has all its references moved by one
displacement. As long as every reference stays in the grid nothing is lost on the way:
two displacements add up, and the opposite one leads back to the old text, provided
that no row number was written with zeros in front, which names do not keep.
-/
namespace Gridbook

namespace Coord

/-- The cell that many rows down and columns right. -/
def moved (c : Coord) (down right : Int) : Coord :=
  ⟨((c.row : Int) + down).toNat, ((c.col : Int) + right).toNat⟩

/-- The cell that many rows down and columns right lies in the grid. -/
def LandsIn (c : Coord) (down right : Int) (rows cols : Nat) : Prop :=
  0 ≤ (c.row : Int) + down ∧ 0 ≤ (c.col : Int) + right ∧
    (c.row : Int) + down < rows ∧ (c.col : Int) + right < cols

instance (c : Coord) (down right : Int) (rows cols : Nat) :
    Decidable (c.LandsIn down right rows cols) := inferInstanceAs (Decidable (_ ∧ _))

variable {c : Coord} {down right down' right' : Int} {rows cols : Nat}

theorem offset?_eq (c : Coord) (down right : Int) (rows cols : Nat) :
    c.offset? down right rows cols =
      if c.LandsIn down right rows cols then some (c.moved down right) else none := rfl

theorem moved_zero (c : Coord) : c.moved 0 0 = c := by
  simp [moved]

theorem moved_moved (h : c.LandsIn down right rows cols) (down' right' : Int) :
    (c.moved down right).moved down' right' = c.moved (down + down') (right + right') := by
  obtain ⟨hrow, hcol, -, -⟩ := h
  simp only [moved, mk.injEq]
  omega

theorem landsIn_moved (h : c.LandsIn down right rows cols)
    (h' : c.LandsIn (down + down') (right + right') rows cols) :
    (c.moved down right).LandsIn down' right' rows cols := by
  simp only [LandsIn, moved] at *
  omega

theorem isNamed_moved (hrows : rows ≤ lastRow) (hcols : cols ≤ letters)
    (h : c.LandsIn down right rows cols) : (c.moved down right).IsNamed := by
  obtain ⟨hrow, hcol, hrow', hcol'⟩ := h
  simp only [IsNamed, moved]
  omega

end Coord

namespace Formula

/-- The cell that a reference has in the end. -/
def renamed (replace : Coord → Option (List Char)) (c : Coord) : Coord :=
  ((replace c).bind Coord.ofChars?).getD c

theorem reference?_rename {replace : Coord → Option (List Char)} (hreplace : Canonical replace)
    (p : Piece) : (p.rename replace).reference? = p.reference?.map (renamed replace) := by
  cases p with
  | mark c => rfl
  | word w =>
    cases hw : Coord.ofChars? w with
    | none =>
      have hplain : (Piece.word w).reference? = none := hw
      rw [Piece.rename, substitute_of_reference? hplain, hplain]
      exact hw
    | some c =>
      have hreference : (Piece.word w).reference? = some c := hw
      rw [Piece.rename, substitute_word hw, hreference, Option.map_some, renamed]
      cases hc : replace c with
      | none => exact hw
      | some name =>
        obtain ⟨d, hd, hname⟩ := hreplace c name hc
        have hread := Coord.ofChars?_of_nameChars? hd hname
        simp [Piece.reference?, hread]

/-- Names in the place of references are references again, in the same order. -/
theorem references_substitute {replace : Coord → Option (List Char)} (hreplace : Canonical replace)
    (formula : List Char) :
    references (substitute replace formula) = (references formula).map (renamed replace) := by
  cases hformula : isFormula formula with
  | false => simp [substitute_literal hformula, references, hformula]
  | true =>
    obtain ⟨text, rfl⟩ := isFormula_iff.mp hformula
    rw [substitute_formula, references_formula, references_formula, scan,
      pieces_rewrite hreplace, List.filterMap_map, scan, List.map_filterMap]
    exact List.filterMap_congr fun p _ => reference?_rename hreplace p

/-- Names leave no quote open. -/
theorem Canonical.closesQuotes {replace : Coord → Option (List Char)} (h : Canonical replace) :
    ClosesQuotes replace := by
  intro c name hname
  obtain ⟨d, -, hd⟩ := h c name hname
  exact openQuote_of_isQuote (isQuote_of_nameChars? hd)

/-- The name that a reference gets when it moves, if it stays in the grid. -/
def offsetName (down right : Int) (rows cols : Nat) (c : Coord) : Option (List Char) :=
  (c.offset? down right rows cols).bind Coord.nameChars?

theorem offsetReferences_eq (down right : Int) (rows cols : Nat) :
    offsetReferences down right rows cols = substitute (offsetName down right rows cols) := rfl

/-- Every reference of the formula stays in the grid when it moves. -/
def LandsIn (formula : List Char) (down right : Int) (rows cols : Nat) : Prop :=
  ∀ c ∈ references formula, c.LandsIn down right rows cols

instance (formula : List Char) (down right : Int) (rows cols : Nat) :
    Decidable (LandsIn formula down right rows cols) := inferInstanceAs (Decidable (∀ _ ∈ _, _))

section

variable {rows cols : Nat} (hrows : rows ≤ Coord.lastRow) (hcols : cols ≤ Coord.letters)

include hrows hcols

theorem exists_offsetName {c : Coord} {down right : Int} (h : c.LandsIn down right rows cols) :
    ∃ name, offsetName down right rows cols c = some name ∧
      (c.moved down right).nameChars? = some name ∧
      Coord.ofChars? name = some (c.moved down right) := by
  obtain ⟨name, hname, hread⟩ :=
    Coord.exists_nameChars? (Coord.isNamed_moved hrows hcols h)
  exact ⟨name, by rw [offsetName, Coord.offset?_eq, if_pos h, Option.bind_some, hname], hname, hread⟩

theorem canonical_offsetName (down right : Int) : Canonical (offsetName down right rows cols) := by
  intro c name hname
  obtain ⟨d, hd, hdname⟩ := Option.bind_eq_some_iff.mp hname
  rw [Coord.offset?_eq] at hd
  split at hd
  · rename_i hlands
    obtain rfl := Option.some.inj hd
    exact ⟨_, Coord.isNamed_moved hrows hcols hlands, hdname⟩
  · cases hd

/-- A reference that stays in the grid on the way has the name that it gets at once. -/
theorem chained_offsetName {c : Coord} {down right down' right' : Int}
    (h : c.LandsIn down right rows cols)
    (h' : c.LandsIn (down + down') (right + right') rows cols) :
    chained (offsetName down right rows cols) (offsetName down' right' rows cols) c =
      offsetName (down + down') (right + right') rows cols c := by
  obtain ⟨name, hname, -, hread⟩ := exists_offsetName hrows hcols h
  obtain ⟨name', hname', hthere', -⟩ := exists_offsetName hrows hcols h'
  have hnext : offsetName down' right' rows cols (c.moved down right) = some name' := by
    rw [offsetName, Coord.offset?_eq, if_pos (Coord.landsIn_moved h h'), Option.bind_some,
      Coord.moved_moved h, hthere']
  rw [chained, hname, hname']
  exact congrArg some (by rw [rewrite_name hread, hnext, Option.getD_some])

/-- Two displacements add up where every reference stays in the grid. -/
theorem offsetReferences_twice {formula : List Char} {down right down' right' : Int}
    (h : LandsIn formula down right rows cols)
    (h' : LandsIn formula (down + down') (right + right') rows cols) :
    offsetReferences down' right' rows cols (offsetReferences down right rows cols formula) =
      offsetReferences (down + down') (right + right') rows cols formula := by
  have hcloses := (canonical_offsetName hrows hcols down right).closesQuotes
  simp only [offsetReferences_eq]
  rw [substitute_chained hcloses]
  exact substitute_congr fun c hc => chained_offsetName hrows hcols (h c hc) (h' c hc)

/-- References that stay in the grid are those of the cells moved. -/
theorem references_offsetReferences {formula : List Char} {down right : Int}
    (h : LandsIn formula down right rows cols) :
    references (offsetReferences down right rows cols formula) =
      (references formula).map fun c => c.moved down right := by
  rw [offsetReferences_eq, references_substitute (canonical_offsetName hrows hcols down right)]
  refine List.map_congr_left fun c hc => ?_
  obtain ⟨name, hname, -, hread⟩ := exists_offsetName hrows hcols (h c hc)
  rw [renamed, hname, Option.bind_some, hread, Option.getD_some]

end

/-- Without a displacement references are written as they were, save for leading zeros. -/
theorem offsetReferences_zero {formula : List Char} (hzeros : WithoutZeros formula)
    (rows cols : Nat) : offsetReferences 0 0 rows cols formula = formula := by
  rw [offsetReferences_eq]
  refine substitute_own hzeros fun c _ text htext => ?_
  obtain ⟨d, hd, hname⟩ := Option.bind_eq_some_iff.mp htext
  rw [Coord.offset?_eq, Coord.moved_zero] at hd
  split at hd
  · rwa [← Option.some.inj hd] at hname
  · cases hd

/--
Moving the references of a formula twice is moving them by the sum, in a grid of lettered
columns in which every reference stays by the first displacement and by both. There and
back again the formula is what it was, if its references are in the grid and written
without leading zeros. Its references really move: each is then the reference to the cell
that far away. Rows are counted in 32 bits, so every row of a grid has a number that a name
may carry.
-/
theorem offsetReferences_add {rows cols : Nat} (hrows : rows ≤ Coord.lastRow)
    (hcols : cols ≤ Coord.letters) {formula : List Char} {down right down' right' : Int}
    (hfirst : LandsIn formula down right rows cols)
    (hboth : LandsIn formula (down + down') (right + right') rows cols) :
    offsetReferences down' right' rows cols (offsetReferences down right rows cols formula) =
      offsetReferences (down + down') (right + right') rows cols formula ∧
    (LandsIn formula 0 0 rows cols → WithoutZeros formula →
      offsetReferences (-down) (-right) rows cols
        (offsetReferences down right rows cols formula) = formula) ∧
    references (offsetReferences down right rows cols formula) =
      (references formula).map fun c => c.moved down right := by
  refine ⟨offsetReferences_twice hrows hcols hfirst hboth, fun hhere hzeros => ?_,
    references_offsetReferences hrows hcols hfirst⟩
  have hback : LandsIn formula (down + -down) (right + -right) rows cols := by
    rwa [Int.add_right_neg, Int.add_right_neg]
  rw [offsetReferences_twice hrows hcols hfirst hback, Int.add_right_neg, Int.add_right_neg,
    offsetReferences_zero hzeros]

/-- Down and right, and then back to the left and down again, past quotes and longer names. -/
theorem offsetReferences_add_stroll :
    LandsIn "=SUM(A1:B2)-AA1*'A1'".toList 2 1 9 4 ∧
    LandsIn "=SUM(A1:B2)-AA1*'A1'".toList (2 + 3) (1 + -1) 9 4 ∧
    WithoutZeros "=SUM(A1:B2)-AA1*'A1'".toList ∧
    offsetReferences 3 (-1) 9 4 (offsetReferences 2 1 9 4 "=SUM(A1:B2)-AA1*'A1'".toList) =
      offsetReferences (2 + 3) (1 + -1) 9 4 "=SUM(A1:B2)-AA1*'A1'".toList ∧
    offsetReferences (-2) (-1) 9 4 (offsetReferences 2 1 9 4 "=SUM(A1:B2)-AA1*'A1'".toList) =
      "=SUM(A1:B2)-AA1*'A1'".toList :=
  have hfirst : LandsIn "=SUM(A1:B2)-AA1*'A1'".toList 2 1 9 4 := by decide
  have hboth : LandsIn "=SUM(A1:B2)-AA1*'A1'".toList (2 + 3) (1 + -1) 9 4 := by decide
  have hzeros : WithoutZeros "=SUM(A1:B2)-AA1*'A1'".toList := by decide
  have h := offsetReferences_add (by decide) (by decide) hfirst hboth
  ⟨hfirst, hboth, hzeros, h.1, h.2.1 (by decide) hzeros⟩

/-- A reference that cannot leave the grid does not come back to where it was. -/
example : offsetReferences (-1) 0 9 4 (offsetReferences 1 0 9 4 "=A1+A9".toList) =
    "=A1+A8".toList := by decide

end Formula

end Gridbook
