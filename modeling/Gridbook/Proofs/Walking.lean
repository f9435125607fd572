import Gridbook.Area

/-!
# Areas in numbers of 32 bits

The lines of an area are counted, and its cells are visited one after another, in numbers of
32 bits. Here a sum or a difference that is no such number is none. A walk goes to the right,
at the end of a row to the next row, and stops by a mark of its own, so that it never counts
beyond the last row and the last column.
-/
namespace Gridbook

namespace Narrow

/-- The sum of two numbers of 32 bits, if it is one. -/
def add? (m n : Nat) : Option Nat := if m + n < UInt32.size then some (m + n) else none

/-- The difference of two numbers of 32 bits, if it is one. -/
def sub? (m n : Nat) : Option Nat := if n ≤ m ∧ m < UInt32.size then some (m - n) else none

theorem add?_eq {m n : Nat} (h : m + n < UInt32.size) : add? m n = some (m + n) := if_pos h

theorem sub?_eq {m n : Nat} (h : n ≤ m) (hm : m < UInt32.size) : sub? m n = some (m - n) :=
  if_pos ⟨h, hm⟩

/-- The number of rows of an area. -/
def height (r : Area) : Option Nat := do add? (← sub? r.last.row r.first.row) 1

/-- The number of columns of an area. -/
def width (r : Area) : Option Nat := do add? (← sub? r.last.col r.first.col) 1

theorem height_eq {r : Area} (h : r.last.row + 1 < UInt32.size) : height r = some r.height := by
  rw [height, sub?_eq r.row_le (by omega)]
  exact add?_eq (by omega)

theorem width_eq {r : Area} (h : r.last.col + 1 < UInt32.size) : width r = some r.width := by
  rw [width, sub?_eq r.col_le (by omega)]
  exact add?_eq (by omega)

end Narrow

open Narrow

/-- Both coordinates are numbers of 32 bits. -/
def Coord.IsNarrow (c : Coord) : Prop := c.Within UInt32.size UInt32.size

instance (c : Coord) : Decidable c.IsNarrow := inferInstanceAs (Decidable (_ ∧ _))

/-- The cells of a grid, row by row, are in a strict order. -/
instance : Std.Irrefl (α := Coord) (· < ·) := ⟨Coord.lt_irrefl⟩

instance : Std.Antisymm (α := Coord) (· < ·) := ⟨fun _ _ h h' => (Coord.lt_asymm h h').elim⟩

namespace Area

theorem pairwise_cells (r : Area) : r.cells.Pairwise (· < ·) := by
  rw [Area.cells, List.pairwise_flatMap]
  constructor
  · intro row _
    rw [List.pairwise_map]
    exact (List.pairwise_lt_range' 1).imp fun h => .inr ⟨rfl, h⟩
  · refine (List.pairwise_lt_range' 1).imp fun h c hc d hd => ?_
    obtain ⟨_, _, rfl⟩ := List.mem_map.mp hc
    obtain ⟨_, _, rfl⟩ := List.mem_map.mp hd
    exact .inl h

/-- No cell is listed twice. -/
theorem nodup_cells (r : Area) : r.cells.Nodup :=
  r.pairwise_cells.imp fun {c d} hlt => by
    rintro rfl
    exact Coord.lt_irrefl c hlt

theorem length_cells (r : Area) : r.cells.length = r.size := by
  simp [cells, size, List.map_const']

/-- The two cells are opposite corners of the area, in either order. -/
def HasCorners (r : Area) (p q : Coord) : Prop :=
  (p.row = r.first.row ∧ q.row = r.last.row ∨ p.row = r.last.row ∧ q.row = r.first.row) ∧
    (p.col = r.first.col ∧ q.col = r.last.col ∨ p.col = r.last.col ∧ q.col = r.first.col)

theorem hasCorners_iff {r : Area} {p q : Coord} : r.HasCorners p q ↔ spanning p q = r := by
  obtain ⟨⟨top, left⟩, ⟨bottom, right⟩, hrow, hcol⟩ := r
  simp only [HasCorners, spanning, mk.injEq, Coord.mk.injEq] at hrow hcol ⊢
  omega

theorem HasCorners.contains {r : Area} {p q : Coord} (h : r.HasCorners p q) :
    r.contains p = true ∧ r.contains q = true := by
  have hrow := r.row_le
  have hcol := r.col_le
  simp only [HasCorners, contains_iff] at h ⊢
  omega

theorem isNarrow_last_spanning {a b : Coord} :
    (spanning a b).last.IsNarrow ↔ a.IsNarrow ∧ b.IsNarrow := by
  simp only [spanning, Coord.IsNarrow, Coord.Within]
  omega

/-- Where the next cell of an area is, and whether there is none. -/
structure Walk where
  area : Area
  here : Coord
  finished : Bool

namespace Walk

/-- The walk that has all cells of the area before it. -/
def across (r : Area) : Walk := ⟨r, r.first, false⟩

/-- The walk behind the cell where it is. -/
def advance? (w : Walk) : Option Walk :=
  if w.here.col < w.area.last.col then do
    let col ← add? w.here.col 1
    return { w with here := ⟨w.here.row, col⟩ }
  else if w.here.row < w.area.last.row then do
    let row ← add? w.here.row 1
    return { w with here := ⟨row, w.area.first.col⟩ }
  else some { w with finished := true }

/-- The next cell and the walk behind it, or that there is no further cell. -/
def next? (w : Walk) : Option (Option (Coord × Walk)) :=
  if w.finished then some none else w.advance?.map fun w' => some (w.here, w')

/-- The walk visits these cells and then has no further one; all its counting succeeds. -/
inductive Visits : Walk → List Coord → Prop
  | done {w : Walk} (h : w.next? = some none) : w.Visits []
  | step {w w' : Walk} {c : Coord} {cells : List Coord} (h : w.next? = some (some (c, w')))
      (hrest : w'.Visits cells) : w.Visits (c :: cells)

/-- What a walk visits is determined. -/
theorem Visits.unique {w : Walk} {cells cells' : List Coord} (h : w.Visits cells)
    (h' : w.Visits cells') : cells = cells' := by
  induction h generalizing cells' with
  | done hnone =>
    cases h' with
    | done => rfl
    | step hsome => simp [hnone] at hsome
  | step hsome _ ih =>
    cases h' with
    | done hnone => simp [hsome] at hnone
    | step hsome' hrest' =>
      obtain ⟨rfl, rfl⟩ : _ = _ ∧ _ = _ := by simpa [hsome] using hsome'
      rw [ih hrest']

/-- The walk of an area that is at one of its cells. -/
def standing (r : Area) (row col : Nat) : Walk := ⟨r, ⟨row, col⟩, false⟩

section

variable {r : Area} (hcol : r.last.col < UInt32.size)

include hcol

/-- Along a row a walk visits all that is left of the row, whatever follows its last cell. -/
theorem visits_row {row : Nat} {cells : List Coord} (n : Nat) {col : Nat}
    (hn : col + n = r.last.col) (hlast : (Walk.standing r row r.last.col).Visits cells) :
    (Walk.standing r row col).Visits ((List.range' col n).map (Coord.mk row) ++ cells) := by
  induction n generalizing col with
  | zero =>
    obtain rfl : col = r.last.col := hn
    exact hlast
  | succ n ih =>
    have hlt : col < r.last.col := by omega
    have hadd : add? col 1 = some (col + 1) := add?_eq (by omega)
    have hnext : (Walk.standing r row col).next? =
        some (some (⟨row, col⟩, Walk.standing r row (col + 1))) := by
      simp [next?, advance?, Walk.standing, hlt, hadd]
    exact .step hnext (ih (by omega))

/-- From the start of a row a walk visits that row and all rows below it. -/
theorem visits_rows (hrow : r.last.row < UInt32.size) (n : Nat) {row : Nat}
    (hn : row + n = r.last.row) :
    (Walk.standing r row r.first.col).Visits
      ((List.range' row (n + 1)).flatMap fun row =>
        (List.range' r.first.col r.width).map (Coord.mk row)) := by
  have hcount : r.first.col + (r.last.col - r.first.col) = r.last.col :=
    Nat.add_sub_cancel' r.col_le
  have hline (row : Nat) : (List.range' r.first.col r.width).map (Coord.mk row) =
      (List.range' r.first.col (r.last.col - r.first.col)).map (Coord.mk row) ++
        [⟨row, r.last.col⟩] := by
    rw [width, List.range'_1_concat, List.map_append, hcount, List.map_singleton]
  induction n generalizing row with
  | zero =>
    obtain rfl : row = r.last.row := hn
    have hnext : (Walk.standing r r.last.row r.last.col).next? =
        some (some (⟨r.last.row, r.last.col⟩, ⟨r, ⟨r.last.row, r.last.col⟩, true⟩)) := by
      simp [next?, advance?, Walk.standing]
    rw [Nat.zero_add, List.range'_one, List.flatMap_singleton, hline]
    exact visits_row hcol _ hcount (.step hnext (.done rfl))
  | succ n ih =>
    have hbelow : row < r.last.row := by omega
    have hadd : add? row 1 = some (row + 1) := add?_eq (by omega)
    have hnext : (Walk.standing r row r.last.col).next? =
        some (some (⟨row, r.last.col⟩, Walk.standing r (row + 1) r.first.col)) := by
      simp [next?, advance?, Walk.standing, hbelow, hadd]
    rw [List.range'_succ, List.flatMap_cons, hline, List.append_assoc]
    exact visits_row hcol _ hcount (.step hnext (ih (by omega)))

end

/-- The walk over an area visits its cells. -/
theorem visits_across {r : Area} (h : r.last.IsNarrow) : (Walk.across r).Visits r.cells :=
  visits_rows h.2 h.1 _ (Nat.add_sub_cancel' r.row_le)

/-- The cells that a walk visits, if it ends within so many steps. -/
def collect? : Nat → Walk → Option (List Coord)
  | 0, _ => none
  | steps + 1, w => do
    match ← w.next? with
    | none => return []
    | some (c, rest) => return c :: (← rest.collect? steps)

theorem Visits.collect? {w : Walk} {cells : List Coord} (h : w.Visits cells) {steps : Nat}
    (hsteps : cells.length < steps) : w.collect? steps = some cells := by
  induction h generalizing steps with
  | done hnone =>
    obtain ⟨steps, rfl⟩ := Nat.exists_eq_succ_of_ne_zero (Nat.ne_of_gt hsteps)
    simp [Walk.collect?, hnone]
  | step hsome _ ih =>
    obtain ⟨steps, rfl⟩ := Nat.exists_eq_succ_of_ne_zero (Nat.ne_of_gt (Nat.zero_lt_of_lt hsteps))
    simp [Walk.collect?, hsome, ih (Nat.lt_of_succ_lt_succ hsteps)]

end Walk

end Area

end Gridbook
