import Gridbook.Import.Basic
import Mathlib.Data.List.TakeDrop

/-!
# What an import stores

No JSON value is written as the empty text, so every content that an import stores
is one. The stored cells lie in the rows and the lettered columns that the data have.
Since the sheet is emptied before, an import leaves the same sheet behind every one.
-/
namespace Gridbook

namespace Decimal

theorem digits_ne_nil (n : Nat) : digits n ≠ [] := Nat.toDigits_ne_nil

/-- The first character of a decimal is no point. -/
theorem Scaled.exists_positional_cons (s : Scaled) :
    ∃ d rest, s.positional = d :: rest ∧ d ≠ '.' := by
  obtain ⟨d, ds, hds⟩ := List.exists_cons_of_ne_nil (digits_ne_nil s.coefficient)
  have hdigit : d.isDigit = true := by
    have hd : d ∈ Nat.toDigits 10 s.coefficient := by
      rw [show Nat.toDigits 10 s.coefficient = d :: ds from hds]
      exact List.mem_cons_self
    exact Nat.isDigit_of_mem_toDigits (by decide) (by decide) hd
  have hpoint : d ≠ '.' := by
    rintro rfl
    exact absurd hdigit (by decide)
  simp only [positional, hds]
  split
  · exact ⟨d, _, rfl, hpoint⟩
  · split
    · rename_i hplaces
      obtain ⟨n, hn⟩ := Nat.exists_eq_add_of_lt hplaces
      have htake : (d :: ds).length - (-s.exponent).toNat = n + 1 := by omega
      exact ⟨d, ds.take n ++ '.' :: ds.drop n, by rw [htake]; rfl, hpoint⟩
    · exact ⟨'0', _, rfl, by decide⟩

end Decimal

namespace Json

namespace Literal

/-- Digits before the point or after it are written. -/
theorem write_ne_nil {l : Literal} (h : l.whole ≠ [] ∨ l.fraction ≠ [] ∨ l.power ≠ none) :
    l.write ≠ [] := by
  rcases h with h | h | h
  · simp [write, h]
  · simp [write, h]
  · obtain ⟨power, hpower⟩ := Option.ne_none_iff_exists'.mp h
    simp [write, hpower]

theorem write_ofBinary_ne_nil (x : Float) (b : Decimal.Binary) : (ofBinary x b).write ≠ [] := by
  apply write_ne_nil
  rw [ofBinary]
  split
  · exact .inl (by simp)
  · dsimp only
    split
    · obtain ⟨d, rest, hpositional, hd⟩ :=
        Decimal.Scaled.exists_positional_cons (.shortest .toEven x.abs b)
      rw [hpositional, List.span_eq_takeWhile_dropWhile]
      split
      · rename_i whole _ fraction hspan
        obtain ⟨rfl, -⟩ := Prod.mk.inj hspan
        exact .inl (by simp [hd])
      · exact .inr (.inl (by simp))
    · split <;> exact .inl (by simp)

/-- A spelling that is out of range has digits. -/
theorem write_ne_nil_of_number?_eq_none {l : Literal} (h : l.number? = none) : l.write ≠ [] := by
  apply write_ne_nil
  by_contra hempty
  simp only [not_or, not_not] at hempty
  obtain ⟨hwhole, hfraction, hpower⟩ := hempty
  have hvalue : Decimal.valueOf l.whole = 0 := by rw [hwhole]; rfl
  simp only [number?, hfraction, hpower, hvalue, Nat.zero_le, and_self, if_true] at h
  split at h <;> simp at h

end Literal

theorem writeChars_float_ne_nil (x : Float) : (float x).writeChars ≠ [] := by
  rw [float]
  split
  · simp [writeChars]
  · simpa only [writeChars] using Literal.write_ofBinary_ne_nil x _

theorem Number.writeChars_toJson_ne_nil (n : Number) : n.toJson.writeChars ≠ [] := by
  cases n with
  | natural n =>
    simpa only [toJson, Json.nat, writeChars] using
      Literal.write_ne_nil (.inl (Decimal.digits_ne_nil n))
  | minus n =>
    simpa only [toJson, writeChars] using Literal.write_ne_nil (.inl (Decimal.digits_ne_nil n))
  | float x => exact writeChars_float_ne_nil x

/-- No value is written as the empty text. -/
theorem writeChars_normal_ne_nil (j : Json) : j.normal.writeChars ≠ [] := by
  cases j with
  | null => simp [normal, writeChars]
  | bool b => cases b <;> simp [normal, writeChars]
  | number l =>
    cases hnumber : l.number? with
    | none =>
      simpa only [normal, hnumber, writeChars] using Literal.write_ne_nil_of_number?_eq_none hnumber
    | some n => simpa only [normal, hnumber] using n.writeChars_toJson_ne_nil
  | string s => simp [normal, writeChars, writeText, writeString]
  | array items => simp [normal, writeChars]
  | object fields => simp [normal, writeChars]

end Json

namespace Import

/-- What a value becomes is not the empty text. -/
theorem ne_empty_of_literal? {j : Json} {content : String} (h : literal? j = some content) :
    content ≠ "" := by
  have hwrite : j.normal.write ≠ "" := by
    rw [Json.write, Ne, String.ofList_eq_empty_iff]
    exact j.writeChars_normal_ne_nil
  cases j with
  | null => simp [literal?] at h
  | string s =>
    simp only [literal?] at h
    split at h
    · simp at h
    · rename_i hs
      rw [h] at hs
      exact hs
  | bool _ | number _ | array _ | object _ =>
    obtain rfl := Option.some.inj h
    exact hwrite

/-- The cells of a row are the places of its values. -/
theorem mem_rowContents {row col : Nat} {js : List Json} {e : Coord × String} :
    e ∈ rowContents row col js ↔
      e.1.row = row ∧ ∃ i, e.1.col = col + i ∧ js[i]?.bind literal? = some e.2 := by
  induction js generalizing col with
  | nil => simp [rowContents]
  | cons j js ih =>
    rw [rowContents, List.mem_append, Option.mem_toList, ih]
    constructor
    · rintro (h | ⟨hrow, i, hcol, hcontent⟩)
      · obtain ⟨content, hcontent, rfl⟩ := Option.map_eq_some_iff.mp h
        exact ⟨rfl, 0, rfl, hcontent⟩
      · exact ⟨hrow, i + 1, by omega, hcontent⟩
    · rintro ⟨hrow, i, hcol, hcontent⟩
      cases i with
      | zero =>
        obtain ⟨⟨_, _⟩, content⟩ := e
        obtain rfl : _ = row := hrow
        obtain rfl : _ = col := hcol
        exact .inl (Option.map_eq_some_iff.mpr ⟨content, hcontent, rfl⟩)
      | succ i => exact .inr ⟨hrow, i, by omega, hcontent⟩

/-- The cells of some rows are the places of their values, those in columns without a letter apart. -/
theorem mem_contentsFrom {row : Nat} {rows : List (List Json)} {e : Coord × String} :
    e ∈ contentsFrom row rows ↔ e.1.col < Coord.letters ∧ ∃ i, e.1.row = counted (row + i) ∧
      (rows[i]?.bind (·[e.1.col]?)).bind literal? = some e.2 := by
  induction rows generalizing row with
  | nil => simp [contentsFrom]
  | cons js rest ih =>
    have hfirst : e ∈ rowContents (counted row) 0 (js.take Coord.letters) ↔
        e.1.col < Coord.letters ∧ e.1.row = counted row ∧ js[e.1.col]?.bind literal? = some e.2 := by
      rw [mem_rowContents]
      constructor
      · rintro ⟨hrow, i, hcol, hcontent⟩
        obtain rfl : e.1.col = i := by omega
        rw [List.getElem?_take] at hcontent
        split at hcontent
        · rename_i hletters
          exact ⟨hletters, hrow, hcontent⟩
        · cases hcontent
      · rintro ⟨hletters, hrow, hcontent⟩
        exact ⟨hrow, e.1.col, (Nat.zero_add _).symm, by rwa [List.getElem?_take_of_lt hletters]⟩
    rw [contentsFrom, List.mem_append, hfirst, ih]
    constructor
    · rintro (⟨hletters, hrow, hcontent⟩ | ⟨hletters, i, hrow, hcontent⟩)
      · exact ⟨hletters, 0, hrow, hcontent⟩
      · exact ⟨hletters, i + 1, by rw [hrow, Nat.add_right_comm]; rfl, hcontent⟩
    · rintro ⟨hletters, i, hrow, hcontent⟩
      cases i with
      | zero => exact .inl ⟨hletters, hrow, hcontent⟩
      | succ i => exact .inr ⟨hletters, i, by rw [hrow, Nat.add_right_comm]; rfl, hcontent⟩

theorem le_foldl_max {l : List Nat} {m n : Nat} (h : n ≤ m ∨ n ∈ l) : n ≤ l.foldl max m := by
  induction l generalizing m with
  | nil => simpa using h
  | cons k l ih =>
    refine ih ?_
    rcases h with h | h
    · exact .inl (Nat.le_trans h (Nat.le_max_left ..))
    · rcases List.mem_cons.mp h with rfl | h
      · exact .inl (Nat.le_max_right ..)
      · exact .inr h

theorem length_le_width {data : Import} {js : List Json} (h : js ∈ data.rows) :
    js.length ≤ data.width :=
  le_foldl_max (.inr (List.mem_map_of_mem h))

/-- An imported cell is at the place of a value; rows are counted as far as they are. -/
theorem of_mem_contents {data : Import} {e : Coord × String} (h : e ∈ data.contents) :
    (∃ row < data.height, e.1.row = counted row) ∧ e.1.col < min data.width Coord.letters ∧
      e.2 ≠ "" := by
  obtain ⟨hletters, row, hrow, hcontent⟩ := mem_contentsFrom.mp h
  obtain ⟨j, hj, hliteral⟩ := Option.bind_eq_some_iff.mp hcontent
  obtain ⟨js, hjs, hj⟩ := Option.bind_eq_some_iff.mp hj
  obtain ⟨hheight, -⟩ := List.getElem?_eq_some_iff.mp hjs
  obtain ⟨hcol, -⟩ := List.getElem?_eq_some_iff.mp hj
  have hwidth := length_le_width (List.mem_of_getElem? hjs)
  rw [Nat.zero_add] at hrow
  exact ⟨⟨row, hheight, hrow⟩, by omega, ne_empty_of_literal? hliteral⟩

/-- The empty sheet of the size that the data ask for. -/
def grid (data : Import) (rows cols : Nat) : Sheet :=
  Sheet.ofSize (data.gridRows rows) (data.gridCols cols)

/-- The contents of the data in their grid, without styles. -/
def unstyled (data : Import) (rows cols : Nat) : Sheet :=
  { data.grid rows cols with contents := .ofList data.contents }

/-- Contents that are not empty are stored one after the other. -/
theorem foldl_placeContent {entries : List (Coord × String)} (h : ∀ e ∈ entries, e.2 ≠ "")
    (s : Sheet) : entries.foldl placeContent s =
      { s with contents := entries.foldl (fun m e => m.insert e.1 e.2) s.contents } := by
  induction entries generalizing s with
  | nil => rfl
  | cons e entries ih =>
    have hplace : placeContent s e = { s with contents := s.contents.insert e.1 e.2 } := by
      rw [placeContent, Sheet.setContent, if_neg (h e List.mem_cons_self), CellMap.set]
    rw [List.foldl_cons, hplace, ih fun f hf => h f (List.mem_cons_of_mem _ hf)]
    rfl

/-- Nothing that a sheet held is left behind an import. -/
theorem apply_eq (data : Import) (rows cols : Nat) (s : Sheet) :
    data.apply rows cols s = data.styles.foldl placeStyle (data.unstyled rows cols) := by
  have hcontents : ∀ e ∈ data.contents, e.2 ≠ "" := fun _ he => (of_mem_contents he).2.2
  rw [apply, makeRoom, Sheet.clear_resize, foldl_placeContent hcontents]
  rfl

/-- An entry changes nothing of a sheet but its styles. -/
theorem placeStyle_keeps (s : Sheet) (e : String × Style) :
    (placeStyle s e).rows = s.rows ∧ (placeStyle s e).cols = s.cols ∧
      (placeStyle s e).contents = s.contents := by
  rw [placeStyle]
  split
  · split <;> exact ⟨rfl, rfl, rfl⟩
  · exact ⟨rfl, rfl, rfl⟩

theorem foldl_placeStyle_keeps (s : Sheet) (entries : List (String × Style)) :
    (entries.foldl placeStyle s).rows = s.rows ∧ (entries.foldl placeStyle s).cols = s.cols ∧
      (entries.foldl placeStyle s).contents = s.contents := by
  induction entries generalizing s with
  | nil => exact ⟨rfl, rfl, rfl⟩
  | cons e entries ih =>
    obtain ⟨hrows, hcols, hcontents⟩ := ih (placeStyle s e)
    obtain ⟨hrows', hcols', hcontents'⟩ := placeStyle_keeps s e
    exact ⟨hrows.trans hrows', hcols.trans hcols', hcontents.trans hcontents'⟩

section

variable (data : Import) (rows cols : Nat) (s : Sheet)

/-- The contents of an import are stored, wherever its styles are. -/
theorem contents_apply : (data.apply rows cols s).contents = .ofList data.contents := by
  rw [apply_eq]
  exact (foldl_placeStyle_keeps _ data.styles).2.2

theorem size_apply : (data.apply rows cols s).rows = (data.grid rows cols).rows ∧
    (data.apply rows cols s).cols = (data.grid rows cols).cols := by
  obtain ⟨hrows, hcols, -⟩ := foldl_placeStyle_keeps (data.unstyled rows cols) data.styles
  rw [apply_eq]
  exact ⟨hrows, hcols⟩

theorem contains_apply (c : Coord) :
    (data.apply rows cols s).contains c = (data.grid rows cols).contains c := by
  obtain ⟨hrows, hcols⟩ := size_apply data rows cols s
  rw [Sheet.contains, Sheet.contains, hrows, hcols]

end

/-- The value at a place of the data. -/
def valueAt? (data : Import) (c : Coord) : Option Json := data.rows[c.row]?.bind (·[c.col]?)

/-- Rows that are kept apart have their values in their cells. -/
theorem mem_contents_iff {data : Import} (hrows : data.height ≤ Coord.lastRow + 1) {c : Coord}
    {content : String} : (c, content) ∈ data.contents ↔
      c.col < Coord.letters ∧ (data.valueAt? c).bind literal? = some content := by
  rw [contents, mem_contentsFrom]
  have hcounted {row : Nat} (hrow : row < data.rows.length) : counted (0 + row) = row := by
    have hheight : row < data.height := hrow
    rw [counted]
    omega
  have hlt {row col : Nat} (h : (data.rows[row]?.bind (·[col]?)).bind literal? = some content) :
      row < data.rows.length := by
    obtain ⟨j, hj, -⟩ := Option.bind_eq_some_iff.mp h
    obtain ⟨js, hjs, -⟩ := Option.bind_eq_some_iff.mp hj
    exact (List.getElem?_eq_some_iff.mp hjs).1
  constructor
  · rintro ⟨hletters, row, hrow, hcontent⟩
    obtain rfl : c.row = row := hrow.trans (hcounted (hlt hcontent))
    exact ⟨hletters, hcontent⟩
  · rintro ⟨hletters, hcontent⟩
    exact ⟨hletters, c.row, (hcounted (hlt hcontent)).symm, hcontent⟩

theorem get?_contents {data : Import} (hrows : data.height ≤ Coord.lastRow + 1) (c : Coord) :
    (CellMap.ofList data.contents).get? c =
      if c.col < Coord.letters then (data.valueAt? c).bind literal? else none := by
  refine CellMap.get?_ofList_eq (f := fun c => if c.col < Coord.letters then
    (data.valueAt? c).bind literal? else none) (fun c content => ?_) c
  rw [mem_contents_iff hrows]
  split
  · rename_i hletters
    simp [hletters]
  · rename_i hletters
    simp [hletters]

end Import

end Gridbook
