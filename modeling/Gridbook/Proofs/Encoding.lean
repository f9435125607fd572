import Gridbook.Proofs.JsonText
import Gridbook.Proofs.Name
import Gridbook.Proofs.Trimming
import Gridbook.Sheet.Json

/-!
# Sheets that are written and read back

A record gives each of its fields back, those that were left out as missing. So colors,
styles and sizes are read as they were written. A cell keeps what it stores if its
column has a letter; the labels of the other cells are names of none.
-/
namespace Gridbook

theorem mapM_eq_some_map {α β : Type} {l : List α} {f : α → Option β} {g : α → β}
    (h : ∀ a ∈ l, f a = some (g a)) : l.mapM f = some (l.map g) := by
  induction l with
  | nil => rfl
  | cons a l ih =>
    rw [List.mapM_cons, h a (by simp), ih fun b hb => h b (by simp [hb])]
    rfl

namespace Json

/-- The fields of a record that are written. -/
def present (fields : List (String × Option Json)) : List (String × Json) :=
  fields.filterMap fun f => f.2.map fun j => (f.1, j)

theorem present_cons (name : String) (j : Option Json) (fields : List (String × Option Json)) :
    present ((name, j) :: fields) = (j.toList.map fun j => (name, j)) ++ present fields := by
  cases j <;> rfl

theorem name_mem_of_present {fields : List (String × Option Json)} {f : String × Json}
    (h : f ∈ present fields) : f.1 ∈ fields.map Prod.fst := by
  obtain ⟨g, hg, hf⟩ := List.mem_filterMap.mp h
  obtain ⟨j, -, rfl⟩ := Option.map_eq_some_iff.mp hf
  exact List.mem_map_of_mem hg

theorem spelled_nat (n : Nat) : (nat n).Spelled := .number (Literal.valid_ofNat n)

theorem spelled_record {fields : List (String × Json)} (h : ∀ f ∈ fields, f.2.Spelled) :
    (record fields).Spelled := by
  refine .object (fun f hf => ?_) fun f hf => ?_
  · obtain ⟨g, -, rfl⟩ := List.mem_map.mp hf
    exact ⟨g.1, rfl⟩
  · obtain ⟨g, hg, rfl⟩ := List.mem_map.mp hf
    exact h g hg

/-- A name that is given once has its value in the record. -/
theorem single?_present {fields : List (String × Option Json)} (hnodup : (fields.map Prod.fst).Nodup)
    {f : String × Option Json} (hf : f ∈ fields) :
    single? f.1 ((present fields).map fun (name, j) => (some name, j)) = some f.2 := by
  have hfilter : ((present fields).map fun (name, j) => (some name, j)).filter
      (fun g => g.1 == some f.1) = f.2.toList.map fun j => (some f.1, j) := by
    induction fields with
    | nil => cases hf
    | cons g fields ih =>
      obtain ⟨name, j⟩ := g
      obtain ⟨hfresh, hnodup⟩ := List.nodup_cons.mp hnodup
      rw [present_cons, List.map_append, List.filter_append]
      rcases List.mem_cons.mp hf with rfl | hmem
      · have hnone : ((present fields).map fun (name, j) => (some name, j)).filter
            (fun g => g.1 == some name) = [] := by
          simp only [List.filter_eq_nil_iff, List.mem_map, beq_iff_eq]
          rintro _ ⟨g, hg, rfl⟩ hname
          exact hfresh (Option.some.inj hname ▸ name_mem_of_present hg)
        rw [hnone]
        cases j <;> simp
      · have hne : name ≠ f.1 := by
          have hname : f.1 ∈ fields.map Prod.fst := List.mem_map_of_mem hmem
          exact fun heq => hfresh (heq ▸ hname)
        rw [ih hnodup hmem]
        cases j <;> simp [hne]
  rw [single?, hfilter]
  cases f.2 <;> rfl

/-- A record gives back the fields it was made of. -/
theorem fields?_present {fields : List (String × Option Json)}
    (hnodup : (fields.map Prod.fst).Nodup) :
    (record (present fields)).fields? (fields.map Prod.fst) = some (fields.map Prod.snd) := by
  have hnames : ((present fields).map fun (name, j) => (some name, j)).all
      (fun f => f.1.isSome) = true := by
    simp
  rw [record, fields?, if_pos hnames, List.mapM_map]
  exact mapM_eq_some_map fun f hf => single?_present hnodup hf

/-- A value that may be missing is read as it was, since none is written as null. -/
theorem orElse_nullable {α : Type} {read : Json → Option α} {write : α → Json}
    (hread : ∀ a, read (write a) = some a) (hnull : ∀ a, write a ≠ .null) (a : Option α) :
    orElse none (nullable read) (a.map write) = some a := by
  cases a with
  | none => rfl
  | some a =>
    rw [Option.map_some, orElse, nullable, hread, Option.map_some]
    exact hnull a

theorem nat?_nat {n largest : Nat} (hn : n ≤ largest) (hlargest : largest ≤ largestWord) :
    nat? largest (nat n) = some n := by
  have hvalue : Decimal.valueOf (Literal.ofNat n).whole = n := by
    simp [Decimal.valueOf, Literal.ofNat, Decimal.digits]
  have hnumber : (Literal.ofNat n).number? = some (.natural n) := by
    have hword : n ≤ largestWord := Nat.le_trans hn hlargest
    rw [Literal.number?, hvalue]
    simp [Literal.ofNat, hword]
  simp [nat?, nat, hnumber, hn]

end Json

namespace Color

open Text (hexDigit)

theorem hexDigit_spec {n : Nat} (h : n < 16) :
    hexDigit n ≠ '+' ∧ hexDigit n ≠ '#' ∧ Text.isBlank (hexDigit n) = false := by
  have all : ∀ n < 16, hexDigit n ≠ '+' ∧ hexDigit n ≠ '#' ∧
      Text.isBlank (hexDigit n) = false := by
    decide
  exact all n h

theorem channel?_channelText (n : UInt8) :
    channel? (hexDigit (n.toNat / 16)) (hexDigit (n.toNat % 16)) = some n := by
  have hn : n.toNat < 256 := n.toNat_lt
  have hhigh : n.toNat / 16 < 16 := by omega
  have hlow : n.toNat % 16 < 16 := Nat.mod_lt _ (by decide)
  have hvalue : n.toNat / 16 * 16 + n.toNat % 16 = n.toNat := Nat.div_add_mod' ..
  rw [channel?, Text.hexDigit?_hexDigit hlow, Text.hexDigit?_hexDigit hhigh]
  simp only [(hexDigit_spec hhigh).1, if_false, Option.map_some, hvalue, UInt8.ofNat_toNat]

/-- A color is read as it is written, with its opacity or without. -/
theorem ofHex?_toHex (c : Color) : ofHex? c.toHex = some c := by
  have hhigh (n : UInt8) : n.toNat / 16 < 16 := by
    have := n.toNat_lt
    omega
  have hlow (n : UInt8) : n.toNat % 16 < 16 := Nat.mod_lt _ (by decide)
  have hblank (n : UInt8) : ∀ d ∈ channelText n, Text.isBlank d = false := by
    simp [channelText, hexDigit_spec (hhigh n), hexDigit_spec (hlow n)]
  have htrim : Text.trim c.toHex.toList = c.toHex.toList := by
    refine Text.trim_of_forall fun d hd => ?_
    simp only [toHex, String.toList_ofList, List.mem_cons, List.mem_append] at hd
    rcases hd with rfl | (((hd | hd) | hd) | hd)
    · decide
    · exact hblank _ d hd
    · exact hblank _ d hd
    · exact hblank _ d hd
    · split at hd
      · cases hd
      · exact hblank _ d hd
  have hmark (t : List Char) : ('#' :: hexDigit (c.red.toNat / 16) :: t).dropWhile (· == '#') =
      hexDigit (c.red.toNat / 16) :: t := by
    rw [List.dropWhile_cons_of_pos rfl,
      List.dropWhile_cons_of_neg (by simp [hexDigit_spec (hhigh c.red)])]
  rw [ofHex?, htrim, toHex, String.toList_ofList]
  by_cases hopacity : c.opacity = 255
  · simp only [hopacity, if_true, channelText, List.cons_append, List.nil_append, hmark,
      channel?_channelText]
    rw [← hopacity]
  · simp only [hopacity, if_false, channelText, List.cons_append, List.nil_append, hmark,
      channel?_channelText]

theorem ofJson?_toJson (c : Color) : ofJson? c.toJson = some c := by
  rw [ofJson?, toJson, Json.text, Json.text?, Option.bind_some, ofHex?_toHex]

end Color

theorem byte?_nat (n : UInt8) : byte? (Json.nat n.toNat) = some n := by
  have hn : n.toNat ≤ 255 := Nat.le_of_lt_succ n.toNat_lt
  rw [byte?, Json.nat?_nat hn (by decide), Option.map_some, UInt8.ofNat_toNat]

theorem Alignment.ofJson?_name (a : Alignment) : ofJson? (Json.text a.name) = some a := by
  cases a <;> rfl

namespace Style

open Json (present)

/-- The fields of a style that may be written. -/
def written (s : Style) : List (String × Option Json) := [
  ("bold", if s.bold then some (.bool true) else none),
  ("italic", if s.italic then some (.bool true) else none),
  ("strikethrough", if s.strikethrough then some (.bool true) else none),
  ("fontSize", s.fontSize.map fun n => Json.nat n.toNat),
  ("fontFamily", s.fontFamily.map Json.text),
  ("color", s.color.map Color.toJson),
  ("textAlign", if s.alignment = .left then none else some (Json.text s.alignment.name))]

theorem toJson_eq (s : Style) : s.toJson = Json.record (present s.written) := by
  have hflag (name : String) (b : Bool) :
      (if b then [(name, Json.bool true)] else []) =
        (if b then some (Json.bool true) else none).toList.map fun j => (name, j) := by
    cases b <;> rfl
  have halignment : (if s.alignment = .left then [] else
      [("textAlign", Json.text s.alignment.name)]) =
        (if s.alignment = .left then none else
          some (Json.text s.alignment.name)).toList.map fun j => ("textAlign", j) := by
    split <;> rfl
  have hnil : present [] = [] := rfl
  simp only [toJson, written, Json.present_cons, hflag, halignment, hnil, List.append_nil,
    List.append_assoc]

theorem ofJson?_toJson (s : Style) : ofJson? s.toJson = some s := by
  have hfields : Json.fields? styleFields s.toJson = some (s.written.map Prod.snd) := by
    rw [toJson_eq]
    have hnodup : (s.written.map Prod.fst).Nodup := by
      have hnames : styleFields.Nodup := by decide
      exact hnames
    exact Json.fields?_present hnodup
  have hflag (b : Bool) :
      Json.orElse false Json.bool? (if b then some (.bool true) else none) = some b := by
    cases b <;> rfl
  have hsize (n : Option UInt8) : Json.orElse none (Json.nullable byte?)
      (n.map fun n => Json.nat n.toNat) = some n :=
    Json.orElse_nullable byte?_nat (fun _ => Json.noConfusion) n
  have hfamily (name : Option String) :
      Json.orElse none (Json.nullable Json.text?) (name.map Json.text) = some name := by
    cases name <;> rfl
  have hcolor (c : Option Color) :
      Json.orElse none (Json.nullable Color.ofJson?) (c.map Color.toJson) = some c :=
    Json.orElse_nullable Color.ofJson?_toJson (fun _ => Json.noConfusion) c
  have halignment (a : Alignment) : Json.orElse .left Alignment.ofJson?
      (if a = .left then none else some (Json.text a.name)) = some a := by
    split
    · rename_i hleft
      exact congrArg some hleft.symm
    · exact a.ofJson?_name
  simp only [ofJson?, hfields, written, List.map_cons, List.map_nil, hflag, hsize, hfamily, hcolor,
    halignment]
  rfl

theorem spelled_toJson (s : Style) : s.toJson.Spelled := by
  rw [toJson_eq]
  refine Json.spelled_record fun f hf => ?_
  obtain ⟨g, hg, hf⟩ := List.mem_filterMap.mp hf
  obtain ⟨j, hj, rfl⟩ := Option.map_eq_some_iff.mp hf
  have hflag {b : Bool} (h : (if b then some (Json.bool true) else none) = some j) : j.Spelled := by
    split at h <;> cases h
    exact .bool true
  simp only [written, List.mem_cons, List.not_mem_nil, or_false] at hg
  rcases hg with rfl | rfl | rfl | rfl | rfl | rfl | rfl
  · exact hflag hj
  · exact hflag hj
  · exact hflag hj
  · obtain ⟨n, -, rfl⟩ := Option.map_eq_some_iff.mp hj
    exact Json.spelled_nat _
  · obtain ⟨family, -, rfl⟩ := Option.map_eq_some_iff.mp hj
    exact .text family
  · obtain ⟨c, -, rfl⟩ := Option.map_eq_some_iff.mp hj
    exact .text c.toHex
  · split at hj <;> cases hj
    exact .text s.alignment.name

end Style

namespace CellMap

variable {α : Type} {write : α → Json} {read : Json → Option α}

/-- What is read of a map is what it stores in the columns that have a letter. -/
theorem exists_ofJson?_toJson (hread : ∀ a, read (write a) = some a) {m : CellMap α}
    (hrows : ∀ c ∈ m.cells, c.row < Coord.lastRow) :
    ∃ m', ofJson? read (m.toJson write) = some m' ∧
      ∀ c, m'.get? c = if c.col < Coord.letters then m.get? c else none := by
  let kept (e : Coord × α) : Option (Coord × α) := if e.1.col < Coord.letters then some e else none
  have hfield (e : Coord × α) (he : e ∈ m.entries) :
      readField read (some e.1.label, write e.2) = some (kept e) := by
    have hrow := hrows e.1 (List.mem_map_of_mem he)
    simp only [readField, hread, kept]
    by_cases hcol : e.1.col < Coord.letters
    · rw [if_pos hcol, Coord.ofName?, Coord.ofChars?_label ⟨hcol, hrow⟩]
      rfl
    · rw [if_neg hcol, Coord.ofName?, Coord.ofChars?_label_of_not_lettered hcol]
      rfl
  refine ⟨ofList (m.entries.filterMap kept), ?_, fun c => ?_⟩
  · simp only [toJson, Json.record, ofJson?, List.map_map, List.mapM_map, Function.comp_def]
    rw [mapM_eq_some_map hfield, Option.map_some, List.filterMap_map]
    rfl
  · refine get?_ofList_eq (f := fun c => if c.col < Coord.letters then m.get? c else none)
      (fun c a => ?_) c
    simp only [List.mem_filterMap, kept]
    constructor
    · rintro ⟨e, he, hkept⟩
      split at hkept
      · rename_i hcol
        cases hkept
        rw [if_pos hcol]
        exact mem_entries_iff.mp he
      · cases hkept
    · intro hget
      split at hget
      · rename_i hcol
        exact ⟨(c, a), mem_entries_iff.mpr hget, if_pos hcol⟩
      · cases hget

theorem spelled_toJson (hwrite : ∀ a, (write a).Spelled) (m : CellMap α) :
    (m.toJson write).Spelled := by
  refine Json.spelled_record fun f hf => ?_
  obtain ⟨e, -, rfl⟩ := List.mem_map.mp hf
  exact hwrite e.2

/-- An object has one field for each of some cells, in increasing order and under different names. -/
structure InOrder (cells : List Coord) (j : Json) : Prop where
  fields : ∃ values : List Json, values.length = cells.length ∧
    j = Json.record ((cells.map Coord.label).zip values)
  increasing : cells.Pairwise (· < ·)
  distinct : (cells.map Coord.label).Nodup

theorem inOrder_toJson (write : α → Json) {m : CellMap α}
    (hrows : ∀ c ∈ m.cells, c.row < Coord.lastRow) : InOrder m.cells (m.toJson write) where
  fields := by
    refine ⟨m.entries.map fun e => write e.2, by simp [cells], ?_⟩
    rw [toJson, cells, List.map_map, List.zip_map']
    rfl
  increasing := List.pairwise_map.mpr m.ordered
  distinct := by
    have hordered : m.cells.Pairwise (· < ·) := List.pairwise_map.mpr m.ordered
    refine List.pairwise_map.mpr (hordered.imp_of_mem fun {a b} ha hb hab hlabel => ?_)
    rw [Coord.label_injective (hrows a ha) (hrows b hb) hlabel] at hab
    exact Coord.lt_irrefl b hab

/-- Without other cells than named ones a map is what is read of it. -/
theorem eq_of_lettered {m m' : CellMap α} (hcells : ∀ c ∈ m.cells, c.col < Coord.letters)
    (h : ∀ c, m'.get? c = if c.col < Coord.letters then m.get? c else none) : m' = m := by
  refine ext_get? fun c => ?_
  rw [h]
  split
  · rfl
  · rename_i hcol
    cases hget : m.get? c with
    | none => rfl
    | some a => exact absurd (hcells c (mem_cells_iff.mpr (by simp [hget]))) hcol

end CellMap

namespace Sheet

theorem toJson_eq (s : Sheet) : s.toJson = Json.record (Json.present [
    ("numRows", some (Json.nat s.rows)), ("numCols", some (Json.nat s.cols)),
    ("cells", some (s.contents.toJson Json.text)),
    ("styles", some (s.styles.toJson Style.toJson))]) := rfl

theorem spelled_toJson (s : Sheet) : s.toJson.Spelled := by
  refine Json.spelled_record fun f hf => ?_
  simp only [List.mem_cons, List.not_mem_nil, or_false] at hf
  rcases hf with rfl | rfl | rfl | rfl
  · exact Json.spelled_nat _
  · exact Json.spelled_nat _
  · exact CellMap.spelled_toJson .text _
  · exact CellMap.spelled_toJson Style.spelled_toJson _

/-- What is read of a written sheet. -/
theorem exists_ofJson?_toJson {s : Sheet} (hrows : s.rows ≤ largestSize)
    (hcols : s.cols ≤ largestSize)
    (hstored : ∀ c ∈ s.contents.cells ++ s.styles.cells, c.row < Coord.lastRow) :
    ∃ t, ofJson? s.toJson = some t ∧ t.rows = s.rows ∧ t.cols = s.cols ∧
      (∀ c, t.contents.get? c = if c.col < Coord.letters then s.contents.get? c else none) ∧
      ∀ c, t.styles.get? c = if c.col < Coord.letters then s.styles.get? c else none := by
  obtain ⟨hcontentrows, hstylerows⟩ := List.forall_mem_append.mp hstored
  have htexts (text : String) : Json.text? (Json.text text) = some text := rfl
  obtain ⟨contents, hcontents, hgetcontent⟩ := CellMap.exists_ofJson?_toJson htexts hcontentrows
  obtain ⟨styles, hstyles, hgetstyle⟩ := CellMap.exists_ofJson?_toJson Style.ofJson?_toJson hstylerows
  have hword : largestSize ≤ Json.largestWord := by decide
  have hfields : s.toJson.fields? ["numRows", "numCols", "cells", "styles"] =
      some [some (Json.nat s.rows), some (Json.nat s.cols), some (s.contents.toJson Json.text),
        some (s.styles.toJson Style.toJson)] := by
    have hnames : ["numRows", "numCols", "cells", "styles"].Nodup := by decide
    rw [toJson_eq]
    exact Json.fields?_present hnames
  refine ⟨⟨s.rows, s.cols, contents, styles⟩, ?_, rfl, rfl, hgetcontent, hgetstyle⟩
  simp only [ofJson?, hfields, Json.required, Json.orElse, Option.bind_some,
    Json.nat?_nat hrows hword, Json.nat?_nat hcols hword, hcontents, hstyles]
  rfl

/--
The text of a sheet is an object with the size of the grid and with the contents and the
styles, each of them in the order of the cells and under different names. Read again it
has the same size and, in the columns that have a letter, the same contents and styles;
in the other columns it has none. So it is the same sheet if nothing is stored there.
-/
theorem read_toJson {s : Sheet} (hrows : s.rows ≤ largestSize) (hcols : s.cols ≤ largestSize)
    (hstored : ∀ c ∈ s.contents.cells ++ s.styles.cells, c.row < Coord.lastRow) :
    (∃ contents styles, Json.read? s.toJson.write = some (Json.record [
        ("numRows", Json.nat s.rows), ("numCols", Json.nat s.cols), ("cells", contents),
        ("styles", styles)]) ∧
      CellMap.InOrder s.contents.cells contents ∧ CellMap.InOrder s.styles.cells styles) ∧
    ∃ t, (Json.read? s.toJson.write).bind ofJson? = some t ∧ t.rows = s.rows ∧ t.cols = s.cols ∧
      (∀ c, t.contents.get? c = if c.col < Coord.letters then s.contents.get? c else none) ∧
      (∀ c, t.styles.get? c = if c.col < Coord.letters then s.styles.get? c else none) ∧
      ((∀ c ∈ s.contents.cells ++ s.styles.cells, c.col < Coord.letters) → t = s) := by
  have hread := Json.read?_write s.spelled_toJson
  obtain ⟨hcontentrows, hstylerows⟩ := List.forall_mem_append.mp hstored
  refine ⟨⟨_, _, hread, CellMap.inOrder_toJson _ hcontentrows,
    CellMap.inOrder_toJson _ hstylerows⟩, ?_⟩
  obtain ⟨t, ht, htrows, htcols, hcontents, hstyles⟩ := exists_ofJson?_toJson hrows hcols hstored
  refine ⟨t, by rw [hread, Option.bind_some, ht], htrows, htcols, hcontents, hstyles, fun h => ?_⟩
  obtain ⟨hlettered, hlettered'⟩ := List.forall_mem_append.mp h
  exact eq_of_fields htrows htcols (CellMap.eq_of_lettered hlettered hcontents)
    (CellMap.eq_of_lettered hlettered' hstyles)

/-- A sheet with a content right of column `Z` and a color that is not opaque. -/
def palette : Sheet :=
  (((ofSize 2 27).setContent ⟨0, 1⟩ "=A1").setContent ⟨0, 26⟩ "\"x\"").setStyle ⟨1, 0⟩
    { Style.plain with color := some ⟨255, 0, 10, 9⟩ }

theorem read_toJson_palette :
    (∀ c ∈ palette.contents.cells ++ palette.styles.cells, c.row < Coord.lastRow) ∧
      ∃ t, (Json.read? palette.toJson.write).bind ofJson? = some t ∧ t.cols = 27 ∧
        t.contents.get? ⟨0, 1⟩ = some "=A1" ∧ t.contents.get? ⟨0, 26⟩ = none ∧
        t.styles.get? ⟨1, 0⟩ = some { Style.plain with color := some ⟨255, 0, 10, 9⟩ } := by
  have hstored : ∀ c ∈ palette.contents.cells ++ palette.styles.cells, c.row < Coord.lastRow := by
    decide +kernel
  obtain ⟨-, t, ht, -, hcols, hcontents, hstyles, -⟩ := read_toJson (by decide) (by decide) hstored
  exact ⟨hstored, t, ht, hcols, hcontents ⟨0, 1⟩, hcontents ⟨0, 26⟩, hstyles ⟨1, 0⟩⟩

end Sheet

end Gridbook
