import Gridbook.Proofs.Results
import Gridbook.Proofs.Uses
import Gridbook.Proofs.Walking

/-!
# What a range gathers

Any two opposite corners name the same cells in the same order, and no cell is named twice. So
the values of a range depend on its rectangle only, not on how the range is written.
-/
namespace Gridbook

namespace Area

theorem size_spanning (a b : Coord) : (spanning a b).size =
    (((a.row : Int) - b.row).natAbs + 1) * (((a.col : Int) - b.col).natAbs + 1) := by
  have hheight : (spanning a b).height = ((a.row : Int) - b.row).natAbs + 1 := by
    simp only [height, spanning]
    omega
  have hwidth : (spanning a b).width = ((a.col : Int) - b.col).natAbs + 1 := by
    simp only [width, spanning]
    omega
  rw [size, hheight, hwidth]

end Area

namespace Formula

/-- What a formula sees of each of some cells, up to the first that fails. -/
def seen (sheet : Sheet) (limit room : Nat) (t : Trail) (cells : List Coord) :
    Except EvalError (List Value) :=
  cells.mapM fun c => ((evaluateIn sheet limit room c).result t).map fun v => .text v.display

section

variable {sheet : Sheet} {limit room : Nat} {origin p q : Coord} {range : List Char} (t : Trail)
  (hp : sheet.contains p = true) (hq : sheet.contains q = true)

include hp hq

/-- The cells of an area of the grid are all referred to without an error of their place. -/
theorem mapM_referenced : (((Area.spanning p q).cells.filter (· ≠ origin)).mapM fun c =>
      (referenced sheet (evaluateIn sheet limit room) c).result t) =
    seen sheet limit room t ((Area.spanning p q).cells.filter (· ≠ origin)) := by
  refine mapM_congr fun c hc => ?_
  have hc := Area.mem_cells.mp (List.mem_filter.mp hc).1
  rw [result_referenced sheet (balanced_evaluateIn sheet limit room),
    if_pos (Sheet.contains_of_spanning hp hq hc)]

variable (hrange : RangeText range p q)

include hrange

/-- A range of the grid gathers what is seen of the cells of its area, in their order. -/
theorem outcome_gather :
    (gather sheet (evaluateIn sheet limit room) origin range).outcome t =
      (seen sheet limit room t ((Area.spanning p q).cells.filter (· ≠ origin)), t) := by
  have hbalanced := balanced_evaluateIn sheet limit room
  rw [Eval.outcome_of_balanced (balanced_gather sheet hbalanced origin range),
    result_gather sheet hbalanced, areaOf_eq_ok_iff.mpr ⟨p, q, hrange, hp, hq, rfl⟩]
  exact Prod.ext (mapM_referenced t hp hq) rfl

/-- An argument that is a range has what is gathered as its value. -/
theorem outcome_argumentValue (htext : isRangeText range = true) :
    (argumentValue sheet (evaluateIn sheet limit room) origin range).outcome t =
      ((seen sheet limit room t ((Area.spanning p q).cells.filter (· ≠ origin))).map .list, t) := by
  rw [argumentValue, if_pos htext, Eval.outcome_bind, outcome_gather t hp hq hrange]
  cases seen sheet limit room t ((Area.spanning p q).cells.filter (· ≠ origin)) <;> rfl

/-- An aggregate is applied to the numbers among what its range gathers. -/
theorem outcome_aggregate {text : List Char} {call : Call} {f : Aggregate}
    (hcall : call? text = some call) (hf : Aggregate.ofName? call.name = some f)
    (harguments : call.arguments = range) :
    (evaluateFormula sheet (evaluateIn sheet limit room) origin text).outcome t =
      ((seen sheet limit room t ((Area.spanning p q).cells.filter (· ≠ origin))).map fun values =>
        .number (f.apply (values.filterMap Value.number?)), t) := by
  have htrim : RangeText (Text.trim call.arguments) p q := by
    rw [harguments]
    exact rangeText_trim_iff.mpr hrange
  simp only [evaluateFormula, hcall, hf]
  rw [Eval.outcome_bind, outcome_gather t hp hq htrim]
  cases seen sheet limit room t ((Area.spanning p q).cells.filter (· ≠ origin)) <;> rfl

end

/--
The walk over the area of two cells visits as many cells as the rows and the columns between
them say, in order, each once, and just those that the area contains. A range that is written
with two opposite corners of an area of the grid, whichever they are, gathers what is seen of
these cells but the one that asks; so do an argument and an aggregate of such a range.
-/
theorem gathered_once :
    (∀ a b : Coord, a.IsNarrow → b.IsNarrow →
      (∀ visited, (Area.Walk.across (Area.spanning a b)).Visits visited ↔
        visited = (Area.spanning a b).cells) ∧
      (Area.spanning a b).cells.length =
        (((a.row : Int) - b.row).natAbs + 1) * (((a.col : Int) - b.col).natAbs + 1) ∧
      (Area.spanning a b).cells.Pairwise (· < ·) ∧ (Area.spanning a b).cells.Nodup ∧
      ∀ c, c ∈ (Area.spanning a b).cells ↔ (Area.spanning a b).contains c = true) ∧
    ∀ (sheet : Sheet) (limit room : Nat) (origin a b p q : Coord) (range : List Char) (t : Trail),
      sheet.contains a = true → sheet.contains b = true → (Area.spanning a b).HasCorners p q →
      RangeText range p q →
      let visit := evaluateIn sheet limit room
      let values := seen sheet limit room t ((Area.spanning a b).cells.filter (· ≠ origin))
      (gather sheet visit origin range).outcome t = (values, t) ∧
      (isRangeText range = true →
        (argumentValue sheet visit origin range).outcome t = (values.map .list, t)) ∧
      ∀ text call f, call? text = some call → Aggregate.ofName? call.name = some f →
        call.arguments = range → (evaluateFormula sheet visit origin text).outcome t =
          (values.map fun values => .number (f.apply (values.filterMap Value.number?)), t) := by
  refine ⟨fun a b ha hb => ?_, fun sheet limit room origin a b p q range t ha hb hcorners hrange => ?_⟩
  · have hwalk := Area.Walk.visits_across (Area.isNarrow_last_spanning.mpr ⟨ha, hb⟩)
    refine ⟨fun visited => ⟨fun h => h.unique hwalk, fun h => h ▸ hwalk⟩, ?_,
      Area.pairwise_cells _, Area.nodup_cells _, fun c => Area.mem_cells⟩
    rw [Area.length_cells, Area.size_spanning]
  · obtain ⟨hp, hq⟩ := hcorners.contains
    have hp := Sheet.contains_of_spanning ha hb hp
    have hq := Sheet.contains_of_spanning ha hb hq
    rw [← Area.hasCorners_iff.mp hcorners]
    exact ⟨outcome_gather t hp hq hrange, outcome_argumentValue t hp hq hrange,
      fun text call f hcall hf => outcome_aggregate t hp hq hrange hcall hf⟩

/-- A sheet of two by two cells. -/
def doorway : Sheet := ((Sheet.ofSize 2 2).setContent ⟨0, 0⟩ "x").setContent ⟨1, 1⟩ "y"

/-- A range written from its lower right to its upper left corner, and a cell of it that asks. -/
theorem gathered_once_doorway :
    (∀ visited, (Area.Walk.across (Area.spanning ⟨4294967295, 7⟩ ⟨4294967294, 4294967295⟩)).Visits
      visited → visited.length = 2 * 4294967289) ∧
    (gather doorway (evaluateIn doorway 3 2) ⟨0, 1⟩ "B2 : A1".toList).outcome .start =
      (.ok [.text "x", .text "", .text "y"], .start) := by
  obtain ⟨hwalk, hgather⟩ := gathered_once
  constructor
  · intro visited hvisited
    obtain ⟨hcells, hlength, -⟩ :=
      hwalk ⟨4294967295, 7⟩ ⟨4294967294, 4294967295⟩ (by decide) (by decide)
    rw [(hcells visited).mp hvisited, hlength]
    rfl
  · have hrange : RangeText ("B2 ".toList ++ ':' :: " A1".toList) ⟨1, 1⟩ ⟨0, 0⟩ :=
      .pair (by decide +kernel) (by decide +kernel)
    obtain ⟨hvalues, -⟩ := hgather doorway 3 2 ⟨0, 1⟩ ⟨1, 0⟩ ⟨0, 1⟩ ⟨1, 1⟩ ⟨0, 0⟩ "B2 : A1".toList
      .start (by decide) (by decide) (by simp [Area.HasCorners, Area.spanning]) hrange
    rw [hvalues]
    rfl

end Formula

end Gridbook
