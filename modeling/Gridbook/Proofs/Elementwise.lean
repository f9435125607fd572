import Gridbook.Proofs.Imports
import Gridbook.Proofs.Occurrences
import Gridbook.Proofs.Results

/-!
# Replacing in every value of a list

Matches are replaced in each value of a list, but a value alone that shows nothing is left
as it is, whatever the pattern. For a list this is asked of the list as a whole, which shows
at least a comma as soon as it has two values. So a list is treated value by value unless
a pattern puts something in the place of the empty text.
-/
namespace Gridbook

namespace Decimal

theorem plain_ne_nil (x : Float) : plain x ≠ [] := by
  rw [plain]
  split
  · split
    · simp
    · split <;> simp
  · rename_i b hb
    have hsize : (if b.mantissa = 0 then ['0'] else (Scaled.shortest .up x.abs b).positional) ≠
        [] := by
      split
      · simp
      · obtain ⟨d, rest, hpositional, -⟩ := (Scaled.shortest .up x.abs b).exists_positional_cons
        simp [hpositional]
    dsimp only
    split
    · simp
    · exact hsize

end Decimal

theorem showNumber_ne_nil (x : Float) : showNumber x ≠ [] := by
  rw [showNumber]
  split
  · decide
  · split
    · simp
    · split
      · exact Decimal.plain_ne_nil x
      · dsimp only
        split
        · decide
        · split <;> simp [Decimal.fixed]

namespace Value

/-- Of values that are no lists only the empty text shows nothing. -/
theorem display_eq_empty_iff {v : Value} (h : v.IsScalar) : v.display = "" ↔ v = .text "" := by
  cases v with
  | number x =>
    have hne : String.ofList (showNumber x) ≠ "" := by
      rw [Ne, ← String.toList_inj, String.toList_ofList]
      exact showNumber_ne_nil x
    simp [display, hne]
  | text s => simp [display]
  | list items => exact h.elim
  | mark m => cases m <;> simp [display, Mark.text]

/-- A list shows nothing only if it is empty or has one value that shows nothing. -/
theorem display_list_eq_empty_iff {xs : List Value} (h : ∀ x ∈ xs, x.IsScalar) :
    (Value.list xs).display = "" ↔ xs = [] ∨ xs = [.text ""] := by
  match xs with
  | [] => simp [display]
  | [x] =>
    have hx : x.IsScalar := h x List.mem_cons_self
    simp [display, display_eq_empty_iff hx]
  | x :: y :: xs => simp [display, String.append_eq_empty_iff]

end Value

namespace Formula.TextFunction

open Pattern (compile? replaceAll)

/-- A pattern that puts something in the place of the empty text. -/
def FillsEmpty (find replacement : String) : Prop :=
  find ≠ "" ∧ ∃ p, compile? find = some p ∧ replaceAll p "" replacement ≠ ""

/-- The function with its three arguments. -/
def replacing (find replacement : String) (v : Value) : Except EvalError Value :=
  findAndReplace.apply [v, .text find, .text replacement]

theorem replacing_eq (find replacement : String) (v : Value) :
    replacing find replacement v = replaced v find replacement := by
  simp [replacing, apply, shown, Value.display]

/-- What the pattern makes of a value alone. -/
def alone (p : Pattern.Program) (replacement : String) (v : Value) : Value :=
  if v.display = "" then v else replaceIn p replacement v

/-- Without a pattern nothing is replaced. -/
theorem replacing_nothing (replacement : String) (v : Value) :
    replacing "" replacement v = .ok v := by
  rw [replacing_eq, replaced, if_pos (.inl rfl)]

section

variable {find : String} {p : Pattern.Program} (hne : find ≠ "") (hp : compile? find = some p)
  (replacement : String)

include hne hp

theorem replacing_scalar {v : Value} (hv : v.IsScalar) :
    replacing find replacement v = .ok (alone p replacement v) := by
  rw [replacing_eq, replaced, alone]
  by_cases hempty : v.display = ""
  · rw [if_pos (.inr hempty), if_pos hempty]
  · rw [if_neg (not_or.mpr ⟨hne, hempty⟩), if_neg hempty, hp]
    cases v with
    | list items => exact hv.elim
    | _ => rfl

theorem mapM_replacing {xs : List Value} (hxs : ∀ x ∈ xs, x.IsScalar) :
    xs.mapM (replacing find replacement) = .ok (xs.map (alone p replacement)) := by
  rw [mapM_congr fun x hx => replacing_scalar hne hp replacement (hxs x hx)]
  exact List.mapM_pure

/-- A list that shows something has the matches in each of its values replaced. -/
theorem replacing_shown {xs : List Value} (hxs : (Value.list xs).display ≠ "") :
    replacing find replacement (.list xs) = .ok (.list (xs.map (replaceIn p replacement))) := by
  rw [replacing_eq, replaced, if_neg (not_or.mpr ⟨hne, hxs⟩), hp]

theorem fillsEmpty_iff : FillsEmpty find replacement ↔ replaceAll p "" replacement ≠ "" := by
  constructor
  · rintro ⟨-, q, hq, hfills⟩
    rw [hp] at hq
    obtain rfl := Option.some.inj hq
    exact hfills
  · exact fun hfills => ⟨hne, p, hp, hfills⟩

end

/-- A list that shows nothing is left as it is. -/
theorem replacing_unshown (find replacement : String) {v : Value} (hv : v.display = "") :
    replacing find replacement v = .ok v := by
  rw [replacing_eq, replaced, if_pos (.inr hv)]

/-- In a list the empty text may become another one, alone it stays empty. -/
theorem replaceIn_eq_alone_iff (p : Pattern.Program) (replacement : String) {v : Value}
    (hv : v.IsScalar) : replaceIn p replacement v = alone p replacement v ↔
      ¬ (v = .text "" ∧ replaceAll p "" replacement ≠ "") := by
  rw [alone]
  by_cases hempty : v.display = ""
  · obtain rfl := (Value.display_eq_empty_iff hv).mp hempty
    simp [replaceIn, Value.display]
  · have hne : v ≠ .text "" := fun heq => hempty ((Value.display_eq_empty_iff hv).mpr heq)
    simp [hempty, hne]

/-- A list that shows something is treated value by value unless an empty text is filled in it. -/
theorem map_replaceIn_eq_iff (p : Pattern.Program) (replacement : String) {xs : List Value}
    (hxs : ∀ x ∈ xs, x.IsScalar) (hshown : (Value.list xs).display ≠ "") :
    xs.map (replaceIn p replacement) = xs.map (alone p replacement) ↔
      ¬ (2 ≤ xs.length ∧ Value.text "" ∈ xs ∧ replaceAll p "" replacement ≠ "") := by
  rw [List.map_inj_left]
  constructor
  · rintro hall ⟨-, hmem, hfills⟩
    exact (replaceIn_eq_alone_iff p replacement (hxs _ hmem)).mp (hall _ hmem) ⟨rfl, hfills⟩
  · intro hnot x hx
    rw [replaceIn_eq_alone_iff p replacement (hxs x hx)]
    rintro ⟨rfl, hfills⟩
    refine hnot ⟨?_, hx, hfills⟩
    match xs, hx, hshown with
    | [_], hx, hshown =>
      obtain rfl := List.mem_singleton.mp hx
      exact absurd (by simp [Value.display]) hshown
    | _ :: _ :: _, _, _ => simp

theorem empty_of_map_replaceIn_ne {p : Pattern.Program} {replacement : String} {xs : List Value}
    (hxs : ∀ x ∈ xs, x.IsScalar) {i : Nat}
    (h : (xs.map (replaceIn p replacement))[i]? ≠ (xs.map (alone p replacement))[i]?) :
    xs[i]? = some (.text "") := by
  simp only [List.getElem?_map] at h
  cases hx : xs[i]? with
  | none => simp [hx] at h
  | some x =>
    have hne : replaceIn p replacement x ≠ alone p replacement x := by simpa [hx] using h
    rw [Ne, replaceIn_eq_alone_iff p replacement (hxs x (List.mem_of_getElem? hx)), not_not] at hne
    rw [hne.1]

/-- A list that shows nothing has one value at most, which is left as it is also alone. -/
theorem map_alone_of_unshown (p : Pattern.Program) (replacement : String) {xs : List Value}
    (hxs : ∀ x ∈ xs, x.IsScalar) (h : (Value.list xs).display = "") :
    xs.map (alone p replacement) = xs ∧ ¬ 2 ≤ xs.length := by
  rcases (Value.display_list_eq_empty_iff hxs).mp h with rfl | rfl
  · simp
  · simp [alone, Value.display]

/--
Both ways to replace in the values of a list, at once and one by one, give a list. They give
the same one unless there are two values, one of them the empty text, and the pattern puts
something in its place; and they differ only where the empty text stood.
-/
theorem replacing_list {xs : List Value} {find replacement : String}
    (hxs : ∀ x ∈ xs, x.IsScalar) (hfind : find = "" ∨ ∃ p, compile? find = some p) :
    ∃ ys zs : List Value, replacing find replacement (.list xs) = .ok (.list ys) ∧
      xs.mapM (replacing find replacement) = .ok zs ∧
      (ys = zs ↔ ¬ (2 ≤ xs.length ∧ Value.text "" ∈ xs ∧ FillsEmpty find replacement)) ∧
      ∀ i : Nat, ys[i]? ≠ zs[i]? → xs[i]? = some (.text "") := by
  by_cases hne : find = ""
  · subst hne
    have hmap : xs.mapM (replacing "" replacement) = .ok xs := by
      rw [mapM_congr fun x _ => replacing_nothing replacement x]
      exact List.mapM_pure.trans (congrArg Except.ok (List.map_id' xs))
    exact ⟨xs, xs, replacing_nothing replacement _, hmap,
      iff_of_true rfl fun h => h.2.2.1 rfl, fun _ h => absurd rfl h⟩
  obtain ⟨p, hp⟩ := hfind.resolve_left hne
  have hmap := mapM_replacing hne hp replacement hxs
  by_cases hshown : (Value.list xs).display = ""
  · obtain ⟨hxs', hlength⟩ := map_alone_of_unshown p replacement hxs hshown
    rw [hxs'] at hmap
    exact ⟨xs, xs, replacing_unshown find replacement hshown, hmap,
      iff_of_true rfl fun h => hlength h.1, fun _ h => absurd rfl h⟩
  · refine ⟨_, _, replacing_shown hne hp replacement hshown, hmap, ?_, fun i hdiffer => ?_⟩
    · rw [map_replaceIn_eq_iff p replacement hxs hshown, fillsEmpty_iff hne hp]
    · exact empty_of_map_replaceIn_ne hxs hdiffer

/-- A list without an empty text, in which the letters are doubled. -/
theorem replacing_list_doubled :
    (∀ x ∈ [Value.text "ab", .mark .error], x.IsScalar) ∧
      (∃ p, compile? "([a-z])" = some p) ∧
      ∃ ys, replacing "([a-z])" "$1$1" (.list [.text "ab", .mark .error]) = .ok (.list ys) ∧
        [Value.text "ab", .mark .error].mapM (replacing "([a-z])" "$1$1") = .ok ys := by
  have hscalar : ∀ x ∈ [Value.text "ab", .mark .error], x.IsScalar := by
    simp [Value.IsScalar]
  have hpattern : ∃ p, compile? "([a-z])" = some p :=
    Option.isSome_iff_exists.mp (by decide +kernel)
  obtain ⟨ys, zs, hys, hzs, heq, -⟩ :=
    @replacing_list _ "([a-z])" "$1$1" hscalar (.inr hpattern)
  obtain rfl := heq.mpr fun h => by simp at h
  exact ⟨hscalar, hpattern, ys, hys, hzs⟩

/-- Two empty texts become dashes in a list, but each alone stays empty. -/
theorem replacing_empty_texts :
    (∃ p, compile? "x*" = some p) ∧
      replacing "x*" "-" (.list [.text "", .text ""]) = .ok (.list [.text "-", .text "-"]) ∧
      [Value.text "", .text ""].mapM (replacing "x*" "-") = .ok [.text "", .text ""] ∧
      [Value.text "-", .text "-"] ≠ [.text "", .text ""] := by
  have hdash : (compile? "x*").map (fun p => replaceAll p "" "-") = some "-" := by
    decide +kernel
  obtain ⟨p, hp, hreplaced⟩ := Option.map_eq_some_iff.mp hdash
  have hshown : (Value.list [.text "", .text ""]).display ≠ "" := by decide
  have hlist := replacing_shown (by decide) hp "-" hshown
  refine ⟨⟨p, hp⟩, ?_, rfl, by simp⟩
  simpa [replaceIn, Value.display, hreplaced] using hlist

end Formula.TextFunction

end Gridbook
