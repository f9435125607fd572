import Gridbook.Formula.TextFunction
import Mathlib.Data.List.Nodup
import Mathlib.Data.List.Pairwise

/-!
# First occurrences

Of values that show the same the first one is kept. Values are told apart by a key that
joins the displays of a row with bars. Two values that show the same have the same key;
where it is the other way round as well, what is kept stands for every value of the list.
A key forgets whether a bar stood in a display or between two of them.
-/
namespace Gridbook

namespace Value

/-- No list. -/
def IsScalar : Value → Prop
  | .list _ => False
  | _ => True

/-- What is seen of a value: of a row the displays of its elements, of another value its own. -/
def face : Value → String ⊕ List String
  | .list items => .inr (items.map display)
  | v => .inl v.display

theorem face_of_isScalar {v : Value} (h : v.IsScalar) : v.face = .inl v.display := by
  cases v with
  | list items => exact h.elim
  | _ => rfl

/-- A row with elements, none of which shows a bar. -/
def IsPlainRow : Value → Prop
  | .list items => items ≠ [] ∧ ∀ v ∈ items, '|' ∉ v.display.toList
  | _ => False

/-- Values of a list from which no two are the same, the first ones of their kind. -/
structure Represents (same : Value → Value → Prop) (kept items : List Value) : Prop where
  sublist : kept.Sublist items
  distinct : kept.Pairwise fun v w => ¬ same v w
  first : ∀ v ∈ kept, ∃ before after, items = before ++ v :: after ∧ ∀ w ∈ before, ¬ same w v
  complete : ∀ v ∈ items, ∃ w ∈ kept, same w v

end Value

namespace Formula.TextFunction

open Value (IsScalar IsPlainRow Represents)

/-- Values that show the same, a row element by element. -/
def Alike (v w : Value) : Prop := v.face = w.face

instance (v w : Value) : Decidable (Alike v w) :=
  inferInstanceAs (Decidable (v.face = w.face))

/-- Values that are taken for the same. -/
def SameKey (v w : Value) : Prop := rowKey v = rowKey w

/-- The key of what is seen. -/
def keyOf : String ⊕ List String → String
  | .inl s => s
  | .inr texts => "|".intercalate texts

theorem rowKey_eq_keyOf (v : Value) : rowKey v = keyOf v.face := by
  cases v with
  | list items => rfl
  | _ => rfl

theorem sameKey_of_alike {v w : Value} (h : Alike v w) : SameKey v w := by
  rw [SameKey, rowKey_eq_keyOf, rowKey_eq_keyOf, show v.face = w.face from h]

theorem firstOccurrences_sublist (seen : List String) (items : List Value) :
    (firstOccurrences seen items).Sublist items := by
  induction items generalizing seen with
  | nil => exact List.Sublist.refl _
  | cons v items ih =>
    rw [firstOccurrences]
    split
    · exact (ih seen).cons v
    · exact (ih (rowKey v :: seen)).cons_cons v

/-- A value that is kept is the first one with its key, and its key was not seen before. -/
theorem first_of_mem_firstOccurrences {seen : List String} {items : List Value} {v : Value}
    (hv : v ∈ firstOccurrences seen items) :
    rowKey v ∉ seen ∧
      ∃ before after, items = before ++ v :: after ∧ ∀ w ∈ before, ¬ SameKey w v := by
  induction items generalizing seen with
  | nil => cases hv
  | cons u items ih =>
    rw [firstOccurrences] at hv
    split at hv
    · rename_i hseen
      obtain ⟨hnew, before, after, rfl, hbefore⟩ := ih hv
      refine ⟨hnew, u :: before, after, rfl, ?_⟩
      intro w hw
      rcases List.mem_cons.mp hw with rfl | hw
      · intro hsame
        exact hnew (hsame ▸ List.contains_iff_mem.mp hseen)
      · exact hbefore w hw
    · rename_i hseen
      rcases List.mem_cons.mp hv with rfl | hv
      · refine ⟨fun h => hseen (List.contains_iff_mem.mpr h), [], items, rfl, ?_⟩
        intro w hw
        cases hw
      · obtain ⟨hnew, before, after, rfl, hbefore⟩ := ih hv
        rw [List.mem_cons, not_or] at hnew
        refine ⟨hnew.2, u :: before, after, rfl, ?_⟩
        intro w hw
        rcases List.mem_cons.mp hw with rfl | hw
        · exact fun hsame => hnew.1 hsame.symm
        · exact hbefore w hw

theorem pairwise_firstOccurrences (seen : List String) (items : List Value) :
    (firstOccurrences seen items).Pairwise fun v w => ¬ SameKey v w := by
  induction items generalizing seen with
  | nil => exact List.Pairwise.nil
  | cons v items ih =>
    rw [firstOccurrences]
    split
    · exact ih seen
    · refine List.Pairwise.cons (fun w hw hsame => ?_) (ih (rowKey v :: seen))
      exact (first_of_mem_firstOccurrences hw).1 (hsame ▸ List.mem_cons_self)

/-- Every value has a key that was seen before, or that of a value that is kept. -/
theorem exists_firstOccurrence (seen : List String) {items : List Value} {v : Value}
    (hv : v ∈ items) :
    rowKey v ∈ seen ∨ ∃ w ∈ firstOccurrences seen items, SameKey w v := by
  induction items generalizing seen with
  | nil => cases hv
  | cons u items ih =>
    rw [firstOccurrences]
    split
    · rename_i hseen
      rcases List.mem_cons.mp hv with rfl | hv
      · exact .inl (List.contains_iff_mem.mp hseen)
      · exact ih seen hv
    · rcases List.mem_cons.mp hv with rfl | hv
      · exact .inr ⟨v, List.mem_cons_self, rfl⟩
      · rcases ih (rowKey u :: seen) hv with hmem | ⟨w, hw, hsame⟩
        · rcases List.mem_cons.mp hmem with heq | hmem
          · exact .inr ⟨u, List.mem_cons_self, heq.symm⟩
          · exact .inl hmem
        · exact .inr ⟨w, List.mem_cons_of_mem u hw, hsame⟩

/-- Values with keys of their own are all kept. -/
theorem firstOccurrences_of_pairwise {seen : List String} {items : List Value}
    (hnew : ∀ v ∈ items, rowKey v ∉ seen) (h : items.Pairwise fun v w => ¬ SameKey v w) :
    firstOccurrences seen items = items := by
  induction items generalizing seen with
  | nil => rfl
  | cons v items ih =>
    obtain ⟨hv, h⟩ := List.pairwise_cons.mp h
    have hunseen : ¬ seen.contains (rowKey v) = true := by
      rw [List.contains_iff_mem]
      exact hnew v List.mem_cons_self
    have hrest : ∀ w ∈ items, rowKey w ∉ rowKey v :: seen := by
      intro w hw hmem
      rcases List.mem_cons.mp hmem with heq | hmem
      · exact hv w hw heq.symm
      · exact hnew w (List.mem_cons_of_mem v hw) hmem
    rw [firstOccurrences, if_neg hunseen, ih hrest h]

theorem represents_firstOccurrences (items : List Value) :
    Represents SameKey (firstOccurrences [] items) items where
  sublist := firstOccurrences_sublist [] items
  distinct := pairwise_firstOccurrences [] items
  first _ hv := (first_of_mem_firstOccurrences hv).2
  complete _ hv := (exists_firstOccurrence [] hv).resolve_left List.not_mem_nil

/-- Values of the list with one key show the same. -/
def KeysTell (items : List Value) : Prop :=
  ∀ v ∈ items, ∀ w ∈ items, SameKey v w → Alike v w

/-- Values that are kept and have one key are one value. -/
theorem eq_of_sameKey {kept : List Value} (h : kept.Pairwise fun v w => ¬ SameKey v w)
    {v w : Value} (hv : v ∈ kept) (hw : w ∈ kept) (hsame : SameKey v w) : v = w :=
  have hnodup : (kept.map rowKey).Nodup := List.pairwise_map.mpr h
  List.inj_on_of_nodup_map hnodup hv hw hsame

/--
What stands for a list by keys stands for it by what is seen exactly if keys tell its values
apart. Only that every value has one like it may fail.
-/
theorem represents_alike_iff {kept items : List Value} (h : Represents SameKey kept items) :
    Represents Alike kept items ↔ KeysTell items := by
  constructor
  · intro halike v hv w hw hsame
    obtain ⟨v', hv', hvv⟩ := halike.complete v hv
    obtain ⟨w', hw', hww⟩ := halike.complete w hw
    have hkeys : SameKey v' w' :=
      (sameKey_of_alike hvv).trans (hsame.trans (sameKey_of_alike hww).symm)
    have heq : v' = w' := eq_of_sameKey h.distinct hv' hw' hkeys
    exact hvv.symm.trans (heq ▸ hww)
  · intro htell
    refine ⟨h.sublist, h.distinct.imp fun hkey halike => hkey (sameKey_of_alike halike), ?_, ?_⟩
    · intro v hv
      obtain ⟨before, after, hitems, hbefore⟩ := h.first v hv
      exact ⟨before, after, hitems, fun w hw halike => hbefore w hw (sameKey_of_alike halike)⟩
    · intro v hv
      obtain ⟨w, hw, hsame⟩ := h.complete v hv
      exact ⟨w, hw, htell w (h.sublist.subset hw) v hv hsame⟩

theorem keysTell_of_isScalar {items : List Value} (h : ∀ v ∈ items, v.IsScalar) :
    KeysTell items := by
  intro v hv w hw hsame
  rw [SameKey, rowKey_eq_keyOf, rowKey_eq_keyOf, Value.face_of_isScalar (h v hv),
    Value.face_of_isScalar (h w hw)] at hsame
  rw [Alike, Value.face_of_isScalar (h v hv), Value.face_of_isScalar (h w hw)]
  exact congrArg Sum.inl hsame

/-- Texts without bars that are joined by bars can be told apart. -/
theorem intercalate_bar_injective {a b : List String} (ha : a ≠ []) (hb : b ≠ [])
    (hbara : ∀ s ∈ a, '|' ∉ s.toList) (hbarb : ∀ s ∈ b, '|' ∉ s.toList)
    (h : "|".intercalate a = "|".intercalate b) : a = b := by
  have hsplit (l : List String) (hl : l ≠ []) (hbar : ∀ s ∈ l, '|' ∉ s.toList) :
      ("|".intercalate l).toList.splitOn '|' = l.map String.toList := by
    rw [String.toList_intercalate]
    exact List.splitOn_intercalate '|' (by simpa using hbar) (by simpa using hl)
  have hlists : a.map String.toList = b.map String.toList := by
    rw [← hsplit a ha hbara, ← hsplit b hb hbarb, h]
  exact List.map_injective_iff.mpr (fun s t => String.toList_inj.mp) hlists

theorem keysTell_of_isPlainRow {items : List Value} (h : ∀ v ∈ items, v.IsPlainRow) :
    KeysTell items := by
  have hrow (v : Value) (hv : v ∈ items) : ∃ texts : List String, v.face = .inr texts ∧
      texts ≠ [] ∧ ∀ s ∈ texts, '|' ∉ s.toList := by
    cases v with
    | list cells =>
      obtain ⟨hne, hbar⟩ := h _ hv
      exact ⟨cells.map Value.display, rfl, by simpa using hne, by simpa using hbar⟩
    | _ => exact (h _ hv).elim
  intro v hv w hw hsame
  obtain ⟨a, hfacea, ha, hbara⟩ := hrow v hv
  obtain ⟨b, hfaceb, hb, hbarb⟩ := hrow w hw
  rw [SameKey, rowKey_eq_keyOf, rowKey_eq_keyOf, hfacea, hfaceb] at hsame
  rw [Alike, hfacea, hfaceb, intercalate_bar_injective ha hb hbara hbarb hsame]

/--
Of a list the first values of their keys are kept, and nothing more is dropped from them.
They stand for all that the list shows exactly if its keys tell apart what it shows. Keys do
so for values that are no rows, and for rows without bars in them.
-/
theorem withoutDuplicates_list (items more : List Value) :
    ∃ kept, removeDuplicates.apply (.list items :: more) = .ok (.list kept) ∧
      removeDuplicates.apply (.list kept :: more) = .ok (.list kept) ∧
      Represents SameKey kept items ∧
      (Represents Alike kept items ↔ KeysTell items) ∧
      ((∀ v ∈ items, v.IsScalar) ∨ (∀ v ∈ items, v.IsPlainRow) → KeysTell items) := by
  have hkept := represents_firstOccurrences items
  have hagain : firstOccurrences [] (firstOccurrences [] items) = firstOccurrences [] items :=
    firstOccurrences_of_pairwise (fun _ _ => List.not_mem_nil) hkept.distinct
  refine ⟨firstOccurrences [] items, rfl, ?_, hkept, represents_alike_iff hkept, ?_⟩
  · rw [apply, withoutDuplicates, hagain]
  · rintro (hscalar | hrow)
    · exact keysTell_of_isScalar hscalar
    · exact keysTell_of_isPlainRow hrow

/-- Two rows of two texts that are different in both, of which only one is kept. -/
theorem withoutDuplicates_bars :
    let rows : List Value :=
      [.list [.text "a|b", .text "c"], .list [.text "a", .text "b|c"]]
    removeDuplicates.apply [.list rows] = .ok (.list (rows.take 1)) ∧
      ¬ Represents Alike (rows.take 1) rows := by
  refine ⟨rfl, fun h => ?_⟩
  obtain ⟨w, hw, halike⟩ := h.complete _ (List.mem_cons_of_mem _ List.mem_cons_self)
  obtain rfl := List.mem_singleton.mp hw
  exact absurd halike (by decide)

end Formula.TextFunction

end Gridbook
