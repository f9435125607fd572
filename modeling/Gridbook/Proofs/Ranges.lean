import Gridbook.Proofs.Calls
import Gridbook.Proofs.Renaming

/-!
# Ranges as texts

A range is a name, or two names around a colon, with blanks around each name.
Replacing references in an aggregate call gives a call of the same function, with
other ends of its range.
-/
namespace Gridbook.Formula

open Text (IsBlank Stops)

/-- The text of a range and its two ends, which a single name are both. -/
inductive RangeText : List Char → Coord → Coord → Prop
  | single {name p} (hname : Coord.ofChars? (Text.trim name) = some p) : RangeText name p p
  | pair {first last p q} (hfirst : Coord.ofChars? (Text.trim first) = some p)
      (hlast : Coord.ofChars? (Text.trim last) = some q) : RangeText (first ++ ':' :: last) p q

theorem ne_colon_of_name {s : List Char} {p : Coord} (h : Coord.ofChars? (Text.trim s) = some p) :
    ∀ c ∈ s, decide (c ≠ ':') = true := by
  obtain ⟨a, b, ha, hb, hs, -, -⟩ := Text.exists_frame s
  have hblank {c : Char} (hc : Text.isBlank c = true) : decide (c ≠ ':') = true := by
    rw [decide_eq_true_iff]
    rintro rfl
    exact absurd hc (by decide)
  intro c hc
  rw [hs] at hc
  rcases List.mem_append.mp hc with hc | hc
  · exact hblank (ha c hc)
  · rcases List.mem_append.mp hc with hc | hc
    · rw [decide_eq_true_iff]
      rintro rfl
      exact absurd ((Coord.isWord_of_ofChars? h).2 ':' hc) (by decide)
    · exact hblank (hb c hc)

/-- The blanks around a range do not change its ends. -/
theorem RangeText.endsOf {s : List Char} {p q : Coord} (h : RangeText s p q) :
    Coord.ofChars? (Area.endsOf s).1 = some p ∧ Coord.ofChars? (Area.endsOf s).2 = some q := by
  cases h with
  | single hname =>
    have hspan : s.span (fun c => decide (c ≠ ':')) = (s, []) := by
      have h := ne_colon_of_name hname
      rw [List.span_eq_takeWhile_dropWhile, List.takeWhile_eq_self_iff.mpr h,
        List.dropWhile_eq_nil_iff.mpr h]
    simp only [Area.endsOf, hspan, hname, and_self]
  | @pair first last _ _ hfirst hlast =>
    have hspan : (first ++ ':' :: last).span (fun c => decide (c ≠ ':')) = (first, ':' :: last) := by
      have h := ne_colon_of_name hfirst
      have hstop : Stops (fun c => decide (c ≠ ':')) (':' :: last) := by simp
      rw [List.span_eq_takeWhile_dropWhile, Text.takeWhile_run h hstop, Text.dropWhile_run h hstop]
    simp only [Area.endsOf, hspan, hfirst, hlast, and_self]

theorem exists_rangeText {s : List Char} {p q : Coord}
    (hp : Coord.ofChars? (Area.endsOf s).1 = some p)
    (hq : Coord.ofChars? (Area.endsOf s).2 = some q) : RangeText s p q := by
  obtain ⟨first, t, rfl, hfirst, ht⟩ := Text.exists_run (fun c => decide (c ≠ ':')) s
  have hspan : (first ++ t).span (fun c => decide (c ≠ ':')) = (first, t) := by
    rw [List.span_eq_takeWhile_dropWhile, Text.takeWhile_run hfirst ht,
      Text.dropWhile_run hfirst ht]
  simp only [Area.endsOf, hspan] at hp hq
  cases t with
  | nil =>
    obtain rfl := Option.some.inj (hp.symm.trans hq)
    rw [List.append_nil]
    exact .single hp
  | cons c last =>
    obtain rfl : c = ':' := by simpa using ht
    exact .pair hp hq

theorem RangeText.framed {a s b : List Char} {p q : Coord} (ha : IsBlank a) (hb : IsBlank b)
    (h : RangeText s p q) : RangeText (a ++ (s ++ b)) p q := by
  cases h with
  | single hname =>
    refine .single ?_
    rwa [Text.trim_blank_append ha, Text.trim_append_blank hb]
  | @pair first last _ _ hfirst hlast =>
    have h : RangeText ((a ++ first) ++ ':' :: (last ++ b)) p q := by
      refine .pair ?_ ?_
      · rwa [Text.trim_blank_append ha]
      · rwa [Text.trim_append_blank hb]
    simpa only [List.append_assoc, List.cons_append] using h

theorem stops_append {p : Char → Bool} {s : List Char} (hne : s ≠ []) (h : Stops p s)
    (t : List Char) : Stops p (s ++ t) := by
  cases s with
  | nil => exact absurd rfl hne
  | cons c s => exact h

/-- The blanks around a range do not matter. -/
theorem rangeText_trim_iff {s : List Char} {p q : Coord} :
    RangeText (Text.trim s) p q ↔ RangeText s p q := by
  constructor
  · intro h
    obtain ⟨a, b, ha, hb, hs, -, -⟩ := Text.exists_frame s
    rw [hs]
    exact h.framed ha hb
  · intro h
    cases h with
    | single hname => exact .single (by rwa [Text.trim_trim])
    | @pair first last _ _ hfirst hlast =>
      obtain ⟨a, b, ha, hb, htext, hstart, -⟩ := Text.exists_frame first
      obtain ⟨c, d, hc, hd, htext', -, hstop⟩ := Text.exists_frame last
      have hne := (Coord.isWord_of_ofChars? hfirst).1
      have hne' := (Coord.isWord_of_ofChars? hlast).1
      have hrange : RangeText ((Text.trim first ++ b) ++ ':' :: (c ++ Text.trim last)) p q := by
        refine .pair ?_ ?_
        · rwa [Text.trim_append_blank hb, Text.trim_trim]
        · rwa [Text.trim_blank_append hc, Text.trim_trim]
      have htrim : Text.trim (first ++ ':' :: last) =
          (Text.trim first ++ b) ++ ':' :: (c ++ Text.trim last) := by
        have hframed : first ++ ':' :: last =
            a ++ (((Text.trim first ++ b) ++ ':' :: (c ++ Text.trim last)) ++ d) := by
          conv_lhs => rw [htext, htext']
          simp only [List.append_assoc, List.cons_append]
        rw [hframed]
        refine Text.trim_framed ha hd ?_ ?_
        · rw [List.append_assoc]
          exact stops_append hne hstart _
        · simp only [List.reverse_append, List.reverse_cons, List.append_assoc]
          exact stops_append (by simpa using hne') hstop _
      rwa [htrim]

/-- A range lies in the grid if both its ends do, and is the area between them. -/
theorem areaOf_eq_ok_iff {sheet : Sheet} {range : List Char} {area : Area} :
    areaOf sheet range = .ok area ↔ ∃ p q, RangeText range p q ∧ sheet.contains p = true ∧
      sheet.contains q = true ∧ area = Area.spanning p q := by
  constructor
  · intro h
    cases hp : Coord.ofChars? (Area.endsOf range).1 with
    | none => simp [areaOf, hp] at h
    | some p =>
      cases hq : Coord.ofChars? (Area.endsOf range).2 with
      | none => simp [areaOf, hp, hq] at h
      | some q =>
        simp only [areaOf, hp, hq] at h
        split at h
        · simp at h
        · rename_i hcontains
          split at h
          · simp at h
          · rename_i hcontains'
            exact ⟨p, q, exists_rangeText hp hq, by simpa using hcontains,
              by simpa using hcontains', (Except.ok.inj h).symm⟩
  · rintro ⟨p, q, hrange, hp, hq, rfl⟩
    obtain ⟨hfirst, hlast⟩ := hrange.endsOf
    simp only [areaOf, hfirst, hlast, hp, hq, Bool.not_true, Bool.false_eq_true, ↓reduceIte]

theorem toUpper_of_isDigit {c : Char} (h : c.isDigit = true) : c.toUpper = c := by
  have hdigit := Text.isDigit_iff_toNat.mp h
  unfold Char.toUpper
  split
  · rename_i hlower
    have hlow : 'a'.toNat ≤ c.toNat := hlower.1
    have : 'a'.toNat = 97 := rfl
    omega
  · rfl

/-- The names of the aggregate functions begin with two letters, so they name no cell. -/
theorem ofChars?_of_ofName? {word : List Char} {f : Aggregate}
    (h : Aggregate.ofName? (String.ofList (word.map Char.toUpper)) = some f) :
    Coord.ofChars? word = none := by
  cases hword : Coord.ofChars? word with
  | none => rfl
  | some c =>
    obtain ⟨l, ds, rfl, -, hne, hds, -⟩ := Coord.shape_of_ofChars? hword
    obtain ⟨d, ds, rfl⟩ := List.exists_cons_of_ne_nil hne
    have hd := hds d (by simp)
    simp only [List.map_cons, toUpper_of_isDigit hd] at h
    unfold Aggregate.ofName? at h
    split at h <;> rename_i hname
    case h_6 => simp at h
    all_goals
      have hsecond := congrArg String.toList hname
      rw [String.toList_ofList] at hsecond
      obtain rfl := (List.cons.inj (List.cons.inj hsecond).2).1
      exact absurd hd (by decide)

theorem isMark_blank {b : List Char} (hb : IsBlank b) : ∀ c ∈ b, isMark c = true :=
  fun c hc => isMark_of_isBlank (hb c hc)

/-- A name is a word among blanks. -/
theorem exists_pieces_name {name t : List Char} {p : Coord}
    (hname : Coord.ofChars? (Text.trim name) = some p) (ht : Stops Text.isWord t) :
    ∃ a b, IsBlank a ∧ IsBlank b ∧ pieces none (name ++ t) =
      a.map .mark ++ .word (Text.trim name) :: (b.map .mark ++ pieces none t) := by
  obtain ⟨a, b, ha, hb, htext, -, -⟩ := Text.exists_frame name
  obtain ⟨hne, hword⟩ := Coord.isWord_of_ofChars? hname
  have hstop : Stops Text.isWord (b ++ t) := (stops_of_isBlank hb).append ht
  refine ⟨a, b, ha, hb, ?_⟩
  conv_lhs => rw [htext]
  rw [List.append_assoc, List.append_assoc, pieces_marks (isMark_blank ha),
    pieces_word hne hword hstop, pieces_marks (isMark_blank hb)]

section

variable {f : Coord → Coord} {replace : Coord → Option (List Char)}

/-- Replacing the reference in a name gives the name of the other cell. -/
theorem exists_rewrite_name {name t : List Char} {p : Coord}
    (hname : Coord.ofChars? (Text.trim name) = some p) (hp : Renames f replace p)
    (ht : Stops Text.isWord t) :
    ∃ name', Coord.ofChars? (Text.trim name') = some (f p) ∧
      rewrite replace (name ++ t) = name' ++ rewrite replace t := by
  obtain ⟨a, b, ha, hb, hpieces⟩ := exists_pieces_name hname ht
  have hname' := hp.ofChars? hname
  refine ⟨a ++ ((replace p).getD (Text.trim name) ++ b), ?_, ?_⟩
  · rwa [Text.trim_blank_append ha, Text.trim_append_blank hb, Text.trim_of_isWord]
    exact (Coord.isWord_of_ofChars? hname').2
  · rw [rewrite, hpieces, List.flatMap_append, List.flatMap_cons, List.flatMap_append,
      flatMap_substitute_marks, flatMap_substitute_marks, substitute_word hname, rewrite]
    simp only [List.append_assoc]

theorem RangeText.exists_rewrite {range t : List Char} {p q : Coord} (h : RangeText range p q)
    (hp : Renames f replace p) (hq : Renames f replace q) (ht : Stops Text.isWord t) :
    ∃ range', RangeText range' (f p) (f q) ∧
      rewrite replace (range ++ t) = range' ++ rewrite replace t := by
  cases h with
  | single hname =>
    obtain ⟨name', hname', hrewrite⟩ := exists_rewrite_name hname hp ht
    exact ⟨name', .single hname', hrewrite⟩
  | @pair first last _ _ hfirst hlast =>
    have hcolon : isMark ':' = true := by decide
    have hstop : Stops Text.isWord (':' :: (last ++ t)) := (by decide : Text.isWord ':' = false)
    obtain ⟨first', hfirst', hrewrite⟩ := exists_rewrite_name hfirst hp hstop
    obtain ⟨last', hlast', hrewrite'⟩ := exists_rewrite_name hlast hq ht
    refine ⟨first' ++ ':' :: last', .pair hfirst' hlast', ?_⟩
    rw [List.append_assoc, List.cons_append, hrewrite, rewrite_mark hcolon, hrewrite',
      List.append_assoc, List.cons_append]

/-- An aggregate call with its references replaced is the call with the other ends. -/
theorem call?_substitute {text : List Char} {call : Call} {g : Aggregate} {p q : Coord}
    (hcall : call? text = some call) (hg : Aggregate.ofName? call.name = some g)
    (hrange : RangeText call.arguments p q) (hp : Renames f replace p)
    (hq : Renames f replace q) :
    ∃ text' call', substitute replace ('=' :: text) = '=' :: text' ∧ call? text' = some call' ∧
      call'.name = call.name ∧ RangeText call'.arguments (f p) (f q) := by
  obtain ⟨a, word, b, c, ha, hword, hb, hc, hname, rfl⟩ := exists_callText hcall
  have hopen : isMark '(' = true := by decide
  have hclose : isMark ')' = true := by decide
  have hne : word ≠ [] := by
    obtain ⟨x, t, rfl, -⟩ := hword.exists_cons
    simp
  have hchars : ∀ x ∈ word, Text.isWord x = true :=
    fun x hx => isWord_of_isNameChar (hword.chars x hx)
  have hplain : (Piece.word word).substitute replace = word := by
    rw [hname] at hg
    have hnone : (Piece.word word).reference? = none := ofChars?_of_ofName? hg
    exact substitute_of_reference? hnone replace
  have hstop : Stops Text.isWord (')' :: c) := (by decide : Text.isWord ')' = false)
  obtain ⟨range', hrange', hrewrite⟩ := hrange.exists_rewrite hp hq hstop
  have hend : rewrite replace c = c := by
    have h := rewrite_marks (isMark_blank hc) replace []
    rw [List.append_nil] at h
    rw [h]
    exact List.append_nil c
  refine ⟨callText a word b range' c, ⟨call.name, range'⟩, ?_, ?_, rfl, hrange'⟩
  · rw [substitute_formula, callText, rewrite_marks (isMark_blank ha),
      rewrite_word hne hchars (stops_word_parenthesis hb), hplain, rewrite_marks (isMark_blank hb),
      rewrite_mark hopen, hrewrite, rewrite_mark hclose, hend, callText]
  · rw [call?_callText ha hword hb hc, hname]

end

end Gridbook.Formula
