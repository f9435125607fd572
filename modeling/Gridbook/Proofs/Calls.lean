import Gridbook.Formula.Evaluate
import Gridbook.Proofs.Mention

/-!
# Calls as texts

A call is a name, blanks and a pair of parentheses among blanks. No such text is read
as arithmetic: behind a name that begins a formula no parenthesis opens.
-/
namespace Gridbook.Formula

open Text (IsBlank Stops)

/-- A function's name as it is written. -/
structure IsFunctionName (word : List Char) : Prop where
  start : (word.head?.map isNameStart).getD false = true
  chars : ∀ c ∈ word, isNameChar c = true

theorem isWord_of_isNameChar {c : Char} (h : isNameChar c = true) : Text.isWord c = true := by
  simp only [isNameChar, Char.isAlphanum, Text.isAlpha_eq, Bool.or_eq_true, beq_iff_eq] at h
  rcases h with ((h | h) | h) | rfl
  · exact Text.isWord_of_isUpper h
  · have hc := Text.isLower_iff_toNat.mp h
    have : c.toNat < 0x80 := by omega
    simp [Text.isWord, this, Text.isWordAscii, Char.isAlphanum, Text.isAlpha_eq, h]
  · exact Text.isWord_of_isDigit h
  · decide

theorem isNameChar_of_isNameStart {c : Char} (h : isNameStart c = true) : isNameChar c = true := by
  simp only [isNameStart, Bool.or_eq_true] at h
  simp only [isNameChar, Char.isAlphanum, Bool.or_eq_true]
  exact h.imp_left .inl

theorem isNameStart_of_isDigit {c : Char} (h : c.isDigit = true) : isNameStart c = false := by
  have hdigit := Text.isDigit_iff_toNat.mp h
  rw [Bool.eq_false_iff]
  intro hc
  simp only [isNameStart, Text.isAlpha_eq, Bool.or_eq_true, beq_iff_eq] at hc
  rcases hc with (hc | hc) | rfl
  · have := Text.isUpper_iff_toNat.mp hc
    omega
  · have := Text.isLower_iff_toNat.mp hc
    omega
  · exact absurd h (by decide)

theorem stops_nameChar_of_word {s : List Char} (h : Stops Text.isWord s) : Stops isNameChar s := by
  cases s with
  | nil => trivial
  | cons c s =>
    rw [Text.stops_cons, Bool.eq_false_iff]
    intro hc
    rw [Text.stops_cons, isWord_of_isNameChar hc] at h
    simp at h

theorem IsFunctionName.exists_cons {word : List Char} (h : IsFunctionName word) :
    ∃ c t, word = c :: t ∧ isNameStart c = true := by
  cases word with
  | nil => exact absurd h.start (by simp)
  | cons c t => exact ⟨c, t, rfl, h.start⟩

theorem isBlank_of_isNameChar {c : Char} (h : isNameChar c = true) : Text.isBlank c = false := by
  rw [Bool.eq_false_iff]
  intro hblank
  have hword := isWord_of_isNameChar h
  rw [Text.isWord_of_isBlank hblank] at hword
  simp at hword

theorem IsFunctionName.stops {word : List Char} (h : IsFunctionName word) (s : List Char) :
    Stops Text.isBlank (word ++ s) := by
  obtain ⟨c, t, rfl, -⟩ := h.exists_cons
  exact isBlank_of_isNameChar (h.chars c (by simp))

/-- The text of a call: the name and the parentheses with the arguments, among blanks. -/
def callText (a word g arguments b : List Char) : List Char :=
  a ++ (word ++ (g ++ '(' :: (arguments ++ ')' :: b)))

theorem stops_word_parenthesis {g s : List Char} (hg : IsBlank g) :
    Stops Text.isWord (g ++ '(' :: s) :=
  (stops_of_isBlank hg).append (by decide : Text.isWord '(' = false)

theorem trimStart_parenthesis {g : List Char} (hg : IsBlank g) (s : List Char) :
    Text.trimStart (g ++ '(' :: s) = '(' :: s :=
  Text.dropWhile_run hg (by decide : Text.isBlank '(' = false)

theorem call?_callText {a word g arguments b : List Char} (ha : IsBlank a)
    (hword : IsFunctionName word) (hg : IsBlank g) (hb : IsBlank b) :
    call? (callText a word g arguments b) =
      some ⟨String.ofList (word.map Char.toUpper), arguments⟩ := by
  have hclose : Text.isBlank ')' = false := by decide
  have htext : callText a word g arguments b =
      a ++ ((word ++ (g ++ '(' :: (arguments ++ [')']))) ++ b) := by
    simp [callText]
  have htrim : Text.trim (callText a word g arguments b) =
      word ++ (g ++ '(' :: (arguments ++ [')'])) := by
    rw [htext]
    refine Text.trim_framed ha hb (hword.stops _) ?_
    simp only [List.reverse_append, List.reverse_cons, List.reverse_nil, List.nil_append,
      List.cons_append]
    exact hclose
  have hstop : Stops isNameChar (g ++ '(' :: (arguments ++ [')'])) :=
    stops_nameChar_of_word (stops_word_parenthesis hg)
  have hhead : ((word ++ (g ++ '(' :: (arguments ++ [')']))).head?.map isNameStart).getD false =
      true := by
    obtain ⟨c, t, rfl, hc⟩ := hword.exists_cons
    exact hc
  simp only [call?, htrim, hhead, ↓reduceIte, Text.dropWhile_run hword.chars hstop,
    Text.takeWhile_run hword.chars hstop, trimStart_parenthesis hg, List.getLast?_concat,
    List.dropLast_concat]

theorem exists_callText {text : List Char} {call : Call} (h : call? text = some call) :
    ∃ a word g b, IsBlank a ∧ IsFunctionName word ∧ IsBlank g ∧ IsBlank b ∧
      call.name = String.ofList (word.map Char.toUpper) ∧
      text = callText a word g call.arguments b := by
  obtain ⟨a, b, ha, hb, htext, -, -⟩ := Text.exists_frame text
  simp only [call?] at h
  split at h
  · rename_i hstart
    split at h
    · rename_i rest hrest
      split at h
      · rename_i hlast
        obtain rfl := Option.some.inj h
        obtain ⟨arguments, rfl⟩ := List.getLast?_eq_some_iff.mp hlast
        obtain ⟨g, u, hafter, hg, hstop⟩ :=
          Text.exists_run Text.isBlank ((Text.trim text).dropWhile isNameChar)
        have hu : u = '(' :: (arguments ++ [')']) := by
          rw [← hrest, hafter, Text.trimStart_append hg]
          exact (Text.dropWhile_of_stops hstop).symm
        have hparts : Text.trim text =
            (Text.trim text).takeWhile isNameChar ++ (g ++ '(' :: (arguments ++ [')'])) := by
          rw [← hu, ← hafter, List.takeWhile_append_dropWhile]
        refine ⟨a, (Text.trim text).takeWhile isNameChar, g, b, ha, ⟨?_, ?_⟩, hg, hb, rfl, ?_⟩
        · cases hs : Text.trim text with
          | nil => simp [hs] at hstart
          | cons c s =>
            have hc : isNameStart c = true := by simpa [hs] using hstart
            simp [isNameChar_of_isNameStart hc, hc]
        · exact fun c hc => List.mem_takeWhile_imp hc
        · rw [callText, List.dropLast_concat]
          conv_lhs => rw [htext, hparts]
          simp only [List.append_assoc, List.cons_append, List.nil_append]
      · simp at h
    · simp at h
  · simp at h

/-- Behind blanks a text goes on with a name, blanks and an opening parenthesis. -/
def OpensCall (s : List Char) : Prop :=
  ∃ a word g u, IsBlank a ∧ IsFunctionName word ∧ IsBlank g ∧ s = a ++ (word ++ (g ++ '(' :: u))

/-- The first character of a text that opens a call begins a name. -/
theorem OpensCall.isNameStart {g s : List Char} {c : Char} (hg : IsBlank g)
    (hc : Text.isBlank c = false) (h : OpensCall (g ++ c :: s)) : isNameStart c = true := by
  obtain ⟨a, word, g', u, ha, hword, -, htext⟩ := h
  obtain ⟨d, t, rfl, hd⟩ := hword.exists_cons
  have hleft : Text.trimStart (g ++ c :: s) = c :: s := Text.dropWhile_run hg hc
  have hright : Text.trimStart (a ++ (d :: t ++ (g' ++ '(' :: u))) = d :: t ++ (g' ++ '(' :: u) :=
    Text.dropWhile_run ha (isBlank_of_isNameChar (hword.chars d (by simp)))
  rw [htext, hright] at hleft
  obtain rfl : d = c := (List.cons.inj hleft).1
  exact hd

theorem not_opensCall {g s : List Char} {c : Char} (hg : IsBlank g)
    (hc : Text.isBlank c = false) (hname : isNameStart c = false) : ¬OpensCall (g ++ c :: s) := by
  intro h
  rw [h.isNameStart hg hc] at hname
  simp at hname

theorem isBlank_gap {g : List Char} (hg : Wording.IsGap g) : IsBlank g :=
  fun c hc => isBlank_of_isGap (hg c hc)

theorem isNameChar_of_ofChars? {name : List Char} {c : Coord} (h : Coord.ofChars? name = some c) :
    ∀ x ∈ name, isNameChar x = true := by
  obtain ⟨l, ds, rfl, hl, -, hds, -⟩ := Coord.shape_of_ofChars? h
  intro x hx
  rcases List.mem_cons.mp hx with rfl | hx
  · simp [isNameChar, Char.isAlphanum, Text.isAlpha_eq, hl]
  · simp [isNameChar, Char.isAlphanum, hds x hx]

/-- No wording opens a call unless what follows it begins with a parenthesis. -/
theorem Wording.not_opensCall {level : Nat} {w : Wording} (hw : w.Fits level) {t : List Char}
    (hstop : Stops isNameChar t) (ht : ∀ u, Text.trimStart t ≠ '(' :: u) :
    ¬OpensCall (w.text ++ t) := by
  induction w generalizing level t with
  | number gap spelling =>
    obtain ⟨c, s, htext, hc⟩ := spelling_head hw.2
    have hbegins : begins c = true := by
      rcases hc with hc | rfl
      · simp [begins, hc]
      · rfl
    have hname : isNameStart c = false := by
      rcases hc with hc | rfl
      · exact isNameStart_of_isDigit hc
      · rfl
    rw [text, htext, List.append_assoc, List.cons_append]
    exact Formula.not_opensCall (isBlank_gap hw.1) (isBlank_of_begins hbegins) hname
  | cell gap name place =>
    rintro ⟨a, word, g, u, ha, hword, hg, hopen⟩
    have hchars := isNameChar_of_ofChars? hw.2
    have hname : Stops Text.isBlank (name ++ t) := by
      obtain ⟨c, s, rfl, -⟩ := Coord.shape_of_ofChars? hw.2
      exact isBlank_of_isNameChar (hchars c (by simp))
    have hparenthesis : Stops isNameChar (g ++ '(' :: u) :=
      stops_nameChar_of_word (stops_word_parenthesis hg)
    rw [text, List.append_assoc] at hopen
    have hrest : name ++ t = word ++ (g ++ '(' :: u) := by
      have h := congrArg Text.trimStart hopen
      rwa [Text.trimStart_append (isBlank_gap hw.1), Text.trimStart_append ha, Text.trimStart,
        Text.trimStart, Text.dropWhile_of_stops hname, Text.dropWhile_of_stops (hword.stops _)] at h
    have hafter := congrArg (List.dropWhile isNameChar) hrest
    rw [Text.dropWhile_run hchars hstop, Text.dropWhile_run hword.chars hparenthesis] at hafter
    exact ht u (by rw [hafter, trimStart_parenthesis hg])
  | binary left gap op right ihl ihr =>
    have hsymbol : Text.isBlank op.symbol = false := by cases op <;> decide
    have hgap := isBlank_gap hw.2.2.1
    have hstart (s : List Char) : Text.trimStart (gap ++ op.symbol :: s) = op.symbol :: s :=
      Text.dropWhile_run hgap hsymbol
    rw [text, List.append_assoc, List.append_assoc, List.cons_append]
    refine ihl hw.2.1 (stops_nameChar_of_word (stops_gap hw.2.2.1 (isMark_operator op))) ?_
    intro u hu
    rw [hstart] at hu
    cases op <;> exact absurd (List.cons.inj hu).1 (by decide)
  | signed gap sign operand ih =>
    rw [text, List.append_assoc, List.cons_append]
    exact Formula.not_opensCall (isBlank_gap hw.1) (by cases sign <;> decide)
      (by cases sign <;> decide)
  | group gap inner closing ih =>
    rw [text, List.append_assoc, List.cons_append]
    exact Formula.not_opensCall (isBlank_gap hw.1) (by decide) (by decide)

/-- What is read as arithmetic is no call. -/
theorem call?_of_read {text : List Char} {e : Expr} (h : read text = .ok e) : call? text = none := by
  obtain ⟨-, w, b, hw, -, hb, hbody⟩ := read_eq_ok_iff.mp h
  cases hcall : call? text with
  | none => rfl
  | some call =>
    obtain ⟨a, word, g, b', ha, hword, hg, -, -, htext⟩ := exists_callText hcall
    have hopen : OpensCall text := ⟨a, word, g, _, ha, hword, hg, htext⟩
    have hsame : text = body text := by
      rcases eq_body_or text with h | h
      · exact h
      · rw [h] at hopen
        exact absurd hopen (not_opensCall (g := []) (by simp [IsBlank]) (by decide) (by decide))
    rw [hsame, hbody] at hopen
    have hblank : Text.trimStart b = [] := List.dropWhile_eq_nil_iff.mpr hb
    refine absurd hopen (Wording.not_opensCall hw ?_ fun u hu => ?_)
    · exact stops_nameChar_of_word (stops_of_isBlank hb)
    · rw [hblank] at hu
      simp at hu

end Gridbook.Formula
