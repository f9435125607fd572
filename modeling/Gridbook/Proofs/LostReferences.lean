import Gridbook.Proofs.Lines

/-!
# Formulas that lost a reference

A line edit writes `#REF!` for a reference to a cell that it removes. No arithmetic
and no range has such a text in it, so these formulas show an error mark. The
arguments of a text function are not looked at so closely: whatever is neither a
range nor a cell is a literal text there, and so is the mark of the lost reference.
-/
namespace Gridbook.Formula

section

variable {α : Type}

/-- A part that begins with a character which the front does not have lies behind the front. -/
theorem infix_of_infix_append_left {c : α} {t x y : List α} (hc : c ∉ x)
    (h : c :: t <:+: x ++ y) : c :: t <:+: y := by
  rcases List.infix_append_iff.mp h with h | h | ⟨l, r, hparts, hl, hr⟩
  · exact absurd (h.subset (by simp)) hc
  · exact h
  · cases l with
    | nil => exact hparts ▸ hr.isInfix
    | cons d l =>
      obtain ⟨rfl, -⟩ := List.cons.inj hparts
      exact absurd (hl.subset (by simp)) hc

/-- A part that ends with a character which the end of a text does not have lies before that end. -/
theorem infix_of_infix_append_right {c : α} {t x y : List α} (hc : c ∉ y)
    (h : t ++ [c] <:+: x ++ y) : t ++ [c] <:+: x := by
  rw [← List.reverse_infix, List.reverse_append, List.reverse_append] at h
  rw [← List.reverse_infix, List.reverse_append]
  exact infix_of_infix_append_left (by simpa using hc) h

/-- A part without the separator lies in one of the texts that are joined. -/
theorem exists_infix_of_intercalate {d : α} {l : List α} (hne : l ≠ []) (hd : d ∉ l)
    {parts : List (List α)} (h : l <:+: [d].intercalate parts) : ∃ part ∈ parts, l <:+: part := by
  induction parts with
  | nil => exact absurd (List.infix_nil.mp h) hne
  | cons part parts ih =>
    by_cases hparts : parts = []
    · subst hparts
      rw [List.intercalate_singleton] at h
      exact ⟨part, by simp, h⟩
    · rw [List.intercalate_cons_of_ne_nil hparts, List.append_assoc] at h
      rcases List.infix_append_iff.mp h with h | h | ⟨l₁, l₂, rfl, hl, hr⟩
      · exact ⟨part, by simp, h⟩
      · rcases List.infix_cons_iff.mp h with h | h
        · rcases List.prefix_cons_iff.mp h with h | ⟨t, rfl, -⟩
          · exact absurd h hne
          · simp at hd
        · obtain ⟨p, hp, hinfix⟩ := ih h
          exact ⟨p, List.mem_cons_of_mem _ hp, hinfix⟩
      · rcases List.prefix_cons_iff.mp hr with rfl | ⟨t, rfl, -⟩
        · rw [List.append_nil]
          exact ⟨part, by simp, hl.isInfix⟩
        · simp at hd

end

theorem hash_mem {s : List Char} (h : lostReference <:+: s) : '#' ∈ s := h.subset (by decide)

theorem hash_ne_of_isFormulaChar {c : Char} (h : isFormulaChar c = true) : c ≠ '#' := by
  rintro rfl
  exact absurd h (by decide)

/-- The mark stands between parts of a text that have its first or its last character. -/
theorem lost_of_framed {x m y : List Char} (hx : '#' ∉ x) (hy : '!' ∉ y)
    (h : lostReference <:+: x ++ (m ++ y)) : lostReference <:+: m :=
  infix_of_infix_append_right (t := ['#', 'R', 'E', 'F']) hy
    (infix_of_infix_append_left (t := ['R', 'E', 'F', '!']) hx h)

theorem lost_trim {s : List Char} (h : lostReference <:+: s) : lostReference <:+: Text.trim s := by
  obtain ⟨a, b, ha, hb, hs, -, -⟩ := Text.exists_frame s
  rw [hs] at h
  exact lost_of_framed (Text.not_mem_of_isBlank ha (by decide))
    (Text.not_mem_of_isBlank hb (by decide)) h

/-- A reference that is found in a text and lost leaves its mark. -/
theorem lost_rewrite {replace : Coord → Option (List Char)} {s : List Char} {r : Coord}
    (hr : r ∈ scan s) (hlost : replace r = some lostReference) :
    lostReference <:+: rewrite replace s := by
  obtain ⟨p, hp, hreference⟩ := List.mem_filterMap.mp hr
  have hpiece : p.substitute replace = lostReference := by
    simp [Piece.substitute, hreference, hlost]
  rw [rewrite, List.flatMap_def]
  exact List.infix_of_mem_flatten (List.mem_map.mpr ⟨p, hp, hpiece⟩)

/-- In a call the mark stands among the arguments. -/
theorem lost_arguments {text : List Char} {call : Call} (hcall : call? text = some call)
    (h : lostReference <:+: text) : lostReference <:+: call.arguments := by
  obtain ⟨a, word, g, b, ha, hword, hg, hb, -, htext⟩ := exists_callText hcall
  have hhash : Text.isBlank '#' = false := by decide
  have hmark : Text.isBlank '!' = false := by decide
  have hname : '#' ∉ word := by
    intro hmem
    exact absurd (hword.chars _ hmem) (by decide)
  have hfront : '#' ∉ a ++ (word ++ (g ++ ['('])) := by
    simp [hname, Text.not_mem_of_isBlank ha hhash, Text.not_mem_of_isBlank hg hhash]
  have hend : '!' ∉ ')' :: b := by
    simp [Text.not_mem_of_isBlank hb hmark]
  refine lost_of_framed hfront hend ?_
  rw [htext, callText] at h
  simpa only [List.append_assoc, List.cons_append, List.nil_append] using h

theorem intercalate_addToPart (c : Char) (parts : List (List Char)) :
    [','].intercalate (addToPart c parts) = c :: [','].intercalate parts := by
  cases parts with
  | nil => simp [addToPart]
  | cons part parts => simp [addToPart]

theorem addToPart_ne_nil (c : Char) (parts : List (List Char)) : addToPart c parts ≠ [] := by
  cases parts <;> simp [addToPart]

theorem cutWith_ne_nil (q : Option Char) (depth : Nat) (s : List Char) :
    cutWith q depth s ≠ [] := by
  fun_induction cutWith q depth s <;> simp [addToPart_ne_nil]

theorem intercalate_cutWith (q : Option Char) (depth : Nat) (s : List Char) :
    [','].intercalate (cutWith q depth s) = s := by
  fun_induction cutWith q depth s with
  | case1 q depth => rfl
  | case2 depth q c rest ih => rw [intercalate_addToPart, ih]
  | case3 depth c rest hquote ih => rw [intercalate_addToPart, ih]
  | case4 depth rest hquote ih => rw [intercalate_addToPart, ih]
  | case5 depth rest hquote hopen ih => rw [intercalate_addToPart, ih]
  | case6 depth c rest hquote hopen hclose hcut ih =>
    obtain ⟨rfl, rfl⟩ := hcut
    rw [List.intercalate_cons_of_ne_nil (cutWith_ne_nil none 0 rest), ih]
    rfl
  | case7 depth c rest hquote hopen hclose hcut ih => rw [intercalate_addToPart, ih]

theorem exists_lost_argument {arguments : List Char} (h : lostReference <:+: arguments) :
    ∃ a ∈ cutArguments arguments, lostReference <:+: a := by
  rw [← intercalate_cutWith none 0 arguments] at h
  obtain ⟨part, hpart, hlost⟩ := exists_infix_of_intercalate (by decide) (by decide) h
  exact ⟨Text.trim part, List.mem_map_of_mem hpart, lost_trim hlost⟩

/-- No text with the mark in it is read as arithmetic. -/
theorem exists_refusal {text : List Char} (h : '#' ∈ text) : ∃ r, read text = .error r := by
  cases hread : read text with
  | error r => exact ⟨r, rfl⟩
  | ok e =>
    obtain ⟨-, w, b, hw, -, hb, hbody⟩ := read_eq_ok_iff.mp hread
    have hmem : '#' ∈ body text := by
      rcases eq_body_or text with htext | htext
      · rwa [← htext]
      · rw [htext] at h
        simpa using h
    rw [hbody, List.mem_append] at hmem
    rcases hmem with hmem | hmem
    · exact absurd rfl (hash_ne_of_isFormulaChar (isFormulaChar_wording hw _ hmem))
    · exact absurd hmem (Text.not_mem_of_isBlank hb (by decide))

theorem hash_not_mem_name {s : List Char} {p : Coord} (h : Coord.ofChars? (Text.trim s) = some p) :
    '#' ∉ s := by
  obtain ⟨a, b, ha, hb, hs, -, -⟩ := Text.exists_frame s
  have hname : '#' ∉ Text.trim s := fun hmem =>
    absurd ((Coord.isWord_of_ofChars? h).2 _ hmem) (by decide)
  have hhash : Text.isBlank '#' = false := by decide
  rw [hs]
  simp [hname, Text.not_mem_of_isBlank ha hhash, Text.not_mem_of_isBlank hb hhash]

theorem mark_areaOf {s : Sheet} {range : List Char} {err : EvalError}
    (h : areaOf s range = .error err) : err.mark = .error := by
  unfold areaOf at h
  dsimp only at h
  split at h
  · rw [← Except.error.inj h]
    rfl
  · split at h
    · rw [← Except.error.inj h]
      rfl
    · split at h
      · rw [← Except.error.inj h]
        rfl
      · split at h
        · rw [← Except.error.inj h]
          rfl
        · simp at h

/-- No text with the mark in it is a range. -/
theorem exists_areaOf_error (s : Sheet) {range : List Char} (h : '#' ∈ range) :
    ∃ err, areaOf s range = .error err := by
  cases harea : areaOf s range with
  | error err => exact ⟨err, rfl⟩
  | ok area =>
    obtain ⟨p, q, hrange, -⟩ := areaOf_eq_ok_iff.mp harea
    cases hrange with
    | single hname => exact absurd h (hash_not_mem_name hname)
    | pair hfirst hlast =>
      simp [hash_not_mem_name hfirst, hash_not_mem_name hlast] at h

/-- A character that neither a cell's name nor a range has in it. -/
def isForeign (c : Char) : Bool := !c.isUpper && !c.isDigit && !Text.isBlank c && c != ':'

theorem isForeign_iff {c : Char} : isForeign c = true ↔
    c.isUpper = false ∧ c.isDigit = false ∧ Text.isBlank c = false ∧ c ≠ ':' := by
  simp [isForeign, and_assoc]

theorem isCellText_of_mem {c : Char} (hc : isForeign c = true) {s : List Char} (h : c ∈ s) :
    isCellText s = false := by
  obtain ⟨hupper, hdigit, -, -⟩ := isForeign_iff.mp hc
  rw [Bool.eq_false_iff]
  intro hcell
  cases s with
  | nil => cases h
  | cons letter digits =>
    simp only [isCellText, Bool.and_eq_true, List.all_eq_true] at hcell
    obtain ⟨⟨hletter, -⟩, hdigits⟩ := hcell
    rcases List.mem_cons.mp h with rfl | h
    · simp [hletter] at hupper
    · simp [hdigits c h] at hdigit

theorem isRangeText_of_mem {c : Char} (hc : isForeign c = true) {s : List Char} (h : c ∈ s) :
    isRangeText s = false := by
  obtain ⟨-, -, hblank, hcolon⟩ := isForeign_iff.mp hc
  obtain ⟨first, t, rfl, hfirst, ht⟩ := Text.exists_run (fun c => decide (c ≠ ':')) s
  rw [isRangeText, List.span_eq_takeWhile_dropWhile, Text.takeWhile_run hfirst ht,
    Text.dropWhile_run hfirst ht]
  cases t with
  | nil => rfl
  | cons d last =>
    obtain rfl : d = ':' := by simpa using ht
    rw [Bool.and_eq_false_iff]
    rcases List.mem_append.mp h with h | h
    · exact .inl (isCellText_of_mem hc (Text.mem_trimEnd hblank h))
    · have hlast : c ∈ last := (List.mem_cons.mp h).resolve_left hcolon
      exact .inr (isCellText_of_mem hc (Text.mem_trimStart hblank hlast))

/-- What kind of formula a text is. -/
inductive Kind where
  | arithmetic
  | aggregate (f : Aggregate) (range : List Char)
  | text (f : TextFunction) (arguments : List (List Char))
  | unknown (name : String)

def kind (text : List Char) : Kind :=
  match call? text with
  | none => .arithmetic
  | some call =>
    match Aggregate.ofName? call.name with
    | some f => .aggregate f call.arguments
    | none =>
      match TextFunction.ofName? call.name with
      | some f => .text f (cutArguments call.arguments)
      | none => .unknown call.name

/-- The value of an argument in the formula of a cell. -/
def argumentOf (s : Sheet) (limit : Nat) (c : Coord) (argument : List Char) :
    Except EvalError Value :=
  (argumentValue s (evaluateIn s limit (limit - 1)) c argument).result ⟨[c], 0⟩

/--
What a cell shows whose formula has the mark of a lost reference in it. A text
function takes the argument with the mark for a literal text.
-/
def ShowsLoss (s : Sheet) (limit : Nat) (c : Coord) (text : List Char) : Prop :=
  match kind text with
  | .arithmetic => evaluate s limit c = .mark .error
  | .aggregate _ _ => evaluate s limit c = .mark .error
  | .text f arguments =>
    evaluate s limit c = shownValue (arguments.mapM (argumentOf s limit c) >>= f.apply) ∧
      (∃ a ∈ arguments, lostReference <:+: a) ∧
      ∀ a ∈ arguments, lostReference <:+: a →
        argumentOf s limit c a = .ok (.text (String.ofList (unquote a)))
  | .unknown _ => evaluate s limit c = .mark .unknownFunction

/-- An argument that is neither a cell nor a range is the text without its quotes. -/
theorem argumentOf_of_mem {x : Char} (hx : isForeign x = true) {a : List Char} (h : x ∈ a)
    (s : Sheet) (limit : Nat) (c : Coord) :
    argumentOf s limit c a = .ok (.text (String.ofList (unquote a))) := by
  rw [argumentOf, argumentValue, isRangeText_of_mem hx h, isCellText_of_mem hx h]
  rfl

theorem argumentOf_lost {a : List Char} (h : lostReference <:+: a) (s : Sheet) (limit : Nat)
    (c : Coord) : argumentOf s limit c a = .ok (.text (String.ofList (unquote a))) :=
  argumentOf_of_mem (by decide) (hash_mem h) s limit c

section

variable {s : Sheet} {limit : Nat} {c : Coord} {text : List Char} (hlimit : 0 < limit)
  (htext : (s.content c).toList = '=' :: text)

include hlimit htext

theorem evaluate_arithmetic_lost (hcall : call? text = none) (hlost : lostReference <:+: text) :
    evaluate s limit c = .mark .error := by
  obtain ⟨r, hr⟩ := exists_refusal (hash_mem hlost)
  have hformula : evaluateFormula s (evaluateIn s limit (limit - 1)) c text =
      evaluateArithmetic s (evaluateIn s limit (limit - 1)) c text := by
    rw [evaluateFormula, hcall]
  rw [evaluate_formula hlimit htext, hformula,
    result_evaluateArithmetic s (balanced_evaluateIn s limit _), hr]
  split <;> rfl

theorem evaluate_aggregate_lost {call : Call} {f : Aggregate} (hcall : call? text = some call)
    (hf : Aggregate.ofName? call.name = some f) (hlost : lostReference <:+: text) :
    evaluate s limit c = .mark .error := by
  obtain ⟨err, herr⟩ := exists_areaOf_error s (hash_mem (lost_trim (lost_arguments hcall hlost)))
  rw [evaluate_formula hlimit htext,
    result_evaluateFormula_aggregate s (balanced_evaluateIn s limit _) c hcall hf, herr]
  exact congrArg Value.mark (mark_areaOf herr)

/-- A text function is applied to the values of its arguments. -/
theorem evaluate_textFunction {call : Call} {f : TextFunction} (hcall : call? text = some call)
    (haggregate : Aggregate.ofName? call.name = none)
    (hf : TextFunction.ofName? call.name = some f) :
    evaluate s limit c =
      shownValue ((cutArguments call.arguments).mapM (argumentOf s limit c) >>= f.apply) := by
  rw [evaluate_formula hlimit htext, result_evaluateFormula_textFunction s
    (balanced_evaluateIn s limit _) c hcall haggregate hf]
  rfl

theorem evaluate_unknownFunction {call : Call} (hcall : call? text = some call)
    (haggregate : Aggregate.ofName? call.name = none)
    (hf : TextFunction.ofName? call.name = none) :
    evaluate s limit c = .mark .unknownFunction := by
  have hformula : evaluateFormula s (evaluateIn s limit (limit - 1)) c text =
      throw (.unknownFunction call.name) := by
    simp only [evaluateFormula, hcall, haggregate, hf]
  rw [evaluate_formula hlimit htext, hformula]
  rfl

/-- Every kind of formula has its own way with the mark. -/
theorem showsLoss_of_lost (hlost : lostReference <:+: text) : ShowsLoss s limit c text := by
  rw [ShowsLoss, kind]
  cases hcall : call? text with
  | none => exact evaluate_arithmetic_lost hlimit htext hcall hlost
  | some call =>
    cases haggregate : Aggregate.ofName? call.name with
    | some f =>
      simp only [haggregate]
      exact evaluate_aggregate_lost hlimit htext hcall haggregate hlost
    | none =>
      cases hf : TextFunction.ofName? call.name with
      | some f =>
        simp only [haggregate, hf]
        exact ⟨evaluate_textFunction hlimit htext hcall haggregate hf,
          exists_lost_argument (lost_arguments hcall hlost),
          fun a _ ha => argumentOf_lost ha s limit c⟩
      | none =>
        simp only [haggregate, hf]
        exact evaluate_unknownFunction hlimit htext hcall haggregate hf

end

end Gridbook.Formula

namespace Gridbook.LineEdit

open Formula (evaluate lostReference references ShowsLoss)

/-- A reference to a removed cell is lost. -/
theorem shiftedName_of_target {e : LineEdit} {r : Coord} (h : e.target r = none) :
    Formula.shiftedName e r = some lostReference := by
  simp [Formula.shiftedName, h]

/--
A formula that refers to a removed cell has the mark of a lost reference after the
edit. Arithmetic and aggregates then show an error, and a call of an unknown
function shows that it is unknown; a text function works on the mark as on any text.
-/
theorem evaluate_lost {e : LineEdit} {s : Sheet} {c d r : Coord} {text : List Char} {limit : Nat}
    (hlimit : 0 < limit) (htext : (s.content c).toList = '=' :: text)
    (hr : r ∈ references ('=' :: text)) (hlost : e.target r = none) (hd : e.target c = some d) :
    (d.col < Coord.letters → ∃ text', ((e.apply s).content d).toList = '=' :: text' ∧
      lostReference <:+: text' ∧ ShowsLoss (e.apply s) limit d text') ∧
    (¬d.col < Coord.letters → evaluate (e.apply s) limit d = .text "") := by
  refine ⟨fun hcol => ?_, fun hcol => evaluate_past_letters e s limit hcol⟩
  have htext' : ((e.apply s).content d).toList =
      '=' :: Formula.rewrite (Formula.shiftedName e) text := by
    rw [content_apply hd hcol, follow, Sheet.toList_rewritten htext, Formula.shiftReferences,
      Formula.substitute_formula]
  have hmark : lostReference <:+: Formula.rewrite (Formula.shiftedName e) text := by
    rw [Formula.references_formula] at hr
    exact Formula.lost_rewrite hr (shiftedName_of_target hlost)
  exact ⟨_, htext', hmark, Formula.showsLoss_of_lost hlimit htext' hmark⟩

/-- An aggregate, a sum and a text function that all refer to `B2`. -/
def bereft : Sheet :=
  ((((Sheet.ofSize 2 3).setContent ⟨0, 0⟩ "=UPPER(B2)").setContent ⟨0, 1⟩ "=1+B2").setContent
    ⟨0, 2⟩ "=SUM(A1:B2)").setContent ⟨1, 1⟩ "x"

theorem evaluate_lost_sum : (bereft.content ⟨0, 2⟩).toList = '=' :: "SUM(A1:B2)".toList ∧
    ⟨1, 1⟩ ∈ references ('=' :: "SUM(A1:B2)".toList) ∧
    ∃ text', (((deleteRow 1).apply bereft).content ⟨0, 2⟩).toList = '=' :: text' ∧
      lostReference <:+: text' ∧ ShowsLoss ((deleteRow 1).apply bereft) 9 ⟨0, 2⟩ text' :=
  have htext : (bereft.content ⟨0, 2⟩).toList = '=' :: "SUM(A1:B2)".toList := by decide +kernel
  have hr : ⟨1, 1⟩ ∈ references ('=' :: "SUM(A1:B2)".toList) := by decide +kernel
  ⟨htext, hr, (evaluate_lost (by decide) htext hr rfl rfl).1 (by decide)⟩

/-- The capitals of a lost reference are not an error, but the text of its mark. -/
theorem evaluate_lost_upper : (deleteRow 1).isApplicable bereft = true ∧
    (bereft.content ⟨0, 0⟩).toList = '=' :: "UPPER(B2)".toList ∧
    ⟨1, 1⟩ ∈ references ('=' :: "UPPER(B2)".toList) ∧ (deleteRow 1).target ⟨1, 1⟩ = none ∧
    (deleteRow 1).target ⟨0, 0⟩ = some ⟨0, 0⟩ ∧
    evaluate ((deleteRow 1).apply bereft) 9 ⟨0, 0⟩ ≠ .mark .error := by
  refine ⟨by decide +kernel, by decide +kernel, by decide +kernel, rfl, rfl, ?_⟩
  intro h
  exact absurd (congrArg Value.display h) (by decide +kernel)

end Gridbook.LineEdit
