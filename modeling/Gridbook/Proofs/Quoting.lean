import Gridbook.Proofs.LostReferences

/-!
# Texts in quotes

Between double quotes a text is out of reach: neither its commas and parentheses nor
its single quotes, names and blanks are looked at, whether the arguments of a call are
cut, an argument is told from a cell or a range, or references are replaced. So a text
function gets the very texts that a call quotes.
-/
namespace Gridbook.Formula

/-- A text in double quotes. -/
def quoted (t : String) : List Char := '"' :: (t.toList ++ ['"'])

/-- Texts in double quotes with commas between them. -/
def quotedList (texts : List String) : List Char := [','].intercalate (texts.map quoted)

/-- The formula that applies a text function to quoted texts. -/
def quotedCall (f : TextFunction) (texts : List String) : List Char :=
  '=' :: (f.name.toList ++ '(' :: (quotedList texts ++ [')']))

theorem quotedList_single (t : String) : quotedList [t] = quoted t :=
  List.intercalate_singleton

theorem quotedList_cons (t u : String) (texts : List String) :
    quotedList (t :: u :: texts) = quoted t ++ ',' :: quotedList (u :: texts) := by
  simp only [quotedList, List.map_cons, List.intercalate_cons_cons, List.append_assoc,
    List.singleton_append]

theorem foldr_addToPart (s part : List Char) (parts : List (List Char)) :
    s.foldr addToPart (part :: parts) = (s ++ part) :: parts := by
  induction s with
  | nil => rfl
  | cons c s ih => rw [List.foldr_cons, ih, List.cons_append, addToPart]

/-- Up to the closing quote nothing is cut. -/
theorem cutWith_inside {t : List Char} (ht : '"' ∉ t) (depth : Nat) (s : List Char) :
    cutWith (some '"') depth (t ++ '"' :: s) =
      (t ++ ['"']).foldr addToPart (cutWith none depth s) := by
  induction t with
  | nil => simp [cutWith]
  | cons c t ih =>
    have hc : c ≠ '"' := (List.ne_of_not_mem_cons ht).symm
    rw [List.cons_append, cutWith, if_neg hc, ih (List.not_mem_of_not_mem_cons ht)]
    rfl

theorem cutWith_quoted {t : String} (ht : '"' ∉ t.toList) (depth : Nat) (s : List Char) :
    cutWith none depth (quoted t ++ s) = (quoted t).foldr addToPart (cutWith none depth s) := by
  have hopen : isQuote '"' = true := rfl
  have htext : quoted t ++ s = '"' :: (t.toList ++ '"' :: s) := by simp [quoted]
  rw [htext, cutWith, if_pos hopen, cutWith_inside ht]
  rfl

theorem cutWith_quotedList {texts : List String} (hne : texts ≠ [])
    (hquotes : ∀ t ∈ texts, '"' ∉ t.toList) :
    cutWith none 0 (quotedList texts) = texts.map quoted := by
  induction texts with
  | nil => exact absurd rfl hne
  | cons t texts ih =>
    have ht := hquotes t List.mem_cons_self
    cases texts with
    | nil =>
      have h := cutWith_quoted ht 0 []
      rw [List.append_nil, cutWith, foldr_addToPart, List.append_nil] at h
      rw [quotedList_single, h]
      rfl
    | cons u texts =>
      have hcut : cutWith none 0 (',' :: quotedList (u :: texts)) =
          [] :: cutWith none 0 (quotedList (u :: texts)) := rfl
      rw [quotedList_cons, cutWith_quoted ht, hcut, foldr_addToPart, List.append_nil,
        ih (List.cons_ne_nil _ _) fun v hv => hquotes v (List.mem_cons_of_mem _ hv)]
      rfl

/-- Blanks in quotes are not at the ends of an argument. -/
theorem trim_quoted (t : String) : Text.trim (quoted t) = quoted t := by
  have hblank : Text.isBlank '"' = false := by decide
  have h := Text.trim_framed (s := quoted t) Text.isBlank_nil Text.isBlank_nil hblank
    (by rw [quoted, List.reverse_cons, List.reverse_append]; exact hblank)
  rwa [List.nil_append, List.append_nil] at h

theorem cutArguments_quotedList {texts : List String} (hne : texts ≠ [])
    (hquotes : ∀ t ∈ texts, '"' ∉ t.toList) :
    cutArguments (quotedList texts) = texts.map quoted := by
  rw [cutArguments, cutWith_quotedList hne hquotes, List.map_map]
  exact List.map_congr_left fun t _ => trim_quoted t

theorem unquote_quoted (t : String) : unquote (quoted t) = t.toList := by
  have hquote : isQuote '"' = true := rfl
  simp [unquote, quoted, hquote]

/-- A text in quotes is taken as it is. -/
theorem argumentOf_quoted (s : Sheet) (limit : Nat) (c : Coord) (t : String) :
    argumentOf s limit c (quoted t) = .ok (.text t) := by
  have hmem : '"' ∈ quoted t := List.mem_cons_self
  rw [argumentOf_of_mem (by decide) hmem, unquote_quoted, String.ofList_toList]

theorem mapM_argumentOf_quoted (s : Sheet) (limit : Nat) (c : Coord) (texts : List String) :
    (texts.map quoted).mapM (argumentOf s limit c) = .ok (texts.map .text) := by
  rw [List.mapM_map]
  have hvalue : argumentOf s limit c ∘ quoted = fun t => pure (.text t) :=
    funext fun t => argumentOf_quoted s limit c t
  rw [hvalue]
  exact List.mapM_pure

theorem pieces_inside {t : List Char} (ht : '"' ∉ t) (s : List Char) :
    pieces (some '"') (t ++ '"' :: s) = (t ++ ['"']).map .mark ++ pieces none s := by
  induction t with
  | nil => simp [pieces]
  | cons c t ih =>
    have hc : c ≠ '"' := (List.ne_of_not_mem_cons ht).symm
    rw [List.cons_append, pieces, if_neg hc, ih (List.not_mem_of_not_mem_cons ht)]
    rfl

theorem scan_quoted {t : String} (ht : '"' ∉ t.toList) (s : List Char) :
    scan (quoted t ++ s) = scan s := by
  have hopen : isQuote '"' = true := rfl
  have hpieces : pieces none (quoted t ++ s) = (quoted t).map .mark ++ pieces none s := by
    have htext : quoted t ++ s = '"' :: (t.toList ++ '"' :: s) := by simp [quoted]
    rw [htext, pieces, if_pos hopen, pieces_inside ht]
    rfl
  rw [scan, hpieces, List.filterMap_append, filterMap_reference_marks, List.nil_append, scan]

theorem scan_quotedList {texts : List String} (hquotes : ∀ t ∈ texts, '"' ∉ t.toList)
    (s : List Char) : scan (quotedList texts ++ s) = scan s := by
  induction texts with
  | nil => rfl
  | cons t texts ih =>
    have ht := hquotes t List.mem_cons_self
    cases texts with
    | nil => rw [quotedList_single, scan_quoted ht]
    | cons u texts =>
      rw [quotedList_cons, List.append_assoc, scan_quoted ht, List.cons_append,
        scan_mark (by decide), ih fun v hv => hquotes v (List.mem_cons_of_mem _ hv)]

namespace TextFunction

theorem isFunctionName_name (f : TextFunction) : IsFunctionName f.name.toList := by
  have hchars : f.name.toList.all isNameChar = true := by cases f <;> decide
  refine ⟨?_, List.all_eq_true.mp hchars⟩
  cases f <;> decide

theorem map_toUpper_name (f : TextFunction) : f.name.toList.map Char.toUpper = f.name.toList := by
  cases f <;> decide

theorem ofName?_name (f : TextFunction) : ofName? f.name = some f := by
  cases f <;> rfl

theorem aggregate_ofName?_name (f : TextFunction) : Aggregate.ofName? f.name = none := by
  cases f <;> rfl

/-- The name of a text function has no digits, so it is not the name of a cell. -/
theorem ofChars?_name (f : TextFunction) : Coord.ofChars? f.name.toList = none := by
  cases f <;> decide

end TextFunction

theorem references_quotedCall (f : TextFunction) {texts : List String}
    (hquotes : ∀ t ∈ texts, '"' ∉ t.toList) : references (quotedCall f texts) = [] := by
  have hname := f.isFunctionName_name
  obtain ⟨c, name, hcons, -⟩ := hname.exists_cons
  have hne : f.name.toList ≠ [] := hcons ▸ List.cons_ne_nil c name
  have hword : ∀ x ∈ f.name.toList, Text.isWord x = true :=
    fun x hx => isWord_of_isNameChar (hname.chars x hx)
  have hstop : Text.Stops Text.isWord ('(' :: (quotedList texts ++ [')'])) :=
    (by decide : Text.isWord '(' = false)
  rw [quotedCall, references_formula, scan_word hne hword hstop, f.ofChars?_name, Option.toList_none,
    List.nil_append, scan_mark (by decide), scan_quotedList hquotes, scan_mark (by decide)]
  rfl

theorem call?_quotedCall (f : TextFunction) (texts : List String) :
    call? (f.name.toList ++ '(' :: (quotedList texts ++ [')'])) =
      some ⟨f.name, quotedList texts⟩ := by
  have h : call? (callText [] f.name.toList [] (quotedList texts) []) = _ :=
    call?_callText Text.isBlank_nil f.isFunctionName_name Text.isBlank_nil Text.isBlank_nil
  rwa [f.map_toUpper_name, String.ofList_toList] at h

/--
A cell that applies a text function to texts in double quotes shows the value of the
function at these texts, or the mark of its error. The texts may be anything without a
double quote. None of what they hold is a reference, so the formula stays as it is
whatever is put in the place of references.
-/
theorem evaluate_quotedCall {s : Sheet} {limit : Nat} {c : Coord} {f : TextFunction}
    {texts : List String} (hlimit : 0 < limit) (hne : texts ≠ [])
    (hquotes : ∀ t ∈ texts, '"' ∉ t.toList)
    (hcontent : (s.content c).toList = quotedCall f texts) :
    evaluate s limit c = shownValue (f.apply (texts.map .text)) ∧
    references (quotedCall f texts) = [] ∧
    ∀ replace, substitute replace (quotedCall f texts) = quotedCall f texts := by
  have hreferences := references_quotedCall f hquotes
  refine ⟨?_, hreferences, fun replace => ?_⟩
  · rw [evaluate_textFunction hlimit hcontent (call?_quotedCall f texts) f.aggregate_ofName?_name
      f.ofName?_name, cutArguments_quotedList hne hquotes, mapM_argumentOf_quoted]
    rfl
  · rw [quotedCall, references_formula] at hreferences
    rw [quotedCall, substitute_formula, rewrite_of_scan hreferences]

/-- A call whose texts have commas, parentheses, a quote and names in them. -/
def notice : Sheet :=
  (Sheet.ofSize 2 2).setContent ⟨0, 0⟩ "=FIND_AND_REPLACE(\"f(a,b) \",\",\",\":A1'\")"

theorem evaluate_quotedCall_notice :
    (notice.content ⟨0, 0⟩).toList = quotedCall .findAndReplace ["f(a,b) ", ",", ":A1'"] ∧
    (∀ t ∈ ["f(a,b) ", ",", ":A1'"], '"' ∉ t.toList) ∧
    displayed notice 9 ⟨0, 0⟩ = "f(a:A1'b) " ∧
    references (quotedCall .findAndReplace ["f(a,b) ", ",", ":A1'"]) = [] :=
  have hcontent : (notice.content ⟨0, 0⟩).toList =
      quotedCall .findAndReplace ["f(a,b) ", ",", ":A1'"] := by decide +kernel
  have hquotes : ∀ t ∈ ["f(a,b) ", ",", ":A1'"], '"' ∉ t.toList := by decide
  have hshown : (shownValue (TextFunction.findAndReplace.apply
      (["f(a,b) ", ",", ":A1'"].map .text))).display = "f(a:A1'b) " := by decide +kernel
  have h := evaluate_quotedCall (by decide) (List.cons_ne_nil _ _) hquotes hcontent
  ⟨hcontent, hquotes, (congrArg Value.display h.1).trans hshown, h.2.1⟩

end Gridbook.Formula
