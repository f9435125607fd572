import Gridbook.Proofs.Trimming
import Gridbook.Proofs.Wording

/-!
# The reader and the grammar

The reader accepts a text exactly if the text is a wording of a sum with blanks
behind it, and it answers with the tree of the wording. Both directions treat the
two kinds of chains at once: a chain joins what the level above reads by the
operators of its own level.
-/
namespace Gridbook.Formula

open Decimal (Spelling)
open Text (IsBlank Stops)
open Wording (IsGap)

/-- The reader of operators gives the operators of one level and no others. -/
structure ReadsLevel (level : Nat)
    (operator? : List Char → Option (Operator × List Char)) : Prop where
  accepts : ∀ op rest, op.level = level → operator? (op.symbol :: rest) = some (op, rest)
  shape : ∀ s op rest, operator? s = some (op, rest) → s = op.symbol :: rest ∧ op.level = level

theorem readsLevel_term : ReadsLevel 0 termOperator? where
  accepts op rest h := by cases op <;> first | rfl | exact absurd h (by decide)
  shape s op rest h := by
    unfold termOperator? at h
    split at h
    · obtain ⟨rfl, rfl⟩ := Prod.mk.inj (Option.some.inj h)
      exact ⟨rfl, rfl⟩
    · obtain ⟨rfl, rfl⟩ := Prod.mk.inj (Option.some.inj h)
      exact ⟨rfl, rfl⟩
    · simp at h

theorem readsLevel_factor : ReadsLevel 1 factorOperator? where
  accepts op rest h := by cases op <;> first | rfl | exact absurd h (by decide)
  shape s op rest h := by
    unfold factorOperator? at h
    split at h
    · obtain ⟨rfl, rfl⟩ := Prod.mk.inj (Option.some.inj h)
      exact ⟨rfl, rfl⟩
    · obtain ⟨rfl, rfl⟩ := Prod.mk.inj (Option.some.inj h)
      exact ⟨rfl, rfl⟩
    · simp at h

/-- A text is a gap and what is left when the gap is skipped. -/
theorem exists_gap (s : List Char) : ∃ g, IsGap g ∧ s = g ++ skipGap s :=
  ⟨s.takeWhile isGap, fun _ hc => List.mem_takeWhile_imp hc,
    List.takeWhile_append_dropWhile.symm⟩

theorem skipGap_run {g s : List Char} (hg : IsGap g) (hs : Stops isGap s) :
    skipGap (g ++ s) = s := Text.dropWhile_run hg hs

@[simp] theorem skipGap_skipGap (s : List Char) : skipGap (skipGap s) = skipGap s :=
  Text.dropWhile_of_stops (Text.stops_dropWhile isGap s)

/-- Whatever the reader takes from a text is a wording of the level and a gap behind it. -/
def Sound (level : Nat) (reader : List Char → Reading) : Prop :=
  ∀ s e rest, reader s = .ok (e, rest) →
    ∃ (w : Wording) (gap : List Char), w.Fits level ∧ w.tree = e ∧ IsGap gap ∧ s = w.text ++ (gap ++ rest)

/-- A chain that has come to a wording goes on to a longer wording of the same level. -/
theorem readChain_sound {level : Nat} {operator? : List Char → Option (Operator × List Char)}
    {operand : List Char → Reading} (hop : ReadsLevel level operator?)
    (hoperand : Sound (level + 1) operand) (n : Nat) (w : Wording) (gap s : List Char)
    (hw : w.Fits level) (hgap : IsGap gap) :
    ∃ (w' : Wording) (gap' : List Char), w'.Fits level ∧ w'.tree = (readChain operator? operand n w.tree s).1 ∧
      IsGap gap' ∧ w.text ++ (gap ++ s) =
        w'.text ++ (gap' ++ (readChain operator? operand n w.tree s).2) := by
  induction n generalizing w gap s with
  | zero => exact ⟨w, gap, hw, rfl, hgap, rfl⟩
  | succ n ih =>
    rw [readChain]
    split
    · exact ⟨w, gap, hw, rfl, hgap, rfl⟩
    · rename_i op rest hread
      obtain ⟨hskip, hlevel⟩ := hop.shape _ _ _ hread
      obtain ⟨g, hg, hs⟩ := exists_gap s
      split
      · exact ⟨w, gap, hw, rfl, hgap, rfl⟩
      · rename_i e rest' hright
        obtain ⟨r, gap', hr, rfl, hgap', hrest⟩ := hoperand _ _ _ hright
        have hjoined : (Wording.binary w (gap ++ g) op r).Fits level := by
          refine ⟨hlevel.ge, ?_, Wording.isGap_append hgap hg, ?_⟩
          · rw [hlevel]
            exact hw
          · rw [hlevel]
            exact hr
        obtain ⟨w', gap'', hw', htree, hgap'', htext⟩ := ih _ gap' rest' hjoined hgap'
        refine ⟨w', gap'', hw', htree, hgap'', ?_⟩
        rw [hs, hskip, hrest]
        simpa only [Wording.text, Wording.tree, List.append_assoc, List.cons_append] using htext

theorem readJoined_sound {level : Nat} {operator? : List Char → Option (Operator × List Char)}
    {operand : List Char → Reading} (hop : ReadsLevel level operator?)
    (hoperand : Sound (level + 1) operand) : Sound level (readJoined operator? operand) := by
  intro s e rest h
  unfold readJoined at h
  split at h
  · simp at h
  · rename_i e' rest' hfirst
    obtain ⟨w, gap, hw, rfl, hgap, rfl⟩ := hoperand _ _ _ hfirst
    obtain ⟨w', gap', hw', htree, hgap', htext⟩ :=
      readChain_sound hop hoperand rest'.length w gap rest' (hw.mono (Nat.le_succ level)) hgap
    rw [Except.ok.inj h] at htree htext
    exact ⟨w', gap', hw', htree, hgap', htext⟩

theorem readSum_sound {operand : List Char → Reading} (h : Sound 2 operand) :
    Sound 0 (readSum operand) :=
  readJoined_sound readsLevel_term (readJoined_sound readsLevel_factor h)

theorem readCell_sound {s : List Char} {e : Expr} {rest : List Char}
    (h : readCell s = .ok (e, rest)) :
    ∃ name place, Coord.ofChars? name = some place ∧ e = .cell place ∧ s = name ++ rest := by
  cases s with
  | nil => simp [readCell] at h
  | cons c s =>
    obtain ⟨ds, t, rfl, hds, ht⟩ := Text.exists_run Char.isDigit s
    simp only [readCell, Decimal.spanDigits_run hds ht] at h
    split at h
    · cases ds with
      | nil => simp at h
      | cons d ds =>
        simp only at h
        split at h
        · rename_i place hplace
          obtain ⟨rfl, rfl⟩ := Prod.mk.inj (Except.ok.inj h)
          exact ⟨_, place, hplace, rfl, by simp⟩
        · simp at h
    · simp at h

theorem readLeaf_sound : Sound 2 readLeaf := by
  intro s e rest h
  unfold readLeaf at h
  split at h
  · rename_i n t hscan
    obtain ⟨rfl, rfl⟩ := Prod.mk.inj (Except.ok.inj h)
    obtain ⟨spelling, hvalid, rfl, rfl⟩ := Decimal.Numeral.exists_spelling hscan
    obtain ⟨g, hg, ht⟩ := exists_gap t
    refine ⟨.number [] spelling, g, ⟨Wording.isGap_nil, hvalid⟩, rfl, hg, ?_⟩
    rw [← ht]
    rfl
  · split at h
    · rename_i e' t hcell
      obtain ⟨rfl, rfl⟩ := Prod.mk.inj (Except.ok.inj h)
      obtain ⟨name, place, hname, rfl, rfl⟩ := readCell_sound hcell
      obtain ⟨g, hg, ht⟩ := exists_gap t
      refine ⟨.cell [] name place, g, ⟨Wording.isGap_nil, hname⟩, rfl, hg, ?_⟩
      rw [← ht]
      rfl
    · simp at h

/-- A gap in front of a wording is a gap in front of its first token. -/
theorem exists_fits_gap {level : Nat} {w : Wording} {g : List Char} (hw : w.Fits level)
    (hg : IsGap g) : ∃ w' : Wording, w'.Fits level ∧ w'.tree = w.tree ∧ w'.text = g ++ w.text := by
  induction w generalizing level with
  | number gap spelling =>
    exact ⟨.number (g ++ gap) spelling, ⟨Wording.isGap_append hg hw.1, hw.2⟩, rfl,
      by simp [Wording.text]⟩
  | cell gap name place =>
    exact ⟨.cell (g ++ gap) name place, ⟨Wording.isGap_append hg hw.1, hw.2⟩, rfl,
      by simp [Wording.text]⟩
  | binary left gap op right ihl ihr =>
    obtain ⟨left', hleft', htree, htext⟩ := ihl hw.2.1
    exact ⟨.binary left' gap op right, ⟨hw.1, hleft', hw.2.2⟩, by simp [Wording.tree, htree],
      by simp [Wording.text, htext]⟩
  | signed gap sign operand ih =>
    exact ⟨.signed (g ++ gap) sign operand, ⟨Wording.isGap_append hg hw.1, hw.2⟩, rfl,
      by simp [Wording.text]⟩
  | group gap inner closing ih =>
    exact ⟨.group (g ++ gap) inner closing, ⟨Wording.isGap_append hg hw.1, hw.2⟩, rfl,
      by simp [Wording.text]⟩

theorem readSigned_sound {n : Nat} (sign : Sign) {rest : List Char} {e : Expr} {after : List Char}
    (ih : Sound 2 (readOperand n)) (h : readOperand n rest = .ok (e, after)) :
    ∃ (w : Wording) (gap : List Char), w.Fits 2 ∧ w.tree = .signed sign e ∧ IsGap gap ∧
      sign.symbol :: rest = w.text ++ (gap ++ after) := by
  obtain ⟨w, gap, hw, rfl, hgap, rfl⟩ := ih _ _ _ h
  exact ⟨.signed [] sign w, gap, ⟨Wording.isGap_nil, hw⟩, rfl, hgap, by simp [Wording.text]⟩

theorem readOperand_sound (n : Nat) : Sound 2 (readOperand n) := by
  induction n with
  | zero => intro s e rest h; simp [readOperand] at h
  | succ n ih =>
    intro s e rest h
    obtain ⟨g, hg, hs⟩ := exists_gap s
    suffices hskip : ∃ (w : Wording) (gap : List Char), w.Fits 2 ∧ w.tree = e ∧ IsGap gap ∧
        skipGap s = w.text ++ (gap ++ rest) by
      obtain ⟨w, gap, hw, rfl, hgap, htext⟩ := hskip
      obtain ⟨w', hw', htree, hfront⟩ := exists_fits_gap hw hg
      refine ⟨w', gap, hw', htree, hgap, ?_⟩
      rw [hs, htext, hfront, List.append_assoc]
    rw [readOperand] at h
    split at h
    · rename_i t ht
      split at h
      · rename_i e' after hoperand
        obtain ⟨rfl, rfl⟩ := Prod.mk.inj (Except.ok.inj h)
        rw [ht]
        exact readSigned_sound .minus ih hoperand
      · simp at h
    · rename_i t ht
      split at h
      · rename_i e' after hoperand
        obtain ⟨rfl, rfl⟩ := Prod.mk.inj (Except.ok.inj h)
        rw [ht]
        exact readSigned_sound .plus ih hoperand
      · simp at h
    · rename_i t ht
      split at h
      · rename_i e' after hinner
        obtain ⟨rfl, rfl⟩ := Prod.mk.inj (Except.ok.inj h)
        obtain ⟨w, closing, hw, rfl, hclosing, rfl⟩ := readSum_sound ih _ _ _ hinner
        obtain ⟨g', hg', hafter⟩ := exists_gap after
        refine ⟨.group [] w closing, g', ⟨Wording.isGap_nil, hw, hclosing⟩, rfl, hg', ?_⟩
        rw [ht, ← hafter]
        simp [Wording.text]
      · simp at h
    · exact readLeaf_sound _ _ _ h

/-- Characters that could go on with a number or a name. -/
def joins (c : Char) : Bool := Text.isWord c || c == '.'

theorem stops_goesOn_of_joins {t : List Char} (h : Stops joins t) : Stops Decimal.goesOn t := by
  cases t with
  | nil => trivial
  | cons c t =>
    rw [Text.stops_cons, joins, Bool.or_eq_false_iff] at h
    obtain ⟨hword, hpoint⟩ := h
    have hdigit : c.isDigit = false := by
      rw [Bool.eq_false_iff]
      intro hd
      rw [Text.isWord_of_isDigit hd] at hword
      simp at hword
    have he : c ≠ 'e' := by rintro rfl; exact absurd hword (by decide)
    have hE : c ≠ 'E' := by rintro rfl; exact absurd hword (by decide)
    simp [Decimal.goesOn, hdigit, hpoint, he, hE]

/-- What follows a wording of a level neither goes on with its last leaf nor with a chain. -/
structure Ends (level : Nat) (rest : List Char) : Prop where
  stops : Stops joins rest
  operator : ∀ (op : Operator) (t : List Char), skipGap rest = op.symbol :: t → op.level < level

theorem Ends.succ {level : Nat} {rest : List Char} (h : Ends level rest) :
    Ends (level + 1) rest :=
  ⟨h.stops, fun op t ht => Nat.lt_succ_of_lt (h.operator op t ht)⟩

theorem joins_of_isBlank {c : Char} (h : Text.isBlank c = true) : joins c = false := by
  have hpoint : c ≠ '.' := by rintro rfl; exact absurd h (by decide)
  simp [joins, Text.isWord_of_isBlank h, hpoint]

theorem isBlank_of_isGap {c : Char} (h : isGap c = true) : Text.isBlank c = true := by
  simp only [isGap, Bool.or_eq_true, beq_iff_eq] at h
  rcases h with ((rfl | rfl) | rfl) | rfl <;> decide

theorem joins_symbol (op : Operator) : joins op.symbol = false := by cases op <;> decide

theorem skipGap_symbol {g : List Char} (hg : IsGap g) (op : Operator) (t : List Char) :
    skipGap (g ++ op.symbol :: t) = op.symbol :: t := by
  have h : Stops isGap (op.symbol :: t) := by cases op <;> rfl
  exact skipGap_run hg h

/-- A character of no leaf behind a gap ends a leaf in front of the gap. -/
theorem stops_joins_gap {g t : List Char} (hg : IsGap g) (ht : Stops joins t) :
    Stops joins (g ++ t) := by
  cases g with
  | nil => exact ht
  | cons c g => exact joins_of_isBlank (isBlank_of_isGap (hg c (by simp)))

/-- An operator of a level ends the wordings of the levels above. -/
theorem ends_operator {g t : List Char} {op : Operator} (hg : IsGap g) :
    Ends (op.level + 1) (g ++ op.symbol :: t) := by
  refine ⟨stops_joins_gap hg (joins_symbol op), fun op' t' h => ?_⟩
  rw [skipGap_symbol hg op] at h
  have hsymbol : op.symbol = op'.symbol := (List.cons.inj h).1
  have heq : op = op' := by
    cases op <;> cases op' <;> first | rfl | exact absurd hsymbol (by decide)
  rw [heq]
  exact Nat.lt_succ_self _

/-- The reader reads every wording of the level that is not longer than the bound. -/
def Complete (level bound : Nat) (reader : List Char → Reading) : Prop :=
  ∀ w : Wording, w.Fits level → w.text.length ≤ bound → ∀ rest, Ends level rest →
    reader (w.text ++ rest) = .ok (w.tree, skipGap rest)

theorem length_of_sound {level : Nat} {reader : List Char → Reading} (h : Sound level reader)
    {s : List Char} {e : Expr} {rest : List Char} (hread : reader s = .ok (e, rest)) :
    rest.length ≤ s.length := by
  obtain ⟨w, gap, -, -, -, rfl⟩ := h _ _ _ hread
  simp only [List.length_append]
  omega

theorem length_skipGap_le (s : List Char) : (skipGap s).length ≤ s.length :=
  List.length_dropWhile_le _ s

section

variable {level : Nat} {operator? : List Char → Option (Operator × List Char)}
  {operand : List Char → Reading}

/-- A chain has as many links at most as there are characters, so more fuel changes nothing. -/
theorem readChain_fuel (hop : ReadsLevel level operator?) (hsound : Sound (level + 1) operand)
    {m n : Nat} (e : Expr) (s : List Char) (hm : s.length ≤ m) (hn : s.length ≤ n) :
    readChain operator? operand m e s = readChain operator? operand n e s := by
  induction m generalizing n e s with
  | zero =>
    obtain rfl := List.eq_nil_of_length_eq_zero (Nat.le_zero.mp hm)
    cases n with
    | zero => rfl
    | succ n =>
      rw [readChain, readChain]
      split
      · rfl
      · rename_i op rest hread
        exact absurd (hop.shape _ _ _ hread).1 (by simp [skipGap])
  | succ m ih =>
    cases n with
    | zero =>
      obtain rfl := List.eq_nil_of_length_eq_zero (Nat.le_zero.mp hn)
      rw [readChain, readChain]
      split
      · rfl
      · rename_i op rest hread
        exact absurd (hop.shape _ _ _ hread).1 (by simp [skipGap])
    | succ n =>
      rw [readChain, readChain]
      split
      · rfl
      · rename_i op rest hread
        have hlength := length_skipGap_le s
        rw [(hop.shape _ _ _ hread).1, List.length_cons] at hlength
        split
        · rfl
        · rename_i right rest' hright
          have hshorter := length_of_sound hsound hright
          exact ih _ _ (by omega) (by omega)

/-- Reading a chain up to a wording leaves the rest to be read on with the tree so far. -/
theorem readJoined_text {bound : Nat} (hop : ReadsLevel level operator?)
    (hsound : Sound (level + 1) operand) (hcomplete : Complete (level + 1) bound operand)
    (w : Wording) (hw : w.Fits level) (hbound : w.text.length ≤ bound) (rest : List Char)
    (hrest : Ends (level + 1) rest) (n : Nat) (hn : (skipGap rest).length ≤ n) :
    readJoined operator? operand (w.text ++ rest) =
      .ok (readChain operator? operand n w.tree (skipGap rest)) := by
  have single (w : Wording) (hw : w.Fits (level + 1)) (hbound : w.text.length ≤ bound)
      (rest : List Char) (hrest : Ends (level + 1) rest) (n : Nat)
      (hn : (skipGap rest).length ≤ n) :
      readJoined operator? operand (w.text ++ rest) =
        .ok (readChain operator? operand n w.tree (skipGap rest)) := by
    rw [readJoined, hcomplete w hw hbound rest hrest]
    exact congrArg _ (readChain_fuel hop hsound _ _ (Nat.le_refl _) hn)
  induction w generalizing rest n with
  | number gap spelling => exact single (.number gap spelling) hw hbound rest hrest n hn
  | cell gap name place => exact single (.cell gap name place) hw hbound rest hrest n hn
  | signed gap sign operand ih => exact single (.signed gap sign operand) hw hbound rest hrest n hn
  | group gap inner closing ih => exact single (.group gap inner closing) hw hbound rest hrest n hn
  | binary left gap op right ihl ihr =>
    rcases Nat.lt_or_eq_of_le hw.1 with hlt | heq
    · exact single (.binary left gap op right) ⟨hlt, hw.2⟩ hbound rest hrest n hn
    · subst heq
      obtain ⟨-, hleft, hgap, hright⟩ := hw
      simp only [Wording.text, List.length_append, List.length_cons] at hbound
      have hskip : skipGap (gap ++ op.symbol :: (right.text ++ rest)) =
          op.symbol :: (right.text ++ rest) := skipGap_symbol hgap op _
      have hlink := ihl hleft (by omega) (gap ++ op.symbol :: (right.text ++ rest))
        (ends_operator hgap) ((skipGap rest).length + (right.text ++ rest).length + 1)
        (by rw [hskip, List.length_cons]; omega)
      rw [Wording.text, List.append_assoc, List.append_assoc, List.cons_append, hlink, hskip,
        readChain]
      have hgapped : skipGap (op.symbol :: (right.text ++ rest)) =
          op.symbol :: (right.text ++ rest) := skipGap_symbol Wording.isGap_nil op _
      rw [hgapped, hop.accepts _ _ rfl]
      simp only
      rw [hcomplete right hright (by omega) rest hrest]
      exact congrArg _ (readChain_fuel hop hsound _ _ (by omega) hn)

theorem readJoined_complete {bound : Nat} (hop : ReadsLevel level operator?)
    (hsound : Sound (level + 1) operand) (hcomplete : Complete (level + 1) bound operand) :
    Complete level bound (readJoined operator? operand) := by
  intro w hw hbound rest hrest
  rw [readJoined_text hop hsound hcomplete w hw hbound rest hrest.succ _ (Nat.le_succ _),
    readChain, skipGap_skipGap]
  split
  · rfl
  · rename_i op t hread
    obtain ⟨hsymbol, hlevel⟩ := hop.shape _ _ _ hread
    have := hrest.operator op t hsymbol
    omega

end

theorem readSum_complete {bound : Nat} {operand : List Char → Reading} (hsound : Sound 2 operand)
    (h : Complete 2 bound operand) : Complete 0 bound (readSum operand) :=
  readJoined_complete readsLevel_term (readJoined_sound readsLevel_factor hsound)
    (readJoined_complete readsLevel_factor hsound h)

/-- A text that begins with a leaf's character is read as a leaf. -/
theorem readOperand_leaf {n : Nat} {g s : List Char} {c : Char} (hg : IsGap g)
    (hc : c.isDigit = true ∨ c.isUpper = true ∨ c = '.') :
    readOperand (n + 1) (g ++ c :: s) = readLeaf (c :: s) := by
  have hgap : isGap c = false := by
    rw [Bool.eq_false_iff]
    intro h
    simp only [isGap, Bool.or_eq_true, beq_iff_eq] at h
    rcases h with ((rfl | rfl) | rfl) | rfl <;> revert hc <;> decide
  have hsign : c ≠ '-' ∧ c ≠ '+' ∧ c ≠ '(' := by
    refine ⟨?_, ?_, ?_⟩ <;> rintro rfl <;> revert hc <;> decide
  rw [readOperand, skipGap_run hg (s := c :: s) hgap]
  obtain ⟨hminus, hplus, hparenthesis⟩ := hsign
  split <;> simp_all

theorem readOperand_signed {n : Nat} {g s rest : List Char} {sign : Sign} {e : Expr}
    (hg : IsGap g) (h : readOperand n s = .ok (e, rest)) :
    readOperand (n + 1) (g ++ sign.symbol :: s) = .ok (.signed sign e, rest) := by
  rw [readOperand]
  cases sign with
  | minus =>
    have hskip : skipGap (g ++ Sign.minus.symbol :: s) = '-' :: s := skipGap_run hg rfl
    simp only [hskip, h]
  | plus =>
    have hskip : skipGap (g ++ Sign.plus.symbol :: s) = '+' :: s := skipGap_run hg rfl
    simp only [hskip, h]

theorem spelling_head {w : Spelling} (hw : w.Valid) :
    ∃ c t, w.text = c :: t ∧ (c.isDigit = true ∨ c = '.') := by
  obtain ⟨whole, fraction, power⟩ := w
  cases whole with
  | cons c whole => exact ⟨c, _, rfl, .inl (hw.whole c (by simp))⟩
  | nil =>
    cases fraction with
    | some digits => exact ⟨'.', _, rfl, .inr rfl⟩
    | none => exact absurd hw.digits (by simp)

theorem readLeaf_number {w : Spelling} {rest : List Char} (hw : w.Valid)
    (hrest : Stops joins rest) :
    readLeaf (w.text ++ rest) = .ok (.number w.numeral.toFloat, skipGap rest) := by
  rw [readLeaf, Decimal.Numeral.scan?_text hw (stops_goesOn_of_joins hrest)]

theorem readLeaf_cell {name rest : List Char} {place : Coord}
    (hname : Coord.ofChars? name = some place) (hrest : Stops joins rest) :
    readLeaf (name ++ rest) = .ok (.cell place, skipGap rest) := by
  obtain ⟨c, ds, rfl, hc, hne, hds, -⟩ := Coord.shape_of_ofChars? hname
  have hdigit : c.isDigit = false := by
    rw [Bool.eq_false_iff]
    intro h
    rw [Text.isUpper_of_isDigit h] at hc
    simp at hc
  have hpoint : c ≠ '.' := by rintro rfl; exact absurd hc (by decide)
  have hspan : Decimal.spanDigits (c :: (ds ++ rest)) = ([], c :: (ds ++ rest)) :=
    @Decimal.spanDigits_run [] _ (by simp) hdigit
  have hscan : Decimal.Numeral.scan? (c :: (ds ++ rest)) = none := by
    rw [Decimal.Numeral.scan?, Decimal.Numeral.scanDigits?, hspan]
    split <;> simp_all
  have hdigits := Decimal.spanDigits_run hds
    (Decimal.stops_digit_of_goesOn (stops_goesOn_of_joins hrest))
  obtain ⟨d, ds', rfl⟩ := List.exists_cons_of_ne_nil hne
  rw [List.cons_append, readLeaf, hscan]
  simp only [readCell, hc, ↓reduceIte, hdigits, hname]

theorem readOperand_complete {n bound : Nat} (h : bound < n) :
    Complete 2 bound (readOperand n) := by
  induction n generalizing bound with
  | zero => omega
  | succ n ih =>
    intro w hw hbound rest hrest
    cases w with
    | number gap spelling =>
      obtain ⟨hgap, hvalid⟩ := hw
      obtain ⟨c, t, htext, hc⟩ := spelling_head hvalid
      have hleaf := readLeaf_number hvalid hrest.stops
      rw [htext, List.cons_append] at hleaf
      rw [Wording.text, htext, List.append_assoc, List.cons_append,
        readOperand_leaf hgap (hc.imp_right .inr)]
      exact hleaf
    | cell gap name place =>
      obtain ⟨hgap, hname⟩ := hw
      have hleaf := readLeaf_cell hname hrest.stops
      obtain ⟨c, t, rfl, hc, -⟩ := Coord.shape_of_ofChars? hname
      rw [List.cons_append] at hleaf
      rw [Wording.text, List.append_assoc, List.cons_append,
        readOperand_leaf hgap (.inr (.inl hc))]
      exact hleaf
    | binary left gap op right =>
      have := hw.1
      have := op.level_le
      omega
    | signed gap sign operand =>
      obtain ⟨hgap, hoperand⟩ := hw
      simp only [Wording.text, List.length_append, List.length_cons] at hbound
      have hcomplete : Complete 2 operand.text.length (readOperand n) := ih (by omega)
      have hread := hcomplete operand hoperand (Nat.le_refl _) rest hrest
      rw [Wording.text, List.append_assoc, List.cons_append]
      exact readOperand_signed hgap hread
    | group gap inner closing =>
      obtain ⟨hgap, hinner, hclosing⟩ := hw
      simp only [Wording.text, List.length_append, List.length_cons, List.length_nil] at hbound
      have hskip : skipGap (closing ++ ')' :: rest) = ')' :: rest := skipGap_run hclosing rfl
      have hends : Ends 0 (closing ++ ')' :: rest) := by
        refine ⟨stops_joins_gap hclosing rfl, fun op t ht => ?_⟩
        rw [hskip] at ht
        cases op <;> exact absurd (List.cons.inj ht).1 (by decide)
      have hcomplete : Complete 2 inner.text.length (readOperand n) := ih (by omega)
      have hread := readSum_complete (readOperand_sound n) hcomplete inner hinner (Nat.le_refl _)
        (closing ++ ')' :: rest) hends
      rw [hskip] at hread
      rw [Wording.text, List.append_assoc, List.cons_append, readOperand,
        skipGap_run hgap (s := '(' :: _) rfl]
      simp only [List.append_assoc, List.cons_append, List.nil_append, hread, Wording.tree]

/-- The text behind the one equals sign that the reader passes over. -/
def body : List Char → List Char
  | '=' :: rest => rest
  | s => s

/-- Characters that begin the first token of a formula. -/
def begins (c : Char) : Bool :=
  c.isDigit || c.isUpper || c == '.' || c == '+' || c == '-' || c == '('

theorem isBlank_of_begins {c : Char} (h : begins c = true) : Text.isBlank c = false := by
  rw [Bool.eq_false_iff]
  intro hblank
  have hword := Text.isWord_of_isBlank hblank
  simp only [begins, Bool.or_eq_true, beq_iff_eq] at h
  rcases h with ((((h | h) | rfl) | rfl) | rfl) | rfl
  · rw [Text.isWord_of_isDigit h] at hword
    simp at hword
  · rw [Text.isWord_of_isUpper h] at hword
    simp at hword
  all_goals exact absurd hblank (by decide)

/-- The first token of a wording. -/
theorem exists_first {level : Nat} {w : Wording} (hw : w.Fits level) :
    ∃ g c t, IsGap g ∧ begins c = true ∧ w.text = g ++ c :: t := by
  induction w generalizing level with
  | number gap spelling =>
    obtain ⟨c, t, htext, hc⟩ := spelling_head hw.2
    refine ⟨gap, c, t, hw.1, ?_, by rw [Wording.text, htext]⟩
    rcases hc with hc | rfl
    · simp [begins, hc]
    · rfl
  | cell gap name place =>
    obtain ⟨c, t, rfl, hc, -⟩ := Coord.shape_of_ofChars? hw.2
    exact ⟨gap, c, t, hw.1, by simp [begins, hc], rfl⟩
  | binary left gap op right ihl ihr =>
    obtain ⟨g, c, t, hg, hc, htext⟩ := ihl hw.2.1
    exact ⟨g, c, t ++ (gap ++ op.symbol :: right.text), hg, hc, by simp [Wording.text, htext]⟩
  | signed gap sign operand ih =>
    exact ⟨gap, sign.symbol, operand.text, hw.1, by cases sign <;> rfl, rfl⟩
  | group gap inner closing ih => exact ⟨gap, '(', _, hw.1, rfl, rfl⟩

theorem not_isBlank_text {level : Nat} {w : Wording} (hw : w.Fits level) (t : List Char) :
    ¬IsBlank (w.text ++ t) := by
  intro h
  obtain ⟨g, c, u, -, hc, htext⟩ := exists_first hw
  have hblank := h c (by simp [htext])
  rw [isBlank_of_begins hc] at hblank
  simp at hblank

theorem body_text {level : Nat} {w : Wording} (hw : w.Fits level) (t : List Char) :
    body (w.text ++ t) = w.text ++ t := by
  obtain ⟨g, c, u, hg, hc, htext⟩ := exists_first hw
  unfold body
  split
  · rename_i rest h
    rw [htext] at h
    cases g with
    | nil =>
      obtain rfl : c = '=' := (List.cons.inj h).1
      exact absurd hc (by decide)
    | cons d g =>
      obtain rfl : d = '=' := (List.cons.inj h).1
      exact absurd (hg '=' (by simp)) (by decide)
  · rfl

/-- In front of its body a text has an equals sign at most. -/
theorem eq_body_or (text : List Char) : text = body text ∨ text = '=' :: body text := by
  unfold body
  split
  · exact .inr rfl
  · exact .inl rfl

/-- Reading a text behind the equals sign that is passed over. -/
def readBody (s : List Char) : Except Refusal Expr :=
  if Text.trim s = [] then .error ⟨"Empty expression", 0⟩
  else if deepestNesting < nesting s then
    .error ⟨"Expression nested deeper than " ++ toString deepestNesting, 0⟩
  else
    match readSum (readOperand (s.length + 1)) s with
    | .error rest => .error (unexpected s rest)
    | .ok (e, rest) =>
      if Text.trim rest = [] then .ok e else .error (unexpected s (Text.trimStart rest))

theorem read_body (text : List Char) : read text = readBody (body text) := rfl

/-- The texts that are read are those of wordings with blanks behind them, nested not too deep. -/
theorem read_eq_ok_iff {text : List Char} {e : Expr} :
    read text = .ok e ↔ nesting (body text) ≤ deepestNesting ∧
      ∃ (w : Wording) (b : List Char), w.Fits 0 ∧ w.tree = e ∧ IsBlank b ∧
        body text = w.text ++ b := by
  constructor
  · intro h
    rw [read_body, readBody] at h
    split at h
    · simp at h
    · split at h
      · simp at h
      · rename_i hdeep
        refine ⟨Nat.le_of_not_lt hdeep, ?_⟩
        split at h
        · simp at h
        · rename_i e' rest hsum
          split at h
          · rename_i hblank
            obtain ⟨w, gap, hw, htree, hgap, htext⟩ := readSum_sound (readOperand_sound _) _ _ _ hsum
            refine ⟨w, gap ++ rest, hw, by rw [htree, Except.ok.inj h], ?_, htext⟩
            intro c hc
            rcases List.mem_append.mp hc with hc | hc
            · exact isBlank_of_isGap (hgap c hc)
            · exact Text.trim_eq_nil_iff.mp hblank c hc
          · simp at h
  · rintro ⟨hdeep, w, b, hw, rfl, hb, htext⟩
    have hskip : IsBlank (skipGap b) := fun c hc => hb c ((List.dropWhile_sublist _).mem hc)
    have hends : Ends 0 b := by
      refine ⟨?_, fun op t ht => ?_⟩
      · cases b with
        | nil => trivial
        | cons c b => exact joins_of_isBlank (hb c (by simp))
      · have hop := hskip op.symbol (by simp [ht])
        cases op <;> exact absurd hop (by decide)
    have hcomplete : Complete 2 (body text).length (readOperand ((body text).length + 1)) :=
      readOperand_complete (Nat.lt_succ_self _)
    have hsum := readSum_complete (readOperand_sound ((body text).length + 1)) hcomplete w hw
      (by rw [htext, List.length_append]; omega) b hends
    rw [← htext] at hsum
    have hne : Text.trim (body text) ≠ [] := by
      rw [Ne, Text.trim_eq_nil_iff, htext]
      exact not_isBlank_text hw b
    rw [read_body, readBody, if_neg hne, if_neg (Nat.not_lt.mpr hdeep), hsum]
    simp only [Text.trim_eq_nil_iff.mpr hskip, ↓reduceIte]

end Gridbook.Formula
