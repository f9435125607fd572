import Gridbook.Json.Reader
import Gridbook.Json.Writer
import Gridbook.Proofs.Spelling

/-!
# Written JSON is read back

A tree whose texts are texts and whose numbers are spelled as JSON has them is what its
own text is read as. A reader takes what was written and leaves the rest, whatever the
rest is, except that behind a number no character may follow that could go on with it.
-/
namespace Gridbook

open Text (Stops hexDigit hexDigit?)

theorem Text.hexDigit?_hexDigit {n : Nat} (h : n < 16) : hexDigit? (hexDigit n) = some n := by
  have all : ∀ n < 16, hexDigit? (hexDigit n) = some n := by decide
  exact all n h

/-- The digits of a positive number begin with no zero. -/
theorem Decimal.head?_toDigits {n : Nat} (h : 0 < n) :
    (Nat.toDigits 10 n).head? ≠ some '0' := by
  induction n using Nat.strongRecOn with
  | ind n ih =>
    by_cases hn : n < 10
    · rw [Nat.toDigits_of_lt_base hn]
      intro hzero
      have hnat := congrArg Char.toNat (Option.some.inj hzero)
      rw [Nat.toNat_digitChar_of_lt_ten hn] at hnat
      have hchar : '0'.toNat = 48 := rfl
      omega
    · have hfront := ih (n / 10) (by omega) (by omega)
      obtain ⟨d, ds, hds⟩ := List.exists_cons_of_ne_nil (Nat.toDigits_ne_nil (b := 10) (n := n / 10))
      rw [hds] at hfront
      rw [Nat.toDigits_of_base_le (by decide) (by omega), hds]
      exact hfront

namespace Json

/-- An escape below the surrogates is a character, whatever follows. -/
theorem joinUnits_unit {n : Nat} (hn : n < 0xD800) (units : List Unit16) :
    joinUnits (.unit n :: units) = (joinUnits units).map (Char.ofNat n :: ·) := by
  have hhigh : ¬ (0xD800 ≤ n ∧ n < 0xDC00) := by omega
  have hlow : ¬ (0xDC00 ≤ n ∧ n < 0xE000) := by omega
  have hpair : ¬ (0xD800 ≤ n ∧ n < 0xE000) := by omega
  cases units with
  | nil => simp [joinUnits, hpair]
  | cons u units =>
    cases u with
    | char c => simp [joinUnits, hpair]
    | unit low => rw [joinUnits, if_neg hhigh, if_neg hlow]

theorem hexUnit?_control {n : Nat} (hn : n < 0x20) :
    hexUnit? '0' '0' (hexDigit (n / 16)) (hexDigit (n % 16)) = some n := by
  have hzero : hexDigit? '0' = some 0 := by decide
  rw [hexUnit?, hzero, Text.hexDigit?_hexDigit (show n / 16 < 16 by omega),
    Text.hexDigit?_hexDigit (Nat.mod_lt n (by decide))]
  simp only [Option.some.injEq]
  omega

/-- A written character is read as one part of a string, which stands for it. -/
theorem exists_readUnits_writeChar (c : Char) :
    ∃ u, (∀ rest, readUnits (writeChar c ++ rest) =
        (readUnits rest).map fun (units, rest) => (u :: units, rest)) ∧
      ∀ units, joinUnits (u :: units) = (joinUnits units).map (c :: ·) := by
  have escape {e c : Char} (he : e ≠ 'u') (hc : escaped? e = some c) :
      ∃ u, (∀ rest, readUnits (['\\', e] ++ rest) =
          (readUnits rest).map fun (units, rest) => (u :: units, rest)) ∧
        ∀ units, joinUnits (u :: units) = (joinUnits units).map (c :: ·) := by
    refine ⟨.char c, fun rest => ?_, fun units => by rw [joinUnits]⟩
    rw [List.cons_append, List.singleton_append, readUnits, hc]
    · cases readUnits rest <;> rfl
    · intros
      contradiction
  unfold writeChar
  split_ifs with hquote hslash hline hreturn htab hback hfeed hcontrol
  · subst hquote
    exact escape (by decide) rfl
  · subst hslash
    exact escape (by decide) rfl
  · subst hline
    exact escape (by decide) rfl
  · subst hreturn
    exact escape (by decide) rfl
  · subst htab
    exact escape (by decide) rfl
  · subst hback
    exact escape (by decide) rfl
  · subst hfeed
    exact escape (by decide) rfl
  · refine ⟨.unit c.toNat, fun rest => ?_, fun units => ?_⟩
    · simp only [List.cons_append, List.nil_append, readUnits, hexUnit?_control hcontrol]
      cases readUnits rest <;> rfl
    · rw [joinUnits_unit (by omega), Char.ofNat_toNat]
  · refine ⟨.char c, fun rest => ?_, fun units => by rw [joinUnits]⟩
    rw [List.singleton_append, readUnits]
    · simp [hslash, hcontrol]
    all_goals simp_all

theorem exists_readUnits (s rest : List Char) :
    ∃ units, readUnits (s.flatMap writeChar ++ '"' :: rest) = some (units, rest) ∧
      joinUnits units = some s := by
  induction s with
  | nil => exact ⟨[], by simp [readUnits], by simp [joinUnits]⟩
  | cons c s ih =>
    obtain ⟨units, hread, hjoin⟩ := ih
    obtain ⟨u, hreadChar, hjoinChar⟩ := exists_readUnits_writeChar c
    refine ⟨u :: units, ?_, by rw [hjoinChar, hjoin, Option.map_some]⟩
    rw [List.flatMap_cons, List.append_assoc, hreadChar, hread, Option.map_some]

/-- A written text is read without its first quote, as the text. -/
theorem exists_readString (s : String) : ∃ body, writeString s = '"' :: body ∧
    ∀ rest, readString (body ++ rest) = some (some s, rest) := by
  refine ⟨_, rfl, fun rest => ?_⟩
  obtain ⟨units, hread, hjoin⟩ := exists_readUnits s.toList rest
  rw [List.append_assoc, List.singleton_append, readString, hread]
  simp [hjoin]

/-- A number is spelled as JSON has it. -/
structure Literal.Valid (l : Literal) : Prop where
  whole : ∀ c ∈ l.whole, c.isDigit = true
  whole_ne_nil : l.whole ≠ []
  /-- No zero stands in front of other digits. -/
  leading : ∀ ds, l.whole = '0' :: ds → ds = []
  fraction : ∀ c ∈ l.fraction, c.isDigit = true
  power : ∀ p ∈ l.power, p.2 ≠ [] ∧ ∀ c ∈ p.2, c.isDigit = true

namespace Literal

/-- The point and the digits after it, where there are any. -/
def places (ds : List Char) : List Char := if ds = [] then [] else '.' :: ds

/-- The power of ten, where there is one. -/
def raised : Option (Bool × List Char) → List Char
  | none => []
  | some (negative, ds) => 'e' :: (if negative then '-' else '+') :: ds

theorem stops_raised (p : Option (Bool × List Char)) {rest : List Char}
    (h : Stops Decimal.goesOn rest) :
    Stops Char.isDigit (raised p ++ rest) ∧ Stops (· == '.') (raised p ++ rest) := by
  cases p with
  | none =>
    refine ⟨Decimal.stops_digit_of_goesOn h, ?_⟩
    cases rest with
    | nil => trivial
    | cons c rest =>
      simp only [Text.stops_cons, Decimal.goesOn, Bool.or_eq_false_iff] at h
      exact h.1.1.2
  | some p => exact ⟨rfl, rfl⟩

theorem stops_places (ds : List Char) {rest : List Char} (h : Stops Char.isDigit rest) :
    Stops Char.isDigit (places ds ++ rest) := by
  cases ds with
  | nil => exact h
  | cons d ds => rfl

end Literal

theorem readPower_none {rest : List Char} (h : Stops Decimal.goesOn rest) :
    readPower rest = some (none, rest) := by
  cases rest with
  | nil => rfl
  | cons c rest =>
    have hc : (c == 'e') = false ∧ (c == 'E') = false := by
      simp only [Text.stops_cons, Decimal.goesOn, Bool.or_eq_false_iff] at h
      exact ⟨h.1.2, h.2⟩
    simp [readPower, hc]

theorem readPower_some {negative : Bool} {ds rest : List Char} (hne : ds ≠ [])
    (hds : ∀ c ∈ ds, c.isDigit = true) (h : Stops Decimal.goesOn rest) :
    readPower ('e' :: (if negative then '-' else '+') :: (ds ++ rest)) =
      some (some (negative, ds), rest) := by
  have hspan := Decimal.spanDigits_run hds (Decimal.stops_digit_of_goesOn h)
  obtain ⟨d, ds, rfl⟩ := List.exists_cons_of_ne_nil hne
  have hmark : ('e' == 'e' || 'e' == 'E') = true := rfl
  cases negative with
  | false =>
    change readPower ('e' :: '+' :: (d :: ds ++ rest)) = _
    simp only [readPower, hmark, if_true, hspan]
  | true =>
    change readPower ('e' :: '-' :: (d :: ds ++ rest)) = _
    simp only [readPower, hmark, if_true, hspan]

theorem readPower_write {p : Option (Bool × List Char)} {rest : List Char}
    (hp : ∀ q ∈ p, q.2 ≠ [] ∧ ∀ c ∈ q.2, c.isDigit = true) (h : Stops Decimal.goesOn rest) :
    readPower (Literal.raised p ++ rest) = some (p, rest) := by
  cases p with
  | none => exact readPower_none h
  | some q =>
    obtain ⟨negative, ds⟩ := q
    obtain ⟨hne, hds⟩ := hp _ rfl
    exact readPower_some hne hds h

theorem readFraction_write {ds rest : List Char} (hds : ∀ c ∈ ds, c.isDigit = true)
    (hdigit : Stops Char.isDigit rest) (hpoint : Stops (· == '.') rest) :
    readFraction (Literal.places ds ++ rest) = some (ds, rest) := by
  cases ds with
  | nil =>
    cases rest with
    | nil => rfl
    | cons c rest =>
      have hc : c ≠ '.' := by simpa using hpoint
      simp [Literal.places, readFraction, hc]
  | cons d ds =>
    have hspan := Decimal.spanDigits_run hds hdigit
    change readFraction ('.' :: (d :: ds ++ rest)) = _
    simp only [readFraction, hspan]

theorem readLiteral_write {l : Literal} (hl : l.Valid) {rest : List Char}
    (h : Stops Decimal.goesOn rest) : readLiteral (l.write ++ rest) = some (l, rest) := by
  obtain ⟨hdigit, hpoint⟩ := Literal.stops_raised l.power h
  have hplaces := readFraction_write hl.fraction hdigit hpoint
  have hraised := readPower_write hl.power h
  have hspan := Decimal.spanDigits_run hl.whole (Literal.stops_places l.fraction hdigit)
  have htext : l.write ++ rest = (if l.negative then ['-'] else []) ++
      (l.whole ++ (Literal.places l.fraction ++ (Literal.raised l.power ++ rest))) := by
    simp only [Literal.write, List.append_assoc]
    rfl
  rw [htext]
  unfold readLiteral
  split
  rename_i negative digits hsign
  have hcut : (negative, digits) = (l.negative,
      l.whole ++ (Literal.places l.fraction ++ (Literal.raised l.power ++ rest))) := by
    rw [← hsign]
    cases l.negative with
    | true => rfl
    | false =>
      obtain ⟨d, ds, hwhole⟩ := List.exists_cons_of_ne_nil hl.whole_ne_nil
      have hminus : d ≠ '-' := by
        rintro rfl
        exact absurd (hl.whole '-' (by simp [hwhole])) (by decide)
      rw [hwhole]
      split
      · simp_all
      · rfl
  obtain ⟨rfl, rfl⟩ := Prod.mk.inj hcut
  rw [hspan]
  split
  · rename_i hnil
    exact absurd (congrArg Prod.fst hnil) hl.whole_ne_nil
  · rename_i hzero
    exact absurd (hl.leading _ (congrArg Prod.fst hzero)) (List.cons_ne_nil _ _)
  · rename_i hwhole
    obtain ⟨rfl, rfl⟩ := Prod.mk.inj hwhole
    simp only [hplaces, hraised, Option.map_some]

theorem Literal.valid_ofNat (n : Nat) : (ofNat n).Valid where
  whole _ hc := Nat.isDigit_of_mem_toDigits (by decide) (by decide) hc
  whole_ne_nil := Nat.toDigits_ne_nil
  leading ds h := by
    rcases Nat.eq_zero_or_pos n with rfl | hn
    · exact (List.cons.inj (h.symm.trans (Nat.toDigits_zero 10))).2
    · exact absurd (congrArg List.head? h) (Decimal.head?_toDigits hn)
  fraction _ hc := absurd hc List.not_mem_nil
  power _ hp := absurd hp (Option.not_mem_none _)

/-- All texts in the tree are texts, and its numbers are spelled as JSON has them. -/
inductive Spelled : Json → Prop where
  | null : Spelled .null
  | bool (b : Bool) : Spelled (.bool b)
  | number {l : Literal} (h : l.Valid) : Spelled (.number l)
  | text (s : String) : Spelled (.string (some s))
  | array {items : List Json} (h : ∀ j ∈ items, Spelled j) : Spelled (.array items)
  | object {fields : List (Option String × Json)} (hnames : ∀ f ∈ fields, ∃ s, f.1 = some s)
      (h : ∀ f ∈ fields, Spelled f.2) : Spelled (.object fields)

/-- A number begins with its sign or with a digit. -/
theorem Literal.exists_write {l : Literal} (hl : l.Valid) :
    ∃ c s, l.write = c :: s ∧ (c = '-' ∨ c.isDigit = true) := by
  obtain ⟨d, ds, hwhole⟩ := List.exists_cons_of_ne_nil hl.whole_ne_nil
  have hd : d.isDigit = true := hl.whole d (by simp [hwhole])
  rw [write, hwhole]
  cases l.negative with
  | true => exact ⟨'-', _, rfl, .inl rfl⟩
  | false => exact ⟨d, _, rfl, .inr hd⟩

/-- Characters with which no value begins. -/
def delimits (c : Char) : Bool := isSpace c || c == ']'

/-- A written tree begins with no blank and no closing bracket. -/
theorem exists_writeChars {j : Json} (hj : j.Spelled) :
    ∃ c s, j.writeChars = c :: s ∧ delimits c = false := by
  cases hj with
  | null => exact ⟨'n', _, rfl, rfl⟩
  | bool b => cases b <;> exact ⟨_, _, rfl, rfl⟩
  | number h =>
    obtain ⟨c, s, hwrite, hc⟩ := Literal.exists_write h
    refine ⟨c, s, hwrite, ?_⟩
    rcases hc with rfl | hc
    · rfl
    · rw [Bool.eq_false_iff]
      intro hdelimits
      simp only [delimits, isSpace, Bool.or_eq_true, beq_iff_eq] at hdelimits
      rcases hdelimits with (((rfl | rfl) | rfl) | rfl) | rfl <;> exact absurd hc (by decide)
  | text s => exact ⟨'"', _, rfl, rfl⟩
  | array h => exact ⟨'[', _, rfl, rfl⟩
  | object hnames h => exact ⟨'\x7b', _, rfl, rfl⟩

theorem skip_of_delimits {c : Char} (hc : delimits c = false) (s : List Char) :
    skip (c :: s) = c :: s := by
  rw [delimits, Bool.or_eq_false_iff] at hc
  exact List.dropWhile_cons_of_neg (by simp [hc.1])

/-- What a reader of values has to do with the texts of some trees. -/
def Reads (value : List Char → Option (Json × List Char)) (j : Json) : Prop :=
  ∀ rest, Stops Decimal.goesOn rest → value (j.writeChars ++ rest) = some (j, rest)

theorem readItems_write {value : List Char → Option (Json × List Char)} {items : List Json}
    (hne : items ≠ []) (hitems : ∀ j ∈ items, Reads value j) {n : Nat} (hn : items.length ≤ n)
    (rest : List Char) :
    readItems value n (writeItems items ++ ']' :: rest) = some (items, rest) := by
  induction items generalizing n with
  | nil => exact absurd rfl hne
  | cons j items ih =>
    obtain ⟨n, rfl⟩ : ∃ k, n = k + 1 := ⟨n - 1, by simp at hn; omega⟩
    have hj := hitems j (by simp)
    cases items with
    | nil =>
      have hread := hj (']' :: rest) rfl
      have hskip : skip (']' :: rest) = ']' :: rest := rfl
      simp only [writeItems, readItems, hread, hskip]
    | cons k items =>
      have hread := hj (',' :: (writeItems (k :: items) ++ ']' :: rest)) rfl
      have hrest := ih (List.cons_ne_nil _ _) (fun i hi => hitems i (List.mem_cons_of_mem _ hi))
        (Nat.le_of_succ_le_succ hn)
      have hskip (t : List Char) : skip (',' :: t) = ',' :: t := rfl
      simp only [writeItems, List.append_assoc, List.cons_append, readItems] at hrest ⊢
      simp only [hread, hskip, hrest, Option.map_some]

theorem readFields_write {value : List Char → Option (Json × List Char)}
    {fields : List (Option String × Json)} (hne : fields ≠ [])
    (hnames : ∀ f ∈ fields, ∃ s, f.1 = some s) (hfields : ∀ f ∈ fields, Reads value f.2) {n : Nat}
    (hn : fields.length ≤ n) (rest : List Char) :
    readFields value n (writeFields fields ++ '\x7d' :: rest) = some (fields, rest) := by
  induction fields generalizing n with
  | nil => exact absurd rfl hne
  | cons f fields ih =>
    obtain ⟨n, rfl⟩ : ∃ k, n = k + 1 := ⟨n - 1, by simp at hn; omega⟩
    obtain ⟨name, j⟩ := f
    obtain ⟨name, rfl⟩ : ∃ s, name = some s := hnames (name, j) (by simp)
    obtain ⟨body, hbody, hname⟩ := exists_readString name
    have hj : Reads value j := hfields (some name, j) (by simp)
    have hquote (t : List Char) : skip ('"' :: t) = '"' :: t := rfl
    have hcolon (t : List Char) : skip (':' :: t) = ':' :: t := rfl
    cases fields with
    | nil =>
      have hread := hj ('\x7d' :: rest) rfl
      have hskip : skip ('\x7d' :: rest) = '\x7d' :: rest := rfl
      simp only [writeFields, writeText, Option.getD_some, hbody, List.append_assoc,
        List.cons_append, readFields, hquote, hname, hcolon, hread, hskip]
    | cons g fields =>
      have hread := hj (',' :: (writeFields (g :: fields) ++ '\x7d' :: rest)) rfl
      have hrest := ih (List.cons_ne_nil _ _) (fun f hf => hnames f (List.mem_cons_of_mem _ hf))
        (fun f hf => hfields f (List.mem_cons_of_mem _ hf)) (Nat.le_of_succ_le_succ hn)
      have hskip (t : List Char) : skip (',' :: t) = ',' :: t := rfl
      simp only [writeFields, writeText, Option.getD_some, hbody, List.append_assoc,
        List.cons_append, readFields, hquote, hname, hcolon, hread, hskip, hrest, Option.map_some]

theorem length_writeItems_le (items : List Json) :
    items.length ≤ (writeItems items).length + 1 ∧
      ∀ j ∈ items, j.writeChars.length ≤ (writeItems items).length := by
  induction items with
  | nil => simp
  | cons j items ih =>
    cases items with
    | nil => simp [writeItems]
    | cons k items =>
      obtain ⟨hlength, hmem⟩ := ih
      simp only [writeItems, List.length_append, List.length_cons, List.mem_cons] at hlength hmem ⊢
      refine ⟨by omega, fun i hi => ?_⟩
      rcases hi with rfl | hi
      · omega
      · have := hmem i hi
        omega

theorem length_writeFields_le (fields : List (Option String × Json)) :
    fields.length ≤ (writeFields fields).length + 1 ∧
      ∀ f ∈ fields, f.2.writeChars.length ≤ (writeFields fields).length := by
  induction fields with
  | nil => simp
  | cons f fields ih =>
    cases fields with
    | nil =>
      simp only [writeFields, List.length_append, List.length_cons, List.length_nil,
        List.mem_singleton, forall_eq]
      omega
    | cons g fields =>
      obtain ⟨hlength, hmem⟩ := ih
      simp only [writeFields, List.length_append, List.length_cons, List.mem_cons] at hlength hmem ⊢
      refine ⟨by omega, fun i hi => ?_⟩
      rcases hi with rfl | hi
      · omega
      · have := hmem i hi
        omega

/-- With these characters something else than a number begins. -/
def opensOther (c : Char) : Bool := ['n', 't', 'f', '"', '[', '\x7b'].contains c

theorem readValue_literal {c : Char} {s : List Char} (hskip : skip (c :: s) = c :: s)
    (hc : opensOther c = false) (n : Nat) :
    readValue (n + 1) (c :: s) = (readLiteral (c :: s)).map fun (l, rest) => (.number l, rest) := by
  rw [readValue, hskip]
  split
  case h_7 => rfl
  all_goals
    rename_i heq
    obtain ⟨rfl, -⟩ := List.cons.inj heq
    exact absurd hc (by decide)

theorem reads_number {l : Literal} (hl : l.Valid) (n : Nat) :
    Reads (readValue (n + 1)) (.number l) := by
  intro rest h
  obtain ⟨c, s, hwrite, hc⟩ := Literal.exists_write hl
  obtain ⟨d, t, hchars, hdelimits⟩ := exists_writeChars (.number hl)
  obtain ⟨rfl, rfl⟩ := List.cons.inj (hchars.symm.trans hwrite)
  have hother : opensOther d = false := by
    rcases hc with rfl | hc
    · rfl
    · rw [Bool.eq_false_iff]
      intro hopens
      simp only [opensOther, List.contains_iff_mem, List.mem_cons, List.not_mem_nil, or_false]
        at hopens
      rcases hopens with rfl | rfl | rfl | rfl | rfl | rfl <;> exact absurd hc (by decide)
  have hread := readLiteral_write hl h
  rw [hwrite, List.cons_append] at hread
  rw [hchars, List.cons_append, readValue_literal (skip_of_delimits hdelimits _) hother, hread,
    Option.map_some]

theorem reads_text (s : String) (n : Nat) : Reads (readValue (n + 1)) (.string (some s)) := by
  intro rest _
  obtain ⟨body, hbody, hread⟩ := exists_readString s
  have hskip (t : List Char) : skip ('"' :: t) = '"' :: t := rfl
  simp only [writeChars, writeText, Option.getD_some, hbody, List.cons_append, readValue, hskip,
    hread, Option.map_some]

theorem reads_array {items : List Json} (hspelled : ∀ j ∈ items, j.Spelled) {n : Nat}
    (hitems : ∀ j ∈ items, Reads (readValue n) j) :
    Reads (readValue (n + 1)) (.array items) := by
  intro rest _
  have hopen (t : List Char) : skip ('[' :: t) = '[' :: t := rfl
  cases items with
  | nil => rfl
  | cons j items =>
    obtain ⟨c, s, hchars, hc⟩ := exists_writeChars (hspelled j (by simp))
    obtain ⟨t, htext⟩ : ∃ t, writeItems (j :: items) ++ ']' :: rest = c :: t := by
      cases items <;> simp only [writeItems, hchars, List.cons_append] <;> exact ⟨_, rfl⟩
    have hroom : (j :: items).length ≤ (c :: t).length + 1 := by
      have hlength := (length_writeItems_le (j :: items)).1
      rw [← htext, List.length_append]
      omega
    have hread := readItems_write (List.cons_ne_nil j items) hitems hroom rest
    rw [htext] at hread
    have hbracket : c ≠ ']' := by
      rintro rfl
      exact absurd hc (by decide)
    simp only [writeChars, List.cons_append, List.append_assoc, List.nil_append, readValue, hopen,
      htext, skip_of_delimits hc]
    split
    · rename_i heq
      exact absurd (List.cons.inj heq).1 hbracket
    · rw [hread, Option.map_some]

theorem reads_object {fields : List (Option String × Json)}
    (hnames : ∀ f ∈ fields, ∃ s, f.1 = some s) {n : Nat}
    (hfields : ∀ f ∈ fields, Reads (readValue n) f.2) :
    Reads (readValue (n + 1)) (.object fields) := by
  intro rest _
  have hopen (t : List Char) : skip ('\x7b' :: t) = '\x7b' :: t := rfl
  cases fields with
  | nil => rfl
  | cons f fields =>
    obtain ⟨t, htext⟩ : ∃ t, writeFields (f :: fields) ++ '\x7d' :: rest = '"' :: t := by
      cases fields <;> exact ⟨_, rfl⟩
    have hquote : skip ('"' :: t) = '"' :: t := rfl
    have hroom : (f :: fields).length ≤ ('"' :: t).length + 1 := by
      have hlength := (length_writeFields_le (f :: fields)).1
      rw [← htext, List.length_append]
      omega
    have hread := readFields_write (List.cons_ne_nil f fields) hnames hfields hroom rest
    rw [htext] at hread
    simp only [writeChars, List.cons_append, List.append_assoc, List.nil_append, readValue, hopen,
      htext, hquote]
    split
    · rename_i heq
      exact absurd (List.cons.inj heq).1 (by decide)
    · rw [hread, Option.map_some]

/-- A reader with room for the length of the text reads what is written. -/
theorem reads_written {j : Json} (hj : j.Spelled) {n : Nat} (hn : j.writeChars.length ≤ n) :
    Reads (readValue (n + 1)) j := by
  induction hj generalizing n with
  | null => exact fun rest _ => rfl
  | bool b => cases b <;> exact fun rest _ => rfl
  | number hl => exact reads_number hl n
  | text s => exact reads_text s n
  | array h ih =>
    simp only [writeChars, List.length_cons, List.length_append] at hn
    obtain ⟨n, rfl⟩ : ∃ k, n = k + 1 := ⟨n - 1, by omega⟩
    refine reads_array h fun j hj => ih j hj ?_
    have hlength := (length_writeItems_le _).2 j hj
    omega
  | object hnames h ih =>
    simp only [writeChars, List.length_cons, List.length_append] at hn
    obtain ⟨n, rfl⟩ : ∃ k, n = k + 1 := ⟨n - 1, by omega⟩
    refine reads_object hnames fun f hf => ih f hf ?_
    have hlength := (length_writeFields_le _).2 f hf
    omega

/-- What is written is read back. -/
theorem read?_write {j : Json} (hj : j.Spelled) : read? j.write = some j := by
  have hread := reads_written hj (Nat.le_refl _) [] trivial
  rw [List.append_nil] at hread
  have hskip : skip [] = [] := rfl
  simp only [read?, write, String.toList_ofList, hread, hskip, if_true]

end Json

end Gridbook
