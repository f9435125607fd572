import Gridbook.Proofs.Characters

/-!
# Trimming

A text is what is left when it is trimmed, among blanks. What is left neither begins
nor ends with a blank, and this is all that there is to say about trimming.
-/
namespace Gridbook.Text

/-- Blanks only. -/
def IsBlank (s : List Char) : Prop := ∀ c ∈ s, isBlank c = true

theorem isBlank_nil : IsBlank [] := by simp [IsBlank]

theorem isBlank_append {a b : List Char} (ha : IsBlank a) (hb : IsBlank b) : IsBlank (a ++ b) := by
  intro c hc
  rcases List.mem_append.mp hc with hc | hc
  · exact ha c hc
  · exact hb c hc

theorem not_mem_of_isBlank {b : List Char} (hb : IsBlank b) {c : Char}
    (hc : isBlank c = false) : c ∉ b := by
  intro hmem
  rw [hb c hmem] at hc
  simp at hc

theorem trimStart_append {a : List Char} (ha : IsBlank a) (s : List Char) :
    trimStart (a ++ s) = trimStart s := List.dropWhile_append_of_pos ha

theorem trim_framed {a s b : List Char} (ha : IsBlank a) (hb : IsBlank b)
    (hfirst : Stops isBlank s) (hlast : Stops isBlank s.reverse) : trim (a ++ (s ++ b)) = s := by
  have hstart : trimStart (a ++ (s ++ b)) = trimStart (s ++ b) := trimStart_append ha _
  rw [trim, hstart]
  cases s with
  | nil =>
    have hnil : trimStart ([] ++ b) = [] := List.dropWhile_eq_nil_iff.mpr hb
    rw [hnil]
    rfl
  | cons c s =>
    have hkept : trimStart (c :: s ++ b) = c :: s ++ b := dropWhile_of_stops hfirst
    have hend : (b.reverse ++ (c :: s).reverse).dropWhile isBlank = (c :: s).reverse :=
      dropWhile_run (fun d hd => hb d (List.mem_reverse.mp hd)) hlast
    rw [hkept, trimEnd, List.reverse_append, hend, List.reverse_reverse]

/-- A text is what is left when it is trimmed, among blanks. -/
theorem exists_frame (s : List Char) : ∃ a b, IsBlank a ∧ IsBlank b ∧ s = a ++ (trim s ++ b) ∧
    Stops isBlank (trim s) ∧ Stops isBlank (trim s).reverse := by
  obtain ⟨a, t, rfl, ha, ht⟩ := exists_run isBlank s
  obtain ⟨b, u, hu, hb, hstop⟩ := exists_run isBlank t.reverse
  have htext : t = u.reverse ++ b.reverse := by
    rw [← List.reverse_append, ← hu, List.reverse_reverse]
  have hb : IsBlank b.reverse := fun c hc => hb c (List.mem_reverse.mp hc)
  have hfirst : Stops isBlank u.reverse := by
    cases hr : u.reverse with
    | nil => trivial
    | cons c r =>
      rw [htext, hr] at ht
      exact ht
  have htrim : trim (a ++ t) = u.reverse := by
    rw [htext]
    exact trim_framed ha hb hfirst (by rwa [List.reverse_reverse])
  rw [htrim, List.reverse_reverse]
  exact ⟨a, b.reverse, ha, hb, by rw [htext], hfirst, hstop⟩

theorem trim_blank_append {a : List Char} (ha : IsBlank a) (s : List Char) :
    trim (a ++ s) = trim s := by
  rw [trim, trimStart_append ha, trim]

theorem trim_append_blank {b : List Char} (hb : IsBlank b) (s : List Char) :
    trim (s ++ b) = trim s := by
  obtain ⟨a, b', ha, hb', hs, hfirst, hlast⟩ := exists_frame s
  have htext : s ++ b = a ++ (trim s ++ (b' ++ b)) := by
    conv_lhs => rw [hs]
    simp only [List.append_assoc]
  rw [htext, trim_framed ha (isBlank_append hb' hb) hfirst hlast]

/-- A text without blanks has none to be trimmed. -/
theorem trim_of_forall {s : List Char} (h : ∀ c ∈ s, isBlank c = false) : trim s = s := by
  have hstops : ∀ t : List Char, (∀ c ∈ t, c ∈ s) → Stops isBlank t := by
    intro t ht
    cases t with
    | nil => trivial
    | cons c t => exact h c (ht c (by simp))
  have htrim := trim_framed isBlank_nil isBlank_nil
    (hstops s fun _ hc => hc) (hstops s.reverse fun _ hc => List.mem_reverse.mp hc)
  rwa [List.nil_append, List.append_nil] at htrim

/-- Words have no blanks to be trimmed. -/
theorem trim_of_isWord {s : List Char} (h : ∀ c ∈ s, isWord c = true) : trim s = s := by
  refine trim_of_forall fun c hc => ?_
  rw [Bool.eq_false_iff]
  intro hb
  have hword := h c hc
  rw [isWord_of_isBlank hb] at hword
  simp at hword

@[simp] theorem trim_trim (s : List Char) : trim (trim s) = trim s := by
  obtain ⟨a, b, -, -, -, hfirst, hlast⟩ := exists_frame s
  have h := trim_framed isBlank_nil isBlank_nil hfirst hlast
  rwa [List.nil_append, List.append_nil] at h

theorem trim_eq_nil_iff {s : List Char} : trim s = [] ↔ IsBlank s := by
  constructor
  · intro h c hc
    rw [trim, trimEnd, List.reverse_eq_nil_iff, List.dropWhile_eq_nil_iff] at h
    by_cases hstart : trimStart s = []
    · exact (List.dropWhile_eq_nil_iff.mp hstart) c hc
    · obtain ⟨d, t, ht⟩ := List.exists_cons_of_ne_nil hstart
      have hd : isBlank d = true := h d (by simp [ht])
      have hstop : Stops isBlank (d :: t) := by
        rw [← ht]
        exact stops_dropWhile _ s
      rw [stops_cons, hd] at hstop
      simp at hstop
  · intro h
    have hstart : trimStart s = [] := List.dropWhile_eq_nil_iff.mpr h
    rw [trim, hstart]
    rfl

theorem mem_trimStart {c : Char} (hc : isBlank c = false) {s : List Char} (h : c ∈ s) :
    c ∈ trimStart s := by
  obtain ⟨a, t, rfl, ha, ht⟩ := exists_run isBlank s
  rw [trimStart, dropWhile_run ha ht]
  exact (List.mem_append.mp h).resolve_left (not_mem_of_isBlank ha hc)

theorem mem_trimEnd {c : Char} (hc : isBlank c = false) {s : List Char} (h : c ∈ s) :
    c ∈ trimEnd s := by
  rw [trimEnd, List.mem_reverse]
  exact mem_trimStart hc (List.mem_reverse.mpr h)

end Gridbook.Text
