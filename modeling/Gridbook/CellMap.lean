import Gridbook.Coord

/-!
# Values at cells

A map holds a value at finitely many cells, row by row. It is seen through
`get?`: two maps that agree there are equal, and each operation is described by
what it does to `get?`.
-/
namespace Gridbook

structure CellMap (α : Type) where
  entries : List (Coord × α)
  ordered : entries.Pairwise fun a b => a.1 < b.1

namespace CellMap

variable {α β : Type}

instance [DecidableEq α] : DecidableEq (CellMap α) := fun a b =>
  if h : a.entries = b.entries then isTrue (by cases a; cases b; simp_all)
  else isFalse fun hab => h (by rw [hab])

def empty : CellMap α := ⟨[], .nil⟩

instance : Inhabited (CellMap α) := ⟨empty⟩

/-- The value at a cell in a list of entries. -/
def lookup (c : Coord) : List (Coord × α) → Option α
  | [] => none
  | (d, a) :: rest => if d = c then some a else lookup c rest

def get? (m : CellMap α) (c : Coord) : Option α := lookup c m.entries

/-- Puts an entry in its place among ordered ones, instead of one at the same cell. -/
def put (c : Coord) (a : α) : List (Coord × α) → List (Coord × α)
  | [] => [(c, a)]
  | (d, b) :: rest =>
    if c < d then (c, a) :: (d, b) :: rest
    else if d < c then (d, b) :: put c a rest
    else (c, a) :: rest

theorem fst_mem_put {c : Coord} {a : α} {l : List (Coord × α)} {e : Coord × α}
    (h : e ∈ put c a l) : e = (c, a) ∨ e ∈ l := by
  induction l with
  | nil => simpa [put] using h
  | cons d rest ih =>
    simp only [put] at h
    split at h
    · simpa using h
    · split at h
      · rcases List.mem_cons.mp h with h | h
        · exact .inr (by simp [h])
        · exact (ih h).imp_right (List.mem_cons_of_mem _)
      · rcases List.mem_cons.mp h with h | h
        · exact .inl h
        · exact .inr (List.mem_cons_of_mem _ h)

theorem ordered_put {c : Coord} {a : α} {l : List (Coord × α)}
    (h : l.Pairwise fun a b => a.1 < b.1) : (put c a l).Pairwise fun a b => a.1 < b.1 := by
  induction l with
  | nil => simp [put]
  | cons d rest ih =>
    obtain ⟨d, b⟩ := d
    have hd := (List.pairwise_cons.mp h).1
    have hrest := List.Pairwise.of_cons h
    simp only [put]
    split
    · rename_i hcd
      refine List.Pairwise.cons ?_ h
      intro e he
      rcases List.mem_cons.mp he with rfl | he
      · exact hcd
      · exact Coord.lt_trans hcd (hd e he)
    · split
      · rename_i hdc
        refine List.Pairwise.cons ?_ (ih hrest)
        intro e he
        rcases fst_mem_put he with rfl | he
        · exact hdc
        · exact hd e he
      · rename_i h₁ h₂
        obtain rfl := Coord.eq_of_not_lt h₁ h₂
        exact List.Pairwise.cons hd hrest

def insert (m : CellMap α) (c : Coord) (a : α) : CellMap α :=
  ⟨put c a m.entries, ordered_put m.ordered⟩

def erase (m : CellMap α) (c : Coord) : CellMap α :=
  ⟨m.entries.filter fun e => e.1 ≠ c, m.ordered.filter _⟩

/-- The value at a cell, or no entry there. -/
def set (m : CellMap α) (c : Coord) : Option α → CellMap α
  | some a => m.insert c a
  | none => m.erase c

/-- The map of some entries; of several at one cell the last one counts. -/
def ofList (l : List (Coord × α)) : CellMap α := l.foldl (fun m e => m.insert e.1 e.2) empty

/-- The cells that have a value. -/
def cells (m : CellMap α) : List Coord := m.entries.map Prod.fst

def size (m : CellMap α) : Nat := m.entries.length

def isEmpty (m : CellMap α) : Bool := m.entries.isEmpty

/-- The same cells with other values. -/
def map (f : α → β) (m : CellMap α) : CellMap β where
  entries := m.entries.map fun e => (e.1, f e.2)
  ordered := by
    rw [List.pairwise_map]
    exact m.ordered

/-- Every value at the cell that its cell goes to; values that go nowhere are dropped. -/
def relocate (target : Coord → Option Coord) (m : CellMap α) : CellMap α :=
  ofList (m.entries.filterMap fun e => (target e.1).map fun c => (c, e.2))

@[simp] theorem get?_empty (c : Coord) : (empty : CellMap α).get? c = none := rfl

theorem lookup_eq_none {c : Coord} {l : List (Coord × α)} (h : ∀ e ∈ l, e.1 ≠ c) :
    lookup c l = none := by
  induction l with
  | nil => rfl
  | cons e rest ih =>
    obtain ⟨d, a⟩ := e
    simp only [lookup]
    rw [if_neg (h (d, a) (by simp)), ih fun e he => h e (List.mem_cons_of_mem _ he)]

theorem lookup_put {c d : Coord} {a : α} {l : List (Coord × α)}
    (h : l.Pairwise fun a b => a.1 < b.1) :
    lookup d (put c a l) = if c = d then some a else lookup d l := by
  induction l with
  | nil => simp [put, lookup]
  | cons e rest ih =>
    obtain ⟨e, b⟩ := e
    simp only [put]
    split
    · simp [lookup]
    · split
      · rename_i hec
        simp only [lookup, ih (List.Pairwise.of_cons h)]
        by_cases hcd : c = d
        · subst hcd
          have : e ≠ c := by rintro rfl; exact Coord.lt_irrefl _ hec
          simp [this]
        · simp [hcd]
      · rename_i h₁ h₂
        obtain rfl := Coord.eq_of_not_lt h₁ h₂
        simp only [lookup]
        split <;> rfl

theorem get?_insert (m : CellMap α) (c d : Coord) (a : α) :
    (m.insert c a).get? d = if c = d then some a else m.get? d :=
  lookup_put m.ordered

theorem get?_erase (m : CellMap α) (c d : Coord) :
    (m.erase c).get? d = if c = d then none else m.get? d := by
  obtain ⟨l, h⟩ := m
  simp only [erase, get?]
  clear h
  induction l with
  | nil => simp [lookup]
  | cons e rest ih =>
    obtain ⟨e, a⟩ := e
    simp only [List.filter_cons, lookup]
    by_cases hec : e = c
    · subst hec
      simp only [ne_eq, not_true_eq_false, decide_false, Bool.false_eq_true, ↓reduceIte, ih]
      split <;> simp_all
    · simp only [ne_eq, hec, not_false_eq_true, decide_true, ↓reduceIte, lookup, ih]
      by_cases hcd : c = d
      · subst hcd; simp [hec]
      · simp [hcd]

theorem get?_set (m : CellMap α) (c d : Coord) (a : Option α) :
    (m.set c a).get? d = if c = d then a else m.get? d := by
  cases a with
  | none => exact get?_erase m c d
  | some a => exact get?_insert m c d a

@[simp] theorem get?_map (f : α → β) (m : CellMap α) (c : Coord) :
    (m.map f).get? c = (m.get? c).map f := by
  obtain ⟨l, h⟩ := m
  simp only [map, get?]
  clear h
  induction l with
  | nil => rfl
  | cons e rest ih =>
    simp only [List.map_cons, lookup, ih]
    split <;> rfl

theorem lookup_eq_some_iff {l : List (Coord × α)} (h : l.Pairwise fun a b => a.1 ≠ b.1)
    {c : Coord} {a : α} : lookup c l = some a ↔ (c, a) ∈ l := by
  induction l with
  | nil => simp [lookup]
  | cons e rest ih =>
    obtain ⟨d, b⟩ := e
    have hd := (List.pairwise_cons.mp h).1
    simp only [List.mem_cons, Prod.mk.injEq, lookup]
    by_cases hdc : d = c
    · subst hdc
      have : (d, a) ∉ rest := fun he => hd (d, a) he rfl
      simp [this, eq_comm]
    · simp [hdc, Ne.symm hdc, ih (List.Pairwise.of_cons h)]

theorem mem_entries_iff {m : CellMap α} {c : Coord} {a : α} :
    (c, a) ∈ m.entries ↔ m.get? c = some a := by
  refine (lookup_eq_some_iff (m.ordered.imp fun hab he => ?_)).symm
  rw [he] at hab
  exact Coord.lt_irrefl _ hab

@[simp] theorem mem_cells_iff {m : CellMap α} {c : Coord} :
    c ∈ m.cells ↔ (m.get? c).isSome := by
  simp only [cells, List.mem_map, Prod.exists, exists_and_right, exists_eq_right,
    Option.isSome_iff_exists, mem_entries_iff]

theorem lookup_eq_none_of_before {c d : Coord} {a : α} {rest : List (Coord × α)}
    (h : ((d, a) :: rest).Pairwise fun a b => a.1 < b.1) (hc : c < d) :
    lookup c ((d, a) :: rest) = none := by
  refine lookup_eq_none fun e he hec => ?_
  subst hec
  rcases List.mem_cons.mp he with rfl | he
  · exact Coord.lt_irrefl _ hc
  · exact Coord.lt_asymm hc ((List.pairwise_cons.mp h).1 e he)

theorem eq_of_lookup {l l' : List (Coord × α)} (h : l.Pairwise fun a b => a.1 < b.1)
    (h' : l'.Pairwise fun a b => a.1 < b.1) (hl : ∀ c, lookup c l = lookup c l') : l = l' := by
  induction l generalizing l' with
  | nil =>
    cases l' with
    | nil => rfl
    | cons e rest => simpa [lookup] using hl e.1
  | cons e rest ih =>
    obtain ⟨d, a⟩ := e
    cases l' with
    | nil => simpa [lookup] using hl d
    | cons e' rest' =>
      obtain ⟨d', a'⟩ := e'
      have hdd : d = d' := by
        apply Coord.eq_of_not_lt
        · intro hlt
          have := hl d
          rw [lookup_eq_none_of_before h' hlt] at this
          simp [lookup] at this
        · intro hlt
          have := hl d'
          rw [lookup_eq_none_of_before h hlt] at this
          simp [lookup] at this
      subst hdd
      have ha : a = a' := by simpa [lookup] using hl d
      subst ha
      rw [ih (List.Pairwise.of_cons h) (List.Pairwise.of_cons h') fun c => ?_]
      by_cases hc : d = c
      · subst hc
        have none_of (r : List (Coord × α)) (hr : ∀ e ∈ r, d < e.1) : lookup d r = none :=
          lookup_eq_none fun e he hed => Coord.lt_irrefl d (by simpa [hed] using hr e he)
        rw [none_of _ (List.pairwise_cons.mp h).1, none_of _ (List.pairwise_cons.mp h').1]
      · simpa [lookup, hc] using hl c

/-- Maps with the same values are equal. -/
theorem ext_get? {m n : CellMap α} (h : ∀ c, m.get? c = n.get? c) : m = n := by
  obtain ⟨l, hl⟩ := m
  obtain ⟨l', hl'⟩ := n
  obtain rfl := eq_of_lookup hl hl' h
  rfl

theorem get?_foldl_insert (l : List (Coord × α)) (m : CellMap α) (c : Coord) :
    (l.foldl (fun m e => m.insert e.1 e.2) m).get? c = (lookup c l.reverse).or (m.get? c) := by
  induction l generalizing m with
  | nil => simp [lookup]
  | cons e rest ih =>
    have lookup_append (r : List (Coord × α)) :
        lookup c (r ++ [e]) = (lookup c r).or (if e.1 = c then some e.2 else none) := by
      induction r with
      | nil => simp [lookup]
      | cons f r ih => simp only [List.cons_append, lookup, ih]; split <;> simp
    simp only [List.foldl_cons, ih, get?_insert, List.reverse_cons, lookup_append]
    split <;> simp

/-- The last entry at a cell is its value. -/
theorem get?_ofList (l : List (Coord × α)) (c : Coord) :
    (ofList l).get? c = lookup c l.reverse := by
  simp [ofList, get?_foldl_insert]

theorem mem_of_lookup {c : Coord} {a : α} {l : List (Coord × α)} (h : lookup c l = some a) :
    (c, a) ∈ l := by
  induction l with
  | nil => simp [lookup] at h
  | cons e rest ih =>
    obtain ⟨d, b⟩ := e
    rw [lookup] at h
    split at h
    · rename_i hdc
      obtain rfl := Option.some.inj h
      simp [hdc]
    · exact List.mem_cons_of_mem _ (ih h)

theorem lookup_ne_none_of_mem {l : List (Coord × α)} {e : Coord × α} (h : e ∈ l) :
    lookup e.1 l ≠ none := by
  induction l with
  | nil => cases h
  | cons d l ih =>
    rw [lookup]
    split
    · exact Option.some_ne_none _
    · rename_i hne
      refine ih ((List.mem_cons.mp h).resolve_left ?_)
      rintro rfl
      exact hne rfl

/-- A list that has at most one value for a cell stores just these. -/
theorem get?_ofList_eq {l : List (Coord × α)} {f : Coord → Option α}
    (h : ∀ c a, (c, a) ∈ l ↔ f c = some a) (c : Coord) : (ofList l).get? c = f c := by
  rw [get?_ofList]
  cases hlookup : lookup c l.reverse with
  | some a => exact ((h c a).mp (List.mem_reverse.mp (mem_of_lookup hlookup))).symm
  | none =>
    refine (Option.eq_none_iff_forall_ne_some.mpr fun a ha => ?_).symm
    exact lookup_ne_none_of_mem (List.mem_reverse.mpr ((h c a).mpr ha)) hlookup

/-- Where no two cells go to one place, the value there comes from the cell that goes there. -/
theorem get?_relocate_eq_some_iff {m : CellMap α} {target : Coord → Option Coord}
    (h : ∀ a b c, target a = some c → target b = some c → a = b) {d : Coord} {a : α} :
    (m.relocate target).get? d = some a ↔ ∃ c, target c = some d ∧ m.get? c = some a := by
  have moved : ∀ {e : Coord × α} {f : Coord × α},
      (target e.1).map (fun c => (c, e.2)) = some f ↔ target e.1 = some f.1 ∧ e.2 = f.2 := by
    rintro ⟨c, a⟩ ⟨d, b⟩
    cases target c <;> simp
  have apart : (m.entries.filterMap fun e => (target e.1).map fun c => (c, e.2)).Pairwise
      fun a b => a.1 ≠ b.1 := by
    rw [List.pairwise_filterMap]
    refine m.ordered.imp fun {e f} hef e' he' f' hf' heq => ?_
    have he := (moved.mp he').1
    have hf := (moved.mp hf').1
    rw [heq] at he
    rw [h _ _ _ he hf] at hef
    exact Coord.lt_irrefl _ hef
  rw [relocate, get?_ofList,
    lookup_eq_some_iff (List.pairwise_reverse.mpr (apart.imp fun h => h.symm))]
  simp only [List.mem_reverse, List.mem_filterMap, moved, Prod.exists, mem_entries_iff]
  constructor
  · rintro ⟨c, b, hb, hc, rfl⟩
    exact ⟨c, hc, hb⟩
  · rintro ⟨c, hc, ha⟩
    exact ⟨c, a, ha, hc, rfl⟩

end CellMap

end Gridbook
