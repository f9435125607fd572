/-!
# Undo and redo

A timeline is a present state between the states before it and the states after
it. A new edit forgets the states after the present, and only a limited number
of states before it is kept.
-/
namespace Gridbook

/--
A state that can be returned to, with the label of the edit between it and its
neighbour on the side of the present.
-/
structure Moment (State : Type) where
  state : State
  label : String
  deriving DecidableEq, Repr

structure Timeline (State : Type) where
  /-- The number of edits that can be undone. -/
  limit : Nat
  /-- The states before the present one, the newest first. -/
  past : List (Moment State)
  present : State
  /-- The states after the present one, the next first. -/
  future : List (Moment State)
  deriving DecidableEq, Repr

namespace Timeline

variable {State : Type}

/-- The edits that can be undone where nobody chose a limit. -/
def usualLimit : Nat := 100

/-- A timeline of one state. -/
def start (limit : Nat) (s : State) : Timeline State := ⟨limit, [], s, []⟩

/-- The timeline after an edit that leads to the given state. -/
def record (t : Timeline State) (label : String) (next : State) : Timeline State :=
  { t with past := (⟨t.present, label⟩ :: t.past).take t.limit, present := next, future := [] }

/-- Runs an edit; none if it does not apply. -/
def run? (t : Timeline State) (label : String) (edit : State → Option State) :
    Option (Timeline State) :=
  (edit t.present).map (t.record label)

/-- Changes the present state without recording that. -/
def amend (t : Timeline State) (change : State → State) : Timeline State :=
  { t with present := change t.present }

/-- Steps back; none at the first state. -/
def undo? (t : Timeline State) : Option (Timeline State) :=
  match t.past with
  | [] => none
  | m :: past =>
    some { t with past := past, present := m.state, future := ⟨t.present, m.label⟩ :: t.future }

/-- Steps forward; none at the last state. -/
def redo? (t : Timeline State) : Option (Timeline State) :=
  match t.future with
  | [] => none
  | m :: future =>
    some { t with past := ⟨t.present, m.label⟩ :: t.past, present := m.state, future := future }

/-- Forgets all states but the present one. -/
def clear (t : Timeline State) : Timeline State := start t.limit t.present

/-- The label of the edit that would be undone. -/
def undoLabel? (t : Timeline State) : Option String := t.past.head?.map Moment.label

/-- The label of the edit that would be redone. -/
def redoLabel? (t : Timeline State) : Option String := t.future.head?.map Moment.label

/-- What was undone can be done again. -/
theorem redo?_of_undo? {t u : Timeline State} (h : t.undo? = some u) : u.redo? = some t := by
  obtain ⟨limit, past, present, future⟩ := t
  cases past with
  | nil => simp [undo?] at h
  | cons m past =>
    obtain rfl := Option.some.inj h
    rfl

/-- What was done again can be undone. -/
theorem undo?_of_redo? {t u : Timeline State} (h : t.redo? = some u) : u.undo? = some t := by
  obtain ⟨limit, past, present, future⟩ := t
  cases future with
  | nil => simp [redo?] at h
  | cons m future =>
    obtain rfl := Option.some.inj h
    rfl

/-- With room for an edit, undoing it brings back the state before it. -/
theorem undo?_record {t : Timeline State} (h : 0 < t.limit) (label : String) (next : State) :
    ∃ u, (t.record label next).undo? = some u ∧ u.present = t.present := by
  obtain ⟨limit, past, present, future⟩ := t
  cases limit with
  | zero => exact absurd h (by simp)
  | succ limit => exact ⟨_, rfl, rfl⟩

end Timeline

end Gridbook
