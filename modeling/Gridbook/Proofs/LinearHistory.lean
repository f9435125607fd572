import Gridbook.Timeline
import Mathlib.Data.List.TakeDrop

/-!
# A history is a list of states with a cursor

A timeline keeps the states before and after the present one on two stacks, and the
label of an edit on the side of the state that can be returned to. Seen from outside
it is a track: one list of states, each with the label of the edit that made it, and
a cursor in the list. An edit drops what is after the cursor, adds its state and
forgets the oldest states; undo and redo only move the cursor.
-/
namespace Gridbook

variable {State Report : Type}

/-- What a history can be told to run on a state. -/
structure Command (State Report : Type) where
  /-- The state that it leads to and what it reports; none where it does not apply. -/
  run? : State → Option (State × Report)
  /-- The label of the edit that it is on a state. -/
  label : State → String

/-- What is done to a history. -/
inductive Action (State Report : Type) where
  | execute (c : Command State Report)
  | undo
  | redo
  | clear

/-- What an action answers. -/
inductive Reply (Report : Type) where
  /-- The report of a command, none if it did not apply. -/
  | ran (report : Option Report)
  /-- Whether there was a state to step to. -/
  | stepped (done : Bool)
  | cleared
  deriving DecidableEq, Repr

/-- All that a history shows. -/
structure View (State : Type) where
  present : State
  undoCount : Nat
  redoCount : Nat
  undoLabel? : Option String
  redoLabel? : Option String
  deriving DecidableEq, Repr

/-- Takes actions one after the other and collects their replies. -/
def performAll {σ α ρ : Type} (step : σ → α → σ × ρ) : σ → List α → σ × List ρ
  | s, [] => (s, [])
  | s, a :: rest =>
    ((performAll step (step s a).1 rest).1, (step s a).2 :: (performAll step (step s a).1 rest).2)

/-- Related states stay related and give equal replies, if this is so for every single action. -/
theorem performAll_related {σ τ α ρ : Type} {step : σ → α → σ × ρ} {step' : τ → α → τ × ρ}
    {R : σ → τ → Prop}
    (h : ∀ s t a, R s t → R (step s a).1 (step' t a).1 ∧ (step s a).2 = (step' t a).2)
    (actions : List α) {s : σ} {t : τ} (hst : R s t) :
    R (performAll step s actions).1 (performAll step' t actions).1 ∧
      (performAll step s actions).2 = (performAll step' t actions).2 := by
  induction actions generalizing s t with
  | nil => exact ⟨hst, rfl⟩
  | cons a rest ih =>
    obtain ⟨hnext, hreply⟩ := h s t a hst
    obtain ⟨hlast, hreplies⟩ := ih hnext
    exact ⟨hlast, by rw [performAll, performAll, hreply, hreplies]⟩

namespace Timeline

def view (t : Timeline State) : View State :=
  ⟨t.present, t.past.length, t.future.length, t.undoLabel?, t.redoLabel?⟩

/-- The timeline after an action, and the reply. What does not apply changes nothing. -/
def step (t : Timeline State) : Action State Report → Timeline State × Reply Report
  | .execute c =>
    ((t.run? (c.label t.present) fun s => (c.run? s).map Prod.fst).getD t,
      .ran ((c.run? t.present).map Prod.snd))
  | .undo => (t.undo?.getD t, .stepped t.undo?.isSome)
  | .redo => (t.redo?.getD t, .stepped t.redo?.isSome)
  | .clear => (t.clear, .cleared)

end Timeline

/-- A state and the label of the edit that made it. -/
structure Stage (State : Type) where
  label : String
  state : State

/-- A list of states, the oldest first, and a cursor in it. -/
structure Track (State : Type) where
  stages : List (Stage State)
  cursor : Nat
  cursor_lt : cursor < stages.length

namespace Track

def current (k : Track State) : Stage State := k.stages.get ⟨k.cursor, k.cursor_lt⟩

/-- A track of one state, which no edit made. -/
def start (s : State) : Track State := ⟨[⟨"", s⟩], 0, by simp⟩

theorem length_take_cursor (k : Track State) :
    (k.stages.take (k.cursor + 1)).length = k.cursor + 1 := by
  rw [List.length_take]
  exact Nat.min_eq_left k.cursor_lt

/-- Drops what is after the cursor, adds a state and moves to it. -/
def append (k : Track State) (label : String) (next : State) : Track State where
  stages := k.stages.take (k.cursor + 1) ++ [⟨label, next⟩]
  cursor := k.cursor + 1
  cursor_lt := by
    rw [List.length_append, length_take_cursor]
    exact Nat.lt_succ_self _

/-- Forgets the oldest states, so that at most `limit` precede the cursor. -/
def forget (limit : Nat) (k : Track State) : Track State where
  stages := k.stages.drop (k.cursor - limit)
  cursor := min k.cursor limit
  cursor_lt := by
    have := k.cursor_lt
    simp
    omega

def undo? (k : Track State) : Option (Track State) :=
  if 0 < k.cursor then some ⟨k.stages, k.cursor - 1, by have := k.cursor_lt; omega⟩ else none

def redo? (k : Track State) : Option (Track State) :=
  if h : k.cursor + 1 < k.stages.length then some ⟨k.stages, k.cursor + 1, h⟩ else none

/-- Forgets all states but the current one. -/
def clear (k : Track State) : Track State := ⟨[k.current], 0, by simp⟩

/-- The labels shown are those of the edit that made the current state and of the next edit. -/
def view (k : Track State) : View State where
  present := k.current.state
  undoCount := k.cursor
  redoCount := k.stages.length - (k.cursor + 1)
  undoLabel? := if 0 < k.cursor then some k.current.label else none
  redoLabel? := k.stages[k.cursor + 1]?.map Stage.label

/-- The track after an action, and the reply, where at most `limit` states precede the cursor. -/
def step (limit : Nat) (k : Track State) : Action State Report → Track State × Reply Report
  | .execute c =>
    match c.run? k.current.state with
    | some (next, report) =>
      ((k.append (c.label k.current.state) next).forget limit, .ran (some report))
    | none => (k, .ran none)
  | .undo => (k.undo?.getD k, .stepped k.undo?.isSome)
  | .redo => (k.redo?.getD k, .stepped k.redo?.isSome)
  | .clear => (k.clear, .cleared)

/-- The stages before the cursor, the newest first, the current one and those after it. -/
structure Splits (k : Track State) (older : List (Stage State)) (now : Stage State)
    (newer : List (Stage State)) : Prop where
  stages : k.stages = older.reverse ++ now :: newer
  cursor : k.cursor = older.length

section

variable {k : Track State} {older newer : List (Stage State)} {now : Stage State}

theorem Splits.current (h : k.Splits older now newer) : k.current = now := by
  obtain ⟨stages, cursor, hlt⟩ := k
  obtain ⟨hstages, hcursor⟩ := h
  dsimp only at hstages hcursor
  subst hstages hcursor
  simp [Track.current]

theorem splits_start (s : State) : (start s).Splits [] ⟨"", s⟩ [] := ⟨rfl, rfl⟩

theorem Splits.append (h : k.Splits older now newer) (label : String) (next : State) :
    (k.append label next).Splits (now :: older) ⟨label, next⟩ [] where
  stages := by
    have htake : k.stages.take (k.cursor + 1) = older.reverse ++ [now] := by
      rw [h.stages, h.cursor, List.take_append]
      simp
    simp only [Track.append, htake, List.reverse_cons]
  cursor := by simp only [Track.append, h.cursor, List.length_cons]

theorem Splits.forget (h : k.Splits older now newer) (limit : Nat) :
    (k.forget limit).Splits (older.take limit) now newer where
  stages := by
    have hfront : older.reverse.drop (older.length - limit) = (older.take limit).reverse := by
      rw [List.reverse_take]
    have hnone : older.length - limit - older.reverse.length = 0 := by
      simp
    simp only [Track.forget, h.stages, h.cursor, List.drop_append, hfront, hnone, List.drop_zero]
  cursor := by simp only [Track.forget, h.cursor, List.length_take, Nat.min_comm]

theorem Splits.undo?_nil (h : k.Splits [] now newer) : k.undo? = none := by
  simp [Track.undo?, h.cursor]

theorem Splits.undo?_cons {previous : Stage State} (h : k.Splits (previous :: older) now newer) :
    ∃ u, k.undo? = some u ∧ u.Splits older previous (now :: newer) := by
  have hcursor : 0 < k.cursor := by simp [h.cursor]
  refine ⟨_, if_pos hcursor, ?_, ?_⟩
  · simp [h.stages]
  · simp [h.cursor]

theorem Splits.redo?_nil (h : k.Splits older now []) : k.redo? = none := by
  simp [Track.redo?, h.cursor, h.stages]

theorem Splits.redo?_cons {following : Stage State} (h : k.Splits older now (following :: newer)) :
    ∃ u, k.redo? = some u ∧ u.Splits (now :: older) following newer := by
  have hcursor : k.cursor + 1 < k.stages.length := by simp [h.cursor, h.stages]
  refine ⟨_, dif_pos hcursor, ?_, ?_⟩
  · simp [h.stages]
  · simp [h.cursor]

theorem Splits.clear (h : k.Splits older now newer) : k.clear.Splits [] now [] :=
  ⟨by simp [Track.clear, h.current], rfl⟩

end

end Track

def Stage.moment (g : Stage State) : Moment State := ⟨g.state, g.label⟩

/-- What a timeline keeps of older stages: each state with the label of the edit that came next. -/
def pastMoments : List (Stage State) → String → List (Moment State)
  | [], _ => []
  | g :: older, label => ⟨g.state, label⟩ :: pastMoments older g.label

@[simp] theorem length_pastMoments (older : List (Stage State)) (label : String) :
    (pastMoments older label).length = older.length := by
  induction older generalizing label with
  | nil => rfl
  | cons g older ih => simp [pastMoments, ih]

theorem take_pastMoments (n : Nat) (older : List (Stage State)) (label : String) :
    (pastMoments older label).take n = pastMoments (older.take n) label := by
  induction older generalizing n label with
  | nil => simp [pastMoments]
  | cons g older ih =>
    cases n with
    | zero => simp [pastMoments]
    | succ n => simp [pastMoments, ih]

/-- The timeline keeps the stages of the track on its two stacks, and no more than it may. -/
inductive Tracks (limit : Nat) : Timeline State → Track State → Prop
  | intro {k : Track State} {older newer : List (Stage State)} {now : Stage State}
      (hsplits : k.Splits older now newer) (hroom : older.length + newer.length ≤ limit) :
      Tracks limit ⟨limit, pastMoments older now.label, now.state, newer.map Stage.moment⟩ k

theorem tracks_start (limit : Nat) (s : State) :
    Tracks limit (Timeline.start limit s) (Track.start s) :=
  .intro (Track.splits_start s) (Nat.zero_le _)

theorem Tracks.room {limit : Nat} {t : Timeline State} {k : Track State} (h : Tracks limit t k) :
    t.past.length + t.future.length ≤ limit := by
  obtain ⟨-, hroom⟩ := h
  simpa using hroom

theorem Tracks.view_eq {limit : Nat} {t : Timeline State} {k : Track State}
    (h : Tracks limit t k) : t.view = k.view := by
  obtain @⟨_, older, newer, now, hsplits, hroom⟩ := h
  have hundo : (pastMoments older now.label).head?.map Moment.label =
      if 0 < older.length then some now.label else none := by
    cases older <;> rfl
  have hredo : (newer.map Stage.moment).head?.map Moment.label = newer.head?.map Stage.label := by
    cases newer <;> rfl
  have hnext : (older.reverse ++ now :: newer)[older.length + 1]? = newer.head? := by
    cases newer <;> simp
  have hcount : (older.reverse ++ now :: newer).length - (older.length + 1) = newer.length := by
    simp
    omega
  simp only [Timeline.view, Timeline.undoLabel?, Timeline.redoLabel?, Track.view, hsplits.current,
    hsplits.cursor, hsplits.stages, hundo, hredo, hnext, hcount, length_pastMoments,
    List.length_map]

/-- An action keeps a timeline and its track together and has the same reply on both. -/
theorem Tracks.step {limit : Nat} {t : Timeline State} {k : Track State} (h : Tracks limit t k)
    (a : Action State Report) :
    Tracks limit (t.step a).1 (k.step limit a).1 ∧ (t.step a).2 = (k.step limit a).2 := by
  have hkeep := h
  obtain @⟨_, older, newer, now, hsplits, hroom⟩ := h
  cases a with
  | execute c =>
    cases hrun : c.run? now.state with
    | none =>
      simp only [Timeline.step, Timeline.run?, Track.step, hsplits.current, hrun, Option.map_none,
        Option.getD_none, and_true]
      exact hkeep
    | some result =>
      obtain ⟨next, report⟩ := result
      have hnext := (hsplits.append (c.label now.state) next).forget limit
      have hlength : ((now :: older).take limit).length + 0 ≤ limit := by
        rw [List.length_take, Nat.add_zero]
        exact Nat.min_le_left ..
      have hpast : ((⟨now.state, c.label now.state⟩ : Moment State) ::
          pastMoments older now.label).take limit =
          pastMoments ((now :: older).take limit) (c.label now.state) :=
        take_pastMoments limit (now :: older) (c.label now.state)
      simp only [Timeline.step, Timeline.run?, Timeline.record, Track.step, hsplits.current, hrun,
        Option.map_some, Option.getD_some, hpast, and_true]
      exact .intro hnext hlength
  | undo =>
    cases older with
    | nil =>
      simp only [Timeline.step, Track.step, hsplits.undo?_nil]
      exact ⟨hkeep, rfl⟩
    | cons previous older =>
      obtain ⟨u, hu, hsplits'⟩ := hsplits.undo?_cons
      simp only [Timeline.step, Track.step, hu]
      refine ⟨.intro hsplits' ?_, rfl⟩
      simp only [List.length_cons] at hroom ⊢
      omega
  | redo =>
    cases newer with
    | nil =>
      simp only [Timeline.step, Track.step, hsplits.redo?_nil]
      exact ⟨hkeep, rfl⟩
    | cons following newer =>
      obtain ⟨u, hu, hsplits'⟩ := hsplits.redo?_cons
      simp only [Timeline.step, Track.step, hu]
      refine ⟨.intro hsplits' ?_, rfl⟩
      simp only [List.length_cons] at hroom ⊢
      omega
  | clear => exact ⟨.intro hsplits.clear (Nat.zero_le _), rfl⟩

/--
From a new history on, every sequence of actions has the replies and leaves the view
that it has on the track, and never keeps more states beside the present one than the
limit allows.
-/
theorem timeline_refines_track (limit : Nat) (s : State) (actions : List (Action State Report)) :
    let timeline := performAll Timeline.step (Timeline.start limit s) actions
    let track := performAll (Track.step limit) (Track.start s) actions
    timeline.2 = track.2 ∧ timeline.1.view = track.1.view ∧
      timeline.1.view.undoCount + timeline.1.view.redoCount ≤ limit := by
  obtain ⟨hlast, hreplies⟩ := performAll_related (R := Tracks limit)
    (fun _ _ a h => h.step a) actions (tracks_start limit s)
  exact ⟨hreplies, hlast.view_eq, hlast.room⟩

end Gridbook
