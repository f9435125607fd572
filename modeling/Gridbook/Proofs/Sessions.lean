import Gridbook.Proofs.Tidy
import Gridbook.Workbook

/-!
# Sessions

A session is a sequence of calls to a workbook, beginning with a new one. A call that
may change the sheet asks for one edit. Either it leaves the workbook as it was, and
says so, or it runs that edit and is one step of the history. All sheets of a session,
those in the history included, are tidy.
-/
namespace Gridbook

namespace Timeline

variable {State : Type}

/-- The present state and all states that can be returned to satisfy a condition. -/
structure All (p : State → Prop) (t : Timeline State) : Prop where
  past : ∀ m ∈ t.past, p m.state
  present : p t.present
  future : ∀ m ∈ t.future, p m.state

variable {p : State → Prop} {t u : Timeline State}

theorem all_start (limit : Nat) {s : State} (h : p s) : (start limit s).All p :=
  ⟨by simp [start], h, by simp [start]⟩

theorem All.record (h : t.All p) (label : String) {next : State} (hnext : p next) :
    (t.record label next).All p where
  past m hm := by
    rcases List.mem_cons.mp (List.mem_of_mem_take hm) with rfl | hm
    · exact h.present
    · exact h.past m hm
  present := hnext
  future m hm := by simp [Timeline.record] at hm

theorem All.undo? (h : t.All p) (hu : t.undo? = some u) : u.All p := by
  obtain ⟨limit, past, present, future⟩ := t
  cases past with
  | nil => simp [Timeline.undo?] at hu
  | cons m past =>
    obtain rfl := Option.some.inj hu
    refine ⟨fun n hn => ?_, h.past m (by simp), fun n hn => ?_⟩
    · exact h.past n (List.mem_cons_of_mem _ hn)
    · rcases List.mem_cons.mp hn with rfl | hn
      · exact h.present
      · exact h.future n hn

theorem All.redo? (h : t.All p) (hu : t.redo? = some u) : u.All p := by
  obtain ⟨limit, past, present, future⟩ := t
  cases future with
  | nil => simp [Timeline.redo?] at hu
  | cons m future =>
    obtain rfl := Option.some.inj hu
    refine ⟨fun n hn => ?_, h.future m (by simp), fun n hn => ?_⟩
    · rcases List.mem_cons.mp hn with rfl | hn
      · exact h.present
      · exact h.past n hn
    · exact h.future n (List.mem_cons_of_mem _ hn)

theorem limit_undo? (h : t.undo? = some u) : u.limit = t.limit := by
  rw [Timeline.undo?] at h
  split at h
  · cases h
  · exact Option.some.inj h ▸ rfl

theorem limit_redo? (h : t.redo? = some u) : u.limit = t.limit := by
  rw [Timeline.redo?] at h
  split at h
  · cases h
  · exact Option.some.inj h ▸ rfl

theorem All.clear (h : t.All p) : t.clear.All p := all_start t.limit h.present

end Timeline

namespace Workbook

inductive Request where
  | setContent (name text : String)
  | clearCell (name : String)
  | changeStyle (name : String) (change : StyleChange)
  | setStyle (name : String) (style : Style)
  | editLine (e : LineEdit)
  | exchange (a b : String)
  | fill (source target : String)
  | replace (data : Import)
  | replaceByJson (text : String)

inductive Answer where
  | refused (e : WorkbookError)
  /-- The cells that the edit reports. -/
  | reported (cells : List Coord)
  | done
  /-- Whether there was anything to do. -/
  | applied (whether : Bool)

/-- The answer says that nothing was done. -/
def Answer.isNoOp : Answer → Bool
  | refused _ => true
  | reported _ => false
  | done => false
  | applied whether => !whether

/-- What an operation results in; if it fails, the workbook stays as it is. -/
def settle (w : Workbook) : Except WorkbookError (Workbook × Answer) → Workbook × Answer
  | .ok result => result
  | .error e => (w, .refused e)

/-- The workbook after a call, and what the call answers. -/
def request (w : Workbook) : Request → Workbook × Answer
  | .setContent name text =>
    w.settle ((w.setContent name text).map fun (w', cells) => (w', .reported cells))
  | .clearCell name => w.settle ((w.clearCell name).map fun (w', cells) => (w', .reported cells))
  | .changeStyle name change => w.settle ((w.changeStyle name change).map (·, .done))
  | .setStyle name style => w.settle ((w.setStyle name style).map (·, .done))
  | .editLine e => ((w.editLine e).1, .applied (w.editLine e).2)
  | .exchange a b => w.settle ((w.exchange a b).map fun (w', whether) => (w', .applied whether))
  | .fill source target =>
    w.settle ((w.fill source target).map fun (w', whether) => (w', .applied whether))
  | .replace data => ((w.replace data).1, .reported (w.replace data).2)
  | .replaceByJson text =>
    w.settle ((w.replaceByJson text).map fun (w', cells) => (w', .reported cells))

/-- The edit that a call asks for. -/
def edit (w : Workbook) : Request → Except WorkbookError Edit
  | .setContent name text => do return .setContent (← w.locate name) text
  | .clearCell name => do return .setContent (← w.locate name) ""
  | .changeStyle name change => do return .changeStyle (← w.locate name) change
  | .setStyle name style => do return .setStyle (← w.locate name) style
  | .editLine e => return .line e
  | .exchange a b => do return .exchange (← w.locate a) (← w.locate b)
  | .fill source target => do return .fill ⟨← w.locate source, ← w.locateArea target⟩
  | .replace data => return .replace data w.settings.rows w.settings.cols
  | .replaceByJson text =>
    match (Json.read? text).bind Import.ofJson? with
    | some data => return .replace data w.settings.rows w.settings.cols
    | none => .error .unreadable

theorem exists_of_bind_eq_ok {α β ε : Type} {x : Except ε α} {f : α → Except ε β} {b : β}
    (h : x.bind f = .ok b) : ∃ a, x = .ok a ∧ f a = .ok b := by
  cases x with
  | error e => simp [Except.bind] at h
  | ok a => exact ⟨a, rfl, h⟩

theorem contains_of_locate {w : Workbook} {name : String} {c : Coord} (h : w.locate name = .ok c) :
    w.sheet.contains c = true := by
  rw [locate] at h
  split at h
  · simp at h
  · split at h
    · rename_i hc
      rwa [← Except.ok.inj h]
    · simp at h

/-- The workbook after an edit that applies. -/
def recorded (w : Workbook) (e : Edit) : Workbook :=
  { w with timeline := w.timeline.record e.description (e.apply w.sheet) }

theorem run?_eq (w : Workbook) (e : Edit) :
    w.run? e =
      if e.isApplicable w.sheet then some (w.recorded e, e.affected w.sheet) else none := by
  rw [run?, Timeline.run?, Edit.run?, ← sheet]
  by_cases happ : e.isApplicable w.sheet = true
  · rw [if_pos happ, if_pos happ]
    rfl
  · rw [if_neg happ, if_neg happ]
    rfl

theorem run_eq {w : Workbook} {e : Edit} (h : e.isApplicable w.sheet = true) :
    w.run e = (w.recorded e, e.affected w.sheet) := by
  rw [run, run?_eq, if_pos h, Option.getD_some]

theorem attempt_eq (w : Workbook) (e : Edit) :
    w.attempt e = if e.isApplicable w.sheet then (w.recorded e, true) else (w, false) := by
  rw [attempt, run?_eq]
  split <;> simp_all

/-- All that a call can do. -/
inductive Outcome (w : Workbook) (r : Request) : Prop
  /-- It asks for no edit. -/
  | refused (e : WorkbookError) (hedit : w.edit r = .error e) (h : w.request r = (w, .refused e))
  /-- The edit does not apply. -/
  | skipped (e : Edit) (hedit : w.edit r = .ok e) (happ : e.isApplicable w.sheet = false)
      (h : w.request r = (w, .applied false))
  | ran (e : Edit) (answer : Answer) (hedit : w.edit r = .ok e)
      (happ : e.isApplicable w.sheet = true) (hanswer : answer.isNoOp = false)
      (h : w.request r = (w.recorded e, answer))

section

variable {w : Workbook} {r : Request}

/-- A call that reports cells asks for edits that apply. -/
theorem outcome_of_run (answer : List Coord → Answer)
    (h : w.request r = w.settle ((w.edit r).map fun e => ((w.run e).1, answer (w.run e).2)))
    (happ : ∀ e, w.edit r = .ok e → e.isApplicable w.sheet = true)
    (hanswer : ∀ cells, (answer cells).isNoOp = false) : w.Outcome r := by
  cases hedit : w.edit r with
  | error e =>
    rw [hedit] at h
    exact .refused e hedit h
  | ok e =>
    have happ := happ e hedit
    rw [hedit, Except.map, settle, run_eq happ] at h
    exact .ran e _ hedit happ (hanswer _) h

/-- A call that answers whether its edit applies may ask for any edit. -/
theorem outcome_of_attempt
    (h : w.request r =
      w.settle ((w.edit r).map fun e => ((w.attempt e).1, .applied (w.attempt e).2))) :
    w.Outcome r := by
  cases hedit : w.edit r with
  | error e =>
    rw [hedit] at h
    exact .refused e hedit h
  | ok e =>
    rw [hedit, Except.map, settle, attempt_eq] at h
    by_cases happ : e.isApplicable w.sheet = true
    · rw [if_pos happ] at h
      exact .ran e _ hedit happ rfl h
    · rw [if_neg happ] at h
      exact .skipped e hedit (Bool.eq_false_iff.mpr happ) h

/-- A cell that was found is in the grid, so its content and its style can be edited. -/
theorem isApplicable_of_locate {name : String} {make : Coord → Edit}
    (hmake : ∀ c, (make c).isApplicable w.sheet = w.sheet.contains c) {e : Edit}
    (h : ((w.locate name).bind fun c => .ok (make c)) = .ok e) : e.isApplicable w.sheet = true := by
  obtain ⟨c, hc, he⟩ := exists_of_bind_eq_ok h
  rw [← Except.ok.inj he, hmake]
  exact contains_of_locate hc

end

theorem outcome (w : Workbook) (r : Request) : w.Outcome r := by
  cases r with
  | setContent name text =>
    refine outcome_of_run .reported ?_ (fun _ => isApplicable_of_locate fun _ => rfl)
      fun _ => rfl
    rw [request, Workbook.setContent, edit]
    cases w.locate name <;> rfl
  | clearCell name =>
    refine outcome_of_run .reported ?_ (fun _ => isApplicable_of_locate fun _ => rfl)
      fun _ => rfl
    rw [request, Workbook.clearCell, Workbook.setContent, edit]
    cases w.locate name <;> rfl
  | changeStyle name change =>
    refine outcome_of_run (fun _ => .done) ?_
      (fun _ => isApplicable_of_locate fun _ => rfl) fun _ => rfl
    rw [request, Workbook.changeStyle, edit]
    cases w.locate name <;> rfl
  | setStyle name style =>
    refine outcome_of_run (fun _ => .done) ?_
      (fun _ => isApplicable_of_locate fun _ => rfl) fun _ => rfl
    rw [request, Workbook.setStyle, edit]
    cases w.locate name <;> rfl
  | editLine e => exact outcome_of_attempt rfl
  | exchange a b =>
    refine outcome_of_attempt ?_
    rw [request, Workbook.exchange, edit]
    cases w.locate a <;> cases w.locate b <;> rfl
  | fill source target =>
    refine outcome_of_attempt ?_
    rw [request, Workbook.fill, edit]
    cases w.locate source <;> cases w.locateArea target <;> rfl
  | replace data =>
    refine outcome_of_run .reported rfl (fun e he => ?_) fun _ => rfl
    rw [← Except.ok.inj he]
    rfl
  | replaceByJson text =>
    refine outcome_of_run .reported ?_ (fun e he => ?_) fun _ => rfl
    · rw [request, Workbook.replaceByJson, edit]
      cases (Json.read? text).bind Import.ofJson? <;> rfl
    · rw [edit] at he
      split at he
      · rw [← Except.ok.inj he]
        rfl
      · simp at he

inductive Operation where
  | request (r : Request)
  | undo
  | redo
  | clearHistory

def perform (w : Workbook) : Operation → Workbook
  | .request r => (w.request r).1
  | .undo => w.undo?.getD w
  | .redo => w.redo?.getD w
  | .clearHistory => w.clearHistory

/-- The workbook after some operations. -/
def after (w : Workbook) (operations : List Operation) : Workbook := operations.foldl perform w

/-- All that an operation can do. -/
inductive Step (w : Workbook) : Operation → Workbook → Prop
  | idle (o : Operation) : Step w o w
  | edited {r : Request} {e : Edit} (hedit : w.edit r = .ok e)
      (happ : e.isApplicable w.sheet = true) : Step w (.request r) (w.recorded e)
  | undone {t : Timeline Sheet} (h : w.timeline.undo? = some t) :
      Step w .undo { w with timeline := t }
  | redone {t : Timeline Sheet} (h : w.timeline.redo? = some t) :
      Step w .redo { w with timeline := t }
  | cleared : Step w .clearHistory w.clearHistory

theorem step_perform (w : Workbook) (o : Operation) : w.Step o (w.perform o) := by
  cases o with
  | request r =>
    rw [perform]
    cases w.outcome r with
    | refused e hedit h => exact h ▸ .idle _
    | skipped e hedit happ h => exact h ▸ .idle _
    | ran e answer hedit happ hanswer h => exact h ▸ .edited hedit happ
  | undo =>
    rw [perform, undo?]
    cases h : w.timeline.undo? with
    | none => exact .idle _
    | some t => exact .undone h
  | redo =>
    rw [perform, redo?]
    cases h : w.timeline.redo? with
    | none => exact .idle _
    | some t => exact .redone h
  | clearHistory => exact .cleared

/-- Imported data have no more rows than are counted. -/
def Request.Fits : Request → Prop
  | replace data => data.height ≤ Coord.lastRow
  | replaceByJson text =>
    ∀ data ∈ (Json.read? text).bind Import.ofJson?, data.height ≤ Coord.lastRow
  | _ => True

def Operation.Fits : Operation → Prop
  | request r => r.Fits
  | _ => True

instance (r : Request) : Decidable r.Fits :=
  match r with
  | .replace _ => inferInstanceAs (Decidable (_ ≤ _))
  | .replaceByJson _ => inferInstanceAs (Decidable (∀ data ∈ _, _))
  | .setContent .. | .clearCell _ | .changeStyle .. | .setStyle .. | .editLine _ | .exchange ..
  | .fill .. => isTrue trivial

instance (o : Operation) : Decidable o.Fits :=
  match o with
  | .request r => inferInstanceAs (Decidable r.Fits)
  | .undo | .redo | .clearHistory => isTrue trivial

/-- Only imports have data that may not fit. -/
theorem fits_edit {w : Workbook} {r : Request} (hr : r.Fits) {e : Edit} (h : w.edit r = .ok e) :
    e.Fits := by
  cases r with
  | setContent name text | clearCell name | changeStyle name change | setStyle name style =>
    obtain ⟨c, -, he⟩ := exists_of_bind_eq_ok h
    exact Except.ok.inj he ▸ trivial
  | editLine e => exact Except.ok.inj h ▸ trivial
  | exchange a b =>
    obtain ⟨a, -, h⟩ := exists_of_bind_eq_ok h
    obtain ⟨b, -, he⟩ := exists_of_bind_eq_ok h
    exact Except.ok.inj he ▸ trivial
  | fill source target =>
    obtain ⟨source, -, h⟩ := exists_of_bind_eq_ok h
    obtain ⟨target, -, he⟩ := exists_of_bind_eq_ok h
    exact Except.ok.inj he ▸ trivial
  | replace data => exact Except.ok.inj h ▸ hr
  | replaceByJson text =>
    rw [edit] at h
    split at h
    · rename_i data hdata
      exact Except.ok.inj h ▸ hr data hdata
    · simp at h

/-- What every operation keeps still holds after all of them. -/
theorem after_keeps {P : Workbook → Prop} {w : Workbook} (hw : P w) {operations : List Operation}
    (hstep : ∀ v, P v → ∀ o ∈ operations, P (v.perform o)) : P (w.after operations) :=
  List.foldlRecOn operations perform hw hstep

/-- A condition that the edits of a workbook keep is kept by all that can be done in it. -/
theorem all_perform {p : Sheet → Prop} {w : Workbook} (hw : w.timeline.All p) {o : Operation}
    (hp : ∀ r e, o = .request r → w.edit r = .ok e → e.isApplicable w.sheet = true →
      p (e.apply w.sheet)) : (w.perform o).timeline.All p := by
  have hstep := w.step_perform o
  generalize w.perform o = w' at hstep ⊢
  cases hstep with
  | idle => exact hw
  | edited hedit happ => exact hw.record _ (hp _ _ rfl hedit happ)
  | undone h => exact hw.undo? h
  | redone h => exact hw.redo? h
  | cleared => exact hw.clear

theorem tidy_perform {w : Workbook} (hw : w.timeline.All Sheet.Tidy) {o : Operation} (ho : o.Fits) :
    (w.perform o).timeline.All Sheet.Tidy :=
  all_perform hw fun _ _ hr hedit happ =>
    Edit.tidy_apply hw.present (fits_edit (hr ▸ ho : (Operation.request _).Fits) hedit) happ

theorem tidy_after_of_tidy {w : Workbook} (hw : w.timeline.All Sheet.Tidy)
    {operations : List Operation} (hfits : ∀ o ∈ operations, o.Fits) :
    (w.after operations).timeline.All Sheet.Tidy :=
  after_keeps (P := fun v => v.timeline.All Sheet.Tidy) hw fun _ hv o ho =>
    tidy_perform hv (hfits o ho)

theorem cols_le_of_check {raw s : Settings} (h : raw.check = .ok s) : s.cols ≤ Coord.letters := by
  rw [Settings.check] at h
  split at h
  · simp at h
  · split at h
    · simp at h
    · split at h
      · simp at h
      · rw [← Except.ok.inj h]
        exact Nat.min_le_right ..

/--
A session that begins with checked settings only ever has tidy sheets, whatever is
done in it: the present sheet, all that can be undone and all that can be redone.
-/
theorem tidy_after {raw s : Settings} (hs : raw.check = .ok s) {operations : List Operation}
    (hfits : ∀ o ∈ operations, o.Fits) :
    ((ofSettings s).after operations).timeline.All Sheet.Tidy :=
  tidy_after_of_tidy (Timeline.all_start _ (Sheet.tidy_ofSize s.rows (cols_le_of_check hs))) hfits

/-- A session on a grid of two columns with an import, line edits and steps back. -/
def errand : List Operation :=
  [.request (.setContent "A1" "=B2"), .request (.fill "A1" "A1:B2"),
    .request (.editLine (.insertCol 1)), .request (.setStyle "C1" .plain), .undo,
    .request (.replaceByJson "\x7b\"rows\":[[\"x\"],[null,\"=A1\",true]]\x7d"),
    .request (.exchange "A1" " B2 "), .undo, .undo, .redo]

theorem tidy_after_errand : (⟨2, 2, 3, 9⟩ : Settings).check = .ok ⟨2, 2, 3, 9⟩ ∧
    (∀ o ∈ errand, o.Fits) ∧ ((ofSettings ⟨2, 2, 3, 9⟩).after errand).timeline.All Sheet.Tidy :=
  have hs : (⟨2, 2, 3, 9⟩ : Settings).check = .ok ⟨2, 2, 3, 9⟩ := rfl
  have hfits : ∀ o ∈ errand, o.Fits := by decide +kernel
  ⟨hs, hfits, tidy_after hs hfits⟩

theorem limit_perform (w : Workbook) (o : Operation) :
    (w.perform o).timeline.limit = w.timeline.limit := by
  have hstep := w.step_perform o
  generalize w.perform o = w' at hstep ⊢
  cases hstep with
  | idle | edited | cleared => rfl
  | undone h => exact Timeline.limit_undo? h
  | redone h => exact Timeline.limit_redo? h

theorem limit_after (w : Workbook) (operations : List Operation) :
    (w.after operations).timeline.limit = w.timeline.limit :=
  after_keeps (P := fun v => v.timeline.limit = w.timeline.limit) rfl fun v hv o _ =>
    (limit_perform v o).trans hv

/-- With room for an edit, undoing it and doing it again are possible and lead back. -/
theorem undo?_recorded {w : Workbook} (h : 0 < w.timeline.limit) (e : Edit) :
    ∃ u, (w.recorded e).undo? = some u ∧ u.sheet = w.sheet ∧ u.redo? = some (w.recorded e) := by
  obtain ⟨t, ht, hpresent⟩ := Timeline.undo?_record h e.description (e.apply w.sheet)
  refine ⟨{ w with timeline := t }, ?_, hpresent, ?_⟩
  · rw [undo?, recorded, ht]
    rfl
  · rw [redo?, Timeline.redo?_of_undo? ht]
    rfl

/--
A call that is refused, or that answers that there was nothing to do, leaves the
workbook as it was. Any other call runs the edit that it asks for as one step of the
history: nothing is left to redo, and where the history has room, undoing brings back
the sheet from before the call and doing it again leads to the workbook after it.
-/
theorem request_all_or_nothing (s : Settings) (operations : List Operation) (r : Request) :
    let w := (ofSettings s).after operations
    let w' := (w.request r).1
    ((w.request r).2.isNoOp = true → w' = w) ∧
      ((w.request r).2.isNoOp = false →
        ∃ e, w.edit r = .ok e ∧ w'.sheet = e.apply w.sheet ∧ w'.timeline.future = [] ∧
          w'.timeline.past = (⟨w.sheet, e.description⟩ :: w.timeline.past).take s.historyLimit ∧
          (0 < s.historyLimit →
            ∃ u, w'.undo? = some u ∧ u.sheet = w.sheet ∧ u.redo? = some w')) := by
  intro w w'
  have hlimit : w.timeline.limit = s.historyLimit := limit_after (ofSettings s) operations
  cases w.outcome r with
  | refused e hedit h => simp [w', h, Answer.isNoOp]
  | skipped e hedit happ h => simp [w', h, Answer.isNoOp]
  | ran e answer hedit happ hanswer h =>
    have hw' : w' = w.recorded e := congrArg Prod.fst h
    have hpast : (w.recorded e).timeline.past =
        (⟨w.sheet, e.description⟩ :: w.timeline.past).take s.historyLimit := by
      rw [← hlimit]
      rfl
    rw [h, hw']
    refine ⟨fun hnoop => by simp [hanswer] at hnoop, fun _ => ?_⟩
    exact ⟨e, hedit, rfl, rfl, hpast, fun hroom => undo?_recorded (by rwa [hlimit]) e⟩

theorem request_all_or_nothing_errand :
    let w := (ofSettings ⟨2, 2, 3, 9⟩).after errand
    let w' := (w.request (.fill "B2" "A2")).1
    (w.request (.fill "B2" "A2")).2.isNoOp = false ∧
      ∃ u, w'.undo? = some u ∧ u.sheet = w.sheet ∧ u.redo? = some w' := by
  intro w w'
  have hanswer : (w.request (.fill "B2" "A2")).2.isNoOp = false := by decide +kernel
  obtain ⟨-, happlied⟩ := request_all_or_nothing ⟨2, 2, 3, 9⟩ errand (.fill "B2" "A2")
  obtain ⟨e, -, -, -, -, hundo⟩ := happlied hanswer
  exact ⟨hanswer, hundo (by decide)⟩

end Workbook

end Gridbook
