import SqlCompose.Proofs.Run
import SqlCompose.Session

/-!
# SqlCompose — refused calls leave no trace

Work on a statement may fail after a part of it was done, and then that part
stays. Two things keep this from showing: what can fail comes first and only
looks at the statement (`Work.LeavesAlone`), and what comes after it is a change
that cannot fail (`Work.Succeeds`). Work of this form is done as a whole or not
at all (`Work.AllOrNothing`), and every call is answered by work of this form
but one: several assignments at once are made one by one, and each is checked
when its turn comes (`Call.assignsSeveral`).

Main results:

* `Work.LeavesAlone.bind_allOrNothing` — a check may stand in front of anything
  that is done as a whole.
* `Statement.state_of_refused` — a statement that refuses a call is left as it
  was.
* `Session.refused_call_leaves_no_trace` — and so is everything else in a
  session.
-/

namespace SqlCompose

/-! ## Work that is done as a whole -/

namespace Work

variable {σ α β : Type}

/-- Whatever comes of the work, the statement is left as it was. -/
def LeavesAlone (work : Work σ α) : Prop := ∀ s, (work s).1 = s

/-- The work cannot fail. -/
def Succeeds (work : Work σ α) : Prop := ∀ s, (work s).2.result.isOk = true

/-- The work is done as a whole or not at all: if it fails, the statement is left as it was. -/
def AllOrNothing (work : Work σ α) : Prop :=
  ∀ s, ¬ (work s).2.result.isOk = true → (work s).1 = s

theorem leavesAlone_look : LeavesAlone (look : Work σ σ) := fun _ => rfl

theorem leavesAlone_ofLogged (outcome : Logged α) : LeavesAlone (ofLogged outcome : Work σ α) :=
  fun _ => rfl

/-- A check changes nothing. -/
theorem leavesAlone_require (check : Except Fault α) : LeavesAlone (require check : Work σ α) :=
  leavesAlone_ofLogged _

/-- A change is never refused. -/
theorem succeeds_change (f : σ → σ) : Succeeds (change f) := fun _ => rfl

theorem succeeds_replace (held : σ → Value) (notice : σ → Event) (f : σ → σ) :
    Succeeds (replace held notice f) := by
  intro s
  rw [replace_eq]
  rfl

/-- Work that is never refused is done as a whole. -/
theorem Succeeds.allOrNothing {work : Work σ α} (h : work.Succeeds) : work.AllOrNothing :=
  fun s hFailed => absurd (h s) hFailed

/-- A check may stand in front of anything that is done as a whole. -/
theorem LeavesAlone.bind_allOrNothing {work : Work σ α} {next : α → Work σ β}
    (hWork : work.LeavesAlone) (hNext : ∀ a, (next a).AllOrNothing) :
    AllOrNothing (work >>= next) := by
  intro s hFailed
  show (andThen work next s).1 = s
  replace hFailed : ¬ (andThen work next s).2.result.isOk = true := hFailed
  unfold andThen at hFailed ⊢
  cases hResult : (work s).2.result with
  | error fault => exact hWork s
  | ok a =>
    -- what failed is the rest, which has found the statement as it was
    simp only [hResult] at hFailed ⊢
    rw [hNext a _ hFailed]
    exact hWork s

/-- A check, and a change that follows it. -/
theorem allOrNothing_require_change (check : Except Fault α) (f : α → σ → σ) :
    AllOrNothing (require check >>= fun a => change (f a)) :=
  (leavesAlone_require check).bind_allOrNothing fun a => (succeeds_change (f a)).allOrNothing

end Work

namespace Answer

variable {σ α : Type} {s : σ}

/-- A call that is answered by work that is done as a whole leaves nothing behind if it is
refused. -/
theorem state_worked_of_refused {work : Work σ Unit} (h : work.AllOrNothing)
    (hRefused : ¬ (worked s work).reply.result.isOk = true) : (worked s work).state = s := by
  refine h s fun hOk => hRefused ?_
  rw [result_worked]
  cases hResult : (work s).2.result with
  | ok done => rfl
  | error fault =>
    rw [hResult] at hOk
    cases hOk

/-- The same for a check and a change that follows it. -/
theorem state_checked_of_refused {check : Except Fault α} {f : α → σ → σ}
    (hRefused : ¬ (worked s (Work.require check >>= fun a =>
      Work.change (f a))).reply.result.isOk = true) :
    (worked s (Work.require check >>= fun a => Work.change (f a))).state = s :=
  state_worked_of_refused (Work.allOrNothing_require_change check f) hRefused

/-- The same for something that is replaced. -/
theorem state_replaced_of_refused {held : σ → Value} {notice : σ → Event} {f : σ → σ}
    (hRefused : ¬ (worked s (Work.replace held notice f)).reply.result.isOk = true) :
    (worked s (Work.replace held notice f)).state = s :=
  state_worked_of_refused (Work.succeeds_replace held notice f).allOrNothing hRefused

end Answer

/-! ## The calls of each kind -/

variable {text : Rendering} {call : Call}

/-- A SELECT statement that refuses a call is left as it was. -/
theorem Select.state_of_refused {s : Select} (h : ¬ Run.isAccepted (apply text) s call = true) :
    (s.apply text call).state = s := by
  cases call with
  -- these are never refused
  | tableAlias name => exact absurd rfl h
  | condition body => exact Answer.state_replaced_of_refused h
  | groupCondition body => exact Answer.state_replaced_of_refused h
  -- these check their argument before they change anything
  | columns items => exact Answer.state_checked_of_refused h
  | join kind table on name => exact Answer.state_checked_of_refused h
  | joinOf kind table on name => exact Answer.state_checked_of_refused h
  | groupColumns items => exact Answer.state_checked_of_refused h
  | orderTerm column direction => exact Answer.state_checked_of_refused h
  | limit count => exact Answer.state_checked_of_refused h
  | offset count => exact Answer.state_checked_of_refused h
  -- these change nothing, whether they are refused or not
  | build => rfl
  | values items => rfl
  | assign column value => rfl

/-- An INSERT statement that refuses a call is left as it was. That its lists are equally long is
checked before either is changed. -/
theorem Insert.state_of_refused {s : Insert} (h : ¬ Run.isAccepted (apply text) s call = true) :
    (s.apply text call).state = s := by
  cases call with
  | columns items => exact Answer.state_checked_of_refused h
  | values items => exact Answer.state_checked_of_refused h
  | assign column value =>
    have hWork : (setValue text column value).AllOrNothing := by
      refine Work.leavesAlone_look.bind_allOrNothing fun found => ?_
      refine (Work.leavesAlone_ofLogged _).bind_allOrNothing fun _ => ?_
      exact (Work.succeeds_change _).allOrNothing
    exact Answer.state_worked_of_refused hWork h
  | _ => rfl

/-- Several assignments of an UPDATE statement are made one by one. -/
def Call.assignsSeveral : StatementKind → Call → Bool
  | .update, .columns _ => true
  | _, _ => false

/-- An UPDATE statement that refuses a call other than several assignments is left as it was. -/
theorem Update.state_of_refused {s : Update} (hCall : call.assignsSeveral .update = false)
    (h : ¬ Run.isAccepted (apply text) s call = true) : (s.apply text call).state = s := by
  cases call with
  | assign column value => exact Answer.state_checked_of_refused h
  | condition body => exact Answer.state_replaced_of_refused h
  | columns items => cases hCall
  | _ => rfl

/-- A DELETE statement that refuses a call is left as it was. -/
theorem Delete.state_of_refused {s : Delete} (h : ¬ Run.isAccepted (apply text) s call = true) :
    (s.apply text call).state = s := by
  cases call with
  | condition body => exact Answer.state_replaced_of_refused h
  | _ => rfl

/-- A statement that refuses a call other than several assignments is left as it was. -/
theorem Statement.state_of_refused {s : Statement} (hCall : call.assignsSeveral s.kind = false)
    (h : ¬ Run.isAccepted (apply text) s call = true) : (s.apply text call).state = s := by
  cases s with
  | select s => exact congrArg select (Select.state_of_refused h)
  | insert s => exact congrArg insert (Insert.state_of_refused h)
  | update s => exact congrArg update (Update.state_of_refused hCall h)
  | delete s => exact congrArg delete (Delete.state_of_refused h)

/-! ## Collections and sessions -/

/-- Putting back what is there changes nothing. -/
theorem Store.update_self {store : Store} {ref : StatementRef} {entry : Entry}
    (h : store.entry? ref = some entry) : store.update ref entry.content = store := by
  have hEntries : (store.entries.modify ref fun other => { other with content := entry.content }) =
      store.entries := by
    refine List.ext_getElem? fun place => ?_
    rw [List.getElem?_modify]
    by_cases hPlace : ref = place
    · -- the entry at the place is the one that the content is from
      have hThere : store.entries[place]? = some entry := hPlace ▸ h
      simp [hPlace, hThere]
    · simp [hPlace]
  show Store.mk _ = store
  rw [hEntries]

/-- **A refused call leaves no trace.** If a statement refuses a call, whatever the call is given,
then this statement, all others and the loggers are as they were. Only several assignments at once
to an UPDATE statement are left aside. -/
theorem Session.refused_call_leaves_no_trace (session : Session) {ref : StatementRef}
    {entry : Entry} (hEntry : session.store.entry? ref = some entry) {call : Call}
    (hCall : call.assignsSeveral entry.content.kind = false) {fault : Fault}
    (hRefused : (session.call ref entry call).2.result = .error fault) :
    (session.call ref entry call).1 = session := by
  have hStore : (session.store.call ref entry call).state = session.store := by
    replace hRefused : (session.store.call ref entry call).reply.result = .error fault := hRefused
    unfold Store.call at hRefused ⊢
    split
    · -- the kind knows the call: its statement refuses it, and is put back as it was
      rename_i hKnown
      rw [if_pos hKnown] at hRefused
      have hState : (entry.content.apply session.store.text call).state = entry.content := by
        refine Statement.state_of_refused hCall fun hAccepted => ?_
        replace hRefused :
          (entry.content.apply session.store.text call).reply.result = .error fault := hRefused
        rw [Run.isAccepted, hRefused] at hAccepted
        cases hAccepted
      show session.store.update ref (entry.content.apply session.store.text call).state = _
      rw [hState]
      exact Store.update_self hEntry
    · -- a call that is not known does not get to the statement
      rfl
  show { session with store := (session.store.call ref entry call).state } = session
  rw [hStore]

/-- A column waits for its value. -/
def tasksEntry : Entry where
  label := "tasks"
  className := "InsertBuilder"
  isOpen := false
  content := .insert
    { table := .text "tasks", columns := [.text "title", .text "owner"],
      values := [.text "'plan'"] }

theorem refused_assignment_leaves_tasksEntry :
    let session : Session := { store := { entries := [tasksEntry] } }
    let assignment := session.call 0 tasksEntry (.assign (.text "title") (.text "'ship'"))
    assignment.2.result = .error (.misaligned "tasks" 2 1) ∧ assignment.1 = session := by
  intro session assignment
  have hRefused : assignment.2.result = .error (.misaligned "tasks" 2 1) := rfl
  exact ⟨hRefused, session.refused_call_leaves_no_trace rfl rfl hRefused⟩

end SqlCompose
