import SqlCompose.Proofs.Log.Replacing
import SqlCompose.Proofs.Update.Assignments

/-!
# SqlCompose — the loggers have no say in what is built

Statements report what they do, but nothing comes back from the loggers: a call
is answered, and leaves a statement, as if there were none. So two runs that do
the same to the statements agree on all answers and on all statements, whatever
the loggers are at their start and whatever is done to these on the way.

The other direction is what the loggers see. That a condition was replaced is
reported by the call that replaces it, and whether there was one to replace is
told by the calls that were made on the same statement before: the last of them
that gave a condition has given one that is not null.

Main results:

* `Session.take_of_store` — one action, on sessions with one collection of
  statements.
* `Session.leftBy_after` — a run leaves of each statement what the calls on it
  make of a new one, by induction on its actions.
* `ConditionClause.held?_after` — the condition that calls leave is the one that
  was given last.
* `Session.logging_is_transparent` — two runs with any loggers, and the reports
  of the conditions that they replace.
-/

namespace SqlCompose

/-- What is added comes behind everything that is there. -/
theorem Store.entry?_add (store : Store) (entry : Entry) (ref : Nat) :
    Store.entry? (store.add entry).1 ref =
      if ref = store.size then some entry else store.entry? ref := by
  show (store.entries ++ [entry])[ref]? = if ref = store.entries.length then _ else _
  rw [List.getElem?_append, List.getElem?_singleton]
  split
  · rename_i hThere
    rw [if_neg (Nat.ne_of_lt hThere)]
    rfl
  · rename_i hBehind
    have hNone : store.entry? ref = none := List.getElem?_eq_none (Nat.le_of_not_lt hBehind)
    rw [hNone]
    exact if_congr (by omega) rfl rfl

namespace Session

/-- What is done with a session: a statement is created, a call is made on one, or the loggers are
changed in some way. -/
inductive Action where
  | create (label : String) (kind : StatementKind) (table : Value) (ownClass : Option String)
  | request (r : Request)
  | regulate (change : Hub → Hub)

/-- The action is about the statements. -/
def Action.isWork : Action → Bool
  | regulate _ => false
  | _ => true

/-- The session after an action, and what the action returned and reported. -/
def take (session : Session) : Action → Answer Session
  | .create label kind table ownClass =>
    ⟨(session.create label kind table ownClass).1,
      Logged.ofExcept ((session.create label kind table ownClass).2.map fun _ => .chained)⟩
  | .request r => (session.store.request r).map fun store => { session with store := store }
  | .regulate change => ⟨{ session with hub := change session.hub }, pure .chained⟩

/-- What is seen of an action on the statements: what it returns, or the error that it raises with
its message. -/
def seen (session : Session) (action : Action) : List (Except (Fault × String) Reply) :=
  if action.isWork then
    [(session.take action).reply.result.mapError fun fault =>
      (fault, fault.message session.nameplate)]
  else []

/-- What is seen of a run. -/
def seenIn (session : Session) (run : List Action) : List (Except (Fault × String) Reply) :=
  Run.noted take seen session run

/-- A call is answered by the session, and what it reports is delivered. -/
theorem call_eq_take {session : Session} {ref : StatementRef} {entry : Entry}
    (h : session.store.entry? ref = some entry) (call : Call) :
    session.call ref entry call =
      ((session.take (.request (ref, call))).state,
        session.respond (session.take (.request (ref, call))).reply) := by
  rw [take, Store.request, h]
  rfl

/-! ## Two runs -/

variable {a b : Session} {action : Action}

/-- With one collection of statements an action returns and reports the same, and leaves the same
collection. -/
theorem take_of_store (h : a.store = b.store) (action : Action) :
    (a.take action).reply = (b.take action).reply ∧
      (a.take action).state.store = (b.take action).state.store := by
  cases action with
  | create label kind table ownClass =>
    rw [take, take, create, create, h]
    cases Statement.create kind table with
    | ok content => exact ⟨rfl, rfl⟩
    | error fault => exact ⟨rfl, h⟩
  | request r =>
    rw [take, take, h]
    exact ⟨rfl, rfl⟩
  | regulate change => exact ⟨rfl, h⟩

/-- What is seen of an action is told by the statements alone. -/
theorem seen_of_store (h : a.store = b.store) (action : Action) :
    a.seen action = b.seen action := by
  rw [seen, seen, (take_of_store h action).1, nameplate, nameplate, h]

/-- What is done to the loggers on the way can be left out. -/
theorem run_of_store (h : a.store = b.store) (run : List Action) :
    (Run.after take a run).store = (Run.after take b (run.filter Action.isWork)).store ∧
      a.seenIn run = b.seenIn (run.filter Action.isWork) := by
  induction run generalizing a b with
  | nil => exact ⟨h, rfl⟩
  | cons action rest ih =>
    rw [List.filter_cons]
    split
    · -- both runs take the step
      obtain ⟨hAfter, hSeen⟩ := ih (take_of_store h action).2
      refine ⟨hAfter, ?_⟩
      rw [seenIn, Run.noted_cons, seenIn, Run.noted_cons, seen_of_store h action]
      exact congrArg _ hSeen
    · -- the step is taken in the first run only, and leaves the statements as they are
      rename_i hOther
      have hStore : (a.take action).state.store = b.store := by
        cases action with
        | regulate change => exact h
        | _ => exact absurd rfl hOther
      obtain ⟨hAfter, hSeen⟩ := ih hStore
      refine ⟨hAfter, ?_⟩
      rw [seenIn, Run.noted_cons, seen, if_neg hOther, List.nil_append]
      exact hSeen

/-! ## Statements in a run -/

/-- The calls of an action on a statement. -/
def calledOn (ref : StatementRef) (session : Session) : Action → List Call
  | .request r => if r.1 = ref ∧ (session.store.entry? ref).isSome then [r.2] else []
  | _ => []

/-- The calls of a run on a statement, from its creation on. -/
def callsOn (session : Session) (ref : StatementRef) (run : List Action) : List Call :=
  Run.noted take (calledOn ref) session run

variable {session : Session} {ref : StatementRef} {entry : Entry}

/-- An action leaves a statement as the calls of the action on it leave it. -/
theorem entry?_take_of_some (h : session.store.entry? ref = some entry) (action : Action) :
    Store.entry? (session.take action).state.store ref =
      some { entry with
        content := Run.after (Statement.apply .static) entry.content
          (session.calledOn ref action) } := by
  cases action with
  | create label kind table ownClass =>
    rw [take, create]
    cases Statement.create kind table with
    | error fault => exact h
    | ok content =>
      have hThere : ref ≠ session.store.size := Nat.ne_of_lt (List.getElem?_eq_some_iff.mp h).1
      exact (Store.entry?_add ..).trans ((if_neg hThere).trans h)
  | request r =>
    show Store.entry? (session.store.request r).state ref = _
    rw [Store.entry?_request, h, calledOn]
    split
    · rename_i hRef
      rw [if_pos ⟨hRef, by rw [h]; rfl⟩]
      rfl
    · rename_i hOther
      rw [if_neg fun hRef => hOther hRef.1]
      rfl
  | regulate change => exact h

/-- What an action brings about is a new statement. -/
theorem entry?_take_of_none (hNone : session.store.entry? ref = none) {action : Action}
    (h : Store.entry? (session.take action).state.store ref = some entry) :
    ∃ kind table, Statement.create kind table = .ok entry.content := by
  cases action with
  | create label kind table ownClass =>
    rw [take, create] at h
    cases hContent : Statement.create kind table with
    | error fault =>
      rw [hContent] at h
      cases hNone.symm.trans h
    | ok content =>
      rw [hContent] at h
      replace h := (Store.entry?_add ..).symm.trans h
      split at h
      · cases h
        exact ⟨kind, table, hContent⟩
      · cases hNone.symm.trans h
  | request r =>
    replace h : Store.entry? (session.store.request r).state ref = some entry := h
    rw [Store.entry?_request, hNone] at h
    split at h <;> cases h
  | regulate change => cases hNone.symm.trans h

theorem calledOn_of_none (h : session.store.entry? ref = none) (action : Action) :
    session.calledOn ref action = [] := by
  cases action with
  | request r => exact if_neg fun hRef => by rw [h] at hRef; cases hRef.2
  | _ => rfl

/-- The statements of a session are those that a run has left. -/
structure LeftBy (start : Session) (run : List Action) (session : Session) : Prop where
  /-- No call was made on what does not exist yet. -/
  unborn (ref : StatementRef) : session.store.entry? ref = none → start.callsOn ref run = []
  /-- A statement is what the calls on it have made of a new one. -/
  born (ref : StatementRef) (entry : Entry) : session.store.entry? ref = some entry →
    ∃ kind table fresh, Statement.create kind table = .ok fresh ∧
      entry.content = Run.after (Statement.apply .static) fresh (start.callsOn ref run)

/-- Every run that starts without statements leaves what the calls on each have made of it. -/
theorem leftBy_after (hub : Hub) (run : List Action) :
    LeftBy { hub := hub } run (Run.after take { hub := hub } run) := by
  refine @Run.induction_on_last _ _ take { hub := hub } (LeftBy { hub := hub }) run ?_ ?_
  · exact ⟨fun _ _ => rfl, fun ref entry h => by cases h⟩
  · intro done action _ h
    have hCalls : ∀ ref, ({ hub := hub } : Session).callsOn ref (done ++ [action]) =
        ({ hub := hub } : Session).callsOn ref done ++
          (Run.after take { hub := hub } done).calledOn ref action := fun ref =>
      Run.noted_concat ..
    refine ⟨fun ref hNone => ?_, fun ref entry hEntry => ?_⟩
    · -- nothing disappears, so what does not exist now did not exist before
      cases hBefore : (Run.after take { hub := hub } done).store.entry? ref with
      | none => rw [hCalls, h.unborn ref hBefore, calledOn_of_none hBefore, List.nil_append]
      | some old =>
        rw [entry?_take_of_some hBefore] at hNone
        cases hNone
    · rw [hCalls]
      cases hBefore : (Run.after take { hub := hub } done).store.entry? ref with
      | none =>
        -- the statement is new, and there were no calls on it
        obtain ⟨kind, table, hFresh⟩ := entry?_take_of_none hBefore hEntry
        refine ⟨kind, table, entry.content, hFresh, ?_⟩
        rw [h.unborn ref hBefore, calledOn_of_none hBefore]
        rfl
      | some old =>
        obtain ⟨kind, table, fresh, hFresh, hContent⟩ := h.born ref old hBefore
        rw [entry?_take_of_some hBefore] at hEntry
        refine ⟨kind, table, fresh, hFresh, ?_⟩
        rw [Run.after_append, ← hContent, ← Option.some.inj hEntry]

end Session

/-! ## What a statement has kept -/

/-- A new statement has a text for its table, and holds no condition. -/
theorem Statement.create_eq {kind : StatementKind} {table : Value} {s : Statement}
    (h : create kind table = .ok s) :
    s.table.isText = true ∧
      ∀ clause : ConditionClause, ∀ held, clause.held? s = some held → held = .null := by
  have hFresh : ∃ checked, Argument.table table = .ok checked ∧ s.table = checked ∧
      ∀ clause : ConditionClause, ∀ held, clause.held? s = some held → held = .null := by
    cases kind
    all_goals
      obtain ⟨made, hMade, rfl⟩ := exists_of_map_eq_ok h
      obtain ⟨checked, hTable, rfl⟩ := exists_of_map_eq_ok hMade
      refine ⟨checked, hTable, rfl, fun clause held hHeld => ?_⟩
      cases clause <;> cases hHeld <;> rfl
  obtain ⟨checked, hTable, hSame, hNone⟩ := hFresh
  obtain ⟨rfl, hText⟩ := Argument.isText_of_table hTable
  exact ⟨hSame ▸ hText, hNone⟩

/-- No call changes the table of a statement. -/
theorem Statement.table_after (text : Rendering) (s : Statement) (calls : List Call) :
    (Run.after (apply text) s calls).table = s.table := by
  induction calls generalizing s with
  | nil => rfl
  | cons call rest ih => rw [Run.after_cons, ih, table_apply]

/-- Calls leave the condition that was given last. -/
theorem ConditionClause.held?_after (clause : ConditionClause) (text : Rendering) {s : Statement}
    (hFresh : ∀ held, clause.held? s = some held → held = .null) (calls : List Call) :
    ∀ held, clause.held? (Run.after (Statement.apply text) s calls) = some held →
      held = Select.latest clause.given? calls := by
  refine @Run.induction_on_last _ _ (Statement.apply text) s
    (fun done s => ∀ held, clause.held? s = some held → held = Select.latest clause.given? done)
    calls hFresh ?_
  intro done call _ ih held hHeld
  rw [held?_apply] at hHeld
  obtain ⟨before, hBefore, rfl⟩ := Option.map_eq_some_iff.mp hHeld
  rw [Update.latest_concat, ← ih before hBefore]

namespace Session

/-! ## Reports of replaced conditions -/

variable {session : Session} {ref : StatementRef} {entry : Entry}

/-- The reports of which records are made when an action is taken. -/
def recorded (session : Session) (action : Action) : List Event :=
  (session.take action).reply.events.flatMap
    (session.hub.created session.store.text session.nameplate (session.store.size + 1))

/-- What is written because of an action. -/
def outputs (session : Session) (action : Action) : List Output :=
  (session.respond (session.take action).reply).outputs

/-- What a call that gives a condition brings about, where a condition was given before. -/
structure ReportsReplacement (session : Session) (ref : StatementRef) (s : Statement)
    (clause : ConditionClause) (body before : Value) : Prop where
  accepted : (session.take (.request (ref, clause.call body))).reply.result = .ok .chained
  /-- One record is made if the logger of the kind takes it and the condition before is not null;
  otherwise none. -/
  recorded : session.recorded (.request (ref, clause.call body)) =
    if session.hub.isEnabled (loggerBelow ("builder." ++ s.kind.word)) 10 ∧ before.isNull = false
    then [s.replacing clause] else []
  /-- Each sink that the logger reaches writes this record and nothing else. -/
  outputs : session.outputs (.request (ref, clause.call body)) =
    if session.hub.isEnabled (loggerBelow ("builder." ++ s.kind.word)) 10 ∧ before.isNull = false
    then (session.hub.reached (loggerBelow ("builder." ++ s.kind.word))).filterMap fun sink =>
      session.hub.written? session.store.text session.nameplate sink (s.replacing clause)
    else []
  /-- The message can be made, and has the table as it is. -/
  message (millis : Int) :
    (Record.ofEvent (s.replacing clause) millis).messageText session.store.text session.nameplate =
      pure ("Replacing " ++ clause.keyword ++ " condition on " ++ s.table.plain .blank)

/-- What giving a condition reports is told by the condition that was held. -/
theorem reportsReplacement (h : session.store.entry? ref = some entry) {clause : ConditionClause}
    {before : Value} (hTable : entry.content.table.isText = true)
    (hHeld : clause.held? entry.content = some before) (body : Value) :
    ReportsReplacement session ref entry.content clause body before := by
  obtain ⟨hResult, hEvents⟩ := Statement.events_conditionCall hHeld session.store.text body
  have hReply : (session.take (.request (ref, clause.call body))).reply =
      (entry.content.apply session.store.text (clause.call body)).reply := by
    show (session.store.request (ref, clause.call body)).reply = _
    rw [Store.request, h]
    show (session.store.call ref entry (clause.call body)).reply = _
    rw [Store.call, if_pos (Statement.knows_conditionCall hHeld body)]
    rfl
  refine ⟨?_, ?_, ?_, fun millis => Record.messageText_replacing _ _ hTable clause millis⟩
  · rw [hReply, hResult]
  · rw [Session.recorded, hReply, hEvents]
    cases before.isNull with
    | true => simp
    | false =>
      simp only [Bool.false_eq_true, if_false, List.flatMap_singleton, and_true]
      exact Hub.created_replacing hTable _
  · rw [Session.outputs, respond, Hub.deliverAll, hReply, hEvents]
    cases before.isNull with
    | true => simp
    | false =>
      simp only [Bool.false_eq_true, if_false, List.flatMap_singleton, and_true]
      exact Hub.deliver_replacing hTable _

/-- A call that gives no condition to a clause of the statement has no record of a replacement made,
not even by a statement among the fragments. -/
theorem recorded_other (h : session.store.entry? ref = some entry) {call : Call}
    (hCall : ∀ clause : ConditionClause, (clause.held? entry.content).isSome →
      clause.given? call = none) :
    ∀ event ∈ session.recorded (.request (ref, call)), ¬ event.IsReplacement := by
  have hText : ∀ v, (session.store.text v).Within (¬ Event.IsReplacement ·) :=
    session.store.within_text Statement.builtEvent_not_replacement
  have hReply : (session.take (.request (ref, call))).reply.Within (¬ Event.IsReplacement ·) := by
    show (session.store.request (ref, call)).reply.Within _
    rw [Store.request, h]
    show (session.store.call ref entry call).reply.Within _
    unfold Store.call
    split
    · exact Statement.within_apply (P := (¬ Event.IsReplacement ·))
        Statement.builtEvent_not_replacement hText hCall
    · exact Logged.within_fail _
  intro event hEvent
  obtain ⟨reported, hReported, hMade⟩ := List.mem_flatMap.mp hEvent
  exact Hub.within_created (Hub.within_write hText session.nameplate) _ (hReply reported hReported)
    event hMade

/-- **Logging is transparent, and replacements are reported exactly.** Two runs that do the same to
the statements, with loggers that may differ at the start and be changed in different ways at any
time, are answered alike and leave the same statements. A call that gives a condition to a statement
that a run has left brings about one record if the logger takes it and the condition that was given
last on this statement is not null, and otherwise none; and no other call brings about such a
record. -/
theorem logging_is_transparent (hub hub' : Hub) {run run' : List Action}
    (h : run.filter Action.isWork = run'.filter Action.isWork) :
    let start : Session := { hub := hub }
    let start' : Session := { hub := hub' }
    let left := Run.after take start run
    start.seenIn run = start'.seenIn run' ∧
    left.store = (Run.after take start' run').store ∧
    ∀ ref entry, left.store.entry? ref = some entry →
      (∀ clause, (ConditionClause.held? clause entry.content).isSome → ∀ body,
        ReportsReplacement left ref entry.content clause body
          (Select.latest clause.given? (start.callsOn ref run))) ∧
      ∀ call, (∀ clause, (ConditionClause.held? clause entry.content).isSome →
          clause.given? call = none) →
        ∀ event ∈ left.recorded (.request (ref, call)), ¬ event.IsReplacement := by
  intro start start' left
  obtain ⟨hStore, hSeen⟩ := run_of_store (a := start) (b := start) rfl run
  obtain ⟨hStore', hSeen'⟩ := run_of_store (a := start') (b := start) rfl run'
  refine ⟨?_, ?_, fun ref entry hEntry => ⟨fun clause hHas body => ?_, fun call hCall => ?_⟩⟩
  · rw [hSeen, hSeen', h]
  · show (Run.after take start run).store = (Run.after take start' run').store
    rw [hStore, hStore', h]
  · -- the statement is a new one after the calls on it
    obtain ⟨held, hHeld⟩ := Option.isSome_iff_exists.mp hHas
    obtain ⟨kind, table, fresh, hFresh, hContent⟩ := (leftBy_after hub run).born ref entry hEntry
    obtain ⟨hTable, hNone⟩ := Statement.create_eq hFresh
    have hLatest : held = Select.latest clause.given? (start.callsOn ref run) :=
      clause.held?_after .static (hNone clause) _ held (hContent ▸ hHeld)
    have hText : entry.content.table.isText = true := by
      rw [hContent, Statement.table_after]
      exact hTable
    exact reportsReplacement hEntry hText (hLatest ▸ hHeld) body
  · exact recorded_other hEntry hCall

/-- Conditions are given to two statements, taken away and given again, with texts built on the way;
one statement has a percent sign in the name of its table, and one call is refused. -/
def ordersWork : List Action :=
  [.create "open" .select (.text "100%s") none, .create "gone" .delete (.text "orders") none,
    .request (0, .condition (.text "a = 1")), .request (1, .condition (.statement 0)),
    .request (0, .groupCondition (.text "n > 1")), .request (1, .build),
    .request (0, .condition .null), .request (0, .limit (.int (-1))),
    .request (0, .condition (.text ""))]

/-- The same work, with logging turned on in the middle of it. -/
def debuggedWork : List Action :=
  ordersWork.take 4 ++
    .regulate (fun hub => (hub.setRank namespaceName 10).addSink (.extra 7)) :: ordersWork.drop 4

/-- What the work leaves of the first statement. -/
def openOrders : Statement :=
  .select { table := .text "100%s", condition := .text "", groupCondition := .text "n > 1" }

theorem debuggedWork_transparent :
    ({} : Session).seenIn debuggedWork = ({} : Session).seenIn ordersWork ∧
    (Run.after take {} debuggedWork).recorded (.request (0, .condition (.text "b = 2"))) =
      [openOrders.replacing .rows] ∧
    (Record.ofEvent (openOrders.replacing .rows) 0).messageText
      (Run.after take {} debuggedWork).store.text (Run.after take {} debuggedWork).nameplate =
        pure "Replacing WHERE condition on 100%s" := by
  have hWork : debuggedWork.filter Action.isWork = ordersWork.filter Action.isWork := rfl
  have hEntry : (Run.after take {} debuggedWork).store.entry? 0 =
      some ⟨"open", "SelectBuilder", false, openOrders⟩ := by rfl
  have hTaken : (Run.after take {} debuggedWork).hub.isEnabled
      (loggerBelow ("builder." ++ "select")) 10 = true := by decide
  have hLatest : Select.latest ConditionClause.rows.given?
      (({} : Session).callsOn 0 debuggedWork) = .text "" := rfl
  obtain ⟨hSeen, -, hAll⟩ := logging_is_transparent {} {} hWork
  have hReports := (hAll 0 _ hEntry).1 .rows rfl (.text "b = 2")
  rw [hLatest] at hReports
  exact ⟨hSeen, hReports.recorded.trans (if_pos ⟨hTaken, rfl⟩), hReports.message 0⟩

end Session

end SqlCompose
