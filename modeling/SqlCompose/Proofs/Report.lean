import SqlCompose.Proofs.Run
import SqlCompose.Session

/-!
# SqlCompose — what building a text reports

Building a text is reported once the text is there, or ahead of it. It makes no
difference as long as the text can be written; but a list may hold an item that
is no text, and a fragment may be a statement that has no text itself. SELECT
and UPDATE statements are reported behind everything that can fail. INSERT and
DELETE statements are reported before their fragments are written, so a report
is made of texts that never come about (`Statement.reportsEarly`).

A statement among the fragments reports its own text while it is written. What
a statement reports of itself is what is left if its fragments report nothing
(`Rendering.quiet`, `Statement.ownReports`).

Main results:

* `Logged.Owns.bind` — what a sequence reports of itself, besides what its
  fragments report.
* `Statement.build_reports` — which texts are reported: those that are built,
  and of those that are not, the ones whose statement reports early.
-/

namespace SqlCompose

/-! ## What is reported besides the fragments -/

/-- The rendering that writes the same and reports nothing. -/
def Rendering.quiet (text : Rendering) : Rendering := fun v => Logged.ofExcept (text v).result

namespace Logged

variable {α β : Type} {own : List Event} {event : Event} {x y : Logged α} {f g : α → Logged β}

/-- Two runs of one operation, in the first of which the fragments report nothing: both return the
same, and what is reported in the first is `own`, which is a part of what the second reports. -/
structure Owns (own : List Event) (x y : Logged α) : Prop where
  result : x.result = y.result
  events : x.events = own
  kept : own.Sublist y.events

/-- What does not look at a fragment has all its reports of its own. -/
theorem owns_self (h : x.events = own) : Owns own x x :=
  ⟨rfl, h, h ▸ List.Sublist.refl x.events⟩

theorem owns_ofExcept (result : Except Fault α) : Owns [] (ofExcept result) (ofExcept result) :=
  owns_self rfl

theorem owns_pure (a : α) : Owns [] (pure a : Logged α) (pure a) := owns_self rfl

/-- A sequence reports what is its first part's own, and what is its second part's own if the first
does not fail. -/
theorem Owns.bind {more : α → List Event} (h : Owns own x y)
    (hMore : ∀ a, Owns (more a) (f a) (g a)) :
    Owns (own ++ match y.result with
      | .ok a => more a
      | .error _ => []) (x >>= f) (y >>= g) := by
  -- both runs get to the second part, or neither does
  refine ⟨?_, ?_, ?_⟩
  · rw [result_bind, result_bind, h.result]
    cases y.result with
    | ok a => exact (hMore a).result
    | error fault => rfl
  · rw [events_bind, h.result, h.events]
    cases y.result with
    | ok a => exact congrArg _ (hMore a).events
    | error fault => rfl
  · rw [events_bind]
    refine h.kept.append ?_
    cases y.result with
    | ok a => exact (hMore a).kept
    | error fault => exact List.Sublist.refl _

/-- A sequence of two parts that have nothing of their own has nothing of its own. -/
theorem Owns.bind_nil (h : Owns [] x y) (hMore : ∀ a, Owns [] (f a) (g a)) :
    Owns [] (x >>= f) (y >>= g) := by
  have hBind := h.bind hMore
  cases hResult : y.result with
  | ok a => rwa [hResult] at hBind
  | error fault => rwa [hResult] at hBind

/-- Behind a failure nothing is reported. -/
theorem Owns.bind_of_error (h : Owns [] x y) {fault : Fault} (hFault : y.result = .error fault) :
    Owns [] (x >>= f) (y >>= g) := by
  refine ⟨?_, ?_, List.nil_sublist _⟩
  · rw [result_bind, result_bind, h.result, hFault]
    rfl
  · rw [events_bind, h.events, h.result, hFault]
    rfl

/-- The event is reported if the operation returns something, and otherwise not. -/
abbrev OwnsOnSuccess (event : Event) (x y : Logged α) : Prop :=
  Owns (if y.result.isOk then [event] else []) x y

/-- Behind a part that has nothing of its own, the event is still reported on success only. -/
theorem Owns.bind_onSuccess (h : Owns [] x y) (hMore : ∀ a, OwnsOnSuccess event (f a) (g a)) :
    OwnsOnSuccess event (x >>= f) (y >>= g) := by
  have hBind := h.bind hMore
  rw [OwnsOnSuccess, result_bind]
  cases hResult : y.result with
  | ok a => rwa [hResult] at hBind
  | error fault => rwa [hResult] at hBind

/-- A report that is the last thing before the result. -/
theorem ownsOnSuccess_report (event : Event) (a : α) :
    OwnsOnSuccess event (report event >>= fun _ => pure a) (report event >>= fun _ => pure a) :=
  owns_self rfl

/-- A failure without a report. -/
theorem Owns.onSuccess_of_error (h : Owns [] x y) {fault : Fault}
    (hFault : y.result = .error fault) :
    OwnsOnSuccess event x y := by
  rw [OwnsOnSuccess, hFault]
  exact h

/-- A report in front of something that has nothing of its own is made in any case. -/
theorem Owns.report_bind (h : Owns [] x y) (event : Event) :
    Owns [event] (report event >>= fun _ => x) (report event >>= fun _ => y) := by
  have hReport : Owns [event] (report event) (report event) := owns_self rfl
  exact hReport.bind fun _ => h

/-- An operation for every element of a list has nothing of its own if no single one has. -/
theorem owns_each {row : List α} (h : ∀ a, Owns [] (f a) (g a)) :
    Owns [] (each f row) (each g row) := by
  induction row with
  | nil => exact owns_pure _
  | cons a rest ih => exact (h a).bind_nil fun b => ih.bind_nil fun bs => owns_pure _

end Logged

open Logged

/-! ## Fragments and clauses -/

variable (text : Rendering)

/-- A fragment that is written quietly. -/
theorem owns_fragment (v : Value) : Owns [] (text.quiet v) (text v) :=
  ⟨rfl, rfl, List.nil_sublist _⟩

namespace Clause

/-- A clause has no reports of its own: all are of what is shown in it. The other parts follow the
same way. -/
theorem owns_condition (keyword : String) (body : Value) :
    Owns [] (condition text.quiet keyword body) (condition text keyword body) := by
  unfold condition
  split
  · exact owns_pure _
  · exact (owns_fragment text body).bind_nil fun _ => owns_pure _

theorem owns_tableAlias (name : Value) :
    Owns [] (tableAlias text.quiet name) (tableAlias text name) := by
  unfold tableAlias
  split
  · exact (owns_fragment text name).bind_nil fun _ => owns_pure _
  · exact owns_pure _

theorem owns_join (kind table on name : Value) :
    Owns [] (join text.quiet kind table on name) (join text kind table on name) := by
  unfold join
  refine (owns_fragment text table).bind_nil fun target => ?_
  refine (owns_tableAlias text name).bind_nil fun renamed => ?_
  refine (owns_ofExcept (keywordOf kind)).bind_nil fun keyword => ?_
  exact (owns_fragment text on).bind_nil fun written => owns_pure _

theorem owns_orderTerm (column direction : Value) :
    Owns [] (orderTerm text.quiet column direction) (orderTerm text column direction) := by
  unfold orderTerm
  refine (owns_fragment text column).bind_nil fun written => ?_
  exact (owns_ofExcept (keywordOf direction)).bind_nil fun keyword => owns_pure _

theorem owns_assignment (column value : Value) :
    Owns [] (assignment text.quiet column value) (assignment text column value) := by
  unfold assignment
  refine (owns_fragment text column).bind_nil fun left => ?_
  exact (owns_fragment text value).bind_nil fun right => owns_pure _

end Clause

/-! ## The four kinds -/

/-- The report that the text of a statement was built. -/
def Statement.builtEvent : Statement → Event
  | select s => .built "select" "SELECT" s.table "joins" (.int (s.joins.length : Nat))
  | insert s => .built "insert" "INSERT" s.table "columns" (.int (s.columns.length : Nat))
  | update s => .built "update" "UPDATE" s.table "unconditional" (.bool (!s.condition.isTrue))
  | delete s => .built "delete" "DELETE" s.table "unconditional" (.bool (!s.condition.isTrue))

/-- A SELECT statement reports its text when it is there. -/
theorem Select.owns_render (s : Select) :
    OwnsOnSuccess (Statement.select s).builtEvent (s.render text.quiet) (s.render text) := by
  unfold render
  have hJoin : ∀ join : Join, Owns [] (join.render text.quiet) (join.render text) :=
    fun join => Clause.owns_join text _ _ _ _
  have hTerm : ∀ term : OrderTerm, Owns [] (term.render text.quiet) (term.render text) :=
    fun term => Clause.owns_orderTerm text _ _
  -- clause by clause, in the order in which they are written
  refine (owns_ofExcept (Clause.list s.columns)).bind_onSuccess fun columns => ?_
  refine (owns_fragment text s.table).bind_onSuccess fun table => ?_
  refine (Clause.owns_tableAlias text s.tableAlias).bind_onSuccess fun name => ?_
  refine (owns_each hJoin).bind_onSuccess fun joins => ?_
  refine (Clause.owns_condition text "WHERE" s.condition).bind_onSuccess fun condition => ?_
  refine (owns_ofExcept (Clause.listClause "GROUP BY" s.groupColumns)).bind_onSuccess
    fun grouping => ?_
  refine (Clause.owns_condition text "HAVING" s.groupCondition).bind_onSuccess
    fun groupCondition => ?_
  refine (owns_each hTerm).bind_onSuccess fun terms => ?_
  exact ownsOnSuccess_report _ _

/-- An UPDATE statement reports its text when it is there. -/
theorem Update.owns_render (s : Update) :
    OwnsOnSuccess (Statement.update s).builtEvent (s.render text.quiet) (s.render text) := by
  unfold render
  split
  · -- without an assignment there is no text, and no report
    refine (owns_fragment text s.table).bind_onSuccess fun table => ?_
    exact (owns_ofExcept (.error (.noAssignments table))).onSuccess_of_error rfl
  · have hEntry : ∀ entry : Value × Value,
        Owns [] (Clause.assignment text.quiet entry.1 entry.2)
          (Clause.assignment text entry.1 entry.2) :=
      fun entry => Clause.owns_assignment text entry.1 entry.2
    refine (owns_each hEntry).bind_onSuccess fun assignments => ?_
    refine (owns_fragment text s.table).bind_onSuccess fun table => ?_
    refine (Clause.owns_condition text "WHERE" s.condition).bind_onSuccess fun condition => ?_
    exact ownsOnSuccess_report _ _

/-- Neither has the check of the lists of an INSERT statement. -/
theorem Insert.owns_requireAligned (s : Insert) :
    Owns [] (s.requireAligned text.quiet) (s.requireAligned text) := by
  unfold requireAligned
  split
  · exact owns_pure _
  · exact (owns_fragment text s.table).bind_nil fun table => owns_ofExcept _

/-- An INSERT statement reports its text as soon as its lists are equally long and not empty, before
it is known whether their items are texts. -/
theorem Insert.owns_render (s : Insert) :
    Owns (if s.isAligned && !s.columns.isEmpty then [(Statement.insert s).builtEvent] else [])
      (s.render text.quiet) (s.render text) := by
  unfold render
  by_cases hAligned : s.isAligned = true
  · rw [requireAligned_of_isAligned text.quiet hAligned, requireAligned_of_isAligned text hAligned,
      pure_bind, pure_bind, hAligned]
    cases hEmpty : s.columns.isEmpty with
    | true =>
      -- without a column there is no text, and no report
      exact (owns_fragment text s.table).bind_nil fun table => owns_ofExcept _
    | false =>
      -- the lists are written behind the report, and may fail then
      refine Owns.report_bind ?_ _
      refine (owns_fragment text s.table).bind_nil fun table => ?_
      refine (owns_ofExcept (Clause.list s.columns)).bind_nil fun columns => ?_
      exact (owns_ofExcept (Clause.list s.values)).bind_nil fun values => owns_pure _
  · -- lists that differ in length are refused before anything is reported
    obtain ⟨fault, hFault⟩ := requireAligned_of_not_isAligned text hAligned
    rw [Bool.eq_false_iff.mpr hAligned]
    exact (s.owns_requireAligned text).bind_of_error hFault

/-- A DELETE statement reports its text before it is written. -/
theorem Delete.owns_render (s : Delete) :
    Owns [(Statement.delete s).builtEvent] (s.render text.quiet) (s.render text) := by
  unfold render
  refine Owns.report_bind ?_ _
  refine (owns_fragment text s.table).bind_nil fun table => ?_
  exact (Clause.owns_condition text "WHERE" s.condition).bind_nil fun condition => owns_pure _

/-! ## Statements of any kind -/

namespace Statement

/-- What building the text of a statement reports of itself, and not of the statements among its
fragments. -/
def ownReports (text : Rendering) (s : Statement) : List Event := (s.render text.quiet).events

/-- The text is reported before it is known whether it can be written. -/
def reportsEarly : Statement → Bool
  | select _ => false
  | insert s => s.isAligned && !s.columns.isEmpty
  | update _ => false
  | delete _ => true

/-- The text of an INSERT statement is written only if it was reported before. -/
theorem reportsEarly_of_isOk {s : Insert} (h : (s.render text).result.isOk = true) :
    (insert s).reportsEarly = true := by
  unfold Insert.render at h
  rw [result_bind] at h
  by_cases hAligned : s.isAligned = true
  · rw [Insert.requireAligned_of_isAligned text hAligned] at h
    cases hEmpty : s.columns.isEmpty with
    | false => rw [reportsEarly, hAligned, hEmpty]; rfl
    | true =>
      -- a statement without columns is refused, whether its table can be written or not
      simp only [hEmpty, result_pure, Except.bind, if_true, result_bind] at h
      cases hTable : (text s.table).result with
      | ok table => rw [hTable] at h; cases h
      | error fault => rw [hTable] at h; cases h
  · obtain ⟨fault, hFault⟩ := Insert.requireAligned_of_not_isAligned text hAligned
    rw [hFault] at h
    cases h

/-- A statement reports its text if it is there, and otherwise if it reports early. -/
theorem owns_render (s : Statement) :
    Owns (if (s.render text).result.isOk || s.reportsEarly then [s.builtEvent] else [])
      (s.render text.quiet) (s.render text) := by
  cases s with
  | select s =>
    rw [reportsEarly, Bool.or_false]
    exact s.owns_render text
  | insert s =>
    -- what is built was reported early, so being built adds nothing
    have hEarly : (((insert s).render text).result.isOk || (insert s).reportsEarly) =
        (insert s).reportsEarly := by
      cases hOk : ((insert s).render text).result.isOk with
      | true => rw [reportsEarly_of_isOk text hOk]; rfl
      | false => rfl
    rw [hEarly]
    exact s.owns_render text
  | update s =>
    rw [reportsEarly, Bool.or_false]
    exact s.owns_render text
  | delete s =>
    rw [reportsEarly, Bool.or_true]
    exact s.owns_render text

/-- Building is answered with the text, and reports what writing it reports. -/
theorem reply_build (s : Statement) :
    (s.apply text .build).reply = (do
      let sql ← s.render text
      pure (.built sql)) := by
  cases s <;> rfl

/-- **Which texts are reported.** When a statement is built, what it reports of itself is that its
text was built, and this once: if there is a text, and if there is none but the statement reports
early. The statements among its fragments have no part in this. -/
theorem build_reports (s : Statement) :
    s.ownReports text =
        (if (s.apply text .build).reply.result.isOk || s.reportsEarly then [s.builtEvent] else []) ∧
      (s.ownReports text).Sublist (s.apply text .build).reply.events ∧
      (s.render text.quiet).result = (s.render text).result := by
  obtain ⟨hResult, hEvents, hKept⟩ := s.owns_render text
  have hOk : (s.apply text .build).reply.result.isOk = (s.render text).result.isOk := by
    rw [reply_build, result_bind]
    cases (s.render text).result <;> rfl
  have hReply : (s.apply text .build).reply.events = (s.render text).events := by
    rw [reply_build, events_bind]
    cases (s.render text).result <;> exact List.append_nil _
  refine ⟨?_, ?_, hResult⟩
  · rw [hOk]
    exact hEvents
  · rw [hReply, ownReports, hEvents]
    exact hKept

end Statement

/-! ## A text that is reported and never built -/

/-- An INSERT statement with a number for a column. -/
def numbersEntry : Entry where
  label := "numbers"
  className := "InsertBuilder"
  isOpen := false
  content := .insert (Run.after (Insert.apply (Store.text {})) { table := .text "numbers" }
    [.columns (.list [.int 1]), .values (.list [.text "x"])])

/-- The statement fails to be built, and a sink that takes all reports is told that it was built. -/
theorem Session.build_of_numbersEntry :
    let session := Session.capture { store := { entries := [numbersEntry] } } Level.debug.rank 0
    let answer := (session.call 0 numbersEntry .build).2
    answer.result = .error (.notText 0 (.int 1)) ∧
      answer.outputs = [.kept 0
        { logger := "fluentsql.builder.insert"
          level := "DEBUG"
          message := "Built INSERT statement"
          module := "logging"
          function := "log_with_context"
          fields := some
            (.dict [(.text "table", .text "numbers"), (.text "columns", .int 1)]) }] := by
  exact ⟨rfl, rfl⟩

end SqlCompose
