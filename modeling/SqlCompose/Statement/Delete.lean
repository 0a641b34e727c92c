import SqlCompose.Argument
import SqlCompose.Clause
import SqlCompose.Statement.Call

/-!
# SqlCompose — DELETE statements

A table and a condition. Without a condition the statement is about every row.
-/

namespace SqlCompose

/-- The condition of a DELETE statement. -/
structure Delete where
  table : Value
  condition : Value := .null
  deriving Inhabited

namespace Delete

/-- A statement that deletes from a table. -/
def create (table : Value) : Except Fault Delete :=
  (Argument.table table).map fun checked => { table := checked }

/-- Sets the WHERE condition; replacing one that is there is reported. -/
def setCondition (condition : Value) : Work Delete Unit :=
  Work.replace Delete.condition (fun s => Event.replacing "delete" "WHERE" "filter" s.table)
    fun s => { s with condition := condition }

/-- The text of the statement; the report goes ahead of it. -/
def render (text : Rendering) (s : Delete) : Logged String := do
  Logged.report
    (Event.built "delete" "DELETE" s.table "unconditional" (.bool (!s.condition.isTrue)))
  let table ← text s.table
  let condition ← Clause.condition text "WHERE" s.condition
  pure (Clause.terminate ("DELETE FROM " ++ table ++ condition))

/-- The answer to a call. -/
def apply (text : Rendering) (s : Delete) (call : Call) : Answer Delete :=
  match call with
  | .condition body => .worked s (setCondition body)
  | .build => .built s (s.render text)
  | _ => .unknown s .delete call

end Delete

end SqlCompose
