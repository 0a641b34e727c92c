import SqlCompose.Statement.Select
import SqlCompose.Statement.Insert
import SqlCompose.Statement.Update
import SqlCompose.Statement.Delete

/-!
# SqlCompose — statements of any kind

A statement is a SELECT, an INSERT, an UPDATE or a DELETE statement. What all of
them have is a table, a text, and answers to calls.
-/

namespace SqlCompose

/-- A statement of one of the four kinds. -/
inductive Statement where
  | select (s : Select)
  | insert (s : Insert)
  | update (s : Update)
  | delete (s : Delete)
  deriving Inhabited

namespace Statement

/-- A new statement of a kind on a table. -/
def create (kind : StatementKind) (table : Value) : Except Fault Statement :=
  match kind with
  | .select => (Select.create table).map select
  | .insert => (Insert.create table).map insert
  | .update => (Update.create table).map update
  | .delete => (Delete.create table).map delete

/-- The kind of a statement. -/
def kind : Statement → StatementKind
  | select _ => .select
  | insert _ => .insert
  | update _ => .update
  | delete _ => .delete

/-- The table that a statement is about. -/
def table : Statement → Value
  | select s => s.table
  | insert s => s.table
  | update s => s.table
  | delete s => s.table

/-- The statement on another table, which is not checked. -/
def withTable (table : Value) : Statement → Statement
  | select s => select { s with table := table }
  | insert s => insert { s with table := table }
  | update s => update { s with table := table }
  | delete s => delete { s with table := table }

/-- The text of a statement, given what stands for its fragments. -/
def render (text : Rendering) : Statement → Logged String
  | select s => s.render text
  | insert s => s.render text
  | update s => s.render text
  | delete s => s.render text

/-- The answer of a statement to a call. -/
def apply (text : Rendering) (s : Statement) (call : Call) : Answer Statement :=
  match s with
  | select s => (s.apply text call).map select
  | insert s => (s.apply text call).map insert
  | update s => (s.apply text call).map update
  | delete s => (s.apply text call).map delete

end Statement

end SqlCompose
