import SqlCompose.Statement.Work

/-!
# SqlCompose — calls and their answers

Working on a statement is a sequence of calls. A call is answered by the
statement itself, so that calls can be chained, by the text that was built, or
by a failure; with the answer comes the statement after the call.
-/

namespace SqlCompose

/-- The four kinds of statements. -/
inductive StatementKind where
  | select
  | insert
  | update
  | delete
  deriving DecidableEq, Inhabited

/-- What can be asked of a statement. Each kind knows only the calls that make sense for it. -/
inductive Call where
  | tableAlias (name : Value)
  | columns (items : Value)
  | values (items : Value)
  | assign (column value : Value)
  | join (kind table condition tableAlias : Value)
  /-- A join whose kind is part of the name of the call. -/
  | joinOf (kind : JoinKind) (table condition tableAlias : Value)
  | condition (body : Value)
  | groupColumns (items : Value)
  | groupCondition (body : Value)
  | orderTerm (column direction : Value)
  | limit (count : Value)
  | offset (count : Value)
  | build
  deriving Inhabited

/-- The name of the call for a join of a kind. -/
def JoinKind.callName : JoinKind → String
  | inner => "inner_join"
  | left => "left_join"
  | right => "right_join"
  | full => "full_join"

/-- The name of a call. -/
def Call.name : Call → String
  | tableAlias _ => "as_alias"
  | columns _ => "fields"
  | values _ => "values"
  | assign _ _ => "set"
  | join _ _ _ _ => "join"
  | joinOf kind _ _ _ => kind.callName
  | condition _ => "filter"
  | groupColumns _ => "group_by"
  | groupCondition _ => "having"
  | orderTerm _ _ => "order_by"
  | limit _ => "limit"
  | offset _ => "offset"
  | build => "build"

namespace StatementKind

/-- The name of the class of a kind. -/
def className : StatementKind → String
  | select => "SelectBuilder"
  | insert => "InsertBuilder"
  | update => "UpdateBuilder"
  | delete => "DeleteBuilder"

/-- The names of the calls that a kind knows. -/
def operations : StatementKind → List String
  | select =>
    ["as_alias", "fields", "join", "inner_join", "left_join", "right_join", "full_join", "filter",
      "group_by", "having", "order_by", "limit", "offset", "build"]
  | insert => ["fields", "values", "set", "build"]
  | update => ["set", "fields", "filter", "build"]
  | delete => ["filter", "build"]

end StatementKind

/-- The answer to a call that did not fail. -/
inductive Reply where
  /-- The statement itself, ready for the next call. -/
  | chained
  /-- The text that was built. -/
  | built (sql : String)
  deriving DecidableEq, Inhabited

/-- A statement after a call, and what the call returned and reported. -/
structure Answer (σ : Type) where
  state : σ
  reply : Logged Reply

namespace Answer

/-- The answer to work on the statement: the statement as the work leaves it, ready for the next
call unless the work failed. -/
def worked {σ : Type} (s : σ) (work : Work σ Unit) : Answer σ :=
  ⟨(work s).1, do
    (work s).2
    pure .chained⟩

/-- The answer of building the text, which changes nothing. -/
def built {σ : Type} (s : σ) (text : Logged String) : Answer σ :=
  ⟨s, do
    let sql ← text
    pure (.built sql)⟩

/-- The answer to a call that a kind does not know. -/
def unknown {σ : Type} (s : σ) (kind : StatementKind) (call : Call) : Answer σ :=
  ⟨s, Logged.fail (.noSlot kind.className call.name)⟩

/-- The same answer for a statement seen as something else. -/
def map {σ τ : Type} (f : σ → τ) (answer : Answer σ) : Answer τ :=
  ⟨f answer.state, answer.reply⟩

end Answer

end SqlCompose
