import SqlCompose.Argument
import SqlCompose.Clause
import SqlCompose.Statement.Call

/-!
# SqlCompose — SELECT statements

Clauses may be given in any order; they are always written in the fixed order
`SELECT … FROM … JOIN … WHERE … GROUP BY … HAVING … ORDER BY … LIMIT … OFFSET …`.
Lists grow with every call, conditions and the alias are replaced, and a count
is replaced by the last one that was accepted. A call that is refused changes
nothing.
-/

namespace SqlCompose

/-- A join of a SELECT statement. -/
structure Join where
  kind : JoinKind
  table : Value
  condition : Value
  tableAlias : Value
  deriving Inhabited

/-- The text of a join. -/
def Join.render (text : Rendering) (join : Join) : Logged String :=
  Clause.join text (.join join.kind) join.table join.condition join.tableAlias

/-- A term of the ORDER BY clause. -/
structure OrderTerm where
  column : Value
  direction : SortOrder
  deriving Inhabited

/-- The text of a term of an ordering. -/
def OrderTerm.render (text : Rendering) (term : OrderTerm) : Logged String :=
  Clause.orderTerm text term.column (.order term.direction)

/-- The clauses of a SELECT statement. -/
structure Select where
  table : Value
  tableAlias : Value := .null
  columns : List Value := []
  joins : List Join := []
  condition : Value := .null
  groupColumns : List Value := []
  groupCondition : Value := .null
  orderTerms : List OrderTerm := []
  /-- The count of the LIMIT clause, as it was given. -/
  limit : Option Value := none
  /-- The count of the OFFSET clause, as it was given. -/
  offset : Option Value := none
  deriving Inhabited

namespace Select

/-- A statement that selects everything from a table. -/
def create (table : Value) : Except Fault Select :=
  (Argument.table table).map fun checked => { table := checked }

/-! ## Clauses one by one -/

/-- Renames the table of the FROM clause. -/
def setAlias (name : Value) : Work Select Unit :=
  Work.change fun s => { s with tableAlias := name }

/-- Appends columns to the list that is selected. -/
def addColumns (columns : Value) : Work Select Unit := do
  let items ← Work.require (Argument.items "fields" columns)
  Work.change fun s => { s with columns := s.columns ++ items }

/-- Appends a join. -/
def addJoin (kind table condition tableAlias : Value) : Work Select Unit := do
  let kind ← Work.require (Argument.joinKind kind)
  Work.change fun s => { s with joins := s.joins ++ [⟨kind, table, condition, tableAlias⟩] }

/-- Sets the WHERE condition; replacing one that is there is reported. -/
def setCondition (condition : Value) : Work Select Unit :=
  Work.replace Select.condition (fun s => Event.replacing "select" "WHERE" "filter" s.table)
    fun s => { s with condition := condition }

/-- Appends expressions to the GROUP BY clause. -/
def addGroupColumns (columns : Value) : Work Select Unit := do
  let items ← Work.require (Argument.items "GROUP BY" columns)
  Work.change fun s => { s with groupColumns := s.groupColumns ++ items }

/-- Sets the HAVING condition; replacing one that is there is reported. -/
def setGroupCondition (condition : Value) : Work Select Unit :=
  Work.replace Select.groupCondition
    (fun s => Event.replacing "select" "HAVING" "having" s.table)
    fun s => { s with groupCondition := condition }

/-- Appends a term to the ORDER BY clause. -/
def addOrderTerm (column direction : Value) : Work Select Unit := do
  let direction ← Work.require (Argument.sortOrder direction)
  Work.change fun s => { s with orderTerms := s.orderTerms ++ [⟨column, direction⟩] }

/-- Sets the LIMIT clause. -/
def setLimit (count : Value) : Work Select Unit := do
  let count ← Work.require (Argument.count "LIMIT" count)
  Work.change fun s => { s with limit := some count }

/-- Sets the OFFSET clause. -/
def setOffset (count : Value) : Work Select Unit := do
  let count ← Work.require (Argument.count "OFFSET" count)
  Work.change fun s => { s with offset := some count }

/-! ## The text -/

/-- The list of columns as it is written: everything, if there is nothing to write. -/
def columnText (joined : String) : String := if joined = "" then "*" else joined

/-- A LIMIT or OFFSET clause. What stands for the count is up to the type of the count. -/
def countClause (keyword : String) : Option Value → String
  | some count => " " ++ keyword ++ " " ++ count.formatted .blank
  | none => ""

/-- The text of the statement. -/
def render (text : Rendering) (s : Select) : Logged String := do
  let columns ← Logged.ofExcept (Clause.list s.columns)
  let table ← text s.table
  let tableAlias ← Clause.tableAlias text s.tableAlias
  let joins ← Logged.each (Join.render text) s.joins
  let condition ← Clause.condition text "WHERE" s.condition
  let grouping ← Logged.ofExcept (Clause.listClause "GROUP BY" s.groupColumns)
  let groupCondition ← Clause.condition text "HAVING" s.groupCondition
  let terms ← Logged.each (OrderTerm.render text) s.orderTerms
  Logged.report
    (Event.built "select" "SELECT" s.table "joins" (.int (s.joins.length : Nat)))
  pure <| Clause.terminate <|
    "SELECT " ++ columnText columns ++ " FROM " ++ table ++ tableAlias
      ++ String.join joins ++ condition ++ grouping ++ groupCondition
      ++ Clause.optional "ORDER BY" (Clause.separator.intercalate terms)
      ++ countClause "LIMIT" s.limit ++ countClause "OFFSET" s.offset

/-! ## Calls -/

/-- The answer to a call. -/
def apply (text : Rendering) (s : Select) (call : Call) : Answer Select :=
  match call with
  | .tableAlias name => .worked s (setAlias name)
  | .columns items => .worked s (addColumns items)
  | .join kind table condition tableAlias =>
    .worked s (addJoin kind table condition tableAlias)
  | .joinOf kind table condition tableAlias =>
    .worked s (addJoin (.join kind) table condition tableAlias)
  | .condition body => .worked s (setCondition body)
  | .groupColumns items => .worked s (addGroupColumns items)
  | .groupCondition body => .worked s (setGroupCondition body)
  | .orderTerm column direction => .worked s (addOrderTerm column direction)
  | .limit count => .worked s (setLimit count)
  | .offset count => .worked s (setOffset count)
  | .build => .built s (s.render text)
  | .values _ => .unknown s .select call
  | .assign _ _ => .unknown s .select call

end Select

end SqlCompose
