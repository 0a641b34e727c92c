import SqlCompose.Argument
import SqlCompose.Clause
import SqlCompose.Statement.Call

/-!
# SqlCompose — UPDATE statements

The assignments form a table: a column keeps the place of its first assignment
and the value of its last. Several assignments given at once are made one after
the other, and those before a refused one stay. Without a condition the
statement is about every row.
-/

namespace SqlCompose

/-- The assignments and the condition of an UPDATE statement. -/
structure Update where
  table : Value
  assignments : List (Value × Value) := []
  condition : Value := .null
  deriving Inhabited

namespace Update

/-- A statement that updates a table. -/
def create (table : Value) : Except Fault Update :=
  (Argument.table table).map fun checked => { table := checked }

/-- Refuses a column that cannot be assigned to. -/
def checkColumn (column : Value) : Except Fault Unit :=
  match Value.unkeyable? column with
  | some part => .error (.unkeyable part)
  | none => .ok ()

/-- The statement with one more assignment. -/
def withAssignment (pair : Value × Value) (s : Update) : Update :=
  { s with assignments := Value.insertEntry pair.1 pair.2 s.assignments }

/-- Assigns a value to one column. -/
def assign (column value : Value) : Work Update Unit := do
  Work.require (checkColumn column)
  Work.change (withAssignment (column, value))

/-- A column and a value, given as one item: a list or a tuple of two, or two bytes. -/
def pair? : Value → Option (Value × Value)
  | .list [column, value] => some (column, value)
  | .tuple [column, value] => some (column, value)
  | .bytes [column, value] => some (.int column.toNat, .int value.toNat)
  | _ => none

/-- Refuses an item that is no column with a value. -/
def checkPair (item : Value) : Except Fault (Value × Value) :=
  match pair? item with
  | some pair => .ok pair
  | none => .error (.notAssignment item)

/-- The assignments that an argument stands for: the entries of a dictionary, or the items of
anything else. -/
def assignmentItems (given : Value) : Except Fault (List Value) :=
  match given with
  | .dict entries => .ok (entries.map fun entry => .tuple [entry.1, entry.2])
  | _ => match given.elements? with
    | some items => .ok items
    | none => .error (.notIterable given)

/-- Makes assignments one after the other until one is refused. -/
def assignEach : List Value → Work Update Unit
  | [] => pure ()
  | item :: rest => do
    let pair ← Work.require (checkPair item)
    assign pair.1 pair.2
    assignEach rest

/-- Makes several assignments at once. What was assigned before a refused one stays. -/
def assignAll (given : Value) : Work Update Unit := do
  let items ← Work.require (assignmentItems given)
  assignEach items

/-- Sets the WHERE condition; replacing one that is there is reported. -/
def setCondition (condition : Value) : Work Update Unit :=
  Work.replace Update.condition (fun s => Event.replacing "update" "WHERE" "filter" s.table)
    fun s => { s with condition := condition }

/-- The text of the statement. -/
def render (text : Rendering) (s : Update) : Logged String :=
  if s.assignments.isEmpty then do
    let table ← text s.table
    Logged.fail (.noAssignments table)
  else do
    let assignments ←
      Logged.each (fun entry => Clause.assignment text entry.1 entry.2) s.assignments
    let table ← text s.table
    let condition ← Clause.condition text "WHERE" s.condition
    Logged.report
      (Event.built "update" "UPDATE" s.table "unconditional" (.bool (!s.condition.isTrue)))
    pure (Clause.terminate
      ("UPDATE " ++ table ++ " SET " ++ Clause.separator.intercalate assignments ++ condition))

/-! ## Assignments one by one -/

/-- The column and the value that an item assigns, or why it is refused. -/
def checkItem (item : Value) : Except Fault (Value × Value) := do
  let pair ← checkPair item
  checkColumn pair.1
  pure pair

/-- A single assignment is made unless its column is refused. -/
theorem assign_eq (column value : Value) (s : Update) :
    assign column value s =
      match checkColumn column with
      | .ok _ => (s.withAssignment (column, value), ⟨.ok (), []⟩)
      | .error fault => (s, ⟨.error fault, []⟩) := by
  rw [assign, Work.require_bind]
  cases checkColumn column <;> rfl

/-- The first of several assignments is made unless it is refused, and then the rest. An item is
refused for what it is, never for what the statement holds. -/
theorem assignEach_cons (item : Value) (rest : List Value) (s : Update) :
    assignEach (item :: rest) s =
      match checkItem item with
      | .ok pair => assignEach rest (s.withAssignment pair)
      | .error fault => (s, ⟨.error fault, []⟩) := by
  rw [assignEach, Work.require_bind, checkItem]
  cases checkPair item with
  | error fault => rfl
  | ok pair =>
    show Work.andThen (assign pair.1 pair.2) (fun _ => assignEach rest) s = _
    rw [Work.andThen, assign_eq]
    cases hColumn : checkColumn pair.1 with
    | error fault => simp [hColumn, bind, Except.bind]
    | ok checked => simp [hColumn, bind, Except.bind, pure, Except.pure]

/-! ## Calls -/

/-- The answer to a call. -/
def apply (text : Rendering) (s : Update) (call : Call) : Answer Update :=
  match call with
  | .assign column value => .worked s (assign column value)
  | .columns items => .worked s (assignAll items)
  | .condition body => .worked s (setCondition body)
  | .build => .built s (s.render text)
  | _ => .unknown s .update call

end Update

end SqlCompose
