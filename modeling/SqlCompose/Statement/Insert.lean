import SqlCompose.Argument
import SqlCompose.Clause
import SqlCompose.Statement.Call

/-!
# SqlCompose — INSERT statements

A single row: columns and values are aligned by position. Both lists may be
grown in bulk and independently, so they may be misaligned in between; setting a
single column and building the text need them aligned.
-/

namespace SqlCompose

/-- The columns and values of an INSERT statement. -/
structure Insert where
  table : Value
  columns : List Value := []
  values : List Value := []
  deriving Inhabited

namespace Insert

/-- A statement that inserts into a table. -/
def create (table : Value) : Except Fault Insert :=
  (Argument.table table).map fun checked => { table := checked }

/-- Appends columns. -/
def addColumns (columns : Value) : Work Insert Unit := do
  let items ← Work.require (Argument.items "fields" columns)
  Work.change fun s => { s with columns := s.columns ++ items }

/-- Appends values. -/
def addValues (values : Value) : Work Insert Unit := do
  let items ← Work.require (Argument.items "values" values)
  Work.change fun s => { s with values := s.values ++ items }

/-- Every column has a value, and every value a column. -/
def isAligned (s : Insert) : Bool := s.columns.length == s.values.length

/-- Refuses a statement whose lists differ in length. -/
def requireAligned (text : Rendering) (s : Insert) : Logged Unit :=
  if s.isAligned then pure ()
  else do
    let table ← text s.table
    Logged.fail (.misaligned table s.columns.length s.values.length)

theorem requireAligned_of_isAligned (text : Rendering) {s : Insert} (h : s.isAligned = true) :
    s.requireAligned text = pure () := by
  rw [requireAligned, if_pos h]

/-- The refusal names the table; if that cannot be written, it is a refusal all the same. -/
theorem requireAligned_of_not_isAligned (text : Rendering) {s : Insert}
    (h : ¬ s.isAligned = true) : ∃ fault, (s.requireAligned text).result = .error fault := by
  rw [requireAligned, if_neg h, Logged.result_bind]
  cases (text s.table).result with
  | ok table => exact ⟨_, rfl⟩
  | error fault => exact ⟨fault, rfl⟩

/-- The place of the first column that equals the given one. -/
def columnIndex? (column : Value) (columns : List Value) : Option Nat :=
  columns.findIdx? fun present => Value.equal present column

/-- Gives a column its value: in place if the column is there, at the end otherwise. -/
def assign (column value : Value) (s : Insert) : Insert :=
  match columnIndex? column s.columns with
  | some index => { s with values := s.values.set index value }
  | none => { s with columns := s.columns ++ [column], values := s.values ++ [value] }

/-- Sets the value of one column. -/
def setValue (text : Rendering) (column value : Value) : Work Insert Unit := do
  let s ← Work.look
  Work.ofLogged (s.requireAligned text)
  Work.change (assign column value)

/-- The text of the statement. -/
def render (text : Rendering) (s : Insert) : Logged String := do
  s.requireAligned text
  if s.columns.isEmpty then
    let table ← text s.table
    Logged.fail (.noColumns table)
  else
    Logged.report
      (Event.built "insert" "INSERT" s.table "columns" (.int (s.columns.length : Nat)))
    let table ← text s.table
    let columns ← Logged.ofExcept (Clause.list s.columns)
    let values ← Logged.ofExcept (Clause.list s.values)
    pure (Clause.terminate
      ("INSERT INTO " ++ table ++ " (" ++ columns ++ ") VALUES (" ++ values ++ ")"))

/-! ## Calls -/

/-- The answer to a call. -/
def apply (text : Rendering) (s : Insert) (call : Call) : Answer Insert :=
  match call with
  | .columns items => .worked s (addColumns items)
  | .values items => .worked s (addValues items)
  | .assign column value => .worked s (setValue text column value)
  | .build => .built s (s.render text)
  | _ => .unknown s .insert call

end Insert

end SqlCompose
