import SqlCompose.Proofs.Literal

/-!
# SqlCompose — what writing a statement comes to

Writing a statement takes its fragments one after the other and stops at the
first thing that cannot be written. Seen from outside that is a list and a text:
the faults of everything that is written, in the order in which it is written
(`Statement.faults`), and the text that the statement has if there are none
(`Statement.layout`). Both are functions of the clauses and of what each
fragment comes to by itself, so nothing here is about a collection of
statements.

* `Logged.outcome_bind`, `Logged.outcome_each` — how the outcome of a sequence
  is made of the outcomes of its parts.
* `Statement.result_render` — the outcome of writing a statement.
-/

namespace SqlCompose

/-! ## Outcomes -/

/-- Something, unless there are faults; then the first of them. -/
def outcomeOf {α : Type} : List Fault → α → Except Fault α
  | [], a => .ok a
  | fault :: _, _ => .error fault

/-- An operation fails with the first of its reasons. -/
theorem outcomeOf_eq_error {α : Type} {faults : List Fault} {a : α} {fault : Fault} :
    outcomeOf faults a = .error fault ↔ faults.head? = some fault := by
  cases faults with
  | nil => simp [outcomeOf]
  | cons first rest => simp [outcomeOf]

/-- It succeeds if there is no reason, and then with what it makes. -/
theorem outcomeOf_eq_ok {α : Type} {faults : List Fault} {a b : α} :
    outcomeOf faults a = .ok b ↔ faults = [] ∧ b = a := by
  cases faults with
  | nil => simp [outcomeOf, eq_comm]
  | cons first rest => simp [outcomeOf]

/-- What is made of the result does not depend on the reasons. -/
theorem map_outcomeOf {α β : Type} (faults : List Fault) (a : α) (g : α → β) :
    (outcomeOf faults a).map g = outcomeOf faults (g a) := by
  cases faults <;> rfl

namespace Logged

variable {α β : Type}

/-- A sequence has the faults of both parts. -/
theorem outcome_bind {x : Logged α} {f : α → Logged β} {faults more : List Fault} {a : α} {b : β}
    (hx : x.result = outcomeOf faults a) (hf : (f a).result = outcomeOf more b) :
    (x >>= f).result = outcomeOf (faults ++ more) b := by
  rw [result_bind, hx]
  cases faults with
  | nil => exact hf
  | cons fault rest => rfl

/-- What follows a part without faults decides alone. -/
theorem outcome_bind_nil {x : Logged α} {f : α → Logged β} {more : List Fault} {a : α} {b : β}
    (hx : x.result = .ok a) (hf : (f a).result = outcomeOf more b) :
    (x >>= f).result = outcomeOf more b := by
  rw [result_bind, hx]
  exact hf

/-- A part that cannot fail adds no faults. -/
theorem outcome_bind_ok {x : Logged α} {f : α → Logged β} {faults : List Fault} {a : α} {b : β}
    (hx : x.result = outcomeOf faults a) (hf : (f a).result = .ok b) :
    (x >>= f).result = outcomeOf faults b := by
  rw [result_bind, hx]
  cases faults with
  | nil => exact hf
  | cons fault rest => rfl

/-- An operation for every element of a list has the faults of all of them. -/
theorem outcome_each {f : α → Logged β} {faults : α → List Fault} {g : α → β} {row : List α}
    (h : ∀ a ∈ row, (f a).result = outcomeOf (faults a) (g a)) :
    (each f row).result = outcomeOf (row.flatMap faults) (row.map g) := by
  induction row with
  | nil => rfl
  | cons a rest ih =>
    have hRest := ih fun b hb => h b (List.mem_cons_of_mem _ hb)
    exact outcome_bind (h a (List.mem_cons_self ..)) (outcome_bind_ok hRest rfl)

end Logged

open Logged

/-! ## Fragments and rows -/

namespace Rendering

/-- Why a fragment cannot be written. -/
def faults (text : Rendering) (v : Value) : List Fault :=
  match (text v).result with
  | .ok _ => []
  | .error fault => [fault]

/-- What is written of a fragment; nothing, if it cannot be written. -/
def write (text : Rendering) (v : Value) : String :=
  match (text v).result with
  | .ok s => s
  | .error _ => ""

/-- Taking the text of a value fails for one reason or succeeds with one text. -/
theorem result_eq (text : Rendering) (v : Value) :
    (text v).result = outcomeOf (text.faults v) (text.write v) := by
  unfold faults write
  cases (text v).result <;> rfl

/-- A value that has a text has no reason to fail. -/
theorem faults_eq_nil {text : Rendering} {v : Value} {s : String} (h : (text v).result = .ok s) :
    text.faults v = [] := by
  rw [faults, h]

end Rendering

namespace Value

/-- The text of an item of a row. -/
def itemText (item : Value) : String := item.text?.getD ""

/-- Everything in a row that counts as no text, with its place. -/
def rowFaults (first : Nat) : List Value → List Fault
  | [] => []
  | item :: rest =>
    if item.isText then rowFaults (first + 1) rest
    else .notText first item :: rowFaults (first + 1) rest

/-- A row can be joined exactly if all its items count as text. -/
theorem rowFaults_eq_nil {first : Nat} {row : List Value} :
    rowFaults first row = [] ↔ ∀ v ∈ row, v.isText = true := by
  induction row generalizing first with
  | nil => simp [rowFaults]
  | cons item rest ih =>
    rw [rowFaults]
    by_cases h : item.isText = true
    · simp [h, ih]
    · simp [h]

/-- The texts of a row, or the first item that is none with its place. -/
theorem textsFrom_eq (first : Nat) (row : List Value) :
    textsFrom first row = outcomeOf (rowFaults first row) (row.map itemText) := by
  induction row generalizing first with
  | nil => rfl
  | cons item rest ih =>
    rw [textsFrom, rowFaults, isText]
    cases hText : item.text? with
    | none => rfl
    | some s =>
      have hItem : item.itemText = s := by rw [itemText, hText]; rfl
      simp only [Option.isSome_some, if_true, List.map_cons, hItem, ih]
      cases rowFaults (first + 1) rest <;> rfl

end Value

open Value

namespace Clause

variable (text : Rendering)

/-- An alias that is there. -/
def named (name : Value) : List Value := if name.isTrue then [name] else []

/-- A condition that is there. -/
def present (body : Value) : List Value := if isAbsent body then [] else [body]

/-- An alias as it stands behind what it names. -/
def aliasLayout (write : Value → String) (name : Value) : String :=
  if name.isTrue then " AS " ++ write name else ""

/-- A clause with a condition for its body. -/
def conditionLayout (write : Value → String) (keyword : String) (body : Value) : String :=
  if isAbsent body then "" else " " ++ keyword ++ " " ++ write body

/-- A row of texts. -/
def rowLayout (row : List Value) : String := separator.intercalate (row.map itemText)

/-- **A row is joined, or fails at its first item that is no text.** -/
theorem outcome_list (row : List Value) :
    list row = outcomeOf (rowFaults 0 row) (rowLayout row) := by
  rw [list, joinedTexts, Value.texts, textsFrom_eq, map_outcomeOf]
  rfl

theorem outcome_listClause (keyword : String) (row : List Value) :
    listClause keyword row = outcomeOf (rowFaults 0 row) (optional keyword (rowLayout row)) := by
  rw [listClause, outcome_list, map_outcomeOf]

/-- A clause fails for the reasons of its body, if it has one. -/
theorem outcome_condition (keyword : String) (body : Value) :
    (condition text keyword body).result =
      outcomeOf ((present body).flatMap text.faults)
        (conditionLayout text.write keyword body) := by
  unfold condition present conditionLayout
  cases isAbsent body with
  | true => rfl
  | false =>
    have hFaults : [body].flatMap text.faults = text.faults body := by simp
    simp only [Bool.false_eq_true, if_false, hFaults]
    exact outcome_bind_ok (text.result_eq body) rfl

/-- An alias fails for the reasons of its name, if it has one. -/
theorem outcome_tableAlias (name : Value) :
    (tableAlias text name).result =
      outcomeOf ((named name).flatMap text.faults) (aliasLayout text.write name) := by
  unfold tableAlias named aliasLayout
  cases name.isTrue with
  | false => rfl
  | true =>
    have hFaults : [name].flatMap text.faults = text.faults name := by simp
    simp only [if_true, hFaults]
    exact outcome_bind_ok (text.result_eq name) rfl

end Clause

open Clause

/-! ## SELECT statements

For each kind: what is written of it, everything that cannot be written in the
order of writing, and the text around what is written.
-/

/-- What is written of a join. -/
def Join.written (join : Join) : List Value :=
  [join.table] ++ named join.tableAlias ++ [join.condition]

def Join.layout (write : Value → String) (join : Join) : String :=
  " " ++ join.kind.keyword ++ " JOIN " ++ write join.table ++ aliasLayout write join.tableAlias
    ++ " ON " ++ write join.condition

/-- A join fails for the reasons of what it writes, in the order in which it is written. -/
theorem Join.result_render (text : Rendering) (join : Join) :
    (join.render text).result =
      outcomeOf (join.written.flatMap text.faults) (join.layout text.write) := by
  have hWritten : join.written.flatMap text.faults =
      text.faults join.table ++ ((named join.tableAlias).flatMap text.faults ++
        text.faults join.condition) := by
    simp [written]
  rw [hWritten]
  refine outcome_bind (text.result_eq _) (outcome_bind (outcome_tableAlias text _) ?_)
  -- a kind always has a keyword
  exact outcome_bind_nil rfl (outcome_bind_ok (text.result_eq _) rfl)

def OrderTerm.layout (write : Value → String) (term : OrderTerm) : String :=
  write term.column ++ " " ++ term.direction.keyword

/-- A term of an ordering fails for the reasons of its column. -/
theorem OrderTerm.result_render (text : Rendering) (term : OrderTerm) :
    (term.render text).result =
      outcomeOf (text.faults term.column) (term.layout text.write) :=
  -- a direction always has a keyword
  outcome_bind_ok (text.result_eq term.column) rfl

namespace Select

/-- What is written in front of the grouping. -/
def before (s : Select) : List Value :=
  [s.table] ++ named s.tableAlias ++ s.joins.flatMap Join.written ++ present s.condition

/-- What is written behind the grouping. -/
def behind (s : Select) : List Value :=
  present s.groupCondition ++ s.orderTerms.map OrderTerm.column

def faults (text : Rendering) (s : Select) : List Fault :=
  rowFaults 0 s.columns ++ s.before.flatMap text.faults ++ rowFaults 0 s.groupColumns
    ++ s.behind.flatMap text.faults

def layout (write : Value → String) (s : Select) : String :=
  "SELECT " ++ columnText (rowLayout s.columns) ++ " FROM " ++ write s.table
    ++ aliasLayout write s.tableAlias ++ String.join (s.joins.map (Join.layout write))
    ++ conditionLayout write "WHERE" s.condition
    ++ optional "GROUP BY" (rowLayout s.groupColumns)
    ++ conditionLayout write "HAVING" s.groupCondition
    ++ optional "ORDER BY" (separator.intercalate (s.orderTerms.map (OrderTerm.layout write)))
    ++ countClause "LIMIT" s.limit ++ countClause "OFFSET" s.offset ++ terminator

/-- **What building a SELECT statement returns**: the first of its reasons to fail, or its layout.
-/
theorem result_render (text : Rendering) (s : Select) :
    (s.render text).result = outcomeOf (s.faults text) (s.layout text.write) := by
  have hFaults : s.faults text =
      rowFaults 0 s.columns ++ (text.faults s.table ++
        ((named s.tableAlias).flatMap text.faults ++
          (s.joins.flatMap (fun join => join.written.flatMap text.faults) ++
            ((present s.condition).flatMap text.faults ++ (rowFaults 0 s.groupColumns ++
              ((present s.groupCondition).flatMap text.faults ++
                s.orderTerms.flatMap fun term => text.faults term.column)))))) := by
    simp [faults, before, behind, List.flatMap_append, List.flatMap_assoc, List.flatMap_map]
  rw [hFaults]
  -- clause by clause, in the order in which they are written
  refine outcome_bind (outcome_list s.columns) ?_
  refine outcome_bind (text.result_eq s.table) ?_
  refine outcome_bind (outcome_tableAlias text s.tableAlias) ?_
  refine outcome_bind (outcome_each fun join _ => join.result_render text) ?_
  refine outcome_bind (outcome_condition text "WHERE" s.condition) ?_
  refine outcome_bind (outcome_listClause "GROUP BY" s.groupColumns) ?_
  refine outcome_bind (outcome_condition text "HAVING" s.groupCondition) ?_
  exact outcome_bind_ok (outcome_each fun term _ => term.result_render text) rfl

end Select

/-! ## INSERT statements -/

namespace Insert

/-- Lists that do not match are refused in the name of the table, which is written for it. -/
def faults (text : Rendering) (s : Insert) : List Fault :=
  if s.isAligned then
    if s.columns.isEmpty then text.faults s.table ++ [.noColumns (text.write s.table)]
    else text.faults s.table ++ rowFaults 0 s.columns ++ rowFaults 0 s.values
  else text.faults s.table ++ [.misaligned (text.write s.table) s.columns.length s.values.length]

def layout (write : Value → String) (s : Insert) : String :=
  "INSERT INTO " ++ write s.table ++ " (" ++ rowLayout s.columns ++ ") VALUES ("
    ++ rowLayout s.values ++ ")" ++ terminator

/-- **What building an INSERT statement returns.** -/
theorem result_render (text : Rendering) (s : Insert) :
    (s.render text).result = outcomeOf (s.faults text) (s.layout text.write) := by
  unfold render faults
  by_cases hAligned : s.isAligned = true
  · rw [requireAligned_of_isAligned text hAligned, pure_bind, if_pos hAligned]
    cases hEmpty : s.columns.isEmpty with
    | true => exact outcome_bind (text.result_eq s.table) rfl
    | false =>
      rw [if_neg Bool.false_ne_true, List.append_assoc]
      -- the report in front is no part of the result
      refine outcome_bind_nil rfl (outcome_bind (text.result_eq s.table) ?_)
      refine outcome_bind (outcome_list s.columns) ?_
      exact outcome_bind_ok (outcome_list s.values) rfl
  · rw [if_neg hAligned, result_bind, requireAligned, if_neg hAligned]
    -- the refusal is the last thing that happens
    have hRefused : (text s.table >>= fun table => (Logged.fail
        (.misaligned table s.columns.length s.values.length) : Logged Unit)).result =
        outcomeOf (text.faults s.table ++
          [.misaligned (text.write s.table) s.columns.length s.values.length]) () :=
      outcome_bind (text.result_eq s.table) rfl
    rw [hRefused]
    cases text.faults s.table <;> rfl

end Insert

/-! ## UPDATE statements -/

namespace Update

def written (s : Update) : List Value :=
  s.assignments.flatMap (fun entry => [entry.1, entry.2]) ++ [s.table] ++ present s.condition

/-- A statement without assignments is refused in the name of its table. -/
def faults (text : Rendering) (s : Update) : List Fault :=
  if s.assignments.isEmpty then text.faults s.table ++ [.noAssignments (text.write s.table)]
  else s.written.flatMap text.faults

def entryLayout (write : Value → String) (entry : Value × Value) : String :=
  write entry.1 ++ " = " ++ write entry.2

def layout (write : Value → String) (s : Update) : String :=
  "UPDATE " ++ write s.table ++ " SET "
    ++ separator.intercalate (s.assignments.map (entryLayout write))
    ++ conditionLayout write "WHERE" s.condition ++ terminator

/-- **What building an UPDATE statement returns.** -/
theorem result_render (text : Rendering) (s : Update) :
    (s.render text).result = outcomeOf (s.faults text) (s.layout text.write) := by
  unfold render faults
  cases hEmpty : s.assignments.isEmpty with
  | true => exact outcome_bind (text.result_eq s.table) rfl
  | false =>
    have hEntry : ∀ entry ∈ s.assignments, (assignment text entry.1 entry.2).result =
        outcomeOf (text.faults entry.1 ++ text.faults entry.2) (entryLayout text.write entry) :=
      fun entry _ => outcome_bind (text.result_eq _) (outcome_bind_ok (text.result_eq _) rfl)
    have hWritten : s.written.flatMap text.faults =
        s.assignments.flatMap (fun entry => text.faults entry.1 ++ text.faults entry.2) ++
          (text.faults s.table ++ (present s.condition).flatMap text.faults) := by
      simp [written, List.flatMap_append, List.flatMap_assoc]
    rw [if_neg Bool.false_ne_true, if_neg Bool.false_ne_true, hWritten]
    refine outcome_bind (outcome_each hEntry) (outcome_bind (text.result_eq s.table) ?_)
    exact outcome_bind_ok (outcome_condition text "WHERE" s.condition) rfl

end Update

/-! ## DELETE statements -/

namespace Delete

def written (s : Delete) : List Value := [s.table] ++ present s.condition

def faults (text : Rendering) (s : Delete) : List Fault := s.written.flatMap text.faults

def layout (write : Value → String) (s : Delete) : String :=
  "DELETE FROM " ++ write s.table ++ conditionLayout write "WHERE" s.condition ++ terminator

/-- **What building a DELETE statement returns.** -/
theorem result_render (text : Rendering) (s : Delete) :
    (s.render text).result = outcomeOf (s.faults text) (s.layout text.write) := by
  have hFaults : s.faults text =
      text.faults s.table ++ (present s.condition).flatMap text.faults := by
    simp [faults, written]
  rw [hFaults]
  refine outcome_bind_nil rfl (outcome_bind (text.result_eq s.table) ?_)
  exact outcome_bind_ok (outcome_condition text "WHERE" s.condition) rfl

end Delete

/-! ## Statements of any kind -/

namespace Statement

/-- What is written of a statement, in the order of writing. -/
def written : Statement → List Value
  | select s => s.before ++ s.behind
  | insert s => [s.table]
  | update s => s.written
  | delete s => s.written

/-- Everything that cannot be written, in the order of writing. -/
def faults (text : Rendering) : Statement → List Fault
  | select s => s.faults text
  | insert s => s.faults text
  | update s => s.faults text
  | delete s => s.faults text

/-- The text of a statement around what is written of its fragments. -/
def layout (write : Value → String) : Statement → String
  | select s => s.layout write
  | insert s => s.layout write
  | update s => s.layout write
  | delete s => s.layout write

/-- Writing a statement ends with the first of its faults, or with its text. -/
theorem result_render (text : Rendering) (s : Statement) :
    (s.render text).result = outcomeOf (s.faults text) (s.layout text.write) := by
  cases s with
  | select s => exact s.result_render text
  | insert s => exact s.result_render text
  | update s => exact s.result_render text
  | delete s => exact s.result_render text

/-- A call that builds a statement answers with what building it returns. -/
theorem result_build_eq_map (text : Rendering) (s : Statement) :
    (s.apply text .build).reply.result = (s.render text).result.map .built := by
  cases s <;> exact Answer.result_built _ _

/-- A call that builds a statement is answered with its text, or with the first of its faults. -/
theorem result_build (text : Rendering) (s : Statement) :
    (s.apply text .build).reply.result =
      outcomeOf (s.faults text) (.built (s.layout text.write)) := by
  rw [result_build_eq_map, result_render, map_outcomeOf]

/-- The text ends a statement, so it is not empty. -/
theorem layout_eq_append (write : Value → String) (s : Statement) :
    ∃ front, s.layout write = front ++ Clause.terminator := by
  cases s <;> exact ⟨_, rfl⟩

/-- What is built ends a statement. -/
theorem eq_append_of_render {text : Rendering} {s : Statement} {sql : String}
    (h : (s.render text).result = .ok sql) : ∃ front, sql = front ++ Clause.terminator := by
  rw [result_render, outcomeOf_eq_ok] at h
  rw [h.2]
  exact s.layout_eq_append text.write

end Statement

end SqlCompose
